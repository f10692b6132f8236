import StyleGuide.Component.Basic
import StyleGuide.Plan.Basic
import StyleGuide.Proofs.Record
import StyleGuide.Tailwind
import StyleGuide.Token.Collection

namespace StyleGuide

open Json (Entry Written)

namespace Json

def noNumber : DecodeError := .invalidType (.scalar .null) "f64"

theorem float_number {x : Float} (h : x.isFinite = true) : Decoder.float (number x) = .ok x := by
  rw [number, if_pos h]
  rfl

theorem float_number_error {x : Float} (h : x.isFinite = false) :
    Decoder.float (number x) = .error noNumber := by
  rw [number, if_neg (by simp [h])]
  rfl

theorem not_isFinite_of_isInf {x : Float} (h : x.isInf = true) : x.isFinite = false := by
  change x.toModel.unpack.isInf = true at h
  change x.toModel.unpack.isFinite = false
  cases hu : x.toModel.unpack with
  | infinity sign | notANumber => rfl
  | zero sign | finite sign mantissa exponent hm =>
    rw [hu] at h
    cases h

theorem number_of_isInf {x : Float} (h : x.isInf = true) : number x = .null := by
  rw [number, if_neg (by simp [not_isFinite_of_isInf h])]

def inside? (j : Json) : List String → Option Json
  | [] => some j
  | name :: names => (j.get? name).bind (inside? · names)

theorem get?_ofMap {α : Type} (f : α → Json) (m : OrderedMap α) (key : String) :
    (ofMap f m).get? key = (m.find? key).map f := lookup_map (fun _ => f) m.entries key

end Json

namespace Hsl

def components (c : Hsl) : List (String × Float) :=
  [("h", c.hue), ("s", c.saturation), ("l", c.lightness)]

def isFinite (c : Hsl) : Bool := c.components.all fun p => p.2.isFinite

theorem not_isFinite_of_component {c : Hsl} {p : String × Float} (hp : p ∈ c.components)
    (h : p.2.isInf = true) : c.isFinite = false :=
  List.all_eq_false.mpr ⟨p, hp, by simp [Json.not_isFinite_of_isInf h]⟩

theorem get?_component {c : Hsl} {p : String × Float} (hp : p ∈ c.components) :
    c.toJson.get? p.1 = some (.number p.2) := by
  simp only [components, List.mem_cons, List.not_mem_nil, or_false] at hp
  obtain rfl | rfl | rfl := hp <;> rfl

def asRecord (c : Hsl) : List Entry :=
  [⟨_, .required "h" Json.Decoder.float, c.hue⟩,
   ⟨_, .required "s" Json.Decoder.float, c.saturation⟩,
   ⟨_, .required "l" Json.Decoder.float, c.lightness⟩]

theorem nodup_asRecord (c : Hsl) : (c.asRecord.map Entry.name).Nodup := by
  simp [asRecord]

theorem decoder_toJson {c : Hsl} (h : c.isFinite = true) : decoder c.toJson = .ok c := by
  simp only [isFinite, components, List.all_eq_true, List.forall_mem_cons] at h
  obtain ⟨hh, hs, hl, -⟩ := h
  have hw : Written c.asRecord
      [("h", .number c.hue), ("s", .number c.saturation), ("l", .number c.lightness)] :=
    .given (Json.float_number hh)
      (.given (Json.float_number hs) (.given (Json.float_number hl) .nil))
  rw [decoder, toJson]
  refine Json.record_of_written hw c.nodup_asRecord fun hget => ?_
  simp only [asRecord, List.forall_mem_cons] at hget
  obtain ⟨hh, hs, hl, -⟩ := hget
  simp only [hh, hs, hl]
  rfl

theorem decoder_toJson_error {c : Hsl} (h : c.isFinite = false) :
    decoder c.toJson = .error Json.noNumber := by
  rw [decoder, toJson]
  cases hh : c.hue.isFinite with
  | false => exact Json.record_of_fault .nil c.nodup_asRecord (Json.float_number_error hh)
  | true =>
    have hhue := Json.float_number hh
    cases hs : c.saturation.isFinite with
    | false =>
      exact Json.record_of_fault (.given hhue .nil) c.nodup_asRecord (Json.float_number_error hs)
    | true =>
      have hsaturation := Json.float_number hs
      have hl : c.lightness.isFinite = false := by simpa [isFinite, components, hh, hs] using h
      exact Json.record_of_fault (.given hhue (.given hsaturation .nil)) c.nodup_asRecord
        (Json.float_number_error hl)

theorem option_toJson (c : Hsl) : decoder.option c.toJson = (decoder c.toJson).map some := rfl

end Hsl

theorem Category.decoder_toJson (c : Category) : decoder c.toJson = .ok c := by
  cases c <;> rfl

namespace Token

def isFinite (t : Token) : Bool := t.hsl.all Hsl.isFinite

def asRecord (t : Token) : List Entry :=
  [⟨_, .required "name" Json.Decoder.string, t.name⟩,
   ⟨_, .required "value" Json.Decoder.string, t.value⟩,
   ⟨_, .required "category" Category.decoder, t.category⟩,
   ⟨_, .withDefault "description" Json.Decoder.string "", t.description⟩,
   ⟨_, .optional "hsl" Hsl.decoder, t.hsl⟩]

theorem nodup_asRecord (t : Token) : (t.asRecord.map Entry.name).Nodup := by
  simp [asRecord]

theorem written {t : Token} (h : t.isFinite = true) : Written t.asRecord
    ([("name", .string t.name), ("value", .string t.value), ("category", t.category.toJson),
      ("description", .string t.description)] ++ Json.member? "hsl" Hsl.toJson t.hsl) := by
  have hhsl : ∀ c, t.hsl = some c → Hsl.decoder.option c.toJson = .ok (some c) := by
    intro c hc
    have hd := Hsl.decoder_toJson (c := c) (by simpa [isFinite, hc] using h)
    rw [Hsl.option_toJson, hd]
    rfl
  exact .given rfl (.given rfl (.given t.category.decoder_toJson (.given rfl (.optional hhsl))))

theorem decoder_toJson {t : Token} (h : t.isFinite = true) : decoder t.toJson = .ok t := by
  rw [decoder, toJson]
  refine Json.record_of_written (written h) t.nodup_asRecord fun hget => ?_
  simp only [asRecord, List.forall_mem_cons] at hget
  obtain ⟨hname, hvalue, hcategory, hdescription, hhsl, -⟩ := hget
  simp only [hname, hvalue, hcategory, hdescription, hhsl]
  rfl

theorem decoder_toJson_error {t : Token} (h : t.isFinite = false) :
    decoder t.toJson = .error Json.noNumber := by
  obtain ⟨name, value, category, description, _ | c⟩ := t
  · cases h
  · have hd : Hsl.decoder.option c.toJson = .error Json.noNumber := by
      rw [Hsl.option_toJson, Hsl.decoder_toJson_error h]
      rfl
    rw [decoder, toJson]
    exact Json.record_of_fault
      (.given rfl (.given rfl (.given category.decoder_toJson (.given rfl .nil))))
      (nodup_asRecord ⟨name, value, category, description, some c⟩) hd

end Token

namespace Collection

def isFinite (tokens : Collection) : Bool :=
  (tokens.light.values ++ tokens.dark.values).all Token.isFinite

def asRecord (tokens : Collection) : List Entry :=
  [⟨_, .required "light" (Json.Decoder.map Token.decoder), tokens.light⟩,
   ⟨_, .required "dark" (Json.Decoder.map Token.decoder), tokens.dark⟩,
   ⟨_, .required "categories" (Json.Decoder.list Category.decoder), tokens.categories⟩,
   ⟨_, .required "generatedAt" Json.Decoder.string, tokens.generatedAt⟩]

theorem nodup_asRecord (tokens : Collection) : (tokens.asRecord.map Entry.name).Nodup := by
  simp [asRecord]

end Collection

theorem Theme.decoder_ofMap {theme : Theme} (h : theme.values.all Token.isFinite = true) :
    Json.Decoder.map Token.decoder (.ofMap Token.toJson theme) = .ok theme :=
  Json.map_ofMap fun t ht => Token.decoder_toJson (List.all_eq_true.mp h t ht)

theorem Theme.decoder_ofMap_error {theme : Theme} (h : theme.values.all Token.isFinite = false) :
    Json.Decoder.map Token.decoder (.ofMap Token.toJson theme) = .error Json.noNumber := by
  obtain ⟨t, ht, hf⟩ := List.all_eq_false.mp h
  refine Json.map_ofMap_error (fun t _ => ?_)
    ⟨t, ht, Token.decoder_toJson_error (Bool.eq_false_iff.mpr hf)⟩
  cases hf : t.isFinite with
  | true => exact .inl (Token.decoder_toJson hf)
  | false => exact .inr (Token.decoder_toJson_error hf)

namespace Collection

theorem decoder_toJson {tokens : Collection} (h : tokens.isFinite = true) :
    decoder tokens.toJson = .ok tokens := by
  rw [isFinite, List.all_append, Bool.and_eq_true] at h
  obtain ⟨hl, hd⟩ := h
  have hcategories : Json.Decoder.list Category.decoder
      (.array (tokens.categories.map Category.toJson)) = .ok tokens.categories :=
    Json.list_map fun c _ => c.decoder_toJson
  have hw : Written tokens.asRecord
      [("light", .ofMap Token.toJson tokens.light), ("dark", .ofMap Token.toJson tokens.dark),
       ("categories", .array (tokens.categories.map Category.toJson)),
       ("generatedAt", .string tokens.generatedAt)] :=
    .given (Theme.decoder_ofMap hl) (.given (Theme.decoder_ofMap hd)
      (.given hcategories (.given rfl .nil)))
  rw [decoder, toJson]
  refine Json.record_of_written hw tokens.nodup_asRecord fun hget => ?_
  simp only [asRecord, List.forall_mem_cons] at hget
  obtain ⟨hlight, hdark, hcategories, hgeneratedAt, -⟩ := hget
  simp only [hlight, hdark, hcategories, hgeneratedAt]
  rfl

theorem decoder_toJson_error {tokens : Collection} (h : tokens.isFinite = false) :
    decoder tokens.toJson = .error Json.noNumber := by
  rw [isFinite, List.all_append] at h
  rw [decoder, toJson]
  cases hl : tokens.light.values.all Token.isFinite with
  | false =>
    exact Json.record_of_fault .nil tokens.nodup_asRecord (Theme.decoder_ofMap_error hl)
  | true =>
    have hd : tokens.dark.values.all Token.isFinite = false := by simpa [hl] using h
    exact Json.record_of_fault (.given (Theme.decoder_ofMap hl) .nil) tokens.nodup_asRecord
      (Theme.decoder_ofMap_error hd)

end Collection

namespace Component

namespace Property

def asRecord (p : Property) : List Entry :=
  [⟨_, .required "name" Json.Decoder.string, p.name⟩,
   ⟨_, .required "type" Json.Decoder.string, p.type⟩,
   ⟨_, .required "required" Json.Decoder.bool, p.required⟩,
   ⟨_, .optional "description" Json.Decoder.string, p.description⟩]

theorem nodup_asRecord (p : Property) : (p.asRecord.map Entry.name).Nodup := by
  simp [asRecord]

theorem decoder_toJson (p : Property) : decoder p.toJson = .ok p := by
  have hw : Written p.asRecord
      ([("name", .string p.name), ("type", .string p.type), ("required", .bool p.required)] ++
        Json.member? "description" .string p.description) :=
    .given rfl (.given rfl (.given rfl (.optional fun _ _ => rfl)))
  rw [decoder, toJson]
  refine Json.record_of_written hw p.nodup_asRecord fun hget => ?_
  simp only [asRecord, List.forall_mem_cons] at hget
  obtain ⟨hname, htype, hrequired, hdescription, -⟩ := hget
  simp only [hname, htype, hrequired, hdescription]
  rfl

end Property

namespace Info

def asRecord (i : Info) : List Entry :=
  [⟨_, .required "name" Json.Decoder.string, i.name⟩,
   ⟨_, .required "path" Json.Decoder.string, i.path⟩,
   ⟨_, .required "description" Json.Decoder.string, i.description⟩,
   ⟨_, .required "variants" (Json.Decoder.list Json.Decoder.string), i.variants⟩,
   ⟨_, .required "hasStories" Json.Decoder.bool, i.hasStories⟩,
   ⟨_, .required "hasTypes" Json.Decoder.bool, i.hasTypes⟩,
   ⟨_, .required "dependencies" (Json.Decoder.list Json.Decoder.string), i.dependencies⟩,
   ⟨_, .required "props" (Json.Decoder.list Property.decoder), i.props⟩]

theorem nodup_asRecord (i : Info) : (i.asRecord.map Entry.name).Nodup := by
  simp [asRecord]

theorem decoder_toJson (i : Info) : decoder i.toJson = .ok i := by
  have hprops : Json.Decoder.list Property.decoder (.array (i.props.map Property.toJson)) =
      .ok i.props := Json.list_map fun p _ => p.decoder_toJson
  have hw : Written i.asRecord
      [("name", .string i.name), ("path", .string i.path), ("description", .string i.description),
       ("variants", .strings i.variants), ("hasStories", .bool i.hasStories),
       ("hasTypes", .bool i.hasTypes), ("dependencies", .strings i.dependencies),
       ("props", .array (i.props.map Property.toJson))] :=
    .given rfl (.given rfl (.given rfl (.given (Json.list_strings _) (.given rfl (.given rfl
      (.given (Json.list_strings _) (.given hprops .nil)))))))
  rw [decoder, toJson]
  refine Json.record_of_written hw i.nodup_asRecord fun hget => ?_
  simp only [asRecord, List.forall_mem_cons] at hget
  obtain ⟨hname, hpath, hdescription, hvariants, hstories, htypes, hdependencies, hprops, -⟩ := hget
  simp only [hname, hpath, hdescription, hvariants, hstories, htypes, hdependencies, hprops]
  rfl

end Info

namespace Code

def asRecord (c : Code) : List Entry :=
  [⟨_, .required "tsx" Json.Decoder.string, c.main⟩,
   ⟨_, .optional "index" Json.Decoder.string, c.index⟩,
   ⟨_, .optional "stories" Json.Decoder.string, c.stories⟩,
   ⟨_, .optional "types" Json.Decoder.string, c.types⟩]

theorem nodup_asRecord (c : Code) : (c.asRecord.map Entry.name).Nodup := by
  simp [asRecord]

theorem decoder_toJson (c : Code) : decoder c.toJson = .ok c := by
  have hw : Written c.asRecord
      (("tsx", .string c.main) :: (Json.member? "index" .string c.index ++
        (Json.member? "stories" .string c.stories ++ Json.member? "types" .string c.types))) :=
    .given rfl (.optional_append (fun _ _ => rfl) (.optional_append (fun _ _ => rfl)
      (.optional fun _ _ => rfl)))
  rw [decoder, toJson, List.append_assoc]
  refine Json.record_of_written hw c.nodup_asRecord fun hget => ?_
  simp only [asRecord, List.forall_mem_cons] at hget
  obtain ⟨hmain, hindex, hstories, htypes, -⟩ := hget
  simp only [hmain, hindex, hstories, htypes]
  rfl

end Code

end Component

namespace Tailwind

def asRecord (t : Tailwind) : List Entry :=
  [⟨_, .required "colors" (Json.Decoder.map Json.Decoder.string), t.colors⟩,
   ⟨_, .required "spacing" (Json.Decoder.map Json.Decoder.string), t.spacing⟩,
   ⟨_, .required "borderRadius" (Json.Decoder.map Json.Decoder.string), t.borderRadius⟩,
   ⟨_, .required "animation" (Json.Decoder.map Json.Decoder.string), t.animation⟩,
   ⟨_, .required "keyframes" (Json.Decoder.map Json.Decoder.string), t.keyframes⟩]

theorem nodup_asRecord (t : Tailwind) : (t.asRecord.map Entry.name).Nodup := by
  simp [asRecord]

theorem decoder_toJson (t : Tailwind) : decoder t.toJson = .ok t := by
  have hmap : ∀ m : OrderedMap String,
      Json.Decoder.map Json.Decoder.string (.ofMap .string m) = .ok m :=
    fun m => Json.map_ofMap fun _ _ => rfl
  have hw : Written t.asRecord
      [("colors", .ofMap .string t.colors), ("spacing", .ofMap .string t.spacing),
       ("borderRadius", .ofMap .string t.borderRadius), ("animation", .ofMap .string t.animation),
       ("keyframes", .ofMap .string t.keyframes)] :=
    .given (hmap _) (.given (hmap _) (.given (hmap _) (.given (hmap _) (.given (hmap _) .nil))))
  rw [decoder, toJson]
  refine Json.record_of_written hw t.nodup_asRecord fun hget => ?_
  simp only [asRecord, List.forall_mem_cons] at hget
  obtain ⟨hcolors, hspacing, hradius, hanimation, hkeyframes, -⟩ := hget
  simp only [hcolors, hspacing, hradius, hanimation, hkeyframes]
  rfl

end Tailwind

namespace Plan

theorem Action.decoder_name (a : Action) :
    Json.Decoder.oneOf Action.named (.string a.name) = .ok a := by
  cases a <;> rfl

namespace OutputFile

def asRecord (f : OutputFile) : List Entry :=
  [⟨_, .required "path" Json.Decoder.string, f.path⟩,
   ⟨_, .required "content" Json.Decoder.string, f.content⟩,
   ⟨_, .required "action" (Json.Decoder.oneOf Action.named), f.action⟩]

theorem nodup_asRecord (f : OutputFile) : (f.asRecord.map Entry.name).Nodup := by
  simp [asRecord]

theorem decoder_toJson (f : OutputFile) : decoder f.toJson = .ok f := by
  have hw : Written f.asRecord
      [("path", .string f.path), ("content", .string f.content),
       ("action", .string f.action.name)] :=
    .given rfl (.given rfl (.given f.action.decoder_name .nil))
  rw [decoder, toJson]
  refine Json.record_of_written hw f.nodup_asRecord fun hget => ?_
  simp only [asRecord, List.forall_mem_cons] at hget
  obtain ⟨hpath, hcontent, haction, -⟩ := hget
  simp only [hpath, hcontent, haction]
  rfl

end OutputFile

namespace Outcome

def asRecord (o : Outcome) : List Entry :=
  [⟨_, .required "success" Json.Decoder.bool, o.success⟩,
   ⟨_, .required "message" Json.Decoder.string, o.message⟩,
   ⟨_, .required "files" (Json.Decoder.list OutputFile.decoder), o.files⟩,
   ⟨_, .required "instructions" (Json.Decoder.list Json.Decoder.string), o.instructions⟩,
   ⟨_, .required "dependencies" (Json.Decoder.list Json.Decoder.string), o.dependencies⟩]

theorem nodup_asRecord (o : Outcome) : (o.asRecord.map Entry.name).Nodup := by
  simp [asRecord]

theorem decoder_toJson (o : Outcome) : decoder o.toJson = .ok o := by
  have hfiles : Json.Decoder.list OutputFile.decoder (.array (o.files.map OutputFile.toJson)) =
      .ok o.files := Json.list_map fun f _ => f.decoder_toJson
  have hw : Written o.asRecord
      [("success", .bool o.success), ("message", .string o.message),
       ("files", .array (o.files.map OutputFile.toJson)), ("instructions", .strings o.instructions),
       ("dependencies", .strings o.dependencies)] :=
    .given rfl (.given rfl (.given hfiles
      (.given (Json.list_strings _) (.given (Json.list_strings _) .nil))))
  rw [decoder, toJson]
  refine Json.record_of_written hw o.nodup_asRecord fun hget => ?_
  simp only [asRecord, List.forall_mem_cons] at hget
  obtain ⟨hsuccess, hmessage, hfiles, hinstructions, hdependencies, -⟩ := hget
  simp only [hsuccess, hmessage, hfiles, hinstructions, hdependencies]
  rfl

end Outcome

end Plan

theorem Token.hsl_ofDeclaration (name value : String) :
    (ofDeclaration name value).hsl = Hsl.ofValue? value := rfl

theorem Token.inside_hsl {t : Token} {c : Hsl} (ht : t.hsl = some c) (names : List String) :
    t.toJson.inside? ("hsl" :: names) = c.toJson.inside? names := by
  have hget : t.toJson.get? "hsl" = some c.toJson := by
    rw [toJson, ht]
    rfl
  rw [Json.inside?, hget]
  rfl

theorem Token.infinite {t : Token} {c : Hsl} (ht : t.hsl = some c) {p : String × Float}
    (hp : p ∈ c.components) (h : p.2.isInf = true) :
    t.toJson.inside? ["hsl", p.1] = some .null ∧ t.isFinite = false := by
  constructor
  · rw [inside_hsl ht, Json.inside?, Hsl.get?_component hp, Json.number_of_isInf h]
    rfl
  · simpa [isFinite, ht] using Hsl.not_isFinite_of_component hp h

namespace Collection

def themes (tokens : Collection) : List (String × Theme) :=
  [("light", tokens.light), ("dark", tokens.dark)]

theorem inside_theme {tokens : Collection} {theme : String × Theme} (hm : theme ∈ tokens.themes)
    {key : String} {t : Token} (ht : theme.2.find? key = some t) (names : List String) :
    tokens.toJson.inside? (theme.1 :: key :: names) = t.toJson.inside? names := by
  have hget : tokens.toJson.get? theme.1 = some (.ofMap Token.toJson theme.2) := by
    simp only [themes, List.mem_cons, List.not_mem_nil, or_false] at hm
    obtain rfl | rfl := hm <;> rfl
  rw [Json.inside?, hget, Option.bind_some, Json.inside?, Json.get?_ofMap, ht]
  rfl

theorem not_isFinite_of_token {tokens : Collection} {theme : String × Theme}
    (hm : theme ∈ tokens.themes) {key : String} {t : Token} (ht : theme.2.find? key = some t)
    (h : t.isFinite = false) : tokens.isFinite = false := by
  have hvalue : t ∈ theme.2.values := List.mem_map_of_mem (mem_of_lookup ht)
  refine List.all_eq_false.mpr ⟨t, List.mem_append.mpr ?_, by simp [h]⟩
  simp only [themes, List.mem_cons, List.not_mem_nil, or_false] at hm
  obtain rfl | rfl := hm
  · exact .inl hvalue
  · exact .inr hvalue

end Collection

/-- A hue of 310 digits, which no binary number reaches. -/
def boundless : List Char := '1' :: List.replicate 309 '0' ++ " 0% 0%".toList

theorem Hsl.ofValue?_ofList (cs : List Char) : ofValue? (.ofList cs) = (do
    let (h, s, l) ← numerals? cs
    return ⟨← Decimal.read? h.text, ← Decimal.read? s.text, ← Decimal.read? l.text⟩) := by
  rw [ofValue?, String.toList_ofList]

theorem Hsl.ofValue?_boundless :
    ∃ c, ofValue? (.ofList boundless) = some c ∧ c.hue.isInf = true := by
  rw [ofValue?_ofList]
  exact (Option.any_eq_true _ _).mp (by decide +kernel)

/-- What is written for a client is read back as it was, if all colours in it are of finite numbers.
A stylesheet can have others; they are written as null and not read. -/
theorem decodes_what_it_encodes :
    ((∀ t : Token, t.isFinite = true → Token.decoder t.toJson = .ok t) ∧
      (∀ tokens : Collection, tokens.isFinite = true →
        Collection.decoder tokens.toJson = .ok tokens) ∧
      (∀ i : Component.Info, Component.Info.decoder i.toJson = .ok i) ∧
      (∀ c : Component.Code, Component.Code.decoder c.toJson = .ok c) ∧
      (∀ t : Tailwind, Tailwind.decoder t.toJson = .ok t) ∧
      ∀ o : Plan.Outcome, Plan.Outcome.decoder o.toJson = .ok o) ∧
    (∀ (t : Token) (c : Hsl), t.hsl = some c → ∀ p ∈ c.components, p.2.isInf = true →
      t.toJson.inside? ["hsl", p.1] = some .null ∧
        Token.decoder t.toJson = .error Json.noNumber) ∧
    (∀ (tokens : Collection), ∀ theme ∈ tokens.themes, ∀ (key : String) (t : Token) (c : Hsl),
      theme.2.find? key = some t → t.hsl = some c → ∀ p ∈ c.components, p.2.isInf = true →
        tokens.toJson.inside? [theme.1, key, "hsl", p.1] = some .null ∧
          Collection.decoder tokens.toJson = .error Json.noNumber) ∧
    ∃ (value : String) (c : Hsl), Hsl.ofValue? value = some c ∧
      ∃ p ∈ c.components, p.2.isInf = true := by
  refine ⟨⟨?_, ?_, ?_, ?_, ?_, ?_⟩, ?_, ?_, ?_⟩
  · exact fun t => Token.decoder_toJson
  · exact fun tokens => Collection.decoder_toJson
  · exact Component.Info.decoder_toJson
  · exact Component.Code.decoder_toJson
  · exact Tailwind.decoder_toJson
  · exact Plan.Outcome.decoder_toJson
  · intro t c ht p hp h
    obtain ⟨hnull, hinfinite⟩ := Token.infinite ht hp h
    exact ⟨hnull, Token.decoder_toJson_error hinfinite⟩
  · intro tokens theme hm key t c ht hc p hp h
    obtain ⟨hnull, hinfinite⟩ := Token.infinite hc hp h
    refine ⟨?_, Collection.decoder_toJson_error (Collection.not_isFinite_of_token hm ht hinfinite)⟩
    rw [Collection.inside_theme hm ht, hnull]
  · obtain ⟨c, hc, h⟩ := Hsl.ofValue?_boundless
    exact ⟨_, c, hc, ("h", c.hue), List.mem_cons_self, h⟩

def lamp : Token := .ofDeclaration "primary" "217 91% 60%"

def glow : Token := .ofDeclaration "glow" (.ofList boundless)

def room (dark : Theme) : Collection := ⟨⟨[("primary", lamp)], by decide⟩, dark, [.color], "now"⟩

theorem decodes_what_it_encodes_boundless :
    let night : Theme := ⟨[("glow", glow)], by decide⟩
    (lamp.isFinite = true ∧ Token.decoder lamp.toJson = .ok lamp) ∧
    ((room .empty).isFinite = true ∧
      Collection.decoder (room .empty).toJson = .ok (room .empty)) ∧
    ∃ c : Hsl, glow.hsl = some c ∧ ("h", c.hue) ∈ c.components ∧ c.hue.isInf = true ∧
      ("dark", night) ∈ (room night).themes ∧ night.find? "glow" = some glow ∧
      glow.toJson.inside? ["hsl", "h"] = some .null ∧
      Token.decoder glow.toJson = .error Json.noNumber ∧
      (room night).toJson.inside? ["dark", "glow", "hsl", "h"] = some .null ∧
      Collection.decoder (room night).toJson = .error Json.noNumber := by
  intro night
  obtain ⟨⟨htoken, hcollection, -⟩, hnull, hinside, -⟩ := decodes_what_it_encodes
  have hlamp : lamp.isFinite = true := by decide +kernel
  have hroom : (room .empty).isFinite = true := by decide +kernel
  obtain ⟨c, hc, hinf⟩ := Hsl.ofValue?_boundless
  have hglow : glow.hsl = some c := by rw [glow, Token.hsl_ofDeclaration, hc]
  have hhue : ("h", c.hue) ∈ c.components := List.mem_cons_self
  have hnight : ("dark", night) ∈ (room night).themes := List.mem_cons_of_mem _ List.mem_cons_self
  obtain ⟨ht, htd⟩ := hnull glow c hglow _ hhue hinf
  obtain ⟨hr, hrd⟩ := hinside (room night) _ hnight "glow" glow c rfl hglow _ hhue hinf
  exact ⟨⟨hlamp, htoken lamp hlamp⟩, ⟨hroom, hcollection _ hroom⟩, c, hglow, hhue, hinf, hnight,
    rfl, ht, htd, hr, hrd⟩

end StyleGuide
