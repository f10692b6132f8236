import Mathlib.Data.List.Induction
import Mathlib.Data.List.Infix
import StyleGuide.Proofs.Occurrence
import StyleGuide.Proofs.Stylesheet

namespace StyleGuide

theorem OrderedMap.keys_ofList {α : Type} (es : List (String × α)) :
    (ofList es).keys = (es.map Prod.fst).eraseDups := by
  induction es using List.reverseRecOn with
  | nil => rfl
  | append_singleton es e ih =>
    have hlast : ofList (es ++ [e]) = (ofList es).insert e.1 e.2 := List.foldl_append
    rw [hlast, keys_insert, ih, List.map_append, List.map_singleton, eraseDups_concat]
    simp only [List.mem_eraseDups]

namespace Text

theorem mem_dropWhile {c : Char} {p : Char → Bool} {cs : List Char} (h : c ∈ cs)
    (hc : p c = false) :
    c ∈ cs.dropWhile p := by
  rw [← List.takeWhile_append_dropWhile (p := p) (l := cs)] at h
  obtain h | h := List.mem_append.mp h
  · rw [List.all_eq_true.mp List.all_takeWhile c h] at hc
    cases hc
  · exact h

theorem mem_trim {c : Char} {cs : List Char} (h : c ∈ cs) (hc : isBlank c = false) : c ∈ trim cs :=
  List.mem_reverse.mpr (mem_dropWhile (List.mem_reverse.mpr (mem_dropWhile h hc)) hc)

end Text

open Text

/-- A declaration as it stands in a block: blanks, a name, and all that there is between the colon
and the semicolon. A custom property has two dashes before its name. -/
structure Declaration where
  gap : String
  isCustom : Bool
  name : String
  value : String

namespace Declaration

def dashes : List Char := ['-', '-']

def property (d : Declaration) : List Char :=
  if d.isCustom then dashes ++ d.name.toList else d.name.toList

def text (d : Declaration) : String :=
  d.gap ++ (if d.isCustom then "--" else "") ++ d.name ++ ":" ++ d.value ++ ";"

/-- No part of a declaration has in it what ends it, or a brace, and of the names only those of
custom properties have two dashes before them. -/
structure WellFormed (d : Declaration) : Prop where
  gap_blank : ∀ c ∈ d.gap.toList, isBlank c = true
  name_nonempty : d.name ≠ ""
  name_plain : ∀ c ∈ d.name.toList, isBlank c = false ∧ c ≠ ':' ∧ c ≠ ';' ∧ c ≠ '{' ∧ c ≠ '}'
  value_nonempty : d.value ≠ ""
  value_plain : ∀ c ∈ d.value.toList, c ≠ ';' ∧ c ≠ '{' ∧ c ≠ '}'
  ordinary : d.isCustom = false → ¬ dashes <+: d.name.toList

instance (d : Declaration) : Decidable d.WellFormed :=
  decidable_of_iff ((∀ c ∈ d.gap.toList, isBlank c = true) ∧ d.name ≠ "" ∧
    (∀ c ∈ d.name.toList, isBlank c = false ∧ c ≠ ':' ∧ c ≠ ';' ∧ c ≠ '{' ∧ c ≠ '}') ∧
    d.value ≠ "" ∧
    (∀ c ∈ d.value.toList, c ≠ ';' ∧ c ≠ '{' ∧ c ≠ '}') ∧
    (d.isCustom = false → ¬ dashes <+: d.name.toList))
    ⟨fun ⟨hg, hn, hnp, hv, hvp, ho⟩ => ⟨hg, hn, hnp, hv, hvp, ho⟩,
      fun h => ⟨h.gap_blank, h.name_nonempty, h.name_plain, h.value_nonempty, h.value_plain,
        h.ordinary⟩⟩

def customs (ds : List Declaration) : List (String × String) :=
  (ds.filter (·.isCustom)).map fun d => (d.name, .ofList (trim d.value.toList))

/-- Two dashes stand in custom properties only. The value of the last declaration may have them if
it has no colon: there is nothing left that could be taken for the end of a name. -/
def Undisturbed : List Declaration → Prop
  | [] => True
  | d :: ds => (d.isCustom = false → ¬ dashes <:+: d.name.toList ∧
      (dashes <:+: d.value.toList → ds = [] ∧ ':' ∉ d.value.toList)) ∧ Undisturbed ds

end Declaration

namespace Theme

open Declaration (dashes)

theorem matchAll_of_ne {cs : List Char} (h : ∀ c ∈ cs, c ≠ '-') (rest : List Char) :
    matchAll declaration? (cs ++ rest) = matchAll declaration? rest := by
  induction cs with
  | nil => rfl
  | cons c cs ih =>
    rw [List.cons_append, matchAll_cons_of_none (declaration?_of_ne (h c (.head _))),
      ih fun d hd => h d (.tail _ hd)]

theorem declaration?_of_not_prefix {cs : List Char} (h : ¬ dashes <+: cs) :
    declaration? cs = none := by
  cases ha : after? dashes cs with
  | some rest => exact absurd ⟨rest, after?_eq_some_iff.mp ha⟩ h
  | none =>
    rw [declaration?]
    exact congrArg (· >>= _) ha

theorem not_prefix_append {c mark : Char} {cs : List Char} (h : ¬ dashes <+: c :: cs)
    (hmark : mark ≠ '-') (rest : List Char) : ¬ dashes <+: c :: (cs ++ mark :: rest) := by
  intro hp
  obtain ⟨hc, hp⟩ := List.cons_prefix_cons.mp hp
  cases cs with
  | nil => exact hmark (List.cons_prefix_cons.mp hp).1.symm
  | cons d cs =>
    obtain ⟨hd, -⟩ := List.cons_prefix_cons.mp hp
    exact h ⟨cs, by rw [← hc, ← hd]; rfl⟩

theorem matchAll_of_no_dashes {cs : List Char} {mark : Char} (h : ¬ dashes <:+: cs)
    (hmark : mark ≠ '-') (rest : List Char) :
    matchAll declaration? (cs ++ mark :: rest) = matchAll declaration? rest := by
  induction cs with
  | nil => exact matchAll_cons_of_none (declaration?_of_ne hmark)
  | cons c cs ih =>
    obtain ⟨hstart, hcs⟩ := not_or.mp (mt List.infix_cons_iff.mpr h)
    have hnone := declaration?_of_not_prefix (not_prefix_append hstart hmark rest)
    rw [List.cons_append, matchAll_cons_of_none hnone, ih hcs]

/-- Two dashes before a semicolon begin a name that takes it in if there is no colon before it. -/
theorem exists_semicolon_mem {cs name value : List Char} (h : dashes <:+: cs) (hcs : ':' ∉ cs)
    (hname : ':' ∉ name) (hvalue : value ≠ []) (hplain : ';' ∉ value) (rest : List Char) :
    ∃ e ∈ matchAll declaration? (cs ++ ';' :: (name ++ ':' :: (value ++ ';' :: rest))),
      ';' ∈ e.1 := by
  induction cs with
  | nil => cases List.infix_nil.mp h
  | cons c cs ih =>
    by_cases hstart : dashes <+: c :: cs
    · -- A name begins here, and the first colon that ends it is the one after the next name.
      obtain ⟨t, ht⟩ := hstart
      have hcolon : ∀ x ∈ t ++ ';' :: name, x ≠ ':' := by
        rintro x hx rfl
        obtain hx | hx := List.mem_append.mp hx
        · exact hcs (ht ▸ List.mem_append_right dashes hx)
        · exact hname ((List.mem_cons.mp hx).resolve_left (by decide))
      have hd : declaration? ('-' :: '-' :: (t ++ ';' :: name ++ ':' :: (value ++ ';' :: rest))) =
          some ((trim (t ++ ';' :: name), trim value), rest) :=
        declaration?_append (by simp) hvalue hcolon fun x hx he => hplain (he ▸ hx)
      have hsplit : c :: cs ++ ';' :: (name ++ ':' :: (value ++ ';' :: rest)) =
          '-' :: '-' :: (t ++ ';' :: name ++ ':' :: (value ++ ';' :: rest)) := by
        rw [← ht]
        simp [dashes]
      rw [hsplit, matchAll_cons_of_some hd (by simp; omega)]
      exact ⟨_, .head _, mem_trim (List.mem_append_right t (.head _)) (by decide)⟩
    · have hmark : ';' ≠ '-' := by decide
      have hnone := declaration?_of_not_prefix (not_prefix_append hstart hmark
        (name ++ ':' :: (value ++ ';' :: rest)))
      rw [List.cons_append, matchAll_cons_of_none hnone]
      exact ih ((List.infix_cons_iff.mp h).resolve_left hstart) fun hm => hcs (.tail _ hm)

theorem colon_mem_of_declaration? {cs : List Char} {d} (h : declaration? cs = some d) :
    ':' ∈ cs := by
  obtain ⟨a, ha, h⟩ := Option.bind_eq_some_iff.mp h
  obtain ⟨⟨name, b⟩, hb, h⟩ := Option.bind_eq_some_iff.mp h
  obtain ⟨c, hc, -⟩ := Option.bind_eq_some_iff.mp h
  obtain ⟨-, hname, -⟩ := run?_eq_some_iff.mp hb
  rw [← after?_eq_some_iff.mp ha, ← hname, ← char?_eq_some_iff.mp hc]
  simp

theorem matchAll_of_no_colon {cs : List Char} (h : ':' ∉ cs) : matchAll declaration? cs = [] := by
  induction cs with
  | nil => rw [matchAll]
  | cons c cs ih =>
    have hnone : declaration? (c :: cs) = none :=
      Option.eq_none_iff_forall_ne_some.mpr fun d hd => h (colon_mem_of_declaration? hd)
    rw [matchAll_cons_of_none hnone]
    exact ih fun hm => h (.tail _ hm)

end Theme

namespace Declaration

open Theme

variable {d : Declaration} {ds : List Declaration}

def chars (d : Declaration) : List Char :=
  d.gap.toList ++ (d.property ++ ':' :: (d.value.toList ++ [';']))

theorem toList_text (d : Declaration) : d.text.toList = d.chars := by
  cases h : d.isCustom <;> simp [text, chars, property, dashes, h]

theorem WellFormed.trim_name (h : d.WellFormed) : trim d.name.toList = d.name.toList :=
  trim_eq_self ⟨fun c hc => (h.name_plain c (List.mem_of_head? hc)).1,
    fun c hc => (h.name_plain c (List.mem_of_getLast? hc)).1⟩

theorem WellFormed.gap_ne (h : d.WellFormed) : ∀ c ∈ d.gap.toList, c ≠ '-' := by
  rintro c hc rfl
  exact absurd (h.gap_blank _ hc) (by decide)

theorem WellFormed.value_ne (h : d.WellFormed) : d.value.toList ≠ [] :=
  fun he => h.value_nonempty (String.toList_eq_nil_iff.mp he)

theorem WellFormed.colon_not_mem (h : d.WellFormed) : ':' ∉ d.gap.toList ++ d.property := by
  have hname : ':' ∉ d.name.toList := fun hm => (h.name_plain _ hm).2.1 rfl
  intro hm
  obtain hm | hm := List.mem_append.mp hm
  · exact absurd (h.gap_blank _ hm) (by decide)
  · cases hc : d.isCustom with
    | true => exact hname (by simpa [property, dashes, hc] using hm)
    | false => exact hname (by simpa [property, hc] using hm)

theorem matchAll_custom (h : d.WellFormed) (hc : d.isCustom = true) (rest : List Char) :
    matchAll declaration? (d.chars ++ rest) =
      (d.name.toList, trim d.value.toList) :: matchAll declaration? rest := by
  have hn : d.name.toList ≠ [] := fun he => h.name_nonempty (String.toList_eq_nil_iff.mp he)
  have hd : declaration? ('-' :: '-' :: (d.name.toList ++ ':' :: (d.value.toList ++ ';' :: rest))) =
      some ((d.name.toList, trim d.value.toList), rest) := by
    rw [declaration?_append hn h.value_ne (fun c hc => (h.name_plain c hc).2.1)
      fun c hc => (h.value_plain c hc).1, h.trim_name]
  have hsplit : d.chars ++ rest = d.gap.toList ++ ('-' :: '-' :: (d.name.toList ++ ':' ::
      (d.value.toList ++ ';' :: rest))) := by
    simp [chars, property, dashes, hc]
  rw [hsplit, matchAll_of_ne h.gap_ne, matchAll_cons_of_some hd (by simp; omega)]

theorem matchAll_ordinary (h : d.WellFormed) (hc : d.isCustom = false)
    (hn : ¬ dashes <:+: d.name.toList) (rest : List Char) :
    matchAll declaration? (d.chars ++ rest) =
      matchAll declaration? (d.value.toList ++ ';' :: rest) := by
  have hsplit : d.chars ++ rest = d.gap.toList ++ (d.name.toList ++ ':' ::
      (d.value.toList ++ ';' :: rest)) := by
    simp [chars, property, hc]
  rw [hsplit, matchAll_of_ne h.gap_ne, matchAll_of_no_dashes hn (by decide)]

theorem matchAll_block (h : ∀ d ∈ ds, d.WellFormed) (hd : Undisturbed ds) {blanks : List Char}
    (hb : ∀ c ∈ blanks, isBlank c = true) :
    (matchAll declaration? (ds.flatMap chars ++ blanks)).map
      (fun d => (String.ofList d.1, String.ofList d.2)) =
      customs ds := by
  have hmark (c : Char) (hc : isBlank c = false) : c ∉ blanks :=
    fun hm => absurd (hb c hm) (by simp [hc])
  induction ds with
  | nil =>
    rw [List.flatMap_nil, List.nil_append, matchAll_of_no_colon (hmark ':' (by decide))]
    rfl
  | cons d ds ih =>
    obtain ⟨hwf, hds⟩ := List.forall_mem_cons.mp h
    obtain ⟨hquiet, hrest⟩ := hd
    rw [List.flatMap_cons, List.append_assoc]
    cases hc : d.isCustom with
    | true =>
      rw [matchAll_custom hwf hc, List.map_cons, ih hds hrest, String.ofList_toList]
      simp [customs, hc]
    | false =>
      obtain ⟨hname, hvalue⟩ := hquiet hc
      have hskip : customs (d :: ds) = customs ds := by simp [customs, hc]
      rw [matchAll_ordinary hwf hc hname, hskip]
      by_cases hdashes : dashes <:+: d.value.toList
      · -- Nothing follows, so that the name which begins here is not ended.
        obtain ⟨rfl, hcolon⟩ := hvalue hdashes
        rw [List.flatMap_nil, List.nil_append, matchAll_of_no_colon]
        · rfl
        · simp [hcolon, hmark ':' (by decide)]
      · rw [matchAll_of_no_dashes hdashes (by decide)]
        exact ih hds hrest

theorem exists_semicolon_of_disturbed (h : ∀ d ∈ ds, d.WellFormed)
    (hplain : ∀ d ∈ ds, d.isCustom = false → ¬ dashes <:+: d.name.toList ∧ ':' ∉ d.value.toList)
    (hd : ¬ Undisturbed ds) (rest : List Char) :
    ∃ e ∈ matchAll declaration? (ds.flatMap chars ++ rest), ';' ∈ e.1 := by
  induction ds with
  | nil => exact absurd trivial hd
  | cons d ds ih =>
    obtain ⟨hwf, hds⟩ := List.forall_mem_cons.mp h
    obtain ⟨hhere, hrest⟩ := List.forall_mem_cons.mp hplain
    rw [List.flatMap_cons, List.append_assoc]
    cases hc : d.isCustom with
    | true =>
      have hlater : ¬ Undisturbed ds := fun hq => hd ⟨fun hf => by simp [hc] at hf, hq⟩
      obtain ⟨e, he, hm⟩ := ih hds hrest hlater
      rw [matchAll_custom hwf hc]
      exact ⟨e, .tail _ he, hm⟩
    | false =>
      obtain ⟨hname, hcolon⟩ := hhere hc
      rw [matchAll_ordinary hwf hc hname]
      by_cases hdashes : dashes <:+: d.value.toList
      · cases ds with
        | nil => exact absurd ⟨fun _ => ⟨hname, fun _ => ⟨rfl, hcolon⟩⟩, trivial⟩ hd
        | cons next ds =>
          obtain ⟨hnext, -⟩ := List.forall_mem_cons.mp hds
          have hsplit : (next :: ds).flatMap chars ++ rest =
              next.gap.toList ++ next.property ++
                ':' :: (next.value.toList ++ ';' :: (ds.flatMap chars ++ rest)) := by
            simp [chars]
          rw [hsplit]
          exact exists_semicolon_mem hdashes hcolon hnext.colon_not_mem hnext.value_ne
            (fun hm => (hnext.value_plain _ hm).1 rfl) _
      · have hlater : ¬ Undisturbed ds :=
          fun hq => hd ⟨fun _ => ⟨hname, fun hm => absurd hm hdashes⟩, hq⟩
        rw [matchAll_of_no_dashes hdashes (by decide)]
        exact ih hds hrest hlater

theorem WellFormed.not_isBrace (h : d.WellFormed) : ∀ c ∈ d.chars, isBrace c = false := by
  have hbrace {c : Char} (ho : c ≠ '{') (hc : c ≠ '}') : isBrace c = false := by
    simp [isBrace, ho, hc]
  have hname : ∀ c ∈ d.property, isBrace c = false := by
    have hplain : ∀ c ∈ d.name.toList, isBrace c = false := by
      intro c hc
      obtain ⟨-, -, -, ho, hc⟩ := h.name_plain c hc
      exact hbrace ho hc
    cases hc : d.isCustom with
    | true =>
      simp only [property, hc, dashes, if_true, List.cons_append, List.nil_append,
        List.forall_mem_cons]
      exact ⟨by decide, by decide, hplain⟩
    | false => simpa [property, hc] using hplain
  have hvalue : ∀ c ∈ d.value.toList, isBrace c = false := by
    intro c hc
    obtain ⟨-, ho, hc⟩ := h.value_plain c hc
    exact hbrace ho hc
  simp only [chars, List.forall_mem_append, List.forall_mem_cons]
  have hgap : ∀ c ∈ d.gap.toList, isBrace c = false :=
    fun c hc => not_isBrace_of_isBlank (h.gap_blank c hc)
  exact ⟨hgap, hname, by decide, hvalue, by decide, List.forall_mem_nil _⟩

theorem ofCss_of_block {body : String} (h : ∀ c ∈ body.toList, isBrace c = false) :
    Theme.ofCss (":root \x7b" ++ body ++ "\x7d") Collection.lightSelector =
      Theme.ofBlock body.toList := by
  by_cases hne : body.toList = []
  · obtain rfl := String.toList_eq_nil_iff.mp hne
    -- An empty block makes no rule, and a theme without a rule is the empty one as well.
    have hnone : firstMatch (rule? Collection.lightSelector.toList)
        (":root \x7b" ++ "" ++ "\x7d").toList =
        none := by
      decide +kernel
    rw [Theme.ofCss, hnone, hne, ofBlock, matchAll]
    rfl
  · have hrule : rule? Collection.lightSelector.toList (":root \x7b" ++ body ++ "\x7d").toList =
        some body.toList := by
      refine rule?_eq_some_iff.mpr ⟨[' '], [], List.forall_mem_singleton.mpr (by decide), hne, ?_,
        ?_⟩
      · exact fun hm => absurd (h _ hm) (by decide)
      · simp [Collection.lightSelector]
    rw [Theme.ofCss, firstMatch_of_some hrule]

/-- The theme of a block has the custom properties that it declares, and nothing else, unless an
ordinary declaration disturbs it: then a name begins in the value of that declaration and goes on
into the next one. -/
theorem ofCss_block (ds : List Declaration) (blanks : String) (h : ∀ d ∈ ds, d.WellFormed)
    (hb : ∀ c ∈ blanks.toList, isBlank c = true) :
    let theme := Theme.ofCss (":root \x7b" ++ (String.join (ds.map text) ++ blanks) ++ "\x7d")
      Collection.lightSelector
    (Undisturbed ds → theme.keys = ((customs ds).map Prod.fst).eraseDups ∧
      ∀ name, theme.find? name = ((customs ds).reverse.lookup name).map (.ofDeclaration name)) ∧
    ((∀ d ∈ ds, d.isCustom = false → ¬ dashes <:+: d.name.toList ∧ ':' ∉ d.value.toList) →
      ¬ Undisturbed ds → ∃ key ∈ theme.keys, ';' ∈ key.toList) := by
  intro theme
  have hbody :
      (String.join (ds.map text) ++ blanks).toList = ds.flatMap chars ++ blanks.toList := by
    rw [String.toList_append, String.toList_join, List.flatMap_map]
    exact congrArg (ds.flatMap · ++ blanks.toList) (funext toList_text)
  have hbraces : ∀ c ∈ (String.join (ds.map text) ++ blanks).toList, isBrace c = false := by
    rw [hbody, List.forall_mem_append]
    refine ⟨fun c hc => ?_, fun c hc => not_isBrace_of_isBlank (hb c hc)⟩
    obtain ⟨d, hd, hc⟩ := List.mem_flatMap.mp hc
    exact (h d hd).not_isBrace c hc
  have htheme : theme = ofBlock (ds.flatMap chars ++ blanks.toList) := by
    rw [← hbody]
    exact ofCss_of_block hbraces
  refine ⟨fun hd => ?_, fun hplain hd => ?_⟩
  · rw [htheme, ofBlock, matchAll_block h hd hb, ofDeclarations]
    refine ⟨?_, fun name => ?_⟩
    · rw [OrderedMap.keys_ofList, List.map_map]
      rfl
    · rw [OrderedMap.find?_ofList, ← List.map_reverse]
      exact lookup_map Token.ofDeclaration (customs ds).reverse name
  · obtain ⟨e, he, hm⟩ := exists_semicolon_of_disturbed h hplain hd blanks.toList
    refine ⟨.ofList e.1, ?_, by rwa [String.toList_ofList]⟩
    rw [htheme, ofBlock, ofDeclarations, OrderedMap.keys_ofList, List.mem_eraseDups, List.map_map,
      List.map_map]
    exact List.mem_map.mpr ⟨e, he, rfl⟩

def mixed : List Declaration :=
  [⟨"\n  ", true, "brand--1", " blue "⟩, ⟨"\n  ", false, "color", " red"⟩,
   ⟨"\n  ", true, "gap", " var(--brand--1)"⟩, ⟨" ", true, "brand--1", "teal"⟩,
   ⟨"\n  ", false, "-webkit-border", " var(--gap)"⟩]

theorem ofCss_block_mixed :
    let theme := Theme.ofCss (":root \x7b" ++ (String.join (mixed.map text) ++ "\n") ++ "\x7d")
      Collection.lightSelector
    ((∀ d ∈ mixed, d.WellFormed) ∧ (∀ c ∈ "\n".toList, isBlank c = true) ∧ Undisturbed mixed) ∧
    theme.keys = ["brand--1", "gap"] ∧
    theme.find? "brand--1" = some (.ofDeclaration "brand--1" "teal") := by
  intro theme
  have hwf : ∀ d ∈ mixed, d.WellFormed := by decide
  have hb : ∀ c ∈ "\n".toList, isBlank c = true := by decide
  have hd : Undisturbed mixed :=
    ⟨nofun, fun _ => ⟨by decide, fun h => absurd h (by decide)⟩, nofun, nofun,
      fun _ => ⟨by decide, fun _ => ⟨rfl, by decide⟩⟩, trivial⟩
  obtain ⟨hkeys, hfind⟩ := (ofCss_block mixed "\n" hwf hb).1 hd
  refine ⟨⟨hwf, hb, hd⟩, hkeys.trans (by decide), (hfind _).trans ?_⟩
  rfl

/-- The block that is not read as it is has one ordinary declaration before a custom property. -/
theorem not_reads_customs :
    let ds : List Declaration := [⟨"", false, "color", " var(--a)"⟩, ⟨" ", true, "b", " red"⟩]
    let css := ":root \x7bcolor: var(--a); --b: red;\x7d"
    (∀ d ∈ ds, d.WellFormed) ∧ css = ":root \x7b" ++ String.join (ds.map text) ++ "\x7d" ∧
      customs ds = [("b", "red")] ∧
      (Theme.ofCss css Collection.lightSelector).keys = ["a); --b"] := by
  exact ⟨by decide, by decide, by decide, by decide +kernel⟩

end Declaration

end StyleGuide
