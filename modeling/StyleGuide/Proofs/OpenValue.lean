import StyleGuide.Proofs.FlatSection

namespace StyleGuide

namespace Tailwind

open Text

def closer? : Char → Option Char
  | '(' => some ')'
  | '[' => some ']'
  | '{' => some '}'
  | _ => none

/-- The brackets that a text leaves to be closed, the innermost first. Between quotation marks
nothing is opened or closed, and there a mark behind a backslash ends nothing. -/
def awaited : Option Char → List Char → List Char → List Char
  | _, left, [] => left
  | some q, left, '\\' :: _ :: cs => awaited (some q) left cs
  | some q, left, c :: cs => awaited (if c = q then none else some q) left cs
  | none, left, c :: cs =>
    if isQuote c then awaited (some c) left cs
    else match closer? c with
      | some d => awaited none (d :: left) cs
      | none => awaited none (if left.head? = some c then left.tail else left) cs

def LeavesOpen (value : List Char) : Prop := awaited none [] value ≠ []

instance (value : List Char) : Decidable (LeavesOpen value) := inferInstanceAs (Decidable (_ ≠ _))

def Bracketed (cs : List Char) : Prop := ∃ c ∈ cs, closer? c ≠ none

def Section.body? (s : Section) (config : String) : Option (List Char) :=
  (firstMatchAfter (opener? s.name.toList) none config.toList).bind blockBody?

def front (line : List Char) : List Char := line.takeWhile (· ≠ ':')

def behind (line : List Char) : List Char := (line.dropWhile (· ≠ ':')).tail

/-- The first character of a value apart from quotation marks and blanks. -/
def firstMark (value : List Char) : Option Char := value.find? fun c => !isQuote c && !isBlank c

/-! What a value that is left open has in it. -/

theorem awaited_eq_nil {quote : Option Char} {left cs : List Char} (hleft : left = [])
    (h : ∀ c ∈ cs, closer? c = none) : awaited quote left cs = [] := by
  fun_induction awaited quote left cs with
  | case1 => exact hleft
  | case2 q left d cs ih => exact ih hleft fun c hc => h c (by simp [hc])
  | case3 q left d cs _ ih => exact ih hleft (List.forall_mem_cons.mp h).2
  | case4 left d cs _ ih => exact ih hleft (List.forall_mem_cons.mp h).2
  | case5 left d cs _ closer hcloser =>
    rw [(List.forall_mem_cons.mp h).1] at hcloser
    cases hcloser
  | case6 left d cs _ _ ih => exact ih (by simp [hleft]) (List.forall_mem_cons.mp h).2

theorem bracketed_of_leavesOpen {cs : List Char} (h : LeavesOpen cs) : Bracketed cs := by
  by_contra hnone
  refine h (awaited_eq_nil rfl fun c hc => ?_)
  by_contra hopens
  exact hnone ⟨c, hc, hopens⟩

theorem plain_of_closer? {c : Char} (h : closer? c ≠ none) :
    isQuote c = false ∧ isBlank c = false ∧ c ≠ ',' := by
  have hbrackets : c = '(' ∨ c = '[' ∨ c = '{' := by
    by_contra hc
    simp only [not_or] at hc
    exact h (by simp [closer?, hc])
  obtain rfl | rfl | rfl := hbrackets <;> decide

namespace Bracketed

variable {cs : List Char}

theorem withoutComma (h : Bracketed cs) :
    ∃ ds, (before? [','] cs).getD cs ++ ds = cs ∧ Bracketed ((before? [','] cs).getD cs) := by
  cases hkept : before? [','] cs with
  | none => exact ⟨[], List.append_nil cs, h⟩
  | some kept =>
    have hcs := before?_eq_some_iff.mp hkept
    obtain ⟨c, hc, hopens⟩ := h
    have hcomma := (plain_of_closer? hopens).2.2
    rw [← hcs] at hc
    exact ⟨[','], hcs, c, by simpa [hcomma] using hc, hopens⟩

theorem dropComma_eq (h : Bracketed cs) : dropComma cs = (before? [','] cs).getD cs := by
  obtain ⟨-, -, c, hc, -⟩ := h.withoutComma
  rw [dropComma]
  cases hkept : before? [','] cs with
  | none => rfl
  | some kept =>
    rw [hkept, Option.getD_some] at hc
    cases kept with
    | nil => cases hc
    | cons d ds => rfl

theorem filter (h : Bracketed cs) : Bracketed (cs.filter fun c => !isQuote c) := by
  obtain ⟨c, hc, hopens⟩ := h
  exact ⟨c, List.mem_filter.mpr ⟨hc, by simp [(plain_of_closer? hopens).1]⟩, hopens⟩

theorem find?_append (h : Bracketed cs) {p : Char → Bool} (hp : ∀ c, closer? c ≠ none → p c = true)
    (ds : List Char) : (cs ++ ds).find? p = cs.find? p := by
  obtain ⟨c, hc, hopens⟩ := h
  obtain ⟨d, hd⟩ := Option.isSome_iff_exists.mp (List.find?_isSome.mpr ⟨c, hc, hp c hopens⟩)
  rw [List.find?_append, hd, Option.some_or]

end Bracketed

theorem find?_trim {p : Char → Bool} (hp : ∀ c, isBlank c = true → p c = false) (cs : List Char) :
    (trim cs).find? p = cs.find? p := by
  obtain ⟨bs, ds, hbs, hds, hcs⟩ := exists_trim cs
  have hnone : ∀ es : List Char, (∀ c ∈ es, isBlank c = true) → es.find? p = none := by
    intro es hes
    simpa using fun c hc => hp c (hes c hc)
  conv_rhs => rw [hcs, List.find?_append, hnone bs hbs, Option.none_or, List.find?_append,
    hnone ds hds, Option.or_none]

theorem head?_trim (cs : List Char) : (trim cs).head? = cs.find? fun c => !isBlank c := by
  rw [← find?_trim fun c hc => by simp [hc]]
  have hfirst := (trimmed_trim cs).1
  cases htrim : trim cs with
  | nil => rfl
  | cons c r =>
    rw [htrim] at hfirst
    rw [List.find?_cons_of_pos (by simp [hfirst c rfl]), List.head?_cons]

theorem firstMark_trim (value : List Char) : firstMark (trim value) = firstMark value :=
  find?_trim (fun c hc => by simp [hc]) value

theorem isMark_of_closer? {c : Char} (h : closer? c ≠ none) :
    (!isQuote c && !isBlank c) = true := by
  simp [(plain_of_closer? h).1, (plain_of_closer? h).2.1]

namespace Bracketed

variable {value : List Char}

theorem trim (h : Bracketed value) : Bracketed (trim value) := by
  obtain ⟨c, hc, hopens⟩ := h
  exact ⟨c, mem_trim hc (plain_of_closer? hopens).2.1, hopens⟩

theorem head?_bare (h : Bracketed value) : (bare (dropComma value)).head? = firstMark value := by
  let kept := (before? [','] value).getD value
  obtain ⟨ds, hvalue, hkept⟩ : ∃ ds, kept ++ ds = value ∧ Bracketed kept := h.withoutComma
  obtain ⟨es, hbare, hrest⟩ := hkept.filter.withoutComma
  have hblank : ∀ c, closer? c ≠ none → (!isBlank c) = true :=
    fun c hc => by simp [(plain_of_closer? hc).2.1]
  calc (bare (dropComma value)).head?
      = (kept.filter fun c => !isQuote c).find? (fun c => !isBlank c) := by
        rw [h.dropComma_eq, bare, head?_trim, ← hrest.find?_append hblank es, hbare]
    _ = firstMark kept := by simp [List.find?_filter, firstMark]
    _ = firstMark value := by
      rw [firstMark, firstMark, ← hkept.find?_append (fun _ => isMark_of_closer?) ds, hvalue]

theorem exists_bare (h : Bracketed value) :
    ∃ c cs, bare (dropComma value) = c :: cs ∧ firstMark value = some c := by
  have hhead := h.head?_bare
  obtain ⟨b, hb, hopens⟩ := h
  have hsome : (firstMark value).isSome = true :=
    List.find?_isSome.mpr ⟨b, hb, isMark_of_closer? hopens⟩
  obtain ⟨c, hc⟩ := Option.isSome_iff_exists.mp hsome
  rw [hc] at hhead
  obtain ⟨cs, hcs⟩ := List.head?_eq_some_iff.mp hhead
  exact ⟨c, cs, hcs, hc⟩

end Bracketed

/-! How a line falls apart at its first colon. -/

theorem front_behind {key : List Char} (h : ':' ∉ key) (rest : List Char) :
    front (key ++ ':' :: rest) = key ∧ behind (key ++ ':' :: rest) = rest := by
  have hkey : ∀ c ∈ key, decide (c ≠ ':') = true :=
    fun c hc => by simpa using fun he : c = ':' => h (he ▸ hc)
  constructor
  · rw [front, List.takeWhile_append_of_pos hkey]
    simp
  · rw [behind, List.dropWhile_append_of_pos hkey]
    simp

theorem front_append_behind {line : List Char} (h : ':' ∈ line) :
    front line ++ ':' :: behind line = line := by
  obtain ⟨key, rest, rfl, hkey⟩ := List.eq_append_cons_of_mem h
  obtain ⟨hfront, hbehind⟩ := front_behind hkey rest
  rw [hfront, hbehind]

theorem suffix_behind (key rest : List Char) : rest <:+ behind (key ++ ':' :: rest) := by
  induction key with
  | nil => exact List.suffix_rfl
  | cons c key ih =>
    by_cases hc : c = ':'
    · subst hc
      exact ⟨key ++ [':'], by simp [behind]⟩
    · have hskip : behind (c :: (key ++ ':' :: rest)) = behind (key ++ ':' :: rest) := by
        rw [behind, behind, List.dropWhile_cons_of_pos (by simpa using hc)]
      rw [List.cons_append, hskip]
      exact ih

theorem Heading.front_of_entryOf? {line : List Char} {e : String × String}
    (h : entryOf? line = some e) : ∃ a : Heading, a.WellFormed ∧ front line = a.text := by
  obtain ⟨a, ha, value, rfl⟩ := exists_of_entryOf? h
  exact ⟨a, ha, (front_behind ha.not_mem_text value).1⟩

/-- What a line is read as whose value has a bracket in it. -/
theorem Heading.WellFormed.entryOf?_of_bracketed {a : Heading} {value : List Char}
    (h : a.WellFormed) (hvalue : Bracketed value) : entryOf? (a.text ++ ':' :: value) =
      if firstMark value = some '{' then none
      else some (.ofList a.name, .ofList (bare (dropComma (trim value)))) := by
  obtain ⟨c, cs, hbare, hmark⟩ := hvalue.trim.exists_bare
  rw [h.entryOf?_eq hbare, ← firstMark_trim, hmark, hbare]
  simp only [Option.some.injEq]

theorem lookup_reverse_append_cons (before after : List (String × String)) (key value : String) :
    (before ++ (key, value) :: after).reverse.lookup key =
      some ((after.reverse.lookup key).getD value) := by
  rw [List.reverse_append, List.reverse_cons, List.append_assoc, List.lookup_append]
  cases after.reverse.lookup key <;> simp

namespace Section

theorem of_ofConfig_of_body? {s : Section} {config : String} {body : List Char}
    (h : s.body? config = some body) : s.of (ofConfig config) = entries body := by
  rw [body?] at h
  rw [of_ofConfig, themeSection, h]

/-- A value that goes on after its line is left out exactly if it begins with a brace, or if there
is no key before it. Otherwise what stands on the line is taken for the whole value. -/
theorem leaves_out_open_value_iff (s : Section) {config : String} {body line key rest : List Char}
    {before after : List (List Char)} (hbody : s.body? config = some body)
    (hlines : topLevelLines body = before ++ line :: after) (hline : line = key ++ ':' :: rest)
    (hopen : LeavesOpen rest) :
    let found := s.of (ofConfig config)
    let fragment := bare (dropComma (trim (behind line)))
    ((∀ a : Heading, a.WellFormed → front line ≠ a.text) ∨ firstMark (behind line) = some '{' →
      found = .ofList ((before ++ after).filterMap entryOf?)) ∧
    ∀ a : Heading, a.WellFormed → front line = a.text → firstMark (behind line) ≠ some '{' →
      fragment ≠ [] ∧
      found = .ofList (before.filterMap entryOf? ++
        (.ofList a.name, .ofList fragment) :: after.filterMap entryOf?) ∧
      found.find? (.ofList a.name) =
        some (((after.filterMap entryOf?).reverse.lookup (.ofList a.name)).getD
          (.ofList fragment)) := by
  intro found fragment
  have hfound : found = .ofList ((before ++ line :: after).filterMap entryOf?) := by
    rw [← hlines]
    exact of_ofConfig_of_body? hbody
  have hcolon : ':' ∈ line := by simp [hline]
  -- A key is read up to its first colon, so the open value may be only the end of what is
  -- taken for the value.
  have hvalue : Bracketed (behind line) := by
    obtain ⟨c, hc, hopens⟩ := bracketed_of_leavesOpen hopen
    exact ⟨c, (hline ▸ suffix_behind key rest).subset hc, hopens⟩
  have hread : ∀ a : Heading, a.WellFormed → front line = a.text → entryOf? line =
      if firstMark (behind line) = some '{' then none
      else some (.ofList a.name, .ofList fragment) := by
    intro a ha hfront
    rw [← ha.entryOf?_of_bracketed hvalue, ← hfront, front_append_behind hcolon]
  constructor
  · intro hdropped
    have hnone : entryOf? line = none := by
      cases hentry : entryOf? line with
      | none => rfl
      | some e =>
        obtain ⟨a, ha, hfront⟩ := Heading.front_of_entryOf? hentry
        obtain hkeyless | hbrace := hdropped
        · exact absurd hfront (hkeyless a ha)
        · rw [hread a ha hfront, if_pos hbrace] at hentry
          cases hentry
    rw [hfound, List.filterMap_append, List.filterMap_cons_none hnone, List.filterMap_append]
  · intro a ha hfront hbrace
    have hsome : entryOf? line = some (.ofList a.name, .ofList fragment) := by
      rw [hread a ha hfront, if_neg hbrace]
    obtain ⟨c, cs, hfragment, -⟩ := hvalue.trim.exists_bare
    have hreported : found =
        .ofList (before.filterMap entryOf? ++
          (.ofList a.name, .ofList fragment) :: after.filterMap entryOf?) := by
      rw [hfound, List.filterMap_append, List.filterMap_cons_some hsome]
    refine ⟨?_, hreported, ?_⟩
    · rw [show fragment = c :: cs from hfragment]
      exact List.cons_ne_nil c cs
    · rw [hreported, OrderedMap.find?_ofList, lookup_reverse_append_cons]

def openBody : String :=
  "\n  'glow': shadow(1px,\n    2px),\n  \x22nested\x22: '' \x7b\n    z: 'x' \x7d,\n  hover:on: [\n"

def openValues : String := "colors: \x7b" ++ openBody ++ "\x7d"

theorem leaves_out_open_value_iff_openValues :
    let found := Section.colors.of (ofConfig openValues)
    let call := "  'glow': shadow(1px,".toList
    let object := "  \x22nested\x22: '' \x7b".toList
    let array := "  hover:on: [".toList
    (Section.colors.body? openValues = some openBody.toList ∧
      topLevelLines openBody.toList = [[], call, "    2px),".toList, object, array]) ∧
    found.find? "glow" = some "shadow(1px" ∧ found.find? "hover" = some "on: [" ∧
      found = .ofList ([[], call, "    2px),".toList, array].filterMap entryOf?) := by
  intro found call object array
  have hbody : Section.colors.body? openValues = some openBody.toList := by decide +kernel
  have hlines : topLevelLines openBody.toList = [[], call, "    2px),".toList, object, array] := by
    decide +kernel
  have hcall : call = "  'glow'".toList ++ ':' :: " shadow(1px,".toList := by decide
  have hobject : object = "  \x22nested\x22".toList ++ ':' :: " '' \x7b".toList := by decide
  have harray : array = "  hover:on".toList ++ ':' :: " [".toList := by decide
  have hbefore : topLevelLines openBody.toList =
      [[], call, "    2px),".toList] ++ object :: [array] := hlines
  have hlast : topLevelLines openBody.toList =
      [[], call, "    2px),".toList, object] ++ array :: [] := hlines
  have hfirst : topLevelLines openBody.toList =
      [[]] ++ call :: ["    2px),".toList, object, array] := hlines
  obtain ⟨-, hkept⟩ := leaves_out_open_value_iff .colors hbody hfirst hcall (by decide)
  obtain ⟨-, hkept'⟩ := leaves_out_open_value_iff .colors hbody hlast harray (by decide)
  obtain ⟨hdropped, -⟩ := leaves_out_open_value_iff .colors hbody hbefore hobject (by decide)
  let glow : Heading := ⟨[' ', ' '], some '\x27', "glow".toList, some '\x27', []⟩
  let hover : Heading := ⟨[' ', ' '], none, "hover".toList, none, []⟩
  have hglow : glow.WellFormed := by decide +kernel
  have hhover : hover.WellFormed := by decide +kernel
  refine ⟨⟨hbody, hlines⟩, ?_, ?_, hdropped (.inr (by decide))⟩
  · obtain ⟨-, -, hfind⟩ := hkept glow hglow (by decide) (by decide)
    exact hfind.trans (by decide +kernel)
  · obtain ⟨-, -, hfind⟩ := hkept' hover hhover (by decide) (by decide)
    exact hfind.trans (by decide +kernel)

def openArray : String := "colors: \x7b\n  a: [\n    'x',\n  ],\n\x7d"

theorem not_leaves_out_open_value :
    ¬ ∀ (s : Section) (config : String) (body line key rest : List Char)
    (before after : List (List Char)), s.body? config = some body →
    topLevelLines body = before ++ line :: after →
      line = key ++ ':' :: rest → LeavesOpen rest →
        s.of (ofConfig config) = .ofList ((before ++ after).filterMap entryOf?) := by
  intro h
  have hbody : Section.colors.body? openArray = some "\n  a: [\n    'x',\n  ],\n".toList := by
    decide +kernel
  have hlines : topLevelLines "\n  a: [\n    'x',\n  ],\n".toList =
      [[]] ++ "  a: [".toList :: ["    'x',".toList, "  ],".toList] := by decide +kernel
  have hfound :=
    h .colors openArray _ _ "  a".toList " [".toList _ _ hbody hlines (by decide) (by decide)
  have hkeys := congrArg OrderedMap.keys hfound
  have hreported : (Section.colors.of (ofConfig openArray)).keys = ["a"] := by decide +kernel
  rw [hreported] at hkeys
  exact absurd hkeys (by decide +kernel)

end Section

end Tailwind

end StyleGuide
