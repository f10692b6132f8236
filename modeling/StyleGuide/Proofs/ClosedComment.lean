import StyleGuide.Proofs.PropertyEntry

namespace StyleGuide

namespace Component

open Text

def Opens (line : List Char) : Prop := ∃ text, line = commentStart ++ text ∧ ¬ commentEnd <:+: text

theorem opens_append_iff {text : List Char} :
    Opens (commentStart ++ text) ↔ ¬ commentEnd <:+: text := by
  constructor
  · rintro ⟨other, heq, hend⟩
    rwa [List.append_cancel_left heq]
  · exact fun hend => ⟨text, rfl, hend⟩

instance : DecidablePred Opens := fun line =>
  match h : after? commentStart line with
  | some text => decidable_of_iff (¬ commentEnd <:+: text) <| by
      rw [← after?_eq_some_iff.mp h, opens_append_iff]
  | none => isFalse <| by
      rintro ⟨text, rfl, -⟩
      rw [after?_append] at h
      cases h

/-- Whether a comment is open behind a line without margins. A blank line ends it, and so does a
mark that the line ends in; a mark with text behind it does not. -/
def stillOpen (isOpen : Bool) (line : List Char) : Bool :=
  if line = [] then false else if isOpen then decide (¬ commentEnd <:+ line)
  else decide (Opens line)

def leftOpen (ls : List (List Char)) : Bool := ls.foldl stillOpen false

section

variable {line : List Char} {inside : List (List Char)}

/-- The line `/*/` is the beginning of a comment, and the end of one that is open. -/
theorem stillOpen_of_opens {isOpen : Bool} (h : Opens line)
    (hnew : isOpen = false ∨ line ≠ "/*/".toList) : stillOpen isOpen line = true := by
  obtain ⟨text, rfl, hend⟩ := h
  rw [stillOpen, if_neg (by simp)]
  cases isOpen with
  | false =>
    rw [if_neg Bool.false_ne_true, decide_eq_true_eq]
    exact opens_append_iff.mpr hend
  | true =>
    rw [if_pos rfl, decide_eq_true_eq]
    refine Pending.not_commentEnd_suffix hend fun hslash => ?_
    exact hnew.resolve_left nofun (by rw [hslash]; rfl)

theorem foldl_stillOpen_inside (h : ∀ l ∈ inside, l ≠ [] ∧ ¬ commentEnd <:+ l) :
    inside.foldl stillOpen true = true := by
  induction inside with
  | nil => rfl
  | cons l ls ih =>
    obtain ⟨⟨hne, hend⟩, hls⟩ := List.forall_mem_cons.mp h
    have hhere : stillOpen true l = true := by
      rw [stillOpen, if_neg hne, if_pos rfl, decide_eq_true_eq]
      exact hend
    rw [List.foldl_cons, hhere, ih hls]

/-- A comment is taken to be open from the line that opens it to the first one that ends in the
mark, wherever the mark stands on the lines between. -/
theorem leftOpen_comment {before : List (List Char)} {opening : List Char}
    (hopening : Opens opening) (hnew : leftOpen before = false ∨ opening ≠ "/*/".toList)
    (hinside : ∀ l ∈ inside, l ≠ [] ∧ ¬ commentEnd <:+ l) (hline : line ≠ []) :
    leftOpen (before ++ opening :: (inside ++ [line])) = decide (¬ commentEnd <:+ line) := by
  rw [leftOpen, List.foldl_append, List.foldl_cons, ← leftOpen, stillOpen_of_opens hopening hnew,
    List.foldl_append, foldl_stillOpen_inside hinside, List.foldl_cons, List.foldl_nil, stillOpen,
    if_neg hline, if_pos rfl]

end

/-- A line without margins of the form `name: type` or `name?: type`. -/
def IsDeclaration (name : String) (required : Bool) (line : List Char) : Prop :=
  name ≠ "" ∧ (∀ c ∈ name.toList, isWord c = true) ∧ ∃ c type, c ≠ ';' ∧ c ≠ ',' ∧
    line = name.toList ++ ((if required then [] else ['?']) ++ ':' :: c :: type)

namespace IsDeclaration

variable {name : String} {required : Bool} {line : List Char}

theorem exists_cons (h : IsDeclaration name required line) :
    ∃ c rest, line = c :: rest ∧ isWord c = true := by
  obtain ⟨hname, hword, c, type, -, -, rfl⟩ := h
  obtain ⟨d, ds, hd⟩ := List.exists_cons_of_ne_nil fun he => hname (String.toList_eq_nil_iff.mp he)
  rw [hd] at hword ⊢
  exact ⟨d, _, rfl, hword d (.head ds)⟩

theorem declared?_eq (h : IsDeclaration name required line) :
    ∃ type, declared? line = some (name.toList, required, type) := by
  obtain ⟨hname, hword, c, type, hc, hc', rfl⟩ := h
  have hne : name.toList ≠ [] := fun he => hname (String.toList_eq_nil_iff.mp he)
  have hstop : ∀ d, ((if required then [] else ['?']) ++ ':' :: c :: type).head? = some d →
      isWord d = false := by
    intro d hd
    have hmark : ':' = d ∨ '?' = d := by
      cases required with
      | true => exact .inl (by simpa using hd)
      | false => exact .inr (by simpa using hd)
    obtain rfl | rfl := hmark <;> decide
  have hrun := run?_eq_some_iff.mpr ⟨hne, rfl, hword, hstop⟩
  obtain ⟨found, htype⟩ : ∃ found, run? (fun c => c != ';' && c != ',') (c :: type) = some found :=
    ⟨_, if_neg (by simp [hc, hc'])⟩
  refine ⟨trim found.1, ?_⟩
  rw [declared?, hrun]
  cases required <;> simp [char?, htype]

end IsDeclaration

theorem suffix_of_leadingComment?_none {text : List Char} (hl : Trimmed (commentStart ++ text))
    (h : leadingComment? (commentStart ++ text) = none) (hend : commentEnd <:+: text) :
    commentEnd <:+ text := by
  obtain ⟨⟨inner, rest⟩, hsplit⟩ :=
    Option.ne_none_iff_exists'.mp fun hn => splitAt?_eq_none_iff.mp hn hend
  have htext := splitAt?_eq_some hsplit
  have hrest : trim rest = [] := by
    by_contra hne
    rw [leadingComment?, after?_append, Option.bind_eq_bind, Option.bind_some, hsplit] at h
    simp [nonempty?_of_ne_nil hne] at h
  have hnil : rest = [] := by
    -- Blanks behind the mark would be at the end of the line, which has none there.
    by_contra hne
    have hblank := isBlank_of_trim_eq_nil hrest _ (List.getLast_mem hne)
    rw [hl.2 (rest.getLast hne)
      (by simp [htext, List.getLast?_append, List.getLast?_eq_some_getLast hne])] at hblank
    cases hblank
  rw [htext, hnil, List.append_nil]
  exact List.suffix_append inner commentEnd

namespace Pending

variable {p : Pending} {line : List Char}

theorem absorb?_inside (hp : p.isOpen = true) (line : List Char) :
    ∃ q, p.absorb? line = some q ∧ q.isOpen = decide (¬ commentEnd <:+ line) := by
  rw [absorb?, if_pos hp]
  cases hend : before? commentEnd line with
  | some rest =>
    have hsuffix : commentEnd <:+ line := ⟨rest, before?_eq_some_iff.mp hend⟩
    exact ⟨_, rfl, by rw [isOpen_push]; simp [hsuffix]⟩
  | none => exact ⟨_, rfl, by rw [isOpen_push]; simp [hp, before?_eq_none_iff.mp hend]⟩

theorem isOpen_next_start (hp : p.isOpen = false) {text : List Char}
    (hl : Trimmed (commentStart ++ text)) :
    (p.next (commentStart ++ text)).1.isOpen = decide (¬ commentEnd <:+: text) := by
  by_cases hend : commentEnd <:+: text
  · rw [next, if_neg (by simp), if_neg (by simp [hp])]
    cases hleading : leadingComment? (commentStart ++ text) with
    | some found => simp [hend, empty]
    | none =>
      obtain ⟨inner, rfl⟩ := suffix_of_leadingComment?_none hl hleading hend
      have hslashes : after? "//".toList (commentStart ++ (inner ++ commentEnd)) = none := rfl
      simp only [absorb?, hp, Bool.false_eq_true, if_false, hslashes, after?_append,
        before?_eq_some_iff.mpr rfl]
      rw [isOpen_push]
      simp [hend, empty]
  · rw [(next_opening hend (.inl hp)).1]
    simp [hend]

theorem isOpen_next_other (hp : p.isOpen = false) (hne : line ≠ [])
    (hstart : ¬ commentStart <+: line) : (p.next line).1.isOpen = false := by
  have hafter : after? commentStart line = none := after?_eq_none_iff.mpr hstart
  have hleading : leadingComment? line = none := by
    rw [leadingComment?, hafter]
    rfl
  rw [next, if_neg (by simpa using hne), if_neg (by simp [hp]), hleading]
  simp only [absorb?, hp, Bool.false_eq_true, if_false, hafter]
  cases after? "//".toList line with
  | some text => exact isOpen_push empty text
  | none =>
    by_cases hstar : line.head? = some '*'
    · simp [hstar, hp]
    · simp [hstar, empty]

theorem isOpen_next (p : Pending) (hl : Trimmed line) :
    (p.next line).1.isOpen = stillOpen p.isOpen line := by
  by_cases hne : line = []
  · subst hne
    rfl
  · rw [stillOpen, if_neg hne]
    cases hp : p.isOpen with
    | true =>
      obtain ⟨q, habsorb, hq⟩ := absorb?_inside hp line
      rw [next, if_neg (by simpa using hne), if_pos hp, habsorb]
      exact hq
    | false =>
      by_cases hstart : commentStart <+: line
      · obtain ⟨text, rfl⟩ := hstart
        rw [isOpen_next_start hp hl]
        exact decide_eq_decide.mpr opens_append_iff.symm
      · have hnone : ¬ Opens line := by
          rintro ⟨text, rfl, -⟩
          exact hstart (List.prefix_append commentStart text)
        rw [isOpen_next_other hp hne hstart]
        simp [hnone]

theorem next_open (hp : p.isOpen = true) (line : List Char) : (p.next line).2 = none := by
  by_cases hne : line = []
  · subst hne
    rfl
  · obtain ⟨q, habsorb, -⟩ := absorb?_inside hp line
    rw [next, if_neg (by simpa using hne), if_pos hp, habsorb]

theorem next_declaration (hp : p.isOpen = false) {name : String} {required : Bool}
    (hline : IsDeclaration name required line) :
    ∃ q : Property, q.name = name ∧ q.required = required ∧ (p.next line).2 = some q := by
  obtain ⟨type, hdeclared⟩ := hline.declared?_eq
  obtain ⟨c, rest, hc, hword⟩ := hline.exists_cons
  subst hc
  rw [next_word hp hword, propertyOf?_of_declared hdeclared, String.ofList_toList]
  exact ⟨_, rfl, rfl, rfl⟩

end Pending

namespace Place

variable {s : Place}

theorem isOpen_after (ls : List (List Char)) : (s.after ls).above.isOpen =
    ((outermost s.depth ls).map trim).foldl stillOpen s.above.isOpen := by
  induction ls generalizing s with
  | nil => rfl
  | cons l ls ih =>
    rw [after, List.foldl_cons, ← after, ih, depth_next, outermost, next]
    split
    -- Of the lines only the outermost ones are read.
    · rw [List.map_cons, List.foldl_cons, Pending.isOpen_next _ (trimmed_trim l)]
    · rfl

end Place

/-- A line of the form of a declaration, in no inner block, declares one property, and that has its
name, unless the lines above leave a comment open; then it declares none. -/
theorem declares_unless_leftOpen {source name : String} {required : Bool} {body line : List Char}
    {before rest : List (List Char)} (h : firstBlock? propsOpener? source.toList = some body)
    (hlines : lines body = before ++ line :: rest) (hdepth : before.foldl depthAfter 0 = 0)
    (hline : IsDeclaration name required (trim line)) :
    properties source = (Place.start.declares (lines body)).reduceOption ∧
    ∃ q : Property, q.name = name ∧ q.required = required ∧
      (Place.start.declares (lines body))[before.length]? =
        some (if leftOpen ((outermost 0 before).map trim) then none else some q) := by
  have hopen : (Place.start.after before).above.isOpen = leftOpen ((outermost 0 before).map trim) :=
    Place.isOpen_after before
  have hplace : (Place.start.after before).depth = 0 := (Place.depth_after before).trans hdepth
  have hhere : (Place.start.declares (lines body))[before.length]? =
      some ((Place.start.after before).above.next (trim line)).2 := by
    rw [hlines, Place.declares_append, List.getElem?_append_right (Place.length_declares before).le,
      Place.length_declares, Nat.sub_self, Place.declares, List.getElem?_cons_zero, Place.next,
      if_pos hplace]
  refine ⟨properties_eq_declares h, ?_⟩
  rw [hhere, ← hopen]
  cases hp : (Place.start.after before).above.isOpen with
  | true =>
    refine ⟨⟨name, "", required, none⟩, rfl, rfl, ?_⟩
    rw [Pending.next_open hp, if_pos rfl]
  | false =>
    obtain ⟨q, hname, hrequired, hq⟩ := Pending.next_declaration hp hline
    exact ⟨q, hname, hrequired, congrArg some hq⟩

def marksBody : String :=
  "\n  /* one\n  */ two\n  a: string\n  three */\n  b?: number, // */ four\n"

theorem declares_unless_leftOpen_marks :
    let source := "export interface XProps \x7b" ++ marksBody ++ "\x7d"
    let declared := Place.start.declares (lines marksBody.toList)
    (firstBlock? propsOpener? source.toList = some marksBody.toList ∧
      IsDeclaration "a" true "a: string".toList ∧
      IsDeclaration "b" false "b?: number, // */ four".toList) ∧
    declared[3]? = some none ∧ ∃ q : Property, q.name = "b" ∧ q.required = false ∧
    declared[5]? = some (some q) := by
  intro source declared
  let before := ["", "  /* one", "  */ two"].map String.toList
  let rest := ["  three */", "  b?: number, // */ four"].map String.toList
  have hblock : firstBlock? propsOpener? source.toList = some marksBody.toList := by decide +kernel
  have ha : IsDeclaration "a" true "a: string".toList :=
    ⟨by decide, by decide, ' ', "string".toList, by decide, by decide, rfl⟩
  have hb : IsDeclaration "b" false "b?: number, // */ four".toList :=
    ⟨by decide, by decide, ' ', "number, // */ four".toList, by decide, by decide, rfl⟩
  have hlines : lines marksBody.toList = before ++ "  a: string".toList :: rest := by decide +kernel
  let before' := before ++ ["  a: string", "  three */"].map String.toList
  have hlines' : lines marksBody.toList = before' ++ ["  b?: number, // */ four".toList] := by
    decide +kernel
  obtain ⟨-, _, -, -, hopen⟩ := declares_unless_leftOpen hblock hlines (by decide)
    (by rwa [show trim "  a: string".toList = "a: string".toList by decide])
  obtain ⟨-, q, hname, hrequired, hclosed⟩ := declares_unless_leftOpen hblock hlines' (by decide)
    (by rwa [show trim "  b?: number, // */ four".toList =
      "b?: number, // */ four".toList by decide])
  have hopens : Opens "/* one".toList := by decide
  have hleft : leftOpen ([[]] ++ "/* one".toList :: ([] ++ ["*/ two".toList])) =
      decide (¬ commentEnd <:+ "*/ two".toList) :=
    leftOpen_comment hopens (.inl rfl) (by decide) (by decide)
  have hleft' : leftOpen ([[]] ++ "/* one".toList ::
      (["*/ two", "a: string"].map String.toList ++ ["three */".toList])) =
        decide (¬ commentEnd <:+ "three */".toList) :=
    leftOpen_comment hopens (.inl rfl) (by decide) (by decide)
  rw [show leftOpen ((outermost 0 before).map trim) = true from hleft.trans (by decide),
    if_pos rfl] at hopen
  rw [show leftOpen ((outermost 0 before').map trim) = false from hleft'.trans (by decide),
    if_neg Bool.false_ne_true] at hclosed
  exact ⟨⟨hblock, ha, hb⟩, hopen, q, hname, hrequired, hclosed⟩

def trailingBody : String := "\n  /*\n  */ x\n  b: number\n"

/-- A declaration is hidden by the comment above it, although that is closed on the line before:
there is text behind the mark. -/
theorem not_declared_after_comment :
    let source := "export interface XProps \x7b" ++ trailingBody ++ "\x7d\n"
    firstBlock? propsOpener? source.toList = some trailingBody.toList ∧
    Braceless trailingBody.toList ∧
      lines trailingBody.toList = ["", "  /*", "  */ x", "  b: number"].map String.toList ∧
      Opens "/*".toList ∧ commentEnd <+: "*/ x".toList ∧ IsDeclaration "b" true "b: number".toList ∧
      properties source = [] := by
  intro source
  have hblock : firstBlock? propsOpener? source.toList = some trailingBody.toList := by
    decide +kernel
  have hlines : lines trailingBody.toList =
      ["", "  /*", "  */ x", "  b: number"].map String.toList := by
    decide
  have hb : IsDeclaration "b" true "b: number".toList :=
    ⟨by decide, by decide, ' ', "number".toList, by decide, by decide, rfl⟩
  refine ⟨hblock, by decide, hlines, by decide, by decide, hb, ?_⟩
  rw [properties_eq_declares hblock, hlines]
  decide

end Component

end StyleGuide
