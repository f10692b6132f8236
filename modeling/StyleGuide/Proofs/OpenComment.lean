import Mathlib.Data.List.ReduceOption
import StyleGuide.Component.Source
import StyleGuide.Proofs.Occurrence
import StyleGuide.Proofs.PlainBlock

namespace StyleGuide.Component

open Text

namespace Pending

/-- What is above the line after a line without margins, and the property that the line declares. -/
def next (p : Pending) (line : List Char) : Pending × Option Property :=
  if line.isEmpty then (.empty, none)
  else
    match if p.isOpen then none else leadingComment? line with
    | some (comment, line) => (.empty, propertyOf? p (nonempty? comment) line)
    | none => match p.absorb? line with
      | some p => (p, none)
      | none => (.empty, propertyOf? p none line)

end Pending

theorem propertiesAfter_cons (p : Pending) (line : List Char) (rest : List (List Char)) :
    propertiesAfter p (line :: rest) = (p.next line).2.toList ++
      propertiesAfter (p.next line).1 rest := by
  rw [propertiesAfter, Pending.next]
  by_cases hblank : line.isEmpty
  · simp [hblank]
  · simp only [hblank]
    cases if p.isOpen then none else leadingComment? line with
    | some found => rfl
    | none =>
      cases p.absorb? line with
      | some q => rfl
      | none => rfl

/-- Where the reading of a block stands between two lines: the number of blocks that are open, and
the comment above. -/
structure Place where
  depth : Nat
  above : Pending

namespace Place

def start : Place := ⟨0, .empty⟩

def next (s : Place) (line : List Char) : Place × Option Property :=
  if s.depth = 0 then
    (⟨depthAfter s.depth line, (s.above.next (trim line)).1⟩, (s.above.next (trim line)).2)
  else (⟨depthAfter s.depth line, s.above⟩, none)

def after (s : Place) (lines : List (List Char)) : Place := lines.foldl (fun s l => (s.next l).1) s

def declares (s : Place) : List (List Char) → List (Option Property)
  | [] => []
  | l :: ls => (s.next l).2 :: (s.next l).1.declares ls

variable {s : Place}

theorem length_declares (lines : List (List Char)) : (s.declares lines).length = lines.length := by
  induction lines generalizing s with
  | nil => rfl
  | cons l ls ih => rw [declares, List.length_cons, List.length_cons, ih]

theorem declares_append (before rest : List (List Char)) :
    s.declares (before ++ rest) = s.declares before ++ (s.after before).declares rest := by
  induction before generalizing s with
  | nil => rfl
  | cons l ls ih =>
    rw [List.cons_append, declares, declares, ih, List.cons_append, after, after, List.foldl_cons]

theorem depth_next (l : List Char) : (s.next l).1.depth = depthAfter s.depth l := by
  rw [next]
  split <;> rfl

theorem depth_after (lines : List (List Char)) :
    (s.after lines).depth = lines.foldl depthAfter s.depth := by
  induction lines generalizing s with
  | nil => rfl
  | cons l ls ih => rw [after, List.foldl_cons, ← after, ih, depth_next, List.foldl_cons]

theorem reduceOption_declares (lines : List (List Char)) :
    (s.declares lines).reduceOption =
      propertiesAfter s.above ((outermost s.depth lines).map trim) := by
  induction lines generalizing s with
  | nil => rfl
  | cons l ls ih =>
    rw [declares, outermost]
    by_cases hd : s.depth = 0
    · have hnext : s.next l =
          (⟨depthAfter s.depth l, (s.above.next (trim l)).1⟩, (s.above.next (trim l)).2) :=
            if_pos hd
      rw [if_pos hd, List.map_cons, propertiesAfter_cons, hnext]
      have hrest := ih (s := ⟨depthAfter s.depth l, (s.above.next (trim l)).1⟩)
      cases (s.above.next (trim l)).2 with
      | none => rw [List.reduceOption_cons_of_none, hrest, Option.toList_none, List.nil_append]
      | some p =>
        rw [List.reduceOption_cons_of_some, hrest, Option.toList_some, List.singleton_append]
    · have hnext : s.next l = (⟨depthAfter s.depth l, s.above⟩, none) := if_neg hd
      rw [if_neg hd, hnext, List.reduceOption_cons_of_none, ih]

end Place

/-- The properties of a component are what the lines of its block declare. -/
theorem properties_eq_declares {source : String} {body : List Char}
    (h : firstBlock? propsOpener? source.toList = some body) :
    properties source = (Place.start.declares (lines body)).reduceOption := by
  rw [Place.reduceOption_declares, properties, h]
  rfl

end StyleGuide.Component

namespace StyleGuide

namespace Component

open Text

abbrev commentStart : List Char := "/*".toList

abbrev commentEnd : List Char := "*/".toList

namespace Pending

variable {p : Pending} {line text : List Char}

@[simp] theorem isOpen_push (p : Pending) (text : List Char) : (p.push text).isOpen = p.isOpen := by
  rw [push]
  split <;> rfl

theorem next_inside (hp : p.isOpen = true) (hline : line ≠ []) (hend : ¬ commentEnd <:+ line) :
    p.next line = (p.push line, none) := by
  have habsorb : p.absorb? line = some (p.push line) := by
    rw [absorb?, if_pos hp, before?_eq_none_iff.mpr hend]
  rw [next, if_neg (by simpa using hline), if_pos hp, habsorb]

theorem not_commentEnd_suffix (hend : ¬ commentEnd <:+: text) (hslash : text ≠ ['/']) :
    ¬ commentEnd <:+ commentStart ++ text := by
  intro h
  obtain h | h := List.suffix_cons_iff.mp (show commentEnd <:+ '/' :: '*' :: text from h)
  · cases h
  · obtain h | h := List.suffix_cons_iff.mp h
    · exact hslash (List.cons.inj h).2.symm
    · exact hend h.isInfix

theorem next_opening (hend : ¬ commentEnd <:+: text) (hp : p.isOpen = false ∨ text ≠ ['/']) :
    (p.next (commentStart ++ text)).1.isOpen = true ∧ (p.next (commentStart ++ text)).2 = none := by
  cases ho : p.isOpen with
  | true =>
    -- What came before is still a comment, and the line is one more line of it.
    have hslash : text ≠ ['/'] := hp.resolve_left (by simp [ho])
    have hline : commentStart ++ text ≠ [] := List.cons_ne_nil _ _
    rw [next_inside ho hline (not_commentEnd_suffix hend hslash)]
    exact ⟨(isOpen_push p _).trans ho, rfl⟩
  | false =>
    have hclosing : splitAt? commentEnd text = none := splitAt?_eq_none_iff.mpr hend
    have hleading : leadingComment? (commentStart ++ text) = none := by
      rw [leadingComment?, after?_append, Option.bind_eq_bind, Option.bind_some, hclosing]
      rfl
    have hslashes : after? "//".toList (commentStart ++ text) = none := rfl
    have hnone : before? commentEnd text = none := before?_eq_none_iff.mpr fun h => hend h.isInfix
    have habsorb : p.absorb? (commentStart ++ text) = some (push ⟨[], true⟩ text) := by
      rw [absorb?, if_neg (by simp [ho]), hslashes, after?_append]
      simp only [hnone]
    have hnext : p.next (commentStart ++ text) = (push ⟨[], true⟩ text, none) := by
      rw [next, if_neg (by simp), if_neg (by simp [ho]), hleading]
      simp only [habsorb]
    rw [hnext]
    exact ⟨isOpen_push _ text, rfl⟩

end Pending

namespace Place

variable {s : Place} {l : List Char}

structure InComment (s : Place) : Prop where
  depth : s.depth = 0
  isOpen : s.above.isOpen = true

theorem next_of_depth (hs : s.depth = 0) (hl : Braceless l) :
    s.next l = (⟨0, (s.above.next (trim l)).1⟩, (s.above.next (trim l)).2) := by
  rw [next, if_pos hs, depthAfter_of_braceless hl, hs]

theorem inComment_next (hs : s.InComment) (hl : Braceless l) (hblank : trim l ≠ [])
    (hend : ¬ commentEnd <:+: l) : (s.next l).1.InComment ∧ (s.next l).2 = none := by
  have hsuffix : ¬ commentEnd <:+ trim l := fun h => hend (h.isInfix.trans (trim_isInfix l))
  rw [next_of_depth hs.depth hl, Pending.next_inside hs.isOpen hblank hsuffix]
  exact ⟨⟨rfl, (Pending.isOpen_push _ _).trans hs.isOpen⟩, rfl⟩

theorem inComment_after {lines : List (List Char)} (hs : s.InComment)
    (hlines : ∀ l ∈ lines, Braceless l ∧ trim l ≠ [] ∧ ¬ commentEnd <:+: l) :
    (s.after lines).InComment ∧ s.declares lines = List.replicate lines.length none := by
  induction lines generalizing s with
  | nil => exact ⟨hs, rfl⟩
  | cons l ls ih =>
    obtain ⟨⟨hl, hblank, hend⟩, hls⟩ := List.forall_mem_cons.mp hlines
    obtain ⟨hnext, hnone⟩ := inComment_next hs hl hblank hend
    obtain ⟨hafter, hdeclares⟩ := ih hnext hls
    refine ⟨hafter, ?_⟩
    rw [declares, hnone, hdeclares, List.length_cons, List.replicate_succ]

theorem next_blank (hs : s.depth = 0) (hl : trim l = []) (hplain : Braceless l) :
    s.next l = (start, none) := by
  rw [next_of_depth hs hplain, hl]
  rfl

end Place

/-- A comment in a block that opens at the start of a line, in no inner block, and is not closed on
that line: `inside` are lines between this one and the first later one that has the closing mark. -/
structure OpenComment (body : List Char) where
  before : List (List Char)
  opening : List Char
  text : List Char
  inside : List (List Char)
  rest : List (List Char)
  split : lines body = before ++ opening :: (inside ++ rest)
  outermost : before.foldl depthAfter 0 = 0
  opens : trim opening = commentStart ++ text
  unclosed : ∀ t ∈ text :: inside, ¬ commentEnd <:+: t
  braceless : ∀ l ∈ opening :: inside, Braceless l

variable {source : String} {body : List Char}

/-- No earlier comment is open, or the line does not look like the end of one. -/
def OpenComment.IsNew (c : OpenComment body) : Prop :=
  (Place.start.after c.before).above.isOpen = false ∨ c.text ≠ ['/']

theorem OpenComment.declares_eq (c : OpenComment body) (hnew : c.IsNew)
    {inner rest : List (List Char)} (hinside : c.inside = inner ++ rest)
    (hinner : ∀ l ∈ inner, trim l ≠ []) :
    ∃ s : Place, s.InComment ∧ Place.start.declares (lines body) =
      Place.start.declares c.before ++
        (List.replicate (inner.length + 1) none ++ s.declares (rest ++ c.rest)) := by
  obtain ⟨hopening, hbraceless⟩ := List.forall_mem_cons.mp c.braceless
  obtain ⟨hend, hends⟩ := List.forall_mem_cons.mp c.unclosed
  have hdepth : (Place.start.after c.before).depth = 0 := (Place.depth_after _).trans c.outermost
  have hnext := Place.next_of_depth hdepth hopening
  obtain ⟨hopen, hnone⟩ := Pending.next_opening hend hnew
  rw [c.opens] at hnext
  have hlines : ∀ l ∈ inner, Braceless l ∧ trim l ≠ [] ∧ ¬ commentEnd <:+: l := by
    intro l hl
    have hmem : l ∈ c.inside := hinside ▸ List.mem_append_left rest hl
    exact ⟨hbraceless l hmem, hinner l hl, hends l hmem⟩
  obtain ⟨hafter, hdeclares⟩ := Place.inComment_after (s := ⟨0, _⟩) ⟨rfl, hopen⟩ hlines
  refine ⟨_, hafter, ?_⟩
  rw [c.split, Place.declares_append, Place.declares, hnext, hnone, hinside, List.append_assoc,
    Place.declares_append, hdeclares, List.replicate_succ, List.cons_append]

/-- The lines of a comment declare nothing from the one that opens it to the first blank one. The
blank line ends the comment, and what comes after it is read like the beginning of a block. -/
theorem comment_declares_nothing (h : firstBlock? propsOpener? source.toList = some body)
    (c : OpenComment body) (hnew : c.IsNew) {inner rest : List (List Char)}
    (hinside : c.inside = inner ++ rest) (hinner : ∀ l ∈ inner, trim l ≠ []) :
    properties source = (Place.start.declares (lines body)).reduceOption ∧
    (∀ i, c.before.length ≤ i → i ≤ c.before.length + inner.length →
      (Place.start.declares (lines body))[i]? = some none) ∧
    ∀ blank later, rest = blank :: later → trim blank = [] →
      (Place.start.declares (lines body)).drop (c.before.length + inner.length + 1) =
        none :: Place.start.declares (later ++ c.rest) := by
  obtain ⟨s, hs, hdeclares⟩ := c.declares_eq hnew hinside hinner
  have hbefore : (Place.start.declares c.before).length = c.before.length :=
    Place.length_declares c.before
  refine ⟨properties_eq_declares h, fun i hlow hhigh => ?_, ?_⟩
  · rw [hdeclares, List.getElem?_append_right (by omega),
      List.getElem?_append_left (by simp; omega), List.getElem?_replicate, if_pos (by omega)]
  · rintro blank later rfl hblank
    have hmem : blank ∈ c.opening :: c.inside :=
      .tail _ (hinside ▸ List.mem_append_right inner List.mem_cons_self)
    rw [hdeclares, List.cons_append, Place.declares,
      Place.next_blank hs.depth hblank (c.braceless _ hmem), ← List.append_assoc, List.drop_left']
    simp [hbefore]
    omega

def titledBody : String := "\n  a: \x7b\n    b: c;\n  \x7d;\n  /* Note\n  title: text\n  */\n"

def titled : OpenComment titledBody.toList where
  before := ["", "  a: \x7b", "    b: c;", "  \x7d;"].map String.toList
  opening := "  /* Note".toList
  text := " Note".toList
  inside := ["  title: text".toList]
  rest := ["  */".toList]
  split := by decide +kernel
  outermost := by decide
  opens := by decide
  unclosed := by decide
  braceless := by decide

theorem comment_declares_nothing_titled :
    let source := "export type XProps=\x7b" ++ titledBody ++ "\x7d"
    (firstBlock? propsOpener? source.toList = some titledBody.toList ∧ titled.IsNew ∧
      ∀ l ∈ titled.inside, trim l ≠ []) ∧
    properties source = (Place.start.declares (lines titledBody.toList)).reduceOption ∧
    (lines titledBody.toList)[5]? = some "  title: text".toList ∧
    (Place.start.declares (lines titledBody.toList))[5]? = some none := by
  intro source
  have hblock : firstBlock? propsOpener? source.toList = some titledBody.toList := by decide +kernel
  have hnew : titled.IsNew := .inr (by decide)
  have hinside : ∀ l ∈ titled.inside, trim l ≠ [] := by decide
  obtain ⟨hall, hnone, -⟩ :=
    comment_declares_nothing hblock titled hnew (List.append_nil titled.inside).symm hinside
  exact ⟨⟨hblock, hnew, hinside⟩, hall, by decide +kernel, hnone 5 (by decide) (by decide)⟩

def gappedBody : String := "\n  a: string;\n  /*\n\n  note: text\n  */\n"

def gapped : OpenComment gappedBody.toList where
  before := ["", "  a: string;"].map String.toList
  opening := "  /*".toList
  text := []
  inside := ["", "  note: text"].map String.toList
  rest := ["  */".toList]
  split := by decide +kernel
  outermost := by decide
  opens := by decide
  unclosed := by decide
  braceless := by decide

/-- A line of the comment declares a property: there is a blank line before it. -/
theorem not_comment_undeclared :
    let source := "export interface XProps \x7b" ++ gappedBody ++ "\x7d"
    firstBlock? propsOpener? source.toList = some gappedBody.toList ∧ gapped.IsNew ∧
      "  note: text".toList ∈ gapped.inside ∧
      (properties source).map (fun p => (p.name, p.type)) =
        [("a", "string"), ("note", "text")] := by
  exact ⟨by decide +kernel, .inr (by decide), by decide, by decide +kernel⟩

end Component

end StyleGuide
