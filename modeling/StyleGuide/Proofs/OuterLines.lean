import StyleGuide.Proofs.MatchingBrace

namespace StyleGuide.Text

variable {cs line : List Char} {ls before after : List (List Char)}

def isEvenAt (ls : List (List Char)) (n : Nat) : Bool :=
  (ls.take n).flatten.count '{' == (ls.take n).flatten.count '}'

/-- The lines before which all that was opened is closed. -/
def evenLines (ls : List (List Char)) : List (List Char) :=
  (ls.zipIdx.filter fun l => isEvenAt ls l.2).map Prod.fst

/-- With each line no more is closed than has been opened by its end. -/
def LinesCloseOwn (ls : List (List Char)) : Prop :=
  ∀ before line after, ls = before ++ line :: after →
    before.flatten.count '}' + line.count '}' ≤ before.flatten.count '{' + line.count '{'

theorem prefix_of_lines_cons (h : lines cs = line :: after) : line <+: cs := by
  fun_induction lines cs generalizing line after with
  | case1 => cases h
  | case2 r ih =>
    obtain ⟨rfl, -⟩ := List.cons.inj h
    exact List.nil_prefix
  | case3 r ih =>
    obtain ⟨rfl, -⟩ := List.cons.inj h
    exact List.nil_prefix
  | case4 c r _ _ hr =>
    obtain ⟨rfl, -⟩ := List.cons.inj h
    exact List.cons_prefix_cons.mpr ⟨rfl, List.nil_prefix⟩
  | case5 c r _ _ k ks hk ih =>
    obtain ⟨rfl, -⟩ := List.cons.inj h
    exact List.cons_prefix_cons.mpr ⟨rfl, ih hk⟩

/-- A line begins in a text where the characters of the lines before it have been read, and besides
them only what ends these lines. -/
def BeginsAfter (before : List (List Char)) (line cs : List Char) : Prop :=
  ∃ front, front ++ line <+: cs ∧ ∀ c, c ≠ '\n' → c ≠ '\r' → front.count c = before.flatten.count c

theorem BeginsAfter.first (h : line <+: cs) : BeginsAfter [] line cs := ⟨[], h, fun _ _ _ => rfl⟩

theorem BeginsAfter.ended {c : Char} (h : BeginsAfter before line cs) (hc : c = '\n' ∨ c = '\r') :
    BeginsAfter before line (c :: cs) := by
  obtain ⟨front, hfront, hcount⟩ := h
  refine ⟨c :: front, List.cons_prefix_cons.mpr ⟨rfl, hfront⟩, fun d hn hr => ?_⟩
  have hd : c ≠ d := by
    rintro rfl
    exact hc.elim hn hr
  rw [List.count_cons_of_ne hd, hcount d hn hr]

theorem BeginsAfter.char {b : List Char} (h : BeginsAfter (b :: before) line cs) (c : Char) :
    BeginsAfter ((c :: b) :: before) line (c :: cs) := by
  obtain ⟨front, hfront, hcount⟩ := h
  refine ⟨c :: front, List.cons_prefix_cons.mpr ⟨rfl, hfront⟩, fun d hn hr => ?_⟩
  rw [List.flatten_cons, List.cons_append, List.count_cons, List.count_cons, hcount d hn hr,
    List.flatten_cons]

theorem beginsAfter_of_lines (h : lines cs = before ++ line :: after) :
    BeginsAfter before line cs := by
  fun_induction lines cs generalizing before with
  | case1 => simp at h
  | case2 r ih =>
    cases before with
    | nil => exact .first (prefix_of_lines_cons h)
    | cons b before =>
      obtain ⟨rfl, hr⟩ := List.cons.inj h
      exact (ih hr).ended (.inl rfl)
  | case3 r ih =>
    cases before with
    | nil => exact .first (prefix_of_lines_cons h)
    | cons b before =>
      obtain ⟨rfl, hr⟩ := List.cons.inj h
      exact ((ih hr).ended (.inl rfl)).ended (.inr rfl)
  | case4 c r _ _ hr =>
    cases before with
    | nil =>
      obtain ⟨rfl, -⟩ := List.cons.inj h
      exact .first (List.cons_prefix_cons.mpr ⟨rfl, List.nil_prefix⟩)
    | cons b before => simp at h
  | case5 c r _ _ k ks hk ih =>
    cases before with
    | nil =>
      obtain ⟨rfl, -⟩ := List.cons.inj h
      exact .first (List.cons_prefix_cons.mpr ⟨rfl, prefix_of_lines_cons hk⟩)
    | cons b before =>
      obtain ⟨rfl, hks⟩ := List.cons.inj h
      have hrest : lines r = (k :: before) ++ line :: after := hk.trans (congrArg _ hks)
      exact (ih hrest).char c

theorem BeginsAfter.closes_le (h : BeginsAfter before line cs) (hcs : ClosesOwn 0 cs) :
    before.flatten.count '}' + line.count '}' ≤ before.flatten.count '{' + line.count '{' := by
  obtain ⟨front, ⟨rest, rfl⟩, hcount⟩ := h
  have hle := (closesOwn_append.mp hcs).1.count_le
  rw [List.count_append, List.count_append, hcount _ (by decide) (by decide),
    hcount _ (by decide) (by decide)] at hle
  omega

theorem linesCloseOwn_of_closesOwn (h : ClosesOwn 0 cs) : LinesCloseOwn (lines cs) :=
  fun _ _ _ hls => (beginsAfter_of_lines hls).closes_le h

/-- The depth that is kept from line to line is what has been opened and not closed. -/
theorem foldl_depthAfter (h : LinesCloseOwn (before ++ after)) :
    before.foldl depthAfter 0 + before.flatten.count '}' = before.flatten.count '{' := by
  induction before using List.reverseRecOn generalizing after with
  | nil => rfl
  | append_singleton before line ih =>
    rw [List.append_assoc, List.singleton_append] at h
    have hbefore := ih h
    have hline := h before line after rfl
    rw [List.foldl_append, List.foldl_cons, List.foldl_nil, depthAfter, List.flatten_append,
      List.count_append, List.count_append, List.flatten_singleton]
    omega

theorem isEvenAt_append (h : LinesCloseOwn (before ++ after)) :
    isEvenAt (before ++ after) before.length = decide (before.foldl depthAfter 0 = 0) := by
  have hdepth := foldl_depthAfter h
  rw [isEvenAt, List.take_left, Bool.eq_iff_iff, beq_iff_eq, decide_eq_true_iff]
  omega

theorem outermost_append (h : LinesCloseOwn (before ++ ls)) :
    outermost (before.foldl depthAfter 0) ls =
      ((ls.zipIdx before.length).filter fun l => isEvenAt (before ++ ls) l.2).map Prod.fst := by
  induction ls generalizing before with
  | nil => rfl
  | cons line ls ih =>
    have heven := isEvenAt_append h
    have hsplit : before ++ line :: ls = (before ++ [line]) ++ ls := by simp
    rw [hsplit] at h
    have hrest := ih h
    rw [List.foldl_append, List.length_append, ← hsplit] at hrest
    rw [List.zipIdx_cons, List.filter_cons, heven, outermost]
    by_cases hdepth : before.foldl depthAfter 0 = 0
    · rw [if_pos hdepth, if_pos (decide_eq_true hdepth), List.map_cons]
      exact congrArg _ hrest
    · rw [if_neg hdepth, if_neg (by simpa using hdepth)]
      exact hrest

/-- Of the body of a block those lines are outermost before which all that was opened is closed. The
depth that is kept from line to line is the exact one at the place where each line begins, and no
line closes more than is open there, so that it is never cut off at zero. -/
theorem topLevelLines_of_blockAt {text body : List Char} {offset : Nat}
    (h : blockAt text offset = .ok (some body)) :
    topLevelLines body = evenLines (lines body) ∧
      ∀ before line after, lines body = before ++ line :: after →
        before.foldl depthAfter 0 + before.flatten.count '}' = before.flatten.count '{' ∧
        line.count '}' ≤ before.foldl depthAfter 0 + line.count '{' ∧
        ∃ front, front ++ line <+: body ∧
          before.foldl depthAfter 0 + front.count '}' = front.count '{' := by
  obtain ⟨_, _, -, -, hbody⟩ := blockAt_eq_some_iff.mp h
  have hlines := linesCloseOwn_of_closesOwn (hbody.closesOwn 0)
  have hall : LinesCloseOwn ([] ++ lines body) := hlines
  refine ⟨outermost_append hall, fun before line after hsplit => ?_⟩
  have hdepth := foldl_depthAfter (hsplit ▸ hlines)
  have hline := hlines before line after hsplit
  obtain ⟨front, hfront, hcount⟩ := beginsAfter_of_lines hsplit
  refine ⟨hdepth, by omega, front, hfront, ?_⟩
  rw [hcount _ (by decide) (by decide), hcount _ (by decide) (by decide)]
  exact hdepth

def tangled : List Char := "\na: \x7b\r\n b: \x7b c\n\x7d\x7d, d: \x7b\x7b\n\x7d\x7d\r\n e ".toList

theorem topLevelLines_of_blockAt_tangled :
    blockAt ("x ".toList ++ '{' :: tangled ++ ['}']) 2 = .ok (some tangled) ∧
      topLevelLines tangled = ["".toList, "a: \x7b".toList, " e ".toList] := by
  have hblock : blockAt ("x ".toList ++ '{' :: tangled ++ ['}']) 2 = .ok (some tangled) := by
    decide +kernel
  refine ⟨hblock, (topLevelLines_of_blockAt hblock).1.trans ?_⟩
  decide +kernel

end StyleGuide.Text
