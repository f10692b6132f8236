import Mathlib.Tactic.MkIffOfInductiveProp
import StyleGuide.Plan.Template
import StyleGuide.Proofs.PlainBlock

namespace StyleGuide.Text

open Plan.Template (text toList_text)

/-- Where `depth` blocks are open, no beginning of the text closes more than these and those that it
opens. -/
def ClosesOwn (depth : Nat) (cs : List Char) : Prop :=
  ∀ k, (cs.take k).count '}' ≤ depth + (cs.take k).count '{'

instance (cs : List Char) : Decidable (Balanced cs) :=
  decidable_of_iff (cs.count '{' = cs.count '}' ∧
      ∀ k < cs.length + 1, (cs.take k).count '}' ≤ (cs.take k).count '{') <| by
    refine and_congr_right fun heq => ⟨fun h k => ?_, fun h k _ => h k⟩
    obtain hk | hk := Nat.lt_or_ge k (cs.length + 1)
    · exact h k hk
    · rw [List.take_of_length_le (by omega), heq]

section

variable {cs bs : List Char} {depth : Nat}

theorem balanced_iff : Balanced cs ↔ ClosesOwn 0 cs ∧ depthAfter 0 cs = 0 := by
  have hwhole : (cs.take cs.length).count '}' ≤ 0 + (cs.take cs.length).count '{' ↔
      cs.count '}' ≤ cs.count '{' := by
    rw [List.take_length, Nat.zero_add]
  constructor
  · rintro ⟨heq, hle⟩
    refine ⟨fun k => by simpa using hle k, ?_⟩
    rw [depthAfter]
    omega
  · rintro ⟨hown, hdepth⟩
    have hle := hwhole.mp (hown cs.length)
    rw [depthAfter] at hdepth
    exact ⟨by omega, fun k => by simpa using hown k⟩

theorem ClosesOwn.count_le (h : ClosesOwn depth cs) : cs.count '}' ≤ depth + cs.count '{' := by
  have hwhole := h cs.length
  rwa [List.take_length] at hwhole

theorem closesOwn_append :
    ClosesOwn depth (cs ++ bs) ↔ ClosesOwn depth cs ∧ ClosesOwn (depthAfter depth cs) bs := by
  constructor
  · intro h
    have hcs : ClosesOwn depth cs := by
      intro k
      have hk := h (min k cs.length)
      rwa [List.take_append_of_le_length (Nat.min_le_right k _), ← List.take_eq_take_min] at hk
    refine ⟨hcs, fun k => ?_⟩
    have hk := h (cs.length + k)
    have hle := hcs.count_le
    rw [List.take_length_add_append, List.count_append, List.count_append] at hk
    rw [depthAfter]
    omega
  · rintro ⟨hcs, hbs⟩ k
    have hle := hcs.count_le
    have hk := hcs k
    have hk' := hbs (k - cs.length)
    rw [List.take_append, List.count_append, List.count_append]
    rw [depthAfter] at hk'
    obtain hlt | hge := Nat.lt_or_ge k cs.length
    · rw [Nat.sub_eq_zero_of_le hlt.le, List.take_zero, List.count_nil, List.count_nil]
      exact hk
    · rw [List.take_of_length_le hge]
      omega

theorem depthAfter_append (h : ClosesOwn depth cs) (bs : List Char) :
    depthAfter depth (cs ++ bs) = depthAfter (depthAfter depth cs) bs := by
  have hle := h.count_le
  simp only [depthAfter, List.count_append]
  omega

theorem ClosesOwn.mono {other : Nat} (h : ClosesOwn depth cs) (hle : depth ≤ other) :
    ClosesOwn other cs :=
  fun k => (h k).trans (Nat.add_le_add_right hle _)

theorem Balanced.closesOwn (h : Balanced cs) (depth : Nat) : ClosesOwn depth cs :=
  (balanced_iff.mp h).1.mono (Nat.zero_le depth)

theorem Balanced.depthAfter_eq (h : Balanced cs) (depth : Nat) : depthAfter depth cs = depth := by
  rw [depthAfter, h.1, Nat.add_sub_cancel]

theorem Balanced.append (h : Balanced cs) (h' : Balanced bs) : Balanced (cs ++ bs) := by
  obtain ⟨hown, hdepth⟩ := balanced_iff.mp h
  rw [balanced_iff, closesOwn_append, depthAfter_append hown, hdepth]
  exact ⟨⟨hown, h'.closesOwn 0⟩, h'.depthAfter_eq 0⟩

theorem Braceless.balanced (h : Braceless cs) : Balanced cs := by
  have hnone : ∀ {c}, c ∉ cs → ∀ k, (cs.take k).count c = 0 := fun hc k =>
    List.count_eq_zero_of_not_mem fun hm => hc (List.mem_of_mem_take hm)
  refine ⟨?_, fun k => ?_⟩
  · rw [List.count_eq_zero_of_not_mem h.1, List.count_eq_zero_of_not_mem h.2]
  · rw [hnone h.1, hnone h.2]

theorem balanced_flatMap {α : Type} {f : α → List Char} {as : List α}
    (h : ∀ a ∈ as, Balanced (f a)) :
    Balanced (as.flatMap f) := by
  induction as with
  | nil => exact Braceless.balanced ⟨List.not_mem_nil, List.not_mem_nil⟩
  | cons a as ih =>
    obtain ⟨ha, has⟩ := List.forall_mem_cons.mp h
    exact ha.append (ih has)

theorem Balanced.block (h : Balanced cs) : Balanced ('{' :: (cs ++ ['}'])) := by
  have hopen : ClosesOwn 0 ['{'] := by
    rintro (_ | k) <;> simp
  have hclose : ClosesOwn 1 ['}'] := by
    rintro (_ | k) <;> simp
  have hinner : ClosesOwn 1 (cs ++ ['}']) :=
    closesOwn_append.mpr ⟨h.closesOwn 1, (h.depthAfter_eq 1).symm ▸ hclose⟩
  have hdepth : depthAfter 1 (cs ++ ['}']) = 0 := by
    rw [depthAfter_append (h.closesOwn 1), h.depthAfter_eq]
    rfl
  rw [← List.singleton_append, balanced_iff, closesOwn_append, depthAfter_append hopen]
  exact ⟨⟨hopen, hinner⟩, hdepth⟩

/-! The search for the brace that closes a block. -/

theorem closing_cons {c : Char} (h : ClosesOwn depth [c]) (r : List Char) :
    closing depth (c :: r) = (closing (depthAfter depth [c]) r).map fun p => (c :: p.1, p.2) := by
  by_cases hc : c = '}'
  · subst hc
    cases depth with
    | zero => exact absurd (h 1) (by decide)
    | succ d => rfl
  · by_cases ho : c = '{'
    · subst ho
      rfl
    · have hplain : Braceless [c] := ⟨by simpa using Ne.symm ho, by simpa using Ne.symm hc⟩
      rw [depthAfter_of_braceless hplain, closing.eq_def]
      simp [hc, ho]

theorem closing_append (h : ClosesOwn depth cs) (rest : List Char) :
    closing depth (cs ++ rest) = (closing (depthAfter depth cs) rest).map fun p =>
      (cs ++ p.1, p.2) := by
  induction cs generalizing depth with
  | nil => exact Option.map_id'.symm
  | cons c cs ih =>
    rw [← List.singleton_append, closesOwn_append] at h
    rw [List.cons_append, closing_cons h.1, ih h.2, ← depthAfter_append h.1, Option.map_map]
    rfl

theorem closing_of_balanced (h : Balanced cs) (rest : List Char) :
    closing 0 (cs ++ '}' :: rest) = some (cs, rest) := by
  have hbrace : closing 0 ('}' :: rest) = some ([], rest) := rfl
  rw [closing_append (h.closesOwn 0), h.depthAfter_eq, hbrace, Option.map_some, List.append_nil]

end

/-! The lines of inner blocks. -/

section

variable {ls : List (List Char)} {depth : Nat}

theorem balanced_text_flatMap {α : Type} {f : α → List String} {as : List α}
    (h : ∀ a ∈ as, Balanced (ofLines ((f a).map String.toList))) :
    Balanced (text (as.flatMap f)).toList := by
  rw [toList_text, List.map_flatMap, ofLines, List.flatMap_assoc]
  exact balanced_flatMap h

theorem depthAfter_withoutReturn (depth : Nat) (l : List Char) :
    depthAfter depth (withoutReturn l) = depthAfter depth l := by
  obtain ⟨bs, hbs, heq⟩ := withoutReturn_append l
  have hnone : ∀ {c}, isBlank c = false → bs.count c = 0 := fun hc =>
    List.count_eq_zero_of_not_mem fun hm => absurd (hbs _ hm) (by rw [hc]; decide)
  have hcount : ∀ {c}, isBlank c = false → l.count c = (withoutReturn l).count c := by
    intro c hc
    rw [← heq, List.count_append, hnone hc, heq, Nat.add_zero]
  rw [depthAfter, depthAfter, hcount (c := '{') (by decide), hcount (c := '}') (by decide)]

theorem outermost_map_withoutReturn (depth : Nat) (ls : List (List Char)) :
    outermost depth (ls.map withoutReturn) = (outermost depth ls).map withoutReturn := by
  induction ls generalizing depth with
  | nil => rfl
  | cons l ls ih =>
    rw [List.map_cons, outermost, outermost, depthAfter_withoutReturn, ih]
    split <;> rfl

theorem topLevelLines_ofLines (h : ∀ l ∈ ls, '\n' ∉ l) :
    topLevelLines (ofLines ls) = (outermost 0 ls).map withoutReturn := by
  rw [topLevelLines, lines_ofLines h, outermost_map_withoutReturn]

theorem outermost_inner (h : ClosesOwn depth (ofLines ls)) (rest : List (List Char)) :
    outermost (depth + 1) (ls ++ rest) = outermost (depthAfter depth (ofLines ls) + 1) rest := by
  induction ls generalizing depth with
  | nil => rfl
  | cons l ls ih =>
    have hsplit : ofLines (l :: ls) = (l ++ ['\n']) ++ ofLines ls := List.flatMap_cons
    have hfeed : depthAfter depth (l ++ ['\n']) = depthAfter depth l := by simp [depthAfter]
    rw [hsplit, closesOwn_append, hfeed] at h
    have hle := (closesOwn_append.mp h.1).1.count_le
    have hsucc : depthAfter (depth + 1) l = depthAfter depth l + 1 := by
      simp only [depthAfter]
      omega
    rw [List.cons_append, outermost, if_neg (Nat.succ_ne_zero depth), hsucc, ih h.2, hsplit,
      depthAfter_append h.1, hfeed]

theorem topLevelLines_text {ls : List String} (h : ∀ l ∈ ls, '\n' ∉ l.toList) :
    topLevelLines ('\n' :: (text ls).toList) =
      [] :: (outermost 0 (ls.map String.toList)).map withoutReturn := by
  have hls : ∀ l ∈ [] :: ls.map String.toList, '\n' ∉ l :=
    List.forall_mem_cons.mpr ⟨List.not_mem_nil, List.forall_mem_map.mpr h⟩
  rw [toList_text, ← List.nil_append ('\n' :: _), ← ofLines_cons, topLevelLines_ofLines hls,
    outermost, if_pos rfl]
  rfl

/-- Of an inner block only the line that opens it is outermost. -/
theorem outermost_block {heading closing : List Char} {body : List (List Char)}
    (hheading : depthAfter 0 heading = 1) (hbody : Balanced (ofLines body))
    (hclosing : depthAfter 1 closing = 0) (rest : List (List Char)) :
    outermost 0 (heading :: (body ++ closing :: rest)) = heading :: outermost 0 rest := by
  rw [outermost, if_pos rfl, hheading, outermost_inner (hbody.closesOwn 0), hbody.depthAfter_eq,
    outermost, if_neg Nat.one_ne_zero, hclosing]

end

def IsMargin (s : String) : Prop := ∀ c ∈ s.toList, isBlank c = true ∧ c ≠ '\n'

instance (s : String) : Decidable (IsMargin s) := inferInstanceAs (Decidable (∀ c ∈ s.toList, _))

namespace IsMargin

variable {s : String}

theorem isBlank (h : IsMargin s) : ∀ c ∈ s.toList, isBlank c = true := fun c hc => (h c hc).1

theorem not_newline_mem (h : IsMargin s) : '\n' ∉ s.toList := fun hm => (h _ hm).2 rfl

theorem braceless (h : IsMargin s) : Braceless s.toList :=
  ⟨fun hm => absurd (h _ hm).1 (by decide), fun hm => absurd (h _ hm).1 (by decide)⟩

end IsMargin

/-- A block in another one: the key and the brace that open it, its lines, and the brace that closes
it. -/
structure InnerBlock where
  indent : String
  key : String
  body : List String

namespace InnerBlock

def heading (b : InnerBlock) : String := b.indent ++ b.key ++ ": \x7b"

def closing (b : InnerBlock) : String := b.indent ++ "\x7d,"

def lines (b : InnerBlock) : List String := b.heading :: (b.body ++ [b.closing])

@[mk_iff]
structure WellFormed (b : InnerBlock) : Prop where
  indent : IsMargin b.indent
  key_line : '\n' ∉ b.key.toList
  key_braceless : Braceless b.key.toList
  body_lines : ∀ line ∈ b.body, '\n' ∉ line.toList
  body_balanced : Balanced (text b.body).toList

instance (b : InnerBlock) : Decidable b.WellFormed := decidable_of_iff' _ (wellFormed_iff b)

variable {b : InnerBlock}

theorem WellFormed.depthAfter_heading (h : b.WellFormed) : depthAfter 0 b.heading.toList = 1 := by
  have hplain : Braceless (b.indent.toList ++ b.key.toList ++ [':', ' ']) :=
    (h.indent.braceless.append h.key_braceless).append (by decide)
  have hsplit : b.heading.toList = (b.indent.toList ++ b.key.toList ++ [':', ' ']) ++ ['{'] := by
    simp [heading]
  rw [hsplit, depthAfter_append (hplain.balanced.closesOwn 0), depthAfter_of_braceless hplain]
  rfl

theorem WellFormed.depthAfter_closing (h : b.WellFormed) : depthAfter 1 b.closing.toList = 0 := by
  have hplain := h.indent.braceless
  have hsplit : b.closing.toList = b.indent.toList ++ ['}', ','] := by simp [closing]
  rw [hsplit, depthAfter_append (hplain.balanced.closesOwn 1), depthAfter_of_braceless hplain]
  rfl

theorem WellFormed.not_mem_lines (h : b.WellFormed) : ∀ line ∈ b.lines, '\n' ∉ line.toList := by
  have hindent := h.indent.not_newline_mem
  refine List.forall_mem_cons.mpr ⟨?_, List.forall_mem_append.mpr ⟨h.body_lines, ?_⟩⟩
  · simp [heading, hindent, h.key_line]
  · simp [closing, hindent]

theorem WellFormed.outermost_lines (h : b.WellFormed) (rest : List (List Char)) :
    outermost 0 (b.lines.map String.toList ++ rest) = b.heading.toList :: outermost 0 rest := by
  have hsplit : b.lines.map String.toList ++ rest =
      b.heading.toList :: (b.body.map String.toList ++ b.closing.toList :: rest) := by
    simp [lines]
  have hbody := h.body_balanced
  rw [toList_text] at hbody
  rw [hsplit, outermost_block h.depthAfter_heading hbody h.depthAfter_closing]

theorem WellFormed.balanced_lines (h : b.WellFormed) :
    Balanced (ofLines (b.lines.map String.toList)) := by
  have hbody := h.body_balanced
  rw [toList_text] at hbody
  have hfeed : Braceless ['\n'] := by decide
  have hfront : Braceless (b.indent.toList ++ b.key.toList ++ [':', ' ']) :=
    (h.indent.braceless.append h.key_braceless).append (by decide)
  have hinner := hfeed.balanced.append (hbody.append h.indent.braceless.balanced)
  have hback : Braceless [',', '\n'] := by decide
  have hsplit : ofLines (b.lines.map String.toList) =
      (b.indent.toList ++ b.key.toList ++ [':', ' ']) ++
      ('{' :: (['\n'] ++ (ofLines (b.body.map String.toList) ++ b.indent.toList) ++ ['}']) ++
        [',', '\n']) := by
    simp [lines, heading, closing, ofLines]
  rw [hsplit]
  exact hfront.balanced.append (hinner.block.append hback.balanced)

end InnerBlock

end StyleGuide.Text
