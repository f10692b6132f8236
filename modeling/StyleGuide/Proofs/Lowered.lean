import StyleGuide.Plan.Basic
import StyleGuide.Text.Lowercase

namespace StyleGuide

namespace Text

/-- The characters up to the backslash, among them all that a path gives a meaning to. None of them
is a small letter. -/
def isLow (c : Char) : Bool := c != '\x00' && c.toNat < 0x5D

namespace Lowercase

theorem toLower_low : ∀ n < 0x80, isLow (Char.ofNat n).toLower = true →
    (Char.ofNat n).toLower = Char.ofNat n := by
  decide

theorem shift_past_low : ∀ r ∈ runs, 0x5D ≤ (r.first : Int) + r.shift := by
  decide +kernel

theorem toNat_ofNat (n : Nat) : (Char.ofNat n).toNat = n ∨ (Char.ofNat n).toNat = 0 := by
  by_cases h : n.isValidChar
  · rw [Char.ofNat, dif_pos h]
    exact .inl rfl
  · rw [Char.ofNat, dif_neg h]
    exact .inr rfl

theorem isLow_ofNat {n : Nat} (h : 0x5D ≤ n) : isLow (Char.ofNat n) = false := by
  obtain hn | hn := toNat_ofNat n
  · simp [isLow, hn, h]
  · have hnul : Char.ofNat n = '\x00' := Char.toNat_inj.mp hn
    rw [hnul]
    decide

theorem small_of_isLow {c : Char} (h : isLow (small c) = true) : small c = c := by
  rw [small] at h ⊢
  split at h
  · next hc =>
    rw [if_pos hc]
    have hl := toLower_low c.toNat hc
    rw [Char.ofNat_toNat] at hl
    exact hl h
  · next hc =>
    rw [if_neg hc]
    cases hf : runs.find? (·.has c.toNat) with
    | none => rfl
    | some r =>
      rw [hf] at h
      have hs := shift_past_low r (List.mem_of_find?_eq_some hf)
      have hr : r.first ≤ c.toNat := by
        have hh := List.find?_some hf
        simp only [Run.has, Bool.and_eq_true, decide_eq_true_eq] at hh
        exact hh.1.1
      have hm := isLow_ofNat (n := (c.toNat + r.shift).toNat) (by omega)
      rw [hm] at h
      cases h

end Lowercase

open Lowercase

/-- What one character becomes has no low one in it, unless it is that very character. -/
theorem lowerAfter_cons (seen : List Char) (c : Char) (r : List Char) :
    ∃ cs, cs ≠ [] ∧ lowerAfter seen (c :: r) = cs ++ lowerAfter (c :: seen) r ∧
      ∀ d ∈ cs, isLow d = true → cs = [c] := by
  rw [lowerAfter]
  refine ⟨_, ?_, rfl, ?_⟩
  · split
    · split <;> exact List.cons_ne_nil _ _
    · split <;> exact List.cons_ne_nil _ _
  · intro d hd hm
    split at hd
    · split at hd <;> cases List.mem_singleton.mp hd <;> cases hm
    · split at hd
      · simp only [List.mem_cons, List.not_mem_nil, or_false] at hd
        obtain rfl | rfl := hd <;> cases hm
      · next h₁ h₂ =>
        rw [if_neg h₁, if_neg h₂]
        rw [List.mem_singleton.mp hd] at hm
        rw [small_of_isLow hm]

theorem mem_of_mem_lowerAfter {seen cs : List Char} {d : Char} (h : d ∈ lowerAfter seen cs)
    (hd : isLow d = true) : d ∈ cs := by
  induction cs generalizing seen with
  | nil => exact h
  | cons c r ih =>
    obtain ⟨ds, -, heq, hds⟩ := lowerAfter_cons seen c r
    rw [heq] at h
    obtain h | h := List.mem_append.mp h
    · rw [hds d h hd] at h
      rw [List.mem_singleton.mp h]
      exact List.mem_cons_self
    · exact List.mem_cons_of_mem _ (ih h)

theorem lowerAfter_low {seen cs : List Char} (h : ∀ d ∈ lowerAfter seen cs, isLow d = true) :
    lowerAfter seen cs = cs := by
  induction cs generalizing seen with
  | nil => rfl
  | cons c r ih =>
    obtain ⟨ds, hne, heq, hds⟩ := lowerAfter_cons seen c r
    rw [heq] at h ⊢
    obtain ⟨d, _, rfl⟩ := List.exists_cons_of_ne_nil hne
    have hd := hds d List.mem_cons_self (h d (List.mem_append_left _ List.mem_cons_self))
    have hr := ih fun d hd => h d (List.mem_append_right _ hd)
    rw [hd, hr]
    rfl

end Text

theorem Plan.toList_lowered (name : String) :
    (lowered name).toList = Text.lowerAfter [] name.toList := by
  simp [lowered, Text.lower]

theorem Plan.not_mem_lowered {name : String} {c : Char} (hc : Text.isLow c = true)
    (h : c ∉ name.toList) : c ∉ (lowered name).toList := by
  rw [toList_lowered]
  exact fun hm => h (Text.mem_of_mem_lowerAfter hm hc)

end StyleGuide
