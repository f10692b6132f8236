import StyleGuide.Json.Basic

namespace StyleGuide

namespace Decimal

theorem isDigit_digit {n : Nat} (h : n < 10) : isDigit (digit n) = true := by
  have hall : ∀ m < 10, isDigit (digit m) = true := by decide
  exact hall n h

theorem isDigit_of_mem_digits {n : Nat} {c : Char} (h : c ∈ digits n) : isDigit c = true := by
  induction n using Nat.strongRecOn with
  | _ n ih =>
    rw [digits] at h
    split at h
    · next hn =>
      rw [List.mem_singleton.1 h]
      exact isDigit_digit hn
    · next hn =>
      obtain h | h := List.mem_append.1 h
      · exact ih (n / 10) (by omega) h
      · rw [List.mem_singleton.1 h]
        exact isDigit_digit (Nat.mod_lt n (by omega))

theorem isDigit_of_mem_significant {d : Scaled} {c : Char} (h : c ∈ d.significant.1) :
    isDigit c = true := by
  rw [Scaled.significant] at h
  dsimp only at h
  split at h
  · rw [List.mem_singleton.1 h]
    decide
  · have hd : c ∈ (digits d.coefficient).reverse :=
      (List.dropWhile_sublist _).subset (List.mem_reverse.1 h)
    exact isDigit_of_mem_digits (List.mem_reverse.1 hd)

theorem ne_newline_of_isDigit {c : Char} (h : isDigit c = true) : c ≠ '\n' := by
  intro he
  rw [he] at h
  exact absurd h (by decide)

theorem newline_not_mem_digits (n : Nat) : '\n' ∉ digits n :=
  fun h => ne_newline_of_isDigit (isDigit_of_mem_digits h) rfl

theorem newline_not_mem_int (i : Int) : '\n' ∉ int i := by
  rw [int]
  split <;> simp [newline_not_mem_digits]

namespace Layout

variable {l : Layout} {ds : List Char}

theorem newline_not_mem_positional (hw : '\n' ∉ l.wholeMark) (hd : '\n' ∉ ds) (e : Int) :
    '\n' ∉ l.positional ds e := by
  have hz (n : Nat) : '\n' ∉ zeros n := fun h => absurd (List.eq_of_mem_replicate h) (by decide)
  have ht (n : Nat) : '\n' ∉ ds.take n := fun h => hd (List.mem_of_mem_take h)
  have hr (n : Nat) : '\n' ∉ ds.drop n := fun h => hd (List.mem_of_mem_drop h)
  rw [positional]
  dsimp only
  split
  · simp [hz, hd]
  · split <;> simp [hz, hd, hw, ht, hr]

theorem newline_not_mem_scientific (hp : '\n' ∉ l.plus) (hd : '\n' ∉ ds) (e : Int) :
    '\n' ∉ l.scientific ds e := by
  have ht : '\n' ∉ ds.take 1 := fun h => hd (List.mem_of_mem_take h)
  have hr : '\n' ∉ ds.drop 1 := fun h => hd (List.mem_of_mem_drop h)
  have hfraction : '\n' ∉ (if (ds.drop 1).isEmpty then [] else '.' :: ds.drop 1) := by
    split
    · exact List.not_mem_nil
    · exact List.not_mem_cons_of_ne_of_not_mem (by decide) hr
  have hexponent : '\n' ∉ (if e < 0 then '-' :: digits e.natAbs
      else l.plus ++ digits e.natAbs) := by
    split <;> simp [newline_not_mem_digits, hp]
  simp only [scientific, List.mem_append, List.mem_cons, not_or]
  exact ⟨⟨ht, hfraction⟩, by decide, hexponent⟩

theorem newline_not_mem_float (hw : '\n' ∉ l.wholeMark) (hp : '\n' ∉ l.plus) (x : Float) :
    '\n' ∉ l.float x := by
  have hsign : '\n' ∉ (if x.toBits.toNat < two 63 then [] else ['-']) := by
    split <;> decide
  have hd : '\n' ∉ (Binary.ofFloat x).shortest.significant.1 :=
    fun h => ne_newline_of_isDigit (isDigit_of_mem_significant h) rfl
  rw [float]
  dsimp only
  split
  · simp [hsign, hw]
  · have hbody : '\n' ∉ (if l.leastPositional ≤ (Binary.ofFloat x).shortest.significant.2 ∧
        (Binary.ofFloat x).shortest.significant.2 ≤ l.mostPositional then
        l.positional (Binary.ofFloat x).shortest.significant.1
          (Binary.ofFloat x).shortest.significant.2
      else l.scientific (Binary.ofFloat x).shortest.significant.1
        (Binary.ofFloat x).shortest.significant.2) := by
      split
      · exact newline_not_mem_positional hw hd _
      · exact newline_not_mem_scientific hp hd _
    rw [List.mem_append, not_or]
    exact ⟨hsign, hbody⟩

end Layout

end Decimal

namespace Json

open StyleGuide.Text (hexDigit)

theorem newline_not_mem_escape (c : Char) : '\n' ∉ escape c := by
  have hhex : ∀ n < 16, hexDigit n ≠ '\n' := by decide
  by_cases hc : c = '\n'
  · rw [hc]
    decide
  · rw [escape]
    iterate 6
      split
      · decide
    split
    · next hn =>
      have hhigh := hhex (c.toNat / 16) (by omega)
      have hlow := hhex (c.toNat % 16) (by omega)
      simp [hhigh.symm, hlow.symm]
    · exact fun h => hc (List.mem_singleton.1 h).symm

theorem newline_not_mem_stringChars (s : String) : '\n' ∉ stringChars s := by
  simp [stringChars, newline_not_mem_escape]

theorem newline_not_mem_scalarChars (s : Scalar) : '\n' ∉ scalarChars s := by
  cases s with
  | null => decide
  | bool b => cases b <;> decide
  | int i => exact Decimal.newline_not_mem_int i
  | float x => exact Decimal.Layout.newline_not_mem_float (by decide) (by decide) x
  | string s => exact newline_not_mem_stringChars s

mutual

theorem newline_not_mem_chars : (j : Json) → '\n' ∉ chars j
  | .scalar s => newline_not_mem_scalarChars s
  | .array [] => by decide
  | .array (x :: xs) => by
    simp [chars, newline_not_mem_chars x, newline_not_mem_itemChars xs]
  | .object [] => by decide
  | .object (m :: ms) => by
    simp [chars, newline_not_mem_memberChars m, newline_not_mem_membersChars ms]

theorem newline_not_mem_itemChars : (xs : List Json) → '\n' ∉ itemChars xs
  | [] => List.not_mem_nil
  | x :: xs => by simp [itemChars, newline_not_mem_chars x, newline_not_mem_itemChars xs]

theorem newline_not_mem_memberChars : (m : String × Json) → '\n' ∉ memberChars m
  | (name, x) => by simp [memberChars, newline_not_mem_stringChars, newline_not_mem_chars x]

theorem newline_not_mem_membersChars : (ms : List (String × Json)) → '\n' ∉ membersChars ms
  | [] => List.not_mem_nil
  | m :: ms => by
    simp [membersChars, newline_not_mem_memberChars m, newline_not_mem_membersChars ms]

end

end Json

end StyleGuide
