import Mathlib.Tactic.MkIffOfInductiveProp
import StyleGuide.Decimal.Numeral
import StyleGuide.Proofs.Occurrence
import StyleGuide.Text.Class

namespace StyleGuide

namespace Text

@[mk_iff]
structure IsRow (p : Char → Bool) (cs : List Char) : Prop where
  nonempty : cs ≠ []
  all : ∀ c ∈ cs, p c = true

instance (p : Char → Bool) (cs : List Char) : Decidable (IsRow p cs) :=
  decidable_of_iff' _ (isRow_iff p cs)

section

variable {p q : Char → Bool} {xs cs rest : List Char} {c : Char}

theorem isRow_of_run? (h : run? p cs = some (xs, rest)) : IsRow p xs ∧ xs ++ rest = cs := by
  obtain ⟨hne, hcs, hall, -⟩ := run?_eq_some_iff.mp h
  exact ⟨⟨hne, hall⟩, hcs⟩

theorem IsRow.run?_append (h : IsRow p cs) (hrest : ∀ c, rest.head? = some c → p c = false) :
    run? p (cs ++ rest) = some (cs, rest) := run?_eq_some_iff.mpr ⟨h.nonempty, rfl, h.all, hrest⟩

theorem isRow_of_blanks? (h : blanks? cs = some rest) :
    ∃ bs, IsRow isBlank bs ∧ bs ++ rest = cs := by
  obtain ⟨bs, hne, hcs, hall, -⟩ := blanks?_eq_some_iff.mp h
  exact ⟨bs, ⟨hne, hall⟩, hcs⟩

theorem IsRow.blanks?_append (h : IsRow isBlank cs)
    (hrest : ∀ c, rest.head? = some c → isBlank c = false) :
    blanks? (cs ++ rest) = some rest := blanks?_eq_some_iff.mpr ⟨cs, h.nonempty, rfl, h.all, hrest⟩

theorem IsRow.head? (h : IsRow p cs) (hc : (cs ++ rest).head? = some c) : p c = true := by
  obtain ⟨d, ds, rfl⟩ := List.exists_cons_of_ne_nil h.nonempty
  obtain rfl := Option.some.inj hc
  exact h.all d (.head ds)

theorem IsRow.mono (h : IsRow p cs) (hpq : ∀ c ∈ cs, p c = true → q c = true) : IsRow q cs :=
  ⟨h.nonempty, fun c hc => hpq c hc (h.all c hc)⟩

end

section

variable {c : Char}

theorem isDecimal_of_isDigit (h : Decimal.isDigit c = true) : isDecimal c = true := by
  simp only [Decimal.isDigit, Bool.and_eq_true, decide_eq_true_eq] at h
  exact inRanges_iff.mpr ⟨(0x30, 0x39), .head _, h⟩

theorem isDigit_of_isDecimal (h : isDecimal c = true) (hc : c.toNat < 0x80) :
    Decimal.isDigit c = true := by
  obtain ⟨r, hr, hle, hge⟩ := inRanges_iff.mp h
  have hascii : ∀ r ∈ decimalRanges, r.1 < 0x80 → r = (0x30, 0x39) := by decide
  obtain rfl := hascii r hr (Nat.lt_of_le_of_lt hle hc)
  simp only [Decimal.isDigit, Bool.and_eq_true, decide_eq_true_eq]
  exact ⟨hle, hge⟩

theorem not_isBlank_of_isDecimal (h : isDecimal c = true) : isBlank c = false := by
  obtain ⟨r, hr, hle, hge⟩ := inRanges_iff.mp h
  have hapart : ∀ r ∈ decimalRanges, ∀ b ∈ blankRanges, r.2 < b.1 ∨ b.2 < r.1 := by decide +kernel
  rw [Bool.eq_false_iff]
  intro hblank
  obtain ⟨b, hb, hble, hbge⟩ := inRanges_iff.mp hblank
  have hrb := hapart r hr b hb
  omega

end

end Text

namespace Decimal

open Text (run run_eq_iff char? char?_eq_some_iff)

variable {cs rest : List Char} {c : Char} {x : Float}

def Ascii (cs : List Char) : Prop := ∀ c ∈ cs, c.toNat < 0x80

instance (cs : List Char) : Decidable (Ascii cs) :=
  inferInstanceAs (Decidable (∀ c ∈ cs, c.toNat < 0x80))

theorem Ascii.append (h : Ascii cs) (hrest : Ascii rest) : Ascii (cs ++ rest) :=
  List.forall_mem_append.mpr ⟨h, hrest⟩

theorem Ascii.cons (hc : c.toNat < 0x80) (h : Ascii cs) : Ascii (c :: cs) :=
  List.forall_mem_cons.mpr ⟨hc, h⟩

theorem ascii_of_isDigit (h : isDigit c = true) : c.toNat < 0x80 := by
  simp only [isDigit, Bool.and_eq_true, decide_eq_true_eq] at h
  omega

theorem ascii_run {ds : List Char} (hrun : run isDigit cs = (ds, rest)) (h : Ascii rest) :
    Ascii cs := by
  obtain ⟨rfl, hdigits, -⟩ := run_eq_iff.mp hrun
  exact Ascii.append (fun c hc => ascii_of_isDigit (hdigits c hc)) h

theorem ascii_signed {negative : Bool} (hsign : signed cs = (negative, rest)) (h : Ascii rest) :
    Ascii cs := by
  unfold signed at hsign
  split at hsign <;> obtain ⟨-, rfl⟩ := Prod.mk.inj hsign
  · exact .cons (by decide) h
  · exact .cons (by decide) h
  · exact h

theorem ascii_of_exponent? {e : Int} (h : exponent? cs = some e) : Ascii cs := by
  cases cs with
  | nil => exact List.forall_mem_nil _
  | cons mark cs =>
    rcases hsign : signed cs with ⟨negative, ds⟩
    rw [exponent?, hsign] at h
    dsimp only at h
    split at h
    · next hcond =>
      obtain ⟨hmark, -, hdigits⟩ := hcond
      have hascii : mark.toNat < 0x80 := by obtain rfl | rfl := hmark <;> decide
      exact .cons hascii
        (ascii_signed hsign fun c hc => ascii_of_isDigit (List.all_eq_true.mp hdigits c hc))
    · cases h

theorem ascii_fraction {ds : List Char} (hfraction : fraction cs = (ds, rest)) (h : Ascii rest) :
    Ascii cs := by
  rw [fraction] at hfraction
  split at hfraction
  · obtain ⟨-, rfl⟩ := Prod.mk.inj hfraction
    exact h
  · next hpoint =>
    rw [← char?_eq_some_iff.mp hpoint]
    exact .cons (by decide) (ascii_run hfraction h)

theorem ascii_of_numeral? {n : Numeral} (h : numeral? cs = some n) : Ascii cs := by
  rcases hwhole : run isDigit cs with ⟨whole, point⟩
  rcases hfraction : fraction point with ⟨places, rest⟩
  rw [numeral?, hwhole] at h
  dsimp only at h
  rw [hfraction] at h
  dsimp only at h
  split at h
  · cases h
  · obtain ⟨e, he, -⟩ := Option.map_eq_some_iff.mp h
    exact ascii_run hwhole (ascii_fraction hfraction (ascii_of_exponent? he))

theorem ascii_of_toLower (h : c.toLower.toNat < 0x80) : c.toNat < 0x80 := by
  unfold Char.toLower at h
  split at h
  · next hc =>
    have hle : c.toNat ≤ 90 := hc.2
    omega
  · exact h

theorem ascii_of_word? (h : word? cs = some x) : Ascii cs := by
  have hword : Ascii (cs.map Char.toLower) := by
    rw [word?] at h
    split at h
    · next hword =>
      obtain hword | hword := hword
      · rw [hword]
        decide
      · rw [hword]
        decide
    · split at h
      · next hword =>
        rw [hword]
        decide
      · cases h
  exact fun c hc => ascii_of_toLower (hword _ (List.mem_map_of_mem hc))

/-- A number is written in ASCII, whatever its form. -/
theorem ascii_of_read? (h : read? cs = some x) : Ascii cs := by
  rcases hsign : signed cs with ⟨negative, ds⟩
  rw [read?, hsign] at h
  obtain ⟨y, hy, -⟩ := Option.map_eq_some_iff.mp h
  obtain hword | ⟨-, hnumeral⟩ := Option.or_eq_some_iff.mp hy
  · exact ascii_signed hsign (ascii_of_word? hword)
  · obtain ⟨n, hn, -⟩ := Option.map_eq_some_iff.mp hnumeral
    exact ascii_signed hsign (ascii_of_numeral? hn)

section

variable {ds places : List Char}

theorem signed_of_isDigit (hc : isDigit c = true) (cs : List Char) :
    signed (c :: cs) = (false, c :: cs) := by
  unfold signed
  split
  · next heq =>
    obtain ⟨rfl, -⟩ := List.cons.inj heq
    exact absurd hc (by decide)
  · next heq =>
    obtain ⟨rfl, -⟩ := List.cons.inj heq
    exact absurd hc (by decide)
  · rfl

theorem toLower_of_isDigit (hc : isDigit c = true) : c.toLower = c := by
  unfold Char.toLower
  split
  · next hupper =>
    have hge : 65 ≤ c.toNat := hupper.1
    simp only [isDigit, Bool.and_eq_true, decide_eq_true_eq] at hc
    omega
  · rfl

theorem word?_of_isDigit (hc : isDigit c = true) (cs : List Char) : word? (c :: cs) = none := by
  have hi : c ≠ 'i' := by rintro rfl; cases hc
  have hn : c ≠ 'n' := by rintro rfl; cases hc
  simp [word?, toLower_of_isDigit hc, hi, hn]

theorem numeral?_whole (h : Text.IsRow isDigit ds) : numeral? ds = some ⟨ds, [], 0⟩ := by
  have hrun : run isDigit ds = (ds, []) := run_eq_iff.mpr ⟨List.append_nil ds, h.all, nofun⟩
  simp [numeral?, hrun, fraction, char?, h.nonempty, exponent?]

theorem numeral?_places (h : Text.IsRow isDigit ds) (hplaces : Text.IsRow isDigit places) :
    numeral? (ds ++ '.' :: places) = some ⟨ds, places, 0⟩ := by
  have hrun : run isDigit (ds ++ '.' :: places) = (ds, '.' :: places) := by
    refine run_eq_iff.mpr ⟨rfl, h.all, ?_⟩
    rintro c ⟨⟩
    decide
  have hrest : run isDigit places = (places, []) :=
    run_eq_iff.mpr ⟨List.append_nil places, hplaces.all, nofun⟩
  simp [numeral?, hrun, fraction, char?, hrest, h.nonempty, exponent?]

theorem read?_of_numeral? {n : Numeral} (h : Text.IsRow isDigit ds) (hds : ds <+: cs)
    (hn : numeral? cs = some n) : read? cs = some n.value := by
  obtain ⟨d, es, rfl⟩ := List.exists_cons_of_ne_nil h.nonempty
  obtain ⟨rest, rfl⟩ := hds
  have hd := h.all d (.head es)
  rw [List.cons_append] at hn ⊢
  rw [read?, signed_of_isDigit hd]
  dsimp only
  rw [word?_of_isDigit hd, hn]
  rfl

end

end Decimal

end StyleGuide
