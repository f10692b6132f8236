import Mathlib.Algebra.Order.Field.Rat
import Mathlib.Algebra.Order.Field.Power
import Mathlib.Tactic.Linarith
import Mathlib.Tactic.NormNum
import Mathlib.Tactic.Positivity
import Mathlib.Tactic.Ring
import StyleGuide.Decimal.Numeral
import StyleGuide.Decimal.Shortest

namespace StyleGuide.Decimal

def Binary.value (b : Binary) : ℚ := b.mantissa * 2 ^ b.exponent

theorem cast_two (n : Nat) : ((two n : Nat) : ℚ) = 2 ^ n := by
  rw [two]
  exact Nat.cast_pow 2 n

section Rounding

variable {num den : Nat}

theorem cast_shifted (num den : Nat) (q : Int) :
    ((num * two (-q).toNat : Nat) : ℚ) / ((den * two q.toNat : Nat) : ℚ) = num / den / 2 ^ q := by
  rw [Nat.cast_mul, Nat.cast_mul, cast_two, cast_two, ← zpow_natCast, ← zpow_natCast]
  have hsplit : (2 : ℚ) ^ (q.toNat : Int) = 2 ^ q * 2 ^ ((-q).toNat : Int) := by
    rw [← zpow_add₀ two_ne_zero]
    congr 1
    omega
  have hpos : (2 : ℚ) ^ ((-q).toNat : Int) ≠ 0 := zpow_ne_zero _ two_ne_zero
  rw [hsplit, ← mul_assoc, mul_div_mul_right _ _ hpos, div_div]

/-- A quotient is rounded by no more than a half, and by a half only to an even number. -/
theorem divNearest_spec (num : Nat) (hden : 0 < den) :
    |(num : ℚ) / den - divNearest num den| ≤ 1 / 2 ∧
      (|(num : ℚ) / den - divNearest num den| = 1 / 2 → divNearest num den % 2 = 0) := by
  have hpos : (0 : ℚ) < den := Nat.cast_pos.mpr hden
  obtain ⟨t, ht⟩ : ∃ t : ℚ, t = (num % den : Nat) / den := ⟨_, rfl⟩
  have hnum : (num : ℚ) / den = (num / den : Nat) + t := by
    have hcast : ((den * (num / den) + num % den : Nat) : ℚ) = num :=
      congrArg _ (Nat.div_add_mod num den)
    push_cast at hcast
    rw [ht, div_eq_iff hpos.ne', add_mul, div_mul_cancel₀ _ hpos.ne', mul_comm, hcast]
  have hhalf : t ≤ 1 / 2 ↔ 2 * (num % den) ≤ den := by
    rw [ht, div_le_div_iff₀ hpos two_pos, one_mul, mul_comm]
    exact_mod_cast Iff.rfl
  have hhalf' : 1 / 2 ≤ t ↔ den ≤ 2 * (num % den) := by
    rw [ht, div_le_div_iff₀ two_pos hpos, one_mul, mul_comm _ (2 : ℚ)]
    exact_mod_cast Iff.rfl
  have ht0 : 0 ≤ t := ht ▸ by positivity
  have ht1 : t < 1 := by
    rw [ht, div_lt_one hpos]
    exact_mod_cast Nat.mod_lt num hden
  rw [divNearest, hnum]
  split
  · next hup =>
    have habs : |((num / den : Nat) : ℚ) + t - ((num / den + 1 : Nat) : ℚ)| = 1 - t := by
      push_cast
      rw [abs_of_nonpos (by linarith)]
      ring
    have hle : 1 / 2 ≤ t := hhalf'.mpr (by omega)
    rw [habs]
    refine ⟨by linarith, fun h => ?_⟩
    have hge := hhalf.mp (by linarith)
    omega
  · next hdown =>
    have habs : |((num / den : Nat) : ℚ) + t - ((num / den : Nat) : ℚ)| = t := by
      rw [add_sub_cancel_left, abs_of_nonneg ht0]
    have hle : t ≤ 1 / 2 := hhalf.mpr (by omega)
    rw [habs]
    refine ⟨hle, fun h => ?_⟩
    have hge := hhalf'.mp h.ge
    omega

theorem lt_iff_shifted_lt (num : Nat) (hden : 0 < den) (q : Int) (n : Nat) :
    num * two (-q).toNat / (den * two q.toNat) < two n ↔ (num : ℚ) / den < 2 ^ n * 2 ^ q := by
  have hq : (0 : ℚ) < 2 ^ q := zpow_pos two_pos q
  have htwo : 0 < two q.toNat := Nat.pow_pos two_pos
  have hpos : 0 < den * two q.toNat := Nat.mul_pos hden htwo
  rw [← div_lt_iff₀ hq, ← cast_shifted, div_lt_iff₀ (Nat.cast_pos.mpr hpos), ← cast_two,
    ← Nat.cast_mul, Nat.cast_lt, Nat.div_lt_iff_lt_mul hpos]

theorem quotient_bounds (hnum : 0 < num) (hden : 0 < den) :
    let q : Int := (num.log2 : Int) - (den.log2 : Int) - 53
    2 ^ 52 * 2 ^ q ≤ (num : ℚ) / den ∧ (num : ℚ) / den < 2 ^ 54 * 2 ^ q := by
  intro q
  have hpos : (0 : ℚ) < den := Nat.cast_pos.mpr hden
  have hnumLow : (2 : ℚ) ^ num.log2 ≤ num := by exact_mod_cast Nat.log2_self_le hnum.ne'
  have hnumHigh : (num : ℚ) < 2 ^ (num.log2 + 1) := by exact_mod_cast Nat.lt_log2_self
  have hdenLow : (2 : ℚ) ^ den.log2 ≤ den := by exact_mod_cast Nat.log2_self_le hden.ne'
  have hdenHigh : (den : ℚ) < 2 ^ (den.log2 + 1) := by exact_mod_cast Nat.lt_log2_self
  have hpower : ∀ i j k : Nat, (i : Int) + q + j = k → (2 : ℚ) ^ i * 2 ^ q * 2 ^ j = 2 ^ k := by
    intro i j k h
    simp only [← zpow_natCast]
    rw [← zpow_add₀ two_ne_zero, ← zpow_add₀ two_ne_zero, h]
  constructor
  · rw [le_div_iff₀ hpos]
    calc (2 : ℚ) ^ 52 * 2 ^ q * den
      _ ≤ 2 ^ 52 * 2 ^ q * 2 ^ (den.log2 + 1) := by gcongr
      _ = 2 ^ num.log2 := hpower _ _ _ (by omega)
      _ ≤ num := hnumLow
  · rw [div_lt_iff₀ hpos]
    calc (num : ℚ)
      _ < 2 ^ (num.log2 + 1) := hnumHigh
      _ = 2 ^ 54 * 2 ^ q * 2 ^ den.log2 := (hpower _ _ _ (by omega)).symm
      _ ≤ 2 ^ 54 * 2 ^ q * den := by gcongr

/-- The last bit leaves 53 bits for the mantissa, and not fewer unless there is no smaller one. -/
theorem lastBit_spec (hnum : 0 < num) (hden : 0 < den) :
    -1074 ≤ lastBit num den ∧ (num : ℚ) / den < 2 ^ 53 * 2 ^ lastBit num den ∧
      (lastBit num den = -1074 ∨ 2 ^ 52 * 2 ^ lastBit num den ≤ (num : ℚ) / den) := by
  obtain ⟨hlow, hhigh⟩ := quotient_bounds hnum hden
  have hfits := lt_iff_shifted_lt num hden ((num.log2 : Int) - (den.log2 : Int) - 53) 53
  simp only [lastBit]
  generalize (num.log2 : Int) - (den.log2 : Int) - 53 = q at *
  have hdouble : (2 : ℚ) ^ (q + 1) = 2 * 2 ^ q := by rw [zpow_add_one₀ two_ne_zero, mul_comm]
  obtain ⟨p, hp, hplow, hphigh⟩ : ∃ p,
      (if num * two (-q).toNat / (den * two q.toNat) < two 53 then q else q + 1) = p ∧
      2 ^ 52 * 2 ^ p ≤ (num : ℚ) / den ∧ (num : ℚ) / den < 2 ^ 53 * 2 ^ p := by
    by_cases hm : num * two (-q).toNat / (den * two q.toNat) < two 53
    · exact ⟨q, if_pos hm, hlow, hfits.mp hm⟩
    · have hge := not_lt.mp (hfits.not.mp hm)
      refine ⟨q + 1, if_neg hm, ?_, ?_⟩ <;> rw [hdouble] <;> linarith
  rw [hp]
  obtain hle | hlt := le_or_gt (-1074) p
  · rw [max_eq_left hle]
    exact ⟨hle, hphigh, .inr hplow⟩
  · rw [max_eq_right hlt.le]
    refine ⟨le_rfl, hphigh.trans_le ?_, .inl rfl⟩
    gcongr
    · exact one_le_two

theorem abs_sub_le_abs_sub {x : ℚ} {m k : Nat} (hround : |x - m| ≤ 1 / 2) :
    |x - m| ≤ |x - k| ∧ (k ≠ m → |x - m| = |x - k| → |x - m| = 1 / 2) := by
  by_cases hk : k = m
  · exact ⟨hk ▸ le_rfl, fun hne => absurd hk hne⟩
  · have hapart : (1 : ℚ) ≤ |(m : ℚ) - k| := by
      have hint : (1 : Int) ≤ |(m : Int) - k| :=
        Int.one_le_abs (sub_ne_zero.mpr (by exact_mod_cast Ne.symm hk))
      exact_mod_cast hint
    have htriangle : |(m : ℚ) - k| ≤ |x - m| + |x - k| := by
      rw [abs_sub_comm x m]
      exact abs_sub_le _ _ _
    exact ⟨by linarith, fun _ heq => by linarith⟩

/-- Rounding keeps the bounds of what is rounded, but may reach the upper one. -/
theorem rounded_bounds {v : ℚ} {m : Nat} {q : Int} (hround : |v / 2 ^ q - m| ≤ 1 / 2)
    (hhigh : v < 2 ^ 53 * 2 ^ q) (hlow : q = -1074 ∨ 2 ^ 52 * 2 ^ q ≤ v) :
    m ≤ 2 ^ 53 ∧ (q = -1074 ∨ 2 ^ 52 ≤ m) := by
  have hunit : (0 : ℚ) < 2 ^ q := zpow_pos two_pos q
  obtain ⟨hleft, hright⟩ := abs_le.mp hround
  constructor
  · have hx : v / 2 ^ q < 2 ^ 53 := (div_lt_iff₀ hunit).mpr hhigh
    have hcast : (m : ℚ) < 2 ^ 53 + 1 := by linarith
    exact Nat.lt_succ_iff.mp (by exact_mod_cast hcast)
  · refine hlow.imp_right fun h => ?_
    have hx : (2 : ℚ) ^ 52 ≤ v / 2 ^ q := (le_div_iff₀ hunit).mpr h
    have hcast : (2 : ℚ) ^ 52 < m + 1 := by linarith
    exact Nat.lt_succ_iff.mp (by exact_mod_cast hcast)

/-- Rounding over the last bit comes as near as any number of 53 bits does. -/
theorem rounded_nearest {v : ℚ} {m n : Nat} {q e : Int} (hround : |v / 2 ^ q - m| ≤ 1 / 2)
    (hfull : q = -1074 ∨ 2 ^ 52 * 2 ^ q ≤ v) (hn : n < 2 ^ 53) (he : -1074 ≤ e) :
    |v - m * 2 ^ q| ≤ |v - n * 2 ^ e| ∧
      ((n : ℚ) * 2 ^ e ≠ m * 2 ^ q → |v - m * 2 ^ q| = |v - n * 2 ^ e| →
        |v / 2 ^ q - m| = 1 / 2) := by
  have hq : (0 : ℚ) < 2 ^ q := zpow_pos two_pos q
  have hdist : ∀ k : Nat, |v - k * 2 ^ q| = |v / 2 ^ q - k| * 2 ^ q := by
    intro k
    rw [← abs_of_pos hq, ← abs_mul, abs_of_pos hq, sub_mul, div_mul_cancel₀ _ hq.ne']
  obtain hqe | heq := le_or_gt q e
  · -- The other number is a whole number of last bits too.
    have hgrid : (n : ℚ) * 2 ^ e = (n * 2 ^ (e - q).toNat : Nat) * 2 ^ q := by
      push_cast
      rw [mul_assoc, ← zpow_natCast, ← zpow_add₀ two_ne_zero]
      congr 2
      omega
    rw [hgrid]
    generalize n * 2 ^ (e - q).toNat = k
    obtain ⟨hle, htie⟩ := abs_sub_le_abs_sub (k := k) hround
    rw [hdist, hdist]
    refine ⟨mul_le_mul_of_nonneg_right hle hq.le, fun hne heq =>
      htie ?_ (mul_right_cancel₀ hq.ne' heq)⟩
    rintro rfl
    exact hne rfl
  · -- The other number has a smaller last bit, so it is below all numbers with this one.
    have hlow : (2 : ℚ) ^ 52 * 2 ^ q ≤ v := hfull.resolve_left (by omega)
    have hbelow : (n : ℚ) * 2 ^ e < 2 ^ 52 * 2 ^ q := by
      calc (n : ℚ) * 2 ^ e
        _ < 2 ^ 53 * 2 ^ e := by
          gcongr
          exact_mod_cast hn
        _ ≤ 2 ^ 53 * 2 ^ (q - 1) := by
          gcongr
          · exact one_le_two
          · omega
        _ = 2 ^ 52 * 2 ^ q := by
          rw [zpow_sub_one₀ two_ne_zero]
          ring
    obtain ⟨hle, -⟩ := abs_sub_le_abs_sub (k := 2 ^ 52) hround
    have hfloor := mul_le_mul_of_nonneg_right hle hq.le
    rw [← hdist, ← hdist, Nat.cast_pow, Nat.cast_ofNat,
      abs_of_nonneg (sub_nonneg.mpr hlow)] at hfloor
    have hlt : |v - m * 2 ^ q| < |v - n * 2 ^ e| := by
      rw [abs_of_pos (by linarith : 0 < v - n * 2 ^ e)]
      linarith
    exact ⟨hlt.le, fun _ heq => absurd heq hlt.ne⟩

end Rounding

section Packing

theorem two_52 : two 52 = 4503599627370496 := rfl

theorem ofBits_normal {e f : Nat} (he : 0 < e) (hlast : e < 2048) (hf : f < two 52) :
    Binary.ofBits (e * two 52 + f) = ⟨f + two 52, (e : Int) - 1075⟩ := by
  have h11 : two 11 = 2048 := rfl
  have hexponent : (e * two 52 + f) / two 52 % two 11 = e := by
    rw [two_52, h11] at *
    omega
  have hfraction : (e * two 52 + f) % two 52 = f := by
    rw [two_52] at *
    omega
  simp only [Binary.ofBits, hexponent, hfraction, he.ne', if_false]

theorem ofBits_subnormal {f : Nat} (hf : f < two 52) : Binary.ofBits f = ⟨f, -1074⟩ := by
  have hexponent : f / two 52 % two 11 = 0 := by rw [Nat.div_eq_of_lt hf, Nat.zero_mod]
  simp only [Binary.ofBits, hexponent, if_true, Nat.mod_eq_of_lt hf]

variable {m : Nat} {q : Int}

theorem pack_lt_infinityBits (hq : -1074 ≤ q) (hm : m ≤ 2 ^ 53) (hfull : q = -1074 ∨ 2 ^ 52 ≤ m) :
    pack m q < infinityBits ↔ q < 971 ∨ q = 971 ∧ m < 2 ^ 53 := by
  rw [pack, infinityBits, two_52]
  split <;> omega

theorem ofBits_pack (hq : -1074 ≤ q) (hm : m ≤ 2 ^ 53) (hfull : q = -1074 ∨ 2 ^ 52 ≤ m)
    (hfinite : pack m q < infinityBits) :
    (Binary.ofBits (pack m q)).value = m * 2 ^ q ∧
    (m % 2 = 0 → (Binary.ofBits (pack m q)).mantissa % 2 = 0) := by
  have hrange := (pack_lt_infinityBits hq hm hfull).mp hfinite
  rw [pack]
  split
  · next hsub =>
    rw [two_52] at hsub
    obtain rfl : q = -1074 := by omega
    rw [ofBits_subnormal hsub]
    exact ⟨rfl, id⟩
  · next hnormal =>
    rw [two_52] at hnormal
    obtain hlt | rfl : m < 2 ^ 53 ∨ m = 2 ^ 53 := by omega
    · have hbits : Binary.ofBits ((q + 1075).toNat * two 52 + (m - two 52)) = ⟨m, q⟩ := by
        rw [ofBits_normal (by omega) (by omega) (by rw [two_52]; omega), two_52]
        congr 1 <;> omega
      rw [hbits]
      exact ⟨rfl, id⟩
    · have hcarry : (q + 1075).toNat * two 52 + (2 ^ 53 - two 52) =
          ((q + 1075).toNat + 1) * two 52 + 0 := by
        rw [two_52]
        omega
      have hbits : Binary.ofBits ((q + 1075).toNat * two 52 + (2 ^ 53 - two 52)) =
          ⟨two 52, q + 1⟩ := by
        rw [hcarry, ofBits_normal (by omega) (by omega) (by rw [two_52]; omega)]
        congr 1
        omega
      rw [hbits]
      refine ⟨?_, fun _ => show two 52 % 2 = 0 by rw [two_52]⟩
      rw [Binary.value, cast_two, zpow_add_one₀ two_ne_zero]
      push_cast
      ring

end Packing

/-- A binary number comes as near to a number as any with 53 bits does, and is even if another one
comes as near. -/
structure Binary.IsNearest (b : Binary) (v : ℚ) : Prop where
  least : ∀ (n : Nat) (e : Int), n < 2 ^ 53 → -1074 ≤ e → |v - b.value| ≤ |v - n * 2 ^ e|
  even : ∀ (n : Nat) (e : Int), n < 2 ^ 53 → -1074 ≤ e → n * 2 ^ e ≠ b.value →
    |v - b.value| = |v - n * 2 ^ e| → b.mantissa % 2 = 0

section Nearest

variable {num den : Nat}

/-- Halfway between the last finite number and the power of two behind it. -/
def limit : ℚ := (2 ^ 54 - 1) * 2 ^ (970 : Int)

theorem lt_limit_iff {v : ℚ} {m : Nat} {q : Int} (hhigh : v < 2 ^ 53 * 2 ^ q)
    (hlow : q = -1074 ∨ 2 ^ 52 * 2 ^ q ≤ v) (hround : |v / 2 ^ q - m| ≤ 1 / 2)
    (heven : |v / 2 ^ q - m| = 1 / 2 → m % 2 = 0) : v < limit ↔ q < 971 ∨ q = 971 ∧ m < 2 ^ 53 := by
  have hunit : (0 : ℚ) < 2 ^ (970 : Int) := zpow_pos two_pos _
  have hlast : (2 : ℚ) ^ (971 : Int) = 2 * 2 ^ (970 : Int) := zpow_one_add₀ two_ne_zero 970
  have hnext : (2 : ℚ) ^ (972 : Int) = 2 * 2 ^ (971 : Int) := zpow_one_add₀ two_ne_zero 971
  rw [hlast] at hnext
  rw [limit]
  obtain hq | rfl | hq := lt_trichotomy q 971
  · refine iff_of_true ?_ (.inl hq)
    have hle : (2 : ℚ) ^ q ≤ 2 ^ (970 : Int) := zpow_le_zpow_right₀ one_le_two (by omega)
    generalize (2 : ℚ) ^ (970 : Int) = unit at *
    generalize (2 : ℚ) ^ q = bit at *
    linarith only [hhigh, hle, hunit]
  · -- Here the mantissa decides; halfway it is the even one of its two neighbours.
    have hx : v < (2 ^ 54 - 1) * 2 ^ (970 : Int) ↔ v / 2 ^ (971 : Int) < 2 ^ 53 - 1 / 2 := by
      have hscaled : (2 ^ 54 - 1) * 2 ^ (970 : Int) = ((2 : ℚ) ^ 53 - 1 / 2) * 2 ^ (971 : Int) := by
        rw [hlast]
        ring
      rw [hscaled, div_lt_iff₀ (zpow_pos two_pos _)]
    rw [hx, or_iff_right (lt_irrefl _), and_iff_right rfl]
    clear hlast hnext hunit hhigh hlow hx
    generalize v / 2 ^ (971 : Int) = x at *
    obtain ⟨hleft, hright⟩ := abs_le.mp hround
    constructor
    · intro hlt
      have hcast : (m : ℚ) < 2 ^ 53 := by linarith
      exact_mod_cast hcast
    · intro hlt
      have hcast : (m : ℚ) + 1 ≤ 2 ^ 53 := by exact_mod_cast hlt
      refine lt_of_le_of_ne (by linarith) fun heq => ?_
      have hm : (m : ℚ) + 1 = 2 ^ 53 := by linarith
      have hhalf : x - m = 1 / 2 := by linarith
      have hparity := heven (by rw [hhalf, abs_of_pos one_half_pos])
      have hodd : m + 1 = 2 ^ 53 := by exact_mod_cast hm
      omega
  · refine iff_of_false (fun hlt => ?_) (by omega)
    have hge : (2 : ℚ) ^ (972 : Int) ≤ 2 ^ q := zpow_le_zpow_right₀ one_le_two (by omega)
    have hbinade := hlow.resolve_left (by omega)
    rw [hnext] at hge
    generalize (2 : ℚ) ^ (970 : Int) = unit at *
    generalize (2 : ℚ) ^ q = bit at *
    linarith only [hlt, hge, hbinade, hunit]

theorem isNearest_zero : (Binary.ofBits 0).IsNearest 0 := by
  have hzero : Binary.ofBits 0 = ⟨0, -1074⟩ := ofBits_subnormal (by decide)
  rw [hzero]
  constructor
  · intro n e _ _
    rw [Binary.value, Nat.cast_zero, zero_mul, sub_zero, abs_zero]
    exact abs_nonneg _
  · intro _ _ _ _ _ _
    rfl

/-- The bits are those of the nearest binary number, up to halfway between the last one and the
power of two behind it; from there on they are those of infinity. -/
theorem nearestBits_spec (num : Nat) (hden : 0 < den) :
    ((num : ℚ) / den < limit →
      nearestBits num den < infinityBits ∧
      (Binary.ofBits (nearestBits num den)).IsNearest (num / den)) ∧
    (limit ≤ (num : ℚ) / den → nearestBits num den = infinityBits) := by
  obtain rfl | hnum := Nat.eq_zero_or_pos num
  · have hbits : nearestBits 0 den = 0 := if_pos rfl
    have hrange : 0 < limit := mul_pos (by norm_num) (zpow_pos two_pos _)
    rw [Nat.cast_zero, zero_div, hbits]
    exact ⟨fun _ => ⟨by decide, isNearest_zero⟩, fun h => absurd h hrange.not_ge⟩
  · obtain ⟨hq, hhigh, hlow⟩ := lastBit_spec hnum hden
    simp only [nearestBits, if_neg hnum.ne']
    generalize lastBit num den = q at *
    have hpos : 0 < den * two q.toNat := Nat.mul_pos hden (Nat.pow_pos two_pos)
    obtain ⟨hround, heven⟩ := divNearest_spec (num * two (-q).toNat) hpos
    rw [cast_shifted] at hround heven
    generalize divNearest (num * two (-q).toNat) (den * two q.toNat) = m at *
    generalize (num : ℚ) / den = v at *
    obtain ⟨hm, hfull⟩ := rounded_bounds hround hhigh hlow
    have hfinite : v < limit ↔ pack m q < infinityBits :=
      (lt_limit_iff hhigh hlow hround heven).trans (pack_lt_infinityBits hq hm hfull).symm
    constructor
    · intro h
      have hlt := hfinite.mp h
      obtain ⟨hvalue, hparity⟩ := ofBits_pack hq hm hfull hlt
      rw [min_eq_left hlt.le]
      refine ⟨hlt, fun n e hn he => ?_, fun n e hn he hne heq => ?_⟩
      · rw [hvalue]
        exact (rounded_nearest hround hlow hn he).1
      · rw [hvalue] at hne heq
        exact hparity (heven ((rounded_nearest hround hlow hn he).2 hne heq))
    · intro h
      exact min_eq_right (not_lt.mp (hfinite.not.mp h.not_gt))

/-- 217.5 -/
example : nearestBits 21750 100 = 0x406B300000000000 := by decide +kernel

end Nearest

end StyleGuide.Decimal
