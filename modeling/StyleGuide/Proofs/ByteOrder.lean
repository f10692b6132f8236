import Mathlib.Data.String.Basic
import Mathlib.Tactic.SplitIfs

namespace StyleGuide.Text

variable {m n : Nat} {xs ys : List UInt8}

theorem byte_cons_lt (hn : n < 256) (h : m < n ∨ m = n ∧ xs < ys) :
    UInt8.ofNat m :: xs < UInt8.ofNat n :: ys := by
  have hlt : m < n → UInt8.ofNat m < UInt8.ofNat n := by
    intro h
    rw [UInt8.lt_iff_toNat_lt, UInt8.toNat_ofNat', UInt8.toNat_ofNat']
    omega
  rw [List.cons_lt_cons_iff]
  exact h.imp hlt (And.imp_left (congrArg _))

theorem digit_cons_lt {k b : Nat} (hb : k + b ≤ 256) (hk : 0 < k) (hq : m / k = n / k)
    (h : m < n ∨ m = n ∧ xs < ys) :
    UInt8.ofNat (m % k + b) :: xs < UInt8.ofNat (n % k + b) :: ys := by
  have hm := Nat.div_add_mod m k
  have hn := Nat.div_add_mod n k
  have hlast := Nat.mod_lt n hk
  rw [hq] at hm
  refine byte_cons_lt (by omega) (h.imp (by omega) (And.imp_left ?_))
  rintro rfl
  rfl

/-- Of two characters the lower one comes first as bytes too, whatever follows them: the first byte
tells how many there are, and they hold the digits of the character from the highest on. -/
theorem utf8EncodeChar_append_lt {c d : Char} (h : c < d) (xs ys : List UInt8) :
    String.utf8EncodeChar c ++ xs < String.utf8EncodeChar d ++ ys := by
  have hlt : c.val.toNat < d.val.toNat := h
  have hd : d.val.toNat < 0x110000 := by
    have hv := d.valid
    unfold UInt32.isValidChar Nat.isValidChar at hv
    omega
  simp only [String.utf8EncodeChar]
  generalize c.val.toNat = m at hlt ⊢
  generalize d.val.toNat = n at hlt hd ⊢
  let tail (k : Nat) (zs : List UInt8) := UInt8.ofNat (k % 64 + 128) :: zs
  have h₁ : m / 64 < n / 64 ∨ m / 64 = n / 64 ∧ tail m xs < tail n ys := by
    have hle : m / 64 < n / 64 ∨ m / 64 = n / 64 := by omega
    exact hle.imp_right fun hq => ⟨hq, digit_cons_lt (by decide) (by decide) hq (.inl hlt)⟩
  have h₂ : m / 4096 < n / 4096 ∨
      m / 4096 = n / 4096 ∧ tail (m / 64) (tail m xs) < tail (n / 64) (tail n ys) := by
    have hle : m / 4096 < n / 4096 ∨ m / 4096 = n / 4096 := by omega
    exact hle.imp_right fun hq => ⟨hq, digit_cons_lt (by decide) (by decide) (by omega) h₁⟩
  have h₃ : m / 262144 < n / 262144 ∨ m / 262144 = n / 262144 ∧
      tail (m / 4096) (tail (m / 64) (tail m xs)) <
        tail (n / 4096) (tail (n / 64) (tail n ys)) := by
    have hle : m / 262144 < n / 262144 ∨ m / 262144 = n / 262144 := by omega
    exact hle.imp_right fun hq => ⟨hq, digit_cons_lt (by decide) (by decide) (by omega) h₂⟩
  -- Where the bytes are not as many, the first one decides.
  split_ifs
  any_goals (refine byte_cons_lt ?_ (.inl ?_) <;> omega)
  · exact digit_cons_lt (by decide) (by decide) (by omega) h₁
  · exact digit_cons_lt (by decide) (by decide) (by omega) h₂
  · exact digit_cons_lt (by decide) (by decide) (by omega) h₃

theorem toNat_of_mem_utf8EncodeChar {c : Char} {b : UInt8} (hb : b.toNat < 0x80)
    (h : b ∈ String.utf8EncodeChar c) : c.toNat = b.toNat := by
  have hbyte : ∀ {n : Nat}, n < 256 → b = UInt8.ofNat n → n = b.toNat := by
    intro n hn he
    rw [he, UInt8.toNat_ofNat', Nat.mod_eq_of_lt hn]
  have hval : c.toNat = c.val.toNat := rfl
  simp only [String.utf8EncodeChar] at h
  split_ifs at h <;> simp only [List.mem_cons, List.not_mem_nil, or_false] at h
  · exact hbyte (by omega) h
  · obtain h | h := h <;> have := hbyte (by omega) h <;> omega
  · obtain h | h | h := h <;> have := hbyte (by omega) h <;> omega
  · obtain h | h | h | h := h <;> have := hbyte (by omega) h <;> omega

theorem flatMap_utf8EncodeChar_lt {cs ds : List Char} (h : cs < ds) :
    cs.flatMap String.utf8EncodeChar < ds.flatMap String.utf8EncodeChar := by
  induction cs generalizing ds with
  | nil =>
    cases ds with
    | nil => exact absurd h (List.lt_irrefl [])
    | cons d ds =>
      obtain ⟨b, bs, hb⟩ := List.exists_cons_of_ne_nil (String.utf8EncodeChar_ne_nil (c := d))
      rw [List.flatMap_cons, hb]
      exact List.nil_lt_cons _ _
  | cons c cs ih =>
    cases ds with
    | nil => exact absurd h (List.not_lt_nil _)
    | cons d ds =>
      rw [List.flatMap_cons, List.flatMap_cons]
      obtain hcd | ⟨rfl, hr⟩ := List.cons_lt_cons_iff.mp h
      · exact utf8EncodeChar_append_lt hcd _ _
      · exact List.append_left_lt (ih hr)

def bytes (s : String) : List UInt8 := s.toUTF8.data.toList

theorem fromUTF8?_eq_some_iff {content : ByteArray} {s : String} :
    String.fromUTF8? content = some s ↔ content = s.toUTF8 := by
  rw [String.fromUTF8?]
  split
  · constructor
    · rintro ⟨⟩
      rfl
    · rintro rfl
      rfl
  · next hbytes =>
    refine iff_of_false nofun ?_
    rintro rfl
    exact hbytes s.isValidUTF8

theorem bytes_eq (s : String) : bytes s = s.toList.flatMap String.utf8EncodeChar := by
  have h : s.toUTF8 = s.toList.utf8Encode := String.utf8Encode_toList.symm
  rw [bytes, h, List.utf8Encode, List.data_toByteArray]

theorem lt_iff_bytes_lt {s t : String} : s < t ↔ bytes s < bytes t := by
  rw [bytes_eq, bytes_eq, String.lt_iff_toList_lt]
  refine ⟨flatMap_utf8EncodeChar_lt, fun h => ?_⟩
  obtain hlt | heq | hgt := lt_trichotomy s.toList t.toList
  · exact hlt
  · rw [heq] at h
    exact absurd h (List.lt_irrefl _)
  · exact absurd (flatMap_utf8EncodeChar_lt hgt) (List.lt_asymm h)

theorem le_iff_bytes_le {s t : String} : s ≤ t ↔ bytes s ≤ bytes t := by
  rw [← String.not_lt, ← List.not_lt, lt_iff_bytes_lt]

end StyleGuide.Text
