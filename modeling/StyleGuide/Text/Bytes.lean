namespace StyleGuide.Text

def utf8 (cs : List Char) : List UInt8 := cs.flatMap String.utf8EncodeChar

theorem utf8_cons (c : Char) (cs : List Char) :
    utf8 (c :: cs) = String.utf8EncodeChar c ++ utf8 cs :=
  List.flatMap_cons

theorem utf8_append (cs ds : List Char) : utf8 (cs ++ ds) = utf8 cs ++ utf8 ds :=
  List.flatMap_append

theorem length_utf8_cons (c : Char) (cs : List Char) :
    (utf8 (c :: cs)).length = c.utf8Size + (utf8 cs).length := by
  rw [utf8_cons, List.length_append, String.length_utf8EncodeChar]

/-- The text up to a byte offset and from it on, if the offset falls between two characters. -/
def splitBytes? : Nat → List Char → Option (List Char × List Char)
  | 0, cs => some ([], cs)
  | _ + 1, [] => none
  | n + 1, c :: r =>
    if c.utf8Size ≤ n + 1 then
      (splitBytes? (n + 1 - c.utf8Size) r).map fun p => (c :: p.1, p.2)
    else none

theorem splitBytes?_append (cs rest : List Char) :
    splitBytes? (utf8 cs).length (cs ++ rest) = some (cs, rest) := by
  induction cs with
  | nil => cases rest <;> rfl
  | cons c cs ih =>
    have hsize := length_utf8_cons c cs
    have hpos := c.utf8Size_pos
    obtain ⟨n, hn⟩ := Nat.exists_eq_add_of_lt (show 0 < (utf8 (c :: cs)).length by omega)
    rw [Nat.zero_add] at hn
    have hrest : n + 1 - c.utf8Size = (utf8 cs).length := by omega
    rw [hn, List.cons_append, splitBytes?, if_pos (by omega), hrest, ih]
    rfl

def slice? (text : List Char) (first last : Nat) : Option (List Char) :=
  if first ≤ last then do
    let (_, rest) ← splitBytes? first text
    let (body, _) ← splitBytes? (last - first) rest
    return body
  else none

theorem slice?_append (front body rest : List Char) :
    slice? (front ++ (body ++ rest)) (utf8 front).length
        ((utf8 front).length + (utf8 body).length) =
      some body := by
  rw [slice?, if_pos (Nat.le_add_right _ _), splitBytes?_append, Nat.add_sub_cancel_left]
  exact congrArg (Option.bind · _) (splitBytes?_append body rest)

/-- The beginning of a character: the number that its bytes make so far, the bounds of the next
byte, and how many more come after that one. -/
structure Begun where
  value : Nat
  least : Nat
  greatest : Nat
  more : Nat

def replacement : Char := '\uFFFD'

/-- What a byte at which no other character is open stands for, or begins. -/
def firstByte (b : Nat) : Char ⊕ Begun :=
  if b < 0x80 then .inl (.ofNat b)
  else if b < 0xC2 then .inl replacement
  else if b < 0xE0 then .inr ⟨b - 0xC0, 0x80, 0xBF, 0⟩
  -- The second byte is bounded further where longer forms, surrogates or numbers past the last
  -- character begin.
  else if b < 0xF0 then
    .inr ⟨b - 0xE0, if b = 0xE0 then 0xA0 else 0x80, if b = 0xED then 0x9F else 0xBF, 1⟩
  else if b < 0xF5 then
    .inr ⟨b - 0xF0, if b = 0xF0 then 0x90 else 0x80, if b = 0xF4 then 0x8F else 0xBF, 2⟩
  else .inl replacement

def Begun.nextByte (p : Begun) (b : Nat) : Char ⊕ Begun :=
  let value := 64 * p.value + (b - 0x80)
  match p.more with
  | 0 => .inl (.ofNat value)
  | n + 1 => .inr ⟨value, 0x80, 0xBF, n⟩

/-- The text of bytes of which the first go on with what has begun. Whatever breaks off is replaced,
as far as it was the beginning of a character, by one mark. -/
def lossyFrom (begun : Option Begun) : List UInt8 → List Char
  | [] => begun.toList.map fun _ => replacement
  | b :: bs =>
    let goOn (read : Char ⊕ Begun) : List Char := match read with
      | .inl c => c :: lossyFrom none bs
      | .inr p => lossyFrom (some p) bs
    match begun with
    | none => goOn (firstByte b.toNat)
    | some p =>
      if p.least ≤ b.toNat ∧ b.toNat ≤ p.greatest then goOn (p.nextByte b.toNat)
      else replacement :: goOn (firstByte b.toNat)

def lossy (bs : List UInt8) : List Char := lossyFrom none bs

section Encoded

variable {bs : List UInt8} {value least greatest more k : Nat}

theorem toNat_byte {n : Nat} (h : n < 256) : (UInt8.ofNat n).toNat = n := by
  rw [UInt8.toNat_ofNat', Nat.mod_eq_of_lt h]

theorem firstByte_two (h : 2 ≤ k) (hk : k < 32) :
    firstByte (k + 192) = .inr ⟨k, 0x80, 0xBF, 0⟩ := by
  rw [firstByte, if_neg (by omega), if_neg (by omega), if_pos (by omega), Nat.add_sub_cancel]

theorem firstByte_three (hk : k < 16) : firstByte (k + 224) =
    .inr ⟨k, if k = 0 then 0xA0 else 0x80, if k = 0xD then 0x9F else 0xBF, 1⟩ := by
  have hlow : k + 224 = 0xE0 ↔ k = 0 := by omega
  have hhigh : k + 224 = 0xED ↔ k = 0xD := by omega
  rw [firstByte, if_neg (by omega), if_neg (by omega), if_neg (by omega), if_pos (by omega),
    Nat.add_sub_cancel]
  simp only [hlow, hhigh]

theorem firstByte_four (hk : k < 5) : firstByte (k + 240) =
    .inr ⟨k, if k = 0 then 0x90 else 0x80, if k = 4 then 0x8F else 0xBF, 2⟩ := by
  have hlow : k + 240 = 0xF0 ↔ k = 0 := by omega
  have hhigh : k + 240 = 0xF4 ↔ k = 4 := by omega
  rw [firstByte, if_neg (by omega), if_neg (by omega), if_neg (by omega), if_neg (by omega),
    if_pos (by omega), Nat.add_sub_cancel]
  simp only [hlow, hhigh]

theorem lossyFrom_begun {b : UInt8} {p : Begun} (h : firstByte b.toNat = .inr p) :
    lossyFrom none (b :: bs) = lossyFrom (some p) bs := by
  simp only [lossyFrom, h]

section Further

variable (hk : k < 64) (hleast : least ≤ k + 128) (hgreatest : k + 128 ≤ greatest)

include hk hleast hgreatest

theorem lossyFrom_further :
    lossyFrom (some ⟨value, least, greatest, more + 1⟩) (UInt8.ofNat (k + 128) :: bs) =
      lossyFrom (some ⟨64 * value + k, 0x80, 0xBF, more⟩) bs := by
  simp only [lossyFrom, toNat_byte (show k + 128 < 256 by omega), hleast, hgreatest, and_self,
    if_true, Begun.nextByte, Nat.add_sub_cancel]

theorem lossyFrom_last :
    lossyFrom (some ⟨value, least, greatest, 0⟩) (UInt8.ofNat (k + 128) :: bs) =
      .ofNat (64 * value + k) :: lossyFrom none bs := by
  simp only [lossyFrom, toNat_byte (show k + 128 < 256 by omega), hleast, hgreatest, and_self,
    if_true, Begun.nextByte, Nat.add_sub_cancel]

end Further

theorem lossyFrom_encode (c : Char) (bs : List UInt8) :
    lossyFrom none (String.utf8EncodeChar c ++ bs) = c :: lossyFrom none bs := by
  have hc : c.val.toNat < 0xD800 ∨ 0xDFFF < c.val.toNat ∧ c.val.toNat < 0x110000 := c.valid
  have hchar : ∀ {m : Nat}, m = c.val.toNat → Char.ofNat m = c := fun h => h ▸ Char.ofNat_toNat c
  have hbegun : ∀ {m : Nat} {p : Begun} (bs), m < 256 → firstByte m = .inr p →
      lossyFrom none (UInt8.ofNat m :: bs) = lossyFrom (some p) bs := by
    intro m p bs hm hp
    exact lossyFrom_begun (by rw [toNat_byte hm, hp])
  simp only [String.utf8EncodeChar]
  generalize c.val.toNat = n at hc hchar ⊢
  -- How many bytes there are is settled by the size of the number.
  split
  · have hfirst : firstByte (UInt8.ofNat n).toNat = .inl c := by
      rw [toNat_byte (by omega), firstByte, if_pos (by omega), hchar rfl]
    simp only [List.cons_append, List.nil_append, lossyFrom, hfirst]
  · split
    · simp only [List.cons_append, List.nil_append]
      rw [hbegun _ (by omega) (firstByte_two (by omega) (by omega)),
        lossyFrom_last (by omega) (by omega) (by omega), hchar (by omega)]
    · split
      · simp only [List.cons_append, List.nil_append]
        rw [hbegun _ (by omega) (firstByte_three (by omega)),
          lossyFrom_further (by omega) (by split <;> omega) (by split <;> omega),
          lossyFrom_last (by omega) (by omega) (by omega), hchar (by omega)]
      · simp only [List.cons_append, List.nil_append]
        rw [hbegun _ (by omega) (firstByte_four (by omega)),
          lossyFrom_further (by omega) (by split <;> omega) (by split <;> omega),
          lossyFrom_further (by omega) (by omega) (by omega),
          lossyFrom_last (by omega) (by omega) (by omega), hchar (by omega)]

end Encoded

theorem lossy_utf8 (cs : List Char) : lossy (utf8 cs) = cs := by
  induction cs with
  | nil => rfl
  | cons c cs ih =>
    rw [lossy, utf8_cons, lossyFrom_encode]
    exact congrArg _ ih

end StyleGuide.Text
