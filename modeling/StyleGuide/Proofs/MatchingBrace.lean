import StyleGuide.Proofs.ByteOrder
import StyleGuide.Proofs.Nesting
import StyleGuide.Text.Bytes

namespace StyleGuide.Text

/-- A body between its braces, of which the first is at a byte offset. -/
def Encloses (text : List Char) (offset : Nat) (body : List Char) : Prop :=
  ∃ front back, text = front ++ '{' :: (body ++ '}' :: back) ∧ (utf8 front).length = offset ∧
  Balanced body

/-- Why there is no block at a byte offset. -/
inductive Blockless (text : List Char) (offset : Nat) : Prop where
  | beyond (h : (utf8 text).length ≤ offset)
  | inside {front back : List Char} {c : Char} (htext : text = front ++ c :: back)
      (hstart : (utf8 front).length < offset) (hend : offset < (utf8 front).length + c.utf8Size)
  | other {front back : List Char} {c : Char} (htext : text = front ++ c :: back)
      (hstart : (utf8 front).length = offset) (hc : c ≠ '{')
  | unclosed {front back : List Char} (htext : text = front ++ '{' :: back)
      (hstart : (utf8 front).length = offset)
      (h : ∀ k, (back.take k).count '}' ≤ (back.take k).count '{')

section

variable {cs body rest : List Char} {depth : Nat} {c : Char}

theorem closesOwn_nil (depth : Nat) : ClosesOwn depth [] := fun k => by simp

theorem closesOwn_singleton : ClosesOwn depth [c] ↔ (c = '}' → depth ≠ 0) := by
  constructor
  · rintro h rfl rfl
    exact absurd (h 1) (by decide)
  · intro h k
    cases k with
    | zero => exact Nat.zero_le _
    | succ k =>
      by_cases hc : c = '}'
      · have hdepth := h hc
        simp [hc]
        omega
      · simp [hc]

theorem closing_eq_none_iff : closing depth cs = none ↔ ClosesOwn depth cs := by
  induction cs generalizing depth with
  | nil => exact iff_of_true rfl (closesOwn_nil depth)
  | cons c cs ih =>
    rw [← List.singleton_append, closesOwn_append]
    by_cases h : ClosesOwn depth [c]
    · rw [List.singleton_append, closing_cons h, Option.map_eq_none_iff, ih, and_iff_right h]
    · obtain ⟨rfl, rfl⟩ : c = '}' ∧ depth = 0 := by simpa [closesOwn_singleton] using h
      exact iff_of_false (Option.some_ne_none _) fun hn => h hn.1

theorem closing_eq_some_iff : closing depth cs = some (body, rest) ↔
    cs = body ++ '}' :: rest ∧ ClosesOwn depth body ∧ depthAfter depth body = 0 := by
  constructor
  · intro h
    induction cs generalizing depth body with
    | nil => cases h
    | cons c cs ih =>
      by_cases hc : ClosesOwn depth [c]
      · rw [closing_cons hc] at h
        obtain ⟨p, hinner, heq⟩ := Option.map_eq_some_iff.mp h
        obtain ⟨rfl, rfl⟩ := Prod.mk.inj heq
        obtain ⟨hcs, hown, hdepth⟩ := ih hinner
        have hbody : c :: p.1 = [c] ++ p.1 := rfl
        rw [hbody, closesOwn_append, depthAfter_append hc, List.append_assoc, ← hcs]
        exact ⟨rfl, ⟨hc, hown⟩, hdepth⟩
      · obtain ⟨rfl, rfl⟩ : c = '}' ∧ depth = 0 := by simpa [closesOwn_singleton] using hc
        obtain ⟨rfl, rfl⟩ := Prod.mk.inj (Option.some.inj h)
        exact ⟨rfl, closesOwn_nil 0, rfl⟩
  · rintro ⟨rfl, hown, hdepth⟩
    have hbrace : closing 0 ('}' :: rest) = some ([], rest) := rfl
    rw [closing_append hown, hdepth, hbrace, Option.map_some, List.append_nil]

theorem blockBody?_eq_some_iff : blockBody? cs = some body ↔
    Balanced body ∧ ∃ back, cs = body ++ '}' :: back := by
  rw [blockBody?, Option.map_eq_some_iff, balanced_iff]
  constructor
  · rintro ⟨⟨inner, back⟩, h, rfl⟩
    obtain ⟨heq, hinner⟩ := closing_eq_some_iff.mp h
    exact ⟨hinner, back, heq⟩
  · rintro ⟨hbody, back, heq⟩
    exact ⟨(body, back), closing_eq_some_iff.mpr ⟨heq, hbody⟩, rfl⟩

theorem blockBody?_eq_none_iff : blockBody? cs = none ↔ ClosesOwn 0 cs := by
  rw [blockBody?, Option.map_eq_none_iff, closing_eq_none_iff]

end

/-! The scan of the bytes. -/

section

variable {text front back : List Char} {offset : Nat} {c : Char}

theorem eq_openingBrace {c : Char} (h : openingByte ∈ String.utf8EncodeChar c) : c = '{' :=
  Char.toNat_inj.mp (toNat_of_mem_utf8EncodeChar (by decide) h)

theorem eq_closingBrace {c : Char} (h : closingByte ∈ String.utf8EncodeChar c) : c = '}' :=
  Char.toNat_inj.mp (toNat_of_mem_utf8EncodeChar (by decide) h)

theorem closingOffset_append {bs : List UInt8} (h : ∀ b ∈ bs, b ≠ openingByte ∧ b ≠ closingByte)
    (depth i : Nat) (rest : List UInt8) :
    closingOffset depth i (bs ++ rest) = closingOffset depth (i + bs.length) rest := by
  induction bs generalizing i with
  | nil => rfl
  | cons b bs ih =>
    obtain ⟨hb, hbs⟩ := List.forall_mem_cons.mp h
    have hstep : closingOffset depth i (b :: (bs ++ rest)) =
        closingOffset depth (i + 1) (bs ++ rest) := by
      rw [closingOffset.eq_def]
      simp [hb]
    rw [List.cons_append, hstep, ih hbs, List.length_cons, Nat.add_assoc, Nat.add_comm 1]

theorem closingOffset_char (h : ClosesOwn depth [c]) (i : Nat) (rest : List UInt8) :
    closingOffset (depth + 1) i (String.utf8EncodeChar c ++ rest) =
      closingOffset (depthAfter depth [c] + 1) (i + c.utf8Size) rest := by
  by_cases hclose : c = '}'
  · subst hclose
    obtain ⟨d, rfl⟩ := Nat.exists_eq_succ_of_ne_zero (closesOwn_singleton.mp h rfl)
    rfl
  · by_cases hopen : c = '{'
    · subst hopen
      rfl
    · have hbytes : ∀ b ∈ String.utf8EncodeChar c, b ≠ openingByte ∧ b ≠ closingByte := by
        refine fun b hb => ⟨?_, ?_⟩
        · rintro rfl
          exact hopen (eq_openingBrace hb)
        · rintro rfl
          exact hclose (eq_closingBrace hb)
      have hplain : Braceless [c] := ⟨by simpa using Ne.symm hopen, by simpa using Ne.symm hclose⟩
      rw [closingOffset_append hbytes, String.length_utf8EncodeChar, depthAfter_of_braceless hplain]

/-- Within a block the scan of the bytes ends where the search for the closing brace does. Until
then at least one block is open, so that the count does not fall below zero. -/
theorem closingOffset_utf8 (depth i : Nat) (cs : List Char) :
    closingOffset (depth + 1) i (utf8 cs) =
      .ok ((closing depth cs).map fun p => i + (utf8 p.1).length) := by
  induction cs generalizing depth i with
  | nil => rfl
  | cons c cs ih =>
    by_cases h : ClosesOwn depth [c]
    · rw [utf8_cons, closingOffset_char h, ih, closing_cons h, Option.map_map]
      simp only [Function.comp_def, length_utf8_cons, Nat.add_assoc]
    · obtain ⟨rfl, rfl⟩ : c = '}' ∧ depth = 0 := by simpa [closesOwn_singleton] using h
      rfl

theorem cut_body (front body rest : List Char) :
    cut (front ++ '{' :: (body ++ '}' :: rest)) ((utf8 front).length + 1)
      ((utf8 front).length + 1 + (utf8 body).length) = .ok body := by
  have hstart : (utf8 (front ++ ['{'])).length = (utf8 front).length + 1 := by
    rw [utf8_append, List.length_append]
    rfl
  have hslice := slice?_append (front ++ ['{']) body ('}' :: rest)
  rw [hstart, List.append_assoc, List.singleton_append] at hslice
  rw [cut, hslice]

theorem blockAt_append (front back : List Char) :
    blockAt (front ++ '{' :: back) (utf8 front).length = .ok (blockBody? back) := by
  have hbytes : utf8 (front ++ '{' :: back) = utf8 front ++ openingByte :: utf8 back :=
    utf8_append front _
  have hbyte : (utf8 (front ++ '{' :: back))[(utf8 front).length]? = some openingByte := by
    rw [hbytes, List.getElem?_append_right (Nat.le_refl _), Nat.sub_self]
    rfl
  have hscan : closingOffset 0 (utf8 front).length
      ((utf8 (front ++ '{' :: back)).drop (utf8 front).length) =
      .ok ((closing 0 back).map fun p => (utf8 front).length + 1 + (utf8 p.1).length) := by
    rw [hbytes, List.drop_left, ← closingOffset_utf8]
    rfl
  rw [blockAt, if_pos hbyte, hscan, blockBody?]
  cases h : closing 0 back with
  | none => rfl
  | some p =>
    obtain rfl := closing_eq_some h
    exact congrArg (Except.map some) (cut_body front p.1 p.2)

theorem exists_char_at (h : offset < (utf8 text).length) :
    ∃ front c back, text = front ++ c :: back ∧
    (utf8 front).length ≤ offset ∧ offset < (utf8 front).length + c.utf8Size := by
  induction text generalizing offset with
  | nil => exact absurd h (Nat.not_lt_zero _)
  | cons c text ih =>
    rw [length_utf8_cons] at h
    obtain hlt | hge := Nat.lt_or_ge offset c.utf8Size
    · exact ⟨[], c, text, rfl, Nat.zero_le _, by simpa [utf8] using hlt⟩
    · have hrest : offset - c.utf8Size < (utf8 text).length := by omega
      obtain ⟨front, d, back, rfl, hle, hlt⟩ := ih hrest
      refine ⟨c :: front, d, back, rfl, ?_⟩
      rw [length_utf8_cons]
      omega

theorem byte_mem (hle : (utf8 front).length ≤ offset)
    (hlt : offset < (utf8 front).length + c.utf8Size) {b : UInt8}
    (h : (utf8 (front ++ c :: back))[offset]? = some b) : b ∈ String.utf8EncodeChar c := by
  have hsize : offset - (utf8 front).length < (String.utf8EncodeChar c).length := by
    rw [String.length_utf8EncodeChar]
    omega
  rw [utf8_append, utf8_cons, List.getElem?_append_right hle, List.getElem?_append_left hsize] at h
  exact List.mem_of_getElem? h

theorem exists_of_openingByte (h : (utf8 text)[offset]? = some openingByte) :
    ∃ front back, text = front ++ '{' :: back ∧ (utf8 front).length = offset := by
  obtain ⟨front, c, back, rfl, hle, hlt⟩ := exists_char_at (List.getElem?_eq_some_iff.mp h).1
  obtain rfl := eq_openingBrace (byte_mem hle hlt h)
  have hsize : '{'.utf8Size = 1 := rfl
  exact ⟨front, back, rfl, by omega⟩

theorem blockAt_of_not_opening (h : (utf8 text)[offset]? ≠ some openingByte) :
    blockAt text offset = .ok none :=
  if_neg h

theorem exists_blockAt (text : List Char) (offset : Nat) :
    ∃ found, blockAt text offset = .ok found := by
  by_cases h : (utf8 text)[offset]? = some openingByte
  · obtain ⟨front, back, rfl, rfl⟩ := exists_of_openingByte h
    exact ⟨_, blockAt_append front back⟩
  · exact ⟨none, blockAt_of_not_opening h⟩

theorem blockAt_eq_some_iff {body : List Char} :
    blockAt text offset = .ok (some body) ↔ Encloses text offset body := by
  constructor
  · intro h
    by_cases hbyte : (utf8 text)[offset]? = some openingByte
    · obtain ⟨front, back, rfl, rfl⟩ := exists_of_openingByte hbyte
      rw [blockAt_append, Except.ok.injEq, blockBody?_eq_some_iff] at h
      obtain ⟨hbody, rest, rfl⟩ := h
      exact ⟨front, rest, rfl, rfl, hbody⟩
    · rw [blockAt_of_not_opening hbyte] at h
      cases h
  · rintro ⟨front, back, rfl, rfl, hbody⟩
    rw [blockAt_append, blockBody?_eq_some_iff.mpr ⟨hbody, back, rfl⟩]

theorem blockAt_eq_none_iff : blockAt text offset = .ok none ↔ Blockless text offset := by
  constructor
  · intro h
    obtain hlt | hge := Nat.lt_or_ge offset (utf8 text).length
    · obtain ⟨front, c, back, htext, hstart, hend⟩ := exists_char_at hlt
      obtain hinside | heq := Nat.lt_or_eq_of_le hstart
      · exact .inside htext hinside hend
      · by_cases hc : c = '{'
        · subst htext hc heq
          rw [blockAt_append, Except.ok.injEq, blockBody?_eq_none_iff] at h
          exact .unclosed rfl rfl fun k => by simpa using h k
        · exact .other htext heq hc
    · exact .beyond hge
  · intro h
    cases h with
    | beyond h =>
      refine blockAt_of_not_opening ?_
      rw [List.getElem?_eq_none h]
      exact nofun
    | @inside front back c htext hstart hend =>
      subst htext
      refine blockAt_of_not_opening fun hbyte => ?_
      obtain rfl := eq_openingBrace (byte_mem hstart.le hend hbyte)
      have hsize : '{'.utf8Size = 1 := rfl
      omega
    | @other front back c htext hstart hc =>
      subst htext hstart
      refine blockAt_of_not_opening fun hbyte => ?_
      have hend := Nat.lt_add_of_pos_right (n := (utf8 front).length) c.utf8Size_pos
      exact hc (eq_openingBrace (byte_mem (Nat.le_refl _) hend hbyte))
    | @unclosed front back htext hstart h =>
      subst htext hstart
      have hback : ClosesOwn 0 back := fun k => by simpa using h k
      rw [blockAt_append, blockBody?_eq_none_iff.mpr hback]

/-- The block at a byte offset is what stands between an opening brace there and the brace that
matches it, of which there is but one. Wherever there is no such body, no block is found. In no case
does the scan lose count or cut a character. -/
theorem blockAt_matches (text : List Char) (offset : Nat) :
    (∃ found, blockAt text offset = .ok found) ∧
    (∀ body, blockAt text offset = .ok (some body) ↔ Encloses text offset body) ∧
    (∀ body other, Encloses text offset body → Encloses text offset other → body = other) ∧
    (blockAt text offset = .ok none ↔ Blockless text offset) := by
  refine ⟨exists_blockAt text offset, fun body => blockAt_eq_some_iff, fun body other h h' => ?_,
    blockAt_eq_none_iff⟩
  have heq := (blockAt_eq_some_iff.mpr h).symm.trans (blockAt_eq_some_iff.mpr h')
  exact Option.some.inj (Except.ok.inj heq)

def wide : List Char := "é\x7b \x7b€\x7d\x7b\x7d \x7d\x7d".toList

theorem blockAt_matches_wide :
    blockAt wide 2 = .ok (some " \x7b€\x7d\x7b\x7d ".toList) ∧
      (∀ body, Encloses wide 2 body → body = " \x7b€\x7d\x7b\x7d ".toList) ∧
      blockAt wide 1 = .ok none ∧ blockAt wide 6 = .ok none := by
  have hbody : Encloses wide 2 " \x7b€\x7d\x7b\x7d ".toList := ⟨['é'], ['}'], rfl, rfl, by decide⟩
  obtain ⟨-, hsome, hunique, -⟩ := blockAt_matches wide 2
  obtain ⟨-, -, -, hinside⟩ := blockAt_matches wide 1
  obtain ⟨-, -, -, hwide⟩ := blockAt_matches wide 6
  refine ⟨(hsome _).mpr hbody, fun body h => hunique body _ h hbody, hinside.mpr ?_, hwide.mpr ?_⟩
  · have htext : wide = [] ++ 'é' :: "\x7b \x7b€\x7d\x7b\x7d \x7d\x7d".toList := rfl
    exact .inside htext (by decide) (by decide)
  · have htext : wide = "é\x7b \x7b".toList ++ '€' :: "\x7d\x7b\x7d \x7d\x7d".toList := rfl
    exact .inside htext (by decide) (by decide)

end

end StyleGuide.Text
