import StyleGuide.Json.Event
import StyleGuide.Proofs.JsonLine
import StyleGuide.Text.Search

namespace StyleGuide

namespace Decimal

theorem eq_nil_of_digits_eq {n : Nat} {r : List Char} (h : digits n = '0' :: r) : r = [] := by
  induction n using Nat.strongRecOn generalizing r with
  | _ n ih =>
    rw [digits] at h
    split at h
    · exact (List.cons.inj h).2.symm
    · next hn =>
      obtain ⟨d, ds, hd⟩ := List.exists_cons_of_ne_nil (digits_ne_nil (n / 10))
      rw [hd, List.cons_append] at h
      have hz : digits (n / 10) = '0' :: ds := by rw [hd, (List.cons.inj h).1]
      have hs : digits (n / 10) = ['0'] := by rw [hz, ih (n / 10) (by omega) hz]
      have ho : n / 10 = 0 := by rw [← ofDigits_digits (n / 10), hs]; rfl
      omega

theorem ne_of_isDigit {c d : Char} (hc : isDigit c = true) (hd : isDigit d = false) : c ≠ d := by
  rintro rfl
  rw [hc] at hd
  cases hd

end Decimal

namespace Json

open Decimal (isDigit digits ne_of_isDigit two)
open Text (hexDigit)

/-- What stands after a value ends it: nothing, or what can follow an item or a member. -/
def Ends (rest : List Char) : Prop := ∀ c, rest.head? = some c → c = ',' ∨ c = ']' ∨ c = '}'

theorem ends_nil : Ends [] := nofun

theorem ends_cons {c : Char} (h : c = ',' ∨ c = ']' ∨ c = '}') (rest : List Char) :
    Ends (c :: rest) := by
  intro d hd
  exact Option.some.inj hd ▸ h

theorem Ends.not_head {rest : List Char} (h : Ends rest) {p : Char → Bool}
    (hp : p ',' = false ∧ p ']' = false ∧ p '}' = false) {c : Char} (hc : rest.head? = some c) :
    p c = false := by
  obtain rfl | rfl | rfl := h c hc
  · exact hp.1
  · exact hp.2.1
  · exact hp.2.2

namespace Numeral

variable {rest : List Char}

theorem digits?_append (h : Ends rest) (n : Nat) :
    digits? (digits n ++ rest) = .ok (digits n, rest) := by
  have hrun : Text.run isDigit (digits n ++ rest) = (digits n, rest) :=
    Text.run_eq_iff.2 ⟨rfl, fun c hc => Decimal.isDigit_of_mem_digits hc,
      fun c hc => h.not_head (by decide) hc⟩
  obtain ⟨ht, hd⟩ := Prod.mk.inj hrun
  rw [digits?, ht, hd]
  obtain ⟨d, ds, hds⟩ := List.exists_cons_of_ne_nil (Decimal.digits_ne_nil n)
  rw [hds]

theorem whole?_append (h : Ends rest) (n : Nat) :
    whole? (digits n ++ rest) = .ok (digits n, rest) := by
  rw [whole?, digits?_append h]
  split
  · next he =>
    have hd := (Prod.mk.inj (Except.ok.inj he)).1
    cases Decimal.eq_nil_of_digits_eq hd
  · rfl

theorem fraction?_of_ends (h : Ends rest) : fraction? rest = .ok (none, rest) := by
  unfold fraction?
  split
  · next cs =>
    exact absurd (h '.' rfl) (by decide)
  · rfl

theorem exponent?_of_ends (h : Ends rest) : exponent? rest = .ok (none, rest) := by
  cases rest with
  | nil => rfl
  | cons c cs =>
    have hc : ¬ (c = 'e' ∨ c = 'E') := by
      obtain rfl | rfl | rfl := h c rfl <;> decide
    rw [exponent?, if_neg hc]

theorem read_append (h : Ends rest) (negative : Bool) (n : Nat) :
    read negative (digits n ++ rest) = .ok (⟨negative, digits n, none, none⟩, rest) := by
  rw [read, whole?_append h]
  simp only [bind, Except.bind, fraction?_of_ends h, exponent?_of_ends h]
  rfl

theorem value?_positive {n : Nat} (h : n ≤ most) :
    value? ⟨false, digits n, none, none⟩ = some (.int n) := by
  simp [value?, Decimal.ofDigits_digits, h]

theorem value?_negative {n : Nat} (hn : 0 < n) (h : n ≤ two 63) :
    value? ⟨true, digits n, none, none⟩ = some (.int (-n)) := by
  simp [value?, Decimal.ofDigits_digits, hn, h]

end Numeral

theorem hexValue?_hexDigit {n : Nat} (h : n < 16) : hexValue? (hexDigit n) = some n := by
  have hall : ∀ m < 16, hexValue? (hexDigit m) = some m := by decide
  exact hall n h

theorem stringBody?_of_escaped {d : Char} {r rest : List Char} (hd : escaped? r = .ok (d, rest))
    (hr : rest.length ≤ r.length) :
    stringBody? ('\\' :: r) = (stringBody? rest).map fun p => (d :: p.1, p.2) := by
  rw [stringBody?, if_neg (by decide), if_pos rfl, hd]
  exact if_pos hr

theorem stringBody?_escape (c : Char) (cs : List Char) :
    stringBody? (escape c ++ cs) = (stringBody? cs).map fun p => (c :: p.1, p.2) := by
  rw [escape]
  -- Seven characters have a short form. Any other control character is given by its code.
  iterate 7
    split
    · next hc =>
      subst hc
      exact stringBody?_of_escaped rfl (by simp)
  split
  · next hn =>
    have hhigh := hexValue?_hexDigit (n := c.toNat / 16) (by omega)
    have hlow := hexValue?_hexDigit (n := c.toNat % 16) (by omega)
    have hsum : ((0 * 16 + 0) * 16 + c.toNat / 16) * 16 + c.toNat % 16 = c.toNat := by omega
    have hz : hexValue? '0' = some 0 := rfl
    have hx : hex4? ('0' :: '0' :: hexDigit (c.toNat / 16) :: hexDigit (c.toNat % 16) :: cs) =
        .ok (c.toNat, cs) := by
      simp only [hex4?, hz, hhigh, hlow, hsum]
    have ht : isTrailSurrogate c.toNat = false := by
      simp [isTrailSurrogate]; omega
    have hl : isLeadSurrogate c.toNat = false := by
      simp [isLeadSurrogate]; omega
    have he :
        escaped? ('u' :: '0' :: '0' :: hexDigit (c.toNat / 16) :: hexDigit (c.toNat % 16) :: cs) =
        .ok (c, cs) := by
      simp only [escaped?, if_pos, codeUnit?, hx, bind, Except.bind, ht, hl, Char.ofNat_toNat]
      rfl
    exact stringBody?_of_escaped he (by simp; omega)
  · next hq hb _ _ _ _ _ hn =>
    rw [List.singleton_append, stringBody?, if_neg hq, if_neg hb, if_neg hn]

theorem stringBody?_append (cs rest : List Char) :
    stringBody? (cs.flatMap escape ++ '\x22' :: rest) = .ok (cs, rest) := by
  induction cs with
  | nil => rw [List.flatMap_nil, List.nil_append, stringBody?, if_pos rfl]
  | cons c cs ih =>
    rw [List.flatMap_cons, List.append_assoc, stringBody?_escape, ih]
    rfl

theorem string?_append (s : String) (rest : List Char) :
    string? (s.toList.flatMap escape ++ '\x22' :: rest) = .ok (s, rest) := by
  rw [string?, stringBody?_append, Except.map, String.ofList_toList]

/-- A value without fractions: whole numbers of 64 bits, signed or not, no key twice in an object,
and containers in containers down to the given depth. -/
inductive Plain : Nat → Json → Prop where
  | null {n : Nat} : Plain n .null
  | bool {n : Nat} (b : Bool) : Plain n (.bool b)
  | int {n : Nat} {i : Int} (low : -(two 63 : Int) ≤ i) (high : i < two 64) : Plain n (.int i)
  | string {n : Nat} (s : String) : Plain n (.string s)
  | array {n : Nat} {items : List Json} (h : ∀ x ∈ items, Plain n x) : Plain (n + 1) (.array items)
  | object {n : Nat} {members : List (String × Json)} (distinct : (members.map Prod.fst).Nodup)
    (h : ∀ m ∈ members, Plain n m.2) : Plain (n + 1) (.object members)

/-- Events that put a value where it belongs, whatever is open. -/
def Conveys (es : List Event) (j : Json) : Prop :=
  ∀ b : Builder, es.foldl Builder.add b = Builder.place j b.frames

namespace Events

variable {inside : List Container} {rest : List Char}

theorem prepend_prepend (as bs : List Event) (es : Events) :
    (es.prepend bs).prepend as = es.prepend (as ++ bs) := by
  simp [prepend]

theorem ofPlace_of_moved {p q : Place} {cs : List Char} {es : List Event}
    (h : step p cs = .moved es q rest) (hr : rest.length < cs.length) :
    ofPlace p cs = (ofPlace q rest).prepend es := by
  rw [ofPlace, h]
  exact if_pos hr

theorem step_cons {p : Place} {c : Char} (h : isSpace c = false) (r : List Char) :
    step p (c :: r) = stepAt p.expected p.inside c r := by
  have hs : skipSpace (c :: r) = c :: r := List.dropWhile_cons_of_neg (by simp [h])
  rw [step, hs]

theorem number?_int {i : Int} (low : -(two 63 : Int) ≤ i) (high : i < two 64) (h : Ends rest) :
    number? (i < 0) (digits i.natAbs ++ rest) = .ok (.int i, rest) := by
  rw [number?, Numeral.read_append h]
  have hv : Numeral.value? ⟨i < 0, digits i.natAbs, none, none⟩ = some (.int i) := by
    by_cases hi : i < 0
    · have hn : -(i.natAbs : Int) = i := by omega
      rw [decide_eq_true hi, Numeral.value?_negative (by omega) (by omega), hn]
    · have hn : (i.natAbs : Int) = i := by omega
      have hm : i.natAbs ≤ Numeral.most := by
        have : Numeral.most = two 64 - 1 := rfl
        omega
      rw [decide_eq_false hi, Numeral.value?_positive hm, hn]
  simp only [bind, Except.bind, hv]
  rfl

theorem word?_append (w rest : List Char) : word? w (w ++ rest) = .ok rest := by
  induction w with
  | nil => rfl
  | cons c w ih => rw [List.cons_append, word?, if_pos rfl, ih]

def BeginsScalar (c : Char) : Prop := isSpace c = false ∧ c ≠ ']' ∧ c ≠ '[' ∧ c ≠ '{'

theorem beginsScalar_of_isDigit {c : Char} (h : isDigit c = true) : BeginsScalar c := by
  have hspace : isSpace c = false := by
    have hs : c ≠ ' ' ∧ c ≠ '\n' ∧ c ≠ '\t' ∧ c ≠ '\r' :=
      ⟨ne_of_isDigit h rfl, ne_of_isDigit h rfl, ne_of_isDigit h rfl, ne_of_isDigit h rfl⟩
    simp [isSpace, hs]
  exact ⟨hspace, ne_of_isDigit h rfl, ne_of_isDigit h rfl, ne_of_isDigit h rfl⟩

theorem scalar?_int {i : Int} (low : -(two 63 : Int) ≤ i) (high : i < two 64) :
    ∃ c cs, Decimal.int i = c :: cs ∧ BeginsScalar c ∧
      ∀ rest, Ends rest → scalar? c (cs ++ rest) = .ok (.int i, rest) := by
  by_cases hi : i < 0
  · refine ⟨'-', digits i.natAbs, by rw [Decimal.int, if_pos hi], by simp [BeginsScalar, isSpace],
      ?_⟩
    intro rest hr
    have hn := number?_int low high hr
    rw [decide_eq_true hi] at hn
    exact hn
  · obtain ⟨d, ds, hd⟩ := List.exists_cons_of_ne_nil (Decimal.digits_ne_nil i.natAbs)
    have hdigit : isDigit d = true := Decimal.isDigit_of_mem_digits (hd ▸ List.mem_cons_self)
    have hne {e : Char} (he : isDigit e = false) : d ≠ e := ne_of_isDigit hdigit he
    refine ⟨d, ds, by rw [Decimal.int, if_neg hi, hd], beginsScalar_of_isDigit hdigit, ?_⟩
    intro rest hr
    have hn := number?_int low high hr
    rw [decide_eq_false hi, hd, List.cons_append] at hn
    rw [scalar?, if_neg (hne rfl), if_neg (hne rfl), if_neg (hne rfl), if_neg (hne rfl),
      if_pos hdigit, hn]

def TakesValue (e : Expected) : Prop := e = .value ∨ e = .firstItem

theorem ofPlace_of_value {e : Expected} {c : Char} {r : List Char} {es : List Event} {q : Place}
    (he : TakesValue e) (hc : isSpace c = false ∧ c ≠ ']')
    (hv : value inside c r = .moved es q rest) (hr : rest.length < (c :: r).length) :
    ofPlace ⟨e, inside⟩ (c :: r) = (ofPlace q rest).prepend es := by
  apply ofPlace_of_moved _ hr
  rw [step_cons hc.1]
  obtain rfl | rfl := he
  · exact hv
  · rw [stepAt, if_neg hc.2, hv]

/-- A text that is read as a value in one piece, wherever it stands with room for the containers in
it. -/
def Reads (n : Nat) (cs : List Char) (j : Json) : Prop :=
  ∀ (e : Expected) (inside : List Container) (rest : List Char), TakesValue e →
    inside.length + n ≤ deepest → Ends rest → ∃ es, Conveys es j ∧
      ofPlace ⟨e, inside⟩ (cs ++ rest) = (ofPlace ⟨.afterValue, inside⟩ rest).prepend es

def Readable (n : Nat) (j : Json) : Prop := Reads n (chars j) j

theorem readable_scalar {n : Nat} {s : Scalar} {c : Char} {cs : List Char}
    (hcs : scalarChars s = c :: cs) (hc : BeginsScalar c)
    (hs : ∀ rest, Ends rest → scalar? c (cs ++ rest) = .ok (s, rest)) : Readable n (.scalar s) := by
  intro e inside rest he _ hr
  refine ⟨[.scalar s], fun b => rfl, ?_⟩
  have hv : value inside c (cs ++ rest) = .moved [.scalar s] ⟨.afterValue, inside⟩ rest := by
    rw [value, if_neg hc.2.2.1, if_neg hc.2.2.2, hs rest hr]
  have hlength : rest.length < (c :: (cs ++ rest)).length := by
    rw [List.length_cons, List.length_append]
    omega
  rw [chars, hcs]
  exact ofPlace_of_value he ⟨hc.1, hc.2.1⟩ hv hlength

theorem readable_word {n : Nat} {s : Scalar} {c : Char} {w : List Char}
    (hw : scalarChars s = c :: w) (hc : c = 'n' ∨ c = 't' ∨ c = 'f')
    (hs : ∀ r, scalar? c r = (word? w r).map fun rest => (s, rest)) : Readable n (.scalar s) := by
  have hb : BeginsScalar c := by
    obtain rfl | rfl | rfl := hc <;> simp [BeginsScalar, isSpace]
  refine readable_scalar hw hb fun rest _ => ?_
  rw [hs, word?_append]
  rfl

theorem readable_string (n : Nat) (s : String) : Readable n (.string s) := by
  have hc : scalarChars (.string s) = '\x22' :: (s.toList.flatMap escape ++ ['\x22']) := rfl
  have hquote : ∀ r, scalar? '\x22' r = (string? r).map fun p => (.string p.1, p.2) := fun _ => rfl
  refine readable_scalar hc (by simp [BeginsScalar, isSpace]) fun rest _ => ?_
  rw [hquote, List.append_assoc, List.singleton_append, string?_append]
  rfl

theorem readable_int {n : Nat} {i : Int} (low : -(two 63 : Int) ≤ i) (high : i < two 64) :
    Readable n (.int i) := by
  obtain ⟨c, cs, hcs, hc, hs⟩ := scalar?_int low high
  exact readable_scalar hcs hc hs

variable {n : Nat}

theorem ends_items (xs : List Json) (rest : List Char) : Ends (itemChars xs ++ ']' :: rest) := by
  cases xs <;> exact ends_cons (by simp) _

theorem exists_ofPlace_items {xs : List Json} (h : ∀ x ∈ xs, Readable n x)
    (hn : inside.length + 1 + n ≤ deepest) (rest : List Char) : ∃ es,
    (∀ acc fs result, es.foldl Builder.add ⟨.array acc :: fs, result⟩ =
      Builder.place (.array (acc ++ xs)) fs) ∧
    ofPlace ⟨.afterValue, .array :: inside⟩ (itemChars xs ++ ']' :: rest) =
      (ofPlace ⟨.afterValue, inside⟩ rest).prepend es := by
  induction xs with
  | nil =>
    refine ⟨[.closeArray], fun acc fs result => by rw [List.append_nil]; rfl, ?_⟩
    exact ofPlace_of_moved (step_cons rfl _) (by simp [itemChars])
  | cons x xs ih =>
    obtain ⟨hx, hxs⟩ := List.forall_mem_cons.mp h
    obtain ⟨es, hes, hread⟩ := ih hxs
    obtain ⟨ex, hex, hreadx⟩ :=
      hx .value (.array :: inside) (itemChars xs ++ ']' :: rest) (.inl rfl)
      (by simpa using hn) (ends_items xs rest)
    refine ⟨.comma :: (ex ++ es), fun acc fs result => ?_, ?_⟩
    · have hadd : Builder.add ⟨.array acc :: fs, result⟩ .comma = ⟨.array acc :: fs, result⟩ := rfl
      rw [List.foldl_cons, hadd, List.foldl_append, hex, Builder.place, hes, List.append_assoc,
        List.singleton_append]
    · have hcomma : ofPlace ⟨.afterValue, .array :: inside⟩
          (',' :: (chars x ++ (itemChars xs ++ ']' :: rest))) =
          (ofPlace ⟨.value, .array :: inside⟩ (chars x ++ (itemChars xs ++ ']' :: rest))).prepend
            [.comma] := ofPlace_of_moved (step_cons rfl _) (by simp)
      rw [itemChars, List.cons_append, List.cons_append, List.append_assoc, hcomma, hreadx, hread,
        prepend_prepend, prepend_prepend]
      rfl

theorem readable_array {xs : List Json} (h : ∀ x ∈ xs, Readable n x) :
    Readable (n + 1) (.array xs) := by
  intro e inside rest he hn hr
  have hv : ∀ r, value inside '[' r = .moved [.openArray] ⟨.firstItem, .array :: inside⟩ r := by
    intro r
    -- The room that is left for the items is what lets the array be opened.
    have hroom : ¬ deepest ≤ inside.length := by omega
    rw [value, if_pos rfl, enter, if_neg hroom]
  have hopen : ∀ r, ofPlace ⟨e, inside⟩ ('[' :: r) =
      (ofPlace ⟨.firstItem, .array :: inside⟩ r).prepend [.openArray] := fun r =>
    ofPlace_of_value he (by decide) (hv r) (by simp)
  cases xs with
  | nil =>
    have hclose : ofPlace ⟨.firstItem, .array :: inside⟩ (']' :: rest) =
        (ofPlace ⟨.afterValue, inside⟩ rest).prepend [.closeArray] :=
      ofPlace_of_moved (step_cons rfl _) (by simp)
    refine ⟨[.openArray, .closeArray], fun b => rfl, ?_⟩
    rw [chars, List.cons_append, List.singleton_append, hopen, hclose, prepend_prepend]
    rfl
  | cons x xs =>
    obtain ⟨hx, hxs⟩ := List.forall_mem_cons.mp h
    have hroom : inside.length + 1 + n ≤ deepest := by omega
    obtain ⟨es, hes, hread⟩ := exists_ofPlace_items hxs hroom rest
    obtain ⟨ex, hex, hreadx⟩ :=
      hx .firstItem (.array :: inside) (itemChars xs ++ ']' :: rest) (.inr rfl)
      (by simpa using hroom) (ends_items xs rest)
    refine ⟨.openArray :: (ex ++ es), fun b => ?_, ?_⟩
    · have hadd : Builder.add b .openArray = { b with frames := .array [] :: b.frames } := rfl
      rw [List.foldl_cons, hadd, List.foldl_append, hex, Builder.place, hes]
      rfl
    · rw [chars, List.append_assoc, List.append_assoc, List.cons_append, hopen,
        List.singleton_append, hreadx, hread, prepend_prepend, prepend_prepend]
      rfl

theorem ends_members (ms : List (String × Json)) (rest : List Char) :
    Ends (membersChars ms ++ '}' :: rest) := by
  cases ms <;> exact ends_cons (by simp) _

def TakesKey (e : Expected) : Prop := e = .key ∨ e = .firstKey

theorem exists_ofPlace_member {m : String × Json} (h : Readable n m.2) {e : Expected}
    (he : TakesKey e) (hn : inside.length + 1 + n ≤ deepest) (hr : Ends rest) : ∃ es,
    (∀ acc name fs result, es.foldl Builder.add ⟨.object acc name :: fs, result⟩ =
      ⟨.object (put m.1 m.2 acc) m.1 :: fs, .null⟩) ∧
    ofPlace ⟨e, .object :: inside⟩ (memberChars m ++ rest) =
      (ofPlace ⟨.afterValue, .object :: inside⟩ rest).prepend es := by
  obtain ⟨name, x⟩ := m
  obtain ⟨ex, hex, hread⟩ := h .value (.object :: inside) rest (.inl rfl) (by simpa using hn) hr
  have hname : memberName (.object :: inside) '\x22'
      (name.toList.flatMap escape ++ '\x22' :: (':' :: (chars x ++ rest))) =
      .moved [.key name] ⟨.colon, .object :: inside⟩ (':' :: (chars x ++ rest)) := by
    rw [memberName, if_pos rfl, string?_append]
  have hkey : ofPlace ⟨e, .object :: inside⟩
      ('\x22' :: (name.toList.flatMap escape ++ '\x22' :: (':' :: (chars x ++ rest)))) =
      (ofPlace ⟨.colon, .object :: inside⟩ (':' :: (chars x ++ rest))).prepend [.key name] := by
    apply ofPlace_of_moved _ (by simp; omega)
    rw [step_cons rfl]
    obtain rfl | rfl := he
    · exact hname
    · exact hname
  have hcolon : ofPlace ⟨.colon, .object :: inside⟩ (':' :: (chars x ++ rest)) =
      (ofPlace ⟨.value, .object :: inside⟩ (chars x ++ rest)).prepend [] :=
    ofPlace_of_moved (step_cons rfl _) (by simp)
  have htext : memberChars (name, x) ++ rest =
      '\x22' :: (name.toList.flatMap escape ++ '\x22' :: (':' :: (chars x ++ rest))) := by
    simp [memberChars, stringChars]
  refine ⟨.key name :: ex, fun acc old fs result => ?_, ?_⟩
  · have hadd : Builder.add ⟨.object acc old :: fs, result⟩ (.key name) =
        ⟨.object acc name :: fs, result⟩ := rfl
    rw [List.foldl_cons, hadd, hex, Builder.place]
  · rw [htext, hkey, hcolon, hread, prepend_prepend, prepend_prepend]
    rfl

theorem exists_ofPlace_members {ms : List (String × Json)} (h : ∀ m ∈ ms, Readable n m.2)
    (hn : inside.length + 1 + n ≤ deepest) (rest : List Char) : ∃ es,
    (∀ acc name fs result, es.foldl Builder.add ⟨.object acc name :: fs, result⟩ =
      Builder.place (.object (ms.foldl (fun acc m => put m.1 m.2 acc) acc)) fs) ∧
    ofPlace ⟨.afterValue, .object :: inside⟩ (membersChars ms ++ '}' :: rest) =
      (ofPlace ⟨.afterValue, inside⟩ rest).prepend es := by
  induction ms with
  | nil =>
    refine ⟨[.closeObject], fun acc name fs result => rfl, ?_⟩
    exact ofPlace_of_moved (step_cons rfl _) (by simp [membersChars])
  | cons m ms ih =>
    obtain ⟨hm, hms⟩ := List.forall_mem_cons.mp h
    obtain ⟨es, hes, hread⟩ := ih hms
    obtain ⟨em, hem, hreadm⟩ := exists_ofPlace_member hm (.inl rfl) hn (ends_members ms rest)
    have hcomma : ofPlace ⟨.afterValue, .object :: inside⟩
        (',' :: (memberChars m ++ (membersChars ms ++ '}' :: rest))) =
        (ofPlace ⟨.key, .object :: inside⟩
          (memberChars m ++ (membersChars ms ++ '}' :: rest))).prepend
          [.comma] := ofPlace_of_moved (step_cons rfl _) (by simp)
    refine ⟨.comma :: (em ++ es), fun acc name fs result => ?_, ?_⟩
    · have hadd : Builder.add ⟨.object acc name :: fs, result⟩ .comma =
          ⟨.object acc name :: fs, result⟩ := rfl
      rw [List.foldl_cons, hadd, List.foldl_append, hem, hes, List.foldl_cons]
    · rw [membersChars, List.cons_append, List.cons_append, List.append_assoc, hcomma, hreadm,
        hread, prepend_prepend, prepend_prepend]
      rfl

/-- Of members with one name the last gives the value, and the first the place. -/
theorem reads_object {ms : List (String × Json)} (h : ∀ m ∈ ms, Readable n m.2) :
    Reads (n + 1) (chars (.object ms)) (.object (OrderedMap.ofList ms).entries) := by
  intro e inside rest he hn hr
  have hv : ∀ r, value inside '{' r = .moved [.openObject] ⟨.firstKey, .object :: inside⟩ r := by
    intro r
    have hroom : ¬ deepest ≤ inside.length := by omega
    rw [value, if_neg (by decide), if_pos rfl, enter, if_neg hroom]
  have hopen : ∀ r, ofPlace ⟨e, inside⟩ ('{' :: r) =
      (ofPlace ⟨.firstKey, .object :: inside⟩ r).prepend [.openObject] := fun r =>
    ofPlace_of_value he (by decide) (hv r) (by simp)
  cases ms with
  | nil =>
    have hclose : ofPlace ⟨.firstKey, .object :: inside⟩ ('}' :: rest) =
        (ofPlace ⟨.afterValue, inside⟩ rest).prepend [.closeObject] :=
      ofPlace_of_moved (step_cons rfl _) (by simp)
    refine ⟨[.openObject, .closeObject], fun b => rfl, ?_⟩
    rw [chars, List.cons_append, List.singleton_append, hopen, hclose, prepend_prepend]
    rfl
  | cons m ms =>
    obtain ⟨hm, hms⟩ := List.forall_mem_cons.mp h
    have hroom : inside.length + 1 + n ≤ deepest := by omega
    obtain ⟨es, hes, hread⟩ := exists_ofPlace_members hms hroom rest
    obtain ⟨em, hem, hreadm⟩ := exists_ofPlace_member hm (.inr rfl) hroom (ends_members ms rest)
    refine ⟨.openObject :: (em ++ es), fun b => ?_, ?_⟩
    · have hadd : Builder.add b .openObject = { b with frames := .object [] "" :: b.frames } := rfl
      rw [List.foldl_cons, hadd, List.foldl_append, hem, hes, OrderedMap.entries_ofList]
      rfl
    · rw [chars, List.append_assoc, List.append_assoc, List.cons_append, hopen,
        List.singleton_append, hreadm, hread, prepend_prepend, prepend_prepend]
      rfl

theorem readable_of_plain {j : Json} (h : Plain n j) : Readable n j := by
  induction h with
  | null => exact readable_word rfl (.inl rfl) fun _ => rfl
  | bool b =>
    cases b with
    | false => exact readable_word rfl (.inr (.inr rfl)) fun _ => rfl
    | true => exact readable_word rfl (.inr (.inl rfl)) fun _ => rfl
  | int low high => exact readable_int low high
  | string s => exact readable_string _ s
  | array h ih => exact readable_array ih
  | @object n members distinct h ih =>
    have hkeys : (OrderedMap.ofList members).entries = members :=
      congrArg OrderedMap.entries (OrderedMap.ofList_entries ⟨members, distinct⟩)
    have hread := reads_object ih
    rwa [hkeys] at hread

end Events

theorem read_of_reads {cs : List Char} {j : Json} (h : Events.Reads Events.deepest cs j) :
    read cs = .ok j := by
  obtain ⟨es, hes, hread⟩ := h .value [] [] (.inl rfl) (by simp) ends_nil
  have hend : Events.ofPlace ⟨.afterValue, []⟩ [] = ⟨[], none⟩ := by
    rw [Events.ofPlace]
    rfl
  have hbuilt : ofEvents es = j := by
    rw [ofEvents, hes]
    rfl
  rw [List.append_nil, hend] at hread
  rw [read, Events.ofChars, hread]
  simp [Events.prepend, hbuilt]

end Json

end StyleGuide
