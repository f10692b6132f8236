import StyleGuide.Decimal.Digits
import StyleGuide.Text.Search

namespace StyleGuide.Decimal

/-- The exponent of the last bit of the binary number nearest to `num / den`, which has 53 bits
unless it is too small for them. -/
def lastBit (num den : Nat) : Int :=
  let q : Int := (num.log2 : Int) - (den.log2 : Int) - 53
  let m := num * two (-q).toNat / (den * two q.toNat)
  max (if m < two 53 then q else q + 1) (-1074)

/-- Division to the nearest whole number; a half goes to the even one. -/
def divNearest (num den : Nat) : Nat :=
  let m := num / den
  let r := num % den
  if den < 2 * r ∨ (den = 2 * r ∧ m % 2 = 1) then m + 1 else m

def infinityBits : Nat := 0x7FF * two 52

/-- The bits of a mantissa over its last bit. A mantissa that is rounded up to the next power of two
carries into the exponent. -/
def pack (m : Nat) (q : Int) : Nat :=
  if m < two 52 then m else (q + 1075).toNat * two 52 + (m - two 52)

/-- The bits of the binary number nearest to `num / den`, or of infinity past the end of the range.
-/
def nearestBits (num den : Nat) : Nat :=
  if num = 0 then 0 else
    let q := lastBit num den
    min (pack (divNearest (num * two (-q).toNat) (den * two q.toNat)) q) infinityBits

def nearest (num den : Nat) : Float := Float.ofBits (nearestBits num den).toUInt64

def ofInt (i : Int) : Float :=
  if i < 0 then -nearest i.natAbs 1 else nearest i.natAbs 1

open Text (run char?)

/-- A finite number as it is written: the digits on either side of its point, and the power of ten
that scales it. -/
structure Numeral where
  whole : List Char
  fraction : List Char
  exponent : Int

def Numeral.value (n : Numeral) : Float :=
  nearest (ofDigits (n.whole ++ n.fraction) * ten n.exponent.toNat)
    (ten (n.fraction.length + (-n.exponent).toNat))

def signed : List Char → Bool × List Char
  | '-' :: cs => (true, cs)
  | '+' :: cs => (false, cs)
  | cs => (false, cs)

def exponent? : List Char → Option Int
  | [] => some 0
  | mark :: cs =>
    let (negative, ds) := signed cs
    if (mark = 'e' ∨ mark = 'E') ∧ ds ≠ [] ∧ ds.all isDigit then
      some (if negative then -(ofDigits ds : Int) else ofDigits ds)
    else none

def fraction (cs : List Char) : List Char × List Char :=
  match char? '.' cs with
  | none => ([], cs)
  | some rest => run isDigit rest

def numeral? (cs : List Char) : Option Numeral :=
  let (whole, rest) := run isDigit cs
  let (fraction, rest) := fraction rest
  if whole = [] ∧ fraction = [] then none else (exponent? rest).map fun e => ⟨whole, fraction, e⟩

def word? (cs : List Char) : Option Float :=
  let word := cs.map Char.toLower
  if word = "inf".toList ∨ word = "infinity".toList then some (1 / 0)
  else if word = "nan".toList then some (0 / 0)
  else none

def read? (cs : List Char) : Option Float :=
  let (negative, cs) := signed cs
  ((word? cs).or ((numeral? cs).map Numeral.value)).map fun x => if negative then -x else x

end StyleGuide.Decimal
