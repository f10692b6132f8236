import StyleGuide.Decimal.Digits

namespace StyleGuide.Decimal

structure Binary where
  mantissa : Nat
  exponent : Int

def Binary.ofBits (bits : Nat) : Binary :=
  let e : Nat := bits / two 52 % two 11
  let f : Nat := bits % two 52
  if e = 0 then ⟨f, -1074⟩ else ⟨f + two 52, (e : Int) - 1075⟩

def Binary.ofFloat (x : Float) : Binary := .ofBits x.toBits.toNat

structure Scaled where
  coefficient : Nat
  exponent : Int

/-- Compares `a * 2 ^ i` with `b * 10 ^ j`. -/
def compareScaled (a : Nat) (i : Int) (b : Nat) (j : Int) : Ordering :=
  compare (a * two i.toNat * ten (-j).toNat) (b * ten j.toNat * two (-i).toNat)

namespace Binary

/-- The halfway points to the neighbours, in units of a quarter of the last bit. Below a power of
two the lower neighbour is half as far, except at the bottom of the range. -/
def lowest (b : Binary) : Nat :=
  if b.mantissa = two 52 ∧ b.exponent ≠ -1074 then 4 * b.mantissa - 1 else 4 * b.mantissa - 2

def highest (b : Binary) : Nat := 4 * b.mantissa + 2

/-- Whether a decimal rounds to the binary number. A halfway point rounds to the even mantissa. -/
def reads (b : Binary) (d : Scaled) : Bool :=
  let low := compareScaled b.lowest (b.exponent - 2) d.coefficient d.exponent
  let high := compareScaled b.highest (b.exponent - 2) d.coefficient d.exponent
  let even := b.mantissa % 2 == 0
  (low == .lt || (even && low == .eq)) && (high == .gt || (even && high == .eq))

/-- The part of the number above `10 ^ e`, as a whole number. -/
def floorDiv (b : Binary) (e : Int) : Nat :=
  (b.mantissa * two b.exponent.toNat * ten (-e).toNat) / (two (-b.exponent).toNat * ten e.toNat)

/-- The exponent of the first decimal digit. No binary number lies below `10 ^ -340`. -/
def order (b : Binary) : Int := (digits (b.floorDiv (-340))).length - 341

/-- Of the two multiples of `10 ^ e` around the number those that read back, the nearer one if both
do and the even one if both are as near. -/
def onGrid (b : Binary) (e : Int) : Option Scaled :=
  let n := b.floorDiv e
  let below : Scaled := ⟨n, e⟩
  let above : Scaled := ⟨n + 1, e⟩
  match b.reads below, b.reads above with
  | false, false => none
  | true, false => some below
  | false, true => some above
  | true, true => match compareScaled (2 * b.mantissa) b.exponent (2 * n + 1) e with
    | .lt => some below
    | .gt => some above
    | .eq => some (if n % 2 = 0 then below else above)

def search (b : Binary) : Nat → Int → Scaled
  | 0, e => ⟨b.floorDiv e, e⟩
  | n + 1, e => (b.onGrid e).getD (b.search n (e - 1))

/-- A decimal of fewest digits that reads back, and of those one nearest. Seventeen digits always
do. -/
def shortest (b : Binary) : Scaled := b.search 17 b.order

end Binary

def Scaled.significant (d : Scaled) : List Char × Int :=
  let ds := digits d.coefficient
  let kept := (ds.reverse.dropWhile (· == '0')).reverse
  (if kept.isEmpty then ['0'] else kept, d.exponent + ds.length - 1)

/-- How a number with a fraction is spelled: the exponents of the first digit that are written out,
what follows a whole number, and the sign of a positive exponent. -/
structure Layout where
  leastPositional : Int
  mostPositional : Int
  wholeMark : List Char
  plus : List Char

variable (l : Layout)

def zeros (n : Nat) : List Char := List.replicate n '0'

def Layout.positional (ds : List Char) (e : Int) : List Char :=
  if e < 0 then '0' :: '.' :: zeros (-e - 1).toNat ++ ds
  else
    let whole := e.toNat + 1
    if ds.length ≤ whole then ds ++ zeros (whole - ds.length) ++ l.wholeMark
    else ds.take whole ++ '.' :: ds.drop whole

def Layout.scientific (ds : List Char) (e : Int) : List Char :=
  let fraction := ds.drop 1
  ds.take 1 ++ (if fraction.isEmpty then [] else '.' :: fraction) ++
    'e' :: (if e < 0 then '-' :: digits e.natAbs else l.plus ++ digits e.natAbs)

def Layout.float (x : Float) : List Char :=
  let b := Binary.ofFloat x
  let sign := if x.toBits.toNat < two 63 then [] else ['-']
  if b.mantissa = 0 then sign ++ '0' :: l.wholeMark else
    let (ds, e) := b.shortest.significant
    sign ++
      if l.leastPositional ≤ e ∧ e ≤ l.mostPositional then l.positional ds e
      else l.scientific ds e

end StyleGuide.Decimal
