import StyleGuide.Decimal.Numeral
import StyleGuide.Json.Basic

namespace StyleGuide.Json

/-- Why a text is not JSON: it ends too early, or it goes on in a way that it cannot. -/
inductive Fault where
  | truncated
  | malformed
  deriving DecidableEq

abbrev Lexed (α : Type) := Except Fault (α × List Char)

def hexValue? (c : Char) : Option Nat :=
  if '0' ≤ c ∧ c ≤ '9' then some (c.toNat - 48)
  else if 'a' ≤ c ∧ c ≤ 'f' then some (c.toNat - 87)
  else if 'A' ≤ c ∧ c ≤ 'F' then some (c.toNat - 55)
  else none

/-- Four hexadecimal digits. A text with less than four bytes left is truncated whatever they are.
-/
def hex4? : List Char → Except Fault (Nat × List Char)
  | a :: b :: c :: d :: rest =>
    match hexValue? a, hexValue? b, hexValue? c, hexValue? d with
    | some a, some b, some c, some d => .ok (((a * 16 + b) * 16 + c) * 16 + d, rest)
    | _, _, _, _ => .error .malformed
  | cs => .error (if (String.ofList cs).utf8ByteSize < 4 then .truncated else .malformed)

def isLeadSurrogate (n : Nat) : Bool := 0xD800 ≤ n && n ≤ 0xDBFF

def isTrailSurrogate (n : Nat) : Bool := 0xDC00 ≤ n && n ≤ 0xDFFF

/-- The second half of a pair, which must follow as an escape of its own. -/
def trail? (lead : Nat) : List Char → Except Fault (Char × List Char)
  | '\\' :: 'u' :: r => do
    let (n, rest) ← hex4? r
    if isTrailSurrogate n then
      return (Char.ofNat (0x10000 + (lead - 0xD800) * 0x400 + (n - 0xDC00)), rest)
    else throw .malformed
  | [] | ['\\'] => .error .truncated
  | _ => .error .malformed

def codeUnit? (cs : List Char) : Except Fault (Char × List Char) := do
  let (n, rest) ← hex4? cs
  if isTrailSurrogate n then throw .malformed
  else if isLeadSurrogate n then trail? n rest
  else return (Char.ofNat n, rest)

def escaped? : List Char → Except Fault (Char × List Char)
  | [] => .error .truncated
  | c :: r =>
    if c = 'u' then codeUnit? r
    else if c = '\x22' ∨ c = '\\' ∨ c = '/' then .ok (c, r)
    else if c = 'b' then .ok ('\x08', r)
    else if c = 'f' then .ok ('\x0c', r)
    else if c = 'n' then .ok ('\n', r)
    else if c = 'r' then .ok ('\r', r)
    else if c = 't' then .ok ('\t', r)
    else .error .malformed

def stringBody? (cs : List Char) : Except Fault (List Char × List Char) :=
  match cs with
  | [] => .error .truncated
  | c :: r =>
    if c = '\x22' then .ok ([], r)
    else if c = '\\' then
      match escaped? r with
      | .error f => .error f
      | .ok (d, rest) =>
        if rest.length ≤ r.length then (stringBody? rest).map fun p => (d :: p.1, p.2)
        else .error .malformed
    else if c.toNat < 0x20 then .error .malformed
    else (stringBody? r).map fun p => (c :: p.1, p.2)
termination_by cs.length
decreasing_by all_goals simp_wf <;> omega

def string? (cs : List Char) : Except Fault (String × List Char) :=
  (stringBody? cs).map fun p => (String.ofList p.1, p.2)

open StyleGuide.Decimal (isDigit digitValue ofDigits nearest two ten)

structure Numeral where
  negative : Bool
  whole : List Char
  fraction : Option (List Char)
  exponent : Option (Bool × List Char)

namespace Numeral

def digits? (cs : List Char) : Lexed (List Char) :=
  match cs.takeWhile isDigit with
  | [] => .error (if cs.isEmpty then .truncated else .malformed)
  | ds => .ok (ds, cs.dropWhile isDigit)

/-- The digits before the point. A zero stands alone. -/
def whole? (cs : List Char) : Lexed (List Char) :=
  match digits? cs with
  | .ok ('0' :: _ :: _, _) => .error .malformed
  | lexed => lexed

def fraction? : List Char → Lexed (Option (List Char))
  | '.' :: cs => (digits? cs).map fun (ds, rest) => (some ds, rest)
  | cs => .ok (none, cs)

def signedDigits? : List Char → Lexed (Bool × List Char)
  | '-' :: cs => (digits? cs).map fun (ds, rest) => ((true, ds), rest)
  | '+' :: cs => (digits? cs).map fun (ds, rest) => ((false, ds), rest)
  | cs => (digits? cs).map fun (ds, rest) => ((false, ds), rest)

def exponent? : List Char → Lexed (Option (Bool × List Char))
  | c :: cs =>
    if c = 'e' ∨ c = 'E' then (signedDigits? cs).map fun (e, rest) => (some e, rest)
    else .ok (none, c :: cs)
  | [] => .ok (none, [])

def read (negative : Bool) (cs : List Char) : Except Fault (Numeral × List Char) := do
  let (whole, cs) ← whole? cs
  let (fraction, cs) ← fraction? cs
  let (exponent, cs) ← exponent? cs
  return (⟨negative, whole, fraction, exponent⟩, cs)

/-- The greatest significand; digits that would pass it are dropped. -/
def most : Nat := two 64 - 1

/-- The significand of a row of digits on top of `n`, and how many of them did not fit. -/
def accumulate (n : Nat) : List Char → Nat × Nat
  | [] => (n, 0)
  | c :: cs => if most < 10 * n + digitValue c then (n, cs.length + 1) else
      accumulate (10 * n + digitValue c) cs

/-- Scales by a power of ten in steps that a binary number can hold. Each step rounds, so the result
need not be the number nearest to the one written. Three steps down bring any significand to zero.
-/
def scale : Nat → Float → Int → Option Float
  | 0, _, _ => none
  | fuel + 1, x, e =>
    if e.natAbs ≤ 308 then
      if 0 ≤ e then
        let y := x * nearest (ten e.toNat) 1
        if y.isInf then none else some y
      else some (x / nearest (ten e.natAbs) 1)
    else if x == 0 then some x
    else if 0 ≤ e then none
    else scale fuel (x / nearest (ten 308) 1) (e + 308)

def farthest : Nat := two 31 - 1

def float? (n : Numeral) : Option Float := do
  let (significand, dropped) := accumulate 0 n.whole
  let (significand, ignored, places) :=
    match n.fraction with
    | none => (significand, 0, 0)
    | some ds =>
      let (s, ignored) := accumulate significand ds
      (s, ignored, ds.length)
  let start : Int := (dropped : Int) - ((places : Int) - (ignored : Int))
  let sign (x : Float) : Float := if n.negative then -x else x
  match n.exponent with
  | none => (scale 4 (nearest significand 1) start).map sign
  | some (negative, ds) =>
    let e := ofDigits ds
    if farthest < e then
      if significand ≠ 0 ∧ negative = false then none else some (sign 0)
    else
      (scale 4 (nearest significand 1)
        (if negative then start - e else start + e)).map sign

/-- A numeral without point and exponent that fits 64 bits is a whole number; minus zero is not. -/
def value? (n : Numeral) : Option Scalar :=
  let i := ofDigits n.whole
  if n.fraction.isNone && n.exponent.isNone && !n.negative && i ≤ most then some (.int i)
  else if n.fraction.isNone && n.exponent.isNone && n.negative && 0 < i && i ≤ two 63 then
    some (.int (-i))
  else n.float?.map .float

end Numeral

end StyleGuide.Json
