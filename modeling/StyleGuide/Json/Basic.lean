import StyleGuide.Decimal.Shortest
import StyleGuide.OrderedMap
import StyleGuide.Text.Quoted

namespace StyleGuide

/-- A JSON value without parts. Whole numbers are kept apart from numbers written with a point or an
exponent. -/
inductive Scalar where
  | null
  | bool (b : Bool)
  | int (i : Int)
  | float (x : Float)
  | string (s : String)

/-- A JSON value. The members of an object are in the order in which they are written. -/
inductive Json where
  | scalar (s : Scalar)
  | array (items : List Json)
  | object (members : List (String × Json))

namespace Json

@[match_pattern] abbrev null : Json := .scalar .null
@[match_pattern] abbrev bool (b : Bool) : Json := .scalar (.bool b)
@[match_pattern] abbrev int (i : Int) : Json := .scalar (.int i)
@[match_pattern] abbrev float (x : Float) : Json := .scalar (.float x)
@[match_pattern] abbrev string (s : String) : Json := .scalar (.string s)

def nat (n : Nat) : Json := int n

/-- A number as a value: JSON has no infinity and no NaN, and has null in their place. -/
def number (x : Float) : Json := if x.isFinite then float x else null

def strings (ss : List String) : Json := array (ss.map string)

def ofOption (f : α → Json) : Option α → Json
  | none => null
  | some a => f a

def member? (name : String) (f : α → Json) : Option α → List (String × Json)
  | none => []
  | some a => [(name, f a)]

def ofMap (f : α → Json) (m : OrderedMap α) : Json := object (m.map f).entries

def get? (j : Json) (name : String) : Option Json :=
  match j with
  | object members => members.lookup name
  | _ => none

def set (j : Json) (name : String) (value : Json) : Json :=
  match j with
  | object members => object (put name value members)
  | j => j

end Json

end StyleGuide

namespace StyleGuide.Json

open StyleGuide.Text (hexDigit)

/-- Numbers are written out from 0.00001 up to sixteen digits before the point, and a whole number
keeps its point. -/
def numberLayout : Decimal.Layout where
  leastPositional := -5
  mostPositional := 15
  wholeMark := ['.', '0']
  plus := ['+']

/-- Only quotation marks, backslashes and control characters are escaped. -/
def escape (c : Char) : List Char :=
  if c = '\x22' then ['\\', '\x22']
  else if c = '\\' then ['\\', '\\']
  else if c = '\x08' then ['\\', 'b']
  else if c = '\x0c' then ['\\', 'f']
  else if c = '\n' then ['\\', 'n']
  else if c = '\r' then ['\\', 'r']
  else if c = '\t' then ['\\', 't']
  else if c.toNat < 0x20 then
    ['\\', 'u', '0', '0', hexDigit (c.toNat / 16), hexDigit (c.toNat % 16)]
  else [c]

def stringChars (s : String) : List Char := '\x22' :: s.toList.flatMap escape ++ ['\x22']

def scalarChars : Scalar → List Char
  | .null => "null".toList
  | .bool true => "true".toList
  | .bool false => "false".toList
  | .int i => Decimal.int i
  | .float x => numberLayout.float x
  | .string s => stringChars s

mutual

def chars : Json → List Char
  | scalar s => scalarChars s
  | array [] => ['[', ']']
  | array (x :: xs) => '[' :: chars x ++ itemChars xs ++ [']']
  | object [] => ['{', '}']
  | object (m :: ms) => '{' :: memberChars m ++ membersChars ms ++ ['}']

def itemChars : List Json → List Char
  | [] => []
  | x :: xs => ',' :: chars x ++ itemChars xs

def memberChars : String × Json → List Char
  | (name, x) => stringChars name ++ ':' :: chars x

def membersChars : List (String × Json) → List Char
  | [] => []
  | m :: ms => ',' :: memberChars m ++ membersChars ms

end

def compact (j : Json) : String := String.ofList (chars j)

def margin (depth : Nat) : List Char := '\n' :: List.replicate (2 * depth) ' '

mutual

/-- The text of a value with each part on a line of its own, two blanks further in than the whole.
-/
def indentedChars (depth : Nat) : Json → List Char
  | scalar s => scalarChars s
  | array [] => ['[', ']']
  | array (x :: xs) =>
    '[' :: margin (depth + 1) ++ indentedChars (depth + 1) x ++ indentedItems (depth + 1) xs ++
      margin depth ++ [']']
  | object [] => ['{', '}']
  | object (m :: ms) =>
    '{' :: margin (depth + 1) ++ indentedMember (depth + 1) m ++ indentedMembers (depth + 1) ms ++
      margin depth ++ ['}']

def indentedItems (depth : Nat) : List Json → List Char
  | [] => []
  | x :: xs => ',' :: margin depth ++ indentedChars depth x ++ indentedItems depth xs

def indentedMember (depth : Nat) : String × Json → List Char
  | (name, x) => stringChars name ++ ':' :: ' ' :: indentedChars depth x

def indentedMembers (depth : Nat) : List (String × Json) → List Char
  | [] => []
  | m :: ms => ',' :: margin depth ++ indentedMember depth m ++ indentedMembers depth ms

end

def pretty (j : Json) : String := String.ofList (indentedChars 0 j)

end StyleGuide.Json
