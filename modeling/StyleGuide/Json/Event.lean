import StyleGuide.Json.Literal

namespace StyleGuide.Json

inductive Event where
  | scalar (s : Scalar)
  | key (name : String)
  | comma
  | openArray
  | closeArray
  | openObject
  | closeObject

/-- The events of a text up to its end or to the place where it stops being JSON. -/
structure Events where
  list : List Event
  fault : Option Fault

namespace Events

def prepend (es : List Event) (rest : Events) : Events := ⟨es ++ rest.list, rest.fault⟩

inductive Container where
  | array
  | object

inductive Expected where
  | value
  | firstItem
  | firstKey
  | key
  | colon
  | afterValue

structure Place where
  expected : Expected
  inside : List Container

inductive Step where
  | finished
  | failed (f : Fault)
  | moved (events : List Event) (place : Place) (rest : List Char)

/-- Containers in containers go down to this depth. -/
def deepest : Nat := 127

def isSpace (c : Char) : Bool := c == ' ' || c == '\n' || c == '\t' || c == '\r'

def skipSpace (cs : List Char) : List Char := cs.dropWhile isSpace

def word? : List Char → List Char → Except Fault (List Char)
  | [], cs => .ok cs
  | _ :: _, [] => .error .truncated
  | w :: ws, c :: cs => if w = c then word? ws cs else .error .malformed

def number? (negative : Bool) (cs : List Char) : Except Fault (Scalar × List Char) := do
  let (n, rest) ← Numeral.read negative cs
  match n.value? with
  | some s => return (s, rest)
  | none => throw .malformed

def scalar? (c : Char) (r : List Char) : Except Fault (Scalar × List Char) :=
  if c = 'n' then (word? "ull".toList r).map fun rest => (.null, rest)
  else if c = 't' then (word? "rue".toList r).map fun rest => (.bool true, rest)
  else if c = 'f' then (word? "alse".toList r).map fun rest => (.bool false, rest)
  else if c = '-' then number? true r
  else if Decimal.isDigit c then number? false (c :: r)
  else if c = '\x22' then (string? r).map fun (s, rest) => (.string s, rest)
  else .error .malformed

def enter (container : Container) (inside : List Container) (r : List Char) : Step :=
  if deepest ≤ inside.length then .failed .malformed else
    match container with
    | .array => .moved [.openArray] ⟨.firstItem, .array :: inside⟩ r
    | .object => .moved [.openObject] ⟨.firstKey, .object :: inside⟩ r

def value (inside : List Container) (c : Char) (r : List Char) : Step :=
  if c = '[' then enter .array inside r
  else if c = '{' then enter .object inside r
  else match scalar? c r with
    | .ok (s, rest) => .moved [.scalar s] ⟨.afterValue, inside⟩ rest
    | .error f => .failed f

def memberName (inside : List Container) (c : Char) (r : List Char) : Step :=
  if c = '\x22' then
    match string? r with
    | .ok (name, rest) => .moved [.key name] ⟨.colon, inside⟩ rest
    | .error f => .failed f
  else .failed .malformed

def stepAt : Expected → List Container → Char → List Char → Step
  | .value, inside, c, r => value inside c r
  | .firstItem, inside, c, r =>
    if c = ']' then .moved [.closeArray] ⟨.afterValue, inside.tail⟩ r else value inside c r
  | .firstKey, inside, c, r =>
    if c = '}' then .moved [.closeObject] ⟨.afterValue, inside.tail⟩ r else memberName inside c r
  | .key, inside, c, r => memberName inside c r
  | .colon, inside, c, r => if c = ':' then .moved [] ⟨.value, inside⟩ r else .failed .malformed
  | .afterValue, [], _, _ => .failed .malformed
  | .afterValue, .array :: outer, c, r =>
    if c = ']' then .moved [.closeArray] ⟨.afterValue, outer⟩ r
    else if c = ',' then .moved [.comma] ⟨.value, .array :: outer⟩ r
    else .failed .malformed
  | .afterValue, .object :: outer, c, r =>
    if c = '}' then .moved [.closeObject] ⟨.afterValue, outer⟩ r
    else if c = ',' then .moved [.comma] ⟨.key, .object :: outer⟩ r
    else .failed .malformed

def step (p : Place) (cs : List Char) : Step :=
  match skipSpace cs with
  | [] => match p.expected, p.inside with
    | .afterValue, [] => .finished
    | _, _ => .failed .truncated
  | c :: r => stepAt p.expected p.inside c r

def ofPlace (p : Place) (cs : List Char) : Events :=
  match step p cs with
  | .finished => ⟨[], none⟩
  | .failed f => ⟨[], some f⟩
  | .moved es p rest =>
    if rest.length < cs.length then (ofPlace p rest).prepend es else ⟨es, some .malformed⟩
termination_by cs.length

def ofChars (cs : List Char) : Events := ofPlace ⟨.value, []⟩ cs

end Events

/-- A container that is being read: its parts so far and, in an object, the name whose value comes.
-/
inductive Frame where
  | array (items : List Json)
  | object (members : List (String × Json)) (name : String)

structure Builder where
  frames : List Frame
  result : Json

namespace Builder

def start : Builder := ⟨[], null⟩

/-- Puts a finished value where it belongs. A name that is given again keeps its place and takes the
new value. -/
def place (v : Json) : List Frame → Builder
  | [] => ⟨[], v⟩
  | .array items :: fs => ⟨.array (items ++ [v]) :: fs, null⟩
  | .object members name :: fs => ⟨.object (put name v members) name :: fs, null⟩

def add (b : Builder) : Event → Builder
  | .scalar s => place (scalar s) b.frames
  | .comma => b
  | .openArray => { b with frames := .array [] :: b.frames }
  | .openObject => { b with frames := .object [] "" :: b.frames }
  | .key name => match b.frames with
    | .object members _ :: fs => { b with frames := .object members name :: fs }
    | _ => b
  | .closeArray | .closeObject => match b.frames with
    | .array items :: fs => place (array items) fs
    | .object members _ :: fs => place (object members) fs
    | [] => b

end Builder

def ofEvents (es : List Event) : Json := (es.foldl Builder.add .start).result

def read (cs : List Char) : Except Fault Json :=
  match Events.ofChars cs with
  | ⟨es, none⟩ => .ok (ofEvents es)
  | ⟨_, some f⟩ => .error f

def readText (text : String) : Except Fault Json := read text.toList

end StyleGuide.Json
