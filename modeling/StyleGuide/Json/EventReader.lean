import StyleGuide.Json.Decode
import StyleGuide.Json.Event

namespace StyleGuide.Json

/-- What can be wrong with a text that is to describe a value: the text, or what it describes.
Whichever shows first from left to right is the one that is told. -/
inductive TextError where
  | fault (f : Fault)
  | decode (e : DecodeError)

abbrev EventReader (α : Type) := StateT Events (Except TextError) α

namespace EventReader

variable {σ : Type}

def peek : EventReader Event := do
  match ← get with
  | ⟨e :: _, _⟩ => return e
  | ⟨[], some f⟩ => throw (.fault f)
  | ⟨[], none⟩ => throw (.fault .truncated)

def skip : EventReader Unit := modify fun es => { es with list := es.list.tail }

def next : EventReader Event := do
  let e ← peek
  skip
  return e

def mismatch (e : Event) (expected : String) : TextError :=
  match e with
  | .scalar s => .decode (.invalidType (.scalar s) expected)
  | .openArray => .decode (.invalidType .sequence expected)
  | .openObject => .decode (.invalidType .map expected)
  | _ => .fault .malformed

def string (expected : String) : EventReader String := do
  match ← next with
  | .scalar (.string s) => return s
  | e => throw (mismatch e expected)

def optionalString (expected : String) : EventReader (Option String) := do
  match ← peek with
  | .scalar .null => skip; return none
  | _ => return some (← string expected)

/-- A record that is filled field by field: the names in order, and how the value of one is taken
in. -/
structure Shape (σ : Type) where
  title : String
  names : List String
  assign : String → σ → EventReader σ

def skipComma : EventReader Unit := do
  match ← peek with
  | .comma => skip
  | _ => return

/-- The members of an object. No name is taken twice, so there are no more than there are names. -/
def members (shape : Shape σ) : Nat → List String → σ → EventReader σ
  | 0, _, _ => throw (.fault .malformed)
  | n + 1, seen, s => do
    skipComma
    match ← next with
    | .key name =>
      if !shape.names.contains name then throw (.decode (.unknownField name shape.names))
      else if seen.contains name then throw (.decode (.duplicateField name))
      else members shape n (name :: seen) (← shape.assign name s)
    | .closeObject => return s
    | _ => throw (.fault .malformed)

/-- The items of an array, one for each name; the last ones may be missing, but there must be no
more. -/
def items (shape : Shape σ) : List String → σ → EventReader σ
  | [], s => do
    match ← next with
    | .closeArray => return s
    | _ => throw (.fault .malformed)
  | name :: names, s => do
    skipComma
    match ← peek with
    | .closeArray => skip; return s
    | _ => items shape names (← shape.assign name s)

def record (shape : Shape σ) (absent : σ) : EventReader σ := do
  match ← next with
  | .openObject => members shape (shape.names.length + 1) [] absent
  | .openArray => items shape shape.names absent
  | e => throw (mismatch e s!"struct {shape.title}")

def ofChars (r : EventReader α) (cs : List Char) : Except TextError α :=
  match r.run (Events.ofChars cs) with
  | .ok (a, ⟨_, none⟩) => .ok a
  | .ok (_, ⟨_, some f⟩) => .error (.fault f)
  | .error e => .error e

end EventReader

end StyleGuide.Json
