import StyleGuide.Decimal.Numeral
import StyleGuide.Json.Basic

namespace StyleGuide.Json

inductive Found where
  | scalar (s : Scalar)
  | sequence
  | map

def found : Json → Found
  | scalar s => .scalar s
  | array _ => .sequence
  | object _ => .map

def Found.describe : Found → String
  | .scalar .null => "null"
  | .scalar (.bool b) => s!"boolean `{b}`"
  | .scalar (.int i) => s!"integer `{String.ofList (Decimal.int i)}`"
  | .scalar (.float x) => s!"floating point `{String.ofList (numberLayout.float x)}`"
  | .scalar (.string s) => s!"string {Text.quoted s}"
  | .sequence => "sequence"
  | .map => "map"

inductive DecodeError where
  | missingField (name : String)
  | unknownField (name : String) (known : List String)
  | duplicateField (name : String)
  | invalidType (found : Found) (expected : String)
  | invalidValue (found : Found) (expected : String)
  | invalidLength (length : Nat) (expected : String)
  | unknownVariant (name : String) (known : List String)

def ticked (name : String) : String := s!"`{name}`"

def choice : List String → String
  | [] => "there are no others"
  | [a] => s!"expected {ticked a}"
  | [a, b] => s!"expected {ticked a} or {ticked b}"
  | names => "expected one of " ++ ", ".intercalate (names.map ticked)

def DecodeError.message : DecodeError → String
  | .missingField name => s!"missing field {ticked name}"
  | .unknownField name known => s!"unknown field {ticked name}, {choice known}"
  | .duplicateField name => s!"duplicate field {ticked name}"
  | .invalidType found expected => s!"invalid type: {found.describe}, expected {expected}"
  | .invalidValue found expected => s!"invalid value: {found.describe}, expected {expected}"
  | .invalidLength length expected =>
    s!"invalid length {String.ofList (Decimal.digits length)}, expected {expected}"
  | .unknownVariant name known => s!"unknown variant {ticked name}, {choice known}"

variable {α β : Type}

abbrev Decoder (α : Type) := Json → Except DecodeError α

def mismatch (expected : String) (j : Json) : Except DecodeError α :=
  .error (.invalidType j.found expected)

namespace Decoder

def json : Decoder Json := .ok

def string : Decoder String
  | .string s => .ok s
  | j => mismatch "a string" j

def bool : Decoder Bool
  | .bool b => .ok b
  | j => mismatch "a boolean" j

/-- Whole numbers are taken as numbers too. -/
def float : Decoder Float
  | .float x => .ok x
  | .int i => .ok (Decimal.ofInt i)
  | j => mismatch "f64" j

def option (d : Decoder α) : Decoder (Option α)
  | .null => .ok none
  | j => (d j).map some

def list (d : Decoder α) : Decoder (List α)
  | .array items => items.mapM d
  | j => mismatch "a sequence" j

def map (d : Decoder α) : Decoder (OrderedMap α)
  | .object members => (members.mapM fun m => (d m.2).map fun a => (m.1, a)).map OrderedMap.ofList
  | j => mismatch "a map" j

def named (known : List (String × α)) (name : String) : Except DecodeError α :=
  match known.lookup name with
  | some a => .ok a
  | none => .error (.unknownVariant name (known.map Prod.fst))

/-- One of a list of names. An object with the name as its only key says the same if `empty` accepts
the value under it. -/
def variant (known : List (String × α)) (empty : Json → Bool) : Decoder α
  | .string name => named known name
  | .object [(name, content)] => do
    let a ← named known name
    if empty content then return a else mismatch "unit" content
  | .object _ => .error (.invalidValue .map "map with a single key")
  | j => mismatch "string or map" j

def isNull : Json → Bool
  | .null => true
  | _ => false

def oneOf (known : List (String × α)) : Decoder α := variant known isNull

end Decoder

/-- A field of a record: how its value is read, and its value if it is left out. -/
structure Field (α : Type) where
  name : String
  decode : Decoder α
  absent : Option α

namespace Field

def required (name : String) (d : Decoder α) : Field α := ⟨name, d, none⟩

def withDefault (name : String) (d : Decoder α) (a : α) : Field α := ⟨name, d, some a⟩

/-- A field that is as good as left out when it is null. -/
def optional (name : String) (d : Decoder α) : Field (Option α) := ⟨name, d.option, some none⟩

end Field

/-- The members of a record, by name, and the fault that a member which must be there is not. -/
structure Record where
  members : List (String × Json)
  missing : String → DecodeError

def Record.get (r : Record) (f : Field α) : Except DecodeError α :=
  match r.members.lookup f.name with
  | some j => f.decode j
  | none => match f.absent with
    | some a => .ok a
    | none => .error (r.missing f.name)

structure AnyField where
  name : String
  fault : Json → Option DecodeError

def Field.any (f : Field α) : AnyField :=
  ⟨f.name, fun j => match f.decode j with
    | .ok _ => none
    | .error e => some e⟩

def firstFault (fields : List AnyField) (members : List (String × Json)) : Option DecodeError :=
  members.findSome? fun m => (fields.find? (·.name = m.1)).bind fun f => f.fault m.2

/-- A record written as an object. Members that are no fields are passed over; faults in members
come first, as they are written, and missing members after them. -/
def ofMembers (fields : List AnyField) (build : Record → Except DecodeError α)
    (members : List (String × Json)) : Except DecodeError α :=
  match firstFault fields members with
  | some e => .error e
  | none => build ⟨members, .missingField⟩

def elements (n : Nat) : String :=
  String.ofList (Decimal.digits n) ++ if n = 1 then " element" else " elements"

/-- A record written as an array, its fields in order. Trailing fields may be left out if they have
a default. -/
def ofItems (title : String) (fields : List AnyField) (build : Record → Except DecodeError α)
    (items : List Json) : Except DecodeError α := do
  let names := fields.map AnyField.name
  let a ← build ⟨names.zip items,
    fun name => .invalidLength (names.idxOf name) s!"struct {title} with {elements names.length}"⟩
  if names.length < items.length then
    throw (.invalidLength items.length "fewer elements in array")
  else return a

def record (title : String) (fields : List AnyField) (build : Record → Except DecodeError α) :
    Decoder α
  | object members => ofMembers fields build members
  | array items => ofItems title fields build items
  | j => mismatch s!"struct {title}" j

end StyleGuide.Json
