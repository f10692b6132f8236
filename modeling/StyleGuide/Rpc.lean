import StyleGuide.Json.Basic
import StyleGuide.Json.Event

namespace StyleGuide.Rpc

inductive Id where
  | number (n : Int)
  | string (s : String)
  deriving DecidableEq

def Id.toJson : Id → Json
  | number n => .int n
  | string s => .string s

def Id.text : Id → String
  | number n => .ofList (Decimal.int n)
  | string s => s

inductive Fault where
  | notAnObject
  | invalidRequest
  | notInitialised
  | alreadyInitialised
  | unknownMethod (method : String)
  | invalidParams (reason : String)
  | unknownResource (uri : String)
  | internal (reason : String)
  deriving DecidableEq

namespace Fault

def code : Fault → Int
  | notAnObject => -32700
  | invalidRequest | notInitialised | alreadyInitialised => -32600
  | unknownMethod _ => -32601
  | invalidParams _ => -32602
  | unknownResource _ => -32002
  | internal _ => -32603

def message : Fault → String
  | notAnObject => "Parse error"
  | invalidRequest => "Invalid Request"
  | notInitialised => "Server not initialised"
  | alreadyInitialised => "Server already initialised"
  | unknownMethod method => "Method not found: " ++ method
  | invalidParams reason => reason
  | unknownResource _ => "Resource not found"
  | internal reason => reason

def data? : Fault → Option Json
  | unknownResource uri => some (.object [("uri", .string uri)])
  | _ => none

def toJson (f : Fault) : Json :=
  .object <|
    [("code", .int f.code), ("message", .string f.message)] ++ Json.member? "data" id f.data?

end Fault

/-- What is sent back. A fault has no id if the id could not be told. -/
inductive Reply where
  | result (id : Id) (value : Json)
  | fault (id : Option Id) (fault : Fault)

namespace Reply

def id? : Reply → Option Id
  | result id _ => some id
  | fault id _ => id

def version : Json := .string "2.0"

def toJson : Reply → Json
  | result id value => .object [("jsonrpc", version), ("id", id.toJson), ("result", value)]
  | fault id f =>
    .object <| [("jsonrpc", version)] ++ Json.member? "id" Id.toJson id ++ [("error", f.toJson)]

end Reply

structure Request where
  id : Id
  method : String
  params : Option Json

structure Notification where
  method : String
  params : Option Json

inductive Message where
  | request (r : Request)
  | notification (n : Notification)

structure Refusal where
  id : Option Id
  fault : Fault

def Refusal.reply (r : Refusal) : Reply := .fault r.id r.fault

def greatestId : Int := Decimal.two 63 - 1

/-- An id is a string, or a whole number of 64 bits with sign. -/
def Id.ofJson? : Json → Option Id
  | .string s => some (string s)
  | .int n => if -greatestId - 1 ≤ n ∧ n ≤ greatestId then some (number n) else none
  | _ => none

namespace Message

def isCurrent (members : List (String × Json)) : Bool :=
  match members.lookup "jsonrpc" with
  | some (.string v) => v == "2.0"
  | _ => false

def method? (members : List (String × Json)) : Option String :=
  match members.lookup "method" with
  | some (.string m) => if m.isEmpty then none else some m
  | _ => none

/-- Parameters that are null are as good as none. -/
def params? (members : List (String × Json)) : Option Json :=
  match members.lookup "params" with
  | some .null => none
  | params => params

def ofMembers (members : List (String × Json)) : Except Refusal Message :=
  if !isCurrent members then .error ⟨none, .invalidRequest⟩
  else match members.lookup "id" with
    | none => match method? members with
      | some m => .ok (.notification ⟨m, params? members⟩)
      | none => .error ⟨none, .invalidRequest⟩
    | some id => match Id.ofJson? id with
      | none => .error ⟨none, .invalidRequest⟩
      | some id => match method? members with
        | some m => .ok (.request ⟨id, m, params? members⟩)
        | none => .error ⟨some id, .invalidRequest⟩

def ofLine (line : String) : Except Refusal Message :=
  match Json.readText line with
  | .ok (.object members) => ofMembers members
  | _ => .error ⟨none, .notAnObject⟩

end Message

end StyleGuide.Rpc
