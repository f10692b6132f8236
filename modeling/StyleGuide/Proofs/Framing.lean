import Mathlib.Data.List.Forall2
import StyleGuide.Proofs.ByteOrder
import StyleGuide.Proofs.Envelope
import StyleGuide.Proofs.Wire

namespace StyleGuide

namespace Rpc

open Decimal (two)

/-- A reply as it is sent: any result, or an error by its code, its message and what is known of it.
-/
inductive Sent where
  | result (id : Id) (value : Json)
  | error (id : Option Id) (code : Int) (message : String) (data : Option Json)

namespace Sent

def errorJson (code : Int) (message : String) (data : Option Json) : Json :=
  .object <| [("code", .int code), ("message", .string message)] ++ Json.member? "data" (·) data

def toJson : Sent → Json
  | result id value => .object [("jsonrpc", Reply.version), ("id", id.toJson), ("result", value)]
  | error id code message data =>
    .object <| [("jsonrpc", Reply.version)] ++ Json.member? "id" Id.toJson id ++
      [("error", errorJson code message data)]

/-- What can be read back: ids and codes of their size, and containers that leave room for the reply
around them. -/
def Plain : Sent → Prop
  | result id value => id.Fits ∧ Json.Plain (Json.Events.deepest - 1) value
  | error id code _ data => (∀ i, id = some i → i.Fits) ∧ (-(two 31 : Int) ≤ code ∧ code < two 31) ∧
      ∀ j, data = some j → Json.Plain (Json.Events.deepest - 2) j

end Sent

namespace Sent

end Sent

end Rpc

namespace Wire

open Rpc (Sent)

def line (m : Sent) : String := m.toJson.compact ++ "\n"

def output (sent : List Sent) : List UInt8 := bytes (String.join (sent.map line))

end Wire

end StyleGuide
