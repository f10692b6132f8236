import StyleGuide.Resource
import StyleGuide.Rpc
import StyleGuide.Tool.Call

namespace StyleGuide

/-- Where a session stands: a client introduces itself, says that it is ready, and is served until
its input ends. -/
inductive Phase where
  | awaitingInit
  | initialising
  | running
  | shuttingDown
  deriving DecidableEq

/-- One session over a library. The protocol's version is settled with the introduction. -/
structure Server where
  library : Library
  phase : Phase
  version : Option String

structure World where
  files : Files
  now : String

namespace Server

open Rpc

def protocolVersion : String := "2024-11-05"

def programName : String := "design-system-mcp"

def programVersion : String := "0.1.0"

def new (library : Library) : Server := ⟨library, .awaitingInit, none⟩

structure Client where
  name : String
  version : Option String

structure Introduction where
  protocolVersion : String
  capabilities : Json
  client : Option Client

def Client.decoder : Json.Decoder Client :=
  let name := Json.Field.required "name" Json.Decoder.string
  let version := Json.Field.optional "version" Json.Decoder.string
  Json.record "ClientInfo" [name.any, version.any] fun r => do
    return ⟨← r.get name, ← r.get version⟩

def Introduction.decoder : Json.Decoder Introduction :=
  let version := Json.Field.required "protocolVersion" Json.Decoder.string
  let capabilities := Json.Field.withDefault "capabilities" Json.Decoder.json .null
  let client := Json.Field.optional "clientInfo" Client.decoder
  Json.record "InitializeParams" [version.any, capabilities.any, client.any] fun r => do
    return ⟨← r.get version, ← r.get capabilities, ← r.get client⟩

structure ToolParams where
  name : String
  arguments : Json

def ToolParams.decoder : Json.Decoder ToolParams :=
  let name := Json.Field.required "name" Json.Decoder.string
  let arguments := Json.Field.withDefault "arguments" Json.Decoder.json .null
  Json.record "ToolCallParams" [name.any, arguments.any] fun r => do
    return ⟨← r.get name, ← r.get arguments⟩

def uriDecoder : Json.Decoder String :=
  let uri := Json.Field.required "uri" Json.Decoder.string
  Json.record "ReadResourceParams" [uri.any] (·.get uri)

def params (d : Json.Decoder α) (what : String) : Option Json → Except Fault α
  | none => .error (.invalidParams s!"Missing {what} params")
  | some j => (d j).mapError fun e => .invalidParams s!"Invalid {what} params: {e.message}"

def welcome : Json :=
  .object
    [("protocolVersion", .string protocolVersion),
     ("capabilities", .object [("tools", .object []), ("resources", .object [])]),
     ("serverInfo", .object
       [("name", .string programName), ("version", .string programVersion)])]

variable (s : Server) (w : World)

def introduce (p : Option Json) : Except Fault Introduction :=
  if s.phase = .awaitingInit then params Introduction.decoder "initialize" p
  else .error .alreadyInitialised

def whileRunning (r : Except Fault Json) : Except Fault Json :=
  if s.phase = .running then r else .error .notInitialised

def toolList : Json := .object [("tools", .array (Tool.all.map Tool.definition))]

/-- An unknown tool is a fault of the request, but arguments that do not fit are an answer of the
tool. -/
def callTool (p : Option Json) : Except Fault Json := do
  let p ← params ToolParams.decoder "tool call" p
  match Tool.call p.name p.arguments with
  | .ok call => return (s.library.answer w.files w.now call).toJson
  | .error (.unknownTool name) => throw (.invalidParams (Tool.Refusal.unknownTool name).message)
  | .error refusal => return (Tool.Answer.mk refusal.message true).toJson

def resourceList : Json :=
  .object [("resources", .array (Resource.all.map (·.definition s.library.name)))]

def readResource (p : Option Json) : Except Fault Json := do
  let uri ← params uriDecoder "resource read" p
  match Resource.ofUri? uri s.library.name with
  | none => throw (.unknownResource uri)
  | some resource =>
    let body ← (s.library.body w.files w.now resource).mapError fun f => .internal f.detailed
    return .object [("contents", .array [Resource.contents uri body])]

def respond (method : String) (p : Option Json) : Except Fault Json :=
  match method with
  | "ping" => .ok (.object [])
  | "tools/list" => s.whileRunning (.ok toolList)
  | "tools/call" => s.whileRunning (s.callTool w p)
  | "resources/list" => s.whileRunning (.ok s.resourceList)
  | "resources/read" => s.whileRunning (s.readResource w p)
  | _ => .error (.unknownMethod method)

def replyTo (id : Id) : Except Fault Json → Reply
  | .ok value => .result id value
  | .error f => .fault (some id) f

def request (r : Request) : Server × Reply :=
  if r.method = "initialize" then
    match s.introduce r.params with
    | .ok _ =>
      ({ s with phase := .initialising, version := some protocolVersion }, .result r.id welcome)
    | .error f => (s, .fault (some r.id) f)
  else (s, replyTo r.id (s.respond w r.method r.params))

def notify (n : Notification) : Server :=
  if n.method = "notifications/initialized" ∧ s.phase = .initialising then
    { s with phase := .running }
  else s

def process : Message → Server × Option Reply
  | .request r => ((s.request w r).1, some (s.request w r).2)
  | .notification n => (s.notify n, none)

def processLine (line : String) : Server × Option Reply :=
  match Message.ofLine line with
  | .ok m => s.process w m
  | .error refusal => (s, some refusal.reply)

end Server

end StyleGuide
