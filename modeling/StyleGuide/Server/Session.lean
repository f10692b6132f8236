import StyleGuide.Config
import StyleGuide.Rpc
import StyleGuide.Server.Basic
import StyleGuide.Text.Class

namespace StyleGuide

structure Note where
  level : Level
  text : String

namespace Server

open Rpc

variable (s : Server) (w : World)

/-- A failure of the library; that a component is not there is nothing unusual. -/
def failureNote (doing : String) (f : Library.Failure) : Note :=
  ⟨if f.isNotFound then .debug else .warn, s!"{doing}: {f.message}"⟩

def skippedNotes (names : List String) : List Note :=
  names.filterMap fun name => match s.library.info w.files name with
    | .ok _ => none
    | .error f => some ⟨.warn, s!"Skipping unreadable component {name}: {f.message}"⟩

def tokenNotes : List Note :=
  match s.library.tokens w.files w.now none with
  | .ok _ => [⟨.debug, "Parsed design tokens"⟩]
  | .error _ => []

def searchNotes (args : Tool.Search) : List Note :=
  match s.library.components w.files with
  | .ok names =>
    s.skippedNotes w (names.filter (Library.isSought (args.query.getD "") args.category))
  | .error f => [failureNote "Failed to search components" f]

def callNotes : Tool.Call → List Note
  | .search args => s.searchNotes w args
  | .code args => match s.library.codeWithInfo w.files args with
    | .ok _ => []
    | .error f => [failureNote "Failed to get component code" f]
  | .tokens args => match s.library.tokens w.files w.now args.category with
    | .ok _ => s.tokenNotes w
    | .error f => [failureNote "Failed to get design tokens" f]
  | .theme o => match s.library.tryTheme w.files w.now o with
    | .ok _ => (if o.tailwind then s.tokenNotes w else []) ++ [⟨.info, "Generated theme setup"⟩]
    | .error f => [⟨.warn, s!"Theme setup generation failed: {f.message}"⟩]
  | .integrate r => match s.library.tryComponents w.files r with
    | .ok _ => [⟨.info, "Integrated components"⟩]
    | .error f => [⟨.warn, s!"Component integration failed: {f.message}"⟩]

def toolNotes (p : Option Json) : List Note :=
  match params ToolParams.decoder "tool call" p with
  | .error _ => []
  | .ok p => match Tool.call p.name p.arguments with
    | .ok call => ⟨.debug, s!"Calling tool {call.tool.name}"⟩ :: s.callNotes w call
    | .error (.unknownTool _) => []
    | .error refusal => [⟨.debug, s!"Rejected tool arguments: {refusal.message}"⟩]

def bodyNotes : Resource → List Note
  | .componentCatalog => match s.library.components w.files with
    | .ok names => s.skippedNotes w names
    | .error _ => []
  | .colorTokens => s.tokenNotes w ++ s.tokenNotes w
  | .tailwindConfig => []

def resourceNotes (p : Option Json) : List Note :=
  match params uriDecoder "resource read" p with
  | .error _ => []
  | .ok uri => match Resource.ofUri? uri s.library.name with
    | none => []
    | some resource => s.bodyNotes w resource ++
      match s.library.body w.files w.now resource with
      | .ok _ => []
      | .error f => [⟨.warn, s!"Resource read failed for {uri}: {f.message}"⟩]

def introductionNotes (p : Option Json) : List Note :=
  match s.introduce p with
  | .ok ⟨_, _, some client⟩ => [⟨.info, s!"Initialising for {client.name}"⟩]
  | _ => []

def requestNotes (r : Request) : List Note :=
  ⟨.debug, s!"Handling request {r.id.text}: {r.method}"⟩ ::
    if r.method = "initialize" then s.introductionNotes r.params
    else if s.phase = .running ∧ r.method = "tools/call" then s.toolNotes w r.params
    else if s.phase = .running ∧ r.method = "resources/read" then s.resourceNotes w r.params
    else []

def lineNotes (line : String) : List Note :=
  match Message.ofLine line with
  | .ok (.request r) => s.requestNotes w r
  | .ok (.notification n) =>
    if (s.notify n).phase = s.phase then [] else [⟨.info, "Client initialised"⟩]
  | .error _ => [⟨.debug, "Rejected malformed message"⟩]

end Server

end StyleGuide

namespace StyleGuide.Wire

/-- The pieces of a text of bytes between line feeds. There is none after the last line feed. -/
def pieces : List UInt8 → List (List UInt8)
  | [] => []
  | b :: bs => if b = 10 then [] :: pieces bs else
    match pieces bs with
    | [] => [[b]]
    | p :: ps => (b :: p) :: ps

def isLineEnd (c : Char) : Bool := c == '\n' || c == '\r'

/-- The text of a piece without the line ends after it, if it is text at all. -/
def line? (piece : List UInt8) : Option String :=
  (String.fromUTF8? ⟨piece.toArray⟩).map fun s =>
    .ofList (s.toList.reverse.dropWhile isLineEnd).reverse

/-- The lines of an input, and `none` for a line that is not text. -/
def lines (input : List UInt8) : List (Option String) := (pieces input).map line?

def isBlankLine (line : String) : Bool := Text.isAllBlank line.toList

def send (r : Rpc.Reply) : String := r.toJson.compact ++ "\n"

end StyleGuide.Wire

namespace StyleGuide.Server

open Rpc

/-- How a session went: the replies in order, the server at the end, and whether the input ended. It
does not end if a line is not text. -/
structure Session where
  replies : List Reply
  server : Server
  ended : Bool

/-- Serves the lines of an input, the world being as `world` says at each of them. Blank lines are
passed over. -/
def serve (world : Nat → World) (s : Server) : List (Option String) → Session
  | [] => ⟨[], { s with phase := .shuttingDown }, true⟩
  | none :: _ => ⟨[], s, false⟩
  | some line :: rest =>
    let next := fun n => world (n + 1)
    if Wire.isBlankLine line then serve next s rest
    else
      let (s, reply) := s.processLine (world 0) line
      let session := serve next s rest
      { session with replies := reply.toList ++ session.replies }

def notes (w : World) (s : Server) : List (Option String) → List Note
  | [] => [⟨.info, "stdin closed"⟩, ⟨.info, "Server shut down gracefully"⟩]
  | none :: _ => [⟨.error, "Server error: stream did not contain valid UTF-8"⟩]
  | some line :: rest =>
    if Wire.isBlankLine line then notes w s rest
    else s.lineNotes w line ++ notes w (s.processLine w line).1 rest

end StyleGuide.Server
