import StyleGuide.Config
import StyleGuide.Server.Session
import StyleGuide.Text.Search

namespace StyleGuide.CommandLine

structure Arguments where
  config : Option String
  library : Option String
  verbose : Nat
  quiet : Bool

inductive Request where
  | serve (args : Arguments)
  | help
  | version

inductive Misuse where
  | unknown (argument : String)
  | repeated (option : String)
  | missingValue (option : String)
  | unneededValue (option : String)
  deriving DecidableEq

def Misuse.message : Misuse → String
  | unknown argument => s!"unexpected argument '{argument}' found"
  | repeated option => s!"the argument '{option}' cannot be used multiple times"
  | missingValue option => s!"a value is required for '{option}' but none was supplied"
  | unneededValue option => s!"unexpected value for '{option}' found; no more were expected"

/-- What one argument says, before the last word on what is asked for. -/
inductive Outcome where
  | go (args : Arguments)
  | stop (request : Request)

namespace Arguments

def start : Arguments := ⟨none, none, 0, false⟩

def setConfig (a : Arguments) (value : String) : Except Misuse Arguments :=
  if a.config.isSome then .error (.unknown value)
  else if value.isEmpty then .error (.missingValue "[CONFIG_FILE]")
  else .ok { a with config := some value }

def setLibrary (a : Arguments) (value : String) : Except Misuse Arguments :=
  if a.library.isSome then .error (.repeated "--design-system <DIR>")
  else if value.isEmpty then .error (.missingValue "--design-system <DIR>")
  else .ok { a with library := some value }

def setQuiet (a : Arguments) : Except Misuse Arguments :=
  if a.quiet then .error (.repeated "--quiet") else .ok { a with quiet := true }

def letters (a : Arguments) : List Char → Except Misuse Outcome
  | [] => .ok (.go a)
  | c :: cs =>
    if c = 'v' then letters { a with verbose := a.verbose + 1 } cs
    else if c = 'q' then
      match a.setQuiet with
      | .ok a => letters a cs
      | .error e => .error e
    else if c = 'h' then .ok (.stop .help)
    else if c = 'V' then .ok (.stop .version)
    else .error (.unknown (.ofList ['-', c]))

def word (a : Arguments) (name : String) (value : Option String) : Except Misuse Outcome :=
  let flag (r : Except Misuse Outcome) := if value.isSome then .error (.unneededValue name) else r
  match name with
  | "verbose" => flag (.ok (.go { a with verbose := a.verbose + 1 }))
  | "quiet" => flag (a.setQuiet.map .go)
  | "help" => flag (.ok (.stop .help))
  | "version" => flag (.ok (.stop .version))
  | _ => .error (.unknown ("--" ++ name))

end Arguments

def splitValue (cs : List Char) : String × Option String :=
  match Text.char? '=' (cs.dropWhile (· != '=')) with
  | some value => (.ofList (cs.takeWhile (· != '=')), some (.ofList value))
  | none => (.ofList cs, none)

def isOption (s : String) : Bool :=
  match s.toList with
  | '-' :: _ :: _ => true
  | _ => false

def readPlain (a : Arguments) : List String → Except Misuse Request
  | [] => .ok (.serve a)
  | s :: ss => match a.setConfig s with
    | .ok a => readPlain a ss
    | .error e => .error e

/-- Reads arguments in order. Help and version end the reading; two dashes end the options. -/
def readFrom (a : Arguments) : List String → Except Misuse Request
  | [] => .ok (.serve a)
  | s :: ss =>
    match s.toList with
    | ['-', '-'] => readPlain a ss
    | '-' :: '-' :: cs =>
      let (name, value) := splitValue cs
      if name = "design-system" then
        match value, ss with
        | some value, ss => match a.setLibrary value with
          | .ok a => readFrom a ss
          | .error e => .error e
        | none, value :: ss =>
          if isOption value then .error (.missingValue "--design-system <DIR>")
          else match a.setLibrary value with
            | .ok a => readFrom a ss
            | .error e => .error e
        | none, [] => .error (.missingValue "--design-system <DIR>")
      else match a.word name value with
        | .ok (.go a) => readFrom a ss
        | .ok (.stop request) => .ok request
        | .error e => .error e
    | '-' :: c :: cs => match a.letters (c :: cs) with
      | .ok (.go a) => readFrom a ss
      | .ok (.stop request) => .ok request
      | .error e => .error e
    | _ => match a.setConfig s with
      | .ok a => readFrom a ss
      | .error e => .error e

def read (args : List String) : Except Misuse Request := readFrom .start args

structure Run where
  exitCode : Nat
  output : String
  errors : String
  notes : List Note

def versionText : String := s!"{Server.programName} {Server.programVersion}\n"

def helpText : String :=
  "Serves component metadata, source code and design tokens, and generates\n" ++
  "theme and component files for consumer projects.\n\n" ++
  s!"Usage: {Server.programName} [OPTIONS] [CONFIG_FILE]\n\n" ++
  "Arguments:\n  [CONFIG_FILE]  Path to configuration file\n\n" ++
  "Options:\n" ++
  "      --design-system <DIR>  Design-system source directory (holds components/ and styles/)\n" ++
  "  -v, --verbose...           Increase logging verbosity " ++
  "(-v for info, -vv for debug, -vvv for trace)\n" ++
  "  -q, --quiet                Decrease logging verbosity (only show errors)\n" ++
  "  -h, --help                 Print help\n" ++
  "  -V, --version              Print version\n"

def causeLine : Config.Failure → String
  | .unreadable _ cause => s!"  caused by: {cause.message}\n"
  | .unparsable _ (.decode e) => s!"  caused by: {e.message}\n"
  | .unparsable _ (.fault .truncated) => "  caused by: unexpected end of input\n"
  | .unparsable _ (.fault .malformed) => "  caused by: malformed JSON\n"
  | .notFound _ | .invalid _ => ""

def configErrors (f : Config.Failure) : String :=
  s!"Configuration error: {f.message}\n{causeLine f}" ++
    "See config/example-config.json for the expected format\n"

structure Setup where
  library : Library
  level : Level

def setup (args : Arguments) (config : Config) : Setup :=
  ⟨⟨config.libraryPath args.library, config.library⟩,
    .choose args.verbose args.quiet config.level⟩

def startNotes (library : Library) (files : Files) : List Note :=
  (if files.isFolder library.componentsPath then []
    else [⟨.warn, s!"Design-system directory has no components/ folder: {library.root}"⟩]) ++
  [⟨.info, s!"Starting {Server.programName} server"⟩,
   ⟨.info, "MCP server ready, waiting for client connection..."⟩]

/-- What a program does that finds the world as it is all the time. -/
def run (w : World) (home : Option String) (args : List String) (input : List UInt8) : Run :=
  match read args with
  | .error e => ⟨2, "", s!"error: {e.message}\n", []⟩
  | .ok .help => ⟨0, helpText, "", []⟩
  | .ok .version => ⟨0, versionText, "", []⟩
  | .ok (.serve args) => match Config.load w.files home args.config with
    | .error f => ⟨1, "", configErrors f, []⟩
    | .ok config =>
      let ⟨library, level⟩ := setup args config
      let lines := Wire.lines input
      let session := Server.serve (fun _ => w) (.new library) lines
      let notes := startNotes library w.files ++ Server.notes w (.new library) lines
      { exitCode := if session.ended then 0 else 1
        output := String.join (session.replies.map Wire.send)
        errors := ""
        notes := notes.filter fun n => level.admits n.level }

end StyleGuide.CommandLine
