import StyleGuide.Files
import StyleGuide.Json.EventReader
import StyleGuide.Text.Lowercase

namespace StyleGuide

inductive Level where
  | error
  | warn
  | info
  | debug
  | trace
  deriving DecidableEq

namespace Level

def name : Level → String
  | error => "error"
  | warn => "warn"
  | info => "info"
  | debug => "debug"
  | trace => "trace"

def ofName? (s : String) : Option Level :=
  match String.ofList (Text.lower s.toList) with
  | "trace" => some trace
  | "debug" => some debug
  | "info" => some info
  | "warn" => some warn
  | "error" => some error
  | _ => none

def rank : Level → Nat
  | error => 0
  | warn => 1
  | info => 2
  | debug => 3
  | trace => 4

def admits (l event : Level) : Bool := event.rank ≤ l.rank

/-- The level asked for: quiet wins over verbose, and either over the configured name. -/
def choose (verbose : Nat) (quiet : Bool) (configured : String) : Level :=
  if quiet then error
  else match verbose with
    | 0 => (ofName? configured).getD warn
    | 1 => info
    | 2 => debug
    | _ => trace

end Level

structure Config where
  path : Option String
  library : String
  level : String
  deriving DecidableEq

namespace Config

open Json (EventReader)

def default : Config := ⟨none, "design-system", "warn"⟩

def logging : EventReader.Shape String where
  title := "LoggingConfig"
  names := ["level"]
  assign _ _ := EventReader.string "a string"

/-- What a config file can set. The schema and the comment are for its readers. -/
def shape : EventReader.Shape Config where
  title := "Config"
  names := ["$schema", "_comment", "design_system_path", "library_name", "logging"]
  assign name config := do
    if name = "design_system_path" then
      return { config with path := ← EventReader.optionalString "path string" }
    else if name = "library_name" then
      return { config with library := ← EventReader.string "a string" }
    else if name = "logging" then
      return { config with level := ← EventReader.record logging default.level }
    else
      let _ ← EventReader.optionalString "a string"
      return config

def read (text : String) : Except Json.TextError Config :=
  (EventReader.record shape default).ofChars text.toList

def isLower (c : Char) : Bool := 'a' ≤ c && c ≤ 'z'

/-- A name that can stand before the colon of an address. -/
def isLibraryName (name : String) : Bool :=
  name.toList.head?.any isLower &&
    name.toList.all fun c => isLower c || Decimal.isDigit c || c == '-'

def levelNames : List String := ["trace", "debug", "info", "warn", "error"]

def isLevelName (name : String) : Bool :=
  levelNames.contains (String.ofList (Text.lower name.toList))

inductive Invalid where
  | libraryName (name : String)
  | level (name : String)
  deriving DecidableEq

def Invalid.message : Invalid → String
  | libraryName name =>
    s!"Invalid library name '{name}'. Use lowercase letters, digits and '-', starting with a letter"
  | level name =>
    s!"Invalid log level '{name}'. Must be one of: " ++ ", ".intercalate levelNames

def validate (c : Config) : Except Invalid Unit :=
  if !isLibraryName c.library then .error (.libraryName c.library)
  else if !isLevelName c.level then .error (.level c.level)
  else .ok ()

inductive Failure where
  | notFound (path : String)
  | unreadable (path : String) (cause : Files.Cause)
  | unparsable (path : String) (error : Json.TextError)
  | invalid (reason : Invalid)

def Failure.message : Failure → String
  | notFound path => s!"configuration file not found: {path}"
  | unreadable path _ => s!"failed to read configuration file: {path}"
  | unparsable path _ => s!"failed to parse configuration file: {path}"
  | invalid reason => s!"configuration validation failed: {reason.message}"

def defaultPath (home : String) : String :=
  Path.join (Path.join home ".design-system-mcp") "config.json"

def loadFrom (files : Files) (path : String) : Except Failure Config := do
  let text ← (files.text path).mapError (.unreadable path)
  let config ← (read text).mapError (.unparsable path)
  config.validate.mapError .invalid
  return config

/-- The config of a program. A file that is named must be there; without one, the file at the
default place is read if it is there. -/
def load (files : Files) (home : Option String) (path : Option String) : Except Failure Config :=
  match path with
  | some path => if files.exists? path then loadFrom files path else .error (.notFound path)
  | none => match home.map defaultPath with
    | some path => if files.exists? path then loadFrom files path else .ok default
    | none => .ok default

def libraryPath (asked : Option String) (c : Config) : String :=
  (asked <|> c.path).getD "./src"

end Config

end StyleGuide
