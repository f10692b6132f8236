import Std.Time.DateTime.Timestamp
import StyleGuide.CommandLine
import StyleGuide.Decimal.Digits

namespace StyleGuide.Calendar

structure Date where
  year : Nat
  month : Nat
  day : Nat

/-- The date a number of days after the first of January 1970. Years are counted from the first of
March, so that a leap day is the last of its year; 400 of them have 146097 days. -/
def Date.ofDays (days : Nat) : Date :=
  let n := days + 719468
  let inEra := n % 146097
  let yearInEra := (inEra - inEra / 1460 + inEra / 36524 - inEra / 146096) / 365
  let inYear := inEra - (365 * yearInEra + yearInEra / 4 - yearInEra / 100)
  let fromMarch := (5 * inYear + 2) / 153
  let month := if fromMarch < 10 then fromMarch + 3 else fromMarch - 9
  { year := n / 146097 * 400 + yearInEra + if month ≤ 2 then 1 else 0
    month
    day := inYear - (153 * fromMarch + 2) / 5 + 1 }

def padded (width n : Nat) : String :=
  let ds := Decimal.digits n
  .ofList (List.replicate (width - ds.length) '0' ++ ds)

def timeText (milliseconds : Nat) : String :=
  let seconds := milliseconds / 1000
  let date := Date.ofDays (seconds / 86400)
  let minutes := seconds / 60
  s!"{padded 4 date.year}-{padded 2 date.month}-{padded 2 date.day}T" ++
    s!"{padded 2 (minutes / 60 % 24)}:{padded 2 (minutes % 60)}:{padded 2 (seconds % 60)}" ++
    s!".{padded 3 (milliseconds % 1000)}Z"

end StyleGuide.Calendar

namespace StyleGuide

open CommandLine

/-- Takes what is at a path into a picture of the file system, down to a depth. -/
def capture : Nat → String → Files → IO Files
  | 0, _, files => return files
  | depth + 1, path, files => do
    let place := (← IO.currentDir) / path
    if ← place.isDir then
      try
        let mut files := files.makeFolder path
        for entry in ← place.readDir do
          files ← capture depth (Path.join path entry.fileName) files
        return files
      catch _ => return files.place path (.ofEntries [] .nil false true)
    else if ← place.pathExists then
      try return files.write path (← IO.FS.readBinFile path)
      catch _ => return files.place path (.file .empty false)
    else return files

def surroundings : IO Files := return ⟨.empty, Path.names [] (← IO.currentDir).toString⟩

def libraryFiles (library : Library) : IO Files := do
  let files ← capture 1 library.root (← surroundings)
  let files ← capture 3 library.componentsPath files
  let files ← capture 1 library.stylesheetPath files
  capture 1 library.tailwindPath files

def configFiles (home path : Option String) : IO Files := do
  match path <|> home.map Config.defaultPath with
  | some path => capture 1 path (← surroundings)
  | none => surroundings

def timeNow : IO String := do
  let t ← Std.Time.Timestamp.now
  return Calendar.timeText t.toMillisecondsSinceUnixEpoch.toInt.toNat

def tell (level : Level) (notes : List Note) : IO Unit :=
  notes.forM fun n =>
    if level.admits n.level then IO.eprintln s!"{n.level.name} {n.text}" else pure ()

/-- Serves standard input until it ends. The files are looked at anew for each line. -/
partial def serveInput (level : Level) (s : Server) : IO UInt32 := do
  let line ← (← IO.getStdin).getLine
  match Wire.lines line.toUTF8.toList with
  | [some line] =>
    if Wire.isBlankLine line then serveInput level s
    else
      let w : World := ⟨← libraryFiles s.library, ← timeNow⟩
      tell level (s.lineNotes w line)
      let (s, reply) := s.processLine w line
      let out ← IO.getStdout
      reply.toList.forM fun r => out.putStr (Wire.send r)
      out.flush
      serveInput level s
  | _ =>
    tell level [⟨.info, "stdin closed"⟩, ⟨.info, "Server shut down gracefully"⟩]
    return 0

def serveLibrary (args : Arguments) : IO UInt32 := do
  let home ← IO.getEnv "HOME"
  match Config.load (← configFiles home args.config) home args.config with
  | .error f =>
    IO.eprint (configErrors f)
    return 1
  | .ok config =>
    let ⟨library, level⟩ := setup args config
    tell level (startNotes library (← libraryFiles library))
    try serveInput level (.new library)
    catch e =>
      tell level [⟨.error, s!"Server error: {e}"⟩]
      return 1

end StyleGuide

def main (args : List String) : IO UInt32 := do
  match StyleGuide.CommandLine.read args with
  | .error e =>
    IO.eprintln s!"error: {e.message}"
    return 2
  | .ok .help =>
    IO.print StyleGuide.CommandLine.helpText
    return 0
  | .ok .version =>
    IO.print StyleGuide.CommandLine.versionText
    return 0
  | .ok (.serve args) => StyleGuide.serveLibrary args
