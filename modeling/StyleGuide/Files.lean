import StyleGuide.Ascending
import StyleGuide.OrderedMap
import StyleGuide.Text.Bytes
import StyleGuide.Text.Search

namespace StyleGuide.Files

inductive Cause where
  | absent
  | notFolder
  | isFolder
  | denied
  | nameTooLong
  | nulInPath
  | notText
  deriving DecidableEq

def Cause.message : Cause → String
  | absent => "No such file or directory (os error 2)"
  | notFolder => "Not a directory (os error 20)"
  | isFolder => "Is a directory (os error 21)"
  | denied => "Permission denied (os error 13)"
  | nameTooLong => "File name too long (os error 36)"
  | nulInPath => "file name contained an unexpected NUL byte"
  | notText => "stream did not contain valid UTF-8"

end StyleGuide.Files

namespace StyleGuide.Path

/-- The path of a name seen from a base. A name with a leading slash is a path of its own. -/
def join (base name : String) : String :=
  if name.toList.head? = some '/' then name
  else if base.isEmpty || base.toList.getLast? = some '/' then base ++ name
  else base ++ "/" ++ name

def isAbsolute (path : String) : Bool := path.toList.head? = some '/'

def segments (path : String) : List String := (Text.splitOn '/' path.toList).map String.ofList

def descend (names : List String) (name : String) : List String :=
  if name = "" ∨ name = "." then names else if name = ".." then names.dropLast else names ++ [name]

/-- The places that segments lead to one after the other, each by its names from the root. -/
def stops (names : List String) : List String → List (List String)
  | [] => []
  | s :: ss => descend names s :: stops (descend names s) ss

def start (here : List String) (path : String) : List String := if isAbsolute path then [] else here

def names (here : List String) (path : String) : List String :=
  (segments path).foldl descend (start here path)

def way (here : List String) (path : String) : List (List String) :=
  stops (start here path) (segments path)

end StyleGuide.Path

namespace StyleGuide

namespace Files

/-- What an entry of a folder can be called, in bytes: nothing that leads elsewhere in a path. -/
def IsEntryName (bytes : List UInt8) : Prop :=
  bytes ≠ [] ∧ bytes ≠ [0x2E] ∧ bytes ≠ [0x2E, 0x2E] ∧ 0 ∉ bytes ∧ 0x2F ∉ bytes ∧ bytes.length ≤ 255

instance : DecidablePred IsEntryName := fun bytes => by
  unfold IsEntryName
  infer_instance

/-- The name of an entry. It need not be text. -/
structure Name where
  bytes : List UInt8
  proper : IsEntryName bytes
  deriving DecidableEq

namespace Name

def ofText? (s : String) : Option Name :=
  if h : IsEntryName (Text.utf8 s.toList) then some ⟨_, h⟩ else none

/-- The name as a text, in which a mark stands for what is none. -/
def shown (n : Name) : String := .ofList (Text.lossy n.bytes)

theorem shown_of_ofText? {s : String} {n : Name} (h : ofText? s = some n) : n.shown = s := by
  rw [ofText?] at h
  split at h
  · obtain rfl := Option.some.inj h
    rw [shown, Text.lossy_utf8, String.ofList_toList]
  · cases h

end Name

/-- A file, or a folder with what it has under its names, and what a program may do with it. A
folder that may be read can be listed; one that may be searched can be passed by a path. -/
inductive Node where
  | file (content : ByteArray) (readable : Bool)
  | folder (names : List Name) (distinct : names.Nodup) (nodes : Fin names.length → Node)
    (readable searchable : Bool)

namespace Node

def entries : Node → List (Name × Node)
  | file _ _ => []
  | folder names _ nodes _ _ => List.ofFn fun i => (names.get i, nodes i)

theorem nodup_entries (node : Node) : (node.entries.map Prod.fst).Nodup := by
  cases node with
  | file => exact .nil
  | folder names distinct nodes =>
    have hnames : (List.ofFn fun i => (names.get i, nodes i)).map Prod.fst = names := by
      rw [List.map_ofFn]
      exact List.ofFn_getElem
    rw [entries, hnames]
    exact distinct

def ofEntries (es : List (Name × Node)) (distinct : (es.map Prod.fst).Nodup)
    (readable searchable : Bool) : Node :=
  folder (es.map Prod.fst) distinct (fun i => (es.get (i.cast (List.length_map _))).2) readable
    searchable

theorem entries_ofEntries {es : List (Name × Node)} {distinct : (es.map Prod.fst).Nodup}
    {readable searchable : Bool} : (ofEntries es distinct readable searchable).entries = es := by
  apply List.ext_getElem
  · simp [entries, ofEntries]
  · intro i hi hi'
    simp [entries, ofEntries]

def isFile : Node → Bool
  | file _ _ => true
  | folder _ _ _ _ _ => false

def isFolder : Node → Bool
  | file _ _ => false
  | folder _ _ _ _ _ => true

def searchable : Node → Bool
  | file _ _ => false
  | folder _ _ _ _ searchable => searchable

def empty : Node := ofEntries [] .nil true true

/-- The same folder with other entries. A file makes room for a folder. -/
def withEntries (node : Node) (es : List (Name × Node)) (distinct : (es.map Prod.fst).Nodup) :
    Node :=
  match node with
  | file _ _ => ofEntries es distinct true true
  | folder _ _ _ readable searchable => ofEntries es distinct readable searchable

def child? (node : Node) (step : String) : Option Node :=
  (Name.ofText? step).bind fun name => node.entries.lookup name

/-- Replaces what is at a path. Folders on the way are made. -/
def update (f : Option Node → Node) (node : Node) : List String → Node
  | [] => node
  | step :: rest =>
    match Name.ofText? step with
    | none => node
    | some name =>
      let old := node.entries.lookup name
      let new := match rest with
        | [] => f old
        | _ :: _ => update f (old.getD empty) rest
      node.withEntries (put name new node.entries) (nodup_keys_put node.nodup_entries)

def enter (passed : List Node) (node : Node) : List String → Option (List Node × Node)
  | [] => some (passed, node)
  | step :: rest => (node.child? step).bind fun inner => enter (node :: passed) inner rest

/-- Follows a path down from a folder. The folders passed are kept, the innermost first, because the
path may lead up again. To take a step from a folder at all it must be one that may be searched. -/
def walk (passed : List Node) (node : Node) : List String → Except Cause Node
  | [] => .ok node
  | step :: rest =>
    if !node.isFolder then .error .notFolder
    else if step = "" then walk passed node rest
    else if !node.searchable then .error .denied
    else if step = "." then walk passed node rest
    else if step = ".." then
      match passed with
      | [] => walk [] node rest
      | outer :: passed => walk passed outer rest
    else if 255 < step.utf8ByteSize then .error .nameTooLong
    else match node.child? step with
      | none => .error .absent
      | some inner => walk (node :: passed) inner rest

def text : Node → Except Cause String
  | file content true => match String.fromUTF8? content with
    | some s => .ok s
    | none => .error .notText
  | folder _ _ _ true _ => .error .isFolder
  | file _ false | folder _ _ _ false _ => .error .denied

def list : Node → Except Cause (List (Name × Node))
  | file _ _ => .error .notFolder
  | folder names distinct nodes true searchable =>
    .ok (folder names distinct nodes true searchable).entries
  | folder _ _ _ false _ => .error .denied

end Node

end Files

open Files

/-- A file system, seen from the folder in which a program runs. -/
structure Files where
  root : Node
  here : List String

namespace Files

def empty : Files := ⟨.empty, []⟩

def longestPath : Nat := 4095

/-- The folder at which a path starts, with those above it. A program is where it runs already, and
need not be able to come there. -/
def start (files : Files) (path : String) : Option (List Node × Node) :=
  if Path.isAbsolute path then some ([], files.root) else files.root.enter [] files.here

def find (files : Files) (path : String) : Except Cause Node :=
  if path.toList.contains '\x00' then .error .nulInPath
  else if path.isEmpty then .error .absent
  else if longestPath < path.utf8ByteSize then .error .nameTooLong
  else match files.start path with
    | none => .error .absent
    | some (passed, node) => node.walk passed (Path.segments path)

def exists? (files : Files) (path : String) : Bool := (files.find path).isOk

def isFile (files : Files) (path : String) : Bool := (files.find path).toOption.any Node.isFile

def isFolder (files : Files) (path : String) : Bool := (files.find path).toOption.any Node.isFolder

def text (files : Files) (path : String) : Except Cause String := (files.find path).bind Node.text

def text? (files : Files) (path : String) : Option String := (files.text path).toOption

def entriesAt (files : Files) (path : String) : Except Cause (List (Name × Node)) :=
  (files.find path).bind Node.list

def subfolders (files : Files) (path : String) : Except Cause (List String) :=
  (files.entriesAt path).map fun es =>
    sorted ((es.filter fun e => e.2.isFolder).map fun e => e.1.shown)

def withFolders (files : Files) (places : List (List String)) : Files :=
  { files with root := places.foldl (Node.update (·.getD .empty)) files.root }

/-- Puts something at a path. All folders that the path passes are made, also those that it leaves
again. -/
def place (files : Files) (path : String) (node : Node) : Files :=
  let files := files.withFolders (Path.way files.here path).dropLast
  { files with root := files.root.update (fun _ => node) (Path.names files.here path) }

def write (files : Files) (path : String) (content : ByteArray) : Files :=
  files.place path (.file content true)

def makeFolder (files : Files) (path : String) : Files :=
  files.withFolders (Path.way files.here path)

end Files

end StyleGuide
