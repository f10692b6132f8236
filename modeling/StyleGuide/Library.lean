import StyleGuide.Component.Source
import StyleGuide.Files
import StyleGuide.Tailwind
import StyleGuide.Text.Lowercase
import StyleGuide.Token.Collection

namespace StyleGuide

structure Library where
  root : String
  name : String

namespace Library

inductive Failure where
  | componentNotFound (name : String)
  | unreadable (path : String) (cause : Files.Cause)
  | unlistable (path : String) (cause : Files.Cause)
  deriving DecidableEq

namespace Failure

def message : Failure → String
  | componentNotFound name => s!"Component not found: {name}"
  | unreadable path _ => s!"Failed to read file: {path}"
  | unlistable path _ => s!"Failed to list directory: {path}"

def cause? : Failure → Option Files.Cause
  | componentNotFound _ => none
  | unreadable _ cause => some cause
  | unlistable _ cause => some cause

def detailed (f : Failure) : String :=
  match f.cause? with
  | some cause => s!"{f.message} ({cause.message})"
  | none => f.message

def isNotFound : Failure → Bool
  | componentNotFound _ => true
  | _ => false

end Failure

variable (lib : Library)

def componentsPath : String := Path.join lib.root "components"

def stylesheetPath : String := Path.join (Path.join lib.root "styles") "globals.css"

/-- The Tailwind config lies beside the folder with the sources. -/
def tailwindPath : String := Path.join (Path.join lib.root "..") "tailwind.config.ts"

def componentPath (component file : String) : String :=
  Path.join (Path.join lib.componentsPath component) file

def mainPath (component : String) : String := lib.componentPath component (component ++ ".tsx")

def storiesPath (component : String) : String :=
  lib.componentPath component (component ++ ".stories.tsx")

def typesPath (component : String) : String :=
  lib.componentPath component (component ++ ".types.ts")

def indexPath (component : String) : String := lib.componentPath component "index.ts"

def read (files : Files) (path : String) : Except Failure String :=
  (files.text path).mapError (.unreadable path)

open Component

/-- A component's name is one segment of a path and leads nowhere else. -/
def isComponentName (name : String) : Bool :=
  !name.isEmpty && name != "." && name != ".." && name.toList.all fun c => c != '/' && c != '\\'

variable (files : Files)

def components : Except Failure (List String) :=
  (files.subfolders lib.componentsPath).mapError (.unlistable lib.componentsPath)

def info (name : String) : Except Failure Info :=
  if isComponentName name && files.isFile (lib.mainPath name) then do
    let source ← read files (lib.mainPath name)
    let index := files.text? (lib.indexPath name)
    return {
      name, path := "src/components/" ++ name
      description := description source
      variants := variants source
      hasStories := files.isFile (lib.storiesPath name)
      hasTypes := files.isFile (lib.typesPath name)
      dependencies := dependencies source index
      props := properties source }
  else throw (.componentNotFound name)

/-- The main source of a component. Only an absent one counts as a component that is not there. -/
def mainSource (name : String) : Except Failure String :=
  match files.text (lib.mainPath name) with
  | .ok source => .ok source
  | .error .absent => .error (.componentNotFound name)
  | .error cause => .error (.unreadable (lib.mainPath name) cause)

/-- The sources of a component. Siblings that cannot be read are left out. -/
def code (name : String) (siblings : Siblings) : Except Failure Code :=
  if isComponentName name then do
    let sibling (wanted : Bool) (path : String) := if wanted then files.text? path else none
    return {
      main := ← lib.mainSource files name
      index := sibling siblings.index (lib.indexPath name)
      stories := sibling siblings.stories (lib.storiesPath name)
      types := sibling siblings.types (lib.typesPath name) }
  else throw (.componentNotFound name)

def infos (names : List String) : List Info :=
  names.filterMap fun name => (lib.info files name).toOption

def catalog : Except Failure (List Info) := (lib.components files).map (lib.infos files)

def isSought (query : String) (category : Option String) (name : String) : Bool :=
  let name := Text.lower name.toList
  category.all (fun c => name == Text.lower c.toList) &&
    Text.occursIn (Text.lower query.toList) name

def search (query : String) (category : Option String) : Except Failure (List Info) :=
  (lib.components files).map fun names => lib.infos files (names.filter (isSought query category))

variable (now : String)

def tokens (category : Option Category) : Except Failure Collection :=
  (read files lib.stylesheetPath).map fun css =>
    let all := Collection.ofCss css now
    match category with
    | some c => all.ofCategory c
    | none => all

def colorGroups : Except Failure (OrderedMap (List Token)) :=
  (lib.tokens files now (some .color)).map Collection.colorGroups

def spacing : Except Failure (List Token) :=
  (lib.tokens files now (some .spacing)).map fun tokens => tokens.light.values

def tailwind : Except Failure Tailwind := (read files lib.tailwindPath).map Tailwind.ofConfig

end Library

end StyleGuide
