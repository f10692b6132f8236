import StyleGuide.Component.Basic
import StyleGuide.Json.Decode
import StyleGuide.Text.Class
import StyleGuide.Text.Lowercase

namespace StyleGuide.Plan

inductive Framework where
  | react
  | next
  | vite
  deriving DecidableEq

structure Options where
  target : String
  framework : Framework
  typescript : Bool
  tailwind : Bool
  storybook : Bool

inductive Action where
  | create
  | update
  deriving DecidableEq

structure OutputFile where
  path : String
  content : String
  action : Action

structure Outcome where
  success : Bool
  message : String
  files : List OutputFile
  instructions : List String
  dependencies : List String

def OutputFile.create (path content : String) : OutputFile := ⟨path, content, .create⟩

def Outcome.failure (message : String) : Outcome := ⟨false, message, [], [], []⟩

namespace Framework

def name : Framework → String
  | react => "react"
  | next => "next"
  | vite => "vite"

def named : List (String × Framework) := [("react", react), ("next", next), ("vite", vite)]

end Framework

namespace Options

def target? : Json.Field String := .required "targetPath" Json.Decoder.string

def framework? (empty : Json → Bool) : Json.Field Framework :=
  .withDefault "framework" (Json.Decoder.variant Framework.named empty) .vite

def typescript? : Json.Field Bool := .withDefault "typescript" Json.Decoder.bool true

def tailwind? : Json.Field Bool := .withDefault "setupTailwind" Json.Decoder.bool true

def storybook? : Json.Field Bool := .withDefault "setupStorybook" Json.Decoder.bool false

def fields (empty : Json → Bool) : List Json.AnyField :=
  [target?.any, (framework? empty).any, typescript?.any, tailwind?.any, storybook?.any]

def ofRecord (empty : Json → Bool) (r : Json.Record) : Except Json.DecodeError Options := do
  return ⟨← r.get target?, ← r.get (framework? empty), ← r.get typescript?, ← r.get tailwind?,
    ← r.get storybook?⟩

def decoder : Json.Decoder Options :=
  Json.record "IntegrationOptions" (fields Json.Decoder.isNull) (ofRecord Json.Decoder.isNull)

def toJson (o : Options) : Json :=
  .object
    [("targetPath", .string o.target), ("framework", .string o.framework.name),
     ("typescript", .bool o.typescript), ("setupTailwind", .bool o.tailwind),
     ("setupStorybook", .bool o.storybook)]

end Options

structure Request where
  components : List String
  options : Options

namespace Request

def components? : Json.Field (List String) :=
  .required "components" (Json.Decoder.list Json.Decoder.string)

/-- Inside a request an object without members is as good as null. -/
def isEmpty : Json → Bool
  | .null => true
  | .object [] => true
  | _ => false

/-- The options stand among the members of the request itself, so that it cannot be written as an
array. They are looked at once the components are known. -/
def decoder : Json.Decoder Request
  | .object members => do
    let components ← Json.ofMembers [components?.any] (·.get components?) members
    let options ← Json.ofMembers (Options.fields isEmpty) (Options.ofRecord isEmpty) members
    return ⟨components, options⟩
  | j => Json.mismatch "struct ComponentIntegrationRequest" j

end Request

namespace Action

def name : Action → String
  | create => "create"
  | update => "update"

def named : List (String × Action) := [("create", create), ("update", update)]

end Action

namespace OutputFile

def toJson (f : OutputFile) : Json :=
  .object
    [("path", .string f.path), ("content", .string f.content), ("action", .string f.action.name)]

def decoder : Json.Decoder OutputFile :=
  let path := Json.Field.required "path" Json.Decoder.string
  let content := Json.Field.required "content" Json.Decoder.string
  let action := Json.Field.required "action" (Json.Decoder.oneOf Action.named)
  Json.record "GeneratedFile" [path.any, content.any, action.any] fun r => do
    return ⟨← r.get path, ← r.get content, ← r.get action⟩

end OutputFile

namespace Outcome

def toJson (o : Outcome) : Json :=
  .object
    [("success", .bool o.success), ("message", .string o.message),
     ("files", .array (o.files.map OutputFile.toJson)), ("instructions", .strings o.instructions),
     ("dependencies", .strings o.dependencies)]

def decoder : Json.Decoder Outcome :=
  let texts := Json.Decoder.list Json.Decoder.string
  let success := Json.Field.required "success" Json.Decoder.bool
  let message := Json.Field.required "message" Json.Decoder.string
  let files := Json.Field.required "files" (Json.Decoder.list OutputFile.decoder)
  let instructions := Json.Field.required "instructions" texts
  let dependencies := Json.Field.required "dependencies" texts
  Json.record "IntegrationResult"
    [success.any, message.any, files.any, instructions.any, dependencies.any] fun r => do
    return ⟨← r.get success, ← r.get message, ← r.get files, ← r.get instructions,
      ← r.get dependencies⟩

end Outcome

def lowered (name : String) : String := .ofList (Text.lower name.toList)

def componentFolder (name : String) : String := "src/components/" ++ lowered name

def componentFiles (name : String) (code : Component.Code) (storybook : Bool) : List OutputFile :=
  let folder := componentFolder name
  let sibling (path : String) (source : Option String) :=
    (source.map (OutputFile.create (folder ++ "/" ++ path))).toList
  .create (folder ++ "/" ++ lowered name ++ ".tsx") code.main ::
    sibling "index.ts" code.index ++
      if storybook then sibling (lowered name ++ ".stories.tsx") code.stories else []

def exportLine (name : String) : String := s!"export * from './{lowered name}'\n"

def mainIndex (library : String) (components : List String) : String :=
  s!"// Auto-generated exports for {library} components\n" ++
    String.join (components.map exportLine) ++ "export * from '../lib/utils'\n"

end StyleGuide.Plan
