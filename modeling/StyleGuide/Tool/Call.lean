import StyleGuide.Component.Basic
import StyleGuide.Plan.Make
import StyleGuide.Tool.Basic

namespace StyleGuide.Tool

structure Search where
  query : Option String
  category : Option String

structure CodeQuery where
  component : String
  siblings : Component.Siblings

structure TokenQuery where
  category : Option Category
  format : Collection.Format

inductive Call where
  | search (args : Search)
  | code (args : CodeQuery)
  | tokens (args : TokenQuery)
  | theme (options : Plan.Options)
  | integrate (request : Plan.Request)

def Call.tool : Call → Tool
  | search _ => searchComponents
  | code _ => getComponentCode
  | tokens _ => getDesignTokens
  | theme _ => applyThemeSetup
  | integrate _ => integrateComponents

def Search.decoder : Json.Decoder Search :=
  let query := Json.Field.optional "query" Json.Decoder.string
  let category := Json.Field.optional "category" Json.Decoder.string
  Json.record "SearchArgs" [query.any, category.any] fun r => do
    return ⟨← r.get query, ← r.get category⟩

def CodeQuery.decoder : Json.Decoder CodeQuery :=
  let component := Json.Field.required "componentName" Json.Decoder.string
  let stories := Json.Field.withDefault "includeStories" Json.Decoder.bool false
  let types := Json.Field.withDefault "includeTypes" Json.Decoder.bool false
  let index := Json.Field.withDefault "includeIndex" Json.Decoder.bool true
  Json.record "ComponentCodeArgs" [component.any, stories.any, types.any, index.any] fun r => do
    return ⟨← r.get component, ← r.get stories, ← r.get types, ← r.get index⟩

def TokenQuery.decoder : Json.Decoder TokenQuery :=
  let category := Json.Field.optional "category" Category.decoder
  let format := Json.Field.withDefault "format" Collection.Format.decoder .json
  Json.record "TokensArgs" [category.any, format.any] fun r => do
    return ⟨← r.get category, ← r.get format⟩

inductive Refusal where
  | unknownTool (name : String)
  | invalidArguments (tool : Tool) (error : Json.DecodeError)

def Refusal.message : Refusal → String
  | unknownTool name => "Unknown tool: " ++ name
  | invalidArguments tool error => s!"Invalid arguments for {tool.name}: {error.message}"

def decode (arguments : Json) : Tool → Except Json.DecodeError Call
  | searchComponents => (Search.decoder arguments).map .search
  | getComponentCode => (CodeQuery.decoder arguments).map .code
  | getDesignTokens => (TokenQuery.decoder arguments).map .tokens
  | applyThemeSetup => (Plan.Options.decoder arguments).map .theme
  | integrateComponents => (Plan.Request.decoder arguments).map .integrate

/-- No arguments are as good as an object without members. -/
def given : Json → Json
  | .null => .object []
  | j => j

def call (name : String) (arguments : Json) : Except Refusal Call :=
  match ofName? name with
  | none => .error (.unknownTool name)
  | some tool => (decode (given arguments) tool).mapError (.invalidArguments tool)

end StyleGuide.Tool

namespace StyleGuide

namespace Tool

structure Answer where
  text : String
  isError : Bool

namespace Answer

def ofJson (j : Json) : Answer := ⟨j.pretty, false⟩

def ofFailure (doing : String) (f : Library.Failure) : Answer := ⟨s!"{doing}: {f.detailed}", true⟩

def ofResult (doing : String) (f : α → Answer) : Except Library.Failure α → Answer
  | .ok a => f a
  | .error e => ofFailure doing e

def toJson (a : Answer) : Json :=
  .object <|
    ("content", .array [.object [("type", .string "text"), ("text", .string a.text)]]) ::
      if a.isError then [("isError", .bool true)] else []

end Answer

end Tool

namespace Library

open Tool

variable (lib : Library) (files : Files) (now : String)

def answerSearch (args : Search) : Answer :=
  .ofResult "Failed to search components"
    (fun found => .ofJson <| .object
      [("total", .nat found.length), ("results", .array (found.map Component.Info.toJson)),
       ("query", .ofOption .string args.query), ("category", .ofOption .string args.category)])
    (lib.search files (args.query.getD "") args.category)

def codeFiles (name : String) (code : Component.Code) : Json :=
  .object <|
    (name ++ ".tsx", .string code.main) :: Json.member? "index.ts" .string code.index ++
      Json.member? (name ++ ".stories.tsx") .string code.stories ++
      Json.member? (name ++ ".types.ts") .string code.types

def codeWithInfo (args : CodeQuery) : Except Failure (Component.Code × Component.Info) := do
  let code ← lib.code files args.component args.siblings
  let info ← lib.info files args.component
  return (code, info)

def answerCode (args : CodeQuery) : Answer :=
  .ofResult "Failed to get component code"
    (fun (code, info) => .ofJson <| .object
      [("componentName", .string args.component),
       ("info", .object
         [("description", .string info.description), ("variants", .strings info.variants),
          ("dependencies", .strings info.dependencies),
          ("props", .array (info.props.map Component.Property.toJson))]),
       ("files", codeFiles args.component code)])
    (lib.codeWithInfo files args)

def answerTokens (args : TokenQuery) : Answer :=
  .ofResult "Failed to get design tokens" (fun tokens => ⟨args.format.render tokens, false⟩)
    (lib.tokens files now args.category)

def answer : Call → Answer
  | .search args => lib.answerSearch files args
  | .code args => lib.answerCode files args
  | .tokens args => lib.answerTokens files now args
  | .theme options => .ofJson (lib.theme files now options).toJson
  | .integrate request => .ofJson (lib.integrate files request).toJson

end Library

end StyleGuide
