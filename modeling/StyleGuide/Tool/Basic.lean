import StyleGuide.Json.Basic
import StyleGuide.Plan.Basic
import StyleGuide.Token.Collection

namespace StyleGuide.Tool

inductive Kind where
  | text
  | choice (names : List String)
  | flag
  | texts

structure Argument where
  name : String
  kind : Kind
  description : String
  absent : Option Json

structure Schema where
  arguments : List Argument
  required : List String

namespace Kind

def typeName : Kind → String
  | text | choice _ => "string"
  | flag => "boolean"
  | texts => "array"

def admits : Kind → Json → Bool
  | text, .string _ => true
  | choice names, .string s => names.contains s
  | flag, .bool _ => true
  | texts, .array items => items.all fun | .string _ => true | _ => false
  | _, _ => false

end Kind

def Argument.toJson (a : Argument) : Json :=
  .object <|
    [("type", .string a.kind.typeName)] ++
    (match a.kind with
    | .texts => [("items", .object [("type", .string "string")])]
    | _ => []) ++
    [("description", .string a.description)] ++
    (match a.kind with
    | .choice names => [("enum", .strings names)]
    | _ => []) ++
    Json.member? "default" id a.absent

def Schema.toJson (s : Schema) : Json :=
  .object <|
    [("type", .string "object"),
     ("properties", .object (s.arguments.map fun a => (a.name, a.toJson)))] ++
    if s.required.isEmpty then [] else [("required", .strings s.required)]

end StyleGuide.Tool

namespace StyleGuide

inductive Tool where
  | searchComponents
  | getComponentCode
  | getDesignTokens
  | applyThemeSetup
  | integrateComponents
  deriving DecidableEq

namespace Tool

def all : List Tool :=
  [searchComponents, getComponentCode, getDesignTokens, applyThemeSetup, integrateComponents]

def name : Tool → String
  | searchComponents => "search_components"
  | getComponentCode => "get_component_code"
  | getDesignTokens => "get_design_tokens"
  | applyThemeSetup => "apply_theme_setup"
  | integrateComponents => "integrate_components"

def ofName? (s : String) : Option Tool := all.find? (·.name = s)

def description : Tool → String
  | searchComponents =>
    "Search the design system's components by name. Returns each match with " ++
      "its description, variants, props and dependencies."
  | getComponentCode =>
    "Get a component's source code and extracted metadata, optionally with its " ++
      "stories, type definitions and index file."
  | getDesignTokens =>
    "Get the design tokens declared in the global stylesheet for the light and " ++
      "dark themes, as JSON, CSS custom properties or a JS module."
  | applyThemeSetup =>
    "Generate the theme setup files for a project: globals.css, Tailwind, " ++
      "TypeScript and framework configs, and the cn() utility. Files are returned, not written."
  | integrateComponents =>
    "Generate the files needed to copy components into a project, with an " ++
      "index re-exporting them and the packages to install."

/-- The categories that a search is advertised with. Any other is taken as well. -/
def componentCategories : List String := ["button", "input", "card", "typography", "label"]

def targetArgument : Argument := ⟨"targetPath", .text, "Path of the target project", none⟩

def frameworkArgument : Argument :=
  ⟨"framework", .choice (Plan.Framework.named.map Prod.fst), "Target framework",
    some (.string Plan.Framework.vite.name)⟩

def schema : Tool → Schema
  | searchComponents =>
    ⟨[⟨"query", .text, "Case-insensitive substring of the component name", none⟩,
      ⟨"category", .choice componentCategories,
        "Component category (matched against the component name)", none⟩], []⟩
  | getComponentCode =>
    ⟨[⟨"componentName", .text, "Component name (its directory under components/)", none⟩,
      ⟨"includeStories", .flag, "Include the Storybook stories file", some (.bool false)⟩,
      ⟨"includeTypes", .flag, "Include the type definitions file", some (.bool false)⟩,
      ⟨"includeIndex", .flag, "Include index.ts", some (.bool true)⟩], ["componentName"]⟩
  | getDesignTokens =>
    ⟨[⟨"category", .choice (Category.all.map Category.name), "Token category", none⟩,
      ⟨"format", .choice (Collection.Format.named.map Prod.fst), "Output format",
        some (.string "json")⟩], []⟩
  | applyThemeSetup =>
    ⟨[targetArgument, frameworkArgument,
      ⟨"typescript", .flag, "Generate tsconfig.json", some (.bool true)⟩,
      ⟨"setupTailwind", .flag, "Set up Tailwind CSS v4", some (.bool true)⟩], ["targetPath"]⟩
  | integrateComponents =>
    ⟨[⟨"components", .texts, "Names of the components to integrate", none⟩,
      targetArgument, frameworkArgument,
      ⟨"setupStorybook", .flag, "Include Storybook stories", some (.bool false)⟩],
      ["components", "targetPath"]⟩

def definition (t : Tool) : Json :=
  .object
    [("name", .string t.name), ("description", .string t.description),
     ("inputSchema", t.schema.toJson)]

end Tool

end StyleGuide
