import StyleGuide.Library

namespace StyleGuide

inductive Resource where
  | componentCatalog
  | colorTokens
  | tailwindConfig
  deriving DecidableEq

namespace Resource

def all : List Resource := [componentCatalog, colorTokens, tailwindConfig]

def path : Resource → String
  | componentCatalog => "components/catalog"
  | colorTokens => "design-tokens/colors"
  | tailwindConfig => "config/tailwind"

/-- The address of a resource. The library's name is its scheme. -/
def uri (r : Resource) (library : String) : String := library ++ "://" ++ r.path

def ofUri? (uri library : String) : Option Resource := do
  let rest ← Text.after? library.toList uri.toList
  let path ← Text.after? "://".toList rest
  all.find? fun r => r.path.toList = path

def title : Resource → String
  | componentCatalog => "Component Catalog"
  | colorTokens => "Design Tokens - Colors"
  | tailwindConfig => "Tailwind Config"

def description (library : String) : Resource → String
  | componentCatalog => s!"All components of the {library} design system"
  | colorTokens => "Colour tokens of the light and dark themes, grouped by colour family"
  | tailwindConfig => "Theme sections of the design system's Tailwind config"

def mimeType : String := "application/json"

def definition (r : Resource) (library : String) : Json :=
  .object
    [("uri", .string (r.uri library)), ("name", .string r.title),
     ("description", .string (r.description library)), ("mimeType", .string mimeType)]

def contents (uri : String) (body : Json) : Json :=
  .object [("uri", .string uri), ("mimeType", .string mimeType), ("text", .string body.pretty)]

end Resource

namespace Library

variable (lib : Library) (files : Files) (now : String)

def body : Resource → Except Failure Json
  | .componentCatalog => (lib.catalog files).map fun infos => .object
      [("total", .nat infos.length), ("components", .array (infos.map Component.Info.toJson)),
       ("generatedAt", .string now)]
  | .colorTokens => do
    let tokens ← lib.tokens files now (some .color)
    let groups ← lib.colorGroups files now
    return tokens.toJson.set "groups" (.ofMap (fun ts => .array (ts.map Token.toJson)) groups)
  | .tailwindConfig => (lib.tailwind files).map Tailwind.toJson

end Library

end StyleGuide
