import StyleGuide.Ascending
import StyleGuide.OrderedMap
import StyleGuide.Text.Class
import StyleGuide.Token.Basic

namespace StyleGuide

abbrev Theme := OrderedMap Token

namespace Theme

open Text

/-- The body of a rule: the selector, blanks, and a block that is not empty. The block ends at the
first closing brace. -/
def rule? (selector cs : List Char) : Option (List Char) := do
  let cs ← after? selector cs
  let cs ← char? '{' (skipBlanks cs)
  let (body, rest) ← run? (· != '}') cs
  if rest.isEmpty then none else return body

/-- A custom property at the front of a text: a name up to the first colon, a value up to the first
semicolon after it. -/
def declaration? (cs : List Char) : Option ((List Char × List Char) × List Char) := do
  let cs ← after? ['-', '-'] cs
  let (name, cs) ← run? (· != ':') cs
  let cs ← char? ':' cs
  let (value, cs) ← run? (· != ';') cs
  let cs ← char? ';' cs
  return ((trim name, trim value), cs)

def ofDeclarations (ds : List (String × String)) : Theme :=
  .ofList (ds.map fun d => (d.1, .ofDeclaration d.1 d.2))

def ofBlock (body : List Char) : Theme :=
  .ofDeclarations ((matchAll declaration? body).map fun d => (.ofList d.1, .ofList d.2))

def ofCss (css selector : String) : Theme :=
  match firstMatch (rule? selector.toList) css.toList with
  | some body => ofBlock body
  | none => .empty

def declaration (t : Token) : String := s!"  --{t.name}: {t.value};\n"

def declarations (theme : Theme) : String := String.join (theme.values.map declaration)

end Theme

structure Collection where
  light : Theme
  dark : Theme
  categories : List Category
  generatedAt : String

namespace Collection

def lightSelector : String := ":root"

def darkSelector : String := ".dark"

def categoriesOf (theme : Theme) : List Category :=
  ascending Category.name (theme.values.map Token.category)

def ofCss (css now : String) : Collection :=
  let light := Theme.ofCss css lightSelector
  ⟨light, Theme.ofCss css darkSelector, categoriesOf light, now⟩

def ofCategory (tokens : Collection) (category : Category) : Collection :=
  { tokens with
    light := tokens.light.filter (·.category = category)
    dark := tokens.dark.filter (·.category = category)
    categories := [category] }

def size (tokens : Collection) : Nat := tokens.light.size + tokens.dark.size

def isEmpty (tokens : Collection) : Bool := tokens.light.isEmpty && tokens.dark.isEmpty

def css (tokens : Collection) : String :=
  ":root \x7b\n" ++ tokens.light.declarations ++ "\x7d\n\n.dark \x7b\n" ++
    tokens.dark.declarations ++ "\x7d\n"

def addToGroup (groups : OrderedMap (List Token)) (t : Token) : OrderedMap (List Token) :=
  let group := Token.colorGroup t.name
  groups.insert group ((groups.find? group).getD [] ++ [t])

/-- The tokens of both themes, the light one first, by colour family. -/
def colorGroups (tokens : Collection) : OrderedMap (List Token) :=
  (tokens.light.values ++ tokens.dark.values).foldl addToGroup .empty

def toJson (tokens : Collection) : Json :=
  .object
    [("light", .ofMap Token.toJson tokens.light), ("dark", .ofMap Token.toJson tokens.dark),
     ("categories", .array (tokens.categories.map Category.toJson)),
     ("generatedAt", .string tokens.generatedAt)]

def decoder : Json.Decoder Collection :=
  let light := Json.Field.required "light" (Json.Decoder.map Token.decoder)
  let dark := Json.Field.required "dark" (Json.Decoder.map Token.decoder)
  let categories := Json.Field.required "categories" (Json.Decoder.list Category.decoder)
  let generatedAt := Json.Field.required "generatedAt" Json.Decoder.string
  Json.record "TokenCollection" [light.any, dark.any, categories.any, generatedAt.any] fun r => do
    return ⟨← r.get light, ← r.get dark, ← r.get categories, ← r.get generatedAt⟩

inductive Format where
  | json
  | css
  | js
  deriving DecidableEq

namespace Format

def named : List (String × Format) := [("json", json), ("css", css), ("js", js)]

def decoder : Json.Decoder Format := Json.Decoder.oneOf named

def render : Format → Collection → String
  | json, tokens => tokens.toJson.pretty
  | css, tokens => tokens.css
  | js, tokens => "export const designTokens = " ++ tokens.toJson.pretty ++ ";"

end Format

end Collection

end StyleGuide
