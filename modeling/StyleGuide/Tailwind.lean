import StyleGuide.Json.Decode
import StyleGuide.OrderedMap
import StyleGuide.Text.Braces
import StyleGuide.Text.Class

namespace StyleGuide

/-- The theme sections of a Tailwind config: the entries whose value is a plain text, section by
section. -/
structure Tailwind where
  colors : OrderedMap String
  spacing : OrderedMap String
  borderRadius : OrderedMap String
  animation : OrderedMap String
  keyframes : OrderedMap String

namespace Tailwind

open Text

/-- A section's name on its own, a colon and an opening brace. -/
def opener? (heading : List Char) (before : Option Char) (cs : List Char) : Option (List Char) :=
  if before.any isWord then none else do
    let cs ← after? (heading ++ [':']) cs
    char? '{' (skipBlanks cs)

def isKeyChar (c : Char) : Bool := !isQuote c && c != ':' && !isBlank c

/-- One trailing comma, unless nothing stands before it. -/
def dropComma (cs : List Char) : List Char :=
  match before? [','] cs with
  | some [] | none => cs
  | some kept => kept

def keyValue? (line : List Char) : Option (List Char × List Char) := do
  let (key, cs) ← run? isKeyChar (skipQuote line)
  let cs ← char? ':' (skipBlanks (skipQuote cs))
  let value := skipBlanks cs
  if value.isEmpty then none else return (key, dropComma value)

def bare (value : List Char) : List Char :=
  let cs := value.filter fun c => !isQuote c
  trim ((before? [','] cs).getD cs)

def entryOf? (line : List Char) : Option (String × String) :=
  let line := trim line
  if line.isEmpty || (after? ['/', '/'] line).isSome then none else do
    let (key, value) ← keyValue? line
    match bare value with
    | [] => none
    | '{' :: _ => none
    | cs => return (.ofList key, .ofList cs)

def entries (body : List Char) : OrderedMap String :=
  .ofList ((topLevelLines body).filterMap entryOf?)

def themeSection (name : String) (config : List Char) : OrderedMap String :=
  match (firstMatchAfter (opener? name.toList) none config).bind blockBody? with
  | some body => entries body
  | none => .empty

def ofConfig (config : String) : Tailwind :=
  let cs := config.toList
  ⟨themeSection "colors" cs, themeSection "spacing" cs, themeSection "borderRadius" cs,
    themeSection "animation" cs, themeSection "keyframes" cs⟩

def isEmpty (t : Tailwind) : Bool :=
  t.colors.isEmpty && t.spacing.isEmpty && t.borderRadius.isEmpty && t.animation.isEmpty &&
    t.keyframes.isEmpty

def toJson (t : Tailwind) : Json :=
  .object
    [("colors", .ofMap .string t.colors), ("spacing", .ofMap .string t.spacing),
     ("borderRadius", .ofMap .string t.borderRadius), ("animation", .ofMap .string t.animation),
     ("keyframes", .ofMap .string t.keyframes)]

def decoder : Json.Decoder Tailwind :=
  let texts := Json.Decoder.map Json.Decoder.string
  let colors := Json.Field.required "colors" texts
  let spacing := Json.Field.required "spacing" texts
  let borderRadius := Json.Field.required "borderRadius" texts
  let animation := Json.Field.required "animation" texts
  let keyframes := Json.Field.required "keyframes" texts
  Json.record "TailwindConfig"
    [colors.any, spacing.any, borderRadius.any, animation.any, keyframes.any] fun r => do
    return ⟨← r.get colors, ← r.get spacing, ← r.get borderRadius, ← r.get animation,
      ← r.get keyframes⟩

end Tailwind

end StyleGuide
