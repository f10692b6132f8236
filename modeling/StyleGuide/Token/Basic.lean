import StyleGuide.Decimal.Numeral
import StyleGuide.Json.Decode
import StyleGuide.Text.Class
import StyleGuide.Text.Search

namespace StyleGuide

inductive Category where
  | color
  | spacing
  | borderRadius
  | typography
  | shadow
  | animation
  | other
  deriving DecidableEq

namespace Category

def all : List Category := [color, spacing, borderRadius, typography, shadow, animation, other]

def name : Category → String
  | color => "color"
  | spacing => "spacing"
  | borderRadius => "border-radius"
  | typography => "typography"
  | shadow => "shadow"
  | animation => "animation"
  | other => "other"

def colorNames : List String :=
  ["primary", "secondary", "destructive", "muted", "accent", "background", "foreground", "border",
   "input", "ring", "card", "popover"]

/-- The category that a token's name tells. The first rule that applies decides. -/
def ofTokenName (token : String) : Category :=
  let has (part : String) := Text.occursIn part.toList token.toList
  if has "color" || colorNames.contains token then color
  else if has "spacing" || has "gap" || has "margin" || has "padding" then spacing
  else if has "radius" then borderRadius
  else if has "font" || has "text" then typography
  else if has "shadow" then shadow
  else if has "animation" || has "transition" then animation
  else other

def ofName? (s : String) : Option Category := all.find? (·.name = s)

theorem ofName?_name (c : Category) : ofName? c.name = some c := by
  cases c <;> rfl

def unknownMessage (s : String) : String :=
  s!"Unknown token category '{s}'. Must be one of: " ++ ", ".intercalate (all.map name)

def toJson (c : Category) : Json := .string c.name

def named : List (String × Category) := all.map fun c => (c.name, c)

def decoder : Json.Decoder Category := Json.Decoder.oneOf named

end Category

/-- A colour by hue in degrees, saturation and lightness in percent. -/
structure Hsl where
  hue : Float
  saturation : Float
  lightness : Float

namespace Hsl

open Text (run? char? blanks? isDecimal)

structure Numeral where
  whole : List Char
  fraction : Option (List Char)

def Numeral.text (n : Numeral) : List Char := n.whole ++ n.fraction.elim [] ('.' :: ·)

/-- Digits of any script, and if a point follows them, more digits after it. -/
def numeral? (cs : List Char) : Option (Numeral × List Char) := do
  let (whole, rest) ← run? isDecimal cs
  match char? '.' rest with
  | none => return (⟨whole, none⟩, rest)
  | some rest =>
    let (fraction, rest) ← run? isDecimal rest
    return (⟨whole, some fraction⟩, rest)

/-- The numerals of a value of the form `217 91% 60%`. -/
def numerals? (cs : List Char) : Option (Numeral × Numeral × Numeral) := do
  let (hue, cs) ← numeral? cs
  let (saturation, cs) ← numeral? (← blanks? cs)
  let (lightness, cs) ← numeral? (← blanks? (← char? '%' cs))
  if (← char? '%' cs).isEmpty then return (hue, saturation, lightness) else none

/-- There is no colour if one of the numerals cannot be read as a number. -/
def ofValue? (value : String) : Option Hsl := do
  let (hue, saturation, lightness) ← numerals? value.toList
  return ⟨← Decimal.read? hue.text, ← Decimal.read? saturation.text, ← Decimal.read? lightness.text⟩

def toJson (c : Hsl) : Json :=
  .object [("h", .number c.hue), ("s", .number c.saturation), ("l", .number c.lightness)]

def decoder : Json.Decoder Hsl :=
  let h := Json.Field.required "h" Json.Decoder.float
  let s := Json.Field.required "s" Json.Decoder.float
  let l := Json.Field.required "l" Json.Decoder.float
  Json.record "Hsl" [h.any, s.any, l.any] fun r => do
    return ⟨← r.get h, ← r.get s, ← r.get l⟩

end Hsl

/-- A named value of a design: a custom property of the stylesheet without its two leading dashes.
-/
structure Token where
  name : String
  value : String
  category : Category
  description : String
  hsl : Option Hsl

namespace Token

def descriptions : List (String × String) :=
  [("background", "Main background colour"),
   ("foreground", "Main text colour"),
   ("primary", "Primary brand colour"),
   ("primary-foreground", "Text colour on primary backgrounds"),
   ("secondary", "Secondary colour"),
   ("secondary-foreground", "Text colour on secondary backgrounds"),
   ("destructive", "Colour for dangerous or destructive actions"),
   ("destructive-foreground", "Text colour on destructive backgrounds"),
   ("muted", "Muted background colour"),
   ("muted-foreground", "Muted text colour"),
   ("accent", "Accent colour"),
   ("accent-foreground", "Text colour on accent backgrounds"),
   ("border", "Border colour"),
   ("input", "Input field border colour"),
   ("ring", "Focus ring colour"),
   ("card", "Card background colour"),
   ("card-foreground", "Text colour on cards"),
   ("popover", "Popover background colour"),
   ("popover-foreground", "Text colour on popovers"),
   ("radius", "Default corner radius")]

def describe? (name : String) : Option String := descriptions.lookup name

def ofDeclaration (name value : String) : Token :=
  ⟨name, value, .ofTokenName name, (describe? name).getD "", Hsl.ofValue? value⟩

def families : List String :=
  ["primary", "secondary", "destructive", "muted", "accent", "card", "popover"]

def colorGroup (name : String) : String :=
  match families.find? fun f => f.toList.isPrefixOf name.toList with
  | some f => f
  | none =>
    if Text.occursIn "background".toList name.toList ||
        Text.occursIn "foreground".toList name.toList
    then "base" else "system"

def toJson (t : Token) : Json :=
  .object <|
    [("name", .string t.name), ("value", .string t.value), ("category", t.category.toJson),
     ("description", .string t.description)] ++ Json.member? "hsl" Hsl.toJson t.hsl

def decoder : Json.Decoder Token :=
  let name := Json.Field.required "name" Json.Decoder.string
  let value := Json.Field.required "value" Json.Decoder.string
  let category := Json.Field.required "category" Category.decoder
  let description := Json.Field.withDefault "description" Json.Decoder.string ""
  let hsl := Json.Field.optional "hsl" Hsl.decoder
  Json.record "DesignToken"
      [name.any, value.any, category.any, description.any, hsl.any] fun r => do
    return ⟨← r.get name, ← r.get value, ← r.get category, ← r.get description, ← r.get hsl⟩

end Token

end StyleGuide
