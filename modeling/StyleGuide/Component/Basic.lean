import StyleGuide.Json.Decode

namespace StyleGuide.Component

/-- One prop of a component. The type is what the declaration says on its first line. -/
structure Property where
  name : String
  type : String
  required : Bool
  description : Option String

structure Info where
  name : String
  path : String
  description : String
  variants : List String
  hasStories : Bool
  hasTypes : Bool
  dependencies : List String
  props : List Property

/-- The sources of a component: the main one, and of its siblings those that were asked for and are
there. -/
structure Code where
  main : String
  index : Option String
  stories : Option String
  types : Option String

structure Siblings where
  stories : Bool
  types : Bool
  index : Bool

namespace Property

def toJson (p : Property) : Json :=
  .object <|
    [("name", .string p.name), ("type", .string p.type), ("required", .bool p.required)] ++
      Json.member? "description" .string p.description

def decoder : Json.Decoder Property :=
  let name := Json.Field.required "name" Json.Decoder.string
  let type := Json.Field.required "type" Json.Decoder.string
  let required := Json.Field.required "required" Json.Decoder.bool
  let description := Json.Field.optional "description" Json.Decoder.string
  Json.record "ComponentProp" [name.any, type.any, required.any, description.any] fun r => do
    return ⟨← r.get name, ← r.get type, ← r.get required, ← r.get description⟩

end Property

namespace Info

def toJson (i : Info) : Json :=
  .object
    [("name", .string i.name), ("path", .string i.path), ("description", .string i.description),
     ("variants", .strings i.variants), ("hasStories", .bool i.hasStories),
     ("hasTypes", .bool i.hasTypes), ("dependencies", .strings i.dependencies),
     ("props", .array (i.props.map Property.toJson))]

def decoder : Json.Decoder Info :=
  let texts := Json.Decoder.list Json.Decoder.string
  let name := Json.Field.required "name" Json.Decoder.string
  let path := Json.Field.required "path" Json.Decoder.string
  let description := Json.Field.required "description" Json.Decoder.string
  let variants := Json.Field.required "variants" texts
  let hasStories := Json.Field.required "hasStories" Json.Decoder.bool
  let hasTypes := Json.Field.required "hasTypes" Json.Decoder.bool
  let dependencies := Json.Field.required "dependencies" texts
  let props := Json.Field.required "props" (Json.Decoder.list Property.decoder)
  Json.record "ComponentInfo"
    [name.any, path.any, description.any, variants.any, hasStories.any, hasTypes.any,
     dependencies.any, props.any] fun r => do
    return ⟨← r.get name, ← r.get path, ← r.get description, ← r.get variants, ← r.get hasStories,
      ← r.get hasTypes, ← r.get dependencies, ← r.get props⟩

end Info

namespace Code

def toJson (c : Code) : Json :=
  .object <|
    ("tsx", .string c.main) :: Json.member? "index" .string c.index ++
      Json.member? "stories" .string c.stories ++ Json.member? "types" .string c.types

def decoder : Json.Decoder Code :=
  let main := Json.Field.required "tsx" Json.Decoder.string
  let index := Json.Field.optional "index" Json.Decoder.string
  let stories := Json.Field.optional "stories" Json.Decoder.string
  let types := Json.Field.optional "types" Json.Decoder.string
  Json.record "ComponentCode" [main.any, index.any, stories.any, types.any] fun r => do
    return ⟨← r.get main, ← r.get index, ← r.get stories, ← r.get types⟩

end Code

end StyleGuide.Component
