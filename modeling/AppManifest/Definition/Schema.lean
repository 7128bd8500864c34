import AppManifest.Definition.Basic

/-!
# Schemas of definitions

A manifest writes a definition as a schema: a JSON object whose member `type` names its type. A
custom type is referred to by its reference, and its own schema is written once, in the section of
types, with the title and description of the type over those of its definition.
-/

namespace AppManifest

/-- The part of a schema that tells the kind. -/
structure SchemaParts where
  type : String
  additionalProperties : Option Json := none
  items : Option Json := none
  properties : Option Json := none
  required : Option Json := none

namespace SchemaParts

/-- The members of the schema, the names ascending. -/
def members (parts : SchemaParts) (notes : Annotations) : Entries Json :=
  Json.member "additionalProperties" parts.additionalProperties ++
    Json.member "default" notes.default ++
    Json.member "description" (notes.description.map .string) ++
    Json.member "hint" (notes.hint.map .string) ++
    Json.member "items" parts.items ++
    Json.member "properties" parts.properties ++
    Json.member "required" parts.required ++
    Json.member "title" (notes.title.map .string) ++
    [("type", .string parts.type)]

end SchemaParts

mutual

/-- The part of a schema that tells the kind. -/
def Kind.parts : Kind → SchemaParts
  | .primitive type => { type := type.name }
  | .typedObject properties required additional =>
      { type := "object"
        additionalProperties := additional.map .bool
        properties := some (.object (Definition.schemas properties))
        required := if required.isEmpty then none else some (.ofStrings required) }
  | .untypedObject => { type := "object" }
  | .array items => { type := "array", items := some items.schema }
  | .custom type => { type := type.reference }

/-- The schema of a definition. -/
def Definition.schema : Definition → Json
  | ⟨kind, notes⟩ => .object (kind.parts.members notes)

/-- The schemas of named definitions. -/
def Definition.schemas : List (String × Definition) → List (String × Json)
  | [] => []
  | (name, definition) :: rest => (name, definition.schema) :: Definition.schemas rest

end

namespace CustomType

/-- Puts a text under a name if there is one. -/
def override (name : String) (text : Option String) (members : Entries Json) : Entries Json :=
  match text with
  | some text => members.insert name (.string text)
  | none => members

/-- The schema of a custom type. -/
def schema (type : CustomType) : Json :=
  .object (override "description" type.description (override "title" type.title
    (type.definition.kind.parts.members type.definition.notes)))

end CustomType

end AppManifest
