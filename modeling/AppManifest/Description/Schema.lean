import AppManifest.Definition.Basic

/-!
# Schemas in descriptions

A description gives the definition of each parameter as a JSON value. `Schema.ofJson` says what that
value declares, with every defect kept at the place where it stands, so that the schemas of a
description can be followed in order before any type is known. Members that do not bear on the type
of the schema are ignored, and so are annotations of the wrong kind.
-/

namespace AppManifest

/-- What is wrong with a schema. -/
inductive SchemaDefect where
  | notAnObject
  | missingType
  | propertiesNotAnObject
  | missingItems
deriving DecidableEq

namespace SchemaDefect

/-- The text of a defect. -/
def message : SchemaDefect → String
  | .notAnObject => "expected a schema object"
  | .missingType => "missing string 'type'"
  | .propertiesNotAnObject => "'properties' must be an object"
  | .missingItems => "array parameters need 'items'"

end SchemaDefect

/-- What a JSON value declares as a schema. -/
inductive Schema where
  | defective (defect : SchemaDefect)
  /-- A reference to the custom type of an id. -/
  | reference (id : String) (notes : Annotations)
  | primitive (type : PrimitiveType) (notes : Annotations)
  | untypedObject (notes : Annotations)
  | typedObject (properties : List (String × Schema)) (required : List String)
      (additional : Option Bool) (notes : Annotations)
  | array (items : Schema) (notes : Annotations)
deriving Inhabited

namespace Schema

/-- The text under a name, if there is one. -/
def text? (members : Entries Json) (name : String) : Option String :=
  (members.lookup name).bind Json.asString?

/-- The annotations of a schema. Titles, descriptions and hints that are not strings are ignored. -/
def annotations (members : Entries Json) : Annotations where
  title := text? members "title"
  description := text? members "description"
  hint := text? members "hint"
  default := members.lookup "default"

/-- The required names of a schema. What is not an array, or is in it and not a string, is
ignored. -/
def required (members : Entries Json) : List String :=
  (((members.lookup "required").bind Json.asArray?).getD []).filterMap Json.asString?

/-- The word of a schema on undeclared properties. What is not a boolean is ignored. -/
def additional (members : Entries Json) : Option Bool :=
  (members.lookup "additionalProperties").bind Json.asBool?

/-- The schema of a type name, given what the members of those names declare: the properties, if
there is such a member and it is an object, and the items, if there is such a member. -/
def ofType (type : String) (members : Entries Json)
    (properties? : Option (Option (List (String × Schema)))) (items? : Option Schema) : Schema :=
  match Reference.typeId? type with
  | some id => .reference id (annotations members)
  | none =>
      if type = "object" then
        match properties? with
        | none => .untypedObject (annotations members)
        | some none => .defective .propertiesNotAnObject
        | some (some properties) =>
            .typedObject properties (required members) (additional members) (annotations members)
      else if type = "array" then
        match items? with
        | none => .defective .missingItems
        | some items => .array items (annotations members)
      else .primitive (.ofName type) (annotations members)

mutual

/-- What a JSON value declares as a schema. -/
def ofJson : Json → Schema
  | .object members =>
      match text? members "type" with
      | none => .defective .missingType
      | some type => ofType type members (properties? members) (items? members)
  | _ => .defective .notAnObject

/-- What the member `properties` declares, if there is one. -/
def properties? : List (String × Json) → Option (Option (List (String × Schema)))
  | [] => none
  | (name, value) :: rest =>
      if name = "properties" then some (ofObject? value) else properties? rest

/-- What the member `items` declares, if there is one. -/
def items? : List (String × Json) → Option Schema
  | [] => none
  | (name, value) :: rest => if name = "items" then some (ofJson value) else items? rest

/-- What the members of an object declare. -/
def ofObject? : Json → Option (List (String × Schema))
  | .object members => some (ofMembers members)
  | _ => none

/-- What named values declare. -/
def ofMembers : List (String × Json) → List (String × Schema)
  | [] => []
  | (name, value) :: rest => (name, ofJson value) :: ofMembers rest

end

end Schema

end AppManifest
