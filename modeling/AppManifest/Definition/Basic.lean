import AppManifest.Json.Basic
import AppManifest.Reference

/-!
# Parameter definitions

A definition says what values a parameter takes and carries the annotations that are shown with it.
Custom types are named definitions; a definition of such a type contains it, so no type can contain
itself. Equality of definitions, `Definition.same`, goes through everything in them: the order of
required names, the defaults as JSON values, and the types inside.
-/

namespace AppManifest

/-- A type of values without parts. -/
inductive PrimitiveType where
  | string
  | number
  | integer
  | boolean
  /-- A type that the platform knows by this name. -/
  | platform (name : String)
deriving DecidableEq, Inhabited

namespace PrimitiveType

/-- The name of the type in a schema. -/
def name : PrimitiveType → String
  | .string => "string"
  | .number => "number"
  | .integer => "integer"
  | .boolean => "boolean"
  | .platform name => name

/-- The type of a name. A name that is not known here is the platform's. -/
def ofName (name : String) : PrimitiveType :=
  if name = "string" then .string
  else if name = "number" then .number
  else if name = "integer" then .integer
  else if name = "boolean" then .boolean
  else .platform name

/-- The type is the platform's. -/
def isPlatform : PrimitiveType → Bool
  | .platform _ => true
  | _ => false

end PrimitiveType

/-- What is shown with a parameter and the value it has when none is given. -/
structure Annotations where
  title : Option String := none
  description : Option String := none
  hint : Option String := none
  default : Option Json := none
deriving Inhabited

namespace Annotations

/-- Equality of annotations, with defaults compared as JSON values. -/
def same (first second : Annotations) : Bool :=
  first.title == second.title && first.description == second.description &&
    first.hint == second.hint && first.default == second.default

instance : BEq Annotations :=
  ⟨same⟩

/-- Annotations are equal to themselves. -/
theorem same_self (notes : Annotations) : notes.same notes := by
  simp [same]

instance : ReflBEq Annotations :=
  ⟨fun {notes} => same_self notes⟩

end Annotations

mutual

/-- The values that a parameter takes. -/
inductive Kind where
  | primitive (type : PrimitiveType)
  /-- An object with declared properties, names that have to be present, and possibly a word on
  whether others may be. -/
  | typedObject (properties : List (String × Definition)) (required : List String)
      (additional : Option Bool)
  | untypedObject
  | array (items : Definition)
  | custom (type : CustomType)

/-- The definition of a parameter. -/
structure Definition where
  kind : Kind
  notes : Annotations

/-- A named definition, with a title and a description of its own. -/
structure CustomType where
  id : String
  definition : Definition
  title : Option String
  description : Option String

end

mutual

/-- Equality of kinds. Properties are compared one by one if there are equally many. -/
def Kind.same : Kind → Kind → Bool
  | .primitive first, .primitive second => first == second
  | .typedObject properties required additional, .typedObject properties' required' additional' =>
      properties.length == properties'.length &&
        Definition.sameProperties properties properties' && required == required' &&
        additional == additional'
  | .untypedObject, .untypedObject => true
  | .array first, .array second => first.same second
  | .custom first, .custom second => first.same second
  | _, _ => false
termination_by structural first => first

/-- Equality of definitions. -/
def Definition.same : Definition → Definition → Bool
  | ⟨kind, notes⟩, ⟨kind', notes'⟩ => kind.same kind' && notes == notes'
termination_by structural first => first

/-- Equality of custom types. -/
def CustomType.same : CustomType → CustomType → Bool
  | ⟨id, definition, title, description⟩, ⟨id', definition', title', description'⟩ =>
      id == id' && definition.same definition' && title == title' && description == description'
termination_by structural first => first

/-- Equality of named definitions. -/
def Definition.sameProperties : List (String × Definition) → List (String × Definition) → Bool
  | [], [] => true
  | (name, first) :: rest, (name', second) :: others =>
      name == name' && first.same second && Definition.sameProperties rest others
  | _, _ => false
termination_by structural first => first

end

instance : BEq Kind :=
  ⟨Kind.same⟩

instance : BEq Definition :=
  ⟨Definition.same⟩

instance : BEq CustomType :=
  ⟨CustomType.same⟩

mutual

/-- A kind is equal to itself. -/
theorem Kind.same_self : (kind : Kind) → kind.same kind
  | .primitive type => by simp [Kind.same]
  | .typedObject properties _ _ => by simp [Kind.same, Definition.sameProperties_self properties]
  | .untypedObject => rfl
  | .array items => items.same_self
  | .custom type => type.same_self

/-- A definition is equal to itself. -/
theorem Definition.same_self : (definition : Definition) → definition.same definition
  | ⟨kind, _⟩ => by simp [Definition.same, kind.same_self]

/-- A custom type is equal to itself. -/
theorem CustomType.same_self : (type : CustomType) → type.same type
  | ⟨_, definition, _, _⟩ => by simp [CustomType.same, definition.same_self]

/-- A list of named definitions is equal to itself. -/
theorem Definition.sameProperties_self :
    (properties : List (String × Definition)) → Definition.sameProperties properties properties
  | [] => rfl
  | (_, definition) :: rest => by
      simp [Definition.sameProperties, definition.same_self, Definition.sameProperties_self rest]

end

instance : ReflBEq Kind :=
  ⟨fun {kind} => kind.same_self⟩

instance : ReflBEq Definition :=
  ⟨fun {definition} => definition.same_self⟩

instance : ReflBEq CustomType :=
  ⟨fun {type} => type.same_self⟩

namespace CustomType

/-- The text by which schemas refer to the type. -/
def reference (type : CustomType) : String :=
  Reference.ofType type.id

end CustomType

namespace Definition

/-- A definition without annotations. -/
def ofKind (kind : Kind) : Definition :=
  ⟨kind, {}⟩

instance : Inhabited Definition :=
  ⟨ofKind .untypedObject⟩

/-- A parameter of a primitive type. -/
def primitive (type : PrimitiveType) : Definition :=
  ofKind (.primitive type)

/-- An object of which nothing is declared. -/
def object : Definition :=
  ofKind .untypedObject

/-- An object with no declared properties yet. -/
def typedObject : Definition :=
  ofKind (.typedObject [] [] none)

/-- An array of items of one definition. -/
def array (items : Definition) : Definition :=
  ofKind (.array items)

/-- A parameter of a custom type. -/
def custom (type : CustomType) : Definition :=
  ofKind (.custom type)

end Definition

end AppManifest
