import AppManifest.Description.Schema
import AppManifest.Error
import AppManifest.Table

/-!
# Resolving types

Schemas refer to custom types by id, in any order. A type is resolved when it is first referred to
and kept from then on. While its schema is followed it is in progress; meeting it again before it is
resolved means that it leads back to itself.

`Resolver.define` turns a schema into a definition, given how references are resolved. Resolving a
reference enters the schema of a declared type that is not in progress, so nested references enter
at most as many schemas as types are declared (`Resolver.resolveWithin`).
-/

namespace AppManifest

/-- The types that are resolved and those in progress, the innermost first. -/
structure Resolver where
  resolved : Table CustomType := ∅
  inProgress : List String := []

/-- A computation that may resolve types and may fail. -/
abbrev Resolving := StateT Resolver (Except DescriptionError)

namespace CustomType

/-- The type of an id with this definition. The title and the description of the definition become
those of the type. -/
def ofDefinition (id : String) (definition : Definition) : CustomType where
  id := id
  definition :=
    { definition with
      notes := { definition.notes with title := none, description := none } }
  title := definition.notes.title
  description := definition.notes.description

end CustomType

namespace Resolver

mutual

/-- The definition that a schema of an owner declares for the parameter of a name. -/
def define (resolve : String → Resolving CustomType) (owner name : String) :
    Schema → Resolving Definition
  | .defective defect => throw (.invalidParameter owner name defect.message)
  | .reference id notes => do
      let type ← resolve id
      return ⟨.custom type, notes⟩
  | .primitive type notes => return ⟨.primitive type, notes⟩
  | .untypedObject notes => return ⟨.untypedObject, notes⟩
  | .typedObject properties required additional notes => do
      let properties ← defineAll resolve owner properties
      return ⟨.typedObject properties required additional, notes⟩
  | .array items notes => do
      let items ← define resolve owner name items
      return ⟨.array items, notes⟩

/-- The definitions that named schemas of an owner declare, in order. -/
def defineAll (resolve : String → Resolving CustomType) (owner : String) :
    List (String × Schema) → Resolving (List (String × Definition))
  | [] => return []
  | (name, schema) :: rest => do
      let definition ← define resolve owner name schema
      let definitions ← defineAll resolve owner rest
      return (name, definition) :: definitions

end

/-- Marks a type as in progress. -/
def start (id : String) (resolver : Resolver) : Resolver :=
  { resolver with inProgress := id :: resolver.inProgress }

/-- Keeps a type that was in progress as resolved. -/
def finish (type : CustomType) (resolver : Resolver) : Resolver where
  resolved := resolver.resolved.insert type.id type
  inProgress := resolver.inProgress.erase type.id

/-- Resolves the type of an id to which an owner refers, entering the schemas of at most `budget`
types inside each other. A type for which nothing is left is one that leads back to itself. -/
def resolveWithin (schemas : Table Schema) : Nat → String → String → Resolving CustomType
  | budget, owner, id => do
      let resolver ← get
      match resolver.resolved.get? id with
      | some type => return type
      | none =>
          if resolver.inProgress.contains id then throw (.cyclicType id)
          else
            match schemas.get? id, budget with
            | none, _ => throw (.unknownType owner (Reference.ofType id))
            | some _, 0 => throw (.cyclicType id)
            | some schema, budget + 1 => do
                modify (start id)
                let definition ← define (resolveWithin schemas budget id) id id schema
                let type := CustomType.ofDefinition id definition
                modify (finish type)
                return type

/-- Resolves the type of an id to which an owner refers. -/
def resolve (schemas : Table Schema) (owner id : String) : Resolving CustomType :=
  resolveWithin schemas schemas.size owner id

/-- The definition that a JSON value declares as a schema of an owner for the parameter of a
name. -/
def parameter (schemas : Table Schema) (owner name : String) (schema : Json) :
    Resolving Definition :=
  define (resolve schemas owner) owner name (.ofJson schema)

/-- The definitions that named JSON values declare as schemas of an owner, in the order of their
names. -/
def parameters (schemas : Table Schema) (owner : String) (values : Table Json) :
    Resolving (Table Definition) := do
  let definitions ← defineAll (resolve schemas owner) owner (values.map Schema.ofJson).entries
  return .ofList definitions

end Resolver

end AppManifest
