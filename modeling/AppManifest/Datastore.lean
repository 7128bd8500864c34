import AppManifest.Definition.Schema

/-!
# Datastores

A datastore keeps records with named attributes, one of which is the key.
-/

namespace AppManifest

/-- A store of records that an app declares. -/
structure Datastore where
  name : String
  primaryKey : String
  attributes : Table Definition := ∅

namespace Datastore

/-- Equality of datastores. -/
def same (first second : Datastore) : Bool :=
  first.name == second.name && first.primaryKey == second.primaryKey &&
    first.attributes == second.attributes

instance : BEq Datastore :=
  ⟨same⟩

/-- A datastore is equal to itself. -/
theorem same_self (datastore : Datastore) : datastore.same datastore := by
  simp [same]

instance : ReflBEq Datastore :=
  ⟨fun {datastore} => same_self datastore⟩

/-- Declares an attribute. -/
def withAttribute (datastore : Datastore) (name : String) (definition : Definition) : Datastore :=
  { datastore with attributes := datastore.attributes.insert name definition }

/-- The datastore as it is written in a manifest. -/
def toJson (datastore : Datastore) : Json :=
  .object [("attributes", .ofTable (datastore.attributes.map Definition.schema)),
    ("primary_key", .string datastore.primaryKey)]

end Datastore

end AppManifest
