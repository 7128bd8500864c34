import AppManifest.Datastore
import AppManifest.Workflow.Basic

/-!
# Types inside definitions

A custom type occurs directly in a definition if it is reached through properties and items only,
not through another type. A type is larger than the types that occur directly in its definition, so
whatever passes from those types to it holds of every type (`CustomType.nestedInduction`).
-/

namespace AppManifest

mutual

/-- The custom types that occur directly in a kind, in order. -/
def Kind.directTypes : Kind → List CustomType
  | .primitive _ | .untypedObject => []
  | .typedObject properties _ _ => Definition.propertyTypes properties
  | .array items => items.directTypes
  | .custom type => [type]

/-- The custom types that occur directly in a definition, in order. -/
def Definition.directTypes : Definition → List CustomType
  | ⟨kind, _⟩ => kind.directTypes

/-- The custom types that occur directly in named definitions, in order. -/
def Definition.propertyTypes : List (String × Definition) → List CustomType
  | [] => []
  | (_, definition) :: rest => definition.directTypes ++ Definition.propertyTypes rest

end

/-- The custom types that occur directly in a parameter set, in order. -/
def ParameterSet.directTypes (set : ParameterSet) : List CustomType :=
  Definition.propertyTypes set.properties.entries

/-- The custom types that occur directly in the parameters of a function, in order. -/
def AppFunction.directTypes (function : AppFunction) : List CustomType :=
  function.inputs.directTypes ++ function.outputs.directTypes

/-- The custom types that occur directly in the parameters of a workflow, in order. -/
def Workflow.directTypes (workflow : Workflow) : List CustomType :=
  workflow.inputParameters.directTypes ++ workflow.outputParameters.directTypes

/-- The custom types that occur directly in the attributes of a datastore, in order. -/
def Datastore.directTypes (datastore : Datastore) : List CustomType :=
  Definition.propertyTypes datastore.attributes.entries

mutual

/-- A type is smaller than a kind in which it occurs directly. -/
theorem Kind.sizeOf_directTypes {type : CustomType} :
    (kind : Kind) → type ∈ kind.directTypes → sizeOf type < sizeOf kind
  | .primitive _, h | .untypedObject, h => by cases h
  | .typedObject properties _ _, h => by
      have := Definition.sizeOf_propertyTypes properties h
      simp only [Kind.typedObject.sizeOf_spec]
      omega
  | .array items, h => by
      have := Definition.sizeOf_directTypes items h
      simp only [Kind.array.sizeOf_spec]
      omega
  | .custom other, h => by
      cases List.mem_singleton.1 h
      simp only [Kind.custom.sizeOf_spec]
      omega

/-- A type is smaller than a definition in which it occurs directly. -/
theorem Definition.sizeOf_directTypes {type : CustomType} :
    (definition : Definition) → type ∈ definition.directTypes → sizeOf type < sizeOf definition
  | ⟨kind, _⟩, h => by
      have := Kind.sizeOf_directTypes kind h
      simp only [Definition.mk.sizeOf_spec]
      omega

/-- A type is smaller than named definitions in which it occurs directly. -/
theorem Definition.sizeOf_propertyTypes {type : CustomType} :
    (properties : List (String × Definition)) → type ∈ Definition.propertyTypes properties →
      sizeOf type < sizeOf properties
  | [], h => by cases h
  | (name, definition) :: rest, h => by
      simp only [List.cons.sizeOf_spec, Prod.mk.sizeOf_spec]
      rcases List.mem_append.1 h with h | h
      · have := Definition.sizeOf_directTypes definition h
        omega
      · have := Definition.sizeOf_propertyTypes rest h
        omega

end

namespace CustomType

/-- The types that occur directly in the definition of a type are smaller than it. -/
theorem sizeOf_nested {type nested : CustomType} (h : nested ∈ type.definition.directTypes) :
    sizeOf nested < sizeOf type := by
  obtain ⟨id, definition, title, description⟩ := type
  have := Definition.sizeOf_directTypes definition h
  simp only [CustomType.mk.sizeOf_spec]
  omega

/-- Induction on the nesting of types: what holds of a type if it holds of the types that occur
directly in its definition holds of every type. -/
theorem nestedInduction {motive : CustomType → Prop}
    (step : ∀ type, (∀ nested ∈ type.definition.directTypes, motive nested) → motive type)
    (type : CustomType) : motive type :=
  step type fun nested h => by
    have := sizeOf_nested h
    exact nestedInduction step nested
termination_by sizeOf type

end CustomType

/-- The custom types that occur directly in named definitions are those of each definition. -/
theorem Definition.mem_propertyTypes {type : CustomType}
    {properties : List (String × Definition)} :
    type ∈ Definition.propertyTypes properties ↔
      ∃ entry ∈ properties, type ∈ entry.2.directTypes := by
  induction properties with
  | nil => simp [propertyTypes]
  | cons head rest ih => simp [propertyTypes, ih]

end AppManifest
