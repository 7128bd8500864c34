import AppManifest.Proofs.Definition.Same

/-!
# The full traversal of a definition

The full traversal of a definition lists the custom types in it at every depth, each before those
inside it, properties in order and nothing left out (`Definition.allTypes`): a type that is used
twice is listed twice, with all that is inside it. Equal types have the same ids in their
traversals, so no type is equal to one inside it.
-/

namespace AppManifest

mutual

/-- The full traversal of a kind. -/
def Kind.allTypes : Kind → List CustomType
  | .primitive _ | .untypedObject => []
  | .typedObject properties _ _ => Definition.allPropertyTypes properties
  | .array items => items.allTypes
  | .custom type => type.allTypes

/-- The full traversal of a definition. -/
def Definition.allTypes : Definition → List CustomType
  | ⟨kind, _⟩ => kind.allTypes

/-- The full traversal of a custom type, which comes first. -/
def CustomType.allTypes : CustomType → List CustomType
  | ⟨id, definition, title, description⟩ =>
      ⟨id, definition, title, description⟩ :: definition.allTypes

/-- The full traversal of named definitions, in order. -/
def Definition.allPropertyTypes : List (String × Definition) → List CustomType
  | [] => []
  | (_, definition) :: rest => definition.allTypes ++ Definition.allPropertyTypes rest

end

/-- The full traversal of a type begins with the type. -/
theorem CustomType.allTypes_eq (type : CustomType) :
    type.allTypes = type :: type.definition.allTypes := by
  obtain ⟨id, definition, title, description⟩ := type
  rfl

mutual

/-- The full traversal of a kind is that of the types that occur directly in it. -/
theorem Kind.allTypes_eq :
    (kind : Kind) → kind.allTypes = kind.directTypes.flatMap CustomType.allTypes
  | .primitive _ | .untypedObject => rfl
  | .typedObject properties _ _ => Definition.allPropertyTypes_eq properties
  | .array items => Definition.allTypes_eq items
  | .custom type => (List.flatMap_singleton CustomType.allTypes type).symm

/-- The full traversal of a definition is that of the types that occur directly in it. -/
theorem Definition.allTypes_eq :
    (definition : Definition) →
      definition.allTypes = definition.directTypes.flatMap CustomType.allTypes
  | ⟨kind, _⟩ => Kind.allTypes_eq kind

/-- The full traversal of named definitions is that of the types that occur directly in them. -/
theorem Definition.allPropertyTypes_eq :
    (properties : List (String × Definition)) → Definition.allPropertyTypes properties =
      (Definition.propertyTypes properties).flatMap CustomType.allTypes
  | [] => rfl
  | (_, definition) :: rest => by
      rw [Definition.allPropertyTypes, Definition.allTypes_eq definition,
        Definition.allPropertyTypes_eq rest, Definition.propertyTypes, List.flatMap_append]

end

/-- A type is in the full traversal of a definition exactly if it is in that of a type that occurs
directly in it. -/
theorem Definition.mem_allTypes_iff {definition : Definition} {type : CustomType} :
    type ∈ definition.allTypes ↔ ∃ direct ∈ definition.directTypes, type ∈ direct.allTypes := by
  rw [Definition.allTypes_eq, List.mem_flatMap]

mutual

/-- Equal kinds have the same ids in their full traversals. -/
theorem Kind.ids_allTypes : (first second : Kind) → first.same second = true →
    first.allTypes.map CustomType.id = second.allTypes.map CustomType.id
  | .primitive _, .primitive _, _ | .untypedObject, .untypedObject, _ => rfl
  | .typedObject properties _ _, .typedObject others _ _, h => by
      simp only [Kind.same, Bool.and_eq_true] at h
      exact Definition.ids_allPropertyTypes properties others h.1.1.2
  | .array items, .array others, h => by
      rw [Kind.same] at h
      exact Definition.ids_allTypes items others h
  | .custom first, .custom second, h => by
      rw [Kind.same] at h
      exact CustomType.ids_allTypes first second h

/-- Equal definitions have the same ids in their full traversals. -/
theorem Definition.ids_allTypes : (first second : Definition) → first.same second = true →
    first.allTypes.map CustomType.id = second.allTypes.map CustomType.id
  | ⟨first, _⟩, ⟨second, _⟩, h => by
      rw [Definition.same, Bool.and_eq_true] at h
      exact Kind.ids_allTypes first second h.1

/-- Equal types have the same ids in their full traversals. -/
theorem CustomType.ids_allTypes : (first second : CustomType) → first.same second = true →
    first.allTypes.map CustomType.id = second.allTypes.map CustomType.id
  | ⟨_, first, _, _⟩, ⟨_, second, _, _⟩, h => by
      simp only [CustomType.same, Bool.and_eq_true, beq_iff_eq] at h
      obtain ⟨⟨⟨rfl, hsame⟩, -⟩, -⟩ := h
      rw [CustomType.allTypes, CustomType.allTypes, List.map_cons, List.map_cons,
        Definition.ids_allTypes first second hsame]

/-- Equal named definitions have the same ids in their full traversals. -/
theorem Definition.ids_allPropertyTypes : (first second : List (String × Definition)) →
    Definition.sameProperties first second = true →
    (Definition.allPropertyTypes first).map CustomType.id =
      (Definition.allPropertyTypes second).map CustomType.id
  | [], [], _ => rfl
  | (_, first) :: rest, (_, second) :: others, h => by
      simp only [Definition.sameProperties, Bool.and_eq_true] at h
      rw [Definition.allPropertyTypes, Definition.allPropertyTypes, List.map_append,
        List.map_append, Definition.ids_allTypes first second h.1.2,
        Definition.ids_allPropertyTypes rest others h.2]

end

namespace CustomType

/-- How many types the full traversal of a type lists. -/
def extent (type : CustomType) : Nat :=
  type.allTypes.length

/-- Equal types have the same extent. -/
theorem extent_eq_of_same {first second : CustomType} (h : first.same second = true) :
    first.extent = second.extent := by
  simpa [extent] using congrArg List.length (ids_allTypes first second h)

/-- The full traversal of a definition is as long as that of each type that occurs directly in
it. -/
theorem extent_le {definition : Definition} {direct : CustomType}
    (h : direct ∈ definition.directTypes) : direct.extent ≤ definition.allTypes.length := by
  obtain ⟨before, after, hdirect⟩ := List.append_of_mem h
  rw [extent, Definition.allTypes_eq, hdirect, List.flatMap_append, List.flatMap_cons,
    List.length_append, List.length_append]
  omega

/-- A type that occurs directly in the definition of a type has a smaller extent. -/
theorem extent_lt {type nested : CustomType} (h : nested ∈ type.definition.directTypes) :
    nested.extent < type.extent := by
  calc
    nested.extent ≤ type.definition.allTypes.length := extent_le h
    _ < type.definition.allTypes.length + 1 := Nat.lt_succ_self _
    _ = type.extent := by rw [extent, type.allTypes_eq, List.length_cons]

/-- Types with one id are equal wherever they stand in the list. -/
def Consistent (types : List CustomType) : Prop :=
  ∀ first ∈ types, ∀ second ∈ types, first.id = second.id → (first == second) = true

instance (types : List CustomType) : Decidable (Consistent types) :=
  inferInstanceAs (Decidable (∀ first ∈ types, ∀ second ∈ types, first.id = second.id →
    (first == second) = true))

end CustomType

end AppManifest
