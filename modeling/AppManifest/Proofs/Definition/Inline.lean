import AppManifest.Proofs.Definition.Traversal
import AppManifest.Proofs.Placeholder

/-!
# Definitions without types

Replacing every custom type in a definition by its definition, and so again inside what is put in
its place, leaves no type (`Definition.allTypes_inline`) and everything else as it is
(`Definition.inline_eq_self`). It changes no placeholder: a value has the placeholder of its
definition without types (`Definition.ofDefinition_inline`).
-/

namespace AppManifest

mutual

/-- The definition of a kind with these annotations, without types. What is put in the place of a
custom type has the annotations of the definition of the type. -/
def Kind.inline (notes : Annotations) : Kind → Definition
  | .primitive type => ⟨.primitive type, notes⟩
  | .typedObject properties required additional =>
      ⟨.typedObject (Definition.inlineProperties properties) required additional, notes⟩
  | .untypedObject => ⟨.untypedObject, notes⟩
  | .array items => ⟨.array items.inline, notes⟩
  | .custom type => type.inline

/-- The definition of a custom type, without types. -/
def CustomType.inline : CustomType → Definition
  | ⟨_, definition, _, _⟩ => definition.inline

/-- The definition without types. -/
def Definition.inline : Definition → Definition
  | ⟨kind, notes⟩ => kind.inline notes

/-- Named definitions without types. -/
def Definition.inlineProperties : List (String × Definition) → List (String × Definition)
  | [] => []
  | (name, definition) :: rest => (name, definition.inline) :: Definition.inlineProperties rest

end

/-- Named definitions are freed from types one by one. -/
theorem Definition.inlineProperties_eq (properties : List (String × Definition)) :
    Definition.inlineProperties properties = Entries.mapValues Definition.inline properties := by
  induction properties with
  | nil => rfl
  | cons entry rest ih =>
      rw [inlineProperties, ih]
      rfl

mutual

/-- No type is left in a kind. -/
theorem Kind.allTypes_inline (notes : Annotations) :
    (kind : Kind) → (kind.inline notes).allTypes = []
  | .primitive _ | .untypedObject => rfl
  | .typedObject properties _ _ => Definition.allPropertyTypes_inline properties
  | .array items => Definition.allTypes_inline items
  | .custom type => CustomType.allTypes_inline type

/-- No type is left in the definition of a custom type. -/
theorem CustomType.allTypes_inline : (type : CustomType) → type.inline.allTypes = []
  | ⟨_, definition, _, _⟩ => Definition.allTypes_inline definition

/-- No type is left in a definition. -/
theorem Definition.allTypes_inline : (definition : Definition) → definition.inline.allTypes = []
  | ⟨kind, notes⟩ => Kind.allTypes_inline notes kind

/-- No type is left in named definitions. -/
theorem Definition.allPropertyTypes_inline : (properties : List (String × Definition)) →
    Definition.allPropertyTypes (Definition.inlineProperties properties) = []
  | [] => rfl
  | (_, definition) :: rest => by
      rw [Definition.inlineProperties, Definition.allPropertyTypes,
        Definition.allTypes_inline definition, Definition.allPropertyTypes_inline rest,
        List.append_nil]

end

mutual

/-- Nothing but types is replaced in a kind. -/
theorem Kind.inline_eq_self (notes : Annotations) :
    (kind : Kind) → kind.allTypes = [] → kind.inline notes = ⟨kind, notes⟩
  | .primitive _, _ | .untypedObject, _ => rfl
  | .typedObject properties _ _, h => by
      rw [Kind.inline, Definition.inlineProperties_eq_self properties h]
  | .array items, h => by rw [Kind.inline, Definition.inline_eq_self items h]
  | .custom type, h => by
      rw [Kind.allTypes, type.allTypes_eq] at h
      cases h

/-- Nothing but types is replaced in a definition. -/
theorem Definition.inline_eq_self :
    (definition : Definition) → definition.allTypes = [] → definition.inline = definition
  | ⟨kind, notes⟩, h => Kind.inline_eq_self notes kind h

/-- Nothing but types is replaced in named definitions. -/
theorem Definition.inlineProperties_eq_self : (properties : List (String × Definition)) →
    Definition.allPropertyTypes properties = [] →
      Definition.inlineProperties properties = properties
  | [], _ => rfl
  | (_, definition) :: rest, h => by
      obtain ⟨hhead, hrest⟩ := List.append_eq_nil_iff.1 h
      rw [Definition.inlineProperties, Definition.inline_eq_self definition hhead,
        Definition.inlineProperties_eq_self rest hrest]

end

mutual

/-- A kind has the placeholder of its definition without types. -/
theorem Kind.ofDefinition_inline (path : Path) (notes : Annotations) : (kind : Kind) →
    Placeholder.ofDefinition path (kind.inline notes) = Placeholder.ofKind path kind
  | .primitive _ | .untypedObject | .array _ => rfl
  | .typedObject properties _ _ =>
      congrArg (fun declared => Placeholder.object ⟨path, declared⟩)
        (Definition.ofProperties_inline path properties)
  | .custom type => CustomType.ofDefinition_inline path type

/-- A custom type has the placeholder of its definition without types: it is the definition of the
type, at the same path, that is followed. -/
theorem CustomType.ofDefinition_inline (path : Path) : (type : CustomType) →
    Placeholder.ofDefinition path type.inline = Placeholder.ofType path type
  | ⟨_, definition, _, _⟩ => Definition.ofDefinition_inline path definition

/-- A definition has the placeholder of the definition without types. -/
theorem Definition.ofDefinition_inline (path : Path) : (definition : Definition) →
    Placeholder.ofDefinition path definition.inline = Placeholder.ofDefinition path definition
  | ⟨kind, notes⟩ => Kind.ofDefinition_inline path notes kind

/-- Properties have the placeholders of their definitions without types. -/
theorem Definition.ofProperties_inline (path : Path) : (properties : List (String × Definition)) →
    Placeholder.ofProperties path (Definition.inlineProperties properties) =
      Placeholder.ofProperties path properties
  | [] => rfl
  | (name, definition) :: rest => by
      rw [Definition.inlineProperties, Placeholder.ofProperties, Placeholder.ofProperties,
        Definition.ofDefinition_inline _ definition, Definition.ofProperties_inline path rest]

end

namespace ParameterSet

/-- The set with every definition without types. -/
def inline (set : ParameterSet) : ParameterSet :=
  { set with properties := set.properties.map Definition.inline }

/-- The objects with the parameters of a set are freed from types parameter by parameter. -/
theorem asObject_inline (set : ParameterSet) : set.asObject.inline = set.inline.asObject := by
  show Definition.ofKind (.typedObject (Definition.inlineProperties set.properties.entries)
    set.required none) = _
  rw [Definition.inlineProperties_eq]
  rfl

end ParameterSet

namespace ObjectPlaceholder

/-- The placeholder of a parameter set is that of the set without types. -/
theorem ofSet_inline (space name : String) (set : ParameterSet) :
    ofSet space name set.inline = ofSet space name set := by
  refine Placeholder.object.inj ?_
  rw [object_ofSet, object_ofSet, ← ParameterSet.asObject_inline]
  exact Definition.ofDefinition_inline _ _

end ObjectPlaceholder

end AppManifest
