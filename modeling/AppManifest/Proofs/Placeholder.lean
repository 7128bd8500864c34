import AppManifest.Placeholder
import AppManifest.Proofs.Path

/-!
# Navigating placeholders

A chain of names is followed through a definition by going to declared properties, custom types
being replaced by their definitions (`Definition.follow?`). Navigating a placeholder fails exactly
if this comes to a primitive value or an array before the chain ends (`Definition.Blocks`);
otherwise it gives the placeholder of the definition that is reached, or of an object of which
nothing is declared, at the path of all names of the chain (`Placeholder.navigation_exact`). The
path does not depend on the definition.
-/

namespace AppManifest

mutual

/-- The kind that a kind stands for, a custom type standing for its definition. -/
def Kind.bare : Kind → Kind
  | .custom type => type.bare
  | kind => kind

/-- The kind that the definition of a custom type stands for. -/
def CustomType.bare : CustomType → Kind
  | ⟨_, definition, _, _⟩ => definition.bare

/-- The kind that a definition stands for. -/
def Definition.bare : Definition → Kind
  | ⟨kind, _⟩ => kind.bare

end

namespace Definition

/-- The definition of a declared property. -/
def property? (definition : Definition) (name : String) : Option Definition :=
  match definition.bare with
  | .typedObject properties _ _ => properties.lookup name
  | _ => none

/-- The values are primitive or arrays, so they have no properties that could be named. -/
def isLeaf (definition : Definition) : Bool :=
  match definition.bare with
  | .primitive _ | .array _ => true
  | _ => false

/-- The definition at the end of a chain of declared properties. -/
def follow? (definition : Definition) (names : List String) : Option Definition :=
  names.foldlM property? definition

/-- Followed through declared properties, a chain comes to a primitive value or an array before it
ends. -/
def Blocks (definition : Definition) (names : List String) : Prop :=
  ∃ front, front <+: names ∧ front ≠ names ∧
    ∃ reached, definition.follow? front = some reached ∧ reached.isLeaf = true

variable {definition : Definition} {name : String} {names : List String}

/-- Nothing comes before the end of the empty chain. -/
theorem not_blocks_nil (definition : Definition) : ¬ definition.Blocks [] := by
  rintro ⟨front, hprefix, hne, -⟩
  exact hne (List.prefix_nil.1 hprefix)

/-- A chain is followed by going to its first property and following the rest from there. -/
theorem follow?_cons (definition : Definition) (name : String) (names : List String) :
    definition.follow? (name :: names) = (definition.property? name).bind (·.follow? names) :=
  rfl

/-- A chain is blocked at once, or behind its first property. -/
theorem blocks_cons :
    definition.Blocks (name :: names) ↔ definition.isLeaf = true ∨
      ∃ inner, definition.property? name = some inner ∧ inner.Blocks names := by
  constructor
  · rintro ⟨front, hprefix, hne, reached, hreached, hleaf⟩
    cases front with
    | nil =>
        cases hreached
        exact .inl hleaf
    | cons head front =>
        obtain ⟨rfl, hrest⟩ := List.cons_prefix_cons.1 hprefix
        rw [follow?_cons, Option.bind_eq_some_iff] at hreached
        obtain ⟨inner, hinner, hreached⟩ := hreached
        exact .inr ⟨inner, hinner, front, hrest, fun heq => hne (heq ▸ rfl), reached, hreached,
          hleaf⟩
  · rintro (hleaf | ⟨inner, hinner, front, hprefix, hne, reached, hreached, hleaf⟩)
    · exact ⟨[], List.nil_prefix, List.cons_ne_nil _ _ ∘ Eq.symm, definition, rfl, hleaf⟩
    · refine ⟨name :: front, List.cons_prefix_cons.2 ⟨rfl, hprefix⟩,
        fun heq => hne (List.cons.inj heq).2, reached, ?_, hleaf⟩
      rw [follow?_cons, hinner, Option.bind_some, hreached]

end Definition

/-! ## One step -/

mutual

/-- A kind has the placeholder of the kind that it stands for. -/
theorem Kind.ofKind_bare (path : Path) :
    (kind : Kind) → Placeholder.ofKind path kind.bare = Placeholder.ofKind path kind
  | .custom type => type.ofKind_bare path
  | .primitive _ | .typedObject _ _ _ | .untypedObject | .array _ => rfl

/-- A custom type has the placeholder of the kind that it stands for. -/
theorem CustomType.ofKind_bare (path : Path) :
    (type : CustomType) → Placeholder.ofKind path type.bare = Placeholder.ofType path type
  | ⟨_, definition, _, _⟩ => definition.ofKind_bare path

/-- A definition has the placeholder of the kind that it stands for. -/
theorem Definition.ofKind_bare (path : Path) :
    (definition : Definition) →
      Placeholder.ofKind path definition.bare = Placeholder.ofDefinition path definition
  | ⟨kind, _⟩ => kind.ofKind_bare path

end

mutual

/-- No kind stands for a custom type. -/
theorem Kind.bare_ne_custom : (kind : Kind) → (type : CustomType) → kind.bare ≠ .custom type
  | .custom inner, type => inner.bare_ne_custom type
  | .primitive _, _ | .typedObject _ _ _, _ | .untypedObject, _ | .array _, _ => fun h => by cases h

/-- No custom type stands for a custom type. -/
theorem CustomType.bare_ne_custom : (inner type : CustomType) → inner.bare ≠ .custom type
  | ⟨_, definition, _, _⟩, type => definition.bare_ne_custom type

/-- No definition stands for a custom type. -/
theorem Definition.bare_ne_custom :
    (definition : Definition) → (type : CustomType) → definition.bare ≠ .custom type
  | ⟨kind, _⟩, type => kind.bare_ne_custom type

end

namespace Placeholder

/-- The placeholder at a path of the definition that a chain reached, or of an object of which
nothing is declared if it left the declared properties. -/
def ofReached (path : Path) : Option Definition → Placeholder
  | some definition => .ofDefinition path definition
  | none => .object (.dynamic path)

variable {path : Path} {definition : Definition} {name : String}

/-- What stands under a name among the placeholders of properties is that of the property. -/
theorem lookup_ofProperties (properties : List (String × Definition)) :
    (ofProperties path properties).lookup name =
      (properties.lookup name).map (ofDefinition (path.child name)) := by
  induction properties with
  | nil => rfl
  | cons entry rest ih =>
      rw [ofProperties, Entries.lookup_cons, Entries.lookup_cons, ih]
      split
      next h => rw [h]; rfl
      next => rfl

/-- The placeholder for what was reached is at the path. -/
theorem path_ofReached (path : Path) (reached? : Option Definition) :
    (ofReached path reached?).path = path := by
  cases reached? with
  | none => rfl
  | some definition =>
      rw [ofReached, ← Definition.ofKind_bare]
      cases hkind : definition.bare with
      | custom type => exact (definition.bare_ne_custom type hkind).elim
      | _ => rfl

/-- A leaf has no properties. -/
theorem get?_of_leaf (h : definition.isLeaf = true) (name : String) :
    (ofDefinition path definition).get? name = none := by
  rw [← Definition.ofKind_bare]
  rw [Definition.isLeaf] at h
  cases hkind : definition.bare with
  | custom type => exact (definition.bare_ne_custom type hkind).elim
  | primitive | array => rfl
  | typedObject | untypedObject =>
      rw [hkind] at h
      cases h

/-- Any other placeholder leads to that of a property one segment deeper, be it declared or not. -/
theorem get?_of_not_leaf (h : definition.isLeaf = false) (name : String) :
    (ofDefinition path definition).get? name =
      some (ofReached (path.child name) (definition.property? name)) := by
  rw [← Definition.ofKind_bare, Definition.property?]
  rw [Definition.isLeaf] at h
  cases hkind : definition.bare with
  | custom type => exact (definition.bare_ne_custom type hkind).elim
  | primitive | array =>
      rw [hkind] at h
      cases h
  | typedObject properties required additional =>
      show some (ObjectPlaceholder.get ⟨path, ofProperties path properties⟩ name) =
        some (ofReached (path.child name) (properties.lookup name))
      rw [ObjectPlaceholder.get, ObjectPlaceholder.declared?, lookup_ofProperties]
      cases properties.lookup name <;> rfl
  | untypedObject => rfl

/-- The first name of a chain leads to where the rest of it starts. -/
theorem at?_cons (placeholder : Placeholder) (name : String) (names : List String) :
    placeholder.at? (name :: names) = (placeholder.get? name).bind (·.at? names) :=
  rfl

/-! ## Chains -/

/-- From an object of which nothing is declared every chain leads to such an object. -/
theorem at?_dynamic (segments names : List String) :
    (object (.dynamic (.ofSegments segments))).at? names =
      some (.object (.dynamic (.ofSegments (segments ++ names)))) := by
  induction names generalizing segments with
  | nil => rw [List.append_nil]; rfl
  | cons name rest ih =>
      have hget : (object (.dynamic (.ofSegments segments))).get? name =
          some (.object (.dynamic (.ofSegments (segments ++ [name])))) := by
        rw [← Path.child_ofSegments]
        rfl
      rw [at?_cons, hget, Option.bind_some, ih, List.append_assoc, List.singleton_append]

/-- A chain that is blocked leads nowhere. -/
theorem at?_of_blocks {names : List String} (path : Path) (h : definition.Blocks names) :
    (ofDefinition path definition).at? names = none := by
  induction names generalizing path definition with
  | nil => exact (definition.not_blocks_nil h).elim
  | cons name rest ih =>
      rw [at?_cons]
      cases hleaf : definition.isLeaf with
      | true => rw [get?_of_leaf hleaf, Option.bind_none]
      | false =>
          obtain hleaf' | ⟨inner, hinner, hblocks⟩ := Definition.blocks_cons.1 h
          · cases hleaf.symm.trans hleaf'
          · rw [get?_of_not_leaf hleaf, hinner, Option.bind_some]
            exact ih _ hblocks

/-- A chain that is not blocked leads to the placeholder of what it reaches. -/
theorem at?_of_not_blocks {names : List String} (segments : List String)
    (h : ¬ definition.Blocks names) :
    (ofDefinition (.ofSegments segments) definition).at? names =
      some (ofReached (.ofSegments (segments ++ names)) (definition.follow? names)) := by
  induction names generalizing segments definition with
  | nil => rw [List.append_nil]; rfl
  | cons name rest ih =>
      rw [Definition.blocks_cons, not_or, Bool.not_eq_true] at h
      rw [at?_cons, get?_of_not_leaf h.1, Option.bind_some, Path.child_ofSegments,
        Definition.follow?_cons]
      cases hproperty : definition.property? name with
      | some inner =>
          have hinner : ¬ inner.Blocks rest := fun hblocks => h.2 ⟨inner, hproperty, hblocks⟩
          rw [Option.bind_some, ofReached, ih _ hinner, List.append_assoc, List.singleton_append]
      | none =>
          -- the chain leaves the declared properties and does not come back to them
          rw [Option.bind_none, ofReached, at?_dynamic, List.append_assoc, List.singleton_append,
            ofReached]

/-- Wherever a chain leads, it is to the path of all its names. -/
theorem path_of_at? {segments names : List String} {value : Placeholder}
    (h : (ofDefinition (.ofSegments segments) definition).at? names = some value) :
    value.path = .ofSegments (segments ++ names) := by
  by_cases hblocks : definition.Blocks names
  · cases (at?_of_blocks _ hblocks).symm.trans h
  · cases (at?_of_not_blocks segments hblocks).symm.trans h
    exact path_ofReached _ _

/-- What navigating a chain of names from the placeholder of a definition, under a name in a
namespace, comes to: nothing exactly if the chain is blocked, and otherwise the placeholder of what
the chain reaches, at the path of the namespace, the name and the chain. -/
structure Navigates (space name : String) (names : List String) (definition : Definition)
    (result : Option Placeholder) : Prop where
  none_iff : result = none ↔ definition.Blocks names
  some_iff : ∀ value, result = some value ↔ ¬ definition.Blocks names ∧
    value = ofReached (.ofSegments (space :: name :: names)) (definition.follow? names)
  path_eq : ∀ value, result = some value → value.path = .ofSegments (space :: name :: names)

/-- Navigating from the placeholder of a definition comes to what following the definition says. -/
theorem build_navigates (space name : String) (names : List String) (definition : Definition) :
    Navigates space name names definition ((build space name definition).at? names) := by
  by_cases hblocks : definition.Blocks names
  · have hat := at?_of_blocks (.ofSegments [space, name]) hblocks
    rw [build, hat]
    exact ⟨⟨fun _ => hblocks, fun _ => rfl⟩, fun _ => ⟨nofun, fun h => (h.1 hblocks).elim⟩, nofun⟩
  · have hat := at?_of_not_blocks [space, name] hblocks
    rw [build, hat]
    refine ⟨⟨nofun, fun h => (hblocks h).elim⟩, fun value => ?_, fun value h => ?_⟩
    · rw [Option.some.injEq, eq_comm]
      exact ⟨fun heq => ⟨hblocks, heq⟩, And.right⟩
    · cases h
      exact path_ofReached _ _

end Placeholder

/-! ## What makes no difference -/

mutual

/-- The kind with custom types replaced by their definitions, and without any word on required or
undeclared properties. -/
def Kind.skeleton : Kind → Kind
  | .primitive type => .primitive type
  | .typedObject properties _ _ => .typedObject (Definition.propertySkeletons properties) [] none
  | .untypedObject => .untypedObject
  | .array items => .array items.skeleton
  | .custom type => type.skeleton

/-- The skeleton of the definition of a custom type. -/
def CustomType.skeleton : CustomType → Kind
  | ⟨_, definition, _, _⟩ => definition.skeleton.kind

/-- The definition with the skeleton of its kind, without annotations. -/
def Definition.skeleton : Definition → Definition
  | ⟨kind, _⟩ => .ofKind kind.skeleton

/-- The skeletons of named definitions. -/
def Definition.propertySkeletons : List (String × Definition) → List (String × Definition)
  | [] => []
  | (name, definition) :: rest =>
      (name, definition.skeleton) :: Definition.propertySkeletons rest

end

/-- Wrapping a definition in a custom type keeps its skeleton. -/
@[simp]
theorem Definition.skeleton_custom (type : CustomType) (notes : Annotations) :
    (⟨.custom type, notes⟩ : Definition).skeleton = type.definition.skeleton := by
  obtain ⟨_, ⟨_, _⟩, _, _⟩ := type
  rfl

/-- Closing an object, or opening it, keeps its skeleton. -/
@[simp]
theorem Definition.skeleton_typedObject (properties : List (String × Definition))
    (required : List String) (additional : Option Bool) (notes : Annotations) :
    (⟨.typedObject properties required additional, notes⟩ : Definition).skeleton =
      .ofKind (.typedObject (propertySkeletons properties) [] none) :=
  rfl

mutual

/-- A kind has the placeholder of its skeleton. -/
theorem Kind.ofKind_skeleton (path : Path) :
    (kind : Kind) → Placeholder.ofKind path kind.skeleton = Placeholder.ofKind path kind
  | .typedObject properties _ _ =>
      congrArg (fun declared => Placeholder.object ⟨path, declared⟩)
        (Definition.ofProperties_skeletons path properties)
  | .custom type => type.ofKind_skeleton path
  | .primitive _ | .untypedObject | .array _ => rfl

/-- A custom type has the placeholder of its skeleton. -/
theorem CustomType.ofKind_skeleton (path : Path) :
    (type : CustomType) → Placeholder.ofKind path type.skeleton = Placeholder.ofType path type
  | ⟨_, ⟨kind, _⟩, _, _⟩ => kind.ofKind_skeleton path

/-- A definition has the placeholder of its skeleton. -/
theorem Definition.ofDefinition_skeleton (path : Path) :
    (definition : Definition) →
      Placeholder.ofDefinition path definition.skeleton = Placeholder.ofDefinition path definition
  | ⟨kind, _⟩ => kind.ofKind_skeleton path

/-- Properties have the placeholders of their skeletons. -/
theorem Definition.ofProperties_skeletons (path : Path) :
    (properties : List (String × Definition)) →
      Placeholder.ofProperties path (Definition.propertySkeletons properties) =
        Placeholder.ofProperties path properties
  | [] => rfl
  | (name, definition) :: rest => by
      rw [Definition.propertySkeletons, Placeholder.ofProperties, Placeholder.ofProperties,
        Definition.ofDefinition_skeleton _ definition, Definition.ofProperties_skeletons path rest]

end

/-- The objects that have the parameters of a set as their properties. -/
def ParameterSet.asObject (set : ParameterSet) : Definition :=
  .ofKind (.typedObject set.properties.entries set.required none)

namespace ObjectPlaceholder

/-- Navigating from an object is navigating from it as any placeholder. -/
theorem at?_eq (node : ObjectPlaceholder) (names : List String) :
    node.at? names = (Placeholder.object node).at? names := by
  cases names <;> rfl

/-- The placeholder of a parameter set is that of the objects with its parameters. -/
theorem object_ofSet (space name : String) (set : ParameterSet) :
    Placeholder.object (ofSet space name set) = .build space name set.asObject :=
  rfl

end ObjectPlaceholder

/-- Navigating from the placeholder of a parameter or of a parameter set comes to what following
the definition says, for any chain. Wherever the same chain leads somewhere for two definitions, it
leads to the same path; and it leads to the same placeholder if they have the same skeleton, so
neither wrapping definitions in types nor closing objects makes a difference. -/
theorem Placeholder.navigation_exact (space name : String) (names : List String) :
    (∀ definition, Navigates space name names definition
      ((build space name definition).at? names)) ∧
    (∀ set, Navigates space name names set.asObject
      ((ObjectPlaceholder.ofSet space name set).at? names)) ∧
    (∀ first second value other, (build space name first).at? names = some value →
      (build space name second).at? names = some other →
        value.path = other.path ∧ value.render = other.render) ∧
    ∀ first second : Definition, first.skeleton = second.skeleton →
      (build space name first).at? names = (build space name second).at? names := by
  have hbuild := build_navigates space name names
  refine ⟨hbuild, fun set => ?_, fun first second value other hvalue hother => ?_,
    fun first second hskeleton => ?_⟩
  · rw [ObjectPlaceholder.at?_eq, ObjectPlaceholder.object_ofSet]
    exact hbuild set.asObject
  · have hpath : value.path = other.path :=
      ((hbuild first).path_eq value hvalue).trans ((hbuild second).path_eq other hother).symm
    exact ⟨hpath, congrArg Path.render hpath⟩
  · rw [build, build, ← first.ofDefinition_skeleton, hskeleton, second.ofDefinition_skeleton]

end AppManifest
