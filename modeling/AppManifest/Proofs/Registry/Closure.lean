import Mathlib.Order.Bounds.Basic
import AppManifest.Proofs.Manifest.Registration

/-!
# The registered types are the reachable ones

After any sequence of operations on a fresh registry the ids of the registered types form the least
set that holds the ids of all types that were given, that occur directly in what was walked or in a
registered function, workflow or datastore, and that occur directly in the definition of a
registered type (`Registry.registered_types_exact`). No exported reference to a custom type or to a
function of the app is therefore left without an entry.
-/

namespace AppManifest

namespace Registry

/-- The types that an operation is given, and those that occur directly in what it is given to
walk. -/
def Operation.passedTypes : Operation → List CustomType
  | .type entity => [entity]
  | .types entities => entities
  | .set entity => entity.directTypes
  | .definition entity => entity.directTypes
  | .functionTypes entity => entity.directTypes
  | .nestedTypes entity => entity.definition.directTypes
  | .workflowTypes entity => entity.directTypes
  | .attributeTypes entity => entity.directTypes
  | .function _ | .workflow _ | .datastore _ | .provider _ | .stepFunctions _ => []

/-- A set of ids holds those of all types that the operations call for, given what is
registered. -/
structure TypesClosed (operations : List Operation) (registry : Registry) (ids : Set String) :
    Prop where
  passed : ∀ operation ∈ operations, ∀ type ∈ operation.passedTypes, type.id ∈ ids
  functions : ∀ function ∈ registry.functions.entries, ∀ type ∈ function.directTypes, type.id ∈ ids
  workflows : ∀ workflow ∈ registry.workflows.entries, ∀ type ∈ workflow.directTypes, type.id ∈ ids
  datastores : ∀ datastore ∈ registry.datastores.entries, ∀ type ∈ datastore.directTypes,
    type.id ∈ ids
  nested : ∀ type ∈ registry.types.entries, type.id ∈ ids →
    ∀ nested ∈ type.definition.directTypes, nested.id ∈ ids

end Registry

namespace Sections

/-- There is an entry for the type that the text refers to. -/
def HasType (sections : Sections) (reference : String) : Prop :=
  ∃ id schema, reference = Reference.ofType id ∧ sections.types.get? id = some schema

/-- There is an entry for the function that the text refers to. -/
def HasFunction (sections : Sections) (reference : String) : Prop :=
  ∃ id json, reference = Reference.ofFunction id ∧ sections.functions.get? id = some json

end Sections

namespace Registry

/-- Every reference that the registered definitions write to a custom type, or for a step to a
function of the app, has an entry in the sections. -/
structure ReferencesKept (registry : Registry) (sections : Sections) : Prop where
  functions : ∀ function ∈ registry.functions.entries, ∀ type ∈ function.directTypes,
    sections.HasType type.reference
  types : ∀ type ∈ registry.types.entries, ∀ nested ∈ type.definition.directTypes,
    sections.HasType nested.reference
  workflows : ∀ workflow ∈ registry.workflows.entries, ∀ type ∈ workflow.directTypes,
    sections.HasType type.reference
  datastores : ∀ datastore ∈ registry.datastores.entries, ∀ type ∈ datastore.directTypes,
    sections.HasType type.reference
  steps : ∀ workflow ∈ registry.workflows.entries, ∀ id function inputs,
    Step.make id (.defined function) inputs ∈ workflow.steps →
      sections.HasFunction (Step.make id (.defined function) inputs).reference

variable {registry : Registry} {parts : List Part}

/-- An operation registers just the types that it is given or walks into. -/
theorem Operation.type_mem_parts {operation : Operation} {type : CustomType} :
    .type type ∈ operation.parts ↔ type ∈ operation.passedTypes := by
  cases operation <;> simp [parts, passedTypes]

/-- A set of ids that is closed holds the id of every type that is reached. -/
theorem TypesClosed.mem_of_reaches {operations : List Operation} {ids : Set String}
    (h : TypesClosed operations registry ids) {type : CustomType}
    (hreaches : registry.Reaches (operations.flatMap Operation.parts) (.type type)) :
    type.id ∈ ids := by
  -- the induction is on how the part was reached, so the part is a variable
  suffices ∀ part, registry.Reaches (operations.flatMap Operation.parts) part →
      ∀ type, part = .type type → type.id ∈ ids from
    this _ hreaches _ rfl
  intro part hreaches
  induction hreaches with
  | given hmem =>
      rintro type rfl
      obtain ⟨operation, hoperation, hpart⟩ := List.mem_flatMap.1 hmem
      exact h.passed operation hoperation type (Operation.type_mem_parts.1 hpart)
  | @used part _ _ hkeeps hused ih =>
      rintro type rfl
      cases part with
      | function entity => exact h.functions entity hkeeps type (by simpa [Part.uses] using hused)
      | type entity =>
          exact h.nested entity hkeeps (ih entity rfl) type (by simpa [Part.uses] using hused)
      | workflow entity => exact h.workflows entity hkeeps type (by simpa [Part.uses] using hused)
      | datastore entity => exact h.datastores entity hkeeps type (by simpa [Part.uses] using hused)
      | provider entity => cases hused

/-- The ids of the registered types are closed. -/
theorem Grows.typesClosed {operations : List Operation}
    (h : Grows (operations.flatMap Operation.parts) .empty registry) :
    TypesClosed operations registry {id | registry.hasType id = true} where
  passed operation hoperation type htype :=
    h.covers (.type type)
      (List.mem_flatMap.2 ⟨operation, hoperation, Operation.type_mem_parts.2 htype⟩)
  functions function hfunction type htype :=
    h.settled (.function function) (.type type) hfunction
      (List.mem_map_of_mem htype)
  workflows workflow hworkflow type htype :=
    h.settled (.workflow workflow) (.type type) hworkflow
      (List.mem_append_right _ (List.mem_map_of_mem htype))
  datastores datastore hdatastore type htype :=
    h.settled (.datastore datastore) (.type type) hdatastore
      (List.mem_map_of_mem htype)
  nested type htype _ nested hnested :=
    h.settled (.type type) (.type nested) htype (List.mem_map_of_mem hnested)

/-- A registered type is written. -/
theorem Coherent.hasType (h : registry.Coherent) {type : CustomType}
    (htaken : registry.isTaken .type type.id = true) :
    registry.sections.HasType type.reference := by
  obtain ⟨kept, hkept, hid⟩ := List.mem_map.1 ((h.types.contains_iff type.id).1 htaken)
  exact ⟨type.id, kept.schema, rfl,
    (h.types.get?_tabulate_eq_some_iff CustomType.schema).2 ⟨kept, hkept, hid, rfl⟩⟩

/-- A registered function is written. -/
theorem Coherent.hasFunction (h : registry.Coherent) {function : AppFunction}
    (htaken : registry.isTaken .function function.id = true) :
    registry.sections.HasFunction function.reference := by
  obtain ⟨kept, hkept, hid⟩ := List.mem_map.1 ((h.functions.contains_iff function.id).1 htaken)
  exact ⟨function.id, kept.toJson, rfl,
    (h.functions.get?_tabulate_eq_some_iff AppFunction.toJson).2 ⟨kept, hkept, hid, rfl⟩⟩

/-- The functions of the steps of a registered workflow are registered. -/
theorem Grows.stepFunction_taken (h : Grows parts .empty registry) {workflow : Workflow}
    (hworkflow : workflow ∈ registry.workflows.entries) {function : AppFunction}
    (hfunction : function ∈ workflow.localFunctions) :
    registry.isTaken .function function.id = true :=
  h.settled (.workflow workflow) (.function function) hworkflow
    (List.mem_append_left _ (List.mem_map_of_mem hfunction))

/-- A step that is made for a function of the app refers to it. -/
theorem localFunction?_make (id : String) (function : AppFunction) (inputs : StepInputs) :
    (Step.make id (.defined function) inputs).localFunction? = some function := by
  have hlocal : (Step.make id (.defined function) inputs).isLocal = true := by
    simp [Step.isLocal, Step.make, StepFunction.reference, AppFunction.reference,
      Reference.ofFunction, Reference.isLocalFunction]
  rw [Step.localFunction?, if_pos hlocal]
  rfl

/-- Every reference that the registered definitions write has an entry. -/
theorem Grows.referencesKept (h : Grows parts .empty registry) :
    registry.ReferencesKept registry.sections where
  functions function hfunction type htype :=
    h.coherent.hasType (h.settled (.function function) (.type type) hfunction
      (List.mem_map_of_mem htype))
  types type htype nested hnested :=
    h.coherent.hasType (h.settled (.type type) (.type nested) htype
      (List.mem_map_of_mem hnested))
  workflows workflow hworkflow type htype :=
    h.coherent.hasType (h.settled (.workflow workflow) (.type type) hworkflow
      (List.mem_append_right _ (List.mem_map_of_mem htype)))
  datastores datastore hdatastore type htype :=
    h.coherent.hasType (h.settled (.datastore datastore) (.type type) hdatastore
      (List.mem_map_of_mem htype))
  steps _ hworkflow id function inputs hstep :=
    h.coherent.hasFunction (h.stepFunction_taken hworkflow
      (List.mem_filterMap.2 ⟨_, hstep, localFunction?_make id function inputs⟩))

/-- After any operations on a fresh registry the ids of the registered types form the least closed
set, the functions of the steps of registered workflows are registered, and every reference that is
written has an entry. The last holds of every exported manifest as well. -/
theorem registered_types_exact (operations : List Operation) :
    let registry := Registry.empty.applyAll operations
    IsLeast {ids | TypesClosed operations registry ids} {id | registry.hasType id = true} ∧
      (∀ workflow ∈ registry.workflows.entries, ∀ function ∈ workflow.localFunctions,
        registry.hasFunction function.id = true) ∧
      registry.ReferencesKept registry.sections ∧
      ∀ (manifest : Manifest) (document : Document), manifest.compile.result = .ok document →
        manifest.registerAll.1.ReferencesKept document.sections := by
  have hgrows := registerParts_grows (operations.flatMap Operation.parts) Coherent.empty
  rw [← applyAll_eq] at hgrows
  refine ⟨⟨hgrows.typesClosed, fun ids hids id hid => ?_⟩,
    fun _ hworkflow _ hfunction => hgrows.stepFunction_taken hworkflow hfunction,
    hgrows.referencesKept, fun manifest document hdocument => ?_⟩
  · have htaken : (Registry.empty.applyAll operations).isTaken .type id = true := hid
    obtain ⟨part, hkeeps, hkind, rfl⟩ := hgrows.coherent.isTaken_iff.1 htaken
    cases part <;> cases hkind
    exact hids.mem_of_reaches (hgrows.reached hkeeps)
  · rw [Manifest.registerAll_of_compile hdocument, Manifest.eq_of_compile hdocument]
    exact (registerParts_grows manifest.parts Coherent.empty).referencesKept

end Registry

end AppManifest
