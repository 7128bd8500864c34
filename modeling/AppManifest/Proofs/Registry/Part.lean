import AppManifest.Proofs.Definition.Nesting
import AppManifest.Proofs.Registry.EntitySet
import AppManifest.Registry.Operation

/-!
# Registering the parts of an app

A part is anything that is registered under an id of its kind. Whatever its kind, registering a part
whose id is taken adds at most an event that says whether it equals the part that has the id, and
registering one whose id is free inserts it and then registers the parts that it uses, in order
(`Registry.registerPart_of_taken`, `Registry.registerPart_of_free`). Every operation on a registry
registers some parts in order (`Registry.applyAll_eq`), so what holds of registering parts holds of
every run.
-/

namespace AppManifest

/-- Anything that is registered under an id of its kind. -/
inductive Part where
  | function (function : AppFunction)
  | type (type : CustomType)
  | workflow (workflow : Workflow)
  | datastore (datastore : Datastore)
  | provider (provider : Provider)

namespace Part

/-- The kind of a part. -/
def kind : Part → EntityKind
  | .function _ => .function
  | .type _ => .type
  | .workflow _ => .workflow
  | .datastore _ => .datastore
  | .provider _ => .provider

/-- The id of a part, under which no other part of its kind is registered. -/
def id : Part → String
  | .function entity => entity.id
  | .type entity => entity.id
  | .workflow entity => entity.id
  | .datastore entity => entity.name
  | .provider entity => entity.key

/-- Equality of parts of one kind. -/
def same : Part → Part → Bool
  | .function first, .function second => first == second
  | .type first, .type second => first == second
  | .workflow first, .workflow second => first == second
  | .datastore first, .datastore second => first == second
  | .provider first, .provider second => first == second
  | _, _ => false

/-- A part is equal to itself. -/
theorem same_self (part : Part) : part.same part = true := by
  cases part <;> exact BEq.rfl

/-- What becomes of a part whose id is taken by a part that is kept. -/
def verdict (kept part : Part) : Registration :=
  if kept.same part then .unchanged else .conflicting

/-- A part whose id is taken is not inserted. -/
theorem verdict_ne_inserted (kept part : Part) : kept.verdict part ≠ .inserted := by
  rw [verdict]
  split <;> decide

/-- The parts that a part uses itself, in the order in which they are registered. -/
def uses : Part → List Part
  | .function entity => entity.directTypes.map .type
  | .type entity => entity.definition.directTypes.map .type
  | .workflow entity => entity.localFunctions.map .function ++ entity.directTypes.map .type
  | .datastore entity => entity.directTypes.map .type
  | .provider _ => []

/-- Induction on what parts use: what holds of a part if it holds of the parts that it uses holds of
every part. -/
theorem usesInduction {motive : Part → Prop}
    (step : ∀ part : Part, (∀ used ∈ part.uses, motive used) → motive part) (part : Part) :
    motive part := by
  -- types go down by their nesting, functions use only types, and workflows use only both
  have types : ∀ types : List CustomType, ∀ used ∈ types.map Part.type, motive used := by
    intro types used hused
    obtain ⟨entity, -, rfl⟩ := List.mem_map.1 hused
    refine entity.nestedInduction fun entity ih => step _ fun used hused => ?_
    obtain ⟨nested, hnested, rfl⟩ := List.mem_map.1 hused
    exact ih nested hnested
  have functions : ∀ entity, motive (.function entity) := fun entity =>
    step _ (types entity.directTypes)
  cases part with
  | function entity => exact functions entity
  | type entity => exact types [entity] _ List.mem_cons_self
  | workflow entity =>
      refine step _ fun used hused => ?_
      rcases List.mem_append.1 hused with hused | hused
      · obtain ⟨callee, -, rfl⟩ := List.mem_map.1 hused
        exact functions callee
      · exact types entity.directTypes _ hused
  | datastore entity => exact step _ (types entity.directTypes)
  | provider entity => exact step _ fun used hused => by cases hused

end Part

namespace Registry

/-- The registry with one more event, if there is one. -/
def note (registry : Registry) (event? : Option Event) : Registry :=
  { registry with events := registry.events ++ event?.toList }

/-- The part is registered. -/
def Keeps (registry : Registry) : Part → Prop
  | .function function => function ∈ registry.functions.entries
  | .type type => type ∈ registry.types.entries
  | .workflow workflow => workflow ∈ registry.workflows.entries
  | .datastore datastore => datastore ∈ registry.datastores.entries
  | .provider provider => provider ∈ registry.providers.entries

/-- The id is taken by a part of the kind. -/
def isTaken (registry : Registry) : EntityKind → String → Bool
  | .function, id => registry.functions.contains id
  | .type, id => registry.types.contains id
  | .workflow, id => registry.workflows.contains id
  | .datastore, id => registry.datastores.contains id
  | .provider, id => registry.providers.contains id

/-- Inserts a part, without what it uses. -/
def insertPart (registry : Registry) : Part → Registration × Registry
  | .function function => registry.insertFunction function
  | .type type => registry.insertType type
  | .workflow workflow => registry.insertWorkflow workflow
  | .datastore datastore => registry.insertDatastore datastore
  | .provider provider => registry.insertProvider provider

/-- Registers a part. A provider that is rejected changes nothing. -/
def registerPart (registry : Registry) : Part → Registry
  | .function function => (registry.registerFunction function).2
  | .type type => (registry.registerType type).2
  | .workflow workflow => (registry.registerWorkflow workflow).2
  | .datastore datastore => (registry.registerDatastore datastore).2
  | .provider provider =>
      match registry.registerProvider provider with
      | .ok registry => registry
      | .error _ => registry

/-- Registers parts, in order. -/
def registerParts (registry : Registry) (parts : List Part) : Registry :=
  parts.foldl registerPart registry

@[simp]
theorem registerParts_nil (registry : Registry) : registry.registerParts [] = registry :=
  rfl

@[simp]
theorem registerParts_cons (registry : Registry) (part : Part) (parts : List Part) :
    registry.registerParts (part :: parts) =
      (registry.registerPart part).registerParts parts :=
  rfl

@[simp]
theorem registerParts_append (registry : Registry) (first second : List Part) :
    registry.registerParts (first ++ second) =
      (registry.registerParts first).registerParts second :=
  List.foldl_append

/-! ## Walks are registrations of parts -/

/-- Registering types is registering them as parts. -/
theorem registerTypes_eq (registry : Registry) (types : List CustomType) :
    registry.registerTypes types = registry.registerParts (types.map .type) := by
  rw [registerTypes, registerParts, List.foldl_map]
  rfl

mutual

/-- Walking a kind registers the types that occur directly in it. -/
theorem registerKind_eq (registry : Registry) :
    (kind : Kind) → registry.registerKind kind = registry.registerParts (kind.directTypes.map .type)
  | .primitive _ | .untypedObject => rfl
  | .typedObject properties _ _ => registerProperties_eq registry properties
  | .array items => registerDefinition_eq registry items
  | .custom _ => rfl

/-- Walking a definition registers the types that occur directly in it. -/
theorem registerDefinition_eq (registry : Registry) :
    (definition : Definition) → registry.registerDefinition definition =
      registry.registerParts (definition.directTypes.map .type)
  | ⟨kind, _⟩ => registerKind_eq registry kind

/-- Walking named definitions registers the types that occur directly in them. -/
theorem registerProperties_eq (registry : Registry) :
    (properties : List (String × Definition)) → registry.registerProperties properties =
      registry.registerParts ((Definition.propertyTypes properties).map .type)
  | [] => rfl
  | (_, definition) :: rest => by
      rw [registerProperties, registerDefinition_eq registry definition,
        registerProperties_eq _ rest, Definition.propertyTypes, List.map_append,
        registerParts_append]

end

/-- Walking a parameter set registers the types that occur directly in it. -/
theorem registerSet_eq (registry : Registry) (set : ParameterSet) :
    registry.registerSet set = registry.registerParts (set.directTypes.map .type) :=
  registerProperties_eq registry set.properties.entries

/-- Walking the parameters of a function registers the types that occur directly in them. -/
theorem registerFunctionTypes_eq (registry : Registry) (function : AppFunction) :
    registry.registerFunctionTypes function =
      registry.registerParts (function.directTypes.map .type) := by
  rw [registerFunctionTypes, registerSet_eq, registerSet_eq, AppFunction.directTypes,
    List.map_append, registerParts_append]

/-- Walking the parameters of a workflow registers the types that occur directly in them. -/
theorem registerWorkflowTypes_eq (registry : Registry) (workflow : Workflow) :
    registry.registerWorkflowTypes workflow =
      registry.registerParts (workflow.directTypes.map .type) := by
  rw [registerWorkflowTypes, registerSet_eq, registerSet_eq, Workflow.directTypes,
    List.map_append, registerParts_append]

/-- Walking the attributes of a datastore registers the types that occur directly in them. -/
theorem registerAttributeTypes_eq (registry : Registry) (datastore : Datastore) :
    registry.registerAttributeTypes datastore =
      registry.registerParts (datastore.directTypes.map .type) :=
  registerProperties_eq registry datastore.attributes.entries

/-- Walking the steps of a workflow registers their functions. -/
theorem registerStepFunctions_eq (registry : Registry) (workflow : Workflow) :
    registry.registerStepFunctions workflow =
      registry.registerParts (workflow.localFunctions.map .function) := by
  rw [registerStepFunctions, registerParts, List.foldl_map]
  rfl

/-- Registering a part inserts it and, if its id was free, registers the parts that it uses. A
provider is not even inserted if its key is taken. -/
theorem registerPart_eq (registry : Registry) (part : Part) :
    registry.registerPart part =
      if part.kind = .provider ∧ registry.isTaken .provider part.id then registry
      else if (registry.insertPart part).1 = .inserted then
        (registry.insertPart part).2.registerParts part.uses
      else (registry.insertPart part).2 := by
  cases part with
  | function entity =>
      rw [registerPart, registerFunction]
      simp only [registerFunctionTypes_eq]
      split <;> simp_all [Part.kind, insertPart, Part.uses]
  | type entity =>
      obtain ⟨id, definition, title, description⟩ := entity
      rw [registerPart, registerType]
      simp only [registerDefinition_eq]
      split <;> simp_all [Part.kind, insertPart, Part.uses]
  | workflow entity =>
      rw [registerPart, registerWorkflow]
      simp only [registerStepFunctions_eq, registerWorkflowTypes_eq]
      split <;> simp_all [Part.kind, insertPart, Part.uses]
  | datastore entity =>
      rw [registerPart, registerDatastore]
      simp only [registerAttributeTypes_eq]
      split <;> simp_all [Part.kind, insertPart, Part.uses]
  | provider entity =>
      rw [registerPart, registerProvider]
      by_cases h : registry.providers.contains entity.key = true
      · simp [h, Part.kind, isTaken, Part.id]
      · simp only [h, Part.kind, isTaken, Part.id, insertPart, Part.uses]
        split <;> simp_all

/-! ## Taken and free ids -/

/-- Every set of the registry is coherent. -/
structure Coherent (registry : Registry) : Prop where
  functions : registry.functions.Coherent
  types : registry.types.Coherent
  workflows : registry.workflows.Coherent
  datastores : registry.datastores.Coherent
  providers : registry.providers.Coherent

/-- The registry without definitions is coherent. -/
theorem Coherent.empty : Registry.empty.Coherent where
  functions := EntitySet.Coherent.empty
  types := EntitySet.Coherent.empty
  workflows := EntitySet.Coherent.empty
  datastores := EntitySet.Coherent.empty
  providers := EntitySet.Coherent.empty

/-- The registry with one more part and its event. -/
def keep (registry : Registry) (part : Part) : Registry :=
  let noted := registry.note (some (.registered part.kind part.id))
  match part with
  | .function entity => { noted with functions := registry.functions.append entity }
  | .type entity => { noted with types := registry.types.append entity }
  | .workflow entity => { noted with workflows := registry.workflows.append entity }
  | .datastore entity => { noted with datastores := registry.datastores.append entity }
  | .provider entity => { noted with providers := registry.providers.append entity }

/-- Inserting a part with a free id keeps it. -/
theorem insertPart_of_free {registry : Registry} {part : Part}
    (h : registry.isTaken part.kind part.id = false) :
    registry.insertPart part = (.inserted, registry.keep part) := by
  cases part with
  | function entity =>
      rw [insertPart, insertFunction, EntitySet.insert_of_free h]
      rfl
  | type entity =>
      rw [insertPart, insertType, EntitySet.insert_of_free h]
      rfl
  | workflow entity =>
      rw [insertPart, insertWorkflow, EntitySet.insert_of_free h]
      rfl
  | datastore entity =>
      rw [insertPart, insertDatastore, EntitySet.insert_of_free h]
      rfl
  | provider entity =>
      rw [insertPart, insertProvider, EntitySet.insert_of_free h]
      rfl

/-- Inserting a part with a taken id only reports how it compares with the part that has the id. -/
theorem insertPart_of_taken {registry : Registry} (hregistry : registry.Coherent) {part : Part}
    (h : registry.isTaken part.kind part.id = true) :
    ∃ kept : Part, registry.Keeps kept ∧ kept.kind = part.kind ∧ kept.id = part.id ∧
      registry.insertPart part =
        (kept.verdict part,
          registry.note (some ((kept.verdict part).event part.kind part.id))) := by
  cases part with
  | function entity =>
      obtain ⟨kept, hkept, hid, heq⟩ := EntitySet.insert_of_taken hregistry.functions h
      refine ⟨.function kept, hkept, rfl, hid, ?_⟩
      rw [insertPart, insertFunction, heq]
      rfl
  | type entity =>
      obtain ⟨kept, hkept, hid, heq⟩ := EntitySet.insert_of_taken hregistry.types h
      refine ⟨.type kept, hkept, rfl, hid, ?_⟩
      rw [insertPart, insertType, heq]
      rfl
  | workflow entity =>
      obtain ⟨kept, hkept, hid, heq⟩ := EntitySet.insert_of_taken hregistry.workflows h
      refine ⟨.workflow kept, hkept, rfl, hid, ?_⟩
      rw [insertPart, insertWorkflow, heq]
      rfl
  | datastore entity =>
      obtain ⟨kept, hkept, hid, heq⟩ := EntitySet.insert_of_taken hregistry.datastores h
      refine ⟨.datastore kept, hkept, rfl, hid, ?_⟩
      rw [insertPart, insertDatastore, heq]
      rfl
  | provider entity =>
      obtain ⟨kept, hkept, hid, heq⟩ := EntitySet.insert_of_taken hregistry.providers h
      refine ⟨.provider kept, hkept, rfl, hid, ?_⟩
      rw [insertPart, insertProvider, heq]
      rfl

/-- Registering a part with a free id keeps it and registers what it uses. -/
theorem registerPart_of_free {registry : Registry} {part : Part}
    (h : registry.isTaken part.kind part.id = false) :
    registry.registerPart part = (registry.keep part).registerParts part.uses := by
  have hprovider : ¬ (part.kind = .provider ∧ registry.isTaken .provider part.id = true) := by
    rintro ⟨hkind, htaken⟩
    rw [hkind, htaken] at h
    cases h
  rw [registerPart_eq, if_neg hprovider, insertPart_of_free h, if_pos rfl]

/-- Registering a part with a taken id only reports how it compares with the part that has the id,
and for a provider not even that. -/
theorem registerPart_of_taken {registry : Registry} (hregistry : registry.Coherent) {part : Part}
    (h : registry.isTaken part.kind part.id = true) :
    ∃ kept : Part, registry.Keeps kept ∧ kept.kind = part.kind ∧ kept.id = part.id ∧
      registry.registerPart part = registry.note
        (if part.kind = .provider then none
          else some ((kept.verdict part).event part.kind part.id)) := by
  obtain ⟨kept, hkept, hkind, hid, heq⟩ := insertPart_of_taken hregistry h
  refine ⟨kept, hkept, hkind, hid, ?_⟩
  rw [registerPart_eq, heq]
  by_cases hprovider : part.kind = .provider
  · rw [if_pos ⟨hprovider, hprovider ▸ h⟩, if_pos hprovider]
    simp [note]
  · rw [if_neg fun hrejected => hprovider hrejected.1, if_neg hprovider,
      if_neg (Part.verdict_ne_inserted kept part)]

/-- Events do not bear on which parts are registered. -/
@[simp]
theorem keeps_note {registry : Registry} {event? : Option Event} {part : Part} :
    (registry.note event?).Keeps part ↔ registry.Keeps part := by
  cases part <;> rfl

/-- Events do not bear on coherence. -/
theorem Coherent.note {registry : Registry} (h : registry.Coherent) (event? : Option Event) :
    (registry.note event?).Coherent :=
  ⟨h.functions, h.types, h.workflows, h.datastores, h.providers⟩

/-- Keeping a part adds just this part. -/
@[simp]
theorem keeps_keep {registry : Registry} {part other : Part} :
    (registry.keep part).Keeps other ↔ registry.Keeps other ∨ other = part := by
  cases part <;> cases other <;>
    simp [keep, note, Keeps, EntitySet.append]

/-- Keeping a part reports just that it was registered. -/
theorem events_keep (registry : Registry) (part : Part) :
    (registry.keep part).events = registry.events ++ [.registered part.kind part.id] := by
  cases part <;> rfl

/-- Keeping a part takes just its id. -/
theorem isTaken_keep {registry : Registry} {part : Part} {kind : EntityKind} {id : String} :
    (registry.keep part).isTaken kind id = true ↔
      registry.isTaken kind id = true ∨ (kind = part.kind ∧ id = part.id) := by
  cases part <;> cases kind <;>
    simp [keep, note, isTaken, EntitySet.contains_append, Part.kind, Part.id, Entity.id, or_comm]

/-- Keeping a part with a free id keeps a registry coherent. -/
theorem Coherent.keep {registry : Registry} (h : registry.Coherent) {part : Part}
    (hfree : registry.isTaken part.kind part.id = false) : (registry.keep part).Coherent := by
  cases part with
  | function entity => exact { h with functions := h.functions.append hfree }
  | type entity => exact { h with types := h.types.append hfree }
  | workflow entity => exact { h with workflows := h.workflows.append hfree }
  | datastore entity => exact { h with datastores := h.datastores.append hfree }
  | provider entity => exact { h with providers := h.providers.append hfree }

/-- In a coherent registry an id is taken exactly if a part of the kind is registered under it. -/
theorem Coherent.isTaken_iff {registry : Registry} (h : registry.Coherent) {kind : EntityKind}
    {id : String} :
    registry.isTaken kind id = true ↔
      ∃ part : Part, registry.Keeps part ∧ part.kind = kind ∧ part.id = id := by
  constructor
  · intro htaken
    cases kind with
    | function =>
        obtain ⟨entity, hentity, hid⟩ := List.mem_map.1 ((h.functions.contains_iff id).1 htaken)
        exact ⟨.function entity, hentity, rfl, hid⟩
    | type =>
        obtain ⟨entity, hentity, hid⟩ := List.mem_map.1 ((h.types.contains_iff id).1 htaken)
        exact ⟨.type entity, hentity, rfl, hid⟩
    | workflow =>
        obtain ⟨entity, hentity, hid⟩ := List.mem_map.1 ((h.workflows.contains_iff id).1 htaken)
        exact ⟨.workflow entity, hentity, rfl, hid⟩
    | datastore =>
        obtain ⟨entity, hentity, hid⟩ := List.mem_map.1 ((h.datastores.contains_iff id).1 htaken)
        exact ⟨.datastore entity, hentity, rfl, hid⟩
    | provider =>
        obtain ⟨entity, hentity, hid⟩ := List.mem_map.1 ((h.providers.contains_iff id).1 htaken)
        exact ⟨.provider entity, hentity, rfl, hid⟩
  · rintro ⟨part, hkeeps, rfl, rfl⟩
    cases part with
    | function entity => exact (h.functions.contains_iff _).2 (List.mem_map_of_mem hkeeps)
    | type entity => exact (h.types.contains_iff _).2 (List.mem_map_of_mem hkeeps)
    | workflow entity => exact (h.workflows.contains_iff _).2 (List.mem_map_of_mem hkeeps)
    | datastore entity => exact (h.datastores.contains_iff _).2 (List.mem_map_of_mem hkeeps)
    | provider entity => exact (h.providers.contains_iff _).2 (List.mem_map_of_mem hkeeps)

namespace Operation

/-- The parts that an operation registers itself, in order. -/
def parts : Operation → List Part
  | .function entity => [.function entity]
  | .type entity => [.type entity]
  | .types entities => entities.map .type
  | .workflow entity => [.workflow entity]
  | .datastore entity => [.datastore entity]
  | .provider entity => [.provider entity]
  | .set entity => entity.directTypes.map .type
  | .definition entity => entity.directTypes.map .type
  | .functionTypes entity => entity.directTypes.map .type
  | .nestedTypes entity => entity.definition.directTypes.map .type
  | .stepFunctions entity => entity.localFunctions.map .function
  | .workflowTypes entity => entity.directTypes.map .type
  | .attributeTypes entity => entity.directTypes.map .type

end Operation

/-- An operation registers its parts. -/
theorem apply_eq (registry : Registry) (operation : Operation) :
    (registry.apply operation).2 = registry.registerParts operation.parts := by
  cases operation with
  | function entity => rfl
  | type entity => rfl
  | types entities => exact registerTypes_eq registry entities
  | workflow entity => rfl
  | datastore entity => rfl
  | provider entity =>
      rw [apply, Operation.parts, registerParts_cons, registerParts_nil, registerPart]
      cases registry.registerProvider entity <;> rfl
  | set entity => exact registerSet_eq registry entity
  | definition entity => exact registerDefinition_eq registry entity
  | functionTypes entity => exact registerFunctionTypes_eq registry entity
  | nestedTypes entity => exact registerDefinition_eq registry entity.definition
  | stepFunctions entity => exact registerStepFunctions_eq registry entity
  | workflowTypes entity => exact registerWorkflowTypes_eq registry entity
  | attributeTypes entity => exact registerAttributeTypes_eq registry entity

/-- A sequence of operations registers the parts of each, in order. -/
theorem applyAll_eq (registry : Registry) (operations : List Operation) :
    registry.applyAll operations =
      registry.registerParts (operations.flatMap Operation.parts) := by
  induction operations generalizing registry with
  | nil => rfl
  | cons operation rest ih =>
      rw [List.flatMap_cons, registerParts_append, ← apply_eq, ← ih]
      rfl

end Registry

end AppManifest
