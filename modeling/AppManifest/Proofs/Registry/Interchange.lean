import AppManifest.Proofs.Registry.Growth
import AppManifest.Proofs.Workflow.Substitution

/-!
# Registering interchangeable workflows

Registering a workflow depends on its id, and on the functions and types that it brings; what its
steps are given as inputs shows only where it is compared with another workflow of its id, and so
only in the log. Operations in which workflows are exchanged for interchangeable ones therefore lead
to registries with the same functions, types, datastores and providers, and with interchangeable
workflows (`Registry.Matches`, `Registry.applyAll_matches`).
-/

namespace AppManifest

/-- The parts are the same, or interchangeable workflows. -/
inductive Part.Interchangeable : Part → Part → Prop
  | refl (part : Part) : Interchangeable part part
  | workflow {first second : Workflow} :
      first.Interchangeable second → Interchangeable (.workflow first) (.workflow second)

namespace Part.Interchangeable

variable {first second : Part}

/-- Interchangeable parts are of one kind. -/
theorem kind_eq (h : first.Interchangeable second) : first.kind = second.kind := by
  cases h <;> rfl

/-- Interchangeable parts have the same id. -/
theorem id_eq (h : first.Interchangeable second) : first.id = second.id := by
  cases h with
  | refl => rfl
  | workflow h => exact h.id

/-- Interchangeable parts use the same parts. -/
theorem uses_eq (h : first.Interchangeable second) : first.uses = second.uses := by
  cases h with
  | refl => rfl
  | workflow h =>
      rw [Part.uses, Part.uses, Workflow.directTypes, Workflow.directTypes, h.localFunctions,
        h.inputParameters, h.outputParameters]

/-- Parts are interchangeable with themselves, one by one. -/
theorem refl_all (parts : List Part) : List.Forall₂ Interchangeable parts parts :=
  List.forall₂_same.2 fun part _ => .refl part

end Part.Interchangeable

namespace Registry

/-- The registries hold the same parts in the same order, up to interchangeable workflows. -/
structure Matches (first second : Registry) : Prop where
  functions : first.functions = second.functions
  types : first.types = second.types
  datastores : first.datastores = second.datastores
  providers : first.providers = second.providers
  ids : first.workflows.ids = second.workflows.ids
  workflows : List.Forall₂ Workflow.Interchangeable first.workflows.entries second.workflows.entries

variable {first second : Registry} {part other : Part}

/-- A registry matches itself. -/
theorem Matches.refl (registry : Registry) : registry.Matches registry :=
  ⟨rfl, rfl, rfl, rfl, rfl, List.forall₂_same.2 fun workflow _ => .refl workflow⟩

/-- The same ids are taken in registries that match. -/
theorem Matches.isTaken_eq (h : first.Matches second) (kind : EntityKind) (id : String) :
    first.isTaken kind id = second.isTaken kind id := by
  cases kind with
  | function => rw [isTaken, isTaken, h.functions]
  | type => rw [isTaken, isTaken, h.types]
  | workflow => rw [isTaken, isTaken, EntitySet.contains, EntitySet.contains, h.ids]
  | datastore => rw [isTaken, isTaken, h.datastores]
  | provider => rw [isTaken, isTaken, h.providers]

/-- Events do not bear on whether registries match. -/
theorem Matches.note (h : first.Matches second) (event? event?' : Option Event) :
    (first.note event?).Matches (second.note event?') :=
  ⟨h.functions, h.types, h.datastores, h.providers, h.ids, h.workflows⟩

/-- Registries that match still do with interchangeable parts added to them. -/
theorem Matches.keep (h : first.Matches second) (hpart : part.Interchangeable other) :
    (first.keep part).Matches (second.keep other) := by
  cases hpart with
  | refl part =>
      cases part with
      | function entity => exact { h with functions := congrArg (·.append entity) h.functions }
      | type entity => exact { h with types := congrArg (·.append entity) h.types }
      | workflow entity =>
          refine { h with ids := congrArg (·.insert entity.id) h.ids, workflows := ?_ }
          exact List.rel_append h.workflows (.cons (.refl entity) .nil)
      | datastore entity => exact { h with datastores := congrArg (·.append entity) h.datastores }
      | provider entity => exact { h with providers := congrArg (·.append entity) h.providers }
  | @workflow workflow rival hworkflow =>
      refine { h with ids := ?_, workflows := ?_ }
      · show first.workflows.ids.insert workflow.id = second.workflows.ids.insert rival.id
        rw [h.ids, hworkflow.id]
      · exact List.rel_append h.workflows (.cons hworkflow .nil)

/-- Registering parts one by one keeps registries matching if registering each of them does. -/
theorem Matches.registerParts_of {parts : List Part}
    (hparts : ∀ part ∈ parts, ∀ {first second : Registry}, first.Coherent → second.Coherent →
      first.Matches second → (first.registerPart part).Matches (second.registerPart part))
    (hfirst : first.Coherent) (hsecond : second.Coherent) (h : first.Matches second) :
    (first.registerParts parts).Matches (second.registerParts parts) := by
  induction parts generalizing first second with
  | nil => exact h
  | cons part rest ih =>
      obtain ⟨hpart, hrest⟩ := List.forall_mem_cons.1 hparts
      exact ih hrest (registerPart_grows part hfirst).coherent
        (registerPart_grows part hsecond).coherent (hpart hfirst hsecond h)

/-- Registering interchangeable parts keeps registries matching. -/
theorem Matches.registerPart (hpart : part.Interchangeable other) (hfirst : first.Coherent)
    (hsecond : second.Coherent) (h : first.Matches second) :
    (first.registerPart part).Matches (second.registerPart other) := by
  induction part using Part.usesInduction generalizing other first second with | step part ih
  cases htaken : first.isTaken part.kind part.id with
  | true =>
      have htaken' : second.isTaken other.kind other.id = true := by
        rw [← hpart.kind_eq, ← hpart.id_eq, ← h.isTaken_eq, htaken]
      obtain ⟨_, -, -, -, heq⟩ := registerPart_of_taken hfirst htaken
      obtain ⟨_, -, -, -, heq'⟩ := registerPart_of_taken hsecond htaken'
      rw [heq, heq']
      exact h.note _ _
  | false =>
      have htaken' : second.isTaken other.kind other.id = false := by
        rw [← hpart.kind_eq, ← hpart.id_eq, ← h.isTaken_eq, htaken]
      -- both use the same parts: interchangeable workflows are never used by another part
      rw [registerPart_of_free htaken, registerPart_of_free htaken', ← hpart.uses_eq]
      exact (h.keep hpart).registerParts_of (fun used hused _ _ => ih used hused (.refl used))
        (hfirst.keep htaken) (hsecond.keep htaken')

/-- Registering parts that are interchangeable one by one keeps registries matching. -/
theorem Matches.registerParts {parts others : List Part}
    (hparts : List.Forall₂ Part.Interchangeable parts others) (hfirst : first.Coherent)
    (hsecond : second.Coherent) (h : first.Matches second) :
    (first.registerParts parts).Matches (second.registerParts others) := by
  induction hparts generalizing first second with
  | nil => exact h
  | cons hpart _ ih =>
      exact ih (registerPart_grows _ hfirst).coherent (registerPart_grows _ hsecond).coherent
        (h.registerPart hpart hfirst hsecond)

/-- The operations are the same, or do the same with interchangeable workflows. -/
inductive Operation.Interchangeable : Operation → Operation → Prop
  | refl (operation : Operation) : Interchangeable operation operation
  | workflow {first second : Workflow} :
      first.Interchangeable second → Interchangeable (.workflow first) (.workflow second)
  | stepFunctions {first second : Workflow} :
      first.Interchangeable second → Interchangeable (.stepFunctions first) (.stepFunctions second)
  | workflowTypes {first second : Workflow} :
      first.Interchangeable second → Interchangeable (.workflowTypes first) (.workflowTypes second)

/-- Interchangeable operations register interchangeable parts. -/
theorem Operation.Interchangeable.parts {first second : Operation}
    (h : first.Interchangeable second) :
    List.Forall₂ Part.Interchangeable first.parts second.parts := by
  cases h with
  | refl operation => exact Part.Interchangeable.refl_all _
  | workflow h => exact .cons (.workflow h) .nil
  | stepFunctions h =>
      rw [Operation.parts, Operation.parts, h.localFunctions]
      exact Part.Interchangeable.refl_all _
  | workflowTypes h =>
      rw [Operation.parts, Operation.parts, Workflow.directTypes, Workflow.directTypes,
        h.inputParameters, h.outputParameters]
      exact Part.Interchangeable.refl_all _

/-- Runs of operations that are interchangeable one by one lead to registries that match. -/
theorem applyAll_matches {operations others : List Operation}
    (h : List.Forall₂ Operation.Interchangeable operations others) :
    (empty.applyAll operations).Matches (empty.applyAll others) := by
  have hparts : List.Forall₂ Part.Interchangeable (operations.flatMap Operation.parts)
      (others.flatMap Operation.parts) := by
    induction h with
    | nil => exact .nil
    | cons hoperation _ ih =>
        rw [List.flatMap_cons, List.flatMap_cons]
        exact List.rel_append hoperation.parts ih
  rw [applyAll_eq, applyAll_eq]
  exact (Matches.refl empty).registerParts hparts .empty .empty

/-- The sections of registries that match are the same. -/
theorem Matches.sections_eq (h : first.Matches second) : first.sections = second.sections := by
  have hworkflows : first.workflows.tabulate Workflow.toJson =
      second.workflows.tabulate Workflow.toJson := by
    rw [EntitySet.tabulate, EntitySet.tabulate]
    refine congrArg Table.ofList (map_eq_of_forall₂ ?_).symm
    exact h.workflows.imp fun workflow rival hmatch => Prod.ext hmatch.id.symm hmatch.toJson.symm
  rw [sections, sections, h.functions, h.types, h.datastores, h.providers, hworkflows]

end Registry

end AppManifest
