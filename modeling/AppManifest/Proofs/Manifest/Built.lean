import AppManifest.Proofs.Definition.Ordered
import AppManifest.Proofs.Registry.Part
import AppManifest.Proofs.Workflow.Steps

/-!
# Parts that builders make

A part is built (`Part.Built`) if names in it are listed in ascending order at every depth, and, for
a workflow, if its steps were added one by one. Builders make built parts: declaring parameters and
attributes and adding steps keep what they are given built.
-/

namespace AppManifest

/-- The definitions of the parameters are ordered. -/
def ParameterSet.Ordered (set : ParameterSet) : Prop :=
  Definition.AreOrdered set.properties.entries

mutual

/-- Names in the literals and maps of an input are listed in ascending order. -/
def StepInput.Ordered : StepInput → Prop
  | .literal value => value.Ordered
  | .placeholder _ => True
  | .list items => StepInput.AreOrdered items
  | .map entries => Entries.Ascending entries ∧ StepInput.EntriesAreOrdered entries

/-- Names in the literals and maps of some inputs are listed in ascending order. -/
def StepInput.AreOrdered : List StepInput → Prop
  | [] => True
  | item :: rest => item.Ordered ∧ StepInput.AreOrdered rest

/-- Names in the literals and maps of some named inputs are listed in ascending order. -/
def StepInput.EntriesAreOrdered : List (String × StepInput) → Prop
  | [] => True
  | (_, input) :: rest => input.Ordered ∧ StepInput.EntriesAreOrdered rest

end

/-- The inputs of a step are ordered. -/
def StepInputs.Ordered (inputs : StepInputs) : Prop :=
  ∀ name input, inputs.get? name = some input → input.Ordered

/-- The steps of the workflow were added one by one, so that each has its position as its id. -/
def Workflow.Numbered (workflow : Workflow) : Prop :=
  ∃ additions : List (StepFunction × StepInputs), workflow.steps = additions.mapIdx stepAt

/-- The parameters of the workflow and the inputs of its steps are ordered, and the steps were added
one by one. -/
structure Workflow.Built (workflow : Workflow) : Prop where
  inputs : workflow.inputParameters.Ordered
  outputs : workflow.outputParameters.Ordered
  steps : ∀ step ∈ workflow.steps, step.inputs.Ordered
  numbered : workflow.Numbered

/-- Names in the part are listed in ascending order at every depth, and the steps of a workflow were
added one by one. -/
def Part.Built : Part → Prop
  | .function entity => entity.inputs.Ordered ∧ entity.outputs.Ordered
  | .type entity => entity.definition.Ordered
  | .workflow entity => entity.Built
  | .datastore entity => Definition.AreOrdered entity.attributes.entries
  | .provider entity => entity.options.Ordered

/-! ## Written forms -/

/-- Ordered definitions of a table are written as ordered values. -/
theorem Definition.AreOrdered.schema {table : Table Definition}
    (h : Definition.AreOrdered table.entries) {name : String} {definition : Definition}
    (hdefinition : table.get? name = some definition) : definition.schema.Ordered :=
  Definition.Ordered.schema definition
    (Definition.areOrdered_iff.1 h _ (Table.get?_eq_some_iff.1 hdefinition))

/-- A type with an ordered definition is written as an ordered value. -/
theorem CustomType.ordered_schema {type : CustomType} (h : type.definition.Ordered) :
    type.schema.Ordered := by
  obtain ⟨id, ⟨kind, notes⟩, title, description⟩ := type
  rw [schema_eq]
  exact Definition.Ordered.schema _ ⟨h.1, h.2⟩

/-- The names of inputs are those of their wire forms. -/
theorem StepInput.templatizeEntries_eq (entries : List (String × StepInput)) :
    StepInput.templatizeEntries entries = Entries.mapValues StepInput.templatize entries := by
  induction entries with
  | nil => rfl
  | cons entry rest ih =>
      rw [templatizeEntries, ih]
      rfl

mutual

/-- The wire form of an ordered input is ordered. -/
theorem StepInput.Ordered.templatize :
    (input : StepInput) → input.Ordered → input.templatize.Ordered
  | .literal _, h => h
  | .placeholder value, _ => .string value.render
  | .list items, h => .array (StepInput.AreOrdered.templatizeItems items h)
  | .map entries, ⟨hascending, hentries⟩ => by
      have hwire := StepInput.EntriesAreOrdered.templatizeEntries entries hentries
      refine .object ?_ hwire
      rw [StepInput.templatizeEntries_eq]
      exact hascending.mapValues _

/-- The wire forms of ordered inputs are ordered. -/
theorem StepInput.AreOrdered.templatizeItems :
    (items : List StepInput) → StepInput.AreOrdered items →
      ∀ item ∈ StepInput.templatizeItems items, item.Ordered
  | [], _ => fun _ h => by cases h
  | item :: rest, ⟨hhead, hrest⟩ => by
      intro other hother
      rcases List.mem_cons.1 hother with rfl | hother
      · exact StepInput.Ordered.templatize item hhead
      · exact StepInput.AreOrdered.templatizeItems rest hrest other hother

/-- The wire forms of ordered named inputs are ordered. -/
theorem StepInput.EntriesAreOrdered.templatizeEntries :
    (entries : List (String × StepInput)) → StepInput.EntriesAreOrdered entries →
      ∀ entry ∈ StepInput.templatizeEntries entries, entry.2.Ordered
  | [], _ => fun _ h => by cases h
  | (_, input) :: rest, ⟨hhead, hrest⟩ => by
      intro other hother
      rcases List.mem_cons.1 hother with rfl | hother
      · exact StepInput.Ordered.templatize input hhead
      · exact StepInput.EntriesAreOrdered.templatizeEntries rest hrest other hother

end

/-! ## Builders -/

/-- What a link adds to a parameter set is ordered. -/
def ParameterSet.Link.Ordered : ParameterSet.Link → Prop
  | .property _ definition => definition.Ordered
  | .required _ => True

/-- The set without parameters is ordered. -/
theorem ParameterSet.Ordered.empty : ParameterSet.empty.Ordered :=
  trivial

/-- A chain of links that add something ordered leaves a parameter set ordered. -/
theorem ParameterSet.Ordered.applyAll {set : ParameterSet} {links : List ParameterSet.Link}
    (h : set.Ordered) (hlinks : ∀ link ∈ links, link.Ordered) : (set.applyAll links).Ordered := by
  induction links generalizing set with
  | nil => exact h
  | cons link rest ih =>
      refine ih ?_ fun other hother => hlinks other (List.mem_cons_of_mem _ hother)
      have hlink := hlinks link List.mem_cons_self
      cases link with
      | property name definition => exact Definition.areOrdered_insert h hlink
      | required names => exact h

/-- Declaring an ordered attribute leaves a datastore built. -/
theorem Datastore.built_withAttribute {datastore : Datastore} {definition : Definition}
    (h : (Part.datastore datastore).Built) (hdefinition : definition.Ordered) (name : String) :
    (Part.datastore (datastore.withAttribute name definition)).Built :=
  Definition.areOrdered_insert h hdefinition

/-- A workflow to whose ordered parameters ordered steps are added is built. -/
theorem Workflow.built_addSteps {id title : String} {description : Option String}
    {inputs outputs : ParameterSet} {additions : List (StepFunction × StepInputs)}
    (hinputs : inputs.Ordered) (houtputs : outputs.Ordered)
    (hadditions : ∀ addition ∈ additions, addition.2.Ordered) :
    ((make id title description inputs outputs).addSteps additions).1.Built := by
  rw [addSteps_make]
  refine ⟨hinputs, houtputs, fun step hstep => ?_, additions, rfl⟩
  obtain ⟨position, hposition, rfl⟩ := List.mem_mapIdx.1 hstep
  exact hadditions _ (List.getElem_mem hposition)

end AppManifest
