import AppManifest.Proofs.Definition.Export
import AppManifest.Proofs.Description.Document
import AppManifest.Proofs.Manifest.Built

/-!
# Descriptions of what is registered

What a registry holds can be described: each definition by the schema that a manifest writes for it,
each step by its reference and the wire forms of its inputs. Schemas that are written are in normal
form, so the normal form of the description has the sections of the registry
(`Registry.sections_normalForm_describe`).
-/

namespace AppManifest

/-- A parameter set as it is described. -/
def ParameterSet.describe (set : ParameterSet) : ParameterSetDescription where
  properties := set.properties.map Definition.schema
  required := set.required

/-- A parameter set of a workflow as it is described: the set without parameters is left out. -/
def ParameterSet.describeMember (set : ParameterSet) : ParameterSetDescription :=
  if set.isEmpty then {} else set.describe

/-- A function as it is described. -/
def AppFunction.describe (function : AppFunction) : FunctionDescription where
  title := function.title
  description := function.description
  sourceFile := function.sourceFile
  inputs := function.inputs.describe
  outputs := function.outputs.describe

/-- A step as it is described. -/
def Step.describe (step : Step) : StepDescription where
  function := step.reference
  inputs := StepInputs.templatize step.inputs

/-- A workflow as it is described. -/
def Workflow.describe (workflow : Workflow) : WorkflowDescription where
  title := workflow.title
  description := workflow.description
  inputs := workflow.inputParameters.describeMember
  outputs := workflow.outputParameters.describeMember
  steps := workflow.steps.map Step.describe

/-- A datastore as it is described. -/
def Datastore.describe (datastore : Datastore) : DatastoreDescription where
  primaryKey := datastore.primaryKey
  attributes := datastore.attributes.map Definition.schema

/-- A provider as it is described. -/
def Provider.describe (provider : Provider) : ProviderDescription where
  type := provider.type
  options := provider.options

/-- The description, under a name, of an app of what is registered. -/
def Registry.describe (registry : Registry) (name : String) : AppDescription where
  name := name
  types := registry.types.table.map CustomType.schema
  functions := registry.functions.table.map AppFunction.describe
  workflows := registry.workflows.table.map Workflow.describe
  datastores := registry.datastores.table.map Datastore.describe
  providers :=
    if registry.providers.entries.isEmpty then none
    else some ⟨registry.providers.table.map Provider.describe⟩

/-- The described parameters are those of the set, whether or not there are any. -/
theorem ParameterSet.properties_describeMember (set : ParameterSet) :
    set.describeMember.properties = set.properties.map Definition.schema := by
  rw [describeMember]
  split
  next hempty =>
    refine Table.ext_entries ?_
    show [] = Entries.mapValues Definition.schema set.properties.entries
    rw [List.isEmpty_iff.1 hempty]
    rfl
  next => rfl

/-! ## Normal forms -/

/-- The schema of a custom type is in normal form. -/
theorem CustomType.normalForm_schema (type : CustomType) :
    type.schema.normalForm = type.schema := by
  rw [schema_eq, Definition.normalForm_schema]

/-- The schemas of named definitions are in normal form. -/
theorem Definition.map_normalForm_schema (table : Table Definition) :
    (table.map Definition.schema).map Json.normalForm = table.map Definition.schema := by
  rw [Table.map_map]
  exact Table.map_congr fun _ definition _ => definition.normalForm_schema

/-- The reference of a step is in full. -/
theorem StepFunction.normalize_reference (function : StepFunction) :
    Reference.normalize function.reference = function.reference := by
  cases function with
  | defined function => exact Reference.normalize_ofFunction function.id
  | named text => exact Reference.normalize_normalize text

/-- The normal form of a described parameter set is what is written for the set. -/
theorem ParameterSet.normalForm_describe (set : ParameterSet) :
    set.describe.normalForm = set.toJson := by
  rw [ParameterSetDescription.normalForm_eq, describe, Definition.map_normalForm_schema, toJson]

/-- The normal form of a described parameter set of a workflow is the member that is written for the
set. -/
theorem ParameterSet.member_describeMember (set : ParameterSet) (name : String) :
    Json.member name set.describeMember.normalForm? = Workflow.parameterMember name set := by
  rw [ParameterSetDescription.normalForm?_eq, Workflow.parameterMember, describeMember]
  split
  next hempty => rfl
  next hsome =>
    have hproperties : set.describe.properties.isEmpty = false := by
      rw [describe, Table.isEmpty_map]
      exact Bool.eq_false_iff.2 hsome
    rw [normalForm_describe, hproperties]
    rfl

/-- The normal form of a described function is what is written for the function. -/
theorem AppFunction.normalForm_describe (function : AppFunction) :
    function.describe.normalForm = function.toJson := by
  rw [FunctionDescription.normalForm_eq, describe, ParameterSet.normalForm_describe,
    ParameterSet.normalForm_describe, toJson]

/-- The normal form of the described step at a position is what is written for the step. -/
theorem Workflow.normalForm_describe_stepAt (position : Nat)
    (addition : StepFunction × StepInputs) :
    (stepAt position addition).describe.normalForm position =
      (stepAt position addition).toJson := by
  rw [StepDescription.normalForm_eq, Step.describe, Step.toJson]
  dsimp only [stepAt, Step.make]
  rw [StepFunction.normalize_reference]

/-- The normal form of a described workflow is what is written for the workflow. -/
theorem Workflow.Numbered.normalForm_describe {workflow : Workflow} (h : workflow.Numbered) :
    workflow.describe.normalForm = workflow.toJson := by
  obtain ⟨additions, hadditions⟩ := h
  have hsteps : (workflow.steps.map Step.describe).mapIdx StepDescription.normalForm =
      workflow.steps.map Step.toJson := by
    rw [hadditions]
    refine List.ext_getElem (by simp) fun position _ _ => ?_
    simp [Workflow.normalForm_describe_stepAt]
  rw [WorkflowDescription.normalForm_eq, describe, toJson]
  dsimp only
  rw [hsteps, ParameterSet.member_describeMember, ParameterSet.member_describeMember]

/-- The normal form of a described datastore is what is written for the datastore. -/
theorem Datastore.normalForm_describe (datastore : Datastore) :
    datastore.describe.normalForm = datastore.toJson := by
  rw [DatastoreDescription.normalForm_eq, describe, Definition.map_normalForm_schema, toJson]

namespace Registry

variable {registry : Registry}

/-- The normal form of the description of what is registered has the sections of the registry. -/
theorem sections_normalForm_describe (h : registry.Coherent)
    (hworkflows : ∀ workflow ∈ registry.workflows.entries, workflow.Numbered) (name : String) :
    (registry.describe name).normalForm.sections = registry.sections := by
  have hnumbered : (registry.workflows.table.map Workflow.describe).map
      WorkflowDescription.normalForm = registry.workflows.table.map Workflow.toJson := by
    rw [Table.map_map]
    exact Table.map_congr fun id workflow hworkflow =>
      (hworkflows workflow (h.workflows.get?_table_eq_some_iff.1 hworkflow).1).normalForm_describe
  have hfunctions : FunctionDescription.normalForm ∘ AppFunction.describe = AppFunction.toJson :=
    funext AppFunction.normalForm_describe
  have htypes : Json.normalForm ∘ CustomType.schema = CustomType.schema :=
    funext CustomType.normalForm_schema
  have hdatastores : DatastoreDescription.normalForm ∘ Datastore.describe = Datastore.toJson :=
    funext Datastore.normalForm_describe
  have hproviders : (if (registry.describe name).providerTable.isEmpty then none else
      some ((registry.describe name).providerTable.map ProviderDescription.normalForm)) =
      if registry.providers.entries.isEmpty then none
      else some (registry.providers.tabulate Provider.toJson) := by
    rw [AppDescription.providerTable, describe]
    cases hempty : registry.providers.entries.isEmpty with
    | true => rfl
    | false =>
        simp only [Bool.false_eq_true, if_false, Option.map_some, Option.getD_some,
          Table.isEmpty_map, h.providers.isEmpty_table, hempty, Table.map_map,
          EntitySet.tabulate_eq]
        rfl
  rw [AppDescription.normalForm, sections]
  simp only [hproviders, EntitySet.tabulate_eq]
  simp only [describe, hnumbered, Table.map_map, hfunctions, htypes, hdatastores]

end Registry

end AppManifest
