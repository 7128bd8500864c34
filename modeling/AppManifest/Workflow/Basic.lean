import AppManifest.Event
import AppManifest.Workflow.Step

/-!
# Workflows

A workflow is a list of steps with parameters of its own. Its inputs are placeholders below
`inputs`, and each step's outputs are placeholders below `steps`, at the position of the step; put
into the inputs of later steps they wire the steps together. Steps are only ever appended
(`Workflow.addStep`).
-/

namespace AppManifest

/-- A workflow of an app. -/
structure Workflow where
  id : String
  title : String
  description : Option String
  inputParameters : ParameterSet
  outputParameters : ParameterSet
  /-- The placeholders of the inputs. -/
  inputs : ObjectPlaceholder
  steps : List Step

/-- What adding a step gives: the longer workflow, the handle of the step, and the event that
reports it. -/
structure StepAddition where
  workflow : Workflow
  handle : StepHandle
  event : Event

namespace Workflow

/-- A workflow without steps. -/
def make (id title : String) (description : Option String) (inputParameters : ParameterSet)
    (outputParameters : ParameterSet) : Workflow where
  id := id
  title := title
  description := description
  inputParameters := inputParameters
  outputParameters := outputParameters
  inputs := .ofSet "" "inputs" inputParameters
  steps := []

/-- Equality of workflows. -/
def same (first second : Workflow) : Bool :=
  first.id == second.id && first.title == second.title &&
    first.description == second.description &&
    first.inputParameters == second.inputParameters &&
    first.outputParameters == second.outputParameters && first.inputs == second.inputs &&
    first.steps == second.steps

instance : BEq Workflow :=
  ⟨same⟩

/-- A workflow is equal to itself. -/
theorem same_self (workflow : Workflow) : workflow.same workflow := by
  simp [same]

instance : ReflBEq Workflow :=
  ⟨fun {workflow} => same_self workflow⟩

/-- Appends a step. Its id is its position. -/
def addStep (workflow : Workflow) (function : StepFunction) (inputs : StepInputs) :
    StepAddition :=
  let step := Step.make (toString workflow.steps.length) function inputs
  { workflow := { workflow with steps := workflow.steps ++ [step] }
    handle := step.handle
    event := .stepAdded workflow.id step.id step.reference }

/-- Appends steps in order. The results are the longer workflow, the handles of the steps, and the
events that report them. -/
def addSteps (workflow : Workflow) :
    List (StepFunction × StepInputs) → Workflow × List StepHandle × List Event
  | [] => (workflow, [], [])
  | (function, inputs) :: rest =>
      let addition := workflow.addStep function inputs
      let (workflow, handles, events) := addition.workflow.addSteps rest
      (workflow, addition.handle :: handles, addition.event :: events)

/-- The functions of the app that the steps run, in order. -/
def localFunctions (workflow : Workflow) : List AppFunction :=
  workflow.steps.filterMap Step.localFunction?

/-- A parameter set as a member of a workflow; the set without parameters is left out. -/
def parameterMember (name : String) (set : ParameterSet) : Entries Json :=
  Json.member name (if set.isEmpty then none else some set.toJson)

/-- The workflow as it is written in a manifest. -/
def toJson (workflow : Workflow) : Json :=
  .object (Json.member "description" (workflow.description.map .string) ++
    parameterMember "input_parameters" workflow.inputParameters ++
    parameterMember "output_parameters" workflow.outputParameters ++
    [("steps", .array (workflow.steps.map Step.toJson)), ("title", .string workflow.title)])

end Workflow

end AppManifest
