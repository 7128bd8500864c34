import AppManifest.AppFunction
import AppManifest.Workflow.Input

/-!
# Steps of workflows

A step runs a function on named inputs. The function is one of the app, whose outputs are known, or
is named by a reference, and then nothing is known of its outputs.
-/

namespace AppManifest

/-- The function that a step runs. -/
inductive StepFunction where
  /-- A function of the app. -/
  | defined (function : AppFunction)
  /-- The function of an id of the app or of a reference. -/
  | named (reference : String)

namespace StepFunction

/-- The reference to the function. -/
def reference : StepFunction → String
  | .defined function => function.reference
  | .named reference => Reference.normalize reference

/-- The definition of the function, if it is one of the app. -/
def definition? : StepFunction → Option AppFunction
  | .defined function => some function
  | .named _ => none

end StepFunction

/-- A step of a workflow. -/
structure Step where
  id : String
  /-- The reference to the function. -/
  reference : String
  /-- The function, if it is one of the app. -/
  definition : Option AppFunction
  inputs : StepInputs
  /-- The placeholders of the outputs. -/
  outputs : ObjectPlaceholder

/-- What a workflow gives back for a step that it was given, for use in later steps. -/
structure StepHandle where
  id : String
  outputs : ObjectPlaceholder

namespace StepHandle

/-- The placeholder of an output. -/
def output (handle : StepHandle) (name : String) : Placeholder :=
  handle.outputs.get name

end StepHandle

namespace Step

/-- The step of an id that runs a function on these inputs. -/
def make (id : String) (function : StepFunction) (inputs : StepInputs) : Step where
  id := id
  reference := function.reference
  definition := function.definition?
  inputs := inputs
  outputs :=
    match function.definition? with
    | some definition => definition.stepOutputs id
    | none => .dynamic (.ofSegments ["steps", id])

/-- Equality of steps. -/
def same (first second : Step) : Bool :=
  first.id == second.id && first.reference == second.reference &&
    first.definition == second.definition && first.inputs == second.inputs &&
    first.outputs == second.outputs

instance : BEq Step :=
  ⟨same⟩

/-- A step is equal to itself. -/
theorem same_self (step : Step) : step.same step := by
  simp [same]

instance : ReflBEq Step :=
  ⟨fun {step} => same_self step⟩

/-- The handle of the step. -/
def handle (step : Step) : StepHandle :=
  ⟨step.id, step.outputs⟩

/-- The step refers to a function of the app. -/
def isLocal (step : Step) : Bool :=
  Reference.isLocalFunction step.reference

/-- The function that the step brings into a manifest, if it is one of the app. -/
def localFunction? (step : Step) : Option AppFunction :=
  if step.isLocal then step.definition else none

/-- The step as it is written in a manifest. -/
def toJson (step : Step) : Json :=
  .object [("function_id", .string step.reference), ("id", .string step.id),
    ("inputs", .ofTable (StepInputs.templatize step.inputs))]

end Step

end AppManifest
