import AppManifest.Placeholder

/-!
# Functions of an app

A function has an id, a source file, and the parameters that go into it and come out of it. Run as a
step of a workflow, its outputs are placeholders below `steps` (`AppFunction.stepOutputs`).
-/

namespace AppManifest

/-- A function that an app defines. -/
structure AppFunction where
  id : String
  title : String
  description : Option String := none
  sourceFile : String
  inputs : ParameterSet := .empty
  outputs : ParameterSet := .empty

namespace AppFunction

/-- Equality of functions. -/
def same (first second : AppFunction) : Bool :=
  first.id == second.id && first.title == second.title &&
    first.description == second.description && first.sourceFile == second.sourceFile &&
    first.inputs == second.inputs && first.outputs == second.outputs

instance : BEq AppFunction :=
  ⟨same⟩

/-- A function is equal to itself. -/
theorem same_self (function : AppFunction) : function.same function := by
  simp [same]

instance : ReflBEq AppFunction :=
  ⟨fun {function} => same_self function⟩

/-- The reference by which steps name the function. -/
def reference (function : AppFunction) : String :=
  Reference.ofFunction function.id

/-- The placeholders of the outputs of the function when it runs as a step. -/
def stepOutputs (function : AppFunction) (step : String) : ObjectPlaceholder :=
  .ofSet "steps" step function.outputs

/-- The function as it is written in a manifest. -/
def toJson (function : AppFunction) : Json :=
  .object (Json.member "description" (function.description.map .string) ++
    [("input_parameters", function.inputs.toJson), ("output_parameters", function.outputs.toJson),
      ("source_file", .string function.sourceFile), ("title", .string function.title)])

end AppFunction

end AppManifest
