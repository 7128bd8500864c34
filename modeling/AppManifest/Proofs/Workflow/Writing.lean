import AppManifest.Error
import AppManifest.Proofs.Json.Serial
import AppManifest.Proofs.Result
import AppManifest.Workflow.Basic

/-!
# Writing workflows

The inputs of a step are written one by one, and an input that cannot be written stops the workflow
with an error that names the workflow and the step (`Workflow.write`). However deep literals,
placeholders, lists and maps are nested, an input presents only names as keys: it is written, as its
wire form (`StepInput.write_serial`), and no workflow is stopped (`Workflow.write_eq`).
-/

namespace AppManifest

mutual

/-- What an input presents to be written. A placeholder presents its template. -/
def StepInput.serial : StepInput → Serial
  | .literal value => value.serial
  | .placeholder value => .string value.render
  | .list items => .list (StepInput.serialItems items)
  | .map entries => .map (StepInput.serialEntries entries)

/-- What a list of inputs presents to be written. -/
def StepInput.serialItems : List StepInput → List Serial
  | [] => []
  | item :: rest => item.serial :: StepInput.serialItems rest

/-- What named inputs present to be written. -/
def StepInput.serialEntries : List (String × StepInput) → List (Serial × Serial)
  | [] => []
  | (name, input) :: rest => (.string name, input.serial) :: StepInput.serialEntries rest

end

mutual

/-- An input is written as its wire form. -/
theorem StepInput.write_serial : (input : StepInput) → input.serial.write = .ok input.templatize
  | .literal value => value.write_serial
  | .placeholder _ => rfl
  | .list items => by
      rw [StepInput.serial, Serial.write, StepInput.write_serialItems items]
      rfl
  | .map entries => by
      rw [StepInput.serial, Serial.write, StepInput.write_serialEntries entries]
      rfl

/-- A list of inputs is written as the wire forms. -/
theorem StepInput.write_serialItems : (items : List StepInput) →
    Serial.writeItems (StepInput.serialItems items) = .ok (StepInput.templatizeItems items)
  | [] => rfl
  | item :: rest => by
      rw [StepInput.serialItems, Serial.writeItems, StepInput.write_serial item,
        StepInput.write_serialItems rest]
      rfl

/-- Named inputs are written as the wire forms. -/
theorem StepInput.write_serialEntries : (entries : List (String × StepInput)) →
    Serial.writeEntries (StepInput.serialEntries entries) =
      .ok (StepInput.templatizeEntries entries)
  | [] => rfl
  | (name, input) :: rest => by
      rw [StepInput.serialEntries, Serial.writeEntries, StepInput.write_serial input,
        StepInput.write_serialEntries rest]
      rfl

end

/-- The inputs as they are written, by name. -/
def StepInputs.write (inputs : StepInputs) : Except String (Entries Json) :=
  inputs.entries.mapM fun entry => do
    let value ← entry.2.serial.write
    return (entry.1, value)

/-- The step as it is written in a manifest, if its inputs can be written. -/
def Step.write (step : Step) : Except String Json := do
  let inputs ← StepInputs.write step.inputs
  return .object [("function_id", .string step.reference), ("id", .string step.id),
    ("inputs", .object inputs)]

/-- The workflow as it is written in a manifest, if its steps can be written. -/
def Workflow.write (workflow : Workflow) : Except ExportError Json := do
  let steps ← workflow.steps.mapM fun step =>
    step.write.mapError (.templatize workflow.id step.id)
  return .object (Json.member "description" (workflow.description.map .string) ++
    Workflow.parameterMember "input_parameters" workflow.inputParameters ++
    Workflow.parameterMember "output_parameters" workflow.outputParameters ++
    [("steps", .array steps), ("title", .string workflow.title)])

/-- All inputs of a step are written. -/
theorem StepInputs.write_eq (inputs : StepInputs) :
    inputs.write = .ok (StepInputs.templatize inputs).entries := by
  refine mapM_eq_ok (fun entry => ?_) inputs.entries
  rw [StepInput.write_serial]
  rfl

/-- Every step is written. -/
theorem Step.write_eq (step : Step) : step.write = .ok step.toJson := by
  rw [Step.write, StepInputs.write_eq]
  rfl

/-- Every workflow is written. -/
theorem Workflow.write_eq (workflow : Workflow) : workflow.write = .ok workflow.toJson := by
  have hsteps : (workflow.steps.mapM fun step =>
      step.write.mapError (ExportError.templatize workflow.id step.id)) =
      .ok (workflow.steps.map Step.toJson) :=
    mapM_eq_ok (fun step => by rw [Step.write_eq]; rfl) workflow.steps
  rw [Workflow.write, hsteps]
  rfl

end AppManifest
