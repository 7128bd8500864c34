import AppManifest.Proofs.Description.Compilation
import AppManifest.Proofs.Workflow.Wiring

/-!
# References of steps

Which function a text names is decided in several places: when a step is made of the text, when the
step is looked at, and when a description is converted. All of them agree, for every text, and a
step of a converted app refers to its function as its text alone does: only the placeholders of its
outputs depend on whether the app declares the function (`StepDescription.references_agree`).
-/

namespace AppManifest

namespace StepDescription

variable {functions : List AppFunction} {description : StepDescription}

/-- A step runs the function of the app that its reference names, if there is one. -/
theorem stepFunction_of_declared {id : String}
    (hid : Reference.functionId? description.function = some id)
    (h : id ∈ functions.map AppFunction.id) :
    ∃ function ∈ functions, function.id = id ∧
      description.stepFunction functions = .defined function := by
  obtain ⟨declared, hdeclared, rfl⟩ := List.mem_map.1 h
  obtain ⟨function, hfind⟩ : ∃ function,
      functions.find? (fun function => function.id == declared.id) = some function :=
    Option.isSome_iff_exists.1 (List.find?_isSome.2 ⟨declared, hdeclared, beq_self_eq_true _⟩)
  have hfound : function.id = declared.id := by simpa using List.find?_some hfind
  refine ⟨function, List.mem_of_find?_eq_some hfind, hfound, ?_⟩
  rw [stepFunction, hid]
  simp only [Option.bind_some, hfind]

/-- A step is left as a reference if the app has no function that it names. -/
theorem stepFunction_of_undeclared
    (h : ∀ id ∈ functions.map AppFunction.id,
      Reference.functionId? description.function ≠ some id) :
    description.stepFunction functions = .named description.function := by
  have hnone : ((Reference.functionId? description.function).bind fun id =>
      functions.find? fun function => function.id == id) = none := by
    rw [Option.bind_eq_none_iff]
    intro id hid
    rw [List.find?_eq_none]
    intro function hfunction heq
    exact h id (List.mem_map.2 ⟨function, hfunction, by simpa using heq⟩) hid
  rw [stepFunction, hnone]

/-- The step that stands at a position refers to its function as the step that is made of the text
alone does. Its outputs are those of the declared function that the text names; if the text names
none, nothing is declared of them. -/
structure RefersAt (description : StepDescription) (functions : List AppFunction) (position : Nat)
    (step : Step) : Prop where
  reference : step.reference =
    (Step.make (toString position) (.named description.function) step.inputs).reference
  declared : ∀ id ∈ functions.map AppFunction.id,
    Reference.functionId? description.function = some id →
      ∃ function ∈ functions, function.id = id ∧
        step.outputs = function.stepOutputs (toString position)
  undeclared : (∀ id ∈ functions.map AppFunction.id,
    Reference.functionId? description.function ≠ some id) →
      step.outputs = .dynamic ⟨"steps." ++ toString position⟩

/-- The step that is added at a position for a description refers to its function so. -/
theorem refersAt_stepAt (description : StepDescription) (functions : List AppFunction)
    (position : Nat) :
    description.RefersAt functions position
      (Workflow.stepAt position (description.toStep functions)) where
  reference := description.reference_stepFunction functions
  declared id hmem hid := by
    obtain ⟨function, hfunction, heq, hdefined⟩ := stepFunction_of_declared hid hmem
    refine ⟨function, hfunction, heq, ?_⟩
    show (Step.make _ (description.stepFunction functions) _).outputs = _
    rw [hdefined]
    rfl
  undeclared hnone := by
    show (Step.make _ (description.stepFunction functions) _).outputs = _
    rw [stepFunction_of_undeclared hnone]
    exact congrArg ObjectPlaceholder.dynamic (Path.ofSegments_step position)

end StepDescription

/-- The workflow has a step for each one that is described, in order, and no other, and each refers
to its function as its text alone does. -/
structure WorkflowDescription.RefersAlike (description : WorkflowDescription)
    (functions : List AppFunction) (workflow : Workflow) : Prop where
  length : workflow.steps.length = description.steps.length
  steps : ∀ (position : Nat) (step : Step) (text : StepDescription),
    workflow.steps[position]? = some step → description.steps[position]? = some text →
      text.RefersAt functions position step

/-- The steps of a declared workflow refer to their functions as their texts alone do. -/
theorem WorkflowDescription.Declares.refersAlike {schemas : Table Schema}
    {functions : List AppFunction} {id : String} {description : WorkflowDescription}
    {workflow : Workflow} (h : description.Declares schemas functions id workflow) :
    description.RefersAlike functions workflow := by
  obtain ⟨inputs, -, outputs, -, rfl⟩ := h
  rw [build, Workflow.addSteps_make]
  refine ⟨by simp, fun position step text hstep htext => ?_⟩
  simp only [List.getElem?_mapIdx, List.getElem?_map, htext, Option.map_some,
    Option.some.injEq] at hstep
  exact hstep ▸ text.refersAt_stepAt functions position

/-! ## Steps that run what they refer to -/

/-- The function that a text names, among the functions of an app. -/
def AppFunction.named? (functions : List AppFunction) (text : String) : Option AppFunction :=
  (Reference.functionId? text).bind fun id => functions.find? fun function => function.id == id

namespace Workflow

/-- Each step runs the function that its reference names among these, if there is one. -/
def Linked (functions : List AppFunction) (workflow : Workflow) : Prop :=
  ∀ step ∈ workflow.steps, step.definition = AppFunction.named? functions step.reference

end Workflow

/-- A described step runs the function of the app that its text names. -/
theorem StepDescription.definition?_stepFunction (functions : List AppFunction)
    (step : StepDescription) :
    (step.stepFunction functions).definition? = AppFunction.named? functions step.function := by
  rw [stepFunction, AppFunction.named?]
  split
  next h => exact h.symm
  next h => exact h.symm

/-- The steps of a declared workflow run the functions that their references name. -/
theorem WorkflowDescription.Declares.linked {schemas : Table Schema} {functions : List AppFunction}
    {id : String} {description : WorkflowDescription} {workflow : Workflow}
    (h : description.Declares schemas functions id workflow) : workflow.Linked functions := by
  obtain ⟨inputs, -, outputs, -, rfl⟩ := h
  rw [build, Workflow.addSteps_make]
  intro step hstep
  obtain ⟨position, hlt, rfl⟩ := List.mem_mapIdx.1 hstep
  obtain ⟨text, -, htext⟩ := List.mem_map.1 (List.getElem_mem hlt)
  rw [← htext]
  show (text.stepFunction functions).definition? =
    AppFunction.named? functions (text.stepFunction functions).reference
  rw [text.definition?_stepFunction, text.reference_stepFunction, AppFunction.named?,
    AppFunction.named?, Reference.functionId?_normalize]

/-! ## Agreement -/

namespace StepDescription

/-- A step that is made of a text is one of a function of the app exactly if the text names one; it
refers to the function of an id exactly if the text names this function; and the reference of the
step, taken as a text, gives the same reference again and names the same function. The reference to
a function names the function, whatever its id is. So in a converted app every step refers to its
function as its text does, whether or not the function is declared, and its outputs are those of the
declared function that the text names, if there is one. -/
theorem references_agree :
    (∀ (text id : String) (inputs : StepInputs),
      let step := Step.make id (.named text) inputs
      (step.isLocal = true ↔ ∃ callee, Reference.functionId? text = some callee) ∧
      (∀ callee, Reference.functionId? text = some callee ↔
        step.reference = "#/functions/" ++ callee) ∧
      (Step.make id (.named step.reference) inputs).reference = step.reference ∧
      Reference.functionId? step.reference = Reference.functionId? text) ∧
    (∀ function : AppFunction, Reference.functionId? function.reference = some function.id) ∧
    ∀ (app : AppDescription) (conversion : Conversion), app.toManifest = .ok conversion →
      conversion.manifest.functions.map AppFunction.id = app.functions.names ∧
      List.Forall₂ (fun entry workflow => workflow.id = entry.1 ∧
          entry.2.RefersAlike conversion.manifest.functions workflow)
        app.workflows.entries conversion.manifest.workflows := by
  refine ⟨fun text id inputs => ⟨?_, fun callee => ?_, ?_, ?_⟩, fun function => ?_,
    fun app conversion h => ?_⟩
  · exact Reference.isLocalFunction_normalize text
  · exact Reference.functionId?_eq_some_iff
  · exact Reference.normalize_normalize text
  · exact Reference.functionId?_normalize text
  · exact Reference.functionId?_ofFunction function.id
  · have hdeclares : app.Declares conversion.manifest :=
      AppDescription.toManifest_iff.1 ⟨conversion, h, rfl⟩
    exact ⟨hdeclares.lists_functions.map_id, hdeclares.workflows.imp fun _ _ hworkflow =>
      ⟨hworkflow.toJson_eq.1, hworkflow.refersAlike⟩⟩

/-- An app whose only function has a reference inside its id, and a workflow with a step for the
function, one for a function of the platform, and one for a function that nobody declares. -/
def courier : AppDescription where
  name := "courier"
  functions := .ofList [("mail#/send", {
    title := "Send"
    sourceFile := "send.ts"
    outputs := { properties := .ofList [("receipt", .object [("type", .string "string")])] } })]
  workflows := .ofList [("deliver", {
    title := "Deliver"
    steps := [{ function := "#/functions/mail#/send" }, { function := "mail#/send" },
      { function := "post" }] })]

/-- The function of the courier. -/
def courierFunction : AppFunction where
  id := "mail#/send"
  title := "Send"
  sourceFile := "send.ts"
  outputs := { properties := .ofList [("receipt", .primitive .string)] }

/-- The workflow of the courier. -/
def courierWorkflow : Workflow :=
  ((Workflow.make "deliver" "Deliver" none .empty .empty).addSteps
    [(.defined courierFunction, ∅), (.named "mail#/send", ∅), (.named "post", ∅)]).1

/-- The conversion of the courier. -/
def courierConversion : Conversion :=
  ⟨{ name := "courier", functions := [courierFunction], workflows := [courierWorkflow] },
    [.stepAdded "deliver" "0" "#/functions/mail#/send", .stepAdded "deliver" "1" "mail#/send",
      .stepAdded "deliver" "2" "#/functions/post", .converted "courier" 0]⟩

/-- The courier is converted. -/
theorem courier_converts : courier.toManifest = .ok courierConversion :=
  rfl

/-- The steps of the courier refer to their functions as their texts do: the first is known to give
a receipt, and of the outputs of the others nothing is declared. -/
theorem courier_references : courier.toManifest = .ok courierConversion ∧
    courierWorkflow.steps.map Step.reference =
      ["#/functions/mail#/send", "mail#/send", "#/functions/post"] ∧
    courierWorkflow.steps.map Step.outputs =
      [⟨⟨"steps.0"⟩, [("receipt", .leaf ⟨"steps.0.receipt"⟩)]⟩, .dynamic ⟨"steps.1"⟩,
        .dynamic ⟨"steps.2"⟩] ∧
    ∃ description, courier.workflows.get? "deliver" = some description ∧
      description.RefersAlike [courierFunction] courierWorkflow := by
  obtain ⟨-, -, happs⟩ := references_agree
  obtain ⟨-, hworkflows⟩ := happs courier courierConversion courier_converts
  exact ⟨courier_converts, rfl, rfl, _, rfl, (List.forall₂_cons.1 hworkflows).1.2⟩

end StepDescription

end AppManifest
