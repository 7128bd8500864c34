import AppManifest.Proofs.Json.Members
import AppManifest.Proofs.Path
import AppManifest.Proofs.Workflow.Steps

/-!
# Wiring of workflows

The steps of a workflow are wired together by placeholders, so these have to be rooted where the
platform puts the values: the inputs of the workflow below `inputs`, and the outputs of the step at
a position below `steps.` and the decimal of the position, which is also the id of the step.
`Workflow.Wired` says so, and that each handle that was given out is that of the step for which it
was given. Adding a step keeps a workflow wired and leaves everything that was there as it was, so
it is wired after any number of steps, and stays so (`Workflow.addSteps_keep_wired`).
-/

namespace AppManifest

/-- The placeholders of the parameters of a set below a path. -/
def ParameterSet.placeholderAt (set : ParameterSet) (path : Path) : ObjectPlaceholder :=
  ⟨path, Placeholder.ofProperties path set.properties.entries⟩

/-- The path of the outputs of the step at a position. -/
def Path.ofStep (position : Nat) : Path :=
  ⟨"steps." ++ toString position⟩

/-- The path of the outputs of a step is that of two segments. -/
theorem Path.ofSegments_step (position : Nat) :
    Path.ofSegments ["steps", toString position] = .ofStep position := by
  have hkept : kept ["steps", toString position] = ["steps", toString position] := by
    simp [kept]
  show Path.mk (".".intercalate (kept ["steps", toString position])) = _
  rw [hkept, String.intercalate_cons_cons, String.intercalate_singleton, Path.ofStep]
  rfl

/-- The step stands at a position and runs the function on the inputs with which it was added: it
has the position as its id, and the placeholders of its outputs are below the position, those of the
outputs of the function if the function is one of the app. -/
structure Step.StandsAt (step : Step) (position : Nat) (addition : StepFunction × StepInputs) :
    Prop where
  id : step.id = toString position
  inputs : step.inputs = addition.2
  reference : step.reference = addition.1.reference
  definition : step.definition = addition.1.definition?
  defined : ∀ function, step.definition = some function →
    step.reference = "#/functions/" ++ function.id ∧
      step.outputs = function.outputs.placeholderAt (.ofStep position)
  dynamic : step.definition = none → step.outputs = .dynamic (.ofStep position)

/-- The step is written under its position, with its reference and the wire forms of its inputs. -/
def Step.IsWrittenAt (step : Step) (position : Nat) (json : Json) : Prop :=
  json = .object [("function_id", .string step.reference), ("id", .string (toString position)),
    ("inputs", .ofTable (StepInputs.templatize step.inputs))]

namespace Workflow

/-- The workflow was given these steps and gave out these handles. -/
structure Wired (workflow : Workflow) (additions : List (StepFunction × StepInputs))
    (handles : List StepHandle) : Prop where
  inputs : workflow.inputs = workflow.inputParameters.placeholderAt ⟨"inputs"⟩
  length : workflow.steps.length = additions.length
  steps : ∀ {position : Nat} {step : Step} {addition : StepFunction × StepInputs},
    workflow.steps[position]? = some step → additions[position]? = some addition →
      step.StandsAt position addition
  handles : handles = workflow.steps.map fun step => ⟨step.id, step.outputs⟩

/-- The workflow is written with an array of its steps, in order, each under its position. -/
def ListsSteps (workflow : Workflow) : Prop :=
  ∃ (members : Entries Json) (items : List Json), workflow.toJson = .object members ∧
    members.lookup "steps" = some (.array items) ∧ items.length = workflow.steps.length ∧
    ∀ (position : Nat) (item : Json) (step : Step), items[position]? = some item →
      workflow.steps[position]? = some step → step.IsWrittenAt position item

variable {workflow : Workflow} {additions : List (StepFunction × StepInputs)}
  {handles : List StepHandle}

/-- A step of a wired workflow stands at its position. -/
theorem Wired.standsAt (h : workflow.Wired additions handles) {position : Nat} {step : Step}
    (hstep : workflow.steps[position]? = some step) :
    ∃ addition, step.StandsAt position addition := by
  have hlt : position < additions.length := by
    rw [← h.length]
    exact (List.getElem?_eq_some_iff.1 hstep).1
  exact ⟨_, h.steps hstep (List.getElem?_eq_getElem hlt)⟩

/-- The step that is added at a position stands there. -/
theorem standsAt_stepAt (position : Nat) (addition : StepFunction × StepInputs) :
    (stepAt position addition).StandsAt position addition := by
  obtain ⟨function, inputs⟩ := addition
  cases function with
  | defined function =>
      refine ⟨rfl, rfl, rfl, rfl, fun other hother => ?_, nofun⟩
      obtain rfl : function = other := Option.some.inj hother
      refine ⟨rfl, ?_⟩
      rw [← Path.ofSegments_step]
      rfl
  | named text =>
      refine ⟨rfl, rfl, rfl, rfl, nofun, fun _ => ?_⟩
      rw [← Path.ofSegments_step]
      rfl

/-- A workflow without steps is wired. -/
theorem wired_make (id title : String) (description : Option String)
    (inputs outputs : ParameterSet) :
    (make id title description inputs outputs).Wired [] [] where
  inputs := rfl
  length := rfl
  steps := nofun
  handles := rfl

/-- Adding a step keeps a workflow wired. -/
theorem Wired.addStep (h : workflow.Wired additions handles) (function : StepFunction)
    (inputs : StepInputs) :
    (workflow.addStep function inputs).workflow.Wired (additions ++ [(function, inputs)])
      (handles ++ [(workflow.addStep function inputs).handle]) where
  inputs := h.inputs
  length := by simp [Workflow.addStep, h.length]
  steps {position step addition} hstep haddition := by
    change (workflow.steps ++ [stepAt workflow.steps.length (function, inputs)])[position]? =
      some step at hstep
    rcases Nat.lt_trichotomy position workflow.steps.length with hlt | rfl | hgt
    · -- an earlier step is as it was
      rw [List.getElem?_append_left hlt] at hstep
      rw [List.getElem?_append_left (h.length ▸ hlt)] at haddition
      exact h.steps hstep haddition
    · rw [List.getElem?_concat_length] at hstep
      rw [h.length, List.getElem?_concat_length] at haddition
      cases hstep
      cases haddition
      exact standsAt_stepAt _ _
    · rw [List.getElem?_eq_none (by simpa using Nat.succ_le_of_lt hgt)] at hstep
      cases hstep
  handles := by
    rw [h.handles, Workflow.addStep, List.map_append]
    rfl

/-- Adding steps keeps a workflow wired. -/
theorem Wired.addSteps (h : workflow.Wired additions handles)
    (more : List (StepFunction × StepInputs)) :
    (workflow.addSteps more).1.Wired (additions ++ more)
      (handles ++ (workflow.addSteps more).2.1) := by
  induction more generalizing workflow additions handles with
  | nil => simpa [Workflow.addSteps] using h
  | cons addition rest ih =>
      have hrest := ih (h.addStep addition.1 addition.2)
      rw [List.append_assoc, List.append_assoc] at hrest
      exact hrest

/-- The steps of a workflow are written in order. -/
theorem lookup_steps (workflow : Workflow) : ∃ members : Entries Json,
    workflow.toJson = .object members ∧
      members.lookup "steps" = some (.array (workflow.steps.map Step.toJson)) := by
  refine ⟨_, rfl, ?_⟩
  rw [List.append_assoc, List.append_assoc, List.lookup_append, List.lookup_append,
    List.lookup_append, parameterMember, parameterMember, Json.lookup_member_of_ne (by decide),
    Json.lookup_member_of_ne (by decide), Json.lookup_member_of_ne (by decide)]
  rfl

/-- A wired workflow is written with its steps in order, each under its position. -/
theorem Wired.listsSteps (h : workflow.Wired additions handles) : workflow.ListsSteps := by
  obtain ⟨members, hmembers, hsteps⟩ := workflow.lookup_steps
  refine ⟨members, _, hmembers, hsteps, List.length_map _, fun position item step hitem hstep => ?_⟩
  obtain ⟨addition, hstands⟩ := h.standsAt hstep
  rw [List.getElem?_map, hstep, Option.map_some, Option.some.injEq] at hitem
  rw [Step.IsWrittenAt, ← hitem, Step.toJson, hstands.id]

/-- However many steps are added to a workflow, it is wired, and lists its steps when it is written.
Adding more steps keeps it so, with the handles that were given out before, and changes nothing but
that these steps are appended. -/
theorem addSteps_keep_wired (id title : String) (description : Option String)
    (inputs outputs : ParameterSet) (first second : List (StepFunction × StepInputs)) :
    ∃ workflow handles events later others reports,
      (make id title description inputs outputs).addSteps first = (workflow, handles, events) ∧
      workflow.addSteps second = (later, others, reports) ∧
      workflow.Wired first handles ∧ workflow.ListsSteps ∧
      later.Wired (first ++ second) (handles ++ others) ∧ later.ListsSteps ∧
      workflow = { make id title description inputs outputs with steps := workflow.steps } ∧
      workflow.steps <+: later.steps ∧ later = { workflow with steps := later.steps } := by
  have hfirst := (wired_make id title description inputs outputs).addSteps first
  have hsecond := hfirst.addSteps second
  have hlater := addSteps_eq ((make id title description inputs outputs).addSteps first).1 second
  refine ⟨_, _, _, _, _, _, rfl, rfl, hfirst, hfirst.listsSteps, hsecond, hsecond.listsSteps, ?_,
    ?_, ?_⟩
  · rw [addSteps_eq]
  · rw [hlater]
    exact List.prefix_append _ _
  · rw [hlater]

end Workflow

end AppManifest
