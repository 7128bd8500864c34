import AppManifest.Workflow.Basic

/-!
# Adding steps

Steps are numbered by their positions: adding steps appends them in order, each made under the
decimal of its position, and leaves everything else of the workflow as it was
(`Workflow.addSteps_eq`).
-/

namespace AppManifest

namespace Workflow

/-- The step that is added at a position. -/
def stepAt (position : Nat) (addition : StepFunction × StepInputs) : Step :=
  .make (toString position) addition.1 addition.2

/-- Adding steps appends them, each under the decimal of its position. -/
theorem addSteps_eq (workflow : Workflow) (additions : List (StepFunction × StepInputs)) :
    (workflow.addSteps additions).1 =
      { workflow with
        steps := workflow.steps ++
          additions.mapIdx fun index => stepAt (workflow.steps.length + index) } := by
  induction additions generalizing workflow with
  | nil => simp [addSteps]
  | cons addition rest ih =>
      obtain ⟨function, inputs⟩ := addition
      rw [addSteps]
      dsimp only
      rw [ih]
      simp [addStep, List.mapIdx_cons, stepAt, Nat.add_assoc, Nat.add_comm 1]

/-- The steps of a workflow that was made by adding steps are numbered from zero. -/
theorem addSteps_make (id title : String) (description : Option String)
    (inputs outputs : ParameterSet) (additions : List (StepFunction × StepInputs)) :
    ((make id title description inputs outputs).addSteps additions).1 =
      { make id title description inputs outputs with steps := additions.mapIdx stepAt } := by
  rw [addSteps_eq]
  simp [make]

end Workflow

end AppManifest
