import AppManifest.Proofs.Placeholder
import AppManifest.Proofs.Workflow.Wiring

/-!
# Sources of placeholders

The placeholders in a workflow come from its inputs or from the outputs of a step. Navigated from a
source along any chain of names, a placeholder has a path whose pieces are those of the source,
followed by the pieces of the names (`Workflow.Wired.pieces_path`). The pieces of the source tell it
from every other one, because the decimal of a position has no dots in it. So placeholders are
rendered alike exactly if they come from one source and the names have the same pieces, one after
the other (`Workflow.Wired.render_eq_iff`).
-/

namespace AppManifest

namespace Path

/-- There are no dots in the decimal of a number. -/
theorem pieces_decimal (number : Nat) : pieces (toString number) = [toString number] := by
  refine pieces_eq_singleton fun hdot => ?_
  rw [Nat.toString_eq_repr, Nat.toList_repr] at hdot
  have hdigit := Nat.isDigit_of_mem_toDigits (by decide) (by decide) hdot
  exact absurd hdigit (by decide)

/-- Different numbers have different decimals. -/
theorem decimal_inj {first second : Nat} : toString first = toString second ↔ first = second := by
  refine ⟨fun h => ?_, congrArg toString⟩
  have hdigits : Nat.toDigits 10 first = Nat.toDigits 10 second := by
    rw [← Nat.toList_repr, ← Nat.toList_repr, ← Nat.toString_eq_repr, ← Nat.toString_eq_repr, h]
  rw [← Nat.ofDigitChars_ten_toDigits (n := first), hdigits, Nat.ofDigitChars_ten_toDigits]

end Path

namespace Workflow

/-- Where a placeholder of a workflow comes from: the inputs of the workflow, or the outputs of the
step at a position. -/
inductive Source where
  | inputs
  | step (position : Nat)
deriving DecidableEq

namespace Source

/-- The pieces of the path of a source. -/
def root : Source → List String
  | .inputs => ["inputs"]
  | .step position => ["steps", toString position]

/-- A source has a root. -/
theorem root_ne_nil (source : Source) : source.root ≠ [] := by
  cases source <;> exact List.cons_ne_nil _ _

/-- The root of a source has no empty pieces. -/
theorem kept_root (source : Source) : Path.kept source.root = source.root := by
  cases source <;> simp [root, Path.kept]

/-- There are no dots in the root of a source. -/
theorem pieces_root (source : Source) : source.root.flatMap Path.pieces = source.root := by
  cases source with
  | inputs => rfl
  | step position =>
      rw [root, List.flatMap_cons, List.flatMap_singleton, Path.pieces_decimal]
      rfl

/-- What follows the root of a source does not hide which source it is. -/
theorem root_append_inj {first second : Source} {rest others : List String} :
    first.root ++ rest = second.root ++ others ↔ first = second ∧ rest = others := by
  constructor
  · intro h
    cases first with
    | inputs =>
        cases second with
        | inputs => exact ⟨rfl, (List.cons.inj h).2⟩
        | step => exact absurd (List.cons.inj h).1 (by decide)
    | step position =>
        cases second with
        | inputs => exact absurd (List.cons.inj h).1 (by decide)
        | step other =>
            obtain ⟨hposition, hrest⟩ := List.cons.inj (List.cons.inj h).2
            exact ⟨congrArg step (Path.decimal_inj.1 hposition), hrest⟩
  · rintro ⟨rfl, rfl⟩
    rfl

end Source

/-- The placeholders of a source, if the workflow has it. -/
def source? (workflow : Workflow) : Source → Option ObjectPlaceholder
  | .inputs => some workflow.inputs
  | .step position => workflow.steps[position]?.map Step.outputs

variable {workflow : Workflow} {additions : List (StepFunction × StepInputs)}
  {handles : List StepHandle} {source : Source} {node : ObjectPlaceholder}

/-- The placeholders of a source are those of a definition, at the root of the source. -/
theorem Wired.source_eq (h : workflow.Wired additions handles)
    (hsource : workflow.source? source = some node) :
    ∃ definition, Placeholder.object node = .ofDefinition (.ofSegments source.root) definition := by
  cases source with
  | inputs =>
      obtain rfl := Option.some.inj hsource
      exact ⟨workflow.inputParameters.asObject, congrArg Placeholder.object h.inputs⟩
  | step position =>
      obtain ⟨step, hstep, rfl⟩ := Option.map_eq_some_iff.1 hsource
      obtain ⟨addition, hstands⟩ := h.standsAt hstep
      rw [Source.root, Path.ofSegments_step]
      cases hdefinition : step.definition with
      | some function =>
          exact ⟨function.outputs.asObject,
            congrArg Placeholder.object (hstands.defined function hdefinition).2⟩
      | none =>
          exact ⟨.ofKind .untypedObject, congrArg Placeholder.object (hstands.dynamic hdefinition)⟩

/-- Wherever a chain leads from a source, the pieces of the path are those of the source and of the
names, one after the other. -/
theorem Wired.pieces_path (h : workflow.Wired additions handles)
    (hsource : workflow.source? source = some node) {names : List String} {value : Placeholder}
    (hvalue : node.at? names = some value) :
    Path.pieces value.path.text = source.root ++ (Path.kept names).flatMap Path.pieces := by
  obtain ⟨definition, hnode⟩ := h.source_eq hsource
  rw [ObjectPlaceholder.at?_eq, hnode] at hvalue
  have hkept : Path.kept (source.root ++ names) = source.root ++ Path.kept names := by
    rw [Path.kept_append, source.kept_root]
  rw [Placeholder.path_of_at? hvalue, Path.pieces_ofSegments (by simp [hkept, source.root_ne_nil]),
    hkept, List.flatMap_append, source.pieces_root]

/-- Placeholders from the sources of a workflow are rendered alike exactly if their sources are the
same and the names that lead to them have the same pieces, one after the other. -/
theorem Wired.render_eq_iff (h : workflow.Wired additions handles) {first second : Source}
    {node other : ObjectPlaceholder} (hnode : workflow.source? first = some node)
    (hother : workflow.source? second = some other) {names others : List String}
    {value rival : Placeholder} (hvalue : node.at? names = some value)
    (hrival : other.at? others = some rival) :
    value.render = rival.render ↔ first = second ∧
      (Path.kept names).flatMap Path.pieces = (Path.kept others).flatMap Path.pieces := by
  rw [← Source.root_append_inj, ← h.pieces_path hnode hvalue, ← h.pieces_path hother hrival,
    Path.pieces_inj, Placeholder.render, Placeholder.render, Path.render_eq_iff]

/-- The workflow was made by adding steps to one without steps. -/
def Made (workflow : Workflow) : Prop :=
  ∃ id title description inputs outputs additions,
    workflow = ((make id title description inputs outputs).addSteps additions).1

/-- A workflow that was made by adding steps is wired. -/
theorem Made.wired (h : workflow.Made) : ∃ additions handles, workflow.Wired additions handles := by
  obtain ⟨id, title, description, inputs, outputs, additions, rfl⟩ := h
  exact ⟨_, _, (wired_make id title description inputs outputs).addSteps additions⟩

/-- Placeholders from different sources of a workflow are never rendered alike, whatever chains of
names lead to them. -/
theorem sources_apart (hmade : workflow.Made) {first second : Source} (hne : first ≠ second)
    {node other : ObjectPlaceholder} (hnode : workflow.source? first = some node)
    (hother : workflow.source? second = some other) {names others : List String}
    {value rival : Placeholder} (hvalue : node.at? names = some value)
    (hrival : other.at? others = some rival) : value.render ≠ rival.render := by
  obtain ⟨_, _, hwired⟩ := hmade.wired
  exact fun h => hne ((hwired.render_eq_iff hnode hother hvalue hrival).1 h).1

/-- A workflow that runs one function eleven times. -/
def elevenfold : Workflow :=
  ((make "elevenfold" "Elevenfold" none .empty .empty).addSteps
    (.replicate 11 (.named "close", ∅))).1

/-- The output `0` of the second step of the workflow is not rendered like the outputs of its
eleventh step. -/
theorem elevenfold_sources_apart : ∃ node other value rival,
    elevenfold.source? (.step 1) = some node ∧ elevenfold.source? (.step 10) = some other ∧
      node.at? ["0"] = some value ∧ other.at? [] = some rival ∧ value.render ≠ rival.render := by
  have hmade : elevenfold.Made := ⟨_, _, _, _, _, _, rfl⟩
  have hne : Source.step 1 ≠ .step 10 := by decide
  have hnode : elevenfold.source? (.step 1) = some (.dynamic ⟨"steps.1"⟩) := rfl
  have hother : elevenfold.source? (.step 10) = some (.dynamic ⟨"steps.10"⟩) := rfl
  have hvalue : (ObjectPlaceholder.dynamic ⟨"steps.1"⟩).at? ["0"] =
      some (.object (.dynamic ⟨"steps.1.0"⟩)) := rfl
  have hrival : (ObjectPlaceholder.dynamic ⟨"steps.10"⟩).at? [] =
      some (.object (.dynamic ⟨"steps.10"⟩)) := rfl
  exact ⟨_, _, _, _, hnode, hother, hvalue, hrival,
    sources_apart hmade hne hnode hother hvalue hrival⟩

end Workflow

end AppManifest
