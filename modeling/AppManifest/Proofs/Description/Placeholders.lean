import AppManifest.Proofs.Description.Conversion
import AppManifest.Proofs.Workflow.Sources

/-!
# Placeholders of converted apps

A workflow of a converted app is made by adding steps, so what holds of the sources of its
placeholders holds in every app. Names of properties are joined by dots and may have dots in them:
from one source, different chains of names lead to the same template exactly if they have the same
pieces (`AppDescription.rendered_alike_iff_pieces`), so different chains of names without dots lead
to different templates.
-/

namespace AppManifest

/-- A chain of names that are not empty keeps all of them. -/
theorem Path.kept_eq_self {names : List String} (h : ∀ name ∈ names, name ≠ "") :
    kept names = names := by
  refine List.filter_eq_self.2 fun name hname => ?_
  simpa using h name hname

/-- A declared workflow is made by adding steps. -/
theorem WorkflowDescription.Declares.made {schemas : Table Schema} {functions : List AppFunction}
    {id : String} {description : WorkflowDescription} {workflow : Workflow}
    (h : description.Declares schemas functions id workflow) : workflow.Made := by
  obtain ⟨inputs, -, outputs, -, rfl⟩ := h
  exact ⟨_, _, _, _, _, _, rfl⟩

namespace AppDescription

/-- In a converted app, two chains of names that are not empty, both navigated from one source of a
workflow, lead to placeholders that are rendered alike exactly if the names have the same pieces,
one after the other. So different chains of names without dots lead to different templates. -/
theorem rendered_alike_iff_pieces (app : AppDescription) {conversion : Conversion}
    (h : app.toManifest = .ok conversion) {workflow : Workflow}
    (hworkflow : workflow ∈ conversion.manifest.workflows) {source : Workflow.Source}
    {node : ObjectPlaceholder} (hnode : workflow.source? source = some node)
    {names others : List String} (hnames : ∀ name ∈ names, name ≠ "")
    (hothers : ∀ name ∈ others, name ≠ "") {value rival : Placeholder}
    (hvalue : node.at? names = some value) (hrival : node.at? others = some rival) :
    (value.render = rival.render ↔
      names.flatMap Path.pieces = others.flatMap Path.pieces) ∧
    ((∀ name ∈ names ++ others, '.' ∉ name.toList) → names ≠ others →
      value.render ≠ rival.render) := by
  have hdeclares : app.Declares conversion.manifest := toManifest_iff.1 ⟨conversion, h, rfl⟩
  obtain ⟨_, -, hdeclared⟩ := exists_left_of_forall₂ hdeclares.workflows hworkflow
  obtain ⟨_, _, hwired⟩ := hdeclared.made.wired
  have hiff : value.render = rival.render ↔
      names.flatMap Path.pieces = others.flatMap Path.pieces := by
    rw [hwired.render_eq_iff hnode hnode hvalue hrival, Path.kept_eq_self hnames,
      Path.kept_eq_self hothers, and_iff_right rfl]
  refine ⟨hiff, fun hdots hne heq => hne ?_⟩
  obtain ⟨hfirst, hsecond⟩ := List.forall_mem_append.1 hdots
  rw [hiff, Path.flatMap_pieces hfirst, Path.flatMap_pieces hsecond] at heq
  exact heq

/-- An app with a workflow that takes an object with a number, and another number under the name
that joins the names of the two. -/
def dotted : AppDescription where
  name := "dotted"
  workflows := .ofList [("close", {
    title := "Close"
    inputs :=
      { properties := .ofList [
          ("issue", .object [("properties", .object [("id", .object [("type", .string "number")])]),
            ("type", .string "object")]),
          ("issue.id", .object [("type", .string "number")])] } })]

/-- The workflow of the dotted app. -/
def dottedWorkflow : Workflow :=
  let number : Definition := .ofKind (.primitive .number)
  let issue : Definition := .ofKind (.typedObject [("id", number)] [] none)
  .make "close" "Close" none { properties := .ofList [("issue", issue), ("issue.id", number)] } {}

/-- The conversion of the dotted app. -/
def dottedConversion : Conversion :=
  ⟨{ name := "dotted", workflows := [dottedWorkflow] }, [.converted "dotted" 0]⟩

/-- The dotted app is converted. -/
theorem dotted_converts : dotted.toManifest = .ok dottedConversion :=
  rfl

/-- In the dotted app, the declared names `issue` and `id` lead to the same template as the declared
name `issue.id`. -/
theorem dotted_names_collide : dotted.toManifest = .ok dottedConversion ∧
    dottedWorkflow ∈ dottedConversion.manifest.workflows ∧
    (dottedWorkflow.inputParameters.asObject.follow? ["issue", "id"]).isSome = true ∧
    (dottedWorkflow.inputParameters.asObject.follow? ["issue.id"]).isSome = true ∧
    (dottedWorkflow.inputs.at? ["issue", "id"]).map Placeholder.render =
      some "\x7b\x7binputs.issue.id\x7d\x7d" ∧
    (dottedWorkflow.inputs.at? ["issue.id"]).map Placeholder.render =
      some "\x7b\x7binputs.issue.id\x7d\x7d" :=
  ⟨dotted_converts, List.mem_singleton_self _, rfl, rfl, rfl, rfl⟩

/-- In the dotted app, the issue is not rendered like its number. -/
theorem dotted_issue_apart : ∃ value rival, dottedWorkflow.inputs.at? ["issue"] = some value ∧
    dottedWorkflow.inputs.at? ["issue", "id"] = some rival ∧ value.render ≠ rival.render := by
  have hvalue : dottedWorkflow.inputs.at? ["issue"] =
      some (.object ⟨⟨"inputs.issue"⟩, [("id", .leaf ⟨"inputs.issue.id"⟩)]⟩) := rfl
  have hrival : dottedWorkflow.inputs.at? ["issue", "id"] =
      some (.leaf ⟨"inputs.issue.id"⟩) := rfl
  have hnode : dottedWorkflow.source? .inputs = some dottedWorkflow.inputs := rfl
  refine ⟨_, _, hvalue, hrival, ?_⟩
  exact (dotted.rendered_alike_iff_pieces dotted_converts (List.mem_singleton_self _) hnode
    (by decide) (by decide) hvalue hrival).2 (by decide) (by decide)

end AppDescription

end AppManifest
