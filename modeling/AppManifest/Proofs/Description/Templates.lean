import AppManifest.Proofs.Description.References
import AppManifest.Proofs.Manifest.Failure
import AppManifest.Proofs.Registry.Interchange
import AppManifest.Proofs.Workflow.Sources

/-!
# Workflows with their templates written out

A description gives the inputs of steps as JSON values, with templates where a workflow that is
wired in a program has placeholders. A description that writes a workflow out in this way
(`WorkflowDescription.WritesOut`) is converted to a workflow that can be put in its place. Like all
interchangeable workflows, the two are written alike, lead to the same registered functions and
types, and to the same document (`Workflow.writing_out_changes_nothing`).
-/

namespace AppManifest

/-! ## Documents -/

namespace Manifest

/-- The manifests differ at most in their workflows, and these are interchangeable one by one. -/
structure Interchangeable (first second : Manifest) : Prop where
  eq : second = { first with workflows := second.workflows }
  workflows : List.Forall₂ Workflow.Interchangeable first.workflows second.workflows

variable {first second : Manifest}

/-- Interchangeable manifests declare interchangeable parts. -/
theorem Interchangeable.parts (h : first.Interchangeable second) :
    List.Forall₂ Part.Interchangeable first.parts second.parts := by
  have hworkflows : List.Forall₂ Part.Interchangeable (first.workflows.map .workflow)
      (second.workflows.map .workflow) :=
    List.forall₂_map_left_iff.2
      (List.forall₂_map_right_iff.2 (h.workflows.imp fun _ _ => .workflow))
  have hsame := Part.Interchangeable.refl_all
  have hfunctions := List.rel_append (hsame (first.functions.map .function)) hworkflows
  have htypes := List.rel_append hfunctions (hsame (first.types.map .type))
  have hdatastores := List.rel_append htypes (hsame (first.datastores.map .datastore))
  rw [h.eq]
  exact List.rel_append hdatastores (hsame (first.providers.map .provider))

/-- Interchangeable manifests are exported alike. -/
theorem Interchangeable.result_eq (h : first.Interchangeable second) :
    first.compile.result = second.compile.result := by
  have hproviders : first.providers.map Provider.key = second.providers.map Provider.key := by
    rw [h.eq]
  rw [result_compile, result_compile]
  by_cases hnodup : (first.providers.map Provider.key).Nodup
  · have hmatches : first.collected.Matches second.collected :=
      (Registry.Matches.refl .empty).registerParts h.parts .empty .empty
    have hdocument (registry : Registry) :
        first.documentOf registry = second.documentOf registry := by
      rw [h.eq]
      rfl
    rw [write_of_nodup hnodup, write_of_nodup (hproviders ▸ hnodup), hdocument, documentOf,
      documentOf, hmatches.sections_eq]
  · -- the first key that is repeated stops both exports
    obtain ⟨key, hkey⟩ := (exists_firstRepeated_iff _).2 hnodup
    rw [write_of_firstRepeated hkey, write_of_firstRepeated (hproviders ▸ hkey)]

end Manifest

/-! ## Descriptions -/

/-- The function that a step brings is told by its reference, if it runs the one that this names. -/
theorem Workflow.Linked.localFunctions_eq {functions : List AppFunction} {workflow : Workflow}
    (h : workflow.Linked functions) :
    workflow.localFunctions = (workflow.steps.map Step.reference).filterMap fun reference =>
      if Reference.isLocalFunction reference then AppFunction.named? functions reference
      else none := by
  rw [localFunctions, List.filterMap_map]
  refine List.filterMap_congr fun step hstep => ?_
  rw [Step.localFunction?, h step hstep]
  rfl

/-- The description writes the workflow out: it has the texts of the workflow, and for each step, in
order, a text that stands for its reference, and the wire forms of its inputs. -/
structure WorkflowDescription.WritesOut (description : WorkflowDescription) (workflow : Workflow) :
    Prop where
  steps : List.Forall₂ (fun step text => Reference.normalize text.function = step.reference ∧
    text.inputs = StepInputs.templatize step.inputs) workflow.steps description.steps
  title : description.title = workflow.title
  description : description.description = workflow.description

namespace WorkflowDescription

variable {description : WorkflowDescription} {workflow loaded : Workflow} {schemas : Table Schema}
  {functions : List AppFunction} {id : String}

/-- The steps of a workflow that is written out are written as the normal forms of the texts. -/
theorem WritesOut.map_toJson (h : description.WritesOut workflow) (hmade : workflow.Made) :
    workflow.steps.map Step.toJson = description.steps.mapIdx StepDescription.normalForm := by
  obtain ⟨additions, handles, hwired⟩ := hmade.wired
  refine List.ext_getElem? fun position => ?_
  rw [List.getElem?_map, List.getElem?_mapIdx]
  have hrel := rel_getElem?_of_forall₂ h.steps position
  generalize hstep : workflow.steps[position]? = step at hrel
  generalize description.steps[position]? = text at hrel
  cases hrel with
  | none => rfl
  | @some step text hwrites =>
      obtain ⟨addition, hstands⟩ := hwired.standsAt hstep
      rw [Option.map_some, Option.map_some, Step.toJson, StepDescription.normalForm_eq, hstands.id,
        hwrites.1, hwrites.2]

/-- A workflow is loaded with the references that its texts stand for. -/
theorem Declares.map_reference (h : description.Declares schemas functions id loaded) :
    loaded.steps.map Step.reference =
      description.steps.map fun text => Reference.normalize text.function := by
  obtain ⟨inputs, -, outputs, -, rfl⟩ := h
  rw [build, Workflow.addSteps_make]
  refine List.ext_getElem (by simp) fun position _ _ => ?_
  simp only [List.getElem_map, List.getElem_mapIdx]
  exact StepDescription.reference_stepFunction functions _

/-- A workflow that is written out is written as the normal form of the description, if it has the
parameters that the description declares. -/
theorem WritesOut.toJson_eq (h : description.WritesOut workflow) (hmade : workflow.Made)
    (hinputs : description.inputs.Declares schemas workflow.inputParameters)
    (houtputs : description.outputs.Declares schemas workflow.outputParameters) :
    workflow.toJson = description.normalForm := by
  rw [Workflow.toJson, normalForm_eq, h.map_toJson hmade, hinputs.parameterMember_eq,
    houtputs.parameterMember_eq, h.title, h.description]

/-- A workflow that is written out is written as the workflow that is loaded from the description,
if it has the same parameters. -/
theorem WritesOut.toJson_eq_loaded (h : description.WritesOut workflow) (hmade : workflow.Made)
    (hdeclares : description.Declares schemas functions id loaded)
    (hinputs : workflow.inputParameters = loaded.inputParameters)
    (houtputs : workflow.outputParameters = loaded.outputParameters) :
    workflow.toJson = loaded.toJson := by
  obtain ⟨hdeclared, hdeclared'⟩ := hdeclares.parameters
  rw [hdeclares.toJson_eq.2]
  exact h.toJson_eq hmade (hinputs ▸ hdeclared) (houtputs ▸ hdeclared')

/-- A workflow that is written out and runs the functions that it refers to can be put in the place
of the workflow that is loaded from the description, if it has the same id and parameters. -/
theorem WritesOut.interchangeable (h : description.WritesOut workflow) (hmade : workflow.Made)
    (hdeclares : description.Declares schemas functions id loaded)
    (hinputs : workflow.inputParameters = loaded.inputParameters)
    (houtputs : workflow.outputParameters = loaded.outputParameters) (hid : workflow.id = id)
    (hlinked : workflow.Linked functions) : workflow.Interchangeable loaded where
  id := hid.trans hdeclares.toJson_eq.1.symm
  inputParameters := hinputs
  outputParameters := houtputs
  toJson := h.toJson_eq_loaded hmade hdeclares hinputs houtputs
  localFunctions := by
    have hreferences : workflow.steps.map Step.reference = loaded.steps.map Step.reference := by
      rw [hdeclares.map_reference]
      exact (map_eq_of_forall₂ (h.steps.imp fun _ _ hwrites => hwrites.1)).symm
    rw [hlinked.localFunctions_eq, hdeclares.linked.localFunctions_eq, hreferences]

end WorkflowDescription

/-- Templatizing an input succeeds and gives its wire form, which it has only one of. Workflows that
differ in what is written out, at any depth and in any steps, are interchangeable: written alike,
and with the same functions. Whatever else is done, exchanging interchangeable workflows changes
neither the functions and types that are registered nor a section of the manifest, and an app is
exported as before. A workflow that is wired with placeholders is written as the one that is loaded
from a description with the wire forms in their place, and can be exchanged for it. -/
theorem Workflow.writing_out_changes_nothing :
    (∀ input : StepInput, input.serial.write = .ok input.templatize ∧
      ∀ json, input.WireForm json ↔ json = input.templatize) ∧
    (∀ first second : Workflow, Relation.ReflTransGen WritesOut first second →
      first.Interchangeable second) ∧
    (∀ operations others : List Registry.Operation,
      List.Forall₂ Registry.Operation.Interchangeable operations others →
        let registry := Registry.empty.applyAll operations
        let other := Registry.empty.applyAll others
        registry.functions = other.functions ∧ registry.types = other.types ∧
          registry.sections = other.sections) ∧
    (∀ first second : Manifest, first.Interchangeable second →
      first.compile.result = second.compile.result) ∧
    ∀ (app : AppDescription) (conversion : Conversion), app.toManifest = .ok conversion →
      List.Forall₂ (fun entry loaded => ∀ wired : Workflow, wired.Made →
          entry.2.WritesOut wired → wired.inputParameters = loaded.inputParameters →
          wired.outputParameters = loaded.outputParameters → wired.toJson = loaded.toJson ∧
            (wired.id = entry.1 → wired.Linked conversion.manifest.functions →
              wired.Interchangeable loaded))
        app.workflows.entries conversion.manifest.workflows := by
  refine ⟨fun input => ⟨input.write_serial, fun json => StepInput.wireForm_iff⟩,
    fun first second => interchangeable_of_writesOut, fun operations others h => ?_,
    fun first second h => h.result_eq, fun app conversion h => ?_⟩
  · have hmatches := Registry.applyAll_matches h
    exact ⟨hmatches.functions, hmatches.types, hmatches.sections_eq⟩
  · have hdeclares : app.Declares conversion.manifest :=
      AppDescription.toManifest_iff.1 ⟨conversion, h, rfl⟩
    refine hdeclares.workflows.imp
      fun entry loaded hloaded wired hmade hwrites hinputs houtputs => ?_
    exact ⟨hwrites.toJson_eq_loaded hmade hloaded hinputs houtputs,
      hwrites.interchangeable hmade hloaded hinputs houtputs⟩

namespace AppDescription

/-- An app with a workflow that sends the author of an issue a message, whose templates are written
out. -/
def notifier : AppDescription where
  name := "notifier"
  workflows := .ofList [("notify", {
    title := "Notify"
    inputs := { properties := .ofList [("issue", .object [("type", .string "object")])] }
    steps := [{
      function := "mail#/send"
      inputs := .ofList [
        ("parts", .array [.string "By \x7b\x7bname\x7d\x7d",
          .object [("author", .string "\x7b\x7binputs.issue.author\x7d\x7d")]]),
        ("to", .string "\x7b\x7binputs.issue.author\x7d\x7d")] }] })]

/-- The workflow of the notifier without steps. -/
def blankNotify : Workflow :=
  .make "notify" "Notify" none { properties := .ofList [("issue", .object)] } .empty

/-- The workflow of the notifier with this input for the parts of the message and this one for the
addressee. -/
def notifyWith (parts addressee : StepInput) : Workflow :=
  (blankNotify.addSteps
    [(.named "mail#/send", .ofList [("parts", parts), ("to", addressee)])]).1

/-- The placeholder of the author of the issue. -/
def issueAuthor : Placeholder :=
  .object (.dynamic ⟨"inputs.issue.author"⟩)

/-- The parts of the message, with a placeholder. -/
def wiredParts : StepInput :=
  .list [.literal (.string "By \x7b\x7bname\x7d\x7d"), .map [("author", .placeholder issueAuthor)]]

/-- The workflow of the notifier wired with placeholders. -/
def wiredNotify : Workflow :=
  notifyWith wiredParts (.placeholder issueAuthor)

/-- The wired workflow with its addressee written out. -/
def addressedNotify : Workflow :=
  notifyWith wiredParts (.literal (.string "\x7b\x7binputs.issue.author\x7d\x7d"))

/-- The conversion of the notifier. -/
def notifierConversion : Conversion :=
  let parts : Json := .array [.string "By \x7b\x7bname\x7d\x7d",
    .object [("author", .string "\x7b\x7binputs.issue.author\x7d\x7d")]]
  let notify := notifyWith (.literal parts)
    (.literal (.string "\x7b\x7binputs.issue.author\x7d\x7d"))
  ⟨{ name := "notifier", workflows := [notify] },
    [.stepAdded "notify" "0" "mail#/send", .converted "notifier" 0]⟩

/-- The notifier is converted. -/
theorem notifier_converts : notifier.toManifest = .ok notifierConversion :=
  rfl

/-- The description of the notifier writes the wired workflow out. -/
theorem notifier_writes_out : ∃ description,
    notifier.workflows.entries = [("notify", description)] ∧ description.WritesOut wiredNotify :=
  ⟨_, rfl, .cons ⟨rfl, rfl⟩ .nil, rfl, rfl⟩

/-- Writing out the addressee is a step of writing out. -/
theorem wiredNotify_writesOut : wiredNotify.WritesOut addressedNotify :=
  .step [] [] rfl (@Step.WritesOut.input _ "to" _ _ rfl (.placeholder issueAuthor))

/-- The wired workflow differs from the loaded one and from one that is written out in part, but can
be put in the place of both. -/
theorem wired_and_loaded_interchangeable : ∃ loaded,
    notifierConversion.manifest.workflows = [loaded] ∧ (wiredNotify == loaded) = false ∧
      wiredNotify.toJson = loaded.toJson ∧ wiredNotify.Interchangeable loaded ∧
      (wiredNotify == addressedNotify) = false ∧ wiredNotify.Interchangeable addressedNotify := by
  obtain ⟨description, hentries, hwrites⟩ := notifier_writes_out
  obtain ⟨-, hwritten, -, -, happs⟩ := Workflow.writing_out_changes_nothing
  have hworkflows := happs notifier notifierConversion notifier_converts
  rw [hentries] at hworkflows
  have hmade : wiredNotify.Made := ⟨_, _, _, _, _, _, rfl⟩
  have hlinked : wiredNotify.Linked [] := by
    intro step hstep
    obtain rfl := List.mem_singleton.1 hstep
    rfl
  obtain ⟨hjson, hinterchange⟩ :=
    (List.forall₂_cons.1 hworkflows).1 wiredNotify hmade hwrites rfl rfl
  exact ⟨_, rfl, rfl, hjson, hinterchange rfl hlinked, rfl,
    hwritten _ _ (.single wiredNotify_writesOut)⟩

end AppDescription

end AppManifest
