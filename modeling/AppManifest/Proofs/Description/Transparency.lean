import AppManifest.Proofs.Definition.Inline
import AppManifest.Proofs.Description.Placeholders
import AppManifest.Proofs.Description.References

/-!
# Types leave no trace in placeholders

Placeholders follow definitions and go through custom types, however deep these are nested, so they
are those of the definitions without types. The placeholders of a workflow are those of its input
parameters and of the outputs of the functions that its steps run: workflows for which these are
alike once types are replaced by their definitions have the same placeholders
(`Workflow.Alike.source?_eq`). In a converted app the reference of a step tells which function of
the app it runs (`Workflow.Linked`), so apps whose functions and workflows are alike in this sense
have the same placeholders (`Placeholder.types_leave_no_trace`).
-/

namespace AppManifest

namespace ParameterSet

/-- The sets have the same parameters, with definitions that do not differ once types are replaced
by their definitions. What is shown with parameters, and which of them are required, is not
compared. -/
def Alike (first second : ParameterSet) : Prop :=
  first.inline.asObject.skeleton = second.inline.asObject.skeleton

/-- Sets that are alike have the same placeholders. -/
theorem Alike.placeholderAt_eq {first second : ParameterSet} (h : first.Alike second)
    (path : Path) : first.placeholderAt path = second.placeholderAt path := by
  have hskeleton (set : ParameterSet) : Placeholder.object (set.placeholderAt path) =
      .ofDefinition path set.inline.asObject.skeleton := by
    rw [Definition.ofDefinition_skeleton, ← asObject_inline, Definition.ofDefinition_inline]
    rfl
  refine Placeholder.object.inj ?_
  rw [hskeleton first, hskeleton second, h]

end ParameterSet

/-! ## Workflows -/

/-- Both steps run functions of the app, whose outputs are alike, or neither does. -/
def Step.Alike (first second : Step) : Prop :=
  Option.Rel (fun function other => function.outputs.Alike other.outputs)
    first.definition second.definition

/-- Steps that are alike and stand at one position have the same placeholders. -/
theorem Step.Alike.outputs_eq {first second : Step} (h : first.Alike second) {position : Nat}
    {addition other : StepFunction × StepInputs} (hfirst : first.StandsAt position addition)
    (hsecond : second.StandsAt position other) : first.outputs = second.outputs := by
  rw [Step.Alike] at h
  generalize hdefinition : first.definition = definition at h
  generalize hother : second.definition = definition' at h
  cases h with
  | some houtputs =>
      rw [(hfirst.defined _ hdefinition).2, (hsecond.defined _ hother).2,
        houtputs.placeholderAt_eq]
  | none => rw [hfirst.dynamic hdefinition, hsecond.dynamic hother]

namespace Workflow

variable {first second : Workflow}

/-- The workflows have equally many steps, and these and the input parameters are alike. -/
structure Alike (first second : Workflow) : Prop where
  inputs : first.inputParameters.Alike second.inputParameters
  steps : List.Forall₂ Step.Alike first.steps second.steps

/-- Workflows that are alike and were made by adding steps have the same placeholders at every
source. -/
theorem Alike.source?_eq (h : first.Alike second) (hfirst : first.Made) (hsecond : second.Made)
    (source : Source) : first.source? source = second.source? source := by
  obtain ⟨additions, handles, hwired⟩ := hfirst.wired
  obtain ⟨others, rivals, hwired'⟩ := hsecond.wired
  cases source with
  | inputs =>
      show some first.inputs = some second.inputs
      rw [hwired.inputs, hwired'.inputs, h.inputs.placeholderAt_eq]
  | step position =>
      show first.steps[position]?.map Step.outputs = second.steps[position]?.map Step.outputs
      have halike := rel_getElem?_of_forall₂ h.steps position
      generalize hstep : first.steps[position]? = step at halike
      generalize hother : second.steps[position]? = other at halike
      cases halike with
      | some halike =>
          obtain ⟨_, hstands⟩ := hwired.standsAt hstep
          obtain ⟨_, hstands'⟩ := hwired'.standsAt hother
          exact congrArg some (halike.outputs_eq hstands hstands')
      | none => rfl

end Workflow

/-! ## Apps -/

/-- The functions have the same ids, one by one, and their outputs are alike. -/
def AppFunction.AllAlike (functions others : List AppFunction) : Prop :=
  List.Forall₂ (fun function other => function.id = other.id ∧ function.outputs.Alike other.outputs)
    functions others

/-- Among functions that are alike, a text names functions whose outputs are alike. -/
theorem AppFunction.AllAlike.named? {functions others : List AppFunction}
    (h : AllAlike functions others) (text : String) :
    Option.Rel (fun function other => function.outputs.Alike other.outputs)
      (AppFunction.named? functions text) (AppFunction.named? others text) := by
  rw [AppFunction.named?, AppFunction.named?]
  cases Reference.functionId? text with
  | none => exact .none
  | some id =>
      rw [Option.bind_some, Option.bind_some]
      induction h with
      | nil => exact .none
      | cons hhead _ ih =>
          rw [List.find?_cons, List.find?_cons, ← hhead.1]
          split
          · exact .some hhead.2
          · exact ih

namespace Workflow

variable {first second : Workflow} {functions others : List AppFunction}

/-- Workflows whose steps run the functions that they refer to are alike if the functions are, and
the input parameters, and the steps have the same references. -/
theorem Linked.alike (hfirst : first.Linked functions) (hsecond : second.Linked others)
    (hfunctions : AppFunction.AllAlike functions others)
    (hinputs : first.inputParameters.Alike second.inputParameters)
    (hreferences : first.steps.map Step.reference = second.steps.map Step.reference) :
    first.Alike second := by
  refine ⟨hinputs, ?_⟩
  rw [Linked] at hfirst hsecond
  generalize first.steps = steps at hfirst hreferences
  generalize second.steps = rivals at hsecond hreferences
  induction steps generalizing rivals with
  | nil =>
      cases rivals with
      | nil => exact .nil
      | cons => cases hreferences
  | cons step rest ih =>
      cases rivals with
      | nil => cases hreferences
      | cons rival remaining =>
          rw [List.map_cons, List.map_cons, List.cons.injEq] at hreferences
          obtain ⟨hstep, hrest⟩ := List.forall_mem_cons.1 hfirst
          obtain ⟨hrival, hremaining⟩ := List.forall_mem_cons.1 hsecond
          refine .cons ?_ (ih hrest remaining hremaining hreferences.2)
          rw [Step.Alike, hstep, hrival, hreferences.1]
          exact hfunctions.named? rival.reference

end Workflow

/-- The workflows of a converted app are made by adding steps, which run the functions of the app
that they refer to. -/
theorem AppDescription.Declares.made_and_linked {app : AppDescription} {manifest : Manifest}
    (h : app.Declares manifest) : ∀ workflow ∈ manifest.workflows,
      workflow.Made ∧ workflow.Linked manifest.functions := by
  intro workflow hworkflow
  obtain ⟨_, -, hdeclared⟩ := exists_left_of_forall₂ h.workflows hworkflow
  exact ⟨hdeclared.made, hdeclared.linked⟩

/-- The apps have the same functions and workflows up to what is named as a type: the outputs of the
functions and the inputs of the workflows are alike, and the steps have the same references. -/
structure Manifest.Alike (first second : Manifest) : Prop where
  functions : AppFunction.AllAlike first.functions second.functions
  workflows : List.Forall₂ (fun workflow other =>
    workflow.inputParameters.Alike other.inputParameters ∧
      workflow.steps.map Step.reference = other.steps.map Step.reference)
    first.workflows second.workflows

/-- Converted apps that are alike have the same placeholders at every source of their workflows. -/
theorem Manifest.Alike.sources {app rival : AppDescription} {first second : Manifest}
    (h : first.Alike second) (hfirst : app.Declares first) (hsecond : rival.Declares second) :
    List.Forall₂ (fun workflow other =>
        ∀ source, Workflow.source? workflow source = Workflow.source? other source)
      first.workflows second.workflows := by
  refine List.forall₂_iff_get.2 ?_
  obtain ⟨hlength, hworkflows⟩ := List.forall₂_iff_get.1 h.workflows
  refine ⟨hlength, fun position hlt hlt' => ?_⟩
  obtain ⟨hmade, hlinked⟩ := hfirst.made_and_linked _ (List.get_mem _ ⟨position, hlt⟩)
  obtain ⟨hmade', hlinked'⟩ := hsecond.made_and_linked _ (List.get_mem _ ⟨position, hlt'⟩)
  obtain ⟨hinputs, hreferences⟩ := hworkflows position hlt hlt'
  exact (hlinked.alike hlinked' h.functions hinputs hreferences).source?_eq hmade hmade'

/-- A definition has the placeholder of what is left when every type in it is replaced by its
definition, and so has a parameter set. So workflows that differ only in which parts of their
parameters are named as types have the same placeholders for their inputs and for the outputs of
their steps, and converted apps that differ only in this have the same placeholders throughout. -/
theorem Placeholder.types_leave_no_trace :
    (∀ definition : Definition, definition.inline.allTypes = [] ∧
      (definition.allTypes = [] → definition.inline = definition) ∧
      ∀ space name : String, build space name definition = build space name definition.inline) ∧
    (∀ (space name : String) (set : ParameterSet),
      ObjectPlaceholder.ofSet space name set = .ofSet space name set.inline) ∧
    (∀ first second : Workflow, first.Made → second.Made → first.Alike second →
      ∀ source, first.source? source = second.source? source) ∧
    ∀ (app rival : AppDescription) (conversion other : Conversion),
      app.toManifest = .ok conversion → rival.toManifest = .ok other →
      conversion.manifest.Alike other.manifest →
        List.Forall₂ (fun workflow counterpart =>
            ∀ source, Workflow.source? workflow source = Workflow.source? counterpart source)
          conversion.manifest.workflows other.manifest.workflows := by
  refine ⟨fun definition => ⟨definition.allTypes_inline, definition.inline_eq_self,
      fun space name => (definition.ofDefinition_inline _).symm⟩,
    fun space name set => (ObjectPlaceholder.ofSet_inline space name set).symm,
    fun first second hfirst hsecond halike => halike.source?_eq hfirst hsecond,
    fun app rival conversion other hfirst hsecond halike => ?_⟩
  exact halike.sources (AppDescription.toManifest_iff.1 ⟨conversion, hfirst, rfl⟩)
    (AppDescription.toManifest_iff.1 ⟨other, hsecond, rfl⟩)

namespace AppDescription

/-- An app with a function and a workflow, given the types, and the schemas of the person that the
function finds and of the author that the workflow takes. -/
def desk (types : Table Json) (person author : Json) : AppDescription where
  name := "desk"
  types := types
  functions := .ofList [("find", {
    title := "Find"
    sourceFile := "find.ts"
    outputs := { properties := .ofList [("found", person)] } })]
  workflows := .ofList [("greet", {
    title := "Greet"
    inputs := { properties := .ofList [("author", author)] }
    steps := [{ function := "find" }, { function := "mail#/send" }] })]

/-- The desk with types: an author is another name for a person, who has tags of a type. -/
def typedDesk : AppDescription :=
  desk (.ofList [
      ("author", .object [("title", .string "Author"), ("type", .string "#/types/person")]),
      ("person", .object [("properties", .object [("tags", .object [
          ("items", .object [("type", .string "#/types/tag")]), ("type", .string "array")])]),
        ("type", .string "object")]),
      ("tag", .object [("type", .string "string")])])
    (.object [("type", .string "#/types/person")]) (.object [("type", .string "#/types/author")])

/-- The schema of a person without types. -/
def spelledPerson : Json :=
  .object [("properties", .object [("tags", .object [
      ("items", .object [("type", .string "string")]), ("type", .string "array")])]),
    ("type", .string "object")]

/-- The desk without types. -/
def spelledDesk : AppDescription :=
  desk ∅ spelledPerson spelledPerson

/-- The conversion of a desk, given the types and the definitions of a person and of an author. -/
def deskConversion (types : List CustomType) (person author : Definition) : Conversion :=
  let find : AppFunction :=
    { id := "find"
      title := "Find"
      sourceFile := "find.ts"
      outputs := { properties := .ofList [("found", person)] } }
  let greet := ((Workflow.make "greet" "Greet" none { properties := .ofList [("author", author)] }
    .empty).addSteps [(.defined find, ∅), (.named "mail#/send", ∅)]).1
  ⟨{ name := "desk", functions := [find], workflows := [greet], types := types },
    [.stepAdded "greet" "0" "#/functions/find", .stepAdded "greet" "1" "mail#/send",
      .converted "desk" types.length]⟩

/-- The type of the tags of the desk. -/
def deskTag : CustomType :=
  ⟨"tag", .primitive .string, none, none⟩

/-- The definition of a person whose tags are defined so. -/
def personOf (tag : Definition) : Definition :=
  .ofKind (.typedObject [("tags", .array tag)] [] none)

/-- The type of the persons of the desk. -/
def deskPerson : CustomType :=
  ⟨"person", personOf (.custom deskTag), none, none⟩

/-- The type of the authors of the desk. -/
def deskAuthor : CustomType :=
  ⟨"author", .custom deskPerson, some "Author", none⟩

/-- What the desk with types is converted to. -/
def typedConversion : Conversion :=
  deskConversion [deskAuthor, deskPerson, deskTag] (.custom deskPerson) (.custom deskAuthor)

/-- The conversion of the desk without types. -/
def spelledConversion : Conversion :=
  deskConversion [] (personOf (.primitive .string)) (personOf (.primitive .string))

/-- The desk with types declares what it is converted to: an author is a person, whose tags are of
the type of tags. -/
theorem typedDesk_declares : typedDesk.Declares typedConversion.manifest := by
  have htag : Resolves typedDesk.schemas "tag" deskTag :=
    resolves_iff.2 ⟨.primitive .string {}, _, rfl, rfl, rfl⟩
  have htags : (Schema.array (.reference "tag" {}) {}).Defines (Resolves typedDesk.schemas)
      (.array (.custom deskTag)) := ⟨_, ⟨deskTag, htag, rfl⟩, rfl⟩
  have hperson : Resolves typedDesk.schemas "person" deskPerson :=
    resolves_iff.2 ⟨.typedObject [("tags", .array (.reference "tag" {}) {})] [] none {}, _, rfl,
      ⟨_, ⟨_, _, htags, rfl, rfl⟩, rfl⟩, rfl⟩
  have hauthor : Resolves typedDesk.schemas "author" deskAuthor :=
    resolves_iff.2 ⟨.reference "person" { title := some "Author" }, _, rfl,
      ⟨deskPerson, hperson, rfl⟩, rfl⟩
  have hnone : ParameterSetDescription.Declares typedDesk.schemas {} .empty := ⟨∅, rfl, rfl⟩
  have hfound : ParameterSetDescription.Declares typedDesk.schemas
      { properties := .ofList [("found", .object [("type", .string "#/types/person")])] }
      { properties := .ofList [("found", .custom deskPerson)] } :=
    ⟨_, ⟨_, _, ⟨deskPerson, hperson, rfl⟩, rfl, rfl⟩, rfl⟩
  have hinputs : ParameterSetDescription.Declares typedDesk.schemas
      { properties := .ofList [("author", .object [("type", .string "#/types/author")])] }
      { properties := .ofList [("author", .custom deskAuthor)] } :=
    ⟨_, ⟨_, _, ⟨deskAuthor, hauthor, rfl⟩, rfl, rfl⟩, rfl⟩
  exact {
    name := rfl
    description := rfl
    longDescription := rfl
    icon := rfl
    botScopes := rfl
    types := .cons hauthor (.cons hperson (.cons htag .nil))
    functions := .cons ⟨_, hnone, _, hfound, rfl⟩ .nil
    workflows := .cons ⟨_, hinputs, _, hnone, rfl⟩ .nil
    datastores := .nil
    providers := rfl }

/-- The desk without types is converted. -/
theorem spelledDesk_converts : spelledDesk.toManifest = .ok spelledConversion :=
  rfl

/-- The desks differ only in what is named as a type. -/
theorem desks_alike : typedConversion.manifest.Alike spelledConversion.manifest where
  functions := .cons ⟨rfl, rfl⟩ .nil
  workflows := .cons ⟨rfl, rfl⟩ .nil

/-- The workflows of the desks have the same placeholders, those of the first step among them. -/
theorem desks_have_same_placeholders : ∃ workflow other,
    typedConversion.manifest.workflows = [workflow] ∧
    spelledConversion.manifest.workflows = [other] ∧
    (∀ source, workflow.source? source = other.source? source) ∧
    workflow.source? (.step 0) = some ⟨⟨"steps.0"⟩, [("found", .object ⟨⟨"steps.0.found"⟩,
      [("tags", .leaf ⟨"steps.0.found.tags"⟩)]⟩)]⟩ := by
  obtain ⟨-, -, -, happs⟩ := Placeholder.types_leave_no_trace
  obtain ⟨conversion, hconversion, hmanifest⟩ := toManifest_iff.2 typedDesk_declares
  have hworkflows := happs typedDesk spelledDesk conversion spelledConversion hconversion
    spelledDesk_converts (hmanifest ▸ desks_alike)
  rw [hmanifest] at hworkflows
  exact ⟨_, _, rfl, rfl, (List.forall₂_cons.1 hworkflows).1, rfl⟩

end AppDescription

end AppManifest
