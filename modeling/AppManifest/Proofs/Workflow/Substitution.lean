import Mathlib.Logic.Relation
import AppManifest.Proofs.Table
import AppManifest.Workflow.Basic

/-!
# Writing inputs out

An input has one wire form: that of a list or a map is the array or object of the wire forms in it,
in the same order, that of a placeholder is its template, and a literal is its own
(`StepInput.WireForm`, `StepInput.wireForm_iff`). Writing out a part of an input, that is, putting
the literal of its wire form in the place of a placeholder, a list or a map anywhere inside it
(`StepInput.WritesOut`), keeps the wire form. So workflows in which any parts of any inputs are
written out can be put in the place of each other (`Workflow.Interchangeable`): they are written
alike and bring the same functions and types into a registry.
-/

namespace AppManifest

/-! ## Wire forms -/

mutual

/-- The JSON value is the wire form of the input. -/
inductive StepInput.WireForm : StepInput → Json → Prop
  | literal (value : Json) : WireForm (.literal value) value
  | placeholder (value : Placeholder) : WireForm (.placeholder value) (.string value.render)
  | list {items : List StepInput} {values : List Json} :
      StepInput.WireForms items values → WireForm (.list items) (.array values)
  | map {entries : List (String × StepInput)} {members : List (String × Json)} :
      StepInput.EntriesWireForm entries members → WireForm (.map entries) (.object members)

/-- The JSON values are the wire forms of the inputs, one by one. -/
inductive StepInput.WireForms : List StepInput → List Json → Prop
  | nil : WireForms [] []
  | cons {item : StepInput} {value : Json} {items : List StepInput} {values : List Json} :
      StepInput.WireForm item value → WireForms items values →
        WireForms (item :: items) (value :: values)

/-- The named JSON values are the wire forms of the inputs, one by one and under the same names. -/
inductive StepInput.EntriesWireForm : List (String × StepInput) → List (String × Json) → Prop
  | nil : EntriesWireForm [] []
  | cons {name : String} {input : StepInput} {value : Json} {entries : List (String × StepInput)}
      {members : List (String × Json)} :
      StepInput.WireForm input value → EntriesWireForm entries members →
        EntriesWireForm ((name, input) :: entries) ((name, value) :: members)

end

mutual

/-- Templatizing an input gives its wire form. -/
theorem StepInput.wireForm_templatize : (input : StepInput) → input.WireForm input.templatize
  | .literal value => .literal value
  | .placeholder value => .placeholder value
  | .list items => .list (StepInput.wireForms_templatizeItems items)
  | .map entries => .map (StepInput.entriesWireForm_templatizeEntries entries)

/-- Templatizing a list of inputs gives their wire forms. -/
theorem StepInput.wireForms_templatizeItems : (items : List StepInput) →
    StepInput.WireForms items (StepInput.templatizeItems items)
  | [] => .nil
  | item :: rest => .cons (StepInput.wireForm_templatize item)
      (StepInput.wireForms_templatizeItems rest)

/-- Templatizing named inputs gives their wire forms. -/
theorem StepInput.entriesWireForm_templatizeEntries : (entries : List (String × StepInput)) →
    StepInput.EntriesWireForm entries (StepInput.templatizeEntries entries)
  | [] => .nil
  | (_, input) :: rest => .cons (StepInput.wireForm_templatize input)
      (StepInput.entriesWireForm_templatizeEntries rest)

end

mutual

/-- An input has no other wire form. -/
theorem StepInput.WireForm.eq_templatize {json : Json} :
    {input : StepInput} → input.WireForm json → json = input.templatize
  | _, .literal _ | _, .placeholder _ => rfl
  | _, .list h => congrArg Json.array h.eq_templatizeItems
  | _, .map h => congrArg Json.object h.eq_templatizeEntries

/-- A list of inputs has no other wire forms. -/
theorem StepInput.WireForms.eq_templatizeItems {values : List Json} :
    {items : List StepInput} → StepInput.WireForms items values →
      values = StepInput.templatizeItems items
  | _, .nil => rfl
  | _, .cons hhead hrest => by
      rw [StepInput.templatizeItems, hhead.eq_templatize, hrest.eq_templatizeItems]

/-- Named inputs have no other wire forms. -/
theorem StepInput.EntriesWireForm.eq_templatizeEntries {members : List (String × Json)} :
    {entries : List (String × StepInput)} → StepInput.EntriesWireForm entries members →
      members = StepInput.templatizeEntries entries
  | _, .nil => rfl
  | _, .cons hhead hrest => by
      rw [StepInput.templatizeEntries, hhead.eq_templatize, hrest.eq_templatizeEntries]

end

namespace StepInput

variable {input other : StepInput} {json : Json}

/-- An input has one wire form. -/
theorem wireForm_iff : input.WireForm json ↔ json = input.templatize := by
  constructor
  · exact WireForm.eq_templatize
  · rintro rfl
    exact input.wireForm_templatize

/-- The wire forms of a list are those of its items. -/
theorem templatizeItems_eq (items : List StepInput) :
    templatizeItems items = items.map templatize := by
  induction items with
  | nil => rfl
  | cons item rest ih => rw [templatizeItems, ih, List.map_cons]

/-- The wire forms of named inputs have the same names. -/
theorem templatizeEntries_append (front back : List (String × StepInput)) :
    templatizeEntries (front ++ back) = templatizeEntries front ++ templatizeEntries back := by
  induction front with
  | nil => rfl
  | cons entry rest ih => rw [List.cons_append, templatizeEntries, templatizeEntries, ih,
      List.cons_append]

/-! ## Writing out a part -/

/-- The second input is the first one with one part of it written out: in the place of a
placeholder, a list or a map, anywhere inside it, stands the literal of the wire form. -/
inductive WritesOut : StepInput → StepInput → Prop
  | placeholder (value : Placeholder) :
      WritesOut (.placeholder value) (.literal (.string value.render))
  | list {items : List StepInput} {json : Json} :
      WireForm (.list items) json → WritesOut (.list items) (.literal json)
  | map {entries : List (String × StepInput)} {json : Json} :
      WireForm (.map entries) json → WritesOut (.map entries) (.literal json)
  | item (front back : List StepInput) {input other : StepInput} :
      WritesOut input other → WritesOut (.list (front ++ input :: back))
        (.list (front ++ other :: back))
  | entry (front back : List (String × StepInput)) (name : String) {input other : StepInput} :
      WritesOut input other → WritesOut (.map (front ++ (name, input) :: back))
        (.map (front ++ (name, other) :: back))

/-- Writing out a part keeps the wire form. -/
theorem WritesOut.templatize_eq (h : input.WritesOut other) :
    input.templatize = other.templatize := by
  induction h with
  | placeholder => rfl
  | list hform => exact (wireForm_iff.1 hform).symm
  | map hform => exact (wireForm_iff.1 hform).symm
  | item front back _ ih =>
      rw [templatize, templatize, templatizeItems_eq, templatizeItems_eq]
      simp only [List.map_append, List.map_cons, ih]
  | entry front back name _ ih =>
      rw [templatize, templatize, templatizeEntries_append, templatizeEntries_append,
        templatizeEntries, templatizeEntries, ih]

end StepInput

/-! ## Steps and workflows -/

/-- The second step is the first one with one part of one input written out. -/
inductive Step.WritesOut (step : Step) : Step → Prop
  | input {name : String} {input other : StepInput} :
      step.inputs.get? name = some input → input.WritesOut other →
        Step.WritesOut step { step with inputs := step.inputs.insert name other }

/-- Writing out a part of an input changes neither how a step is written nor which function it
brings. -/
theorem Step.WritesOut.eqs {step other : Step} (h : step.WritesOut other) :
    step.toJson = other.toJson ∧ step.localFunction? = other.localFunction? := by
  cases h with
  | @input name input other hget hwrites =>
      have hvalue : (StepInputs.templatize step.inputs).get? name = some other.templatize := by
        rw [StepInputs.templatize, Table.get?_map, hget, Option.map_some, hwrites.templatize_eq]
      have hinputs : StepInputs.templatize (step.inputs.insert name other) =
          StepInputs.templatize step.inputs :=
        (Table.map_insert _ _ _ _).trans (Table.insert_eq_self hvalue)
      refine ⟨?_, rfl⟩
      rw [toJson, toJson, hinputs]

namespace Workflow

/-- The second workflow is the first one with one part of one input of one step written out. -/
inductive WritesOut (workflow : Workflow) : Workflow → Prop
  | step (front back : List Step) {step other : Step} :
      workflow.steps = front ++ step :: back → step.WritesOut other →
        WritesOut workflow { workflow with steps := front ++ other :: back }

/-- The workflows can be put in the place of each other: they have the same id and the same
parameters, are written alike, and bring the same functions. Only comparing their steps tells them
apart. -/
structure Interchangeable (first second : Workflow) : Prop where
  id : first.id = second.id
  inputParameters : first.inputParameters = second.inputParameters
  outputParameters : first.outputParameters = second.outputParameters
  toJson : first.toJson = second.toJson
  localFunctions : first.localFunctions = second.localFunctions

variable {first second third : Workflow}

/-- A workflow can be put in its own place. -/
theorem Interchangeable.refl (workflow : Workflow) : workflow.Interchangeable workflow :=
  ⟨rfl, rfl, rfl, rfl, rfl⟩

/-- What can be put in the place of something interchangeable can be put in its place. -/
theorem Interchangeable.trans (h : first.Interchangeable second)
    (h' : second.Interchangeable third) : first.Interchangeable third where
  id := h.id.trans h'.id
  inputParameters := h.inputParameters.trans h'.inputParameters
  outputParameters := h.outputParameters.trans h'.outputParameters
  toJson := h.toJson.trans h'.toJson
  localFunctions := h.localFunctions.trans h'.localFunctions

/-- Writing out a part gives an interchangeable workflow. -/
theorem WritesOut.interchangeable (h : first.WritesOut second) : first.Interchangeable second := by
  cases h with
  | @step front back step other hsteps hwrites =>
      obtain ⟨hjson, hfunction⟩ := hwrites.eqs
      refine ⟨rfl, rfl, rfl, ?_, ?_⟩
      · rw [Workflow.toJson, Workflow.toJson, hsteps]
        simp only [List.map_append, List.map_cons, hjson]
      · rw [localFunctions, localFunctions, hsteps]
        simp only [List.filterMap_append, List.filterMap_cons, hfunction]

/-- Writing out any number of parts gives an interchangeable workflow. -/
theorem interchangeable_of_writesOut (h : Relation.ReflTransGen WritesOut first second) :
    first.Interchangeable second := by
  induction h with
  | refl => exact .refl first
  | tail _ hstep ih => exact ih.trans hstep.interchangeable

end Workflow

end AppManifest
