import AppManifest.Proofs.Definition.Equality
import AppManifest.Workflow.Basic

/-!
# Equality of workflows as an equivalence

Placeholders are equal only if they are the same. Equality of step inputs, steps and workflows is an
equivalence; equal workflows are written as equal JSON values, and their steps bring equal functions
into a manifest (`Workflow.congruent_toJson`, `Workflow.localFunctions_beq`).
-/

namespace AppManifest

mutual

/-- Equal placeholders are the same. -/
theorem Placeholder.eq_of_same : (first second : Placeholder) → first.same second = true →
    first = second
  | .leaf _, .leaf _, h => congrArg Placeholder.leaf (beq_iff_eq.1 h)
  | .object first, .object second, h =>
      congrArg Placeholder.object (ObjectPlaceholder.eq_of_same first second h)

/-- Equal placeholders for objects are the same. -/
theorem ObjectPlaceholder.eq_of_same : (first second : ObjectPlaceholder) →
    first.same second = true → first = second
  | ⟨_, first⟩, ⟨_, second⟩, h => by
      simp only [ObjectPlaceholder.same, Bool.and_eq_true, beq_iff_eq] at h
      rw [h.1, Placeholder.eq_of_sameDeclared first second h.2]

/-- Equal named placeholders are the same. -/
theorem Placeholder.eq_of_sameDeclared : (first second : List (String × Placeholder)) →
    Placeholder.sameDeclared first second = true → first = second
  | [], [], _ => rfl
  | (_, first) :: rest, (_, second) :: others, h => by
      simp only [Placeholder.sameDeclared, Bool.and_eq_true, beq_iff_eq] at h
      rw [h.1.1, Placeholder.eq_of_same first second h.1.2,
        Placeholder.eq_of_sameDeclared rest others h.2]

end

instance : LawfulBEq Placeholder where
  eq_of_beq {first second} := Placeholder.eq_of_same first second

instance : LawfulBEq ObjectPlaceholder where
  eq_of_beq {first second} := ObjectPlaceholder.eq_of_same first second

namespace StepInput

mutual

/-- Inputs that equal one input are equal. -/
theorem euclid : (first second third : StepInput) → first.same second = true →
    first.same third = true → second.same third = true
  | .literal first, .literal second, .literal third, h, h' => by
      have hsame : (first == second) = true := h
      exact BEq.trans (BEq.symm hsame) h'
  | .placeholder first, .placeholder second, .placeholder third, h, h' => by
      have hsame : (first == second) = true := h
      exact BEq.trans (BEq.symm hsame) h'
  | .list first, .list second, .list third, h, h' => euclidItems first second third h h'
  | .map first, .map second, .map third, h, h' => euclidEntries first second third h h'

/-- Lists of inputs that equal one list are equal. -/
theorem euclidItems : (first second third : List StepInput) → sameItems first second = true →
    sameItems first third = true → sameItems second third = true
  | [], [], [], _, _ => rfl
  | first :: rest, second :: others, third :: more, h, h' => by
      simp only [sameItems, Bool.and_eq_true] at h h' ⊢
      exact ⟨euclid first second third h.1 h'.1, euclidItems rest others more h.2 h'.2⟩

/-- Named inputs that equal the same ones are equal. -/
theorem euclidEntries : (first second third : List (String × StepInput)) →
    sameEntries first second = true → sameEntries first third = true →
    sameEntries second third = true
  | [], [], [], _, _ => rfl
  | (_, first) :: rest, (_, second) :: others, (_, third) :: more, h, h' => by
      simp only [sameEntries, Bool.and_eq_true, beq_iff_eq] at h h' ⊢
      exact ⟨⟨h.1.1.symm.trans h'.1.1, euclid first second third h.1.2 h'.1.2⟩,
        euclidEntries rest others more h.2 h'.2⟩

end

mutual

/-- Equal inputs have equal wire forms. -/
theorem templatize_beq : (first second : StepInput) → first.same second = true →
    (first.templatize == second.templatize) = true
  | .literal _, .literal _, h => h
  | .placeholder first, .placeholder second, h => by
      rw [Placeholder.eq_of_same first second h]
      exact BEq.rfl
  | .list first, .list second, h => by
      rw [templatize, templatize, Json.array_beq]
      exact templatizeItems_beq first second h
  | .map first, .map second, h => by
      rw [templatize, templatize, Json.object_beq]
      exact templatizeEntries_beq first second h

/-- Equal lists of inputs have equal wire forms. -/
theorem templatizeItems_beq : (first second : List StepInput) → sameItems first second = true →
    (templatizeItems first == templatizeItems second) = true
  | [], [], _ => rfl
  | first :: rest, second :: others, h => by
      rw [sameItems, Bool.and_eq_true] at h
      rw [templatizeItems, templatizeItems, List.cons_beq_cons, Bool.and_eq_true]
      exact ⟨templatize_beq first second h.1, templatizeItems_beq rest others h.2⟩

/-- Equal named inputs have equal wire forms. -/
theorem templatizeEntries_beq : (first second : List (String × StepInput)) →
    sameEntries first second = true →
    (templatizeEntries first == templatizeEntries second) = true
  | [], [], _ => rfl
  | (_, first) :: rest, (_, second) :: others, h => by
      simp only [sameEntries, Bool.and_eq_true] at h
      rw [templatizeEntries, templatizeEntries, List.cons_beq_cons, Bool.and_eq_true, pair_beq_iff]
      exact ⟨⟨h.1.1, templatize_beq first second h.1.2⟩, templatizeEntries_beq rest others h.2⟩

end

end StepInput

instance : EquivBEq StepInput :=
  equivBEq_of_euclid fun {first second third} => StepInput.euclid first second third

/-- Steps are equal exactly if they are the same up to equality of functions and inputs. -/
theorem Step.beq_iff {first second : Step} :
    (first == second) = true ↔ first.id = second.id ∧ first.reference = second.reference ∧
      (first.definition == second.definition) = true ∧ (first.inputs == second.inputs) = true ∧
      first.outputs = second.outputs := by
  show first.same second = true ↔ _
  simp only [same, Bool.and_eq_true, beq_iff_eq, and_assoc]

/-- Workflows are equal exactly if they are the same up to equality of parameters and steps. -/
theorem Workflow.beq_iff {first second : Workflow} :
    (first == second) = true ↔ first.id = second.id ∧ first.title = second.title ∧
      first.description = second.description ∧
      (first.inputParameters == second.inputParameters) = true ∧
      (first.outputParameters == second.outputParameters) = true ∧
      first.inputs = second.inputs ∧ (first.steps == second.steps) = true := by
  show first.same second = true ↔ _
  simp only [same, Bool.and_eq_true, beq_iff_eq, and_assoc]

instance : EquivBEq Step :=
  equivBEq_of_key
    (fun step => ((((step.id, step.reference), step.definition), step.inputs), step.outputs))
    fun _ _ => rfl

instance : EquivBEq Workflow :=
  equivBEq_of_key (fun workflow => ((((((workflow.id, workflow.title), workflow.description),
    workflow.inputParameters), workflow.outputParameters), workflow.inputs), workflow.steps))
    fun _ _ => rfl

namespace Step

/-- Equal steps are written as equal values. -/
theorem congruent_toJson : Congruent toJson := by
  intro first second h
  obtain ⟨hid, hreference, -, hinputs, -⟩ := beq_iff.1 h
  have hwire : Congruent StepInput.templatize :=
    fun first second h => StepInput.templatize_beq first second h
  have htable := Json.congruent_ofTable (Table.congruent_map hwire hinputs)
  rw [toJson, toJson, Json.object_beq, hid, hreference]
  simp only [List.cons_beq_cons, Bool.and_eq_true, pair_beq_iff, StepInputs.templatize, htable,
    BEq.rfl, and_self]

/-- Equal steps bring equal functions into a manifest. -/
theorem congruent_localFunction? : Congruent localFunction? := by
  intro first second h
  obtain ⟨-, hreference, hdefinition, -⟩ := beq_iff.1 h
  rw [localFunction?, localFunction?, isLocal, isLocal, hreference]
  split
  · exact hdefinition
  · rfl

end Step

namespace Workflow

/-- The members of equal parameter sets are equal. -/
theorem congruent_parameterMember (name : String) : Congruent (parameterMember name) := by
  intro first second h
  have hempty : first.isEmpty = second.isEmpty :=
    Table.isEmpty_eq_of_names (Table.names_eq_of_beq (ParameterSet.beq_iff.1 h).1)
  rw [parameterMember, parameterMember, hempty]
  refine Json.congruent_member name ?_
  split
  · rfl
  · exact ParameterSet.congruent_toJson h

/-- Equal workflows are written as equal values. -/
theorem congruent_toJson : Congruent toJson := by
  intro first second h
  obtain ⟨-, htitle, hdescription, hinputs, houtputs, -, hsteps⟩ := beq_iff.1 h
  have harray : (Json.array (first.steps.map Step.toJson) ==
      .array (second.steps.map Step.toJson)) = true := by
    rw [Json.array_beq]
    exact Step.congruent_toJson.list hsteps
  rw [toJson, toJson, Json.object_beq, htitle, hdescription]
  refine list_append_beq (list_append_beq (list_append_beq BEq.rfl
    (congruent_parameterMember _ hinputs)) (congruent_parameterMember _ houtputs)) ?_
  simp only [List.cons_beq_cons, Bool.and_eq_true, pair_beq_iff, harray, BEq.rfl, and_self]

/-- The steps of equal workflows bring equal functions into a manifest. -/
theorem localFunctions_beq {first second : Workflow} (h : (first == second) = true) :
    (first.localFunctions == second.localFunctions) = true := by
  obtain ⟨-, -, -, -, -, -, hsteps⟩ := beq_iff.1 h
  exact list_beq_iff.2 (List.rel_filterMap
    (fun _ _ hstep => option_beq_iff.1 (Step.congruent_localFunction? hstep))
    (list_beq_iff.1 hsteps))

end Workflow

end AppManifest
