import Mathlib.Data.List.Infix
import Mathlib.Logic.Function.Basic
import AppManifest.Reference

/-!
# Reading references

A text names a type or function exactly if it is the reference to it, and a step names the function
of an id exactly if the reference that it stands for is the reference to the function
(`Reference.functionId?_eq_some_iff`).
-/

namespace AppManifest.Reference

/-- A text begins with a root exactly if it is the root followed by what remains. -/
theorem after?_eq_some_iff {root text rest : String} :
    after? root text = some rest ↔ text = root ++ rest := by
  rw [after?, Option.map_eq_some_iff]
  constructor
  · rintro ⟨characters, hprefix, rfl⟩
    have happend := List.isPrefixOf?_eq_some_iff_append_eq.1 hprefix
    rw [← String.toList_inj, String.toList_append, String.toList_ofList, happend]
  · rintro rfl
    refine ⟨rest.toList, ?_, String.ofList_toList⟩
    rw [String.toList_append, List.isPrefixOf?_eq_some_iff_append_eq]

/-- A text refers to a type exactly if it is the reference to the type. -/
theorem typeId?_eq_some_iff {text id : String} : typeId? text = some id ↔ text = ofType id :=
  after?_eq_some_iff

/-- What follows a root is determined by the text. -/
theorem after?_append (root rest : String) : after? root (root ++ rest) = some rest :=
  after?_eq_some_iff.2 rfl

/-- References to different types differ. -/
theorem ofType_injective : Function.Injective ofType := by
  intro first second h
  have hsecond : after? typeRoot (typeRoot ++ second) = some first :=
    after?_eq_some_iff.2 h.symm
  exact (Option.some.inj ((after?_append typeRoot second).symm.trans hsecond)).symm

/-- The name of objects is no reference. -/
theorem typeId?_object : typeId? "object" = none := by
  decide

/-- The name of arrays is no reference. -/
theorem typeId?_array : typeId? "array" = none := by
  decide

/-- The reference to a type is not the name of objects. -/
theorem ofType_ne_object (id : String) : ofType id ≠ "object" := by
  intro h
  cases typeId?_object.symm.trans (typeId?_eq_some_iff.2 h.symm)

/-- The reference to a type is not the name of arrays. -/
theorem ofType_ne_array (id : String) : ofType id ≠ "array" := by
  intro h
  cases typeId?_array.symm.trans (typeId?_eq_some_iff.2 h.symm)

/-- References to different functions differ. -/
theorem ofFunction_injective : Function.Injective ofFunction := by
  intro first second h
  have hsecond : after? functionRoot (functionRoot ++ second) = some first :=
    after?_eq_some_iff.2 h.symm
  exact (Option.some.inj ((after?_append functionRoot second).symm.trans hsecond)).symm

/-- The mark is found exactly if it stands somewhere in the characters. -/
theorem hasMark_iff {characters : List Char} :
    hasMark characters = true ↔ ['#', '/'] <:+: characters := by
  induction characters with
  | nil => simp [hasMark]
  | cons head rest ih =>
      rw [List.infix_cons_iff, ← ih, hasMark.eq_def]
      split
      next heq =>
        obtain ⟨rfl, rfl⟩ := List.cons.inj heq
        exact iff_of_true rfl (.inl ⟨_, rfl⟩)
      next hnone heq =>
        obtain ⟨rfl, rfl⟩ := List.cons.inj heq
        refine ⟨.inr, fun h => h.resolve_left ?_⟩
        rintro ⟨behind, hbehind⟩
        obtain ⟨hhead, hrest⟩ := List.cons.inj hbehind
        exact hnone behind hhead.symm hrest.symm
      next heq => cases heq

/-- A text with `#/` somewhere in it stands for itself, any other text for the function of this
manifest whose id it is. -/
theorem normalize_eq (text : String) :
    normalize text = if ['#', '/'] <:+: text.toList then text else "#/functions/" ++ text := by
  rw [normalize, ofFunction, functionRoot]
  exact if_congr hasMark_iff rfl rfl

/-- A reference to a function names something in a namespace. -/
theorem isQualified_ofFunction (id : String) : isQualified (ofFunction id) = true := by
  rw [isQualified, ofFunction, String.toList_append]
  rfl

/-- A reference to a function stands for itself. -/
theorem normalize_ofFunction (id : String) : normalize (ofFunction id) = ofFunction id := by
  rw [normalize, if_pos (isQualified_ofFunction id)]

/-- The reference for which a text stands stands for itself. -/
theorem normalize_normalize (text : String) : normalize (normalize text) = normalize text := by
  rw [normalize.eq_def text]
  split
  next hqualified => rw [normalize, if_pos hqualified]
  next => exact normalize_ofFunction text

/-- A text names the function of an id exactly if it stands for the reference to the function. -/
theorem functionId?_eq_some_iff {text id : String} :
    functionId? text = some id ↔ normalize text = ofFunction id := by
  rw [functionId?]
  cases hafter : after? functionRoot text with
  | some other =>
      have htext : text = ofFunction other := after?_eq_some_iff.1 hafter
      rw [htext, normalize_ofFunction, ofFunction_injective.eq_iff, Option.some.injEq]
  | none =>
      dsimp only
      rw [normalize]
      split
      · constructor
        · intro h
          cases h
        · intro h
          cases hafter.symm.trans (after?_eq_some_iff.2 h)
      · rw [ofFunction_injective.eq_iff, Option.some.injEq]

/-- The reference to the function of an id names the function of this id, whatever is in the id. -/
theorem functionId?_ofFunction (id : String) : functionId? (ofFunction id) = some id :=
  functionId?_eq_some_iff.2 (normalize_ofFunction id)

/-- A text and the reference that it stands for name the same function, or both name none. -/
theorem functionId?_normalize (text : String) :
    functionId? (normalize text) = functionId? text := by
  refine Option.ext fun id => ?_
  rw [functionId?_eq_some_iff, functionId?_eq_some_iff, normalize_normalize]

/-- A text is written as a reference to a function of this manifest exactly if it is the reference
to one. -/
theorem isLocalFunction_iff {text : String} :
    isLocalFunction text = true ↔ ∃ id, text = ofFunction id := by
  rw [isLocalFunction, List.isPrefixOf_iff_prefix]
  constructor
  · intro h
    obtain ⟨rest, hrest⟩ := h
    refine ⟨String.ofList rest, ?_⟩
    rw [← String.toList_inj, ofFunction, String.toList_append, String.toList_ofList, hrest]
  · intro h
    obtain ⟨id, rfl⟩ := h
    rw [ofFunction, String.toList_append]
    exact List.prefix_append _ _

/-- The reference for which a text stands is that of a function of this manifest exactly if the text
names one. -/
theorem isLocalFunction_normalize (text : String) :
    isLocalFunction (normalize text) = true ↔ ∃ id, functionId? text = some id := by
  rw [isLocalFunction_iff]
  simp only [functionId?_eq_some_iff]

end AppManifest.Reference
