import AppManifest.Proofs.Definition.Same
import AppManifest.Proofs.Manifest.Built
import AppManifest.Proofs.Manifest.Closed
import AppManifest.Proofs.Definition.Export

/-!
# What a manifest contains

A manifest contains its declarations and everything that they use, whether or not it is registered
when the manifest is exported. A manifest is consistent (`Manifest.Consistent`) if types in it with
one id are equal, and plain (`Manifest.Plain`) if no primitive type in it is named like an array or
like a reference to a type. What a manifest that declares everything it uses contains are its
declarations (`Manifest.Closed.contains_iff`).
-/

namespace AppManifest

namespace Manifest

/-- The part is declared, or is used by a part in the manifest. -/
inductive Contains (manifest : Manifest) : Part → Prop where
  | declared {part : Part} : part ∈ manifest.parts → Contains manifest part
  | used {part used : Part} : Contains manifest part → used ∈ part.uses → Contains manifest used

end Manifest

/-- No primitive type that occurs directly in the part is named like an array or like a reference to
a type. -/
def Part.Plain : Part → Prop
  | .function entity =>
      Definition.ArePlain entity.inputs.properties.entries ∧
        Definition.ArePlain entity.outputs.properties.entries
  | .type entity => entity.definition.Plain
  | .workflow entity =>
      Definition.ArePlain entity.inputParameters.properties.entries ∧
        Definition.ArePlain entity.outputParameters.properties.entries
  | .datastore entity => Definition.ArePlain entity.attributes.entries
  | .provider _ => True

namespace Manifest

variable {manifest : Manifest} {part : Part}

/-- Every part in the manifest is built. -/
def Built (manifest : Manifest) : Prop :=
  ∀ part, manifest.Contains part → part.Built

/-- Types in the manifest with the same id are equal. -/
def Consistent (manifest : Manifest) : Prop :=
  ∀ first second, manifest.Contains (.type first) → manifest.Contains (.type second) →
    first.id = second.id → first.same second = true

/-- No primitive type in the manifest is named like an array or like a reference to a type. -/
def Plain (manifest : Manifest) : Prop :=
  ∀ part, manifest.Contains part → part.Plain

/-- What is reached from the declarations is in the manifest. -/
theorem Contains.of_reaches {registry : Registry} (h : registry.Reaches manifest.parts part) :
    manifest.Contains part := by
  induction h with
  | given hmem => exact .declared hmem
  | used _ _ hused ih => exact ih.used hused

/-- What is registered when the manifest is exported is in the manifest. -/
theorem Contains.of_keeps (h : manifest.collected.Keeps part) : manifest.Contains part :=
  .of_reaches (manifest.collected_grows.reached h)

/-- In a manifest that declares everything it uses are just its declarations. -/
theorem Closed.contains_iff (h : manifest.Closed) :
    manifest.Contains part ↔ part ∈ manifest.parts := by
  constructor
  · intro hcontains
    induction hcontains with
    | declared hmem => exact hmem
    | used _ hused ih => exact h.uses _ ih _ hused
  · exact .declared

/-- A manifest that declares everything it uses is consistent. -/
theorem Closed.consistent (h : manifest.Closed) : manifest.Consistent := by
  intro first second hfirst hsecond hid
  have heq := h.distinct _ (h.contains_iff.1 hfirst) _ (h.contains_iff.1 hsecond) rfl hid
  cases heq
  exact first.same_self

end Manifest

/-- The definitions are plain exactly if each of them is. -/
theorem Definition.arePlain_iff {properties : List (String × Definition)} :
    Definition.ArePlain properties ↔ ∀ entry ∈ properties, entry.2.Plain := by
  induction properties with
  | nil =>
      constructor
      · intro _ _ h
        cases h
      · intro _
        trivial
  | cons head rest ih => rw [Definition.ArePlain, ih, List.forall_mem_cons]

/-- A type whose values are texts. -/
def labelType : CustomType :=
  ⟨"label", .ofKind (.primitive .string), none, none⟩

/-- A type whose values are lists of labels. -/
def issueType : CustomType :=
  ⟨"issue", .ofKind (.array (.ofKind (.custom labelType))), some "Issue", none⟩

/-- A function that takes an issue. -/
def closeFunction : AppFunction where
  id := "close"
  title := "Close"
  sourceFile := "close.ts"
  inputs := ParameterSet.empty.withProperty "issue" (.ofKind (.custom issueType))

/-- An app that declares only the function. -/
def closeManifest : Manifest :=
  .ofDeclarations "tracker" [.function closeFunction]

/-- The app contains no more than its function and the types that this uses. -/
theorem closeManifest_contains {part : Part} (h : closeManifest.Contains part) :
    part ∈ [.function closeFunction, .type issueType, .type labelType] := by
  induction h with
  | declared hmem => exact List.mem_cons.2 (.inl (List.mem_singleton.1 hmem))
  | used _ hused ih =>
      simp only [List.mem_cons, List.not_mem_nil, or_false] at ih ⊢
      rcases ih with rfl | rfl | rfl
      · exact .inr (.inl (List.mem_singleton.1 hused))
      · exact .inr (.inr (List.mem_singleton.1 hused))
      · cases hused

/-- The app contains its function and the types that this uses, and nothing else. -/
theorem closeManifest_contains_iff {part : Part} : closeManifest.Contains part ↔
    part ∈ [.function closeFunction, .type issueType, .type labelType] := by
  refine ⟨closeManifest_contains, fun h => ?_⟩
  have hfunction : closeManifest.Contains (.function closeFunction) :=
    .declared List.mem_cons_self
  have hissue : closeManifest.Contains (.type issueType) := hfunction.used List.mem_cons_self
  simp only [List.mem_cons, List.not_mem_nil, or_false] at h
  rcases h with rfl | rfl | rfl
  · exact hfunction
  · exact hissue
  · exact hissue.used List.mem_cons_self

end AppManifest
