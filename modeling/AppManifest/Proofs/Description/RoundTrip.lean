import AppManifest.Proofs.Description.Read
import AppManifest.Proofs.Manifest.RoundTrip

/-!
# Round trips

What a manifest exports can be fed back in (`Manifest.sections_roundTrip`): for any manifest of
built parts that is consistent and plain, and without conditions for a manifest that came from a
description.
-/

namespace AppManifest

/-- The sections that a manifest of built parts exports can be fed back in if types in it with one
id are equal and no primitive type in it is named like an array or a reference. A manifest that came
from a description, all of which are ordered (`AppDescription.ordered_of_read`), meets both
conditions, is exported, and has sections that can be fed back in. -/
theorem Manifest.sections_roundTrip :
    (∀ {manifest : Manifest} {document : Document}, manifest.compile.result = .ok document →
      manifest.Built → manifest.Consistent → manifest.Plain → document.sections.RoundTrips) ∧
    ∀ {app : AppDescription} {conversion : Conversion}, app.Ordered →
      app.toManifest = .ok conversion →
      conversion.manifest.Consistent ∧ conversion.manifest.Plain ∧
        ∃ document, conversion.manifest.compile.result = .ok document ∧
          document.sections.RoundTrips := by
  refine ⟨roundTrips_of_compile, fun {app conversion} hordered h => ?_⟩
  have hdeclares : app.Declares conversion.manifest :=
    AppDescription.toManifest_iff.1 ⟨conversion, h, rfl⟩
  have hconsistent := hdeclares.closed.consistent
  refine ⟨hconsistent, hdeclares.plain, app.normalForm, hdeclares.compile_eq, ?_⟩
  exact roundTrips_of_compile hdeclares.compile_eq (hdeclares.built hordered) hconsistent
    hdeclares.plain

/-- What the app exports can be fed back in, and so can what the tracker exports. -/
theorem closeManifest_roundTrips :
    (∃ document, closeManifest.compile.result = .ok document ∧ document.sections.RoundTrips) ∧
      ∃ conversion document, AppDescription.tracker.toManifest = .ok conversion ∧
        conversion.manifest.compile.result = .ok document ∧ document.sections.RoundTrips := by
  have hbare : Annotations.Ordered {} := by
    intro value hvalue
    cases hvalue
  have hbuilt : closeManifest.Built := by
    intro part hpart
    have hmem := closeManifest_contains hpart
    simp only [List.mem_cons, List.not_mem_nil, or_false] at hmem
    rcases hmem with rfl | rfl | rfl
    · exact ⟨⟨⟨trivial, hbare⟩, trivial⟩, trivial⟩
    · exact ⟨⟨trivial, hbare⟩, hbare⟩
    · exact ⟨trivial, hbare⟩
  have hplain : closeManifest.Plain := by
    intro part hpart
    have hmem := closeManifest_contains hpart
    simp only [List.mem_cons, List.not_mem_nil, or_false] at hmem
    rcases hmem with rfl | rfl | rfl
    · exact ⟨⟨trivial, trivial⟩, trivial⟩
    · trivial
    · intro name hname
      cases hname
  have hconsistent : closeManifest.Consistent := by
    intro first second hfirst hsecond hid
    have hfirst := closeManifest_contains hfirst
    have hsecond := closeManifest_contains hsecond
    simp only [List.mem_cons, List.not_mem_nil, or_false, Part.type.injEq, reduceCtorEq,
      false_or] at hfirst hsecond
    rcases hfirst with rfl | rfl <;> rcases hsecond with rfl | rfl
    · exact issueType.same_self
    · simp [issueType, labelType] at hid
    · simp [issueType, labelType] at hid
    · exact labelType.same_self
  have hordered : AppDescription.tracker.Ordered := by
    refine ⟨fun id json h => ?_, fun id function h => ?_, fun id workflow h => ?_,
      (fun _ _ h => by cases h), (fun _ _ h => by cases h)⟩
    · have hmem := Table.mem_of_get?_ofList h
      simp only [List.mem_cons, Prod.mk.injEq, List.not_mem_nil, or_false] at hmem
      rcases hmem with ⟨-, rfl⟩ | ⟨-, rfl⟩
      · exact (Json.ordered_iff _).2 rfl
      · exact (Json.ordered_iff _).2 rfl
    · cases List.mem_singleton.1 (Table.mem_of_get?_ofList h)
      refine ⟨fun name json hjson => ?_, .empty⟩
      cases List.mem_singleton.1 (Table.mem_of_get?_ofList hjson)
      exact (Json.ordered_iff _).2 rfl
    · cases List.mem_singleton.1 (Table.mem_of_get?_ofList h)
      refine ⟨.empty, .empty, fun step hstep => ?_⟩
      cases List.mem_singleton.1 hstep
      exact .empty
  refine ⟨?_, ?_⟩
  · exact ⟨_, Manifest.compile_of_nodup .nil,
      Manifest.sections_roundTrip.1 (Manifest.compile_of_nodup .nil) hbuilt hconsistent hplain⟩
  · obtain ⟨conversion, h⟩ := AppDescription.tracker_converts
    obtain ⟨-, -, document, hdocument, hroundTrips⟩ := Manifest.sections_roundTrip.2 hordered h
    exact ⟨conversion, document, h, hdocument, hroundTrips⟩

end AppManifest
