import Mathlib.Data.List.Induction
import AppManifest.Proofs.Manifest.Registration
import AppManifest.Proofs.Workflow.Writing

/-!
# When exporting fails

Exporting a manifest can fail in two places: a provider may be rejected while the declarations are
registered, and the inputs of a step may turn out not to be writable afterwards (`Manifest.write`).
The second never happens, so exporting fails exactly if two providers have one key, and the error
names the first key that repeats an earlier one (`Manifest.fails_iff_key_repeated`).
-/

namespace AppManifest

/-- The key is the first one in the list that repeats an earlier one. -/
def FirstRepeated (keys : List String) (key : String) : Prop :=
  ∃ earlier later, keys = earlier ++ key :: later ∧ earlier.Nodup ∧ key ∈ earlier

/-- Some key is the first to repeat an earlier one exactly if not all keys are distinct. -/
theorem exists_firstRepeated_iff (keys : List String) :
    (∃ key, FirstRepeated keys key) ↔ ¬ keys.Nodup := by
  constructor
  · rintro ⟨key, earlier, later, rfl, -, hkey⟩ hnodup
    exact (List.disjoint_of_nodup_append hnodup) hkey List.mem_cons_self
  · intro hrepeated
    -- from the end: the keys before the last either repeat already, or the last repeats one of them
    induction keys using List.reverseRecOn with
    | nil => exact absurd .nil hrepeated
    | append_singleton keys last ih =>
        by_cases hnodup : keys.Nodup
        · have hlast : last ∈ keys := by
            by_contra hfresh
            exact hrepeated (hnodup.append (List.nodup_singleton last)
              (List.disjoint_singleton.2 hfresh))
          exact ⟨last, keys, [], rfl, hnodup, hlast⟩
        · obtain ⟨key, earlier, later, rfl, hrest⟩ := ih hnodup
          exact ⟨key, earlier, later ++ [last], by simp, hrest⟩

namespace Registry

/-- The sections of the registered definitions, if the workflows can be written. -/
def write (registry : Registry) : Except ExportError Sections := do
  let workflows ← registry.workflows.entries.mapM fun workflow => do
    let json ← workflow.write
    return (workflow.id, json)
  return { registry.sections with workflows := .ofList workflows }

/-- The sections can be written. -/
theorem write_eq (registry : Registry) : registry.write = .ok registry.sections := by
  have hworkflows : (registry.workflows.entries.mapM fun workflow => do
      let json ← workflow.write
      return (workflow.id, json)) =
      .ok (registry.workflows.entries.map fun workflow => (workflow.id, workflow.toJson)) :=
    mapM_eq_ok (fun workflow => by rw [Workflow.write_eq]; rfl) registry.workflows.entries
  rw [write, hworkflows]
  rfl

/-- Registering providers in a registry where their keys are free ends with the first key that
repeats an earlier one. -/
theorem registerProviders_of_firstRepeated {registry : Registry} {providers : List Provider}
    {key : String} (hregistry : registry.Coherent)
    (hfree : ∀ provider ∈ providers, registry.isTaken .provider provider.key = false)
    (h : FirstRepeated (providers.map Provider.key) key) :
    (registry.registerProviders providers).2 =
      .error (.duplicateKey "oauth2 provider" key) := by
  obtain ⟨earlier, later, hkeys, hnodup, hmem⟩ := h
  obtain ⟨first, rest, rfl, rfl, hrest⟩ := List.map_eq_append_iff.1 hkeys
  obtain ⟨provider, second, rfl, rfl, rfl⟩ := List.map_eq_cons_iff.1 hrest
  have hfirst : (registry.registerProviders first).2 = .ok () :=
    registerProviders_of_free (fun other hother => hfree other (List.mem_append_left _ hother))
      hnodup
  have htaken : (registry.registerParts (first.map .provider)).isTaken .provider provider.key =
      true := by
    obtain ⟨other, hother, hkey⟩ := List.mem_map.1 hmem
    rw [← hkey]
    exact (registerParts_grows _ hregistry).covers (.provider other) (List.mem_map_of_mem hother)
  rw [registerProviders_append _ hfirst, registerProviders,
    registerProvider_of_taken htaken]

end Registry

namespace Manifest

/-- Exports the manifest. Either a provider is rejected, or the sections cannot be written, or there
is a document. -/
def write (manifest : Manifest) : Except ExportError Document := do
  let (registry, outcome) := manifest.registerAll
  outcome
  let sections ← registry.write
  return { manifest.documentOf registry with sections := sections }

/-- Only a rejected provider stops the export. -/
theorem write_eq (manifest : Manifest) :
    manifest.write = manifest.registerAll.2.map fun _ =>
      manifest.documentOf manifest.registerAll.1 := by
  rw [write]
  simp only [Registry.write_eq]
  cases manifest.registerAll.2 <;> rfl

/-- The run ends as the export does. -/
theorem result_compile (manifest : Manifest) : manifest.compile.result = manifest.write := by
  rw [write_eq, compile]
  obtain ⟨registry, outcome⟩ := manifest.registerAll
  cases outcome <;> rfl

/-- The export fails if a key repeats an earlier one, and names the first that does. -/
theorem write_of_firstRepeated {manifest : Manifest} {key : String}
    (h : FirstRepeated (manifest.providers.map Provider.key) key) :
    manifest.write = .error (.duplicateKey "oauth2 provider" key) := by
  have houtcome : manifest.registerAll.2 = .error (.duplicateKey "oauth2 provider" key) :=
    Registry.registerProviders_of_firstRepeated manifest.register_grows.coherent
      (fun provider _ => manifest.isTaken_register_provider provider.key) h
  rw [write_eq, houtcome]
  rfl

/-- The export succeeds if the keys are distinct. -/
theorem write_of_nodup {manifest : Manifest} (h : (manifest.providers.map Provider.key).Nodup) :
    manifest.write = .ok (manifest.documentOf manifest.collected) := by
  rw [write_eq, registerAll_of_nodup h]
  rfl

/-- The export fails exactly if some key repeats an earlier one; the error names the first key that
does. -/
theorem write_eq_error_iff {manifest : Manifest} {error : ExportError} :
    manifest.write = .error error ↔
      ∃ key, FirstRepeated (manifest.providers.map Provider.key) key ∧
        error = .duplicateKey "oauth2 provider" key := by
  constructor
  · intro herror
    have hrepeated : ¬ (manifest.providers.map Provider.key).Nodup := fun hnodup => by
      rw [write_of_nodup hnodup] at herror
      cases herror
    obtain ⟨key, hkey⟩ := (exists_firstRepeated_iff _).2 hrepeated
    rw [write_of_firstRepeated hkey] at herror
    exact ⟨key, hkey, (Except.error.inj herror).symm⟩
  · rintro ⟨key, hkey, rfl⟩
    exact write_of_firstRepeated hkey

end Manifest

/-- A provider whose key is taken is rejected and changes nothing; one with a free key is appended,
and this is reported. -/
theorem Registry.Coherent.apply_provider {registry : Registry} (h : registry.Coherent)
    (provider : Provider) :
    registry.apply (.provider provider) =
      if ∃ kept ∈ registry.providers.entries, kept.key = provider.key then
        (.rejected (.duplicateKey "oauth2 provider" provider.key), registry)
      else
        (.done, { registry with
          providers := registry.providers.append provider
          events := registry.events ++ [.registered .provider provider.key] }) := by
  have htaken : registry.isTaken .provider provider.key = true ↔
      ∃ kept ∈ registry.providers.entries, kept.key = provider.key := by
    rw [isTaken, h.providers.contains_iff, List.mem_map]
    rfl
  split
  next hkept => rw [apply, registerProvider_of_taken (htaken.2 hkept)]
  next hkept =>
    rw [apply, registerProvider_of_free (Bool.eq_false_iff.2 fun hkey => hkept (htaken.1 hkey))]
    rfl

namespace Manifest

/-- Exporting any manifest, with the inputs of all steps written one by one, fails exactly if two
providers have one key; the error is always the one that names the first key that repeats an earlier
one. In any state of a registry, a provider whose key is taken is rejected with this error and
changes neither the registry nor its log, and one with a free key is appended to the providers and
leaves every other section as it is. -/
theorem fails_iff_key_repeated (manifest : Manifest) :
    manifest.compile.result = manifest.write ∧
      ((∃ error, manifest.write = .error error) ↔
        ¬ (manifest.providers.map Provider.key).Nodup) ∧
      (∀ error, manifest.write = .error error ↔
        ∃ key, FirstRepeated (manifest.providers.map Provider.key) key ∧
          error = .duplicateKey "oauth2 provider" key) ∧
      ∀ operations provider,
        let registry := Registry.empty.applyAll operations
        registry.apply (.provider provider) =
          if ∃ kept ∈ registry.providers.entries, kept.key = provider.key then
            (.rejected (.duplicateKey "oauth2 provider" provider.key), registry)
          else
            (.done, { registry with
              providers := registry.providers.append provider
              events := registry.events ++ [.registered .provider provider.key] }) := by
  refine ⟨manifest.result_compile, ?_, fun error => write_eq_error_iff,
    fun operations provider =>
      (Registry.applyAll_grows operations).coherent.apply_provider provider⟩
  rw [← exists_firstRepeated_iff]
  constructor
  · rintro ⟨error, herror⟩
    obtain ⟨key, hkey, -⟩ := write_eq_error_iff.1 herror
    exact ⟨key, hkey⟩
  · rintro ⟨key, hkey⟩
    exact ⟨_, write_of_firstRepeated hkey⟩

end Manifest

end AppManifest
