import AppManifest.Manifest
import AppManifest.Proofs.Registry.Growth

/-!
# Registering the declarations of a manifest

Exporting a manifest registers its parts in a fixed order: functions, workflows, types, datastores,
providers. The only thing that can stop it is a provider whose key is taken, so a document is always
that of a registry in which all parts have been registered (`Manifest.eq_of_compile`), and there is
one if the keys are distinct (`Manifest.compile_of_nodup`).
-/

namespace AppManifest

namespace Manifest

/-- The declared parts, in the order in which they are registered. -/
def parts (manifest : Manifest) : List Part :=
  manifest.functions.map .function ++ manifest.workflows.map .workflow ++
    manifest.types.map .type ++ manifest.datastores.map .datastore ++
    manifest.providers.map .provider

/-- The registry in which all declared parts have been registered. -/
def collected (manifest : Manifest) : Registry :=
  Registry.empty.registerParts manifest.parts

/-- Everything but the providers is registered part by part. -/
theorem register_eq (manifest : Manifest) :
    manifest.register = Registry.empty.registerParts (manifest.functions.map .function ++
      manifest.workflows.map .workflow ++ manifest.types.map .type ++
      manifest.datastores.map .datastore) := by
  rw [Registry.registerParts_append, Registry.registerParts_append, Registry.registerParts_append,
    ← Registry.registerTypes_eq]
  simp only [Registry.registerParts, List.foldl_map]
  rfl

end Manifest

namespace Registry

/-- A part other than a provider uses none. -/
theorem Reaches.provider_mem {registry : Registry} {given : List Part} {provider : Provider}
    (h : registry.Reaches given (.provider provider)) : .provider provider ∈ given := by
  cases h with
  | given hmem => exact hmem
  | @used part _ _ _ hused => cases part <;> simp [Part.uses] at hused

/-- A provider with a free key is kept. -/
theorem registerProvider_of_free {registry : Registry} {provider : Provider}
    (h : registry.isTaken .provider provider.key = false) :
    registry.registerProvider provider = .ok (registry.keep (.provider provider)) := by
  have hcontains : registry.providers.contains provider.key = false := h
  have hinsert : registry.insertPart (.provider provider) =
      (.inserted, registry.keep (.provider provider)) := insertPart_of_free h
  rw [insertPart] at hinsert
  simp [registerProvider, hcontains, hinsert]

/-- A provider with a taken key is rejected. -/
theorem registerProvider_of_taken {registry : Registry} {provider : Provider}
    (h : registry.isTaken .provider provider.key = true) :
    registry.registerProvider provider = .error (.duplicateKey "oauth2 provider" provider.key) :=
  if_pos h

/-- Providers with free and distinct keys are all registered. -/
theorem registerProviders_of_free {registry : Registry} {providers : List Provider}
    (hfree : ∀ provider ∈ providers, registry.isTaken .provider provider.key = false)
    (hnodup : (providers.map Provider.key).Nodup) :
    (registry.registerProviders providers).2 = .ok () := by
  induction providers generalizing registry with
  | nil => rfl
  | cons provider rest ih =>
      have hdistinct := List.nodup_cons.1 hnodup
      rw [registerProviders, registerProvider_of_free (hfree provider List.mem_cons_self)]
      refine ih (fun other hother => Bool.eq_false_iff.2 fun htaken => ?_) hdistinct.2
      rcases isTaken_keep.1 htaken with htaken | ⟨-, hkey⟩
      · rw [hfree other (List.mem_cons_of_mem _ hother)] at htaken
        cases htaken
      · exact hdistinct.1 (List.mem_map.2 ⟨other, hother, hkey⟩)

/-- If all of a first list of providers are registered, a second list is registered after them. -/
theorem registerProviders_append {registry : Registry} {first : List Provider}
    (second : List Provider) (h : (registry.registerProviders first).2 = .ok ()) :
    registry.registerProviders (first ++ second) =
      (registry.registerParts (first.map .provider)).registerProviders second := by
  induction first generalizing registry with
  | nil => rfl
  | cons provider rest ih =>
      rw [registerProviders] at h
      rw [List.cons_append, registerProviders, List.map_cons, registerParts_cons, registerPart]
      cases hprovider : registry.registerProvider provider with
      | ok registry' =>
          rw [hprovider] at h
          exact ih h
      | error error =>
          rw [hprovider] at h
          cases h

/-- If all providers are registered, they are registered part by part. -/
theorem registerProviders_eq {registry : Registry} {providers : List Provider}
    (h : (registry.registerProviders providers).2 = .ok ()) :
    (registry.registerProviders providers).1 =
      registry.registerParts (providers.map .provider) := by
  have happend := registerProviders_append [] h
  rw [List.append_nil] at happend
  rw [happend]
  rfl

end Registry

namespace Manifest

/-- If no provider is rejected, all declared parts are registered. -/
theorem registerAll_eq {manifest : Manifest} (h : manifest.registerAll.2 = .ok ()) :
    manifest.registerAll = (manifest.collected, .ok ()) := by
  refine Prod.ext ?_ h
  rw [registerAll, Registry.registerProviders_eq h, register_eq,
    ← Registry.registerParts_append, collected, parts]

/-- If there is a document, all declared parts are registered. -/
theorem registerAll_of_compile {manifest : Manifest} {document : Document}
    (h : manifest.compile.result = .ok document) :
    manifest.registerAll = (manifest.collected, .ok ()) := by
  cases houtcome : manifest.registerAll.2 with
  | ok => exact registerAll_eq houtcome
  | error error =>
      have hall : manifest.registerAll = (manifest.registerAll.1, .error error) :=
        Prod.ext rfl houtcome
      rw [compile, hall] at h
      cases h

/-- A document is that of a registry in which all declared parts have been registered. -/
theorem eq_of_compile {manifest : Manifest} {document : Document}
    (h : manifest.compile.result = .ok document) :
    document = manifest.documentOf manifest.collected := by
  rw [compile, registerAll_of_compile h] at h
  exact (Except.ok.inj h).symm

/-- Registering everything but the providers grows the empty registry. -/
theorem register_grows (manifest : Manifest) :
    Registry.Grows (manifest.functions.map .function ++ manifest.workflows.map .workflow ++
      manifest.types.map .type ++ manifest.datastores.map .datastore) .empty manifest.register := by
  rw [register_eq]
  exact Registry.registerParts_grows _ .empty

/-- Before the providers are registered, no key of a provider is taken. -/
theorem isTaken_register_provider (manifest : Manifest) (key : String) :
    manifest.register.isTaken .provider key = false := by
  have hgrows := manifest.register_grows
  refine Bool.eq_false_iff.2 fun htaken => ?_
  -- nothing that is registered before the providers uses one
  obtain ⟨part, hkeeps, hkind, -⟩ := hgrows.coherent.isTaken_iff.1 htaken
  cases part <;> cases hkind
  rcases hgrows.origin _ hkeeps with hkeeps | hreaches
  · cases hkeeps
  · simpa using hreaches.provider_mem

/-- If the providers have distinct keys, all declared parts are registered. -/
theorem registerAll_of_nodup {manifest : Manifest}
    (h : (manifest.providers.map Provider.key).Nodup) :
    manifest.registerAll = (manifest.collected, .ok ()) :=
  registerAll_eq (Registry.registerProviders_of_free
    (fun provider _ => manifest.isTaken_register_provider provider.key) h)

/-- A manifest whose providers have distinct keys is exported, and the run reports what registering
its parts does and then that it is complete. -/
theorem compile_eq_of_nodup {manifest : Manifest}
    (h : (manifest.providers.map Provider.key).Nodup) :
    manifest.compile =
      ⟨manifest.collected.events ++ [manifest.completion manifest.collected],
        .ok (manifest.documentOf manifest.collected)⟩ := by
  rw [compile, registerAll_of_nodup h]

/-- A manifest whose providers have distinct keys is exported. -/
theorem compile_of_nodup {manifest : Manifest}
    (h : (manifest.providers.map Provider.key).Nodup) :
    manifest.compile.result = .ok (manifest.documentOf manifest.collected) :=
  congrArg Compilation.result (compile_eq_of_nodup h)

end Manifest

end AppManifest
