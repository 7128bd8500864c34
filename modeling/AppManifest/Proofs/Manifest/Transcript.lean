import AppManifest.Proofs.Manifest.Contents
import AppManifest.Proofs.Manifest.Registration
import AppManifest.Proofs.Registry.Transcript

/-!
# What the log of a run says

The log of a run is read off its transcript (`Registry.log_is_faithful`): it has one event for each
visit but those of rejected providers, in the order of the visits, it registers just the parts that
are kept, and it tells equal from different definitions. Exporting a manifest is such a run. If
there is a document, the log ends with the sizes of its sections, and if there is none, the run
ended with the provider that was rejected.
-/

namespace AppManifest

/-- Providers are registered part by part as far as they are registered. -/
theorem Registry.exists_registerProviders_eq (registry : Registry) (providers : List Provider) :
    ∃ front, front <+: providers ∧
      (registry.registerProviders providers).1 = registry.registerParts (front.map .provider) := by
  induction providers generalizing registry with
  | nil => exact ⟨[], List.prefix_rfl, rfl⟩
  | cons provider rest ih =>
      rw [registerProviders]
      cases hprovider : registry.registerProvider provider with
      | ok middle =>
          obtain ⟨front, hfront, heq⟩ := ih middle
          refine ⟨provider :: front, List.cons_prefix_cons.2 ⟨rfl, hfront⟩, ?_⟩
          rw [List.map_cons, registerParts_cons, registerPart, hprovider]
          exact heq
      | error error => exact ⟨[], List.nil_prefix, rfl⟩

namespace Manifest

/-- What exporting the manifest does to a fresh registry, if no provider is rejected. -/
def operations (manifest : Manifest) : List Registry.Operation :=
  manifest.functions.map .function ++ manifest.workflows.map .workflow ++
    manifest.types.map .type ++ manifest.datastores.map .datastore ++
    manifest.providers.map .provider

/-- The operations register the declared parts. -/
theorem collected_eq_applyAll (manifest : Manifest) :
    manifest.collected = Registry.empty.applyAll manifest.operations := by
  have hparts : manifest.operations.flatMap Registry.Operation.parts = manifest.parts := by
    simp [operations, parts, List.flatMap_append, List.flatMap_map, Registry.Operation.parts,
      ← List.map_eq_flatMap]
  rw [Registry.applyAll_eq, hparts, collected]

/-- Exporting a manifest does what registering its declarations does, up to a point. -/
theorem exists_registerAll_eq (manifest : Manifest) : ∃ operations,
    operations <+: manifest.operations ∧
      manifest.registerAll.1 = Registry.empty.applyAll operations := by
  obtain ⟨front, hfront, heq⟩ :=
    Registry.exists_registerProviders_eq manifest.register manifest.providers
  refine ⟨{ manifest with providers := front }.operations, ?_, ?_⟩
  · exact (List.prefix_append_right_inj _).2 (hfront.map _)
  · rw [← collected_eq_applyAll, registerAll, heq, register_eq, ← Registry.registerParts_append]
    rfl

/-- The run of an export that fails is reported without its end. -/
theorem events_of_error {manifest : Manifest} {error : ExportError}
    (h : manifest.compile.result = .error error) : ∃ operations,
    operations <+: manifest.operations ∧
      manifest.compile.events = (Registry.empty.applyAll operations).events := by
  obtain ⟨operations, hfront, heq⟩ := manifest.exists_registerAll_eq
  refine ⟨operations, hfront, ?_⟩
  rw [← heq]
  cases houtcome : manifest.registerAll.2 with
  | ok =>
      rw [compile, registerAll_eq houtcome] at h
      cases h
  | error error' =>
      have hall : manifest.registerAll = (manifest.registerAll.1, .error error') :=
        Prod.ext rfl houtcome
      rw [compile, hall]

end Manifest

/-- A coherent registry is written with as many functions and types as it has. -/
theorem Registry.Coherent.size_sections {registry : Registry} (h : registry.Coherent) :
    registry.sections.functions.size = registry.functions.size ∧
      registry.sections.types.size = registry.types.size := by
  have hfunctions := (h.keys_perm .function).length_eq
  have htypes := (h.keys_perm .type).length_eq
  simp only [Sections.keys, Table.names, Entries.names, ids, List.length_map] at hfunctions htypes
  exact ⟨hfunctions, htypes⟩

/-- The run of an export that gives a document is reported with the sizes of its sections. -/
theorem Manifest.events_of_document {manifest : Manifest} {document : Document}
    (h : manifest.compile.result = .ok document) :
    manifest.compile.events = (Registry.empty.applyAll manifest.operations).events ++
      [.registrationComplete manifest.name document.sections.functions.size
        document.sections.types.size] := by
  obtain ⟨hfunctions, htypes⟩ :=
    (Registry.registerParts_grows manifest.parts .empty).coherent.size_sections
  rw [eq_of_compile h, ← collected_eq_applyAll, compile, registerAll_of_compile h]
  show manifest.collected.events ++ [manifest.completion manifest.collected] =
    manifest.collected.events ++ [.registrationComplete manifest.name
      manifest.collected.sections.functions.size manifest.collected.sections.types.size]
  rw [completion, collected, hfunctions, htypes]

namespace Registry

/-- The log of the registry reports these visits, and says truly what came of them. -/
structure IsLoggedAs (registry : Registry) (visits : List Visit) : Prop where
  /-- There is one event for each visit but those of rejected providers, in the order in which the
  visits began. -/
  events : registry.events = Visit.log visits
  /-- The ids of a kind that are reported as registered are those of the entries, each once. -/
  registered : ∀ kind, registry.events.filterMap (Event.registeredId? kind) = registry.ids kind ∧
    (registry.ids kind).Nodup
  /-- What is reported as not registered comes after the report that something of the kind and the
  id was. -/
  preceded : ∀ kind id front event back, registry.events = front ++ event :: back →
    event = .alreadyRegistered kind id ∨ event = .conflicting kind id →
      .registered kind id ∈ front
  /-- A part that was not inserted was visited after one that was and is kept. It was reported as
  being in conflict with it exactly if they differ, unless it was a provider. -/
  refused : ∀ front part outcome back, Visit.entries visits = front ++ (part, outcome) :: back →
    outcome ≠ some .inserted → ∃ kept, registry.Keeps kept ∧ (kept, some .inserted) ∈ front ∧
      kept.kind = part.kind ∧ kept.id = part.id ∧
      outcome = if part.kind = .provider then none
        else if kept.same part then some .unchanged else some .conflicting
  /-- A visit leads to those of the parts that the part uses, if it was inserted. -/
  nested : ∀ visit ∈ Visit.allOf visits, visit.nested.map Visit.part =
    if visit.outcome = some .inserted then visit.part.uses else []
  /-- A visit is reported before those to which it led, at any depth. -/
  parents : ∀ visit ∈ Visit.allOf visits, ∃ front back, registry.events =
    front ++ (Visit.report visit.entry).toList ++ Visit.log visit.nested ++ back

/-- After a run that started from a fresh registry, the log reports the visits of its transcript. -/
theorem Runs.isLoggedAs {registry : Registry} {parts : List Part} {visits : List Visit}
    (h : Registry.empty.Runs parts visits registry) : registry.IsLoggedAs visits := by
  have hfollows : registry.Follows (Visit.entries visits) := h.follows .empty
  refine ⟨hfollows.events, fun kind => ⟨?_, hfollows.coherent.nodup_ids kind⟩,
    fun kind id front event back => hfollows.preceded, fun front part outcome back heq hne => ?_,
    h.nested_eq.2, fun visit hvisit => ?_⟩
  · rw [h.registerParts_eq]
    exact filterMap_registeredId? parts kind
  · obtain ⟨kept, hkept, hkind, hid, houtcome⟩ := hfollows.refused front _ back heq hne
    have hmem : (kept, some .inserted) ∈ Visit.entries visits :=
      heq ▸ List.mem_append_left _ hkept
    refine ⟨kept, (hfollows.keeps_iff kept).2 hmem, hkept, hkind, hid, houtcome.trans ?_⟩
    show (if part.kind = .provider then none else some (kept.verdict part)) = _
    rw [Part.verdict, apply_ite some]
  · rw [hfollows.events]
    exact Visit.exists_log_eq hvisit

/-- Any operations on a fresh registry have one transcript, and the log reports its visits. A
manifest that is exported does such operations, and the counts that are reported at the end are the
sizes of the sections that are written; no end is reported if there is no document. -/
theorem log_is_faithful :
    (∀ operations : List Operation, ∃ visits : List Visit,
      (∀ others after, Registry.empty.Runs (operations.flatMap Operation.parts) others after ↔
        others = visits ∧ after = Registry.empty.applyAll operations) ∧
      (Registry.empty.applyAll operations).IsLoggedAs visits) ∧
    ∀ manifest : Manifest,
      (∀ document, manifest.compile.result = .ok document →
        manifest.compile.events = (Registry.empty.applyAll manifest.operations).events ++
          [.registrationComplete manifest.name document.sections.functions.size
            document.sections.types.size]) ∧
      ∀ error, manifest.compile.result = .error error → ∃ operations,
        operations <+: manifest.operations ∧
          manifest.compile.events = (Registry.empty.applyAll operations).events := by
  refine ⟨fun operations => ?_, fun manifest =>
    ⟨fun document => Manifest.events_of_document, fun error => Manifest.events_of_error⟩⟩
  obtain ⟨visits, hvisits⟩ := exists_runs .empty (operations.flatMap Operation.parts)
  rw [← applyAll_eq] at hvisits
  exact ⟨visits, hvisits, ((hvisits visits _).2 ⟨rfl, rfl⟩).isLoggedAs⟩

/-- The function that closes issues is registered, then another type of the id of its labels, the
labels themselves, and a provider twice. -/
def labelRun : List Operation :=
  let slack : Provider := ⟨"slack", .custom, .null⟩
  [.function closeFunction, .type ⟨"label", .primitive .number, none, none⟩,
    .type labelType, .provider slack, .provider slack]

/-- The function is reported before the types that it uses, the other type as a conflict, the labels
as being there already, and the second provider not at all. The export of the function alone ends
with the sizes of its sections. -/
theorem labelRun_logged :
    (∃ visits, (Registry.empty.applyAll labelRun).IsLoggedAs visits) ∧
    (Registry.empty.applyAll labelRun).events =
      [.registered .function "close", .registered .type "issue", .registered .type "label",
        .conflicting .type "label", .alreadyRegistered .type "label",
        .registered .provider "slack"] ∧
    ∃ document, closeManifest.compile.result = .ok document ∧
      closeManifest.compile.events =
        (Registry.empty.applyAll closeManifest.operations).events ++
          [.registrationComplete "tracker" document.sections.functions.size
            document.sections.types.size] := by
  obtain ⟨hruns, hexports⟩ := log_is_faithful
  obtain ⟨visits, -, hlogged⟩ := hruns labelRun
  refine ⟨⟨visits, hlogged⟩, by decide +kernel, _, Manifest.compile_of_nodup .nil, ?_⟩
  exact (hexports closeManifest).1 _ (Manifest.compile_of_nodup .nil)

end Registry

end AppManifest
