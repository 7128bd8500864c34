import AppManifest.CommandLine.Basic
import AppManifest.Proofs.Description.Compilation
import AppManifest.Proofs.Manifest.Conflicts
import AppManifest.Proofs.Manifest.Writing
import AppManifest.Proofs.Registry.Log

/-!
# Converted apps are coherent

Whatever is nested in a converted manifest is declared by it: when the conversion ends, the resolver
has resolved just the declared types, every type in the manifest is the one that was resolved under
its id, and every step runs a declared function (`AppDescription.Coherent`). So the export comes
upon no conflict and cannot fail, and it reports every described definition once
(`AppDescription.Exported`). The document is written as well, and the command that has converted a
description ends with an error only if the text cannot be put into its file
(`CommandLine.FailsOnlyToWrite`).
-/

namespace AppManifest

namespace CommandLine

variable {m : Type → Type} [Monad m]

/-- The command ends well, unless it has to put the text into a file and cannot. -/
def FailsOnlyToWrite (files : Files m) (options : Options) (text : String)
    (command : m Outcome) : Prop :=
  ∃ ending : Except String Unit → Outcome, (ending (.ok ())).status = 0 ∧
    command = match options.output with
      | none => pure (ending (.ok ()))
      | some path => ending <$> files.write path text

/-- Delivering a text fails only if it cannot be put into the file. -/
theorem failsOnlyToWrite_deliver [LawfulMonad m] (files : Files m) (options : Options)
    (notes : List String) (events : List Event) (document : Document) (text : String) :
    FailsOnlyToWrite files options text (deliver files options notes events document text) := by
  rw [FailsOnlyToWrite, deliver]
  cases options.output with
  | none => exact ⟨fun _ => ⟨0, text ++ "\n", notes, none, events⟩, rfl, rfl⟩
  | some path =>
      exact ⟨stored notes events document path, rfl, (map_eq_pure_bind _ _).symm⟩

end CommandLine

variable {schemas : Table Schema}

namespace Resolver

variable {resolver final : Resolver}

/-- A type that was resolved is kept under its id. -/
theorem resolve_keeps {owner id : String} {type : CustomType}
    (h : resolve schemas owner id resolver = .ok (type, final)) :
    final.resolved.get? id = some type := by
  rw [resolve, resolveWithin_run] at h
  cases hkept : resolver.resolved.get? id with
  | some kept =>
      rw [hkept] at h
      cases h
      exact hkept
  | none =>
      rw [hkept] at h
      dsimp only at h
      split at h
      · cases h
      · split at h
        · cases h
        · cases h
        next schema budget _ _ =>
          cases hdefine : define (resolveWithin schemas budget id) id id schema
              (start id resolver) with
          | error error =>
              rw [hdefine] at h
              cases h
          | ok result =>
              rw [hdefine] at h
              cases h
              rw [finish, Table.get?_insert, if_pos]
              rfl

/-- Types that were resolved one after the other are all kept under their ids. -/
theorem mapM_resolve_keeps {ids : List String} {types : List CustomType}
    (hready : resolver.Ready schemas [])
    (h : (ids.mapM fun id => resolve schemas id id) resolver = .ok (types, final)) :
    ∀ id ∈ ids, id ∈ final.resolved.names := by
  induction ids generalizing resolver types with
  | nil => exact fun _ hid => by cases hid
  | cons head rest ih =>
      rw [List.mapM_cons] at h
      obtain ⟨type, middle, hhead, h⟩ := Resolving.exists_of_bind h
      obtain ⟨others, last, hrest, h⟩ := Resolving.exists_of_bind h
      cases h
      have hmiddle := ((resolve_agrees head head).continues hready hhead).ready
      intro id hid
      rcases List.mem_cons.1 hid with rfl | hid
      · -- what the head was resolved to is still kept after the rest
        have hcontinues := ((Computes.mapM (fun id => resolve_computes id id) rest).sound hmiddle
          hrest).2
        exact Table.mem_names_of_get? (hcontinues.keeps (resolve_keeps hhead))
      · exact ih hmiddle hrest id hid

end Resolver

namespace AppDescription

/-- The described definitions of a kind, by their names. -/
def names (app : AppDescription) : EntityKind → List String
  | .function => app.functions.names
  | .type => app.types.names
  | .workflow => app.workflows.names
  | .datastore => app.datastores.names
  | .provider => app.providerTable.names

/-- At the end of a conversion nothing is in progress and just the declared types are resolved, to
the types of the manifest; every type in the manifest is the one resolved under its id, and every
function of the app that a step runs is the declared function of its id. -/
structure Coherent (app : AppDescription) (conversion : Conversion) (resolver : Resolver) :
    Prop where
  inProgress : resolver.inProgress = []
  names : resolver.resolved.names = app.types.names
  values : resolver.resolved.values = conversion.manifest.types
  types : ∀ type, conversion.manifest.Contains (.type type) →
    resolver.resolved.get? type.id = some type
  functions : ∀ workflow ∈ conversion.manifest.workflows, ∀ function ∈ workflow.localFunctions,
    function ∈ conversion.manifest.functions ∧
      ∀ declared ∈ conversion.manifest.functions, declared.id = function.id → declared = function

/-- The export gives the normal form of the description; nothing but registrations without conflict
is reported before their end, with the numbers of described functions and types, and each described
definition is reported to be registered just once, and no other. -/
structure Exported (app : AppDescription) (compilation : Compilation) : Prop where
  result : compilation.result = .ok app.normalForm
  events : ∃ log, compilation.events =
      log ++ [.registrationComplete app.name app.functions.size app.types.size] ∧
    ∀ event ∈ log, ∃ kind id, event = .registered kind id ∨ event = .alreadyRegistered kind id
  once : ∀ kind id, compilation.events.count (.registered kind id) =
    if id ∈ app.names kind then 1 else 0

variable {app : AppDescription} {conversion : Conversion} {manifest : Manifest}
  {resolver : Resolver}

/-- A conversion leaves a resolver that has nothing in progress and has resolved just the declared
types. -/
theorem resolver_of_convert (h : app.convert.run {} = .ok (conversion, resolver)) :
    resolver.Ready app.schemas [] ∧ resolver.resolved.names = app.types.names := by
  have hrun := app.run_convert
  rw [h, manifest_convert] at hrun
  obtain ⟨types, middle, htypes, hrest⟩ := Resolving.exists_of_bind hrun
  have hmiddle := ((Computes.mapM (fun id => Resolver.resolve_computes id id)
    app.types.names).sound .empty htypes).2
  have hfinal := ((app.convertWith_computes types).sound hmiddle.ready hrest).2
  refine ⟨hfinal.ready, Table.names_eq_of_mem_iff fun id => ⟨fun hid => ?_, fun hid => ?_⟩⟩
  · -- what is resolved has a meaning, and only declared ids have one
    obtain ⟨type, htype⟩ := Table.exists_get?_of_mem_names hid
    obtain ⟨schema, hschema⟩ := (hfinal.ready.resolves htype).declared
    rw [schemas, Table.get?_map, Option.map_eq_some_iff] at hschema
    obtain ⟨json, hjson, -⟩ := hschema
    exact Table.mem_names_of_get? hjson
  · obtain ⟨type, htype⟩ := Table.exists_get?_of_mem_names
      (Resolver.mapM_resolve_keeps .empty htypes id hid)
    exact Table.mem_names_of_get? (hfinal.keeps htype)

/-- The types of a declared manifest are those that a ready resolver has resolved for the declared
ids. -/
theorem Declares.types_eq (h : app.Declares manifest) (hready : resolver.Ready app.schemas [])
    (hnames : resolver.resolved.names = app.types.names) :
    resolver.resolved.values = manifest.types := by
  have hresolved : List.Forall₂ (Resolves app.schemas) resolver.resolved.names
      resolver.resolved.values := by
    rw [Table.names, Table.values, Entries.names, List.forall₂_map_left_iff,
      List.forall₂_map_right_iff, List.forall₂_same]
    exact fun entry hentry => hready.resolves (Table.get?_eq_some_iff.2 hentry)
  rw [hnames] at hresolved
  have hunique : Relator.RightUnique (Resolves app.schemas) := fun _ _ _ h h' => h.unique h'
  exact hunique.forall₂ hresolved h.types

/-- The id of a part is taken in the registry of a declared manifest exactly if it is described. -/
theorem Declares.isTaken_iff (h : app.Declares manifest) {kind : EntityKind} {id : String} :
    manifest.collected.isTaken kind id = true ↔ id ∈ app.names kind := by
  rw [manifest.collected_grows.coherent.isTaken_iff]
  simp only [h.closed.keeps_iff, Manifest.mem_parts_iff]
  constructor
  · rintro ⟨part, hpart, rfl, rfl⟩
    cases part with
    | function entity => exact h.lists_functions.mem_names_iff.2 ⟨entity, hpart, rfl⟩
    | type entity => exact h.lists_types.mem_names_iff.2 ⟨entity, hpart, rfl⟩
    | workflow entity => exact h.lists_workflows.mem_names_iff.2 ⟨entity, hpart, rfl⟩
    | datastore entity => exact h.lists_datastores.mem_names_iff.2 ⟨entity, hpart, rfl⟩
    | provider entity => exact h.lists_providers.mem_names_iff.2 ⟨entity, hpart, rfl⟩
  · intro hid
    cases kind with
    | function =>
        obtain ⟨entity, hentity, hid⟩ := h.lists_functions.mem_names_iff.1 hid
        exact ⟨.function entity, hentity, rfl, hid⟩
    | type =>
        obtain ⟨entity, hentity, hid⟩ := h.lists_types.mem_names_iff.1 hid
        exact ⟨.type entity, hentity, rfl, hid⟩
    | workflow =>
        obtain ⟨entity, hentity, hid⟩ := h.lists_workflows.mem_names_iff.1 hid
        exact ⟨.workflow entity, hentity, rfl, hid⟩
    | datastore =>
        obtain ⟨entity, hentity, hid⟩ := h.lists_datastores.mem_names_iff.1 hid
        exact ⟨.datastore entity, hentity, rfl, hid⟩
    | provider =>
        obtain ⟨entity, hentity, hid⟩ := h.lists_providers.mem_names_iff.1 hid
        exact ⟨.provider entity, hentity, rfl, hid⟩

/-- A described manifest has no conflicts. -/
theorem Declares.conflictFree (h : app.Declares manifest) : manifest.ConflictFree :=
  h.closed.unambiguous.conflictFree

/-- In the registry of a declared manifest are as many functions and types as are described. -/
theorem Declares.completion_eq (h : app.Declares manifest) :
    manifest.completion manifest.collected =
      .registrationComplete app.name app.functions.size app.types.size := by
  have hcoherent := manifest.collected_grows.coherent
  have hkeeps (part : Part) : manifest.collected.Keeps part ↔ manifest.Has part :=
    h.closed.keeps_iff.trans Manifest.mem_parts_iff
  rw [Manifest.completion, h.name,
    h.lists_functions.size_eq hcoherent.functions fun entity => hkeeps (.function entity),
    h.lists_types.size_eq hcoherent.types fun entity => hkeeps (.type entity)]

/-- A declared manifest is exported without conflict, and each described definition is reported to
be registered just once. -/
theorem Declares.exported (h : app.Declares manifest) : app.Exported manifest.compile := by
  have hevents : manifest.compile.events = manifest.collected.events ++
      [.registrationComplete app.name app.functions.size app.types.size] := by
    rw [Manifest.compile_eq_of_nodup h.lists_providers.nodup, ← h.completion_eq]
  refine ⟨h.compile_eq, ⟨_, hevents, fun event hevent => ?_⟩, fun kind id => ?_⟩
  · obtain ⟨outcome, kind, id, rfl⟩ := Registry.reports_registerParts manifest.parts event hevent
    cases outcome with
    | inserted => exact ⟨kind, id, .inl rfl⟩
    | unchanged => exact ⟨kind, id, .inr rfl⟩
    | conflicting => exact absurd hevent (h.conflictFree.quiet kind id)
  · have hlogged : manifest.collected.Logged := Registry.logged_registerParts manifest.parts
    rw [hevents, List.count_append, hlogged kind id]
    simp only [h.isTaken_iff]
    rfl

/-- A declared manifest and a ready resolver that has resolved just the declared types fit
together. -/
theorem Declares.coherent (h : app.Declares conversion.manifest)
    (hready : resolver.Ready app.schemas [])
    (hnames : resolver.resolved.names = app.types.names) : app.Coherent conversion resolver where
  inProgress := hready.inProgress_eq
  names := hnames
  values := h.types_eq hready hnames
  types type htype := by
    have hmem : type ∈ conversion.manifest.types :=
      Manifest.mem_parts_iff.1 (h.closed.contains_iff.1 htype)
    rw [← h.types_eq hready hnames] at hmem
    obtain ⟨⟨id, _⟩, hentry, rfl⟩ := List.mem_map.1 hmem
    have hget := Table.get?_eq_some_iff.2 hentry
    rwa [(hready.resolves hget).id_eq]
  functions workflow hworkflow function hfunction := by
    have hworkflow' : conversion.manifest.Contains (.workflow workflow) :=
      .declared (Manifest.mem_parts_iff.2 hworkflow)
    have hcontains : conversion.manifest.Contains (.function function) :=
      (hworkflow'.used (List.mem_append_left _ (List.mem_map_of_mem hfunction)))
    have hmem : function ∈ conversion.manifest.functions :=
      Manifest.mem_parts_iff.1 (h.closed.contains_iff.1 hcontains)
    exact ⟨hmem, fun declared hdeclared hid =>
      List.inj_on_of_nodup_map h.lists_functions.nodup hdeclared hmem hid⟩

/-- A description that is converted is coherent with what it is converted to, and it is exported;
its document has a text. So the command, whatever files it reads and writes, gets past the error of
the export and that of writing the document: it delivers this text, and fails only if the text
cannot be put into the file that is asked for. -/
theorem converts_coherently (app : AppDescription) {conversion : Conversion}
    (h : app.toManifest = .ok conversion) :
    (∃ resolver, app.convert.run {} = .ok (conversion, resolver) ∧
      app.Coherent conversion resolver) ∧
    app.Exported conversion.manifest.compile ∧
    (∀ indented, app.normalForm.writeText indented = .ok (app.normalForm.render indented)) ∧
    ∀ {m : Type → Type} [Monad m] (files : Files m) (options : Options),
      CommandLine.compile files options conversion =
        CommandLine.deliver files options
          (if options.paths then
            conversion.manifest.workflows.flatMap CommandLine.workflowLines else [])
          (conversion.events ++ conversion.manifest.compile.events) app.normalForm
          (app.normalForm.render options.indented) ∧
      ∀ [LawfulMonad m], CommandLine.FailsOnlyToWrite files options
        (app.normalForm.render options.indented)
        (CommandLine.compile files options conversion) := by
  have hdeclares : app.Declares conversion.manifest := toManifest_iff.1 ⟨conversion, h, rfl⟩
  refine ⟨?_, hdeclares.exported, app.normalForm.writeText_eq, fun files options => ?_⟩
  · cases hrun : app.convert.run {} with
    | error error =>
        rw [toManifest, hrun] at h
        cases h
    | ok result =>
        obtain ⟨converted, resolver⟩ := result
        rw [toManifest, hrun] at h
        cases h
        obtain ⟨hready, hnames⟩ := resolver_of_convert hrun
        exact ⟨resolver, rfl, hdeclares.coherent hready hnames⟩
  · rw [CommandLine.compile, hdeclares.compile_eq]
    dsimp only
    rw [CommandLine.finish, Document.writeText_eq]
    exact ⟨rfl, CommandLine.failsOnlyToWrite_deliver files options _ _ _ _⟩

/-- The options that ask for the manifest of the tracker, indented, in a file. -/
def trackerOptions : Options :=
  ⟨"tracker.json", some "manifest.json", true, false, 0⟩

/-- The tracker is coherent with what it is converted to, it is exported, and its document has a
text; the command fails on it only if this text cannot be put into the file. -/
theorem tracker_converts_coherently : ∃ conversion resolver,
    tracker.convert.run {} = .ok (conversion, resolver) ∧ tracker.Coherent conversion resolver ∧
      tracker.Exported conversion.manifest.compile ∧
      tracker.normalForm.writeText true = .ok (tracker.normalForm.render true) ∧
      ∀ files : Files Id, CommandLine.FailsOnlyToWrite files trackerOptions
        (tracker.normalForm.render true)
        (CommandLine.compile files trackerOptions conversion) := by
  obtain ⟨conversion, h⟩ := tracker_converts
  obtain ⟨⟨resolver, hrun, hcoherent⟩, hexported, htext, hcommand⟩ := tracker.converts_coherently h
  exact ⟨conversion, resolver, hrun, hcoherent, hexported, htext true,
    fun files => (hcommand files trackerOptions).2⟩

end AppDescription

end AppManifest
