import AppManifest.Proofs.Description.Compilation
import AppManifest.Proofs.Description.Acceptance
import AppManifest.Proofs.Description.Reading
import AppManifest.Proofs.Manifest.Contents

/-!
# Feeding exported sections back in

The sections that a consistent and plain manifest exports are read as a description that is
converted, and the manifest that this gives exports the same sections
(`Manifest.roundTrips_of_compile`). Every type that is registered has a meaning in that description,
by induction on the nesting of types: the type that is registered under an id equals the one that
was met, and so leads to smaller types only.
-/

namespace AppManifest

/-- With any name, the sections are read as a description that is converted to a manifest that
exports the same sections. -/
def Sections.RoundTrips (sections : Sections) : Prop :=
  ∀ name : String, ∃ app conversion document,
    AppDescription.layout.read.Gives (.object (("name", .string name) :: sections.members)) app ∧
      app.toManifest = .ok conversion ∧ conversion.manifest.compile.result = .ok document ∧
      document.sections = sections

variable {schemas : Table Schema}

/-- The schema of a plain definition has no defect and refers to the types that occur directly in
the definition. -/
theorem Definition.meaningful_schema {definition : Definition} (hplain : definition.Plain)
    (htypes : ∀ type ∈ definition.directTypes, ∃ named, Resolves schemas type.id named) :
    Meaningful schemas definition.schema := by
  rw [Meaningful, definition.ofJson_schema hplain, definition.references_asSchema]
  refine ⟨definition.isSound_asSchema, fun id hid => ?_⟩
  obtain ⟨type, htype, rfl⟩ := List.mem_map.1 hid
  exact htypes type htype

/-- The schema of a type with a plain definition has no defect and refers to the types that occur
directly in the definition. -/
theorem CustomType.meaningful_schema {type : CustomType} (hplain : type.definition.Plain)
    (htypes : ∀ nested ∈ type.definition.directTypes, ∃ named, Resolves schemas nested.id named) :
    Meaningful schemas type.schema := by
  obtain ⟨id, ⟨kind, notes⟩, title, description⟩ := type
  rw [schema_eq]
  have hmeaningful (notes : Annotations) : Meaningful schemas (Definition.schema ⟨kind, notes⟩) :=
    Definition.meaningful_schema hplain htypes
  exact hmeaningful _

/-- The schemas of plain definitions have no defects and refer to the types that occur directly in
the definitions. -/
theorem Definition.meaningful_schemas {table : Table Definition}
    (hplain : Definition.ArePlain table.entries)
    (htypes : ∀ type ∈ Definition.propertyTypes table.entries,
      ∃ named, Resolves schemas type.id named) {name : String} {json : Json}
    (h : (table.map Definition.schema).get? name = some json) : Meaningful schemas json := by
  rw [Table.get?_map, Option.map_eq_some_iff] at h
  obtain ⟨definition, hdefinition, rfl⟩ := h
  have hentry := Table.get?_eq_some_iff.1 hdefinition
  exact meaningful_schema (arePlain_iff.1 hplain _ hentry) fun type htype =>
    htypes type (mem_propertyTypes.2 ⟨_, hentry, htype⟩)

namespace Manifest

variable {manifest : Manifest}

/-- What a registered part uses is registered, under its id. -/
theorem exists_kept_of_uses {part : Part} (hpart : manifest.collected.Keeps part)
    {type : CustomType} (htype : .type type ∈ part.uses) :
    ∃ kept ∈ manifest.collected.types.entries, kept.id = type.id := by
  have hgrows := manifest.collected_grows
  obtain ⟨kept, hkept, hkind, hid⟩ := hgrows.coherent.isTaken_iff.1 (hgrows.settled _ _ hpart htype)
  cases kept with
  | type kept => exact ⟨kept, hkept, hid⟩
  | function | workflow | datastore | provider => cases hkind

/-- In the description of what is registered, the id of a registered type names a type. -/
theorem exists_resolves (hconsistent : manifest.Consistent) (hplain : manifest.Plain)
    (name : String) {type : CustomType} (htype : manifest.Contains (.type type)) :
    ∀ kept ∈ manifest.collected.types.entries, kept.id = type.id →
      ∃ named, Resolves (manifest.collected.describe name).schemas kept.id named := by
  induction type using CustomType.nestedInduction with
  | step type ih =>
      -- `kept` may be another type than the one that was met under the id, but equals it
      intro kept hkept hid
      have hkeeps : manifest.collected.Keeps (.type kept) := hkept
      have hcontains := Contains.of_keeps hkeeps
      have hschema : (manifest.collected.describe name).schemas.get? kept.id =
          some (.ofJson kept.schema) := by
        have hcoherent := manifest.collected_grows.coherent
        have hentity := hcoherent.types.get?_table_eq_some_iff.2 ⟨hkept, rfl⟩
        rw [AppDescription.schemas, Registry.describe, Table.get?_map, Table.get?_map]
        exact congrArg (Option.map _ ∘ Option.map _) hentity
      have hmeaningful : Meaningful (manifest.collected.describe name).schemas kept.schema := by
        refine CustomType.meaningful_schema (hplain _ hcontains) fun nested hnested => ?_
        -- the hypothesis speaks of what the type that was met uses, which is smaller
        obtain ⟨met, hmet, hsame⟩ :=
          CustomType.exists_same (hconsistent _ _ hcontains htype hid) hnested
        obtain ⟨inner, hinner, hinnerId⟩ := exists_kept_of_uses hkeeps (List.mem_map_of_mem hnested)
        have hnamed := ih met hmet (htype.used (List.mem_map_of_mem hmet)) inner hinner
          (hinnerId.trans (CustomType.id_eq_of_same hsame))
        rwa [hinnerId] at hnamed
      obtain ⟨definition, hdefines⟩ := (Schema.exists_defines_iff _).2 hmeaningful
      exact ⟨_, resolves_iff.2 ⟨_, definition, hschema, hdefines, rfl⟩⟩

/-- In the description of what is registered, what a registered part uses names a type. -/
theorem exists_resolves_of_uses (hconsistent : manifest.Consistent) (hplain : manifest.Plain)
    (name : String) {part : Part} (hpart : manifest.collected.Keeps part) {type : CustomType}
    (htype : .type type ∈ part.uses) :
    ∃ named, Resolves (manifest.collected.describe name).schemas type.id named := by
  obtain ⟨kept, hkept, hid⟩ := exists_kept_of_uses hpart htype
  have hcontains := (Contains.of_keeps hpart).used htype
  exact hid ▸ exists_resolves hconsistent hplain name hcontains kept hkept hid

/-- In the description of what is registered, every schema at a root has a meaning. -/
theorem meaningful_root (hconsistent : manifest.Consistent) (hplain : manifest.Plain)
    (name : String) {root : Json} (h : (manifest.collected.describe name).Root root) :
    Meaningful (manifest.collected.describe name).schemas root := by
  have hcoherent := manifest.collected_grows.coherent
  have hnamed (part : Part) (hpart : manifest.collected.Keeps part) {types : List CustomType}
      (hmem : ∀ type ∈ types, Part.type type ∈ part.uses) : ∀ type ∈ types,
      ∃ named, Resolves (manifest.collected.describe name).schemas type.id named :=
    fun type htype => exists_resolves_of_uses hconsistent hplain name hpart (hmem type htype)
  have hkept (part : Part) (hpart : manifest.collected.Keeps part) : part.Plain :=
    hplain part (.of_keeps hpart)
  -- a root is what some kept part was described with, so its types are among those the part uses
  cases h with
  | type hschema =>
      obtain ⟨entity, hkeeps, -, rfl⟩ := hcoherent.types.exists_of_get?_map hschema
      exact CustomType.meaningful_schema (hkept (.type entity) hkeeps)
        (hnamed (.type entity) hkeeps fun _ htype => List.mem_map_of_mem htype)
  | functionInput hfunction hschema =>
      obtain ⟨entity, hkeeps, -, rfl⟩ := hcoherent.functions.exists_of_get?_map hfunction
      refine Definition.meaningful_schemas (hkept (.function entity) hkeeps).1
        (hnamed (.function entity) hkeeps fun _ htype => ?_) hschema
      exact List.mem_map_of_mem (List.mem_append_left _ htype)
  | functionOutput hfunction hschema =>
      obtain ⟨entity, hkeeps, -, rfl⟩ := hcoherent.functions.exists_of_get?_map hfunction
      refine Definition.meaningful_schemas (hkept (.function entity) hkeeps).2
        (hnamed (.function entity) hkeeps fun _ htype => ?_) hschema
      exact List.mem_map_of_mem (List.mem_append_right _ htype)
  | workflowInput hworkflow hschema =>
      obtain ⟨entity, hkeeps, -, rfl⟩ := hcoherent.workflows.exists_of_get?_map hworkflow
      rw [Workflow.describe, ParameterSet.properties_describeMember] at hschema
      refine Definition.meaningful_schemas (hkept (.workflow entity) hkeeps).1
        (hnamed (.workflow entity) hkeeps fun _ htype => ?_) hschema
      exact List.mem_append_right _ (List.mem_map_of_mem (List.mem_append_left _ htype))
  | workflowOutput hworkflow hschema =>
      obtain ⟨entity, hkeeps, -, rfl⟩ := hcoherent.workflows.exists_of_get?_map hworkflow
      rw [Workflow.describe, ParameterSet.properties_describeMember] at hschema
      refine Definition.meaningful_schemas (hkept (.workflow entity) hkeeps).2
        (hnamed (.workflow entity) hkeeps fun _ htype => ?_) hschema
      exact List.mem_append_right _ (List.mem_map_of_mem (List.mem_append_right _ htype))
  | datastoreAttribute hdatastore hschema =>
      obtain ⟨entity, hkeeps, -, rfl⟩ := hcoherent.datastores.exists_of_get?_map hdatastore
      exact Definition.meaningful_schemas (hkept (.datastore entity) hkeeps)
        (hnamed (.datastore entity) hkeeps fun _ htype => List.mem_map_of_mem htype) hschema

/-- The description of what is registered declares a manifest. -/
theorem exists_declares_describe (hconsistent : manifest.Consistent) (hplain : manifest.Plain)
    (name : String) : ∃ declared, (manifest.collected.describe name).Declares declared := by
  refine AppDescription.exists_declares_iff_meaningful.2
    ⟨fun id hid => ?_, meaningful_root hconsistent hplain name⟩
  obtain ⟨json, hjson⟩ := Table.exists_get?_of_mem_names hid
  obtain ⟨kept, hkept, rfl, -⟩ :=
    manifest.collected_grows.coherent.types.exists_of_get?_map hjson
  have hkeeps : manifest.collected.Keeps (.type kept) := hkept
  exact exists_resolves hconsistent hplain name (.of_keeps hkeeps) kept hkept rfl

/-- The sections that a consistent and plain manifest of built parts exports can be fed back in. -/
theorem roundTrips_of_compile {document : Document} (h : manifest.compile.result = .ok document)
    (hbuilt : manifest.Built) (hconsistent : manifest.Consistent) (hplain : manifest.Plain) :
    document.sections.RoundTrips := by
  intro name
  have hcoherent := manifest.collected_grows.coherent
  have hkept : ∀ part, manifest.collected.Keeps part → part.Built := fun part hpart =>
    hbuilt part (.of_keeps hpart)
  obtain ⟨declared, hdeclared⟩ := exists_declares_describe hconsistent hplain name
  obtain ⟨conversion, hconversion, rfl⟩ := AppDescription.toManifest_iff.2 hdeclared
  obtain rfl := eq_of_compile h
  exact ⟨_, conversion, _, Registry.gives_describe hcoherent hkept name, hconversion,
    hdeclared.compile_eq, Registry.sections_normalForm_describe hcoherent
      (fun workflow hworkflow => (hkept (.workflow workflow) hworkflow).numbered) name⟩

end Manifest

end AppManifest
