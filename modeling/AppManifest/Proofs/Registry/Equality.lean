import AppManifest.Proofs.Registry.Part
import AppManifest.Proofs.Workflow.Equality

/-!
# Equality of parts and of sections

Equality of parts is an equivalence; equal parts have the same kind and id, use equal parts, and are
written as equal values. What is written of a coherent registry has under an id what the part
registered under it is written as (`Registry.Coherent.get?_sections`), so registries of equal parts
have equal sections (`Registry.sections_beq`).
-/

namespace AppManifest

/-- Providers are equal exactly if they are the same up to equality of options. -/
theorem Provider.beq_iff {first second : Provider} :
    (first == second) = true ↔ first.key = second.key ∧ first.type = second.type ∧
      (first.options == second.options) = true := by
  show first.same second = true ↔ _
  simp only [same, Bool.and_eq_true, beq_iff_eq, and_assoc]

instance : EquivBEq Provider :=
  equivBEq_of_key (fun provider => ((provider.key, provider.type), provider.options)) fun _ _ => rfl

/-- Equal providers are written as equal values. -/
theorem Provider.congruent_toJson : Congruent Provider.toJson := by
  intro first second h
  obtain ⟨-, htype, hoptions⟩ := beq_iff.1 h
  rw [toJson, toJson, Json.object_beq, htype]
  simp only [List.cons_beq_cons, Bool.and_eq_true, pair_beq_iff, hoptions, BEq.rfl, and_self]

namespace Part

/-- Parts that equal one part are equal. -/
theorem euclid : (first second : Part) → first.same second = true →
    (third : Part) → first.same third = true → second.same third = true
  | .function first, .function second, h => fun
    | .function _, h' => BEq.trans (BEq.symm (show (first == second) = true from h)) h'
  | .type first, .type second, h => fun
    | .type _, h' => BEq.trans (BEq.symm (show (first == second) = true from h)) h'
  | .workflow first, .workflow second, h => fun
    | .workflow _, h' => BEq.trans (BEq.symm (show (first == second) = true from h)) h'
  | .datastore first, .datastore second, h => fun
    | .datastore _, h' => BEq.trans (BEq.symm (show (first == second) = true from h)) h'
  | .provider first, .provider second, h => fun
    | .provider _, h' => BEq.trans (BEq.symm (show (first == second) = true from h)) h'

variable {first second third : Part}

/-- Equality of parts is symmetric. -/
theorem same_symm (h : first.same second = true) : second.same first = true :=
  euclid first second h first first.same_self

/-- Equality of parts is transitive. -/
theorem same_trans (h : first.same second = true) (h' : second.same third = true) :
    first.same third = true :=
  euclid second first (same_symm h) third h'

/-- The part as it is written in its section. -/
def toJson : Part → Json
  | .function entity => entity.toJson
  | .type entity => entity.schema
  | .workflow entity => entity.toJson
  | .datastore entity => entity.toJson
  | .provider entity => entity.toJson

/-- Equal parts are of one kind. -/
theorem kind_eq_of_same (h : first.same second = true) : first.kind = second.kind := by
  cases first <;> cases second <;> first | rfl | cases h

/-- Equal parts have the same id. -/
theorem id_eq_of_same : (first second : Part) → first.same second = true → first.id = second.id
  | .function _, .function _, h => (AppFunction.beq_iff.1 h).1
  | .type _, .type _, h => CustomType.id_eq_of_same h
  | .workflow _, .workflow _, h => (Workflow.beq_iff.1 h).1
  | .datastore _, .datastore _, h => (Datastore.beq_iff.1 h).1
  | .provider _, .provider _, h => (Provider.beq_iff.1 h).1

/-- Equal parts are written as equal values. -/
theorem toJson_beq : (first second : Part) → first.same second = true →
    (first.toJson == second.toJson) = true
  | .function _, .function _, h => AppFunction.congruent_toJson h
  | .type _, .type _, h => CustomType.congruent_schema h
  | .workflow _, .workflow _, h => Workflow.congruent_toJson h
  | .datastore _, .datastore _, h => Datastore.congruent_toJson h
  | .provider _, .provider _, h => Provider.congruent_toJson h

end Part

/-! ## Uses of equal parts -/

/-- Named definitions of equal tables have equal types in the same places. -/
theorem Definition.exists_same_of_table {first second : Table Definition}
    (h : (first == second) = true) {type : CustomType}
    (htype : type ∈ Definition.propertyTypes first.entries) :
    ∃ other ∈ Definition.propertyTypes second.entries, type.same other = true := by
  obtain ⟨entry, hentry, hdirect⟩ := mem_propertyTypes.1 htype
  rw [Table.beq_eq, list_beq_iff] at h
  obtain ⟨entry', hentry', hsame⟩ := exists_right_of_forall₂ h hentry
  obtain ⟨other, hother, heq⟩ :=
    Definition.exists_same entry.2 entry'.2 (pair_beq_iff.1 hsame).2 hdirect
  exact ⟨other, mem_propertyTypes.2 ⟨entry', hentry', hother⟩, heq⟩

/-- Equal parameter sets have equal types in the same places. -/
theorem ParameterSet.exists_same {first second : ParameterSet} (h : (first == second) = true)
    {type : CustomType} (htype : type ∈ first.directTypes) :
    ∃ other ∈ second.directTypes, type.same other = true :=
  Definition.exists_same_of_table (beq_iff.1 h).1 htype

/-- For two pairs of equal parameter sets, equal types occur in the same places. -/
theorem ParameterSet.exists_same_append {inputs outputs inputs' outputs' : ParameterSet}
    (hinputs : (inputs == inputs') = true) (houtputs : (outputs == outputs') = true)
    {type : CustomType} (htype : type ∈ inputs.directTypes ++ outputs.directTypes) :
    ∃ other ∈ inputs'.directTypes ++ outputs'.directTypes, type.same other = true := by
  rcases List.mem_append.1 htype with htype | htype
  · obtain ⟨other, hother, heq⟩ := ParameterSet.exists_same hinputs htype
    exact ⟨other, List.mem_append_left _ hother, heq⟩
  · obtain ⟨other, hother, heq⟩ := ParameterSet.exists_same houtputs htype
    exact ⟨other, List.mem_append_right _ hother, heq⟩

namespace Part

/-- For every part that a part uses, an equal part uses an equal one. -/
theorem exists_same_use : (first second : Part) → first.same second = true → {used : Part} →
    used ∈ first.uses → ∃ other ∈ second.uses, used.same other = true
  | .function first, .function second, h, used, hused => by
      obtain ⟨-, -, -, -, hinputs, houtputs⟩ := AppFunction.beq_iff.1 h
      obtain ⟨type, htype, rfl⟩ := List.mem_map.1 hused
      obtain ⟨other, hother, heq⟩ := ParameterSet.exists_same_append hinputs houtputs htype
      exact ⟨_, List.mem_map_of_mem hother, heq⟩
  | .type first, .type second, h, used, hused => by
      obtain ⟨type, htype, rfl⟩ := List.mem_map.1 hused
      obtain ⟨other, hother, heq⟩ := CustomType.exists_same h htype
      exact ⟨_, List.mem_map_of_mem hother, heq⟩
  | .workflow first, .workflow second, h, used, hused => by
      have hfunctions := list_beq_iff.1 (Workflow.localFunctions_beq h)
      obtain ⟨-, -, -, hinputs, houtputs, -, -⟩ := Workflow.beq_iff.1 h
      rcases List.mem_append.1 hused with hused | hused
      · obtain ⟨function, hfunction, rfl⟩ := List.mem_map.1 hused
        obtain ⟨other, hother, heq⟩ := exists_right_of_forall₂ hfunctions hfunction
        exact ⟨_, List.mem_append_left _ (List.mem_map_of_mem hother), heq⟩
      · obtain ⟨type, htype, rfl⟩ := List.mem_map.1 hused
        obtain ⟨other, hother, heq⟩ := ParameterSet.exists_same_append hinputs houtputs htype
        exact ⟨_, List.mem_append_right _ (List.mem_map_of_mem hother), heq⟩
  | .datastore first, .datastore second, h, used, hused => by
      obtain ⟨-, -, hattributes⟩ := Datastore.beq_iff.1 h
      obtain ⟨type, htype, rfl⟩ := List.mem_map.1 hused
      obtain ⟨other, hother, heq⟩ := Definition.exists_same_of_table hattributes htype
      exact ⟨_, List.mem_map_of_mem hother, heq⟩
  | .provider _, .provider _, _, _, hused => by cases hused

end Part

/-! ## Sections -/

namespace Sections

/-- Equality of sections. -/
def same (first second : Sections) : Bool :=
  first.functions == second.functions && first.types == second.types &&
    first.workflows == second.workflows && first.datastores == second.datastores &&
    first.providers == second.providers

instance : BEq Sections :=
  ⟨same⟩

/-- What is written of the part of a kind and an id. -/
def get? (sections : Sections) : EntityKind → String → Option Json
  | .function, id => sections.functions.get? id
  | .type, id => sections.types.get? id
  | .workflow, id => sections.workflows.get? id
  | .datastore, id => sections.datastores.get? id
  | .provider, key => sections.providers.bind fun providers => providers.get? key

end Sections

namespace Registry

variable {registry other : Registry} {kind : EntityKind} {id : String}

/-- There is a section of providers only if there are any, which makes no difference to what is
written under a key. -/
theorem get?_provider_sections (registry : Registry) (key : String) :
    registry.sections.get? .provider key =
      (registry.providers.tabulate Provider.toJson).get? key := by
  rw [Sections.get?, sections]
  split
  next hempty =>
    have hnone : (registry.providers.tabulate Provider.toJson).get? key = none := by
      rw [EntitySet.tabulate, List.isEmpty_iff.1 hempty]
      rfl
    exact hnone.symm
  next => rfl

/-- A coherent registry is written with each part under its kind and id. -/
theorem Coherent.get?_sections (h : registry.Coherent) {json : Json} :
    registry.sections.get? kind id = some json ↔
      ∃ part : Part, registry.Keeps part ∧ part.kind = kind ∧ part.id = id ∧
        part.toJson = json := by
  constructor
  · intro hget
    cases kind with
    | function =>
        obtain ⟨entity, hentity, hid, hjson⟩ := (h.functions.get?_tabulate_eq_some_iff _).1 hget
        exact ⟨.function entity, hentity, rfl, hid, hjson⟩
    | type =>
        obtain ⟨entity, hentity, hid, hjson⟩ := (h.types.get?_tabulate_eq_some_iff _).1 hget
        exact ⟨.type entity, hentity, rfl, hid, hjson⟩
    | workflow =>
        obtain ⟨entity, hentity, hid, hjson⟩ := (h.workflows.get?_tabulate_eq_some_iff _).1 hget
        exact ⟨.workflow entity, hentity, rfl, hid, hjson⟩
    | datastore =>
        obtain ⟨entity, hentity, hid, hjson⟩ := (h.datastores.get?_tabulate_eq_some_iff _).1 hget
        exact ⟨.datastore entity, hentity, rfl, hid, hjson⟩
    | provider =>
        rw [get?_provider_sections] at hget
        obtain ⟨entity, hentity, hid, hjson⟩ := (h.providers.get?_tabulate_eq_some_iff _).1 hget
        exact ⟨.provider entity, hentity, rfl, hid, hjson⟩
  · rintro ⟨part, hkeeps, rfl, rfl, rfl⟩
    cases part with
    | function entity =>
        exact (h.functions.get?_tabulate_eq_some_iff _).2 ⟨entity, hkeeps, rfl, rfl⟩
    | type entity => exact (h.types.get?_tabulate_eq_some_iff _).2 ⟨entity, hkeeps, rfl, rfl⟩
    | workflow entity =>
        exact (h.workflows.get?_tabulate_eq_some_iff _).2 ⟨entity, hkeeps, rfl, rfl⟩
    | datastore entity =>
        exact (h.datastores.get?_tabulate_eq_some_iff _).2 ⟨entity, hkeeps, rfl, rfl⟩
    | provider entity =>
        rw [Part.kind, get?_provider_sections]
        exact (h.providers.get?_tabulate_eq_some_iff _).2 ⟨entity, hkeeps, rfl, rfl⟩

/-- Every registered part equals a part that is registered in the other registry. -/
def Within (registry other : Registry) : Prop :=
  ∀ part, registry.Keeps part → ∃ kept, other.Keeps kept ∧ part.same kept = true

/-- What is written of equal parts is equal, under every kind and id. -/
theorem get?_sections_beq (h : registry.Coherent) (hother : other.Coherent)
    (hwithin : registry.Within other) (hwithin' : other.Within registry) (kind : EntityKind)
    (id : String) :
    (registry.sections.get? kind id == other.sections.get? kind id) = true := by
  cases hget : registry.sections.get? kind id with
  | some json =>
      obtain ⟨part, hkeeps, rfl, rfl, rfl⟩ := h.get?_sections.1 hget
      obtain ⟨kept, hkept, hsame⟩ := hwithin part hkeeps
      have hwritten : other.sections.get? part.kind part.id = some kept.toJson :=
        hother.get?_sections.2 ⟨kept, hkept, (Part.kind_eq_of_same hsame).symm,
          (Part.id_eq_of_same _ _ hsame).symm, rfl⟩
      rw [hwritten, Option.some_beq_some]
      exact Part.toJson_beq part kept hsame
  | none =>
      cases hget' : other.sections.get? kind id with
      | none => rfl
      | some json =>
          -- a part of the other registry is one of this one, under the same id
          obtain ⟨part, hkeeps, rfl, rfl, rfl⟩ := hother.get?_sections.1 hget'
          obtain ⟨kept, hkept, hsame⟩ := hwithin' part hkeeps
          rw [h.get?_sections.2 ⟨kept, hkept, (Part.kind_eq_of_same hsame).symm,
            (Part.id_eq_of_same _ _ hsame).symm, rfl⟩] at hget
          cases hget

/-- A registry within one without providers has none. -/
theorem Within.isEmpty_providers (h : registry.Within other)
    (hempty : other.providers.entries.isEmpty = true) :
    registry.providers.entries.isEmpty = true := by
  rw [List.isEmpty_iff] at hempty ⊢
  refine List.eq_nil_iff_forall_not_mem.2 fun provider hprovider => ?_
  obtain ⟨kept, hkept, hsame⟩ := h (.provider provider) hprovider
  cases kept <;> cases Part.kind_eq_of_same hsame
  have hmem : _ ∈ other.providers.entries := hkept
  rw [hempty] at hmem
  cases hmem

/-- Registries within each other have equal sections. -/
theorem sections_beq (h : registry.Coherent) (hother : other.Coherent)
    (hwithin : registry.Within other) (hwithin' : other.Within registry) :
    (registry.sections == other.sections) = true := by
  have hget := get?_sections_beq h hother hwithin hwithin'
  have hproviders : (registry.sections.providers == other.sections.providers) = true := by
    rw [sections, sections]
    by_cases hempty : registry.providers.entries.isEmpty = true
    · rw [if_pos hempty, if_pos (hwithin'.isEmpty_providers hempty)]
      rfl
    · rw [if_neg hempty, if_neg (mt hwithin.isEmpty_providers hempty), Option.some_beq_some]
      refine Table.beq_of_get? fun key => ?_
      have hkey := hget .provider key
      rwa [get?_provider_sections, get?_provider_sections] at hkey
  show Sections.same _ _ = true
  simp only [Sections.same, Bool.and_eq_true]
  exact ⟨⟨⟨⟨Table.beq_of_get? (hget .function), Table.beq_of_get? (hget .type)⟩,
    Table.beq_of_get? (hget .workflow)⟩, Table.beq_of_get? (hget .datastore)⟩, hproviders⟩

/-- Registries of the same parts have the same sections. -/
theorem sections_eq (h : registry.Coherent) (hother : other.Coherent)
    (hkeeps : ∀ part, registry.Keeps part ↔ other.Keeps part) :
    registry.sections = other.sections := by
  have hget (kind : EntityKind) (id : String) :
      registry.sections.get? kind id = other.sections.get? kind id := by
    refine Option.ext fun json => ?_
    rw [h.get?_sections, hother.get?_sections]
    simp only [hkeeps]
  have hwithin : registry.Within other := fun part hpart =>
    ⟨part, (hkeeps part).1 hpart, part.same_self⟩
  have hwithin' : other.Within registry := fun part hpart =>
    ⟨part, (hkeeps part).2 hpart, part.same_self⟩
  have hproviders : registry.sections.providers = other.sections.providers := by
    rw [sections, sections]
    by_cases hempty : registry.providers.entries.isEmpty = true
    · rw [if_pos hempty, if_pos (hwithin'.isEmpty_providers hempty)]
    · rw [if_neg hempty, if_neg (mt hwithin.isEmpty_providers hempty)]
      refine congrArg some (Table.ext_get? fun key => ?_)
      have hkey := hget .provider key
      rwa [get?_provider_sections, get?_provider_sections] at hkey
  rw [Sections.mk.injEq]
  exact ⟨Table.ext_get? (hget .function), Table.ext_get? (hget .type),
    Table.ext_get? (hget .workflow), Table.ext_get? (hget .datastore), hproviders⟩

end Registry

end AppManifest
