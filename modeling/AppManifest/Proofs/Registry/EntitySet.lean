import Mathlib.Data.List.Nodup
import AppManifest.Registry.EntitySet
import AppManifest.Registry.Sections
import AppManifest.Proofs.Table

/-!
# Theory of entity sets

A set of entities is coherent if its entries have distinct ids and its index holds exactly these
ids. Inserting keeps a set coherent: an entity with a free id is appended, and one with a taken id
is compared with the entity that has it (`EntitySet.insert_of_free`, `EntitySet.insert_of_taken`).
Written as a table, a coherent set has under each id the entity of that id.
-/

namespace AppManifest.EntitySet

variable {α : Type} [Entity α]

/-- The entries have distinct ids, and the index holds exactly these. -/
structure Coherent (set : EntitySet α) : Prop where
  nodup : (set.entries.map Entity.id).Nodup
  contains_iff : ∀ id, set.contains id = true ↔ id ∈ set.entries.map Entity.id

/-- The set with one more entity. -/
def append (set : EntitySet α) (entity : α) : EntitySet α :=
  ⟨set.entries ++ [entity], set.ids.insert (Entity.id entity)⟩

/-- The set without entities is coherent. -/
theorem Coherent.empty : (EntitySet.empty : EntitySet α).Coherent where
  nodup := .nil
  contains_iff id := by simp [EntitySet.empty, contains]

/-- An entity with a free id is appended. -/
theorem insert_of_free {set : EntitySet α} {entity : α}
    (h : set.contains (Entity.id entity) = false) :
    set.insert entity = (.inserted, set.append entity) := by
  simp [insert, h, append]

/-- The entity that has an id is found. -/
theorem Coherent.find?_eq_some_iff {set : EntitySet α} (h : set.Coherent) {id : String}
    {entity : α} : set.find? id = some entity ↔ entity ∈ set.entries ∧ Entity.id entity = id := by
  constructor
  · intro hfind
    exact ⟨List.mem_of_find?_eq_some hfind, by simpa using List.find?_some hfind⟩
  · rintro ⟨hmem, rfl⟩
    obtain ⟨found, hfound⟩ : ∃ found, set.find? (Entity.id entity) = some found := by
      refine Option.isSome_iff_exists.1 (List.find?_isSome.2 ⟨entity, hmem, ?_⟩)
      exact beq_self_eq_true _
    have hid : Entity.id found = Entity.id entity := by simpa using List.find?_some hfound
    rw [hfound, List.inj_on_of_nodup_map h.nodup (List.mem_of_find?_eq_some hfound) hmem hid]

/-- An entity with a taken id changes nothing; what is reported depends on whether it equals the
entity that has the id. -/
theorem insert_of_taken {set : EntitySet α} (hset : set.Coherent) {entity : α}
    (h : set.contains (Entity.id entity) = true) :
    ∃ kept ∈ set.entries, Entity.id kept = Entity.id entity ∧
      set.insert entity = (if kept == entity then .unchanged else .conflicting, set) := by
  obtain ⟨kept, hkept, hid⟩ := List.mem_map.1 ((hset.contains_iff _).1 h)
  have hfind := hset.find?_eq_some_iff.2 ⟨hkept, hid⟩
  refine ⟨kept, hkept, hid, ?_⟩
  simp only [insert, h, hfind]
  rfl

/-- Appending an entity takes its id. -/
theorem contains_append (set : EntitySet α) (entity : α) (id : String) :
    (set.append entity).contains id = true ↔
      id = Entity.id entity ∨ set.contains id = true := by
  rw [contains, append, Std.TreeSet.contains_insert, Bool.or_eq_true, beq_iff_eq,
    Std.LawfulEqCmp.compare_eq_iff_eq, eq_comm]
  rfl

/-- Appending an entity with a free id keeps a set coherent. -/
theorem Coherent.append {set : EntitySet α} (h : set.Coherent) {entity : α}
    (hfree : set.contains (Entity.id entity) = false) : (set.append entity).Coherent where
  nodup := by
    have hnot : Entity.id entity ∉ set.entries.map Entity.id := fun hmem => by
      rw [(h.contains_iff _).2 hmem] at hfree
      cases hfree
    rw [EntitySet.append, List.map_append, List.map_singleton]
    exact List.nodup_append.2 ⟨h.nodup, List.nodup_singleton _, fun id hid other hother heq =>
      hnot (List.mem_singleton.1 hother ▸ heq ▸ hid)⟩
  contains_iff id := by
    rw [contains_append, h.contains_iff]
    simp [EntitySet.append, or_comm, eq_comm]

/-- The entities by id. -/
def table (set : EntitySet α) : Table α :=
  .ofList (set.entries.map fun entity => (Entity.id entity, entity))

/-- The entities are written as the table of them is. -/
theorem tabulate_eq (set : EntitySet α) (write : α → Json) :
    set.tabulate write = set.table.map write := by
  refine Table.ext_entries ?_
  show Entries.ofList _ = Entries.mapValues write (Entries.ofList _)
  rw [Entries.mapValues_ofList]
  simp [Entries.mapValues, Function.comp_def]

/-- A coherent set has each entity under its id. -/
theorem Coherent.get?_table_eq_some_iff {set : EntitySet α} (h : set.Coherent) {id : String}
    {entity : α} :
    set.table.get? id = some entity ↔ entity ∈ set.entries ∧ Entity.id entity = id := by
  have hnodup :
      (Entries.names (set.entries.map fun entity => (Entity.id entity, entity))).Nodup := by
    simpa [Entries.names, Function.comp_def] using h.nodup
  rw [table, Table.get?, Table.ofList, Entries.lookup_ofList hnodup,
    Entries.lookup_eq_some_iff hnodup]
  simp only [List.mem_map, Prod.mk.injEq]
  constructor
  · rintro ⟨_, hentity, hid, rfl⟩
    exact ⟨hentity, hid⟩
  · rintro ⟨hentity, hid⟩
    exact ⟨entity, hentity, hid, rfl⟩

/-- What a table made of a coherent set has under an id was made of the entity of the id. -/
theorem Coherent.exists_of_get?_map {β : Type} {set : EntitySet α} (h : set.Coherent) {form : α → β}
    {id : String} {value : β} (hget : (set.table.map form).get? id = some value) :
    ∃ entity ∈ set.entries, Entity.id entity = id ∧ form entity = value := by
  rw [Table.get?_map, Option.map_eq_some_iff] at hget
  obtain ⟨entity, hentity, hvalue⟩ := hget
  obtain ⟨hmem, hid⟩ := h.get?_table_eq_some_iff.1 hentity
  exact ⟨entity, hmem, hid, hvalue⟩

/-- A coherent set is written with each entity under its id. -/
theorem Coherent.get?_tabulate_eq_some_iff {set : EntitySet α} (h : set.Coherent)
    (write : α → Json) {id : String} {json : Json} :
    (set.tabulate write).get? id = some json ↔
      ∃ entity ∈ set.entries, Entity.id entity = id ∧ write entity = json := by
  rw [tabulate_eq, Table.get?_map, Option.map_eq_some_iff]
  simp only [h.get?_table_eq_some_iff, and_assoc]

/-- A coherent set has no entities exactly if the table of them is empty. -/
theorem Coherent.isEmpty_table {set : EntitySet α} (h : set.Coherent) :
    set.table.isEmpty = set.entries.isEmpty := by
  rw [Table.isEmpty, Bool.eq_iff_iff, List.isEmpty_iff, List.isEmpty_iff,
    List.eq_nil_iff_forall_not_mem, List.eq_nil_iff_forall_not_mem]
  constructor
  · intro hnone entity hentity
    exact hnone _ (Table.get?_eq_some_iff.1 (h.get?_table_eq_some_iff.2 ⟨hentity, rfl⟩))
  · rintro hnone ⟨id, entity⟩ hentry
    exact hnone entity (h.get?_table_eq_some_iff.1 (Table.get?_eq_some_iff.2 hentry)).1

end AppManifest.EntitySet
