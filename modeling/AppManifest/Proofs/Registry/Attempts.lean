import AppManifest.Proofs.Registry.Equality
import AppManifest.Proofs.Registry.Growth

/-!
# The first registration wins

Whatever is registered, one part after the other is tried: first the given ones, and after a part
whose id is free those that it uses, before the rest (`Attempts`). This order does not depend on the
registry. Of all parts that are tried under one kind and id the first is kept
(`Registry.Reflects`), so a run of operations on a fresh registry writes exactly these
(`Registry.first_registration_wins`).
-/

namespace AppManifest

namespace Part

/-- The part is of this kind and has this id. -/
def isAt (kind : EntityKind) (id : String) (part : Part) : Bool :=
  part.kind == kind && part.id == id

@[simp]
theorem isAt_iff {kind : EntityKind} {id : String} {part : Part} :
    part.isAt kind id = true ↔ part.kind = kind ∧ part.id = id := by
  simp [isAt]

end Part

/-- After some parts have been tried and while others are pending, these are all that come to be
tried, in order. A part that is tried for the first time under its kind and id puts the parts that
it uses in front of those that are pending. -/
inductive Attempts : List Part → List Part → List Part → Prop where
  | done {tried : List Part} : Attempts tried [] tried
  | repeated {tried pending all : List Part} {part : Part} :
      tried.any (Part.isAt part.kind part.id) = true → Attempts (tried ++ [part]) pending all →
      Attempts tried (part :: pending) all
  | first {tried pending all : List Part} {part : Part} :
      tried.any (Part.isAt part.kind part.id) = false →
      Attempts (tried ++ [part]) (part.uses ++ pending) all → Attempts tried (part :: pending) all

/-- What comes to be tried is determined by what has been tried and what is pending. -/
theorem Attempts.unique {tried pending all other : List Part} (h : Attempts tried pending all)
    (hother : Attempts tried pending other) : all = other := by
  induction h with
  | done =>
      cases hother
      rfl
  | repeated hany _ ih =>
      cases hother with
      | repeated _ hrest => exact ih hrest
      | first hnone => cases hany.symm.trans hnone
  | first hnone _ ih =>
      cases hother with
      | repeated hany => cases hany.symm.trans hnone
      | first _ hrest => exact ih hrest

/-- Trying one more part makes no difference to the first part of a kind and an id, unless this one
is the first. -/
theorem find?_isAt_append {tried : List Part} {part : Part} {kind : EntityKind} {id : String}
    (h : part.isAt kind id = true → tried.any (Part.isAt kind id) = true) :
    (tried ++ [part]).find? (Part.isAt kind id) = tried.find? (Part.isAt kind id) := by
  rw [List.find?_append, List.find?_singleton]
  split
  next hpart =>
    obtain ⟨found, hfound⟩ :=
      Option.isSome_iff_exists.1 ((List.find?_isSome).2 (List.any_eq_true.1 (h hpart)))
    rw [hfound, Option.some_or]
  next => exact Option.or_none

namespace Registry

/-- The registry keeps exactly the parts that were tried first under their kinds and ids. -/
structure Reflects (registry : Registry) (tried : List Part) : Prop where
  coherent : registry.Coherent
  keeps_iff : ∀ part : Part,
    registry.Keeps part ↔ tried.find? (Part.isAt part.kind part.id) = some part

namespace Reflects

variable {registry : Registry} {tried : List Part} {part : Part} {kind : EntityKind} {id : String}

/-- A fresh registry keeps nothing, as nothing was tried. -/
theorem empty : Registry.empty.Reflects [] where
  coherent := .empty
  keeps_iff part := by
    cases part <;> exact ⟨fun h => (List.not_mem_nil h).elim, fun h => by cases h⟩

/-- An id is taken exactly if a part was tried under it. -/
theorem isTaken_eq (h : registry.Reflects tried) (kind : EntityKind) (id : String) :
    registry.isTaken kind id = tried.any (Part.isAt kind id) := by
  rw [Bool.eq_iff_iff, h.coherent.isTaken_iff, List.any_eq_true]
  constructor
  · rintro ⟨part, hkeeps, rfl, rfl⟩
    have hfind := (h.keeps_iff part).1 hkeeps
    exact ⟨part, List.mem_of_find?_eq_some hfind, Part.isAt_iff.2 ⟨rfl, rfl⟩⟩
  · intro hany
    obtain ⟨part, hfind⟩ := Option.isSome_iff_exists.1 (List.find?_isSome.2 hany)
    obtain ⟨rfl, rfl⟩ := Part.isAt_iff.1 (List.find?_some hfind)
    exact ⟨part, (h.keeps_iff part).2 hfind, rfl, rfl⟩

/-- Trying a part with a taken id changes nothing. -/
theorem of_taken (h : registry.Reflects tried)
    (hany : tried.any (Part.isAt part.kind part.id) = true) :
    (registry.registerPart part).Reflects (tried ++ [part]) := by
  rw [← h.isTaken_eq] at hany
  obtain ⟨_, -, -, -, heq⟩ := registerPart_of_taken h.coherent hany
  rw [heq]
  refine ⟨h.coherent.note _, fun other => ?_⟩
  rw [keeps_note, h.keeps_iff, find?_isAt_append]
  intro hpart
  obtain ⟨hkind, hid⟩ := Part.isAt_iff.1 hpart
  rw [← hkind, ← hid, ← h.isTaken_eq, hany]

/-- Trying a part with a free id keeps it. -/
theorem of_free (h : registry.Reflects tried)
    (hnone : tried.any (Part.isAt part.kind part.id) = false) :
    (registry.keep part).Reflects (tried ++ [part]) := by
  refine ⟨h.coherent.keep ((h.isTaken_eq _ _).trans hnone), fun other => ?_⟩
  rw [keeps_keep, h.keeps_iff]
  by_cases hother : part.isAt other.kind other.id = true
  · obtain ⟨hkind, hid⟩ := Part.isAt_iff.1 hother
    have hfind : tried.find? (Part.isAt part.kind part.id) = none :=
      List.find?_eq_none.2 fun earlier hearlier hat => by
        cases hnone.symm.trans (List.any_eq_true.2 ⟨earlier, hearlier, hat⟩)
    rw [← hkind, ← hid, List.find?_append, hfind, Option.none_or, List.find?_singleton,
      if_pos (Part.isAt_iff.2 ⟨rfl, rfl⟩), Option.some.injEq]
    constructor
    · rintro (hnever | rfl)
      · cases hnever
      · rfl
    · exact fun heq => .inr heq.symm
  · have hne : other ≠ part := by
      rintro rfl
      exact hother (Part.isAt_iff.2 ⟨rfl, rfl⟩)
    rw [find?_isAt_append fun hpart => absurd hpart hother, or_iff_left hne]

/-- A registry that keeps the first parts writes them. -/
theorem get?_sections (h : registry.Reflects tried) (kind : EntityKind) (id : String) :
    registry.sections.get? kind id = (tried.find? (Part.isAt kind id)).map Part.toJson := by
  refine Option.ext fun json => ?_
  rw [h.coherent.get?_sections, Option.map_eq_some_iff]
  constructor
  · rintro ⟨part, hkeeps, rfl, rfl, hjson⟩
    exact ⟨part, (h.keeps_iff part).1 hkeeps, hjson⟩
  · rintro ⟨part, hfind, hjson⟩
    obtain ⟨rfl, rfl⟩ := Part.isAt_iff.1 (List.find?_some hfind)
    exact ⟨part, (h.keeps_iff part).2 hfind, rfl, rfl, hjson⟩

end Reflects

/-- Registering the parts, after some have been tried, tries further ones and comes to keep the
first of all that were tried. What is pending behind the parts is tried afterwards. -/
def Tries (parts : List Part) : Prop :=
  ∀ {registry : Registry} {tried : List Part}, registry.Reflects tried →
    ∃ more, (registry.registerParts parts).Reflects more ∧
      ∀ {pending all : List Part}, Attempts more pending all → Attempts tried (parts ++ pending) all

/-- Registering parts tries them if registering each of them does. -/
theorem tries_of_forall (parts : List Part) (hparts : ∀ part ∈ parts, Tries [part]) :
    Tries parts := by
  induction parts with
  | nil => exact fun {_ tried} h => ⟨tried, h, id⟩
  | cons part rest ih =>
      intro registry tried h
      obtain ⟨middle, hmiddle, htried⟩ := hparts part List.mem_cons_self h
      obtain ⟨more, hmore, hrest⟩ :=
        ih (fun other hother => hparts other (List.mem_cons_of_mem _ hother)) hmiddle
      exact ⟨more, hmore, fun hall => htried (hrest hall)⟩

/-- Registering a part tries it and, if it is the first of its kind and id, the parts that it
uses. -/
theorem tries_part (part : Part) : Tries [part] := by
  -- on what the part uses, after any attempts: they go on before a used part is come to
  induction part using Part.usesInduction with
  | step part ih =>
      intro registry tried h
      rw [registerParts_cons, registerParts_nil]
      cases hany : tried.any (Part.isAt part.kind part.id) with
      | true => exact ⟨_, h.of_taken hany, .repeated hany⟩
      | false =>
          have hfree := (h.isTaken_eq part.kind part.id).trans hany
          obtain ⟨more, hmore, huses⟩ := tries_of_forall part.uses ih (h.of_free hany)
          rw [registerPart_of_free hfree]
          exact ⟨more, hmore, fun hall => .first hany (huses hall)⟩

/-- In a fresh registry, registering parts tries some parts and keeps the first ones among them. -/
theorem exists_attempts (parts : List Part) :
    ∃ attempts, Attempts [] parts attempts ∧ (empty.registerParts parts).Reflects attempts := by
  obtain ⟨attempts, hreflects, hattempts⟩ :=
    tries_of_forall parts (fun part _ => tries_part part) .empty
  refine ⟨attempts, ?_, hreflects⟩
  have hall := hattempts .done
  rwa [List.append_nil] at hall

end Registry

/-! ## Runs of operations -/

namespace Sections

/-- The keys of the entries that are written for the parts of a kind. -/
def keys (sections : Sections) : EntityKind → List String
  | .function => sections.functions.names
  | .type => sections.types.names
  | .workflow => sections.workflows.names
  | .datastore => sections.datastores.names
  | .provider => (sections.providers.map Table.names).getD []

/-- There is one key at most for each id. -/
theorem nodup_keys (sections : Sections) (kind : EntityKind) : (sections.keys kind).Nodup := by
  cases kind with
  | function => exact sections.functions.ascending.nodup
  | type => exact sections.types.ascending.nodup
  | workflow => exact sections.workflows.ascending.nodup
  | datastore => exact sections.datastores.ascending.nodup
  | provider =>
      rw [keys]
      cases sections.providers with
      | none => exact .nil
      | some providers => exact providers.ascending.nodup

/-- An id is a key exactly if something is written under it. -/
theorem mem_keys_iff {sections : Sections} {kind : EntityKind} {id : String} :
    id ∈ sections.keys kind ↔ ∃ json, sections.get? kind id = some json := by
  cases kind with
  | function | type | workflow | datastore => exact Table.mem_names_iff
  | provider =>
      rw [keys, get?]
      cases sections.providers with
      | none => simp
      | some providers => exact Table.mem_names_iff

end Sections

/-- In a coherent set an entity is found exactly under the ids that are taken. -/
theorem EntitySet.Coherent.isSome_find? {α : Type} [Entity α] {set : EntitySet α} (h : set.Coherent)
    (id : String) : (set.find? id).isSome = set.contains id := by
  rw [Bool.eq_iff_iff, Option.isSome_iff_exists, h.contains_iff, List.mem_map]
  simp only [h.find?_eq_some_iff]

namespace Registry

/-- The ids of the registered parts of a kind, in the order of their registration. -/
def ids (registry : Registry) : EntityKind → List String
  | .function => registry.functions.entries.map Entity.id
  | .type => registry.types.entries.map Entity.id
  | .workflow => registry.workflows.entries.map Entity.id
  | .datastore => registry.datastores.entries.map Entity.id
  | .provider => registry.providers.entries.map Entity.id

/-- The registered part of a kind and an id. -/
def find? (registry : Registry) : EntityKind → String → Option Part
  | .function, id => (registry.functions.find? id).map .function
  | .type, id => (registry.types.find? id).map .type
  | .workflow, id => (registry.workflows.find? id).map .workflow
  | .datastore, id => (registry.datastores.find? id).map .datastore
  | .provider, id => (registry.providers.find? id).map .provider

/-- The part of which an operation answers whether its id was free. -/
def Operation.subject? : Operation → Option Part
  | .function entity => some (.function entity)
  | .type entity => some (.type entity)
  | .workflow entity => some (.workflow entity)
  | .datastore entity => some (.datastore entity)
  | _ => none

variable {registry : Registry}

/-- In a coherent registry the parts of a kind have distinct ids. -/
theorem Coherent.nodup_ids (h : registry.Coherent) (kind : EntityKind) :
    (registry.ids kind).Nodup := by
  cases kind with
  | function => exact h.functions.nodup
  | type => exact h.types.nodup
  | workflow => exact h.workflows.nodup
  | datastore => exact h.datastores.nodup
  | provider => exact h.providers.nodup

/-- In a coherent registry the taken ids are those of the registered parts. -/
theorem Coherent.isTaken_iff_mem_ids (h : registry.Coherent) (kind : EntityKind) (id : String) :
    registry.isTaken kind id = true ↔ id ∈ registry.ids kind := by
  cases kind with
  | function => exact h.functions.contains_iff id
  | type => exact h.types.contains_iff id
  | workflow => exact h.workflows.contains_iff id
  | datastore => exact h.datastores.contains_iff id
  | provider => exact h.providers.contains_iff id

/-- In a coherent registry a part is found exactly under the ids that are taken. -/
theorem Coherent.isSome_find? (h : registry.Coherent) (kind : EntityKind) (id : String) :
    (registry.find? kind id).isSome = registry.isTaken kind id := by
  cases kind with
  | function => exact Option.isSome_map.trans (h.functions.isSome_find? id)
  | type => exact Option.isSome_map.trans (h.types.isSome_find? id)
  | workflow => exact Option.isSome_map.trans (h.workflows.isSome_find? id)
  | datastore => exact Option.isSome_map.trans (h.datastores.isSome_find? id)
  | provider => exact Option.isSome_map.trans (h.providers.isSome_find? id)

/-- A coherent registry is written with one entry for each registered part. -/
theorem Coherent.keys_perm (h : registry.Coherent) (kind : EntityKind) :
    (registry.sections.keys kind).Perm (registry.ids kind) := by
  refine (List.perm_ext_iff_of_nodup (registry.sections.nodup_keys kind) (h.nodup_ids kind)).2
    fun id => ?_
  rw [Sections.mem_keys_iff, ← h.isTaken_iff_mem_ids, h.isTaken_iff]
  simp only [h.get?_sections]
  constructor
  · rintro ⟨_, part, hkeeps, hkind, hid, -⟩
    exact ⟨part, hkeeps, hkind, hid⟩
  · rintro ⟨part, hkeeps, hkind, hid⟩
    exact ⟨_, part, hkeeps, hkind, hid, rfl⟩

/-- A part is inserted exactly if its id is free. -/
theorem Coherent.insertPart_iff (h : registry.Coherent) (part : Part) :
    (registry.insertPart part).1 = .inserted ↔ registry.isTaken part.kind part.id = false := by
  cases htaken : registry.isTaken part.kind part.id with
  | false => simp [insertPart_of_free htaken]
  | true =>
      obtain ⟨kept, -, -, -, heq⟩ := insertPart_of_taken h htaken
      simp [heq, kept.verdict_ne_inserted part]

/-- The answer of a registration whose registry depends on what the answer is. -/
theorem fst_answer {condition : Prop} [Decidable condition] {first second : Registry} :
    (if condition then (true, first) else (false, second)).1 = decide condition := by
  by_cases h : condition <;> simp [h]

/-- An operation on a part answers whether the part was inserted. -/
theorem answer_eq {operation : Operation} {part : Part} (hpart : operation.subject? = some part) :
    (registry.apply operation).1 =
      .inserted (decide ((registry.insertPart part).1 = .inserted)) := by
  cases operation <;> cases hpart
  case function entity =>
    rw [apply, registerFunction]
    exact congrArg Answer.inserted fst_answer
  case type entity =>
    obtain ⟨id, definition, title, description⟩ := entity
    rw [apply, registerType]
    exact congrArg Answer.inserted fst_answer
  case workflow entity =>
    rw [apply, registerWorkflow]
    exact congrArg Answer.inserted fst_answer
  case datastore entity =>
    rw [apply, registerDatastore]
    exact congrArg Answer.inserted fst_answer

/-- An operation on a part answers whether the id of the part was free. -/
theorem Coherent.answer_eq (h : registry.Coherent) {operation : Operation} {part : Part}
    (hpart : operation.subject? = some part) :
    (registry.apply operation).1 = .inserted (!registry.isTaken part.kind part.id) := by
  rw [Registry.answer_eq hpart, Answer.inserted.injEq, Bool.eq_iff_iff, decide_eq_true_iff,
    h.insertPart_iff, Bool.not_eq_true']

/-- After any operations on a fresh registry, the parts of each kind have distinct ids, these are
the taken ones and the keys of the entries that are written, and under each of them a part is found.
Whatever is done next only appends, and answers whether the id was free. Under each id the first
part is written that was tried under it. -/
theorem first_registration_wins (operations : List Operation) :
    let registry := Registry.empty.applyAll operations
    (∀ kind, (registry.ids kind).Nodup ∧ (registry.sections.keys kind).Perm (registry.ids kind) ∧
      ∀ id, (registry.isTaken kind id = true ↔ id ∈ registry.ids kind) ∧
        (registry.find? kind id).isSome = registry.isTaken kind id) ∧
    (∀ operation, registry.Extends (registry.apply operation).2 ∧
      ∀ part, operation.subject? = some part →
        (registry.apply operation).1 = .inserted (!registry.isTaken part.kind part.id)) ∧
    ∃ attempts,
      (∀ other, Attempts [] (operations.flatMap Operation.parts) other ↔ other = attempts) ∧
      ∀ kind id, registry.sections.get? kind id =
        (attempts.find? (Part.isAt kind id)).map Part.toJson := by
  intro registry
  obtain ⟨attempts, hattempts, hreflects⟩ := exists_attempts (operations.flatMap Operation.parts)
  rw [← applyAll_eq] at hreflects
  have hcoherent : registry.Coherent := hreflects.coherent
  refine ⟨fun kind => ⟨hcoherent.nodup_ids kind, hcoherent.keys_perm kind, fun id =>
      ⟨hcoherent.isTaken_iff_mem_ids kind id, hcoherent.isSome_find? kind id⟩⟩,
    fun operation => ⟨?_, fun part hpart => hcoherent.answer_eq hpart⟩,
    attempts, fun other => ⟨fun hother => hother.unique hattempts, ?_⟩, hreflects.get?_sections⟩
  · rw [apply_eq]
    exact (registerParts_grows operation.parts hcoherent).extension
  · rintro rfl
    exact hattempts

end Registry

end AppManifest
