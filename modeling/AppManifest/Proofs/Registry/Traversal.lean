import AppManifest.Proofs.Definition.Traversal
import AppManifest.Proofs.Registry.Growth

/-!
# The walk and the full traversal

Registering the types of a definition does not follow a type whose id is taken, while the full
traversal of the definition lists everything in it, over and over. If types with one id are equal,
the walk still appends just the first occurrence of every free id in the full traversal, in order
(`Registry.registerDefinition_traverses`).

What is skipped cannot hold a free id: a type whose id is taken equals a registered one, and all
types in that one are registered too. This fails only for the types that are still being walked.
Each of them is larger than everything inside it, so the walk asks only that registered types of a
bounded extent are settled (`Registry.Ready`), and goes down with the bound.
-/

namespace AppManifest

namespace CustomType

/-- The first occurrences, by id, of the types whose ids are not taken, in order. -/
def firstFree (isTaken : String → Bool) (types : List CustomType) : List CustomType :=
  (types.filter fun type => !isTaken type.id).eraseDupsBy fun type other => type.id == other.id

variable {isTaken : String → Bool} {type : CustomType} {types rest : List CustomType}

@[simp]
theorem firstFree_nil (isTaken : String → Bool) : firstFree isTaken [] = [] :=
  rfl

/-- A type with a taken id is passed over. -/
theorem firstFree_cons_of_taken (h : isTaken type.id = true) :
    firstFree isTaken (type :: rest) = firstFree isTaken rest := by
  simp [firstFree, h]

/-- A type with a free id comes first and takes it. -/
theorem firstFree_cons_of_free (h : isTaken type.id = false) :
    firstFree isTaken (type :: rest) =
      type :: firstFree (fun id => isTaken id || id == type.id) rest := by
  rw [firstFree, firstFree, List.filter_cons_of_pos (by simp [h]), List.eraseDupsBy_cons,
    List.filter_filter]
  congr 3
  funext other
  cases isTaken other.id <;> simp [beq_eq_decide]

/-- The types of a first list take their ids before those of a second. -/
theorem firstFree_append (isTaken : String → Bool) (types rest : List CustomType) :
    firstFree isTaken (types ++ rest) = firstFree isTaken types ++
      firstFree (fun id => isTaken id || (types.map CustomType.id).contains id) rest := by
  induction types generalizing isTaken with
  | nil => simp
  | cons type types ih =>
      cases htype : isTaken type.id with
      | true =>
          have hids : (fun id => isTaken id || ((type :: types).map CustomType.id).contains id) =
              fun id => isTaken id || (types.map CustomType.id).contains id := by
            funext id
            by_cases hid : id = type.id
            · simp [hid, htype]
            · simp [hid]
          rw [List.cons_append, firstFree_cons_of_taken htype, firstFree_cons_of_taken htype, ih,
            hids]
      | false =>
          have hids : (fun id => isTaken id || ((type :: types).map CustomType.id).contains id) =
              fun id => (isTaken id || id == type.id) ||
                (types.map CustomType.id).contains id := by
            funext id
            rw [List.map_cons, List.contains_cons, Bool.or_assoc]
          rw [List.cons_append, firstFree_cons_of_free htype, firstFree_cons_of_free htype, ih,
            hids, List.cons_append]

/-- If all ids are taken, no type has a free one. -/
theorem firstFree_eq_nil (h : ∀ type ∈ types, isTaken type.id = true) :
    firstFree isTaken types = [] := by
  have hnone : (types.filter fun type => !isTaken type.id) = [] :=
    List.filter_eq_nil_iff.2 fun type htype => by simp [h type htype]
  rw [firstFree, hnone]
  rfl

/-- Only types of the list are listed. -/
theorem firstFree_subset (isTaken : String → Bool) (types : List CustomType) :
    firstFree isTaken types ⊆ types := by
  induction types generalizing isTaken with
  | nil => exact List.Subset.refl _
  | cons type types ih =>
      cases htype : isTaken type.id with
      | true =>
          rw [firstFree_cons_of_taken htype]
          exact List.Subset.trans (ih _) (List.subset_cons_self _ _)
      | false =>
          rw [firstFree_cons_of_free htype]
          exact List.cons_subset_cons _ (ih _)

/-- Every id that occurs is taken or that of a type that is listed. -/
theorem mem_ids_firstFree_or (isTaken : String → Bool) (types : List CustomType) (id : String) :
    isTaken id = true ∨ id ∈ (firstFree isTaken types).map CustomType.id ↔
      isTaken id = true ∨ id ∈ types.map CustomType.id := by
  induction types generalizing isTaken with
  | nil => simp
  | cons type types ih =>
      cases htype : isTaken type.id with
      | true =>
          rw [firstFree_cons_of_taken htype, ih, List.map_cons, List.mem_cons]
          constructor
          · rintro (htaken | hmem)
            · exact .inl htaken
            · exact .inr (.inr hmem)
          · rintro (htaken | rfl | hmem)
            · exact .inl htaken
            · exact .inl htype
            · exact .inr hmem
      | false =>
          have hrest := ih fun id => isTaken id || id == type.id
          rw [Bool.or_eq_true, beq_iff_eq, or_assoc, or_assoc] at hrest
          rw [firstFree_cons_of_free htype, List.map_cons, List.map_cons, List.mem_cons,
            List.mem_cons, hrest]

end CustomType

namespace Registry

open CustomType

/-- Nothing changes but the types, to which these are appended, and the log. -/
structure AddsTypes (added : List CustomType) (before after : Registry) : Prop where
  types : after.types.entries = before.types.entries ++ added
  functions : after.functions = before.functions
  workflows : after.workflows = before.workflows
  datastores : after.datastores = before.datastores
  providers : after.providers = before.providers

/-- The registry can be walked for types below a bound: all its types are known, and in those below
the bound every id is taken. -/
structure Ready (known : List CustomType) (bound : Nat) (registry : Registry) : Prop where
  coherent : registry.Coherent
  subset : registry.types.entries ⊆ known
  settled : ∀ type ∈ registry.types.entries, type.extent < bound →
    ∀ nested ∈ type.definition.directTypes, registry.hasType nested.id = true

variable {before middle after registry : Registry} {added first second known : List CustomType}
  {bound : Nat} {type : CustomType}

/-- An event adds nothing. -/
theorem AddsTypes.note (registry : Registry) (event? : Option Event) :
    AddsTypes [] registry (registry.note event?) :=
  ⟨(List.append_nil _).symm, rfl, rfl, rfl, rfl⟩

/-- Doing nothing adds nothing. -/
theorem AddsTypes.refl (registry : Registry) : AddsTypes [] registry registry :=
  ⟨(List.append_nil _).symm, rfl, rfl, rfl, rfl⟩

/-- Keeping a type adds it. -/
theorem AddsTypes.keep (registry : Registry) (type : CustomType) :
    AddsTypes [type] registry (registry.keep (.type type)) :=
  ⟨rfl, rfl, rfl, rfl, rfl⟩

/-- Types are added one list after the other. -/
theorem AddsTypes.trans (h : AddsTypes first before middle) (h' : AddsTypes second middle after) :
    AddsTypes (first ++ second) before after where
  types := by rw [h'.types, h.types, List.append_assoc]
  functions := h'.functions.trans h.functions
  workflows := h'.workflows.trans h.workflows
  datastores := h'.datastores.trans h.datastores
  providers := h'.providers.trans h.providers

/-- The taken ids are those of the registered types. -/
theorem Coherent.hasType_iff (h : registry.Coherent) {id : String} :
    registry.hasType id = true ↔ id ∈ registry.types.entries.map CustomType.id :=
  h.types.contains_iff id

/-- Keeping a type takes its id. -/
theorem hasType_keep (registry : Registry) (type : CustomType) :
    (registry.keep (.type type)).hasType = fun id => registry.hasType id || id == type.id := by
  funext id
  have hkeep : (registry.keep (.type type)).isTaken .type id = true ↔ _ := isTaken_keep
  rw [Bool.eq_iff_iff, Bool.or_eq_true, beq_iff_eq]
  exact hkeep.trans (or_congr_right (and_iff_right rfl))

/-- If the first occurrences of free ids are added, all ids that occur are taken. -/
theorem AddsTypes.hasType_eq {types : List CustomType}
    (h : AddsTypes (firstFree before.hasType types) before after) (hbefore : before.Coherent)
    (hafter : after.Coherent) :
    after.hasType = fun id => before.hasType id || (types.map CustomType.id).contains id := by
  funext id
  rw [Bool.eq_iff_iff, hafter.hasType_iff, h.types, List.map_append, List.mem_append,
    ← hbefore.hasType_iff, mem_ids_firstFree_or, Bool.or_eq_true, List.contains_iff_mem]

/-- A registry that is ready for a bound is ready for a smaller one. -/
theorem Ready.mono (h : registry.Ready known bound) {smaller : Nat} (hbound : smaller ≤ bound) :
    registry.Ready known smaller :=
  ⟨h.coherent, h.subset, fun type htype hsmall =>
    h.settled type htype (Nat.lt_of_lt_of_le hsmall hbound)⟩

/-- A registry stays ready when parts are registered, if the types that this adds are known. -/
theorem Ready.registerParts (h : registry.Ready known bound) {parts : List Part}
    (hadds : AddsTypes added registry (registry.registerParts parts)) (hknown : added ⊆ known) :
    (registry.registerParts parts).Ready known bound := by
  have hgrows := registerParts_grows parts h.coherent
  refine ⟨hgrows.coherent, ?_, fun type htype hsmall nested hnested => ?_⟩
  · rw [hadds.types]
    exact List.append_subset.2 ⟨h.subset, hknown⟩
  · rcases hgrows.settles (.type type) htype with hkept | hsettled
    · rw [hgrows.coherent.hasType_iff, hadds.types, List.map_append]
      exact List.mem_append_left _
        (h.coherent.hasType_iff.1 (h.settled type hkept hsmall nested hnested))
    · exact (hsettled (.type nested) (List.mem_map_of_mem hnested)).isTaken hgrows.coherent

/-- With a type that was just kept, before what is inside it is walked, a registry is ready only for
what is smaller than the type. -/
theorem Ready.keep (h : registry.Ready known (type.extent + 1)) (hknown : type ∈ known)
    (hfree : registry.hasType type.id = false) :
    (registry.keep (.type type)).Ready known type.extent := by
  refine ⟨h.coherent.keep hfree, List.append_subset.2 ⟨h.subset, by simpa using hknown⟩,
    fun other hother hsmall nested hnested => ?_⟩
  rcases List.mem_append.1 hother with hother | hother
  · have hnested := h.settled other hother (by omega) nested hnested
    simp [hasType_keep, hnested]
  · cases List.mem_singleton.1 hother
    exact absurd hsmall (Nat.lt_irrefl _)

/-- In a registry that is ready for a type with a taken id, all ids in the full traversal of the
type are taken. -/
theorem Ready.covers (h : registry.Ready known bound) (hknown : Consistent known)
    (type : CustomType) (hsubset : type.allTypes ⊆ known) (hextent : type.extent < bound)
    (htaken : registry.hasType type.id = true) :
    ∀ inner ∈ type.allTypes, registry.hasType inner.id = true := by
  induction type using CustomType.nestedInduction with
  | step type ih =>
      rw [type.allTypes_eq] at hsubset ⊢
      rw [List.cons_subset] at hsubset
      obtain ⟨kept, hkept, hid⟩ := List.mem_map.1 (h.coherent.hasType_iff.1 htaken)
      have hsame : type.same kept = true :=
        hknown type hsubset.1 kept (h.subset hkept) hid.symm
      intro inner hinner
      rcases List.mem_cons.1 hinner with rfl | hinner
      · exact htaken
      · obtain ⟨direct, hdirect, hinner⟩ := Definition.mem_allTypes_iff.1 hinner
        -- the kept type is settled, and it has an equal type where this one has the direct one
        obtain ⟨other, hother, hequal⟩ := exists_same hsame hdirect
        have hother := h.settled kept hkept (extent_eq_of_same hsame ▸ hextent) other hother
        rw [← id_eq_of_same hequal] at hother
        exact ih direct hdirect
          (fun _ h => hsubset.2 (Definition.mem_allTypes_iff.2 ⟨direct, hdirect, h⟩))
          (Nat.lt_trans (extent_lt hdirect) hextent) hother inner hinner

/-- Registering types adds the first occurrences of free ids in their full traversals if registering
each of them does. -/
theorem registerTypes_adds_of (types : List CustomType)
    (htypes : ∀ type ∈ types, ∀ {registry : Registry}, registry.Ready known (type.extent + 1) →
      AddsTypes (firstFree registry.hasType type.allTypes) registry
        (registry.registerPart (.type type)))
    (hknown : types.flatMap allTypes ⊆ known) (hbound : ∀ type ∈ types, type.extent < bound)
    (h : registry.Ready known bound) :
    AddsTypes (firstFree registry.hasType (types.flatMap allTypes)) registry
      (registry.registerParts (types.map .type)) := by
  induction types generalizing registry with
  | nil => exact .refl registry
  | cons type rest ih =>
      rw [List.flatMap_cons, List.append_subset] at hknown
      have htype : AddsTypes (firstFree registry.hasType type.allTypes) registry
          (registry.registerParts [.type type]) :=
        htypes type List.mem_cons_self (h.mono (hbound type List.mem_cons_self))
      have hready : (registry.registerParts [.type type]).Ready known bound :=
        h.registerParts htype (List.Subset.trans (firstFree_subset _ _) hknown.1)
      have hrest := ih (fun other hother => htypes other (List.mem_cons_of_mem _ hother)) hknown.2
        (fun other hother => hbound other (List.mem_cons_of_mem _ hother)) hready
      rw [htype.hasType_eq h.coherent hready.coherent] at hrest
      rw [List.flatMap_cons, firstFree_append]
      exact htype.trans hrest

/-- Registering a type adds the first occurrences of free ids in its full traversal. -/
theorem registerType_adds (hknown : Consistent known) (type : CustomType)
    (hsubset : type.allTypes ⊆ known) (h : registry.Ready known (type.extent + 1)) :
    AddsTypes (firstFree registry.hasType type.allTypes) registry
      (registry.registerPart (.type type)) := by
  -- on the nesting of types, in any registry: the walk changes it before it comes to a nested type
  induction type using CustomType.nestedInduction generalizing registry with
  | step type ih =>
      cases htaken : registry.hasType type.id with
      | true =>
          have hid : registry.isTaken (Part.type type).kind (Part.type type).id = true := htaken
          obtain ⟨kept, -, -, -, heq⟩ := registerPart_of_taken h.coherent hid
          rw [heq, firstFree_eq_nil (h.covers hknown type hsubset (Nat.lt_succ_self _) htaken)]
          exact .note registry _
      | false =>
          rw [type.allTypes_eq] at hsubset ⊢
          rw [List.cons_subset, Definition.allTypes_eq] at hsubset
          have hkeep := AddsTypes.keep registry type
          have hready := h.keep hsubset.1 htaken
          have hnested := registerTypes_adds_of type.definition.directTypes
            (fun nested hnested _ => ih nested hnested
              (List.Subset.trans (fun _ h => List.mem_flatMap.2 ⟨nested, hnested, h⟩) hsubset.2))
            hsubset.2 (fun _ => extent_lt) hready
          have hfree : registry.isTaken (Part.type type).kind (Part.type type).id = false := htaken
          rw [firstFree_cons_of_free htaken, Definition.allTypes_eq, ← hasType_keep,
            registerPart_of_free hfree]
          exact hkeep.trans hnested

/-- In every state of a registry, if all types with one id that are registered or occur anywhere in
a definition are equal, registering the types of the definition appends the first occurrence of
every free id in the full traversal of the definition, in order, and changes no other section. -/
theorem registerDefinition_traverses (operations : List Operation) (definition : Definition)
    (h : Consistent ((Registry.empty.applyAll operations).types.entries ++ definition.allTypes)) :
    let registry := Registry.empty.applyAll operations
    AddsTypes (firstFree registry.hasType definition.allTypes) registry
      (registry.registerDefinition definition) := by
  intro registry
  have hgrows := applyAll_grows operations
  have hsubset : definition.directTypes.flatMap allTypes ⊆
      registry.types.entries ++ definition.allTypes := by
    rw [← Definition.allTypes_eq]
    exact List.subset_append_right _ _
  have hready (bound : Nat) :
      registry.Ready (registry.types.entries ++ definition.allTypes) bound :=
    ⟨hgrows.coherent, List.subset_append_left _ _, fun type htype _ nested hnested =>
      hgrows.settled (.type type) (.type nested) htype (List.mem_map_of_mem hnested)⟩
  rw [registerDefinition_eq, Definition.allTypes_eq]
  exact registerTypes_adds_of definition.directTypes
    (fun type htype _ => registerType_adds h type
      (List.Subset.trans (fun _ h => List.mem_flatMap.2 ⟨type, htype, h⟩) hsubset))
    hsubset (fun _ htype => Nat.lt_succ_of_le (extent_le htype)) (hready _)

/-- A type that two other types use. -/
def addressType : CustomType :=
  ⟨"address", .ofKind (.typedObject [("street", .primitive .string)] ["street"] none), none, none⟩

/-- The address of a home. -/
def homeType : CustomType :=
  ⟨"home", .custom addressType, none, none⟩

/-- The addresses of an office. -/
def officeType : CustomType :=
  ⟨"office", .array (.custom addressType), none, none⟩

/-- An object in which two ways lead to addresses. -/
def premisesDefinition : Definition :=
  .ofKind (.typedObject [("home", .custom homeType), ("office", .custom officeType)] [] none)

/-- Addresses are listed in the full traversal once for each of the two ways that lead to them, and
registered once, before the office. If the office is registered already, only the home is added. -/
theorem premises_traversed :
    premisesDefinition.allTypes = [homeType, addressType, officeType, addressType] ∧
      AddsTypes [homeType, addressType, officeType] Registry.empty
        (Registry.empty.registerDefinition premisesDefinition) ∧
      let registry := Registry.empty.applyAll [.type officeType]
      AddsTypes [homeType] registry (registry.registerDefinition premisesDefinition) :=
  ⟨rfl, registerDefinition_traverses [] premisesDefinition (by decide),
    registerDefinition_traverses [.type officeType] premisesDefinition (by decide)⟩

end Registry

end AppManifest
