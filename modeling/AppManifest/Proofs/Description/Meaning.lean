import Mathlib.Logic.Relation
import AppManifest.Description.Resolver
import AppManifest.Proofs.Table

/-!
# The meaning of schemas

`Schema.Defines names schema definition` says that a schema declares a definition, given which types
ids name, and `Resolves schemas id type` that an id names a type, without caches, owners or errors:
an id names the type that its schema declares. An id names at most one type, and one that names a
type does not lead back to itself (`Resolves.not_cyclic`). A schema declares a definition exactly if
it has no defect and all ids to which it refers name types (`Schema.exists_defines_iff`).
-/

namespace AppManifest

namespace Schema

mutual

/-- The ids of the types to which a schema refers, in order. -/
def references : Schema → List String
  | .defective _ | .primitive _ _ | .untypedObject _ => []
  | .reference id _ => [id]
  | .typedObject properties _ _ _ => propertyReferences properties
  | .array items _ => items.references

/-- The ids of the types to which named schemas refer, in order. -/
def propertyReferences : List (String × Schema) → List String
  | [] => []
  | (_, schema) :: rest => schema.references ++ propertyReferences rest

end

mutual

/-- The schema has no defect. -/
def isSound : Schema → Bool
  | .defective _ => false
  | .reference _ _ | .primitive _ _ | .untypedObject _ => true
  | .typedObject properties _ _ _ => areSound properties
  | .array items _ => items.isSound

/-- Named schemas have no defect. -/
def areSound : List (String × Schema) → Bool
  | [] => true
  | (_, schema) :: rest => schema.isSound && areSound rest

end

/-- The schema of one type refers to another type. -/
def Follows (schemas : Table Schema) (first second : String) : Prop :=
  ∃ schema, schemas.get? first = some schema ∧ second ∈ schema.references

mutual

/-- A schema declares a definition, given which types ids name. -/
def Defines (names : String → CustomType → Prop) : Schema → Definition → Prop
  | .defective _, _ => False
  | .reference id notes, definition => ∃ type, names id type ∧ definition = ⟨.custom type, notes⟩
  | .primitive type notes, definition => definition = ⟨.primitive type, notes⟩
  | .untypedObject notes, definition => definition = ⟨.untypedObject, notes⟩
  | .typedObject properties required additional notes, definition =>
      ∃ definitions, DefinesAll names properties definitions ∧
        definition = ⟨.typedObject definitions required additional, notes⟩
  | .array items notes, definition =>
      ∃ inner, Defines names items inner ∧ definition = ⟨.array inner, notes⟩

/-- Named schemas declare definitions of the same names, given which types ids name. -/
def DefinesAll (names : String → CustomType → Prop) :
    List (String × Schema) → List (String × Definition) → Prop
  | [], definitions => definitions = []
  | (name, schema) :: rest, definitions =>
      ∃ definition others, Defines names schema definition ∧ DefinesAll names rest others ∧
        definitions = (name, definition) :: others

end

variable {names others : String → CustomType → Prop}

mutual

/-- A schema still declares a definition when the ids to which it refers name more types. -/
theorem Defines.mono :
    (schema : Schema) → {definition : Definition} →
      (∀ id type, id ∈ schema.references → names id type → others id type) →
      Defines names schema definition → Defines others schema definition
  | .defective _, _, _, hdefines => hdefines
  | .reference _ _, _, h, ⟨type, hnames, heq⟩ => ⟨type, h _ _ List.mem_cons_self hnames, heq⟩
  | .primitive _ _, _, _, hdefines | .untypedObject _, _, _, hdefines => hdefines
  | .typedObject properties _ _ _, _, h, ⟨definitions, hproperties, heq⟩ =>
      ⟨definitions, DefinesAll.mono properties h hproperties, heq⟩
  | .array items _, _, h, ⟨inner, hitems, heq⟩ => ⟨inner, Defines.mono items h hitems, heq⟩

/-- Named schemas still declare definitions when the ids to which they refer name more types. -/
theorem DefinesAll.mono :
    (properties : List (String × Schema)) → {definitions : List (String × Definition)} →
      (∀ id type, id ∈ propertyReferences properties → names id type → others id type) →
      DefinesAll names properties definitions → DefinesAll others properties definitions
  | [], _, _, hnil => hnil
  | (_, schema) :: rest, _, h, ⟨definition, definitions, hhead, hrest, heq⟩ =>
      ⟨definition, definitions,
        Defines.mono schema (fun id type hid => h id type (List.mem_append_left _ hid)) hhead,
        DefinesAll.mono rest (fun id type hid => h id type (List.mem_append_right _ hid)) hrest,
        heq⟩

end

mutual

/-- A schema declares at most one definition if ids name at most one type. -/
theorem Defines.unique (h : ∀ id first second, names id first → others id second → first = second) :
    (schema : Schema) → {first second : Definition} →
      Defines names schema first → Defines others schema second → first = second
  | .defective _, _, _, hfirst, _ => hfirst.elim
  | .reference _ _, _, _, ⟨_, hfirst, heq⟩, ⟨_, hsecond, heq'⟩ => by
      rw [heq, heq', h _ _ _ hfirst hsecond]
  | .primitive _ _, _, _, heq, heq' | .untypedObject _, _, _, heq, heq' => heq.trans heq'.symm
  | .typedObject properties _ _ _, _, _, ⟨_, hfirst, heq⟩, ⟨_, hsecond, heq'⟩ => by
      rw [heq, heq', DefinesAll.unique h properties hfirst hsecond]
  | .array items _, _, _, ⟨_, hfirst, heq⟩, ⟨_, hsecond, heq'⟩ => by
      rw [heq, heq', Defines.unique h items hfirst hsecond]

/-- Named schemas declare at most one list of definitions if ids name at most one type. -/
theorem DefinesAll.unique
    (h : ∀ id first second, names id first → others id second → first = second) :
    (properties : List (String × Schema)) → {first second : List (String × Definition)} →
      DefinesAll names properties first → DefinesAll others properties second → first = second
  | [], _, _, heq, heq' => heq.trans heq'.symm
  | (_, schema) :: rest, _, _, ⟨_, _, hfirst, hrest, heq⟩, ⟨_, _, hsecond, hrest', heq'⟩ => by
      rw [heq, heq', Defines.unique h schema hfirst hsecond, DefinesAll.unique h rest hrest hrest']

end

mutual

/-- A schema declares a definition exactly if it has no defect and every id to which it refers names
a type. -/
theorem exists_defines_iff :
    (schema : Schema) → ((∃ definition, Defines names schema definition) ↔
      schema.isSound = true ∧ ∀ id ∈ schema.references, ∃ type, names id type)
  | .defective defect => by
      constructor
      · rintro ⟨_, h⟩
        exact h.elim
      · rintro ⟨h, -⟩
        cases h
  | .reference id notes => by
      constructor
      · rintro ⟨_, type, htype, -⟩
        exact ⟨rfl, fun other hother => List.mem_singleton.1 hother ▸ ⟨type, htype⟩⟩
      · rintro ⟨-, h⟩
        obtain ⟨type, htype⟩ := h id List.mem_cons_self
        exact ⟨_, type, htype, rfl⟩
  | .primitive _ _ | .untypedObject _ =>
      ⟨fun _ => ⟨rfl, fun _ h => by cases h⟩, fun _ => ⟨_, rfl⟩⟩
  | .typedObject properties required additional notes => by
      refine Iff.trans ⟨?_, ?_⟩ (exists_definesAll_iff properties)
      · rintro ⟨_, definitions, h, -⟩
        exact ⟨definitions, h⟩
      · rintro ⟨definitions, h⟩
        exact ⟨_, definitions, h, rfl⟩
  | .array items notes => by
      refine Iff.trans ⟨?_, ?_⟩ (exists_defines_iff items)
      · rintro ⟨_, inner, h, -⟩
        exact ⟨inner, h⟩
      · rintro ⟨inner, h⟩
        exact ⟨_, inner, h, rfl⟩

/-- Named schemas declare definitions exactly if none has a defect and every id to which they refer
names a type. -/
theorem exists_definesAll_iff :
    (properties : List (String × Schema)) →
      ((∃ definitions, DefinesAll names properties definitions) ↔
        areSound properties = true ∧ ∀ id ∈ propertyReferences properties, ∃ type, names id type)
  | [] => ⟨fun _ => ⟨rfl, fun _ h => by cases h⟩, fun _ => ⟨_, rfl⟩⟩
  | (name, schema) :: rest => by
      have hschema := exists_defines_iff schema
      have hrest := exists_definesAll_iff rest
      simp only [areSound, propertyReferences, Bool.and_eq_true, List.mem_append]
      constructor
      · rintro ⟨_, definition, definitions, h, h', -⟩
        obtain ⟨hsound, hreferences⟩ := hschema.1 ⟨definition, h⟩
        obtain ⟨hsound', hreferences'⟩ := hrest.1 ⟨definitions, h'⟩
        exact ⟨⟨hsound, hsound'⟩, fun id hid => hid.elim (hreferences id) (hreferences' id)⟩
      · rintro ⟨⟨hsound, hsound'⟩, hreferences⟩
        obtain ⟨definition, h⟩ := hschema.2 ⟨hsound, fun id hid => hreferences id (.inl hid)⟩
        obtain ⟨definitions, h'⟩ := hrest.2 ⟨hsound', fun id hid => hreferences id (.inr hid)⟩
        exact ⟨_, definition, definitions, h, h', rfl⟩

end

/-- Definitions have the names of the schemas that declare them. -/
theorem DefinesAll.names_eq {properties : List (String × Schema)}
    {definitions : List (String × Definition)} (h : DefinesAll names properties definitions) :
    Entries.names definitions = Entries.names properties := by
  induction properties generalizing definitions with
  | nil =>
      obtain rfl := h
      rfl
  | cons head rest ih =>
      obtain ⟨definition, definitions, -, hrest, rfl⟩ := h
      exact congrArg (List.cons head.1) (ih hrest)

end Schema

/-- An id names the type that its schema declares, given types that ids name. -/
inductive Resolves (schemas : Table Schema) : String → CustomType → Prop where
  | intro {id schema definition} {names : String → CustomType → Prop} :
      (∀ id type, names id type → Resolves schemas id type) →
      schemas.get? id = some schema → schema.Defines names definition →
      Resolves schemas id (.ofDefinition id definition)

/-- Named JSON values declare, as schemas, definitions of the same names. -/
def DefinesTable (schemas : Table Schema) (values : Table Json) (table : Table Definition) : Prop :=
  Schema.DefinesAll (Resolves schemas) (values.map Schema.ofJson).entries table.entries

variable {schemas : Table Schema}

/-- An id names a type exactly if its schema declares the definition of the type. -/
theorem resolves_iff {id : String} {type : CustomType} :
    Resolves schemas id type ↔ ∃ schema definition, schemas.get? id = some schema ∧
      schema.Defines (Resolves schemas) definition ∧ type = .ofDefinition id definition := by
  constructor
  · intro h
    cases h with
    | @intro _ schema definition names hnames hschema hdefines =>
        exact ⟨schema, definition, hschema,
          Schema.Defines.mono schema (fun id type _ => hnames id type) hdefines, rfl⟩
  · rintro ⟨schema, definition, hschema, hdefines, rfl⟩
    exact .intro (fun _ _ h => h) hschema hdefines

namespace Resolves

variable {id : String} {first second type : CustomType}

/-- An id names at most one type. -/
theorem unique (h : Resolves schemas id first) (h' : Resolves schemas id second) :
    first = second := by
  induction h generalizing second with
  | @intro id schema definition names hnames hschema hdefines ih =>
      obtain ⟨schema', definition', hschema', hdefines', rfl⟩ := resolves_iff.1 h'
      obtain rfl := Option.some.inj (hschema.symm.trans hschema')
      have heq : definition = definition' :=
        Schema.Defines.unique (fun id type _ hfirst hsecond => ih id type hfirst hsecond) schema
          hdefines hdefines'
      rw [heq]

/-- The type that an id names has this id. -/
theorem id_eq (h : Resolves schemas id type) : type.id = id := by
  cases h
  rfl

/-- An id that names a type is declared. -/
theorem declared (h : Resolves schemas id type) : ∃ schema, schemas.get? id = some schema := by
  obtain ⟨schema, -, hschema, -⟩ := resolves_iff.1 h
  exact ⟨schema, hschema⟩

/-- No endless chain of references starts from an id that names a type. -/
theorem acc (h : Resolves schemas id type) :
    Acc (Function.swap (Schema.Follows schemas)) id := by
  induction h with
  | @intro id schema definition names hnames hschema hdefines ih =>
      refine Acc.intro _ fun next hnext => ?_
      obtain ⟨schema', hschema', hreference⟩ := hnext
      obtain rfl := Option.some.inj (hschema.symm.trans hschema')
      obtain ⟨type, htype⟩ := ((Schema.exists_defines_iff schema).1 ⟨_, hdefines⟩).2 next hreference
      exact ih next type htype

end Resolves

/-- What is accessible is not related to itself. -/
theorem not_rel_self_of_acc {α : Type} {relation : α → α → Prop} {value : α}
    (h : Acc relation value) : ¬ relation value value := by
  induction h with
  | intro value _ ih => exact fun hself => ih value hself hself

/-- A type that an id names does not lead back to the id. -/
theorem Resolves.not_cyclic {id : String} {type : CustomType} (h : Resolves schemas id type) :
    ¬ Relation.TransGen (Schema.Follows schemas) id id := fun hcycle =>
  not_rel_self_of_acc h.acc.transGen (Relation.transGen_swap.2 hcycle)

end AppManifest
