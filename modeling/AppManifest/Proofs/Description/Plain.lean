import AppManifest.Proofs.Description.Meaning
import AppManifest.Proofs.Result

/-!
# Resolving without keeping types

`expandType` resolves an id by expanding its schema each time that it is met. It remembers nothing
but the path of types inside which it is: an id on the path leads back to itself. It gives a type
exactly if the id names it (`expandType_sound`, `expandType_complete`), and it says which error
comes first if there is none.
-/

namespace AppManifest

namespace Schema

mutual

/-- The definition that a schema of an owner declares for the parameter of a name, given the type of
each id. -/
def expand (typeOf : String → Except DescriptionError CustomType) (owner name : String) :
    Schema → Except DescriptionError Definition
  | .defective defect => .error (.invalidParameter owner name defect.message)
  | .reference id notes => do
      let type ← typeOf id
      return ⟨.custom type, notes⟩
  | .primitive type notes => return ⟨.primitive type, notes⟩
  | .untypedObject notes => return ⟨.untypedObject, notes⟩
  | .typedObject properties required additional notes => do
      let definitions ← expandAll typeOf owner properties
      return ⟨.typedObject definitions required additional, notes⟩
  | .array items notes => do
      let inner ← expand typeOf owner name items
      return ⟨.array inner, notes⟩

/-- The definitions that named schemas of an owner declare, in order, given the type of each id. -/
def expandAll (typeOf : String → Except DescriptionError CustomType) (owner : String) :
    List (String × Schema) → Except DescriptionError (List (String × Definition))
  | [] => return []
  | (name, schema) :: rest => do
      let definition ← expand typeOf owner name schema
      let definitions ← expandAll typeOf owner rest
      return (name, definition) :: definitions

end

end Schema

/-- The declared types that are not on a path. -/
def offPath (schemas : Table Schema) (path : List String) : List String :=
  schemas.names.filter fun name => name ∉ path

/-- Entering a declared type leaves fewer types off the path. -/
theorem length_offPath_lt {schemas : Table Schema} {path : List String} {id : String}
    {schema : Schema} (hschema : schemas.get? id = some schema) (hpath : id ∉ path) :
    (offPath schemas (id :: path)).length < (offPath schemas path).length := by
  have hfilter : offPath schemas (id :: path) =
      (offPath schemas path).filter fun name => name ≠ id := by
    simp only [offPath, List.filter_filter, List.mem_cons, not_or, Bool.decide_and]
  rw [hfilter]
  refine List.length_filter_lt_length_iff_exists.2 ⟨id, ?_, by simp⟩
  exact List.mem_filter.2 ⟨Table.mem_names_of_get? hschema, decide_eq_true hpath⟩

/-- The type of an id to which an owner refers inside the types of a path, expanded from its
schema. -/
def expandType (schemas : Table Schema) (path : List String) (owner id : String) :
    Except DescriptionError CustomType :=
  if _ : id ∈ path then .error (.cyclicType id)
  else
    match _ : schemas.get? id with
    | none => .error (.unknownType owner (Reference.ofType id))
    | some schema => do
        let definition ← schema.expand (fun next => expandType schemas (id :: path) id next) id id
        return .ofDefinition id definition
termination_by (offPath schemas path).length
decreasing_by exact length_offPath_lt ‹_› ‹_›

/-- The definitions that named JSON values declare as schemas of an owner. -/
def expandTable (schemas : Table Schema) (owner : String) (values : Table Json) :
    Except DescriptionError (Table Definition) := do
  let definitions ← Schema.expandAll (expandType schemas [] owner) owner
    (values.map Schema.ofJson).entries
  return .ofList definitions

namespace Schema

variable {typeOf : String → Except DescriptionError CustomType}

mutual

/-- Expanding a schema gives exactly the definition that it declares. -/
theorem expand_eq_ok_iff (owner name : String) :
    (schema : Schema) → {definition : Definition} →
      (schema.expand typeOf owner name = .ok definition ↔
        schema.Defines (fun id type => typeOf id = .ok type) definition)
  | .defective _, _ => ⟨fun h => (by cases h), False.elim⟩
  | .reference _ _, _ => bind_pure_eq_ok_iff
  | .primitive _ _, _ | .untypedObject _, _ => pure_eq_ok_iff
  | .typedObject properties _ _ _, _ =>
      bind_pure_eq_ok_iff.trans
        (exists_congr fun _ => and_congr_left' (expandAll_eq_ok_iff owner properties))
  | .array items _, _ =>
      bind_pure_eq_ok_iff.trans
        (exists_congr fun _ => and_congr_left' (expand_eq_ok_iff owner name items))

/-- Expanding named schemas gives exactly the definitions that they declare. -/
theorem expandAll_eq_ok_iff (owner : String) :
    (properties : List (String × Schema)) → {definitions : List (String × Definition)} →
      (expandAll typeOf owner properties = .ok definitions ↔
        DefinesAll (fun id type => typeOf id = .ok type) properties definitions)
  | [], _ => pure_eq_ok_iff
  | (name, schema) :: rest, _ => by
      rw [expandAll, DefinesAll, bind_eq_ok_iff]
      simp only [bind_pure_eq_ok_iff, expand_eq_ok_iff owner name schema,
        expandAll_eq_ok_iff owner rest]
      constructor
      · rintro ⟨definition, hdefinition, others, hothers, heq⟩
        exact ⟨definition, others, hdefinition, hothers, heq⟩
      · rintro ⟨definition, others, hdefinition, hothers, heq⟩
        exact ⟨definition, hdefinition, others, hothers, heq⟩

end

end Schema

variable {schemas : Table Schema} {path : List String} {owner id : String} {type : CustomType}

/-- An id on the path leads back to itself. -/
theorem expandType_of_mem (hpath : id ∈ path) :
    expandType schemas path owner id = .error (.cyclicType id) := by
  rw [expandType, dif_pos hpath]

/-- An id that is not declared is unknown. -/
theorem expandType_of_none (hpath : id ∉ path) (hschema : schemas.get? id = none) :
    expandType schemas path owner id = .error (.unknownType owner (Reference.ofType id)) := by
  rw [expandType, dif_neg hpath]
  split
  · rfl
  next hsome => cases hschema.symm.trans hsome

/-- A declared id off the path is expanded from its schema. -/
theorem expandType_of_some (hpath : id ∉ path) {schema : Schema}
    (hschema : schemas.get? id = some schema) :
    expandType schemas path owner id =
      (schema.expand (expandType schemas (id :: path) id) id id).map (.ofDefinition id) := by
  rw [expandType, dif_neg hpath]
  split
  next hnone => cases hschema.symm.trans hnone
  next hsome =>
    cases hschema.symm.trans hsome
    rfl

/-- What expanding gives for an id is the type that the id names. -/
theorem expandType_sound (h : expandType schemas path owner id = .ok type) :
    Resolves schemas id type := by
  induction path, owner, id using expandType.induct schemas generalizing type with
  | case1 path owner id hpath =>
      rw [expandType_of_mem hpath] at h
      cases h
  | case2 path owner id hpath hschema =>
      rw [expandType_of_none hpath hschema] at h
      cases h
  | case3 path owner id hpath schema hschema ih =>
      rw [expandType_of_some hpath hschema] at h
      obtain ⟨definition, hdefinition, rfl⟩ := bind_pure_eq_ok_iff.1 h
      exact .intro (fun _ _ => ih _) hschema ((Schema.expand_eq_ok_iff id id schema).1 hdefinition)

/-- Expanding an id that names a type gives the type, if the types of the path lead to the id. -/
theorem expandType_complete (h : Resolves schemas id type)
    (hchain : ∀ outer ∈ path, Relation.TransGen (Schema.Follows schemas) outer id) :
    expandType schemas path owner id = .ok type := by
  induction h generalizing path owner with
  | @intro id schema definition names hnames hschema hdefines ih =>
      have hresolves := Resolves.intro hnames hschema hdefines
      have hpath : id ∉ path := fun hmem => hresolves.not_cyclic (hchain id hmem)
      have hexpand : schema.expand (expandType schemas (id :: path) id) id id = .ok definition := by
        refine (Schema.expand_eq_ok_iff id id schema).2
          (Schema.Defines.mono schema (fun next type hnext hnamed => ?_) hdefines)
        have hstep : Schema.Follows schemas id next := ⟨schema, hschema, hnext⟩
        refine ih next type hnamed fun outer houter => ?_
        rcases List.mem_cons.1 houter with rfl | houter
        · exact .single hstep
        · exact .tail (hchain outer houter) hstep
      rw [expandType_of_some hpath hschema, hexpand]
      rfl

/-- Expanding an id inside no type gives exactly the type that the id names. -/
theorem expandType_eq_ok_iff :
    expandType schemas [] owner id = .ok type ↔ Resolves schemas id type :=
  ⟨expandType_sound, fun h => expandType_complete h fun _ houter => by cases houter⟩

/-- Expanding named JSON values gives exactly the table of the definitions that they declare. -/
theorem expandTable_eq_ok_iff {values : Table Json} {table : Table Definition} :
    expandTable schemas owner values = .ok table ↔ DefinesTable schemas values table := by
  have hnames : (fun id type => expandType schemas [] owner id = .ok type) = Resolves schemas :=
    funext fun id => funext fun type => propext expandType_eq_ok_iff
  rw [expandTable, bind_pure_eq_ok_iff]
  simp only [Schema.expandAll_eq_ok_iff, hnames]
  constructor
  · rintro ⟨definitions, hdefinitions, rfl⟩
    have hascending : Entries.Ascending definitions :=
      (values.map Schema.ofJson).ascending.of_names hdefinitions.names_eq
    rwa [DefinesTable, Table.entries_ofList hascending]
  · intro htable
    exact ⟨table.entries, htable, Table.ext_entries (Table.entries_ofList table.ascending).symm⟩

end AppManifest
