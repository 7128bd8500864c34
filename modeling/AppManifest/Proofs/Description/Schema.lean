import Mathlib.Logic.Relation
import AppManifest.Proofs.Description.Meaning
import AppManifest.Proofs.Reference

/-!
# Schemas as JSON values

A schema is walked by going to the properties of objects and to the items of arrays
(`Json.Subschema`). What a JSON value declares as a schema is given case by case by `Schema.Reads`;
it has no defect exactly if all walked values are well-formed, and it refers to the types that the
walked values name (`Schema.isSound_ofJson`, `Schema.mem_references_ofJson`). What is to hold of
every declared definition is shown by `Schema.definesInduction`.
-/

namespace AppManifest

namespace Json

/-- One schema stands in another: as a property of an object, or as the items of an array. -/
inductive Subschema : Json → Json → Prop where
  | property {members properties : Entries Json} {name : String} {schema : Json} :
      members.lookup "type" = some (.string "object") →
      members.lookup "properties" = some (.object properties) → (name, schema) ∈ properties →
      Subschema (.object members) schema
  | items {members : Entries Json} {schema : Json} :
      members.lookup "type" = some (.string "array") → members.lookup "items" = some schema →
      Subschema (.object members) schema

/-- Following a schema meets another one: itself, or one that stands in it at any depth. -/
def Walks : Json → Json → Prop :=
  Relation.ReflTransGen Subschema

/-- The value is an object with a string as its type, with an object as its properties if it is an
object that has any, and with items if it is an array. -/
def IsSchema (json : Json) : Prop :=
  ∃ (members : Entries Json) (type : String), json = .object members ∧
    members.lookup "type" = some (.string type) ∧
    (type = "object" → ∀ value, members.lookup "properties" = some value →
      ∃ properties, value = .object properties) ∧
    (type = "array" → ∃ items, members.lookup "items" = some items)

/-- The type of the schema is the reference to the type of an id. -/
def NamesType (json : Json) (id : String) : Prop :=
  ∃ members : Entries Json, json = .object members ∧
    members.lookup "type" = some (.string (Reference.ofType id))

/-- A value is smaller than members under one of whose names it stands. -/
theorem sizeOf_lookup {members : Entries Json} {name : String} {value : Json}
    (h : members.lookup name = some value) : sizeOf value < sizeOf members := by
  have hmem := List.sizeOf_lt_of_mem (Entries.mem_of_lookup h)
  simp only [Prod.mk.sizeOf_spec] at hmem
  omega

/-- A schema is larger than those that stand in it. -/
theorem Subschema.sizeOf_lt {outer inner : Json} (h : outer.Subschema inner) :
    sizeOf inner < sizeOf outer := by
  cases h with
  | @property members properties name _ htype hproperties hmem =>
      have houter := sizeOf_lookup hproperties
      have hinner := List.sizeOf_lt_of_mem hmem
      simp only [Json.object.sizeOf_spec, Prod.mk.sizeOf_spec] at houter hinner ⊢
      omega
  | @items members _ htype hitems =>
      have houter := sizeOf_lookup hitems
      simp only [Json.object.sizeOf_spec]
      omega

/-- What passes from the schemas that stand in a schema to it holds of every schema. -/
theorem subschemaInduction {motive : Json → Prop}
    (step : ∀ outer, (∀ inner, outer.Subschema inner → motive inner) → motive outer)
    (json : Json) : motive json :=
  step json fun inner h => by
    have := h.sizeOf_lt
    exact subschemaInduction step inner
termination_by sizeOf json

/-- Following a schema meets the schema itself and what is met from those that stand in it. -/
theorem walks_iff {first last : Json} :
    first.Walks last ↔ first = last ∨ ∃ next, first.Subschema next ∧ next.Walks last := by
  constructor
  · intro h
    rcases Relation.ReflTransGen.cases_head h with h | ⟨next, hnext, hrest⟩
    · exact .inl h
    · exact .inr ⟨next, hnext, hrest⟩
  · rintro (rfl | ⟨next, hnext, hrest⟩)
    · exact .refl
    · exact .head hnext hrest

end Json

namespace Schema

/-- What a JSON value declares as a schema, case by case. -/
inductive Reads : Json → Schema → Prop where
  | notAnObject {json : Json} :
      (∀ members, json ≠ .object members) → Reads json (.defective .notAnObject)
  | missingType {members : Entries Json} :
      (∀ type, members.lookup "type" ≠ some (.string type)) →
      Reads (.object members) (.defective .missingType)
  | propertiesNotAnObject {members : Entries Json} {value : Json} :
      members.lookup "type" = some (.string "object") →
      members.lookup "properties" = some value → (∀ properties, value ≠ .object properties) →
      Reads (.object members) (.defective .propertiesNotAnObject)
  | missingItems {members : Entries Json} :
      members.lookup "type" = some (.string "array") → members.lookup "items" = none →
      Reads (.object members) (.defective .missingItems)
  | reference {members : Entries Json} {id : String} :
      members.lookup "type" = some (.string (Reference.ofType id)) →
      Reads (.object members) (.reference id (annotations members))
  | primitive {members : Entries Json} {type : String} :
      members.lookup "type" = some (.string type) → Reference.typeId? type = none →
      type ≠ "object" → type ≠ "array" →
      Reads (.object members) (.primitive (.ofName type) (annotations members))
  | untypedObject {members : Entries Json} :
      members.lookup "type" = some (.string "object") → members.lookup "properties" = none →
      Reads (.object members) (.untypedObject (annotations members))
  | typedObject {members properties : Entries Json} :
      members.lookup "type" = some (.string "object") →
      members.lookup "properties" = some (.object properties) →
      Reads (.object members) (.typedObject (properties.mapValues ofJson) (required members)
        (additional members) (annotations members))
  | array {members : Entries Json} {items : Json} :
      members.lookup "type" = some (.string "array") → members.lookup "items" = some items →
      Reads (.object members) (.array (ofJson items) (annotations members))

/-- What named values declare, one by one. -/
theorem ofMembers_eq (members : Entries Json) : ofMembers members = members.mapValues ofJson := by
  induction members with
  | nil => rfl
  | cons entry rest ih => rw [ofMembers, ih]; rfl

/-- What is declared under `properties` is looked up. -/
theorem properties?_eq (members : Entries Json) :
    properties? members = (members.lookup "properties").map ofObject? :=
  Entries.scan_eq (by rw [properties?]) (fun _ _ _ => by rw [properties?]) members

/-- What is declared under `items` is looked up. -/
theorem items?_eq (members : Entries Json) :
    items? members = (members.lookup "items").map ofJson :=
  Entries.scan_eq (by rw [items?]) (fun _ _ _ => by rw [items?]) members

/-- There is a text under a name exactly if a string stands there. -/
theorem text?_eq_some_iff {members : Entries Json} {name text : String} :
    text? members name = some text ↔ members.lookup name = some (.string text) := by
  rw [text?, Option.bind_eq_some_iff]
  constructor
  · rintro ⟨value, hvalue, htext⟩
    cases value <;> cases htext
    exact hvalue
  · intro h
    exact ⟨_, h, rfl⟩

/-- An object of a type declares what its members say of the type. -/
theorem reads_ofType {members : Entries Json} {type : String}
    (htype : members.lookup "type" = some (.string type)) :
    Reads (.object members) (ofType type members ((members.lookup "properties").map ofObject?)
      ((members.lookup "items").map ofJson)) := by
  unfold ofType
  cases hreference : Reference.typeId? type with
  | some id =>
      rw [Reference.typeId?_eq_some_iff.1 hreference] at htype
      exact .reference htype
  | none =>
      dsimp only
      split
      next hobject =>
        subst hobject
        cases hproperties : members.lookup "properties" with
        | none => exact .untypedObject htype hproperties
        | some value =>
            match value, hproperties with
            | .object properties, hproperties =>
                show Reads _ (.typedObject (ofMembers properties) _ _ _)
                rw [ofMembers_eq]
                exact .typedObject htype hproperties
            | .null, h | .bool _, h | .number _, h | .string _, h | .array _, h =>
                exact .propertiesNotAnObject htype h fun _ heq => by cases heq
      next hobject =>
        split
        next harray =>
          subst harray
          cases hitems : members.lookup "items" with
          | none => exact .missingItems htype hitems
          | some items => exact .array htype hitems
        next harray => exact .primitive htype hreference hobject harray

/-- A value declares, as a schema, what the cases say. -/
theorem reads_ofJson (json : Json) : Reads json (ofJson json) := by
  match json with
  | .object members =>
      rw [ofJson, properties?_eq, items?_eq]
      cases htype : text? members "type" with
      | none =>
          refine .missingType fun type h => ?_
          cases htype.symm.trans (text?_eq_some_iff.2 h)
      | some type => exact reads_ofType (text?_eq_some_iff.1 htype)
  | .null | .bool _ | .number _ | .string _ | .array _ =>
      exact .notAnObject fun _ heq => by cases heq

end Schema

namespace Json

/-- Whether an object of a type is a schema depends on its properties or its items. -/
theorem isSchema_object {members : Entries Json} {type : String}
    (htype : members.lookup "type" = some (.string type)) :
    (Json.object members).IsSchema ↔
      (type = "object" → ∀ value, members.lookup "properties" = some value →
        ∃ properties, value = .object properties) ∧
      (type = "array" → ∃ items, members.lookup "items" = some items) := by
  constructor
  · rintro ⟨_, type', hmembers, htype', hschema⟩
    cases hmembers
    cases htype.symm.trans htype'
    exact hschema
  · intro h
    exact ⟨members, type, rfl, htype, h⟩

/-- The schemas that stand in an object of a type are those of its properties or its items. -/
theorem subschema_object {members : Entries Json} {type : String} {inner : Json}
    (htype : members.lookup "type" = some (.string type)) :
    (Json.object members).Subschema inner ↔
      (type = "object" ∧ ∃ properties name,
        members.lookup "properties" = some (.object properties) ∧ (name, inner) ∈ properties) ∨
      (type = "array" ∧ members.lookup "items" = some inner) := by
  constructor
  · intro h
    cases h with
    | property htype' hproperties hmem =>
        cases htype.symm.trans htype'
        exact .inl ⟨rfl, _, _, hproperties, hmem⟩
    | items htype' hitems =>
        cases htype.symm.trans htype'
        exact .inr ⟨rfl, hitems⟩
  · rintro (⟨rfl, properties, name, hproperties, hmem⟩ | ⟨rfl, hitems⟩)
    · exact .property htype hproperties hmem
    · exact .items htype hitems

/-- An object of a type names the type of an id exactly if its type is the reference to it. -/
theorem namesType_object {members : Entries Json} {type id : String}
    (htype : members.lookup "type" = some (.string type)) :
    (Json.object members).NamesType id ↔ type = Reference.ofType id := by
  constructor
  · rintro ⟨_, hmembers, htype'⟩
    cases hmembers
    cases htype.symm.trans htype'
    rfl
  · rintro rfl
    exact ⟨members, rfl, htype⟩

end Json

namespace Schema

/-- Named values declare schemas without defects exactly if each of them does. -/
theorem areSound_mapValues {members : Entries Json} :
    areSound (members.mapValues ofJson) = true ↔
      ∀ name value, (name, value) ∈ members → (ofJson value).isSound = true := by
  induction members with
  | nil =>
      constructor
      · intro _ _ _ h
        cases h
      · intro _
        rfl
  | cons entry rest ih =>
      show ((ofJson entry.2).isSound && areSound (Entries.mapValues ofJson rest)) = true ↔ _
      rw [Bool.and_eq_true, ih]
      constructor
      · rintro ⟨hentry, hrest⟩ name value hmem
        rcases List.mem_cons.1 hmem with rfl | hmem
        · exact hentry
        · exact hrest name value hmem
      · intro h
        exact ⟨h entry.1 entry.2 List.mem_cons_self, fun name value hmem =>
          h name value (List.mem_cons_of_mem _ hmem)⟩

/-- Named values refer to the types to which they refer one by one. -/
theorem mem_propertyReferences_mapValues {members : Entries Json} {id : String} :
    id ∈ propertyReferences (members.mapValues ofJson) ↔
      ∃ name value, (name, value) ∈ members ∧ id ∈ (ofJson value).references := by
  induction members with
  | nil =>
      constructor
      · intro h
        cases h
      · rintro ⟨_, _, h, -⟩
        cases h
  | cons entry rest ih =>
      show id ∈ (ofJson entry.2).references ++
        propertyReferences (Entries.mapValues ofJson rest) ↔ _
      rw [List.mem_append, ih]
      constructor
      · rintro (hentry | ⟨name, value, hmem, hid⟩)
        · exact ⟨entry.1, entry.2, List.mem_cons_self, hentry⟩
        · exact ⟨name, value, List.mem_cons_of_mem _ hmem, hid⟩
      · rintro ⟨name, value, hmem, hid⟩
        rcases List.mem_cons.1 hmem with rfl | hmem
        · exact .inl hid
        · exact .inr ⟨name, value, hmem, hid⟩

/-- A value declares a schema without defects exactly if it is a schema and all that stand in it
declare schemas without defects. -/
theorem isSound_ofJson_step (json : Json) :
    (ofJson json).isSound = true ↔
      json.IsSchema ∧ ∀ inner, json.Subschema inner → (ofJson inner).isSound = true := by
  have hreads := reads_ofJson json
  generalize ofJson json = schema at hreads
  cases hreads with
  | notAnObject hjson =>
      constructor
      · intro h
        cases h
      · rintro ⟨⟨members, _, rfl, -⟩, -⟩
        exact (hjson members rfl).elim
  | missingType htype =>
      constructor
      · intro h
        cases h
      · rintro ⟨⟨_, type, hmembers, htype', -⟩, -⟩
        cases hmembers
        exact (htype type htype').elim
  | propertiesNotAnObject htype hproperties hvalue =>
      rw [Json.isSchema_object htype]
      constructor
      · intro h
        cases h
      · rintro ⟨⟨hobject, -⟩, -⟩
        obtain ⟨properties, rfl⟩ := hobject rfl _ hproperties
        exact (hvalue properties rfl).elim
  | missingItems htype hitems =>
      rw [Json.isSchema_object htype]
      constructor
      · intro h
        cases h
      · rintro ⟨⟨-, harray⟩, -⟩
        obtain ⟨items, h⟩ := harray rfl
        cases hitems.symm.trans h
  | reference htype =>
      simp [Json.isSchema_object htype, Json.subschema_object htype, isSound,
        Reference.ofType_ne_object, Reference.ofType_ne_array]
  | primitive htype hreference hobject harray =>
      simp [Json.isSchema_object htype, Json.subschema_object htype, isSound, hobject, harray]
  | untypedObject htype hproperties =>
      simp [Json.isSchema_object htype, Json.subschema_object htype, isSound, hproperties]
  | @typedObject members properties htype hproperties =>
      rw [isSound, areSound_mapValues]
      simpa [Json.isSchema_object htype, Json.subschema_object htype, hproperties]
        using ⟨fun h inner name => h name inner, fun h name inner => h inner name⟩
  | array htype hitems =>
      simp [Json.isSchema_object htype, Json.subschema_object htype, isSound, hitems]

/-- A value refers to the types that it names and to those to which the schemas that stand in it
refer. -/
theorem mem_references_ofJson_step {json : Json} {id : String} :
    id ∈ (ofJson json).references ↔
      json.NamesType id ∨ ∃ inner, json.Subschema inner ∧ id ∈ (ofJson inner).references := by
  have hreads := reads_ofJson json
  generalize ofJson json = schema at hreads
  cases hreads with
  | notAnObject hjson =>
      constructor
      · intro h
        cases h
      · rintro (⟨members, rfl, -⟩ | ⟨_, hinner, -⟩)
        · exact (hjson members rfl).elim
        · cases hinner <;> exact (hjson _ rfl).elim
  | missingType htype =>
      constructor
      · intro h
        cases h
      · rintro (⟨_, hmembers, htype'⟩ | ⟨_, hinner, -⟩)
        · cases hmembers
          exact (htype _ htype').elim
        · cases hinner <;> exact (htype _ ‹_›).elim
  | @propertiesNotAnObject members value htype hproperties hvalue =>
      -- properties that are not an object are not walked, so nothing stands in the value
      constructor
      · intro h
        cases h
      · rintro (hnames | ⟨inner, hinner, -⟩)
        · exact (Reference.ofType_ne_object id ((Json.namesType_object htype).1 hnames).symm).elim
        · have hnone : ¬ (Json.object members).Subschema inner := by
            simp [Json.subschema_object htype, hproperties, hvalue]
          exact (hnone hinner).elim
  | missingItems htype hitems =>
      simp [Json.namesType_object htype, Json.subschema_object htype, references, hitems,
        (Reference.ofType_ne_array id).symm]
  | @reference members other htype =>
      have hnone (inner : Json) : ¬ (Json.object members).Subschema inner := by
        simp [Json.subschema_object htype, Reference.ofType_ne_object, Reference.ofType_ne_array]
      simp [Json.namesType_object htype, hnone, references, Reference.ofType_injective.eq_iff,
        eq_comm]
  | primitive htype hreference hobject harray =>
      have hnames : ¬ (Json.object _).NamesType id := fun h => by
        have heq := (Json.namesType_object htype).1 h
        cases hreference.symm.trans (Reference.typeId?_eq_some_iff.2 heq)
      simp [hnames, Json.subschema_object htype, references, hobject, harray]
  | untypedObject htype hproperties =>
      simp [Json.namesType_object htype, Json.subschema_object htype, references, hproperties,
        (Reference.ofType_ne_object id).symm]
  | @typedObject members properties htype hproperties =>
      have hinner (inner : Json) :
          (Json.object members).Subschema inner ↔ ∃ name, (name, inner) ∈ properties := by
        simp [Json.subschema_object htype, hproperties]
      rw [references, mem_propertyReferences_mapValues, Json.namesType_object htype,
        or_iff_right (Reference.ofType_ne_object id).symm]
      simp only [hinner]
      constructor
      · rintro ⟨name, inner, hmem, hid⟩
        exact ⟨inner, ⟨name, hmem⟩, hid⟩
      · rintro ⟨inner, ⟨name, hmem⟩, hid⟩
        exact ⟨name, inner, hmem, hid⟩
  | array htype hitems =>
      simp [Json.namesType_object htype, Json.subschema_object htype, references, hitems,
        (Reference.ofType_ne_array id).symm]

/-- A value declares a schema without defects exactly if everything that is met when it is followed
is a schema. -/
theorem isSound_ofJson {json : Json} :
    (ofJson json).isSound = true ↔ ∀ schema, json.Walks schema → schema.IsSchema := by
  induction json using Json.subschemaInduction with
  | step outer ih =>
      rw [isSound_ofJson_step]
      constructor
      · rintro ⟨hschema, hinner⟩ schema hwalks
        rcases Json.walks_iff.1 hwalks with rfl | ⟨inner, hstep, hrest⟩
        · exact hschema
        · exact (ih inner hstep).1 (hinner inner hstep) schema hrest
      · intro h
        exact ⟨h outer .refl, fun inner hstep => (ih inner hstep).2 fun schema hrest =>
          h schema (.head hstep hrest)⟩

/-- A value refers to the types that are named by what is met when it is followed. -/
theorem mem_references_ofJson {json : Json} {id : String} :
    id ∈ (ofJson json).references ↔ ∃ schema, json.Walks schema ∧ schema.NamesType id := by
  induction json using Json.subschemaInduction with
  | step outer ih =>
      rw [mem_references_ofJson_step]
      constructor
      · rintro (hnames | ⟨inner, hstep, hid⟩)
        · exact ⟨outer, .refl, hnames⟩
        · obtain ⟨schema, hrest, hnames⟩ := (ih inner hstep).1 hid
          exact ⟨schema, .head hstep hrest, hnames⟩
      · rintro ⟨schema, hwalks, hnames⟩
        rcases Json.walks_iff.1 hwalks with rfl | ⟨inner, hstep, hrest⟩
        · exact .inl hnames
        · exact .inr ⟨inner, hstep, (ih inner hstep).2 ⟨schema, hrest, hnames⟩⟩

variable {names : String → CustomType → Prop}

/-- The definitions that named values declare have the names of the values, one by one. -/
theorem forall₂_of_definesAll {members : Entries Json} {definitions : List (String × Definition)}
    (h : DefinesAll names (members.mapValues ofJson) definitions) :
    List.Forall₂ (fun entry definition => definition.1 = entry.1 ∧
      (ofJson entry.2).Defines names definition.2) members definitions := by
  induction members generalizing definitions with
  | nil =>
      obtain rfl := h
      exact .nil
  | cons entry rest ih =>
      obtain ⟨definition, others, hhead, hrest, rfl⟩ := h
      exact .cons ⟨rfl, hhead⟩ (ih hrest)

/-- What holds of all schemas without parts and the definitions that they declare, and passes from
properties and items to the schemas in which they stand, holds of every schema and the definition
that it declares. -/
@[elab_as_elim]
theorem definesInduction {motive : Json → Definition → Prop}
    (reference : ∀ {members : Entries Json} {id : String} {type : CustomType},
      members.lookup "type" = some (.string (Reference.ofType id)) → names id type →
      motive (.object members) ⟨.custom type, annotations members⟩)
    (primitive : ∀ {members : Entries Json} {type : String},
      members.lookup "type" = some (.string type) → Reference.typeId? type = none →
      type ≠ "object" → type ≠ "array" →
      motive (.object members) ⟨.primitive (.ofName type), annotations members⟩)
    (untypedObject : ∀ {members : Entries Json},
      members.lookup "type" = some (.string "object") → members.lookup "properties" = none →
      motive (.object members) ⟨.untypedObject, annotations members⟩)
    (typedObject : ∀ {members properties : Entries Json}
      {definitions : List (String × Definition)},
      members.lookup "type" = some (.string "object") →
      members.lookup "properties" = some (.object properties) →
      List.Forall₂ (fun entry definition => definition.1 = entry.1 ∧ motive entry.2 definition.2)
        properties definitions →
      motive (.object members)
        ⟨.typedObject definitions (required members) (additional members), annotations members⟩)
    (array : ∀ {members : Entries Json} {items : Json} {inner : Definition},
      members.lookup "type" = some (.string "array") → members.lookup "items" = some items →
      motive items inner → motive (.object members) ⟨.array inner, annotations members⟩)
    {json : Json} {definition : Definition} (h : (ofJson json).Defines names definition) :
    motive json definition := by
  induction json using Json.subschemaInduction generalizing definition with
  | step outer ih =>
      -- the cases are those of what the value declares, not of its constructors
      have hreads := reads_ofJson outer
      generalize ofJson outer = schema at hreads h
      cases hreads with
      | notAnObject | missingType | propertiesNotAnObject | missingItems => exact h.elim
      | reference htype =>
          obtain ⟨type, hnames, rfl⟩ := h
          exact reference htype hnames
      | primitive htype hreference hobject harray =>
          obtain rfl := h
          exact primitive htype hreference hobject harray
      | untypedObject htype hproperties =>
          obtain rfl := h
          exact untypedObject htype hproperties
      | typedObject htype hproperties =>
          obtain ⟨definitions, hdefinitions, rfl⟩ := h
          have hentries := (List.forall₂_and_left _ _).2
            ⟨fun entry hentry => hentry, forall₂_of_definesAll hdefinitions⟩
          refine typedObject htype hproperties (hentries.imp fun entry definition hentry => ?_)
          obtain ⟨hmem, hname, hdefines⟩ := hentry
          exact ⟨hname, ih entry.2 (.property htype hproperties hmem) hdefines⟩
      | array htype hitems =>
          obtain ⟨inner, hinner, rfl⟩ := h
          exact array htype hitems (ih _ (.items htype hitems) hinner)

end Schema

end AppManifest
