import AppManifest.Proofs.Definition.Schema
import AppManifest.Proofs.Description.Schema

/-!
# The normal form of a schema

`Json.normalForm` says what a manifest keeps of a schema that a description gives: the type; titles,
descriptions and hints that are strings; the default; for an object with properties the normal forms
of the properties, the strings among the required names and a boolean word on undeclared properties;
and for an array the normal form of its items. The definition that a schema declares is written as
the normal form of the schema (`Schema.Defines.schema_eq`).
-/

namespace AppManifest

namespace Json

/-- The value under a name, if it is a string. -/
def keptText (members : Entries Json) (name : String) : Option Json :=
  match members.lookup name with
  | some (.string text) => some (.string text)
  | _ => none

/-- The value is a string. -/
def isText : Json → Bool
  | .string _ => true
  | _ => false

/-- The strings among the required names, if there are any. -/
def keptRequired (members : Entries Json) : Option Json :=
  match members.lookup "required" with
  | some (.array items) =>
      if (items.filter isText).isEmpty then none else some (.array (items.filter isText))
  | _ => none

/-- The word on undeclared properties, if it is a boolean. -/
def keptAdditional (members : Entries Json) : Option Json :=
  match members.lookup "additionalProperties" with
  | some (.bool allowed) => some (.bool allowed)
  | _ => none

/-- The schema gives this type. -/
def hasType (members : Entries Json) (type : String) : Bool :=
  match members.lookup "type" with
  | some (.string text) => text == type
  | _ => false

/-- The members that a manifest keeps of a schema, given the normal forms of its properties and of
its items if it has any. -/
def keptMembers (members : Entries Json) (properties? items? : Option Json) : Entries Json :=
  let ifObject (value? : Option Json) : Option Json :=
    if hasType members "object" ∧ properties?.isSome then value? else none
  let ifArray (value? : Option Json) : Option Json :=
    if hasType members "array" then value? else none
  Json.members [("additionalProperties", ifObject (keptAdditional members)),
    ("default", members.lookup "default"), ("description", keptText members "description"),
    ("hint", keptText members "hint"), ("items", ifArray items?),
    ("properties", ifObject properties?), ("required", ifObject (keptRequired members)),
    ("title", keptText members "title"), ("type", members.lookup "type")]

mutual

/-- What a manifest keeps of a schema. -/
def normalForm : Json → Json
  | .object members =>
      .object (keptMembers members (normalProperties? members) (normalItems? members))
  | json => json

/-- The normal forms of the properties, if there are any. -/
def normalProperties? : List (String × Json) → Option Json
  | [] => none
  | (name, value) :: rest =>
      if name = "properties" then some (normalForms value) else normalProperties? rest

/-- The normal form of the items, if there are any. -/
def normalItems? : List (String × Json) → Option Json
  | [] => none
  | (name, value) :: rest => if name = "items" then some (normalForm value) else normalItems? rest

/-- An object with the normal form of each member. -/
def normalForms : Json → Json
  | .object members => .object (normalMembers members)
  | json => json

/-- The normal form of each member. -/
def normalMembers : List (String × Json) → List (String × Json)
  | [] => []
  | (name, value) :: rest => (name, normalForm value) :: normalMembers rest

end

/-- The normal form of each member, one by one. -/
theorem normalMembers_eq (members : Entries Json) :
    normalMembers members = members.mapValues normalForm := by
  induction members with
  | nil => rfl
  | cons entry rest ih => rw [normalMembers, ih]; rfl

/-- The normal forms of the properties are looked up. -/
theorem normalProperties?_eq (members : Entries Json) :
    normalProperties? members = (members.lookup "properties").map normalForms :=
  Entries.scan_eq (by rw [normalProperties?]) (fun _ _ _ => by rw [normalProperties?]) members

/-- The normal form of the items is looked up. -/
theorem normalItems?_eq (members : Entries Json) :
    normalItems? members = (members.lookup "items").map normalForm :=
  Entries.scan_eq (by rw [normalItems?]) (fun _ _ _ => by rw [normalItems?]) members

/-- What is kept of an object depends on what is looked up in it. -/
theorem normalForm_object (members : Entries Json) :
    normalForm (.object members) = .object (keptMembers members
      ((members.lookup "properties").map normalForms)
      ((members.lookup "items").map normalForm)) := by
  rw [normalForm, normalProperties?_eq, normalItems?_eq]

/-- A text is kept as it is read. -/
theorem keptText_eq (members : Entries Json) (name : String) :
    keptText members name = ((members.lookup name).bind asString?).map .string := by
  rw [keptText]
  cases members.lookup name with
  | none => rfl
  | some value => cases value <;> rfl

/-- The strings among values are those that are read. -/
theorem filter_isText (items : List Json) :
    items.filter isText = (items.filterMap asString?).map .string := by
  induction items with
  | nil => rfl
  | cons item rest ih =>
      cases item with
      | string text => exact congrArg (List.cons _) ih
      | null | bool _ | number _ | array _ | object _ => exact ih

/-- The required names are kept as they are read, unless there are none. -/
theorem keptRequired_eq (members : Entries Json) :
    keptRequired members = if (Schema.required members).isEmpty then none
      else some (.ofStrings (Schema.required members)) := by
  rw [keptRequired, Schema.required]
  cases members.lookup "required" with
  | none => rfl
  | some value =>
      cases value with
      | array items =>
          dsimp only
          rw [filter_isText, List.isEmpty_map]
          rfl
      | null | bool _ | number _ | string _ | object _ => rfl

/-- The word on undeclared properties is kept as it is read. -/
theorem keptAdditional_eq (members : Entries Json) :
    keptAdditional members = (Schema.additional members).map .bool := by
  rw [keptAdditional, Schema.additional]
  cases members.lookup "additionalProperties" with
  | none => rfl
  | some value => cases value <;> rfl

/-- A schema gives the type whose name is under `type`. -/
theorem hasType_iff {members : Entries Json} {type : String} :
    hasType members type = true ↔ members.lookup "type" = some (.string type) := by
  rw [hasType]
  cases members.lookup "type" with
  | none => simp
  | some value => cases value <;> simp

end Json

/-- The name of the type that a name stands for is the name. -/
theorem PrimitiveType.name_ofName (name : String) : (ofName name).name = name := by
  unfold ofName
  repeat' split
  all_goals simp_all [PrimitiveType.name]

namespace Schema

variable {names : String → CustomType → Prop}

/-- The definition that a schema declares is written as the normal form of the schema. -/
theorem schema_of_defines (hnames : ∀ {id type}, names id type → type.id = id) {json : Json}
    {definition : Definition} (h : (ofJson json).Defines names definition) :
    definition.schema = json.normalForm := by
  refine definesInduction ?reference ?primitive ?untypedObject ?typedObject ?array h
  case reference =>
    intro members id type htype htype'
    have hid := hnames htype'
    rw [Definition.schema_mk, Json.normalForm_object, Json.keptMembers]
    simp [htype, Json.hasType_iff, Reference.ofType_ne_object, Reference.ofType_ne_array,
      SchemaParts.options, Kind.parts, annotations, text?, Json.keptText_eq, CustomType.reference,
      hid]
  case primitive =>
    intro members type htype _ hobject harray
    rw [Definition.schema_mk, Json.normalForm_object, Json.keptMembers]
    simp [htype, Json.hasType_iff, hobject, harray, SchemaParts.options, Kind.parts, annotations,
      text?, Json.keptText_eq, PrimitiveType.name_ofName]
  case untypedObject =>
    intro members htype hproperties
    rw [Definition.schema_mk, Json.normalForm_object, Json.keptMembers]
    simp [htype, Json.hasType_iff, hproperties, SchemaParts.options, Kind.parts, annotations,
      text?, Json.keptText_eq]
  case typedObject =>
    intro members properties definitions htype hproperties hentries
    have hschemas : Definition.schemas definitions = Json.normalMembers properties := by
      rw [Definition.schemas_eq, Json.normalMembers_eq]
      exact map_eq_of_forall₂ (hentries.imp fun _ _ hentry => Prod.ext hentry.1 hentry.2)
    rw [Definition.schema_mk, Json.normalForm_object, Json.keptMembers]
    simp [htype, Json.hasType_iff, hproperties, SchemaParts.options, Kind.parts, annotations,
      text?, Json.keptText_eq, hschemas, Json.normalForms, Json.keptRequired_eq,
      Json.keptAdditional_eq]
  case array =>
    intro members items inner htype hitems hschema
    rw [Definition.schema_mk, Json.normalForm_object, Json.keptMembers]
    simp [htype, Json.hasType_iff, hitems, SchemaParts.options, Kind.parts, annotations, text?,
      Json.keptText_eq, hschema]

end Schema

end AppManifest
