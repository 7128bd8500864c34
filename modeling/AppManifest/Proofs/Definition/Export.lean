import AppManifest.Proofs.Definition.Nesting
import AppManifest.Proofs.Description.NormalForm
import AppManifest.Proofs.Json.Reading

/-!
# Reading exported definitions

The schema that a manifest writes for a definition is in normal form
(`Definition.normalForm_schema`) and, unless the definition has a primitive type that is named like
an array or a reference, declares what the definition says, with a reference in the place of each
custom type (`Definition.ofJson_schema`).
-/

namespace AppManifest

/-- The type is not one of the platform's that is named like an array or like a reference to a
type. -/
def PrimitiveType.Plain (type : PrimitiveType) : Prop :=
  ∀ name, type = .platform name → name ≠ "array" ∧ ∀ id, name ≠ Reference.ofType id

/-- The default, if there is one, lists names in ascending order. -/
def Annotations.Ordered (notes : Annotations) : Prop :=
  ∀ default, notes.default = some default → default.Ordered

mutual

/-- No primitive type in the kind is named like an array or like a reference to a type. -/
def Kind.Plain : Kind → Prop
  | .primitive type => type.Plain
  | .untypedObject | .custom _ => True
  | .typedObject properties _ _ => Definition.ArePlain properties
  | .array items => items.Plain

/-- No primitive type in the definition is named like an array or like a reference to a type. -/
def Definition.Plain : Definition → Prop
  | ⟨kind, _⟩ => kind.Plain

/-- No primitive type in the definitions is named like an array or like a reference to a type. -/
def Definition.ArePlain : List (String × Definition) → Prop
  | [] => True
  | (_, definition) :: rest => definition.Plain ∧ Definition.ArePlain rest

end

mutual

/-- Properties in the kind are listed in ascending order, and so are names in defaults. -/
def Kind.Ordered : Kind → Prop
  | .primitive _ | .untypedObject | .custom _ => True
  | .typedObject properties _ _ => Entries.Ascending properties ∧ Definition.AreOrdered properties
  | .array items => items.Ordered

/-- Properties in the definition are listed in ascending order, and so are names in defaults. -/
def Definition.Ordered : Definition → Prop
  | ⟨kind, notes⟩ => kind.Ordered ∧ notes.Ordered

/-- Properties in the definitions are listed in ascending order, and so are names in defaults. -/
def Definition.AreOrdered : List (String × Definition) → Prop
  | [] => True
  | (_, definition) :: rest => definition.Ordered ∧ Definition.AreOrdered rest

end

mutual

/-- What the schema of a kind declares. -/
def Kind.asSchema (notes : Annotations) : Kind → Schema
  | .primitive type =>
      if type.name = "object" then .untypedObject notes else .primitive (.ofName type.name) notes
  | .untypedObject => .untypedObject notes
  | .typedObject properties required additional =>
      .typedObject (Definition.asSchemas properties) required additional notes
  | .array items => .array items.asSchema notes
  | .custom type => .reference type.id notes

/-- What the schema of a definition declares. -/
def Definition.asSchema : Definition → Schema
  | ⟨kind, notes⟩ => kind.asSchema notes

/-- What the schemas of named definitions declare. -/
def Definition.asSchemas : List (String × Definition) → List (String × Schema)
  | [] => []
  | (name, definition) :: rest => (name, definition.asSchema) :: Definition.asSchemas rest

end

namespace SchemaParts

variable (parts : SchemaParts) (notes : Annotations)

/-- The type of a schema is found. -/
theorem lookup_type : (parts.members notes).lookup "type" = some (.string parts.type) := by
  simp [lookup_members, options, Entries.lookup_cons]

/-- The properties of a schema are found. -/
theorem lookup_properties : (parts.members notes).lookup "properties" = parts.properties := by
  simp [lookup_members, options, Entries.lookup_cons]

/-- The items of a schema are found. -/
theorem lookup_items : (parts.members notes).lookup "items" = parts.items := by
  simp [lookup_members, options, Entries.lookup_cons]

/-- The required names of a schema are found. -/
theorem lookup_required : (parts.members notes).lookup "required" = parts.required := by
  simp [lookup_members, options, Entries.lookup_cons]

/-- The word of a schema on undeclared properties is found. -/
theorem lookup_additional :
    (parts.members notes).lookup "additionalProperties" = parts.additionalProperties := by
  simp [lookup_members, options]

/-- The annotations of a schema are read as they are. -/
theorem annotations_members : Schema.annotations (parts.members notes) = notes := by
  obtain ⟨title, description, hint, default⟩ := notes
  simp [Schema.annotations, Schema.text?, lookup_members, options, Entries.lookup_cons,
    Option.bind_map, Function.comp_def, Json.asString?]

/-- What is declared by the schema of parts depends on its type, its properties and its items. -/
theorem ofJson_members : Schema.ofJson (.object (parts.members notes)) =
    Schema.ofType parts.type (parts.members notes) (parts.properties.map Schema.ofObject?)
      (parts.items.map Schema.ofJson) := by
  have htype := Schema.text?_eq_some_iff.2 (parts.lookup_type notes)
  rw [Schema.ofJson, htype, Schema.properties?_eq, Schema.items?_eq, lookup_properties,
    lookup_items]

end SchemaParts

namespace Schema

variable {members : Entries Json} {properties? : Option (Option (List (String × Schema)))}
  {items? : Option Schema}

/-- The schema of a reference. -/
theorem ofType_reference (id : String) :
    ofType (Reference.ofType id) members properties? items? =
      .reference id (annotations members) := by
  unfold ofType
  rw [Reference.typeId?_eq_some_iff.2 rfl]

/-- The schema of an object without properties. -/
theorem ofType_untypedObject :
    ofType "object" members none items? = .untypedObject (annotations members) := by
  unfold ofType
  rw [Reference.typeId?_object]
  rfl

/-- The schema of an object with properties. -/
theorem ofType_typedObject (properties : List (String × Schema)) :
    ofType "object" members (some (some properties)) items? =
      .typedObject properties (required members) (additional members) (annotations members) := by
  unfold ofType
  rw [Reference.typeId?_object]
  rfl

/-- The schema of an array. -/
theorem ofType_array (items : Schema) :
    ofType "array" members properties? (some items) = .array items (annotations members) := by
  unfold ofType
  rw [Reference.typeId?_array]
  rfl

/-- The schema of a primitive type. -/
theorem ofType_primitive {type : String} (hreference : Reference.typeId? type = none)
    (hobject : type ≠ "object") (harray : type ≠ "array") :
    ofType type members properties? items? = .primitive (.ofName type) (annotations members) := by
  unfold ofType
  simp [hreference, hobject, harray]

end Schema

/-- A plain primitive type is not named like an array or a reference. -/
theorem PrimitiveType.Plain.name_ne {type : PrimitiveType} (h : type.Plain) :
    type.name ≠ "array" ∧ Reference.typeId? type.name = none := by
  cases type with
  | platform name =>
      obtain ⟨harray, hreference⟩ := h name rfl
      refine ⟨harray, Option.eq_none_iff_forall_ne_some.2 fun id hid => ?_⟩
      exact hreference id (Reference.typeId?_eq_some_iff.1 hid)
  | string | number | integer | boolean => decide

/-- The required names of a typed object are read as they are. -/
theorem Schema.required_members (properties : List (String × Definition)) (required : List String)
    (additional : Option Bool) (notes : Annotations) :
    Schema.required ((Kind.typedObject properties required additional).parts.members notes) =
      required := by
  rw [Schema.required, SchemaParts.lookup_required, Kind.parts]
  cases required with
  | nil => rfl
  | cons name rest => simp [Json.ofStrings, Json.asArray?, List.filterMap_map, Json.asString?,
      Function.comp_def]

/-- The word of a typed object on undeclared properties is read as it is. -/
theorem Schema.additional_members (properties : List (String × Definition))
    (required : List String) (additional : Option Bool) (notes : Annotations) :
    Schema.additional ((Kind.typedObject properties required additional).parts.members notes) =
      additional := by
  rw [Schema.additional, SchemaParts.lookup_additional, Kind.parts]
  cases additional <;> rfl

mutual

/-- The schema of a kind declares what the kind says. -/
theorem Kind.ofJson_members (notes : Annotations) :
    (kind : Kind) → kind.Plain →
      Schema.ofJson (.object (kind.parts.members notes)) = kind.asSchema notes
  | .primitive type, h => by
      obtain ⟨harray, hreference⟩ := PrimitiveType.Plain.name_ne h
      rw [SchemaParts.ofJson_members, Kind.asSchema]
      -- a primitive type of that name is read as an object without properties
      by_cases hobject : type.name = "object"
      · simp only [Kind.parts, Option.map_none, hobject, if_true]
        rw [Schema.ofType_untypedObject, SchemaParts.annotations_members]
      · rw [if_neg hobject]
        simp only [Kind.parts]
        rw [Schema.ofType_primitive hreference hobject harray, SchemaParts.annotations_members]
  | .untypedObject, _ => by
      rw [SchemaParts.ofJson_members]
      simp only [Kind.parts, Option.map_none]
      rw [Schema.ofType_untypedObject, SchemaParts.annotations_members, Kind.asSchema]
  | .typedObject properties required additional, h => by
      have hproperties : (Kind.typedObject properties required additional).parts.properties =
          some (.object (Definition.schemas properties)) := rfl
      have htype : (Kind.typedObject properties required additional).parts.type = "object" := rfl
      rw [SchemaParts.ofJson_members, hproperties, htype, Option.map_some, Schema.ofObject?,
        Schema.ofType_typedObject, Definition.ofMembers_schemas properties h,
        Schema.required_members, Schema.additional_members, SchemaParts.annotations_members,
        Kind.asSchema]
  | .array items, h => by
      rw [SchemaParts.ofJson_members]
      simp only [Kind.parts, Option.map_some]
      rw [Schema.ofType_array, SchemaParts.annotations_members, Kind.asSchema,
        Definition.ofJson_schema items h]
  | .custom type, _ => by
      rw [SchemaParts.ofJson_members]
      simp only [Kind.parts]
      rw [CustomType.reference, Schema.ofType_reference, SchemaParts.annotations_members,
        Kind.asSchema]

/-- The schema of a definition declares what the definition says. -/
theorem Definition.ofJson_schema :
    (definition : Definition) → definition.Plain →
      Schema.ofJson definition.schema = definition.asSchema
  | ⟨kind, notes⟩, h => Kind.ofJson_members notes kind h

/-- The schemas of named definitions declare what the definitions say. -/
theorem Definition.ofMembers_schemas :
    (properties : List (String × Definition)) → Definition.ArePlain properties →
      Schema.ofMembers (Definition.schemas properties) = Definition.asSchemas properties
  | [], _ => rfl
  | (_, definition) :: rest, h => by
      rw [Definition.schemas, Schema.ofMembers, Definition.ofJson_schema definition h.1,
        Definition.ofMembers_schemas rest h.2, Definition.asSchemas]

end

mutual

/-- What the schema of a kind declares has no defect. -/
theorem Kind.isSound_asSchema (notes : Annotations) :
    (kind : Kind) → (kind.asSchema notes).isSound = true
  | .primitive type => by
      rw [Kind.asSchema]
      split <;> rfl
  | .untypedObject | .custom _ => rfl
  | .typedObject properties _ _ => Definition.areSound_asSchemas properties
  | .array items => Definition.isSound_asSchema items

/-- What the schema of a definition declares has no defect. -/
theorem Definition.isSound_asSchema : (definition : Definition) → definition.asSchema.isSound = true
  | ⟨kind, notes⟩ => Kind.isSound_asSchema notes kind

/-- What the schemas of named definitions declare has no defect. -/
theorem Definition.areSound_asSchemas :
    (properties : List (String × Definition)) →
      Schema.areSound (Definition.asSchemas properties) = true
  | [] => rfl
  | (_, definition) :: rest => by
      rw [Definition.asSchemas, Schema.areSound, Definition.isSound_asSchema definition,
        Definition.areSound_asSchemas rest]
      rfl

end

mutual

/-- What the schema of a kind declares refers to the types that occur directly in the kind. -/
theorem Kind.references_asSchema (notes : Annotations) :
    (kind : Kind) → (kind.asSchema notes).references = kind.directTypes.map CustomType.id
  | .primitive type => by
      rw [Kind.asSchema]
      split <;> rfl
  | .untypedObject | .custom _ => rfl
  | .typedObject properties _ _ => Definition.references_asSchemas properties
  | .array items => Definition.references_asSchema items

/-- What the schema of a definition declares refers to the types that occur directly in the
definition. -/
theorem Definition.references_asSchema :
    (definition : Definition) →
      definition.asSchema.references = definition.directTypes.map CustomType.id
  | ⟨kind, notes⟩ => Kind.references_asSchema notes kind

/-- What the schemas of named definitions declare refers to the types that occur directly in the
definitions. -/
theorem Definition.references_asSchemas :
    (properties : List (String × Definition)) →
      Schema.propertyReferences (Definition.asSchemas properties) =
        (Definition.propertyTypes properties).map CustomType.id
  | [] => rfl
  | (_, definition) :: rest => by
      rw [Definition.asSchemas, Schema.propertyReferences,
        Definition.references_asSchema definition, Definition.references_asSchemas rest,
        Definition.propertyTypes, List.map_append]

end

/-- Texts of a schema are kept. -/
theorem SchemaParts.keptText_members (parts : SchemaParts) (notes : Annotations) :
    Json.keptText (parts.members notes) "title" = notes.title.map .string ∧
      Json.keptText (parts.members notes) "description" = notes.description.map .string ∧
      Json.keptText (parts.members notes) "hint" = notes.hint.map .string ∧
      (parts.members notes).lookup "default" = notes.default := by
  simp [Json.keptText_eq, SchemaParts.lookup_members, SchemaParts.options, Entries.lookup_cons,
    Option.bind_map, Function.comp_def, Json.asString?]

/-- What the normal form keeps of the schema of parts. -/
theorem SchemaParts.normalForm_members (parts : SchemaParts) (notes : Annotations) :
    (Json.object (parts.members notes)).normalForm =
      let ifObject (value? : Option Json) : Option Json :=
        if parts.type = "object" ∧ parts.properties.isSome then value? else none
      .object (Json.members
        [("additionalProperties",
            ifObject ((parts.additionalProperties.bind Json.asBool?).map .bool)),
          ("default", notes.default), ("description", notes.description.map .string),
          ("hint", notes.hint.map .string),
          ("items", if parts.type = "array" then parts.items.map Json.normalForm else none),
          ("properties", ifObject (parts.properties.map Json.normalForms)),
          ("required", ifObject (if (Schema.required (parts.members notes)).isEmpty then none
            else some (.ofStrings (Schema.required (parts.members notes))))),
          ("title", notes.title.map .string), ("type", some (.string parts.type))]) := by
  obtain ⟨htitle, hdescription, hhint, hdefault⟩ := parts.keptText_members notes
  rw [Json.normalForm_object, Json.keptMembers, Json.keptRequired_eq, Json.keptAdditional_eq,
    Schema.additional, parts.lookup_properties, parts.lookup_items, parts.lookup_type,
    parts.lookup_additional, htitle, hdescription, hhint, hdefault]
  simp [Json.hasType_iff, parts.lookup_type]

/-- A schema that gives only its type and annotations is in normal form. -/
theorem SchemaParts.normalForm_bare (type : String) (notes : Annotations) :
    (Json.object (SchemaParts.members { type := type } notes)).normalForm =
      .object (SchemaParts.members { type := type } notes) := by
  rw [normalForm_members, members_eq]
  simp [options]

mutual

/-- The schema of a kind is in normal form. -/
theorem Kind.normalForm_members (notes : Annotations) :
    (kind : Kind) → (Json.object (kind.parts.members notes)).normalForm =
      .object (kind.parts.members notes)
  | .primitive _ | .untypedObject | .custom _ => SchemaParts.normalForm_bare _ notes
  | .typedObject properties required additional => by
      have hproperties := Definition.normalMembers_schemas properties
      rw [SchemaParts.normalForm_members, Schema.required_members, SchemaParts.members_eq]
      simp [SchemaParts.options, Kind.parts, Json.normalForms, hproperties, Option.bind_map,
        Function.comp_def, Json.asBool?]
  | .array items => by
      have hitems := Definition.normalForm_schema items
      rw [SchemaParts.normalForm_members, SchemaParts.members_eq]
      simp [SchemaParts.options, Kind.parts, hitems]

/-- The schema of a definition is in normal form. -/
theorem Definition.normalForm_schema :
    (definition : Definition) → definition.schema.normalForm = definition.schema
  | ⟨kind, notes⟩ => Kind.normalForm_members notes kind

/-- The schemas of named definitions are in normal form. -/
theorem Definition.normalMembers_schemas :
    (properties : List (String × Definition)) →
      Json.normalMembers (Definition.schemas properties) = Definition.schemas properties
  | [] => rfl
  | (_, definition) :: rest => by
      rw [Definition.schemas, Json.normalMembers, Definition.normalForm_schema definition,
        Definition.normalMembers_schemas rest]

end

end AppManifest
