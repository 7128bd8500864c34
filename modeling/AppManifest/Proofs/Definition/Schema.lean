import AppManifest.Definition.Schema
import AppManifest.Description.Resolver
import AppManifest.Proofs.Json.Members

/-!
# The schemas that manifests write

A schema has its members in the order of their names. The schema of a type that was made of a
definition is that of the definition: moving the title and the description to the type and writing
them over those of the definition cancel out (`CustomType.schema_ofDefinition`).
-/

namespace AppManifest

namespace SchemaParts

/-- The members that a schema may have, by name. -/
def options (parts : SchemaParts) (notes : Annotations) : List (String × Option Json) :=
  [("additionalProperties", parts.additionalProperties), ("default", notes.default),
    ("description", notes.description.map .string), ("hint", notes.hint.map .string),
    ("items", parts.items), ("properties", parts.properties), ("required", parts.required),
    ("title", notes.title.map .string), ("type", some (.string parts.type))]

/-- The members of a schema are those that it may have and that are there. -/
theorem members_eq (parts : SchemaParts) (notes : Annotations) :
    parts.members notes = Json.members (parts.options notes) := by
  simp [members, options, Json.members_cons, Json.member]

/-- The names of members are listed in ascending order. -/
theorem names_options (parts : SchemaParts) (notes : Annotations) :
    ((parts.options notes).map Prod.fst).Pairwise (· < ·) := by
  show ["additionalProperties", "default", "description", "hint", "items", "properties", "required",
    "title", "type"].Pairwise (· < ·)
  decide

/-- The members of a schema are in ascending order. -/
theorem ascending_members (parts : SchemaParts) (notes : Annotations) :
    (parts.members notes).Ascending := by
  rw [members_eq]
  exact Json.ascending_members (parts.names_options notes)

/-- A name is looked up among the members that a schema may have. -/
theorem lookup_members (parts : SchemaParts) (notes : Annotations) (name : String) :
    (parts.members notes).lookup name = (List.lookup name (parts.options notes)).join := by
  rw [members_eq]
  exact Json.lookup_members ((parts.names_options notes).imp String.ne_of_lt) name

end SchemaParts

/-- The schema of a definition lists the members that it may have and that are there. -/
theorem Definition.schema_mk (kind : Kind) (notes : Annotations) :
    Definition.schema ⟨kind, notes⟩ = .object (Json.members (kind.parts.options notes)) := by
  rw [Definition.schema, SchemaParts.members_eq]

/-- The schemas of named definitions, one by one. -/
theorem Definition.schemas_eq (properties : List (String × Definition)) :
    Definition.schemas properties = Entries.mapValues Definition.schema properties := by
  induction properties with
  | nil => rfl
  | cons entry rest ih => rw [Definition.schemas, ih]; rfl

namespace CustomType

/-- Putting a text under a name keeps the names ascending. -/
theorem ascending_override {name : String} {text : Option String} {members : Entries Json}
    (h : members.Ascending) : (override name text members).Ascending := by
  cases text with
  | none => exact h
  | some text => exact h.insert

/-- A text that was put under a name is found there. -/
theorem lookup_override (name : String) (text : Option String) (members : Entries Json)
    (key : String) :
    (override name text members).lookup key =
      if key = name then (text.map .string).or (members.lookup key) else members.lookup key := by
  cases text with
  | none => simp [override]
  | some text => simp [override, Entries.lookup_insert]

/-- The schema of a type is that of its definition, with the title and the description of the type
over those of the definition. -/
theorem schema_eq (type : CustomType) :
    type.schema = Definition.schema ⟨type.definition.kind,
      { type.definition.notes with
        title := type.title.or type.definition.notes.title
        description := type.description.or type.definition.notes.description }⟩ := by
  refine congrArg Json.object (Entries.Ascending.eq_of_lookup (ascending_override
    (ascending_override (SchemaParts.ascending_members _ _))) (SchemaParts.ascending_members _ _)
    fun key => ?_)
  rw [lookup_override, lookup_override, SchemaParts.lookup_members, SchemaParts.lookup_members]
  simp only [SchemaParts.options, Entries.lookup_cons]
  by_cases hdescription : key = "description"
  · simp [hdescription, Option.map_or]
  · by_cases htitle : key = "title"
    · simp [htitle, Option.map_or]
    · simp [hdescription, htitle]

/-- Writing the title and the description over members that lack them is writing all members. -/
theorem schema_ofDefinition (id : String) (definition : Definition) :
    (ofDefinition id definition).schema = definition.schema := by
  obtain ⟨kind, notes⟩ := definition
  rw [schema_eq, ofDefinition]
  simp only [Option.or_none]

end CustomType

end AppManifest
