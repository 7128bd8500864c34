import AppManifest.AppFunction
import AppManifest.Datastore
import AppManifest.Proofs.Definition.Same
import AppManifest.Proofs.Definition.Schema
import AppManifest.Proofs.Json.Equality

/-!
# Equality of definitions as an equivalence

Equality of definitions, types, parameter sets, functions and datastores is an equivalence, and what
is equal is written as equal JSON values (`Definition.congruent_schema`,
`AppFunction.congruent_toJson`).
-/

namespace AppManifest

/-- Annotations are equal exactly if they are the same up to equality of defaults. -/
theorem Annotations.beq_iff {first second : Annotations} :
    (first == second) = true ↔ first.title = second.title ∧
      first.description = second.description ∧ first.hint = second.hint ∧
      (first.default == second.default) = true := by
  show first.same second = true ↔ _
  simp only [same, Bool.and_eq_true, beq_iff_eq, and_assoc]

/-- Parameter sets are equal exactly if they have equal parameters and require the same ones. -/
theorem ParameterSet.beq_iff {first second : ParameterSet} :
    (first == second) = true ↔ (first.properties == second.properties) = true ∧
      first.required = second.required := by
  show first.same second = true ↔ _
  simp only [same, Bool.and_eq_true, beq_iff_eq]

/-- Functions are equal exactly if they are the same up to equality of parameters. -/
theorem AppFunction.beq_iff {first second : AppFunction} :
    (first == second) = true ↔ first.id = second.id ∧ first.title = second.title ∧
      first.description = second.description ∧ first.sourceFile = second.sourceFile ∧
      (first.inputs == second.inputs) = true ∧ (first.outputs == second.outputs) = true := by
  show first.same second = true ↔ _
  simp only [same, Bool.and_eq_true, beq_iff_eq, and_assoc]

/-- Datastores are equal exactly if they are the same up to equality of attributes. -/
theorem Datastore.beq_iff {first second : Datastore} :
    (first == second) = true ↔ first.name = second.name ∧
      first.primaryKey = second.primaryKey ∧ (first.attributes == second.attributes) = true := by
  show first.same second = true ↔ _
  simp only [same, Bool.and_eq_true, beq_iff_eq, and_assoc]

/-! ## Equivalence -/

instance : EquivBEq Annotations :=
  equivBEq_of_key (fun notes => (((notes.title, notes.description), notes.hint), notes.default))
    fun _ _ => rfl

mutual

/-- Kinds that equal one kind are equal. -/
theorem Kind.euclid : (first second third : Kind) → first.same second = true →
    first.same third = true → second.same third = true
  | .primitive _, .primitive _, .primitive _, h, h' => BEq.trans (BEq.symm h) h'
  | .typedObject first _ _, .typedObject second _ _, .typedObject third _ _, h, h' => by
      simp only [Kind.same, Bool.and_eq_true, beq_iff_eq] at h h' ⊢
      exact ⟨⟨⟨h.1.1.1.symm.trans h'.1.1.1,
        Definition.euclidProperties first second third h.1.1.2 h'.1.1.2⟩,
        h.1.2.symm.trans h'.1.2⟩, h.2.symm.trans h'.2⟩
  | .untypedObject, .untypedObject, .untypedObject, _, _ => rfl
  | .array first, .array second, .array third, h, h' => by
      rw [Kind.same] at h h' ⊢
      exact Definition.euclid first second third h h'
  | .custom first, .custom second, .custom third, h, h' => by
      rw [Kind.same] at h h' ⊢
      exact CustomType.euclid first second third h h'

/-- Definitions that equal one definition are equal. -/
theorem Definition.euclid : (first second third : Definition) → first.same second = true →
    first.same third = true → second.same third = true
  | ⟨first, _⟩, ⟨second, _⟩, ⟨third, _⟩, h, h' => by
      rw [Definition.same, Bool.and_eq_true] at h h' ⊢
      exact ⟨Kind.euclid first second third h.1 h'.1, BEq.trans (BEq.symm h.2) h'.2⟩

/-- Types that equal one type are equal. -/
theorem CustomType.euclid : (first second third : CustomType) → first.same second = true →
    first.same third = true → second.same third = true
  | ⟨_, first, _, _⟩, ⟨_, second, _, _⟩, ⟨_, third, _, _⟩, h, h' => by
      simp only [CustomType.same, Bool.and_eq_true, beq_iff_eq] at h h' ⊢
      exact ⟨⟨⟨h.1.1.1.symm.trans h'.1.1.1, Definition.euclid first second third h.1.1.2 h'.1.1.2⟩,
        h.1.2.symm.trans h'.1.2⟩, h.2.symm.trans h'.2⟩

/-- Named definitions that equal the same ones are equal. -/
theorem Definition.euclidProperties : (first second third : List (String × Definition)) →
    Definition.sameProperties first second = true →
    Definition.sameProperties first third = true → Definition.sameProperties second third = true
  | [], [], [], _, _ => rfl
  | (_, first) :: rest, (_, second) :: others, (_, third) :: more, h, h' => by
      simp only [Definition.sameProperties, Bool.and_eq_true, beq_iff_eq] at h h' ⊢
      exact ⟨⟨h.1.1.symm.trans h'.1.1, Definition.euclid first second third h.1.2 h'.1.2⟩,
        Definition.euclidProperties rest others more h.2 h'.2⟩

end

instance : EquivBEq Kind :=
  equivBEq_of_euclid fun {first second third} => Kind.euclid first second third

instance : EquivBEq Definition :=
  equivBEq_of_euclid fun {first second third} => Definition.euclid first second third

instance : EquivBEq CustomType :=
  equivBEq_of_euclid fun {first second third} => CustomType.euclid first second third

instance : EquivBEq ParameterSet :=
  equivBEq_of_key (fun set => (set.properties, set.required)) fun _ _ => rfl

instance : EquivBEq AppFunction :=
  equivBEq_of_key (fun function => (((((function.id, function.title), function.description),
    function.sourceFile), function.inputs), function.outputs)) fun _ _ => rfl

instance : EquivBEq Datastore :=
  equivBEq_of_key (fun datastore => ((datastore.name, datastore.primaryKey), datastore.attributes))
    fun _ _ => rfl

/-- Named definitions are compared as lists of pairs are. -/
theorem Definition.sameProperties_eq (first second : List (String × Definition)) :
    Definition.sameProperties first second = (first == second) := by
  induction first generalizing second with
  | nil => cases second <;> rfl
  | cons entry rest ih =>
      cases second with
      | nil => rfl
      | cons other others => rw [sameProperties, ih, List.cons_beq_cons]; rfl

/-- Definitions are equal exactly if their kinds and their annotations are. -/
theorem Definition.beq_iff {first second : Definition} :
    (first == second) = true ↔
      (first.kind == second.kind) = true ∧ (first.notes == second.notes) = true := by
  show first.same second = true ↔ _
  cases first
  cases second
  exact Bool.and_eq_true_iff

/-- Typed objects are equal exactly if they have equal properties, require the same names and say
the same on undeclared properties. -/
theorem Kind.typedObject_beq {properties properties' : List (String × Definition)}
    {required required' : List String} {additional additional' : Option Bool} :
    (Kind.typedObject properties required additional ==
      .typedObject properties' required' additional') = true ↔
      (properties == properties') = true ∧ required = required' ∧ additional = additional' := by
  show Kind.same _ _ = true ↔ _
  rw [Kind.same, Definition.sameProperties_eq]
  simp only [Bool.and_eq_true, beq_iff_eq, and_assoc]
  exact ⟨And.right, fun h => ⟨(list_beq_iff.1 h.1).length_eq, h⟩⟩

/-- Types are equal exactly if they are the same up to equality of their definitions. -/
theorem CustomType.beq_iff {first second : CustomType} :
    (first == second) = true ↔ first.id = second.id ∧
      (first.definition == second.definition) = true ∧ first.title = second.title ∧
      first.description = second.description := by
  show first.same second = true ↔ _
  cases first
  cases second
  simp only [same, Bool.and_eq_true, beq_iff_eq, and_assoc]
  exact Iff.rfl

/-! ## Written forms -/

/-- The parts of two schemas are equal. -/
structure SchemaParts.Alike (first second : SchemaParts) : Prop where
  type : first.type = second.type
  additionalProperties : (first.additionalProperties == second.additionalProperties) = true
  items : (first.items == second.items) = true
  properties : (first.properties == second.properties) = true
  required : (first.required == second.required) = true

/-- Schemas of equal parts with equal annotations are equal. -/
theorem SchemaParts.Alike.object {first second : SchemaParts} (h : first.Alike second)
    {notes others : Annotations} (hnotes : (notes == others) = true) :
    (Json.object (first.members notes) == .object (second.members others)) = true := by
  obtain ⟨htitle, hdescription, hhint, hdefault⟩ := Annotations.beq_iff.1 hnotes
  rw [Json.object_beq, members_eq, members_eq]
  refine Json.congruent_members ?_
  rw [options, options, htitle, hdescription, hhint, h.type]
  simp only [List.cons_beq_cons, Bool.and_eq_true, pair_beq_iff, h.additionalProperties, hdefault,
    h.items, h.properties, h.required, BEq.rfl, and_self]

mutual

/-- Equal kinds are written with equal parts. -/
theorem Kind.alike_parts : (first second : Kind) → first.same second = true →
    first.parts.Alike second.parts
  | .primitive first, .primitive second, h => by
      have hsame : first = second := by simpa [Kind.same] using h
      exact ⟨congrArg PrimitiveType.name hsame, rfl, rfl, rfl, rfl⟩
  | .typedObject first required additional, .typedObject second required' additional', h => by
      simp only [Kind.same, Bool.and_eq_true, beq_iff_eq] at h
      obtain ⟨⟨⟨-, hproperties⟩, rfl⟩, rfl⟩ := h
      refine ⟨rfl, BEq.rfl, rfl, ?_, BEq.rfl⟩
      show (Json.object (Definition.schemas first) == .object (Definition.schemas second)) = true
      rw [Json.object_beq]
      exact Definition.schemas_beq first second hproperties
  | .untypedObject, .untypedObject, _ => ⟨rfl, rfl, rfl, rfl, rfl⟩
  | .array first, .array second, h => by
      rw [Kind.same] at h
      exact ⟨rfl, rfl, Definition.schema_beq first second h, rfl, rfl⟩
  | .custom first, .custom second, h => by
      rw [Kind.same] at h
      exact ⟨congrArg Reference.ofType (CustomType.id_eq_of_same h), rfl, rfl, rfl, rfl⟩

/-- Equal definitions have equal schemas. -/
theorem Definition.schema_beq : (first second : Definition) → first.same second = true →
    (first.schema == second.schema) = true
  | ⟨first, _⟩, ⟨second, _⟩, h => by
      rw [Definition.same, Bool.and_eq_true] at h
      exact (Kind.alike_parts first second h.1).object h.2

/-- Equal named definitions have equal schemas. -/
theorem Definition.schemas_beq : (first second : List (String × Definition)) →
    Definition.sameProperties first second = true →
    (Definition.schemas first == Definition.schemas second) = true
  | [], [], _ => rfl
  | (_, first) :: rest, (_, second) :: others, h => by
      simp only [Definition.sameProperties, Bool.and_eq_true] at h
      rw [Definition.schemas, Definition.schemas, List.cons_beq_cons, Bool.and_eq_true,
        pair_beq_iff]
      exact ⟨⟨h.1.1, Definition.schema_beq first second h.1.2⟩,
        Definition.schemas_beq rest others h.2⟩

end

/-- Equal definitions have equal schemas. -/
theorem Definition.congruent_schema : Congruent Definition.schema :=
  fun first second h => Definition.schema_beq first second h

/-- Equal types have equal schemas. -/
theorem CustomType.congruent_schema : Congruent CustomType.schema := by
  intro first second h
  obtain ⟨id, ⟨kind, notes⟩, title, description⟩ := first
  obtain ⟨id', ⟨kind', notes'⟩, title', description'⟩ := second
  have hsame : (CustomType.mk id ⟨kind, notes⟩ title description).same
      ⟨id', ⟨kind', notes'⟩, title', description'⟩ = true := h
  simp only [CustomType.same, Definition.same, Bool.and_eq_true, beq_iff_eq] at hsame
  obtain ⟨⟨⟨-, hkind, hnotes⟩, rfl⟩, rfl⟩ := hsame
  obtain ⟨htitle, hdescription, hhint, hdefault⟩ := Annotations.beq_iff.1 hnotes
  rw [schema_eq, schema_eq]
  refine Definition.schema_beq _ _ ?_
  rw [Definition.same, Bool.and_eq_true]
  exact ⟨hkind, Annotations.beq_iff.2 ⟨congrArg (Option.or _) htitle,
    congrArg (Option.or _) hdescription, hhint, hdefault⟩⟩

/-- Equal tables of definitions are written as equal values. -/
theorem Definition.congruent_schemas :
    Congruent fun table : Table Definition => Json.ofTable (table.map Definition.schema) :=
  fun _ _ h => Json.congruent_ofTable (Table.congruent_map congruent_schema h)

/-- Equal parameter sets are written as equal values. -/
theorem ParameterSet.congruent_toJson : Congruent ParameterSet.toJson := by
  intro first second h
  obtain ⟨hproperties, hrequired⟩ := beq_iff.1 h
  have hschemas := Definition.congruent_schemas hproperties
  rw [toJson, toJson, Json.object_beq, hrequired]
  simp only [List.cons_beq_cons, Bool.and_eq_true, pair_beq_iff, hschemas, BEq.rfl, and_self]

/-- Equal functions are written as equal values. -/
theorem AppFunction.congruent_toJson : Congruent AppFunction.toJson := by
  intro first second h
  obtain ⟨-, htitle, hdescription, hfile, hinputs, houtputs⟩ := beq_iff.1 h
  rw [toJson, toJson, Json.object_beq, htitle, hdescription, hfile]
  refine list_append_beq BEq.rfl ?_
  simp only [List.cons_beq_cons, Bool.and_eq_true, pair_beq_iff,
    ParameterSet.congruent_toJson hinputs, ParameterSet.congruent_toJson houtputs, BEq.rfl,
    and_self]

/-- Equal datastores are written as equal values. -/
theorem Datastore.congruent_toJson : Congruent Datastore.toJson := by
  intro first second h
  obtain ⟨-, hkey, hattributes⟩ := beq_iff.1 h
  have hschemas := Definition.congruent_schemas hattributes
  rw [toJson, toJson, Json.object_beq, hkey]
  simp only [List.cons_beq_cons, Bool.and_eq_true, pair_beq_iff, hschemas, BEq.rfl, and_self]

end AppManifest
