import AppManifest.Proofs.Definition.Export

/-!
# Ordered definitions

Chains of links leave the properties of a definition in ascending order at every depth
(`Definition.Ordered.applyAll`), and what is ordered is written as an ordered value
(`Definition.Ordered.schema`).
-/

namespace AppManifest

namespace Json

/-- An array of strings is ordered. -/
theorem Ordered.ofStrings (values : List String) : (Json.ofStrings values).Ordered := by
  refine .array fun item hitem => ?_
  obtain ⟨value, -, rfl⟩ := List.mem_map.1 hitem
  exact .string value

/-- A value that is among members is one of those that are there. -/
theorem mem_members {values : List (String × Option Json)} {entry : String × Json}
    (h : entry ∈ members values) : (entry.1, some entry.2) ∈ values := by
  obtain ⟨⟨name, value?⟩, hvalue, hentry⟩ := List.mem_filterMap.1 h
  obtain ⟨value, rfl, rfl⟩ := Option.map_eq_some_iff.1 hentry
  exact hvalue

/-- The object of ordered values under ascending names is ordered. -/
theorem Ordered.members {values : List (String × Option Json)}
    (hnames : (values.map Prod.fst).Pairwise (· < ·))
    (h : ∀ name value, (name, some value) ∈ values → value.Ordered) :
    (Json.object (Json.members values)).Ordered :=
  .object (ascending_members hnames) fun entry hentry => h entry.1 entry.2 (mem_members hentry)

end Json

/-- Definitions are ordered exactly if each of them is. -/
theorem Definition.areOrdered_iff {properties : List (String × Definition)} :
    Definition.AreOrdered properties ↔ ∀ entry ∈ properties, entry.2.Ordered := by
  induction properties with
  | nil =>
      constructor
      · intro _ _ h
        cases h
      · intro _
        trivial
  | cons head rest ih => rw [Definition.AreOrdered, ih, List.forall_mem_cons]

/-- A schema is ordered if its parts and its default are. -/
theorem SchemaParts.ordered_members {parts : SchemaParts} {notes : Annotations}
    (hnotes : notes.Ordered)
    (h : ∀ value, some value ∈ [parts.additionalProperties, parts.items, parts.properties,
      parts.required] → value.Ordered) :
    (Json.object (parts.members notes)).Ordered := by
  rw [members_eq]
  refine .members (parts.names_options notes) fun name value hmem => ?_
  simp only [options, List.mem_cons, Prod.mk.injEq, List.not_mem_nil, or_false] at hmem
  simp only [List.mem_cons, List.not_mem_nil, or_false] at h
  have hstring {text? : Option String} (h : some value = text?.map .string) : value.Ordered := by
    obtain ⟨text, -, rfl⟩ := Option.map_eq_some_iff.1 h.symm
    exact .string text
  rcases hmem with ⟨-, heq⟩ | ⟨-, heq⟩ | ⟨-, heq⟩ | ⟨-, heq⟩ | ⟨-, heq⟩ | ⟨-, heq⟩ | ⟨-, heq⟩ |
    ⟨-, heq⟩ | ⟨-, heq⟩
  · exact h value (.inl heq)
  · exact hnotes value heq.symm
  · exact hstring heq
  · exact hstring heq
  · exact h value (.inr (.inl heq))
  · exact h value (.inr (.inr (.inl heq)))
  · exact h value (.inr (.inr (.inr heq)))
  · exact hstring heq
  · cases heq
    exact .string _

mutual

/-- An ordered kind is written as an ordered value. -/
theorem Kind.Ordered.members {notes : Annotations} (hnotes : notes.Ordered) :
    (kind : Kind) → kind.Ordered → (Json.object (kind.parts.members notes)).Ordered
  | .primitive _, _ | .untypedObject, _ | .custom _, _ => by
      refine SchemaParts.ordered_members hnotes fun value hvalue => ?_
      simp [Kind.parts] at hvalue
  | .typedObject properties required additional, ⟨hascending, hproperties⟩ => by
      refine SchemaParts.ordered_members hnotes fun value hvalue => ?_
      simp only [Kind.parts, List.mem_cons, List.not_mem_nil, or_false] at hvalue
      rcases hvalue with heq | heq | heq | heq
      · obtain ⟨allowed, -, rfl⟩ := Option.map_eq_some_iff.1 heq.symm
        exact .bool allowed
      · cases heq
      · obtain rfl := Option.some.inj heq
        rw [Definition.schemas_eq]
        refine .object (Entries.Ascending.mapValues hascending _) fun entry hentry => ?_
        exact Definition.AreOrdered.schemas properties hproperties entry
          (Definition.schemas_eq properties ▸ hentry)
      · split at heq
        · cases heq
        · obtain rfl := Option.some.inj heq
          exact .ofStrings required
  | .array items, hitems => by
      refine SchemaParts.ordered_members hnotes fun value hvalue => ?_
      simp only [Kind.parts, List.mem_cons, List.not_mem_nil, or_false] at hvalue
      rcases hvalue with heq | heq | heq | heq
      · cases heq
      · obtain rfl := Option.some.inj heq
        exact Definition.Ordered.schema items hitems
      · cases heq
      · cases heq

/-- An ordered definition is written as an ordered value. -/
theorem Definition.Ordered.schema :
    (definition : Definition) → definition.Ordered → definition.schema.Ordered
  | ⟨kind, _⟩, ⟨hkind, hnotes⟩ => Kind.Ordered.members hnotes kind hkind

/-- Ordered definitions are written as ordered values. -/
theorem Definition.AreOrdered.schemas :
    (properties : List (String × Definition)) → Definition.AreOrdered properties →
      ∀ entry ∈ Definition.schemas properties, entry.2.Ordered
  | [], _ => fun _ h => by cases h
  | (_, definition) :: rest, ⟨hhead, hrest⟩ => by
      intro entry hentry
      rcases List.mem_cons.1 hentry with rfl | hentry
      · exact Definition.Ordered.schema definition hhead
      · exact Definition.AreOrdered.schemas rest hrest entry hentry

end

/-- What a link adds is ordered. -/
def Definition.Link.Ordered : Definition.Link → Prop
  | .property _ definition => definition.Ordered
  | .default value => value.Ordered
  | .required _ | .additional _ | .title _ | .description _ | .hint _ => True

/-- Inserting an ordered definition into ordered ones leaves them ordered. -/
theorem Definition.areOrdered_insert {properties : Entries Definition} {name : String}
    {definition : Definition} (h : Definition.AreOrdered properties)
    (hdefinition : definition.Ordered) :
    Definition.AreOrdered (properties.insert name definition) := by
  rw [Definition.areOrdered_iff] at h ⊢
  intro entry hentry
  rcases Entries.mem_insert hentry with rfl | hentry
  · exact hdefinition
  · exact h entry hentry

/-- A link that adds something ordered leaves a definition ordered. -/
theorem Definition.Ordered.apply {definition : Definition} {link : Definition.Link}
    (h : definition.Ordered) (hlink : link.Ordered) : (definition.apply link).Ordered := by
  obtain ⟨kind, notes⟩ := definition
  obtain ⟨hkind, hnotes⟩ := h
  cases link with
  | property name property =>
      cases kind with
      | untypedObject => exact ⟨⟨List.pairwise_singleton _ _, hlink, trivial⟩, hnotes⟩
      | typedObject properties required additional =>
          exact ⟨⟨hkind.1.insert, Definition.areOrdered_insert hkind.2 hlink⟩, hnotes⟩
      | primitive | array | custom => exact ⟨hkind, hnotes⟩
  | required names =>
      cases kind <;> exact ⟨hkind, hnotes⟩
  | additional allowed =>
      cases kind <;> exact ⟨hkind, hnotes⟩
  | title | description | hint => exact ⟨hkind, hnotes⟩
  | default value =>
      refine ⟨hkind, fun kept hkept => ?_⟩
      obtain rfl := Option.some.inj hkept
      exact hlink

/-- A chain of links that add something ordered leaves a definition ordered. -/
theorem Definition.Ordered.applyAll {definition : Definition} {links : List Definition.Link}
    (h : definition.Ordered) (hlinks : ∀ link ∈ links, link.Ordered) :
    (definition.applyAll links).Ordered := by
  induction links generalizing definition with
  | nil => exact h
  | cons link rest ih =>
      exact ih (h.apply (hlinks link List.mem_cons_self)) fun other hother =>
        hlinks other (List.mem_cons_of_mem _ hother)

end AppManifest
