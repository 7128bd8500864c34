import AppManifest.Proofs.Definition.Nesting

/-!
# Equal definitions

Equal definitions have equal types in the same places: for every type that occurs directly in one of
two equal types, an equal one occurs directly in the other (`CustomType.exists_same`).
-/

namespace AppManifest

mutual

/-- For every type that occurs directly in a kind, an equal one occurs directly in an equal kind. -/
theorem Kind.exists_same {type : CustomType} :
    (first second : Kind) → first.same second = true → type ∈ first.directTypes →
      ∃ other ∈ second.directTypes, type.same other = true
  | .primitive _, _, _, h | .untypedObject, _, _, h => by cases h
  | .typedObject properties _ _, .typedObject others _ _, hsame, h => by
      simp only [Kind.same, Bool.and_eq_true] at hsame
      exact Definition.exists_sameProperties properties others hsame.1.1.2 h
  | .array items, .array others, hsame, h => by
      rw [Kind.same] at hsame
      exact Definition.exists_same items others hsame h
  | .custom first, .custom second, hsame, h => by
      rw [Kind.same] at hsame
      obtain rfl := List.mem_singleton.1 h
      exact ⟨second, List.mem_cons_self, hsame⟩

/-- For every type that occurs directly in a definition, an equal one occurs directly in an equal
definition. -/
theorem Definition.exists_same {type : CustomType} :
    (first second : Definition) → first.same second = true → type ∈ first.directTypes →
      ∃ other ∈ second.directTypes, type.same other = true
  | ⟨kind, _⟩, ⟨other, _⟩, hsame, h => by
      rw [Definition.same, Bool.and_eq_true] at hsame
      exact Kind.exists_same kind other hsame.1 h

/-- For every type that occurs directly in named definitions, an equal one occurs directly in equal
ones. -/
theorem Definition.exists_sameProperties {type : CustomType} :
    (first second : List (String × Definition)) →
      Definition.sameProperties first second = true → type ∈ Definition.propertyTypes first →
      ∃ other ∈ Definition.propertyTypes second, type.same other = true
  | [], _, _, h => by cases h
  | (_, first) :: rest, (_, second) :: others, hsame, h => by
      simp only [Definition.sameProperties, Bool.and_eq_true] at hsame
      rcases List.mem_append.1 h with h | h
      · obtain ⟨other, hother, heq⟩ := Definition.exists_same first second hsame.1.2 h
        exact ⟨other, List.mem_append_left _ hother, heq⟩
      · obtain ⟨other, hother, heq⟩ := Definition.exists_sameProperties rest others hsame.2 h
        exact ⟨other, List.mem_append_right _ hother, heq⟩

end

namespace CustomType

variable {first second : CustomType}

/-- Equal types have the same id. -/
theorem id_eq_of_same (h : first.same second = true) : first.id = second.id := by
  cases first
  cases second
  simp only [same, Bool.and_eq_true, beq_iff_eq] at h
  exact h.1.1.1

/-- For every type that occurs directly in a type, an equal one occurs directly in an equal type. -/
theorem exists_same (h : first.same second = true) {nested : CustomType}
    (hnested : nested ∈ first.definition.directTypes) :
    ∃ other ∈ second.definition.directTypes, nested.same other = true := by
  cases first
  cases second
  simp only [same, Bool.and_eq_true] at h
  exact Definition.exists_same _ _ h.1.1.2 hnested

end CustomType

end AppManifest
