import AppManifest.Proofs.Equality
import AppManifest.Proofs.Json.Members

/-!
# Equality of JSON values

Equality of JSON values is an equivalence. It is coarser than being the same value, since it does
not see the sign of a floating-point zero, and finer than having the same numeric values. Values
that are built in the same way from equal values are equal.
-/

namespace AppManifest

instance : EquivBEq Binary64 :=
  equivBEq_of_euclid fun {first second third} h h' => by
    have hsame : first.same second = true := h
    have hsame' : first.same third = true := h'
    show second.same third = true
    simp only [Binary64.same, Bool.and_eq_true, Bool.or_eq_true, beq_iff_eq] at hsame hsame' ⊢
    obtain ⟨hmagnitude, hsign⟩ := hsame
    obtain ⟨hmagnitude', hsign'⟩ := hsame'
    refine ⟨hmagnitude.symm.trans hmagnitude', ?_⟩
    -- either a magnitude is zero, and then all are, or all signs agree
    rcases hsign with hsign | hzero
    · rcases hsign' with hsign' | hzero
      · exact .inl (hsign.symm.trans hsign')
      · exact .inr (hmagnitude ▸ hzero)
    · exact .inr (hmagnitude ▸ hzero)

/-- Numbers that equal one number are equal. -/
theorem Number.euclid : (first second third : Number) → first.same second = true →
    first.same third = true → second.same third = true
  | .integer _, .integer _, .integer _, h, h' => BEq.trans (BEq.symm h) h'
  | .float first, .float second, .float third, h, h' => by
      have hsame : (first == second) = true := h
      exact BEq.trans (BEq.symm hsame) h'

instance : EquivBEq Number :=
  equivBEq_of_euclid fun {first second third} => Number.euclid first second third

/-- Equal entries have equal values under each name. -/
theorem Entries.lookup_beq {α : Type} [BEq α] {first second : Entries α}
    (h : (first == second) = true) (name : String) :
    (first.lookup name == second.lookup name) = true := by
  rw [list_beq_iff] at h
  induction h with
  | nil => rfl
  | @cons entry other _ _ hentry _ ih =>
      obtain ⟨hname, hvalue⟩ := pair_beq_iff.1 hentry
      rw [Entries.lookup_cons, Entries.lookup_cons, beq_iff_eq.1 hname]
      split
      · exact hvalue
      · exact ih

namespace Json

mutual

/-- Values that equal one value are equal. -/
theorem euclid : (first second third : Json) → first.same second = true → first.same third = true →
    second.same third = true
  | .null, .null, .null, _, _ => rfl
  | .bool _, .bool _, .bool _, h, h' => BEq.trans (BEq.symm h) h'
  | .number first, .number second, .number third, h, h' => by
      have hsame : (first == second) = true := h
      exact BEq.trans (BEq.symm hsame) h'
  | .string _, .string _, .string _, h, h' => BEq.trans (BEq.symm h) h'
  | .array first, .array second, .array third, h, h' => euclidItems first second third h h'
  | .object first, .object second, .object third, h, h' => euclidMembers first second third h h'

/-- Lists of values that equal one list are equal. -/
theorem euclidItems : (first second third : List Json) → sameItems first second = true →
    sameItems first third = true → sameItems second third = true
  | [], [], [], _, _ => rfl
  | first :: rest, second :: others, third :: more, h, h' => by
      simp only [sameItems, Bool.and_eq_true] at h h' ⊢
      exact ⟨euclid first second third h.1 h'.1, euclidItems rest others more h.2 h'.2⟩

/-- Lists of named values that equal one list are equal. -/
theorem euclidMembers : (first second third : List (String × Json)) →
    sameMembers first second = true → sameMembers first third = true →
    sameMembers second third = true
  | [], [], [], _, _ => rfl
  | (_, first) :: rest, (_, second) :: others, (_, third) :: more, h, h' => by
      simp only [sameMembers, Bool.and_eq_true, beq_iff_eq] at h h' ⊢
      exact ⟨⟨h.1.1.symm.trans h'.1.1, euclid first second third h.1.2 h'.1.2⟩,
        euclidMembers rest others more h.2 h'.2⟩

end

instance : EquivBEq Json :=
  equivBEq_of_euclid fun {first second third} => euclid first second third

/-- Arrays are equal exactly if their items are. -/
theorem array_beq (first second : List Json) :
    (array first == array second) = (first == second) := by
  show sameItems first second = _
  induction first generalizing second with
  | nil => cases second <;> rfl
  | cons head rest ih =>
      cases second with
      | nil => rfl
      | cons other others => rw [sameItems, ih, List.cons_beq_cons]; rfl

/-- Objects are equal exactly if their members are. -/
theorem object_beq (first second : Entries Json) :
    (object first == object second) = (first == second) := by
  show sameMembers first second = _
  induction first generalizing second with
  | nil => cases second <;> rfl
  | cons head rest ih =>
      cases second with
      | nil => rfl
      | cons other others => rw [sameMembers, ih, List.cons_beq_cons]; rfl

/-- What equals a string is the string. -/
theorem eq_string_of_beq {json : Json} {text : String} (h : (json == .string text) = true) :
    json = .string text := by
  cases json with
  | string other => exact congrArg string (beq_iff_eq.1 h)
  | null | bool _ | number _ | array _ | object _ => cases h

/-- What equals an object is an object of equal members. -/
theorem exists_object_of_beq {json : Json} {members : Entries Json}
    (h : (json == .object members) = true) :
    ∃ others, json = .object others ∧ (others == members) = true := by
  cases json with
  | object others => exact ⟨others, rfl, (object_beq others members).symm.trans h⟩
  | null | bool _ | number _ | string _ | array _ => cases h

/-- Equal values are the same as texts. -/
theorem asString?_eq_of_beq {first second : Json} (h : (first == second) = true) :
    first.asString? = second.asString? := by
  cases first <;> cases second <;> first | rfl | cases h | skip
  exact congrArg some (beq_iff_eq.1 h)

/-- Equal values are the same as booleans. -/
theorem asBool?_eq_of_beq {first second : Json} (h : (first == second) = true) :
    first.asBool? = second.asBool? := by
  cases first <;> cases second <;> first | rfl | cases h | skip
  exact congrArg some (beq_iff_eq.1 h)

/-- Equal lists of values have the same texts. -/
theorem filterMap_asString?_eq_of_beq {first second : List Json} (h : (first == second) = true) :
    first.filterMap asString? = second.filterMap asString? := by
  rw [list_beq_iff] at h
  induction h with
  | nil => rfl
  | cons hhead _ ih => rw [List.filterMap_cons, List.filterMap_cons, asString?_eq_of_beq hhead, ih]

/-- Equal values have the same texts as items. -/
theorem map_asArray?_eq_of_beq {first second : Json} (h : (first == second) = true) :
    first.asArray?.map (List.filterMap asString?) =
      second.asArray?.map (List.filterMap asString?) := by
  cases first <;> cases second <;> first | rfl | cases h | skip
  exact congrArg some (filterMap_asString?_eq_of_beq ((array_beq _ _).symm.trans h))

/-- Equal tables are written as equal objects. -/
theorem congruent_ofTable : Congruent ofTable := by
  intro first second h
  rwa [ofTable, ofTable, object_beq, ← Table.beq_eq]

/-- Equal values make equal members. -/
theorem congruent_member (name : String) : Congruent (member name) := by
  intro first second h
  cases first <;> cases second
  · rfl
  · cases h
  · cases h
  · exact list_beq_iff.2 (.cons (pair_beq_iff.2 ⟨BEq.rfl, h⟩) .nil)

/-- Equal named values make equal members. -/
theorem congruent_members : Congruent members := by
  intro first second h
  rw [list_beq_iff] at h
  induction h with
  | nil => rfl
  | @cons entry other _ _ hentry _ ih =>
      obtain ⟨hname, hvalue⟩ := pair_beq_iff.1 hentry
      rw [members_cons, members_cons, beq_iff_eq.1 hname]
      exact list_append_beq (congruent_member other.1 hvalue) ih

end Json

end AppManifest
