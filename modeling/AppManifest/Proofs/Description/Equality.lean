import AppManifest.Proofs.Definition.Equality
import AppManifest.Proofs.Description.ReadBack

/-!
# Equal schemas

Equal JSON values declare, as schemas, equal definitions (`Schema.exists_defines_of_beq`): the two
differ at most in the defaults, by the signs of floating-point zeros.
-/

namespace AppManifest

namespace Schema

variable {first second : Entries Json}

/-- Equal members have the same texts. -/
theorem text?_eq_of_beq (h : (first == second) = true) (name : String) :
    text? first name = text? second name :=
  option_bind_eq_of_beq (Entries.lookup_beq h name) Json.asString?_eq_of_beq

/-- Equal members say the same on undeclared properties. -/
theorem additional_eq_of_beq (h : (first == second) = true) :
    additional first = additional second :=
  option_bind_eq_of_beq (Entries.lookup_beq h _) Json.asBool?_eq_of_beq

/-- Equal members require the same names. -/
theorem required_eq_of_beq (h : (first == second) = true) : required first = required second := by
  have hrequired (members : Entries Json) : required members =
      ((members.lookup "required").bind fun value =>
        value.asArray?.map (List.filterMap Json.asString?)).getD [] := by
    rw [required]
    cases members.lookup "required" with
    | none => rfl
    | some value => cases value <;> rfl
  rw [hrequired, hrequired, option_bind_eq_of_beq (Entries.lookup_beq h _)
    Json.map_asArray?_eq_of_beq]

/-- Equal members are equal annotations. -/
theorem congruent_annotations : Congruent annotations :=
  fun _ _ h => Annotations.beq_iff.2 ⟨text?_eq_of_beq h _, text?_eq_of_beq h _,
    text?_eq_of_beq h _, Entries.lookup_beq h _⟩

/-- Members that equal members with a value under a name have an equal value there. -/
theorem exists_lookup_of_beq (h : (first == second) = true) {name : String} {value : Json}
    (hvalue : second.lookup name = some value) :
    ∃ other, first.lookup name = some other ∧ (other == value) = true := by
  have hlookup := Entries.lookup_beq h name
  rw [hvalue, option_beq_iff] at hlookup
  generalize first.lookup name = found at hlookup
  cases hlookup with
  | some hsame => exact ⟨_, rfl, hsame⟩

/-- Members that equal members with a string under a name have it there too. -/
theorem lookup_string_of_beq (h : (first == second) = true) {name text : String}
    (htext : second.lookup name = some (.string text)) :
    first.lookup name = some (.string text) := by
  obtain ⟨other, hother, hsame⟩ := exists_lookup_of_beq h htext
  rw [hother, Json.eq_string_of_beq hsame]

/-- Members that equal members without a value under a name have none there. -/
theorem lookup_none_of_beq (h : (first == second) = true) {name : String}
    (hnone : second.lookup name = none) : first.lookup name = none := by
  have hlookup := Entries.lookup_beq h name
  rw [hnone, option_beq_iff] at hlookup
  generalize first.lookup name = found at hlookup
  cases hlookup
  rfl

variable {names : String → CustomType → Prop}

/-- Named values that equal named values, each of which declares a definition wherever it is put,
declare equal definitions. -/
theorem exists_definesAll_of_beq {properties others : Entries Json}
    {definitions : List (String × Definition)} (h : (others == properties) = true)
    (hentries : List.Forall₂ (fun entry definition => definition.1 = entry.1 ∧
      ∀ other, (other == entry.2) = true → ∃ read, (ofJson other).Defines names read ∧
        (read == definition.2) = true) properties definitions) :
    ∃ reads, DefinesAll names (ofMembers others) reads ∧ (reads == definitions) = true := by
  induction hentries generalizing others with
  | nil =>
      cases others with
      | nil => exact ⟨[], rfl, rfl⟩
      | cons => cases h
  | @cons entry definition _ _ hentry _ ih =>
      cases others with
      | nil => cases h
      | cons other others =>
          rw [List.cons_beq_cons, Bool.and_eq_true, pair_beq_iff, beq_iff_eq] at h
          obtain ⟨read, hread, hsame⟩ := hentry.2 other.2 h.1.2
          obtain ⟨reads, hreads, hrest⟩ := ih h.2
          refine ⟨(other.1, read) :: reads, ⟨read, reads, hread, hreads, rfl⟩, ?_⟩
          rw [List.cons_beq_cons, Bool.and_eq_true, pair_beq_iff, beq_iff_eq]
          exact ⟨⟨h.1.1.trans hentry.1.symm, hsame⟩, hrest⟩

/-- A JSON value that equals one that declares a definition declares an equal definition. -/
theorem exists_defines_of_beq {json other : Json} {definition : Definition}
    (h : (ofJson json).Defines names definition) (hsame : (other == json) = true) :
    ∃ read, (ofJson other).Defines names read ∧ (read == definition) = true := by
  suffices ∀ other, (other == json) = true →
      ∃ read, (ofJson other).Defines names read ∧ (read == definition) = true from this other hsame
  refine definesInduction ?reference ?primitive ?untypedObject ?typedObject ?array h
  case reference =>
    intro members id type htype hnames other hsame
    obtain ⟨others, rfl, hmembers⟩ := Json.exists_object_of_beq hsame
    rw [ofJson_object (lookup_string_of_beq hmembers htype), ofType_reference]
    exact ⟨_, ⟨type, hnames, rfl⟩, Definition.beq_iff.2
      ⟨BEq.rfl, congruent_annotations hmembers⟩⟩
  case primitive =>
    intro members type htype hreference hobject harray other hsame
    obtain ⟨others, rfl, hmembers⟩ := Json.exists_object_of_beq hsame
    rw [ofJson_object (lookup_string_of_beq hmembers htype),
      ofType_primitive hreference hobject harray]
    exact ⟨_, rfl, Definition.beq_iff.2 ⟨BEq.rfl, congruent_annotations hmembers⟩⟩
  case untypedObject =>
    intro members htype hproperties other hsame
    obtain ⟨others, rfl, hmembers⟩ := Json.exists_object_of_beq hsame
    rw [ofJson_object (lookup_string_of_beq hmembers htype),
      lookup_none_of_beq hmembers hproperties, Option.map_none, ofType_untypedObject]
    exact ⟨_, rfl, Definition.beq_iff.2 ⟨BEq.rfl, congruent_annotations hmembers⟩⟩
  case typedObject =>
    intro members properties definitions htype hproperties hentries other hsame
    obtain ⟨others, rfl, hmembers⟩ := Json.exists_object_of_beq hsame
    obtain ⟨value, hvalue, hobject⟩ := exists_lookup_of_beq hmembers hproperties
    obtain ⟨others', rfl, hproperties'⟩ := Json.exists_object_of_beq hobject
    obtain ⟨reads, hreads, hequal⟩ := exists_definesAll_of_beq hproperties' hentries
    rw [ofJson_object (lookup_string_of_beq hmembers htype), hvalue, Option.map_some, ofObject?,
      ofType_typedObject]
    exact ⟨_, ⟨reads, hreads, rfl⟩, Definition.beq_iff.2
      ⟨Kind.typedObject_beq.2 ⟨hequal, required_eq_of_beq hmembers, additional_eq_of_beq hmembers⟩,
        congruent_annotations hmembers⟩⟩
  case array =>
    intro members items inner htype hitems hinner other hsame
    obtain ⟨others, rfl, hmembers⟩ := Json.exists_object_of_beq hsame
    obtain ⟨value, hvalue, hsame⟩ := exists_lookup_of_beq hmembers hitems
    obtain ⟨read, hread, hequal⟩ := hinner value hsame
    rw [ofJson_object (lookup_string_of_beq hmembers htype), hvalue, Option.map_some, ofType_array]
    exact ⟨_, ⟨read, hread, rfl⟩, Definition.beq_iff.2
      ⟨hequal, congruent_annotations hmembers⟩⟩

end Schema

end AppManifest
