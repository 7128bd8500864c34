import AppManifest.Proofs.Table

/-!
# Equality as an equivalence

Definitions are compared by a function into the booleans that takes both floating-point zeros for
equal, so equal definitions need not be the same. Such an equality is an equivalence
(`EquivBEq`) if all that equals one thing is equal (`equivBEq_of_euclid`). Pairs, options, lists and
tables are compared part by part, and their equality is an equivalence if that of their parts is;
tables are equal if equal values are found under each name (`Table.beq_of_get?`).
-/

namespace AppManifest

universe u v

variable {α : Type u} {β : Type v} [BEq α] [BEq β]

/-- An equality is an equivalence if each thing equals itself and things that equal one thing are
equal. -/
theorem equivBEq_of_euclid [ReflBEq α]
    (h : ∀ {first second third : α}, (first == second) = true → (first == third) = true →
      (second == third) = true) : EquivBEq α where
  symm hsame := h hsame BEq.rfl
  trans hsame hsame' := h (h hsame BEq.rfl) hsame'

/-- An equality is an equivalence if it is that of keys. -/
theorem equivBEq_of_key [EquivBEq β] (key : α → β)
    (h : ∀ first second : α, (first == second) = (key first == key second)) : EquivBEq α where
  rfl {value} := (h value value).trans BEq.rfl
  symm hsame := by
    rw [h] at hsame ⊢
    exact BEq.symm hsame
  trans hsame hsame' := by
    rw [h] at hsame hsame' ⊢
    exact BEq.trans hsame hsame'

/-- Pairs are equal exactly if both components are. -/
theorem pair_beq_iff {first second : α × β} :
    (first == second) = true ↔ (first.1 == second.1) = true ∧ (first.2 == second.2) = true := by
  obtain ⟨left, right⟩ := first
  obtain ⟨left', right'⟩ := second
  exact Bool.and_eq_true_iff

instance equivBEq_pair [EquivBEq α] [EquivBEq β] : EquivBEq (α × β) :=
  equivBEq_of_euclid fun h h' => by
    rw [pair_beq_iff] at h h' ⊢
    exact ⟨BEq.trans (BEq.symm h.1) h'.1, BEq.trans (BEq.symm h.2) h'.2⟩

/-- Options are equal exactly if both are empty or their values are equal. -/
theorem option_beq_iff {first second : Option α} :
    (first == second) = true ↔
      Option.Rel (fun value other => (value == other) = true) first second := by
  cases first <;> cases second <;> simp

/-- Lists are equal exactly if they are equal item by item. -/
theorem list_beq_iff {first second : List α} :
    (first == second) = true ↔
      List.Forall₂ (fun value other => (value == other) = true) first second := by
  induction first generalizing second with
  | nil => cases second <;> simp
  | cons head rest ih => cases second <;> simp [ih]

instance equivBEq_option [EquivBEq α] : EquivBEq (Option α) :=
  equivBEq_of_euclid fun {first second third} h h' => by
    cases first <;> cases second <;> cases third <;> simp_all
    exact BEq.trans (BEq.symm h) h'

instance equivBEq_list [EquivBEq α] : EquivBEq (List α) :=
  equivBEq_of_euclid fun {first second third} h h' => by
    rw [list_beq_iff] at h h' ⊢
    induction h generalizing third with
    | nil => exact h'
    | cons hhead _ ih =>
        cases h' with
        | cons hhead' hrest' => exact .cons (BEq.trans (BEq.symm hhead) hhead') (ih hrest')

/-- Equal options are continued alike by what does not tell equal values apart. -/
theorem option_bind_eq_of_beq {γ : Type u} {next : α → Option γ} {first second : Option α}
    (h : (first == second) = true)
    (hnext : ∀ {value other : α}, (value == other) = true → next value = next other) :
    first.bind next = second.bind next := by
  rw [option_beq_iff] at h
  cases h with
  | none => rfl
  | some hsame => exact hnext hsame

/-- A function that has equal values at equal things. -/
def Congruent (f : α → β) : Prop :=
  ∀ ⦃first second : α⦄, (first == second) = true → (f first == f second) = true

namespace Congruent

variable {f : α → β}

/-- Equal lists are mapped to equal lists. -/
theorem list (h : Congruent f) : Congruent (List.map f) := by
  intro first second hsame
  rw [list_beq_iff, List.forall₂_map_left_iff, List.forall₂_map_right_iff]
  exact (list_beq_iff.1 hsame).imp h

end Congruent

/-- Equal lists are appended to equal lists. -/
theorem list_append_beq {first second first' second' : List α} (h : (first == second) = true)
    (h' : (first' == second') = true) : (first ++ first' == second ++ second') = true :=
  list_beq_iff.2 (List.rel_append (list_beq_iff.1 h) (list_beq_iff.1 h'))

namespace Table

variable {first second : Table α}

/-- Tables are equal exactly if their entries are. -/
theorem beq_eq (first second : Table α) :
    (first == second) = (first.entries == second.entries) := by
  show (first.entries.length == second.entries.length && first.entries == second.entries) = _
  cases hentries : first.entries == second.entries with
  | false => exact Bool.and_false _
  | true => simp [(list_beq_iff.1 hentries).length_eq]

instance [EquivBEq α] : EquivBEq (Table α) :=
  equivBEq_of_key Table.entries beq_eq

/-- Equal tables are mapped to equal tables. -/
theorem congruent_map {f : α → β} (hf : Congruent f) : Congruent (Table.map f) := by
  intro first second h
  rw [beq_eq] at h ⊢
  have hentries : Congruent fun entry : String × α => (entry.1, f entry.2) :=
    fun _ _ hentry => pair_beq_iff.2 ((pair_beq_iff.1 hentry).imp_right fun h => hf h)
  exact hentries.list h

/-- Equal tables have entries for the same names. -/
theorem names_eq_of_beq (h : (first == second) = true) :
    first.names = second.names := by
  rw [beq_eq, list_beq_iff] at h
  exact (map_eq_of_forall₂ (h.imp fun _ _ hentry =>
    (beq_iff_eq.1 (pair_beq_iff.1 hentry).1).symm)).symm

/-- Tables with equal values under each name are equal. -/
theorem beq_of_get? (h : ∀ name, (first.get? name == second.get? name) = true) :
    (first == second) = true := by
  have hnames : first.entries.map Prod.fst = second.entries.map Prod.fst := by
    refine names_eq_of_mem_iff fun name => ?_
    have hname := h name
    rw [mem_names_iff, mem_names_iff]
    cases hfirst : first.get? name <;> cases hsecond : second.get? name <;> simp_all
  rw [beq_eq, list_beq_iff, List.forall₂_iff_get]
  refine ⟨by simpa using congrArg List.length hnames, fun position hfirst hsecond => ?_⟩
  have hname : first.entries[position].1 = second.entries[position].1 := by
    have hget := congrArg (fun names => names[position]?) hnames
    simpa [hfirst, hsecond] using hget
  have hfound : first.get? first.entries[position].1 = some first.entries[position].2 :=
    get?_eq_some_iff.2 (List.getElem_mem hfirst)
  have hfound' : second.get? first.entries[position].1 = some second.entries[position].2 :=
    hname ▸ get?_eq_some_iff.2 (List.getElem_mem hsecond)
  have hvalue := h first.entries[position].1
  rw [hfound, hfound', Option.some_beq_some] at hvalue
  exact pair_beq_iff.2 ⟨beq_iff_eq.2 hname, hvalue⟩

end Table

end AppManifest
