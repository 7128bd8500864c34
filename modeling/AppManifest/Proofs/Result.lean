import AppManifest.Proofs.Table

/-!
# Results that may be errors

A sequence gives a value, or an error, exactly if its parts do. Where the error does not matter,
what is left of a result is the value, if it is one (`Except.toOption`), and sequences are compared
part by part.
-/

namespace AppManifest

/-- A sequence gives a result exactly if its first part gives one from which its second part gives
it. -/
theorem bind_eq_ok_iff {ε α β : Type} {first : Except ε α} {next : α → Except ε β} {value : β} :
    (first >>= next) = .ok value ↔ ∃ inner, first = .ok inner ∧ next inner = .ok value := by
  cases first with
  | ok inner =>
      constructor
      · exact fun h => ⟨inner, rfl, h⟩
      · rintro ⟨_, hinner, h⟩
        cases hinner
        exact h
  | error error =>
      constructor
      · intro h
        cases h
      · rintro ⟨_, h, -⟩
        cases h

/-- Returning a value gives just this value. -/
theorem pure_eq_ok_iff {ε α : Type} {inner value : α} :
    (pure inner : Except ε α) = .ok value ↔ value = inner :=
  ⟨fun h => (Except.ok.inj h).symm, fun h => congrArg Except.ok h.symm⟩

/-- Mapping a result gives a value exactly if the result is a value that is mapped to it. -/
theorem map_eq_ok_iff {ε α β : Type} {f : α → β} {result : Except ε α} {value : β} :
    result.map f = .ok value ↔ ∃ inner, result = .ok inner ∧ f inner = value := by
  cases result with
  | ok inner =>
      constructor
      · exact fun h => ⟨inner, rfl, Except.ok.inj h⟩
      · rintro ⟨_, hinner, rfl⟩
        cases hinner
        rfl
  | error error =>
      constructor
      · intro h
        cases h
      · rintro ⟨_, h, -⟩
        cases h

/-- What is made of a result is made of a value. -/
theorem bind_pure_eq_ok_iff {ε α β : Type} {first : Except ε α} {f : α → β} {value : β} :
    (first >>= fun inner => pure (f inner)) = .ok value ↔
      ∃ inner, first = .ok inner ∧ value = f inner :=
  bind_eq_ok_iff.trans (exists_congr fun _ => and_congr_right fun _ => pure_eq_ok_iff)

/-- The results of a list are those of its items, one by one. -/
theorem forall₂_of_mapM_eq_ok {ε α β : Type} {f : α → Except ε β} {items : List α}
    {values : List β} (h : items.mapM f = .ok values) :
    List.Forall₂ (fun item value => f item = .ok value) items values := by
  induction items generalizing values with
  | nil =>
      cases h
      exact .nil
  | cons item rest ih =>
      rw [List.mapM_cons] at h
      obtain ⟨first, hfirst, h⟩ := bind_eq_ok_iff.1 h
      obtain ⟨others, hothers, rfl⟩ := bind_pure_eq_ok_iff.1 h
      exact .cons hfirst (ih hothers)

/-- Each of the results of a list is the result of one of its items. -/
theorem exists_of_mapM_eq_ok {ε α β : Type} {f : α → Except ε β} {items : List α} {values : List β}
    (h : items.mapM f = .ok values) : ∀ value ∈ values, ∃ item ∈ items, f item = .ok value :=
  fun _ hvalue => exists_left_of_forall₂ (forall₂_of_mapM_eq_ok h) hvalue

/-- Writing each item of a list that can be written item by item. -/
theorem mapM_eq_ok {α β ε : Type} {action : α → Except ε β} {form : α → β}
    (h : ∀ value, action value = .ok (form value)) (values : List α) :
    values.mapM action = .ok (values.map form) := by
  induction values with
  | nil => rfl
  | cons head rest ih =>
      rw [List.mapM_cons, h head, ih]
      rfl

/-! ## Errors -/

/-- What is left of a result is a value exactly if the result is. -/
theorem toOption_eq_some_iff {ε α : Type} {result : Except ε α} {value : α} :
    result.toOption = some value ↔ result = .ok value := by
  cases result with
  | ok inner => exact ⟨fun h => congrArg Except.ok (Option.some.inj h), fun h => h ▸ rfl⟩
  | error error => exact ⟨nofun, nofun⟩

/-- What is left of a sequence is what is left of its second part after the value of the first. -/
theorem toOption_bind {ε α β : Type} (first : Except ε α) (next : α → Except ε β) :
    (first >>= next).toOption = first.toOption.bind fun value => (next value).toOption := by
  cases first <;> rfl

/-- What is left of a result whose value is replaced. -/
theorem toOption_map {ε α β : Type} (f : α → β) (result : Except ε α) :
    (result.map f).toOption = result.toOption.map f := by
  cases result <;> rfl

/-- Results for each of some values leave the same if they do one by one. -/
theorem toOption_mapM_eq {ε α β γ : Type} {f : α → Except ε γ} {g : β → Except ε γ}
    {values : List α} {others : List β}
    (h : List.Forall₂ (fun value other => (f value).toOption = (g other).toOption) values others) :
    (values.mapM f).toOption = (others.mapM g).toOption := by
  induction h with
  | nil => rfl
  | cons hhead _ ih =>
      rw [List.mapM_cons, List.mapM_cons, toOption_bind, toOption_bind, hhead]
      simp only [toOption_bind, ih]

end AppManifest
