import AppManifest.Json.Reading
import AppManifest.Proofs.Result

/-!
# Trees from which something is read

When a reader gives a value, the tree is of the kind that it reads, everything in it is complete,
and the value is made of what is read from the parts. For each reader one lemma says all of this;
for a structure, one for each step through its members or items.
-/

namespace AppManifest

namespace Reader

variable {α : Type} {read : Reader α} {levels : Nat} {tree : Tree}

/-- What is given inside an array or object is given with one level less. -/
theorem exists_of_enter {inside : Nat → Except ReadError α} {value : α}
    (h : enter levels inside = .ok value) : ∃ inner, inside inner = .ok value := by
  cases levels with
  | zero => cases h
  | succ inner => exact ⟨inner, h⟩

/-- What may be null is read from null, or as what else it may be. -/
theorem of_optional {value? : Option α} (h : Reader.optional read levels tree = .ok value?) :
    tree = .scalar .null ∧ value? = none ∨
      ∃ value, read levels tree = .ok value ∧ value? = some value := by
  rw [Reader.optional.eq_def] at h
  split at h
  next => exact .inl ⟨rfl, (Except.ok.inj h).symm⟩
  next =>
    obtain ⟨value, hvalue, hsome⟩ := map_eq_ok_iff.1 h
    exact .inr ⟨value, hvalue, hsome.symm⟩

/-- A list is read from a complete array, each value from an item. -/
theorem exists_of_list {values : List α} (h : Reader.list read levels tree = .ok values) :
    ∃ items inner, tree = .array items true ∧
      List.Forall₂ (fun item value => read inner item = .ok value) items values := by
  rw [Reader.list.eq_def] at h
  split at h
  next items closed =>
    obtain ⟨inner, h⟩ := exists_of_enter h
    obtain ⟨others, hothers, h⟩ := bind_eq_ok_iff.1 h
    split at h
    next hclosed =>
      cases h
      exact ⟨items, inner, by rw [hclosed], forall₂_of_mapM_eq_ok hothers⟩
    next => cases h
  next => cases h

/-- A named value is read from a member under its name. -/
theorem of_entry {member : Option String × Tree} {result : String × α}
    (h : entry read levels member = .ok result) :
    member.1 = some result.1 ∧ read levels member.2 = .ok result.2 := by
  obtain ⟨name?, inner⟩ := member
  cases name? with
  | none => cases h
  | some name =>
      obtain ⟨value, hvalue, rfl⟩ := map_eq_ok_iff.1 h
      exact ⟨rfl, hvalue⟩

/-- A table is read from a complete object, each named value from a member. -/
theorem exists_of_table {table : Table α} (h : Reader.table read levels tree = .ok table) :
    ∃ members inner entries, tree = .object members true ∧ table = .ofList entries ∧
      List.Forall₂ (fun member entry => member.1 = some entry.1 ∧
        read inner member.2 = .ok entry.2) members entries := by
  rw [Reader.table.eq_def] at h
  split at h
  next members closed =>
    obtain ⟨inner, h⟩ := exists_of_enter h
    obtain ⟨entries, hentries, h⟩ := bind_eq_ok_iff.1 h
    split at h
    next hclosed =>
      cases h
      exact ⟨members, inner, entries, by rw [hclosed], rfl,
        (forall₂_of_mapM_eq_ok hentries).imp fun _ _ => of_entry⟩
    next => cases h
  next => cases h

end Reader

namespace Layout

variable {σ : Type} {layout : Layout σ} {levels : Nat} {closed : Bool} {seen : List String}
  {value final : σ}

/-- The field of a name is declared under it. -/
theorem mem_of_field? {name : String} {field : Field σ} (h : layout.field? name = some field) :
    field ∈ layout.fields ∧ field.name = name :=
  ⟨List.mem_of_find?_eq_some h, by simpa using List.find?_some h⟩

/-- Behind the last member the object ends, nothing is missing, and nothing is done any more. -/
theorem of_readMembers_nil (h : layout.readMembers levels closed seen value [] = .ok final) :
    closed = true ∧ layout.missing? seen = none ∧ final = value := by
  rw [readMembers] at h
  cases closed with
  | false => cases h
  | true =>
      cases hmissing : layout.missing? seen with
      | none =>
          rw [hmissing] at h
          exact ⟨rfl, rfl, (Except.ok.inj h).symm⟩
      | some field =>
          rw [hmissing] at h
          cases h

/-- A member is undeclared and without fault, or fills a field that was not given before. -/
theorem of_readMembers_cons {member : Option String × Tree} {rest : List (Option String × Tree)}
    (h : layout.readMembers levels closed seen value (member :: rest) = .ok final) :
    ∃ name, member.1 = some name ∧
      ((layout.field? name = none ∧ member.2.isWellFormed = true ∧
          layout.readMembers levels closed seen value rest = .ok final) ∨
        ∃ field fill, layout.field? name = some field ∧ seen.contains name = false ∧
          field.read levels member.2 = .ok fill ∧
          layout.readMembers levels closed (name :: seen) (fill value) rest = .ok final) := by
  obtain ⟨name?, tree⟩ := member
  cases name? with
  | none => cases h
  | some name =>
      refine ⟨name, rfl, ?_⟩
      rw [readMembers] at h
      split at h
      next hfield =>
        split at h
        next htree => exact .inl ⟨hfield, htree, h⟩
        next => cases h
      next field hfield =>
        split at h
        next => cases h
        next hseen =>
          obtain ⟨fill, hfill, hrest⟩ := bind_eq_ok_iff.1 h
          exact .inr ⟨field, fill, hfield, Bool.eq_false_iff.2 hseen, hfill, hrest⟩

/-- Behind the last item the array ends, and nothing is done any more. -/
theorem of_readItems_nil {fields : List (Field σ)}
    (h : layout.readItems levels closed value fields [] = .ok final) :
    closed = true ∧ final = value := by
  induction fields with
  | nil =>
      rw [readItems] at h
      cases closed with
      | false => cases h
      | true => exact ⟨rfl, (Except.ok.inj h).symm⟩
  | cons field rest ih =>
      rw [readItems] at h
      split at h
      next => cases h
      next =>
        split at h
        next => cases h
        next => exact ih h

/-- An item fills the first field that is left. -/
theorem of_readItems_cons {fields : List (Field σ)} {item : Tree} {items : List Tree}
    (h : layout.readItems levels closed value fields (item :: items) = .ok final) :
    ∃ field rest fill, fields = field :: rest ∧ field.read levels item = .ok fill ∧
      layout.readItems levels closed (fill value) rest items = .ok final := by
  cases fields with
  | nil => cases h
  | cons field rest =>
      obtain ⟨fill, hfill, hrest⟩ := bind_eq_ok_iff.1 h
      exact ⟨field, rest, fill, rfl, hfill, hrest⟩

end Layout

end AppManifest
