import AppManifest.Json.Basic
import AppManifest.Proofs.Table

/-!
# Members that may be left out

Most objects of a manifest leave members out. `Json.members` lists those of some named values that
are there; a name is looked up in the list as it was in the named values, and ascending names stay
ascending (`Json.lookup_members`, `Json.ascending_members`).
-/

namespace AppManifest

namespace Json

/-- The members of these names whose values are there. -/
def members (values : List (String × Option Json)) : Entries Json :=
  values.filterMap fun entry => entry.2.map fun value => (entry.1, value)

@[simp]
theorem members_nil : members [] = [] :=
  rfl

/-- A member that may be left out is written before the members that follow it. -/
theorem members_cons (name : String) (value? : Option Json) (rest : List (String × Option Json)) :
    members ((name, value?) :: rest) = member name value? ++ members rest := by
  cases value? <;> rfl

/-- A name is looked up in the named values. -/
theorem lookup_members {values : List (String × Option Json)} (h : (values.map Prod.fst).Nodup)
    (name : String) : (members values).lookup name = (values.lookup name).join := by
  induction values with
  | nil => rfl
  | cons entry rest ih =>
      obtain ⟨hnew, hrest⟩ := List.nodup_cons.1 h
      obtain ⟨key, value?⟩ := entry
      rw [Entries.lookup_cons]
      cases value? with
      | none =>
          show (members rest).lookup name = _
          rw [ih hrest]
          split
          next heq =>
            rw [Entries.lookup_eq_none_iff.2 (heq ▸ hnew)]
            rfl
          next => rfl
      | some value =>
          show ((key, value) :: members rest : Entries Json).lookup name = _
          rw [Entries.lookup_cons, ih hrest]
          split <;> rfl

/-- A member that may be left out is not found under another name. -/
theorem lookup_member_of_ne {name key : String} (h : key ≠ name) (value? : Option Json) :
    (member name value?).lookup key = none := by
  cases value? with
  | none => rfl
  | some value => rw [member, Entries.lookup_cons, if_neg h, List.lookup_nil]

/-- The names of the members are among the listed ones, in the same order. -/
theorem names_members (values : List (String × Option Json)) :
    (Entries.names (members values)).Sublist (values.map Prod.fst) := by
  induction values with
  | nil => exact .slnil
  | cons entry rest ih =>
      obtain ⟨key, value?⟩ := entry
      cases value? with
      | none => exact .cons key ih
      | some value => exact .cons_cons key ih

/-- The members of ascending names are ascending. -/
theorem ascending_members {values : List (String × Option Json)}
    (h : (values.map Prod.fst).Pairwise (· < ·)) : (members values).Ascending :=
  List.pairwise_map.1 (h.sublist (names_members values))

end Json

end AppManifest
