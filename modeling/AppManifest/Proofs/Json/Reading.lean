import Mathlib.Data.List.Forall2
import AppManifest.Json.Reading
import AppManifest.Proofs.Table

/-!
# Reading values back

`Json.tree` is the tree of a JSON value, and `Reader.Gives read json value` says that a reader gives
a value for it as soon as there are as many levels as the value is deep. A value whose objects list
their names in ascending order is read back as it is (`Json.Ordered.gives`). Lists, tables and
structures are read part by part.
-/

namespace AppManifest

namespace Json

/-- Every object in the value lists its names in ascending order, as the reader lists them. -/
inductive Ordered : Json → Prop where
  | null : Ordered .null
  | bool (value : Bool) : Ordered (.bool value)
  | number (value : Number) : Ordered (.number value)
  | string (value : String) : Ordered (.string value)
  | array {items : List Json} : (∀ item ∈ items, Ordered item) → Ordered (.array items)
  | object {members : Entries Json} :
      members.Ascending → (∀ entry ∈ members, Ordered entry.2) → Ordered (.object members)

mutual

/-- How deep arrays and objects are nested in a value. -/
def depth : Json → Nat
  | .null | .bool _ | .number _ | .string _ => 0
  | .array items => itemsDepth items + 1
  | .object members => membersDepth members + 1

/-- How deep arrays and objects are nested in the deepest of some values. -/
def itemsDepth : List Json → Nat
  | [] => 0
  | item :: rest => max item.depth (itemsDepth rest)

/-- How deep arrays and objects are nested in the deepest of some named values. -/
def membersDepth : List (String × Json) → Nat
  | [] => 0
  | (_, value) :: rest => max value.depth (membersDepth rest)

end

mutual

/-- The tree of a value. -/
def tree : Json → Tree
  | .null => .scalar .null
  | .bool value => .scalar (.bool value)
  | .number value => .scalar (.number (some value))
  | .string value => .scalar (.string (some value))
  | .array items => .array (itemTrees items) true
  | .object members => .object (memberTrees members) true

/-- The trees of some values. -/
def itemTrees : List Json → List Tree
  | [] => []
  | item :: rest => item.tree :: itemTrees rest

/-- The trees of some named values. -/
def memberTrees : List (String × Json) → List (Option String × Tree)
  | [] => []
  | (name, value) :: rest => (some name, value.tree) :: memberTrees rest

end

/-- An item is not deeper than the deepest item. -/
theorem depth_le_itemsDepth {items : List Json} {item : Json} (h : item ∈ items) :
    item.depth ≤ itemsDepth items := by
  induction items with
  | nil => cases h
  | cons head rest ih =>
      rw [itemsDepth]
      rcases List.mem_cons.1 h with rfl | h
      · omega
      · have := ih h
        omega

/-- A member is not deeper than the deepest member. -/
theorem depth_le_membersDepth {members : Entries Json} {entry : String × Json}
    (h : entry ∈ members) : entry.2.depth ≤ membersDepth members := by
  induction members with
  | nil => cases h
  | cons head rest ih =>
      rw [membersDepth]
      rcases List.mem_cons.1 h with rfl | h
      · omega
      · have := ih h
        omega

mutual

/-- The tree of a value has no fault. -/
theorem isWellFormed_tree : (json : Json) → json.tree.isWellFormed = true
  | .null | .bool _ | .number _ | .string _ => rfl
  | .array items => by
      rw [tree, Tree.isWellFormed, areWellFormed_itemTrees items]
      rfl
  | .object members => by
      rw [tree, Tree.isWellFormed, areWellFormed_memberTrees members]
      rfl

/-- The trees of some values have no faults. -/
theorem areWellFormed_itemTrees :
    (items : List Json) → Tree.areWellFormed (itemTrees items) = true
  | [] => rfl
  | item :: rest => by
      rw [itemTrees, Tree.areWellFormed, item.isWellFormed_tree, areWellFormed_itemTrees rest]
      rfl

/-- The trees of some named values have no faults. -/
theorem areWellFormed_memberTrees :
    (members : List (String × Json)) → Tree.areMembersWellFormed (memberTrees members) = true
  | [] => rfl
  | (_, value) :: rest => by
      rw [memberTrees, Tree.areMembersWellFormed, value.isWellFormed_tree,
        areWellFormed_memberTrees rest]
      rfl

end

/-- The trees of items give the items if each gives its item. -/
theorem values?_itemTrees {levels : Nat} {items : List Json}
    (h : ∀ item ∈ items, item.tree.value? levels = some item) :
    Tree.values? levels (itemTrees items) = some items := by
  induction items with
  | nil => rfl
  | cons item rest ih =>
      rw [itemTrees, Tree.values?, h item List.mem_cons_self,
        ih fun other hother => h other (List.mem_cons_of_mem _ hother)]
      rfl

/-- The trees of members give the members if each gives its value. -/
theorem memberValues?_memberTrees {levels : Nat} {members : Entries Json}
    (h : ∀ entry ∈ members, entry.2.tree.value? levels = some entry.2) :
    Tree.memberValues? levels (memberTrees members) = some members := by
  induction members with
  | nil => rfl
  | cons entry rest ih =>
      rw [memberTrees, Tree.memberValues?, Option.bind_some, h entry List.mem_cons_self,
        Option.bind_some, ih fun other hother => h other (List.mem_cons_of_mem _ hother)]
      rfl

/-- The tree of an ordered value gives the value on as many levels as it is deep. -/
theorem Ordered.value?_tree {json : Json} (h : json.Ordered) {levels : Nat}
    (hdepth : json.depth ≤ levels) : json.tree.value? levels = some json := by
  induction h generalizing levels with
  | null | bool | number | string => cases levels <;> rfl
  | @array items _ ih =>
      rw [depth] at hdepth
      obtain ⟨inner, rfl⟩ : ∃ inner, levels = inner + 1 := ⟨levels - 1, by omega⟩
      have hitems : Tree.values? inner (itemTrees items) = some items :=
        values?_itemTrees fun item hitem => ih item hitem (by
          have := depth_le_itemsDepth hitem
          omega)
      rw [tree, Tree.value?]
      simp [hitems]
  | @object members hascending _ ih =>
      rw [depth] at hdepth
      obtain ⟨inner, rfl⟩ : ∃ inner, levels = inner + 1 := ⟨levels - 1, by omega⟩
      have hmembers : Tree.memberValues? inner (memberTrees members) = some members :=
        memberValues?_memberTrees fun entry hentry => ih entry hentry (by
          have := depth_le_membersDepth hentry
          omega)
      rw [tree, Tree.value?]
      simp [hmembers, hascending.ofList_eq]

end Json

/-- A reader gives a value for a JSON value on as many levels as it is deep, or more. -/
def Reader.Gives {α : Type} (read : Reader α) (json : Json) (value : α) : Prop :=
  ∀ levels, json.depth ≤ levels → read levels json.tree = .ok value

namespace Reader

variable {α β σ : Type}

/-- A string is read as it is. -/
theorem gives_string (value : String) : Reader.string.Gives (.string value) value :=
  fun _ _ => rfl

/-- An ordered value is read as it is. -/
theorem gives_any {json : Json} (h : json.Ordered) : Reader.any.Gives json json := by
  intro levels hdepth
  rw [Reader.any, h.value?_tree hdepth]

/-- What is not null is read as something. -/
theorem Gives.optional {read : Reader α} {json : Json} {value : α} (h : read.Gives json value)
    (hsome : json ≠ .null) : (Reader.optional read).Gives json (some value) := by
  intro levels hdepth
  have hread := h levels hdepth
  cases json with
  | null => exact (hsome rfl).elim
  | bool | number | string | array | object =>
      simp only [Json.tree] at hread ⊢
      simp [Reader.optional, hread, Except.map]

/-- Items are read one by one. -/
theorem gives_list {read : Reader α} {items : List Json} {values : List α}
    (h : List.Forall₂ read.Gives items values) :
    (Reader.list read).Gives (.array items) values := by
  intro levels hdepth
  rw [Json.depth] at hdepth
  obtain ⟨inner, rfl⟩ : ∃ inner, levels = inner + 1 := ⟨levels - 1, by omega⟩
  have hitems : (Json.itemTrees items).mapM (read inner) = .ok values := by
    replace hdepth : Json.itemsDepth items ≤ inner := by omega
    induction h with
    | nil => rfl
    | cons hhead _ ih =>
        rw [Json.itemsDepth] at hdepth
        rw [Json.itemTrees, List.mapM_cons, hhead inner (by omega), ih (by omega)]
        rfl
  rw [Json.tree, Reader.list]
  show ((Json.itemTrees items).mapM (read inner) >>= fun values =>
    if true then Except.ok values else .error .malformed) = _
  rw [hitems]
  rfl

/-- Named values are read one by one. -/
theorem gives_table {read : Reader α} {values : Table Json} {results : Table α}
    (h : List.Forall₂ (fun entry result => result.1 = entry.1 ∧ read.Gives entry.2 result.2)
      values.entries results.entries) :
    (Reader.table read).Gives (.ofTable values) results := by
  intro levels hdepth
  rw [Json.ofTable, Json.depth] at hdepth
  obtain ⟨inner, rfl⟩ : ∃ inner, levels = inner + 1 := ⟨levels - 1, by omega⟩
  have hmembers (members : Entries Json) (entries : Entries α)
      (h : List.Forall₂ (fun entry result => result.1 = entry.1 ∧ read.Gives entry.2 result.2)
        members entries) (hdepth : Json.membersDepth members ≤ inner) :
      (Json.memberTrees members).mapM (entry read inner) = .ok entries := by
    induction h with
    | nil => rfl
    | @cons first result _ _ hhead _ ih =>
        obtain ⟨name, value⟩ := first
        obtain ⟨_, result⟩ := result
        obtain ⟨rfl, hgives⟩ := hhead
        rw [Json.membersDepth] at hdepth
        have hvalue : value.depth ≤ inner := by omega
        rw [Json.memberTrees, List.mapM_cons, ih (by omega), entry, hgives inner hvalue]
        rfl
  rw [Json.ofTable, Json.tree, Reader.table]
  show ((Json.memberTrees values.entries).mapM (entry read inner) >>= fun entries =>
    if true then Except.ok (Table.ofList entries) else .error .malformed) = _
  rw [hmembers values.entries results.entries h (by omega)]
  show Except.ok (Table.ofList results.entries) = _
  rw [Table.ext_entries (Table.entries_ofList results.ascending)]

/-- Strings are read as they are. -/
theorem gives_strings (values : List String) :
    (Reader.list Reader.string).Gives (.ofStrings values) values := by
  refine gives_list (List.forall₂_map_left_iff.2 (List.forall₂_same.2 fun value _ => ?_))
  exact gives_string value

/-- If each value of a table is read from what is written for it, the table is read from what is
written for its values. -/
theorem gives_table_map {δ : Type} {read : Reader α} {table : Table δ} {write : δ → Json}
    {form : δ → α} (h : ∀ name value, table.get? name = some value →
      read.Gives (write value) (form value)) :
    (Reader.table read).Gives (.ofTable (table.map write)) (table.map form) := by
  refine gives_table (List.forall₂_map_left_iff.2 (List.forall₂_map_right_iff.2
    (List.forall₂_same.2 fun entry hentry => ⟨rfl, ?_⟩)))
  exact h entry.1 entry.2 (Table.get?_eq_some_iff.2 hentry)

end Reader

namespace Layout

variable {σ : Type}

/-- Named values fill a structure, after the members of the names seen so far: each is a field that
was not seen, or is not declared, and no field that has to be there is left. -/
inductive Fills (layout : Layout σ) : List String → σ → Entries Json → σ → Prop where
  | done {seen value} : layout.missing? seen = none → Fills layout seen value [] value
  | field {α : Type} {seen value name json rest final required read} {set : α → σ → σ} {inner : α} :
      layout.field? name = some ⟨name, required, fun levels tree => (read levels tree).map set⟩ →
      seen.contains name = false → Reader.Gives read json inner →
      Fills layout (name :: seen) (set inner value) rest final →
      Fills layout seen value ((name, json) :: rest) final
  | ignored {seen value name json rest final} :
      layout.field? name = none → Fills layout seen value rest final →
      Fills layout seen value ((name, json) :: rest) final

/-- Members still fill a structure if names of fields that may be left out count as not seen. -/
theorem Fills.of_fewer {layout : Layout σ} {seen fewer : List String} {value final : σ}
    {members : Entries Json} (h : layout.Fills seen value members final)
    (hfewer : ∀ name, fewer.contains name = true → seen.contains name = true)
    (hrequired : ∀ field ∈ layout.fields, field.required = true →
      seen.contains field.name = true → fewer.contains field.name = true) :
    layout.Fills fewer value members final := by
  induction h generalizing fewer with
  | done hmissing =>
      refine .done (List.find?_eq_none.2 fun field hfield hmissed => ?_)
      obtain ⟨hneeded, hnot⟩ := Bool.and_eq_true_iff.1 hmissed
      have hseen := List.find?_eq_none.1 hmissing field hfield
      rw [hneeded, Bool.true_and, Bool.not_eq_true', Bool.not_eq_false] at hseen
      rw [hrequired field hfield hneeded hseen] at hnot
      cases hnot
  | field hfield hseen hgives _ ih =>
      refine .field hfield (Bool.eq_false_iff.2 fun hcontains => ?_) hgives (ih ?_ ?_)
      · rw [hfewer _ hcontains] at hseen
        cases hseen
      · intro other hother
        rw [List.contains_cons, Bool.or_eq_true] at hother ⊢
        exact hother.imp_right (hfewer other)
      · intro other hother hneeded hcontains
        rw [List.contains_cons, Bool.or_eq_true] at hcontains ⊢
        exact hcontains.imp_right (hrequired other hother hneeded)
  | ignored hfield _ ih => exact .ignored hfield (ih hfewer hrequired)

/-- A member that may be left out fills its field if it is there; if it is not, the structure has to
be as if it had been. -/
theorem Fills.member {layout : Layout σ} {α : Type} {seen : List String} {value final : σ}
    {name : String} {value? : Option Json} {rest : Entries Json} {read : Reader α}
    {set : α → σ → σ} {inner : α}
    (hfield : layout.field? name =
      some ⟨name, false, fun levels tree => (read levels tree).map set⟩)
    (hseen : seen.contains name = false)
    (hoptional : ∀ field ∈ layout.fields, field.required = true → field.name ≠ name)
    (hgives : ∀ json, value? = some json → read.Gives json inner)
    (hblank : value? = none → set inner value = value)
    (hrest : layout.Fills (name :: seen) (set inner value) rest final) :
    layout.Fills seen value (Json.member name value? ++ rest) final := by
  cases value? with
  | some json => exact .field hfield hseen (hgives json rfl) hrest
  | none =>
      -- the rest was filled as if the name had been seen
      rw [hblank rfl] at hrest
      refine hrest.of_fewer (fun other hother => ?_) (fun field hneeded hrequired hother => ?_)
      · rw [List.contains_cons, hother, Bool.or_true]
      · rw [List.contains_cons, Bool.or_eq_true, beq_iff_eq] at hother
        exact hother.resolve_left (hoptional field hneeded hrequired)

/-- A structure that members fill is read from them. -/
theorem Fills.readMembers_eq {layout : Layout σ} {seen : List String} {value final : σ}
    {members : Entries Json} (h : layout.Fills seen value members final) {levels : Nat}
    (hdepth : Json.membersDepth members ≤ levels) :
    layout.readMembers levels true seen value (Json.memberTrees members) = .ok final := by
  induction h with
  | done hmissing => simp [Json.memberTrees, readMembers, hmissing]
  | @field _ _ _ _ json _ _ _ _ _ _ hfield hseen hgives _ ih =>
      rw [Json.membersDepth] at hdepth
      have hjson : json.depth ≤ levels := by omega
      rw [Json.memberTrees, readMembers]
      simp only [hfield, hseen, hgives levels hjson]
      exact ih (by omega)
  | @ignored _ _ _ json _ _ hfield _ ih =>
      rw [Json.membersDepth] at hdepth
      rw [Json.memberTrees, readMembers]
      simp only [hfield, json.isWellFormed_tree]
      exact ih (by omega)

/-- A structure that members fill is read from the object of the members. -/
theorem Fills.gives {layout : Layout σ} {members : Entries Json} {value : σ}
    (h : layout.Fills [] layout.blank members value) :
    layout.read.Gives (.object members) value := by
  intro levels hdepth
  rw [Json.depth] at hdepth
  obtain ⟨inner, rfl⟩ : ∃ inner, levels = inner + 1 := ⟨levels - 1, by omega⟩
  exact h.readMembers_eq (by omega)

end Layout

end AppManifest
