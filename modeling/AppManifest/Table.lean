/-!
# Tables of named entries

A table holds at most one value for each name and lists its entries with the names in ascending
code point order. The order is a field of the type, so two tables with the same lookups list the
same entries (`Table.ext_get?`). Types that contain themselves use plain lists of entries, which the
operations in `Entries` keep in the same order.
-/

namespace AppManifest

universe u v

/-- Named values in the order in which they are listed. -/
abbrev Entries (α : Type u) := List (String × α)

namespace Entries

variable {α : Type u} {β : Type v}

/-- The names are strictly ascending, hence distinct. -/
def Ascending (entries : Entries α) : Prop :=
  entries.Pairwise fun first second => first.1 < second.1

/-- Puts a value under a name, in place of the value the name had, if it had one. -/
def insert (name : String) (value : α) : Entries α → Entries α
  | [] => [(name, value)]
  | entry :: rest =>
      if name < entry.1 then (name, value) :: entry :: rest
      else if entry.1 < name then entry :: insert name value rest
      else (name, value) :: rest

/-- The entries in ascending order; of several values under one name, the last is kept. -/
def ofList (entries : List (String × α)) : Entries α :=
  entries.foldl (fun kept entry => insert entry.1 entry.2 kept) []

/-- The names, in order. -/
def names (entries : Entries α) : List String :=
  entries.map Prod.fst

/-- Replaces every value and keeps the names. -/
def mapValues (f : α → β) (entries : Entries α) : Entries β :=
  entries.map fun entry => (entry.1, f entry.2)

/-- Neither of two different names is above the other only if they are equal. -/
theorem eq_of_not_lt {first second : String} (h : ¬ first < second) (h' : ¬ second < first) :
    first = second :=
  String.le_antisymm (String.not_lt.1 h') (String.not_lt.1 h)

/-- Inserting adds at most the inserted entry. -/
theorem mem_insert {name : String} {value : α} {entry : String × α} {entries : Entries α}
    (h : entry ∈ insert name value entries) : entry = (name, value) ∨ entry ∈ entries := by
  induction entries with
  | nil => exact .inl (List.mem_singleton.1 h)
  | cons head rest ih =>
      rw [insert] at h
      split at h
      · exact List.mem_cons.1 h
      · split at h
        · rcases List.mem_cons.1 h with h | h
          · exact .inr (h ▸ List.mem_cons_self)
          · exact (ih h).imp id (List.mem_cons_of_mem _)
        · rcases List.mem_cons.1 h with h | h
          · exact .inl h
          · exact .inr (List.mem_cons_of_mem _ h)

/-- Inserting keeps the names ascending. -/
theorem Ascending.insert {name : String} {value : α} {entries : Entries α}
    (h : Ascending entries) : Ascending (Entries.insert name value entries) := by
  induction entries with
  | nil => exact List.pairwise_singleton _ _
  | cons head rest ih =>
      have hrest := List.pairwise_cons.1 h
      rw [Entries.insert]
      split
      next hlt =>
        refine List.pairwise_cons.2 ⟨fun entry hentry => ?_, h⟩
        rcases List.mem_cons.1 hentry with rfl | hentry
        · exact hlt
        · exact String.lt_trans hlt (hrest.1 entry hentry)
      next hlt =>
        split
        next hgt =>
          refine List.pairwise_cons.2 ⟨fun entry hentry => ?_, ih hrest.2⟩
          rcases mem_insert hentry with rfl | hentry
          · exact hgt
          · exact hrest.1 entry hentry
        next hgt =>
          obtain rfl : name = head.1 := eq_of_not_lt hlt hgt
          exact List.pairwise_cons.2 ⟨hrest.1, hrest.2⟩

/-- Entries collected from a list are ascending. -/
theorem ascending_ofList (entries : List (String × α)) : Ascending (ofList entries) := by
  suffices ∀ kept : Entries α, Ascending kept →
      Ascending (entries.foldl (fun kept entry => Entries.insert entry.1 entry.2 kept) kept) from
    this [] .nil
  induction entries with
  | nil => exact fun _ h => h
  | cons head rest ih => exact fun _ h => ih _ h.insert

/-- Replacing the values keeps the names ascending. -/
theorem Ascending.mapValues {entries : Entries α} (h : Ascending entries) (f : α → β) :
    Ascending (Entries.mapValues f entries) :=
  List.Pairwise.map _ (fun _ _ h => h) h

/-- Looking a name up takes the first entry that has it. -/
theorem lookup_cons (key : String) (entry : String × α) (rest : Entries α) :
    (entry :: rest : Entries α).lookup key =
      if key = entry.1 then some entry.2 else rest.lookup key := by
  rw [List.lookup_cons]
  by_cases h : key = entry.1
  · simp [h]
  · rw [beq_eq_false_iff_ne.2 h, if_neg h]

/-- Looking up after an insertion finds the inserted value under its name and the earlier value
under every other one. -/
theorem lookup_insert (name key : String) (value : α) (entries : Entries α) :
    (insert name value entries).lookup key =
      if key = name then some value else entries.lookup key := by
  induction entries with
  | nil => exact lookup_cons key (name, value) []
  | cons head rest ih =>
      rw [insert]
      split
      · exact lookup_cons key (name, value) (head :: rest)
      next hlt =>
        split
        next hgt =>
          rw [lookup_cons, lookup_cons, ih]
          by_cases h : key = head.1
          · have hne : key ≠ name := fun heq => String.lt_irrefl _ (heq ▸ h ▸ hgt)
            simp [h, h ▸ hne]
          · simp [h]
        next hgt =>
          obtain rfl : name = head.1 := eq_of_not_lt hlt hgt
          rw [lookup_cons, lookup_cons]
          by_cases h : key = head.1 <;> simp [h]

/-- A name below every name has no value. -/
theorem lookup_eq_none {key : String} {entries : Entries α}
    (h : ∀ entry ∈ entries, key < entry.1) : entries.lookup key = none := by
  induction entries with
  | nil => rfl
  | cons head rest ih =>
      have hne : key ≠ head.1 := fun heq =>
        String.lt_irrefl _ (heq ▸ h head List.mem_cons_self)
      rw [lookup_cons, if_neg hne]
      exact ih fun entry hentry => h entry (List.mem_cons_of_mem _ hentry)

/-- Ascending entries are determined by their lookups. -/
theorem Ascending.eq_of_lookup {first second : Entries α} (hfirst : Ascending first)
    (hsecond : Ascending second) (h : ∀ key, first.lookup key = second.lookup key) :
    first = second := by
  induction first generalizing second with
  | nil =>
      cases second with
      | nil => rfl
      | cons entry rest => simpa [lookup_cons] using h entry.1
  | cons head rest ih =>
      cases second with
      | nil => simpa [lookup_cons] using h head.1
      | cons entry others =>
          have hhead := List.pairwise_cons.1 hfirst
          have hentry := List.pairwise_cons.1 hsecond
          have hname : head.1 = entry.1 := by
            refine eq_of_not_lt (fun hlt => ?_) (fun hgt => ?_)
            · have hnone : (entry :: others : Entries α).lookup head.1 = none :=
                lookup_eq_none fun other hother => by
                  rcases List.mem_cons.1 hother with rfl | hother
                  · exact hlt
                  · exact String.lt_trans hlt (hentry.1 other hother)
              simpa [lookup_cons, hnone] using h head.1
            · have hnone : (head :: rest : Entries α).lookup entry.1 = none :=
                lookup_eq_none fun other hother => by
                  rcases List.mem_cons.1 hother with rfl | hother
                  · exact hgt
                  · exact String.lt_trans hgt (hhead.1 other hother)
              simpa [lookup_cons, hnone] using h entry.1
          have hvalue : head.2 = entry.2 := by
            simpa [lookup_cons, hname] using h entry.1
          have hrest : rest = others := by
            refine ih hhead.2 hentry.2 fun key => ?_
            by_cases hkey : key = head.1
            · rw [hkey, lookup_eq_none hhead.1, hname, lookup_eq_none hentry.1]
            · have hkey' : key ≠ entry.1 := hname ▸ hkey
              simpa [lookup_cons, hkey, hkey'] using h key
          rw [hrest, Prod.ext hname hvalue]

end Entries

/-- Named values, at most one for each name, listed with the names ascending. -/
structure Table (α : Type u) where
  /-- The entries in order. -/
  entries : Entries α
  /-- The names are strictly ascending. -/
  ascending : entries.Ascending

namespace Table

variable {α : Type u} {β : Type v}

/-- The table without entries. -/
def empty : Table α :=
  ⟨[], .nil⟩

instance : EmptyCollection (Table α) :=
  ⟨empty⟩

instance : Inhabited (Table α) :=
  ⟨empty⟩

/-- Tables are compared entry by entry if they have equally many. -/
def same [BEq α] (first second : Table α) : Bool :=
  first.entries.length == second.entries.length && first.entries == second.entries

instance [BEq α] : BEq (Table α) :=
  ⟨same⟩

/-- A table is equal to itself if each value is. -/
theorem same_self [BEq α] [ReflBEq α] (table : Table α) : table.same table := by
  simp [same]

instance [BEq α] [ReflBEq α] : ReflBEq (Table α) :=
  ⟨fun {table} => same_self table⟩

/-- Puts a value under a name, in place of the value the name had, if it had one. -/
def insert (table : Table α) (name : String) (value : α) : Table α :=
  ⟨table.entries.insert name value, table.ascending.insert⟩

/-- The table of a list of named values; of several values under one name, the last is kept. -/
def ofList (entries : List (String × α)) : Table α :=
  ⟨Entries.ofList entries, Entries.ascending_ofList entries⟩

/-- The value under a name. -/
def get? (table : Table α) (name : String) : Option α :=
  table.entries.lookup name

/-- The names, ascending. -/
def names (table : Table α) : List String :=
  table.entries.names

/-- The values, in the order of their names. -/
def values (table : Table α) : List α :=
  table.entries.map Prod.snd

/-- The number of entries. -/
def size (table : Table α) : Nat :=
  table.entries.length

/-- The table has no entries. -/
def isEmpty (table : Table α) : Bool :=
  table.entries.isEmpty

/-- Replaces every value and keeps the names. -/
def map (f : α → β) (table : Table α) : Table β :=
  ⟨table.entries.mapValues f, table.ascending.mapValues f⟩

@[simp]
theorem get?_insert (table : Table α) (name key : String) (value : α) :
    (table.insert name value).get? key = if key = name then some value else table.get? key :=
  Entries.lookup_insert name key value table.entries

@[simp]
theorem get?_empty (key : String) : (empty : Table α).get? key = none :=
  rfl

/-- Tables with the same lookups are equal. -/
theorem ext_get? {first second : Table α} (h : ∀ name, first.get? name = second.get? name) :
    first = second := by
  cases first with
  | mk entries ascending =>
      cases second with
      | mk others ascending' =>
          congr
          exact ascending.eq_of_lookup ascending' h

end Table

end AppManifest
