import Mathlib.Data.List.Forall2
import AppManifest.Table

/-!
# Theory of tables

What tables hold, in terms of membership. A value is found under a name exactly if the entry is
there (`Entries.lookup_eq_some_iff`). Collecting entries that are ascending changes
nothing (`Entries.Ascending.ofList_eq`), and collecting entries with distinct names keeps every
lookup (`Entries.lookup_ofList`). Tables are often related entry by entry, so what holds of lists
related one by one is collected first.
-/

namespace AppManifest

universe u v w

variable {α : Type u} {β : Type v}

section Forall₂

variable {γ : Type w} {relation : α → β → Prop} {values : List α} {results : List β}

/-- Each value is related to one of the results. -/
theorem exists_right_of_forall₂ (h : List.Forall₂ relation values results) {value : α}
    (hvalue : value ∈ values) : ∃ result ∈ results, relation value result := by
  induction h with
  | nil => cases hvalue
  | cons hhead _ ih =>
      rcases List.mem_cons.1 hvalue with rfl | hvalue
      · exact ⟨_, List.mem_cons_self, hhead⟩
      · obtain ⟨result, hresult, hrelation⟩ := ih hvalue
        exact ⟨result, List.mem_cons_of_mem _ hresult, hrelation⟩

/-- Each result is one to which a value is related. -/
theorem exists_left_of_forall₂ (h : List.Forall₂ relation values results) {result : β}
    (hresult : result ∈ results) : ∃ value ∈ values, relation value result :=
  exists_right_of_forall₂ (List.Forall₂.flip h) hresult

/-- What related values agree on agrees on the lists. -/
theorem map_eq_of_forall₂ {first : α → γ} {second : β → γ}
    (h : List.Forall₂ (fun value result => second result = first value) values results) :
    results.map second = values.map first := by
  induction h with
  | nil => rfl
  | cons hhead _ ih => rw [List.map_cons, List.map_cons, hhead, ih]

/-- Each of some values is related to a value exactly if they are related to some values one by
one. -/
theorem exists_forall₂_iff :
    (∃ results, List.Forall₂ relation values results) ↔
      ∀ value ∈ values, ∃ result, relation value result := by
  induction values with
  | nil =>
      constructor
      · intro _ _ h
        cases h
      · intro _
        exact ⟨[], .nil⟩
  | cons head rest ih =>
      rw [List.forall_mem_cons, ← ih]
      constructor
      · rintro ⟨_, _ | ⟨hresult, hresults⟩⟩
        exact ⟨⟨_, hresult⟩, _, hresults⟩
      · rintro ⟨⟨_, hresult⟩, _, hresults⟩
        exact ⟨_, .cons hresult hresults⟩

/-- At each position there are related values in both lists, or there are none. -/
theorem rel_getElem?_of_forall₂ (h : List.Forall₂ relation values results) (position : Nat) :
    Option.Rel relation values[position]? results[position]? := by
  induction h generalizing position with
  | nil => exact .none
  | cons hhead _ ih =>
      cases position with
      | zero => exact .some hhead
      | succ position =>
          rw [List.getElem?_cons_succ, List.getElem?_cons_succ]
          exact ih position

end Forall₂

namespace Entries

/-- What is found under a name is an entry. -/
theorem mem_of_lookup {entries : Entries α} {key : String} {value : α}
    (h : entries.lookup key = some value) : (key, value) ∈ entries := by
  induction entries with
  | nil => cases h
  | cons head rest ih =>
      rw [lookup_cons] at h
      split at h
      next hkey =>
        cases h
        rw [hkey]
        exact List.mem_cons_self
      next => exact List.mem_cons_of_mem _ (ih h)

/-- Reading the first value of a name while going through the entries looks the name up. -/
theorem scan_eq {scan : Entries α → Option β} {key : String} {read : α → β} (hnil : scan [] = none)
    (hcons : ∀ name value rest, scan ((name, value) :: rest) =
      if name = key then some (read value) else scan rest) (entries : Entries α) :
    scan entries = (entries.lookup key).map read := by
  induction entries with
  | nil => rw [hnil]; rfl
  | cons entry rest ih =>
      rw [hcons, lookup_cons, ih]
      simp only [eq_comm (a := entry.1)]
      split <;> rfl

/-- Nothing is found under a name exactly if no entry has it. -/
theorem lookup_eq_none_iff {entries : Entries α} {key : String} :
    entries.lookup key = none ↔ key ∉ entries.names := by
  induction entries with
  | nil => simp [names]
  | cons head rest ih =>
      rw [lookup_cons]
      by_cases hkey : key = head.1
      · simp [hkey, names]
      · rw [if_neg hkey, ih]
        simp [names, hkey]

/-- An entry whose name no earlier entry has is found under its name. -/
theorem lookup_of_mem {entries : Entries α} (hnodup : entries.names.Nodup) {key : String}
    {value : α} (h : (key, value) ∈ entries) : entries.lookup key = some value := by
  induction entries with
  | nil => cases h
  | cons head rest ih =>
      have hhead := List.nodup_cons.1 hnodup
      rw [lookup_cons]
      rcases List.mem_cons.1 h with h | h
      · rw [← h, if_pos rfl]
      · have hkey : key ≠ head.1 := fun hkey =>
          hhead.1 (hkey ▸ List.mem_map_of_mem h)
        rw [if_neg hkey]
        exact ih hhead.2 h

/-- The names of ascending entries are distinct. -/
theorem Ascending.nodup {entries : Entries α} (h : entries.Ascending) : entries.names.Nodup := by
  refine List.pairwise_map.2 (List.Pairwise.imp ?_ h)
  intro first second hlt heq
  rw [heq] at hlt
  exact String.lt_irrefl _ hlt

/-- Among entries with distinct names, a value is found under a name exactly if the entry is
there. -/
theorem lookup_eq_some_iff {entries : Entries α} (hnodup : entries.names.Nodup) {key : String}
    {value : α} : entries.lookup key = some value ↔ (key, value) ∈ entries :=
  ⟨mem_of_lookup, lookup_of_mem hnodup⟩

/-- Ascending stays ascending when names keep their places. -/
theorem Ascending.of_names {first : Entries α} {second : Entries β} (h : first.Ascending)
    (hnames : second.names = first.names) : second.Ascending := by
  have hfirst : first.names.Pairwise (· < ·) := List.pairwise_map.2 h
  rw [← hnames] at hfirst
  exact List.pairwise_map.1 hfirst

/-- An entry above all others is inserted behind them. -/
theorem insert_above {entries : Entries α} {name : String} {value : α}
    (h : ∀ entry ∈ entries, entry.1 < name) :
    insert name value entries = entries ++ [(name, value)] := by
  induction entries with
  | nil => rfl
  | cons head rest ih =>
      have hhead : head.1 < name := h head List.mem_cons_self
      have hnot : ¬ name < head.1 := fun hlt => String.lt_irrefl _ (String.lt_trans hlt hhead)
      rw [insert, if_neg hnot, if_pos hhead, ih fun entry hentry =>
        h entry (List.mem_cons_of_mem _ hentry)]
      rfl

/-- Collecting ascending entries behind lower ones appends them. -/
theorem foldl_insert_ascending (kept : Entries α) {entries : Entries α}
    (h : (kept ++ entries).Ascending) :
    entries.foldl (fun kept entry => insert entry.1 entry.2 kept) kept = kept ++ entries := by
  induction entries generalizing kept with
  | nil => simp
  | cons head rest ih =>
      have hhead : ∀ entry ∈ kept, entry.1 < head.1 := fun entry hentry =>
        (List.pairwise_append.1 h).2.2 entry hentry head List.mem_cons_self
      rw [List.foldl_cons, insert_above hhead, ih _ (by simpa using h)]
      simp

/-- Collecting ascending entries changes nothing. -/
theorem Ascending.ofList_eq {entries : Entries α} (h : entries.Ascending) :
    ofList entries = entries :=
  foldl_insert_ascending [] h

/-- Collecting entries adds none. -/
theorem mem_ofList {entries : List (String × α)} {entry : String × α} (h : entry ∈ ofList entries) :
    entry ∈ entries := by
  suffices ∀ kept : Entries α,
      entry ∈ entries.foldl (fun kept entry => insert entry.1 entry.2 kept) kept →
        entry ∈ kept ∨ entry ∈ entries from (this [] h).resolve_left List.not_mem_nil
  clear h
  induction entries with
  | nil => exact fun _ h => .inl h
  | cons head rest ih =>
      intro kept h
      rw [List.foldl_cons] at h
      rcases ih _ h with h | h
      · rcases mem_insert h with rfl | h
        · exact .inr List.mem_cons_self
        · exact .inl h
      · exact .inr (List.mem_cons_of_mem _ h)

/-- Collecting entries with distinct names keeps every lookup. -/
theorem lookup_ofList {entries : Entries α} (h : entries.names.Nodup) (key : String) :
    (ofList entries).lookup key = entries.lookup key := by
  -- the entries that are collected later win over those collected before
  suffices ∀ kept : Entries α,
      (entries.foldl (fun kept entry => insert entry.1 entry.2 kept) kept).lookup key =
        (entries.lookup key).or (kept.lookup key) by
    simpa [ofList] using this []
  induction entries with
  | nil => intro kept; rfl
  | cons head rest ih =>
      intro kept
      have hhead := List.nodup_cons.1 h
      rw [List.foldl_cons, ih hhead.2, lookup_insert, lookup_cons]
      by_cases hkey : key = head.1
      · have hrest : rest.lookup key = none := lookup_eq_none_iff.2 (hkey ▸ hhead.1)
        rw [if_pos hkey, if_pos hkey, hrest]
        rfl
      · rw [if_neg hkey, if_neg hkey]

/-- Replacing the values of what is inserted replaces those of the entries. -/
theorem mapValues_insert (f : α → β) (name : String) (value : α) (entries : Entries α) :
    mapValues f (insert name value entries) = insert name (f value) (mapValues f entries) := by
  induction entries with
  | nil => rfl
  | cons head rest ih =>
      rw [insert, mapValues, mapValues, List.map_cons, insert]
      split
      · rfl
      · split
        · exact congrArg (List.cons (head.1, f head.2)) ih
        · rfl

/-- Collecting entries and replacing their values come in any order. -/
theorem mapValues_ofList (f : α → β) (entries : Entries α) :
    mapValues f (ofList entries) = ofList (mapValues f entries) := by
  suffices ∀ kept : Entries α,
      mapValues f (entries.foldl (fun kept entry => insert entry.1 entry.2 kept) kept) =
        (mapValues f entries).foldl (fun kept entry => insert entry.1 entry.2 kept)
          (mapValues f kept) from this []
  induction entries with
  | nil => exact fun _ => rfl
  | cons head rest ih =>
      intro kept
      rw [List.foldl_cons, ih, mapValues_insert]
      rfl

/-- Replacing the values replaces what is found. -/
theorem lookup_mapValues (f : α → β) (entries : Entries α) (key : String) :
    (mapValues f entries).lookup key = (entries.lookup key).map f := by
  induction entries with
  | nil => rfl
  | cons head rest ih =>
      rw [mapValues, List.map_cons, lookup_cons, lookup_cons]
      by_cases hkey : key = head.1
      · simp [hkey]
      · simpa [hkey, mapValues] using ih

end Entries

namespace Table

/-- Replacing the values replaces what is found. -/
@[simp]
theorem get?_map (f : α → β) (table : Table α) (key : String) :
    (table.map f).get? key = (table.get? key).map f :=
  Entries.lookup_mapValues f table.entries key

/-- A value is found under a name exactly if the entry is there. -/
theorem get?_eq_some_iff {table : Table α} {key : String} {value : α} :
    table.get? key = some value ↔ (key, value) ∈ table.entries :=
  Entries.lookup_eq_some_iff table.ascending.nodup

/-- The values of a table are replaced by what they are replaced by in turn. -/
theorem map_map {γ : Type u} (f : α → β) (g : β → γ) (table : Table α) :
    (table.map f).map g = table.map (g ∘ f) :=
  ext_get? fun name => by simp

/-- Values are replaced alike if they are where they are found. -/
theorem map_congr {f g : α → β} {table : Table α}
    (h : ∀ name value, table.get? name = some value → f value = g value) :
    table.map f = table.map g := by
  refine ext_get? fun name => ?_
  rw [get?_map, get?_map]
  cases hvalue : table.get? name with
  | none => rfl
  | some value => exact congrArg some (h name value hvalue)

/-- Replacing the values after an insertion inserts what the value is replaced by. -/
theorem map_insert (f : α → β) (table : Table α) (name : String) (value : α) :
    (table.insert name value).map f = (table.map f).insert name (f value) := by
  refine ext_get? fun key => ?_
  rw [get?_map, get?_insert, get?_insert, get?_map]
  split <;> rfl

/-- Inserting the value that a name has changes nothing. -/
theorem insert_eq_self {table : Table α} {name : String} {value : α}
    (h : table.get? name = some value) : table.insert name value = table := by
  refine ext_get? fun key => ?_
  rw [get?_insert]
  split
  next hkey => rw [hkey, h]
  next => rfl

/-- Replacing the values leaves no fewer entries. -/
@[simp]
theorem isEmpty_map (f : α → β) (table : Table α) : (table.map f).isEmpty = table.isEmpty :=
  List.isEmpty_map

/-- Tables with the same names are empty alike. -/
theorem isEmpty_eq_of_names {first : Table α} {second : Table β} (h : first.names = second.names) :
    first.isEmpty = second.isEmpty := by
  have hlength := congrArg List.length h
  rw [names, names, Entries.names, Entries.names, List.length_map, List.length_map] at hlength
  rw [isEmpty, isEmpty, Bool.eq_iff_iff, List.isEmpty_iff_length_eq_zero,
    List.isEmpty_iff_length_eq_zero, hlength]

/-- Something is found under every listed name. -/
theorem exists_get?_of_mem_names {table : Table α} {key : String} (h : key ∈ table.names) :
    ∃ value, table.get? key = some value := by
  obtain ⟨⟨name, value⟩, hentry, rfl⟩ := List.mem_map.1 h
  exact ⟨value, get?_eq_some_iff.2 hentry⟩

/-- What is found has a listed name. -/
theorem mem_names_of_get? {table : Table α} {key : String} {value : α}
    (h : table.get? key = some value) : key ∈ table.names :=
  List.mem_map_of_mem (get?_eq_some_iff.1 h)

/-- A name is listed exactly if something is found under it. -/
theorem mem_names_iff {table : Table α} {key : String} :
    key ∈ table.names ↔ ∃ value, table.get? key = some value :=
  ⟨exists_get?_of_mem_names, fun ⟨_, h⟩ => mem_names_of_get? h⟩

/-- Tables with entries for the same names list them alike. -/
theorem names_eq_of_mem_iff {first : Table α} {second : Table β}
    (h : ∀ name, name ∈ first.names ↔ name ∈ second.names) : first.names = second.names := by
  -- with all values replaced by one, the tables have the same lookups
  have hunits : first.map (fun _ => ()) = second.map (fun _ => ()) := by
    refine ext_get? fun name => Option.ext fun _ => ?_
    have hname := h name
    rw [mem_names_iff, mem_names_iff] at hname
    simp only [get?_map, Option.map_eq_some_iff, and_true]
    exact hname
  have hnames := congrArg names hunits
  simpa [names, Entries.names, map, Entries.mapValues, Function.comp_def] using hnames

/-- Tables with the same entries are equal. -/
theorem ext_entries {first second : Table α} (h : first.entries = second.entries) :
    first = second := by
  cases first
  cases second
  cases h
  rfl

/-- What a table that was collected from a list has under a name is in the list. -/
theorem mem_of_get?_ofList {entries : List (String × α)} {key : String} {value : α}
    (h : (ofList entries).get? key = some value) : (key, value) ∈ entries :=
  Entries.mem_ofList (get?_eq_some_iff.1 h)

/-- The table of ascending entries lists them as they are. -/
theorem entries_ofList {entries : List (String × α)} (h : Entries.Ascending entries) :
    (ofList entries).entries = entries :=
  h.ofList_eq

end Table

end AppManifest
