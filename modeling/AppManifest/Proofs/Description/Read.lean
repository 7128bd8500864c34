import AppManifest.Proofs.Description.Ordered
import AppManifest.Proofs.Json.Accepted
import AppManifest.Proofs.Json.Reading

/-!
# Descriptions that are read are ordered

Values are read with the names in ascending order, whatever their order in the text, so every
description that is read is ordered (`AppDescription.ordered_of_read`). A reader yields values of
some kind if each value that it gives is of that kind; a structure is of a kind if the blank one is
and reading a field keeps it so.
-/

namespace AppManifest

namespace Tree

mutual

/-- The value of a tree is ordered. -/
theorem ordered_value? :
    (tree : Tree) → {levels : Nat} → {json : Json} → tree.value? levels = some json → json.Ordered
  | .broken, _, _, h => by cases h
  | .scalar value, _, _, h => by
      cases value with
      | null | bool =>
          cases h
          constructor
      | number value? | string value? =>
          obtain ⟨value, -, rfl⟩ := Option.map_eq_some_iff.1 h
          constructor
  | .array items closed, levels, _, h => by
      cases levels with
      | zero => cases h
      | succ levels =>
          rw [value?] at h
          split at h
          · obtain ⟨values, hvalues, rfl⟩ := Option.map_eq_some_iff.1 h
            exact .array (ordered_values? items hvalues)
          · cases h
  | .object members closed, levels, _, h => by
      cases levels with
      | zero => cases h
      | succ levels =>
          rw [value?] at h
          split at h
          · obtain ⟨entries, hentries, rfl⟩ := Option.map_eq_some_iff.1 h
            -- the members are collected by name, in whatever order they were written
            refine .object (Entries.ascending_ofList entries) fun entry hentry => ?_
            exact ordered_memberValues? members hentries entry (Entries.mem_ofList hentry)
          · cases h

/-- The values of trees are ordered. -/
theorem ordered_values? :
    (items : List Tree) → {levels : Nat} → {values : List Json} →
      values? levels items = some values → ∀ value ∈ values, value.Ordered
  | [], _, _, h => by
      cases h
      intro _ hvalue
      cases hvalue
  | item :: rest, _, _, h => by
      obtain ⟨value, hvalue, h⟩ := Option.bind_eq_some_iff.1 h
      obtain ⟨values, hvalues, rfl⟩ := Option.map_eq_some_iff.1 h
      exact List.forall_mem_cons.2 ⟨ordered_value? item hvalue, ordered_values? rest hvalues⟩

/-- The values of members are ordered. -/
theorem ordered_memberValues? :
    (members : List (Option String × Tree)) → {levels : Nat} → {values : List (String × Json)} →
      memberValues? levels members = some values → ∀ entry ∈ values, entry.2.Ordered
  | [], _, _, h => by
      cases h
      intro _ hentry
      cases hentry
  | (name?, member) :: rest, _, _, h => by
      obtain ⟨name, -, h⟩ := Option.bind_eq_some_iff.1 h
      obtain ⟨value, hvalue, h⟩ := Option.bind_eq_some_iff.1 h
      obtain ⟨values, hvalues, rfl⟩ := Option.map_eq_some_iff.1 h
      exact List.forall_mem_cons.2
        ⟨ordered_value? member hvalue, ordered_memberValues? rest hvalues⟩

end

end Tree

/-- A value is ordered exactly if its tree gives it back. -/
theorem Json.ordered_iff (json : Json) :
    json.Ordered ↔ json.tree.value? json.depth = some json :=
  ⟨fun h => h.value?_tree le_rfl, fun h => json.tree.ordered_value? h⟩

/-- Every value that the reader gives is of a kind. -/
def Reader.Yields {α : Type} (read : Reader α) (motive : α → Prop) : Prop :=
  ∀ levels tree value, read levels tree = .ok value → motive value

namespace Reader

variable {α β : Type} {read : Reader α} {motive : α → Prop}

/-- Any value that is read is ordered. -/
theorem yields_any : Reader.any.Yields Json.Ordered := by
  intro levels tree value h
  rw [Reader.any] at h
  split at h
  next hvalue =>
    cases h
    exact tree.ordered_value? hvalue
  next => cases h

/-- What is read unless it is null is of the kind of what is read. -/
theorem Yields.optional (h : read.Yields motive) :
    (Reader.optional read).Yields fun value? => ∀ value ∈ value?, motive value := by
  intro levels tree value? hread value hvalue
  obtain ⟨-, rfl⟩ | ⟨inner, hinner, rfl⟩ := of_optional hread
  · cases hvalue
  · obtain rfl := Option.mem_some.1 hvalue
    exact h _ _ _ hinner

/-- The items that are read are of the kind of what is read. -/
theorem Yields.list (h : read.Yields motive) :
    (Reader.list read).Yields fun values => ∀ value ∈ values, motive value := by
  intro levels tree values hread value hvalue
  obtain ⟨_, _, -, hitems⟩ := exists_of_list hread
  obtain ⟨item, -, hitem⟩ := exists_left_of_forall₂ hitems hvalue
  exact h _ _ _ hitem

/-- The named values that are read are of the kind of what is read. -/
theorem Yields.table (h : read.Yields motive) :
    (Reader.table read).Yields fun table =>
      ∀ name value, table.get? name = some value → motive value := by
  intro levels tree table hread name value hvalue
  obtain ⟨_, _, _, -, rfl, hmembers⟩ := exists_of_table hread
  obtain ⟨member, -, -, hmember⟩ :=
    exists_left_of_forall₂ hmembers (Table.mem_of_get?_ofList hvalue)
  exact h _ _ _ hmember

end Reader

/-- Reading the field keeps a structure of a kind. -/
def Field.Keeps {σ : Type} (field : Field σ) (motive : σ → Prop) : Prop :=
  field.read.Yields fun fill => ∀ value, motive value → motive (fill value)

namespace Field

variable {α σ : Type} {read : Reader α} {set : α → σ → σ} {kind : α → Prop} {motive : σ → Prop}

/-- A field that is read with a value of some kind, which keeps the structure of its kind. -/
theorem keeps (hread : read.Yields kind)
    (hset : ∀ inner value, kind inner → motive value → motive (set inner value))
    (name : String) (required : Bool) :
    Field.Keeps ⟨name, required, fun levels tree => (read levels tree).map set⟩ motive := by
  intro levels tree fill h value hvalue
  obtain ⟨inner, hinner, rfl⟩ := map_eq_ok_iff.1 h
  exact hset inner value (hread _ _ _ hinner) hvalue

/-- A field on which the kind of the structure does not depend. -/
theorem keeps_of_free (hset : ∀ inner value, motive value → motive (set inner value))
    (name : String) (required : Bool) :
    Field.Keeps ⟨name, required, fun levels tree => (read levels tree).map set⟩ motive :=
  keeps (fun _ _ _ _ => trivial) (fun inner value (_ : True) => hset inner value) name required

end Field

namespace Layout

variable {σ : Type} {layout : Layout σ} {motive : σ → Prop}

/-- Filling a structure of a kind from members keeps it so if reading every field does. -/
theorem of_readMembers (hfields : ∀ field ∈ layout.fields, field.Keeps motive) {levels : Nat}
    {closed : Bool} {seen : List String} {value final : σ} {members : List (Option String × Tree)}
    (hvalue : motive value) (h : layout.readMembers levels closed seen value members = .ok final) :
    motive final := by
  induction members generalizing seen value with
  | nil =>
      obtain ⟨-, -, rfl⟩ := of_readMembers_nil h
      exact hvalue
  | cons member rest ih =>
      obtain ⟨name, -, ⟨-, -, hrest⟩ | ⟨field, fill, hfield, -, hfill, hrest⟩⟩ :=
        of_readMembers_cons h
      · exact ih hvalue hrest
      · have hkeeps := hfields field (mem_of_field? hfield).1
        exact ih (hkeeps _ _ fill hfill value hvalue) hrest

/-- Filling a structure of a kind from items keeps it so if reading every field does. -/
theorem of_readItems {fields : List (Field σ)} (hfields : ∀ field ∈ fields, field.Keeps motive)
    {levels : Nat} {closed : Bool} {value final : σ} {items : List Tree} (hvalue : motive value)
    (h : layout.readItems levels closed value fields items = .ok final) : motive final := by
  induction items generalizing value fields with
  | nil =>
      obtain ⟨-, rfl⟩ := of_readItems_nil h
      exact hvalue
  | cons item items ih =>
      obtain ⟨field, rest, fill, rfl, hfill, hrest⟩ := of_readItems_cons h
      obtain ⟨hfield, hothers⟩ := List.forall_mem_cons.1 hfields
      exact ih hothers (hfield _ _ fill hfill value hvalue) hrest

/-- The structures that are read are of a kind if the blank one is and reading a field keeps them
so. -/
theorem yields (hblank : motive layout.blank)
    (hfields : ∀ field ∈ layout.fields, field.Keeps motive) : layout.read.Yields motive := by
  intro levels tree value h
  rw [Layout.read.eq_def] at h
  split at h
  · obtain ⟨inner, h⟩ := Reader.exists_of_enter h
    exact of_readMembers hfields hblank h
  · obtain ⟨inner, h⟩ := Reader.exists_of_enter h
    exact of_readItems hfields hblank h
  · cases h

end Layout

/-- The table without values is ordered. -/
theorem OrderedTable.empty : OrderedTable ∅ :=
  fun _ _ h => by cases h

/-- Tables of values are read as ordered ones. -/
theorem Reader.yields_orderedTable : (Reader.table .any).Yields OrderedTable :=
  Reader.yields_any.table

/-- Parameter sets are read with ordered schemas. -/
theorem ParameterSetDescription.yields_ordered :
    layout.read.Yields fun set => OrderedTable set.properties := by
  refine Layout.yields .empty fun field hfield => ?_
  simp only [layout, List.mem_cons, List.not_mem_nil, or_false] at hfield
  rcases hfield with rfl | rfl
  · refine Field.keeps Reader.yields_orderedTable (fun _ _ hinner _ => ?_) _ _
    exact hinner
  · refine Field.keeps_of_free (fun _ _ h => ?_) _ _
    exact h

/-- Functions are read as ordered ones. -/
theorem FunctionDescription.yields_ordered : layout.read.Yields Ordered := by
  refine Layout.yields ⟨.empty, .empty⟩ fun field hfield => ?_
  simp only [layout, List.mem_cons, List.not_mem_nil, or_false] at hfield
  rcases hfield with rfl | rfl | rfl | rfl | rfl
  · exact Field.keeps_of_free (fun _ _ h => ⟨h.inputs, h.outputs⟩) _ _
  · exact Field.keeps_of_free (fun _ _ h => ⟨h.inputs, h.outputs⟩) _ _
  · exact Field.keeps_of_free (fun _ _ h => ⟨h.inputs, h.outputs⟩) _ _
  · exact Field.keeps ParameterSetDescription.yields_ordered
      (fun _ _ hinner h => ⟨hinner, h.outputs⟩) _ _
  · exact Field.keeps ParameterSetDescription.yields_ordered
      (fun _ _ hinner h => ⟨h.inputs, hinner⟩) _ _

/-- Steps are read with ordered inputs. -/
theorem StepDescription.yields_ordered :
    layout.read.Yields fun step => OrderedTable step.inputs := by
  refine Layout.yields .empty fun field hfield => ?_
  simp only [layout, List.mem_cons, List.not_mem_nil, or_false] at hfield
  rcases hfield with rfl | rfl
  · refine Field.keeps_of_free (fun _ _ h => ?_) _ _
    exact h
  · refine Field.keeps Reader.yields_orderedTable (fun _ _ hinner _ => ?_) _ _
    exact hinner

/-- Workflows are read as ordered ones. -/
theorem WorkflowDescription.yields_ordered : layout.read.Yields Ordered := by
  refine Layout.yields ⟨.empty, .empty, fun _ h => by cases h⟩ fun field hfield => ?_
  simp only [layout, List.mem_cons, List.not_mem_nil, or_false] at hfield
  rcases hfield with rfl | rfl | rfl | rfl | rfl
  · exact Field.keeps_of_free (fun _ _ h => ⟨h.inputs, h.outputs, h.steps⟩) _ _
  · exact Field.keeps_of_free (fun _ _ h => ⟨h.inputs, h.outputs, h.steps⟩) _ _
  · exact Field.keeps ParameterSetDescription.yields_ordered
      (fun _ _ hinner h => ⟨hinner, h.outputs, h.steps⟩) _ _
  · exact Field.keeps ParameterSetDescription.yields_ordered
      (fun _ _ hinner h => ⟨h.inputs, hinner, h.steps⟩) _ _
  · exact Field.keeps StepDescription.yields_ordered.list
      (fun _ _ hinner h => ⟨h.inputs, h.outputs, hinner⟩) _ _

/-- Datastores are read with ordered schemas. -/
theorem DatastoreDescription.yields_ordered :
    layout.read.Yields fun datastore => OrderedTable datastore.attributes := by
  refine Layout.yields .empty fun field hfield => ?_
  simp only [layout, List.mem_cons, List.not_mem_nil, or_false] at hfield
  rcases hfield with rfl | rfl
  · refine Field.keeps_of_free (fun _ _ h => ?_) _ _
    exact h
  · refine Field.keeps Reader.yields_orderedTable (fun _ _ hinner _ => ?_) _ _
    exact hinner

/-- Providers are read with ordered options. -/
theorem ProviderDescription.yields_ordered :
    layout.read.Yields fun provider => provider.options.Ordered := by
  refine Layout.yields .null fun field hfield => ?_
  simp only [layout, List.mem_cons, List.not_mem_nil, or_false] at hfield
  rcases hfield with rfl | rfl
  · refine Field.keeps_of_free (fun _ _ h => ?_) _ _
    exact h
  · refine Field.keeps Reader.yields_any (fun _ _ hinner _ => ?_) _ _
    exact hinner

/-- External providers are read with ordered options. -/
theorem ProvidersDescription.yields_ordered :
    layout.read.Yields fun providers =>
      ∀ key provider, providers.oauth2.get? key = some provider → provider.options.Ordered := by
  refine Layout.yields (fun _ _ h => by cases h) fun field hfield => ?_
  simp only [layout, List.mem_cons, List.not_mem_nil, or_false] at hfield
  obtain rfl := hfield
  exact Field.keeps ProviderDescription.yields_ordered.table (fun _ _ hinner _ => hinner) _ _

namespace AppDescription

/-- The description of an app that gives only its name is ordered. -/
theorem ordered_blank : layout.blank.Ordered where
  types := .empty
  functions _ _ h := by cases h
  workflows _ _ h := by cases h
  datastores _ _ h := by cases h
  providers _ _ h := by cases h

/-- Descriptions of apps are read as ordered ones. -/
theorem yields_ordered : layout.read.Yields Ordered := by
  refine Layout.yields ordered_blank fun field hfield => ?_
  simp only [layout, List.mem_cons, List.not_mem_nil, or_false] at hfield
  rcases hfield with rfl | rfl | rfl | rfl | rfl | rfl | rfl | rfl | rfl | rfl
  iterate 5
    exact Field.keeps_of_free (fun _ _ h =>
      ⟨h.types, h.functions, h.workflows, h.datastores, h.providers⟩) _ _
  · exact Field.keeps Reader.yields_orderedTable (fun _ _ hinner h =>
      ⟨hinner, h.functions, h.workflows, h.datastores, h.providers⟩) _ _
  · exact Field.keeps FunctionDescription.yields_ordered.table (fun _ _ hinner h =>
      ⟨h.types, hinner, h.workflows, h.datastores, h.providers⟩) _ _
  · exact Field.keeps WorkflowDescription.yields_ordered.table (fun _ _ hinner h =>
      ⟨h.types, h.functions, hinner, h.datastores, h.providers⟩) _ _
  · exact Field.keeps DatastoreDescription.yields_ordered.table (fun _ _ hinner h =>
      ⟨h.types, h.functions, h.workflows, hinner, h.providers⟩) _ _
  · refine Field.keeps ProvidersDescription.yields_ordered.optional (fun providers? _ hinner h =>
      ⟨h.types, h.functions, h.workflows, h.datastores, fun key provider hprovider => ?_⟩) _ _
    cases providers? with
    | none => cases hprovider
    | some providers => exact hinner providers rfl key provider hprovider

/-- A description that is read from a text is ordered. -/
theorem ordered_of_read {text : String} {app : AppDescription} (h : read text = .ok app) :
    app.Ordered := by
  rw [read, ofOutline] at h
  obtain ⟨inner, hinner, h⟩ := bind_eq_ok_iff.1 h
  split at h
  · cases h
  · cases h
    exact yields_ordered _ _ _ hinner

end AppDescription

end AppManifest
