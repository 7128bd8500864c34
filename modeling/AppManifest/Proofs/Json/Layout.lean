import Mathlib.Data.Finset.Dedup
import Mathlib.Data.Finset.Insert
import Mathlib.Data.List.Pairwise
import AppManifest.Proofs.Json.Accepted

/-!
# Structures laid out in different ways

A structure is read from the members of an object by their names. Neither the order of the members
nor members that are not declared make a difference (`Layout.SameMembers`), and the values of fields
may in turn be laid out in another way (`Layout.Relaid`). `Reader.Regards` says that a reader
regards only what a relation of trees keeps: it reads related trees alike. A structure is read so if
each of its fields is, and if the fields can be filled in any order (`Layout.regards`): what one
member does to it is done by `Layout.after`, members can change places
(`Layout.Independent.after_comm`), and undeclared ones do nothing (`Layout.foldl_after_ignored`).
-/

namespace AppManifest

namespace Tree

/-- Arrays whose items are related one by one. -/
inductive EachItem (inner : Tree → Tree → Prop) : Tree → Tree → Prop where
  | array {items others : List Tree} {closed : Bool} :
      List.Forall₂ inner items others → EachItem inner (.array items closed) (.array others closed)
  | same (tree : Tree) : EachItem inner tree tree

/-- Objects with the same names whose values are related one by one. -/
inductive EachMember (inner : Tree → Tree → Prop) : Tree → Tree → Prop where
  | object {members others : List (Option String × Tree)} {closed : Bool} :
      List.Forall₂ (fun member other => member.1 = other.1 ∧ inner member.2 other.2)
        members others →
      EachMember inner (.object members closed) (.object others closed)
  | same (tree : Tree) : EachMember inner tree tree

mutual

/-- A tree that has a value has no fault. -/
theorem isWellFormed_of_value? : (tree : Tree) → {levels : Nat} → {json : Json} →
    tree.value? levels = some json → tree.isWellFormed = true
  | .broken, _, _, h => by cases h
  | .scalar _, _, _, _ => rfl
  | .array items closed, levels, _, h => by
      cases levels with
      | zero => cases h
      | succ levels =>
          rw [value?] at h
          split at h
          next hclosed =>
            obtain ⟨values, hvalues, -⟩ := Option.map_eq_some_iff.1 h
            rw [isWellFormed, areWellFormed_of_values? items hvalues, hclosed]
            rfl
          next => cases h
  | .object members closed, levels, _, h => by
      cases levels with
      | zero => cases h
      | succ levels =>
          rw [value?] at h
          split at h
          next hclosed =>
            obtain ⟨values, hvalues, -⟩ := Option.map_eq_some_iff.1 h
            rw [isWellFormed, areMembersWellFormed_of_memberValues? members hvalues, hclosed]
            rfl
          next => cases h

/-- Items that have values have no faults. -/
theorem areWellFormed_of_values? : (items : List Tree) → {levels : Nat} → {values : List Json} →
    values? levels items = some values → areWellFormed items = true
  | [], _, _, _ => rfl
  | item :: rest, _, _, h => by
      obtain ⟨value, hvalue, h⟩ := Option.bind_eq_some_iff.1 h
      obtain ⟨values, hvalues, -⟩ := Option.map_eq_some_iff.1 h
      rw [areWellFormed, isWellFormed_of_value? item hvalue, areWellFormed_of_values? rest hvalues]
      rfl

/-- Members that have values have no faults. -/
theorem areMembersWellFormed_of_memberValues? : (members : List (Option String × Tree)) →
    {levels : Nat} → {values : List (String × Json)} →
    memberValues? levels members = some values → areMembersWellFormed members = true
  | [], _, _, _ => rfl
  | (name?, member) :: rest, _, _, h => by
      obtain ⟨name, -, h⟩ := Option.bind_eq_some_iff.1 h
      obtain ⟨value, hvalue, h⟩ := Option.bind_eq_some_iff.1 h
      obtain ⟨values, hvalues, -⟩ := Option.map_eq_some_iff.1 h
      rw [areMembersWellFormed, isWellFormed_of_value? member hvalue,
        areMembersWellFormed_of_memberValues? rest hvalues]
      rfl

end

/-- Items have no faults if each has none. -/
theorem areWellFormed_iff {items : List Tree} :
    areWellFormed items = true ↔ ∀ item ∈ items, item.isWellFormed = true := by
  induction items with
  | nil => exact ⟨fun _ _ => nofun, fun _ => rfl⟩
  | cons item rest ih => rw [areWellFormed, Bool.and_eq_true_iff, ih, List.forall_mem_cons]

/-- Members have no faults if no value has one. -/
theorem areMembersWellFormed_iff {members : List (Option String × Tree)} :
    areMembersWellFormed members = true ↔ ∀ member ∈ members, member.2.isWellFormed = true := by
  induction members with
  | nil => exact ⟨fun _ _ => nofun, fun _ => rfl⟩
  | cons member rest ih => rw [areMembersWellFormed, Bool.and_eq_true_iff, ih, List.forall_mem_cons]

end Tree

/-- The reader accepts only trees without faults, and of related trees it accepts both, with the
same value, or none. -/
structure Reader.Regards {α : Type} (read : Reader α) (relation : Tree → Tree → Prop) : Prop where
  isWellFormed {levels : Nat} {tree : Tree} {value : α} :
    read levels tree = .ok value → tree.isWellFormed = true
  toOption_eq (levels : Nat) {tree other : Tree} :
    relation tree other → (read levels tree).toOption = (read levels other).toOption

namespace Reader

variable {α β : Type} {read : Reader α} {relation : Tree → Tree → Prop}

/-- A reader that accepts only trees without faults regards equality. -/
theorem regards_eq (h : ∀ levels tree value, read levels tree = .ok value →
    tree.isWellFormed = true) : read.Regards Eq where
  isWellFormed hread := h _ _ _ hread
  toOption_eq levels tree other heq := by rw [heq]

/-- What regards only what a relation keeps regards equality. -/
theorem Regards.eq (h : read.Regards relation) : read.Regards Eq :=
  regards_eq fun _ _ _ => h.isWellFormed

/-- Strings are read only from strings. -/
theorem string_regards : Reader.string.Regards Eq := by
  refine regards_eq fun levels tree value h => ?_
  rw [Reader.string.eq_def] at h
  split at h
  · rfl
  · cases h

/-- Any values are read only from trees that have values. -/
theorem any_regards : Reader.any.Regards Eq := by
  refine regards_eq fun levels tree value h => ?_
  rw [Reader.any] at h
  split at h
  next hvalue => exact tree.isWellFormed_of_value? hvalue
  next => cases h

/-- What is made of what is read depends on nothing else. -/
theorem Regards.map (h : read.Regards relation) (f : α → β) :
    Reader.Regards (fun levels tree => (read levels tree).map f) relation where
  isWellFormed hread := by
    obtain ⟨value, hvalue, -⟩ := map_eq_ok_iff.1 hread
    exact h.isWellFormed hvalue
  toOption_eq levels tree other hrelation := by
    rw [toOption_map, toOption_map, h.toOption_eq levels hrelation]

/-- What may be null is read from related trees alike if only null is related to null. -/
theorem Regards.optional (h : read.Regards relation)
    (hnull : ∀ tree other, relation tree other →
      tree = other ∨ tree ≠ .scalar .null ∧ other ≠ .scalar .null) :
    (Reader.optional read).Regards relation where
  isWellFormed hread := by
    obtain ⟨rfl, -⟩ | ⟨value, hvalue, -⟩ := of_optional hread
    · rfl
    · exact h.isWellFormed hvalue
  toOption_eq levels tree other hrelation := by
    have hsome {tree : Tree} (htree : tree ≠ .scalar .null) :
        Reader.optional read levels tree = (read levels tree).map some := by
      rw [Reader.optional.eq_def]
      split
      · exact (htree rfl).elim
      · rfl
    obtain rfl | ⟨htree, hother⟩ := hnull _ _ hrelation
    · rfl
    · rw [hsome htree, hsome hother, toOption_map, toOption_map, h.toOption_eq levels hrelation]

/-- What may be null regards equality if what else it may be does. -/
theorem Regards.optional_eq (h : read.Regards relation) : (Reader.optional read).Regards Eq :=
  h.eq.optional fun _ _ => .inl

/-- What is left of reading inside an array or object depends on what is left inside. -/
theorem toOption_enter {inside others : Nat → Except ReadError α} (levels : Nat)
    (h : ∀ levels, (inside levels).toOption = (others levels).toOption) :
    (enter levels inside).toOption = (enter levels others).toOption := by
  cases levels with
  | zero => rfl
  | succ levels => exact h levels

/-- Arrays are read item by item. -/
theorem Regards.list (h : read.Regards relation) :
    (Reader.list read).Regards (Tree.EachItem relation) where
  isWellFormed hread := by
    obtain ⟨items, _, rfl, hitems⟩ := exists_of_list hread
    have hitems : Tree.areWellFormed items = true :=
      Tree.areWellFormed_iff.2 fun item hitem => by
        obtain ⟨_, -, hitem⟩ := exists_right_of_forall₂ hitems hitem
        exact h.isWellFormed hitem
    rw [Tree.isWellFormed, hitems]
    rfl
  toOption_eq levels tree other hrelation := by
    cases hrelation with
    | array hitems =>
        refine toOption_enter levels fun levels => ?_
        rw [toOption_bind, toOption_bind, toOption_mapM_eq (hitems.imp fun _ _ hitem =>
          h.toOption_eq levels hitem)]
    | same => rfl

/-- Objects of values of one kind are read value by value. -/
theorem Regards.table (h : read.Regards relation) :
    (Reader.table read).Regards (Tree.EachMember relation) where
  isWellFormed hread := by
    obtain ⟨members, _, _, rfl, -, hmembers⟩ := exists_of_table hread
    have hmembers : Tree.areMembersWellFormed members = true :=
      Tree.areMembersWellFormed_iff.2 fun member hmember => by
        obtain ⟨_, -, -, hmember⟩ := exists_right_of_forall₂ hmembers hmember
        exact h.isWellFormed hmember
    rw [Tree.isWellFormed, hmembers]
    rfl
  toOption_eq levels tree other hrelation := by
    cases hrelation with
    | object hmembers =>
        refine toOption_enter levels fun levels => ?_
        have hentries := hmembers.imp fun member other hmember => show
            (entry read levels member).toOption = (entry read levels other).toOption by
          obtain ⟨name?, value⟩ := member
          obtain ⟨_, inner⟩ := other
          obtain ⟨rfl, hvalue⟩ := hmember
          cases name? with
          | none => rfl
          | some name => rw [entry, entry, toOption_map, toOption_map, h.toOption_eq levels hvalue]
        rw [toOption_bind, toOption_bind, toOption_mapM_eq hentries]
    | same => rfl

end Reader

/-- The fields can be filled in either order. -/
def Field.Commutes {σ : Type} (first second : Field σ) : Prop :=
  ∀ ⦃levels : Nat⦄ ⦃tree other : Tree⦄ ⦃fill fill' : σ → σ⦄, first.read levels tree = .ok fill →
    second.read levels other = .ok fill' → ∀ value, fill (fill' value) = fill' (fill value)

/-- Which of two fields is filled first is only a matter of names. -/
instance {σ : Type} : Std.Symm (Field.Commutes (σ := σ)) where
  symm _ _ h _ _ _ _ _ hfill hfill' value := (h hfill' hfill value).symm

/-- Fields that are set can be filled in either order if they can be set in either order. -/
theorem Field.commutes {α β σ : Type} {read : Reader α} {read' : Reader β} {set : α → σ → σ}
    {set' : β → σ → σ}
    (h : ∀ inner inner' value, set inner (set' inner' value) = set' inner' (set inner value))
    (name name' : String) (required required' : Bool) :
    Field.Commutes ⟨name, required, fun levels tree => (read levels tree).map set⟩
      ⟨name', required', fun levels tree => (read' levels tree).map set'⟩ := by
  intro levels tree other fill fill' hfill hfill' value
  obtain ⟨inner, -, rfl⟩ := map_eq_ok_iff.1 hfill
  obtain ⟨inner', -, rfl⟩ := map_eq_ok_iff.1 hfill'
  exact h inner inner' value

namespace Layout

variable {σ : Type} {layout : Layout σ} {inner : String → Tree → Tree → Prop}

/-- The fields can be filled in any order. -/
def Independent (layout : Layout σ) : Prop :=
  layout.fields.Pairwise Field.Commutes

/-- The member is not declared: no field has its name. Its value has no fault. -/
def Ignores (layout : Layout σ) (member : Option String × Tree) : Prop :=
  ∃ name, member.1 = some name ∧ layout.field? name = none ∧ member.2.isWellFormed = true

/-- The members are the same, or both are for one field and their values are related. -/
inductive SameMember (layout : Layout σ) (inner : String → Tree → Tree → Prop) :
    Option String × Tree → Option String × Tree → Prop where
  | field {name : String} {field : Field σ} {tree other : Tree} :
      layout.field? name = some field → inner name tree other →
      SameMember layout inner (some name, tree) (some name, other)
  | same (member : Option String × Tree) : SameMember layout inner member member

/-- The members are the same up to their order and up to members that are not declared. -/
def SameMembers (layout : Layout σ) (inner : String → Tree → Tree → Prop)
    (members others : List (Option String × Tree)) : Prop :=
  ∃ kept kept' ignored ignored', members.Perm (kept ++ ignored) ∧ others.Perm (kept' ++ ignored') ∧
    List.Forall₂ (layout.SameMember inner) kept kept' ∧
    ∀ member ∈ ignored ++ ignored', layout.Ignores member

/-- The items in the places of fields are related one by one. -/
inductive SameItems (inner : String → Tree → Tree → Prop) :
    List (Field σ) → List Tree → List Tree → Prop where
  | nil (fields : List (Field σ)) : SameItems inner fields [] []
  | cons {field : Field σ} {fields : List (Field σ)} {item other : Tree}
      {items others : List Tree} :
      inner field.name item other → SameItems inner fields items others →
      SameItems inner (field :: fields) (item :: items) (other :: others)

/-- Trees of one structure, the values of its fields being related as the relation of their names
says. From an object to an object, members may be put in another order, and members that are not
declared may be put in or left out. -/
inductive Relaid (layout : Layout σ) (inner : String → Tree → Tree → Prop) :
    Tree → Tree → Prop where
  | object {members others : List (Option String × Tree)} {closed : Bool} :
      layout.SameMembers inner members others →
      Relaid layout inner (.object members closed) (.object others closed)
  | array {items others : List Tree} {closed : Bool} :
      SameItems inner layout.fields items others →
      Relaid layout inner (.array items closed) (.array others closed)
  | same (tree : Tree) : Relaid layout inner tree tree

/-! ## Members one by one -/

/-- What a member does to a structure that is read: nothing, or it fills the field of a name. -/
def effect? (layout : Layout σ) (levels : Nat) :
    Option String × Tree → Option (Option (String × (σ → σ)))
  | (none, _) => none
  | (some name, tree) =>
      match layout.field? name with
      | none => if tree.isWellFormed then some none else none
      | some field => (field.read levels tree).toOption.map fun fill => some (name, fill)

/-- A structure and the names of its fields given so far, after this has been done to it. A field
that was given cannot be filled. -/
def fill? : Option (String × (σ → σ)) → Finset String × σ → Option (Finset String × σ)
  | none, state => some state
  | some (name, fill), (seen, value) =>
      if name ∈ seen then none else some (insert name seen, fill value)

/-- A structure and the names of its fields given so far, after a member. -/
def after (layout : Layout σ) (levels : Nat) (state : Option (Finset String × σ))
    (member : Option String × Tree) : Option (Finset String × σ) :=
  (layout.effect? levels member).bind fun effect => state.bind (fill? effect)

/-- The structure behind the last member, if the object is closed and nothing is missing. -/
def end? (layout : Layout σ) (closed : Bool) (state : Finset String × σ) : Option σ :=
  if closed ∧ ∀ field ∈ layout.fields, field.required → field.name ∈ state.1 then some state.2
  else none

variable {levels : Nat} {closed : Bool} {seen : List String} {value : σ}
  {members others : List (Option String × Tree)}

/-- Objects are alike if they are when members are left out that are not declared. -/
theorem relaid_of_filter {keep : Option String × Tree → Bool}
    (hignored : ∀ member ∈ members ++ others, keep member = false → layout.Ignores member)
    (h : (members.filter keep).Perm (others.filter keep)) :
    layout.Relaid inner (.object members closed) (.object others closed) := by
  have hparts (members : List (Option String × Tree)) :
      members.Perm (members.filter keep ++ members.filter (!keep ·)) :=
    (List.filter_append_perm keep members).symm
  refine .object ⟨others.filter keep, others.filter keep, members.filter (!keep ·),
    others.filter (!keep ·), (hparts members).trans (h.append_right _), hparts others,
    List.forall₂_same.2 fun member _ => .same member, fun member hmember => ?_⟩
  rw [← List.filter_append, List.mem_filter, Bool.not_eq_true'] at hmember
  exact hignored member hmember.1 hmember.2

/-- What is not null in one layout is not null in another. -/
theorem Relaid.eq_or_ne_null {tree other : Tree} (h : layout.Relaid inner tree other) :
    tree = other ∨ tree ≠ .scalar .null ∧ other ≠ .scalar .null := by
  cases h with
  | object | array => exact .inr ⟨nofun, nofun⟩
  | same => exact .inl rfl

/-- Behind a fault there is nothing. -/
theorem foldl_after_none (members : List (Option String × Tree)) :
    members.foldl (layout.after levels) none = none := by
  induction members with
  | nil => rfl
  | cons member rest ih =>
      have hnone : layout.after levels none member = none := Option.bind_fun_none _
      rw [List.foldl_cons, hnone, ih]

/-- An object ends as it should if it is closed and no field is missing. -/
theorem toOption_readMembers_nil : (layout.readMembers levels closed seen value []).toOption =
    layout.end? closed (seen.toFinset, value) := by
  have hmissing : layout.missing? seen = none ↔
      ∀ field ∈ layout.fields, field.required → field.name ∈ seen.toFinset := by
    simp [missing?]
  rw [readMembers]
  simp only [end?, ← hmissing]
  cases closed with
  | false => rfl
  | true => cases layout.missing? seen <;> simp [Except.toOption]

/-- A field that was given cannot be filled. -/
theorem fill?_given {name : String} (h : name ∈ seen) (fill : σ → σ) :
    fill? (some (name, fill)) (seen.toFinset, value) = none :=
  if_pos (List.mem_toFinset.2 h)

/-- A field that is filled has been given. -/
theorem fill?_field {name : String} (h : name ∉ seen) (fill : σ → σ) :
    fill? (some (name, fill)) (seen.toFinset, value) =
      some ((name :: seen).toFinset, fill value) := by
  rw [List.toFinset_cons]
  exact if_neg (List.mem_toFinset.not.2 h)

/-- What is read is the structure behind the last member. -/
theorem toOption_readMembers : (layout.readMembers levels closed seen value members).toOption =
    (members.foldl (layout.after levels) (some (seen.toFinset, value))).bind
      (layout.end? closed) := by
  induction members generalizing seen value with
  | nil => exact toOption_readMembers_nil
  | cons member rest ih =>
      have hfault : (rest.foldl (layout.after levels) none).bind (layout.end? closed) = none := by
        rw [foldl_after_none, Option.bind_none]
      obtain ⟨name?, tree⟩ := member
      rw [List.foldl_cons]
      cases name? with
      | none => exact hfault.symm
      | some name =>
          rw [readMembers, after, effect?]
          cases layout.field? name with
          | none =>
              cases tree.isWellFormed with
              | true => exact ih
              | false => exact hfault.symm
          | some field =>
              dsimp only
              -- a field that was given is a fault, whether or not its value is one
              cases field.read levels tree with
              | error error =>
                  refine Eq.trans ?_ hfault.symm
                  split <;> rfl
              | ok fill =>
                  show _ = (rest.foldl _ (fill? (some (name, fill)) (seen.toFinset, value))).bind _
                  by_cases hseen : name ∈ seen
                  · rw [if_pos (List.contains_iff_mem.2 hseen), fill?_given hseen, hfault]
                    rfl
                  · rw [if_neg (List.contains_iff_mem.not.2 hseen), fill?_field hseen]
                    exact ih

/-! ## Other members in another order -/

variable {state : Finset String × σ}

/-- Whatever is done first, filling two fields comes to the same, if that holds of the values, and
fails for both orders if it is one field. -/
theorem fill?_comm {effect effect' : Option (String × (σ → σ))}
    (h : ∀ name fill name' fill', effect = some (name, fill) → effect' = some (name', fill') →
      name ≠ name' → ∀ value, fill (fill' value) = fill' (fill value)) :
    (fill? effect state).bind (fill? effect') = (fill? effect' state).bind (fill? effect) := by
  obtain ⟨seen, value⟩ := state
  cases effect with
  | none => exact (Option.bind_fun_some _).symm
  | some first =>
      cases effect' with
      | none => exact Option.bind_fun_some _
      | some second =>
          obtain ⟨name, fill⟩ := first
          obtain ⟨name', fill'⟩ := second
          by_cases heq : name = name'
          · subst heq
            by_cases hseen : name ∈ seen <;> simp [fill?, hseen]
          · have hne : ¬ name' = name := Ne.symm heq
            by_cases hseen : name ∈ seen <;> by_cases hseen' : name' ∈ seen <;>
              simp [fill?, hseen, hseen', heq, hne, Finset.insert_comm name,
                h name fill name' fill' rfl rfl heq]

/-- A member that fills a field is read by the field of its name. -/
theorem exists_of_effect? {member : Option String × Tree} {name : String} {fill : σ → σ}
    (h : layout.effect? levels member = some (some (name, fill))) :
    ∃ field ∈ layout.fields, field.name = name ∧ field.read levels member.2 = .ok fill := by
  obtain ⟨name?, tree⟩ := member
  cases name? with
  | none => cases h
  | some other =>
      rw [effect?] at h
      split at h
      next =>
        split at h
        · cases h
        · cases h
      next field hfield =>
        obtain ⟨_, hfill, hsome⟩ := Option.map_eq_some_iff.1 h
        cases hsome
        obtain ⟨hdeclared, hname⟩ := mem_of_field? hfield
        exact ⟨field, hdeclared, hname, toOption_eq_some_iff.1 hfill⟩

/-- Two members can be read in either order. -/
theorem Independent.after_comm (h : layout.Independent) (state : Option (Finset String × σ))
    (member other : Option String × Tree) :
    layout.after levels (layout.after levels state member) other =
      layout.after levels (layout.after levels state other) member := by
  rw [after, after, after, after]
  cases hmember : layout.effect? levels member with
  | none => simp
  | some effect =>
      cases hother : layout.effect? levels other with
      | none => simp
      | some effect' =>
          cases state with
          | none => rfl
          | some state =>
              refine fill?_comm fun name fill name' fill' heffect heffect' hname value => ?_
              obtain ⟨first, hfirst, rfl, hfill⟩ :=
                exists_of_effect? (hmember.trans (congrArg some heffect))
              obtain ⟨second, hsecond, rfl, hfill'⟩ :=
                exists_of_effect? (hother.trans (congrArg some heffect'))
              have hcommutes : first.Commutes second :=
                List.Pairwise.forall h hfirst hsecond (ne_of_apply_ne _ hname)
              exact hcommutes hfill hfill' value

/-- Members that are not declared change nothing. -/
theorem foldl_after_ignored (state : Option (Finset String × σ))
    (h : ∀ member ∈ members, layout.Ignores member) :
    members.foldl (layout.after levels) state = state := by
  induction members with
  | nil => rfl
  | cons member rest ih =>
      obtain ⟨hmember, hrest⟩ := List.forall_mem_cons.1 h
      obtain ⟨_, tree⟩ := member
      obtain ⟨name, rfl, hfield, htree⟩ := hmember
      have hsame : layout.after levels state (some name, tree) = state := by
        rw [after, effect?]
        simp only [hfield, htree, if_true, Option.bind_some]
        exact Option.bind_fun_some state
      rw [List.foldl_cons, hsame, ih hrest]

variable (hfields : ∀ field ∈ layout.fields, field.read.Regards (inner field.name))
include hfields

/-- Members that are the same do the same. -/
theorem SameMember.effect?_eq {member other : Option String × Tree}
    (h : layout.SameMember inner member other) :
    layout.effect? levels member = layout.effect? levels other := by
  cases h with
  | @field name field tree other hfield hinner =>
      obtain ⟨hdeclared, rfl⟩ := mem_of_field? hfield
      have hread := (hfields field hdeclared).toOption_eq levels hinner
      rw [effect?, effect?]
      simp only [hfield, hread]
  | same => rfl

/-- Members that are the same in order lead to the same structure. -/
theorem foldl_after_eq (state : Option (Finset String × σ))
    (h : List.Forall₂ (layout.SameMember inner) members others) :
    members.foldl (layout.after levels) state = others.foldl (layout.after levels) state := by
  induction h generalizing state with
  | nil => rfl
  | @cons member other _ _ hmember _ ih =>
      have hafter : layout.after levels state member = layout.after levels state other := by
        rw [after, after, hmember.effect?_eq hfields]
      rw [List.foldl_cons, List.foldl_cons, hafter, ih]

/-- Members that are the same up to their order and up to undeclared ones are read alike. -/
theorem SameMembers.toOption_eq (hindependent : layout.Independent)
    (h : layout.SameMembers inner members others) :
    (layout.readMembers levels closed seen value members).toOption =
      (layout.readMembers levels closed seen value others).toOption := by
  obtain ⟨kept, kept', ignored, ignored', hperm, hperm', hkept, hignored⟩ := h
  have hleft : ∀ member ∈ ignored, layout.Ignores member :=
    fun member hmember => hignored member (List.mem_append_left _ hmember)
  have hright : ∀ member ∈ ignored', layout.Ignores member :=
    fun member hmember => hignored member (List.mem_append_right _ hmember)
  have hstate (state : Option (Finset String × σ)) :
      members.foldl (layout.after levels) state = others.foldl (layout.after levels) state :=
    calc members.foldl (layout.after levels) state
        = (kept ++ ignored).foldl (layout.after levels) state :=
          hperm.foldl_eq' (fun _ _ _ _ state => hindependent.after_comm state _ _) state
      _ = kept.foldl (layout.after levels) state := by
          rw [List.foldl_append, foldl_after_ignored _ hleft]
      _ = kept'.foldl (layout.after levels) state := foldl_after_eq hfields state hkept
      _ = (kept' ++ ignored').foldl (layout.after levels) state := by
          rw [List.foldl_append, foldl_after_ignored _ hright]
      _ = others.foldl (layout.after levels) state :=
          hperm'.symm.foldl_eq' (fun _ _ _ _ state => hindependent.after_comm state _ _) state
  rw [toOption_readMembers, toOption_readMembers, hstate]

/-- Only from closed objects whose members have no faults is a structure read. -/
theorem isWellFormed_of_readMembers {final : σ}
    (h : layout.readMembers levels closed seen value members = .ok final) :
    (Tree.object members closed).isWellFormed = true := by
  induction members generalizing seen value with
  | nil => exact (of_readMembers_nil h).1
  | cons member rest ih =>
      have hparts : member.2.isWellFormed = true ∧
          (Tree.object rest closed).isWellFormed = true := by
        obtain ⟨name, -, ⟨-, htree, hrest⟩ | ⟨field, fill, hfield, -, hfill, hrest⟩⟩ :=
          of_readMembers_cons h
        · exact ⟨htree, ih hrest⟩
        · exact ⟨(hfields field (mem_of_field? hfield).1).isWellFormed hfill, ih hrest⟩
      rw [Tree.isWellFormed] at hparts ⊢
      rw [Tree.areMembersWellFormed, hparts.1, Bool.true_and, hparts.2]

/-! ## Items -/

omit hfields in
/-- Only from closed arrays whose items have no faults is a structure read. -/
theorem isWellFormed_of_readItems {fields : List (Field σ)} {items : List Tree} {final : σ}
    (hfields : ∀ field ∈ fields, field.read.Regards (inner field.name))
    (h : layout.readItems levels closed value fields items = .ok final) :
    (Tree.array items closed).isWellFormed = true := by
  induction items generalizing value fields with
  | nil => exact (of_readItems_nil h).1
  | cons item items ih =>
      obtain ⟨field, rest, fill, rfl, hfill, hrest⟩ := of_readItems_cons h
      obtain ⟨hfield, hothers⟩ := List.forall_mem_cons.1 hfields
      have hitems := ih hothers hrest
      rw [Tree.isWellFormed] at hitems ⊢
      rw [Tree.areWellFormed, hfield.isWellFormed hfill, Bool.true_and, hitems]

omit hfields in
/-- Items that are related one by one are read alike. -/
theorem SameItems.toOption_eq {fields : List (Field σ)} {items others : List Tree}
    (hfields : ∀ field ∈ fields, field.read.Regards (inner field.name))
    (h : SameItems inner fields items others) :
    (layout.readItems levels closed value fields items).toOption =
      (layout.readItems levels closed value fields others).toOption := by
  induction h generalizing value with
  | nil => rfl
  | cons hitem _ ih =>
      obtain ⟨hfield, hrest⟩ := List.forall_mem_cons.1 hfields
      rw [readItems, readItems, toOption_bind, toOption_bind, hfield.toOption_eq levels hitem]
      simp only [ih hrest]

/-- A structure whose fields can be filled in any order is read alike from trees that differ only in
the order of members, in members that are not declared, and in what the fields do not regard. -/
theorem regards (hindependent : layout.Independent) :
    layout.read.Regards (layout.Relaid inner) where
  isWellFormed {levels tree value} h := by
    rw [read.eq_def] at h
    split at h
    next =>
      obtain ⟨_, h⟩ := Reader.exists_of_enter h
      exact isWellFormed_of_readMembers hfields h
    next =>
      obtain ⟨_, h⟩ := Reader.exists_of_enter h
      exact isWellFormed_of_readItems hfields h
    next => cases h
  toOption_eq levels tree other h := by
    cases h with
    | object hmembers =>
        exact Reader.toOption_enter levels fun _ => hmembers.toOption_eq hfields hindependent
    | array hitems => exact Reader.toOption_enter levels fun _ => hitems.toOption_eq hfields
    | same => rfl

end Layout

end AppManifest
