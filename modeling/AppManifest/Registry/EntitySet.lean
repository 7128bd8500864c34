import AppManifest.Event
import Std.Data.TreeSet

/-!
# Sets of entities

Entities of one kind in the order in which they were registered, at most one for each id. The first
entity of an id stays; what becomes of a later one depends only on whether it is equal to the first.
An index of the ids tells which are taken.
-/

namespace AppManifest

/-- Definitions that are registered under an id. Equality of definitions holds of each with
itself. -/
class Entity (α : Type) extends BEq α, ReflBEq α where
  /-- What the definitions are. -/
  kind : EntityKind
  id : α → String

namespace Entity

variable {α : Type}

/-- Equality of entities. Types may use other types many times over, and following every use can
take very long; a definition compared with itself is not followed at all. -/
def same [Entity α] (first second : α) : Bool :=
  withPtrEq first second (fun _ => first == second) fun h => h ▸ BEq.rfl

/-- Not following a definition makes no difference to the result. -/
theorem same_eq [Entity α] (first second : α) : same first second = (first == second) :=
  rfl

end Entity

/-- What becomes of a definition that is registered. -/
inductive Registration where
  | inserted
  /-- The id is taken by an equal definition. -/
  | unchanged
  /-- The id is taken by a different definition. -/
  | conflicting
deriving DecidableEq

namespace Registration

/-- The event that reports a registration. -/
def event (kind : EntityKind) (id : String) : Registration → Event
  | .inserted => .registered kind id
  | .unchanged => .alreadyRegistered kind id
  | .conflicting => .conflicting kind id

end Registration

/-- Entities in the order of their registration, with an index of their ids. -/
structure EntitySet (α : Type) where
  entries : List α
  ids : Std.TreeSet String

namespace EntitySet

variable {α : Type}

/-- The set without entities. -/
def empty : EntitySet α :=
  ⟨[], ∅⟩

instance : EmptyCollection (EntitySet α) :=
  ⟨empty⟩

/-- The id is taken. -/
def contains (set : EntitySet α) (id : String) : Bool :=
  set.ids.contains id

/-- The entity of an id. -/
def find? [Entity α] (set : EntitySet α) (id : String) : Option α :=
  set.entries.find? fun entity => Entity.id entity == id

/-- The number of entities. -/
def size (set : EntitySet α) : Nat :=
  set.entries.length

/-- Appends an entity unless its id is taken. -/
def insert [Entity α] (set : EntitySet α) (entity : α) : Registration × EntitySet α :=
  let id := Entity.id entity
  if set.contains id then
    match set.find? id with
    | some existing => (if Entity.same existing entity then .unchanged else .conflicting, set)
    | none => (.unchanged, set)
  else (.inserted, ⟨set.entries ++ [entity], set.ids.insert id⟩)

end EntitySet

end AppManifest
