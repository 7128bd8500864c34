import AppManifest.Json.Number
import AppManifest.Table

/-!
# JSON values

The values that schemas, defaults, step inputs and the manifest itself are made of. An object lists
its members; the reader lists them with the names ascending and each name once. `Json.same` is
equality of values up to the sign of floating-point zeros.
-/

namespace AppManifest

/-- A JSON value. -/
inductive Json where
  | null
  | bool (value : Bool)
  | number (value : Number)
  | string (value : String)
  | array (items : List Json)
  | object (members : List (String × Json))
deriving Inhabited

namespace Json

mutual

/-- Equality of values. Numbers of different kinds differ, and objects are compared member by
member. -/
def same : Json → Json → Bool
  | .null, .null => true
  | .bool first, .bool second => first == second
  | .number first, .number second => first == second
  | .string first, .string second => first == second
  | .array first, .array second => sameItems first second
  | .object first, .object second => sameMembers first second
  | _, _ => false

/-- Equality of lists of values. -/
def sameItems : List Json → List Json → Bool
  | [], [] => true
  | first :: rest, second :: others => first.same second && sameItems rest others
  | _, _ => false

/-- Equality of lists of named values. -/
def sameMembers : List (String × Json) → List (String × Json) → Bool
  | [], [] => true
  | (name, first) :: rest, (other, second) :: others =>
      name == other && first.same second && sameMembers rest others
  | _, _ => false

end

instance : BEq Json :=
  ⟨same⟩

mutual

/-- A value is equal to itself. -/
theorem same_self : (value : Json) → value.same value
  | .null => rfl
  | .bool value => beq_self_eq_true value
  | .number value => Number.same_self value
  | .string value => beq_self_eq_true value
  | .array items => sameItems_self items
  | .object members => sameMembers_self members

/-- A list of values is equal to itself. -/
theorem sameItems_self : (items : List Json) → sameItems items items
  | [] => rfl
  | item :: rest => by simp [sameItems, same_self item, sameItems_self rest]

/-- A list of named values is equal to itself. -/
theorem sameMembers_self : (members : List (String × Json)) → sameMembers members members
  | [] => rfl
  | (_, value) :: rest => by simp [sameMembers, same_self value, sameMembers_self rest]

end

instance : ReflBEq Json :=
  ⟨fun {value} => same_self value⟩

/-- The text of a string. -/
def asString? : Json → Option String
  | .string value => some value
  | _ => none

/-- The value of a boolean. -/
def asBool? : Json → Option Bool
  | .bool value => some value
  | _ => none

/-- The items of an array. -/
def asArray? : Json → Option (List Json)
  | .array items => some items
  | _ => none

/-- The members of an object. -/
def asObject? : Json → Option (Entries Json)
  | .object members => some members
  | _ => none

/-- The object of a table of values. -/
def ofTable (table : Table Json) : Json :=
  .object table.entries

/-- A member of an object that may be left out. -/
def member (name : String) : Option Json → Entries Json
  | some value => [(name, value)]
  | none => []

/-- The array of a list of strings. -/
def ofStrings (values : List String) : Json :=
  .array (values.map string)

/-- A floating-point number as a value. A result that is not a finite number is null. -/
def ofFloat? : Option Binary64 → Json
  | some value => .number (.float value)
  | none => .null

end Json

end AppManifest
