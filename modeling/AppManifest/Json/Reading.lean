import AppManifest.Json.Tree
import AppManifest.Text.Quoted

/-!
# Reading structures from text

A reader takes the tree of a text and gives a value or the first fault in reading order. Faults of
the text itself are all alike; faults of the data name what is missing, given twice, or of another
kind than expected. Arrays and objects may be nested at most as deep as the reader is told.

`Layout` describes a structure by its fields. A structure is read by filling a blank one field by
field, from an object whose members may come in any order and may include undeclared ones
(`Layout.readMembers`), or from an array of its fields in order (`Layout.readItems`).
-/

namespace AppManifest

/-- Why a text cannot be read. -/
inductive ReadError where
  /-- The text is not well-formed JSON, or is nested too deep, or holds a number that is too large
  or half of a surrogate pair. -/
  | malformed
  | missingField (field : String)
  | duplicateField (field : String)
  | invalidType (found : Found) (expected : String)
  /-- An array ends before a field that has to be there. -/
  | invalidLength (length : Nat) (layout : String) (fields : Nat)
  | unknownVariant (variant : String) (expected : List String)

namespace Found

/-- What was found, as it is named in a message. -/
def describe : Found → String
  | .scalar .null => "null"
  | .scalar (.bool value) => "boolean `" ++ (if value then "true" else "false") ++ "`"
  | .scalar (.number (some (.integer value))) => "integer `" ++ toString value ++ "`"
  | .scalar (.number (some (.float value))) =>
      "floating point `" ++ Number.renderFloat value ++ "`"
  | .scalar (.number none) => "number"
  | .scalar (.string (some value)) => "string " ++ Text.quoted value
  | .scalar (.string none) => "string"
  | .array => "sequence"
  | .object => "map"

end Found

namespace ReadError

/-- A name between backquotes. -/
def backquoted (name : String) : String :=
  "`" ++ name ++ "`"

/-- The text of a fault. -/
def message : ReadError → String
  | .malformed => "<syntax>"
  | .missingField field => "missing field " ++ backquoted field
  | .duplicateField field => "duplicate field " ++ backquoted field
  | .invalidType found expected =>
      "invalid type: " ++ found.describe ++ ", expected " ++ expected
  | .invalidLength length layout fields =>
      "invalid length " ++ toString length ++ ", expected struct " ++ layout ++ " with " ++
        toString fields ++ (if fields = 1 then " element" else " elements")
  | .unknownVariant variant expected =>
      "unknown variant " ++ backquoted variant ++ ", expected " ++
        String.intercalate " or " (expected.map backquoted)

end ReadError

/-- A reader: from the levels of nesting that are left and a tree to a value. -/
abbrev Reader (α : Type) := Nat → Tree → Except ReadError α

namespace Reader

variable {α β σ : Type}

/-- The fault of a tree that is not of the expected kind. -/
def mismatch (expected : String) (tree : Tree) : ReadError :=
  match tree.found? with
  | some found => .invalidType found expected
  | none => .malformed

/-- Enters an array or object if there is a level left for it. -/
def enter (levels : Nat) (inside : Nat → Except ReadError α) : Except ReadError α :=
  match levels with
  | 0 => .error .malformed
  | levels + 1 => inside levels

/-- Reads a string. -/
def string : Reader String := fun _ tree =>
  match tree with
  | .scalar (.string (some value)) => .ok value
  | tree => .error (mismatch "a string" tree)

/-- Reads null as nothing, and anything else as the reader does. -/
def optional (read : Reader α) : Reader (Option α) := fun levels tree =>
  match tree with
  | .scalar .null => .ok none
  | tree => (read levels tree).map some

/-- Reads any value. -/
def any : Reader Json := fun levels tree =>
  match tree.value? levels with
  | some value => .ok value
  | none => .error .malformed

/-- Reads an array of values of one kind. -/
def list (read : Reader α) : Reader (List α) := fun levels tree =>
  match tree with
  | .array items closed =>
      enter levels fun levels => do
        let values ← items.mapM (read levels)
        if closed then .ok values else .error .malformed
  | tree => .error (mismatch "a sequence" tree)

/-- Reads one named value. -/
def entry (read : Reader α) (levels : Nat) :
    Option String × Tree → Except ReadError (String × α)
  | (some name, tree) => (read levels tree).map (name, ·)
  | (none, _) => .error .malformed

/-- Reads an object of values of one kind. Of several values under one name the last is kept. -/
def table (read : Reader α) : Reader (Table α) := fun levels tree =>
  match tree with
  | .object members closed =>
      enter levels fun levels => do
        let entries ← members.mapM (entry read levels)
        if closed then .ok (Table.ofList entries) else .error .malformed
  | tree => .error (mismatch "a map" tree)

end Reader

/-- A field of a structure: its name, whether it has to be there, and how its value is read and put
into the structure. -/
structure Field (σ : Type) where
  name : String
  required : Bool
  read : Reader (σ → σ)

namespace Field

variable {α σ : Type}

/-- A field that has to be there. -/
def mandatory (name : String) (read : Reader α) (set : α → σ → σ) : Field σ :=
  ⟨name, true, fun levels tree => (read levels tree).map set⟩

/-- A field that may be left out. -/
def defaulted (name : String) (read : Reader α) (set : α → σ → σ) : Field σ :=
  ⟨name, false, fun levels tree => (read levels tree).map set⟩

end Field

/-- The layout of a structure: its name in messages, its fields in order, and the structure that has
no field filled. -/
structure Layout (σ : Type) where
  name : String
  blank : σ
  fields : List (Field σ)

namespace Layout

variable {σ : Type}

/-- The field of a name, if it is declared. -/
def field? (layout : Layout σ) (name : String) : Option (Field σ) :=
  layout.fields.find? (·.name == name)

/-- The first field that has to be there and is not among the names. -/
def missing? (layout : Layout σ) (seen : List String) : Option (Field σ) :=
  layout.fields.find? fun field => field.required && !seen.contains field.name

/-- Fills a structure from the members of an object. A field may be given once, under the names seen
so far; undeclared members have to be well-formed and are ignored. -/
def readMembers (layout : Layout σ) (levels : Nat) (closed : Bool) :
    List String → σ → List (Option String × Tree) → Except ReadError σ
  | seen, value, [] =>
      if !closed then .error .malformed
      else
        match layout.missing? seen with
        | some field => .error (.missingField field.name)
        | none => .ok value
  | _, _, (none, _) :: _ => .error .malformed
  | seen, value, (some name, tree) :: rest =>
      match layout.field? name with
      | none =>
          if tree.isWellFormed then layout.readMembers levels closed seen value rest
          else .error .malformed
      | some field =>
          if seen.contains name then .error (.duplicateField name)
          else do
            let fill ← field.read levels tree
            layout.readMembers levels closed (name :: seen) (fill value) rest

/-- Fills a structure from the items of an array, one for each of the fields that are left. -/
def readItems (layout : Layout σ) (levels : Nat) (closed : Bool) :
    σ → List (Field σ) → List Tree → Except ReadError σ
  | value, [], [] => if closed then .ok value else .error .malformed
  | _, [], _ :: _ => .error .malformed
  | value, field :: fields, item :: items => do
      let fill ← field.read levels item
      layout.readItems levels closed (fill value) fields items
  | value, field :: fields, [] =>
      if !closed then .error .malformed
      else if field.required then
        .error (.invalidLength (layout.fields.length - (fields.length + 1)) layout.name
          layout.fields.length)
      else layout.readItems levels closed value fields []

/-- Reads a structure from an object or from an array of its fields. -/
def read (layout : Layout σ) : Reader σ := fun levels tree =>
  match tree with
  | .object members closed =>
      Reader.enter levels fun levels =>
        layout.readMembers levels closed [] layout.blank members
  | .array items closed =>
      Reader.enter levels fun levels =>
        layout.readItems levels closed layout.blank layout.fields items
  | tree => .error (Reader.mismatch ("struct " ++ layout.name) tree)

end Layout

end AppManifest
