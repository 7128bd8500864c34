import AppManifest.Json.Basic

/-!
# Values that are to be written

A value that is to be written presents itself part by part. A map may have keys of any form, and
only texts, booleans and numbers can be names of members, so writing can fail (`Serial.write`).
-/

namespace AppManifest

/-- What a value presents to be written. The keys of a map are presented as values are. -/
inductive Serial where
  | null
  | bool (value : Bool)
  | number (value : Number)
  | string (value : String)
  | list (items : List Serial)
  | map (entries : List (Serial × Serial))

namespace Serial

/-- The name that a key of a map is written as. -/
def name : Serial → Except String String
  | .string value => .ok value
  | .bool value => .ok (if value then "true" else "false")
  | .number value => .ok value.render
  | .null | .list _ | .map _ => .error "key must be a string"

mutual

/-- The JSON value that a value is written as. -/
def write : Serial → Except String Json
  | .null => .ok .null
  | .bool value => .ok (.bool value)
  | .number value => .ok (.number value)
  | .string value => .ok (.string value)
  | .list items => do
      let values ← writeItems items
      return .array values
  | .map entries => do
      let members ← writeEntries entries
      return .object members

/-- The JSON values that a list of values is written as. -/
def writeItems : List Serial → Except String (List Json)
  | [] => return []
  | item :: rest => do
      let value ← item.write
      let values ← writeItems rest
      return value :: values

/-- The members that the entries of a map are written as, in order. -/
def writeEntries : List (Serial × Serial) → Except String (Entries Json)
  | [] => return []
  | (key, item) :: rest => do
      let name ← key.name
      let value ← item.write
      let members ← writeEntries rest
      return (name, value) :: members

end

/-- What a structure presents: its fields under their names, without those that are left out. -/
def struct (fields : List (String × Option Serial)) : Serial :=
  .map (fields.filterMap fun field => field.2.map fun value => (.string field.1, value))

end Serial

namespace Json

mutual

/-- What a JSON value presents to be written. -/
def serial : Json → Serial
  | .null => .null
  | .bool value => .bool value
  | .number value => .number value
  | .string value => .string value
  | .array items => .list (serialItems items)
  | .object members => .map (serialMembers members)

/-- What a list of JSON values presents to be written. -/
def serialItems : List Json → List Serial
  | [] => []
  | item :: rest => item.serial :: serialItems rest

/-- What named JSON values present to be written. -/
def serialMembers : List (String × Json) → List (Serial × Serial)
  | [] => []
  | (name, value) :: rest => (.string name, value.serial) :: serialMembers rest

end

end Json

/-- What a table of JSON values presents to be written. -/
def Serial.table (values : Table Json) : Serial :=
  .map (Json.serialMembers values.entries)

end AppManifest
