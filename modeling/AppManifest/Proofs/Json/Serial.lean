import AppManifest.Json.Serial
import AppManifest.Proofs.Json.Members

/-!
# Writing values as JSON

A JSON value presents only names as keys and is written as itself (`Json.write_serial`). A structure
is written if the fields that are not left out are, as the object of their members
(`Serial.write_struct`).
-/

namespace AppManifest

namespace Json

mutual

/-- A JSON value is written as itself. -/
theorem write_serial : (json : Json) → json.serial.write = .ok json
  | .null | .bool _ | .number _ | .string _ => rfl
  | .array items => by
      rw [serial, Serial.write, write_serialItems items]
      rfl
  | .object members => by
      rw [serial, Serial.write, write_serialMembers members]
      rfl

/-- A list of JSON values is written as itself. -/
theorem write_serialItems :
    (items : List Json) → Serial.writeItems (serialItems items) = .ok items
  | [] => rfl
  | item :: rest => by
      rw [serialItems, Serial.writeItems, write_serial item, write_serialItems rest]
      rfl

/-- Named JSON values are written as themselves. -/
theorem write_serialMembers :
    (members : List (String × Json)) → Serial.writeEntries (serialMembers members) = .ok members
  | [] => rfl
  | (name, value) :: rest => by
      rw [serialMembers, Serial.writeEntries, write_serial value, write_serialMembers rest]
      rfl

end

end Json

namespace Serial

/-- A table of JSON values is written as the object of its entries. -/
theorem write_table (values : Table Json) :
    (table values).write = .ok (.object values.entries) := by
  rw [table, write, Json.write_serialMembers]
  rfl

/-- A list of texts is written as the array of them. -/
theorem write_list_string (texts : List String) :
    (list (texts.map .string)).write = .ok (.array (texts.map .string)) := by
  have hitems : writeItems (texts.map .string) = .ok (texts.map .string) := by
    induction texts with
    | nil => rfl
    | cons text rest ih =>
        rw [List.map_cons, writeItems, ih]
        rfl
  rw [write, hitems]
  rfl

/-- A field of a structure is left out, or it is written as a member of its name. -/
inductive WritesField : String × Option Serial → String × Option Json → Prop
  | absent (name : String) : WritesField (name, none) (name, none)
  | present (name : String) {value : Serial} {json : Json} (h : value.write = .ok json) :
      WritesField (name, some value) (name, some json)

/-- A field that may be left out is written if each of its values is. -/
theorem WritesField.map {α : Type} {value : α → Serial} {json : α → Json}
    (h : ∀ inner, (value inner).write = .ok (json inner)) (name : String) (inner? : Option α) :
    WritesField (name, inner?.map value) (name, inner?.map json) := by
  cases inner? with
  | none => exact .absent name
  | some inner => exact .present name (h inner)

/-- A structure whose fields are written is written as the object of their members. -/
theorem write_struct {fields : List (String × Option Serial)}
    {members : List (String × Option Json)} (h : List.Forall₂ WritesField fields members) :
    (struct fields).write = .ok (.object (Json.members members)) := by
  have hentries : writeEntries (fields.filterMap fun field =>
      field.2.map fun value => (.string field.1, value)) = .ok (Json.members members) := by
    induction h with
    | nil => rfl
    | cons hfield _ ih =>
        cases hfield with
        | absent name => exact ih
        | present name hvalue =>
            rw [List.filterMap_cons, Option.map_some]
            dsimp only
            rw [writeEntries, hvalue, ih]
            rfl
  rw [struct, write, hentries]
  rfl

/-- A structure of one field is written as the object of one member. -/
theorem write_struct_singleton (name : String) {value : Serial} {json : Json}
    (h : value.write = .ok json) :
    (struct [(name, some value)]).write = .ok (.object [(name, json)]) :=
  write_struct (.cons (.present name h) .nil)

end Serial

end AppManifest
