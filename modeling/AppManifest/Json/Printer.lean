import AppManifest.Json.Basic
import AppManifest.Json.Quoted

/-!
# JSON text

`Json.compact` writes a value without blanks, `Json.pretty` with one item or member a line, each
level indented by two spaces. An empty array or object is written without a line break in both.
-/

namespace AppManifest.Json

mutual

/-- The text of a value without blanks. -/
def compact : Json → String
  | .null => "null"
  | .bool value => if value then "true" else "false"
  | .number value => value.render
  | .string value => quoted value
  | .array items => "[" ++ String.intercalate "," (compactItems items) ++ "]"
  | .object members => "\x7b" ++ String.intercalate "," (compactMembers members) ++ "\x7d"

/-- The texts of the items of an array. -/
def compactItems : List Json → List String
  | [] => []
  | item :: rest => item.compact :: compactItems rest

/-- The texts of the members of an object. -/
def compactMembers : List (String × Json) → List String
  | [] => []
  | (name, value) :: rest => (quoted name ++ ":" ++ value.compact) :: compactMembers rest

end

/-- A line break and the indentation of a level. -/
def newline (level : Nat) : String :=
  "\n" ++ String.ofList (List.replicate (2 * level) ' ')

/-- The parts of an array or object of a level between its brackets, one a line. -/
def lines (level : Nat) : List String → String
  | [] => ""
  | parts =>
      newline (level + 1) ++ String.intercalate ("," ++ newline (level + 1)) parts ++ newline level

mutual

/-- The indented text of a value that stands at a level. -/
def prettyAt (level : Nat) : Json → String
  | .null => "null"
  | .bool value => if value then "true" else "false"
  | .number value => value.render
  | .string value => quoted value
  | .array items => "[" ++ lines level (prettyItems (level + 1) items) ++ "]"
  | .object members => "\x7b" ++ lines level (prettyMembers (level + 1) members) ++ "\x7d"

/-- The indented texts of the items of an array. -/
def prettyItems (level : Nat) : List Json → List String
  | [] => []
  | item :: rest => item.prettyAt level :: prettyItems level rest

/-- The indented texts of the members of an object. -/
def prettyMembers (level : Nat) : List (String × Json) → List String
  | [] => []
  | (name, value) :: rest =>
      (quoted name ++ ": " ++ value.prettyAt level) :: prettyMembers level rest

end

/-- The text of a value, indented. -/
def pretty (value : Json) : String :=
  value.prettyAt 0

end AppManifest.Json
