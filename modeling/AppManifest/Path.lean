import AppManifest.Json.Basic

/-!
# Paths of runtime values

A path names a value that exists only while a workflow runs, by segments joined with dots. It is
rendered between double braces, and the platform replaces this template by the value. Empty segments
leave no trace, so an absent namespace can be passed as an empty one.
-/

namespace AppManifest

/-- The path of a runtime value. -/
structure Path where
  /-- The segments, joined by dots. -/
  text : String
deriving DecidableEq, Inhabited

namespace Path

/-- The path of these segments, without the empty ones. -/
def ofSegments (segments : List String) : Path :=
  ⟨String.intercalate "." (segments.filter fun segment => !segment.isEmpty)⟩

/-- The path of those segments that are there and not empty. -/
def ofOptionalSegments (segments : List (Option String)) : Path :=
  ofSegments (segments.filterMap id)

/-- The path one segment deeper. -/
def child (path : Path) (name : String) : Path :=
  ofSegments [path.text, name]

/-- The path has no segments. -/
def isEmpty (path : Path) : Bool :=
  path.text.isEmpty

/-- The template that the platform replaces by the value at the path. -/
def render (path : Path) : String :=
  "\x7b\x7b" ++ path.text ++ "\x7d\x7d"

/-- The path as a JSON value: its template. -/
def toJson (path : Path) : Json :=
  .string path.render

/-- Paths are ordered by their texts. -/
instance : LE Path :=
  ⟨fun first second => first.text ≤ second.text⟩

instance (first second : Path) : Decidable (first ≤ second) :=
  inferInstanceAs (Decidable (first.text ≤ second.text))

/-- Paths in ascending order, repeated ones kept. -/
def sort (paths : List Path) : List Path :=
  paths.mergeSort fun first second => decide (first ≤ second)

/-- How many different paths there are in a list. -/
def countDistinct (paths : List Path) : Nat :=
  paths.eraseDups.length

end Path

end AppManifest
