/-!
# References inside a manifest

A manifest names its own types as `#/types/<id>` and its own functions as `#/functions/<id>`. A text
with `#/` behind something else belongs to a namespace of the platform and names nothing here. A
function may also be named by its bare id.
-/

namespace AppManifest.Reference

/-- What stands in front of the id of a type. -/
def typeRoot : String :=
  "#/types/"

/-- What stands in front of the id of a function. -/
def functionRoot : String :=
  "#/functions/"

/-- What remains of a text behind a root, if it begins with it. -/
def after? (root text : String) : Option String :=
  (root.toList.isPrefixOf? text.toList).map String.ofList

/-- The mark `#/` stands in the characters. -/
def hasMark : List Char → Bool
  | '#' :: '/' :: _ => true
  | _ :: rest => hasMark rest
  | [] => false

/-- The text names something in a namespace, be it this manifest's or the platform's. -/
def isQualified (text : String) : Bool :=
  hasMark text.toList

/-- The reference to the type of an id. -/
def ofType (id : String) : String :=
  typeRoot ++ id

/-- The id of the type that a text refers to. -/
def typeId? (text : String) : Option String :=
  after? typeRoot text

/-- The reference to the function of an id. -/
def ofFunction (id : String) : String :=
  functionRoot ++ id

/-- The id of the function of this manifest that a text refers to. -/
def functionId? (text : String) : Option String :=
  match after? functionRoot text with
  | some id => some id
  | none => if isQualified text then none else some text

/-- The reference that a text stands for: a bare id refers to a function of this manifest. -/
def normalize (text : String) : String :=
  if isQualified text then text else ofFunction text

/-- The text is written as a reference to a function of this manifest. -/
def isLocalFunction (text : String) : Bool :=
  functionRoot.toList.isPrefixOf text.toList

end AppManifest.Reference
