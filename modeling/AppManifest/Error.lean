/-!
# Errors

What can go wrong when a manifest is made from its declarations (`ExportError`) and when a
description is turned into declarations (`DescriptionError`), with the text of each.
-/

namespace AppManifest

/-- Why a manifest cannot be made. -/
inductive ExportError where
  /-- Two entities of a kind, whose keys have to be unique, have the same key. -/
  | duplicateKey (kind key : String)
  /-- The inputs of a step cannot be written. -/
  | templatize (workflow step reason : String)
  /-- The document cannot be written. -/
  | serialization (reason : String)
deriving DecidableEq

namespace ExportError

/-- The text of an error. -/
def message : ExportError → String
  | .duplicateKey kind key =>
      "Duplicate " ++ kind ++ " key '" ++ key ++ "': each " ++ kind ++ " must have a unique key"
  | .templatize workflow step reason =>
      "Failed to templatize inputs of step '" ++ step ++ "' in workflow '" ++ workflow ++ "': " ++
        reason
  | .serialization reason => "Failed to serialize manifest: " ++ reason

end ExportError

/-- Why a description cannot be turned into a manifest. -/
inductive DescriptionError where
  /-- The text cannot be read as a description. -/
  | unreadable (reason : String)
  /-- A schema of the owner refers to a type that is not declared. -/
  | unknownType (owner reference : String)
  /-- The definition of a type leads back to the type. -/
  | cyclicType (id : String)
  /-- The schema of a parameter of the owner is defective. -/
  | invalidParameter (owner parameter reason : String)
deriving DecidableEq

namespace DescriptionError

/-- The text of an error. -/
def message : DescriptionError → String
  | .unreadable reason => "Failed to parse app description JSON: " ++ reason
  | .unknownType owner reference =>
      "Type reference '" ++ reference ++ "' in '" ++ owner ++
        "' does not match any declared custom type"
  | .cyclicType id => "Custom type '" ++ id ++ "' references itself through its own definition"
  | .invalidParameter owner parameter reason =>
      "Parameter '" ++ parameter ++ "' in '" ++ owner ++ "' has an invalid schema: " ++ reason

end DescriptionError

end AppManifest
