import AppManifest.Definition.Basic

/-!
# Building definitions

A definition is built by a chain of links, each of which adds to it. Links about properties change
objects only; a property makes an untyped object a typed one. The remaining links set an annotation,
the last one winning.
-/

namespace AppManifest

/-- Appends the names that are not there yet, each once, in order of first mention. -/
def mention (names : List String) (known : List String) : List String :=
  names.foldl (fun known name => if known.contains name then known else known ++ [name]) known

namespace Kind

/-- Declares a property. Kinds that are no objects stay as they are. -/
def withProperty (name : String) (definition : Definition) : Kind → Kind
  | .untypedObject => .typedObject (Entries.insert name definition []) [] none
  | .typedObject properties required additional =>
      .typedObject (Entries.insert name definition properties) required additional
  | kind => kind

/-- Makes properties required. Kinds that are no typed objects stay as they are. -/
def withRequired (names : List String) : Kind → Kind
  | .typedObject properties required additional =>
      .typedObject properties (mention names required) additional
  | kind => kind

/-- Says whether properties that are not declared may be present. Kinds that are no typed objects
stay as they are. -/
def withAdditional (allowed : Bool) : Kind → Kind
  | .typedObject properties required _ => .typedObject properties required (some allowed)
  | kind => kind

end Kind

namespace Definition

/-- Declares a property of an object. -/
def withProperty (definition : Definition) (name : String) (property : Definition) : Definition :=
  { definition with kind := definition.kind.withProperty name property }

/-- Makes properties of a typed object required. -/
def withRequired (definition : Definition) (names : List String) : Definition :=
  { definition with kind := definition.kind.withRequired names }

/-- Says whether properties of a typed object that are not declared may be present. -/
def withAdditional (definition : Definition) (allowed : Bool) : Definition :=
  { definition with kind := definition.kind.withAdditional allowed }

/-- Sets the title. -/
def withTitle (definition : Definition) (title : String) : Definition :=
  { definition with notes.title := some title }

/-- Sets the description. -/
def withDescription (definition : Definition) (description : String) : Definition :=
  { definition with notes.description := some description }

/-- Sets the hint. -/
def withHint (definition : Definition) (hint : String) : Definition :=
  { definition with notes.hint := some hint }

/-- Sets the default. -/
def withDefault (definition : Definition) (default : Json) : Definition :=
  { definition with notes.default := some default }

/-- A link of a chain that builds a definition. -/
inductive Link where
  | property (name : String) (property : Definition)
  | required (names : List String)
  | additional (allowed : Bool)
  | title (title : String)
  | description (description : String)
  | hint (hint : String)
  | default (default : Json)

/-- What a link makes of a definition. -/
def apply (definition : Definition) : Link → Definition
  | .property name property => definition.withProperty name property
  | .required names => definition.withRequired names
  | .additional allowed => definition.withAdditional allowed
  | .title title => definition.withTitle title
  | .description description => definition.withDescription description
  | .hint hint => definition.withHint hint
  | .default default => definition.withDefault default

/-- What a chain of links makes of a definition. -/
def applyAll (definition : Definition) (links : List Link) : Definition :=
  links.foldl apply definition

end Definition

end AppManifest
