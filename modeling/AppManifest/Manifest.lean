import AppManifest.Json.Printer
import AppManifest.Json.Serial
import AppManifest.Registry.Sections

/-!
# Manifests

A manifest declares an app. Exporting it registers every declaration in a fresh registry and writes
what is registered then as a document: functions first, so that a declared function comes before one
of a step with its id, then workflows, types, datastores and providers. `Manifest.compile` gives the
document, or the error that stops it, with the events of the run. `Document.writeText` gives the
text of a document, or the error that stops the writing.
-/

namespace AppManifest

/-- The declarations of an app. -/
structure Manifest where
  name : String
  description : Option String := none
  longDescription : Option String := none
  icon : Option String := none
  botScopes : List String := []
  functions : List AppFunction := []
  workflows : List Workflow := []
  types : List CustomType := []
  datastores : List Datastore := []
  providers : List Provider := []

/-- The document of an app. -/
structure Document where
  name : String
  description : Option String
  longDescription : Option String
  icon : Option String
  /-- The scopes of the bot, if it has any. -/
  botScopes : Option (List String)
  sections : Sections

namespace Document

/-- What the document presents to be written: its fields and, among them, those of its sections. -/
def serial (document : Document) : Serial :=
  .struct [
    ("display_information", some (.struct [
      ("name", some (.string document.name)),
      ("description", document.description.map .string),
      ("long_description", document.longDescription.map .string)])),
    ("icon", document.icon.map .string),
    ("oauth_config", document.botScopes.map fun scopes =>
      .struct [("scopes", some (.struct [("bot", some (.list (scopes.map .string)))]))]),
    ("functions", some (.table document.sections.functions)),
    ("types", some (.table document.sections.types)),
    ("workflows", some (.table document.sections.workflows)),
    ("datastores", some (.table document.sections.datastores)),
    ("external_auth_providers", document.sections.providers.map fun providers =>
      .struct [("oauth2", some (.table providers))])]

/-- The document as it is written, if it can be. -/
def write (document : Document) : Except ExportError Json :=
  document.serial.write.mapError .serialization

/-- The text of the document, indented or without blanks, if it can be written. -/
def writeText (document : Document) (indented : Bool) : Except ExportError String := do
  let value ← document.write
  return if indented then value.pretty else value.compact

/-- The document as a JSON value, its members in the order in which they are written. -/
def toJson (document : Document) : Json :=
  .object ([("display_information", .object (("name", .string document.name) ::
      Json.member "description" (document.description.map .string) ++
      Json.member "long_description" (document.longDescription.map .string)))] ++
    Json.member "icon" (document.icon.map .string) ++
    Json.member "oauth_config" (document.botScopes.map fun scopes =>
      .object [("scopes", .object [("bot", .ofStrings scopes)])]) ++
    document.sections.members)

/-- The text of the document, indented or without blanks. -/
def render (document : Document) (indented : Bool) : String :=
  if indented then document.toJson.pretty else document.toJson.compact

end Document

/-- The outcome of exporting a manifest. -/
structure Compilation where
  events : List Event
  result : Except ExportError Document

namespace Manifest

/-- A declaration of an app. -/
inductive Declaration where
  | description (text : String)
  | longDescription (text : String)
  | icon (path : String)
  | botScopes (scopes : List String)
  | function (function : AppFunction)
  | workflow (workflow : Workflow)
  | type (type : CustomType)
  | datastore (datastore : Datastore)
  | provider (provider : Provider)

/-- Adds a declaration. Of several texts of one kind the last is kept; everything else is added to
what was declared before. -/
def declare (manifest : Manifest) : Declaration → Manifest
  | .description text => { manifest with description := some text }
  | .longDescription text => { manifest with longDescription := some text }
  | .icon path => { manifest with icon := some path }
  | .botScopes scopes => { manifest with botScopes := manifest.botScopes ++ scopes }
  | .function function => { manifest with functions := manifest.functions ++ [function] }
  | .workflow workflow => { manifest with workflows := manifest.workflows ++ [workflow] }
  | .type type => { manifest with types := manifest.types ++ [type] }
  | .datastore datastore => { manifest with datastores := manifest.datastores ++ [datastore] }
  | .provider provider => { manifest with providers := manifest.providers ++ [provider] }

/-- The manifest of an app of this name with these declarations. -/
def ofDeclarations (name : String) (declarations : List Declaration) : Manifest :=
  declarations.foldl declare { name := name }

/-- Registers every declaration but the providers. -/
def register (manifest : Manifest) : Registry :=
  let registry := manifest.functions.foldl
    (fun registry function => (registry.registerFunction function).2) Registry.empty
  let registry := manifest.workflows.foldl
    (fun registry workflow => (registry.registerWorkflow workflow).2) registry
  let registry := registry.registerTypes manifest.types
  manifest.datastores.foldl
    (fun registry datastore => (registry.registerDatastore datastore).2) registry

/-- Registers every declaration, up to the first provider whose key is taken. -/
def registerAll (manifest : Manifest) : Registry × Except ExportError Unit :=
  manifest.register.registerProviders manifest.providers

/-- The document of what is registered. -/
def documentOf (manifest : Manifest) (registry : Registry) : Document where
  name := manifest.name
  description := manifest.description
  longDescription := manifest.longDescription
  icon := manifest.icon
  botScopes := if manifest.botScopes.isEmpty then none else some manifest.botScopes
  sections := registry.sections

/-- The event that all declarations are registered. -/
def completion (manifest : Manifest) (registry : Registry) : Event :=
  .registrationComplete manifest.name registry.functions.size registry.types.size

/-- Exports the manifest. -/
def compile (manifest : Manifest) : Compilation :=
  match manifest.registerAll with
  | (registry, .error error) => ⟨registry.events, .error error⟩
  | (registry, .ok ()) =>
      ⟨registry.events ++ [manifest.completion registry], .ok (manifest.documentOf registry)⟩

end Manifest

end AppManifest
