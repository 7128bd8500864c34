import AppManifest.Json.Reading
import AppManifest.Provider

/-!
# Descriptions of apps

A description is an app as it is written down, in the layout of a manifest: schemas are JSON values,
because the types they refer to may come later. The layouts say how each structure is read; members
that they do not declare, such as the id of a step, are ignored.
-/

namespace AppManifest

/-- A parameter set as it is written. -/
structure ParameterSetDescription where
  properties : Table Json := ∅
  required : List String := []
deriving Inhabited

/-- A function as it is written. -/
structure FunctionDescription where
  title : String := ""
  description : Option String := none
  sourceFile : String := ""
  inputs : ParameterSetDescription := {}
  outputs : ParameterSetDescription := {}
deriving Inhabited

/-- A step as it is written. -/
structure StepDescription where
  function : String := ""
  inputs : Table Json := ∅
deriving Inhabited

/-- A workflow as it is written. -/
structure WorkflowDescription where
  title : String := ""
  description : Option String := none
  inputs : ParameterSetDescription := {}
  outputs : ParameterSetDescription := {}
  steps : List StepDescription := []
deriving Inhabited

/-- A datastore as it is written. -/
structure DatastoreDescription where
  primaryKey : String := ""
  attributes : Table Json := ∅
deriving Inhabited

/-- A provider as it is written. -/
structure ProviderDescription where
  type : ProviderType := .custom
  options : Json := .null
deriving Inhabited

/-- The external providers as they are written. -/
structure ProvidersDescription where
  oauth2 : Table ProviderDescription := ∅
deriving Inhabited

/-- An app as it is written. -/
structure AppDescription where
  name : String := ""
  description : Option String := none
  longDescription : Option String := none
  icon : Option String := none
  botScopes : List String := []
  types : Table Json := ∅
  functions : Table FunctionDescription := ∅
  workflows : Table WorkflowDescription := ∅
  datastores : Table DatastoreDescription := ∅
  providers : Option ProvidersDescription := none
deriving Inhabited

namespace ParameterSetDescription

/-- The fields of a parameter set. -/
def layout : Layout ParameterSetDescription where
  name := "RawParameterSet"
  blank := {}
  fields := [
    .defaulted "properties" (.table .any) fun value set => { set with properties := value },
    .defaulted "required" (.list .string) fun value set => { set with required := value }]

end ParameterSetDescription

namespace FunctionDescription

/-- The fields of a function. -/
def layout : Layout FunctionDescription where
  name := "RawFunction"
  blank := {}
  fields := [
    .mandatory "title" .string fun value function => { function with title := value },
    .defaulted "description" (.optional .string) fun value function =>
      { function with description := value },
    .mandatory "source_file" .string fun value function => { function with sourceFile := value },
    .defaulted "input_parameters" ParameterSetDescription.layout.read fun value function =>
      { function with inputs := value },
    .defaulted "output_parameters" ParameterSetDescription.layout.read fun value function =>
      { function with outputs := value }]

end FunctionDescription

namespace StepDescription

/-- The fields of a step. -/
def layout : Layout StepDescription where
  name := "RawStep"
  blank := {}
  fields := [
    .mandatory "function_id" .string fun value step => { step with function := value },
    .defaulted "inputs" (.table .any) fun value step => { step with inputs := value }]

end StepDescription

namespace WorkflowDescription

/-- The fields of a workflow. -/
def layout : Layout WorkflowDescription where
  name := "RawWorkflow"
  blank := {}
  fields := [
    .mandatory "title" .string fun value workflow => { workflow with title := value },
    .defaulted "description" (.optional .string) fun value workflow =>
      { workflow with description := value },
    .defaulted "input_parameters" ParameterSetDescription.layout.read fun value workflow =>
      { workflow with inputs := value },
    .defaulted "output_parameters" ParameterSetDescription.layout.read fun value workflow =>
      { workflow with outputs := value },
    .defaulted "steps" (.list StepDescription.layout.read) fun value workflow =>
      { workflow with steps := value }]

end WorkflowDescription

namespace DatastoreDescription

/-- The fields of a datastore. -/
def layout : Layout DatastoreDescription where
  name := "RawDatastore"
  blank := {}
  fields := [
    .mandatory "primary_key" .string fun value datastore => { datastore with primaryKey := value },
    .defaulted "attributes" (.table .any) fun value datastore =>
      { datastore with attributes := value }]

end DatastoreDescription

namespace ProviderType

/-- The type of a name that was read. -/
def read (name : String) : Except ReadError ProviderType :=
  match ofName? name with
  | some type => .ok type
  | none => .error (.unknownVariant name (all.map ProviderType.name))

/-- Reads the null that is the content of a type written as an object. -/
def readContent : Tree → Except ReadError Unit
  | .scalar .null => .ok ()
  | tree => .error (Reader.mismatch "unit" tree)

/-- Reads a type written as an object: the name of the type is the only name in it. -/
def readObject (closed : Bool) : List (Option String × Tree) → Except ReadError ProviderType
  | (some name, content) :: rest => do
      let type ← read name
      readContent content
      if rest.isEmpty && closed then .ok type else .error .malformed
  | _ => .error .malformed

/-- Reads a type: its name, or an object with null under its name. -/
def reader : Reader ProviderType := fun levels tree =>
  match tree with
  | .scalar (.string (some name)) => read name
  | .object members closed => Reader.enter levels fun _ => readObject closed members
  | _ => .error .malformed

end ProviderType

namespace ProviderDescription

/-- The fields of a provider. -/
def layout : Layout ProviderDescription where
  name := "RawProvider"
  blank := {}
  fields := [
    .mandatory "provider_type" ProviderType.reader fun value provider =>
      { provider with type := value },
    .defaulted "options" .any fun value provider => { provider with options := value }]

end ProviderDescription

namespace ProvidersDescription

/-- The fields of the external providers. -/
def layout : Layout ProvidersDescription where
  name := "RawExternalAuthProviders"
  blank := {}
  fields := [
    .defaulted "oauth2" (.table ProviderDescription.layout.read) fun value providers =>
      { providers with oauth2 := value }]

end ProvidersDescription

namespace AppDescription

/-- The fields of an app. -/
def layout : Layout AppDescription where
  name := "RawApp"
  blank := {}
  fields := [
    .mandatory "name" .string fun value app => { app with name := value },
    .defaulted "description" (.optional .string) fun value app => { app with description := value },
    .defaulted "long_description" (.optional .string) fun value app =>
      { app with longDescription := value },
    .defaulted "icon" (.optional .string) fun value app => { app with icon := value },
    .defaulted "bot_scopes" (.list .string) fun value app => { app with botScopes := value },
    .defaulted "types" (.table .any) fun value app => { app with types := value },
    .defaulted "functions" (.table FunctionDescription.layout.read) fun value app =>
      { app with functions := value },
    .defaulted "workflows" (.table WorkflowDescription.layout.read) fun value app =>
      { app with workflows := value },
    .defaulted "datastores" (.table DatastoreDescription.layout.read) fun value app =>
      { app with datastores := value },
    .defaulted "external_auth_providers" (.optional ProvidersDescription.layout.read)
      fun value app => { app with providers := value }]

/-- How deep arrays and objects of a text may be nested. -/
def maxLevels : Nat :=
  127

/-- The description that an outline of a text gives. What follows the value is a fault that is met
last. -/
def ofOutline (outline : Outline) : Except ReadError AppDescription := do
  let app ← layout.read maxLevels outline.tree
  if outline.trailing then .error .malformed else .ok app

/-- The description that a text gives. -/
def read (text : String) : Except ReadError AppDescription :=
  ofOutline (Outline.ofText text)

end AppDescription

end AppManifest
