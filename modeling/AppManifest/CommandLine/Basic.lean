import AppManifest.CommandLine.Options
import AppManifest.Description.Conversion

/-!
# The command

The command reads a description, converts it, lists the templates of its workflows if it is asked
to, and writes the manifest to the standard output or to a file. `CommandLine.run` says what it does
in terms of reading and writing files, whatever these files are, and ends with an `Outcome`.
-/

namespace AppManifest

/-- Reading and writing of files by path. A failure has a text. -/
structure Files (m : Type → Type) where
  read : String → m (Except String String)
  write : String → String → m (Except String Unit)

/-- How the command ends. -/
structure Outcome where
  status : Nat
  /-- The text for the standard output. -/
  output : String
  /-- The lines for the standard error. -/
  notes : List String
  /-- The line that reports a written file, to be followed by the time it took. -/
  summary : Option String
  events : List Event

namespace CommandLine

/-- A text followed by blanks up to a width. -/
def padded (width : Nat) (text : String) : String :=
  text ++ String.ofList (List.replicate (width - text.length) ' ')

/-- The templates of the declared properties of an object, one a line. -/
def propertyLines (label : String) (width : Nat) (node : ObjectPlaceholder) : List String :=
  node.declaredNames.map fun name =>
    label ++ padded width name ++ " " ++ (node.get name).render

/-- The templates of a step. -/
def stepLines (step : Step) : List String :=
  ("  step " ++ step.id ++ " -> " ++ step.reference ++ " outputs " ++ step.outputs.render) ::
    propertyLines "    output " 18 step.outputs

/-- The templates of a workflow. -/
def workflowLines (workflow : Workflow) : List String :=
  ("Workflow '" ++ workflow.id ++ "':") ::
    propertyLines "  input  " 20 workflow.inputs ++ workflow.steps.flatMap stepLines

/-- The end of a command that failed. -/
def failure (notes : List String) (reason : String) (events : List Event) : Outcome :=
  ⟨1, "", notes ++ ["\nError: " ++ reason], none, events⟩

/-- The report of a written file. -/
def written (document : Document) (path : String) : String :=
  "Wrote manifest for '" ++ document.name ++ "' to '" ++ path ++ "' (" ++
    toString document.sections.functions.size ++ " functions, " ++
    toString document.sections.types.size ++ " types, " ++
    toString document.sections.workflows.size ++ " workflows)"

/-- The end of a command that was to put the text of a document into a file. -/
def stored (notes : List String) (events : List Event) (document : Document) (path : String) :
    Except String Unit → Outcome
  | .ok () => ⟨0, "", notes, some (written document path), events⟩
  | .error reason =>
      failure notes ("Failed to write manifest to '" ++ path ++ "': " ++ reason) events

variable {m : Type → Type} [Monad m]

/-- Writes the text of a document where the options say. -/
def deliver (files : Files m) (options : Options) (notes : List String) (events : List Event)
    (document : Document) (text : String) : m Outcome := do
  match options.output with
  | none => return ⟨0, text ++ "\n", notes, none, events⟩
  | some path => return stored notes events document path (← files.write path text)

/-- Writes a document, if it has a text. -/
def finish (files : Files m) (options : Options) (notes : List String) (events : List Event)
    (document : Document) : m Outcome :=
  match document.writeText options.indented with
  | .ok text => deliver files options notes events document text
  | .error error => return failure notes error.message events

/-- Makes the manifest of a description that was converted. -/
def compile (files : Files m) (options : Options) (conversion : Conversion) : m Outcome :=
  let notes := if options.paths then conversion.manifest.workflows.flatMap workflowLines else []
  let compilation := conversion.manifest.compile
  let events := conversion.events ++ compilation.events
  match compilation.result with
  | .ok document => finish files options notes events document
  | .error error => return failure notes ("Manifest export failed: " ++ error.message) events

/-- Runs the command. -/
def run (files : Files m) (options : Options) : m Outcome := do
  match ← files.read options.path with
  | .error reason =>
      return failure [] ("Failed to read app file '" ++ options.path ++ "': " ++ reason) []
  | .ok text =>
      match AppDescription.load text with
      | .error error =>
          return failure [] ("Failed to load app description: " ++ error.message) []
      | .ok conversion => compile files options conversion

end CommandLine

end AppManifest
