/-!
# Command-line options

The command takes the path of a description and options, in any order. Short options may be joined,
and the value of an option follows it as the next argument, behind an equals sign, or, for a short
one, directly. After `--` everything is a path (`Options.parse`).
-/

namespace AppManifest

/-- What the command is asked to do. -/
structure Options where
  /-- The path of the description. -/
  path : String
  /-- Where the manifest is written, if not to the standard output. -/
  output : Option String
  /-- The manifest is indented. -/
  indented : Bool
  /-- The templates of each workflow are listed. -/
  paths : Bool
  /-- How many times more log events are asked for. -/
  verbosity : Nat
deriving DecidableEq

/-- Why the arguments of the command cannot be understood. -/
inductive UsageError where
  | missingPath
  | missingValue (option : String)
  | unexpected (argument : String)
  | repeated (option : String)
deriving DecidableEq

namespace UsageError

/-- The text of an error. -/
def message : UsageError → String
  | .missingPath => "the path of an app description is missing"
  | .missingValue option => "a value is required for '" ++ option ++ "'"
  | .unexpected argument => "unexpected argument '" ++ argument ++ "'"
  | .repeated option => "'" ++ option ++ "' cannot be used more than once"

end UsageError

namespace Options

/-- The arguments understood so far. -/
structure Draft where
  path : Option String := none
  output : Option String := none
  indented : Bool := false
  paths : Bool := false
  verbosity : Nat := 0

namespace Draft

/-- Takes the path of the description. -/
def takePath (path : String) (draft : Draft) : Except UsageError Draft :=
  if draft.path.isSome then .error (.unexpected path) else .ok { draft with path := some path }

/-- Takes the path of the manifest. -/
def takeOutput (path : String) (draft : Draft) : Except UsageError Draft :=
  if draft.output.isSome then .error (.repeated "--output")
  else .ok { draft with output := some path }

/-- Takes the option of an indented manifest. -/
def takeIndented (draft : Draft) : Except UsageError Draft :=
  if draft.indented then .error (.repeated "--pretty") else .ok { draft with indented := true }

/-- Takes the option of listed templates. -/
def takePaths (draft : Draft) : Except UsageError Draft :=
  if draft.paths then .error (.repeated "--paths") else .ok { draft with paths := true }

/-- Takes the option of more log events. -/
def takeVerbose (draft : Draft) : Draft :=
  { draft with verbosity := draft.verbosity + 1 }

/-- The options, once all arguments are taken. -/
def complete (draft : Draft) : Except UsageError Options :=
  match draft.path with
  | some path => .ok ⟨path, draft.output, draft.indented, draft.paths, draft.verbosity⟩
  | none => .error .missingPath

end Draft

/-- What the arguments behind a place are to be. -/
inductive Expect where
  /-- Options and the path. -/
  | anything
  /-- The value of the option for the path of the manifest. -/
  | output
  /-- Paths only. -/
  | path

/-- Takes joined short options. -/
def takeShort (argument : String) : List Char → Draft → Except UsageError (Draft × Expect)
  | [], draft => .ok (draft, .anything)
  | 'p' :: rest, draft => do takeShort argument rest (← draft.takeIndented)
  | 'v' :: rest, draft => takeShort argument rest draft.takeVerbose
  | ['o'], draft => .ok (draft, .output)
  | 'o' :: '=' :: value, draft => do
      return (← draft.takeOutput (String.ofList value), .anything)
  | 'o' :: value, draft => do return (← draft.takeOutput (String.ofList value), .anything)
  | _ :: _, _ => .error (.unexpected argument)

/-- Takes one argument where options are expected. -/
def takeArgument (argument : String) (draft : Draft) : Except UsageError (Draft × Expect) :=
  match argument.toList with
  | ['-', '-'] => .ok (draft, .path)
  | '-' :: '-' :: _ =>
      if argument = "--pretty" then do return (← draft.takeIndented, .anything)
      else if argument = "--paths" then do return (← draft.takePaths, .anything)
      else if argument = "--verbose" then .ok (draft.takeVerbose, .anything)
      else if argument = "--output" then .ok (draft, .output)
      else
        match "--output=".toList.isPrefixOf? argument.toList with
        | some value => do return (← draft.takeOutput (String.ofList value), .anything)
        | none => .error (.unexpected argument)
  | '-' :: letter :: rest => takeShort argument (letter :: rest) draft
  | _ => do return (← draft.takePath argument, .anything)

/-- Takes the arguments that are left. -/
def takeAll : Expect → List String → Draft → Except UsageError Draft
  | .output, [], _ => .error (.missingValue "--output")
  | _, [], draft => .ok draft
  | .output, value :: rest, draft =>
      match value.toList with
      | '-' :: _ :: _ => .error (.missingValue "--output")
      | _ => do takeAll .anything rest (← draft.takeOutput value)
  | .path, argument :: rest, draft => do takeAll .path rest (← draft.takePath argument)
  | .anything, argument :: rest, draft => do
      let (draft, expect) ← takeArgument argument draft
      takeAll expect rest draft

/-- The options that the arguments give. -/
def parse (arguments : List String) : Except UsageError Options := do
  (← takeAll .anything arguments {}).complete

end Options

end AppManifest
