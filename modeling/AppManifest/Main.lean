import AppManifest.CommandLine.Basic

/-!
# The program

Runs the command on the files of the system. Log events are written to the standard error, from the
level that the options ask for.
-/

namespace AppManifest

/-- The text of a failure of the system, with its number. -/
def systemError : IO.Error → String
  | .noFileOrDirectory .. => "No such file or directory (os error 2)"
  | .inappropriateType _ code details | .permissionDenied _ code details
  | .invalidArgument _ code details | .resourceExhausted _ code details
  | .alreadyExists _ code details | .noSuchThing _ code details | .otherError code details
  | .hardwareFault code details | .resourceBusy code details
  | .unsupportedOperation code details =>
      details ++ " (os error " ++ toString code ++ ")"
  | error => toString error

/-- The files of the system. -/
def systemFiles : Files IO where
  read path := do
    match ← (IO.FS.readBinFile path).toBaseIO with
    | .error error => return .error (systemError error)
    | .ok bytes =>
        match String.fromUTF8? bytes with
        | some text => return .ok text
        | none => return .error "stream did not contain valid UTF-8"
  write path text := do
    match ← (IO.FS.writeFile path text).toBaseIO with
    | .error error => return .error (systemError error)
    | .ok () => return .ok ()

/-- The event is shown when this much more is asked for. -/
def isShown (verbosity : Nat) (event : Event) : Bool :=
  match event.level with
  | .warn => true
  | .debug => 1 ≤ verbosity
  | .trace => 2 ≤ verbosity

/-- An event as a line of the log. -/
def logLine (event : Event) : String :=
  let field : String × EventField → String
    | (name, .text value) => " " ++ name ++ "=" ++ value
    | (name, .count value) => " " ++ name ++ "=" ++ toString value
  event.level.name.toUpper ++ " " ++ event.message ++ String.join (event.fields.map field)

/-- Runs the command and shows how it ends. -/
def runProgram (arguments : List String) : IO UInt32 := do
  match Options.parse arguments with
  | .error error =>
      IO.eprintln ("error: " ++ error.message)
      return 2
  | .ok options =>
      let start ← IO.monoMsNow
      let outcome ← CommandLine.run systemFiles options
      for event in outcome.events do
        if isShown options.verbosity event then IO.eprintln (logLine event)
      for note in outcome.notes do
        IO.eprintln note
      if let some summary := outcome.summary then
        let stop ← IO.monoMsNow
        IO.eprintln (summary ++ " in " ++ toString (stop - start) ++ "ms")
      IO.print outcome.output
      return outcome.status.toUInt32

end AppManifest

def main (arguments : List String) : IO UInt32 :=
  AppManifest.runProgram arguments
