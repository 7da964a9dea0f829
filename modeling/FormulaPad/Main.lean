import FormulaPad.CommandLine.Arguments
import FormulaPad.CommandLine.Run

/-!
# FormulaPad.Main

The program: it reads the arguments and the file of suggestions, and prints what
`CommandLine.run` says. What is printed, and with which exit code, is decided
there; here are only the files and streams, and the hints for those command lines
that run nothing.
-/

namespace FormulaPad.CommandLine

/-- The hint for a command line that is rejected. -/
def Rejection.hint : Rejection → String
  | unknownArgument => "unexpected argument"
  | invalidValue => "a value is missing, or is not one of those allowed"
  | argumentConflict => "an option is given more than once"
  | tooManyValues => "a flag takes no value"
  | displayHelp =>
      "options: --formula --tag --auto-bind --endpoint --suggestions-file --cache-ttl --timeout " ++
        "--list-suggestions --tui --quiet --verbose --log-level --log-file --completion"
  | displayVersion => String.ofList fullVersion

/-- How the fetch from a source ends. The network cannot be reached from here. -/
def fetchFrom : Source → IO FetchOutcome
  | .fixed suggestions => return .ok suggestions
  | .file path => do
      match ← (IO.FS.readFile (String.ofList path)).toBaseIO with
      | .ok content => return Source.ofFile (some content.toList)
      | .error _ => return Source.ofFile none
  | .endpoint _ => return .error .network

/-- The outcome of the fetch if the configuration makes one. -/
def fetchFor (c : Config) : IO FetchOutcome :=
  match c.source with
  | .ok source => if c.listSuggestions || c.autoBind then fetchFrom source else return .ok []
  | .error _ => return .ok []

/-- Colours are wanted unless they are switched off; results have them on a terminal only. -/
def wantsColour (c : Config) : IO Bool := do
  if (← IO.getEnv "NO_COLOR").isSome then return false
  else if c.mode = .listing then return true
  else (← IO.getStdout).isTty

def printError (message : Text) : IO Unit := IO.eprintln s!"[ERROR] {String.ofList message}"

/-- Run a configuration, and give the exit code. -/
def runConfig (c : Config) : IO UInt32 := do
  match LogLevel.read c.logLevel with
  | .error e =>
      printError e.message
      return (RunError.config e).exitCode.toUInt32
  | .ok _ =>
      let outcome ← fetchFor c
      let result := run c (fun _ => outcome) (← wantsColour c)
      IO.print (String.ofList result.output)
      match result.error with
      | some (.config e) => printError e.message
      | _ => pure ()
      return result.exitCode.toUInt32

/-- Read the arguments and run what they ask for. -/
def runArguments (arguments : List Text) : IO UInt32 :=
  match readArguments arguments with
  | .ok config => runConfig config
  | .error rejection => do
      if rejection.exitCode = 0 then IO.println rejection.hint
      else IO.eprintln s!"error: {rejection.hint}"
      return rejection.exitCode.toUInt32

end FormulaPad.CommandLine

/-- The program. -/
def main (arguments : List String) : IO UInt32 :=
  FormulaPad.CommandLine.runArguments (arguments.map String.toList)
