import FormulaPad.Duration
import FormulaPad.Suggestion.Source
import FormulaPad.Text.Quoted

/-!
# FormulaPad.CommandLine.Config

What a command line asks for, and the readings of those settings that are given
as text: bindings, durations and the log level.

A setting is read only by the mode that needs it, so a malformed one does no
harm elsewhere.
-/

namespace FormulaPad.CommandLine

/-! ## Settings -/

/-- Shells for which completions can be generated. -/
inductive Shell where
  | bash
  | elvish
  | fish
  | powershell
  | zsh
  deriving DecidableEq, Repr

namespace Shell

def all : List Shell := [bash, elvish, fish, powershell, zsh]

def name : Shell → Text
  | bash => "bash".toList
  | elvish => "elvish".toList
  | fish => "fish".toList
  | powershell => "powershell".toList
  | zsh => "zsh".toList

def ofName? (t : Text) : Option Shell := all.find? (·.name = t)

end Shell

/-- The address from which suggestions are fetched unless another one is given. -/
def defaultEndpoint : Text := "https://652f91320b8d8ddac0b2b62b.mockapi.io/autocomplete".toList

structure Config where
  formula : Option Text := none
  /-- The bindings as they are given, `NAME=VALUE`. -/
  tags : List Text := []
  autoBind : Bool := false
  endpoint : Text := defaultEndpoint
  suggestionsFile : Option Text := none
  cacheTtl : Text := "5m".toList
  timeout : Text := "10s".toList
  listSuggestions : Bool := false
  interactive : Bool := false
  quiet : Bool := false
  verbose : Bool := false
  logLevel : Text := "warn".toList
  logFile : Option Text := none
  completion : Option Shell := none

/-! ## Errors -/

/-- The settings that are durations. -/
inductive DurationSetting where
  | cacheTtl
  | timeout
  deriving DecidableEq, Repr

def DurationSetting.name : DurationSetting → Text
  | cacheTtl => "cache-ttl".toList
  | timeout => "timeout".toList

/-- Why a setting cannot be read. -/
inductive ConfigError where
  | invalidTag (given : Text)
  | invalidDuration (setting : DurationSetting) (given : Text)
  | invalidLogLevel (given : Text)
  deriving DecidableEq, Repr

def ConfigError.message : ConfigError → Text
  | invalidTag given => "invalid --tag ".toList ++ Text.quoted given ++ ": expected NAME=VALUE".toList
  | invalidDuration setting given =>
      "invalid duration ".toList ++ Text.quoted given ++ " for --".toList ++ setting.name
  | invalidLogLevel given => "invalid log level ".toList ++ Text.quoted given

/-! ## Readings -/

/-- A binding: the name is trimmed and must not be empty, the value is kept as it is. -/
def readTag (t : Text) : Except ConfigError (Text × Text) :=
  match Text.splitAt? '=' t with
  | none => .error (.invalidTag t)
  | some (name, value) =>
      if Text.trim name = [] then .error (.invalidTag t) else .ok (Text.trim name, value)

/-- All bindings in order, or the error of the first that is malformed. -/
def readTags : List Text → Except ConfigError (List (Text × Text))
  | [] => .ok []
  | t :: rest =>
      match readTag t with
      | .error e => .error e
      | .ok binding =>
          match readTags rest with
          | .error e => .error e
          | .ok bindings => .ok (binding :: bindings)

def readDuration (setting : DurationSetting) (given : Text) : Except ConfigError Duration :=
  match Duration.read? given with
  | some d => .ok d
  | none => .error (.invalidDuration setting given)

inductive LogLevel where
  | off
  | error
  | warn
  | info
  | debug
  | trace
  deriving DecidableEq, Repr

namespace LogLevel

/-- The levels in order; the place is the number of the level. -/
def all : List LogLevel := [off, error, warn, info, debug, trace]

def name : LogLevel → Text
  | off => "off".toList
  | error => "error".toList
  | warn => "warn".toList
  | info => "info".toList
  | debug => "debug".toList
  | trace => "trace".toList

/-- A level is given by its number, or by its name in upper or lower case; no text at all stands
for errors only. -/
def read (given : Text) : Except ConfigError LogLevel :=
  match (Duration.readCount? given).bind (all[·]?) with
  | some level => .ok level
  | none =>
      if given = [] then .ok error
      else
        match all.find? (·.name = given.map Char.toLower) with
        | some level => .ok level
        | none => .error (.invalidLogLevel given)

end LogLevel

/-- Where the log goes. -/
inductive LogSink where
  | stderr
  | file
  | discard
  deriving DecidableEq, Repr

namespace Config

/-- The interactive editor runs if it is asked for, or if nothing else is. -/
def isInteractive (c : Config) : Bool :=
  c.completion.isNone && (c.interactive || (c.formula.isNone && !c.listSuggestions))

def bindings (c : Config) : Except ConfigError (List (Text × Text)) := readTags c.tags

def readCacheTtl (c : Config) : Except ConfigError Duration := readDuration .cacheTtl c.cacheTtl

def readTimeout (c : Config) : Except ConfigError Duration := readDuration .timeout c.timeout

/-- The log must not be written over the interactive editor. -/
def logSink (c : Config) : LogSink :=
  if c.logFile.isSome then .file else if c.isInteractive then .discard else .stderr

/-- The source of suggestions. Only the network has a timeout. -/
def source (c : Config) : Except ConfigError Source :=
  match c.suggestionsFile with
  | some path => .ok (.file path)
  | none =>
      match c.readTimeout with
      | .error e => .error e
      | .ok _ => .ok (.endpoint c.endpoint)

end Config
end FormulaPad.CommandLine
