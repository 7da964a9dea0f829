import FormulaPad.CommandLine.Config

/-!
# FormulaPad.CommandLine.Arguments

Reading the arguments of the command line.

```
--name          a flag                    -qv     several flags
--name=VALUE    an option with its value  -fVALUE, -f=VALUE
--name VALUE    the same                  -f VALUE
```

All options but `--tag` may be given once only, and there are no arguments
besides options. Arguments are read from left to right. The value of an option
that stands in an argument of its own is looked at when the next option has been
recognised, or at the end; that an argument is unknown is found before.
-/

namespace FormulaPad.CommandLine

/-! ## Options -/

/-- The options of the command line. -/
inductive Opt where
  | formula
  | tag
  | autoBind
  | endpoint
  | suggestionsFile
  | cacheTtl
  | timeout
  | listSuggestions
  | interactive
  | quiet
  | verbose
  | logLevel
  | logFile
  | completion
  | help
  | version
  deriving DecidableEq, Repr

namespace Opt

/-- The long names. -/
def names : List (Text × Opt) :=
  [("formula".toList, formula), ("tag".toList, tag), ("auto-bind".toList, autoBind),
    ("endpoint".toList, endpoint), ("suggestions-file".toList, suggestionsFile),
    ("cache-ttl".toList, cacheTtl), ("timeout".toList, timeout),
    ("list-suggestions".toList, listSuggestions), ("tui".toList, interactive),
    ("quiet".toList, quiet), ("verbose".toList, verbose), ("log-level".toList, logLevel),
    ("log-file".toList, logFile), ("completion".toList, completion), ("help".toList, help),
    ("version".toList, version)]

def ofName? (name : Text) : Option Opt := names.lookup name

def ofLetter? (c : Char) : Option Opt :=
  if c = 'f' then some formula
  else if c = 't' then some tag
  else if c = 'q' then some quiet
  else if c = 'v' then some verbose
  else if c = 'h' then some help
  else if c = 'V' then some version
  else none

def takesValue : Opt → Bool
  | formula | tag | endpoint | suggestionsFile | cacheTtl | timeout | logLevel | logFile
  | completion => true
  | autoBind | listSuggestions | interactive | quiet | verbose | help | version => false

/-- The option may be given more than once. -/
def isRepeatable (o : Opt) : Bool := o == tag

end Opt

/-! ## Rejection -/

/-- Why a command line is not run. The last two are requests and no errors. -/
inductive Rejection where
  | unknownArgument
  /-- A value is missing, empty where it must not be, or not one of those allowed. -/
  | invalidValue
  /-- An option is given twice. -/
  | argumentConflict
  /-- A flag is given a value. -/
  | tooManyValues
  | displayHelp
  | displayVersion
  deriving DecidableEq, Repr

def Rejection.exitCode : Rejection → Nat
  | displayHelp | displayVersion => 0
  | unknownArgument | invalidValue | argumentConflict | tooManyValues => 2

/-! ## Settling an option -/

/-- An option and its values; those that are awaited may be missing. -/
structure Occurrence where
  opt : Opt
  value : Option Text

/-- What has been read: the settings so far, the options that set them, and the option whose
value is an argument of its own. -/
structure Reading where
  config : Config := {}
  given : List Opt := []
  pending : Option Occurrence := none

/-- Set what an option with a value sets. -/
def setValue (c : Config) (o : Opt) (v : Text) : Except Rejection Config :=
  match o with
  | .formula => .ok { c with formula := some v }
  | .tag => .ok { c with tags := c.tags ++ [v] }
  | .endpoint => .ok { c with endpoint := v }
  | .suggestionsFile =>
      if v = [] then .error .invalidValue else .ok { c with suggestionsFile := some v }
  | .cacheTtl => .ok { c with cacheTtl := v }
  | .timeout => .ok { c with timeout := v }
  | .logLevel => .ok { c with logLevel := v }
  | .logFile => if v = [] then .error .invalidValue else .ok { c with logFile := some v }
  | .completion =>
      match Shell.ofName? v with
      | some shell => .ok { c with completion := some shell }
      | none => .error .invalidValue
  | .autoBind | .listSuggestions | .interactive | .quiet | .verbose | .help | .version => .ok c

/-- Set what a flag sets. -/
def setFlag (c : Config) : Opt → Except Rejection Config
  | .autoBind => .ok { c with autoBind := true }
  | .listSuggestions => .ok { c with listSuggestions := true }
  | .interactive => .ok { c with interactive := true }
  | .quiet => .ok { c with quiet := true }
  | .verbose => .ok { c with verbose := true }
  | .help => .error .displayHelp
  | .version => .error .displayVersion
  | _ => .ok c

/-- Take an option into account that is complete. -/
def settle (r : Reading) (o : Occurrence) : Except Rejection Reading :=
  if o.opt.takesValue && o.value.isNone then .error .invalidValue
  else if r.given.contains o.opt && !o.opt.isRepeatable then .error .argumentConflict
  else
    let set := match o.value with
      | some v => setValue r.config o.opt v
      | none => setFlag r.config o.opt
    match set with
    | .error e => .error e
    | .ok config => .ok { r with config := config, given := o.opt :: r.given }

/-- Take the pending option into account, if there is one. -/
def settlePending (r : Reading) : Except Rejection Reading :=
  match r.pending with
  | none => .ok r
  | some o => settle { r with pending := none } o

/-- An option that is complete, after the one before it. -/
def takeOption (r : Reading) (o : Occurrence) : Except Rejection Reading :=
  match settlePending r with
  | .error e => .error e
  | .ok r => settle r o

/-- An option whose value is to come, after the one before it. -/
def awaitValue (r : Reading) (o : Opt) : Except Rejection Reading :=
  match settlePending r with
  | .error e => .error e
  | .ok r => .ok { r with pending := some ⟨o, none⟩ }

/-! ## Reading arguments -/

/-- An option by its long name, with a value or without. -/
def takeLong (r : Reading) (name : Text) (value : Option Text) : Except Rejection Reading :=
  match Opt.ofName? name with
  | none => .error .unknownArgument
  | some o =>
      if o.takesValue then
        match value with
        | some v => takeOption r ⟨o, some v⟩
        | none => awaitValue r o
      else
        match value with
        | some _ => .error .tooManyValues
        | none => takeOption r ⟨o, none⟩

/-- Letters after a single hyphen: flags, and at last an option with the rest as its value. -/
def takeLetters (r : Reading) : Text → Except Rejection Reading
  | [] => .ok r
  | c :: rest =>
      match Opt.ofLetter? c with
      | none => .error .unknownArgument
      | some o =>
          if o.takesValue then
            match rest with
            | [] => awaitValue r o
            | '=' :: v => takeOption r ⟨o, some v⟩
            | v => takeOption r ⟨o, some v⟩
          else
            match takeOption r ⟨o, none⟩ with
            | .error e => .error e
            | .ok r => takeLetters r rest

/-- An argument that is no option: the value that is awaited, or it is unknown. -/
def takePlain (r : Reading) (t : Text) : Except Rejection Reading :=
  match r.pending with
  | some ⟨o, none⟩ => .ok { r with pending := some ⟨o, some t⟩ }
  | _ => .error .unknownArgument

/-- One argument other than `--`. -/
def takeArgument (r : Reading) : Text → Except Rejection Reading
  | '-' :: '-' :: t =>
      match Text.splitAt? '=' t with
      | some (name, value) => takeLong r name (some value)
      | none => takeLong r t none
  | '-' :: c :: t => takeLetters r (c :: t)
  | t => takePlain r t

/-- All arguments; after `--` there are no more options, and nothing else is known. -/
def takeArguments (r : Reading) : List Text → Except Rejection Reading
  | [] => settlePending r
  | t :: rest =>
      if t = "--".toList then
        if rest = [] then settlePending r else .error .unknownArgument
      else
        match takeArgument r t with
        | .error e => .error e
        | .ok r => takeArguments r rest

/-- What the arguments ask for. -/
def readArguments (arguments : List Text) : Except Rejection Config :=
  (takeArguments {} arguments).map (·.config)

end FormulaPad.CommandLine
