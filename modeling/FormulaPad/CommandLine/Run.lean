import FormulaPad.CommandLine.Config
import FormulaPad.Editor.AutoBind
import FormulaPad.Report
import FormulaPad.Suggestion.Cache
import FormulaPad.Suggestion.Table

/-!
# FormulaPad.CommandLine.Run

Running a command line that evaluates a formula or lists suggestions.

A run is a function of the configuration and of how the fetch from a source
ends; its result is all that is printed, the error if there is one, and the exit
code. A failed fetch counts as a fetch of no suggestions.
-/

namespace FormulaPad.CommandLine

/-! ## Results of runs -/

def programName : Text := "tagcalc".toList

def version : Text := "0.1.0".toList

def fullVersion : Text := programName ++ ' ' :: version

/-- Why a run fails. -/
inductive RunError where
  | config (e : ConfigError)
  | evaluation (e : EvaluationError)

def RunError.message : RunError → Text
  | config e => e.message
  | evaluation e => e.message

/-- The exit code: 2 for a formula without result, 4 for a setting that cannot be read. -/
def RunError.exitCode : RunError → Nat
  | config _ => 4
  | evaluation _ => 2

/-- What a run prints, and how it ends. -/
structure RunResult where
  output : Text := []
  error : Option RunError := none

def RunResult.exitCode (r : RunResult) : Nat := (r.error.map (·.exitCode)).getD 0

/-- The modes of the program. -/
inductive Mode where
  | completion (shell : Shell)
  | listing
  | interactive
  | evaluation
  deriving DecidableEq, Repr

def Config.mode (c : Config) : Mode :=
  match c.completion with
  | some shell => .completion shell
  | none =>
      if c.listSuggestions then .listing
      else if c.isInteractive then .interactive
      else .evaluation

/-! ## Suggestions -/

/-- The cache of the source, as it is configured. -/
def cacheOf (c : Config) (outcome : Source → FetchOutcome) : Except ConfigError Cache :=
  match c.source with
  | .error e => .error e
  | .ok source =>
      match c.readCacheTtl with
      | .error e => .error e
      | .ok ttl => .ok { ttl := ttl, outcome := fun _ => outcome source }

/-- The suggestions of the source. -/
def fetch (c : Config) (outcome : Source → FetchOutcome) : Except ConfigError (List Suggestion) :=
  (cacheOf c outcome).map fun cache => (cache.getAt 0).1

/-! ## Evaluation -/

/-- An editor that holds a formula and bindings, later ones overwriting earlier ones. -/
def prepare (formula : Text) (bindings : List (Text × Text)) : Editor :=
  bindings.foldl (fun e b => e.selectTagValue b.1 b.2) (({} : Editor).load formula)

/-- The suggestions that tags are bound from, none unless that is wanted. -/
def bindingSuggestions (c : Config) (outcome : Source → FetchOutcome) :
    Except ConfigError (List Suggestion) :=
  if c.autoBind then fetch c outcome else .ok []

/-- Print the result of the formula; nothing for an empty formula. -/
def runEvaluation (c : Config) (bindings : List (Text × Text)) (outcome : Source → FetchOutcome)
    (colour : Bool) : RunResult :=
  let formula := c.formula.getD []
  if formula = [] then {}
  else
    match bindingSuggestions c outcome with
    | .error e => { error := some (.config e) }
    | .ok suggestions =>
        let (editor, added) := (prepare formula bindings).autoBind suggestions
        let result := Evaluation.evaluate editor.store.formula editor.store.tags
        { output := Report.present ⟨c.verbose, c.quiet, colour⟩ formula (bindings ++ added) result
          error := match result with
            | .ok _ => none
            | .error e => some (.evaluation e) }

/-! ## Listing -/

/-- Print the table of suggestions, below a heading unless the run is quiet. -/
def runListing (c : Config) (outcome : Source → FetchOutcome) (colour : Bool) : RunResult :=
  match fetch c outcome with
  | .error e => { error := some (.config e) }
  | .ok suggestions =>
      let heading :=
        if c.quiet then [] else Text.lines [Report.headerLine "Suggestions".toList colour]
      { output := heading ++ Suggestion.table suggestions }

/-! ## Running -/

/-- The interactive editor prints nothing here, but it starts only if its settings can be read. -/
def runInteractive (c : Config) (outcome : Source → FetchOutcome) : RunResult :=
  match cacheOf c outcome with
  | .error e => { error := some (.config e) }
  | .ok _ => {}

/-- The run of a configuration. Completions are not printed here. -/
def run (c : Config) (outcome : Source → FetchOutcome) (colour : Bool) : RunResult :=
  match c.completion with
  | some _ => {}
  | none =>
      match c.bindings with
      | .error e => { error := some (.config e) }
      | .ok bindings =>
          match c.mode with
          | .listing => runListing c outcome colour
          | .evaluation => runEvaluation c bindings outcome colour
          | .interactive => runInteractive c outcome
          | .completion _ => {}

end FormulaPad.CommandLine
