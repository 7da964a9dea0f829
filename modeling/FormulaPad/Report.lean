import FormulaPad.Decimal.Shortest
import FormulaPad.Evaluation

/-!
# FormulaPad.Report

The result of a formula as it is printed on a terminal, with the bindings it
rests on, and the colours of results and headings.
-/

namespace FormulaPad.Report

/-! ## Colours -/

inductive Colour where
  | red
  | green
  | cyan

/-- The number by which a terminal knows the colour. -/
def Colour.code : Colour → Nat
  | red => 31
  | green => 32
  | cyan => 36

/-- A control sequence that selects a way of writing. -/
def select (code : Nat) : Text := '\x1b' :: '[' :: Text.ofNat code ++ ['m']

/-- The text in bold and in a colour. -/
def bold (c : Colour) (t : Text) : Text := select c.code ++ select 1 ++ t ++ select 0

/-- A heading. -/
def headerLine (t : Text) (colour : Bool) : Text :=
  let line := "=== ".toList ++ t ++ " ===".toList
  if colour then bold .cyan line else line

/-- A result, red if there is none. -/
def styledResult (t : Text) (failed colour : Bool) : Text :=
  if colour then bold (if failed then .red else .green) t else t

/-! ## Reports -/

/-- The bindings in order, separated by commas. -/
def bindingsText (bindings : List (Text × Text)) : Text :=
  Text.joinWith ", ".toList (bindings.map fun (name, value) => name ++ " = ".toList ++ value)

/-- How much is printed, and how. -/
structure Options where
  verbose : Bool := false
  quiet : Bool := false
  colour : Bool := false

/-- The result of an evaluation as it is displayed. -/
def display : Except EvaluationError Float → Text
  | .ok value => Money.format (.ofFloat value)
  | .error _ => Evaluation.invalidMessage

def failed : Except EvaluationError Float → Bool
  | .ok _ => false
  | .error _ => true

/-- The exact value, or the cause of the failure. -/
def detail : Except EvaluationError Float → Text
  | .ok value => "Value: ".toList ++ Digits.decimal value
  | .error e => "Reason: ".toList ++ e.message

/-- What is printed for a formula; nothing but the result if that is all that is wanted. -/
def present (o : Options) (formula : Text) (bindings : List (Text × Text))
    (outcome : Except EvaluationError Float) : Text :=
  if o.quiet then Text.lines [display outcome]
  else
    Text.lines (["Formula: ".toList ++ formula] ++
      (if bindings = [] then [] else ["Tags: ".toList ++ bindingsText bindings]) ++
      (if o.verbose then [detail outcome] else []) ++
      ["Result: ".toList ++ styledResult (display outcome) (failed outcome) o.colour])

end FormulaPad.Report
