import FormulaPad.Arithmetic.Evaluator
import FormulaPad.Bindings
import FormulaPad.Formula.Variable
import FormulaPad.Money

/-!
# FormulaPad.Evaluation

The result of a formula.

Variables are replaced by their values as text, the arithmetic that results is
checked against a small alphabet, and its value must be finite. What fails
has a cause, but is displayed as one and the same message.
-/

namespace FormulaPad

/-! ## Errors -/

/-- Why a formula has no result. -/
inductive EvaluationError where
  /-- These variables have no value, or an empty one. -/
  | unresolved (names : List Text)
  /-- After substitution there is a character that no arithmetic has. -/
  | malformed (expression : Text) (found : Char)
  /-- The expression is empty or does not end with an operand. -/
  | incomplete (expression : Text)
  | invalid (error : Arithmetic.SyntaxError)
  /-- The value is infinite or no number. -/
  | nonFinite
  deriving DecidableEq, Repr

namespace EvaluationError

/-- Something is still missing, rather than wrong. -/
def isIncomplete : EvaluationError → Bool
  | unresolved _ | incomplete _ => true
  | malformed _ _ | invalid _ | nonFinite => false

def message : EvaluationError → Text
  | unresolved names => "unresolved variables: ".toList ++ Text.joinWith ", ".toList names
  | malformed expression found =>
      "invalid character ".toList ++ Text.quotedChar found ++ " in expression ".toList ++
        Text.quoted expression
  | incomplete expression => "incomplete expression ".toList ++ Text.quoted expression
  | invalid ⟨offset, fault⟩ =>
      "syntax error at offset ".toList ++ Text.ofNat offset ++ ": ".toList ++ fault.message
  | nonFinite => "result is not a finite number".toList

end EvaluationError

namespace Evaluation

/-! ## Substituting -/

/-- The value of a variable; the blanks around its name do not count. -/
def valueOf? (tags : Bindings) (run : Text) : Option Text := tags.resolve? (Text.trim run)

/-- The names of the variables without a value, in order and with repetitions. -/
def unresolvedNames (formula : Text) (tags : Bindings) : List Text :=
  ((Formula.variableRuns formula).map Text.trim).filter fun name => (tags.resolve? name).isNone

/-- One variable after another is replaced wherever its text occurs by then. -/
def replaceVariables (tags : Bindings) (runs : List Text) (expression : Text) : Text :=
  runs.foldl (fun e v => Text.replaceAll v ((valueOf? tags v).getD []) e) expression

/-- The formula with its variables replaced by their values. -/
def substitute (formula : Text) (tags : Bindings) : Except EvaluationError Text :=
  match unresolvedNames formula tags with
  | [] => .ok (replaceVariables tags (Formula.variableRuns formula) formula)
  | names => .error (.unresolved names)

/-! ## Evaluating -/

/-- The characters of an expression without variables. -/
def isArithmeticChar (c : Char) : Bool := c.isDigit || "+-*/(). ".toList.contains c

/-- An expression may end with this character. -/
def mayEnd (c : Char) : Bool := c.isDigit || c == ')'

/-- The value of an expression without variables; blanks do not count. -/
def evaluateExpression (expression : Text) : Except EvaluationError Float :=
  let e := Text.strip expression
  match e.find? (!isArithmeticChar ·) with
  | some c => .error (.malformed e c)
  | none =>
      if e.getLast?.any mayEnd then
        match Arithmetic.evaluate e with
        | .error error => .error (.invalid error)
        | .ok value => if value.isFinite then .ok value else .error .nonFinite
      else .error (.incomplete e)

/-- The value of a formula. -/
def evaluate (formula : Text) (tags : Bindings) : Except EvaluationError Float :=
  match substitute formula tags with
  | .error error => .error error
  | .ok expression => evaluateExpression expression

/-! ## Displaying -/

/-- What is displayed for a formula without a result. -/
def invalidMessage : Text := "Invalid expression".toList

/-- The result as an amount of money. -/
def display (formula : Text) (tags : Bindings) : Text :=
  match evaluate formula tags with
  | .ok value => Money.format (.ofFloat value)
  | .error _ => invalidMessage

/-- The displayed result; an empty formula has none. -/
def banner? (formula : Text) (tags : Bindings) : Option Text :=
  if formula = [] then none else some (display formula tags)

/-- The displayed result of a formula with the given bindings, later ones overwriting earlier ones. -/
def quick (formula : Text) (pairs : List (Text × Text)) : Text := display formula (.ofList pairs)

end Evaluation
end FormulaPad
