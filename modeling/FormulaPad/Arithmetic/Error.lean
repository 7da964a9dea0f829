import FormulaPad.Text.Quoted

/-!
# FormulaPad.Arithmetic.Error

Why an arithmetic expression is rejected, and at which byte.
-/

namespace FormulaPad.Arithmetic

inductive Fault where
  /-- No expression goes on with this character here. -/
  | unexpected (c : Char)
  /-- An operand is missing at the end. -/
  | unexpectedEnd
  /-- A group is not closed here. -/
  | closeExpected
  /-- The group would be nested more deeply than is allowed. -/
  | tooDeep
  /-- A run of digits and points is no number. -/
  | invalidNumber (run : Text)
  deriving DecidableEq, Repr

/-- A fault and the byte at which it shows. -/
structure SyntaxError where
  offset : Nat
  fault : Fault
  deriving DecidableEq, Repr

def Fault.message : Fault → Text
  | unexpected c => "unexpected ".toList ++ Text.quotedChar c
  | unexpectedEnd => "unexpected end of expression".toList
  | closeExpected => "expected ')'".toList
  | tooDeep => "parentheses nested too deeply".toList
  | invalidNumber run => "invalid number ".toList ++ Text.quoted run

end FormulaPad.Arithmetic
