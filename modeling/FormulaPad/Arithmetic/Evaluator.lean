import FormulaPad.Arithmetic.Error
import FormulaPad.Arithmetic.Lexeme

/-!
# FormulaPad.Arithmetic.Evaluator

Evaluating an arithmetic expression in one pass over its lexemes.

```
expression = term  { ("+" | "-") term }
term       = factor { "*" factor | "/" factor | beside }
factor     = { "+" | "-" } primary
primary    = number | "(" expression ")"
```

A primary may stand beside a term, which multiplies it: a group always, a
number only after a group that has no sign and is the first factor of its term
or stands beside what is before it. Groups nest `maxNesting` deep at most.

What has been read is kept as one `Pending` for every group that is open, and
for the text outside all groups: the terms added up so far, the factors
multiplied so far, and the signs of the factor to come. Each lexeme is looked at
once, by `step`; what it means depends on whether an operand or an operator is
due.
-/

namespace FormulaPad.Arithmetic

/-! ## What has been read -/

inductive SumOperator where
  | plus
  | minus
  deriving DecidableEq, Repr

inductive ProductOperator where
  | times
  | dividedBy
  /-- The two factors touch. -/
  | beside
  deriving DecidableEq, Repr

def SumOperator.apply : SumOperator → Float → Float → Float
  | plus, a, b => a + b
  | minus, a, b => a - b

def ProductOperator.apply : ProductOperator → Float → Float → Float
  | times, a, b | beside, a, b => a * b
  | dividedBy, a, b => a / b

/-- An expression that breaks off where a primary is due. -/
structure Pending where
  /-- The terms before the current one, and the operator after them. -/
  sum : Option (Float × SumOperator)
  /-- The factors of the current term, and the operator after them. -/
  product : Option (Float × ProductOperator)
  /-- Whether the signs of the current factor negate it, if there are any. -/
  sign : Option Bool

/-- Nothing has been read. -/
def Pending.start : Pending := ⟨none, none, none⟩

inductive State where
  /-- A primary is due, in the innermost group or after its signs. -/
  | operand (outer : List Pending) (here : Pending)
  /-- A primary has just ended. The value is that of its term so far; `group` tells
  whether a number may stand beside it. -/
  | operator (outer : List Pending) (sum : Option (Float × SumOperator)) (term : Float)
      (group : Bool)

/-- Groups may be nested this deep. -/
def maxNesting : Nat := 256

/-! ## Reading a primary -/

/-- The value of a sum whose last term is `term`. -/
def addTerm (sum : Option (Float × SumOperator)) (term : Float) : Float :=
  match sum with
  | none => term
  | some (total, op) => op.apply total term

/-- A primary ends here, a group or a number. -/
def Pending.close (p : Pending) (outer : List Pending) (value : Float) (group : Bool) : State :=
  let factor := if p.sign = some true then -value else value
  let bare := group && p.sign.isNone
  match p.product with
  | none => .operator outer p.sum factor bare
  | some (product, op) => .operator outer p.sum (op.apply product factor) (bare && op == .beside)

/-- One more sign before the current factor. -/
def Pending.addSign (p : Pending) (negative : Bool) : Pending :=
  { p with sign := some (p.sign.getD false != negative) }

/-- A group opens. -/
def openGroup (outer : List Pending) (here : Pending) : Except Fault State :=
  if outer.length = maxNesting then .error .tooDeep else .ok (.operand (here :: outer) .start)

/-- A literal is the next primary. -/
def readLiteral (outer : List Pending) (here : Pending) (run : Text) : Except Fault State :=
  match literalValue? run with
  | none => .error (.invalidNumber run)
  | some value => .ok (here.close outer value false)

/-! ## Reading a lexeme -/

/-- What is wrong with a character that cannot follow a complete expression. -/
def stray (outer : List Pending) (c : Char) : Fault :=
  match outer with
  | [] => .unexpected c
  | _ :: _ => .closeExpected

def stepOperand (outer : List Pending) (here : Pending) : LexemeKind → Except Fault State
  | .literal run => readLiteral outer here run
  | .mark c =>
      if c = '+' ∨ c = '-' then .ok (.operand outer (here.addSign (c == '-')))
      else if c = '(' then openGroup outer here
      else .error (.unexpected c)

def stepOperator (outer : List Pending) (sum : Option (Float × SumOperator)) (term : Float)
    (group : Bool) : LexemeKind → Except Fault State
  | .literal run =>
      if group then readLiteral outer ⟨sum, some (term, .beside), none⟩ run
      else .error (stray outer (run.headD '.'))
  | .mark c =>
      if c = '+' then .ok (.operand outer ⟨some (addTerm sum term, .plus), none, none⟩)
      else if c = '-' then .ok (.operand outer ⟨some (addTerm sum term, .minus), none, none⟩)
      else if c = '*' then .ok (.operand outer ⟨sum, some (term, .times), none⟩)
      else if c = '/' then .ok (.operand outer ⟨sum, some (term, .dividedBy), none⟩)
      else if c = '(' then openGroup outer ⟨sum, some (term, .beside), none⟩
      else
        match outer with
        | here :: rest =>
            if c = ')' then .ok (here.close rest (addTerm sum term) true)
            else .error .closeExpected
        | [] => .error (.unexpected c)

def step : State → LexemeKind → Except Fault State
  | .operand outer here, k => stepOperand outer here k
  | .operator outer sum term group, k => stepOperator outer sum term group k

/-- The value, if the expression may end here. -/
def finish : State → Except Fault Float
  | .operand _ _ => .error .unexpectedEnd
  | .operator [] sum term _ => .ok (addTerm sum term)
  | .operator (_ :: _) _ _ _ => .error .closeExpected

/-! ## Evaluating -/

/-- A fault that shows at the given byte. -/
def atOffset (offset : Nat) : Except Fault α → Except SyntaxError α
  | .ok a => .ok a
  | .error fault => .error ⟨offset, fault⟩

/-- The state after some more lexemes. -/
def run (s : State) : List Lexeme → Except SyntaxError State
  | [] => .ok s
  | l :: rest =>
      match step s l.kind with
      | .ok t => run t rest
      | .error fault => .error ⟨l.offset, fault⟩

/-- The value of an expression; it may be infinite or no number. -/
def evaluate (expression : Text) : Except SyntaxError Float :=
  match run (.operand [] .start) (lexemes 0 expression) with
  | .ok s => atOffset (Text.byteLength expression) (finish s)
  | .error e => .error e

/-- Reading goes on from the state that is reached. -/
theorem run_append (s : State) (xs ys : List Lexeme) :
    run s (xs ++ ys) = match run s xs with
      | .ok t => run t ys
      | .error e => .error e := by
  induction xs generalizing s with
  | nil => rfl
  | cons x xs ih =>
      simp only [List.cons_append, run]
      cases step s x.kind with
      | ok t => exact ih t
      | error fault => rfl

end FormulaPad.Arithmetic
