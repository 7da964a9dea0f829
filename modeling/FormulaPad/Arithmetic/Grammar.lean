import FormulaPad.Arithmetic.Evaluator

/-!
# FormulaPad.Arithmetic.Grammar

The grammar of arithmetic expressions as derivations, each with the value it
gives.

```
expression = term  { ("+" | "-") term }
term       = factor { "*" factor | "/" factor | group | number }
factor     = { "+" | "-" } primary
primary    = number | group
group      = "(" expression ")"
```

Both lists are read from the left, and a factor is negated when an odd number
of its signs are minus signs. A group may stand beside any term. A number may do so
only where the flag of the term allows it: right after a group that has no sign
and is the first factor of the term or stands beside what is before it. The
first index bounds how deep groups are nested; groups side by side do not add
up.

`Derives` says what a whole text derives. It speaks of the lexemes that a text
spells and not of the way they are read, and every value is written out in the
operations on doubles. Of the evaluator nothing is used but the names of the
signs, so that it can be compared with the grammar.
-/

namespace FormulaPad.Arithmetic

/-! ## What a text spells -/

/-- The characters of numbers. -/
def isFigure (c : Char) : Bool := c.isDigit || c == '.'

/-- `Spells t ks`: the text is these lexemes, with blanks between them, before them and after them. A
literal goes on as far as there are digits and points. -/
inductive Spells : Text → List LexemeKind → Prop
  | nil : Spells [] []
  | blank {c t ks} : Text.isBlank c = true → Spells t ks → Spells (c :: t) ks
  | literal {run t ks} : run ≠ [] → (∀ c ∈ run, isFigure c = true) →
      (∀ c ∈ t.head?, isFigure c = false) → Spells t ks →
      Spells (run ++ t) (.literal run :: ks)
  | mark {c t ks} : Text.isBlank c = false → isFigure c = false → Spells t ks →
      Spells (c :: t) (.mark c :: ks)

/-! ## Numbers -/

/-- The run is a number: digits and points, at least one digit, and at most one point. -/
structure IsNumber (run : Text) : Prop where
  isLiteral : ∀ c ∈ run, isFigure c = true
  hasDigit : ∃ c ∈ run, c.isDigit = true
  count_point : run.count '.' ≤ 1

/-- The digits after the point. -/
def places (run : Text) : Nat := ((run.dropWhile (· != '.')).drop 1).length

/-- The double nearest to the number: its digits as a whole, with the point that many places from
the right. -/
def numberValue (run : Text) : Float :=
  Numeral.toFloat ⟨false, Text.natOfDigits (run.filter Char.isDigit), -(places run : Int)⟩

/-! ## Signs as marks -/

def SumOperator.mark : SumOperator → LexemeKind
  | plus => .mark '+'
  | minus => .mark '-'

/-- The value under a chain of signs. -/
def applySigns (signs : List SumOperator) (value : Float) : Float :=
  if signs.count .minus % 2 = 1 then -value else value

/-! ## Derivations -/

mutual

/-- `IsExpression n ks v`: the lexemes `ks` derive an expression of value `v` in which groups
are nested `n` deep at most. -/
inductive IsExpression : Nat → List LexemeKind → Float → Prop
  | term {n ks v group} : IsTerm n ks v group → IsExpression n ks v
  | plus {n ks v ls w group} : IsExpression n ks v → IsTerm n ls w group →
      IsExpression n (ks ++ .mark '+' :: ls) (v + w)
  | minus {n ks v ls w group} : IsExpression n ks v → IsTerm n ls w group →
      IsExpression n (ks ++ .mark '-' :: ls) (v - w)

/-- `IsTerm n ks v group`: the same for a term; `group` tells whether a number may stand beside
it. -/
inductive IsTerm : Nat → List LexemeKind → Float → Bool → Prop
  | factor {n ks v group} : IsFactor n ks v group → IsTerm n ks v group
  | times {n ks v group ls w group'} : IsTerm n ks v group → IsFactor n ls w group' →
      IsTerm n (ks ++ .mark '*' :: ls) (v * w) false
  | dividedBy {n ks v group ls w group'} : IsTerm n ks v group → IsFactor n ls w group' →
      IsTerm n (ks ++ .mark '/' :: ls) (v / w) false
  | besideGroup {n ks v group ls w} : IsTerm n ks v group → IsPrimary n ls w true →
      IsTerm n (ks ++ ls) (v * w) true
  | besideNumber {n ks v ls w} : IsTerm n ks v true → IsPrimary n ls w false →
      IsTerm n (ks ++ ls) (v * w) false

/-- `IsFactor n ks v group`: the same for a factor; `group` tells whether it is a group without a
sign. -/
inductive IsFactor : Nat → List LexemeKind → Float → Bool → Prop
  | primary {n ks v group} : IsPrimary n ks v group → IsFactor n ks v group
  | signed {n ks v group} (sign : SumOperator) (signs : List SumOperator) : IsPrimary n ks v group →
      IsFactor n ((sign :: signs).map SumOperator.mark ++ ks) (applySigns (sign :: signs) v) false

/-- `IsPrimary n ks v group`: the same for a primary; `group` tells whether it is a group. -/
inductive IsPrimary : Nat → List LexemeKind → Float → Bool → Prop
  | number {n run} : IsNumber run → IsPrimary n [.literal run] (numberValue run) false
  | group {n ks v} : IsExpression n ks v →
      IsPrimary (n + 1) (.mark '(' :: ks ++ [.mark ')']) v true

end

/-- The text derives an expression of this value, with groups nested 256 deep at most. -/
def Derives (expression : Text) (value : Float) : Prop :=
  ∃ ks, Spells expression ks ∧ IsExpression 256 ks value

end FormulaPad.Arithmetic
