import FormulaPad.Decimal.Binary64

/-!
# FormulaPad.Money

Amounts of US dollars: `$1,234.50`, `-$0.75`.

An amount is rounded to cents on the exact value of the double, a half going
away from zero. The rounding works on the digits that the double is written
with: two digits after the point are kept, the third decides, and one cent more
is carried from the last digit to the first. A comma stands before every group
of three digits counted from the right, and the minus sign, also that of a
negative zero, before the dollar sign.
-/

namespace FormulaPad.Money

/-! ## The exact expansion -/

/-- Digits after the point with which every finite double is exact. -/
def exactFractionDigits : Nat := 1100

/-- The first `n` digits after the point of the fraction `rest / den`, by long division. -/
def fractionDigits (den : Nat) : (n rest : Nat) → Text
  | 0, _ => []
  | n + 1, rest => (10 * rest / den).digitChar :: fractionDigits den n (10 * rest % den)

/-- The fraction `num / den` in decimal notation. -/
def decimal (num den : Nat) : Text :=
  Text.ofNat (num / den) ++ '.' :: fractionDigits den exactFractionDigits (num % den)

/-- The double without its sign; what is no number has a name, and no point in it. -/
def expansion : Binary64 → Text
  | .nan _ => "NaN".toList
  | .infinite _ => "inf".toList
  | .finite _ significand exponent =>
      let parts := Binary64.fraction significand exponent
      decimal parts.1 parts.2

/-! ## Rounding to cents -/

/-- One more, on digits from the last to the first: nines become zeros up to the first digit that
is no nine, and digits that are all nines grow by a one. -/
def carry : Text → Text
  | [] => ['1']
  | c :: t => if c = '9' then '0' :: carry t else Char.ofNat (c.toNat + 1) :: t

/-- One more, on digits as they are written. -/
def increment (digits : Text) : Text := (carry digits.reverse).reverse

/-- Whole dollars and two digits of cents. -/
def roundCents (printed : Text) : Text × Text :=
  let (whole, fraction) := (Text.splitAt? '.' printed).getD (printed, [])
  let digits := whole ++ [fraction.getD 0 '0', fraction.getD 1 '0']
  let rounded := if '5' ≤ fraction.getD 2 '0' then increment digits else digits
  rounded.splitAt (rounded.length - 2)

/-! ## Amounts -/

/-- The digits from the last to the first, a comma before each whose place `i` opens a new group
of three. -/
def groupFrom (i : Nat) : Text → Text
  | [] => []
  | c :: t => if 0 < i ∧ i % 3 = 0 then ',' :: c :: groupFrom (i + 1) t else c :: groupFrom (i + 1) t

/-- A comma between every group of three characters, counted from the right. -/
def groupThousands (digits : Text) : Text := (groupFrom 0 digits.reverse).reverse

/-- The double as an amount of US dollars. -/
def format (x : Binary64) : Text :=
  let amount := roundCents (expansion x)
  (if x.isNegative then ['-'] else []) ++ '$' :: (groupThousands amount.1 ++ '.' :: amount.2)

end FormulaPad.Money
