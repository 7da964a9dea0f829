import FormulaPad.Decimal.Numeral

/-!
# FormulaPad.Decimal.Shortest

The fewest decimal digits that read back to a given double, and the ways of
laying them out.

For one digit, two digits and so on, the two neighbours of the exact number
with that many digits are read; the first that gives the same double is taken,
of two the nearer, and `Tie` decides when both are equally near. The exact
number itself has finitely many decimal digits, so the search ends.
-/

namespace FormulaPad

/-- Digits as a natural number, and the power of ten that the last one counts. -/
structure Digits where
  digits : Nat
  exponent : Int
  deriving DecidableEq, Repr

namespace Digits

/-! ## Searching -/

/-- Which of two neighbours is taken when the number lies in the middle. -/
inductive Tie where
  | up
  | toEven
  deriving DecidableEq, Repr

/-- The power of ten of the leading digit of the positive fraction `num / den`. -/
def leadingPower (num den : Nat) : Int :=
  if den ≤ num then (Numeral.digitCount (num / den) : Int) - 1
  else -(Numeral.digitCount ((den - 1) / num) : Int)

/-- The neighbour of `num / den` on the multiples of `10 ^ power` that reads back to `bits`. -/
def candidate? (tie : Tie) (bits num den : Nat) (power : Int) : Option Nat :=
  let (n, d) := if 0 ≤ power then (num, den * Nat.pow 10 power.toNat) else (num * Nat.pow 10 (-power).toNat, den)
  let low := n / d
  let r := n % d
  let fits (k : Nat) := Numeral.magnitudeBits k power == bits
  if fits low then
    let nearerUp := d < 2 * r || (2 * r == d && (match tie with | .up => true | .toEven => low % 2 == 1))
    some (if nearerUp && fits (low + 1) then low + 1 else low)
  else if fits (low + 1) then some (low + 1)
  else none

/-- The first hit with `count` digits or more, within `fuel` steps. -/
def search (tie : Tie) (bits num den : Nat) (lead : Int) : (fuel count : Nat) → Digits
  | 0, count => ⟨0, lead - count⟩
  | fuel + 1, count =>
      let power := lead + 1 - count
      match candidate? tie bits num den power with
      | some k => ⟨k, power⟩
      | none => search tie bits num den lead fuel (count + 1)

/-- Enough digits to write any double exactly. -/
def digitLimit : Nat := 1100

/-- Without zeros at the end, within `fuel` steps. -/
def dropZeros : Nat → Digits → Digits
  | 0, d => d
  | fuel + 1, d =>
      if d.digits ≠ 0 ∧ d.digits % 10 = 0 then dropZeros fuel ⟨d.digits / 10, d.exponent + 1⟩ else d

/-- The fewest digits that read back to the double with these bits (no sign, not zero, finite). -/
def shortest (tie : Tie) (bits : Nat) : Digits :=
  let (significand, exponent) := Binary64.magnitude bits
  let (num, den) := Binary64.fraction significand exponent
  let found := search tie bits num den (leadingPower num den) digitLimit 1
  dropZeros (Numeral.digitCount found.digits) found

/-! ## Laying out -/

/-- Digits and zeros with a point where it falls, and no point after a whole number. -/
def positional (d : Digits) : Text :=
  let ds := Text.ofNat d.digits
  if 0 ≤ d.exponent then ds ++ List.replicate d.exponent.toNat '0'
  else
    let places := (-d.exponent).toNat
    if places < ds.length then
      ds.take (ds.length - places) ++ '.' :: ds.drop (ds.length - places)
    else
      '0' :: '.' :: List.replicate (places - ds.length) '0' ++ ds

/-- The power of ten of the leading digit. -/
def lead (d : Digits) : Int := d.exponent + Numeral.digitCount d.digits - 1

/-- One digit, a point before any others, and the power of ten with its sign. -/
def scientific (d : Digits) : Text :=
  let body := match Text.ofNat d.digits with
    | first :: second :: rest => first :: '.' :: second :: rest
    | ds => ds
  let power := if 0 ≤ d.lead then '+' :: Text.ofInt d.lead else Text.ofInt d.lead
  body ++ 'e' :: power

/-! ## Whole doubles -/

/-- The bits of a double without its sign. -/
def magnitudeBits (x : Float) : Nat := x.toBits.toNat % Nat.pow 2 63

/-- The fewest digits that read back to the magnitude of a finite double other than zero. -/
def ofFloat (tie : Tie) (x : Float) : Digits := shortest tie (magnitudeBits x)

/-- The minus sign of a negative double, also of a negative zero. -/
def signOf (x : Float) : Text := if (Binary64.ofFloat x).isNegative then ['-'] else []

/-- A double in positional notation whatever its size, with `inf` and `NaN` for what is no number. -/
def decimal (x : Float) : Text :=
  match Binary64.ofFloat x with
  | .nan _ => "NaN".toList
  | .infinite _ => signOf x ++ "inf".toList
  | .finite _ significand _ =>
      if significand = 0 then signOf x ++ ['0'] else signOf x ++ positional (ofFloat .up x)

end Digits
end FormulaPad
