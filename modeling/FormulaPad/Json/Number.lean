import FormulaPad.Decimal.Shortest
import FormulaPad.Json.Reader

/-!
# FormulaPad.Json.Number

Numbers of JSON text: integers of 64 bits, and doubles.

A number without point and power is an integer if 64 bits hold it, signed or
unsigned; negative zero and all other numbers are doubles. A double is computed
from the leading digits that fit 64 bits, by one product or quotient with a
power of ten. That is exact up to `2 ^ 53` and a power of 22, and within a few
units in the last place beyond; what would be infinite is no number, what is
too small is zero.
-/

namespace FormulaPad.Json

inductive Number where
  /-- An integer between `-2 ^ 63` and `2 ^ 64 - 1`. -/
  | integer (i : Int)
  | double (x : Float)
  deriving DecidableEq

namespace Number

/-! ## Reading -/

/-- The greatest number that one may form by putting more digits after `n` as long as 64
bits hold it, and the digits that are left over. -/
def absorb (n : Nat) : Text → Nat × Text
  | [] => (n, [])
  | c :: t =>
      let m := 10 * n + Text.digitValue c
      if m < Nat.pow 2 64 then absorb m t else (n, c :: t)

/-- The double nearest to a power of ten. -/
def powerOfTen (k : Nat) : Float := (⟨false, 1, k⟩ : Numeral).toFloat

/-- The greatest power of ten among the doubles. -/
def greatestPower : Nat := 308

/-- The double `x · 10 ^ e`, unless it is infinite. -/
def scale? (x : Float) (e : Int) : Option Float :=
  if greatestPower < e then if x == 0 then some x else none
  else if 0 ≤ e then
    let y := x * powerOfTen e.toNat
    if y.isInf then none else some y
  else if -greatestPower ≤ e then some (x / powerOfTen (-e).toNat)
  else
    let y := x / powerOfTen greatestPower
    some (y / powerOfTen (min (-e).toNat (2 * greatestPower) - greatestPower))

/-- The power of ten that is written out. -/
def writtenPower (power : Option (Bool × Text)) : Int :=
  match power with
  | none => 0
  | some (negative, digits) =>
      if negative then -(Text.natOfDigits digits : Int) else Text.natOfDigits digits

/-- The number that the parts make up, unless it is too large. -/
def ofParts? (p : NumberParts) : Option Number :=
  let (n, surplus) := absorb 0 p.whole
  let negate (x : Float) : Float := if p.negative then -x else x
  if surplus = [] ∧ p.part = none ∧ p.power = none then
    if ¬p.negative then some (.integer n)
    else if 0 < n ∧ n ≤ Nat.pow 2 63 then some (.integer (-(n : Int)))
    else some (.double (negate (UInt64.ofNat n).toFloat))
  else
    let part := p.part.getD []
    let (m, left) := absorb n part
    let places : Int := (part.length : Int) - left.length
    let e := surplus.length - places + writtenPower p.power
    (scale? (UInt64.ofNat m).toFloat e).map fun x => .double (negate x)

/-- The number that is written. -/
def read? (literal : Text) : Option Number :=
  match takeNumber? literal with
  | some (parts, []) => ofParts? parts
  | _ => none

/-! ## Writing -/

/-- Positional notation is used if the leading digit has a power of ten between these. -/
def positionalPowers : Int × Int := (-5, 15)

/-- Doubles are written with a point or a power of ten, so that they differ from integers. -/
def writeDouble (x : Float) : Text :=
  if x == 0 then Digits.signOf x ++ "0.0".toList
  else
    let d := Digits.ofFloat .toEven x
    if positionalPowers.1 ≤ d.lead ∧ d.lead ≤ positionalPowers.2 then
      Digits.signOf x ++ Digits.positional d ++ (if 0 ≤ d.exponent then ".0".toList else [])
    else Digits.signOf x ++ Digits.scientific d

def write : Number → Text
  | integer i => Text.ofInt i
  | double x => writeDouble x

end Number
end FormulaPad.Json
