import FormulaPad.Decimal.Binary64

/-!
# FormulaPad.Decimal.Numeral

Decimal numerals: reading them, and the double that each stands for.

```
numeral  = [ "+" | "-" ] mantissa [ ("e" | "E") [ "+" | "-" ] digits ]
mantissa = digits | digits "." [ digits ] | "." digits
```

Digits are the ten ASCII digits and no blank or underscore may stand between
them. A numeral is an exact number, `significand · 10 ^ exponent`; the double
it stands for is the nearest one, infinity if it is too large.
-/

namespace FormulaPad

/-- The number `significand · 10 ^ exponent`, negated if `negative`. -/
structure Numeral where
  negative : Bool
  significand : Nat
  exponent : Int
  deriving DecidableEq, Repr

namespace Numeral

/-! ## Reading -/

/-- A leading sign, and what follows it. -/
def takeSign : Text → Bool × Text
  | '-' :: t => (true, t)
  | '+' :: t => (false, t)
  | t => (false, t)

/-- The exponent part that the text is, as the power of ten it adds; none is zero. -/
def exponent? : Text → Option Int
  | [] => some 0
  | c :: t =>
      if c = 'e' ∨ c = 'E' then
        let (negative, digits) := takeSign t
        if digits ≠ [] ∧ digits.all Char.isDigit then
          let n : Int := Text.natOfDigits digits
          some (if negative then -n else n)
        else none
      else none

/-- The digits before and after the point, and what follows the mantissa. -/
def mantissa (t : Text) : Text × Text × Text :=
  let whole := t.takeWhile Char.isDigit
  match t.dropWhile Char.isDigit with
  | '.' :: rest => (whole, rest.takeWhile Char.isDigit, rest.dropWhile Char.isDigit)
  | rest => (whole, [], rest)

/-- The numeral that the text is, from its first to its last character. -/
def read? (t : Text) : Option Numeral :=
  let (negative, body) := takeSign t
  let (whole, part, rest) := mantissa body
  if whole = [] ∧ part = [] then none
  else
    (exponent? rest).map fun e =>
      ⟨negative, Text.natOfDigits (whole ++ part), e - part.length⟩

/-! ## The nearest double -/

/-- Digits of a natural number; none for zero. -/
def digitCount (n : Nat) : Nat := if n = 0 then 0 else (Nat.toDigits 10 n).length

/-- A bound beyond which a power of ten is out of range for every double: above
`10 ^ 310` all is infinite, and below `10 ^ (-330)` all is zero. -/
def outOfRange : Int := 400

/-- The fraction `significand · 10 ^ exponent`. -/
def fraction (significand : Nat) (exponent : Int) : Nat × Nat :=
  if 0 ≤ exponent then (significand * Nat.pow 10 exponent.toNat, 1)
  else (significand, Nat.pow 10 (-exponent).toNat)

/-- The bits, without the sign, of the double nearest to `significand · 10 ^ exponent`. -/
def magnitudeBits (significand : Nat) (exponent : Int) : Nat :=
  let reach := exponent + digitCount significand
  if significand = 0 ∨ reach < -outOfRange then 0
  else if outOfRange < reach then Binary64.infinityBits
  else
    let (num, den) := fraction significand exponent
    Binary64.nearestBits num den

def toBits (n : Numeral) : UInt64 :=
  UInt64.ofNat (magnitudeBits n.significand n.exponent + if n.negative then Nat.pow 2 63 else 0)

def toFloat (n : Numeral) : Float := Float.ofBits n.toBits

end Numeral
end FormulaPad
