import FormulaPad.Text.Basic

/-!
# FormulaPad.Decimal.Binary64

Doubles as exact numbers, and the double nearest to an exact number.

A finite double is `significand · 2 ^ exponent`. Its bits without the sign are
`(exponent + 1074) · 2 ^ 52 + significand`, also for subnormal numbers, and the
order of these bits is the order of the numbers; a significand that rounds up
to `2 ^ 53` thereby carries into the exponent, and the largest exponent into
infinity. Rounding is to nearest, a half going to the even neighbour.
-/

namespace FormulaPad

/-- What the bits of a double stand for. -/
inductive Binary64 where
  | nan (negative : Bool)
  | infinite (negative : Bool)
  /-- The number `significand · 2 ^ exponent`, negated if `negative`. -/
  | finite (negative : Bool) (significand : Nat) (exponent : Int)
  deriving DecidableEq, Repr

namespace Binary64

/-! ## Reading the bits -/

/-- The bits of infinity, without the sign. -/
def infinityBits : Nat := 0x7FF * Nat.pow 2 52

/-- The number that the bits without the sign stand for, as significand and exponent. -/
def magnitude (bits : Nat) : Nat × Int :=
  let field : Nat := bits / Nat.pow 2 52
  if field = 0 then (bits, -1074) else (bits % Nat.pow 2 52 + Nat.pow 2 52, (field : Int) - 1075)

def ofBits (bits : UInt64) : Binary64 :=
  let n := bits.toNat
  let negative := decide (Nat.pow 2 63 ≤ n)
  let b := n % Nat.pow 2 63
  if infinityBits < b then .nan negative
  else if b = infinityBits then .infinite negative
  else .finite negative (magnitude b).1 (magnitude b).2

def ofFloat (x : Float) : Binary64 := ofBits x.toBits

def isNegative : Binary64 → Bool
  | .nan s | .infinite s | .finite s _ _ => s

/-! ## Rounding -/

/-- The quotient rounded to the nearest natural number, a half to the even one. -/
def roundDiv (num den : Nat) : Nat :=
  let k := num / den
  let r := num % den
  if 2 * r < den then k
  else if den < 2 * r then k + 1
  else if k % 2 = 0 then k else k + 1

/-- The fraction `num / den` divided by `2 ^ q`, again as a fraction. -/
def shiftRight (num den : Nat) (q : Int) : Nat × Nat :=
  if 0 ≤ q then (num, den * Nat.pow 2 q.toNat) else (num * Nat.pow 2 (-q).toNat, den)

/-- The exponent at which `num / den` has a significand of 53 bits, or the least exponent. -/
def exponentOf (num den : Nat) : Int :=
  let guess := max ((num.log2 : Int) - den.log2 - 53) (-1074)
  let (n, d) := shiftRight num den guess
  if Nat.pow 2 53 ≤ n / d then guess + 1 else guess

/-- The bits, without the sign, of the double nearest to `num / den`. -/
def nearestBits (num den : Nat) : Nat :=
  let q := exponentOf num den
  let (n, d) := shiftRight num den q
  min ((q + 1074).toNat * Nat.pow 2 52 + roundDiv n d) infinityBits

/-- The fraction `significand · 2 ^ exponent`. -/
def fraction (significand : Nat) (exponent : Int) : Nat × Nat :=
  if 0 ≤ exponent then (significand * Nat.pow 2 exponent.toNat, 1)
  else (significand, Nat.pow 2 (-exponent).toNat)

theorem roundDiv_mul (k den : Nat) (h : 0 < den) : roundDiv (k * den) den = k := by
  simp [roundDiv, Nat.mul_div_cancel _ h, h]

/-- Rounding goes to one of the two neighbours of the quotient. -/
theorem roundDiv_mem (num den : Nat) :
    roundDiv num den = num / den ∨ roundDiv num den = num / den + 1 := by
  simp only [roundDiv]; repeat' split
  all_goals simp

end Binary64
end FormulaPad
