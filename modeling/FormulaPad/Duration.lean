import FormulaPad.Text.Blank

/-!
# FormulaPad.Duration

Lengths of time in whole milliseconds: reading them as they are given on a
command line (`5m`, `30s`, `500ms`), and writing them in seconds or milliseconds.

A duration is a count and a unit, seconds if none is given. The count, and for
minutes and hours also the number of seconds, must fit 64 bits; what does not
is rejected, never cut short.
-/

namespace FormulaPad

/-- A length of time. -/
structure Duration where
  milliseconds : Nat
  deriving DecidableEq, Repr

namespace Duration

/-! ## Reading -/

/-- The first number that 64 bits do not hold. -/
def countLimit : Nat := Nat.pow 2 64

/-- A count: decimal digits, with a plus sign before them or without. -/
def readCount? (t : Text) : Option Nat :=
  let digits := match t with
    | '+' :: u => u
    | u => u
  if digits ≠ [] ∧ digits.all Char.isDigit ∧ Text.natOfDigits digits < countLimit then
    some (Text.natOfDigits digits)
  else none

def ofSeconds (n : Nat) : Duration := ⟨1000 * n⟩

/-- A count of units of so many seconds, if the seconds fit 64 bits. -/
def ofUnits? (seconds count : Nat) : Option Duration :=
  if seconds * count < countLimit then some (ofSeconds (seconds * count)) else none

/-- The duration that the text is; blanks around it do not count. -/
def read? (t : Text) : Option Duration :=
  let t := Text.trim t
  match Text.dropTail? "ms".toList t with
  | some count => (readCount? count).map Duration.mk
  | none =>
      match Text.dropTail? "m".toList t with
      | some count => (readCount? count).bind (ofUnits? 60)
      | none =>
          match Text.dropTail? "h".toList t with
          | some count => (readCount? count).bind (ofUnits? 3600)
          | none =>
              match Text.dropTail? "s".toList t with
              | some count => (readCount? count).map ofSeconds
              | none => (readCount? t).map ofSeconds

/-! ## Writing -/

/-- Thousandths as the digits after a point, without zeros at the end. -/
def thousandths (n : Nat) : Text :=
  let digits := (Text.ofNat (1000 + n % 1000)).drop 1
  let digits := (digits.reverse.dropWhile (· = '0')).reverse
  if digits = [] then [] else '.' :: digits

/-- From one second on in seconds, below in milliseconds, and nothing as `0ns`. -/
def write (d : Duration) : Text :=
  let n := d.milliseconds
  if 1000 ≤ n then Text.ofNat (n / 1000) ++ thousandths n ++ ['s']
  else if 0 < n then Text.ofNat n ++ "ms".toList
  else "0ns".toList

end Duration
end FormulaPad
