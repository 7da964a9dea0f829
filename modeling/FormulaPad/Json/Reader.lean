import FormulaPad.Json.Basic

/-!
# FormulaPad.Json.Reader

Reading JSON text.

The grammar is that of the standard and nothing more: no comments, no trailing
commas, no leading zeros, no control characters in strings. Blanks are the space,
the tab, the line feed and the carriage return. Each reader takes the beginning
of a text and returns what follows; `read?` wants the whole text.
-/

namespace FormulaPad.Json

/-! ## Blanks and literals -/

/-- The character may stand between the parts of a value. -/
def isGap (c : Char) : Bool := c == ' ' || c == '\t' || c == '\n' || c == '\r'

def skipGap (t : Text) : Text := t.dropWhile isGap

/-! ## Strings -/

def isHex (c : Char) : Bool := (hexValue? c).isSome

/-- The written form of a string up to its closing mark, which is taken too. -/
def takeString? : Text → Option (Text × Text)
  | [] => none
  | '"' :: t => some ([], t)
  | '\\' :: 'u' :: a :: b :: c :: d :: t =>
      if isHex a && isHex b && isHex c && isHex d then
        (takeString? t).map fun (raw, rest) => ('\\' :: 'u' :: a :: b :: c :: d :: raw, rest)
      else none
  | '\\' :: c :: t =>
      if (unescape? c).isSome then (takeString? t).map fun (raw, rest) => ('\\' :: c :: raw, rest)
      else none
  | c :: t =>
      if c = '\\' ∨ c.toNat < 32 then none
      else (takeString? t).map fun (raw, rest) => (c :: raw, rest)

/-! ## Numbers -/

/-- The parts of a number as it is written. -/
structure NumberParts where
  negative : Bool
  whole : Text
  /-- The digits after the point, if there is one. -/
  part : Option Text
  /-- The sign and the digits of the power of ten, if it is given. -/
  power : Option (Bool × Text)
  deriving DecidableEq, Repr

/-- One digit or more. -/
def takeDigits? (t : Text) : Option (Text × Text) :=
  match t.takeWhile Char.isDigit with
  | [] => none
  | digits => some (digits, t.dropWhile Char.isDigit)

/-- The whole part: a zero, or digits that do not start with one. -/
def takeWhole? : Text → Option (Text × Text)
  | '0' :: t => if t.head?.any Char.isDigit then none else some (['0'], t)
  | t => takeDigits? t

/-- A point and digits, if there is a point. -/
def takePart? : Text → Option (Option Text × Text)
  | '.' :: t => (takeDigits? t).map fun (digits, rest) => (some digits, rest)
  | t => some (none, t)

/-- The power of ten, if there is one. -/
def takePower? : Text → Option (Option (Bool × Text) × Text)
  | [] => some (none, [])
  | c :: t =>
      if c = 'e' ∨ c = 'E' then
        match t with
        | '-' :: u => (takeDigits? u).map fun (digits, rest) => (some (true, digits), rest)
        | '+' :: u => (takeDigits? u).map fun (digits, rest) => (some (false, digits), rest)
        | u => (takeDigits? u).map fun (digits, rest) => (some (false, digits), rest)
      else some (none, c :: t)

/-- The number at the start of the text. -/
def takeNumber? (t : Text) : Option (NumberParts × Text) := do
  let (negative, body) := match t with
    | '-' :: u => (true, u)
    | u => (false, u)
  let (whole, afterWhole) ← takeWhole? body
  let (part, afterPart) ← takePart? afterWhole
  let (power, rest) ← takePower? afterPart
  return (⟨negative, whole, part, power⟩, rest)

/-! ## Values -/

mutual

/-- The value at the start of the text; each step of reading takes one unit of fuel. -/
def takeValue? : (fuel : Nat) → Text → Option (Json × Text)
  | 0, _ => none
  | fuel + 1, t =>
      match skipGap t with
      | [] => none
      | '"' :: u => (takeString? u).map fun (raw, rest) => (.string raw, rest)
      | '[' :: u =>
          match skipGap u with
          | ']' :: rest => some (.array [], rest)
          | _ => (takeItems? fuel u).map fun (items, rest) => (.array items, rest)
      | '\x7b' :: u =>
          match skipGap u with
          | '\x7d' :: rest => some (.object [], rest)
          | _ => (takeMembers? fuel u).map fun (members, rest) => (.object members, rest)
      | u =>
          match Text.dropLead? "null".toList u with
          | some rest => some (.null, rest)
          | none =>
              match Text.dropLead? "true".toList u with
              | some rest => some (.bool true, rest)
              | none =>
                  match Text.dropLead? "false".toList u with
                  | some rest => some (.bool false, rest)
                  | none =>
                      (takeNumber? u).map fun (_, rest) =>
                        (.number (u.take (u.length - rest.length)), rest)

/-- The items of an array and its closing bracket. -/
def takeItems? : (fuel : Nat) → Text → Option (List Json × Text)
  | 0, _ => none
  | fuel + 1, t =>
      match takeValue? fuel t with
      | none => none
      | some (item, u) =>
          match skipGap u with
          | ']' :: rest => some ([item], rest)
          | ',' :: v => (takeItems? fuel v).map fun (items, rest) => (item :: items, rest)
          | _ => none

/-- The members of an object and its closing brace. -/
def takeMembers? : (fuel : Nat) → Text → Option (List (Text × Json) × Text)
  | 0, _ => none
  | fuel + 1, t =>
      match skipGap t with
      | '"' :: u =>
          match takeString? u with
          | none => none
          | some (key, v) =>
              match skipGap v with
              | ':' :: w =>
                  match takeValue? fuel w with
                  | none => none
                  | some (value, x) =>
                      match skipGap x with
                      | '\x7d' :: rest => some ([(key, value)], rest)
                      | ',' :: y =>
                          (takeMembers? fuel y).map fun (members, rest) =>
                            ((key, value) :: members, rest)
                      | _ => none
              | _ => none
      | _ => none

end

/-- Every two steps of reading take at least one character. -/
def fuelFor (t : Text) : Nat := 2 * t.length + 2

/-- The value that the whole text is. -/
def read? (t : Text) : Option Json :=
  match takeValue? (fuelFor t) t with
  | some (value, rest) => if skipGap rest = [] then some value else none
  | none => none

end FormulaPad.Json
