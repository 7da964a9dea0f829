import FormulaPad.Text.Quoted

/-!
# FormulaPad.Json.Basic

JSON values as they are written, and their compact text.

Numbers and strings keep their written form: whether `3.0` and `3` are the same
number, or a lone surrogate is text at all, is for the reader of a particular
field to say. `encodeString` and `decodeString?` go between text and the
written form of a string.
-/

namespace FormulaPad

/-- A JSON value. -/
inductive Json where
  | null
  | bool (b : Bool)
  /-- A number as it is written. -/
  | number (literal : Text)
  /-- A string as it is written between its quotation marks. -/
  | string (raw : Text)
  | array (items : List Json)
  /-- The members in order; the keys as they are written, and possibly repeated. -/
  | object (members : List (Text × Json))

namespace Json

/-! ## Strings -/

/-- A number below sixteen as a hexadecimal digit. -/
def hexDigit (n : Nat) : Char := Nat.digitChar n

/-- The written form of one character: quotation mark, backslash and controls are escaped. -/
def encodeChar (c : Char) : Text :=
  if c = '"' then ['\\', '"']
  else if c = '\\' then ['\\', '\\']
  else if c = '\x08' then ['\\', 'b']
  else if c = '\x0c' then ['\\', 'f']
  else if c = '\n' then ['\\', 'n']
  else if c = '\r' then ['\\', 'r']
  else if c = '\t' then ['\\', 't']
  else if c.toNat < 32 then
    ['\\', 'u', '0', '0', hexDigit (c.toNat / 16), hexDigit (c.toNat % 16)]
  else [c]

/-- The written form of a text. -/
def encodeString (t : Text) : Text := t.flatMap encodeChar

/-- What a letter after a backslash stands for. -/
def unescape? (c : Char) : Option Char :=
  if c = '"' ∨ c = '\\' ∨ c = '/' then some c
  else if c = 'b' then some '\x08'
  else if c = 'f' then some '\x0c'
  else if c = 'n' then some '\n'
  else if c = 'r' then some '\r'
  else if c = 't' then some '\t'
  else none

def hexValue? (c : Char) : Option Nat :=
  if c.isDigit then some (c.toNat - '0'.toNat)
  else if 'a' ≤ c ∧ c ≤ 'f' then some (c.toNat - 'a'.toNat + 10)
  else if 'A' ≤ c ∧ c ≤ 'F' then some (c.toNat - 'A'.toNat + 10)
  else none

/-- Four hexadecimal digits as a number. -/
def hexUnit? (a b c d : Char) : Option Nat := do
  return 4096 * (← hexValue? a) + 256 * (← hexValue? b) + 16 * (← hexValue? c) + (← hexValue? d)

def isHighSurrogate (n : Nat) : Bool := 0xD800 ≤ n && n < 0xDC00

def isLowSurrogate (n : Nat) : Bool := 0xDC00 ≤ n && n < 0xE000

/-- The text that a written form stands for; a surrogate must be one of a pair. -/
def decodeString? : Text → Option Text
  | [] => some []
  | '\\' :: 'u' :: a :: b :: c :: d :: t =>
      match hexUnit? a b c d with
      | none => none
      | some n =>
          if isLowSurrogate n then none
          else if isHighSurrogate n then
            match t with
            | '\\' :: 'u' :: e :: f :: g :: h :: u =>
                match hexUnit? e f g h with
                | none => none
                | some m =>
                    if isLowSurrogate m then
                      (decodeString? u).map
                        (Char.ofNat (0x10000 + 0x400 * (n - 0xD800) + (m - 0xDC00)) :: ·)
                    else none
            | _ => none
          else (decodeString? t).map (Char.ofNat n :: ·)
  | '\\' :: c :: t =>
      match unescape? c with
      | none => none
      | some d => (decodeString? t).map (d :: ·)
  | c :: t => if c = '\\' then none else (decodeString? t).map (c :: ·)

/-- A text as a JSON string. -/
def ofText (t : Text) : Json := .string (encodeString t)

/-- The text of a JSON string, if it is one. -/
def text? : Json → Option Text
  | .string raw => decodeString? raw
  | _ => none

def ofNat (n : Nat) : Json := .number (Text.ofNat n)

/-! ## Compact text -/

mutual

/-- The value without any blank between its parts. -/
def write : Json → Text
  | .null => "null".toList
  | .bool true => "true".toList
  | .bool false => "false".toList
  | .number literal => literal
  | .string raw => '"' :: raw ++ ['"']
  | .array items => '[' :: writeItems items ++ [']']
  | .object members => '\x7b' :: writeMembers members ++ ['\x7d']

/-- The items of an array with commas between them. -/
def writeItems : List Json → Text
  | [] => []
  | [item] => write item
  | item :: rest => write item ++ ',' :: writeItems rest

/-- The members of an object with commas between them. -/
def writeMembers : List (Text × Json) → Text
  | [] => []
  | [(key, value)] => '"' :: key ++ '"' :: ':' :: write value
  | (key, value) :: rest => '"' :: key ++ '"' :: ':' :: write value ++ ',' :: writeMembers rest

end

end Json
end FormulaPad
