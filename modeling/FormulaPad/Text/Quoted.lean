import FormulaPad.Text.Property

/-!
# FormulaPad.Text.Quoted

Text and characters in quotation marks, as messages show them.

Inside the marks a backslash escapes: `\0 \t \n \r \\` and the mark itself have
a letter each; a character that might not be seen on its own, because it has no
shape, may be left out or is drawn upon the one before it, is written as its
code point `\u{…}` in lower-case hexadecimal without leading zeros; every other
character stands for itself.
-/

namespace FormulaPad.Text

/-- The digits of `n` in lower-case hexadecimal. -/
def hex (n : Nat) : Text := Nat.toDigits 16 n

/-- The character might not be seen on its own. -/
def isHidden (c : Char) : Bool := isShapeless c || isIgnorable c || isCombining c

/-- How a character is written between two `mark`s. -/
def escapeIn (mark c : Char) : Text :=
  if c = '\x00' then ['\\', '0']
  else if c = '\t' then ['\\', 't']
  else if c = '\n' then ['\\', 'n']
  else if c = '\r' then ['\\', 'r']
  else if c = '\\' ∨ c = mark then ['\\', c]
  else if isHidden c then ['\\', 'u', '\x7b'] ++ hex c.toNat ++ ['\x7d']
  else [c]

/-- Text in double quotation marks. -/
def quoted (t : Text) : Text := '"' :: t.flatMap (escapeIn '"') ++ ['"']

/-- A character in single quotation marks. -/
def quotedChar (c : Char) : Text := '\'' :: escapeIn '\'' c ++ ['\'']

end FormulaPad.Text
