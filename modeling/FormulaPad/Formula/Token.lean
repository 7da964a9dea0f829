import FormulaPad.Decimal.Numeral
import FormulaPad.Formula.Segment

/-!
# FormulaPad.Formula.Token

The tokens of a formula: its segments that are not blank, trimmed and told
apart as operators, numbers and variables.

A token keeps the place of its segment, so that what stands before an operator
keeps its identity however the text after it changes.
-/

namespace FormulaPad.Formula

/-! ## Numbers -/

/-- The text is a numeral, and not one too large for a double. -/
def isNumeric (t : Text) : Bool :=
  (Numeral.read? t).any fun n => n.toFloat.isFinite

/-! ## Tokens -/

inductive TokenKind where
  | operator (c : Char)
  | number (text : Text)
  | name (text : Text)
  deriving DecidableEq, Repr

/-- A token and the place of its segment in the formula, counted from zero. -/
structure Token where
  index : Nat
  kind : TokenKind
  deriving DecidableEq, Repr

namespace TokenKind

def text : TokenKind → Text
  | operator c => [c]
  | number t | name t => t

def name? : TokenKind → Option Text
  | .name t => some t
  | _ => none

theorem name?_eq_some_iff {kind : TokenKind} {t : Text} :
    kind.name? = some t ↔ kind = .name t := by
  cases kind <;> simp [name?]

end TokenKind

/-- What a segment is; a blank one is nothing. -/
def classify? (segment : Text) : Option TokenKind :=
  match Text.trim segment with
  | [] => none
  | [c] =>
      if isOperator c then some (.operator c)
      else if isNumeric [c] then some (.number [c]) else some (.name [c])
  | t => if isNumeric t then some (.number t) else some (.name t)

/-- The tokens of a list of segments, the first of which has place `start`. -/
def tokensFrom (start : Nat) : List Text → List Token
  | [] => []
  | s :: rest =>
      match classify? s with
      | none => tokensFrom (start + 1) rest
      | some kind => ⟨start, kind⟩ :: tokensFrom (start + 1) rest

def tokenize (formula : Text) : List Token := tokensFrom 0 (segments formula)

/-! ## Dropdown identifiers -/

/-- The identifier of the dropdown that belongs to the variable at place `index`. -/
def dropdownId (index : Nat) : Text := "tag-".toList ++ Text.ofNat index

namespace Token

def name? (t : Token) : Option Text := t.kind.name?

/-- Variables have a dropdown, other tokens have none. -/
def dropdownId? (t : Token) : Option Text := t.name?.map fun _ => dropdownId t.index

end Token
end FormulaPad.Formula
