import FormulaPad.Json.Number

/-!
# FormulaPad.Suggestion.Basic

Suggestions: names that may be put into a formula, each with a category and a
value to bind to the name. Several suggestions may share a name and offer
different values for it.

They are delivered as a JSON array. A suggestion is an object with the four
fields below, in any order and among any others, or an array of just these four.
-/

namespace FormulaPad

/-! ## Values -/

/-- A value as it is delivered. -/
inductive SuggestionValue where
  | number (n : Json.Number)
  | text (t : Text)
  deriving DecidableEq

namespace SuggestionValue

/-- Whole doubles below this are written as integers. -/
def wholeLimit : Nat := Nat.pow 10 21

/-- A double as a value: whole ones without point and power of ten, zero without sign. -/
def textOfDouble (x : Float) : Text :=
  match Binary64.ofFloat x with
  | .finite _ significand exponent =>
      let (num, den) := Binary64.fraction significand exponent
      if num = 0 then ['0']
      else if num % den = 0 ∧ num / den < wholeLimit then Digits.decimal x
      else Json.Number.writeDouble x
  | _ => Json.Number.writeDouble x

/-- The text that is bound to the name when the value is chosen. -/
def toText : SuggestionValue → Text
  | number (.integer i) => Text.ofInt i
  | number (.double x) => textOfDouble x
  | text t => t

def ofJson? : Json → Option SuggestionValue
  | .number literal => (Json.Number.read? literal).map number
  | .string raw => (Json.decodeString? raw).map text
  | _ => none

def toJson : SuggestionValue → Json
  | number n => .number n.write
  | text t => .ofText t

end SuggestionValue

/-! ## Suggestions -/

structure Suggestion where
  id : Text
  name : Text
  category : Text
  value : SuggestionValue
  deriving DecidableEq

namespace Suggestion

def valueText (s : Suggestion) : Text := s.value.toText

/-- The suggestions of exactly this name, in their order. -/
def matching (name : Text) (suggestions : List Suggestion) : List Suggestion :=
  suggestions.filter (·.name = name)

/-! ## JSON -/

/-- The members with their keys as text. -/
def decodeKeys? (members : List (Text × Json)) : Option (List (Text × Json)) :=
  members.mapM fun (key, value) => (Json.decodeString? key).map (·, value)

/-- The value of the only member with this key. -/
def field? (key : Text) (members : List (Text × Json)) : Option Json :=
  match members.filter (·.1 = key) with
  | [(_, value)] => some value
  | _ => none

/-- A suggestion from its four fields. -/
def ofFields? (id name category value : Json) : Option Suggestion := do
  return ⟨← id.text?, ← name.text?, ← category.text?, ← SuggestionValue.ofJson? value⟩

def ofJson? : Json → Option Suggestion
  | .object members => do
      let members ← decodeKeys? members
      ofFields? (← field? "id".toList members) (← field? "name".toList members)
        (← field? "category".toList members) (← field? "value".toList members)
  | .array [id, name, category, value] => ofFields? id name category value
  | _ => none

def toJson (s : Suggestion) : Json :=
  .object [("id".toList, .ofText s.id), ("name".toList, .ofText s.name),
    ("category".toList, .ofText s.category), ("value".toList, s.value.toJson)]

/-- The list of suggestions that a JSON value is. -/
def listOfJson? : Json → Option (List Suggestion)
  | .array items => items.mapM ofJson?
  | _ => none

/-- The list of suggestions that a JSON text is. -/
def readList? (text : Text) : Option (List Suggestion) := (Json.read? text).bind listOfJson?

/-- The list as compact JSON text. -/
def writeList (suggestions : List Suggestion) : Text :=
  (Json.array (suggestions.map toJson)).write

end Suggestion
end FormulaPad
