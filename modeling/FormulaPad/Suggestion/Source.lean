import FormulaPad.Suggestion.Basic

/-!
# FormulaPad.Suggestion.Source

Where suggestions come from, and how a fetch ends.

A source is a fixed list, a file, or an address on the network. Files and
answers of a server hold the same JSON array; a fetch yields its suggestions or
the cause why there are none.
-/

namespace FormulaPad

/-- Why a fetch has failed. -/
inductive FetchError where
  /-- The server could not be reached, or did not answer in time. -/
  | network
  /-- The server answered with a status other than success. -/
  | status (code : Nat)
  /-- The content is no list of suggestions. -/
  | parse
  /-- The file could not be read. -/
  | unreadable
  deriving DecidableEq, Repr

def FetchError.message : FetchError → Text
  | network => "network error".toList
  | status code => "HTTP ".toList ++ Text.ofNat code
  | parse => "parse error".toList
  | unreadable => "I/O error".toList

/-- How a fetch ends. -/
abbrev FetchOutcome := Except FetchError (List Suggestion)

/-- The suggestions of a fetch; a failure counts as none. -/
def FetchOutcome.suggestions : FetchOutcome → List Suggestion
  | .ok ss => ss
  | .error _ => []

inductive Source where
  | fixed (suggestions : List Suggestion)
  | file (path : Text)
  | endpoint (url : Text)

namespace Source

def describe : Source → Text
  | fixed ss => "static (".toList ++ Text.ofNat ss.length ++ " suggestions)".toList
  | file path => "file ".toList ++ path
  | endpoint url => "GET ".toList ++ url

/-- The outcome for content that is there. -/
def ofContent (content : Text) : FetchOutcome :=
  match Suggestion.readList? content with
  | some ss => .ok ss
  | none => .error .parse

/-- The outcome for a file, of which the content is given if it could be read. -/
def ofFile : Option Text → FetchOutcome
  | some content => ofContent content
  | none => .error .unreadable

/-- The status says that the request has succeeded. -/
def isSuccess (status : Nat) : Bool := 200 ≤ status && status < 300

/-- With this status there is never any content. -/
def noContent : Nat := 204

/-- The outcome for the answer of a server. -/
def ofResponse (status : Nat) (content : Text) : FetchOutcome :=
  if isSuccess status then ofContent (if status = noContent then [] else content)
  else .error (.status status)

end Source
end FormulaPad
