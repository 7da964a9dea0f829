import FormulaPad.Duration
import FormulaPad.Suggestion.Source
import FormulaPad.Text.Quoted

/-!
# FormulaPad.Suggestion.Cache

A list of suggestions that stays fresh for a fixed time.

A read while the list is fresh returns it; any other read fetches, and keeps
the outcome as it was at that time, a failure as the empty list. The clock is
given with every read and counts milliseconds; it may go backwards, which does
not make a list older. The source is the sequence of the outcomes of its
fetches, so that `fetches` is all there is to its state.
-/

namespace FormulaPad

/-- A list and the time at which it was fetched. -/
structure CacheEntry where
  fetchedAt : Nat
  suggestions : List Suggestion
  deriving DecidableEq

/-- The entry is fresh at this time. -/
def CacheEntry.isFresh (e : CacheEntry) (ttl : Duration) (now : Nat) : Bool :=
  now - e.fetchedAt < ttl.milliseconds

structure Cache where
  /-- How long a list stays fresh. -/
  ttl : Duration
  /-- The outcome of the `n`-th fetch, counted from zero. -/
  outcome : Nat → FetchOutcome
  /-- The number of fetches so far. -/
  fetches : Nat := 0
  entry : Option CacheEntry := none

namespace Cache

def isFreshAt (c : Cache) (now : Nat) : Bool := c.entry.any (·.isFresh c.ttl now)

/-- The list that is kept, fresh or not. -/
def peek? (c : Cache) : Option (List Suggestion) := c.entry.map (·.suggestions)

/-- Fetch once more. -/
def refetch (c : Cache) (now : Nat) : List Suggestion × Cache :=
  let ss := (c.outcome c.fetches).suggestions
  (ss, { c with fetches := c.fetches + 1, entry := some ⟨now, ss⟩ })

/-- The list at this time, fetched if need be. -/
def getAt (c : Cache) (now : Nat) : List Suggestion × Cache :=
  match c.entry with
  | none => c.refetch now
  | some e => if e.isFresh c.ttl now then (e.suggestions, c) else c.refetch now

/-- Forget the list that is kept. -/
def invalidate (c : Cache) : Cache := { c with entry := none }

/-- The cache of a source in one line, for those who look for faults. -/
def describe (c : Cache) (source : Text) : Text :=
  "SuggestionCache \x7b source: ".toList ++ Text.quoted source ++ ", ttl: ".toList ++ c.ttl.write ++
    ", cached: ".toList ++ (if c.entry.isSome then "true" else "false").toList ++ " \x7d".toList

end Cache
end FormulaPad
