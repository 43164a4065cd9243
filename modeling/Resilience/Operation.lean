import Resilience.Retry

/-!
# Operations

An **operation** takes a document and ends with a document or a failure; it can also panic. At
the bottom of an operation is a **source**, something outside the toolkit. Around it are layers,
in any order and number, each of which is an operation again:

* `guarded` refuses calls while a breaker is open;
* `withFallback` calls something else with the same argument when the breaker is open or the
  call fails;
* `limited` waits for a slot of a limiter, and `rateLimited` for a token of a bucket;
* `timed` gives up after a while;
* `retrying` tries again;
* `cached` remembers answers under a key that it makes from the argument.

A source is a list of turns: the first invocation takes the first turn, the second the second
and so on, and the last turn is repeated for ever. Layers and sources are named by number; the
components that the numbers stand for are part of the world that an operation runs in.
-/

namespace Resilience

/-- How an invocation of a source ends. -/
inductive Ending where
  | panic (text : String)
  | fail (failure : Failure)
  /-- Returns its argument. -/
  | echo
  | return (value : Json)

/-- One invocation of a source: it may sleep first. -/
structure Turn where
  pause : Option Duration
  ending : Ending

/-- Something to call. -/
structure Source where
  label : String
  turns : List Turn
  /-- How often it was invoked. -/
  invoked : Nat := 0

/-- The turn with this number, counted from zero; the last one goes on for ever, and a source
without turns returns its argument. -/
def Source.turn (s : Source) (n : Nat) : Turn :=
  (s.turns[n]?.or s.turns.getLast?).getD ⟨none, .echo⟩

/-- The number of a component, a cache or a source. -/
abbrev ComponentId := Nat

/-- An operation with its layers. -/
inductive Operation where
  | source (id : ComponentId)
  | guarded (inner : Operation) (breaker : String)
  | withFallback (inner : Operation) (breaker : String) (fallback : Operation)
  | limited (inner : Operation) (limiter : ComponentId)
  | rateLimited (inner : Operation) (bucket : ComponentId)
  | timed (inner : Operation) (limit : Duration) (name : String)
  | retrying (inner : Operation) (policy : Retry.Policy)
  | cached (inner : Operation) (cache : ComponentId) (keyOf : Json → String) (ttl : Nat)

namespace Operation

/-- Whether a layer of the operation uses this cache. -/
def usesCache (cache : ComponentId) : Operation → Bool
  | source _ => false
  | guarded inner _ => inner.usesCache cache
  | withFallback inner _ fallback => inner.usesCache cache || fallback.usesCache cache
  | limited inner _ => inner.usesCache cache
  | rateLimited inner _ => inner.usesCache cache
  | timed inner _ _ => inner.usesCache cache
  | retrying inner _ => inner.usesCache cache
  | cached inner other _ _ => other == cache || inner.usesCache cache

/-- Whether a layer of the operation uses this bucket. -/
def usesBucket (bucket : ComponentId) : Operation → Bool
  | source _ => false
  | guarded inner _ => inner.usesBucket bucket
  | withFallback inner _ fallback => inner.usesBucket bucket || fallback.usesBucket bucket
  | limited inner _ => inner.usesBucket bucket
  | rateLimited inner other => other == bucket || inner.usesBucket bucket
  | timed inner _ _ => inner.usesBucket bucket
  | retrying inner _ => inner.usesBucket bucket
  | cached inner _ _ _ => inner.usesBucket bucket

/-- How many times at most one run of the operation stands in a line. -/
def waits : Operation → Nat
  | source _ => 0
  | guarded inner _ => inner.waits
  | withFallback inner _ fallback => inner.waits + fallback.waits
  | limited inner _ => inner.waits + 1
  | rateLimited inner _ => inner.waits + 1
  | timed inner _ _ => inner.waits
  | retrying inner policy => policy.attempts * inner.waits
  | cached inner _ _ _ => inner.waits

end Operation

end Resilience
