import Resilience.Operation
import Resilience.Queue

/-!
# Calls in progress

A `Call` says where a call of an operation is blocked. It has the layers of the operation as far
as the call has come: a slot that the call holds, the probe that it is, the attempt that it
makes, and at the bottom what it waits for, which is a timer, a slot or a token. Layers that the
call has not reached yet, or has to run again, are there as operations with their argument.

A call is always blocked somewhere: a call that can go on does so at once and ends, or blocks
elsewhere (`Poll`).
-/

namespace Resilience

/-- A sleep: when it is over, and a number that tells which of two sleeps began first. -/
structure Timer where
  due : Instant
  serial : Nat
deriving DecidableEq, Repr

/-- Where a call is blocked. -/
inductive Call where
  /-- A source sleeps before its end. -/
  | working (timer : Timer) (ending : Ending) (arg : Json)
  /-- Inside a breaker. -/
  | guarded (breaker : String) (probe : Bool) (inner : Call)
  /-- Inside a breaker, with something else to call if this fails. -/
  | withFallback (breaker : String) (probe : Bool) (fallback : Operation) (arg : Json)
      (inner : Call)
  /-- In the line of a limiter. -/
  | awaitingSlot (limiter : ComponentId) (ticket : Ticket) (inner : Operation) (arg : Json)
  /-- Holds a slot of a limiter. -/
  | holdingSlot (limiter : ComponentId) (inner : Call)
  /-- In the line of a bucket. -/
  | awaitingToken (bucket : ComponentId) (ticket : Ticket) (inner : Operation) (arg : Json)
  /-- Has until a timer is due. -/
  | timed (timer : Timer) (limit : Duration) (name : String) (inner : Call)
  /-- Makes an attempt; `left` more may follow, the next one after a wait of `delay`. -/
  | attempting (policy : Retry.Policy) (left : Nat) (delay : Duration) (op : Operation)
      (arg : Json) (inner : Call)
  /-- Waits before the next attempt, which `left` more may follow. -/
  | pausing (policy : Retry.Policy) (left : Nat) (delay : Duration) (op : Operation)
      (arg : Json) (timer : Timer)
  /-- Will store the answer. -/
  | filling (cache : ComponentId) (key : String) (ttl : Nat) (inner : Call)

/-- What running a call as far as it can go leads to. -/
inductive Poll where
  | pending (call : Call)
  | ready (outcome : Outcome)
  | panicked (text : String)

namespace Call

/-- The sleeps that the call has begun and that are not over, innermost first. -/
def timers : Call → List Timer
  | working timer _ _ => [timer]
  | guarded _ _ inner => inner.timers
  | withFallback _ _ _ _ inner => inner.timers
  | awaitingSlot .. => []
  | holdingSlot _ inner => inner.timers
  | awaitingToken .. => []
  | timed timer _ _ inner => inner.timers ++ [timer]
  | attempting _ _ _ _ _ inner => inner.timers
  | pausing _ _ _ _ _ timer => [timer]
  | filling _ _ _ inner => inner.timers

/-- How many times at most the rest of the call stands in a line, now included. -/
def waits : Call → Nat
  | working .. => 0
  | guarded _ _ inner => inner.waits
  | withFallback _ _ fallback _ inner => inner.waits + fallback.waits
  | awaitingSlot _ _ inner _ => inner.waits + 1
  | holdingSlot _ inner => inner.waits
  | awaitingToken _ _ inner _ => inner.waits + 1
  | timed _ _ _ inner => inner.waits
  | attempting _ left _ op _ inner => inner.waits + left * op.waits
  | pausing _ left _ op _ _ => (left + 1) * op.waits
  | filling _ _ _ inner => inner.waits

end Call

end Resilience
