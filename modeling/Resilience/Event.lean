import Resilience.Json.Basic

/-!
# Events

Every change of a breaker's state, every overflow of a limiter's queue, every eviction from a
cache and every background sweep that removed something is reported as one event, in the order
of happening.
-/

namespace Resilience

/-- One reported change. -/
inductive Event where
  | breakerOpened (name : String) (failureCount : Nat)
  | breakerHalfOpen (name : String)
  | breakerClosed (name : String)
  | queueOverflow (name : String) (active queued maxQueue : Nat)
  | cacheEviction (key : String)
  | cacheSweep (removed : Nat)
deriving DecidableEq, Repr

/-- The written form of an event. -/
def Event.json : Event → Json
  | .breakerOpened name failureCount => .object
      [("event", .string "breaker_opened"), ("failure_count", .ofNat failureCount),
        ("name", .string name)]
  | .breakerHalfOpen name => .object
      [("event", .string "breaker_half_open"), ("name", .string name)]
  | .breakerClosed name => .object [("event", .string "breaker_closed"), ("name", .string name)]
  | .queueOverflow name active queued maxQueue => .object
      [("active", .ofNat active), ("event", .string "queue_overflow"),
        ("max_queue", .ofNat maxQueue), ("name", .string name), ("queued", .ofNat queued)]
  | .cacheEviction key => .object [("event", .string "cache_eviction"), ("key", .string key)]
  | .cacheSweep removed => .object
      [("event", .string "cache_sweep"), ("removed", .ofNat removed)]

end Resilience
