import Resilience.Time
import Resilience.Event

/-!
# Circuit breakers

A **breaker** is closed, open or half open. Closed, it lets every call through and counts the
failures since the last success; when they reach the threshold it trips and is open. Open, it
refuses every call until the reset timeout has passed since the last failure; the first call
after that is the **probe**, let through while the breaker is half open. The probe's outcome
closes the breaker or opens it again; while it runs, every other call is refused.

Nothing happens on a timer: an open breaker turns half open when a call asks. Calls that were
admitted before the breaker tripped may settle much later. They are counted and decide nothing.

Each step returns the event that it has to report, if any: one event for each change of state.
-/

namespace Resilience

namespace Breaker

/-- The three states of a breaker. -/
inductive Phase where
  | closed
  | opened
  | halfOpen
deriving DecidableEq, Repr

/-- The word for a state. -/
def Phase.word : Phase → String
  | .closed => "CLOSED"
  | .opened => "OPEN"
  | .halfOpen => "HALF_OPEN"

/-- How many failures in a row trip a breaker, and how long it then stays open. -/
structure Config where
  failureThreshold : Nat := 5
  resetTimeout : Duration := .ofMillis 30000
deriving DecidableEq, Repr

/-- A threshold of zero acts as one. -/
def Config.threshold (config : Config) : Nat := max config.failureThreshold 1

/-- The answer to a call that asks to go ahead. -/
inductive Admission where
  | allowed (probe : Bool)
  | rejected (failureCount : Nat)
deriving DecidableEq, Repr

end Breaker

open Breaker in
/-- The state of one breaker. -/
structure Breaker where
  phase : Phase := .closed
  failureCount : Nat := 0
  successCount : Nat := 0
  /-- When a failure was last recorded. -/
  lastFailure : Option Instant := none
  /-- A probe has been let through and has not settled. -/
  probing : Bool := false
deriving DecidableEq, Repr

namespace Breaker

/-- Whether the reset timeout has passed since the last failure. -/
def cooled (config : Config) (now : Instant) (b : Breaker) : Bool :=
  match b.lastFailure with
  | none => true
  | some failedAt => config.resetTimeout.nanos ≤ (now.since failedAt).nanos

/-- A call asks to go ahead. -/
def enter (name : String) (config : Config) (now : Instant) (b : Breaker) :
    Admission × Option Event × Breaker :=
  match b.phase with
  | .closed => (.allowed false, none, b)
  | .opened =>
    if b.cooled config now then
      (.allowed true, some (.breakerHalfOpen name), { b with phase := .halfOpen, probing := true })
    else (.rejected b.failureCount, none, b)
  | .halfOpen =>
    if b.probing then (.rejected b.failureCount, none, b)
    else (.allowed true, none, { b with probing := true })

/-- An admitted call settled well. -/
def recordSuccess (name : String) (probe : Bool) (b : Breaker) : Option Event × Breaker :=
  let counted := { b with successCount := b.successCount + 1 }
  match b.phase with
  | .closed => (none, { counted with failureCount := 0 })
  | .opened => (none, counted)
  | .halfOpen =>
    if probe then
      (some (.breakerClosed name),
        { counted with phase := .closed, failureCount := 0, probing := false })
    else (none, counted)

/-- Whether a failure trips the breaker, given the failures counted so far, this one included. -/
def trips (config : Config) (probe : Bool) (phase : Phase) (failureCount : Nat) : Bool :=
  match phase with
  | .closed => config.threshold ≤ failureCount
  | .halfOpen => probe
  | .opened => false

/-- An admitted call failed. The count of failures stops at the greatest 32-bit number. -/
def recordFailure (name : String) (config : Config) (now : Instant) (probe : Bool)
    (b : Breaker) : Option Event × Breaker :=
  let count := min (b.failureCount + 1) maxHalfWord
  let counted := { b with failureCount := count, lastFailure := some now }
  if trips config probe b.phase count then
    (some (.breakerOpened name count), { counted with phase := .opened, probing := false })
  else (none, counted)

/-- A probe went away before it settled: it panicked, was cancelled or ran out of time. -/
def probeLost (b : Breaker) : Breaker := { b with probing := false }

/-- Closes the breaker by hand. Successes and the last failure stay on record. -/
def reset (name : String) (b : Breaker) : Option Event × Breaker :=
  (if b.phase = .closed then none else some (.breakerClosed name),
    { b with phase := .closed, failureCount := 0, probing := false })

/-- What a breaker shows of itself. -/
structure Status where
  name : String
  phase : Phase
  failureCount : Nat
  successCount : Nat
  lastFailure : Option Instant
deriving DecidableEq, Repr

def status (name : String) (b : Breaker) : Status :=
  ⟨name, b.phase, b.failureCount, b.successCount, b.lastFailure⟩

end Breaker

end Resilience
