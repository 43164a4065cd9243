import Resilience.Json.Basic

/-!
# Rejections and failures

A call can fail in two ways. A `Rejection` is made by a layer of the toolkit that refuses or
abandons the call; it carries the name of the component that made it. Any other failure is the
operation's own. `Failure` joins the two, and `Failure.kind` keeps the kind of a rejection, so a
caller can tell a refusal from a breakdown without reading the message.
-/

namespace Resilience

/-- A refusal by a component of the toolkit. -/
inductive Rejection where
  /-- A breaker is open. -/
  | circuitOpen (name : String) (failureCount : Nat)
  /-- The queue of a limiter is full. -/
  | queueOverflow (name : String) (active queued maxQueue : Nat)
  /-- The time allowed has run out. -/
  | timeout (name : String) (elapsedMillis : Nat)
  /-- A bucket was shut down before it admitted the call. -/
  | closed (name : String)
deriving DecidableEq, Repr

/-- What a failed call means to its caller. -/
inductive Failure.Kind where
  | operation
  | capacityExceeded
  | circuitOpen
  | timeout
  | closed
deriving DecidableEq, Repr

namespace Rejection

def kind : Rejection → Failure.Kind
  | circuitOpen .. => .circuitOpen
  | queueOverflow .. => .capacityExceeded
  | timeout .. => .timeout
  | closed .. => .closed

/-- The component that refused the call. -/
def source : Rejection → String
  | circuitOpen name _ => name
  | queueOverflow name _ _ _ => name
  | timeout name _ => name
  | closed name => name

def message : Rejection → String
  | circuitOpen name failureCount =>
    s!"Circuit breaker '{name}' is open ({failureCount} consecutive failures)"
  | queueOverflow name active queued maxQueue =>
    s!"Queue overflow on '{name}': {active} active, {queued} queued (max queue {maxQueue})"
  | timeout name elapsedMillis => s!"Operation '{name}' timed out after {elapsedMillis}ms"
  | closed name => s!"Limiter '{name}' shut down before the call was admitted"

end Rejection

/-- Why a call failed. -/
inductive Failure where
  /-- A component refused it. -/
  | rejected (rejection : Rejection)
  /-- The operation itself failed. -/
  | failed (reason : String)
deriving DecidableEq, Repr

namespace Failure

/-- The word for a kind of failure. -/
def Kind.word : Kind → String
  | .operation => "operation"
  | .capacityExceeded => "capacity_exceeded"
  | .circuitOpen => "circuit_open"
  | .timeout => "timeout"
  | .closed => "closed"

def kind : Failure → Kind
  | rejected r => r.kind
  | failed _ => .operation

/-- The component that refused the call, if one did. -/
def source? : Failure → Option String
  | rejected r => some r.source
  | failed _ => none

def message : Failure → String
  | rejected r => r.message
  | failed reason => "Operation failed: " ++ reason

end Failure

/-- How a call ends. -/
abbrev Outcome := Except Failure Json

end Resilience
