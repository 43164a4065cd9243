import Resilience.Time
import Resilience.Queue

/-!
# Token buckets

A **bucket** starts with `Config.capacity` tokens, one for each call. Once more than the
interval has passed since the last refill, the bucket is set back to its full number and the
callers in line are served in order, a token each. Whether a refill is due is looked at when a
caller comes and by background work every half interval.

The line has no bound. A waiter that was handed a token and is cancelled before it runs again
takes the token with it. After `shutDown` there are no more tokens: the line is dissolved and
every caller is refused.
-/

namespace Resilience

namespace Bucket

/-- How many tokens an interval brings. -/
structure Config where
  rate : Nat := 10
  interval : Duration := .ofMillis 1000
deriving DecidableEq, Repr

/-- A rate of zero acts as one. -/
def Config.capacity (config : Config) : Nat := max config.rate 1

/-- How often background work looks whether a refill is due. -/
def Config.tick (config : Config) : Duration := config.interval.half.longer .shortestTick

/-- The answer to a caller that asks for a token. -/
inductive Admission where
  | admitted
  | queued
  | closed
deriving DecidableEq, Repr

end Bucket

/-- The state of one bucket. -/
structure Bucket where
  tokens : Nat
  lastRefill : Instant
  /-- The line, dead places included. -/
  queue : List Waiter := []
  /-- Tickets of waiters that were handed a token and have not run since. -/
  granted : List Ticket := []
  closed : Bool := false
deriving DecidableEq, Repr

namespace Bucket

/-- A full bucket. -/
def full (config : Config) (now : Instant) : Bucket := ⟨config.capacity, now, [], [], false⟩

/-- How many places are in line. -/
def queued (b : Bucket) : Nat := b.queue.length

/-- Whether a refill is due. -/
def refillDue (config : Config) (now : Instant) (b : Bucket) : Bool :=
  ¬ b.closed ∧ config.interval.nanos < (now.since b.lastRefill).nanos

/-- Fills the bucket and serves the line. -/
def fill (config : Config) (now : Instant) (b : Bucket) : List Waiter × Bucket :=
  let (served, left, rest) := Queue.serve config.capacity b.queue
  (served,
    { b with tokens := left, lastRefill := now, queue := rest,
             granted := b.granted ++ served.map (·.ticket) })

/-- Fills the bucket if a refill is due, and tells who was served. -/
def refill (config : Config) (now : Instant) (b : Bucket) : List Waiter × Bucket :=
  if b.refillDue config now then b.fill config now else ([], b)

/-- A caller asks for a token. The waiters served by a refill that was due are told as well. -/
def acquire (config : Config) (now : Instant) (w : Waiter) (b : Bucket) :
    Admission × List Waiter × Bucket :=
  if b.closed then (.closed, [], b)
  else
    let (served, b) := b.refill config now
    if 0 < b.tokens then (.admitted, served, { b with tokens := b.tokens - 1 })
    else (.queued, served, { b with queue := b.queue ++ [w] })

/-- The waiter with this ticket runs again and takes up the token that it was granted. -/
def pickUp? (ticket : Ticket) (b : Bucket) : Option Bucket :=
  if ticket ∈ b.granted then some { b with granted := b.granted.erase ticket } else none

/-- The waiter with this ticket is cancelled. A token that it was already granted is lost. -/
def giveUp (ticket : Ticket) (b : Bucket) : Bucket :=
  if ticket ∈ b.granted then { b with granted := b.granted.erase ticket }
  else { b with queue := Queue.giveUp ticket b.queue }

/-- Closes the bucket for good, and tells who was still waiting. -/
def shutDown (b : Bucket) : List Waiter × Bucket :=
  (Queue.purge b.queue, { b with closed := true, queue := [] })

end Bucket

end Resilience
