import Resilience.Queue

/-!
# Concurrency limiters

A **limiter** lets at most `Config.slots` calls run at once. A caller that comes while all slots
are taken waits in line, first come, first served, unless the line is full: then it is refused
on the spot. A released slot goes straight to the first live waiter, so it is never free while
somebody waits; only when nobody does is the slot given back.

A waiter that was handed a slot has it from that moment, before it runs again: its ticket is in
`granted`. If it is cancelled before it picks the slot up, the slot goes on to the next in line.
-/

namespace Resilience

namespace Limiter

/-- How many calls may run, and how many may wait; a `maxQueue` of zero sets no bound. -/
structure Config where
  maxConcurrency : Nat := 10
  maxQueue : Nat := 100
deriving DecidableEq, Repr

/-- The number of slots: at least one. -/
def Config.slots (config : Config) : Nat := max config.maxConcurrency 1

/-- The answer to a caller that asks for a slot. -/
inductive Admission where
  | admitted
  | queued
  | rejected (active queued : Nat)
deriving DecidableEq, Repr

end Limiter

/-- The state of one limiter. -/
structure Limiter where
  /-- Slots in use: held by callers, or granted and not yet picked up. -/
  active : Nat := 0
  /-- The line, dead places included. -/
  queue : List Waiter := []
  /-- Tickets of waiters that were handed a slot and have not run since. -/
  granted : List Ticket := []
deriving DecidableEq, Repr

namespace Limiter

/-- How many places are in line. -/
def queued (l : Limiter) : Nat := l.queue.length

/-- A caller asks for a slot. Callers that gave up do not count against the bound. -/
def ask (config : Config) (w : Waiter) (l : Limiter) : Admission × Limiter :=
  if l.active < config.slots then (.admitted, { l with active := l.active + 1 })
  else
    let waiting := Queue.purge l.queue
    if config.maxQueue ≠ 0 ∧ config.maxQueue ≤ waiting.length then
      (.rejected l.active waiting.length, { l with queue := waiting })
    else (.queued, { l with queue := waiting ++ [w] })

/-- A slot comes free: the first live waiter gets it, or it is given back. -/
def release (l : Limiter) : Option Waiter × Limiter :=
  match Queue.next? l.queue with
  | some (w, rest) => (some w, { l with queue := rest, granted := l.granted ++ [w.ticket] })
  | none => (none, { l with queue := [], active := l.active - 1 })

/-- The waiter with this ticket runs again and takes up the slot that it was granted. -/
def pickUp? (ticket : Ticket) (l : Limiter) : Option Limiter :=
  if ticket ∈ l.granted then some { l with granted := l.granted.erase ticket } else none

/-- The waiter with this ticket is cancelled. A slot that it was already granted goes on. -/
def giveUp (ticket : Ticket) (l : Limiter) : Option Waiter × Limiter :=
  if ticket ∈ l.granted then release { l with granted := l.granted.erase ticket }
  else (none, { l with queue := Queue.giveUp ticket l.queue })

end Limiter

end Resilience
