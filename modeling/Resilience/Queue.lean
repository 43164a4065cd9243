/-!
# Wait queues

Callers that cannot be admitted wait in line. Each waiting caller holds a **ticket**, a number
of its own, and the line knows which task to wake when the ticket is served. A caller that gives
up leaves its place behind: the place stays in line, marked as dead, until it is skipped by
whoever serves the line or purged.
-/

namespace Resilience

/-- The number of a caller's place in some line. -/
abbrev Ticket := Nat

/-- The number of a task. -/
abbrev TaskId := Nat

/-- A place in line. -/
structure Waiter where
  ticket : Ticket
  /-- The task to wake when the ticket is served. -/
  caller : TaskId
  /-- The caller is still waiting. -/
  live : Bool := true
deriving DecidableEq, Repr

namespace Queue

/-- The caller with this ticket gives up; its place stays. -/
def giveUp (ticket : Ticket) (queue : List Waiter) : List Waiter :=
  queue.map fun w => if w.ticket = ticket then { w with live := false } else w

/-- Removes the places of callers that gave up. -/
def purge (queue : List Waiter) : List Waiter := queue.filter (·.live)

/-- The first live waiter and the line behind it; places before it that are dead are dropped. -/
def next? (queue : List Waiter) : Option (Waiter × List Waiter) :=
  match queue.dropWhile (fun w => ¬ w.live) with
  | [] => none
  | w :: rest => some (w, rest)

/-- Hands out up to `n` things to the waiters from the front, skipping the dead ones: who got
one, how many are left over, and the line that remains. -/
def serve : Nat → List Waiter → List Waiter × Nat × List Waiter
  | 0, queue => ([], 0, queue)
  | n + 1, [] => ([], n + 1, [])
  | n + 1, w :: queue =>
    if w.live then
      let (served, left, rest) := serve n queue
      (w :: served, left, rest)
    else serve (n + 1) queue

end Queue

end Resilience
