import Resilience.Session.Basic

/-!
# Scheduling

Tasks take turns in the order in which they became ready. A turn lasts until the task ends or
blocks; nothing else happens meanwhile. `Session.settle` gives turns until no task is ready.

Time passes only when all tasks are blocked: `Session.advance` goes from one due timer to the
next, wakes what is due in the order in which the sleeps began, and lets it settle, up to the
instant asked for.

A turn is given for a reason: a task is new, its timer is due, it was cancelled, or its ticket
was served. In one instant only tickets can be served again and again, and every task has a
bound on how often it stands in a line (`Job.waits`), so `Session.turnsLeft` turns are enough to
settle.
-/

namespace Resilience

namespace Session

/-- A task goes on with what it does. -/
def continueTask (id : TaskId) (job : Job) (w : World) (s : Session) : Session :=
  { s with world := w, tasks := s.tasks.set id ⟨job, false⟩ }

/-- A turn of a call. -/
def turnCall (task : TaskId) (id : String) (op : Operation) (arg : Json) (call? : Option Call)
    (s : Session) : Session :=
  let polled := match call? with
    | none => op.start task arg s.world
    | some c => c.resume task s.world
  match polled with
  | (.pending c, w) => s.continueTask task (.call id op arg (some c)) w
  | (.ready outcome, w) => { s with world := w.note (.done id outcome) }
  | (.panicked text, w) => { s with world := w.note (.panicked id text) }

/-- A slot was acquired. -/
def slotAcquired (id : String) (limiter : ComponentId) (w : World) (s : Session) : Session :=
  { s with world := w.note (.acquired id) }.keepPermit id limiter

/-- A turn of a task that acquires a slot. -/
def turnAcquire (task : TaskId) (id : String) (limiter : ComponentId) (ticket? : Option Ticket)
    (s : Session) : Session :=
  match ticket? with
  | none =>
    match s.world.askSlot limiter task with
    | (.ok none, w) => s.slotAcquired id limiter w
    | (.ok (some ticket), w) => s.continueTask task (.acquire id limiter (some ticket)) w
    | (.error rejection, w) => { s with world := w.note (.denied id rejection) }
  | some ticket =>
    match s.world.pickUpSlot? limiter ticket with
    | some w => s.slotAcquired id limiter w
    | none => s.continueTask task (.acquire id limiter (some ticket)) s.world

/-- A turn of a task that takes a token. -/
def turnTake (task : TaskId) (id : String) (bucket : ComponentId) (ticket? : Option Ticket)
    (s : Session) : Session :=
  match ticket? with
  | none =>
    match s.world.askToken bucket task with
    | (.ok none, w) => { s with world := w.note (.taken id) }
    | (.ok (some ticket), w) => s.continueTask task (.take id bucket (some ticket)) w
    | (.error rejection, w) => { s with world := w.note (.denied id rejection) }
  | some ticket =>
    match s.world.pickUpToken bucket ticket with
    | .granted w => { s with world := w.note (.taken id) }
    | .refused rejection => { s with world := s.world.note (.denied id rejection) }
    | .waiting => s.continueTask task (.take id bucket (some ticket)) s.world

/-- Background work sleeps until its next turn. -/
def sleepTick (task : TaskId) (tick : Duration) (job : Option Timer → Job) (s : Session) :
    Session :=
  let (timer?, w) := s.world.sleep tick
  s.continueTask task (job timer?) w

/-- A turn of the work that refills a bucket. -/
def turnRefill (task : TaskId) (bucket : ComponentId) (timer? : Option Timer) (s : Session) :
    Session :=
  match s.world.buckets.get? bucket, timer? with
  | none, _ => s
  | some c, none => s.sleepTick task c.config.tick (.refill bucket)
  | some c, some timer =>
    if c.state.closed ∨ ¬ s.holdsBucket bucket then s
    else if s.world.elapsed timer then
      { s with world := (s.world.refillBucket bucket).2 }.sleepTick task c.config.tick
        (.refill bucket)
    else s.continueTask task (.refill bucket timer?) s.world

/-- A turn of the work that sweeps a cache. -/
def turnSweep (task : TaskId) (cache : ComponentId) (timer? : Option Timer) (s : Session) :
    Session :=
  match s.world.caches.get? cache, timer? with
  | none, _ => s
  | some c, none => s.sleepTick task c.config.tick (.sweep cache)
  | some c, some timer =>
    if ¬ c.sweeping ∨ ¬ s.holdsCache cache then s
    else if s.world.elapsed timer then
      { s with world := s.world.sweepCache cache }.sleepTick task c.config.tick (.sweep cache)
    else s.continueTask task (.sweep cache timer?) s.world

/-- A turn of a task. A task that is not put back has ended. -/
def turn (id : TaskId) (s : Session) : Session :=
  match s.tasks.get? id with
  | none => s
  | some task =>
    let s := { s with tasks := s.tasks.erase id }
    if task.cancelled then { s with world := task.job.abandon s.world }
    else match task.job with
      | .call name op arg call? => s.turnCall id name op arg call?
      | .acquire name limiter ticket? => s.turnAcquire id name limiter ticket?
      | .take name bucket ticket? => s.turnTake id name bucket ticket?
      | .refill bucket timer? => s.turnRefill id bucket timer?
      | .sweep cache timer? => s.turnSweep id cache timer?

/-- How many turns are enough until no task is ready. -/
def turnsLeft (s : Session) : Nat :=
  s.world.ready.length + s.tasks.total (·.job.waits)

/-- Gives at most `n` turns. -/
def turns : Nat → Session → Session
  | 0, s => s
  | n + 1, s =>
    match s.world.ready with
    | [] => s
    | id :: rest => turns n (turn id { s with world := { s.world with ready := rest } })

/-- Gives turns until no task is ready. -/
def settle (s : Session) : Session := turns s.turnsLeft s

/-! ### Time -/

/-- The sleeps that have begun, each with its task. -/
def timers (s : Session) : List (Timer × TaskId) :=
  s.tasks.flatMap fun (id, task) => task.job.timers.map fun timer => (timer, id)

/-- When the next timer is due. -/
def nextDue? (s : Session) : Option Instant := (s.timers.map (·.1.due)).min?

/-- Goes to a later instant and wakes what is due then, in the order in which the sleeps
began. -/
def jump (instant : Instant) (s : Session) : Session :=
  let due := (s.timers.filter (·.1.due ≤ instant)).mergeSort fun a b => a.1.serial ≤ b.1.serial
  { s with world := due.foldl (fun w t => w.wake t.2) (s.world.pass instant) }

/-- Goes from one due timer to the next, at most `n` times and up to an instant. -/
def jumps : Nat → Instant → Session → Session
  | 0, _, s => s
  | n + 1, target, s =>
    match s.nextDue? with
    | none => s
    | some due => if due ≤ target then jumps n target (s.jump due).settle else s

/-- Lets time pass. A jump takes a millisecond at least, so `ms` jumps are enough. -/
def advance (ms : Nat) (s : Session) : Session :=
  let target := s.world.now + ms
  let s := jumps ms target s.settle
  { s with world := s.world.pass target }

end Session

end Resilience
