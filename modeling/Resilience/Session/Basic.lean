import Resilience.Execution
import Resilience.Diagnostics.Response

/-!
# Sessions

A **session** is a world with tasks that live in it. A task is a call of an operation, a wish for
a slot that is then kept, a wish for a token, or background work: the refills of a bucket and the
sweeps of a cache. A session also knows by which names it handed out what: operations, limiters,
buckets, caches, tasks, and slots that are kept.

Background work belongs to its bucket or cache. It ends at its first turn after nobody holds the
component any more, or after the component was shut down.
-/

namespace Resilience

/-- What a task does, and how far it has come. -/
inductive Job where
  /-- Calls an operation; no call yet before its first turn. -/
  | call (id : String) (op : Operation) (arg : Json) (call? : Option Call)
  /-- Acquires a slot and keeps it. -/
  | acquire (id : String) (limiter : ComponentId) (ticket? : Option Ticket)
  /-- Takes a token. -/
  | take (id : String) (bucket : ComponentId) (ticket? : Option Ticket)
  /-- Looks again and again whether a refill is due. -/
  | refill (bucket : ComponentId) (timer? : Option Timer)
  /-- Sweeps again and again. -/
  | sweep (cache : ComponentId) (timer? : Option Timer)

/-- A task that has not ended. -/
structure Task where
  job : Job
  /-- The task is to be taken apart at its next turn. -/
  cancelled : Bool := false

/-- A world with tasks. -/
structure Session where
  world : World
  tasks : Table TaskId Task := []
  /-- The latest task of each name. -/
  taskNames : Table String TaskId := []
  /-- The slots that are kept, with the limiters that they are of. -/
  permits : Table String ComponentId := []
  operations : Table String Operation := []
  limiters : Table String ComponentId := []
  buckets : Table String ComponentId := []
  caches : Table String ComponentId := []

namespace Job

/-- The sleeps that a task has begun. -/
def timers : Job → List Timer
  | call _ _ _ (some c) => c.timers
  | call _ _ _ none => []
  | acquire .. => []
  | take .. => []
  | refill _ timer? => timer?.toList
  | sweep _ timer? => timer?.toList

/-- How many times at most the task will yet stand in a line. -/
def waits : Job → Nat
  | call _ _ _ (some c) => c.waits
  | call _ op _ none => op.waits
  | acquire .. => 1
  | take .. => 1
  | refill .. => 0
  | sweep .. => 0

/-- Takes a task apart. -/
def abandon : Job → World → World
  | call _ _ _ (some c), w => c.abandon w
  | call _ _ _ none, w => w
  | acquire _ limiter (some ticket), w => w.leaveSlot limiter ticket
  | acquire _ _ none, w => w
  | take _ bucket (some ticket), w => w.leaveToken bucket ticket
  | take _ _ none, w => w
  | refill .., w => w
  | sweep .., w => w

def usesCache (cache : ComponentId) : Job → Bool
  | call _ op _ _ => op.usesCache cache
  | _ => false

def usesBucket (bucket : ComponentId) : Job → Bool
  | call _ op _ _ => op.usesBucket bucket
  | take _ other _ => other == bucket
  | _ => false

end Job

namespace Session

/-- A session at the start. -/
def create (settings : Settings) (recording : Bool) : Session :=
  { world := { settings := settings, recording := recording } }

/-- Whether anybody holds a cache: a name, an operation or a running call. -/
def holdsCache (cache : ComponentId) (s : Session) : Bool :=
  s.caches.values.contains cache || s.operations.values.any (·.usesCache cache) ||
    s.tasks.values.any (·.job.usesCache cache)

/-- Whether anybody holds a bucket: the registry, a name, an operation or a running task. -/
def holdsBucket (bucket : ComponentId) (s : Session) : Bool :=
  s.world.bucketNames.values.contains bucket || s.buckets.values.contains bucket ||
    s.operations.values.any (·.usesBucket bucket) || s.tasks.values.any (·.job.usesBucket bucket)

/-- A new task, with a turn. -/
def spawn (job : Job) (s : Session) : TaskId × Session :=
  let (id, w) := s.world.fresh
  (id, { s with world := w.wake id, tasks := s.tasks.set id ⟨job, false⟩ })

/-- A new task with a name. -/
def spawnNamed (name : String) (job : Job) (s : Session) : Session :=
  let (id, s) := s.spawn job
  { s with taskNames := s.taskNames.set name id }

/-- Keeps a slot under a name; a slot that was kept there comes free. -/
def keepPermit (id : String) (limiter : ComponentId) (s : Session) : Session :=
  let old? := s.permits.get? id
  let s := { s with permits := s.permits.set id limiter }
  match old? with
  | some old => { s with world := s.world.releaseSlot old }
  | none => s

/-- Gives back a slot that is kept, and tells whether there was one. -/
def releasePermit (id : String) (s : Session) : Bool × Session :=
  match s.permits.get? id with
  | some limiter =>
    (true, { s with permits := s.permits.erase id, world := s.world.releaseSlot limiter })
  | none => (false, s)

/-- Cancels the task of a name, and tells whether it had not ended. -/
def cancel (name : String) (s : Session) : Bool × Session :=
  match s.taskNames.get? name with
  | some id =>
    if s.tasks.has id then
      (true,
        { s with
          tasks := s.tasks.modify id fun t => { t with cancelled := true }
          world := s.world.wake id })
    else (false, s)
  | none => (false, s)

/-- Whether the task of a name has ended. -/
def finished (name : String) (s : Session) : Bool :=
  match s.taskNames.get? name with
  | some id => ¬ s.tasks.has id
  | none => false

/-- What the diagnostics show about this session and one of its caches. -/
def view (cache : ComponentId) (s : Session) : Diagnostics.View where
  now := s.world.now
  breakers := s.world.statuses
  status? name := s.world.status? name
  statistics := match s.world.caches.get? cache with
    | some c => c.statistics s.world.now
    | none => {}

end Session

end Resilience
