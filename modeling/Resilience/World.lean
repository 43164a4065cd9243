import Resilience.Settings.Basic
import Resilience.Call

/-!
# The world of a call

The **world** is everything that a call can see and touch: the clock, the components and caches,
the sources, the events, and the queue of tasks that are ready to run. The functions here are
the single steps that calls are made of. Each does one thing to one component and reports what
it has to report, in one go, so no two steps ever overlap.

Breakers are known by their names. Limiters and buckets have a number, since one that stands
outside the registry may have the name of another; `limiterNames` and `bucketNames` are the
registry.
-/

namespace Resilience

/-- A component with its name and the configuration that it was created with. -/
structure Component (γ σ : Type) where
  name : String
  config : γ
  state : σ

/-- What is worth telling about a run. -/
inductive Entry where
  | event (event : Event)
  /-- A source was invoked for the `n`-th time. -/
  | started (label : String) (n : Nat) (arg : Json)
  /-- A call ended. -/
  | done (id : String) (outcome : Outcome)
  | panicked (id : String) (text : String)
  /-- A slot was acquired, and is kept. -/
  | acquired (id : String)
  /-- A token was taken. -/
  | taken (id : String)
  /-- A slot or a token was refused. -/
  | denied (id : String) (rejection : Rejection)

/-- The world. -/
structure World where
  settings : Settings
  /-- Events are recorded. -/
  recording : Bool := true
  now : Instant := 0
  breakers : Table String (Component Breaker.Config Breaker) := []
  limiters : Table ComponentId (Component Limiter.Config Limiter) := []
  buckets : Table ComponentId (Component Bucket.Config Bucket) := []
  caches : Table ComponentId (Cache Json) := []
  sources : Table ComponentId Source := []
  limiterNames : Table String ComponentId := []
  bucketNames : Table String ComponentId := []
  events : List Event := []
  /-- What happened since it was last looked at. -/
  log : List (Instant × Entry) := []
  /-- Tasks that are ready to run, in the order of their turns. -/
  ready : List TaskId := []
  /-- The next number for a ticket, a timer or anything else that needs one. -/
  serial : Nat := 0

namespace World

/-! ### Reports and numbers -/

/-- Writes something into the log. -/
def note (entry : Entry) (w : World) : World := { w with log := w.log ++ [(w.now, entry)] }

/-- Reports an event, if there is one and events are recorded. -/
def report (event? : Option Event) (w : World) : World :=
  match event? with
  | some event =>
    if w.recording then note (.event event) { w with events := w.events ++ [event] } else w
  | none => w

/-- Gives a task a turn, unless it already waits for one. -/
def wake (task : TaskId) (w : World) : World :=
  if task ∈ w.ready then w else { w with ready := w.ready ++ [task] }

/-- Wakes the callers of these waiters in order. -/
def wakeAll (served : List Waiter) (w : World) : World :=
  served.foldl (fun w waiter => w.wake waiter.caller) w

/-- The clock moves on to an instant, and never back. -/
def pass (instant : Instant) (w : World) : World := { w with now := max w.now instant }

/-- A number that was not used before. -/
def fresh (w : World) : Nat × World := (w.serial, { w with serial := w.serial + 1 })

/-- Begins a sleep, unless it is over at once. -/
def sleep (d : Duration) (w : World) : Option Timer × World :=
  let due := Instant.after w.now d
  if due ≤ w.now then (none, w) else (some ⟨due, w.serial⟩, { w with serial := w.serial + 1 })

/-- Whether a sleep is over. -/
def elapsed (timer : Timer) (w : World) : Bool := timer.due ≤ w.now

/-! ### The registry

A component is created when its name is first mentioned, and keeps the configuration that it had
then; later mentions lead to the same component, whatever they ask for. -/

/-- The breaker of a name is there afterwards. -/
def openBreaker (name : String) (config : Breaker.Config) (w : World) : World :=
  if w.breakers.has name then w
  else { w with breakers := w.breakers.set name ⟨name, config, {}⟩ }

/-- A limiter of its own. -/
def createLimiter (name : String) (config : Limiter.Config) (w : World) : ComponentId × World :=
  let (id, w) := w.fresh
  (id, { w with limiters := w.limiters.set id ⟨name, config, {}⟩ })

/-- The limiter that the registry has under a name. -/
def openLimiter (name : String) (config : Limiter.Config) (w : World) : ComponentId × World :=
  match w.limiterNames.get? name with
  | some id => (id, w)
  | none =>
    let (id, w) := w.createLimiter name config
    (id, { w with limiterNames := w.limiterNames.set name id })

/-- A bucket of its own. -/
def createBucket (name : String) (config : Bucket.Config) (w : World) : ComponentId × World :=
  let (id, w) := w.fresh
  (id, { w with buckets := w.buckets.set id ⟨name, config, .full config w.now⟩ })

/-- The bucket that the registry has under a name, and whether it was created just now. -/
def openBucket (name : String) (config : Bucket.Config) (w : World) :
    ComponentId × Bool × World :=
  match w.bucketNames.get? name with
  | some id => (id, false, w)
  | none =>
    let (id, w) := w.createBucket name config
    (id, true, { w with bucketNames := w.bucketNames.set name id })

/-- A new cache. -/
def createCache (config : Cache.Config) (sweeping : Bool) (w : World) : ComponentId × World :=
  let (id, w) := w.fresh
  (id, { w with caches := w.caches.set id (.create config sweeping) })

/-- A new source. -/
def createSource (label : String) (turns : List Turn) (w : World) : ComponentId × World :=
  let (id, w) := w.fresh
  (id, { w with sources := w.sources.set id ⟨label, turns, 0⟩ })

/-! ### Sources -/

/-- Invokes a source: the turn to take. -/
def invoke (id : ComponentId) (arg : Json) (w : World) : Turn × World :=
  match w.sources.get? id with
  | some source =>
    (source.turn source.invoked,
      note (.started source.label (source.invoked + 1) arg)
        { w with sources := w.sources.set id { source with invoked := source.invoked + 1 } })
  | none => (⟨none, .echo⟩, w)

/-! ### Breakers -/

/-- A call asks a breaker to go ahead. -/
def enter (name : String) (w : World) : Breaker.Admission × World :=
  match w.breakers.get? name with
  | some c =>
    let (admission, event?, state) := c.state.enter name c.config w.now
    (admission, report event? { w with breakers := w.breakers.set name { c with state := state } })
  | none => (.allowed false, w)

/-- An admitted call settled. -/
def record (name : String) (probe : Bool) (outcome : Outcome) (w : World) : World :=
  match w.breakers.get? name with
  | some c =>
    let (event?, state) := match outcome with
      | .ok _ => c.state.recordSuccess name probe
      | .error _ => c.state.recordFailure name c.config w.now probe
    report event? { w with breakers := w.breakers.set name { c with state := state } }
  | none => w

/-- An admitted call went away before it settled. -/
def forgo (name : String) (probe : Bool) (w : World) : World :=
  if probe then
    { w with breakers := w.breakers.modify name fun c => { c with state := c.state.probeLost } }
  else w

/-- The status of the breaker of a name. -/
def status? (name : String) (w : World) : Option Breaker.Status :=
  (w.breakers.get? name).map fun c => c.state.status name

/-- The status of every breaker, by name in rising order. -/
def statuses (w : World) : List Breaker.Status :=
  (w.breakers.map fun (name, c) => c.state.status name).mergeSort fun a b => a.name ≤ b.name

/-- Closes a breaker by hand, and tells whether there is one of that name. -/
def resetBreaker (name : String) (w : World) : Bool × World :=
  match w.breakers.get? name with
  | some c =>
    let (event?, state) := c.state.reset name
    (true, report event? { w with breakers := w.breakers.set name { c with state := state } })
  | none => (false, w)

/-! ### Limiters -/

/-- A call asks a limiter for a slot; in line it has the ticket of the answer. -/
def askSlot (id : ComponentId) (caller : TaskId) (w : World) :
    Except Rejection (Option Ticket) × World :=
  match w.limiters.get? id with
  | some c =>
    let (admission, state) := c.state.ask c.config ⟨w.serial, caller, true⟩
    let w := { w with limiters := w.limiters.set id { c with state := state } }
    match admission with
    | .admitted => (.ok none, w)
    | .queued => (.ok (some w.serial), { w with serial := w.serial + 1 })
    | .rejected active queued =>
      (.error (.queueOverflow c.name active queued c.config.maxQueue),
        report (some (.queueOverflow c.name active queued c.config.maxQueue)) w)
  | none => (.ok none, w)

/-- A slot is given back or goes to the next in line. -/
def releaseSlot (id : ComponentId) (w : World) : World :=
  match w.limiters.get? id with
  | some c =>
    let (next?, state) := c.state.release
    wakeAll next?.toList { w with limiters := w.limiters.set id { c with state := state } }
  | none => w

/-- A waiter runs again and takes up its slot, if it was granted one. -/
def pickUpSlot? (id : ComponentId) (ticket : Ticket) (w : World) : Option World :=
  match w.limiters.get? id with
  | some c =>
    (c.state.pickUp? ticket).map fun state =>
      { w with limiters := w.limiters.set id { c with state := state } }
  | none => none

/-- A waiter leaves the line of a limiter. -/
def leaveSlot (id : ComponentId) (ticket : Ticket) (w : World) : World :=
  match w.limiters.get? id with
  | some c =>
    let (next?, state) := c.state.giveUp ticket
    wakeAll next?.toList { w with limiters := w.limiters.set id { c with state := state } }
  | none => w

/-! ### Buckets -/

/-- A call asks a bucket for a token; in line it has the ticket of the answer. -/
def askToken (id : ComponentId) (caller : TaskId) (w : World) :
    Except Rejection (Option Ticket) × World :=
  match w.buckets.get? id with
  | some c =>
    let (admission, served, state) := c.state.acquire c.config w.now ⟨w.serial, caller, true⟩
    let w := wakeAll served { w with buckets := w.buckets.set id { c with state := state } }
    match admission with
    | .admitted => (.ok none, w)
    | .queued => (.ok (some w.serial), { w with serial := w.serial + 1 })
    | .closed => (.error (.closed c.name), w)
  | none => (.ok none, w)

/-- What a waiter in the line of a bucket finds when it runs again. -/
inductive TokenAnswer where
  | granted (w : World)
  | refused (rejection : Rejection)
  | waiting

/-- A waiter runs again and takes up its token, or learns that there will be none. -/
def pickUpToken (id : ComponentId) (ticket : Ticket) (w : World) : TokenAnswer :=
  match w.buckets.get? id with
  | some c =>
    match c.state.pickUp? ticket with
    | some state => .granted { w with buckets := w.buckets.set id { c with state := state } }
    | none => if c.state.closed then .refused (.closed c.name) else .waiting
  | none => .waiting

/-- A waiter leaves the line of a bucket. -/
def leaveToken (id : ComponentId) (ticket : Ticket) (w : World) : World :=
  { w with buckets := w.buckets.modify id fun c => { c with state := c.state.giveUp ticket } }

/-- Refills a bucket if that is due, and tells how many waiters were served. -/
def refillBucket (id : ComponentId) (w : World) : Nat × World :=
  match w.buckets.get? id with
  | some c =>
    let (served, state) := c.state.refill c.config w.now
    (served.length,
      wakeAll served { w with buckets := w.buckets.set id { c with state := state } })
  | none => (0, w)

/-- Closes a bucket. -/
def shutDownBucket (id : ComponentId) (w : World) : World :=
  match w.buckets.get? id with
  | some c =>
    let (waiting, state) := c.state.shutDown
    wakeAll waiting { w with buckets := w.buckets.set id { c with state := state } }
  | none => w

/-- Closes every bucket of the registry. -/
def shutDown (w : World) : World :=
  w.bucketNames.values.foldl (fun w id => w.shutDownBucket id) w

/-! ### Caches -/

/-- Reads from a cache. -/
def readCache (id : ComponentId) (key : String) (w : World) : Option Json × World :=
  match w.caches.get? id with
  | some c =>
    let (found, c) := c.get w.now key
    (found, { w with caches := w.caches.set id c })
  | none => (none, w)

/-- Writes into a cache. -/
def writeCache (id : ComponentId) (key : String) (value : Json) (ttl : Nat) (w : World) : World :=
  match w.caches.get? id with
  | some c =>
    let (event?, c) := c.set w.now key value ttl
    report event? { w with caches := w.caches.set id c }
  | none => w

/-- A sweep by background work. -/
def sweepCache (id : ComponentId) (w : World) : World :=
  match w.caches.get? id with
  | some c =>
    let (event?, c) := c.sweepTick w.now
    report event? { w with caches := w.caches.set id c }
  | none => w

end World

end Resilience
