import Resilience.Proofs.Breaker.Scene

/-!
# Requests to the registry

A component of the registry stands behind a `Key`: a name, and the kind of component that is meant.
A `Request` mentions a component, which creates it if nobody has mentioned it before, or uses it: a
call asks a breaker to go ahead, settles or goes away, takes a slot or a token and gives it back,
somebody looks at a status or closes a breaker by hand. `Request.serve` carries it out on the world.

Every request is a turn of the component behind its own key (`Request.agrees`). The answer, the
event that is reported and the component afterwards depend on that component alone, and nothing
behind another key is touched, whether it has the same name or not.
-/

namespace Resilience

namespace Registry

inductive Kind where
  | breaker
  | limiter
  | bucket
deriving DecidableEq, Repr

/-- What a component of the registry is found by. Components of two kinds may have one name. -/
structure Key where
  kind : Kind
  name : String
deriving DecidableEq, Repr

/-- What is behind a key: the component, if somebody has mentioned it. Limiters and buckets are
found by their numbers. -/
inductive Seen where
  | breaker (c? : Option (Component Breaker.Config Breaker))
  | limiter (id? : Option ComponentId) (c? : Option (Component Limiter.Config Limiter))
  | bucket (id? : Option ComponentId) (c? : Option (Component Bucket.Config Bucket))

/-- What is done with a breaker. -/
inductive BreakerUse where
  /-- A call asks to go ahead. -/
  | enter
  /-- An admitted call settles. -/
  | settle (probe : Bool) (outcome : Outcome)
  /-- An admitted call goes away before it settles. -/
  | forgo (probe : Bool)
  | status
  /-- Somebody closes the breaker by hand. -/
  | reset

/-- What is done with a limiter. -/
inductive LimiterUse where
  | ask (caller : TaskId)
  | pickUp (ticket : Ticket)
  | release
  | leave (ticket : Ticket)
  | look

/-- What is done with a bucket. -/
inductive BucketUse where
  | ask (caller : TaskId)
  | pickUp (ticket : Ticket)
  | leave (ticket : Ticket)
  | refill
  | shutDown
  | look

/-- What is asked of the registry: a component by its name, with a configuration in case it is not
there yet, or something of a component. A configuration that is left out is the one in the
settings. -/
inductive Request where
  | openBreaker (name : String) (config? : Option Breaker.Config)
  | openLimiter (name : String) (config? : Option Limiter.Config)
  | openBucket (name : String) (config? : Option Bucket.Config)
  | breaker (name : String) (use : BreakerUse)
  | limiter (name : String) (use : LimiterUse)
  | bucket (name : String) (use : BucketUse)

inductive Answer where
  | nothing
  /-- Nobody has mentioned the name. -/
  | unknown
  | truth (b : Bool)
  | count (n : Nat)
  /-- The component that was mentioned or looked at. -/
  | shown (seen : Seen)
  | admission (admission : Breaker.Admission)
  | status (status? : Option Breaker.Status)
  | place (answer : Except Rejection (Option Ticket))

/-- The components of one kind, and the names that the registry has some of them under. -/
structure Shelf (γ σ : Type) where
  names : Table String ComponentId
  components : Table ComponentId (Component γ σ)

/-- The component that the registry has under a name. -/
def Shelf.behind? {γ σ : Type} (s : Shelf γ σ) (name : String) : Option (Component γ σ) :=
  (s.names.get? name).bind s.components.get?

end Registry

open Registry

namespace World

def limiterShelf (w : World) : Shelf Limiter.Config Limiter := ⟨w.limiterNames, w.limiters⟩

def bucketShelf (w : World) : Shelf Bucket.Config Bucket := ⟨w.bucketNames, w.buckets⟩

/-- What is behind a key. -/
def seen (w : World) : Key → Seen
  | ⟨.breaker, name⟩ => .breaker (w.breakers.get? name)
  | ⟨.limiter, name⟩ => .limiter (w.limiterNames.get? name) (w.limiterShelf.behind? name)
  | ⟨.bucket, name⟩ => .bucket (w.bucketNames.get? name) (w.bucketShelf.behind? name)

end World

/-- What an event is about, if that is a component of the registry. -/
def Event.key? : Event → Option Key
  | queueOverflow name .. => some ⟨.limiter, name⟩
  | event => event.breaker?.map fun name => ⟨.breaker, name⟩

theorem Event.key?_eq_breaker {event : Event} {name : String} :
    event.key? = some ⟨.breaker, name⟩ ↔ event.breaker? = some name := by
  cases event <;> simp [key?, breaker?]

/-- The events about a component. -/
def World.toldOf (w : World) (key : Key) : List Event :=
  w.events.filter fun event => event.key? = some key

namespace Registry

/-! ### Serving a request -/

def BreakerUse.serve (name : String) : BreakerUse → World → Answer × World
  | enter, w =>
    let (admission, w) := w.enter name
    (.admission admission, w)
  | settle probe outcome, w => (.nothing, w.record name probe outcome)
  | forgo probe, w => (.nothing, w.forgo name probe)
  | status, w => (.status (w.status? name), w)
  | reset, w =>
    let (known, w) := w.resetBreaker name
    (.truth known, w)

def LimiterUse.serve (name : String) (id : ComponentId) : LimiterUse → World → Answer × World
  | ask caller, w =>
    let (answer, w) := w.askSlot id caller
    (.place answer, w)
  | pickUp ticket, w =>
    match w.pickUpSlot? id ticket with
    | some w => (.truth true, w)
    | none => (.truth false, w)
  | release, w => (.nothing, w.releaseSlot id)
  | leave ticket, w => (.nothing, w.leaveSlot id ticket)
  | look, w => (.shown (w.seen ⟨.limiter, name⟩), w)

def BucketUse.serve (name : String) (id : ComponentId) : BucketUse → World → Answer × World
  | ask caller, w =>
    let (answer, w) := w.askToken id caller
    (.place answer, w)
  | pickUp ticket, w =>
    match w.pickUpToken id ticket with
    | .granted w => (.truth true, w)
    | .refused rejection => (.place (.error rejection), w)
    | .waiting => (.truth false, w)
  | leave ticket, w => (.nothing, w.leaveToken id ticket)
  | refill, w =>
    let (served, w) := w.refillBucket id
    (.count served, w)
  | shutDown, w => (.nothing, w.shutDownBucket id)
  | look, w => (.shown (w.seen ⟨.bucket, name⟩), w)

namespace Request

/-- The key that a request is about. -/
def about : Request → Key
  | openBreaker name _ | breaker name _ => ⟨.breaker, name⟩
  | openLimiter name _ | limiter name _ => ⟨.limiter, name⟩
  | openBucket name _ | bucket name _ => ⟨.bucket, name⟩

/-- Carries out a request, and answers it. -/
def serve : Request → World → Answer × World
  | openBreaker name config?, w =>
    let w := w.openBreaker name (config?.getD w.settings.breaker)
    (.shown (w.seen ⟨.breaker, name⟩), w)
  | openLimiter name config?, w =>
    let w := (w.openLimiter name (config?.getD w.settings.limiter)).2
    (.shown (w.seen ⟨.limiter, name⟩), w)
  | openBucket name config?, w =>
    let w := (w.openBucket name (config?.getD w.settings.bucket)).2.2
    (.shown (w.seen ⟨.bucket, name⟩), w)
  | breaker name use, w => use.serve name w
  | limiter name use, w =>
    match w.limiterNames.get? name with
    | some id => use.serve name id w
    | none => (.unknown, w)
  | bucket name use, w =>
    match w.bucketNames.get? name with
    | some id => use.serve name id w
    | none => (.unknown, w)

end Request

/-! ### What a use does to its component -/

/-- What a breaker reports, and the state that it comes to. -/
def BreakerUse.turn (name : String) (c : Component Breaker.Config Breaker) (now : Instant) :
    BreakerUse → Option Event × Breaker
  | enter => (c.state.enter name c.config now).2
  | settle probe (.ok _) => c.state.recordSuccess name probe
  | settle probe (.error _) => c.state.recordFailure name c.config now probe
  | forgo probe => (none, if probe then c.state.probeLost else c.state)
  | status => (none, c.state)
  | reset => c.state.reset name

theorem BreakerUse.turn_change (use : BreakerUse) (name : String)
    (c : Component Breaker.Config Breaker) (now : Instant) :
    Breaker.Change name c.state (use.turn name c now).2 (use.turn name c now).1 := by
  cases use with
  | enter => exact Breaker.enter_change ..
  | settle probe outcome =>
    cases outcome with
    | ok value => exact Breaker.recordSuccess_change ..
    | error failure => exact Breaker.recordFailure_change ..
  | forgo probe => cases probe <;> exact .stays rfl
  | status => exact .stays rfl
  | reset => exact Breaker.reset_change ..

/-- What a breaker answers depends on the breaker and the time. -/
theorem BreakerUse.serve_of_some (use : BreakerUse) (name : String)
    (c : Component Breaker.Config Breaker) (now : Instant) : ∃ answer, ∀ w : World, w.now = now →
      w.breakers.get? name = some c → use.serve name w =
        (answer, World.report (use.turn name c now).1 { w with
          breakers := w.breakers.set name { c with state := (use.turn name c now).2 } }) := by
  cases use with
  | enter =>
    refine ⟨.admission (c.state.enter name c.config now).1, ?_⟩
    rintro w rfl hc
    simp only [serve, World.enter, hc, turn]
  | settle probe outcome =>
    refine ⟨.nothing, ?_⟩
    rintro w rfl hc
    cases outcome <;> simp only [serve, World.record, hc, turn]
  | forgo probe =>
    refine ⟨.nothing, ?_⟩
    rintro w rfl hc
    cases probe with
    | true =>
      simp only [serve, World.forgo, if_true, World.report, Table.modify_of_get? hc, turn]
    | false =>
      simp only [serve, World.forgo, Bool.false_eq_true, if_false, World.report,
        Table.set_of_get? hc, turn]
  | status =>
    refine ⟨.status (some (c.state.status name)), ?_⟩
    rintro w rfl hc
    simp only [serve, World.status?, hc, Option.map_some, World.report, Table.set_of_get? hc, turn]
  | reset =>
    refine ⟨.truth true, ?_⟩
    rintro w rfl hc
    simp only [serve, World.resetBreaker, hc, turn]

/-- Where there is no breaker, nothing happens. -/
theorem BreakerUse.serve_of_none (use : BreakerUse) (name : String) :
    ∃ answer, ∀ w : World, w.breakers.get? name = none → use.serve name w = (answer, w) := by
  cases use with
  | enter => exact ⟨.admission (.allowed false), fun w h => by simp only [serve, World.enter, h]⟩
  | settle probe outcome => exact ⟨.nothing, fun w h => by simp only [serve, World.record, h]⟩
  | forgo probe =>
    refine ⟨.nothing, fun w h => ?_⟩
    simp only [serve, World.forgo, Table.modify_of_get?_none h]
    split <;> rfl
  | status => exact ⟨.status none, fun w h => by simp only [serve, World.status?, h]; rfl⟩
  | reset => exact ⟨.truth false, fun w h => by simp only [serve, World.resetBreaker, h]⟩

/-- What a limiter answers and reports, and the state that it is in afterwards, depend on the
limiter and the number that is given out next. -/
theorem LimiterUse.serve_of_some (use : LimiterUse) (name : String) (id : ComponentId)
    (c : Component Limiter.Config Limiter) (number : Nat) :
    ∃ answer event? l, (∀ event ∈ event?, Event.key? event = some ⟨.limiter, c.name⟩) ∧
      ∀ w : World, w.serial = number → w.limiterNames.get? name = some id →
        w.limiters.get? id = some c → ∃ ready serial, number ≤ serial ∧ serial ≤ number + 1 ∧
          use.serve name id w = (answer, { World.report event?
            { w with limiters := w.limiters.set id { c with state := l } } with
              ready := ready, serial := serial }) := by
  -- The answer is computed from the limiter and the next number. Waking changes the run queue only,
  -- so that is left open here.
  cases use with
  | ask caller =>
    rcases hask : c.state.ask c.config ⟨number, caller, true⟩ with ⟨_ | _ | ⟨active, queued⟩, l⟩
    · refine ⟨.place (.ok none), none, l, by simp, ?_⟩
      rintro w rfl - hc
      refine ⟨w.ready, w.serial, le_refl _, Nat.le_succ _, ?_⟩
      simp only [serve, World.askSlot, hc, hask]
      rfl
    · refine ⟨.place (.ok (some number)), none, l, by simp, ?_⟩
      rintro w rfl - hc
      refine ⟨w.ready, w.serial + 1, Nat.le_succ _, le_refl _, ?_⟩
      simp only [serve, World.askSlot, hc, hask]
      rfl
    · refine ⟨.place (.error (.queueOverflow c.name active queued c.config.maxQueue)),
        some (.queueOverflow c.name active queued c.config.maxQueue), l, by rintro _ ⟨⟩; rfl, ?_⟩
      rintro w rfl - hc
      refine ⟨w.ready, w.serial, le_refl _, Nat.le_succ _, ?_⟩
      simp only [serve, World.askSlot, hc, hask, World.report, World.note]
      split <;> rfl
  | pickUp ticket =>
    cases hpick : c.state.pickUp? ticket with
    | none =>
      refine ⟨.truth false, none, c.state, by simp, ?_⟩
      rintro w rfl - hc
      refine ⟨w.ready, w.serial, le_refl _, Nat.le_succ _, ?_⟩
      simp only [serve, World.pickUpSlot?, hc, hpick, Option.map_none, Table.set_of_get? hc]
      rfl
    | some l =>
      refine ⟨.truth true, none, l, by simp, ?_⟩
      rintro w rfl - hc
      refine ⟨w.ready, w.serial, le_refl _, Nat.le_succ _, ?_⟩
      simp only [serve, World.pickUpSlot?, hc, hpick, Option.map_some]
      rfl
  | release =>
    refine ⟨.nothing, none, c.state.release.2, by simp, ?_⟩
    rintro w rfl - hc
    obtain ⟨ready, hwoken⟩ := World.wakeAll_eq c.state.release.1.toList
      { w with limiters := w.limiters.set id { c with state := c.state.release.2 } }
    refine ⟨ready, w.serial, le_refl _, Nat.le_succ _, ?_⟩
    simp only [serve, World.releaseSlot, hc, hwoken]
    rfl
  | leave ticket =>
    refine ⟨.nothing, none, (c.state.giveUp ticket).2, by simp, ?_⟩
    rintro w rfl - hc
    obtain ⟨ready, hwoken⟩ := World.wakeAll_eq (c.state.giveUp ticket).1.toList
      { w with limiters := w.limiters.set id { c with state := (c.state.giveUp ticket).2 } }
    refine ⟨ready, w.serial, le_refl _, Nat.le_succ _, ?_⟩
    simp only [serve, World.leaveSlot, hc, hwoken]
    rfl
  | look =>
    refine ⟨.shown (.limiter (some id) (some c)), none, c.state, by simp, ?_⟩
    rintro w rfl hname hc
    refine ⟨w.ready, w.serial, le_refl _, Nat.le_succ _, ?_⟩
    simp only [serve, World.seen, Shelf.behind?, World.limiterShelf, hname, Option.bind_some, hc,
      Table.set_of_get? hc]
    rfl

/-- Where there is no limiter, nothing happens. -/
theorem LimiterUse.serve_of_none (use : LimiterUse) (name : String) (id : ComponentId) :
    ∃ answer, ∀ w : World, w.limiterNames.get? name = some id → w.limiters.get? id = none →
      use.serve name id w = (answer, w) := by
  cases use with
  | ask caller =>
    exact ⟨.place (.ok none), fun w _ h => by simp only [serve, World.askSlot, h]⟩
  | pickUp ticket =>
    exact ⟨.truth false, fun w _ h => by simp only [serve, World.pickUpSlot?, h]⟩
  | release => exact ⟨.nothing, fun w _ h => by simp only [serve, World.releaseSlot, h]⟩
  | leave ticket => exact ⟨.nothing, fun w _ h => by simp only [serve, World.leaveSlot, h]⟩
  | look =>
    refine ⟨.shown (.limiter (some id) none), fun w hname h => ?_⟩
    simp only [serve, World.seen, Shelf.behind?, World.limiterShelf, hname, Option.bind_some, h]

/-- What a bucket answers and the state that it is in afterwards depend on the bucket, the time and
the number that is given out next. -/
theorem BucketUse.serve_of_some (use : BucketUse) (name : String) (id : ComponentId)
    (c : Component Bucket.Config Bucket) (now : Instant) (number : Nat) :
    ∃ answer b, ∀ w : World, w.now = now → w.serial = number →
      w.bucketNames.get? name = some id → w.buckets.get? id = some c →
        ∃ ready serial, number ≤ serial ∧ serial ≤ number + 1 ∧
          use.serve name id w = (answer,
            { w with
              buckets := w.buckets.set id { c with state := b }, ready := ready,
              serial := serial }) := by
  -- As for limiters, with the time besides, since a bucket is refilled by the clock.
  cases use with
  | ask caller =>
    rcases hask : c.state.acquire c.config now ⟨number, caller, true⟩ with
      ⟨_ | _ | _, served, b⟩
    · refine ⟨.place (.ok none), b, ?_⟩
      rintro w rfl rfl - hc
      obtain ⟨ready, hwoken⟩ := World.wakeAll_eq served
        { w with buckets := w.buckets.set id { c with state := b } }
      refine ⟨ready, w.serial, le_refl _, Nat.le_succ _, ?_⟩
      simp only [serve, World.askToken, hc, hask, hwoken]
    · refine ⟨.place (.ok (some number)), b, ?_⟩
      rintro w rfl rfl - hc
      obtain ⟨ready, hwoken⟩ := World.wakeAll_eq served
        { w with buckets := w.buckets.set id { c with state := b } }
      refine ⟨ready, w.serial + 1, Nat.le_succ _, le_refl _, ?_⟩
      simp only [serve, World.askToken, hc, hask, hwoken]
    · refine ⟨.place (.error (.closed c.name)), b, ?_⟩
      rintro w rfl rfl - hc
      obtain ⟨ready, hwoken⟩ := World.wakeAll_eq served
        { w with buckets := w.buckets.set id { c with state := b } }
      refine ⟨ready, w.serial, le_refl _, Nat.le_succ _, ?_⟩
      simp only [serve, World.askToken, hc, hask, hwoken]
  | pickUp ticket =>
    cases hpick : c.state.pickUp? ticket with
    | none =>
      refine ⟨if c.state.closed then .place (.error (.closed c.name)) else .truth false, c.state,
        ?_⟩
      rintro w rfl rfl - hc
      refine ⟨w.ready, w.serial, le_refl _, Nat.le_succ _, ?_⟩
      simp only [serve, World.pickUpToken, hc, hpick, Table.set_of_get? hc]
      cases c.state.closed <;> rfl
    | some b =>
      refine ⟨.truth true, b, ?_⟩
      rintro w rfl rfl - hc
      refine ⟨w.ready, w.serial, le_refl _, Nat.le_succ _, ?_⟩
      simp only [serve, World.pickUpToken, hc, hpick]
  | leave ticket =>
    refine ⟨.nothing, c.state.giveUp ticket, ?_⟩
    rintro w rfl rfl - hc
    refine ⟨w.ready, w.serial, le_refl _, Nat.le_succ _, ?_⟩
    simp only [serve, World.leaveToken, Table.modify_of_get? hc]
  | refill =>
    refine ⟨.count (c.state.refill c.config now).1.length, (c.state.refill c.config now).2, ?_⟩
    rintro w rfl rfl - hc
    obtain ⟨ready, hwoken⟩ := World.wakeAll_eq (c.state.refill c.config w.now).1
      { w with buckets := w.buckets.set id { c with state := (c.state.refill c.config w.now).2 } }
    refine ⟨ready, w.serial, le_refl _, Nat.le_succ _, ?_⟩
    simp only [serve, World.refillBucket, hc, hwoken]
  | shutDown =>
    refine ⟨.nothing, c.state.shutDown.2, ?_⟩
    rintro w rfl rfl - hc
    obtain ⟨ready, hwoken⟩ := World.wakeAll_eq c.state.shutDown.1
      { w with buckets := w.buckets.set id { c with state := c.state.shutDown.2 } }
    refine ⟨ready, w.serial, le_refl _, Nat.le_succ _, ?_⟩
    simp only [serve, World.shutDownBucket, hc, hwoken]
  | look =>
    refine ⟨.shown (.bucket (some id) (some c)), c.state, ?_⟩
    rintro w rfl rfl hname hc
    refine ⟨w.ready, w.serial, le_refl _, Nat.le_succ _, ?_⟩
    simp only [serve, World.seen, Shelf.behind?, World.bucketShelf, hname, Option.bind_some, hc,
      Table.set_of_get? hc]

/-- Where there is no bucket, nothing happens. -/
theorem BucketUse.serve_of_none (use : BucketUse) (name : String) (id : ComponentId) :
    ∃ answer, ∀ w : World, w.bucketNames.get? name = some id → w.buckets.get? id = none →
      use.serve name id w = (answer, w) := by
  cases use with
  | ask caller =>
    exact ⟨.place (.ok none), fun w _ h => by simp only [serve, World.askToken, h]⟩
  | pickUp ticket =>
    exact ⟨.truth false, fun w _ h => by simp only [serve, World.pickUpToken, h]⟩
  | leave ticket =>
    exact ⟨.nothing, fun w _ h => by
      simp only [serve, World.leaveToken, Table.modify_of_get?_none h]⟩
  | refill => exact ⟨.count 0, fun w _ h => by simp only [serve, World.refillBucket, h]⟩
  | shutDown => exact ⟨.nothing, fun w _ h => by simp only [serve, World.shutDownBucket, h]⟩
  | look =>
    refine ⟨.shown (.bucket (some id) none), fun w hname h => ?_⟩
    simp only [serve, World.seen, Shelf.behind?, World.bucketShelf, hname, Option.bind_some, h]

end Registry

/-! ### Names on a shelf -/

namespace Registry.Shelf

variable {γ σ : Type} {s : Shelf γ σ} {serial id : Nat} {name other : String} {c d : Component γ σ}

/-- What has a name is there, under its own name, and has a number that was given out. -/
def Listed (serial : Nat) (s : Shelf γ σ) : Prop :=
  ∀ name id, s.names.get? name = some id → id < serial ∧
    ∃ c, s.components.get? id = some c ∧ c.name = name

/-- Another component in the place of one. -/
def put (id : ComponentId) (c : Component γ σ) (s : Shelf γ σ) : Shelf γ σ :=
  { s with components := s.components.set id c }

/-- A new component with a name. -/
def add (name : String) (id : ComponentId) (c : Component γ σ) (s : Shelf γ σ) : Shelf γ σ :=
  ⟨s.names.set name id, s.components.set id c⟩

theorem Listed.mono {serial' : Nat} (h : s.Listed serial) (hle : serial ≤ serial') :
    s.Listed serial' := fun name id hname => (h name id hname).imp_left hle.trans_lt'

theorem behind?_eq_some (hname : s.names.get? name = some id) (hc : s.components.get? id = some c) :
    s.behind? name = some c := by
  rw [behind?, hname, Option.bind_some, hc]

theorem behind?_put (hname : s.names.get? name = some id) :
    (s.put id c).behind? name = some c := by
  simp only [behind?, put, hname, Option.bind_some, Table.get?_set, if_true]

/-- Two names of one component would both be its own. -/
theorem behind?_put_of_ne (h : s.Listed serial) (hname : s.names.get? name = some id)
    (hne : other ≠ name) : (s.put id c).behind? other = s.behind? other := by
  cases hother : s.names.get? other with
  | none => simp only [behind?, put, hother, Option.bind_none]
  | some id' =>
    have hid : id ≠ id' := by
      rintro rfl
      obtain ⟨-, c₁, hc₁, rfl⟩ := h _ _ hname
      obtain ⟨-, c₂, hc₂, rfl⟩ := h _ _ hother
      exact hne (by rw [Option.some.inj (hc₁.symm.trans hc₂)])
    simp only [behind?, put, hother, Option.bind_some, Table.get?_set, if_neg hid]

theorem Listed.put (h : s.Listed serial) (hc : s.components.get? id = some c)
    (hsame : d.name = c.name) : (s.put id d).Listed serial := by
  intro other id' hother
  obtain ⟨hlt, c', hc', hname⟩ := h other id' hother
  refine ⟨hlt, ?_⟩
  simp only [Shelf.put, Table.get?_set]
  split
  · next heq =>
    rw [← heq, hc] at hc'
    cases hc'
    exact ⟨d, rfl, hsame.trans hname⟩
  · exact ⟨c', hc', hname⟩

theorem behind?_add : (s.add name id c).behind? name = some c := by
  simp only [behind?, add, Table.get?_set, if_true, Option.bind_some]

theorem behind?_add_of_ne (h : s.Listed serial) (hne : other ≠ name) :
    (s.add name serial c).behind? other = s.behind? other := by
  cases hother : s.names.get? other with
  | none => simp only [behind?, add, Table.get?_set, if_neg hne.symm, hother, Option.bind_none]
  | some id =>
    have hid : serial ≠ id := (h _ _ hother).1.ne'
    simp only [behind?, add, Table.get?_set, if_neg hne.symm, hother, Option.bind_some,
      if_neg hid]

theorem Listed.add (h : s.Listed serial) (hname : c.name = name) :
    (s.add name serial c).Listed (serial + 1) := by
  intro other id hother
  simp only [Shelf.add, Table.get?_set] at hother ⊢
  split at hother
  · next heq =>
    cases hother
    exact ⟨Nat.lt_succ_self _, c, if_pos rfl, hname.trans heq⟩
  · obtain ⟨hlt, d, hd, hdname⟩ := h _ _ hother
    exact ⟨Nat.lt_succ_of_lt hlt, d, by rw [if_neg hlt.ne']; exact hd, hdname⟩

end Registry.Shelf

/-! ### One component takes a turn -/

namespace World

/-- The worlds have the same behind a key and have told the same about it. -/
structure Alike (key : Key) (w v : World) : Prop where
  settings : v.settings = w.settings
  recording : v.recording = w.recording
  seen : v.seen key = w.seen key
  told : v.toldOf key = w.toldOf key

/-- Every limiter and every bucket that the registry has a name for is there. -/
structure Listed (w : World) : Prop where
  limiters : w.limiterShelf.Listed w.serial
  buckets : w.bucketShelf.Listed w.serial

/-- Nothing is behind a key that is behind another key as well. Breakers are found by their names,
so that goes without saying. -/
def Distinct (w : World) (key : Key) : Prop := key.kind = .breaker ∨ w.Listed

theorem Alike.refl (key : Key) (w : World) : w.Alike key w := ⟨rfl, rfl, rfl, rfl⟩

theorem Alike.symm {key : Key} {w v : World} (h : w.Alike key v) : v.Alike key w :=
  ⟨h.settings.symm, h.recording.symm, h.seen.symm, h.told.symm⟩

theorem Alike.trans {key : Key} {w v u : World} (h : w.Alike key v) (h' : v.Alike key u) :
    w.Alike key u :=
  ⟨h'.settings.trans h.settings, h'.recording.trans h.recording, h'.seen.trans h.seen,
    h'.told.trans h.told⟩

variable {event? : Option Event} {w : World} {key : Key}

theorem toldOf_report : (w.report event?).toldOf key = w.toldOf key ++
    (if w.recording then event?.toList else []).filter fun event => event.key? = some key := by
  rw [toldOf, events_report, List.filter_append]
  rfl

/-- An event about something else tells nothing of a component. -/
theorem toldOf_report_of_ne (h : ∀ event ∈ event?, Event.key? event ≠ some key) :
    (w.report event?).toldOf key = w.toldOf key := by
  have hnone : (if w.recording then event?.toList else []).filter
      (fun event => decide (event.key? = some key)) = [] := by
    refine List.filter_eq_nil_iff.mpr fun event hmem => ?_
    split at hmem
    · simpa using h event (Option.mem_toList.mp hmem)
    · cases hmem
  rw [toldOf_report, hnone, List.append_nil]

theorem seen_congr {w' : World} (hbreakers : w'.breakers = w.breakers)
    (hlimiters : w'.limiters = w.limiters) (hlimiterNames : w'.limiterNames = w.limiterNames)
    (hbuckets : w'.buckets = w.buckets) (hbucketNames : w'.bucketNames = w.bucketNames) :
    w'.seen key = w.seen key := by
  obtain ⟨kind, name⟩ := key
  cases kind <;>
    simp only [seen, limiterShelf, bucketShelf, hbreakers, hlimiters, hlimiterNames, hbuckets,
      hbucketNames]

theorem toldOf_breaker (name : String) : w.toldOf ⟨.breaker, name⟩ = w.told name :=
  List.filter_congr fun _ _ => decide_eq_decide.mpr Event.key?_eq_breaker

theorem seen_report : (w.report event?).seen key = w.seen key := by
  obtain ⟨events, log, hreport⟩ := report_eq event? w
  rw [hreport]
  exact seen_congr rfl rfl rfl rfl rfl

end World

end Resilience
