import Resilience.Proofs.Bucket.Callers
import Resilience.Proofs.Limiter.Overflow
import Resilience.Proofs.Session.Calls

/-!
# What a turn stirs up

Within one instant a task has a turn because it is new, was cancelled, or was handed something in a
line. So the **unrest** of a world is the number of tasks that are ready, with the number of callers
in lines, each of whom may be served once. A step that serves somebody moves one from the lines to
the run queue, and only a caller that joins a line adds to the unrest (`World.Stirs`).

How often a call may yet join a line is bounded by its shape (`Call.later`), so a turn of a call
pays for what it stirs up (`Rests`). A turn also takes no time, and whatever sleeps after it sleeps
on.
-/

namespace Resilience

namespace World

/-- How many callers wait in the lines of limiters and buckets. -/
def waiters (w : World) : Nat :=
  w.limiters.total (fun c => (Queue.waiting c.state.queue).length) +
    w.buckets.total fun c => (Queue.waiting c.state.queue).length

/-- How many turns may come of a world by itself. -/
def unrest (w : World) : Nat := w.ready.length + w.waiters

/-- No time passes, and neither the components of the world change nor the names in the registry. -/
structure Stable (w w' : World) : Prop where
  now : w'.now = w.now
  limiterNames : w'.limiterNames = w.limiterNames
  bucketNames : w'.bucketNames = w.bucketNames
  buckets (id : ComponentId) : w'.buckets.has id = w.buckets.has id
  caches (id : ComponentId) : w'.caches.has id = w.caches.has id

namespace Stable

variable {w w' w'' : World}

theorem refl (w : World) : w.Stable w := ⟨rfl, rfl, rfl, fun _ => rfl, fun _ => rfl⟩

theorem trans (h : w.Stable w') (h' : w'.Stable w'') : w.Stable w'' where
  now := h'.now.trans h.now
  limiterNames := h'.limiterNames.trans h.limiterNames
  bucketNames := h'.bucketNames.trans h.bucketNames
  buckets id := (h'.buckets id).trans (h.buckets id)
  caches id := (h'.caches id).trans (h.caches id)

theorem of_eq (hnow : w'.now = w.now) (hln : w'.limiterNames = w.limiterNames)
    (hbn : w'.bucketNames = w.bucketNames) (hb : w'.buckets = w.buckets)
    (hc : w'.caches = w.caches) : w.Stable w' :=
  ⟨hnow, hln, hbn, fun _ => by rw [hb], fun _ => by rw [hc]⟩

/-- A bucket that is there moves on. -/
theorem setBucket {id : ComponentId} {c c' : Component Bucket.Config Bucket}
    (hc : w.buckets.get? id = some c) : w.Stable { w with buckets := w.buckets.set id c' } :=
  ⟨rfl, rfl, rfl, fun _ => Table.has_set_of_get? hc, fun _ => rfl⟩

/-- A cache that is there moves on. -/
theorem setCache {id : ComponentId} {c c' : Cache Json} (hc : w.caches.get? id = some c) :
    w.Stable { w with caches := w.caches.set id c' } :=
  ⟨rfl, rfl, rfl, fun _ => rfl, fun _ => Table.has_set_of_get? hc⟩

theorem report (event? : Option Event) (w : World) : w.Stable (w.report event?) := by
  obtain ⟨_, _, heq⟩ := report_eq event? w
  exact heq ▸ of_eq rfl rfl rfl rfl rfl

theorem wakeAll (served : List Waiter) (w : World) : w.Stable (w.wakeAll served) := by
  obtain ⟨_, heq⟩ := wakeAll_eq served w
  exact heq ▸ of_eq rfl rfl rfl rfl rfl

end Stable

/-- A step leaves the components and the clock alone and adds at most `n` to the unrest. -/
structure Stirs (n : Nat) (w w' : World) : Prop extends w.Stable w' where
  unrest : w'.unrest ≤ w.unrest + n

theorem unrest_of_eq {w w' : World} (hl : w'.limiters = w.limiters) (hb : w'.buckets = w.buckets)
    (hr : w'.ready = w.ready) : w'.unrest = w.unrest := by
  rw [World.unrest, World.unrest, waiters, waiters, hl, hb, hr]

namespace Stirs

variable {m n : Nat} {w w' w'' : World}

theorem refl (w : World) : Stirs 0 w w := ⟨.refl w, le_refl _⟩

theorem trans (h : Stirs m w w') (h' : Stirs n w' w'') : Stirs (m + n) w w'' where
  toStable := h.toStable.trans h'.toStable
  unrest := by
    have hfirst := h.unrest
    have hlast := h'.unrest
    omega

/-- A step after one that adds nothing. -/
theorem after (h : Stirs 0 w w') (h' : Stirs n w' w'') : Stirs n w w'' := by
  have hboth := h.trans h'
  rwa [Nat.zero_add] at hboth

/-- Neither lines nor the run queue are touched. -/
theorem of_stable (h : w.Stable w') (hl : w'.limiters = w.limiters) (hb : w'.buckets = w.buckets)
    (hr : w'.ready = w.ready) : Stirs 0 w w' := ⟨h, (unrest_of_eq hl hb hr).le⟩

theorem of_eq (hnow : w'.now = w.now) (hln : w'.limiterNames = w.limiterNames)
    (hbn : w'.bucketNames = w.bucketNames) (hl : w'.limiters = w.limiters)
    (hb : w'.buckets = w.buckets) (hc : w'.caches = w.caches) (hr : w'.ready = w.ready) :
    Stirs 0 w w' := of_stable (.of_eq hnow hln hbn hb hc) hl hb hr

theorem note (entry : Entry) (w : World) : Stirs 0 w (w.note entry) :=
  of_eq rfl rfl rfl rfl rfl rfl rfl

theorem report (event? : Option Event) (w : World) : Stirs 0 w (w.report event?) := by
  obtain ⟨_, _, heq⟩ := report_eq event? w
  exact heq ▸ of_eq rfl rfl rfl rfl rfl rfl rfl

theorem sleep (d : Duration) (w : World) : Stirs 0 w (w.sleep d).2 := by
  unfold World.sleep
  dsimp only
  split <;> exact of_eq rfl rfl rfl rfl rfl rfl rfl

theorem invoke (id : ComponentId) (arg : Json) (w : World) : Stirs 0 w (w.invoke id arg).2 := by
  obtain ⟨_, _, heq⟩ := w.invoke_eq id arg
  exact heq ▸ of_eq rfl rfl rfl rfl rfl rfl rfl

theorem enter (name : String) (w : World) : Stirs 0 w (w.enter name).2 := by
  obtain ⟨_, _, _, -, heq⟩ := w.enter_eq name
  exact heq ▸ of_eq rfl rfl rfl rfl rfl rfl rfl

theorem record (name : String) (probe : Bool) (outcome : Outcome) (w : World) :
    Stirs 0 w (w.record name probe outcome) := by
  obtain ⟨_, _, _, -, heq⟩ := w.record_eq name probe outcome
  exact heq ▸ of_eq rfl rfl rfl rfl rfl rfl rfl

theorem forgo (name : String) (probe : Bool) (w : World) : Stirs 0 w (w.forgo name probe) := by
  obtain ⟨_, -, heq⟩ := w.forgo_eq name probe
  exact heq ▸ of_eq rfl rfl rfl rfl rfl rfl rfl

theorem readCache (id : ComponentId) (key : String) (w : World) :
    Stirs 0 w (w.readCache id key).2 := by
  unfold World.readCache
  split
  · next c hc => exact of_stable (.setCache hc) rfl rfl rfl
  · exact refl w

theorem writeCache (id : ComponentId) (key : String) (value : Json) (ttl : Nat) (w : World) :
    Stirs 0 w (w.writeCache id key value ttl) := by
  unfold World.writeCache
  split
  · next c hc => exact (of_stable (.setCache hc) rfl rfl rfl).after (report ..)
  · exact refl w

theorem sweepCache (id : ComponentId) (w : World) : Stirs 0 w (w.sweepCache id) := by
  unfold World.sweepCache
  split
  · next c hc => exact (of_stable (.setCache hc) rfl rfl rfl).after (report ..)
  · exact refl w

/-! ### Lines -/

theorem length_ready_wakeAll (served : List Waiter) (w : World) :
    (w.wakeAll served).ready.length ≤ w.ready.length + served.length := by
  induction served generalizing w with
  | nil => exact le_refl _
  | cons waiter served ih =>
    have hfirst : (w.wake waiter.caller).ready.length ≤ w.ready.length + 1 := by
      unfold wake
      split
      · exact Nat.le_succ _
      · simp
    have hrest := ih (w.wake waiter.caller)
    simp only [wakeAll, List.foldl_cons, List.length_cons] at hrest ⊢
    omega

/-- A limiter moves on, and those who were served are woken. -/
theorem limiter {id : ComponentId} {c : Component Limiter.Config Limiter}
    (hc : w.limiters.get? id = some c) {l : Limiter} (served : List Waiter)
    (h : served.length + (Queue.waiting l.queue).length ≤
      (Queue.waiting c.state.queue).length + n) :
    Stirs n w (wakeAll served { w with limiters := w.limiters.set id { c with state := l } }) := by
  obtain ⟨ready, heq⟩ := wakeAll_eq served
    { w with limiters := w.limiters.set id { c with state := l } }
  have hready := length_ready_wakeAll served
    { w with limiters := w.limiters.set id { c with state := l } }
  have htotal := Table.total_set
    (fun c : Component Limiter.Config Limiter => (Queue.waiting c.state.queue).length) id
    { c with state := l } w.limiters
  rw [heq] at hready ⊢
  refine ⟨.of_eq rfl rfl rfl rfl rfl, ?_⟩
  rw [hc] at htotal
  simp only [World.unrest, waiters, Option.elim_some] at hready htotal ⊢
  omega

/-- A bucket moves on, and those who were served are woken. -/
theorem bucket {id : ComponentId} {c : Component Bucket.Config Bucket}
    (hc : w.buckets.get? id = some c) {b : Bucket} (served : List Waiter)
    (h : served.length + (Queue.waiting b.queue).length ≤
      (Queue.waiting c.state.queue).length + n) :
    Stirs n w (wakeAll served { w with buckets := w.buckets.set id { c with state := b } }) := by
  obtain ⟨ready, heq⟩ := wakeAll_eq served
    { w with buckets := w.buckets.set id { c with state := b } }
  have hready := length_ready_wakeAll served
    { w with buckets := w.buckets.set id { c with state := b } }
  have htotal := Table.total_set
    (fun c : Component Bucket.Config Bucket => (Queue.waiting c.state.queue).length) id
    { c with state := b } w.buckets
  rw [heq] at hready ⊢
  refine ⟨(Stable.setBucket hc).trans (.of_eq rfl rfl rfl rfl rfl), ?_⟩
  rw [hc] at htotal
  simp only [World.unrest, waiters, Option.elim_some] at hready htotal ⊢
  omega

end Stirs

end World

/-! ### What limiters and buckets do to their lines -/

theorem Queue.length_waiting_giveUp (ticket : Ticket) (queue : List Waiter) :
    (waiting (giveUp ticket queue)).length ≤ (waiting queue).length := by
  rw [waiting_giveUp]
  exact List.length_filter_le ..

/-- Whoever is handed a slot was in line. -/
theorem Limiter.length_waiting_release (l : Limiter) :
    l.release.1.toList.length + (Queue.waiting l.release.2.queue).length =
      (Queue.waiting l.queue).length := by
  unfold release
  split
  · next w rest hnext =>
    rw [Queue.waiting_of_next?_some hnext]
    simp [Nat.add_comm]
  · next hnext =>
    rw [Queue.waiting_of_next?_none hnext]
    rfl

theorem Limiter.length_waiting_giveUp (ticket : Ticket) (l : Limiter) :
    (l.giveUp ticket).1.toList.length + (Queue.waiting (l.giveUp ticket).2.queue).length ≤
      (Queue.waiting l.queue).length := by
  unfold giveUp
  split
  · exact (length_waiting_release _).le
  · simpa using Queue.length_waiting_giveUp ticket l.queue

theorem Bucket.length_waiting_giveUp (ticket : Ticket) (b : Bucket) :
    (Queue.waiting (b.giveUp ticket).queue).length ≤ (Queue.waiting b.queue).length := by
  unfold giveUp
  split
  · exact le_refl _
  · exact Queue.length_waiting_giveUp ticket b.queue

/-- Whoever is served was in line. -/
theorem Bucket.length_waiting_refill (config : Config) (now : Instant) (b : Bucket) :
    (b.refill config now).1.length + (Queue.waiting (b.refill config now).2.queue).length =
      (Queue.waiting b.queue).length := by
  rw [waiting_refill config now b, List.length_append, List.length_map]

namespace World

/-- How many callers an answer takes into line. -/
def joining : Except Rejection (Option Ticket) → Nat
  | .ok (some _) => 1
  | _ => 0

namespace Stirs

variable {w w' : World}

/-- A caller of a limiter is taken into line, or adds nothing. -/
theorem askSlot (id : ComponentId) (caller : TaskId) (w : World) :
    Stirs (joining (w.askSlot id caller).1) w (w.askSlot id caller).2 := by
  cases hc : w.limiters.get? id with
  | none =>
    simp only [World.askSlot, hc]
    exact refl w
  | some c =>
    have hset {n : Nat} {l : Limiter} (h : (Queue.waiting l.queue).length ≤
        (Queue.waiting c.state.queue).length + n) :
        Stirs n w { w with limiters := w.limiters.set id { c with state := l } } :=
      limiter hc [] (by simpa using h)
    have hcases := Limiter.ask_cases c.config ⟨w.serial, caller, true⟩ c.state
    rcases hcases with ⟨-, hask⟩ | ⟨-, -, hask⟩ | ⟨-, hask⟩ <;>
      simp only [World.askSlot, hc, hask, joining]
    · exact hset (le_refl _)
    · have hline := hset (n := 1) (l := { c.state with
        queue := Queue.purge c.state.queue ++ [⟨w.serial, caller, true⟩] }) (by
          simp [Queue.waiting_cons_live])
      exact ⟨.of_eq rfl rfl rfl rfl rfl, hline.unrest⟩
    · exact (hset (by simp)).after (report ..)

theorem pickUpSlot {id : ComponentId} {ticket : Ticket} (h : w.pickUpSlot? id ticket = some w') :
    Stirs 0 w w' := by
  obtain ⟨_, _, hc, hpick, rfl⟩ := World.pickUpSlot?_eq_some h
  obtain ⟨-, rfl⟩ := Limiter.pickUp?_eq_some hpick
  exact limiter hc [] (by simp)

theorem releaseSlot (id : ComponentId) (w : World) : Stirs 0 w (w.releaseSlot id) := by
  unfold World.releaseSlot
  split
  · next c hc => exact limiter hc _ (Limiter.length_waiting_release c.state).le
  · exact refl w

theorem leaveSlot (id : ComponentId) (ticket : Ticket) (w : World) :
    Stirs 0 w (w.leaveSlot id ticket) := by
  unfold World.leaveSlot
  split
  · next c hc => exact limiter hc _ (Limiter.length_waiting_giveUp ticket c.state)
  · exact refl w

/-- A caller of a bucket is taken into line, or adds nothing. -/
theorem askToken (id : ComponentId) (caller : TaskId) (w : World) :
    Stirs (joining (w.askToken id caller).1) w (w.askToken id caller).2 := by
  cases hc : w.buckets.get? id with
  | none =>
    rw [World.askToken_of_none hc]
    exact refl w
  | some c =>
    have hrefill := Bucket.length_waiting_refill c.config w.now c.state
    have hcases := Bucket.acquire_cases c.config w.now ⟨w.serial, caller, true⟩ c.state
    rw [w.askToken_of_some hc caller]
    rcases hcases with ⟨-, hask⟩ | ⟨-, -, hask⟩ | ⟨-, -, hask⟩ <;> rw [hask]
    · exact bucket hc _ (by simp)
    · exact bucket hc _ hrefill.le
    · have hline : Stirs 1 w _ := bucket hc (c.state.refill c.config w.now).1
        (b := { (c.state.refill c.config w.now).2 with
          queue := (c.state.refill c.config w.now).2.queue ++ [⟨w.serial, caller, true⟩] }) (by
            simp only [Queue.waiting_append, Queue.waiting_cons_live, Queue.waiting_nil,
              List.length_append, List.length_singleton]
            omega)
      exact ⟨hline.toStable.trans (.of_eq rfl rfl rfl rfl rfl), hline.unrest⟩

theorem pickUpToken {id : ComponentId} {ticket : Ticket}
    (h : w.pickUpToken id ticket = .granted w') : Stirs 0 w w' := by
  obtain ⟨_, _, hc, hpick, rfl⟩ := World.pickUpToken_eq_granted h
  obtain ⟨-, rfl⟩ := Bucket.pickUp?_eq_some hpick
  exact bucket hc [] (by simp)

theorem leaveToken (id : ComponentId) (ticket : Ticket) (w : World) :
    Stirs 0 w (w.leaveToken id ticket) := by
  refine ⟨⟨rfl, rfl, rfl, fun _ => Table.has_modify .., fun _ => rfl⟩, ?_⟩
  have htotal := Table.total_modify_le
    (f := fun c : Component Bucket.Config Bucket => (Queue.waiting c.state.queue).length)
    (g := fun c => { c with state := c.state.giveUp ticket })
    (fun c => c.state.length_waiting_giveUp ticket) id w.buckets
  simp only [World.unrest, waiters, World.leaveToken]
  omega

theorem refillBucket (id : ComponentId) (w : World) : Stirs 0 w (w.refillBucket id).2 := by
  cases hc : w.buckets.get? id with
  | none =>
    rw [World.refillBucket_of_none hc]
    exact refl w
  | some c =>
    rw [World.refillBucket_of_some hc]
    exact bucket hc _ (Bucket.length_waiting_refill c.config w.now c.state).le

end Stirs

/-- A sleep that has begun is not over. -/
theorem lt_due_of_sleep {d : Duration} {w w' : World} {timer : Timer}
    (h : w.sleep d = (some timer, w')) : w.now < timer.due := by
  unfold sleep at h
  dsimp only at h
  split at h
  · cases h
  · next hdue =>
    cases h
    exact Nat.lt_of_not_le hdue

end World

/-! ### How often a call may yet join a line -/

/-- How many times at most the rest of the call joins a line, after the one it stands in now. -/
def Call.later : Call → Nat
  | working .. => 0
  | guarded _ _ inner => inner.later
  | withFallback _ _ fallback _ inner => inner.later + fallback.waits
  | awaitingSlot _ _ inner _ => inner.waits
  | holdingSlot _ inner => inner.later
  | awaitingToken _ _ inner _ => inner.waits
  | timed _ _ _ inner => inner.later
  | attempting _ left _ op _ inner => inner.later + left * op.waits
  | pausing _ left _ op _ _ => (left + 1) * op.waits
  | filling _ _ _ inner => inner.later

namespace Poll

def later : Poll → Nat
  | pending c => c.later
  | _ => 0

def timers : Poll → List Timer
  | pending c => c.timers
  | _ => []

end Poll

/-- A turn of a call that may join a line `n` times takes no time and pays for what it stirs up, and
whatever sleeps after it sleeps on. -/
structure Rests (n : Nat) (w : World) (r : Poll × World) : Prop extends w.Stable r.2 where
  unrest : r.2.unrest + r.1.later ≤ w.unrest + n
  sleeps : ∀ timer ∈ r.1.timers, w.now < timer.due

section Rests

variable {m n : Nat} {w w' : World} {r : Poll × World}

namespace Rests

theorem mono (hr : Rests m w r) (h : m ≤ n) : Rests n w r :=
  ⟨hr.toStable, hr.unrest.trans (Nat.add_le_add_left h _), hr.sleeps⟩

/-- Something is done before a call begins. -/
theorem after (h : World.Stirs m w w') (hr : Rests n w' r) : Rests (m + n) w r where
  toStable := h.toStable.trans hr.toStable
  unrest := by
    have hfirst := h.unrest
    have hlast := hr.unrest
    omega
  sleeps := h.now ▸ hr.sleeps

/-- The call is over. -/
theorem ended {poll : Poll} (h : World.Stirs 0 w w') (hpoll : ∀ c, poll ≠ .pending c) :
    Rests n w (poll, w') := by
  cases poll with
  | pending c => exact absurd rfl (hpoll c)
  | ready | panicked =>
    exact ⟨h.toStable, h.unrest.trans (Nat.le_add_right ..), fun _ hmem => by cases hmem⟩

/-- The call is blocked. -/
theorem blocked {c : Call} (h : World.Stirs m w w') (hlater : m + c.later ≤ n)
    (hsleeps : ∀ timer ∈ c.timers, w.now < timer.due) : Rests n w (.pending c, w') where
  toStable := h.toStable
  unrest := by
    have hstirs := h.unrest
    simp only [Poll.later]
    omega
  sleeps := hsleeps

/-- What a layer does after its inner call has ended. -/
theorem around {poll poll' : Poll} {w'' : World} (hr : Rests n w (poll, w'))
    (h : World.Stirs 0 w' w'') (hpoll : ∀ c, poll' ≠ .pending c) :
    Rests n w (poll', w'') := by
  have hunrest : w'.unrest + poll.later ≤ w.unrest + n := hr.unrest
  have hstirs := h.unrest
  cases poll' with
  | pending c => exact absurd rfl (hpoll c)
  | ready | panicked =>
    refine ⟨hr.toStable.trans h.toStable, ?_, fun _ hmem => by cases hmem⟩
    simp only [Poll.later]
    omega

/-- What a layer makes of its inner call while that is blocked. -/
theorem within {c c' : Call} {k : Nat} (hr : Rests n w (.pending c, w'))
    (hlater : c'.later ≤ c.later + k)
    (hsleeps : ∀ timer ∈ c'.timers, timer ∈ c.timers ∨ w.now < timer.due) :
    Rests (n + k) w (.pending c', w') where
  toStable := hr.toStable
  unrest := by
    have hunrest := hr.unrest
    simp only [Poll.later] at hunrest ⊢
    omega
  sleeps timer hmem := (hsleeps timer hmem).elim (hr.sleeps timer) id

/-- A layer goes on after its inner call has ended. -/
theorem andThen {poll : Poll} {w'' : World} {k : Nat} (hr : Rests n w (poll, w'))
    (h : World.Stirs 0 w' w'') {r' : Poll × World} (hr' : Rests k w'' r') : Rests (n + k) w r' := by
  have hunrest : w'.unrest + poll.later ≤ w.unrest + n := hr.unrest
  exact after ⟨hr.toStable.trans h.toStable, by
    have hstirs := h.unrest
    omega⟩ hr'

end Rests

namespace Call

/-- A call that is taken apart adds nothing to the unrest. -/
theorem abandon_stirs (c : Call) (w : World) : World.Stirs 0 w (c.abandon w) := by
  induction c with
  | working | pausing => exact .refl w
  | awaitingSlot limiter ticket => exact .leaveSlot limiter ticket w
  | awaitingToken bucket ticket => exact .leaveToken bucket ticket w
  | guarded breaker probe _ ih | withFallback breaker probe _ _ _ ih =>
    exact ih.after (.forgo breaker probe _)
  | holdingSlot limiter _ ih => exact ih.after (.releaseSlot limiter _)
  | timed _ _ _ _ ih | attempting _ _ _ _ _ _ ih | filling _ _ _ _ ih => exact ih

theorem afterGuarded_rests {breaker : String} {probe : Bool} (hr : Rests n w r) :
    Rests n w (afterGuarded breaker probe r) := by
  match r with
  | (.pending c, w') => exact hr.within (k := 0) (le_refl _) fun _ => .inl
  | (.ready outcome, w') => exact hr.around (.record ..) (by simp)
  | (.panicked text, w') => exact hr.around (.forgo ..) (by simp)

theorem afterPrimary_rests {breaker : String} {probe : Bool} {fallback : Operation} {arg : Json}
    {start : World → Poll × World} (hstart : ∀ w, Rests fallback.waits w (start w))
    (hr : Rests n w r) :
    Rests (n + fallback.waits) w (afterPrimary breaker probe fallback arg start r) := by
  match r with
  | (.pending c, w') => exact hr.within (le_refl _) fun _ => .inl
  | (.ready (.ok value), w') =>
    exact (hr.around (.record ..) (by simp)).mono (Nat.le_add_right ..)
  | (.ready (.error failure), w') => exact hr.andThen (.record ..) (hstart _)
  | (.panicked text, w') => exact (hr.around (.forgo ..) (by simp)).mono (Nat.le_add_right ..)

theorem afterHolding_rests {limiter : ComponentId} (hr : Rests n w r) :
    Rests n w (afterHolding limiter r) := by
  match r with
  | (.pending c, w') => exact hr.within (k := 0) (le_refl _) fun _ => .inl
  | (.ready outcome, w') => exact hr.around (.releaseSlot ..) (by simp)
  | (.panicked text, w') => exact hr.around (.releaseSlot ..) (by simp)

theorem afterTimed_rests {timer : Timer} {limit : Duration} {name : String} (hr : Rests n w r) :
    Rests n w (afterTimed timer limit name r) := by
  match r with
  | (.pending c, w') =>
    simp only [afterTimed]
    split
    · exact hr.around (c.abandon_stirs w') (by simp)
    · next helapsed =>
      have hdue : w.now < timer.due := by
        rw [← hr.now]
        simpa [World.elapsed] using helapsed
      refine hr.within (k := 0) (le_refl _) fun t ht => ?_
      rcases List.mem_append.mp ht with hinner | hown
      · exact .inl hinner
      · exact .inr (List.mem_singleton.mp hown ▸ hdue)
  | (.ready outcome, w') => exact hr.around (.refl _) (by simp)
  | (.panicked text, w') => exact hr.around (.refl _) (by simp)

theorem beginTimed_rests {limit : Duration} {name : String} (hr : Rests n w r) :
    Rests n w (beginTimed limit name r) := by
  match r with
  | (.pending c, w') =>
    have hsleep := World.Stirs.sleep limit w'
    simp only [beginTimed]
    split
    · next timer w'' heq =>
      rw [heq] at hsleep
      have hdue : w.now < timer.due := hr.now ▸ World.lt_due_of_sleep heq
      have hunrest : w'.unrest + c.later ≤ w.unrest + n := hr.unrest
      have hstirs : w''.unrest ≤ w'.unrest + 0 := hsleep.unrest
      refine ⟨hr.toStable.trans hsleep.toStable, ?_, fun t ht => ?_⟩
      · simp only [Poll.later, later]
        omega
      · rcases List.mem_append.mp ht with hinner | hown
        · exact hr.sleeps t hinner
        · exact List.mem_singleton.mp hown ▸ hdue
    · next w'' heq =>
      rw [heq] at hsleep
      exact hr.around (hsleep.after (c.abandon_stirs w'')) (by simp)
  | (.ready outcome, w') => exact hr.around (.refl _) (by simp)
  | (.panicked text, w') => exact hr.around (.refl _) (by simp)

theorem afterAttempt_rests {policy : Retry.Policy} {op : Operation} {arg : Json} {left : Nat}
    {delay : Duration} {again : Duration → World → Poll × World}
    (hagain : 0 < left → ∀ delay w, Rests (left * op.waits) w (again delay w)) (hr : Rests n w r) :
    Rests (n + left * op.waits) w (afterAttempt policy op arg left delay again r) := by
  match r with
  | (.pending c, w') => exact hr.within (le_refl _) fun _ => .inl
  | (.ready (.ok value), w') =>
    exact (hr.around (.refl _) (by simp)).mono (Nat.le_add_right ..)
  | (.ready (.error failure), w') =>
    have hover : Rests (n + left * op.waits) w (.ready (.error failure), w') :=
      hr.mono (Nat.le_add_right ..)
    have hsleep := World.Stirs.sleep delay w'
    simp only [afterAttempt]
    split
    · split
      · exact hover
      · next left' =>
        split
        · next timer w'' heq =>
          rw [heq] at hsleep
          have hdue := World.lt_due_of_sleep heq
          refine hr.andThen hsleep (.blocked (.refl _) (by simp [later]) fun t ht => ?_)
          rw [List.mem_singleton.mp ht, hsleep.now]
          exact hdue
        · next w'' heq =>
          rw [heq] at hsleep
          exact hr.andThen hsleep (hagain (Nat.succ_pos _) _ _)
    · exact hover
  | (.panicked text, w') => exact (hr.around (.refl _) (by simp)).mono (Nat.le_add_right ..)

/-- Each attempt may join as many lines as the operation has. -/
theorem attempts_rests {policy : Retry.Policy} {op : Operation} {arg : Json}
    {start : World → Poll × World} (hstart : ∀ w, Rests op.waits w (start w)) (left : Nat)
    (delay : Duration) (w : World) :
    Rests ((left + 1) * op.waits) w (attempts policy op arg start left delay w) := by
  -- An attempt that fails without a pause is followed by the next one in the same turn, so the
  -- attempts that are left are paid for together.
  induction left generalizing delay w with
  | zero =>
    rw [Nat.succ_mul, Nat.add_comm]
    exact afterAttempt_rests (fun h => absurd h (lt_irrefl 0)) (hstart w)
  | succ left ih =>
    rw [Nat.succ_mul, Nat.add_comm]
    exact afterAttempt_rests (fun _ => ih) (hstart w)

theorem afterFilling_rests {cache : ComponentId} {key : String} {ttl : Nat} (hr : Rests n w r) :
    Rests n w (afterFilling cache key ttl r) := by
  match r with
  | (.pending c, w') => exact hr.within (k := 0) (le_refl _) fun _ => .inl
  | (.ready (.ok value), w') => exact hr.around (.writeCache ..) (by simp)
  | (.ready (.error failure), w') => exact hr.around (.refl _) (by simp)
  | (.panicked text, w') => exact hr.around (.refl _) (by simp)

end Call

/-- **A call that is started joins no more lines than its operation has**, and pays for what it
stirs up. -/
theorem Operation.start_rests (op : Operation) (task : TaskId) (arg : Json) (w : World) :
    Rests op.waits w (op.start task arg w) := by
  induction op generalizing arg w with
  | source id =>
    have hinvoke := World.Stirs.invoke id arg w
    simp only [Operation.start]
    split
    · exact .ended hinvoke (Ending.poll_ne_pending _ arg)
    · next pause _ =>
      have hsleep := World.Stirs.sleep pause (w.invoke id arg).2
      split
      · next timer w' heq =>
        rw [heq] at hsleep
        refine .blocked (hinvoke.after hsleep) (le_refl _) fun t ht => ?_
        rw [List.mem_singleton.mp ht, ← hinvoke.now]
        exact World.lt_due_of_sleep heq
      · next heq =>
        rw [heq] at hsleep
        exact .ended (hinvoke.after hsleep) (Ending.poll_ne_pending _ arg)
  | guarded inner breaker ih =>
    have henter := World.Stirs.enter breaker w
    simp only [Operation.start]
    split
    · next heq =>
      rw [heq] at henter
      exact .ended henter (by simp)
    · next heq =>
      rw [heq] at henter
      exact (Rests.after henter (Call.afterGuarded_rests (ih arg _))).mono (Nat.zero_add _).le
  | withFallback inner breaker fallback ih ih' =>
    have henter := World.Stirs.enter breaker w
    simp only [Operation.start, waits]
    split
    · next heq =>
      rw [heq] at henter
      exact (Rests.after henter (ih' arg _)).mono (by omega)
    · next heq =>
      rw [heq] at henter
      exact (Rests.after henter (Call.afterPrimary_rests (ih' arg) (ih arg _))).mono (by omega)
  | limited inner limiter ih =>
    have hask := World.Stirs.askSlot limiter task w
    simp only [Operation.start, waits]
    split
    · next heq =>
      rw [heq] at hask
      exact (Rests.after hask (Call.afterHolding_rests (ih arg _))).mono (by simp [World.joining])
    · next heq =>
      rw [heq] at hask
      exact .blocked hask (Nat.add_comm ..).le fun _ ht => by cases ht
    · next heq =>
      rw [heq] at hask
      exact .ended hask (by simp)
  | rateLimited inner bucket ih =>
    have hask := World.Stirs.askToken bucket task w
    simp only [Operation.start, waits]
    split
    · next heq =>
      rw [heq] at hask
      exact (Rests.after hask (ih arg _)).mono (by simp [World.joining])
    · next heq =>
      rw [heq] at hask
      exact .blocked hask (Nat.add_comm ..).le fun _ ht => by cases ht
    · next heq =>
      rw [heq] at hask
      exact .ended hask (by simp)
  | timed inner limit name ih => exact Call.beginTimed_rests (ih arg w)
  | retrying inner policy ih =>
    refine (Call.attempts_rests (ih arg) (policy.attempts - 1) policy.config.delay w).mono ?_
    have hattempts : policy.attempts - 1 + 1 = policy.attempts :=
      Nat.sub_add_cancel (Nat.le_max_right ..)
    rw [hattempts, waits]
  | cached inner cache keyOf ttl ih =>
    have hread := World.Stirs.readCache cache (keyOf arg) w
    simp only [Operation.start]
    split
    · next heq =>
      rw [heq] at hread
      exact .ended hread (by simp)
    · next heq =>
      rw [heq] at hread
      exact (Rests.after hread (Call.afterFilling_rests (ih arg _))).mono (Nat.zero_add _).le

/-- **A call that is resumed joins no more lines than it has left**, and pays for what it stirs
up. -/
theorem Call.resume_rests (c : Call) (task : TaskId) (w : World) :
    Rests c.later w (c.resume task w) := by
  induction c with
  | working timer ending arg =>
    simp only [resume]
    split
    · exact .ended (.refl w) (Ending.poll_ne_pending _ arg)
    · next helapsed =>
      refine .blocked (.refl w) (le_refl _) fun t ht => ?_
      rw [List.mem_singleton.mp ht]
      simpa [World.elapsed] using helapsed
  | guarded _ _ _ ih => exact afterGuarded_rests ih
  | withFallback _ _ fallback arg _ ih =>
    exact afterPrimary_rests (fun w => fallback.start_rests task arg w) ih
  | awaitingSlot limiter ticket inner arg =>
    simp only [resume]
    split
    · next hpick =>
      exact (Rests.after (.pickUpSlot hpick)
        (afterHolding_rests (inner.start_rests task arg _))).mono (Nat.zero_add _).le
    · exact .blocked (.refl w) (Nat.zero_add _).le fun _ ht => by cases ht
  | holdingSlot _ _ ih => exact afterHolding_rests ih
  | awaitingToken bucket ticket inner arg =>
    simp only [resume]
    split
    · next hpick =>
      exact (Rests.after (.pickUpToken hpick) (inner.start_rests task arg _)).mono
        (Nat.zero_add _).le
    · exact .ended (.refl w) (by simp)
    · exact .blocked (.refl w) (Nat.zero_add _).le fun _ ht => by cases ht
  | timed _ _ _ _ ih => exact afterTimed_rests ih
  | attempting policy left delay op arg _ ih =>
    refine afterAttempt_rests (fun hleft delay w => ?_) ih
    have hattempts : Rests ((left - 1 + 1) * op.waits) w
        (attempts policy op arg (fun w => op.start task arg w) (left - 1) delay w) :=
      attempts_rests (fun w => op.start_rests task arg w) (left - 1) delay w
    rwa [Nat.sub_add_cancel hleft] at hattempts
  | pausing policy left delay op arg timer =>
    simp only [resume]
    split
    · exact attempts_rests (fun w => op.start_rests task arg w) left delay w
    · next helapsed =>
      refine .blocked (.refl w) (Nat.zero_add _).le fun t ht => ?_
      rw [List.mem_singleton.mp ht]
      simpa [World.elapsed] using helapsed
  | filling _ _ _ _ ih => exact afterFilling_rests ih

end Rests

end Resilience
