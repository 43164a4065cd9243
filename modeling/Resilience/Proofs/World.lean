import Resilience.World
import Resilience.Proofs.Table

/-!
# What steps leave alone

Every step of a world ends with a report or with waking those that were served. A report adds to
the events and the log, waking adds to the run queue, and neither touches anything else. So each
step is told by the few parts of the world that it may change, and everything that does not read
these parts is as before.

A step of a component changes the table that the component is in, and there nothing but the state
of this one component (`Component.Moved`).
-/

namespace Resilience

namespace Component

variable {κ γ σ : Type} [DecidableEq κ]

/-- The component of a key goes on to another state, if there is one: it keeps its name and its
configuration, and the rest of the table stays as it is. -/
inductive Moved (key : κ) (t : Table κ (Component γ σ)) : Table κ (Component γ σ) → Prop
  | stay : Moved key t t
  | move {c : Component γ σ} (hc : t.get? key = some c) (state : σ) :
      Moved key t (t.set key { c with state := state })

namespace Moved

variable {key other : κ} {t t' : Table κ (Component γ σ)}

/-- A change of the state is a move, also where there is no component to change. -/
theorem modify (key : κ) (f : σ → σ) (t : Table κ (Component γ σ)) :
    Moved key t (t.modify key fun c => { c with state := f c.state }) := by
  cases hc : t.get? key with
  | none =>
    rw [Table.modify_of_get?_none hc]
    exact .stay
  | some c =>
    rw [Table.modify_of_get? hc]
    exact .move hc (f c.state)

theorem has (h : Moved key t t') (other : κ) : t'.has other = t.has other := by
  cases h with
  | stay => rfl
  | move hc => exact Table.has_set_of_get? hc

theorem nodup_keys (h : Moved key t t') (ht : t.keys.Nodup) : t'.keys.Nodup := by
  cases h with
  | stay => exact ht
  | move => exact Table.nodup_keys_set ht ..

theorem get?_of_ne (h : Moved key t t') (hne : key ≠ other) : t'.get? other = t.get? other := by
  cases h with
  | stay => rfl
  | move => rw [Table.get?_set, if_neg hne]

/-- A component that is there keeps its name and its configuration. -/
theorem exists_state (h : Moved key t t') {c : Component γ σ} (hc : t.get? other = some c) :
    ∃ state, t'.get? other = some { c with state := state } := by
  cases h with
  | stay => exact ⟨c.state, hc⟩
  | @move d hd state =>
    by_cases heq : key = other
    · subst heq
      obtain rfl := Option.some.inj (hd.symm.trans hc)
      exact ⟨state, by rw [Table.get?_set, if_pos rfl]⟩
    · exact ⟨c.state, by rw [Table.get?_set, if_neg heq, hc]⟩

/-- A component was there before, under the same name and with the same configuration. -/
theorem exists_before (h : Moved key t t') {c : Component γ σ} (hc : t'.get? other = some c) :
    ∃ state, t.get? other = some { c with state := state } := by
  have hhas : t'.has other = true := by rw [Table.has, hc]; rfl
  rw [h.has] at hhas
  obtain ⟨d, hd⟩ := Option.isSome_iff_exists.mp hhas
  obtain ⟨state, hstate⟩ := h.exists_state hd
  obtain rfl := Option.some.inj (hstate.symm.trans hc)
  exact ⟨d.state, hd⟩

end Moved

end Component

namespace World

variable (event? : Option Event) (served : List Waiter) (w : World)

theorem report_eq : ∃ events log, w.report event? = { w with events := events, log := log } := by
  unfold report note
  split
  · split
    · exact ⟨_, _, rfl⟩
    · exact ⟨w.events, w.log, rfl⟩
  · exact ⟨w.events, w.log, rfl⟩

theorem wakeAll_eq : ∃ ready, w.wakeAll served = { w with ready := ready } := by
  induction served generalizing w with
  | nil => exact ⟨w.ready, rfl⟩
  | cons waiter rest ih =>
    obtain ⟨ready, hrest⟩ := ih (w.wake waiter.caller)
    refine ⟨ready, hrest.trans ?_⟩
    unfold wake
    split <;> rfl

@[simp]
theorem events_report : (w.report event?).events =
    w.events ++ if w.recording then event?.toList else [] := by
  unfold report note
  cases event? with
  | none => simp
  | some event =>
    dsimp only
    split <;> simp

@[simp]
theorem recording_report : (w.report event?).recording = w.recording := by
  obtain ⟨_, _, h⟩ := report_eq event? w
  rw [h]

@[simp]
theorem now_report : (w.report event?).now = w.now := by
  obtain ⟨_, _, h⟩ := report_eq event? w
  rw [h]

@[simp]
theorem breakers_report : (w.report event?).breakers = w.breakers := by
  obtain ⟨_, _, h⟩ := report_eq event? w
  rw [h]

@[simp]
theorem limiters_report : (w.report event?).limiters = w.limiters := by
  obtain ⟨_, _, h⟩ := report_eq event? w
  rw [h]

@[simp]
theorem caches_report : (w.report event?).caches = w.caches := by
  obtain ⟨_, _, h⟩ := report_eq event? w
  rw [h]

@[simp]
theorem serial_report : (w.report event?).serial = w.serial := by
  obtain ⟨_, _, h⟩ := report_eq event? w
  rw [h]

@[simp]
theorem now_wakeAll : (w.wakeAll served).now = w.now := by
  obtain ⟨_, h⟩ := wakeAll_eq served w
  rw [h]

@[simp]
theorem limiters_wakeAll : (w.wakeAll served).limiters = w.limiters := by
  obtain ⟨_, h⟩ := wakeAll_eq served w
  rw [h]

@[simp]
theorem buckets_wakeAll : (w.wakeAll served).buckets = w.buckets := by
  obtain ⟨_, h⟩ := wakeAll_eq served w
  rw [h]

@[simp]
theorem sources_wakeAll : (w.wakeAll served).sources = w.sources := by
  obtain ⟨_, h⟩ := wakeAll_eq served w
  rw [h]

@[simp]
theorem serial_wakeAll : (w.wakeAll served).serial = w.serial := by
  obtain ⟨_, h⟩ := wakeAll_eq served w
  rw [h]

/-- Nobody in the run queue is overtaken by those who are woken. -/
theorem ready_prefix_wakeAll : w.ready <+: (w.wakeAll served).ready := by
  induction served generalizing w with
  | nil => exact List.prefix_rfl
  | cons waiter served ih =>
    have hfirst : w.ready <+: (w.wake waiter.caller).ready := by
      unfold wake
      split
      · exact List.prefix_rfl
      · exact List.prefix_append ..
    exact hfirst.trans (ih (w.wake waiter.caller))

variable {served w} in
/-- A task that has a turn coming keeps it. -/
theorem mem_ready_wakeAll_of_mem {task : TaskId} (h : task ∈ w.ready) :
    task ∈ (w.wakeAll served).ready := (ready_prefix_wakeAll served w).subset h

variable {served w} in
/-- Whoever is woken has a turn coming. -/
theorem mem_ready_wakeAll {waiter : Waiter} (h : waiter ∈ served) :
    waiter.caller ∈ (w.wakeAll served).ready := by
  induction served generalizing w with
  | nil => cases h
  | cons first served ih =>
    rcases List.mem_cons.mp h with rfl | hrest
    · have hfirst : waiter.caller ∈ (w.wake waiter.caller).ready := by
        unfold wake
        split
        · assumption
        · exact List.mem_append_right _ (List.mem_singleton_self _)
      have hlast : waiter.caller ∈ (wakeAll served (w.wake waiter.caller)).ready :=
        mem_ready_wakeAll_of_mem hfirst
      exact hlast
    · exact ih hrest

/-! ### The parts that a step may change -/

variable {w} {w' : World}

theorem openBreaker_eq (name : String) (config : Breaker.Config) :
    ∃ breakers, w.openBreaker name config = { w with breakers := breakers } := by
  unfold openBreaker
  split
  · exact ⟨w.breakers, rfl⟩
  · exact ⟨_, rfl⟩

theorem enter_eq (name : String) : ∃ breakers events log,
    Component.Moved name w.breakers breakers ∧
      (w.enter name).2 = { w with breakers := breakers, events := events, log := log } := by
  unfold enter
  split
  · next c hc =>
    obtain ⟨events, log, heq⟩ := report_eq ..
    exact ⟨_, events, log, .move hc _, heq⟩
  · exact ⟨w.breakers, w.events, w.log, .stay, rfl⟩

theorem record_eq (name : String) (probe : Bool) (outcome : Outcome) : ∃ breakers events log,
    Component.Moved name w.breakers breakers ∧
      w.record name probe outcome =
        { w with breakers := breakers, events := events, log := log } := by
  unfold record
  split
  · next c hc =>
    obtain ⟨events, log, heq⟩ := report_eq ..
    exact ⟨_, events, log, .move hc _, heq⟩
  · exact ⟨w.breakers, w.events, w.log, .stay, rfl⟩

theorem forgo_eq (name : String) (probe : Bool) : ∃ breakers,
    Component.Moved name w.breakers breakers ∧
      w.forgo name probe = { w with breakers := breakers } := by
  unfold forgo
  split
  · exact ⟨_, .modify name Breaker.probeLost w.breakers, rfl⟩
  · exact ⟨w.breakers, .stay, rfl⟩

theorem resetBreaker_eq (name : String) : ∃ breakers events log,
    Component.Moved name w.breakers breakers ∧
      (w.resetBreaker name).2 =
        { w with breakers := breakers, events := events, log := log } := by
  unfold resetBreaker
  split
  · next c hc =>
    obtain ⟨events, log, heq⟩ := report_eq ..
    exact ⟨_, events, log, .move hc _, heq⟩
  · exact ⟨w.breakers, w.events, w.log, .stay, rfl⟩

theorem askSlot_eq (id : ComponentId) (caller : TaskId) : ∃ limiters events log serial,
    w.serial ≤ serial ∧ Component.Moved id w.limiters limiters ∧
      (w.askSlot id caller).2 =
        { w with limiters := limiters, events := events, log := log, serial := serial } := by
  unfold askSlot
  split
  · next c hc =>
    dsimp only
    split
    · exact ⟨_, w.events, w.log, w.serial, Nat.le_refl _, .move hc _, rfl⟩
    · exact ⟨_, w.events, w.log, w.serial + 1, Nat.le_succ _, .move hc _, rfl⟩
    · obtain ⟨events, log, heq⟩ := report_eq (some _) { w with limiters := _ }
      exact ⟨_, events, log, w.serial, Nat.le_refl _, .move hc _, heq⟩
  · exact ⟨w.limiters, w.events, w.log, w.serial, Nat.le_refl _, .stay, rfl⟩

/-- Whoever takes up a slot was granted it. -/
theorem pickUpSlot?_eq_some {id : ComponentId} {ticket : Ticket}
    (h : w.pickUpSlot? id ticket = some w') : ∃ c l, w.limiters.get? id = some c ∧
      c.state.pickUp? ticket = some l ∧
      w' = { w with limiters := w.limiters.set id { c with state := l } } := by
  unfold pickUpSlot? at h
  split at h
  · next c hc =>
    obtain ⟨l, hpick, rfl⟩ := Option.map_eq_some_iff.mp h
    exact ⟨c, l, hc, hpick, rfl⟩
  · cases h

theorem releaseSlot_eq (id : ComponentId) : ∃ limiters ready,
    Component.Moved id w.limiters limiters ∧
      w.releaseSlot id = { w with limiters := limiters, ready := ready } := by
  unfold releaseSlot
  split
  · next c hc =>
    obtain ⟨ready, heq⟩ := wakeAll_eq ..
    exact ⟨_, ready, .move hc _, heq⟩
  · exact ⟨w.limiters, w.ready, .stay, rfl⟩

theorem leaveSlot_eq (id : ComponentId) (ticket : Ticket) : ∃ limiters ready,
    Component.Moved id w.limiters limiters ∧
      w.leaveSlot id ticket = { w with limiters := limiters, ready := ready } := by
  unfold leaveSlot
  split
  · next c hc =>
    obtain ⟨ready, heq⟩ := wakeAll_eq ..
    exact ⟨_, ready, .move hc _, heq⟩
  · exact ⟨w.limiters, w.ready, .stay, rfl⟩

/-- **What an answer to a caller comes with**: whoever a refill that was due has served is woken,
and only a caller that joins the line uses up a number. -/
theorem askToken_of_some {id : ComponentId} {c : Component Bucket.Config Bucket}
    (hc : w.buckets.get? id = some c) (caller : TaskId) :
    let asked := c.state.acquire c.config w.now ⟨w.serial, caller, true⟩
    let w' := World.wakeAll asked.2.1
      { w with buckets := w.buckets.set id { c with state := asked.2.2 } }
    w.askToken id caller = match asked.1 with
      | .admitted => (.ok none, w')
      | .queued => (.ok (some w.serial), { w' with serial := w.serial + 1 })
      | .closed => (.error (.closed c.name), w') := by
  unfold askToken
  rw [hc]
  dsimp only
  rcases c.state.acquire c.config w.now ⟨w.serial, caller, true⟩ with ⟨admission, served, b⟩
  have hserial : (World.wakeAll served
      { w with buckets := w.buckets.set id { c with state := b } }).serial = w.serial :=
    serial_wakeAll ..
  cases admission with
  | admitted => rfl
  | queued => simp only [hserial]
  | closed => rfl

theorem askToken_of_none {id : ComponentId} (hc : w.buckets.get? id = none) (caller : TaskId) :
    w.askToken id caller = (.ok none, w) := by
  simp only [askToken, hc]

theorem askToken_eq (id : ComponentId) (caller : TaskId) : ∃ buckets ready serial,
    w.serial ≤ serial ∧ Component.Moved id w.buckets buckets ∧
      (w.askToken id caller).2 =
        { w with buckets := buckets, ready := ready, serial := serial } := by
  cases hc : w.buckets.get? id with
  | none => exact ⟨w.buckets, w.ready, w.serial, Nat.le_refl _, .stay, by
      rw [askToken_of_none hc]⟩
  | some c =>
    obtain ⟨ready, heq⟩ := wakeAll_eq
      (c.state.acquire c.config w.now ⟨w.serial, caller, true⟩).2.1 { w with
        buckets := w.buckets.set id { c with
          state := (c.state.acquire c.config w.now ⟨w.serial, caller, true⟩).2.2 } }
    rw [askToken_of_some hc caller, heq]
    split
    · exact ⟨_, ready, w.serial, Nat.le_refl _, .move hc _, rfl⟩
    · exact ⟨_, ready, w.serial + 1, Nat.le_succ _, .move hc _, rfl⟩
    · exact ⟨_, ready, w.serial, Nat.le_refl _, .move hc _, rfl⟩

/-- Whoever takes up a token was granted it. -/
theorem pickUpToken_eq_granted {id : ComponentId} {ticket : Ticket}
    (h : w.pickUpToken id ticket = .granted w') : ∃ c b, w.buckets.get? id = some c ∧
      c.state.pickUp? ticket = some b ∧
      w' = { w with buckets := w.buckets.set id { c with state := b } } := by
  unfold pickUpToken at h
  split at h
  · next c hc =>
    split at h
    · next b hpick =>
      cases h
      exact ⟨c, b, hc, hpick, rfl⟩
    · split at h <;> cases h
  · cases h

/-- Whoever is sent away was not granted a token, and the bucket is closed. -/
theorem pickUpToken_eq_refused {id : ComponentId} {ticket : Ticket} {rejection : Rejection}
    (h : w.pickUpToken id ticket = .refused rejection) : ∃ c, w.buckets.get? id = some c ∧
      c.state.pickUp? ticket = none ∧ c.state.closed = true ∧ rejection = .closed c.name := by
  unfold pickUpToken at h
  split at h
  · next c hc =>
    split at h
    · cases h
    · next hpick =>
      split at h
      · next hclosed =>
        cases h
        exact ⟨c, hc, hpick, hclosed, rfl⟩
      · cases h
  · cases h

theorem leaveToken_eq (id : ComponentId) (ticket : Ticket) : ∃ buckets,
    Component.Moved id w.buckets buckets ∧
      w.leaveToken id ticket = { w with buckets := buckets } :=
  ⟨_, .modify id (Bucket.giveUp ticket) w.buckets, rfl⟩

/-- A refill that is due serves the line, and one that is not does nothing. -/
theorem refillBucket_of_some {id : ComponentId} {c : Component Bucket.Config Bucket}
    (hc : w.buckets.get? id = some c) :
    w.refillBucket id = ((c.state.refill c.config w.now).1.length,
      World.wakeAll (c.state.refill c.config w.now).1 { w with
        buckets := w.buckets.set id { c with state := (c.state.refill c.config w.now).2 } }) := by
  simp only [refillBucket, hc]

theorem refillBucket_of_none {id : ComponentId} (hc : w.buckets.get? id = none) :
    w.refillBucket id = (0, w) := by
  simp only [refillBucket, hc]

theorem refillBucket_eq (id : ComponentId) : ∃ buckets ready,
    Component.Moved id w.buckets buckets ∧
      (w.refillBucket id).2 = { w with buckets := buckets, ready := ready } := by
  cases hc : w.buckets.get? id with
  | none => exact ⟨w.buckets, w.ready, .stay, by rw [refillBucket_of_none hc]⟩
  | some c =>
    obtain ⟨ready, heq⟩ := wakeAll_eq ..
    rw [refillBucket_of_some hc]
    exact ⟨_, ready, .move hc _, heq⟩

theorem shutDownBucket_of_some {id : ComponentId} {c : Component Bucket.Config Bucket}
    (hc : w.buckets.get? id = some c) :
    w.shutDownBucket id = wakeAll (Queue.purge c.state.queue)
      { w with buckets := w.buckets.set id { c with state := c.state.shutDown.2 } } := by
  unfold shutDownBucket
  rw [hc]
  rfl

theorem shutDownBucket_of_none {id : ComponentId} (hc : w.buckets.get? id = none) :
    w.shutDownBucket id = w := by
  simp only [shutDownBucket, hc]

theorem shutDownBucket_eq (id : ComponentId) : ∃ buckets ready,
    Component.Moved id w.buckets buckets ∧
      w.shutDownBucket id = { w with buckets := buckets, ready := ready } := by
  cases hc : w.buckets.get? id with
  | none => exact ⟨w.buckets, w.ready, .stay, by rw [shutDownBucket_of_none hc]⟩
  | some c =>
    obtain ⟨ready, heq⟩ := wakeAll_eq ..
    rw [shutDownBucket_of_some hc]
    exact ⟨_, ready, .move hc _, heq⟩

/-- Whoever has a turn coming keeps it when a bucket is closed. -/
theorem ready_prefix_shutDownBucket (w : World) (id : ComponentId) :
    w.ready <+: (w.shutDownBucket id).ready := by
  cases hc : w.buckets.get? id with
  | none => exact (shutDownBucket_of_none hc).symm ▸ List.prefix_rfl
  | some c =>
    rw [shutDownBucket_of_some hc]
    exact ready_prefix_wakeAll _ { w with
      buckets := w.buckets.set id { c with state := c.state.shutDown.2 } }

theorem readCache_eq (id : ComponentId) (key : String) : ∃ caches,
    (∀ other, id ≠ other → caches.get? other = w.caches.get? other) ∧
      (w.readCache id key).2 = { w with caches := caches } := by
  unfold readCache
  split
  · exact ⟨_, fun other hne => (Table.get?_set ..).trans (if_neg hne), rfl⟩
  · exact ⟨w.caches, fun _ _ => rfl, rfl⟩

theorem writeCache_eq (id : ComponentId) (key : String) (value : Json) (ttl : Nat) :
    ∃ caches events log, (∀ other, id ≠ other → caches.get? other = w.caches.get? other) ∧
      w.writeCache id key value ttl =
        { w with caches := caches, events := events, log := log } := by
  unfold writeCache
  split
  · obtain ⟨events, log, heq⟩ := report_eq ..
    exact ⟨_, events, log, fun other hne => (Table.get?_set ..).trans (if_neg hne), heq⟩
  · exact ⟨w.caches, w.events, w.log, fun _ _ => rfl, rfl⟩

theorem sweepCache_eq (id : ComponentId) : ∃ caches events log,
    (∀ other, id ≠ other → caches.get? other = w.caches.get? other) ∧
      w.sweepCache id = { w with caches := caches, events := events, log := log } := by
  unfold sweepCache
  split
  · obtain ⟨events, log, heq⟩ := report_eq ..
    exact ⟨_, events, log, fun other hne => (Table.get?_set ..).trans (if_neg hne), heq⟩
  · exact ⟨w.caches, w.events, w.log, fun _ _ => rfl, rfl⟩

theorem invoke_eq (id : ComponentId) (arg : Json) :
    ∃ sources log, (w.invoke id arg).2 = { w with sources := sources, log := log } := by
  unfold invoke
  split
  · exact ⟨_, _, rfl⟩
  · exact ⟨w.sources, w.log, rfl⟩

end World

end Resilience
