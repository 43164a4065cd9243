import Resilience.Proofs.Limiter.Conservation
import Mathlib.Data.List.Induction
import Mathlib.Data.Multiset.Filter

/-!
# When a limiter turns callers away

A limiter turns a caller away exactly when all its slots are in use and as many callers wait as may
wait. Who waits is said without a look at the line: those that came, were not handed a slot and
were not cancelled. The line itself may hold dead places too, but never more places than callers
may wait, since it is purged before anybody joins it.

The other half of the law is about the callers that do join the line. Every one of them stays in
it, alive, until it is handed a slot or leaves by itself (`Shows.place_alive`), so waiting for a
slot has no way to fail.
-/

namespace Resilience

/-! ### The length of a line -/

namespace Queue

theorem length_purge_le (queue : List Waiter) : (purge queue).length ≤ queue.length :=
  List.length_filter_le ..

theorem length_giveUp (ticket : Ticket) (queue : List Waiter) :
    (giveUp ticket queue).length = queue.length := by
  simp [giveUp]

/-- Serving somebody makes the line shorter. -/
theorem length_of_next? {queue rest : List Waiter} {w : Waiter}
    (h : next? queue = some (w, rest)) : rest.length < queue.length := by
  unfold next? at h
  have hle := (List.dropWhile_sublist (fun w : Waiter => ¬ w.live) (l := queue)).length_le
  split at h
  · cases h
  · next heq =>
    obtain ⟨rfl, rfl⟩ := Prod.mk.inj (Option.some.inj h)
    rw [heq, List.length_cons] at hle
    exact hle

end Queue

namespace Limiter

variable {config : Config} {l : Limiter}

/-- No more places are in line than callers may wait. -/
def Bounded (config : Config) (l : Limiter) : Prop :=
  config.maxQueue ≠ 0 → l.queue.length ≤ config.maxQueue

/-- A caller is turned away exactly when the limiter is full. -/
theorem rejected_iff (config : Config) (w : Waiter) (l : Limiter) :
    (∃ active queued, (l.ask config w).1 = .rejected active queued) ↔ l.Full config := by
  obtain ⟨hfree, hask⟩ | ⟨-, hnot, hask⟩ | ⟨hfull, hask⟩ := l.ask_cases config w
  · simp only [hask, reduceCtorEq, exists_const, false_iff]
    exact fun hfull => absurd hfree (Nat.not_lt.mpr hfull.2.1)
  · simp only [hask, reduceCtorEq, exists_const, false_iff]
    exact hnot
  · exact ⟨fun _ => hfull, fun _ => ⟨_, _, by rw [hask]⟩⟩

/-- A refusal says what the caller met, and only those who gave up leave the line. -/
theorem ask_of_rejected {w : Waiter} {active queued : Nat}
    (h : (l.ask config w).1 = .rejected active queued) :
    l.Full config ∧ active = l.active ∧ queued = (Queue.waiting l.queue).length ∧
      (l.ask config w).2 = { l with queue := Queue.purge l.queue } := by
  obtain ⟨-, hask⟩ | ⟨-, -, hask⟩ | ⟨hfull, hask⟩ := l.ask_cases config w
  · rw [hask] at h
    cases h
  · rw [hask] at h
    cases h
  · rw [hask] at h ⊢
    obtain ⟨rfl, rfl⟩ := Admission.rejected.inj h
    exact ⟨hfull, rfl, rfl, rfl⟩

/-! ### The bound of the line -/

namespace Bounded

theorem ask (h : l.Bounded config) (w : Waiter) : (l.ask config w).2.Bounded config := by
  intro hbound
  have hlength := h hbound
  have hpurge := Queue.length_purge_le l.queue
  obtain ⟨-, hask⟩ | ⟨hbusy, hnot, hask⟩ | ⟨-, hask⟩ := l.ask_cases config w
  · rwa [hask]
  · rw [hask, List.length_append, List.length_singleton, Queue.length_purge]
    -- A caller joins the line only when it is not full.
    have hroom : ¬ config.maxQueue ≤ (Queue.waiting l.queue).length :=
      fun hle => hnot ⟨hbound, hbusy, hle⟩
    omega
  · rw [hask]
    exact hpurge.trans hlength

theorem release (h : l.Bounded config) : l.release.2.Bounded config := by
  intro hbound
  have hlength := h hbound
  unfold Limiter.release
  split
  · next hnext => exact (Queue.length_of_next? hnext).le.trans hlength
  · exact Nat.zero_le _

theorem pickUp {l' : Limiter} {ticket : Ticket} (h : l.Bounded config)
    (hpick : l.pickUp? ticket = some l') : l'.Bounded config := by
  obtain ⟨-, rfl⟩ := pickUp?_eq_some hpick
  exact h

theorem giveUp (h : l.Bounded config) (ticket : Ticket) :
    (l.giveUp ticket).2.Bounded config := by
  unfold Limiter.giveUp
  split
  · exact release (l := { l with granted := l.granted.erase ticket }) h
  · exact fun hbound => (Queue.length_giveUp ticket l.queue).le.trans (h hbound)

end Bounded

namespace History

/-- Every move keeps the line within its bound. -/
theorem bounded_step {h : History} (hb : h.limiter.Bounded config) (move : Move) :
    (h.step config move).limiter.Bounded config := by
  cases move with
  | ask ticket caller =>
    have hask := hb.ask ⟨ticket, caller, true⟩
    simp only [step, ask]
    split
    · exact hb
    · split <;> next heq => rw [heq] at hask; exact hask
  | resume n =>
    simp only [step, resume]
    split
    · split
      · next hpick => exact hb.pickUp hpick
      · exact hb
    · exact hb
  | cancel n =>
    simp only [step, cancel]
    split
    · split
      · exact hb.giveUp _
      · exact hb
    · exact hb
  | release n =>
    simp only [step, release]
    split
    · exact hb.release
    · exact hb

/-- **The line of a limiter is never longer than it may be.** -/
theorem bounded_run (config : Config) (moves : List Move) :
    (run config moves).limiter.Bounded config := by
  induction moves using List.reverseRecOn with
  | nil => exact fun _ => Nat.zero_le _
  | append_singleton moves move ih =>
    rw [run_concat]
    exact bounded_step ih move

/-- Those who wait are those who have a ticket and were not handed a slot. -/
theorem Sound.waiting_eq {h : History} (hs : Sound config 0 h) :
    h.visits.filterMap Visit.waiting? =
      (h.visits.filterMap Visit.ticket?).filter fun t => t ∉ h.limiter.granted := by
  rw [List.filter_filterMap]
  refine List.filterMap_congr fun v hv => ?_
  cases ht : v.ticket? with
  | none => cases v <;> simp_all
  | some ticket =>
    have hmem := hs.mem_granted_iff hv ht
    rw [Option.filter_some]
    cases v <;> simp_all

theorem Sound.nodup_waiting {h : History} (hs : Sound config 0 h) :
    (Queue.waiting h.limiter.queue).Nodup := by
  rw [hs.line, hs.waiting_eq]
  exact hs.distinct.filter _

/-- A limiter is full when its slots are in use and as many visits wait as may wait. -/
theorem Sound.full_iff {h : History} (hs : Sound config 0 h) : h.limiter.Full config ↔
    config.maxQueue ≠ 0 ∧ h.limiter.active = max config.maxConcurrency 1 ∧
      config.maxQueue ≤ (h.visits.filterMap Visit.waiting?).length := by
  have hle := hs.active_le
  rw [← hs.line]
  exact and_congr_right fun _ => and_congr_left fun _ =>
    ⟨fun hge => Nat.le_antisymm hle hge, fun heq => heq.ge⟩

end History

end Limiter

/-! ### Who waits in a scene -/

/-- The ticket of a place in the line of a limiter. -/
def Hold.place? (limiter : ComponentId) : Hold → Option Ticket
  | place other ticket => if other = limiter then some ticket else none
  | _ => none

/-- The tickets of those who wait for a slot of a limiter: they have a place in its line, and no
slot was handed to them. -/
def Scene.inLine (limiter : ComponentId) (granted : List Ticket) (H : Multiset Hold) :
    Multiset Ticket :=
  (H.filterMap (Hold.place? limiter)).filter fun ticket => ticket ∉ granted

/-- The place in the line of a limiter that a call has. -/
def Call.place? (limiter : ComponentId) : Call → Option Ticket
  | working .. => none
  | guarded _ _ inner => inner.place? limiter
  | withFallback _ _ _ _ inner => inner.place? limiter
  | awaitingSlot other ticket _ _ => if other = limiter then some ticket else none
  | holdingSlot _ inner => inner.place? limiter
  | awaitingToken .. => none
  | timed _ _ _ inner => inner.place? limiter
  | attempting _ _ _ _ _ inner => inner.place? limiter
  | pausing .. => none
  | filling _ _ _ inner => inner.place? limiter

/-- The place in the line of a limiter that a task has. -/
def Job.place? (limiter : ComponentId) : Job → Option Ticket
  | call _ _ _ (some c) => c.place? limiter
  | acquire _ other (some ticket) => if other = limiter then some ticket else none
  | _ => none

/-- The tickets of the tasks that wait for a slot of a limiter. -/
def Session.inLine (limiter : ComponentId) (granted : List Ticket) (s : Session) : List Ticket :=
  (s.tasks.values.filterMap fun task => task.job.place? limiter).filter
    fun ticket => ticket ∉ granted

/-- Tickets of holds that have tickets of their own are counted by counting the holds. -/
theorem Hold.count_filterMap {f : Hold → Option Ticket} {ticket : Ticket} {x : Hold}
    (hf : ∀ y, f y = some ticket ↔ y = x) (H : Multiset Hold) :
    (H.filterMap f).count ticket = H.count x := by
  induction H using Multiset.induction with
  | empty => rfl
  | cons y H ih =>
    by_cases hy : y = x
    · subst hy
      rw [Multiset.filterMap_cons_some _ _ _ ((hf y).mpr rfl), Multiset.count_cons_self,
        Multiset.count_cons_self, ih]
    · rw [Multiset.count_cons_of_ne (Ne.symm hy)]
      cases hp : f y with
      | none => rw [Multiset.filterMap_cons_none _ _ hp, ih]
      | some other =>
        have hne : ticket ≠ other := fun heq => hy ((hf y).mp (heq ▸ hp))
        rw [Multiset.filterMap_cons_some _ _ _ hp, Multiset.count_cons_of_ne hne, ih]

theorem Hold.count_filterMap_place? (limiter : ComponentId) (ticket : Ticket)
    (H : Multiset Hold) :
    (H.filterMap (Hold.place? limiter)).count ticket = H.count (.place limiter ticket) :=
  count_filterMap (fun y => by cases y <;> simp [place?]) H

theorem Call.place?_holds (limiter : ComponentId) (c : Call) :
    c.holds.filterMap (Hold.place? limiter) = ↑(c.place? limiter).toList := by
  induction c with
  | working | pausing => rfl
  | guarded breaker probe inner ih => exact (Multiset.filterMap_cons_none _ _ rfl).trans ih
  | withFallback breaker probe fallback arg inner ih =>
    exact (Multiset.filterMap_cons_none _ _ rfl).trans ih
  | holdingSlot other inner ih => exact (Multiset.filterMap_cons_none _ _ rfl).trans ih
  | timed timer limit name inner ih => exact ih
  | attempting policy left delay op arg inner ih => exact ih
  | filling cache key ttl inner ih => exact ih
  | awaitingToken bucket ticket inner arg => rfl
  | awaitingSlot other ticket inner arg =>
    by_cases h : other = limiter
    · subst h
      simp [holds, place?, Hold.place?, ← Multiset.cons_zero]
    · simp [holds, place?, Hold.place?, h, ← Multiset.cons_zero]

theorem Job.place?_holds (limiter : ComponentId) (job : Job) :
    job.holds.filterMap (Hold.place? limiter) = ↑(job.place? limiter).toList := by
  match job with
  | .call _ _ _ (some c) => exact c.place?_holds limiter
  | .acquire name other (some ticket) =>
    exact Call.place?_holds limiter (.awaitingSlot other ticket (.source 0) .null)
  | .take _ _ (some ticket) => rfl
  | .call _ _ _ none | .acquire _ _ none | .take _ _ none | .refill .. | .sweep .. => rfl

namespace Session

/-- What is read off the holds of tasks is what is read off the tasks. -/
theorem filterMap_tasksHold {f : Hold → Option Ticket} {g : Job → Option Ticket}
    (hf : ∀ job : Job, job.holds.filterMap f = ↑(g job).toList) (tasks : Table TaskId Task) :
    (tasksHold tasks).filterMap f = ↑(tasks.values.filterMap fun task => g task.job) := by
  induction tasks with
  | nil => rfl
  | cons p rest ih =>
    change (p.2.job.holds + tasksHold rest).filterMap f =
      ↑((p.2 :: Table.values rest).filterMap fun task => g task.job)
    rw [Multiset.filterMap_add, hf, ih, List.filterMap_cons]
    cases g p.2.job <;> rfl

/-- Nobody waits with a slot that is kept. -/
theorem filterMap_permitsHold {f : Hold → Option Ticket} (hf : ∀ limiter, f (.slot limiter) = none)
    (permits : Table String ComponentId) : (permitsHold permits).filterMap f = 0 := by
  refine Multiset.eq_zero_of_forall_notMem fun ticket ht => ?_
  obtain ⟨x, hx, hxt⟩ := (Multiset.mem_filterMap _ _).mp ht
  obtain ⟨p, -, rfl⟩ := List.mem_map.mp (Multiset.mem_coe.mp hx)
  rw [hf] at hxt
  cases hxt

/-- Who waits is read off the tasks of a session. -/
theorem inLine_holds (limiter : ComponentId) (granted : List Ticket) (s : Session) :
    Scene.inLine limiter granted s.holds = ↑(s.inLine limiter granted) := by
  rw [Scene.inLine, holds, Multiset.filterMap_add, filterMap_tasksHold (Job.place?_holds limiter),
    filterMap_permitsHold fun _ => rfl, add_zero]
  rfl

end Session

namespace Limiter

/-! ### Those who wait are in line -/

section Line

variable {id : ComponentId} {config : Config} {l : Limiter} {H : Multiset Hold} {h : History}

/-- The tickets of those who wait are those of the live places in line. -/
theorem Shows.inLine_eq (hshows : Shows id l H h) (hs : History.Sound config 0 h) :
    Scene.inLine id l.granted H = ↑(Queue.waiting l.queue) := by
  have htickets : H.filterMap (Hold.place? id) = ↑(h.visits.filterMap Visit.ticket?) := by
    ext ticket
    rw [Hold.count_filterMap_place?, ← hshows.tickets, Multiset.coe_count]
  obtain ⟨rfl, -, -⟩ := hshows
  rw [Scene.inLine, htickets, Multiset.filter_coe, hs.line, hs.waiting_eq]

/-- **A place in line stays alive until it is handed a slot**: whoever holds a place was handed a
slot or is among those who wait. -/
theorem Shows.place_alive (hshows : Shows id l H h) (hs : History.Sound config 0 h)
    {ticket : Ticket} (hplace : .place id ticket ∈ H) :
    ticket ∈ l.granted ∨ ticket ∈ Queue.waiting l.queue := by
  by_cases hgranted : ticket ∈ l.granted
  · exact .inl hgranted
  have hmem : ticket ∈ Scene.inLine id l.granted H := by
    refine Multiset.mem_filter.mpr ⟨?_, hgranted⟩
    exact (Multiset.mem_filterMap _ _).mpr ⟨_, hplace, by simp [Hold.place?]⟩
  rw [hshows.inLine_eq hs] at hmem
  exact .inr (Multiset.mem_coe.mp hmem)

/-- A limiter of a scene is full when its slots are in use and as many callers wait as may
wait. -/
theorem Shows.full_iff (hshows : Shows id l H h) (hs : History.Sound config 0 h) :
    l.Full config ↔ config.maxQueue ≠ 0 ∧ l.active = max config.maxConcurrency 1 ∧
      config.maxQueue ≤ (Scene.inLine id l.granted H).card := by
  rw [hshows.inLine_eq hs, Multiset.coe_card, ← hshows.state, hs.line]
  exact hs.full_iff

end Line

/-- A rejection says what the limiter has, and it can say so in terms of its configuration. -/
theorem Full.rejection_eq {config : Config} {l : Limiter} (hfull : l.Full config)
    (hbounded : l.Bounded config) (hle : l.active ≤ config.slots) :
    l.active = max config.maxConcurrency 1 ∧
      (Queue.waiting l.queue).length = config.maxQueue := by
  obtain ⟨hbound, hslots, hwaiting⟩ := hfull
  have hlength := hbounded hbound
  have hpurge := Queue.length_purge_le l.queue
  rw [Queue.length_purge] at hpurge
  exact ⟨Nat.le_antisymm hle hslots, by omega⟩

end Limiter

/-! ### Asking for a slot in a world -/

/-- **What an answer to a caller comes with**: nothing is reported with a slot or a place in line;
a refusal is one event, and takes nothing from anybody. -/
theorem World.askSlot_cases {w : World} {id : ComponentId}
    {c : Component Limiter.Config Limiter} (hc : w.limiters.get? id = some c) (caller : TaskId) :
    (¬ c.state.Full c.config ∧ (∃ ticket?, (w.askSlot id caller).1 = .ok ticket?) ∧
      (w.askSlot id caller).2.events = w.events) ∨
    (c.state.Full c.config ∧
      let overflow := Event.queueOverflow c.name c.state.active
        (Queue.waiting c.state.queue).length c.config.maxQueue
      w.askSlot id caller =
        (.error (.queueOverflow c.name c.state.active (Queue.waiting c.state.queue).length
          c.config.maxQueue),
        World.report (some overflow) { w with
          limiters := w.limiters.set id
            { c with state := { c.state with queue := Queue.purge c.state.queue } } })) := by
  unfold World.askSlot
  rw [hc]
  dsimp only
  obtain ⟨hfree, hask⟩ | ⟨-, hnot, hask⟩ | ⟨hfull, hask⟩ :=
    c.state.ask_cases c.config ⟨w.serial, caller, true⟩
  · rw [hask]
    exact .inl ⟨fun hfull => absurd hfree (Nat.not_lt.mpr hfull.2.1), ⟨none, rfl⟩, rfl⟩
  · rw [hask]
    exact .inl ⟨hnot, ⟨some w.serial, rfl⟩, rfl⟩
  · rw [hask]
    exact .inr ⟨hfull, rfl⟩

theorem World.exists_rejection_iff {w : World} {id : ComponentId}
    {c : Component Limiter.Config Limiter} (hc : w.limiters.get? id = some c) (caller : TaskId) :
    (∃ rejection, (w.askSlot id caller).1 = .error rejection) ↔ c.state.Full c.config := by
  obtain ⟨hnot, ⟨ticket?, hok⟩, -⟩ | ⟨hfull, hask⟩ := World.askSlot_cases hc caller
  · rw [hok]
    exact iff_of_false (fun ⟨_, h⟩ => by cases h) hnot
  · rw [hask]
    exact iff_of_true ⟨_, rfl⟩ hfull

/-- A refusal speaks of the slots and of the bound, is reported once, and takes nothing away. -/
theorem World.askSlot_of_error {w : World} {id : ComponentId}
    {c : Component Limiter.Config Limiter} (hc : w.limiters.get? id = some c) {caller : TaskId}
    (hbounded : c.state.Bounded c.config) (hle : c.state.active ≤ c.config.slots)
    {rejection : Rejection} (h : (w.askSlot id caller).1 = .error rejection) :
    let slots := max c.config.maxConcurrency 1
    let bound := c.config.maxQueue
    rejection = .queueOverflow c.name slots bound bound ∧
      ((w.askSlot id caller).2.events = w.events ++
        if w.recording then [.queueOverflow c.name slots bound bound] else []) ∧
      ∃ l, (w.askSlot id caller).2.limiters.get? id = some { c with state := l } ∧
        l.active = c.state.active ∧ l.granted = c.state.granted ∧
        Queue.waiting l.queue = Queue.waiting c.state.queue := by
  have hfull := (w.exists_rejection_iff hc caller).mp ⟨rejection, h⟩
  obtain ⟨hactive, hwaiting⟩ := hfull.rejection_eq hbounded hle
  obtain ⟨hnot, -⟩ | ⟨-, hask⟩ := World.askSlot_cases hc caller
  · exact absurd hfull hnot
  · rw [hactive, hwaiting] at hask
    rw [hask] at h ⊢
    refine ⟨(Except.error.inj h).symm, World.events_report ..,
      { c.state with queue := Queue.purge c.state.queue }, ?_, rfl, rfl,
      Queue.waiting_purge c.state.queue⟩
    rw [World.limiters_report, Table.get?_set, if_pos rfl]

theorem World.events_askSlot_of_ok {w : World} {id : ComponentId}
    {c : Component Limiter.Config Limiter} (hc : w.limiters.get? id = some c) {caller : TaskId}
    {ticket? : Option Ticket} (h : (w.askSlot id caller).1 = .ok ticket?) :
    (w.askSlot id caller).2.events = w.events := by
  obtain ⟨-, -, hevents⟩ | ⟨-, hask⟩ := World.askSlot_cases hc caller
  · exact hevents
  · rw [hask] at h
    cases h

namespace Limiter

/-- **A caller is turned away exactly when the limiter is full.** In every history, in every scene
and in every session, the line of a limiter is no longer than `maxQueue`, unless that is zero; a
caller that asks for a slot is refused if and only if `maxQueue` is not zero, all slots are in use
and at least `maxQueue` callers wait that were neither handed a slot nor cancelled. The refusal
says that all slots are in use and that `maxQueue` callers wait, it is reported as one event which
says the same, and it takes nothing from those who have slots or wait. No other answer is
reported, no answer speaks of a limiter that was closed, and whoever holds a place in line was
handed a slot or waits alive, so nothing can become of it but a slot. -/
theorem refused_iff_full :
    (∀ (config : Config) (moves : List Move) (w : Waiter),
      let h := History.run config moves
      let r := h.limiter.ask config w
      (config.maxQueue ≠ 0 → h.limiter.queue.length ≤ config.maxQueue) ∧
        ((∃ active queued, r.1 = .rejected active queued) ↔
          config.maxQueue ≠ 0 ∧ h.limiter.active = max config.maxConcurrency 1 ∧
            config.maxQueue ≤ (h.visits.filterMap Visit.waiting?).length) ∧
        ∀ active queued, r.1 = .rejected active queued →
          active = max config.maxConcurrency 1 ∧ queued = config.maxQueue ∧
            r.2.active = h.limiter.active ∧ r.2.granted = h.limiter.granted ∧
            Queue.waiting r.2.queue = Queue.waiting h.limiter.queue) ∧
    (∀ (sc : Scene) (id : ComponentId) (c : Component Config Limiter) (caller : TaskId),
      sc.Reachable → sc.world.limiters.get? id = some c →
      let slots := max c.config.maxConcurrency 1
      let bound := c.config.maxQueue
      let r := sc.world.askSlot id caller
      (bound ≠ 0 → c.state.queue.length ≤ bound) ∧
        ((∃ rejection, r.1 = .error rejection) ↔
          bound ≠ 0 ∧ c.state.active = slots ∧
            bound ≤ (Scene.inLine id c.state.granted sc.holds).card) ∧
        (∀ rejection, r.1 = .error rejection →
          rejection = .queueOverflow c.name slots bound bound ∧
            (r.2.events = sc.world.events ++
              if sc.world.recording then [.queueOverflow c.name slots bound bound] else []) ∧
            ∃ l, r.2.limiters.get? id = some { c with state := l } ∧
              l.active = c.state.active ∧ l.granted = c.state.granted ∧
              Queue.waiting l.queue = Queue.waiting c.state.queue) ∧
        (∀ ticket?, r.1 = .ok ticket? → r.2.events = sc.world.events) ∧
        (∀ ticket, .place id ticket ∈ sc.holds →
          ticket ∈ c.state.granted ∨ ticket ∈ Queue.waiting c.state.queue) ∧
        (∀ ticket w, sc.world.pickUpSlot? id ticket = some w → w.events = sc.world.events) ∧
        (sc.world.releaseSlot id).events = sc.world.events ∧
        ∀ ticket, (sc.world.leaveSlot id ticket).events = sc.world.events) ∧
    (∀ (s : Session) (id : ComponentId) (c : Component Config Limiter) (caller : TaskId),
      s.Reachable → s.world.limiters.get? id = some c →
      s.scene.Reachable ∧
        ((∃ rejection, (s.world.askSlot id caller).1 = .error rejection) ↔
          c.config.maxQueue ≠ 0 ∧ c.state.active = max c.config.maxConcurrency 1 ∧
            c.config.maxQueue ≤ (s.inLine id c.state.granted).length)) := by
  refine ⟨fun config moves w => ?_, fun sc id c caller hsc hc => ?_,
    fun s id c caller hs hc => ?_⟩
  · have hs := History.sound_run config moves
    have hbounded := History.bounded_run config moves
    refine ⟨hbounded, (rejected_iff ..).trans hs.full_iff, fun active queued hr => ?_⟩
    obtain ⟨hfull, rfl, rfl, hleft⟩ := ask_of_rejected hr
    obtain ⟨hactive, hwaiting⟩ := hfull.rejection_eq hbounded hs.active_le
    rw [hleft]
    exact ⟨hactive, hwaiting, rfl, rfl, Queue.waiting_purge _⟩
  · obtain ⟨moves, hshows⟩ := exists_history hsc hc
    have hs := History.sound_run c.config moves
    have hbounded := History.bounded_run c.config moves
    rw [hshows.state] at hbounded
    have hactive : c.state.active ≤ c.config.slots := hshows.state ▸ hs.active_le
    refine ⟨hbounded, (sc.world.exists_rejection_iff hc caller).trans (hshows.full_iff hs),
      fun rejection hr => World.askSlot_of_error hc hbounded hactive hr,
      fun ticket? hr => World.events_askSlot_of_ok hc hr, fun ticket => hshows.place_alive hs,
      fun ticket w hpick => ?_, ?_, fun ticket => ?_⟩
    · obtain ⟨_, _, -, -, rfl⟩ := World.pickUpSlot?_eq_some hpick
      rfl
    · obtain ⟨_, _, -, heq⟩ := sc.world.releaseSlot_eq id
      rw [heq]
    · obtain ⟨_, _, -, heq⟩ := sc.world.leaveSlot_eq id ticket
      rw [heq]
  · obtain ⟨-, hreach⟩ := hs.valid_scene
    obtain ⟨moves, hshows⟩ := exists_history hreach hc
    have hfull := hshows.full_iff (History.sound_run c.config moves)
    -- The callers that wait in the scene are tasks of the session.
    have hline : Scene.inLine id c.state.granted s.scene.holds = ↑(s.inLine id c.state.granted) :=
      s.inLine_holds id c.state.granted
    rw [hline, Multiset.coe_card] at hfull
    exact ⟨hreach, (s.world.exists_rejection_iff hc caller).trans hfull⟩

/-- A session in which the one slot of a limiter is kept and the one place in its line is
taken. -/
def lineTaken : Session :=
  (((Session.create {} true).perform ⟨toString, toString⟩ (.batch
    [.limiter "l" (some ⟨1, 1⟩) .own, .acquire "l" "a", .acquire "l" "b"])).2.turn 1).turn 2

/-- The same session after the caller in line was cancelled. -/
def lineLeft : Session := (lineTaken.perform ⟨toString, toString⟩ (.cancel "b")).2.turn 2

theorem lineTaken_reachable : lineTaken.Reachable :=
  have hstart := (Session.Reachable.create {} true).perform ⟨toString, toString⟩ (.batch
    [.limiter "l" (some ⟨1, 1⟩) .own, .acquire "l" "a", .acquire "l" "b"])
  (hstart.happens (.turn 1)).happens (.turn 2)

theorem lineLeft_reachable : lineLeft.Reachable :=
  (lineTaken_reachable.perform ⟨toString, toString⟩ (.cancel "b")).happens (.turn 2)

/-- The next caller is refused while the line is taken, and waits when the caller in line was
cancelled, although its place is still there. -/
theorem refused_iff_full_line_taken :
    (∃ c, lineTaken.Reachable ∧ lineTaken.world.limiters.get? 0 = some c ∧
      lineTaken.inLine 0 c.state.granted = [3] ∧
      (lineTaken.world.askSlot 0 9).1 = .error (.queueOverflow "l" 1 1 1) ∧
      (lineTaken.world.askSlot 0 9).2.events = [.queueOverflow "l" 1 1 1]) ∧
    ∃ c, lineLeft.Reachable ∧ lineLeft.world.limiters.get? 0 = some c ∧
      c.state.queue.length = 1 ∧ lineLeft.inLine 0 c.state.granted = [] ∧
      ¬ ∃ rejection, (lineLeft.world.askSlot 0 9).1 = .error rejection := by
  have htaken : (lineTaken.world.limiters.get? 0).map (fun c => (c.name, c.config, c.state)) =
      some ("l", ⟨1, 1⟩, ⟨1, [⟨3, 2, true⟩], []⟩) := by decide +kernel
  have hleft : (lineLeft.world.limiters.get? 0).map (fun c => (c.name, c.config, c.state)) =
      some ("l", ⟨1, 1⟩, ⟨1, [⟨3, 2, false⟩], []⟩) := by decide +kernel
  obtain ⟨⟨name, config, state⟩, hc, heq⟩ := Option.map_eq_some_iff.mp htaken
  obtain ⟨rfl, rfl, rfl⟩ : name = "l" ∧ config = ⟨1, 1⟩ ∧ state = ⟨1, [⟨3, 2, true⟩], []⟩ := by
    simpa using heq
  obtain ⟨⟨name, config, state⟩, hc', heq'⟩ := Option.map_eq_some_iff.mp hleft
  obtain ⟨rfl, rfl, rfl⟩ : name = "l" ∧ config = ⟨1, 1⟩ ∧ state = ⟨1, [⟨3, 2, false⟩], []⟩ := by
    simpa using heq'
  have hline : lineTaken.inLine 0 [] = [3] := by decide +kernel
  have hline' : lineLeft.inLine 0 [] = [] := by decide +kernel
  refine ⟨⟨_, lineTaken_reachable, hc, hline, ?_⟩, ⟨_, lineLeft_reachable, hc', rfl, hline', ?_⟩⟩
  · obtain ⟨hreach, hiff⟩ := refused_iff_full.2.2 lineTaken 0 _ 9 lineTaken_reachable hc
    obtain ⟨rejection, hr⟩ := hiff.mpr ⟨by decide, by decide, by rw [hline]; decide⟩
    obtain ⟨-, -, htold, -⟩ := refused_iff_full.2.1 lineTaken.scene 0 _ 9 hreach hc
    obtain ⟨rfl, hevents, -⟩ := htold rejection hr
    have hnone : lineTaken.world.events = [] := by decide +kernel
    have hrecording : lineTaken.world.recording = true := by decide +kernel
    refine ⟨hr, hevents.trans ?_⟩
    change lineTaken.world.events ++ (if lineTaken.world.recording then _ else _) = _
    rw [hnone, hrecording]
    rfl
  · obtain ⟨-, hiff⟩ := refused_iff_full.2.2 lineLeft 0 _ 9 lineLeft_reachable hc'
    intro hr
    have hfull := (hiff.mp hr).2.2
    rw [hline'] at hfull
    exact absurd hfull (by decide)

end Limiter

end Resilience
