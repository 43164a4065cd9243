import Resilience.Proofs.Directory
import Resilience.Proofs.Places
import Resilience.Proofs.Session.Orderly
import Resilience.Proofs.Session.Stirring

/-!
# Every session settles

The unrest of a session is the unrest of its world, with the lines that its tasks may yet join.
Every turn takes one off it (`Session.unrest_turn`): the task that has the turn leaves the run
queue, and pays for whatever it stirs up. No more callers are in lines than tasks hold places
(`Scene.Reachable.waiters_le`), so the turns that `settle` gives are enough, and no task is ready
afterwards (`Session.Reachable.settle_ready`).
-/

namespace Resilience

/-! ### What a turn leaves of a task -/

namespace Job

/-- How many times at most the task joins a line, after the one it stands in now. -/
def later : Job → Nat
  | call _ _ _ (some c) => c.later
  | call _ op _ none => op.waits
  | acquire _ _ none => 1
  | acquire _ _ (some _) => 0
  | take _ _ none => 1
  | take _ _ (some _) => 0
  | refill .. => 0
  | sweep .. => 0

/-- What a task is about, however far it has come. -/
def errand : Job → Job
  | call id op arg _ => call id op arg none
  | acquire id limiter _ => acquire id limiter none
  | take id bucket _ => take id bucket none
  | refill bucket _ => refill bucket none
  | sweep cache _ => sweep cache none

theorem abandon_stirs (job : Job) (w : World) : World.Stirs 0 w (job.abandon w) := by
  match job with
  | .call _ _ _ (some c) => exact c.abandon_stirs w
  | .acquire _ limiter (some ticket) => exact .leaveSlot limiter ticket w
  | .take _ bucket (some ticket) => exact .leaveToken bucket ticket w
  | .call _ _ _ none | .acquire _ _ none | .take _ _ none | .refill .. | .sweep .. => exact .refl w

end Job

namespace Session

variable {s s' : Session} {id : TaskId} {t : Task}

/-- What a turn does of a task that was taken out of the table: it takes no time, leaves all names
as they are, and the task is over or goes back with the same errand, asleep if it is to sleep, and
pays for what it stirred up. -/
structure Spends (id : TaskId) (job : Job) (s s' : Session) : Prop where
  stable : s.world.Stable s'.world
  taskNames : s'.taskNames = s.taskNames
  operations : s'.operations = s.operations
  buckets : s'.buckets = s.buckets
  caches : s'.caches = s.caches
  outcome : (s'.tasks = s.tasks ∧ s'.world.unrest ≤ s.world.unrest + job.later) ∨
    ∃ job', s'.tasks = s.tasks.set id ⟨job', false⟩ ∧ job'.errand = job.errand ∧
      s'.world.unrest + job'.later ≤ s.world.unrest + job.later ∧
      ∀ timer ∈ job'.timers, s.world.now < timer.due

namespace Spends

variable {n : Nat} {job job' : Job} {w : World}

/-- The task is over. -/
theorem ended (h : World.Stirs n s.world w) (hn : n ≤ job.later) :
    Spends id job s { s with world := w } :=
  ⟨h.toStable, rfl, rfl, rfl, rfl,
    .inl ⟨rfl, h.unrest.trans (Nat.add_le_add_left hn _)⟩⟩

/-- The task goes on. -/
theorem goesOn (h : World.Stirs n s.world w) (hn : n + job'.later ≤ job.later)
    (herrand : job'.errand = job.errand)
    (hsleeps : ∀ timer ∈ job'.timers, s.world.now < timer.due) :
    Spends id job s (s.continueTask id job' w) :=
  ⟨h.toStable, rfl, rfl, rfl, rfl, .inr ⟨job', rfl, herrand, by
    have hunrest := h.unrest
    simp only [continueTask]
    omega, hsleeps⟩⟩

end Spends

section Turns

variable (s) (id)

private theorem turnCall_spends (name : String) (op : Operation) (arg : Json)
    (call? : Option Call) :
    Spends id (.call name op arg call?) s (turnCall id name op arg call? s) := by
  have hrests : Rests (Job.call name op arg call?).later s.world
      (op.goOn id arg call? s.world) := by
    cases call? with
    | none => exact op.start_rests id arg s.world
    | some c => exact c.resume_rests id s.world
  rw [turnCall_eq]
  generalize op.goOn id arg call? s.world = polled at hrests
  obtain ⟨poll, w⟩ := polled
  have hunrest : w.unrest + poll.later ≤ s.world.unrest + _ := hrests.unrest
  have hover (entry : Entry) : World.Stirs (Job.call name op arg call?).later s.world
      (w.note entry) := by
    have hnote := World.Stirs.note entry w
    have hnoted := hnote.unrest
    exact ⟨hrests.toStable.trans hnote.toStable, by omega⟩
  cases poll with
  | pending c =>
    exact ⟨hrests.toStable, rfl, rfl, rfl, rfl,
      .inr ⟨.call name op arg (some c), rfl, rfl, hunrest, hrests.sleeps⟩⟩
  | ready outcome => exact .ended (hover _) (le_refl _)
  | panicked text => exact .ended (hover _) (le_refl _)

private theorem slotAcquired_spends (name : String) (limiter : ComponentId) {w : World} {job : Job}
    (h : World.Stirs 0 s.world w) : Spends id job s (s.slotAcquired name limiter w) := by
  have hnote := h.after (.note (.acquired name) w)
  unfold slotAcquired keepPermit
  dsimp only
  split
  · next old _ =>
    have hover := hnote.after (.releaseSlot old _)
    exact ⟨hover.toStable, rfl, rfl, rfl, rfl,
      .inl ⟨rfl, hover.unrest.trans (Nat.le_add_right ..)⟩⟩
  · exact ⟨hnote.toStable, rfl, rfl, rfl, rfl,
      .inl ⟨rfl, hnote.unrest.trans (Nat.le_add_right ..)⟩⟩

private theorem turnAcquire_spends (name : String) (limiter : ComponentId)
    (ticket? : Option Ticket) :
    Spends id (.acquire name limiter ticket?) s (turnAcquire id name limiter ticket? s) := by
  cases ticket? with
  | none =>
    have hask := World.Stirs.askSlot limiter id s.world
    simp only [turnAcquire]
    split
    · next heq =>
      rw [heq] at hask
      exact slotAcquired_spends s id name limiter hask
    · next heq =>
      rw [heq] at hask
      exact .goesOn hask (le_refl _) rfl fun _ ht => by cases ht
    · next heq =>
      rw [heq] at hask
      exact .ended (hask.after (.note ..)) (Nat.zero_le _)
  | some ticket =>
    simp only [turnAcquire]
    split
    · next hpick => exact slotAcquired_spends s id name limiter (.pickUpSlot hpick)
    · exact .goesOn (.refl _) (le_refl _) rfl fun _ ht => by cases ht

private theorem turnTake_spends (name : String) (bucket : ComponentId) (ticket? : Option Ticket) :
    Spends id (.take name bucket ticket?) s (turnTake id name bucket ticket? s) := by
  cases ticket? with
  | none =>
    have hask := World.Stirs.askToken bucket id s.world
    simp only [turnTake]
    split
    · next heq =>
      rw [heq] at hask
      exact .ended (hask.after (.note ..)) (Nat.zero_le _)
    · next heq =>
      rw [heq] at hask
      exact .goesOn hask (le_refl _) rfl fun _ ht => by cases ht
    · next heq =>
      rw [heq] at hask
      exact .ended (hask.after (.note ..)) (Nat.zero_le _)
  | some ticket =>
    simp only [turnTake]
    split
    · next hpick =>
      have hpicked := World.Stirs.pickUpToken hpick
      exact .ended (hpicked.after (.note ..)) (Nat.zero_le _)
    · exact .ended (.note ..) (Nat.zero_le _)
    · exact .goesOn (.refl _) (le_refl _) rfl fun _ ht => by cases ht

private theorem sleepTick_spends {w : World} (tick : Duration) {job : Job}
    {again : Option Timer → Job} (h : World.Stirs 0 s.world w)
    (herrand : ∀ timer?, (again timer?).errand = job.errand)
    (hlater : ∀ timer?, (again timer?).later = 0)
    (htimers : ∀ timer?, (again timer?).timers = timer?.toList) :
    Spends id job s ({ s with world := w }.sleepTick id tick again) := by
  have hsleep := h.after (.sleep tick w)
  unfold sleepTick
  cases heq : w.sleep tick with
  | mk timer? w' =>
    rw [heq] at hsleep
    refine .goesOn hsleep (by simp [hlater]) (herrand timer?) fun timer ht => ?_
    rw [htimers] at ht
    cases timer? with
    | none => cases ht
    | some timer' =>
      rw [List.mem_singleton.mp ht, ← h.now]
      exact World.lt_due_of_sleep heq

private theorem turnRefill_spends (bucket : ComponentId) (timer? : Option Timer) :
    Spends id (.refill bucket timer?) s (turnRefill id bucket timer? s) := by
  unfold turnRefill
  split
  · exact .ended (.refl _) (le_refl _)
  · exact sleepTick_spends s id _ (.refl _) (fun _ => rfl) (fun _ => rfl) fun _ => rfl
  · split
    · exact .ended (.refl _) (le_refl _)
    · split
      · exact sleepTick_spends s id _ (.refillBucket ..) (fun _ => rfl) (fun _ => rfl) fun _ => rfl
      · next timer _ helapsed =>
        refine .goesOn (.refl _) (le_refl _) rfl fun t ht => ?_
        rw [List.mem_singleton.mp ht]
        simpa [World.elapsed] using helapsed

private theorem turnSweep_spends (cache : ComponentId) (timer? : Option Timer) :
    Spends id (.sweep cache timer?) s (turnSweep id cache timer? s) := by
  unfold turnSweep
  split
  · exact .ended (.refl _) (le_refl _)
  · exact sleepTick_spends s id _ (.refl _) (fun _ => rfl) (fun _ => rfl) fun _ => rfl
  · split
    · exact .ended (.refl _) (le_refl _)
    · split
      · exact sleepTick_spends s id _ (.sweepCache ..) (fun _ => rfl) (fun _ => rfl) fun _ => rfl
      · next timer _ helapsed =>
        refine .goesOn (.refl _) (le_refl _) rfl fun t ht => ?_
        rw [List.mem_singleton.mp ht]
        simpa [World.elapsed] using helapsed

/-- **What a turn leaves of a task**, whichever task has it. -/
theorem turn_spends {t : Task} (ht : s.tasks.get? id = some t) :
    Spends id t.job { s with tasks := s.tasks.erase id } (s.turn id) := by
  unfold turn
  rw [ht]
  dsimp only
  split
  · exact .ended (t.job.abandon_stirs _) (Nat.zero_le _)
  · cases t.job with
    | call name op arg call? => exact turnCall_spends _ id name op arg call?
    | acquire name limiter ticket? => exact turnAcquire_spends _ id name limiter ticket?
    | take name bucket ticket? => exact turnTake_spends _ id name bucket ticket?
    | refill bucket timer? => exact turnRefill_spends _ id bucket timer?
    | sweep cache timer? => exact turnSweep_spends _ id cache timer?

end Turns

/-! ### Every turn takes one off the unrest -/

/-- How many turns may come of a session by itself. -/
def unrest (s : Session) : Nat := s.world.unrest + s.tasks.total (·.job.later)

/-- **Every turn takes one off the unrest**, whoever has it. -/
theorem unrest_turn {rest : List TaskId} (h : s.world.ready = id :: rest) :
    (Session.turn id (s.withReady rest)).unrest + 1 ≤ s.unrest := by
  have hpop : (s.withReady rest).world.unrest + 1 = s.world.unrest := by
    simp only [World.unrest, withReady, h, List.length_cons]
    change rest.length + s.world.waiters + 1 = _
    omega
  cases ht : s.tasks.get? id with
  | none =>
    have hnot : Session.turn id (s.withReady rest) = s.withReady rest := by
      simp only [Session.turn, withReady, ht]
    rw [hnot, unrest, unrest]
    exact (Nat.add_right_comm ..).trans_le (Nat.add_le_add_right hpop.le _)
  | some t =>
    have herase := Table.total_erase_add_le (fun t : Task => t.job.later) id s.tasks
    have hspends := turn_spends (s.withReady rest) id (t := t) ht
    generalize Session.turn id (s.withReady rest) = s' at hspends
    rw [ht] at herase
    simp only [Option.elim_some] at herase
    rw [unrest, unrest]
    -- The task is gone, or it stays with a job that may stir up less by what it stirred up already.
    rcases hspends.outcome with ⟨htasks, hunrest⟩ | ⟨job', htasks, -, hunrest, -⟩
    · rw [htasks]
      change s'.world.unrest ≤ (s.withReady rest).world.unrest + t.job.later at hunrest
      change s'.world.unrest + (s.tasks.erase id).total (·.job.later) + 1 ≤ _
      omega
    · have hset := Table.total_set (fun t : Task => t.job.later) id ⟨job', false⟩
        (s.tasks.erase id)
      rw [Table.get?_erase, if_pos rfl] at hset
      rw [htasks]
      change s'.world.unrest + job'.later ≤
        (s.withReady rest).world.unrest + t.job.later at hunrest
      change s'.world.unrest + ((s.tasks.erase id).set id ⟨job', false⟩).total (·.job.later) + 1 ≤ _
      simp only [Option.elim_none] at hset
      omega

theorem turns_ready {n : Nat} (h : s.unrest ≤ n) : (turns n s).world.ready = [] := by
  induction n generalizing s with
  | zero =>
    have hlength : s.world.ready.length ≤ s.unrest :=
      (Nat.le_add_right ..).trans (Nat.le_add_right ..)
    exact List.eq_nil_of_length_eq_zero (Nat.eq_zero_of_le_zero (hlength.trans h))
  | succ n ih =>
    cases hready : s.world.ready with
    | nil => rw [turns_of_idle hready, hready]
    | cons id rest =>
      rw [turns_of_ready hready]
      have hturn := unrest_turn hready
      exact ih (by omega)

end Session

/-! ### Whoever is in a line holds a place -/

namespace Hold

/-- How many places in lines are among these holds. -/
def placesIn (H : Multiset Hold) : Nat := H.countP fun x => x.ticket?.isSome

theorem placesIn_cons (x : Hold) (H : Multiset Hold) :
    placesIn (x ::ₘ H) = placesIn H + if x.ticket?.isSome then 1 else 0 := Multiset.countP_cons ..

theorem placesIn_add (H H' : Multiset Hold) : placesIn (H + H') = placesIn H + placesIn H' :=
  Multiset.countP_add ..

end Hold

open Hold in
theorem Call.later_add_placesIn (c : Call) : c.later + placesIn c.holds = c.waits := by
  induction c with
  | working | pausing => rfl
  | awaitingSlot limiter ticket inner arg =>
    exact congrArg (inner.waits + ·) (placesIn_cons (.place limiter ticket) 0)
  | awaitingToken bucket ticket inner arg =>
    exact congrArg (inner.waits + ·) (placesIn_cons (.tokenPlace bucket ticket) 0)
  | guarded | holdingSlot =>
    next ih =>
      rw [holds, placesIn_cons]
      exact ih
  | withFallback breaker probe fallback arg inner ih =>
    rw [holds, placesIn_cons, later, waits, ← ih]
    exact Nat.add_right_comm ..
  | timed _ _ _ inner ih | filling _ _ _ inner ih => exact ih
  | attempting policy left delay op arg inner ih =>
    rw [holds, later, waits, ← ih]
    exact Nat.add_right_comm ..

open Hold in
theorem Job.later_add_placesIn (job : Job) : job.later + placesIn job.holds ≤ job.waits := by
  match job with
  | .call _ _ _ (some c) => exact c.later_add_placesIn.le
  | .call _ _ _ none | .refill .. | .sweep .. | .acquire _ _ none | .take _ _ none =>
    exact le_refl _
  | .acquire _ limiter (some ticket) => exact (placesIn_cons (.place limiter ticket) 0).le
  | .take _ bucket (some ticket) => exact (placesIn_cons (.tokenPlace bucket ticket) 0).le

/-- The places of those who wait in lines. -/
def World.lined (w : World) : List Hold :=
  (w.limiters.flatMap fun p => (Queue.waiting p.2.state.queue).map (Hold.place p.1)) ++
    w.buckets.flatMap fun p => (Queue.waiting p.2.state.queue).map (Hold.tokenPlace p.1)

theorem Table.total_eq_length_flatMap {κ α β : Type} (f : α → Nat) {g : κ × α → List β}
    (h : ∀ p, (g p).length = f p.2) (t : Table κ α) : total f t = (t.flatMap g).length := by
  induction t with
  | nil => rfl
  | cons p rest ih => simp only [total, List.flatMap_cons, List.length_append, h, ih]

theorem World.waiters_eq (w : World) : w.waiters = w.lined.length := by
  have hlimiters := Table.total_eq_length_flatMap
    (fun c : Component Limiter.Config Limiter => (Queue.waiting c.state.queue).length)
    (fun p => List.length_map (Hold.place p.1)) w.limiters
  have hbuckets := Table.total_eq_length_flatMap
    (fun c : Component Bucket.Config Bucket => (Queue.waiting c.state.queue).length)
    (fun p => List.length_map (Hold.tokenPlace p.1)) w.buckets
  rw [waiters, lined, List.length_append, hlimiters, hbuckets]

namespace Scene.Reachable

variable {sc : Scene}

/-- Whoever waits in a line stands there. -/
theorem stands_of_mem_lined (h : sc.Reachable) {x : Hold} (hx : x ∈ sc.world.lined) :
    x.Stands sc.world := by
  have hdirectory := h.directory
  rcases List.mem_append.mp hx with hx | hx
  · obtain ⟨⟨id, c⟩, hc, hx⟩ := List.mem_flatMap.mp hx
    obtain ⟨ticket, hticket, rfl⟩ := List.mem_map.mp hx
    exact ⟨c, (Table.get?_eq_some_iff hdirectory.limiters).mpr hc, .inl hticket⟩
  · obtain ⟨⟨id, c⟩, hc, hx⟩ := List.mem_flatMap.mp hx
    obtain ⟨ticket, hticket, rfl⟩ := List.mem_map.mp hx
    exact ⟨c, (Table.get?_eq_some_iff hdirectory.buckets).mpr hc, List.mem_append_left _ hticket⟩

theorem nodup_waiting_limiter (h : sc.Reachable) {id : ComponentId}
    {c : Component Limiter.Config Limiter} (hc : sc.world.limiters.get? id = some c) :
    (Queue.waiting c.state.queue).Nodup := by
  obtain ⟨moves, hshows⟩ := Limiter.exists_history h hc
  rw [← hshows.state]
  exact (Limiter.History.sound_run c.config moves).nodup_waiting

theorem nodup_waiting_bucket (h : sc.Reachable) {id : ComponentId}
    {c : Component Bucket.Config Bucket} (hc : sc.world.buckets.get? id = some c) :
    (Queue.waiting c.state.queue).Nodup := by
  obtain ⟨created, moves, hshows⟩ := Bucket.Register.exists_register h hc
  rw [← hshows.state]
  exact (Bucket.Register.sound_run c.config created moves).listed.nodup_line

/-- Nobody stands in line twice. -/
theorem nodup_lined (h : sc.Reachable) : sc.world.lined.Nodup := by
  have hdirectory := h.directory
  have hflat {α : Type} {t : Table ComponentId α} (hkeys : t.keys.Nodup) {line : α → List Ticket}
      {hold : ComponentId → Ticket → Hold}
      (hinj : ∀ {id id' ticket ticket'}, hold id ticket = hold id' ticket' →
        id = id' ∧ ticket = ticket')
      (hline : ∀ {id a}, t.get? id = some a → (line a).Nodup) :
      (t.flatMap fun p => (line p.2).map (hold p.1)).Nodup := by
    rw [List.nodup_flatMap]
    refine ⟨fun ⟨id, a⟩ hmem => ?_, ?_⟩
    · have hget := (Table.get?_eq_some_iff hkeys).mpr hmem
      exact (hline hget).map fun _ _ heq => (hinj heq).2
    · refine (List.pairwise_map.mp hkeys).imp fun hne x hx hx' => ?_
      obtain ⟨ticket, -, rfl⟩ := List.mem_map.mp hx
      obtain ⟨ticket', -, heq⟩ := List.mem_map.mp hx'
      exact hne (hinj heq).1.symm
  refine List.Nodup.append
    (hflat hdirectory.limiters (fun heq => Hold.place.inj heq) fun hc => h.nodup_waiting_limiter hc)
    (hflat hdirectory.buckets (fun heq => Hold.tokenPlace.inj heq)
      fun hc => h.nodup_waiting_bucket hc) fun x hx hx' => ?_
  obtain ⟨_, -, hx⟩ := List.mem_flatMap.mp hx
  obtain ⟨_, -, rfl⟩ := List.mem_map.mp hx
  obtain ⟨_, -, hx'⟩ := List.mem_flatMap.mp hx'
  obtain ⟨_, -, heq⟩ := List.mem_map.mp hx'
  cases heq

/-- **No more callers are in lines than places are held.** -/
theorem waiters_le (h : sc.Reachable) : sc.world.waiters ≤ Hold.placesIn sc.holds := by
  have hle : (sc.world.lined : Multiset Hold) ≤ sc.holds :=
    (Multiset.le_iff_subset (Multiset.coe_nodup.mpr h.nodup_lined)).mpr fun x hx =>
      (h.stands_of_mem_lined hx).mem_holds h
  have hplaces : Hold.placesIn sc.world.lined = sc.world.lined.length := by
    rw [Hold.placesIn, Multiset.coe_countP, List.countP_eq_length]
    intro x hx
    have hstands := h.stands_of_mem_lined hx
    cases x with
    | place | tokenPlace => rfl
    | admission | slot => exact hstands.elim
  rw [World.waiters_eq, ← hplaces]
  exact Multiset.countP_le_of_le _ hle

end Scene.Reachable

namespace Session

variable {s : Session}

/-- Each task may yet join as many lines as it has left beside the place that it holds. -/
theorem later_add_placesIn_le (tasks : Table TaskId Task) :
    tasks.total (·.job.later) + Hold.placesIn (tasksHold tasks) ≤
      tasks.total (·.job.waits) := by
  induction tasks with
  | nil => exact le_refl _
  | cons p rest ih =>
    obtain ⟨id, t⟩ := p
    have hfirst := t.job.later_add_placesIn
    have hsum : tasksHold ((id, t) :: rest) = t.job.holds + tasksHold rest := List.sum_cons
    rw [hsum, Hold.placesIn_add]
    simp only [Table.total]
    omega

theorem placesIn_permitsHold (permits : Table String ComponentId) :
    Hold.placesIn (permitsHold permits) = 0 := by
  rw [Hold.placesIn, Multiset.countP_eq_zero]
  intro x hx
  obtain ⟨p, -, rfl⟩ := List.mem_map.mp (Multiset.mem_coe.mp hx)
  exact Bool.false_ne_true

theorem Reachable.unrest_le (h : s.Reachable) : s.unrest ≤ s.turnsLeft := by
  have hwaiters := h.valid_scene.2.waiters_le
  have htasks := later_add_placesIn_le s.tasks
  have hholds : Hold.placesIn s.scene.holds = Hold.placesIn (tasksHold s.tasks) := by
    rw [scene, holds, Hold.placesIn_add, placesIn_permitsHold, Nat.add_zero]
  rw [hholds] at hwaiters
  change s.world.waiters ≤ _ at hwaiters
  simp only [unrest, World.unrest, turnsLeft]
  omega

/-- **Every session settles**: no task is ready afterwards. -/
theorem Reachable.settle_ready (h : s.Reachable) : s.settle.world.ready = [] :=
  turns_ready h.unrest_le

end Session

end Resilience
