import Resilience.Session.Schedule
import Resilience.Proofs.Execution
import Mathlib.Algebra.Order.Group.Multiset
import Mathlib.Algebra.BigOperators.Group.List.Basic

/-!
# Turns act in scenes

The scene of a session is its world with what its tasks and its kept slots hold. Everything that
a session does is a sequence of acts between scenes: `Runs A s s'` says so of a session `s` beside
which `A` is held, by a task that is having its turn and is not in the table.

What makes that true is `Valid`: tasks, operations and names only speak of components that the
world has. It holds of a new session and after every turn.

Letting time pass is nothing but turns, wakings and the passing of the clock: `advance_induct` is
the induction over it, for whatever each of them keeps.
-/

namespace Resilience

/-- What a task holds. -/
def Job.holds : Job → Multiset Hold
  | call _ _ _ (some c) => c.holds
  | acquire _ limiter (some ticket) => {.place limiter ticket}
  | take _ bucket (some ticket) => {.tokenPlace bucket ticket}
  | _ => 0

/-- The world has the components that a task needs. -/
def Job.Fits (w : World) : Job → Prop
  | call _ op _ none => op.Fits w
  | call _ _ _ (some c) => c.Fits w
  | acquire _ limiter _ => w.limiters.has limiter = true
  | take _ bucket _ => w.buckets.has bucket = true
  | _ => True

theorem Job.Fits.grow {w w' : World} (h : w.Grows w') {job : Job} (hjob : job.Fits w) :
    job.Fits w' := by
  match job with
  | .call _ op _ none => exact Operation.Fits.grow h hjob
  | .call _ _ _ (some c) => exact Call.Fits.grow h hjob
  | .acquire _ limiter _ => exact h.limiters hjob
  | .take _ bucket _ => exact h.buckets hjob
  | .refill .. | .sweep .. => trivial

namespace Session

/-! ### What a session holds -/

/-- What tasks hold. -/
def tasksHold (tasks : Table TaskId Task) : Multiset Hold :=
  (tasks.map fun p => p.2.job.holds).sum

/-- What the kept slots are. -/
def permitsHold (permits : Table String ComponentId) : Multiset Hold :=
  (permits.map fun p => Hold.slot p.2 : List Hold)

/-- All that is held in a session. -/
def holds (s : Session) : Multiset Hold := tasksHold s.tasks + permitsHold s.permits

/-- The world with all that is held in it. -/
def scene (s : Session) : Scene := ⟨s.world, s.holds⟩

theorem tasksHold_of_get? {tasks : Table TaskId Task} (h : tasks.keys.Nodup) {id : TaskId}
    {task : Task} (ht : tasks.get? id = some task) :
    tasksHold tasks = task.job.holds + tasksHold (tasks.erase id) := by
  rw [tasksHold, ((Table.perm_of_get? h ht).map _).sum_eq, List.map_cons, List.sum_cons]
  rfl

theorem tasksHold_set {tasks : Table TaskId Task} {id : TaskId} (h : id ∉ tasks.keys)
    (task : Task) : tasksHold (tasks.set id task) = task.job.holds + tasksHold tasks := by
  rw [tasksHold, Table.set_of_not_mem h, List.map_append, List.sum_append, add_comm]
  simp [tasksHold]

theorem permitsHold_of_get? {permits : Table String ComponentId} (h : permits.keys.Nodup)
    {name : String} {id : ComponentId} (hid : permits.get? name = some id) :
    permitsHold permits = .slot id ::ₘ permitsHold (permits.erase name) :=
  Multiset.coe_eq_coe.mpr ((Table.perm_of_get? h hid).map _)

theorem permitsHold_set {permits : Table String ComponentId} (h : permits.keys.Nodup)
    (name : String) (id : ComponentId) :
    permitsHold (permits.set name id) = .slot id ::ₘ permitsHold (permits.erase name) :=
  Multiset.coe_eq_coe.mpr ((Table.perm_set h name id).map _)

/-! ### Valid sessions -/

/-- Tasks, operations and names only speak of components that the world has. -/
structure Valid (s : Session) : Prop where
  tasks_nodup : s.tasks.keys.Nodup
  permits_nodup : s.permits.keys.Nodup
  tasks_lt {id : TaskId} : id ∈ s.tasks.keys → id < s.world.serial
  tasks_fit {id : TaskId} {task : Task} : s.tasks.get? id = some task → task.job.Fits s.world
  operations_fit {name : String} {op : Operation} :
    s.operations.get? name = some op → op.Fits s.world
  limiters_known {name : String} {id : ComponentId} :
    s.limiters.get? name = some id → s.world.limiters.has id = true
  buckets_known {name : String} {id : ComponentId} :
    s.buckets.get? name = some id → s.world.buckets.has id = true
  limiterNames_known {name : String} {id : ComponentId} :
    s.world.limiterNames.get? name = some id → s.world.limiters.has id = true
  bucketNames_known {name : String} {id : ComponentId} :
    s.world.bucketNames.get? name = some id → s.world.buckets.has id = true

theorem valid_create (settings : Settings) (recording : Bool) :
    (create settings recording).Valid where
  tasks_nodup := .nil
  permits_nodup := .nil
  tasks_lt h := by simp [create, Table.keys] at h
  tasks_fit h := by cases h
  operations_fit h := by cases h
  limiters_known h := by cases h
  buckets_known h := by cases h
  limiterNames_known h := by cases h
  bucketNames_known h := by cases h

theorem Valid.grow {s : Session} (hs : s.Valid) {w : World} (hw : s.world.Grows w) :
    { s with world := w }.Valid where
  tasks_nodup := hs.tasks_nodup
  permits_nodup := hs.permits_nodup
  tasks_lt h := (hs.tasks_lt h).trans_le hw.serial
  tasks_fit h := (hs.tasks_fit h).grow hw
  operations_fit h := (hs.operations_fit h).grow hw
  limiters_known h := hw.limiters (hs.limiters_known h)
  buckets_known h := hw.buckets (hs.buckets_known h)
  limiterNames_known h := (hw.limiterNames h).elim
    (fun h => hw.limiters (hs.limiterNames_known h)) id
  bucketNames_known h := (hw.bucketNames h).elim
    (fun h => hw.buckets (hs.bucketNames_known h)) id

/-- A task is put into the table. -/
theorem Valid.setTask {s : Session} (hs : s.Valid) {id : TaskId} {task : Task}
    (hid : id < s.world.serial) (hfit : task.job.Fits s.world) :
    { s with tasks := s.tasks.set id task }.Valid :=
  { hs with
    tasks_nodup := Table.nodup_keys_set hs.tasks_nodup id task
    tasks_lt := fun {other} h => by
      rw [← Table.has_iff_mem_keys, Table.has, Table.get?_set] at h
      split at h
      · next heq => exact heq ▸ hid
      · exact hs.tasks_lt (Table.has_iff_mem_keys.mp h)
    tasks_fit := fun {other t} h => by
      rw [Table.get?_set] at h
      split at h
      · exact Option.some.inj h ▸ hfit
      · exact hs.tasks_fit h }

/-- A task is taken out of the table. -/
theorem Valid.eraseTask {s : Session} (hs : s.Valid) (id : TaskId) :
    { s with tasks := s.tasks.erase id }.Valid :=
  { hs with
    tasks_nodup := Table.nodup_keys_erase hs.tasks_nodup id
    tasks_lt := fun h => hs.tasks_lt (List.mem_of_mem_filter (Table.keys_erase id s.tasks ▸ h))
    tasks_fit := fun {other t} h => by
      rw [Table.get?_erase] at h
      split at h
      · cases h
      · exact hs.tasks_fit h }

/-! ### Runs of a session -/

/-- The second session is valid, and acts lead to it from the first one beside which `A` is
held. -/
structure Runs (A : Multiset Hold) (s s' : Session) : Prop where
  valid : s'.Valid
  steps : Steps ⟨s.world, A + s.holds⟩ s'.scene

namespace Runs

variable {A B : Multiset Hold} {s s' s'' : Session}

theorem refl (hs : s.Valid) : Runs 0 s s := ⟨hs, by rw [zero_add]; exact .refl⟩

/-- Where nothing is held beside a session, acts lead from scene to scene. -/
theorem scenes (h : Runs 0 s s') : Steps s.scene s'.scene := by
  have hsteps := h.steps
  rwa [zero_add] at hsteps

theorem trans (h : Runs A s s') (h' : Runs 0 s' s'') : Runs A s s'' :=
  ⟨h'.valid, h.steps.trans h'.scenes⟩

/-- Only the world changes. -/
theorem world (hs : s.Valid) {w : World} (h : ∀ H, Steps ⟨s.world, A + H⟩ ⟨w, H⟩) :
    Runs A s { s with world := w } := ⟨hs.grow (h 0).grows, h s.holds⟩

/-- Only the world changes, by one act that needs no hold. -/
theorem act (hs : s.Valid) {w : World} (h : ∀ H, Act ⟨s.world, H⟩ ⟨w, H⟩) :
    Runs 0 s { s with world := w } :=
  world hs fun H => by rw [zero_add]; exact .single (h H)

/-- A task that had its turn goes back into the table. -/
theorem continueTask (hs : s.Valid) {id : TaskId} (hid : id ∉ s.tasks.keys)
    (hlt : id < s.world.serial) {job : Job} {w : World} (hfit : job.Fits w)
    (h : ∀ H, Steps ⟨s.world, A + H⟩ ⟨w, job.holds + H⟩) :
    Runs A s (s.continueTask id job w) := by
  have hgrows : s.world.Grows w := (h 0).grows
  refine ⟨(hs.grow hgrows).setTask (hlt.trans_le hgrows.serial) hfit, ?_⟩
  have hholds : (s.continueTask id job w).holds = job.holds + s.holds := by
    change tasksHold (s.tasks.set id ⟨job, false⟩) + permitsHold s.permits = _
    rw [tasksHold_set hid, add_assoc]
    rfl
  rw [scene, hholds]
  exact h s.holds

end Runs

section Turns

variable {s : Session} {task : TaskId}

/-! ### Slots that are kept -/

/-- A slot that was acquired is kept; one that was kept under the same name comes free. -/
theorem keepPermit_runs (hs : s.Valid) (name : String) (limiter : ComponentId) :
    Runs {.slot limiter} s (s.keepPermit name limiter) := by
  have hnodup := Table.nodup_keys_set hs.permits_nodup name limiter
  unfold keepPermit
  -- A permit that had the name before is dropped, which gives its slot back.
  cases hold : s.permits.get? name with
  | none =>
    refine ⟨{ hs with permits_nodup := hnodup }, ?_⟩
    have herase : s.permits.erase name = s.permits :=
      Table.erase_of_not_mem ((Table.get?_eq_none_iff name s.permits).mp hold)
    have hholds : tasksHold s.tasks + permitsHold (s.permits.set name limiter) =
        {.slot limiter} + s.holds := by
      rw [permitsHold_set hs.permits_nodup, herase, Multiset.add_cons, Multiset.singleton_add]
      rfl
    simp only [scene, holds, hholds]
    exact .refl
  | some old =>
    have hbefore : {.slot limiter} + s.holds =
        .slot old ::ₘ (tasksHold s.tasks + permitsHold (s.permits.set name limiter)) := by
      rw [permitsHold_set hs.permits_nodup, holds, permitsHold_of_get? hs.permits_nodup hold,
        Multiset.add_cons, Multiset.add_cons, Multiset.add_cons, Multiset.singleton_add,
        Multiset.cons_swap]
    have hact : Act ⟨s.world, {.slot limiter} + s.holds⟩ ⟨s.world.releaseSlot old,
        tasksHold s.tasks + permitsHold (s.permits.set name limiter)⟩ := by
      rw [hbefore]
      exact .releaseSlot old
    exact ⟨{ hs.grow hact.grows with permits_nodup := hnodup }, .single hact⟩

/-- A slot that is kept is given back. -/
theorem releasePermit_runs (hs : s.Valid) (name : String) :
    Runs 0 s (s.releasePermit name).2 := by
  unfold releasePermit
  cases hold : s.permits.get? name with
  | none => exact .refl hs
  | some limiter =>
    have hact : Act ⟨s.world, 0 + s.holds⟩ ⟨s.world.releaseSlot limiter,
        tasksHold s.tasks + permitsHold (s.permits.erase name)⟩ := by
      rw [zero_add, holds, permitsHold_of_get? hs.permits_nodup hold, Multiset.add_cons]
      exact .releaseSlot limiter
    exact ⟨{ hs.grow hact.grows with
      permits_nodup := Table.nodup_keys_erase hs.permits_nodup name }, .single hact⟩

/-! ### Turns -/

/-- A task ends and leaves a word in the log. -/
private theorem note_runs (hs : s.Valid) {A : Multiset Hold} {w : World} (entry : Entry)
    (h : ∀ H, Steps ⟨s.world, A + H⟩ ⟨w, H⟩) : Runs A s { s with world := w.note entry } :=
  .world hs fun H => (h H).tail (.idle (World.note_idles entry w))

theorem turnCall_runs (hs : s.Valid) (htask : task ∉ s.tasks.keys) (hlt : task < s.world.serial)
    (name : String) (op : Operation) (arg : Json) {call? : Option Call}
    (hfit : (Job.call name op arg call?).Fits s.world) :
    Runs (Job.call name op arg call?).holds s (s.turnCall task name op arg call?) := by
  unfold turnCall
  cases call? with
  | none =>
    have hr := op.start_leads task arg hfit
    dsimp only
    split
    · next heq => exact .continueTask hs htask hlt (heq ▸ hr).fits (heq ▸ hr).steps
    · next heq => exact note_runs hs _ ((heq ▸ hr).steps_over rfl)
    · next heq => exact note_runs hs _ ((heq ▸ hr).steps_over rfl)
  | some c =>
    have hr := c.resume_leads task hfit
    dsimp only
    split
    · next heq => exact .continueTask hs htask hlt (heq ▸ hr).fits (heq ▸ hr).steps
    · next heq => exact note_runs hs _ ((heq ▸ hr).steps_over rfl)
    · next heq => exact note_runs hs _ ((heq ▸ hr).steps_over rfl)

theorem slotAcquired_runs (hs : s.Valid) {A : Multiset Hold} {w : World} (name : String)
    (limiter : ComponentId) (h : ∀ H, Steps ⟨s.world, A + H⟩ ⟨w, .slot limiter ::ₘ H⟩) :
    Runs A s (s.slotAcquired name limiter w) := by
  have hnote (H : Multiset Hold) : Steps ⟨s.world, A + H⟩
      ⟨w.note (.acquired name), .slot limiter ::ₘ H⟩ :=
    (h H).tail (.idle (World.note_idles (.acquired name) w))
  have hkeep := keepPermit_runs (hs.grow (Steps.grows (hnote 0))) name limiter
  exact ⟨hkeep.valid, (hnote s.holds).trans hkeep.steps⟩

theorem turnAcquire_runs (hs : s.Valid) (htask : task ∉ s.tasks.keys)
    (hlt : task < s.world.serial) (name : String) {limiter : ComponentId} (ticket? : Option Ticket)
    (hfit : s.world.limiters.has limiter = true) :
    Runs (Job.acquire name limiter ticket?).holds s
      (s.turnAcquire task name limiter ticket?) := by
  cases ticket? with
  | none =>
    have hask {H : Multiset Hold} := Act.askSlot (H := H) task hfit
    simp only [turnAcquire]
    split
    · next hanswer =>
      rw [hanswer] at hask
      exact slotAcquired_runs hs name limiter (Steps.of_act fun H => hask)
    · next hanswer =>
      rw [hanswer] at hask
      exact .continueTask hs htask hlt ((hask (H := 0)).grows.limiters hfit)
        (Steps.of_act fun H => hask)
    · next hanswer =>
      rw [hanswer] at hask
      exact note_runs hs _ (Steps.of_act_zero fun H => hask)
  | some ticket =>
    simp only [turnAcquire]
    split
    · next hpick =>
      exact slotAcquired_runs hs name limiter fun H => .single (.pickUpSlot hpick)
    · exact .continueTask hs htask hlt hfit fun H => .refl

theorem turnTake_runs (hs : s.Valid) (htask : task ∉ s.tasks.keys)
    (hlt : task < s.world.serial) (name : String) {bucket : ComponentId} (ticket? : Option Ticket)
    (hfit : s.world.buckets.has bucket = true) :
    Runs (Job.take name bucket ticket?).holds s (s.turnTake task name bucket ticket?) := by
  cases ticket? with
  | none =>
    have hask {H : Multiset Hold} := Act.askToken (H := H) task hfit
    simp only [turnTake]
    split
    · next hanswer =>
      rw [hanswer] at hask
      exact note_runs hs _ (Steps.of_act_zero fun H => hask)
    · next hanswer =>
      rw [hanswer] at hask
      exact .continueTask hs htask hlt ((hask (H := 0)).grows.buckets hfit)
        (Steps.of_act fun H => hask)
    · next hanswer =>
      rw [hanswer] at hask
      exact note_runs hs _ (Steps.of_act_zero fun H => hask)
  | some ticket =>
    simp only [turnTake]
    split
    · next hpick => exact note_runs hs _ fun H => .single (.pickUpToken hpick)
    · next hpick => exact note_runs hs _ fun H => .single (.refuseToken hpick)
    · exact .continueTask hs htask hlt hfit fun H => .refl

/-- Background work holds nothing and may sleep. -/
theorem sleepTick_runs (hs : s.Valid) (htask : task ∉ s.tasks.keys) (hlt : task < s.world.serial)
    (tick : Duration) {job : Option Timer → Job} (hfit : ∀ timer? w, (job timer?).Fits w)
    (hholds : ∀ timer?, (job timer?).holds = 0) : Runs 0 s (s.sleepTick task tick job) := by
  have hidles := World.sleep_idles tick s.world
  unfold sleepTick
  cases hsleep : s.world.sleep tick with
  | mk timer? w =>
    rw [hsleep] at hidles
    exact .continueTask hs htask hlt (hfit timer? w) fun H => by
      rw [hholds, zero_add]
      exact .single (.idle hidles)

theorem turnRefill_runs (hs : s.Valid) (htask : task ∉ s.tasks.keys) (hlt : task < s.world.serial)
    (bucket : ComponentId) (timer? : Option Timer) :
    Runs 0 s (s.turnRefill task bucket timer?) := by
  unfold turnRefill
  split
  · exact .refl hs
  · exact sleepTick_runs hs htask hlt _ (fun _ _ => trivial) fun _ => rfl
  · split
    · exact .refl hs
    · split
      · have hrefill : Runs 0 s { s with world := (s.world.refillBucket bucket).2 } :=
          .act hs fun H => .refillBucket bucket
        exact hrefill.trans (sleepTick_runs hrefill.valid htask
          (hlt.trans_le hrefill.steps.grows.serial) _ (fun _ _ => trivial) fun _ => rfl)
      · exact .continueTask hs htask hlt trivial fun H => .refl

theorem turnSweep_runs (hs : s.Valid) (htask : task ∉ s.tasks.keys) (hlt : task < s.world.serial)
    (cache : ComponentId) (timer? : Option Timer) :
    Runs 0 s (s.turnSweep task cache timer?) := by
  unfold turnSweep
  split
  · exact .refl hs
  · exact sleepTick_runs hs htask hlt _ (fun _ _ => trivial) fun _ => rfl
  · split
    · exact .refl hs
    · split
      · have hsweep : Runs 0 s { s with world := s.world.sweepCache cache } :=
          .act hs fun H => .sweepCache cache
        exact hsweep.trans (sleepTick_runs hsweep.valid htask
          (hlt.trans_le hsweep.steps.grows.serial) _ (fun _ _ => trivial) fun _ => rfl)
      · exact .continueTask hs htask hlt trivial fun H => .refl

/-- A task is taken apart. -/
theorem abandon_steps (job : Job) (w : World) (H : Multiset Hold) :
    Steps ⟨w, job.holds + H⟩ ⟨job.abandon w, H⟩ := by
  match job with
  | .call _ _ _ (some c) => exact c.abandon_steps w H
  | .acquire _ limiter (some ticket) => exact .single (.leaveSlot ..)
  | .take _ bucket (some ticket) => exact .single (.leaveToken ..)
  | .call _ _ _ none | .acquire _ _ none | .take _ _ none | .refill .. | .sweep .. =>
    exact (zero_add H).symm ▸ .refl

/-- **A turn is a sequence of acts, whichever task has it.** -/
theorem turn_runs (hs : s.Valid) (id : TaskId) : Runs 0 s (s.turn id) := by
  unfold turn
  split
  · exact .refl hs
  · next t ht =>
    have hvalid := hs.eraseTask id
    have hgone : id ∉ (s.tasks.erase id).keys := by simp
    have hlt : id < s.world.serial :=
      hs.tasks_lt (Table.has_iff_mem_keys.mp (by rw [Table.has, ht]; rfl))
    have hfit := hs.tasks_fit ht
    -- The task is taken out first, so what it held is free for its turn to move, beside what the
    -- rest of the session holds.
    have hbeside {s' : Session} (h : Runs t.job.holds { s with tasks := s.tasks.erase id } s') :
        Runs 0 s s' := by
      refine ⟨h.valid, ?_⟩
      have hsteps := h.steps
      rw [holds, ← add_assoc, ← tasksHold_of_get? hs.tasks_nodup ht] at hsteps
      rw [zero_add]
      exact hsteps
    dsimp only
    split
    · exact hbeside (.world hvalid fun H => abandon_steps t.job s.world H)
    · refine hbeside ?_
      cases hjob : t.job with
      | call name op arg call? => exact turnCall_runs hvalid hgone hlt name op arg (hjob ▸ hfit)
      | acquire name limiter ticket? =>
        exact turnAcquire_runs hvalid hgone hlt name ticket? (by rw [hjob] at hfit; exact hfit)
      | take name bucket ticket? =>
        exact turnTake_runs hvalid hgone hlt name ticket? (by rw [hjob] at hfit; exact hfit)
      | refill bucket timer? => exact turnRefill_runs hvalid hgone hlt bucket timer?
      | sweep cache timer? => exact turnSweep_runs hvalid hgone hlt cache timer?

end Turns

section Induction

variable {s : Session} {motive : Session → Prop}

/-- A jump passes the time and wakes whoever is due. -/
theorem jump_eq (instant : Instant) (s : Session) : ∃ woken : List Waiter,
    s.jump instant = { s with world := (s.world.pass instant).wakeAll woken } ∧
      ∀ p ∈ s.timers, p.1.due ≤ instant → ∃ x ∈ woken, x.caller = p.2 := by
  let due := (s.timers.filter (·.1.due ≤ instant)).mergeSort fun a b => a.1.serial ≤ b.1.serial
  refine ⟨due.map fun p => ⟨p.1.serial, p.2, true⟩, ?_, fun p hp hdue => ?_⟩
  · simp only [jump, World.wakeAll, List.foldl_map, due]
  · refine ⟨_, List.mem_map_of_mem (a := p) ?_, rfl⟩
    rw [List.mem_mergeSort, List.mem_filter]
    exact ⟨hp, decide_eq_true hdue⟩

/-- Beyond the time, a jump only changes who is ready. -/
theorem jump_ready (instant : Instant) (s : Session) : ∃ ready,
    s.jump instant = { s with world := { s.world.pass instant with ready := ready } } := by
  obtain ⟨woken, hjump, -⟩ := s.jump_eq instant
  obtain ⟨ready, hready⟩ := World.wakeAll_eq woken (s.world.pass instant)
  exact ⟨ready, by rw [hjump, hready]⟩

variable
  (hturn : ∀ {s : Session} (id : TaskId) (rest : List TaskId), s.world.ready = id :: rest →
    motive s → motive (turn id { s with world := { s.world with ready := rest } }))
  (hpass : ∀ {s : Session} (instant : Instant), motive s →
    motive { s with world := s.world.pass instant })
  (hwake : ∀ {s : Session} (task : TaskId), motive s →
    motive { s with world := s.world.wake task })

include hturn in
/-- What every turn keeps is kept by any number of turns. -/
theorem turns_induct (h : motive s) (n : Nat) : motive (turns n s) := by
  induction n generalizing s with
  | zero => exact h
  | succ n ih =>
    simp only [turns]
    split
    · exact h
    · next hready => exact ih (hturn _ _ hready h)

include hpass hwake in
/-- What is kept when time passes and when a task is woken is kept by a jump. -/
theorem jump_induct (h : motive s) (instant : Instant) : motive (s.jump instant) :=
  List.foldlRecOn (motive := fun w => motive { s with world := w }) _ _ (hpass instant h)
    fun _ hw due _ => hwake due.2 hw

include hturn hpass hwake

theorem jumps_induct (h : motive s) (n : Nat) (target : Instant) :
    motive (jumps n target s) := by
  induction n generalizing s with
  | zero => exact h
  | succ n ih =>
    simp only [jumps]
    split
    · exact h
    · split
      · exact ih (turns_induct hturn (jump_induct hpass hwake h _) _)
      · exact h

/-- What is kept by every turn, when time passes and when a task is woken is kept when a session
lets time pass. -/
theorem advance_induct (h : motive s) (ms : Nat) : motive (s.advance ms) :=
  hpass _ (jumps_induct hturn hpass hwake (turns_induct hturn h _) ms _)

end Induction

section Time

variable {s : Session}

/-- Only the run queue and the log change. -/
theorem idle_runs (hs : s.Valid) {w : World} (h : s.world.Idles w) :
    Runs 0 s { s with world := w } := .act hs fun _ => .idle h

/-- The first of the run queue leaves it and has its turn. -/
theorem next_runs (hs : s.Valid) (id : TaskId) (rest : List TaskId) :
    Runs 0 s (turn id { s with world := { s.world with ready := rest } }) := by
  have hready : Runs 0 s { s with world := { s.world with ready := rest } } :=
    idle_runs hs (by constructor <;> rfl)
  exact hready.trans (turn_runs hready.valid id)

theorem turns_runs (hs : s.Valid) (n : Nat) : Runs 0 s (turns n s) :=
  turns_induct (motive := Runs 0 s) (fun id rest _ h => h.trans (next_runs h.valid id rest))
    (.refl hs) n

theorem pass_runs (hs : s.Valid) (instant : Instant) :
    Runs 0 s { s with world := s.world.pass instant } := .act hs fun _ => .pass instant

/-- **Letting time pass is a sequence of acts.** -/
theorem advance_runs (hs : s.Valid) (ms : Nat) : Runs 0 s (s.advance ms) :=
  advance_induct (motive := Runs 0 s)
    (fun id rest _ h => h.trans (next_runs h.valid id rest))
    (fun instant h => h.trans (pass_runs h.valid instant))
    (fun task h => h.trans (idle_runs h.valid (World.wake_idles task _))) (.refl hs) ms

end Time

end Session

end Resilience
