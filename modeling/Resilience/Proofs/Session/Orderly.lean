import Resilience.Proofs.Bucket.Closing
import Resilience.Proofs.Bucket.Seats
import Resilience.Proofs.Session.Calls

/-!
# Nobody is forgotten

In an **orderly** session tasks have their turns in the order of the run queue, and a task leaves
the run queue only to have its turn (`Session.Orderly`). Every run of a session by commands is
orderly (`Orderly.step`); `Session.Reachable` leaves the run queue open, so that it says nothing
about who has a turn at all.

Nobody who waits for a token is forgotten there (`Orderly.minded`). The places in line lead to the
tasks that wait, so whoever is handed a token is woken, and so is everybody in line when the bucket
is closed; and who is woken keeps the turn until it has it.
-/

namespace Resilience

/-- The bucket and the ticket of a task that waits in the line of a bucket. -/
def Job.seat? : Job → Option (ComponentId × Ticket)
  | call _ _ _ (some c) => c.seat?
  | take _ bucket (some ticket) => some (bucket, ticket)
  | _ => none

theorem Job.mem_holds_of_seat? {job : Job} {id : ComponentId} {ticket : Ticket}
    (h : job.seat? = some (id, ticket)) : .tokenPlace id ticket ∈ job.holds := by
  match job with
  | .call _ _ _ (some c) => exact Call.mem_holds_of_seat? h
  | .take _ bucket (some ticket) =>
    cases h
    exact Multiset.mem_singleton_self _

theorem Job.Unbegun.seat? {job : Job} (h : job.Unbegun) : job.seat? = none := by
  cases job <;> cases h <;> rfl

/-- A task that waits in the line of a bucket is not forgotten: its place in line leads to it, and
it has a turn coming when it was handed a token or the bucket was closed. -/
structure World.Minds (task : TaskId) (id : ComponentId) (ticket : Ticket) (w : World) : Prop where
  caller {x : Waiter} : x ∈ Queue.purge (w.bucketOf id).queue → x.ticket = ticket →
    x.caller = task
  granted : ticket ∈ (w.bucketOf id).granted → task ∈ w.ready
  closed : (w.bucketOf id).closed = true → task ∈ w.ready

/-- Whoever is not forgotten is not forgotten by a step of somebody else. -/
theorem World.Minds.serves {w w' : World} {task : TaskId} {id : ComponentId} {ticket : Ticket}
    (h : w.Minds task id ticket) (hticket : ticket < w.serial) (hserves : w.Serves w') :
    w'.Minds task id ticket where
  caller {x} hx heq := by
    rcases hserves.line id hx with hbefore | hnew
    · exact h.caller hbefore heq
    · exact absurd (heq ▸ hnew) (Nat.not_le.mpr hticket)
  granted hmem := by
    rcases hserves.granted id hmem with hbefore | hnew | ⟨x, hx, heq, hwoken⟩
    · exact hserves.ready.subset (h.granted hbefore)
    · exact absurd hnew (Nat.not_le.mpr hticket)
    · exact h.caller hx heq ▸ hwoken
  closed hclosed := hserves.ready.subset (h.closed (hserves.isOpen id hclosed))

namespace Session

variable {s s' : Session} {id : TaskId} {bucket : ComponentId} {ticket : Ticket} {t : Task}

/-! ### Seats are held -/

theorem mem_holds_of_seat? (hs : s.Valid) (ht : s.tasks.get? id = some t)
    (hseat : t.job.seat? = some (bucket, ticket)) : .tokenPlace bucket ticket ∈ s.holds := by
  rw [holds, tasksHold_of_get? hs.tasks_nodup ht]
  exact Multiset.mem_add.mpr (.inl (Multiset.mem_add.mpr (.inl (Job.mem_holds_of_seat? hseat))))

/-- A ticket that somebody has was given out before, by a bucket that is there. -/
theorem Valid.seat (hs : s.Valid) (hscene : s.scene.Reachable) (ht : s.tasks.get? id = some t)
    (hseat : t.job.seat? = some (bucket, ticket)) :
    ticket < s.world.serial ∧ ∃ c, s.world.buckets.get? bucket = some c := by
  have hcount := Multiset.count_pos.mpr (mem_holds_of_seat? hs ht hseat)
  refine ⟨?_, ?_⟩
  · by_contra hnew
    exact Nat.ne_of_gt hcount (hscene.tokenPlacesNumbered.fresh bucket (Nat.le_of_not_lt hnew))
  · by_contra hnone
    have hgone : s.world.buckets.get? bucket = none :=
      Option.eq_none_iff_forall_ne_some.mpr fun c hc => hnone ⟨c, hc⟩
    exact Nat.ne_of_gt hcount (hscene.tokenPlacesNumbered.known hgone ticket)

theorem Reachable.seat (h : s.Reachable) (ht : s.tasks.get? id = some t)
    (hseat : t.job.seat? = some (bucket, ticket)) :
    ticket < s.world.serial ∧ ∃ c, s.world.buckets.get? bucket = some c :=
  have ⟨hvalid, hscene⟩ := h.valid_scene
  hvalid.seat hscene ht hseat

/-- Nobody who waits for a token is forgotten. -/
def Minded (s : Session) : Prop :=
  ∀ id t bucket ticket, s.tasks.get? id = some t → t.job.seat? = some (bucket, ticket) →
    s.world.Minds id bucket ticket

/-! ### What keeps everybody in mind -/

/-- What happens brings nobody into line and lets nobody be served without being woken. -/
structure Tends (s s' : Session) : Prop where
  serves : s.world.Serves s'.world
  seats {id : TaskId} {t : Task} {bucket : ComponentId} {ticket : Ticket} :
    s'.tasks.get? id = some t → t.job.seat? = some (bucket, ticket) →
      ∃ t₀, s.tasks.get? id = some t₀ ∧ t₀.job.seat? = some (bucket, ticket)

theorem Minded.tends (h : s.Minded) (hs : s.Valid) (hscene : s.scene.Reachable)
    (htends : s.Tends s') : s'.Minded := by
  intro id t bucket ticket ht hseat
  obtain ⟨t₀, ht₀, hseat₀⟩ := htends.seats ht hseat
  obtain ⟨hticket, -⟩ := hs.seat hscene ht₀ hseat₀
  exact (h id t₀ bucket ticket ht₀ hseat₀).serves hticket htends.serves

namespace Tends

theorem of_eq (hw : s.world.Serves s'.world) (ht : s'.tasks = s.tasks) : Tends s s' where
  serves := hw
  seats h hseat := ⟨_, ht ▸ h, hseat⟩

theorem refl (s : Session) : Tends s s := of_eq (.refl _) rfl

/-- Only the world changes. -/
theorem world {w : World} (h : s.world.Serves w) : Tends s { s with world := w } := of_eq h rfl

/-- The buckets and the run queue are the same ones, and so are the tasks. -/
theorem untouched (hb : s'.world.buckets = s.world.buckets) (hr : s'.world.ready = s.world.ready)
    (hs : s.world.serial ≤ s'.world.serial) (ht : s'.tasks = s.tasks) : Tends s s' :=
  of_eq (.of_eq hb hr hs) ht

end Tends

theorem spawn_tends (s : Session) {job : Job} (hjob : job.Unbegun) : Tends s (s.spawn job).2 where
  serves := by
    have hfresh : s.world.Serves s.world.fresh.2 := .of_eq rfl rfl (Nat.le_succ _)
    exact hfresh.trans (.wake ..)
  seats {other t bucket ticket} ht hseat := by
    simp only [spawn, Table.get?_set] at ht
    split at ht
    · cases ht
      rw [hjob.seat?] at hseat
      cases hseat
    · exact ⟨t, ht, hseat⟩

theorem cancel_tends (s : Session) (name : String) : Tends s (s.cancel name).2 := by
  unfold cancel
  split
  · next id _ =>
    split
    · refine ⟨.wake id s.world, fun {other t bucket ticket} ht hseat => ?_⟩
      dsimp only at ht
      rw [Table.get?_modify] at ht
      split at ht
      · obtain ⟨t₀, ht₀, rfl⟩ := Option.map_eq_some_iff.mp ht
        exact ⟨t₀, ht₀, hseat⟩
      · exact ⟨t, ht, hseat⟩
    · exact .refl s
  · exact .refl s

/-! ### Closing a bucket -/

/-- Everybody in line is woken when the bucket is closed. -/
theorem Minded.shutDownBucket (h : s.Minded) (hvalid : s.Valid) (hscene : s.scene.Reachable)
    (id : ComponentId) : { s with world := s.world.shutDownBucket id }.Minded := by
  intro task t bucket ticket ht hseat
  have hminds := h task t bucket ticket ht hseat
  cases hc : s.world.buckets.get? id with
  | none =>
    have hsame : s.world.shutDownBucket id = s.world := by simp only [World.shutDownBucket, hc]
    rwa [hsame]
  | some c =>
    have hready {other : TaskId} (hmem : other ∈ s.world.ready) :
        other ∈ (s.world.shutDownBucket id).ready :=
      (s.world.ready_prefix_shutDownBucket id).subset hmem
    by_cases heq : id = bucket
    · subst heq
      have hstate := World.bucketOf_of_some hc
      have hafter : (s.world.shutDownBucket id).bucketOf id = c.state.shutDown.2 :=
        World.bucketOf_of_some (by rw [World.get?_shutDownBucket, if_pos rfl, hc]; rfl)
      have hgranted (hmem : ticket ∈ c.state.granted) : task ∈ s.world.ready :=
        hminds.granted (hstate ▸ hmem)
      refine ⟨fun hx => ?_, fun hmem => ?_, fun _ => ?_⟩
      · rw [hafter] at hx
        cases hx
      · rw [hafter] at hmem
        exact hready (hgranted hmem)
      · by_cases hmem : ticket ∈ c.state.granted
        · exact hready (hgranted hmem)
        by_cases hclosed : c.state.closed = true
        · exact hready (hminds.closed (hstate ▸ hclosed))
        -- Whoever waits in an open bucket without a token is in line.
        have hline := Bucket.awaited hscene hc (mem_holds_of_seat? hvalid ht hseat)
          (Bool.eq_false_iff.mpr hclosed) hmem
        obtain ⟨x, hx, hticket⟩ := List.mem_map.mp hline
        exact hminds.caller (hstate ▸ hx) hticket ▸ World.mem_ready_shutDownBucket hc hx
    · have hafter : (s.world.shutDownBucket id).bucketOf bucket = s.world.bucketOf bucket := by
        rw [World.bucketOf, World.get?_shutDownBucket, if_neg heq]
        rfl
      exact ⟨fun hx => hminds.caller (hafter ▸ hx),
        fun hmem => hready (hminds.granted (hafter ▸ hmem)),
        fun hclosed => hready (hminds.closed (hafter ▸ hclosed))⟩

/-! ### Commands -/

/-- **No move makes a session forget anybody.** -/
theorem Minded.move (h : s.Minded) (hs : s.Valid) (hscene : s.scene.Reachable)
    (hmove : s.Move s') : s'.Minded := by
  cases hmove with
  | act hact hready =>
    rcases (hact 0).serves hready with hserves | ⟨id, rfl⟩
    · exact h.tends hs hscene (.world hserves)
    · exact h.shutDownBucket hs hscene id
  | spawn hjob => exact h.tends hs hscene (spawn_tends s hjob)
  | cancel name => exact h.tends hs hscene (cancel_tends s name)
  | release name =>
    unfold releasePermit
    split
    · exact h.tends hs hscene (.of_eq (.releaseSlot ..) rfl)
    · exact h
  | rename => exact h

/-- **No command that takes no time makes a session forget anybody.** -/
theorem Minded.perform (h : s.Minded) (hreach : s.Reachable) (calendar : Diagnostics.Calendar)
    {command : Command} (hp : command.Plain) (htime : ∀ ms, command ≠ .advance ms) :
    (s.perform calendar command).2.Minded := by
  obtain ⟨hvalid, hscene⟩ := hreach.valid_scene
  have hmoves := perform_moves hvalid calendar hp htime
  generalize (s.perform calendar command).2 = s' at hmoves
  -- The sessions between two moves are valid, and acts lead to their scenes.
  suffices s'.Minded ∧ s'.Valid ∧ s'.scene.Reachable from this.1
  induction hmoves with
  | refl => exact ⟨h, hvalid, hscene⟩
  | tail _ hlast ih =>
    obtain ⟨hminded, hvalid, hscene⟩ := ih
    have hruns := hlast.runs hvalid
    exact ⟨hminded.move hvalid hscene hlast, hruns.valid, hscene.steps hruns.scenes⟩

/-! ### Turns -/

/-- The session with another run queue. -/
def withReady (ready : List TaskId) (s : Session) : Session :=
  { s with world := { s.world with ready := ready } }

/-- A turn of a task: the others stay as they are, and if the task is in the line of a bucket
afterwards, then it has joined the line or has stayed where it was. -/
structure Turned (task : TaskId) (own? : Option (ComponentId × Ticket)) (s s' : Session) :
    Prop where
  serves : s.world.Serves s'.world
  others {id : TaskId} : id ≠ task → s'.tasks.get? id = s.tasks.get? id
  own {t : Task} {bucket : ComponentId} {ticket : Ticket} : s'.tasks.get? task = some t →
    t.job.seat? = some (bucket, ticket) →
      (own? = some (bucket, ticket) ∧ s.world.pickUpToken bucket ticket = .waiting ∧
        s'.world = s.world) ∨
      (s.world.serial ≤ ticket ∧ ⟨ticket, task, true⟩ ∈ (s'.world.bucketOf bucket).queue)

namespace Turned

variable {task : TaskId} {own? : Option (ComponentId × Ticket)}

/-- The task has ended. -/
theorem ended (hw : s.world.Serves s'.world) (ht : s'.tasks = s.tasks.erase task) :
    Turned task own? s s' where
  serves := hw
  others hne := by rw [ht, Table.get?_erase, if_neg hne.symm]
  own h := by
    rw [ht, Table.get?_erase, if_pos rfl] at h
    cases h

/-- The task goes on. -/
theorem goesOn {job : Job} (hw : s.world.Serves s'.world)
    (ht : s'.tasks = (s.tasks.erase task).set task ⟨job, false⟩)
    (hown : ∀ bucket ticket, job.seat? = some (bucket, ticket) →
      (own? = some (bucket, ticket) ∧ s.world.pickUpToken bucket ticket = .waiting ∧
        s'.world = s.world) ∨
      (s.world.serial ≤ ticket ∧ ⟨ticket, task, true⟩ ∈ (s'.world.bucketOf bucket).queue)) :
    Turned task own? s s' where
  serves := hw
  others hne := by
    rw [ht, Table.get?_set, if_neg hne.symm, Table.get?_erase, if_neg hne.symm]
  own h hseat := by
    rw [ht, Table.get?_set, if_pos rfl] at h
    cases h
    exact hown _ _ hseat

/-- The task goes on, and not in the line of a bucket. -/
theorem elsewhere {job : Job} (hw : s.world.Serves s'.world)
    (ht : s'.tasks = (s.tasks.erase task).set task ⟨job, false⟩) (hseat : job.seat? = none) :
    Turned task own? s s' :=
  goesOn hw ht fun _ _ hsome => by rw [hseat] at hsome; cases hsome

end Turned

section Turns

variable (s : Session) (task : TaskId)

private theorem turnCall_turned (name : String) (op : Operation) (arg : Json)
    (call? : Option Call) :
    Turned task (Job.call name op arg call?).seat? s
      (turnCall task name op arg call? { s with tasks := s.tasks.erase task }) := by
  have hseating : Seating task (Job.call name op arg call?).seat? s.world
      (op.goOn task arg call? s.world) := by
    cases call? with
    | none => exact op.start_seating task arg s.world
    | some c => exact c.resume_seating task s.world
  rw [turnCall_eq]
  dsimp only
  cases hpolled : op.goOn task arg call? s.world with
  | mk poll w =>
    rw [hpolled] at hseating
    cases poll with
    | pending c =>
      exact .goesOn hseating.serves rfl fun bucket ticket hseat => hseating.seat rfl hseat
    | ready outcome => exact .ended (hseating.serves.trans (.note ..)) rfl
    | panicked text => exact .ended (hseating.serves.trans (.note ..)) rfl

private theorem keepPermit_serves (name : String) (limiter : ComponentId) :
    s.world.Serves (s.keepPermit name limiter).world ∧
      (s.keepPermit name limiter).tasks = s.tasks := by
  unfold keepPermit
  dsimp only
  split
  · exact ⟨.releaseSlot .., rfl⟩
  · exact ⟨.refl _, rfl⟩

private theorem slotAcquired_turned {s₀ : Session} (name : String) (limiter : ComponentId)
    {w : World} {own? : Option (ComponentId × Ticket)} (hw : s₀.world.Serves w)
    (ht : s.tasks = s₀.tasks.erase task) : Turned task own? s₀ (s.slotAcquired name limiter w) := by
  obtain ⟨hserves, htasks⟩ :=
    keepPermit_serves { s with world := w.note (.acquired name) } name limiter
  exact .ended ((hw.trans (.note ..)).trans hserves) (htasks.trans ht)

private theorem turnAcquire_turned (name : String) (limiter : ComponentId)
    (ticket? : Option Ticket) : Turned task none s
      (turnAcquire task name limiter ticket? { s with tasks := s.tasks.erase task }) := by
  cases ticket? with
  | none =>
    have hask := World.Serves.askSlot limiter task s.world
    simp only [turnAcquire]
    split
    · next heq =>
      rw [heq] at hask
      exact slotAcquired_turned _ task name limiter hask rfl
    · next heq =>
      rw [heq] at hask
      exact .elsewhere hask rfl rfl
    · next heq =>
      rw [heq] at hask
      exact .ended (hask.trans (.note ..)) rfl
  | some ticket =>
    simp only [turnAcquire]
    split
    · next hpick => exact slotAcquired_turned _ task name limiter (.pickUpSlot hpick) rfl
    · exact .elsewhere (.refl _) rfl rfl

private theorem turnTake_turned (name : String) (bucket : ComponentId) (ticket? : Option Ticket) :
    Turned task (Job.take name bucket ticket?).seat? s
      (turnTake task name bucket ticket? { s with tasks := s.tasks.erase task }) := by
  cases ticket? with
  | none =>
    have hask := World.Serves.askToken bucket task s.world
    simp only [turnTake]
    split
    · next heq =>
      rw [heq] at hask
      exact .ended (hask.trans (.note ..)) rfl
    · next ticket w heq =>
      rw [heq] at hask
      refine .goesOn hask rfl fun b t hseat => .inr ?_
      cases hseat
      obtain ⟨rfl, hmem⟩ := World.mem_queue_of_askToken heq
      exact ⟨le_refl _, hmem⟩
    · next heq =>
      rw [heq] at hask
      exact .ended (hask.trans (.note ..)) rfl
  | some ticket =>
    simp only [turnTake]
    split
    · next hpick =>
      have hserves := World.Serves.pickUpToken hpick
      exact .ended (hserves.trans (.note ..)) rfl
    · exact .ended (.note ..) rfl
    · next hpick =>
      refine .goesOn (.refl _) rfl fun b t hseat => .inl ?_
      cases hseat
      exact ⟨rfl, hpick, rfl⟩

private theorem sleepTick_turned {s₀ : Session} {own? : Option (ComponentId × Ticket)}
    (tick : Duration) {job : Option Timer → Job} (hjob : ∀ timer?, (job timer?).seat? = none)
    (hw : s₀.world.Serves s.world) (ht : s.tasks = s₀.tasks.erase task) :
    Turned task own? s₀ (s.sleepTick task tick job) := by
  have htick : s.sleepTick task tick job =
      s.continueTask task (job (s.world.sleep tick).1) (s.world.sleep tick).2 := rfl
  have htasks : (s.sleepTick task tick job).tasks =
      (s₀.tasks.erase task).set task ⟨job (s.world.sleep tick).1, false⟩ := by
    rw [htick, ← ht]
    rfl
  exact .elsewhere (hw.trans (.sleep tick s.world)) htasks (hjob _)

private theorem turnRefill_turned (bucket : ComponentId) (timer? : Option Timer) :
    Turned task none s (turnRefill task bucket timer? { s with tasks := s.tasks.erase task }) := by
  unfold turnRefill
  split
  · exact .ended (.refl _) rfl
  · exact sleepTick_turned _ task _ (fun _ => rfl) (.refl _) rfl
  · split
    · exact .ended (.refl _) rfl
    · split
      · exact sleepTick_turned _ task _ (fun _ => rfl) (.refillBucket bucket _) rfl
      · exact .elsewhere (.refl _) rfl rfl

private theorem turnSweep_turned (cache : ComponentId) (timer? : Option Timer) :
    Turned task none s (turnSweep task cache timer? { s with tasks := s.tasks.erase task }) := by
  unfold turnSweep
  split
  · exact .ended (.refl _) rfl
  · exact sleepTick_turned _ task _ (fun _ => rfl) (.refl _) rfl
  · split
    · exact .ended (.refl _) rfl
    · split
      · exact sleepTick_turned _ task _ (fun _ => rfl) (.sweepCache cache _) rfl
      · exact .elsewhere (.refl _) rfl rfl

private theorem abandon_serves (job : Job) (w : World) : w.Serves (job.abandon w) := by
  match job with
  | .call _ _ _ (some c) => exact c.abandon_serves w
  | .acquire _ limiter (some ticket) => exact .leaveSlot limiter ticket w
  | .take _ bucket (some ticket) => exact .leaveToken bucket ticket w
  | .call _ _ _ none | .acquire _ _ none | .take _ _ none | .refill .. | .sweep .. => exact .refl w

/-- **What a turn does for those in the lines of buckets**, whichever task has it. -/
theorem turn_turned :
    Turned task ((s.tasks.get? task).bind fun t => t.job.seat?) s (s.turn task) := by
  unfold turn
  cases ht : s.tasks.get? task with
  | none =>
    refine .ended (.refl _) (Table.erase_of_not_mem ?_).symm
    exact (Table.get?_eq_none_iff task s.tasks).mp ht
  | some t =>
    dsimp only [Option.bind_some]
    split
    · exact .ended (abandon_serves ..) rfl
    · cases t.job with
      | call name op arg call? => exact turnCall_turned s task name op arg call?
      | acquire name limiter ticket? => exact turnAcquire_turned s task name limiter ticket?
      | take name bucket ticket? => exact turnTake_turned s task name bucket ticket?
      | refill bucket timer? => exact turnRefill_turned s task bucket timer?
      | sweep cache timer? => exact turnSweep_turned s task cache timer?

end Turns

theorem Reachable.withReady (h : s.Reachable) (ready : List TaskId) :
    (s.withReady ready).Reachable := h.happens (.idle (by constructor <;> rfl))

/-- **A turn of the next task makes a session forget nobody.** The task itself has lost its turn, so
it has to be in line if it still waits. -/
theorem Minded.turn {rest : List TaskId} (h : s.Minded) (hreach : s.Reachable)
    (hready : s.world.ready = id :: rest) :
    (Session.turn id (s.withReady rest)).Minded := by
  have hafter := (hreach.withReady rest).happens (.turn id)
  have hturned := turn_turned (s.withReady rest) id
  generalize Session.turn id (s.withReady rest) = s' at *
  intro other t bucket ticket ht hseat
  -- The task whose turn it is may have moved in a line. Of the others it is enough that the rest of
  -- the run queue still has the turns that they need.
  by_cases hother : other = id
  · subst hother
    rcases hturned.own ht hseat with ⟨hown, hwaiting, hworld⟩ | ⟨-, hmem⟩
    · -- It has stayed where it was, since there was no word for it.
      obtain ⟨t₀, ht₀, hseat₀⟩ := Option.bind_eq_some_iff.mp hown
      have hminds := h other t₀ bucket ticket ht₀ hseat₀
      have hcaller {x : Waiter} (hx : x ∈ Queue.purge (s.world.bucketOf bucket).queue) :=
        hminds.caller hx
      rw [hworld]
      obtain ⟨hnot, hopen⟩ := World.bucketOf_of_waiting hwaiting
      exact ⟨hcaller, fun hgranted => absurd hgranted hnot,
        fun hclosed => absurd (hopen.symm.trans hclosed) (by simp)⟩
    · -- It has joined the line, where everybody has another ticket.
      obtain ⟨-, c, hc⟩ := hafter.seat ht hseat
      have hstate := World.bucketOf_of_some hc
      have hpurge : ⟨ticket, other, true⟩ ∈ Queue.purge c.state.queue :=
        List.mem_filter.mpr ⟨hstate ▸ hmem, rfl⟩
      obtain ⟨halone, hnot, hopen⟩ := Bucket.in_line hafter.valid_scene.2 hc hpurge
      refine ⟨fun hx heq => ?_, fun hgranted => ?_, fun hclosed => ?_⟩
      · rw [halone _ (hstate ▸ hx) heq]
      · exact absurd (hstate ▸ hgranted) hnot
      · exact absurd (hopen.symm.trans (hstate ▸ hclosed)) (by simp)
  · rw [hturned.others hother] at ht
    obtain ⟨hticket, -⟩ := hreach.seat ht hseat
    have hminds := h other t bucket ticket ht hseat
    have hrest (hmem : other ∈ s.world.ready) : other ∈ rest :=
      (List.mem_cons.mp (hready ▸ hmem)).resolve_left hother
    have hkept : (s.withReady rest).world.Minds other bucket ticket :=
      ⟨hminds.caller, fun hmem => hrest (hminds.granted hmem),
        fun hclosed => hrest (hminds.closed hclosed)⟩
    exact hkept.serves hticket hturned.serves

/-! ### Everybody in the run queue has a turn -/

theorem turns_of_idle (h : s.world.ready = []) (n : Nat) : turns n s = s := by
  cases n with
  | zero => rfl
  | succ n => simp only [turns, h]

theorem turns_of_ready {rest : List TaskId} (h : s.world.ready = id :: rest) (n : Nat) :
    turns (n + 1) s = turns n (turn id (s.withReady rest)) := by
  simp only [turns, h, withReady]

theorem turns_add (m n : Nat) (s : Session) : turns (m + n) s = turns n (turns m s) := by
  induction m generalizing s with
  | zero => rw [Nat.zero_add]; rfl
  | succ m ih =>
    rw [Nat.add_right_comm]
    cases hready : s.world.ready with
    | nil => rw [turns_of_idle hready, turns_of_idle hready, turns_of_idle hready]
    | cons id rest => rw [turns_of_ready hready, turns_of_ready hready, ih]

/-- **Whoever is in the run queue is next after those before it**, and nobody else touches it. -/
theorem turns_comes_round {before rest : List TaskId}
    (h : s.world.ready = before ++ id :: rest) (hid : id ∉ before) :
    ∃ more, (turns before.length s).world.ready = id :: rest ++ more ∧
      (turns before.length s).tasks.get? id = s.tasks.get? id := by
  induction before generalizing s rest with
  | nil => exact ⟨[], h.trans (List.append_nil _).symm, rfl⟩
  | cons first before ih =>
    obtain ⟨hfirst, hbefore⟩ := not_or.mp (List.mem_cons.not.mp hid)
    have hturned := turn_turned (s.withReady (before ++ id :: rest)) first
    obtain ⟨more, hmore⟩ := hturned.serves.ready
    have hready : (turn first (s.withReady (before ++ id :: rest))).world.ready =
        before ++ id :: (rest ++ more) := by
      rw [← hmore, withReady, List.append_assoc, List.cons_append]
    obtain ⟨more', hround, htask⟩ := ih hready hbefore
    rw [List.cons_append] at h
    rw [List.length_cons, turns_of_ready h]
    refine ⟨more ++ more', ?_, htask.trans (hturned.others hfirst)⟩
    rw [hround, List.cons_append, List.cons_append, List.append_assoc]

/-! ### Orderly sessions -/

/-- One thing that can happen to a session in which nobody loses a turn: a command that takes no
time, an operation of any shape that is defined, a turn of the next task, the clock moving on, a
task that is given a turn. -/
inductive Proceeds (s : Session) : Session → Prop
  | perform (calendar : Diagnostics.Calendar) {command : Command} (h : command.Plain)
      (htime : ∀ ms, command ≠ .advance ms) : Proceeds s (s.perform calendar command).2
  | install (name : String) {op : Operation} (h : op.Fits s.world) :
      Proceeds s { s with operations := s.operations.set name op }
  | turn {id : TaskId} {rest : List TaskId} (h : s.world.ready = id :: rest) :
      Proceeds s (turn id (s.withReady rest))
  | pass (instant : Instant) : Proceeds s { s with world := s.world.pass instant }
  | wake (task : TaskId) : Proceeds s { s with world := s.world.wake task }

/-- The sessions that come about from a new one when nobody loses a turn, while somebody outside may
write into the events and the log or clear them. -/
inductive Orderly : Session → Prop
  | create (settings : Settings) (recording : Bool) : Orderly (create settings recording)
  | proceeds {s s' : Session} : Orderly s → s.Proceeds s' → Orderly s'
  | outside {s : Session} (events : List Event) (log : List (Instant × Entry)) :
      Orderly s → Orderly { s with world := { s.world with events := events, log := log } }

namespace Orderly

theorem reachable (h : s.Orderly) : s.Reachable := by
  induction h with
  | create settings recording => exact .create settings recording
  | proceeds _ hnext ih =>
    cases hnext with
    | perform calendar hp htime => exact ih.happens (.perform calendar hp)
    | install name hop => exact ih.happens (.install name hop)
    | turn hready => exact (ih.withReady _).happens (.turn _)
    | pass instant => exact ih.happens (.pass instant)
    | wake task => exact ih.happens (.idle (World.wake_idles task _))
  | outside events log _ ih => exact ih.outside events log

/-- **Nobody who waits for a token is forgotten**, in any orderly session. -/
theorem minded (h : s.Orderly) : s.Minded := by
  induction h with
  | create settings recording => exact fun id t bucket ticket ht => by cases ht
  | @proceeds s _ hs hnext ih =>
    have hreach := hs.reachable
    obtain ⟨hvalid, hscene⟩ := hreach.valid_scene
    cases hnext with
    | perform calendar hp htime => exact ih.perform hreach calendar hp htime
    | install name hop => exact ih
    | turn hready => exact ih.turn hreach hready
    | pass instant => exact ih.tends hvalid hscene (.untouched rfl rfl (le_refl _) rfl)
    | wake task => exact ih.tends hvalid hscene (.world (.wake task _))
  | outside events log hs ih =>
    obtain ⟨hvalid, hscene⟩ := hs.reachable.valid_scene
    exact ih.tends hvalid hscene (.untouched rfl rfl (le_refl _) rfl)

/-! #### The runs of a session are orderly -/

theorem turns (h : s.Orderly) (n : Nat) : (Session.turns n s).Orderly :=
  turns_induct (fun _ _ hready h => h.proceeds (.turn hready)) h n

theorem jump (h : s.Orderly) (instant : Instant) : (s.jump instant).Orderly :=
  jump_induct (fun instant h => h.proceeds (.pass instant)) (fun task h => h.proceeds (.wake task))
    h instant

theorem advance (h : s.Orderly) (ms : Nat) : (s.advance ms).Orderly :=
  advance_induct (fun _ _ hready h => h.proceeds (.turn hready))
    (fun instant h => h.proceeds (.pass instant)) (fun task h => h.proceeds (.wake task)) h ms

private theorem kept (calendar : Diagnostics.Calendar) : Kept calendar Orderly where
  plain hp htime h := h.proceeds (.perform calendar hp htime)
  advance ms h := h.advance ms
  outside events log h := h.outside events log

theorem perform (h : s.Orderly) (calendar : Diagnostics.Calendar) (command : Command) :
    (s.perform calendar command).2.Orderly := (kept calendar).perform h command

theorem performAll (h : s.Orderly) (calendar : Diagnostics.Calendar) (commands : List Command) :
    (s.performAll calendar commands).2.Orderly := (kept calendar).performAll h commands

/-- **A session stays orderly from one step to the next.** -/
theorem step (h : s.Orderly) (calendar : Diagnostics.Calendar) (command : Command) :
    (s.step calendar command).2.2.Orderly :=
  ((h.perform calendar command).turns _).outside _ []

end Orderly

end Session

end Resilience
