import Resilience.Proofs.Session.Beside

/-!
# The calls of a session

Every session that can be reached has a chronicle (`Session.Reachable.told`): each of its blocked
calls has a life, a turn of a call goes on in that life, and all else goes on beside the calls.
-/

namespace Resilience

/-! ### The lives of blocked calls -/

/-- The life is that of a call of this task, which has not been taken apart and stands here. -/
structure Life.Of (task : TaskId) (op : Operation) (arg : Json) (poll : Poll) (life : Life) :
    Prop where
  task : life.task = task
  op : life.op = op
  arg : life.arg = arg
  poll : life.poll = poll
  goes : life.cancelled = false

/-- A turn of a call, which is blocked or has not begun. -/
def Operation.goOn (task : TaskId) (op : Operation) (arg : Json) (call? : Option Call)
    (w : World) : Poll × World :=
  match call? with
  | none => op.start task arg w
  | some c => c.resume task w

namespace Session

variable {s s' : Session}

/-- Every blocked call has a life. -/
def Lives (s : Session) (lives : List Life) : Prop :=
  ∀ id name op arg c cancelled,
    s.tasks.get? id = some ⟨.call name op arg (some c), cancelled⟩ →
      ∃ life ∈ lives, life.Of id op arg (.pending c)

namespace Lives

variable {lives lives' before after : List Life} {life : Life} {id : TaskId}

theorem calm (h : s.Lives lives) (hcalm : Calm s s') : s'.Lives lives := by
  intro id name op arg c cancelled hid
  obtain ⟨cancelled', hid'⟩ := hcalm.blocked hid
  exact h id name op arg c cancelled' hid'

/-- The lives of the tasks that are left, when only the life of the task that goes changes. -/
theorem eraseTask (h : s.Lives lives)
    (hkeeps : ∀ life ∈ lives, life.task ≠ id → life ∈ lives') :
    { s with tasks := s.tasks.erase id }.Lives lives' := by
  intro other name op arg c cancelled hother
  rw [Table.get?_erase] at hother
  split at hother
  · cases hother
  · next hne =>
    obtain ⟨life, hlife, hof⟩ := h other name op arg c cancelled hother
    exact ⟨life, hkeeps life hlife fun heq => hne (heq.symm.trans hof.task), hof⟩

/-- A blocked call goes back into the table with its life. -/
theorem setTask {op : Operation} {arg : Json} {c : Call} (h : s.Lives lives) (name : String)
    (cancelled : Bool) (hlife : life ∈ lives) (hof : life.Of id op arg (.pending c)) :
    { s with tasks := s.tasks.set id ⟨.call name op arg (some c), cancelled⟩ }.Lives lives := by
  intro other name' op' arg' c' cancelled' hother
  rw [Table.get?_set] at hother
  split at hother
  · next heq =>
    cases hother
    exact ⟨life, hlife, heq ▸ hof⟩
  · exact h other name' op' arg' c' cancelled' hother

end Lives

/-- One life takes the place of another, and those of other tasks stay. -/
private theorem mem_replaced {before after : List Life} {life life' : Life} {id : TaskId}
    (htask : life.task = id) :
    ∀ other ∈ before ++ life :: after, other.task ≠ id → other ∈ before ++ life' :: after := by
  intro other hother hne
  simp only [List.mem_append, List.mem_cons] at hother ⊢
  rcases hother with hother | rfl | hother
  · exact .inl hother
  · exact absurd htask hne
  · exact .inr (.inr hother)

/-- A call that has its turn goes back into the table, or it has ended. -/
theorem turnCall_eq (s : Session) (task : TaskId) (name : String) (op : Operation) (arg : Json)
    (call? : Option Call) : s.turnCall task name op arg call? =
      match op.goOn task arg call? s.world with
      | (.pending c, w) => s.continueTask task (.call name op arg (some c)) w
      | (.ready outcome, w) => { s with world := w.note (.done name outcome) }
      | (.panicked text, w) => { s with world := w.note (.panicked name text) } := by
  cases call? <;> rfl

/-- A session with a chronicle that tells about its blocked calls. -/
structure Told (s : Session) : Prop where
  reachable : s.Reachable
  exists_lives : ∃ log lives, Chronicle World.Beside s.world log lives ∧ s.Lives lives

namespace Told

/-- What happens to a session and does nothing for a call goes on beside the calls. -/
theorem beside (h : s.Reachable) (hnext : s.Happens s') (hcalm : Calm s s') :
    s.world.Beside s'.world := by
  obtain ⟨hvalid, hscene⟩ := h.valid_scene
  have hsteps := (hnext.runs hvalid).scenes
  exact {
    grows := hsteps.grows
    limiters := fun hc => by
      obtain ⟨_, hl, -⟩ := Limiter.Shows.steps (Limiter.numbered_of_reachable hscene) hsteps hc
      exact ⟨_, hl⟩
    buckets := fun hc => by
      obtain ⟨_, _, hshows⟩ := Bucket.exists_history hscene hc
      obtain ⟨_, hb, -⟩ := Bucket.Shows.steps hscene hsteps hc hshows
      exact ⟨_, hb⟩
    successes := hcalm.successes }

theorem calm (h : s.Told) (hnext : s.Happens s') (hcalm : Calm s s') : s'.Told := by
  obtain ⟨log, lives, hchronicle, hlives⟩ := h.exists_lives
  exact ⟨h.reachable.happens hnext,
    log, lives, hchronicle.aside (beside h.reachable hnext hcalm), hlives.calm hcalm⟩

/-- **A call that has its turn begins or goes on, with a life.** -/
theorem exists_polled {id : TaskId} {name : String} {op : Operation} {arg : Json}
    {call? : Option Call} {cancelled : Bool} (h : s.Told)
    (htask : s.tasks.get? id = some ⟨.call name op arg call?, cancelled⟩) :
    ∃ log lives, Chronicle World.Beside (op.goOn id arg call? s.world).2 log lives ∧
      (∃ life ∈ lives, life.Of id op arg (op.goOn id arg call? s.world).1) ∧
      { s with tasks := s.tasks.erase id }.Lives lives := by
  obtain ⟨hreach, log, lives, hchronicle, hlives⟩ := h
  cases call? with
  | none =>
    have hfits : op.Fits s.world := hreach.valid_scene.1.tasks_fit htask
    obtain ⟨ds, st, hnext⟩ := hchronicle.exists_start id arg hfits
    refine ⟨_, _, hnext,
      ⟨_, List.mem_append_right _ List.mem_cons_self, rfl, rfl, rfl, rfl, rfl⟩, ?_⟩
    exact hlives.eraseTask fun life hlife _ => List.mem_append_left _ hlife
  | some c =>
    obtain ⟨life, hlife, hof⟩ := hlives id name op arg c cancelled htask
    obtain ⟨before, after, rfl⟩ := List.append_of_mem hlife
    obtain ⟨rfl, rfl, rfl, hpoll, hgoes⟩ := hof
    obtain ⟨ds, st, hnext⟩ := hchronicle.exists_resume hpoll hgoes
    refine ⟨_, _, hnext,
      ⟨_, List.mem_append_right _ List.mem_cons_self, rfl, rfl, rfl, rfl, rfl⟩, ?_⟩
    exact hlives.eraseTask (mem_replaced rfl)

/-- A call has its turn. -/
theorem turnCall_told {id : TaskId} {name : String} {op : Operation} {arg : Json}
    {call? : Option Call} {cancelled : Bool} (h : s.Told)
    (htask : s.tasks.get? id = some ⟨.call name op arg call?, cancelled⟩)
    (hnext : s.Happens (turnCall id name op arg call? { s with tasks := s.tasks.erase id })) :
    (turnCall id name op arg call? { s with tasks := s.tasks.erase id }).Told := by
  obtain ⟨log, lives, hchronicle, ⟨life, hlife, hof⟩, hlives⟩ := h.exists_polled htask
  have hend (entry : Entry) {poll : Poll} {w : World}
      (hpolled : op.goOn id arg call? s.world = (poll, w)) :
      Chronicle World.Beside (w.note entry) log lives := by
    rw [hpolled] at hchronicle
    have hidles := World.note_idles entry w
    exact hchronicle.aside (.of_eq (Act.idle (H := 0) hidles).grows rfl rfl rfl)
  refine ⟨h.reachable.happens hnext, log, lives, ?_⟩
  rw [turnCall_eq]
  dsimp only
  split
  · next c w heq =>
    rw [heq] at hchronicle hof
    exact ⟨hchronicle, hlives.setTask name false hlife hof⟩
  · next heq => exact ⟨hend _ heq, hlives⟩
  · next heq => exact ⟨hend _ heq, hlives⟩

/-- **A turn of a call is told in its life, and every other turn goes on beside the calls.** -/
theorem turn (h : s.Told) (id : TaskId) : (s.turn id).Told := by
  have hnext : s.Happens (s.turn id) := .turn id
  cases htask : s.tasks.get? id with
  | none => exact h.calm hnext (by simp only [Session.turn, htask]; exact .refl s)
  | some t =>
    obtain ⟨job, cancelled⟩ := t
    -- Whatever else has its turn does nothing for a call.
    have hother (hjob : ∀ name op arg call?, job ≠ .call name op arg call?) : (s.turn id).Told := by
      refine h.calm hnext ((Calm.eraseTask id).trans ?_)
      simp only [Session.turn, htask]
      split
      · exact abandon_calm _ fun name op arg c => hjob name op arg (some c)
      · match job with
        | .call name op arg call? => exact absurd rfl (hjob name op arg call?)
        | .acquire name limiter ticket? => exact turnAcquire_calm _ id name limiter ticket?
        | .take name bucket ticket? => exact turnTake_calm _ id name bucket ticket?
        | .refill bucket timer? => exact turnRefill_calm _ id bucket timer?
        | .sweep cache timer? => exact turnSweep_calm _ id cache timer?
    match job, cancelled with
    | .call name op arg call?, false =>
      have hturn : s.turn id =
          turnCall id name op arg call? { s with tasks := s.tasks.erase id } := by
        simp [Session.turn, htask]
      rw [hturn] at hnext ⊢
      exact h.turnCall_told htask hnext
    | .call name op arg none, true =>
      refine h.calm hnext ((Calm.eraseTask id).trans ?_)
      simp only [Session.turn, htask, if_true]
      exact .refl _
    | .call name op arg (some c), true =>
      obtain ⟨log, lives, hchronicle, hlives⟩ := h.exists_lives
      obtain ⟨life, hlife, hof⟩ := hlives id name op arg c true htask
      obtain ⟨before, after, rfl⟩ := List.append_of_mem hlife
      have hturn : s.turn id =
          { s with tasks := s.tasks.erase id, world := c.abandon s.world } := by
        simp [Session.turn, htask, Job.abandon]
      rw [hturn] at hnext ⊢
      have hleft : { s with tasks := s.tasks.erase id }.Lives
          (before ++ { life with cancelled := true } :: after) :=
        hlives.eraseTask (mem_replaced hof.task)
      exact ⟨h.reachable.happens hnext, _, _, hchronicle.abandon hof.poll hof.goes, hleft⟩
    | .acquire .., _ | .take .., _ | .refill .., _ | .sweep .., _ => exact hother (by simp)

/-- Only the run queue, the log and the like change. -/
theorem idle (h : s.Told) {w : World} (hidles : s.world.Idles w) :
    ({ s with world := w } : Session).Told := h.calm (.idle hidles) (.idle hidles)

theorem pass (h : s.Told) (instant : Instant) :
    ({ s with world := s.world.pass instant } : Session).Told :=
  h.calm (.pass instant) (.world rfl)

theorem advance (h : s.Told) (ms : Nat) : (s.advance ms).Told :=
  advance_induct (fun id _ _ h => (h.idle (by constructor <;> rfl)).turn id)
    (fun instant h => h.pass instant) (fun task h => h.idle (World.wake_idles task _)) h ms

end Told

/-- **Every session has a chronicle** that tells about its blocked calls. -/
theorem Reachable.told (h : s.Reachable) : s.Told := by
  induction h with
  | create settings recording =>
    refine ⟨.create settings recording, [], [], .empty settings recording, ?_⟩
    intro id name op arg c cancelled hid
    cases hid
  | @happens s _ hreach hnext ih =>
    cases hnext with
    | @perform calendar command hplain =>
      by_cases htime : ∃ ms, command = .advance ms
      · obtain ⟨ms, rfl⟩ := htime
        exact ih.advance ms
      · exact ih.calm (.perform calendar hplain)
          (perform_calm ih.reachable.valid_scene.1 calendar hplain fun ms heq => htime ⟨ms, heq⟩)
    | install name hop => exact ih.calm (.install name hop) (.of_eq rfl rfl)
    | turn id => exact ih.turn id
    | pass instant => exact ih.pass instant
    | idle hidles => exact ih.idle hidles
  | @outside s events log hreach ih =>
    obtain ⟨-, log', lives, hchronicle, hlives⟩ := ih
    have hgrows : s.world.Grows { s.world with events := events, log := log } :=
      .of_eq rfl rfl rfl rfl rfl (le_refl _)
    exact ⟨hreach.outside events log, log', lives,
      hchronicle.aside (.of_eq hgrows rfl rfl rfl), hlives⟩

end Session

end Resilience
