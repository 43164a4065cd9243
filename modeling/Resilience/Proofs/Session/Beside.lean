import Resilience.Proofs.Limiter.Scene
import Resilience.Proofs.Bucket.Scene
import Resilience.Proofs.Breaker.Scene
import Resilience.Proofs.Session.Commands
import Resilience.Proofs.Story.Chronicle

/-!
# What goes on beside calls

Commands, the clock, refills, sweeps, and tasks that acquire a slot or take a token go on beside the
calls of a session. They keep the components with their names, and no breaker counts a success
(`World.Beside`). No call is blocked after them that was not blocked before (`Session.Calm`).
-/

namespace Resilience

namespace World

/-- How many successes a breaker has counted. -/
def successes (name : String) (w : World) : Nat :=
  match w.breakers.get? name with
  | some c => c.state.successCount
  | none => 0

/-- What goes on beside calls: components stay and keep their names, and no breaker counts a
success. -/
structure Beside (w w' : World) : Prop extends w.Keeps w' where
  successes (name : String) : w'.successes name = w.successes name

theorem successes_of_eq {w w' : World} (h : w'.breakers = w.breakers) (name : String) :
    w'.successes name = w.successes name := by
  rw [successes, successes, h]

theorem Beside.of_eq {w w' : World} (h : w.Grows w') (hb : w'.breakers = w.breakers)
    (hl : w'.limiters = w.limiters) (ht : w'.buckets = w.buckets) : w.Beside w' where
  toKeeps := .of_eq h hl ht
  successes name := successes_of_eq hb name

/-- A breaker that moves on and counts no success leaves all counts as they are. -/
theorem BreakerMoves.successes {w w' : World} {name : String}
    {c : Component Breaker.Config Breaker} {event? : Option Event}
    (h : w.BreakerMoves w' name c event?) (hsame : c.state.successCount = w.successes name)
    (other : String) : w'.successes other = w.successes other := by
  rw [World.successes, h.breakers]
  by_cases heq : name = other
  · subst heq
    rw [if_pos rfl]
    exact hsame
  · rw [if_neg heq]
    rfl

theorem successes_of_some {w : World} {name : String} {c : Component Breaker.Config Breaker}
    (hc : w.breakers.get? name = some c) : w.successes name = c.state.successCount := by
  rw [successes, hc]

end World

theorem Breaker.successCount_enter (name : String) (config : Config) (now : Instant)
    (b : Breaker) : (b.enter name config now).2.2.successCount = b.successCount := by
  unfold enter
  split
  · rfl
  · split <;> rfl
  · split <;> rfl

open World in
/-- **A breaker counts a success only when an admission is given back.** -/
theorem BreakerAct.successes {sc sc' : Scene} (h : BreakerAct sc sc')
    (hnone : ∀ name probe, .admission name probe ∉ sc.holds) (name : String) :
    sc'.world.successes name = sc.world.successes name := by
  cases h with
  | other hquiet => exact successes_of_eq hquiet.breakers name
  | clock => rfl
  | create config hfresh hmoves =>
    exact hmoves.successes (by rw [World.successes, hfresh]) name
  | enter hc hmoves =>
    exact hmoves.successes ((Breaker.successCount_enter ..).trans (successes_of_some hc).symm) name
  | record _ | forgo _ => exact absurd (Multiset.mem_cons_self ..) (hnone _ _)
  | reset hc hmoves => exact hmoves.successes (successes_of_some hc).symm name

namespace Session

variable {s s' s'' : Session}

/-! ### What is done beside calls -/

/-- Nothing is done for a blocked call, and no breaker counts a success. -/
structure Calm (s s' : Session) : Prop where
  successes (name : String) : s'.world.successes name = s.world.successes name
  blocked {id : TaskId} {name : String} {op : Operation} {arg : Json} {c : Call}
      {cancelled : Bool} : s'.tasks.get? id = some ⟨.call name op arg (some c), cancelled⟩ →
      ∃ cancelled', s.tasks.get? id = some ⟨.call name op arg (some c), cancelled'⟩

namespace Calm

theorem of_eq (hb : s'.world.breakers = s.world.breakers) (ht : s'.tasks = s.tasks) :
    Calm s s' where
  successes name := World.successes_of_eq hb name
  blocked h := ⟨_, ht ▸ h⟩

theorem refl (s : Session) : Calm s s := of_eq rfl rfl

theorem trans (h : Calm s s') (h' : Calm s' s'') : Calm s s'' where
  successes name := (h'.successes name).trans (h.successes name)
  blocked hid :=
    have ⟨_, hid'⟩ := h'.blocked hid
    h.blocked hid'

/-- A job that is not a blocked call is put into the table. -/
theorem setTask {s : Session} (id : TaskId) {job : Job} (cancelled : Bool)
    (hjob : ∀ name op arg c, job ≠ .call name op arg (some c)) :
    Calm s { s with tasks := s.tasks.set id ⟨job, cancelled⟩ } where
  successes _ := rfl
  blocked {other _ _ _ _ _} h := by
    rw [Table.get?_set] at h
    split at h
    · obtain ⟨rfl, -⟩ := Task.mk.inj (Option.some.inj h)
      exact absurd rfl (hjob _ _ _ _)
    · exact ⟨_, h⟩

theorem eraseTask (id : TaskId) : Calm s { s with tasks := s.tasks.erase id } where
  successes _ := rfl
  blocked {other _ _ _ _ _} h := by
    rw [Table.get?_erase] at h
    split at h
    · cases h
    · exact ⟨_, h⟩

/-- Only the world changes, and no breaker. -/
theorem world {w : World} (h : w.breakers = s.world.breakers) : Calm s { s with world := w } :=
  .of_eq h rfl

theorem idle {w : World} (h : s.world.Idles w) : Calm s { s with world := w } := world h.breakers

end Calm

theorem spawn_calm (s : Session) {job : Job} (hjob : job.Unbegun) : Calm s (s.spawn job).2 := by
  have hwake : (s.world.fresh.2.wake s.world.serial).breakers = s.world.breakers :=
    (World.wake_idles ..).breakers
  have hworld := Calm.world hwake
  refine hworld.trans (.setTask s.world.serial false fun name op arg c heq => ?_)
  subst heq
  cases hjob

theorem cancel_calm (s : Session) (name : String) : Calm s (s.cancel name).2 := by
  unfold cancel
  split
  · next id _ =>
    split
    · refine (Calm.idle (World.wake_idles id s.world)).trans
        ⟨fun _ => rfl, fun {other _ _ _ _ _} h => ?_⟩
      dsimp only at h ⊢
      rw [Table.get?_modify] at h
      split at h
      · obtain ⟨t, ht, heq⟩ := Option.map_eq_some_iff.mp h
        obtain ⟨hjob, -⟩ := Task.mk.inj heq
        exact ⟨t.cancelled, by rw [ht, ← hjob]⟩
      · exact ⟨_, h⟩
    · exact .refl s
  · exact .refl s

/-- **No move does anything for a call.** -/
theorem Move.calm (h : s.Move s') : Calm s s' := by
  cases h with
  | act h =>
    have hknown : BreakersKnown ⟨s.world, 0⟩ := fun _ _ _ => Multiset.count_zero _
    exact ⟨((h 0).onBreakers hknown).successes fun _ _ => Multiset.notMem_zero _,
      fun hid => ⟨_, hid⟩⟩
  | spawn hjob => exact spawn_calm s hjob
  | cancel name => exact cancel_calm s name
  | release name =>
    unfold releasePermit
    split
    · next limiter _ =>
      obtain ⟨_, _, -, heq⟩ := s.world.releaseSlot_eq limiter
      exact .of_eq (by rw [heq]) rfl
    · exact .refl s
  | rename => exact .of_eq rfl rfl

/-- **No command that takes no time does anything for a call.** -/
theorem perform_calm (hs : s.Valid) (calendar : Diagnostics.Calendar) {command : Command}
    (hp : command.Plain) (htime : ∀ ms, command ≠ .advance ms) :
    Calm s (s.perform calendar command).2 :=
  (perform_moves hs calendar hp htime).keeps Calm.refl (fun _ _ _ => .trans) fun _ _ => Move.calm

/-! ### Turns of tasks that call nothing -/

section Turns

variable (s : Session) (task : TaskId)

/-- A task goes on with a job that is not a blocked call. -/
theorem continueTask_calm {job : Job} {w : World} (hb : w.breakers = s.world.breakers)
    (hjob : ∀ name op arg c, job ≠ .call name op arg (some c)) :
    Calm s (s.continueTask task job w) := by
  have hworld := Calm.world hb
  exact hworld.trans (.setTask task false hjob)

theorem keepPermit_calm (name : String) (limiter : ComponentId) :
    Calm s (s.keepPermit name limiter) := by
  unfold keepPermit
  dsimp only
  split
  · next old _ =>
    obtain ⟨_, _, -, heq⟩ := s.world.releaseSlot_eq old
    exact .of_eq (by rw [heq]) rfl
  · exact .of_eq rfl rfl

theorem slotAcquired_calm (name : String) (limiter : ComponentId) {w : World}
    (hb : w.breakers = s.world.breakers) : Calm s (s.slotAcquired name limiter w) := by
  have hworld : Calm s { s with world := w.note (.acquired name) } := .world hb
  exact hworld.trans (keepPermit_calm _ name limiter)

theorem turnAcquire_calm (name : String) (limiter : ComponentId) (ticket? : Option Ticket) :
    Calm s (s.turnAcquire task name limiter ticket?) := by
  cases ticket? with
  | none =>
    obtain ⟨limiters, events, log, serial, -, -, heq⟩ := s.world.askSlot_eq limiter task
    have hb : (s.world.askSlot limiter task).2.breakers = s.world.breakers := by rw [heq]
    simp only [turnAcquire]
    split
    · next hask => exact slotAcquired_calm s name limiter (by rwa [hask] at hb)
    · next hask => exact continueTask_calm s task (by rwa [hask] at hb) (by simp)
    · next hask => exact .of_eq (by rwa [hask] at hb) rfl
  | some ticket =>
    simp only [turnAcquire]
    split
    · next hpick =>
      obtain ⟨_, _, -, -, rfl⟩ := World.pickUpSlot?_eq_some hpick
      exact slotAcquired_calm s name limiter rfl
    · exact continueTask_calm s task rfl (by simp)

theorem turnTake_calm (name : String) (bucket : ComponentId) (ticket? : Option Ticket) :
    Calm s (s.turnTake task name bucket ticket?) := by
  cases ticket? with
  | none =>
    obtain ⟨buckets, ready, serial, -, -, heq⟩ := s.world.askToken_eq bucket task
    have hb : (s.world.askToken bucket task).2.breakers = s.world.breakers := by rw [heq]
    simp only [turnTake]
    split
    · next hask => exact .of_eq (by rwa [hask] at hb) rfl
    · next hask => exact continueTask_calm s task (by rwa [hask] at hb) (by simp)
    · next hask => exact .of_eq (by rwa [hask] at hb) rfl
  | some ticket =>
    simp only [turnTake]
    split
    · next hpick =>
      obtain ⟨_, _, -, -, rfl⟩ := World.pickUpToken_eq_granted hpick
      exact .of_eq rfl rfl
    · exact .of_eq rfl rfl
    · exact continueTask_calm s task rfl (by simp)

theorem sleepTick_calm (tick : Duration) {job : Option Timer → Job}
    (hjob : ∀ timer? name op arg c, job timer? ≠ .call name op arg (some c)) :
    Calm s (s.sleepTick task tick job) := by
  have hidles := World.sleep_idles tick s.world
  exact continueTask_calm s task hidles.breakers (hjob _)

theorem turnRefill_calm (bucket : ComponentId) (timer? : Option Timer) :
    Calm s (s.turnRefill task bucket timer?) := by
  unfold turnRefill
  split
  · exact .refl s
  · exact sleepTick_calm s task _ (by simp)
  · split
    · exact .refl s
    · split
      · obtain ⟨_, _, -, heq⟩ := s.world.refillBucket_eq bucket
        have hrefill : Calm s { s with world := (s.world.refillBucket bucket).2 } :=
          .world (by rw [heq])
        exact hrefill.trans (sleepTick_calm _ task _ (by simp))
      · exact continueTask_calm s task rfl (by simp)

theorem turnSweep_calm (cache : ComponentId) (timer? : Option Timer) :
    Calm s (s.turnSweep task cache timer?) := by
  unfold turnSweep
  split
  · exact .refl s
  · exact sleepTick_calm s task _ (by simp)
  · split
    · exact .refl s
    · split
      · obtain ⟨_, _, _, -, heq⟩ := s.world.sweepCache_eq cache
        have hsweep : Calm s { s with world := s.world.sweepCache cache } :=
          .world (by rw [heq])
        exact hsweep.trans (sleepTick_calm _ task _ (by simp))
      · exact continueTask_calm s task rfl (by simp)

/-- A task that calls nothing is taken apart. -/
theorem abandon_calm {job : Job} (hjob : ∀ name op arg c, job ≠ .call name op arg (some c)) :
    Calm s { s with world := job.abandon s.world } := by
  match job with
  | .call name op arg (some c) => exact absurd rfl (hjob name op arg c)
  | .acquire _ limiter (some ticket) =>
    obtain ⟨_, _, -, heq⟩ := s.world.leaveSlot_eq limiter ticket
    exact .world (by simp only [Job.abandon, heq])
  | .take _ bucket (some ticket) => exact .of_eq rfl rfl
  | .call _ _ _ none | .acquire _ _ none | .take _ _ none | .refill .. | .sweep .. => exact .refl s

end Turns

end Session

end Resilience
