import Resilience.Proofs.Session.Moves
import Resilience.Proofs.Session.Orderly

/-!
# Tasks that have ended

A task has a number that was not given out before, so a task that has ended does not come back: a
command may recruit new tasks, and a turn may end one, but no number is used twice
(`Session.Recruits`). So a number that was given out and is not that of a task never is that of a
task later (`Later.not_mem_tasks`).
-/

namespace Resilience

namespace Session

variable {s s' s'' : Session} {id : TaskId}

/-! ### Who is recruited -/

/-- The tasks afterwards were there before or have numbers that were not given out. -/
structure Recruits (s s' : Session) : Prop where
  serial : s.world.serial ≤ s'.world.serial
  tasks {id : TaskId} : id ∈ s'.tasks.keys → id ∈ s.tasks.keys ∨ s.world.serial ≤ id

namespace Recruits

theorem of_eq (hs : s.world.serial ≤ s'.world.serial) (ht : s'.tasks = s.tasks) : Recruits s s' :=
  ⟨hs, fun hid => .inl (ht ▸ hid)⟩

theorem refl (s : Session) : Recruits s s := of_eq (le_refl _) rfl

theorem trans (h : Recruits s s') (h' : Recruits s' s'') : Recruits s s'' where
  serial := h.serial.trans h'.serial
  tasks hid := (h'.tasks hid).elim h.tasks fun hnew => .inr (h.serial.trans hnew)

/-- Only the world changes. -/
theorem world {w : World} (h : s.world.serial ≤ w.serial) : Recruits s { s with world := w } :=
  of_eq h rfl

end Recruits

theorem spawn_recruits (s : Session) (job : Job) : Recruits s (s.spawn job).2 where
  serial := by
    have hwake := World.wake_idles s.world.serial s.world.fresh.2
    exact (Nat.le_succ _).trans hwake.serial
  tasks {other} hid := by
    rw [← Table.has_iff_mem_keys, Table.has, spawn, Table.get?_set] at hid
    split at hid
    · next heq => exact .inr heq.le
    · exact .inl (Table.has_iff_mem_keys.mp hid)

theorem cancel_recruits (s : Session) (name : String) : Recruits s (s.cancel name).2 := by
  unfold cancel
  split
  · next id _ =>
    split
    · refine ⟨(World.wake_idles id s.world).serial, fun {other} hid => .inl ?_⟩
      rwa [Table.keys_modify] at hid
    · exact .refl s
  · exact .refl s

theorem Move.recruits (h : s.Move s') : Recruits s s' := by
  cases h with
  | act h _ => exact .world (h 0).grows.serial
  | spawn => exact spawn_recruits s _
  | cancel name => exact cancel_recruits s name
  | release name =>
    unfold releasePermit
    split
    · next limiter _ =>
      obtain ⟨_, _, -, heq⟩ := s.world.releaseSlot_eq limiter
      exact .of_eq (by rw [heq]) rfl
    · exact .refl s
  | rename => exact .of_eq (le_refl _) rfl

/-! ### Turns recruit nobody -/

theorem turn_of_not_mem (h : id ∉ s.tasks.keys) : s.turn id = s := by
  simp only [turn, (Table.get?_eq_none_iff id s.tasks).mpr h]

theorem turn_recruits (s : Session) (id : TaskId) : Recruits s (s.turn id) := by
  have hturned := turn_turned s id
  refine ⟨hturned.serves.serial, fun {other} hother => .inl ?_⟩
  by_cases heq : other = id
  · subst heq
    by_contra hgone
    exact hgone (turn_of_not_mem hgone ▸ hother)
  · rw [← Table.has_iff_mem_keys, Table.has] at hother ⊢
    rwa [← hturned.others heq]

theorem advance_recruits (s : Session) (ms : Nat) : Recruits s (s.advance ms) := by
  refine advance_induct (motive := Recruits s) (fun {s₁} id rest _ h => ?_)
    (fun _ h => h.trans (.of_eq (le_refl _) rfl))
    (fun task h => h.trans (.world (World.wake_idles task _).serial)) (.refl s) ms
  have hready : Recruits s (s₁.withReady rest) := h.trans (.of_eq (le_refl _) rfl)
  exact hready.trans (turn_recruits ..)

/-- **No number is given to a task twice.** -/
theorem Happens.recruits (hs : s.Valid) (h : s.Happens s') : Recruits s s' := by
  cases h with
  | @perform calendar command hp =>
    by_cases htime : ∃ ms, command = .advance ms
    · obtain ⟨ms, rfl⟩ := htime
      exact advance_recruits s ms
    · have hmoves := perform_moves hs calendar hp fun ms heq => htime ⟨ms, heq⟩
      exact hmoves.keeps Recruits.refl (fun _ _ _ => .trans) fun _ _ => Move.recruits
  | install => exact .of_eq (le_refl _) rfl
  | turn id => exact turn_recruits s id
  | pass => exact .of_eq (le_refl _) rfl
  | idle hidles => exact .world hidles.serial

/-! ### Later sessions -/

namespace Later

theorem recruits (h : s.Later s') (hs : s.Reachable) : Recruits s s' := by
  induction h with
  | refl => exact .refl s
  | happens hlater hnext ih =>
    exact ih.trans (hnext.recruits (hlater.reachable hs).valid_scene.1)
  | outside events log _ ih => exact ih.trans (.of_eq (le_refl _) rfl)

/-- **A task that has ended never comes back.** -/
theorem not_mem_tasks (h : s.Later s') (hs : s.Reachable) (hgone : id ∉ s.tasks.keys)
    (hid : id < s.world.serial) : id ∉ s'.tasks.keys := fun hback =>
  ((h.recruits hs).tasks hback).elim hgone (Nat.not_le.mpr hid)

/-- What is later in a session is later in its scene. -/
theorem scene (h : s.Later s') (hs : s.Reachable) : s.scene.Later s'.scene := by
  induction h with
  | refl => exact .refl
  | @happens s₁ s₂ hlater hnext ih =>
    exact ih.trans (.of_steps (hnext.runs (hlater.reachable hs).valid_scene.1).scenes)
  | outside events log _ ih => exact ih.outside events log

end Later

end Session

end Resilience
