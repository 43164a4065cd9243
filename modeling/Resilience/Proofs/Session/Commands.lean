import Resilience.Proofs.Session.Moves

/-!
# Commands act in scenes

Every command is a sequence of acts (`perform_runs`), and so is every turn. `Happens` puts
together what may happen to a session: commands, operations of any shape that are defined, turns
of any tasks in any order, the clock moving on, changes of the run queue. A session that comes
about in this way (`Reachable`) is valid and has a scene that acts lead to from an empty world
(`Reachable.valid_scene`). Commands may come between any two turns, which is more than
`Session.step` allows.
-/

namespace Resilience

namespace Session

variable {s s' : Session}

/-- **Carrying out a command is a sequence of acts.** -/
theorem perform_runs (calendar : Diagnostics.Calendar) {command : Command} (hp : command.Plain)
    (hs : s.Valid) : Runs 0 s (s.perform calendar command).2 := by
  by_cases htime : ∃ ms, command = .advance ms
  · obtain ⟨ms, rfl⟩ := htime
    exact advance_runs hs ms
  · exact (perform_moves hs calendar hp fun ms heq => htime ⟨ms, heq⟩).runs hs

/-! ### Induction over commands -/

/-- Something about sessions is kept by the commands that are no batches, when time passes, and
when somebody outside writes into the events and the log. -/
structure Kept (calendar : Diagnostics.Calendar) (motive : Session → Prop) : Prop where
  plain {s : Session} {command : Command} : command.Plain → (∀ ms, command ≠ .advance ms) →
    motive s → motive (s.perform calendar command).2
  advance {s : Session} (ms : Nat) : motive s → motive (s.advance ms)
  outside {s : Session} (events : List Event) (log : List (Instant × Entry)) : motive s →
    motive { s with world := { s.world with events := events, log := log } }

namespace Kept

variable {calendar : Diagnostics.Calendar} {motive : Session → Prop}

mutual

/-- **Then every command keeps it**, and so do commands in batches. -/
theorem perform (hk : Kept calendar motive) {s : Session} (h : motive s) (command : Command) :
    motive (s.perform calendar command).2 := by
  by_cases htime : ∃ ms, command = .advance ms
  · obtain ⟨ms, rfl⟩ := htime
    exact hk.advance ms h
  by_cases hp : command.Plain
  · exact hk.plain hp (fun ms heq => htime ⟨ms, heq⟩) h
  cases command with
  | batch commands => exact hk.performAll h commands
  | clearEvents => exact hk.outside [] s.world.log h
  | emit event =>
    obtain ⟨events, log, hreport⟩ := World.report_eq (some event) s.world
    simp only [Session.perform, hreport]
    exact hk.outside events log h
  | _ => exact absurd trivial hp

theorem performAll (hk : Kept calendar motive) {s : Session} (h : motive s)
    (commands : List Command) : motive (s.performAll calendar commands).2 := by
  match commands with
  | [] => exact h
  | command :: rest => exact hk.performAll (hk.perform h command) rest

end

end Kept

/-! ### Reachable sessions -/

/-- One thing that can happen to a session. Commands may come between any two turns, operations
may be of any shape, tasks have turns in any order, and the run queue and the log may be changed
from outside. -/
inductive Happens (s : Session) : Session → Prop
  | perform (calendar : Diagnostics.Calendar) {command : Command} (h : command.Plain) :
      Happens s (s.perform calendar command).2
  | install (name : String) {op : Operation} (h : op.Fits s.world) :
      Happens s { s with operations := s.operations.set name op }
  | turn (id : TaskId) : Happens s (s.turn id)
  | pass (instant : Instant) : Happens s { s with world := s.world.pass instant }
  | idle {w : World} (h : s.world.Idles w) : Happens s { s with world := w }

/-- **Whatever happens to a session is a sequence of acts.** -/
theorem Happens.runs (hs : s.Valid) (h : s.Happens s') : Runs 0 s s' := by
  cases h with
  | perform calendar h => exact perform_runs calendar h hs
  | install name h => exact ⟨hs.install name h, (Runs.refl hs).steps⟩
  | turn id => exact turn_runs hs id
  | pass instant => exact pass_runs hs instant
  | idle h => exact idle_runs hs h

/-- Things that happen one after the other are a sequence of acts. -/
theorem runs_of_happens (hs : s.Valid) (h : Relation.ReflTransGen Happens s s') :
    Runs 0 s s' := by
  induction h with
  | refl => exact .refl hs
  | tail _ hlast ih => exact ih.trans (hlast.runs ih.valid)

/-- Commands that leave the events alone happen one after the other. -/
theorem performAll_happens (calendar : Diagnostics.Calendar) {commands : List Command}
    (hplain : ∀ command ∈ commands, command.Plain) :
    Relation.ReflTransGen Happens s (s.performAll calendar commands).2 := by
  induction commands generalizing s with
  | nil => exact .refl
  | cons command rest ih =>
    obtain ⟨hfirst, hrest⟩ := List.forall_mem_cons.mp hplain
    exact .head (.perform calendar hfirst) (ih hrest)

/-- Whatever happens to a new session, acts lead to its scene from an empty world. -/
theorem steps_of_happens {settings : Settings} {recording : Bool}
    (h : Relation.ReflTransGen Happens (create settings recording) s) :
    Steps (Scene.empty settings recording) s.scene :=
  (runs_of_happens (valid_create ..) h).scenes

/-- The sessions that come about from a new one, while somebody outside may write into the events
and the log or clear them. -/
inductive Reachable : Session → Prop
  | create (settings : Settings) (recording : Bool) : Reachable (create settings recording)
  | happens {s s' : Session} : Reachable s → s.Happens s' → Reachable s'
  | outside {s : Session} (events : List Event) (log : List (Instant × Entry)) :
      Reachable s → Reachable { s with world := { s.world with events := events, log := log } }

theorem Reachable.run {s s' : Session} (h : s.Reachable)
    (hrun : Relation.ReflTransGen Happens s s') : s'.Reachable := by
  induction hrun with
  | refl => exact h
  | tail _ hlast ih => exact ih.happens hlast

/-- **A session that can be reached is valid, and so is its scene.** -/
theorem Reachable.valid_scene {s : Session} (h : s.Reachable) : s.Valid ∧ s.scene.Reachable := by
  induction h with
  | create settings recording => exact ⟨valid_create .., .empty settings recording⟩
  | happens _ h ih =>
    have hruns := h.runs ih.1
    exact ⟨hruns.valid, ih.2.steps hruns.scenes⟩
  | outside events log _ ih =>
    exact ⟨ih.1.grow (.of_eq rfl rfl rfl rfl rfl (le_refl _)), .outside events log ih.2⟩

/-! ### Later sessions -/

/-- The sessions that come about from a first one, while somebody outside may write into the events
and the log or clear them. -/
inductive Later (s : Session) : Session → Prop
  | refl : Later s s
  | happens {s' s'' : Session} : Later s s' → s'.Happens s'' → Later s s''
  | outside {s' : Session} (events : List Event) (log : List (Instant × Entry)) :
      Later s s' → Later s { s' with world := { s'.world with events := events, log := log } }

namespace Later

variable {s'' : Session}

theorem trans (h : s.Later s') (h' : s'.Later s'') : s.Later s'' := by
  induction h' with
  | refl => exact h
  | happens _ hnext ih => exact ih.happens hnext
  | outside events log _ ih => exact ih.outside events log

theorem reachable (h : s.Later s') (hs : s.Reachable) : s'.Reachable := by
  induction h with
  | refl => exact hs
  | happens _ hnext ih => exact ih.happens hnext
  | outside events log _ ih => exact ih.outside events log

end Later

/-- What is later stays so, whatever the commands. -/
private theorem kept_later (s : Session) (calendar : Diagnostics.Calendar) :
    Kept calendar s.Later where
  plain hp _ h := h.happens (.perform calendar hp)
  advance ms h := h.happens (@Happens.perform _ calendar (.advance ms) trivial)
  outside events log h := h.outside events log

/-- **Every command leads to a later session.** -/
theorem perform_later (s : Session) (calendar : Diagnostics.Calendar) (command : Command) :
    s.Later (s.perform calendar command).2 :=
  (kept_later s calendar).perform .refl command

theorem performAll_later (s : Session) (calendar : Diagnostics.Calendar)
    (commands : List Command) : s.Later (s.performAll calendar commands).2 :=
  (kept_later s calendar).performAll .refl commands

theorem turns_later (s : Session) (n : Nat) : s.Later (turns n s) :=
  turns_induct (motive := s.Later)
    (fun id _ _ h => (h.happens (.idle (by constructor <;> rfl))).happens (.turn id)) .refl n

theorem step_later (s : Session) (calendar : Diagnostics.Calendar) (command : Command) :
    s.Later (s.step calendar command).2.2 :=
  ((s.perform_later calendar command).trans (turns_later ..)).happens
    (.idle (by constructor <;> rfl))

namespace Reachable

/-- Every command leads from a session that can be reached to another. -/
theorem perform (h : s.Reachable) (calendar : Diagnostics.Calendar) (command : Command) :
    (s.perform calendar command).2.Reachable :=
  (s.perform_later calendar command).reachable h

theorem performAll (h : s.Reachable) (calendar : Diagnostics.Calendar)
    (commands : List Command) : (s.performAll calendar commands).2.Reachable :=
  (s.performAll_later calendar commands).reachable h

theorem turns (h : s.Reachable) (n : Nat) : (turns n s).Reachable := (turns_later s n).reachable h

/-- A session stays reachable from one step to the next. -/
theorem step (h : s.Reachable) (calendar : Diagnostics.Calendar) (command : Command) :
    (s.step calendar command).2.2.Reachable := (s.step_later calendar command).reachable h

end Reachable

end Session

end Resilience
