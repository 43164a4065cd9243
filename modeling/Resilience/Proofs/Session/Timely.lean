import Resilience.Proofs.Session.Custody
import Resilience.Proofs.Session.Tasks

/-!
# Sessions that keep time

A session **keeps time** if the clock moves on only when no task is ready, never past a timer that
is due, and whoever is due then is woken (`Session.Moment.jump`). Every run of a session by commands
keeps time (`Timely.step`), and settles down after each of them: no task is ready, and every timer
is still to come (`Session.Quiescent`).

In a session that keeps time no timer is overdue: a task whose timer is due now has a turn coming
(`Timely.prompt`). So a session in which no task is ready is quiescent (`Timely.quiescent`).
-/

namespace Resilience

namespace Session

variable {s s' s'' : Session} {id : TaskId} {t : Task} {timer : Timer}

/-- One thing that happens to a session that keeps time: a command that takes no time, an operation
that is defined with components that somebody holds, a turn of the next task, and, when no task is
ready, the clock moving on up to the timer that is due next. Somebody outside may write into the
events and the log or clear them. -/
inductive Moment (s : Session) : Session → Prop
  | perform (calendar : Diagnostics.Calendar) {command : Command} (hp : command.Plain)
      (htime : ∀ ms, command ≠ .advance ms) : Moment s (s.perform calendar command).2
  | install (name : String) {op : Operation} (hfits : op.Fits s.world)
      (hheld : ∀ work : Work, op.needs work = true → work.heldBy s = true) :
      Moment s { s with operations := s.operations.set name op }
  | turn {id : TaskId} {rest : List TaskId} (hready : s.world.ready = id :: rest) :
      Moment s (turn id (s.withReady rest))
  | jump (instant : Instant) (hidle : s.world.ready = [])
      (hnext : ∀ p ∈ s.timers, instant ≤ p.1.due) : Moment s (s.jump instant)
  | outside (events : List Event) (log : List (Instant × Entry)) :
      Moment s { s with world := { s.world with events := events, log := log } }

/-- What happens to a session that keeps time, one thing after the other. -/
abbrev Moments : Session → Session → Prop := Relation.ReflTransGen Moment

/-- The sessions that come about from a new one when time is kept. -/
def Timely (s : Session) : Prop := ∃ settings recording, Moments (create settings recording) s

/-- No task is ready, and every timer is still to come. -/
structure Quiescent (s : Session) : Prop where
  idle : s.world.ready = []
  ahead : ∀ p ∈ s.timers, s.world.now < p.1.due

/-- No timer is overdue, and whoever sleeps until now has a turn coming. -/
def Prompt (s : Session) : Prop := ∀ id t, s.tasks.get? id = some t → ∀ timer ∈ t.job.timers,
  s.world.now < timer.due ∨ (s.world.now = timer.due ∧ id ∈ s.world.ready)

theorem mem_timers (hs : s.Valid) :
    (timer, id) ∈ s.timers ↔ ∃ t, s.tasks.get? id = some t ∧ timer ∈ t.job.timers := by
  simp only [timers, List.mem_flatMap, List.mem_map, Table.get?_eq_some_iff hs.tasks_nodup]
  constructor
  · rintro ⟨⟨other, t⟩, hmem, sleep, hsleep, heq⟩
    obtain ⟨rfl, rfl⟩ := Prod.mk.inj heq
    exact ⟨t, hmem, hsleep⟩
  · rintro ⟨t, hmem, hsleep⟩
    exact ⟨(id, t), hmem, timer, hsleep, rfl⟩

/-! ### Turns and jumps -/

/-- A turn takes no time. -/
theorem now_turn (id : TaskId) (s : Session) : (turn id s).world.now = s.world.now := by
  cases ht : s.tasks.get? id with
  | none => rw [turn_of_not_mem ((Table.get?_eq_none_iff ..).mp ht)]
  | some t => exact (turn_spends s id ht).stable.now

theorem now_turns (n : Nat) (s : Session) : (turns n s).world.now = s.world.now :=
  turns_induct (motive := fun s' => s'.world.now = s.world.now)
    (fun id _ _ h => (now_turn id _).trans h) rfl n

theorem now_jump (instant : Instant) (s : Session) :
    (s.jump instant).world.now = max s.world.now instant := by
  obtain ⟨ready, hjump⟩ := s.jump_ready instant
  rw [hjump]
  rfl

/-- When nothing is due, time just passes. -/
theorem jump_of_none_due {instant : Instant} (h : ∀ p ∈ s.timers, instant < p.1.due) :
    s.jump instant = { s with world := s.world.pass instant } := by
  have hnone : s.timers.filter (·.1.due ≤ instant) = [] :=
    List.filter_eq_nil_iff.mpr fun p hp => by simpa using h p hp
  simp only [jump, hnone, List.mergeSort_nil, List.foldl_nil]

/-! ### Sessions that keep time are orderly -/

theorem Moment.orderly (h : s.Moment s') (hs : s.Orderly) : s'.Orderly := by
  cases h with
  | perform calendar hp htime => exact hs.proceeds (.perform calendar hp htime)
  | install name hfits _ => exact hs.proceeds (.install name hfits)
  | turn hready => exact hs.proceeds (.turn hready)
  | jump instant _ _ => exact hs.jump instant
  | outside events log => exact hs.outside events log

theorem Moments.orderly (h : Moments s s') (hs : s.Orderly) : s'.Orderly := by
  induction h with
  | refl => exact hs
  | tail _ hnext ih => exact hnext.orderly ih

/-- What happens while time is kept happens. -/
theorem Moment.later (h : s.Moment s') : s.Later s' := by
  cases h with
  | perform calendar hp _ => exact .happens .refl (.perform calendar hp)
  | install name hfits _ => exact .happens .refl (.install name hfits)
  | turn _ => exact .happens (.happens .refl (.idle (by constructor <;> rfl))) (.turn _)
  | jump instant _ _ =>
    obtain ⟨ready, hjump⟩ := s.jump_ready instant
    rw [hjump]
    exact .happens (.happens .refl (.pass instant)) (.idle (by constructor <;> rfl))
  | outside events log => exact .outside events log .refl

theorem Moments.later (h : Moments s s') : s.Later s' := by
  induction h with
  | refl => exact .refl
  | tail _ hnext ih => exact ih.trans hnext.later

/-! ### Nobody has a name for background work -/

theorem Anonymous.create (settings : Settings) (recording : Bool) :
    (Session.create settings recording).Anonymous where
  begun hn := by cases hn
  named hn := by cases hn

theorem Anonymous.turn (h : s.Anonymous) (id : TaskId) : (s.turn id).Anonymous := by
  cases ht : s.tasks.get? id with
  | none =>
    rw [turn_of_not_mem ((Table.get?_eq_none_iff ..).mp ht)]
    exact h
  | some t =>
    have hspends := turn_spends s id ht
    have hturned := turn_turned s id
    refine ⟨fun hn => (h.begun (hspends.taskNames ▸ hn)).trans_le hturned.serves.serial,
      fun {name other t'} hn ht' => ?_⟩
    have hname : s.taskNames.get? name = some other := hspends.taskNames ▸ hn
    by_cases heq : other = id
    · subst heq
      have hbackground := h.named hname ht
      rcases hspends.outcome with ⟨htasks, -⟩ | ⟨job', htasks, herrand, -, -⟩
      · rw [htasks, Table.get?_erase, if_pos rfl] at ht'
        cases ht'
      · rw [htasks, Table.get?_set, if_pos rfl] at ht'
        cases ht'
        rwa [← Job.background_errand, herrand, Job.background_errand]
    · exact h.named hname (hturned.others heq ▸ ht')

/-! ### No timer is overdue -/

namespace Prompt

/-- No task sleeps that did not sleep before. -/
theorem entrusts (h : s.Prompt) (hentrusts : Entrusts s s') : s'.Prompt := by
  intro id t ht timer htimer
  obtain ⟨t₀, ht₀, htimer₀⟩ := hentrusts.sleeps ht htimer
  rw [hentrusts.now]
  exact (h id t₀ ht₀ timer htimer₀).imp_right fun ⟨hnow, hid⟩ =>
    ⟨hnow, hentrusts.ready.subset hid⟩

/-- A task that sleeps after its turn has something to wait for. -/
theorem turn {rest : List TaskId} (h : s.Prompt) (hready : s.world.ready = id :: rest) :
    (Session.turn id (s.withReady rest)).Prompt := by
  intro other t' ht' timer htimer
  have hturned := turn_turned (s.withReady rest) id
  rw [now_turn]
  by_cases heq : other = id
  · subst heq
    cases ht : s.tasks.get? other with
    | none =>
      have hgone : other ∉ (s.withReady rest).tasks.keys := (Table.get?_eq_none_iff ..).mp ht
      rw [turn_of_not_mem hgone] at ht'
      exact absurd (ht.symm.trans ht') (by simp)
    | some t =>
      rcases (turn_spends (s.withReady rest) other (t := t) ht).outcome with
        ⟨htasks, -⟩ | ⟨job', htasks, -, -, hsleeps⟩
      · rw [htasks, Table.get?_erase, if_pos rfl] at ht'
        cases ht'
      · rw [htasks, Table.get?_set, if_pos rfl] at ht'
        cases ht'
        exact .inl (hsleeps timer htimer)
  · rw [hturned.others heq] at ht'
    refine (h other t' ht' timer htimer).imp_right fun ⟨hdue, hid⟩ => ⟨hdue, ?_⟩
    exact hturned.serves.ready.subset ((List.mem_cons.mp (hready ▸ hid)).resolve_left heq)

/-- Whoever is due after a jump is woken by it. -/
theorem jump {instant : Instant} (h : s.Prompt) (hs : s.Valid) (hidle : s.world.ready = [])
    (hnext : ∀ p ∈ s.timers, instant ≤ p.1.due) : (s.jump instant).Prompt := by
  obtain ⟨woken, hjump, hwoken⟩ := s.jump_eq instant
  intro id t ht timer htimer
  have ht : s.tasks.get? id = some t := by rwa [hjump] at ht
  have hmem : (timer, id) ∈ s.timers := (mem_timers hs).mpr ⟨t, ht, htimer⟩
  have hahead : s.world.now < timer.due := by
    refine (h id t ht timer htimer).resolve_right fun hdue => ?_
    rw [hidle] at hdue
    cases hdue.2
  have hinstant : instant ≤ timer.due := hnext _ hmem
  rw [now_jump]
  rcases hinstant.lt_or_eq with hlt | heq
  · exact .inl (max_lt hahead hlt)
  · refine .inr ⟨heq ▸ max_eq_right (heq ▸ hahead.le), ?_⟩
    obtain ⟨x, hx, hcaller⟩ := hwoken _ hmem heq.ge
    have hcaller : x.caller = id := hcaller
    rw [hjump, ← hcaller]
    exact World.mem_ready_wakeAll hx

end Prompt

namespace Timely

theorem create (settings : Settings) (recording : Bool) :
    (Session.create settings recording).Timely := ⟨settings, recording, .refl⟩

theorem moments (h : s.Timely) (hs : Moments s s') : s'.Timely := by
  obtain ⟨settings, recording, hrun⟩ := h
  exact ⟨settings, recording, hrun.trans hs⟩

theorem moment (h : s.Timely) (hs : s.Moment s') : s'.Timely := h.moments (.single hs)

theorem orderly (h : s.Timely) : s.Orderly := by
  obtain ⟨settings, recording, hrun⟩ := h
  exact hrun.orderly (.create settings recording)

theorem reachable (h : s.Timely) : s.Reachable := h.orderly.reachable

/-- What a new session has, and every moment of a session that keeps time keeps. -/
theorem induct {motive : Session → Prop}
    (hcreate : ∀ settings recording, motive (Session.create settings recording))
    (hmoment : ∀ s s', s.Timely → motive s → s.Moment s' → motive s') (h : s.Timely) :
    motive s := by
  obtain ⟨settings, recording, hrun⟩ := h
  induction hrun with
  | refl => exact hcreate settings recording
  | tail hbefore hnext ih => exact hmoment _ _ ⟨settings, recording, hbefore⟩ ih hnext

theorem anonymous (h : s.Timely) : s.Anonymous := by
  refine h.induct Anonymous.create fun s s' hs ih hnext => ?_
  cases hnext with
  | perform calendar hp htime =>
    exact (hs.reachable.perform_entrusts calendar hp htime).anonymous ih
  | @turn id rest _ => exact Anonymous.turn (s := s.withReady rest) ⟨ih.begun, ih.named⟩ id
  | jump instant _ _ =>
    obtain ⟨ready, hjump⟩ := s.jump_ready instant
    rw [hjump]
    exact ⟨ih.begun, ih.named⟩
  | install | outside => exact ⟨ih.begun, ih.named⟩

/-- **No timer is overdue** in a session that keeps time. -/
theorem prompt (h : s.Timely) : s.Prompt := by
  refine h.induct (fun _ _ id t ht => by cases ht) fun s s' hs ih hnext => ?_
  cases hnext with
  | perform calendar hp htime =>
    exact ih.entrusts (hs.reachable.perform_entrusts calendar hp htime)
  | turn hready => exact ih.turn hready
  | jump instant hidle hnext => exact ih.jump hs.reachable.valid_scene.1 hidle hnext
  | install | outside => exact ih

/-- **A session that keeps time is quiescent when no task is ready.** -/
theorem quiescent (h : s.Timely) (hidle : s.world.ready = []) : s.Quiescent := by
  refine ⟨hidle, fun ⟨timer, id⟩ hmem => ?_⟩
  obtain ⟨t, ht, htimer⟩ := (mem_timers h.reachable.valid_scene.1).mp hmem
  refine (h.prompt id t ht timer htimer).resolve_right fun hdue => ?_
  rw [hidle] at hdue
  cases hdue.2

end Timely

/-! ### The runs of a session keep time -/

theorem turns_moments (n : Nat) (s : Session) : Moments s (turns n s) :=
  turns_induct (motive := Moments s) (fun _ _ hready h => h.tail (.turn hready)) .refl n

theorem settle_moments (s : Session) : Moments s s.settle := turns_moments _ s

/-- A timer that is due next is due no later than any other. -/
theorem nextDue?_le {due : Instant} (h : s.nextDue? = some due) :
    ∀ p ∈ s.timers, due ≤ p.1.due := fun _ hp =>
  (List.min?_eq_some_iff.mp h).2 _ (List.mem_map_of_mem hp)

theorem exists_of_nextDue? {due : Instant} (h : s.nextDue? = some due) :
    ∃ p ∈ s.timers, p.1.due = due :=
  List.mem_map.mp (List.min?_eq_some_iff.mp h).1

/-- Going from one due timer to the next keeps time and stops at rest; with as many jumps as there
are milliseconds no timer is left that is due by then. -/
theorem Timely.jumps (h : s.Timely) (hidle : s.world.ready = []) (n : Nat) (target : Instant) :
    Moments s (jumps n target s) ∧ (jumps n target s).world.ready = [] ∧
      (target ≤ s.world.now + n → ∀ p ∈ (jumps n target s).timers, target < p.1.due) := by
  induction n generalizing s with
  | zero =>
    exact ⟨.refl, hidle, fun htarget p hp => htarget.trans_lt ((h.quiescent hidle).ahead p hp)⟩
  | succ n ih =>
    simp only [Session.jumps]
    split
    · next hnone =>
      refine ⟨.refl, hidle, fun _ p hp => ?_⟩
      have hempty := List.map_eq_nil_iff.mp (List.min?_eq_none_iff.mp hnone)
      rw [hempty] at hp
      cases hp
    · next due hdue =>
      split
      · next hle =>
        have hmoments : Moments s (s.jump due).settle :=
          .head (.jump due hidle (nextDue?_le hdue)) (settle_moments _)
        have hjumped := h.moment (.jump due hidle (nextDue?_le hdue))
        obtain ⟨hrest, hready, hreach⟩ := ih (h.moments hmoments) hjumped.reachable.settle_ready
        refine ⟨hmoments.trans hrest, hready, fun htarget => hreach ?_⟩
        obtain ⟨p, hp, rfl⟩ := exists_of_nextDue? hdue
        have hahead := (h.quiescent hidle).ahead p hp
        have hnow : (s.jump p.1.due).settle.world.now = max s.world.now p.1.due := by
          rw [Session.settle, now_turns, now_jump]
        simp only [Instant] at *
        omega
      · next hlater =>
        have hlt := Nat.lt_of_not_le hlater
        exact ⟨.refl, hidle, fun _ _ hp => hlt.trans_le (nextDue?_le hdue _ hp)⟩

namespace Timely

theorem advance (h : s.Timely) (ms : Nat) : Moments s (s.advance ms) := by
  have hsettle := settle_moments s
  obtain ⟨hjumps, hidle, hreach⟩ :=
    (h.moments hsettle).jumps h.reachable.settle_ready ms (s.world.now + ms)
  have hahead := hreach (by rw [Session.settle, now_turns])
  -- No timer is due by then, so the clock jumps there at once.
  have hlast := Moment.jump (s.world.now + ms) hidle fun p hp => (hahead p hp).le
  rw [jump_of_none_due hahead] at hlast
  exact (hsettle.trans hjumps).tail hlast

private theorem kept (h : s.Timely) (calendar : Diagnostics.Calendar) :
    Kept calendar (Moments s) where
  plain hp htime hrun := hrun.tail (.perform calendar hp htime)
  advance ms hrun := hrun.trans ((h.moments hrun).advance ms)
  outside events log hrun := hrun.tail (.outside events log)

theorem perform (h : s.Timely) (calendar : Diagnostics.Calendar) (command : Command) :
    Moments s (s.perform calendar command).2 := (h.kept calendar).perform .refl command

theorem performAll (h : s.Timely) (calendar : Diagnostics.Calendar) (commands : List Command) :
    Moments s (s.performAll calendar commands).2 := (h.kept calendar).performAll .refl commands

/-- **A session keeps time from one step to the next, and is quiescent after each.** -/
theorem step (h : s.Timely) (calendar : Diagnostics.Calendar) (command : Command) :
    Moments s (s.step calendar command).2.2 ∧ (s.step calendar command).2.2.Quiescent := by
  have hperform := h.perform calendar command
  have hmoments : Moments s (s.step calendar command).2.2 :=
    (hperform.trans (settle_moments _)).tail (.outside _ [])
  exact ⟨hmoments, (h.moments hmoments).quiescent (h.moments hperform).reachable.settle_ready⟩

end Timely

end Session

end Resilience
