import Resilience.Proofs.Abandonment
import Resilience.Proofs.Story.Limit
import Resilience.Proofs.Session.Tasks
import Resilience.Proofs.Breaker.Release

/-!
# Time limits

A call with a time limit is its inner call until the deadline: it has the outcome of the inner call
if that is there at the first turn at the deadline or after it, or before. Otherwise it is over in
that turn, with a failure of its own, and the inner call is taken apart in the same turn. Then
nothing is left of the inner call. What it held is given back, each hold once; no breaker records
anything on its account and no cache stores anything; it has no turn any more, and in no later scene
does anybody hold a place of it or wait on its behalf (`Timeout.timeout_law`).

The deadline is looked at after the inner call has had its turn, so an inner call that finishes
exactly at the limit, or is handed a slot exactly at the limit and needs no more time, has made it.
-/

namespace Resilience

open Operation (Course)
open Operation.Course (Timed)

theorem Duration.ceilMillis_eq (d : Duration) : d.ceilMillis = (d.nanos + 999999) / 1000000 := by
  unfold ceilMillis
  split
  · next hwhole =>
    simp only [millis, perMilli] at hwhole ⊢
    omega
  · next hpart =>
    simp only [millis, perMilli] at hpart ⊢
    omega

/-- A deadline is a whole number of milliseconds after the start, rounded up, and never more than
thirty years of 365 days. -/
theorem Instant.after_eq (start : Instant) (limit : Duration) : start.after limit =
    start + (min limit.nanos (30 * 365 * 86400 * 1000000000) + 999999) / 1000000 := by
  rw [Instant.after, Duration.ceilMillis_eq]
  rfl

namespace Session

variable {s s' : Session} {id : TaskId} {label name : String} {op inner : Operation}
  {limit : Duration} {arg : Json} {call? : Option Call}

/-- What is held beside a task: what the other tasks hold, and the slots that are kept. -/
def holdsBeside (id : TaskId) (s : Session) : Multiset Hold :=
  tasksHold (s.tasks.erase id) + permitsHold s.permits

theorem Reachable.scene_of_get? (hs : s.Reachable) {t : Task} (ht : s.tasks.get? id = some t) :
    Scene.Reachable ⟨s.world, t.job.holds + s.holdsBeside id⟩ := by
  obtain ⟨hvalid, hscene⟩ := hs.valid_scene
  rwa [scene, holds, tasksHold_of_get? hvalid.tasks_nodup ht, add_assoc] at hscene

/-! ### Calls that are over -/

/-- A call that is over leaves its outcome in the log. -/
theorem turn_of_ready {outcome : Outcome} {w : World}
    (htask : s.tasks.get? id = some ⟨.call label op arg call?, false⟩)
    (hready : op.goOn id arg call? s.world = (.ready outcome, w)) :
    s.turn id = { s with tasks := s.tasks.erase id, world := w.note (.done label outcome) } := by
  have hturn : s.turn id =
      turnCall id label op arg call? { s with tasks := s.tasks.erase id } := by
    simp [turn, htask]
  rw [hturn, turnCall_eq]
  dsimp only
  rw [hready]

/-- **A call that is over has no turn any more**: its task has ended and does not come back. -/
theorem Reachable.not_mem_tasks_of_over (hs : s.Reachable)
    (htask : s.tasks.get? id = some ⟨.call label op arg call?, false⟩)
    (hover : ∀ c, (op.goOn id arg call? s.world).1 ≠ .pending c)
    (hlater : (s.turn id).Later s') : id ∉ s'.tasks.keys := by
  obtain ⟨hvalid, -⟩ := hs.valid_scene
  have hid : id ∈ s.tasks.keys :=
    Table.has_iff_mem_keys.mp (Option.isSome_iff_exists.mpr ⟨_, htask⟩)
  refine hlater.not_mem_tasks (hs.happens (.turn id)) ?_
    ((hvalid.tasks_lt hid).trans_le (turn_recruits s id).serial)
  have hgone : id ∉ (s.tasks.erase id).keys := by
    rw [Table.keys_erase]
    simp
  have hturn : s.turn id =
      turnCall id label op arg call? { s with tasks := s.tasks.erase id } := by
    simp [turn, htask]
  rw [hturn, turnCall_eq]
  dsimp only
  split
  · next c _ heq => exact absurd (congrArg Prod.fst heq) (hover c)
  · exact hgone
  · exact hgone

/-! ### Turns of calls with time limits -/

/-- **A turn of a call with a time limit** in a session is a turn of its course, and a turn of its
inner call that goes from what the task holds to what the inner call holds then. -/
theorem Reachable.exists_timed_turn (hs : s.Reachable)
    (htask : s.tasks.get? id = some ⟨.call label (.timed inner limit name) arg call?, false⟩) :
    let op := Operation.timed inner limit name
    let polled := op.goOn id arg call? s.world
    ∃ first gaps gaps' v poll', Course id op arg first gaps polled.2 polled.1 ∧
      (Operation.Course.turns first gaps polled.2).getLast? = some (s.world, polled.2) ∧
      Timed id inner limit name arg first gaps polled.2 polled.1 gaps' v poll' ∧
      Leads s.world (Job.call label op arg call?).holds (poll', v) := by
  have hfits := hs.valid_scene.1.tasks_fit htask
  -- A call that has begun has a course, and this turn of the task is its next one.
  cases call? with
  | none =>
    exact ⟨s.world, [], [], _, _, .start rfl, rfl, .start .., inner.start_leads id arg hfits⟩
  | some c =>
    obtain ⟨log, lives, hchronicle, hlives⟩ := hs.told.exists_lives
    obtain ⟨life, hlife, hof⟩ := hlives id label _ arg c false htask
    obtain ⟨first, gaps, w, hcourse⟩ := hchronicle.course life hlife
    rw [hof.task, hof.op, hof.arg, hof.poll] at hcourse
    obtain ⟨gaps', v, poll', hbefore⟩ := hcourse.exists_untimed
    obtain ⟨timer, c', rfl, -, htimed⟩ := hbefore.resume s.world
    refine ⟨first, gaps ++ [(w, s.world)], _, _, _, .resume hcourse rfl, ?_, htimed,
      c'.resume_leads id hfits⟩
    exact (congrArg List.getLast? (Operation.Course.turns_concat ..)).trans List.getLast?_concat

/-- **Nothing is left of an inner call that ran out of time**, in any later session. -/
theorem Reachable.gone_of_timeout (hs : s.Reachable)
    (htask : s.tasks.get? id = some ⟨.call label op arg call?, false⟩) {c : Call} {v : World}
    {outcome : Outcome} (hleads : Leads s.world (Job.call label op arg call?).holds (.pending c, v))
    (hready : op.goOn id arg call? s.world = (.ready outcome, c.abandon v))
    (hlater : (s.turn id).Later s') : c.Gone s'.scene := by
  have hblocked := (hs.scene_of_get? htask).steps (hleads.steps _)
  have hafter : Scene.Later ⟨c.abandon v, s.holdsBeside id⟩ (s.turn id).scene := by
    rw [turn_of_ready htask hready]
    exact .outside _ _ .refl
  exact c.gone_of_later hblocked (hafter.trans (hlater.scene (hs.happens (.turn id))))

end Session

namespace Timeout

open Operation.Course (turns)

/-- No turn of a course takes time, and a call that is over has no turn any more. -/
structure TakesTurns (task : TaskId) (op : Operation) (arg : Json) (first : World)
    (gaps : List (World × World)) (w : World) (poll : Poll) : Prop where
  timeless : ∀ turn ∈ turns first gaps w, turn.2.now = turn.1.now
  last : (∀ c, poll ≠ .pending c) → ∀ more w' poll',
    Course task op arg first (gaps ++ more) w' poll' → more = []

/-- **A call with a time limit takes the turns of its inner call** as if there were no limit, up to
the first turn at the deadline or after it (`Operation.Course.Timed`). When the inner call is over,
so is the call, with the same outcome and in the same world. When the inner call is blocked, then
the call is blocked if the deadline has not come; and if it has, the call is over with a failure
that has its name and its limit, and the inner call is taken apart (`Operation.Course.InTime`). -/
structure WithinLimit (task : TaskId) (inner : Operation) (limit : Duration) (name : String)
    (arg : Json) (first : World) : Prop where
  untimed {gaps : List (World × World)} {w : World} {poll : Poll} :
    Course task (.timed inner limit name) arg first gaps w poll →
      ∃ gaps' v poll', Timed task inner limit name arg first gaps w poll gaps' v poll'
  /-- Every course of the inner call up to that turn is taken with the limit as well. -/
  timed {gaps' : List (World × World)} {v : World} {poll' : Poll} :
    Course task inner arg first gaps' v poll' →
      (∀ gap ∈ gaps', gap.1.now < first.now.after limit) →
        ∃ gaps w poll, Course task (.timed inner limit name) arg first gaps w poll ∧
          Timed task inner limit name arg first gaps w poll gaps' v poll'

/-- **Taking a call apart** gives back each of its holds once and does nothing else: nothing is
stored, reported or invoked. No breaker counts anything, and those for which the call was the probe
await it no more. -/
structure TakenApart (task : TaskId) (c : Call) (v : World) : Prop where
  did : Did task v c.undoing (c.abandon v)
  undone : (c.undoing : Multiset Deed) = c.holds.map Hold.undo
  world : ∃ breakers limiters buckets ready, c.abandon v =
    { v with breakers := breakers, limiters := limiters, buckets := buckets, ready := ready }
  breakers (breaker : String) : (c.abandon v).breakers.get? breaker =
    (v.breakers.get? breaker).map fun b =>
      if .admission breaker true ∈ c.holds then
        { b with state := { b.state with probing := false } }
      else b

/-- **A call that was taken apart has left nothing behind**: the limiters count the slots of the
others and keep none back while somebody is in line, and in all later scenes the call is gone. -/
structure Cleared (c : Call) (v : World) (H : Multiset Hold) : Prop where
  reachable : Scene.Reachable ⟨c.abandon v, H⟩
  limiters {id : ComponentId} {l : Component Limiter.Config Limiter} :
    (c.abandon v).limiters.get? id = some l →
      l.state.active = H.count (.slot id) + l.state.granted.length ∧
      (∀ ticket ∈ l.state.granted, .place id ticket ∈ H) ∧
      (l.state.queue ≠ [] → l.state.active = l.config.slots)
  gone {sc : Scene} : Scene.Later ⟨c.abandon v, H⟩ sc → c.Gone sc

/-- **A turn of a call with a time limit in a session**, in which it comes to `poll` and leaves `w`:
the turn is the latest one of such a course. A call that is over leaves its outcome in the log, and
its task does not come back; and if its inner call ran out of time, then that is gone in all later
sessions. -/
def TurnsInTime (s : Session) (id : TaskId) (label : String) (inner : Operation) (limit : Duration)
    (name : String) (arg : Json) (poll : Poll) (w : World) : Prop :=
  ∃ first gaps gaps' v poll', Course id (.timed inner limit name) arg first gaps w poll ∧
    (turns first gaps w).getLast? = some (s.world, w) ∧
    Timed id inner limit name arg first gaps w poll gaps' v poll' ∧
    (∀ outcome, poll = .ready outcome → s.turn id =
      { s with tasks := s.tasks.erase id, world := w.note (.done label outcome) }) ∧
    ∀ s', (s.turn id).Later s' →
      ((∀ c, poll ≠ .pending c) → id ∉ s'.tasks.keys) ∧
      ∀ c, poll' = .pending c → first.now.after limit ≤ v.now → c.Gone s'.scene

theorem withinLimit (task : TaskId) (inner : Operation) (limit : Duration) (name : String)
    (arg : Json) (first : World) : WithinLimit task inner limit name arg first where
  untimed h := h.exists_untimed
  timed h hearlier := h.exists_timed limit name hearlier

theorem takenApart (task : TaskId) (c : Call) (v : World) : TakenApart task c v where
  did := c.abandon_did task v
  undone := c.undoing_eq
  world := c.abandon_eq v
  breakers := c.get?_breakers_abandon v

theorem cleared {c : Call} {v : World} {H : Multiset Hold}
    (h : Scene.Reachable ⟨v, c.holds + H⟩) : Cleared c v H where
  reachable := h.steps (c.abandon_steps v H)
  limiters hl := Limiter.accounted (h.steps (c.abandon_steps v H)) hl
  gone hlater := Call.gone_of_later h hlater

theorem turnsInTime {s : Session} {id : TaskId} {label name : String} {inner : Operation}
    {limit : Duration} {arg : Json} {call? : Option Call} (hs : s.Reachable)
    (htask : s.tasks.get? id = some ⟨.call label (.timed inner limit name) arg call?, false⟩)
    {poll : Poll} {w : World}
    (hpolled : (Operation.timed inner limit name).goOn id arg call? s.world = (poll, w)) :
    TurnsInTime s id label inner limit name arg poll w := by
  obtain ⟨first, gaps, gaps', v, poll', hcourse, hlast, htimed, hleads⟩ :=
    hs.exists_timed_turn htask
  rw [hpolled] at hcourse hlast htimed
  refine ⟨first, gaps, gaps', v, poll', hcourse, hlast, htimed, ?_, fun s' hlater => ⟨?_, ?_⟩⟩
  · rintro outcome rfl
    exact Session.turn_of_ready htask hpolled
  · intro hover
    exact hs.not_mem_tasks_of_over htask (fun c => hpolled ▸ hover c) hlater
  · rintro c rfl hlate
    -- Of the three ways in which a turn can end, only running out of time leaves a call behind.
    cases htimed.inTime with
    | ended hended => exact absurd rfl (hended c)
    | early hearly => exact absurd hearly (Nat.not_lt.mpr hlate)
    | late => exact hs.gone_of_timeout htask hleads hpolled hlater

/-- **The law of time limits.** The deadline is so many milliseconds after the start, rounded up. No
time passes in a turn (`TakesTurns`). A call with a time limit takes the turns of its inner call up
to the first one at the deadline or after it, in which it has the outcome of the inner call or takes
it apart (`WithinLimit`). Of a call that is taken apart nothing is left: not in the world
(`TakenApart`), and not in any later scene (`Cleared`). The calls of sessions take these courses,
turn by turn (`TurnsInTime`). -/
theorem timeout_law :
    (∀ (start : Instant) (limit : Duration), start.after limit =
      start + (min limit.nanos (30 * 365 * 86400 * 1000000000) + 999999) / 1000000) ∧
    (∀ (task : TaskId) (op : Operation) (arg : Json) (first w : World)
      (gaps : List (World × World)) (poll : Poll), Course task op arg first gaps w poll →
      TakesTurns task op arg first gaps w poll) ∧
    (∀ (task : TaskId) (inner : Operation) (limit : Duration) (name : String) (arg : Json)
      (first : World), WithinLimit task inner limit name arg first) ∧
    (∀ (task : TaskId) (c : Call) (v : World), TakenApart task c v) ∧
    (∀ (c : Call) (v : World) (H : Multiset Hold), Scene.Reachable ⟨v, c.holds + H⟩ →
      Cleared c v H) ∧
    ∀ (s : Session) (id : TaskId) (label name : String) (inner : Operation) (limit : Duration)
      (arg : Json) (call? : Option Call), s.Reachable →
      s.tasks.get? id = some ⟨.call label (.timed inner limit name) arg call?, false⟩ →
      ∀ poll w, (Operation.timed inner limit name).goOn id arg call? s.world = (poll, w) →
        TurnsInTime s id label inner limit name arg poll w := by
  refine ⟨Instant.after_eq, ?_, withinLimit, takenApart, fun _ _ _ h => cleared h, ?_⟩
  · intro task op arg first w gaps poll h
    exact ⟨h.now_eq, fun hover more w' poll' h' => h.eq_nil_of_over hover h'⟩
  · intro s id label name inner limit arg call? hs htask poll w hpolled
    exact turnsInTime hs htask hpolled

/-- A source that takes its time, behind a breaker, and not longer than twenty milliseconds. -/
def slow : Operation := .timed (.guarded (.source 0) "b") (.ofMillis 20) "slow"

/-- A call of it that has begun. -/
def sleeping : Call :=
  .timed ⟨20, 3⟩ (.ofMillis 20) "slow" (.guarded "b" false (.working ⟨50, 2⟩ .echo .null))

/-- A session in which such a call is at its deadline. -/
def atDeadline : Session :=
  let s := ((Session.create {} false).performAll ⟨toString, toString⟩
    [.define "op" [⟨some (.ofMillis 50), .echo⟩] [.breaker "b", .timeout (.ofMillis 20) "slow"],
      .call "op" "c" .null]).2.turn 1
  { s with world := s.world.pass 20 }

theorem reachable_atDeadline : atDeadline.Reachable :=
  (((Session.Reachable.create {} false).performAll ⟨toString, toString⟩
    [.define "op" [⟨some (.ofMillis 50), .echo⟩] [.breaker "b", .timeout (.ofMillis 20) "slow"],
      .call "op" "c" .null]).happens (.turn 1)).happens (.pass 20)

/-- A call that has the only slot of a limiter and sleeps. -/
def holding : Call := .holdingSlot 0 (.working ⟨50, 3⟩ .echo .null)

/-- A world with such a limiter, in which another caller is in line. -/
def oneInLine : World :=
  let w := (World.createLimiter "l" ⟨1, 0⟩ { settings := {}, recording := false }).2
  ((w.askSlot 0 1).2.askSlot 0 2).2

theorem reachable_oneInLine : Scene.Reachable ⟨oneInLine, holding.holds + {.place 0 1}⟩ := by
  have hlimiter := (Scene.Reachable.empty {} false).act (.createLimiter "l" ⟨1, 0⟩)
  have hinside := hlimiter.act (@Act.askSlot _ _ 0 1 rfl)
  have hline := hinside.act (@Act.askSlot _ _ 0 2 rfl)
  rw [add_comm]
  exact hline

theorem timeout_law_slow :
    (∃ w first gaps, Course 1 slow .null first gaps w
        (.ready (.error (.rejected (.timeout "slow" 20)))) ∧
      (∀ turn ∈ turns first gaps w, turn.2.now = turn.1.now) ∧
      (∀ more w' poll', Course 1 slow .null first (gaps ++ more) w' poll' → more = []) ∧
      (∃ gaps' v poll', Timed 1 (.guarded (.source 0) "b") (.ofMillis 20) "slow" .null first gaps w
        (.ready (.error (.rejected (.timeout "slow" 20)))) gaps' v poll') ∧
      atDeadline.turn 1 = { atDeadline with
        tasks := atDeadline.tasks.erase 1
        world := w.note (.done "c" (.error (.rejected (.timeout "slow" 20)))) } ∧
      ∀ s', (atDeadline.turn 1).Later s' → 1 ∉ s'.tasks.keys) ∧
    (∃ gaps w poll, Course 1 slow .null atDeadline.world gaps w poll) ∧
    (∃ l, (holding.abandon oneInLine).limiters.get? 0 = some l ∧ l.state.granted = [1] ∧
      l.state.active = 0 + 1 ∧ holding.Gone ⟨holding.abandon oneInLine, {.place 0 1}⟩) := by
  obtain ⟨-, hturns, hlimits, -, hscene, hsession⟩ := timeout_law
  refine ⟨?_, ?_, ?_⟩
  · obtain ⟨first, gaps, gaps', v, poll', hcourse, -, -, hturn, hlater⟩ :=
      hsession atDeadline 1 "c" "slow" (.guarded (.source 0) "b") (.ofMillis 20) .null
        (some sleeping) reachable_atDeadline rfl _ _ rfl
    obtain ⟨hnow, hover⟩ := hturns 1 slow .null _ _ _ _ hcourse
    exact ⟨_, first, gaps, hcourse, hnow, hover (by intro c hc; cases hc),
      (hlimits 1 _ _ _ .null first).untimed hcourse, hturn _ rfl,
      fun s' hs' => (hlater s' hs').1 (by intro c hc; cases hc)⟩
  · obtain ⟨gaps, w, poll, hcourse, -⟩ :=
      (hlimits 1 (.guarded (.source 0) "b") (.ofMillis 20) "slow" .null atDeadline.world).timed
        (.start rfl) (by simp)
    exact ⟨gaps, w, poll, hcourse⟩
  · obtain ⟨-, hcounted, hgone⟩ := hscene holding oneInLine {.place 0 1} reachable_oneInLine
    have hlimiter : (holding.abandon oneInLine).limiters.get? 0 =
        some ⟨"l", ⟨1, 0⟩, ⟨1, [], [1]⟩⟩ := rfl
    obtain ⟨hactive, -, -⟩ := hcounted hlimiter
    exact ⟨_, hlimiter, rfl, hactive, hgone .refl⟩

end Timeout

end Resilience
