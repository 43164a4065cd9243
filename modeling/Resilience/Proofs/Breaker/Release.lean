import Resilience.Proofs.Breaker.Cooldown
import Resilience.Proofs.Rest

/-!
# No breaker is stuck half open

A half open breaker refuses calls while its flag is up, so the flag has to come down whatever
becomes of the probe. While it is up, the call that was let through as a probe most recently is
still on its way (`History.attended_run`). However that call ends, well or badly, cancelled, in a
panic or out of time, the breaker is **released** (`Released`): it is not half open any more, or
its flag is down. A released breaker answers every later call by letting it through, unless it is
open and its cool-down is not over (`released_iff`). So a half open breaker without a probe on its
way lets the next call through (`never_stuck`).

The same holds of every probe that ends, also of one from before a reset. A call that is taken
apart releases every breaker whose probe it is (`Call.get?_breakers_abandon`).
-/

namespace Resilience

namespace Breaker

/-! ### Released breakers -/

/-- The breaker does not hold calls back for a probe. -/
def Released (b : Breaker) : Prop := b.phase ≠ .halfOpen ∨ b.probing = false

variable (name : String) (config : Config) (now : Instant) (b : Breaker)

theorem released_recordSuccess : Released (b.recordSuccess name true).2 := by
  unfold recordSuccess
  cases hphase : b.phase with
  | closed => exact .inl (by simp)
  | opened => exact .inl (by simp)
  | halfOpen => exact .inr rfl

theorem released_recordFailure : Released (b.recordFailure name config now true).2 := by
  unfold recordFailure
  dsimp only
  split
  · exact .inr rfl
  · next hstays =>
    refine .inl fun hopen => hstays ?_
    simp only at hopen
    simp [trips, hopen]

theorem released_probeLost : Released b.probeLost := .inr rfl

variable {name config b}

/-- **A breaker is released exactly if every call that asks is let through**, at whatever time,
or kept out by the cool-down. -/
theorem released_iff : Released b ↔ ∀ later,
    (∃ probe, (b.enter name config later).1 = .allowed probe) ∨
      b.phase = .opened ∧ b.cooled config later = false := by
  unfold Released enter
  cases hphase : b.phase with
  | closed => simp
  | opened =>
    refine iff_of_true (.inl (by simp)) fun later => ?_
    cases b.cooled config later <;> simp
  | halfOpen => cases hflag : b.probing <;> simp

/-! ### The end of a probe -/

namespace History

/-- **Whichever way a probe ends, it releases the breaker.** -/
theorem released_of_ending (name : String) (config : Config) {h : History} {n : Nat}
    (hn : h.calls[n]?.bind Standing.probing? = some true) {move : Move}
    (hmove : move ∈ [.settle n true, .settle n false, .lose n]) :
    Released (h.step name config move).breaker := by
  simp only [List.mem_cons, List.not_mem_nil, or_false] at hmove
  rcases hmove with rfl | rfl | rfl
  · simp only [step, settle, hn]
    exact released_recordSuccess name h.breaker
  · simp only [step, settle, hn]
    exact released_recordFailure name config h.now h.breaker
  · simp only [step, lose, hn]
    exact released_probeLost h.breaker

/-- A half open breaker lets a call through when no probe is on its way. -/
theorem allowed_of_probes_eq_zero {moves : List Move} {now : Instant}
    (hopen : (run name config moves).breaker.phase = .halfOpen)
    (hnone : (run name config moves).probes = 0) :
    ((run name config moves).breaker.enter name config now).1 = .allowed true := by
  have hflag : (run name config moves).breaker.probing = false := by
    by_contra hup
    obtain ⟨-, n, -, hprobe⟩ :=
      attended_run name config moves (Bool.eq_true_of_not_eq_false hup)
    exact absurd (probes_pos hprobe) (by omega)
  simp [enter, hopen, hflag]

end History

end Breaker

/-! ### The world -/

namespace World

variable {w : World} {name : String} {c : Component Breaker.Config Breaker}

theorem get?_breakers_record (hc : w.breakers.get? name = some c) (probe : Bool)
    (outcome : Outcome) : (w.record name probe outcome).breakers.get? name =
      some { c with state := match outcome with
        | .ok _ => (c.state.recordSuccess name probe).2
        | .error _ => (c.state.recordFailure name c.config w.now probe).2 } := by
  unfold record
  rw [hc]
  cases outcome <;> simp [breakers_report, Table.get?_set]

theorem get?_breakers_forgo (breaker : String) (probe : Bool) (name : String) (w : World) :
    (w.forgo breaker probe).breakers.get? name = (w.breakers.get? name).map fun c =>
      if probe = true ∧ breaker = name then { c with state := c.state.probeLost } else c := by
  unfold forgo
  cases probe with
  | false => simp
  | true =>
    rw [if_pos rfl]
    simp only [Table.get?_modify, true_and]
    split <;> simp

end World

/-! ### Calls that are taken apart -/

/-- A call that is taken apart takes down the flag of each breaker whose probe it is, and leaves
the others alone. -/
theorem Call.get?_breakers_abandon (call : Call) (w : World) (name : String) :
    (call.abandon w).breakers.get? name = (w.breakers.get? name).map fun c =>
      if .admission name true ∈ call.holds then { c with state := c.state.probeLost } else c := by
  -- A layer inside a breaker gives back the admission after its inner call.
  have hforgo {inner : Call} {w : World} {breaker : String} {probe : Bool}
      (ih : (inner.abandon w).breakers.get? name = (w.breakers.get? name).map fun c =>
        if .admission name true ∈ inner.holds then { c with state := c.state.probeLost } else c) :
      ((inner.abandon w).forgo breaker probe).breakers.get? name =
        (w.breakers.get? name).map fun c =>
          if .admission name true ∈ .admission breaker probe ::ₘ inner.holds then
            { c with state := c.state.probeLost }
          else c := by
    rw [World.get?_breakers_forgo, ih, Option.map_map]
    refine congrArg (Option.map · _) (funext fun c => ?_)
    by_cases hinner : .admission name true ∈ inner.holds
    · simp only [Function.comp, hinner, Multiset.mem_cons, or_true, if_true]
      split_ifs <;> rfl
    · by_cases hthis : probe = true ∧ breaker = name
      · obtain ⟨rfl, rfl⟩ := hthis
        simp [hinner]
      · have hne : (Hold.admission name true) ≠ .admission breaker probe := by
          rintro ⟨⟩
          exact hthis ⟨rfl, rfl⟩
        simp [hinner, hthis, hne]
  induction call generalizing w with
  | working | pausing => simp [abandon, holds]
  | guarded breaker probe inner ih => exact hforgo (ih w)
  | withFallback breaker probe fallback arg inner ih => exact hforgo (ih w)
  | awaitingSlot limiter ticket inner arg =>
    obtain ⟨_, _, -, heq⟩ := w.leaveSlot_eq limiter ticket
    simp [abandon, holds, heq]
  | holdingSlot limiter inner ih =>
    obtain ⟨_, _, -, heq⟩ := (inner.abandon w).releaseSlot_eq limiter
    simp only [abandon, holds, heq, ih, Multiset.mem_cons, reduceCtorEq, false_or]
  | awaitingToken bucket ticket inner arg => simp [abandon, holds, World.leaveToken]
  | timed timer limit name inner ih => exact ih w
  | attempting policy left delay op arg inner ih => exact ih w
  | filling cache key ttl inner ih => exact ih w

namespace Breaker

open History

/-- A half open breaker of a scene lets a call through when no probe holds its admission. -/
theorem allowed_of_not_held {sc : Scene} (hsc : sc.Reachable) {name : String}
    {c : Component Config Breaker} (hc : sc.world.breakers.get? name = some c)
    (hopen : c.state.phase = .halfOpen) (hnone : .admission name true ∉ sc.holds) :
    (sc.world.enter name).1 = .allowed true := by
  -- A flag that is up belongs to a probe, and its admission would be held.
  have hflag : c.state.probing = false := by
    by_contra hup
    exact hnone (admission_of_probing hsc hc (Bool.eq_true_of_not_eq_false hup)).2
  rw [World.admission_enter hc]
  simp [enter, hopen, hflag]

/-- What a session holds of a breaker, its calls hold. -/
theorem exists_call_of_admission {s : Session} {name : String} {probe : Bool}
    (h : .admission name probe ∈ s.holds) :
    ∃ task ∈ s.tasks.values, .admission name probe ∈ task.job.holds := by
  rcases Multiset.mem_add.mp h with htasks | hpermits
  · generalize s.tasks = tasks at htasks ⊢
    induction tasks with
    | nil => exact absurd htasks (Multiset.notMem_zero _)
    | cons p rest ih =>
      rw [Session.tasksHold, List.map_cons, List.sum_cons] at htasks
      rcases Multiset.mem_add.mp htasks with hfirst | hrest
      · exact ⟨p.2, List.mem_cons_self, hfirst⟩
      · obtain ⟨task, htask, hheld⟩ := ih hrest
        exact ⟨task, List.mem_cons_of_mem _ htask, hheld⟩
  -- What is held beside the calls is slots of limiters only.
  · rw [Session.permitsHold, Multiset.mem_coe, List.mem_map] at hpermits
    obtain ⟨p, -, hp⟩ := hpermits
    cases hp

/-- **No breaker is stuck half open.** In every history, while the flag of the probe is up, the
breaker is half open and the latest call that was let through as a probe has not settled; and
whichever way this or any other probe ends, the breaker is half open no more or its flag is down,
so that every later call is let through or kept out by the cool-down. In every scene, while the
flag is up, the admission of that probe is held; when an admission of a probe is given back,
because the call settled, panicked or went away, the breaker is released, and so it is when a call
that is its probe is taken apart. In every session, while the flag is up, the call of some task is
the probe. Hence a half open breaker lets the next call through when no probe is on its way: in
every history, in every scene, and in every session in which no task is its probe. -/
theorem never_stuck :
    (∀ (name : String) (config : Config) (moves : List Move),
      let h := run name config moves
      (h.breaker.probing = true → h.breaker.phase = .halfOpen ∧
        ∃ n, latestProbe? name config moves = some n ∧ h.calls[n]? = some .probe) ∧
      (∀ n, h.calls[n]?.bind Standing.probing? = some true →
        ∀ move ∈ [.settle n true, .settle n false, .lose n],
          let b := (h.step name config move).breaker
          (b.phase ≠ .halfOpen ∨ b.probing = false) ∧
            ∀ later, (∃ probe, (b.enter name config later).1 = .allowed probe) ∨
              b.phase = .opened ∧ b.cooled config later = false) ∧
      (h.breaker.phase = .halfOpen → h.probes = 0 →
        (h.breaker.enter name config h.now).1 = .allowed true)) ∧
    (∀ (sc : Scene) (name : String) (c : Component Config Breaker),
      sc.Reachable → sc.world.breakers.get? name = some c →
      (c.state.probing = true → c.state.phase = .halfOpen ∧ .admission name true ∈ sc.holds ∧
        ∃ moves n, Shows name c.state sc.world.now sc.holds (run name c.config moves) ∧
          latestProbe? name c.config moves = some n ∧
          (run name c.config moves).calls[n]? = some .probe) ∧
      (∀ outcome, ∃ b, (sc.world.record name true outcome).breakers.get? name =
        some { c with state := b } ∧ Released b) ∧
      (∃ b, (sc.world.forgo name true).breakers.get? name = some { c with state := b } ∧
        Released b) ∧
      (∀ call : Call, .admission name true ∈ call.holds →
        ∃ b, (call.abandon sc.world).breakers.get? name = some { c with state := b } ∧
          Released b) ∧
      (c.state.phase = .halfOpen → .admission name true ∉ sc.holds →
        (sc.world.enter name).1 = .allowed true)) ∧
    (∀ (s : Session) (name : String) (c : Component Config Breaker),
      s.Reachable → s.world.breakers.get? name = some c →
      (c.state.probing = true →
        ∃ task ∈ s.tasks.values, .admission name true ∈ task.job.holds) ∧
      (c.state.phase = .halfOpen →
        (∀ task ∈ s.tasks.values, .admission name true ∉ task.job.holds) →
        LetsProbe name s.world (s.world.enter name).2)) := by
  refine ⟨fun name config moves => ⟨attended_run name config moves, fun n hn move hmove => ?_,
      allowed_of_probes_eq_zero⟩,
    fun sc name c hsc hc => ⟨fun hup => ?_, fun outcome => ?_, ?_, fun call hcall => ?_,
      allowed_of_not_held hsc hc⟩, fun s name c hs hc => ?_⟩
  · have hreleased := released_of_ending name config hn hmove
    exact ⟨hreleased, released_iff.mp hreleased⟩
  -- The call that the flag stands for is found in a history that shows the breaker.
  · obtain ⟨hopen, hheld⟩ := admission_of_probing hsc hc hup
    obtain ⟨moves, hshows⟩ := exists_history hsc hc
    obtain ⟨-, n, hn, hprobe⟩ := attended_run name c.config moves (hshows.state.symm ▸ hup)
    exact ⟨hopen, hheld, moves, n, hshows, hn, hprobe⟩
  · refine ⟨_, World.get?_breakers_record hc true outcome, ?_⟩
    cases outcome with
    | ok value => exact released_recordSuccess name c.state
    | error failure => exact released_recordFailure name c.config sc.world.now c.state
  · refine ⟨c.state.probeLost, ?_, released_probeLost c.state⟩
    rw [World.get?_breakers_forgo, hc]
    simp
  · refine ⟨c.state.probeLost, ?_, released_probeLost c.state⟩
    rw [Call.get?_breakers_abandon, hc, Option.map_some, if_pos hcall]
  · obtain ⟨-, hreach⟩ := hs.valid_scene
    refine ⟨fun hup => exists_call_of_admission (admission_of_probing hreach hc hup).2,
      fun hopen hnone => letsProbe_of_allowed (allowed_of_not_held hreach hc hopen fun hheld => ?_)⟩
    obtain ⟨task, htask, hprobe⟩ := exists_call_of_admission hheld
    exact hnone task htask hprobe

/-- A failure trips the breaker, and when it has cooled down, a probe sets out. -/
def settingOut : List Move := [.call, .settle 0 false, .clock 10, .call]

/-- The history after that. -/
def setOut : History := run "b" ⟨1, .ofMillis 10⟩ settingOut

theorem never_stuck_emptied :
    (setOut.breaker.probing = true ∧ setOut.breaker.phase = .halfOpen ∧
      setOut.calls[1]? = some .probe ∧
      (setOut.step "b" ⟨1, .ofMillis 10⟩ (.lose 1)).breaker.phase = .halfOpen ∧
      ((setOut.step "b" ⟨1, .ofMillis 10⟩ (.lose 1)).breaker.phase ≠ .halfOpen ∨
        (setOut.step "b" ⟨1, .ofMillis 10⟩ (.lose 1)).breaker.probing = false)) ∧
    (∃ c, Session.crowded.world.breakers.get? "b" = some c ∧ c.state.probing = true ∧
      (∃ task ∈ Session.crowded.tasks.values, .admission "b" true ∈ task.job.holds) ∧
      ∃ b, (Session.crowded.world.forgo "b" true).breakers.get? "b" =
        some { c with state := b } ∧ Released b) ∧
    ∃ c, Session.emptied.world.breakers.get? "b" = some c ∧ c.state.phase = .halfOpen ∧
      LetsProbe "b" Session.emptied.world (Session.emptied.world.enter "b").2 := by
  obtain ⟨hhistory, hscene, hsession⟩ := never_stuck
  have hforgo {s : Session} {c : Component Config Breaker} (hs : s.Reachable)
      (hc : s.world.breakers.get? "b" = some c) :
      ∃ b, (s.world.forgo "b" true).breakers.get? "b" = some { c with state := b } ∧
        Released b := by
    obtain ⟨-, hreach⟩ := hs.valid_scene
    obtain ⟨-, -, hlost, -⟩ := hscene s.scene "b" c hreach hc
    exact hlost
  refine ⟨?_, ?_, ?_⟩
  · have hup : setOut.breaker.probing = true := by decide
    obtain ⟨hattended, hends, -⟩ := hhistory "b" ⟨1, .ofMillis 10⟩ settingOut
    obtain ⟨hopen, n, hn, hprobe⟩ := hattended hup
    obtain rfl : 1 = n := Option.some.inj ((by decide : some 1 = _).trans hn)
    obtain ⟨hreleased, -⟩ := hends 1 (by decide) (.lose 1) (by simp)
    exact ⟨hup, hopen, hprobe, by decide, hreleased⟩
  · have hstate : (Session.crowded.world.breakers.get? "b").map (·.state.probing) = some true := by
      decide +kernel
    obtain ⟨c, hc, hup⟩ := Option.map_eq_some_iff.mp hstate
    obtain ⟨hheld, -⟩ := hsession Session.crowded "b" c Session.crowded_reachable hc
    exact ⟨c, hc, hup, hheld hup, hforgo Session.crowded_reachable hc⟩
  · have hstate : (Session.emptied.world.breakers.get? "b").map (·.state.phase) =
        some .halfOpen := by decide +kernel
    obtain ⟨c, hc, hopen⟩ := Option.map_eq_some_iff.mp hstate
    have hbackground : ∀ task ∈ Session.emptied.tasks.values, task.job.background = true := by
      decide +kernel
    have hnone (t : Task) (ht : t ∈ Session.emptied.tasks.values) :
        .admission "b" true ∉ t.job.holds := by
      rw [Job.holds_of_background (hbackground t ht)]
      exact Multiset.notMem_zero _
    obtain ⟨-, hstarts⟩ := hsession Session.emptied "b" c Session.emptied_reachable hc
    exact ⟨c, hc, hopen, hstarts hopen hnone⟩

end Breaker

end Resilience
