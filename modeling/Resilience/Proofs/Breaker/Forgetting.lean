import Resilience.Proofs.Breaker.Cooldown

/-!
# Closing forgets the past

A breaker that was closed, by hand or by its probe, goes on as a new one does, as long as no call
is on its way that was let through before. What it keeps are its successes and its last failure, and
`withPast` gives them to a breaker that has a life of its own. No step reads what it was given: the
last failure is read when a call asks an open breaker, and a breaker that opened has a failure of
its own (`Founded`). So every step does with the past what it does without (`enter_withPast` and
the lemmas after it).

The calls of a history that goes on after another are numbered on from there. `followedBy` puts the
two together, and `Move.since?` tells a move of the whole from the point of view of the second one,
where the calls before have no number any more. A step of the whole is a step of the second
(`step_followedBy`), reports and answers the same, and so does every run (`run_followedBy`).
-/

namespace Resilience

namespace Breaker

variable {name : String} {config : Config} {now : Instant} {past b : Breaker}

/-! ### What stays on record -/

/-- The breaker with what an earlier one left on record: its successes, and its last failure as long
as there is no later one. -/
def withPast (past b : Breaker) : Breaker :=
  { b with
    successCount := past.successCount + b.successCount
    lastFailure := b.lastFailure.or past.lastFailure }

/-- A breaker that is open has a failure of its own on record. -/
def Founded (b : Breaker) : Prop := b.phase = .opened → b.lastFailure.isSome

/-- A breaker that is as if new, but for what it has on record. -/
def Cleared (b : Breaker) : Prop :=
  b.phase = .closed ∧ b.failureCount = 0 ∧ b.probing = false

theorem Cleared.withPast_new (h : b.Cleared) : withPast b {} = b := by
  obtain ⟨hphase, hcount, hprobing⟩ := h
  cases b
  cases hphase
  cases hcount
  cases hprobing
  rfl

theorem cooled_withPast (h : b.lastFailure.isSome) :
    (withPast past b).cooled config now = b.cooled config now := by
  obtain ⟨failedAt, hfailed⟩ := Option.isSome_iff_exists.mp h
  simp only [cooled, withPast, hfailed, Option.some_or]

theorem enter_withPast (h : b.Founded) : (withPast past b).enter name config now =
    ((b.enter name config now).1, (b.enter name config now).2.1,
      withPast past (b.enter name config now).2.2) := by
  have hphase : (withPast past b).phase = b.phase := rfl
  have hprobing : (withPast past b).probing = b.probing := rfl
  unfold Breaker.enter
  rw [hphase, hprobing]
  cases hb : b.phase with
  | closed => rfl
  | opened =>
    dsimp only
    rw [cooled_withPast (h hb)]
    split <;> rfl
  | halfOpen =>
    dsimp only
    split <;> rfl

theorem recordSuccess_withPast (probe : Bool) : (withPast past b).recordSuccess name probe =
    ((b.recordSuccess name probe).1, withPast past (b.recordSuccess name probe).2) := by
  have hphase : (withPast past b).phase = b.phase := rfl
  unfold Breaker.recordSuccess
  rw [hphase]
  cases b.phase with
  | closed => rfl
  | opened => rfl
  | halfOpen => cases probe <;> rfl

theorem recordFailure_withPast (probe : Bool) :
    (withPast past b).recordFailure name config now probe =
      ((b.recordFailure name config now probe).1,
        withPast past (b.recordFailure name config now probe).2) := by
  have hphase : (withPast past b).phase = b.phase := rfl
  have hcount : (withPast past b).failureCount = b.failureCount := rfl
  unfold Breaker.recordFailure
  dsimp only
  rw [hphase, hcount]
  split <;> rfl

theorem probeLost_withPast : (withPast past b).probeLost = withPast past b.probeLost := rfl

theorem reset_withPast : (withPast past b).reset name =
    ((b.reset name).1, withPast past (b.reset name).2) := rfl

/-! ### Histories that go on -/

/-- A move as it is told by those who number the calls from the `k`-th on. What becomes of earlier
calls is nothing to them. -/
def Move.since? (k : Nat) : Move → Option Move
  | .settle n good => if n < k then none else some (.settle (n - k) good)
  | .lose n => if n < k then none else some (.lose (n - k))
  | move => some move

namespace History

/-- No call is on its way. -/
def Quiet (h : History) : Prop := ∀ v ∈ h.calls, v.probing? = none

/-- A history that goes on after another, in which the breaker has left something on record. -/
def followedBy (past h : History) : History :=
  ⟨withPast past.breaker h.breaker, h.now, past.calls ++ h.calls⟩

/-- The answer that a move is given. -/
def answer? (name : String) (config : Config) (h : History) : Move → Option Admission
  | .call => some (h.breaker.enter name config h.now).1
  | _ => none

/-- The answers that the calls of some moves are given. -/
def answered (name : String) (config : Config) (h : History) (moves : List Move) :
    List Admission := (watch name config (answer? name config) h moves).reduceOption

variable {past h : History}

/-- Of all calls together, only those of the second history can be on their way. -/
theorem probing_followedBy (hquiet : past.Quiet) (n : Nat) :
    (past.followedBy h).calls[n]?.bind Standing.probing? =
      if n < past.calls.length then none
      else h.calls[n - past.calls.length]?.bind Standing.probing? := by
  rw [followedBy, List.getElem?_append]
  split
  · next hn => rw [List.getElem?_eq_getElem hn]; exact hquiet _ (List.getElem_mem hn)
  · rfl

theorem founded_run (name : String) (config : Config) (moves : List Move) :
    (run name config moves).breaker.Founded := by
  intro hopened
  obtain ⟨failedAt, hfailed⟩ := (counted_run name config moves).failed (by simp [hopened])
  exact Option.isSome_iff_exists.mpr ⟨failedAt, hfailed⟩

/-! #### Moves of the whole -/

section Whole

variable (hquiet : past.Quiet)

include hquiet

private theorem map_overtaken_quiet : past.calls.map Standing.overtaken = past.calls := by
  refine (List.map_congr_left fun v hv => ?_).trans (List.map_id _)
  have hnone := hquiet v hv
  cases v with
  | probe => cases hnone
  | _ => rfl

/-- **A step of the whole is one of the second history**, or nothing. -/
theorem step_followedBy (hfounded : h.breaker.Founded) (move : Move) :
    (past.followedBy h).step name config move = past.followedBy
      ((move.since? past.calls.length).elim h (h.step name config)) := by
  have hset {n : Nat} (hn : ¬ n < past.calls.length) (v : Standing) :
      (past.calls ++ h.calls).set n v = past.calls ++ h.calls.set (n - past.calls.length) v :=
    List.set_append_right n v (Nat.not_lt.mp hn)
  cases move with
  | call =>
    simp only [step, History.call, followedBy, enter_withPast hfounded, Move.since?,
      Option.elim_some]
    rcases h.breaker.enter name config h.now with ⟨probe | count, event?, b⟩ <;>
      simp only [List.append_assoc]
  | settle n good =>
    simp only [step, settle, probing_followedBy hquiet, Move.since?]
    -- A call of the past is over, so what is said of it is said of no call of the second history.
    by_cases hn : n < past.calls.length
    · simp only [if_pos hn, Option.elim_none]
    · simp only [if_neg hn, Option.elim_some, step, settle]
      cases h.calls[n - past.calls.length]?.bind Standing.probing? with
      | none => rfl
      | some probe =>
        simp only [followedBy, recordSuccess_withPast, recordFailure_withPast, hset hn]
        cases good <;> rfl
  | lose n =>
    simp only [step, lose, probing_followedBy hquiet, Move.since?]
    by_cases hn : n < past.calls.length
    · simp only [if_pos hn, Option.elim_none]
    · simp only [if_neg hn, Option.elim_some, step, lose]
      cases h.calls[n - past.calls.length]?.bind Standing.probing? with
      | none => rfl
      | some probe =>
        simp only [followedBy, probeLost_withPast, hset hn]
        cases probe <;> rfl
  | clock now => rfl
  | reset =>
    simp only [step, followedBy, reset_withPast, List.map_append, map_overtaken_quiet hquiet,
      Move.since?, Option.elim_some]

/-- The whole reports what the second history reports. -/
theorem event?_followedBy (hfounded : h.breaker.Founded) (move : Move) :
    (past.followedBy h).event? name config move =
      (move.since? past.calls.length).bind (h.event? name config) := by
  cases move with
  | call =>
    have henter : (past.followedBy h).breaker.enter name config h.now = _ := enter_withPast hfounded
    exact congrArg (·.2.1) henter
  | settle n good =>
    simp only [event?, probing_followedBy hquiet, Move.since?]
    by_cases hn : n < past.calls.length
    · simp only [if_pos hn, Option.bind_none]
    · simp only [if_neg hn, Option.bind_some, event?]
      cases h.calls[n - past.calls.length]?.bind Standing.probing? with
      | none => rfl
      | some probe =>
        simp only [followedBy, recordSuccess_withPast, recordFailure_withPast]
        cases good <;> rfl
  | lose n =>
    simp only [event?, Move.since?]
    split_ifs <;> rfl
  | clock | reset => rfl

omit hquiet in
/-- The whole answers what the second history answers. -/
theorem answer?_followedBy (hfounded : h.breaker.Founded) (move : Move) :
    (past.followedBy h).answer? name config move =
      (move.since? past.calls.length).bind (h.answer? name config) := by
  cases move with
  | call =>
    have henter : (past.followedBy h).breaker.enter name config h.now = _ := enter_withPast hfounded
    exact congrArg (fun x => some x.1) henter
  | settle n good =>
    simp only [answer?, Move.since?]
    split_ifs <;> rfl
  | lose n =>
    simp only [answer?, Move.since?]
    split_ifs <;> rfl
  | clock | reset => rfl

/-- **A run of the whole is one of the second history.** -/
theorem run_followedBy (earlier moves : List Move) :
    moves.foldl (step name config) (past.followedBy (run name config earlier)) = past.followedBy
      ((moves.filterMap (Move.since? past.calls.length)).foldl (step name config)
        (run name config earlier)) := by
  induction moves generalizing earlier with
  | nil => rfl
  | cons move rest ih =>
    have hfounded := founded_run name config earlier
    rw [List.foldl_cons, step_followedBy hquiet hfounded, List.filterMap_cons]
    cases move.since? past.calls.length with
    | none => exact ih earlier
    | some later =>
      have hrest := ih (earlier ++ [later])
      rwa [run_concat] at hrest

/-- **What is seen of the whole is what is seen of the second history**, if that is so for every
move. -/
theorem watch_followedBy {α : Type} {see : History → Move → Option α}
    (hsee : ∀ h move, h.breaker.Founded →
      see (past.followedBy h) move = (Move.since? past.calls.length move).bind (see h))
    (earlier moves : List Move) :
    (watch name config see (past.followedBy (run name config earlier)) moves).reduceOption =
      (watch name config see (run name config earlier)
        (moves.filterMap (Move.since? past.calls.length))).reduceOption := by
  induction moves generalizing earlier with
  | nil => rfl
  | cons move rest ih =>
    have hfounded := founded_run name config earlier
    rw [watch, hsee _ move hfounded, step_followedBy hquiet hfounded, List.filterMap_cons]
    cases move.since? past.calls.length with
    | none => exact ih earlier
    | some later =>
      have hrest := ih (earlier ++ [later])
      rw [run_concat] at hrest
      rw [watch, Option.bind_some, Option.elim_some]
      cases see (run name config earlier) later with
      | none => exact hrest
      | some seen => exact congrArg (seen :: ·) hrest

end Whole

/-! #### Closing -/

/-- A move closes the breaker, by hand or by its probe. -/
def Closes (h : History) (move : Move) : Prop :=
  move = .reset ∨ h.breaker.phase = .halfOpen ∧
    ∃ n, move = .settle n true ∧ h.calls[n]?.bind Standing.probing? = some true

theorem recordSuccess_cleared (h : b.phase = .halfOpen) (name : String) :
    (b.recordSuccess name true).2.Cleared := by
  unfold Breaker.recordSuccess
  rw [h]
  exact ⟨rfl, rfl, rfl⟩

theorem Closes.cleared {move : Move} (hcloses : h.Closes move) (name : String) (config : Config) :
    (h.step name config move).breaker.Cleared := by
  obtain rfl | ⟨hhalf, n, rfl, hprobe⟩ := hcloses
  · exact ⟨rfl, rfl, rfl⟩
  · rw [breaker_settle name config true hprobe]
    exact recordSuccess_cleared hhalf name

/-- A history whose breaker was cleared goes on as if it began. -/
theorem followedBy_new (hcleared : h.breaker.Cleared) (name : String) (config : Config) :
    h.followedBy (run name config [.clock h.now]) = h := by
  change (⟨withPast h.breaker {}, h.now, h.calls ++ []⟩ : History) = h
  rw [hcleared.withPast_new, List.append_nil]

/-- **After closing, a breaker goes on as a new one**, if no call is on its way. -/
theorem goesOn_anew (hcleared : h.breaker.Cleared) (hquiet : h.Quiet) (name : String)
    (config : Config) (more : List Move) :
    let new := run name config [.clock h.now]
    let since := more.filterMap (Move.since? h.calls.length)
    answered name config h more = answered name config new since ∧
      reported name config h more = reported name config new since ∧
      more.foldl (step name config) h = h.followedBy (since.foldl (step name config) new) := by
  intro new since
  have hnew : h.followedBy new = h := followedBy_new hcleared name config
  have hrun : more.foldl (step name config) (h.followedBy new) = _ :=
    run_followedBy hquiet [.clock h.now] more
  have hanswers : answered name config (h.followedBy new) more = _ :=
    watch_followedBy hquiet (fun _ move hfounded => answer?_followedBy hfounded move) _ more
  have hreports : reported name config (h.followedBy new) more = _ :=
    watch_followedBy hquiet (fun _ move hfounded => event?_followedBy hquiet hfounded move) _ more
  rw [hnew] at hrun hanswers hreports
  exact ⟨hanswers, hreports, hrun⟩

end History

/-! ### Scenes -/

open History

/-- Nothing that the breaker let through is on its way. -/
def Unheld (name : String) (H : Multiset Hold) : Prop :=
  ∀ probe, H.count (.admission name probe) = 0

/-- A step closes a breaker, by hand or by its probe. -/
def ClosedBy (name : String) (sc closed : Scene) : Prop :=
  ∃ c, sc.world.breakers.get? name = some c ∧
    (closed = ⟨(sc.world.resetBreaker name).2, sc.holds⟩ ∨
      c.state.phase = .halfOpen ∧ sc.holds = .admission name true ::ₘ closed.holds ∧
        ∃ value, closed.world = sc.world.record name true (.ok value))

/-- The same moves lead a history on to a later scene, and a new one. In that scene the breaker is
as the new one is, but for what it has on record, and answers the next call as the new one does. -/
def GoesAnew (name : String) (c : Component Config Breaker) (h : History) (closed later : Scene) :
    Prop :=
  ∃ (b : Breaker) (more : List Move),
    later.world.breakers.get? name = some { c with state := withPast c.state b } ∧
    LeadsOn name c.config (withPast c.state b) closed later h more ∧
    LeadsOn name c.config b closed later (run name c.config [.clock closed.world.now])
      (more.filterMap (Move.since? h.calls.length)) ∧
    (later.world.enter name).1 = (b.enter name c.config later.world.now).1

variable {sc closed : Scene} {c : Component Config Breaker} {H : Multiset Hold} {h : History}

theorem Shows.quiet (hs : Shows name b now H h) (hunheld : Unheld name H) : h.Quiet := by
  intro v hv
  rw [Option.eq_none_iff_forall_ne_some]
  intro probe hprobe
  have hpos : 0 < h.calls.countP fun v => v.probing? = some probe :=
    List.countP_pos_iff.mpr ⟨v, hv, decide_eq_true hprobe⟩
  rw [hs.calls, hunheld probe] at hpos
  exact Nat.lt_irrefl 0 hpos

/-- The second of two histories shows a scene if the whole does and no call of the first is on its
way. -/
theorem Shows.of_followedBy {past : History} (hquiet : past.Quiet)
    (hs : Shows name b now H (past.followedBy h)) : Shows name h.breaker now H h where
  state := rfl
  clock := hs.clock
  calls probe := by
    have hpast : past.calls.countP (fun v => v.probing? = some probe) = 0 := by
      refine List.countP_eq_zero.mpr fun v hv => ?_
      rw [hquiet v hv]
      simp
    have hcalls := hs.calls probe
    rwa [followedBy, List.countP_append, hpast, Nat.zero_add] at hcalls

theorem ClosedBy.cleared (h : ClosedBy name sc closed) :
    Act sc closed ∧ ∃ c, closed.world.breakers.get? name = some c ∧ c.state.Cleared := by
  obtain ⟨c, hc, rfl | ⟨hhalf, hholds, value, hworld⟩⟩ := h
  · refine ⟨.resetBreaker name, { c with state := (c.state.reset name).2 }, ?_, rfl, rfl, rfl⟩
    simp [World.resetBreaker, hc, Table.get?_set]
  · obtain ⟨w, H⟩ := sc
    obtain ⟨w', H'⟩ := closed
    obtain rfl : H = _ := hholds
    obtain rfl : w' = w.record name true (.ok value) := hworld
    refine ⟨.record name true (.ok value),
      { c with state := (c.state.recordSuccess name true).2 }, ?_,
      recordSuccess_cleared hhalf name⟩
    have hc' : w.breakers.get? name = some c := hc
    simp [World.record, hc', Table.get?_set]

/-- **A scene goes on as if the breaker was new**, if it was cleared and holds no admissions. -/
theorem goesAnew (hreach : closed.Reachable) (hc : closed.world.breakers.get? name = some c)
    (hcleared : c.state.Cleared) (hunheld : Unheld name closed.holds)
    (hs : Shows name c.state closed.world.now closed.holds h) {later : Scene}
    (hsteps : Steps closed later) : GoesAnew name c h closed later := by
  -- The acts are moves that lead the breaker on, and those moves lead a new one to the same.
  obtain ⟨b', hb', hon⟩ := goesOn_of_steps hreach hsteps hc
  obtain ⟨more, hshows, htold⟩ := hon h hs
  have hquiet := hs.quiet hunheld
  obtain ⟨-, hreports, hrun⟩ := goesOn_anew (hs.state ▸ hcleared) hquiet name c.config more
  rw [hs.clock] at hreports hrun
  rw [hrun] at hshows
  set new := (more.filterMap (Move.since? h.calls.length)).foldl (step name c.config)
    (run name c.config [.clock closed.world.now]) with hnew
  obtain rfl : withPast c.state new.breaker = b' := hs.state ▸ hshows.state
  have hfounded : new.breaker.Founded := by
    rw [hnew, run, ← List.foldl_append]
    exact founded_run name c.config _
  refine ⟨new.breaker, more, hb', ⟨hrun ▸ hshows, htold⟩,
    ⟨hshows.of_followedBy hquiet, fun hrecording => hreports ▸ htold hrecording⟩, ?_⟩
  rw [World.admission_enter hb']
  dsimp only
  rw [enter_withPast hfounded]

/-- **Closing forgets the past.** Take any history, and a move in it that closes the breaker, by
hand or by its probe, when no other call is on its way. From there on, any moves get the answers and
report the events that they get and report with a new breaker of the same name and configuration,
and lead to the same state and count of failures; only the successes and the last failure before the
closing stay on record. The same holds of scenes: whatever acts follow when a breaker was closed,
the moves that they are to it lead a new one to the same admissions, events and answers, and so does
everything that happens to a session after the command that closes a breaker. -/
theorem closing_forgets :
    (∀ (name : String) (config : Config) (moves : List Move) (closing : Move),
      let h := run name config moves
      let closed := h.step name config closing
      h.Closes closing → closed.Quiet → ∀ more,
        let new := run name config [.clock closed.now]
        let since := more.filterMap (Move.since? closed.calls.length)
        let last := more.foldl (step name config) closed
        let lastNew := since.foldl (step name config) new
        answered name config closed more = answered name config new since ∧
          reported name config closed more = reported name config new since ∧
          last.breaker.phase = lastNew.breaker.phase ∧
          last.breaker.failureCount = lastNew.breaker.failureCount ∧
          last = closed.followedBy lastNew) ∧
    (∀ (name : String) (sc closed : Scene), sc.Reachable → ClosedBy name sc closed →
      Unheld name closed.holds →
      ∃ c moves, closed.world.breakers.get? name = some c ∧
        Shows name c.state closed.world.now closed.holds (run name c.config moves) ∧
        ∀ later, Steps closed later → GoesAnew name c (run name c.config moves) closed later) ∧
    ∀ (calendar : Diagnostics.Calendar) (name : String) (s : Session), s.Reachable →
      s.world.breakers.has name = true → Unheld name s.holds →
      let closed := (s.perform calendar (.reset name)).2
      ∃ c moves, closed.world.breakers.get? name = some c ∧
        Shows name c.state closed.world.now closed.holds (run name c.config moves) ∧
        ∀ later, Relation.ReflTransGen Session.Happens closed later →
          GoesAnew name c (run name c.config moves) closed.scene later.scene := by
  -- The command of a session is an act of its scene, so sessions follow from scenes.
  have hscenes (name : String) (sc closed : Scene) (hreach : sc.Reachable)
      (hcloses : ClosedBy name sc closed) (hunheld : Unheld name closed.holds) :
      ∃ c moves, closed.world.breakers.get? name = some c ∧
        Shows name c.state closed.world.now closed.holds (run name c.config moves) ∧
        ∀ later, Steps closed later → GoesAnew name c (run name c.config moves) closed later := by
    obtain ⟨hact, c, hc, hcleared⟩ := hcloses.cleared
    have hclosed := hreach.act hact
    obtain ⟨moves, hshows⟩ := exists_history hclosed hc
    exact ⟨c, moves, hc, hshows, fun later hsteps =>
      goesAnew hclosed hc hcleared hunheld hshows hsteps⟩
  refine ⟨fun name config moves closing => ?_, hscenes, fun calendar name s hs hhas hunheld => ?_⟩
  · intro h closed hcloses hquiet more new since last lastNew
    obtain ⟨hanswers, hreports, hrun⟩ :=
      goesOn_anew (hcloses.cleared name config) hquiet name config more
    have hlast : last = closed.followedBy lastNew := hrun
    exact ⟨hanswers, hreports, by rw [hlast]; rfl, by rw [hlast]; rfl, hlast⟩
  · intro closed
    obtain ⟨c, hc⟩ := Option.isSome_iff_exists.mp hhas
    obtain ⟨hvalid, hscene⟩ := hs.valid_scene
    have hclosed : closed.Reachable := hs.perform calendar (.reset name)
    obtain ⟨c', moves, hc', hshows, hlater⟩ :=
      hscenes name s.scene closed.scene hscene ⟨c, hc, .inl rfl⟩ hunheld
    refine ⟨c', moves, hc', hshows, fun later hhappens => hlater _ ?_⟩
    exact (Session.runs_of_happens hclosed.valid_scene.1 hhappens).scenes

/-- A breaker trips, and its probe is let through. -/
def tried : List Move := [.call, .settle 0 false, .clock 10, .call]

/-- The history in which that probe has closed the breaker. -/
def reclosed : History :=
  (run "b" ⟨1, .ofMillis 10⟩ tried).step "b" ⟨1, .ofMillis 10⟩ (.settle 1 true)

/-- A call after that, what became of an earlier one, the failure of the new one, and one more. -/
def afterwards : List Move := [.call, .settle 0 false, .settle 2 false, .call]

theorem closing_forgets_reclosed :
    reclosed.breaker = ⟨.closed, 0, 1, some 0, false⟩ ∧
    afterwards.filterMap (Move.since? reclosed.calls.length) =
      [.call, .settle 0 false, .call] ∧
    answered "b" ⟨1, .ofMillis 10⟩ reclosed afterwards = [.allowed false, .rejected 1] ∧
    answered "b" ⟨1, .ofMillis 10⟩ reclosed afterwards =
      answered "b" ⟨1, .ofMillis 10⟩ (run "b" ⟨1, .ofMillis 10⟩ [.clock 10])
        [.call, .settle 0 false, .call] ∧
    (∃ c moves, GoesAnew "b" c (run "b" c.config moves)
      ⟨(tripped.world.resetBreaker "b").2, tripped.holds⟩
      ⟨(tripped.world.resetBreaker "b").2.pass 7, tripped.holds⟩) ∧
    ∃ c moves, GoesAnew "b" c (run "b" c.config moves)
      (tripped.perform ⟨toString, toString⟩ (.reset "b")).2.scene
      ((tripped.perform ⟨toString, toString⟩ (.reset "b")).2.turn 1).scene := by
  obtain ⟨hmoves, hscenes, hsessions⟩ := closing_forgets
  have hcloses : (run "b" ⟨1, .ofMillis 10⟩ tried).Closes (.settle 1 true) :=
    .inr ⟨by decide +kernel, 1, rfl, by decide +kernel⟩
  have hcalls : reclosed.calls = [.settled, .settled] := by decide +kernel
  have hquiet : reclosed.Quiet := by
    intro v hv
    rw [hcalls] at hv
    obtain rfl : v = .settled := by simpa using hv
    rfl
  have hsince : afterwards.filterMap (Move.since? reclosed.calls.length) =
      [.call, .settle 0 false, .call] := by decide +kernel
  obtain ⟨hanswers, -⟩ :=
    hmoves "b" ⟨1, .ofMillis 10⟩ tried (.settle 1 true) hcloses hquiet afterwards
  have hanswered : answered "b" ⟨1, .ofMillis 10⟩ reclosed afterwards = answered "b"
      ⟨1, .ofMillis 10⟩ (run "b" ⟨1, .ofMillis 10⟩ [.clock 10]) [.call, .settle 0 false, .call] :=
    hanswers.trans (by rw [← hsince]; rfl)
  obtain ⟨c, hc, -⟩ := breakers_tripped
  have hreach : tripped.Reachable := (Session.Reachable.create {} true).run happens_tripped
  have hunheld : Unheld "b" tripped.holds := fun probe => by cases probe <;> decide +kernel
  refine ⟨by decide +kernel, hsince, by decide +kernel, hanswered, ?_, ?_⟩
  · obtain ⟨d, moves, -, -, hlater⟩ := hscenes "b" tripped.scene _ hreach.valid_scene.2
      ⟨c, hc, .inl rfl⟩ hunheld
    exact ⟨d, moves, hlater _ (.single (.pass 7))⟩
  · obtain ⟨d, moves, -, -, hlater⟩ := hsessions ⟨toString, toString⟩ "b" tripped hreach
      (Option.isSome_iff_exists.mpr ⟨c, hc⟩) hunheld
    exact ⟨d, moves, hlater _ (.single (.turn 1))⟩

end Breaker

end Resilience
