import Resilience.Proofs.Breaker.Tally

/-!
# Open breakers fail fast

While a breaker is open, every call that comes is turned away (`TurnsAway`): what is inside the
breaker does not begin, and the breaker stays as it is. There are two ways out, a reset and a call
that comes when the cool-down is over; that call is let through as the probe (`LetsProbe`).

The cool-down begins anew with every failure that is recorded (`History.failureTimes`), also with
that of a call from long before the breaker tripped. A breaker remembers the last of them only.
As the clock is never set back (`History.Steady`), the last failure is the latest, and so the
cool-down is over when the reset timeout has passed since each of them (`cooled_iff`).
-/

namespace Resilience

namespace Breaker

/-! ### The cool-down -/

/-- At this time the reset timeout has passed since a failure. -/
def Config.CooledBy (config : Config) (failedAt now : Instant) : Prop :=
  (Duration.ofMillis failedAt).nanos + config.resetTimeout.nanos ≤ (Duration.ofMillis now).nanos

instance (config : Config) (failedAt now : Instant) : Decidable (config.CooledBy failedAt now) :=
  inferInstanceAs (Decidable (_ ≤ _))

variable {name : String} {config : Config} {now : Instant} {b : Breaker}

theorem cooled_iff {latest : Instant} (hlast : b.lastFailure = some latest)
    (hle : latest ≤ now) : b.cooled config now = true ↔ config.CooledBy latest now := by
  have hmillis := Nat.mul_le_mul_right Duration.perMilli hle
  simp only [cooled, hlast, Config.CooledBy, Instant.since, Duration.ofMillis, decide_eq_true_eq,
    Nat.sub_mul]
  omega

/-- A call is turned away before the cool-down is over, and nothing changes. -/
theorem enter_of_hot (hopen : b.phase = .opened) (hhot : b.cooled config now = false) :
    b.enter name config now = (.rejected b.failureCount, none, b) := by
  simp [enter, hopen, hhot]

/-- A call is let through as the probe after the cool-down. -/
theorem enter_of_cooled (hopen : b.phase = .opened) (hcooled : b.cooled config now = true) :
    b.enter name config now = (.allowed true, some (.breakerHalfOpen name),
      { b with phase := .halfOpen, probing := true }) := by
  simp [enter, hopen, hcooled]

/-! ### Failures and their times -/

theorem lastFailure_enter : (b.enter name config now).2.2.lastFailure = b.lastFailure := by
  unfold enter
  split
  · rfl
  · split <;> rfl
  · split <;> rfl

theorem lastFailure_recordSuccess (probe : Bool) :
    (b.recordSuccess name probe).2.lastFailure = b.lastFailure := by
  unfold recordSuccess
  dsimp only
  split
  · rfl
  · rfl
  · split <;> rfl

theorem lastFailure_recordFailure (probe : Bool) :
    (b.recordFailure name config now probe).2.lastFailure = some now := by
  unfold recordFailure
  dsimp only
  split <;> rfl

namespace History

variable {h : History}

/-- The time at which a move records a failure. -/
def failsAt? (h : History) (move : Move) : Option Instant :=
  if h.settles? move = some false then some h.now else none

/-- The times at which failures were recorded, the last one at the end. -/
def failureTimes (name : String) (config : Config) (moves : List Move) : List Instant :=
  (watch name config failsAt? {} moves).reduceOption

theorem failureTimes_concat (moves : List Move) (move : Move) :
    failureTimes name config (moves ++ [move]) =
      failureTimes name config moves ++ ((run name config moves).failsAt? move).toList := by
  rw [failureTimes, watch_concat, List.reduceOption_append, List.reduceOption_singleton]
  rfl

/-- A breaker remembers the time of a failure when it records it, whatever state it is in, and
nothing else changes what it remembers. -/
theorem lastFailure_step (h : History) (move : Move) :
    (h.step name config move).breaker.lastFailure =
      (h.failsAt? move).or h.breaker.lastFailure := by
  cases move with
  | call => rw [step, call_breaker, lastFailure_enter]; rfl
  | settle n good =>
    cases hn : h.calls[n]?.bind Standing.probing? with
    | none => simp [step, settle, failsAt?, settles?, hn]
    | some probe =>
      rw [breaker_settle name config good hn, failsAt?, settles?_settle hn]
      cases good with
      | true => exact lastFailure_recordSuccess probe
      | false => exact lastFailure_recordFailure probe
  | lose n => obtain heq | heq := h.breaker_lose n <;> rw [step, heq] <;> rfl
  | clock now => rfl
  | reset => rfl

theorem lastFailure_run (moves : List Move) :
    (run name config moves).breaker.lastFailure =
      (failureTimes name config moves).getLast? := by
  induction moves using List.reverseRecOn with
  | nil => rfl
  | append_singleton moves move ih =>
    rw [run_concat, lastFailure_step, failureTimes_concat, List.getLast?_append, ih]
    cases (run name config moves).failsAt? move <;> rfl

/-- The clock stands still while a failure is recorded. -/
theorem now_of_failsAt? (name : String) (config : Config) {move : Move} {failedAt : Instant}
    (hfails : h.failsAt? move = some failedAt) :
    failedAt = h.now ∧ (h.step name config move).now = h.now := by
  unfold failsAt? at hfails
  split at hfails
  · next hsettles =>
    refine ⟨(Option.some.inj hfails).symm, ?_⟩
    cases move with
    | settle n good => rw [now_step]; rfl
    | call | lose n | clock now | reset => cases hsettles
  · cases hfails

/-- **As long as the clock is not set back, failures are recorded in the order of their times.** -/
theorem failureTimes_sorted (name : String) (config : Config) {moves : List Move}
    (hsteady : Steady moves) :
    (failureTimes name config moves).Pairwise (· ≤ ·) ∧
      ∀ failedAt ∈ failureTimes name config moves, failedAt ≤ (run name config moves).now := by
  induction moves using List.reverseRecOn with
  | nil => exact ⟨.nil, fun _ hmem => by cases hmem⟩
  | append_singleton moves move ih =>
    obtain ⟨hbefore, hle⟩ := (steady_concat name config).mp hsteady
    obtain ⟨hsorted, hpast⟩ := ih hbefore
    rw [failureTimes_concat]
    cases hfails : (run name config moves).failsAt? move with
    | none =>
      rw [Option.toList_none, List.append_nil]
      exact ⟨hsorted, fun failedAt hmem => (hpast failedAt hmem).trans hle⟩
    | some failedAt =>
      -- The new failure is recorded now, and so after all others.
      obtain ⟨rfl, hstill⟩ := now_of_failsAt? name config hfails
      rw [run_concat, hstill, Option.toList_some]
      refine ⟨List.pairwise_append.mpr ⟨hsorted, List.pairwise_singleton .., ?_⟩, ?_⟩
      · simpa using hpast
      · intro failedAt hmem
        obtain hmem | hmem := List.mem_append.mp hmem
        · exact hpast failedAt hmem
        · exact (List.mem_singleton.mp hmem).le

/-- A breaker that is not closed remembers the latest of all failures. -/
theorem exists_latest {moves : List Move} (hsteady : Steady moves)
    (hopen : (run name config moves).breaker.phase ≠ .closed) :
    ∃ latest ∈ failureTimes name config moves,
      (∀ failedAt ∈ failureTimes name config moves, failedAt ≤ latest) ∧
        latest ≤ (run name config moves).now ∧
        (run name config moves).breaker.lastFailure = some latest := by
  obtain ⟨hsorted, hpast⟩ := failureTimes_sorted name config hsteady
  obtain ⟨latest, hlast⟩ := (counted_run name config moves).failed hopen
  have hend : (failureTimes name config moves).getLast? = some latest :=
    (lastFailure_run moves).symm.trans hlast
  have hmem := List.mem_of_getLast? hend
  refine ⟨latest, hmem, fun failedAt hfailed => ?_, hpast latest hmem, hlast⟩
  obtain ⟨earlier, htimes⟩ := List.getLast?_eq_some_iff.mp hend
  rw [htimes] at hsorted hfailed
  obtain ⟨-, -, hbefore⟩ := List.pairwise_append.mp hsorted
  obtain hfailed | hfailed := List.mem_append.mp hfailed
  · exact hbefore failedAt hfailed latest (List.mem_singleton_self _)
  · exact (List.mem_singleton.mp hfailed).le

/-! ### The ways out -/

theorem step_call_of_hot (hopen : h.breaker.phase = .opened)
    (hhot : h.breaker.cooled config h.now = false) :
    h.step name config .call = { h with calls := h.calls ++ [.refused] } := by
  simp only [step, call, enter_of_hot hopen hhot]

theorem step_call_of_cooled (hopen : h.breaker.phase = .opened)
    (hcooled : h.breaker.cooled config h.now = true) :
    h.step name config .call =
      ⟨{ h.breaker with phase := .halfOpen, probing := true }, h.now, h.calls ++ [.probe]⟩ := by
  simp only [step, call, enter_of_cooled hopen hcooled, if_true]

/-- **An open breaker stays open, unless it is reset or a call comes after the cool-down.** -/
theorem leaves_opened (hopen : h.breaker.phase = .opened) {move : Move}
    (hleaves : (h.step name config move).breaker.phase ≠ .opened) :
    move = .reset ∨ move = .call ∧ h.breaker.cooled config h.now = true := by
  cases move with
  | call =>
    refine .inr ⟨rfl, Bool.eq_true_of_not_eq_false fun hhot => hleaves ?_⟩
    rw [step_call_of_hot hopen hhot, hopen]
  | settle n good =>
    refine absurd ?_ hleaves
    cases hn : h.calls[n]?.bind Standing.probing? with
    | none => simpa only [step, settle, hn] using hopen
    | some probe =>
      rw [breaker_settle name config good hn]
      cases good with
      | true => simp [recordSuccess, hopen]
      | false => simp [recordFailure, trips, hopen]
  | lose n =>
    refine absurd ?_ hleaves
    obtain heq | heq := h.breaker_lose n <;> rw [step, heq] <;> exact hopen
  | clock now => exact absurd hopen hleaves
  | reset => exact .inl rfl

/-- From this number on, all calls were refused. -/
structure RefusedFrom (first : Nat) (h : History) : Prop where
  le : first ≤ h.calls.length
  refused (n : Nat) (v : Standing) : first ≤ n → h.calls[n]? = some v → v = .refused

/-- Other calls end. -/
private theorem RefusedFrom.set {first n : Nat} (hr : RefusedFrom first h) {probe : Bool}
    (hn : h.calls[n]?.bind Standing.probing? = some probe) (v : Standing) (b : Breaker) :
    RefusedFrom first ⟨b, h.now, h.calls.set n v⟩ := by
  refine ⟨by rw [List.length_set]; exact hr.le, fun m v' hm hv' => ?_⟩
  have hne : n ≠ m := by
    rintro rfl
    obtain ⟨old, hold, hprobing⟩ := Option.bind_eq_some_iff.mp hn
    rw [hr.refused n old hm hold] at hprobing
    cases hprobing
  rw [List.getElem?_set_ne hne] at hv'
  exact hr.refused m v' hm hv'

/-- A call that comes to an open breaker is refused if the breaker stays open. -/
theorem RefusedFrom.step {first : Nat} (hr : RefusedFrom first h)
    (hopen : h.breaker.phase = .opened) {move : Move}
    (hstays : (h.step name config move).breaker.phase = .opened) :
    RefusedFrom first (h.step name config move) := by
  cases move with
  | call =>
    have hhot : h.breaker.cooled config h.now = false := by
      by_contra hcooled
      rw [step_call_of_cooled hopen (Bool.eq_true_of_not_eq_false hcooled)] at hstays
      cases hstays
    rw [step_call_of_hot hopen hhot]
    refine ⟨hr.le.trans (by simp), fun n v hn hv => ?_⟩
    -- Either the call was there before, or it is the one that has just come.
    obtain hlt | hge := Nat.lt_or_ge n h.calls.length
    · rw [List.getElem?_append_left hlt] at hv
      exact hr.refused n v hn hv
    · rw [List.getElem?_append_right hge, List.getElem?_singleton] at hv
      split at hv
      · exact (Option.some.inj hv).symm
      · cases hv
  | settle n good =>
    cases hn : h.calls[n]?.bind Standing.probing? with
    | none => simpa only [History.step, settle, hn] using hr
    | some probe =>
      simp only [History.step, settle, hn]
      exact hr.set hn ..
  | lose n =>
    cases hn : h.calls[n]?.bind Standing.probing? with
    | none => simpa only [History.step, History.lose, hn] using hr
    | some probe =>
      simp only [History.step, History.lose, hn]
      exact hr.set hn ..
  | clock now => exact ⟨hr.le, hr.refused⟩
  | reset => cases hstays

/-- **No call that comes while a breaker is open is let through.** -/
theorem refusedFrom_run (moves : List Move) {more : List Move}
    (hopen : ∀ k ≤ more.length,
      (run name config (moves ++ more.take k)).breaker.phase = .opened) :
    RefusedFrom (run name config moves).calls.length (run name config (moves ++ more)) := by
  induction more using List.reverseRecOn with
  | nil =>
    rw [List.append_nil]
    exact ⟨le_refl _, fun n v hn hv => by
      rw [List.getElem?_eq_none hn] at hv
      cases hv⟩
  | append_singleton more move ih =>
    have hprefix : ∀ k ≤ more.length,
        (run name config (moves ++ more.take k)).breaker.phase = .opened := fun k hk => by
      have hwas := hopen k (hk.trans (by simp))
      rwa [List.take_append_of_le_length hk] at hwas
    have hbefore := hprefix more.length (le_refl _)
    have hafter := hopen (more ++ [move]).length (le_refl _)
    rw [List.take_length] at hbefore hafter
    rw [← List.append_assoc, run_concat] at hafter ⊢
    exact (ih hprefix).step hbefore hafter

/-- What becomes of a call that comes to an open breaker, and of the breaker: this depends on the
time of the latest failure alone. -/
theorem opened_history {moves : List Move} (hsteady : Steady moves)
    (hopen : (run name config moves).breaker.phase = .opened) :
    let h := run name config moves
    ∃ latest ∈ failureTimes name config moves,
      (∀ failedAt ∈ failureTimes name config moves, failedAt ≤ latest) ∧
      h.breaker.lastFailure = some latest ∧
      (¬ config.CooledBy latest h.now →
        h.breaker.enter name config h.now =
            (.rejected h.breaker.failureCount, none, h.breaker) ∧
          h.step name config .call = { h with calls := h.calls ++ [.refused] }) ∧
      (config.CooledBy latest h.now →
        let probing := { h.breaker with phase := .halfOpen, probing := true }
        h.breaker.enter name config h.now =
            (.allowed true, some (.breakerHalfOpen name), probing) ∧
          h.step name config .call = ⟨probing, h.now, h.calls ++ [.probe]⟩) ∧
      ∀ move, (h.step name config move).breaker.phase ≠ .opened →
        move = .reset ∨ move = .call ∧ config.CooledBy latest h.now := by
  intro h
  have hwas : h.breaker.phase = .opened := hopen
  obtain ⟨latest, hmem, hlatest, hle, hlast⟩ :=
    exists_latest hsteady fun hclosed => by rw [hopen] at hclosed; cases hclosed
  -- Whether the breaker has cooled down depends on the latest failure alone, since it remembers it.
  have hiff : h.breaker.cooled config h.now = true ↔ config.CooledBy latest h.now :=
    cooled_iff hlast hle
  refine ⟨latest, hmem, hlatest, hlast, fun hnot => ?_, fun hover => ?_, fun move hleaves => ?_⟩
  · have hhot := Bool.eq_false_of_not_eq_true fun hyes => hnot (hiff.mp hyes)
    exact ⟨enter_of_hot hwas hhot, step_call_of_hot hwas hhot⟩
  · have hcooled := hiff.mpr hover
    exact ⟨enter_of_cooled hwas hcooled, step_call_of_cooled hwas hcooled⟩
  · exact (leaves_opened hwas hleaves).imp_right fun hcall => ⟨hcall.1, hiff.mp hcall.2⟩

end History

end Breaker

/-! ### The world -/

namespace World

variable {w : World} {name : String} {c : Component Breaker.Config Breaker}

/-- An answer is that of the breaker. -/
theorem admission_enter (hc : w.breakers.get? name = some c) :
    (w.enter name).1 = (c.state.enter name c.config w.now).1 := by
  rw [enter, hc]

theorem get?_breakers_enter (hc : w.breakers.get? name = some c) :
    (w.enter name).2.breakers.get? name =
      some { c with state := (c.state.enter name c.config w.now).2.2 } := by
  rw [enter, hc]
  simp [Table.get?_set]

/-- A breaker that refuses a call as it is leaves the world as it is. -/
theorem enter_of_rejected (hc : w.breakers.get? name = some c) {failureCount : Nat}
    (hrejected : c.state.enter name c.config w.now = (.rejected failureCount, none, c.state)) :
    w.enter name = (.rejected failureCount, w) := by
  simp only [enter, hc, hrejected, report, Table.set_of_get? hc]

end World

namespace Breaker

open History

/-- Calls that come to a breaker are turned away. What is inside the breaker does not begin and
nothing changes: the call fails at once with the name of the breaker and its count of failures,
or its fallback begins instead. -/
def TurnsAway (name : String) (failureCount : Nat) (w : World) : Prop :=
  ∀ (inner fallback : Operation) (task : TaskId) (arg : Json),
    (Operation.guarded inner name).start task arg w =
        (.ready (.error (.rejected (.circuitOpen name failureCount))), w) ∧
      (Operation.withFallback inner name fallback).start task arg w = fallback.start task arg w

/-- A call that comes to a breaker is let through as its probe, into the second world. -/
def LetsProbe (name : String) (w w' : World) : Prop :=
  ∀ (inner fallback : Operation) (task : TaskId) (arg : Json),
    (Operation.guarded inner name).start task arg w =
        Call.afterGuarded name true (inner.start task arg w') ∧
      (Operation.withFallback inner name fallback).start task arg w =
        Call.afterPrimary name true fallback arg (fun w => fallback.start task arg w)
          (inner.start task arg w')

variable {name : String} {w : World}

theorem turnsAway_of_rejected {failureCount : Nat}
    (h : w.enter name = (.rejected failureCount, w)) : TurnsAway name failureCount w := by
  intro inner fallback task arg
  simp only [Operation.start, h, and_self]

theorem letsProbe_of_allowed (h : (w.enter name).1 = .allowed true) :
    LetsProbe name w (w.enter name).2 := by
  intro inner fallback task arg
  rcases hentered : w.enter name with ⟨admission, w'⟩
  rw [hentered] at h
  obtain rfl : admission = .allowed true := h
  simp only [Operation.start, hentered, and_self]

/-- What becomes of a call that comes to an open breaker of a scene, and of the breaker. -/
theorem opened_scene {sc : Scene} (hsc : sc.Reachable) {c : Component Config Breaker}
    (hc : sc.world.breakers.get? name = some c) (hopen : c.state.phase = .opened) :
    ∃ moves, Steady moves ∧ Shows name c.state sc.world.now sc.holds (run name c.config moves) ∧
    ∃ latest ∈ failureTimes name c.config moves,
      (∀ failedAt ∈ failureTimes name c.config moves, failedAt ≤ latest) ∧
      c.state.lastFailure = some latest ∧
      (¬ c.config.CooledBy latest sc.world.now →
        TurnsAway name c.state.failureCount sc.world) ∧
      (c.config.CooledBy latest sc.world.now →
        LetsProbe name sc.world (sc.world.enter name).2 ∧
          (sc.world.enter name).2.breakers.get? name =
            some { c with state := { c.state with phase := .halfOpen, probing := true } }) ∧
      ∀ sc', Act sc sc' → ∃ (b : Breaker) (move? : Option Move),
        sc'.world.breakers.get? name = some { c with state := b } ∧
        Steady (moves ++ move?.toList) ∧
        Shows name b sc'.world.now sc'.holds (run name c.config (moves ++ move?.toList)) ∧
        (b.phase ≠ .opened →
          move? = some .reset ∨ move? = some .call ∧ c.config.CooledBy latest sc.world.now) := by
  -- The breaker is in the state to which some history with a steady clock leads, so what holds of
  -- every such history holds of it.
  obtain ⟨moves, hsteady, hshows⟩ := exists_steady_history hsc hc
  have hopen' : (run name c.config moves).breaker.phase = .opened := hshows.state.symm ▸ hopen
  obtain ⟨latest, hmem, hlatest, hlast, hhot, hcooled, hleaves⟩ := opened_history hsteady hopen'
  simp only [hshows.state, hshows.clock] at hlast hhot hcooled hleaves
  refine ⟨moves, hsteady, hshows, latest, hmem, hlatest, hlast, fun hnot => ?_, fun hover => ?_,
    fun sc' hact => ?_⟩
  · exact turnsAway_of_rejected (World.enter_of_rejected hc (hhot hnot).1)
  · obtain ⟨henter, -⟩ := hcooled hover
    refine ⟨letsProbe_of_allowed ?_, ?_⟩
    · rw [World.admission_enter hc, henter]
    · rw [World.get?_breakers_enter hc, henter]
  · obtain ⟨b, move?, hb, hsteady', hshows'⟩ := exists_move_of_act hsc hact hc hsteady hshows
    refine ⟨b, move?, hb, hsteady', hshows', fun hleft => ?_⟩
    -- The act is one move to this breaker, or none, and a move that ends the state is a way out.
    rw [← hshows'.state] at hleft
    cases move? with
    | none => exact absurd hopen' (by simpa using hleft)
    | some move =>
      rw [Option.toList_some, run_concat] at hleft
      exact (hleaves move hleft).imp (congrArg some) fun hcall => ⟨congrArg some hcall.1, hcall.2⟩

/-- **An open breaker fails fast.** In a history in which the clock is never set back, a call that
comes to an open breaker is refused with its count of failures, and nothing changes, as long as the
reset timeout has not passed since the latest of all failures; a call that comes when it has is let
through as the probe. The breaker is open until such a call or a reset, and no call that comes
while it is open is let through. In every scene and in every session the same holds: the history
of the breaker in it is such a history, a call that is refused does not begin what is inside the
breaker and leaves the world as it is, and every act that takes the breaker out of its state is a
reset or such a call. -/
theorem fails_fast :
    (∀ (name : String) (config : Config) (moves : List Move),
      let h := run name config moves
      Steady moves → h.breaker.phase = .opened →
      ∃ latest ∈ failureTimes name config moves,
        (∀ failedAt ∈ failureTimes name config moves, failedAt ≤ latest) ∧
        h.breaker.lastFailure = some latest ∧
        (¬ config.CooledBy latest h.now →
          h.breaker.enter name config h.now =
              (.rejected h.breaker.failureCount, none, h.breaker) ∧
            h.step name config .call = { h with calls := h.calls ++ [.refused] }) ∧
        (config.CooledBy latest h.now →
          let probing := { h.breaker with phase := .halfOpen, probing := true }
          h.breaker.enter name config h.now =
              (.allowed true, some (.breakerHalfOpen name), probing) ∧
            h.step name config .call = ⟨probing, h.now, h.calls ++ [.probe]⟩) ∧
        ∀ move, (h.step name config move).breaker.phase ≠ .opened →
          move = .reset ∨ move = .call ∧ config.CooledBy latest h.now) ∧
    (∀ (name : String) (config : Config) (moves more : List Move),
      (∀ k ≤ more.length, (run name config (moves ++ more.take k)).breaker.phase = .opened) →
      ∀ n v, (run name config moves).calls.length ≤ n →
        (run name config (moves ++ more)).calls[n]? = some v → v = .refused) ∧
    (∀ (sc : Scene) (name : String) (c : Component Config Breaker),
      sc.Reachable → sc.world.breakers.get? name = some c → c.state.phase = .opened →
      ∃ moves, Steady moves ∧ Shows name c.state sc.world.now sc.holds (run name c.config moves) ∧
      ∃ latest ∈ failureTimes name c.config moves,
        (∀ failedAt ∈ failureTimes name c.config moves, failedAt ≤ latest) ∧
        c.state.lastFailure = some latest ∧
        (¬ c.config.CooledBy latest sc.world.now →
          TurnsAway name c.state.failureCount sc.world) ∧
        (c.config.CooledBy latest sc.world.now →
          LetsProbe name sc.world (sc.world.enter name).2 ∧
            (sc.world.enter name).2.breakers.get? name =
              some { c with state := { c.state with phase := .halfOpen, probing := true } }) ∧
        ∀ sc', Act sc sc' → ∃ (b : Breaker) (move? : Option Move),
          sc'.world.breakers.get? name = some { c with state := b } ∧
          Steady (moves ++ move?.toList) ∧
          Shows name b sc'.world.now sc'.holds (run name c.config (moves ++ move?.toList)) ∧
          (b.phase ≠ .opened →
            move? = some .reset ∨
              move? = some .call ∧ c.config.CooledBy latest sc.world.now)) ∧
    (∀ (s : Session) (name : String) (c : Component Config Breaker),
      s.Reachable → s.world.breakers.get? name = some c → c.state.phase = .opened →
      s.scene.Reachable ∧ ∃ latest, c.state.lastFailure = some latest ∧
        (¬ c.config.CooledBy latest s.world.now → TurnsAway name c.state.failureCount s.world) ∧
        (c.config.CooledBy latest s.world.now →
          LetsProbe name s.world (s.world.enter name).2)) := by
  refine ⟨fun name config moves => opened_history, fun name config moves more hopen n v hn hv => ?_,
    fun sc name c hsc hc hopen => opened_scene hsc hc hopen, fun s name c hs hc hopen => ?_⟩
  · exact (refusedFrom_run moves hopen).refused n v hn hv
  · obtain ⟨-, hreach⟩ := hs.valid_scene
    obtain ⟨-, -, -, latest, -, -, hlast, hhot, hcooled, -⟩ := opened_scene hreach hc hopen
    exact ⟨hreach, latest, hlast, hhot, fun hover => (hcooled hover).1⟩

/-- Two calls are on their way. One fails and trips the breaker, the other fails late. -/
def failingLate : List Move := [.call, .call, .settle 0 false, .clock 5, .settle 1 false]

/-- The history at a time after that. -/
def failedLate (now : Instant) : History :=
  run "b" ⟨1, .ofMillis 10⟩ (failingLate ++ [.clock now])

theorem fails_fast_tripped :
    ((failedLate 10).breaker.phase = .opened ∧
      (failedLate 10).breaker.enter "b" ⟨1, .ofMillis 10⟩ 10 =
        (.rejected 2, none, (failedLate 10).breaker)) ∧
    (((failedLate 15).breaker.enter "b" ⟨1, .ofMillis 10⟩ 15).1 = .allowed true ∧
      ((failedLate 15).step "b" ⟨1, .ofMillis 10⟩ .call).calls =
        (failedLate 15).calls ++ [.probe]) ∧
    (run "b" ⟨1, .ofMillis 10⟩ (failingLate ++ [.clock 10, .call])).calls[2]? = some .refused ∧
    tripped.Reachable ∧ TurnsAway "b" 1 tripped.world ∧
    ∃ c b moves, tripped.world.breakers.get? "b" = some c ∧
      (tripped.world.resetBreaker "b").2.breakers.get? "b" = some { c with state := b } ∧
      Steady (moves ++ [.reset]) ∧ Shows "b" b (tripped.world.resetBreaker "b").2.now
        tripped.holds (run "b" c.config (moves ++ [.reset])) := by
  obtain ⟨hhistory, hperiod, hscene, hsession⟩ := fails_fast
  refine ⟨?_, ?_, ?_, ?_⟩
  · obtain ⟨latest, -, -, hlast, hhot, -⟩ :=
      hhistory "b" ⟨1, .ofMillis 10⟩ (failingLate ++ [.clock 10]) (by decide) (by decide)
    obtain rfl : 5 = latest := Option.some.inj ((by decide : some 5 = _).trans hlast)
    exact ⟨by decide, (hhot (by decide)).1⟩
  · obtain ⟨latest, -, -, hlast, -, hcooled, -⟩ :=
      hhistory "b" ⟨1, .ofMillis 10⟩ (failingLate ++ [.clock 15]) (by decide) (by decide)
    obtain rfl : 5 = latest := Option.some.inj ((by decide : some 5 = _).trans hlast)
    obtain ⟨henter, hstep⟩ := hcooled (by decide)
    exact ⟨congrArg Prod.fst henter, congrArg History.calls hstep⟩
  · obtain ⟨v, hv⟩ : ∃ v, (run "b" ⟨1, .ofMillis 10⟩
        (failingLate ++ [.clock 10, .call])).calls[2]? = some v := ⟨.refused, by decide⟩
    obtain rfl := hperiod "b" ⟨1, .ofMillis 10⟩ failingLate [.clock 10, .call] (by decide) 2 v
      (by decide) hv
    exact hv
  · obtain ⟨c, hc, hconfig, hstate⟩ := breakers_tripped
    have hreach := (Session.Reachable.create {} true).run happens_tripped
    have hopen : c.state.phase = .opened := by rw [hstate]
    obtain ⟨hsc, latest, hlast, hhot, -⟩ := hsession tripped "b" c hreach hc hopen
    obtain ⟨moves, -, -, latest', -, -, hlast', -, -, hacts⟩ :=
      hscene tripped.scene "b" c hsc hc hopen
    obtain rfl := Option.some.inj (hlast.symm.trans hlast')
    obtain rfl : 0 = latest := Option.some.inj (by rw [← hlast, hstate])
    have hnow : tripped.world.now = 0 := by decide +kernel
    have hnot : ¬ c.config.CooledBy 0 tripped.world.now := by rw [hconfig, hnow]; decide
    have hcount : c.state.failureCount = 1 := by rw [hstate]
    -- A reset takes the breaker out of its state, and no call could do that yet.
    obtain ⟨b, move?, hb, hsteady, hshows, hleaves⟩ :=
      hacts ⟨(tripped.world.resetBreaker "b").2, tripped.holds⟩ (.resetBreaker "b")
    have hclosed : b.phase = .closed := by
      have hphase : ((tripped.world.resetBreaker "b").2.breakers.get? "b").map (·.state.phase) =
          some .closed := by decide +kernel
      rw [hb] at hphase
      exact Option.some.inj hphase
    obtain rfl | ⟨-, hover⟩ := hleaves (by simp [hclosed])
    · exact ⟨hreach, hcount ▸ hhot hnot, c, b, moves, hc, hb, hsteady, hshows⟩
    · exact absurd hover hnot

end Breaker

end Resilience
