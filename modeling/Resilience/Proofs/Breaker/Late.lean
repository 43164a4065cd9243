import Resilience.Proofs.Breaker.Release
import Resilience.Proofs.Story.Course

/-!
# Late outcomes

A call that a closed breaker lets through may settle when the breaker is open or half open by then.
Its outcome comes **late**: it is counted (`Breaker.count`) and decides nothing. What tells a late
outcome from that of the probe is a mark, which a call is given when it is let through and keeps
until it settles. The breaker itself keeps no list of its calls.

So the law spans the time between two moves of one call. `History.CameTo` says what a call found
when it came, and the mark that it has later is the one that it was given then, whatever happened
in between (`History.CameTo.mark`). From this it follows that a half open breaker is led out of its
state by calls that were let through as probes and by a reset, and by nothing else
(`History.leaves_halfOpen`). `LateIdle` puts together what holds of a history, and `GoesByMark` what
holds of a breaker in the world.
-/

namespace Resilience

namespace Breaker

/-- An outcome is counted, and decides nothing. -/
def count (good : Bool) (now : Instant) (b : Breaker) : Breaker :=
  if good then { b with successCount := b.successCount + 1 }
  else { b with failureCount := min (b.failureCount + 1) maxHalfWord, lastFailure := some now }

section

variable {name : String} {config : Config} {now : Instant} {b : Breaker}

@[simp] theorem phase_count (good : Bool) (now : Instant) (b : Breaker) :
    (b.count good now).phase = b.phase := by
  cases good <;> rfl

@[simp] theorem probing_count (good : Bool) (now : Instant) (b : Breaker) :
    (b.count good now).probing = b.probing := by
  cases good <;> rfl

/-- Any number of outcomes are counted. -/
theorem foldl_count (outcomes : List Bool) (hcount : b.failureCount ≤ maxHalfWord) :
    outcomes.foldl (fun b good => b.count good now) b =
      { b with
        successCount := b.successCount + outcomes.count true
        failureCount := min (b.failureCount + outcomes.count false) maxHalfWord
        lastFailure := if false ∈ outcomes then some now else b.lastFailure } := by
  induction outcomes generalizing b with
  | nil => simp [Nat.min_eq_left hcount]
  | cons good rest ih =>
    rw [List.foldl_cons]
    cases good with
    | true =>
      have hrest := ih (b := b.count true now) hcount
      rw [hrest]
      simp [count, Nat.add_assoc, Nat.add_comm 1]
    | false =>
      have hrest := ih (b := b.count false now) (Nat.min_le_right ..)
      rw [hrest]
      have hmin : min (min (b.failureCount + 1) maxHalfWord + rest.count false) maxHalfWord =
          min (b.failureCount + (rest.count false + 1)) maxHalfWord := by omega
      simp [count, hmin]

/-- A success without the mark of a probe is only counted, unless the breaker is closed. -/
theorem recordSuccess_late (now : Instant) (hopen : b.phase ≠ .closed) :
    b.recordSuccess name false = (none, b.count true now) := by
  cases hphase : b.phase with
  | closed => exact absurd hphase hopen
  | opened => simp [recordSuccess, count, hphase]
  | halfOpen => simp [recordSuccess, count, hphase]

/-- A failure without the mark of a probe is only counted, unless the breaker is closed. -/
theorem recordFailure_late (hopen : b.phase ≠ .closed) :
    b.recordFailure name config now false = (none, b.count false now) := by
  have hstays (n : Nat) : trips config false b.phase n = false := by
    cases hphase : b.phase with
    | closed => exact absurd hphase hopen
    | opened => rfl
    | halfOpen => rfl
  simp [recordFailure, hstays, count]

/-- A call is marked as a probe unless it is a closed breaker that lets it through. -/
theorem enter_mark {probe : Bool} (h : (b.enter name config now).1 = .allowed probe) :
    probe = false ↔ b.phase = .closed := by
  unfold enter at h
  cases hphase : b.phase with
  | closed =>
    simp only [hphase, Admission.allowed.injEq] at h
    simp [← h]
  | opened | halfOpen =>
    simp only [hphase] at h
    split at h <;> cases h
    simp

/-- The mark that comes with an answer. -/
def Admission.mark? : Admission → Option Bool
  | allowed probe => some probe
  | rejected _ => none

theorem Admission.mark?_eq_some {answer : Admission} {probe : Bool} :
    answer.mark? = some probe ↔ answer = .allowed probe := by
  cases answer <;> simp [mark?]

end

/-! ### What a call found -/

namespace History

/-- The call of this number came when the breaker was in this state, and this was the answer. -/
def CameTo (name : String) (config : Config) (moves : List Move) (n : Nat) (phase : Phase)
    (answer : Admission) : Prop :=
  ∃ before after, moves = before ++ .call :: after ∧
    (run name config before).calls.length = n ∧
    (run name config before).breaker.phase = phase ∧
    ((run name config before).breaker.enter name config (run name config before).now).1 = answer

variable {name : String} {config : Config} {h : History} {moves : List Move} {n : Nat}
  {phase : Phase} {answer : Admission} {probe : Bool}

/-- The number of calls grows by those that come. -/
theorem length_step (name : String) (config : Config) (h : History) (move : Move) :
    (h.step name config move).calls.length =
      h.calls.length + if move = .call then 1 else 0 := by
  cases move with
  | call => simp only [step, call]; split <;> simp
  | settle n good => simp only [step, settle]; split <;> simp
  | lose n => simp only [step, lose]; split <;> simp
  | clock now => rfl
  | reset => simp [step]

/-- A call that comes is given the mark that goes with the answer. -/
theorem mark_call (name : String) (config : Config) (h : History) :
    (h.step name config .call).calls[h.calls.length]?.bind Standing.probing? =
      (h.breaker.enter name config h.now).1.mark? := by
  simp only [step, call]
  split
  · next probe _ _ henter =>
    rw [henter]
    cases probe <;> simp [Standing.probing?, Admission.mark?]
  · next henter =>
    rw [henter]
    simp [Standing.probing?, Admission.mark?]

/-- **The mark of a call does not change** until the call settles or goes away. -/
theorem mark_step {move : Move} (hn : n < h.calls.length)
    (hmark : (h.step name config move).calls[n]?.bind Standing.probing? = some probe) :
    h.calls[n]?.bind Standing.probing? = some probe := by
  -- The call that ends is another one.
  have hset {m : Nat} {v : Standing} (hv : v.probing? = none)
      (hmark : (h.calls.set m v)[n]?.bind Standing.probing? = some probe) :
      h.calls[n]?.bind Standing.probing? = some probe := by
    rw [List.getElem?_set] at hmark
    split at hmark
    · split at hmark
      · simp [hv] at hmark
      · cases hmark
    · exact hmark
  cases move with
  | call =>
    have hlonger : ∃ v, (h.step name config .call).calls = h.calls ++ [v] := by
      simp only [step, call]
      split <;> exact ⟨_, rfl⟩
    obtain ⟨v, hv⟩ := hlonger
    rwa [hv, List.getElem?_append_left hn] at hmark
  | settle m good =>
    simp only [step, settle] at hmark
    split at hmark
    · exact hset rfl hmark
    · exact hmark
  | lose m =>
    simp only [step, lose] at hmark
    split at hmark
    · exact hset rfl hmark
    · exact hmark
  | clock now => exact hmark
  | reset =>
    -- A probe that becomes stray keeps its mark.
    have hovertaken (v : Standing) : v.overtaken.probing? = v.probing? := by cases v <;> rfl
    simp only [step, List.getElem?_map, Option.bind_map, Function.comp_def, hovertaken] at hmark
    exact hmark

theorem CameTo.concat (hcame : CameTo name config moves n phase answer) (move : Move) :
    CameTo name config (moves ++ [move]) n phase answer := by
  obtain ⟨before, after, rfl, hcall⟩ := hcame
  exact ⟨before, after ++ [move], by simp, hcall⟩

/-- Every call came at some time. -/
theorem exists_cameTo (hn : n < (run name config moves).calls.length) :
    ∃ phase answer, CameTo name config moves n phase answer := by
  induction moves using List.reverseRecOn with
  | nil => simp [run] at hn
  | append_singleton moves move ih =>
    rw [run_concat, length_step] at hn
    by_cases hearlier : n < (run name config moves).calls.length
    · obtain ⟨phase, answer, hcame⟩ := ih hearlier
      exact ⟨phase, answer, hcame.concat move⟩
    · split at hn
      · next hcall =>
        subst hcall
        exact ⟨_, _, moves, [], rfl, by omega, rfl, rfl⟩
      · omega

/-- **A call has the mark that it was given when it came**, as long as it has one. -/
theorem CameTo.mark (hcame : CameTo name config moves n phase answer)
    (hmark : (run name config moves).calls[n]?.bind Standing.probing? = some probe) :
    answer = .allowed probe := by
  obtain ⟨before, after, rfl, rfl, -, rfl⟩ := hcame
  -- The call came before these moves, so its number is below the number of calls after them.
  have hlength : ∀ after, (run name config before).calls.length <
      (run name config (before ++ .call :: after)).calls.length := by
    intro after
    induction after using List.reverseRecOn with
    | nil =>
      rw [run_concat, length_step]
      simp
    | append_singleton after move ih =>
      rw [← List.cons_append, ← List.append_assoc, run_concat, length_step]
      omega
  -- No move gives a mark to a call that came earlier: moves only take marks away.
  induction after using List.reverseRecOn with
  | nil =>
    rw [run_concat, mark_call] at hmark
    exact Admission.mark?_eq_some.mp hmark
  | append_singleton after move ih =>
    rw [← List.cons_append, ← List.append_assoc, run_concat] at hmark
    exact ih (mark_step (hlength after) hmark)

/-- A call that was let through is marked as a probe unless it came to a closed breaker. -/
theorem CameTo.closed_iff (hcame : CameTo name config moves n phase (.allowed probe)) :
    probe = false ↔ phase = .closed := by
  obtain ⟨before, after, -, -, rfl, hanswer⟩ := hcame
  exact enter_mark hanswer

/-- A call that came to a closed breaker and has not settled has no mark of a probe. -/
theorem CameTo.mark_eq_false (hcame : CameTo name config moves n .closed answer)
    (hmark : (run name config moves).calls[n]?.bind Standing.probing? = some probe) :
    probe = false := by
  obtain rfl := hcame.mark hmark
  exact hcame.closed_iff.mpr rfl

/-! ### Late outcomes in a history -/

/-- A late outcome of a call, which is still on its way. -/
theorem step_late (name : String) (config : Config)
    (hmark : h.calls[n]?.bind Standing.probing? = some false)
    (hopen : h.breaker.phase ≠ .closed) (good : Bool) :
    h.event? name config (.settle n good) = none ∧
      h.step name config (.settle n good) =
        ⟨h.breaker.count good h.now, h.now, h.calls.set n .settled⟩ := by
  cases good with
  | true => simp [event?, step, settle, hmark, recordSuccess_late h.now hopen]
  | false => simp [event?, step, settle, hmark, recordFailure_late hopen]

/-- **A late outcome is counted and decides nothing.** A call that ended before is not even
counted. -/
theorem settle_late (hcame : CameTo name config moves n .closed answer)
    (hopen : (run name config moves).breaker.phase ≠ .closed) (good : Bool) :
    (run name config moves).event? name config (.settle n good) = none ∧
      (run name config moves).step name config (.settle n good) =
        if ((run name config moves).calls[n]?.bind Standing.probing?).isSome then
          ⟨(run name config moves).breaker.count good (run name config moves).now,
            (run name config moves).now, (run name config moves).calls.set n .settled⟩
        else run name config moves := by
  cases hmark : (run name config moves).calls[n]?.bind Standing.probing? with
  | none => exact ⟨by simp [event?, hmark], by simp [step, settle, hmark]⟩
  | some probe =>
    obtain rfl := hcame.mark_eq_false hmark
    exact step_late name config hmark hopen good

/-- That calls settle, one after the other. -/
def settlements (outcomes : List (Nat × Bool)) : List Move :=
  outcomes.map fun (n, good) => .settle n good

/-- These calls are on their way since they came to a closed breaker. -/
def AllLate (name : String) (config : Config) (moves : List Move) (numbers : List Nat) : Prop :=
  numbers.Nodup ∧ ∀ n ∈ numbers, (∃ answer, CameTo name config moves n .closed answer) ∧
    (run name config moves).calls[n]?.bind Standing.probing? ≠ none

/-- The first of them settles, and the others are still on their way. -/
theorem AllLate.tail {numbers : List Nat} {good : Bool}
    (hlate : AllLate name config moves (n :: numbers)) :
    AllLate name config (moves ++ [.settle n good]) numbers := by
  obtain ⟨hdistinct, hall⟩ := hlate
  obtain ⟨hother, hdistinct⟩ := List.nodup_cons.mp hdistinct
  refine ⟨hdistinct, fun m hm => ?_⟩
  obtain ⟨⟨answer, hcame⟩, hmark⟩ := hall m (List.mem_cons_of_mem _ hm)
  have hne : n ≠ m := fun heq => hother (heq ▸ hm)
  refine ⟨⟨answer, hcame.concat _⟩, ?_⟩
  rw [run_concat]
  simp only [step, settle]
  split
  · rwa [List.getElem?_set_ne hne]
  · exact hmark

/-- **Any number of late outcomes, in any order, are counted one by one and decide nothing.** -/
theorem settlements_late {outcomes : List (Nat × Bool)}
    (hlate : AllLate name config moves (outcomes.map Prod.fst))
    (hopen : (run name config moves).breaker.phase ≠ .closed) :
    reported name config (run name config moves) (settlements outcomes) = [] ∧
      (run name config (moves ++ settlements outcomes)).now = (run name config moves).now ∧
      (run name config (moves ++ settlements outcomes)).breaker =
        (outcomes.map Prod.snd).foldl (fun b good => b.count good (run name config moves).now)
          (run name config moves).breaker := by
  induction outcomes generalizing moves with
  | nil => simp [settlements, reported, watch]
  | cons outcome rest ih =>
    obtain ⟨n, good⟩ := outcome
    -- The first outcome leaves the state as it is, and the others are still late after it.
    obtain ⟨⟨answer, hcame⟩, hmark⟩ := hlate.2 n (by simp)
    obtain ⟨hsilent, hstep⟩ := settle_late hcame hopen good
    rw [if_pos (Option.isSome_iff_ne_none.mpr hmark), ← run_concat] at hstep
    have hphase : (run name config (moves ++ [.settle n good])).breaker.phase ≠ .closed := by
      rwa [hstep, phase_count]
    obtain ⟨hreported, hnow, hbreaker⟩ := ih hlate.tail hphase
    have hmoves : moves ++ settlements ((n, good) :: rest) =
        moves ++ [.settle n good] ++ settlements rest := by simp [settlements]
    refine ⟨?_, ?_, ?_⟩
    · have hcons : settlements ((n, good) :: rest) = .settle n good :: settlements rest := rfl
      rw [hcons, reported_cons, hsilent, ← run_concat, hreported]
      rfl
    · rw [hmoves, hnow, hstep]
    · rw [hmoves, hbreaker, hstep]
      rfl

/-! ### The ways out -/

/-- **A half open breaker stays half open, unless it is reset or a call settles that was let through
as a probe.** -/
theorem leaves_halfOpen (hhalf : (run name config moves).breaker.phase = .halfOpen) {move : Move}
    (hleaves : ((run name config moves).step name config move).breaker.phase ≠ .halfOpen) :
    move = .reset ∨ ∃ n good phase, move = .settle n good ∧ phase ≠ .closed ∧
      CameTo name config moves n phase (.allowed true) := by
  cases move with
  | call =>
    refine absurd ?_ hleaves
    rw [step, call_breaker]
    unfold enter
    rw [hhalf]
    dsimp only
    split
    · exact hhalf
    · rfl
  | settle n good =>
    cases hmark : (run name config moves).calls[n]?.bind Standing.probing? with
    | none => exact absurd hhalf (by simpa only [step, settle, hmark] using hleaves)
    | some probe =>
      have hlt : n < (run name config moves).calls.length := by
        obtain ⟨v, hv, -⟩ := Option.bind_eq_some_iff.mp hmark
        exact (List.getElem?_eq_some_iff.mp hv).1
      -- The mark with which the call settles is the one that it was given when it came.
      obtain ⟨phase, answer, hcame⟩ := exists_cameTo hlt
      obtain rfl := hcame.mark hmark
      cases probe with
      | true =>
        refine .inr ⟨n, good, phase, rfl, fun hclosed => ?_, hcame⟩
        exact absurd (hcame.closed_iff.mpr hclosed) (by simp)
      | false =>
        -- Without the mark the outcome is late: it is only counted.
        obtain ⟨-, hstep⟩ := step_late name config hmark (by simp [hhalf]) good
        rw [hstep, phase_count] at hleaves
        exact absurd hhalf hleaves
  | lose n =>
    refine absurd ?_ hleaves
    obtain heq | heq := (run name config moves).breaker_lose n <;> rw [step, heq] <;> exact hhalf
  | clock now => exact absurd hhalf hleaves
  | reset => exact .inl rfl

end History

end Breaker

/-! ### The world -/

namespace World

variable {w : World} {name : String} {c : Component Breaker.Config Breaker}

/-- **A late outcome changes the counters of its breaker, and nothing else.** -/
theorem record_late (hc : w.breakers.get? name = some c) (hopen : c.state.phase ≠ .closed)
    (outcome : Outcome) : w.record name false outcome =
      { w with
        breakers := w.breakers.set name { c with state := c.state.count outcome.isOk w.now } } := by
  cases outcome with
  | ok value => simp [record, hc, Breaker.recordSuccess_late w.now hopen, report, Except.isOk,
      Except.toBool]
  | error failure => simp [record, hc, Breaker.recordFailure_late hopen, report, Except.isOk,
      Except.toBool]

end World

/-- What an act is for one breaker: it leaves it as it is, or it is done with it. -/
inductive ActAt (name : String) : Scene → Scene → Prop
  | aside {w w' H H'} (h : w'.breakers.get? name = w.breakers.get? name) :
      ActAt name ⟨w, H⟩ ⟨w', H'⟩
  | enter {w H} : ActAt name ⟨w, H⟩ ⟨(w.enter name).2, (w.enter name).1.holds name + H⟩
  | record {w H} (probe : Bool) (outcome : Outcome) :
      ActAt name ⟨w, .admission name probe ::ₘ H⟩ ⟨w.record name probe outcome, H⟩
  | forgo {w H} (probe : Bool) :
      ActAt name ⟨w, .admission name probe ::ₘ H⟩ ⟨w.forgo name probe, H⟩
  | reset {w H} : ActAt name ⟨w, H⟩ ⟨(w.resetBreaker name).2, H⟩

open World in
/-- **An act is done with one breaker, or with none.** -/
theorem Act.at {sc sc' : Scene} (hact : Act sc sc') {name : String}
    (hthere : sc.world.breakers.has name = true) : ActAt name sc sc' := by
  -- What a task does for another part is none of this breaker.
  have hdeed (task : TaskId) {d : Deed} {w w' : World} {H H' : Multiset Hold}
      (hdoes : d.Does task w w') (hd : d.part? ≠ some (.breaker name)) :
      ActAt name ⟨w, H⟩ ⟨w', H'⟩ := .aside (hdoes.within.breakers hd)
  cases hact with
  | idle h => exact .aside (by rw [h.breakers])
  | pass | nameLimiter | nameBucket | handleCache => exact .aside rfl
  | createLimiter | createBucket | createCache | createSource => exact .aside rfl
  | openBreaker other config =>
    refine .aside ?_
    unfold World.openBreaker
    split
    · rfl
    · next hhas =>
      have hne : other ≠ name := fun heq => hhas (heq ▸ hthere)
      simp [Table.get?_set, hne]
  | @enter w H other h =>
    by_cases heq : other = name
    · subst heq
      exact .enter
    · exact hdeed 0 (.enter rfl) (by simp [Deed.part?, heq])
  | record other probe outcome =>
    by_cases heq : other = name
    · subst heq
      exact .record probe outcome
    · exact hdeed 0 (.record other probe outcome) (by simp [Deed.part?, heq])
  | forgo other probe =>
    by_cases heq : other = name
    · subst heq
      exact .forgo probe
    · exact hdeed 0 (.forgo other probe) (by simp [Deed.part?, heq])
  | resetBreaker other =>
    by_cases heq : other = name
    · subst heq
      exact .reset
    · refine .aside ?_
      unfold World.resetBreaker
      split
      · simp [World.breakers_report, Table.get?_set, heq]
      · rfl
  | invoke id arg => exact hdeed 0 (.invoke rfl) (by simp [Deed.part?])
  | askSlot caller h => exact hdeed caller (.askSlot rfl) (by simp [Deed.part?])
  | pickUpSlot h => exact hdeed 0 (.pickUpSlot h) (by simp [Deed.part?])
  | releaseSlot id => exact hdeed 0 (.releaseSlot id) (by simp [Deed.part?])
  | leaveSlot id ticket => exact hdeed 0 (.leaveSlot id ticket) (by simp [Deed.part?])
  | askToken caller h => exact hdeed caller (.askToken rfl) (by simp [Deed.part?])
  | pickUpToken h => exact hdeed 0 (.pickUpToken h) (by simp [Deed.part?])
  | refuseToken h => exact .aside rfl
  | leaveToken id ticket => exact .aside rfl
  | refillBucket id =>
    obtain ⟨_, _, -, heq⟩ := World.refillBucket_eq id
    exact .aside (by rw [heq])
  | shutDownBucket id =>
    obtain ⟨_, _, -, heq⟩ := World.shutDownBucket_eq id
    exact .aside (by rw [heq])
  | readCache id key => exact hdeed 0 (.readCache rfl) (by simp [Deed.part?])
  | writeCache id key value ttl =>
    exact hdeed 0 (.writeCache id key value ttl) (by simp [Deed.part?])
  | sweepCache id =>
    obtain ⟨_, _, _, -, heq⟩ := World.sweepCache_eq id
    exact .aside (by rw [heq])

/-- **What changes the state of a breaker**: a reset, a call that finds it open and is let through,
and an outcome, which is that of a call marked as a probe unless the breaker was closed. -/
def ChangesPhase (name : String) (phase : Breaker.Phase) (sc sc' : Scene) : Prop :=
  sc' = ⟨(sc.world.resetBreaker name).2, sc.holds⟩ ∨
  (phase = .opened ∧ (sc.world.enter name).1 = .allowed true ∧
    sc' = ⟨(sc.world.enter name).2, (sc.world.enter name).1.holds name + sc.holds⟩) ∨
  ∃ probe outcome H, sc.holds = .admission name probe ::ₘ H ∧
    sc' = ⟨sc.world.record name probe outcome, H⟩ ∧
    (phase = .closed ∨ phase = .halfOpen ∧ probe = true)

/-- An act leaves the state of a breaker as it is, unless it is one of those that change it. -/
theorem ActAt.phase_changes {sc sc' : Scene} {name : String} (hat : ActAt name sc sc')
    {c : Component Breaker.Config Breaker} (hc : sc.world.breakers.get? name = some c) :
    ∃ b, sc'.world.breakers.get? name = some { c with state := b } ∧
      (b.phase ≠ c.state.phase → ChangesPhase name c.state.phase sc sc') := by
  cases hat with
  | aside h => exact ⟨c.state, h.trans hc, fun hne => absurd rfl hne⟩
  | @enter w H =>
    refine ⟨_, World.get?_breakers_enter hc, fun hne => .inr (.inl ?_)⟩
    rw [World.admission_enter hc]
    unfold Breaker.enter at hne ⊢
    cases hphase : c.state.phase with
    | closed => simp [hphase] at hne
    | opened =>
      cases hcooled : c.state.cooled c.config w.now with
      | true => simp
      | false => simp [hphase, hcooled] at hne
    | halfOpen => cases hflag : c.state.probing <;> simp [hphase, hflag] at hne
  | @record w H probe outcome =>
    refine ⟨_, World.get?_breakers_record hc probe outcome, fun hne => .inr (.inr ?_)⟩
    refine ⟨probe, outcome, H, rfl, rfl, ?_⟩
    by_cases hclosed : c.state.phase = .closed
    · exact .inl hclosed
    · refine .inr ?_
      cases probe with
      | false =>
        -- An outcome without the mark comes late.
        refine absurd ?_ hne
        cases outcome <;>
          simp [Breaker.recordSuccess_late w.now hclosed, Breaker.recordFailure_late hclosed]
      | true =>
        cases hphase : c.state.phase with
        | closed => exact absurd hphase hclosed
        | halfOpen => exact ⟨rfl, rfl⟩
        | opened =>
          cases outcome <;>
            simp [Breaker.recordSuccess, Breaker.recordFailure, Breaker.trips, hphase] at hne
  | @forgo w H probe =>
    refine ⟨if probe then c.state.probeLost else c.state, ?_, fun hne => absurd ?_ hne⟩
    · rw [World.get?_breakers_forgo, hc]
      cases probe <;> simp
    · cases probe <;> rfl
  | @reset w H =>
    have hreset : (w.resetBreaker name).2.breakers.get? name =
        some { c with state := (c.state.reset name).2 } := by
      simp only [World.resetBreaker, hc, World.breakers_report, Table.get?_set, if_true]
    exact ⟨_, hreset, fun _ => .inl rfl⟩

/-! ### Calls -/

/-- A closed breaker lets a call through without the mark of a probe, and stays as it is. -/
theorem World.enter_of_closed {w : World} {name : String}
    {c : Component Breaker.Config Breaker} (hc : w.breakers.get? name = some c)
    (hclosed : c.state.phase = .closed) : w.enter name = (.allowed false, w) := by
  simp only [World.enter, hc, Breaker.enter, hclosed, World.report, Table.set_of_get? hc]

/-- **The call settles without the mark of a probe**: its inner call is over, the breaker records
the outcome without the mark, and then the call is over too, or a fallback follows. -/
def Operation.Course.SettlesUnmarked (task : TaskId) (inner fallback : Operation) (name : String)
    (arg : Json) (first w : World) (gaps : List (World × World)) (outcome : Outcome) : Prop :=
  ∃ gaps₁ v outcome₁, gaps₁ <+: gaps ∧ Course task inner arg first gaps₁ v (.ready outcome₁) ∧
    (outcome = outcome₁ ∧ w = v.record name false outcome₁ ∨
      ∃ gaps₂, Course task fallback arg (v.record name false outcome₁) gaps₂ w (.ready outcome))

/-- **A call that a closed breaker lets through settles without the mark of a probe**, whatever
became of the breaker in the meantime, and also when a fallback follows. -/
theorem Operation.Course.settles_unmarked {task : TaskId} {inner fallback op : Operation}
    {name : String} (hop : op = .guarded inner name ∨ op = .withFallback inner name fallback)
    {arg : Json} {first w : World} {gaps : List (World × World)} {outcome : Outcome}
    {c : Component Breaker.Config Breaker} (hc : first.breakers.get? name = some c)
    (hclosed : c.state.phase = .closed) (h : Course task op arg first gaps w (.ready outcome)) :
    SettlesUnmarked task inner fallback name arg first w gaps outcome := by
  -- A closed breaker answers without the mark, and the call keeps this answer to its end.
  have hentered := World.enter_of_closed hc hclosed
  rcases hop with rfl | rfl
  · obtain ⟨count, henter, -⟩ | ⟨probe, w₁, v, poll', henter, hinner, hafter⟩ := guarded_iff.mp h
    · rw [hentered] at henter
      cases henter
    · rw [hentered] at henter
      cases henter
      cases poll' with
      | pending call => cases hafter
      | panicked text => cases hafter
      | ready outcome₁ =>
        cases hafter
        exact ⟨gaps, v, outcome, List.prefix_refl gaps, hinner, .inl ⟨rfl, rfl⟩⟩
  · cases withFallback_iff.mp h with
    | passedBy count henter =>
      rw [hentered] at henter
      cases henter
    | answered probe henter hinner =>
      rw [hentered] at henter
      cases henter
      exact ⟨gaps, _, _, List.prefix_refl gaps, hinner, .inl ⟨rfl, rfl⟩⟩
    | @replaced gaps₁ gaps₂ _ v _ _ probe failure henter hinner hfallback =>
      rw [hentered] at henter
      cases henter
      exact ⟨gaps₁, v, _, List.prefix_append .., hinner, .inr ⟨gaps₂, hfallback⟩⟩

namespace Breaker

open History

/-- **In a history late outcomes decide nothing.** A call that came to a closed breaker and settles
when the breaker is not closed any more is counted once: the state, the flag and what is reported
stay as they are, and so they do after any number of such outcomes in any order. So a half open
breaker leaves its state only through a reset or through the outcome of a call that was let through
as a probe, and no outcome takes an open breaker out of its state. -/
structure LateIdle (name : String) (config : Config) (moves : List Move) : Prop where
  one {n : Nat} {answer : Admission} {good : Bool} :
    CameTo name config moves n .closed answer →
      (run name config moves).breaker.phase ≠ .closed →
        (run name config moves).event? name config (.settle n good) = none ∧
        (run name config moves).step name config (.settle n good) =
          if ((run name config moves).calls[n]?.bind Standing.probing?).isSome then
            ⟨(run name config moves).breaker.count good (run name config moves).now,
              (run name config moves).now, (run name config moves).calls.set n .settled⟩
          else run name config moves
  many {outcomes : List (Nat × Bool)} :
    AllLate name config moves (outcomes.map Prod.fst) →
      (run name config moves).breaker.phase ≠ .closed →
        reported name config (run name config moves) (settlements outcomes) = [] ∧
        (run name config (moves ++ settlements outcomes)).breaker =
          let b := (run name config moves).breaker
          { b with
            successCount := b.successCount + (outcomes.map Prod.snd).count true
            failureCount := min (b.failureCount + (outcomes.map Prod.snd).count false) maxHalfWord
            lastFailure :=
              if false ∈ outcomes.map Prod.snd then some (run name config moves).now
              else b.lastFailure }
  halfOpen {move : Move} : (run name config moves).breaker.phase = .halfOpen →
    ((run name config moves).step name config move).breaker.phase ≠ .halfOpen →
      move = .reset ∨ ∃ n good phase, move = .settle n good ∧ phase ≠ .closed ∧
        CameTo name config moves n phase (.allowed true)
  opened {n : Nat} {good : Bool} : (run name config moves).breaker.phase = .opened →
    ((run name config moves).step name config (.settle n good)).breaker.phase = .opened

/-- **A breaker of the world goes by the mark alone**: it came to its state in a history, it marks
the calls that it lets through, except when it is closed, and acts change its state in just the ways
that are left to marked calls, to calls that ask and to a reset. -/
structure GoesByMark (sc : Scene) (name : String) (c : Component Config Breaker) : Prop where
  history : ∃ moves, Shows name c.state sc.world.now sc.holds (run name c.config moves)
  mark {probe : Bool} : (sc.world.enter name).1 = .allowed probe →
    (probe = false ↔ c.state.phase = .closed)
  acts {sc' : Scene} : Act sc sc' →
    ∃ b, sc'.world.breakers.get? name = some { c with state := b } ∧
      (b.phase ≠ c.state.phase → ChangesPhase name c.state.phase sc sc')

theorem lateIdle (name : String) (config : Config) (moves : List Move) :
    LateIdle name config moves where
  one hcame hopen := settle_late hcame hopen _
  many hlate hopen := by
    obtain ⟨hsilent, -, hbreaker⟩ := settlements_late hlate hopen
    -- The count is within its bound, so that bound can be taken once, after all the outcomes.
    have hcount : (run name config moves).breaker.failureCount ≤ maxHalfWord :=
      (counted_run name config moves).count ▸ Nat.min_le_right ..
    exact ⟨hsilent, hbreaker.trans (foldl_count _ hcount)⟩
  halfOpen hhalf hleaves := leaves_halfOpen hhalf hleaves
  opened hopened := by
    by_contra hleaves
    rcases leaves_opened hopened hleaves with hreset | ⟨hcall, -⟩
    · cases hreset
    · cases hcall

theorem goesByMark {sc : Scene} (hsc : sc.Reachable) {name : String} {c : Component Config Breaker}
    (hc : sc.world.breakers.get? name = some c) : GoesByMark sc name c where
  history := exists_history hsc hc
  mark hprobe := by
    rw [World.admission_enter hc] at hprobe
    exact enter_mark hprobe
  acts hact := (hact.at (by simp [Table.has, hc])).phase_changes hc

/-- **Late outcomes decide nothing**, in any history of a breaker (`LateIdle`). In the world, where
the breaker only sees the mark with which a call settles (`GoesByMark`), a call that a closed
breaker lets through settles without the mark, in every run
(`Operation.Course.SettlesUnmarked`); and an outcome without it changes the counters of an open or
half open breaker and nothing else. The scenes of sessions are such scenes. -/
theorem late_outcomes_idle :
    (∀ (name : String) (config : Config) (moves : List Move), LateIdle name config moves) ∧
    (∀ (task : TaskId) (inner fallback op : Operation) (name : String) (arg : Json)
      (first w : World) (gaps : List (World × World)) (outcome : Outcome)
      (c : Component Config Breaker),
      op = .guarded inner name ∨ op = .withFallback inner name fallback →
      first.breakers.get? name = some c → c.state.phase = .closed →
      Operation.Course task op arg first gaps w (.ready outcome) →
        Operation.Course.SettlesUnmarked task inner fallback name arg first w gaps outcome) ∧
    (∀ (w : World) (name : String) (c : Component Config Breaker) (outcome : Outcome),
      w.breakers.get? name = some c → c.state.phase ≠ .closed →
        w.record name false outcome =
          { w with
            breakers :=
              w.breakers.set name { c with state := c.state.count outcome.isOk w.now } }) ∧
    (∀ (sc : Scene) (name : String) (c : Component Config Breaker), sc.Reachable →
      sc.world.breakers.get? name = some c → GoesByMark sc name c) ∧
    ∀ s : Session, s.Reachable → s.scene.Reachable := by
  refine ⟨lateIdle, ?_, ?_, fun _ _ _ hsc hc => goesByMark hsc hc, fun _ hs => hs.valid_scene.2⟩
  · intro task inner fallback op name arg first w gaps outcome c hop hc hclosed h
    exact h.settles_unmarked hop hc hclosed
  · intro w name c outcome hc hopen
    exact World.record_late hc hopen outcome

/-- Three calls are on their way when one of them trips the breaker, and a probe follows later. -/
def straggling : List Move := [.call, .call, .call, .settle 0 false, .clock 6, .call]

theorem cameTo_straggling (n : Nat) (hn : n = 1 ∨ n = 2) :
    CameTo "b" ⟨1, .ofMillis 5⟩ straggling n .closed (.allowed false) := by
  rcases hn with rfl | rfl
  · exact ⟨[.call], straggling.drop 2, rfl, rfl, rfl, rfl⟩
  · exact ⟨[.call, .call], straggling.drop 3, rfl, rfl, rfl, rfl⟩

/-- A world with a closed breaker, in which a source takes a while. -/
def unhurried : World :=
  { settings := {}, recording := false
    breakers := [("b", ⟨"b", ⟨1, .ofMillis 5⟩, {}⟩)]
    sources := [(0, ⟨"slow", [⟨some (.ofMillis 3), .echo⟩], 0⟩)] }

/-- The world that a call of that source finds when it goes on: another call has failed. -/
def inTrouble : World :=
  (World.record "b" false (.error (.failed "no"))
    (Operation.start 0 (.guarded (.source 0) "b") .null unhurried).2).pass 3

theorem late_outcomes_idle_straggling :
    ((run "b" ⟨1, .ofMillis 5⟩ straggling).breaker = ⟨.halfOpen, 1, 0, some 0, true⟩ ∧
      (run "b" ⟨1, .ofMillis 5⟩ straggling).event? "b" ⟨1, .ofMillis 5⟩ (.settle 1 true) = none ∧
      (run "b" ⟨1, .ofMillis 5⟩ (straggling ++ [.settle 1 true])).breaker =
        ⟨.halfOpen, 1, 1, some 0, true⟩) ∧
    (reported "b" ⟨1, .ofMillis 5⟩ (run "b" ⟨1, .ofMillis 5⟩ straggling)
        (settlements [(2, false), (1, true)]) = [] ∧
      (run "b" ⟨1, .ofMillis 5⟩ (straggling ++ settlements [(2, false), (1, true)])).breaker =
        ⟨.halfOpen, 2, 1, some 6, true⟩) ∧
    (∃ n good phase, Move.settle 3 true = .settle n good ∧ phase ≠ .closed ∧
      CameTo "b" ⟨1, .ofMillis 5⟩ straggling n phase (.allowed true)) ∧
    (run "b" ⟨1, .ofMillis 5⟩ (straggling.take 4 ++ [.settle 1 false])).breaker.phase = .opened ∧
    (∃ gaps v outcome, Operation.Course 0 (.source 0) .null unhurried gaps v (.ready outcome)) ∧
    (inTrouble.record "b" false (.ok .null)).breakers.get? "b" =
      some ⟨"b", ⟨1, .ofMillis 5⟩, ⟨.opened, 1, 1, some 0, false⟩⟩ ∧
    ∃ c b, tripped.world.breakers.get? "b" = some c ∧
      (tripped.world.resetBreaker "b").2.breakers.get? "b" = some { c with state := b } ∧
      b.phase ≠ c.state.phase := by
  obtain ⟨hidle, hcourse, hlate, hscene, hsession⟩ := late_outcomes_idle
  have hopen : (run "b" ⟨1, .ofMillis 5⟩ straggling).breaker.phase ≠ .closed := by decide
  refine ⟨⟨by decide, ?_⟩, ?_, ?_, ?_, ?_, ?_, ?_⟩
  · obtain ⟨hsilent, hstep⟩ := (hidle "b" ⟨1, .ofMillis 5⟩ straggling).one
      (cameTo_straggling 1 (.inl rfl)) hopen
    rw [← run_concat] at hstep
    exact ⟨hsilent, by rw [hstep]; decide⟩
  · have hall : AllLate "b" ⟨1, .ofMillis 5⟩ straggling ([(2, false), (1, true)].map Prod.fst) := by
      refine ⟨by decide, fun n hn => ?_⟩
      have hnumber : n = 1 ∨ n = 2 := by simpa [or_comm] using hn
      refine ⟨⟨_, cameTo_straggling n hnumber⟩, ?_⟩
      rcases hnumber with rfl | rfl <;> decide
    obtain ⟨hsilent, hbreaker⟩ := (hidle "b" ⟨1, .ofMillis 5⟩ straggling).many hall hopen
    exact ⟨hsilent, hbreaker.trans (by decide)⟩
  · have hleaves := (hidle "b" ⟨1, .ofMillis 5⟩ straggling).halfOpen (by decide)
      (by decide : ((run "b" ⟨1, .ofMillis 5⟩ straggling).step "b" ⟨1, .ofMillis 5⟩
        (.settle 3 true)).breaker.phase ≠ .halfOpen)
    exact hleaves.resolve_left (by simp)
  · rw [run_concat]
    exact (hidle "b" ⟨1, .ofMillis 5⟩ (straggling.take 4)).opened (by decide)
  · have hsettles : Operation.Course 0 (.guarded (.source 0) "b") .null unhurried
        [(_, inTrouble)] _ (.ready (.ok .null)) := .resume (.start rfl) rfl
    obtain ⟨gaps, v, outcome, -, hinner, -⟩ := hcourse 0 (.source 0) (.source 0) _ "b" .null
      unhurried _ _ _ _ (.inl rfl) rfl rfl hsettles
    exact ⟨gaps, v, outcome, hinner⟩
  · have hfound : inTrouble.breakers.get? "b" =
        some ⟨"b", ⟨1, .ofMillis 5⟩, ⟨.opened, 1, 0, some 0, false⟩⟩ := rfl
    rw [hlate inTrouble "b" _ (.ok .null) hfound (by simp), Table.get?_set, if_pos rfl]
    rfl
  · obtain ⟨c, hc, -, hstate⟩ := breakers_tripped
    have hreach := hsession tripped ((Session.Reachable.create {} true).run happens_tripped)
    obtain ⟨b, hb, -⟩ := (hscene tripped.scene "b" c hreach hc).acts
      (.resetBreaker "b" : Act tripped.scene
        ⟨(tripped.world.resetBreaker "b").2, tripped.holds⟩)
    refine ⟨c, b, hc, hb, ?_⟩
    have hphase : ((tripped.world.resetBreaker "b").2.breakers.get? "b").map (·.state.phase) =
        some .closed := by decide +kernel
    rw [hb] at hphase
    have hclosed : b.phase = .closed := Option.some.inj hphase
    simp [hclosed, hstate]

end Breaker

end Resilience
