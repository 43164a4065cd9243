import Resilience.Proofs.Breaker.Scene
import Mathlib.Data.List.Induction

/-!
# The flag of the probe

A breaker knows of its probe by a flag alone, which the probe takes down when it settles or goes
away. Were the flag up with no probe left to take it down, a half open breaker would refuse every
call for ever. That never comes about: as long as the flag is up, the breaker is half open, and
the call that was let through as a probe most recently has not settled and is no stray
(`attended_run`).

The flag goes up for a call that is let through as a probe, which is then the latest. While it is
up, the breaker is half open, so any probe that ends takes it down, a stray from before a reset
included: that is early, but it never leaves the flag up with nobody there.
-/

namespace Resilience

namespace Breaker

namespace History

variable (name : String) (config : Config)

/-! ### The latest probe -/

/-- The number of the call that comes in with a move, if it is let through as a probe. -/
def setsOut? (h : History) : Move → Option Nat
  | .call =>
    if (h.breaker.enter name config h.now).1 = .allowed true then some h.calls.length else none
  | _ => none

/-- The number of the call of a run that was let through as a probe most recently. -/
def latestProbe? (moves : List Move) : Option Nat :=
  (watch name config (setsOut? name config) {} moves).reduceOption.getLast?

theorem latestProbe?_concat (moves : List Move) (move : Move) :
    latestProbe? name config (moves ++ [move]) =
      ((run name config moves).setsOut? name config move).or (latestProbe? name config moves) := by
  rw [latestProbe?, watch_concat, List.reduceOption_append, List.reduceOption_singleton,
    List.getLast?_append]
  cases (run name config moves).setsOut? name config move <;> rfl

/-- Somebody is there to take the flag down: the latest probe. -/
def Attended (latest? : Option Nat) (h : History) : Prop :=
  h.breaker.probing = true →
    h.breaker.phase = .halfOpen ∧ ∃ n ∈ latest?, h.calls[n]? = some .probe

variable {name config} {h : History} {n : Nat} {b : Breaker} {latest? : Option Nat}

/-! ### Calls that settle -/

/-- When a call settles, the flag stays up only if the call was no probe. -/
private theorem recordSuccess_probing {probe : Bool}
    (hphase : b.probing = true → b.phase = .halfOpen)
    (hup : (b.recordSuccess name probe).2.probing = true) :
    b.probing = true ∧ probe = false ∧ (b.recordSuccess name probe).2.phase = .halfOpen := by
  cases hb : b.phase <;> cases probe <;> simp_all [recordSuccess]

private theorem recordFailure_probing {probe : Bool} {now : Instant}
    (hphase : b.probing = true → b.phase = .halfOpen)
    (hup : (b.recordFailure name config now probe).2.probing = true) :
    b.probing = true ∧ probe = false ∧
      (b.recordFailure name config now probe).2.phase = .halfOpen := by
  unfold recordFailure at hup ⊢
  dsimp only at hup ⊢
  split at hup
  · cases hup
  · next hstays =>
    have hopen := hphase hup
    cases probe
    · exact ⟨hup, rfl, by rw [if_neg hstays]; exact hopen⟩
    · exact absurd (by simp [trips, hopen]) hstays

/-- A call that ends and was no probe leaves the probe where it is. -/
private theorem probe_stays {m : Nat} {v' : Standing} (hn : h.calls[n]? = some .probe)
    (hm : h.calls[m]?.bind Standing.probing? = some false) :
    (h.calls.set m v')[n]? = some .probe := by
  have hne : m ≠ n := by
    rintro rfl
    rw [hn] at hm
    cases hm
  rwa [List.getElem?_set_ne hne]

/-! ### Moves -/

theorem Attended.call (ha : Attended latest? h) :
    Attended ((h.setsOut? name config .call).or latest?) (h.call name config) := by
  -- The flag goes up for a call that comes in as a probe at the same time.
  have hnew {b : Breaker} (hb : b.phase = .halfOpen) :
      Attended (some h.calls.length) ⟨b, h.now, h.calls ++ [.probe]⟩ :=
    fun _ => ⟨hb, h.calls.length, rfl, List.getElem?_concat_length⟩
  have hsame (v : Standing) : Attended latest? ⟨h.breaker, h.now, h.calls ++ [v]⟩ := fun hup => by
    obtain ⟨hopen, n, hn, hprobe⟩ := ha hup
    obtain ⟨hlt, -⟩ := List.getElem?_eq_some_iff.mp hprobe
    exact ⟨hopen, n, hn, (List.getElem?_append_left hlt).trans hprobe⟩
  unfold History.call setsOut? enter
  cases hphase : h.breaker.phase with
  | closed => exact hsame .plain
  | opened =>
    cases hcooled : h.breaker.cooled config h.now with
    | true => exact hnew rfl
    | false => exact hsame .refused
  | halfOpen =>
    cases hflag : h.breaker.probing with
    | true => exact hsame .refused
    | false => exact hnew rfl

theorem Attended.settle (ha : Attended latest? h) (m : Nat) (good : Bool) :
    Attended latest? (h.settle name config m good) := by
  have hphase (hup : h.breaker.probing = true) := (ha hup).1
  -- If the flag stays up, the call that settles was no probe, so the latest one is left.
  unfold History.settle
  cases hm : h.calls[m]?.bind Standing.probing? with
  | none => exact ha
  | some probe =>
    have hends {b : Breaker} :
        h.breaker.probing = true ∧ probe = false ∧ b.phase = .halfOpen → b.phase = .halfOpen ∧
          ∃ n ∈ latest?, (h.calls.set m .settled)[n]? = some .probe := by
      rintro ⟨hup, rfl, hopen⟩
      obtain ⟨-, n, hn, hprobe⟩ := ha hup
      exact ⟨hopen, n, hn, probe_stays hprobe hm⟩
    cases good with
    | true => exact fun hup => hends (recordSuccess_probing hphase hup)
    | false => exact fun hup => hends (recordFailure_probing hphase hup)

theorem Attended.lose (ha : Attended latest? h) (m : Nat) : Attended latest? (h.lose m) := by
  unfold History.lose
  cases hm : h.calls[m]?.bind Standing.probing? with
  | none => exact ha
  | some probe =>
    cases probe with
    | true => exact fun hup => by cases hup
    | false =>
      intro hup
      obtain ⟨hopen, n, hn, hprobe⟩ := ha hup
      exact ⟨hopen, n, hn, probe_stays hprobe hm⟩

/-- **Every move leaves somebody to take the flag down.** -/
theorem Attended.step (ha : Attended latest? h) (move : Move) :
    Attended ((h.setsOut? name config move).or latest?) (h.step name config move) := by
  cases move with
  | call => exact ha.call
  | settle m good => exact ha.settle m good
  | lose m => exact ha.lose m
  | clock now => exact ha
  | reset => exact fun hup => by cases hup

/-- In every history, as long as the flag is up, the breaker is half open and the latest call
that was let through as a probe has not settled. -/
theorem attended_run (name : String) (config : Config) (moves : List Move) :
    Attended (latestProbe? name config moves) (run name config moves) := by
  induction moves using List.reverseRecOn with
  | nil => exact fun hup => by cases hup
  | append_singleton moves move ih =>
    rw [run_concat, latestProbe?_concat]
    exact ih.step move

/-- A probe that has not settled is among the probes. -/
theorem probes_pos (hn : h.calls[n]? = some .probe) : 0 < h.probes :=
  List.countP_pos_iff.mpr ⟨.probe, List.mem_of_getElem? hn, rfl⟩

end History

/-- In a scene, as long as the flag of a breaker is up, somebody holds an admission as its
probe. -/
theorem admission_of_probing {sc : Scene} (h : sc.Reachable) {name : String}
    {c : Component Config Breaker} (hc : sc.world.breakers.get? name = some c)
    (hup : c.state.probing = true) :
    c.state.phase = .halfOpen ∧ .admission name true ∈ sc.holds := by
  obtain ⟨moves, state, -, calls⟩ := exists_history h hc
  have hattended := History.attended_run name c.config moves
  rw [History.Attended, state] at hattended
  obtain ⟨hopen, n, -, hprobe⟩ := hattended hup
  have hpos := History.probes_pos hprobe
  rw [History.probes, calls] at hpos
  exact ⟨hopen, Multiset.count_pos.mp hpos⟩

end Breaker

end Resilience
