import Resilience.Proofs.Breaker.Scene
import Mathlib.Data.List.Basic

/-!
# One probe at a time

While a breaker is half open, at most one call that was let through as a probe should be
unsettled, and while there is one, no other call should go ahead (`SingleProbe`).

A reset breaks this. It leaves a probe that is running behind as a stray, and when the breaker
has tripped and is half open once more, the end of the stray is taken for the end of the new
probe. The law holds exactly as long as no call is let through by an open breaker while a stray
has not settled (`single_probe_iff`); in particular, it holds when the breaker is closed by hand
only while no probe is running (`single_probe_of_quiet_resets`).

What carries the proof is `Orderly`: a probe that is not a stray makes the breaker half open, a
stray keeps it from being so, and a half open breaker knows whether it has a probe.
-/

namespace Resilience

namespace Breaker

namespace History

variable (name : String) (config : Config)

/-- In a half open breaker, at most one probe has not settled, and while one has not, a call that
asks is refused. -/
def SingleProbe (h : History) : Prop :=
  h.breaker.phase = .halfOpen → h.probes ≤ 1 ∧
    (0 < h.probes → ∃ count, (h.breaker.enter name config h.now).1 = .rejected count)

/-- The next call is let through by an open breaker although a stray has not settled. -/
def Doubles (h : History) : Prop :=
  h.breaker.phase = .opened ∧ h.breaker.cooled config h.now = true ∧ .stray ∈ h.calls

/-- What a breaker knows of its probe. -/
structure Orderly (h : History) : Prop where
  single : h.calls.count .probe ≤ 1
  probe_phase : .probe ∈ h.calls → h.breaker.phase = .halfOpen
  stray_phase : .stray ∈ h.calls → h.breaker.phase ≠ .halfOpen
  flag : h.breaker.phase = .halfOpen → (h.breaker.probing = true ↔ .probe ∈ h.calls)

theorem orderly_start : Orderly {} where
  single := Nat.zero_le 1
  probe_phase h := by cases h
  stray_phase h := by cases h
  flag h := by cases h

/-! ### Calls that end -/

/-- A call that ends leaves the others where they are. -/
private theorem count_set_of_ne {calls : List Standing} {n : Nat} {v v' x : Standing}
    (hn : calls[n]? = some v) (hv : v ≠ x) (hv' : v' ≠ x) :
    (calls.set n v').count x = calls.count x := by
  obtain ⟨hlt, rfl⟩ := List.getElem?_eq_some_iff.mp hn
  simp [List.count_set hlt, hv, hv']

variable {name config} {h : History} {n : Nat} {v v' : Standing} {b : Breaker}

/-- The probe ends. -/
private theorem Orderly.end_probe (ho : Orderly h) (hn : h.calls[n]? = some .probe)
    (hv' : v'.probing? = none) (hflag : b.phase = .halfOpen → b.probing = false) :
    Orderly ⟨b, h.now, h.calls.set n v'⟩ := by
  have hne : v' ≠ .probe ∧ v' ≠ .stray := by constructor <;> rintro rfl <;> cases hv'
  have hgone : (h.calls.set n v').count .probe = 0 := by
    obtain ⟨hlt, heq⟩ := List.getElem?_eq_some_iff.mp hn
    rw [List.count_set hlt, heq]
    simp [hne.1, Nat.sub_eq_zero_of_le ho.single]
  have hstray : .stray ∉ h.calls.set n v' := by
    intro hs
    refine ho.stray_phase ?_ (ho.probe_phase (List.mem_of_getElem? hn))
    rwa [← List.count_pos_iff, count_set_of_ne hn (by simp) hne.2, List.count_pos_iff] at hs
  have hprobe : .probe ∉ h.calls.set n v' := List.count_eq_zero.mp hgone
  exact {
    single := hgone ▸ Nat.zero_le 1
    probe_phase := fun hp => absurd hp hprobe
    stray_phase := fun hs => absurd hs hstray
    flag := fun hphase => by simp [hflag hphase, hprobe] }

/-- Another call ends. -/
private theorem Orderly.end_other (ho : Orderly h) (hn : h.calls[n]? = some v) (hv : v ≠ .probe)
    (hv' : v'.probing? = none) (hphase : b.phase = .halfOpen ↔ h.breaker.phase = .halfOpen)
    (hflag : h.breaker.phase = .halfOpen → b.probing = h.breaker.probing) :
    Orderly ⟨b, h.now, h.calls.set n v'⟩ := by
  have hne : v' ≠ .probe ∧ v' ≠ .stray := by constructor <;> rintro rfl <;> cases hv'
  have hcount := count_set_of_ne hn hv hne.1
  have hmem : .probe ∈ h.calls.set n v' ↔ .probe ∈ h.calls := by
    rw [← List.count_pos_iff, hcount, List.count_pos_iff]
  exact {
    single := hcount ▸ ho.single
    probe_phase := fun hp => hphase.mpr (ho.probe_phase (hmem.mp hp))
    stray_phase := fun hs => by
      have hold := (List.mem_or_eq_of_mem_set hs).resolve_right hne.2.symm
      exact fun hopen => ho.stray_phase hold (hphase.mp hopen)
    flag := fun hopen => by
      have hopen' := hphase.mp hopen
      rw [hflag hopen', hmem]
      exact ho.flag hopen' }

/-- The probe of a half open breaker decides. -/
private theorem recordSuccess_probe (h : b.phase = .halfOpen) :
    (b.recordSuccess name true).2.phase ≠ .halfOpen := by
  simp [recordSuccess, h]

private theorem recordFailure_probe {now : Instant} (h : b.phase = .halfOpen) :
    (b.recordFailure name config now true).2.phase ≠ .halfOpen := by
  simp [recordFailure, trips, h]

/-- A call that is not the probe of this half open breaker decides nothing. -/
private theorem recordSuccess_other (name : String) {probe : Bool}
    (h : probe = false ∨ b.phase ≠ .halfOpen) :
    ((b.recordSuccess name probe).2.phase = .halfOpen ↔ b.phase = .halfOpen) ∧
      (b.phase = .halfOpen → (b.recordSuccess name probe).2.probing = b.probing) := by
  cases hphase : b.phase <;> simp_all [recordSuccess]

private theorem recordFailure_other (name : String) (config : Config) {probe : Bool}
    {now : Instant} (h : probe = false ∨ b.phase ≠ .halfOpen) :
    ((b.recordFailure name config now probe).2.phase = .halfOpen ↔ b.phase = .halfOpen) ∧
      (b.phase = .halfOpen → (b.recordFailure name config now probe).2.probing = b.probing) := by
  unfold recordFailure
  dsimp only
  split <;> cases hphase : b.phase <;> simp_all [trips]

/-! ### Moves -/

/-- A call that is no probe changes nothing. -/
private theorem Orderly.come (ho : Orderly h) (hv : v.probing? ≠ some true) :
    Orderly ⟨h.breaker, h.now, h.calls ++ [v]⟩ := by
  have hne : v ≠ .probe ∧ v ≠ .stray := by constructor <;> rintro rfl <;> exact hv rfl
  have hmem {x : Standing} (hx : v ≠ x) : x ∈ h.calls ++ [v] ↔ x ∈ h.calls := by
    simp [Ne.symm hx]
  exact {
    single := by simpa [List.count_append, List.count_singleton, hne.1] using ho.single
    probe_phase := fun hp => ho.probe_phase ((hmem hne.1).mp hp)
    stray_phase := fun hs => ho.stray_phase ((hmem hne.2).mp hs)
    flag := fun hopen => (ho.flag hopen).trans (hmem hne.1).symm }

/-- A probe sets out when there is no other and no stray. -/
private theorem Orderly.set_out (hprobe : .probe ∉ h.calls) (hstray : .stray ∉ h.calls)
    (hphase : b.phase = .halfOpen) (hflag : b.probing = true) :
    Orderly ⟨b, h.now, h.calls ++ [.probe]⟩ where
  single := by simp [List.count_append, List.count_eq_zero.mpr hprobe]
  probe_phase _ := hphase
  stray_phase hs := by simp [hstray] at hs
  flag _ := by simp [hflag]

theorem Orderly.call (ho : Orderly h) (hd : ¬ Doubles config h) :
    Orderly (h.call name config) := by
  unfold History.call enter
  -- A probe sets out in two cases only, and in both of them no other is on its way.
  cases hphase : h.breaker.phase with
  | closed => exact ho.come (by simp [Standing.probing?])
  | opened =>
    cases hcooled : h.breaker.cooled config h.now with
    | false => exact ho.come (by simp [Standing.probing?])
    | true =>
      have hstray : .stray ∉ h.calls := fun hs => hd ⟨hphase, hcooled, hs⟩
      have hprobe : .probe ∉ h.calls := fun hp => by simp [ho.probe_phase hp] at hphase
      exact .set_out hprobe hstray rfl rfl
  | halfOpen =>
    cases hflag : h.breaker.probing with
    | true => exact ho.come (by simp [Standing.probing?])
    | false =>
      have hprobe : .probe ∉ h.calls := fun hp => by simp [(ho.flag hphase).mpr hp] at hflag
      have hstray : .stray ∉ h.calls := fun hs => ho.stray_phase hs hphase
      exact .set_out hprobe hstray rfl rfl

theorem Orderly.settle (ho : Orderly h) (n : Nat) (good : Bool) :
    Orderly (h.settle name config n good) := by
  unfold History.settle
  cases hv : h.calls[n]?.bind Standing.probing? with
  | none => exact ho
  | some probe =>
    obtain ⟨v, hn, hprobing⟩ := Option.bind_eq_some_iff.mp hv
    -- The outcome of the probe decides. A stray has the mark of a probe as well, but it only
    -- exists while the breaker is not half open, and there the mark does not count.
    by_cases hprobe : v = .probe
    · subst hprobe
      obtain rfl : probe = true := (Option.some.inj hprobing).symm
      have hphase := ho.probe_phase (List.mem_of_getElem? hn)
      cases good with
      | true =>
        exact ho.end_probe hn rfl fun hopen => absurd hopen (recordSuccess_probe hphase)
      | false =>
        exact ho.end_probe hn rfl fun hopen => absurd hopen (recordFailure_probe hphase)
    · have hother : probe = false ∨ h.breaker.phase ≠ .halfOpen := by
        cases v with
        | stray => exact .inr (ho.stray_phase (List.mem_of_getElem? hn))
        | plain => exact .inl (Option.some.inj hprobing).symm
        | probe => exact absurd rfl hprobe
        | settled | lost | refused => cases hprobing
      cases good with
      | true =>
        obtain ⟨hphase, hflag⟩ := recordSuccess_other name hother
        exact ho.end_other hn hprobe rfl hphase hflag
      | false =>
        obtain ⟨hphase, hflag⟩ := recordFailure_other name config hother
        exact ho.end_other hn hprobe rfl hphase hflag

theorem Orderly.lose (ho : Orderly h) (n : Nat) : Orderly (h.lose n) := by
  unfold History.lose
  cases hv : h.calls[n]?.bind Standing.probing? with
  | none => exact ho
  | some probe =>
    obtain ⟨v, hn, hprobing⟩ := Option.bind_eq_some_iff.mp hv
    cases v with
    | probe =>
      obtain rfl : probe = true := (Option.some.inj hprobing).symm
      exact ho.end_probe hn rfl fun _ => rfl
    | stray =>
      obtain rfl : probe = true := (Option.some.inj hprobing).symm
      have hphase := ho.stray_phase (List.mem_of_getElem? hn)
      exact ho.end_other hn (by simp) rfl Iff.rfl fun hopen => absurd hopen hphase
    | plain =>
      obtain rfl : probe = false := (Option.some.inj hprobing).symm
      exact ho.end_other hn (by simp) rfl Iff.rfl fun _ => rfl
    | settled | lost | refused => cases hprobing

theorem orderly_reset (h : History) :
    Orderly ⟨(h.breaker.reset name).2, h.now, h.calls.map Standing.overtaken⟩ := by
  have hprobe : .probe ∉ h.calls.map Standing.overtaken := by
    intro hp
    obtain ⟨v, -, hv⟩ := List.mem_map.mp hp
    cases v <;> cases hv
  exact {
    single := List.count_eq_zero.mpr hprobe ▸ Nat.zero_le 1
    probe_phase := fun hp => absurd hp hprobe
    stray_phase := fun _ => by simp [Breaker.reset]
    flag := fun hopen => by simp [Breaker.reset] at hopen }

/-- **A move keeps a history orderly**, unless it is a call that doubles the probe. -/
theorem Orderly.step (ho : Orderly h) {move : Move} (hd : move = .call → ¬ Doubles config h) :
    Orderly (h.step name config move) := by
  cases move with
  | call => exact ho.call (hd rfl)
  | settle n good => exact ho.settle n good
  | lose n => exact ho.lose n
  | clock now => exact { ho with }
  | reset => exact orderly_reset h

/-! ### The law and its exact condition -/

/-- In an orderly history the law holds. -/
theorem Orderly.singleProbe (ho : Orderly h) : SingleProbe name config h := by
  intro hphase
  have hstray : .stray ∉ h.calls := fun hs => ho.stray_phase hs hphase
  have hcount : h.probes = h.calls.count .probe := by
    refine List.countP_congr fun v hv => ?_
    have hne : v ≠ .stray := ne_of_mem_of_not_mem hv hstray
    cases v <;> simp_all [Standing.probing?]
  rw [hcount]
  refine ⟨ho.single, fun hpos => ?_⟩
  have hflag := (ho.flag hphase).mpr (List.count_pos_iff.mp hpos)
  exact ⟨h.breaker.failureCount, by simp [enter, hphase, hflag]⟩

/-- A call that doubles the probe breaks the law. -/
theorem Doubles.not_singleProbe (hd : Doubles config h) :
    ¬ SingleProbe name config (h.call name config) := by
  obtain ⟨hphase, hcooled, hstray⟩ := hd
  have hcall : h.call name config =
      ⟨{ h.breaker with phase := .halfOpen, probing := true }, h.now, h.calls ++ [.probe]⟩ := by
    simp [History.call, enter, hphase, hcooled]
  -- The stray still counts as a probe, and the new one is the second.
  have hpos : 0 < h.calls.countP fun v => v.probing? = some true :=
    List.countP_pos_iff.mpr ⟨.stray, hstray, rfl⟩
  intro hsingle
  have hle := (hsingle (by rw [hcall])).1
  rw [hcall, probes, List.countP_append] at hle
  have hnew : [Standing.probe].countP (fun v => v.probing? = some true) = 1 := rfl
  omega

/-- **A run is orderly throughout** when none of its calls doubles the probe. -/
theorem orderly_run {moves : List Move}
    (hno : ∀ k, moves[k]? = some .call → ¬ Doubles config (run name config (moves.take k)))
    (k : Nat) : Orderly (run name config (moves.take k)) := by
  induction k with
  | zero => exact orderly_start
  | succ k ih =>
    cases hk : moves[k]? with
    | none =>
      rw [List.take_add_one, hk, Option.toList_none, List.append_nil]
      exact ih
    | some move =>
      rw [run_take_succ hk]
      exact ih.step fun heq => hno k (heq ▸ hk)

variable (name config)

/-- **The law holds exactly as long as no call doubles the probe.** At every moment of a run, a
half open breaker has at most one unsettled probe and refuses calls while it has one, if and only
if the run lets no call through an open breaker while a probe from before a reset is unsettled. -/
theorem single_probe_iff (moves : List Move) :
    (∀ k, SingleProbe name config (run name config (moves.take k))) ↔
      ∀ k, moves[k]? = some .call → ¬ Doubles config (run name config (moves.take k)) := by
  constructor
  · intro hall k hk hd
    have hsingle := hall (k + 1)
    rw [run_take_succ hk] at hsingle
    exact hd.not_singleProbe hsingle
  · intro hno k
    exact (orderly_run hno k).singleProbe

/-- Strays come from resets while a probe runs, and from nothing else. -/
private theorem stray_step {h : History} {move : Move} (hs : .stray ∉ h.calls)
    (hreset : move = .reset → h.probes = 0) : .stray ∉ (h.step name config move).calls := by
  have hset {n : Nat} {v : Standing} (hv : v ≠ .stray) : .stray ∉ h.calls.set n v := fun hmem =>
    (List.mem_or_eq_of_mem_set hmem).elim hs hv.symm
  cases move with
  | call =>
    simp only [History.step, History.call]
    split
    · next probe _ _ _ => cases probe <;> simp [hs]
    · simp [hs]
  | settle n good =>
    simp only [History.step, History.settle]
    split
    · exact hset (by simp)
    · exact hs
  | lose n =>
    simp only [History.step, History.lose]
    split
    · exact hset (by simp)
    · exact hs
  | clock now => exact hs
  | reset =>
    intro hmem
    obtain ⟨v, hv, hov⟩ := List.mem_map.mp hmem
    have hnot := List.countP_eq_zero.mp (hreset rfl) v hv
    cases v <;> simp_all [Standing.overtaken, Standing.probing?]

/-- When the breaker is closed by hand only while no probe is unsettled, the law holds. -/
theorem single_probe_of_quiet_resets {moves : List Move}
    (h : ∀ k, moves[k]? = some .reset → (run name config (moves.take k)).probes = 0) (k : Nat) :
    SingleProbe name config (run name config (moves.take k)) := by
  have hstray (k : Nat) : .stray ∉ (run name config (moves.take k)).calls := by
    induction k with
    | zero => simp [run]
    | succ k ih =>
      cases hk : moves[k]? with
      | none =>
        rw [List.take_add_one, hk, Option.toList_none, List.append_nil]
        exact ih
      | some move =>
        rw [run_take_succ hk]
        exact stray_step name config ih fun heq => h k (heq ▸ hk)
  exact (orderly_run (fun k _ hd => hstray k hd.2.2) k).singleProbe

/-- A failure trips the breaker, a probe sets out, somebody closes the breaker by hand, another
failure trips it, and a second probe sets out while the first still runs. -/
def strayRun : History :=
  run "b" ⟨1, .ofMillis 10⟩
    [.call, .settle 0 false, .clock 10, .call, .reset, .call, .settle 2 false, .clock 20, .call]

/-- **The law fails.** Two probes are unsettled at once; and when the first is cancelled, the
half open breaker lets a call through beside the second. -/
theorem stray_takes_the_place_of_the_probe :
    ¬ SingleProbe "b" ⟨1, .ofMillis 10⟩ strayRun ∧
      strayRun.breaker.phase = .halfOpen ∧ strayRun.probes = 2 ∧
      (strayRun.lose 1).breaker.phase = .halfOpen ∧ (strayRun.lose 1).probes = 1 ∧
      ((strayRun.lose 1).breaker.enter "b" ⟨1, .ofMillis 10⟩ 20).1 = .allowed true := by
  refine ⟨fun h => ?_, by decide⟩
  have hle : strayRun.probes ≤ 1 := (h (by decide)).1
  exact absurd hle (by decide)

end History

/-! ### The law in a scene -/

open History in
/-- In a scene, the law holds of what is held of a breaker, or the breaker has a history in which
a call doubled the probe. -/
theorem single_probe_or_doubled {sc : Scene} (h : sc.Reachable) {name : String}
    {c : Component Config Breaker} (hc : sc.world.breakers.get? name = some c)
    (hphase : c.state.phase = .halfOpen) :
    (sc.holds.count (.admission name true) ≤ 1 ∧
      (.admission name true ∈ sc.holds →
        ∃ count, (c.state.enter name c.config sc.world.now).1 = .rejected count)) ∨
    ∃ moves, Shows name c.state sc.world.now sc.holds (run name c.config moves) ∧
      ∃ k, moves[k]? = some .call ∧ Doubles c.config (run name c.config (moves.take k)) := by
  obtain ⟨moves, hshows⟩ := exists_history h hc
  -- Take the history of the breaker: the law can only fail where one of its calls doubled a probe.
  by_cases hd : ∃ k, moves[k]? = some .call ∧ Doubles c.config (run name c.config (moves.take k))
  · exact .inr ⟨moves, hshows, hd⟩
  · have horderly := orderly_run (fun k hk hdoubles => hd ⟨k, hk, hdoubles⟩) moves.length
    rw [List.take_length] at horderly
    obtain ⟨state, clock, calls⟩ := hshows
    obtain ⟨hle, hrefused⟩ := horderly.singleProbe (by rw [state]; exact hphase)
    rw [probes, calls] at hle hrefused
    rw [state, clock] at hrefused
    exact .inl ⟨hle, fun hheld => hrefused (Multiset.count_pos.mpr hheld)⟩

end Breaker

end Resilience
