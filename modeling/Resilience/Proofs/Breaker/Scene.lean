import Resilience.Proofs.World
import Resilience.Proofs.Scene
import Resilience.Proofs.Breaker.Change

/-!
# Breakers in scenes

Every act is, for breakers, one of their moves or nothing (`BreakerAct`). So every breaker of a
scene has a history: moves that lead a new breaker to the state that it is in, at the time that
it is, with as many unsettled calls as there are admissions held (`Breaker.Shows`). What holds in
every history therefore holds of every breaker of every session.
-/

namespace Resilience

/-- The events about a breaker. -/
def World.told (name : String) (w : World) : List Event :=
  w.events.filter fun event => event.breaker? = some name

/-- Nothing happens to breakers, and nothing is told about them. -/
structure World.Quiet (w w' : World) : Prop where
  now : w'.now = w.now
  recording : w'.recording = w.recording
  breakers : w'.breakers = w.breakers
  told (name : String) : w'.told name = w.told name

/-- The breaker of a name moves on and reports what there is to report. The others stay as they
are, and nothing is told about them. -/
structure World.BreakerMoves (w w' : World) (name : String)
    (c : Component Breaker.Config Breaker) (event? : Option Event) : Prop where
  now : w'.now = w.now
  recording : w'.recording = w.recording
  breakers (other : String) : w'.breakers.get? other =
    if name = other then some c else w.breakers.get? other
  told (other : String) : w'.told other =
    w.told other ++ if name = other ∧ w.recording then event?.toList else []

/-- An act as breakers see it. -/
inductive BreakerAct : Scene → Scene → Prop
  | other {w w' H H'} (hquiet : w.Quiet w')
      (hholds : ∀ name probe,
        H'.count (.admission name probe) = H.count (.admission name probe)) :
      BreakerAct ⟨w, H⟩ ⟨w', H'⟩
  | clock {w H} (instant : Instant) : BreakerAct ⟨w, H⟩ ⟨w.pass instant, H⟩
  | create {w w' H name} (config : Breaker.Config) (hnone : w.breakers.get? name = none)
      (hmoves : w.BreakerMoves w' name ⟨name, config, {}⟩ none) : BreakerAct ⟨w, H⟩ ⟨w', H⟩
  | enter {w w' H name c} (hc : w.breakers.get? name = some c)
      (hmoves : w.BreakerMoves w' name
        { c with state := (Breaker.enter name c.config w.now c.state).2.2 }
        (Breaker.enter name c.config w.now c.state).2.1) :
      BreakerAct ⟨w, H⟩ ⟨w', (Breaker.enter name c.config w.now c.state).1.holds name + H⟩
  | record {w w' H name c probe} (good : Bool) (hc : w.breakers.get? name = some c)
      (hmoves : w.BreakerMoves w' name { c with state :=
        (if good then Breaker.recordSuccess name probe c.state
          else Breaker.recordFailure name c.config w.now probe c.state).2 }
        (if good then Breaker.recordSuccess name probe c.state
          else Breaker.recordFailure name c.config w.now probe c.state).1) :
      BreakerAct ⟨w, .admission name probe ::ₘ H⟩ ⟨w', H⟩
  | forgo {w w' H name c probe} (hc : w.breakers.get? name = some c)
      (hmoves : w.BreakerMoves w' name
        { c with state := if probe then Breaker.probeLost c.state else c.state } none) :
      BreakerAct ⟨w, .admission name probe ::ₘ H⟩ ⟨w', H⟩
  | reset {w w' H name c} (hc : w.breakers.get? name = some c)
      (hmoves : w.BreakerMoves w' name { c with state := (Breaker.reset name c.state).2 }
        (Breaker.reset name c.state).1) :
      BreakerAct ⟨w, H⟩ ⟨w', H⟩

/-- Only breakers that are there have admitted calls. -/
def BreakersKnown (sc : Scene) : Prop :=
  ∀ name, sc.world.breakers.get? name = none →
    ∀ probe, sc.holds.count (.admission name probe) = 0

private theorem BreakersKnown.exists_of_admission {w : World} {H : Multiset Hold} {name : String}
    {probe : Bool} (h : BreakersKnown ⟨w, .admission name probe ::ₘ H⟩) :
    ∃ c, w.breakers.get? name = some c := by
  by_contra hnone
  have hzero := h name (Option.eq_none_iff_forall_ne_some.mpr fun c hc => hnone ⟨c, hc⟩) probe
  simp at hzero

namespace World.Quiet

variable {w w' w'' : World}

theorem of_eq (hnow : w'.now = w.now) (hrecording : w'.recording = w.recording)
    (hbreakers : w'.breakers = w.breakers) (hevents : w'.events = w.events) : w.Quiet w' :=
  ⟨hnow, hrecording, hbreakers, fun name => by rw [World.told, World.told, hevents]⟩

theorem refl (w : World) : w.Quiet w := .of_eq rfl rfl rfl rfl

theorem setLimiter (id : ComponentId) (c : Component Limiter.Config Limiter) (w : World) :
    w.Quiet { w with limiters := w.limiters.set id c } := .of_eq rfl rfl rfl rfl

theorem setCache (id : ComponentId) (c : Cache Json) (w : World) :
    w.Quiet { w with caches := w.caches.set id c } := .of_eq rfl rfl rfl rfl

theorem report (h : w.Quiet w') {event? : Option Event}
    (hevent : ∀ event ∈ event?, event.breaker? = none) : w.Quiet (w'.report event?) where
  now := (now_report ..).trans h.now
  recording := (recording_report ..).trans h.recording
  breakers := (breakers_report ..).trans h.breakers
  told name := by
    have hnone : (if w'.recording then event?.toList else []).filter
        (fun event => decide (event.breaker? = some name)) = [] := by
      refine List.filter_eq_nil_iff.mpr fun event hmem => ?_
      split at hmem
      · simp [hevent event (Option.mem_toList.mp hmem)]
      · cases hmem
    rw [← h.told, World.told, World.told, events_report, List.filter_append, hnone,
      List.append_nil]

end World.Quiet

namespace BreakerAct

variable {w w' : World} {H : Multiset Hold}

/-- A hold of another component is given back. -/
private theorem giveBack {x : Hold} (hx : ∀ name probe, x ≠ .admission name probe)
    (hquiet : w.Quiet w') : BreakerAct ⟨w, x ::ₘ H⟩ ⟨w', H⟩ :=
  .other hquiet fun name probe => (Multiset.count_cons_of_ne (hx name probe).symm H).symm

/-- Holds of another component are handed out. -/
private theorem handOut {A : Multiset Hold} (hA : ∀ name probe, .admission name probe ∉ A)
    (hquiet : w.Quiet w') : BreakerAct ⟨w, H⟩ ⟨w', A + H⟩ :=
  .other hquiet fun name probe => Hold.count_add_of_not_mem (hA name probe) H

/-- Nothing happens to breakers and to what is held. -/
private theorem same (hquiet : w.Quiet w') : BreakerAct ⟨w, H⟩ ⟨w', H⟩ :=
  .other hquiet fun _ _ => rfl

/-- Nothing happens to breakers, to what is held and to the events. -/
private theorem same_of_eq (hnow : w'.now = w.now) (hrecording : w'.recording = w.recording)
    (hbreakers : w'.breakers = w.breakers) (hevents : w'.events = w.events) :
    BreakerAct ⟨w, H⟩ ⟨w', H⟩ := same (.of_eq hnow hrecording hbreakers hevents)

/-- A breaker is put in its place in the table, and something about it is reported. -/
theorem moves_report {name : String} (c : Component Breaker.Config Breaker)
    {event? : Option Event} {b b' : Breaker} (hchange : Breaker.Change name b b' event?) :
    w.BreakerMoves (World.report event? { w with breakers := w.breakers.set name c }) name c
      event? where
  now := World.now_report ..
  recording := World.recording_report ..
  breakers other := by rw [World.breakers_report, Table.get?_set]
  told other := by
    simp only [World.told, World.events_report, List.filter_append]
    congr 1
    cases hevent : event? with
    | none => simp
    | some event =>
      have habout := hchange.about hevent
      by_cases hother : name = other <;> cases w.recording <;> simp [habout, hother]

private theorem set_about_no_breaker {now : Instant} {key : String} {value : Json} {ttl : Nat}
    {c : Cache Json} : ∀ event ∈ (c.set now key value ttl).1, event.breaker? = none := by
  intro event hevent
  unfold Cache.set at hevent
  split at hevent <;> cases hevent
  rfl

private theorem sweepTick_about_no_breaker {now : Instant} {c : Cache Json} :
    ∀ event ∈ (c.sweepTick now).1, event.breaker? = none := by
  intro event hevent
  simp only [Cache.sweepTick] at hevent
  split at hevent <;> cases hevent
  rfl

end BreakerAct

open BreakerAct World in
/-- **Every act is, for breakers, one of theirs or nothing.** -/
theorem Act.onBreakers {w w' : World} {H H' : Multiset Hold} (h : Act ⟨w, H⟩ ⟨w', H'⟩)
    (hknown : BreakersKnown ⟨w, H⟩) : BreakerAct ⟨w, H⟩ ⟨w', H'⟩ := by
  cases h with
  | idle h => exact same_of_eq h.now h.recording h.breakers h.events
  | pass instant => exact .clock instant
  | nameLimiter | nameBucket | handleCache => exact same_of_eq rfl rfl rfl rfl
  | createLimiter | createBucket | createCache | createSource =>
    exact same_of_eq rfl rfl rfl rfl
  | openBreaker name config =>
    unfold World.openBreaker
    split
    · exact same (.refl _)
    · next hhas =>
      have hnone : w.breakers.get? name = none := by simpa [Table.has] using hhas
      exact .create config hnone ⟨rfl, rfl, fun other => Table.get?_set .., fun other => by
        simp [told]⟩
  | invoke id arg =>
    obtain ⟨_, _, heq⟩ := w.invoke_eq id arg
    rw [heq]
    exact same_of_eq rfl rfl rfl rfl
  -- These acts move a breaker. It is there, since its admission is held when it is given back.
  | @enter _ _ name h =>
    obtain ⟨c, hc⟩ := Option.isSome_iff_exists.mp h
    unfold World.enter
    rw [hc]
    exact .enter hc (moves_report _ (Breaker.enter_change ..))
  | record name probe outcome =>
    obtain ⟨c, hc⟩ := hknown.exists_of_admission
    unfold World.record
    rw [hc]
    cases outcome with
    | ok value => exact .record true hc (moves_report _ (Breaker.recordSuccess_change ..))
    | error failure => exact .record false hc (moves_report _ (Breaker.recordFailure_change ..))
  | forgo name probe =>
    obtain ⟨c, hc⟩ := hknown.exists_of_admission
    cases probe with
    | true =>
      refine .forgo hc ⟨rfl, rfl, fun other => (Table.get?_modify ..).trans ?_, fun other => ?_⟩
      · split
        · next heq => rw [← heq, hc]; rfl
        · rfl
      · simp only [Option.toList_none, ite_self, List.append_nil]
        rfl
    | false =>
      refine .forgo hc ⟨rfl, rfl, fun other => ?_, fun other => ?_⟩
      · split
        · next heq => rw [← heq]; exact hc
        · rfl
      · simp only [Option.toList_none, ite_self, List.append_nil]
        rfl
  | resetBreaker name =>
    unfold World.resetBreaker
    split
    · next c hc => exact .reset hc (moves_report _ (Breaker.reset_change ..))
    · exact same (.refl _)
  -- The acts on other parts change what is held by holds that are no admissions, and what they
  -- report is about no breaker.
  | askSlot caller h =>
    refine handOut (fun _ _ => Hold.not_mem_ofSlotAnswer (by simp) (by simp)) ?_
    unfold World.askSlot
    split
    · dsimp only
      split
      · exact .of_eq rfl rfl rfl rfl
      · exact .of_eq rfl rfl rfl rfl
      · dsimp only
        refine .report (.setLimiter ..) ?_
        rintro event ⟨⟩
        rfl
    · exact .refl _
  | pickUpSlot h =>
    obtain ⟨_, _, -, -, rfl⟩ := pickUpSlot?_eq_some h
    exact .other (.of_eq rfl rfl rfl rfl) fun name probe => by simp
  | releaseSlot id =>
    obtain ⟨_, _, -, heq⟩ := w.releaseSlot_eq id
    rw [heq]
    exact giveBack (by simp) (.of_eq rfl rfl rfl rfl)
  | leaveSlot id ticket =>
    obtain ⟨_, _, -, heq⟩ := w.leaveSlot_eq id ticket
    rw [heq]
    exact giveBack (by simp) (.of_eq rfl rfl rfl rfl)
  | @askToken _ _ id caller h =>
    obtain ⟨_, _, _, -, -, heq⟩ := w.askToken_eq id caller
    rw [heq]
    exact handOut (fun _ _ => Hold.not_mem_ofTokenAnswer (by simp)) (.of_eq rfl rfl rfl rfl)
  | pickUpToken h =>
    obtain ⟨_, _, -, -, rfl⟩ := pickUpToken_eq_granted h
    exact giveBack (by simp) (.of_eq rfl rfl rfl rfl)
  | refuseToken h => exact giveBack (by simp) (.refl _)
  | leaveToken id ticket => exact giveBack (by simp) (.of_eq rfl rfl rfl rfl)
  | refillBucket id =>
    obtain ⟨_, _, -, heq⟩ := w.refillBucket_eq id
    rw [heq]
    exact same_of_eq rfl rfl rfl rfl
  | shutDownBucket id =>
    obtain ⟨_, _, -, heq⟩ := w.shutDownBucket_eq id
    rw [heq]
    exact same_of_eq rfl rfl rfl rfl
  | readCache id key =>
    obtain ⟨_, -, heq⟩ := w.readCache_eq id key
    rw [heq]
    exact same_of_eq rfl rfl rfl rfl
  | writeCache id key value ttl =>
    unfold World.writeCache
    split
    · exact same (.report (.setCache ..) set_about_no_breaker)
    · exact same (.refl _)
  | sweepCache id =>
    unfold World.sweepCache
    split
    · exact same (.report (.setCache ..) sweepTick_about_no_breaker)
    · exact same (.refl _)

/-! ### Moves of one breaker -/

namespace Breaker

/-- The history has come to the state of a breaker at a time, with an unsettled call for each
admission that is held. -/
structure Shows (name : String) (b : Breaker) (now : Instant) (H : Multiset Hold)
    (h : History) : Prop where
  state : h.breaker = b
  clock : h.now = now
  calls (probe : Bool) :
    h.calls.countP (fun v => v.probing? = some probe) = H.count (.admission name probe)

namespace Shows

open History

variable {name : String} {config : Config} {b : Breaker} {now : Instant} {H H' : Multiset Hold}
  {h : History}

/-- Other holds do not matter. -/
theorem congr (hs : Shows name b now H h)
    (hholds : ∀ probe, H'.count (.admission name probe) = H.count (.admission name probe)) :
    Shows name b now H' h :=
  ⟨hs.state, hs.clock, fun probe => (hs.calls probe).trans (hholds probe).symm⟩

theorem enter (hs : Shows name b now H h) :
    Shows name (Breaker.enter name config now b).2.2 now
      ((Breaker.enter name config now b).1.holds name + H) (h.step name config .call) := by
  obtain ⟨rfl, rfl, calls⟩ := hs
  simp only [step, History.call]
  rcases henter : Breaker.enter name config h.now h.breaker with ⟨probe | count, event?, b⟩
  · refine ⟨rfl, rfl, fun other => ?_⟩
    rw [List.countP_append, calls, Multiset.count_add, Nat.add_comm]
    cases probe <;> cases other <;> simp [Breaker.Admission.holds, Standing.probing?]
  · refine ⟨rfl, rfl, fun other => ?_⟩
    rw [List.countP_append, calls, Multiset.count_add, Nat.add_comm]
    simp [Breaker.Admission.holds, Standing.probing?]

/-- An admission that is held is that of an unsettled call. -/
private theorem exists_call {probe : Bool}
    (hs : Shows name b now (.admission name probe ::ₘ H) h) :
    ∃ n : Nat, h.calls[n]?.bind Standing.probing? = some probe := by
  have hcount : 0 < h.calls.countP fun v => v.probing? = some probe := by
    rw [hs.calls, Multiset.count_cons_self]
    exact Nat.succ_pos _
  obtain ⟨v, hv, hprobing⟩ := List.countP_pos_iff.mp hcount
  obtain ⟨n, hn⟩ := List.mem_iff_getElem?.mp hv
  exact ⟨n, by rw [hn]; exact of_decide_eq_true hprobing⟩

/-- A call ends, and its admission is held no more. -/
private theorem end_call {n : Nat} {probe : Bool} {v' : Standing} {b' : Breaker}
    (hs : Shows name b now (.admission name probe ::ₘ H) h)
    (hn : h.calls[n]?.bind Standing.probing? = some probe) (hv' : v'.probing? = none) :
    Shows name b' now H ⟨b', now, h.calls.set n v'⟩ := by
  refine ⟨rfl, rfl, fun other => ?_⟩
  obtain ⟨v, hv, hprobing⟩ := Option.bind_eq_some_iff.mp hn
  obtain ⟨hlt, rfl⟩ := List.getElem?_eq_some_iff.mp hv
  rw [List.countP_set hlt, hs.calls, Multiset.count_cons]
  by_cases heq : other = probe
  · simp [hprobing, hv', heq]
  · simp [hprobing, hv', heq, Ne.symm heq]

theorem settle {probe : Bool} (good : Bool)
    (hs : Shows name b now (.admission name probe ::ₘ H) h) :
    ∃ move, Shows name
      (if good then Breaker.recordSuccess name probe b
        else Breaker.recordFailure name config now probe b).2 now H
      (h.step name config move) ∧
      h.event? name config move = (if good then Breaker.recordSuccess name probe b
        else Breaker.recordFailure name config now probe b).1 := by
  obtain ⟨n, hn⟩ := hs.exists_call
  refine ⟨.settle n good, ?_, ?_⟩
  · simp only [step, History.settle, hn, hs.state, hs.clock]
    exact hs.end_call hn rfl
  · simp only [event?, hn, hs.state, hs.clock, Option.bind_some]

theorem lose {probe : Bool} (hs : Shows name b now (.admission name probe ::ₘ H) h) :
    ∃ move, Shows name (if probe then Breaker.probeLost b else b) now H
      (h.step name config move) ∧ h.event? name config move = none := by
  obtain ⟨n, hn⟩ := hs.exists_call
  refine ⟨.lose n, ?_, rfl⟩
  simp only [step, History.lose, hn, hs.state, hs.clock]
  exact hs.end_call hn rfl

theorem reset (hs : Shows name b now H h) :
    Shows name (Breaker.reset name b).2 now H (h.step name config .reset) := by
  obtain ⟨rfl, rfl, calls⟩ := hs
  refine ⟨rfl, rfl, fun probe => ?_⟩
  rw [← calls]
  simp only [step, List.countP_map]
  refine List.countP_congr fun v _ => ?_
  cases v <;> rfl

theorem pass (config : Config) (hs : Shows name b now H h) (now' : Instant) :
    Shows name b now' H (h.step name config (.clock now')) :=
  ⟨hs.state, rfl, hs.calls⟩

end Shows

end Breaker

/-! ### The history of a breaker -/

namespace BreakersKnown

variable {w w' : World} {H H' : Multiset Hold}

/-- A breaker that was there moves on, and the holds of the others are what they were. -/
private theorem update (h : BreakersKnown ⟨w, H⟩) {name : String}
    {c' : Component Breaker.Config Breaker} {event? : Option Event}
    (hmoves : w.BreakerMoves w' name c' event?)
    (hholds : ∀ other, other ≠ name → ∀ probe,
      H'.count (.admission other probe) = H.count (.admission other probe)) :
    BreakersKnown ⟨w', H'⟩ := by
  intro other hnone probe
  dsimp only at hnone ⊢
  rw [hmoves.breakers] at hnone
  split at hnone
  · cases hnone
  · next hne => exact (hholds other (Ne.symm hne) probe).trans (h other hnone probe)

theorem act (h : BreakersKnown ⟨w, H⟩) (hact : BreakerAct ⟨w, H⟩ ⟨w', H'⟩) :
    BreakersKnown ⟨w', H'⟩ := by
  cases hact with
  | other hquiet hholds =>
    exact fun name hnone probe =>
      (hholds name probe).trans (h name (hquiet.breakers ▸ hnone) probe)
  | clock instant => exact h
  | create config hnone hmoves => exact h.update hmoves fun _ _ _ => rfl
  | @enter _ _ _ name c hc hmoves =>
    refine h.update hmoves fun other hne probe => ?_
    cases (Breaker.enter name c.config w.now c.state).1 <;>
      simp [Breaker.Admission.holds, hne]
  | record good hc hmoves => exact h.update hmoves fun other hne probe => by simp [hne]
  | forgo hc hmoves => exact h.update hmoves fun other hne probe => by simp [hne]
  | reset hc hmoves => exact h.update hmoves fun _ _ _ => rfl

end BreakersKnown

theorem Scene.Reachable.breakersKnown {sc : Scene} (h : sc.Reachable) : BreakersKnown sc := by
  induction h with
  | empty => exact fun _ _ _ => rfl
  | act _ hact ih => exact ih.act (hact.onBreakers ih)
  | outside _ _ _ ih => exact ih

theorem BreakerAct.recording {sc sc' : Scene} (h : BreakerAct sc sc') :
    sc'.world.recording = sc.world.recording := by
  cases h with
  | other hquiet => exact hquiet.recording
  | clock instant => rfl
  | create config _ hmoves => exact hmoves.recording
  | enter _ hmoves => exact hmoves.recording
  | record _ _ hmoves => exact hmoves.recording
  | forgo _ hmoves => exact hmoves.recording
  | reset _ hmoves => exact hmoves.recording

theorem BreakerAct.now_le {sc sc' : Scene} (h : BreakerAct sc sc') :
    sc.world.now ≤ sc'.world.now := by
  cases h with
  | other hquiet => exact hquiet.now.ge
  | clock instant => exact Nat.le_max_left ..
  | create config _ hmoves => exact hmoves.now.ge
  | enter _ hmoves => exact hmoves.now.ge
  | record _ _ hmoves => exact hmoves.now.ge
  | forgo _ hmoves => exact hmoves.now.ge
  | reset _ hmoves => exact hmoves.now.ge

/-- Whether events are recorded is settled at the start. -/
theorem Scene.Reachable.recording_steps {sc sc' : Scene} (h : sc.Reachable)
    (hsteps : Steps sc sc') : sc'.world.recording = sc.world.recording := by
  induction hsteps with
  | refl => rfl
  | tail hfirst hact ih =>
    exact (hact.onBreakers (h.steps hfirst).breakersKnown).recording.trans ih

namespace Breaker

open History

variable {w w' : World} {H H' : Multiset Hold} {name : String}

/-- A breaker that was not there begins with an empty history, at the time that it is. -/
theorem Shows.born {c' : Component Config Breaker} (hknown : BreakersKnown ⟨w, H⟩)
    (hact : BreakerAct ⟨w, H⟩ ⟨w', H'⟩) (hnone : w.breakers.get? name = none)
    (hc' : w'.breakers.get? name = some c') :
    Shows name c'.state w'.now H' (run name c'.config [.clock w'.now]) := by
  -- What moves is another breaker, which was there before.
  have hnot {other : String} {c d : Component Config Breaker} {event? : Option Event}
      (hc : w.breakers.get? other = some c) (hmoves : w.BreakerMoves w' other d event?) :
      False := by
    rw [hmoves.breakers] at hc'
    split at hc'
    · next heq => rw [← heq, hc] at hnone; cases hnone
    · rw [hnone] at hc'; cases hc'
  cases hact with
  | other hquiet => rw [hquiet.breakers, hnone] at hc'; cases hc'
  | clock instant => exact absurd (hnone.symm.trans hc') (by simp)
  | create config _ hmoves =>
    rw [hmoves.breakers] at hc'
    split at hc'
    · obtain rfl := Option.some.inj hc'
      exact ⟨rfl, rfl, fun probe => (hknown name hnone probe).symm⟩
    · rw [hnone] at hc'; cases hc'
  | enter hc hmoves => exact (hnot hc hmoves).elim
  | record _ hc hmoves => exact (hnot hc hmoves).elim
  | forgo hc hmoves => exact (hnot hc hmoves).elim
  | reset hc hmoves => exact (hnot hc hmoves).elim

/-- Moves lead the history of a breaker on to another scene, and what they report is what is told
about it on the way. -/
def LeadsOn (name : String) (config : Config) (b' : Breaker) (sc sc' : Scene) (h : History)
    (moves : List Move) : Prop :=
  Shows name b' sc'.world.now sc'.holds (moves.foldl (History.step name config) h) ∧
    (sc.world.recording = true →
      sc'.world.told name = sc.world.told name ++ reported name config h moves)

/-- Every history of a breaker can be led on to another scene. -/
def GoesOn (name : String) (config : Config) (b b' : Breaker) (sc sc' : Scene) : Prop :=
  ∀ h, Shows name b sc.world.now sc.holds h →
    ∃ moves : List Move, LeadsOn name config b' sc sc' h moves

/-- Every history of a breaker can be led on to another scene by at most one move. -/
def StepsOn (name : String) (config : Config) (b b' : Breaker) (sc sc' : Scene) : Prop :=
  ∀ h, Shows name b sc.world.now sc.holds h →
    ∃ move? : Option Move, LeadsOn name config b' sc sc' h move?.toList

theorem StepsOn.goesOn {config : Config} {b b' : Breaker} {sc sc' : Scene}
    (hon : StepsOn name config b b' sc sc') : GoesOn name config b b' sc sc' :=
  fun h hs => (hon h hs).imp' Option.toList fun _ hmove => hmove

/-- **An act is at most one move of a breaker.** -/
theorem Shows.act {c : Component Config Breaker} (hact : BreakerAct ⟨w, H⟩ ⟨w', H'⟩)
    (hc : w.breakers.get? name = some c) :
    ∃ b, w'.breakers.get? name = some { c with state := b } ∧
      StepsOn name c.config c.state b ⟨w, H⟩ ⟨w', H'⟩ := by
  -- Nothing happens to this breaker.
  have hnothing (hnow : w'.now = w.now) (htold : w'.told name = w.told name)
      (hholds : ∀ probe, H'.count (.admission name probe) = H.count (.admission name probe)) :
      StepsOn name c.config c.state c.state ⟨w, H⟩ ⟨w', H'⟩ :=
    fun h hs => ⟨none, hnow ▸ hs.congr hholds, fun _ => htold.trans (List.append_nil _).symm⟩
  -- A move of another breaker is none of this one.
  have helse {other : String} {d : Component Config Breaker} {event? : Option Event}
      (hne : other ≠ name) (hmoves : w.BreakerMoves w' other d event?)
      (hholds : ∀ probe, H'.count (.admission name probe) = H.count (.admission name probe)) :
      ∃ b, w'.breakers.get? name = some { c with state := b } ∧
        StepsOn name c.config c.state b ⟨w, H⟩ ⟨w', H'⟩ :=
    ⟨c.state, by rw [hmoves.breakers, if_neg hne, hc],
      hnothing hmoves.now (by simp [hmoves.told, hne]) hholds⟩
  -- A move of this one.
  have hthis {d : Component Config Breaker} {b : Breaker} {event? : Option Event}
      (hd : w.breakers.get? name = some d)
      (hmoves : w.BreakerMoves w' name { d with state := b } event?)
      (hmove : ∀ h, Shows name d.state w.now H h → ∃ move,
        Shows name b w.now H' (h.step name d.config move) ∧
          h.event? name d.config move = event?) :
      ∃ b, w'.breakers.get? name = some { c with state := b } ∧
        StepsOn name c.config c.state b ⟨w, H⟩ ⟨w', H'⟩ := by
    obtain rfl := Option.some.inj (hc.symm.trans hd)
    refine ⟨b, by rw [hmoves.breakers, if_pos rfl], fun h hs => ?_⟩
    obtain ⟨move, hmoved, hevent⟩ := hmove h hs
    refine ⟨some move, hmoves.now ▸ hmoved, fun hrecording => ?_⟩
    rw [Option.toList_some, reported_single, hevent, hmoves.told, if_pos ⟨rfl, hrecording⟩]
  cases hact with
  | other hquiet hholds =>
    exact ⟨c.state, by rw [hquiet.breakers, hc],
      hnothing hquiet.now (hquiet.told name) (hholds name)⟩
  | clock instant =>
    exact ⟨c.state, hc, fun h hs => ⟨some (.clock (w.pass instant).now), hs.pass c.config _,
      fun _ => (List.append_nil _).symm⟩⟩
  | @create _ _ _ other config hnone hmoves =>
    have hne : other ≠ name := fun heq => by rw [← heq, hnone] at hc; cases hc
    exact helse hne hmoves fun _ => rfl
  | @enter _ _ _ other d hd hmoves =>
    by_cases heq : other = name
    · subst heq
      exact hthis hd hmoves fun h hs =>
        ⟨.call, hs.enter, by simp only [event?, hs.state, hs.clock]⟩
    · refine helse heq hmoves fun probe => ?_
      cases (Breaker.enter other d.config w.now d.state).1 <;>
        simp [Admission.holds, Ne.symm heq]
  | @record _ _ _ other d probe good hd hmoves =>
    by_cases heq : other = name
    · subst heq
      exact hthis hd hmoves fun h hs => hs.settle good
    · exact helse heq hmoves (by simp [Ne.symm heq])
  | @forgo _ _ _ other d probe hd hmoves =>
    by_cases heq : other = name
    · subst heq
      exact hthis hd hmoves fun h hs => hs.lose
    · exact helse heq hmoves (by simp [Ne.symm heq])
  | @reset _ _ _ other d hd hmoves =>
    by_cases heq : other = name
    · subst heq
      exact hthis hd hmoves fun h hs => ⟨.reset, hs.reset, by simp only [event?, hs.state]⟩
    · exact helse heq hmoves fun _ => rfl

theorem GoesOn.refl (name : String) (config : Config) (b : Breaker) (sc : Scene) :
    GoesOn name config b b sc sc := fun _ hs => ⟨[], hs, fun _ => (List.append_nil _).symm⟩

theorem GoesOn.trans {config : Config} {b b' b'' : Breaker} {sc sc' sc'' : Scene}
    (h : GoesOn name config b b' sc sc') (h' : GoesOn name config b' b'' sc' sc'')
    (hrecording : sc'.world.recording = sc.world.recording) :
    GoesOn name config b b'' sc sc'' := by
  intro history hs
  obtain ⟨moves, hshows, htold⟩ := h history hs
  obtain ⟨more, hshows', htold'⟩ := h' _ hshows
  refine ⟨moves ++ more, by rwa [List.foldl_append], fun hon => ?_⟩
  rw [htold' (hrecording.trans hon), htold hon, reported_append, List.append_assoc]

/-- **However a scene goes on, so does the history of each of its breakers.** -/
theorem goesOn_of_steps {sc sc' : Scene} (h : sc.Reachable) (hsteps : Steps sc sc')
    {c : Component Config Breaker} (hc : sc.world.breakers.get? name = some c) :
    ∃ b, sc'.world.breakers.get? name = some { c with state := b } ∧
      GoesOn name c.config c.state b sc sc' := by
  induction hsteps with
  | refl => exact ⟨c.state, hc, .refl name c.config c.state sc⟩
  | @tail sc₁ sc₂ hfirst hact ih =>
    obtain ⟨b, hb, hon⟩ := ih
    obtain ⟨b', hb', hon'⟩ := Shows.act (hact.onBreakers (h.steps hfirst).breakersKnown) hb
    exact ⟨b', hb', hon.trans hon'.goesOn (h.recording_steps hfirst)⟩

/-- An act leads a history on by at most one move, which does not take the time back. -/
theorem exists_move_of_act {sc sc' : Scene} (hsc : sc.Reachable) (hact : Act sc sc')
    {c : Component Config Breaker} (hc : sc.world.breakers.get? name = some c)
    {moves : List Move} (hsteady : Steady moves)
    (hshows : Shows name c.state sc.world.now sc.holds (run name c.config moves)) :
    ∃ (b : Breaker) (move? : Option Move),
      sc'.world.breakers.get? name = some { c with state := b } ∧
        Steady (moves ++ move?.toList) ∧
        Shows name b sc'.world.now sc'.holds (run name c.config (moves ++ move?.toList)) := by
  have hbreaker := hact.onBreakers hsc.breakersKnown
  obtain ⟨b, hb, hon⟩ := Shows.act hbreaker hc
  obtain ⟨move?, hmove, -⟩ := hon _ hshows
  have hshows' : Shows name b sc'.world.now sc'.holds
      (run name c.config (moves ++ move?.toList)) := by rwa [run, List.foldl_append]
  refine ⟨b, move?, hb, ?_, hshows'⟩
  cases move? with
  | none => simpa using hsteady
  | some move =>
    -- Before and after, the clock of the history is that of the scene.
    refine (steady_concat name c.config).mpr ⟨hsteady, ?_⟩
    have hle : sc.world.now ≤ sc'.world.now := hbreaker.now_le
    rwa [← hshows.clock, ← hshows'.clock] at hle

/-- **Every breaker of a scene has a history**, in which the clock is never set back. -/
theorem exists_steady_history {sc : Scene} (h : sc.Reachable) {c : Component Config Breaker}
    (hc : sc.world.breakers.get? name = some c) :
    ∃ moves, Steady moves ∧
      Shows name c.state sc.world.now sc.holds (run name c.config moves) := by
  induction h generalizing c with
  | empty => cases hc
  | outside _ _ _ ih => exact ih hc
  | @act sc₁ sc₂ hsc hact ih =>
    have hknown := hsc.breakersKnown
    -- The act has created the breaker, or it has led its history on.
    cases hc₁ : sc₁.world.breakers.get? name with
    | none =>
      exact ⟨[.clock sc₂.world.now], by simp [Steady, Move.clock?],
        Shows.born hknown (hact.onBreakers hknown) hc₁ hc⟩
    | some c₁ =>
      obtain ⟨moves, hsteady, hshows⟩ := ih hc₁
      obtain ⟨b, move?, hb, hsteady', hshows'⟩ := exists_move_of_act hsc hact hc₁ hsteady hshows
      obtain rfl := Option.some.inj (hb.symm.trans hc)
      exact ⟨moves ++ move?.toList, hsteady', hshows'⟩

theorem exists_history {sc : Scene} (h : sc.Reachable) {c : Component Config Breaker}
    (hc : sc.world.breakers.get? name = some c) :
    ∃ moves, Shows name c.state sc.world.now sc.holds (run name c.config moves) :=
  (exists_steady_history h hc).imp fun _ hmoves => hmoves.2

end Breaker

end Resilience
