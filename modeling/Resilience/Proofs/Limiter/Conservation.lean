import Resilience.Proofs.Limiter.Scene
import Resilience.Proofs.Session.Commands

/-!
# Slots are conserved

The slots that a limiter counts as in use are exactly those that somebody has: calls that run
inside it, slots that are kept, and slots that were handed to a waiting caller which has not run
since. There are never more of them than the limiter has, so giving one back never meets a count
of zero, and no more calls run inside than the limiter allows.

This is said three times, from the narrow to the wide: for every history of a single limiter, for
every scene, which is to say between any two acts of whatever goes on, and for every session
between two turns, where the calls inside are counted in the call trees themselves
(`Call.inside`).
-/

namespace Resilience

/-! ### Who has a slot -/

/-- How many calls run inside a limiter as layers of this one. -/
def Call.inside (limiter : ComponentId) : Call → Nat
  | working .. => 0
  | guarded _ _ inner => inner.inside limiter
  | withFallback _ _ _ _ inner => inner.inside limiter
  | awaitingSlot .. => 0
  | holdingSlot other inner => inner.inside limiter + if other = limiter then 1 else 0
  | awaitingToken .. => 0
  | timed _ _ _ inner => inner.inside limiter
  | attempting _ _ _ _ _ inner => inner.inside limiter
  | pausing .. => 0
  | filling _ _ _ inner => inner.inside limiter

/-- How many calls of a task run inside a limiter. -/
def Job.inside (limiter : ComponentId) : Job → Nat
  | call _ _ _ (some c) => c.inside limiter
  | _ => 0

/-- How many calls run inside a limiter. -/
def Session.inside (limiter : ComponentId) (s : Session) : Nat :=
  s.tasks.total fun task => task.job.inside limiter

/-- How many slots of a limiter are kept. -/
def Session.kept (limiter : ComponentId) (s : Session) : Nat := s.permits.values.count limiter

theorem Call.count_slot_holds (limiter : ComponentId) (c : Call) :
    c.holds.count (.slot limiter) = c.inside limiter := by
  induction c with
  | working | awaitingSlot | awaitingToken | pausing => simp [holds, inside]
  | guarded | withFallback => simpa [holds, inside]
  | timed | attempting | filling => simpa [holds, inside]
  | holdingSlot other inner ih =>
    by_cases h : other = limiter
    · simp [holds, inside, ih, h]
    · simp [holds, inside, ih, h, Ne.symm h]

theorem Job.count_slot_holds (limiter : ComponentId) (job : Job) :
    job.holds.count (.slot limiter) = job.inside limiter := by
  match job with
  | .call _ _ _ (some c) => exact c.count_slot_holds limiter
  | .acquire _ _ (some ticket) | .take _ _ (some ticket) => simp [holds, inside]
  | .call _ _ _ none | .acquire _ _ none | .take _ _ none | .refill .. | .sweep .. => rfl

namespace Session

theorem count_tasksHold (limiter : ComponentId) (tasks : Table TaskId Task) :
    (tasksHold tasks).count (.slot limiter) = tasks.total fun task => task.job.inside limiter := by
  induction tasks with
  | nil => rfl
  | cons p rest ih =>
    change (p.2.job.holds + tasksHold rest).count (.slot limiter) = _
    rw [Multiset.count_add, Job.count_slot_holds, ih]
    rfl

theorem count_permitsHold (limiter : ComponentId) (permits : Table String ComponentId) :
    (permitsHold permits).count (.slot limiter) = permits.values.count limiter := by
  have hmap : permits.map (fun p => Hold.slot p.2) = permits.values.map Hold.slot :=
    (List.map_map ..).symm
  rw [permitsHold, hmap, Multiset.coe_count]
  exact List.count_map_of_injective _ _ (fun a b h => Hold.slot.inj h) limiter

theorem count_slot_holds (limiter : ComponentId) (s : Session) :
    s.holds.count (.slot limiter) = s.inside limiter + s.kept limiter := by
  rw [holds, Multiset.count_add, count_tasksHold, count_permitsHold]
  rfl

end Session

namespace Limiter

/-! ### Conservation -/

namespace History

theorem countP_hasSlot (visits : List Visit) : visits.countP Visit.hasSlot =
    visits.count .inside + (visits.filterMap Visit.granted?).length := by
  induction visits with
  | nil => rfl
  | cons v rest ih =>
    cases v <;> simp [List.countP_cons, List.filterMap_cons, ih] <;> omega

/-- Whoever was handed a slot in line has its ticket still. -/
theorem granted_sublist_tickets (visits : List Visit) :
    (visits.filterMap Visit.granted?).Sublist (visits.filterMap Visit.ticket?) := by
  induction visits with
  | nil => exact .slnil
  | cons v rest ih =>
    cases v with
    | granted ticket => exact ih.cons_cons ticket
    | waiting ticket => exact ih.cons ticket
    | inside | left | gaveUp | refused => exact ih

/-- The slots in use are those of the visits inside and of those that were served in line. -/
theorem Sound.active_eq_add {config : Config} {h : History} (hs : Sound config 0 h) :
    h.limiter.active = h.visits.count .inside + h.limiter.granted.length := by
  rw [hs.active_eq, countP_hasSlot, hs.handed.length_eq, Nat.add_zero]

end History

/-- What holds of a limiter with a sound history and of what is held of it. -/
theorem Shows.conserved {id : ComponentId} {config : Config} {l : Limiter} {H : Multiset Hold}
    {h : History} (hshows : Shows id l H h) (hs : History.Sound config 0 h) :
    l.active = H.count (.slot id) + l.granted.length ∧ l.active ≤ config.slots ∧
      l.granted.Nodup ∧ ∀ ticket ∈ l.granted, .place id ticket ∈ H := by
  obtain ⟨rfl, inside, tickets⟩ := hshows
  have hsub := History.granted_sublist_tickets h.visits
  refine ⟨inside ▸ hs.active_eq_add, hs.active_le, ?_, fun ticket ht => ?_⟩
  · exact hs.handed.nodup_iff.mpr (hs.distinct.sublist hsub)
  · rw [← Multiset.count_pos, ← tickets, List.count_pos_iff]
    exact hsub.subset (hs.handed.mem_iff.mp ht)

/-- A slot that somebody has is counted, so that giving it back takes one from more than zero. -/
private theorem active_pos {active held : Nat} {granted : List Ticket}
    (h : active = held + granted.length) (hsome : 0 < held ∨ granted ≠ []) : 0 < active := by
  rcases hsome with hheld | hne
  · omega
  · have hlength := List.length_pos_iff.mpr hne
    omega

/-- **Slots are conserved.** In every history, in every scene and in every session, the slots that
a limiter counts as in use are those that callers hold and those that were handed to a caller in
line and not picked up; there are at most `maxConcurrency` of them, or one if that is zero, so no
more calls than that run inside; and while anybody has a slot to give back, the count is not
zero. -/
theorem slots_conserved :
    (∀ (config : Config) (moves : List Move),
      let h := History.run config moves
      h.limiter.active = h.visits.count .inside + h.limiter.granted.length ∧
        h.limiter.active ≤ max config.maxConcurrency 1 ∧
        (.inside ∈ h.visits ∨ h.limiter.granted ≠ [] → 0 < h.limiter.active)) ∧
    (∀ (sc : Scene) (id : ComponentId) (c : Component Config Limiter),
      sc.Reachable → sc.world.limiters.get? id = some c →
      c.state.active = sc.holds.count (.slot id) + c.state.granted.length ∧
        c.state.active ≤ max c.config.maxConcurrency 1 ∧
        (.slot id ∈ sc.holds ∨ c.state.granted ≠ [] → 0 < c.state.active) ∧
        c.state.granted.Nodup ∧ ∀ ticket ∈ c.state.granted, .place id ticket ∈ sc.holds) ∧
    (∀ (s : Session) (id : ComponentId) (c : Component Config Limiter),
      s.Reachable → s.world.limiters.get? id = some c →
      s.scene.Reachable ∧
        c.state.active = s.inside id + s.kept id + c.state.granted.length ∧
        s.inside id ≤ max c.config.maxConcurrency 1) := by
  -- What is held of a limiter of a scene are the visits of a history, in which slots are conserved.
  have hscene (sc : Scene) (id : ComponentId) (c : Component Config Limiter)
      (hsc : sc.Reachable) (hc : sc.world.limiters.get? id = some c) :
      c.state.active = sc.holds.count (.slot id) + c.state.granted.length ∧
        c.state.active ≤ c.config.slots ∧
        c.state.granted.Nodup ∧ ∀ ticket ∈ c.state.granted, .place id ticket ∈ sc.holds := by
    obtain ⟨moves, hshows⟩ := exists_history hsc hc
    exact hshows.conserved (History.sound_run c.config moves)
  refine ⟨fun config moves => ?_, fun sc id c hsc hc => ?_, fun s id c hs hc => ?_⟩
  · have hs := History.sound_run config moves
    exact ⟨hs.active_eq_add, hs.active_le, fun hsome => active_pos hs.active_eq_add
      (hsome.imp_left List.count_pos_iff.mpr)⟩
  · obtain ⟨hactive, hle, hnodup, hplaces⟩ := hscene sc id c hsc hc
    exact ⟨hactive, hle, fun hsome => active_pos hactive
      (hsome.imp_left Multiset.count_pos.mpr), hnodup, hplaces⟩
  · obtain ⟨-, hreach⟩ := hs.valid_scene
    obtain ⟨hactive, hle, -, -⟩ := hscene s.scene id c hreach hc
    have hcount := s.count_slot_holds id
    have hslots : c.config.slots = max c.config.maxConcurrency 1 := rfl
    change c.state.active = s.holds.count (.slot id) + _ at hactive
    exact ⟨hreach, hcount ▸ hactive, by omega⟩

/-- A session in which the one slot of a limiter is kept and another caller waits for it. -/
def oneKept : Session :=
  (((Session.create {} false).perform ⟨toString, toString⟩ (.batch
    [.limiter "l" (some ⟨1, 0⟩) .own, .acquire "l" "a", .acquire "l" "b"])).2.turn 1).turn 2

theorem oneKept_reachable : oneKept.Reachable :=
  have hstart := (Session.Reachable.create {} false).perform ⟨toString, toString⟩ (.batch
    [.limiter "l" (some ⟨1, 0⟩) .own, .acquire "l" "a", .acquire "l" "b"])
  (hstart.happens (.turn 1)).happens (.turn 2)

theorem limiters_oneKept : ∃ c, oneKept.world.limiters.get? 0 = some c ∧ c.config = ⟨1, 0⟩ ∧
    c.state = ⟨1, [⟨3, 2, true⟩], []⟩ := by
  have hstate : (oneKept.world.limiters.get? 0).map (fun c => (c.config, c.state)) =
      some (⟨1, 0⟩, ⟨1, [⟨3, 2, true⟩], []⟩) := by decide +kernel
  obtain ⟨c, hc, heq⟩ := Option.map_eq_some_iff.mp hstate
  exact ⟨c, hc, Prod.mk.inj heq⟩

theorem slots_conserved_one_kept : ∃ c, oneKept.Reachable ∧
    oneKept.world.limiters.get? 0 = some c ∧ c.state.queue ≠ [] ∧
    1 = oneKept.inside 0 + oneKept.kept 0 + 0 ∧ oneKept.inside 0 ≤ 1 := by
  obtain ⟨c, hc, hconfig, hstate⟩ := limiters_oneKept
  obtain ⟨-, hactive, hinside⟩ := slots_conserved.2.2 oneKept 0 c oneKept_reachable hc
  rw [hstate] at hactive
  rw [hconfig] at hinside
  exact ⟨c, oneKept_reachable, hc, by simp [hstate], hactive, hinside⟩

end Limiter

end Resilience
