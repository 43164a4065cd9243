import Resilience.Proofs.Limiter.Conservation

/-!
# First come, first served

A limiter keeps no slot back: while anybody is in line, dead places included, every slot is in
use. And it serves callers in the order in which they came: of two callers that were not refused,
the later one is not served before the earlier one was served or gave up. A caller that finds a
free slot takes it without a look at the line, so the second law rests on the first: where a slot
is free, there is no line to overtake.

Both are read off `History.Sound`. A session comes in through its acts, each of which is at most
one move (`Shows.act`): however a session goes on, the history of each of its limiters goes on
with it, and callers that came earlier stay in front.
-/

namespace Resilience

namespace Limiter

/-- Of two visits, the one that came first is not passed over. -/
theorem History.Sound.first_come {config : Config} {h : History} (hs : Sound config 0 h)
    {i j : Nat} {x y : Visit} (hij : i < j) (hx : h.visits[i]? = some x)
    (hy : h.visits[j]? = some y) (hserved : y.served = true) : x.waiting? = none := by
  obtain ⟨hi, rfl⟩ := List.getElem?_eq_some_iff.mp hx
  obtain ⟨hj, rfl⟩ := List.getElem?_eq_some_iff.mp hy
  have hpair := List.pairwise_iff_getElem.mp hs.order i j hi hj hij
  by_contra hwaits
  exact absurd hserved (Bool.eq_false_iff.mp (hpair (Option.isSome_iff_ne_none.mpr hwaits)))

/-- **First come, first served.** In every history, there is a line only while every slot is in
use; those who wait stand in line in the order in which they came; and a caller that was not
refused has been served or has given up when one that came after it has been served. A limiter of
a session has such a history, which goes on as the session goes on. -/
theorem served_in_order :
    (∀ (config : Config) (moves : List Move),
      let h := History.run config moves
      (h.limiter.queue ≠ [] → h.limiter.active = max config.maxConcurrency 1) ∧
        Queue.waiting h.limiter.queue = h.visits.filterMap Visit.waiting? ∧
        ∀ (i j : Nat) (x y : Visit), i < j → h.visits[i]? = some x → h.visits[j]? = some y →
          x ≠ .refused → y.served = true → x.served = true ∨ x = .gaveUp) ∧
    (∀ (s : Session) (id : ComponentId) (c : Component Config Limiter),
      s.Reachable → s.world.limiters.get? id = some c →
      (c.state.queue ≠ [] → c.state.active = max c.config.maxConcurrency 1) ∧
        ∃ moves, Shows id c.state s.holds (History.run c.config moves) ∧
          ∀ sc, Steps s.scene sc → ∃ (more : List Move) (l : Limiter),
            sc.world.limiters.get? id = some { c with state := l } ∧
              Shows id l sc.holds (History.run c.config (moves ++ more))) := by
  refine ⟨fun config moves => ?_, fun s id c hs hc => ?_⟩
  · have hsound := History.sound_run config moves
    refine ⟨hsound.busy, hsound.line, fun i j x y hij hx hy hrefused hserved => ?_⟩
    have hline := hsound.first_come hij hx hy hserved
    cases x <;> simp_all
  -- A session is a scene, and its limiters have histories there that go on with it.
  · obtain ⟨-, hreach⟩ := hs.valid_scene
    obtain ⟨moves, hshows⟩ := exists_history hreach hc
    refine ⟨?_, moves, hshows, fun sc hsteps => ?_⟩
    · have hbusy := (History.sound_run c.config moves).busy
      rw [hshows.state] at hbusy
      exact hbusy
    · obtain ⟨l, hl, hmoves⟩ := Shows.steps (numbered_of_reachable hreach) hsteps hc
      obtain ⟨more, hmore⟩ := hmoves _ hshows
      exact ⟨more, l, hl, by rw [History.run, List.foldl_append]; exact hmore⟩

/-- Three callers come to a limiter with one slot, the second is cancelled in line, and the slot
of the first goes to the third. -/
def passedOn : History :=
  History.run ⟨1, 0⟩ [.ask 0 0, .ask 1 1, .ask 2 2, .cancel 1, .release 0]

theorem served_in_order_passed_on :
    (passedOn.visits = [.left, .gaveUp, .granted 2] ∧
      (Visit.gaveUp.served = true ∨ Visit.gaveUp = .gaveUp)) ∧
    ∃ c, oneKept.Reachable ∧ oneKept.world.limiters.get? 0 = some c ∧ c.state.queue ≠ [] ∧
      c.state.active = 1 ∧ ∃ moves, Shows 0 c.state oneKept.holds (History.run ⟨1, 0⟩ moves) := by
  obtain ⟨-, -, hserved⟩ :=
    served_in_order.1 ⟨1, 0⟩ [.ask 0 0, .ask 1 1, .ask 2 2, .cancel 1, .release 0]
  refine ⟨⟨by decide, hserved 1 2 .gaveUp (.granted 2) (by decide) (by decide) (by decide)
    (by decide) (by decide)⟩, ?_⟩
  obtain ⟨c, hc, hconfig, hstate⟩ := limiters_oneKept
  obtain ⟨hbusy, moves, hshows, -⟩ := served_in_order.2 oneKept 0 c oneKept_reachable hc
  have hline : c.state.queue ≠ [] := by simp [hstate]
  refine ⟨c, oneKept_reachable, hc, hline, ?_, moves, hconfig ▸ hshows⟩
  exact (hbusy hline).trans (by rw [hconfig]; rfl)

end Limiter

end Resilience
