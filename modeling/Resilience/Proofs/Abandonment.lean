import Resilience.Proofs.Places
import Resilience.Proofs.Story.Telling

/-!
# Calls that are taken apart

Taking a call apart gives back each of its holds, once (`Call.undoing_eq`), and touches nothing but
breakers, limiters, buckets and the run queue (`Call.abandon_eq`). In a scene the call is then gone
(`Call.Gone`): its places are held by nobody any more, now or later, so nobody waits on its behalf
and nothing is handed to it (`Call.gone_of_later`). The slots that it had are free or were passed
on, since a limiter counts none that nobody has and keeps none back while somebody is in line
(`Limiter.accounted`).
-/

namespace Resilience

/-- What gives back a hold. -/
def Hold.undo : Hold → Deed
  | admission breaker probe => .forgo breaker probe
  | slot limiter => .releaseSlot limiter
  | place limiter ticket => .leaveSlot limiter ticket
  | tokenPlace bucket ticket => .leaveToken bucket ticket

namespace Call

/-- **A call that is taken apart gives back all that it holds**, and does nothing else. -/
theorem undoing_eq (c : Call) : (c.undoing : Multiset Deed) = c.holds.map Hold.undo := by
  -- A layer gives back its own hold after its inner call.
  have hlast {inner : Call} (x : Hold)
      (ih : (inner.undoing : Multiset Deed) = inner.holds.map Hold.undo) :
      ((inner.undoing ++ [x.undo] : List Deed) : Multiset Deed) =
        (x ::ₘ inner.holds).map Hold.undo := by
    rw [← Multiset.coe_add, ih, Multiset.map_cons, Multiset.coe_singleton, add_comm,
      Multiset.singleton_add]
  induction c with
  | working | pausing => rfl
  | awaitingSlot | awaitingToken => rfl
  | guarded breaker probe inner ih => exact hlast (.admission breaker probe) ih
  | withFallback breaker probe fallback arg inner ih => exact hlast (.admission breaker probe) ih
  | holdingSlot limiter inner ih => exact hlast (.slot limiter) ih
  | timed _ _ _ inner ih | attempting _ _ _ _ _ inner ih | filling _ _ _ inner ih => exact ih

/-- **Taking a call apart stores nothing and reports nothing**: caches, sources, events and the log
are as before, and no time passes. -/
theorem abandon_eq (c : Call) (w : World) : ∃ breakers limiters buckets ready, c.abandon w =
    { w with breakers := breakers, limiters := limiters, buckets := buckets, ready := ready } := by
  induction c generalizing w with
  | working | pausing => exact ⟨_, _, _, _, rfl⟩
  | guarded breaker probe inner ih | withFallback breaker probe fallback arg inner ih =>
    obtain ⟨_, _, _, _, heq⟩ := ih w
    obtain ⟨_, -, hforgo⟩ := (inner.abandon w).forgo_eq breaker probe
    exact ⟨_, _, _, _, by rw [abandon, hforgo, heq]⟩
  | awaitingSlot limiter ticket inner arg =>
    obtain ⟨_, _, -, heq⟩ := w.leaveSlot_eq limiter ticket
    exact ⟨_, _, _, _, heq⟩
  | holdingSlot limiter inner ih =>
    obtain ⟨_, _, _, _, heq⟩ := ih w
    obtain ⟨_, _, -, hrelease⟩ := (inner.abandon w).releaseSlot_eq limiter
    exact ⟨_, _, _, _, by rw [abandon, hrelease, heq]⟩
  | awaitingToken bucket ticket inner arg => exact ⟨_, _, _, _, rfl⟩
  | timed _ _ _ inner ih | attempting _ _ _ _ _ inner ih | filling _ _ _ inner ih => exact ih w

/-- Nothing is left of a call in a scene: nobody holds its places, and nobody stands in a line or
was handed anything there on its behalf. -/
def Gone (c : Call) (sc : Scene) : Prop :=
  ∀ x ∈ c.holds, ∀ ticket, x.ticket? = some ticket → x ∉ sc.holds ∧ ¬ x.Stands sc.world

/-- **A call that was taken apart is gone for good.** -/
theorem gone_of_later {c : Call} {w : World} {H : Multiset Hold} {sc : Scene}
    (h : Scene.Reachable ⟨w, c.holds + H⟩) (hlater : Scene.Later ⟨c.abandon w, H⟩ sc) :
    c.Gone sc := by
  intro x hx ticket hticket
  have hsteps := c.abandon_steps w H
  have hafter := h.steps hsteps
  have hlt : ticket < (c.abandon w).serial :=
    (h.ticket_lt hticket (Multiset.mem_add.mpr (.inl hx))).trans_le
      (Steps.grows hsteps).serial
  -- The call had the place alone.
  have hothers : x ∉ H := by
    have hone := h.count_place_le hticket
    have hown := Multiset.count_pos.mpr hx
    rw [Multiset.count_add] at hone
    exact Multiset.count_eq_zero.mp (by omega)
  have hnot := hlater.not_mem_place hticket hlt hothers
  exact ⟨hnot, fun hstands => hnot (hstands.mem_holds (hafter.later hlater))⟩

end Call

namespace Limiter

/-- **A limiter counts the slots that somebody has**, and keeps none back while somebody is in
line. -/
theorem accounted {sc : Scene} (h : sc.Reachable) {id : ComponentId}
    {c : Component Config Limiter} (hc : sc.world.limiters.get? id = some c) :
    c.state.active = sc.holds.count (.slot id) + c.state.granted.length ∧
      (∀ ticket ∈ c.state.granted, .place id ticket ∈ sc.holds) ∧
      (c.state.queue ≠ [] → c.state.active = c.config.slots) := by
  obtain ⟨moves, hshows⟩ := exists_history h hc
  have hs := History.sound_run c.config moves
  obtain ⟨hactive, -, -, hplaces⟩ := hshows.conserved hs
  exact ⟨hactive, hplaces, hshows.state ▸ hs.busy⟩

end Limiter

end Resilience
