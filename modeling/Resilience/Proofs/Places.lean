import Resilience.Proofs.Limiter.Overflow
import Resilience.Proofs.Bucket.Closing

/-!
# Places are given away once

A place in a line has a ticket, which is a number that was not given out before. So there is one
caller at most that holds it (`Scene.Reachable.count_place_le`), and a place that its caller has
given back is never held again, whatever goes on (`Scene.Later.not_mem_place`). A component knows
nobody in line who does not hold a place (`Hold.Stands.mem_holds`), so nobody waits there any more
on behalf of a caller that has gone, and nothing is handed to it.
-/

namespace Resilience

namespace Hold

/-- The ticket of a place in a line. -/
def ticket? : Hold → Option Ticket
  | place _ ticket => some ticket
  | tokenPlace _ ticket => some ticket
  | _ => none

/-- A component has this place in its line, or has handed something to it that was not picked up
yet. -/
def Stands (w : World) : Hold → Prop
  | place id ticket => ∃ c, w.limiters.get? id = some c ∧
      (ticket ∈ Queue.waiting c.state.queue ∨ ticket ∈ c.state.granted)
  | tokenPlace id ticket => ∃ c, w.buckets.get? id = some c ∧ ticket ∈ c.state.tickets
  | _ => False

variable {x : Hold} {ticket : Ticket}

theorem not_mem_admission (h : x.ticket? = some ticket) (breaker : String)
    (admission : Breaker.Admission) : x ∉ admission.holds breaker :=
  Breaker.Admission.not_mem_holds fun _ heq => by rw [heq] at h; cases h

/-- A caller of a limiter is given no place but one with the next number. -/
theorem ticket_of_askSlot {w : World} {id : ComponentId} {caller : TaskId}
    (h : x.ticket? = some ticket) (hx : x ∈ ofSlotAnswer id (w.askSlot id caller).1) :
    ticket = w.serial := by
  unfold World.askSlot at hx
  split at hx
  · dsimp only at hx
    split at hx <;> simp only [ofSlotAnswer, Multiset.mem_singleton, Multiset.notMem_zero] at hx
    · cases hx
      cases h
    · cases hx
      exact (Option.some.inj h).symm
  · simp only [ofSlotAnswer, Multiset.mem_singleton] at hx
    cases hx
    cases h

/-- A caller of a bucket is given no place but one with the next number. -/
theorem ticket_of_askToken {w : World} {id : ComponentId} {caller : TaskId}
    (h : x.ticket? = some ticket) (hx : x ∈ ofTokenAnswer id (w.askToken id caller).1) :
    ticket = w.serial := by
  cases hc : w.buckets.get? id with
  | none =>
    simp only [World.askToken, hc, ofTokenAnswer, Multiset.notMem_zero] at hx
  | some c =>
    rw [w.askToken_of_some hc] at hx
    split at hx <;> simp only [ofTokenAnswer, Multiset.mem_singleton, Multiset.notMem_zero] at hx
    cases hx
    exact (Option.some.inj h).symm

end Hold

/-- **Every place that is handed out has a new ticket.** -/
theorem Act.places {w w' : World} {H H' : Multiset Hold} (h : Act ⟨w, H⟩ ⟨w', H'⟩) {x : Hold}
    {ticket : Ticket} (hx : x.ticket? = some ticket) :
    H'.count x ≤ H.count x ∨ w.serial ≤ ticket := by
  have handOut {A : Multiset Hold} (hA : x ∈ A → ticket = w.serial) :
      (A + H).count x ≤ H.count x ∨ w.serial ≤ ticket := by
    by_cases hmem : x ∈ A
    · exact .inr (hA hmem).ge
    · exact .inl (Hold.count_add_of_not_mem hmem H).le
  cases h with
  | idle | pass | openBreaker | createLimiter | nameLimiter | createBucket | nameBucket
    | createCache | createSource | invoke | resetBreaker | refillBucket | shutDownBucket
    | readCache | writeCache | sweepCache | handleCache => exact .inl (le_refl _)
  | record | forgo | releaseSlot | leaveSlot | pickUpToken | refuseToken | leaveToken =>
    exact .inl (Multiset.count_le_count_cons ..)
  | enter => exact handOut fun hmem => absurd hmem (Hold.not_mem_admission hx _ _)
  | askSlot => exact handOut (Hold.ticket_of_askSlot hx)
  | pickUpSlot =>
    refine .inl ?_
    rw [Multiset.count_cons_of_ne (by rintro rfl; cases hx)]
    exact Multiset.count_le_count_cons ..
  | askToken => exact handOut (Hold.ticket_of_askToken hx)

namespace Scene

variable {sc sc' : Scene} {x : Hold} {ticket : Ticket}

theorem Later.serial (h : sc.Later sc') : sc.world.serial ≤ sc'.world.serial := by
  induction h with
  | refl => exact le_refl _
  | act _ hact ih => exact ih.trans hact.grows.serial
  | outside _ _ _ ih => exact ih

/-- **A place that nobody holds any more is never held again.** -/
theorem Later.not_mem_place (h : sc.Later sc') (hx : x.ticket? = some ticket)
    (hticket : ticket < sc.world.serial) (hnot : x ∉ sc.holds) : x ∉ sc'.holds := by
  induction h with
  | refl => exact hnot
  | @act sc₁ sc₂ hlater hact ih =>
    rcases hact.places hx with hle | hnew
    · rw [← Multiset.count_eq_zero] at ih ⊢
      exact Nat.eq_zero_of_le_zero (ih ▸ hle)
    · exact absurd hnew (Nat.not_le.mpr (hticket.trans_le hlater.serial))
  | outside _ _ _ ih => exact ih

/-- Tickets of places that are held were given out before. -/
theorem Reachable.ticket_lt (h : sc.Reachable) (hx : x.ticket? = some ticket)
    (hmem : x ∈ sc.holds) : ticket < sc.world.serial := by
  by_contra hnew
  have hcount := Multiset.count_pos.mpr hmem
  cases x with
  | place id t =>
    cases hx
    exact Nat.ne_of_gt hcount
      ((Limiter.numbered_of_reachable h).tickets_lt id (Nat.le_of_not_lt hnew))
  | tokenPlace id t =>
    cases hx
    exact Nat.ne_of_gt hcount (h.tokenPlacesNumbered.fresh id (Nat.le_of_not_lt hnew))
  | admission | slot => cases hx

/-- **A place is held by one caller at most.** -/
theorem Reachable.count_place_le (h : sc.Reachable) (hx : x.ticket? = some ticket) :
    sc.holds.count x ≤ 1 := by
  cases x with
  | place id t =>
    cases hc : sc.world.limiters.get? id with
    | none => exact ((Limiter.numbered_of_reachable h).places hc t).trans_le (Nat.zero_le _)
    | some c =>
      obtain ⟨moves, hshows⟩ := Limiter.exists_history h hc
      rw [← hshows.tickets]
      exact List.nodup_iff_count_le_one.mp
        (Limiter.History.sound_run c.config moves).distinct t
  | tokenPlace id t =>
    cases hc : sc.world.buckets.get? id with
    | none => exact (h.tokenPlacesNumbered.known hc t).trans_le (Nat.zero_le _)
    | some c =>
      obtain ⟨created, moves, hshows⟩ := Bucket.Register.exists_register h hc
      rw [← hshows.tickets]
      exact List.nodup_iff_count_le_one.mp
        (Bucket.Register.sound_run c.config created moves).listed.distinct t
  | admission | slot => cases hx

end Scene

/-- **Nobody stands in a line who does not hold a place.** -/
theorem Hold.Stands.mem_holds {sc : Scene} {x : Hold} (h : x.Stands sc.world)
    (hsc : sc.Reachable) : x ∈ sc.holds := by
  cases x with
  | place id t =>
    obtain ⟨c, hc, hstands⟩ := h
    obtain ⟨moves, hshows⟩ := Limiter.exists_history hsc hc
    have hs := Limiter.History.sound_run c.config moves
    rcases hstands with hwaits | hgranted
    · have hline := hshows.inLine_eq hs
      have hmem : t ∈ Scene.inLine id c.state.granted sc.holds := hline ▸ hwaits
      have hplace := (Multiset.mem_filter.mp hmem).1
      rwa [← Multiset.count_pos, Hold.count_filterMap_place?, Multiset.count_pos] at hplace
    · exact (hshows.conserved hs).2.2.2 t hgranted
  | tokenPlace id t =>
    obtain ⟨c, hc, hticket⟩ := h
    obtain ⟨created, moves, hshows⟩ := Bucket.exists_history hsc hc
    exact Multiset.count_pos.mp ((List.count_pos_iff.mpr hticket).trans_le (hshows.places t))
  | admission | slot => exact h.elim

end Resilience
