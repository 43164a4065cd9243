import Resilience.Proofs.Bucket.Register
import Resilience.Proofs.Bucket.Scene

/-!
# The callers of a bucket in scenes

Every bucket of a scene has a register: moves that lead a new bucket to the state that it is in,
with one visit for every call that came. The places in its line, and the tokens and dismissals
that were not picked up, are those of its visits, each held by the one caller that has the ticket
(`Register.Shows`).

A ticket is a number that was not given out before, so a caller never comes with one that is in
use (`TokenPlacesNumbered`).
-/

namespace Resilience

/-! ### Numbers in a scene -/

/-- The tickets of places in lines were given out before, and only buckets that are there have
lines. -/
structure TokenPlacesNumbered (sc : Scene) : Prop where
  known {id : ComponentId} : sc.world.buckets.get? id = none → ∀ ticket,
    sc.holds.count (.tokenPlace id ticket) = 0
  fresh (id : ComponentId) {ticket : Ticket} : sc.world.serial ≤ ticket →
    sc.holds.count (.tokenPlace id ticket) = 0

/-- Only a caller that asks for a token is given a new place, in the line of a bucket that is
there and with a ticket that is new. -/
theorem Act.tokenPlaces {w w' : World} {H H' : Multiset Hold} (h : Act ⟨w, H⟩ ⟨w', H'⟩)
    (id : ComponentId) (ticket : Ticket) :
    H'.count (.tokenPlace id ticket) ≤ H.count (.tokenPlace id ticket) ∨
      (w.buckets.has id = true ∧ ticket < w'.serial) := by
  have handOut {A : Multiset Hold} (hA : .tokenPlace id ticket ∉ A) :
      (A + H).count (.tokenPlace id ticket) ≤ H.count (.tokenPlace id ticket) :=
    (Hold.count_add_of_not_mem hA H).le
  cases h with
  | idle | pass | openBreaker | createLimiter | nameLimiter | createBucket | nameBucket
    | createCache | createSource | invoke | resetBreaker | refillBucket | shutDownBucket
    | readCache | writeCache | sweepCache | handleCache => exact .inl (le_refl _)
  | record | forgo | releaseSlot | leaveSlot | pickUpToken | refuseToken | leaveToken =>
    exact .inl (Multiset.count_le_count_cons ..)
  | enter => exact .inl (handOut (Breaker.Admission.not_mem_holds (by simp)))
  | askSlot => exact .inl (handOut (Hold.not_mem_ofSlotAnswer (by simp) (by simp)))
  | pickUpSlot => simp
  -- The only act that gives out a place: it is given out with the next number, and taken by one
  -- who is taken into line.
  | @askToken _ _ bucket caller hbucket =>
    obtain ⟨c, hc⟩ := Option.isSome_iff_exists.mp hbucket
    have hask := w.askToken_of_some hc caller
    dsimp only at hask
    cases hadmission : (c.state.acquire c.config w.now ⟨w.serial, caller, true⟩).1 with
    | queued =>
      rw [hadmission] at hask
      rw [hask]
      by_cases hplace : Hold.tokenPlace id ticket = .tokenPlace bucket w.serial
      · obtain ⟨rfl, rfl⟩ := Hold.tokenPlace.inj hplace
        exact .inr ⟨hbucket, Nat.lt_succ_self _⟩
      · exact .inl (handOut (by simpa [Hold.ofTokenAnswer] using hplace))
    | admitted | closed =>
      rw [hadmission] at hask
      rw [hask]
      exact .inl (handOut (Multiset.notMem_zero _))

theorem Scene.Reachable.tokenPlacesNumbered {sc : Scene} (h : sc.Reachable) :
    TokenPlacesNumbered sc := by
  induction h with
  | empty => exact ⟨fun _ _ => rfl, fun _ _ _ => rfl⟩
  | outside _ _ _ ih => exact ⟨ih.known, ih.fresh⟩
  | @act sc sc' hsc hact ih =>
    refine ⟨fun {id} hnone ticket => ?_, fun id ticket hticket => ?_⟩
    -- A bucket that is not there was not there before.
    · have hgone : sc.world.buckets.get? id = none := by
        by_contra hsome
        have hhas : sc'.world.buckets.has id = true :=
          hact.grows.buckets (Option.isSome_iff_ne_none.mpr hsome)
        rw [Table.has, hnone] at hhas
        cases hhas
      rcases hact.tokenPlaces id ticket with hle | ⟨hhas, -⟩
      · exact Nat.eq_zero_of_le_zero (ih.known hgone ticket ▸ hle)
      · rw [Table.has, hgone] at hhas
        cases hhas
    · rcases hact.tokenPlaces id ticket with hle | ⟨-, hlt⟩
      · have hzero := ih.fresh id (hact.grows.serial.trans hticket)
        exact Nat.eq_zero_of_le_zero (hzero ▸ hle)
      · exact absurd hticket (Nat.not_le.mpr hlt)

namespace Bucket

/-! ### The register of a bucket -/

namespace Register

/-- The register has come to the state of a bucket at a time, with a visit for each place in its
line, or word that was not picked up, that somebody holds. -/
structure Shows (id : ComponentId) (b : Bucket) (now : Instant) (H : Multiset Hold)
    (r : Register) : Prop where
  state : r.bucket = b
  clock : r.now = now
  tickets (ticket : Ticket) :
    (r.visits.filterMap Visit.ticket?).count ticket = H.count (.tokenPlace id ticket)

/-- A visit ends, and its ticket is not in use any more. -/
private theorem perm_tickets_turn {r : Register} {ticket : Ticket} {v : Visit}
    (hmem : ticket ∈ r.visits.filterMap Visit.ticket?) (hv : v.ticket? = none) :
    (r.visits.filterMap Visit.ticket?).Perm
      (ticket :: (r.turn ticket v).visits.filterMap Visit.ticket?) := by
  obtain ⟨x, hx, hxt⟩ := exists_number hmem
  obtain ⟨before, after, hsplit, hset⟩ := Visits.exists_around hx
  have hturn : (r.turn ticket v).visits = before ++ v :: after := hset v
  rw [hturn, hsplit, List.filterMap_append, List.filterMap_append, List.filterMap_cons_some hxt,
    List.filterMap_cons_none hv]
  exact List.perm_middle

/-- A caller has a ticket exactly if it was taken into line. -/
private theorem count_stand (id : ComponentId) (ticket t : Ticket) (admission : Admission) :
    ([stand ticket admission].filterMap Visit.ticket?).count t =
      (admission.holds id ticket).count (.tokenPlace id t) := by
  cases admission with
  | admitted | closed => rfl
  | queued =>
    by_cases heq : ticket = t
    · simp [heq, stand, Visit.ticket?, Admission.holds]
    · simp [heq, Ne.symm heq, stand, Visit.ticket?, Admission.holds]

namespace Shows

variable {id : ComponentId} {config : Config} {b b' : Bucket} {now now' : Instant}
  {H H' : Multiset Hold} {r : Register} {ticket : Ticket}

/-- The caller with a ticket gives back its place. -/
private theorem tickets_turn (hs : Shows id b now (.tokenPlace id ticket ::ₘ H) r) {v : Visit}
    (hv : v.ticket? = none) (t : Ticket) :
    ((r.turn ticket v).visits.filterMap Visit.ticket?).count t =
      H.count (.tokenPlace id t) := by
  have hmem : ticket ∈ r.visits.filterMap Visit.ticket? :=
    List.count_pos_iff.mp (by rw [hs.tickets, Multiset.count_cons_self]; omega)
  have hcount := hs.tickets t
  rw [(perm_tickets_turn hmem hv).count_eq, List.count_cons] at hcount
  by_cases heq : ticket = t
  · subst heq
    rw [Multiset.count_cons_self] at hcount
    simpa using hcount
  · rw [Multiset.count_cons_of_ne (by simp [Ne.symm heq])] at hcount
    simpa [heq] using hcount

/-- **What an act is for a bucket is at most one move of its register.** -/
theorem turned (hturned : Turned id config ticket now b H now' b' H')
    (hnew : H.count (.tokenPlace id ticket) = 0) (hs : Shows id b now H r) :
    ∃ move? : Option Move,
      Shows id b' now' H' (move?.toList.foldl (Register.step config) r) := by
  cases hturned with
  | still hholds =>
    exact ⟨none, hs.state, hs.clock, fun t => (hs.tickets t).trans (hholds t).symm⟩
  | pass instant =>
    exact ⟨some (.pass instant), hs.state, congrArg (max · instant) hs.clock, hs.tickets⟩
  | ask caller =>
    obtain ⟨rfl, rfl, tickets⟩ := hs
    -- The ticket is new, so none of the visits has it.
    have hunused : ticket ∉ r.visits.filterMap Visit.ticket? :=
      List.count_eq_zero.mp ((tickets ticket).trans hnew)
    refine ⟨some (.ask ticket caller), ?_⟩
    simp only [Option.toList_some, List.foldl_cons, List.foldl_nil, Register.step]
    rw [ask_of_not_mem hunused]
    refine ⟨rfl, now_handAll .., fun t => ?_⟩
    dsimp only [come]
    rw [List.filterMap_append, filterMap_ticket?_handAll, List.count_append, tickets,
      Multiset.count_add, Nat.add_comm, count_stand]
  | @pickUp H t b' hpick =>
    have htickets := hs.tickets_turn (v := .inside) rfl
    obtain ⟨rfl, rfl, -⟩ := hs
    refine ⟨some (.pickUp t), ?_⟩
    simp only [Option.toList_some, List.foldl_cons, List.foldl_nil, Register.step,
      Register.pickUp, hpick]
    exact ⟨rfl, rfl, htickets⟩
  | @refuse H t hpick hclosed =>
    have htickets := hs.tickets_turn (v := .refused) rfl
    obtain ⟨rfl, rfl, -⟩ := hs
    refine ⟨some (.pickUp t), ?_⟩
    simp only [Option.toList_some, List.foldl_cons, List.foldl_nil, Register.step,
      Register.pickUp, hpick, hclosed, if_true]
    exact ⟨rfl, rfl, htickets⟩
  | @leave H t =>
    -- A token that waits to be picked up goes with the caller.
    have hv : (if t ∈ b.granted then Visit.lost else .gaveUp).ticket? = none := by
      split <;> rfl
    have htickets := hs.tickets_turn hv
    obtain ⟨rfl, rfl, -⟩ := hs
    exact ⟨some (.giveUp t), rfl, rfl, htickets⟩
  | refill =>
    obtain ⟨rfl, rfl, tickets⟩ := hs
    refine ⟨some .refill, ?_⟩
    simp only [Option.toList_some, List.foldl_cons, List.foldl_nil, Register.step]
    rw [refill_eq]
    exact ⟨rfl, now_handAll .., fun t => filterMap_ticket?_handAll _ r ▸ tickets t⟩
  | shutDown =>
    obtain ⟨rfl, rfl, tickets⟩ := hs
    refine ⟨some .shutDown, ?_⟩
    simp only [Option.toList_some, List.foldl_cons, List.foldl_nil, Register.step]
    rw [shutDown_eq]
    exact ⟨rfl, now_dismissAll .., fun t => filterMap_ticket?_dismissAll _ r ▸ tickets t⟩

/-- A bucket that was not there begins with an empty register. -/
private theorem born {w w' : World} {c' : Component Config Bucket}
    (hn : TokenPlacesNumbered ⟨w, H⟩) (hact : Act ⟨w, H⟩ ⟨w', H'⟩)
    (hnone : w.buckets.get? id = none) (hc' : w'.buckets.get? id = some c') :
    Shows id c'.state w'.now H' (create c'.config w'.now) := by
  refine ⟨(Bucket.Shows.born hact.onBuckets hnone hc').state, rfl, fun ticket => ?_⟩
  rcases hact.tokenPlaces id ticket with hle | ⟨hhas, -⟩
  · have hzero := hn.known hnone ticket
    exact (Nat.eq_zero_of_le_zero (hzero ▸ hle)).symm
  · rw [Table.has, hnone] at hhas
    cases hhas

/-- **However a scene goes on, so does the register of each of its buckets.** -/
theorem steps {sc sc' : Scene} (h : sc.Reachable) (hsteps : Steps sc sc')
    {c : Component Config Bucket} (hc : sc.world.buckets.get? id = some c) {created : Instant}
    {moves : List Move}
    (hshows : Shows id c.state sc.world.now sc.holds (run c.config created moves)) :
    ∃ b, sc'.world.buckets.get? id = some { c with state := b } ∧ ∃ more : List Move,
      Shows id b sc'.world.now sc'.holds (run c.config created (moves ++ more)) := by
  induction hsteps with
  | refl => exact ⟨c.state, hc, [], by rwa [List.append_nil]⟩
  | @tail sc₁ sc₂ hfirst hact ih =>
    obtain ⟨b, hb, more, hs⟩ := ih
    have hreach := h.steps hfirst
    obtain ⟨b', hb', hturned⟩ := Turned.of_act hreach.bucketsNumbered hact.onBuckets hb
    have hnew := hreach.tokenPlacesNumbered.fresh id (le_refl sc₁.world.serial)
    obtain ⟨move?, hs'⟩ := hs.turned hturned hnew
    refine ⟨b', hb', more ++ move?.toList, ?_⟩
    rw [← List.append_assoc, run_append]
    exact hs'

end Shows

/-- **Every bucket of a scene has a register.** -/
theorem exists_register {sc : Scene} {id : ComponentId} {c : Component Config Bucket}
    (h : sc.Reachable) (hc : sc.world.buckets.get? id = some c) :
    ∃ created moves, Shows id c.state sc.world.now sc.holds (run c.config created moves) := by
  induction h generalizing c with
  | empty => cases hc
  | outside _ _ _ ih => exact ih hc
  | @act sc₁ sc₂ hsc hact ih =>
    -- The act has created the bucket, or it is a move of its register.
    cases hc₁ : sc₁.world.buckets.get? id with
    | none => exact ⟨sc₂.world.now, [], Shows.born hsc.tokenPlacesNumbered hact hc₁ hc⟩
    | some c₁ =>
      obtain ⟨created, moves, hshows⟩ := ih hc₁
      obtain ⟨b, hb, more, hmore⟩ := Shows.steps hsc (.single hact) hc₁ hshows
      obtain rfl := Option.some.inj (hb.symm.trans hc)
      exact ⟨created, moves ++ more, hmore⟩

end Register

end Bucket

end Resilience
