import Resilience.Proofs.Bucket.Callers

/-!
# A closed bucket

Closing a bucket dissolves its line, and after that nothing in the bucket can change any more
except that callers which were handed a token before take it up or lose it. So the fate of every
caller is settled by where it stands when the bucket is closed (`Visit.fates`): one that waits is
told that the bucket is closed or gives up, and one that was handed a token goes on with it or is
cancelled.

`Register.Final` says so of one bucket and whatever moves follow, and `stays_closed` of a bucket in
a world in which everything else goes on.
-/

namespace Resilience

/-! ### What a closed bucket answers -/

namespace Bucket

section Closed

variable {config : Config} {now : Instant} {b : Bucket}

theorem refill_of_closed (h : b.closed = true) : b.refill config now = ([], b) :=
  refill_of_not_due (by simp [refillDue, h])

theorem acquire_of_closed (h : b.closed = true) (w : Waiter) :
    b.acquire config now w = (.closed, [], b) := by
  simp [acquire, h]

theorem shutDown_of_closed (h : b.closed = true) (hq : b.queue = []) : b.shutDown = ([], b) := by
  obtain ⟨tokens, lastRefill, queue, granted, closed⟩ := b
  obtain rfl : closed = true := h
  obtain rfl : queue = [] := hq
  rfl

end Closed

/-! ### The fates of visits -/

namespace Visit

/-- What a visit may be from the moment on at which the bucket is closed. -/
def fates : Visit → List Visit
  | waiting ticket => [dismissed ticket, refused, gaveUp]
  | dismissed ticket => [dismissed ticket, refused, gaveUp]
  | granted ticket => [granted ticket, inside, lost]
  | v => [v]

theorem fates_trans {v v' v'' : Visit} (h : v' ∈ v.fates) (h' : v'' ∈ v'.fates) :
    v'' ∈ v.fates := by
  cases v with
  | inside | lost | gaveUp | refused =>
    obtain rfl := List.mem_singleton.mp h
    exact h'
  | waiting ticket | dismissed ticket | granted ticket =>
    simp only [fates, List.mem_cons, List.not_mem_nil, or_false] at h
    rcases h with rfl | rfl | rfl <;> simp_all [fates]

/-- A visit of a closed bucket gets no new ticket. -/
theorem ticket?_of_fates {v v' : Visit} {ticket : Ticket} (h : v' ∈ v.fates)
    (hticket : v'.ticket? = some ticket) : v.ticket? = some ticket := by
  cases v with
  | inside | lost | gaveUp | refused =>
    obtain rfl := List.mem_singleton.mp h
    exact hticket
  | waiting | dismissed | granted =>
    simp only [fates, List.mem_cons, List.not_mem_nil, or_false] at h
    rcases h with rfl | rfl | rfl <;> simp_all [ticket?]

/-- Whoever was handed a token keeps it until it takes it up, and nobody else is handed one. -/
theorem eq_granted_iff_of_fates {v v' : Visit} {ticket : Ticket} (h : v' ∈ v.fates)
    (hticket : v'.ticket? = some ticket) : v' = .granted ticket ↔ v = .granted ticket := by
  cases v with
  | inside | lost | gaveUp | refused =>
    obtain rfl := List.mem_singleton.mp h
    exact Iff.rfl
  | waiting | dismissed | granted =>
    simp only [fates, List.mem_cons, List.not_mem_nil, or_false] at h
    rcases h with rfl | rfl | rfl <;> simp_all [ticket?]

end Visit

namespace Register

/-- Every visit has met one of its fates, and whoever came later was refused. -/
structure Fated (visits visits' : List Visit) : Prop where
  fates {n : Nat} {v : Visit} : visits[n]? = some v → ∃ v', visits'[n]? = some v' ∧ v' ∈ v.fates
  later {n : Nat} {v : Visit} : visits.length ≤ n → visits'[n]? = some v → v = .refused

variable {config : Config} {r r' : Register} {visits visits' : List Visit} {n : Nat}
  {v u : Visit} {ticket : Ticket}

theorem Fated.set (h : Fated visits visits') (hn : visits'[n]? = some v) (hu : u ∈ v.fates) :
    Fated visits (visits'.set n u) := by
  have hlt := (List.getElem?_eq_some_iff.mp hn).1
  refine ⟨fun {m x} hm => ?_, fun {m x} hm hx => ?_⟩
  · obtain ⟨x', hx', hfate⟩ := h.fates hm
    rw [List.getElem?_set, if_pos hlt]
    by_cases heq : n = m
    · subst heq
      obtain rfl := Option.some.inj (hn.symm.trans hx')
      exact ⟨u, if_pos rfl, Visit.fates_trans hfate hu⟩
    · exact ⟨x', by rw [if_neg heq, hx'], hfate⟩
  · rw [List.getElem?_set, if_pos hlt] at hx
    by_cases heq : n = m
    · subst heq
      rw [if_pos rfl] at hx
      obtain rfl := h.later hm hn
      obtain rfl := Option.some.inj hx
      exact List.mem_singleton.mp hu
    · rw [if_neg heq] at hx
      exact h.later hm hx

/-- Whoever has a ticket had it before. -/
theorem Fated.exists_before (h : Fated visits visits') (hn : visits'[n]? = some v)
    (hticket : v.ticket? = some ticket) : ∃ u, visits[n]? = some u ∧ v ∈ u.fates := by
  cases hbefore : visits[n]? with
  | none =>
    obtain rfl := h.later (List.getElem?_eq_none_iff.mp hbefore) hn
    cases hticket
  | some u =>
    obtain ⟨v', hv', hfate⟩ := h.fates hbefore
    obtain rfl := Option.some.inj (hn.symm.trans hv')
    exact ⟨u, rfl, hfate⟩

/-- Somebody comes and is refused. -/
theorem Fated.come (h : Fated visits visits') : Fated visits (visits' ++ [.refused]) where
  fates hm := by
    obtain ⟨x', hx', hfate⟩ := h.fates hm
    have hlt := (List.getElem?_eq_some_iff.mp hx').1
    exact ⟨x', by rw [List.getElem?_append_left hlt, hx'], hfate⟩
  later {m x} hm hx := by
    rw [List.getElem?_append] at hx
    split at hx
    · exact h.later hm hx
    · exact List.mem_singleton.mp (List.mem_of_getElem? hx)

/-- **The bucket is closed for good.** Compared with the register before it was closed, no token was
handed out, there are as many as there were, nobody is in line, and every visit has met one of its
fates. -/
structure Final (r r' : Register) : Prop where
  closed : r'.bucket.closed = true
  queue : r'.bucket.queue = []
  tokens : r'.bucket.tokens = r.bucket.tokens
  lastRefill : r'.bucket.lastRefill = r.bucket.lastRefill
  handed : r'.handed = r.handed
  fated : Fated r.visits r'.visits

theorem handed_dismissAll (told : List Waiter) (r : Register) :
    (told.foldl dismiss r).handed = r.handed := by
  induction told generalizing r with
  | nil => rfl
  | cons w told ih => exact ih (r.dismiss w)

theorem length_dismissAll (told : List Waiter) (r : Register) :
    (told.foldl dismiss r).visits.length = r.visits.length := by
  induction told generalizing r with
  | nil => rfl
  | cons w told ih => exact (ih (r.dismiss w)).trans (List.length_set ..)

/-- Those who wait are told that the bucket is closed, and nothing happens to the others. -/
private theorem Listed.getElem?_dismissAll {line granted : List Ticket} {told : List Waiter}
    (hl : Listed (told.map (·.ticket) ++ line) granted r.visits r.handed)
    (hn : r.visits[n]? = some v) : ∃ v', (told.foldl Register.dismiss r).visits[n]? = some v' ∧
      (v' = v ∨ ∃ ticket, v = .waiting ticket ∧ v' = .dismissed ticket) := by
  induction told generalizing r v with
  | nil => exact ⟨v, hn, .inl rfl⟩
  | cons w told ih =>
    have hfirst := hl.waits
    have hlt := (List.getElem?_eq_some_iff.mp hfirst).1
    have hget : (r.dismiss w).visits[n]? = if number w.ticket r.visits = n then
        some (.dismissed w.ticket) else r.visits[n]? := by
      rw [Register.dismiss, turn, List.getElem?_set, if_pos hlt]
    -- The first of those who are told, or somebody else; nobody is told twice.
    by_cases heq : number w.ticket r.visits = n
    · rw [heq, hn] at hfirst
      rw [if_pos heq] at hget
      obtain ⟨v', hv', hsame | ⟨ticket, hwaits, -⟩⟩ := ih (r := r.dismiss w) hl.dismiss hget
      · exact ⟨v', hv', .inr ⟨w.ticket, Option.some.inj hfirst, hsame⟩⟩
      · cases hwaits
    · rw [if_neg heq, hn] at hget
      exact ih (r := r.dismiss w) hl.dismiss hget

theorem final_shutDown (hs : Sound r) : Final r r.shutDown := by
  have hline : Queue.waiting r.bucket.queue = (Queue.purge r.bucket.queue).map (·.ticket) ++ [] :=
    (List.append_nil _).symm
  have hlisted := hs.listed
  rw [hline] at hlisted
  -- Nobody waits afterwards.
  have hnobody := hlisted.dismissAll.line
  rw [shutDown_eq]
  refine ⟨rfl, rfl, rfl, rfl, handed_dismissAll _ r, ⟨fun {n v} hn => ?_, fun {n v} hn hv => ?_⟩⟩
  · obtain ⟨v', hv', hsame | ⟨ticket, rfl, rfl⟩⟩ := hlisted.getElem?_dismissAll hn
    · subst hsame
      refine ⟨v', hv', ?_⟩
      cases v' with
      | waiting ticket =>
        have hmem : ticket ∈ ([] : List Ticket) :=
          hnobody ▸ List.mem_filterMap.mpr ⟨_, List.mem_of_getElem? hv', rfl⟩
        cases hmem
      | _ => simp [Visit.fates]
    · exact ⟨_, hv', by simp [Visit.fates]⟩
  · have hlength := length_dismissAll (Queue.purge r.bucket.queue) r
    rw [List.getElem?_eq_none (hlength.trans_le hn)] at hv
    cases hv

/-- A bucket that is closed was closed for good. -/
theorem final_of_closed (hs : Sound r) (hclosed : r.bucket.closed = true) : Final r r where
  closed := hclosed
  queue := hs.closed hclosed
  tokens := rfl
  lastRefill := rfl
  handed := rfl
  fated := {
    fates := fun {n v} hn => by
      refine ⟨v, hn, ?_⟩
      cases v with
      | waiting ticket =>
        have hmem := (hs.listed.mem_line_iff hn rfl).mpr rfl
        rw [hs.closed hclosed] at hmem
        cases hmem
      | _ => simp [Visit.fates]
    later := fun hn hv => by
      rw [List.getElem?_eq_none hn] at hv
      cases hv }

namespace Final

/-- A caller with a ticket learns how its visit ends. -/
private theorem turn (hf : Final r r') (hn : r'.visits[number ticket r'.visits]? = some v)
    (hu : u ∈ v.fates) : Fated r.visits (r'.turn ticket u).visits := hf.fated.set hn hu

private theorem ask (hf : Final r r') (ticket : Ticket) (caller : TaskId) :
    Final r (r'.ask config ticket caller) := by
  by_cases hused : ticket ∈ r'.visits.filterMap Visit.ticket?
  · rwa [Register.ask, if_pos hused]
  · rw [ask_of_not_mem hused, acquire_of_closed hf.closed]
    exact { hf with
      handed := (List.append_nil _).trans hf.handed
      fated := hf.fated.come }

private theorem pickUp (hf : Final r r') (hs : Sound r') (ticket : Ticket) :
    Final r (r'.pickUp ticket) := by
  unfold Register.pickUp pickUp?
  by_cases hmem : ticket ∈ r'.bucket.granted
  · obtain ⟨v, hn, hv⟩ := hs.listed.exists_visit (.inr hmem)
    obtain rfl := (hs.listed.mem_granted_iff hn hv).mp hmem
    rw [if_pos hmem]
    exact { hf with fated := hf.turn hn (by simp [Visit.fates]) }
  · rw [if_neg hmem]
    dsimp only
    rw [if_pos hf.closed]
    by_cases hused : ticket ∈ r'.visits.filterMap Visit.ticket?
    · obtain ⟨v, hn, hv⟩ := exists_number hused
      obtain rfl := hs.listed.eq_dismissed hn hv (by simp [hf.queue]) hmem
      exact ⟨hf.closed, hf.queue, hf.tokens, hf.lastRefill, hf.handed,
        hf.turn hn (by simp [Visit.fates])⟩
    · rwa [turn_of_not_mem hused]

private theorem giveUp (hf : Final r r') (hs : Sound r') (ticket : Ticket) :
    Final r (r'.giveUp ticket) := by
  unfold Register.giveUp Bucket.giveUp
  by_cases hmem : ticket ∈ r'.bucket.granted
  · obtain ⟨v, hn, hv⟩ := hs.listed.exists_visit (.inr hmem)
    obtain rfl := (hs.listed.mem_granted_iff hn hv).mp hmem
    rw [if_pos hmem, if_pos hmem]
    exact { hf with fated := hf.turn hn (by simp [Visit.fates]) }
  · rw [if_neg hmem, if_neg hmem]
    have hqueue : Queue.giveUp ticket r'.bucket.queue = [] := by rw [hf.queue]; rfl
    refine { hf with queue := hqueue, fated := ?_ }
    by_cases hused : ticket ∈ r'.visits.filterMap Visit.ticket?
    · obtain ⟨v, hn, hv⟩ := exists_number hused
      obtain rfl := hs.listed.eq_dismissed hn hv (by simp [hf.queue]) hmem
      exact hf.turn hn (by simp [Visit.fates])
    · rw [turn_of_not_mem hused]
      exact hf.fated

/-- **No move opens a closed bucket again**, hands out a token or changes a fate. -/
theorem step (hf : Final r r') (hs : Sound r') (move : Move) :
    Final r (r'.step config move) := by
  cases move with
  | ask ticket caller => exact hf.ask ticket caller
  | refill =>
    rw [Register.step, refill_eq, refill_of_closed hf.closed]
    exact hf
  | pickUp ticket => exact hf.pickUp hs ticket
  | giveUp ticket => exact hf.giveUp hs ticket
  | pass instant => exact { hf with }
  | shutDown =>
    rw [Register.step, shutDown_eq, shutDown_of_closed hf.closed hf.queue, hf.queue]
    exact hf

theorem foldl (hf : Final r r') (hs : Sound r') (config : Config) (moves : List Move) :
    Final r (moves.foldl (Register.step config) r') := by
  induction moves generalizing r' with
  | nil => exact hf
  | cons move moves ih => exact ih (hf.step hs move) (hs.step move)

end Final

/-! ### Nobody is told too early -/

/-- Nobody was told that the bucket is closed. -/
def Untold (visits : List Visit) : Prop := ∀ ticket, .dismissed ticket ∉ visits

theorem Untold.set (h : Untold visits) (n : Nat) (hu : ∀ t, u ≠ .dismissed t) :
    Untold (visits.set n u) := fun t ht =>
  (List.mem_or_eq_of_mem_set ht).elim (h t) fun heq => hu t heq.symm

private theorem Untold.handAll {served : List Waiter} (h : Untold r.visits) :
    Untold (served.foldl hand r).visits := by
  induction served generalizing r with
  | nil => exact h
  | cons w served ih => exact ih (r := r.hand w) (h.set _ (by simp))

private theorem untold_step (h : r.bucket.closed = false → Untold r.visits) (move : Move)
    (hopen : (r.step config move).bucket.closed = false) :
    Untold (r.step config move).visits := by
  -- Only the shutdown dismisses anybody, and it closes the bucket. The other moves find the bucket
  -- as open as they leave it.
  cases move with
  | ask ticket caller =>
    simp only [Register.step] at hopen ⊢
    by_cases hused : ticket ∈ r.visits.filterMap Visit.ticket?
    · rw [Register.ask, if_pos hused] at hopen ⊢
      exact h hopen
    rw [ask_of_not_mem hused] at hopen ⊢
    cases hclosed : r.bucket.closed with
    | true =>
      rw [acquire_of_closed hclosed] at hopen
      exact absurd (hclosed.symm.trans hopen) (by simp)
    | false =>
      intro t ht
      rcases List.mem_append.mp ht with hbefore | hnew
      · exact (h hclosed).handAll t hbefore
      · have hstand := List.mem_singleton.mp hnew
        cases hadmission : (r.bucket.acquire config r.now ⟨ticket, caller, true⟩).1 <;>
          simp [hadmission, stand] at hstand
  | refill =>
    simp only [Register.step] at hopen ⊢
    rw [refill_eq] at hopen ⊢
    exact (h ((History.closed_refill ..).symm.trans hopen)).handAll
  | pickUp ticket =>
    simp only [Register.step, Register.pickUp, pickUp?] at hopen ⊢
    by_cases hmem : ticket ∈ r.bucket.granted
    · rw [if_pos hmem] at hopen ⊢
      exact (h hopen).set _ (by simp)
    · rw [if_neg hmem] at hopen ⊢
      dsimp only at hopen ⊢
      by_cases hclosed : r.bucket.closed = true
      · rw [if_pos hclosed] at hopen
        exact absurd (hclosed.symm.trans hopen) (by simp)
      · rw [if_neg hclosed] at hopen ⊢
        exact h hopen
  | giveUp ticket =>
    simp only [Register.step, Register.giveUp, Bucket.giveUp] at hopen ⊢
    have hbefore : r.bucket.closed = false := by
      split at hopen <;> exact hopen
    exact (h hbefore).set _ (by split <;> simp)
  | pass instant => exact h hopen
  | shutDown =>
    simp only [Register.step] at hopen
    rw [shutDown_eq] at hopen
    cases hopen

/-- **Nobody is told that a bucket is closed while it is not.** -/
theorem untold_run (config : Config) (created : Instant) (moves : List Move)
    (hopen : (run config created moves).bucket.closed = false) :
    Untold (run config created moves).visits := by
  induction moves using List.reverseRecOn with
  | nil => exact fun ticket hmem => by cases hmem
  | append_singleton moves move ih =>
    rw [run_append] at hopen ⊢
    exact untold_step ih move hopen

end Register

end Bucket

/-! ### Closed buckets in scenes -/

/-- The scenes that acts lead to from a first one, while somebody outside may write into the events
and the log or clear them. -/
inductive Scene.Later (sc : Scene) : Scene → Prop
  | refl : Later sc sc
  | act {sc' sc'' : Scene} : Later sc sc' → Act sc' sc'' → Later sc sc''
  | outside {w : World} {H : Multiset Hold} (events : List Event)
      (log : List (Instant × Entry)) :
      Later sc ⟨w, H⟩ → Later sc ⟨{ w with events := events, log := log }, H⟩

namespace Scene

variable {sc sc' sc'' : Scene}

theorem Later.trans (h : sc.Later sc') (h' : sc'.Later sc'') : sc.Later sc'' := by
  induction h' with
  | refl => exact h
  | act _ hact ih => exact ih.act hact
  | outside events log _ ih => exact ih.outside events log

theorem Later.of_steps (h : Steps sc sc') : sc.Later sc' := by
  induction h with
  | refl => exact .refl
  | tail _ hact ih => exact ih.act hact

theorem Reachable.later (h : sc.Reachable) (hlater : sc.Later sc') : sc'.Reachable := by
  induction hlater with
  | refl => exact h
  | act _ hact ih => exact ih.act hact
  | outside events log _ ih => exact ih.outside events log

end Scene

namespace Bucket

open Register

variable {id : ComponentId}

/-- However a scene goes on, so does the register of each of its buckets. -/
theorem Register.Shows.later {sc sc' : Scene} (h : sc.Reachable) (hlater : sc.Later sc')
    {c : Component Config Bucket} (hc : sc.world.buckets.get? id = some c) {created : Instant}
    {moves : List Move}
    (hshows : Shows id c.state sc.world.now sc.holds (run c.config created moves)) :
    ∃ b, sc'.world.buckets.get? id = some { c with state := b } ∧ ∃ more : List Move,
      Shows id b sc'.world.now sc'.holds (run c.config created (moves ++ more)) := by
  induction hlater with
  | refl => exact ⟨c.state, hc, [], by rwa [List.append_nil]⟩
  | @act sc₁ sc₂ hfirst hact ih =>
    obtain ⟨b, hb, more, hs⟩ := ih
    obtain ⟨b', hb', more', hs'⟩ := Shows.steps (h.later hfirst) (.single hact) hb hs
    exact ⟨b', hb', more ++ more', by rwa [← List.append_assoc]⟩
  | outside events log _ ih => exact ih

/-- A closed bucket of a scene as it is later. Callers that were handed a token before may have
taken it up or lost it, and nothing else has changed; whoever still has a place had it then, with a
token or without. -/
structure StaysClosed (id : ComponentId) (b : Bucket) (H : Multiset Hold) (b' : Bucket)
    (H' : Multiset Hold) : Prop where
  closed : b'.closed = true
  queue : b'.queue = []
  tokens : b'.tokens = b.tokens
  lastRefill : b'.lastRefill = b.lastRefill
  granted {ticket : Ticket} : ticket ∈ b'.granted → ticket ∈ b.granted
  places {ticket : Ticket} : .tokenPlace id ticket ∈ H' →
    .tokenPlace id ticket ∈ H ∧ (ticket ∈ b'.granted ↔ ticket ∈ b.granted)

/-- What a register says about tokens and places after the bucket was closed. -/
private theorem Register.Final.staysClosed {r r' : Register} {b b' : Bucket} {now now' : Instant}
    {H H' : Multiset Hold} (hf : Final r r') (hs : Sound r) (hs' : Sound r')
    (hshows : Shows id b now H r) (hshows' : Shows id b' now' H' r') :
    StaysClosed id b H b' H' := by
  obtain ⟨rfl, -, htickets⟩ := hshows
  obtain ⟨rfl, -, htickets'⟩ := hshows'
  refine ⟨hf.closed, hf.queue, hf.tokens, hf.lastRefill, fun {ticket} hmem => ?_,
    fun {ticket} hmem => ?_⟩
  · obtain ⟨v', hn', hv'⟩ := hs'.listed.exists_visit (.inr hmem)
    obtain ⟨v, hn, hfate⟩ := hf.fated.exists_before hn' hv'
    have hgranted := (hs'.listed.mem_granted_iff hn' hv').mp hmem
    exact (hs.listed.mem_granted_iff hn (Visit.ticket?_of_fates hfate hv')).mpr
      ((Visit.eq_granted_iff_of_fates hfate hv').mp hgranted)
  · have hused : ticket ∈ r'.visits.filterMap Visit.ticket? :=
      List.count_pos_iff.mp (htickets' ticket ▸ Multiset.count_pos.mpr hmem)
    obtain ⟨v', hn', hv'⟩ := exists_number hused
    obtain ⟨v, hn, hfate⟩ := hf.fated.exists_before hn' hv'
    have hv := Visit.ticket?_of_fates hfate hv'
    have hmem' : ticket ∈ r.visits.filterMap Visit.ticket? :=
      List.mem_filterMap.mpr ⟨v, List.mem_of_getElem? hn, hv⟩
    refine ⟨Multiset.count_pos.mp (htickets ticket ▸ List.count_pos_iff.mpr hmem'), ?_⟩
    rw [hs'.listed.mem_granted_iff hn' hv', hs.listed.mem_granted_iff hn hv]
    exact Visit.eq_granted_iff_of_fates hfate hv'

/-- **A closed bucket stays closed**, whatever else happens in the world. -/
theorem stays_closed {sc sc' : Scene} (h : sc.Reachable) (hlater : sc.Later sc')
    {c : Component Config Bucket} (hc : sc.world.buckets.get? id = some c)
    (hclosed : c.state.closed = true) :
    ∃ b, sc'.world.buckets.get? id = some { c with state := b } ∧
      StaysClosed id c.state sc.holds b sc'.holds := by
  obtain ⟨created, moves, hshows⟩ := exists_register h hc
  obtain ⟨b, hb, more, hshows'⟩ := hshows.later h hlater hc
  have hs := sound_run c.config created moves
  have hs' := sound_run c.config created (moves ++ more)
  refine ⟨b, hb, ?_⟩
  have hf := (final_of_closed hs (hshows.state.symm ▸ hclosed)).foldl hs c.config more
  rw [← run_append] at hf
  exact hf.staysClosed hs hs' hshows hshows'

/-- Whoever has a place in a line of a scene waits in that line, was handed a token, or finds the
bucket closed. -/
theorem awaited {sc : Scene} (h : sc.Reachable) {c : Component Config Bucket}
    (hc : sc.world.buckets.get? id = some c) {ticket : Ticket}
    (hheld : .tokenPlace id ticket ∈ sc.holds) (hopen : c.state.closed = false)
    (hgranted : ticket ∉ c.state.granted) : ticket ∈ Queue.waiting c.state.queue := by
  obtain ⟨created, moves, hshows⟩ := exists_register h hc
  have hs := sound_run c.config created moves
  have huntold := untold_run c.config created moves (hshows.state.symm ▸ hopen)
  obtain ⟨hstate, -, htickets⟩ := hshows
  have hused : ticket ∈ (run c.config created moves).visits.filterMap Visit.ticket? :=
    List.count_pos_iff.mp (htickets ticket ▸ Multiset.count_pos.mpr hheld)
  obtain ⟨v, hn, hv⟩ := exists_number hused
  rw [← hstate] at hgranted ⊢
  by_contra hline
  obtain rfl := hs.listed.eq_dismissed hn hv hline hgranted
  exact huntold ticket (List.mem_of_getElem? hn)

/-- Whoever waits in line has that place alone, has not been handed a token, and waits for an open
bucket. -/
theorem in_line {sc : Scene} (h : sc.Reachable) {c : Component Config Bucket}
    (hc : sc.world.buckets.get? id = some c) {w : Waiter} (hw : w ∈ Queue.purge c.state.queue) :
    (∀ x ∈ Queue.purge c.state.queue, x.ticket = w.ticket → x = w) ∧
      w.ticket ∉ c.state.granted ∧ c.state.closed = false := by
  obtain ⟨created, moves, hshows⟩ := exists_register h hc
  have hs := sound_run c.config created moves
  have hline : w.ticket ∈ Queue.waiting c.state.queue := List.mem_map.mpr ⟨w, hw, rfl⟩
  rw [← hshows.state] at hw hline ⊢
  refine ⟨fun x hx heq => ?_, fun hgranted => ?_, Bool.eq_false_iff.mpr fun hclosed => ?_⟩
  · exact List.inj_on_of_nodup_map hs.listed.nodup_line hx hw heq
  · obtain ⟨v, hn, hv⟩ := hs.listed.exists_visit (.inl hline)
    have hwaits := (hs.listed.mem_line_iff hn hv).mp hline
    have hserved := (hs.listed.mem_granted_iff hn hv).mp hgranted
    cases hwaits.symm.trans hserved
  · rw [hs.closed hclosed] at hline
    cases hline

end Bucket

/-! ### What a world with a closed bucket answers -/

namespace World

variable {w : World} {id : ComponentId} {c : Component Bucket.Config Bucket}

/-- A bucket that does not change leaves the world as it is. -/
private theorem setBucket_self (hc : w.buckets.get? id = some c) :
    { w with buckets := w.buckets.set id c } = w := by
  rw [Table.set_of_get? hc]

theorem refillBucket_of_closed (hc : w.buckets.get? id = some c)
    (hclosed : c.state.closed = true) : w.refillBucket id = (0, w) := by
  rw [refillBucket_of_some hc, Bucket.refill_of_closed hclosed]
  exact congrArg (0, ·) (setBucket_self hc)

theorem askToken_of_closed (hc : w.buckets.get? id = some c) (hclosed : c.state.closed = true)
    (caller : TaskId) : w.askToken id caller = (.error (.closed c.name), w) := by
  have hask := w.askToken_of_some hc caller
  rw [Bucket.acquire_of_closed hclosed] at hask
  exact hask.trans (congrArg (Except.error (Rejection.closed c.name), ·) (setBucket_self hc))

theorem shutDownBucket_of_closed (hc : w.buckets.get? id = some c)
    (hclosed : c.state.closed = true) (hqueue : c.state.queue = []) :
    w.shutDownBucket id = w := by
  rw [shutDownBucket_of_some hc, Bucket.shutDown_of_closed hclosed hqueue, hqueue]
  exact setBucket_self hc

/-- Whoever was handed a token before the bucket was closed still gets it. -/
theorem pickUpToken_of_granted (hc : w.buckets.get? id = some c) {ticket : Ticket}
    (hgranted : ticket ∈ c.state.granted) : w.pickUpToken id ticket = .granted { w with
      buckets := w.buckets.set id { c with
        state := { c.state with granted := c.state.granted.erase ticket } } } := by
  unfold pickUpToken
  rw [hc]
  simp only [Bucket.pickUp?, if_pos hgranted]

/-- Whoever was not learns that the bucket is closed. -/
theorem pickUpToken_of_closed (hc : w.buckets.get? id = some c) {ticket : Ticket}
    (hgranted : ticket ∉ c.state.granted) (hclosed : c.state.closed = true) :
    w.pickUpToken id ticket = .refused (.closed c.name) := by
  unfold pickUpToken
  rw [hc]
  simp only [Bucket.pickUp?, if_neg hgranted, hclosed, if_true]

theorem get?_shutDownBucket (w : World) (id other : ComponentId) :
    (w.shutDownBucket id).buckets.get? other = if id = other then
      (w.buckets.get? other).map fun c => { c with state := c.state.shutDown.2 }
      else w.buckets.get? other := by
  cases hc : w.buckets.get? id with
  | none =>
    rw [shutDownBucket_of_none hc]
    split
    · next heq => rw [← heq, hc]; rfl
    · rfl
  | some c =>
    rw [shutDownBucket_of_some hc, buckets_wakeAll, Table.get?_set]
    split
    · next heq => rw [← heq, hc]; rfl
    · rfl

/-- **Closing the registry closes every bucket that it has.** -/
theorem get?_shutDown (w : World) (id : ComponentId) :
    w.shutDown.buckets.get? id = if id ∈ w.bucketNames.values then
      (w.buckets.get? id).map fun c => { c with state := c.state.shutDown.2 }
      else w.buckets.get? id := by
  unfold shutDown
  generalize w.bucketNames.values = ids
  induction ids generalizing w with
  | nil => rfl
  | cons first rest ih =>
    rw [List.foldl_cons, ih, get?_shutDownBucket]
    by_cases hrest : id ∈ rest
    · -- Closing a bucket twice is closing it once.
      rw [if_pos hrest, if_pos (List.mem_cons_of_mem _ hrest)]
      split
      · cases w.buckets.get? id <;> rfl
      · rfl
    · rw [if_neg hrest]
      by_cases hfirst : first = id
      · rw [if_pos hfirst, if_pos (hfirst ▸ List.mem_cons_self)]
      · rw [if_neg hfirst, if_neg (by simp [hrest, Ne.symm hfirst])]

/-- Closing a bucket wakes whoever waits in its line. -/
theorem mem_ready_shutDownBucket (hc : w.buckets.get? id = some c) {x : Waiter}
    (hx : x ∈ Queue.purge c.state.queue) : x.caller ∈ (w.shutDownBucket id).ready := by
  rw [shutDownBucket_of_some hc]
  exact mem_ready_wakeAll hx

/-- Closing the registry wakes whoever waits in the line of a bucket that it has. -/
theorem mem_ready_shutDown (hc : w.buckets.get? id = some c)
    (hid : id ∈ w.bucketNames.values) {x : Waiter} (hx : x ∈ Queue.purge c.state.queue) :
    x.caller ∈ w.shutDown.ready := by
  unfold shutDown
  revert hid
  generalize w.bucketNames.values = ids
  have hstay (ids : List ComponentId) {w : World} (h : x.caller ∈ w.ready) :
      x.caller ∈ (ids.foldl (fun w id => w.shutDownBucket id) w).ready := by
    induction ids generalizing w with
    | nil => exact h
    | cons first rest ih => exact ih ((w.ready_prefix_shutDownBucket first).subset h)
  induction ids generalizing w with
  | nil => exact fun hid => by cases hid
  | cons first rest ih =>
    intro hid
    by_cases heq : first = id
    · subst heq
      exact hstay rest (mem_ready_shutDownBucket hc hx)
    · have hkept : (w.shutDownBucket first).buckets.get? id = some c := by
        rw [get?_shutDownBucket, if_neg heq, hc]
      exact ih hkept ((List.mem_cons.mp hid).resolve_left (Ne.symm heq))

end World

/-- Closing the registry is closing one bucket after the other. -/
theorem Steps.shutDown (w : World) (H : Multiset Hold) : Steps ⟨w, H⟩ ⟨w.shutDown, H⟩ := by
  unfold World.shutDown
  generalize w.bucketNames.values = ids
  induction ids generalizing w with
  | nil => exact .refl
  | cons id rest ih => exact .head (.shutDownBucket id) (ih (w.shutDownBucket id))

end Resilience
