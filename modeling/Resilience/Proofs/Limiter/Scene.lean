import Resilience.Proofs.World
import Resilience.Proofs.Scene
import Resilience.Proofs.Limiter.History

/-!
# Limiters in scenes

Whatever happens in a scene, a limiter sees callers that ask, pick up, give back and leave. Here
every act is read as one of these or as nothing that concerns limiters (`LimiterAct`), and from
that every limiter of a scene turns out to have a history: moves that lead a new limiter to the
state that it is in, with as many visits inside as there are slots held, and with the tickets
that are held in its line (`Limiter.Shows`).
-/

namespace Resilience

/-- What a limiter's answer leaves to a caller that came with a ticket. -/
def Limiter.Admission.holds (limiter : ComponentId) (ticket : Ticket) :
    Limiter.Admission → Multiset Hold
  | admitted => {.slot limiter}
  | queued => {.place limiter ticket}
  | rejected .. => 0

/-- An act as limiters see it. -/
inductive LimiterAct : Scene → Scene → Prop
  | other {w w' H H'} (hlimiters : w'.limiters = w.limiters)
      (hslot : ∀ id, H'.count (.slot id) = H.count (.slot id))
      (hplace : ∀ id ticket, H'.count (.place id ticket) = H.count (.place id ticket))
      (hserial : w.serial ≤ w'.serial) : LimiterAct ⟨w, H⟩ ⟨w', H'⟩
  | create {w w' H} (name : String) (config : Limiter.Config)
      (hlimiters : w'.limiters = w.limiters.set w.serial ⟨name, config, {}⟩)
      (hserial : w'.serial = w.serial + 1) : LimiterAct ⟨w, H⟩ ⟨w', H⟩
  | ask {w w' H id c caller admission l} (hc : w.limiters.get? id = some c)
      (hask : Limiter.ask c.config ⟨w.serial, caller, true⟩ c.state = (admission, l))
      (hlimiters : w'.limiters = w.limiters.set id { c with state := l })
      (hserial : w.serial ≤ w'.serial) (hqueued : admission = .queued → w.serial < w'.serial) :
      LimiterAct ⟨w, H⟩ ⟨w', admission.holds id w.serial + H⟩
  | pickUp {w w' H id c ticket l} (hc : w.limiters.get? id = some c)
      (hpick : Limiter.pickUp? ticket c.state = some l)
      (hlimiters : w'.limiters = w.limiters.set id { c with state := l })
      (hserial : w'.serial = w.serial) :
      LimiterAct ⟨w, .place id ticket ::ₘ H⟩ ⟨w', .slot id ::ₘ H⟩
  | release {w w' H id c} (hc : w.limiters.get? id = some c)
      (hlimiters : w'.limiters = w.limiters.set id { c with state := (Limiter.release c.state).2 })
      (hserial : w'.serial = w.serial) : LimiterAct ⟨w, .slot id ::ₘ H⟩ ⟨w', H⟩
  | leave {w w' H id c ticket} (hc : w.limiters.get? id = some c)
      (hlimiters : w'.limiters =
        w.limiters.set id { c with state := (Limiter.giveUp ticket c.state).2 })
      (hserial : w'.serial = w.serial) : LimiterAct ⟨w, .place id ticket ::ₘ H⟩ ⟨w', H⟩

/-- Only limiters that are there have slots and lines. -/
structure LimitersKnown (sc : Scene) : Prop where
  slots {id : ComponentId} : sc.world.limiters.get? id = none → sc.holds.count (.slot id) = 0
  places {id : ComponentId} : sc.world.limiters.get? id = none →
    ∀ ticket, sc.holds.count (.place id ticket) = 0

private theorem LimitersKnown.exists_of_slot {w : World} {H : Multiset Hold} {id : ComponentId}
    (h : LimitersKnown ⟨w, .slot id ::ₘ H⟩) : ∃ c, w.limiters.get? id = some c := by
  by_contra hnone
  have hzero := h.slots (Option.eq_none_iff_forall_ne_some.mpr fun c hc => hnone ⟨c, hc⟩)
  simp at hzero

private theorem LimitersKnown.exists_of_place {w : World} {H : Multiset Hold} {id : ComponentId}
    {ticket : Ticket} (h : LimitersKnown ⟨w, .place id ticket ::ₘ H⟩) :
    ∃ c, w.limiters.get? id = some c := by
  by_contra hnone
  have hzero := h.places (Option.eq_none_iff_forall_ne_some.mpr fun c hc => hnone ⟨c, hc⟩) ticket
  simp at hzero

namespace LimiterAct

variable {w w' : World} {H : Multiset Hold}

/-- Nothing happens to limiters and to what is held. -/
private theorem same (hlimiters : w'.limiters = w.limiters) (hserial : w'.serial = w.serial) :
    LimiterAct ⟨w, H⟩ ⟨w', H⟩ :=
  .other hlimiters (fun _ => rfl) (fun _ _ => rfl) hserial.ge

/-- A hold of another component is given back. -/
private theorem giveBack {x : Hold} (hslot : ∀ id, x ≠ .slot id)
    (hplace : ∀ id ticket, x ≠ .place id ticket) (hlimiters : w'.limiters = w.limiters)
    (hserial : w'.serial = w.serial) : LimiterAct ⟨w, x ::ₘ H⟩ ⟨w', H⟩ :=
  .other hlimiters (fun id => (Multiset.count_cons_of_ne (hslot id).symm H).symm)
    (fun id ticket => (Multiset.count_cons_of_ne (hplace id ticket).symm H).symm) hserial.ge

/-- Holds of another component are handed out. -/
private theorem handOut {A : Multiset Hold} (hslot : ∀ id, .slot id ∉ A)
    (hplace : ∀ id ticket, .place id ticket ∉ A) (hlimiters : w'.limiters = w.limiters)
    (hserial : w.serial ≤ w'.serial) : LimiterAct ⟨w, H⟩ ⟨w', A + H⟩ :=
  .other hlimiters
    (fun id => Hold.count_add_of_not_mem (hslot id) H)
    (fun id ticket => Hold.count_add_of_not_mem (hplace id ticket) H) hserial

end LimiterAct

open LimiterAct in
/-- **Every act is, for limiters, one of theirs or nothing.** -/
theorem Act.onLimiters {w w' : World} {H H' : Multiset Hold} (h : Act ⟨w, H⟩ ⟨w', H'⟩)
    (hknown : LimitersKnown ⟨w, H⟩) : LimiterAct ⟨w, H⟩ ⟨w', H'⟩ := by
  cases h with
  | idle h => exact .other h.limiters (fun _ => rfl) (fun _ _ => rfl) h.serial
  | pass | nameLimiter | nameBucket | handleCache => exact same rfl rfl
  | openBreaker name config =>
    obtain ⟨_, heq⟩ := w.openBreaker_eq name config
    rw [heq]
    exact same rfl rfl
  | createLimiter name config => exact .create name config rfl rfl
  | createBucket | createCache | createSource =>
    exact .other rfl (fun _ => rfl) (fun _ _ => rfl) (Nat.le_succ _)
  | invoke id arg =>
    obtain ⟨_, _, heq⟩ := w.invoke_eq id arg
    rw [heq]
    exact same rfl rfl
  | @enter _ _ name h =>
    obtain ⟨_, _, _, -, heq⟩ := w.enter_eq name
    rw [heq]
    exact handOut (fun id => Breaker.Admission.not_mem_holds (by simp))
      (fun id ticket => Breaker.Admission.not_mem_holds (by simp)) rfl (le_refl _)
  | record name probe outcome =>
    obtain ⟨_, _, _, -, heq⟩ := w.record_eq name probe outcome
    rw [heq]
    exact giveBack (by simp) (by simp) rfl rfl
  | forgo name probe =>
    obtain ⟨_, -, heq⟩ := w.forgo_eq name probe
    rw [heq]
    exact giveBack (by simp) (by simp) rfl rfl
  | resetBreaker name =>
    obtain ⟨_, _, _, -, heq⟩ := w.resetBreaker_eq name
    rw [heq]
    exact same rfl rfl
  -- The acts on limiters. What is given back was taken, so its limiter is there.
  | @askSlot _ _ id caller h =>
    obtain ⟨c, hc⟩ := Option.isSome_iff_exists.mp h
    unfold World.askSlot
    rw [hc]
    dsimp only
    cases hask : Limiter.ask c.config ⟨w.serial, caller, true⟩ c.state with
    | mk admission l =>
      cases admission with
      | admitted => exact .ask hc hask rfl (le_refl _) (by simp)
      | queued => exact .ask hc hask rfl (Nat.le_succ _) fun _ => Nat.lt_succ_self _
      | rejected active queued =>
        exact .ask hc hask (World.limiters_report ..) (by simp) (by simp)
  | pickUpSlot h =>
    obtain ⟨_, _, hc, hpick, rfl⟩ := World.pickUpSlot?_eq_some h
    exact .pickUp hc hpick rfl rfl
  | releaseSlot id =>
    obtain ⟨c, hc⟩ := hknown.exists_of_slot
    unfold World.releaseSlot
    rw [hc]
    exact .release hc (World.limiters_wakeAll ..) (World.serial_wakeAll ..)
  | leaveSlot id ticket =>
    obtain ⟨c, hc⟩ := hknown.exists_of_place
    unfold World.leaveSlot
    rw [hc]
    exact .leave hc (World.limiters_wakeAll ..) (World.serial_wakeAll ..)
  -- The acts on buckets hand out and take back other holds.
  | @askToken _ _ id caller h =>
    obtain ⟨_, _, serial, hserial, -, heq⟩ := w.askToken_eq id caller
    rw [heq]
    exact handOut (fun id => Hold.not_mem_ofTokenAnswer (by simp))
      (fun id ticket => Hold.not_mem_ofTokenAnswer (by simp)) rfl hserial
  | pickUpToken h =>
    obtain ⟨_, _, -, -, rfl⟩ := World.pickUpToken_eq_granted h
    exact giveBack (by simp) (by simp) rfl rfl
  | refuseToken h => exact giveBack (by simp) (by simp) rfl rfl
  | leaveToken id ticket => exact giveBack (by simp) (by simp) rfl rfl
  | refillBucket id =>
    obtain ⟨_, _, -, heq⟩ := w.refillBucket_eq id
    rw [heq]
    exact same rfl rfl
  | shutDownBucket id =>
    obtain ⟨_, _, -, heq⟩ := w.shutDownBucket_eq id
    rw [heq]
    exact same rfl rfl
  | readCache id key =>
    obtain ⟨_, -, heq⟩ := w.readCache_eq id key
    rw [heq]
    exact same rfl rfl
  | writeCache id key value ttl =>
    obtain ⟨_, _, _, -, heq⟩ := w.writeCache_eq id key value ttl
    rw [heq]
    exact same rfl rfl
  | sweepCache id =>
    obtain ⟨_, _, _, -, heq⟩ := w.sweepCache_eq id
    rw [heq]
    exact same rfl rfl

namespace Limiter

/-- The history has come to the state of a limiter, with a visit inside for each slot that is held
and a visit in line, or served there, for each place that is held. -/
structure Shows (id : ComponentId) (l : Limiter) (H : Multiset Hold) (h : History) : Prop where
  state : h.limiter = l
  inside : h.visits.count .inside = H.count (.slot id)
  tickets (ticket : Ticket) :
    (h.visits.filterMap Visit.ticket?).count ticket = H.count (.place id ticket)

namespace Shows

open History

variable {id : ComponentId} {l l' : Limiter} {H H' : Multiset Hold} {h : History}

/-- Other holds do not matter. -/
theorem congr (hs : Shows id l H h) (hslot : H'.count (.slot id) = H.count (.slot id))
    (hplace : ∀ ticket, H'.count (.place id ticket) = H.count (.place id ticket)) :
    Shows id l H' h :=
  ⟨hs.state, hs.inside.trans hslot.symm, fun t => (hs.tickets t).trans (hplace t).symm⟩

theorem ask {config : Config} {ticket : Ticket} {caller : TaskId} {admission : Admission}
    (hs : Shows id l H h) (hticket : H.count (.place id ticket) = 0)
    (hask : Limiter.ask config ⟨ticket, caller, true⟩ l = (admission, l')) :
    Shows id l' (admission.holds id ticket + H) (h.step config (.ask ticket caller)) := by
  have hunused : ticket ∉ h.visits.filterMap Visit.ticket? := by
    rw [← List.count_eq_zero, hs.tickets, hticket]
  obtain ⟨rfl, inside, tickets⟩ := hs
  simp only [step, History.ask, if_neg hunused, hask]
  cases admission with
  | admitted =>
    refine ⟨rfl, ?_, fun t => ?_⟩
    · simp [inside, Admission.holds, List.count_append, Nat.add_comm]
    · rw [filterMap_come_none rfl, tickets]
      simp [Admission.holds]
  | queued =>
    refine ⟨rfl, ?_, fun t => ?_⟩
    · simp [inside, Admission.holds, List.count_append]
    · rw [filterMap_come_some (f := Visit.ticket?) rfl, List.count_append, tickets]
      by_cases heq : ticket = t
      · simp [Admission.holds, heq, Nat.add_comm]
      · simp [Admission.holds, heq, Ne.symm heq]
  | rejected active queued =>
    refine ⟨rfl, ?_, fun t => ?_⟩
    · simp [inside, Admission.holds, List.count_append]
    · rw [filterMap_come_none rfl, tickets]
      simp [Admission.holds]

/-- A ticket that is held is that of a visit. -/
private theorem exists_visit {ticket : Ticket} (hs : Shows id l (.place id ticket ::ₘ H) h) :
    ∃ (n : Nat) (v : Visit), h.visits[n]? = some v ∧ v.ticket? = some ticket := by
  have hcount : 0 < (h.visits.filterMap Visit.ticket?).count ticket := by
    rw [hs.tickets, Multiset.count_cons_self]
    exact Nat.succ_pos _
  obtain ⟨v, hv, ht⟩ := List.mem_filterMap.mp (List.count_pos_iff.mp hcount)
  obtain ⟨n, hn⟩ := List.mem_iff_getElem?.mp hv
  exact ⟨n, v, hn, ht⟩

/-- A visit loses its ticket, and the place that it held is held no more. -/
private theorem count_tickets {before after : List Visit} {v v' : Visit} {ticket : Ticket}
    (ht : v.ticket? = some ticket) (ht' : v'.ticket? = none)
    (h : ∀ t, ((before ++ v :: after).filterMap Visit.ticket?).count t =
      (Hold.place id ticket ::ₘ H).count (.place id t)) (t : Ticket) :
    ((before ++ v' :: after).filterMap Visit.ticket?).count t = H.count (.place id t) := by
  have hcount := h t
  rw [List.filterMap_append, List.filterMap_cons_some ht, List.count_append, List.count_cons,
    Multiset.count_cons] at hcount
  rw [List.filterMap_append, List.filterMap_cons_none ht', List.count_append]
  by_cases heq : ticket = t
  · subst heq
    simp at hcount
    omega
  · simp [heq, Ne.symm heq] at hcount
    omega

theorem pickUp {ticket : Ticket} (config : Config)
    (hs : Shows id l (.place id ticket ::ₘ H) h) (hpick : l.pickUp? ticket = some l') :
    ∃ move, Shows id l' (.slot id ::ₘ H) (h.step config move) := by
  obtain ⟨n, v, hn, ht⟩ := hs.exists_visit
  obtain ⟨before, after, hvisits, hset⟩ := Visits.exists_around hn
  obtain ⟨rfl, inside, tickets⟩ := hs
  refine ⟨.resume n, ?_⟩
  simp only [step, History.resume, hn, Option.bind_some, ht, hpick, hset]
  rw [hvisits] at inside tickets
  refine ⟨rfl, ?_, fun t => ?_⟩
  · have hv : v ≠ .inside := by rintro rfl; cases ht
    simp only [List.count_append, List.count_cons_self, List.count_cons_of_ne hv,
      Multiset.count_cons_self] at inside ⊢
    rw [Multiset.count_cons_of_ne (by simp)] at inside
    omega
  · rw [Multiset.count_cons_of_ne (by simp)]
    exact count_tickets ht rfl tickets t

theorem release (config : Config) (hs : Shows id l (.slot id ::ₘ H) h) :
    ∃ move, Shows id l.release.2 H (h.step config move) := by
  have hcount : 0 < h.visits.count .inside := by
    rw [hs.inside, Multiset.count_cons_self]
    exact Nat.succ_pos _
  obtain ⟨n, hn⟩ := List.mem_iff_getElem?.mp (List.count_pos_iff.mp hcount)
  obtain ⟨before, after, hvisits, hset⟩ := Visits.exists_around hn
  obtain ⟨rfl, inside, tickets⟩ := hs
  refine ⟨.release n, ?_⟩
  simp only [step, History.release, hn, if_true, hset]
  rw [hvisits] at inside tickets
  refine ⟨rfl, ?_, fun t => ?_⟩
  · simp only [count_inside_serve, List.count_append, List.count_cons_self,
      Multiset.count_cons_self] at inside ⊢
    rw [List.count_cons_of_ne (by simp)]
    omega
  · have hcount := tickets t
    rw [List.filterMap_append, List.filterMap_cons_none rfl,
      Multiset.count_cons_of_ne (by simp)] at hcount
    rw [filterMap_ticket?_serve, List.filterMap_append, List.filterMap_cons_none rfl]
    exact hcount

theorem leave {ticket : Ticket} (config : Config)
    (hs : Shows id l (.place id ticket ::ₘ H) h) :
    ∃ move, Shows id (l.giveUp ticket).2 H (h.step config move) := by
  obtain ⟨n, v, hn, ht⟩ := hs.exists_visit
  obtain ⟨before, after, hvisits, hset⟩ := Visits.exists_around hn
  obtain ⟨rfl, inside, tickets⟩ := hs
  refine ⟨.cancel n, ?_⟩
  simp only [step, History.cancel, hn, ht, hset]
  rw [hvisits] at inside tickets
  have hv : v ≠ .inside := by rintro rfl; cases ht
  have hv' : v.cancelled ≠ .inside := by cases v <;> simp_all
  have ht' : v.cancelled.ticket? = none := by cases v <;> simp_all
  refine ⟨rfl, ?_, fun t => ?_⟩
  · rw [Multiset.count_cons_of_ne (by simp)] at inside
    simp only [count_inside_serve, List.count_append, List.count_cons_of_ne hv,
      List.count_cons_of_ne hv'] at inside ⊢
    exact inside
  · rw [filterMap_ticket?_serve]
    exact count_tickets ht ht' tickets t

end Shows

end Limiter

/-! ### Numbers in a scene -/

/-- The numbers of limiters and tickets were given out before, and only limiters that are there
have slots and lines. -/
structure LimitersNumbered (sc : Scene) : Prop extends LimitersKnown sc where
  ids_lt {id : ComponentId} {c : Component Limiter.Config Limiter} :
    sc.world.limiters.get? id = some c → id < sc.world.serial
  tickets_lt (id : ComponentId) {ticket : Ticket} : sc.world.serial ≤ ticket →
    sc.holds.count (.place id ticket) = 0

namespace LimitersNumbered

variable {w w' : World} {H H' : Multiset Hold}

theorem get?_serial (h : LimitersNumbered ⟨w, H⟩) : w.limiters.get? w.serial = none :=
  Option.eq_none_iff_forall_ne_some.mpr fun _ hc => lt_irrefl _ (h.ids_lt hc)

/-- One limiter moves on, and the holds of the others are what they were. -/
private theorem update (h : LimitersNumbered ⟨w, H⟩) {id : ComponentId}
    {c c' : Component Limiter.Config Limiter} (hc : w.limiters.get? id = some c)
    (hlimiters : w'.limiters = w.limiters.set id c') (hserial : w.serial ≤ w'.serial)
    (hslot : ∀ other, other ≠ id → H'.count (.slot other) = H.count (.slot other))
    (hplace : ∀ other, other ≠ id → ∀ ticket,
      H'.count (.place other ticket) = H.count (.place other ticket))
    (hnew : ∀ ticket, w'.serial ≤ ticket → H'.count (.place id ticket) = 0) :
    LimitersNumbered ⟨w', H'⟩ := by
  have hne {other : ComponentId} (hnone : w'.limiters.get? other = none) :
      other ≠ id ∧ w.limiters.get? other = none := by
    rw [hlimiters, Table.get?_set] at hnone
    split at hnone
    · cases hnone
    · next hne => exact ⟨Ne.symm hne, hnone⟩
  exact {
    slots := fun hnone => (hslot _ (hne hnone).1).trans (h.slots (hne hnone).2)
    places := fun hnone t => (hplace _ (hne hnone).1 t).trans (h.places (hne hnone).2 t)
    ids_lt := fun {other c''} hc'' => by
      dsimp only at hc'' ⊢
      rw [hlimiters, Table.get?_set] at hc''
      split at hc''
      · next heq => exact heq ▸ (h.ids_lt hc).trans_le hserial
      · exact (h.ids_lt hc'').trans_le hserial
    tickets_lt := fun other t ht => by
      by_cases heq : other = id
      · exact heq ▸ hnew t ht
      · exact (hplace other heq t).trans (h.tickets_lt other (hserial.trans ht)) }

private theorem create (h : LimitersNumbered ⟨w, H⟩) (c : Component Limiter.Config Limiter)
    (hlimiters : w'.limiters = w.limiters.set w.serial c) (hserial : w'.serial = w.serial + 1) :
    LimitersNumbered ⟨w', H⟩ := by
  have hnone {id : ComponentId} (hnone : w'.limiters.get? id = none) :
      w.limiters.get? id = none := by
    rw [hlimiters, Table.get?_set] at hnone
    split at hnone
    · cases hnone
    · exact hnone
  exact {
    slots := fun hid => h.slots (hnone hid)
    places := fun hid => h.places (hnone hid)
    ids_lt := fun {id c'} hc' => by
      dsimp only at hc' ⊢
      rw [hlimiters, Table.get?_set] at hc'
      rw [hserial]
      split at hc'
      · next heq => exact heq ▸ Nat.lt_succ_self _
      · exact (h.ids_lt hc').trans (Nat.lt_succ_self _)
    tickets_lt := fun id t ht => h.tickets_lt id (by dsimp only at ht ⊢; omega) }

theorem act (h : LimitersNumbered ⟨w, H⟩) (hact : LimiterAct ⟨w, H⟩ ⟨w', H'⟩) :
    LimitersNumbered ⟨w', H'⟩ := by
  cases hact with
  | other hlimiters hslot hplace hserial =>
    exact {
      slots := fun hnone => (hslot _).trans (h.slots (hlimiters ▸ hnone))
      places := fun hnone t => (hplace _ t).trans (h.places (hlimiters ▸ hnone) t)
      ids_lt := fun hc => (h.ids_lt (hlimiters ▸ hc)).trans_le hserial
      tickets_lt := fun id _ ht => (hplace id _).trans (h.tickets_lt id (hserial.trans ht)) }
  | create name config hlimiters hserial => exact h.create _ hlimiters hserial
  | @ask _ _ _ id c caller admission l hc hask hlimiters hserial hqueued =>
    refine h.update hc hlimiters hserial (fun other hne => ?_) (fun other hne t => ?_)
      fun t ht => ?_
    · cases admission <;> simp [Limiter.Admission.holds, hne]
    · cases admission <;> simp [Limiter.Admission.holds, hne]
    · have hzero := h.tickets_lt id (hserial.trans ht)
      cases admission with
      | queued =>
        have hne : t ≠ w.serial := ((hqueued rfl).trans_le ht).ne'
        simpa [Limiter.Admission.holds, hne] using hzero
      | admitted => simpa [Limiter.Admission.holds] using hzero
      | rejected active queued => simpa [Limiter.Admission.holds] using hzero
  | @pickUp _ _ H id c ticket l hc hpick hlimiters hserial =>
    refine h.update hc hlimiters hserial.ge (fun other hne => ?_) (fun other hne t => ?_)
      fun t ht => ?_
    · simp [hne]
    · simp [hne]
    · have hzero := h.tickets_lt id (hserial ▸ ht)
      simp only [Multiset.count_eq_zero, Multiset.mem_cons, not_or] at hzero ⊢
      exact ⟨by simp, hzero.2⟩
  | @release _ _ H id c hc hlimiters hserial =>
    refine h.update hc hlimiters hserial.ge (fun other hne => ?_) (fun other hne t => ?_)
      fun t ht => ?_
    · simp [hne]
    · simp
    · simpa using h.tickets_lt id (hserial ▸ ht)
  | @leave _ _ H id c ticket hc hlimiters hserial =>
    refine h.update hc hlimiters hserial.ge (fun other hne => ?_) (fun other hne t => ?_)
      fun t ht => ?_
    · simp
    · simp [hne]
    · have hzero := h.tickets_lt id (hserial ▸ ht)
      simp only [Multiset.count_eq_zero, Multiset.mem_cons, not_or] at hzero ⊢
      exact hzero.2

theorem steps {sc sc' : Scene} (h : LimitersNumbered sc) (hsteps : Steps sc sc') :
    LimitersNumbered sc' := by
  induction hsteps with
  | refl => exact h
  | tail _ hact ih => exact ih.act (hact.onLimiters ih.toLimitersKnown)

end LimitersNumbered

/-! ### The history of a limiter -/

namespace Limiter

open History

/-- A limiter that was not there begins with an empty history. -/
theorem Shows.born {w w' : World} {H H' : Multiset Hold} {id : ComponentId}
    {c' : Component Config Limiter} (hn : LimitersNumbered ⟨w, H⟩)
    (hact : LimiterAct ⟨w, H⟩ ⟨w', H'⟩) (hnone : w.limiters.get? id = none)
    (hc' : w'.limiters.get? id = some c') : Shows id c'.state H' {} := by
  have hnot {other : ComponentId} {c d : Component Config Limiter}
      (hc : w.limiters.get? other = some c) (hlimiters : w'.limiters = w.limiters.set other d) :
      False := by
    rw [hlimiters, Table.get?_set] at hc'
    split at hc'
    · next heq => rw [← heq, hc] at hnone; cases hnone
    · rw [hnone] at hc'; cases hc'
  cases hact with
  | other hlimiters => rw [hlimiters, hnone] at hc'; cases hc'
  | create name config hlimiters hserial =>
    rw [hlimiters, Table.get?_set] at hc'
    split at hc'
    · obtain rfl := Option.some.inj hc'
      exact ⟨rfl, (hn.slots hnone).symm, fun t => (hn.places hnone t).symm⟩
    · rw [hnone] at hc'; cases hc'
  | ask hc _ hlimiters => exact (hnot hc hlimiters).elim
  | pickUp hc _ hlimiters => exact (hnot hc hlimiters).elim
  | release hc hlimiters => exact (hnot hc hlimiters).elim
  | leave hc hlimiters => exact (hnot hc hlimiters).elim

/-- **An act is at most one move of a limiter.** -/
theorem Shows.act {w w' : World} {H H' : Multiset Hold} {id : ComponentId}
    {c : Component Config Limiter} (hn : LimitersNumbered ⟨w, H⟩)
    (hact : LimiterAct ⟨w, H⟩ ⟨w', H'⟩) (hc : w.limiters.get? id = some c) :
    ∃ l, w'.limiters.get? id = some { c with state := l } ∧
      ∀ h, Shows id c.state H h → ∃ moves : List Move,
        Shows id l H' (moves.foldl (History.step c.config) h) := by
  -- A move of another limiter is none of this one.
  have helse {other : ComponentId} {d : Component Config Limiter} (hne : other ≠ id)
      (hlimiters : w'.limiters = w.limiters.set other d)
      (hslot : H'.count (.slot id) = H.count (.slot id))
      (hplace : ∀ t, H'.count (.place id t) = H.count (.place id t)) :
      ∃ l, w'.limiters.get? id = some { c with state := l } ∧
        ∀ h, Shows id c.state H h → ∃ moves : List Move,
          Shows id l H' (moves.foldl (History.step c.config) h) :=
    ⟨c.state, by rw [hlimiters, Table.get?_set, if_neg hne, hc],
      fun h hs => ⟨[], hs.congr hslot hplace⟩⟩
  -- A move of this one.
  have hthis {d : Component Config Limiter} {l : Limiter} (hd : w.limiters.get? id = some d)
      (hlimiters : w'.limiters = w.limiters.set id { d with state := l })
      (hmove : ∀ h, Shows id d.state H h → ∃ move, Shows id l H' (h.step d.config move)) :
      ∃ l, w'.limiters.get? id = some { c with state := l } ∧
        ∀ h, Shows id c.state H h → ∃ moves : List Move,
          Shows id l H' (moves.foldl (History.step c.config) h) := by
    obtain rfl := Option.some.inj (hc.symm.trans hd)
    refine ⟨l, by rw [hlimiters, Table.get?_set, if_pos rfl], fun h hs => ?_⟩
    obtain ⟨move, hmoved⟩ := hmove h hs
    exact ⟨[move], hmoved⟩
  cases hact with
  | other hlimiters hslot hplace hserial =>
    exact ⟨c.state, by rw [hlimiters, hc], fun h hs => ⟨[], hs.congr (hslot id) (hplace id)⟩⟩
  | create name config hlimiters hserial =>
    have hne : w.serial ≠ id := fun heq => by
      rw [← heq, hn.get?_serial] at hc
      cases hc
    exact helse hne hlimiters rfl fun _ => rfl
  | @ask _ _ _ other d caller admission l hd hask hlimiters =>
    by_cases heq : other = id
    · subst heq
      exact hthis hd hlimiters fun h hs => ⟨_, hs.ask (hn.tickets_lt other (le_refl _)) hask⟩
    · refine helse heq hlimiters ?_ fun t => ?_ <;>
        cases admission <;> simp [Admission.holds, Ne.symm heq]
  | @pickUp _ _ _ other d ticket l hd hpick hlimiters =>
    by_cases heq : other = id
    · subst heq
      exact hthis hd hlimiters fun h hs => hs.pickUp d.config hpick
    · exact helse heq hlimiters (by simp [Ne.symm heq]) (by simp [Ne.symm heq])
  | @release _ _ _ other d hd hlimiters =>
    by_cases heq : other = id
    · subst heq
      exact hthis hd hlimiters fun h hs => hs.release d.config
    · exact helse heq hlimiters (by simp [Ne.symm heq]) (by simp)
  | @leave _ _ _ other d ticket hd hlimiters =>
    by_cases heq : other = id
    · subst heq
      exact hthis hd hlimiters fun h hs => hs.leave d.config
    · exact helse heq hlimiters (by simp) (by simp [Ne.symm heq])

/-- **A run of acts is a sequence of moves of a limiter**: the history that it had goes on. -/
theorem Shows.steps {sc sc' : Scene} (hn : LimitersNumbered sc) (hsteps : Steps sc sc')
    {id : ComponentId} {c : Component Config Limiter}
    (hc : sc.world.limiters.get? id = some c) :
    ∃ l, sc'.world.limiters.get? id = some { c with state := l } ∧
      ∀ h, Shows id c.state sc.holds h → ∃ moves : List Move,
        Shows id l sc'.holds (moves.foldl (History.step c.config) h) := by
  induction hsteps with
  | refl => exact ⟨c.state, hc, fun h hs => ⟨[], hs⟩⟩
  | tail hsteps hact ih =>
    obtain ⟨l, hl, hshows⟩ := ih
    have hn' := hn.steps hsteps
    obtain ⟨l', hl', hshows'⟩ := Shows.act hn' (hact.onLimiters hn'.toLimitersKnown) hl
    refine ⟨l', hl', fun h hs => ?_⟩
    obtain ⟨moves, hs⟩ := hshows h hs
    obtain ⟨more, hs⟩ := hshows' _ hs
    exact ⟨moves ++ more, by rw [List.foldl_append]; exact hs⟩

theorem numbered_of_reachable {sc : Scene} (h : sc.Reachable) : LimitersNumbered sc := by
  induction h with
  | empty =>
    exact {
      slots := fun _ => rfl
      places := fun _ _ => rfl
      ids_lt := fun hc => by cases hc
      tickets_lt := fun _ _ _ => rfl }
  | act _ hact ih => exact ih.steps (.single hact)
  | outside _ _ _ ih => exact { ih with }

/-- **Every limiter of a scene has a history.** -/
theorem exists_history {sc : Scene} (h : sc.Reachable) {id : ComponentId}
    {c : Component Config Limiter} (hc : sc.world.limiters.get? id = some c) :
    ∃ moves, Shows id c.state sc.holds (run c.config moves) := by
  induction h generalizing c with
  | empty => cases hc
  | outside _ _ _ ih => exact ih hc
  | @act sc₁ sc₂ hsc hact ih =>
    have hn := numbered_of_reachable hsc
    have hlimiter := hact.onLimiters hn.toLimitersKnown
    cases hc₁ : sc₁.world.limiters.get? id with
    | none => exact ⟨[], Shows.born hn hlimiter hc₁ hc⟩
    | some c₁ =>
      obtain ⟨moves, hshows⟩ := ih hc₁
      obtain ⟨l, hl, hmoves⟩ := Shows.act hn hlimiter hc₁
      obtain rfl := Option.some.inj (hl.symm.trans hc)
      obtain ⟨more, hmore⟩ := hmoves _ hshows
      exact ⟨moves ++ more, by rw [run, List.foldl_append]; exact hmore⟩

end Limiter

end Resilience
