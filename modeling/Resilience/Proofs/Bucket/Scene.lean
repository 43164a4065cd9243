import Resilience.Proofs.Bucket.History
import Resilience.Proofs.Scene

/-!
# Buckets in scenes

Every act is, for buckets, one of their moves or nothing (`BucketAct`). So every bucket of a
scene has a history: moves that lead a new bucket to the state that it is in, at the time that it
is. And nobody is in its line, or has a token of it that was not picked up, who does not hold a
place there (`Bucket.Shows`).
-/

namespace Resilience

namespace Bucket

/-- What a bucket's answer leaves to a caller that came with a ticket. -/
def Admission.holds (bucket : ComponentId) (ticket : Ticket) : Admission → Multiset Hold
  | admitted => 0
  | queued => {.tokenPlace bucket ticket}
  | closed => 0

/-- The tickets of those who are in line or were granted a token there. -/
def tickets (b : Bucket) : List Ticket := Queue.waiting b.queue ++ b.granted

section Tickets

variable (config : Config) (now : Instant) (b : Bucket) (ticket other : Ticket)

/-- A refill takes nobody in and sends nobody away. -/
theorem count_tickets_refill :
    (b.refill config now).2.tickets.count other = b.tickets.count other := by
  unfold refill
  split
  · have hserve := Queue.waiting_serve config.capacity b.queue
    rcases hparts : Queue.serve config.capacity b.queue with ⟨served, left, rest⟩
    rw [hparts] at hserve
    simp only [tickets, fill, hparts, hserve, List.count_append]
    omega
  · rfl

/-- A caller that asks comes into line, or nobody does. -/
theorem count_tickets_acquire (caller : TaskId) (id : ComponentId) :
    (b.acquire config now ⟨ticket, caller, true⟩).2.2.tickets.count other ≤
      b.tickets.count other +
        ((b.acquire config now ⟨ticket, caller, true⟩).1.holds id ticket).count
          (.tokenPlace id other) := by
  have hrefill := count_tickets_refill config now b other
  unfold acquire
  split
  · exact Nat.le_add_right ..
  · dsimp only
    split
    · exact Nat.le_add_right_of_le hrefill.le
    · have hline : Queue.waiting [⟨ticket, caller, true⟩] = [ticket] := rfl
      simp only [tickets, Queue.waiting_append, hline, Admission.holds, List.count_append,
        Multiset.count_singleton, List.count_singleton] at hrefill ⊢
      by_cases heq : ticket = other
      · simp only [heq]
        simp
        omega
      · simp [heq, Ne.symm heq]
        omega

/-- A waiter that goes away or on is neither in line any more nor does it have a token there. -/
theorem count_tickets_erase (hmem : ticket ∈ b.granted) :
    ({ b with granted := b.granted.erase ticket } : Bucket).tickets.count other =
      b.tickets.count other - if ticket = other then 1 else 0 := by
  simp only [tickets, List.count_append, List.count_erase]
  by_cases heq : ticket = other
  · have hpos := List.count_pos_iff.mpr hmem
    simp only [heq, beq_self_eq_true, if_true] at hpos ⊢
    omega
  · simp [heq]

theorem count_tickets_giveUp :
    (b.giveUp ticket).tickets.count other ≤
      b.tickets.count other - if ticket = other then 1 else 0 := by
  unfold giveUp
  split
  · next hmem => exact (count_tickets_erase b ticket other hmem).le
  · next hnot =>
    simp only [tickets, Queue.waiting_giveUp, List.count_append]
    by_cases heq : ticket = other
    · have hline : other ∉ (Queue.waiting b.queue).filter fun t => t ≠ ticket := by simp [heq]
      rw [List.count_eq_zero.mpr hline, List.count_eq_zero.mpr (heq ▸ hnot)]
      exact Nat.zero_le _
    · rw [if_neg heq, List.count_filter (by simp [Ne.symm heq])]
      exact Nat.le_refl _

end Tickets

end Bucket

/-! ### Acts -/

/-- The bucket of a number moves on, and the others stay as they are. -/
structure World.BucketMoves (w w' : World) (id : ComponentId)
    (c : Component Bucket.Config Bucket) : Prop where
  now : w'.now = w.now
  serial : w.serial ≤ w'.serial
  buckets (other : ComponentId) : w'.buckets.get? other =
    if id = other then some c else w.buckets.get? other

/-- An act as buckets see it. -/
inductive BucketAct : Scene → Scene → Prop
  | other {w w' H H'} (hnow : w'.now = w.now) (hserial : w.serial ≤ w'.serial)
      (hbuckets : ∀ id, w'.buckets.get? id = w.buckets.get? id)
      (hholds : ∀ id c, w.buckets.get? id = some c → ∀ ticket,
        H'.count (.tokenPlace id ticket) = H.count (.tokenPlace id ticket)) :
      BucketAct ⟨w, H⟩ ⟨w', H'⟩
  | pass {w H} (instant : Instant) : BucketAct ⟨w, H⟩ ⟨w.pass instant, H⟩
  | create {w w' H} (name : String) (config : Bucket.Config)
      (hmoves : w.BucketMoves w' w.serial ⟨name, config, .full config w.now⟩)
      (hserial : w'.serial = w.serial + 1) : BucketAct ⟨w, H⟩ ⟨w', H⟩
  | ask {w w' H id c} (caller : TaskId) (hc : w.buckets.get? id = some c)
      (hmoves : w.BucketMoves w' id { c with
        state := (c.state.acquire c.config w.now ⟨w.serial, caller, true⟩).2.2 }) :
      BucketAct ⟨w, H⟩ ⟨w',
        (c.state.acquire c.config w.now ⟨w.serial, caller, true⟩).1.holds id w.serial + H⟩
  | pickUp {w w' H id c ticket b} (hc : w.buckets.get? id = some c)
      (hpick : c.state.pickUp? ticket = some b)
      (hmoves : w.BucketMoves w' id { c with state := b }) :
      BucketAct ⟨w, .tokenPlace id ticket ::ₘ H⟩ ⟨w', H⟩
  | refuse {w H id c ticket} (hc : w.buckets.get? id = some c)
      (hpick : c.state.pickUp? ticket = none) (hclosed : c.state.closed = true) :
      BucketAct ⟨w, .tokenPlace id ticket ::ₘ H⟩ ⟨w, H⟩
  | leave {w w' H id c ticket} (hc : w.buckets.get? id = some c)
      (hmoves : w.BucketMoves w' id { c with state := c.state.giveUp ticket }) :
      BucketAct ⟨w, .tokenPlace id ticket ::ₘ H⟩ ⟨w', H⟩
  | refill {w w' H id c} (hc : w.buckets.get? id = some c)
      (hmoves : w.BucketMoves w' id { c with state := (c.state.refill c.config w.now).2 }) :
      BucketAct ⟨w, H⟩ ⟨w', H⟩
  | shutDown {w w' H id c} (hc : w.buckets.get? id = some c)
      (hmoves : w.BucketMoves w' id { c with state := c.state.shutDown.2 }) :
      BucketAct ⟨w, H⟩ ⟨w', H⟩

namespace BucketAct

variable {w w' : World} {H : Multiset Hold}

/-- Nothing happens to buckets and to what is held. -/
private theorem same (hnow : w'.now = w.now) (hbuckets : w'.buckets = w.buckets)
    (hserial : w'.serial = w.serial) : BucketAct ⟨w, H⟩ ⟨w', H⟩ :=
  .other hnow hserial.ge (fun _ => by rw [hbuckets]) fun _ _ _ _ => rfl

/-- A hold of another component is given back. -/
private theorem giveBack {x : Hold} (hx : ∀ id ticket, x ≠ .tokenPlace id ticket)
    (hnow : w'.now = w.now) (hbuckets : w'.buckets = w.buckets)
    (hserial : w'.serial = w.serial) : BucketAct ⟨w, x ::ₘ H⟩ ⟨w', H⟩ :=
  .other hnow hserial.ge (fun _ => by rw [hbuckets]) fun id _ _ ticket =>
    (Multiset.count_cons_of_ne (hx id ticket).symm H).symm

/-- Holds of another component are handed out. -/
private theorem handOut {A : Multiset Hold} (hA : ∀ id ticket, .tokenPlace id ticket ∉ A)
    (hnow : w'.now = w.now) (hbuckets : w'.buckets = w.buckets) (hserial : w.serial ≤ w'.serial) :
    BucketAct ⟨w, H⟩ ⟨w', A + H⟩ :=
  .other hnow hserial (fun _ => by rw [hbuckets]) fun id _ _ ticket =>
    Hold.count_add_of_not_mem (hA id ticket) H

/-- A bucket is put in its place in the table, and those that it served are woken. -/
private theorem moves_wakeAll (w : World) (id : ComponentId)
    (c : Component Bucket.Config Bucket) (served : List Waiter) :
    w.BucketMoves (World.wakeAll served { w with buckets := w.buckets.set id c }) id c where
  now := World.now_wakeAll ..
  serial := by rw [World.serial_wakeAll]
  buckets other := by rw [World.buckets_wakeAll, Table.get?_set]

end BucketAct

open BucketAct in
/-- **Every act is, for buckets, one of their moves or nothing.** -/
theorem Act.onBuckets {w w' : World} {H H' : Multiset Hold} (h : Act ⟨w, H⟩ ⟨w', H'⟩) :
    BucketAct ⟨w, H⟩ ⟨w', H'⟩ := by
  cases h with
  | idle h => exact .other h.now h.serial (fun _ => by rw [h.buckets]) fun _ _ _ _ => rfl
  | pass instant => exact .pass instant
  | nameLimiter | nameBucket | handleCache => exact same rfl rfl rfl
  | createLimiter | createCache | createSource =>
    exact .other rfl (Nat.le_succ _) (fun _ => rfl) fun _ _ _ _ => rfl
  | createBucket name config =>
    exact .create name config ⟨rfl, Nat.le_succ _, fun other => Table.get?_set ..⟩ rfl
  | openBreaker name config =>
    obtain ⟨_, heq⟩ := w.openBreaker_eq name config
    rw [heq]
    exact same rfl rfl rfl
  | invoke id arg =>
    obtain ⟨_, _, heq⟩ := w.invoke_eq id arg
    rw [heq]
    exact same rfl rfl rfl
  | @enter _ _ name h =>
    obtain ⟨_, _, _, -, heq⟩ := w.enter_eq name
    rw [heq]
    exact handOut (fun _ _ => Breaker.Admission.not_mem_holds (by simp)) rfl rfl (le_refl _)
  | record name probe outcome =>
    obtain ⟨_, _, _, -, heq⟩ := w.record_eq name probe outcome
    rw [heq]
    exact giveBack (by simp) rfl rfl rfl
  | forgo name probe =>
    obtain ⟨_, -, heq⟩ := w.forgo_eq name probe
    rw [heq]
    exact giveBack (by simp) rfl rfl rfl
  | resetBreaker name =>
    obtain ⟨_, _, _, -, heq⟩ := w.resetBreaker_eq name
    rw [heq]
    exact same rfl rfl rfl
  | @askSlot _ _ id caller h =>
    obtain ⟨_, _, _, serial, hserial, -, heq⟩ := w.askSlot_eq id caller
    rw [heq]
    exact handOut (fun _ _ => Hold.not_mem_ofSlotAnswer (by simp) (by simp)) rfl rfl hserial
  | pickUpSlot h =>
    obtain ⟨_, _, -, -, rfl⟩ := World.pickUpSlot?_eq_some h
    exact .other rfl (le_refl _) (fun _ => rfl) fun id c hc ticket => by simp
  | releaseSlot id =>
    obtain ⟨_, _, -, heq⟩ := w.releaseSlot_eq id
    rw [heq]
    exact giveBack (by simp) rfl rfl rfl
  | leaveSlot id ticket =>
    obtain ⟨_, _, -, heq⟩ := w.leaveSlot_eq id ticket
    rw [heq]
    exact giveBack (by simp) rfl rfl rfl
  -- The acts on buckets.
  | @askToken _ _ id caller h =>
    obtain ⟨c, hc⟩ := Option.isSome_iff_exists.mp h
    rcases hacquire : c.state.acquire c.config w.now ⟨w.serial, caller, true⟩ with
      ⟨admission, served, b⟩
    have hask {w' : World} (hmoves : w.BucketMoves w' id { c with state := b }) :
        BucketAct ⟨w, H⟩ ⟨w', admission.holds id w.serial + H⟩ := by
      have hact := @BucketAct.ask w w' H id c caller hc
      rw [hacquire] at hact
      exact hact hmoves
    have hserved := moves_wakeAll w id { c with state := b } served
    rw [World.askToken_of_some hc caller, hacquire]
    cases admission with
    | admitted => exact hask hserved
    | closed => exact hask hserved
    | queued => exact hask ⟨hserved.now, Nat.le_succ _, hserved.buckets⟩
  | pickUpToken h =>
    obtain ⟨_, _, hc, hpick, rfl⟩ := World.pickUpToken_eq_granted h
    exact .pickUp hc hpick ⟨rfl, Nat.le_refl _, fun other => Table.get?_set ..⟩
  | refuseToken h =>
    obtain ⟨_, hc, hpick, hclosed, -⟩ := World.pickUpToken_eq_refused h
    exact .refuse hc hpick hclosed
  | leaveToken id ticket =>
    cases hc : w.buckets.get? id with
    | some c =>
      refine .leave hc ⟨rfl, Nat.le_refl _, fun other => (Table.get?_modify ..).trans ?_⟩
      split
      · next heq => rw [← heq, hc]; rfl
      · rfl
    | none =>
      refine .other rfl (Nat.le_refl _) (fun other => (Table.get?_modify ..).trans ?_) ?_
      · split
        · next heq => rw [← heq, hc]; rfl
        · rfl
      · intro other c hc' t
        have hne : other ≠ id := by
          rintro rfl
          rw [hc] at hc'
          cases hc'
        simp [hne]
  | refillBucket id =>
    cases hc : w.buckets.get? id with
    | none =>
      rw [World.refillBucket_of_none hc]
      exact same rfl rfl rfl
    | some c =>
      rw [World.refillBucket_of_some hc]
      exact .refill hc (moves_wakeAll ..)
  | shutDownBucket id =>
    unfold World.shutDownBucket
    split
    · next c hc => exact .shutDown hc (moves_wakeAll ..)
    · exact same rfl rfl rfl
  -- The acts on caches have nothing to do with buckets or with what is held.
  | readCache id key =>
    obtain ⟨_, -, heq⟩ := w.readCache_eq id key
    rw [heq]
    exact same rfl rfl rfl
  | writeCache id key value ttl =>
    obtain ⟨_, _, _, -, heq⟩ := w.writeCache_eq id key value ttl
    rw [heq]
    exact same rfl rfl rfl
  | sweepCache id =>
    obtain ⟨_, _, _, -, heq⟩ := w.sweepCache_eq id
    rw [heq]
    exact same rfl rfl rfl

namespace Bucket

/-! ### The history of a bucket -/

/-- The history has come to the state of a bucket at a time, and every place in line, or token
that was granted there, is held by somebody. -/
structure Shows (id : ComponentId) (b : Bucket) (now : Instant) (H : Multiset Hold)
    (h : History) : Prop where
  state : h.bucket = b
  clock : h.now = now
  places (ticket : Ticket) : b.tickets.count ticket ≤ H.count (.tokenPlace id ticket)

namespace Shows

open History

variable {id : ComponentId} {config : Config} {b b' : Bucket} {now : Instant}
  {H H' : Multiset Hold} {h : History} {ticket : Ticket}

/-- Other holds do not matter. -/
theorem congr (hs : Shows id b now H h)
    (hholds : ∀ ticket, H'.count (.tokenPlace id ticket) = H.count (.tokenPlace id ticket)) :
    Shows id b now H' h :=
  ⟨hs.state, hs.clock, fun t => (hs.places t).trans (hholds t).ge⟩

theorem ask (hs : Shows id b now H h) (ticket : Ticket) (caller : TaskId) :
    Shows id (b.acquire config now ⟨ticket, caller, true⟩).2.2 now
      ((b.acquire config now ⟨ticket, caller, true⟩).1.holds id ticket + H)
      (h.step config (.ask ticket caller)) := by
  obtain ⟨rfl, rfl, places⟩ := hs
  refine ⟨rfl, rfl, fun t => ?_⟩
  have hcount := count_tickets_acquire config h.now h.bucket ticket t caller id
  have hplaces := places t
  rw [Multiset.count_add]
  omega

/-- A place is given up. -/
private theorem count_le_of_cons {n m : Nat} {other : Ticket}
    (h : m ≤ (Hold.tokenPlace id ticket ::ₘ H).count (.tokenPlace id other))
    (hn : n ≤ m - if ticket = other then 1 else 0) : n ≤ H.count (.tokenPlace id other) := by
  by_cases heq : ticket = other
  · subst heq
    rw [Multiset.count_cons_self] at h
    rw [if_pos rfl] at hn
    omega
  · rw [Multiset.count_cons_of_ne (by simp [Ne.symm heq])] at h
    rw [if_neg heq] at hn
    exact hn.trans h

theorem pickUp (config : Config) (hs : Shows id b now (.tokenPlace id ticket ::ₘ H) h)
    (hpick : b.pickUp? ticket = some b') :
    Shows id b' now H (h.step config (.pickUp ticket)) := by
  obtain ⟨rfl, rfl, places⟩ := hs
  simp only [step, History.pickUp, hpick]
  refine ⟨rfl, rfl, fun t => ?_⟩
  obtain ⟨hgranted, rfl⟩ := pickUp?_eq_some hpick
  exact count_le_of_cons (places t) (count_tickets_erase h.bucket ticket t hgranted).le

/-- A waiter of a bucket that was closed gives its place back when it runs again. -/
theorem refuse (hs : Shows id b now (.tokenPlace id ticket ::ₘ H) h) {created : Instant}
    (hsound : Sound config created h) (hpick : b.pickUp? ticket = none)
    (hclosed : b.closed = true) : Shows id b now H h := by
  obtain ⟨rfl, rfl, places⟩ := hs
  refine ⟨rfl, rfl, fun t => count_le_of_cons (places t) ?_⟩
  have hnot : ticket ∉ h.bucket.granted := fun hmem => by simp [pickUp?, hmem] at hpick
  have hline : Queue.waiting h.bucket.queue = [] := by rw [hsound.closed hclosed]; rfl
  by_cases heq : ticket = t
  · subst heq
    simp [tickets, hline, List.count_eq_zero.mpr hnot]
  · simp [heq]

theorem giveUp (config : Config) (hs : Shows id b now (.tokenPlace id ticket ::ₘ H) h) :
    Shows id (b.giveUp ticket) now H (h.step config (.giveUp ticket)) := by
  obtain ⟨rfl, rfl, places⟩ := hs
  exact ⟨rfl, rfl, fun t => count_le_of_cons (places t) (count_tickets_giveUp ..)⟩

theorem refill (hs : Shows id b now H h) :
    Shows id (b.refill config now).2 now H (h.step config .refill) := by
  obtain ⟨rfl, rfl, places⟩ := hs
  exact ⟨rfl, rfl, fun t => (count_tickets_refill config h.now h.bucket t).trans_le (places t)⟩

theorem shutDown (config : Config) (hs : Shows id b now H h) :
    Shows id b.shutDown.2 now H (h.step config .shutDown) := by
  obtain ⟨rfl, rfl, places⟩ := hs
  refine ⟨rfl, rfl, fun t => (Nat.le_trans ?_ (places t))⟩
  simp [tickets, Bucket.shutDown, List.count_append]

end Shows

end Bucket

/-- The numbers of buckets were given out before. -/
def BucketsNumbered (w : World) : Prop :=
  ∀ id c, w.buckets.get? id = some c → id < w.serial

namespace BucketsNumbered

variable {w w' : World} {H H' : Multiset Hold}

private theorem update (h : BucketsNumbered w) {id : ComponentId}
    {c' : Component Bucket.Config Bucket} (hmoves : w.BucketMoves w' id c')
    (hid : id < w'.serial) : BucketsNumbered w' := by
  intro other c hc
  rw [hmoves.buckets] at hc
  split at hc
  · next heq => exact heq ▸ hid
  · exact (h other c hc).trans_le hmoves.serial

theorem act (h : BucketsNumbered w) (hact : BucketAct ⟨w, H⟩ ⟨w', H'⟩) :
    BucketsNumbered w' := by
  have hthere {id : ComponentId} {c c' : Component Bucket.Config Bucket}
      (hc : w.buckets.get? id = some c) (hmoves : w.BucketMoves w' id c') :
      BucketsNumbered w' := h.update hmoves ((h id c hc).trans_le hmoves.serial)
  cases hact with
  | other hnow hserial hbuckets =>
    exact fun id c hc => (h id c (hbuckets id ▸ hc)).trans_le hserial
  | pass instant => exact h
  | create name config hmoves hserial => exact h.update hmoves (hserial ▸ Nat.lt_succ_self _)
  | ask caller hc hmoves => exact hthere hc hmoves
  | pickUp hc hpick hmoves => exact hthere hc hmoves
  | refuse => exact h
  | leave hc hmoves => exact hthere hc hmoves
  | refill hc hmoves => exact hthere hc hmoves
  | shutDown hc hmoves => exact hthere hc hmoves

end BucketsNumbered

theorem Scene.Reachable.bucketsNumbered {sc : Scene} (h : sc.Reachable) :
    BucketsNumbered sc.world := by
  induction h with
  | empty => exact fun id c hc => by cases hc
  | act _ hact ih => exact ih.act hact.onBuckets
  | outside _ _ _ ih => exact ih

namespace Bucket

/-! ### What an act is for one bucket -/

/-- What an act is for the bucket of a number: the state that it leads to, the time, and what is
held before and afterwards. -/
inductive Turned (id : ComponentId) (config : Config) (ticket : Ticket) (now : Instant)
    (b : Bucket) : Multiset Hold → Instant → Bucket → Multiset Hold → Prop
  | still {H H'} (hholds : ∀ t, H'.count (.tokenPlace id t) = H.count (.tokenPlace id t)) :
      Turned id config ticket now b H now b H'
  | pass {H} (instant : Instant) : Turned id config ticket now b H (max now instant) b H
  | ask {H} (caller : TaskId) :
      Turned id config ticket now b H now (b.acquire config now ⟨ticket, caller, true⟩).2.2
        ((b.acquire config now ⟨ticket, caller, true⟩).1.holds id ticket + H)
  | pickUp {H t b'} (hpick : b.pickUp? t = some b') :
      Turned id config ticket now b (.tokenPlace id t ::ₘ H) now b' H
  | refuse {H t} (hpick : b.pickUp? t = none) (hclosed : b.closed = true) :
      Turned id config ticket now b (.tokenPlace id t ::ₘ H) now b H
  | leave {H t} : Turned id config ticket now b (.tokenPlace id t ::ₘ H) now (b.giveUp t) H
  | refill {H} : Turned id config ticket now b H now (b.refill config now).2 H
  | shutDown {H} : Turned id config ticket now b H now b.shutDown.2 H

theorem Turned.of_act {w w' : World} {H H' : Multiset Hold} {id : ComponentId}
    {c : Component Config Bucket} (hn : BucketsNumbered w) (hact : BucketAct ⟨w, H⟩ ⟨w', H'⟩)
    (hc : w.buckets.get? id = some c) :
    ∃ b, w'.buckets.get? id = some { c with state := b } ∧
      Turned id c.config w.serial w.now c.state H w'.now b H' := by
  -- A move of another bucket is none of this one.
  have helse {other : ComponentId} {d : Component Config Bucket} (hne : other ≠ id)
      (hmoves : w.BucketMoves w' other d)
      (hholds : ∀ t, H'.count (.tokenPlace id t) = H.count (.tokenPlace id t)) :
      ∃ b, w'.buckets.get? id = some { c with state := b } ∧
        Turned id c.config w.serial w.now c.state H w'.now b H' :=
    ⟨c.state, by rw [hmoves.buckets, if_neg hne, hc], hmoves.now ▸ .still hholds⟩
  -- A move of this one.
  have hthis {d : Component Config Bucket} {b : Bucket} (hd : w.buckets.get? id = some d)
      (hmoves : w.BucketMoves w' id { d with state := b })
      (hturned : Turned id d.config w.serial w.now d.state H w.now b H') :
      ∃ b, w'.buckets.get? id = some { c with state := b } ∧
        Turned id c.config w.serial w.now c.state H w'.now b H' := by
    obtain rfl := Option.some.inj (hc.symm.trans hd)
    exact ⟨b, by rw [hmoves.buckets, if_pos rfl], hmoves.now ▸ hturned⟩
  cases hact with
  | other hnow hserial hbuckets hholds =>
    exact ⟨c.state, by rw [hbuckets, hc], hnow ▸ .still (hholds id c hc)⟩
  | pass instant => exact ⟨c.state, hc, .pass instant⟩
  | create name config hmoves hserial =>
    have hne : w.serial ≠ id := fun heq => lt_irrefl _ (hn w.serial c (heq ▸ hc))
    exact helse hne hmoves fun _ => rfl
  | @ask _ _ _ other d caller hd hmoves =>
    by_cases heq : other = id
    · subst heq
      exact hthis hd hmoves (.ask caller)
    · refine helse heq hmoves fun t => ?_
      cases (d.state.acquire d.config w.now ⟨w.serial, caller, true⟩).1 <;>
        simp [Admission.holds, Ne.symm heq]
  | @pickUp _ _ _ other d ticket b hd hpick hmoves =>
    by_cases heq : other = id
    · subst heq
      exact hthis hd hmoves (.pickUp hpick)
    · exact helse heq hmoves (by simp [Ne.symm heq])
  | @refuse _ _ other d ticket hd hpick hclosed =>
    refine ⟨c.state, hc, ?_⟩
    by_cases heq : other = id
    · subst heq
      obtain rfl := Option.some.inj (hc.symm.trans hd)
      exact .refuse hpick hclosed
    · exact .still (by simp [Ne.symm heq])
  | @leave _ _ _ other d ticket hd hmoves =>
    by_cases heq : other = id
    · subst heq
      exact hthis hd hmoves .leave
    · exact helse heq hmoves (by simp [Ne.symm heq])
  | @refill _ _ _ other d hd hmoves =>
    by_cases heq : other = id
    · subst heq
      exact hthis hd hmoves .refill
    · exact helse heq hmoves fun _ => rfl
  | @shutDown _ _ _ other d hd hmoves =>
    by_cases heq : other = id
    · subst heq
      exact hthis hd hmoves .shutDown
    · exact helse heq hmoves fun _ => rfl

/-! ### The history of a bucket in a scene -/

open History

variable {w w' : World} {H H' : Multiset Hold} {id : ComponentId}

/-- A bucket that was not there begins with an empty history. -/
theorem Shows.born {c' : Component Config Bucket} (hact : BucketAct ⟨w, H⟩ ⟨w', H'⟩)
    (hnone : w.buckets.get? id = none) (hc' : w'.buckets.get? id = some c') :
    Shows id c'.state w'.now H' (create c'.config w'.now) := by
  have hnot {other : ComponentId} {c d : Component Config Bucket}
      (hc : w.buckets.get? other = some c) (hmoves : w.BucketMoves w' other d) : False := by
    rw [hmoves.buckets] at hc'
    split at hc'
    · next heq => rw [← heq, hc] at hnone; cases hnone
    · rw [hnone] at hc'; cases hc'
  cases hact with
  | other hnow hserial hbuckets => rw [hbuckets, hnone] at hc'; cases hc'
  | pass instant => exact absurd (hnone.symm.trans hc') (by simp)
  | create name config hmoves hserial =>
    rw [hmoves.buckets] at hc'
    split at hc'
    · obtain rfl := Option.some.inj hc'
      exact ⟨congrArg (full config) hmoves.now, rfl, fun t => Nat.zero_le _⟩
    · rw [hnone] at hc'; cases hc'
  | ask caller hc hmoves => exact (hnot hc hmoves).elim
  | pickUp hc hpick hmoves => exact (hnot hc hmoves).elim
  | refuse => exact absurd (hnone.symm.trans hc') (by simp)
  | leave hc hmoves => exact (hnot hc hmoves).elim
  | refill hc hmoves => exact (hnot hc hmoves).elim
  | shutDown hc hmoves => exact (hnot hc hmoves).elim

/-- Every history of a bucket can be led on to another scene by at most one move. -/
def StepsOn (id : ComponentId) (config : Config) (b b' : Bucket) (sc sc' : Scene) : Prop :=
  ∀ created h, Sound config created h → Shows id b sc.world.now sc.holds h →
    ∃ move? : Option Move,
      Shows id b' sc'.world.now sc'.holds (move?.toList.foldl (History.step config) h)

/-- What an act is for a bucket is at most one move of its history. -/
theorem Shows.turned {config : Config} {ticket : Ticket} {now now' created : Instant}
    {b b' : Bucket} {h : History} (hturned : Turned id config ticket now b H now' b' H')
    (hsound : Sound config created h) (hs : Shows id b now H h) :
    ∃ move? : Option Move,
      Shows id b' now' H' (move?.toList.foldl (History.step config) h) := by
  cases hturned with
  | still hholds => exact ⟨none, hs.congr hholds⟩
  | pass instant =>
    exact ⟨some (.pass instant), hs.state, congrArg (max · instant) hs.clock, hs.places⟩
  | ask caller => exact ⟨some (.ask ticket caller), hs.ask ticket caller⟩
  | @pickUp _ t _ hpick => exact ⟨some (.pickUp t), hs.pickUp config hpick⟩
  | refuse hpick hclosed => exact ⟨none, hs.refuse hsound hpick hclosed⟩
  | @leave _ t => exact ⟨some (.giveUp t), hs.giveUp config⟩
  | refill => exact ⟨some .refill, hs.refill⟩
  | shutDown => exact ⟨some .shutDown, hs.shutDown config⟩

/-- **An act is at most one move of a bucket.** -/
theorem Shows.act {c : Component Config Bucket} (hn : BucketsNumbered w)
    (hact : BucketAct ⟨w, H⟩ ⟨w', H'⟩) (hc : w.buckets.get? id = some c) :
    ∃ b, w'.buckets.get? id = some { c with state := b } ∧
      StepsOn id c.config c.state b ⟨w, H⟩ ⟨w', H'⟩ := by
  obtain ⟨b, hb, hturned⟩ := Turned.of_act hn hact hc
  exact ⟨b, hb, fun _ _ hsound hs => hs.turned hturned hsound⟩

/-- **However a scene goes on, so does the history of each of its buckets.** -/
theorem Shows.steps {sc sc' : Scene} (h : sc.Reachable) (hsteps : Steps sc sc')
    {c : Component Config Bucket} (hc : sc.world.buckets.get? id = some c) {created : Instant}
    {moves : List Move}
    (hshows : Shows id c.state sc.world.now sc.holds (run c.config created moves)) :
    ∃ b, sc'.world.buckets.get? id = some { c with state := b } ∧ ∃ more : List Move,
      Shows id b sc'.world.now sc'.holds (run c.config created (moves ++ more)) := by
  induction hsteps with
  | refl => exact ⟨c.state, hc, [], by rwa [List.append_nil]⟩
  | @tail sc₁ sc₂ hfirst hact ih =>
    obtain ⟨b, hb, more, hs⟩ := ih
    have hn := (h.steps hfirst).bucketsNumbered
    obtain ⟨b', hb', hon⟩ := Shows.act hn hact.onBuckets hb
    obtain ⟨move?, hs'⟩ := hon created _ (sound_run c.config created (moves ++ more)) hs
    refine ⟨b', hb', more ++ move?.toList, ?_⟩
    rw [← List.append_assoc, run, List.foldl_append]
    exact hs'

/-- **Every bucket of a scene has a history.** -/
theorem exists_history {sc : Scene} (h : sc.Reachable) {c : Component Config Bucket}
    (hc : sc.world.buckets.get? id = some c) :
    ∃ created moves, Shows id c.state sc.world.now sc.holds (run c.config created moves) := by
  induction h generalizing c with
  | empty => cases hc
  | outside _ _ _ ih => exact ih hc
  | @act sc₁ sc₂ hsc hact ih =>
    cases hc₁ : sc₁.world.buckets.get? id with
    | none => exact ⟨sc₂.world.now, [], Shows.born hact.onBuckets hc₁ hc⟩
    | some c₁ =>
      obtain ⟨created, moves, hshows⟩ := ih hc₁
      obtain ⟨b, hb, more, hmore⟩ := Shows.steps hsc (.single hact) hc₁ hshows
      obtain rfl := Option.some.inj (hb.symm.trans hc)
      exact ⟨created, moves ++ more, hmore⟩

end Bucket

end Resilience
