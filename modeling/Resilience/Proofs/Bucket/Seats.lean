import Resilience.Proofs.Execution
import Resilience.Proofs.Bucket.Callers

/-!
# Calls in the line of a bucket

A call waits in at most one line at a time, that of its innermost layer. If that is the line of a
bucket, the bucket and the ticket are the **seat** of the call. When the call is resumed, its
innermost layer goes on or stays, and the layers around do the rest (`Call.resume_eq`).

A caller that is served has to be woken, or it would wait for ever. `World.Serves` says what a step
does for those in line: whoever is handed a token is woken, nobody loses a turn, and new places
have new tickets. Every step that a call makes is of this kind, and a call that has had its turn
and is in line has just joined it, or has stayed where it was since there was no word for it
(`Seating`).
-/

namespace Resilience

/-! ### Nobody is served without being woken -/

namespace Queue

variable {x : Waiter} {queue : List Waiter}

/-- Giving up brings nobody to life. -/
theorem mem_purge_of_giveUp {ticket : Ticket} (h : x ∈ purge (giveUp ticket queue)) :
    x ∈ purge queue := by
  obtain ⟨hmem, hlive⟩ := List.mem_filter.mp h
  obtain ⟨w, hw, rfl⟩ := List.mem_map.mp hmem
  by_cases ht : w.ticket = ticket
  · rw [if_pos ht] at hlive
    cases hlive
  · rw [if_neg ht] at hlive ⊢
    exact List.mem_filter.mpr ⟨hw, hlive⟩

end Queue

/-- What a move of a bucket does for those in line: whoever is handed a token was in line and is
told, and new places have new tickets. -/
structure Bucket.Serves (serial : Nat) (b : Bucket) (served : List Waiter) (b' : Bucket) :
    Prop where
  line {x : Waiter} : x ∈ Queue.purge b'.queue → x ∈ Queue.purge b.queue ∨ serial ≤ x.ticket
  granted {ticket : Ticket} : ticket ∈ b'.granted →
    ticket ∈ b.granted ∨ ∃ x ∈ served, x.ticket = ticket
  served {x : Waiter} : x ∈ served → x ∈ Queue.purge b.queue
  isOpen : b'.closed = true → b.closed = true

namespace Bucket.Serves

variable {serial : Nat} {b : Bucket}

/-- Nobody is handed a token. -/
theorem nobody {b' : Bucket}
    (hline : ∀ x ∈ Queue.purge b'.queue, x ∈ Queue.purge b.queue ∨ serial ≤ x.ticket)
    (hgranted : ∀ ticket ∈ b'.granted, ticket ∈ b.granted)
    (hopen : b'.closed = true → b.closed = true) : Serves serial b [] b' where
  line h := hline _ h
  granted h := .inl (hgranted _ h)
  served h := by cases h
  isOpen := hopen

theorem refill (config : Config) (now : Instant) :
    Serves serial b (b.refill config now).1 (b.refill config now).2 := by
  by_cases hdue : b.refillDue config now = true
  · have hfill : b.refill config now = b.fill config now := by simp [Bucket.refill, hdue]
    have hpurge := Queue.purge_serve config.capacity b.queue
    rw [hfill]
    exact {
      line := fun h => .inl (hpurge ▸ List.mem_append_right _ h)
      granted := fun h => (List.mem_append.mp h).imp_right List.mem_map.mp
      served := fun h => hpurge ▸ List.mem_append_left _ h
      isOpen := id }
  · rw [refill_of_not_due (Bool.eq_false_iff.mpr hdue)]
    exact .nobody (fun _ => .inl) (fun _ => id) id

theorem acquire (config : Config) (now : Instant) (caller : TaskId) :
    Serves serial b (b.acquire config now ⟨serial, caller, true⟩).2.1
      (b.acquire config now ⟨serial, caller, true⟩).2.2 := by
  have hrefill : Serves serial b _ _ := refill config now
  obtain ⟨-, hask⟩ | ⟨-, -, hask⟩ | ⟨-, -, hask⟩ :=
    acquire_cases config now ⟨serial, caller, true⟩ b
  · rw [hask]
    exact .nobody (fun _ => .inl) (fun _ => id) id
  · rw [hask]
    exact ⟨hrefill.line, hrefill.granted, hrefill.served, hrefill.isOpen⟩
  · rw [hask]
    refine ⟨fun {x} h => ?_, hrefill.granted, hrefill.served, hrefill.isOpen⟩
    obtain ⟨hmem, hlive⟩ := List.mem_filter.mp h
    rcases List.mem_append.mp hmem with hbefore | hnew
    · exact hrefill.line (List.mem_filter.mpr ⟨hbefore, hlive⟩)
    · exact .inr (by rw [List.mem_singleton.mp hnew])

theorem pickUp {ticket : Ticket} {b' : Bucket} (h : b.pickUp? ticket = some b') :
    Serves serial b [] b' := by
  obtain ⟨-, rfl⟩ := pickUp?_eq_some h
  exact .nobody (fun _ => .inl) (fun _ => List.mem_of_mem_erase) id

theorem giveUp (ticket : Ticket) : Serves serial b [] (b.giveUp ticket) := by
  unfold Bucket.giveUp
  split
  · exact .nobody (fun _ => .inl) (fun _ => List.mem_of_mem_erase) id
  · exact .nobody (fun _ h => .inl (Queue.mem_purge_of_giveUp h)) (fun _ => id) id

end Bucket.Serves

namespace World

/-- The state of a bucket. One that is not there has neither tokens nor a line. -/
def bucketOf (id : ComponentId) (w : World) : Bucket :=
  match w.buckets.get? id with
  | some c => c.state
  | none => ⟨0, 0, [], [], false⟩

theorem bucketOf_of_some {w : World} {id : ComponentId} {c : Component Bucket.Config Bucket}
    (hc : w.buckets.get? id = some c) : w.bucketOf id = c.state := by
  rw [bucketOf, hc]

theorem bucketOf_of_eq {w w' : World} (h : w'.buckets = w.buckets) (id : ComponentId) :
    w'.bucketOf id = w.bucketOf id := by
  rw [bucketOf, bucketOf, h]

theorem bucketOf_set {w w' : World} {id : ComponentId} {c : Component Bucket.Config Bucket}
    (h : w'.buckets = w.buckets.set id c) (other : ComponentId) :
    w'.bucketOf other = if id = other then c.state else w.bucketOf other := by
  simp only [bucketOf, h, Table.get?_set]
  by_cases heq : id = other
  · simp [heq]
  · simp [heq]

/-- Whoever is told to wait on waits for an open bucket, and was not handed a token. -/
theorem bucketOf_of_waiting {w : World} {id : ComponentId} {ticket : Ticket}
    (h : w.pickUpToken id ticket = .waiting) :
    ticket ∉ (w.bucketOf id).granted ∧ (w.bucketOf id).closed = false := by
  unfold pickUpToken at h
  unfold bucketOf
  cases hc : w.buckets.get? id with
  | none => exact ⟨List.not_mem_nil, rfl⟩
  | some c =>
    simp only [hc, Bucket.pickUp?] at h
    by_cases hgranted : ticket ∈ c.state.granted
    · simp [hgranted] at h
    · refine ⟨hgranted, Bool.eq_false_iff.mpr fun hclosed => ?_⟩
      simp [hgranted, hclosed] at h

/-- What a step of the world does for those in the lines of buckets: nobody loses a turn or is
overtaken in the run queue, whoever is handed a token is woken, new places have new tickets, and no
bucket is closed. -/
structure Serves (w w' : World) : Prop where
  serial : w.serial ≤ w'.serial
  ready : w.ready <+: w'.ready
  line (id : ComponentId) {x : Waiter} : x ∈ Queue.purge (w'.bucketOf id).queue →
    x ∈ Queue.purge (w.bucketOf id).queue ∨ w.serial ≤ x.ticket
  granted (id : ComponentId) {ticket : Ticket} : ticket ∈ (w'.bucketOf id).granted →
    ticket ∈ (w.bucketOf id).granted ∨ w.serial ≤ ticket ∨
      ∃ x ∈ Queue.purge (w.bucketOf id).queue, x.ticket = ticket ∧ x.caller ∈ w'.ready
  isOpen (id : ComponentId) : (w'.bucketOf id).closed = true → (w.bucketOf id).closed = true

namespace Serves

variable {w w' w'' : World}

/-- The buckets are the same ones. -/
theorem of_prefix (hb : w'.buckets = w.buckets) (hr : w.ready <+: w'.ready)
    (hs : w.serial ≤ w'.serial) : w.Serves w' where
  serial := hs
  ready := hr
  line id _ h := .inl (bucketOf_of_eq hb id ▸ h)
  granted id _ h := .inl (bucketOf_of_eq hb id ▸ h)
  isOpen id h := bucketOf_of_eq hb id ▸ h

/-- The buckets and the run queue are the same ones. -/
theorem of_eq (hb : w'.buckets = w.buckets) (hr : w'.ready = w.ready)
    (hs : w.serial ≤ w'.serial) : w.Serves w' :=
  of_prefix hb (hr ▸ List.prefix_rfl) hs

theorem refl (w : World) : w.Serves w := of_eq rfl rfl (le_refl _)

theorem trans (h : w.Serves w') (h' : w'.Serves w'') : w.Serves w'' where
  serial := h.serial.trans h'.serial
  ready := h.ready.trans h'.ready
  line id {x} hmem := by
    rcases h'.line id hmem with hmem | hnew
    · exact h.line id hmem
    · exact .inr (h.serial.trans hnew)
  granted id {ticket} hmem := by
    rcases h'.granted id hmem with hmem | hnew | ⟨x, hx, rfl, hwoken⟩
    · rcases h.granted id hmem with hmem | hnew | ⟨x, hx, heq, hwoken⟩
      · exact .inl hmem
      · exact .inr (.inl hnew)
      · exact .inr (.inr ⟨x, hx, heq, h'.ready.subset hwoken⟩)
    · exact .inr (.inl (h.serial.trans hnew))
    · rcases h.line id hx with hx | hnew
      · exact .inr (.inr ⟨x, hx, rfl, hwoken⟩)
      · exact .inr (.inl hnew)
  isOpen id hclosed := h.isOpen id (h'.isOpen id hclosed)

/-- A bucket makes a move, and those who were handed a token are woken. -/
theorem move (id : ComponentId) {served : List Waiter} {b : Bucket}
    (h : Bucket.Serves w.serial (w.bucketOf id) served b)
    (hafter : ∀ other, w'.bucketOf other = if id = other then b else w.bucketOf other)
    (hready : w.ready <+: w'.ready) (hwoken : ∀ x ∈ served, x.caller ∈ w'.ready)
    (hserial : w.serial ≤ w'.serial) : w.Serves w' := by
  refine ⟨hserial, hready, fun other x hmem => ?_, fun other ticket hmem => ?_,
    fun other hclosed => ?_⟩
  · rw [hafter] at hmem
    split at hmem
    · next heq => exact heq ▸ h.line hmem
    · exact .inl hmem
  · rw [hafter] at hmem
    split at hmem
    · next heq =>
      rw [← heq]
      exact (h.granted hmem).imp_right fun ⟨x, hx, hticket⟩ =>
        .inr ⟨x, h.served hx, hticket, hwoken x hx⟩
    · exact .inl hmem
  · rw [hafter] at hclosed
    split at hclosed
    · next heq => exact heq ▸ h.isOpen hclosed
    · exact hclosed

theorem wakeMoved {id : ComponentId} {c : Component Bucket.Config Bucket}
    (hc : w.buckets.get? id = some c) {served : List Waiter} {b : Bucket}
    (h : Bucket.Serves w.serial c.state served b) :
    w.Serves (wakeAll served { w with buckets := w.buckets.set id { c with state := b } }) := by
  have hready := ready_prefix_wakeAll served
    { w with buckets := w.buckets.set id { c with state := b } }
  exact move id (bucketOf_of_some hc ▸ h) (bucketOf_set (buckets_wakeAll ..)) hready
    (fun _ hx => mem_ready_wakeAll hx) (by rw [serial_wakeAll])

/-! ### Steps that leave the buckets alone -/

theorem note (entry : Entry) (w : World) : w.Serves (w.note entry) :=
  of_eq rfl rfl (le_refl _)

theorem wakeAll (served : List Waiter) (w : World) : w.Serves (w.wakeAll served) :=
  of_prefix (buckets_wakeAll ..) (ready_prefix_wakeAll ..) (by rw [serial_wakeAll])

theorem wake (task : TaskId) (w : World) : w.Serves (w.wake task) := by
  have hone : w.wake task = w.wakeAll [⟨0, task, true⟩] := rfl
  exact hone ▸ wakeAll ..

theorem sleep (d : Duration) (w : World) : w.Serves (w.sleep d).2 := by
  unfold World.sleep
  dsimp only
  split
  · exact refl w
  · exact of_eq rfl rfl (Nat.le_succ _)

theorem invoke (id : ComponentId) (arg : Json) (w : World) : w.Serves (w.invoke id arg).2 := by
  obtain ⟨_, _, heq⟩ := w.invoke_eq id arg
  exact heq ▸ of_eq rfl rfl (le_refl _)

theorem enter (name : String) (w : World) : w.Serves (w.enter name).2 := by
  obtain ⟨_, _, _, -, heq⟩ := w.enter_eq name
  exact heq ▸ of_eq rfl rfl (le_refl _)

theorem record (name : String) (probe : Bool) (outcome : Outcome) (w : World) :
    w.Serves (w.record name probe outcome) := by
  obtain ⟨_, _, _, -, heq⟩ := w.record_eq name probe outcome
  exact heq ▸ of_eq rfl rfl (le_refl _)

theorem forgo (name : String) (probe : Bool) (w : World) : w.Serves (w.forgo name probe) := by
  obtain ⟨_, -, heq⟩ := w.forgo_eq name probe
  exact heq ▸ of_eq rfl rfl (le_refl _)

theorem askSlot (id : ComponentId) (caller : TaskId) (w : World) :
    w.Serves (w.askSlot id caller).2 := by
  obtain ⟨_, _, _, _, hserial, -, heq⟩ := w.askSlot_eq id caller
  exact heq ▸ of_eq rfl rfl hserial

theorem pickUpSlot {id : ComponentId} {ticket : Ticket} (h : w.pickUpSlot? id ticket = some w') :
    w.Serves w' := by
  obtain ⟨_, _, -, -, rfl⟩ := pickUpSlot?_eq_some h
  exact of_eq rfl rfl (le_refl _)

/-- A limiter passes its slot on. -/
private theorem limiter (id : ComponentId) (c : Component Limiter.Config Limiter)
    (served : List Waiter) (w : World) :
    w.Serves (World.wakeAll served { w with limiters := w.limiters.set id c }) := by
  have hset : w.Serves { w with limiters := w.limiters.set id c } := of_eq rfl rfl (le_refl _)
  exact hset.trans (wakeAll ..)

theorem releaseSlot (id : ComponentId) (w : World) : w.Serves (w.releaseSlot id) := by
  unfold World.releaseSlot
  split
  · exact limiter ..
  · exact refl w

theorem leaveSlot (id : ComponentId) (ticket : Ticket) (w : World) :
    w.Serves (w.leaveSlot id ticket) := by
  unfold World.leaveSlot
  split
  · exact limiter ..
  · exact refl w

theorem readCache (id : ComponentId) (key : String) (w : World) :
    w.Serves (w.readCache id key).2 := by
  obtain ⟨_, -, heq⟩ := w.readCache_eq id key
  exact heq ▸ of_eq rfl rfl (le_refl _)

theorem writeCache (id : ComponentId) (key : String) (value : Json) (ttl : Nat) (w : World) :
    w.Serves (w.writeCache id key value ttl) := by
  obtain ⟨_, _, _, -, heq⟩ := w.writeCache_eq id key value ttl
  exact heq ▸ of_eq rfl rfl (le_refl _)

theorem sweepCache (id : ComponentId) (w : World) : w.Serves (w.sweepCache id) := by
  obtain ⟨_, _, _, -, heq⟩ := w.sweepCache_eq id
  exact heq ▸ of_eq rfl rfl (le_refl _)

theorem openBreaker (name : String) (config : Breaker.Config) (w : World) :
    w.Serves (w.openBreaker name config) := by
  obtain ⟨_, heq⟩ := w.openBreaker_eq name config
  exact heq ▸ of_eq rfl rfl (le_refl _)

theorem resetBreaker (name : String) (w : World) : w.Serves (w.resetBreaker name).2 := by
  obtain ⟨_, _, _, -, heq⟩ := w.resetBreaker_eq name
  exact heq ▸ of_eq rfl rfl (le_refl _)

/-! ### Steps of buckets -/

/-- A caller that is taken into line stands at its end. -/
theorem askToken (id : ComponentId) (caller : TaskId) (w : World) :
    w.Serves (w.askToken id caller).2 := by
  cases hc : w.buckets.get? id with
  | none =>
    rw [askToken_of_none hc]
    exact refl w
  | some c =>
    have hask := w.askToken_of_some hc caller
    have hserves := wakeMoved hc (.acquire c.config w.now caller)
    rw [hask]
    split
    · exact hserves
    · exact hserves.trans (of_eq rfl rfl (by simp))
    · exact hserves

theorem pickUpToken {id : ComponentId} {ticket : Ticket}
    (h : w.pickUpToken id ticket = .granted w') : w.Serves w' := by
  obtain ⟨_, _, hc, hpick, rfl⟩ := pickUpToken_eq_granted h
  exact wakeMoved hc (.pickUp hpick)

theorem leaveToken (id : ComponentId) (ticket : Ticket) (w : World) :
    w.Serves (w.leaveToken id ticket) := by
  refine move id (.giveUp ticket) (fun other => ?_) List.prefix_rfl (fun _ h => by cases h)
    (le_refl _)
  simp only [bucketOf, World.leaveToken, Table.get?_modify]
  by_cases heq : id = other
  · subst heq
    cases hc : w.buckets.get? id with
    | none => simp [Bucket.giveUp, Queue.giveUp]
    | some c => simp
  · simp [heq]

theorem refillBucket (id : ComponentId) (w : World) : w.Serves (w.refillBucket id).2 := by
  cases hc : w.buckets.get? id with
  | none =>
    rw [refillBucket_of_none hc]
    exact refl w
  | some c =>
    rw [World.refillBucket_of_some hc]
    exact wakeMoved hc (.refill c.config w.now)

/-- A new bucket is full, and nobody is in line. -/
theorem createBucket (name : String) (config : Bucket.Config) (w : World) :
    w.Serves (w.createBucket name config).2 :=
  move w.serial (b := .full config w.now) (.nobody (by simp [Bucket.full, Queue.purge])
    (by simp [Bucket.full]) (by simp [Bucket.full]))
    (bucketOf_set (c := ⟨name, config, .full config w.now⟩) rfl) List.prefix_rfl
    (fun _ h => by cases h) (Nat.le_succ _)

end Serves

end World

/-- **Every act that takes nobody's turn away serves those in line, unless it closes a bucket.** -/
theorem Act.serves {w w' : World} {H H' : Multiset Hold} (h : Act ⟨w, H⟩ ⟨w', H'⟩)
    (hready : w.ready <+: w'.ready) : w.Serves w' ∨ ∃ id, w' = w.shutDownBucket id := by
  cases h with
  | shutDownBucket id => exact .inr ⟨id, rfl⟩
  | idle h =>
    have hserves := World.Serves.of_prefix h.buckets hready h.serial
    exact .inl hserves
  | pass | nameLimiter | nameBucket | handleCache | refuseToken =>
    exact .inl (.of_eq rfl rfl (le_refl _))
  | createLimiter | createCache | createSource => exact .inl (.of_eq rfl rfl (Nat.le_succ _))
  | createBucket name config => exact .inl (.createBucket name config w)
  | openBreaker name config => exact .inl (.openBreaker name config w)
  | invoke id arg => exact .inl (.invoke id arg w)
  | @enter _ _ name => exact .inl (.enter name w)
  | record name probe outcome => exact .inl (.record name probe outcome w)
  | forgo name probe => exact .inl (.forgo name probe w)
  | resetBreaker name => exact .inl (.resetBreaker name w)
  | @askSlot _ _ id caller => exact .inl (.askSlot id caller w)
  | pickUpSlot h => exact .inl (.pickUpSlot h)
  | releaseSlot id => exact .inl (.releaseSlot id w)
  | leaveSlot id ticket => exact .inl (.leaveSlot id ticket w)
  | @askToken _ _ id caller => exact .inl (.askToken id caller w)
  | pickUpToken h => exact .inl (.pickUpToken h)
  | leaveToken id ticket => exact .inl (.leaveToken id ticket w)
  | refillBucket id => exact .inl (.refillBucket id w)
  | readCache id key => exact .inl (.readCache id key w)
  | writeCache id key value ttl => exact .inl (.writeCache id key value ttl w)
  | sweepCache id => exact .inl (.sweepCache id w)

/-! ### The seat of a call -/

namespace Call

/-- The innermost layer of a call, which is where the call is blocked. -/
def innermost : Call → Call
  | guarded _ _ inner => inner.innermost
  | withFallback _ _ _ _ inner => inner.innermost
  | holdingSlot _ inner => inner.innermost
  | timed _ _ _ inner => inner.innermost
  | attempting _ _ _ _ _ inner => inner.innermost
  | filling _ _ _ inner => inner.innermost
  | c => c

/-- What the layers of a call make of what comes of a turn of the innermost one. -/
def around (task : TaskId) : Call → Poll × World → Poll × World
  | guarded breaker probe inner, r => afterGuarded breaker probe (inner.around task r)
  | withFallback breaker probe fallback arg inner, r =>
    afterPrimary breaker probe fallback arg (fun w => fallback.start task arg w)
      (inner.around task r)
  | holdingSlot limiter inner, r => afterHolding limiter (inner.around task r)
  | timed timer limit name inner, r => afterTimed timer limit name (inner.around task r)
  | attempting policy left delay op arg inner, r =>
    afterAttempt policy op arg left delay
      (fun delay w => attempts policy op arg (fun w => op.start task arg w) (left - 1) delay w)
      (inner.around task r)
  | filling cache key ttl inner, r => afterFilling cache key ttl (inner.around task r)
  | working .., r => r
  | awaitingSlot .., r => r
  | awaitingToken .., r => r
  | pausing .., r => r

/-- **A turn of a call is a turn of its innermost layer**, and the layers around it attend to what
comes of it. -/
theorem resume_eq (task : TaskId) (c : Call) (w : World) :
    c.resume task w = c.around task (c.innermost.resume task w) := by
  induction c with
  | working | awaitingSlot | awaitingToken | pausing => rfl
  | guarded _ _ _ ih | withFallback _ _ _ _ _ ih | holdingSlot _ _ ih | timed _ _ _ _ ih
    | attempting _ _ _ _ _ _ ih | filling _ _ _ _ ih => simp only [resume, around, innermost, ih]

/-- The bucket and the ticket of a call that waits in the line of a bucket. -/
def seat? (c : Call) : Option (ComponentId × Ticket) :=
  match c.innermost with
  | awaitingToken bucket ticket _ _ => some (bucket, ticket)
  | _ => none

variable {c : Call} {id : ComponentId} {ticket : Ticket}

theorem innermost_of_seat? (h : c.seat? = some (id, ticket)) :
    ∃ inner arg, c.innermost = .awaitingToken id ticket inner arg := by
  unfold seat? at h
  split at h
  · next inner arg heq =>
    cases h
    exact ⟨inner, arg, heq⟩
  · cases h

/-- A call in line that learns that there will be no token goes on as if the operation behind the
line had failed so. -/
theorem resume_of_refused {w : World} {rejection : Rejection} (h : c.seat? = some (id, ticket))
    (hpick : w.pickUpToken id ticket = .refused rejection) (task : TaskId) :
    c.resume task w = c.around task (.ready (.error (.rejected rejection)), w) := by
  obtain ⟨inner, arg, heq⟩ := innermost_of_seat? h
  rw [resume_eq, heq, resume, hpick]

/-- A call in line that was handed a token starts the operation behind the line. -/
theorem resume_of_granted {w w' : World} (h : c.seat? = some (id, ticket))
    (hpick : w.pickUpToken id ticket = .granted w') (task : TaskId) :
    ∃ inner arg, c.innermost = .awaitingToken id ticket inner arg ∧
      c.resume task w = c.around task (inner.start task arg w') := by
  obtain ⟨inner, arg, heq⟩ := innermost_of_seat? h
  exact ⟨inner, arg, heq, by rw [resume_eq, heq, resume, hpick]⟩

/-- Whoever has a seat holds its place. -/
theorem mem_holds_of_seat? (h : c.seat? = some (id, ticket)) :
    .tokenPlace id ticket ∈ c.holds := by
  induction c with
  | working | awaitingSlot | pausing => cases h
  | awaitingToken =>
    cases h
    exact Multiset.mem_singleton_self _
  | guarded _ _ _ ih | withFallback _ _ _ _ _ ih | holdingSlot _ _ ih =>
    exact Multiset.mem_cons_of_mem (ih h)
  | timed _ _ _ _ ih | attempting _ _ _ _ _ _ ih | filling _ _ _ _ ih => exact ih h

/-- A call that is taken apart leaves what it is in, and wakes whoever comes next. -/
theorem abandon_serves (c : Call) (w : World) : w.Serves (c.abandon w) := by
  induction c with
  | working | pausing => exact .refl w
  | awaitingSlot limiter ticket => exact .leaveSlot limiter ticket w
  | awaitingToken bucket ticket => exact .leaveToken bucket ticket w
  | guarded breaker probe _ ih | withFallback breaker probe _ _ _ ih =>
    exact ih.trans (.forgo breaker probe _)
  | holdingSlot limiter _ ih => exact ih.trans (.releaseSlot limiter _)
  | timed _ _ _ _ ih | attempting _ _ _ _ _ _ ih | filling _ _ _ _ ih => exact ih

end Call

/-! ### Where a turn leaves a call -/

/-- What a turn of a call that began in the first world does for those in the lines of buckets, and
where the call sits then: it has joined a line, or it is where it was, there was no word for it and
nothing has happened. -/
structure Seating (task : TaskId) (own? : Option (ComponentId × Ticket)) (w : World)
    (r : Poll × World) : Prop where
  serves : w.Serves r.2
  seat {c : Call} {id : ComponentId} {ticket : Ticket} : r.1 = .pending c →
    c.seat? = some (id, ticket) →
      (own? = some (id, ticket) ∧ w.pickUpToken id ticket = .waiting ∧ r.2 = w) ∨
      (w.serial ≤ ticket ∧ ⟨ticket, task, true⟩ ∈ (r.2.bucketOf id).queue)

section Seating

variable {task : TaskId} {own? : Option (ComponentId × Ticket)} {w w' : World} {r : Poll × World}

namespace Seating

/-- The call is over. -/
theorem ended {poll : Poll} (h : w.Serves w') (hpoll : ∀ c, poll ≠ .pending c) :
    Seating task own? w (poll, w') := ⟨h, fun hc => absurd hc (hpoll _)⟩

/-- The call is blocked, but not in the line of a bucket. -/
theorem elsewhere {c : Call} (h : w.Serves w') (hseat : c.seat? = none) :
    Seating task own? w (.pending c, w') :=
  ⟨h, fun hc hsome => by cases hc; rw [hseat] at hsome; cases hsome⟩

/-- A layer around a blocked call. -/
theorem within {c c' : Call} (hr : Seating task own? w (.pending c, w'))
    (hseat : c'.seat? = c.seat?) : Seating task own? w (.pending c', w') :=
  ⟨hr.serves, fun hc hsome => by cases hc; exact hr.seat rfl (hseat ▸ hsome)⟩

/-- Something is done before a call begins. -/
theorem after (h : w.Serves w') (hr : Seating task none w' r) : Seating task own? w r := by
  refine ⟨h.trans hr.serves, fun hc hsome => .inr ?_⟩
  obtain ⟨hnone, -⟩ | ⟨hnew, hmem⟩ := hr.seat hc hsome
  · cases hnone
  · exact ⟨h.serial.trans hnew, hmem⟩

end Seating

namespace Call

theorem afterGuarded_seating {breaker : String} {probe : Bool} (hr : Seating task own? w r) :
    Seating task own? w (afterGuarded breaker probe r) := by
  match r with
  | (.pending c, w') => exact hr.within rfl
  | (.ready outcome, w') => exact .ended (hr.serves.trans (.record ..)) (by simp)
  | (.panicked text, w') => exact .ended (hr.serves.trans (.forgo ..)) (by simp)

theorem afterPrimary_seating {breaker : String} {probe : Bool} {fallback : Operation} {arg : Json}
    {start : World → Poll × World} (hstart : ∀ w, Seating task none w (start w))
    (hr : Seating task own? w r) :
    Seating task own? w (afterPrimary breaker probe fallback arg start r) := by
  match r with
  | (.pending c, w') => exact hr.within rfl
  | (.ready (.ok value), w') => exact .ended (hr.serves.trans (.record ..)) (by simp)
  | (.ready (.error failure), w') => exact .after (hr.serves.trans (.record ..)) (hstart _)
  | (.panicked text, w') => exact .ended (hr.serves.trans (.forgo ..)) (by simp)

theorem afterHolding_seating {limiter : ComponentId} (hr : Seating task own? w r) :
    Seating task own? w (afterHolding limiter r) := by
  match r with
  | (.pending c, w') => exact hr.within rfl
  | (.ready outcome, w') => exact .ended (hr.serves.trans (.releaseSlot ..)) (by simp)
  | (.panicked text, w') => exact .ended (hr.serves.trans (.releaseSlot ..)) (by simp)

theorem afterTimed_seating {timer : Timer} {limit : Duration} {name : String}
    (hr : Seating task own? w r) : Seating task own? w (afterTimed timer limit name r) := by
  match r with
  | (.pending c, w') =>
    simp only [afterTimed]
    split
    · exact .ended (hr.serves.trans (c.abandon_serves w')) (by simp)
    · exact hr.within rfl
  | (.ready outcome, w') => exact .ended hr.serves (by simp)
  | (.panicked text, w') => exact .ended hr.serves (by simp)

/-- The time of a call begins when the call is blocked for the first time. -/
theorem beginTimed_seating {limit : Duration} {name : String} (hr : Seating task none w r) :
    Seating task none w (beginTimed limit name r) := by
  match r with
  | (.pending c, w') =>
    have hsleep := World.Serves.sleep limit w'
    have hsame := (World.sleep_idles limit w').buckets
    simp only [beginTimed]
    split
    · next timer w'' heq =>
      rw [heq] at hsleep hsame
      refine ⟨hr.serves.trans hsleep, fun {c' id ticket} hc hsome => .inr ?_⟩
      cases hc
      obtain ⟨hnone, -⟩ | ⟨hnew, hmem⟩ := hr.seat rfl hsome
      · cases hnone
      · exact ⟨hnew, by rwa [World.bucketOf_of_eq hsame]⟩
    · next w'' heq =>
      rw [heq] at hsleep
      exact .ended (hr.serves.trans (hsleep.trans (c.abandon_serves w''))) (by simp)
  | (.ready outcome, w') => exact .ended hr.serves (by simp)
  | (.panicked text, w') => exact .ended hr.serves (by simp)

theorem afterAttempt_seating {policy : Retry.Policy} {op : Operation} {arg : Json} {left : Nat}
    {delay : Duration} {again : Duration → World → Poll × World}
    (hagain : ∀ delay w, Seating task none w (again delay w)) (hr : Seating task own? w r) :
    Seating task own? w (afterAttempt policy op arg left delay again r) := by
  match r with
  | (.pending c, w') => exact hr.within rfl
  | (.ready (.ok value), w') => exact .ended hr.serves (by simp)
  | (.ready (.error failure), w') =>
    have hsleep := World.Serves.sleep delay w'
    simp only [afterAttempt]
    split
    · split
      · exact .ended hr.serves (by simp)
      · split
        · next heq =>
          rw [heq] at hsleep
          exact .elsewhere (hr.serves.trans hsleep) rfl
        · next heq =>
          rw [heq] at hsleep
          exact .after (hr.serves.trans hsleep) (hagain _ _)
    · exact .ended hr.serves (by simp)
  | (.panicked text, w') => exact .ended hr.serves (by simp)

theorem attempts_seating {policy : Retry.Policy} {op : Operation} {arg : Json}
    {start : World → Poll × World} (hstart : ∀ w, Seating task none w (start w)) (left : Nat)
    (delay : Duration) (w : World) :
    Seating task none w (attempts policy op arg start left delay w) := by
  induction left generalizing delay w with
  | zero => exact afterAttempt_seating (fun _ w => hstart w) (hstart w)
  | succ left ih => exact afterAttempt_seating (fun delay w => ih delay w) (hstart w)

theorem afterFilling_seating {cache : ComponentId} {key : String} {ttl : Nat}
    (hr : Seating task own? w r) : Seating task own? w (afterFilling cache key ttl r) := by
  match r with
  | (.pending c, w') => exact hr.within rfl
  | (.ready (.ok value), w') => exact .ended (hr.serves.trans (.writeCache ..)) (by simp)
  | (.ready (.error failure), w') => exact .ended hr.serves (by simp)
  | (.panicked text, w') => exact .ended hr.serves (by simp)

end Call

/-- A caller that is taken into line stands there under its own number. -/
theorem World.mem_queue_of_askToken {id : ComponentId} {ticket : Ticket}
    (h : w.askToken id task = (.ok (some ticket), w')) :
    ticket = w.serial ∧ ⟨ticket, task, true⟩ ∈ (w'.bucketOf id).queue := by
  cases hc : w.buckets.get? id with
  | none => simp [World.askToken_of_none hc] at h
  | some c =>
    have hask := w.askToken_of_some hc task
    rw [h] at hask
    obtain ⟨-, heq⟩ | ⟨-, -, heq⟩ | ⟨-, -, heq⟩ :=
      Bucket.acquire_cases c.config w.now ⟨w.serial, task, true⟩ c.state
    · rw [heq] at hask
      cases hask
    · rw [heq] at hask
      cases hask
    · rw [heq] at hask
      cases hask
      refine ⟨rfl, ?_⟩
      rw [World.bucketOf_set (buckets_wakeAll ..), if_pos rfl]
      exact List.mem_append_right _ (List.mem_singleton_self _)

/-- **Starting a call does what `Seating` says.** -/
theorem Operation.start_seating (op : Operation) (task : TaskId) (arg : Json) (w : World) :
    Seating task none w (op.start task arg w) := by
  -- A call that is started has no seat to keep: it gets one in the bucket that it asks, or it is
  -- blocked somewhere else, or it ends.
  induction op generalizing arg w with
  | source id =>
    have hinvoke := World.Serves.invoke id arg w
    simp only [Operation.start]
    split
    · exact .ended hinvoke (Ending.poll_ne_pending _ arg)
    · next pause _ =>
      have hsleep := World.Serves.sleep pause (w.invoke id arg).2
      split
      · next heq =>
        rw [heq] at hsleep
        exact .elsewhere (hinvoke.trans hsleep) rfl
      · next heq =>
        rw [heq] at hsleep
        exact .ended (hinvoke.trans hsleep) (Ending.poll_ne_pending _ arg)
  | guarded inner breaker ih =>
    have henter := World.Serves.enter breaker w
    simp only [Operation.start]
    split
    · next heq =>
      rw [heq] at henter
      exact .ended henter (by simp)
    · next heq =>
      rw [heq] at henter
      exact .after henter (Call.afterGuarded_seating (ih arg _))
  | withFallback inner breaker fallback ih ih' =>
    have henter := World.Serves.enter breaker w
    simp only [Operation.start]
    split
    · next heq =>
      rw [heq] at henter
      exact .after henter (ih' arg _)
    · next heq =>
      rw [heq] at henter
      exact .after henter (Call.afterPrimary_seating (ih' arg) (ih arg _))
  | limited inner limiter ih =>
    have hask := World.Serves.askSlot limiter task w
    simp only [Operation.start]
    split
    · next heq =>
      rw [heq] at hask
      exact .after hask (Call.afterHolding_seating (ih arg _))
    · next heq =>
      rw [heq] at hask
      exact .elsewhere hask rfl
    · next heq =>
      rw [heq] at hask
      exact .ended hask (by simp)
  | rateLimited inner bucket ih =>
    have hask := World.Serves.askToken bucket task w
    simp only [Operation.start]
    split
    · next heq =>
      rw [heq] at hask
      exact .after hask (ih arg _)
    · next ticket w' heq =>
      rw [heq] at hask
      -- The one place where a seat is taken.
      refine ⟨hask, fun {c id t} hc hsome => .inr ?_⟩
      cases hc
      cases hsome
      obtain ⟨rfl, hmem⟩ := World.mem_queue_of_askToken heq
      exact ⟨le_refl _, hmem⟩
    · next heq =>
      rw [heq] at hask
      exact .ended hask (by simp)
  | timed inner limit name ih => exact Call.beginTimed_seating (ih arg w)
  | retrying inner policy ih => exact Call.attempts_seating (ih arg) ..
  | cached inner cache keyOf ttl ih =>
    have hread := World.Serves.readCache cache (keyOf arg) w
    simp only [Operation.start]
    split
    · next heq =>
      rw [heq] at hread
      exact .ended hread (by simp)
    · next heq =>
      rw [heq] at hread
      exact .after hread (Call.afterFilling_seating (ih arg _))

namespace Call

/-- The layers of a call do what `Seating` says. -/
theorem around_seating (c : Call) (hr : Seating task own? w r) :
    Seating task own? w (c.around task r) := by
  induction c with
  | working | awaitingSlot | awaitingToken | pausing => exact hr
  | guarded _ _ _ ih => exact afterGuarded_seating ih
  | withFallback _ _ fallback arg _ ih =>
    exact afterPrimary_seating (fun w => fallback.start_seating task arg w) ih
  | holdingSlot _ _ ih => exact afterHolding_seating ih
  | timed _ _ _ _ ih => exact afterTimed_seating ih
  | attempting policy left delay op arg _ ih =>
    exact afterAttempt_seating
      (fun delay w => attempts_seating (fun w => op.start_seating task arg w) (left - 1) delay w) ih
  | filling _ _ _ _ ih => exact afterFilling_seating ih

private theorem innermost_seating (c : Call) (task : TaskId) (w : World) :
    Seating task c.seat? w (c.innermost.resume task w) := by
  induction c with
  | guarded _ _ _ ih | withFallback _ _ _ _ _ ih | holdingSlot _ _ ih | timed _ _ _ _ ih
    | attempting _ _ _ _ _ _ ih | filling _ _ _ _ ih => exact ih
  | working timer ending arg =>
    simp only [innermost, resume]
    split
    · exact .ended (.refl w) (Ending.poll_ne_pending _ arg)
    · exact .elsewhere (.refl w) rfl
  | awaitingSlot limiter ticket inner arg =>
    simp only [innermost, resume]
    split
    · next hpick =>
      exact .after (.pickUpSlot hpick) (afterHolding_seating (inner.start_seating task arg _))
    · exact .elsewhere (.refl w) rfl
  | awaitingToken bucket ticket inner arg =>
    simp only [innermost, resume]
    split
    · next hpick => exact .after (.pickUpToken hpick) (inner.start_seating task arg _)
    · exact .ended (.refl w) (by simp)
    · next hpick =>
      -- There is no word yet, so the call keeps the seat that it had.
      refine ⟨.refl w, fun {c id t} hc hsome => .inl ?_⟩
      cases hc
      cases hsome
      exact ⟨rfl, hpick, rfl⟩
  | pausing policy left delay op arg timer =>
    simp only [innermost, resume]
    split
    · exact .after (.refl w) (attempts_seating (fun w => op.start_seating task arg w) ..)
    · exact .elsewhere (.refl w) rfl

/-- **Resuming a call does what `Seating` says.** -/
theorem resume_seating (c : Call) (task : TaskId) (w : World) :
    Seating task c.seat? w (c.resume task w) := by
  rw [resume_eq]
  exact c.around_seating (c.innermost_seating task w)

end Call

end Seating

end Resilience
