import Resilience.Proofs.Story.Deed

/-!
# The story of a call

A `Story` is what a call did from its start until now, layer by layer: the list of its deeds in
order, and where they have led, to a blocked call or to an end. There is one way to tell a story
for each way that a layer can take: a breaker refuses, or lets the inner call go ahead and records
how it settled; a limiter is full, keeps the call in line, or gives it a slot which comes free
afterwards; and so on. A story says nothing about worlds and turns. That every call in every run
has one is shown in `Resilience.Proofs.Story.Telling`.

The story of a call has the stories of its inner calls in it, one for each time that an inner
operation was started. So what is true of every layer, whatever is around it and inside it, is
shown by induction on stories.
-/

namespace Resilience

namespace Poll

/-- A layer around a call that goes on. -/
def within (layer : Call → Call) : Poll → Poll
  | pending c => pending (layer c)
  | ready outcome => ready outcome
  | panicked text => panicked text

theorem within_eq_ready {layer : Call → Call} {poll : Poll} {outcome : Outcome} :
    poll.within layer = .ready outcome ↔ poll = .ready outcome := by
  cases poll <;> simp [within]

/-- The call is blocked. -/
def blocked : Poll → Bool
  | pending _ => true
  | ready _ => false
  | panicked _ => false

/-- The failure of a call that ended with one. -/
def failure? : Poll → Option Failure
  | ready (.error failure) => some failure
  | _ => none

/-- What a breaker does when a call that it let through is over. -/
def settling (breaker : String) (probe : Bool) : Poll → List Deed
  | pending _ => []
  | ready outcome => [.record breaker probe outcome]
  | panicked _ => [.forgo breaker probe]

/-- What a limiter does when a call inside it is over. -/
def releasing (limiter : ComponentId) : Poll → List Deed
  | pending _ => []
  | ready _ => [.releaseSlot limiter]
  | panicked _ => [.releaseSlot limiter]

/-- What a cache does with the answer of a call. -/
def storing (cache : ComponentId) (key : String) (ttl : Nat) (now : Instant) : Poll → List Deed
  | ready (.ok value) => [.writeCache cache key value ttl now]
  | _ => []

end Poll

/-- A sleep from its beginning to its end, if there is one. -/
inductive Nap : Option Duration → List Deed → Prop
  | nothing : Nap none []
  | atOnce (length : Duration) : Nap (some length) [.sleep length none]
  | slept (length : Duration) (timer : Timer) :
      Nap (some length) [.sleep length (some timer), .wake timer]

/-- How a call gets a slot. -/
inductive SlotTaken (limiter : ComponentId) : List Deed → Prop
  | atOnce : SlotTaken limiter [.askSlot limiter (.ok none)]
  | inLine (ticket : Ticket) :
      SlotTaken limiter [.askSlot limiter (.ok (some ticket)), .pickUpSlot limiter ticket]

/-- How a call gets a token. -/
inductive TokenTaken (bucket : ComponentId) : List Deed → Prop
  | atOnce : TokenTaken bucket [.askToken bucket (.ok none)]
  | inLine (ticket : Ticket) :
      TokenTaken bucket [.askToken bucket (.ok (some ticket)), .pickUpToken bucket ticket]

/-- What a call that is taken apart does, from the inside out. -/
def Call.undoing : Call → List Deed
  | working .. => []
  | guarded breaker probe inner => inner.undoing ++ [.forgo breaker probe]
  | withFallback breaker probe _ _ inner => inner.undoing ++ [.forgo breaker probe]
  | awaitingSlot limiter ticket _ _ => [.leaveSlot limiter ticket]
  | holdingSlot limiter inner => inner.undoing ++ [.releaseSlot limiter]
  | awaitingToken bucket ticket _ _ => [.leaveToken bucket ticket]
  | timed _ _ _ inner => inner.undoing
  | attempting _ _ _ _ _ inner => inner.undoing
  | pausing .. => []
  | filling _ _ _ inner => inner.undoing

/-- What there is to tell about: a run of an operation, or the attempts at one that are left. -/
inductive Plan where
  | run (op : Operation)
  | attempts (policy : Retry.Policy) (op : Operation) (left : Nat) (delay : Duration)

/-- What a call did, and where it led. -/
inductive Story : Plan → Json → List Deed → Poll → Type
  -- A source
  | working {id arg turn length timer} (h : turn.pause = some length) :
      Story (.run (.source id)) arg [.invoke id arg turn, .sleep length (some timer)]
        (.pending (.working timer turn.ending arg))
  | returned {id arg turn nap} (h : Nap turn.pause nap) :
      Story (.run (.source id)) arg
        (.invoke id arg turn :: (nap ++ [.finish id arg turn.ending])) (turn.ending.poll arg)
  -- A breaker
  | refused {inner breaker arg} (count : Nat) :
      Story (.run (.guarded inner breaker)) arg [.enter breaker (.rejected count)]
        (.ready (.error (.rejected (.circuitOpen breaker count))))
  | guarded {inner breaker arg ds poll} (probe : Bool) (st : Story (.run inner) arg ds poll) :
      Story (.run (.guarded inner breaker)) arg
        (.enter breaker (.allowed probe) :: (ds ++ poll.settling breaker probe))
        (poll.within (.guarded breaker probe))
  -- A breaker with a fallback
  | passedBy {inner breaker fallback arg ds poll} (count : Nat)
      (st : Story (.run fallback) arg ds poll) :
      Story (.run (.withFallback inner breaker fallback)) arg
        (.enter breaker (.rejected count) :: ds) poll
  | primary {inner breaker fallback arg ds poll} (probe : Bool)
      (st : Story (.run inner) arg ds poll) (h : poll.failure? = none) :
      Story (.run (.withFallback inner breaker fallback)) arg
        (.enter breaker (.allowed probe) :: (ds ++ poll.settling breaker probe))
        (poll.within (.withFallback breaker probe fallback arg))
  | replaced {inner breaker fallback arg ds failure ds' poll} (probe : Bool)
      (st : Story (.run inner) arg ds (.ready (.error failure)))
      (st' : Story (.run fallback) arg ds' poll) :
      Story (.run (.withFallback inner breaker fallback)) arg
        (.enter breaker (.allowed probe) ::
          (ds ++ .record breaker probe (.error failure) :: ds')) poll
  -- A limiter
  | lineFull {inner limiter arg} (rejection : Rejection) :
      Story (.run (.limited inner limiter)) arg [.askSlot limiter (.error rejection)]
        (.ready (.error (.rejected rejection)))
  | awaitingSlot {inner limiter arg} (ticket : Ticket) :
      Story (.run (.limited inner limiter)) arg [.askSlot limiter (.ok (some ticket))]
        (.pending (.awaitingSlot limiter ticket inner arg))
  | limited {inner limiter arg front ds poll} (h : SlotTaken limiter front)
      (st : Story (.run inner) arg ds poll) :
      Story (.run (.limited inner limiter)) arg (front ++ (ds ++ poll.releasing limiter))
        (poll.within (.holdingSlot limiter))
  -- A bucket
  | bucketClosed {inner bucket arg} (rejection : Rejection) :
      Story (.run (.rateLimited inner bucket)) arg [.askToken bucket (.error rejection)]
        (.ready (.error (.rejected rejection)))
  | awaitingToken {inner bucket arg} (ticket : Ticket) :
      Story (.run (.rateLimited inner bucket)) arg [.askToken bucket (.ok (some ticket))]
        (.pending (.awaitingToken bucket ticket inner arg))
  | sentAway {inner bucket arg} (ticket : Ticket) (rejection : Rejection) :
      Story (.run (.rateLimited inner bucket)) arg
        [.askToken bucket (.ok (some ticket)), .refuseToken bucket ticket rejection]
        (.ready (.error (.rejected rejection)))
  | rateLimited {inner bucket arg front ds poll} (h : TokenTaken bucket front)
      (st : Story (.run inner) arg ds poll) :
      Story (.run (.rateLimited inner bucket)) arg (front ++ ds) poll
  -- A time limit
  | unhindered {inner limit name arg ds poll} (st : Story (.run inner) arg ds poll)
      (h : poll.blocked = false) : Story (.run (.timed inner limit name)) arg ds poll
  | timed {inner limit name arg ds ds' poll} (timer : Timer)
      (st : Story (.run inner) arg (ds ++ ds') poll) :
      Story (.run (.timed inner limit name)) arg (ds ++ .sleep limit (some timer) :: ds')
        (poll.within (.timed timer limit name))
  | timeless {inner limit name arg ds c} (st : Story (.run inner) arg ds (.pending c)) :
      Story (.run (.timed inner limit name)) arg
        (ds ++ .sleep limit none :: .timeOut limit name :: c.undoing)
        (.ready (Call.timedOut limit name))
  | ranOut {inner limit name arg ds ds' c} (timer : Timer)
      (st : Story (.run inner) arg (ds ++ ds') (.pending c)) :
      Story (.run (.timed inner limit name)) arg
        (ds ++ .sleep limit (some timer) ::
          (ds' ++ .wake timer :: .timeOut limit name :: c.undoing))
        (.ready (Call.timedOut limit name))
  -- Attempts
  | retrying {inner policy arg ds poll}
      (st : Story (.attempts policy inner (policy.attempts - 1) policy.config.delay) arg ds poll) :
      Story (.run (.retrying inner policy)) arg ds poll
  | lastAttempt {policy op left delay arg ds poll} (st : Story (.run op) arg ds poll)
      (h : ∀ failure ∈ poll.failure?, policy.retryable failure = true → left = 0) :
      Story (.attempts policy op left delay) arg ds
        (poll.within (.attempting policy left delay op arg))
  | pausing {policy op left delay arg ds failure} (timer : Timer)
      (st : Story (.run op) arg ds (.ready (.error failure)))
      (h : policy.retryable failure = true) :
      Story (.attempts policy op (left + 1) delay) arg (ds ++ [.sleep delay (some timer)])
        (.pending (.pausing policy left (policy.nextDelay delay) op arg timer))
  | again {policy op left delay arg ds failure nap ds' poll}
      (st : Story (.run op) arg ds (.ready (.error failure)))
      (h : policy.retryable failure = true) (hnap : Nap (some delay) nap)
      (st' : Story (.attempts policy op left (policy.nextDelay delay)) arg ds' poll) :
      Story (.attempts policy op (left + 1) delay) arg (ds ++ (nap ++ ds')) poll
  -- A cache
  | hit {inner cache keyOf ttl arg} (value : Json) (now : Instant) :
      Story (.run (.cached inner cache keyOf ttl)) arg
        [.readCache cache (keyOf arg) (some value) now] (.ready (.ok value))
  | miss {inner cache keyOf ttl arg ds poll} (now later : Instant)
      (st : Story (.run inner) arg ds poll) :
      Story (.run (.cached inner cache keyOf ttl)) arg
        (.readCache cache (keyOf arg) none now ::
          (ds ++ poll.storing cache (keyOf arg) ttl later))
        (poll.within (.filling cache (keyOf arg) ttl))

/-- The parts of what there is to tell about. -/
def Plan.parts : Plan → List Part
  | run op => op.parts
  | attempts _ op _ _ => op.parts

/-- The deed is done for one of these parts, if for any. -/
def Deed.IsFor (parts : List Part) (d : Deed) : Prop := ∀ part ∈ d.part?, part ∈ parts

theorem Deed.IsFor.mono {parts parts' : List Part} {d : Deed} (h : d.IsFor parts)
    (hsub : parts ⊆ parts') : d.IsFor parts' := fun part hpart => hsub (h part hpart)

namespace Story

variable {plan : Plan} {arg : Json} {ds ds' : List Deed} {poll : Poll}

/-- The same story with the same deeds. -/
def of_eq (st : Story plan arg ds poll) (h : ds = ds') : Story plan arg ds' poll := h ▸ st

/-! ### A call does what its layers are for -/

theorem isFor_settling {breaker : String} {probe : Bool} {parts : List Part}
    (h : .breaker breaker ∈ parts) (poll : Poll) :
    ∀ d ∈ poll.settling breaker probe, d.IsFor parts := by
  cases poll <;> simp [Poll.settling, Deed.IsFor, Deed.part?, h]

theorem isFor_releasing {limiter : ComponentId} {parts : List Part}
    (h : .limiter limiter ∈ parts) (poll : Poll) :
    ∀ d ∈ poll.releasing limiter, d.IsFor parts := by
  cases poll <;> simp [Poll.releasing, Deed.IsFor, Deed.part?, h]

theorem isFor_storing {cache : ComponentId} {key : String} {ttl : Nat} {now : Instant}
    {parts : List Part} (h : .cache cache ∈ parts) (poll : Poll) :
    ∀ d ∈ poll.storing cache key ttl now, d.IsFor parts := by
  rcases poll with c | (failure | value) | text <;>
    simp [Poll.storing, Deed.IsFor, Deed.part?, h]

theorem isFor_nap {length? : Option Duration} {nap : List Deed} {parts : List Part}
    (h : Nap length? nap) : ∀ d ∈ nap, d.IsFor parts := by
  cases h <;> simp [Deed.IsFor, Deed.part?]

/-- A blocked call that is taken apart gives back what it has of its parts. -/
theorem isFor_undoing (st : Story plan arg ds poll) {c : Call} (hc : poll = .pending c) :
    ∀ d ∈ c.undoing, d.IsFor plan.parts := by
  -- A layer that has nothing to give back, and one that gives something back after its inner call.
  have hplain {c : Call} {parts parts' : List Part} (h : ∀ d ∈ c.undoing, d.IsFor parts)
      (hsub : parts ⊆ parts') : ∀ d ∈ c.undoing, d.IsFor parts' := fun d hd => (h d hd).mono hsub
  have hlast {c : Call} {parts parts' : List Part} {part : Part} {last : Deed}
      (h : ∀ d ∈ c.undoing, d.IsFor parts) (hsub : parts ⊆ parts') (hpart : part ∈ parts')
      (hd : last.part? = some part) : ∀ d ∈ c.undoing ++ [last], d.IsFor parts' := by
    refine List.forall_mem_append.mpr ⟨hplain h hsub, ?_⟩
    simp [Deed.IsFor, hd, hpart]
  induction st generalizing c with
  | refused | lineFull | bucketClosed | sentAway | timeless | ranOut | hit => cases hc
  | working | pausing => cases hc; simp [Call.undoing]
  | @returned id arg turn nap h =>
    cases hending : turn.ending <;> rw [hending] at hc <;> cases hc
  | awaitingSlot | awaitingToken =>
    cases hc
    simp [Call.undoing, Deed.IsFor, Deed.part?, Plan.parts, Operation.parts]
  | @guarded _ _ _ _ poll _ _ ih =>
    cases poll <;> cases hc
    exact hlast (ih rfl) (List.subset_cons_self ..) List.mem_cons_self rfl
  | passedBy _ _ ih =>
    exact hplain (ih hc) (List.subset_cons_of_subset _ (List.subset_append_right ..))
  | @primary _ _ _ _ _ poll _ _ _ ih =>
    cases poll <;> cases hc
    exact hlast (ih rfl) (List.subset_cons_of_subset _ (List.subset_append_left ..))
      List.mem_cons_self rfl
  | replaced _ _ _ _ ih' =>
    exact hplain (ih' hc) (List.subset_cons_of_subset _ (List.subset_append_right ..))
  | @limited _ _ _ _ _ poll _ _ ih =>
    cases poll <;> cases hc
    exact hlast (ih rfl) (List.subset_cons_self ..) List.mem_cons_self rfl
  | rateLimited _ _ ih => exact hplain (ih hc) (List.subset_cons_self ..)
  | unhindered _ h => rw [hc] at h; cases h
  | @timed _ _ _ _ _ _ poll _ _ ih =>
    cases poll <;> cases hc
    have hinner := ih rfl
    exact hplain hinner (List.subset_cons_self ..)
  | retrying _ ih => exact ih hc
  | @lastAttempt _ _ _ _ _ _ poll _ _ ih =>
    cases poll <;> cases hc
    have hinner := ih rfl
    exact hinner
  | again _ _ _ _ _ ih' => exact ih' hc
  | @miss _ _ _ _ _ _ poll _ _ _ ih =>
    cases poll <;> cases hc
    have hinner := ih rfl
    exact hplain hinner (List.subset_cons_self ..)

/-- **A call does what its layers are for**, and nothing to any other component. -/
theorem isFor (st : Story plan arg ds poll) : ∀ d ∈ ds, d.IsFor plan.parts := by
  have hplain {ds : List Deed} {parts parts' : List Part} (h : ∀ d ∈ ds, d.IsFor parts)
      (hsub : parts ⊆ parts') : ∀ d ∈ ds, d.IsFor parts' := fun d hd => (h d hd).mono hsub
  have hnext {ds : List Deed} {parts : List Part} {d : Deed} {part : Part}
      (hd : d.part? = some part) (hpart : part ∈ parts) (h : ∀ d ∈ ds, d.IsFor parts) :
      ∀ d' ∈ d :: ds, d'.IsFor parts :=
    List.forall_mem_cons.mpr ⟨by simp [Deed.IsFor, hd, hpart], h⟩
  have hidle {ds : List Deed} {parts : List Part} {d : Deed} (hd : d.part? = none)
      (h : ∀ d ∈ ds, d.IsFor parts) : ∀ d' ∈ d :: ds, d'.IsFor parts :=
    List.forall_mem_cons.mpr ⟨by simp [Deed.IsFor, hd], h⟩
  have hjoin {ds ds' : List Deed} {parts : List Part} (h : ∀ d ∈ ds, d.IsFor parts)
      (h' : ∀ d ∈ ds', d.IsFor parts) : ∀ d ∈ ds ++ ds', d.IsFor parts :=
    List.forall_mem_append.mpr ⟨h, h'⟩
  have hnone {parts : List Part} : ∀ d ∈ ([] : List Deed), d.IsFor parts := by simp
  -- A layer adds its own part to those of its inner call, and each of its deeds is for that part or
  -- for none.
  induction st with
  | working => exact hnext rfl List.mem_cons_self (hidle rfl hnone)
  | returned h =>
    exact hnext rfl List.mem_cons_self (hjoin (isFor_nap h) (hnext rfl List.mem_cons_self hnone))
  | refused => exact hnext rfl List.mem_cons_self hnone
  | guarded _ _ ih =>
    exact hnext rfl List.mem_cons_self (hjoin (hplain ih (List.subset_cons_self ..))
      (isFor_settling List.mem_cons_self _))
  | passedBy _ _ ih =>
    exact hnext rfl List.mem_cons_self
      (hplain ih (List.subset_cons_of_subset _ (List.subset_append_right ..)))
  | primary _ _ _ ih =>
    exact hnext rfl List.mem_cons_self
      (hjoin (hplain ih (List.subset_cons_of_subset _ (List.subset_append_left ..)))
        (isFor_settling List.mem_cons_self _))
  | replaced _ _ _ ih ih' =>
    exact hnext rfl List.mem_cons_self
      (hjoin (hplain ih (List.subset_cons_of_subset _ (List.subset_append_left ..)))
        (hnext rfl List.mem_cons_self
          (hplain ih' (List.subset_cons_of_subset _ (List.subset_append_right ..)))))
  | lineFull | awaitingSlot | bucketClosed | awaitingToken | hit =>
    exact hnext rfl List.mem_cons_self hnone
  | limited h _ ih =>
    refine hjoin ?_ (hjoin (hplain ih (List.subset_cons_self ..))
      (isFor_releasing List.mem_cons_self _))
    cases h with
    | atOnce => exact hnext rfl List.mem_cons_self hnone
    | inLine => exact hnext rfl List.mem_cons_self (hnext rfl List.mem_cons_self hnone)
  | sentAway => exact hnext rfl List.mem_cons_self (hnext rfl List.mem_cons_self hnone)
  | rateLimited h _ ih =>
    refine hjoin ?_ (hplain ih (List.subset_cons_self ..))
    cases h with
    | atOnce => exact hnext rfl List.mem_cons_self hnone
    | inLine => exact hnext rfl List.mem_cons_self (hnext rfl List.mem_cons_self hnone)
  | unhindered _ _ ih => exact hplain ih (List.subset_cons_self ..)
  | timed _ _ ih =>
    obtain ⟨hbefore, hafter⟩ := List.forall_mem_append.mp (hplain ih (List.subset_cons_self ..))
    exact hjoin hbefore (hidle rfl hafter)
  | timeless st ih =>
    exact hjoin (hplain ih (List.subset_cons_self ..)) (hidle rfl (hnext rfl List.mem_cons_self
      (hplain (st.isFor_undoing rfl) (List.subset_cons_self ..))))
  | ranOut _ st ih =>
    obtain ⟨hbefore, hafter⟩ := List.forall_mem_append.mp (hplain ih (List.subset_cons_self ..))
    exact hjoin hbefore (hidle rfl (hjoin hafter (hidle rfl (hnext rfl List.mem_cons_self
      (hplain (st.isFor_undoing rfl) (List.subset_cons_self ..))))))
  | retrying _ ih => exact ih
  | lastAttempt _ _ ih => exact ih
  | pausing _ _ _ ih => exact hjoin ih (hidle rfl hnone)
  | again _ _ hnap _ ih ih' => exact hjoin ih (hjoin (isFor_nap hnap) ih')
  | miss _ _ _ ih =>
    exact hnext rfl List.mem_cons_self (hjoin (hplain ih (List.subset_cons_self ..))
      (isFor_storing List.mem_cons_self _))

end Story

end Resilience
