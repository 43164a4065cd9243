import Resilience.World

/-!
# Running calls

`Operation.start` begins a call and runs it as far as it goes; `Call.resume` runs a blocked call
on, as far as it goes now; `Call.abandon` takes it apart. All three follow the layers:

* a layer does its part before its inner call begins (`start`), and after the inner call has
  settled (`start` or `resume`, whichever saw it settle);
* a call that is resumed for nothing stays where it is;
* a call that is abandoned, and a call that panics, gives back from the inside out what its
  layers hold: places in line, slots, the right to be the probe. Breakers record nothing then,
  and caches store nothing.

The part of a layer that comes after its inner call is one function for both cases, such as
`Call.afterGuarded`.
-/

namespace Resilience

/-- How an invocation of a source ends. -/
def Ending.poll (arg : Json) : Ending → Poll
  | .panic text => .panicked text
  | .fail failure => .ready (.error failure)
  | .echo => .ready (.ok arg)
  | .return value => .ready (.ok value)

namespace Call

/-- Takes a call apart from the inside out. -/
def abandon : Call → World → World
  | working .., w => w
  | guarded breaker probe inner, w => (inner.abandon w).forgo breaker probe
  | withFallback breaker probe _ _ inner, w => (inner.abandon w).forgo breaker probe
  | awaitingSlot limiter ticket _ _, w => w.leaveSlot limiter ticket
  | holdingSlot limiter inner, w => (inner.abandon w).releaseSlot limiter
  | awaitingToken bucket ticket _ _, w => w.leaveToken bucket ticket
  | timed _ _ _ inner, w => inner.abandon w
  | attempting _ _ _ _ _ inner, w => inner.abandon w
  | pausing .., w => w
  | filling _ _ _ inner, w => inner.abandon w

/-! ### After the inner call -/

/-- A breaker records how the call settled. -/
def afterGuarded (breaker : String) (probe : Bool) : Poll × World → Poll × World
  | (.pending c, w) => (.pending (.guarded breaker probe c), w)
  | (.ready outcome, w) => (.ready outcome, w.record breaker probe outcome)
  | (.panicked text, w) => (.panicked text, w.forgo breaker probe)

/-- A breaker records how the call settled; if it failed, the fallback is called. -/
def afterPrimary (breaker : String) (probe : Bool) (fallback : Operation) (arg : Json)
    (startFallback : World → Poll × World) : Poll × World → Poll × World
  | (.pending c, w) => (.pending (.withFallback breaker probe fallback arg c), w)
  | (.ready (.ok value), w) => (.ready (.ok value), w.record breaker probe (.ok value))
  | (.ready (.error failure), w) => startFallback (w.record breaker probe (.error failure))
  | (.panicked text, w) => (.panicked text, w.forgo breaker probe)

/-- A slot comes free. -/
def afterHolding (limiter : ComponentId) : Poll × World → Poll × World
  | (.pending c, w) => (.pending (.holdingSlot limiter c), w)
  | (.ready outcome, w) => (.ready outcome, w.releaseSlot limiter)
  | (.panicked text, w) => (.panicked text, w.releaseSlot limiter)

/-- The failure of a call that ran out of time. -/
def timedOut (limit : Duration) (name : String) : Outcome :=
  .error (.rejected (.timeout name (limit.millis % (maxWord + 1))))

/-- A call that is still blocked is abandoned if its time is over. -/
def afterTimed (timer : Timer) (limit : Duration) (name : String) :
    Poll × World → Poll × World
  | (.pending c, w) =>
    if w.elapsed timer then (.ready (timedOut limit name), c.abandon w)
    else (.pending (.timed timer limit name c), w)
  | (.ready outcome, w) => (.ready outcome, w)
  | (.panicked text, w) => (.panicked text, w)

/-- A call that blocks for the first time gets its time limit. -/
def beginTimed (limit : Duration) (name : String) : Poll × World → Poll × World
  | (.pending c, w) =>
    match w.sleep limit with
    | (some timer, w) => (.pending (.timed timer limit name c), w)
    | (none, w) => (.ready (timedOut limit name), c.abandon w)
  | (.ready outcome, w) => (.ready outcome, w)
  | (.panicked text, w) => (.panicked text, w)

/-- A failed attempt is followed by a wait and another attempt, if one is left and the failure is
worth it. -/
def afterAttempt (policy : Retry.Policy) (op : Operation) (arg : Json) (left : Nat)
    (delay : Duration) (again : Duration → World → Poll × World) : Poll × World → Poll × World
  | (.pending c, w) => (.pending (.attempting policy left delay op arg c), w)
  | (.ready (.ok value), w) => (.ready (.ok value), w)
  | (.ready (.error failure), w) =>
    if policy.retryable failure then
      match left with
      | 0 => (.ready (.error failure), w)
      | left + 1 =>
        match w.sleep delay with
        | (some timer, w) =>
          (.pending (.pausing policy left (policy.nextDelay delay) op arg timer), w)
        | (none, w) => again (policy.nextDelay delay) w
    else (.ready (.error failure), w)
  | (.panicked text, w) => (.panicked text, w)

/-- Makes an attempt, which `left` more may follow, the first of them after a wait of `delay`. -/
def attempts (policy : Retry.Policy) (op : Operation) (arg : Json)
    (start : World → Poll × World) : Nat → Duration → World → Poll × World
  | 0, delay, w => afterAttempt policy op arg 0 delay (fun _ w => start w) (start w)
  | left + 1, delay, w =>
    afterAttempt policy op arg (left + 1) delay
      (fun delay w => attempts policy op arg start left delay w) (start w)

/-- A good answer is stored. -/
def afterFilling (cache : ComponentId) (key : String) (ttl : Nat) : Poll × World → Poll × World
  | (.pending c, w) => (.pending (.filling cache key ttl c), w)
  | (.ready (.ok value), w) => (.ready (.ok value), w.writeCache cache key value ttl)
  | (.ready (.error failure), w) => (.ready (.error failure), w)
  | (.panicked text, w) => (.panicked text, w)

end Call

/-- Begins a call on behalf of a task and runs it as far as it goes. -/
def Operation.start (task : TaskId) : Operation → Json → World → Poll × World
  | .source id, arg, w =>
    let (turn, w) := w.invoke id arg
    match turn.pause with
    | none => (turn.ending.poll arg, w)
    | some pause =>
      match w.sleep pause with
      | (some timer, w) => (.pending (.working timer turn.ending arg), w)
      | (none, w) => (turn.ending.poll arg, w)
  | .guarded inner breaker, arg, w =>
    match w.enter breaker with
    | (.rejected count, w) => (.ready (.error (.rejected (.circuitOpen breaker count))), w)
    | (.allowed probe, w) => Call.afterGuarded breaker probe (inner.start task arg w)
  | .withFallback inner breaker fallback, arg, w =>
    match w.enter breaker with
    | (.rejected _, w) => fallback.start task arg w
    | (.allowed probe, w) =>
      Call.afterPrimary breaker probe fallback arg (fun w => fallback.start task arg w)
        (inner.start task arg w)
  | .limited inner limiter, arg, w =>
    match w.askSlot limiter task with
    | (.ok none, w) => Call.afterHolding limiter (inner.start task arg w)
    | (.ok (some ticket), w) => (.pending (.awaitingSlot limiter ticket inner arg), w)
    | (.error rejection, w) => (.ready (.error (.rejected rejection)), w)
  | .rateLimited inner bucket, arg, w =>
    match w.askToken bucket task with
    | (.ok none, w) => inner.start task arg w
    | (.ok (some ticket), w) => (.pending (.awaitingToken bucket ticket inner arg), w)
    | (.error rejection, w) => (.ready (.error (.rejected rejection)), w)
  | .timed inner limit name, arg, w => Call.beginTimed limit name (inner.start task arg w)
  | .retrying inner policy, arg, w =>
    Call.attempts policy inner arg (fun w => inner.start task arg w) (policy.attempts - 1)
      policy.config.delay w
  | .cached inner cache keyOf ttl, arg, w =>
    match w.readCache cache (keyOf arg) with
    | (some value, w) => (.ready (.ok value), w)
    | (none, w) => Call.afterFilling cache (keyOf arg) ttl (inner.start task arg w)

/-- Runs a blocked call of a task on, as far as it goes now. -/
def Call.resume (task : TaskId) : Call → World → Poll × World
  | .working timer ending arg, w =>
    if w.elapsed timer then (ending.poll arg, w) else (.pending (.working timer ending arg), w)
  | .guarded breaker probe inner, w => afterGuarded breaker probe (inner.resume task w)
  | .withFallback breaker probe fallback arg inner, w =>
    afterPrimary breaker probe fallback arg (fun w => fallback.start task arg w)
      (inner.resume task w)
  | .awaitingSlot limiter ticket inner arg, w =>
    match w.pickUpSlot? limiter ticket with
    | some w => afterHolding limiter (inner.start task arg w)
    | none => (.pending (.awaitingSlot limiter ticket inner arg), w)
  | .holdingSlot limiter inner, w => afterHolding limiter (inner.resume task w)
  | .awaitingToken bucket ticket inner arg, w =>
    match w.pickUpToken bucket ticket with
    | .granted w => inner.start task arg w
    | .refused rejection => (.ready (.error (.rejected rejection)), w)
    | .waiting => (.pending (.awaitingToken bucket ticket inner arg), w)
  | .timed timer limit name inner, w => afterTimed timer limit name (inner.resume task w)
  | .attempting policy left delay op arg inner, w =>
    afterAttempt policy op arg left delay
      (fun delay w => attempts policy op arg (fun w => op.start task arg w) (left - 1) delay w)
      (inner.resume task w)
  | .pausing policy left delay op arg timer, w =>
    if w.elapsed timer then
      attempts policy op arg (fun w => op.start task arg w) left delay w
    else (.pending (.pausing policy left delay op arg timer), w)
  | .filling cache key ttl inner, w => afterFilling cache key ttl (inner.resume task w)

end Resilience
