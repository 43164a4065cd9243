import Resilience.Execution
import Resilience.Proofs.Scene

/-!
# Calls act in scenes

What a blocked call holds is read off its layers (`Call.holds`). Starting, resuming and abandoning
a call are `Steps`: each begins with the holds that the call has, in the presence of any others,
and ends with the holds that it has then (`Leads`). A call that ends, panics or is abandoned
holds nothing.

An operation can only be run in a world that has its components, and worlds only grow, so what
fits a world fits every later one (`Operation.Fits`, `Call.Fits`).
-/

namespace Resilience

/-! ### What calls hold -/

/-- What a blocked call holds. -/
def Call.holds : Call → Multiset Hold
  | working .. => 0
  | guarded breaker probe inner => .admission breaker probe ::ₘ inner.holds
  | withFallback breaker probe _ _ inner => .admission breaker probe ::ₘ inner.holds
  | awaitingSlot limiter ticket _ _ => {.place limiter ticket}
  | holdingSlot limiter inner => .slot limiter ::ₘ inner.holds
  | awaitingToken bucket ticket _ _ => {.tokenPlace bucket ticket}
  | timed _ _ _ inner => inner.holds
  | attempting _ _ _ _ _ inner => inner.holds
  | pausing .. => 0
  | filling _ _ _ inner => inner.holds

/-- What a call holds after it ran as far as it could. -/
def Poll.holds : Poll → Multiset Hold
  | pending c => c.holds
  | _ => 0

/-- An invocation of a source that ends is not blocked. -/
theorem Ending.poll_ne_pending (ending : Ending) (arg : Json) (c : Call) :
    ending.poll arg ≠ .pending c := by
  cases ending <;> simp [Ending.poll]

/-! ### What fits a world -/

/-- The world has the components of the operation. -/
def Operation.Fits (w : World) : Operation → Prop
  | source _ => True
  | guarded inner breaker => w.breakers.has breaker = true ∧ inner.Fits w
  | withFallback inner breaker fallback =>
    w.breakers.has breaker = true ∧ inner.Fits w ∧ fallback.Fits w
  | limited inner limiter => w.limiters.has limiter = true ∧ inner.Fits w
  | rateLimited inner bucket => w.buckets.has bucket = true ∧ inner.Fits w
  | timed inner _ _ => inner.Fits w
  | retrying inner _ => inner.Fits w
  | cached inner _ _ _ => inner.Fits w

/-- The world has the components of every operation that the call may still start. -/
def Call.Fits (w : World) : Call → Prop
  | working .. => True
  | guarded _ _ inner => inner.Fits w
  | withFallback _ _ fallback _ inner => fallback.Fits w ∧ inner.Fits w
  | awaitingSlot _ _ inner _ => inner.Fits w
  | holdingSlot _ inner => inner.Fits w
  | awaitingToken _ _ inner _ => inner.Fits w
  | timed _ _ _ inner => inner.Fits w
  | attempting _ _ _ op _ inner => op.Fits w ∧ inner.Fits w
  | pausing _ _ _ op _ _ => op.Fits w
  | filling _ _ _ inner => inner.Fits w

/-- The call, if it goes on, fits the world. -/
def Poll.Fits (w : World) : Poll → Prop
  | pending c => c.Fits w
  | _ => True

theorem Operation.Fits.grow {w w' : World} (h : w.Grows w') {op : Operation} (hop : op.Fits w) :
    op.Fits w' := by
  induction op with
  | source id => trivial
  | guarded inner breaker ih => exact ⟨h.breakers hop.1, ih hop.2⟩
  | withFallback inner breaker fallback ih ihf =>
    exact ⟨h.breakers hop.1, ih hop.2.1, ihf hop.2.2⟩
  | limited inner limiter ih => exact ⟨h.limiters hop.1, ih hop.2⟩
  | rateLimited inner bucket ih => exact ⟨h.buckets hop.1, ih hop.2⟩
  | timed inner limit name ih => exact ih hop
  | retrying inner policy ih => exact ih hop
  | cached inner cache keyOf ttl ih => exact ih hop

theorem Call.Fits.grow {w w' : World} (h : w.Grows w') {c : Call} (hc : c.Fits w) :
    c.Fits w' := by
  induction c with
  | working timer ending arg => trivial
  | guarded breaker probe inner ih => exact ih hc
  | withFallback breaker probe fallback arg inner ih => exact ⟨hc.1.grow h, ih hc.2⟩
  | awaitingSlot limiter ticket inner arg => exact Operation.Fits.grow h hc
  | holdingSlot limiter inner ih => exact ih hc
  | awaitingToken bucket ticket inner arg => exact Operation.Fits.grow h hc
  | timed timer limit name inner ih => exact ih hc
  | attempting policy left delay op arg inner ih => exact ⟨hc.1.grow h, ih hc.2⟩
  | pausing policy left delay op arg timer => exact Operation.Fits.grow h hc
  | filling cache key ttl inner ih => exact ih hc

/-! ### Runs of a call -/

/-- From a world in which a call holds `A`, running the call leads to the result, whatever else is
held meanwhile. -/
structure Leads (w : World) (A : Multiset Hold) (r : Poll × World) : Prop where
  steps (H : Multiset Hold) : Steps ⟨w, A + H⟩ ⟨r.2, r.1.holds + H⟩
  fits : r.1.Fits r.2

/-- In every later world, the function starts a call. -/
def Starts (w : World) (start : World → Poll × World) : Prop :=
  ∀ w', w.Grows w' → Leads w' 0 (start w')

theorem Starts.grow {w w' : World} {start : World → Poll × World} (h : Starts w start)
    (hw : w.Grows w') : Starts w' start := fun _ hw' => h _ (hw.trans hw')

namespace Leads

variable {w w' : World} {A B : Multiset Hold} {r : Poll × World}

/-- A call that stays where it is. -/
theorem stay {c : Call} (hc : c.Fits w) : Leads w c.holds (.pending c, w) :=
  ⟨fun _ => .refl, hc⟩

/-- A call that is over holds nothing. -/
theorem ended {poll : Poll} (hholds : poll.holds = 0) (hfits : poll.Fits w')
    (h : ∀ H, Steps ⟨w, A + H⟩ ⟨w', H⟩) : Leads w A (poll, w') :=
  ⟨fun H => by rw [hholds, Multiset.zero_add]; exact h H, hfits⟩

/-- A call that held nothing and is over. -/
theorem outright {poll : Poll} (hholds : poll.holds = 0) (hfits : poll.Fits w')
    (h : ∀ H, Steps ⟨w, H⟩ ⟨w', H⟩) : Leads w 0 (poll, w') :=
  ended hholds hfits fun H => (Multiset.zero_add H).symm ▸ h H

/-- A call that goes as far as one act takes it. -/
theorem act {poll : Poll} (h : ∀ H, Act ⟨w, H⟩ ⟨w', B + H⟩) (hholds : poll.holds = B)
    (hfits : poll.Fits w') : Leads w 0 (poll, w') :=
  ⟨fun H => hholds ▸ Steps.of_act h H, hfits⟩

/-- When a call is over, the other holds are left. -/
theorem steps_over {poll : Poll} (hr : Leads w A (poll, w')) (hholds : poll.holds = 0)
    (H : Multiset Hold) : Steps ⟨w, A + H⟩ ⟨w', H⟩ := by
  have h := hr.steps H
  rwa [hholds, Multiset.zero_add] at h

theorem grows (h : Leads w A r) : w.Grows r.2 := (h.steps 0).grows

/-- Acts before a run belong to it. -/
theorem before (h : ∀ H, Steps ⟨w, A + H⟩ ⟨w', B + H⟩) (hr : Leads w' B r) : Leads w A r :=
  ⟨fun H => (h H).trans (hr.steps H), hr.fits⟩

/-- An act that needs no hold may come before a run. -/
theorem head (h : ∀ H, Act ⟨w, H⟩ ⟨w', B + H⟩) (hr : Leads w' B r) : Leads w 0 r :=
  before (Steps.of_act h) hr

/-- A call that holds nothing may be started after what went before. -/
theorem starts {start : World → Poll × World} (h : ∀ H, Steps ⟨w, A + H⟩ ⟨w', H⟩)
    (hstart : Starts w start) : Leads w A (start w') :=
  before (B := 0) (fun H => by rw [Multiset.zero_add]; exact h H) (hstart w' (h 0).grows)

/-- A layer keeps its hold while its inner call goes on. -/
theorem around (hr : Leads w A r) (x : Hold) (H : Multiset Hold) :
    Steps ⟨w, x ::ₘ A + H⟩ ⟨r.2, x ::ₘ r.1.holds + H⟩ := by
  have h := hr.steps (x ::ₘ H)
  rwa [Multiset.add_cons, Multiset.add_cons, ← Multiset.cons_add, ← Multiset.cons_add] at h

/-- A layer has its hold when its inner call is over. -/
theorem around_over {poll : Poll} (hr : Leads w A (poll, w')) (hholds : poll.holds = 0) (x : Hold)
    (H : Multiset Hold) : Steps ⟨w, x ::ₘ A + H⟩ ⟨w', x ::ₘ H⟩ := by
  have h := hr.around x H
  rwa [hholds, Multiset.cons_add x 0 H, Multiset.zero_add] at h

end Leads

namespace Call

variable {w : World} {A : Multiset Hold} {r : Poll × World}

/-! ### Abandoned calls -/

/-- **A call that is abandoned gives back all that it holds.** -/
theorem abandon_steps (c : Call) (w : World) (H : Multiset Hold) :
    Steps ⟨w, c.holds + H⟩ ⟨c.abandon w, H⟩ := by
  have haround {x : Hold} {inner : Call} {w : World} {H : Multiset Hold}
      (ih : Steps ⟨w, inner.holds + x ::ₘ H⟩ ⟨inner.abandon w, x ::ₘ H⟩) :
      Steps ⟨w, x ::ₘ inner.holds + H⟩ ⟨inner.abandon w, x ::ₘ H⟩ := by
    rwa [Multiset.add_cons, ← Multiset.cons_add] at ih
  induction c generalizing w H with
  | working timer ending arg => exact (Multiset.zero_add H).symm ▸ .refl
  | guarded breaker probe inner ih => exact (haround (ih w _)).tail (.forgo ..)
  | withFallback breaker probe fallback arg inner ih =>
    exact (haround (ih w _)).tail (.forgo ..)
  | awaitingSlot limiter ticket inner arg => exact .single (.leaveSlot ..)
  | holdingSlot limiter inner ih => exact (haround (ih w _)).tail (.releaseSlot ..)
  | awaitingToken bucket ticket inner arg => exact .single (.leaveToken ..)
  | timed timer limit name inner ih => exact ih w H
  | attempting policy left delay op arg inner ih => exact ih w H
  | pausing policy left delay op arg timer => exact (Multiset.zero_add H).symm ▸ .refl
  | filling cache key ttl inner ih => exact ih w H

/-! ### The part of a layer after its inner call -/

theorem afterGuarded_leads {breaker : String} {probe : Bool} (hr : Leads w A r) :
    Leads w (.admission breaker probe ::ₘ A) (afterGuarded breaker probe r) := by
  obtain ⟨poll, w'⟩ := r
  cases poll with
  | pending c => exact ⟨hr.around _, hr.fits⟩
  | ready outcome =>
    exact .ended rfl trivial fun H => (hr.around_over rfl _ H).tail (.record ..)
  | panicked text =>
    exact .ended rfl trivial fun H => (hr.around_over rfl _ H).tail (.forgo ..)

theorem afterPrimary_leads {breaker : String} {probe : Bool} {fallback : Operation} {arg : Json}
    {start : World → Poll × World} (hf : fallback.Fits w) (hstart : Starts w start)
    (hr : Leads w A r) :
    Leads w (.admission breaker probe ::ₘ A)
      (afterPrimary breaker probe fallback arg start r) := by
  have hgrows := hr.grows
  obtain ⟨poll, w'⟩ := r
  match poll with
  | .pending c => exact ⟨hr.around _, hf.grow hgrows, hr.fits⟩
  | .ready (.ok value) =>
    exact .ended rfl trivial fun H => (hr.around_over rfl _ H).tail (.record ..)
  | .ready (.error failure) =>
    exact .starts (fun H => (hr.around_over rfl _ H).tail (.record ..)) hstart
  | .panicked text =>
    exact .ended rfl trivial fun H => (hr.around_over rfl _ H).tail (.forgo ..)

theorem afterHolding_leads {limiter : ComponentId} (hr : Leads w A r) :
    Leads w (.slot limiter ::ₘ A) (afterHolding limiter r) := by
  obtain ⟨poll, w'⟩ := r
  cases poll with
  | pending c => exact ⟨hr.around _, hr.fits⟩
  | ready outcome =>
    exact .ended rfl trivial fun H => (hr.around_over rfl _ H).tail (.releaseSlot ..)
  | panicked text =>
    exact .ended rfl trivial fun H => (hr.around_over rfl _ H).tail (.releaseSlot ..)

theorem afterTimed_leads {timer : Timer} {limit : Duration} {name : String}
    (hr : Leads w A r) : Leads w A (afterTimed timer limit name r) := by
  obtain ⟨poll, w'⟩ := r
  cases poll with
  | pending c =>
    simp only [afterTimed]
    split
    · exact .ended rfl trivial fun H => (hr.steps H).trans (c.abandon_steps w' H)
    · exact ⟨hr.steps, hr.fits⟩
  | ready outcome => exact hr
  | panicked text => exact hr

theorem beginTimed_leads {limit : Duration} {name : String} (hr : Leads w A r) :
    Leads w A (beginTimed limit name r) := by
  obtain ⟨poll, w'⟩ := r
  cases poll with
  | pending c =>
    have hact {H : Multiset Hold} : Act ⟨w', H⟩ ⟨(w'.sleep limit).2, H⟩ :=
      .idle (World.sleep_idles limit w')
    simp only [beginTimed]
    cases hs : w'.sleep limit with
    | mk timer? w'' =>
      rw [hs] at hact
      cases timer? with
      | none =>
        exact .ended rfl trivial fun H =>
          ((hr.steps H).tail hact).trans (c.abandon_steps w'' H)
      | some timer =>
        exact ⟨fun H => (hr.steps H).tail hact, Call.Fits.grow (hact (H := 0)).grows hr.fits⟩
  | ready outcome => exact hr
  | panicked text => exact hr

theorem afterAttempt_leads {policy : Retry.Policy} {op : Operation} {arg : Json} {left : Nat}
    {delay : Duration} {again : Duration → World → Poll × World} (hop : op.Fits w)
    (hagain : ∀ delay, Starts w (again delay)) (hr : Leads w A r) :
    Leads w A (afterAttempt policy op arg left delay again r) := by
  have hgrows := hr.grows
  obtain ⟨poll, w'⟩ := r
  match poll with
  | .pending c => exact ⟨hr.steps, hop.grow hgrows, hr.fits⟩
  | .ready (.ok value) => exact hr
  | .ready (.error failure) =>
    have hover := hr.steps_over rfl
    simp only [afterAttempt]
    split
    -- The last attempt ends the call. Any other is followed by a pause and by the next attempt.
    · cases left with
      | zero => exact .ended rfl trivial hover
      | succ left =>
        have hact {H : Multiset Hold} : Act ⟨w', H⟩ ⟨(w'.sleep delay).2, H⟩ :=
          .idle (World.sleep_idles delay w')
        cases hs : w'.sleep delay with
        | mk timer? w'' =>
          rw [hs] at hact
          cases timer? with
          | none => exact .starts (fun H => (hover H).tail hact) (hagain _)
          | some timer =>
            exact .ended rfl (hop.grow (hgrows.trans (hact (H := 0)).grows))
              fun H => (hover H).tail hact
    · exact .ended rfl trivial hover
  | .panicked text => exact hr

theorem attempts_starts {policy : Retry.Policy} {op : Operation} {arg : Json}
    {start : World → Poll × World} (hop : op.Fits w) (hstart : Starts w start) (left : Nat)
    (delay : Duration) : Starts w (attempts policy op arg start left delay) := by
  induction left generalizing delay with
  | zero =>
    exact fun w' hw => afterAttempt_leads (hop.grow hw) (fun _ => hstart.grow hw) (hstart w' hw)
  | succ left ih =>
    exact fun w' hw =>
      afterAttempt_leads (hop.grow hw) (fun delay => (ih delay).grow hw) (hstart w' hw)

theorem afterFilling_leads {cache : ComponentId} {key : String} {ttl : Nat}
    (hr : Leads w A r) : Leads w A (afterFilling cache key ttl r) := by
  obtain ⟨poll, w'⟩ := r
  match poll with
  | .pending c => exact ⟨hr.steps, hr.fits⟩
  | .ready (.ok value) =>
    exact .ended rfl trivial fun H => (hr.steps_over rfl H).tail (.writeCache ..)
  | .ready (.error failure) => exact hr
  | .panicked text => exact hr

end Call

/-! ### Whole turns of a call -/

/-- **Starting an operation that fits the world leads to a call that holds what it took.** -/
theorem Operation.start_leads (op : Operation) (task : TaskId) (arg : Json) {w : World}
    (hop : op.Fits w) : Leads w 0 (op.start task arg w) := by
  -- In each layer the act of the layer comes first; what fits the world before it fits it after it,
  -- since components never go away.
  induction op generalizing arg w with
  | source id =>
    have hinvoke {H : Multiset Hold} : Act ⟨w, H⟩ ⟨(w.invoke id arg).2, H⟩ := .invoke id arg
    have hdone (ending : Ending) (w' : World) (h : ∀ H, Steps ⟨w, H⟩ ⟨w', H⟩) :
        Leads w 0 (ending.poll arg, w') := by
      refine .outright ?_ ?_ h
      · cases ending <;> rfl
      · cases ending <;> trivial
    simp only [Operation.start]
    split
    · exact hdone _ _ fun H => .single hinvoke
    · next pause _ =>
      have hsleep {H : Multiset Hold} : Act ⟨(w.invoke id arg).2, H⟩
          ⟨((w.invoke id arg).2.sleep pause).2, H⟩ := .idle (World.sleep_idles ..)
      split
      · next hs =>
        rw [hs] at hsleep
        exact .outright rfl trivial fun H => .tail (.single hinvoke) hsleep
      · next hs =>
        rw [hs] at hsleep
        exact hdone _ _ fun H => .tail (.single hinvoke) hsleep
  | guarded inner breaker ih =>
    have henter {H : Multiset Hold} := Act.enter (H := H) hop.1
    simp only [Operation.start]
    split
    · next hadm =>
      rw [hadm] at henter
      exact .act (fun H => henter) rfl trivial
    · next hadm =>
      rw [hadm] at henter
      exact .head (fun H => henter)
        (Call.afterGuarded_leads (A := 0) (ih arg (hop.2.grow (henter (H := 0)).grows)))
  | withFallback inner breaker fallback ih ihf =>
    have henter {H : Multiset Hold} := Act.enter (H := H) hop.1
    simp only [Operation.start]
    split
    · next hadm =>
      rw [hadm] at henter
      exact .head (B := 0) (fun H => henter)
        (ihf arg (hop.2.2.grow (henter (H := 0)).grows))
    · next hadm =>
      rw [hadm] at henter
      have hgrows := (henter (H := 0)).grows
      exact .head (fun H => henter)
        (Call.afterPrimary_leads (A := 0) (hop.2.2.grow hgrows)
          (fun w' hw => ihf arg (hop.2.2.grow (hgrows.trans hw)))
          (ih arg (hop.2.1.grow hgrows)))
  | limited inner limiter ih =>
    have hask {H : Multiset Hold} := Act.askSlot (H := H) task hop.1
    simp only [Operation.start]
    split
    · next hanswer =>
      rw [hanswer] at hask
      exact .head (fun H => hask)
        (Call.afterHolding_leads (A := 0) (ih arg (hop.2.grow (hask (H := 0)).grows)))
    · next hanswer =>
      rw [hanswer] at hask
      exact .act (fun H => hask) rfl (hop.2.grow (hask (H := 0)).grows)
    · next hanswer =>
      rw [hanswer] at hask
      exact .act (fun H => hask) rfl trivial
  | rateLimited inner bucket ih =>
    have hask {H : Multiset Hold} := Act.askToken (H := H) task hop.1
    simp only [Operation.start]
    split
    · next hanswer =>
      rw [hanswer] at hask
      exact .head (B := 0) (fun H => hask) (ih arg (hop.2.grow (hask (H := 0)).grows))
    · next hanswer =>
      rw [hanswer] at hask
      exact .act (fun H => hask) rfl (hop.2.grow (hask (H := 0)).grows)
    · next hanswer =>
      rw [hanswer] at hask
      exact .act (fun H => hask) rfl trivial
  | timed inner limit name ih => exact Call.beginTimed_leads (ih arg hop)
  | retrying inner policy ih =>
    have hfit : inner.Fits w := hop
    exact Call.attempts_starts hfit (fun w' hw => ih arg (hfit.grow hw)) _ _ w (.refl w)
  | cached inner cache keyOf ttl ih =>
    have hread {H : Multiset Hold} : Act ⟨w, H⟩ ⟨(w.readCache cache (keyOf arg)).2, H⟩ :=
      .readCache ..
    simp only [Operation.start]
    split
    · next hfound =>
      rw [hfound] at hread
      exact .outright rfl trivial fun H => .single hread
    · next hfound =>
      rw [hfound] at hread
      exact .head (B := 0) (fun H => (Multiset.zero_add H).symm ▸ hread)
        (Call.afterFilling_leads (ih arg (hop.grow (hread (H := 0)).grows)))

/-- **Running a blocked call on leads from what it holds to what it holds then.** -/
theorem Call.resume_leads (c : Call) (task : TaskId) {w : World} (hc : c.Fits w) :
    Leads w c.holds (c.resume task w) := by
  have hstart {w : World} {op : Operation} (arg : Json) (hop : op.Fits w) :
      Starts w (op.start task arg) := fun w' hw => op.start_leads task arg (hop.grow hw)
  -- The layers around the place where the call is blocked go on with what it comes to.
  induction c with
  | working timer ending arg =>
    simp only [Call.resume]
    split
    · refine .outright (w := w) ?_ ?_ fun _ => .refl
      · cases ending <;> rfl
      · cases ending <;> trivial
    · exact .stay hc
  | guarded breaker probe inner ih => exact afterGuarded_leads (ih hc)
  | withFallback breaker probe fallback arg inner ih =>
    exact afterPrimary_leads hc.1 (hstart arg hc.1) (ih hc.2)
  | awaitingSlot limiter ticket inner arg =>
    simp only [Call.resume]
    split
    · next w' hpick =>
      have hact {H : Multiset Hold} := Act.pickUpSlot (H := H) hpick
      exact .before (B := .slot limiter ::ₘ 0) (fun H => .single hact)
        (afterHolding_leads (A := 0) (hstart arg hc w' (hact (H := 0)).grows))
    · exact .stay hc
  | holdingSlot limiter inner ih => exact afterHolding_leads (ih hc)
  | awaitingToken bucket ticket inner arg =>
    simp only [Call.resume]
    split
    · next w' hpick => exact .starts (fun H => .single (.pickUpToken hpick)) (hstart arg hc)
    · next hpick => exact .ended rfl trivial fun H => .single (.refuseToken hpick)
    · exact .stay hc
  | timed timer limit name inner ih => exact afterTimed_leads (ih hc)
  | attempting policy left delay op arg inner ih =>
    exact afterAttempt_leads hc.1
      (fun delay => attempts_starts hc.1 (hstart arg hc.1) (left - 1) delay) (ih hc.2)
  | pausing policy left delay op arg timer =>
    simp only [Call.resume]
    split
    · exact attempts_starts hc (hstart arg hc) left delay w (.refl w)
    · exact .stay hc
  | filling cache key ttl inner ih => exact afterFilling_leads (ih hc)

end Resilience
