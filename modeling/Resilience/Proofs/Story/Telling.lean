import Resilience.Proofs.Story.Basic

/-!
# Every call has a story

A call that was started, and resumed any number of times in whatever worlds it found, has done
deeds that make a story of its operation, and these deeds are just what it changed in those worlds
(`Operation.start_tells`, `Call.resume_tells`). A call that is taken apart does what its layers have
to undo (`Call.abandon_did`).

The proof follows the code. Each layer has a part before and a part after its inner call, and for
each there is one lemma that goes from the story of the inner call to the story of the layer. For
a call that is resumed the induction is on the story so far, since a blocked call says where it is
but not how it came there.
-/

namespace Resilience

variable {task : TaskId} {w w' : World}

/-- From a world in which a call has done `past`, it does some more and comes to a result. -/
def Tells (task : TaskId) (plan : Plan) (arg : Json) (past : List Deed) (w : World)
    (r : Poll × World) : Prop :=
  ∃ more, Did task w more r.2 ∧ Nonempty (Story plan arg (past ++ more) r.1)

namespace Tells

variable {plan plan' : Plan} {arg : Json} {past past' ds : List Deed} {r : Poll × World}
  {poll : Poll}

/-- A story whose last deeds are those that were done now. -/
theorem intro (hdid : Did task w ds w') (st : Story plan arg (past ++ ds) poll) :
    Tells task plan arg past w (poll, w') := ⟨ds, hdid, ⟨st⟩⟩

/-- A call that stays where it is. -/
theorem stay (st : Story plan arg past poll) : Tells task plan arg past w (poll, w) :=
  intro (.nil w) (st.of_eq (List.append_nil past).symm)

/-- What was done first is part of what a call did. -/
theorem after (hdid : Did task w ds w') (h : Tells task plan arg (past ++ ds) w' r) :
    Tells task plan arg past w r := by
  obtain ⟨more, hmore, ⟨st⟩⟩ := h
  exact ⟨ds ++ more, hdid.append hmore, ⟨st.of_eq (List.append_assoc ..)⟩⟩

/-- The story of an inner call becomes the story of a layer, which may do something more. -/
theorem map {r' : Poll × World} (h : Tells task plan arg past w r) (hdid : Did task r.2 ds r'.2)
    (hlayer : ∀ more, Story plan arg (past ++ more) r.1 →
      Story plan' arg (past' ++ (more ++ ds)) r'.1) : Tells task plan' arg past' w r' := by
  obtain ⟨more, hmore, ⟨st⟩⟩ := h
  exact ⟨more ++ ds, hmore.append hdid, ⟨hlayer more st⟩⟩

/-- The story of an inner call becomes the story of a layer that does nothing more. -/
theorem around {poll' : Poll} (h : Tells task plan arg past w r)
    (hlayer : ∀ more, Story plan arg (past ++ more) r.1 →
      Story plan' arg (past' ++ more) poll') : Tells task plan' arg past' w (poll', r.2) :=
  h.map (.nil r.2) fun more st =>
    (hlayer more st).of_eq (by rw [List.append_nil])

end Tells

/-! ### Calls that are taken apart -/

/-- **A call that is taken apart does what its layers have to undo.** -/
theorem Call.abandon_did (c : Call) (task : TaskId) (w : World) :
    Did task w c.undoing (c.abandon w) := by
  induction c with
  | working | pausing => exact .nil w
  | guarded breaker probe inner ih => exact ih.concat (.forgo breaker probe)
  | withFallback breaker probe fallback arg inner ih => exact ih.concat (.forgo breaker probe)
  | awaitingSlot limiter ticket inner arg => exact .single (.leaveSlot limiter ticket)
  | holdingSlot limiter inner ih => exact ih.concat (.releaseSlot limiter)
  | awaitingToken bucket ticket inner arg => exact .single (.leaveToken bucket ticket)
  | timed timer limit name inner ih => exact ih
  | attempting policy left delay op arg inner ih => exact ih
  | filling cache key ttl inner ih => exact ih

/-! ### The part of a layer after its inner call -/

namespace Call

variable {inner op fallback : Operation} {arg : Json} {past past' : List Deed} {r : Poll × World}

theorem afterGuarded_tells {breaker : String} {probe : Bool}
    (h : Tells task (.run inner) arg past w r) :
    Tells task (.run (.guarded inner breaker)) arg (.enter breaker (.allowed probe) :: past) w
      (afterGuarded breaker probe r) := by
  obtain ⟨poll, w'⟩ := r
  cases poll with
  | pending c => exact h.around fun more st => (st.guarded probe).of_eq (by simp [Poll.settling])
  | ready outcome =>
    exact h.map (.single (.record breaker probe outcome)) fun more st =>
      (st.guarded probe).of_eq (by simp [Poll.settling])
  | panicked text =>
    exact h.map (.single (.forgo breaker probe)) fun more st =>
      (st.guarded probe).of_eq (by simp [Poll.settling])

theorem afterPrimary_tells {breaker : String} {probe : Bool} {start : World → Poll × World}
    (hstart : ∀ w, Tells task (.run fallback) arg [] w (start w))
    (h : Tells task (.run inner) arg past w r) :
    Tells task (.run (.withFallback inner breaker fallback)) arg
      (.enter breaker (.allowed probe) :: past) w
      (afterPrimary breaker probe fallback arg start r) := by
  obtain ⟨poll, w'⟩ := r
  match poll with
  | .pending c =>
    exact h.around fun more st => (st.primary probe rfl).of_eq (by simp [Poll.settling])
  | .ready (.ok value) =>
    exact h.map (.single (.record breaker probe (.ok value))) fun more st =>
      (st.primary probe rfl).of_eq (by simp [Poll.settling])
  | .ready (.error failure) =>
    obtain ⟨more', hdid, ⟨st'⟩⟩ := hstart (w'.record breaker probe (.error failure))
    exact h.map (.cons (.record breaker probe (.error failure)) hdid) fun more st =>
      (st.replaced probe st').of_eq (by simp)
  | .panicked text =>
    exact h.map (.single (.forgo breaker probe)) fun more st =>
      (st.primary probe rfl).of_eq (by simp [Poll.settling])

theorem afterHolding_tells {limiter : ComponentId} (hfront : SlotTaken limiter past')
    (h : Tells task (.run inner) arg past w r) :
    Tells task (.run (.limited inner limiter)) arg (past' ++ past) w
      (afterHolding limiter r) := by
  obtain ⟨poll, w'⟩ := r
  cases poll with
  | pending c =>
    exact h.around fun more st => (Story.limited hfront st).of_eq (by simp [Poll.releasing])
  | ready outcome =>
    exact h.map (.single (.releaseSlot limiter)) fun more st =>
      (Story.limited hfront st).of_eq (by simp [Poll.releasing])
  | panicked text =>
    exact h.map (.single (.releaseSlot limiter)) fun more st =>
      (Story.limited hfront st).of_eq (by simp [Poll.releasing])

theorem afterTimed_tells {timer : Timer} {limit : Duration} {name : String}
    (h : Tells task (.run inner) arg (past ++ past') w r) :
    Tells task (.run (.timed inner limit name)) arg (past ++ .sleep limit (some timer) :: past') w
      (afterTimed timer limit name r) := by
  obtain ⟨poll, w'⟩ := r
  -- The timer was set between the first turn of the inner call and the others.
  have hgoes {more : List Deed} {poll : Poll}
      (st : Story (.run inner) arg (past ++ past' ++ more) poll) :
      Story (.run (.timed inner limit name)) arg
        (past ++ .sleep limit (some timer) :: past' ++ more)
        (poll.within (.timed timer limit name)) :=
    (Story.timed timer (st.of_eq (List.append_assoc ..))).of_eq (by simp)
  cases poll with
  | pending c =>
    simp only [afterTimed]
    split
    · next hover =>
      exact h.map (.cons (.wake hover) (.cons (.timeOut limit name) (c.abandon_did task w')))
        fun more st => (Story.ranOut timer (st.of_eq (List.append_assoc ..))).of_eq (by simp)
    · exact h.around fun more st => hgoes st
  | ready outcome => exact h.around fun more st => hgoes st
  | panicked text => exact h.around fun more st => hgoes st

theorem beginTimed_tells {limit : Duration} {name : String}
    (h : Tells task (.run inner) arg [] w r) :
    Tells task (.run (.timed inner limit name)) arg [] w (beginTimed limit name r) := by
  obtain ⟨poll, w'⟩ := r
  cases poll with
  | pending c =>
    simp only [beginTimed]
    cases hsleep : w'.sleep limit with
    | mk timer? w'' =>
      cases timer? with
      | some timer =>
        exact h.map (.single (.sleep hsleep)) fun more st =>
          Story.timed timer (st.of_eq (List.append_nil _).symm)
      | none =>
        exact h.map (.cons (.sleep hsleep) (.cons (.timeOut limit name) (c.abandon_did task w'')))
          fun more st => Story.timeless st
  | ready outcome => exact h.around fun more st => Story.unhindered st rfl
  | panicked text => exact h.around fun more st => Story.unhindered st rfl

theorem afterAttempt_tells {policy : Retry.Policy} {left : Nat} {delay : Duration}
    {again : Duration → World → Poll × World}
    (hagain : ∀ n, left = n + 1 → ∀ delay w,
      Tells task (.attempts policy op n delay) arg [] w (again delay w))
    (h : Tells task (.run op) arg past w r) :
    Tells task (.attempts policy op left delay) arg past w
      (afterAttempt policy op arg left delay again r) := by
  obtain ⟨poll, w'⟩ := r
  match poll with
  | .pending c => exact h.around fun more st => Story.lastAttempt st (by simp [Poll.failure?])
  | .ready (.ok value) =>
    exact h.around fun more st => Story.lastAttempt st (by simp [Poll.failure?])
  | .panicked text => exact h.around fun more st => Story.lastAttempt st (by simp [Poll.failure?])
  | .ready (.error failure) =>
    simp only [afterAttempt]
    split
    · next hretry =>
      cases left with
      | zero => exact h.around fun more st => Story.lastAttempt st (fun _ _ _ => rfl)
      | succ n =>
        dsimp only
        cases hsleep : w'.sleep delay with
        | mk timer? w'' =>
          cases timer? with
          | some timer =>
            exact h.map (.single (.sleep hsleep)) fun more st =>
              (Story.pausing timer st hretry).of_eq (by simp)
          | none =>
            obtain ⟨more', hdid, ⟨st'⟩⟩ := hagain n rfl (policy.nextDelay delay) w''
            exact h.map (.cons (.sleep hsleep) hdid) fun more st =>
              (Story.again st hretry (.atOnce delay) st').of_eq (by simp)
    · next hgiveUp =>
      refine h.around fun more st => Story.lastAttempt st ?_
      intro other hother hretry
      obtain rfl : failure = other := by simpa [Poll.failure?] using hother
      exact absurd hretry hgiveUp

theorem attempts_tells (policy : Retry.Policy) {start : World → Poll × World}
    (hstart : ∀ w, Tells task (.run op) arg [] w (start w)) (left : Nat) (delay : Duration)
    (w : World) : Tells task (.attempts policy op left delay) arg [] w
      (attempts policy op arg start left delay w) := by
  -- By induction on the attempts that are left, because a pause that is over at once is followed by
  -- the next attempt in the same turn.
  induction left generalizing delay w with
  | zero => exact afterAttempt_tells (fun n hn => by cases hn) (hstart w)
  | succ left ih =>
    refine afterAttempt_tells (fun n hn delay w => ?_) (hstart w)
    obtain rfl := Nat.succ.inj hn
    exact ih delay w

theorem afterFilling_tells {cache : ComponentId} {keyOf : Json → String} {ttl : Nat}
    (now : Instant) (h : Tells task (.run inner) arg past w r) :
    Tells task (.run (.cached inner cache keyOf ttl)) arg
      (.readCache cache (keyOf arg) none now :: past) w
      (afterFilling cache (keyOf arg) ttl r) := by
  obtain ⟨poll, w'⟩ := r
  match poll with
  | .pending c =>
    exact h.around fun more st =>
      (Story.miss now w'.now st).of_eq (by simp [Poll.storing])
  | .ready (.ok value) =>
    exact h.map (.single (.writeCache cache (keyOf arg) value ttl)) fun more st =>
      (Story.miss now w'.now st).of_eq (by simp [Poll.storing])
  | .ready (.error failure) =>
    exact h.around fun more st =>
      (Story.miss now w'.now st).of_eq (by simp [Poll.storing])
  | .panicked text =>
    exact h.around fun more st =>
      (Story.miss now w'.now st).of_eq (by simp [Poll.storing])

end Call

/-! ### Whole turns of a call -/

/-- **A call that is started has a story.** -/
theorem Operation.start_tells (op : Operation) (task : TaskId) (arg : Json) (w : World) :
    Tells task (.run op) arg [] w (op.start task arg w) := by
  -- Each layer does its own deed in front, and what it does after its inner call is one of the
  -- lemmas above.
  induction op generalizing arg w with
  | source id =>
    simp only [Operation.start]
    cases hinvoke : w.invoke id arg with
    | mk turn w₁ =>
      dsimp only
      cases hpause : turn.pause with
      | none =>
        have hnap : Nap turn.pause [] := by rw [hpause]; exact .nothing
        exact .intro (.cons (.invoke hinvoke) (.single (.finish id arg turn.ending)))
          (.returned hnap)
      | some pause =>
        dsimp only
        cases hsleep : w₁.sleep pause with
        | mk timer? w₂ =>
          cases timer? with
          | some timer =>
            exact .intro (.cons (.invoke hinvoke) (.single (.sleep hsleep))) (.working hpause)
          | none =>
            have hnap : Nap turn.pause [.sleep pause none] := by rw [hpause]; exact .atOnce pause
            exact .intro (.cons (.invoke hinvoke) (.cons (.sleep hsleep)
              (.single (.finish id arg turn.ending)))) (.returned hnap)
  | guarded inner breaker ih =>
    simp only [Operation.start]
    cases henter : w.enter breaker with
    | mk admission w₁ =>
      cases admission with
      | rejected count => exact .intro (.single (.enter henter)) (.refused count)
      | allowed probe =>
        exact .after (.single (.enter henter)) (Call.afterGuarded_tells (ih arg w₁))
  | withFallback inner breaker fallback ih ihf =>
    simp only [Operation.start]
    cases henter : w.enter breaker with
    | mk admission w₁ =>
      cases admission with
      | rejected count =>
        exact .after (.single (.enter henter))
          ((ihf arg w₁).around fun more st => st.passedBy count)
      | allowed probe =>
        exact .after (.single (.enter henter))
          (Call.afterPrimary_tells (fun w => ihf arg w) (ih arg w₁))
  | limited inner limiter ih =>
    simp only [Operation.start]
    cases hask : w.askSlot limiter task with
    | mk answer w₁ =>
      rcases answer with rejection | _ | ticket
      · exact .intro (.single (.askSlot hask)) (.lineFull rejection)
      · have hfront : SlotTaken limiter [.askSlot limiter (.ok none)] := .atOnce
        have hinner := Call.afterHolding_tells hfront (ih arg w₁)
        exact .after (.single (.askSlot hask)) hinner
      · exact .intro (.single (.askSlot hask)) (.awaitingSlot ticket)
  | rateLimited inner bucket ih =>
    simp only [Operation.start]
    cases hask : w.askToken bucket task with
    | mk answer w₁ =>
      rcases answer with rejection | _ | ticket
      · exact .intro (.single (.askToken hask)) (.bucketClosed rejection)
      · exact .after (.single (.askToken hask))
          ((ih arg w₁).around fun more st => .rateLimited .atOnce st)
      · exact .intro (.single (.askToken hask)) (.awaitingToken ticket)
  | timed inner limit name ih => exact Call.beginTimed_tells (ih arg w)
  | retrying inner policy ih =>
    have hattempts := Call.attempts_tells policy (fun w => ih arg w)
      (policy.attempts - 1) policy.config.delay w
    exact hattempts.around fun more st => .retrying st
  | cached inner cache keyOf ttl ih =>
    simp only [Operation.start]
    cases hread : w.readCache cache (keyOf arg) with
    | mk found w₁ =>
      cases found with
      | some value => exact .intro (.single (.readCache hread)) (.hit value w.now)
      | none =>
        exact .after (.single (.readCache hread)) (Call.afterFilling_tells w.now (ih arg w₁))

/-- **The story of a blocked call goes on when the call is resumed.** -/
theorem Call.resume_tells (task : TaskId) {plan : Plan} {arg : Json} {past : List Deed}
    {poll : Poll} (st : Story plan arg past poll) {c : Call} (hc : poll = .pending c) (w : World) :
    Tells task plan arg past w (c.resume task w) := by
  -- The induction is on the story so far, since it has the layers that are still under way. A layer
  -- that has done its part (`passedBy`, `replaced`, `again`) passes the turn on.
  induction st generalizing c w with
  | refused | lineFull | bucketClosed | sentAway | timeless | ranOut | hit => cases hc
  | @returned id arg turn nap h => exact absurd hc (turn.ending.poll_ne_pending arg c)
  | @working id arg turn length timer h =>
    cases hc
    simp only [Call.resume]
    split
    · next hover =>
      have hnap : Nap turn.pause [.sleep length (some timer), .wake timer] := by
        rw [h]
        exact .slept length timer
      exact .intro (.cons (.wake hover) (.single (.finish id arg turn.ending))) (.returned hnap)
    · exact .stay (.working h)
  | @guarded _ _ _ _ poll probe _ ih =>
    cases poll <;> cases hc
    simp only [Poll.settling, List.append_nil, Call.resume]
    exact afterGuarded_tells (ih rfl w)
  | passedBy count _ ih =>
    exact (ih hc w).around fun more st => st.passedBy count
  | @primary _ _ fallback arg _ poll probe _ _ ih =>
    cases poll <;> cases hc
    simp only [Poll.settling, List.append_nil, Call.resume]
    exact afterPrimary_tells (fun w => fallback.start_tells task arg w) (ih rfl w)
  | replaced probe st _ _ ih' =>
    exact (ih' hc w).around fun more st' => (st.replaced probe st').of_eq (by simp)
  | @awaitingSlot inner limiter arg ticket =>
    cases hc
    simp only [Call.resume]
    split
    · next w' hpick =>
      have hfront : SlotTaken limiter
          [.askSlot limiter (.ok (some ticket)), .pickUpSlot limiter ticket] := .inLine ticket
      have hinner := afterHolding_tells hfront (inner.start_tells task arg w')
      exact .after (.single (.pickUpSlot hpick)) hinner
    · exact .stay (.awaitingSlot ticket)
  | @limited _ _ _ _ _ poll hfront _ ih =>
    cases poll <;> cases hc
    simp only [Poll.releasing, List.append_nil, Call.resume]
    exact afterHolding_tells hfront (ih rfl w)
  | @awaitingToken inner bucket arg ticket =>
    cases hc
    simp only [Call.resume]
    split
    · next w' hpick =>
      exact .after (.single (.pickUpToken hpick)) ((inner.start_tells task arg w').around
        fun more st => .rateLimited (.inLine ticket) st)
    · next rejection hpick =>
      exact .intro (.single (.refuseToken hpick)) (.sentAway ticket rejection)
    · exact .stay (.awaitingToken ticket)
  | rateLimited hfront _ ih =>
    exact (ih hc w).around fun more st => (Story.rateLimited hfront st).of_eq (by simp)
  | unhindered _ h => rw [hc] at h; cases h
  | @timed _ _ _ _ _ _ poll _ _ ih =>
    cases poll <;> cases hc
    have hinner := ih rfl w
    exact afterTimed_tells hinner
  | retrying _ ih => exact (ih hc w).around fun more st => .retrying st
  | @lastAttempt policy op left delay arg _ poll _ _ ih =>
    cases poll <;> cases hc
    have hinner := ih rfl w
    refine afterAttempt_tells (fun n hn delay w => ?_) hinner
    subst hn
    exact attempts_tells policy (fun w => op.start_tells task arg w) n delay w
  | @pausing policy op left delay arg _ _ timer st hretry =>
    cases hc
    simp only [Call.resume]
    split
    · next hover =>
      have hrest := attempts_tells policy (fun w => op.start_tells task arg w) left
        (policy.nextDelay delay) w
      exact .after (.single (.wake hover)) (hrest.around fun more st' =>
        (Story.again st hretry (.slept delay timer) st').of_eq (by simp))
    · exact .stay (.pausing timer st hretry)
  | again st hretry hnap _ _ ih' =>
    exact (ih' hc w).around fun more st' => (Story.again st hretry hnap st').of_eq (by simp)
  | @miss _ _ _ _ _ _ poll now _ _ ih =>
    cases poll <;> cases hc
    simp only [Poll.storing, List.append_nil, Call.resume]
    have hinner := ih rfl w
    exact afterFilling_tells now hinner

end Resilience
