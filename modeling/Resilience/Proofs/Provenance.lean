import Resilience.Proofs.Session.Calls

/-!
# Where outcomes come from

Whatever the layers around it, a call that settles hands on what one of its deeds gave: the end of
an invocation that began in this call, a value read from the cache of one of its layers, or the
refusal of one of its layers, which bears the name of that layer's component. No layer makes
anything else of it.

The first half is about stories (`Story.exists_gives`) and needs no world. The names are those that
the components have when they refuse; they keep them, so they can still be looked up when the call
has settled (`Chronicle.signed`).
-/

namespace Resilience

/-! ### What gives an outcome -/

/-- The rejection that a layer makes. -/
def Deed.refusal? : Deed → Option Rejection
  | enter breaker (.rejected count) => some (.circuitOpen breaker count)
  | askSlot _ (.error rejection) => some rejection
  | askToken _ (.error rejection) => some rejection
  | refuseToken _ _ rejection => some rejection
  | timeOut limit name => some (.timeout name (limit.millis % (maxWord + 1)))
  | _ => none

/-- These deeds of a call with this argument give this outcome. -/
inductive Gives (arg : Json) : List Deed → Outcome → Prop
  /-- A source returns it. -/
  | returned {source turn outcome} (h : turn.ending.poll arg = .ready outcome) :
      Gives arg [.invoke source arg turn, .finish source arg turn.ending] outcome
  /-- A cache has it. -/
  | found (cache : ComponentId) (key : String) (value : Json) (now : Instant) :
      Gives arg [.readCache cache key (some value) now] (.ok value)
  /-- A layer refuses. -/
  | refused {d rejection} (h : d.refusal? = some rejection) :
      Gives arg [d] (.error (.rejected rejection))

/-- **The outcome of a call is given by deeds of the call**, and the layers around hand it on as it
is. -/
theorem Story.exists_gives {plan : Plan} {arg : Json} {ds : List Deed} {poll : Poll}
    {outcome : Outcome} (st : Story plan arg ds poll) (h : poll = .ready outcome) :
    ∃ given : List Deed, given.Sublist ds ∧ Gives arg given outcome := by
  -- More is done around what is told about, and nothing else comes of it.
  have hmore {arg : Json} {ds ds' : List Deed} {outcome : Outcome} (hsub : ds.Sublist ds')
      (h : ∃ given : List Deed, given.Sublist ds ∧ Gives arg given outcome) :
      ∃ given : List Deed, given.Sublist ds' ∧ Gives arg given outcome := by
    obtain ⟨given, hgiven, hgives⟩ := h
    exact ⟨given, hgiven.trans hsub, hgives⟩
  have hrefused {arg : Json} {ds : List Deed} {d : Deed} {rejection : Rejection} (hd : d ∈ ds)
      (h : d.refusal? = some rejection) : ∃ given : List Deed, given.Sublist ds ∧
        Gives arg given (.error (.rejected rejection)) :=
    ⟨[d], List.singleton_sublist.mpr hd, .refused h⟩
  induction st generalizing outcome with
  | working | awaitingSlot | awaitingToken | pausing => cases h
  | returned hnap =>
    exact ⟨_, (List.sublist_append_right ..).cons_cons _, .returned h⟩
  | refused count => cases h; exact hrefused List.mem_cons_self rfl
  | guarded probe _ ih =>
    exact hmore ((List.sublist_append_left ..).cons _) (ih (Poll.within_eq_ready.mp h))
  | passedBy count _ ih => exact hmore (List.sublist_cons_self ..) (ih h)
  | primary probe _ _ ih =>
    exact hmore ((List.sublist_append_left ..).cons _) (ih (Poll.within_eq_ready.mp h))
  | replaced probe _ _ _ ih' =>
    refine hmore (.cons _ (.trans ?_ (List.sublist_append_right ..))) (ih' h)
    exact List.sublist_cons_self ..
  | lineFull rejection => cases h; exact hrefused List.mem_cons_self rfl
  | limited _ _ ih =>
    refine hmore (.trans ?_ (List.sublist_append_right ..)) (ih (Poll.within_eq_ready.mp h))
    exact List.sublist_append_left ..
  | bucketClosed rejection => cases h; exact hrefused List.mem_cons_self rfl
  | sentAway ticket rejection =>
    cases h
    exact hrefused (List.mem_cons_of_mem _ List.mem_cons_self) rfl
  | rateLimited _ _ ih => exact hmore (List.sublist_append_right ..) (ih h)
  | unhindered _ _ ih => exact ih h
  | timed timer _ ih =>
    exact hmore ((List.Sublist.refl _).append (List.sublist_cons_self ..))
      (ih (Poll.within_eq_ready.mp h))
  | timeless =>
    cases h
    exact hrefused (List.mem_append_right _ (List.mem_cons_of_mem _ List.mem_cons_self)) rfl
  | ranOut =>
    cases h
    have hlast {a b : Deed} {ds ds' : List Deed} : a ∈ ds ++ b :: a :: ds' :=
      List.mem_append_right _ (List.mem_cons_of_mem _ List.mem_cons_self)
    exact hrefused (List.mem_append_right _ (List.mem_cons_of_mem _ hlast)) rfl
  | retrying _ ih => exact ih h
  | lastAttempt _ _ ih => exact ih (Poll.within_eq_ready.mp h)
  | again _ _ _ _ _ ih' =>
    refine hmore (.trans ?_ (List.sublist_append_right ..)) (ih' h)
    exact List.sublist_append_right ..
  | @hit _ cache keyOf _ arg value now =>
    cases h
    exact ⟨_, .refl _, .found cache (keyOf arg) value now⟩
  | miss now later _ ih =>
    exact hmore ((List.sublist_append_left ..).cons _) (ih (Poll.within_eq_ready.mp h))

/-! ### Whose refusal it is -/

/-- The rejection is one of this part, and bears the name that the part has in the world. -/
def Part.Refuses (w : World) : Part → Rejection → Prop
  | source _, _ => False
  | cache _, _ => False
  | breaker name, rejection => ∃ count, rejection = .circuitOpen name count
  | limiter id, rejection => ∃ c active queued, w.limiters.get? id = some c ∧
      rejection = .queueOverflow c.name active queued c.config.maxQueue
  | bucket id, rejection => ∃ c, w.buckets.get? id = some c ∧ rejection = .closed c.name
  | limit length name, rejection => rejection = .timeout name (length.millis % (maxWord + 1))

/-- If a layer refuses, then in the name of its component. -/
def Deed.Signed (w : World) (d : Deed) : Prop :=
  ∀ rejection ∈ d.refusal?, ∃ part ∈ d.part?, part.Refuses w rejection

theorem Part.Refuses.keeps {w w' : World} {part : Part} {rejection : Rejection}
    (h : part.Refuses w rejection) (hkeeps : w.Keeps w') : part.Refuses w' rejection := by
  match part with
  | .source _ | .cache _ | .breaker _ | .limit _ _ => exact h
  | .limiter id =>
    obtain ⟨c, active, queued, hc, rfl⟩ := h
    obtain ⟨l, hl⟩ := hkeeps.limiters hc
    exact ⟨_, active, queued, hl, rfl⟩
  | .bucket id =>
    obtain ⟨c, hc, rfl⟩ := h
    obtain ⟨b, hb⟩ := hkeeps.buckets hc
    exact ⟨_, hb, rfl⟩

theorem Deed.Signed.keeps {w w' : World} {d : Deed} (h : d.Signed w) (hkeeps : w.Keeps w') :
    d.Signed w' := by
  intro rejection hrejection
  obtain ⟨part, hpart, hrefuses⟩ := h rejection hrejection
  exact ⟨part, hpart, hrefuses.keeps hkeeps⟩

/-- **A layer refuses in the name of its component.** -/
theorem Deed.Does.signed {task : TaskId} {w w' : World} {d : Deed} (h : d.Does task w w') :
    d.Signed w' := by
  have hkeeps := h.keeps
  intro rejection hrejection
  cases h with
  | @enter _ _ breaker admission h =>
    cases admission with
    | rejected count =>
      obtain rfl : Rejection.circuitOpen breaker count = rejection := by
        simpa [refusal?] using hrejection
      exact ⟨_, rfl, count, rfl⟩
    | allowed probe => cases hrejection
  | timeOut limit name =>
    obtain rfl : Rejection.timeout name _ = rejection := by simpa [refusal?] using hrejection
    exact ⟨_, rfl, rfl⟩
  | @askSlot _ _ limiter answer h =>
    refine ⟨_, rfl, Part.Refuses.keeps ?_ hkeeps⟩
    rcases answer with rejected | ticket?
    · obtain rfl : rejected = rejection := by simpa [refusal?] using hrejection
      cases hc : w.limiters.get? limiter with
      | none => simp [World.askSlot, hc] at h
      | some c =>
        simp only [World.askSlot, hc] at h
        split at h
        · cases h
        · cases h
        · next active queued _ =>
          cases h
          exact ⟨c, active, queued, hc, rfl⟩
    · cases hrejection
  | @askToken _ _ bucket answer h =>
    refine ⟨_, rfl, Part.Refuses.keeps ?_ hkeeps⟩
    rcases answer with rejected | ticket?
    · obtain rfl : rejected = rejection := by simpa [refusal?] using hrejection
      cases hc : w.buckets.get? bucket with
      | none => simp [World.askToken_of_none hc] at h
      | some c =>
        rw [World.askToken_of_some hc] at h
        split at h
        · cases h
        · cases h
        · cases h
          exact ⟨c, hc, rfl⟩
    · cases hrejection
  | @refuseToken _ bucket ticket rejected h =>
    obtain rfl : rejected = rejection := by simpa [refusal?] using hrejection
    obtain ⟨c, hc, -, -, rfl⟩ := World.pickUpToken_eq_refused h
    exact ⟨_, rfl, c, hc, rfl⟩
  | _ => cases hrejection

/-- **Whatever was refused in a chronicle bears the name of the component that refused it.** -/
theorem Chronicle.signed {w : World} {log : List Deed} {lives : List Life}
    (h : Chronicle World.Keeps w log lives) : ∀ d ∈ log, d.Signed w := by
  refine h.invariant (motive := fun w log => ∀ d ∈ log, d.Signed w)
    (fun _ _ hkeeps => hkeeps.grows) (fun _ _ d hd => absurd hd List.not_mem_nil)
    (fun _ _ _ hkeeps hlog d hd => (hlog d hd).keeps hkeeps) ?_
  intro task op d w w' log _ _ hdoes hlog
  refine List.forall_mem_append.mpr ⟨fun other hother => ?_, ?_⟩
  · exact (hlog other hother).keeps hdoes.keeps
  · exact List.forall_mem_singleton.mpr hdoes.signed

/-! ### The origin of an outcome -/

/-- Where an outcome of an operation comes from, by what was done in a call of it. -/
inductive Origin (w : World) (op : Operation) (arg : Json) (ds : List Deed) : Outcome → Prop
  /-- A source of the operation was invoked and returned it. -/
  | returned {source turn outcome} (hpart : .source source ∈ op.parts)
      (hdone : [.invoke source arg turn, .finish source arg turn.ending].Sublist ds)
      (hended : turn.ending.poll arg = .ready outcome) : Origin w op arg ds outcome
  /-- It was read from the cache of a layer. -/
  | found {cache key value now} (hpart : .cache cache ∈ op.parts)
      (hdone : .readCache cache key (some value) now ∈ ds) : Origin w op arg ds (.ok value)
  /-- A layer refused, in the name of its component. -/
  | refused {part d rejection} (hpart : part ∈ op.parts) (hdone : d ∈ ds)
      (hfor : d.part? = some part) (hmade : d.refusal? = some rejection)
      (hname : part.Refuses w rejection) : Origin w op arg ds (.error (.rejected rejection))

/-- A call that settled in a chronicle. -/
theorem Life.origin {w : World} {log : List Deed} {lives : List Life} {life : Life}
    {outcome : Outcome} (h : Chronicle World.Keeps w log lives) (hlife : life ∈ lives)
    (hpoll : life.poll = .ready outcome) : Origin w life.op life.arg life.deeds outcome := by
  have hfor : ∀ d ∈ life.deeds, d.IsFor life.op.parts := life.story.isFor
  obtain ⟨given, hsub, hgives⟩ := life.story.exists_gives hpoll
  cases hgives with
  | @returned source turn _ hended =>
    have hinvoke := hfor (.invoke source life.arg turn) (hsub.subset List.mem_cons_self)
    exact .returned (hinvoke _ rfl) hsub hended
  | found cache key value now =>
    have hread := List.singleton_sublist.mp hsub
    exact .found (hfor _ hread _ rfl) hread
  | @refused d rejection hmade =>
    have hd := List.singleton_sublist.mp hsub
    have hdone : d ∈ log := by
      refine h.log_perm.mem_iff.mpr (List.mem_flatMap.mpr ⟨life, hlife, ?_⟩)
      exact List.mem_append_left _ hd
    obtain ⟨part, hpart, hrefuses⟩ := h.signed d hdone rejection hmade
    exact .refused (hfor d hd part hpart) hd hpart hmade hrefuses

/-- **Every outcome has its origin.** Let a call of any operation settle in any run, with other
calls and anything else going on beside it that keeps the components. Its outcome was returned by
an invocation of one of the operation's sources, which began and ended in this call; or it was read,
in this call, from the cache of one of the operation's layers; or it is the rejection that one of
the operation's layers made in this call, with the name of that layer's own component. In sessions,
that is the outcome which is reported for the call. -/
theorem outcome_has_origin :
    (∀ (w : World) (log : List Deed) (lives : List Life) (life : Life) (outcome : Outcome),
      Chronicle World.Keeps w log lives → life ∈ lives → life.poll = .ready outcome →
        Origin w life.op life.arg life.deeds outcome) ∧
    (∀ (s : Session) (id : TaskId) (name : String) (op : Operation) (arg : Json)
      (call? : Option Call) (outcome : Outcome) (w : World),
      s.Reachable → s.tasks.get? id = some ⟨.call name op arg call?, false⟩ →
      op.goOn id arg call? s.world = (.ready outcome, w) →
        (s.turn id).world = w.note (.done name outcome) ∧
          ∃ log lives, Chronicle World.Keeps w log lives ∧ ∃ life ∈ lives,
            life.Of id op arg (.ready outcome) ∧ Origin w op arg life.deeds outcome) := by
  refine ⟨fun w log lives life outcome h hlife hpoll => Life.origin h hlife hpoll,
    fun s id name op arg call? outcome w hs htask hended => ⟨?_, ?_⟩⟩
  · simp [Session.turn, htask, Session.turnCall_eq, hended]
  · obtain ⟨log, lives, hchronicle, ⟨life, hlife, hof⟩, -⟩ := hs.told.exists_polled htask
    rw [hended] at hchronicle hof
    have hkeeps : Chronicle World.Keeps w log lives := hchronicle.mono fun _ _ hbeside =>
      hbeside.toKeeps
    have horigin := Life.origin hkeeps hlife hof.poll
    rw [hof.op, hof.arg] at horigin
    exact ⟨log, lives, hkeeps, life, hlife, hof, horigin⟩

/-- A session with a call that is given five milliseconds and takes fifty, when its time is
over. -/
def overdue : Session :=
  let s := ((Session.create {} false).performAll ⟨toString, toString⟩
    [.define "op" [⟨some (.ofMillis 50), .echo⟩] [.timeout (.ofMillis 5) "slow", .breaker "b"],
      .call "op" "late" .null]).2.turn 1
  { s with world := s.world.pass 5 }

theorem overdue_reachable : overdue.Reachable :=
  have hcalled := (Session.Reachable.create {} false).performAll ⟨toString, toString⟩
    [.define "op" [⟨some (.ofMillis 50), .echo⟩] [.timeout (.ofMillis 5) "slow", .breaker "b"],
      .call "op" "late" .null]
  (hcalled.happens (.turn 1)).happens (.pass 5)

/-- The call ends with the rejection of its time limit, which the breaker around it hands on. -/
theorem outcome_has_origin_overdue :
    overdue.Reachable ∧ ∃ op c,
      overdue.tasks.get? 1 = some ⟨.call "late" op .null (some c), false⟩ ∧
      ∃ w log lives, (overdue.turn 1).world =
          w.note (.done "late" (.error (.rejected (.timeout "slow" 5)))) ∧
        Chronicle World.Keeps w log lives ∧ ∃ life ∈ lives,
          life.poll = .ready (.error (.rejected (.timeout "slow" 5))) ∧
          Origin w op .null life.deeds (.error (.rejected (.timeout "slow" 5))) ∧
          Origin w life.op life.arg life.deeds (.error (.rejected (.timeout "slow" 5))) := by
  have htask : overdue.tasks.get? 1 = some ⟨.call "late"
      (.guarded (.timed (.source 0) (.ofMillis 5) "slow") "b") .null
      (some (.guarded "b" false (.timed ⟨5, 3⟩ (.ofMillis 5) "slow"
        (.working ⟨50, 2⟩ .echo .null)))), false⟩ := by rfl
  have hended : (Operation.goOn 1 (.guarded (.timed (.source 0) (.ofMillis 5) "slow") "b") .null
      (some (.guarded "b" false (.timed ⟨5, 3⟩ (.ofMillis 5) "slow"
        (.working ⟨50, 2⟩ .echo .null)))) overdue.world).1 =
      .ready (.error (.rejected (.timeout "slow" 5))) := by rfl
  obtain ⟨hlives, hsession⟩ := outcome_has_origin
  obtain ⟨hnoted, log, lives, hchronicle, life, hlife, hof, horigin⟩ :=
    hsession overdue 1 "late" _ .null _ _ _ overdue_reachable htask (Prod.ext hended rfl)
  exact ⟨overdue_reachable, _, _, htask, _, log, lives, hnoted, hchronicle, life, hlife, hof.poll,
    horigin, hlives _ log lives life _ hchronicle hlife hof.poll⟩

end Resilience
