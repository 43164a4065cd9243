import Resilience.Proofs.Session.Calls

/-!
# What a breaker records

A call that a breaker lets through is its **primary** call, whatever goes on inside it: attempts,
time limits, other breakers. `Story.primaries` reads off a story how far each of them got. A breaker
records the outcomes of its primary calls that settled, and nothing else: not those that panicked or
went away, and not what a fallback gives (`Story.tallies`).

So the successes that a breaker has counted are those of its primary calls, in any run, since it
was created (`Chronicle.successes_eq`). A reset leaves them as they are.
-/

namespace Resilience

/-! ### What counts -/

namespace Breaker

/-- This outcome was added to what a breaker has counted, or none was. -/
def Counts (now : Instant) (outcome? : Option Outcome) (b b' : Breaker) : Prop :=
  match outcome? with
  | none => b'.successCount = b.successCount ∧ b'.failureCount = b.failureCount ∧
      b'.lastFailure = b.lastFailure
  | some (.ok _) => b'.successCount = b.successCount + 1 ∧
      (b'.failureCount = 0 ∨ b'.failureCount = b.failureCount) ∧ b'.lastFailure = b.lastFailure
  | some (.error _) => b'.successCount = b.successCount ∧
      b'.failureCount = min (b.failureCount + 1) maxHalfWord ∧ b'.lastFailure = some now

variable {b b' : Breaker} {now : Instant}

theorem Counts.successCount {outcome? : Option Outcome} (h : Counts now outcome? b b') :
    b'.successCount = b.successCount + outcome?.toList.countP Except.isOk := by
  match outcome? with
  | none => exact h.1
  | some (.ok _) => exact h.1
  | some (.error _) => exact h.1

theorem counts_enter (name : String) (config : Config) (now : Instant) (b : Breaker) :
    Counts now none b (b.enter name config now).2.2 := by
  unfold enter
  repeat' split
  all_goals exact ⟨rfl, rfl, rfl⟩

theorem counts_recordSuccess (name : String) (probe : Bool) (now : Instant) (b : Breaker)
    (value : Json) : Counts now (some (.ok value)) b (b.recordSuccess name probe).2 := by
  unfold recordSuccess
  repeat' split
  · exact ⟨rfl, .inl rfl, rfl⟩
  · exact ⟨rfl, .inr rfl, rfl⟩
  · exact ⟨rfl, .inl rfl, rfl⟩
  · exact ⟨rfl, .inr rfl, rfl⟩

theorem counts_recordFailure (name : String) (config : Config) (now : Instant) (probe : Bool)
    (b : Breaker) (failure : Failure) :
    Counts now (some (.error failure)) b (b.recordFailure name config now probe).2 := by
  simp only [recordFailure]
  split <;> exact ⟨rfl, rfl, rfl⟩

end Breaker

namespace Deed

/-- The outcome that is recorded by a breaker. -/
def recorded? (name : String) : Deed → Option Outcome
  | record breaker _ outcome => if breaker = name then some outcome else none
  | _ => none

/-- Whether a breaker lets a call through. -/
def admits (name : String) : Deed → Bool
  | enter breaker (.allowed _) => breaker = name
  | _ => false

theorem recorded?_eq_none {name : String} {d : Deed} (h : d.part? ≠ some (.breaker name)) :
    d.recorded? name = none := by
  cases d with
  | record breaker probe outcome =>
    have hne : breaker ≠ name := fun heq => h (heq ▸ rfl)
    simp [recorded?, hne]
  | _ => rfl

/-- **A deed adds to what a breaker has counted what it records**, and that is one outcome at
most. -/
theorem Does.counts {task : TaskId} {w w' : World} {d : Deed} (h : d.Does task w w') {name : String}
    {c : Component Breaker.Config Breaker} (hc : w.breakers.get? name = some c) :
    ∃ b, w'.breakers.get? name = some { c with state := b } ∧
      Breaker.Counts w.now (d.recorded? name) c.state b := by
  -- Only deeds for this breaker can change it; the others record nothing for it either.
  by_cases hd : d.part? = some (.breaker name)
  · cases h with
    | enter h =>
      cases hd
      simp only [World.enter, hc] at h
      obtain ⟨-, rfl⟩ := Prod.mk.inj h
      exact ⟨_, by simp [Table.get?_set], Breaker.counts_enter name c.config w.now c.state⟩
    | record breaker probe outcome =>
      cases hd
      have hrecorded : (Deed.record name probe outcome).recorded? name = some outcome := by
        simp [recorded?]
      rw [hrecorded]
      cases outcome with
      | ok value =>
        exact ⟨_, by simp [World.record, hc, Table.get?_set],
          Breaker.counts_recordSuccess name probe w.now c.state value⟩
      | error failure =>
        exact ⟨_, by simp [World.record, hc, Table.get?_set],
          Breaker.counts_recordFailure name c.config w.now probe c.state failure⟩
    | forgo breaker probe =>
      cases hd
      cases probe with
      | true =>
        exact ⟨c.state.probeLost, by simp [World.forgo, hc, Table.get?_modify], rfl, rfl, rfl⟩
      | false => exact ⟨c.state, by simp [World.forgo, hc], rfl, rfl, rfl⟩
    | _ => cases hd
  · rw [recorded?_eq_none hd]
    exact ⟨c.state, by rw [h.within.breakers hd, hc], rfl, rfl, rfl⟩

end Deed

/-! ### The primary calls of a breaker -/

/-- The outcome of a call that settled. -/
def Poll.outcome? : Poll → Option Outcome
  | ready outcome => some outcome
  | _ => none

/-- How far each call got that a breaker let through, in the order in which they were over. -/
def Story.primaries (name : String) {plan : Plan} {arg : Json} {ds : List Deed} {poll : Poll}
    (st : Story plan arg ds poll) : List Poll :=
  match st with
  | .working .. | .returned .. | .refused .. => []
  | @guarded _ breaker _ _ poll _ st =>
    st.primaries name ++ if breaker = name then [poll] else []
  | .passedBy _ st => st.primaries name
  | @primary _ breaker _ _ _ poll _ st _ =>
    st.primaries name ++ if breaker = name then [poll] else []
  | @replaced _ breaker _ _ _ failure _ _ _ st st' =>
    -- What becomes of the fallback is not among them.
    st.primaries name ++ ((if breaker = name then [.ready (.error failure)] else []) ++
      st'.primaries name)
  | .lineFull _ | .awaitingSlot _ => []
  | .limited _ st => st.primaries name
  | .bucketClosed _ | .awaitingToken _ | .sentAway .. => []
  | .rateLimited _ st => st.primaries name
  | .unhindered st _ => st.primaries name
  | .timed _ st => st.primaries name
  | .timeless st => st.primaries name
  | .ranOut _ st => st.primaries name
  | .retrying st => st.primaries name
  | .lastAttempt st _ => st.primaries name
  | .pausing _ st _ => st.primaries name
  | .again st _ _ st' => st.primaries name ++ st'.primaries name
  | .hit .. => []
  | .miss _ _ st => st.primaries name

namespace Story

/-- These deeds tell of these primary calls of a breaker. -/
structure Tallies (name : String) (ds : List Deed) (primaries : List Poll) : Prop where
  recorded : ds.filterMap (Deed.recorded? name) = primaries.filterMap Poll.outcome?
  admitted : ds.countP (Deed.admits name) = primaries.length

variable {name : String} {plan : Plan} {arg : Json} {ds ds' : List Deed} {poll : Poll}
  {primaries primaries' : List Poll}

namespace Tallies

theorem append (h : Tallies name ds primaries) (h' : Tallies name ds' primaries') :
    Tallies name (ds ++ ds') (primaries ++ primaries') where
  recorded := by rw [List.filterMap_append, List.filterMap_append, h.recorded, h'.recorded]
  admitted := by rw [List.countP_append, List.length_append, h.admitted, h'.admitted]

/-- Deeds that are not about primary calls come before. -/
theorem after (hquiet : Tallies name ds []) (h : Tallies name ds' primaries) :
    Tallies name (ds ++ ds') primaries := hquiet.append h

/-- Deeds that are not about primary calls follow. -/
theorem before (h : Tallies name ds primaries) (hquiet : Tallies name ds' []) :
    Tallies name (ds ++ ds') primaries := by
  have happend := h.append hquiet
  rwa [List.append_nil] at happend

/-- Deeds that are not about primary calls are put in between. -/
theorem insert {front back : List Deed} (h : Tallies name (front ++ back) primaries)
    (hquiet : Tallies name ds []) : Tallies name (front ++ (ds ++ back)) primaries where
  recorded := by
    rw [← h.recorded, List.filterMap_append, List.filterMap_append, hquiet.recorded,
      List.filterMap_append]
    rfl
  admitted := by
    rw [← h.admitted, List.countP_append, List.countP_append, hquiet.admitted, List.countP_append,
      List.length_nil, Nat.zero_add]

/-- A breaker lets a call through, and does its part when that call is over. -/
theorem around (breaker : String) (probe : Bool) (poll : Poll) (h : Tallies name ds primaries) :
    Tallies name (.enter breaker (.allowed probe) :: (ds ++ poll.settling breaker probe))
      (primaries ++ if breaker = name then [poll] else []) where
  recorded := by
    rw [List.filterMap_append, ← h.recorded]
    cases poll <;> by_cases heq : breaker = name <;>
      simp [List.filterMap_cons, Poll.settling, Poll.outcome?, Deed.recorded?, heq]
  admitted := by
    rw [List.length_append, ← h.admitted]
    cases poll <;> by_cases heq : breaker = name <;>
      simp [Poll.settling, Deed.admits, heq]

end Tallies

/-! ### Layers that are not breakers -/

theorem quiet_nap {length? : Option Duration} {nap : List Deed} (h : Nap length? nap) :
    Tallies name nap [] := by
  cases h <;> exact ⟨rfl, rfl⟩

theorem quiet_slotTaken {limiter : ComponentId} {front : List Deed}
    (h : SlotTaken limiter front) : Tallies name front [] := by
  cases h <;> exact ⟨rfl, rfl⟩

theorem quiet_tokenTaken {bucket : ComponentId} {front : List Deed}
    (h : TokenTaken bucket front) : Tallies name front [] := by
  cases h <;> exact ⟨rfl, rfl⟩

theorem quiet_releasing (limiter : ComponentId) (poll : Poll) :
    Tallies name (poll.releasing limiter) [] := by
  cases poll <;> exact ⟨rfl, rfl⟩

theorem quiet_storing (cache : ComponentId) (key : String) (ttl : Nat) (now : Instant)
    (poll : Poll) : Tallies name (poll.storing cache key ttl now) [] := by
  rcases poll with c | (failure | value) | text <;> exact ⟨rfl, rfl⟩

/-- A call that is taken apart records nothing, and no breaker lets anything through. -/
theorem quiet_undoing (c : Call) : Tallies name c.undoing [] := by
  induction c with
  | working | awaitingSlot | awaitingToken | pausing => exact ⟨rfl, rfl⟩
  | guarded breaker probe inner ih | withFallback breaker probe fallback arg inner ih
  | holdingSlot limiter inner ih => exact ih.before ⟨rfl, rfl⟩
  | timed _ _ _ inner ih | attempting _ _ _ _ _ inner ih | filling _ _ _ inner ih => exact ih

/-- **A breaker lets its primary calls through, and records how they settled**, one outcome for
each of them that did. -/
theorem tallies (st : Story plan arg ds poll) : Tallies name ds (st.primaries name) := by
  -- The induction is on the story: only the two layers that enter a breaker add a primary call, and
  -- what the other layers do around the story inside them is quiet.
  induction st with
  | working | refused | lineFull | awaitingSlot | bucketClosed | awaitingToken | sentAway | hit =>
    exact ⟨rfl, rfl⟩
  | @returned id arg turn nap hnap =>
    have hbegins : Tallies name [.invoke id arg turn] [] := ⟨rfl, rfl⟩
    have hends : Tallies name [.finish id arg turn.ending] [] := ⟨rfl, rfl⟩
    exact hbegins.after ((quiet_nap hnap).after hends)
  | guarded probe st ih => exact ih.around _ probe _
  | @passedBy _ breaker _ _ _ _ count st ih =>
    have hrefused : Tallies name [.enter breaker (.rejected count)] [] := ⟨rfl, rfl⟩
    exact hrefused.after ih
  | primary probe st h ih => exact ih.around _ probe _
  | @replaced _ breaker _ _ _ failure _ _ probe st st' ih ih' =>
    have hprimary := ih.around breaker probe (.ready (.error failure))
    simpa [Poll.settling, primaries] using hprimary.append ih'
  | limited h st ih =>
    exact (quiet_slotTaken h).after (ih.before (quiet_releasing _ _))
  | rateLimited h st ih => exact (quiet_tokenTaken h).after ih
  | unhindered st h ih => exact ih
  | @timed _ limit _ _ _ _ _ timer st ih =>
    have hsleep : Tallies name [.sleep limit (some timer)] [] := ⟨rfl, rfl⟩
    exact ih.insert hsleep
  | @timeless _ limit label _ _ c st ih =>
    have hlate : Tallies name [.sleep limit none, .timeOut limit label] [] := ⟨rfl, rfl⟩
    exact ih.before (hlate.after (quiet_undoing c))
  | @ranOut _ limit label _ _ _ c timer st ih =>
    have hsleep : Tallies name [.sleep limit (some timer)] [] := ⟨rfl, rfl⟩
    have hlate : Tallies name [.wake timer, .timeOut limit label] [] := ⟨rfl, rfl⟩
    have hends := (ih.insert hsleep).before (hlate.after (quiet_undoing c))
    rwa [List.append_assoc, List.append_assoc] at hends
  | retrying st ih => exact ih
  | lastAttempt st h ih => exact ih
  | @pausing _ _ _ delay _ _ _ timer st h ih =>
    have hsleep : Tallies name [.sleep delay (some timer)] [] := ⟨rfl, rfl⟩
    exact ih.before hsleep
  | again st h hnap st' ih ih' => exact ih.append ((quiet_nap hnap).after ih')
  | @miss _ cache keyOf _ arg _ _ now later st ih =>
    have hread : Tallies name [.readCache cache (keyOf arg) none now] [] := ⟨rfl, rfl⟩
    exact hread.after (ih.before (quiet_storing _ _ _ _ _))

end Story

/-! ### The successes of a run -/

/-- A breaker of an operation is there. -/
theorem Operation.Fits.breaker {w : World} {name : String} {op : Operation} (h : op.Fits w)
    (hname : .breaker name ∈ op.parts) : w.breakers.has name = true := by
  induction op with
  | source id => simp [parts] at hname
  | guarded inner other ih =>
    obtain ⟨hother, hinner⟩ := h
    rcases List.mem_cons.mp hname with heq | hname
    · cases heq
      exact hother
    · exact ih hinner hname
  | withFallback inner other fallback ih ih' =>
    obtain ⟨hother, hinner, hfallback⟩ := h
    rcases List.mem_cons.mp hname with heq | hname
    · cases heq
      exact hother
    · rcases List.mem_append.mp hname with hname | hname
      · exact ih hinner hname
      · exact ih' hfallback hname
  | limited inner limiter ih => exact ih h.2 (by simpa [parts] using hname)
  | rateLimited inner bucket ih => exact ih h.2 (by simpa [parts] using hname)
  | timed inner limit label ih => exact ih h (by simpa [parts] using hname)
  | retrying inner policy ih => exact ih h hname
  | cached inner cache keyOf ttl ih => exact ih h (by simpa [parts] using hname)

/-- A deed counts a success if it records one. -/
theorem Deed.Does.successes {task : TaskId} {w w' : World} {d : Deed} {op : Operation}
    (h : d.Does task w w') (hfits : op.Fits w) (hfor : d.IsFor op.parts) (name : String) :
    w'.successes name =
      w.successes name + (d.recorded? name).toList.countP Except.isOk := by
  cases hc : w.breakers.get? name with
  | some c =>
    obtain ⟨b, hb, hcounts⟩ := h.counts hc
    simp only [World.successes, hc, hb]
    exact hcounts.successCount
  -- Calls are only made with operations whose breakers are there.
  | none =>
    have hnot : d.part? ≠ some (.breaker name) := by
      intro hd
      have hthere := hfits.breaker (hfor _ hd)
      simp [Table.has, hc] at hthere
    simp [World.successes, h.within.breakers hnot, hc, recorded?_eq_none hnot]

/-- What was recorded for one call, also if it was taken apart. -/
theorem Life.recorded_done (name : String) (life : Life) :
    life.done.filterMap (Deed.recorded? name) =
      (life.story.primaries name).filterMap Poll.outcome? := by
  have hundone : (if life.cancelled then life.poll.undoing else []).filterMap
      (Deed.recorded? name) = [] := by
    split
    · cases life.poll with
      | pending c => exact (Story.quiet_undoing c).recorded
      | ready outcome => rfl
      | panicked text => rfl
    · rfl
  rw [done, List.filterMap_append, life.story.tallies.recorded, hundone, List.append_nil]

/-- **The successes of a breaker are those of its primary calls.** -/
theorem Chronicle.successes_eq {w : World} {log : List Deed} {lives : List Life}
    (h : Chronicle World.Beside w log lives) (name : String) :
    w.successes name = ((lives.flatMap fun life => life.story.primaries name).filterMap
      Poll.outcome?).countP Except.isOk := by
  -- The invariant: so many successes are counted as outcomes recorded so far are good.
  have hcounted : w.successes name =
      (log.filterMap (Deed.recorded? name)).countP Except.isOk := by
    refine h.invariant (motive := fun w log =>
      w.successes name = (log.filterMap (Deed.recorded? name)).countP Except.isOk)
      (fun _ _ hbeside => hbeside.grows) (fun _ _ => rfl)
      (fun _ _ _ hbeside hlog => (hbeside.successes name).trans hlog) ?_
    intro task op d w w' log hfits hfor hdoes hlog
    rw [hdoes.successes hfits hfor name, hlog, List.filterMap_append, List.countP_append]
    cases hd : d.recorded? name <;> simp [hd]
  have hlives : (lives.flatMap Life.done).filterMap (Deed.recorded? name) =
      (lives.flatMap fun life => life.story.primaries name).filterMap Poll.outcome? := by
    rw [List.filterMap_flatMap, List.filterMap_flatMap]
    simp only [Life.recorded_done]
  -- The log is what was done for the calls, in some order, and counting does not see the order.
  rw [hcounted, (h.log_perm.filterMap _).countP_eq, hlives]

namespace Breaker

/-- **Every primary call is recorded once, if it settles.** Whatever is around a breaker and inside
it, it lets as many calls through as there are primary calls, and what it records are their
outcomes, one for each that settled; the same holds when the whole call is taken apart in the end.
Recording an outcome adds one success or one failure to what the breaker has counted, and nothing
else that a call does adds anything. So in every run, with resets and whatever else goes on beside
the calls, and in every session, a breaker has counted as many successes as primary calls of it
settled well. -/
theorem recorded_once :
    (∀ (plan : Plan) (arg : Json) (ds : List Deed) (poll : Poll) (st : Story plan arg ds poll)
      (name : String),
      ds.countP (Deed.admits name) = (st.primaries name).length ∧
        ds.filterMap (Deed.recorded? name) = (st.primaries name).filterMap Poll.outcome?) ∧
    (∀ (life : Life) (name : String), life.done.filterMap (Deed.recorded? name) =
      (life.story.primaries name).filterMap Poll.outcome?) ∧
    (∀ (task : TaskId) (d : Deed) (w w' : World) (name : String) (c : Component Config Breaker),
      d.Does task w w' → w.breakers.get? name = some c →
        ∃ b, w'.breakers.get? name = some { c with state := b } ∧
          Counts w.now (d.recorded? name) c.state b) ∧
    (∀ (w : World) (log : List Deed) (lives : List Life) (name : String),
      Chronicle World.Beside w log lives →
      w.successes name = ((lives.flatMap fun life => life.story.primaries name).filterMap
        Poll.outcome?).countP Except.isOk) ∧
    (∀ s : Session, s.Reachable → ∃ log lives, Chronicle World.Beside s.world log lives ∧
      s.Lives lives ∧ ∀ name, s.world.successes name =
        ((lives.flatMap fun life => life.story.primaries name).filterMap
          Poll.outcome?).countP Except.isOk) := by
  refine ⟨fun plan arg ds poll st name => ⟨st.tallies.admitted, st.tallies.recorded⟩,
    fun life name => life.recorded_done name,
    fun task d w w' name c hdoes hc => hdoes.counts hc,
    fun w log lives name h => h.successes_eq name, fun s hs => ?_⟩
  obtain ⟨log, lives, hchronicle, hlives⟩ := hs.told.exists_lives
  exact ⟨log, lives, hchronicle, hlives, fun name => hchronicle.successes_eq name⟩

/-- A session in which a call succeeded at its second attempt inside a breaker, another one failed
there and was given a fallback, and then the breaker was reset. -/
def retried : Session :=
  (((Session.create {} false).performAll ⟨toString, toString⟩
    [.define "op" [⟨none, .fail (.failed "once")⟩, ⟨none, .echo⟩]
        [.retry ⟨⟨2, .ofMillis 0, 1⟩, none⟩, .breaker "b"],
      .define "other" [⟨none, .fail (.failed "always")⟩] [.fallback "b" [⟨none, .echo⟩]],
      .call "op" "first" .null, .call "other" "second" .null]).2.turn 3).turn 4
    |>.perform ⟨toString, toString⟩ (.reset "b") |>.2

theorem retried_reachable : retried.Reachable :=
  have hcalled := (Session.Reachable.create {} false).performAll ⟨toString, toString⟩
    [.define "op" [⟨none, .fail (.failed "once")⟩, ⟨none, .echo⟩]
        [.retry ⟨⟨2, .ofMillis 0, 1⟩, none⟩, .breaker "b"],
      .define "other" [⟨none, .fail (.failed "always")⟩] [.fallback "b" [⟨none, .echo⟩]],
      .call "op" "first" .null, .call "other" "second" .null]
  ((hcalled.happens (.turn 3)).happens (.turn 4)).perform ⟨toString, toString⟩ (.reset "b")

/-- One primary call of the breaker settled well: its first attempt is no failure of its own, the
fallback is no success, and the reset took nothing away. Whoever succeeds next is counted. -/
theorem recorded_once_retried :
    retried.Reachable ∧ retried.tasks.keys = [] ∧
    (∃ log lives, Chronicle World.Beside retried.world log lives ∧ retried.Lives lives ∧
      ((lives.flatMap fun life => life.story.primaries "b").filterMap
        Poll.outcome?).countP Except.isOk = 1) ∧
    ∃ c b, retried.world.breakers.get? "b" = some c ∧ c.state.successCount = 1 ∧
      (retried.world.record "b" false (.ok .null)).breakers.get? "b" =
        some { c with state := b } ∧ b.successCount = 2 := by
  obtain ⟨-, -, hdeed, hchronicles, hsessions⟩ := recorded_once
  have hone : retried.world.successes "b" = 1 := by decide +kernel
  have hthere : retried.world.breakers.has "b" = true := by decide +kernel
  obtain ⟨c, hc⟩ := Option.isSome_iff_exists.mp hthere
  have hsuccesses : c.state.successCount = 1 := by simpa [World.successes, hc] using hone
  obtain ⟨log, lives, hchronicle, hlives, -⟩ := hsessions retried retried_reachable
  have hcounted := hchronicles retried.world log lives "b" hchronicle
  obtain ⟨b, hb, hcounts⟩ :=
    hdeed 0 _ retried.world _ "b" c (.record "b" false (.ok .null)) hc
  refine ⟨retried_reachable, by decide +kernel, ⟨log, lives, hchronicle, hlives, ?_⟩,
    c, b, hc, hsuccesses, hb, ?_⟩
  · rw [← hcounted, hone]
  · rw [hcounts.successCount, hsuccesses]
    rfl

end Breaker

end Resilience
