import Resilience.Proofs.Registry.Requests

/-!
# Turns of the components of the registry

`Turns` says all that a request does: the component behind its key comes to another state and
reports an event perhaps, a component that was mentioned keeps the configuration and the number that
it has, and nothing behind another key is touched.

Two worlds that have the same behind the key of a request agree on it (`Request.agrees`): they
answer the same, and the component takes the same turn in both. So the answer and the turn depend on
the component alone, the time and the number that is given out next.
-/

namespace Resilience

namespace Registry

/-- A configuration, of whichever kind of component. -/
inductive Configuration where
  | breaker (config : Breaker.Config)
  | limiter (config : Limiter.Config)
  | bucket (config : Bucket.Config)
deriving DecidableEq, Repr

/-- The configuration of the component. -/
def Seen.config? : Seen → Option Configuration
  | breaker c? => c?.map fun c => .breaker c.config
  | limiter _ c? => c?.map fun c => .limiter c.config
  | bucket _ c? => c?.map fun c => .bucket c.config

/-- The number of the component, if it is found by one. -/
def Seen.id? : Seen → Option ComponentId
  | breaker _ => none
  | limiter id? _ | bucket id? _ => id?

/-- A number that the registry has leads to a component. -/
theorem exists_config? {w : World} {key : Key} (h : w.Distinct key) {id : ComponentId}
    (hid : (w.seen key).id? = some id) : ∃ config, (w.seen key).config? = some config := by
  obtain ⟨kind, name⟩ := key
  cases kind with
  | breaker => cases hid
  | limiter =>
    have hlisted : w.Listed := h.resolve_left (by simp)
    obtain ⟨-, c, hc, -⟩ := hlisted.limiters name id hid
    have hbehind : w.limiterShelf.behind? name = some c := Shelf.behind?_eq_some hid hc
    exact ⟨.limiter c.config, by rw [World.seen, hbehind]; rfl⟩
  | bucket =>
    have hlisted : w.Listed := h.resolve_left (by simp)
    obtain ⟨-, c, hc, -⟩ := hlisted.buckets name id hid
    have hbehind : w.bucketShelf.behind? name = some c := Shelf.behind?_eq_some hid hc
    exact ⟨.bucket c.config, by rw [World.seen, hbehind]; rfl⟩

/-- The configuration that a request mentions a component with. -/
def Request.mentioned? (settings : Settings) : Request → Option Configuration
  | openBreaker _ config? => some (.breaker (config?.getD settings.breaker))
  | openLimiter _ config? => some (.limiter (config?.getD settings.limiter))
  | openBucket _ config? => some (.bucket (config?.getD settings.bucket))
  | breaker .. | limiter .. | bucket .. => none

/-- The component behind a key takes a turn: it may be mentioned, reports an event perhaps, and is
something else `after`. The components behind other keys are not touched. -/
structure Turns (key : Key) (mention? : Option Configuration) (event? : Option Event)
    (after : Seen) (w w' : World) : Prop where
  settings : w'.settings = w.settings
  recording : w'.recording = w.recording
  serial_le : w.serial ≤ w'.serial
  le_serial : w'.serial ≤ w.serial + 1
  seen : w'.seen key = after
  told : w'.toldOf key = w.toldOf key ++
    (if w.recording then event?.toList else []).filter fun event => event.key? = some key
  config : w.Distinct key → after.config? = (w.seen key).config?.or mention?
  id {id : ComponentId} : (w.seen key).id? = some id → after.id? = some id
  others {other : Key} : other ≠ key → w.Distinct other → w.Alike other w'
  listed : w.Listed → w'.Listed

namespace Turns

variable {key : Key} {mention? : Option Configuration} {event? : Option Event} {after : Seen}
  {w w' : World} {name : String}

/-- Nothing happens; a mention finds the component there. -/
theorem rest (h : w.Distinct key → mention? = none ∨ ∃ config, (w.seen key).config? = some config) :
    Turns key mention? none (w.seen key) w w where
  settings := rfl
  recording := rfl
  serial_le := le_refl _
  le_serial := Nat.le_succ _
  seen := rfl
  told := by simp
  config hdistinct := by
    rcases h hdistinct with rfl | ⟨config, hconfig⟩
    · exact (Option.or_none ..).symm
    · rw [hconfig, Option.some_or]
  id h := h
  others _ _ := .refl ..
  listed h := h

/-- The turn ends with a report. -/
theorem report (h : Turns key mention? none after w w')
    (hne : ∀ other, other ≠ key → w.Distinct other →
      ∀ event ∈ event?, Event.key? event ≠ some other) :
    Turns key mention? event? after w (w'.report event?) := by
  obtain ⟨events, log, hreport⟩ := World.report_eq event? w'
  have htold := h.told
  simp only [Option.toList_none, ite_self, List.filter_nil, List.append_nil] at htold
  exact {
    settings := by rw [hreport]; exact h.settings
    recording := (World.recording_report ..).trans h.recording
    serial_le := (World.serial_report event? w').symm ▸ h.serial_le
    le_serial := (World.serial_report event? w').symm ▸ h.le_serial
    seen := World.seen_report.trans h.seen
    told := by rw [World.toldOf_report, htold, h.recording]
    config := h.config
    id := h.id
    others := fun hother hdistinct => (h.others hother hdistinct).trans
      ⟨by rw [hreport], World.recording_report .., World.seen_report,
        World.toldOf_report_of_ne (hne _ hother hdistinct)⟩
    listed := fun hlisted => by
      rw [hreport]
      exact ⟨(h.listed hlisted).limiters, (h.listed hlisted).buckets⟩ }

/-- Tasks are woken, and a number is given out. -/
theorem idle (h : Turns key mention? event? after w w') (ready : List TaskId) {serial : Nat}
    (hle : w'.serial ≤ serial) (hle' : serial ≤ w.serial + 1) :
    Turns key mention? event? after w { w' with ready := ready, serial := serial } where
  settings := h.settings
  recording := h.recording
  serial_le := h.serial_le.trans hle
  le_serial := hle'
  seen := (World.seen_congr rfl rfl rfl rfl rfl).trans h.seen
  told := h.told
  config := h.config
  id := h.id
  others hother hdistinct := (h.others hother hdistinct).trans
    ⟨rfl, rfl, World.seen_congr rfl rfl rfl rfl rfl, rfl⟩
  listed hlisted := ⟨(h.listed hlisted).limiters.mono hle, (h.listed hlisted).buckets.mono hle⟩

/-- A breaker is put in its place. -/
theorem setBreaker {c : Component Breaker.Config Breaker}
    (hconfig : some (.breaker c.config) = (w.seen ⟨.breaker, name⟩).config?.or mention?) :
    Turns ⟨.breaker, name⟩ mention? none (.breaker (some c)) w
      { w with breakers := w.breakers.set name c } where
  settings := rfl
  recording := rfl
  serial_le := le_refl _
  le_serial := Nat.le_succ _
  seen := by rw [World.seen, Table.get?_set, if_pos rfl]
  told := by simp [World.toldOf]
  config _ := hconfig
  id h := by cases h
  others {other} hother _ := by
    refine ⟨rfl, rfl, ?_, rfl⟩
    obtain ⟨kind, m⟩ := other
    cases kind with
    | breaker =>
      have hne : name ≠ m := fun heq => hother (heq ▸ rfl)
      rw [World.seen, World.seen, Table.get?_set, if_neg hne]
    | limiter | bucket => rfl
  listed hlisted := ⟨hlisted.limiters, hlisted.buckets⟩

/-- A limiter of the registry moves on to another state. -/
theorem setLimiter {id : ComponentId} {c : Component Limiter.Config Limiter}
    (hname : w.limiterNames.get? name = some id) (hc : w.limiters.get? id = some c) (l : Limiter) :
    Turns ⟨.limiter, name⟩ none none (.limiter (some id) (some { c with state := l })) w
      { w with limiters := w.limiters.set id { c with state := l } } where
  settings := rfl
  recording := rfl
  serial_le := le_refl _
  le_serial := Nat.le_succ _
  seen := congrArg₂ Seen.limiter hname (Shelf.behind?_put (s := w.limiterShelf) hname)
  told := by simp [World.toldOf]
  config _ := by
    simp [World.seen, Shelf.behind?_eq_some (s := w.limiterShelf) hname hc, Seen.config?]
  id h := hname ▸ h
  others {other} hother hdistinct := by
    refine ⟨rfl, rfl, ?_, rfl⟩
    obtain ⟨kind, m⟩ := other
    cases kind with
    | breaker | bucket => rfl
    | limiter =>
      have hlisted : w.Listed := hdistinct.resolve_left (by simp)
      have hne : m ≠ name := fun heq => hother (heq ▸ rfl)
      exact congrArg (Seen.limiter _) (Shelf.behind?_put_of_ne hlisted.limiters hname hne)
  listed hlisted := ⟨hlisted.limiters.put hc rfl, hlisted.buckets⟩

/-- A limiter that nobody has mentioned is created. -/
theorem createLimiter (config : Limiter.Config) (hnone : w.limiterNames.get? name = none) :
    Turns ⟨.limiter, name⟩ (some (.limiter config)) none
      (.limiter (some w.serial) (some ⟨name, config, {}⟩)) w (w.openLimiter name config).2 := by
  have hopen : (w.openLimiter name config).2 = { w with
      serial := w.serial + 1, limiters := w.limiters.set w.serial ⟨name, config, {}⟩
      limiterNames := w.limiterNames.set name w.serial } := by
    simp only [World.openLimiter, hnone, World.createLimiter, World.fresh]
  rw [hopen]
  exact {
    settings := rfl
    recording := rfl
    serial_le := Nat.le_succ _
    le_serial := le_refl _
    seen := congrArg₂ Seen.limiter ((Table.get?_set ..).trans (if_pos rfl))
      (Shelf.behind?_add (s := w.limiterShelf))
    told := by simp [World.toldOf]
    config := fun _ => by
      simp [World.seen, Shelf.behind?, World.limiterShelf, hnone, Seen.config?]
    id := fun h => by simp [World.seen, hnone, Seen.id?] at h
    others := fun {other} hother hdistinct => by
      refine ⟨rfl, rfl, ?_, rfl⟩
      obtain ⟨kind, m⟩ := other
      cases kind with
      | breaker | bucket => rfl
      | limiter =>
        have hlisted : w.Listed := hdistinct.resolve_left (by simp)
        have hne : m ≠ name := fun heq => hother (heq ▸ rfl)
        exact congrArg₂ Seen.limiter ((Table.get?_set ..).trans (if_neg hne.symm))
          (Shelf.behind?_add_of_ne hlisted.limiters hne)
    listed := fun hlisted =>
      ⟨hlisted.limiters.add rfl, hlisted.buckets.mono (Nat.le_succ _)⟩ }

/-- A bucket of the registry moves on to another state. -/
theorem setBucket {id : ComponentId} {c : Component Bucket.Config Bucket}
    (hname : w.bucketNames.get? name = some id) (hc : w.buckets.get? id = some c) (b : Bucket) :
    Turns ⟨.bucket, name⟩ none none (.bucket (some id) (some { c with state := b })) w
      { w with buckets := w.buckets.set id { c with state := b } } where
  settings := rfl
  recording := rfl
  serial_le := le_refl _
  le_serial := Nat.le_succ _
  seen := congrArg₂ Seen.bucket hname (Shelf.behind?_put (s := w.bucketShelf) hname)
  told := by simp [World.toldOf]
  config _ := by
    simp [World.seen, Shelf.behind?_eq_some (s := w.bucketShelf) hname hc, Seen.config?]
  id h := hname ▸ h
  others {other} hother hdistinct := by
    refine ⟨rfl, rfl, ?_, rfl⟩
    obtain ⟨kind, m⟩ := other
    cases kind with
    | breaker | limiter => rfl
    | bucket =>
      have hlisted : w.Listed := hdistinct.resolve_left (by simp)
      have hne : m ≠ name := fun heq => hother (heq ▸ rfl)
      exact congrArg (Seen.bucket _) (Shelf.behind?_put_of_ne hlisted.buckets hname hne)
  listed hlisted := ⟨hlisted.limiters, hlisted.buckets.put hc rfl⟩

/-- A bucket that nobody has mentioned is created. -/
theorem createBucket (config : Bucket.Config) (hnone : w.bucketNames.get? name = none) :
    Turns ⟨.bucket, name⟩ (some (.bucket config)) none
      (.bucket (some w.serial) (some ⟨name, config, .full config w.now⟩)) w
      (w.openBucket name config).2.2 := by
  have hopen : (w.openBucket name config).2.2 = { w with
      serial := w.serial + 1
      buckets := w.buckets.set w.serial ⟨name, config, .full config w.now⟩
      bucketNames := w.bucketNames.set name w.serial } := by
    simp only [World.openBucket, hnone, World.createBucket, World.fresh]
  rw [hopen]
  exact {
    settings := rfl
    recording := rfl
    serial_le := Nat.le_succ _
    le_serial := le_refl _
    seen := congrArg₂ Seen.bucket ((Table.get?_set ..).trans (if_pos rfl))
      (Shelf.behind?_add (s := w.bucketShelf))
    told := by simp [World.toldOf]
    config := fun _ => by
      simp [World.seen, Shelf.behind?, World.bucketShelf, hnone, Seen.config?]
    id := fun h => by simp [World.seen, hnone, Seen.id?] at h
    others := fun {other} hother hdistinct => by
      refine ⟨rfl, rfl, ?_, rfl⟩
      obtain ⟨kind, m⟩ := other
      cases kind with
      | breaker | limiter => rfl
      | bucket =>
        have hlisted : w.Listed := hdistinct.resolve_left (by simp)
        have hne : m ≠ name := fun heq => hother (heq ▸ rfl)
        exact congrArg₂ Seen.bucket ((Table.get?_set ..).trans (if_neg hne.symm))
          (Shelf.behind?_add_of_ne hlisted.buckets hne)
    listed := fun hlisted =>
      ⟨hlisted.limiters.mono (Nat.le_succ _), hlisted.buckets.add rfl⟩ }

end Turns

/-! ### Every request is a turn -/

/-- The requests of a key are served in the same way in both worlds: with one answer, one event to
report and one state to come to. -/
structure Agree (r : Request) (w v : World) : Prop where
  answer : (r.serve v).1 = (r.serve w).1
  turns : ∃ event? after, Turns r.about (r.mentioned? w.settings) event? after w (r.serve w).2 ∧
    Turns r.about (r.mentioned? w.settings) event? after v (r.serve v).2

/-- A mention shows what it leads to, so it is enough that it leads to the same. -/
private theorem Agree.of_shown {r : Request} {w v : World}
    (hshown : ∀ u : World, (r.serve u).1 = .shown ((r.serve u).2.seen r.about))
    (h : ∃ event? after, Turns r.about (r.mentioned? w.settings) event? after w (r.serve w).2 ∧
      Turns r.about (r.mentioned? w.settings) event? after v (r.serve v).2) : Agree r w v := by
  obtain ⟨event?, after, hw, hv⟩ := h
  exact ⟨by rw [hshown, hshown, hw.seen, hv.seen], event?, after, hw, hv⟩

private theorem Agree.of_both {r : Request} {w v : World} {answer : Answer} {event? : Option Event}
    {after : Seen} (hw : (r.serve w).1 = answer ∧
      Turns r.about (r.mentioned? w.settings) event? after w (r.serve w).2)
    (hv : (r.serve v).1 = answer ∧
      Turns r.about (r.mentioned? w.settings) event? after v (r.serve v).2) : Agree r w v :=
  ⟨hv.1.trans hw.1.symm, event?, after, hw.2, hv.2⟩

/-- Where nothing happens, nothing is shown but what is there. -/
private theorem Agree.of_rest {r : Request} {w v : World} (answer : Answer)
    (hmention : r.mentioned? w.settings = none) (hseen : v.seen r.about = w.seen r.about)
    (hw : r.serve w = (answer, w)) (hv : r.serve v = (answer, v)) : Agree r w v := by
  refine ⟨by rw [hw, hv], none, w.seen r.about, ?_, ?_⟩
  · rw [hw]
    exact .rest fun _ => .inl hmention
  · rw [hv, ← hseen]
    exact .rest fun _ => .inl hmention

namespace Request

variable {w v : World} {name : String}

theorem openBreaker_agrees (config? : Option Breaker.Config) (hsettings : v.settings = w.settings)
    (hseen : v.seen ⟨.breaker, name⟩ = w.seen ⟨.breaker, name⟩) :
    Agree (.openBreaker name config?) w v := by
  refine .of_shown (fun _ => rfl) ?_
  have hbreaker : v.breakers.get? name = w.breakers.get? name := Seen.breaker.inj hseen
  cases hc : w.breakers.get? name with
  | some c =>
    -- The breaker is there, so nothing happens.
    have hrest {u : World} (hu : u.breakers.get? name = some c) : Turns ⟨.breaker, name⟩
        (mentioned? w.settings (.openBreaker name config?)) none (.breaker (some c)) u
        ((Request.openBreaker name config?).serve u).2 := by
      have hopen : ((Request.openBreaker name config?).serve u).2 = u := by
        simp only [serve, World.openBreaker, Table.has, hu, Option.isSome_some, if_true]
      have hthere : u.seen ⟨.breaker, name⟩ = .breaker (some c) := congrArg Seen.breaker hu
      rw [hopen, ← hthere]
      exact .rest fun _ => .inr ⟨.breaker c.config, by rw [hthere]; rfl⟩
    exact ⟨none, _, hrest hc, hrest (hbreaker.trans hc)⟩
  | none =>
    have hcreate {u : World} (hu : u.breakers.get? name = none)
        (hsame : u.settings = w.settings) : Turns ⟨.breaker, name⟩
        (mentioned? w.settings (.openBreaker name config?)) none
        (.breaker (some ⟨name, config?.getD w.settings.breaker, {}⟩)) u
        ((Request.openBreaker name config?).serve u).2 := by
      have hopen : ((Request.openBreaker name config?).serve u).2 = { u with
          breakers := u.breakers.set name ⟨name, config?.getD w.settings.breaker, {}⟩ } := by
        simp only [serve, World.openBreaker, Table.has, hu, Option.isSome_none, Bool.false_eq_true,
          if_false, hsame]
      rw [hopen]
      exact .setBreaker (by simp [World.seen, hu, Seen.config?, mentioned?])
    exact ⟨none, _, hcreate hc rfl, hcreate (hbreaker.trans hc) hsettings⟩

theorem openLimiter_agrees (config? : Option Limiter.Config) (hsettings : v.settings = w.settings)
    (hserial : v.serial = w.serial) (hseen : v.seen ⟨.limiter, name⟩ = w.seen ⟨.limiter, name⟩) :
    Agree (.openLimiter name config?) w v := by
  refine .of_shown (fun _ => rfl) ?_
  have hname : v.limiterNames.get? name = w.limiterNames.get? name := (Seen.limiter.inj hseen).1
  cases hid : w.limiterNames.get? name with
  | some id =>
    have hrest {u : World} (hu : u.limiterNames.get? name = some id) : Turns ⟨.limiter, name⟩
        (mentioned? w.settings (.openLimiter name config?)) none (u.seen ⟨.limiter, name⟩) u
        ((Request.openLimiter name config?).serve u).2 := by
      have hopen : ((Request.openLimiter name config?).serve u).2 = u := by
        simp only [serve, World.openLimiter, hu]
      rw [hopen]
      exact .rest fun hdistinct => .inr (exists_config? hdistinct hu)
    exact ⟨none, _, hrest hid, hseen ▸ hrest (hname.trans hid)⟩
  | none =>
    refine ⟨none, _, .createLimiter _ hid, ?_⟩
    have hcreate := Turns.createLimiter (config?.getD v.settings.limiter) (hname.trans hid)
    simpa only [serve, about, mentioned?, hserial, hsettings] using hcreate

theorem openBucket_agrees (config? : Option Bucket.Config) (hsettings : v.settings = w.settings)
    (hnow : v.now = w.now) (hserial : v.serial = w.serial)
    (hseen : v.seen ⟨.bucket, name⟩ = w.seen ⟨.bucket, name⟩) :
    Agree (.openBucket name config?) w v := by
  refine .of_shown (fun _ => rfl) ?_
  have hname : v.bucketNames.get? name = w.bucketNames.get? name := (Seen.bucket.inj hseen).1
  cases hid : w.bucketNames.get? name with
  | some id =>
    have hrest {u : World} (hu : u.bucketNames.get? name = some id) : Turns ⟨.bucket, name⟩
        (mentioned? w.settings (.openBucket name config?)) none (u.seen ⟨.bucket, name⟩) u
        ((Request.openBucket name config?).serve u).2 := by
      have hopen : ((Request.openBucket name config?).serve u).2 = u := by
        simp only [serve, World.openBucket, hu]
      rw [hopen]
      exact .rest fun hdistinct => .inr (exists_config? hdistinct hu)
    exact ⟨none, _, hrest hid, hseen ▸ hrest (hname.trans hid)⟩
  | none =>
    refine ⟨none, _, .createBucket _ hid, ?_⟩
    have hcreate := Turns.createBucket (config?.getD v.settings.bucket) (hname.trans hid)
    simpa only [serve, about, mentioned?, hserial, hsettings, hnow] using hcreate

theorem breaker_agrees (use : BreakerUse) (hnow : v.now = w.now)
    (hseen : v.seen ⟨.breaker, name⟩ = w.seen ⟨.breaker, name⟩) :
    Agree (.breaker name use) w v := by
  have hbreaker : v.breakers.get? name = w.breakers.get? name := Seen.breaker.inj hseen
  cases hc : w.breakers.get? name with
  | none =>
    obtain ⟨answer, hserve⟩ := use.serve_of_none name
    exact .of_rest answer rfl hseen (hserve w hc) (hserve v (hbreaker.trans hc))
  | some c =>
    obtain ⟨answer, hserve⟩ := use.serve_of_some name c w.now
    have habout : ∀ event ∈ (use.turn name c w.now).1, event.breaker? = some name :=
      fun _ => (use.turn_change name c w.now).about
    generalize use.turn name c w.now = turn at hserve habout
    have hturns {u : World} (hnow : u.now = w.now) (hu : u.breakers.get? name = some c) :
        ((Request.breaker name use).serve u).1 = answer ∧
          Turns ⟨.breaker, name⟩ none turn.1 (.breaker (some { c with state := turn.2 })) u
            ((Request.breaker name use).serve u).2 := by
      have hused : (Request.breaker name use).serve u = use.serve name u := rfl
      rw [hused, hserve u hnow hu]
      refine ⟨rfl, (Turns.setBreaker (by simp [World.seen, hu, Seen.config?])).report ?_⟩
      intro other hother _ event hevent hkey
      rw [Event.key?_eq_breaker.mpr (habout event hevent)] at hkey
      exact hother (Option.some.inj hkey).symm
    exact .of_both (hturns rfl hc) (hturns hnow (hbreaker.trans hc))

theorem limiter_agrees (use : LimiterUse) (hserial : v.serial = w.serial)
    (hseen : v.seen ⟨.limiter, name⟩ = w.seen ⟨.limiter, name⟩) :
    Agree (.limiter name use) w v := by
  obtain ⟨hname, hbehind⟩ := Seen.limiter.inj hseen
  cases hid : w.limiterNames.get? name with
  | none =>
    refine .of_rest .unknown rfl hseen ?_ ?_
    · simp only [serve, hid]
    · simp only [serve, hname, hid]
  | some id =>
    have hid' := hname.trans hid
    have hlimiter : v.limiters.get? id = w.limiters.get? id := by
      simpa only [Shelf.behind?, World.limiterShelf, hid, hid', Option.bind_some] using hbehind
    cases hc : w.limiters.get? id with
    | none =>
      obtain ⟨answer, hserve⟩ := use.serve_of_none name id
      refine .of_rest answer rfl hseen ?_ ?_
      · simp only [serve, hid]
        exact hserve w hid hc
      · simp only [serve, hid']
        exact hserve v hid' (hlimiter.trans hc)
    | some c =>
      obtain ⟨answer, event?, l, habout, hserve⟩ := use.serve_of_some name id c w.serial
      have hturns {u : World} (hserial : u.serial = w.serial)
          (hid : u.limiterNames.get? name = some id) (hc : u.limiters.get? id = some c) :
          ((Request.limiter name use).serve u).1 = answer ∧ Turns ⟨.limiter, name⟩ none event?
            (.limiter (some id) (some { c with state := l })) u
            ((Request.limiter name use).serve u).2 := by
        obtain ⟨ready, serial, hle, hle', hu⟩ := hserve u hserial hid hc
        have hused : (Request.limiter name use).serve u = use.serve name id u := by
          simp only [serve, hid]
        rw [hused, hu]
        refine ⟨rfl, ((Turns.setLimiter hid hc l).report ?_).idle ready ?_ (hserial ▸ hle')⟩
        · intro other hother hdistinct event hevent hkey
          rw [habout event hevent] at hkey
          obtain rfl := (Option.some.inj hkey).symm
          have hlisted : u.Listed := hdistinct.resolve_left (by simp)
          obtain ⟨-, d, hd, hdname⟩ := hlisted.limiters name id hid
          exact hother (by rw [← hdname, Option.some.inj (hc.symm.trans hd)])
        · rw [World.serial_report]
          exact hserial ▸ hle
      exact .of_both (hturns rfl hid hc) (hturns hserial hid' (hlimiter.trans hc))

theorem bucket_agrees (use : BucketUse) (hnow : v.now = w.now) (hserial : v.serial = w.serial)
    (hseen : v.seen ⟨.bucket, name⟩ = w.seen ⟨.bucket, name⟩) : Agree (.bucket name use) w v := by
  obtain ⟨hname, hbehind⟩ := Seen.bucket.inj hseen
  cases hid : w.bucketNames.get? name with
  | none =>
    refine .of_rest .unknown rfl hseen ?_ ?_
    · simp only [serve, hid]
    · simp only [serve, hname, hid]
  | some id =>
    have hid' := hname.trans hid
    have hbucket : v.buckets.get? id = w.buckets.get? id := by
      simpa only [Shelf.behind?, World.bucketShelf, hid, hid', Option.bind_some] using hbehind
    cases hc : w.buckets.get? id with
    | none =>
      obtain ⟨answer, hserve⟩ := use.serve_of_none name id
      refine .of_rest answer rfl hseen ?_ ?_
      · simp only [serve, hid]
        exact hserve w hid hc
      · simp only [serve, hid']
        exact hserve v hid' (hbucket.trans hc)
    | some c =>
      obtain ⟨answer, b, hserve⟩ := use.serve_of_some name id c w.now w.serial
      have hturns {u : World} (hnow : u.now = w.now) (hserial : u.serial = w.serial)
          (hid : u.bucketNames.get? name = some id) (hc : u.buckets.get? id = some c) :
          ((Request.bucket name use).serve u).1 = answer ∧ Turns ⟨.bucket, name⟩ none none
            (.bucket (some id) (some { c with state := b })) u
            ((Request.bucket name use).serve u).2 := by
        obtain ⟨ready, serial, hle, hle', hu⟩ := hserve u hnow hserial hid hc
        have hused : (Request.bucket name use).serve u = use.serve name id u := by
          simp only [serve, hid]
        rw [hused, hu]
        exact ⟨rfl, (Turns.setBucket hid hc b).idle ready (hserial ▸ hle) (hserial ▸ hle')⟩
      exact .of_both (hturns rfl rfl hid hc) (hturns hnow hserial hid' (hbucket.trans hc))

/-- **Every request is a turn of the component behind its key.** The answer, the event and the
component afterwards depend on that component, the time and the next number alone. -/
theorem agrees (r : Request) (hsettings : v.settings = w.settings) (hnow : v.now = w.now)
    (hserial : v.serial = w.serial) (hseen : v.seen r.about = w.seen r.about) : Agree r w v := by
  cases r with
  | openBreaker name config? => exact openBreaker_agrees config? hsettings hseen
  | openLimiter name config? => exact openLimiter_agrees config? hsettings hserial hseen
  | openBucket name config? => exact openBucket_agrees config? hsettings hnow hserial hseen
  | breaker name use => exact breaker_agrees use hnow hseen
  | limiter name use => exact limiter_agrees use hserial hseen
  | bucket name use => exact bucket_agrees use hnow hserial hseen

end Request

end Registry

end Resilience
