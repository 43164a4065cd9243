import Resilience.Proofs.Session.Upkeep

/-!
# Nobody waits for ever

A refill needs more than the interval since the last one, and background work looks for it once
every period, at whatever phase. So the last refill of an open bucket that somebody holds is never
longer ago than the interval and a period (`Session.Timely.refilled_lately`), whoever made it.

A refill that leaves a waiter in line has served a full bucket of those ahead of it
(`Bucket.Turned.draws`), and nobody comes in ahead of it. So with `k` waiters ahead when it joined
the line it is there for fewer than `k / rate + 1` refills (`Bucket.OnTime`), and that bounds the
time that it waits (`Bucket.no_stalled_waiter`).
-/

namespace Resilience

/-! ### Whoever waits holds the bucket -/

theorem Operation.usesBucket_of_part {op : Operation} {bucket : ComponentId}
    (h : .bucket bucket ∈ op.parts) : op.usesBucket bucket = true := by
  induction op with
  | source => simp [parts] at h
  | guarded inner breaker ih | limited inner limiter ih | timed inner limit name ih
    | cached inner cache keyOf ttl ih =>
    exact ih (by simpa [parts] using h)
  | retrying inner policy ih => exact ih h
  | withFallback inner breaker fallback ih ih' =>
    have hparts : .bucket bucket ∈ inner.parts ∨ .bucket bucket ∈ fallback.parts := by
      simpa [parts] using h
    exact Bool.or_eq_true_iff.mpr (hparts.imp ih ih')
  | rateLimited inner other ih =>
    have hparts : bucket = other ∨ .bucket bucket ∈ inner.parts := by simpa [parts] using h
    exact Bool.or_eq_true_iff.mpr (hparts.imp (fun heq => beq_iff_eq.mpr heq.symm) ih)

/-- A call that has a place in the line of a bucket leaves it when it is taken apart. -/
theorem Call.leaveToken_mem_undoing {c : Call} {bucket : ComponentId} {ticket : Ticket}
    (h : .tokenPlace bucket ticket ∈ c.holds) : .leaveToken bucket ticket ∈ c.undoing := by
  induction c with
  | working | pausing => cases h
  | awaitingSlot => simp [holds] at h
  | awaitingToken =>
    cases Multiset.mem_singleton.mp h
    exact List.mem_singleton_self _
  | guarded _ _ inner ih | withFallback _ _ _ _ inner ih | holdingSlot _ inner ih =>
    rcases Multiset.mem_cons.mp h with heq | hinner
    · cases heq
    · exact List.mem_append_left _ (ih hinner)
  | timed _ _ _ inner ih | attempting _ _ _ _ _ inner ih | filling _ _ _ inner ih => exact ih h

/-- Whoever waits in the line of a bucket has a place there. -/
theorem Scene.Reachable.mem_holds_of_waiting {sc : Scene} (h : sc.Reachable) {bucket : ComponentId}
    {c : Component Bucket.Config Bucket} (hc : sc.world.buckets.get? bucket = some c)
    {ticket : Ticket} (hwaits : ticket ∈ Queue.waiting c.state.queue) :
    .tokenPlace bucket ticket ∈ sc.holds := by
  have hstands : (Hold.tokenPlace bucket ticket).Stands sc.world :=
    ⟨c, hc, List.mem_append_left _ hwaits⟩
  exact hstands.mem_holds h

namespace Session

variable {s s' : Session} {bucket : ComponentId} {ticket : Ticket}

theorem exists_task_of_mem_holds {tasks : Table TaskId Task} {x : Hold}
    (h : x ∈ tasksHold tasks) : ∃ p ∈ tasks, x ∈ p.2.job.holds := by
  induction tasks with
  | nil => cases h
  | cons p rest ih =>
    have hsum : tasksHold (p :: rest) = p.2.job.holds + tasksHold rest := List.sum_cons
    rw [hsum] at h
    rcases Multiset.mem_add.mp h with hfirst | hrest
    · exact ⟨p, List.mem_cons_self, hfirst⟩
    · obtain ⟨q, hq, hmem⟩ := ih hrest
      exact ⟨q, List.mem_cons_of_mem _ hq, hmem⟩

/-- **Whoever waits in the line of a bucket holds it.** -/
theorem Reachable.holdsBucket_of_waiting (h : s.Reachable)
    {c : Component Bucket.Config Bucket} (hc : s.world.buckets.get? bucket = some c)
    (hwaits : ticket ∈ Queue.waiting c.state.queue) : s.holdsBucket bucket = true := by
  obtain ⟨hvalid, hscene⟩ := h.valid_scene
  have hplace : .tokenPlace bucket ticket ∈ s.holds := hscene.mem_holds_of_waiting hc hwaits
  have htask : .tokenPlace bucket ticket ∈ tasksHold s.tasks := by
    refine (Multiset.mem_add.mp hplace).resolve_right fun hpermit => ?_
    obtain ⟨p, -, heq⟩ := List.mem_map.mp (Multiset.mem_coe.mp hpermit)
    cases heq
  obtain ⟨⟨id, job, cancelled⟩, hmem, hholds⟩ := exists_task_of_mem_holds htask
  have huses : job.usesBucket bucket = true := by
    match job with
    | .call name op arg (some call) =>
      obtain ⟨-, log, lives, -, hlives⟩ := h.told
      obtain ⟨life, -, hof⟩ := hlives id name op arg call cancelled
        ((Table.get?_eq_some_iff hvalid.tasks_nodup).mpr hmem)
      have hfor := life.story.isFor_undoing hof.poll _ (Call.leaveToken_mem_undoing hholds)
      exact Operation.usesBucket_of_part (hof.op ▸ hfor _ rfl)
    | .take name other (some t) =>
      cases Multiset.mem_singleton.mp hholds
      exact beq_self_eq_true _
    | .call _ _ _ none | .acquire _ _ none | .take _ _ none | .refill .. | .sweep .. => cases hholds
    | .acquire _ limiter (some t) => cases Multiset.mem_singleton.mp hholds
  simp only [holdsBucket, Bool.or_eq_true, List.any_eq_true]
  exact .inr ⟨_, List.mem_map_of_mem hmem, huses⟩

end Session

namespace Bucket

/-- The time between two looks in milliseconds: half the interval, but a millisecond at least,
rounded up. -/
def Config.period (config : Config) : Nat :=
  (max (config.interval.nanos / 2) 1000000 + 999999) / 1000000

theorem Config.ceilMillis_tick (config : Config) : config.tick.ceilMillis = config.period :=
  Duration.ceilMillis_eq _

/-- How long ago the last refill may be, in nanoseconds: the interval and a period. -/
def Config.patience (config : Config) : Nat :=
  config.interval.nanos + (Duration.ofMillis config.period).nanos

theorem Config.patience_pos (config : Config) : 0 < config.patience := by
  have hperiod : 0 < config.period := by
    rw [Config.period]
    omega
  exact Nat.lt_add_left _ (Nat.mul_pos hperiod (by decide))

end Bucket

/-! ### The last refill -/

theorem Instant.nanos_lt_nanos {a b : Instant} (h : a < b) : a.nanos < b.nanos :=
  Nat.mul_lt_mul_of_pos_right h (by decide)

theorem Scene.Reachable.lastRefill_le {sc : Scene} (h : sc.Reachable) {id : ComponentId}
    {c : Component Bucket.Config Bucket} (hc : sc.world.buckets.get? id = some c) :
    c.state.lastRefill ≤ sc.world.now := by
  induction h generalizing c with
  | empty => cases hc
  | outside _ _ _ ih => exact ih hc
  | act _ hact ih =>
    rcases hact.onBuckets.lastRefill hc with hnow | ⟨c₀, hc₀, -, hlast⟩
    · exact hnow.trans_le hact.now_le
    · exact hlast.trans_le ((ih hc₀).trans hact.now_le)

namespace Session

variable {s s' : Session} {bucket : ComponentId}

/-- **The last refill of an open bucket that somebody holds is not longer ago than the interval and
a period**, and at rest less long ago. -/
theorem Timely.refilled_lately (h : s.Timely) {c : Component Bucket.Config Bucket}
    (hc : s.world.buckets.get? bucket = some c) (hopen : c.state.closed = false)
    (hheld : s.holdsBucket bucket = true) :
    s.world.now.nanos ≤ c.state.lastRefill.nanos + c.config.patience ∧
      (s.Quiescent → s.world.now.nanos < c.state.lastRefill.nanos + c.config.patience) := by
  have htick : (Work.refills bucket).tick? s.world = some c.config.tick :=
    Work.tick?_refills.mpr ⟨c, hc, hopen, rfl⟩
  obtain ⟨since, -, hnow, hrest, hserviced⟩ := h.kept_up htick hheld
  have hlast : since.nanos - c.state.lastRefill.nanos ≤ c.config.interval.nanos := by
    rw [← Instant.nanos_since]
    exact hserviced c hc
  rw [Bucket.Config.ceilMillis_tick] at hnow hrest
  have hnanos : (since + c.config.period).nanos =
      since.nanos + (Duration.ofMillis c.config.period).nanos := Nat.add_mul ..
  refine ⟨?_, fun hquiescent => ?_⟩
  · have hle := Instant.nanos_le_nanos hnow
    rw [Bucket.Config.patience]
    omega
  · have hlt := Instant.nanos_lt_nanos (hrest hquiescent)
    rw [Bucket.Config.patience]
    omega

end Session

/-! ### A place in line -/

/-- Whoever goes away leaves nobody with more callers ahead. -/
theorem Queue.idxOf_filter_le {α : Type} [DecidableEq α] {a : α} {p : α → Bool} (ha : p a = true)
    (l : List α) : (l.filter p).idxOf a ≤ l.idxOf a := by
  induction l with
  | nil => exact le_refl _
  | cons b rest ih =>
    by_cases heq : b = a
    · subst heq
      rw [List.filter_cons_of_pos ha, List.idxOf_cons_self, List.idxOf_cons_self]
    · rw [List.idxOf_cons_ne _ heq]
      cases hb : p b with
      | true =>
        rw [List.filter_cons_of_pos hb, List.idxOf_cons_ne _ heq]
        exact Nat.succ_le_succ ih
      | false =>
        rw [List.filter_cons_of_neg (by simp [hb])]
        exact ih.trans (Nat.le_succ _)

namespace Bucket

variable {config : Config} {now now' : Instant} {ticket serial : Ticket} {b b' : Bucket}
  {id : ComponentId} {H H' : Multiset Hold}

/-- How many callers wait ahead of the one with the ticket. -/
def ahead (ticket : Ticket) (b : Bucket) : Nat := (Queue.waiting b.queue).idxOf ticket

/-- Whoever waits with the ticket afterwards waited before, and nobody has come ahead of it; a
refill in between has served a full bucket of those ahead. -/
def Draws (config : Config) (now : Instant) (ticket : Ticket) (b b' : Bucket) : Prop :=
  ticket ∈ Queue.waiting b'.queue → ticket ∈ Queue.waiting b.queue ∧
    ((b'.lastRefill = b.lastRefill ∧ b'.ahead ticket ≤ b.ahead ticket) ∨
      (b'.lastRefill = now ∧ b'.ahead ticket + max config.rate 1 ≤ b.ahead ticket))

theorem Draws.of_queue (hqueue : b'.queue = b.queue) (hlast : b'.lastRefill = b.lastRefill) :
    Draws config now ticket b b' := by
  intro hwaits
  rw [hqueue] at hwaits
  exact ⟨hwaits, .inl ⟨hlast, by rw [ahead, ahead, hqueue]⟩⟩

theorem refill_draws (config : Config) (now : Instant) (ticket : Ticket)
    (hnodup : (Queue.waiting b.queue).Nodup) :
    Draws config now ticket b (b.refill config now).2 := by
  cases hdue : b.refillDue config now with
  | false =>
    rw [refill_of_not_due hdue]
    exact .of_queue rfl rfl
  | true =>
    intro hwaits
    have hr := refilled_of_due hdue
    generalize b.refill config now = refilled at hr hwaits
    -- Somebody is left in line, so nothing is left of the full bucket.
    have hempty : refilled.2.tokens = 0 := Nat.eq_zero_of_not_pos fun hleft => by
      rw [hr.idle hleft] at hwaits
      cases hwaits
    rw [hr.line] at hnodup
    have hnot : ticket ∉ refilled.1.map (·.ticket) := fun hserved =>
      List.disjoint_of_nodup_append hnodup hserved hwaits
    refine ⟨hr.line ▸ List.mem_append_right _ hwaits, .inr ⟨hr.lastRefill, ?_⟩⟩
    have htokens := hr.tokens
    rw [ahead, ahead, hr.line, List.idxOf_append_of_notMem hnot, List.length_map]
    omega

/-- **Whatever an act is for a bucket, nobody comes ahead of a waiter, and a refill that leaves it
in line serves a full bucket of those ahead.** -/
theorem Turned.draws (h : Turned id config serial now b H now' b' H') (hnew : ticket < serial)
    (hnodup : (Queue.waiting b.queue).Nodup) : Draws config now ticket b b' := by
  cases h with
  | still | pass | refuse => exact .of_queue rfl rfl
  | ask caller =>
    have hrefill := refill_draws config now ticket hnodup
    rcases acquire_cases config now ⟨serial, caller, true⟩ b with
      ⟨-, hask⟩ | ⟨-, -, hask⟩ | ⟨-, -, hask⟩ <;> rw [hask]
    · exact .of_queue rfl rfl
    · exact hrefill
    -- Whoever comes last into line comes behind the waiter.
    · intro hwaits
      rw [Queue.waiting_append, List.mem_append] at hwaits
      have hline : ticket ∈ Queue.waiting (b.refill config now).2.queue :=
        hwaits.resolve_right fun hlast => hnew.ne (List.mem_singleton.mp hlast)
      have hsame : ahead ticket { (b.refill config now).2 with
          queue := (b.refill config now).2.queue ++ [⟨serial, caller, true⟩] } =
          (b.refill config now).2.ahead ticket := by
        rw [ahead, Queue.waiting_append, List.idxOf_append_of_mem hline]
        rfl
      rw [hsame]
      exact hrefill hline
  | pickUp hpick =>
    obtain ⟨-, rfl⟩ := pickUp?_eq_some hpick
    exact .of_queue rfl rfl
  | @leave _ t =>
    unfold giveUp
    split
    · exact .of_queue rfl rfl
    · intro hwaits
      rw [Queue.waiting_giveUp] at hwaits
      obtain ⟨hline, hne⟩ := List.mem_filter.mp hwaits
      refine ⟨hline, .inl ⟨rfl, ?_⟩⟩
      rw [ahead, Queue.waiting_giveUp]
      exact Queue.idxOf_filter_le (p := fun s => decide (s ≠ t)) hne _
  | refill => exact refill_draws config now ticket hnodup
  | shutDown => exact fun hwaits => by cases hwaits

/-! ### A wait -/

/-- Whoever waits with the ticket was in line at the instant, with `k` callers ahead. The last
refill is not long ago, and those that left it in line until then, `m` of them, were never further
apart. -/
def OnTime (config : Config) (ticket : Ticket) (since : Instant) (k : Nat) (now : Instant)
    (b : Bucket) : Prop :=
  ticket ∈ Queue.waiting b.queue → now.nanos ≤ b.lastRefill.nanos + config.patience ∧
    ∃ m, b.lastRefill.nanos ≤ since.nanos + m * config.patience ∧
      b.ahead ticket + m * max config.rate 1 ≤ k

theorem OnTime.draws {since : Instant} {k : Nat} (h : OnTime config ticket since k now b)
    (hdraws : Draws config now ticket b b') : OnTime config ticket since k now b' := by
  intro hwaits
  obtain ⟨hline, ⟨hlast, hahead⟩ | ⟨hlast, hahead⟩⟩ := hdraws hwaits
  · obtain ⟨hrecent, m, hbefore, hserved⟩ := h hline
    rw [hlast]
    exact ⟨hrecent, m, hbefore, (Nat.add_le_add_right hahead _).trans hserved⟩
  · -- One refill more, and a full bucket of callers fewer ahead.
    obtain ⟨hrecent, m, hbefore, hserved⟩ := h hline
    rw [hlast]
    refine ⟨Nat.le_add_right .., m + 1, ?_, ?_⟩
    · rw [Nat.add_mul, Nat.one_mul]
      omega
    · rw [Nat.add_mul, Nat.one_mul]
      omega

/-- A wait that ends in time for each refill is bounded by the number of callers ahead. -/
theorem OnTime.bound {since : Instant} {k : Nat} (h : OnTime config ticket since k now b)
    (hwaits : ticket ∈ Queue.waiting b.queue)
    (hrecent : now.nanos < b.lastRefill.nanos + config.patience) :
    (now.since since).nanos < (k / max config.rate 1 + 1) * config.patience := by
  obtain ⟨-, m, hbefore, hserved⟩ := h hwaits
  have hpos := config.patience_pos
  have hm : m ≤ k / max config.rate 1 :=
    (Nat.le_div_iff_mul_le (Nat.lt_of_lt_of_le one_pos (le_max_right ..))).mpr
      ((Nat.le_add_left ..).trans hserved)
  calc (now.since since).nanos
      = now.nanos - since.nanos := Instant.nanos_since ..
    _ < (m + 1) * config.patience := by
        rw [Nat.add_mul, Nat.one_mul]
        omega
    _ ≤ (k / max config.rate 1 + 1) * config.patience :=
        Nat.mul_le_mul_right _ (Nat.succ_le_succ hm)

/-- A bucket with somebody in line is open. -/
theorem closed_of_waiting {sc : Scene} (h : sc.Reachable) {c : Component Config Bucket}
    (hc : sc.world.buckets.get? id = some c) (hwaits : ticket ∈ Queue.waiting c.state.queue) :
    c.state.closed = false := by
  obtain ⟨w, hw, -⟩ := List.mem_map.mp hwaits
  exact (in_line h hc hw).2.2

end Bucket

theorem Scene.Later.now_le {sc sc' : Scene} (h : sc.Later sc') : sc.world.now ≤ sc'.world.now := by
  induction h with
  | refl => exact le_refl _
  | act _ hact ih => exact ih.trans hact.now_le
  | outside _ _ _ ih => exact ih

/-- Whatever happens at one instant, a waiter stays on time. -/
theorem Bucket.OnTime.later {sc sc' : Scene} (h : sc.Reachable) (hlater : sc.Later sc')
    (hnow : sc'.world.now ≤ sc.world.now) {id : ComponentId} {c : Component Config Bucket}
    (hc : sc.world.buckets.get? id = some c) {ticket : Ticket} (hticket : ticket < sc.world.serial)
    {since : Instant} {k : Nat} (hon : OnTime c.config ticket since k sc.world.now c.state) :
    ∃ b, sc'.world.buckets.get? id = some { c with state := b } ∧
      OnTime c.config ticket since k sc'.world.now b := by
  induction hlater with
  | refl => exact ⟨c.state, hc, hon⟩
  | @act sc₁ sc₂ hfirst hact ih =>
    have hreach := h.later hfirst
    obtain ⟨b, hb, hbefore⟩ := ih (hact.now_le.trans hnow)
    obtain ⟨b', hb', hturned⟩ := Turned.of_act hreach.bucketsNumbered hact.onBuckets hb
    have hdraws := hturned.draws (hticket.trans_le hfirst.serial) (hreach.nodup_waiting_bucket hb)
    have hsame : sc₂.world.now = sc₁.world.now :=
      le_antisymm (hnow.trans hfirst.now_le) hact.now_le
    exact ⟨b', hb', hsame ▸ hbefore.draws hdraws⟩
  | outside events log _ ih => exact ih hnow

namespace Session

variable {s s' : Session} {bucket : ComponentId} {ticket : Ticket}
  {c : Component Bucket.Config Bucket}

/-- What takes time in a session that keeps time is a jump. -/
theorem Timely.now_moment (h : s.Timely) (hmoment : s.Moment s') :
    s'.world.now = s.world.now ∨
      ∃ instant, s'.world.buckets = s.world.buckets ∧ s' = s.jump instant := by
  cases hmoment with
  | perform calendar hp htime => exact .inl (h.reachable.perform_entrusts calendar hp htime).now
  | turn _ => exact .inl (now_turn ..)
  | install | outside => exact .inl rfl
  | jump instant _ _ =>
    obtain ⟨ready, hjump⟩ := s.jump_ready instant
    exact .inr ⟨instant, by rw [hjump]; rfl, rfl⟩

/-- **In a session that keeps time, whoever waits for a token is on time.** -/
theorem Timely.onTime (h : s.Timely) (hc : s.world.buckets.get? bucket = some c)
    (hwaits : ticket ∈ Queue.waiting c.state.queue) (hmoments : Moments s s') :
    ∃ b, s'.world.buckets.get? bucket = some { c with state := b } ∧
      b.OnTime c.config ticket s.world.now (c.state.ahead ticket) s'.world.now := by
  have hscene := h.reachable.valid_scene.2
  -- While somebody waits, the bucket is open and somebody holds it, so its refills are on time.
  have hrecent {s₁ : Session} (h₁ : s₁.Timely) {c₁ : Component Bucket.Config Bucket}
      (hc₁ : s₁.world.buckets.get? bucket = some c₁)
      (hwaits₁ : ticket ∈ Queue.waiting c₁.state.queue) :
      s₁.world.now.nanos ≤ c₁.state.lastRefill.nanos + c₁.config.patience :=
    (h₁.refilled_lately hc₁ (Bucket.closed_of_waiting h₁.reachable.valid_scene.2 hc₁ hwaits₁)
      (h₁.reachable.holdsBucket_of_waiting hc₁ hwaits₁)).1
  have hticket : ticket < s.world.serial :=
    hscene.ticket_lt rfl (hscene.mem_holds_of_waiting hc hwaits)
  -- At the start no refill has passed the waiter over, and each one that does counts one more.
  induction hmoments with
  | refl =>
    have hlast : c.state.lastRefill ≤ s.world.now := hscene.lastRefill_le hc
    refine ⟨c.state, hc, fun _ => ⟨hrecent h hc hwaits, 0, ?_, ?_⟩⟩
    · rw [Nat.zero_mul, Nat.add_zero]
      exact Instant.nanos_le_nanos hlast
    · rw [Nat.zero_mul, Nat.add_zero]
  | @tail s₁ s₂ hfirst hmoment ih =>
    obtain ⟨b, hb, hon⟩ := ih
    have h₁ := h.moments hfirst
    rcases h₁.now_moment hmoment with hnow | ⟨instant, hbuckets, rfl⟩
    · exact Bucket.OnTime.later h₁.reachable.valid_scene.2 (hmoment.later.scene h₁.reachable)
        hnow.le hb (hticket.trans_le ((Moments.later hfirst).scene h.reachable).serial) hon
    · -- The clock goes on, but not so far that the next refill is late.
      have hb' : (s₁.jump instant).world.buckets.get? bucket = some { c with state := b } :=
        hbuckets ▸ hb
      refine ⟨b, hb', fun hline => ?_⟩
      obtain ⟨-, hserved⟩ := hon hline
      have hlate := hrecent (h₁.moment hmoment) hb' hline
      exact ⟨hlate, hserved⟩

end Session

namespace Bucket

theorem ahead_eq {c : Bucket} {before behind : List Ticket} {ticket : Ticket}
    (hline : Queue.waiting c.queue = before ++ ticket :: behind)
    (hnodup : (Queue.waiting c.queue).Nodup) : c.ahead ticket = before.length := by
  have hnot : ticket ∉ before := fun hmem =>
    List.disjoint_of_nodup_append (hline ▸ hnodup) hmem List.mem_cons_self
  rw [ahead, hline, List.idxOf_append_of_notMem hnot, List.idxOf_cons_self, Nat.add_zero]

/-- **Nobody waits for ever.** Every session that comes about by steps keeps time and is at rest
after each step. At rest, the last refill of a bucket that is open and that somebody holds is less
than the interval and a period ago. And whoever waits in line with some callers ahead is in line no
more, at rest, when the interval and a period have gone by once for every full bucket of these
callers and once more: whatever others ask, give up or refill meanwhile. -/
theorem no_stalled_waiter :
    (∀ settings recording, (Session.create settings recording).Timely) ∧
    (∀ (s : Session) (calendar : Diagnostics.Calendar) (command : Command), s.Timely →
      (s.step calendar command).2.2.Timely ∧ (s.step calendar command).2.2.Quiescent) ∧
    (∀ (s : Session) (bucket : ComponentId) (c : Component Config Bucket), s.Timely →
      s.Quiescent → s.world.buckets.get? bucket = some c → c.state.closed = false →
      s.holdsBucket bucket = true → c.state.lastRefill ≤ s.world.now ∧
        (s.world.now.since c.state.lastRefill).nanos <
          c.config.interval.nanos + (Duration.ofMillis c.config.period).nanos) ∧
    ∀ (s s' : Session) (bucket : ComponentId) (c c' : Component Config Bucket) (ticket : Ticket)
      (before behind : List Ticket), s.Timely → s.world.buckets.get? bucket = some c →
      Queue.waiting c.state.queue = before ++ ticket :: behind →
      Session.Moments s s' → s'.Quiescent → s'.world.buckets.get? bucket = some c' →
      ticket ∈ Queue.waiting c'.state.queue →
        (s'.world.now.since s.world.now).nanos < (before.length / max c.config.rate 1 + 1) *
          (c.config.interval.nanos + (Duration.ofMillis c.config.period).nanos) := by
  refine ⟨.create, fun s calendar command hs => ?_, fun s bucket c hs hrest hc hopen hheld => ?_,
    fun s s' bucket c c' ticket before behind hs hc hline hmoments hrest hc' hwaits' => ?_⟩
  · obtain ⟨hmoments, hrest⟩ := hs.step calendar command
    exact ⟨hs.moments hmoments, hrest⟩
  · have hlast : c.state.lastRefill ≤ s.world.now := hs.reachable.valid_scene.2.lastRefill_le hc
    have hrecent := (hs.refilled_lately hc hopen hheld).2 hrest
    have hle := Instant.nanos_le_nanos hlast
    rw [Config.patience] at hrecent
    refine ⟨hlast, ?_⟩
    rw [Instant.nanos_since]
    omega
  · have hwaits : ticket ∈ Queue.waiting c.state.queue :=
      hline ▸ List.mem_append_right _ List.mem_cons_self
    obtain ⟨b, hb, hon⟩ := hs.onTime hc hwaits hmoments
    obtain rfl := Option.some.inj (hc'.symm.trans hb)
    have hs' := hs.moments hmoments
    have hscene' := hs'.reachable.valid_scene.2
    -- At rest the last refill is less than a period late, so the bound is a strict one.
    have hrecent := (hs'.refilled_lately hb (closed_of_waiting hscene' hb hwaits')
      (hs'.reachable.holdsBucket_of_waiting hb hwaits')).2 hrest
    rw [← ahead_eq hline (hs.reachable.valid_scene.2.nodup_waiting_bucket hc)]
    exact hon.bound hwaits' hrecent

/-! ### A token every five milliseconds -/

/-- A bucket of one token, and three callers that ask for one. -/
def crowding : List Command :=
  [.bucket "t" (some ⟨1, .ofMillis 5⟩) .own, .take "t" "a", .take "t" "b", .take "t" "c"]

/-- The session at rest after that. -/
def crowded : Session :=
  ((Session.create {} true).performAll ⟨toString, toString⟩ crowding).2.settle

theorem crowded_timely : crowded.Timely ∧ crowded.Quiescent := by
  have hcreate := Session.Timely.create {} true
  have hask := hcreate.moments (hcreate.performAll ⟨toString, toString⟩ crowding)
  have hsettle := hask.moments (Session.settle_moments _)
  exact ⟨hsettle, hsettle.quiescent hask.reachable.settle_ready⟩

/-- The first caller has taken the token, and the third waits behind the second. Two milliseconds
later it is still in line, and the time that it waits there is bounded. -/
theorem no_stalled_waiter_crowded :
    let later := crowded.jump 2
    (∃ c, crowded.world.buckets.get? 0 = some c ∧ Queue.waiting c.state.queue = [6, 7] ∧
      (crowded.world.now.since c.state.lastRefill).nanos < 8000000) ∧
    (∃ c', later.world.buckets.get? 0 = some c' ∧ 7 ∈ Queue.waiting c'.state.queue) ∧
    later.world.now = 2 ∧ (later.world.now.since crowded.world.now).nanos < 2 * 8000000 := by
  intro later
  obtain ⟨-, -, hlast, hbound⟩ := no_stalled_waiter
  obtain ⟨htimely, hrest⟩ := crowded_timely
  have hshape : (crowded.world.buckets.get? 0).map (fun c =>
      (Queue.waiting c.state.queue, c.state.closed, c.config)) =
        some ([6, 7], false, ⟨1, .ofMillis 5⟩) := by decide +kernel
  obtain ⟨c, hc, heq⟩ := Option.map_eq_some_iff.mp hshape
  obtain ⟨hline, hopen, hconfig⟩ : Queue.waiting c.state.queue = [6, 7] ∧
      c.state.closed = false ∧ c.config = ⟨1, .ofMillis 5⟩ := by simpa using heq
  -- Nobody is due yet, so two milliseconds just pass.
  have hahead : ∀ p ∈ crowded.timers, 2 < p.1.due := by decide +kernel
  have hjump : later = { crowded with world := crowded.world.pass 2 } :=
    Session.jump_of_none_due hahead
  have hmoment : crowded.Moment later := .jump 2 hrest.idle fun p hp => (hahead p hp).le
  have hrest' : later.Quiescent :=
    (htimely.moment hmoment).quiescent (by rw [hjump]; exact hrest.idle)
  have hc' : later.world.buckets.get? 0 = some c := by
    rw [hjump]
    exact hc
  have hwaits : 7 ∈ Queue.waiting c.state.queue := by
    rw [hline]
    decide
  have hwait := hbound crowded later 0 c c 7 [6] [] htimely hc hline (.single hmoment) hrest' hc'
    hwaits
  obtain ⟨-, hrecent⟩ := hlast crowded 0 c htimely hrest hc hopen (by decide +kernel)
  rw [hconfig] at hwait hrecent
  have hnow : later.world.now = 2 := by
    rw [hjump]
    decide +kernel
  exact ⟨⟨c, hc, hline, hrecent⟩, ⟨c, hc', hwaits⟩, hnow, hwait⟩

end Bucket

end Resilience
