import Resilience.Proofs.Bucket.Shutdown
import Resilience.Proofs.Cache.Memo
import Resilience.Proofs.Session.Timely
import Resilience.Proofs.Timeout

/-!
# Background work is kept up

Background work is **kept up** at an instant when nothing was overdue then: no more than the
interval had passed since the last refill, or no entry of the cache had expired before
(`Work.Serviced`). Whatever happens later, nothing makes this untrue of that instant, since refills
and writes are made with the clock as it is then.

In a session that keeps time, whatever is open and held by somebody is looked after: there is a task
for it that is about to begin, or sleeps until a tick after an instant at which the work was kept up
(`Session.Attends`). So at rest that instant is less than a tick ago (`Timely.kept_up`), whatever
phase the ticks have, and however far the clock went at once.
-/

namespace Resilience

theorem Instant.after_le (now : Instant) (d : Duration) : now.after d ≤ now + d.ceilMillis := by
  rw [Instant.after_eq, Duration.ceilMillis_eq]
  have hcut := Nat.min_le_left d.nanos (30 * 365 * 86400 * 1000000000)
  simp only [Instant] at *
  omega

theorem Instant.lt_after (now : Instant) {d : Duration} (hd : 0 < d.nanos) : now < now.after d := by
  have hcut : 0 < min d.nanos (30 * 365 * 86400 * 1000000000) := lt_min hd (by decide)
  rw [Instant.after_eq]
  simp only [Instant] at *
  omega

/-- A sleep that takes some time begins now. -/
theorem World.sleep_of_pos {d : Duration} (hd : 0 < d.nanos) (w : World) :
    w.sleep d = (some ⟨w.now.after d, w.serial⟩, { w with serial := w.serial + 1 }) := by
  simp only [World.sleep, if_neg (Nat.not_le.mpr (w.now.lt_after hd))]

/-! ### Refills and writes are made with the clock as it is -/

namespace Bucket

variable (config : Config) (now : Instant) (b : Bucket)

theorem lastRefill_refill : (b.refill config now).2.lastRefill = now ∨
    (b.refill config now).2.lastRefill = b.lastRefill := by
  unfold refill
  split
  · exact .inl rfl
  · exact .inr rfl

theorem lastRefill_acquire (w : Waiter) : (b.acquire config now w).2.2.lastRefill = now ∨
    (b.acquire config now w).2.2.lastRefill = b.lastRefill := by
  have hrefill := lastRefill_refill config now b
  unfold acquire
  split
  · exact .inr rfl
  · dsimp only
    split <;> exact hrefill

end Bucket

/-- **An act leaves the last refill of a bucket as it was, or refills now.** -/
theorem BucketAct.lastRefill {w w' : World} {H H' : Multiset Hold} (h : BucketAct ⟨w, H⟩ ⟨w', H'⟩)
    {id : ComponentId} {c' : Component Bucket.Config Bucket}
    (hc' : w'.buckets.get? id = some c') : c'.state.lastRefill = w.now ∨
      ∃ c, w.buckets.get? id = some c ∧ c'.config = c.config ∧
        c'.state.lastRefill = c.state.lastRefill := by
  -- A bucket that was there moves on.
  have hmoved {other : ComponentId} {d : Component Bucket.Config Bucket} {b : Bucket}
      (hd : w.buckets.get? other = some d) (hmoves : w.BucketMoves w' other { d with state := b })
      (hlast : b.lastRefill = w.now ∨ b.lastRefill = d.state.lastRefill) :
      c'.state.lastRefill = w.now ∨ ∃ c, w.buckets.get? id = some c ∧ c'.config = c.config ∧
        c'.state.lastRefill = c.state.lastRefill := by
    rw [hmoves.buckets] at hc'
    split at hc'
    · next heq =>
      cases hc'
      exact hlast.imp_right fun hsame => ⟨d, heq ▸ hd, rfl, hsame⟩
    · exact .inr ⟨c', hc', rfl, rfl⟩
  cases h with
  | other _ _ hbuckets _ => exact .inr ⟨c', (hbuckets id).symm.trans hc', rfl, rfl⟩
  | pass | refuse => exact .inr ⟨c', hc', rfl, rfl⟩
  | create name config hmoves _ =>
    rw [hmoves.buckets] at hc'
    split at hc'
    · cases hc'
      exact .inl rfl
    · exact .inr ⟨c', hc', rfl, rfl⟩
  | ask caller hc hmoves => exact hmoved hc hmoves (Bucket.lastRefill_acquire ..)
  | pickUp hc hpick hmoves =>
    obtain ⟨-, rfl⟩ := Bucket.pickUp?_eq_some hpick
    exact hmoved hc hmoves (.inr rfl)
  | leave hc hmoves =>
    refine hmoved hc hmoves (.inr ?_)
    unfold Bucket.giveUp
    split <;> rfl
  | refill hc hmoves => exact hmoved hc hmoves (Bucket.lastRefill_refill ..)
  | shutDown hc hmoves => exact hmoved hc hmoves (.inr rfl)

/-- **An entry of a cache was there before a use, with its end, or has not expired.** -/
theorem Cache.expires_use {now : Instant} {u : Use Json} {c : Cache Json} {key : String}
    {e' : Entry Json} (h : (c.use now u).2.2.store.entries.get? key = some e') :
    now ≤ e'.expires ∨ ∃ e, c.store.entries.get? key = some e ∧ e'.expires = e.expires := by
  have hspared {c' : Cache Json} (hhandled : Handled now c c')
      (h : c'.store.entries.get? key = some e') :
      now ≤ e'.expires ∨ ∃ e, c.store.entries.get? key = some e ∧ e'.expires = e.expires := by
    obtain ⟨e, he, -, hexpires⟩ := hhandled.spares key e' h
    exact .inr ⟨e, he, hexpires⟩
  cases u with
  | ask request =>
    cases request with
    | set written value ttl =>
      rw [use, Cache.store_set] at h
      obtain ⟨-, rfl⟩ | ⟨e, he, -, hexpires⟩ := Store.get?_set h
      · exact .inl (Nat.le_add_right ..)
      · exact .inr ⟨e, he, hexpires⟩
    | get read => exact hspared (.get read) h
    | has read => exact hspared (.has read) h
    | delete gone => exact hspared (.delete gone) h
    | clear => exact hspared .clear h
    | sweep => exact hspared .sweep h
  | tick => exact hspared .sweep h
  | shutDown => exact hspared .shutDown h
  | look => exact hspared .look h

theorem Act.now_le {w w' : World} {H H' : Multiset Hold} (h : Act ⟨w, H⟩ ⟨w', H'⟩) :
    w.now ≤ w'.now := by
  cases h.onBuckets with
  | other hnow => exact hnow.ge
  | pass instant => exact Nat.le_max_left ..
  | refuse => exact le_refl _
  | create _ _ hmoves | ask _ _ hmoves | pickUp _ _ hmoves | leave _ hmoves | refill _ hmoves
    | shutDown _ hmoves => exact hmoves.now.ge

/-! ### What is kept up -/

namespace Work

variable {work : Work} {w w' : World} {since : Instant} {d : Duration}

/-- Nothing was overdue at the instant: no more than the interval had passed since the last refill,
no entry had expired before. -/
def Serviced (since : Instant) (w : World) : Work → Prop
  | refills bucket => ∀ c, w.buckets.get? bucket = some c →
      (since.since c.state.lastRefill).nanos ≤ c.config.interval.nanos
  | sweeps cache => ∀ key e, w.cached? cache key = some e → since ≤ e.expires

/-- What is not there yet is kept up. -/
theorem serviced_of_not_there (h : work.there w = false) : work.Serviced since w := by
  cases work with
  | refills bucket =>
    intro c hc
    rw [there, Table.has, hc] at h
    cases h
  | sweeps cache =>
    intro key e he
    obtain ⟨c, hc, -⟩ := World.cached?_eq_some.mp he
    rw [there, Table.has, hc] at h
    cases h

namespace Serviced

theorem of_eq (h : work.Serviced since w) (hb : w'.buckets = w.buckets)
    (hc : w'.caches = w.caches) : work.Serviced since w' := by
  cases work with
  | refills bucket => exact fun c hget => h c (hb ▸ hget)
  | sweeps cache =>
    intro key e he
    rw [World.cached?, hc] at he
    exact h key e he

/-- What was kept up at an instant was kept up then, whatever is done later. -/
theorem act {H H' : Multiset Hold} (h : work.Serviced since w) (hsince : since ≤ w.now)
    (hact : Act ⟨w, H⟩ ⟨w', H'⟩) : work.Serviced since w' := by
  cases work with
  | refills bucket =>
    intro c' hc'
    rcases hact.onBuckets.lastRefill hc' with hnow | ⟨c, hc, hconfig, hlast⟩
    · rw [hnow, Instant.since, Nat.sub_eq_zero_of_le hsince, Duration.ofMillis, Nat.zero_mul]
      exact Nat.zero_le _
    · rw [hconfig, hlast]
      exact h c hc
  | sweeps cache =>
    intro key e' he'
    obtain ⟨c', hc', hkey⟩ := World.cached?_eq_some.mp he'
    -- An act may only drop entries of the cache or write new ones, and these are not yet due.
    cases hact.onCaches with
    | other hcaches => exact h key e' (World.cached?_eq_some.mpr ⟨c', hcaches ▸ hc', hkey⟩)
    | create config sweeping hcaches =>
      rw [hcaches, Table.get?_set] at hc'
      split at hc'
      · cases hc'
        cases hkey
      · exact h key e' (World.cached?_eq_some.mpr ⟨c', hc', hkey⟩)
    | @use other c u hc hcaches =>
      rw [hcaches, Table.get?_set] at hc'
      split at hc'
      · next heq =>
        cases hc'
        rcases Cache.expires_use hkey with hlive | ⟨e, he, hexpires⟩
        · exact hsince.trans hlive
        · exact hexpires ▸ h key e (World.cached?_eq_some.mpr ⟨c, heq ▸ hc, he⟩)
      · exact h key e' (World.cached?_eq_some.mpr ⟨c', hc', hkey⟩)

theorem later {sc sc' : Scene} (h : work.Serviced since sc.world) (hsince : since ≤ sc.world.now)
    (hlater : sc.Later sc') : work.Serviced since sc'.world := by
  suffices since ≤ sc'.world.now ∧ work.Serviced since sc'.world from this.2
  induction hlater with
  | refl => exact ⟨hsince, h⟩
  | act _ hact ih => exact ⟨ih.1.trans hact.now_le, ih.2.act ih.1 hact⟩
  | outside events log _ ih => exact ⟨ih.1, ih.2.of_eq rfl rfl⟩

end Serviced

/-! ### What is to be done later was to be done before -/

theorem tick?_refills {bucket : ComponentId} : (refills bucket).tick? w = some d ↔
    ∃ c, w.buckets.get? bucket = some c ∧ c.state.closed = false ∧ c.config.tick = d := by
  simp only [tick?, Option.bind_eq_some_iff]
  refine exists_congr fun c => and_congr_right fun _ => ?_
  cases c.state.closed <;> simp

theorem tick?_sweeps {cache : ComponentId} : (sweeps cache).tick? w = some d ↔
    ∃ c, w.caches.get? cache = some c ∧ c.sweeping = true ∧ c.config.tick = d := by
  simp only [tick?, Option.bind_eq_some_iff]
  refine exists_congr fun c => and_congr_right fun _ => ?_
  cases c.sweeping <;> simp

/-- A tick takes a millisecond at least. -/
theorem tick?_pos (h : work.tick? w = some d) : 0 < d.nanos := by
  cases work with
  | refills bucket =>
    obtain ⟨c, -, -, rfl⟩ := tick?_refills.mp h
    exact lt_max_of_lt_right (by decide)
  | sweeps cache =>
    obtain ⟨c, -, -, rfl⟩ := tick?_sweeps.mp h
    exact lt_max_of_lt_right (by decide)

/-- The work is done once. -/
def carryOut (w : World) : Work → World
  | refills bucket => (w.refillBucket bucket).2
  | sweeps cache => w.sweepCache cache

theorem now_carryOut (work : Work) (w : World) : (work.carryOut w).now = w.now := by
  cases work with
  | refills bucket =>
    obtain ⟨_, _, -, heq⟩ := w.refillBucket_eq bucket
    rw [carryOut, heq]
  | sweeps cache =>
    obtain ⟨_, _, _, -, heq⟩ := w.sweepCache_eq cache
    rw [carryOut, heq]

/-- **When the work was done, it is kept up.** -/
theorem serviced_carryOut (h : work.tick? w = some d) : work.Serviced w.now (work.carryOut w) := by
  cases work with
  | refills bucket =>
    obtain ⟨c, hc, hopen, -⟩ := tick?_refills.mp h
    intro c' hc'
    rw [carryOut, World.refillBucket_of_some hc, World.buckets_wakeAll, Table.get?_set,
      if_pos rfl] at hc'
    cases hc'
    unfold Bucket.refill
    split
    · simp [Bucket.fill, Instant.since, Duration.ofMillis]
    · next hnot =>
      refine Nat.le_of_not_lt fun hlt => hnot ?_
      simp [Bucket.refillDue, hopen, hlt]
  | sweeps cache =>
    obtain ⟨c, hc, -, -⟩ := tick?_sweeps.mp h
    intro key e he
    obtain ⟨c', hc', hkey⟩ := World.cached?_eq_some.mp he
    simp only [carryOut, World.sweepCache, hc, World.caches_report, Table.get?_set, if_true] at hc'
    cases hc'
    exact (Cache.Store.lt_expires_of_sweep hkey).le

end Work

/-- A cache keeps its configuration, and is not swept any more once it was shut down. -/
theorem Cache.later {sc sc' : Scene} (h : sc.Reachable) (hlater : sc.Later sc') {id : ComponentId}
    {c : Cache Json} (hc : sc.world.caches.get? id = some c) :
    ∃ c', sc'.world.caches.get? id = some c' ∧ c'.config = c.config ∧
      (c'.sweeping = true → c.sweeping = true) := by
  induction hlater with
  | refl => exact ⟨c, hc, rfl, fun h => h⟩
  | @act sc₁ _ hfirst hact ih =>
    obtain ⟨c₁, hc₁, hconfig, hsweeping⟩ := ih
    cases hact.onCaches with
    | other hcaches => exact ⟨c₁, hcaches ▸ hc₁, hconfig, hsweeping⟩
    | create config sweeping hcaches =>
      have hne : sc₁.world.serial ≠ id := ((h.later hfirst).cache_lt hc₁).ne'
      exact ⟨c₁, by rw [hcaches, Table.get?_set, if_neg hne, hc₁], hconfig, hsweeping⟩
    | @use other c₂ u hc₂ hcaches =>
      by_cases heq : other = id
      · subst heq
        cases hc₁.symm.trans hc₂
        refine ⟨_, by rw [hcaches, Table.get?_set, if_pos rfl], ?_, fun hafter => hsweeping ?_⟩
        · rw [Cache.use_eq]
          exact hconfig
        · rw [Cache.use_eq] at hafter
          exact (Bool.and_eq_true_iff.mp hafter).1
      · exact ⟨c₁, by rw [hcaches, Table.get?_set, if_neg heq, hc₁], hconfig, hsweeping⟩
  | outside events log _ ih => exact ih

/-- **Whatever is looked after later was looked after as often before**, if it was there. -/
theorem Work.tick?_of_later {work : Work} {sc sc' : Scene} {d : Duration} (h : sc.Reachable)
    (hlater : sc.Later sc') (hthere : work.there sc.world = true)
    (htick : work.tick? sc'.world = some d) : work.tick? sc.world = some d := by
  cases work with
  | refills bucket =>
    obtain ⟨c', hc', hopen', rfl⟩ := tick?_refills.mp htick
    obtain ⟨c, hc⟩ := Option.isSome_iff_exists.mp hthere
    have hopen : c.state.closed = false := Bool.eq_false_iff.mpr fun hclosed => by
      obtain ⟨b, hb, hstays⟩ := Bucket.stays_closed h hlater hc hclosed
      cases hb.symm.trans hc'
      rw [hstays.closed] at hopen'
      cases hopen'
    obtain ⟨created, moves, hshows⟩ := Bucket.Register.exists_register h hc
    obtain ⟨b, hb, -⟩ := hshows.later h hlater hc
    cases hb.symm.trans hc'
    exact tick?_refills.mpr ⟨c, hc, hopen, rfl⟩
  | sweeps cache =>
    obtain ⟨c', hc', hsweeping', rfl⟩ := tick?_sweeps.mp htick
    obtain ⟨c, hc⟩ := Option.isSome_iff_exists.mp hthere
    obtain ⟨d, hd, hconfig, hsweeping⟩ := Cache.later h hlater hc
    cases hd.symm.trans hc'
    exact tick?_sweeps.mpr ⟨c, hc, hsweeping hsweeping', by rw [hconfig]⟩

/-! ### Whatever is held is looked after -/

namespace Session

variable {s s' : Session} {work : Work} {d : Duration} {id : TaskId}

/-- The task looks after the work: it is about to begin, and the work is kept up now, or it sleeps
until a tick after an instant at which the work was kept up. -/
inductive Attends (task : TaskId) (work : Work) (d : Duration) (s : Session) : Prop
  | begins (htask : s.tasks.get? task = some ⟨work.job none, false⟩) (hready : task ∈ s.world.ready)
      (hserviced : work.Serviced s.world.now s.world) : Attends task work d s
  | sleeps {timer : Timer} {since : Instant}
      (htask : s.tasks.get? task = some ⟨work.job (some timer), false⟩)
      (hdue : timer.due ≤ since + d.ceilMillis) (hsince : since ≤ s.world.now)
      (hserviced : work.Serviced since s.world) : Attends task work d s

/-- Whatever is to be done and held by somebody is looked after. -/
def Tended (s : Session) : Prop := ∀ (work : Work) d, work.tick? s.world = some d →
  work.heldBy s = true → ∃ task, Attends task work d s

/-- Something else happens, and the task stays as it is. -/
theorem Attends.later (h : Attends id work d s) (hlater : s.scene.Later s'.scene)
    (hnow : s.world.now ≤ s'.world.now)
    (hstays : ∀ t, s.tasks.get? id = some t → t.job.background = true →
      s'.tasks.get? id = some t)
    (hready : id ∈ s.world.ready → id ∈ s'.world.ready ∧ s'.world.now = s.world.now) :
    Attends id work d s' := by
  cases h with
  | begins htask hmem hserviced =>
    obtain ⟨hmem', heq⟩ := hready hmem
    exact .begins (hstays _ htask (by cases work <;> rfl)) hmem'
      (heq ▸ hserviced.later (le_refl _) hlater)
  | sleeps htask hdue hsince hserviced =>
    exact .sleeps (hstays _ htask (by cases work <;> rfl)) hdue (hsince.trans hnow)
      (hserviced.later hsince hlater)

/-- Background work goes to sleep until its next turn. -/
theorem attends_sleepTick {w : World} (hd : 0 < d.nanos) (hserviced : work.Serviced w.now w)
    (id : TaskId) (s : Session) :
    Attends id work d ({ s with world := w }.sleepTick id d work.job) := by
  simp only [sleepTick, World.sleep_of_pos hd]
  exact .sleeps (by rw [continueTask, Table.get?_set, if_pos rfl]) (Instant.after_le w.now d)
    (le_refl _) (hserviced.of_eq rfl rfl)

/-- **A turn of background work**, whichever it is: as long as somebody holds the component, it
sleeps from tick to tick, and does the work when a sleep is over. -/
theorem turn_background {timer? : Option Timer}
    (htask : s.tasks.get? id = some ⟨work.job timer?, false⟩)
    (htick : work.tick? s.world = some d) :
    s.turn id =
      let ended := { s with tasks := s.tasks.erase id }
      match timer? with
      | none => ended.sleepTick id d work.job
      | some timer =>
        if ¬ work.heldBy ended then ended
        else if s.world.elapsed timer then
          { ended with world := work.carryOut s.world }.sleepTick id d work.job
        else ended.continueTask id (work.job timer?) s.world := by
  cases work with
  | refills bucket =>
    obtain ⟨c, hc, hopen, rfl⟩ := Work.tick?_refills.mp htick
    have hturn : s.turn id =
        ({ s with tasks := s.tasks.erase id } : Session).turnRefill id bucket timer? := by
      simp only [Session.turn, htask]
      rfl
    cases timer? with
    | none =>
      rw [hturn]
      simp only [turnRefill, hc]
      rfl
    | some timer =>
      rw [hturn]
      simp only [turnRefill, hc, hopen, Bool.false_eq_true, false_or]
      rfl
  | sweeps cache =>
    obtain ⟨c, hc, hsweeping, rfl⟩ := Work.tick?_sweeps.mp htick
    have hturn : s.turn id =
        ({ s with tasks := s.tasks.erase id } : Session).turnSweep id cache timer? := by
      simp only [Session.turn, htask]
      rfl
    cases timer? with
    | none =>
      rw [hturn]
      simp only [turnSweep, hc]
      rfl
    | some timer =>
      rw [hturn]
      simp only [turnSweep, hc, hsweeping, not_true_eq_false, false_or]
      rfl

/-- The work has the next turn, and its component is held afterwards: it begins to sleep, sleeps on,
or does what is due and sleeps again. -/
theorem Attends.turn (h : Attends id work d s) (rest : List TaskId)
    (htick : work.tick? s.world = some d)
    (hheld : work.heldBy (Session.turn id (s.withReady rest)) = true) :
    Attends id work d (Session.turn id (s.withReady rest)) := by
  have hd := Work.tick?_pos htick
  have hturn {timer? : Option Timer} (htask : s.tasks.get? id = some ⟨work.job timer?, false⟩) :=
    turn_background (s := s.withReady rest) htask htick
  -- A task that has just begun goes to sleep for one tick. One that wakes does its work first, if
  -- somebody still holds the component, and sleeps on if it was woken too early.
  cases h with
  | begins htask hready hserviced =>
    rw [hturn htask]
    exact attends_sleepTick (w := (s.withReady rest).world) hd (hserviced.of_eq rfl rfl) id
      { s with tasks := s.tasks.erase id }
  | sleeps htask hdue hsince hserviced =>
    rw [hturn htask] at hheld ⊢
    dsimp only at hheld ⊢
    split at hheld
    · next hnobody => exact absurd hheld hnobody
    · next hsomebody =>
      rw [if_neg hsomebody]
      split
      · refine attends_sleepTick hd ?_ id { s with tasks := s.tasks.erase id }
        rw [Work.now_carryOut]
        exact Work.serviced_carryOut htick
      · exact .sleeps (by rw [continueTask, Table.get?_set, if_pos rfl]) hdue hsince
          (hserviced.of_eq rfl rfl)

/-! ### Every moment leaves everything looked after -/

namespace Tended

theorem perform (h : s.Tended) (hs : s.Timely) (calendar : Diagnostics.Calendar)
    {command : Command} (hp : command.Plain) (htime : ∀ ms, command ≠ .advance ms) :
    (s.perform calendar command).2.Tended := by
  intro work d htick hheld
  have hlater := (s.perform_later calendar command).scene hs.reachable
  have hentrusts := hs.reachable.perform_entrusts calendar hp htime
  cases hthere : work.there s.world with
  | true =>
    have hbefore := work.tick?_of_later hs.reachable.valid_scene.2 hlater hthere htick
    obtain ⟨task, hattends⟩ := h work d hbefore (hentrusts.held hthere hheld)
    exact ⟨task, hattends.later hlater hentrusts.now.ge (fun t => hentrusts.goesOn hs.anonymous)
      fun hmem => ⟨hentrusts.ready.subset hmem, hentrusts.now⟩⟩
  | false =>
    -- The component is new, so it comes with its task.
    obtain ⟨task, hready, htask⟩ := hentrusts.begun hthere htick
    have hserviced : work.Serviced s.world.now s.world := Work.serviced_of_not_there hthere
    exact ⟨task, .begins htask hready (hentrusts.now ▸ hserviced.later (le_refl _) hlater)⟩

theorem turn {rest : List TaskId} (h : s.Tended) (hs : s.Timely)
    (hready : s.world.ready = id :: rest) : (Session.turn id (s.withReady rest)).Tended := by
  intro work d htick hheld
  have hlater := (Moment.turn hready).later.scene hs.reachable
  have hturned := turn_turned (s.withReady rest) id
  have hnow := now_turn id (s.withReady rest)
  -- A turn makes nobody a holder, and creates nothing.
  obtain ⟨hbefore, hwas⟩ : work.heldBy s = true ∧ work.there s.world = true := by
    have hthere := Work.there_of_tick? htick
    have hpopped : work.heldBy (s.withReady rest) = true → work.heldBy s = true :=
      Work.heldBy_of_world (w := (s.withReady rest).world) rfl
    cases ht : s.tasks.get? id with
    | none =>
      have hgone : id ∉ (s.withReady rest).tasks.keys := (Table.get?_eq_none_iff ..).mp ht
      rw [turn_of_not_mem hgone] at hheld hthere
      exact ⟨hpopped hheld, hthere⟩
    | some t =>
      have hspends := turn_spends (s.withReady rest) id (t := t) ht
      exact ⟨hpopped (hspends.heldBy ht hheld), Work.there_of_stable hspends.stable ▸ hthere⟩
  have hdue := work.tick?_of_later hs.reachable.valid_scene.2 hlater hwas htick
  obtain ⟨task, hattends⟩ := h work d hdue hbefore
  by_cases heq : task = id
  · exact ⟨id, (heq ▸ hattends).turn rest hdue hheld⟩
  · refine ⟨task, hattends.later hlater hnow.ge (fun t ht _ => (hturned.others heq).trans ht)
      fun hmem => ?_⟩
    have hrest : task ∈ rest := (List.mem_cons.mp (hready ▸ hmem)).resolve_left heq
    exact ⟨hturned.serves.ready.subset hrest, hnow⟩

theorem jump {instant : Instant} (h : s.Tended) (hs : s.Timely) (hidle : s.world.ready = [])
    (hnext : ∀ p ∈ s.timers, instant ≤ p.1.due) : (s.jump instant).Tended := by
  intro work d htick hheld
  have hlater := (Moment.jump instant hidle hnext).later.scene hs.reachable
  obtain ⟨ready, hjump⟩ := s.jump_ready instant
  rw [hjump] at htick hheld hlater ⊢
  have htick : work.tick? s.world = some d := by cases work <;> exact htick
  obtain ⟨task, hattends⟩ := h work d htick (Work.heldBy_of_world rfl hheld)
  refine ⟨task, hattends.later hlater (Nat.le_max_left ..) (fun t ht _ => ht) fun hmem => ?_⟩
  rw [hidle] at hmem
  cases hmem

theorem install {name : String} {op : Operation} (h : s.Tended)
    (hheld : ∀ work : Work, op.needs work = true → work.heldBy s = true) :
    { s with operations := s.operations.set name op }.Tended := by
  intro work d htick hafter
  refine (h work d htick ?_).imp fun task hattends => hattends.later .refl (le_refl _)
    (fun t ht _ => ht) fun hmem => ⟨hmem, rfl⟩
  rcases Work.heldBy_iff.mp hafter with hname | ⟨other, hop, hneeds⟩ | htask
  · exact Work.heldBy_iff.mpr (.inl (by cases work <;> exact hname))
  · rcases Table.mem_values_set hop with rfl | hold
    · exact hheld work hneeds
    · exact Work.heldBy_iff.mpr (.inr (.inl ⟨other, hold, hneeds⟩))
  · exact Work.heldBy_iff.mpr (.inr (.inr htask))

end Tended

namespace Timely

/-- **In a session that keeps time, whatever is open and held by somebody is looked after.** -/
theorem tended (h : s.Timely) : s.Tended := by
  refine h.induct (fun _ _ work d htick => ?_) fun s s' hs ih hmoment => ?_
  · have hthere := Work.there_of_tick? htick
    cases work <;> cases hthere
  · cases hmoment with
    | perform calendar hp htime => exact ih.perform hs calendar hp htime
    | install name _ hheld => exact ih.install hheld
    | turn hready => exact ih.turn hs hready
    | jump instant hidle hnext => exact ih.jump hs hidle hnext
    | outside events log =>
      intro work d htick hheld
      have htick : work.tick? s.world = some d := by cases work <;> exact htick
      refine (ih work d htick (Work.heldBy_of_world rfl hheld)).imp fun task hattends => ?_
      exact hattends.later (.outside events log .refl) (le_refl _) (fun t ht _ => ht)
        fun hmem => ⟨hmem, rfl⟩

/-- **Background work was kept up a tick ago or later**, and at rest less than a tick ago. -/
theorem kept_up (h : s.Timely) (htick : work.tick? s.world = some d)
    (hheld : work.heldBy s = true) : ∃ since ≤ s.world.now,
      s.world.now ≤ since + d.ceilMillis ∧ (s.Quiescent → s.world.now < since + d.ceilMillis) ∧
        work.Serviced since s.world := by
  obtain ⟨task, hattends⟩ := h.tended work d htick hheld
  cases hattends with
  | begins _ hready hserviced =>
    refine ⟨s.world.now, le_refl _, Nat.le_add_right .., fun hrest => ?_, hserviced⟩
    rw [hrest.idle] at hready
    cases hready
  | @sleeps timer since htask hdue hsince hserviced =>
    have hsleeps : timer ∈ (work.job (some timer)).timers := by
      cases work <;> exact List.mem_singleton_self _
    refine ⟨since, hsince, ?_, fun hrest => ?_, hserviced⟩
    · rcases h.prompt task _ htask timer hsleeps with hlt | ⟨heq, -⟩
      · exact hlt.le.trans hdue
      · exact heq.le.trans hdue
    · have hmem : (timer, task) ∈ s.timers :=
        (mem_timers h.reachable.valid_scene.1).mpr ⟨_, htask, hsleeps⟩
      exact (hrest.ahead _ hmem).trans_le hdue

end Timely

end Session

end Resilience
