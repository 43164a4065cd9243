import Resilience.Proofs.Session.Upkeep

/-!
# Expired entries do not pile up

A cache that is swept by background work and that somebody holds was swept less than a tick ago
whenever the session is at rest. So no entry is still there that expired a tick ago or earlier
(`Cache.swept_in_time`): whatever lifetimes the entries were written with, at whatever phase of the
sweeps, and however far the clock went at once.

After a cache was shut down, by whichever of its names, no task sweeps it any more. A sweep that was
still to come finds the cache shut down and ends.
-/

namespace Resilience

namespace Session

variable {s : Session} {id : TaskId} {cache : ComponentId}

theorem sleepTick_leaves (id : TaskId) (tick : Duration) (job : Option Timer → Job) (s : Session) :
    (s.sleepTick id tick job).world.caches = s.world.caches ∧
      (s.sleepTick id tick job).world.events = s.world.events ∧
      (s.sleepTick id tick job).world.log = s.world.log := by
  simp only [sleepTick, continueTask, World.sleep]
  split <;> exact ⟨rfl, rfl, rfl⟩

/-- A turn of sweeps leaves the other caches alone. -/
theorem turn_sweep_of_ne {t : Task} {other : ComponentId} {timer? : Option Timer}
    (ht : s.tasks.get? id = some t) (hjob : t.job = .sweep other timer?) (hne : other ≠ cache) :
    (s.turn id).world.caches.get? cache = s.world.caches.get? cache := by
  obtain ⟨job, cancelled⟩ := t
  obtain rfl : job = .sweep other timer? := hjob
  simp only [turn, ht]
  split
  · rfl
  · unfold turnSweep
    split
    · rfl
    · rw [(sleepTick_leaves ..).1]
    · split
      · rfl
      · split
        · next c _ hc _ _ =>
          rw [(sleepTick_leaves ..).1]
          dsimp only at hc
          simp only [World.sweepCache, hc, World.caches_report, Table.get?_set, if_neg hne]
        · rfl

/-- A turn of sweeps does nothing to a cache that was shut down, and tells nothing. -/
theorem turn_sweep_of_shut {t : Task} {timer? : Option Timer} {c : Cache Json}
    (ht : s.tasks.get? id = some t) (hjob : t.job = .sweep cache timer?)
    (hc : s.world.caches.get? cache = some c) (hshut : c.sweeping = false) :
    (s.turn id).world.caches = s.world.caches ∧ (s.turn id).world.events = s.world.events ∧
      (s.turn id).world.log = s.world.log := by
  obtain ⟨job, cancelled⟩ := t
  obtain rfl : job = .sweep cache timer? := hjob
  simp only [turn, ht]
  split
  · exact ⟨rfl, rfl, rfl⟩
  · cases timer? with
    | none =>
      simp only [turnSweep, hc]
      exact sleepTick_leaves ..
    | some timer =>
      simp only [turnSweep, hc, hshut, Bool.false_eq_true, not_false_eq_true, true_or, if_true,
        and_self]

end Session

namespace Cache

/-- The time between two sweeps in milliseconds: the interval, but a millisecond at least, rounded
up. -/
def Config.period (config : Config) : Nat :=
  (max config.sweepInterval.nanos 1000000 + 999999) / 1000000

theorem Config.ceilMillis_tick (config : Config) : config.tick.ceilMillis = config.period :=
  Duration.ceilMillis_eq _

/-- **Expired entries do not pile up.** Every session that comes about by steps keeps time and is at
rest after each step. At rest, an entry of a cache that is swept by background work and that
somebody holds expired less than a period ago, if at all. After a cache was shut down by one of its
names, it is never swept by background work again, whatever happens: a turn of any sweeps leaves it
as it is, and a turn of its own sweeps reports nothing and does nothing at all to caches. -/
theorem swept_in_time :
    (∀ settings recording, (Session.create settings recording).Timely) ∧
    (∀ (s : Session) (calendar : Diagnostics.Calendar) (command : Command), s.Timely →
      (s.step calendar command).2.2.Timely ∧ (s.step calendar command).2.2.Quiescent) ∧
    (∀ (s : Session) (cache : ComponentId) (c : Cache Json), s.Timely → s.Quiescent →
      s.world.caches.get? cache = some c → c.sweeping = true → s.holdsCache cache = true →
      ∀ key e, c.store.entries.get? key = some e → s.world.now < e.expires + c.config.period) ∧
    ∀ (s s' : Session) (calendar : Diagnostics.Calendar) (name : String) (cache : ComponentId)
      (c : Cache Json), s.Reachable → s.caches.get? name = some cache →
      s.world.caches.get? cache = some c →
      (s.perform calendar (.cacheShutDown name)).2.Later s' →
      (∃ c', s'.world.caches.get? cache = some c' ∧ c'.sweeping = false) ∧
      ∀ id t swept timer?, s'.tasks.get? id = some t → t.job = .sweep swept timer? →
        (s'.turn id).world.caches.get? cache = s'.world.caches.get? cache ∧
        (swept = cache → (s'.turn id).world.caches = s'.world.caches ∧
          (s'.turn id).world.events = s'.world.events ∧
          (s'.turn id).world.log = s'.world.log) := by
  refine ⟨.create, fun s calendar command hs => ?_,
    fun s cache c hs hrest hc hsweeping hheld key e he => ?_,
    fun s s' calendar name cache c hs hname hc hlater => ?_⟩
  · obtain ⟨hmoments, hrest⟩ := hs.step calendar command
    exact ⟨hs.moments hmoments, hrest⟩
  -- The background work that sweeps was done at some time that is less than a period ago, and what
  -- was left then had not expired.
  · have htick : (Work.sweeps cache).tick? s.world = some c.config.tick :=
      Work.tick?_sweeps.mpr ⟨c, hc, hsweeping, rfl⟩
    obtain ⟨since, -, -, hnow, hserviced⟩ := hs.kept_up htick hheld
    have hlive : since ≤ e.expires := hserviced key e (World.cached?_eq_some.mpr ⟨c, hc, he⟩)
    rw [← Config.ceilMillis_tick]
    exact (hnow hrest).trans_le (Nat.add_le_add_right hlive _)
  · have hreach := hs.perform calendar (.cacheShutDown name)
    have hdown : (s.perform calendar (.cacheShutDown name)).2.world.caches.get? cache =
        some c.shutDown := by
      simp only [Session.perform, Session.withCache, Session.withName, hname, hc, Table.get?_set,
        if_true]
    obtain ⟨c', hc', -, hstays⟩ := Cache.later hreach.valid_scene.2 (hlater.scene hreach) hdown
    have hshut : c'.sweeping = false :=
      Bool.eq_false_iff.mpr fun hsweeping => absurd (hstays hsweeping) Bool.false_ne_true
    refine ⟨⟨c', hc', hshut⟩, fun id t swept timer? ht hjob => ?_⟩
    -- The background work of this cache finds it shut, and that of another one does not touch it.
    by_cases heq : swept = cache
    · subst heq
      obtain ⟨hcaches, hquiet⟩ := Session.turn_sweep_of_shut ht hjob hc' hshut
      exact ⟨by rw [hcaches], fun _ => ⟨hcaches, hquiet⟩⟩
    · exact ⟨Session.turn_sweep_of_ne ht hjob heq, fun hsame => absurd hsame heq⟩

/-! ### A value without a lifetime -/

/-- A cache with sweeps and two names, and a value that is written to live for no time. -/
def writing : List Command :=
  [.cache "c" (.swept ⟨10, 300, .ofSecs 1⟩), .cacheClone "c" "d", .set "c" "k" .null (some 0)]

/-- The session at rest after that. -/
def fleeting : Session :=
  ((Session.create {} true).performAll ⟨toString, toString⟩ writing).2.settle

theorem fleeting_timely : fleeting.Timely ∧ fleeting.Quiescent := by
  have hcreate := Session.Timely.create {} true
  have hset := hcreate.moments (hcreate.performAll ⟨toString, toString⟩ writing)
  have hsettle := hset.moments (Session.settle_moments _)
  exact ⟨hsettle, hsettle.quiescent hset.reachable.settle_ready⟩

/-- The value has expired and waits for the next sweep, which is less than a period away. When the
cache was shut down by its other name, that sweep removes nothing. -/
theorem swept_in_time_fleeting :
    let shut := (fleeting.perform ⟨toString, toString⟩ (.cacheShutDown "d")).2
    fleeting.holdsCache 0 = true ∧ (∃ c e, fleeting.world.caches.get? 0 = some c ∧
      c.sweeping = true ∧ c.store.entries.get? "k" = some e ∧ e.expires = 0 ∧
      fleeting.world.now < 0 + 1000) ∧
    (∃ timer, (shut.tasks.get? 1).map Task.job = some (.sweep 0 (some timer))) ∧
    (shut.turn 1).world.caches = shut.world.caches := by
  intro shut
  obtain ⟨-, -, hbound, hshut⟩ := swept_in_time
  obtain ⟨htimely, hrest⟩ := fleeting_timely
  have hheld : fleeting.holdsCache 0 = true := by decide +kernel
  have hshape : (fleeting.world.caches.get? 0).map (fun c =>
      (c.sweeping, c.config.period, (c.store.entries.get? "k").map Entry.expires)) =
        some (true, 1000, some 0) := by decide +kernel
  obtain ⟨c, hc, heq⟩ := Option.map_eq_some_iff.mp hshape
  obtain ⟨hsweeping, hperiod, hentry⟩ : c.sweeping = true ∧ c.config.period = 1000 ∧
      (c.store.entries.get? "k").map Entry.expires = some 0 := by simpa using heq
  obtain ⟨e, he, hexpires⟩ := Option.map_eq_some_iff.mp hentry
  have hnow := hbound fleeting 0 c htimely hrest hc hsweeping hheld "k" e he
  rw [hperiod, hexpires] at hnow
  obtain ⟨-, hturns⟩ := hshut fleeting shut ⟨toString, toString⟩ "d" 0 c htimely.reachable
    (by decide +kernel) hc .refl
  have htask : ∃ timer, (shut.tasks.get? 1).map Task.job = some (.sweep 0 (some timer)) :=
    ⟨⟨1000, 2⟩, by rfl⟩
  obtain ⟨timer, htimer⟩ := htask
  obtain ⟨t, ht, hjob⟩ := Option.map_eq_some_iff.mp htimer
  exact ⟨hheld, ⟨c, e, hc, hsweeping, he, hexpires, hnow⟩, ⟨timer, htimer⟩,
    ((hturns 1 t 0 (some timer) ht hjob).2 rfl).1⟩

end Cache

end Resilience
