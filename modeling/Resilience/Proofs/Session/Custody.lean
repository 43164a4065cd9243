import Resilience.Proofs.Cache.Scene
import Resilience.Proofs.Rest
import Resilience.Proofs.Session.Settling

/-!
# Who holds a component

Background work belongs to a component: refills to a bucket, sweeps to a cache (`Work`). It goes on
as long as somebody holds the component (`Work.heldBy`).

Whoever asks for a component has it from somebody who holds it, so nobody comes to hold a component
that nobody held before, unless it is new; and a new component comes with its work, which has a turn
coming. Nobody has a name for background work, so nobody cancels it. All that a command does with
holders and tasks is put together in one relation (`Session.Entrusts`), which every command keeps to
that takes no time (`Session.Reachable.perform_entrusts`). A turn makes nobody a holder
(`Session.Spends.heldBy`).
-/

namespace Resilience

/-- Background work, with the component that it belongs to. -/
inductive Work where
  | refills (bucket : ComponentId)
  | sweeps (cache : ComponentId)

/-- The operation has a layer that uses the component. -/
def Operation.needs (op : Operation) : Work → Bool
  | .refills bucket => op.usesBucket bucket
  | .sweeps cache => op.usesCache cache

/-- The task keeps the component. -/
def Job.needs (job : Job) : Work → Bool
  | .refills bucket => job.usesBucket bucket
  | .sweeps cache => job.usesCache cache

theorem Job.needs_errand (job : Job) (work : Work) : job.errand.needs work = job.needs work := by
  cases work <;> cases job <;> rfl

/-- A task that has not begun does not sleep. -/
theorem Job.Unbegun.timers {job : Job} (h : job.Unbegun) : job.timers = [] := by
  cases job <;> cases h <;> rfl

theorem Job.background_errand (job : Job) : job.errand.background = job.background := by
  cases job <;> rfl

namespace Work

/-- The task that does the work. -/
def job : Work → Option Timer → Job
  | refills bucket => .refill bucket
  | sweeps cache => .sweep cache

/-- The component is there. -/
def there (w : World) : Work → Bool
  | refills bucket => w.buckets.has bucket
  | sweeps cache => w.caches.has cache

/-- How often the work is due, if it is to be done: the bucket is open, the cache is to be swept. -/
def tick? (w : World) : Work → Option Duration
  | refills bucket =>
    (w.buckets.get? bucket).bind fun c => if c.state.closed then none else some c.config.tick
  | sweeps cache =>
    (w.caches.get? cache).bind fun c => if c.sweeping then some c.config.tick else none

/-- Somebody holds the component. -/
def heldBy (s : Session) : Work → Bool
  | refills bucket => s.holdsBucket bucket
  | sweeps cache => s.holdsCache cache

/-- The component is known by a name, in the registry or in the session. -/
def NamedIn (s : Session) : Work → Prop
  | refills bucket => bucket ∈ s.world.bucketNames.values ∨ bucket ∈ s.buckets.values
  | sweeps cache => cache ∈ s.caches.values

variable {w : World} {work : Work}

theorem there_of_tick? {d : Duration} (h : work.tick? w = some d) : work.there w = true := by
  cases work <;>
  · obtain ⟨c, hc, -⟩ := Option.bind_eq_some_iff.mp h
    rw [there, Table.has, hc]
    rfl

theorem there_of_stable {w' : World} (h : w.Stable w') : work.there w' = work.there w := by
  cases work with
  | refills bucket => exact h.buckets bucket
  | sweeps cache => exact h.caches cache

theorem heldBy_iff {s : Session} : work.heldBy s = true ↔ work.NamedIn s ∨
    (∃ op ∈ s.operations.values, op.needs work = true) ∨
      ∃ t ∈ s.tasks.values, t.job.needs work = true := by
  cases work <;>
    simp [heldBy, Session.holdsBucket, Session.holdsCache, NamedIn, Operation.needs, Job.needs,
      or_assoc]

/-- The world matters for its registry only. -/
theorem heldBy_of_world {s : Session} (h : w.bucketNames = s.world.bucketNames)
    (hheld : work.heldBy { s with world := w } = true) : work.heldBy s = true := by
  refine heldBy_iff.mpr ((heldBy_iff.mp hheld).imp_left fun hname => ?_)
  cases work with
  | refills bucket =>
    have hname : bucket ∈ w.bucketNames.values ∨ bucket ∈ s.buckets.values := hname
    rwa [h] at hname
  | sweeps cache => exact hname

theorem heldBy_of_bucket {s : Session} {name : String} {bucket : ComponentId}
    (h : s.buckets.get? name = some bucket) : (refills bucket).heldBy s = true :=
  heldBy_iff.mpr (.inl (.inr (Table.mem_values_of_get? h)))

theorem heldBy_of_cache {s : Session} {name : String} {cache : ComponentId}
    (h : s.caches.get? name = some cache) : (sweeps cache).heldBy s = true :=
  heldBy_iff.mpr (.inl (Table.mem_values_of_get? h))

end Work

namespace Session

variable {s s' s₁ : Session} {work : Work} {w : World}

/-- The names of tasks are those of tasks that were begun, and never those of background work. -/
structure Anonymous (s : Session) : Prop where
  begun {name : String} {id : TaskId} : s.taskNames.get? name = some id → id < s.world.serial
  named {name : String} {id : TaskId} {t : Task} : s.taskNames.get? name = some id →
    s.tasks.get? id = some t → t.job.background = false

/-- What a command does with holders, names and tasks. Nobody comes to hold a component that was
there and that nobody held; a new component that is to be looked after comes with a task for that,
which has a turn coming; and tasks of this kind go on. -/
structure Entrusts (s s' : Session) : Prop where
  now : s'.world.now = s.world.now
  ready : s.world.ready <+: s'.world.ready
  limiterNames {name : String} {id : ComponentId} :
    s.world.limiterNames.get? name = some id → s'.world.limiterNames.get? name = some id
  bucketNames {name : String} {id : ComponentId} :
    s.world.bucketNames.get? name = some id → s'.world.bucketNames.get? name = some id
  anonymous : s.Anonymous → s'.Anonymous
  goesOn {id : TaskId} {t : Task} : s.Anonymous → s.tasks.get? id = some t →
    t.job.background = true → s'.tasks.get? id = some t
  sleeps {id : TaskId} {t : Task} {timer : Timer} : s'.tasks.get? id = some t →
    timer ∈ t.job.timers → ∃ t₀, s.tasks.get? id = some t₀ ∧ timer ∈ t₀.job.timers
  held {work : Work} : work.there s.world = true → work.heldBy s' = true →
    work.heldBy s = true
  begun {work : Work} {d : Duration} : work.there s.world = false →
    work.tick? s'.world = some d →
      ∃ id ∈ s'.world.ready, s'.tasks.get? id = some ⟨work.job none, false⟩

/-! ### No task comes or goes -/

namespace Entrusts

/-- Names are given and operations are defined with what is held already. -/
theorem of_tasks (hnow : s'.world.now = s.world.now) (hready : s.world.ready <+: s'.world.ready)
    (hserial : s.world.serial ≤ s'.world.serial)
    (hlimiters : ∀ {name id}, s.world.limiterNames.get? name = some id →
      s'.world.limiterNames.get? name = some id)
    (hbuckets : ∀ {name id}, s.world.bucketNames.get? name = some id →
      s'.world.bucketNames.get? name = some id)
    (hthere : ∀ (work : Work) d, work.tick? s'.world = some d → work.there s.world = true)
    (htasks : s'.tasks = s.tasks) (htaskNames : s'.taskNames = s.taskNames)
    (hnamed : ∀ work : Work, work.there s.world = true → work.NamedIn s' →
      work.heldBy s = true)
    (hops : ∀ op ∈ s'.operations.values, ∀ work : Work, op.needs work = true →
      work.heldBy s = true) : Entrusts s s' where
  now := hnow
  ready := hready
  limiterNames := hlimiters
  bucketNames := hbuckets
  anonymous h := ⟨fun hn => (h.begun (htaskNames ▸ hn)).trans_le hserial,
    fun hn ht => h.named (htaskNames ▸ hn) (htasks ▸ ht)⟩
  goesOn _ ht _ := htasks ▸ ht
  sleeps ht htimer := ⟨_, htasks ▸ ht, htimer⟩
  held {work} hwas hheld := by
    rcases Work.heldBy_iff.mp hheld with hname | ⟨op, hop, hneeds⟩ | htask
    · exact hnamed work hwas hname
    · exact hops op hop work hneeds
    · exact Work.heldBy_iff.mpr (.inr (.inr (htasks ▸ htask)))
  begun hnot htick := by
    rw [hthere _ _ htick] at hnot
    cases hnot

/-- Names of buckets and caches are given to what is held already. -/
theorem rename {limiters buckets caches : Table String ComponentId}
    (hb : ∀ id ∈ buckets.values, (Work.refills id).heldBy s = true)
    (hc : ∀ id ∈ caches.values, (Work.sweeps id).heldBy s = true) :
    Entrusts s { s with limiters := limiters, buckets := buckets, caches := caches } := by
  refine .of_tasks rfl List.prefix_rfl (le_refl _) id id (fun _ _ => Work.there_of_tick?) rfl rfl
    (fun work _ hname => ?_) fun op hop work hneeds =>
      Work.heldBy_iff.mpr (.inr (.inl ⟨op, hop, hneeds⟩))
  cases work with
  | refills id =>
    exact hname.elim (fun hid => Work.heldBy_iff.mpr (.inl (.inl hid))) (hb id)
  | sweeps id => exact hc id hname

theorem refl (s : Session) : Entrusts s s :=
  .rename (fun _ hid => Work.heldBy_iff.mpr (.inl (.inr hid)))
    fun _ hid => Work.heldBy_iff.mpr (.inl hid)

end Entrusts

end Session

theorem World.mem_ready_wake (task : TaskId) (w : World) : task ∈ (w.wake task).ready := by
  unfold wake
  split
  · assumption
  · exact List.mem_append_right _ (List.mem_singleton_self _)

/-- A step of a command in the world: nobody loses a turn, and the components are the same ones. -/
structure World.Steady (w w' : World) : Prop extends w.Stable w' where
  ready : w.ready <+: w'.ready
  serial : w.serial ≤ w'.serial

namespace World.Steady

variable {w w' w'' : World}

theorem refl (w : World) : w.Steady w := ⟨.refl w, List.prefix_rfl, le_refl _⟩

theorem trans (h : w.Steady w') (h' : w'.Steady w'') : w.Steady w'' :=
  ⟨h.toStable.trans h'.toStable, h.ready.trans h'.ready, h.serial.trans h'.serial⟩

theorem openBreaker (name : String) (config : Breaker.Config) (w : World) :
    w.Steady (w.openBreaker name config) := by
  obtain ⟨_, heq⟩ := w.openBreaker_eq name config
  exact heq ▸ ⟨.of_eq rfl rfl rfl rfl rfl, List.prefix_rfl, le_refl _⟩

theorem createSource (label : String) (turns : List Turn) (w : World) :
    w.Steady (w.createSource label turns).2 :=
  ⟨.of_eq rfl rfl rfl rfl rfl, List.prefix_rfl, Nat.le_succ _⟩

theorem resetBreaker (name : String) (w : World) : w.Steady (w.resetBreaker name).2 := by
  obtain ⟨_, _, _, -, heq⟩ := w.resetBreaker_eq name
  exact heq ▸ ⟨.of_eq rfl rfl rfl rfl rfl, List.prefix_rfl, le_refl _⟩

theorem refillBucket (id : ComponentId) (w : World) : w.Steady (w.refillBucket id).2 := by
  have hserves := Serves.refillBucket id w
  exact ⟨(Stirs.refillBucket id w).toStable, hserves.ready, hserves.serial⟩

theorem shutDownBucket (id : ComponentId) (w : World) : w.Steady (w.shutDownBucket id) := by
  refine ⟨?_, w.ready_prefix_shutDownBucket id, ?_⟩
  · cases hc : w.buckets.get? id with
    | none =>
      rw [World.shutDownBucket_of_none hc]
      exact .refl w
    | some c =>
      rw [World.shutDownBucket_of_some hc]
      exact (Stable.setBucket hc).trans (.wakeAll ..)
  · obtain ⟨_, _, -, heq⟩ := w.shutDownBucket_eq id
    rw [heq]

theorem shutDown (w : World) : w.Steady w.shutDown := by
  unfold World.shutDown
  generalize w.bucketNames.values = ids
  induction ids generalizing w with
  | nil => exact refl w
  | cons id rest ih => exact (shutDownBucket id w).trans (ih _)

theorem writeCache (id : ComponentId) (key : String) (value : Json) (ttl : Nat) (w : World) :
    w.Steady (w.writeCache id key value ttl) := by
  have hserves := Serves.writeCache id key value ttl w
  exact ⟨(Stirs.writeCache id key value ttl w).toStable, hserves.ready, hserves.serial⟩

theorem setCache {id : ComponentId} {c c' : Cache Json} (hc : w.caches.get? id = some c) :
    w.Steady { w with caches := w.caches.set id c' } :=
  ⟨.setCache hc, List.prefix_rfl, le_refl _⟩

theorem releaseSlot (id : ComponentId) (w : World) : w.Steady (w.releaseSlot id) := by
  have hserves := Serves.releaseSlot id w
  exact ⟨(Stirs.releaseSlot id w).toStable, hserves.ready, hserves.serial⟩

end World.Steady

namespace Session

variable {s s' s₁ : Session} {work : Work} {w : World}

/-- The world moves on, and an operation is defined. -/
theorem Entrusts.define (hw : s.world.Steady w) {operations : Table String Operation}
    {permits : Table String ComponentId}
    (hops : ∀ op ∈ operations.values, ∀ work : Work, op.needs work = true →
      work.heldBy s = true) :
    Entrusts s { s with world := w, operations := operations, permits := permits } := by
  refine .of_tasks hw.now hw.ready hw.serial (fun h => hw.limiterNames ▸ h)
    (fun h => hw.bucketNames ▸ h) (fun _ d h => ?_) rfl rfl
    (fun work _ hname => Work.heldBy_iff.mpr (.inl ?_)) hops
  · exact Work.there_of_stable hw.toStable ▸ Work.there_of_tick? h
  cases work with
  | refills id =>
    have hname : id ∈ w.bucketNames.values ∨ id ∈ s.buckets.values := hname
    rw [hw.bucketNames] at hname
    exact hname
  | sweeps id => exact hname

theorem Entrusts.world (hw : s.world.Steady w) : Entrusts s { s with world := w } :=
  .define hw fun op hop _ hneeds => Work.heldBy_iff.mpr (.inr (.inl ⟨op, hop, hneeds⟩))

/-! ### A task is begun -/

theorem spawn_idles (s : Session) (job : Job) : s.world.Idles (s.spawn job).2.world := by
  have hwake := World.wake_idles s.world.serial s.world.fresh.2
  exact { hwake with serial := (Nat.le_succ _).trans hwake.serial }

/-- A new task takes the number that is next. -/
theorem get?_spawn (s : Session) (job : Job) (id : TaskId) : (s.spawn job).2.tasks.get? id =
    if s.world.serial = id then some ⟨job, false⟩ else s.tasks.get? id := Table.get?_set ..

theorem mem_ready_spawn (s : Session) (job : Job) :
    s.world.serial ∈ (s.spawn job).2.world.ready :=
  World.mem_ready_wake s.world.serial s.world.fresh.2

/-- A task is begun for what is held already, or to look after what is new. -/
theorem Entrusts.spawn (hs : s.Valid) {job : Job} (hjob : job.Unbegun)
    (hnow : s₁.world.now = s.world.now) (hready : s₁.world.ready = s.world.ready)
    (hserial : s.world.serial ≤ s₁.world.serial)
    (hlimiters : s₁.world.limiterNames = s.world.limiterNames)
    (hbuckets : ∀ {name id}, s.world.bucketNames.get? name = some id →
      s₁.world.bucketNames.get? name = some id)
    (htasks : s₁.tasks = s.tasks) (htaskNames : s₁.taskNames = s.taskNames)
    (hops : s₁.operations = s.operations)
    (hnamed : ∀ work : Work, work.there s.world = true → work.NamedIn s₁ →
      work.heldBy s = true)
    (hneeds : ∀ work : Work, job.needs work = true → work.heldBy s = true)
    (hbegun : ∀ (work : Work) d, work.there s.world = false →
      work.tick? s₁.world = some d → job = work.job none) :
    Entrusts s (s₁.spawn job).2 := by
  have hidles := spawn_idles s₁ job
  have hprefix : s₁.world.ready <+: (s₁.spawn job).2.world.ready :=
    (World.Serves.wake s₁.world.serial s₁.world.fresh.2).ready
  have hold {id : TaskId} (hid : id < s.world.serial) :
      (s₁.spawn job).2.tasks.get? id = s.tasks.get? id := by
    rw [get?_spawn, if_neg (hid.trans_le hserial).ne', htasks]
  -- The tasks differ in the new number only, and no number that is in use is as high.
  refine
    { now := hidles.now.trans hnow
      ready := hready ▸ hprefix
      limiterNames := fun h => by rwa [hidles.limiterNames, hlimiters]
      bucketNames := fun h => by rw [hidles.bucketNames]; exact hbuckets h
      anonymous := fun h => ?_
      goesOn := fun _ ht _ => ?_
      sleeps := fun {id t timer} ht htimer => ?_
      held := fun {work} hwas hheld => ?_
      begun := fun {work d} hnot htick => ?_ }
  · have hnames : (s₁.spawn job).2.taskNames = s.taskNames := htaskNames
    refine ⟨fun hn => ?_, fun hn ht => ?_⟩
    · exact (h.begun (hnames ▸ hn)).trans_le (hserial.trans hidles.serial)
    · rw [hold (h.begun (hnames ▸ hn))] at ht
      exact h.named (hnames ▸ hn) ht
  · have hid := hs.tasks_lt (Table.has_iff_mem_keys.mp (by rw [Table.has, ht]; rfl))
    rwa [hold hid]
  · rw [get?_spawn] at ht
    split at ht
    · cases ht
      rw [hjob.timers] at htimer
      cases htimer
    · exact ⟨t, htasks ▸ ht, htimer⟩
  · rcases Work.heldBy_iff.mp hheld with hname | ⟨op, hop, hop'⟩ | ⟨t, ht, ht'⟩
    · refine hnamed work hwas ?_
      cases work with
      | refills id =>
        have hname : id ∈ (s₁.spawn job).2.world.bucketNames.values ∨ _ := hname
        rw [hidles.bucketNames] at hname
        exact hname
      | sweeps id => exact hname
    · exact Work.heldBy_iff.mpr (.inr (.inl ⟨op, hops ▸ hop, hop'⟩))
    · rcases Table.mem_values_set ht with rfl | ht
      · exact hneeds work ht'
      · exact Work.heldBy_iff.mpr (.inr (.inr ⟨t, htasks ▸ ht, ht'⟩))
  · refine ⟨s₁.world.serial, mem_ready_spawn s₁ job, ?_⟩
    have htick : work.tick? s₁.world = some d := by
      cases work <;> simpa only [Work.tick?, hidles.buckets, hidles.caches] using htick
    rw [get?_spawn, if_pos rfl, hbegun work d hnot htick]

/-- A task with a name is begun for what is held already. -/
theorem Entrusts.spawnNamed (hs : s.Valid) (name : String) {job : Job} (hjob : job.Unbegun)
    (hforeground : job.background = false)
    (hneeds : ∀ work : Work, job.needs work = true → work.heldBy s = true) :
    Entrusts s (s.spawnNamed name job) := by
  have hspawn : Entrusts s (s.spawn job).2 :=
    .spawn hs hjob rfl rfl (le_refl _) rfl id rfl rfl rfl
      (fun work _ hname => Work.heldBy_iff.mpr (.inl hname)) hneeds fun work d hnot htick => by
        rw [Work.there_of_tick? htick] at hnot
        cases hnot
  -- The name adds nothing but itself: it is that of the new task, which is no background work.
  refine { hspawn with anonymous := fun h => ?_ }
  have hanonymous := hspawn.anonymous h
  have hserial : s.world.serial < (s.spawn job).2.world.serial :=
    (Nat.lt_succ_self _).trans_le (World.wake_idles s.world.serial s.world.fresh.2).serial
  refine ⟨fun {n id} hn => ?_, fun {n id t} hn ht => ?_⟩
  · have hn : (s.taskNames.set name s.world.serial).get? n = some id := hn
    rw [Table.get?_set] at hn
    split at hn
    · exact Option.some.inj hn ▸ hserial
    · exact hanonymous.begun hn
  · have hn : (s.taskNames.set name s.world.serial).get? n = some id := hn
    rw [Table.get?_set] at hn
    split at hn
    · cases hn
      have ht : (s.spawn job).2.tasks.get? s.world.serial = some t := ht
      rw [get?_spawn, if_pos rfl] at ht
      cases ht
      exact hforeground
    · exact hanonymous.named hn ht

/-- A task with a name is to be taken apart. -/
theorem Entrusts.cancel (s : Session) (name : String) : Entrusts s (s.cancel name).2 := by
  unfold Session.cancel
  split
  · next id hname =>
    split
    · have hidles := World.wake_idles id s.world
      have hmodify {other : TaskId} {t : Task} (ht : (s.tasks.modify id
          fun t => { t with cancelled := true }).get? other = some t) :
          ∃ t₀, s.tasks.get? other = some t₀ ∧ t.job = t₀.job := by
        rw [Table.get?_modify] at ht
        split at ht
        · obtain ⟨t₀, ht₀, rfl⟩ := Option.map_eq_some_iff.mp ht
          exact ⟨t₀, ht₀, rfl⟩
        · exact ⟨t, ht, rfl⟩
      refine
        { now := hidles.now
          ready := (World.Serves.wake id s.world).ready
          limiterNames := fun h => by rwa [hidles.limiterNames]
          bucketNames := fun h => by rwa [hidles.bucketNames]
          anonymous := fun h => ⟨fun hn => (h.begun hn).trans_le hidles.serial, fun hn ht => ?_⟩
          goesOn := fun {other t} h ht hbackground => ?_
          sleeps := fun {other t timer} ht htimer => ?_
          held := fun {work} _ hheld => ?_
          begun := fun {work d} hnot htick => ?_ }
      · obtain ⟨t₀, ht₀, hjob⟩ := hmodify ht
        rw [hjob]
        exact h.named hn ht₀
      · -- The name is not that of background work.
        have hne : id ≠ other := fun heq => by
          rw [h.named hname (heq ▸ ht)] at hbackground
          cases hbackground
        exact (Table.get?_modify ..).trans (by rw [if_neg hne, ht])
      · obtain ⟨t₀, ht₀, hjob⟩ := hmodify ht
        exact ⟨t₀, ht₀, hjob ▸ htimer⟩
      · rcases Work.heldBy_iff.mp hheld with hnamed | hops | ⟨t, ht, hneeds⟩
        · refine Work.heldBy_iff.mpr (.inl ?_)
          cases work with
          | refills bucket =>
            have hnamed : bucket ∈ (s.world.wake id).bucketNames.values ∨ _ := hnamed
            rw [hidles.bucketNames] at hnamed
            exact hnamed
          | sweeps cache => exact hnamed
        · exact Work.heldBy_iff.mpr (.inr (.inl hops))
        · obtain ⟨t₀, ht₀, heq⟩ := Table.mem_values_modify ht
          have hjob : t.job = t₀.job := by rcases heq with rfl | rfl <;> rfl
          exact Work.heldBy_iff.mpr (.inr (.inr ⟨t₀, ht₀, hjob ▸ hneeds⟩))
      · have hthere := Work.there_of_tick? htick
        have hsame : work.there (s.world.wake id) = work.there s.world := by
          cases work <;> simp only [Work.there, hidles.buckets, hidles.caches]
        rw [hsame, hnot] at hthere
        cases hthere
    · exact .refl s
  · exact .refl s

/-! ### Components are created and named -/

/-- A bucket that is created under a name, and perhaps in the registry, comes with its refills. -/
private theorem begin_bucket (h : s.Reachable) (name : String) (config : Bucket.Config)
    {names : Table String ComponentId}
    (hnames : names = s.world.bucketNames ∨ (s.world.bucketNames.get? name = none ∧
      names = s.world.bucketNames.set name s.world.serial)) :
    Entrusts s (spawn (.refill s.world.serial none) { s with
      world := { (s.world.createBucket name config).2 with bucketNames := names }
      buckets := s.buckets.set name s.world.serial }).2 := by
  obtain ⟨hvalid, hscene⟩ := h.valid_scene
  have hfresh : s.world.buckets.has s.world.serial = false := by
    rw [Table.has, Option.isSome_eq_false_iff, Option.isNone_iff_eq_none]
    exact Option.eq_none_iff_forall_ne_some.mpr fun c hc =>
      lt_irrefl _ (hscene.bucketsNumbered _ c hc)
  have hold {names' : Table String ComponentId} {id : ComponentId}
      (hwas : s.world.buckets.has id = true) (hid : id ∈ (names'.set name s.world.serial).values) :
      id ∈ names'.values := (Table.mem_values_set hid).resolve_left fun heq => by
    rw [heq, hfresh] at hwas
    cases hwas
  -- The new name leads to a bucket that was not there, so nobody comes to hold an old one.
  refine .spawn hvalid rfl rfl rfl (Nat.le_succ _) rfl (fun {other id} hother => ?_) rfl rfl rfl
    (fun work hwas hname => ?_) (fun work hneeds => by cases work <;> cases hneeds)
    fun work d hnot htick => ?_
  · rcases hnames with rfl | ⟨hnone, rfl⟩
    · exact hother
    · have hne : name ≠ other := fun heq => by rw [heq, hother] at hnone; cases hnone
      rw [Table.get?_set, if_neg hne, hother]
  · refine Work.heldBy_iff.mpr (.inl ?_)
    cases work with
    | refills id =>
      refine hname.imp (fun hid => ?_) fun hid => hold hwas hid
      rcases hnames with rfl | ⟨-, rfl⟩
      · exact hid
      · exact hold hwas hid
    | sweeps id => exact hname
  · cases work with
    | refills id =>
      have hthere := Work.there_of_tick? htick
      by_cases heq : s.world.serial = id
      · rw [← heq]
        rfl
      · have hsame : (Work.refills id).there s.world = true := by
          simpa only [Work.there, Table.has, World.createBucket, World.fresh, Table.get?_set,
            if_neg heq] using hthere
        rw [hsame] at hnot
        cases hnot
    | sweeps id =>
      have hthere : (Work.sweeps id).there s.world = true := Work.there_of_tick? htick
      rw [hthere] at hnot
      cases hnot

theorem bucket_entrusts (h : s.Reachable) (name : String) (config? : Option Bucket.Config)
    (place : Place) : Entrusts s (s.bucket name config? place).2 := by
  unfold Session.bucket
  cases place with
  | own =>
    have hnew := begin_bucket h name (config?.getD s.world.settings.bucket) (.inl rfl)
    dsimp only
    split <;> exact hnew
  | registry =>
    cases hname : s.world.bucketNames.get? name with
    | some id =>
      -- The bucket is in the registry already, and the session only learns its name.
      have hshared : Entrusts s { s with buckets := s.buckets.set name id } :=
        .rename (fun other hother => Work.heldBy_iff.mpr (.inl (by
            rcases Table.mem_values_set hother with rfl | hold
            · exact .inl (Table.mem_values_of_get? hname)
            · exact .inr hold))) fun other hother => Work.heldBy_iff.mpr (.inl hother)
      have hopen (config : Bucket.Config) :
          s.world.openBucket name config = (id, false, s.world) := by
        simp only [World.openBucket, hname]
      simp only [hopen]
      split <;> exact hshared
    | none =>
      have hnew := begin_bucket h name (config?.getD s.world.settings.bucket)
        (.inr ⟨hname, rfl⟩)
      have hopen (config : Bucket.Config) : s.world.openBucket name config =
          (s.world.serial, true, { (s.world.createBucket name config).2 with
            bucketNames := s.world.bucketNames.set name s.world.serial }) := by
        simp only [World.openBucket, hname]
        rfl
      simp only [hopen]
      split <;> exact hnew

theorem limiter_entrusts (s : Session) (name : String) (config? : Option Limiter.Config)
    (place : Place) : Entrusts s (s.limiter name config? place).2 := by
  -- Limiters have no background work.
  have hworld {w : World} {limiters : Table String ComponentId} (hnow : w.now = s.world.now)
      (hready : w.ready = s.world.ready) (hserial : s.world.serial ≤ w.serial)
      (hnames : ∀ {other id}, s.world.limiterNames.get? other = some id →
        w.limiterNames.get? other = some id) (hbn : w.bucketNames = s.world.bucketNames)
      (hb : w.buckets = s.world.buckets) (hc : w.caches = s.world.caches) :
      Entrusts s { s with world := w, limiters := limiters } := by
    refine .of_tasks hnow (hready ▸ List.prefix_rfl) hserial hnames (fun hid => hbn ▸ hid)
      (fun work d htick => ?_) rfl rfl (fun work _ hname => Work.heldBy_iff.mpr (.inl ?_))
      fun op hop work hneeds => Work.heldBy_iff.mpr (.inr (.inl ⟨op, hop, hneeds⟩))
    · have hthere := Work.there_of_tick? htick
      cases work <;> simpa only [Work.there, hb, hc] using hthere
    · cases work with
      | refills id =>
        have hname : id ∈ w.bucketNames.values ∨ id ∈ s.buckets.values := hname
        rwa [hbn] at hname
      | sweeps id => exact hname
  unfold Session.limiter
  cases place with
  | own =>
    dsimp only
    split <;> exact hworld rfl rfl (Nat.le_succ _) (fun h => h) rfl rfl rfl
  | registry =>
    cases hname : s.world.limiterNames.get? name with
    | some id =>
      have hopen (config : Limiter.Config) : s.world.openLimiter name config = (id, s.world) := by
        simp only [World.openLimiter, hname]
      simp only [hopen]
      split <;> exact hworld rfl rfl (le_refl _) (fun h => h) rfl rfl rfl
    | none =>
      have hkept {other : String} {id : ComponentId}
          (hother : s.world.limiterNames.get? other = some id) :
          (s.world.limiterNames.set name s.world.serial).get? other = some id := by
        have hne : name ≠ other := fun heq => by rw [heq, hother] at hname; cases hname
        rw [Table.get?_set, if_neg hne, hother]
      have hopen (config : Limiter.Config) : s.world.openLimiter name config =
          (s.world.serial, { (s.world.createLimiter name config).2 with
            limiterNames := s.world.limiterNames.set name s.world.serial }) := by
        simp only [World.openLimiter, hname]
        rfl
      simp only [hopen]
      split <;> exact hworld rfl rfl (Nat.le_succ _) hkept rfl rfl rfl

/-- A cache that is created with sweeps comes with them. -/
theorem cache_entrusts (h : s.Reachable) (name : String) (kind : CacheKind) :
    Entrusts s (s.cache name kind).2 := by
  obtain ⟨hvalid, hscene⟩ := h.valid_scene
  have hfresh : s.world.caches.has s.world.serial = false := by
    rw [Table.has, Option.isSome_eq_false_iff, Option.isNone_iff_eq_none]
    exact Option.eq_none_iff_forall_ne_some.mpr fun c hc => lt_irrefl _ (hscene.cache_lt hc)
  -- The new name is that of the new cache.
  have hnamed {config : Cache.Config} {sweeping : Bool} (work : Work)
      (hwas : work.there s.world = true) (hname : work.NamedIn { s with
        world := (s.world.createCache config sweeping).2
        caches := s.caches.set name s.world.serial }) : work.heldBy s = true := by
    refine Work.heldBy_iff.mpr (.inl ?_)
    cases work with
    | refills id => exact hname
    | sweeps id =>
      refine (Table.mem_values_set hname).resolve_left fun heq => ?_
      rw [Work.there, heq, hfresh] at hwas
      cases hwas
  -- Whatever is to be looked after was there or is the new cache.
  have htick? {config : Cache.Config} {sweeping : Bool} {work : Work} {d : Duration}
      (htick : work.tick? (s.world.createCache config sweeping).2 = some d) :
      work.there s.world = true ∨ (work = .sweeps s.world.serial ∧ sweeping = true) := by
    cases work with
    | refills id => exact .inl (Work.there_of_tick? htick)
    | sweeps id =>
      simp only [Work.tick?, World.createCache, World.fresh, Table.get?_set] at htick
      split at htick
      · next heq =>
        rw [Option.bind_some, Cache.create] at htick
        dsimp only at htick
        split at htick
        · next hsweeping => exact .inr ⟨by rw [heq], hsweeping⟩
        · cases htick
      · obtain ⟨c, hc, -⟩ := Option.bind_eq_some_iff.mp htick
        exact .inl (by rw [Work.there, Table.has, hc]; rfl)
  have hplain (config : Cache.Config) : Entrusts s { s with
      world := (s.world.createCache config false).2
      caches := s.caches.set name s.world.serial } :=
    .of_tasks rfl List.prefix_rfl (Nat.le_succ _) id id
      (fun work d htick => (htick? htick).resolve_right fun hnew => by cases hnew.2) rfl rfl hnamed
      fun op hop work hneeds => Work.heldBy_iff.mpr (.inr (.inl ⟨op, hop, hneeds⟩))
  have hswept (config : Cache.Config) : Entrusts s (spawn (.sweep s.world.serial none) { s with
      world := (s.world.createCache config true).2
      caches := s.caches.set name s.world.serial }).2 :=
    .spawn hvalid rfl rfl rfl (Nat.le_succ _) rfl id rfl rfl rfl hnamed
      (fun work hneeds => by cases work <;> cases hneeds) fun work d hnot htick => by
        rcases htick? htick with hthere | ⟨rfl, -⟩
        · rw [hthere] at hnot
          cases hnot
        · rfl
  unfold Session.cache
  cases kind with
  | plain config => exact hplain config
  | swept config => exact hswept config
  | usual => exact hswept s.world.settings.cache

/-! ### Operations are defined -/

/-- A layer uses what has a name in the session. -/
private theorem wrap_entrusts {id : String} {layer : Layer} {op op' : Operation}
    (h : s.wrap id layer op = .ok (op', s')) : ∃ w, s' = { s with world := w } ∧
      s.world.Steady w ∧ ∀ work : Work, op'.needs work = true →
        op.needs work = true ∨ work.heldBy s = true := by
  -- Only `rate` and `cached` bring in a component with background work, each by its name in the
  -- session. The other layers need what the inner operation needs.
  cases layer with
  | retry policy | usualRetry judge? | timeout limit name =>
    cases h
    exact ⟨s.world, rfl, .refl _, fun work hneeds => .inl (by cases work <;> exact hneeds)⟩
  | breaker name =>
    cases h
    exact ⟨_, rfl, .openBreaker .., fun work hneeds => .inl (by cases work <;> exact hneeds)⟩
  | fallback name turns =>
    cases h
    refine ⟨_, rfl, (World.Steady.openBreaker ..).trans (.createSource ..), fun work hneeds =>
      .inl ?_⟩
    cases work <;>
      simpa [Operation.needs, Operation.usesBucket, Operation.usesCache] using hneeds
  | limit name =>
    simp only [wrap] at h
    split at h
    · cases h
      exact ⟨s.world, rfl, .refl _, fun work hneeds => .inl (by cases work <;> exact hneeds)⟩
    · cases h
  | rate name =>
    simp only [wrap] at h
    split at h
    · next bucket hbucket =>
      cases h
      refine ⟨s.world, rfl, .refl _, fun work hneeds => ?_⟩
      cases work with
      | refills other =>
        rcases Bool.or_eq_true_iff.mp hneeds with heq | hinner
        · exact .inr (eq_of_beq heq ▸ Work.heldBy_of_bucket hbucket)
        · exact .inl hinner
      | sweeps cache => exact .inl hneeds
    · cases h
  | cached cache keyStart ttl =>
    simp only [wrap] at h
    split at h
    · next other hcache =>
      cases h
      refine ⟨s.world, rfl, .refl _, fun work hneeds => ?_⟩
      cases work with
      | refills bucket => exact .inl hneeds
      | sweeps other =>
        rcases Bool.or_eq_true_iff.mp hneeds with heq | hinner
        · exact .inr (eq_of_beq heq ▸ Work.heldBy_of_cache hcache)
        · exact .inl hinner
    · cases h

private theorem wrapAll_entrusts {id : String} {layers : List Layer} {op op' : Operation}
    (h : s.wrapAll id layers op = .ok (op', s')) : ∃ w, s' = { s with world := w } ∧
      s.world.Steady w ∧ ∀ work : Work, op'.needs work = true →
        op.needs work = true ∨ work.heldBy s = true := by
  induction layers generalizing s op with
  | nil =>
    cases h
    exact ⟨_, rfl, .refl _, fun _ => .inl⟩
  | cons layer rest ih =>
    simp only [wrapAll] at h
    split at h
    · next hwrap =>
      obtain ⟨w, rfl, hw, hneeds⟩ := wrap_entrusts hwrap
      obtain ⟨w', rfl, hw', hneeds'⟩ := ih h
      refine ⟨w', rfl, hw.trans hw', fun work h => ?_⟩
      rcases hneeds' work h with hinner | hheld
      · exact hneeds work hinner
      · exact .inr (Work.heldBy_of_world hw.bucketNames hheld)
    · cases h

theorem define_entrusts (s : Session) (id : String) (turns : List Turn) (layers : List Layer) :
    Entrusts s (s.define id turns layers).2 := by
  unfold Session.define
  dsimp only
  split
  · next op s' hwrap =>
    obtain ⟨w, rfl, hw, hneeds⟩ := wrapAll_entrusts hwrap
    refine .define ((World.Steady.createSource id turns s.world).trans hw) fun o ho work h => ?_
    rcases Table.mem_values_set ho with rfl | hold
    · have hsource : (Operation.source (s.world.createSource id turns).1).needs work = false := by
        cases work <;> rfl
      rcases hneeds work h with hnot | hheld
      · rw [hsource] at hnot
        cases hnot
      · exact Work.heldBy_of_world (w := (s.world.createSource id turns).2) rfl hheld
    · exact Work.heldBy_iff.mpr (.inr (.inl ⟨o, hold, h⟩))
  · exact .refl s

/-! ### All commands -/

private theorem withName_entrusts {names : Table String ComponentId} {name : String}
    {act : ComponentId → Reply × Session}
    (h : ∀ id, names.get? name = some id → Entrusts s (act id).2) :
    Entrusts s (withName names name s act).2 := by
  unfold withName
  split
  · next id hid => exact h id hid
  · exact .refl s

private theorem withCache_entrusts (s : Session) (name : String)
    (act : Cache Json → Reply × Cache Json) : Entrusts s (s.withCache name act).2 := by
  refine withName_entrusts fun id _ => ?_
  split
  · next c hc => exact .world (.setCache hc)
  · exact .refl s

/-- **Every command that takes no time hands components on from holder to holder.** -/
theorem Reachable.perform_entrusts (h : s.Reachable) (calendar : Diagnostics.Calendar)
    {command : Command} (hp : command.Plain) (htime : ∀ ms, command ≠ .advance ms) :
    Entrusts s (s.perform calendar command).2 := by
  have hvalid := h.valid_scene.1
  match command with
  | .advance ms => exact absurd rfl (htime ms)
  | .batch _ | .clearEvents | .emit _ => exact hp.elim
  | .settings | .policy | .events | .status _ | .breakers | .permit _ | .finished _ =>
    exact .refl s
  | .shutDown => exact .world (.shutDown _)
  | .breaker name config? =>
    simp only [Session.perform, Session.breaker]
    split
    · exact .world (.openBreaker ..)
    · exact .refl s
  | .reset name => exact .world (.resetBreaker ..)
  | .bucket name config? place => exact bucket_entrusts h name config? place
  | .bucketLevel name | .limiterLevel name =>
    refine withName_entrusts fun id _ => ?_
    split <;> exact .refl s
  | .refill name => exact withName_entrusts fun id _ => .world (.refillBucket ..)
  | .bucketShutDown name => exact withName_entrusts fun id _ => .world (.shutDownBucket ..)
  | .bucketDrop name =>
    exact .rename (fun id hid => Work.heldBy_iff.mpr (.inl (.inr (Table.mem_values_erase hid))))
      fun id hid => Work.heldBy_iff.mpr (.inl hid)
  | .take name id =>
    refine withName_entrusts fun bucket hbucket =>
      .spawnNamed hvalid id rfl rfl fun work hneeds => ?_
    cases work with
    | refills other => exact eq_of_beq hneeds ▸ Work.heldBy_of_bucket hbucket
    | sweeps cache => cases hneeds
  | .limiter name config? place => exact limiter_entrusts s name config? place
  | .acquire name id =>
    exact withName_entrusts fun limiter _ => .spawnNamed hvalid id rfl rfl fun work hneeds => by
      cases work <;> cases hneeds
  | .release id =>
    simp only [Session.perform, releasePermit]
    split
    · exact .define (.releaseSlot ..) fun op hop work hneeds =>
        Work.heldBy_iff.mpr (.inr (.inl ⟨op, hop, hneeds⟩))
    · exact .refl s
  | .define id turns layers => exact define_entrusts s id turns layers
  | .call op id arg =>
    simp only [Session.perform]
    split
    · next o ho =>
      refine .spawnNamed hvalid id rfl rfl fun work hneeds => Work.heldBy_iff.mpr (.inr (.inl ?_))
      exact ⟨o, Table.mem_values_of_get? ho, by cases work <;> exact hneeds⟩
    · exact .refl s
  | .cancel id => exact .cancel s id
  | .cache name kind => exact cache_entrusts h name kind
  | .cacheClone name other =>
    refine withName_entrusts fun id hid => .rename
      (fun b hb => Work.heldBy_iff.mpr (.inl (.inr hb))) fun c hc => ?_
    rcases Table.mem_values_set hc with rfl | hold
    · exact Work.heldBy_of_cache hid
    · exact Work.heldBy_iff.mpr (.inl hold)
  | .cacheDrop name =>
    exact .rename (fun b hb => Work.heldBy_iff.mpr (.inl (.inr hb))) fun c hc =>
      Work.heldBy_iff.mpr (.inl (Table.mem_values_erase hc))
  | .set cache key value ttl? =>
    refine withName_entrusts fun id _ => ?_
    split
    · exact .world (.writeCache ..)
    · exact .refl s
  | .get cache key | .has cache key | .delete cache key | .clear cache | .cacheShutDown cache
    | .statistics cache | .sweep cache => exact withCache_entrusts s cache _
  | .request cache request => exact withName_entrusts fun _ _ => .refl s

/-! ### Turns -/

namespace Spends

variable {id : TaskId} {t : Task}

/-- **A turn makes nobody a holder.** -/
theorem heldBy (h : Spends id t.job { s with tasks := s.tasks.erase id } s')
    (ht : s.tasks.get? id = some t) (hheld : work.heldBy s' = true) : work.heldBy s = true := by
  rcases Work.heldBy_iff.mp hheld with hname | ⟨op, hop, hneeds⟩ | ⟨t', ht', hneeds⟩
  · refine Work.heldBy_iff.mpr (.inl ?_)
    cases work with
    | refills bucket =>
      have hname : bucket ∈ s'.world.bucketNames.values ∨ bucket ∈ s'.buckets.values := hname
      rwa [h.stable.bucketNames, h.buckets] at hname
    | sweeps cache =>
      have hname : cache ∈ s'.caches.values := hname
      rwa [h.caches] at hname
  · exact Work.heldBy_iff.mpr (.inr (.inl ⟨op, h.operations ▸ hop, hneeds⟩))
  · refine Work.heldBy_iff.mpr (.inr (.inr ?_))
    rcases h.outcome with ⟨htasks, -⟩ | ⟨job', htasks, herrand, -, -⟩
    · rw [htasks] at ht'
      exact ⟨t', Table.mem_values_erase ht', hneeds⟩
    · rw [htasks] at ht'
      rcases Table.mem_values_set ht' with rfl | hold
      · refine ⟨t, Table.mem_values_of_get? ht, ?_⟩
        rwa [← Job.needs_errand, ← herrand, Job.needs_errand]
      · exact ⟨t', Table.mem_values_erase hold, hneeds⟩

end Spends

end Session

end Resilience
