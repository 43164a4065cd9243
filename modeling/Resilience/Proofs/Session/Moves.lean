import Resilience.Session.Command
import Resilience.Proofs.Bucket.Seats
import Resilience.Proofs.Session.Turns

/-!
# What commands are made of

A command that takes no time is a sequence of moves (`Session.perform_moves`): acts of the world
that need no hold and lose nobody a turn, a new task, a task that is marked to be taken apart, a
slot that is given back, and names that are given or forgotten. A move leads from a valid session
to another (`Move.runs`). So what every move keeps, every command keeps, and nobody has to go
through the commands again.
-/

namespace Resilience

/-- A single command that leaves the events to those who report them. -/
def Command.Plain : Command → Prop
  | batch _ => False
  | clearEvents => False
  | emit _ => False
  | _ => True

/-- A task that has done nothing yet. -/
def Job.Unbegun : Job → Prop
  | call _ _ _ call? => call? = none
  | acquire _ _ ticket? => ticket? = none
  | take _ _ ticket? => ticket? = none
  | refill _ timer? => timer? = none
  | sweep _ timer? => timer? = none

theorem Job.Unbegun.holds {job : Job} (h : job.Unbegun) : job.holds = 0 := by
  cases job <;> cases h <;> rfl

namespace Session

variable {s s' : Session} {w : World}

/-! ### Moves -/

/-- One move of a command. -/
inductive Move (s : Session) : Session → Prop
  | act {w : World} (h : ∀ H, Act ⟨s.world, H⟩ ⟨w, H⟩) (hready : s.world.ready <+: w.ready) :
      Move s { s with world := w }
  | spawn {job : Job} (h : job.Unbegun) (hfit : job.Fits s.world) : Move s (s.spawn job).2
  | cancel (name : String) : Move s (s.cancel name).2
  | release (name : String) : Move s (s.releasePermit name).2
  | rename (taskNames : Table String TaskId) (operations : Table String Operation)
      (limiters buckets caches : Table String ComponentId)
      (h : Valid { s with
        taskNames := taskNames
        operations := operations
        limiters := limiters
        buckets := buckets
        caches := caches }) :
      Move s { s with
        taskNames := taskNames
        operations := operations
        limiters := limiters
        buckets := buckets
        caches := caches }

/-- Moves one after the other. -/
abbrev Moves : Session → Session → Prop := Relation.ReflTransGen Move

/-! #### Moves lead from valid sessions to valid sessions -/

private theorem spawn_runs (hs : s.Valid) {job : Job} (hjob : job.Unbegun)
    (hfit : job.Fits s.world) : Runs 0 s (s.spawn job).2 := by
  have hidles : s.world.Idles (s.world.fresh.2.wake s.world.serial) := by
    unfold World.wake World.fresh
    split <;> constructor <;> first | rfl | exact Nat.le_succ _
  have hidle := idle_runs hs hidles
  have hgone : s.world.serial ∉ s.tasks.keys := fun h => absurd (hs.tasks_lt h) (lt_irrefl _)
  have hserial : s.world.serial < (s.world.fresh.2.wake s.world.serial).serial := by
    unfold World.wake World.fresh
    split <;> exact Nat.lt_succ_self _
  refine ⟨hidle.valid.setTask hserial (hfit.grow hidle.steps.grows), ?_⟩
  have hsame : (s.spawn job).2.holds = s.holds := by
    change tasksHold (s.tasks.set s.world.serial ⟨job, false⟩) + permitsHold s.permits = _
    rw [tasksHold_set hgone, hjob.holds, zero_add]
    rfl
  rw [scene, hsame]
  exact hidle.steps

private theorem cancel_runs (hs : s.Valid) (name : String) : Runs 0 s (s.cancel name).2 := by
  unfold cancel
  split
  · next id _ =>
    split
    · have hidle := idle_runs hs (World.wake_idles id s.world)
      -- A task that is marked keeps its job, so what it holds stays the same.
      have hsame : tasksHold (s.tasks.modify id fun t => { t with cancelled := true }) =
          tasksHold s.tasks :=
        congrArg List.sum (Table.map_modify (f := fun t => { t with cancelled := true })
          (g := fun p => p.2.job.holds) (fun _ _ => rfl) s.tasks)
      refine ⟨{ hidle.valid with
        tasks_nodup := by rw [Table.keys_modify]; exact hs.tasks_nodup
        tasks_lt := fun h => by
          rw [Table.keys_modify] at h
          exact hidle.valid.tasks_lt h
        tasks_fit := fun {other t} h => by
          rw [Table.get?_modify] at h
          split at h
          · obtain ⟨t', ht', rfl⟩ := Option.map_eq_some_iff.mp h
            have hfit := hidle.valid.tasks_fit ht'
            exact hfit
          · exact hidle.valid.tasks_fit h }, ?_⟩
      simp only [scene, holds, hsame]
      exact hidle.steps
    · exact .refl hs
  · exact .refl hs

/-- **A move is a sequence of acts.** -/
theorem Move.runs (hs : s.Valid) (h : s.Move s') : Runs 0 s s' := by
  cases h with
  | act h => exact .act hs h
  | spawn hjob hfit => exact spawn_runs hs hjob hfit
  | cancel name => exact cancel_runs hs name
  | release name => exact releasePermit_runs hs name
  | rename _ _ _ _ _ h => exact ⟨h, (Runs.refl hs).steps⟩

namespace Moves

theorem runs (hs : s.Valid) (h : Moves s s') : Runs 0 s s' := by
  induction h with
  | refl => exact .refl hs
  | tail _ hlast ih => exact ih.trans (hlast.runs ih.valid)

theorem valid (hs : s.Valid) (h : Moves s s') : s'.Valid := (h.runs hs).valid

/-- What every move keeps is kept by a sequence of them. -/
theorem keeps {motive : Session → Session → Prop} (hrefl : ∀ s, motive s s)
    (htrans : ∀ s s' s'', motive s s' → motive s' s'' → motive s s'')
    (hmove : ∀ s s', Move s s' → motive s s') (h : Moves s s') : motive s s' := by
  induction h with
  | refl => exact hrefl s
  | tail _ hlast ih => exact htrans _ _ _ ih (hmove _ _ hlast)

theorem of_act (h : ∀ H, Act ⟨s.world, H⟩ ⟨w, H⟩) (hready : s.world.ready <+: w.ready) :
    Moves s { s with world := w } := .single (.act h hready)

theorem act (h : Moves s s') (hact : ∀ H, Act ⟨s'.world, H⟩ ⟨w, H⟩)
    (hready : s'.world.ready <+: w.ready) : Moves s { s' with world := w } :=
  h.tail (.act hact hready)

end Moves

/-! ### Names -/

private theorem withName_moves {names : Table String ComponentId} {name : String}
    {act : ComponentId → Reply × Session}
    (h : ∀ id, names.get? name = some id → Moves s (act id).2) :
    Moves s (withName names name s act).2 := by
  unfold withName
  split
  · next id hid => exact h id hid
  · exact .refl

private theorem withCache_moves (s : Session) (name : String)
    {act : Cache Json → Reply × Cache Json}
    (h : ∀ c, Cache.Handled s.world.now c (act c).2) : Moves s (s.withCache name act).2 := by
  refine withName_moves fun id _ => ?_
  split
  · next c hc => exact .of_act (fun _ => .handleCache hc (h c)) List.prefix_rfl
  · exact .refl

private theorem spawnNamed_moves (hs : s.Valid) (name : String) {job : Job} (h : job.Unbegun)
    (hfit : job.Fits s.world) : Moves s (s.spawnNamed name job) := by
  have hspawn : Moves s (s.spawn job).2 := .single (.spawn h hfit)
  have hvalid := hspawn.valid hs
  exact hspawn.tail (.rename _ _ _ _ _ { hvalid with })

/-! ### Components -/

private theorem breaker_moves (s : Session) (name : String) (config? : Option Breaker.Config) :
    Moves s (s.breaker name config?).2 := by
  unfold breaker
  dsimp only
  split
  · exact .of_act (fun _ => .openBreaker ..) (World.Serves.openBreaker ..).ready
  · exact .refl

/-- A limiter gets a name in the session. -/
private theorem nameLimiter_moves (hs : s.Valid) {w : World} {id : ComponentId} (name : String)
    (h : Moves s { s with world := w }) (hid : w.limiters.has id = true) :
    Moves s { s with world := w, limiters := s.limiters.set name id } := by
  have hvalid := h.valid hs
  exact h.tail (.rename _ _ _ _ _ { hvalid with
    limiters_known := fun {n i} hn => by
      rw [Table.get?_set] at hn
      split at hn
      · exact Option.some.inj hn ▸ hid
      · exact hvalid.limiters_known hn })

private theorem createLimiter_moves (s : Session) (name : String) (config : Limiter.Config) :
    Moves s { s with world := (s.world.createLimiter name config).2 } ∧
      (s.world.createLimiter name config).2.limiters.has (s.world.createLimiter name config).1 =
        true := by
  refine ⟨.of_act (fun _ => .createLimiter ..) List.prefix_rfl, ?_⟩
  simp [World.createLimiter, World.fresh, Table.has, Table.get?_set]

private theorem openLimiter_moves (hs : s.Valid) (name : String) (config : Limiter.Config) :
    Moves s { s with world := (s.world.openLimiter name config).2 } ∧
      (s.world.openLimiter name config).2.limiters.has (s.world.openLimiter name config).1 =
        true := by
  unfold World.openLimiter
  split
  · next id hid => exact ⟨.refl, hs.limiterNames_known hid⟩
  · obtain ⟨hcreate, hknown⟩ := createLimiter_moves s name config
    exact ⟨hcreate.act (fun _ => .nameLimiter name hknown) List.prefix_rfl, hknown⟩

private theorem limiter_moves (hs : s.Valid) (name : String) (config? : Option Limiter.Config)
    (place : Place) : Moves s (s.limiter name config? place).2 := by
  have hend {opened : ComponentId × World}
      (h : Moves s { s with world := opened.2 } ∧ opened.2.limiters.has opened.1 = true) :=
    nameLimiter_moves hs name h.1 h.2
  unfold limiter
  cases place with
  | registry =>
    have h := hend (openLimiter_moves hs name (config?.getD s.world.settings.limiter))
    dsimp only
    split <;> exact h
  | own =>
    have h := hend (createLimiter_moves s name (config?.getD s.world.settings.limiter))
    dsimp only
    split <;> exact h

/-- A bucket gets a name in the session. -/
private theorem nameBucket_moves (hs : s.Valid) {w : World} {id : ComponentId} (name : String)
    (h : Moves s { s with world := w }) (hid : w.buckets.has id = true) :
    Moves s { s with world := w, buckets := s.buckets.set name id } := by
  have hvalid := h.valid hs
  exact h.tail (.rename _ _ _ _ _ { hvalid with
    buckets_known := fun {n i} hn => by
      rw [Table.get?_set] at hn
      split at hn
      · exact Option.some.inj hn ▸ hid
      · exact hvalid.buckets_known hn })

private theorem createBucket_moves (s : Session) (name : String) (config : Bucket.Config) :
    Moves s { s with world := (s.world.createBucket name config).2 } ∧
      (s.world.createBucket name config).2.buckets.has (s.world.createBucket name config).1 =
        true := by
  refine ⟨.of_act (fun _ => .createBucket ..) List.prefix_rfl, ?_⟩
  simp [World.createBucket, World.fresh, Table.has, Table.get?_set]

private theorem openBucket_moves (hs : s.Valid) (name : String) (config : Bucket.Config) :
    Moves s { s with world := (s.world.openBucket name config).2.2 } ∧
      (s.world.openBucket name config).2.2.buckets.has (s.world.openBucket name config).1 =
        true := by
  unfold World.openBucket
  split
  · next id hid => exact ⟨.refl, hs.bucketNames_known hid⟩
  · obtain ⟨hcreate, hknown⟩ := createBucket_moves s name config
    exact ⟨hcreate.act (fun _ => .nameBucket name hknown) List.prefix_rfl, hknown⟩

private theorem bucket_moves (hs : s.Valid) (name : String) (config? : Option Bucket.Config)
    (place : Place) : Moves s (s.bucket name config? place).2 := by
  have hend {opened : ComponentId × Bool × World} (h : Moves s { s with world := opened.2.2 } ∧
      opened.2.2.buckets.has opened.1 = true) :
      Moves s (if opened.2.1 then
        (spawn (.refill opened.1 none)
          { s with world := opened.2.2, buckets := s.buckets.set name opened.1 }).2
        else { s with world := opened.2.2, buckets := s.buckets.set name opened.1 }) := by
    have hname := nameBucket_moves hs name h.1 h.2
    split
    · exact hname.tail (.spawn rfl trivial)
    · exact hname
  unfold bucket
  cases place with
  | registry =>
    have h := hend (openBucket_moves hs name (config?.getD s.world.settings.bucket))
    dsimp only
    split <;> exact h
  | own =>
    have h := @hend (_, true, _)
      (createBucket_moves s name (config?.getD s.world.settings.bucket))
    dsimp only
    split <;> exact h

private theorem dropBucket_moves (hs : s.Valid) (name : String) :
    Moves s { s with buckets := s.buckets.erase name } :=
  .single (.rename _ _ _ _ _ { hs with
    buckets_known := fun {n i} hn => by
      rw [Table.get?_erase] at hn
      split at hn
      · cases hn
      · exact hs.buckets_known hn })

private theorem nameCache_moves (hs : s.Valid) (caches : Table String ComponentId) :
    Moves s { s with caches := caches } := .single (.rename _ _ _ _ _ { hs with })

private theorem cache_moves (hs : s.Valid) (name : String) (kind : CacheKind) :
    Moves s (s.cache name kind).2 := by
  have hcreate (config : Cache.Config) (sweeping : Bool) :
      Moves s { s with
        world := (s.world.createCache config sweeping).2
        caches := s.caches.set name (s.world.createCache config sweeping).1 } := by
    have h : Moves s { s with world := (s.world.createCache config sweeping).2 } :=
      .of_act (fun _ => .createCache ..) List.prefix_rfl
    exact h.trans (nameCache_moves (h.valid hs) _)
  unfold cache
  cases kind with
  | plain config => exact hcreate config false
  | swept config => exact (hcreate config true).tail (.spawn rfl trivial)
  | usual => exact (hcreate s.world.settings.cache true).tail (.spawn rfl trivial)

/-- Dissolves every bucket of the registry. -/
private theorem shutDown_moves (s : Session) : Moves s { s with world := s.world.shutDown } := by
  unfold World.shutDown
  have hstart : Moves s { s with world := s.world } := .refl
  revert hstart
  generalize s.world.bucketNames.values = ids
  suffices ∀ w, Moves s { s with world := w } → Moves s { s with
      world := ids.foldl (fun w id => w.shutDownBucket id) w } from this s.world
  induction ids with
  | nil => exact fun w h => h
  | cons id rest ih =>
    exact fun w h => ih _ (h.act (fun _ => .shutDownBucket id)
      (w.ready_prefix_shutDownBucket id))

/-! ### Operations -/

private theorem wrap_moves (hs : s.Valid) {id : String} {layer : Layer} {op op' : Operation}
    (hop : op.Fits s.world) (h : s.wrap id layer op = .ok (op', s')) :
    Moves s s' ∧ op'.Fits s'.world := by
  have hopen (name : String) : Moves s { s with
      world := s.world.openBreaker name s.world.settings.breaker } :=
    .of_act (fun _ => .openBreaker ..) (World.Serves.openBreaker ..).ready
  have hthere (name : String) (config : Breaker.Config) :
      (s.world.openBreaker name config).breakers.has name = true := by
    unfold World.openBreaker
    split
    · assumption
    · simp [Table.has, Table.get?_set]
  -- Two layers open their breaker. The others find their component by a name of the session, which
  -- leads to one that is there, or do nothing.
  cases layer with
  | retry policy => cases h; exact ⟨.refl, hop⟩
  | usualRetry judge? => cases h; exact ⟨.refl, hop⟩
  | breaker name =>
    cases h
    exact ⟨hopen name, hthere name _, hop.grow ((hopen name).runs hs).steps.grows⟩
  | fallback name turns =>
    cases h
    have hsource := (hopen name).act (fun _ => .createSource (id ++ "#fb") turns)
      List.prefix_rfl
    exact ⟨hsource, hthere name _, hop.grow (hsource.runs hs).steps.grows, trivial⟩
  | limit name =>
    simp only [wrap] at h
    split at h
    · next limiter hlimiter => cases h; exact ⟨.refl, hs.limiters_known hlimiter, hop⟩
    · cases h
  | rate name =>
    simp only [wrap] at h
    split at h
    · next bucket hbucket => cases h; exact ⟨.refl, hs.buckets_known hbucket, hop⟩
    · cases h
  | timeout limit name => cases h; exact ⟨.refl, hop⟩
  | cached cache keyStart ttl =>
    simp only [wrap] at h
    split at h
    · cases h; exact ⟨.refl, hop⟩
    · cases h

private theorem wrapAll_moves (hs : s.Valid) {id : String} {layers : List Layer}
    {op op' : Operation} (hop : op.Fits s.world) (h : s.wrapAll id layers op = .ok (op', s')) :
    Moves s s' ∧ op'.Fits s'.world := by
  induction layers generalizing s op with
  | nil => cases h; exact ⟨.refl, hop⟩
  | cons layer rest ih =>
    simp only [wrapAll] at h
    split at h
    · next hwrap =>
      obtain ⟨hfirst, hfit⟩ := wrap_moves hs hop hwrap
      obtain ⟨hrest, hfit'⟩ := ih (hfirst.valid hs) hfit h
      exact ⟨hfirst.trans hrest, hfit'⟩
    · cases h

theorem Valid.install (hs : s.Valid) (name : String) {op : Operation} (hop : op.Fits s.world) :
    { s with operations := s.operations.set name op }.Valid :=
  { hs with
    operations_fit := fun {n o} hn => by
      rw [Table.get?_set] at hn
      split at hn
      · exact Option.some.inj hn ▸ hop
      · exact hs.operations_fit hn }

private theorem define_moves (hs : s.Valid) (id : String) (turns : List Turn)
    (layers : List Layer) : Moves s (s.define id turns layers).2 := by
  have hsource : Moves s { s with world := (s.world.createSource id turns).2 } :=
    .of_act (fun _ => .createSource id turns) List.prefix_rfl
  unfold define
  dsimp only
  split
  · next op s' hwrap =>
    have hfresh : (Operation.source (s.world.createSource id turns).1).Fits
        (s.world.createSource id turns).2 := trivial
    obtain ⟨hwrapped, hfit⟩ := wrapAll_moves (hsource.valid hs) hfresh hwrap
    have h : Moves s s' := hsource.trans hwrapped
    exact h.tail (.rename _ _ _ _ _ ((h.valid hs).install id hfit))
  · exact .refl

/-! ### All commands -/

/-- **A command that takes no time is a sequence of moves.** -/
theorem perform_moves (hs : s.Valid) (calendar : Diagnostics.Calendar) {command : Command}
    (hp : command.Plain) (htime : ∀ ms, command ≠ .advance ms) :
    Moves s (s.perform calendar command).2 := by
  match command with
  | .advance ms => exact absurd rfl (htime ms)
  | .batch _ | .clearEvents | .emit _ => exact hp.elim
  | .settings | .policy | .events | .status _ | .breakers | .permit _ | .finished _ => exact .refl
  | .shutDown => exact shutDown_moves s
  | .breaker name config? => exact breaker_moves s name config?
  | .reset name =>
    exact .of_act (fun _ => .resetBreaker name) (World.Serves.resetBreaker ..).ready
  | .bucket name config? place => exact bucket_moves hs name config? place
  | .bucketLevel name | .limiterLevel name =>
    refine withName_moves fun id _ => ?_
    split <;> exact .refl
  | .refill name =>
    exact withName_moves fun id _ =>
      .of_act (fun _ => .refillBucket id) (World.Serves.refillBucket ..).ready
  | .bucketShutDown name =>
    exact withName_moves fun id _ =>
      .of_act (fun _ => .shutDownBucket id) (s.world.ready_prefix_shutDownBucket id)
  | .bucketDrop name => exact dropBucket_moves hs name
  | .take name id =>
    exact withName_moves fun bucket hbucket =>
      spawnNamed_moves hs id rfl (hs.buckets_known hbucket)
  | .limiter name config? place => exact limiter_moves hs name config? place
  | .acquire name id =>
    exact withName_moves fun limiter hlimiter =>
      spawnNamed_moves hs id rfl (hs.limiters_known hlimiter)
  | .release id => exact .single (.release id)
  | .define id turns layers => exact define_moves hs id turns layers
  | .call op id arg =>
    simp only [perform]
    split
    · next o ho => exact spawnNamed_moves hs id rfl (hs.operations_fit ho)
    · exact .refl
  | .cancel id => exact .single (.cancel id)
  | .cache name kind => exact cache_moves hs name kind
  | .cacheClone name other => exact withName_moves fun id _ => nameCache_moves hs _
  | .cacheDrop name => exact nameCache_moves hs _
  | .set cache key value ttl? =>
    refine withName_moves fun id _ => ?_
    split
    · exact .of_act (fun _ => .writeCache ..) (World.Serves.writeCache ..).ready
    · exact .refl
  | .get cache key => exact withCache_moves s cache fun _ => .get key
  | .has cache key => exact withCache_moves s cache fun _ => .has key
  | .delete cache key => exact withCache_moves s cache fun _ => .delete key
  | .clear cache => exact withCache_moves s cache fun _ => .clear
  | .cacheShutDown cache => exact withCache_moves s cache fun _ => .shutDown
  | .statistics cache => exact withCache_moves s cache fun _ => .look
  | .sweep cache => exact withCache_moves s cache fun _ => .sweep
  | .request cache request => exact withName_moves fun _ _ => .refl

end Session

end Resilience
