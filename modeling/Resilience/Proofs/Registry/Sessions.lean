import Resilience.Proofs.Registry.Isolation
import Resilience.Proofs.Session.Timely

/-!
# The registry in sessions

What is known of runs of requests holds of sessions in three ways.

For breakers every act of a scene is a request or nothing, so whatever happens in a session, with
calls of any shape, is a run of requests to them (`Scene.Reachable.exists_asked`).

However a session goes on, the registry leads to the components that it led to before, with the
configurations that they had (`Session.Later.seen`). This needs that components keep their numbers
and configurations (`Scene.Later.limiter` and its siblings), and that names are given and never
taken away (`World.KeepsNames`).

The commands that mention a component, and the one that closes a breaker by hand, are requests
(`Session.perform_breaker` and its siblings).
-/

namespace Resilience

open Registry

/-! ### Runs of a session are runs of requests -/

/-- The worlds have the same breakers and have told the same about each. -/
structure World.SameBreakers (w v : World) : Prop where
  recording : v.recording = w.recording
  breakers (name : String) : v.breakers.get? name = w.breakers.get? name
  told (name : String) : v.told name = w.told name

namespace World.SameBreakers

variable {w w' v v' : World}

theorem refl (w : World) : w.SameBreakers w := ⟨rfl, fun _ => rfl, fun _ => rfl⟩

/-- The same move of a breaker in both worlds. -/
theorem moves (h : w.SameBreakers v) {name : String} {c : Component Breaker.Config Breaker}
    {event? : Option Event} (hw : w.BreakerMoves w' name c event?)
    (hv : v.BreakerMoves v' name c event?) : w'.SameBreakers v' where
  recording := hv.recording.trans (h.recording.trans hw.recording.symm)
  breakers other := by rw [hv.breakers, hw.breakers, h.breakers]
  told other := by rw [hv.told, hw.told, h.told, h.recording]

/-- A use of a breaker moves it in one world as it was moved in the other. -/
theorem use (h : w.SameBreakers v) {name : String} {c : Component Breaker.Config Breaker}
    (hc : w.breakers.get? name = some c) (use : BreakerUse)
    (hw : w.BreakerMoves w' name { c with state := (use.turn name c w.now).2 }
      (use.turn name c w.now).1) :
    ∃ asked, w'.SameBreakers (run asked v).2 := by
  let a : Asked := ⟨w.now, w.serial, .breaker name use⟩
  have hmet : w.SameBreakers (a.meets v) := ⟨h.recording, h.breakers, h.told⟩
  obtain ⟨answer, hserve⟩ := use.serve_of_some name c w.now
  have hv := BreakerAct.moves_report (w := a.meets v)
    { c with state := (use.turn name c w.now).2 } (use.turn_change name c w.now)
  refine ⟨[a], hmet.moves hw ?_⟩
  have hrun : (run [a] v).2 = (use.serve name (a.meets v)).2 := rfl
  rw [hrun, hserve (a.meets v) rfl ((h.breakers name).trans hc)]
  exact hv

end World.SameBreakers

/-- **An act is, for breakers, a request or nothing.** -/
theorem BreakerAct.exists_asked {sc sc' : Scene} (hact : BreakerAct sc sc') {v : World}
    (h : sc.world.SameBreakers v) : ∃ asked, sc'.world.SameBreakers (run asked v).2 := by
  cases hact with
  | other hquiet =>
    exact ⟨[], h.recording.trans hquiet.recording.symm,
      fun name => by rw [run, h.breakers, hquiet.breakers],
      fun name => by rw [run, h.told, hquiet.told]⟩
  | clock instant => exact ⟨[], h.recording, h.breakers, h.told⟩
  | @create w _ _ name config hnone hmoves =>
    let a : Asked := ⟨w.now, w.serial, .openBreaker name (some config)⟩
    have hmet : w.SameBreakers (a.meets v) := ⟨h.recording, h.breakers, h.told⟩
    have hrun : (run [a] v).2 = { a.meets v with
        breakers := (a.meets v).breakers.set name ⟨name, config, {}⟩ } := by
      have hv : (a.meets v).breakers.get? name = none := (h.breakers name).trans hnone
      have hserve : (run [a] v).2 = (a.meets v).openBreaker name config := rfl
      rw [hserve, World.openBreaker, Table.has, hv, Option.isSome_none, if_neg Bool.false_ne_true]
    refine ⟨[a], hmet.moves hmoves ?_⟩
    rw [hrun]
    exact ⟨rfl, rfl, fun other => Table.get?_set .., fun other => by simp [World.told]⟩
  | enter hc hmoves => exact h.use hc .enter hmoves
  | @record _ _ _ _ _ probe good hc hmoves =>
    cases good with
    | true => exact h.use hc (.settle probe (.ok .null)) hmoves
    | false => exact h.use hc (.settle probe (.error (.failed ""))) hmoves
  | @forgo _ _ _ _ _ probe hc hmoves => exact h.use hc (.forgo probe) hmoves
  | reset hc hmoves => exact h.use hc .reset hmoves

/-- **What happens in a scene is, for breakers, a run of requests.** -/
theorem Scene.Reachable.exists_asked {sc sc' : Scene} (h : sc.Reachable) (hsteps : Steps sc sc') :
    ∃ asked, sc'.world.SameBreakers (run asked sc.world).2 := by
  induction hsteps with
  | refl => exact ⟨[], .refl _⟩
  | tail hfirst hact ih =>
    obtain ⟨asked, hsame⟩ := ih
    obtain ⟨more, hmore⟩ := (hact.onBreakers (h.steps hfirst).breakersKnown).exists_asked hsame
    exact ⟨asked ++ more, by rwa [run_append]⟩

/-! ### What a session keeps -/

/-- However a scene goes on, its breakers keep their names and configurations. -/
theorem Scene.Later.breaker {sc sc' : Scene} (h : sc.Reachable) (hlater : sc.Later sc')
    {name : String} {c : Component Breaker.Config Breaker}
    (hc : sc.world.breakers.get? name = some c) :
    ∃ b, sc'.world.breakers.get? name = some { c with state := b } := by
  induction hlater with
  | refl => exact ⟨c.state, hc⟩
  | act hfirst hact ih =>
    obtain ⟨b, hb⟩ := ih
    obtain ⟨b', hb', -⟩ :=
      Breaker.Shows.act (hact.onBreakers (h.later hfirst).breakersKnown) hb
    exact ⟨b', hb'⟩
  | outside _ _ _ ih => exact ih

/-- However a scene goes on, its limiters keep their names and configurations. -/
theorem Scene.Later.limiter {sc sc' : Scene} (h : sc.Reachable) (hlater : sc.Later sc')
    {id : ComponentId} {c : Component Limiter.Config Limiter}
    (hc : sc.world.limiters.get? id = some c) :
    ∃ l, sc'.world.limiters.get? id = some { c with state := l } := by
  induction hlater with
  | refl => exact ⟨c.state, hc⟩
  | act hfirst hact ih =>
    obtain ⟨l, hl⟩ := ih
    obtain ⟨l', hl', -⟩ :=
      Limiter.Shows.steps (Limiter.numbered_of_reachable (h.later hfirst)) (.single hact) hl
    exact ⟨l', hl'⟩
  | outside _ _ _ ih => exact ih

/-- However a scene goes on, its buckets keep their names and configurations. -/
theorem Scene.Later.bucket {sc sc' : Scene} (h : sc.Reachable) (hlater : sc.Later sc')
    {id : ComponentId} {c : Component Bucket.Config Bucket}
    (hc : sc.world.buckets.get? id = some c) :
    ∃ b, sc'.world.buckets.get? id = some { c with state := b } := by
  induction hlater with
  | refl => exact ⟨c.state, hc⟩
  | act hfirst hact ih =>
    obtain ⟨b, hb⟩ := ih
    obtain ⟨b', hb', -⟩ := Bucket.Turned.of_act (h.later hfirst).bucketsNumbered hact.onBuckets hb
    exact ⟨b', hb'⟩
  | outside _ _ _ ih => exact ih

/-- The registry keeps what it has names for. -/
structure World.KeepsNames (w w' : World) : Prop where
  limiters {name : String} {id : ComponentId} :
    w.limiterNames.get? name = some id → w'.limiterNames.get? name = some id
  buckets {name : String} {id : ComponentId} :
    w.bucketNames.get? name = some id → w'.bucketNames.get? name = some id

namespace World.KeepsNames

variable {w w' w'' : World}

theorem of_eq (hlimiters : w'.limiterNames = w.limiterNames)
    (hbuckets : w'.bucketNames = w.bucketNames) : w.KeepsNames w' :=
  ⟨fun h => hlimiters ▸ h, fun h => hbuckets ▸ h⟩

theorem trans (h : w.KeepsNames w') (h' : w'.KeepsNames w'') : w.KeepsNames w'' :=
  ⟨fun hname => h'.limiters (h.limiters hname), fun hname => h'.buckets (h.buckets hname)⟩

end World.KeepsNames

namespace Session

variable {s s' : Session}

theorem turn_keepsNames (id : TaskId) (s : Session) : s.world.KeepsNames (s.turn id).world := by
  cases ht : s.tasks.get? id with
  | none =>
    rw [turn_of_not_mem ((Table.get?_eq_none_iff ..).mp ht)]
    exact .of_eq rfl rfl
  | some t =>
    have hstable := (turn_spends s id ht).stable
    exact .of_eq hstable.limiterNames hstable.bucketNames

theorem advance_keepsNames (s : Session) (ms : Nat) :
    s.world.KeepsNames (s.advance ms).world := by
  -- Only turns could touch the names, and they do not; passing time and waking leave them alone.
  refine advance_induct (motive := fun s' => s.world.KeepsNames s'.world)
    (fun {s₁} id rest _ h => ?_) (fun _ h => h.trans (.of_eq rfl rfl))
    (fun task h => h.trans (.of_eq (World.wake_idles task _).limiterNames
      (World.wake_idles task _).bucketNames)) (.of_eq rfl rfl) ms
  have hready : s.world.KeepsNames (s₁.withReady rest).world := h.trans (.of_eq rfl rfl)
  exact hready.trans (turn_keepsNames id _)

theorem Happens.keepsNames (h : s.Happens s') (hs : s.Reachable) :
    s.world.KeepsNames s'.world := by
  cases h with
  | @perform calendar command hp =>
    by_cases htime : ∃ ms, command = .advance ms
    · obtain ⟨ms, rfl⟩ := htime
      exact advance_keepsNames s ms
    · have hentrusts := hs.perform_entrusts calendar hp fun ms heq => htime ⟨ms, heq⟩
      exact ⟨hentrusts.limiterNames, hentrusts.bucketNames⟩
  | install | pass => exact .of_eq rfl rfl
  | turn id => exact turn_keepsNames id s
  | idle hidles => exact .of_eq hidles.limiterNames hidles.bucketNames

theorem Later.keepsNames (h : s.Later s') (hs : s.Reachable) : s.world.KeepsNames s'.world := by
  induction h with
  | refl => exact .of_eq rfl rfl
  | happens hlater hnext ih => exact ih.trans (hnext.keepsNames (hlater.reachable hs))
  | outside _ _ _ ih => exact ih.trans (.of_eq rfl rfl)

/-- **However a session goes on, the registry leads to the components that it led to**, with the
configurations that they had. -/
theorem Later.seen (h : s.Later s') (hs : s.Reachable) {key : Key} {config : Configuration}
    (hconfig : (s.world.seen key).config? = some config) :
    (s'.world.seen key).config? = some config ∧
      (s'.world.seen key).id? = (s.world.seen key).id? := by
  have hscene := hs.valid_scene.2
  have hlater := h.scene hs
  have hnames := h.keepsNames hs
  obtain ⟨kind, name⟩ := key
  cases kind with
  | breaker =>
    obtain ⟨c, hc, heq⟩ := Option.map_eq_some_iff.mp hconfig
    obtain ⟨b, hb⟩ := hlater.breaker hscene hc
    have hb : s'.world.breakers.get? name = some { c with state := b } := hb
    exact ⟨Option.map_eq_some_iff.mpr ⟨_, hb, heq⟩, rfl⟩
  | limiter =>
    obtain ⟨c, hc, heq⟩ := Option.map_eq_some_iff.mp hconfig
    obtain ⟨id, hid, hcomponent⟩ := Option.bind_eq_some_iff.mp hc
    obtain ⟨l, hl⟩ := hlater.limiter hscene hcomponent
    have hid' := hnames.limiters hid
    exact ⟨Option.map_eq_some_iff.mpr
      ⟨_, Option.bind_eq_some_iff.mpr ⟨id, hid', hl⟩, heq⟩, hid'.trans hid.symm⟩
  | bucket =>
    obtain ⟨c, hc, heq⟩ := Option.map_eq_some_iff.mp hconfig
    obtain ⟨id, hid, hcomponent⟩ := Option.bind_eq_some_iff.mp hc
    obtain ⟨b, hb⟩ := hlater.bucket hscene hcomponent
    have hid' := hnames.buckets hid
    exact ⟨Option.map_eq_some_iff.mpr
      ⟨_, Option.bind_eq_some_iff.mpr ⟨id, hid', hb⟩, heq⟩, hid'.trans hid.symm⟩

/-! ### Commands are requests -/

variable (s) (calendar : Diagnostics.Calendar) (name : String)

theorem perform_breaker (config? : Option Breaker.Config) : ∃ c,
    ((Request.openBreaker name config?).serve s.world).1 = .shown (.breaker (some c)) ∧
      s.perform calendar (.breaker name config?) = (.breaker c.config (c.state.status name),
        { s with world := ((Request.openBreaker name config?).serve s.world).2 }) := by
  have hthere : ∃ c, (s.world.openBreaker name
      (config?.getD s.world.settings.breaker)).breakers.get? name = some c := by
    unfold World.openBreaker
    split
    · next hhas => exact Option.isSome_iff_exists.mp hhas
    · exact ⟨_, by rw [Table.get?_set, if_pos rfl]⟩
  obtain ⟨c, hc⟩ := hthere
  refine ⟨c, ?_, ?_⟩
  · simp only [Request.serve, World.seen, hc]
  · simp only [Session.perform, Session.breaker, hc]
    rfl

theorem perform_reset : s.perform calendar (.reset name) =
    (.truth (s.world.resetBreaker name).1,
      { s with world := ((Request.breaker name .reset).serve s.world).2 }) ∧
    ((Request.breaker name .reset).serve s.world).1 = .truth (s.world.resetBreaker name).1 :=
  ⟨rfl, rfl⟩

variable {s}

theorem Reachable.perform_limiter (h : s.Reachable) (config? : Option Limiter.Config) : ∃ id c,
    ((Request.openLimiter name config?).serve s.world).1 = .shown (.limiter (some id) (some c)) ∧
      s.perform calendar (.limiter name config? .registry) =
        (.limiter c.name c.config c.state.active c.state.queued,
          { s with
            world := ((Request.openLimiter name config?).serve s.world).2
            limiters := s.limiters.set name id }) := by
  have hthere : ∃ id c, (s.world.openLimiter name (config?.getD s.world.settings.limiter)).1 = id ∧
      (s.world.openLimiter name
        (config?.getD s.world.settings.limiter)).2.limiterNames.get? name = some id ∧
      (s.world.openLimiter name
        (config?.getD s.world.settings.limiter)).2.limiters.get? id = some c := by
    unfold World.openLimiter
    split
    · next id hid =>
      obtain ⟨c, hc⟩ := Option.isSome_iff_exists.mp (h.valid_scene.1.limiterNames_known hid)
      exact ⟨id, c, rfl, hid, hc⟩
    · exact ⟨s.world.serial, ⟨name, config?.getD s.world.settings.limiter, {}⟩, rfl,
        (Table.get?_set ..).trans (if_pos rfl), (Table.get?_set ..).trans (if_pos rfl)⟩
  obtain ⟨id, c, hid, hname, hc⟩ := hthere
  refine ⟨id, c, ?_, ?_⟩
  · simp only [Request.serve, World.seen, hname, Shelf.behind?, World.limiterShelf,
      Option.bind_some, hc]
  · simp only [Session.perform, Session.limiter, hid, hc, Request.serve]

theorem Reachable.perform_bucket (h : s.Reachable) (config? : Option Bucket.Config) : ∃ id c,
    ((Request.openBucket name config?).serve s.world).1 = .shown (.bucket (some id) (some c)) ∧
      (s.perform calendar (.bucket name config? .registry)).1 =
        .bucket c.name c.config c.state.tokens c.state.queued ∧
      (s.perform calendar (.bucket name config? .registry)).2.buckets.get? name = some id ∧
      ∀ key, (s.perform calendar (.bucket name config? .registry)).2.world.seen key =
        ((Request.openBucket name config?).serve s.world).2.seen key := by
  have hspawned {t : Session} {job : Job} (key : Key) :
      (t.spawn job).2.world.seen key = t.world.seen key := by
    have hidles := spawn_idles t job
    exact World.seen_congr hidles.breakers hidles.limiters hidles.limiterNames hidles.buckets
      hidles.bucketNames
  -- A bucket that is created comes with a task for its refills, and a task that is begun changes
  -- nothing that a key leads to.
  cases hname : s.world.bucketNames.get? name with
  | some id =>
    obtain ⟨c, hc⟩ := Option.isSome_iff_exists.mp (h.valid_scene.1.bucketNames_known hname)
    have hopen (config : Bucket.Config) :
        s.world.openBucket name config = (id, false, s.world) := by
      simp only [World.openBucket, hname]
    refine ⟨id, c, ?_, ?_, ?_, fun key => ?_⟩
    · simp only [Request.serve, hopen, World.seen, hname, Shelf.behind?, World.bucketShelf,
        Option.bind_some, hc]
    all_goals simp only [Session.perform, Session.bucket, hopen, Bool.false_eq_true, if_false, hc,
      Table.get?_set, if_true, Request.serve]
  | none =>
    let config := config?.getD s.world.settings.bucket
    let w : World := { (s.world.createBucket name config).2 with
      bucketNames := s.world.bucketNames.set name s.world.serial }
    have hopen : s.world.openBucket name config = (s.world.serial, true, w) := by
      simp only [World.openBucket, hname]
      rfl
    have hbucket : w.buckets.get? s.world.serial =
        some ⟨name, config, .full config s.world.now⟩ := by
      simp only [w, World.createBucket, World.fresh, Table.get?_set, if_true]
    let t : Session := { s with world := w, buckets := s.buckets.set name s.world.serial }
    have hafter : s.perform calendar (.bucket name config? .registry) =
        (.bucket name config config.capacity 0, (t.spawn (.refill s.world.serial none)).2) := by
      have hbucket' : (t.spawn (.refill s.world.serial none)).2.world.buckets.get?
          s.world.serial = some ⟨name, config, .full config s.world.now⟩ := by
        rw [(spawn_idles ..).buckets]
        exact hbucket
      simp only [Session.perform, Session.bucket]
      rw [hopen]
      simp only [if_true]
      rw [hbucket']
      rfl
    refine ⟨s.world.serial, ⟨name, config, .full config s.world.now⟩, ?_, ?_, ?_, fun key => ?_⟩
    · have hnamed : w.bucketNames.get? name = some s.world.serial := by
        simp only [w, Table.get?_set, if_true]
      simp only [Request.serve]
      rw [hopen]
      simp only [World.seen, hnamed, Shelf.behind?, World.bucketShelf, Option.bind_some, hbucket]
    · rw [hafter]
      rfl
    · rw [hafter]
      exact (Table.get?_set ..).trans (if_pos rfl)
    · rw [hafter, hspawned]
      simp only [Request.serve]
      rw [hopen]

end Session

end Resilience
