import Resilience.Proofs.Registry.Sessions

/-!
# Names of the registry

A component belongs to its key. Whatever is asked of the others, what is asked of it is answered as
if nothing else had been asked, at the same times, and comes to the same (`Registry.Isolated`): the
others may have other names, or the same name and be of another kind.

It is created by the first request that mentions it, keeps the configuration of that request, and
every later mention leads to it (`Registry.FirstWins`).
-/

namespace Resilience

namespace Registry

/-- **The component behind a key is as if it were alone**: a run answers the requests about it,
leaves it and tells of it as the run of these requests does. -/
def Isolated (key : Key) (asked : List Asked) (w : World) : Prop :=
  heard key (run asked w).1 = (run (only key asked) w).1 ∧
    (run asked w).2.seen key = (run (only key asked) w).2.seen key ∧
    (run asked w).2.toldOf key = (run (only key asked) w).2.toldOf key

/-- **The first configuration wins.** After a run the component behind a key is there if it was
mentioned, and has the configuration of its first mention. Every mention shows that component, with
that configuration; the next one changes nothing. -/
structure FirstWins (key : Key) (asked : List Asked) (w : World) : Prop where
  config : ((run asked w).2.seen key).config? =
    asked.findSome? (Asked.mentions? w.settings key)
  shared {a : Asked} {answer : Answer} {config : Configuration} :
    (a, answer) ∈ (run asked w).1 → a.mentions? w.settings key = some config →
      ∃ seen, answer = .shown seen ∧
        seen.config? = asked.findSome? (Asked.mentions? w.settings key) ∧
        seen.id? = ((run asked w).2.seen key).id?
  ignored {a : Asked} {config there : Configuration} :
    a.mentions? w.settings key = some config →
      asked.findSome? (Asked.mentions? w.settings key) = some there →
      (a.serve (run asked w).2).2 = a.meets (run asked w).2

/-- The commands that mention a component of the registry and the one that closes a breaker by hand,
as requests. -/
structure Commanded (s : Session) (calendar : Diagnostics.Calendar) (name : String) : Prop where
  breaker (config? : Option Breaker.Config) : ∃ c,
    ((Request.openBreaker name config?).serve s.world).1 = .shown (.breaker (some c)) ∧
      s.perform calendar (.breaker name config?) = (.breaker c.config (c.state.status name),
        { s with world := ((Request.openBreaker name config?).serve s.world).2 })
  reset : s.perform calendar (.reset name) = (.truth (s.world.resetBreaker name).1,
      { s with world := ((Request.breaker name .reset).serve s.world).2 }) ∧
    ((Request.breaker name .reset).serve s.world).1 = .truth (s.world.resetBreaker name).1
  limiter (config? : Option Limiter.Config) : ∃ id c,
    ((Request.openLimiter name config?).serve s.world).1 = .shown (.limiter (some id) (some c)) ∧
      s.perform calendar (.limiter name config? .registry) =
        (.limiter c.name c.config c.state.active c.state.queued,
          { s with
            world := ((Request.openLimiter name config?).serve s.world).2
            limiters := s.limiters.set name id })
  bucket (config? : Option Bucket.Config) : ∃ id c,
    ((Request.openBucket name config?).serve s.world).1 = .shown (.bucket (some id) (some c)) ∧
      (s.perform calendar (.bucket name config? .registry)).1 =
        .bucket c.name c.config c.state.tokens c.state.queued ∧
      (s.perform calendar (.bucket name config? .registry)).2.buckets.get? name = some id ∧
      ∀ key, (s.perform calendar (.bucket name config? .registry)).2.world.seen key =
        ((Request.openBucket name config?).serve s.world).2.seen key

variable {key : Key} {asked : List Asked}

theorem isolated {w : World} (hapart : KeepsApart key w asked) : Isolated key asked w := by
  obtain ⟨hheard, halike⟩ := run_only (.refl key w) hapart
  exact ⟨hheard, halike.seen.symm, halike.told.symm⟩

theorem listed_new (settings : Settings) (recording : Bool) :
    World.Listed { settings := settings, recording := recording } :=
  ⟨fun _ _ h => (nomatch h), fun _ _ h => (nomatch h)⟩

/-- A new registry has nothing to keep apart from, so it is enough that numbers rise. -/
theorem keepsApart_new (settings : Settings) (recording : Bool)
    (h : key.kind = .breaker ∨ asked.Pairwise fun a b => a.number < b.number) :
    KeepsApart key { settings := settings, recording := recording } asked :=
  h.imp_right fun hsorted =>
    ⟨listed_new settings recording, hsorted, fun _ _ => Nat.zero_le _⟩

theorem config?_run_new (settings : Settings) (recording : Bool)
    (h : key.kind = .breaker ∨ asked.Pairwise fun a b => a.number < b.number) :
    ((run asked { settings := settings, recording := recording }).2.seen key).config? =
      asked.findSome? (Asked.mentions? settings key) := by
  -- A new registry has no component of any kind, so the first mention is the one that counts.
  have hnone :
      (World.seen { settings := settings, recording := recording } key).config? = none := by
    obtain ⟨kind, name⟩ := key
    cases kind <;> rfl
  rw [config?_run (keepsApart_new settings recording h), hnone, Option.none_or]

theorem firstWins (settings : Settings) (recording : Bool)
    (h : key.kind = .breaker ∨ asked.Pairwise fun a b => a.number < b.number) :
    FirstWins key asked { settings := settings, recording := recording } := by
  have hconfig := config?_run_new settings recording h
  refine ⟨hconfig, fun hmem hmention => ?_, fun hmention hthere => ?_⟩
  · obtain ⟨seen, hshown, hsame, hid⟩ :=
      shown_of_mem_run (keepsApart_new settings recording h) hmem hmention
    exact ⟨seen, hshown, hsame.trans hconfig, hid⟩
  · rw [← settings_run asked] at hmention
    exact serve_of_mentions hmention (hconfig.trans hthere)

/-- After a run with rising numbers, a number leads to one key of its kind. -/
theorem key_eq_of_run (settings : Settings) (recording : Bool)
    (h : asked.Pairwise fun a b => a.number < b.number) {key' : Key} {id : ComponentId}
    (hkind : key.kind = key'.kind)
    (hid : ((run asked { settings := settings, recording := recording }).2.seen key).id? = some id)
    (hid' :
      ((run asked { settings := settings, recording := recording }).2.seen key').id? = some id) :
    key = key' := by
  have hapart : KeepsApart ⟨.limiter, key.name⟩
      { settings := settings, recording := recording } (asked ++ []) :=
    keepsApart_new settings recording (.inr (by rwa [List.append_nil]))
  have hlisted := (hapart.right.resolve_left (by simp)).1
  exact key_eq_of_id? hlisted hkind hid hid'

/-- **Components of the registry are isolated, and the first configuration wins.** A run of requests
to a new registry, with clock readings in any order, is isolated and lets the first mention win, for
every breaker. For limiters and buckets it is enough that the numbers, by which they are found, are
given out in rising order; then none of them has two names. A status and a reset never create a
breaker.

The commands of a session are such requests. However a session goes on, with calls of any shape, its
breakers come to what the requests about them alone lead to, and whatever the registry leads to, it
leads to for ever, with the same configuration. -/
theorem isolated_and_first_wins :
    (∀ (settings : Settings) (recording : Bool) (asked : List Asked),
      let new : World := { settings := settings, recording := recording }
      let after := (run asked new).2
      (∀ key : Key, (key.kind = .breaker ∨ asked.Pairwise fun a b => a.number < b.number) →
        Isolated key asked new ∧ FirstWins key asked new) ∧
      ((asked.Pairwise fun a b => a.number < b.number) →
        ∀ (key key' : Key) (id : ComponentId), key.kind = key'.kind →
          (after.seen key).id? = some id → (after.seen key').id? = some id → key = key') ∧
      ∀ name, asked.findSome? (Asked.mentions? settings ⟨.breaker, name⟩) = none →
        (Request.breaker name .status).serve after = (.status none, after) ∧
        (Request.breaker name .reset).serve after = (.truth false, after)) ∧
    (∀ (s : Session) (calendar : Diagnostics.Calendar) (name : String), s.Reachable →
      Commanded s calendar name) ∧
    (∀ s s' : Session, s.Reachable → Relation.ReflTransGen Session.Happens s s' →
      ∃ asked, ∀ name,
        s'.world.seen ⟨.breaker, name⟩ =
          (run (only ⟨.breaker, name⟩ asked) s.world).2.seen ⟨.breaker, name⟩ ∧
        s'.world.toldOf ⟨.breaker, name⟩ =
          (run (only ⟨.breaker, name⟩ asked) s.world).2.toldOf ⟨.breaker, name⟩) ∧
    ∀ (s s' : Session) (key : Key) (config : Configuration), s.Reachable → s.Later s' →
      (s.world.seen key).config? = some config →
      (s'.world.seen key).config? = some config ∧
        (s'.world.seen key).id? = (s.world.seen key).id? := by
  refine ⟨fun settings recording asked => ⟨fun key h => ⟨isolated (keepsApart_new _ _ h),
    firstWins settings recording h⟩, fun h key key' id hkind hid hid' =>
      key_eq_of_run settings recording h hkind hid hid', fun name hnone => ?_⟩,
    fun s calendar name hs => ?_, fun s s' hs hrun => ?_,
    fun s s' key config hs hlater => hlater.seen hs⟩
  · have hconfig : ((run asked { settings := settings, recording := recording }).2.seen
        ⟨.breaker, name⟩).config? = _ := config?_run_new settings recording (.inl rfl)
    generalize (run asked { settings := settings, recording := recording }).2 = after at hconfig
    have hgone : after.breakers.get? name = none :=
      Option.map_eq_none_iff.mp (hconfig.trans hnone)
    refine ⟨?_, ?_⟩
    · simp only [Request.serve, BreakerUse.serve, World.status?, hgone, Option.map_none]
    · simp only [Request.serve, BreakerUse.serve, World.resetBreaker, hgone]
  · exact ⟨s.perform_breaker calendar name, s.perform_reset calendar name,
      hs.perform_limiter calendar name, hs.perform_bucket calendar name⟩
  · -- The steps of the session are those of its scene, and for breakers these are requests.
    have hsteps := (Session.runs_of_happens hs.valid_scene.1 hrun).scenes
    obtain ⟨asked, hsame⟩ := hs.valid_scene.2.exists_asked hsteps
    refine ⟨asked, fun name => ?_⟩
    have hisolated : Isolated ⟨.breaker, name⟩ asked s.world := isolated (.inl rfl)
    obtain ⟨-, hseen, htold⟩ := hisolated
    have hbreaker : (run asked s.world).2.breakers.get? name = s'.world.breakers.get? name :=
      hsame.breakers name
    rw [← hseen, ← htold, World.toldOf_breaker, World.toldOf_breaker]
    exact ⟨congrArg Seen.breaker hbreaker.symm, (hsame.told name).symm⟩

/-- Two breakers, a limiter and a bucket, three of them with one name: the breaker of that name
trips, and the other is asked meanwhile. -/
def mingled : List Asked :=
  [⟨0, 0, .openBreaker "db" (some ⟨1, .ofSecs 60⟩)⟩, ⟨0, 1, .openLimiter "db" (some ⟨1, 1⟩)⟩,
    ⟨0, 2, .openBucket "db" (some ⟨1, .ofSecs 1⟩)⟩, ⟨1, 3, .openBreaker "queue" none⟩,
    ⟨1, 4, .breaker "db" .enter⟩, ⟨2, 5, .limiter "db" (.ask 7)⟩, ⟨2, 6, .breaker "queue" .enter⟩,
    ⟨3, 7, .breaker "db" (.settle false (.error (.failed "boom")))⟩, ⟨4, 8, .openBreaker "db" none⟩,
    ⟨4, 9, .breaker "queue" (.settle false (.ok .null))⟩, ⟨5, 10, .breaker "db" .enter⟩]

/-- The breaker called `db` is as if nobody had spoken of the queue, of the limiter or of the
bucket, and keeps its first configuration when it is mentioned with another. -/
theorem isolated_and_first_wins_mingled :
    let new : World := { settings := {} }
    (mingled.Pairwise fun a b => a.number < b.number) ∧
    Isolated ⟨.breaker, "db"⟩ mingled new ∧ Isolated ⟨.limiter, "db"⟩ mingled new ∧
    ((run mingled new).2.seen ⟨.breaker, "db"⟩).config? = some (.breaker ⟨1, .ofSecs 60⟩) ∧
    ((run mingled new).2.seen ⟨.bucket, "db"⟩).config? = some (.bucket ⟨1, .ofSecs 1⟩) ∧
    (run mingled new).2.toldOf ⟨.breaker, "db"⟩ = [.breakerOpened "db" 1] ∧
    (Request.breaker "cache" .reset).serve (run mingled new).2 =
      (.truth false, (run mingled new).2) := by
  intro new
  obtain ⟨hkeys, -, hunknown⟩ := isolated_and_first_wins.1 {} true mingled
  have hsorted : mingled.Pairwise fun a b => a.number < b.number := by decide
  obtain ⟨hbreaker, hfirst⟩ := hkeys ⟨.breaker, "db"⟩ (.inl rfl)
  obtain ⟨hlimiter, -⟩ := hkeys ⟨.limiter, "db"⟩ (.inr hsorted)
  obtain ⟨-, hbucket⟩ := hkeys ⟨.bucket, "db"⟩ (.inr hsorted)
  exact ⟨hsorted, hbreaker, hlimiter, hfirst.config.trans (by decide),
    hbucket.config.trans (by decide), by decide +kernel, (hunknown "cache" (by decide)).2⟩

end Registry

end Resilience
