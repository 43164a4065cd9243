import Resilience.Proofs.Cache.Sharing
import Resilience.Proofs.Breaker.Scene
import Resilience.Proofs.Session.Commands

/-!
# Caches in scenes

Every act is, for caches, one use of one of them, or a new cache, or nothing, and what it adds to
the events about caches is what the use reports (`Act.onCaches`). So a world that records its events
has a **book** of what was done with its caches: one line for each use, with the cache that it was a
use of (`World.BookedBy`). Read through, the book has the events about caches in their order; read
for one cache alone, it has the uses that lead from a new cache to this one, and the events that
these report. Names and clones do not come into it: a name leads to a cache, and a command that
gives the name is a use of that cache (`Session.perform_use`).
-/

namespace Resilience

/-- Whether an event is about a cache. -/
def Event.aboutCache : Event → Bool
  | cacheEviction _ => true
  | cacheSweep _ => true
  | _ => false

theorem Event.aboutCache_of_breaker {event : Event} {name : String}
    (h : event.breaker? = some name) : event.aboutCache = false := by
  cases event <;> first | rfl | cases h

/-- A cache reports nothing but events about caches. -/
theorem Cache.use_aboutCache {α : Type} (now : Instant) (u : Cache.Use α) (c : Cache α) :
    ∀ event ∈ (c.use now u).2.1, event.aboutCache = true := by
  intro event hevent
  rw [Cache.event_use] at hevent
  cases u with
  | ask request =>
    obtain ⟨key, -, rfl⟩ := Option.map_eq_some_iff.mp hevent
    rfl
  | tick =>
    simp only [Cache.Store.serve] at hevent
    split at hevent <;> cases hevent
    rfl
  | shutDown | look => cases hevent

namespace World

/-- The events about caches. -/
def toldOfCaches (w : World) : List Event := w.events.filter Event.aboutCache

/-- Does something with a cache. -/
def useCache (id : ComponentId) (u : Cache.Use Json) (w : World) : Cache.Return Json × World :=
  match w.caches.get? id with
  | some c =>
    let (given, event?, c) := c.use w.now u
    (given, report event? { w with caches := w.caches.set id c })
  | none => (.done, w)

/-- A step as caches see it. -/
inductive CacheStep (w w' : World) : Prop
  | other (hcaches : w'.caches = w.caches) (htold : w'.toldOfCaches = w.toldOfCaches)
  | create (config : Cache.Config) (sweeping : Bool)
      (hcaches : w'.caches = w.caches.set w.serial (.create config sweeping))
      (hserial : w.serial < w'.serial) (htold : w'.toldOfCaches = w.toldOfCaches)
  | use {id : ComponentId} {c : Cache Json} (u : Cache.Use Json)
      (hc : w.caches.get? id = some c) (hcaches : w'.caches = w.caches.set id (c.use w.now u).2.2)
      (htold : w'.toldOfCaches =
        w.toldOfCaches ++ if w.recording then (c.use w.now u).2.1.toList else [])

namespace CacheStep

variable {w w₁ : World}

/-- Something that is not about caches is reported. -/
private theorem report_other {event? : Option Event} (hcaches : w₁.caches = w.caches)
    (hevents : w₁.events = w.events) (h : ∀ event ∈ event?, event.aboutCache = false) :
    CacheStep w (w₁.report event?) := by
  refine .other ((caches_report ..).trans hcaches) ?_
  rw [toldOfCaches, events_report, List.filter_append, hevents]
  have hnone : (if w₁.recording then event?.toList else []).filter Event.aboutCache = [] := by
    refine List.filter_eq_nil_iff.mpr fun event hmem => ?_
    split at hmem
    · simp [h event (Option.mem_toList.mp hmem)]
    · cases hmem
  rw [hnone, List.append_nil]
  rfl

/-- A breaker speaks of itself. -/
private theorem report_change {name : String} {b b' : Breaker} {event? : Option Event}
    (c : Component Breaker.Config Breaker) (hchange : Breaker.Change name b b' event?) :
    CacheStep w (report event? { w with breakers := w.breakers.set name c }) :=
  report_other rfl rfl fun _ hevent => Event.aboutCache_of_breaker (hchange.about hevent)

/-- A cache is used, and what that reports is reported. -/
private theorem report_use {id : ComponentId} {c : Cache Json} (u : Cache.Use Json)
    (hc : w.caches.get? id = some c) : CacheStep w
      (report (c.use w.now u).2.1 { w with caches := w.caches.set id (c.use w.now u).2.2 }) := by
  refine .use u hc (caches_report ..) ?_
  rw [toldOfCaches, events_report, List.filter_append]
  congr 1
  dsimp only
  split
  · exact List.filter_eq_self.mpr fun event hmem =>
      Cache.use_aboutCache w.now u c event (Option.mem_toList.mp hmem)
  · rfl

/-- A cache is used, and there is nothing to report. -/
private theorem use_silent {id : ComponentId} {c : Cache Json} (u : Cache.Use Json)
    (hc : w.caches.get? id = some c) (hsilent : (c.use w.now u).2.1 = none) :
    CacheStep w { w with caches := w.caches.set id (c.use w.now u).2.2 } := by
  have huse := report_use u hc
  rwa [hsilent] at huse

end CacheStep

end World

open World CacheStep in
/-- **Every act is, for caches, one use, a new cache, or nothing.** -/
theorem Act.onCaches {w w' : World} {H H' : Multiset Hold} (h : Act ⟨w, H⟩ ⟨w', H'⟩) :
    w.CacheStep w' := by
  cases h with
  | idle h => exact .other h.caches (by rw [toldOfCaches, toldOfCaches, h.events])
  | pass | nameLimiter | nameBucket | createLimiter | createBucket | createSource | refuseToken |
    leaveToken => exact .other rfl rfl
  | createCache config sweeping => exact .create config sweeping rfl (Nat.lt_succ_self _) rfl
  | openBreaker name config =>
    obtain ⟨_, heq⟩ := w.openBreaker_eq name config
    exact heq ▸ .other rfl rfl
  | invoke id arg =>
    obtain ⟨_, _, heq⟩ := w.invoke_eq id arg
    exact heq ▸ .other rfl rfl
  -- Acts on other parts may report something, but nothing about caches.
  | enter h =>
    unfold World.enter
    split
    · exact report_change _ (Breaker.enter_change ..)
    · exact .other rfl rfl
  | record name probe outcome =>
    unfold World.record
    split
    · cases outcome with
      | ok value => exact report_change _ (Breaker.recordSuccess_change ..)
      | error failure => exact report_change _ (Breaker.recordFailure_change ..)
    · exact .other rfl rfl
  | forgo name probe =>
    obtain ⟨_, -, heq⟩ := w.forgo_eq name probe
    exact heq ▸ .other rfl rfl
  | resetBreaker name =>
    unfold World.resetBreaker
    split
    · exact report_change _ (Breaker.reset_change ..)
    · exact .other rfl rfl
  | askSlot caller h =>
    unfold World.askSlot
    split
    · dsimp only
      split
      · exact .other rfl rfl
      · exact .other rfl rfl
      · dsimp only
        refine report_other rfl rfl ?_
        rintro event ⟨⟩
        rfl
    · exact .other rfl rfl
  | pickUpSlot h =>
    obtain ⟨_, _, -, -, rfl⟩ := pickUpSlot?_eq_some h
    exact .other rfl rfl
  | releaseSlot id =>
    obtain ⟨_, _, -, heq⟩ := w.releaseSlot_eq id
    exact heq ▸ .other rfl rfl
  | leaveSlot id ticket =>
    obtain ⟨_, _, -, heq⟩ := w.leaveSlot_eq id ticket
    exact heq ▸ .other rfl rfl
  | @askToken _ _ id caller h =>
    obtain ⟨_, _, _, -, -, heq⟩ := w.askToken_eq id caller
    exact heq ▸ .other rfl rfl
  | pickUpToken h =>
    obtain ⟨_, _, -, -, rfl⟩ := pickUpToken_eq_granted h
    exact .other rfl rfl
  | refillBucket id =>
    obtain ⟨_, _, -, heq⟩ := w.refillBucket_eq id
    exact heq ▸ .other rfl rfl
  | shutDownBucket id =>
    obtain ⟨_, _, -, heq⟩ := w.shutDownBucket_eq id
    exact heq ▸ .other rfl rfl
  -- These acts use a cache, if it is there.
  | readCache id key =>
    unfold World.readCache
    split
    · next c hc => exact use_silent (.ask (.get key)) hc rfl
    · exact .other rfl rfl
  | writeCache id key value ttl =>
    unfold World.writeCache
    split
    · next c hc => exact report_use (.ask (.set key value ttl)) hc
    · exact .other rfl rfl
  | sweepCache id =>
    unfold World.sweepCache
    split
    · next c hc => exact report_use .tick hc
    · exact .other rfl rfl
  | handleCache hc h =>
    cases h with
    | get key => exact use_silent (.ask (.get key)) hc rfl
    | has key => exact use_silent (.ask (.has key)) hc rfl
    | delete key => exact use_silent (.ask (.delete key)) hc rfl
    | clear => exact use_silent (.ask .clear) hc rfl
    | sweep => exact use_silent (.ask .sweep) hc rfl
    | shutDown => exact use_silent .shutDown hc rfl
    | look => exact use_silent .look hc rfl

/-- The numbers of caches were given out before. -/
theorem Scene.Reachable.cache_lt {sc : Scene} (h : sc.Reachable) {id : ComponentId}
    {c : Cache Json} (hc : sc.world.caches.get? id = some c) : id < sc.world.serial := by
  induction h generalizing c with
  | empty => cases hc
  | outside _ _ _ ih => exact ih hc
  | act _ hact ih =>
    have hserial := hact.grows.serial
    cases hact.onCaches with
    | other hcaches => exact (ih (hcaches ▸ hc)).trans_le hserial
    | create config sweeping hcaches hlt =>
      rw [hcaches, Table.get?_set] at hc
      split at hc
      · next heq => exact heq ▸ hlt
      · exact (ih hc).trans_le hserial
    | use u hused hcaches =>
      rw [hcaches, Table.get?_set] at hc
      split at hc
      · next heq => exact (ih (heq ▸ hused)).trans_le hserial
      · exact (ih hc).trans_le hserial

/-! ### The book of a world -/

namespace Cache

/-- A line in a book: a use of a cache, and what it reported. -/
structure Line where
  cache : ComponentId
  time : Instant
  use : Use Json
  event? : Option Event

/-- The uses of one cache. -/
def usesOf (id : ComponentId) (book : List Line) : List (Instant × Use Json) :=
  (book.filter fun line => line.cache = id).map fun line => (line.time, line.use)

/-- The events that the uses of one cache reported. -/
def eventsOf (id : ComponentId) (book : List Line) : List Event :=
  (book.filter fun line => line.cache = id).filterMap Line.event?

/-- A line is read by those who ask for its cache. -/
theorem usesOf_concat (id : ComponentId) (book : List Line) (line : Line) :
    usesOf id (book ++ [line]) =
      usesOf id book ++ if line.cache = id then [(line.time, line.use)] else [] := by
  rw [usesOf, List.filter_append, List.map_append]
  by_cases h : line.cache = id <;> simp [h, usesOf]

theorem eventsOf_concat (id : ComponentId) (book : List Line) (line : Line) :
    eventsOf id (book ++ [line]) =
      eventsOf id book ++ if line.cache = id then line.event?.toList else [] := by
  rw [eventsOf, List.filter_append, List.filterMap_append]
  by_cases h : line.cache = id
  · cases hevent : line.event? <;> simp [h, hevent, eventsOf]
  · simp [h, eventsOf]

/-- Nothing is read about a cache that has no lines. -/
theorem of_eq_nil {id : ComponentId} {book : List Line} (h : ∀ line ∈ book, line.cache ≠ id) :
    usesOf id book = [] ∧ eventsOf id book = [] := by
  have hnone : book.filter (fun line => line.cache = id) = [] :=
    List.filter_eq_nil_iff.mpr fun line hline => by simpa using h line hline
  simp [usesOf, eventsOf, hnone]

end Cache

namespace World

open Cache

/-- The book tells what was done with the caches of a world. -/
structure BookedBy (w : World) (book : List Line) : Prop where
  told : w.toldOfCaches = book.filterMap Line.event?
  known : ∀ line ∈ book, w.caches.has line.cache = true
  /-- The next number is not that of a cache. -/
  fresh {id : ComponentId} : w.caches.has id = true → id < w.serial
  leads {id : ComponentId} {c : Cache Json} : w.caches.get? id = some c → ∃ config sweeping,
    c = used (usesOf id book) (.create config sweeping) ∧
      eventsOf id book = Cache.told (usesOf id book) (.create config sweeping)
  /-- The caches have counted the evictions that were told. -/
  counted : (w.toldOfCaches.filterMap Event.evicted?).length =
    w.caches.total (·.store.evictions)

namespace BookedBy

variable {w w' : World} {book : List Line}

theorem empty (settings : Settings) (recording : Bool) :
    BookedBy { settings := settings, recording := recording } [] where
  told := rfl
  known line h := by cases h
  fresh h := by cases h
  leads h := by cases h
  counted := rfl

/-- What is not about caches leaves the book as it is. -/
private theorem other (h : w.BookedBy book) (hserial : w.serial ≤ w'.serial)
    (hcaches : w'.caches = w.caches) (htold : w'.toldOfCaches = w.toldOfCaches) :
    w'.BookedBy book where
  told := htold.trans h.told
  known line hline := hcaches ▸ h.known line hline
  fresh hid := (h.fresh (hcaches ▸ hid)).trans_le hserial
  leads hc := h.leads (hcaches ▸ hc)
  counted := by rw [htold, hcaches, h.counted]

/-- A new cache has no lines yet. -/
private theorem create (h : w.BookedBy book) (config : Cache.Config) (sweeping : Bool)
    (hserial : w.serial < w'.serial)
    (hcaches : w'.caches = w.caches.set w.serial (.create config sweeping))
    (htold : w'.toldOfCaches = w.toldOfCaches) : w'.BookedBy book where
  told := htold.trans h.told
  known line hline := by
    rw [hcaches]
    exact Table.has_set_of_has (h.known line hline)
  fresh {id} hid := by
    rw [hcaches, Table.has, Table.get?_set] at hid
    split at hid
    · next heq => exact heq ▸ hserial
    · exact (h.fresh hid).trans hserial
  leads {id c} hc := by
    rw [hcaches, Table.get?_set] at hc
    split at hc
    · next heq =>
      obtain rfl := Option.some.inj hc
      have hnew (line : Line) (hline : line ∈ book) : line.cache ≠ id := by
        rintro rfl
        exact absurd (h.fresh (h.known line hline)) (heq ▸ Nat.lt_irrefl _)
      obtain ⟨huses, hevents⟩ := of_eq_nil hnew
      exact ⟨config, sweeping, by rw [huses]; rfl, by rw [huses, hevents]; rfl⟩
    · exact h.leads hc
  counted := by
    have hnone : w.caches.get? w.serial = none := by
      by_contra hsome
      exact Nat.lt_irrefl _ (h.fresh (Option.isSome_iff_ne_none.mpr hsome))
    have htotal := w.caches.total_set (·.store.evictions) w.serial (.create config sweeping)
    rw [hnone] at htotal
    rw [htold, h.counted, hcaches]
    exact htotal.symm

/-- A use of a cache is one more line. -/
private theorem use (h : w.BookedBy book) (hserial : w.serial ≤ w'.serial) {id : ComponentId}
    {c : Cache Json} (u : Use Json) (hc : w.caches.get? id = some c)
    (hcaches : w'.caches = w.caches.set id (c.use w.now u).2.2)
    (htold : w'.toldOfCaches = w.toldOfCaches ++ (c.use w.now u).2.1.toList) :
    w'.BookedBy (book ++ [⟨id, w.now, u, (c.use w.now u).2.1⟩]) := by
  have hhas {other : ComponentId} : w'.caches.has other = true ↔ w.caches.has other = true := by
    rw [hcaches, Table.has, Table.get?_set, Table.has]
    split
    · next heq => simp [← heq, hc]
    · rfl
  exact {
    told := by
      rw [htold, h.told, List.filterMap_append]
      cases (c.use w.now u).2.1 <;> rfl
    known := by
      intro line hline
      rcases List.mem_append.mp hline with hline | hline
      · exact hhas.mpr (h.known line hline)
      · obtain rfl := List.mem_singleton.mp hline
        exact hhas.mpr (by simp [Table.has, hc])
    fresh := fun hid => (h.fresh (hhas.mp hid)).trans_le hserial
    leads := by
      intro other d hd
      rw [hcaches, Table.get?_set] at hd
      rw [usesOf_concat, eventsOf_concat]
      split at hd
      · next heq =>
        -- The cache was led to by its lines, and the new line leads it on.
        obtain rfl := Option.some.inj hd
        obtain ⟨config, sweeping, hused, hevents⟩ := h.leads (heq ▸ hc)
        refine ⟨config, sweeping, ?_, ?_⟩
        · rw [if_pos heq, used_concat, ← hused]
        · rw [if_pos heq, if_pos heq, told_concat, ← hused, hevents]
      · next hne =>
        rw [if_neg hne, if_neg hne, List.append_nil, List.append_nil]
        exact h.leads hd
    counted := by
      have hlength := length_evictions_told [(w.now, u)] c
      have htotal := w.caches.total_set (·.store.evictions) id (c.use w.now u).2.2
      rw [hc, Option.elim_some] at htotal
      rw [htold, List.filterMap_append, List.length_append, h.counted, hcaches]
      simp only [Cache.told, List.append_nil, used, List.foldl_cons, List.foldl_nil] at hlength
      omega }

/-- **A step adds one line to the book at most.** -/
theorem step (h : w.BookedBy book) (hstep : w.CacheStep w') (hrecording : w.recording = true)
    (hserial : w.serial ≤ w'.serial) :
    ∃ line? : Option Line, w'.BookedBy (book ++ line?.toList) := by
  cases hstep with
  | other hcaches htold =>
    exact ⟨none, (List.append_nil book).symm ▸ h.other hserial hcaches htold⟩
  | create config sweeping hcaches hserial htold =>
    exact ⟨none, (List.append_nil book).symm ▸ h.create config sweeping hserial hcaches htold⟩
  | @use id c u hc hcaches htold =>
    rw [if_pos hrecording] at htold
    exact ⟨some _, h.use hserial u hc hcaches htold⟩

end BookedBy

end World

/-- **A world that records its events has a book.** -/
theorem Steps.bookedBy {settings : Settings} {sc : Scene}
    (h : Steps (Scene.empty settings true) sc) : ∃ book, sc.world.BookedBy book := by
  induction h with
  | refl => exact ⟨[], .empty settings true⟩
  | tail hfirst hact ih =>
    obtain ⟨book, hbook⟩ := ih
    have hrecording := (Scene.Reachable.empty settings true).recording_steps hfirst
    obtain ⟨line?, hline⟩ := hbook.step hact.onCaches hrecording hact.grows.serial
    exact ⟨book ++ line?.toList, hline⟩

/-! ### Names -/

namespace World

variable {w : World} {id : ComponentId} {c : Cache Json}

/-- Calls and background work use a cache in the same way as its holders. -/
theorem useCache_of_calls (hc : w.caches.get? id = some c) :
    (∀ key, w.readCache id key = ((c.get w.now key).1, (w.useCache id (.ask (.get key))).2)) ∧
      (∀ key value ttl,
        w.writeCache id key value ttl = (w.useCache id (.ask (.set key value ttl))).2) ∧
      w.sweepCache id = (w.useCache id .tick).2 := by
  simp only [readCache, writeCache, sweepCache, useCache, hc]
  exact ⟨fun _ => rfl, fun _ _ _ => rfl, rfl⟩

end World

/-- What a holder is told. -/
def Cache.Return.reply : Cache.Return Json → Reply
  | done => .done
  | value value? => .value value?
  | truth b => .truth b
  | count n => .count n
  | statistics shown => .statistics shown

/-- The cache that a command names, and the use that it makes of it. -/
def Command.use? (defaultTtl : Nat) : Command → Option (String × Cache.Use Json)
  | set name key value ttl? => some (name, .ask (.set key value (ttl?.getD defaultTtl)))
  | get name key => some (name, .ask (.get key))
  | has name key => some (name, .ask (.has key))
  | delete name key => some (name, .ask (.delete key))
  | clear name => some (name, .ask .clear)
  | sweep name => some (name, .ask .sweep)
  | cacheShutDown name => some (name, .shutDown)
  | statistics name => some (name, .look)
  | _ => none

namespace Session

/-- Does something with a cache. -/
def useCache (id : ComponentId) (u : Cache.Use Json) (s : Session) : Reply × Session :=
  let (given, w) := s.world.useCache id u
  (given.reply, { s with world := w })

/-- **A command that names a cache is a use of it**, whichever of its names is given. -/
theorem perform_use (calendar : Diagnostics.Calendar) {s : Session} {name : String}
    {id : ComponentId} {c : Cache Json} (hname : s.caches.get? name = some id)
    (hc : s.world.caches.get? id = some c) {command : Command} {u : Cache.Use Json}
    (h : command.use? c.store.defaultTtl = some (name, u)) :
    s.perform calendar command = s.useCache id u := by
  cases command with
  | set cache key value ttl? =>
    cases h
    simp only [perform, setValue, withName, hname, hc, useCache, World.useCache, World.writeCache]
    rfl
  | get | has | delete | clear | cacheShutDown | statistics | sweep =>
    cases h
    simp only [perform, withCache, withName, hname, hc, useCache, World.useCache]
    rfl
  | _ => cases h

end Session

namespace Cache

/-- **A shared cache serves one store, and its events tell the history of that store.** After any
uses, by whomever and with sweeps by background work in between, the store is the one that the
requests of the uses lead to. Every further use is one of that store: it is given the answer of the
store, where a refusal is as good as finding nothing and changes nothing. The evictions that are
reported are the keys that had to go, in their order, and as many as the statistics count; a sweep
by background work reports how many entries it removed, if there were any; nothing else reports
anything. In scenes every act is at most one use of one cache and adds what that reports to the
events about caches. So every session that records its events has a book of the uses of its caches,
and commands, calls and background work make such uses, whichever name of a cache they give. -/
theorem sharing_transparent {α : Type} :
    (∀ (config : Config) (sweeping : Bool) (uses : List (Instant × Use α)),
      let c := used uses (create config sweeping)
      let s := after Store.respond (asked uses) (.empty config.maxKeys config.defaultTtl)
      let events := told uses (create config sweeping)
      c.store = s ∧
      (∀ now u, c.use now u = ((s.serve now u).1, (s.serve now u).2.1,
        { c with store := (s.serve now u).2.2, sweeping := c.sweeping && u.keepsSweeping })) ∧
      (∀ now request fault, (s.respond now request).1 = .refused fault →
        c.use now (.ask request) = (request.forgive (.refused fault), none, c)) ∧
      (∀ now u, (∀ key value ttl, u ≠ .ask (.set key value ttl)) → u ≠ .tick →
        (c.use now u).2.1 = none) ∧
      events.filterMap Event.evicted? =
        (Store.exchanges (asked uses) (.empty config.maxKeys config.defaultTtl)).filterMap
          (fun x => x.2.evicted?) ∧
      (∀ now, (events.filterMap Event.evicted?).length = (c.statistics now).evictions) ∧
      events.filterMap Event.swept? =
        (Store.ticks uses (.empty config.maxKeys config.defaultTtl)).filter fun n => 0 < n) ∧
    (∀ sc sc' : Scene, Act sc sc' → sc.world.CacheStep sc'.world) ∧
    (∀ (settings : Settings) (s : Session),
      Relation.ReflTransGen Session.Happens (Session.create settings true) s →
      ∃ book, s.world.BookedBy book) ∧
    (∀ (calendar : Diagnostics.Calendar) (s : Session) (name : String) (id : ComponentId)
      (c : Cache Json), s.caches.get? name = some id → s.world.caches.get? id = some c →
      (∀ command u, command.use? c.store.defaultTtl = some (name, u) →
        s.perform calendar command = s.useCache id u) ∧
      ∀ other, let s' := (s.perform calendar (.cacheClone name other)).2
        s'.caches.get? other = some id ∧ s'.world = s.world) ∧
    ∀ (w : World) (id : ComponentId) (c : Cache Json), w.caches.get? id = some c →
      (∀ key, w.readCache id key = ((c.get w.now key).1, (w.useCache id (.ask (.get key))).2)) ∧
      (∀ key value ttl,
        w.writeCache id key value ttl = (w.useCache id (.ask (.set key value ttl))).2) ∧
      w.sweepCache id = (w.useCache id .tick).2 := by
  refine ⟨fun config sweeping uses => ?_, fun _ _ hact => hact.onCaches,
    fun settings s h => (Session.steps_of_happens h).bookedBy,
    fun calendar s name id c hname hc => ⟨fun command u h => s.perform_use calendar hname hc h,
      fun other => ?_⟩,
    fun w id c hc => w.useCache_of_calls hc⟩
  · intro c s events
    have hstore : c.store = s := store_used uses (create config sweeping)
    obtain ⟨l, -, hshows, -⟩ :=
      (Store.Tidied.reached config.maxKeys config.defaultTtl 0 (asked uses)).lineups
    refine ⟨hstore, fun now u => hstore ▸ use_eq now u c, fun now request fault hrefused => ?_,
      fun now u hset htick => use_quiet hset htick now c, evictions_told ..,
      fun now => ?_, sweeps_told ..⟩
    -- There is room for one key at least, so only a bad key is refused.
    · have hroom : 0 < s.maxKeys := by
        rw [Store.maxKeys_after]
        exact Nat.le_max_right ..
      exact use_of_fault ((hshows.refused_iff hroom).mp hrefused) now c
    · exact (Nat.zero_add _).symm.trans (length_evictions_told uses (create config sweeping))
  · simp only [Session.perform, Session.withName, hname, Table.get?_set]
    exact ⟨if_pos trivial, trivial⟩

/-- A cache with room for one value: a bad key, a second value, and a sweep when it has expired. -/
def crowded : List (Instant × Use Nat) :=
  [(0, .ask (.set "a" 1 1)), (1, .ask (.set "" 2 1)), (2, .ask (.set "b" 3 1)), (500, .tick),
    (1002, .tick)]

/-- Two names of one cache with room for one value, and a value that is set by each. -/
def cloning : List Command :=
  [.cache "c" (.plain ⟨1, 300, .ofSecs 1⟩), .cacheClone "c" "d", .set "c" "k" .null none,
    .set "d" "l" .null none]

/-- The session after that. -/
def cloned : Session := ((Session.create {} true).performAll ⟨toString, toString⟩ cloning).2

theorem happens_cloned :
    Relation.ReflTransGen Session.Happens (Session.create {} true) cloned :=
  Session.performAll_happens ⟨toString, toString⟩ (by simp [cloning, Command.Plain])

theorem sharing_transparent_crowded :
    let c := used crowded (create ⟨1, 300, .ofSecs 1⟩ true)
    told crowded (create ⟨1, 300, .ofSecs 1⟩ true) = [.cacheEviction "a", .cacheSweep 1] ∧
      (c.statistics 1002).evictions = 1 ∧
      c.use 1003 (.ask (.get "")) = (.value none, none, c) ∧
      (c.use 1003 (.ask (.delete "b"))).2.1 = none ∧
      cloned.world.toldOfCaches = [.cacheEviction "k"] ∧ (∃ book, cloned.world.BookedBy book) ∧
      cloned.caches.get? "d" = some 0 ∧
      cloned.perform ⟨toString, toString⟩ (.get "d" "l") = cloned.useCache 0 (.ask (.get "l")) ∧
      cloned.world.CacheStep (cloned.world.sweepCache 0) ∧
      cloned.world.sweepCache 0 = (cloned.world.useCache 0 .tick).2 := by
  intro c
  obtain ⟨huses, hacts, hbooks, hnames, hcalls⟩ := sharing_transparent (α := Nat)
  obtain ⟨-, -, hrefused, hquiet, -, hcount, -⟩ := huses ⟨1, 300, .ofSecs 1⟩ true crowded
  have htold : told crowded (create ⟨1, 300, .ofSecs 1⟩ true) =
      [.cacheEviction "a", .cacheSweep 1] := by decide +kernel
  have hevictions := hcount 1002
  rw [htold] at hevictions
  have hname : cloned.caches.get? "d" = some 0 := by decide +kernel
  obtain ⟨d, hd⟩ : ∃ d, cloned.world.caches.get? 0 = some d :=
    Option.isSome_iff_exists.mp (by decide +kernel)
  obtain ⟨-, -, hsweep⟩ := hcalls cloned.world 0 d hd
  refine ⟨htold, hevictions.symm, ?_, hquiet 1003 (.ask (.delete "b")) nofun nofun,
    by decide +kernel, hbooks {} cloned happens_cloned, hname, ?_,
    hacts cloned.scene ⟨_, _⟩ (.sweepCache 0), hsweep⟩
  · exact hrefused 1003 (.get "") (.invalidKey "key is empty") (by decide +kernel)
  · exact (hnames ⟨toString, toString⟩ cloned "d" 0 d hname hd).1 (.get "d" "l") _ rfl

end Cache

end Resilience
