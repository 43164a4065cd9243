import Resilience.Proofs.Cache.Entries
import Resilience.Proofs.Story.Chronicle

/-!
# What a wrapper returns

A layer that remembers answers reads its cache, and without a find it invokes what is inside and
stores a good answer. Between these three steps other calls may do the same, and entries may go: by
expiry, by eviction, by the owner's hand, by sweeps. So several invocations for one key can miss
together and store in any order.

What carries the law is `Backed`: an entry of the cache was stored by a write that is in the log of
the run, and ends when the lifetime given there is over; whatever goes on beside the calls keeps
that as long as it puts nothing new into the cache (`World.Tends`). So a find goes back to a write.
A write goes back to an invocation of a wrapper that had a good answer from what is inside
(`Story.exists_stores`), and if all calls use the cache by one wrapper only, it is an
invocation of that one (`Wrapper.answers_of_inner`).
-/

namespace Resilience

namespace World

/-- The entry that a cache has for a key. -/
def cached? (cache : ComponentId) (key : String) (w : World) : Option (Cache.Entry Json) :=
  (w.caches.get? cache).bind fun c => c.store.entries.get? key

/-- Nothing new is in a cache: its entries were there before, with their values and their ends. -/
def Spares (cache : ComponentId) (w w' : World) : Prop :=
  ∀ key e', w'.cached? cache key = some e' →
    ∃ e, w.cached? cache key = some e ∧ e'.value = e.value ∧ e'.expires = e.expires

/-- What may go on beside calls that use a cache: nobody else writes into it, and the clock does not
go back. -/
structure Tends (cache : ComponentId) (w w' : World) : Prop where
  grows : w.Grows w'
  now_le : w.now ≤ w'.now
  spares : w.Spares cache w'

variable {w w' : World} {cache : ComponentId}

theorem cached?_eq_some {key : String} {e : Cache.Entry Json} :
    w.cached? cache key = some e ↔
      ∃ c, w.caches.get? cache = some c ∧ c.store.entries.get? key = some e := by
  simp [cached?, Option.bind_eq_some_iff]

theorem Spares.of_eq (h : w'.caches.get? cache = w.caches.get? cache) : w.Spares cache w' := by
  intro key e' he'
  exact ⟨e', by rwa [cached?, h] at he', rfl, rfl⟩

/-- The cache was exchanged for one without new entries. -/
theorem Spares.set {c c' : Cache Json} (hc : w.caches.get? cache = some c)
    (h : c.store.Spares c'.store) (hset : w'.caches = w.caches.set cache c') :
    w.Spares cache w' := by
  intro key e' he'
  obtain ⟨other, hother, hkey⟩ := cached?_eq_some.mp he'
  rw [hset, Table.get?_set, if_pos rfl] at hother
  obtain rfl := Option.some.inj hother
  obtain ⟨e, he, heq⟩ := h key e' hkey
  exact ⟨e, cached?_eq_some.mpr ⟨c, hc, he⟩, heq⟩

/-- What the owner of a cache does beside the calls: reads, deletions, clearing, sweeps. -/
theorem Tends.handle {c c' : Cache Json} (hc : w.caches.get? cache = some c)
    (h : Cache.Handled w.now c c') :
    w.Tends cache { w with caches := w.caches.set cache c' } where
  grows := .of_eq rfl rfl rfl rfl rfl (le_refl _)
  now_le := le_refl _
  spares := .set hc h.spares rfl

/-- The sweeps by background work. -/
theorem Tends.sweep (cache : ComponentId) (w : World) : w.Tends cache (w.sweepCache cache) := by
  have hgrows := (Act.sweepCache (w := w) (H := 0) cache).grows
  obtain ⟨_, _, _, -, heq⟩ := w.sweepCache_eq cache
  have hnow : w.now ≤ (w.sweepCache cache).now := by rw [heq]
  refine ⟨hgrows, hnow, ?_⟩
  cases hc : w.caches.get? cache with
  | none => exact .of_eq (by simp [sweepCache, hc])
  | some c => exact .set hc (c.store.spares_sweep w.now) (by simp [sweepCache, hc]; rfl)

/-- A new cache is empty. -/
theorem Tends.createCache (cache : ComponentId) (config : Cache.Config) (sweeping : Bool)
    (w : World) : w.Tends cache (w.createCache config sweeping).2 where
  grows := .of_eq rfl rfl rfl rfl rfl (Nat.le_succ _)
  now_le := le_refl _
  spares := by
    intro key e' he'
    obtain ⟨c, hc, hkey⟩ := cached?_eq_some.mp he'
    simp only [World.createCache, World.fresh, Table.get?_set] at hc
    split at hc
    · obtain rfl := Option.some.inj hc
      cases hkey
    · exact ⟨e', cached?_eq_some.mpr ⟨c, hc, hkey⟩, rfl, rfl⟩

/-- Time goes by. -/
theorem Tends.pass (cache : ComponentId) (instant : Instant) (w : World) :
    w.Tends cache (w.pass instant) where
  grows := .of_eq rfl rfl rfl rfl rfl (le_refl _)
  now_le := Nat.le_max_left ..
  spares := .of_eq rfl

/-! ### Reading and writing -/

/-- A read leaves the entries as they were, but for the expired one that it meets. -/
theorem readCache_spares (key : String) (w : World) : w.Spares cache (w.readCache cache key).2 := by
  cases hc : w.caches.get? cache with
  | none => exact .of_eq (by simp [readCache, hc])
  | some c =>
    have hget : Cache.Handled w.now c (c.get w.now key).2 := .get key
    exact .set hc hget.spares (by simp [readCache, hc])

/-- **A write is the only origin of an entry.** -/
theorem cached?_writeCache {key other : String} {value : Json} {ttl : Nat} {e' : Cache.Entry Json}
    (h : (w.writeCache cache key value ttl).cached? cache other = some e') :
    (other = key ∧ e' = .create w.now value ttl) ∨
      ∃ e, w.cached? cache other = some e ∧ e'.value = e.value ∧ e'.expires = e.expires := by
  obtain ⟨c', hc', he'⟩ := cached?_eq_some.mp h
  cases hc : w.caches.get? cache with
  | none => simp [writeCache, hc] at hc'
  | some c =>
    simp only [writeCache, hc, caches_report, Table.get?_set] at hc'
    obtain rfl := Option.some.inj hc'
    rw [Cache.store_set] at he'
    obtain hnew | ⟨e, he, heq⟩ := Cache.Store.get?_set he'
    · exact .inl hnew
    · exact .inr ⟨e, cached?_eq_some.mpr ⟨c, hc, he⟩, heq⟩

/-- **A read finds a live entry.** -/
theorem readCache_eq_some {key : String} {value : Json}
    (h : (w.readCache cache key).1 = some value) : Cache.keyFault? key = none ∧
      ∃ e, w.cached? cache key = some e ∧ e.value = value ∧ w.now < e.expires := by
  cases hc : w.caches.get? cache with
  | none => simp [readCache, hc] at h
  | some c =>
    simp only [readCache, hc] at h
    obtain ⟨hgood, e, he, hvalue, hlive⟩ := Cache.Store.get_eq_some (Cache.get_eq_some h)
    exact ⟨hgood, e, cached?_eq_some.mpr ⟨c, hc, he⟩, hvalue, hlive⟩

/-- A bad key finds nothing and changes nothing. -/
theorem readCache_of_fault {key : String} {fault : Cache.Fault}
    (h : Cache.keyFault? key = some fault) (w : World) : (w.readCache cache key).1 = none ∧
      ∀ id, (w.readCache cache key).2.caches.get? id = w.caches.get? id := by
  cases hc : w.caches.get? cache with
  | none => simp [readCache, hc]
  | some c =>
    have hget : c.get w.now key = (none, c) := by
      simp [Cache.get, Cache.Store.get_of_fault h]
    refine ⟨by simp [readCache, hc, hget], fun id => ?_⟩
    simp only [readCache, hc, hget, Table.get?_set]
    split
    · next heq => rw [← heq, hc]
    · rfl

theorem writeCache_of_fault {key : String} {fault : Cache.Fault}
    (h : Cache.keyFault? key = some fault) (value : Json) (ttl : Nat) (w : World)
    (id : ComponentId) : (w.writeCache cache key value ttl).caches.get? id = w.caches.get? id := by
  cases hc : w.caches.get? cache with
  | none => simp [writeCache, hc]
  | some c =>
    have hset : c.set w.now key value ttl = (none, c) := by
      simp [Cache.set, Cache.Store.set_of_fault h]
    simp only [writeCache, hc, hset, caches_report, Table.get?_set]
    split
    · next heq => rw [← heq, hc]
    · rfl

end World

/-! ### Every value that is found was stored -/

section Backing

variable {cache : ComponentId}

/-- Of a deed, only a write puts something new into a cache. -/
theorem Deed.Does.cached? {task : TaskId} {w w' : World} {d : Deed} (h : d.Does task w w')
    {key : String} {e' : Cache.Entry Json} (he' : w'.cached? cache key = some e') :
    (∃ ttl, d = .writeCache cache key e'.value ttl w.now ∧
      e'.expires = w.now + Cache.Entry.lifetime ttl) ∨
      ∃ e, w.cached? cache key = some e ∧ e'.value = e.value ∧ e'.expires = e.expires := by
  by_cases hd : d.part? = some (.cache cache)
  · cases h with
    | @readCache _ _ _ read found h =>
      cases hd
      have hspares : w.Spares cache (w.readCache cache read).2 := World.readCache_spares read w
      rw [h] at hspares
      exact .inr (hspares key e' he')
    | writeCache _ written value ttl =>
      cases hd
      obtain ⟨rfl, rfl⟩ | hthere := World.cached?_writeCache he'
      · exact .inl ⟨ttl, rfl, rfl⟩
      · exact .inr hthere
    | _ => cases hd
  · exact .inr (World.Spares.of_eq (h.within.caches hd) key e' he')

/-- What is in a cache was stored, and what was found there was stored before and is not too old. -/
structure Backed (cache : ComponentId) (w : World) (log : List Deed) : Prop where
  stored {key : String} {e : Cache.Entry Json} : w.cached? cache key = some e →
    ∃ ttl stored, .writeCache cache key e.value ttl stored ∈ log ∧
      e.expires = stored + Cache.Entry.lifetime ttl ∧ stored ≤ w.now
  found {before after : List Deed} {key : String} {value : Json} {now : Instant} :
    log = before ++ .readCache cache key (some value) now :: after →
      Cache.keyFault? key = none ∧ ∃ ttl stored, .writeCache cache key value ttl stored ∈ before ∧
        stored ≤ now ∧ now < stored + ttl * 1000

namespace Backed

variable {w w' : World} {log : List Deed}

theorem aside (h : Backed cache w log) (hstep : w.Tends cache w') : Backed cache w' log where
  stored {key e'} he' := by
    obtain ⟨e, he, hvalue, hexpires⟩ := hstep.spares key e' he'
    obtain ⟨ttl, stored, hmem, hends, hle⟩ := h.stored he
    exact ⟨ttl, stored, hvalue ▸ hmem, hexpires.trans hends, hle.trans hstep.now_le⟩
  found := h.found

/-- A value that is found now was stored before, and its time is not over. -/
theorem found_now (h : Backed cache w log) {key : String} {value : Json}
    (hread : (w.readCache cache key).1 = some value) : Cache.keyFault? key = none ∧
      ∃ ttl stored, .writeCache cache key value ttl stored ∈ log ∧ stored ≤ w.now ∧
        w.now < stored + ttl * 1000 := by
  obtain ⟨hgood, e, he, rfl, hlive⟩ := World.readCache_eq_some hread
  obtain ⟨ttl, stored, hmem, hends, hle⟩ := h.stored he
  have hshort : Cache.Entry.lifetime ttl ≤ ttl * 1000 := Nat.min_le_left ..
  refine ⟨hgood, ttl, stored, hmem, hle, hlive.trans_le ?_⟩
  rw [hends]
  exact Nat.add_le_add_left hshort stored

theorem deed (h : Backed cache w log) {task : TaskId} {d : Deed} (hdoes : d.Does task w w') :
    Backed cache w' (log ++ [d]) where
  stored {key e'} he' := by
    have hnow : w'.now = w.now := hdoes.within.now
    obtain ⟨ttl, rfl, hends⟩ | ⟨e, he, hvalue, hexpires⟩ := hdoes.cached? he'
    · exact ⟨ttl, w.now, by simp, hends, hnow.ge⟩
    · obtain ⟨ttl, stored, hmem, hends, hle⟩ := h.stored he
      exact ⟨ttl, stored, List.mem_append_left _ (hvalue ▸ hmem), hexpires.trans hends,
        hle.trans hnow.ge⟩
  found {before after key value now} hlog := by
    obtain rfl | ⟨front, last, rfl⟩ := List.eq_nil_or_concat' after
    · -- The read is the last deed.
      obtain ⟨rfl, hd⟩ := List.append_inj' hlog rfl
      obtain rfl := List.singleton_inj.mp hd
      cases hdoes with
      | readCache hread => exact h.found_now (by rw [hread])
    · rw [← List.cons_append, ← List.append_assoc] at hlog
      exact h.found (List.append_inj' hlog rfl).1

end Backed

/-- **Every value that is found in a cache was stored there before.** -/
theorem Chronicle.backed {w : World} {log : List Deed} {lives : List Life}
    (h : Chronicle (World.Tends cache) w log lives) : Backed cache w log := by
  refine h.invariant (motive := Backed cache) (fun _ _ hstep => hstep.grows)
    (fun settings recording => ?_) (fun _ _ _ hstep hbacked => hbacked.aside hstep)
    (fun _ _ _ _ _ _ _ _ hdoes hbacked => hbacked.deed hdoes)
  constructor
  · intro key e he
    cases he
  · intro before after key value now hlog
    exact absurd hlog.symm (List.append_ne_nil_of_right_ne_nil _ (List.cons_ne_nil _ _))

end Backing

/-! ### Wrappers -/

/-- A layer that remembers answers. -/
structure Wrapper where
  inner : Operation
  cache : ComponentId
  keyOf : Json → String
  ttl : Nat

/-- The layer around what is inside. -/
def Wrapper.op (wrapper : Wrapper) : Operation :=
  .cached wrapper.inner wrapper.cache wrapper.keyOf wrapper.ttl

/-- The wrappers in an operation. -/
def Operation.wrappers : Operation → List Wrapper
  | source _ => []
  | guarded op _ => op.wrappers
  | withFallback op _ fallback => op.wrappers ++ fallback.wrappers
  | limited op _ => op.wrappers
  | rateLimited op _ => op.wrappers
  | timed op _ _ => op.wrappers
  | retrying op _ => op.wrappers
  | cached op cache keyOf ttl => ⟨op, cache, keyOf, ttl⟩ :: op.wrappers

/-- An operation uses the cache of a wrapper by that wrapper only. -/
def Operation.Shares (shared : Wrapper) (op : Operation) : Prop :=
  ∀ wrapper ∈ op.wrappers, wrapper.cache = shared.cache → wrapper = shared

theorem Operation.exists_wrapper {op : Operation} {cache : ComponentId}
    (h : .cache cache ∈ op.parts) : ∃ wrapper ∈ op.wrappers, wrapper.cache = cache := by
  induction op with
  | source id => simp [parts] at h
  | guarded op _ ih | limited op _ ih | rateLimited op _ ih | timed op _ _ ih =>
    exact ih (by simpa [parts] using h)
  | retrying op policy ih => exact ih h
  | withFallback op _ fallback ih ih' =>
    simp only [parts, List.mem_cons, List.mem_append, reduceCtorEq, false_or] at h
    rcases h with h | h
    · obtain ⟨wrapper, hwrapper, hcache⟩ := ih h
      exact ⟨wrapper, List.mem_append_left _ hwrapper, hcache⟩
    · obtain ⟨wrapper, hwrapper, hcache⟩ := ih' h
      exact ⟨wrapper, List.mem_append_right _ hwrapper, hcache⟩
  | cached op other keyOf ttl ih =>
    rcases List.mem_cons.mp h with heq | h
    · exact ⟨_, List.mem_cons_self, (Part.cache.inj heq).symm⟩
    · obtain ⟨wrapper, hwrapper, hcache⟩ := ih h
      exact ⟨wrapper, List.mem_cons_of_mem _ hwrapper, hcache⟩

/-- A wrapper comes with the wrappers that are inside it. -/
theorem Operation.sublist_wrappers {op : Operation} {wrapper : Wrapper}
    (h : wrapper ∈ op.wrappers) : (wrapper :: wrapper.inner.wrappers).Sublist op.wrappers := by
  induction op with
  | source id => cases h
  | guarded op _ ih | limited op _ ih | rateLimited op _ ih | timed op _ _ ih
  | retrying op _ ih => exact ih h
  | withFallback op _ fallback ih ih' =>
    rcases List.mem_append.mp h with h | h
    · exact (ih h).trans (List.sublist_append_left ..)
    · exact (ih' h).trans (List.sublist_append_right ..)
  | cached op cache keyOf ttl ih =>
    rcases List.mem_cons.mp h with rfl | h
    · exact .refl _
    · exact (ih h).cons _

/-- **What is behind a shared cache does not use it.** -/
theorem Operation.Shares.not_mem_parts {op : Operation} {shared : Wrapper} (h : op.Shares shared)
    (hshared : shared ∈ op.wrappers) : .cache shared.cache ∉ shared.inner.parts := by
  intro hpart
  obtain ⟨wrapper, hwrapper, hcache⟩ := Operation.exists_wrapper hpart
  have hmem := (Operation.sublist_wrappers hshared).subset (List.mem_cons_of_mem _ hwrapper)
  obtain rfl := h wrapper hmem hcache
  -- The wrapper would be inside itself.
  exact Nat.not_succ_le_self _ (Operation.sublist_wrappers hwrapper).length_le

/-! ### Invocations of wrappers -/

/-- One invocation of a wrapper, as far as it got. -/
structure Lookup where
  wrapper : Wrapper
  arg : Json
  deeds : List Deed
  poll : Poll
  story : Story (.run wrapper.op) arg deeds poll

/-- The invocations of wrappers in a story. -/
def Story.lookups {plan : Plan} {arg : Json} {ds : List Deed} {poll : Poll}
    (st : Story plan arg ds poll) : List Lookup :=
  match st with
  | .working .. | .returned .. | .refused .. => []
  | .guarded _ st => st.lookups
  | .passedBy _ st => st.lookups
  | .primary _ st _ => st.lookups
  | .replaced _ st st' => st.lookups ++ st'.lookups
  | .lineFull _ | .awaitingSlot _ => []
  | .limited _ st => st.lookups
  | .bucketClosed _ | .awaitingToken _ | .sentAway .. => []
  | .rateLimited _ st => st.lookups
  | .unhindered st _ => st.lookups
  | .timed _ st => st.lookups
  | .timeless st => st.lookups
  | .ranOut _ st => st.lookups
  | .retrying st => st.lookups
  | .lastAttempt st _ => st.lookups
  | .pausing _ st _ => st.lookups
  | .again st _ _ st' => st.lookups ++ st'.lookups
  | @hit inner cache keyOf ttl arg value now =>
    [⟨⟨inner, cache, keyOf, ttl⟩, arg, _, _, .hit value now⟩]
  | @miss inner cache keyOf ttl arg _ _ now later st =>
    ⟨⟨inner, cache, keyOf, ttl⟩, arg, _, _, .miss now later st⟩ :: st.lookups

/-- A call of a wrapper is an invocation of it. -/
theorem Story.mem_lookups {wrapper : Wrapper} {arg : Json} {ds : List Deed} {poll : Poll}
    (st : Story (.run wrapper.op) arg ds poll) :
    (⟨wrapper, arg, ds, poll, st⟩ : Lookup) ∈ st.lookups := by
  obtain ⟨inner, cache, keyOf, ttl⟩ := wrapper
  cases st with
  | hit value now => exact List.mem_singleton_self _
  | miss now later st => exact List.mem_cons_self

namespace Lookup

/-- The key of an invocation. -/
def key (l : Lookup) : String := l.wrapper.keyOf l.arg

/-- The cache had a value, and nothing but the read was done. -/
structure Hits (value : Json) (now : Instant) (l : Lookup) : Prop where
  deeds : l.deeds = [.readCache l.wrapper.cache l.key (some value) now]
  poll : l.poll = .ready (.ok value)

/-- The cache had no value, and the operation inside was invoked once, did these deeds and got so
far; a good answer was stored. -/
structure Misses (ds : List Deed) (poll : Poll) (l : Lookup) : Prop where
  inner : Nonempty (Story (.run l.wrapper.inner) l.arg ds poll)
  deeds : ∃ now later, l.deeds = .readCache l.wrapper.cache l.key none now ::
    (ds ++ poll.storing l.wrapper.cache l.key l.wrapper.ttl later)
  poll : l.poll = poll.within (.filling l.wrapper.cache l.key l.wrapper.ttl)

/-- What is inside had a good answer, which was stored in the cache, all of it in this log. -/
structure Stores (cache : ComponentId) (key : String) (value : Json) (ttl : Nat) (stored : Instant)
    (log : List Deed) (l : Lookup) : Prop where
  sameCache : l.wrapper.cache = cache
  sameKey : l.key = key
  sameTtl : l.wrapper.ttl = ttl
  answered : ∃ ds, l.Misses ds (.ready (.ok value))
  written : .writeCache cache key value ttl stored ∈ l.deeds
  sublist : l.deeds.Sublist log

/-- **A wrapper hits, or it invokes what is inside once.** -/
theorem hits_or_misses (l : Lookup) :
    (∃ value now, l.Hits value now) ∨ ∃ ds poll, l.Misses ds poll := by
  obtain ⟨⟨inner, cache, keyOf, ttl⟩, arg, deeds, poll, story⟩ := l
  cases story with
  | hit value now => exact .inl ⟨value, now, rfl, rfl⟩
  | miss now later st => exact .inr ⟨_, _, ⟨st⟩, ⟨now, later, rfl⟩, rfl⟩

end Lookup

/-- A call that is taken apart leaves the caches alone. -/
theorem Call.undoing_spares (cache : ComponentId) (c : Call) :
    ∀ d ∈ c.undoing, d.part? ≠ some (.cache cache) := by
  induction c with
  | working | pausing => simp [undoing]
  | awaitingSlot | awaitingToken => simp [undoing, Deed.part?]
  | guarded breaker probe inner ih | withFallback breaker probe fallback arg inner ih
  | holdingSlot limiter inner ih =>
    exact List.forall_mem_append.mpr ⟨ih, by simp [Deed.part?]⟩
  | timed _ _ _ inner ih | attempting _ _ _ _ _ inner ih | filling _ _ _ inner ih => exact ih

/-- The operation of a plan. -/
def Plan.op : Plan → Operation
  | run op => op
  | attempts _ op _ _ => op

namespace Story

variable {plan : Plan} {arg : Json} {ds : List Deed} {poll : Poll} {l : Lookup}

/-- The invocations of a call are those of its wrappers, for its argument, and what they did was
done in it. -/
theorem lookup_within (st : Story plan arg ds poll) (hl : l ∈ st.lookups) :
    l.wrapper ∈ plan.op.wrappers ∧ l.arg = arg ∧ l.deeds ⊆ ds := by
  have hmore {op op' : Operation} {arg : Json} {ds ds' : List Deed}
      (hop : op.wrappers ⊆ op'.wrappers) (hds : ds ⊆ ds')
      (h : l.wrapper ∈ op.wrappers ∧ l.arg = arg ∧ l.deeds ⊆ ds) :
      l.wrapper ∈ op'.wrappers ∧ l.arg = arg ∧ l.deeds ⊆ ds' :=
    ⟨hop h.1, h.2.1, List.Subset.trans h.2.2 hds⟩
  -- The induction is on the story: each layer adds deeds around those of the call inside it, and
  -- its operation has the wrappers of the one inside it, or more.
  induction st with
  | working | returned | refused | lineFull | awaitingSlot | bucketClosed | awaitingToken
  | sentAway => cases hl
  | guarded _ _ ih => exact hmore (List.Subset.refl _) (by simp) (ih hl)
  | passedBy _ _ ih => exact hmore (List.subset_append_right ..) (by simp) (ih hl)
  | primary _ _ _ ih => exact hmore (List.subset_append_left ..) (by simp) (ih hl)
  | replaced _ _ _ ih ih' =>
    rcases List.mem_append.mp hl with hl | hl
    · exact hmore (List.subset_append_left ..) (by simp) (ih hl)
    · exact hmore (List.subset_append_right ..) (fun d hd => by simp [hd]) (ih' hl)
  | limited _ _ ih => exact hmore (List.Subset.refl _) (by simp) (ih hl)
  | rateLimited _ _ ih =>
    exact hmore (List.Subset.refl _) (List.subset_append_right ..) (ih hl)
  | unhindered _ _ ih => exact ih hl
  | timed _ _ ih => exact hmore (List.Subset.refl _) (by simp) (ih hl)
  | timeless _ ih => exact hmore (List.Subset.refl _) (by simp) (ih hl)
  | ranOut _ _ ih =>
    refine hmore (List.Subset.refl _) (List.append_subset.mpr ⟨List.subset_append_left .., ?_⟩)
      (ih hl)
    intro d hd
    simp [hd]
  | retrying _ ih => exact ih hl
  | lastAttempt _ _ ih => exact ih hl
  | pausing _ _ _ ih => exact hmore (List.Subset.refl _) (by simp) (ih hl)
  | again _ _ _ _ ih ih' =>
    rcases List.mem_append.mp hl with hl | hl
    · exact hmore (List.Subset.refl _) (by simp) (ih hl)
    · exact hmore (List.Subset.refl _) (by simp) (ih' hl)
  | hit =>
    obtain rfl := List.mem_singleton.mp hl
    exact ⟨List.mem_cons_self, rfl, List.Subset.refl _⟩
  | miss _ _ _ ih =>
    rcases List.mem_cons.mp hl with rfl | hl
    · exact ⟨List.mem_cons_self, rfl, List.Subset.refl _⟩
    · exact hmore (List.subset_cons_self ..) (by simp) (ih hl)

/-- **What a call stores, one of its wrappers stores**: a good answer of what is inside, under the
key of the argument. -/
theorem exists_stores {cache : ComponentId} {key : String} {value : Json} {ttl : Nat}
    {stored : Instant} {log : List Deed} (st : Story plan arg ds poll)
    (hby : (Deed.writeCache cache key value ttl stored).DoneBy log ds) :
    ∃ l ∈ st.lookups, l.Stores cache key value ttl stored log := by
  -- What the layers do beside the calls inside them is never to store a value.
  have hsettling (breaker : String) (probe : Bool) (poll : Poll) :
      .writeCache cache key value ttl stored ∉ poll.settling breaker probe := by
    cases poll <;> simp [Poll.settling]
  have hreleasing (limiter : ComponentId) (poll : Poll) :
      .writeCache cache key value ttl stored ∉ poll.releasing limiter := by
    cases poll <;> simp [Poll.releasing]
  have hundone (c : Call) : .writeCache cache key value ttl stored ∉ c.undoing :=
    fun h => c.undoing_spares cache _ h rfl
  have hnap {length? : Option Duration} {nap : List Deed} (h : Nap length? nap) :
      .writeCache cache key value ttl stored ∉ nap := by
    cases h <;> simp
  have hjoin {ls ls' : List Lookup} {stores : Lookup → Prop}
      (h : (∃ l ∈ ls, stores l) ∨ ∃ l ∈ ls', stores l) : ∃ l ∈ ls ++ ls', stores l := by
    simpa [or_and_right, exists_or] using h
  -- So the deed is traced inwards, to a wrapper that misses.
  induction st with
  | working | refused | lineFull | awaitingSlot | bucketClosed | awaitingToken | sentAway | hit =>
    simpa using hby.mem
  | returned h => simpa [hnap h] using hby.mem
  | guarded _ _ ih => exact ih ((hby.tail (by simp)).left (hsettling _ _ _))
  | primary _ _ _ ih => exact ih ((hby.tail (by simp)).left (hsettling _ _ _))
  | passedBy _ _ ih => exact ih (hby.tail (by simp))
  | replaced _ st st' ih ih' =>
    have hparts := (hby.tail (by simp)).append
    exact hjoin (hparts.imp ih fun hlater => ih' (hlater.tail (by simp)))
  | limited h _ ih =>
    refine ih ((hby.right ?_).left (hreleasing _ _))
    cases h <;> simp
  | rateLimited h _ ih =>
    refine ih (hby.right ?_)
    cases h <;> simp
  | unhindered _ _ ih => exact ih hby
  | timed _ _ ih => exact ih (hby.skip (by simp))
  | timeless _ ih => exact ih (hby.left (by simp [hundone]))
  | ranOut _ _ ih =>
    have hbefore := hby.skip (by simp)
    rw [← List.append_assoc] at hbefore
    exact ih (hbefore.left (by simp [hundone]))
  | retrying _ ih => exact ih hby
  | lastAttempt _ _ ih => exact ih hby
  | pausing _ _ _ ih => exact ih (hby.left (by simp))
  | again st _ h st' ih ih' =>
    exact hjoin (hby.append.imp ih fun hlater => ih' (hlater.right (hnap h)))
  | @miss _ _ _ _ _ ds poll now later st ih =>
    have hinside {first : Lookup}
        (hby : (Deed.writeCache cache key value ttl stored).DoneBy log ds) :
        ∃ l ∈ first :: st.lookups, l.Stores cache key value ttl stored log := by
      obtain ⟨l, hl, hstores⟩ := ih hby
      exact ⟨l, List.mem_cons_of_mem _ hl, hstores⟩
    rcases poll with c | (failure | answer) | text
    · exact hinside ((hby.tail (by simp)).left (by simp [Poll.storing]))
    · exact hinside ((hby.tail (by simp)).left (by simp [Poll.storing]))
    · -- The answer is good, and the last thing that is done is to store it.
      rw [Poll.storing, ← List.cons_append] at hby
      obtain hbefore | ⟨heq, hsub⟩ := hby.concat
      · exact hinside (hbefore.tail (by simp))
      · cases heq
        exact ⟨_, List.mem_cons_self, rfl, rfl, rfl, ⟨_, ⟨st⟩, ⟨now, _, rfl⟩, rfl⟩,
          by simp [Poll.storing], hsub⟩
    · exact hinside ((hby.tail (by simp)).left (by simp [Poll.storing]))

end Story

/-! ### Answers -/

/-- A call that is taken apart leaves the caches as they are. -/
theorem Call.abandon_caches (c : Call) (cache : ComponentId) (w : World) :
    (c.abandon w).caches.get? cache = w.caches.get? cache :=
  (c.abandon_did 0 w).keeps (motive := fun w' => w'.caches.get? cache = w.caches.get? cache)
    (fun d hd _ _ hdoes hw => (hdoes.within.caches (c.undoing_spares cache d hd)).trans hw) rfl

/-- What is done with a cache is not done when the call is taken apart. -/
theorem Life.doneBy_deeds (life : Life) {log : List Deed} {d : Deed} {cache : ComponentId}
    (hby : d.DoneBy log life.done) (hpart : d.part? = some (.cache cache)) :
    d.DoneBy log life.deeds := by
  refine hby.left ?_
  split
  · cases life.poll with
    | pending c => exact fun hd => c.undoing_spares cache d hd hpart
    | ready outcome => simp [Poll.undoing]
    | panicked text => simp [Poll.undoing]
  · simp

namespace Lookup

variable {l : Lookup}

/-- **A good answer comes from the cache or from what is inside.** -/
theorem hits_or_misses_of_ok {value : Json} (h : l.poll = .ready (.ok value)) :
    (∃ ds, l.Misses ds (.ready (.ok value))) ∨ ∃ now, l.Hits value now := by
  obtain ⟨other, now, hhits⟩ | ⟨ds, poll, hmisses⟩ := l.hits_or_misses
  · obtain rfl : other = value := by simpa [hhits.poll] using h
    exact .inr ⟨now, hhits⟩
  · obtain rfl := Poll.within_eq_ready.mp (hmisses.poll.symm.trans h)
    exact .inl ⟨ds, hmisses⟩

/-- What is inside does not touch the cache, unless it is made of it. -/
theorem Misses.part?_ne {ds : List Deed} {poll : Poll} (h : l.Misses ds poll)
    (hparts : .cache l.wrapper.cache ∉ l.wrapper.inner.parts) :
    ∀ d ∈ ds, d.part? ≠ some (.cache l.wrapper.cache) := by
  obtain ⟨st⟩ := h.inner
  exact fun d hd hpart => hparts (st.isFor d hd _ hpart)

/-- **Without a good answer nothing is stored.** -/
theorem not_mem_deeds (hparts : .cache l.wrapper.cache ∉ l.wrapper.inner.parts)
    (h : ∀ value, l.poll ≠ .ready (.ok value)) (key : String) (value : Json) (ttl : Nat)
    (stored : Instant) : .writeCache l.wrapper.cache key value ttl stored ∉ l.deeds := by
  obtain ⟨other, now, hhits⟩ | ⟨ds, poll, hmisses⟩ := l.hits_or_misses
  · exact absurd hhits.poll (h other)
  · have hpoll : ∀ value, poll ≠ .ready (.ok value) := by
      rintro value rfl
      exact h value hmisses.poll
    obtain ⟨now, later, hdeeds⟩ := hmisses.deeds
    have hnothing : poll.storing l.wrapper.cache l.key l.wrapper.ttl later = [] := by
      rcases poll with c | (failure | answer) | text
      · rfl
      · rfl
      · exact absurd rfl (hpoll answer)
      · rfl
    rw [hdeeds, hnothing, List.append_nil, List.mem_cons]
    rintro (heq | hmem)
    · cases heq
    · exact hmisses.part?_ne hparts _ hmem rfl

end Lookup

/-- An invocation of the wrapper with this key had a good answer from what is inside and stored it,
all of it in this log, and the time of the answer is not over. -/
def Wrapper.Stored (shared : Wrapper) (lives : List Life) (log : List Deed) (key : String)
    (value : Json) (now : Instant) : Prop :=
  ∃ life ∈ lives, ∃ l ∈ life.story.lookups, ∃ stored, l.wrapper = shared ∧
    l.Stores shared.cache key value shared.ttl stored log ∧
    stored ≤ now ∧ now < stored + shared.ttl * 1000

section Sharing

variable {shared : Wrapper} {w : World} {log : List Deed} {lives : List Life}

/-- **Whatever is written into a shared cache by some time, a wrapper has stored it.** -/
theorem Chronicle.exists_stores {aside : World → World → Prop} (h : Chronicle aside w log lives)
    (hshares : ∀ life ∈ lives, life.op.Shares shared) {p : List Deed} (hp : p <+: log)
    {key : String} {value : Json} {ttl : Nat} {stored : Instant}
    (hwrite : .writeCache shared.cache key value ttl stored ∈ p) :
    ttl = shared.ttl ∧ ∃ life ∈ lives, ∃ l ∈ life.story.lookups,
      l.wrapper = shared ∧ l.Stores shared.cache key value ttl stored p := by
  -- The deed belongs to one of the calls, and there to one of its wrappers.
  obtain ⟨_, hmem, hby⟩ := h.interleaved.exists_done hp hwrite
  obtain ⟨life, hlife, rfl⟩ := List.mem_map.mp hmem
  obtain ⟨l, hl, hstores⟩ := life.story.exists_stores (life.doneBy_deeds hby rfl)
  have hwrapper : l.wrapper = shared :=
    hshares life hlife l.wrapper (life.story.lookup_within hl).1 hstores.sameCache
  exact ⟨by rw [← hstores.sameTtl, hwrapper], life, hlife, l, hl, hwrapper, hstores⟩

/-- **What is found in a shared cache was stored there by an invocation with the same key.** -/
theorem Chronicle.stored_of_found (h : Chronicle (World.Tends shared.cache) w log lives)
    (hshares : ∀ life ∈ lives, life.op.Shares shared) {before after : List Deed} {key : String}
    {value : Json} {now : Instant}
    (hlog : log = before ++ .readCache shared.cache key (some value) now :: after) :
    Cache.keyFault? key = none ∧ shared.Stored lives before key value now := by
  obtain ⟨hgood, ttl, stored, hmem, hle, hlt⟩ := h.backed.found hlog
  have hbefore : before <+: log := hlog ▸ List.prefix_append ..
  obtain ⟨rfl, life, hlife, l, hl, hwrapper, hstores⟩ := h.exists_stores hshares hbefore hmem
  exact ⟨hgood, life, hlife, l, hl, stored, hwrapper, hstores, hle, hlt⟩

/-- What a call does is in the log. -/
theorem Chronicle.mem_log {aside : World → World → Prop} (h : Chronicle aside w log lives)
    {life : Life} (hlife : life ∈ lives) {d : Deed} (hd : d ∈ life.deeds) : d ∈ log :=
  h.log_perm.mem_iff.mpr (List.mem_flatMap.mpr ⟨life, hlife, List.mem_append_left _ hd⟩)

/-- What may be relied on in an invocation of a shared wrapper. -/
structure Lookup.Sound (shared : Wrapper) (log : List Deed) (lives : List Life) (l : Lookup) :
    Prop where
  wrapper : l.wrapper = shared
  /-- A good answer is what the own invocation of what is inside returned, or what an earlier one
  for the same key returned and stored. -/
  answer {value : Json} : l.poll = .ready (.ok value) →
    (∃ ds, l.Misses ds (.ready (.ok value))) ∨
      ∃ now, l.Hits value now ∧ .readCache shared.cache l.key (some value) now ∈ log ∧
        ∀ before after, log = before ++ .readCache shared.cache l.key (some value) now :: after →
          shared.Stored lives before l.key value now
  /-- What is inside is not invoked, or it is invoked once and leaves the cache alone. -/
  invoked : (∃ value now, l.Hits value now) ∨
    ∃ ds poll, l.Misses ds poll ∧ ∀ d ∈ ds, d.part? ≠ some (.cache shared.cache)
  /-- Without a good answer nothing is stored. -/
  unanswered : (∀ value, l.poll ≠ .ready (.ok value)) → ∀ key value ttl stored,
    .writeCache shared.cache key value ttl stored ∉ l.deeds
  invalid : Cache.keyFault? l.key ≠ none → ∀ value now, ¬ l.Hits value now

theorem Chronicle.lookup_sound (h : Chronicle (World.Tends shared.cache) w log lives)
    (hshares : ∀ life ∈ lives, life.op.Shares shared) {life : Life} (hlife : life ∈ lives)
    {l : Lookup} (hl : l ∈ life.story.lookups) (hcache : l.wrapper.cache = shared.cache) :
    l.Sound shared log lives := by
  obtain ⟨hmem, -, hdeeds⟩ := life.story.lookup_within hl
  obtain rfl : l.wrapper = shared := hshares life hlife l.wrapper hmem hcache
  have hparts : .cache l.wrapper.cache ∉ l.wrapper.inner.parts :=
    (hshares life hlife).not_mem_parts hmem
  have hread {value : Json} {now : Instant} (hhits : l.Hits value now) :
      .readCache l.wrapper.cache l.key (some value) now ∈ log :=
    h.mem_log hlife (hdeeds (by simp [hhits.deeds]))
  refine ⟨rfl, fun hpoll => ?_, ?_, l.not_mem_deeds hparts, fun hbad value now hhits => ?_⟩
  · refine (Lookup.hits_or_misses_of_ok hpoll).imp_right fun ⟨now, hhits⟩ => ?_
    exact ⟨now, hhits, hread hhits, fun before after hlog => (h.stored_of_found hshares hlog).2⟩
  · refine l.hits_or_misses.imp_right fun ⟨ds, poll, hmisses⟩ => ?_
    exact ⟨ds, poll, hmisses, hmisses.part?_ne hparts⟩
  · obtain ⟨before, after, hlog⟩ := List.append_of_mem (hread hhits)
    exact hbad (h.stored_of_found hshares hlog).1

end Sharing

/-- A wrapper that finds a value returns it, and only the caches notice. -/
theorem Wrapper.start_of_found (wrapper : Wrapper) (task : TaskId) {arg value : Json} {w : World}
    (h : (w.readCache wrapper.cache (wrapper.keyOf arg)).1 = some value) :
    wrapper.op.start task arg w = (.ready (.ok value),
      { w with caches := (w.readCache wrapper.cache (wrapper.keyOf arg)).2.caches }) := by
  cases hc : w.caches.get? wrapper.cache with
  | none => simp [World.readCache, hc] at h
  | some c =>
    simp only [World.readCache, hc] at h
    simp only [op, Operation.start, World.readCache, hc, h]

/-- **Every good answer of a wrapper is an answer of what is inside**: of its own invocation, or of
an earlier one for the same key that was stored less than the lifetime before. Beside the calls
everything may go on but writing into the cache. -/
theorem Wrapper.answers_of_inner {shared : Wrapper} {w : World} {log : List Deed}
    {lives : List Life} (h : Chronicle (World.Tends shared.cache) w log lives)
    (hshares : ∀ life ∈ lives, life.op.Shares shared) :
    (∀ arg ds poll (st : Story (.run shared.op) arg ds poll),
      (⟨shared, arg, ds, poll, st⟩ : Lookup) ∈ st.lookups) ∧
    (∀ life ∈ lives, ∀ l ∈ life.story.lookups, l.wrapper.cache = shared.cache →
      l.arg = life.arg ∧ l.Sound shared log lives) ∧
    (∀ key value ttl stored, .writeCache shared.cache key value ttl stored ∈ log →
      ttl = shared.ttl ∧ ∃ life ∈ lives, ∃ l ∈ life.story.lookups,
        l.wrapper = shared ∧ l.Stores shared.cache key value ttl stored log) ∧
    (∀ (c : Call) (w : World),
      (c.abandon w).caches.get? shared.cache = w.caches.get? shared.cache) ∧
    (∀ task arg value (w : World),
      (w.readCache shared.cache (shared.keyOf arg)).1 = some value →
      shared.op.start task arg w = (.ready (.ok value),
        { w with caches := (w.readCache shared.cache (shared.keyOf arg)).2.caches })) ∧
    (∀ key fault (w : World), Cache.keyFault? key = some fault →
      (w.readCache shared.cache key).1 = none ∧ ∀ id,
        (w.readCache shared.cache key).2.caches.get? id = w.caches.get? id ∧
        ∀ value, (w.writeCache shared.cache key value shared.ttl).caches.get? id =
          w.caches.get? id) ∧
    (∀ (w : World) c c', w.caches.get? shared.cache = some c → Cache.Handled w.now c c' →
      w.Tends shared.cache { w with caches := w.caches.set shared.cache c' }) ∧
    ∀ w : World, w.Tends shared.cache (w.sweepCache shared.cache) := by
  refine ⟨fun arg ds poll st => st.mem_lookups,
    fun life hlife l hl hcache => ⟨(life.story.lookup_within hl).2.1,
      h.lookup_sound hshares hlife hl hcache⟩,
    fun key value ttl stored hwrite => h.exists_stores hshares (List.prefix_refl log) hwrite,
    fun c w => c.abandon_caches shared.cache w,
    fun task arg value w hfound => shared.start_of_found task hfound,
    fun key fault w hfault => ?_, fun w c c' hc hhandled => .handle hc hhandled, .sweep _⟩
  obtain ⟨hnone, hsame⟩ := World.readCache_of_fault hfault w
  exact ⟨hnone, fun id => ⟨hsame id, fun value => World.writeCache_of_fault hfault value _ w id⟩⟩

/-- A source that gives back its argument, with answers remembered for one second under one key. -/
def Wrapper.oneKey : Wrapper := ⟨.source 9, 0, fun _ => "k", 1⟩

/-- A world with a new cache. -/
def World.shelf : World := (World.createCache {} false { settings := {}, recording := false }).2

/-- What is done by the first call: the cache is empty, and the answer is stored. -/
def Wrapper.firstDeeds : List Deed :=
  [.readCache 0 "k" none 0, .invoke 9 .null ⟨none, .echo⟩, .finish 9 .null .echo,
    .writeCache 0 "k" .null 1 0]

def Wrapper.firstLife : Life where
  task := 1
  op := oneKey.op
  arg := .null
  deeds := firstDeeds
  poll := .ready (.ok .null)
  story := .miss 0 0 (@Story.returned 9 .null ⟨none, .echo⟩ [] .nothing)
  cancelled := false

/-- The second call has another argument with the same key. -/
def Wrapper.secondLife : Life where
  task := 2
  op := oneKey.op
  arg := .bool true
  deeds := [.readCache 0 "k" (some .null) 999]
  poll := .ready (.ok .null)
  story := .hit .null 999
  cancelled := false

theorem Wrapper.oneKey_shares : oneKey.op.Shares oneKey := by
  intro wrapper hwrapper _
  simpa [Wrapper.op, Operation.wrappers, oneKey] using hwrapper

/-- In the last millisecond of its lifetime the answer of the first call is found by the second. -/
theorem Wrapper.answers_of_inner_recalled :
    ∃ w log, Chronicle (World.Tends oneKey.cache) w log [firstLife, secondLife] ∧
      (∀ life ∈ [firstLife, secondLife], life.op.Shares oneKey) ∧
      ∃ l ∈ secondLife.story.lookups, l.Hits .null 999 ∧
        l.Sound oneKey log [firstLife, secondLife] ∧
        oneKey.Stored [firstLife, secondLife] firstDeeds "k" .null 999 := by
  have hempty : Chronicle (World.Tends oneKey.cache) World.shelf [] [] :=
    .aside (.empty {} false) (.createCache ..)
  have hfirst : Chronicle (World.Tends oneKey.cache) (oneKey.op.start 1 .null World.shelf).2
      firstDeeds [firstLife] :=
    .start 1 oneKey.op .null hempty trivial
      (.cons (.readCache rfl) (.cons (.invoke rfl) (.cons (.finish ..)
        (.cons (.writeCache ..) (.nil _))))) firstLife.story
  have hlater := hfirst.aside (.pass oneKey.cache 999 _)
  have hboth : Chronicle (World.Tends oneKey.cache) _ (firstDeeds ++ secondLife.deeds)
      [firstLife, secondLife] :=
    .start 2 oneKey.op (.bool true) hlater trivial (.single (.readCache rfl)) secondLife.story
  have hshares : ∀ life ∈ [firstLife, secondLife], life.op.Shares oneKey := by
    intro life hlife
    rcases List.mem_pair.mp hlife with rfl | rfl
    · exact oneKey_shares
    · exact oneKey_shares
  obtain ⟨-, hsound, -⟩ := answers_of_inner hboth hshares
  have hmem : (⟨oneKey, .bool true, _, _, .hit .null 999⟩ : Lookup) ∈ secondLife.story.lookups :=
    List.mem_singleton_self _
  obtain ⟨-, hl⟩ := hsound secondLife (by simp) _ hmem rfl
  refine ⟨_, _, hboth, hshares, _, hmem, ⟨rfl, rfl⟩, hl, ?_⟩
  -- The second call did no more than read, so it cannot have missed.
  obtain ⟨ds, hmisses⟩ | ⟨now, hhits, -, hstored⟩ := hl.answer rfl
  · obtain ⟨now, later, hdeeds⟩ := hmisses.deeds
    cases hdeeds
  · cases hhits.deeds
    exact hstored firstDeeds [] rfl

end Resilience
