import Resilience.Proofs.Cache.Tidying

/-!
# How the parts of a store agree

A store keeps the same keys three times: with their entries, with their ticks, and in the order of
use. Six requests change these parts one after the other, and a key that stayed in one of them alone
would be a place that no eviction frees. `Store.Consistent` says what the parts have to do with each
other. It follows from the line-up that a store shows, as long as that fits the room, so nothing
has to be proved of it for each request again (`Shows.consistent`).

A request fails for a bad key and for nothing else, and a failure changes nothing
(`Shows.refused_iff`, `respond_of_fault`). In particular a full store always has a key to let go of,
so a good key can always be set (`Shows.set_good`).
-/

namespace Resilience

namespace Cache

variable {α : Type}

/-- The key that a request is about. -/
def Request.key? : Request α → Option String
  | set key .. => some key
  | get key => some key
  | has key => some key
  | delete key => some key
  | clear => none
  | sweep => none

/-- The complaint about the key of a request. -/
def Request.fault? (request : Request α) : Option Fault := request.key?.bind keyFault?

theorem keyFault?_ne_internal (key reason : String) : keyFault? key ≠ some (.internal reason) := by
  unfold keyFault?
  split_ifs <;> simp

theorem Request.fault?_ne_internal (request : Request α) (reason : String) :
    request.fault? ≠ some (.internal reason) := by
  unfold fault?
  cases request.key? with
  | none => simp
  | some key => exact keyFault?_ne_internal key reason

/-! ### Ticks that are drawn -/

namespace Recency

variable (key : String) (r : Recency)

@[simp]
theorem nextTick_touch : (r.touch key).nextTick = r.nextTick + 1 := rfl

@[simp]
theorem nextTick_remove : (r.remove key).nextTick = r.nextTick := by
  unfold remove
  split <;> rfl

@[simp]
theorem nextTick_evictOldest : r.evictOldest.2.nextTick = r.nextTick := by
  unfold evictOldest
  split <;> rfl

end Recency

namespace Store

variable {s : Store α} {l : Lineup α} {now : Instant} {key : String}

theorem nextTick_sweep (now : Instant) (s : Store α) :
    (s.sweep now).2.recency.nextTick = s.recency.nextTick := by
  unfold sweep
  generalize s.staleKeys now = gone
  induction gone generalizing s with
  | nil => rfl
  | cons key rest ih => exact (ih (s.drop key)).trans (Recency.nextTick_remove ..)

/-- A request draws one tick at most. -/
theorem nextTick_respond_le (now : Instant) (request : Request α) (s : Store α) :
    (s.respond now request).2.recency.nextTick ≤ s.recency.nextTick + 1 := by
  -- Only setting a value and reading one touch a key; removals draw no tick.
  cases request with
  | set key value ttl =>
    simp only [Store.respond, Store.set, makeRoom]
    cases keyFault? key with
    | some fault => exact Nat.le_succ _
    | none =>
      dsimp only
      split_ifs
      · have hevict := s.recency.nextTick_evictOldest
        rcases heq : s.recency.evictOldest with ⟨_ | oldest, recency⟩
        · exact Nat.le_succ _
        · rw [heq] at hevict
          exact Nat.le_of_eq (congrArg (· + 1) hevict)
      · exact Nat.le_refl _
  | get key =>
    simp only [Store.respond, Store.get, drop]
    cases keyFault? key with
    | some fault => exact Nat.le_succ _
    | none =>
      dsimp only
      split_ifs
      · simp
      · cases s.entries.get? key <;> simp
  | has key =>
    simp only [Store.respond, Store.has, drop]
    cases keyFault? key with
    | some fault => exact Nat.le_succ _
    | none => dsimp only; split_ifs <;> simp
  | delete key =>
    simp only [Store.respond, Store.delete, drop]
    cases keyFault? key with
    | some fault => exact Nat.le_succ _
    | none => dsimp only; split_ifs <;> simp
  | clear => exact Nat.le_succ _
  | sweep => exact Nat.le_succ_of_le (Nat.le_of_eq (nextTick_sweep now s))

/-- **Requests draw no more ticks than there are requests.** -/
theorem nextTick_after_le (requests : List (Instant × Request α)) (s : Store α) :
    (after Store.respond requests s).recency.nextTick ≤
      s.recency.nextTick + requests.length := by
  induction requests generalizing s with
  | nil => exact Nat.le_refl _
  | cons r rest ih =>
    have hfirst := nextTick_respond_le r.1 r.2 s
    have hrest := ih (s.respond r.1 r.2).2
    refine Nat.le_trans hrest ?_
    rw [List.length_cons]
    omega

/-! ### The parts of a store -/

/-- What the parts of a store have to do with each other. -/
structure Consistent (s : Store α) : Prop where
  entries_nodup : (Table.keys s.entries).Nodup
  ticks_nodup : (Table.keys s.recency.ticks).Nodup
  /-- The order of use goes from the lowest tick to the highest. -/
  rising : s.recency.order.Pairwise fun p q => p.1 < q.1
  mem_ticks_iff (key : String) :
    key ∈ Table.keys s.recency.ticks ↔ key ∈ Table.keys s.entries
  mem_order_iff (key : String) :
    key ∈ s.recency.order.map Prod.snd ↔ key ∈ Table.keys s.entries
  /-- The tick of a key leads back to the key, and the key of a tick to the tick. -/
  inverse (key : String) (tick : Nat) :
    s.recency.ticks.get? key = some tick ↔ (tick, key) ∈ s.recency.order
  /-- No tick in use is drawn again. -/
  fresh : ∀ tick ∈ Table.values s.recency.ticks, tick < s.recency.nextTick
  size_le : s.size ≤ s.maxKeys

/-- **The parts of a store agree** as long as it shows a line-up that fits the room. -/
theorem Shows.consistent (h : Shows s l) (hlen : l.length ≤ s.maxKeys) : s.Consistent where
  entries_nodup := h.nodup
  ticks_nodup := h.tracks.nodup_ticks
  rising := h.tracks.rising
  mem_ticks_iff key := by rw [h.tracks.keys_ticks_perm.mem_iff, h.keys_perm.mem_iff]
  mem_order_iff key := by rw [h.tracks.order_eq, h.keys_perm.mem_iff]
  inverse _ _ := h.tracks.get?_ticks
  fresh tick htick := by
    obtain ⟨⟨key, _⟩, hp, rfl⟩ := List.mem_map.mp htick
    have hget := (Table.get?_eq_some_iff h.tracks.nodup_ticks).mpr hp
    exact h.tracks.fresh _ (h.tracks.get?_ticks.mp hget)
  size_le := h.size_eq ▸ hlen

/-! ### Requests that fail -/

/-- **A request about a bad key is refused and changes nothing.** -/
theorem respond_of_fault {request : Request α} {fault : Fault} (h : request.fault? = some fault)
    (now : Instant) (s : Store α) : s.respond now request = (.refused fault, s) := by
  cases request with
  | set key | get key | has key | delete key =>
    have hkey : keyFault? key = some fault := h
    simp [Store.respond, Store.set, Store.get, Store.has, Store.delete, hkey]
  | clear | sweep => cases h

end Store

theorem Request.fault?_eq (request : Request α) :
    request.fault? = request.key?.bind Lineup.complaint? :=
  congrArg request.key?.bind (funext keyFault?_eq_complaint?)

/-- A line-up refuses a request for its key only. -/
theorem Lineup.respond_ne_refused {request : Request α} (h : request.fault? = none)
    (capacity : Nat) (now : Instant) (l : Lineup α) (fault : Fault) :
    (l.respond capacity now request).1 ≠ .refused fault := by
  rw [Request.fault?_eq] at h
  cases request with
  | set key value ttl =>
    have hkey : complaint? key = none := h
    simp only [respond, hkey]
    split_ifs <;> simp
  | get key | has key =>
    have hkey : complaint? key = none := h
    simp only [respond, hkey]
    cases l.item? key with
    | none => simp
    | some i => dsimp only; split_ifs <;> simp
  | delete key =>
    have hkey : complaint? key = none := h
    simp [respond, hkey]
  | clear | sweep => simp [respond]

namespace Store

variable {s : Store α} {l : Lineup α} {now : Instant} {key : String}

/-- **A request is refused for a bad key and for nothing else.** -/
theorem Shows.refused_iff (h : Shows s l) (hroom : 0 < s.maxKeys) {request : Request α}
    {fault : Fault} :
    (s.respond now request).1 = .refused fault ↔ request.fault? = some fault := by
  constructor
  · intro hrefused
    cases hfault : request.fault? with
    | none =>
      rw [(h.respond now hroom request).1] at hrefused
      exact absurd hrefused (Lineup.respond_ne_refused hfault s.maxKeys now l fault)
    | some fault' =>
      rw [respond_of_fault hfault] at hrefused
      exact congrArg some (Answer.refused.inj hrefused)
  · exact fun hfault => by rw [respond_of_fault hfault]

/-! ### Values that are set -/

theorem mem_keys_put (s : Store α) (now : Instant) (key : String) (value : α) (ttl : Nat)
    (other : String) : other ∈ Table.keys (s.put now key value ttl).entries ↔
      other = key ∨ other ∈ Table.keys s.entries := by
  rw [← Table.has_iff_mem_keys, ← Table.has_iff_mem_keys, put, Table.has, Table.get?_set]
  split
  · next heq => simp [heq]
  · next hne => simp [Ne.symm hne, Table.has]

/-- **A good key can always be set.** At most one key goes for it, which was stored before and is
another one. -/
theorem Shows.set_good (h : Shows s l) (hroom : 0 < s.maxKeys) (hkey : keyFault? key = none)
    (now : Instant) (value : α) (ttl : Nat) :
    ∃ evicted?, (s.set now key value ttl).1 = .ok evicted? ∧
      (∀ evicted ∈ evicted?, evicted ≠ key ∧ evicted ∈ Table.keys s.entries) ∧
      ∀ other, other ∈ Table.keys (s.set now key value ttl).2.entries ↔
        other = key ∨ other ∈ Table.keys s.entries ∧ other ∉ evicted? := by
  by_cases hfull : ¬ s.entries.has key = true ∧ s.maxKeys ≤ s.size
  · have hl : l ≠ [] := by
      rintro rfl
      have hsize := h.size_eq
      rw [List.length_nil] at hsize
      omega
    -- A full store has a front, since there is room for one key at least.
    obtain ⟨front, rest, s', rfl, hmake, hs'⟩ := h.makeRoom hl
    have hset : s.set now key value ttl = (.ok (some front.key), s'.put now key value ttl) := by
      simp only [set, hkey, if_pos hfull, hmake]
    obtain ⟨hnew, -⟩ := hfull
    obtain ⟨hfront, -⟩ := List.nodup_cons.mp h.tracks.distinct
    have hstored : front.key ∈ Table.keys s.entries :=
      h.keys_perm.mem_iff.mpr List.mem_cons_self
    refine ⟨some front.key, by rw [hset], ?_, fun other => ?_⟩
    · rintro _ ⟨⟩
      refine ⟨?_, hstored⟩
      rintro rfl
      exact hnew (Table.has_iff_mem_keys.mpr hstored)
    · -- What is left are the keys behind the front.
      rw [hset, mem_keys_put, hs'.keys_perm.mem_iff, h.keys_perm.mem_iff, List.map_cons,
        List.mem_cons, Option.mem_some_iff]
      refine or_congr_right ⟨fun hrest => ⟨.inr hrest, ?_⟩, ?_⟩
      · rintro rfl
        exact hfront hrest
      · rintro ⟨heq | hrest, hne⟩
        · exact absurd heq.symm hne
        · exact hrest
  · have hset : s.set now key value ttl = (.ok none, s.put now key value ttl) := by
      simp only [set, hkey, if_neg hfull]
    refine ⟨none, by rw [hset], by simp, fun other => ?_⟩
    rw [hset, mem_keys_put]
    simp

/-- **The parts of a store agree whatever is asked of it.** Entries, ticks and order of use have the
same keys; ticks and order are inverse to each other; all ticks in use are below the next one, and
no more were drawn than there were requests; there are no more entries than there is room for. So a
request fails for a bad key and for nothing else, never for want of a key that may go, and if it
fails, it leaves the whole store as it was. Setting a good key succeeds; at most one key goes for
it, one that was stored and is not the key itself. -/
theorem parts_agree (maxKeys defaultTtl : Nat) (requests : List (Instant × Request α)) :
    let s := after Store.respond requests (empty maxKeys defaultTtl)
    s.Consistent ∧ s.maxKeys = max maxKeys 1 ∧ s.recency.nextTick ≤ requests.length ∧
      (∀ now request fault, (s.respond now request).1 = .refused fault →
        request.fault? = some fault ∧ (∀ reason, fault ≠ .internal reason) ∧
          (s.respond now request).2 = s) ∧
      ∀ now key value ttl, keyFault? key = none →
        ∃ evicted?, (s.set now key value ttl).1 = .ok evicted? ∧
          (∀ evicted ∈ evicted?, evicted ≠ key ∧ evicted ∈ Table.keys s.entries) ∧
          ∀ other, other ∈ Table.keys (s.set now key value ttl).2.entries ↔
            other = key ∨ other ∈ Table.keys s.entries ∧ other ∉ evicted? := by
  intro s
  have hreached : Tidied 0 s s := .reached maxKeys defaultTtl 0 requests
  obtain ⟨l, -, hshows, -, hlen, -⟩ := hreached.lineups
  have hdrawn := nextTick_after_le requests (empty maxKeys defaultTtl : Store α)
  refine ⟨hshows.consistent hlen, maxKeys_after requests (empty maxKeys defaultTtl),
    Nat.le_trans hdrawn (Nat.le_of_eq (Nat.zero_add _)), fun now request fault hrefused => ?_,
    fun now key value ttl hkey => hshows.set_good hreached.room hkey now value ttl⟩
  have hfault := (hshows.refused_iff hreached.room).mp hrefused
  refine ⟨hfault, ?_, by rw [respond_of_fault hfault]⟩
  rintro reason rfl
  exact request.fault?_ne_internal reason hfault

/-- Two values fill a store, the first one is read, and a bad key comes in between. -/
def filled : List (Instant × Request Nat) :=
  [(0, .set "a" 1 9), (1, .set "b" 2 9), (2, .set "" 3 9), (3, .get "a")]

/-- The second key goes for a third one, and nothing changes for a bad key. -/
theorem parts_agree_filled :
    let s := after Store.respond filled (empty 2 300)
    s.recency.order = [(1, "b"), (2, "a")] ∧ s.recency.nextTick = 3 ∧ s.Consistent ∧
      (s.respond 4 (.delete "")).1 = .refused (.invalidKey "key is empty") ∧
      (s.respond 4 (.delete "")).2 = s ∧ keyFault? "c" = none ∧
      (s.set 4 "c" 3 9).1 = .ok (some "b") ∧
      ∀ other, other ∈ Table.keys (s.set 4 "c" 3 9).2.entries ↔
        other = "c" ∨ other ∈ Table.keys s.entries ∧ other ∉ some "b" := by
  intro s
  obtain ⟨hconsistent, -, -, hfails, hsets⟩ := parts_agree 2 300 filled
  have hrefused : (s.respond 4 (.delete "")).1 = .refused (.invalidKey "key is empty") := by
    decide +kernel
  have hkey : keyFault? "c" = none := by decide
  have hset : (s.set 4 "c" 3 9).1 = .ok (some "b") := by decide +kernel
  obtain ⟨-, -, hsame⟩ := hfails 4 (.delete "") _ hrefused
  obtain ⟨evicted?, hok, -, hkeys⟩ := hsets 4 "c" 3 9 hkey
  obtain rfl : some "b" = evicted? := Except.ok.inj (hset.symm.trans hok)
  exact ⟨by decide +kernel, by decide +kernel, hconsistent, hrefused, hsame, hkey, hset, hkeys⟩

end Store

end Cache

end Resilience
