import Resilience.Proofs.Cache.Lineup
import Resilience.Proofs.Cache.Recency

/-!
# The store behaves as a line-up

The store keeps its entries in a table and their order of use in a tracker of its own, which in
turn keeps two maps. `Store.Shows s l` says that all of it stands for the one line-up `l`. The
empty store shows the empty line-up, and a request changes store and line-up in step
(`Shows.respond`), so the store gives the answers of the line-up for ever
(`answers_eq_lineup`): the same values, evicted keys, counts, faults and sizes.

Since every store that is reached shows a line-up, the tracker is never empty while the table is
full, and the complaint that a full store tracks no entry is never made.
-/

namespace Resilience

namespace Cache

variable {α : Type}

/-! ### Keys -/

theorem keyFault?_eq_complaint? (key : String) : keyFault? key = Lineup.complaint? key := by
  simp only [keyFault?, Lineup.complaint?, longestKey, String.utf8ByteSize_eq_zero_iff]
  rfl

namespace Store

/-- How a store answers a request. -/
def respond (now : Instant) (request : Request α) (s : Store α) : Answer α × Store α :=
  match request with
  | .set key value ttl =>
    match s.set now key value ttl with
    | (.ok evicted?, s) => (.stored evicted?, s)
    | (.error fault, s) => (.refused fault, s)
  | .get key =>
    match s.get now key with
    | (.ok value?, s) => (.read value?, s)
    | (.error fault, s) => (.refused fault, s)
  | .has key =>
    match s.has now key with
    | (.ok b, s) => (.present b, s)
    | (.error fault, s) => (.refused fault, s)
  | .delete key =>
    match s.delete key with
    | (.ok b, s) => (.deleted b, s)
    | (.error fault, s) => (.refused fault, s)
  | .clear => (.cleared, s.clear)
  | .sweep =>
    let (removed, s) := s.sweep now
    (.swept removed, s)

/-- An entry of the table as an item of the line-up. -/
def item (p : String × Entry α) : Item α := ⟨p.1, p.2.value, p.2.expires⟩

/-- The store stands for this line-up. -/
structure Shows (s : Store α) (l : Lineup α) : Prop where
  entries_perm : (s.entries.map item).Perm l
  tracks : s.recency.Tracks (l.map Item.key)

theorem shows_empty (maxKeys defaultTtl : Nat) : (empty maxKeys defaultTtl : Store α).Shows [] :=
  ⟨.nil, Recency.tracks_empty⟩

variable {s : Store α} {l : Lineup α}

/-! ### Looking things up -/

theorem Shows.size_eq (h : Shows s l) : s.size = l.length := by
  have hlen := h.entries_perm.length_eq
  rwa [List.length_map] at hlen

theorem Shows.keys_perm (h : Shows s l) : (Table.keys s.entries).Perm (l.map Item.key) := by
  have hperm := h.entries_perm.map Item.key
  rw [List.map_map] at hperm
  exact hperm

theorem Shows.nodup (h : Shows s l) : (Table.keys s.entries).Nodup :=
  h.keys_perm.nodup_iff.mpr h.tracks.distinct

theorem Shows.has_iff (h : Shows s l) {key : String} :
    s.entries.has key = true ↔ key ∈ l.map Item.key := by
  rw [Table.has_iff_mem_keys, h.keys_perm.mem_iff]

theorem Shows.get?_none (h : Shows s l) {key : String} (hnone : s.entries.get? key = none) :
    l.item? key = none := by
  rwa [Lineup.item?_eq_none_iff, ← h.keys_perm.mem_iff, ← Table.get?_eq_none_iff]

theorem Shows.get?_some (h : Shows s l) {key : String} {e : Entry α}
    (hsome : s.entries.get? key = some e) : l.item? key = some (item (key, e)) := by
  rw [Lineup.item?_eq_some_iff h.tracks.distinct]
  have hmem := (Table.get?_eq_some_iff h.nodup).mp hsome
  exact ⟨h.entries_perm.mem_iff.mp (List.mem_map_of_mem hmem), rfl⟩

/-! ### Changing one key -/

private theorem map_item_erase (key : String) (t : Table String (Entry α)) :
    (t.erase key).map item = Lineup.without key (t.map item) := by
  rw [Lineup.without, List.filter_map]
  rfl

private theorem Shows.erase_perm (h : Shows s l) (key : String) :
    ((s.entries.erase key).map item).Perm (l.without key) := by
  rw [map_item_erase]
  exact h.entries_perm.filter _

/-- Dropping a key takes it out of the line-up. -/
theorem Shows.drop (h : Shows s l) (key : String) : Shows (s.drop key) (l.without key) where
  entries_perm := h.erase_perm key
  tracks := by
    rw [Lineup.keys_without]
    exact h.tracks.remove key

/-- An entry that is set and touched goes to the back of the line-up. -/
private theorem Shows.refresh (h : Shows s l) (key : String) (e : Entry α) {s' : Store α}
    (hentries : s'.entries = s.entries.set key e) (hrecency : s'.recency = s.recency.touch key) :
    Shows s' (l.without key ++ [item (key, e)]) where
  entries_perm := by
    rw [hentries]
    have hset := (Table.perm_set h.nodup key e).map item
    exact hset.trans (((h.erase_perm key).cons _).trans (List.perm_append_singleton ..).symm)
  tracks := by
    rw [hrecency, List.map_append, Lineup.keys_without]
    exact h.tracks.touch key

theorem Shows.put (h : Shows s l) (now : Instant) (key : String) (value : α) (ttl : Nat) :
    Shows (s.put now key value ttl)
      (l.without key ++ [⟨key, value, now + min (ttl * 1000) (Nat.pow 2 64 - 1)⟩]) :=
  h.refresh key (.create now value ttl) rfl rfl

/-- Making room drops the front of the line-up, if it has one. -/
theorem Shows.makeRoom (h : Shows s l) (hl : l ≠ []) :
    ∃ front rest s', l = front :: rest ∧ s.makeRoom = (.ok front.key, s') ∧ Shows s' rest := by
  obtain ⟨front, rest, rfl⟩ := List.exists_cons_of_ne_nil hl
  obtain ⟨hkey, htail⟩ := h.tracks.evictOldest_eq
  cases hevict : s.recency.evictOldest with
  | mk oldest? recency =>
    rw [hevict] at hkey htail
    obtain rfl : oldest? = some front.key := hkey
    have hfront : front.key ∉ rest.map Item.key := (List.nodup_cons.mp h.tracks.distinct).1
    have hrest : Lineup.without front.key (front :: rest) = rest := by
      rw [Lineup.without, List.filter_cons_of_neg (by simp)]
      exact Lineup.without_of_not_mem hfront
    refine ⟨front, rest, _, rfl, by rw [Store.makeRoom, hevict], ?_, htail⟩
    have hperm := h.erase_perm front.key
    rwa [hrest] at hperm

/-- The key that `set` is about is new to the line-up after room was made for it. -/
private theorem Shows.put_new (h : Shows s l) (now : Instant) {key : String} (value : α)
    (ttl : Nat) (hnew : key ∉ l.map Item.key) :
    Shows (s.put now key value ttl)
      (l ++ [⟨key, value, now + min (ttl * 1000) (Nat.pow 2 64 - 1)⟩]) := by
  have hput := h.put now key value ttl
  rwa [Lineup.without_of_not_mem hnew] at hput

/-! ### Sweeping -/

/-- Dropping keys one after the other leaves the items of the other keys. -/
theorem Shows.foldl_drop (h : Shows s l) (keys : List String) :
    Shows (keys.foldl (fun s key => s.drop key) s) (l.filter fun i => i.key ∉ keys) := by
  induction keys generalizing s l with
  | nil => simpa using h
  | cons key keys ih =>
    have hrest := ih (h.drop key)
    rw [Lineup.without, List.filter_filter] at hrest
    rw [List.foldl_cons]
    convert hrest using 3
    simp [not_or, Bool.and_comm]

/-- A key is stale when its item has expired. -/
theorem Shows.mem_staleKeys_iff (h : Shows s l) {now : Instant} {i : Item α} (hi : i ∈ l) :
    i.key ∈ s.staleKeys now ↔ i.expires ≤ now := by
  simp only [staleKeys, List.mem_map, List.mem_filter]
  constructor
  · rintro ⟨p, ⟨hp, hexpired⟩, hkey⟩
    have hp' : item p ∈ l := h.entries_perm.mem_iff.mp (List.mem_map_of_mem hp)
    rw [← List.inj_on_of_nodup_map h.tracks.distinct hp' hi hkey]
    exact of_decide_eq_true hexpired
  · intro hexpired
    obtain ⟨p, hp, rfl⟩ := List.mem_map.mp (h.entries_perm.mem_iff.mpr hi)
    exact ⟨p, ⟨hp, decide_eq_true hexpired⟩, rfl⟩

theorem Shows.length_staleKeys (h : Shows s l) (now : Instant) :
    (s.staleKeys now).length = l.countP fun i => i.expires ≤ now := by
  rw [staleKeys, List.length_map, ← List.countP_eq_length_filter, ← h.entries_perm.countP_eq,
    List.countP_map]
  rfl

/-- A sweep drops the items that have expired. -/
theorem Shows.sweep (h : Shows s l) (now : Instant) :
    (s.sweep now).1 = l.countP (fun i => i.expires ≤ now) ∧
      Shows (s.sweep now).2 (l.filter fun i => now < i.expires) := by
  refine ⟨h.length_staleKeys now, ?_⟩
  have hswept := h.foldl_drop (s.staleKeys now)
  have hkept : (l.filter fun i => i.key ∉ s.staleKeys now) =
      l.filter fun i => now < i.expires := by
    refine List.filter_congr fun i hi => ?_
    simp [h.mem_staleKeys_iff hi]
  rwa [hkept] at hswept

/-! ### Each request -/

section Requests

variable (now : Instant) {key : String}

private theorem Shows.respond_set (h : Shows s l) (hroom : 0 < s.maxKeys) (value : α)
    (ttl : Nat) :
    (s.respond now (.set key value ttl)).1 = (l.respond s.maxKeys now (.set key value ttl)).1 ∧
      Shows (s.respond now (.set key value ttl)).2
        (l.respond s.maxKeys now (.set key value ttl)).2 := by
  simp only [Store.respond, Store.set, Lineup.respond, keyFault?_eq_complaint?]
  cases Lineup.complaint? key with
  | some fault => exact ⟨rfl, h⟩
  | none =>
    -- Either the key is there or a place is free, or the front has to go.
    by_cases hfull : key ∈ l.map Item.key ∨ l.length < s.maxKeys
    · have hroom' : ¬ (¬ s.entries.has key = true ∧ s.maxKeys ≤ s.size) := by
        rw [h.has_iff, h.size_eq]
        rintro ⟨hnew, hlen⟩
        exact hfull.elim hnew (Nat.not_lt.mpr hlen)
      simp only [if_neg hroom', if_pos hfull]
      exact ⟨trivial, h.put now key value ttl⟩
    · obtain ⟨hnew, hlen⟩ := not_or.mp hfull
      have hroom' : ¬ s.entries.has key = true ∧ s.maxKeys ≤ s.size := by
        rw [h.has_iff, h.size_eq]
        exact ⟨hnew, Nat.not_lt.mp hlen⟩
      have hl : l ≠ [] := by
        rintro rfl
        exact hlen hroom
      obtain ⟨front, rest, s', rfl, hmake, hs'⟩ := h.makeRoom hl
      simp only [if_pos hroom', if_neg hfull, hmake]
      refine ⟨rfl, hs'.put_new now value ttl fun hmem => hnew ?_⟩
      exact List.mem_cons_of_mem _ hmem

/-- An entry is stale just when its item has expired. -/
private theorem stale_of_get? {e : Entry α} (he : s.entries.get? key = some e) :
    s.stale now key = decide (e.expires ≤ now) := by
  rw [stale, he]
  rfl

private theorem stale_of_get?_none (he : s.entries.get? key = none) :
    s.stale now key = false := by
  rw [stale, he]

private theorem Shows.respond_get (h : Shows s l) (capacity : Nat) :
    (s.respond now (.get key)).1 = (l.respond capacity now (.get key)).1 ∧
      Shows (s.respond now (.get key)).2 (l.respond capacity now (.get key)).2 := by
  simp only [Store.respond, Store.get, Lineup.respond, keyFault?_eq_complaint?]
  cases Lineup.complaint? key with
  | some fault => exact ⟨rfl, h⟩
  | none =>
    cases he : s.entries.get? key with
    | none =>
      simp only [stale_of_get?_none now he, h.get?_none he]
      exact ⟨rfl, h.1, h.2⟩
    | some e =>
      simp only [stale_of_get? now he, h.get?_some he]
      by_cases hlive : now < e.expires
      · rw [decide_eq_false (Nat.not_le.mpr hlive)]
        simp only [item, hlive, if_true, Bool.false_eq_true, if_false]
        exact ⟨trivial, h.refresh key (e.touch now) rfl rfl⟩
      · rw [decide_eq_true (Nat.not_lt.mp hlive)]
        simp only [item, hlive, if_true, if_false]
        exact ⟨trivial, (h.drop key).1, (h.drop key).2⟩

private theorem Shows.respond_has (h : Shows s l) (capacity : Nat) :
    (s.respond now (.has key)).1 = (l.respond capacity now (.has key)).1 ∧
      Shows (s.respond now (.has key)).2 (l.respond capacity now (.has key)).2 := by
  simp only [Store.respond, Store.has, Lineup.respond, keyFault?_eq_complaint?]
  cases Lineup.complaint? key with
  | some fault => exact ⟨rfl, h⟩
  | none =>
    cases he : s.entries.get? key with
    | none =>
      simp only [stale_of_get?_none now he, h.get?_none he, Table.has, he]
      exact ⟨rfl, h⟩
    | some e =>
      simp only [stale_of_get? now he, h.get?_some he, Table.has, he]
      by_cases hlive : now < e.expires
      · rw [decide_eq_false (Nat.not_le.mpr hlive)]
        simp only [item, hlive, if_true, Bool.false_eq_true, if_false]
        exact ⟨rfl, h⟩
      · rw [decide_eq_true (Nat.not_lt.mp hlive)]
        simp only [item, hlive, if_true, if_false]
        exact ⟨trivial, h.drop key⟩

private theorem Shows.respond_delete (h : Shows s l) (capacity : Nat) :
    (s.respond now (.delete key)).1 = (l.respond capacity now (.delete key)).1 ∧
      Shows (s.respond now (.delete key)).2 (l.respond capacity now (.delete key)).2 := by
  simp only [Store.respond, Store.delete, Lineup.respond, keyFault?_eq_complaint?]
  cases Lineup.complaint? key with
  | some fault => exact ⟨rfl, h⟩
  | none =>
    by_cases hkey : key ∈ l.map Item.key
    · simp only [if_pos (h.has_iff.mpr hkey), decide_eq_true hkey]
      exact ⟨trivial, h.drop key⟩
    · simp only [if_neg (mt h.has_iff.mp hkey), decide_eq_false hkey,
        Lineup.without_of_not_mem hkey]
      exact ⟨trivial, h⟩

/-- **A request changes store and line-up in step**, and both answer it alike. -/
theorem Shows.respond (h : Shows s l) (hroom : 0 < s.maxKeys) (request : Request α) :
    (s.respond now request).1 = (l.respond s.maxKeys now request).1 ∧
      Shows (s.respond now request).2 (l.respond s.maxKeys now request).2 := by
  cases request with
  | set key value ttl => exact h.respond_set now hroom value ttl
  | get key => exact h.respond_get now _
  | has key => exact h.respond_has now _
  | delete key => exact h.respond_delete now _
  | clear => exact ⟨rfl, .nil, Recency.tracks_clear _⟩
  | sweep => exact ⟨congrArg Answer.swept (h.sweep now).1, (h.sweep now).2⟩

end Requests

/-! ### Every run -/

private theorem foldl_drop_eq (keys : List String) (s : Store α) : ∃ entries recency,
    keys.foldl (fun s key => s.drop key) s = { s with entries := entries, recency := recency } := by
  induction keys generalizing s with
  | nil => exact ⟨s.entries, s.recency, rfl⟩
  | cons key keys ih =>
    obtain ⟨entries, recency, h⟩ := ih (s.drop key)
    exact ⟨entries, recency, h⟩

/-- Beside the entries and their order, a request changes the counters, which count its answer. -/
theorem respond_eq (now : Instant) (request : Request α) (s : Store α) :
    ∃ entries recency, (s.respond now request).2 =
      { s with
        entries := entries
        recency := recency
        hits := s.hits + (s.respond now request).1.hits
        misses := s.misses + (s.respond now request).1.misses
        evictions := s.evictions + (s.respond now request).1.evictions } := by
  cases request with
  | set key value ttl =>
    simp only [Store.respond, Store.set, Store.makeRoom]
    cases keyFault? key with
    | some fault => exact ⟨_, _, rfl⟩
    | none =>
      dsimp only
      split_ifs
      · rcases s.recency.evictOldest with ⟨_ | oldest, recency⟩ <;> exact ⟨_, _, rfl⟩
      · exact ⟨_, _, rfl⟩
  | get key =>
    simp only [Store.respond, Store.get]
    cases keyFault? key with
    | some fault => exact ⟨_, _, rfl⟩
    | none =>
      dsimp only
      split_ifs
      · exact ⟨_, _, rfl⟩
      · cases s.entries.get? key <;> exact ⟨_, _, rfl⟩
  | has key =>
    simp only [Store.respond, Store.has]
    cases keyFault? key with
    | some fault => exact ⟨_, _, rfl⟩
    | none => dsimp only; split_ifs <;> exact ⟨_, _, rfl⟩
  | delete key =>
    simp only [Store.respond, Store.delete]
    cases keyFault? key with
    | some fault => exact ⟨_, _, rfl⟩
    | none => dsimp only; split_ifs <;> exact ⟨_, _, rfl⟩
  | clear => exact ⟨_, _, rfl⟩
  | sweep => exact foldl_drop_eq _ _

/-- No request changes how many entries there is room for. -/
@[simp]
theorem maxKeys_respond (now : Instant) (request : Request α) (s : Store α) :
    (s.respond now request).2.maxKeys = s.maxKeys := by
  obtain ⟨entries, recency, h⟩ := respond_eq now request s
  rw [h]

@[simp]
theorem maxKeys_after (requests : List (Instant × Request α)) (s : Store α) :
    (after Store.respond requests s).maxKeys = s.maxKeys := by
  induction requests generalizing s with
  | nil => rfl
  | cons r rest ih => exact (ih _).trans (maxKeys_respond r.1 r.2 s)

/-- **Store and line-up stay in step** through any requests. -/
theorem Shows.after (h : Shows s l) (hroom : 0 < s.maxKeys)
    (requests : List (Instant × Request α)) :
    Shows (Cache.after Store.respond requests s)
      (Cache.after (Lineup.respond s.maxKeys) requests l) := by
  induction requests generalizing s l with
  | nil => exact h
  | cons r rest ih =>
    obtain ⟨-, hshows⟩ := h.respond r.1 hroom r.2
    have hmax := maxKeys_respond r.1 r.2 s
    have hrest := ih hshows (hmax.symm ▸ hroom)
    rwa [hmax] at hrest

private theorem Shows.answers_eq (h : Shows s l) (hroom : 0 < s.maxKeys)
    (requests : List (Instant × Request α)) :
    answers Store.respond Store.size requests s =
      answers (Lineup.respond s.maxKeys) List.length requests l := by
  induction requests generalizing s l with
  | nil => rfl
  | cons r rest ih =>
    obtain ⟨now, request⟩ := r
    obtain ⟨hanswer, hshows⟩ := h.respond now hroom request
    have hmax := maxKeys_respond now request s
    have hrest := ih hshows (hmax.symm ▸ hroom)
    rw [hmax] at hrest
    simp only [answers, hanswer, hshows.size_eq, hrest]

/-- **The store behaves as a line-up.** Whatever is asked of a store at whatever instants, it
answers what the line-up with room for `max maxKeys 1` values answers, and holds as many values
after each request. -/
theorem answers_eq_lineup (maxKeys defaultTtl : Nat) (requests : List (Instant × Request α)) :
    answers Store.respond Store.size requests (empty maxKeys defaultTtl) =
      answers (Lineup.respond (max maxKeys 1)) List.length requests [] :=
  (shows_empty maxKeys defaultTtl).answers_eq (Nat.le_max_right _ _) requests

end Store

end Cache

end Resilience
