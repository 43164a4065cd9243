import Resilience.Cache.Recency
import Resilience.Proofs.Table

/-!
# The order of use as a list of keys

`Recency.Tracks r keys` says that the tracker `r` stands for the list `keys`, least recently
used key first. Each operation of the tracker is one plain operation on that list: a touch takes
the key out and puts it at the end (`Tracks.touch`), a removal takes it out (`Tracks.remove`),
an eviction takes the head (`Tracks.evictOldest_eq`), and clearing leaves nothing
(`tracks_clear`).

What carries this is that ticks only grow: a key that is touched gets a tick above all the ticks
in use, so its place in the order of ticks is the last one. The ticks drawn so far are not reset
when the tracker is cleared.
-/

namespace Resilience

namespace Cache

namespace Recency

/-- The tracker stands for this list of keys, least recently used first. -/
structure Tracks (r : Recency) (keys : List String) : Prop where
  order_eq : r.order.map Prod.snd = keys
  rising : r.order.Pairwise fun p q => p.1 < q.1
  /-- The next tick is above all ticks in use. -/
  fresh : ∀ p ∈ r.order, p.1 < r.nextTick
  distinct : keys.Nodup
  ticks_perm : r.ticks.Perm (r.order.map Prod.swap)

theorem tracks_empty : Tracks {} [] :=
  ⟨rfl, .nil, by simp, List.nodup_nil, .nil⟩

variable {r : Recency} {keys : List String}

/-! ### The two maps -/

theorem Tracks.keys_ticks_perm (h : Tracks r keys) : (Table.keys r.ticks).Perm keys := by
  have hperm := h.ticks_perm.map Prod.fst
  rw [List.map_map] at hperm
  exact h.order_eq ▸ hperm

theorem Tracks.nodup_ticks (h : Tracks r keys) : (Table.keys r.ticks).Nodup :=
  h.keys_ticks_perm.nodup_iff.mpr h.distinct

/-- The tick of a key leads back to the key. -/
theorem Tracks.get?_ticks (h : Tracks r keys) {key : String} {tick : Nat} :
    r.ticks.get? key = some tick ↔ (tick, key) ∈ r.order := by
  rw [Table.get?_eq_some_iff h.nodup_ticks, h.ticks_perm.mem_iff, List.mem_map]
  constructor
  · rintro ⟨p, hp, heq⟩
    obtain ⟨rfl, rfl⟩ := Prod.mk.inj heq
    exact hp
  · exact fun hp => ⟨_, hp, rfl⟩

theorem Tracks.contains_iff (h : Tracks r keys) {key : String} :
    r.contains key = true ↔ key ∈ keys := by
  rw [contains, Table.has_iff_mem_keys, h.keys_ticks_perm.mem_iff]

theorem Tracks.size_eq (h : Tracks r keys) : r.size = keys.length := by
  have hlen := h.keys_ticks_perm.length_eq
  rwa [Table.keys, List.length_map] at hlen

theorem Tracks.oldest?_eq (h : Tracks r keys) : r.oldest? = keys.head? := by
  rw [oldest?, ← h.order_eq, List.head?_map]

/-- The order without a tick is the order without the key of the tick. -/
private theorem Tracks.unplace_eq (h : Tracks r keys) {key : String} {tick : Nat}
    (hmem : (tick, key) ∈ r.order) :
    unplace tick r.order = r.order.filter fun p => p.2 ≠ key := by
  refine List.filter_congr fun p hp => ?_
  have hticks : (r.order.map Prod.fst).Nodup :=
    List.pairwise_map.mpr (h.rising.imp fun hlt => Nat.ne_of_lt hlt)
  have hkeys : (r.order.map Prod.snd).Nodup := h.order_eq ▸ h.distinct
  have hiff : p.1 = tick ↔ p.2 = key :=
    ⟨fun he => congrArg Prod.snd (List.inj_on_of_nodup_map hticks hp hmem he),
      fun he => congrArg Prod.fst (List.inj_on_of_nodup_map hkeys hp hmem he)⟩
  simp [hiff]

/-- What the two maps are once a key is gone. -/
private theorem Tracks.without (h : Tracks r keys) (key : String) :
    Tracks ⟨r.order.filter fun p => p.2 ≠ key, r.ticks.erase key, r.nextTick⟩
      (keys.filter fun k => k ≠ key) where
  order_eq := by rw [← h.order_eq, List.filter_map]; rfl
  rising := h.rising.filter _
  fresh p hp := h.fresh p (List.mem_of_mem_filter hp)
  distinct := h.distinct.filter _
  ticks_perm := by
    have hperm := h.ticks_perm.filter fun p => p.1 ≠ key
    rw [List.filter_map] at hperm
    exact hperm

/-- A key that is not tracked is in neither map. -/
private theorem Tracks.without_of_not_mem (h : Tracks r keys) {key : String}
    (hkey : key ∉ keys) :
    (r.order.filter fun p => p.2 ≠ key) = r.order ∧ r.ticks.erase key = r.ticks := by
  constructor
  · refine List.filter_eq_self.mpr fun p hp => ?_
    have hp' : p.2 ∈ keys := h.order_eq ▸ List.mem_map_of_mem hp
    simpa using ne_of_mem_of_not_mem hp' hkey
  · exact Table.erase_of_not_mem fun hk => hkey (h.keys_ticks_perm.mem_iff.mp hk)

private theorem Tracks.not_mem_of_get?_none (h : Tracks r keys) {key : String}
    (hnone : r.ticks.get? key = none) : key ∉ keys := by
  rwa [Table.get?_eq_none_iff, h.keys_ticks_perm.mem_iff] at hnone

/-! ### The operations -/

/-- A removal takes the key out of the list. -/
theorem Tracks.remove (h : Tracks r keys) (key : String) :
    Tracks (r.remove key) (keys.filter fun k => k ≠ key) := by
  have hgone := h.without key
  rw [Recency.remove]
  split
  · next tick htick =>
    rw [h.unplace_eq (h.get?_ticks.mp htick)]
    exact hgone
  · next hnone =>
    obtain ⟨horder, hticks⟩ := h.without_of_not_mem (h.not_mem_of_get?_none hnone)
    rwa [horder, hticks] at hgone

/-- A tick above all others goes to the end. -/
private theorem place_of_forall_lt {tick : Nat} {order : List (Nat × String)}
    (h : ∀ p ∈ order, p.1 < tick) (key : String) :
    place tick key order = order ++ [(tick, key)] := by
  induction order with
  | nil => rfl
  | cons p rest ih =>
    obtain ⟨t, k⟩ := p
    have ht : t < tick := h (t, k) List.mem_cons_self
    rw [place, if_neg (by omega), if_neg (by omega),
      ih fun q hq => h q (List.mem_cons_of_mem _ hq), List.cons_append]

/-- A touch puts the key at the end of the list. -/
theorem Tracks.touch (h : Tracks r keys) (key : String) :
    Tracks (r.touch key) ((keys.filter fun k => k ≠ key) ++ [key]) := by
  have hgone := h.without key
  -- Whether the key was there or not, it is taken out first and then put behind all others.
  have htouch : r.touch key = ⟨place r.nextTick key (r.order.filter fun p => p.2 ≠ key),
      r.ticks.set key r.nextTick, r.nextTick + 1⟩ := by
    rw [Recency.touch]
    split
    · next tick htick => rw [h.unplace_eq (h.get?_ticks.mp htick)]
    · next hnone => rw [(h.without_of_not_mem (h.not_mem_of_get?_none hnone)).1]
  rw [htouch, place_of_forall_lt hgone.fresh]
  exact {
    order_eq := by rw [List.map_append, hgone.order_eq]; rfl
    rising := List.pairwise_append.mpr
      ⟨hgone.rising, List.pairwise_singleton .., fun p hp q hq => by
        rw [List.mem_singleton.mp hq]; exact hgone.fresh p hp⟩
    fresh := fun p hp => by
      rcases List.mem_append.mp hp with hp | hp
      · exact Nat.lt_succ_of_lt (hgone.fresh p hp)
      · rw [List.mem_singleton.mp hp]; exact Nat.lt_succ_self _
    distinct := by
      rw [List.nodup_append]
      exact ⟨hgone.distinct, List.nodup_singleton _, by simp⟩
    ticks_perm := by
      have hset := Table.perm_set h.nodup_ticks key r.nextTick
      have hrest := hgone.ticks_perm.cons (key, r.nextTick)
      rw [List.map_append]
      exact (hset.trans hrest).trans (List.perm_append_singleton ..).symm }

/-- An eviction takes the head of the list. -/
theorem Tracks.evictOldest_eq (h : Tracks r keys) :
    r.evictOldest.1 = keys.head? ∧ Tracks r.evictOldest.2 keys.tail := by
  obtain ⟨order, ticks, nextTick⟩ := r
  cases order with
  | nil =>
    obtain rfl : [] = keys := h.order_eq
    exact ⟨rfl, h⟩
  | cons p rest =>
    obtain ⟨tick, key⟩ := p
    obtain rfl : key :: rest.map Prod.snd = keys := h.order_eq
    have hkey := (List.nodup_cons.mp h.distinct).1
    have hgone := h.without key
    -- The key is nowhere else, so taking it out is taking away the head.
    have hrest : (((tick, key) :: rest).filter fun p => p.2 ≠ key) = rest := by
      rw [List.filter_cons_of_neg (by simp)]
      refine List.filter_eq_self.mpr fun p hp => ?_
      simpa using ne_of_mem_of_not_mem (List.mem_map_of_mem hp) hkey
    have hkeys : ((key :: rest.map Prod.snd).filter fun k => k ≠ key) = rest.map Prod.snd := by
      rw [List.filter_cons_of_neg (by simp)]
      refine List.filter_eq_self.mpr fun k hk => ?_
      simpa using ne_of_mem_of_not_mem hk hkey
    rw [hrest, hkeys] at hgone
    exact ⟨rfl, hgone⟩

/-- Clearing leaves no key. -/
theorem tracks_clear (r : Recency) : Tracks r.clear [] :=
  ⟨rfl, .nil, by simp [Recency.clear], List.nodup_nil, .nil⟩

end Recency

end Cache

end Resilience
