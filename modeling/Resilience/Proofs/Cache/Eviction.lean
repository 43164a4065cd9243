import Resilience.Proofs.Cache.Tidying

/-!
# What has to go for a new key

A store counts its entries whether or not they have expired, and what goes for a new key when it is
full is the least recently used entry, whether or not that one has expired (`set_new`). So an entry
that has expired keeps a place that a live one may have to leave. `spares_live_iff` tells when that
happens: the store is full, something in it has expired, and the least recently used entry has not.

The room of a store bounds its entries throughout (`Tidied.reached`), so as many live entries as
there is room for means that nothing stored has expired.
-/

namespace Resilience

namespace Cache

variable {α : Type}

namespace Store

/-- A live entry goes for a new value only if there are as many live entries as there is room
for. -/
def SparesLive (now : Instant) (key : String) (value : α) (ttl : Nat) (s : Store α) : Prop :=
  ∀ evicted e, (s.set now key value ttl).1 = .ok (some evicted) →
    s.entries.get? evicted = some e → now < e.expires → (s.statistics now).activeKeys = s.maxKeys

variable {s : Store α} {l : Lineup α} {now : Instant} {key : String}

/-- The least recently used key is that of the front of the line-up. -/
theorem Shows.oldest?_eq (h : Shows s l) : s.recency.oldest? = l.head?.map Item.key := by
  rw [h.tracks.oldest?_eq, List.head?_map]

/-- **What has to go for a new key**: the least recently used one, if the store is full. -/
theorem Shows.set_new (h : Shows s l) (hroom : 0 < s.maxKeys) (hkey : keyFault? key = none)
    (hnew : s.entries.has key = false) (now : Instant) (value : α) (ttl : Nat) :
    (s.set now key value ttl).1 =
      .ok (if s.maxKeys ≤ s.size then s.recency.oldest? else none) := by
  by_cases hfull : s.maxKeys ≤ s.size
  · have hl : l ≠ [] := by
      rintro rfl
      rw [h.size_eq, List.length_nil] at hfull
      omega
    obtain ⟨front, rest, s', rfl, hmake, -⟩ := h.makeRoom hl
    simp [set, hkey, hnew, hfull, hmake, h.oldest?_eq]
  · simp [set, hkey, hnew, hfull]

/-- A full store has a least recently used entry. -/
theorem Shows.exists_oldest (h : Shows s l) (hroom : 0 < s.maxKeys) (hfull : s.maxKeys ≤ s.size) :
    ∃ oldest e, s.recency.oldest? = some oldest ∧ s.entries.get? oldest = some e := by
  cases l with
  | nil =>
    rw [h.size_eq, List.length_nil] at hfull
    omega
  | cons front rest =>
    have hhas := h.has_iff.mpr (List.mem_map_of_mem List.mem_cons_self : front.key ∈ _)
    obtain ⟨e, he⟩ := Option.isSome_iff_exists.mp hhas
    exact ⟨front.key, e, h.oldest?_eq, he⟩

/-- As many live entries as there is room for means that nothing stored has expired. -/
theorem activeKeys_eq_maxKeys_iff (hsize : s.size = s.maxKeys) (hroom : 0 < s.maxKeys) :
    (s.statistics now).activeKeys = s.maxKeys ↔ s.staleKeys now = [] := by
  rw [← List.length_eq_zero_iff]
  simp only [statistics]
  omega

/-- **What goes for a new key, and when that is a live entry.** Let a new key be set in a store that
was used in any way. The store is full when it holds as many entries as it has room for, those that
have expired included; then the least recently used key has to go, whether or not its entry has
expired, and otherwise none has to. So live entries go only for want of room for live ones, unless
the store is full, something in it has expired, and the least recently used entry is live. -/
theorem spares_live_iff {key : String} (hkey : keyFault? key = none) (maxKeys defaultTtl : Nat)
    (requests : List (Instant × Request α)) (now : Instant) (value : α) (ttl : Nat)
    (hnew : (after Store.respond requests (empty maxKeys defaultTtl)).entries.has key = false) :
    let s := after Store.respond requests (empty maxKeys defaultTtl)
    s.maxKeys = max maxKeys 1 ∧ s.size ≤ s.maxKeys ∧
      (s.set now key value ttl).1 =
        .ok (if s.size = s.maxKeys then s.recency.oldest? else none) ∧
      (s.size = s.maxKeys →
        ∃ oldest e, s.recency.oldest? = some oldest ∧ s.entries.get? oldest = some e) ∧
      (s.SparesLive now key value ttl ↔
        ¬ (s.size = s.maxKeys ∧ s.staleKeys now ≠ [] ∧ ∃ oldest e,
          s.recency.oldest? = some oldest ∧ s.entries.get? oldest = some e ∧ now < e.expires)) := by
  intro s
  have hreached : Tidied now s s := .reached maxKeys defaultTtl now requests
  have hroom := hreached.room
  obtain ⟨l, -, hshows, -, hlen, -⟩ := hreached.lineups
  rw [← hshows.size_eq] at hlen
  have hset : (s.set now key value ttl).1 =
      .ok (if s.size = s.maxKeys then s.recency.oldest? else none) := by
    rw [hshows.set_new hroom hkey hnew]
    simp only [Nat.le_antisymm_iff, hlen, true_and]
  refine ⟨maxKeys_after requests (empty maxKeys defaultTtl), hlen, hset,
    fun hfull => hshows.exists_oldest hroom (Nat.le_of_eq hfull.symm), ?_⟩
  constructor
  · rintro hspares ⟨hfull, hstale, oldest, e, holdest, he, hlive⟩
    rw [if_pos hfull, holdest] at hset
    have hall := hspares oldest e hset he hlive
    exact hstale ((activeKeys_eq_maxKeys_iff hfull hroom).mp hall)
  · intro hnot evicted e hevicted he hlive
    rw [hset] at hevicted
    -- Something went, so the store was full and it was the least recently used entry.
    split at hevicted
    · next hfull =>
      have holdest := Except.ok.inj hevicted
      rw [activeKeys_eq_maxKeys_iff hfull hroom]
      by_contra hstale
      exact hnot ⟨hfull, hstale, evicted, e, holdest, he, hlive⟩
    · cases hevicted

/-- A value that lives long, and after it one that lives for a second. -/
def lastingAndBrief : List (Instant × Request Nat) := [(0, .set "a" 1 9), (0, .set "b" 2 1)]

/-- While both are alive, the first one has to go for a third, for want of room for live ones. -/
theorem spares_live_iff_in_time :
    keyFault? "c" = none ∧
    (after Store.respond lastingAndBrief (empty 2 300)).entries.has "c" = false ∧
    (let s := after Store.respond lastingAndBrief (empty 2 300)
    (s.set 999 "c" 3 9).1 = .ok (some "a") ∧ s.SparesLive 999 "c" 3 9 ∧
      (s.statistics 999).activeKeys = s.maxKeys) := by
  have hkey : keyFault? "c" = none := by decide
  have hnew : (after Store.respond lastingAndBrief (empty 2 300)).entries.has "c" = false := by
    decide
  have hfresh : (after Store.respond lastingAndBrief (empty 2 300)).staleKeys 999 = [] := by decide
  obtain ⟨-, -, hset, -, hspares⟩ := spares_live_iff hkey 2 300 lastingAndBrief 999 3 9 hnew
  refine ⟨hkey, hnew, hset.trans (by decide), hspares.mpr ?_, by decide⟩
  rintro ⟨-, hstale, -⟩
  exact hstale hfresh

/-- **A live value has to go although another one has expired.** When the second value has expired,
the first one has to go for a third, while the second one keeps its place. So it is not only for
want of room for live values that a live value goes. -/
theorem live_value_evicted_beside_expired :
    ¬ (∀ (key : String) (maxKeys defaultTtl : Nat) (requests : List (Instant × Request Nat))
      (now : Instant) (value ttl : Nat), keyFault? key = none →
      (after Store.respond requests (empty maxKeys defaultTtl)).entries.has key = false →
      (after Store.respond requests (empty maxKeys defaultTtl)).SparesLive now key value ttl) ∧
    (let s := after Store.respond lastingAndBrief (empty 2 300)
    s.entries.get? "a" = some (.create 0 1 9) ∧ s.entries.get? "b" = some (.create 0 2 1) ∧
      (s.statistics 1000).activeKeys = 1 ∧ (s.set 1000 "c" 3 9).1 = .ok (some "a") ∧
      (s.set 1000 "c" 3 9).2.entries.has "b" = true) := by
  have hanswers : let s := after Store.respond lastingAndBrief (empty 2 300)
      s.entries.get? "a" = some (.create 0 1 9) ∧ s.entries.get? "b" = some (.create 0 2 1) ∧
        (s.statistics 1000).activeKeys = 1 ∧ (s.set 1000 "c" 3 9).1 = .ok (some "a") ∧
        (s.set 1000 "c" 3 9).2.entries.has "b" = true := by decide
  refine ⟨fun hlaw => ?_, hanswers⟩
  obtain ⟨hlasting, -, hactive, hset, -⟩ := hanswers
  have hspares := hlaw "c" 2 300 lastingAndBrief 1000 3 9 (by decide) (by decide)
  have hall := hspares "a" (.create 0 1 9) hset hlasting (by decide)
  rw [hactive] at hall
  exact absurd hall (by decide)

end Store

end Cache

end Resilience
