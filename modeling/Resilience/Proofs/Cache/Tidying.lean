import Resilience.Proofs.Cache.Refinement
import Mathlib.Data.List.Induction

/-!
# Tidying up goes unseen

A cache may drop a value that has expired at once, or keep it until somebody asks for it. As long
as nothing has to go for want of room, nobody can tell: put sweeps and checks into a run wherever
you like, and reads, checks and stored values get the same answers as before, the same is counted,
and as many values are alive (`tidying_unseen`). Only a deletion tells the difference, since it
also says whether there was a value that had expired.

The two runs are related by `Lineup.Tidied`: the line-up of the tidy one is the other without some
of the values that have expired. Each request is blind to those. Time is needed here: a value that
has expired must not come back to life, so the clock of the run is never set back.
-/

namespace Resilience

namespace Cache

variable {α : Type}

/-- Whether the answer to a request tells of live values only. A deletion also tells of a value
that has expired, and a sweep tells how many there were. -/
def Request.asksLive : Request α → Bool
  | .delete _ => false
  | .sweep => false
  | _ => true

/-- Whether the answer to a request may count as a hit, a miss or an eviction. -/
def Request.counted : Request α → Bool
  | .set .. => true
  | .get _ => true
  | _ => false

theorem Request.counted_eq_false {request : Request α} (h : request.asksLive = false) :
    request.counted = false := by
  cases request with
  | delete | sweep => rfl
  | set | get | has | clear => cases h

namespace Lineup

/-! ### Room -/

/-- A line-up never outgrows its room. -/
theorem length_respond_le {capacity : Nat} (hcapacity : 0 < capacity) (now : Instant)
    (request : Request α) {l : Lineup α} (hlen : l.length ≤ capacity) :
    (l.respond capacity now request).2.length ≤ capacity := by
  have hwithout (key : String) : (l.without key).length ≤ capacity :=
    Nat.le_trans (List.length_filter_le ..) hlen
  -- A value that goes to the back leaves its old place first.
  have hrefresh {key : String} (hkey : key ∈ l.map Item.key) (i : Item α) :
      (l.without key ++ [i]).length ≤ capacity := by
    have hshorter := length_without_lt hkey
    simp only [List.length_append, List.length_singleton]
    omega
  cases request with
  | set key value ttl =>
    simp only [respond]
    cases complaint? key with
    | some fault => exact hlen
    | none =>
      dsimp only
      split_ifs with hroom
      · rcases hroom with hkey | hroom
        · exact hrefresh hkey _
        · have hle : (l.without key).length ≤ l.length := List.length_filter_le ..
          simp only [List.length_append, List.length_singleton]
          omega
      · simp only [List.length_append, List.length_singleton, List.length_tail]
        omega
  | get key =>
    simp only [respond]
    cases complaint? key with
    | some fault => exact hlen
    | none =>
      cases hitem : l.item? key with
      | none => exact hlen
      | some i =>
        dsimp only
        split_ifs
        · exact hrefresh (mem_keys_of_item? hitem) i
        · exact hwithout key
  | has key =>
    simp only [respond]
    cases complaint? key with
    | some fault => exact hlen
    | none =>
      cases l.item? key with
      | none => exact hlen
      | some i =>
        dsimp only
        split_ifs
        · exact hlen
        · exact hwithout key
  | delete key =>
    simp only [respond]
    cases complaint? key with
    | some fault => exact hlen
    | none => exact hwithout key
  | clear => exact Nat.zero_le _
  | sweep => exact Nat.le_trans (List.length_filter_le ..) hlen

/-! ### Tidied line-ups -/

/-- The second line-up is the first one without some of the values that have expired. -/
structure Tidied (now : Instant) (l tidy : Lineup α) : Prop where
  sublist : tidy.Sublist l
  live : (tidy.filter fun i => now < i.expires) = l.filter fun i => now < i.expires

namespace Tidied

variable {now : Instant} {l tidy : Lineup α} {key : String}

theorem refl (now : Instant) (l : Lineup α) : Tidied now l l := ⟨.refl l, rfl⟩

/-- What has expired stays so. -/
theorem later (h : Tidied now l tidy) {later : Instant} (hle : now ≤ later) :
    Tidied later l tidy where
  sublist := h.sublist
  live := by
    have hagain (l : Lineup α) : (l.filter fun i => now < i.expires).filter
        (fun i => later < i.expires) = l.filter fun i => later < i.expires := by
      rw [List.filter_filter]
      refine List.filter_congr fun i _ => ?_
      simp only [Bool.and_eq_left_iff_imp, decide_eq_true_eq]
      exact Nat.lt_of_le_of_lt hle
    rw [← hagain tidy, h.live, hagain]

theorem filter (h : Tidied now l tidy) (keep : Item α → Bool) :
    Tidied now (l.filter keep) (tidy.filter keep) where
  sublist := h.sublist.filter keep
  live := by rw [List.filter_comm, h.live, List.filter_comm]

theorem without (h : Tidied now l tidy) (key : String) :
    Tidied now (l.without key) (tidy.without key) := h.filter _

theorem append (h : Tidied now l tidy) (i : Item α) : Tidied now (l ++ [i]) (tidy ++ [i]) where
  sublist := h.sublist.append_right [i]
  live := by rw [List.filter_append, List.filter_append, h.live]

/-- Dropping expired values is tidying up. -/
theorem drop (h : Tidied now l tidy) {keep : Item α → Bool}
    (hexpired : ∀ i ∈ tidy, now < i.expires → keep i = true) : Tidied now l (tidy.filter keep) where
  sublist := List.filter_sublist.trans h.sublist
  live := by
    rw [List.filter_comm, ← h.live]
    refine List.filter_eq_self.mpr fun i hi => ?_
    obtain ⟨hmem, hlive⟩ := List.mem_filter.mp hi
    exact hexpired i hmem (of_decide_eq_true hlive)

/-- A key has the same value in both, or one that has expired and was dropped from the second. -/
theorem item?_cases (h : Tidied now l tidy) (hdistinct : (l.map Item.key).Nodup) (key : String) :
    tidy.item? key = l.item? key ∨
      tidy.item? key = none ∧ ∃ i, l.item? key = some i ∧ i.expires ≤ now := by
  cases htidy : tidy.item? key with
  | some i =>
    have hdistinct' := hdistinct.sublist (h.sublist.map Item.key)
    obtain ⟨hmem, hkey⟩ := (item?_eq_some_iff hdistinct').mp htidy
    exact .inl ((item?_eq_some_iff hdistinct).mpr ⟨h.sublist.subset hmem, hkey⟩).symm
  | none =>
    cases hl : l.item? key with
    | none => exact .inl rfl
    | some i =>
      refine .inr ⟨rfl, i, rfl, ?_⟩
      obtain ⟨hmem, hkey⟩ := (item?_eq_some_iff hdistinct).mp hl
      -- Were it alive, it would be in both.
      by_contra hlive
      have hboth : i ∈ l.filter fun i => now < i.expires :=
        List.mem_filter.mpr ⟨hmem, decide_eq_true (Nat.not_le.mp hlive)⟩
      rw [← h.live] at hboth
      have hmem' := List.mem_map_of_mem (f := Item.key) (List.mem_of_mem_filter hboth)
      exact item?_eq_none_iff.mp htidy (hkey ▸ hmem')

/-- A key that is dropped from the first line-up and was not in the second. -/
theorem without_left (h : Tidied now l tidy) (hnone : tidy.item? key = none) :
    Tidied now (l.without key) tidy := by
  have hboth := h.without key
  rwa [without_of_not_mem (item?_eq_none_iff.mp hnone)] at hboth

/-- Where the first line-up has room for a key, the second has. -/
private theorem room (h : Tidied now l tidy) {capacity : Nat} (hlen : l.length ≤ capacity)
    (hroom : key ∈ l.map Item.key ∨ l.length < capacity) :
    key ∈ tidy.map Item.key ∨ tidy.length < capacity := by
  by_cases htidy : key ∈ tidy.map Item.key
  · exact .inl htidy
  · refine .inr ?_
    rcases hroom with hkey | hroom
    · -- The key was in the first one only, so the second is shorter.
      have hshorter := length_without_lt hkey
      have hle := (h.without key).sublist.length_le
      rw [without_of_not_mem htidy] at hle
      omega
    · exact Nat.lt_of_le_of_lt h.sublist.length_le hroom

variable {capacity : Nat}

private theorem respond_set (h : Tidied now l tidy) (hcapacity : 0 < capacity)
    (hlen : l.length ≤ capacity) {value : α} {ttl : Nat}
    (hstays : (l.respond capacity now (.set key value ttl)).1.evictions = 0) :
    (tidy.respond capacity now (.set key value ttl)).1 =
        (l.respond capacity now (.set key value ttl)).1 ∧
      Tidied now (l.respond capacity now (.set key value ttl)).2
        (tidy.respond capacity now (.set key value ttl)).2 := by
  simp only [respond] at hstays ⊢
  cases hkey : complaint? key with
  | some fault => exact ⟨rfl, h⟩
  | none =>
    by_cases hroom : key ∈ l.map Item.key ∨ l.length < capacity
    · simp only [if_pos hroom, if_pos (h.room hlen hroom)]
      exact ⟨trivial, (h.without key).append _⟩
    · -- Without room the front would have had to go.
      have hne : l ≠ [] := by
        rintro rfl
        exact hroom (.inr hcapacity)
      obtain ⟨front, rest, rfl⟩ := List.exists_cons_of_ne_nil hne
      simp only [hkey, if_neg hroom] at hstays
      cases hstays

private theorem respond_get (h : Tidied now l tidy) (hdistinct : (l.map Item.key).Nodup) :
    (tidy.respond capacity now (.get key)).1 = (l.respond capacity now (.get key)).1 ∧
      Tidied now (l.respond capacity now (.get key)).2
        (tidy.respond capacity now (.get key)).2 := by
  simp only [respond]
  cases complaint? key with
  | some fault => exact ⟨rfl, h⟩
  | none =>
    rcases h.item?_cases hdistinct key with heq | ⟨hnone, i, hsome, hexpired⟩
    · rw [heq]
      cases l.item? key with
      | none => exact ⟨rfl, h⟩
      | some i =>
        dsimp only
        split_ifs
        · exact ⟨rfl, (h.without key).append i⟩
        · exact ⟨rfl, h.without key⟩
    · rw [hnone, hsome]
      simp only [if_neg (Nat.not_lt.mpr hexpired)]
      exact ⟨trivial, h.without_left hnone⟩

private theorem respond_has (h : Tidied now l tidy) (hdistinct : (l.map Item.key).Nodup) :
    (tidy.respond capacity now (.has key)).1 = (l.respond capacity now (.has key)).1 ∧
      Tidied now (l.respond capacity now (.has key)).2
        (tidy.respond capacity now (.has key)).2 := by
  simp only [respond]
  cases complaint? key with
  | some fault => exact ⟨rfl, h⟩
  | none =>
    rcases h.item?_cases hdistinct key with heq | ⟨hnone, i, hsome, hexpired⟩
    · rw [heq]
      cases l.item? key with
      | none => exact ⟨rfl, h⟩
      | some i =>
        dsimp only
        split_ifs
        · exact ⟨rfl, h⟩
        · exact ⟨rfl, h.without key⟩
    · rw [hnone, hsome]
      simp only [if_neg (Nat.not_lt.mpr hexpired)]
      exact ⟨trivial, h.without_left hnone⟩

/-- **No request sees the difference**, as long as nothing has to go for it, except that a
deletion or a sweep may meet an expired value that the tidy line-up has dropped before. -/
theorem respond (h : Tidied now l tidy) (hdistinct : (l.map Item.key).Nodup)
    (hcapacity : 0 < capacity) (hlen : l.length ≤ capacity) (request : Request α)
    (hstays : (l.respond capacity now request).1.evictions = 0) :
    (request.asksLive = true →
        (tidy.respond capacity now request).1 = (l.respond capacity now request).1) ∧
      Tidied now (l.respond capacity now request).2 (tidy.respond capacity now request).2 := by
  cases request with
  | set key value ttl => exact (h.respond_set hcapacity hlen hstays).imp_left fun heq _ => heq
  | get key => exact (h.respond_get hdistinct).imp_left fun heq _ => heq
  | has key => exact (h.respond_has hdistinct).imp_left fun heq _ => heq
  | delete key =>
    refine ⟨fun hlive => absurd hlive Bool.false_ne_true, ?_⟩
    simp only [Lineup.respond]
    cases complaint? key with
    | some fault => exact h
    | none => exact h.without key
  | clear => exact ⟨fun _ => rfl, .refl now []⟩
  | sweep => exact ⟨fun hlive => absurd hlive Bool.false_ne_true, h.filter _⟩

/-- A check tidies up the key that it asks for. -/
theorem look (h : Tidied now l tidy) (hdistinct : (tidy.map Item.key).Nodup) (key : String) :
    Tidied now l (tidy.respond capacity now (.has key)).2 := by
  simp only [Lineup.respond]
  cases complaint? key with
  | some fault => exact h
  | none =>
    cases hitem : tidy.item? key with
    | none => exact h
    | some i =>
      dsimp only
      split_ifs with hlive
      · exact h
      · refine h.drop fun j hj hj' => ?_
        -- The only value of the key has expired, so a live one has another key.
        refine decide_eq_true fun hkey => hlive ?_
        have heq := (item?_eq_some_iff hdistinct).mpr ⟨hj, hkey⟩
        rw [hitem] at heq
        exact Option.some.inj heq ▸ hj'

theorem sweep (h : Tidied now l tidy) :
    Tidied now l (tidy.respond capacity now .sweep).2 :=
  h.drop fun _ _ hlive => decide_eq_true hlive

end Tidied

/-- Only reads and values that are set are counted. -/
theorem counts_nothing {request : Request α} (h : request.counted = false) (capacity : Nat)
    (now : Instant) (l : Lineup α) :
    (l.respond capacity now request).1.hits = 0 ∧
      (l.respond capacity now request).1.misses = 0 ∧
      (l.respond capacity now request).1.evictions = 0 := by
  cases request with
  | has key =>
    simp only [respond]
    cases complaint? key with
    | some fault => exact ⟨rfl, rfl, rfl⟩
    | none =>
      cases l.item? key with
      | none => exact ⟨rfl, rfl, rfl⟩
      | some i =>
        dsimp only
        split_ifs <;> exact ⟨rfl, rfl, rfl⟩
  | delete key =>
    simp only [respond]
    cases complaint? key <;> exact ⟨rfl, rfl, rfl⟩
  | clear | sweep => exact ⟨rfl, rfl, rfl⟩
  | set | get => cases h

end Lineup

/-! ### Two stores -/

theorem Answer.evictions_eq_zero_iff {a : Answer α} :
    a.evictions = 0 ↔ ∀ key, a ≠ .stored (some key) := by
  rcases a with ⟨_ | key⟩ | _ | _ | _ | _ | _ | _ <;> simp [evictions]

namespace Store

/-- The live keys are those of the values that have not expired. -/
theorem Shows.activeKeys_eq {s : Store α} {l : Lineup α} (h : Shows s l) (now : Instant) :
    (s.statistics now).activeKeys = (l.filter fun i => now < i.expires).length := by
  have hsplit := List.length_eq_countP_add_countP (fun i : Item α => decide (i.expires ≤ now))
    (l := l)
  simp only [statistics, h.size_eq, h.length_staleKeys, ← List.countP_eq_length_filter]
  simp only [decide_eq_true_eq, Nat.not_le] at hsplit
  omega

/-- The second store has the counters and the room of the first one, and shows its line-up
without some of the values that have expired. -/
structure Tidied (now : Instant) (s t : Store α) : Prop where
  room : 0 < s.maxKeys
  maxKeys_eq : t.maxKeys = s.maxKeys
  hits_eq : t.hits = s.hits
  misses_eq : t.misses = s.misses
  evictions_eq : t.evictions = s.evictions
  lineups : ∃ l tidy, Shows s l ∧ Shows t tidy ∧ l.length ≤ s.maxKeys ∧ Lineup.Tidied now l tidy

namespace Tidied

variable {now : Instant} {s t : Store α}

theorem later (h : Tidied now s t) {later : Instant} (hle : now ≤ later) : Tidied later s t :=
  { h with
    lineups := by
      obtain ⟨l, tidy, hs, ht, hlen, htidied⟩ := h.lineups
      exact ⟨l, tidy, hs, ht, hlen, htidied.later hle⟩ }

/-- A store that was reached is as tidy as itself. -/
theorem reached (maxKeys defaultTtl : Nat) (now : Instant)
    (requests : List (Instant × Request α)) :
    Tidied now (after Store.respond requests (empty maxKeys defaultTtl))
      (after Store.respond requests (empty maxKeys defaultTtl)) := by
  have hroom : 0 < (empty maxKeys defaultTtl : Store α).maxKeys := Nat.le_max_right ..
  have hshows := (shows_empty (α := α) maxKeys defaultTtl).after hroom requests
  refine ⟨by simpa using hroom, rfl, rfl, rfl, rfl, _, _, hshows, hshows, ?_, .refl now _⟩
  rw [maxKeys_after]
  -- The line-up that it shows has never outgrown the room.
  induction requests using List.reverseRecOn with
  | nil => exact Nat.zero_le _
  | append_singleton requests r ih =>
    rw [after_concat]
    exact Lineup.length_respond_le hroom r.1 r.2 (ih ((shows_empty ..).after hroom requests))

theorem activeKeys_eq (h : Tidied now s t) :
    (t.statistics now).activeKeys = (s.statistics now).activeKeys := by
  obtain ⟨l, tidy, hs, ht, -, htidied⟩ := h.lineups
  rw [ht.activeKeys_eq, hs.activeKeys_eq, htidied.live]

/-- **A request that both stores get**: they answer alike and stay related. -/
theorem respond (h : Tidied now s t) (request : Request α)
    (hstays : (s.respond now request).1.evictions = 0) :
    (request.asksLive = true → (t.respond now request).1 = (s.respond now request).1) ∧
      (t.respond now request).1.evictions = 0 ∧
      Tidied now (s.respond now request).2 (t.respond now request).2 := by
  obtain ⟨l, tidy, hs, ht, hlen, htidied⟩ := h.lineups
  obtain ⟨hanswer, hshows⟩ := hs.respond now h.room request
  obtain ⟨hanswer', hshows'⟩ := ht.respond now (h.maxKeys_eq ▸ h.room) request
  rw [h.maxKeys_eq] at hanswer' hshows'
  obtain ⟨halike, htidied'⟩ :=
    htidied.respond hs.tracks.distinct h.room hlen request (hanswer ▸ hstays)
  rw [← hanswer, ← hanswer'] at halike
  -- What does not ask for live values counts nothing, so the same is counted in any case.
  have hcounts : (t.respond now request).1.hits = (s.respond now request).1.hits ∧
      (t.respond now request).1.misses = (s.respond now request).1.misses ∧
      (t.respond now request).1.evictions = (s.respond now request).1.evictions := by
    cases hlive : request.asksLive with
    | true => simp [halike hlive]
    | false =>
      have hcounted := Request.counted_eq_false hlive
      rw [hanswer, hanswer']
      obtain ⟨hhits, hmisses, hevictions⟩ := Lineup.counts_nothing hcounted s.maxKeys now l
      obtain ⟨hhits', hmisses', hevictions'⟩ := Lineup.counts_nothing hcounted s.maxKeys now tidy
      exact ⟨hhits'.trans hhits.symm, hmisses'.trans hmisses.symm,
        hevictions'.trans hevictions.symm⟩
  obtain ⟨hhits, hmisses, hevictions⟩ := hcounts
  refine ⟨halike, hevictions.trans hstays, ?_⟩
  have hlen' := Nat.le_trans (Lineup.length_respond_le h.room now request hlen)
    (Nat.le_of_eq (maxKeys_respond now request s).symm)
  obtain ⟨entries, recency, heq⟩ := respond_eq now request s
  obtain ⟨entries', recency', heq'⟩ := respond_eq now request t
  exact {
    room := by rw [maxKeys_respond]; exact h.room
    maxKeys_eq := by rw [maxKeys_respond, maxKeys_respond]; exact h.maxKeys_eq
    hits_eq := by rw [heq, heq']; exact congrArg₂ (· + ·) h.hits_eq hhits
    misses_eq := by rw [heq, heq']; exact congrArg₂ (· + ·) h.misses_eq hmisses
    evictions_eq := by rw [heq, heq']; exact congrArg₂ (· + ·) h.evictions_eq hevictions
    lineups := ⟨_, _, hshows, hshows', hlen', htidied'⟩ }

/-- A request that only the second store gets, and that tidies it up. -/
private theorem tidy (h : Tidied now s t) {request : Request α}
    (hcounted : request.counted = false)
    (htidies : ∀ {l tidy : Lineup α}, (tidy.map Item.key).Nodup → Lineup.Tidied now l tidy →
      Lineup.Tidied now l (tidy.respond t.maxKeys now request).2) :
    (t.respond now request).1.evictions = 0 ∧ Tidied now s (t.respond now request).2 := by
  obtain ⟨l, tidy, hs, ht, hlen, htidied⟩ := h.lineups
  obtain ⟨hanswer, hshows⟩ := ht.respond now (h.maxKeys_eq ▸ h.room) request
  have hcounts := Lineup.counts_nothing hcounted t.maxKeys now tidy
  rw [← hanswer] at hcounts
  obtain ⟨hhits, hmisses, hevictions⟩ := hcounts
  refine ⟨hevictions, ?_⟩
  obtain ⟨entries, recency, heq⟩ := respond_eq now request t
  exact {
    room := h.room
    maxKeys_eq := by rw [maxKeys_respond]; exact h.maxKeys_eq
    hits_eq := by rw [heq]; exact congrArg₂ (· + ·) h.hits_eq hhits
    misses_eq := by rw [heq]; exact congrArg₂ (· + ·) h.misses_eq hmisses
    evictions_eq := by rw [heq]; exact congrArg₂ (· + ·) h.evictions_eq hevictions
    lineups := ⟨l, _, hs, hshows, hlen, htidies ht.tracks.distinct htidied⟩ }

theorem look (h : Tidied now s t) (key : String) :
    (t.respond now (.has key)).1.evictions = 0 ∧
      Tidied now s (t.respond now (.has key)).2 :=
  h.tidy rfl fun hdistinct htidied => htidied.look hdistinct key

theorem sweep (h : Tidied now s t) :
    (t.respond now .sweep).1.evictions = 0 ∧ Tidied now s (t.respond now .sweep).2 :=
  h.tidy rfl fun _ htidied => htidied.sweep

end Tidied

end Store

/-! ### Runs with tidying woven in -/

/-- Something that is done in a run: a request that belongs to it, or one that was put in between
and only tidies up. -/
inductive Woven (α : Type) where
  | given (request : Request α)
  | look (key : String)
  | sweep

namespace Woven

/-- The request that is made. -/
def request : Woven α → Request α
  | given request => request
  | look key => .has key
  | sweep => .sweep

/-- The request, if it belongs to the run. -/
def given? : Woven α → Option (Request α)
  | given request => some request
  | _ => none

/-- All that is asked in a run. -/
def made (run : List (Instant × Woven α)) : List (Instant × Request α) :=
  run.map fun p => (p.1, p.2.request)

/-- The run without what was put in between. -/
def plain (run : List (Instant × Woven α)) : List (Instant × Request α) :=
  run.filterMap fun p => p.2.given?.map fun request => (p.1, request)

theorem plain_given (before rest : List (Instant × Woven α)) (now : Instant)
    (request : Request α) : plain (before ++ (now, given request) :: rest) =
      plain before ++ (now, request) :: plain rest := by
  simp [plain, given?]

end Woven

namespace Store

open Woven

/-- **A run stays as it was when tidying is woven into it**: nothing has to go for a new key, and
at any time when the run is over, the stores are related. -/
theorem Tidied.run {run : List (Instant × Woven α)} {start : Instant} {s t : Store α}
    (h : Tidied start s t) (hstart : ∀ p ∈ run, start ≤ p.1)
    (hclock : (run.map Prod.fst).Pairwise (· ≤ ·))
    (hroom : ∀ a ∈ answers Store.respond size (plain run) s, a.1.evictions = 0) :
    (∀ a ∈ answers Store.respond size (made run) t, a.1.evictions = 0) ∧
      ∀ stop, start ≤ stop → (∀ p ∈ run, p.1 ≤ stop) →
        Tidied stop (after Store.respond (plain run) s) (after Store.respond (made run) t) := by
  induction run generalizing start s t with
  | nil => exact ⟨by simp [made, answers], fun stop hle _ => h.later hle⟩
  | cons p rest ih =>
    obtain ⟨now, w⟩ := p
    have hnow := h.later (hstart (now, w) List.mem_cons_self)
    obtain ⟨hfirst, hrest⟩ := List.pairwise_cons.mp hclock
    have hlater (p : Instant × Woven α) (hp : p ∈ rest) : now ≤ p.1 :=
      hfirst p.1 (List.mem_map_of_mem hp)
    -- The rest of the run goes on from what the first request leaves.
    have hgoOn {s' : Store α} (hstays : (t.respond now w.request).1.evictions = 0)
        (hnext : Tidied now s' (t.respond now w.request).2)
        (hroom' : ∀ a ∈ answers Store.respond size (plain rest) s', a.1.evictions = 0) :
        (∀ a ∈ answers Store.respond size (made ((now, w) :: rest)) t, a.1.evictions = 0) ∧
          ∀ stop, start ≤ stop → (∀ p ∈ (now, w) :: rest, p.1 ≤ stop) →
            Tidied stop (after Store.respond (plain rest) s')
              (after Store.respond (made ((now, w) :: rest)) t) := by
      obtain ⟨hanswers, hlast⟩ := ih hnext hlater hrest hroom'
      refine ⟨List.forall_mem_cons.mpr ⟨hstays, hanswers⟩, fun stop _ hstop => ?_⟩
      exact hlast stop (hstop _ List.mem_cons_self) fun p hp => hstop p (List.mem_cons_of_mem _ hp)
    cases w with
    | given request =>
      obtain ⟨hstays, hroom'⟩ := List.forall_mem_cons.mp hroom
      obtain ⟨-, hstays', hnext⟩ := hnow.respond request hstays
      exact hgoOn hstays' hnext hroom'
    | look key => exact hgoOn (hnow.look key).1 (hnow.look key).2 hroom
    | sweep => exact hgoOn hnow.sweep.1 hnow.sweep.2 hroom

/-- Whether nothing had to go, said of each answer. -/
private theorem no_evictions_iff {results : List (Answer α × Nat)} :
    (∀ a ∈ results, a.1.evictions = 0) ↔ ∀ key n, (.stored (some key), n) ∉ results := by
  simp only [Answer.evictions_eq_zero_iff]
  constructor
  · exact fun h key n hmem => h _ hmem key rfl
  · rintro h ⟨a, n⟩ hmem key rfl
    exact h key n hmem

/-- **Tidying up goes unseen while there is room.** Take a store that was used in any way, and a
run from there on whose clock is never set back and in which nothing has to go for a new key. Put
sweeps and checks into it wherever you like. Then nothing has to go in the new run either; reads,
checks and values that are set get the answers that they got; and after each request of the run,
then and later, the hits, the misses, the evictions and the number of live keys are the same. -/
theorem tidying_unseen {maxKeys defaultTtl : Nat} (earlier : List (Instant × Request α))
    (run : List (Instant × Woven α)) (hclock : (run.map Prod.fst).Pairwise (· ≤ ·))
    (hroom : ∀ key n, (.stored (some key), n) ∉ answers Store.respond size (plain run)
      (after Store.respond earlier (empty maxKeys defaultTtl))) :
    (∀ key n, (.stored (some key), n) ∉ answers Store.respond size (made run)
      (after Store.respond earlier (empty maxKeys defaultTtl))) ∧
    ∀ before now request rest, run = before ++ (now, .given request) :: rest →
      let start := after Store.respond earlier (empty maxKeys defaultTtl)
      let s := after Store.respond (plain before) start
      let t := after Store.respond (made before) start
      (request.asksLive = true → (t.respond now request).1 = (s.respond now request).1) ∧
      ∀ later, now ≤ later →
        let seen := (s.respond now request).2.statistics later
        let seen' := (t.respond now request).2.statistics later
        seen'.hits = seen.hits ∧ seen'.misses = seen.misses ∧
          seen'.evictions = seen.evictions ∧ seen'.activeKeys = seen.activeKeys := by
  -- A store is related to itself, and the relation is kept through the run up to this request.
  have hstart := Tidied.reached maxKeys defaultTtl 0 earlier
  rw [← no_evictions_iff] at hroom ⊢
  refine ⟨(hstart.run (fun _ _ => Nat.zero_le _) hclock hroom).1, ?_⟩
  rintro before now request rest rfl
  rw [plain_given, answers_append] at hroom
  obtain ⟨hbefore, hgiven⟩ := List.forall_mem_append.mp hroom
  obtain ⟨hstays, -⟩ := List.forall_mem_cons.mp hgiven
  rw [List.map_append] at hclock
  obtain ⟨hclock', -, hfirst⟩ := List.pairwise_append.mp hclock
  have hstop (p : Instant × Woven α) (hp : p ∈ before) : p.1 ≤ now :=
    hfirst p.1 (List.mem_map_of_mem hp) now List.mem_cons_self
  obtain ⟨-, hlast⟩ := hstart.run (fun _ _ => Nat.zero_le _) hclock' hbefore
  obtain ⟨halike, -, hnext⟩ := (hlast now (Nat.zero_le _) hstop).respond request hstays
  refine ⟨halike, fun later hle => ?_⟩
  have hlater := hnext.later hle
  exact ⟨hlater.hits_eq, hlater.misses_eq, hlater.evictions_eq, hlater.activeKeys_eq⟩

/-- Two values fill a store and one of them expires. It is swept away, so its key is new when it
is set again; then the other one expires, and a check drops it before it is deleted. -/
def swept : List (Instant × Woven Nat) :=
  [(0, .given (.set "a" 1 1)), (500, .given (.set "b" 2 1)), (1000, .sweep),
    (1200, .given (.set "a" 3 9)), (1500, .look "b"), (1500, .given (.delete "b")),
    (1600, .given (.get "b")), (1700, .given (.get "a"))]

theorem tidying_unseen_swept :
    (swept.map Prod.fst).Pairwise (· ≤ ·) ∧
    answers Store.respond size (plain swept) (empty 2 300) =
      [(.stored none, 1), (.stored none, 2), (.stored none, 2), (.deleted true, 1),
        (.read none, 1), (.read (some 3), 1)] ∧
    answers Store.respond size (made swept) (empty 2 300) =
      [(.stored none, 1), (.stored none, 2), (.swept 1, 1), (.stored none, 2),
        (.present false, 1), (.deleted false, 1), (.read none, 1), (.read (some 3), 1)] ∧
    (∀ key n, (.stored (some key), n) ∉ answers Store.respond size (made swept) (empty 2 300)) ∧
    let s := after Store.respond (plain (swept.take 7)) (empty 2 300)
    let t := after Store.respond (made (swept.take 7)) (empty 2 300)
    (t.respond 1700 (.get "a")).1 = (s.respond 1700 (.get "a")).1 ∧
      ((t.respond 1700 (.get "a")).2.statistics 1700).activeKeys =
        ((s.respond 1700 (.get "a")).2.statistics 1700).activeKeys := by
  have hclock : (swept.map Prod.fst).Pairwise (· ≤ ·) := by decide
  have hplain : answers Store.respond size (plain swept) (empty 2 300) =
      [(.stored none, 1), (.stored none, 2), (.stored none, 2), (.deleted true, 1),
        (.read none, 1), (.read (some 3), 1)] := by decide +kernel
  have hroom (key : String) (n : Nat) : (.stored (some key), n) ∉
      answers Store.respond size (plain swept) (after Store.respond [] (empty 2 300)) := by
    change _ ∉ answers Store.respond size (plain swept) (empty 2 300)
    simp [hplain]
  obtain ⟨hstays, hseen⟩ := tidying_unseen [] swept hclock hroom
  obtain ⟨halike, hlater⟩ := hseen (swept.take 7) 1700 (.get "a") [] rfl
  obtain ⟨-, -, -, hactive⟩ := hlater 1700 (Nat.le_refl _)
  exact ⟨hclock, hplain, by decide +kernel, hstays, halike rfl, hactive⟩

end Store

end Cache

end Resilience
