import Resilience.Proofs.Cache.Refinement

/-!
# What counts as being there

Reads and checks look for a live value (`Store.live`): one that is stored and has not expired. A
deletion looks for an entry, and an entry that has expired is one until something removes it. So the
three agree about a key exactly as long as no expired entry of it is stored, and a deletion tells
whether a sweep came before it (`presence_of_key`).

Nothing beyond the distinct keys of a store is needed here. They are what makes a sweep take out all
that has expired and nothing else (`Shows.has_sweep`).
-/

namespace Resilience

namespace Cache

variable {α : Type}

namespace Store

/-- Whether a value is stored for a key and has not expired. -/
def live (now : Instant) (key : String) (s : Store α) : Bool :=
  match s.entries.get? key with
  | some e => now < e.expires
  | none => false

variable {s : Store α} {l : Lineup α} {now : Instant} {key : String}

theorem live_iff :
    s.live now key = true ↔ ∃ e, s.entries.get? key = some e ∧ now < e.expires := by
  unfold live
  cases s.entries.get? key <;> simp

theorem stale_iff :
    s.stale now key = true ↔ ∃ e, s.entries.get? key = some e ∧ e.expires ≤ now := by
  unfold stale
  cases s.entries.get? key <;> simp [Entry.expired]

/-- What is stored is live or has expired. -/
theorem has_eq_live_or_stale (s : Store α) (now : Instant) (key : String) :
    s.entries.has key = (s.live now key || s.stale now key) := by
  unfold live stale Table.has
  cases s.entries.get? key with
  | none => rfl
  | some e => simpa [Entry.expired] using Nat.lt_or_ge now e.expires

theorem live_eq_false_of_stale (h : s.stale now key = true) : s.live now key = false := by
  obtain ⟨e, he, hexpired⟩ := stale_iff.mp h
  simpa [live, he] using hexpired

/-! ### The three answers -/

section Answers

variable (hkey : keyFault? key = none)
include hkey

theorem isSome_get (s : Store α) (now : Instant) :
    (s.get now key).1.map Option.isSome = .ok (s.live now key) := by
  cases hstale : s.stale now key with
  | true =>
    rw [live_eq_false_of_stale hstale]
    simp [get, hkey, hstale, Except.map]
  | false =>
    have hlive := has_eq_live_or_stale s now key
    rw [hstale, Bool.or_false] at hlive
    rw [← hlive]
    cases he : s.entries.get? key <;> simp [get, hkey, hstale, he, Table.has, Except.map]

theorem has_eq (s : Store α) (now : Instant) : (s.has now key).1 = .ok (s.live now key) := by
  cases hstale : s.stale now key with
  | true =>
    rw [live_eq_false_of_stale hstale]
    simp [has, hkey, hstale]
  | false =>
    have hlive := has_eq_live_or_stale s now key
    rw [hstale, Bool.or_false] at hlive
    simp [has, hkey, hstale, hlive]

theorem delete_eq (s : Store α) : (s.delete key).1 = .ok (s.entries.has key) := by
  cases hhas : s.entries.has key <;> simp [delete, hkey, hhas]

end Answers

/-! ### After a sweep -/

theorem Shows.live_iff (h : Shows s l) :
    s.live now key = true ↔ ∃ i ∈ l, i.key = key ∧ now < i.expires := by
  rw [Store.live_iff]
  constructor
  · rintro ⟨e, he, hlive⟩
    obtain ⟨hi, hkey⟩ := (Lineup.item?_eq_some_iff h.tracks.distinct).mp (h.get?_some he)
    exact ⟨_, hi, hkey, hlive⟩
  · rintro ⟨i, hi, rfl, hlive⟩
    have hitem := (Lineup.item?_eq_some_iff h.tracks.distinct).mpr ⟨hi, rfl⟩
    cases he : s.entries.get? i.key with
    | none =>
      rw [h.get?_none he] at hitem
      cases hitem
    | some e =>
      have heq := Option.some.inj ((h.get?_some he).symm.trans hitem)
      have hexpires : e.expires = i.expires := congrArg Item.expires heq
      exact ⟨e, rfl, hexpires ▸ hlive⟩

/-- A sweep leaves what is live. -/
theorem Shows.has_sweep (h : Shows s l) (now : Instant) (key : String) :
    (s.sweep now).2.entries.has key = s.live now key := by
  rw [Bool.eq_iff_iff, (h.sweep now).2.has_iff, h.live_iff, List.mem_map]
  constructor
  · rintro ⟨i, hi, rfl⟩
    obtain ⟨hmem, hlive⟩ := List.mem_filter.mp hi
    exact ⟨i, hmem, rfl, of_decide_eq_true hlive⟩
  · rintro ⟨i, hi, rfl, hlive⟩
    exact ⟨i, List.mem_filter.mpr ⟨hi, decide_eq_true hlive⟩, rfl⟩

/-- **What counts as being there.** Whatever was asked of a store, and whenever it is asked about a
good key: a read finds a value and a check says that there is one exactly if there is a live one. A
deletion says that there was one also if it had expired and nothing had removed it yet. So the
deletion agrees with the other two exactly if no expired entry of the key is stored, and just then a
sweep before it makes no difference to it; after a sweep, the deletion tells of live values as
well. -/
theorem presence_of_key {key : String} (hkey : keyFault? key = none) (maxKeys defaultTtl : Nat)
    (requests : List (Instant × Request α)) (now : Instant) :
    let s := after Store.respond requests (empty maxKeys defaultTtl)
    (s.get now key).1.map Option.isSome = .ok (s.live now key) ∧
      (s.has now key).1 = .ok (s.live now key) ∧
      (s.delete key).1 = .ok (s.live now key || s.stale now key) ∧
      ((s.sweep now).2.delete key).1 = .ok (s.live now key) ∧
      ((s.delete key).1 = (s.has now key).1 ↔ s.stale now key = false) ∧
      (((s.sweep now).2.delete key).1 = (s.delete key).1 ↔ s.stale now key = false) := by
  intro s
  have hshows : Shows s _ := (shows_empty maxKeys defaultTtl).after (Nat.le_max_right ..) requests
  have hdelete : (s.delete key).1 = .ok (s.live now key || s.stale now key) := by
    rw [delete_eq hkey, has_eq_live_or_stale]
  have hswept : ((s.sweep now).2.delete key).1 = .ok (s.live now key) := by
    rw [delete_eq hkey, hshows.has_sweep]
  -- An expired entry is not live, so it alone makes the difference.
  have hsame : (s.live now key || s.stale now key) = s.live now key ↔ s.stale now key = false := by
    cases hstale : s.stale now key with
    | true => simp [live_eq_false_of_stale hstale]
    | false => simp
  refine ⟨isSome_get hkey s now, has_eq hkey s now, hdelete, hswept, ?_, ?_⟩
  · rw [hdelete, has_eq hkey, Except.ok.injEq, hsame]
  · rw [hdelete, hswept, Except.ok.injEq, eq_comm, hsame]

/-- A value that lives for a second. -/
def shortLived : List (Instant × Request Nat) := [(0, .set "a" 1 1)]

theorem presence_of_key_expiring :
    keyFault? "a" = none ∧
    (let s := after Store.respond shortLived (empty 2 300)
    s.live 999 "a" = true ∧ (s.delete "a").1 = (s.has 999 "a").1 ∧
      (s.get 999 "a").1.map Option.isSome = .ok true ∧
      ((s.sweep 999).2.delete "a").1 = .ok true) := by
  have hkey : keyFault? "a" = none := by decide
  have hlive : (after Store.respond shortLived (empty 2 300)).live 999 "a" = true := by decide
  have hfresh : (after Store.respond shortLived (empty 2 300)).stale 999 "a" = false := by decide
  obtain ⟨hget, -, -, hswept, hagree, -⟩ := presence_of_key hkey 2 300 shortLived 999
  rw [hlive] at hget hswept
  exact ⟨hkey, hlive, hagree.mpr hfresh, hget, hswept⟩

/-- **A deletion finds what a read and a check do not.** When the value has expired, a read finds
nothing, a check says that there is nothing, and a deletion says that there was something; after a
sweep it says that there was nothing. So it is not the same condition that makes the three answer
yes, and what a deletion says depends on whether a sweep has run. -/
theorem expired_value_deleted :
    ¬ (∀ (key : String) (maxKeys defaultTtl : Nat) (requests : List (Instant × Request Nat))
      (now : Instant), keyFault? key = none →
      let s := after Store.respond requests (empty maxKeys defaultTtl)
      ((s.delete key).1 = .ok true ↔ (s.has now key).1 = .ok true) ∧
        ((s.sweep now).2.delete key).1 = (s.delete key).1) ∧
    (let s := after Store.respond shortLived (empty 2 300)
    s.entries.get? "a" = some (.create 0 1 1) ∧ (s.get 1000 "a").1 = .ok none ∧
      (s.has 1000 "a").1 = .ok false ∧ (s.delete "a").1 = .ok true ∧
      ((s.sweep 1000).2.delete "a").1 = .ok false) := by
  have hanswers : let s := after Store.respond shortLived (empty 2 300)
      s.entries.get? "a" = some (.create 0 1 1) ∧ (s.get 1000 "a").1 = .ok none ∧
        (s.has 1000 "a").1 = .ok false ∧ (s.delete "a").1 = .ok true ∧
        ((s.sweep 1000).2.delete "a").1 = .ok false := by decide
  refine ⟨fun hlaw => ?_, hanswers⟩
  obtain ⟨-, -, hhas, hdelete, -⟩ := hanswers
  obtain ⟨hsame, -⟩ := hlaw "a" 2 300 shortLived 1000 (by decide)
  have hfound := hsame.mp hdelete
  rw [hhas] at hfound
  cases hfound

end Store

end Cache

end Resilience
