import Resilience.Proofs.Cache.Refinement
import Mathlib.Data.List.Induction

/-!
# More room finds no less

A larger cache never misses what a smaller one finds: asked the same at the same instants, it
holds every value that the smaller one holds, until the same instant, and reads and checks that
succeed in the smaller one succeed in it (`larger_finds_all`).

The two do not drop the same values, nor at the same time. A read that only the larger one can
answer moves a value to its back, and a deletion may free a place in one of them alone. What
holds throughout is `Lineup.Within`: the smaller line-up is a sublist of the larger one, so the
values that both have stand in the same order, and the larger one has no more values beyond them
than it has more places. So when the larger one is full the smaller one is full as well, and the
front that the larger one drops is either a value of its own or the front of both.
-/

namespace Resilience

namespace Cache

variable {α : Type}

/-- The second answer finds what the first one finds: a value that is read, or a key that is
there. -/
def Answer.FoundBy (a b : Answer α) : Prop :=
  (∀ value, a = .read (some value) → b = .read (some value)) ∧
    (a = .present true → b = .present true)

theorem Answer.FoundBy.refl (a : Answer α) : a.FoundBy a := ⟨fun _ h => h, id⟩

/-- An answer that finds nothing is no worse than any other. -/
theorem Answer.FoundBy.of_nothing {a : Answer α} (hread : ∀ value, a ≠ .read (some value))
    (hpresent : a ≠ .present true) (b : Answer α) : a.FoundBy b :=
  ⟨fun value h => absurd h (hread value), fun h => absurd h hpresent⟩

namespace Lineup

/-- The smaller line-up is a part of the larger one, in the same order, and leaves out at most
`spare` values of it. -/
structure Within (spare : Nat) (small large : Lineup α) : Prop where
  sublist : small.Sublist large
  extra : large.length ≤ small.length + spare

namespace Within

variable {spare : Nat} {small large : Lineup α} {key : String}

/-- What is dropped from the smaller line-up is dropped from the larger one too. -/
theorem filter (h : Within spare small large) (keep : Item α → Bool) :
    Within spare (small.filter keep) (large.filter keep) where
  sublist := h.sublist.filter keep
  extra := by
    have hsmall := List.length_eq_countP_add_countP keep (l := small)
    have hlarge := List.length_eq_countP_add_countP keep (l := large)
    have hdropped := h.sublist.countP_le (p := fun i => !keep i)
    have hextra := h.extra
    simp only [← List.countP_eq_length_filter]
    simp only [Bool.not_eq_true, Bool.decide_eq_false] at hsmall hlarge
    omega

theorem without (h : Within spare small large) (key : String) :
    Within spare (small.without key) (large.without key) := h.filter _

/-- A value that comes to the back of both. -/
theorem append (h : Within spare small large) (i : Item α) :
    Within spare (small ++ [i]) (large ++ [i]) where
  sublist := h.sublist.append_right [i]
  extra := by
    have hextra := h.extra
    simp only [List.length_append, List.length_singleton]
    omega

theorem mem_keys (h : Within spare small large) (hkey : key ∈ small.map Item.key) :
    key ∈ large.map Item.key := (h.sublist.map Item.key).subset hkey

/-- A value of the smaller line-up is the value that the key has in the larger one. -/
theorem item?_eq_some (h : Within spare small large) (hdistinct : (large.map Item.key).Nodup)
    {i : Item α} (hi : small.item? key = some i) : large.item? key = some i := by
  have hdistinct' := hdistinct.sublist (h.sublist.map Item.key)
  obtain ⟨hmem, hkey⟩ := (item?_eq_some_iff hdistinct').mp hi
  exact (item?_eq_some_iff hdistinct).mpr ⟨h.sublist.subset hmem, hkey⟩

/-- A value that only the larger line-up has may go to its back. -/
theorem refresh (h : Within spare small large) (hsmall : key ∉ small.map Item.key)
    (hlarge : key ∈ large.map Item.key) (i : Item α) :
    Within spare small (large.without key ++ [i]) where
  sublist := by
    have hrest := (h.without key).sublist
    rw [without_of_not_mem hsmall] at hrest
    exact hrest.trans (List.sublist_append_left _ _)
  extra := by
    have hshorter := length_without_lt hlarge
    have hextra := h.extra
    simp only [List.length_append, List.length_singleton]
    omega

/-! ### Setting a value -/

/-- The smaller line-up has no room for a new key, and the larger one needs none or has some. -/
private theorem set_small_full (h : Within spare small large) {capacity : Nat}
    (hcapacity : 0 < capacity) (hnew : key ∉ small.map Item.key)
    (hfull : capacity ≤ small.length)
    (hroom : key ∈ large.map Item.key ∨ large.length < capacity + spare) (i : Item α) :
    Within spare (small.tail ++ [i]) (large.without key ++ [i]) where
  sublist := by
    have hrest := (h.without key).sublist
    rw [without_of_not_mem hnew] at hrest
    exact ((List.tail_sublist small).trans hrest).append_right [i]
  extra := by
    have hextra := h.extra
    have hle : (large.without key).length ≤ large.length := List.length_filter_le ..
    simp only [List.length_append, List.length_singleton, List.length_tail]
    rcases hroom with hlarge | hroom
    · have hshorter := length_without_lt hlarge
      omega
    · omega

/-- Neither has room: both drop their front. -/
private theorem set_both_full (h : Within spare small large) (hne : small ≠ []) (i : Item α) :
    Within spare (small.tail ++ [i]) (large.tail ++ [i]) where
  sublist := h.sublist.tail.append_right [i]
  extra := by
    have hextra := h.extra
    have hpos := List.length_pos_iff.mpr hne
    have hle := h.sublist.length_le
    simp only [List.length_append, List.length_singleton, List.length_tail]
    omega

variable (now : Instant)

private theorem respond_set (h : Within spare small large) {capacity : Nat}
    (hcapacity : 0 < capacity) (value : α) (ttl : Nat) :
    (small.respond capacity now (.set key value ttl)).1.FoundBy
        (large.respond (capacity + spare) now (.set key value ttl)).1 ∧
      Within spare (small.respond capacity now (.set key value ttl)).2
        (large.respond (capacity + spare) now (.set key value ttl)).2 := by
  have hextra := h.extra
  simp only [respond]
  cases complaint? key with
  | some fault => exact ⟨.refl _, h⟩
  | none =>
    by_cases hsmall : key ∈ small.map Item.key ∨ small.length < capacity
    · -- A larger line-up without room for a new key would have more than its spare values.
      have hlarge : key ∈ large.map Item.key ∨ large.length < capacity + spare :=
        hsmall.imp h.mem_keys fun hroom => by omega
      simp only [if_pos hsmall, if_pos hlarge]
      exact ⟨.refl _, (h.without key).append _⟩
    · obtain ⟨hnew, hfull⟩ := not_or.mp hsmall
      rw [Nat.not_lt] at hfull
      by_cases hlarge : key ∈ large.map Item.key ∨ large.length < capacity + spare
      · simp only [if_neg hsmall, if_pos hlarge]
        exact ⟨.of_nothing (by simp) (by simp) _,
          h.set_small_full hcapacity hnew hfull hlarge _⟩
      · simp only [if_neg hsmall, if_neg hlarge]
        have hne : small ≠ [] :=
          List.ne_nil_of_length_pos (Nat.lt_of_lt_of_le hcapacity hfull)
        exact ⟨.of_nothing (by simp) (by simp) _, h.set_both_full hne _⟩

/-! ### Reads and checks -/

private theorem respond_get (h : Within spare small large)
    (hdistinct : (large.map Item.key).Nodup) (capacity capacity' : Nat) :
    (small.respond capacity now (.get key)).1.FoundBy
        (large.respond capacity' now (.get key)).1 ∧
      Within spare (small.respond capacity now (.get key)).2
        (large.respond capacity' now (.get key)).2 := by
  simp only [respond]
  cases complaint? key with
  | some fault => exact ⟨.refl _, h⟩
  | none =>
    cases hsmall : small.item? key with
    | some i =>
      simp only [h.item?_eq_some hdistinct hsmall]
      split_ifs
      · exact ⟨.refl _, (h.without key).append i⟩
      · exact ⟨.refl _, h.without key⟩
    | none =>
      have hnew := item?_eq_none_iff.mp hsmall
      refine ⟨.of_nothing (by simp) (by simp) _, ?_⟩
      cases hlarge : large.item? key with
      | none => exact h
      | some i =>
        dsimp only
        split_ifs
        · exact h.refresh hnew (mem_keys_of_item? hlarge) i
        · exact without_of_not_mem hnew ▸ h.without key

private theorem respond_has (h : Within spare small large)
    (hdistinct : (large.map Item.key).Nodup) (capacity capacity' : Nat) :
    (small.respond capacity now (.has key)).1.FoundBy
        (large.respond capacity' now (.has key)).1 ∧
      Within spare (small.respond capacity now (.has key)).2
        (large.respond capacity' now (.has key)).2 := by
  simp only [respond]
  cases complaint? key with
  | some fault => exact ⟨.refl _, h⟩
  | none =>
    cases hsmall : small.item? key with
    | some i =>
      simp only [h.item?_eq_some hdistinct hsmall]
      split_ifs
      · exact ⟨.refl _, h⟩
      · exact ⟨.refl _, h.without key⟩
    | none =>
      refine ⟨.of_nothing (by simp) (by simp) _, ?_⟩
      cases large.item? key with
      | none => exact h
      | some i =>
        dsimp only
        split_ifs
        · exact h
        · exact without_of_not_mem (item?_eq_none_iff.mp hsmall) ▸ h.without key

/-- **A request keeps the smaller line-up within the larger one**, which finds what the smaller
one finds. -/
theorem respond (h : Within spare small large) (hdistinct : (large.map Item.key).Nodup)
    {capacity : Nat} (hcapacity : 0 < capacity) (request : Request α) :
    (small.respond capacity now request).1.FoundBy
        (large.respond (capacity + spare) now request).1 ∧
      Within spare (small.respond capacity now request).2
        (large.respond (capacity + spare) now request).2 := by
  cases request with
  | set key value ttl => exact h.respond_set now hcapacity value ttl
  | get key => exact h.respond_get now hdistinct _ _
  | has key => exact h.respond_has now hdistinct _ _
  | delete key =>
    simp only [Lineup.respond]
    cases complaint? key with
    | some fault => exact ⟨.refl _, h⟩
    | none => exact ⟨.of_nothing (by simp) (by simp) _, h.without key⟩
  | clear => exact ⟨.refl _, .slnil, Nat.zero_le _⟩
  | sweep =>
    simp only [Lineup.respond]
    exact ⟨.of_nothing (by simp) (by simp) _, h.filter _⟩

end Within

end Lineup

namespace Store

/-! ### Two stores -/

/-- The smaller store has `spare` places less, and shows a line-up within that of the larger
store. -/
structure Within (spare : Nat) (small large : Store α) : Prop where
  room : 0 < small.maxKeys
  spare_eq : large.maxKeys = small.maxKeys + spare
  lineups : ∃ l l', Shows small l ∧ Shows large l' ∧ Lineup.Within spare l l'

namespace Within

variable {spare : Nat} {small large : Store α}

theorem empty (capacity capacity' defaultTtl : Nat) (h : capacity ≤ capacity') :
    ∃ spare, Within spare (Store.empty capacity defaultTtl : Store α)
      (Store.empty capacity' defaultTtl) := by
  have hle : max capacity 1 ≤ max capacity' 1 := by omega
  obtain ⟨spare, heq⟩ := Nat.exists_eq_add_of_le hle
  exact ⟨spare, Nat.le_max_right .., heq, [], [], shows_empty .., shows_empty .., .slnil,
    Nat.zero_le _⟩

/-- **A request keeps the smaller store within the larger one**, which finds what the smaller one
finds. -/
theorem respond (h : Within spare small large) (now : Instant) (request : Request α) :
    (small.respond now request).1.FoundBy (large.respond now request).1 ∧
      Within spare (small.respond now request).2 (large.respond now request).2 := by
  obtain ⟨hroom, hspare, l, l', hsmall, hlarge, hwithin⟩ := h
  obtain ⟨hanswer, hshows⟩ := hsmall.respond now hroom request
  obtain ⟨hanswer', hshows'⟩ := hlarge.respond now (by omega) request
  rw [hspare] at hanswer' hshows'
  obtain ⟨hfound, hwithin'⟩ := hwithin.respond now hlarge.tracks.distinct hroom request
  refine ⟨by rwa [hanswer, hanswer'], ?_⟩
  exact ⟨by simpa using hroom, by simpa using hspare, _, _, hshows, hshows', hwithin'⟩

theorem after (h : Within spare small large) (requests : List (Instant × Request α)) :
    Within spare (Cache.after Store.respond requests small)
      (Cache.after Store.respond requests large) := by
  induction requests generalizing small large with
  | nil => exact h
  | cons r rest ih => exact ih (h.respond r.1 r.2).2

theorem answers (h : Within spare small large) (requests : List (Instant × Request α)) :
    List.Forall₂ (fun a b => a.1.FoundBy b.1) (Cache.answers Store.respond size requests small)
      (Cache.answers Store.respond size requests large) := by
  induction requests generalizing small large with
  | nil => exact .nil
  | cons r rest ih =>
    obtain ⟨hfound, hnext⟩ := h.respond r.1 r.2
    exact .cons hfound (ih hnext)

/-- What the smaller store holds, the larger one holds until the same instant. -/
theorem get?_eq_some (h : Within spare small large) {key : String} {e : Entry α}
    (he : small.entries.get? key = some e) :
    ∃ e', large.entries.get? key = some e' ∧ e'.value = e.value ∧ e'.expires = e.expires := by
  obtain ⟨-, -, l, l', hsmall, hlarge, hwithin⟩ := h
  have hitem := hwithin.item?_eq_some hlarge.tracks.distinct (hsmall.get?_some he)
  cases he' : large.entries.get? key with
  | none =>
    rw [hlarge.get?_none he'] at hitem
    cases hitem
  | some e' =>
    have heq := Option.some.inj ((hlarge.get?_some he').symm.trans hitem)
    exact ⟨e', rfl, congrArg Item.value heq, congrArg Item.expires heq⟩

end Within

/-- **More room finds no less.** Ask a store and one with at least as much room the same at the
same instants, from the start. After each request, the larger one holds what the smaller one
holds, with the same value and until the same instant; and whatever a read or a check finds in
the smaller one, it finds in the larger one. -/
theorem larger_finds_all {maxKeys maxKeys' : Nat} (hroom : maxKeys ≤ maxKeys') (defaultTtl : Nat)
    (requests : List (Instant × Request α)) :
    (∀ key e,
      (after Store.respond requests (empty maxKeys defaultTtl)).entries.get? key = some e →
      ∃ e', (after Store.respond requests (empty maxKeys' defaultTtl)).entries.get? key = some e' ∧
        e'.value = e.value ∧ e'.expires = e.expires) ∧
    List.Forall₂
      (fun a b => (∀ value, a.1 = .read (some value) → b.1 = .read (some value)) ∧
        (a.1 = .present true → b.1 = .present true))
      (answers Store.respond size requests (empty maxKeys defaultTtl))
      (answers Store.respond size requests (empty maxKeys' defaultTtl)) := by
  obtain ⟨spare, hempty⟩ := Within.empty (α := α) maxKeys maxKeys' defaultTtl hroom
  exact ⟨fun key e he => (hempty.after requests).get?_eq_some he, hempty.answers requests⟩

/-- The larger store answers a read that the smaller one cannot answer any more, and in the end
they drop different keys for the same new one. -/
def crossing : List (Instant × Request Nat) :=
  [(0, .set "a" 1 9), (0, .set "b" 2 9), (1, .set "c" 3 9), (2, .get "a"), (3, .set "d" 4 9),
    (4, .get "c"), (5, .set "e" 5 9), (6, .has "c")]

theorem larger_finds_all_crossing :
    2 ≤ 3 ∧
    (answers Store.respond size crossing (empty 2 300)).map Prod.fst =
      [.stored none, .stored none, .stored (some "a"), .read none, .stored (some "b"),
        .read (some 3), .stored (some "d"), .present true] ∧
    (answers Store.respond size crossing (empty 3 300)).map Prod.fst =
      [.stored none, .stored none, .stored none, .read (some 1), .stored (some "b"),
        .read (some 3), .stored (some "a"), .present true] ∧
    ∀ key e, (after Store.respond crossing (empty 2 300)).entries.get? key = some e →
      ∃ e', (after Store.respond crossing (empty 3 300)).entries.get? key = some e' ∧
        e'.value = e.value ∧ e'.expires = e.expires := by
  have hroom : 2 ≤ 3 := by decide
  obtain ⟨hholds, -⟩ := larger_finds_all hroom 300 crossing
  exact ⟨hroom, by decide +kernel, by decide +kernel, hholds⟩

end Store

end Cache

end Resilience
