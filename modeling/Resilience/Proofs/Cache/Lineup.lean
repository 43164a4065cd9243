import Resilience.Cache.Store
import Mathlib.Data.List.Nodup

/-!
# The line-up of a cache

A **line-up** is what a cache is to those who use it: one list of values with their keys and the
instants at which they expire, least recently used first. `Lineup.respond` says in terms of this
list alone how a cache with room for `capacity` values answers:

* a value that is stored goes to the back, in the place of the value that its key had; a new key
  that finds no room drops the front;
* a read takes a live value to the back, and a read or a check drops a value that has expired;
* a deletion drops the value of its key, expired or not, and a sweep drops all that have expired;
* a key that is empty or longer than 250 bytes is refused and changes nothing.

Nothing here mentions ticks, tables or counters. `answers` runs any machine that responds to
requests on a list of them, each at its own instant, and keeps what it answered with the number
of values that it then held.
-/

namespace Resilience

namespace Cache

/-- A request to a cache. -/
inductive Request (α : Type) where
  | set (key : String) (value : α) (ttl : Nat)
  | get (key : String)
  | has (key : String)
  | delete (key : String)
  | clear
  | sweep

/-- What a cache answers. -/
inductive Answer (α : Type) where
  /-- The value was stored, and this key had to go for it. -/
  | stored (evicted? : Option String)
  | read (value? : Option α)
  | present (b : Bool)
  | deleted (b : Bool)
  | cleared
  | swept (removed : Nat)
  | refused (fault : Fault)
deriving DecidableEq

variable {α σ : Type}

/-- Whether an answer is that of a read that found a value. -/
def Answer.hits : Answer α → Nat
  | .read (some _) => 1
  | _ => 0

/-- Whether an answer is that of a read that found nothing. -/
def Answer.misses : Answer α → Nat
  | .read none => 1
  | _ => 0

/-- Whether a key had to go. -/
def Answer.evictions : Answer α → Nat
  | .stored (some _) => 1
  | _ => 0

/-- The answers to requests made one after the other, each at its own instant, with the number
of values held after each. -/
def answers (respond : Instant → Request α → σ → Answer α × σ) (size : σ → Nat) :
    List (Instant × Request α) → σ → List (Answer α × Nat)
  | [], _ => []
  | (now, request) :: rest, s =>
    let (answer, s) := respond now request s
    (answer, size s) :: answers respond size rest s

/-- What requests made one after the other, each at its own instant, lead to. -/
def after (respond : Instant → Request α → σ → Answer α × σ)
    (requests : List (Instant × Request α)) (s : σ) : σ :=
  requests.foldl (fun s r => (respond r.1 r.2 s).2) s

section Runs

variable (respond : Instant → Request α → σ → Answer α × σ) (size : σ → Nat)

theorem after_concat (requests : List (Instant × Request α)) (now : Instant)
    (request : Request α) (s : σ) : after respond (requests ++ [(now, request)]) s =
      (respond now request (after respond requests s)).2 := by
  rw [after, List.foldl_append]
  rfl

theorem answers_append (requests more : List (Instant × Request α)) (s : σ) :
    answers respond size (requests ++ more) s =
      answers respond size requests s ++ answers respond size more (after respond requests s) := by
  induction requests generalizing s with
  | nil => rfl
  | cons r rest ih =>
    obtain ⟨now, request⟩ := r
    exact congrArg (_ :: ·) (ih (respond now request s).2)

end Runs

/-! ### The line-up -/

/-- A value under its key, until it expires. -/
structure Item (α : Type) where
  key : String
  value : α
  expires : Instant
deriving DecidableEq

/-- Values with their keys, least recently used first. -/
abbrev Lineup (α : Type) := List (Item α)

namespace Lineup

/-- The complaint about a key that is empty or too long. -/
def complaint? (key : String) : Option Fault :=
  if key = "" then some (.invalidKey "key is empty")
  else if 250 < key.utf8ByteSize then
    some (.invalidKey "key exceeds maximum length of 250 bytes")
  else none

/-- The line-up without a key. -/
def without (key : String) (l : Lineup α) : Lineup α := l.filter fun i => i.key ≠ key

/-- The item of a key. -/
def item? (key : String) (l : Lineup α) : Option (Item α) := l.find? fun i => i.key = key

/-- How a cache with this much room answers a request. -/
def respond (capacity : Nat) (now : Instant) (request : Request α) (l : Lineup α) :
    Answer α × Lineup α :=
  match request with
  | .set key value ttl =>
    let item : Item α := ⟨key, value, now + min (ttl * 1000) (Nat.pow 2 64 - 1)⟩
    match complaint? key with
    | some fault => (.refused fault, l)
    | none =>
      if key ∈ l.map Item.key ∨ l.length < capacity then
        (.stored none, l.without key ++ [item])
      else (.stored (l.head?.map Item.key), l.tail ++ [item])
  | .get key =>
    match complaint? key with
    | some fault => (.refused fault, l)
    | none =>
      match l.item? key with
      | some item =>
        if now < item.expires then (.read (some item.value), l.without key ++ [item])
        else (.read none, l.without key)
      | none => (.read none, l)
  | .has key =>
    match complaint? key with
    | some fault => (.refused fault, l)
    | none =>
      match l.item? key with
      | some item => if now < item.expires then (.present true, l)
        else (.present false, l.without key)
      | none => (.present false, l)
  | .delete key =>
    match complaint? key with
    | some fault => (.refused fault, l)
    | none => (.deleted (decide (key ∈ l.map Item.key)), l.without key)
  | .clear => (.cleared, [])
  | .sweep =>
    (.swept (l.countP fun i => i.expires ≤ now), l.filter fun i => now < i.expires)

theorem without_of_not_mem {key : String} {l : Lineup α} (h : key ∉ l.map Item.key) :
    l.without key = l := by
  refine List.filter_eq_self.mpr fun i hi => ?_
  simpa using ne_of_mem_of_not_mem (List.mem_map_of_mem hi) h

theorem length_without_lt {key : String} {l : Lineup α} (h : key ∈ l.map Item.key) :
    (l.without key).length < l.length := by
  obtain ⟨i, hi, rfl⟩ := List.mem_map.mp h
  exact List.length_filter_lt_length_iff_exists.mpr ⟨i, hi, by simp⟩

theorem keys_without (key : String) (l : Lineup α) :
    (l.without key).map Item.key = (l.map Item.key).filter fun k => k ≠ key := by
  rw [without, List.filter_map]
  rfl

theorem item?_eq_none_iff {key : String} {l : Lineup α} :
    l.item? key = none ↔ key ∉ l.map Item.key := by
  simp [item?]

theorem mem_keys_of_item? {key : String} {l : Lineup α} {i : Item α} (h : l.item? key = some i) :
    key ∈ l.map Item.key := by
  by_contra hnot
  rw [item?_eq_none_iff.mpr hnot] at h
  cases h

/-- With distinct keys, the item of a key is the one item that has it. -/
theorem item?_eq_some_iff {key : String} {l : Lineup α} {i : Item α}
    (h : (l.map Item.key).Nodup) : l.item? key = some i ↔ i ∈ l ∧ i.key = key := by
  constructor
  · intro hi
    exact ⟨List.mem_of_find?_eq_some hi, by simpa using List.find?_some hi⟩
  · rintro ⟨hi, rfl⟩
    cases hfind : l.item? i.key with
    | none => exact absurd (List.mem_map_of_mem hi) (item?_eq_none_iff.mp hfind)
    | some j =>
      have hj : j.key = i.key := by simpa using List.find?_some hfind
      rw [List.inj_on_of_nodup_map h (List.mem_of_find?_eq_some hfind) hi hj]

end Lineup

end Cache

end Resilience
