import Resilience.Cache.Key
import Resilience.Cache.Entry
import Resilience.Cache.Recency
import Resilience.Cache.Statistics

/-!
# The cache store

A **store** holds at most `maxKeys` entries, and always at least one. Setting a new key when it
is full evicts the least recently used entry first, whether or not some other entry has expired.
An expired entry is as good as absent for reads and is removed by the read that meets it;
`sweep` removes all of them.

Every operation on a key answers with a `Fault` and changes nothing when the key is bad.
-/

namespace Resilience

namespace Cache

/-- Entries by key, their order of use, and the counters. -/
structure Store (α : Type) where
  entries : Table String (Entry α) := []
  recency : Recency := {}
  maxKeys : Nat
  /-- The lifetime in seconds of values that are set without one. -/
  defaultTtl : Nat
  hits : Nat := 0
  misses : Nat := 0
  evictions : Nat := 0

namespace Store

variable {α : Type}

/-- An empty store; a bound of zero acts as one. -/
def empty (maxKeys defaultTtl : Nat) : Store α :=
  { maxKeys := max maxKeys 1, defaultTtl := defaultTtl }

/-- How many entries are stored, expired or not. -/
def size (s : Store α) : Nat := s.entries.length

/-- Removes a key from the entries and from the order of use. -/
def drop (key : String) (s : Store α) : Store α :=
  { s with entries := s.entries.erase key, recency := s.recency.remove key }

/-- Whether a key is stored and its entry has expired. -/
def stale (now : Instant) (key : String) (s : Store α) : Bool :=
  match s.entries.get? key with
  | some e => e.expired now
  | none => false

/-- Stores an entry as the most recently used one. -/
def put (now : Instant) (key : String) (value : α) (ttl : Nat) (s : Store α) : Store α :=
  { s with
    entries := s.entries.set key (Entry.create now value ttl)
    recency := s.recency.touch key }

/-- Makes room for one entry by evicting the least recently used one. -/
def makeRoom (s : Store α) : Except Fault String × Store α :=
  match s.recency.evictOldest with
  | (some oldest, recency) =>
    (.ok oldest,
      { s with entries := s.entries.erase oldest, recency := recency,
               evictions := s.evictions + 1 })
  | (none, _) => (.error (.internal "store is full but no entry is tracked"), s)

/-- Stores a value for `ttl` seconds and tells which key had to go for it, if one had to. -/
def set (now : Instant) (key : String) (value : α) (ttl : Nat) (s : Store α) :
    Except Fault (Option String) × Store α :=
  match keyFault? key with
  | some fault => (.error fault, s)
  | none =>
    if ¬ s.entries.has key ∧ s.maxKeys ≤ s.size then
      match s.makeRoom with
      | (.ok evicted, s) => (.ok (some evicted), s.put now key value ttl)
      | (.error fault, s) => (.error fault, s)
    else (.ok none, s.put now key value ttl)

/-- Reads a value. A hit makes the key the most recently used one. -/
def get (now : Instant) (key : String) (s : Store α) : Except Fault (Option α) × Store α :=
  match keyFault? key with
  | some fault => (.error fault, s)
  | none =>
    if s.stale now key then (.ok none, { s.drop key with misses := s.misses + 1 })
    else match s.entries.get? key with
      | some e =>
        (.ok (some e.value),
          { s with
            entries := s.entries.set key (e.touch now)
            recency := s.recency.touch key
            hits := s.hits + 1 })
      | none => (.ok none, { s with misses := s.misses + 1 })

/-- Whether there is a live entry. This does not count as a use. -/
def has (now : Instant) (key : String) (s : Store α) : Except Fault Bool × Store α :=
  match keyFault? key with
  | some fault => (.error fault, s)
  | none =>
    if s.stale now key then (.ok false, s.drop key) else (.ok (s.entries.has key), s)

/-- Removes an entry, expired or not, and tells whether there was one. -/
def delete (key : String) (s : Store α) : Except Fault Bool × Store α :=
  match keyFault? key with
  | some fault => (.error fault, s)
  | none => if s.entries.has key then (.ok true, s.drop key) else (.ok false, s)

/-- Removes every entry. The counters go on. -/
def clear (s : Store α) : Store α := { s with entries := [], recency := s.recency.clear }

/-- The keys whose entries have expired. -/
def staleKeys (now : Instant) (s : Store α) : List String :=
  (s.entries.filter fun p => p.2.expired now).map Prod.fst

/-- Removes every expired entry and tells how many there were. -/
def sweep (now : Instant) (s : Store α) : Nat × Store α :=
  let gone := s.staleKeys now
  (gone.length, gone.foldl (fun s key => s.drop key) s)

def statistics (now : Instant) (s : Store α) : Statistics where
  totalKeys := s.size
  activeKeys := s.size - (s.staleKeys now).length
  expiredKeys := (s.staleKeys now).length
  totalAccesses := s.entries.total (·.accesses)
  hits := s.hits
  misses := s.misses
  evictions := s.evictions

end Store

end Cache

end Resilience
