import Resilience.Json.Basic

/-!
# Cache statistics

A snapshot of what a cache holds and of the counters that it has kept since it was created.
-/

namespace Resilience

namespace Cache

/-- What a cache shows of itself. -/
structure Statistics where
  /-- Entries stored, expired or not. -/
  totalKeys : Nat := 0
  activeKeys : Nat := 0
  /-- Entries stored that have expired and that nothing has removed yet. -/
  expiredKeys : Nat := 0
  /-- Reads of the entries that are stored now. -/
  totalAccesses : Nat := 0
  hits : Nat := 0
  misses : Nat := 0
  evictions : Nat := 0
deriving DecidableEq, Repr

namespace Statistics

/-- The share of reads that found a value; zero when nothing was read. -/
def hitRate (s : Statistics) : Float :=
  if s.hits + s.misses = 0 then 0.0
  else (UInt64.ofNat s.hits).toFloat / (UInt64.ofNat (s.hits + s.misses)).toFloat

/-- The counters by name. -/
def fields (s : Statistics) : List (String × Json) :=
  [("total_keys", .ofNat s.totalKeys), ("active_keys", .ofNat s.activeKeys),
    ("expired_keys", .ofNat s.expiredKeys), ("total_accesses", .ofNat s.totalAccesses),
    ("hits", .ofNat s.hits), ("misses", .ofNat s.misses), ("evictions", .ofNat s.evictions)]

/-- The counters as a document. -/
def json (s : Statistics) : Json := .ofFields s.fields

/-- The counters and the hit rate as a document. -/
def report (s : Statistics) : Json := .ofFields (s.fields ++ [("hit_rate", .float s.hitRate)])

end Statistics

end Cache

end Resilience
