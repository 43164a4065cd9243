import Resilience.Time

/-!
# Cache entries

An **entry** is a value with the instant at which it expires. It is expired from that very
instant on. Each successful read is counted, and the instant of the last one is kept.
-/

namespace Resilience

namespace Cache

/-- A stored value. -/
structure Entry (α : Type) where
  value : α
  expires : Instant
  /-- How often the value was read. -/
  accesses : Nat
  /-- When it was last written or read. -/
  lastAccess : Instant
deriving DecidableEq, Repr

namespace Entry

variable {α : Type}

/-- A lifetime given in seconds, in milliseconds: at most what fits in 64 bits. -/
def lifetime (ttl : Nat) : Nat := min (ttl * 1000) maxWord

/-- A value stored now, to live for `ttl` seconds. -/
def create (now : Instant) (value : α) (ttl : Nat) : Entry α := ⟨value, now + lifetime ttl, 0, now⟩

def expired (now : Instant) (e : Entry α) : Bool := e.expires ≤ now

/-- Counts a read. -/
def touch (now : Instant) (e : Entry α) : Entry α :=
  { e with accesses := e.accesses + 1, lastAccess := now }

/-- The milliseconds left to live. -/
def remaining (now : Instant) (e : Entry α) : Nat := e.expires - now

end Entry

end Cache

end Resilience
