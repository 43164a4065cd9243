import Resilience.Cache.Store
import Resilience.Event

/-!
# Shared caches

A `Cache` is a store that many callers share. It never fails: a bad key is a miss, is not there,
and cannot be set or deleted. An eviction is reported as an event. Background work sweeps the
store once every tick, as long as somebody holds the cache and it was not shut down, and reports
a sweep that removed something; a sweep asked for by hand is not reported.
-/

namespace Resilience

namespace Cache

/-- The settings of a cache. -/
structure Config where
  maxKeys : Nat := 1000
  /-- In seconds. -/
  defaultTtl : Nat := 300
  sweepInterval : Duration := .ofSecs 1
deriving DecidableEq, Repr

/-- How often background work sweeps. -/
def Config.tick (config : Config) : Duration := config.sweepInterval.longer .shortestTick

end Cache

/-- A shared cache. -/
structure Cache (α : Type) where
  config : Cache.Config
  store : Cache.Store α
  /-- Background work sweeps the store. -/
  sweeping : Bool

namespace Cache

variable {α : Type}

def create (config : Config) (sweeping : Bool) : Cache α :=
  ⟨config, .empty config.maxKeys config.defaultTtl, sweeping⟩

/-- Stores a value for `ttl` seconds. -/
def set (now : Instant) (key : String) (value : α) (ttl : Nat) (c : Cache α) :
    Option Event × Cache α :=
  match c.store.set now key value ttl with
  | (.ok (some evicted), store) => (some (.cacheEviction evicted), { c with store := store })
  | (_, store) => (none, { c with store := store })

/-- Reads a value. -/
def get (now : Instant) (key : String) (c : Cache α) : Option α × Cache α :=
  match c.store.get now key with
  | (.ok found, store) => (found, { c with store := store })
  | (.error _, store) => (none, { c with store := store })

/-- Whether there is a live value. -/
def has (now : Instant) (key : String) (c : Cache α) : Bool × Cache α :=
  match c.store.has now key with
  | (.ok found, store) => (found, { c with store := store })
  | (.error _, store) => (false, { c with store := store })

/-- Removes a value and tells whether there was one. -/
def delete (key : String) (c : Cache α) : Bool × Cache α :=
  match c.store.delete key with
  | (.ok found, store) => (found, { c with store := store })
  | (.error _, store) => (false, { c with store := store })

/-- Removes every value. -/
def clear (c : Cache α) : Cache α := { c with store := c.store.clear }

/-- Removes the expired values now and tells how many there were. -/
def sweepNow (now : Instant) (c : Cache α) : Nat × Cache α :=
  let (removed, store) := c.store.sweep now
  (removed, { c with store := store })

/-- A sweep by background work. -/
def sweepTick (now : Instant) (c : Cache α) : Option Event × Cache α :=
  let (removed, c) := c.sweepNow now
  (if removed = 0 then none else some (.cacheSweep removed), c)

/-- Ends the background work. The values stay. -/
def shutDown (c : Cache α) : Cache α := { c with sweeping := false }

def statistics (now : Instant) (c : Cache α) : Statistics := c.store.statistics now

end Cache

end Resilience
