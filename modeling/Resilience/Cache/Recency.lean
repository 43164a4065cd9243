import Resilience.Table

/-!
# Order of use

A `Recency` tracker knows in which order keys were last touched. Every touch draws a new tick,
one more than the last. `order` lists the ticks in use from the oldest to the newest, each with
its key; `ticks` leads from a key to its tick, so a key is found without searching the order.
-/

namespace Resilience

namespace Cache

/-- The order in which keys were last touched. -/
structure Recency where
  /-- Ticks in use with their keys, oldest first. -/
  order : List (Nat × String) := []
  /-- The tick of each key. -/
  ticks : Table String Nat := []
  nextTick : Nat := 0
deriving DecidableEq, Repr

namespace Recency

/-- Puts a tick in its place; a tick that is there gets the new key. -/
def place (tick : Nat) (key : String) : List (Nat × String) → List (Nat × String)
  | [] => [(tick, key)]
  | (t, k) :: rest =>
    if tick < t then (tick, key) :: (t, k) :: rest
    else if tick = t then (tick, key) :: rest
    else (t, k) :: place tick key rest

/-- Removes a tick. -/
def unplace (tick : Nat) (order : List (Nat × String)) : List (Nat × String) :=
  order.filter fun p => p.1 ≠ tick

/-- Makes a key the most recently used one, adding it if it is new. -/
def touch (key : String) (r : Recency) : Recency :=
  let cleared := match r.ticks.get? key with
    | some tick => unplace tick r.order
    | none => r.order
  ⟨place r.nextTick key cleared, r.ticks.set key r.nextTick, r.nextTick + 1⟩

/-- Forgets a key. -/
def remove (key : String) (r : Recency) : Recency :=
  match r.ticks.get? key with
  | some tick => { r with order := unplace tick r.order, ticks := r.ticks.erase key }
  | none => r

/-- Removes the least recently used key and tells which it was. -/
def evictOldest (r : Recency) : Option String × Recency :=
  match r.order with
  | [] => (none, r)
  | (_, key) :: rest => (some key, { r with order := rest, ticks := r.ticks.erase key })

/-- The least recently used key. -/
def oldest? (r : Recency) : Option String := (r.order.head?).map Prod.snd

/-- Forgets every key. -/
def clear (r : Recency) : Recency := { r with order := [], ticks := [] }

/-- How many keys there are. -/
def size (r : Recency) : Nat := r.ticks.length

def contains (key : String) (r : Recency) : Bool := r.ticks.has key

end Recency

end Cache

end Resilience
