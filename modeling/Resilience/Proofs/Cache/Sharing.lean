import Resilience.Cache.Shared
import Resilience.Proofs.Cache.Accounting

/-!
# A shared cache serves its store

What holders and background work do with a cache is a list of **uses**. `Cache.use` carries out one
of them with the functions of the cache, and tells what is given back and what is to be reported.
`Store.serve` says the same of a bare store: a use is a request to it, or none; whoever asks is
given the answer, and finds nothing when the request was refused; what is reported is read off the
answer. That the two agree (`use_eq`) is all that has to be known about the functions of the cache.
The laws of whole runs are then those of stores: the store of a cache is the one that its uses ask
for (`store_used`), the evictions that are reported are those that the store makes, in their order
(`evictions_told`), and the sweeps that are reported are those of background work that removed
something (`sweeps_told`).
-/

namespace Resilience

/-- The key that an event says was evicted. -/
def Event.evicted? : Event → Option String
  | cacheEviction key => some key
  | _ => none

/-- How many entries an event says were swept. -/
def Event.swept? : Event → Option Nat
  | cacheSweep removed => some removed
  | _ => none

namespace Cache

variable {α : Type}

/-! ### Uses -/

/-- What is done with a shared cache. -/
inductive Use (α : Type) where
  /-- A holder asks for something. -/
  | ask (request : Request α)
  /-- Background work sweeps. -/
  | tick
  | shutDown
  /-- A holder looks at the statistics. -/
  | look

/-- What is given back. -/
inductive Return (α : Type) where
  | done
  | value (value? : Option α)
  | truth (b : Bool)
  | count (n : Nat)
  | statistics (statistics : Statistics)

/-- Carries out a use: what is given back, what is to be reported, and the cache afterwards. -/
def use (now : Instant) : Use α → Cache α → Return α × Option Event × Cache α
  | .ask (.set key value ttl), c =>
    let (event?, c) := c.set now key value ttl
    (.done, event?, c)
  | .ask (.get key), c =>
    let (found, c) := c.get now key
    (.value found, none, c)
  | .ask (.has key), c =>
    let (found, c) := c.has now key
    (.truth found, none, c)
  | .ask (.delete key), c =>
    let (found, c) := c.delete key
    (.truth found, none, c)
  | .ask .clear, c => (.done, none, c.clear)
  | .ask .sweep, c =>
    let (removed, c) := c.sweepNow now
    (.count removed, none, c)
  | .tick, c =>
    let (event?, c) := c.sweepTick now
    (.done, event?, c)
  | .shutDown, c => (.done, none, c.shutDown)
  | .look, c => (.statistics (c.statistics now), none, c)

/-- Only values that are set and sweeps by background work report anything. -/
theorem use_quiet {u : Use α} (hset : ∀ key value ttl, u ≠ .ask (.set key value ttl))
    (htick : u ≠ .tick) (now : Instant) (c : Cache α) : (c.use now u).2.1 = none := by
  cases u with
  | ask request =>
    cases request with
    | set key value ttl => exact absurd rfl (hset key value ttl)
    | get | has | delete | clear | sweep => rfl
  | tick => exact absurd rfl htick
  | shutDown | look => rfl

/-! ### Uses of a store -/

/-- What a holder is given for an answer. A refusal is as good as finding nothing. -/
def Request.forgive (request : Request α) : Answer α → Return α
  | .stored _ => .done
  | .read value? => .value value?
  | .present b => .truth b
  | .deleted b => .truth b
  | .cleared => .done
  | .swept removed => .count removed
  | .refused _ =>
    match request with
    | .get _ => .value none
    | .has _ => .truth false
    | .delete _ => .truth false
    | _ => .done

/-- The key that had to go. -/
def Answer.evicted? : Answer α → Option String
  | .stored evicted? => evicted?
  | _ => none

/-- The request that a use makes. -/
def Use.request? : Use α → Option (Request α)
  | ask request => some request
  | tick => some .sweep
  | shutDown => none
  | look => none

/-- A use of a store: what is given back, what is to be reported, and the store afterwards. -/
def Store.serve (now : Instant) : Use α → Store α → Return α × Option Event × Store α
  | .ask request, s =>
    let (answer, s) := s.respond now request
    (request.forgive answer, answer.evicted?.map Event.cacheEviction, s)
  | .tick, s =>
    let (removed, s) := s.sweep now
    (.done, if 0 < removed then some (.cacheSweep removed) else none, s)
  | .shutDown, s => (.done, none, s)
  | .look, s => (.statistics (s.statistics now), none, s)

/-- Whether background work goes on. -/
def Use.keepsSweeping : Use α → Bool
  | ask _ => true
  | tick => true
  | shutDown => false
  | look => true

theorem sweepTick_eq (now : Instant) (c : Cache α) : c.sweepTick now =
    (if 0 < (c.store.sweep now).1 then some (.cacheSweep (c.store.sweep now).1) else none,
      { c with store := (c.store.sweep now).2 }) := by
  have hsweep : c.sweepNow now =
    ((c.store.sweep now).1, { c with store := (c.store.sweep now).2 }) := rfl
  rw [sweepTick, hsweep]
  generalize (c.store.sweep now).1 = removed
  cases removed <;> rfl

/-- **A use of a cache is a use of its store.** -/
theorem use_eq (now : Instant) (u : Use α) (c : Cache α) :
    c.use now u = ((c.store.serve now u).1, (c.store.serve now u).2.1,
      { c with
        store := (c.store.serve now u).2.2
        sweeping := c.sweeping && u.keepsSweeping }) := by
  have hkeeps (store : Store α) : { c with store := store, sweeping := c.sweeping && true } =
      { c with store := store } := by rw [Bool.and_true]
  cases u with
  | ask request =>
    simp only [Use.keepsSweeping, hkeeps, Store.serve]
    -- The answer of the store is all that the cache looks at.
    cases request with
    | set key value ttl =>
      simp only [use, Cache.set, Store.respond]
      rcases c.store.set now key value ttl with ⟨fault | ⟨_ | oldest⟩, s⟩ <;> rfl
    | get key =>
      simp only [use, Cache.get, Store.respond]
      rcases c.store.get now key with ⟨fault | found, s⟩ <;> rfl
    | has key =>
      simp only [use, Cache.has, Store.respond]
      rcases c.store.has now key with ⟨fault | found, s⟩ <;> rfl
    | delete key =>
      simp only [use, Cache.delete, Store.respond]
      rcases c.store.delete key with ⟨fault | found, s⟩ <;> rfl
    | clear | sweep => rfl
  | tick =>
    simp only [Use.keepsSweeping, hkeeps, Store.serve, use, sweepTick_eq]
  | shutDown => rw [Use.keepsSweeping, Bool.and_false]; rfl
  | look => rw [Use.keepsSweeping, Bool.and_true]; rfl

/-- **A refusal goes unnoticed**: the holder finds nothing, and nothing is changed or reported. -/
theorem use_of_fault {request : Request α} {fault : Fault} (h : request.fault? = some fault)
    (now : Instant) (c : Cache α) :
    c.use now (.ask request) = (request.forgive (.refused fault), none, c) := by
  rw [use_eq, Store.serve, Store.respond_of_fault h, Use.keepsSweeping, Bool.and_true]
  rfl

namespace Store

variable {u : Use α} (now : Instant) (s : Store α)

/-- A use that makes a request does what the request does, and the key that is reported as evicted
is the one that had to go. -/
theorem serve_of_request {request : Request α} (h : u.request? = some request) :
    (s.serve now u).2.2 = (s.respond now request).2 ∧
      (s.serve now u).2.1.bind Event.evicted? = (s.respond now request).1.evicted? := by
  cases u with
  | ask asked =>
    obtain rfl := Option.some.inj h
    refine ⟨rfl, ?_⟩
    simp only [serve]
    cases (s.respond now asked).1.evicted? <;> rfl
  | tick =>
    obtain rfl := Option.some.inj h
    refine ⟨rfl, ?_⟩
    simp only [serve]
    split <;> rfl
  | shutDown | look => cases h

theorem serve_of_no_request (h : u.request? = none) :
    (s.serve now u).2.2 = s ∧ (s.serve now u).2.1 = none := by
  cases u with
  | ask | tick => cases h
  | shutDown | look => exact ⟨rfl, rfl⟩

/-- How many entries each sweep by background work removes. -/
def ticks : List (Instant × Use α) → Store α → List Nat
  | [], _ => []
  | (now, .tick) :: rest, s => (s.sweep now).1 :: ticks rest (s.sweep now).2
  | (now, u) :: rest, s => ticks rest (s.serve now u).2.2

/-- A request counts the key that has to go for it. -/
theorem evictions_respond_eq (now : Instant) (request : Request α) (s : Store α) :
    (s.respond now request).2.evictions =
      s.evictions + (s.respond now request).1.evicted?.toList.length := by
  obtain ⟨-, -, hevictions⟩ := counters_respond now s request
  rw [hevictions]
  rcases (s.respond now request).1 with ⟨_ | oldest⟩ | _ | _ | _ | _ | _ | _ <;> rfl

end Store

/-! ### Runs -/

/-- The requests that uses make. -/
def asked (uses : List (Instant × Use α)) : List (Instant × Request α) :=
  uses.filterMap fun p => p.2.request?.map fun request => (p.1, request)

/-- The cache after some uses. -/
def used (uses : List (Instant × Use α)) (c : Cache α) : Cache α :=
  uses.foldl (fun c p => (c.use p.1 p.2).2.2) c

/-- The events that uses report. -/
def told : List (Instant × Use α) → Cache α → List Event
  | [], _ => []
  | (now, u) :: rest, c => (c.use now u).2.1.toList ++ told rest (c.use now u).2.2

theorem used_concat (uses : List (Instant × Use α)) (now : Instant) (u : Use α) (c : Cache α) :
    used (uses ++ [(now, u)]) c = ((used uses c).use now u).2.2 := by
  rw [used, List.foldl_append]
  rfl

theorem told_concat (uses : List (Instant × Use α)) (now : Instant) (u : Use α) (c : Cache α) :
    told (uses ++ [(now, u)]) c = told uses c ++ ((used uses c).use now u).2.1.toList := by
  induction uses generalizing c with
  | nil => exact List.append_nil _
  | cons p rest ih =>
    obtain ⟨before, v⟩ := p
    have hrest := ih (c.use before v).2.2
    simp only [List.cons_append, told, hrest, List.append_assoc]
    rfl

theorem asked_cons_of_request {u : Use α} {request : Request α} (h : u.request? = some request)
    (now : Instant) (rest : List (Instant × Use α)) :
    asked ((now, u) :: rest) = (now, request) :: asked rest :=
  List.filterMap_cons_some (by rw [h]; rfl)

theorem asked_cons_of_no_request {u : Use α} (h : u.request? = none) (now : Instant)
    (rest : List (Instant × Use α)) : asked ((now, u) :: rest) = asked rest :=
  List.filterMap_cons_none (by rw [h]; rfl)

theorem store_use (now : Instant) (u : Use α) (c : Cache α) :
    (c.use now u).2.2.store = (c.store.serve now u).2.2 := by rw [use_eq]

theorem event_use (now : Instant) (u : Use α) (c : Cache α) :
    (c.use now u).2.1 = (c.store.serve now u).2.1 := by rw [use_eq]

/-- **The store of a cache is the one that its uses ask for.** -/
theorem store_used (uses : List (Instant × Use α)) (c : Cache α) :
    (used uses c).store = after Store.respond (asked uses) c.store := by
  induction uses generalizing c with
  | nil => rfl
  | cons p rest ih =>
    obtain ⟨now, u⟩ := p
    have hrest := ih (c.use now u).2.2
    rw [store_use] at hrest
    refine hrest.trans ?_
    cases hrequest : u.request? with
    | none =>
      rw [(c.store.serve_of_no_request now hrequest).1, asked_cons_of_no_request hrequest]
    | some request =>
      rw [(c.store.serve_of_request now hrequest).1, asked_cons_of_request hrequest]
      rfl

/-- **The evictions that are reported are those that the store makes**, in their order. -/
theorem evictions_told (uses : List (Instant × Use α)) (c : Cache α) :
    (told uses c).filterMap Event.evicted? =
      (Store.exchanges (asked uses) c.store).filterMap fun x => x.2.evicted? := by
  induction uses generalizing c with
  | nil => rfl
  | cons p rest ih =>
    obtain ⟨now, u⟩ := p
    rw [told, List.filterMap_append, ih, store_use, event_use]
    cases hrequest : u.request? with
    | none =>
      obtain ⟨hstore, hevent⟩ := c.store.serve_of_no_request now hrequest
      rw [hstore, hevent, asked_cons_of_no_request hrequest]
      rfl
    | some request =>
      obtain ⟨hstore, hevicted⟩ := c.store.serve_of_request now hrequest
      rw [hstore, asked_cons_of_request hrequest, Store.exchanges, List.filterMap_cons,
        ← hevicted]
      cases (c.store.serve now u).2.1 with
      | none => rfl
      | some event =>
        simp only [Option.toList_some, Option.bind_some]
        cases hkey : event.evicted? <;> simp [hkey]

/-- The store counts the evictions that are reported. -/
theorem length_evictions_told (uses : List (Instant × Use α)) (c : Cache α) :
    c.store.evictions + ((told uses c).filterMap Event.evicted?).length =
      (used uses c).store.evictions := by
  rw [evictions_told, store_used]
  generalize asked uses = requests
  generalize c.store = s
  induction requests generalizing s with
  | nil => rfl
  | cons r rest ih =>
    have hrest := ih (s.respond r.1 r.2).2
    rw [Store.evictions_respond_eq] at hrest
    refine Eq.trans ?_ hrest
    rw [Store.exchanges, List.filterMap_cons, Nat.add_assoc]
    cases (s.respond r.1 r.2).1.evicted? with
    | none => simp
    | some key => simp [Nat.add_comm]

/-- **The sweeps that are reported are those of background work that removed something.** -/
theorem sweeps_told (uses : List (Instant × Use α)) (c : Cache α) :
    (told uses c).filterMap Event.swept? = (c.store.ticks uses).filter fun n => 0 < n := by
  induction uses generalizing c with
  | nil => rfl
  | cons p rest ih =>
    obtain ⟨now, u⟩ := p
    rw [told, List.filterMap_append, ih, store_use, event_use]
    cases u with
    | ask request =>
      have hnone : (c.store.serve now (.ask request)).2.1.toList.filterMap Event.swept? = [] := by
        simp only [Store.serve]
        cases (c.store.respond now request).1.evicted? <;> rfl
      rw [hnone]
      rfl
    | tick =>
      simp only [Store.serve, Store.ticks, List.filter_cons, decide_eq_true_eq]
      split <;> rfl
    | shutDown | look => rfl

end Cache

end Resilience
