import Resilience.Proofs.World
import Resilience.Proofs.Table
import Mathlib.Data.Multiset.AddSub
import Mathlib.Logic.Relation

/-!
# Scenes

A **scene** is a world with everything that calls hold in it: admissions of breakers, slots of
limiters, places in lines. An `Act` is one step of the world, taken by whoever; it needs the hold
that it uses up and leaves the hold that it hands out. `Steps` are acts one after the other, in
any order, so a law that every act preserves holds in every run of every call, at every moment of
it.

Acts take their holds out of all that there are, so a sequence of acts goes through in the
presence of any other holds. That is what lets the acts of one call be put together from the acts
of its parts.
-/

namespace Resilience

/-- Something that a call has of a component and has to give back. -/
inductive Hold where
  /-- Was admitted by a breaker and has not settled. -/
  | admission (breaker : String) (probe : Bool)
  /-- Has a slot of a limiter. -/
  | slot (limiter : ComponentId)
  /-- Has a place in the line of a limiter, or a slot that it was handed there. -/
  | place (limiter : ComponentId) (ticket : Ticket)
  /-- Has a place in the line of a bucket, or a token that it was handed there. -/
  | tokenPlace (bucket : ComponentId) (ticket : Ticket)
deriving DecidableEq

/-- What a breaker's answer leaves to a call. -/
def Breaker.Admission.holds (breaker : String) : Breaker.Admission → Multiset Hold
  | allowed probe => {.admission breaker probe}
  | rejected _ => 0

/-- What a limiter's answer leaves to a call. -/
def Hold.ofSlotAnswer (limiter : ComponentId) : Except Rejection (Option Ticket) → Multiset Hold
  | .ok none => {.slot limiter}
  | .ok (some ticket) => {.place limiter ticket}
  | .error _ => 0

/-- What a bucket's answer leaves to a call: a token is used up at once. -/
def Hold.ofTokenAnswer (bucket : ComponentId) : Except Rejection (Option Ticket) → Multiset Hold
  | .ok (some ticket) => {.tokenPlace bucket ticket}
  | _ => 0

theorem Breaker.Admission.not_mem_holds {x : Hold} {breaker : String}
    {admission : Breaker.Admission} (h : ∀ probe, x ≠ .admission breaker probe) :
    x ∉ admission.holds breaker := by
  cases admission with
  | allowed probe => simpa [holds] using h probe
  | rejected count => simp [holds]

namespace Hold

variable {x : Hold} {id : ComponentId} {answer : Except Rejection (Option Ticket)}

theorem not_mem_ofSlotAnswer (hslot : x ≠ .slot id) (hplace : ∀ ticket, x ≠ .place id ticket) :
    x ∉ ofSlotAnswer id answer := by
  rcases answer with rejection | ⟨_ | ticket⟩
  · simp [ofSlotAnswer]
  · simpa [ofSlotAnswer] using hslot
  · simpa [ofSlotAnswer] using hplace ticket

theorem not_mem_ofTokenAnswer (h : ∀ ticket, x ≠ .tokenPlace id ticket) :
    x ∉ ofTokenAnswer id answer := by
  rcases answer with rejection | ⟨_ | ticket⟩
  · simp [ofTokenAnswer]
  · simp [ofTokenAnswer]
  · simpa [ofTokenAnswer] using h ticket

/-- Other holds that are handed out do not count. -/
theorem count_add_of_not_mem {A : Multiset Hold} (h : x ∉ A) (H : Multiset Hold) :
    (A + H).count x = H.count x := by
  rw [Multiset.count_add, Multiset.count_eq_zero_of_notMem h, Nat.zero_add]

end Hold

/-- A world and what is held in it. -/
structure Scene where
  world : World
  holds : Multiset Hold

/-- The worlds differ only in the log, the run queue and the numbers that are given out. -/
structure World.Idles (w w' : World) : Prop where
  settings : w'.settings = w.settings
  recording : w'.recording = w.recording
  now : w'.now = w.now
  breakers : w'.breakers = w.breakers
  limiters : w'.limiters = w.limiters
  buckets : w'.buckets = w.buckets
  caches : w'.caches = w.caches
  sources : w'.sources = w.sources
  limiterNames : w'.limiterNames = w.limiterNames
  bucketNames : w'.bucketNames = w.bucketNames
  events : w'.events = w.events
  serial : w.serial ≤ w'.serial

theorem World.sleep_idles (d : Duration) (w : World) : w.Idles (w.sleep d).2 := by
  unfold sleep
  dsimp only
  split <;> constructor <;> first | rfl | exact Nat.le_succ _

theorem World.note_idles (entry : Entry) (w : World) : w.Idles (w.note entry) := by
  constructor <;> rfl

theorem World.wake_idles (task : TaskId) (w : World) : w.Idles (w.wake task) := by
  unfold wake
  split <;> constructor <;> rfl

/-- What the owner of a cache may do with it. -/
inductive Cache.Handled (now : Instant) (c : Cache Json) : Cache Json → Prop
  | get (key : String) : Handled now c (c.get now key).2
  | has (key : String) : Handled now c (c.has now key).2
  | delete (key : String) : Handled now c (c.delete key).2
  | clear : Handled now c c.clear
  | sweep : Handled now c (c.sweepNow now).2
  | shutDown : Handled now c c.shutDown
  | look : Handled now c c

/-- One step of the world. -/
inductive Act : Scene → Scene → Prop
  | idle {w w' H} (h : World.Idles w w') : Act ⟨w, H⟩ ⟨w', H⟩
  | pass {w H} (instant : Instant) : Act ⟨w, H⟩ ⟨w.pass instant, H⟩
  | openBreaker {w H} (name : String) (config : Breaker.Config) :
      Act ⟨w, H⟩ ⟨w.openBreaker name config, H⟩
  | createLimiter {w H} (name : String) (config : Limiter.Config) :
      Act ⟨w, H⟩ ⟨(w.createLimiter name config).2, H⟩
  | nameLimiter {w H id} (name : String) (h : w.limiters.has id = true) :
      Act ⟨w, H⟩ ⟨{ w with limiterNames := w.limiterNames.set name id }, H⟩
  | createBucket {w H} (name : String) (config : Bucket.Config) :
      Act ⟨w, H⟩ ⟨(w.createBucket name config).2, H⟩
  | nameBucket {w H id} (name : String) (h : w.buckets.has id = true) :
      Act ⟨w, H⟩ ⟨{ w with bucketNames := w.bucketNames.set name id }, H⟩
  | createCache {w H} (config : Cache.Config) (sweeping : Bool) :
      Act ⟨w, H⟩ ⟨(w.createCache config sweeping).2, H⟩
  | createSource {w H} (label : String) (turns : List Turn) :
      Act ⟨w, H⟩ ⟨(w.createSource label turns).2, H⟩
  | invoke {w H} (id : ComponentId) (arg : Json) : Act ⟨w, H⟩ ⟨(w.invoke id arg).2, H⟩
  | enter {w H name} (h : w.breakers.has name = true) :
      Act ⟨w, H⟩ ⟨(w.enter name).2, (w.enter name).1.holds name + H⟩
  | record {w H} (name : String) (probe : Bool) (outcome : Outcome) :
      Act ⟨w, .admission name probe ::ₘ H⟩ ⟨w.record name probe outcome, H⟩
  | forgo {w H} (name : String) (probe : Bool) :
      Act ⟨w, .admission name probe ::ₘ H⟩ ⟨w.forgo name probe, H⟩
  | resetBreaker {w H} (name : String) : Act ⟨w, H⟩ ⟨(w.resetBreaker name).2, H⟩
  | askSlot {w H id} (caller : TaskId) (h : w.limiters.has id = true) :
      Act ⟨w, H⟩ ⟨(w.askSlot id caller).2, Hold.ofSlotAnswer id (w.askSlot id caller).1 + H⟩
  | pickUpSlot {w w' H id ticket} (h : w.pickUpSlot? id ticket = some w') :
      Act ⟨w, .place id ticket ::ₘ H⟩ ⟨w', .slot id ::ₘ H⟩
  | releaseSlot {w H} (id : ComponentId) : Act ⟨w, .slot id ::ₘ H⟩ ⟨w.releaseSlot id, H⟩
  | leaveSlot {w H} (id : ComponentId) (ticket : Ticket) :
      Act ⟨w, .place id ticket ::ₘ H⟩ ⟨w.leaveSlot id ticket, H⟩
  | askToken {w H id} (caller : TaskId) (h : w.buckets.has id = true) :
      Act ⟨w, H⟩ ⟨(w.askToken id caller).2, Hold.ofTokenAnswer id (w.askToken id caller).1 + H⟩
  | pickUpToken {w w' H id ticket} (h : w.pickUpToken id ticket = .granted w') :
      Act ⟨w, .tokenPlace id ticket ::ₘ H⟩ ⟨w', H⟩
  | refuseToken {w H id ticket rejection} (h : w.pickUpToken id ticket = .refused rejection) :
      Act ⟨w, .tokenPlace id ticket ::ₘ H⟩ ⟨w, H⟩
  | leaveToken {w H} (id : ComponentId) (ticket : Ticket) :
      Act ⟨w, .tokenPlace id ticket ::ₘ H⟩ ⟨w.leaveToken id ticket, H⟩
  | refillBucket {w H} (id : ComponentId) : Act ⟨w, H⟩ ⟨(w.refillBucket id).2, H⟩
  | shutDownBucket {w H} (id : ComponentId) : Act ⟨w, H⟩ ⟨w.shutDownBucket id, H⟩
  | readCache {w H} (id : ComponentId) (key : String) : Act ⟨w, H⟩ ⟨(w.readCache id key).2, H⟩
  | writeCache {w H} (id : ComponentId) (key : String) (value : Json) (ttl : Nat) :
      Act ⟨w, H⟩ ⟨w.writeCache id key value ttl, H⟩
  | sweepCache {w H} (id : ComponentId) : Act ⟨w, H⟩ ⟨w.sweepCache id, H⟩
  | handleCache {w H id c c'} (hc : w.caches.get? id = some c)
      (h : Cache.Handled w.now c c') : Act ⟨w, H⟩ ⟨{ w with caches := w.caches.set id c' }, H⟩

/-- Acts one after the other. -/
abbrev Steps : Scene → Scene → Prop := Relation.ReflTransGen Act

/-- An act that needs no hold, as steps from no hold. -/
theorem Steps.of_act {w w' : World} {B : Multiset Hold} (h : ∀ H, Act ⟨w, H⟩ ⟨w', B + H⟩)
    (H : Multiset Hold) : Steps ⟨w, 0 + H⟩ ⟨w', B + H⟩ := by
  rw [Multiset.zero_add]
  exact .single (h H)

/-- An act that neither needs nor leaves a hold. -/
theorem Steps.of_act_zero {w w' : World} (h : ∀ H, Act ⟨w, H⟩ ⟨w', 0 + H⟩) (H : Multiset Hold) :
    Steps ⟨w, 0 + H⟩ ⟨w', H⟩ := by
  have hsteps := Steps.of_act h H
  rwa [Multiset.zero_add H] at hsteps ⊢

/-- The scene of an empty world. -/
def Scene.empty (settings : Settings) (recording : Bool) : Scene :=
  ⟨{ settings := settings, recording := recording }, 0⟩

/-- The scenes that acts lead to from an empty world, while somebody outside may write into the
events and the log or clear them. -/
inductive Scene.Reachable : Scene → Prop
  | empty (settings : Settings) (recording : Bool) : Reachable (Scene.empty settings recording)
  | act {sc sc' : Scene} : Reachable sc → Act sc sc' → Reachable sc'
  | outside {w : World} {H : Multiset Hold} (events : List Event)
      (log : List (Instant × Entry)) :
      Reachable ⟨w, H⟩ → Reachable ⟨{ w with events := events, log := log }, H⟩

theorem Scene.Reachable.steps {sc sc' : Scene} (h : sc.Reachable) (hsteps : Steps sc sc') :
    sc'.Reachable := by
  induction hsteps with
  | refl => exact h
  | tail _ hact ih => exact ih.act hact

/-! ### Worlds grow

No component ever goes away, and numbers are given out in rising order. -/

namespace World

/-- Every component of the first world is in the second, new names in the registry stand for
components that are there, and no number is given out twice. -/
structure Grows (w w' : World) : Prop where
  breakers {name : String} : w.breakers.has name = true → w'.breakers.has name = true
  limiters {id : ComponentId} : w.limiters.has id = true → w'.limiters.has id = true
  buckets {id : ComponentId} : w.buckets.has id = true → w'.buckets.has id = true
  limiterNames {name : String} {id : ComponentId} : w'.limiterNames.get? name = some id →
    w.limiterNames.get? name = some id ∨ w'.limiters.has id = true
  bucketNames {name : String} {id : ComponentId} : w'.bucketNames.get? name = some id →
    w.bucketNames.get? name = some id ∨ w'.buckets.has id = true
  serial : w.serial ≤ w'.serial

namespace Grows

variable {w w' w'' : World}

theorem refl (w : World) : w.Grows w := ⟨id, id, id, .inl, .inl, le_refl _⟩

theorem trans (h : w.Grows w') (h' : w'.Grows w'') : w.Grows w'' where
  breakers hn := h'.breakers (h.breakers hn)
  limiters hid := h'.limiters (h.limiters hid)
  buckets hid := h'.buckets (h.buckets hid)
  limiterNames hn := (h'.limiterNames hn).elim
    (fun hn => (h.limiterNames hn).imp_right h'.limiters) .inr
  bucketNames hn := (h'.bucketNames hn).elim
    (fun hn => (h.bucketNames hn).imp_right h'.buckets) .inr
  serial := h.serial.trans h'.serial

/-- The components and the registry are the same ones. -/
theorem of_eq (hb : w'.breakers = w.breakers) (hl : w'.limiters = w.limiters)
    (ht : w'.buckets = w.buckets) (hln : w'.limiterNames = w.limiterNames)
    (hbn : w'.bucketNames = w.bucketNames) (hs : w.serial ≤ w'.serial) : w.Grows w' :=
  ⟨by simp [hb], by simp [hl], by simp [ht], by simp +contextual [hln],
    by simp +contextual [hbn], hs⟩

theorem setBreaker (name : String) (c : Component Breaker.Config Breaker) (w : World) :
    w.Grows { w with breakers := w.breakers.set name c } :=
  ⟨Table.has_set_of_has, id, id, .inl, .inl, le_refl _⟩

theorem setLimiter (id : ComponentId) (c : Component Limiter.Config Limiter) (w : World) :
    w.Grows { w with limiters := w.limiters.set id c } :=
  ⟨fun h => h, Table.has_set_of_has, fun h => h, .inl, .inl, le_refl _⟩

theorem setBucket (id : ComponentId) (c : Component Bucket.Config Bucket) (w : World) :
    w.Grows { w with buckets := w.buckets.set id c } :=
  ⟨fun h => h, fun h => h, Table.has_set_of_has, .inl, .inl, le_refl _⟩

section Moves

variable {events : List Event} {log : List (Instant × Entry)} {ready : List TaskId} {serial : Nat}

theorem moveBreaker {name : String} {breakers : Table String (Component Breaker.Config Breaker)}
    (h : Component.Moved name w.breakers breakers) :
    w.Grows { w with breakers := breakers, events := events, log := log } :=
  ⟨fun hn => (h.has _).trans hn, id, id, .inl, .inl, le_refl _⟩

theorem moveLimiter {id : ComponentId}
    {limiters : Table ComponentId (Component Limiter.Config Limiter)}
    (h : Component.Moved id w.limiters limiters) (hs : w.serial ≤ serial) :
    w.Grows { w with
      limiters := limiters, events := events, log := log, ready := ready, serial := serial } :=
  ⟨fun h => h, fun hid => (h.has _).trans hid, fun h => h, .inl, .inl, hs⟩

theorem moveBucket {id : ComponentId}
    {buckets : Table ComponentId (Component Bucket.Config Bucket)}
    (h : Component.Moved id w.buckets buckets) (hs : w.serial ≤ serial) :
    w.Grows { w with buckets := buckets, ready := ready, serial := serial } :=
  ⟨fun h => h, fun h => h, fun hid => (h.has _).trans hid, .inl, .inl, hs⟩

end Moves

theorem nameLimiter {id : ComponentId} (name : String) (h : w.limiters.has id = true) :
    w.Grows { w with limiterNames := w.limiterNames.set name id } :=
  ⟨fun h => h, fun h => h, fun h => h, fun {n i} hn => by
    rw [Table.get?_set] at hn
    split at hn
    · exact .inr (Option.some.inj hn ▸ h)
    · exact .inl hn, .inl, le_refl _⟩

theorem nameBucket {id : ComponentId} (name : String) (h : w.buckets.has id = true) :
    w.Grows { w with bucketNames := w.bucketNames.set name id } :=
  ⟨fun h => h, fun h => h, fun h => h, .inl, fun {n i} hn => by
    rw [Table.get?_set] at hn
    split at hn
    · exact .inr (Option.some.inj hn ▸ h)
    · exact .inl hn, le_refl _⟩

theorem fresh (w : World) : w.Grows w.fresh.2 := of_eq rfl rfl rfl rfl rfl (Nat.le_succ _)

end Grows

end World

open World in
/-- **Every act keeps the components that there are.** -/
theorem Act.grows {w w' : World} {H H' : Multiset Hold} (h : Act ⟨w, H⟩ ⟨w', H'⟩) :
    w.Grows w' := by
  cases h with
  | idle h => exact .of_eq h.breakers h.limiters h.buckets h.limiterNames h.bucketNames h.serial
  | pass | handleCache | refuseToken => exact .of_eq rfl rfl rfl rfl rfl (le_refl _)
  | openBreaker name config =>
    unfold World.openBreaker
    split
    · exact .refl _
    · exact .setBreaker ..
  | createLimiter name config => exact (Grows.fresh _).trans (.setLimiter ..)
  | nameLimiter name h => exact .nameLimiter name h
  | nameBucket name h => exact .nameBucket name h
  | createBucket name config => exact (Grows.fresh _).trans (.setBucket ..)
  | createCache | createSource =>
    exact (Grows.fresh _).trans (.of_eq rfl rfl rfl rfl rfl (le_refl _))
  | invoke id arg =>
    obtain ⟨_, _, heq⟩ := w.invoke_eq id arg
    exact heq ▸ .of_eq rfl rfl rfl rfl rfl (le_refl _)
  | @enter _ _ name h =>
    obtain ⟨_, _, _, hmoved, heq⟩ := w.enter_eq name
    exact heq ▸ .moveBreaker hmoved
  | record name probe outcome =>
    obtain ⟨_, _, _, hmoved, heq⟩ := w.record_eq name probe outcome
    exact heq ▸ .moveBreaker hmoved
  | forgo name probe =>
    obtain ⟨_, hmoved, heq⟩ := w.forgo_eq name probe
    exact heq ▸ .moveBreaker hmoved
  | resetBreaker name =>
    obtain ⟨_, _, _, hmoved, heq⟩ := w.resetBreaker_eq name
    exact heq ▸ .moveBreaker hmoved
  | @askSlot _ _ id caller h =>
    obtain ⟨_, _, _, _, hserial, hmoved, heq⟩ := w.askSlot_eq id caller
    exact heq ▸ .moveLimiter hmoved hserial
  | pickUpSlot h =>
    obtain ⟨_, _, hc, -, rfl⟩ := pickUpSlot?_eq_some h
    exact .moveLimiter (.move hc _) (le_refl _)
  | releaseSlot id =>
    obtain ⟨_, _, hmoved, heq⟩ := w.releaseSlot_eq id
    exact heq ▸ .moveLimiter hmoved (le_refl _)
  | leaveSlot id ticket =>
    obtain ⟨_, _, hmoved, heq⟩ := w.leaveSlot_eq id ticket
    exact heq ▸ .moveLimiter hmoved (le_refl _)
  | @askToken _ _ id caller h =>
    obtain ⟨_, _, _, hserial, hmoved, heq⟩ := w.askToken_eq id caller
    exact heq ▸ .moveBucket hmoved hserial
  | pickUpToken h =>
    obtain ⟨_, _, hc, -, rfl⟩ := pickUpToken_eq_granted h
    exact .moveBucket (.move hc _) (le_refl _)
  | leaveToken id ticket =>
    obtain ⟨_, hmoved, heq⟩ := w.leaveToken_eq id ticket
    exact heq ▸ .moveBucket hmoved (le_refl _)
  | refillBucket id =>
    obtain ⟨_, _, hmoved, heq⟩ := w.refillBucket_eq id
    exact heq ▸ .moveBucket hmoved (le_refl _)
  | shutDownBucket id =>
    obtain ⟨_, _, hmoved, heq⟩ := w.shutDownBucket_eq id
    exact heq ▸ .moveBucket hmoved (le_refl _)
  | readCache id key =>
    obtain ⟨_, -, heq⟩ := w.readCache_eq id key
    exact heq ▸ .of_eq rfl rfl rfl rfl rfl (le_refl _)
  | writeCache id key value ttl =>
    obtain ⟨_, _, _, -, heq⟩ := w.writeCache_eq id key value ttl
    exact heq ▸ .of_eq rfl rfl rfl rfl rfl (le_refl _)
  | sweepCache id =>
    obtain ⟨_, _, _, -, heq⟩ := w.sweepCache_eq id
    exact heq ▸ .of_eq rfl rfl rfl rfl rfl (le_refl _)

theorem Steps.grows {sc sc' : Scene} (h : Steps sc sc') : sc.world.Grows sc'.world := by
  induction h with
  | refl => exact .refl _
  | tail _ hact ih => exact ih.trans hact.grows

end Resilience
