import Resilience.Proofs.Scene

/-!
# Every component is entered once

The tables of a world have one entry for each breaker, limiter and bucket, and a breaker bears the
name that it is entered under (`World.Directory`). No act makes a second entry or renames anything,
so this holds of every scene that can be reached.
-/

namespace Resilience

namespace World

/-- Every component is entered once, and a breaker under its own name. -/
structure Directory (w : World) : Prop where
  breakers : w.breakers.keys.Nodup
  limiters : w.limiters.keys.Nodup
  buckets : w.buckets.keys.Nodup
  named {name : String} {c : Component Breaker.Config Breaker} :
    w.breakers.get? name = some c → c.name = name

namespace Directory

variable {w w' : World}

/-- The components are the same ones. -/
theorem of_eq (h : w.Directory) (hb : w'.breakers = w.breakers) (hl : w'.limiters = w.limiters)
    (ht : w'.buckets = w.buckets) : w'.Directory :=
  ⟨hb ▸ h.breakers, hl ▸ h.limiters, ht ▸ h.buckets, fun hc => h.named (hb ▸ hc)⟩

theorem setBreaker (h : w.Directory) {name : String} {c : Component Breaker.Config Breaker}
    (hc : c.name = name) : { w with breakers := w.breakers.set name c }.Directory :=
  { h with
    breakers := Table.nodup_keys_set h.breakers name c
    named := fun {other c'} hget => by
      rw [Table.get?_set] at hget
      split at hget
      · next heq => exact heq ▸ Option.some.inj hget ▸ hc
      · exact h.named hget }

theorem setLimiter (h : w.Directory) (id : ComponentId) (c : Component Limiter.Config Limiter) :
    { w with limiters := w.limiters.set id c }.Directory :=
  { h with limiters := Table.nodup_keys_set h.limiters id c }

theorem setBucket (h : w.Directory) (id : ComponentId) (c : Component Bucket.Config Bucket) :
    { w with buckets := w.buckets.set id c }.Directory :=
  { h with buckets := Table.nodup_keys_set h.buckets id c }

section Moves

variable {events : List Event} {log : List (Instant × Entry)} {ready : List TaskId} {serial : Nat}

theorem moveBreaker (h : w.Directory) {name : String}
    {breakers : Table String (Component Breaker.Config Breaker)}
    (hmoved : Component.Moved name w.breakers breakers) :
    { w with breakers := breakers, events := events, log := log }.Directory :=
  { h with
    breakers := hmoved.nodup_keys h.breakers
    named := fun hc => by
      obtain ⟨_, hbefore⟩ := hmoved.exists_before hc
      have hname := h.named hbefore
      exact hname }

theorem moveLimiter (h : w.Directory) {id : ComponentId}
    {limiters : Table ComponentId (Component Limiter.Config Limiter)}
    (hmoved : Component.Moved id w.limiters limiters) :
    { w with
      limiters := limiters, events := events, log := log, ready := ready,
      serial := serial }.Directory :=
  { h with limiters := hmoved.nodup_keys h.limiters }

theorem moveBucket (h : w.Directory) {id : ComponentId}
    {buckets : Table ComponentId (Component Bucket.Config Bucket)}
    (hmoved : Component.Moved id w.buckets buckets) :
    { w with buckets := buckets, ready := ready, serial := serial }.Directory :=
  { h with buckets := hmoved.nodup_keys h.buckets }

end Moves

theorem fresh (h : w.Directory) : w.fresh.2.Directory := h.of_eq rfl rfl rfl

end Directory

end World

/-- **No act enters a component twice or under another name.** -/
theorem Act.directory {w w' : World} {H H' : Multiset Hold} (h : Act ⟨w, H⟩ ⟨w', H'⟩)
    (hw : w.Directory) : w'.Directory := by
  cases h with
  | idle h => exact hw.of_eq h.breakers h.limiters h.buckets
  | pass | nameLimiter | nameBucket | handleCache | refuseToken => exact hw.of_eq rfl rfl rfl
  | createCache | createSource => exact hw.fresh.of_eq rfl rfl rfl
  | createLimiter => exact hw.fresh.setLimiter ..
  | createBucket => exact hw.fresh.setBucket ..
  | openBreaker name config =>
    unfold World.openBreaker
    split
    · exact hw
    · exact hw.setBreaker rfl
  | invoke id arg =>
    obtain ⟨_, _, heq⟩ := w.invoke_eq id arg
    exact heq ▸ hw.of_eq rfl rfl rfl
  | @enter _ _ name h =>
    obtain ⟨_, _, _, hmoved, heq⟩ := w.enter_eq name
    exact heq ▸ hw.moveBreaker hmoved
  | record name probe outcome =>
    obtain ⟨_, _, _, hmoved, heq⟩ := w.record_eq name probe outcome
    exact heq ▸ hw.moveBreaker hmoved
  | forgo name probe =>
    obtain ⟨_, hmoved, heq⟩ := w.forgo_eq name probe
    exact heq ▸ hw.moveBreaker hmoved
  | resetBreaker name =>
    obtain ⟨_, _, _, hmoved, heq⟩ := w.resetBreaker_eq name
    exact heq ▸ hw.moveBreaker hmoved
  | @askSlot _ _ id caller h =>
    obtain ⟨_, _, _, _, -, hmoved, heq⟩ := w.askSlot_eq id caller
    exact heq ▸ hw.moveLimiter hmoved
  | pickUpSlot h =>
    obtain ⟨_, _, hc, -, rfl⟩ := World.pickUpSlot?_eq_some h
    exact hw.moveLimiter (.move hc _)
  | releaseSlot id =>
    obtain ⟨_, _, hmoved, heq⟩ := w.releaseSlot_eq id
    exact heq ▸ hw.moveLimiter hmoved
  | leaveSlot id ticket =>
    obtain ⟨_, _, hmoved, heq⟩ := w.leaveSlot_eq id ticket
    exact heq ▸ hw.moveLimiter hmoved
  | @askToken _ _ id caller h =>
    obtain ⟨_, _, _, -, hmoved, heq⟩ := w.askToken_eq id caller
    exact heq ▸ hw.moveBucket hmoved
  | pickUpToken h =>
    obtain ⟨_, _, hc, -, rfl⟩ := World.pickUpToken_eq_granted h
    exact hw.moveBucket (.move hc _)
  | leaveToken id ticket =>
    obtain ⟨_, hmoved, heq⟩ := w.leaveToken_eq id ticket
    exact heq ▸ hw.moveBucket hmoved
  | refillBucket id =>
    obtain ⟨_, _, hmoved, heq⟩ := w.refillBucket_eq id
    exact heq ▸ hw.moveBucket hmoved
  | shutDownBucket id =>
    obtain ⟨_, _, hmoved, heq⟩ := w.shutDownBucket_eq id
    exact heq ▸ hw.moveBucket hmoved
  | readCache id key =>
    obtain ⟨_, -, heq⟩ := w.readCache_eq id key
    exact heq ▸ hw.of_eq rfl rfl rfl
  | writeCache id key value ttl =>
    obtain ⟨_, _, _, -, heq⟩ := w.writeCache_eq id key value ttl
    exact heq ▸ hw.of_eq rfl rfl rfl
  | sweepCache id =>
    obtain ⟨_, _, _, -, heq⟩ := w.sweepCache_eq id
    exact heq ▸ hw.of_eq rfl rfl rfl

/-- **In every scene that can be reached, every component is entered once**, and a breaker under its
own name. -/
theorem Scene.Reachable.directory {sc : Scene} (h : sc.Reachable) : sc.world.Directory := by
  induction h with
  | empty => exact ⟨.nil, .nil, .nil, fun hc => by cases hc⟩
  | act _ hact ih => exact hact.directory ih
  | outside events log _ ih => exact ih.of_eq rfl rfl rfl

end Resilience
