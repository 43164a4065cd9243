import Resilience.Proofs.Execution

/-!
# What a call does

A call is known by its **deeds**: the sources that it invokes, what it asks of breakers, limiters,
buckets and caches, with the answers, and its sleeps. `Deed.Does` ties a deed to the steps of the
world: it says in which worlds a deed is done and what world is left. `Did` is one deed after the
other.

A deed concerns at most one part of the world (`Deed.part?`), and the rest stays as it is. So what
a call leaves alone is read off the list of its deeds.
-/

namespace Resilience

/-- What an operation is made of. -/
inductive Part where
  | source (id : ComponentId)
  | breaker (name : String)
  | limiter (id : ComponentId)
  | bucket (id : ComponentId)
  | cache (id : ComponentId)
  /-- A time limit, with the name under which it is reported. -/
  | limit (limit : Duration) (name : String)
deriving DecidableEq

/-- The parts of an operation. -/
def Operation.parts : Operation → List Part
  | source id => [.source id]
  | guarded inner breaker => .breaker breaker :: inner.parts
  | withFallback inner breaker fallback => .breaker breaker :: (inner.parts ++ fallback.parts)
  | limited inner limiter => .limiter limiter :: inner.parts
  | rateLimited inner bucket => .bucket bucket :: inner.parts
  | timed inner limit name => .limit limit name :: inner.parts
  | retrying inner _ => inner.parts
  | cached inner cache _ _ => .cache cache :: inner.parts

/-- One thing that a call does, with what comes of it. -/
inductive Deed where
  /-- Invokes a source, which takes this turn. -/
  | invoke (source : ComponentId) (arg : Json) (turn : Turn)
  /-- An invocation of a source ends. -/
  | finish (source : ComponentId) (arg : Json) (ending : Ending)
  /-- Begins a sleep, unless it is over at once. -/
  | sleep (length : Duration) (timer? : Option Timer)
  /-- A sleep is over. -/
  | wake (timer : Timer)
  /-- Finds that its time has run out. -/
  | timeOut (limit : Duration) (name : String)
  | enter (breaker : String) (admission : Breaker.Admission)
  | record (breaker : String) (probe : Bool) (outcome : Outcome)
  | forgo (breaker : String) (probe : Bool)
  | askSlot (limiter : ComponentId) (answer : Except Rejection (Option Ticket))
  | pickUpSlot (limiter : ComponentId) (ticket : Ticket)
  | releaseSlot (limiter : ComponentId)
  | leaveSlot (limiter : ComponentId) (ticket : Ticket)
  | askToken (bucket : ComponentId) (answer : Except Rejection (Option Ticket))
  | pickUpToken (bucket : ComponentId) (ticket : Ticket)
  /-- Learns in line that there will be no token. -/
  | refuseToken (bucket : ComponentId) (ticket : Ticket) (rejection : Rejection)
  | leaveToken (bucket : ComponentId) (ticket : Ticket)
  | readCache (cache : ComponentId) (key : String) (found : Option Json) (now : Instant)
  | writeCache (cache : ComponentId) (key : String) (value : Json) (ttl : Nat) (now : Instant)

namespace Deed

/-- The part of an operation that a deed is done for. -/
def part? : Deed → Option Part
  | invoke id .. | finish id .. => some (.source id)
  | sleep .. | wake _ => none
  | timeOut limit name => some (.limit limit name)
  | enter breaker .. | record breaker .. | forgo breaker .. => some (.breaker breaker)
  | askSlot id .. | pickUpSlot id .. | releaseSlot id | leaveSlot id .. => some (.limiter id)
  | askToken id .. | pickUpToken id .. | refuseToken id .. | leaveToken id .. =>
    some (.bucket id)
  | readCache id .. | writeCache id .. => some (.cache id)

/-- A task does the deed in the first world and leaves the second. -/
inductive Does (task : TaskId) : Deed → World → World → Prop
  | invoke {w w' source arg turn} (h : w.invoke source arg = (turn, w')) :
      Does task (.invoke source arg turn) w w'
  | finish {w} (source : ComponentId) (arg : Json) (ending : Ending) :
      Does task (.finish source arg ending) w w
  | sleep {w w' length timer?} (h : w.sleep length = (timer?, w')) :
      Does task (.sleep length timer?) w w'
  | wake {w timer} (h : w.elapsed timer = true) : Does task (.wake timer) w w
  | timeOut {w} (limit : Duration) (name : String) : Does task (.timeOut limit name) w w
  | enter {w w' breaker admission} (h : w.enter breaker = (admission, w')) :
      Does task (.enter breaker admission) w w'
  | record {w} (breaker : String) (probe : Bool) (outcome : Outcome) :
      Does task (.record breaker probe outcome) w (w.record breaker probe outcome)
  | forgo {w} (breaker : String) (probe : Bool) :
      Does task (.forgo breaker probe) w (w.forgo breaker probe)
  | askSlot {w w' limiter answer} (h : w.askSlot limiter task = (answer, w')) :
      Does task (.askSlot limiter answer) w w'
  | pickUpSlot {w w' limiter ticket} (h : w.pickUpSlot? limiter ticket = some w') :
      Does task (.pickUpSlot limiter ticket) w w'
  | releaseSlot {w} (limiter : ComponentId) :
      Does task (.releaseSlot limiter) w (w.releaseSlot limiter)
  | leaveSlot {w} (limiter : ComponentId) (ticket : Ticket) :
      Does task (.leaveSlot limiter ticket) w (w.leaveSlot limiter ticket)
  | askToken {w w' bucket answer} (h : w.askToken bucket task = (answer, w')) :
      Does task (.askToken bucket answer) w w'
  | pickUpToken {w w' bucket ticket} (h : w.pickUpToken bucket ticket = .granted w') :
      Does task (.pickUpToken bucket ticket) w w'
  | refuseToken {w bucket ticket rejection}
      (h : w.pickUpToken bucket ticket = .refused rejection) :
      Does task (.refuseToken bucket ticket rejection) w w
  | leaveToken {w} (bucket : ComponentId) (ticket : Ticket) :
      Does task (.leaveToken bucket ticket) w (w.leaveToken bucket ticket)
  | readCache {w w' cache key found} (h : w.readCache cache key = (found, w')) :
      Does task (.readCache cache key found w.now) w w'
  | writeCache {w} (cache : ComponentId) (key : String) (value : Json) (ttl : Nat) :
      Does task (.writeCache cache key value ttl w.now) w (w.writeCache cache key value ttl)

end Deed

/-- A task does one deed after the other. -/
inductive Did (task : TaskId) : World → List Deed → World → Prop
  | nil (w : World) : Did task w [] w
  | cons {w w' w'' : World} {d : Deed} {ds : List Deed} (h : d.Does task w w')
      (hrest : Did task w' ds w'') : Did task w (d :: ds) w''

namespace Did

variable {task : TaskId} {w w' w'' : World} {d : Deed} {ds ds' : List Deed}

theorem single (h : d.Does task w w') : Did task w [d] w' := .cons h (.nil w')

theorem append (h : Did task w ds w') (h' : Did task w' ds' w'') :
    Did task w (ds ++ ds') w'' := by
  induction h with
  | nil => exact h'
  | cons hfirst _ ih => exact .cons hfirst (ih h')

theorem concat (h : Did task w ds w') (h' : d.Does task w' w'') :
    Did task w (ds ++ [d]) w'' := h.append (.single h')

/-- What every deed of a list keeps is kept by all of them together. -/
theorem keeps {motive : World → Prop}
    (hdeed : ∀ d ∈ ds, ∀ w w', d.Does task w w' → motive w → motive w')
    (h : Did task w ds w') (hw : motive w) : motive w' := by
  induction h with
  | nil => exact hw
  | cons hfirst _ ih =>
    obtain ⟨hhead, htail⟩ := List.forall_mem_cons.mp hdeed
    exact ih htail (hhead _ _ hfirst hw)

end Did

/-! ### What a deed leaves alone -/

/-- The second world differs from the first one only in the part that the deed is done for, and in
the events, the log, the sources, the run queue and the numbers that are given out. -/
structure World.Within (d : Deed) (w w' : World) : Prop where
  recording : w'.recording = w.recording
  now : w'.now = w.now
  serial : w.serial ≤ w'.serial
  breakers {name : String} : d.part? ≠ some (.breaker name) →
    w'.breakers.get? name = w.breakers.get? name
  limiters {id : ComponentId} : d.part? ≠ some (.limiter id) →
    w'.limiters.get? id = w.limiters.get? id
  buckets {id : ComponentId} : d.part? ≠ some (.bucket id) →
    w'.buckets.get? id = w.buckets.get? id
  caches {id : ComponentId} : d.part? ≠ some (.cache id) →
    w'.caches.get? id = w.caches.get? id

/-- What a deed changes: nothing but the sources, the log and the numbers that are given out, or the
part that it is done for, with what is reported of that and those who are woken. -/
inductive Deed.Touches (d : Deed) (w : World) : World → Prop
  | nothing {sources log serial} (hserial : w.serial ≤ serial) :
      Touches d w { w with sources := sources, log := log, serial := serial }
  | breaker {name breakers events log} (hd : d.part? = some (.breaker name))
      (hmoved : Component.Moved name w.breakers breakers) :
      Touches d w { w with breakers := breakers, events := events, log := log }
  | limiter {id limiters events log ready serial} (hd : d.part? = some (.limiter id))
      (hmoved : Component.Moved id w.limiters limiters) (hserial : w.serial ≤ serial) :
      Touches d w { w with
        limiters := limiters, events := events, log := log, ready := ready, serial := serial }
  | bucket {id buckets ready serial} (hd : d.part? = some (.bucket id))
      (hmoved : Component.Moved id w.buckets buckets) (hserial : w.serial ≤ serial) :
      Touches d w { w with buckets := buckets, ready := ready, serial := serial }
  | cache {id caches events log} (hd : d.part? = some (.cache id))
      (hothers : ∀ other, id ≠ other → caches.get? other = w.caches.get? other) :
      Touches d w { w with caches := caches, events := events, log := log }

/-- **A deed touches only the part that it is done for.** -/
theorem Deed.Does.touches {task : TaskId} {w w' : World} {d : Deed} (h : d.Does task w w') :
    d.Touches w w' := by
  -- Each deed is one function of the world, which says in its `_eq` lemma what it moves.
  cases h with
  | finish | wake | timeOut | refuseToken => exact .nothing (le_refl _)
  | @invoke _ _ source arg turn h =>
    obtain ⟨_, _, heq⟩ := w.invoke_eq source arg
    simp only [h] at heq
    exact heq ▸ .nothing (le_refl _)
  | @sleep _ _ length timer? h =>
    unfold World.sleep at h
    dsimp only at h
    split at h
    · obtain ⟨-, rfl⟩ := Prod.mk.inj h
      exact .nothing (le_refl _)
    · obtain ⟨-, rfl⟩ := Prod.mk.inj h
      exact .nothing (Nat.le_succ _)
  | @enter _ _ breaker admission h =>
    obtain ⟨_, _, _, hmoved, heq⟩ := w.enter_eq breaker
    simp only [h] at heq
    exact heq ▸ .breaker rfl hmoved
  | record breaker probe outcome =>
    obtain ⟨_, _, _, hmoved, heq⟩ := w.record_eq breaker probe outcome
    exact heq ▸ .breaker rfl hmoved
  | forgo breaker probe =>
    obtain ⟨_, hmoved, heq⟩ := w.forgo_eq breaker probe
    exact heq ▸ .breaker rfl hmoved
  | @askSlot _ _ limiter answer h =>
    obtain ⟨_, _, _, _, hserial, hmoved, heq⟩ := w.askSlot_eq limiter task
    simp only [h] at heq
    exact heq ▸ .limiter rfl hmoved hserial
  | @pickUpSlot _ _ limiter ticket h =>
    obtain ⟨_, _, hc, -, rfl⟩ := World.pickUpSlot?_eq_some h
    exact .limiter rfl (.move hc _) (le_refl _)
  | releaseSlot limiter =>
    obtain ⟨_, _, hmoved, heq⟩ := w.releaseSlot_eq limiter
    exact heq ▸ .limiter rfl hmoved (le_refl _)
  | leaveSlot limiter ticket =>
    obtain ⟨_, _, hmoved, heq⟩ := w.leaveSlot_eq limiter ticket
    exact heq ▸ .limiter rfl hmoved (le_refl _)
  | @askToken _ _ bucket answer h =>
    obtain ⟨_, _, _, hserial, hmoved, heq⟩ := w.askToken_eq bucket task
    simp only [h] at heq
    exact heq ▸ .bucket rfl hmoved hserial
  | @pickUpToken _ _ bucket ticket h =>
    obtain ⟨_, _, hc, -, rfl⟩ := World.pickUpToken_eq_granted h
    exact .bucket rfl (.move hc _) (le_refl _)
  | leaveToken bucket ticket =>
    obtain ⟨_, hmoved, heq⟩ := w.leaveToken_eq bucket ticket
    exact heq ▸ .bucket rfl hmoved (le_refl _)
  | @readCache _ _ cache key found h =>
    obtain ⟨_, hothers, heq⟩ := w.readCache_eq cache key
    simp only [h] at heq
    exact heq ▸ .cache rfl hothers
  | writeCache cache key value ttl =>
    obtain ⟨_, _, _, hothers, heq⟩ := w.writeCache_eq cache key value ttl
    exact heq ▸ .cache rfl hothers

/-- What is done in one part leaves the other parts alone. -/
private theorem Deed.ne_of_part {d : Deed} {κ : Type} {part : κ → Part} {key other : κ}
    (hd : d.part? = some (part key)) (hne : d.part? ≠ some (part other)) : key ≠ other :=
  fun heq => hne (heq ▸ hd)

/-- **A deed stays within its part.** -/
theorem Deed.Does.within {task : TaskId} {w w' : World} {d : Deed} (h : d.Does task w w') :
    w.Within d w' := by
  cases h.touches with
  | nothing hserial =>
    exact ⟨rfl, rfl, hserial, fun _ => rfl, fun _ => rfl, fun _ => rfl, fun _ => rfl⟩
  | breaker hd hmoved =>
    exact ⟨rfl, rfl, le_refl _, fun hne => hmoved.get?_of_ne (ne_of_part hd hne), fun _ => rfl,
      fun _ => rfl, fun _ => rfl⟩
  | limiter hd hmoved hserial =>
    exact ⟨rfl, rfl, hserial, fun _ => rfl, fun hne => hmoved.get?_of_ne (ne_of_part hd hne),
      fun _ => rfl, fun _ => rfl⟩
  | bucket hd hmoved hserial =>
    exact ⟨rfl, rfl, hserial, fun _ => rfl, fun _ => rfl,
      fun hne => hmoved.get?_of_ne (ne_of_part hd hne), fun _ => rfl⟩
  | cache hd hothers =>
    exact ⟨rfl, rfl, le_refl _, fun _ => rfl, fun _ => rfl, fun _ => rfl,
      fun hne => hothers _ (ne_of_part hd hne)⟩

end Resilience
