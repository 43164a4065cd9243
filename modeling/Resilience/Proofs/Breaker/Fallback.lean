import Resilience.Proofs.Breaker.Release
import Resilience.Proofs.Session.Calls
import Resilience.Proofs.Story.Course

/-!
# Calls with a fallback

A call with a fallback is one course of the primary call at most, and one course of the fallback at
most (`Operation.Course.withFallback_iff`). The fallback begins when the breaker refuses the call,
or in the turn in which the primary call fails; by then the failure is recorded, and the call holds
nothing of the breaker any more. From there on the call *is* the call of the fallback: how long it
takes and how it ends are up to the fallback, and so is the outcome.

The breaker sees nothing of that. Whatever the fallback does, and also if it is cancelled, each of
its turns leaves the breaker as it found it, unless the breaker is part of the fallback itself.
-/

namespace Resilience

namespace Breaker

open Operation (Course)
open Operation.Course (WithFallback turns)

section

variable {task : TaskId} {inner fallback : Operation} {name : String} {arg : Json}
  {first w : World} {gaps : List (World × World)} {poll : Poll} {outcome : Outcome}

/-- **The outcome is the good answer of the primary call, or that of the fallback**, whatever it
is. -/
theorem outcome_withFallback
    (h : WithFallback task inner name fallback arg first gaps w (.ready outcome)) :
    (∃ probe w₁ v value, outcome = .ok value ∧ first.enter name = (.allowed probe, w₁) ∧
      Course task inner arg w₁ gaps v (.ready (.ok value)) ∧
      w = v.record name probe (.ok value)) ∨
    ∃ w₁ gaps', gaps' <:+ gaps ∧ Course task fallback arg w₁ gaps' w (.ready outcome) := by
  cases h with
  | passedBy count henter hfallback => exact .inr ⟨_, gaps, List.suffix_refl gaps, hfallback⟩
  | answered probe henter hinner => exact .inl ⟨probe, _, _, _, rfl, henter, hinner, rfl⟩
  | replaced probe failure henter hinner hfallback =>
    exact .inr ⟨_, _, List.suffix_append .., hfallback⟩

/-- The failure of a probe is recorded, and then the breaker does not wait for it any more. -/
theorem released_record {v : World} {c : Component Config Breaker}
    (hc : v.breakers.get? name = some c) (failure : Failure) :
    ∃ b, (v.record name true (.error failure)).breakers.get? name = some { c with state := b } ∧
      b.Released :=
  ⟨_, World.get?_breakers_record hc true (.error failure),
    released_recordFailure name c.config v.now c.state⟩

end

/-- **The fallback law.** In every run, from every state of the breaker and whatever else goes on
between its turns, a call with a fallback takes one of five courses: the breaker refuses, and it is
a course of the fallback; or the breaker lets the primary call through, and that is under way, has
answered well, has panicked, or has failed, whereupon the failure was recorded and the course of
the fallback followed. Both are called with the argument of the call. The outcome is the good
answer of the primary call or that of the fallback; the failure of a probe is recorded before the
fallback begins, so the breaker does not wait for it any more. A fallback that the breaker is no
part of holds nothing of it, and leaves it alone in each of its turns and when it is taken apart.
Every such call in a session takes one of these courses. -/
theorem fallback_law :
    (∀ (task : TaskId) (inner fallback : Operation) (name : String) (arg : Json) (first w : World)
      (gaps : List (World × World)) (poll : Poll),
      Course task (.withFallback inner name fallback) arg first gaps w poll ↔
        WithFallback task inner name fallback arg first gaps w poll) ∧
    (∀ (task : TaskId) (inner fallback : Operation) (name : String) (arg : Json) (first w : World)
      (gaps : List (World × World)) (outcome : Outcome),
      Course task (.withFallback inner name fallback) arg first gaps w (.ready outcome) →
        (∃ probe w₁ v value, outcome = .ok value ∧ first.enter name = (.allowed probe, w₁) ∧
          Course task inner arg w₁ gaps v (.ready (.ok value)) ∧
          w = v.record name probe (.ok value)) ∨
        ∃ w₁ gaps', gaps' <:+ gaps ∧ Course task fallback arg w₁ gaps' w (.ready outcome)) ∧
    (∀ (v : World) (name : String) (c : Component Config Breaker) (failure : Failure),
      v.breakers.get? name = some c → ∃ b,
        (v.record name true (.error failure)).breakers.get? name = some { c with state := b } ∧
          b.Released) ∧
    (∀ (task : TaskId) (fallback : Operation) (name : String) (arg : Json) (first w : World)
      (gaps : List (World × World)) (poll : Poll), .breaker name ∉ fallback.parts →
      Course task fallback arg first gaps w poll →
        (∀ turn ∈ turns first gaps w, turn.2.breakers.get? name = turn.1.breakers.get? name) ∧
        ∀ c, poll = .pending c → (∀ probe, .admission name probe ∉ c.holds) ∧
          ∀ v, (c.abandon v).breakers.get? name = v.breakers.get? name) ∧
    (∀ s : Session, s.Reachable → ∃ log lives, Chronicle World.Beside s.world log lives ∧
      s.Lives lives ∧ ∀ life ∈ lives, ∀ inner name fallback,
        life.op = .withFallback inner name fallback → ∃ first gaps w,
          WithFallback life.task inner name fallback life.arg first gaps w life.poll) := by
  refine ⟨?_, ?_, ?_, ?_, ?_⟩
  · intro task inner fallback name arg first w gaps poll
    exact Operation.Course.withFallback_iff
  · intro task inner fallback name arg first w gaps outcome h
    exact outcome_withFallback (Operation.Course.withFallback_iff.mp h)
  · intro v name c failure hc
    exact released_record hc failure
  · intro task fallback name arg first w gaps poll hpart h
    exact h.breaker_apart hpart
  · intro s hs
    -- What was done in a session is shared out among its calls, and each of them ran a course.
    obtain ⟨log, lives, hchronicle, hlives⟩ := hs.told.exists_lives
    refine ⟨log, lives, hchronicle, hlives, fun life hlife inner name fallback hop => ?_⟩
    obtain ⟨first, gaps, w, hcourse⟩ := hchronicle.course life hlife
    rw [hop] at hcourse
    exact ⟨first, gaps, w, Operation.Course.withFallback_iff.mp hcourse⟩

/-- A world in which a source is out of order and another one fails after a while. -/
def outOfOrder : World :=
  { settings := {}, recording := false
    breakers := [("b", ⟨"b", ⟨1, .ofMillis 5⟩, {}⟩)]
    sources := [(0, ⟨"primary", [⟨none, .fail (.failed "out of order")⟩], 0⟩),
      (1, ⟨"substitute", [⟨some (.ofMillis 3), .fail (.failed "no use")⟩], 0⟩)] }

/-- The world after a call of the first one, with the other one as its fallback. -/
def substituting : World :=
  (Operation.start 0 (.withFallback (.source 0) "b" (.source 1)) .null outOfOrder).2

theorem course_substituting :
    Course 0 (.withFallback (.source 0) "b" (.source 1)) .null outOfOrder [] substituting
      (.pending (.working ⟨3, 0⟩ (.fail (.failed "no use")) .null)) :=
  .start rfl

theorem fallback_law_substituting :
    WithFallback 0 (.source 0) "b" (.source 1) .null outOfOrder [] substituting
      (.pending (.working ⟨3, 0⟩ (.fail (.failed "no use")) .null)) ∧
    (∃ w₁ gaps', gaps' <:+ [(substituting, substituting.pass 3)] ∧
      Course 0 (.source 1) .null w₁ gaps' (substituting.pass 3)
        (.ready (.error (.failed "no use")))) ∧
    (∃ c b, outOfOrder.breakers.get? "b" = some c ∧
      (outOfOrder.record "b" true (.error (.failed "again"))).breakers.get? "b" =
        some { c with state := b } ∧ b.Released) ∧
    (∃ c : Call, ∃ w, Course 0 (.source 1) .null outOfOrder [] w (.pending c) ∧
      w.breakers.get? "b" = outOfOrder.breakers.get? "b" ∧
      ∀ v, (c.abandon v).breakers.get? "b" = v.breakers.get? "b") ∧
    ∃ log lives, Chronicle World.Beside tripped.world log lives ∧ tripped.Lives lives := by
  obtain ⟨hlaw, houtcome, hrecorded, hapart, hsession⟩ := fallback_law
  refine ⟨(hlaw 0 _ _ "b" .null _ _ _ _).mp course_substituting, ?_, ?_, ?_, ?_⟩
  · have hlater : Course 0 (.withFallback (.source 0) "b" (.source 1)) .null outOfOrder
        [(substituting, substituting.pass 3)] (substituting.pass 3)
        (.ready (.error (.failed "no use"))) := .resume course_substituting rfl
    obtain ⟨-, -, -, value, hvalue, -⟩ | hfallback := houtcome 0 _ _ "b" .null _ _ _ _ hlater
    · cases hvalue
    · exact hfallback
  · obtain ⟨b, hb, hreleased⟩ := hrecorded outOfOrder "b" _ (.failed "again") rfl
    exact ⟨_, b, rfl, hb, hreleased⟩
  · have hfallback : Course 0 (.source 1) .null outOfOrder [] _ (.pending _) := .start rfl
    obtain ⟨hturns, hpending⟩ :=
      hapart 0 (.source 1) "b" .null _ _ _ _ (by simp [Operation.parts]) hfallback
    exact ⟨_, _, hfallback, hturns _ (List.mem_singleton_self _), (hpending _ rfl).2⟩
  · obtain ⟨log, lives, hchronicle, hlives, -⟩ :=
      hsession tripped ((Session.Reachable.create {} true).run happens_tripped)
    exact ⟨log, lives, hchronicle, hlives⟩

end Breaker

end Resilience
