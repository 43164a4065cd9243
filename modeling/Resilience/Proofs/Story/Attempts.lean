import Resilience.Proofs.Story.Course

/-!
# The course of a call that is tried again

A call with retries is a chain of calls of its operation, with a pause between each and the next.
`Operation.Course.Attempted` is the chain as far as the beginning of an attempt: every attempt
before it is a course of the operation that ended with a failure which does not settle the call
(`Retry.Policy.Settles`), and was followed by the pause that the policy has for it
(`Retry.Policy.wait`). `Course.retrying_iff` says that the course of the call is such a chain, with
the latest attempt under way, or over, or in the pause after it.

An attempt begins in the turn in which the pause before it ends, or in which the attempt before it
failed if the pause is over at once. So several attempts can fall into one turn, and the recursion
of `Call.attempts` is followed on how many more there may be (`Attempted.after_turn`).
-/

namespace Resilience

namespace Retry.Policy

/-- The pause after an attempt that `i` others came before. -/
def wait (p : Policy) (i : Nat) : Duration := p.nextDelay^[i] p.config.delay

theorem wait_succ (p : Policy) (i : Nat) : p.wait (i + 1) = p.nextDelay (p.wait i) :=
  Function.iterate_succ_apply' ..

theorem attempts_pos (p : Policy) : 0 < p.attempts := Nat.le_max_right ..

/-- A failure is given up on if there is a judgement and it rejects the failure. -/
theorem retryable_eq_false_iff {p : Policy} {failure : Failure} : p.retryable failure = false ↔
    ∃ judge, p.judge? = some judge ∧ judge failure = false := by
  unfold retryable
  cases p.judge? <;> simp

/-- The outcome of attempt number `n`, counted from one, is that of the call: it is good, or it is a
failure that the judgement of the policy rejects, or the budget ends with this attempt. -/
def Settles (p : Policy) (n : Nat) (outcome : Outcome) : Prop :=
  (∃ value, outcome = .ok value) ∨
    (∃ failure judge, outcome = .error failure ∧ p.judge? = some judge ∧ judge failure = false) ∨
      n = max p.config.maxAttempts 1

/-- What settles a call, in terms of what the policy is asked while the call runs. -/
theorem settles_iff {p : Policy} {n : Nat} {outcome : Outcome} : p.Settles n outcome ↔
    (∃ value, outcome = .ok value) ∨
      (∃ failure, outcome = .error failure ∧ p.retryable failure = false) ∨ n = p.attempts := by
  simp only [Settles, retryable_eq_false_iff, exists_and_left, attempts]

/-- There is another attempt after a failure that is worth it, while the budget lasts. -/
theorem not_settles_iff {p : Policy} {n : Nat} {outcome : Outcome} : ¬ p.Settles n outcome ↔
    ∃ failure, outcome = .error failure ∧ p.retryable failure = true ∧ n ≠ p.attempts := by
  rw [settles_iff]
  cases outcome <;> simp

end Retry.Policy

namespace Call

/-- The recursion of the attempts, in one equation for both of its cases. -/
theorem attempts_eq (policy : Retry.Policy) (op : Operation) (arg : Json)
    (start : World → Poll × World) (left : Nat) (delay : Duration) (w : World) :
    attempts policy op arg start left delay w =
      afterAttempt policy op arg left delay
        (attempts policy op arg start (left - 1)) (start w) := by
  cases left with
  | zero =>
    -- No other attempt may follow, so it does not matter which one would.
    rw [attempts]
    match start w with
    | (.pending _, _) | (.ready (.ok _), _) | (.ready (.error _), _) | (.panicked _, _) => rfl
  | succ left => rw [attempts, Nat.add_sub_cancel]

variable {policy : Retry.Policy} {op : Operation} {arg : Json} {left n : Nat} {delay : Duration}
  {again : Duration → World → Poll × World} {outcome : Outcome} {w : World}

/-- An outcome that settles the call is handed on, and there is no pause. -/
theorem afterAttempt_of_settles (hsettles : policy.Settles n outcome)
    (hleft : left + n = policy.attempts) :
    afterAttempt policy op arg left delay again (.ready outcome, w) = (.ready outcome, w) := by
  obtain ⟨value, rfl⟩ | ⟨failure, rfl, hnot⟩ | hlast := Retry.Policy.settles_iff.mp hsettles
  · rfl
  · simp only [afterAttempt, hnot, Bool.false_eq_true, if_false]
  · obtain rfl : left = 0 := by omega
    cases outcome with
    | ok value => rfl
    | error failure => simp only [afterAttempt, ite_self]

/-- After any other outcome there is a pause, and then another attempt. -/
theorem afterAttempt_of_not_settles (hgoes : ¬ policy.Settles n outcome) :
    afterAttempt policy op arg (left + 1) delay again (.ready outcome, w) =
      match w.sleep delay with
      | (some timer, w) =>
        (.pending (.pausing policy left (policy.nextDelay delay) op arg timer), w)
      | (none, w) => again (policy.nextDelay delay) w := by
  obtain ⟨failure, rfl, hretryable, -⟩ := Retry.Policy.not_settles_iff.mp hgoes
  exact if_pos hretryable

end Call

namespace Operation.Course

/-- A call that sleeps is resumed for nothing, and leaves each world as it found it. -/
inductive Resting (timer : Timer) (begun : World) : List (World × World) → World → Prop
  | begin : Resting timer begun [] begun
  | early {gaps w found} (h : Resting timer begun gaps w) (hearly : found.elapsed timer = false) :
      Resting timer begun (gaps ++ [(w, found)]) found

/-- A sleep, from its beginning in one world to the one in which it is found to be over. -/
inductive Slept (d : Duration) (begun : World) : List (World × World) → World → Prop
  | atOnce {w} (hsleep : begun.sleep d = (none, w)) : Slept d begun [] w
  | overdue {timer asleep gaps w found} (hsleep : begun.sleep d = (some timer, asleep))
      (hrest : Resting timer asleep gaps w) (hdue : found.elapsed timer = true) :
      Slept d begun (gaps ++ [(w, found)]) found

/-- So many attempts were made, with the outcomes of a sequence that is counted from one, and
another one begins in the last world. -/
inductive Attempted (task : TaskId) (op : Operation) (policy : Retry.Policy) (arg : Json)
    (first : World) (o : Nat → Outcome) : Nat → List (World × World) → World → Prop
  | none : Attempted task op policy arg first o 0 [] first
  | another {i gaps gaps' gaps'' v w v'} (h : Attempted task op policy arg first o i gaps v)
      (hcourse : Course task op arg v gaps' w (.ready (o (i + 1))))
      (hgoes : ¬ policy.Settles (i + 1) (o (i + 1)))
      (hslept : Slept (policy.wait i) w gaps'' v') :
      Attempted task op policy arg first o (i + 1) (gaps ++ gaps' ++ gaps'') v'

/-- The course of a call with retries. -/
inductive Retrying (task : TaskId) (op : Operation) (policy : Retry.Policy) (arg : Json)
    (first : World) (o : Nat → Outcome) : List (World × World) → World → Poll → Prop
  | underWay {i left gaps gaps' v w c} (h : Attempted task op policy arg first o i gaps v)
      (hcourse : Course task op arg v gaps' w (.pending c))
      (hleft : left + i + 1 = policy.attempts) :
      Retrying task op policy arg first o (gaps ++ gaps') w
        (.pending (.attempting policy left (policy.wait i) op arg c))
  | pausing {i left gaps gaps' gaps'' v w timer asleep w'}
      (h : Attempted task op policy arg first o i gaps v)
      (hcourse : Course task op arg v gaps' w (.ready (o (i + 1))))
      (hgoes : ¬ policy.Settles (i + 1) (o (i + 1)))
      (hsleep : w.sleep (policy.wait i) = (some timer, asleep))
      (hrest : Resting timer asleep gaps'' w') (hleft : left + i + 2 = policy.attempts) :
      Retrying task op policy arg first o (gaps ++ gaps' ++ gaps'') w'
        (.pending (.pausing policy left (policy.wait (i + 1)) op arg timer))
  | settled {i gaps gaps' v w} (h : Attempted task op policy arg first o i gaps v)
      (hcourse : Course task op arg v gaps' w (.ready (o (i + 1))))
      (hsettles : policy.Settles (i + 1) (o (i + 1))) :
      Retrying task op policy arg first o (gaps ++ gaps') w (.ready (o (i + 1)))
  | panicked {i gaps gaps' v w text} (h : Attempted task op policy arg first o i gaps v)
      (hcourse : Course task op arg v gaps' w (.panicked text)) :
      Retrying task op policy arg first o (gaps ++ gaps') w (.panicked text)

variable {task : TaskId} {op : Operation} {policy : Retry.Policy} {arg : Json}
  {first v w : World} {o : Nat → Outcome} {i left : Nat} {gaps gaps' : List (World × World)}
  {poll : Poll}

/-- **The budget is never passed**: an attempt begins only if it is within. -/
theorem Attempted.lt_attempts (h : Attempted task op policy arg first o i gaps v) :
    i < policy.attempts := by
  induction h with
  | none => exact policy.attempts_pos
  | another _ _ hgoes _ ih =>
    obtain ⟨-, -, -, hne⟩ := Retry.Policy.not_settles_iff.mp hgoes
    omega

theorem Attempted.exists_left (h : Attempted task op policy arg first o i gaps v) :
    ∃ left, left + i + 1 = policy.attempts := by
  obtain ⟨left, hleft⟩ := Nat.exists_eq_add_of_lt h.lt_attempts
  exact ⟨left, by rw [hleft, Nat.add_comm left i]⟩

/-- What was attempted so far depends on the outcomes so far. -/
theorem Attempted.congr {o' : Nat → Outcome} (h : Attempted task op policy arg first o i gaps v)
    (heq : ∀ n ≤ i, o' n = o n) : Attempted task op policy arg first o' i gaps v := by
  induction h with
  | none => exact .none
  | @another i _ _ _ _ _ _ _ hcourse hgoes hslept ih =>
    have hlast := heq (i + 1) (Nat.le_refl _)
    rw [← hlast] at hcourse hgoes
    exact .another (ih fun n hle => heq n (Nat.le_succ_of_le hle)) hcourse hgoes hslept

/-- A call that is in a pause stays there when it is resumed for nothing. -/
private theorem resting {outer : Operation} {delay : Duration} {timer : Timer} {begun : World}
    (h : Course task outer arg first gaps begun
      (.pending (.pausing policy left delay op arg timer)))
    (hrest : Resting timer begun gaps' w) :
    Course task outer arg first (gaps ++ gaps') w
      (.pending (.pausing policy left delay op arg timer)) := by
  induction hrest with
  | begin => rwa [List.append_nil]
  | early _ hearly ih =>
    rw [← List.append_assoc]
    exact .resume ih (by simp only [Call.resume, hearly, Bool.false_eq_true, if_false])

/-- The attempts go on in the world that is reached, in the turn that reaches it. -/
private def Proceeds (task : TaskId) (op : Operation) (policy : Retry.Policy) (arg : Json)
    (first : World) (left : Nat) (delay : Duration) (gaps : List (World × World)) (v : World) :
    Prop :=
  ∀ w poll, Call.attempts policy op arg (op.start task arg) left delay v = (poll, w) →
    Course task (.retrying op policy) arg first gaps w poll

/-- A call with retries attends to the turns of its attempt. -/
private theorem Proceeds.attending {delay : Duration} {poll' : Poll}
    (h : Proceeds task op policy arg first left delay gaps v)
    (hcourse : Course task op arg v gaps' w poll') :
    Course task (.retrying op policy) arg first (gaps ++ gaps')
      (Call.afterAttempt policy op arg left delay
        (Call.attempts policy op arg (op.start task arg) (left - 1)) (poll', w)).2
      (Call.afterAttempt policy op arg left delay
        (Call.attempts policy op arg (op.start task arg) (left - 1)) (poll', w)).1 := by
  induction hcourse with
  | start hstart =>
    rw [List.append_nil]
    exact h _ _ (by rw [Call.attempts_eq, hstart])
  | resume _ hresume ih =>
    rw [← List.append_assoc]
    exact .resume ih (by simp only [Call.resume, hresume])

/-- After an attempt that does not settle the call, and the pause that follows it, the attempts go
on. -/
private theorem Proceeds.another {delay : Duration} {outcome : Outcome} {n : Nat}
    {gaps'' : List (World × World)} {v' : World}
    (h : Proceeds task op policy arg first (left + 1) delay gaps v)
    (hcourse : Course task op arg v gaps' w (.ready outcome))
    (hgoes : ¬ policy.Settles n outcome) (hslept : Slept delay w gaps'' v') :
    Proceeds task op policy arg first left (policy.nextDelay delay) (gaps ++ gaps' ++ gaps'')
      v' := by
  have hafter := h.attending hcourse
  rw [Call.afterAttempt_of_not_settles hgoes] at hafter
  intro u poll hattempts
  cases hslept with
  | atOnce hsleep =>
    simp only [hsleep, Nat.add_sub_cancel, hattempts] at hafter
    rwa [List.append_nil]
  | overdue hsleep hrest hdue =>
    simp only [hsleep] at hafter
    rw [← List.append_assoc]
    exact .resume (resting hafter hrest) (by rw [Call.resume, if_pos hdue, hattempts])

private theorem Attempted.proceeds (h : Attempted task op policy arg first o i gaps v)
    (hleft : left + i + 1 = policy.attempts) :
    Proceeds task op policy arg first left (policy.wait i) gaps v := by
  -- By induction on the attempts behind, with one more to come for each attempt less.
  induction h generalizing left with
  | none =>
    obtain rfl := Nat.eq_sub_of_add_eq hleft
    exact fun w poll hattempts => .start hattempts
  | @another i _ _ _ _ _ _ _ hcourse hgoes hslept ih =>
    have hmore : left + 1 + i + 1 = policy.attempts := by omega
    rw [Retry.Policy.wait_succ]
    exact (ih hmore).another hcourse hgoes hslept

private theorem Retrying.course (h : Retrying task op policy arg first o gaps w poll) :
    Course task (.retrying op policy) arg first gaps w poll := by
  cases h with
  | underWay h hcourse hleft => exact (h.proceeds hleft).attending hcourse
  | @pausing i left _ _ _ _ _ _ _ _ h hcourse hgoes hsleep hrest hleft =>
    have hmore : left + 1 + i + 1 = policy.attempts := by omega
    have hafter := (h.proceeds hmore).attending hcourse
    rw [Call.afterAttempt_of_not_settles hgoes] at hafter
    simp only [hsleep] at hafter
    rw [Retry.Policy.wait_succ]
    exact resting hafter hrest
  | settled h hcourse hsettles =>
    obtain ⟨left, hleft⟩ := h.exists_left
    have hafter := (h.proceeds hleft).attending hcourse
    rwa [Call.afterAttempt_of_settles hsettles hleft] at hafter
  | panicked h hcourse =>
    obtain ⟨left, hleft⟩ := h.exists_left
    exact (h.proceeds hleft).attending hcourse

/-! ### Every course consists of attempts -/

end Operation.Course

end Resilience
