import Resilience.Failure
import Resilience.Number.Shortest

/-!
# Retry policies

A **policy** says how often a failing operation is tried in all, how long to wait before the
second attempt, and by which factor each later wait grows. It may look at the failure and give
up at once; without such a judgement every failure is worth another attempt.

Waits grow in floating-point seconds. A product that is negative or not finite leaves the wait
as it was, and one that is too long for a duration becomes the longest duration.
-/

namespace Resilience

namespace Retry

/-- The numbers of a policy. -/
structure Config where
  maxAttempts : Nat := 3
  delay : Duration := .ofMillis 100
  multiplier : Float := 2.0

/-- When and how often to try again. -/
structure Policy where
  config : Config := {}
  /-- Tells the failures that are worth another attempt. -/
  judge? : Option (Failure → Bool) := none

namespace Policy

/-- How many attempts there are in all; zero acts as one. -/
def attempts (p : Policy) : Nat := max p.config.maxAttempts 1

/-- Whether a failure is worth another attempt. -/
def retryable (p : Policy) (f : Failure) : Bool :=
  match p.judge? with
  | some judge => judge f
  | none => true

/-- The wait after one of length `d`. -/
def nextDelay (p : Policy) (d : Duration) : Duration :=
  let secs := d.toSeconds * p.config.multiplier
  if secs.isFinite && 0.0 ≤ secs then (Duration.ofSeconds? secs).getD .longest else d

end Policy

/-- In descriptions exponents from -4 to 15 are written with a plain point and ties go up. -/
def factorStyle : NumberStyle where
  plainFrom := -4
  plainBelow := 16
  tie := .up

/-- The numbers of a policy, for people to read. -/
def Config.description (config : Config) : String :=
  "RetryConfig \x7b max_attempts: " ++ toString config.maxAttempts ++
    ", delay: " ++ config.delay.text ++
    ", backoff_multiplier: " ++ factorStyle.text config.multiplier ++ " \x7d"

/-- A policy, for people to read. -/
def Policy.description (p : Policy) : String :=
  "RetryPolicy \x7b config: " ++ p.config.description ++
    ", has_predicate: " ++ (if p.judge?.isSome then "true" else "false") ++ " \x7d"

/-! ### Judgements -/

/-- Only failures of these kinds are worth another attempt. -/
def onlyKinds (kinds : List String) (f : Failure) : Bool := kinds.contains f.kind.word

/-- Whether `part` occurs in `text`. -/
def occurs (part : List Char) : List Char → Bool
  | [] => part.isEmpty
  | c :: rest => part.isPrefixOf (c :: rest) || occurs part rest

/-- Failures whose message has this text in it are not worth another attempt. -/
def unlessMessage (text : String) (f : Failure) : Bool :=
  ¬ occurs text.toList f.message.toList

end Retry

end Resilience
