import Resilience.Breaker
import Mathlib.Data.List.Chain
import Mathlib.Data.List.Induction
import Mathlib.Data.List.ReduceOption

/-!
# The calls of a breaker

A **history** is a breaker with the clock and with all the calls that asked it, in the order in
which they came. A `Move` is one thing that happens: a call asks, an admitted call settles well or
badly, an admitted call goes away before it settles, the clock moves, somebody closes the breaker
by hand. Moves come in any order, so `History.run` ranges over every interleaving of any number of
calls; one that cannot happen, such as settling twice, leaves everything as it is. The clock may
move either way; a run in which it is never set back is **steady**.

A probe that has not settled when the breaker is closed by hand is **stray** from then on. The
breaker does not know about strays: it takes what becomes of them for what becomes of its probe.
-/

namespace Resilience

namespace Breaker

/-- Where one call that asked a breaker stands. -/
inductive Standing where
  /-- Was let through by a closed breaker and has not settled. -/
  | plain
  /-- Was let through as the probe and has not settled. -/
  | probe
  /-- Is a probe that has not settled since before the breaker was closed by hand. -/
  | stray
  | settled
  /-- Went away before it settled. -/
  | lost
  | refused
deriving DecidableEq, Repr

namespace Standing

/-- Whether a call that has not settled was let through as a probe. -/
def probing? : Standing → Option Bool
  | plain => some false
  | probe => some true
  | stray => some true
  | _ => none

/-- What becomes of a call when the breaker is closed by hand. -/
def overtaken : Standing → Standing
  | probe => stray
  | v => v

end Standing

/-- A breaker, the time, and the calls that asked, in the order in which they came. -/
structure History where
  breaker : Breaker := {}
  now : Instant := 0
  calls : List Standing := []
deriving DecidableEq, Repr

/-- Something that happens; calls are numbered in the order in which they came. -/
inductive Move where
  | call
  | settle (n : Nat) (good : Bool)
  /-- A call is cancelled, panics or runs out of time. -/
  | lose (n : Nat)
  /-- The clock shows another time. -/
  | clock (now : Instant)
  | reset
deriving DecidableEq, Repr

/-- The time that a move sets the clock to. -/
def Move.clock? : Move → Option Instant
  | clock now => some now
  | _ => none

namespace History

variable (name : String) (config : Config)

/-- A call asks to go ahead. -/
def call (h : History) : History :=
  match h.breaker.enter name config h.now with
  | (.allowed probe, _, b) => ⟨b, h.now, h.calls ++ [if probe then .probe else .plain]⟩
  | (.rejected _, _, b) => ⟨b, h.now, h.calls ++ [.refused]⟩

/-- An admitted call settles. -/
def settle (n : Nat) (good : Bool) (h : History) : History :=
  match h.calls[n]?.bind Standing.probing? with
  | some probe =>
    let (_, b) := if good then h.breaker.recordSuccess name probe
      else h.breaker.recordFailure name config h.now probe
    ⟨b, h.now, h.calls.set n .settled⟩
  | none => h

/-- An admitted call goes away. -/
def lose (n : Nat) (h : History) : History :=
  match h.calls[n]?.bind Standing.probing? with
  | some probe =>
    ⟨if probe then h.breaker.probeLost else h.breaker, h.now, h.calls.set n .lost⟩
  | none => h

/-- One move. -/
def step (h : History) : Move → History
  | .call => h.call name config
  | .settle n good => h.settle name config n good
  | .lose n => h.lose n
  | .clock now => { h with now := now }
  | .reset => ⟨(h.breaker.reset name).2, h.now, h.calls.map Standing.overtaken⟩

/-- Moves one after the other, from a new breaker. -/
def run (moves : List Move) : History := moves.foldl (step name config) {}

theorem run_concat (moves : List Move) (move : Move) :
    run name config (moves ++ [move]) = (run name config moves).step name config move := by
  simp [run]

variable {name config} in
theorem run_take_succ {moves : List Move} {k : Nat} {move : Move} (hk : moves[k]? = some move) :
    run name config (moves.take (k + 1)) =
      (run name config (moves.take k)).step name config move := by
  rw [List.take_add_one, hk, Option.toList_some, run_concat]

/-- What is seen of each move, from some point of a history on. -/
def watch {α : Type} (see : History → Move → α) (h : History) : List Move → List α
  | [] => []
  | move :: rest => see h move :: watch see (h.step name config move) rest

variable {name config} in
theorem watch_append {α : Type} (see : History → Move → α) (h : History)
    (moves more : List Move) : watch name config see h (moves ++ more) =
      watch name config see h moves ++
        watch name config see (moves.foldl (step name config) h) more := by
  induction moves generalizing h with
  | nil => rfl
  | cons move rest ih => exact congrArg (see h move :: ·) (ih _)

variable {name config} in
theorem watch_concat {α : Type} (see : History → Move → α) (moves : List Move) (move : Move) :
    watch name config see {} (moves ++ [move]) =
      watch name config see {} moves ++ [see (run name config moves) move] :=
  watch_append see {} moves [move]

/-- The event that a move reports. -/
def event? (h : History) : Move → Option Event
  | .call => (h.breaker.enter name config h.now).2.1
  | .settle n good => (h.calls[n]?.bind Standing.probing?).bind fun probe =>
    (if good then h.breaker.recordSuccess name probe
      else h.breaker.recordFailure name config h.now probe).1
  | .lose _ => none
  | .clock _ => none
  | .reset => (h.breaker.reset name).1

/-- The events that moves report. -/
def reported (h : History) (moves : List Move) : List Event :=
  (watch name config (event? name config) h moves).reduceOption

variable {name config}

theorem reported_cons (h : History) (move : Move) (rest : List Move) :
    reported name config h (move :: rest) =
      (h.event? name config move).toList ++
        reported name config (h.step name config move) rest := by
  cases hevent : h.event? name config move <;> simp [reported, watch, hevent]

theorem reported_single (h : History) (move : Move) :
    reported name config h [move] = (h.event? name config move).toList :=
  (reported_cons h move []).trans (List.append_nil _)

theorem reported_append (h : History) (moves more : List Move) :
    reported name config h (moves ++ more) =
      reported name config h moves ++
        reported name config (moves.foldl (step name config) h) more := by
  rw [reported, watch_append, List.reduceOption_append]
  rfl

/-- How many calls that were let through as probes have not settled. -/
def probes (h : History) : Nat := h.calls.countP fun v => v.probing? = some true

/-! ### The clock -/

/-- The clock is never set back. -/
def Steady (moves : List Move) : Prop := (moves.filterMap Move.clock?).IsChain (· ≤ ·)

instance (moves : List Move) : Decidable (Steady moves) :=
  inferInstanceAs (Decidable (List.IsChain _ _))

theorem now_step (h : History) (move : Move) :
    (h.step name config move).now = move.clock?.getD h.now := by
  cases move with
  | call => simp only [step, call]; split <;> rfl
  | settle n good => simp only [step, settle]; split <;> rfl
  | lose n => simp only [step, lose]; split <;> rfl
  | clock now => rfl
  | reset => rfl

theorem now_run (moves : List Move) :
    (run name config moves).now = (moves.filterMap Move.clock?).getLast?.getD 0 := by
  induction moves using List.reverseRecOn with
  | nil => rfl
  | append_singleton moves move ih =>
    rw [run_concat, now_step, ih, List.filterMap_append]
    cases hclock : move.clock? <;> simp [hclock]

/-- A run stays steady as long as no move takes the time back. -/
theorem steady_concat (name : String) (config : Config) {moves : List Move} {move : Move} :
    Steady (moves ++ [move]) ↔ Steady moves ∧
      (run name config moves).now ≤ (run name config (moves ++ [move])).now := by
  rw [run_concat, now_step, now_run, Steady, Steady, List.filterMap_append, List.isChain_append]
  cases hclock : move.clock? with
  | none => simp [hclock]
  | some now => cases hlast : (moves.filterMap Move.clock?).getLast? <;> simp [hclock]

end History

end Breaker

end Resilience
