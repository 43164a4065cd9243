import Resilience.Proofs.Bucket.Ledger
import Resilience.Proofs.Queue
import Mathlib.Data.List.Induction

/-!
# The history of a bucket

A **history** is a bucket with the clock and with its ledger. A `Move` is one thing that happens:
a caller asks for a token, somebody looks whether a refill is due, a caller in line runs again and
picks up its token, a caller in line is cancelled, time passes, the bucket is closed for good.
Moves come in any order, so `History.run` ranges over every interleaving.

The ledger is written by the moves and agrees with the bucket after each of them
(`History.sound_run`).
-/

namespace Resilience

namespace Bucket

/-- A caller takes up a token that it was handed, and nothing else changes. -/
theorem pickUp?_eq_some {b b' : Bucket} {ticket : Ticket} (h : b.pickUp? ticket = some b') :
    ticket ∈ b.granted ∧ b' = { b with granted := b.granted.erase ticket } := by
  obtain ⟨hgranted, heq⟩ := Option.ite_none_right_eq_some.mp h
  exact ⟨hgranted, (Option.some.inj heq).symm⟩

/-- A bucket, the time, and what happened to its tokens. -/
structure History where
  bucket : Bucket
  now : Instant
  ledger : List Mark := []
deriving DecidableEq, Repr

/-- Something that happens. -/
inductive Move where
  | ask (ticket : Ticket) (caller : TaskId)
  /-- Somebody looks whether a refill is due. -/
  | refill
  /-- The waiter with a ticket runs again. -/
  | pickUp (ticket : Ticket)
  /-- The waiter with a ticket is cancelled. -/
  | giveUp (ticket : Ticket)
  | pass (instant : Instant)
  | shutDown
deriving DecidableEq, Repr

namespace History

variable (config : Config)

/-- The history of a new bucket. -/
def create (created : Instant) : History := ⟨full config created, created, []⟩

/-- What is written when somebody looks whether a refill is due. -/
def refillMarks (h : History) : List Mark :=
  if h.bucket.refillDue config h.now then
    .refill h.now :: List.replicate (h.bucket.fill config h.now).1.length (.grant h.now)
  else []

/-- A caller asks for a token. A token that is there is granted, and the caller goes on. -/
def ask (ticket : Ticket) (caller : TaskId) (h : History) : History :=
  let asked := h.bucket.acquire config h.now ⟨ticket, caller, true⟩
  ⟨asked.2.2, h.now, h.ledger ++ h.refillMarks config ++
    if asked.1 = .admitted then [.grant h.now, .start h.now] else []⟩

/-- Somebody looks whether a refill is due. -/
def refill (h : History) : History :=
  ⟨(h.bucket.refill config h.now).2, h.now, h.ledger ++ h.refillMarks config⟩

/-- A waiter runs again and goes on, if it was granted a token. -/
def pickUp (ticket : Ticket) (h : History) : History :=
  match h.bucket.pickUp? ticket with
  | some b => ⟨b, h.now, h.ledger ++ [.start h.now]⟩
  | none => h

/-- One move. -/
def step (h : History) : Move → History
  | .ask ticket caller => h.ask config ticket caller
  | .refill => h.refill config
  | .pickUp ticket => h.pickUp ticket
  | .giveUp ticket => { h with bucket := h.bucket.giveUp ticket }
  | .pass instant => { h with now := max h.now instant }
  | .shutDown => { h with bucket := h.bucket.shutDown.2 }

/-- Moves one after the other, from a new bucket. -/
def run (created : Instant) (moves : List Move) : History :=
  moves.foldl (step config) (create config created)

/-- The ledger agrees with the bucket, and a bucket that is closed has no line. -/
structure Sound (created : Instant) (h : History) : Prop where
  balanced : Balanced config created h.now h.bucket.tokens h.bucket.lastRefill
    h.bucket.granted.length h.ledger
  closed : h.bucket.closed = true → h.bucket.queue = []

variable {config} {created : Instant} {h : History}

theorem sound_create (created : Instant) : Sound config created (create config created) where
  balanced := .start config created
  closed h := by cases h

/-! ### The moves -/

private theorem lt_since_of_refillDue {b : Bucket} {now : Instant}
    (hdue : b.refillDue config now = true) :
    config.interval.nanos < (now.since b.lastRefill).nanos := (of_decide_eq_true hdue).2

private theorem open_of_refillDue {b : Bucket} {now : Instant}
    (hdue : b.refillDue config now = true) : b.closed = false :=
  Bool.eq_false_iff.mpr (of_decide_eq_true hdue).1

/-- A refill does not close the bucket. -/
theorem closed_refill (config : Config) (now : Instant) (b : Bucket) :
    (b.refill config now).2.closed = b.closed := by
  unfold Bucket.refill
  split <;> rfl

theorem Sound.refill (hs : Sound config created h) :
    Sound config created (h.refill config) := by
  unfold History.refill refillMarks Bucket.refill
  cases hdue : h.bucket.refillDue config h.now with
  | false => simpa using hs
  | true =>
    -- The refill comes first and is followed by as many grants as tokens went to the line.
    have hserved := Queue.length_serve config.capacity h.bucket.queue
    have hfull := hs.balanced.refill (lt_since_of_refillDue hdue)
    rw [← hserved] at hfull
    have hgranted := hfull.grantMany
    rw [List.append_assoc, List.singleton_append] at hgranted
    refine ⟨?_, fun hclosed => ?_⟩
    · simpa [fill] using hgranted
    · rw [if_pos rfl] at hclosed
      exact absurd (open_of_refillDue hdue) (by simpa [fill] using hclosed)

/-- What becomes of a caller after the refill that was due. -/
private theorem acquire_of_open {b : Bucket} {now : Instant} (w : Waiter)
    (hopen : b.closed = false) : b.acquire config now w =
      if 0 < (b.refill config now).2.tokens then
        (.admitted, (b.refill config now).1,
          { (b.refill config now).2 with tokens := (b.refill config now).2.tokens - 1 })
      else (.queued, (b.refill config now).1,
        { (b.refill config now).2 with queue := (b.refill config now).2.queue ++ [w] }) := by
  simp [acquire, hopen]

theorem Sound.ask (hs : Sound config created h) (ticket : Ticket) (caller : TaskId) :
    Sound config created (h.ask config ticket caller) := by
  unfold History.ask
  cases hclosed : h.bucket.closed with
  | true =>
    -- A closed bucket refuses, and does not look whether a refill is due.
    have hnot : h.bucket.refillDue config h.now = false := by simp [refillDue, hclosed]
    simpa [acquire, hclosed, refillMarks, hnot] using hs
  | false =>
    obtain ⟨hbalanced, -⟩ := hs.refill
    have hopen := (closed_refill config h.now h.bucket).trans hclosed
    rw [acquire_of_open _ hclosed]
    split
    · next htokens =>
      -- The caller is granted a token of those that the refill left, and goes on with it.
      obtain ⟨n, hn⟩ := Nat.exists_eq_succ_of_ne_zero (Nat.ne_of_gt htokens)
      dsimp only [History.refill] at hbalanced
      rw [hn] at hbalanced
      have hwent := hbalanced.grant.goOn
      rw [List.append_assoc] at hwent
      rw [hn]
      exact ⟨hwent, fun hshut => absurd (hopen.symm.trans hshut) (by simp)⟩
    · dsimp only
      rw [if_neg (by simp), List.append_nil]
      exact ⟨hbalanced, fun hshut => absurd (hopen.symm.trans hshut) (by simp)⟩

theorem Sound.pickUp (hs : Sound config created h) (ticket : Ticket) :
    Sound config created (h.pickUp ticket) := by
  unfold History.pickUp pickUp?
  by_cases hgranted : ticket ∈ h.bucket.granted
  · have hlength := List.length_erase_add_one hgranted
    have hbalanced := hs.balanced
    rw [← hlength] at hbalanced
    rw [if_pos hgranted]
    exact ⟨hbalanced.goOn, hs.closed⟩
  · rwa [if_neg hgranted]

theorem Sound.giveUp (hs : Sound config created h) (ticket : Ticket) :
    Sound config created { h with bucket := h.bucket.giveUp ticket } := by
  unfold Bucket.giveUp
  split
  · exact ⟨hs.balanced.forgo (List.length_erase_le ..), hs.closed⟩
  · refine ⟨hs.balanced, fun hclosed => ?_⟩
    have hempty := hs.closed hclosed
    simp [hempty, Queue.giveUp]

/-- **Every move keeps a history sound.** -/
theorem Sound.step (hs : Sound config created h) (move : Move) :
    Sound config created (h.step config move) := by
  cases move with
  | ask ticket caller => exact hs.ask ticket caller
  | refill => exact hs.refill
  | pickUp ticket => exact hs.pickUp ticket
  | giveUp ticket => exact hs.giveUp ticket
  | pass instant => exact ⟨hs.balanced.later (Nat.le_max_left ..), hs.closed⟩
  | shutDown => exact ⟨hs.balanced, fun _ => rfl⟩

theorem run_concat (config : Config) (created : Instant) (moves : List Move) (move : Move) :
    run config created (moves ++ [move]) = (run config created moves).step config move := by
  simp [run]

/-- What was written stays written. -/
theorem ledger_prefix_step (config : Config) (h : History) (move : Move) :
    h.ledger <+: (h.step config move).ledger := by
  cases move with
  | ask ticket caller =>
    refine ⟨_, (List.append_assoc h.ledger _ _).symm⟩
  | refill => exact List.prefix_append ..
  | pickUp ticket =>
    simp only [History.step, History.pickUp]
    split
    · exact List.prefix_append ..
    · exact List.prefix_rfl
  | giveUp | pass | shutDown => exact List.prefix_rfl

/-- **Every history is sound**, whatever happens when. -/
theorem sound_run (config : Config) (created : Instant) (moves : List Move) :
    Sound config created (run config created moves) := by
  induction moves using List.reverseRecOn with
  | nil => exact sound_create created
  | append_singleton moves move ih => exact run_concat config created moves move ▸ ih.step move

end History

end Bucket

end Resilience
