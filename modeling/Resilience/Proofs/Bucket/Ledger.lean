import Resilience.Bucket
import Mathlib.Data.List.Basic
import Mathlib.Order.Basic

/-!
# The ledger of a bucket

The **ledger** of a bucket is what happened to its tokens, in order: refills, grants of a token to
a caller, at once or in line, and starts of callers that go on with a token that they were
granted. `Balanced` says what the ledger has to do with the tokens that are left:

* the tokens and the grants since the last refill make up a full bucket, so after `k` refills at
  most `k + 1` full buckets were granted;
* refills are further apart than the interval, so a window of the length of the interval has
  grants from at most two of the times between refills;
* nobody starts who was not granted a token.

The bound on windows is carried by two sharper ones: a window that reaches the last refill still
has room for the tokens that are left, and a window that begins after it has room for those in
one full bucket.
-/

namespace Resilience

/-- The nanoseconds since the start. -/
def Instant.nanos (instant : Instant) : Nat := (Duration.ofMillis instant).nanos

theorem Instant.nanos_since (now start : Instant) :
    (now.since start).nanos = now.nanos - start.nanos := Nat.sub_mul ..

theorem Instant.nanos_le_nanos {a b : Instant} (h : a ≤ b) : a.nanos ≤ b.nanos :=
  Nat.mul_le_mul_right _ h

namespace Bucket

/-- An entry of the ledger of a bucket. -/
inductive Mark where
  | refill (instant : Instant)
  /-- A token goes to a caller. -/
  | grant (instant : Instant)
  /-- A caller goes on with the token that it was granted. -/
  | start (instant : Instant)
deriving DecidableEq, Repr

namespace Mark

def instant : Mark → Instant
  | refill instant => instant
  | grant instant => instant
  | start instant => instant

def isGrant : Mark → Bool
  | grant _ => true
  | _ => false

def isStart : Mark → Bool
  | start _ => true
  | _ => false

/-- When a refill was made. -/
def refill? : Mark → Option Instant
  | refill instant => some instant
  | _ => none

/-- Whether a grant was made in the closed window of some length, in nanoseconds. -/
def grantWithin (start length : Nat) : Mark → Bool
  | grant instant => start ≤ instant.nanos ∧ instant.nanos ≤ start + length
  | _ => false

end Mark

namespace Ledger

variable (ledger : List Mark)

/-- How many tokens were granted. -/
def grants : Nat := ledger.countP Mark.isGrant

/-- How many callers went on with a token. -/
def starts : Nat := ledger.countP Mark.isStart

/-- When the bucket was refilled. -/
def refills : List Instant := ledger.filterMap Mark.refill?

/-- How many tokens were granted since the last refill. -/
def grantsSinceRefill : Nat := grants (ledger.reverse.takeWhile fun m => m.refill? = none)

/-- How many tokens were granted in a closed window. -/
def grantsWithin (start length : Nat) : Nat := ledger.countP (Mark.grantWithin start length)

variable {ledger} {m : Mark}

theorem grants_concat : grants (ledger ++ [m]) = grants ledger + m.isGrant.toNat := by
  cases h : m.isGrant <;> simp [grants, h]

theorem starts_concat : starts (ledger ++ [m]) = starts ledger + m.isStart.toNat := by
  cases h : m.isStart <;> simp [starts, h]

theorem starts_le_of_prefix {longer : List Mark} (h : ledger <+: longer) :
    starts ledger ≤ starts longer := h.sublist.countP_le

theorem refills_concat : refills (ledger ++ [m]) = refills ledger ++ m.refill?.toList := by
  cases h : m.refill? <;> simp [refills, h]

theorem refills_concat_of_none (h : m.refill? = none) :
    refills (ledger ++ [m]) = refills ledger := by
  rw [refills_concat, h, Option.toList_none, List.append_nil]

theorem grantsSinceRefill_concat : grantsSinceRefill (ledger ++ [m]) =
    if m.refill?.isSome then 0 else grantsSinceRefill ledger + m.isGrant.toNat := by
  have hcount (rest : List Mark) : grants (m :: rest) = grants rest + m.isGrant.toNat := by
    cases h : m.isGrant <;> simp [grants, h]
  cases h : m.refill? with
  | none => simp [grantsSinceRefill, h, hcount]
  | some instant => simp [grantsSinceRefill, h, grants]

theorem grantsWithin_concat {start length : Nat} :
    grantsWithin (ledger ++ [m]) start length =
      grantsWithin ledger start length + (m.grantWithin start length).toNat := by
  cases h : m.grantWithin start length <;> simp [grantsWithin, h]

end Ledger

open Ledger

/-- A ledger agrees with the bucket that it is about: with the tokens that are left, the time of
the last refill, and the number of callers that were granted a token and did not go on yet. -/
structure Balanced (config : Config) (created now : Instant) (tokens : Nat) (last : Instant)
    (owed : Nat) (ledger : List Mark) : Prop where
  balance : tokens + grantsSinceRefill ledger = config.capacity
  total : grants ledger + tokens ≤ ((refills ledger).length + 1) * config.capacity
  started : starts ledger + owed ≤ grants ledger
  apart : (created :: refills ledger).Pairwise fun a b =>
    config.interval.nanos < (Instant.since b a).nanos
  last_max : ∀ instant ∈ created :: refills ledger, instant ≤ last
  last_le : last ≤ now
  past : ∀ m ∈ ledger, m.instant ≤ now
  window (start : Nat) :
    grantsWithin ledger start config.interval.nanos ≤ 2 * config.capacity
  window_last (start : Nat) : last.nanos ≤ start + config.interval.nanos →
    grantsWithin ledger start config.interval.nanos + tokens ≤ 2 * config.capacity
  window_after (start : Nat) : last.nanos < start →
    grantsWithin ledger start config.interval.nanos + tokens ≤ config.capacity

namespace Balanced

variable {config : Config} {created now last : Instant} {tokens owed : Nat} {ledger : List Mark}

/-- A new bucket. -/
theorem start (config : Config) (created : Instant) :
    Balanced config created created config.capacity created 0 [] where
  balance := rfl
  total := by simp [grants, refills]
  started := Nat.le_refl _
  apart := List.pairwise_singleton ..
  last_max instant h := by simp [refills] at h; exact Nat.le_of_eq h
  last_le := Nat.le_refl _
  past m h := by cases h
  window start := Nat.zero_le _
  window_last start _ := by simp [grantsWithin]; omega
  window_after start _ := by simp [grantsWithin]

/-- Time passes. -/
theorem later (h : Balanced config created now tokens last owed ledger) {now' : Instant}
    (hle : now ≤ now') : Balanced config created now' tokens last owed ledger :=
  { h with
    last_le := Nat.le_trans h.last_le hle
    past := fun m hm => Nat.le_trans (h.past m hm) hle }

/-- Somebody to whom a token is owed goes away. -/
theorem forgo (h : Balanced config created now tokens last owed ledger) {owed' : Nat}
    (hle : owed' ≤ owed) : Balanced config created now tokens last owed' ledger :=
  { h with started := by have hstarted := h.started; omega }

/-- One more entry, made now. -/
private theorem past_concat (h : Balanced config created now tokens last owed ledger) {m : Mark}
    (hm : m.instant = now) : ∀ x ∈ ledger ++ [m], x.instant ≤ now := by
  intro x hx
  rcases List.mem_append.mp hx with hx | hx
  · exact h.past x hx
  · obtain rfl := List.mem_singleton.mp hx
    exact Nat.le_of_eq hm

/-- A token that is there is granted. -/
theorem grant (h : Balanced config created now (tokens + 1) last owed ledger) :
    Balanced config created now tokens last (owed + 1) (ledger ++ [.grant now]) where
  balance := by
    have hbalance := h.balance
    simp only [grantsSinceRefill_concat, Mark.refill?, Mark.isGrant, Option.isSome_none,
      Bool.false_eq_true, if_false, Bool.toNat_true]
    omega
  total := by
    have htotal := h.total
    rw [grants_concat, refills_concat_of_none rfl]
    simp only [Mark.isGrant, Bool.toNat_true]
    omega
  started := by
    rw [starts_concat, grants_concat]
    exact Nat.succ_le_succ h.started
  apart := by
    rw [refills_concat_of_none rfl]
    exact h.apart
  last_max := by
    rw [refills_concat_of_none rfl]
    exact h.last_max
  last_le := h.last_le
  past := h.past_concat rfl
  window start := by
    rw [grantsWithin_concat]
    cases hwithin : (Mark.grant now).grantWithin start config.interval.nanos with
    | false => exact h.window start
    | true =>
      -- The window holds this moment, so it reaches the last refill and has room for a token.
      have hreach : now.nanos ≤ start + config.interval.nanos := (of_decide_eq_true hwithin).2
      have hroom := h.window_last start (Nat.le_trans (Instant.nanos_le_nanos h.last_le) hreach)
      rw [Bool.toNat_true]
      omega
  window_last start hreach := by
    have hroom := h.window_last start hreach
    have hone := Bool.toNat_le ((Mark.grant now).grantWithin start config.interval.nanos)
    rw [grantsWithin_concat]
    omega
  window_after start hafter := by
    have hroom := h.window_after start hafter
    have hone := Bool.toNat_le ((Mark.grant now).grantWithin start config.interval.nanos)
    rw [grantsWithin_concat]
    omega

/-- Tokens that are there are granted, one after the other. -/
theorem grantMany (n : Nat) (h : Balanced config created now (tokens + n) last owed ledger) :
    Balanced config created now tokens last (owed + n)
      (ledger ++ List.replicate n (.grant now)) := by
  induction n generalizing tokens with
  | zero => simpa using h
  | succ n ih =>
    have hmost := @ih (tokens + 1) (by rwa [Nat.add_assoc, Nat.add_comm 1])
    have hlast := hmost.grant
    rwa [List.append_assoc, ← List.replicate_succ'] at hlast

/-- A refill that is due. -/
theorem refill (h : Balanced config created now tokens last owed ledger)
    (hdue : config.interval.nanos < (now.since last).nanos) :
    Balanced config created now config.capacity now owed (ledger ++ [.refill now]) := by
  rw [Instant.nanos_since] at hdue
  have hmax : ∀ instant ∈ created :: refills ledger, instant.nanos ≤ last.nanos :=
    fun instant hmem => Instant.nanos_le_nanos (h.last_max instant hmem)
  have hwithin (start : Nat) : grantsWithin (ledger ++ [.refill now]) start
      config.interval.nanos = grantsWithin ledger start config.interval.nanos :=
    grantsWithin_concat
  have hrefills : created :: refills (ledger ++ [.refill now]) =
      (created :: refills ledger) ++ [now] := by rw [refills_concat]; rfl
  exact {
    balance := by rw [grantsSinceRefill_concat]; rfl
    total := by
      have htotal := h.total
      rw [grants_concat, refills_concat, List.length_append, Nat.add_right_comm, Nat.succ_mul]
      simp only [Mark.isGrant, Mark.refill?, Bool.toNat_false, Option.toList_some,
        List.length_singleton]
      omega
    started := by
      rw [starts_concat, grants_concat]
      exact h.started
    apart := by
      rw [hrefills]
      refine List.pairwise_append.mpr ⟨h.apart, List.pairwise_singleton .., ?_⟩
      intro a ha b hb
      rw [List.mem_singleton.mp hb, Instant.nanos_since]
      have hle := hmax a ha
      omega
    last_max := by
      intro instant hmem
      rw [hrefills, List.mem_append, List.mem_singleton] at hmem
      rcases hmem with hmem | rfl
      · exact Nat.le_trans (h.last_max instant hmem) h.last_le
      · exact Nat.le_refl _
    last_le := Nat.le_refl _
    past := h.past_concat rfl
    window := fun start => by
      rw [hwithin]
      exact h.window start
    window_last := fun start hreach => by
      -- A window that reaches this refill begins after the one before.
      have hroom := h.window_after start (by omega)
      rw [hwithin]
      omega
    window_after := fun start hafter => by
      -- Nothing was granted in what is still to come.
      have hnone : grantsWithin ledger start config.interval.nanos = 0 := by
        refine List.countP_eq_zero.mpr fun m hm hin => ?_
        cases m with
        | grant instant =>
          have hstart : start ≤ instant.nanos := (of_decide_eq_true hin).1
          have hpast := Instant.nanos_le_nanos (h.past _ hm)
          exact absurd (Nat.lt_of_lt_of_le hafter hstart) (Nat.not_lt.mpr hpast)
        | refill instant | start instant => cases hin
      rw [hwithin, hnone]
      omega }

/-- A caller that was granted a token goes on with it. -/
theorem goOn (h : Balanced config created now tokens last (owed + 1) ledger) :
    Balanced config created now tokens last owed (ledger ++ [.start now]) where
  balance := by rw [grantsSinceRefill_concat]; exact h.balance
  total := by
    rw [grants_concat, refills_concat_of_none rfl]
    exact h.total
  started := by
    -- One more start, and one fewer of those that are owed one.
    have hstarted := h.started
    simp only [starts_concat, grants_concat, Mark.isStart, Mark.isGrant, Bool.toNat_true,
      Bool.toNat_false]
    omega
  apart := by
    rw [refills_concat_of_none rfl]
    exact h.apart
  last_max := by
    rw [refills_concat_of_none rfl]
    exact h.last_max
  last_le := h.last_le
  past := h.past_concat rfl
  window start := by
    rw [grantsWithin_concat]
    exact h.window start
  window_last start hreach := by
    rw [grantsWithin_concat]
    exact h.window_last start hreach
  window_after start hafter := by
    rw [grantsWithin_concat]
    exact h.window_after start hafter

end Balanced

end Bucket

end Resilience
