import Resilience.Proofs.Bucket.Trade
import Resilience.Proofs.Session.Commands

/-!
# Tokens are conserved

Tokens are spent in two places, by a caller that finds one and by a refill that serves the line,
and a refill that is due may come from background work, from somebody who asks for it, or from a
caller. However these mix with cancellations, with the clock and with the bucket being closed, the
tokens that are left and those that were granted since the last refill make up a full bucket, and
refills are more than an interval apart. So grants are bounded, in number and in every window of
the length of the interval, and no more callers go on than were granted a token.

This is read off `History.Sound`. Sessions come in through their acts, each of which is at most one
move of a bucket (`Shows.act`), and calls of rate limited operations through `Trade`.
-/

namespace Resilience

namespace Bucket

open Ledger

/-- **Tokens are conserved.** In every history of a bucket, whatever its rate and its interval,
the tokens that are left and the grants since the last refill, or since the beginning if there was
none, add up to the rate, or to one if that is zero; the beginning and the refills are strictly
more than the interval apart; after `k` refills at most `k + 1` full buckets were granted; in a
closed window of the length of the interval at most two full buckets are granted; and no more
callers go on than were granted a token. Every bucket of a session has such a history, which goes
on as the session goes on. A rate limited operation starts its inner operation, whatever that is,
only with a start of its own; and a source that is invoked in such layers alone is invoked at most
as often as callers went on with a token. -/
theorem tokens_conserved :
    (∀ (config : Config) (created : Instant) (moves : List Move),
      let h := History.run config created moves
      h.bucket.tokens + grantsSinceRefill h.ledger = max config.rate 1 ∧
        ((created :: refills h.ledger).Pairwise fun a b =>
          config.interval.nanos < (Instant.since b a).nanos) ∧
        grants h.ledger ≤ ((refills h.ledger).length + 1) * max config.rate 1 ∧
        (∀ start, grantsWithin h.ledger start config.interval.nanos ≤ 2 * max config.rate 1) ∧
        starts h.ledger ≤ grants h.ledger) ∧
    (∀ (s : Session) (id : ComponentId) (c : Component Config Bucket),
      s.Reachable → s.world.buckets.get? id = some c →
      ∃ created moves,
        Shows id c.state s.world.now s.holds (History.run c.config created moves) ∧
        ∀ sc, Steps s.scene sc → ∃ (more : List Move) (b : Bucket),
          sc.world.buckets.get? id = some { c with state := b } ∧
            Shows id b sc.world.now sc.holds (History.run c.config created (moves ++ more))) ∧
    (∀ (bucket : ComponentId) (inner : Operation) (task : TaskId) (arg : Json) (w : World)
      (ledger : List Mark), Accounts bucket w ledger →
      PaidStart bucket inner task arg ledger
          ((Operation.rateLimited inner bucket).start task arg w) ∧
        ∀ ticket, PaidStart bucket inner task arg ledger
          ((Call.awaitingToken bucket ticket inner arg).resume task w)) ∧
    (∀ (bucket goods : ComponentId) (w : World) (calls : List Call), Trade bucket goods w calls →
      ∃ ledger, Accounts bucket w ledger ∧
        w.invoked goods ≤ starts ledger ∧ starts ledger ≤ grants ledger) := by
  refine ⟨fun config created moves => ?_, fun s id c hs hc => ?_,
    fun bucket inner task arg w ledger haccount => ?_, fun bucket goods w calls htrade => ?_⟩
  · have hbalanced := (History.sound_run config created moves).balanced
    have hgrants := (Nat.le_add_right ..).trans hbalanced.total
    have hstarts := (Nat.le_add_right ..).trans hbalanced.started
    exact ⟨hbalanced.balance, hbalanced.apart, hgrants, hbalanced.window, hstarts⟩
  · obtain ⟨-, hreach⟩ := hs.valid_scene
    obtain ⟨created, moves, hshows⟩ := exists_history hreach hc
    refine ⟨created, moves, hshows, fun sc hsteps => ?_⟩
    obtain ⟨b, hb, more, hmore⟩ := Shows.steps hreach hsteps hc hshows
    exact ⟨more, b, hb, hmore⟩
  · exact ⟨paidStart_start inner task arg haccount,
      fun ticket => paidStart_resume inner task arg ticket haccount⟩
  -- A trade is covered: every invocation of the source was paid for with a start.
  · obtain ⟨⟨-, ledger, haccount, hle⟩, -⟩ := htrade.covered
    exact ⟨ledger, haccount, hle, haccount.starts_le⟩

/-! ### Two calls for one token -/

/-- A world with a bucket of one token and a source behind it. -/
def market : World :=
  ((World.createBucket "t" ⟨1, .ofMillis 5⟩ { settings := {} }).2.createSource "s" []).2

/-- The source behind the bucket. -/
def ware : Operation := .rateLimited (.source 1) 0

/-- One call had the token, a second waits in line, and a refill serves it later. -/
def served : World :=
  (((ware.start 8 .null (ware.start 7 .null market).2).2.pass 6).refillBucket 0).2

/-- The second call has gone on. -/
def sold : World := ((Call.awaitingToken 0 2 (.source 1) .null).resume 8 served).2

theorem trade_sold : Trade 0 1 sold [] := by
  have hpays : ware.PaysFor 0 1 := .inr ⟨rfl, rfl⟩
  have hmarket : Scene.Reachable ⟨market, 0⟩ :=
    ((Scene.Reachable.empty {} true).act (.createBucket "t" ⟨1, .ofMillis 5⟩)).act
      (.createSource "s" [])
  have hopens : Trade 0 1 market [] := .opens hmarket rfl rfl rfl
  have hboth : Trade 0 1 _ [Call.awaitingToken 0 2 (.source 1) .null] :=
    (hopens.start 7 .null hpays).start 8 .null hpays
  have hpass : Trade 0 1 (World.pass 6 _) _ := hboth.act (fun H => ⟨H, H, le_rfl, .pass 6⟩) rfl
  have hserved : Trade 0 1 served ([] ++ Call.awaitingToken 0 2 (.source 1) .null :: []) :=
    hpass.act (fun H => ⟨H, H, le_rfl, .refillBucket 0⟩) rfl
  exact hserved.resume 8

/-- A session in which one caller took the token of a bucket and another waits for the next. -/
def oneTaken : Session :=
  (((Session.create {} false).performAll ⟨toString, toString⟩
    [.bucket "t" (some ⟨1, .ofMillis 5⟩) .own, .take "t" "a", .take "t" "b"]).2.turn 2).turn 3

theorem oneTaken_reachable : oneTaken.Reachable := by
  have hstart := (Session.Reachable.create {} false).performAll ⟨toString, toString⟩
    [.bucket "t" (some ⟨1, .ofMillis 5⟩) .own, .take "t" "a", .take "t" "b"]
  exact (hstart.happens (.turn 2)).happens (.turn 3)

theorem tokens_conserved_sold :
    (sold.invoked 1 = 2 ∧ ∃ ledger, Accounts 0 sold ledger ∧
      2 ≤ starts ledger ∧ starts ledger ≤ grants ledger) ∧
    PaidStart 0 (.source 1) 7 .null [] (ware.start 7 .null market) ∧
    ∃ c, oneTaken.world.buckets.get? 0 = some c ∧ c.state = ⟨0, 0, [⟨4, 3, true⟩], [], false⟩ ∧
      ∃ created moves,
        Shows 0 c.state 0 oneTaken.holds (History.run c.config created moves) := by
  obtain ⟨-, hsession, hpaid, htrade⟩ := tokens_conserved
  have hmarket : Accounts 0 market [] := ⟨_, 0, [], rfl, rfl⟩
  have hstate : (oneTaken.world.buckets.get? 0).map Component.state =
      some ⟨0, 0, [⟨4, 3, true⟩], [], false⟩ := by decide +kernel
  obtain ⟨c, hc, hstate⟩ := Option.map_eq_some_iff.mp hstate
  obtain ⟨created, moves, hshows, -⟩ := hsession oneTaken 0 c oneTaken_reachable hc
  exact ⟨⟨rfl, htrade 0 1 sold [] trade_sold⟩, (hpaid 0 (.source 1) 7 .null market [] hmarket).1,
    c, hc, hstate, created, moves, hshows⟩

end Bucket

end Resilience
