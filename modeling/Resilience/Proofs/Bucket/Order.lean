import Resilience.Proofs.Bucket.Callers
import Resilience.Proofs.Bucket.Rate
import Mathlib.Data.List.Sort

/-!
# First come, first served

A bucket looks at its line in one place only, when a refill is due. The refill fills the bucket
and serves the line from the front, one token for each caller that still waits, and places of
callers that went away cost nothing. What is left over is left for those who come later, and there
is something left only if nobody waits any more. So a caller that finds a token has nobody to
overtake, although it takes the token without a look at the line; and tokens are handed out in the
order in which callers came, whatever mixture of refills by background work and refills by callers
led there.

The law of one refill holds in every state. The order of several is read off `Register.Sound`:
the visits that were handed a token, in the order in which they were, have rising numbers, and
those that wait have greater ones.
-/

namespace Resilience

namespace Bucket

open Register

/-- Of two visits, the one that came first is handed a token first, or ended before. -/
theorem Register.Sound.first_come {r : Register} (hs : Sound r) {i j : Nat} {x y : Visit}
    (hij : i < j) (hx : r.visits[i]? = some x) (hy : r.visits[j]? = some y)
    (hserved : y.served = true) :
    (x.served = true ∧ List.Sublist [i, j] r.handed) ∨ x = .gaveUp ∨ x = .refused ∨
      ∃ ticket, x = .dismissed ticket := by
  have hj : j ∈ r.handed := (hs.listed.served_iff j).mpr ⟨y, hy, hserved⟩
  by_cases hxs : x.served = true
  · have hi : i ∈ r.handed := (hs.listed.served_iff i).mpr ⟨x, hx, hxs⟩
    have hpair : [i, j].Pairwise (· < ·) := by simpa using hij
    have hsub : [i, j].Subperm r.handed :=
      List.subperm_of_subset (hpair.imp Nat.ne_of_lt) (by simp [hi, hj])
    exact .inl ⟨hxs, List.sublist_of_subperm_of_pairwise hsub (hpair.imp Nat.le_of_lt)
      (hs.listed.sorted.imp Nat.le_of_lt)⟩
  · -- Somebody in line would have come after everybody that was handed a token.
    cases x with
    | waiting ticket => exact absurd (hs.listed.behind i ticket hx j hj) (Nat.lt_asymm hij)
    | dismissed ticket => exact .inr (.inr (.inr ⟨ticket, rfl⟩))
    | gaveUp => exact .inr (.inl rfl)
    | refused => exact .inr (.inr (.inl rfl))
    | granted | inside | lost => exact absurd rfl hxs

/-- **First come, first served.** In every history of a bucket there is no line while there are
tokens, and those who wait stand in line in the order in which they came. A refill that is due,
with `n` the lesser of the rate, or one if that is zero, and the number of those who wait, hands
tokens to the first `n` of them, says so, leaves the rest of a full bucket and leaves the others
in line as they were; one that is not due does nothing. A caller that finds a token comes when
everybody who waited has been served. So tokens are handed out in the order in which callers came:
of two callers, if the later one was handed a token, the earlier one was handed one before it or
was cancelled or refused. Every bucket of a scene has such a history, which goes on as the scene
goes on, and every session is a scene. -/
theorem tokens_in_order :
    (∀ (config : Config) (created : Instant) (moves : List Move),
      let r := Register.run config created moves
      let line := r.visits.filterMap Visit.waiting?
      let rate := max config.rate 1
      let refilled := r.bucket.refill config r.now
      (0 < r.bucket.tokens → r.bucket.queue = []) ∧
        Queue.waiting r.bucket.queue = line ∧
        (r.bucket.refillDue config r.now = true →
          let n := min rate line.length
          refilled.1.length = n ∧ refilled.1.map (·.ticket) = line.take n ∧
            refilled.2.granted = r.bucket.granted ++ line.take n ∧
            refilled.2.tokens = rate - n ∧ Queue.waiting refilled.2.queue = line.drop n) ∧
        (r.bucket.refillDue config r.now = false → refilled = ([], r.bucket)) ∧
        (∀ w, let asked := r.bucket.acquire config r.now w
          asked.1 = .admitted → asked.2.1.map (·.ticket) = line ∧ asked.2.2.queue = []) ∧
        r.handed.Pairwise (· < ·) ∧
        ∀ (i j : Nat) (x y : Visit), i < j → r.visits[i]? = some x → r.visits[j]? = some y →
          y.served = true → (x.served = true ∧ List.Sublist [i, j] r.handed) ∨ x = .gaveUp ∨
            x = .refused ∨ ∃ ticket, x = .dismissed ticket) ∧
    (∀ (sc : Scene) (id : ComponentId) (c : Component Config Bucket),
      sc.Reachable → sc.world.buckets.get? id = some c →
      let line := Queue.waiting c.state.queue
      let rate := max c.config.rate 1
      let refilled := sc.world.refillBucket id
      (0 < c.state.tokens → c.state.queue = []) ∧
        (c.state.refillDue c.config sc.world.now = true →
          refilled.1 = min rate line.length ∧
            ∃ b, refilled.2.buckets.get? id = some { c with state := b } ∧
              b.tokens = rate - refilled.1 ∧
              b.granted = c.state.granted ++ line.take refilled.1 ∧
              Queue.waiting b.queue = line.drop refilled.1 ∧
              ∀ w ∈ (Queue.purge c.state.queue).take refilled.1, w.caller ∈ refilled.2.ready) ∧
        (c.state.refillDue c.config sc.world.now = false →
          refilled.1 = 0 ∧ refilled.2.buckets.get? id = some c) ∧
        ∃ created moves,
          Register.Shows id c.state sc.world.now sc.holds (Register.run c.config created moves) ∧
          ∀ sc', Steps sc sc' → ∃ (more : List Move) (b : Bucket),
            sc'.world.buckets.get? id = some { c with state := b } ∧
              Register.Shows id b sc'.world.now sc'.holds
                (Register.run c.config created (moves ++ more))) ∧
    (∀ s : Session, s.Reachable → s.scene.Reachable) := by
  refine ⟨fun config created moves => ?_, fun sc id c hsc hc => ?_, fun s hs => hs.valid_scene.2⟩
  · have hs := sound_run config created moves
    have hline := hs.listed.line
    refine ⟨hs.idle, hline.symm, fun hdue => ?_, refill_of_not_due, fun w hadmitted => ?_,
      hs.listed.sorted, fun i j x y => hs.first_come⟩
    · have hr := refilled_of_due hdue
      have hn := hr.length_served
      rw [hline, ← hn]
      exact ⟨rfl, hr.tickets_served, hr.tickets_served ▸ hr.granted, hr.tokens, hr.waiting_rest⟩
    · obtain ⟨-, hask⟩ | ⟨-, htokens, hask⟩ | ⟨-, -, hask⟩ :=
        acquire_cases config (Register.run config created moves).now w
          (Register.run config created moves).bucket
      · rw [hask] at hadmitted
        cases hadmitted
      · -- The refill that was due left tokens, so it left nobody in line.
        have hrefill := hs.refill config
        rw [refill_eq] at hrefill
        have hempty := hrefill.idle htokens
        have hleft := waiting_refill config (Register.run config created moves).now
          (Register.run config created moves).bucket
        rw [hempty, Queue.waiting_nil, List.append_nil] at hleft
        rw [hask]
        exact ⟨hleft.symm.trans hline.symm, hempty⟩
      · rw [hask] at hadmitted
        cases hadmitted
  -- A bucket of a scene is in the state to which one of these histories leads.
  · obtain ⟨created, moves, hshows⟩ := exists_register hsc hc
    have hs := sound_run c.config created moves
    have hidle := hs.idle
    rw [hshows.state] at hidle
    rw [World.refillBucket_of_some hc]
    refine ⟨hidle, fun hdue => ?_, fun hnot => ?_, created, moves, hshows, fun sc' hsteps => ?_⟩
    · have hr := refilled_of_due hdue
      refine ⟨hr.length_served, _, ?_, hr.tokens, hr.tickets_served ▸ hr.granted, hr.waiting_rest,
        fun w hw => ?_⟩
      · rw [World.buckets_wakeAll, Table.get?_set, if_pos rfl]
      · rw [hr.take_length_served] at hw
        exact World.mem_ready_wakeAll hw
    · rw [refill_of_not_due hnot]
      refine ⟨rfl, ?_⟩
      rw [World.buckets_wakeAll, Table.get?_set, if_pos rfl]
    · obtain ⟨b, hb, more, hmore⟩ := Register.Shows.steps hsc hsteps hc hshows
      exact ⟨more, b, hb, hmore⟩

/-- Three callers come to a bucket with one token, the second is cancelled in line, and time
passes. -/
def leftBehind : List Move := [.ask 0 0, .ask 1 1, .ask 2 2, .giveUp 1, .pass 6]

/-- The next token goes to the third caller. In a session with one caller in line, the first refill
serves that caller. -/
theorem tokens_in_order_left_behind :
    ((Register.run ⟨1, .ofMillis 5⟩ 0 leftBehind).bucket.refill ⟨1, .ofMillis 5⟩ 6).1.map
        (·.ticket) = [2] ∧
    (Register.run ⟨1, .ofMillis 5⟩ 0 (leftBehind ++ [.refill])).visits =
        [.inside, .gaveUp, .granted 2] ∧
    List.Sublist [0, 2] (Register.run ⟨1, .ofMillis 5⟩ 0 (leftBehind ++ [.refill])).handed ∧
    ((oneTaken.world.pass 6).refillBucket 0).1 = 1 := by
  obtain ⟨hhistory, hscene, hsession⟩ := tokens_in_order
  refine ⟨?_, by decide, ?_, ?_⟩
  · obtain ⟨-, -, hdue, -⟩ := hhistory ⟨1, .ofMillis 5⟩ 0 leftBehind
    obtain ⟨-, hserved, -⟩ := hdue (by decide)
    exact hserved.trans (by decide)
  · obtain ⟨-, -, -, -, -, -, horder⟩ :=
      hhistory ⟨1, .ofMillis 5⟩ 0 (leftBehind ++ [.refill])
    have hfirst := horder 0 2 .inside (.granted 2) (by decide) (by decide) (by decide) (by decide)
    simpa [Visit.served] using hfirst
  · have hreach : Scene.Reachable ⟨oneTaken.world.pass 6, oneTaken.holds⟩ :=
      (hsession oneTaken oneTaken_reachable).act (.pass 6)
    have hstate : ((oneTaken.world.pass 6).buckets.get? 0).map (fun c => (c.config, c.state)) =
        some (⟨1, .ofMillis 5⟩, ⟨0, 0, [⟨4, 3, true⟩], [], false⟩) := by decide +kernel
    obtain ⟨⟨name, config, state⟩, hc, heq⟩ := Option.map_eq_some_iff.mp hstate
    obtain ⟨rfl, rfl⟩ : config = ⟨1, .ofMillis 5⟩ ∧ state = ⟨0, 0, [⟨4, 3, true⟩], [], false⟩ := by
      simpa using heq
    obtain ⟨-, hdue, -⟩ := hscene _ 0 _ hreach hc
    have hnow : (oneTaken.world.pass 6).now = 6 := by decide +kernel
    have hpassed : refillDue ⟨1, .ofMillis 5⟩ 6 ⟨0, 0, [⟨4, 3, true⟩], [], false⟩ = true := by
      decide
    obtain ⟨hserved, -⟩ := hdue (hnow ▸ hpassed)
    exact hserved

end Bucket

end Resilience
