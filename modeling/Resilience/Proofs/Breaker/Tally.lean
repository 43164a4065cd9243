import Resilience.Proofs.Breaker.Replay
import Mathlib.Data.List.Induction

/-!
# What a breaker counts

A breaker counts its failures since it was last **cleared**: by a success while it was closed, by
being closed again, or by hand. `History.streak` is that number, taken from what happened and not
from the breaker. The count of the breaker is the same number, except that it stops at the
greatest 32-bit number.

Failures that come late, when the breaker is open or half open, are counted as well and decide
nothing; still the count never falls behind the state. A breaker is closed exactly while its
count is below the threshold, and one that is not closed has the time of a failure on record
(`counted_failures`).
-/

namespace Resilience

namespace Breaker

/-! ### Counting -/

/-- What a move means to the count of failures. -/
inductive Tally where
  | failure
  | clear
  | nothing
deriving DecidableEq, Repr

namespace History

variable (name : String) (config : Config)

/-- Whether a move is that an admitted call settles, and how. -/
def settles? (h : History) : Move → Option Bool
  | .settle n good => (h.calls[n]?.bind Standing.probing?).map fun _ => good
  | _ => none

/-- Whether a move clears the count: a success in a closed breaker, a breaker that is closed
again, a reset. -/
def Clears (h : History) (move : Move) : Prop :=
  h.settles? move = some true ∧ h.breaker.phase = .closed ∨
    h.breaker.phase ≠ .closed ∧ (h.step name config move).breaker.phase = .closed ∨
    move = .reset

instance (h : History) (move : Move) : Decidable (h.Clears name config move) :=
  inferInstanceAs (Decidable (_ ∨ _ ∨ _))

/-- What a move means to the count of failures. -/
def tally (h : History) (move : Move) : Tally :=
  if h.Clears name config move then .clear
  else if h.settles? move = some false then .failure
  else .nothing

/-- How many failures there were since the count was last cleared, the latest entry last. -/
def failures (tallies : List Tally) : Nat :=
  (tallies.reverse.takeWhile (· ≠ .clear)).count .failure

/-- How many failures there were in a run since the count was last cleared. -/
def streak (moves : List Move) : Nat :=
  failures (watch name config (tally name config) {} moves)

variable {name config}

theorem failures_concat (tallies : List Tally) (tally : Tally) :
    failures (tallies ++ [tally]) =
      match tally with
      | .failure => failures tallies + 1
      | .clear => 0
      | .nothing => failures tallies := by
  cases tally <;> simp [failures]

end History

/-- A breaker that has counted this many failures is in the state that they put it in. -/
structure Counted (config : Config) (failures : Nat) (b : Breaker) : Prop where
  count : b.failureCount = min failures maxHalfWord
  closed_iff : b.phase = .closed ↔ b.failureCount < config.threshold
  failed : b.phase ≠ .closed → ∃ failedAt, b.lastFailure = some failedAt

namespace Counted

variable {config : Config} {n : Nat} {b b' : Breaker}

/-- A step that counts nothing. -/
theorem keep (hc : Counted config n b) (hphase : b'.phase = .closed ↔ b.phase = .closed)
    (hcount : b'.failureCount = b.failureCount) (hlast : b'.lastFailure = b.lastFailure) :
    Counted config n b' where
  count := hcount.trans hc.count
  closed_iff := by rw [hphase, hcount]; exact hc.closed_iff
  failed hopen := hlast ▸ hc.failed fun hclosed => hopen (hphase.mpr hclosed)

/-- A closed breaker that has counted nothing. -/
theorem clear (hphase : b.phase = .closed) (hcount : b.failureCount = 0) :
    Counted config 0 b where
  count := by rw [hcount, Nat.zero_min]
  closed_iff := by
    have hpos : 0 < config.threshold := Nat.lt_of_lt_of_le Nat.one_pos (Nat.le_max_right ..)
    exact iff_of_true hphase (hcount ▸ hpos)
  failed hopen := absurd hphase hopen

/-- **A failure counts one more, in every state.** -/
theorem fail (hc : Counted config n b) (name : String) (now : Instant) (probe : Bool) :
    Counted config (n + 1) (recordFailure name config now probe b).2 := by
  have hcount : min (b.failureCount + 1) maxHalfWord = min (n + 1) maxHalfWord := by
    rw [hc.count]
    omega
  have hgrows : b.failureCount ≤ min (b.failureCount + 1) maxHalfWord := by
    have hle : b.failureCount ≤ maxHalfWord := hc.count ▸ Nat.min_le_right ..
    omega
  have hclosed := hc.closed_iff
  -- Counting never takes the count back below the threshold, so only the closed case looks at it.
  unfold recordFailure
  dsimp only
  split
  · next htrips =>
    refine ⟨hcount, iff_of_false (by simp) (Nat.not_lt.mpr ?_), fun _ => ⟨now, rfl⟩⟩
    cases hphase : b.phase with
    | closed => simpa [trips, hphase] using htrips
    | opened => simp [trips, hphase] at htrips
    | halfOpen =>
      have hover : ¬ b.failureCount < config.threshold := by simp [← hclosed, hphase]
      exact (Nat.not_lt.mp hover).trans hgrows
  · next hstays =>
    refine ⟨hcount, ?_, fun _ => ⟨now, rfl⟩⟩
    cases hphase : b.phase with
    | closed =>
      simp only [trips, hphase, decide_eq_true_eq, Nat.not_le] at hstays
      exact iff_of_true rfl hstays
    | opened | halfOpen =>
      have hover : ¬ b.failureCount < config.threshold := by simp [← hclosed, hphase]
      exact iff_of_false (by simp) (Nat.not_lt.mpr ((Nat.not_lt.mp hover).trans hgrows))

/-- A call that asks counts nothing, also when it makes an open breaker half open. -/
theorem enter (hc : Counted config n b) (name : String) (now : Instant) :
    Counted config n (Breaker.enter name config now b).2.2 := by
  unfold Breaker.enter
  cases hphase : b.phase with
  | closed => exact hc
  | opened =>
    dsimp only
    split
    · exact hc.keep (by simp [hphase]) rfl rfl
    · exact hc
  | halfOpen =>
    dsimp only
    split
    · exact hc
    · exact hc.keep (by simp [hphase]) rfl rfl

end Counted

/-! ### Counting in a history -/

namespace History

variable {name : String} {config : Config} {h : History}

theorem tally_eq_clear {move : Move} (hclears : h.Clears name config move) :
    h.tally name config move = .clear := if_pos hclears

/-- A move that settles nothing, is no reset and closes nothing counts nothing. -/
theorem tally_eq_nothing {move : Move} (hsettles : h.settles? move = none) (hreset : move ≠ .reset)
    (hcloses : (h.step name config move).breaker.phase = .closed → h.breaker.phase = .closed) :
    h.tally name config move = .nothing := by
  have hclears : ¬ h.Clears name config move := by
    rintro (⟨hgood, -⟩ | ⟨hopen, hclosed⟩ | heq)
    · rw [hsettles] at hgood
      cases hgood
    · exact hopen (hcloses hclosed)
    · exact hreset heq
  rw [tally, if_neg hclears, hsettles, if_neg (by simp)]

theorem settles?_settle {n : Nat} {good probe : Bool}
    (hn : h.calls[n]?.bind Standing.probing? = some probe) :
    h.settles? (.settle n good) = some good := by simp [settles?, hn]

/-- A settlement moves the breaker on. -/
theorem breaker_settle (name : String) (config : Config) {n : Nat} (good : Bool) {probe : Bool}
    (hn : h.calls[n]?.bind Standing.probing? = some probe) :
    (h.step name config (.settle n good)).breaker =
      (if good then recordSuccess name probe h.breaker
        else recordFailure name config h.now probe h.breaker).2 := by
  simp only [step, settle, hn]

/-- A call that goes away leaves the state, the count and the last failure as they are. -/
theorem breaker_lose (h : History) (n : Nat) :
    (h.lose n).breaker = h.breaker ∨ (h.lose n).breaker = h.breaker.probeLost := by
  unfold lose
  split
  · next probe _ => cases probe <;> simp
  · exact .inl rfl

/-- A call that asks neither closes nor trips a breaker. -/
theorem enter_closed_iff (now : Instant) (b : Breaker) :
    (enter name config now b).2.2.phase = .closed ↔ b.phase = .closed := by
  unfold enter
  cases hphase : b.phase with
  | closed => exact Iff.of_eq (by rw [hphase])
  | opened =>
    dsimp only
    split <;> simp [hphase]
  | halfOpen =>
    dsimp only
    split <;> simp [hphase]

/-- A failure closes no breaker. -/
theorem closed_of_recordFailure {now : Instant} {probe : Bool} {b : Breaker}
    (hclosed : (recordFailure name config now probe b).2.phase = .closed) : b.phase = .closed := by
  unfold recordFailure at hclosed
  dsimp only at hclosed
  split at hclosed
  · cases hclosed
  · exact hclosed

/-- A success leaves the breaker closed and its count at zero, or changes neither. -/
theorem recordSuccess_cases (name : String) (probe : Bool) (b : Breaker) :
    ((recordSuccess name probe b).2.phase = .closed ∧
      (recordSuccess name probe b).2.failureCount = 0) ∨
    (b.phase ≠ .closed ∧ (recordSuccess name probe b).2.phase = b.phase ∧
      (recordSuccess name probe b).2.failureCount = b.failureCount ∧
      (recordSuccess name probe b).2.lastFailure = b.lastFailure) := by
  unfold recordSuccess
  cases hphase : b.phase with
  | closed => exact .inl ⟨rfl, rfl⟩
  | opened => exact .inr ⟨by simp, rfl, rfl, rfl⟩
  | halfOpen =>
    cases probe with
    | true => exact .inl ⟨rfl, rfl⟩
    | false => exact .inr ⟨by simp, rfl, rfl, rfl⟩

/-- **Every move counts what its tally says.** -/
theorem counted_step {tallies : List Tally} (hc : Counted config (failures tallies) h.breaker)
    (move : Move) : Counted config (failures (tallies ++ [h.tally name config move]))
      (h.step name config move).breaker := by
  -- A move that counts nothing.
  have hnothing (hsettles : h.settles? move = none) (hreset : move ≠ .reset)
      (hphase : (h.step name config move).breaker.phase = .closed ↔ h.breaker.phase = .closed)
      (hkeep : Counted config (failures tallies) (h.step name config move).breaker) :
      Counted config (failures (tallies ++ [h.tally name config move]))
        (h.step name config move).breaker := by
    rwa [tally_eq_nothing hsettles hreset hphase.mp, failures_concat]
  cases move with
  | call =>
    refine hnothing rfl (by simp) ?_ ?_
    · rw [step, call_breaker]
      exact enter_closed_iff ..
    · rw [step, call_breaker]
      exact hc.enter name h.now
  | settle n good =>
    cases hn : h.calls[n]?.bind Standing.probing? with
    | none =>
      have hsame : h.step name config (.settle n good) = h := by simp only [step, settle, hn]
      exact hnothing (by simp [settles?, hn]) (by simp) (by rw [hsame]) (by rwa [hsame])
    | some probe =>
      have hsettles : h.settles? (.settle n good) = some good := settles?_settle hn
      have hbreaker := breaker_settle name config good hn
      cases good with
      | false =>
        -- A failure is a failure in every state: it closes nothing, so it never clears.
        have htally : h.tally name config (.settle n false) = .failure := by
          refine (if_neg ?_).trans (if_pos hsettles)
          rintro (⟨hgood, -⟩ | ⟨hopen, hclosed⟩ | heq)
          · rw [hsettles] at hgood
            cases hgood
          · rw [hbreaker] at hclosed
            exact hopen (closed_of_recordFailure hclosed)
          · cases heq
        rw [htally, failures_concat, hbreaker]
        exact hc.fail name h.now probe
      | true =>
        -- A success clears the count of a closed breaker, and as the probe closes a half open one.
        obtain ⟨hclosed, hzero⟩ | ⟨hopen, hphase, hcount, hlast⟩ :=
          recordSuccess_cases name probe h.breaker
        · have htally : h.tally name config (.settle n true) = .clear := by
            by_cases hwas : h.breaker.phase = .closed
            · exact tally_eq_clear (.inl ⟨hsettles, hwas⟩)
            · exact tally_eq_clear (.inr (.inl ⟨hwas, hbreaker ▸ hclosed⟩))
          rw [htally, failures_concat, hbreaker]
          exact .clear hclosed hzero
        · have htally : h.tally name config (.settle n true) = .nothing := by
            refine (if_neg ?_).trans (if_neg (by simp [hsettles]))
            rintro (⟨-, hclosed⟩ | ⟨-, hclosed⟩ | heq)
            · exact hopen hclosed
            · rw [hbreaker] at hclosed
              exact hopen (hphase ▸ hclosed)
            · cases heq
          rw [htally, failures_concat, hbreaker]
          exact hc.keep (Iff.of_eq (congrArg (· = _) hphase)) hcount hlast
  | lose n =>
    have hsame : (h.lose n).breaker.phase = h.breaker.phase ∧
        (h.lose n).breaker.failureCount = h.breaker.failureCount ∧
        (h.lose n).breaker.lastFailure = h.breaker.lastFailure := by
      obtain heq | heq := h.breaker_lose n <;> rw [heq] <;> exact ⟨rfl, rfl, rfl⟩
    obtain ⟨hphase, hcount, hlast⟩ := hsame
    have hiff : (h.lose n).breaker.phase = .closed ↔ h.breaker.phase = .closed := by rw [hphase]
    exact hnothing rfl (by simp) hiff (hc.keep hiff hcount hlast)
  | clock now => exact hnothing rfl (by simp) Iff.rfl hc
  | reset =>
    rw [tally_eq_clear (.inr (.inr rfl)), failures_concat]
    exact .clear rfl rfl

theorem streak_concat (moves : List Move) (move : Move) :
    streak name config (moves ++ [move]) =
      failures (watch name config (tally name config) {} moves ++
        [(run name config moves).tally name config move]) := by
  rw [streak, watch_concat]

/-- **Every run counts its failures since the last clear.** -/
theorem counted_run (name : String) (config : Config) (moves : List Move) :
    Counted config (streak name config moves) (run name config moves).breaker := by
  -- The number of failures is that of the moves so far, so each move is put at their end.
  induction moves using List.reverseRecOn with
  | nil => exact .clear rfl rfl
  | append_singleton moves move ih =>
    rw [streak_concat, run_concat]
    exact counted_step ih move

end History

namespace Counted

variable {config : Config} {n : Nat} {b : Breaker}

/-- The number of failures decides whether the breaker is closed. -/
theorem closed_iff_min (hc : Counted config n b) :
    b.phase = .closed ↔ min n maxHalfWord < config.threshold := by
  rw [hc.closed_iff, hc.count]

/-- While a breaker is closed, its count is the number of failures, if the threshold is one that
the counter can reach. -/
theorem count_eq (hc : Counted config n b) (hthreshold : config.failureThreshold ≤ maxHalfWord)
    (hclosed : b.phase = .closed) : b.failureCount = n := by
  have hless := hc.closed_iff.mp hclosed
  have hcount := hc.count
  have hone : 1 ≤ maxHalfWord := by decide
  rw [Config.threshold] at hless
  omega

/-- A failure of a closed breaker trips it exactly when it is the one that makes the number
full. -/
theorem tripped_iff {b' : Breaker} (hc : Counted config n b) (hc' : Counted config (n + 1) b')
    (hthreshold : config.failureThreshold ≤ maxHalfWord) (hclosed : b.phase = .closed) :
    b'.phase ≠ .closed ↔ n + 1 = config.threshold := by
  have hless := hc.closed_iff_min.mp hclosed
  have hone : 1 ≤ maxHalfWord := by decide
  rw [Ne, hc'.closed_iff_min]
  rw [Config.threshold] at hless ⊢
  omega

end Counted

open History in
/-- **Only failures trip a closed breaker, and the one that fills the threshold does.** -/
theorem History.leaves_closed_iff {name : String} {config : Config} {moves : List Move}
    (hthreshold : config.failureThreshold ≤ maxHalfWord)
    (hclosed : (run name config moves).breaker.phase = .closed) (move : Move) :
    ((run name config moves).step name config move).breaker.phase ≠ .closed ↔
      (run name config moves).tally name config move = .failure ∧
        streak name config moves + 1 = config.threshold := by
  have hc := counted_run name config moves
  have hc' := counted_run name config (moves ++ [move])
  rw [run_concat, streak_concat, failures_concat] at hc'
  -- The tallies before and after this move differ by what it counts.
  cases htally : (run name config moves).tally name config move with
  | failure =>
    rw [htally] at hc'
    exact (hc.tripped_iff hc' hthreshold hclosed).trans (by simp)
  | clear =>
    rw [htally] at hc'
    have hstays := hc'.closed_iff_min.mpr (by simp [Config.threshold])
    simp [hstays]
  | nothing =>
    rw [htally] at hc'
    have hstays := hc'.closed_iff_min.mpr (hc.closed_iff_min.mp hclosed)
    simp [hstays]

open History in
/-- **A breaker is closed exactly while its count is below the threshold.** In every history, in
every scene and in every session, that is so, and a breaker that is not closed has the time of a
failure on record. The count is the number of failures since the last clear, up to the greatest
32-bit number. So with a threshold of 32 bits it is exactly that number while the breaker is
closed, and what trips the breaker is the failure that fills the threshold. -/
theorem counted_failures :
    (∀ (name : String) (config : Config) (moves : List Move),
      let b := (run name config moves).breaker
      let failures := streak name config moves
      (b.phase = .closed ↔ b.failureCount < max config.failureThreshold 1) ∧
        (b.phase ≠ .closed → ∃ failedAt, b.lastFailure = some failedAt) ∧
        b.failureCount = min failures maxHalfWord ∧
        (config.failureThreshold ≤ maxHalfWord → b.phase = .closed →
          b.failureCount = failures ∧ ∀ move,
            (((run name config moves).step name config move).breaker.phase ≠ .closed ↔
              (run name config moves).tally name config move = .failure ∧
                failures + 1 = max config.failureThreshold 1))) ∧
    (∀ (sc : Scene) (name : String) (c : Component Config Breaker),
      sc.Reachable → sc.world.breakers.get? name = some c →
      (c.state.phase = .closed ↔ c.state.failureCount < max c.config.failureThreshold 1) ∧
        (c.state.phase ≠ .closed → ∃ failedAt, c.state.lastFailure = some failedAt) ∧
        ∃ moves, Shows name c.state sc.world.now sc.holds (run name c.config moves) ∧
          c.state.failureCount = min (streak name c.config moves) maxHalfWord ∧
          ∀ sc', Steps sc sc' → ∃ (more : List Move) (b : Breaker),
            sc'.world.breakers.get? name = some { c with state := b } ∧
              Shows name b sc'.world.now sc'.holds (run name c.config (moves ++ more))) ∧
    (∀ (s : Session) (name : String) (c : Component Config Breaker),
      s.Reachable → s.world.breakers.get? name = some c →
      s.scene.Reachable ∧
        (c.state.phase = .closed ↔ c.state.failureCount < max c.config.failureThreshold 1) ∧
        (c.state.phase ≠ .closed → ∃ failedAt, c.state.lastFailure = some failedAt)) := by
  -- What holds of every history holds of the breaker of a scene, which one of them shows.
  have hscene (sc : Scene) (name : String) (c : Component Config Breaker) (hsc : sc.Reachable)
      (hc : sc.world.breakers.get? name = some c) : ∃ moves,
      Shows name c.state sc.world.now sc.holds (run name c.config moves) ∧
        Counted c.config (streak name c.config moves) c.state := by
    obtain ⟨moves, hshows⟩ := exists_history hsc hc
    exact ⟨moves, hshows, hshows.state ▸ counted_run name c.config moves⟩
  refine ⟨fun name config moves => ?_, fun sc name c hsc hc => ?_, fun s name c hs hc => ?_⟩
  · have hcounted := counted_run name config moves
    exact ⟨hcounted.closed_iff, hcounted.failed, hcounted.count, fun hthreshold hclosed =>
      ⟨hcounted.count_eq hthreshold hclosed, leaves_closed_iff hthreshold hclosed⟩⟩
  · obtain ⟨moves, hshows, hcounted⟩ := hscene sc name c hsc hc
    refine ⟨hcounted.closed_iff, hcounted.failed, moves, hshows, hcounted.count,
      fun sc' hsteps => ?_⟩
    obtain ⟨b, hb, hon⟩ := goesOn_of_steps hsc hsteps hc
    obtain ⟨more, hmore, -⟩ := hon _ hshows
    exact ⟨more, b, hb, by rwa [run, List.foldl_append]⟩
  · obtain ⟨-, hreach⟩ := hs.valid_scene
    obtain ⟨moves, -, hcounted⟩ := hscene s.scene name c hreach hc
    exact ⟨hreach, hcounted.closed_iff, hcounted.failed⟩

/-- A breaker with a threshold of two has failed once, and another call is on its way. -/
def onceFailed : List Move := [.call, .settle 0 false, .call]

open History in
theorem counted_failures_once :
    (∀ move, ((run "b" ⟨2, .ofMillis 10⟩ onceFailed).step "b" ⟨2, .ofMillis 10⟩
        move).breaker.phase ≠ .closed ↔
      (run "b" ⟨2, .ofMillis 10⟩ onceFailed).tally "b" ⟨2, .ofMillis 10⟩ move = .failure ∧
        streak "b" ⟨2, .ofMillis 10⟩ onceFailed + 1 = 2) ∧
    ((run "b" ⟨2, .ofMillis 10⟩ onceFailed).step "b" ⟨2, .ofMillis 10⟩
      (.settle 1 false)).breaker.phase = .opened ∧
    ∃ c, tripped.Reachable ∧ tripped.world.breakers.get? "b" = some c ∧
      c.state.phase ≠ .closed ∧ (∃ failedAt, c.state.lastFailure = some failedAt) ∧
      ∃ moves, Shows "b" c.state tripped.world.now tripped.holds (run "b" c.config moves) ∧
        1 = min (streak "b" c.config moves) maxHalfWord := by
  obtain ⟨hhistory, hscene, hsession⟩ := counted_failures
  obtain ⟨-, -, -, htrips⟩ := hhistory "b" ⟨2, .ofMillis 10⟩ onceFailed
  obtain ⟨-, hmove⟩ := htrips (by decide) (by decide)
  obtain ⟨c, hc, -, hstate⟩ := breakers_tripped
  have hreach := (Session.Reachable.create {} true).run happens_tripped
  obtain ⟨hsc, -, hfailed⟩ := hsession tripped "b" c hreach hc
  obtain ⟨-, -, moves, hshows, hcount, -⟩ := hscene tripped.scene "b" c hsc hc
  have hopen : c.state.phase ≠ .closed := by simp [hstate]
  refine ⟨hmove, by decide, c, hreach, hc, hopen, hfailed hopen, moves, hshows, ?_⟩
  rwa [hstate] at hcount

end Breaker

end Resilience
