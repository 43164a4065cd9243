import Resilience.Proofs.Breaker.History

/-!
# Changes of state and the events that tell of them

A breaker reports an event exactly when its state changes: `Change` says which event goes with
which change, and that no change goes without one. Everything a breaker can do is a `Change`, so
every move of a history is (`History.step_change`), and the events of a history tell its changes
one by one (`History.reported_tells`). Whoever hears them knows the state
(`History.replay_reported`).
-/

namespace Resilience

/-- The breaker that an event is about. -/
def Event.breaker? : Event → Option String
  | breakerOpened name _ => some name
  | breakerHalfOpen name => some name
  | breakerClosed name => some name
  | _ => none

/-- The state that an event tells of. -/
def Event.phase? : Event → Option Breaker.Phase
  | breakerOpened .. => some .opened
  | breakerHalfOpen _ => some .halfOpen
  | breakerClosed _ => some .closed
  | _ => none

/-- The state that a breaker is in after an event, for somebody who knew the state before. -/
def Breaker.Phase.hear (phase : Breaker.Phase) (event : Event) : Breaker.Phase :=
  event.phase?.getD phase

namespace Breaker

/-- A breaker goes from one state to another, and reports that. Without an event, it stays. -/
inductive Change (name : String) (b b' : Breaker) : Option Event → Prop
  | stays (h : b'.phase = b.phase) : Change name b b' none
  | trips (h : b.phase ≠ .opened) (h' : b'.phase = .opened) :
      Change name b b' (some (.breakerOpened name b'.failureCount))
  | tries (h : b.phase = .opened) (h' : b'.phase = .halfOpen) :
      Change name b b' (some (.breakerHalfOpen name))
  | closes (h : b.phase ≠ .closed) (h' : b'.phase = .closed) :
      Change name b b' (some (.breakerClosed name))

/-! ### Everything that a breaker does -/

variable (name : String) (config : Config) (now : Instant) (probe : Bool) (b : Breaker)

theorem enter_change :
    Change name b (enter name config now b).2.2 (enter name config now b).2.1 := by
  unfold enter
  cases hphase : b.phase with
  | closed => exact .stays rfl
  | opened =>
    dsimp only
    split
    · exact .tries hphase rfl
    · exact .stays rfl
  | halfOpen =>
    dsimp only
    split
    · exact .stays rfl
    · exact .stays hphase.symm

theorem recordSuccess_change :
    Change name b (recordSuccess name probe b).2 (recordSuccess name probe b).1 := by
  unfold recordSuccess
  cases hphase : b.phase with
  | closed => exact .stays hphase.symm
  | opened => exact .stays hphase.symm
  | halfOpen =>
    cases probe with
    | true => exact .closes (by simp [hphase]) rfl
    | false => exact .stays hphase.symm

/-- An open breaker does not trip. -/
theorem phase_ne_of_trips {config : Config} {probe : Bool} {phase : Phase} {count : Nat}
    (h : trips config probe phase count = true) : phase ≠ .opened := by
  rintro rfl
  cases h

theorem recordFailure_change : Change name b (recordFailure name config now probe b).2
    (recordFailure name config now probe b).1 := by
  unfold recordFailure
  dsimp only
  split
  · next htrips => exact .trips (phase_ne_of_trips htrips) rfl
  · exact .stays rfl

theorem reset_change : Change name b (reset name b).2 (reset name b).1 := by
  unfold reset
  split
  · next hclosed => exact .stays hclosed.symm
  · next hopen => exact .closes hopen rfl

variable {name config now probe b}

namespace Change

variable {b' : Breaker} {event? : Option Event} {event : Event}

/-- A breaker speaks of itself only. -/
theorem about (h : Change name b b' event?) (hevent : event ∈ event?) :
    event.breaker? = some name := by
  cases h <;> cases hevent <;> rfl

/-- The state after is what the event tells, or else what it was. -/
theorem heard (h : Change name b b' event?) :
    event?.toList.foldl Phase.hear b.phase = b'.phase := by
  cases h with
  | stays h => exact h.symm
  | trips _ h' => exact h'.symm
  | tries _ h' => exact h'.symm
  | closes _ h' => exact h'.symm

end Change

/-! ### Histories -/

namespace History

variable (name config)

/-- The breaker after a call is the one that answered it. -/
theorem call_breaker (h : History) :
    (h.call name config).breaker = (enter name config h.now h.breaker).2.2 := by
  unfold call
  split <;> next henter => rw [henter]

/-- **Every move is a change that is reported, or changes no state.** -/
theorem step_change (h : History) (move : Move) :
    Change name h.breaker (h.step name config move).breaker (h.event? name config move) := by
  cases move with
  | call =>
    have hchange := enter_change name config h.now h.breaker
    rwa [← call_breaker] at hchange
  | settle n good =>
    simp only [step, settle, event?]
    cases h.calls[n]?.bind Standing.probing? with
    | none => exact .stays rfl
    | some probe =>
      cases good with
      | true => exact recordSuccess_change name probe h.breaker
      | false => exact recordFailure_change name config h.now probe h.breaker
  | lose n =>
    simp only [step, lose, event?]
    split
    · next probe _ => cases probe <;> exact .stays rfl
    · exact .stays rfl
  | clock now => exact .stays rfl
  | reset => exact reset_change name h.breaker

/-- The state before a move and after it, if that is another. -/
def change? (h : History) (move : Move) : Option (Phase × Phase) :=
  let before := h.breaker.phase
  let after := (h.step name config move).breaker.phase
  if after = before then none else some (before, after)

/-- The changes of state in a run, from some point of a history on. -/
def changes (h : History) (moves : List Move) : List (Phase × Phase) :=
  (watch name config (change? name config) h moves).reduceOption

/-- The changes that there are. -/
def possible : List (Phase × Phase) :=
  [(.closed, .opened), (.opened, .halfOpen), (.opened, .closed), (.halfOpen, .opened),
    (.halfOpen, .closed)]

variable {name config}

/-- A change of state that happens is one that there is, and the event says which. -/
theorem change?_of_change {h : History} {move : Move} {event? : Option Event}
    (hchange : Change name h.breaker (h.step name config move).breaker event?) :
    (change? name config h move).map (fun c => some c.2) = event?.map Event.phase? ∧
      ∀ c ∈ change? name config h move, c ∈ possible := by
  unfold change?
  dsimp only
  cases hchange with
  | stays h => simp [h]
  | trips h h' =>
    rw [h', if_neg h.symm]
    refine ⟨rfl, ?_⟩
    -- From any state but an open one.
    rintro c ⟨⟩
    cases hphase : Breaker.phase _ <;> simp_all [possible]
  | tries h h' =>
    rw [h, h']
    exact ⟨rfl, by rintro c ⟨⟩; decide⟩
  | closes h h' =>
    rw [h', if_neg h.symm]
    refine ⟨rfl, ?_⟩
    rintro c ⟨⟩
    cases hphase : Breaker.phase _ <;> simp_all [possible]

theorem changes_cons (h : History) (move : Move) (rest : List Move) :
    changes name config h (move :: rest) =
      (change? name config h move).toList ++
        changes name config (h.step name config move) rest := by
  cases hchange : change? name config h move <;> simp [changes, watch, hchange]

variable (name config)

/-- **The events of a run tell its changes of state, one by one and in order.** -/
theorem reported_tells (h : History) (moves : List Move) :
    (reported name config h moves).map Event.phase? =
      (changes name config h moves).map fun c => some c.2 := by
  induction moves generalizing h with
  | nil => rfl
  | cons move rest ih =>
    obtain ⟨htells, -⟩ := change?_of_change (step_change name config h move)
    -- The first move reports at most one event, and exactly for a change.
    have hfirst := congrArg Option.toList htells
    rw [Option.toList_map, Option.toList_map] at hfirst
    rw [reported_cons, changes_cons, List.map_append, List.map_append, ih, hfirst]

theorem changes_possible (h : History) (moves : List Move) :
    ∀ c ∈ changes name config h moves, c ∈ possible := by
  induction moves generalizing h with
  | nil =>
    intro c hc
    cases hc
  | cons move rest ih =>
    obtain ⟨-, hpossible⟩ := change?_of_change (step_change name config h move)
    intro c hc
    rw [changes_cons, List.mem_append, Option.mem_toList] at hc
    exact hc.elim (hpossible c) (ih _ c)

/-- **Whoever hears the events of a run knows the state after it.** -/
theorem replay_reported (h : History) (moves : List Move) :
    (reported name config h moves).foldl Phase.hear h.breaker.phase =
      (moves.foldl (step name config) h).breaker.phase := by
  induction moves generalizing h with
  | nil => rfl
  | cons move rest ih =>
    rw [reported_cons, List.foldl_append, (step_change name config h move).heard, ih]
    rfl

end History

end Breaker

end Resilience
