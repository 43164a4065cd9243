import Resilience.Proofs.Breaker.Scene
import Resilience.Proofs.Session.Commands

/-!
# The history of a breaker in the events

Whoever hears the events about a breaker, from the start and in order, knows its state at every
moment: there is one event for each change of state, and none without one (`told_history`). In a
session the events about a breaker are those of its history, whatever else is reported between
them.

The events are those of a world that records them and that nobody clears. What is told from some
later moment on goes with the history from there on in the same way (`goesOn_of_steps`).
-/

namespace Resilience

/-- Nothing is told about a breaker that is not there. -/
theorem BreakerAct.told_of_none {sc sc' : Scene} (h : BreakerAct sc sc') {name : String}
    (hnone : sc.world.breakers.get? name = none) :
    sc'.world.told name = sc.world.told name := by
  have helse {w w' : World} {other : String} {c : Component Breaker.Config Breaker}
      {event? : Option Event} (hmoves : w.BreakerMoves w' other c event?) (hne : other ≠ name) :
      w'.told name = w.told name := by simp [hmoves.told, hne]
  have hne {w : World} {other : String} {c : Component Breaker.Config Breaker}
      (hnone : w.breakers.get? name = none) (hc : w.breakers.get? other = some c) :
      other ≠ name := by
    rintro rfl
    rw [hnone] at hc
    cases hc
  cases h with
  | other hquiet => exact hquiet.told name
  | clock instant => rfl
  | create config _ hmoves => simp [hmoves.told]
  | enter hc hmoves => exact helse hmoves (hne hnone hc)
  | record _ hc hmoves => exact helse hmoves (hne hnone hc)
  | forgo hc hmoves => exact helse hmoves (hne hnone hc)
  | reset hc hmoves => exact helse hmoves (hne hnone hc)

namespace Breaker

open History

variable {name : String}

/-- What is told about a breaker is what its history reports. -/
theorem told_eq_reported (name : String) {settings : Settings} {sc : Scene}
    (h : Steps (Scene.empty settings true) sc) :
    (sc.world.breakers.get? name = none → sc.world.told name = []) ∧
    ∀ c, sc.world.breakers.get? name = some c → ∃ moves,
      Shows name c.state sc.world.now sc.holds (run name c.config moves) ∧
        sc.world.told name = reported name c.config {} moves := by
  -- The induction is on the acts: a history is carried along from the act that created the breaker.
  induction h with
  | refl => exact ⟨fun _ => rfl, fun c hc => by cases hc⟩
  | @tail sc₁ sc₂ hfirst hact ih =>
    obtain ⟨htold, hhistory⟩ := ih
    have hstart := Scene.Reachable.empty settings true
    have hreach := hstart.steps hfirst
    have hbreaker := hact.onBreakers hreach.breakersKnown
    refine ⟨fun hnone => ?_, fun c hc => ?_⟩
    · cases hc₁ : sc₁.world.breakers.get? name with
      | none => exact (hbreaker.told_of_none hc₁).trans (htold hc₁)
      | some c₁ =>
        obtain ⟨b, hb, -⟩ := Shows.act hbreaker hc₁
        rw [hnone] at hb
        cases hb
    -- Either this act created the breaker, or it led the history on that there was before.
    · cases hc₁ : sc₁.world.breakers.get? name with
      | none =>
        refine ⟨[.clock sc₂.world.now], Shows.born hreach.breakersKnown hbreaker hc₁ hc, ?_⟩
        exact (hbreaker.told_of_none hc₁).trans (htold hc₁)
      | some c₁ =>
        obtain ⟨moves, hshows, heq⟩ := hhistory c₁ hc₁
        obtain ⟨b, hb, hon⟩ := Shows.act hbreaker hc₁
        obtain rfl := Option.some.inj (hb.symm.trans hc)
        obtain ⟨more, hmore, htold'⟩ := hon.goesOn _ hshows
        refine ⟨moves ++ more, by rw [run, List.foldl_append]; exact hmore, ?_⟩
        rw [htold' (hstart.recording_steps hfirst), heq, reported_append]
        rfl

/-- An act reports the change of a breaker that it makes, and nothing else about it. -/
theorem change_of_act {sc sc' : Scene} (h : sc.Reachable) (hact : Act sc sc')
    (hrecording : sc.world.recording = true) {c : Component Config Breaker}
    (hc : sc.world.breakers.get? name = some c) :
    ∃ b event?, sc'.world.breakers.get? name = some { c with state := b } ∧
      Change name c.state b event? ∧
      sc'.world.told name = sc.world.told name ++ event?.toList := by
  obtain ⟨b, hb, hon⟩ := Shows.act (hact.onBreakers h.breakersKnown) hc
  obtain ⟨moves, hshows⟩ := exists_history h hc
  obtain ⟨move?, hshows', htold⟩ := hon _ hshows
  cases move? with
  | none =>
    -- The same history shows the breaker before and after, so nothing happened to it.
    have heq : b = c.state := hshows'.state.symm.trans hshows.state
    exact ⟨b, none, hb, .stays (by rw [heq]), htold hrecording⟩
  | some move =>
    have hchange := step_change name c.config (run name c.config moves) move
    have hstate : ((run name c.config moves).step name c.config move).breaker = b :=
      hshows'.state
    rw [hshows.state, hstate] at hchange
    refine ⟨b, _, hb, hchange, (htold hrecording).trans ?_⟩
    rw [Option.toList_some, reported_single]

/-- **The events about a breaker are its history.** In every history there is one event for each
change of state, which tells the new state; an event that tells of a trip has the count of
failures at that moment; replayed from the start, the events give the present state; and only five
changes are possible. Every act reports the change that it makes to a breaker, or nothing about
it. So in a session that records its events, those about a breaker are the events of a history
that leads to its present state. -/
theorem told_history :
    (∀ (name : String) (config : Config) (moves : List Move),
      let h := run name config moves
      let events := reported name config {} moves
      let changes := changes name config {} moves
      events.length = changes.length ∧
        (events.map Event.phase? = changes.map fun c => some c.2) ∧
        events.foldl Phase.hear .closed = h.breaker.phase ∧
        (∀ c ∈ changes, c ∈ possible) ∧
        ∀ move other count, h.event? name config move = some (.breakerOpened other count) →
          other = name ∧ count = (h.step name config move).breaker.failureCount) ∧
    (∀ (sc sc' : Scene) (name : String) (c : Component Config Breaker),
      sc.Reachable → Act sc sc' → sc.world.recording = true →
      sc.world.breakers.get? name = some c →
      ∃ b event?, sc'.world.breakers.get? name = some { c with state := b } ∧
        Change name c.state b event? ∧
        sc'.world.told name = sc.world.told name ++ event?.toList) ∧
    (∀ (settings : Settings) (s : Session) (name : String),
      Relation.ReflTransGen Session.Happens (Session.create settings true) s →
      (s.world.breakers.get? name = none → s.world.told name = []) ∧
        ∀ c, s.world.breakers.get? name = some c →
          (s.world.told name).foldl Phase.hear .closed = c.state.phase ∧
          ∃ moves, Shows name c.state s.world.now s.holds (run name c.config moves) ∧
            s.world.told name = reported name c.config {} moves) := by
  refine ⟨fun name config moves => ?_,
    fun sc sc' name c h hact hrecording hc => change_of_act h hact hrecording hc,
    fun settings s name h => ?_⟩
  -- The events tell the states that the breaker changed to, so there are as many of both.
  · have htells := reported_tells name config {} moves
    have hlength := congrArg List.length htells
    rw [List.length_map, List.length_map] at hlength
    refine ⟨hlength, htells, replay_reported name config {} moves,
      changes_possible name config {} moves, fun move other count hevent => ?_⟩
    have hchange := step_change name config (run name config moves) move
    rw [hevent] at hchange
    cases hchange
    exact ⟨rfl, rfl⟩
  · obtain ⟨hnone, hsome⟩ := told_eq_reported name (Session.steps_of_happens h)
    refine ⟨hnone, fun c hc => ?_⟩
    obtain ⟨moves, hshows, heq⟩ := hsome c hc
    refine ⟨?_, moves, hshows, heq⟩
    have hreplay := replay_reported name c.config {} moves
    rw [← hshows.state]
    exact heq ▸ hreplay

/-- What happens in a session in which one call fails inside a breaker with a threshold of one. -/
def tripping : List Command :=
  [.breaker "b" (some ⟨1, .ofMillis 10⟩),
    .define "op" [⟨none, .fail (.failed "out of order")⟩] [.breaker "b"],
    .call "op" "c" .null]

/-- The session after that. -/
def tripped : Session :=
  ((Session.create {} true).performAll ⟨toString, toString⟩ tripping).2.turn 1

theorem happens_tripped :
    Relation.ReflTransGen Session.Happens (Session.create {} true) tripped :=
  (Session.performAll_happens ⟨toString, toString⟩ (by simp [tripping, Command.Plain])).tail
    (.turn 1)

theorem breakers_tripped : ∃ c, tripped.world.breakers.get? "b" = some c ∧
    c.config = ⟨1, .ofMillis 10⟩ ∧ c.state = ⟨.opened, 1, 0, some 0, false⟩ := by
  have hstate : (tripped.world.breakers.get? "b").map (fun c => (c.config, c.state)) =
      some (⟨1, .ofMillis 10⟩, ⟨.opened, 1, 0, some 0, false⟩) := by decide +kernel
  obtain ⟨c, hc, heq⟩ := Option.map_eq_some_iff.mp hstate
  exact ⟨c, hc, Prod.mk.inj heq⟩

theorem told_history_tripped :
    (∃ c, tripped.world.breakers.get? "b" = some c ∧
      (tripped.world.told "b").foldl Phase.hear .closed = .opened ∧
      ∃ moves, Shows "b" c.state tripped.world.now tripped.holds (run "b" c.config moves) ∧
        tripped.world.told "b" = reported "b" c.config {} moves) ∧
    tripped.world.told "b" = [.breakerOpened "b" 1] ∧ tripped.world.told "other" = [] ∧
    ∃ b event?, Change "b" ⟨.opened, 1, 0, some 0, false⟩ b event? ∧
      (tripped.world.resetBreaker "b").2.told "b" = .breakerOpened "b" 1 :: event?.toList := by
  obtain ⟨c, hc, -, hstate⟩ := breakers_tripped
  have hsteps := Session.steps_of_happens happens_tripped
  have hreach := (Scene.Reachable.empty {} true).steps hsteps
  have htold : tripped.world.told "b" = [.breakerOpened "b" 1] := by decide +kernel
  obtain ⟨-, hact, hsession⟩ := told_history
  obtain ⟨hreplay, hmoves⟩ := (hsession {} tripped "b" happens_tripped).2 c hc
  obtain ⟨b, event?, -, hchange, htold'⟩ := hact tripped.scene _ "b" c hreach
    (.resetBreaker "b") ((Scene.Reachable.empty {} true).recording_steps hsteps) hc
  rw [hstate] at hreplay hchange
  refine ⟨⟨c, hc, hreplay, hmoves⟩, htold, ?_, b, event?, hchange, ?_⟩
  · exact (hsession {} tripped "other" happens_tripped).1 (by decide +kernel)
  · exact htold'.trans (congrArg (· ++ event?.toList) htold)

end Breaker

end Resilience
