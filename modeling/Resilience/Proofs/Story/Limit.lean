import Resilience.Proofs.Story.Course

/-!
# The course of a call with a time limit

A time limit is looked at after the inner call has had its turn. So a call with a time limit takes
the turns that its inner call would take without one, as long as the deadline has not come; and the
first turn at the deadline or after it is its last, with the answer of the inner call if that is
there, and without one if it is not (`Course.exists_untimed`). Conversely, every course of the inner
call whose turns but the last came before the deadline is that of a call with the time limit
(`Course.exists_timed`).

The two courses find the same worlds. They need not leave the same ones, since the limit is a sleep
that begins in the first turn and takes a number.

The worlds that a call finds decide what it does (`Course.unique`), and a call that is over has no
turn any more (`Course.eq_nil_of_over`).
-/

namespace Resilience

namespace Operation.Course

/-- What a time limit makes of a turn in which the inner call has come this far and has left this
world. -/
inductive InTime (limit : Duration) (name : String) (deadline : Instant) :
    Poll → World → Poll → World → Prop
  /-- The inner call is over, and so is the call. -/
  | ended {poll v} (hended : ∀ c, poll ≠ .pending c) : InTime limit name deadline poll v poll v
  /-- The inner call is blocked, and the deadline has not come yet. -/
  | early {c v w timer} (hearly : v.now < deadline) (hdue : timer.due = deadline)
      (hbegun : w = v ∨ w = (v.sleep limit).2) :
      InTime limit name deadline (.pending c) v (.pending (.timed timer limit name c)) w
  /-- The inner call is blocked, and it is taken apart. -/
  | late {c v} (hlate : deadline ≤ v.now) :
      InTime limit name deadline (.pending c) v
        (.ready (.error (.rejected (.timeout name (limit.millis % (maxWord + 1))))))
        (c.abandon v)

/-- A call with a time limit has come to `poll` and has left `w`, where its inner call would have
come to `poll'` and have left `v`: the turns of both find the same worlds, and those before the
latest one came before the deadline. -/
structure Timed (task : TaskId) (inner : Operation) (limit : Duration) (name : String) (arg : Json)
    (first : World) (gaps : List (World × World)) (w : World) (poll : Poll)
    (gaps' : List (World × World)) (v : World) (poll' : Poll) : Prop where
  found : gaps'.map Prod.snd = gaps.map Prod.snd
  course : Course task inner arg first gaps' v poll'
  earlier : ∀ gap ∈ gaps', gap.1.now < first.now.after limit
  inTime : InTime limit name (first.now.after limit) poll' v poll w

variable {task : TaskId} {op inner : Operation} {arg : Json} {first v w w' : World}
  {gaps gaps' more : List (World × World)} {poll poll' : Poll} {limit : Duration} {name : String}
  {timer : Timer} {deadline : Instant}

/-! ### Courses in general -/

/-- **No time passes in a turn.** -/
theorem now_eq (h : Course task op arg first gaps w poll) :
    ∀ turn ∈ turns first gaps w, turn.2.now = turn.1.now := by
  intro turn hturn
  obtain ⟨-, hturns⟩ := h.exists_story
  obtain ⟨ds, -, hdid⟩ := hturns turn hturn
  exact hdid.keeps (motive := fun v => v.now = turn.1.now)
    (fun d _ v v' hdoes hv => hdoes.within.now.trans hv) rfl

/-- There is one course at most in which the same turns find the same worlds. -/
theorem unique (h : Course task op arg first gaps w poll)
    (h' : Course task op arg first gaps' w' poll')
    (hsame : gaps.map Prod.snd = gaps'.map Prod.snd) :
    gaps = gaps' ∧ w = w' ∧ poll = poll' := by
  induction h generalizing gaps' w' poll' with
  | start h =>
    cases h' with
    | start h' =>
      obtain ⟨rfl, rfl⟩ := Prod.mk.inj (h.symm.trans h')
      exact ⟨rfl, rfl, rfl⟩
    | resume _ _ => simp at hsame
  | @resume gaps w found _ c _ _ h ih =>
    cases h' with
    | start _ => simp at hsame
    | @resume gaps' w' found' _ c' _ hc' h' =>
      simp only [List.map_append, List.map_cons, List.map_nil] at hsame
      obtain ⟨hbefore, hlast⟩ := List.append_inj' hsame rfl
      obtain ⟨rfl, rfl, hpoll⟩ := ih hc' hbefore
      obtain rfl := Poll.pending.inj hpoll
      obtain rfl := List.cons.inj hlast |>.1
      obtain ⟨rfl, rfl⟩ := Prod.mk.inj (h.symm.trans h')
      exact ⟨rfl, rfl, rfl⟩

/-- Before each turn but the first the call was blocked. -/
theorem blocked_before (h : Course task op arg first (gaps ++ more) w poll) (hmore : more ≠ []) :
    ∃ v c, Course task op arg first gaps v (.pending c) := by
  generalize hall : gaps ++ more = all at h
  induction h generalizing more with
  | start _ => exact absurd (List.append_eq_nil_iff.mp hall).2 hmore
  | @resume gaps₀ w₀ _ _ c _ hc _ ih =>
    obtain hnil | ⟨more', last, rfl⟩ := List.eq_nil_or_concat more
    · exact absurd hnil hmore
    · rw [List.concat_eq_append, ← List.append_assoc] at hall
      obtain ⟨hbefore, -⟩ := List.append_inj' hall rfl
      by_cases hnil : more' = []
      · rw [hnil, List.append_nil] at hbefore
        exact ⟨w₀, c, hbefore ▸ hc⟩
      · exact ih hnil hbefore

/-- **A call that is over has no turn any more.** -/
theorem eq_nil_of_over (h : Course task op arg first gaps w poll) (hover : ∀ c, poll ≠ .pending c)
    (h' : Course task op arg first (gaps ++ more) w' poll') : more = [] := by
  by_contra hmore
  obtain ⟨v, c, hblocked⟩ := h'.blocked_before hmore
  obtain ⟨-, -, hpoll⟩ := h.unique hblocked rfl
  exact hover c hpoll

/-! ### The time limit -/

/-- The first turn, in which the time begins to run. -/
private theorem InTime.begin (poll' : Poll) (v : World) :
    InTime limit name (v.now.after limit) poll' v (Call.beginTimed limit name (poll', v)).1
      (Call.beginTimed limit name (poll', v)).2 := by
  cases poll' with
  | ready outcome => exact .ended (by simp)
  | panicked text => exact .ended (by simp)
  | pending c =>
    simp only [Call.beginTimed, World.sleep]
    by_cases hover : v.now.after limit ≤ v.now
    · rw [if_pos hover]
      exact .late hover
    · rw [if_neg hover]
      exact .early (Nat.lt_of_not_le hover) rfl (.inr (by rw [World.sleep, if_neg hover]))

/-- A later turn. -/
private theorem InTime.after (hdue : timer.due = deadline) (poll' : Poll) (v : World) :
    InTime limit name deadline poll' v (Call.afterTimed timer limit name (poll', v)).1
      (Call.afterTimed timer limit name (poll', v)).2 := by
  cases poll' with
  | ready outcome => exact .ended (by simp)
  | panicked text => exact .ended (by simp)
  | pending c =>
    simp only [Call.afterTimed, World.elapsed, hdue, decide_eq_true_eq]
    by_cases hlate : deadline ≤ v.now
    · rw [if_pos hlate]
      exact .late hlate
    · rw [if_neg hlate]
      exact .early (Nat.lt_of_not_le hlate) hdue (.inl rfl)

/-- The time begins to run when the call begins. -/
private theorem now_start (h : Course task inner arg first [] w poll) : w.now = first.now :=
  h.now_eq (first, w) (List.mem_singleton_self _)

variable (task inner limit name arg first) in
/-- A call with a time limit begins with its inner call. -/
theorem Timed.start :
    Timed task inner limit name arg first []
      ((Operation.timed inner limit name).start task arg first).2
      ((Operation.timed inner limit name).start task arg first).1
      [] (inner.start task arg first).2 (inner.start task arg first).1 where
  found := rfl
  course := .start rfl
  earlier := by simp
  inTime := by
    have hcourse : Course task inner arg first [] _ _ := .start rfl
    rw [← hcourse.now_start]
    exact .begin ..

/-- While a call with a time limit is blocked, so is its inner call, and they go on together. -/
theorem Timed.resume {c : Call}
    (h : Timed task inner limit name arg first gaps w (.pending c) gaps' v poll') (found : World) :
    ∃ timer c', c = .timed timer limit name c' ∧ poll' = .pending c' ∧
      Timed task inner limit name arg first
        (gaps ++ [(w, found)]) (c.resume task found).2 (c.resume task found).1
        (gaps' ++ [(v, found)]) (c'.resume task found).2 (c'.resume task found).1 := by
  obtain ⟨hfound, hcourse, hearlier, htime⟩ := h
  cases htime with
  | ended hended => exact absurd rfl (hended c)
  | @early c' _ _ timer hearly hdue _ =>
    refine ⟨timer, c', rfl, rfl, ?_, .resume hcourse rfl, ?_, .after hdue ..⟩
    · simp only [List.map_append, hfound, List.map_cons, List.map_nil]
    · simpa only [List.forall_mem_append, List.forall_mem_singleton] using ⟨hearlier, hearly⟩

/-- **A call with a time limit takes the turns of its inner call** until the first one at the
deadline or after it. -/
theorem exists_untimed (h : Course task (.timed inner limit name) arg first gaps w poll) :
    ∃ gaps' v poll', Timed task inner limit name arg first gaps w poll gaps' v poll' := by
  induction h with
  | start h =>
    have htimed := Timed.start task inner arg first limit name
    rw [h] at htimed
    exact ⟨_, _, _, htimed⟩
  | @resume _ _ found _ _ _ _ h ih =>
    obtain ⟨gaps', v, poll', hbefore⟩ := ih
    obtain ⟨timer, c', -, -, htimed⟩ := hbefore.resume found
    rw [h] at htimed
    exact ⟨_, _, _, htimed⟩

/-- **A time limit does not matter before the deadline**: whatever the inner call does, it does with
the limit, up to the first turn at the deadline or after it. -/
theorem exists_timed (limit : Duration) (name : String)
    (h : Course task inner arg first gaps' v poll')
    (hearlier : ∀ gap ∈ gaps', gap.1.now < first.now.after limit) :
    ∃ gaps w poll, Course task (.timed inner limit name) arg first gaps w poll ∧
      Timed task inner limit name arg first gaps w poll gaps' v poll' := by
  induction h with
  | start h =>
    have htimed := Timed.start task inner arg first limit name
    rw [h] at htimed
    exact ⟨[], _, _, .start rfl, htimed⟩
  | @resume gaps' v₀ found v c poll' _ h ih =>
    have hlatest := hearlier (v₀, found) List.mem_concat_self
    obtain ⟨gaps, w, poll, hcourse, hbefore⟩ := ih (List.forall_mem_append.mp hearlier).1
    -- The deadline has not come yet, so the inner call is not taken apart.
    obtain ⟨c₁, rfl⟩ : ∃ c₁, poll = .pending c₁ := by
      cases hbefore.inTime with
      | ended hended => exact absurd rfl (hended c)
      | early => exact ⟨_, rfl⟩
      | late hlate => exact absurd hlatest (Nat.not_lt.mpr hlate)
    obtain ⟨timer, c', -, hpoll, htimed⟩ := hbefore.resume found
    obtain rfl := Poll.pending.inj hpoll
    rw [h] at htimed
    exact ⟨_, _, _, .resume hcourse rfl, htimed⟩

end Operation.Course

end Resilience
