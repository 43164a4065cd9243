import Resilience.Proofs.Story.Chronicle

/-!
# The course of a call

A call is started in one world and resumed in others, since between two of its turns the world
belongs to everybody else. `Operation.Course` ranges over all of these: it takes no notice of what
the others do, so what holds of every course holds of every call in every run
(`Chronicle.course`).

The course of a call inside a breaker is the course of its inner call between two steps of the
breaker (`Course.guarded_iff`). With a fallback it is the course of the inner call, or of the
fallback, or of one after the other (`Course.withFallback_iff`). An operation that a breaker is no
part of leaves the breaker alone in each of its turns (`Course.breaker_apart`).
-/

namespace Resilience

/-- A call of an operation was started in the first world, and its latest turn led to the last
one. A gap is the world that one turn of the call left and the world that its next turn found. -/
inductive Operation.Course (task : TaskId) (op : Operation) (arg : Json) (first : World) :
    List (World × World) → World → Poll → Prop
  | start {w poll} (h : op.start task arg first = (poll, w)) : Course task op arg first [] w poll
  | resume {gaps w w' v c poll} (hc : Course task op arg first gaps w (.pending c))
      (h : c.resume task w' = (poll, v)) :
      Course task op arg first (gaps ++ [(w, w')]) v poll

/-- A call that holds the admission of a breaker gives it back when it is taken apart. -/
theorem Call.forgo_mem_undoing {c : Call} {name : String} {probe : Bool}
    (h : .admission name probe ∈ c.holds) : .forgo name probe ∈ c.undoing := by
  induction c with
  | working | pausing => cases h
  | awaitingSlot | awaitingToken => simp [holds] at h
  | guarded breaker mark inner ih | withFallback breaker mark fallback arg inner ih =>
    rcases Multiset.mem_cons.mp h with heq | hinner
    · cases heq
      exact List.mem_append_right _ (List.mem_singleton_self _)
    · exact List.mem_append_left _ (ih hinner)
  | holdingSlot limiter inner ih =>
    rcases Multiset.mem_cons.mp h with heq | hinner
    · cases heq
    · exact List.mem_append_left _ (ih hinner)
  | timed _ _ _ inner ih | attempting _ _ _ _ _ inner ih | filling _ _ _ inner ih => exact ih h

namespace Operation.Course

variable {task : TaskId} {op inner fallback : Operation} {arg : Json} {name : String}
  {first w : World} {gaps : List (World × World)} {poll : Poll}

/-! ### Calls inside a breaker -/

/-- A breaker that lets a call through attends to the turns of its inner call. -/
private theorem guarded {probe : Bool} {w₁ v : World} {poll' : Poll}
    (henter : first.enter name = (.allowed probe, w₁))
    (h : Course task inner arg w₁ gaps v poll') :
    Course task (.guarded inner name) arg first gaps (Call.afterGuarded name probe (poll', v)).2
      (Call.afterGuarded name probe (poll', v)).1 := by
  induction h with
  | start h => exact .start (by simp only [Operation.start, henter, h])
  | resume _ h ih => exact .resume ih (by simp only [Call.resume, h])

/-- **The course of a call inside a breaker** is over at once if the breaker refuses. Otherwise it
is that of its inner call until that is over, and then the breaker does its part, with the mark
that it gave the call. -/
theorem guarded_iff : Course task (.guarded inner name) arg first gaps w poll ↔
    (∃ count, first.enter name = (.rejected count, w) ∧ gaps = [] ∧
      poll = .ready (.error (.rejected (.circuitOpen name count)))) ∨
    ∃ probe w₁ v poll', first.enter name = (.allowed probe, w₁) ∧
      Course task inner arg w₁ gaps v poll' ∧
      Call.afterGuarded name probe (poll', v) = (poll, w) := by
  -- From left to right by induction on the course: a call that is resumed has been let through, and
  -- its inner call is the one that is resumed.
  constructor
  · intro h
    induction h with
    | start h =>
      simp only [Operation.start] at h
      cases henter : first.enter name with
      | mk admission w₁ =>
        rw [henter] at h
        cases admission with
        | rejected count =>
          obtain ⟨rfl, rfl⟩ := Prod.mk.inj h
          exact .inl ⟨count, rfl, rfl, rfl⟩
        | allowed probe => exact .inr ⟨probe, w₁, _, _, rfl, .start rfl, h⟩
    | resume _ h ih =>
      obtain ⟨count, -, -, hpoll⟩ | ⟨probe, w₁, v, poll', henter, hinner, hafter⟩ := ih
      · cases hpoll
      · cases poll' with
        | pending c =>
          cases hafter
          exact .inr ⟨probe, w₁, _, _, henter, .resume hinner rfl, h⟩
        | ready outcome => cases hafter
        | panicked text => cases hafter
  · rintro (⟨count, henter, rfl, rfl⟩ | ⟨probe, w₁, v, poll', henter, hinner, hafter⟩)
    · exact .start (by simp only [Operation.start, henter])
    · have hguarded := guarded henter hinner
      rwa [hafter] at hguarded

/-- The course of a call with a fallback. -/
inductive WithFallback (task : TaskId) (inner : Operation) (name : String)
    (fallback : Operation) (arg : Json) (first : World) :
    List (World × World) → World → Poll → Prop
  /-- The breaker refuses, and there is only the fallback. -/
  | passedBy {gaps w₁ w poll} (count : Nat) (henter : first.enter name = (.rejected count, w₁))
      (h : Course task fallback arg w₁ gaps w poll) :
      WithFallback task inner name fallback arg first gaps w poll
  | underWay {gaps w₁ w c} (probe : Bool) (henter : first.enter name = (.allowed probe, w₁))
      (h : Course task inner arg w₁ gaps w (.pending c)) :
      WithFallback task inner name fallback arg first gaps w
        (.pending (.withFallback name probe fallback arg c))
  | answered {gaps w₁ w value} (probe : Bool) (henter : first.enter name = (.allowed probe, w₁))
      (h : Course task inner arg w₁ gaps w (.ready (.ok value))) :
      WithFallback task inner name fallback arg first gaps (w.record name probe (.ok value))
        (.ready (.ok value))
  | panicked {gaps w₁ w text} (probe : Bool) (henter : first.enter name = (.allowed probe, w₁))
      (h : Course task inner arg w₁ gaps w (.panicked text)) :
      WithFallback task inner name fallback arg first gaps (w.forgo name probe) (.panicked text)
  /-- The inner call fails. This is recorded, and then the fallback begins, in the same turn. -/
  | replaced {gaps gaps' w₁ v w poll} (probe : Bool) (failure : Failure)
      (henter : first.enter name = (.allowed probe, w₁))
      (h : Course task inner arg w₁ gaps v (.ready (.error failure)))
      (h' : Course task fallback arg (v.record name probe (.error failure)) gaps' w poll) :
      WithFallback task inner name fallback arg first (gaps ++ gaps') w poll

/-- What comes of a turn of the inner call. -/
private theorem WithFallback.of_turn {probe : Bool} {w₁ v : World} {poll' : Poll}
    (henter : first.enter name = (.allowed probe, w₁))
    (hinner : Course task inner arg w₁ gaps v poll')
    (hafter : Call.afterPrimary name probe fallback arg (fun w => fallback.start task arg w)
      (poll', v) = (poll, w)) : WithFallback task inner name fallback arg first gaps w poll := by
  match poll' with
  | .pending c =>
    cases hafter
    exact .underWay probe henter hinner
  | .ready (.ok value) =>
    cases hafter
    exact .answered probe henter hinner
  | .ready (.error failure) =>
    have hreplaced := WithFallback.replaced probe failure henter hinner (.start hafter)
    rwa [List.append_nil] at hreplaced
  | .panicked text =>
    cases hafter
    exact .panicked probe henter hinner

/-- A breaker that lets a call through attends to the turns of its inner call, and starts the
fallback when it fails. -/
private theorem afterPrimary (fallback : Operation) {probe : Bool} {w₁ v : World} {poll' : Poll}
    (henter : first.enter name = (.allowed probe, w₁))
    (h : Course task inner arg w₁ gaps v poll') :
    Course task (.withFallback inner name fallback) arg first gaps
      (Call.afterPrimary name probe fallback arg (fun w => fallback.start task arg w) (poll', v)).2
      (Call.afterPrimary name probe fallback arg (fun w => fallback.start task arg w)
        (poll', v)).1 := by
  induction h with
  | start h => exact .start (by simp only [Operation.start, henter, h])
  | resume _ h ih => exact .resume ih (by simp only [Call.resume, h])

/-- **The course of a call with a fallback** is that of the fallback if the breaker refuses, and
otherwise that of the inner call, which the fallback follows if it fails. -/
theorem withFallback_iff :
    Course task (.withFallback inner name fallback) arg first gaps w poll ↔
      WithFallback task inner name fallback arg first gaps w poll := by
  -- A turn in which the inner call fails is both its last turn and the first one of the fallback,
  -- so the gaps of the two courses are simply joined.
  constructor
  · intro h
    induction h with
    | start h =>
      simp only [Operation.start] at h
      cases henter : first.enter name with
      | mk admission w₁ =>
        rw [henter] at h
        cases admission with
        | rejected count => exact .passedBy count henter (.start h)
        | allowed probe => exact .of_turn henter (.start rfl) h
    | @resume gaps w w' v c poll _ h ih =>
      cases ih with
      | passedBy count henter hfallback => exact .passedBy count henter (.resume hfallback h)
      | underWay probe henter hinner => exact .of_turn henter (.resume hinner rfl) h
      | replaced probe failure henter hinner hfallback =>
        rw [List.append_assoc]
        exact .replaced probe failure henter hinner (.resume hfallback h)
  · intro h
    cases h with
    | passedBy count henter hfallback =>
      induction hfallback with
      | start h => exact .start (by simp only [Operation.start, henter, h])
      | resume _ h ih => exact .resume ih h
    | underWay probe henter hinner => exact afterPrimary fallback henter hinner
    | answered probe henter hinner => exact afterPrimary fallback henter hinner
    | panicked probe henter hinner => exact afterPrimary fallback henter hinner
    | @replaced gaps gaps' _ v _ _ probe failure henter hinner hfallback =>
      induction hfallback with
      | start h =>
        have hprimary := afterPrimary fallback henter hinner
        simp only [Call.afterPrimary, h] at hprimary
        rwa [List.append_nil]
      | resume _ h ih =>
        rw [← List.append_assoc]
        exact .resume ih h

/-! ### The turns of a call -/

/-- The turns of a call, each from the world that it found to the one that it left. -/
def turns (first : World) : List (World × World) → World → List (World × World)
  | [], w => [(first, w)]
  | (left, found) :: gaps, w => (first, left) :: turns found gaps w

theorem turns_concat (first : World) (gaps : List (World × World)) (left found w : World) :
    turns first (gaps ++ [(left, found)]) w = turns first gaps left ++ [(found, w)] := by
  induction gaps generalizing first with
  | nil => rfl
  | cons gap rest ih => exact congrArg (_ :: ·) (ih gap.2)

/-- **In each of its turns a call does what its layers are for**, and so it has a story. -/
theorem exists_story (h : Course task op arg first gaps w poll) :
    (∃ ds, Nonempty (Story (.run op) arg ds poll)) ∧ ∀ turn ∈ turns first gaps w,
      ∃ ds, (∀ d ∈ ds, d.IsFor op.parts) ∧ Did task turn.1 ds turn.2 := by
  -- The story grows turn by turn, and the new deeds of a turn are its last part.
  induction h with
  | start h =>
    have htells := op.start_tells task arg first
    rw [h] at htells
    obtain ⟨ds, hdid, ⟨st⟩⟩ := htells
    refine ⟨⟨ds, ⟨st⟩⟩, fun turn hturn => ?_⟩
    obtain rfl := List.mem_singleton.mp hturn
    exact ⟨ds, st.isFor, hdid⟩
  | @resume gaps w w' v c poll _ h ih =>
    obtain ⟨⟨past, ⟨st⟩⟩, hturns⟩ := ih
    have htells := Call.resume_tells task st rfl w'
    rw [h] at htells
    obtain ⟨ds, hdid, ⟨st'⟩⟩ := htells
    refine ⟨⟨past ++ ds, ⟨st'⟩⟩, fun turn hturn => ?_⟩
    rw [turns_concat, List.mem_append, List.mem_singleton] at hturn
    rcases hturn with hearlier | rfl
    · exact hturns turn hearlier
    · exact ⟨ds, fun d hd => st'.isFor d (List.mem_append_right _ hd), hdid⟩

/-- Deeds for other parts leave a breaker alone. -/
private theorem did_apart {ds : List Deed} {w' : World} (hdid : Did task w ds w')
    (hfor : ∀ d ∈ ds, d.IsFor op.parts) (hpart : .breaker name ∉ op.parts) :
    w'.breakers.get? name = w.breakers.get? name := by
  refine hdid.keeps (motive := fun v => v.breakers.get? name = w.breakers.get? name)
    (fun d hd v v' hdoes hv => ?_) rfl
  have hne : d.part? ≠ some (.breaker name) := fun heq => hpart (hfor d hd _ heq)
  exact (hdoes.within.breakers hne).trans hv

/-- **A call of an operation that a breaker is no part of leaves the breaker alone**, in each of its
turns and also when it is taken apart. It holds nothing of the breaker. -/
theorem breaker_apart (h : Course task op arg first gaps w poll)
    (hpart : .breaker name ∉ op.parts) :
    (∀ turn ∈ turns first gaps w, turn.2.breakers.get? name = turn.1.breakers.get? name) ∧
      ∀ c, poll = .pending c → (∀ probe, .admission name probe ∉ c.holds) ∧
        ∀ v, (c.abandon v).breakers.get? name = v.breakers.get? name := by
  obtain ⟨⟨ds, ⟨st⟩⟩, hturns⟩ := h.exists_story
  refine ⟨fun turn hturn => ?_, fun c hc => ?_⟩
  · obtain ⟨ds, hfor, hdid⟩ := hturns turn hturn
    exact did_apart hdid hfor hpart
  · have hfor := st.isFor_undoing hc
    refine ⟨fun probe hmem => hpart ?_, fun v => did_apart (c.abandon_did task v) hfor hpart⟩
    exact hfor _ (Call.forgo_mem_undoing hmem) _ rfl

end Operation.Course

/-- **Every call of a chronicle runs its course.** -/
theorem Chronicle.course {aside : World → World → Prop} {w : World} {log : List Deed}
    {lives : List Life} (h : Chronicle aside w log lives) : ∀ life ∈ lives, ∃ first gaps last,
      Operation.Course life.task life.op life.arg first gaps last life.poll := by
  induction h with
  | empty settings recording =>
    intro life hlife
    cases hlife
  | aside _ _ ih => exact ih
  | @start w _ _ _ task op arg _ _ _ _ ih =>
    refine List.forall_mem_append.mpr ⟨ih, ?_⟩
    simp only [List.mem_singleton, forall_eq]
    exact ⟨w, [], _, .start rfl⟩
  | @resume w _ _ life _ c _ _ hpoll _ _ _ ih =>
    simp only [List.forall_mem_append, List.forall_mem_cons] at ih ⊢
    obtain ⟨hbefore, ⟨first, gaps, last, hcourse⟩, hafter⟩ := ih
    rw [hpoll] at hcourse
    exact ⟨hbefore, ⟨first, _, _, .resume hcourse rfl⟩, hafter⟩
  | abandon _ _ _ ih =>
    simp only [List.forall_mem_append, List.forall_mem_cons] at ih ⊢
    exact ih

end Resilience
