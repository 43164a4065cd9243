import Resilience.Proofs.Story.Telling
import Mathlib.Data.List.Basic

/-!
# Chronicles

A **chronicle** is a run of a world from its beginning: calls of any operations begin, are resumed
and are taken apart, in any order and number, by whatever tasks, and beside them other things go
on. What may go on beside calls is a parameter, so that a law can say what it takes for granted
about it. A chronicle keeps the life of each call, with its story.

A chronicle can always go on as the code does (`Chronicle.exists_start`, `Chronicle.exists_resume`).
What every deed keeps, and everything that goes on beside the calls, holds throughout
(`Chronicle.invariant`): a deed done by a call is done in a world that has the parts of its
operation. The list of all deeds is made of what was done for each call, in the order of its story
(`Chronicle.interleaved`).
-/

namespace Resilience

/-- What became of one call. -/
structure Life where
  task : TaskId
  op : Operation
  arg : Json
  deeds : List Deed
  /-- Where the call stands. -/
  poll : Poll
  story : Story (.run op) arg deeds poll
  /-- The call was taken apart while it was blocked. -/
  cancelled : Bool

/-- What is left to do for a call that is taken apart. -/
def Poll.undoing : Poll → List Deed
  | pending c => c.undoing
  | ready _ => []
  | panicked _ => []

/-- All that was done for a call. -/
def Life.done (life : Life) : List Deed :=
  life.deeds ++ if life.cancelled then life.poll.undoing else []

/-- The runs of a world, with all deeds in their order and with the lives of the calls in the order
in which they began. -/
inductive Chronicle (aside : World → World → Prop) : World → List Deed → List Life → Prop
  | empty (settings : Settings) (recording : Bool) :
      Chronicle aside { settings := settings, recording := recording } [] []
  | aside {w w' log lives} (h : Chronicle aside w log lives) (hstep : aside w w') :
      Chronicle aside w' log lives
  | start {w log lives ds} (task : TaskId) (op : Operation) (arg : Json)
      (h : Chronicle aside w log lives) (hfits : op.Fits w)
      (hdid : Did task w ds (op.start task arg w).2)
      (st : Story (.run op) arg ds (op.start task arg w).1) :
      Chronicle aside (op.start task arg w).2 (log ++ ds)
        (lives ++ [⟨task, op, arg, ds, _, st, false⟩])
  | resume {w log before life after c ds} (h : Chronicle aside w log (before ++ life :: after))
      (hpoll : life.poll = .pending c) (hgoes : life.cancelled = false)
      (hdid : Did life.task w ds (c.resume life.task w).2)
      (st : Story (.run life.op) life.arg (life.deeds ++ ds) (c.resume life.task w).1) :
      Chronicle aside (c.resume life.task w).2 (log ++ ds)
        (before ++ ⟨life.task, life.op, life.arg, life.deeds ++ ds, _, st, false⟩ :: after)
  | abandon {w log before life after c} (h : Chronicle aside w log (before ++ life :: after))
      (hpoll : life.poll = .pending c) (hgoes : life.cancelled = false) :
      Chronicle aside (c.abandon w) (log ++ c.undoing)
        (before ++ { life with cancelled := true } :: after)

/-! ### Components stay -/

/-- Components stay, and limiters and buckets keep their names and configurations. -/
structure World.Keeps (w w' : World) : Prop where
  grows : w.Grows w'
  limiters {id : ComponentId} {c : Component Limiter.Config Limiter} :
    w.limiters.get? id = some c → ∃ l, w'.limiters.get? id = some { c with state := l }
  buckets {id : ComponentId} {c : Component Bucket.Config Bucket} :
    w.buckets.get? id = some c → ∃ b, w'.buckets.get? id = some { c with state := b }

theorem World.Keeps.of_eq {w w' : World} (h : w.Grows w') (hl : w'.limiters = w.limiters)
    (ht : w'.buckets = w.buckets) : w.Keeps w' where
  grows := h
  limiters hc := ⟨_, hl ▸ hc⟩
  buckets hc := ⟨_, ht ▸ hc⟩

/-- **A deed keeps the components that there are**, and their names and configurations. -/
theorem Deed.Does.keeps {task : TaskId} {w w' : World} {d : Deed} (h : d.Does task w w') :
    w.Keeps w' := by
  cases h.touches with
  | nothing hserial => exact .of_eq (.of_eq rfl rfl rfl rfl rfl hserial) rfl rfl
  | breaker _ hmoved => exact .of_eq (.moveBreaker hmoved) rfl rfl
  | limiter _ hmoved hserial =>
    exact ⟨.moveLimiter hmoved hserial, fun hc => hmoved.exists_state hc, fun hc => ⟨_, hc⟩⟩
  | bucket _ hmoved hserial =>
    exact ⟨.moveBucket hmoved hserial, fun hc => ⟨_, hc⟩, fun hc => hmoved.exists_state hc⟩
  | cache => exact .of_eq (.of_eq rfl rfl rfl rfl rfl (le_refl _)) rfl rfl

theorem Deed.Does.grows {task : TaskId} {w w' : World} {d : Deed} (h : d.Does task w w') :
    w.Grows w' := h.keeps.grows

theorem Did.grows {task : TaskId} {w w' : World} {ds : List Deed} (h : Did task w ds w') :
    w.Grows w' := by
  induction h with
  | nil w => exact .refl w
  | cons hfirst _ ih => exact hfirst.grows.trans ih


/-! ### The order of what was done -/

/-- A beginning of two lists in a row ends within the first one, or in the second. -/
theorem prefix_append_cases {α : Type} {p l l' : List α} (h : p <+: l ++ l') :
    p <+: l ∨ ∃ q, p = l ++ q ∧ q <+: l' := by
  obtain hp | ⟨q, rfl⟩ := List.prefix_or_prefix_of_prefix h (List.prefix_append l l')
  · exact .inl hp
  · exact .inr ⟨q, rfl, (List.prefix_append_right_inj l).mp h⟩

/-- A deed of this list is in the log of some time, together with those before it. -/
def Deed.DoneBy (log ds : List Deed) (d : Deed) : Prop :=
  ∃ q, q <+: ds ∧ d ∈ q ∧ q.Sublist log

namespace Deed.DoneBy

variable {log ds ds' : List Deed} {d other : Deed}

theorem mem (h : d.DoneBy log ds) : d ∈ ds := by
  obtain ⟨q, hq, hd, -⟩ := h
  exact hq.mem hd

theorem append (h : d.DoneBy log (ds ++ ds')) : d.DoneBy log ds ∨ d.DoneBy log ds' := by
  obtain ⟨q, hbegin, hd, hsub⟩ := h
  obtain hq | ⟨q, rfl, hq⟩ := prefix_append_cases hbegin
  · exact .inl ⟨q, hq, hd, hsub⟩
  · rcases List.mem_append.mp hd with hd | hd
    · exact .inl ⟨ds, List.prefix_refl ds, hd, (List.sublist_append_left ..).trans hsub⟩
    · exact .inr ⟨q, hq, hd, (List.sublist_append_right ..).trans hsub⟩

theorem left (h : d.DoneBy log (ds ++ ds')) (hd : d ∉ ds') : d.DoneBy log ds :=
  h.append.resolve_right fun h => hd h.mem

theorem right (h : d.DoneBy log (ds ++ ds')) (hd : d ∉ ds) : d.DoneBy log ds' :=
  h.append.resolve_left fun h => hd h.mem

theorem tail (h : d.DoneBy log (other :: ds)) (hd : d ≠ other) : d.DoneBy log ds := by
  rw [← List.singleton_append] at h
  exact h.right (by simpa using hd)

/-- When the last deed is done, everything is. -/
theorem concat (h : d.DoneBy log (ds ++ [other])) :
    d.DoneBy log ds ∨ d = other ∧ (ds ++ [other]).Sublist log := by
  obtain ⟨q, hbegin, hd, hsub⟩ := h
  obtain rfl | hq := List.prefix_concat_iff.mp hbegin
  · rcases List.mem_append.mp hd with hd | hd
    · exact .inl ⟨ds, List.prefix_refl ds, hd, (List.sublist_append_left ..).trans hsub⟩
    · exact .inr ⟨List.mem_singleton.mp hd, hsub⟩
  · exact .inl ⟨q, hq, hd, hsub⟩

/-- A deed that comes between may be left out. -/
theorem skip (h : d.DoneBy log (ds ++ other :: ds')) (hd : d ≠ other) :
    d.DoneBy log (ds ++ ds') := by
  obtain ⟨q, hbegin, hmem, hsub⟩ := h
  obtain hq | ⟨q, rfl, hrest⟩ := prefix_append_cases hbegin
  · exact ⟨q, hq.trans (List.prefix_append ..), hmem, hsub⟩
  · obtain rfl | ⟨q, rfl, hq⟩ := List.prefix_cons_iff.mp hrest
    · rw [List.append_nil] at hmem hsub
      exact ⟨ds, List.prefix_append .., hmem, hsub⟩
    · refine ⟨ds ++ q, (List.prefix_append_right_inj ds).mpr hq, ?_,
        ((List.sublist_cons_self ..).append_left ds).trans hsub⟩
      simpa [hd] using hmem

end Deed.DoneBy

/-- A list is made of others, each of them in its order. -/
structure Interleaved (log : List Deed) (dones : List (List Deed)) : Prop where
  perm : log.Perm dones.flatten
  sublist : ∀ done ∈ dones, done.Sublist log
  exists_done {p : List Deed} {d : Deed} : p <+: log → d ∈ p → ∃ done ∈ dones, d.DoneBy p done

namespace Interleaved

variable {log done : List Deed} {dones before after : List (List Deed)}

theorem nil : Interleaved [] [] where
  perm := .refl _
  sublist := by simp
  exists_done hp hd := by simp [List.prefix_nil.mp hp] at hd

/-- Another list begins. -/
theorem start (h : Interleaved log dones) : Interleaved log (dones ++ [[]]) where
  perm := by simpa using h.perm
  sublist := List.forall_mem_append.mpr ⟨h.sublist, by simp⟩
  exists_done hp hd := by
    obtain ⟨done, hdone, hfound⟩ := h.exists_done hp hd
    exact ⟨done, List.mem_append_left _ hdone, hfound⟩

/-- One of the lists goes on. -/
theorem extend (h : Interleaved log (before ++ done :: after)) (ds : List Deed) :
    Interleaved (log ++ ds) (before ++ (done ++ ds) :: after) := by
  have hsublist := h.sublist
  simp only [List.forall_mem_append, List.forall_mem_cons] at hsublist
  obtain ⟨hbefore, hdone, hafter⟩ := hsublist
  -- What was there before is found again, if need be in the list that is longer now.
  have hold {p : List Deed} {d : Deed} (hp : p <+: log) (hd : d ∈ p) :
      ∃ l ∈ before ++ (done ++ ds) :: after, d.DoneBy p l := by
    obtain ⟨l, hl, hby⟩ := h.exists_done hp hd
    simp only [List.mem_append, List.mem_cons] at hl ⊢
    rcases hl with hl | rfl | hl
    · exact ⟨l, .inl hl, hby⟩
    · obtain ⟨q, hq, hfound⟩ := hby
      exact ⟨l ++ ds, .inr (.inl rfl), q, hq.trans (List.prefix_append ..), hfound⟩
    · exact ⟨l, .inr (.inr hl), hby⟩
  refine ⟨?_, ?_, fun {p d} hp hd => ?_⟩
  · refine (h.perm.append_right ds).trans ?_
    simp only [List.flatten_append, List.flatten_cons, List.append_assoc]
    exact (List.perm_append_comm.append_left done).append_left _
  · simp only [List.forall_mem_append, List.forall_mem_cons]
    refine ⟨fun l hl => ?_, hdone.append_right ds, fun l hl => ?_⟩
    · exact (hbefore l hl).trans (List.sublist_append_left ..)
    · exact (hafter l hl).trans (List.sublist_append_left ..)
  · obtain hp | ⟨q, rfl, hq⟩ := prefix_append_cases hp
    · exact hold hp hd
    · rcases List.mem_append.mp hd with hd | hd
      · obtain ⟨l, hl, q', hq', hmem, hsub⟩ := hold (List.prefix_refl log) hd
        exact ⟨l, hl, q', hq', hmem, hsub.trans (List.sublist_append_left ..)⟩
      · exact ⟨done ++ ds, by simp, done ++ q, (List.prefix_append_right_inj _).mpr hq,
          List.mem_append_right _ hd, hdone.append_right q⟩

end Interleaved

namespace Chronicle

variable {aside : World → World → Prop} {w w' : World} {log : List Deed}
  {lives before after : List Life} {life : Life}

/-- A chronicle may be read with fewer assumptions on what goes on beside the calls. -/
theorem mono {aside' : World → World → Prop} (hsub : ∀ w w', aside w w' → aside' w w')
    (h : Chronicle aside w log lives) : Chronicle aside' w log lives := by
  induction h with
  | empty settings recording => exact .empty settings recording
  | aside _ hstep ih => exact .aside ih (hsub _ _ hstep)
  | start task op arg _ hfits hdid st ih => exact .start task op arg ih hfits hdid st
  | resume _ hpoll hgoes hdid st ih => exact .resume ih hpoll hgoes hdid st
  | abandon _ hpoll hgoes ih => exact .abandon ih hpoll hgoes

/-- **Any call may begin**, and then it has a story. -/
theorem exists_start (h : Chronicle aside w log lives) (task : TaskId) {op : Operation}
    (arg : Json) (hfits : op.Fits w) : ∃ ds st, Chronicle aside (op.start task arg w).2 (log ++ ds)
      (lives ++ [⟨task, op, arg, ds, (op.start task arg w).1, st, false⟩]) := by
  obtain ⟨ds, hdid, ⟨st⟩⟩ := op.start_tells task arg w
  exact ⟨ds, st, .start task op arg h hfits hdid st⟩

/-- **Any blocked call may be resumed**, and then its story goes on. -/
theorem exists_resume {c : Call} (h : Chronicle aside w log (before ++ life :: after))
    (hpoll : life.poll = .pending c) (hgoes : life.cancelled = false) :
    ∃ ds st, Chronicle aside (c.resume life.task w).2 (log ++ ds) (before ++
      ⟨life.task, life.op, life.arg, life.deeds ++ ds, (c.resume life.task w).1, st, false⟩ ::
        after) := by
  obtain ⟨ds, hdid, ⟨st⟩⟩ := Call.resume_tells life.task life.story hpoll w
  exact ⟨ds, st, .resume h hpoll hgoes hdid st⟩

/-- **What was done was done for the calls**, for each of them in the order of its story. -/
theorem interleaved (h : Chronicle aside w log lives) :
    Interleaved log (lives.map Life.done) := by
  induction h with
  | empty => exact .nil
  | aside _ _ ih => exact ih
  | @start _ _ _ ds _ _ _ _ _ _ _ ih => simpa [Life.done] using ih.start.extend ds
  | @resume _ _ _ _ _ _ ds _ _ hgoes _ _ ih =>
    rw [List.map_append, List.map_cons] at ih ⊢
    simpa [Life.done, hgoes] using ih.extend ds
  | @abandon _ _ _ _ _ c _ hpoll hgoes ih =>
    rw [List.map_append, List.map_cons] at ih ⊢
    simpa [Life.done, hgoes, hpoll, Poll.undoing] using ih.extend c.undoing

theorem log_perm (h : Chronicle aside w log lives) : log.Perm (lives.flatMap Life.done) :=
  h.interleaved.perm

/-- Every call that began has its components. -/
theorem fits (hgrows : ∀ w w', aside w w' → w.Grows w') (h : Chronicle aside w log lives) :
    ∀ life ∈ lives, life.op.Fits w := by
  -- The operation of a new call has its parts in the world in which the call begins, and every step
  -- keeps what is there.
  induction h with
  | empty settings recording => simp
  | aside _ hstep ih => exact fun life hlife => (ih life hlife).grow (hgrows _ _ hstep)
  | start task op arg _ hfits hdid st ih =>
    refine List.forall_mem_append.mpr ⟨fun life hlife => (ih life hlife).grow hdid.grows, ?_⟩
    simpa using hfits.grow hdid.grows
  | resume _ hpoll hgoes hdid st ih =>
    intro life hlife
    simp only [List.mem_append, List.mem_cons] at hlife ih
    rcases hlife with hlife | rfl | hlife
    · exact (ih life (.inl hlife)).grow hdid.grows
    · exact (ih _ (.inr (.inl rfl))).grow hdid.grows
    · exact (ih life (.inr (.inr hlife))).grow hdid.grows
  | @abandon w _ _ _ _ c _ hpoll hgoes ih =>
    have hgrow : w.Grows (c.abandon w) := (c.abandon_did 0 w).grows
    intro life hlife
    simp only [List.mem_append, List.mem_cons] at hlife ih
    rcases hlife with hlife | rfl | hlife
    · exact (ih life (.inl hlife)).grow hgrow
    · exact (ih _ (.inr (.inl rfl))).grow hgrow
    · exact (ih life (.inr (.inr hlife))).grow hgrow

/-- **What every deed keeps, and everything beside the calls, holds throughout a chronicle.** A deed
is done in a world that has the parts of its operation. -/
theorem invariant {motive : World → List Deed → Prop}
    (hgrows : ∀ w w', aside w w' → w.Grows w')
    (hempty : ∀ settings recording,
      motive { settings := settings, recording := recording } [])
    (haside : ∀ w w' log, aside w w' → motive w log → motive w' log)
    (hdeed : ∀ task (op : Operation) d w w' log, op.Fits w → d.IsFor op.parts →
      d.Does task w w' → motive w log → motive w' (log ++ [d]))
    (h : Chronicle aside w log lives) : motive w log := by
  -- Deed by deed within a turn: the operation still has its parts, because worlds only grow.
  have hdid {task : TaskId} {op : Operation} {w w' : World} {log ds : List Deed}
      (hfits : op.Fits w) (hds : ∀ d ∈ ds, d.IsFor op.parts) (h : Did task w ds w')
      (hlog : motive w log) : motive w' (log ++ ds) := by
    induction h generalizing log with
    | nil w => rwa [List.append_nil]
    | cons hfirst _ ih =>
      obtain ⟨hd, hrest⟩ := List.forall_mem_cons.mp hds
      have hnext := hdeed _ _ _ _ _ _ hfits hd hfirst hlog
      rw [List.append_cons]
      exact ih (hfits.grow hfirst.grows) hrest hnext
  have hthere {w : World} {log : List Deed} {lives : List Life} (h : Chronicle aside w log lives) :
      ∀ life ∈ lives, life.op.Fits w := h.fits hgrows
  induction h with
  | empty settings recording => exact hempty settings recording
  | aside _ hstep ih => exact haside _ _ _ hstep ih
  | start task op arg _ hfits hdone st ih => exact hdid hfits st.isFor hdone ih
  | @resume _ _ _ life _ _ _ h _ _ hdone st ih =>
    have hfits := hthere h life (by simp)
    exact hdid hfits (fun d hd => st.isFor d (List.mem_append_right _ hd)) hdone ih
  | @abandon w _ _ life _ c h hpoll _ ih =>
    have hfits := hthere h life (by simp)
    exact hdid hfits (life.story.isFor_undoing hpoll) (c.abandon_did life.task w) ih

end Chronicle

end Resilience
