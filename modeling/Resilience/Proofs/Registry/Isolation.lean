import Resilience.Proofs.Registry.Turns
import Resilience.Proofs.Session.Commands

/-!
# Runs of requests

A run serves requests one after the other, each at its own time and with its own next number
(`Asked`). Seen from one key it is the run of the requests about that key, with the others left out
(`run_only`): these are answered the same, and the component comes to the same and is told of in the
same way. So components are isolated, whatever is asked of the others in between.

Breakers are found by their names, and for them this holds of any run. Limiters and buckets are
found by numbers, so theirs have to come in rising order, or two of them could be given the same one
(`KeepsApart`).

The first mention of a key decides on the configuration of its component (`config?_run`), every
later one is shown the same component (`shown_of_mem_run`), and such a mention changes nothing but
the time (`serve_of_mentions`).
-/

namespace Resilience

namespace Registry

/-! ### Runs -/

/-- A request, with the time at which it comes and the number that is given out next then. -/
structure Asked where
  time : Instant
  number : Nat
  request : Request

/-- The world as the request finds it. -/
def Asked.meets (a : Asked) (w : World) : World := { w with now := a.time, serial := a.number }

/-- Serves a request when it comes. -/
def Asked.serve (a : Asked) (w : World) : Answer × World := a.request.serve (a.meets w)

/-- The configuration that a request mentions the component behind a key with. -/
def Asked.mentions? (settings : Settings) (key : Key) (a : Asked) : Option Configuration :=
  if a.request.about = key then a.request.mentioned? settings else none

/-- Serves requests one after the other, and tells what was asked and answered. -/
def run : List Asked → World → List (Asked × Answer) × World
  | [], w => ([], w)
  | a :: rest, w =>
    let (answer, w) := a.serve w
    let (answers, w) := run rest w
    ((a, answer) :: answers, w)

/-- The requests about a key. -/
def only (key : Key) (asked : List Asked) : List Asked :=
  asked.filter fun a => a.request.about = key

/-- What was asked and answered about a key. -/
def heard (key : Key) (answers : List (Asked × Answer)) : List (Asked × Answer) :=
  answers.filter fun p => p.1.request.about = key

/-- Numbers are given out in rising order, and a request takes one at most. -/
def Numbered (w : World) (asked : List Asked) : Prop :=
  (asked.Pairwise fun a b => a.number < b.number) ∧ ∀ a ∈ asked, w.serial ≤ a.number

/-- Requests that come with new numbers keep limiters and buckets apart. Breakers have none. -/
def KeepsApart (key : Key) (w : World) (asked : List Asked) : Prop :=
  key.kind = .breaker ∨ (w.Listed ∧ Numbered w asked)

variable {w v w' v' : World} {key : Key} {a : Asked} {asked more : List Asked}

/-! ### One request -/

theorem seen_meets (a : Asked) (w : World) (key : Key) : (a.meets w).seen key = w.seen key :=
  World.seen_congr rfl rfl rfl rfl rfl

theorem alike_meets (h : w.Alike key v) (a : Asked) : (a.meets w).Alike key (a.meets v) :=
  ⟨h.settings, h.recording, by rw [seen_meets, seen_meets, h.seen], h.told⟩

theorem Asked.turns (a : Asked) (w : World) : ∃ event? after,
    Turns a.request.about (a.request.mentioned? w.settings) event? after (a.meets w)
      (a.serve w).2 := by
  obtain ⟨-, event?, after, hturns, -⟩ := a.request.agrees (w := a.meets w) rfl rfl rfl rfl
  exact ⟨event?, after, hturns⟩

/-- Worlds that are alike stay so when the component takes the same turn in both. -/
theorem Turns.alike {mention? : Option Configuration} {event? : Option Event} {after : Seen}
    (h : w.Alike key v) (hw : Turns key mention? event? after w w')
    (hv : Turns key mention? event? after v v') : w'.Alike key v' where
  settings := hv.settings.trans (h.settings.trans hw.settings.symm)
  recording := hv.recording.trans (h.recording.trans hw.recording.symm)
  seen := hv.seen.trans hw.seen.symm
  told := by rw [hv.told, hw.told, h.told, h.recording]

theorem settings_serve (a : Asked) (w : World) : (a.serve w).2.settings = w.settings := by
  obtain ⟨_, _, hturns⟩ := a.turns w
  exact hturns.settings

theorem KeepsApart.distinct (h : KeepsApart key w (a :: asked)) : (a.meets w).Distinct key :=
  h.imp_right fun ⟨hlisted, hnumbered⟩ =>
    have hle := hnumbered.2 a List.mem_cons_self
    ⟨hlisted.limiters.mono hle, hlisted.buckets.mono hle⟩

theorem KeepsApart.tail (h : KeepsApart key w (a :: asked)) :
    KeepsApart key (a.serve w).2 asked := by
  refine h.imp_right fun ⟨hlisted, hnumbered⟩ => ?_
  obtain ⟨_, _, hturns⟩ := a.turns w
  obtain ⟨hfirst, hrest⟩ := List.pairwise_cons.mp hnumbered.1
  have hle := hnumbered.2 a List.mem_cons_self
  exact ⟨hturns.listed ⟨hlisted.limiters.mono hle, hlisted.buckets.mono hle⟩, hrest,
    fun b hb => hturns.le_serial.trans (hfirst b hb)⟩

/-! ### Isolation -/

/-- **A run is, for the component behind a key, the run of the requests about that key.** They are
answered the same, and the component and what is told of it come out the same. -/
theorem run_only (h : w.Alike key v) (hapart : KeepsApart key w asked) :
    heard key (run asked w).1 = (run (only key asked) v).1 ∧
      (run asked w).2.Alike key (run (only key asked) v).2 := by
  induction asked generalizing w v with
  | nil => exact ⟨rfl, h⟩
  | cons a rest ih =>
    by_cases habout : a.request.about = key
    · -- Both worlds agree on a request about the key.
      subst habout
      obtain ⟨hanswer, event?, after, hw, hv⟩ := a.request.agrees (w := a.meets w)
        (v := a.meets v) h.settings rfl rfl (by rw [seen_meets, seen_meets, h.seen])
      obtain ⟨hheard, halike⟩ := ih (Turns.alike (alike_meets h a) hw hv) hapart.tail
      have honly : only a.request.about (a :: rest) = a :: only a.request.about rest :=
        List.filter_cons_of_pos (by simp)
      rw [honly]
      refine ⟨?_, halike⟩
      have hall : heard a.request.about (run (a :: rest) w).1 =
          (a, (a.serve w).1) :: heard a.request.about (run rest (a.serve w).2).1 :=
        List.filter_cons_of_pos (by simp)
      have hsame : (a.serve v).1 = (a.serve w).1 := hanswer
      rw [hall, ← hsame]
      exact congrArg (List.cons _) hheard
    · -- A request about another key leaves this one alone.
      obtain ⟨_, _, hturns⟩ := a.turns w
      have hspared : (a.meets w).Alike key (a.serve w).2 :=
        hturns.others (Ne.symm habout) hapart.distinct
      have hmet : (a.meets w).Alike key v :=
        ⟨h.settings, h.recording, h.seen.trans (seen_meets ..).symm, h.told⟩
      have honly : only key (a :: rest) = only key rest :=
        List.filter_cons_of_neg (by simpa using habout)
      have hall : heard key (run (a :: rest) w).1 = heard key (run rest (a.serve w).2).1 :=
        List.filter_cons_of_neg (by simpa using habout)
      rw [honly, hall]
      exact ih (hspared.symm.trans hmet) hapart.tail

/-! ### The first configuration wins -/

theorem config?_serve (hdistinct : (a.meets w).Distinct key) :
    ((a.serve w).2.seen key).config? =
      (w.seen key).config?.or (a.mentions? w.settings key) := by
  obtain ⟨_, _, hturns⟩ := a.turns w
  rw [← seen_meets a w key, Asked.mentions?]
  split
  · next habout =>
    subst habout
    rw [hturns.seen]
    exact hturns.config hdistinct
  · next habout =>
    rw [(hturns.others (Ne.symm habout) hdistinct).seen, Option.or_none]

theorem id?_serve (hdistinct : (a.meets w).Distinct key) {id : ComponentId}
    (hid : (w.seen key).id? = some id) : ((a.serve w).2.seen key).id? = some id := by
  obtain ⟨_, _, hturns⟩ := a.turns w
  rw [← seen_meets a w key] at hid
  by_cases habout : a.request.about = key
  · subst habout
    rw [hturns.seen]
    exact hturns.id hid
  · rw [(hturns.others (Ne.symm habout) hdistinct).seen, hid]

theorem settings_run (asked : List Asked) (w : World) : (run asked w).2.settings = w.settings := by
  induction asked generalizing w with
  | nil => rfl
  | cons a rest ih => exact (ih _).trans (settings_serve a w)

/-- **The component behind a key has the configuration that it had before or that of the first
mention**, and is there if there was one or the other. -/
theorem config?_run (hapart : KeepsApart key w asked) : ((run asked w).2.seen key).config? =
    (w.seen key).config?.or (asked.findSome? (Asked.mentions? w.settings key)) := by
  induction asked generalizing w with
  | nil => exact (Option.or_none ..).symm
  | cons a rest ih =>
    have hrest := ih hapart.tail
    rw [settings_serve, config?_serve hapart.distinct, Option.or_assoc] at hrest
    rw [List.findSome?_cons]
    cases hmention : a.mentions? w.settings key with
    | none => rwa [hmention, Option.none_or] at hrest
    | some config => rwa [hmention, Option.some_or] at hrest

/-- A component that has a number keeps it. -/
theorem id?_run (hapart : KeepsApart key w asked) {id : ComponentId}
    (hid : (w.seen key).id? = some id) : ((run asked w).2.seen key).id? = some id := by
  induction asked generalizing w with
  | nil => exact hid
  | cons a rest ih => exact ih hapart.tail (id?_serve hapart.distinct hid)

theorem run_append (asked more : List Asked) (w : World) : run (asked ++ more) w =
    ((run asked w).1 ++ (run more (run asked w).2).1, (run more (run asked w).2).2) := by
  induction asked generalizing w with
  | nil => rfl
  | cons a rest ih =>
    simp only [List.cons_append, run, ih]

theorem KeepsApart.right (h : KeepsApart key w (asked ++ more)) :
    KeepsApart key (run asked w).2 more := by
  induction asked generalizing w with
  | nil => exact h
  | cons a rest ih => exact ih h.tail

/-- What was answered to a request was answered after the requests before it. -/
theorem exists_of_mem_run {answer : Answer} (h : (a, answer) ∈ (run asked w).1) :
    ∃ before behind, asked = before ++ a :: behind ∧ answer = (a.serve (run before w).2).1 := by
  induction asked generalizing w with
  | nil => cases h
  | cons b rest ih =>
    rcases List.mem_cons.mp h with heq | hrest
    · cases heq
      exact ⟨[], rest, rfl, rfl⟩
    · obtain ⟨before, behind, rfl, hanswer⟩ := ih hrest
      exact ⟨b :: before, behind, rfl, hanswer⟩

/-- A mention shows the component that it leads to. -/
theorem answer_of_mentions {config : Configuration} (h : a.mentions? w.settings key = some config) :
    (a.serve w).1 = .shown ((a.serve w).2.seen key) := by
  obtain ⟨time, number, request⟩ := a
  rw [Asked.mentions?] at h
  split at h
  · next habout =>
    subst habout
    cases request <;> first | rfl | cases h
  · cases h

/-- A limiter or a bucket that is there has a number. -/
theorem exists_id_of_config? {config : Configuration} (hkind : key.kind ≠ .breaker)
    (h : (w.seen key).config? = some config) : ∃ id, (w.seen key).id? = some id := by
  obtain ⟨kind, name⟩ := key
  cases kind with
  | breaker => exact absurd rfl hkind
  | limiter | bucket =>
    obtain ⟨c, hc, -⟩ := Option.map_eq_some_iff.mp h
    obtain ⟨id, hid, -⟩ := Option.bind_eq_some_iff.mp hc
    exact ⟨id, hid⟩

/-- **Every mention leads to one component**, with the configuration of the first. -/
theorem shown_of_mem_run (hapart : KeepsApart key w asked) {answer : Answer}
    {config : Configuration} (hmem : (a, answer) ∈ (run asked w).1)
    (hmention : a.mentions? w.settings key = some config) : ∃ seen, answer = .shown seen ∧
      seen.config? = ((run asked w).2.seen key).config? ∧
      seen.id? = ((run asked w).2.seen key).id? := by
  obtain ⟨before, behind, rfl, rfl⟩ := exists_of_mem_run hmem
  have hafter : (run (before ++ a :: behind) w).2 =
      (run behind (a.serve (run before w).2).2).2 := by
    rw [run_append]
    rfl
  have hnext := hapart.right
  have hsettings : a.mentions? (run before w).2.settings key = some config := by
    rw [settings_run, hmention]
  -- The component is there with a configuration, so later requests leave it as it is.
  have hthere : ∃ there, ((a.serve (run before w).2).2.seen key).config? = some there := by
    rw [config?_serve hnext.distinct, hsettings]
    cases ((run before w).2.seen key).config? with
    | none => exact ⟨config, rfl⟩
    | some there => exact ⟨there, rfl⟩
  obtain ⟨there, hthere⟩ := hthere
  refine ⟨_, answer_of_mentions hsettings, ?_, ?_⟩
  · rw [hafter, config?_run hnext.tail, hthere, Option.some_or]
  · rw [hafter]
    by_cases hkind : key.kind = .breaker
    · obtain ⟨kind, name⟩ := key
      cases hkind
      rfl
    · obtain ⟨id, hid⟩ := exists_id_of_config? hkind hthere
      rw [hid, id?_run hnext.tail hid]

/-- A number leads to one key of its kind. -/
theorem key_eq_of_id? (h : w.Listed) {key' : Key} {id : ComponentId}
    (hkind : key.kind = key'.kind) (hid : (w.seen key).id? = some id)
    (hid' : (w.seen key').id? = some id) : key = key' := by
  obtain ⟨kind, name⟩ := key
  obtain ⟨kind', name'⟩ := key'
  obtain rfl : kind = kind' := hkind
  cases kind with
  | breaker => cases hid
  | limiter =>
    obtain ⟨-, c, hc, rfl⟩ := h.limiters name id hid
    obtain ⟨-, c', hc', rfl⟩ := h.limiters name' id hid'
    rw [Option.some.inj (hc.symm.trans hc')]
  | bucket =>
    obtain ⟨-, c, hc, rfl⟩ := h.buckets name id hid
    obtain ⟨-, c', hc', rfl⟩ := h.buckets name' id hid'
    rw [Option.some.inj (hc.symm.trans hc')]

/-- A later mention changes nothing but the time. -/
theorem serve_of_mentions {config there : Configuration}
    (h : a.mentions? w.settings key = some config) (hthere : (w.seen key).config? = some there) :
    (a.serve w).2 = a.meets w := by
  obtain ⟨time, number, request⟩ := a
  rw [Asked.mentions?] at h
  split at h
  · next habout =>
    subst habout
    cases request with
    | openBreaker name config? =>
      obtain ⟨c, hc, -⟩ := Option.map_eq_some_iff.mp hthere
      have hhas : Table.has name w.breakers = true := by rw [Table.has, hc]; rfl
      exact if_pos hhas
    | openLimiter name config? =>
      obtain ⟨c, hc, -⟩ := Option.map_eq_some_iff.mp hthere
      obtain ⟨id, hid, -⟩ := Option.bind_eq_some_iff.mp hc
      have hname : w.limiterNames.get? name = some id := hid
      simp only [Asked.serve, Asked.meets, Request.serve, World.openLimiter, hname]
    | openBucket name config? =>
      obtain ⟨c, hc, -⟩ := Option.map_eq_some_iff.mp hthere
      obtain ⟨id, hid, -⟩ := Option.bind_eq_some_iff.mp hc
      have hname : w.bucketNames.get? name = some id := hid
      simp only [Asked.serve, Asked.meets, Request.serve, World.openBucket, hname]
    | breaker | limiter | bucket => cases h
  · cases h

end Registry

end Resilience
