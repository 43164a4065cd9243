import Resilience.Proofs.Session.Orderly
import Resilience.Proofs.Limiter.Overflow

/-!
# What the gauges of the lines count

A limiter and a bucket tell how many places are in line, and a caller that was cancelled leaves its
place behind. So the gauge tells how many callers wait and how many places were **abandoned**: both
add up to it in every state (`Queue.length_eq`), and there are no more abandoned places than callers
that gave up.

A move abandons a place exactly when it cancels a caller that is in line, and no other move makes
the abandoned places more (`Queue.Keeps`). So the gauge tells how many callers wait, all the way
along a run, if and only if nobody was cancelled in line (`Queue.exact_iff`). A limiter clears the
abandoned places away when a caller comes and finds all slots in use; a bucket does so when a refill
has served everybody, and when it is closed.
-/

namespace Resilience

/-! ### Abandoned places -/

namespace Queue

variable {ticket : Ticket} {queue : List Waiter}

/-- How many places in line are of callers that gave up. -/
def abandoned (queue : List Waiter) : Nat := queue.countP fun w => ¬ w.live

/-- Every place is that of a caller who waits, or it is abandoned. -/
theorem length_eq (queue : List Waiter) :
    queue.length = (waiting queue).length + abandoned queue := by
  have hlive : (waiting queue).length = queue.countP (·.live) := by
    rw [waiting, List.length_map, List.countP_eq_length_filter]
  rw [hlive]
  exact List.length_eq_countP_add_countP fun w : Waiter => w.live

@[simp]
theorem abandoned_purge (queue : List Waiter) : abandoned (purge queue) = 0 := by
  have hlength := length_eq (purge queue)
  rw [waiting_purge, length_purge] at hlength
  omega

@[simp]
theorem abandoned_come (queue : List Waiter) (ticket : Ticket) (caller : TaskId) :
    abandoned (queue ++ [⟨ticket, caller, true⟩]) = abandoned queue := by
  simp [abandoned]

/-- Whoever is served leaves an end of the line. -/
theorem suffix_of_next? {rest : List Waiter} {w : Waiter} (h : next? queue = some (w, rest)) :
    rest <:+ queue := by
  unfold next? at h
  have hsuffix := List.dropWhile_suffix (l := queue) fun w : Waiter => ¬ w.live
  split at h
  · cases h
  · next heq =>
    obtain ⟨rfl, rfl⟩ := Prod.mk.inj (Option.some.inj h)
    exact (List.suffix_cons ..).trans (heq ▸ hsuffix)

theorem suffix_serve (n : Nat) (queue : List Waiter) : (serve n queue).2.2 <:+ queue := by
  induction n, queue using serve.induct with
  | case1 queue => simp [serve]
  | case2 n => simp [serve]
  | case3 n w queue hlive served left rest _ ih =>
    simp only [serve, hlive, if_true]
    exact ih.trans (List.suffix_cons ..)
  | case4 n w queue hdead ih =>
    simp only [serve, hdead]
    exact ih.trans (List.suffix_cons ..)

theorem abandoned_le_of_suffix {rest : List Waiter} (h : rest <:+ queue) :
    abandoned rest ≤ abandoned queue :=
  h.sublist.countP_le

/-- Whoever gives up in line abandons its place. -/
theorem abandoned_giveUp (hnodup : (waiting queue).Nodup) (h : ticket ∈ waiting queue) :
    abandoned (giveUp ticket queue) = abandoned queue + 1 := by
  have hbefore := length_eq queue
  have hafter := length_eq (giveUp ticket queue)
  rw [length_giveUp, waiting_giveUp_eq_erase hnodup, List.length_erase_of_mem h] at hafter
  have hpos := List.length_pos_of_mem h
  omega

theorem abandoned_giveUp_of_not_mem (hnodup : (waiting queue).Nodup) (h : ticket ∉ waiting queue) :
    abandoned (giveUp ticket queue) = abandoned queue := by
  have hbefore := length_eq queue
  have hafter := length_eq (giveUp ticket queue)
  rw [length_giveUp, waiting_giveUp_eq_erase hnodup, List.erase_of_not_mem h] at hafter
  omega

/-- What a move does to a line: it abandons one place more if it takes a caller out of the line, and
none otherwise. -/
structure Keeps (leaves : Prop) (queue queue' : List Waiter) : Prop where
  abandoned_of_leaves : leaves → abandoned queue' = abandoned queue + 1
  abandoned_le : ¬ leaves → abandoned queue' ≤ abandoned queue

theorem Keeps.of_le {leaves : Prop} {queue' : List Waiter} (hstays : ¬ leaves)
    (hle : abandoned queue' ≤ abandoned queue) : Keeps leaves queue queue' where
  abandoned_of_leaves hleaves := absurd hleaves hstays
  abandoned_le _ := hle

/-- A caller that gives up in line, or somewhere else. -/
theorem Keeps.giveUp {leaves : Prop} (hnodup : (waiting queue).Nodup)
    (hleaves : leaves ↔ ticket ∈ waiting queue) :
    Keeps leaves queue (Queue.giveUp ticket queue) where
  abandoned_of_leaves h := abandoned_giveUp hnodup (hleaves.mp h)
  abandoned_le h := (abandoned_giveUp_of_not_mem hnodup fun hmem => h (hleaves.mpr hmem)).le

/-- If those that gave up in line are counted as well, there are no more abandoned places than
those. -/
theorem Keeps.abandoned_le_of_le {leaves : Prop} {queue' : List Waiter} {n n' : Nat}
    (h : Keeps leaves queue queue') (hle : abandoned queue ≤ n) (hmore : n ≤ n')
    (hleaves : leaves → n + 1 ≤ n') : abandoned queue' ≤ n' := by
  by_cases hleft : leaves
  · have habandoned := h.abandoned_of_leaves hleft
    have hcounted := hleaves hleft
    omega
  · exact (h.abandoned_le hleft).trans (hle.trans hmore)

/-- **Along a run no place is abandoned if and only if nobody leaves the line.** -/
theorem exact_iff {μ : Type} {line : List μ → List Waiter} {leaves : List μ → μ → Prop}
    (hstart : abandoned (line []) = 0)
    (hkeeps : ∀ moves move, Keeps (leaves moves move) (line moves) (line (moves ++ [move])))
    (moves : List μ) : (∀ first, first <+: moves → abandoned (line first) = 0) ↔
      ∀ first move, first ++ [move] <+: moves → ¬ leaves first move := by
  constructor
  · intro hexact first move hprefix hleaves
    have hbefore := hexact first ((List.prefix_append ..).trans hprefix)
    have hafter := (hkeeps first move).abandoned_of_leaves hleaves
    rw [hexact _ hprefix, hbefore] at hafter
    cases hafter
  · -- Nothing is abandoned at first, and a move that nobody leaves with abandons nothing.
    intro hstay first hprefix
    induction first using List.reverseRecOn with
    | nil => exact hstart
    | append_singleton first move ih =>
      have hbefore := ih ((List.prefix_append ..).trans hprefix)
      have hle := (hkeeps first move).abandoned_le (hstay first move hprefix)
      exact Nat.eq_zero_of_le_zero (hbefore ▸ hle)

end Queue

/-- Whatever takes the place of something else is counted on top. -/
theorem count_set_of_getElem? {α : Type} [DecidableEq α] {l : List α} {n : Nat} {a x : α}
    (hn : l[n]? = some a) (hne : a ≠ x) (b : α) :
    (l.set n b).count x = l.count x + if b = x then 1 else 0 := by
  obtain ⟨hlt, rfl⟩ := List.getElem?_eq_some_iff.mp hn
  rw [List.count_set hlt]
  simp [hne]

/-! ### The line of a limiter -/

namespace Limiter

variable {config : Config}

theorem abandoned_release (l : Limiter) :
    Queue.abandoned l.release.2.queue ≤ Queue.abandoned l.queue := by
  unfold release
  split
  · next hnext => exact Queue.abandoned_le_of_suffix (Queue.suffix_of_next? hnext)
  · exact Nat.zero_le _

namespace History

variable {h : History} {n : Nat} {v : Visit} {ticket : Ticket}

/-- The gauge tells how many callers wait. -/
def Exact (h : History) : Prop :=
  h.limiter.queued = (h.visits.filterMap Visit.waiting?).length

/-- The move takes a caller out of the line: it is cancelled while it waits. -/
def Leaves (h : History) : Move → Prop
  | .cancel n => ∃ ticket, h.visits[n]? = some (.waiting ticket)
  | _ => False

theorem Sound.queued_eq (hs : Sound config 0 h) : h.limiter.queued =
    (h.visits.filterMap Visit.waiting?).length + Queue.abandoned h.limiter.queue :=
  hs.line ▸ Queue.length_eq h.limiter.queue

theorem Sound.exact_iff (hs : Sound config 0 h) :
    h.Exact ↔ Queue.abandoned h.limiter.queue = 0 := by
  have hqueued := hs.queued_eq
  rw [Exact]
  omega

/-- Whoever comes finds no abandoned place in line afterwards. -/
theorem Sound.abandoned_ask (hs : Sound config 0 h) (caller : TaskId) :
    Queue.abandoned (h.limiter.ask config ⟨ticket, caller, true⟩).2.queue = 0 := by
  obtain ⟨hfree, hask⟩ | ⟨-, -, hask⟩ | ⟨-, hask⟩ :=
    h.limiter.ask_cases config ⟨ticket, caller, true⟩
  · -- There is no line while a slot is free.
    have hnobody : h.limiter.queue = [] := by
      by_contra hne
      exact absurd (hs.busy hne) hfree.ne
    rw [hask, hnobody]
    rfl
  · rw [hask, Queue.abandoned_come, Queue.abandoned_purge]
  · rw [hask, Queue.abandoned_purge]

theorem limiter_ask (hnew : ticket ∉ h.visits.filterMap Visit.ticket?) (caller : TaskId) :
    (h.ask config ticket caller).limiter =
      (h.limiter.ask config ⟨ticket, caller, true⟩).2 := by
  rw [History.ask, if_neg hnew]
  split <;> next heq => rw [heq]

/-- A caller that is cancelled abandons its place, or passes on the slot that it was handed. -/
theorem Sound.keeps_cancel (hs : Sound config 0 h) (n : Nat) :
    Queue.Keeps (∃ ticket, h.visits[n]? = some (.waiting ticket)) h.limiter.queue
      (h.cancel n).limiter.queue := by
  unfold History.cancel
  cases hn : h.visits[n]? with
  | none => exact .of_le (by simp) (le_refl _)
  | some v =>
    dsimp only
    cases ht : v.ticket? with
    | none =>
      refine .of_le ?_ (le_refl _)
      rintro ⟨ticket, ⟨⟩⟩
      cases ht
    | some ticket =>
      have hmem := hs.mem_granted_iff (List.mem_of_getElem? hn) ht
      -- A caller that was handed a slot has no place in line any more.
      by_cases hgranted : ticket ∈ h.limiter.granted
      · obtain rfl := hmem.mp hgranted
        simp only [Limiter.giveUp, if_pos hgranted]
        exact .of_le (by simp)
          (abandoned_release { h.limiter with granted := h.limiter.granted.erase ticket })
      · obtain rfl : v = .waiting ticket := by cases v <;> simp_all
        simp only [Limiter.giveUp, if_neg hgranted]
        refine .giveUp hs.nodup_waiting (iff_of_true ⟨ticket, rfl⟩ ?_)
        rw [hs.line]
        exact List.mem_filterMap.mpr ⟨_, List.mem_of_getElem? hn, rfl⟩

/-- **A move abandons a place exactly when it takes a caller out of the line.** -/
theorem Sound.keeps (hs : Sound config 0 h) (move : Move) :
    Queue.Keeps (h.Leaves move) h.limiter.queue (h.step config move).limiter.queue := by
  cases move with
  | ask ticket caller =>
    refine .of_le id ?_
    change Queue.abandoned (h.ask config ticket caller).limiter.queue ≤ _
    by_cases hused : ticket ∈ h.visits.filterMap Visit.ticket?
    · rw [History.ask, if_pos hused]
    · -- The line is purged before anybody joins it.
      rw [limiter_ask hused, hs.abandoned_ask]
      exact Nat.zero_le _
  | resume n =>
    refine .of_le id (le_of_eq ?_)
    simp only [History.step, History.resume]
    split
    · split
      · next hpick =>
        obtain ⟨-, rfl⟩ := pickUp?_eq_some hpick
        rfl
      · rfl
    · rfl
  | release n =>
    refine .of_le id ?_
    simp only [History.step, History.release]
    split
    · exact abandoned_release h.limiter
    · exact le_refl _
  | cancel n => exact hs.keeps_cancel n

/-- Nobody who gave up comes back, and whoever is cancelled in line gives up. -/
theorem count_gaveUp_step (config : Config) (h : History) (move : Move) :
    h.visits.count .gaveUp ≤ (h.step config move).visits.count .gaveUp ∧
      (h.Leaves move → h.visits.count .gaveUp + 1 ≤ (h.step config move).visits.count .gaveUp) := by
  cases move with
  | ask ticket caller =>
    refine ⟨?_, False.elim⟩
    simp only [History.step, History.ask]
    split
    · exact le_refl _
    · split <;> simp
  | resume n =>
    refine ⟨?_, False.elim⟩
    simp only [History.step, History.resume]
    split
    · next hbind =>
      split
      · -- Whoever runs again has a ticket, so it has not given up.
        obtain ⟨v, hn, ht⟩ := Option.bind_eq_some_iff.mp hbind
        have hne : v ≠ .gaveUp := by rintro rfl; cases ht
        exact Nat.le.intro (count_set_of_getElem? hn hne .inside).symm
      · exact le_refl _
    · exact le_refl _
  | release n =>
    refine ⟨?_, False.elim⟩
    simp only [History.step, History.release]
    split
    · next hn =>
      have hne : Visit.inside ≠ .gaveUp := by simp
      rw [count_serve rfl]
      exact Nat.le.intro (count_set_of_getElem? hn hne .left).symm
    · exact le_refl _
  | cancel n =>
    simp only [History.step, History.cancel, Leaves]
    cases hn : h.visits[n]? with
    | none => simp
    | some v =>
      dsimp only
      cases ht : v.ticket? with
      | none =>
        refine ⟨le_refl _, ?_⟩
        rintro ⟨ticket, ⟨⟩⟩
        cases ht
      | some ticket =>
        have hne : v ≠ .gaveUp := by rintro rfl; cases ht
        dsimp only
        rw [count_serve rfl, count_set_of_getElem? hn hne]
        refine ⟨Nat.le_add_right .., ?_⟩
        rintro ⟨ticket, ⟨⟩⟩
        exact le_refl _

/-- **Every abandoned place is that of a caller that gave up in line.** -/
theorem abandoned_le_count_gaveUp (config : Config) (moves : List Move) :
    Queue.abandoned (run config moves).limiter.queue ≤
      (run config moves).visits.count .gaveUp := by
  induction moves using List.reverseRecOn with
  | nil => exact le_refl _
  | append_singleton moves move ih =>
    rw [run_concat]
    obtain ⟨hmore, hleaves⟩ := count_gaveUp_step config (run config moves) move
    exact ((sound_run config moves).keeps move).abandoned_le_of_le ih hmore hleaves

/-- **The gauge of a limiter is exact all the way along a run if and only if nobody was cancelled
in line.** -/
theorem exact_iff (config : Config) (moves : List Move) :
    (∀ first, first <+: moves → (run config first).Exact) ↔
      ∀ first move, first ++ [move] <+: moves → ¬ (run config first).Leaves move := by
  have hkeeps (moves : List Move) (move : Move) : Queue.Keeps ((run config moves).Leaves move)
      (run config moves).limiter.queue (run config (moves ++ [move])).limiter.queue := by
    rw [run_concat]
    exact (sound_run config moves).keeps move
  simp only [(sound_run config _).exact_iff]
  exact Queue.exact_iff rfl hkeeps moves

end History

end Limiter

/-! ### The line of a bucket -/

namespace Bucket

variable {config : Config} {now : Instant} {b : Bucket}

theorem abandoned_refill (config : Config) (now : Instant) (b : Bucket) :
    Queue.abandoned (b.refill config now).2.queue ≤ Queue.abandoned b.queue := by
  unfold refill
  split
  · exact Queue.abandoned_le_of_suffix (Queue.suffix_serve config.capacity b.queue)
  · exact le_refl _

theorem abandoned_acquire (config : Config) (now : Instant) (ticket : Ticket) (caller : TaskId)
    (b : Bucket) : Queue.abandoned (b.acquire config now ⟨ticket, caller, true⟩).2.2.queue ≤
      Queue.abandoned b.queue := by
  have hrefill := abandoned_refill config now b
  obtain ⟨-, hask⟩ | ⟨-, -, hask⟩ | ⟨-, -, hask⟩ :=
    acquire_cases config now ⟨ticket, caller, true⟩ b
  · rw [hask]
  · rwa [hask]
  · rwa [hask, Queue.abandoned_come]

namespace Register

variable {r : Register} {ticket : Ticket}

/-- The gauge tells how many callers wait. -/
def Exact (r : Register) : Prop :=
  r.bucket.queued = (r.visits.filterMap Visit.waiting?).length

/-- The move takes a caller out of the line: it is cancelled while it waits. -/
def Leaves (r : Register) : Move → Prop
  | .giveUp ticket => .waiting ticket ∈ r.visits
  | _ => False

theorem Sound.queued_eq (hs : Sound r) : r.bucket.queued =
    (r.visits.filterMap Visit.waiting?).length + Queue.abandoned r.bucket.queue :=
  hs.listed.line ▸ Queue.length_eq r.bucket.queue

theorem Sound.exact_iff (hs : Sound r) : r.Exact ↔ Queue.abandoned r.bucket.queue = 0 := by
  have hqueued := hs.queued_eq
  rw [Exact]
  omega

/-- Nobody is in line, dead or alive, once the bucket has tokens or is closed. -/
theorem Sound.queued_eq_zero (hs : Sound r) (h : 0 < r.bucket.tokens ∨ r.bucket.closed = true) :
    r.bucket.queued = 0 :=
  List.length_eq_zero_iff.mpr (h.elim hs.idle hs.closed)

/-- A caller that is cancelled abandons its place, or loses the token that it was handed. -/
theorem Sound.keeps_giveUp (hs : Sound r) (ticket : Ticket) :
    Queue.Keeps (.waiting ticket ∈ r.visits) r.bucket.queue (r.giveUp ticket).bucket.queue := by
  have hwaits : .waiting ticket ∈ r.visits ↔ ticket ∈ Queue.waiting r.bucket.queue := by
    rw [← hs.listed.line, List.mem_filterMap]
    constructor
    · exact fun hmem => ⟨_, hmem, rfl⟩
    · rintro ⟨v, hmem, hv⟩
      exact Visit.eq_waiting hv ▸ hmem
  change Queue.Keeps _ _ (r.bucket.giveUp ticket).queue
  unfold Bucket.giveUp
  by_cases hgranted : ticket ∈ r.bucket.granted
  · -- The token is lost, and the line stays as it is.
    rw [if_pos hgranted]
    refine .of_le (fun hmem => ?_) (le_refl _)
    obtain ⟨n, hn⟩ := List.mem_iff_getElem?.mp hmem
    cases (hs.listed.mem_granted_iff hn rfl).mp hgranted
  · rw [if_neg hgranted]
    exact .giveUp hs.listed.nodup_line hwaits

/-- **A move abandons a place exactly when it takes a caller out of the line.** -/
theorem Sound.keeps (hs : Sound r) (move : Move) :
    Queue.Keeps (r.Leaves move) r.bucket.queue (r.step config move).bucket.queue := by
  cases move with
  | ask ticket caller =>
    refine .of_le id ?_
    rw [Register.step]
    by_cases hused : ticket ∈ r.visits.filterMap Visit.ticket?
    · rw [Register.ask, if_pos hused]
    · rw [ask_of_not_mem hused]
      exact abandoned_acquire ..
  | refill =>
    refine .of_le id ?_
    rw [Register.step, refill_eq]
    exact abandoned_refill ..
  | pickUp ticket =>
    refine .of_le id (le_of_eq ?_)
    simp only [Register.step, Register.pickUp]
    split
    · next hpick =>
      obtain ⟨-, rfl⟩ := pickUp?_eq_some hpick
      rfl
    · split <;> rfl
  | pass instant => exact .of_le id (le_refl _)
  | shutDown =>
    refine .of_le id ?_
    rw [Register.step, shutDown_eq]
    exact Nat.zero_le _
  | giveUp ticket => exact hs.keeps_giveUp ticket

/-- Nobody who gave up gets a ticket. -/
theorem count_gaveUp_turn (r : Register) (ticket : Ticket) (v : Visit) :
    r.visits.count .gaveUp ≤ (r.turn ticket v).visits.count .gaveUp := by
  by_cases hused : ticket ∈ r.visits.filterMap Visit.ticket?
  · obtain ⟨x, hn, hx⟩ := exists_number hused
    have hne : x ≠ .gaveUp := by rintro rfl; cases hx
    exact Nat.le.intro (count_set_of_getElem? hn hne v).symm
  · rw [turn_of_not_mem hused]

theorem count_gaveUp_handAll (served : List Waiter) (r : Register) :
    r.visits.count .gaveUp ≤ (served.foldl hand r).visits.count .gaveUp := by
  induction served generalizing r with
  | nil => exact le_refl _
  | cons w served ih => exact (count_gaveUp_turn r w.ticket _).trans (ih (r.hand w))

theorem count_gaveUp_dismissAll (told : List Waiter) (r : Register) :
    r.visits.count .gaveUp ≤ (told.foldl dismiss r).visits.count .gaveUp := by
  induction told generalizing r with
  | nil => exact le_refl _
  | cons w told ih => exact (count_gaveUp_turn r w.ticket _).trans (ih (r.dismiss w))

/-- Nobody who gave up comes back. -/
theorem count_gaveUp_step (config : Config) (r : Register) (move : Move) :
    r.visits.count .gaveUp ≤ (r.step config move).visits.count .gaveUp := by
  cases move with
  | ask ticket caller =>
    rw [Register.step]
    by_cases hused : ticket ∈ r.visits.filterMap Visit.ticket?
    · rw [Register.ask, if_pos hused]
    · rw [ask_of_not_mem hused]
      dsimp only [Register.come]
      rw [List.count_append]
      exact (count_gaveUp_handAll ..).trans (Nat.le_add_right ..)
  | refill =>
    rw [Register.step, refill_eq]
    exact count_gaveUp_handAll ..
  | pickUp ticket =>
    simp only [Register.step, Register.pickUp]
    split
    · exact count_gaveUp_turn ..
    · split
      · exact count_gaveUp_turn ..
      · exact le_refl _
  | giveUp ticket => exact count_gaveUp_turn ..
  | pass instant => exact le_refl _
  | shutDown =>
    rw [Register.step, shutDown_eq]
    exact count_gaveUp_dismissAll ..

/-- Whoever is cancelled in line gives up. -/
theorem Sound.count_gaveUp_of_leaves (hs : Sound r) {move : Move} (h : r.Leaves move) :
    r.visits.count .gaveUp + 1 ≤ (r.step config move).visits.count .gaveUp := by
  cases move with
  | giveUp ticket =>
    obtain ⟨n, hn⟩ := List.mem_iff_getElem?.mp h
    have hnumber : number ticket r.visits = n := number_eq hs.listed.distinct hn rfl
    have hnot : ticket ∉ r.bucket.granted := fun hgranted => by
      cases (hs.listed.mem_granted_iff hn rfl).mp hgranted
    simp only [Register.step, Register.giveUp, turn, if_neg hnot, hnumber]
    exact (count_set_of_getElem? hn (by simp) .gaveUp).ge
  | ask | refill | pickUp | pass | shutDown => cases h

/-- **Every abandoned place is that of a caller that gave up.** -/
theorem abandoned_le_count_gaveUp (config : Config) (created : Instant) (moves : List Move) :
    Queue.abandoned (run config created moves).bucket.queue ≤
      (run config created moves).visits.count .gaveUp := by
  induction moves using List.reverseRecOn with
  | nil => exact le_refl _
  | append_singleton moves move ih =>
    rw [run_append]
    have hs := sound_run config created moves
    exact (hs.keeps move).abandoned_le_of_le ih (count_gaveUp_step config _ move)
      hs.count_gaveUp_of_leaves

/-- **The gauge of a bucket is exact all the way along a run if and only if nobody was cancelled
in line.** -/
theorem exact_iff (config : Config) (created : Instant) (moves : List Move) :
    (∀ first, first <+: moves → (run config created first).Exact) ↔
      ∀ first move, first ++ [move] <+: moves → ¬ (run config created first).Leaves move := by
  have hkeeps (moves : List Move) (move : Move) :
      Queue.Keeps ((run config created moves).Leaves move) (run config created moves).bucket.queue
        (run config created (moves ++ [move])).bucket.queue := by
    rw [run_append]
    exact (sound_run config created moves).keeps move
  simp only [(sound_run config created _).exact_iff]
  exact Queue.exact_iff rfl hkeeps moves

/-- Those who wait are those who have a ticket and were not handed a token, as long as the bucket is
open. -/
theorem waiting_eq (config : Config) (created : Instant) (moves : List Move) :
    let r := run config created moves
    r.visits.filterMap Visit.waiting? = (r.visits.filterMap Visit.ticket?).filter
      fun t => r.bucket.closed = false ∧ t ∉ r.bucket.granted := by
  intro r
  have hs : Sound r := sound_run config created moves
  have huntold : r.bucket.closed = false → Untold r.visits := untold_run config created moves
  rw [List.filter_filterMap]
  refine List.filterMap_congr fun v hv => ?_
  obtain ⟨n, hn⟩ := List.mem_iff_getElem?.mp hv
  cases v with
  | inside | lost | gaveUp | refused => rfl
  | waiting ticket =>
    have hline := (hs.listed.mem_line_iff hn rfl).mpr rfl
    have hgranted := hs.listed.mem_granted_iff hn rfl
    have hopen : r.bucket.closed = false := Bool.eq_false_iff.mpr fun hclosed => by
      rw [hs.closed hclosed] at hline
      cases hline
    simp [Visit.waiting?, Visit.ticket?, Option.filter_some, hopen, hgranted]
  | granted ticket =>
    have hgranted := (hs.listed.mem_granted_iff hn rfl).mpr rfl
    simp [Visit.waiting?, Visit.ticket?, Option.filter_some, hgranted]
  | dismissed ticket =>
    -- It was told that the bucket is closed, so the bucket is.
    have hclosed : r.bucket.closed = true := by
      by_contra hopen
      exact huntold (Bool.eq_false_iff.mpr hopen) ticket hv
    simp [Visit.waiting?, Visit.ticket?, Option.filter_some, hclosed]

end Register

end Bucket

/-! ### Who waits for a token -/

/-- The ticket of a place in the line of a bucket. -/
def Hold.tokenPlace? (bucket : ComponentId) : Hold → Option Ticket
  | tokenPlace other ticket => if other = bucket then some ticket else none
  | _ => none

/-- The tickets of those who wait for a token of a bucket: they have a place in its line, no token
was handed to them, and the bucket was not closed. -/
def Scene.inTokenLine (bucket : ComponentId) (b : Bucket) (H : Multiset Hold) : Multiset Ticket :=
  (H.filterMap (Hold.tokenPlace? bucket)).filter fun ticket =>
    b.closed = false ∧ ticket ∉ b.granted

/-- The ticket of a task that waits in the line of a bucket. -/
def Job.seatIn? (bucket : ComponentId) (job : Job) : Option Ticket :=
  (job.seat?.filter fun seat => seat.1 = bucket).map Prod.snd

/-- The tickets of the tasks that wait for a token of a bucket. -/
def Session.inTokenLine (bucket : ComponentId) (b : Bucket) (s : Session) : List Ticket :=
  (s.tasks.values.filterMap fun task => task.job.seatIn? bucket).filter fun ticket =>
    b.closed = false ∧ ticket ∉ b.granted

theorem Call.tokenPlace?_holds (bucket : ComponentId) (c : Call) :
    c.holds.filterMap (Hold.tokenPlace? bucket) =
      ↑((c.seat?.filter fun seat => seat.1 = bucket).map Prod.snd).toList := by
  induction c with
  | working | pausing | awaitingSlot => rfl
  | guarded _ _ inner ih | withFallback _ _ _ _ inner ih | holdingSlot _ inner ih =>
    exact (Multiset.filterMap_cons_none _ _ rfl).trans ih
  | timed _ _ _ inner ih | attempting _ _ _ _ _ inner ih | filling _ _ _ inner ih => exact ih
  | awaitingToken other ticket inner arg =>
    by_cases h : other = bucket <;>
      simp [holds, seat?, innermost, Hold.tokenPlace?, Option.filter_some, h,
        ← Multiset.cons_zero]

theorem Job.tokenPlace?_holds (bucket : ComponentId) (job : Job) :
    job.holds.filterMap (Hold.tokenPlace? bucket) = ↑(job.seatIn? bucket).toList := by
  match job with
  | .call _ _ _ (some c) => exact c.tokenPlace?_holds bucket
  | .take name other (some ticket) =>
    exact Call.tokenPlace?_holds bucket (.awaitingToken other ticket (.source 0) .null)
  | .acquire _ _ (some ticket) => rfl
  | .call _ _ _ none | .acquire _ _ none | .take _ _ none | .refill .. | .sweep .. => rfl

/-- Who waits is read off the tasks of a session. -/
theorem Session.inTokenLine_holds (bucket : ComponentId) (b : Bucket) (s : Session) :
    Scene.inTokenLine bucket b s.holds = ↑(s.inTokenLine bucket b) := by
  rw [Scene.inTokenLine, holds, Multiset.filterMap_add,
    filterMap_tasksHold (Job.tokenPlace?_holds bucket), filterMap_permitsHold fun _ => rfl,
    add_zero]
  rfl

/-! ### The gauges of a world -/

namespace Scene

variable {sc : Scene} {id : ComponentId}

theorem Reachable.queued_limiter (h : sc.Reachable) {c : Component Limiter.Config Limiter}
    (hc : sc.world.limiters.get? id = some c) : c.state.queued =
      (inLine id c.state.granted sc.holds).card + Queue.abandoned c.state.queue := by
  obtain ⟨moves, hshows⟩ := Limiter.exists_history h hc
  rw [hshows.inLine_eq (Limiter.History.sound_run c.config moves)]
  exact Queue.length_eq c.state.queue

/-- The tickets of those who wait are those of the live places in line. -/
theorem Reachable.inTokenLine_eq (h : sc.Reachable) {c : Component Bucket.Config Bucket}
    (hc : sc.world.buckets.get? id = some c) :
    inTokenLine id c.state sc.holds = ↑(Queue.waiting c.state.queue) := by
  obtain ⟨created, moves, hstate, -, htickets⟩ := Bucket.Register.exists_register h hc
  have hs := Bucket.Register.sound_run c.config created moves
  have hwaiting := Bucket.Register.waiting_eq c.config created moves
  have hheld : sc.holds.filterMap (Hold.tokenPlace? id) =
      ↑((Bucket.Register.run c.config created moves).visits.filterMap Bucket.Visit.ticket?) := by
    ext ticket
    rw [Hold.count_filterMap (x := .tokenPlace id ticket)
      (fun y => by cases y <;> simp [Hold.tokenPlace?]), ← htickets, Multiset.coe_count]
  rw [inTokenLine, hheld, Multiset.filter_coe, ← hstate, ← hs.listed.line, hwaiting]

theorem Reachable.queued_bucket (h : sc.Reachable) {c : Component Bucket.Config Bucket}
    (hc : sc.world.buckets.get? id = some c) : c.state.queued =
      (inTokenLine id c.state sc.holds).card + Queue.abandoned c.state.queue := by
  rw [h.inTokenLine_eq hc]
  exact Queue.length_eq c.state.queue

end Scene

/-- **The gauges tell how many callers wait, as long as nobody is cancelled in line.** In every
history of a limiter, and in every register of a bucket, whatever is refilled or closed meanwhile,
the gauge tells how many callers wait together with how many places were abandoned, and no more
places were abandoned than callers gave up. All the way along a run it tells how many callers wait
if and only if no move of the run cancelled a caller that was in line. The gauge of a limiter is
exact again as soon as another caller asks, and that of a bucket is zero whenever there are tokens
and once the bucket is closed. In every scene and in every session the gauges add up in the same
way: those who wait hold a place, were handed nothing there and, where they wait for a token, were
not dismissed by a closed bucket. -/
theorem gauges_exact_iff (slots : Limiter.Config) (moves : List Limiter.Move)
    (tokens : Bucket.Config) (created : Instant) (moves' : List Bucket.Move) :
    (let h := Limiter.History.run slots moves
     h.limiter.queued = (h.visits.filterMap Limiter.Visit.waiting?).length +
          Queue.abandoned h.limiter.queue ∧
        Queue.abandoned h.limiter.queue ≤ h.visits.count .gaveUp ∧
        ((∀ first, first <+: moves → (Limiter.History.run slots first).Exact) ↔
          ∀ first move, first ++ [move] <+: moves →
            ¬ (Limiter.History.run slots first).Leaves move) ∧
        ∀ ticket caller, ticket ∉ h.visits.filterMap Limiter.Visit.ticket? →
          (h.ask slots ticket caller).Exact) ∧
    (let r := Bucket.Register.run tokens created moves'
     r.bucket.queued = (r.visits.filterMap Bucket.Visit.waiting?).length +
          Queue.abandoned r.bucket.queue ∧
        Queue.abandoned r.bucket.queue ≤ r.visits.count .gaveUp ∧
        ((∀ first, first <+: moves' → (Bucket.Register.run tokens created first).Exact) ↔
          ∀ first move, first ++ [move] <+: moves' →
            ¬ (Bucket.Register.run tokens created first).Leaves move) ∧
        (0 < r.bucket.tokens ∨ r.bucket.closed = true → r.bucket.queued = 0)) ∧
    (∀ sc : Scene, sc.Reachable →
      (∀ id c, sc.world.limiters.get? id = some c → c.state.queued =
        (Scene.inLine id c.state.granted sc.holds).card + Queue.abandoned c.state.queue) ∧
      ∀ id c, sc.world.buckets.get? id = some c → c.state.queued =
        (Scene.inTokenLine id c.state sc.holds).card + Queue.abandoned c.state.queue) ∧
    ∀ s : Session, s.Reachable →
      (∀ id c, s.world.limiters.get? id = some c → c.state.queued =
        (s.inLine id c.state.granted).length + Queue.abandoned c.state.queue) ∧
      ∀ id c, s.world.buckets.get? id = some c → c.state.queued =
        (s.inTokenLine id c.state).length + Queue.abandoned c.state.queue := by
  refine ⟨?_, ?_, fun sc hsc => ?_, fun s hs => ?_⟩
  · have hs := Limiter.History.sound_run slots moves
    refine ⟨hs.queued_eq, Limiter.History.abandoned_le_count_gaveUp slots moves,
      Limiter.History.exact_iff slots moves, fun ticket caller hnew => ?_⟩
    rw [(hs.ask ticket caller).exact_iff, Limiter.History.limiter_ask hnew]
    exact hs.abandoned_ask caller
  · have hs := Bucket.Register.sound_run tokens created moves'
    exact ⟨hs.queued_eq, Bucket.Register.abandoned_le_count_gaveUp tokens created moves',
      Bucket.Register.exact_iff tokens created moves', hs.queued_eq_zero⟩
  · exact ⟨fun id c => hsc.queued_limiter, fun id c => hsc.queued_bucket⟩
  · have hscene := hs.valid_scene.2
    refine ⟨fun id c hc => ?_, fun id c hc => ?_⟩
    -- Who waits in a session is read off its tasks, and that is what its scene holds.
    · rw [← Multiset.coe_card, ← s.inLine_holds]
      exact hscene.queued_limiter hc
    · rw [← Multiset.coe_card, ← s.inTokenLine_holds]
      exact hscene.queued_bucket hc

/-! ### Two lines, and one caller less in each -/

/-- A session in which two callers wait for the one slot of a limiter, and two for the next token of
a bucket. -/
def Session.twoLines : Session :=
  ((Session.create {} true).performAll ⟨toString, toString⟩
    [.limiter "l" (some ⟨1, 0⟩) .own, .acquire "l" "a", .acquire "l" "b", .acquire "l" "c",
      .bucket "t" (some ⟨1, .ofMillis 5⟩) .own, .take "t" "d", .take "t" "e",
      .take "t" "f"]).2.settle

/-- The same session after the first in each line was cancelled. -/
def Session.twoLinesLeft : Session :=
  (twoLines.performAll ⟨toString, toString⟩ [.cancel "b", .cancel "e"]).2.settle

theorem Session.twoLines_reachable : twoLines.Reachable :=
  ((Reachable.create {} true).performAll ⟨toString, toString⟩ _).turns _

theorem Session.twoLinesLeft_reachable : twoLinesLeft.Reachable :=
  (twoLines_reachable.performAll ⟨toString, toString⟩ _).turns _

theorem Session.twoLinesLeft_limiter : ∃ c, twoLinesLeft.world.limiters.get? 0 = some c ∧
    twoLinesLeft.inLine 0 c.state.granted = [10] ∧ Queue.abandoned c.state.queue = 1 ∧
      c.state.queued = 2 := by
  have hstate : (twoLinesLeft.world.limiters.get? 0).map (fun c =>
      (twoLinesLeft.inLine 0 c.state.granted, Queue.abandoned c.state.queue, c.state.queued)) =
        some ([10], 1, 2) := by decide +kernel
  obtain ⟨c, hc, heq⟩ := Option.map_eq_some_iff.mp hstate
  obtain ⟨hwaits, heq⟩ := Prod.mk.inj heq
  obtain ⟨hgone, hqueued⟩ := Prod.mk.inj heq
  exact ⟨c, hc, hwaits, hgone, hqueued⟩

theorem Session.twoLinesLeft_bucket : ∃ c, twoLinesLeft.world.buckets.get? 4 = some c ∧
    twoLinesLeft.inTokenLine 4 c.state = [13] ∧ Queue.abandoned c.state.queue = 1 ∧
      c.state.queued = 2 := by
  have hstate : (twoLinesLeft.world.buckets.get? 4).map (fun c =>
      (twoLinesLeft.inTokenLine 4 c.state, Queue.abandoned c.state.queue, c.state.queued)) =
        some ([13], 1, 2) := by decide +kernel
  obtain ⟨c, hc, heq⟩ := Option.map_eq_some_iff.mp hstate
  obtain ⟨hwaits, heq⟩ := Prod.mk.inj heq
  obtain ⟨hgone, hqueued⟩ := Prod.mk.inj heq
  exact ⟨c, hc, hwaits, hgone, hqueued⟩

/-- A caller has the one slot, and the one that waited was cancelled. -/
def Limiter.deserted : List Move := [.ask 0 0, .ask 1 1, .cancel 1]

/-- A caller has the one token, and the one that waited was cancelled. -/
def Bucket.deserted : List Move := [.ask 0 0, .ask 1 1, .giveUp 1]

/-- The gauges are wrong from the moment on at which the caller is cancelled, until another one asks
for a slot and until the bucket is closed. In the session one caller waits in each line, and each
gauge tells two. -/
theorem gauges_exact_iff_two_lines_left :
    (¬ (∀ first, first <+: Limiter.deserted → (Limiter.History.run ⟨1, 0⟩ first).Exact) ∧
      ((Limiter.History.run ⟨1, 0⟩ Limiter.deserted).ask ⟨1, 0⟩ 2 2).Exact) ∧
    (¬ (∀ first, first <+: Bucket.deserted →
        (Bucket.Register.run ⟨1, .ofMillis 5⟩ 0 first).Exact) ∧
      (Bucket.Register.run ⟨1, .ofMillis 5⟩ 0 (Bucket.deserted ++ [.shutDown])).bucket.queued =
        0) ∧
    (∃ c, Session.twoLinesLeft.world.limiters.get? 0 = some c ∧
      Session.twoLinesLeft.inLine 0 c.state.granted = [10] ∧ c.state.queued = 1 + 1) ∧
    ∃ c, Session.twoLinesLeft.world.buckets.get? 4 = some c ∧
      Session.twoLinesLeft.inTokenLine 4 c.state = [13] ∧ c.state.queued = 1 + 1 := by
  obtain ⟨⟨-, -, hslots, hasked⟩, ⟨-, -, htokens, -⟩, -, hsession⟩ :=
    gauges_exact_iff ⟨1, 0⟩ Limiter.deserted ⟨1, .ofMillis 5⟩ 0 Bucket.deserted
  obtain ⟨-, ⟨-, -, -, hclosed⟩, -⟩ :=
    gauges_exact_iff ⟨1, 0⟩ [] ⟨1, .ofMillis 5⟩ 0 (Bucket.deserted ++ [.shutDown])
  obtain ⟨hlimiter, hbucket⟩ := hsession _ Session.twoLinesLeft_reachable
  obtain ⟨c, hc, hwaits, hgone, -⟩ := Session.twoLinesLeft_limiter
  obtain ⟨c', hc', hwaits', hgone', -⟩ := Session.twoLinesLeft_bucket
  refine ⟨⟨fun hexact => ?_, hasked 2 2 (by decide)⟩,
    ⟨fun hexact => ?_, hclosed (.inr (by decide))⟩, ⟨c, hc, hwaits, ?_⟩, ⟨c', hc', hwaits', ?_⟩⟩
  · have hwaits : (Limiter.History.run ⟨1, 0⟩ [.ask 0 0, .ask 1 1]).visits[1]? =
        some (.waiting 1) := by decide
    exact hslots.mp hexact [.ask 0 0, .ask 1 1] (.cancel 1) List.prefix_rfl ⟨1, hwaits⟩
  · have hwaits : .waiting 1 ∈
        (Bucket.Register.run ⟨1, .ofMillis 5⟩ 0 [.ask 0 0, .ask 1 1]).visits := by decide
    exact htokens.mp hexact [.ask 0 0, .ask 1 1] (.giveUp 1) List.prefix_rfl hwaits
  · rw [hlimiter 0 c hc, hwaits, hgone]
    rfl
  · rw [hbucket 4 c' hc', hwaits', hgone']
    rfl

/-- A caller that was cancelled in line is still counted as waiting, by limiters and by buckets. -/
theorem cancelled_callers_counted :
    (¬ ∀ (s : Session) (id : ComponentId) (c : Component Limiter.Config Limiter),
      s.Reachable → s.world.limiters.get? id = some c →
        c.state.queued = (s.inLine id c.state.granted).length) ∧
    ¬ ∀ (s : Session) (id : ComponentId) (c : Component Bucket.Config Bucket),
      s.Reachable → s.world.buckets.get? id = some c →
        c.state.queued = (s.inTokenLine id c.state).length := by
  constructor
  · intro hexact
    obtain ⟨c, hc, hwaits, -, hqueued⟩ := Session.twoLinesLeft_limiter
    have hgauge := hexact _ 0 c Session.twoLinesLeft_reachable hc
    rw [hwaits, hqueued] at hgauge
    cases hgauge
  · intro hexact
    obtain ⟨c, hc, hwaits, -, hqueued⟩ := Session.twoLinesLeft_bucket
    have hgauge := hexact _ 4 c Session.twoLinesLeft_reachable hc
    rw [hwaits, hqueued] at hgauge
    cases hgauge

end Resilience
