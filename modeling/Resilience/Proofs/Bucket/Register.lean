import Resilience.Proofs.Bucket.History
import Mathlib.Data.List.Nodup
import Mathlib.Data.List.Perm.Basic

/-!
# The callers of a bucket

A **visit** is one call that asks a bucket for a token, from the moment of asking; a **register**
is a bucket with all its visits in the order in which they came, and with the numbers of those
that were handed a token, in the order in which they were. The moves are those of a history, so
`Register.run` ranges over every interleaving of any number of callers with refills, with the
clock and with the bucket being closed.

A ticket is in use while its caller is in line or was told something that it has not seen yet. A
move that its caller cannot make, such as asking with a ticket that is in use, leaves everything
as it is.

`Register.Sound` joins the bucket to the standings of its visits. Nothing in a bucket compares
two callers, so that they are served in the order in which they came rests on one fact: there are
tokens only while there is no line (`Sound.idle`).
-/

namespace Resilience

namespace Bucket

/-! ### What a refill does -/

section Refill

variable {config : Config} {now : Instant} {b : Bucket}

/-- A refill served some of those in a line: the bucket was full, the first in line were handed a
token each, and the others wait on in their order. -/
structure Refilled (config : Config) (now : Instant) (b : Bucket) (served : List Waiter)
    (b' : Bucket) : Prop where
  served_eq : served = (Queue.purge b.queue).take (max config.rate 1)
  line : Queue.waiting b.queue = served.map (·.ticket) ++ Queue.waiting b'.queue
  tokens : b'.tokens = max config.rate 1 - served.length
  /-- Nobody is left in line while there are tokens. -/
  idle : 0 < b'.tokens → b'.queue = []
  granted : b'.granted = b.granted ++ served.map (·.ticket)
  lastRefill : b'.lastRefill = now
  isOpen : b'.closed = false

theorem refill_of_not_due (h : b.refillDue config now = false) :
    b.refill config now = ([], b) := by
  simp [refill, h]

theorem refilled_of_due (h : b.refillDue config now = true) :
    Refilled config now b (b.refill config now).1 (b.refill config now).2 := by
  have hfill : b.refill config now = b.fill config now := by simp [refill, h]
  have htotal := Queue.length_serve config.capacity b.queue
  rw [hfill]
  exact {
    served_eq := Queue.served_eq ..
    line := Queue.waiting_serve ..
    tokens := Nat.eq_sub_of_add_eq htotal
    idle := Queue.rest_eq_nil_of_left
    granted := rfl
    lastRefill := rfl
    isOpen := Bool.eq_false_iff.mpr (of_decide_eq_true h).1 }

namespace Refilled

variable {served : List Waiter} {b' : Bucket}

theorem length_served (hr : Refilled config now b served b') :
    served.length = min (max config.rate 1) (Queue.waiting b.queue).length := by
  have hlength : (Queue.waiting b.queue).length = (Queue.purge b.queue).length := List.length_map _
  rw [hr.served_eq, List.length_take, hlength]

theorem take_length_served (hr : Refilled config now b served b') :
    (Queue.purge b.queue).take served.length = served := by
  obtain ⟨rfl, -⟩ := hr
  simp [List.take_eq_take_iff]

/-- Those who were served are the first who waited. -/
theorem tickets_served (hr : Refilled config now b served b') :
    served.map (·.ticket) = (Queue.waiting b.queue).take served.length := by
  rw [hr.line]
  exact (List.take_left' (List.length_map _)).symm

/-- The others wait on. -/
theorem waiting_rest (hr : Refilled config now b served b') :
    Queue.waiting b'.queue = (Queue.waiting b.queue).drop served.length := by
  rw [hr.line]
  exact (List.drop_left' (List.length_map _)).symm

end Refilled

/-- Those who waited were served or wait on, in their order. -/
theorem waiting_refill (config : Config) (now : Instant) (b : Bucket) :
    Queue.waiting b.queue = (b.refill config now).1.map (·.ticket) ++
      Queue.waiting (b.refill config now).2.queue := by
  by_cases hdue : b.refillDue config now = true
  · exact (refilled_of_due hdue).line
  · rw [refill_of_not_due (Bool.eq_false_iff.mpr hdue)]
    rfl

/-- **What becomes of a caller**: it is refused by a closed bucket, takes a token that is there
once a refill that was due has served the line, or joins the line. -/
theorem acquire_cases (config : Config) (now : Instant) (w : Waiter) (b : Bucket) :
    (b.closed = true ∧ b.acquire config now w = (.closed, [], b)) ∨
    (b.closed = false ∧ 0 < (b.refill config now).2.tokens ∧ b.acquire config now w =
      (.admitted, (b.refill config now).1,
        { (b.refill config now).2 with tokens := (b.refill config now).2.tokens - 1 })) ∨
    (b.closed = false ∧ (b.refill config now).2.tokens = 0 ∧ b.acquire config now w =
      (.queued, (b.refill config now).1,
        { (b.refill config now).2 with queue := (b.refill config now).2.queue ++ [w] })) := by
  unfold acquire
  by_cases hclosed : b.closed = true
  · exact .inl ⟨hclosed, by rw [if_pos hclosed]⟩
  rw [if_neg hclosed]
  dsimp only
  have hopen : b.closed = false := Bool.eq_false_iff.mpr hclosed
  by_cases htokens : 0 < (b.refill config now).2.tokens
  · exact .inr (.inl ⟨hopen, htokens, by rw [if_pos htokens]⟩)
  · exact .inr (.inr ⟨hopen, Nat.eq_zero_of_not_pos htokens, by rw [if_neg htokens]⟩)

end Refill

/-! ### Visits and moves -/

/-- Where one call that asked for a token stands. -/
inductive Visit where
  /-- In line. -/
  | waiting (ticket : Ticket)
  /-- Was handed a token in line and has not run since. -/
  | granted (ticket : Ticket)
  /-- Was in line when the bucket was closed and has not run since. -/
  | dismissed (ticket : Ticket)
  /-- Went on with a token. -/
  | inside
  /-- Was cancelled after it was handed a token. -/
  | lost
  /-- Was cancelled before it was handed a token. -/
  | gaveUp
  /-- Was told that the bucket is closed. -/
  | refused
deriving DecidableEq, Repr

namespace Visit

/-- The ticket of a visit that has not ended. -/
def ticket? : Visit → Option Ticket
  | waiting ticket => some ticket
  | granted ticket => some ticket
  | dismissed ticket => some ticket
  | _ => none

/-- The ticket of a visit that is in line. -/
def waiting? : Visit → Option Ticket
  | waiting ticket => some ticket
  | _ => none

/-- The ticket of a visit that was handed a token and has not run since. -/
def granted? : Visit → Option Ticket
  | granted ticket => some ticket
  | _ => none

/-- The visit was handed a token. -/
def served : Visit → Bool
  | granted _ => true
  | inside => true
  | lost => true
  | _ => false

theorem ticket?_of_waiting? {v : Visit} {ticket : Ticket} (h : v.waiting? = some ticket) :
    v.ticket? = some ticket := by
  cases v <;> simp_all [waiting?, ticket?]

theorem eq_waiting {v : Visit} {ticket : Ticket} (h : v.waiting? = some ticket) :
    v = .waiting ticket := by
  cases v <;> simp_all [waiting?]

theorem eq_granted {v : Visit} {ticket : Ticket} (h : v.granted? = some ticket) :
    v = .granted ticket := by
  cases v <;> simp_all [granted?]

end Visit

/-- A bucket, the time, and the calls that asked the bucket for a token, in the order in which
they came. -/
structure Register where
  bucket : Bucket
  now : Instant
  visits : List Visit := []
  /-- The numbers of the visits that were handed a token, in the order in which they were. -/
  handed : List Nat := []
deriving DecidableEq, Repr

namespace Register

/-- The register of a new bucket. -/
def create (config : Config) (created : Instant) : Register :=
  ⟨full config created, created, [], []⟩

/-- The number of the visit that has a ticket. -/
def number (ticket : Ticket) (visits : List Visit) : Nat :=
  visits.findIdx fun v => v.ticket? = some ticket

/-- The visit that has a ticket becomes another. -/
def turn (ticket : Ticket) (v : Visit) (r : Register) : Register :=
  { r with visits := r.visits.set (number ticket r.visits) v }

/-- A waiter is handed a token. -/
def hand (r : Register) (w : Waiter) : Register :=
  { r.turn w.ticket (.granted w.ticket) with
    handed := r.handed ++ [number w.ticket r.visits] }

/-- A waiter is told that the bucket was closed. -/
def dismiss (r : Register) (w : Waiter) : Register := r.turn w.ticket (.dismissed w.ticket)

/-- Somebody looks whether a refill is due. -/
def refill (config : Config) (r : Register) : Register :=
  let (served, b) := r.bucket.refill config r.now
  served.foldl hand { r with bucket := b }

/-- A call comes. -/
def come (v : Visit) (r : Register) : Register :=
  { r with
    visits := r.visits ++ [v]
    handed := r.handed ++ if v.served then [r.visits.length] else [] }

/-- Where a call stands after the bucket's answer. -/
def stand (ticket : Ticket) : Admission → Visit
  | .admitted => .inside
  | .queued => .waiting ticket
  | .closed => .refused

/-- A call asks for a token. A ticket that is in use is not given out again. -/
def ask (config : Config) (ticket : Ticket) (caller : TaskId) (r : Register) : Register :=
  if ticket ∈ r.visits.filterMap Visit.ticket? then r
  else
    let (admission, served, b) := r.bucket.acquire config r.now ⟨ticket, caller, true⟩
    (served.foldl hand { r with bucket := b }).come (stand ticket admission)

/-- The caller with a ticket runs again: it goes on with a token, learns that the bucket was
closed, or waits on. -/
def pickUp (ticket : Ticket) (r : Register) : Register :=
  match r.bucket.pickUp? ticket with
  | some b => { r.turn ticket .inside with bucket := b }
  | none => if r.bucket.closed then r.turn ticket .refused else r

/-- The caller with a ticket is cancelled. -/
def giveUp (ticket : Ticket) (r : Register) : Register :=
  { r.turn ticket (if ticket ∈ r.bucket.granted then .lost else .gaveUp) with
    bucket := r.bucket.giveUp ticket }

/-- The bucket is closed, and those who are told so wait no longer. -/
def shutDown (r : Register) : Register :=
  let (told, b) := r.bucket.shutDown
  told.foldl dismiss { r with bucket := b }

/-- One move. -/
def step (config : Config) (r : Register) : Move → Register
  | .ask ticket caller => r.ask config ticket caller
  | .refill => r.refill config
  | .pickUp ticket => r.pickUp ticket
  | .giveUp ticket => r.giveUp ticket
  | .pass instant => { r with now := max r.now instant }
  | .shutDown => r.shutDown

/-- Moves one after the other, from a new bucket. -/
def run (config : Config) (created : Instant) (moves : List Move) : Register :=
  moves.foldl (step config) (create config created)

theorem run_append (config : Config) (created : Instant) (moves more : List Move) :
    run config created (moves ++ more) = more.foldl (step config) (run config created moves) :=
  List.foldl_append

/-! ### The visits of a bucket -/

/-- The visits agree with a line and with the tickets of those who were handed a token. -/
structure Listed (line granted : List Ticket) (visits : List Visit) (handed : List Nat) :
    Prop where
  /-- No ticket is used twice. -/
  distinct : (visits.filterMap Visit.ticket?).Nodup
  /-- The line holds the tickets of those who wait, in the order in which they came. -/
  line : visits.filterMap Visit.waiting? = line
  granted : granted.Perm (visits.filterMap Visit.granted?)
  served_iff (n : Nat) : n ∈ handed ↔ ∃ v, visits[n]? = some v ∧ v.served = true
  /-- Tokens were handed out in the order in which the callers came. -/
  sorted : handed.Pairwise (· < ·)
  /-- Whoever waits came after everybody that was handed a token. -/
  behind (n : Nat) (ticket : Ticket) : visits[n]? = some (.waiting ticket) →
    ∀ m ∈ handed, m < n

variable {config : Config} {line granted : List Ticket} {visits before after : List Visit}
  {handed : List Nat} {v v' u : Visit} {n m : Nat} {ticket : Ticket} {r : Register}

/-- Visits that have the same ticket are one visit. -/
private theorem number_unique (hd : (visits.filterMap Visit.ticket?).Nodup)
    (hn : visits[n]? = some v) (hm : visits[m]? = some v') (hv : v.ticket? = some ticket)
    (hv' : v'.ticket? = some ticket) : n = m := by
  obtain ⟨hltn, rfl⟩ := List.getElem?_eq_some_iff.mp hn
  obtain ⟨hltm, rfl⟩ := List.getElem?_eq_some_iff.mp hm
  have hpair := List.pairwise_iff_getElem.mp (List.pairwise_filterMap.mp hd)
  by_contra hne
  rcases Nat.lt_or_gt_of_ne hne with hlt | hlt
  · exact hpair n m hltn hltm hlt ticket hv ticket hv' rfl
  · exact hpair m n hltm hltn hlt ticket hv' ticket hv rfl

/-- A ticket leads to a visit that has it. -/
theorem exists_number (h : ticket ∈ visits.filterMap Visit.ticket?) :
    ∃ v, visits[number ticket visits]? = some v ∧ v.ticket? = some ticket := by
  obtain ⟨x, hx, hxt⟩ := List.mem_filterMap.mp h
  have hlt : number ticket visits < visits.length :=
    List.findIdx_lt_length.mpr ⟨x, hx, decide_eq_true hxt⟩
  exact ⟨_, List.getElem?_eq_getElem hlt, of_decide_eq_true (List.findIdx_getElem (w := hlt))⟩

theorem number_eq (hd : (visits.filterMap Visit.ticket?).Nodup) (hn : visits[n]? = some v)
    (hv : v.ticket? = some ticket) : number ticket visits = n := by
  obtain ⟨x, hx, hxt⟩ :=
    exists_number (List.mem_filterMap.mpr ⟨v, List.mem_of_getElem? hn, hv⟩)
  exact number_unique hd hx hn hxt hv

/-- A ticket that nobody has leads nowhere. -/
theorem turn_of_not_mem (h : ticket ∉ r.visits.filterMap Visit.ticket?) (v : Visit) :
    r.turn ticket v = r := by
  have hend : number ticket r.visits = r.visits.length := by
    refine List.findIdx_eq_length_of_false fun x hx => decide_eq_false fun hxt => ?_
    exact h (List.mem_filterMap.mpr ⟨x, hx, hxt⟩)
  rw [turn, hend, List.set_eq_of_length_le (Nat.le_refl _)]

/-- Whoever is told something keeps its ticket. -/
theorem filterMap_ticket?_turn (hv : v.ticket? = some ticket) (r : Register) :
    (r.turn ticket v).visits.filterMap Visit.ticket? = r.visits.filterMap Visit.ticket? := by
  by_cases hmem : ticket ∈ r.visits.filterMap Visit.ticket?
  · obtain ⟨x, hx, hxt⟩ := exists_number hmem
    obtain ⟨before, after, hsplit, hset⟩ := Visits.exists_around hx
    have hturn : (r.turn ticket v).visits = before ++ v :: after := hset v
    rw [hturn, hsplit, List.filterMap_append, List.filterMap_append,
      List.filterMap_cons_some hv, List.filterMap_cons_some hxt]
  · rw [turn_of_not_mem hmem]

/-- A visit leaves the line. -/
private theorem filterMap_waiting?_replace
    (hd : ((before ++ v :: after).filterMap Visit.ticket?).Nodup) (hv' : v'.waiting? = none) :
    (before ++ v' :: after).filterMap Visit.waiting? =
      v.waiting?.elim ((before ++ v :: after).filterMap Visit.waiting?)
        ((before ++ v :: after).filterMap Visit.waiting?).erase := by
  rw [List.filterMap_append, List.filterMap_append, List.filterMap_cons_none hv']
  cases hv : v.waiting? with
  | none => rw [List.filterMap_cons_none hv]; rfl
  | some ticket =>
    have hnot : ticket ∉ before.filterMap Visit.waiting? := fun hmem => by
      obtain ⟨x, hx, hxt⟩ := List.mem_filterMap.mp hmem
      exact Visits.ticket_ne_around hd (Visit.ticket?_of_waiting? hv) x
        (List.mem_append_left _ hx) (Visit.ticket?_of_waiting? hxt)
    rw [List.filterMap_cons_some hv, Option.elim_some, List.erase_append_right _ hnot,
      List.erase_cons_head]

/-- A visit that was handed a token goes on with it, or is cancelled. -/
private theorem perm_granted_replace
    (hg : granted.Perm ((before ++ v :: after).filterMap Visit.granted?))
    (hv' : v'.granted? = none) :
    (v.granted?.elim granted granted.erase).Perm
      ((before ++ v' :: after).filterMap Visit.granted?) := by
  rw [List.filterMap_append] at hg
  rw [List.filterMap_append, List.filterMap_cons_none hv']
  cases hv : v.granted? with
  | none =>
    rw [List.filterMap_cons_none hv] at hg
    exact hg
  | some ticket =>
    rw [List.filterMap_cons_some hv] at hg
    have herase := (hg.trans List.perm_middle).erase ticket
    rwa [List.erase_cons_head] at herase

/-- A visit becomes another one that is neither in line nor new among those that were handed a
token. -/
theorem Listed.become (hl : Listed line granted visits handed) (hn : visits[n]? = some v)
    (hticket : u.ticket? = none ∨ u.ticket? = v.ticket?) (hwaiting : u.waiting? = none)
    (hgranted : u.granted? = none) (hserved : u.served = v.served) :
    Listed (v.waiting?.elim line line.erase) (v.granted?.elim granted granted.erase)
      (visits.set n u) handed := by
  have hget : ∀ m, (visits.set n u)[m]? = if n = m then some u else visits[m]? := fun m => by
    have hlt := (List.getElem?_eq_some_iff.mp hn).1
    rw [List.getElem?_set, if_pos hlt]
  have hthere : ∀ m, m ∈ handed ↔ ∃ x, (visits.set n u)[m]? = some x ∧ x.served = true := by
    intro m
    rw [hl.served_iff, hget]
    split
    · next heq =>
      rw [← heq, hn]
      simp [hserved]
    · exact Iff.rfl
  -- Nobody comes to wait, so those who wait are as far behind as they were.
  have hbehind : ∀ m t, (visits.set n u)[m]? = some (.waiting t) → ∀ k ∈ handed, k < m := by
    intro m t hm
    rw [hget] at hm
    split at hm
    · rw [Option.some.inj hm] at hwaiting
      cases hwaiting
    · exact hl.behind m t hm
  -- The visits before and after this one stay where they are, so each part of the register is read
  -- off this split.
  obtain ⟨before, after, hsplit, hset⟩ := Visits.exists_around hn
  obtain ⟨distinct, rfl, granted, -, sorted, -⟩ := hl
  rw [hset u] at hthere hbehind ⊢
  rw [hsplit] at distinct granted ⊢
  exact ⟨Visits.nodup_replace distinct hticket, filterMap_waiting?_replace distinct hwaiting,
    perm_granted_replace granted hgranted, hthere, sorted, hbehind⟩

/-- The first in line is there, and nobody before it waits. -/
private theorem Listed.exists_first (hl : Listed (ticket :: line) granted visits handed) :
    ∃ before after, visits = before ++ .waiting ticket :: after ∧
      number ticket visits = before.length ∧ (∀ x ∈ before, x.waiting? = none) ∧
      after.filterMap Visit.waiting? = line := by
  obtain ⟨before, v, after, hvisits, hbefore, hv, hafter⟩ := List.filterMap_eq_cons_iff.mp hl.line
  obtain rfl := Visit.eq_waiting hv
  refine ⟨before, after, hvisits, ?_, hbefore, hafter⟩
  exact number_eq hl.distinct (v := .waiting ticket) (by simp [hvisits]) rfl

/-- **The first in line is handed a token.** -/
theorem Listed.hand (hl : Listed (ticket :: line) granted visits handed) :
    Listed line (granted ++ [ticket])
      (visits.set (number ticket visits) (.granted ticket))
      (handed ++ [number ticket visits]) := by
  -- The first in line is the first of the visits that wait.
  obtain ⟨before, after, hvisits, hnumber, hbefore, hafter⟩ := hl.exists_first
  have hlt : before.length < visits.length := by simp [hvisits]
  have hthere : visits[before.length]? = some (.waiting ticket) := by simp [hvisits]
  have hset : visits.set before.length (.granted ticket) = before ++ .granted ticket :: after := by
    simp [hvisits]
  have hget : ∀ m, (visits.set before.length (.granted ticket))[m]? =
      if before.length = m then some (.granted ticket) else visits[m]? := fun m => by
    rw [List.getElem?_set, if_pos hlt]
  have hdistinct := hl.distinct
  have hperm := hl.granted
  rw [hvisits] at hdistinct hperm
  rw [hnumber]
  refine ⟨?_, ?_, ?_, fun m => ?_, ?_, fun m t hm k hk => ?_⟩
  · rw [hset]
    exact Visits.nodup_replace hdistinct (.inr rfl)
  · rw [hset, List.filterMap_append, List.filterMap_cons_none rfl, hafter,
      List.filterMap_eq_nil_iff.mpr hbefore, List.nil_append]
  · rw [List.filterMap_append, List.filterMap_cons_none rfl] at hperm
    rw [hset, List.filterMap_append, List.filterMap_cons_some (f := Visit.granted?) rfl]
    exact (List.perm_append_singleton ..).trans
      ((hperm.cons ticket).trans List.perm_middle.symm)
  · rw [hget, List.mem_append, List.mem_singleton, hl.served_iff]
    by_cases heq : before.length = m
    · simp [heq, Visit.served]
    · rw [if_neg heq]
      simp [Ne.symm heq]
  · -- Everybody that was handed a token came before everybody that waits.
    have hlast := hl.behind before.length ticket hthere
    exact List.pairwise_append.mpr ⟨hl.sorted, List.pairwise_singleton .., by simpa using hlast⟩
  · rw [hget] at hm
    split at hm
    · cases Option.some.inj hm
    · next hne =>
      rcases List.mem_append.mp hk with hk | hk
      · exact hl.behind m t hm k hk
      · -- Nobody before the first in line waits.
        obtain rfl := List.mem_singleton.mp hk
        by_contra hle
        have hfront : m < before.length := by omega
        have hmem : Visit.waiting t ∈ before := by
          rw [hvisits, List.getElem?_append_left hfront] at hm
          exact List.mem_of_getElem? hm
        cases hbefore _ hmem

private theorem filterMap_concat (f : Visit → Option Ticket) (visits : List Visit) (v : Visit) :
    (visits ++ [v]).filterMap f = visits.filterMap f ++ (f v).toList :=
  List.filterMap_append

/-- **A call comes**, with a ticket that is not in use. It is handed a token at once only if nobody
is in line. -/
theorem Listed.come (hl : Listed line granted visits handed)
    (hticket : ∀ t, v.ticket? = some t → t ∉ visits.filterMap Visit.ticket?)
    (hgranted : v.granted? = none) (hserved : v.served = true → line = []) :
    Listed (line ++ v.waiting?.toList) granted (visits ++ [v])
      (handed ++ if v.served then [visits.length] else []) := by
  -- The new visit comes last, after all that were handed a token.
  have hthere : ∀ m ∈ handed, m < visits.length := fun m hm => by
    obtain ⟨x, hx, -⟩ := (hl.served_iff m).mp hm
    exact (List.getElem?_eq_some_iff.mp hx).1
  have hnew : ∀ m ∈ (if v.served then [visits.length] else []), m = visits.length ∧
      v.served = true := fun m hm => by
    split at hm
    · next hv => exact ⟨List.mem_singleton.mp hm, hv⟩
    · cases hm
  refine ⟨?_, ?_, ?_, fun m => ?_, ?_, fun m t hm k hk => ?_⟩
  · rw [filterMap_concat]
    refine List.nodup_append.mpr ⟨hl.distinct, ?_, fun t ht t' ht' heq => ?_⟩
    · cases v.ticket? <;> simp
    · exact hticket t (heq ▸ Option.mem_toList.mp ht') ht
  · rw [filterMap_concat, hl.line]
  · rw [filterMap_concat, hgranted, Option.toList_none, List.append_nil]
    exact hl.granted
  · rw [List.mem_append, hl.served_iff, List.getElem?_append]
    by_cases hlt : m < visits.length
    · rw [if_pos hlt]
      exact or_iff_left fun hm => Nat.ne_of_lt hlt (hnew m hm).1
    · rw [if_neg hlt, List.getElem?_eq_none (Nat.le_of_not_lt hlt), List.getElem?_singleton]
      by_cases hm : m = visits.length
      · subst hm
        cases hv : v.served <;> simp [hv]
      · have hne : m - visits.length ≠ 0 := by omega
        rw [if_neg hne]
        refine iff_of_false ?_ (by simp)
        rintro (⟨x, hx, -⟩ | hm')
        · cases hx
        · exact hm (hnew m hm').1
  · refine List.pairwise_append.mpr ⟨hl.sorted, ?_, fun m hm k hk => ?_⟩
    · split <;> simp
    · exact (hnew k hk).1 ▸ hthere m hm
  · rw [List.getElem?_append] at hm
    rcases List.mem_append.mp hk with hk | hk
    · split at hm
      · exact hl.behind m t hm k hk
      · next hge => exact Nat.lt_of_lt_of_le (hthere k hk) (Nat.le_of_not_lt hge)
    · -- Nobody waits when a token is handed out at once.
      obtain ⟨rfl, hv⟩ := hnew k hk
      split at hm
      · have hmem : t ∈ visits.filterMap Visit.waiting? :=
          List.mem_filterMap.mpr ⟨_, List.mem_of_getElem? hm, rfl⟩
        rw [hl.line, hserved hv] at hmem
        cases hmem
      · obtain rfl := List.mem_singleton.mp (List.mem_of_getElem? hm)
        cases hv

/-! ### Several at once -/

theorem filterMap_ticket?_handAll (served : List Waiter) (r : Register) :
    (served.foldl hand r).visits.filterMap Visit.ticket? = r.visits.filterMap Visit.ticket? := by
  induction served generalizing r with
  | nil => rfl
  | cons w served ih =>
    exact (ih (r.hand w)).trans (filterMap_ticket?_turn (v := .granted w.ticket) rfl r)

theorem filterMap_ticket?_dismissAll (told : List Waiter) (r : Register) :
    (told.foldl dismiss r).visits.filterMap Visit.ticket? =
      r.visits.filterMap Visit.ticket? := by
  induction told generalizing r with
  | nil => rfl
  | cons w told ih =>
    exact (ih (r.dismiss w)).trans (filterMap_ticket?_turn (v := .dismissed w.ticket) rfl r)

private theorem foldl_hand_eq (served : List Waiter) (b : Bucket) (r : Register) :
    served.foldl hand { r with bucket := b } = { served.foldl hand r with bucket := b } := by
  induction served generalizing r with
  | nil => rfl
  | cons w served ih => exact ih (r.hand w)

@[simp]
theorem now_handAll (served : List Waiter) (r : Register) :
    (served.foldl hand r).now = r.now := by
  induction served generalizing r with
  | nil => rfl
  | cons w served ih => exact ih (r.hand w)

@[simp]
theorem now_dismissAll (told : List Waiter) (r : Register) :
    (told.foldl dismiss r).now = r.now := by
  induction told generalizing r with
  | nil => rfl
  | cons w told ih => exact ih (r.dismiss w)

private theorem foldl_dismiss_eq (told : List Waiter) (b : Bucket) (r : Register) :
    told.foldl dismiss { r with bucket := b } = { told.foldl dismiss r with bucket := b } := by
  induction told generalizing r with
  | nil => rfl
  | cons w told ih => exact ih (r.dismiss w)

theorem refill_eq (config : Config) (r : Register) :
    r.refill config = { (r.bucket.refill config r.now).1.foldl hand r with
      bucket := (r.bucket.refill config r.now).2 } :=
  foldl_hand_eq ..

theorem shutDown_eq (r : Register) :
    r.shutDown = { (Queue.purge r.bucket.queue).foldl dismiss r with
      bucket := r.bucket.shutDown.2 } :=
  foldl_dismiss_eq ..

/-- What a caller that asks leads to: the refill that was due comes first. -/
theorem ask_of_not_mem (h : ticket ∉ r.visits.filterMap Visit.ticket?) (caller : TaskId) :
    r.ask config ticket caller =
      let asked := r.bucket.acquire config r.now ⟨ticket, caller, true⟩
      { asked.2.1.foldl hand r with bucket := asked.2.2 }.come (stand ticket asked.1) := by
  unfold Register.ask
  rw [if_neg h]
  dsimp only
  rw [foldl_hand_eq]

/-- The first few in line are handed tokens, one after the other. -/
theorem Listed.handAll {served : List Waiter}
    (hl : Listed (served.map (·.ticket) ++ line) granted r.visits r.handed) :
    Listed line (granted ++ served.map (·.ticket)) (served.foldl Register.hand r).visits
      (served.foldl Register.hand r).handed := by
  induction served generalizing r granted with
  | nil => simpa using hl
  | cons w served ih =>
    have hrest := ih (r := r.hand w) hl.hand
    rwa [List.append_assoc] at hrest

/-- The first in line waits. -/
theorem Listed.waits (hl : Listed (ticket :: line) granted visits handed) :
    visits[number ticket visits]? = some (.waiting ticket) := by
  obtain ⟨before, after, hvisits, hnumber, -⟩ := hl.exists_first
  rw [hnumber, hvisits]
  simp

/-- The first in line is told that the bucket was closed. -/
theorem Listed.dismiss {w : Waiter} (hl : Listed (w.ticket :: line) granted r.visits r.handed) :
    Listed line granted (r.dismiss w).visits (r.dismiss w).handed := by
  have hbecome := hl.become hl.waits (u := .dismissed w.ticket) (.inr rfl) rfl rfl rfl
  simp only [Visit.waiting?, Option.elim_some, List.erase_cons_head] at hbecome
  exact hbecome

/-- Those who are in line when the bucket is closed are told so. -/
theorem Listed.dismissAll {told : List Waiter}
    (hl : Listed (told.map (·.ticket) ++ line) granted r.visits r.handed) :
    Listed line granted (told.foldl Register.dismiss r).visits
      (told.foldl Register.dismiss r).handed := by
  induction told generalizing r with
  | nil => exact hl
  | cons w told ih => exact ih (r := r.dismiss w) hl.dismiss

/-! ### Every move keeps a register sound -/

/-- What holds of a bucket and its visits. -/
structure Sound (r : Register) : Prop where
  listed : Listed (Queue.waiting r.bucket.queue) r.bucket.granted r.visits r.handed
  /-- There are tokens only while there is no line. -/
  idle : 0 < r.bucket.tokens → r.bucket.queue = []
  closed : r.bucket.closed = true → r.bucket.queue = []

theorem sound_create (config : Config) (created : Instant) : Sound (create config created) where
  listed := {
    distinct := List.nodup_nil
    line := rfl
    granted := .nil
    served_iff := by simp [create]
    sorted := .nil
    behind := by simp [create] }
  idle _ := rfl
  closed _ := rfl

theorem Listed.nodup_line (hl : Listed line granted visits handed) : line.Nodup := by
  have hpair := List.pairwise_filterMap.mp hl.distinct
  rw [← hl.line]
  exact List.pairwise_filterMap.mpr (hpair.imp fun h x hx y hy =>
    h x (Visit.ticket?_of_waiting? hx) y (Visit.ticket?_of_waiting? hy))

/-- The visit that has a ticket waits exactly if its ticket is in line. -/
theorem Listed.mem_line_iff (hl : Listed line granted visits handed) (hn : visits[n]? = some v)
    (hv : v.ticket? = some ticket) : ticket ∈ line ↔ v = .waiting ticket := by
  rw [← hl.line]
  constructor
  · intro hmem
    obtain ⟨x, hx, hxt⟩ := List.mem_filterMap.mp hmem
    obtain ⟨m, hm⟩ := List.mem_iff_getElem?.mp hx
    obtain rfl := number_unique hl.distinct hn hm hv (Visit.ticket?_of_waiting? hxt)
    rw [hn] at hm
    rw [Option.some.inj hm, Visit.eq_waiting hxt]
  · rintro rfl
    exact List.mem_filterMap.mpr ⟨_, List.mem_of_getElem? hn, rfl⟩

/-- The visit that has a ticket was handed a token exactly if its ticket is among those that
were. -/
theorem Listed.mem_granted_iff (hl : Listed line granted visits handed)
    (hn : visits[n]? = some v) (hv : v.ticket? = some ticket) :
    ticket ∈ granted ↔ v = .granted ticket := by
  rw [hl.granted.mem_iff]
  constructor
  · intro hmem
    obtain ⟨x, hx, hxt⟩ := List.mem_filterMap.mp hmem
    obtain ⟨m, hm⟩ := List.mem_iff_getElem?.mp hx
    have hxg := Visit.eq_granted hxt
    obtain rfl := number_unique hl.distinct hn hm hv (hxg ▸ rfl)
    rw [hn] at hm
    rw [Option.some.inj hm, hxg]
  · rintro rfl
    exact List.mem_filterMap.mpr ⟨_, List.mem_of_getElem? hn, rfl⟩

/-- A ticket that is in line, or was handed a token, is in use. -/
theorem Listed.exists_visit (hl : Listed line granted visits handed)
    (h : ticket ∈ line ∨ ticket ∈ granted) :
    ∃ v, visits[number ticket visits]? = some v ∧ v.ticket? = some ticket := by
  have hmem : ticket ∈ visits.filterMap Visit.ticket? := by
    rcases h with h | h
    · obtain ⟨x, hx, hxt⟩ := List.mem_filterMap.mp (hl.line ▸ h)
      exact List.mem_filterMap.mpr ⟨x, hx, Visit.ticket?_of_waiting? hxt⟩
    · obtain ⟨x, hx, hxt⟩ := List.mem_filterMap.mp (hl.granted.mem_iff.mp h)
      exact List.mem_filterMap.mpr ⟨x, hx, Visit.eq_granted hxt ▸ rfl⟩
  exact exists_number hmem

/-- Whoever has a ticket, and is neither in line nor was handed a token, was told that the bucket
is closed. -/
theorem Listed.eq_dismissed (hl : Listed line granted visits handed) (hn : visits[n]? = some v)
    (hv : v.ticket? = some ticket) (hline : ticket ∉ line) (hgranted : ticket ∉ granted) :
    v = .dismissed ticket := by
  have hnot : v ≠ .waiting ticket := fun heq => hline ((hl.mem_line_iff hn hv).mpr heq)
  have hnot' : v ≠ .granted ticket := fun heq => hgranted ((hl.mem_granted_iff hn hv).mpr heq)
  cases v <;> simp_all [Visit.ticket?]

theorem Sound.refill (hs : Sound r) (config : Config) : Sound (r.refill config) := by
  by_cases hdue : r.bucket.refillDue config r.now = true
  · have hr := refilled_of_due hdue
    have hlisted := hs.listed
    rw [hr.line] at hlisted
    have hall := hlisted.handAll
    rw [← hr.granted] at hall
    rw [refill_eq]
    refine ⟨hall, hr.idle, fun hclosed => ?_⟩
    exact absurd (hr.isOpen.symm.trans hclosed) (by simp)
  · rw [refill_eq, refill_of_not_due (Bool.eq_false_iff.mpr hdue)]
    exact hs

/-- A call comes to a bucket, which takes it into line, lets it in or refuses it. -/
private theorem Sound.come {b : Bucket} (hl : Listed line b.granted r.visits r.handed)
    (hticket : ∀ t, v.ticket? = some t → t ∉ r.visits.filterMap Visit.ticket?)
    (hgranted : v.granted? = none) (hserved : v.served = true → line = [])
    (hline : Queue.waiting b.queue = line ++ v.waiting?.toList)
    (hidle : 0 < b.tokens → b.queue = []) (hclosed : b.closed = true → b.queue = []) :
    Sound (Register.come v { r with bucket := b }) where
  listed := hline ▸ hl.come hticket hgranted hserved
  idle := hidle
  closed := hclosed

/-- A caller that finds a token finds no line, so it overtakes nobody. -/
theorem Sound.ask (hs : Sound r) (ticket : Ticket) (caller : TaskId) :
    Sound (r.ask config ticket caller) := by
  by_cases hused : ticket ∈ r.visits.filterMap Visit.ticket?
  · rwa [Register.ask, if_pos hused]
  rw [ask_of_not_mem hused]
  have hrefill := hs.refill config
  rw [refill_eq] at hrefill
  obtain ⟨hlisted, hidle, -⟩ := hrefill
  dsimp only at hlisted hidle
  have hkept := History.closed_refill config r.now r.bucket
  -- The caller is refused, goes on with a token at once, or is taken into line.
  obtain ⟨-, hask⟩ | ⟨-, htokens, hask⟩ | ⟨hopen, htokens, hask⟩ :=
    acquire_cases config r.now ⟨ticket, caller, true⟩ r.bucket
  · rw [hask]
    exact Sound.come hs.listed (v := .refused) (fun t ht => by cases ht) rfl
      (fun hv => by cases hv) (List.append_nil _).symm hs.idle hs.closed
  · have hempty := hidle htokens
    rw [hempty, Queue.waiting_nil] at hlisted
    rw [hask]
    exact Sound.come hlisted (v := .inside) (fun t ht => by cases ht) rfl (fun _ => rfl)
      (by rw [hempty]; rfl) (fun _ => hempty) fun _ => hempty
  · rw [hask]
    refine Sound.come hlisted (v := .waiting ticket) (fun t ht => ?_) rfl (fun hv => by cases hv)
      (Queue.waiting_append ..) (fun h => ?_) fun h => ?_
    · obtain rfl := Option.some.inj ht
      rwa [filterMap_ticket?_handAll]
    · exact absurd htokens (Nat.ne_of_gt h)
    · exact absurd ((hkept.trans hopen).symm.trans h) (by simp)

/-- A caller that was handed a token goes on with it, whatever it becomes. -/
private theorem Sound.leaveGranted (hs : Sound r) (hmem : ticket ∈ r.bucket.granted)
    (hticket : u.ticket? = none) (hserved : u.served = true) :
    Sound { r.turn ticket u with
      bucket := { r.bucket with granted := r.bucket.granted.erase ticket } } := by
  obtain ⟨v, hn, hv⟩ := hs.listed.exists_visit (.inr hmem)
  obtain rfl := (hs.listed.mem_granted_iff hn hv).mp hmem
  have hwaiting : u.waiting? = none := by cases u <;> simp_all [Visit.ticket?, Visit.waiting?]
  have hgranted : u.granted? = none := by cases u <;> simp_all [Visit.ticket?, Visit.granted?]
  exact ⟨hs.listed.become hn (.inl hticket) hwaiting hgranted hserved, hs.idle, hs.closed⟩

/-- A caller in line that was told something, or nothing, learns it. -/
theorem Sound.pickUp (hs : Sound r) (ticket : Ticket) : Sound (r.pickUp ticket) := by
  unfold Register.pickUp pickUp?
  by_cases hmem : ticket ∈ r.bucket.granted
  · rw [if_pos hmem]
    exact hs.leaveGranted (u := .inside) hmem rfl rfl
  rw [if_neg hmem]
  by_cases hclosed : r.bucket.closed = true
  · dsimp only
    rw [if_pos hclosed]
    by_cases hused : ticket ∈ r.visits.filterMap Visit.ticket?
    · -- Nobody is in line any more, so whoever has a ticket was dismissed.
      obtain ⟨v, hn, hv⟩ := exists_number hused
      have hline : ticket ∉ Queue.waiting r.bucket.queue := by simp [hs.closed hclosed]
      obtain rfl := hs.listed.eq_dismissed hn hv hline hmem
      exact ⟨hs.listed.become hn (u := .refused) (.inl rfl) rfl rfl rfl, hs.idle, hs.closed⟩
    · rwa [turn_of_not_mem hused]
  · dsimp only
    rwa [if_neg hclosed]

/-- A caller that is cancelled leaves the line, or takes a token with it. -/
theorem Sound.giveUp (hs : Sound r) (ticket : Ticket) : Sound (r.giveUp ticket) := by
  unfold Register.giveUp Bucket.giveUp
  by_cases hmem : ticket ∈ r.bucket.granted
  · rw [if_pos hmem, if_pos hmem]
    exact hs.leaveGranted (u := .lost) hmem rfl rfl
  rw [if_neg hmem, if_neg hmem]
  have hline : Queue.waiting (Queue.giveUp ticket r.bucket.queue) =
      (Queue.waiting r.bucket.queue).erase ticket :=
    Queue.waiting_giveUp_eq_erase hs.listed.nodup_line
  have hempty {p : Prop} (hnil : p → r.bucket.queue = []) :
      p → Queue.giveUp ticket r.bucket.queue = [] := fun h => by rw [hnil h]; rfl
  refine ⟨?_, hempty hs.idle, hempty hs.closed⟩
  dsimp only
  rw [hline]
  by_cases hused : ticket ∈ r.visits.filterMap Visit.ticket?
  -- A caller with a ticket that is not granted waits, or has been dismissed and does not know.
  · obtain ⟨v, hn, hv⟩ := exists_number hused
    have hin := hs.listed.mem_line_iff hn hv
    have hbecome {v : Visit} (hn : r.visits[number ticket r.visits]? = some v)
        (hserved : v.served = false) :=
      hs.listed.become hn (u := .gaveUp) (.inl rfl) rfl rfl hserved.symm
    by_cases hwaits : ticket ∈ Queue.waiting r.bucket.queue
    · obtain rfl := hin.mp hwaits
      exact hbecome hn rfl
    · rw [List.erase_of_not_mem hwaits]
      obtain rfl := hs.listed.eq_dismissed hn hv hwaits hmem
      exact hbecome hn rfl
  · have hwaits : ticket ∉ Queue.waiting r.bucket.queue := fun h => by
      obtain ⟨v, hn, hv⟩ := hs.listed.exists_visit (.inl h)
      exact hused (List.mem_filterMap.mpr ⟨v, List.mem_of_getElem? hn, hv⟩)
    rw [List.erase_of_not_mem hwaits, turn_of_not_mem hused]
    exact hs.listed

theorem Sound.shutDown (hs : Sound r) : Sound r.shutDown := by
  rw [shutDown_eq]
  have hlisted := hs.listed
  have hline : Queue.waiting r.bucket.queue = (Queue.purge r.bucket.queue).map (·.ticket) ++ [] :=
    (List.append_nil _).symm
  rw [hline] at hlisted
  exact ⟨hlisted.dismissAll, fun _ => rfl, fun _ => rfl⟩

/-- **Every move keeps a register sound.** -/
theorem Sound.step (hs : Sound r) (move : Move) : Sound (r.step config move) := by
  cases move with
  | ask ticket caller => exact hs.ask ticket caller
  | refill => exact hs.refill config
  | pickUp ticket => exact hs.pickUp ticket
  | giveUp ticket => exact hs.giveUp ticket
  | pass instant => exact ⟨hs.listed, hs.idle, hs.closed⟩
  | shutDown => exact hs.shutDown

theorem Sound.foldl (hs : Sound r) (moves : List Move) :
    Sound (moves.foldl (Register.step config) r) := by
  induction moves generalizing r with
  | nil => exact hs
  | cons move moves ih => exact ih (hs.step move)

/-- **Every register is sound**, whatever happens when. -/
theorem sound_run (config : Config) (created : Instant) (moves : List Move) :
    Sound (run config created moves) :=
  (sound_create config created).foldl moves

end Register

end Bucket

end Resilience
