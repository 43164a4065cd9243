import Resilience.Limiter
import Resilience.Proofs.Queue
import Mathlib.Data.List.Count
import Mathlib.Data.List.Perm.Basic
import Mathlib.Data.List.Nodup

/-!
# The callers of a limiter

A **visit** is one call that asks a limiter for a slot, from the moment of asking; a **history**
is a limiter with all its visits in the order in which they came. A `Move` is something that a
caller does: it asks, it runs again to pick up its slot, it is cancelled, or it gives its slot
back. Moves come in any order and from any caller; a move that its caller cannot make leaves
everything as it is. So `History.run` ranges over every interleaving of any number of callers.

`History.Sound` joins the limiter to the standings of its visits: the line holds the tickets of
those who wait, in the order in which they came, the slots in use are those that callers have,
and nobody waits who came before somebody that was served. Every move preserves it
(`Sound.step`), so every history is sound (`sound_run`).
-/

namespace Resilience

namespace Limiter

/-! ### What a limiter answers -/

/-- A caller takes up a slot that it was handed, and nothing else changes. -/
theorem pickUp?_eq_some {l l' : Limiter} {ticket : Ticket} (h : l.pickUp? ticket = some l') :
    ticket ∈ l.granted ∧ l' = { l with granted := l.granted.erase ticket } := by
  obtain ⟨hgranted, heq⟩ := Option.ite_none_right_eq_some.mp h
  exact ⟨hgranted, (Option.some.inj heq).symm⟩

/-- All slots are in use, and as many callers wait as may wait. -/
def Full (config : Config) (l : Limiter) : Prop :=
  config.maxQueue ≠ 0 ∧ config.slots ≤ l.active ∧
    config.maxQueue ≤ (Queue.waiting l.queue).length

/-- **What a caller meets**: a free slot, a place at the end of the line, or a full line. -/
theorem ask_cases (config : Config) (w : Waiter) (l : Limiter) :
    (l.active < config.slots ∧
      l.ask config w = (.admitted, { l with active := l.active + 1 })) ∨
    (config.slots ≤ l.active ∧ ¬ l.Full config ∧
      l.ask config w = (.queued, { l with queue := Queue.purge l.queue ++ [w] })) ∨
    (l.Full config ∧ l.ask config w =
      (.rejected l.active (Queue.waiting l.queue).length,
        { l with queue := Queue.purge l.queue })) := by
  unfold ask
  dsimp only
  rw [Queue.length_purge]
  by_cases hfree : l.active < config.slots
  · exact .inl ⟨hfree, by rw [if_pos hfree]⟩
  rw [if_neg hfree]
  have hbusy : config.slots ≤ l.active := Nat.le_of_not_lt hfree
  by_cases hbound : config.maxQueue ≠ 0 ∧ config.maxQueue ≤ (Queue.waiting l.queue).length
  · exact .inr (.inr ⟨⟨hbound.1, hbusy, hbound.2⟩, by rw [if_pos hbound]⟩)
  · refine .inr (.inl ⟨hbusy, fun hfull => hbound ⟨hfull.1, hfull.2.2⟩, by rw [if_neg hbound]⟩)

/-! ### Visits and moves -/

/-- Where one call that asked for a slot stands. -/
inductive Visit where
  /-- In line. -/
  | waiting (ticket : Ticket)
  /-- Was handed a slot and has not run since. -/
  | granted (ticket : Ticket)
  /-- Holds a slot. -/
  | inside
  /-- Had a slot, which is given back or was passed on. -/
  | left
  /-- Was cancelled while it was in line. -/
  | gaveUp
  /-- Found the line full. -/
  | refused
deriving DecidableEq, Repr

namespace Visit

/-- The ticket of a visit that has not ended and is not inside. -/
@[simp]
def ticket? : Visit → Option Ticket
  | waiting ticket => some ticket
  | granted ticket => some ticket
  | _ => none

/-- The ticket of a visit that is in line. -/
@[simp]
def waiting? : Visit → Option Ticket
  | waiting ticket => some ticket
  | _ => none

/-- The ticket of a visit that was handed a slot and has not run since. -/
@[simp]
def granted? : Visit → Option Ticket
  | granted ticket => some ticket
  | _ => none

/-- The visit has a slot, picked up or not. -/
@[simp]
def hasSlot : Visit → Bool
  | granted _ => true
  | inside => true
  | _ => false

/-- The visit has or had a slot. -/
@[simp]
def served : Visit → Bool
  | granted _ => true
  | inside => true
  | left => true
  | _ => false

/-- What becomes of a visit that is cancelled before it is inside. -/
@[simp]
def cancelled : Visit → Visit
  | waiting _ => gaveUp
  | granted _ => left
  | v => v

end Visit

/-- A limiter and the calls that asked it for a slot, in the order in which they came. -/
structure History where
  limiter : Limiter := {}
  visits : List Visit := []
deriving DecidableEq, Repr

/-- Something that a caller does; callers are numbered in the order in which they came. -/
inductive Move where
  | ask (ticket : Ticket) (caller : TaskId)
  /-- Runs again and picks up its slot, if it was handed one. -/
  | resume (n : Nat)
  /-- Is cancelled before it has picked up a slot. -/
  | cancel (n : Nat)
  /-- Gives back the slot that it holds. -/
  | release (n : Nat)
deriving DecidableEq, Repr

namespace History

/-- The visit with the ticket of a waiter is handed a slot. -/
def serve : Option Waiter → List Visit → List Visit
  | some w, visits => visits.map fun v => if v = .waiting w.ticket then .granted w.ticket else v
  | none, visits => visits

/-- A call asks for a slot. A ticket that is in use is not given out again. -/
def ask (config : Config) (ticket : Ticket) (caller : TaskId) (h : History) : History :=
  if ticket ∈ h.visits.filterMap Visit.ticket? then h
  else match h.limiter.ask config ⟨ticket, caller, true⟩ with
    | (.admitted, l) => ⟨l, h.visits ++ [.inside]⟩
    | (.queued, l) => ⟨l, h.visits ++ [.waiting ticket]⟩
    | (.rejected _ _, l) => ⟨l, h.visits ++ [.refused]⟩

/-- A call that was in line runs again. -/
def resume (n : Nat) (h : History) : History :=
  match h.visits[n]?.bind Visit.ticket? with
  | some ticket =>
    match h.limiter.pickUp? ticket with
    | some l => ⟨l, h.visits.set n .inside⟩
    | none => h
  | none => h

/-- A call that is not inside is cancelled. -/
def cancel (n : Nat) (h : History) : History :=
  match h.visits[n]? with
  | some v =>
    match v.ticket? with
    | some ticket =>
      let (next?, l) := h.limiter.giveUp ticket
      ⟨l, serve next? (h.visits.set n v.cancelled)⟩
    | none => h
  | none => h

/-- A call gives back its slot. -/
def release (n : Nat) (h : History) : History :=
  if h.visits[n]? = some .inside then
    let (next?, l) := h.limiter.release
    ⟨l, serve next? (h.visits.set n .left)⟩
  else h

/-- One move. -/
def step (config : Config) (h : History) : Move → History
  | .ask ticket caller => h.ask config ticket caller
  | .resume n => h.resume n
  | .cancel n => h.cancel n
  | .release n => h.release n

/-- Moves one after the other, from a new limiter. -/
def run (config : Config) (moves : List Move) : History := moves.foldl (step config) {}

/-- What holds of a limiter and its visits. Between moves no slot is `loose`; while a slot goes
from one caller to the next, one is. -/
structure Sound (config : Config) (loose : Nat) (h : History) : Prop where
  /-- The line holds the tickets of those who wait, in the order in which they came. -/
  line : Queue.waiting h.limiter.queue = h.visits.filterMap Visit.waiting?
  handed : h.limiter.granted.Perm (h.visits.filterMap Visit.granted?)
  distinct : (h.visits.filterMap Visit.ticket?).Nodup
  active_eq : h.limiter.active = h.visits.countP Visit.hasSlot + loose
  active_le : h.limiter.active ≤ config.slots
  /-- There is a line only while no slot is free. -/
  busy : h.limiter.queue ≠ [] → h.limiter.active = config.slots
  /-- Nobody who came before somebody that was served still waits. -/
  order : h.visits.Pairwise fun x y => x.waiting?.isSome → y.served = false

theorem sound_start (config : Config) : Sound config 0 {} where
  line := rfl
  handed := .nil
  distinct := List.nodup_nil
  active_eq := rfl
  active_le := Nat.zero_le _
  busy h := absurd rfl h
  order := .nil

/-! ### One visit among the others -/

/-- A visit that does not wait any more may count as served if it did before, or if nobody before
it waits. -/
private theorem order_replace {before after : List Visit} {v v' : Visit}
    (h : (before ++ v :: after).Pairwise fun x y => x.waiting?.isSome → y.served = false)
    (hw : v'.waiting? = none)
    (hs : v'.served = true → v.served = true ∨ ∀ x ∈ before, x.waiting? = none) :
    (before ++ v' :: after).Pairwise fun x y => x.waiting?.isSome → y.served = false := by
  obtain ⟨hbefore, hafter, hcross⟩ := List.pairwise_append.mp h
  have hfront := List.pairwise_cons.mpr
    ⟨fun y _ hv => absurd hv (by rw [hw]; decide), (List.pairwise_cons.mp hafter).2⟩
  refine List.pairwise_append.mpr ⟨hbefore, hfront, fun x hx y hy hxw => ?_⟩
  rcases List.mem_cons.mp hy with rfl | hy
  · by_contra hserved
    rcases hs (by simpa using hserved) with hv | hnobody
    · exact absurd hv (Bool.eq_false_iff.mp (hcross x hx v List.mem_cons_self hxw))
    · rw [hnobody x hx] at hxw
      cases hxw
  · exact hcross x hx y (List.mem_cons_of_mem v hy) hxw

/-- A caller has been handed a slot exactly if its ticket is among those handed. -/
theorem Sound.mem_granted_iff {config : Config} {loose : Nat} {h : History}
    (hs : Sound config loose h) {v : Visit} (hv : v ∈ h.visits) {ticket : Ticket}
    (ht : v.ticket? = some ticket) : ticket ∈ h.limiter.granted ↔ v = .granted ticket := by
  rw [hs.handed.mem_iff]
  constructor
  · intro hg
    obtain ⟨x, hx, hxg⟩ := List.mem_filterMap.mp hg
    have hxt : x = .granted ticket := by cases x <;> simp_all
    have hsame : x = v := by
      obtain ⟨before, after, hsplit⟩ := List.append_of_mem hv
      rw [hsplit] at hx
      have hdistinct := hs.distinct
      rw [hsplit] at hdistinct
      by_contra hne
      refine Visits.ticket_ne_around hdistinct ht x ?_ (by rw [hxt]; rfl)
      simp only [List.mem_append, List.mem_cons] at hx ⊢
      tauto
    rw [← hsame, hxt]
  · rintro rfl
    exact List.mem_filterMap.mpr ⟨_, hv, rfl⟩

/-! ### Handing a slot on -/

private theorem release_of_next?_none {l : Limiter} (h : Queue.next? l.queue = none) :
    Limiter.release l = (none, ⟨l.active - 1, [], l.granted⟩) := by
  simp [Limiter.release, h]

private theorem release_of_next?_some {l : Limiter} {w : Waiter} {rest : List Waiter}
    (h : Queue.next? l.queue = some (w, rest)) :
    Limiter.release l = (some w, ⟨l.active, rest, l.granted ++ [w.ticket]⟩) := by
  simp [Limiter.release, h]

/-- Of visits with tickets of their own, only the one in line is handed the slot. -/
private theorem serve_middle {before after : List Visit} {w : Waiter}
    (h : ((before ++ .waiting w.ticket :: after).filterMap Visit.ticket?).Nodup) :
    serve (some w) (before ++ .waiting w.ticket :: after) =
      before ++ .granted w.ticket :: after := by
  have hothers := Visits.ticket_ne_around h rfl
  have hsame : ∀ l ⊆ before ++ after, l.map (fun v =>
      if v = .waiting w.ticket then .granted w.ticket else v) = l := fun l hl => by
    refine (List.map_congr_left fun x hx => if_neg ?_).trans (List.map_id' l)
    rintro rfl
    exact hothers _ (hl hx) rfl
  rw [serve, List.map_append, List.map_cons, if_pos rfl,
    hsame before (List.subset_append_left ..), hsame after (List.subset_append_right ..)]

/-- The slot of a caller that is done goes to the first who waits, or it is given back. -/
theorem Sound.hand {config : Config} {h : History} (hs : Sound config 1 h) :
    Sound config 0 ⟨h.limiter.release.2, serve h.limiter.release.1 h.visits⟩ := by
  obtain ⟨line, handed, distinct, active_eq, active_le, busy, order⟩ := hs
  -- The slot is loose: nobody has it yet, but it is still counted.
  cases hnext : Queue.next? h.limiter.queue with
  | none =>
    rw [release_of_next?_none hnext]
    rw [Queue.waiting_of_next?_none hnext] at line
    exact {
      line := line
      handed := handed
      distinct := distinct
      active_eq := by simp [active_eq, serve]
      active_le := Nat.le_trans (Nat.sub_le ..) active_le
      busy := fun h => absurd rfl h
      order := order }
  | some pair =>
    obtain ⟨w, rest⟩ := pair
    rw [release_of_next?_some hnext]
    rw [Queue.waiting_of_next?_some hnext] at line
    -- The first who waits in line is the first of the visits that wait.
    obtain ⟨before, v, after, hvisits, hbefore, hv, hafter⟩ :=
      List.filterMap_eq_cons_iff.mp line.symm
    obtain rfl : v = .waiting w.ticket := by cases v <;> simp_all
    rw [hvisits] at handed distinct active_eq order ⊢
    rw [serve_middle distinct]
    exact {
      line := by
        rw [List.filterMap_append, List.filterMap_cons_none rfl, hafter,
          List.filterMap_eq_nil_iff.mpr hbefore, List.nil_append]
      handed := by
        rw [List.filterMap_append, List.filterMap_cons_none rfl] at handed
        rw [List.filterMap_append, List.filterMap_cons_some (f := Visit.granted?) rfl]
        exact (List.perm_append_singleton ..).trans
          ((handed.cons w.ticket).trans List.perm_middle.symm)
      distinct := Visits.nodup_replace distinct (.inr rfl)
      active_eq := by
        rw [List.countP_append, List.countP_cons_of_neg (by simp)] at active_eq
        rw [List.countP_append, List.countP_cons_of_pos rfl]
        exact active_eq
      active_le := active_le
      busy := fun _ => busy fun hnil => by simp [hnil, Queue.next?] at hnext
      order := order_replace order rfl fun _ => .inr hbefore }

/-! ### The moves of a caller -/

theorem filterMap_come_none {f : Visit → Option Ticket} {v : Visit} (h : f v = none)
    (visits : List Visit) : (visits ++ [v]).filterMap f = visits.filterMap f := by
  rw [List.filterMap_append, List.filterMap_cons_none h, List.filterMap_nil, List.append_nil]

theorem filterMap_come_some {f : Visit → Option Ticket} {v : Visit} {ticket : Ticket}
    (h : f v = some ticket) (visits : List Visit) :
    (visits ++ [v]).filterMap f = visits.filterMap f ++ [ticket] := by
  rw [List.filterMap_append, List.filterMap_cons_some h, List.filterMap_nil]

/-- A call without a ticket that is in use asks. -/
theorem Sound.ask {config : Config} {h : History} (hs : Sound config 0 h) (ticket : Ticket)
    (caller : TaskId) : Sound config 0 (h.ask config ticket caller) := by
  obtain ⟨line, handed, distinct, active_eq, active_le, busy, order⟩ := id hs
  unfold History.ask
  by_cases hused : ticket ∈ h.visits.filterMap Visit.ticket?
  · rwa [if_pos hused]
  rw [if_neg hused]
  -- Whoever comes is served at once only if nobody waits, so the order is kept.
  have hcome : ∀ v : Visit, (v.served = true → h.visits.filterMap Visit.waiting? = []) →
      (h.visits ++ [v]).Pairwise fun x y => x.waiting?.isSome → y.served = false := by
    intro v hv
    refine List.pairwise_append.mpr ⟨order, List.pairwise_singleton .., fun x hx y hy hxw => ?_⟩
    obtain rfl := List.mem_singleton.mp hy
    by_contra hserved
    have hnobody := List.filterMap_eq_nil_iff.mp (hv (by simpa using hserved)) x hx
    rw [hnobody] at hxw
    cases hxw
  obtain ⟨hfree, hask⟩ | ⟨hbusy, -, hask⟩ | ⟨⟨-, hbusy, -⟩, hask⟩ :=
    h.limiter.ask_cases config ⟨ticket, caller, true⟩
  -- A line would mean that no slot is free.
  · have hempty : h.limiter.queue = [] := by
      by_contra hne
      exact absurd (busy hne) (Nat.ne_of_lt hfree)
    rw [hempty] at line
    rw [hask]
    exact {
      line := by rw [filterMap_come_none rfl]; exact hempty ▸ line
      handed := by rwa [filterMap_come_none rfl]
      distinct := by rwa [filterMap_come_none rfl]
      active_eq := by simp [active_eq]
      active_le := hfree
      busy := fun hne => absurd hempty hne
      order := hcome _ fun _ => line.symm }
  · rw [hask]
    exact {
      line := by
        rw [filterMap_come_some (f := Visit.waiting?) rfl, ← line]
        exact (Queue.waiting_append ..).trans (by rw [Queue.waiting_purge]; rfl)
      handed := by rwa [filterMap_come_none rfl]
      distinct := by
        rw [filterMap_come_some (f := Visit.ticket?) rfl]
        exact List.nodup_append_comm.mp (List.nodup_cons.mpr ⟨hused, distinct⟩)
      active_eq := by simp [active_eq]
      active_le := active_le
      busy := fun _ => Nat.le_antisymm active_le hbusy
      order := hcome _ fun hserved => absurd hserved (by simp) }
  · rw [hask]
    exact {
      line := by rw [filterMap_come_none rfl]; exact (Queue.waiting_purge _).trans line
      handed := by rwa [filterMap_come_none rfl]
      distinct := by rwa [filterMap_come_none rfl]
      active_eq := by simp [active_eq]
      active_le := active_le
      busy := fun _ => Nat.le_antisymm active_le hbusy
      order := hcome _ fun hserved => absurd hserved (by simp) }

/-- A visit with a slot becomes one that is not in line any more: it takes up its slot, or its
slot is loose. -/
private theorem Sound.turn {config : Config} {l : Limiter} {before after : List Visit}
    (v v' : Visit) (loose : Nat) (hs : Sound config 0 ⟨l, before ++ v :: after⟩)
    (hv : v.hasSlot = true) (hv' : v'.ticket? = none) (hloose : v'.hasSlot.toNat + loose = 1) :
    Sound config loose ⟨⟨l.active, l.queue, v.granted?.elim l.granted l.granted.erase⟩,
      before ++ v' :: after⟩ := by
  obtain ⟨line, handed, distinct, active_eq, active_le, busy, order⟩ := hs
  have hwaiting : v.waiting? = none := by cases v <;> simp_all
  have hwaiting' : v'.waiting? = none := by cases v' <;> simp_all
  have hgranted' : v'.granted? = none := by cases v' <;> simp_all
  exact {
    line := by
      rw [List.filterMap_append, List.filterMap_cons_none hwaiting] at line
      rwa [List.filterMap_append, List.filterMap_cons_none hwaiting']
    handed := by
      rw [List.filterMap_append, List.filterMap_cons] at handed
      rw [List.filterMap_append, List.filterMap_cons_none hgranted']
      cases hg : v.granted? with
      | none =>
        rw [hg] at handed
        exact handed
      | some ticket =>
        rw [hg] at handed
        have herase := (handed.trans List.perm_middle).erase ticket
        rwa [List.erase_cons_head] at herase
    distinct := Visits.nodup_replace distinct (.inl hv')
    -- The slot of the visit is either still its own or loose.
    active_eq := by
      rw [List.countP_append, List.countP_cons_of_pos hv] at active_eq
      have hcount : (v' :: after).countP Visit.hasSlot =
          after.countP Visit.hasSlot + v'.hasSlot.toNat := by
        cases hslot : v'.hasSlot <;> simp only [List.countP_cons, hslot] <;> rfl
      rw [List.countP_append, hcount]
      exact active_eq.trans (by omega)
    active_le := active_le
    busy := busy
    order := order_replace order hwaiting' fun _ => .inl (by cases v <;> simp_all) }

/-- A caller that was handed a slot goes on with it; one that was not stays in line. -/
theorem Sound.resume {config : Config} {h : History} (hs : Sound config 0 h) (n : Nat) :
    Sound config 0 (h.resume n) := by
  unfold History.resume
  cases hv : h.visits[n]?.bind Visit.ticket? with
  | none => exact hs
  | some ticket =>
    obtain ⟨v, hn, ht⟩ := Option.bind_eq_some_iff.mp hv
    by_cases hg : ticket ∈ h.limiter.granted
    · obtain rfl := (hs.mem_granted_iff (List.mem_of_getElem? hn) ht).mp hg
      obtain ⟨before, after, hvisits, hset⟩ := Visits.exists_around hn
      have hturn := Sound.turn (.granted ticket) .inside 0
        (show Sound config 0 ⟨h.limiter, before ++ _ :: after⟩ from hvisits ▸ hs) rfl rfl rfl
      simp only [pickUp?, if_pos hg, hset]
      exact hturn
    · simpa only [pickUp?, if_neg hg] using hs

/-- A caller that holds a slot gives it back. -/
theorem Sound.release {config : Config} {h : History} (hs : Sound config 0 h) (n : Nat) :
    Sound config 0 (h.release n) := by
  unfold History.release
  by_cases hn : h.visits[n]? = some .inside
  · obtain ⟨before, after, hvisits, hset⟩ := Visits.exists_around hn
    have hturn := Sound.turn .inside .left 1
      (show Sound config 0 ⟨h.limiter, before ++ _ :: after⟩ from hvisits ▸ hs) rfl rfl rfl
    rw [if_pos hn, hset]
    exact hturn.hand
  · rwa [if_neg hn]

/-- A caller that is cancelled leaves the line, or passes on the slot that it was handed. -/
theorem Sound.cancel {config : Config} {h : History} (hs : Sound config 0 h) (n : Nat) :
    Sound config 0 (h.cancel n) := by
  unfold History.cancel
  cases hn : h.visits[n]? with
  | none => exact hs
  | some v =>
    cases ht : v.ticket? with
    | none => simpa only [ht] using hs
    | some ticket =>
      have hmem := hs.mem_granted_iff (List.mem_of_getElem? hn) ht
      obtain ⟨before, after, hvisits, hset⟩ := Visits.exists_around hn
      simp only [ht, hset]
      -- A slot that was handed to the caller is passed on; otherwise the caller leaves the line.
      by_cases hg : ticket ∈ h.limiter.granted
      · obtain rfl := hmem.mp hg
        have hturn := Sound.turn (.granted ticket) .left 1
          (show Sound config 0 ⟨h.limiter, before ++ _ :: after⟩ from hvisits ▸ hs) rfl rfl rfl
        rw [show h.limiter.giveUp ticket = _ from if_pos hg]
        exact hturn.hand
      · obtain rfl : v = .waiting ticket := by cases v <;> simp_all
        obtain ⟨line, handed, distinct, active_eq, active_le, busy, order⟩ := hs
        rw [hvisits] at line handed distinct active_eq order
        rw [show h.limiter.giveUp ticket = (none, ⟨h.limiter.active,
          Queue.giveUp ticket h.limiter.queue, h.limiter.granted⟩) from if_neg hg]
        change Sound config 0 ⟨⟨_, _, _⟩, before ++ .gaveUp :: after⟩
        exact {
          line := by
            have hothers := Visits.ticket_ne_around distinct rfl
            have hgone : (before ++ .gaveUp :: after).filterMap Visit.waiting? =
                (before ++ after).filterMap Visit.waiting? := by
              rw [List.filterMap_append, List.filterMap_cons_none rfl, ← List.filterMap_append]
            rw [List.filterMap_append, List.filterMap_cons_some (f := Visit.waiting?) rfl] at line
            rw [hgone, Queue.waiting_giveUp, line, List.filter_append,
              List.filter_cons_of_neg (by simp), ← List.filter_append, ← List.filterMap_append]
            refine List.filter_eq_self.mpr fun t ht => ?_
            obtain ⟨x, hx, hxt⟩ := List.mem_filterMap.mp ht
            simp only [ne_eq, decide_not, Bool.not_eq_true', decide_eq_false_iff_not]
            rintro rfl
            exact hothers x hx (by cases x <;> simp_all)
          handed := by
            rw [List.filterMap_append, List.filterMap_cons_none rfl] at handed
            rwa [List.filterMap_append, List.filterMap_cons_none rfl]
          distinct := Visits.nodup_replace distinct (.inl rfl)
          active_eq := by simpa using active_eq
          active_le := active_le
          busy := fun hne => busy fun hnil => hne (by simp [hnil, Queue.giveUp])
          order := order_replace order rfl fun hserved => by simp at hserved }

/-- **Every move keeps a history sound.** -/
theorem Sound.step {config : Config} {h : History} (hs : Sound config 0 h) (move : Move) :
    Sound config 0 (h.step config move) := by
  cases move with
  | ask ticket caller => exact hs.ask ticket caller
  | resume n => exact hs.resume n
  | cancel n => exact hs.cancel n
  | release n => exact hs.release n

/-- **Every history is sound**, whoever moves when. -/
theorem sound_run (config : Config) (moves : List Move) : Sound config 0 (run config moves) := by
  suffices ∀ h, Sound config 0 h → Sound config 0 (moves.foldl (History.step config) h) from
    this {} (sound_start config)
  induction moves with
  | nil => exact fun h hs => hs
  | cons move rest ih => exact fun h hs => ih _ (hs.step move)

theorem run_concat (config : Config) (moves : List Move) (move : Move) :
    run config (moves ++ [move]) = (run config moves).step config move := by
  simp [run]

/-! ### What being served leaves alone -/

/-- Whoever is served had a ticket and has it still. -/
theorem count_serve {x : Visit} (hx : x.ticket? = none) (next? : Option Waiter)
    (visits : List Visit) : (serve next? visits).count x = visits.count x := by
  cases next? with
  | none => rfl
  | some w =>
    rw [serve, List.count, List.countP_map]
    refine List.countP_congr fun v _ => ?_
    by_cases hv : v = .waiting w.ticket <;> cases x <;> simp_all

@[simp]
theorem count_inside_serve (next? : Option Waiter) (visits : List Visit) :
    (serve next? visits).count .inside = visits.count .inside :=
  count_serve rfl next? visits

@[simp]
theorem filterMap_ticket?_serve (next? : Option Waiter) (visits : List Visit) :
    (serve next? visits).filterMap Visit.ticket? = visits.filterMap Visit.ticket? := by
  cases next? with
  | none => rfl
  | some w =>
    rw [serve, List.filterMap_map]
    refine List.filterMap_congr fun v _ => ?_
    by_cases hv : v = .waiting w.ticket <;> simp [hv]

end History

end Limiter

end Resilience
