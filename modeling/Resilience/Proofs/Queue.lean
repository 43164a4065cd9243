import Resilience.Queue
import Mathlib.Data.List.Basic
import Mathlib.Data.List.Nodup

/-!
# Who waits in a line

`Queue.waiting` is what counts about a line: the tickets of its live places, from the front.
Joining the line puts a ticket at the end, giving up takes it out, purging changes nothing,
`Queue.next?` takes the first ticket and `Queue.serve` the first few. No operation reorders the
others.

What becomes of the callers is told by a list of visits, one for each caller that came, which
changes one visit at a time (`Visits`).
-/

namespace Resilience

namespace Queue

/-- The tickets of the callers that wait in a line, in their order. -/
def waiting (queue : List Waiter) : List Ticket := (queue.filter (·.live)).map (·.ticket)

@[simp]
theorem waiting_nil : waiting [] = [] := rfl

theorem waiting_cons_live {w : Waiter} (h : w.live = true) (queue : List Waiter) :
    waiting (w :: queue) = w.ticket :: waiting queue := by
  simp [waiting, h]

theorem waiting_cons_dead {w : Waiter} (h : w.live = false) (queue : List Waiter) :
    waiting (w :: queue) = waiting queue := by
  simp [waiting, h]

@[simp]
theorem waiting_append (front back : List Waiter) :
    waiting (front ++ back) = waiting front ++ waiting back := by
  simp [waiting]

@[simp]
theorem waiting_purge (queue : List Waiter) : waiting (purge queue) = waiting queue := by
  simp [waiting, purge]

theorem length_purge (queue : List Waiter) : (purge queue).length = (waiting queue).length := by
  simp [waiting, purge]

/-- Giving up takes the ticket out of the line. -/
theorem waiting_giveUp (ticket : Ticket) (queue : List Waiter) :
    waiting (giveUp ticket queue) = (waiting queue).filter fun t => t ≠ ticket := by
  induction queue with
  | nil => rfl
  | cons w rest ih =>
    have hrest : giveUp ticket (w :: rest) =
        (if w.ticket = ticket then { w with live := false } else w) :: giveUp ticket rest := rfl
    rw [hrest]
    by_cases ht : w.ticket = ticket
    · rw [if_pos ht, waiting_cons_dead rfl, ih]
      cases hl : w.live with
      | false => rw [waiting_cons_dead hl]
      | true => rw [waiting_cons_live hl, List.filter_cons_of_neg (by simp [ht])]
    · rw [if_neg ht]
      cases hl : w.live with
      | false => rw [waiting_cons_dead hl, waiting_cons_dead hl, ih]
      | true =>
        rw [waiting_cons_live hl, waiting_cons_live hl, ih,
          List.filter_cons_of_pos (by simp [ht])]

theorem waiting_giveUp_eq_erase {ticket : Ticket} {queue : List Waiter}
    (hnodup : (waiting queue).Nodup) :
    waiting (giveUp ticket queue) = (waiting queue).erase ticket := by
  rw [waiting_giveUp, hnodup.erase_eq_filter]
  exact List.filter_congr fun t _ => Bool.eq_iff_iff.mpr (by simp)

/-- A dead place at the front is passed over. -/
theorem next?_cons_dead {w : Waiter} (h : w.live = false) (queue : List Waiter) :
    next? (w :: queue) = next? queue := by
  simp [next?, h]

theorem next?_cons_live {w : Waiter} (h : w.live = true) (queue : List Waiter) :
    next? (w :: queue) = some (w, queue) := by
  simp [next?, h]

/-- Nobody is served only when nobody waits. -/
theorem waiting_of_next?_none {queue : List Waiter} (h : next? queue = none) :
    waiting queue = [] := by
  induction queue with
  | nil => rfl
  | cons w rest ih =>
    cases hl : w.live with
    | false =>
      rw [next?_cons_dead hl] at h
      rw [waiting_cons_dead hl, ih h]
    | true => simp [next?_cons_live hl] at h

/-- Whoever is served is the first who waits. -/
theorem waiting_of_next?_some {queue rest : List Waiter} {w : Waiter}
    (h : next? queue = some (w, rest)) : waiting queue = w.ticket :: waiting rest := by
  induction queue with
  | nil => simp [next?] at h
  | cons v queue ih =>
    cases hl : v.live with
    | false =>
      rw [next?_cons_dead hl] at h
      rw [waiting_cons_dead hl, ih h]
    | true =>
      rw [next?_cons_live hl] at h
      obtain ⟨rfl, rfl⟩ := Prod.mk.inj (Option.some.inj h)
      exact waiting_cons_live hl _

/-- Everything that is handed out goes to somebody or is left over. -/
theorem length_serve (n : Nat) (queue : List Waiter) :
    (serve n queue).2.1 + (serve n queue).1.length = n := by
  induction n, queue using serve.induct with
  | case1 queue => simp [serve]
  | case2 n => simp [serve]
  | case3 n w queue hlive served left rest _ ih => simp [serve, hlive, ← Nat.add_assoc, ih]
  | case4 n w queue hdead ih => simpa [serve, hdead] using ih

/-- The first live places are served, and the others stay. -/
theorem purge_serve (n : Nat) (queue : List Waiter) :
    purge queue = (serve n queue).1 ++ purge (serve n queue).2.2 := by
  induction n, queue using serve.induct with
  | case1 queue => simp [serve]
  | case2 n => simp [serve]
  | case3 n w queue hlive served left rest _ ih =>
    have hpurge : purge (w :: queue) = w :: purge queue := List.filter_cons_of_pos hlive
    rw [hpurge, ih]
    simp [serve, hlive]
  | case4 n w queue hdead ih =>
    have hpurge : purge (w :: queue) = purge queue := List.filter_cons_of_neg hdead
    rw [hpurge, ih]
    simp [serve, hdead]

/-- The first who wait are served, and the others wait on. -/
theorem waiting_serve (n : Nat) (queue : List Waiter) :
    waiting queue = (serve n queue).1.map (·.ticket) ++ waiting (serve n queue).2.2 := by
  have hmap : waiting queue = (purge queue).map (·.ticket) := rfl
  rw [hmap, purge_serve n queue, List.map_append]
  rfl

/-- Those who are served are the first live places. -/
theorem served_eq (n : Nat) (queue : List Waiter) :
    (serve n queue).1 = (purge queue).take n := by
  induction n, queue using serve.induct with
  | case1 queue => simp [serve]
  | case2 n => simp [serve, purge]
  | case3 n w queue hlive served left rest hserve ih =>
    have hpurge : purge (w :: queue) = w :: purge queue := List.filter_cons_of_pos hlive
    rw [hpurge, List.take_succ_cons, ← ih]
    simp [serve, hlive]
  | case4 n w queue hdead ih =>
    have hpurge : purge (w :: queue) = purge queue := List.filter_cons_of_neg hdead
    rw [hpurge, ← ih]
    simp [serve, hdead]

/-- Nobody is left in line, dead or alive, while something is left to hand out. -/
theorem rest_eq_nil_of_left {n : Nat} {queue : List Waiter} (h : 0 < (serve n queue).2.1) :
    (serve n queue).2.2 = [] := by
  induction n, queue using serve.induct with
  | case1 queue => simp [serve] at h
  | case2 n => simp [serve]
  | case3 n w queue hlive served left rest hserve ih =>
    simp only [serve, hlive, if_true] at h ⊢
    exact ih h
  | case4 n w queue hdead ih =>
    rw [Bool.not_eq_true] at hdead
    simp only [serve, hdead] at h ⊢
    exact ih h

end Queue

namespace Visits

variable {α β : Type} {ticket? : α → Option β} {visits before after : List α} {v v' : α}
  {ticket : β} {n : Nat}

/-- The visits before and after the one with a number, and how they stand around whatever it
becomes. -/
theorem exists_around (h : visits[n]? = some v) :
    ∃ before after, visits = before ++ v :: after ∧
      ∀ v', visits.set n v' = before ++ v' :: after := by
  obtain ⟨hn, hv⟩ := List.getElem?_eq_some_iff.mp h
  refine ⟨visits.take n, visits.drop (n + 1), ?_, fun v' => ?_⟩
  · rw [← hv, ← List.drop_eq_getElem_cons hn, List.take_append_drop]
  · rw [List.set_eq_take_append_cons_drop, if_pos hn]

/-- The visits around one that has a ticket do not have it. -/
theorem ticket_ne_around (h : ((before ++ v :: after).filterMap ticket?).Nodup)
    (hv : ticket? v = some ticket) : ∀ x ∈ before ++ after, ticket? x ≠ some ticket := by
  rw [List.filterMap_append, List.filterMap_cons_some hv, List.nodup_middle] at h
  intro x hx hxt
  exact (List.nodup_cons.mp h).1
    (List.filterMap_append ▸ List.mem_filterMap.mpr ⟨x, hx, hxt⟩)

/-- A visit keeps its ticket or gives it up, and no ticket is used twice. -/
theorem nodup_replace (h : ((before ++ v :: after).filterMap ticket?).Nodup)
    (hv : ticket? v' = none ∨ ticket? v' = ticket? v) :
    ((before ++ v' :: after).filterMap ticket?).Nodup := by
  rcases hv with hv | hv
  · rw [List.filterMap_append, List.filterMap_cons_none hv, ← List.filterMap_append]
    exact h.sublist (((List.sublist_cons_self v after).append_left before).filterMap _)
  · rw [List.filterMap_append] at h ⊢
    rwa [List.filterMap_cons, hv, ← List.filterMap_cons]

end Visits

end Resilience
