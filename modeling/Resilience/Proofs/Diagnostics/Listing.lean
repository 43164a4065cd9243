import Mathlib.Data.String.Basic
import Resilience.Proofs.Directory
import Resilience.Proofs.Session.Commands

/-!
# What the diagnostics show of breakers

The page of all breakers and the pages of single breakers are made separately: the one goes through
the table of breakers and sorts what it finds by the names that the breakers bear, the other looks a
name up. They agree since every breaker is entered once and under its own name
(`World.Directory`): the list is strictly increasing (`World.statuses_increasing`), and it has a
status of some name exactly if the look-up finds it (`World.mem_statuses_iff`).
-/

namespace Resilience

namespace World

variable {w : World}

/-- The list of all breakers, in the order of the table. -/
private theorem statuses_perm (w : World) :
    w.statuses.Perm (w.breakers.map fun (name, c) => c.state.status name) :=
  List.mergeSort_perm _ _

/-- Each entry of the list is what the look-up of its name finds, and nothing is left out. -/
theorem mem_statuses_iff (h : w.Directory) {status : Breaker.Status} :
    status ∈ w.statuses ↔ w.status? status.name = some status := by
  rw [(statuses_perm w).mem_iff, List.mem_map, status?, Option.map_eq_some_iff]
  constructor
  · rintro ⟨⟨name, c⟩, hc, rfl⟩
    exact ⟨c, (Table.get?_eq_some_iff h.breakers).mpr hc, rfl⟩
  · rintro ⟨c, hc, heq⟩
    exact ⟨(status.name, c), (Table.get?_eq_some_iff h.breakers).mp hc, heq⟩

/-- A status says whose it is. -/
theorem name_of_status? {name : String} {status : Breaker.Status}
    (h : w.status? name = some status) : status.name = name := by
  obtain ⟨c, -, rfl⟩ := Option.map_eq_some_iff.mp h
  rfl

/-- **A breaker is in the list if and only if it is found by its name.** -/
theorem exists_mem_statuses_iff (h : w.Directory) (name : String) :
    (∃ status ∈ w.statuses, status.name = name) ↔ (w.status? name).isSome := by
  rw [Option.isSome_iff_exists]
  constructor
  · rintro ⟨status, hmem, rfl⟩
    exact ⟨status, (mem_statuses_iff h).mp hmem⟩
  · rintro ⟨status, hstatus⟩
    obtain rfl := name_of_status? hstatus
    exact ⟨status, (mem_statuses_iff h).mpr hstatus, rfl⟩

/-- The names in the list are those of the table, each once. -/
theorem nodup_names_statuses (h : w.Directory) : (w.statuses.map (·.name)).Nodup := by
  have hnames : (w.breakers.map fun (name, c) => c.state.status name).map (·.name) =
      w.breakers.keys := by
    rw [List.map_map]
    rfl
  rw [((statuses_perm w).map (·.name)).nodup_iff, hnames]
  exact h.breakers

/-- **The list is strictly increasing by name.** -/
theorem statuses_increasing (h : w.Directory) :
    w.statuses.Pairwise fun a b => a.name < b.name := by
  have hsorted : w.statuses.Pairwise fun a b => a.name ≤ b.name := by
    have hle : w.statuses.Pairwise fun a b => decide (a.name ≤ b.name) = true :=
      List.pairwise_mergeSort
        (fun a b c hab hbc => by
          rw [decide_eq_true_eq] at *
          exact le_trans hab hbc)
        (fun a b => by
          rw [Bool.or_eq_true, decide_eq_true_eq, decide_eq_true_eq]
          exact le_total a.name b.name)
        (w.breakers.map fun (name, c) => c.state.status name)
    exact hle.imp fun hab => of_decide_eq_true hab
  have hdistinct := List.pairwise_map.mp (nodup_names_statuses h)
  exact (hsorted.and hdistinct).imp fun hboth => lt_of_le_of_ne hboth.1 hboth.2

end World

namespace Diagnostics

variable {calendar : Calendar} {view : View} {target : String}

/-- A page that is read. -/
theorem respond_get {page : Page}
    (h : view.visit (Route.ofPath (pathOf target)) = some (.ok page)) :
    respond calendar view ⟨"GET", target⟩ = Response.ofVisit calendar (.ok page) := by
  unfold respond
  dsimp only
  rw [h]
  rfl

/-- The page of all breakers. -/
theorem respond_breakers (h : Route.ofPath (pathOf target) = .breakers) :
    respond calendar view ⟨"GET", target⟩ =
      Response.ofVisit calendar (.ok (.breakers view.breakers)) :=
  respond_get (by rw [h]; rfl)

/-- The page of one breaker. -/
theorem respond_breaker {segment : List Char} {name : String}
    (h : Route.ofPath (pathOf target) = .breaker segment)
    (hname : segmentText? segment = some name) :
    respond calendar view ⟨"GET", target⟩ =
      Response.ofVisit calendar (.ok (view.breakerPage name)) :=
  respond_get (by rw [h]; simp only [View.visit, hname])

end Diagnostics

end Resilience
