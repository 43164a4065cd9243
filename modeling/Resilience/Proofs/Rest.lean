import Resilience.Proofs.Breaker.Flag
import Resilience.Proofs.Bucket.Scene
import Resilience.Proofs.Limiter.Conservation

/-!
# Nothing leaks

Cleaning up is spread over the layers: each gives back its own hold when its inner call settles,
panics, runs out of time or is taken apart. That no layer forgets it is the law of `Leads`: a call
leaves behind what it still holds, and one that is over holds nothing. What is left to show is
that components keep nothing that nobody holds. So once no call is left and no slot is kept, they
are **at rest** (`World.AtRest`): no slot is in use, nobody is in line, and no breaker waits for a
probe.
-/

namespace Resilience

/-- Nothing of a component is in use, nobody is in line, and no probe is awaited. -/
structure World.AtRest (w : World) : Prop where
  limiters {id : ComponentId} {c : Component Limiter.Config Limiter} :
    w.limiters.get? id = some c →
      c.state.active = 0 ∧ c.state.queue = [] ∧ c.state.granted = []
  buckets {id : ComponentId} {c : Component Bucket.Config Bucket} :
    w.buckets.get? id = some c → Queue.waiting c.state.queue = [] ∧ c.state.granted = []
  breakers {name : String} {c : Component Breaker.Config Breaker} :
    w.breakers.get? name = some c → c.state.probing = false

/-- Whether a task is work in the background, which calls nothing. -/
def Job.background : Job → Bool
  | refill .. => true
  | sweep .. => true
  | _ => false

/-- No call goes on, nobody wishes for a slot or a token, and no slot is kept. -/
structure Session.Deserted (s : Session) : Prop where
  tasks : ∀ task ∈ s.tasks.values, task.job.background = true
  permits : s.permits = []

/-! ### Components without holds -/

/-- A limiter of which nobody has anything has no slot in use. Since it keeps no slot back, there
is no line either, dead places included. -/
theorem Limiter.rest {sc : Scene} (h : sc.Reachable) (hnothing : sc.holds = 0) {id : ComponentId}
    {c : Component Config Limiter} (hc : sc.world.limiters.get? id = some c) :
    c.state.active = 0 ∧ c.state.queue = [] ∧ c.state.granted = [] := by
  obtain ⟨moves, hshows⟩ := exists_history h hc
  have hsound := History.sound_run c.config moves
  obtain ⟨hactive, -, -, hplaces⟩ := hshows.conserved hsound
  rw [hnothing] at hactive hplaces
  have hgranted : c.state.granted = [] :=
    List.eq_nil_iff_forall_not_mem.mpr fun ticket ht => by simpa using hplaces ticket ht
  have hfree : c.state.active = 0 := by simpa [hgranted] using hactive
  refine ⟨hfree, ?_, hgranted⟩
  -- A line would mean that every slot is in use, and there is at least one.
  by_contra hline
  have hfull := hsound.busy (hshows.state.symm ▸ hline)
  have hslots : 0 < c.config.slots := Nat.lt_of_lt_of_le Nat.one_pos (Nat.le_max_right ..)
  rw [hshows.state] at hfull
  omega

/-- Nobody is in line at a bucket, or has a token there, who does not hold a place. -/
theorem Bucket.rest {sc : Scene} (h : sc.Reachable) (hnothing : sc.holds = 0) {id : ComponentId}
    {c : Component Config Bucket} (hc : sc.world.buckets.get? id = some c) :
    Queue.waiting c.state.queue = [] ∧ c.state.granted = [] := by
  obtain ⟨created, moves, hshows⟩ := exists_history h hc
  have hplaces := hshows.places
  rw [hnothing] at hplaces
  refine List.append_eq_nil_iff.mp (List.eq_nil_iff_forall_not_mem.mpr fun ticket ht => ?_)
  exact absurd (List.count_pos_iff.mpr ht) (Nat.not_lt.mpr (hplaces ticket))

/-- A breaker whose admissions are all given back awaits no probe. -/
theorem Breaker.rest {sc : Scene} (h : sc.Reachable) (hnothing : sc.holds = 0) {name : String}
    {c : Component Config Breaker} (hc : sc.world.breakers.get? name = some c) :
    c.state.probing = false := by
  by_contra hup
  have hheld := (admission_of_probing h hc (Bool.eq_true_of_not_eq_false hup)).2
  rw [hnothing] at hheld
  exact Multiset.notMem_zero _ hheld

/-- **Components keep nothing that nobody holds.** -/
theorem Scene.Reachable.atRest {sc : Scene} (h : sc.Reachable) (hnothing : sc.holds = 0) :
    sc.world.AtRest :=
  ⟨Limiter.rest h hnothing, Bucket.rest h hnothing, Breaker.rest h hnothing⟩

/-! ### Sessions without calls -/

/-- Work in the background holds nothing. -/
theorem Job.holds_of_background {job : Job} (h : job.background = true) : job.holds = 0 := by
  cases job with
  | refill bucket timer? => rfl
  | sweep cache timer? => rfl
  | call | acquire | take => cases h

theorem Session.Deserted.holds_eq_zero {s : Session} (h : s.Deserted) : s.holds = 0 := by
  have htasks : tasksHold s.tasks = 0 := by
    refine List.sum_eq_zero fun H hH => ?_
    obtain ⟨p, hp, rfl⟩ := List.mem_map.mp hH
    exact Job.holds_of_background (h.tasks p.2 (List.mem_map_of_mem hp))
  rw [holds, htasks, h.permits]
  rfl

/-- **Nothing leaks.** Whatever layers an operation has, starting and resuming a call of it are
acts that leave behind what the call then holds, which is nothing when it has settled or panicked,
and taking it apart gives back all that it holds. In every scene in which nothing is held, between
any two acts of whatever went on, the components are at rest; and so they are in every session in
which no call goes on and no slot is kept, however the calls before came to their end. -/
theorem nothing_leaks :
    (∀ (op : Operation) (task : TaskId) (arg : Json) (w : World), op.Fits w →
      Leads w 0 (op.start task arg w)) ∧
    (∀ (c : Call) (task : TaskId) (w : World), c.Fits w →
      Leads w c.holds (c.resume task w) ∧
        ∀ H, Steps ⟨w, c.holds + H⟩ ⟨c.abandon w, H⟩) ∧
    (∀ sc : Scene, sc.Reachable → sc.holds = 0 → sc.world.AtRest) ∧
    (∀ s : Session, s.Reachable → s.Deserted → s.world.AtRest) := by
  refine ⟨fun op task arg w hop => op.start_leads task arg hop, fun c task w hc => ?_,
    fun sc hsc hnothing => hsc.atRest hnothing, fun s hs hdeserted => ?_⟩
  · exact ⟨c.resume_leads task hc, fun H => c.abandon_steps w H⟩
  · obtain ⟨-, hscene⟩ := hs.valid_scene
    exact hscene.atRest hdeserted.holds_eq_zero

namespace Session

/-- What happens in a session before a call trips the breaker of an operation with three layers. -/
def layering : List Command :=
  [.breaker "b" (some ⟨1, .ofMillis 10⟩), .limiter "l" (some ⟨1, 1⟩) .own,
    .bucket "t" (some ⟨1, .ofMillis 5⟩) .own,
    .define "op" [⟨none, .fail (.failed "out of order")⟩, ⟨some (.ofMillis 50), .echo⟩]
      [.breaker "b", .limit "l", .rate "t"],
    .call "op" "first" .null]

/-- The session after that call, at a later time and with three more calls and a wish for a
slot. -/
def layered : Session :=
  let s := ((create {} false).performAll ⟨toString, toString⟩ layering).2.turn 4
  ({ s with world := s.world.pass 10 }.performAll ⟨toString, toString⟩
    [.call "op" "second" .null, .call "op" "third" .null, .call "op" "fourth" .null,
      .acquire "l" "slot"]).2

/-- Then the second call is the probe and has the slot, the third waits for a token, somebody
waits for the slot, and the fourth call has not begun. -/
def crowded : Session := ((layered.turn 5).turn 6).turn 8

/-- All of them are cancelled. -/
def emptied : Session :=
  ((((crowded.performAll ⟨toString, toString⟩
    [.cancel "second", .cancel "third", .cancel "fourth", .cancel "slot"]).2.turn 5).turn 6).turn
      7).turn 8

theorem crowded_reachable : crowded.Reachable := by
  have hfirst := ((Reachable.create {} false).performAll ⟨toString, toString⟩ layering).happens
    (.turn 4)
  have hlayered := (hfirst.happens (.pass 10)).performAll ⟨toString, toString⟩
    [.call "op" "second" .null, .call "op" "third" .null, .call "op" "fourth" .null,
      .acquire "l" "slot"]
  exact ((hlayered.happens (.turn 5)).happens (.turn 6)).happens (.turn 8)

theorem emptied_reachable : emptied.Reachable := by
  have hcancelled := crowded_reachable.performAll ⟨toString, toString⟩
    [.cancel "second", .cancel "third", .cancel "fourth", .cancel "slot"]
  exact (((hcancelled.happens (.turn 5)).happens (.turn 6)).happens (.turn 7)).happens (.turn 8)

theorem nothing_leaks_emptied :
    (∃ op, crowded.operations.get? "op" = some op ∧ op.Fits crowded.world ∧
      Leads crowded.world 0 (op.start 9 .null crowded.world) ∧
      Leads crowded.world {.tokenPlace 1 10}
        ((Call.awaitingToken 1 10 op .null).resume 6 crowded.world)) ∧
    ((crowded.world.breakers.get? "b").map (·.state.probing) = some true ∧
      (crowded.world.limiters.get? 0).map (fun c => (c.state.active, c.state.queue)) =
        some (1, [⟨11, 8, true⟩]) ∧
      (crowded.world.buckets.get? 1).map (·.state.queue) = some [⟨10, 6, true⟩]) ∧
    (emptied.world.breakers.has "b" = true ∧ emptied.world.limiters.has 0 = true ∧
      emptied.world.buckets.has 1 = true) ∧
    emptied.Deserted ∧ emptied.scene.holds = 0 ∧ emptied.world.AtRest := by
  obtain ⟨hstart, hgoOn, -, hsession⟩ := nothing_leaks
  have hthere : crowded.operations.has "op" = true := by decide +kernel
  obtain ⟨op, hop⟩ := Option.isSome_iff_exists.mp hthere
  obtain ⟨hvalid, -⟩ := crowded_reachable.valid_scene
  have hfits := hvalid.operations_fit hop
  have hdeserted : emptied.Deserted := ⟨by decide +kernel, by decide +kernel⟩
  have hnothing := hdeserted.holds_eq_zero
  refine ⟨⟨op, hop, hfits, hstart op 9 .null _ hfits, ?_⟩, by decide +kernel, by decide +kernel,
    hdeserted, hnothing, hsession emptied emptied_reachable hdeserted⟩
  exact (hgoOn (.awaitingToken 1 10 op .null) 6 _ hfits).1

end Session

end Resilience
