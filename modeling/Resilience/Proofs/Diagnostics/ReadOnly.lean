import Resilience.Proofs.Diagnostics.Listing
import Resilience.Proofs.Session.Settling

/-!
# What the diagnostics answer, and that they change nothing

The pages about breakers are `Complete`: the list has each breaker once and in order, the page of a
single one shows what the list shows of it, field by field, and a name that is not in the list is
answered with 404.

A `Script` is a list of commands into which requests to the diagnostics have been put, between the
commands and inside of batches. It can be carried out in full, or plain, without these requests.
A request leaves the session as it is. So within one batch the requests make no difference, and
between two steps they make none either: a session that has settled has nothing left to do when a
request makes it settle once more (`Session.Reachable.rested_step`).
-/

namespace Resilience

/-- Commands, and requests that were put in among them. -/
inductive Script where
  | nil
  | command (command : Command) (rest : Script)
  | batch (inner rest : Script)
  | visit (cache : String) (request : Diagnostics.Request) (rest : Script)

/-- What a step tells: the reply, and what happened meanwhile. -/
abbrev Tiding := Reply × List (Instant × Entry)

namespace Script

/-- The commands with the requests among them. -/
def full : Script → List Command
  | nil => []
  | command c rest => c :: rest.full
  | batch inner rest => .batch inner.full :: rest.full
  | visit cache request rest => .request cache request :: rest.full

/-- The commands without these requests. -/
def plain : Script → List Command
  | nil => []
  | command c rest => c :: rest.plain
  | batch inner rest => .batch inner.plain :: rest.plain
  | visit _ _ rest => rest.plain

/-- The replies to the commands, without those to the requests. -/
def replies : Script → List Reply → List Reply
  | command _ rest, reply :: more => reply :: rest.replies more
  | batch inner rest, .batch inside :: more => .batch (inner.replies inside) :: rest.replies more
  | visit _ _ rest, _ :: more => rest.replies more
  | _, _ => []

/-- What the steps of the commands tell, without those of the requests. -/
def tidings : Script → List Tiding → List Tiding
  | command _ rest, told :: more => told :: rest.tidings more
  | batch inner rest, (.batch inside, log) :: more =>
    (.batch (inner.replies inside), log) :: rest.tidings more
  | visit _ _ rest, _ :: more => rest.tidings more
  | _, _ => []

end Script

namespace Session

variable {s : Session} {calendar : Diagnostics.Calendar}

/-- A request leaves the session as it is. -/
theorem perform_request (calendar : Diagnostics.Calendar) (cache : String)
    (request : Diagnostics.Request) (s : Session) :
    (s.perform calendar (.request cache request)).2 = s := by
  simp only [perform, withName]
  split <;> rfl

theorem performAll_cons (calendar : Diagnostics.Calendar) (command : Command)
    (rest : List Command) (s : Session) : s.performAll calendar (command :: rest) =
      ((s.perform calendar command).1 ::
          ((s.perform calendar command).2.performAll calendar rest).1,
        ((s.perform calendar command).2.performAll calendar rest).2) := rfl

/-- **Requests within a batch make no difference**: the other replies are the same, and so is the
session afterwards. -/
theorem performAll_full (calendar : Diagnostics.Calendar) (script : Script) (s : Session) :
    (s.performAll calendar script.full).2 = (s.performAll calendar script.plain).2 ∧
      script.replies (s.performAll calendar script.full).1 =
        (s.performAll calendar script.plain).1 := by
  induction script generalizing s with
  | nil => exact ⟨rfl, rfl⟩
  | command c rest ih =>
    obtain ⟨hsession, hreplies⟩ := ih (s.perform calendar c).2
    exact ⟨hsession, congrArg (_ :: ·) hreplies⟩
  | batch inner rest ihInner ih =>
    obtain ⟨hinner, hinside⟩ := ihInner s
    obtain ⟨hsession, hreplies⟩ := ih (s.performAll calendar inner.full).2
    simp only [Script.full, Script.plain, performAll_cons, perform, Script.replies]
    rw [hreplies, hinside, hsession, hinner]
    exact ⟨rfl, rfl⟩
  | visit cache request rest ih =>
    simp only [Script.full, Script.plain, performAll_cons, perform_request, Script.replies]
    exact ih s

/-! ### Between two steps -/

/-- Steps one after the other: what they tell, and the session afterwards. -/
def steps (calendar : Diagnostics.Calendar) : List Command → Session → List Tiding × Session
  | [], s => ([], s)
  | command :: rest, s =>
    let (reply, log, s) := s.step calendar command
    let (told, s) := steps calendar rest s
    ((reply, log) :: told, s)

theorem steps_cons (calendar : Diagnostics.Calendar) (command : Command) (rest : List Command)
    (s : Session) : s.steps calendar (command :: rest) =
      (((s.step calendar command).1, (s.step calendar command).2.1) ::
          ((s.step calendar command).2.2.steps calendar rest).1,
        ((s.step calendar command).2.2.steps calendar rest).2) := rfl

/-- A session between two steps: nobody is ready, and all that happened was told. -/
structure Rested (s : Session) : Prop where
  ready : s.world.ready = []
  log : s.world.log = []

theorem rested_create (settings : Settings) (recording : Bool) :
    (create settings recording).Rested := ⟨rfl, rfl⟩

/-- **Every step leads to rest.** -/
theorem Reachable.rested_step (h : s.Reachable) (calendar : Diagnostics.Calendar)
    (command : Command) : (s.step calendar command).2.2.Rested :=
  ⟨(h.perform calendar command).settle_ready, rfl⟩

/-- A request is answered at once, and there is nothing to tell. -/
theorem Rested.step_request (h : s.Rested) (cache : String) (request : Diagnostics.Request) :
    (s.step calendar (.request cache request)).2.2 = s := by
  have hsettle : s.settle = s := turns_of_idle h.ready _
  have hlog : { s with world := { s.world with log := [] } } = s := by rw [← h.log]
  simp only [step, perform_request, hsettle, hlog]

/-- **Requests between steps make no difference**: the steps tell the same, and the session
afterwards is the same. -/
theorem Rested.steps_full (h : s.Rested) (hreach : s.Reachable) (script : Script) :
    (s.steps calendar script.full).2 = (s.steps calendar script.plain).2 ∧
      script.tidings (s.steps calendar script.full).1 = (s.steps calendar script.plain).1 := by
  induction script generalizing s with
  | nil => exact ⟨rfl, rfl⟩
  | command c rest ih =>
    obtain ⟨hsession, htold⟩ := ih (hreach.rested_step calendar c) (hreach.step calendar c)
    exact ⟨hsession, congrArg (_ :: ·) htold⟩
  | batch inner rest _ ih =>
    obtain ⟨hinner, hinside⟩ := performAll_full calendar inner s
    obtain ⟨hsession, htold⟩ := ih (hreach.rested_step calendar (.batch inner.full))
      (hreach.step calendar (.batch inner.full))
    have hstep : (s.step calendar (.batch inner.full)).2 =
        (s.step calendar (.batch inner.plain)).2 := by
      simp only [step, perform, hinner]
    have hreply : (s.step calendar (.batch inner.full)).1 =
        .batch (s.performAll calendar inner.full).1 := rfl
    simp only [Script.full, Script.plain, steps_cons, hreply, Script.tidings]
    rw [htold, hsession, hinside, hstep]
    exact ⟨rfl, rfl⟩
  | visit cache request rest ih =>
    obtain ⟨hsession, htold⟩ := ih h hreach
    simp only [Script.full, Script.plain, steps_cons, h.step_request, Script.tidings]
    exact ⟨hsession, htold⟩

end Session

namespace Diagnostics

/-- **The pages about breakers are complete and agree.** The page of all breakers lists each breaker
of the world once, strictly increasing by name, with their number. The page of a single breaker is
there exactly if the list has one of that name, and then shows the same; otherwise the answer is 404
and names the breaker. -/
structure Complete (calendar : Calendar) (w : World) (view : View) : Prop where
  listing {target : String} : Route.ofPath (pathOf target) = .breakers →
    let answer := respond calendar view ⟨"GET", target⟩
    answer.status = 200 ∧ answer.content = .document (.object
      [("breakers", .array (w.statuses.map (statusJson calendar))),
        ("count", .integer w.statuses.length)])
  increasing : w.statuses.Pairwise fun a b => a.name < b.name
  listed (name : String) :
    (∃ status ∈ w.statuses, status.name = name) ↔ w.breakers.has name = true
  /-- The fields of a document about a breaker: its name and its state, how many failures and
  successes it has counted, and when a failure was last recorded. -/
  shown {status : Breaker.Status} : status ∈ w.statuses →
    ∃ c, w.breakers.get? status.name = some c ∧ statusJson calendar status = .object
      [("failure_count", .integer c.state.failureCount),
        ("last_failure_at", match c.state.lastFailure with
          | some failedAt => .string (calendar.ofFailure failedAt)
          | none => .null),
        ("name", .string status.name),
        ("state", .string (match c.state.phase with
          | .closed => "CLOSED"
          | .opened => "OPEN"
          | .halfOpen => "HALF_OPEN")),
        ("success_count", .integer c.state.successCount)]
  page {target : String} {segment : List Char} {name : String} :
    Route.ofPath (pathOf target) = .breaker segment → segmentText? segment = some name →
      let answer := respond calendar view ⟨"GET", target⟩
      ((∃ status ∈ w.statuses, status.name = name) ↔ answer.status = 200) ∧
      (∀ status ∈ w.statuses, status.name = name →
        answer.content = .document (statusJson calendar status)) ∧
      ((∀ status ∈ w.statuses, status.name ≠ name) → answer.status = 404 ∧
        answer.content = .document (.object
          [("error", .string ("circuit breaker '" ++ name ++ "'"))]))

/-- **Requests only read.** Those that are put in among the commands of a batch or between steps, of
whatever kind and in whatever number, change neither what any other command is answered, nor what
happens meanwhile, nor the session afterwards. -/
structure OnlyRead (calendar : Calendar) (s : Session) : Prop where
  batch (script : Script) :
    (s.performAll calendar script.full).2 = (s.performAll calendar script.plain).2 ∧
      script.replies (s.performAll calendar script.full).1 =
        (s.performAll calendar script.plain).1
  steps : s.Rested → ∀ script : Script,
    (s.steps calendar script.full).2 = (s.steps calendar script.plain).2 ∧
      script.tidings (s.steps calendar script.full).1 = (s.steps calendar script.plain).1

/-- What is shown of the breakers of a world that has each under its own name. -/
theorem complete {calendar : Calendar} {w : World} (hdirectory : w.Directory) {view : View}
    (hbreakers : view.breakers = w.statuses) (hview : ∀ name, view.status? name = w.status? name) :
    Complete calendar w view := by
  have hfound := World.exists_mem_statuses_iff hdirectory
  refine ⟨fun hroute => ?_, World.statuses_increasing hdirectory, fun name => ?_,
    fun {status} hmem => ?_, fun {target segment name} hroute hname => ?_⟩
  · rw [respond_breakers hroute, hbreakers]
    exact ⟨rfl, rfl⟩
  · rw [hfound, World.status?, Option.isSome_map]
    rfl
  · have hstatus := (World.mem_statuses_iff hdirectory).mp hmem
    obtain ⟨c, hc, heq⟩ := Option.map_eq_some_iff.mp hstatus
    refine ⟨c, hc, ?_⟩
    rw [← heq, Breaker.status, statusJson]
    cases c.state.phase <;> rfl
  · rw [respond_breaker hroute hname]
    -- The single page looks the name up, and the list has what is found there.
    cases hstatus : w.status? name with
    | some status =>
      have hpage : view.breakerPage name = .breaker status := by
        simp only [View.breakerPage, hview, hstatus]
      have hthere := (hfound name).mpr (hstatus ▸ rfl)
      rw [hpage]
      refine ⟨iff_of_true hthere rfl, fun other hmem heq => ?_, fun hnone => ?_⟩
      · subst heq
        have hother := (World.mem_statuses_iff hdirectory).mp hmem
        rw [hstatus] at hother
        cases hother
        rfl
      · obtain ⟨other, hmem, heq⟩ := hthere
        exact absurd heq (hnone other hmem)
    | none =>
      have hpage : view.breakerPage name = .unknownBreaker name := by
        simp only [View.breakerPage, hview, hstatus]
      have hnot : ¬ ∃ status ∈ w.statuses, status.name = name := by
        rw [hfound, hstatus]
        exact Bool.false_ne_true
      rw [hpage]
      refine ⟨iff_of_false hnot (by simp [Response.ofVisit, Page.status]),
        fun other hmem heq => ?_, fun _ => ⟨rfl, rfl⟩⟩
      exact absurd ⟨other, hmem, heq⟩ hnot

theorem onlyRead (calendar : Calendar) {s : Session} (hs : s.Reachable) :
    OnlyRead calendar s where
  batch script := Session.performAll_full calendar script s
  steps hrest script := hrest.steps_full hs script

/-- **The diagnostics are complete and consistent, and only read**, in every session that can be
reached, whichever cache they are asked about. -/
theorem complete_and_readOnly (calendar : Calendar) {s : Session} (hs : s.Reachable) :
    (∀ cache, Complete calendar s.world (s.view cache)) ∧ OnlyRead calendar s :=
  ⟨fun _ => complete hs.valid_scene.2.directory rfl fun _ => rfl, onlyRead calendar hs⟩

/-! ### Two breakers -/

/-- Two breakers are created, and a call trips one of them. -/
def trippingOne : Command :=
  .batch [.breaker "b" (some ⟨1, .ofSecs 60⟩), .breaker "a" none,
    .define "op" [⟨none, .fail (.failed "no")⟩] [.breaker "b"], .call "op" "c" .null]

/-- The session after that. -/
def twoBreakers : Session :=
  ((Session.create {} true).step ⟨toString, toString⟩ trippingOne).2.2

theorem twoBreakers_reachable : twoBreakers.Reachable := (Session.Reachable.create {} true).step ..

theorem breakers_twoBreakers :
    (twoBreakers.world.breakers.get? "b").map (·.state) = some ⟨.opened, 1, 0, some 0, false⟩ ∧
      twoBreakers.world.breakers.has "c" = false := by
  decide +kernel

/-- A page is asked for before and after a breaker is reset, once in a batch. -/
def asking : Script :=
  .visit "main" { target := "/breakers" } (.command (.reset "b")
    (.batch (.visit "main" { target := "/breakers/c" } (.command (.status "b") .nil)) .nil))

theorem complete_and_readOnly_two :
    let get := fun target =>
      respond ⟨toString, toString⟩ (twoBreakers.view 0) ⟨"GET", target⟩
    twoBreakers.Reachable ∧ twoBreakers.Rested ∧
      (∃ status ∈ twoBreakers.world.statuses, status.name = "b") ∧
      ((get "/breakers/b").status = 200 ∧
        (get "/breakers/b").content = .document (.object
          [("failure_count", .integer 1), ("last_failure_at", .string "0"), ("name", .string "b"),
            ("state", .string "OPEN"), ("success_count", .integer 0)])) ∧
      ((get "/breakers/c").status = 404 ∧ (get "/breakers/c").content = .document (.object
        [("error", .string "circuit breaker 'c'")])) ∧
      (twoBreakers.steps ⟨toString, toString⟩ asking.full).2 =
        (twoBreakers.steps ⟨toString, toString⟩ asking.plain).2 := by
  have hrest : twoBreakers.Rested :=
    (Session.Reachable.create {} true).rested_step ⟨toString, toString⟩ trippingOne
  obtain ⟨hcomplete, hread⟩ := complete_and_readOnly ⟨toString, toString⟩ twoBreakers_reachable
  obtain ⟨-, -, hlisted, hshown, hpage⟩ := hcomplete 0
  obtain ⟨htripped, hmissing⟩ := breakers_twoBreakers
  obtain ⟨c, hc, hstate⟩ := Option.map_eq_some_iff.mp htripped
  have hthere : ∃ status ∈ twoBreakers.world.statuses, status.name = "b" :=
    (hlisted "b").mpr (by rw [Table.has, hc]; rfl)
  have hnone : ¬ ∃ status ∈ twoBreakers.world.statuses, status.name = "c" := fun hsome =>
    absurd ((hlisted "c").mp hsome) (by simp [hmissing])
  refine ⟨twoBreakers_reachable, hrest, hthere, ?_, ?_, (hread.steps hrest asking).1⟩
  · obtain ⟨hstatus, hcontent, -⟩ :=
      hpage (by decide : Route.ofPath (pathOf "/breakers/b") = .breaker ['b'])
        (by decide +kernel : segmentText? ['b'] = some "b")
    obtain ⟨status, hmem, hname⟩ := hthere
    obtain ⟨c', hc', hfields⟩ := hshown hmem
    obtain rfl : c = c' := Option.some.inj (hc.symm.trans (hname ▸ hc'))
    refine ⟨hstatus.mp ⟨status, hmem, hname⟩, (hcontent status hmem hname).trans ?_⟩
    rw [hfields, hname, hstate]
    rfl
  · obtain ⟨-, -, hgone⟩ :=
      hpage (by decide : Route.ofPath (pathOf "/breakers/c") = .breaker ['c'])
        (by decide +kernel : segmentText? ['c'] = some "c")
    exact hgone fun status hmem heq => hnone ⟨status, hmem, heq⟩

end Diagnostics

end Resilience
