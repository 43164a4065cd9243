import Resilience.Proofs.Session.Tasks

/-!
# Shutting down

A bucket is closed by itself or with all others of the registry. From then on nothing in it changes
except that callers which were handed a token before take it up or lose it: no refill does anything,
closing it again does nothing, and whoever comes is refused on the spot, without a place in line and
before the operation behind the bucket begins (`World.Shut`).

Those in line are not left to themselves. They are woken by the closing, and as nobody loses a turn
in an orderly session, each has one; there it learns that the bucket is closed, which is the end of
its wait. Whoever was handed a token before has its turn as well, and goes on with the token.
-/

namespace Resilience

/-- What a world answers about a closed bucket, given the tickets of those who were handed a token
before and have not run since. Refills and being closed again do nothing, whoever comes is refused
and leaves no trace, and whoever is in line gets the token that it was handed or learns that the
bucket is closed. -/
structure World.Shut (id : ComponentId) (name : String) (tickets : List Ticket) (w : World) :
    Prop where
  refill : w.refillBucket id = (0, w)
  shutDown : w.shutDownBucket id = w
  ask (caller : TaskId) : w.askToken id caller = (.error (.closed name), w)
  start (op : Operation) (task : TaskId) (arg : Json) :
    (Operation.rateLimited op id).start task arg w =
      (.ready (.error (.rejected (.closed name))), w)
  granted {ticket : Ticket} : ticket ∈ tickets → ∃ w', w.pickUpToken id ticket = .granted w' ∧
    ∀ (call : Call) (task : TaskId), call.seat? = some (id, ticket) →
      ∃ op arg, call.innermost = .awaitingToken id ticket op arg ∧
        call.resume task w = call.around task (op.start task arg w')
  refused {ticket : Ticket} : ticket ∉ tickets →
    w.pickUpToken id ticket = .refused (.closed name) ∧
      ∀ (call : Call) (task : TaskId), call.seat? = some (id, ticket) →
        call.resume task w = call.around task (.ready (.error (.rejected (.closed name))), w)

theorem World.shut_of_closed {w : World} {id : ComponentId} {c : Component Bucket.Config Bucket}
    (hc : w.buckets.get? id = some c) (hclosed : c.state.closed = true)
    (hqueue : c.state.queue = []) : w.Shut id c.name c.state.granted where
  refill := refillBucket_of_closed hc hclosed
  shutDown := shutDownBucket_of_closed hc hclosed hqueue
  ask := askToken_of_closed hc hclosed
  start op task arg := by simp only [Operation.start, askToken_of_closed hc hclosed task]
  granted hgranted :=
    have hpick := pickUpToken_of_granted hc hgranted
    ⟨_, hpick, fun _ task hseat => Call.resume_of_granted hseat hpick task⟩
  refused hgranted :=
    have hpick := pickUpToken_of_closed hc hgranted hclosed
    ⟨hpick, fun _ task hseat => Call.resume_of_refused hseat hpick task⟩

namespace Session

variable {s : Session}

/-! ### The end of a wait -/

/-- A task that takes a token has its turn, and is told what comes of it. -/
theorem turn_take {id : TaskId} {name : String} {bucket : ComponentId} {ticket : Ticket}
    {tickets : List Ticket} {closedName : String}
    (ht : s.tasks.get? id = some ⟨.take name bucket (some ticket), false⟩)
    (hshut : s.world.Shut bucket closedName tickets) :
    (s.turn id).tasks.get? id = none ∧ (s.turn id).world.log = s.world.log ++
      [(s.world.now, if ticket ∈ tickets then .taken name
        else .denied name (.closed closedName))] := by
  have hturn : s.turn id =
      turnTake id name bucket (some ticket) { s with tasks := s.tasks.erase id } := by
    simp [turn, ht]
  have hgone : (s.tasks.erase id).get? id = none := by rw [Table.get?_erase, if_pos rfl]
  rw [hturn]
  by_cases hgranted : ticket ∈ tickets
  · obtain ⟨w, hpick, -⟩ := hshut.granted hgranted
    obtain ⟨_, _, -, -, rfl⟩ := World.pickUpToken_eq_granted hpick
    simp only [turnTake, hpick, if_pos hgranted]
    exact ⟨hgone, rfl⟩
  · obtain ⟨hpick, -⟩ := hshut.refused hgranted
    simp only [turnTake, hpick, if_neg hgranted]
    exact ⟨hgone, rfl⟩

/-- **Whoever waits in the line of a closed bucket has its turn**, and its wait is over then. -/
theorem Orderly.released (h : s.Orderly) {id : TaskId} {t : Task} {bucket : ComponentId}
    {ticket : Ticket} {c : Component Bucket.Config Bucket} (ht : s.tasks.get? id = some t)
    (hseat : t.job.seat? = some (bucket, ticket)) (hc : s.world.buckets.get? bucket = some c)
    (hclosed : c.state.closed = true) :
    ∃ n rest tickets, n < s.turnsLeft ∧ (s.turns n).world.ready = id :: rest ∧
      s.turns (n + 1) = turn id ((s.turns n).withReady rest) ∧
      (s.turns n).tasks.get? id = some t ∧
      ((s.turns n).withReady rest).world.Shut bucket c.name tickets ∧
      (ticket ∈ tickets ↔ ticket ∈ c.state.granted) ∧
      ∀ t', (s.turns (n + 1)).tasks.get? id = some t' →
        t'.job.seat? ≠ some (bucket, ticket) := by
  -- A closed bucket has told everybody who waits, so the task is in the run queue.
  have hready := (h.minded id t bucket ticket ht hseat).closed
    (World.bucketOf_of_some hc ▸ hclosed)
  obtain ⟨before, rest, hsplit, hbefore⟩ := List.eq_append_cons_of_mem hready
  obtain ⟨more, hround, htask⟩ := turns_comes_round hsplit hbefore
  have hlater := h.turns before.length
  have hvalid := h.reachable.valid_scene
  obtain ⟨b, hb, hstays⟩ := Bucket.stays_closed hvalid.2
    ((turns_later s before.length).scene h.reachable) hc hclosed
  have hthere := htask.trans ht
  have hheld := mem_holds_of_seat? hlater.reachable.valid_scene.1 hthere hseat
  have hshut : ((s.turns before.length).withReady (rest ++ more)).world.Shut bucket c.name
      b.granted := World.shut_of_closed (c := { c with state := b }) hb hstays.closed hstays.queue
  have hnext : s.turns (before.length + 1) =
      turn id ((s.turns before.length).withReady (rest ++ more)) := by
    rw [turns_add, turns_of_ready hround]
    rfl
  refine ⟨before.length, rest ++ more, b.granted, ?_, hround, hnext, hthere, hshut,
    (hstays.places hheld).2, fun t' ht' hseat' => ?_⟩
  · rw [turnsLeft, hsplit, List.length_append, List.length_cons]
    omega
  · rw [hnext] at ht'
    have hturned := turn_turned ((s.turns before.length).withReady (rest ++ more)) id
    -- After its turn it could only have this seat if it had to wait on, which nobody does at a
    -- closed bucket, or if the seat was a new one.
    rcases hturned.own ht' hseat' with ⟨-, hwaiting, -⟩ | ⟨hnew, -⟩
    · obtain ⟨-, hopen⟩ := World.bucketOf_of_waiting hwaiting
      have hstate : ((s.turns before.length).withReady (rest ++ more)).world.bucketOf bucket = b :=
        World.bucketOf_of_some (c := { c with state := b }) hb
      rw [hstate, hstays.closed] at hopen
      cases hopen
    · exact absurd hnew (Nat.not_le.mpr (hlater.reachable.seat hthere hseat).1)

end Session

namespace Bucket

/-- **Shutdown is final and loses no caller.** In every history of a bucket that is closed, whatever
moves follow, no token is handed out and none comes or goes; callers that waited have been told, or
have given up; callers that were handed a token before have it, or were cancelled; and callers that
came later were refused. The same holds of every bucket of a scene that is closed by itself or with
the registry, however the scene goes on: everybody in line is woken, and from then on the world
gives the answers of `World.Shut`, with the name of the bucket, to those who were handed a token
before and to those who were not. Sessions go on in this way from one step to the next. Whoever
waits in the line of a closed bucket is next after some of the turns with which a session settles,
and its own turn is the end of its wait; a task that takes a token is then told once what came of
it, and is gone. -/
theorem shut_down_final :
    (∀ (config : Config) (created : Instant) (moves more : List Move),
      let r := Register.run config created moves
      let r' := Register.run config created (moves ++ .shutDown :: more)
      Register.Final r r' ∧ (∀ now, r'.bucket.refill config now = ([], r'.bucket)) ∧
        ∀ now w, r'.bucket.acquire config now w = (.closed, [], r'.bucket)) ∧
    (∀ (sc : Scene) (id : ComponentId) (c : Component Config Bucket) (w : World),
      sc.Reachable → sc.world.buckets.get? id = some c →
      (w = sc.world.shutDownBucket id ∨
        (id ∈ sc.world.bucketNames.values ∧ w = sc.world.shutDown)) →
      (∀ x ∈ Queue.purge c.state.queue, x.caller ∈ w.ready) ∧
        ∀ sc', Scene.Later ⟨w, sc.holds⟩ sc' → ∃ b,
          sc'.world.buckets.get? id = some { c with state := b } ∧
            StaysClosed id c.state sc.holds b sc'.holds ∧ sc'.world.Shut id c.name b.granted) ∧
    (∀ settings recording, (Session.create settings recording).Orderly) ∧
    (∀ (s : Session) (calendar : Diagnostics.Calendar) (command : Command), s.Orderly →
      s.scene.Reachable ∧ (s.step calendar command).2.2.Orderly ∧
        s.scene.Later (s.step calendar command).2.2.scene) ∧
    ∀ (s : Session) (id : TaskId) (t : Task) (bucket : ComponentId) (ticket : Ticket)
      (c : Component Config Bucket), s.Orderly → s.tasks.get? id = some t →
      t.job.seat? = some (bucket, ticket) → s.world.buckets.get? bucket = some c →
      c.state.closed = true →
      .tokenPlace bucket ticket ∈ s.holds ∧ ∃ n rest tickets,
        let s' := (s.turns n).withReady rest
        n < s.turnsLeft ∧ (s.turns n).world.ready = id :: rest ∧ s.turns (n + 1) = s'.turn id ∧
          s'.tasks.get? id = some t ∧ s'.world.Shut bucket c.name tickets ∧
          (ticket ∈ tickets ↔ ticket ∈ c.state.granted) ∧
          (∀ t', (s.turns (n + 1)).tasks.get? id = some t' →
            t'.job.seat? ≠ some (bucket, ticket)) ∧
          ∀ name, t = ⟨.take name bucket (some ticket), false⟩ →
            (s.turns (n + 1)).tasks.get? id = none ∧ (s.turns (n + 1)).world.log =
              s'.world.log ++ [(s'.world.now, if ticket ∈ tickets then .taken name
                else .denied name (.closed c.name))] := by
  refine ⟨fun config created moves more => ?_, fun sc id c w hsc hc hw => ?_, .create,
    fun s calendar command hs => ?_, fun s id t bucket ticket c hs ht hseat hc hclosed => ?_⟩
  · have hs := Register.sound_run config created moves
    have hf := (Register.final_shutDown hs).foldl hs.shutDown config more
    intro r r'
    have hr' : r' = more.foldl (Register.step config) r.shutDown :=
      Register.run_append config created moves (.shutDown :: more)
    rw [hr']
    exact ⟨hf, fun now => refill_of_closed hf.closed, fun now w => acquire_of_closed hf.closed w⟩
  -- The bucket is closed alone or with the whole registry; from then on both go the same way.
  · have hclosing : sc.Later ⟨w, sc.holds⟩ ∧
        w.buckets.get? id = some { c with state := c.state.shutDown.2 } ∧
          ∀ x ∈ Queue.purge c.state.queue, x.caller ∈ w.ready := by
      rcases hw with rfl | ⟨hid, rfl⟩
      · refine ⟨.act .refl (.shutDownBucket id), ?_,
          fun x hx => World.mem_ready_shutDownBucket hc hx⟩
        rw [World.get?_shutDownBucket, if_pos rfl, hc]
        rfl
      · refine ⟨.of_steps (.shutDown sc.world sc.holds), ?_,
          fun x hx => World.mem_ready_shutDown hc hid hx⟩
        rw [World.get?_shutDown, if_pos hid, hc]
        rfl
    obtain ⟨hlater, hshut, hwoken⟩ := hclosing
    refine ⟨hwoken, fun sc' hsc' => ?_⟩
    obtain ⟨b, hb, hstays⟩ := stays_closed (hsc.later hlater) hsc' hshut rfl
    refine ⟨b, hb, ⟨hstays.closed, hstays.queue, hstays.tokens, hstays.lastRefill, hstays.granted,
      hstays.places⟩, ?_⟩
    exact World.shut_of_closed (c := { c with state := b }) hb hstays.closed hstays.queue
  · exact ⟨hs.reachable.valid_scene.2, hs.step calendar command,
      (s.step_later calendar command).scene hs.reachable⟩
  · obtain ⟨n, rest, tickets, hn, hready, hnext, hthere, hshut, hgranted, hover⟩ :=
      hs.released ht hseat hc hclosed
    refine ⟨Session.mem_holds_of_seat? hs.reachable.valid_scene.1 ht hseat, n, rest, tickets, hn,
      hready, hnext, hthere, hshut, hgranted, hover, fun name htake => ?_⟩
    rw [hnext]
    exact Session.turn_take (htake ▸ hthere) hshut

/-! #### A line that is dissolved -/

/-- Three callers come to a bucket with one token, and the second is handed the next one. -/
def oneServed : List Move := [.ask 0 0, .ask 1 1, .ask 2 2, .pass 6, .refill]

/-- After the bucket is closed another caller comes, those in line run again, and refills would have
been due. -/
def tooLate : List Move := [.pickUp 2, .ask 3 3, .pickUp 1, .pass 20, .refill, .shutDown]

/-- A session in which a caller waits in the line of a bucket of the registry. -/
def oneInLine : Session :=
  ((Session.create {} false).performAll ⟨toString, toString⟩
    [.bucket "t" (some ⟨1, .ofMillis 5⟩) .registry, .take "t" "a", .take "t" "b"]).2.settle

/-- The registry was shut down. -/
def dissolved : Session := (oneInLine.perform ⟨toString, toString⟩ .shutDown).2

/-- The name under which a task that is not cancelled takes a token, its bucket and its ticket. -/
def takes? : Task → Option (String × ComponentId × Ticket)
  | ⟨.take name bucket (some ticket), false⟩ => some (name, bucket, ticket)
  | _ => none

theorem eq_of_takes? {t : Task} {name : String} {bucket : ComponentId} {ticket : Ticket}
    (h : takes? t = some (name, bucket, ticket)) :
    t = ⟨.take name bucket (some ticket), false⟩ := by
  unfold takes? at h
  split at h <;> cases h
  rfl

theorem oneInLine_orderly : oneInLine.Orderly :=
  ((Session.Orderly.create {} false).performAll ⟨toString, toString⟩ _).turns _

/-- The caller that waited is refused, and the one that was handed a token before goes on with
it. In a session, a caller that waited is told once that the bucket is closed. -/
theorem shut_down_final_dissolved :
    (Register.run ⟨1, .ofMillis 5⟩ 0 (oneServed ++ .shutDown :: tooLate)).visits =
        [.inside, .inside, .refused, .refused] ∧
    (Register.run ⟨1, .ofMillis 5⟩ 0 (oneServed ++ .shutDown :: tooLate)).handed = [0, 1] ∧
    oneInLine.world.shutDown.pickUpToken 0 5 = .refused (.closed "t") ∧
    (oneInLine.world.shutDown.askToken 0 9).1 = .error (.closed "t") ∧
    ∃ n, n < dissolved.turnsLeft ∧ (dissolved.turns (n + 1)).tasks.get? 3 = none ∧
      ∃ log now, (dissolved.turns (n + 1)).world.log =
        log ++ [(now, .denied "b" (.closed "t"))] := by
  obtain ⟨hhistory, hscene, -, -, hsession⟩ := shut_down_final
  have horderly : dissolved.Orderly := oneInLine_orderly.perform ⟨toString, toString⟩ .shutDown
  refine ⟨by decide, ?_, ?_⟩
  · obtain ⟨hfinal, -⟩ := hhistory ⟨1, .ofMillis 5⟩ 0 oneServed tooLate
    exact hfinal.handed.trans (by decide)
  have hstate : (oneInLine.world.buckets.get? 0).map (fun c => (c.name, c.state.granted)) =
      some ("t", []) := by decide +kernel
  obtain ⟨⟨name, config, state⟩, hc, heq⟩ := Option.map_eq_some_iff.mp hstate
  obtain ⟨rfl, hgranted⟩ := Prod.mk.inj heq
  obtain ⟨-, hlater⟩ := hscene oneInLine.scene 0 _ oneInLine.world.shutDown
    oneInLine_orderly.reachable.valid_scene.2 hc (.inr ⟨by decide +kernel, rfl⟩)
  obtain ⟨b, hb, hstays, hshut⟩ := hlater _ .refl
  have hnone : 5 ∉ b.granted := fun hmem => by
    have hbefore := hstays.granted hmem
    rw [hgranted] at hbefore
    cases hbefore
  refine ⟨(hshut.refused hnone).1, congrArg Prod.fst (hshut.ask 9), ?_⟩
  have htask : (dissolved.tasks.get? 3).bind takes? = some ("b", 0, 5) := by decide +kernel
  obtain ⟨t, ht, htakes⟩ := Option.bind_eq_some_iff.mp htask
  obtain rfl := eq_of_takes? htakes
  have hclosed : (dissolved.world.buckets.get? 0).map (fun c =>
      (c.name, c.state.closed, c.state.granted)) = some ("t", true, []) := by decide +kernel
  obtain ⟨⟨name, config, state⟩, hc, heq⟩ := Option.map_eq_some_iff.mp hclosed
  obtain ⟨rfl, hclosed, hempty⟩ : name = "t" ∧ state.closed = true ∧ state.granted = [] := by
    simpa using heq
  obtain ⟨-, n, rest, tickets, hn, -, -, -, -, htickets, -, htake⟩ :=
    hsession dissolved 3 _ 0 5 _ horderly ht rfl hc hclosed
  obtain ⟨hgone, hlog⟩ := htake "b" rfl
  rw [if_neg (fun hmem => by rw [htickets, hempty] at hmem; cases hmem)] at hlog
  exact ⟨n, hn, hgone, _, _, hlog⟩

end Bucket

end Resilience
