import Resilience.Proofs.Bucket.Scene
import Resilience.Execution

/-!
# The account of a bucket

A ledger **accounts** for a bucket of a world if moves that wrote it lead a new bucket to the state
that it is in, at the time that it is (`Accounts`). Acts add to the account. A caller that takes a
token adds a start to it, and a rate limited operation takes its token and starts its inner
operation in one go, so every start of an inner operation has a start in the account
(`PaidStart`).

A world is **covered** with a credit if the account has as many starts as some source was invoked,
and as many more as the credit. A token adds to the credit, an invocation uses it up, and whatever
else happens leaves it alone (`Covered.shuns`).
-/

namespace Resilience

/-- How often a source was invoked. -/
def World.invoked (source : ComponentId) (w : World) : Nat :=
  (w.sources.get? source).elim 0 Source.invoked

/-! ### Acts that leave a source alone -/

/-- An act leads from one world to another, whatever is held besides. -/
def World.Acts (w w' : World) : Prop :=
  ∀ H : Multiset Hold, ∃ A B, H ≤ A ∧ Act ⟨w, A⟩ ⟨w', B⟩

/-- Acts lead from one world to another, and none of them invokes the goods. -/
def World.Shuns (goods : ComponentId) : World → World → Prop :=
  Relation.ReflTransGen fun w w' => w.Acts w' ∧ w'.invoked goods = w.invoked goods

namespace World.Shuns

variable {goods : ComponentId} {w w' : World}

/-- An act that needs no hold and leaves sources alone. -/
private theorem free {B : Multiset Hold → Multiset Hold} (h : ∀ H, Act ⟨w, H⟩ ⟨w', B H⟩)
    (hsources : w'.sources = w.sources) : Shuns goods w w' :=
  Relation.ReflTransGen.single
    ⟨fun H => ⟨H, B H, le_refl H, h H⟩, by rw [invoked, hsources, invoked]⟩

/-- An act that uses up a hold and leaves sources alone. -/
private theorem giveBack {x : Hold} {B : Multiset Hold → Multiset Hold}
    (h : ∀ H, Act ⟨w, x ::ₘ H⟩ ⟨w', B H⟩) (hsources : w'.sources = w.sources) :
    Shuns goods w w' :=
  Relation.ReflTransGen.single ⟨fun H => ⟨x ::ₘ H, B H, Multiset.le_cons_self H x, h H⟩,
    by rw [invoked, hsources, invoked]⟩

variable (goods w)

theorem sleep (d : Duration) : Shuns goods w (w.sleep d).2 :=
  free (fun _ => .idle (World.sleep_idles d w)) (World.sleep_idles d w).sources

theorem enter (name : String) : Shuns goods w (w.enter name).2 := by
  cases hname : w.breakers.has name with
  | true =>
    obtain ⟨_, _, _, -, heq⟩ := w.enter_eq name
    exact free (fun _ => .enter hname) (by rw [heq])
  | false =>
    have hnone : w.breakers.get? name = none := by simpa [Table.has] using hname
    rw [World.enter, hnone]
    exact .refl

theorem record (name : String) (probe : Bool) (outcome : Outcome) :
    Shuns goods w (w.record name probe outcome) := by
  obtain ⟨_, _, _, -, heq⟩ := w.record_eq name probe outcome
  exact giveBack (fun _ => .record name probe outcome) (by rw [heq])

theorem forgo (name : String) (probe : Bool) : Shuns goods w (w.forgo name probe) := by
  obtain ⟨_, -, heq⟩ := w.forgo_eq name probe
  exact giveBack (fun _ => .forgo name probe) (by rw [heq])

theorem askSlot (id : ComponentId) (caller : TaskId) :
    Shuns goods w (w.askSlot id caller).2 := by
  cases hid : w.limiters.has id with
  | true =>
    obtain ⟨_, _, _, _, -, -, heq⟩ := w.askSlot_eq id caller
    exact free (fun _ => .askSlot caller hid) (by rw [heq])
  | false =>
    have hnone : w.limiters.get? id = none := by simpa [Table.has] using hid
    rw [World.askSlot, hnone]
    exact .refl

variable {w} in
theorem pickUpSlot {id : ComponentId} {ticket : Ticket} (h : w.pickUpSlot? id ticket = some w') :
    Shuns goods w w' := by
  obtain ⟨_, _, -, -, heq⟩ := World.pickUpSlot?_eq_some h
  exact giveBack (fun _ => .pickUpSlot h) (by rw [heq])

theorem releaseSlot (id : ComponentId) : Shuns goods w (w.releaseSlot id) := by
  obtain ⟨_, _, -, heq⟩ := w.releaseSlot_eq id
  exact giveBack (fun _ => .releaseSlot id) (by rw [heq])

theorem leaveSlot (id : ComponentId) (ticket : Ticket) :
    Shuns goods w (w.leaveSlot id ticket) := by
  obtain ⟨_, _, -, heq⟩ := w.leaveSlot_eq id ticket
  exact giveBack (fun _ => .leaveSlot id ticket) (by rw [heq])

theorem askToken (id : ComponentId) (caller : TaskId) :
    Shuns goods w (w.askToken id caller).2 := by
  cases hid : w.buckets.has id with
  | true =>
    obtain ⟨_, _, _, -, -, heq⟩ := w.askToken_eq id caller
    exact free (fun _ => .askToken caller hid) (by rw [heq])
  | false =>
    have hnone : w.buckets.get? id = none := by simpa [Table.has] using hid
    rw [World.askToken_of_none hnone]
    exact .refl

variable {w} in
theorem pickUpToken {id : ComponentId} {ticket : Ticket}
    (h : w.pickUpToken id ticket = .granted w') : Shuns goods w w' := by
  obtain ⟨_, _, -, -, heq⟩ := World.pickUpToken_eq_granted h
  exact giveBack (fun _ => .pickUpToken h) (by rw [heq])

theorem leaveToken (id : ComponentId) (ticket : Ticket) :
    Shuns goods w (w.leaveToken id ticket) :=
  giveBack (fun _ => .leaveToken id ticket) rfl

theorem readCache (id : ComponentId) (key : String) :
    Shuns goods w (w.readCache id key).2 := by
  obtain ⟨_, -, heq⟩ := w.readCache_eq id key
  exact free (fun _ => .readCache id key) (by rw [heq])

theorem writeCache (id : ComponentId) (key : String) (value : Json) (ttl : Nat) :
    Shuns goods w (w.writeCache id key value ttl) := by
  obtain ⟨_, _, _, -, heq⟩ := w.writeCache_eq id key value ttl
  exact free (fun _ => .writeCache id key value ttl) (by rw [heq])

variable {goods} in
theorem invoke {id : ComponentId} (hne : id ≠ goods) (arg : Json) :
    Shuns goods w (w.invoke id arg).2 := by
  refine Relation.ReflTransGen.single ⟨fun H => ⟨H, H, le_refl H, .invoke id arg⟩, ?_⟩
  unfold World.invoke
  split
  · simp [World.invoked, World.note, Table.get?_set, hne]
  · rfl

end World.Shuns

/-- Taking a call apart invokes nothing. -/
theorem Call.abandon_shuns (goods : ComponentId) (c : Call) (w : World) :
    World.Shuns goods w (c.abandon w) := by
  induction c generalizing w with
  | working timer ending arg => exact .refl
  | guarded breaker probe inner ih => exact (ih w).trans (World.Shuns.forgo ..)
  | withFallback breaker probe fallback arg inner ih => exact (ih w).trans (World.Shuns.forgo ..)
  | awaitingSlot limiter ticket inner arg => exact .leaveSlot ..
  | holdingSlot limiter inner ih => exact (ih w).trans (World.Shuns.releaseSlot ..)
  | awaitingToken bucket ticket inner arg => exact .leaveToken ..
  | timed timer limit name inner ih => exact ih w
  | attempting policy left delay op arg inner ih => exact ih w
  | pausing policy left delay op arg timer => exact .refl
  | filling cache key ttl inner ih => exact ih w

namespace Bucket

open History Ledger

/-! ### The account of a bucket -/

/-- In the world, the bucket has come to the end of a history that wrote this ledger. -/
def Accounts (bucket : ComponentId) (w : World) (ledger : List Mark) : Prop :=
  ∃ (c : Component Config Bucket) (created : Instant) (moves : List Move),
    w.buckets.get? bucket = some c ∧ run c.config created moves = ⟨c.state, w.now, ledger⟩

namespace Accounts

variable {bucket : ComponentId} {w w' : World} {ledger : List Mark}

/-- Nobody started who was not granted a token. -/
theorem starts_le (h : Accounts bucket w ledger) : starts ledger ≤ grants ledger := by
  obtain ⟨c, created, moves, -, hrun⟩ := h
  have hstarted := (sound_run c.config created moves).balanced.started
  rw [hrun] at hstarted
  exact (Nat.le_add_right ..).trans hstarted

/-- An act is at most one move of the bucket, and adds to the ledger what the move writes. -/
theorem act (h : Accounts bucket w ledger) (hn : BucketsNumbered w) (hact : w.Acts w') :
    BucketsNumbered w' ∧ ∃ more, Accounts bucket w' (ledger ++ more) := by
  obtain ⟨c, created, moves, hc, hrun⟩ := h
  -- Everybody in line is there, so what is held in the line covers the tickets.
  obtain ⟨A, B, hA, hact⟩ := hact (c.state.tickets.map (Hold.tokenPlace bucket) : List Hold)
  have hplaces (ticket : Ticket) :
      c.state.tickets.count ticket ≤ A.count (.tokenPlace bucket ticket) := by
    refine le_trans ?_ (Multiset.count_le_of_le _ hA)
    rw [Multiset.coe_count, List.count_map_of_injective _ _ fun a b h => (Hold.tokenPlace.inj h).2]
  have hshows : Shows bucket c.state w.now A (run c.config created moves) :=
    ⟨by rw [hrun], by rw [hrun], hplaces⟩
  obtain ⟨b, hb, hon⟩ := Shows.act hn hact.onBuckets hc
  obtain ⟨move?, hstate, hclock, -⟩ := hon created _ (sound_run c.config created moves) hshows
  have hmoves : run c.config created (moves ++ move?.toList) =
      move?.toList.foldl (History.step c.config) (run c.config created moves) :=
    List.foldl_append
  have hprefix : ledger <+: (run c.config created (moves ++ move?.toList)).ledger := by
    rw [hmoves, hrun]
    cases move? with
    | none => exact List.prefix_rfl
    | some move => exact ledger_prefix_step c.config ⟨c.state, w.now, ledger⟩ move
  obtain ⟨more, hmore⟩ := hprefix
  refine ⟨hn.act hact.onBuckets, more, { c with state := b }, created,
    moves ++ move?.toList, hb, ?_⟩
  rw [hmore, ← hstate, ← hclock, hmoves]

/-- A caller gets a token at once. -/
theorem buy {caller : TaskId} (h : Accounts bucket w ledger)
    (hask : w.askToken bucket caller = (.ok none, w')) :
    ∃ more, Accounts bucket w' (ledger ++ more) ∧ starts more = 1 := by
  obtain ⟨c, created, moves, hc, hrun⟩ := h
  rcases hacquire : c.state.acquire c.config w.now ⟨w.serial, caller, true⟩ with
    ⟨admission, served, b⟩
  simp only [World.askToken, hc, hacquire] at hask
  cases admission with
  | queued | closed => cases hask
  | admitted =>
    obtain rfl := (Prod.mk.inj hask).2
    refine ⟨(run c.config created moves).refillMarks c.config ++ [.grant w.now, .start w.now],
      ⟨{ c with state := b }, created, moves ++ [.ask w.serial caller], ?_, ?_⟩, ?_⟩
    · simp [Table.get?_set]
    · rw [run_concat, hrun, ← List.append_assoc]
      simp only [History.step, History.ask, hacquire, World.now_wakeAll]
      rfl
    · -- A refill that was due grants tokens to the line, and nobody there goes on yet.
      have hrefill : starts ((run c.config created moves).refillMarks c.config) = 0 := by
        unfold History.refillMarks
        split <;> simp [starts, Mark.isStart]
      rw [starts, List.countP_append, ← starts, hrefill]
      rfl

/-- A caller in line picks up the token that it was granted. -/
theorem collect {ticket : Ticket} (h : Accounts bucket w ledger)
    (hpick : w.pickUpToken bucket ticket = .granted w') :
    Accounts bucket w' (ledger ++ [.start w.now]) := by
  obtain ⟨c, created, moves, hc, hrun⟩ := h
  obtain ⟨_, b, hc', hb, rfl⟩ := World.pickUpToken_eq_granted hpick
  obtain rfl := Option.some.inj (hc.symm.trans hc')
  refine ⟨{ c with state := b }, created, moves ++ [.pickUp ticket], ?_, ?_⟩
  · simp [Table.get?_set]
  · rw [run_concat, hrun]
    simp only [History.step, History.pickUp, hb]

end Accounts

/-- What a turn of a rate limited call leads to: its inner operation is started, and the account
has one start more for it, or the call waits in line, or it is refused. -/
inductive PaidStart (bucket : ComponentId) (inner : Operation) (task : TaskId) (arg : Json)
    (ledger : List Mark) : Poll × World → Prop
  | start {w : World} {more : List Mark} (haccount : Accounts bucket w (ledger ++ more))
      (hmore : starts more = 1) :
      PaidStart bucket inner task arg ledger (inner.start task arg w)
  | wait {w : World} {ticket : Ticket} :
      PaidStart bucket inner task arg ledger (.pending (.awaitingToken bucket ticket inner arg), w)
  | refuse {w : World} {rejection : Rejection} :
      PaidStart bucket inner task arg ledger (.ready (.error (.rejected rejection)), w)

section PaidStart

variable {bucket : ComponentId} {w : World} {ledger : List Mark}

/-- **A rate limited operation starts its inner operation only with a token of its own.** -/
theorem paidStart_start (inner : Operation) (task : TaskId) (arg : Json)
    (h : Accounts bucket w ledger) : PaidStart bucket inner task arg ledger
      ((Operation.rateLimited inner bucket).start task arg w) := by
  simp only [Operation.start]
  split
  · next hask =>
    obtain ⟨more, haccount, hmore⟩ := h.buy hask
    exact .start haccount hmore
  · exact .wait
  · exact .refuse

theorem paidStart_resume (inner : Operation) (task : TaskId) (arg : Json) (ticket : Ticket)
    (h : Accounts bucket w ledger) : PaidStart bucket inner task arg ledger
      ((Call.awaitingToken bucket ticket inner arg).resume task w) := by
  simp only [Call.resume]
  split
  · next hpick => exact .start (h.collect hpick) rfl
  · exact .refuse
  · exact .wait

end PaidStart

/-! ### Covered worlds -/

/-- The bucket has an account with a start for every invocation of the goods, and with as many
more as the credit. -/
structure Covered (bucket goods : ComponentId) (credit : Nat) (w : World) : Prop where
  numbered : BucketsNumbered w
  account : ∃ ledger, Accounts bucket w ledger ∧ w.invoked goods + credit ≤ starts ledger

namespace Covered

variable {bucket goods : ComponentId} {credit : Nat} {w w' : World}

/-- No move takes a start back. -/
theorem act (h : Covered bucket goods credit w) (hact : w.Acts w')
    (hsource : w'.invoked goods = w.invoked goods) : Covered bucket goods credit w' := by
  obtain ⟨numbered, ledger, haccount, hle⟩ := h
  obtain ⟨numbered, more, haccount⟩ := haccount.act numbered hact
  have hstarts : starts ledger ≤ starts (ledger ++ more) :=
    starts_le_of_prefix (List.prefix_append ..)
  exact ⟨numbered, _, haccount, hsource ▸ hle.trans hstarts⟩

theorem shuns (h : Covered bucket goods credit w) (hshuns : World.Shuns goods w w') :
    Covered bucket goods credit w' := by
  induction hshuns with
  | refl => exact h
  | tail _ hlast ih => exact ih.act hlast.1 hlast.2

/-- A start is one more than before. -/
private theorem earn {ledger more : List Mark} (hn : BucketsNumbered w')
    (hle : w.invoked goods + credit ≤ starts ledger)
    (haccount : Accounts bucket w' (ledger ++ more)) (hmore : starts more = 1)
    (hsources : w'.sources = w.sources) : Covered bucket goods (credit + 1) w' := by
  refine ⟨hn, _, haccount, ?_⟩
  rw [starts, List.countP_append, ← starts, ← starts, hmore, World.invoked, hsources]
  exact Nat.succ_le_succ hle

/-- A caller gets a token at once. -/
theorem buy {caller : TaskId} (h : Covered bucket goods credit w)
    (hask : w.askToken bucket caller = (.ok none, w')) :
    Covered bucket goods (credit + 1) w' := by
  have hn := (h.shuns (.askToken goods w bucket caller)).numbered
  obtain ⟨_, _, _, -, -, heq⟩ := w.askToken_eq bucket caller
  rw [hask] at hn heq
  have hsources := congrArg World.sources heq
  obtain ⟨-, ledger, haccount, hle⟩ := h
  obtain ⟨more, haccount, hmore⟩ := haccount.buy hask
  exact earn hn hle haccount hmore hsources

/-- A caller in line picks up the token that it was granted. -/
theorem collect {ticket : Ticket} (h : Covered bucket goods credit w)
    (hpick : w.pickUpToken bucket ticket = .granted w') :
    Covered bucket goods (credit + 1) w' := by
  have hn := (h.shuns (.pickUpToken goods hpick)).numbered
  obtain ⟨_, _, -, -, heq⟩ := World.pickUpToken_eq_granted hpick
  have hsources := congrArg World.sources heq
  obtain ⟨-, ledger, haccount, hle⟩ := h
  exact earn hn hle (haccount.collect hpick) rfl hsources

/-- An invocation uses up the credit. -/
theorem invoke (arg : Json) (h : Covered bucket goods (credit + 1) w) :
    Covered bucket goods credit (w.invoke goods arg).2 := by
  obtain ⟨numbered, ledger, haccount, hle⟩ := h
  unfold World.invoke
  cases hsource : w.sources.get? goods with
  | none => exact ⟨numbered, ledger, haccount, Nat.le_of_succ_le hle⟩
  | some source =>
    refine ⟨numbered, ledger, haccount, ?_⟩
    have hbefore : w.invoked goods = source.invoked := by rw [World.invoked, hsource]; rfl
    rw [hbefore] at hle
    simp only [World.invoked, World.note, Table.get?_set, if_true, Option.elim_some]
    omega

end Covered

end Bucket

end Resilience
