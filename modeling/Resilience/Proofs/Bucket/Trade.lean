import Resilience.Proofs.Bucket.Account

/-!
# Invocations that are paid for

A source may stand behind a bucket: every operation that there is invokes it as what a
`rateLimited` layer of that bucket is around, and nowhere else (`Operation.PaysFor`). Then the
source is never invoked more often than callers went on with a token of the bucket.

Since a layer takes its token and starts its inner operation in one go, nothing is owed between
the turns of a call: covered with no credit is what every turn of every call keeps
(`start_keeps`, `resume_keeps`), and so does everything that goes on in a world (`Trade`).
-/

namespace Resilience

/-! ### Who pays -/

/-- The operation invokes the goods only as what a layer of the bucket is around. -/
def Operation.PaysFor (bucket goods : ComponentId) : Operation → Prop
  | source id => id ≠ goods
  | guarded inner _ => inner.PaysFor bucket goods
  | withFallback inner _ fallback => inner.PaysFor bucket goods ∧ fallback.PaysFor bucket goods
  | limited inner _ => inner.PaysFor bucket goods
  | rateLimited inner other =>
    inner.PaysFor bucket goods ∨ other = bucket ∧ inner = .source goods
  | timed inner _ _ => inner.PaysFor bucket goods
  | retrying inner _ => inner.PaysFor bucket goods
  | cached inner _ _ _ => inner.PaysFor bucket goods

/-- Whatever the call may still start pays. -/
def Call.PaysFor (bucket goods : ComponentId) : Call → Prop
  | working .. => True
  | guarded _ _ inner => inner.PaysFor bucket goods
  | withFallback _ _ fallback _ inner =>
    fallback.PaysFor bucket goods ∧ inner.PaysFor bucket goods
  | awaitingSlot _ _ inner _ => inner.PaysFor bucket goods
  | holdingSlot _ inner => inner.PaysFor bucket goods
  | awaitingToken other _ inner _ =>
    inner.PaysFor bucket goods ∨ other = bucket ∧ inner = .source goods
  | timed _ _ _ inner => inner.PaysFor bucket goods
  | attempting _ _ _ op _ inner => op.PaysFor bucket goods ∧ inner.PaysFor bucket goods
  | pausing _ _ _ op _ _ => op.PaysFor bucket goods
  | filling _ _ _ inner => inner.PaysFor bucket goods

/-- The call that goes on, if one does. -/
def Poll.calls : Poll → List Call
  | pending c => [c]
  | _ => []

namespace Bucket

/-! ### Calls keep worlds covered -/

/-- The world is covered after a call ran, and the call, if it goes on, pays. -/
structure Keeps (bucket goods : ComponentId) (r : Poll × World) : Prop where
  covered : Covered bucket goods 0 r.2
  pays : ∀ c ∈ r.1.calls, c.PaysFor bucket goods

namespace Keeps

variable {bucket goods : ComponentId} {r : Poll × World} {w : World}

/-- A call that is over. -/
theorem ended {poll : Poll} (hcalls : poll.calls = []) (h : Covered bucket goods 0 w) :
    Keeps bucket goods (poll, w) := ⟨h, by simp [hcalls]⟩

/-- A call that goes on. -/
theorem pending {c : Call} (h : Covered bucket goods 0 w) (hc : c.PaysFor bucket goods) :
    Keeps bucket goods (.pending c, w) := ⟨h, by simpa [Poll.calls] using hc⟩

theorem call_pays {c : Call} (h : Keeps bucket goods (.pending c, w)) :
    c.PaysFor bucket goods := h.pays c (by simp [Poll.calls])

theorem afterGuarded {breaker : String} {probe : Bool} (h : Keeps bucket goods r) :
    Keeps bucket goods (Call.afterGuarded breaker probe r) := by
  obtain ⟨poll, w⟩ := r
  cases poll with
  | pending c => exact .pending h.covered h.call_pays
  | ready outcome => exact .ended rfl (h.covered.shuns (.record ..))
  | panicked text => exact .ended rfl (h.covered.shuns (.forgo ..))

theorem afterPrimary {breaker : String} {probe : Bool} {fallback : Operation} {arg : Json}
    {start : World → Poll × World} (hfallback : fallback.PaysFor bucket goods)
    (hstart : ∀ w, Covered bucket goods 0 w → Keeps bucket goods (start w))
    (h : Keeps bucket goods r) :
    Keeps bucket goods (Call.afterPrimary breaker probe fallback arg start r) := by
  obtain ⟨poll, w⟩ := r
  match poll with
  | .pending c => exact .pending h.covered ⟨hfallback, h.call_pays⟩
  | .ready (.ok value) => exact .ended rfl (h.covered.shuns (.record ..))
  | .ready (.error failure) => exact hstart _ (h.covered.shuns (.record ..))
  | .panicked text => exact .ended rfl (h.covered.shuns (.forgo ..))

theorem afterHolding {limiter : ComponentId} (h : Keeps bucket goods r) :
    Keeps bucket goods (Call.afterHolding limiter r) := by
  obtain ⟨poll, w⟩ := r
  cases poll with
  | pending c => exact .pending h.covered h.call_pays
  | ready outcome => exact .ended rfl (h.covered.shuns (.releaseSlot ..))
  | panicked text => exact .ended rfl (h.covered.shuns (.releaseSlot ..))

theorem afterTimed {timer : Timer} {limit : Duration} {name : String}
    (h : Keeps bucket goods r) : Keeps bucket goods (Call.afterTimed timer limit name r) := by
  obtain ⟨poll, w⟩ := r
  cases poll with
  | pending c =>
    simp only [Call.afterTimed]
    split
    · exact .ended rfl (h.covered.shuns (c.abandon_shuns goods w))
    · exact .pending h.covered h.call_pays
  | ready outcome => exact h
  | panicked text => exact h

theorem beginTimed {limit : Duration} {name : String} (h : Keeps bucket goods r) :
    Keeps bucket goods (Call.beginTimed limit name r) := by
  obtain ⟨poll, w⟩ := r
  cases poll with
  | pending c =>
    have hslept := h.covered.shuns (.sleep goods w limit)
    simp only [Call.beginTimed]
    split
    · next hsleep =>
      rw [hsleep] at hslept
      exact .pending hslept h.call_pays
    · next w' hsleep =>
      rw [hsleep] at hslept
      exact .ended rfl (hslept.shuns (c.abandon_shuns goods w'))
  | ready outcome => exact h
  | panicked text => exact h

theorem afterAttempt {policy : Retry.Policy} {op : Operation} {arg : Json} {left : Nat}
    {delay : Duration} {again : Duration → World → Poll × World} (hop : op.PaysFor bucket goods)
    (hagain : ∀ delay w, Covered bucket goods 0 w → Keeps bucket goods (again delay w))
    (h : Keeps bucket goods r) :
    Keeps bucket goods (Call.afterAttempt policy op arg left delay again r) := by
  obtain ⟨poll, w⟩ := r
  match poll with
  | .pending c => exact .pending h.covered ⟨hop, h.call_pays⟩
  | .ready (.ok value) => exact h
  | .ready (.error failure) =>
    simp only [Call.afterAttempt]
    split
    -- Pausing spends no token: the next attempt starts as covered as this one did.
    · cases left with
      | zero => exact .ended rfl h.covered
      | succ left =>
        have hslept := h.covered.shuns (.sleep goods w delay)
        dsimp only
        split
        · next hsleep =>
          rw [hsleep] at hslept
          exact .pending hslept hop
        · next hsleep =>
          rw [hsleep] at hslept
          exact hagain _ _ hslept
    · exact .ended rfl h.covered
  | .panicked text => exact h

theorem attempts {policy : Retry.Policy} {op : Operation} {arg : Json}
    {start : World → Poll × World} (hop : op.PaysFor bucket goods)
    (hstart : ∀ w, Covered bucket goods 0 w → Keeps bucket goods (start w)) (left : Nat)
    (delay : Duration) (w : World) (h : Covered bucket goods 0 w) :
    Keeps bucket goods (Call.attempts policy op arg start left delay w) := by
  -- The induction is on the attempts that are left, since each may be followed by the next.
  induction left generalizing delay w with
  | zero => exact afterAttempt hop (fun _ => hstart) (hstart w h)
  | succ left ih => exact afterAttempt hop ih (hstart w h)

theorem afterFilling {cache : ComponentId} {key : String} {ttl : Nat}
    (h : Keeps bucket goods r) : Keeps bucket goods (Call.afterFilling cache key ttl r) := by
  obtain ⟨poll, w⟩ := r
  match poll with
  | .pending c => exact .pending h.covered h.call_pays
  | .ready (.ok value) => exact .ended rfl (h.covered.shuns (.writeCache ..))
  | .ready (.error failure) => exact h
  | .panicked text => exact h

/-- A source that was paid for, or that is another one, is invoked. -/
theorem source {id : ComponentId} {task : TaskId} {arg : Json}
    (h : Covered bucket goods 0 (w.invoke id arg).2) :
    Keeps bucket goods ((Operation.source id).start task arg w) := by
  have hover (ending : Ending) {w : World} (h : Covered bucket goods 0 w) :
      Keeps bucket goods (ending.poll arg, w) := .ended (by cases ending <;> rfl) h
  simp only [Operation.start]
  split
  · exact hover _ h
  · next pause _ =>
    have hslept := h.shuns (.sleep goods _ pause)
    split
    · next hsleep =>
      rw [hsleep] at hslept
      exact .pending hslept trivial
    · next hsleep =>
      rw [hsleep] at hslept
      exact hover _ hslept

end Keeps

variable {bucket goods : ComponentId}

/-- **Starting an operation that pays keeps the world covered.** -/
theorem start_keeps (op : Operation) (task : TaskId) (arg : Json) {w : World}
    (hop : op.PaysFor bucket goods) (h : Covered bucket goods 0 w) :
    Keeps bucket goods (op.start task arg w) := by
  induction op generalizing arg w with
  | source id => exact .source (h.shuns (.invoke w hop arg))
  | guarded inner breaker ih =>
    have hentered := h.shuns (.enter goods w breaker)
    simp only [Operation.start]
    split
    · next hadm =>
      rw [hadm] at hentered
      exact .ended rfl hentered
    · next hadm =>
      rw [hadm] at hentered
      exact (ih arg hop hentered).afterGuarded
  | withFallback inner breaker fallback ih ihf =>
    have hentered := h.shuns (.enter goods w breaker)
    simp only [Operation.start]
    split
    · next hadm =>
      rw [hadm] at hentered
      exact ihf arg hop.2 hentered
    · next hadm =>
      rw [hadm] at hentered
      exact (ih arg hop.1 hentered).afterPrimary hop.2 fun w hw => ihf arg hop.2 hw
  | limited inner limiter ih =>
    have hasked := h.shuns (.askSlot goods w limiter task)
    simp only [Operation.start]
    split
    · next hanswer =>
      rw [hanswer] at hasked
      exact (ih arg hop hasked).afterHolding
    · next hanswer =>
      rw [hanswer] at hasked
      exact .pending hasked hop
    · next hanswer =>
      rw [hanswer] at hasked
      exact .ended rfl hasked
  | rateLimited inner other ih =>
    have hasked := h.shuns (.askToken goods w other task)
    simp only [Operation.start]
    split
    · next hanswer =>
      rw [hanswer] at hasked
      -- Either the layer is any other one, or the token is spent on the goods at once.
      rcases hop with hop | ⟨rfl, rfl⟩
      · exact ih arg hop hasked
      · exact .source ((h.buy hanswer).invoke arg)
    · next hanswer =>
      rw [hanswer] at hasked
      exact .pending hasked hop
    · next hanswer =>
      rw [hanswer] at hasked
      exact .ended rfl hasked
  | timed inner limit name ih => exact (ih arg hop h).beginTimed
  | retrying inner policy ih =>
    have hinner : inner.PaysFor bucket goods := hop
    exact .attempts hinner (fun w hw => ih arg hinner hw) _ _ w h
  | cached inner cache keyOf ttl ih =>
    have hread := h.shuns (.readCache goods w cache (keyOf arg))
    simp only [Operation.start]
    split
    · next hfound =>
      rw [hfound] at hread
      exact .ended rfl hread
    · next hfound =>
      rw [hfound] at hread
      exact (ih arg hop hread).afterFilling

/-- **Running a blocked call on keeps the world covered.** -/
theorem resume_keeps (c : Call) (task : TaskId) {w : World} (hc : c.PaysFor bucket goods)
    (h : Covered bucket goods 0 w) : Keeps bucket goods (c.resume task w) := by
  have hstart {op : Operation} (arg : Json) (hop : op.PaysFor bucket goods) (w : World)
      (hw : Covered bucket goods 0 w) : Keeps bucket goods (op.start task arg w) :=
    start_keeps op task arg hop hw
  induction c with
  | working timer ending arg =>
    simp only [Call.resume]
    split
    · exact .ended (by cases ending <;> rfl) h
    · exact .pending h hc
  | guarded breaker probe inner ih => exact (ih hc).afterGuarded
  | withFallback breaker probe fallback arg inner ih =>
    exact (ih hc.2).afterPrimary hc.1 (hstart arg hc.1)
  | awaitingSlot limiter ticket inner arg =>
    simp only [Call.resume]
    split
    · next hpick => exact (hstart arg hc _ (h.shuns (.pickUpSlot goods hpick))).afterHolding
    · exact .pending h hc
  | holdingSlot limiter inner ih => exact (ih hc).afterHolding
  | awaitingToken other ticket inner arg =>
    simp only [Call.resume]
    split
    · next hpick =>
      rcases hc with hinner | ⟨rfl, rfl⟩
      · exact hstart arg hinner _ (h.shuns (.pickUpToken goods hpick))
      · exact .source ((h.collect hpick).invoke arg)
    · exact .ended rfl h
    · exact .pending h hc
  | timed timer limit name inner ih => exact (ih hc).afterTimed
  | attempting policy left delay op arg inner ih =>
    exact (ih hc.2).afterAttempt hc.1
      fun delay => .attempts hc.1 (hstart arg hc.1) (left - 1) delay
  | pausing policy left delay op arg timer =>
    simp only [Call.resume]
    split
    · exact .attempts hc (hstart arg hc) left delay w h
    · exact .pending h hc
  | filling cache key ttl inner ih => exact (ih hc).afterFilling

/-! ### Trade -/

/-- What goes on in a world from the moment at which a bucket is full, while nobody has invoked
the goods: calls of operations that pay are started, resumed by whichever task and taken apart
whenever that is, and between any two of their turns whatever else may happen that does not invoke
the goods. Trade keeps the calls that have not ended. -/
inductive Trade (bucket goods : ComponentId) : World → List Call → Prop
  | opens {sc : Scene} {c : Component Config Bucket} (h : sc.Reachable)
      (hc : sc.world.buckets.get? bucket = some c)
      (hfull : c.state = full c.config sc.world.now) (hnone : sc.world.invoked goods = 0) :
      Trade bucket goods sc.world []
  | act {w w' : World} {calls : List Call} (hact : w.Acts w')
      (hgoods : w'.invoked goods = w.invoked goods) :
      Trade bucket goods w calls → Trade bucket goods w' calls
  | start {w : World} {calls : List Call} {op : Operation} (task : TaskId) (arg : Json)
      (hop : op.PaysFor bucket goods) :
      Trade bucket goods w calls →
        Trade bucket goods (op.start task arg w).2 ((op.start task arg w).1.calls ++ calls)
  | resume {w : World} {before after : List Call} {c : Call} (task : TaskId) :
      Trade bucket goods w (before ++ c :: after) →
        Trade bucket goods (c.resume task w).2 (before ++ (c.resume task w).1.calls ++ after)
  | abandon {w : World} {before after : List Call} {c : Call} :
      Trade bucket goods w (before ++ c :: after) →
        Trade bucket goods (c.abandon w) (before ++ after)

/-- **Trade keeps the world covered**, and every call in it pays. -/
theorem Trade.covered {w : World} {calls : List Call} (h : Trade bucket goods w calls) :
    Covered bucket goods 0 w ∧ ∀ c ∈ calls, c.PaysFor bucket goods := by
  induction h with
  | @opens sc c h hc hfull hnone =>
    have haccount : Accounts bucket sc.world [] := ⟨c, sc.world.now, [], hc, by rw [hfull]; rfl⟩
    exact ⟨⟨h.bucketsNumbered, [], haccount, hnone.le⟩, by simp⟩
  | act hact hgoods _ ih => exact ⟨ih.1.act hact hgoods, ih.2⟩
  | @start w calls op task arg hop _ ih =>
    obtain ⟨hcovered, hpays⟩ := start_keeps op task arg hop ih.1
    exact ⟨hcovered, List.forall_mem_append.mpr ⟨hpays, ih.2⟩⟩
  | @resume w before after c task _ ih =>
    obtain ⟨hbefore, hrest⟩ := List.forall_mem_append.mp ih.2
    obtain ⟨hc, hafter⟩ := List.forall_mem_cons.mp hrest
    obtain ⟨hcovered, hpays⟩ := resume_keeps c task hc ih.1
    exact ⟨hcovered, List.forall_mem_append.mpr
      ⟨List.forall_mem_append.mpr ⟨hbefore, hpays⟩, hafter⟩⟩
  | @abandon w before after c _ ih =>
    obtain ⟨hbefore, hrest⟩ := List.forall_mem_append.mp ih.2
    exact ⟨ih.1.shuns (c.abandon_shuns goods w),
      List.forall_mem_append.mpr ⟨hbefore, (List.forall_mem_cons.mp hrest).2⟩⟩

end Bucket

end Resilience
