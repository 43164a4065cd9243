import Resilience.Session.Command
import Resilience.Proofs.Cache.Representation
import Mathlib.Algebra.BigOperators.Group.List.Basic
import Mathlib.Algebra.Order.BigOperators.Group.List
import Mathlib.Algebra.Order.Ring.Nat

/-!
# What the counters of a store tell

A store counts hits, misses and evictions over its whole life, and each entry counts its reads from
the time that it was set. The two go their own ways: an entry takes its count along when it goes or
is overwritten, and the store keeps its own. So what they count is told by the **exchanges** of a
run, that is, by the requests with the answers that they got: `readsSince` starts again whenever a
key is set, the counts of the store go through all exchanges.

`Store.ReadTimes` is what a step has to keep about the reads of one key (`ReadTimes.respond`). That
all of them together are no more than the hits is a law of exchanges alone, since a read counts for
one key only (`sum_readsSince_le`).
-/

namespace Resilience

theorem Table.total_eq_sum {κ α : Type} (f : α → Nat) (t : Table κ α) :
    t.total f = (t.map fun p => f p.2).sum := by
  induction t with
  | nil => rfl
  | cons p rest ih => rw [total, ih, List.map_cons, List.sum_cons]

/-- To look at the statistics of a cache changes nothing. -/
theorem Session.perform_statistics (calendar : Diagnostics.Calendar)
    (name : String) (session : Session) :
    (session.perform calendar (.statistics name)).2 = session := by
  simp only [Session.perform, Session.withCache, Session.withName]
  cases session.caches.get? name with
  | none => rfl
  | some id =>
    dsimp only
    cases hcache : session.world.caches.get? id with
    | none => rfl
    | some c => simp only [Table.set_of_get? hcache]

namespace Cache

variable {α : Type}

/-! ### Exchanges -/

/-- A request and its answer. -/
abbrev Exchange (α : Type) := Request α × Answer α

/-- Whether a read found a value. -/
def Exchange.found : Exchange α → Bool
  | (.get _, .read (some _)) => true
  | _ => false

/-- Whether a value was set for which a key had to go. -/
def Exchange.evicted : Exchange α → Bool
  | (.set .., .stored (some _)) => true
  | _ => false

/-- Whether a good key is read. -/
def Request.reads : Request α → Bool
  | get key => (keyFault? key).isNone
  | _ => false

/-- How often a key was read with success since it was last set, after one more exchange. -/
def readsAfter (key : String) (n : Nat) : Exchange α → Nat
  | (.set other _ _, .stored _) => if other = key then 0 else n
  | (.get other, .read (some _)) => if other = key then n + 1 else n
  | _ => n

/-- How often a key was read with success since it was last set. -/
def readsSince (key : String) (log : List (Exchange α)) : Nat := log.foldl (readsAfter key) 0

theorem readsSince_concat (key : String) (log : List (Exchange α)) (x : Exchange α) :
    readsSince key (log ++ [x]) = readsAfter key (readsSince key log) x := by
  rw [readsSince, List.foldl_append]
  rfl

/-- An exchange adds a read only if it is a read that found a value. -/
theorem readsAfter_le (key : String) (n : Nat) {x : Exchange α} (h : x.found = false) :
    readsAfter key n x ≤ n := by
  unfold readsAfter
  split
  · split
    · exact Nat.zero_le n
    · exact Nat.le_refl n
  · cases h
  · exact Nat.le_refl n

/-- An exchange adds one read at most, and to one key only. -/
theorem sum_readsAfter_le {keys : List String} (hkeys : keys.Nodup) (n : String → Nat)
    (x : Exchange α) : (keys.map fun key => readsAfter key (n key) x).sum ≤
      (keys.map n).sum + if x.found then 1 else 0 := by
  by_cases hfound : x.found = true
  · obtain ⟨other, value, rfl⟩ : ∃ other value, x = (.get other, .read (some value)) := by
      unfold Exchange.found at hfound
      split at hfound
      · exact ⟨_, _, rfl⟩
      · cases hfound
    have hsplit (key : String) : readsAfter key (n key) (.get other, .read (some value)) =
        n key + if key = other then 1 else 0 := by
      simp only [readsAfter, eq_comm]
      split <;> rfl
    have hone : (keys.map fun key => if key = other then 1 else 0).sum = keys.count other := by
      induction keys with
      | nil => rfl
      | cons key rest ih =>
        rw [List.map_cons, List.sum_cons, ih (List.nodup_cons.mp hkeys).2, List.count_cons,
          Nat.add_comm]
        simp only [beq_iff_eq]
    simp only [hsplit, List.sum_map_add, hone, hfound, if_true]
    exact Nat.add_le_add_left (List.nodup_iff_count_le_one.mp hkeys other) _
  · have hnone : x.found = false := Bool.eq_false_iff.mpr hfound
    exact Nat.le_add_right_of_le (List.sum_le_sum fun key _ => readsAfter_le key (n key) hnone)

/-- **Reads of distinct keys are hits**, so there are no more of them. -/
theorem sum_readsSince_le {keys : List String} (hkeys : keys.Nodup) (log : List (Exchange α)) :
    (keys.map fun key => readsSince key log).sum ≤ log.countP Exchange.found := by
  induction log using List.reverseRecOn with
  | nil => simp [readsSince]
  | append_singleton log x ih =>
    simp only [readsSince_concat, List.countP_append, List.countP_singleton]
    exact (sum_readsAfter_le hkeys (fun key => readsSince key log) x).trans
      (Nat.add_le_add_right ih _)

namespace Store

/-- The exchanges of a run. -/
def exchanges : List (Instant × Request α) → Store α → List (Exchange α)
  | [], _ => []
  | (now, request) :: rest, s =>
    (request, (s.respond now request).1) :: exchanges rest (s.respond now request).2

theorem exchanges_concat (requests : List (Instant × Request α)) (now : Instant)
    (request : Request α) (s : Store α) : exchanges (requests ++ [(now, request)]) s =
      exchanges requests s ++ [(request, ((after Store.respond requests s).respond now request).1)]
      := by
  induction requests generalizing s with
  | nil => rfl
  | cons r rest ih => exact congrArg (_ :: ·) (ih _)

/-! ### The counters of the store -/

section Counters

variable (now : Instant) (s : Store α)

/-- **What a request counts** is told by the request and its answer. -/
theorem counts_respond (request : Request α) :
    (s.respond now request).1.hits =
        (if Exchange.found (request, (s.respond now request).1) then 1 else 0) ∧
      (s.respond now request).1.hits + (s.respond now request).1.misses =
        (if request.reads then 1 else 0) ∧
      (s.respond now request).1.evictions =
        (if Exchange.evicted (request, (s.respond now request).1) then 1 else 0) := by
  cases request with
  | set key value ttl =>
    have hanswer : (s.respond now (.set key value ttl)).1 =
        (match (s.set now key value ttl).1 with
          | .ok evicted? => .stored evicted?
          | .error fault => .refused fault) := by
      simp only [Store.respond]
      rcases s.set now key value ttl with ⟨fault | evicted?, s'⟩ <;> rfl
    rw [hanswer]
    rcases (s.set now key value ttl).1 with fault | ⟨_ | oldest⟩ <;> exact ⟨rfl, rfl, rfl⟩
  | get key =>
    cases hkey : keyFault? key with
    | some fault =>
      have hfault : Request.fault? (.get key : Request α) = some fault := hkey
      simp [respond_of_fault hfault, Answer.hits, Answer.misses, Answer.evictions, Exchange.found,
        Exchange.evicted, Request.reads, hkey]
    | none =>
      -- A good key can always be read, so the answer is what was found.
      obtain ⟨found?, s', hget⟩ : ∃ found? s', s.get now key = (.ok found?, s') := by
        simp only [Store.get, hkey]
        split_ifs
        · exact ⟨_, _, rfl⟩
        · cases s.entries.get? key <;> exact ⟨_, _, rfl⟩
      have hanswer : (s.respond now (.get key)).1 = .read found? := by
        simp only [Store.respond, hget]
      rw [hanswer]
      cases found? <;> simp [Answer.hits, Answer.misses, Answer.evictions, Exchange.found,
        Exchange.evicted, Request.reads, hkey]
  | has key =>
    simp only [Store.respond]
    rcases s.has now key with ⟨fault | b, s'⟩ <;> exact ⟨rfl, rfl, rfl⟩
  | delete key =>
    simp only [Store.respond]
    rcases s.delete key with ⟨fault | b, s'⟩ <;> exact ⟨rfl, rfl, rfl⟩
  | clear | sweep => exact ⟨rfl, rfl, rfl⟩

/-- The counters of a store go on by what a request counts. -/
theorem counters_respond (request : Request α) :
    (s.respond now request).2.hits = s.hits + (s.respond now request).1.hits ∧
      (s.respond now request).2.misses = s.misses + (s.respond now request).1.misses ∧
      (s.respond now request).2.evictions = s.evictions + (s.respond now request).1.evictions := by
  obtain ⟨entries, recency, heq⟩ := respond_eq now request s
  rw [heq]
  exact ⟨rfl, rfl, rfl⟩

end Counters

/-- **The counters of a store count its exchanges.** -/
theorem counts_after (requests : List (Instant × Request α)) (s : Store α) :
    (after Store.respond requests s).hits =
        s.hits + (exchanges requests s).countP Exchange.found ∧
      (after Store.respond requests s).hits + (after Store.respond requests s).misses =
        s.hits + s.misses + requests.countP (fun r => r.2.reads) ∧
      (after Store.respond requests s).evictions =
        s.evictions + (exchanges requests s).countP Exchange.evicted := by
  induction requests using List.reverseRecOn with
  | nil => exact ⟨rfl, rfl, rfl⟩
  | append_singleton requests r ih =>
    obtain ⟨now, request⟩ := r
    obtain ⟨hhits, hreads, hevictions⟩ := ih
    obtain ⟨hhit, hread, hevicted⟩ := counts_respond now (after Store.respond requests s) request
    obtain ⟨hhits', hmisses', hevictions'⟩ :=
      counters_respond now (after Store.respond requests s) request
    rw [after_concat, exchanges_concat, List.countP_append, List.countP_append,
      List.countP_append, hhits', hmisses', hevictions']
    simp only [List.countP_singleton]
    omega

/-- **Only reads and values that are set are counted.** -/
theorem counters_of_not_counted {request : Request α} (h : request.counted = false)
    (now : Instant) (s : Store α) :
    (s.respond now request).2.hits = s.hits ∧ (s.respond now request).2.misses = s.misses ∧
      (s.respond now request).2.evictions = s.evictions := by
  obtain ⟨hhit, hread, hevicted⟩ := counts_respond now s request
  obtain ⟨hhits, hmisses, hevictions⟩ := counters_respond now s request
  have hnone : Exchange.found (request, (s.respond now request).1) = false ∧
      request.reads = false ∧
      Exchange.evicted (request, (s.respond now request).1) = false := by
    cases request with
    | set | get => cases h
    | has | delete | clear | sweep => exact ⟨rfl, rfl, rfl⟩
  obtain ⟨hfound, hreads, hevicts⟩ := hnone
  rw [hfound] at hhit
  rw [hreads] at hread
  rw [hevicts] at hevicted
  rw [hhits, hmisses, hevictions]
  simp only [Bool.false_eq_true, if_false] at hhit hread hevicted
  omega

/-! ### The reads of each key -/

/-- The entry of a key, if there is one, has been read this many times. -/
def ReadTimes (key : String) (n : Nat) (s : Store α) : Prop :=
  ∀ e, s.entries.get? key = some e → e.accesses = n

namespace ReadTimes

variable {key : String} {n : Nat} {s s' : Store α}

theorem of_eq (h : ReadTimes key n s) (heq : s'.entries = s.entries) : ReadTimes key n s' :=
  fun e he => h e (heq ▸ he)

theorem erase (h : ReadTimes key n s) {gone : String}
    (heq : s'.entries = s.entries.erase gone) : ReadTimes key n s' := by
  intro e he
  rw [heq, Table.get?_erase] at he
  split at he
  · cases he
  · exact h e he

theorem drop (h : ReadTimes key n s) (gone : String) : ReadTimes key n (s.drop gone) := h.erase rfl

theorem sweep (h : ReadTimes key n s) (now : Instant) : ReadTimes key n (s.sweep now).2 := by
  unfold Store.sweep
  generalize s.staleKeys now = gone
  induction gone generalizing s with
  | nil => exact h
  | cons key rest ih => exact ih (h.drop key)

theorem makeRoom (h : ReadTimes key n s) : ReadTimes key n s.makeRoom.2 := by
  unfold Store.makeRoom
  split
  · next oldest recency _ =>
    have hout : ({ s with
        entries := s.entries.erase oldest
        recency := recency
        evictions := s.evictions + 1 } : Store α).entries = s.entries.erase oldest := rfl
    exact h.erase hout
  · exact h

/-- An entry is put in its place: a new one, or one that was read. -/
theorem set (h : ReadTimes key n s) {other : String} {e : Entry α}
    (heq : s'.entries = s.entries.set other e) :
    ReadTimes key (if other = key then e.accesses else n) s' := by
  intro e' he'
  rw [heq, Table.get?_set] at he'
  split at he'
  · next hkey => rw [if_pos hkey, ← Option.some.inj he']
  · next hkey => rw [if_neg hkey]; exact h e' he'

theorem respond_set (h : ReadTimes key n s) (now : Instant) (other : String) (value : α)
    (ttl : Nat) : ReadTimes key
      (readsAfter key n (.set other value ttl, (s.respond now (.set other value ttl)).1))
      (s.respond now (.set other value ttl)).2 := by
  have hput {t : Store α} (ht : ReadTimes key n t) :
      ReadTimes key (if other = key then 0 else n) (t.put now other value ttl) :=
    ht.set (e := .create now value ttl) rfl
  simp only [Store.respond, Store.set]
  cases keyFault? other with
  | some fault => exact h
  | none =>
    dsimp only
    split_ifs
    · have hroom := h.makeRoom
      rcases hmade : s.makeRoom with ⟨fault | evicted, s'⟩
      · rw [hmade] at hroom
        exact hroom
      · rw [hmade] at hroom
        exact hput hroom
    · exact hput h

theorem respond_get (h : ReadTimes key n s) (now : Instant) (other : String) : ReadTimes key
    (readsAfter key n (.get other, (s.respond now (.get other)).1))
    (s.respond now (.get other)).2 := by
  simp only [Store.respond, Store.get]
  cases keyFault? other with
  | some fault => exact h
  | none =>
    dsimp only
    split_ifs
    · exact h.drop other
    · cases he : s.entries.get? other with
      | none => exact h.of_eq rfl
      | some e =>
        -- The entry that was read has one read more than before.
        have hset : ReadTimes key (if other = key then (e.touch now).accesses else n) { s with
            entries := s.entries.set other (e.touch now)
            recency := s.recency.touch other
            hits := s.hits + 1 } := h.set rfl
        have hcount : (if other = key then (e.touch now).accesses else n) =
            if other = key then n + 1 else n := by
          split
          · next hkey => rw [← h e (hkey ▸ he)]; rfl
          · rfl
        rw [hcount] at hset
        exact hset

/-- **A request keeps the count of the reads of a key**, and what it adds is told by its answer. -/
theorem respond (h : ReadTimes key n s) (now : Instant) (request : Request α) :
    ReadTimes key (readsAfter key n (request, (s.respond now request).1))
      (s.respond now request).2 := by
  cases request with
  | set other value ttl => exact h.respond_set now other value ttl
  | get other => exact h.respond_get now other
  -- A check, a deletion or a sweep only drops keys, and of a key that is not there nothing is said.
  | has other =>
    simp only [Store.respond, Store.has]
    cases keyFault? other with
    | some fault => exact h
    | none =>
      dsimp only
      split_ifs
      · exact h.drop other
      · exact h
  | delete other =>
    simp only [Store.respond, Store.delete]
    cases keyFault? other with
    | some fault => exact h
    | none =>
      dsimp only
      split_ifs
      · exact h.drop other
      · exact h
  | clear =>
    intro e he
    cases he
  | sweep => exact h.sweep now

/-- **An entry counts the reads of its key since it was set.** -/
theorem after (key : String) (maxKeys defaultTtl : Nat)
    (requests : List (Instant × Request α)) :
    ReadTimes key (readsSince key (exchanges requests (empty maxKeys defaultTtl)))
      (Cache.after Store.respond requests (empty maxKeys defaultTtl)) := by
  induction requests using List.reverseRecOn with
  | nil =>
    intro e he
    cases he
  | append_singleton requests r ih =>
    rw [after_concat, exchanges_concat, readsSince_concat]
    exact ih.respond r.1 r.2

end ReadTimes

/-- The reads that the entries have counted, key by key. -/
theorem total_accesses_eq {s : Store α} (hnodup : (Table.keys s.entries).Nodup) {n : String → Nat}
    (h : ∀ key, ReadTimes key (n key) s) :
    s.entries.total (·.accesses) = ((Table.keys s.entries).map n).sum := by
  rw [Table.total_eq_sum, Table.keys, List.map_map]
  refine congrArg List.sum (List.map_congr_left fun p hp => ?_)
  exact h p.1 p.2 ((Table.get?_eq_some_iff hnodup).mpr hp)

/-! ### What is shown -/

theorem length_staleKeys_eq (now : Instant) (s : Store α) :
    (s.staleKeys now).length = s.entries.countP fun p => p.2.expired now := by
  rw [staleKeys, List.length_map, List.countP_eq_length_filter]

/-- The entries that are shown as live are those that have not expired. -/
theorem activeKeys_eq_countP (now : Instant) (s : Store α) :
    (s.statistics now).activeKeys = s.entries.countP fun p => ¬ p.2.expired now := by
  have hsplit := List.length_eq_countP_add_countP (fun p : String × Entry α => p.2.expired now)
    (l := s.entries)
  simp only [statistics, size, length_staleKeys_eq]
  omega

/-- **The statistics of a store account for its whole life.** After any requests, and at any time,
the keys that are shown are those that are stored, and they split into the live and the expired
ones. The hits are the reads that found a value; hits and misses together are the reads of good
keys; the evictions are the values for which a key had to go. What the entries count is, for each
key that is stored, how often it was read with success since it was last set; together that is
never more than the hits. Checks, deletions, sweeps, and clearing the store leave hits, misses and
evictions as they are; and to look changes nothing. -/
theorem counters_exact (maxKeys defaultTtl : Nat) (requests : List (Instant × Request α))
    (now : Instant) :
    let s := after Store.respond requests (empty maxKeys defaultTtl)
    let log := exchanges requests (empty maxKeys defaultTtl)
    let seen := s.statistics now
    (seen.totalKeys = s.size ∧ seen.totalKeys = seen.activeKeys + seen.expiredKeys ∧
      seen.activeKeys = s.entries.countP (fun p => ¬ p.2.expired now) ∧
      seen.expiredKeys = s.entries.countP fun p => p.2.expired now) ∧
    (seen.hits = log.countP Exchange.found ∧
      seen.hits + seen.misses = requests.countP (fun r => r.2.reads) ∧
      seen.evictions = log.countP Exchange.evicted) ∧
    ((∀ key e, s.entries.get? key = some e → e.accesses = readsSince key log) ∧
      (Table.keys s.entries).Nodup ∧
      seen.totalAccesses = ((Table.keys s.entries).map (readsSince · log)).sum ∧
      seen.totalAccesses ≤ seen.hits) ∧
    (∀ later request, request.counted = false →
      let seen' := (s.respond later request).2.statistics now
      seen'.hits = seen.hits ∧ seen'.misses = seen.misses ∧ seen'.evictions = seen.evictions) ∧
    ∀ calendar name (session : Session),
      (session.perform calendar (.statistics name)).2 = session := by
  intro s log seen
  obtain ⟨hhits, hreads, hevictions⟩ := counts_after requests (empty maxKeys defaultTtl : Store α)
  obtain ⟨l, -, hshows, -⟩ := (Tidied.reached maxKeys defaultTtl now requests).lineups
  have htimes (key : String) : ReadTimes key (readsSince key log) s :=
    .after key maxKeys defaultTtl requests
  have htotal : seen.totalAccesses = ((Table.keys s.entries).map (readsSince · log)).sum :=
    total_accesses_eq hshows.nodup htimes
  have hfound : seen.hits = log.countP Exchange.found := hhits.trans (Nat.zero_add _)
  -- Expired keys are among all keys, so taking them away leaves the live ones.
  have hsplit : (s.staleKeys now).length ≤ s.size := by
    rw [length_staleKeys_eq]
    exact List.countP_le_length
  refine ⟨⟨rfl, (Nat.sub_add_cancel hsplit).symm, activeKeys_eq_countP now s,
      length_staleKeys_eq now s⟩,
    ⟨hfound, hreads.trans (Nat.zero_add _), hevictions.trans (Nat.zero_add _)⟩,
    ⟨fun key e he => htimes key e he, hshows.nodup, htotal, ?_⟩,
    fun later request hcounted => counters_of_not_counted hcounted later s,
    Session.perform_statistics⟩
  rw [htotal, hfound]
  exact sum_readsSince_le hshows.nodup log

/-- A key is read, set again and read, a bad key comes in between, another key goes for a third
one, and that one expires before it is read. -/
def counted : List (Instant × Request Nat) :=
  [(0, .set "a" 1 9), (1, .set "b" 2 9), (2, .get "a"), (3, .get "a"), (4, .set "a" 3 9),
    (5, .get "a"), (6, .get ""), (7, .set "c" 4 1), (8, .get "b"), (2000, .get "c")]

/-- Of three hits one is counted by the entry, and deleting the entry keeps the hits. -/
theorem counters_exact_counted :
    let s := after Store.respond counted (empty 2 300)
    let seen := s.statistics 2000
    seen = ⟨1, 1, 0, 1, 3, 2, 1⟩ ∧ seen.totalKeys = seen.activeKeys + seen.expiredKeys ∧
      (exchanges counted (empty 2 300)).countP Exchange.found = 3 ∧
      counted.countP (fun r => r.2.reads) = 5 ∧
      readsSince "a" (exchanges counted (empty 2 300)) = 1 ∧
      seen.totalAccesses ≤ seen.hits ∧
      Request.counted (.delete "a" : Request Nat) = false ∧
      ((s.respond 2001 (.delete "a")).2.statistics 2000).hits = 3 := by
  intro s seen
  obtain ⟨⟨-, hsplit, -, -⟩, ⟨hhits, hreads, -⟩, ⟨-, -, -, hle⟩, hsame, -⟩ :=
    counters_exact 2 300 counted 2000
  have hseen : seen = ⟨1, 1, 0, 1, 3, 2, 1⟩ := by decide +kernel
  have hhits' : seen.hits = 3 := congrArg Statistics.hits hseen
  have hreads' : seen.hits + seen.misses = 5 :=
    congrArg (fun shown => shown.hits + shown.misses) hseen
  obtain ⟨hkept, -, -⟩ := hsame 2001 (.delete "a") rfl
  exact ⟨hseen, hsplit, hhits.symm.trans hhits', hreads.symm.trans hreads', by decide +kernel,
    hle, rfl, hkept.trans hhits'⟩

end Store

end Cache

end Resilience
