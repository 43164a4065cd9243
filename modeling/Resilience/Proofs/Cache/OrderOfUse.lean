import Resilience.Proofs.Cache.Recency
import Mathlib.Data.List.Induction

/-!
# The key that was touched longest ago goes first

A tracker answers like a list of keys without repeats, whatever is done with it
(`Recency.Tracks.changes`): a touch takes the key out of the list and puts it at the end, a removal
takes it out, an eviction takes the head and says which key that was, and nothing is left after a
clearing. So the keys stand in the order in which they were last touched (`Recency.rising_keys`),
and evictions one after the other bring them out in that order, each once, and then nothing more
(`Recency.changes_evictions`).

A touch draws one tick, and nothing else draws any, so all ticks are below the number of touches
that there were. A clearing does not start them again.
-/

namespace Resilience

namespace Cache

namespace Recency

/-- Something that is done with a tracker. -/
inductive Change where
  | touch (key : String)
  | remove (key : String)
  | evict
  | clear
deriving DecidableEq, Repr

namespace Change

/-- What a tracker says to a change, which is the key that it evicts, and what it becomes. -/
def onTracker : Change → Recency → Option String × Recency
  | touch key, r => (none, r.touch key)
  | remove key, r => (none, r.remove key)
  | evict, r => r.evictOldest
  | clear, r => (none, r.clear)

/-- The same of a list of keys. -/
def onKeys : Change → List String → Option String × List String
  | touch key, keys => (none, (keys.filter fun k => k ≠ key) ++ [key])
  | remove key, keys => (none, keys.filter fun k => k ≠ key)
  | evict, keys => (keys.head?, keys.tail)
  | clear, _ => (none, [])

/-- The change touches a key, and so draws a tick. -/
def isTouch : Change → Bool
  | touch _ => true
  | _ => false

end Change

/-- What is said to changes made one after the other, and what they lead to. -/
def changes {σ : Type} (change : Change → σ → Option String × σ) :
    List Change → σ → List (Option String) × σ
  | [], s => ([], s)
  | c :: rest, s =>
    let (evicted?, s) := change c s
    let (more, s) := changes change rest s
    (evicted? :: more, s)

/-- When a key was last touched: as which of the changes, counted from one, or zero if it never
was. -/
def lastTouch (key : String) (done : List Change) : Nat :=
  done.length - done.reverse.idxOf (.touch key)

theorem changes_append {σ : Type} (change : Change → σ → Option String × σ)
    (done more : List Change) (s : σ) : changes change (done ++ more) s =
      ((changes change done s).1 ++ (changes change more (changes change done s).2).1,
        (changes change more (changes change done s).2).2) := by
  induction done generalizing s with
  | nil => rfl
  | cons c rest ih => simp only [List.cons_append, changes, ih]

/-! ### Trackers and lists -/

variable {r : Recency} {keys : List String}

/-- **A tracker answers a change as its list does**, and stands for the new list then. -/
theorem Tracks.change (h : Tracks r keys) (c : Change) :
    (c.onTracker r).1 = (c.onKeys keys).1 ∧ Tracks (c.onTracker r).2 (c.onKeys keys).2 := by
  cases c with
  | touch key => exact ⟨rfl, h.touch key⟩
  | remove key => exact ⟨rfl, h.remove key⟩
  | evict => exact h.evictOldest_eq
  | clear => exact ⟨rfl, tracks_clear r⟩

/-- **So it does whatever is done with it.** -/
theorem Tracks.changes (h : Tracks r keys) (done : List Change) :
    (changes Change.onTracker done r).1 = (changes Change.onKeys done keys).1 ∧
      Tracks (changes Change.onTracker done r).2 (changes Change.onKeys done keys).2 := by
  induction done generalizing r keys with
  | nil => exact ⟨rfl, h⟩
  | cons c rest ih =>
    obtain ⟨hanswer, hnext⟩ := h.change c
    obtain ⟨hrest, hlast⟩ := ih hnext
    exact ⟨congrArg₂ List.cons hanswer hrest, hlast⟩

/-- Evictions take the keys from the front, and find nothing once there are none. -/
theorem changes_evictions (n : Nat) (keys : List String) :
    changes Change.onKeys (List.replicate n .evict) keys =
      ((List.range n).map fun i => keys[i]?, keys.drop n) := by
  induction n generalizing keys with
  | zero => rfl
  | succ n ih =>
    have hhead : keys.head? = keys[0]? := List.head?_eq_getElem?
    have htail (i : Nat) : keys.tail[i]? = keys[i + 1]? := List.getElem?_tail
    rw [List.replicate_succ, Recency.changes]
    simp only [Change.onKeys, ih, List.range_succ_eq_map, List.map_cons, List.map_map,
      Function.comp_def, htail, hhead, List.drop_tail]

/-! ### The order of the last touches -/

theorem lastTouch_le (key : String) (done : List Change) : lastTouch key done ≤ done.length :=
  Nat.sub_le ..

theorem lastTouch_concat_self (key : String) (done : List Change) :
    lastTouch key (done ++ [.touch key]) = done.length + 1 := by
  simp [lastTouch]

/-- A change that does not touch a key leaves it where it was. -/
theorem lastTouch_concat_of_ne {key : String} {c : Change} (h : c ≠ .touch key)
    (done : List Change) : lastTouch key (done ++ [c]) = lastTouch key done := by
  simp [lastTouch, List.idxOf_cons_ne _ h]

/-- **The keys stand in the order of their last touches.** -/
theorem rising_keys (done : List Change) :
    (changes Change.onKeys done []).2.Pairwise fun a b => lastTouch a done < lastTouch b done := by
  induction done using List.reverseRecOn with
  | nil => exact .nil
  | append_singleton done c ih =>
    rw [changes_append]
    generalize (changes Change.onKeys done []).2 = keys at ih
    -- Keys that are not touched keep their order.
    have hkeep {kept : List String} (hsub : kept.Sublist keys)
        (hne : ∀ key ∈ kept, c ≠ .touch key) :
        kept.Pairwise fun a b => lastTouch a (done ++ [c]) < lastTouch b (done ++ [c]) := by
      refine (ih.sublist hsub).imp_of_mem fun ha hb hlt => ?_
      rwa [lastTouch_concat_of_ne (hne _ ha), lastTouch_concat_of_ne (hne _ hb)]
    cases c with
    | touch key =>
      have hrest : ∀ k ∈ keys.filter fun k => k ≠ key, Change.touch key ≠ .touch k :=
        fun k hk heq => of_decide_eq_true (List.mem_filter.mp hk).2 (Change.touch.inj heq).symm
      refine List.pairwise_append.mpr ⟨hkeep List.filter_sublist hrest,
        List.pairwise_singleton .., fun a ha b hb => ?_⟩
      rw [List.mem_singleton.mp hb, lastTouch_concat_self, lastTouch_concat_of_ne (hrest a ha)]
      exact Nat.lt_succ_of_le (lastTouch_le a done)
    | remove key => exact hkeep List.filter_sublist fun _ _ => by simp
    | evict => exact hkeep (List.tail_sublist keys) fun _ _ => by simp
    | clear => exact .nil

/-! ### Ticks -/

theorem nextTick_change (c : Change) (r : Recency) :
    (c.onTracker r).2.nextTick = r.nextTick + if c.isTouch then 1 else 0 := by
  cases c with
  | touch => rfl
  | clear => rfl
  | remove key =>
    simp only [Change.onTracker, Recency.remove]
    split <;> rfl
  | evict =>
    simp only [Change.onTracker, evictOldest]
    split <;> rfl

/-- **Every touch draws one tick.** -/
theorem nextTick_changes (done : List Change) (r : Recency) :
    (changes Change.onTracker done r).2.nextTick = r.nextTick + done.countP Change.isTouch := by
  induction done generalizing r with
  | nil => rfl
  | cons c rest ih =>
    rw [changes, List.countP_cons]
    simp only [ih, nextTick_change]
    omega

/-- **The key that was touched longest ago goes first.** Whatever was done with a tracker, it said
what a list of keys says to which the same was done. The list has no repeats, and its keys stand in
the order of their last touches. The tracker has those keys and no others, as many as there are, and
its oldest one is the head of the list. Evicted one after the other, the keys come out in their
order, each once, and after the last one there is none to evict. The ticks that were drawn are as
many as there were touches, so fewer than `2 ^ 64` touches never draw a tick beyond 64 bits. -/
theorem longest_ago_first (done : List Change) :
    let r := (changes Change.onTracker done {}).2
    let keys := (changes Change.onKeys done []).2
    (changes Change.onTracker done {}).1 = (changes Change.onKeys done []).1 ∧
      keys.Nodup ∧ (keys.Pairwise fun a b => lastTouch a done < lastTouch b done) ∧
      (∀ key, r.contains key = true ↔ key ∈ keys) ∧ r.size = keys.length ∧
      r.oldest? = keys.head? ∧ r.evictOldest.1 = keys.head? ∧
      (r.evictOldest.1 = none ↔ r.size = 0) ∧
      (∀ n, let drained := changes Change.onTracker (List.replicate n .evict) r
        drained.1 = (List.range n).map (fun i => keys[i]?) ∧
          drained.2.size = keys.length - n ∧
          ∀ key, drained.2.contains key = true ↔ key ∈ keys.drop n) ∧
      r.nextTick = done.countP Change.isTouch ∧ ∀ p ∈ r.order, p.1 < r.nextTick := by
  intro r keys
  -- All of it is read off the list that the tracker stands for.
  obtain ⟨hanswers, htracks⟩ := tracks_empty.changes done
  change Tracks r keys at htracks
  have hevict : r.evictOldest.1 = keys.head? := htracks.evictOldest_eq.1
  refine ⟨hanswers, htracks.distinct, rising_keys done, fun key => htracks.contains_iff,
    htracks.size_eq, htracks.oldest?_eq, hevict, ?_, fun n => ?_,
    (nextTick_changes done {}).trans (Nat.zero_add _), htracks.fresh⟩
  · rw [hevict, htracks.size_eq, List.head?_eq_none_iff, List.length_eq_zero_iff]
  · obtain ⟨hdrained, hleft⟩ := htracks.changes (List.replicate n .evict)
    rw [changes_evictions] at hdrained hleft
    refine ⟨hdrained, ?_, fun key => hleft.contains_iff⟩
    rw [hleft.size_eq, List.length_drop]

/-- Three keys are touched, the first of them again, and the second is removed. -/
def touchedAgain : List Change :=
  [.touch "a", .touch "b", .touch "c", .touch "a", .remove "b"]

/-- The first key goes after the third, and the second does not come back. -/
theorem longest_ago_first_touched_again :
    let r := (changes Change.onTracker touchedAgain {}).2
    (2, "c") ∈ r.order ∧ 2 < r.nextTick ∧ r.oldest? = some "c" ∧ r.nextTick = 4 ∧
      (changes Change.onTracker (List.replicate 3 .evict) r).1 = [some "c", some "a", none] := by
  intro r
  have horder : r.order = [(2, "c"), (3, "a")] := by decide +kernel
  have hmem : (2, "c") ∈ r.order := by simp [horder]
  obtain ⟨-, -, -, -, -, holdest, -, -, hdrained, hdrawn, hbelow⟩ := longest_ago_first touchedAgain
  exact ⟨hmem, hbelow _ hmem, holdest.trans (by decide +kernel), hdrawn.trans (by decide),
    (hdrained 3).1.trans (by decide +kernel)⟩

end Recency

end Cache

end Resilience
