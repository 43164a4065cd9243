import Resilience.Proofs.Scene

/-!
# Where the entries of a cache come from

Only a write puts an entry into a cache. Reads, deletions, sweeps and the like take entries out or
count a read; they leave the value and the end of the entries that stay as they were
(`Store.Spares`). A read finds the value of an entry that has not expired, and a bad key neither
finds nor stores anything.
-/

namespace Resilience

namespace Cache

variable {α : Type}

namespace Store

/-- Every entry of the second store is one of the first, with its value and its end; it may have
been read meanwhile. -/
def Spares (s s' : Store α) : Prop :=
  ∀ key e', s'.entries.get? key = some e' →
    ∃ e, s.entries.get? key = some e ∧ e'.value = e.value ∧ e'.expires = e.expires

variable {s s' s'' : Store α}

theorem Spares.of_eq (h : s'.entries = s.entries) : s.Spares s' :=
  fun _ e' he' => ⟨e', h ▸ he', rfl, rfl⟩

theorem Spares.refl (s : Store α) : s.Spares s := .of_eq rfl

theorem Spares.trans (h : s.Spares s') (h' : s'.Spares s'') : s.Spares s'' := by
  intro key e'' he''
  obtain ⟨e', he', hvalue', hexpires'⟩ := h' key e'' he''
  obtain ⟨e, he, hvalue, hexpires⟩ := h key e' he'
  exact ⟨e, he, hvalue'.trans hvalue, hexpires'.trans hexpires⟩

/-- Entries are taken out. -/
theorem Spares.erase (gone : String) (h : s'.entries = s.entries.erase gone) : s.Spares s' := by
  intro key e' he'
  rw [h, Table.get?_erase] at he'
  split at he'
  · cases he'
  · exact ⟨e', he', rfl, rfl⟩

theorem spares_drop (key : String) (s : Store α) : s.Spares (s.drop key) := .erase key rfl

theorem spares_get (now : Instant) (key : String) (s : Store α) : s.Spares (s.get now key).2 := by
  unfold get
  split
  · exact .refl s
  · split
    · exact (spares_drop key s).trans (.of_eq rfl)
    · split
      · next e he =>
        -- The entry was read: that is counted, and nothing else about it changes.
        intro other e' he'
        dsimp only at he'
        rw [Table.get?_set] at he'
        split at he'
        · next heq =>
          obtain rfl := Option.some.inj he'
          exact ⟨e, heq ▸ he, rfl, rfl⟩
        · exact ⟨e', he', rfl, rfl⟩
      · exact .of_eq rfl

theorem spares_has (now : Instant) (key : String) (s : Store α) : s.Spares (s.has now key).2 := by
  unfold has
  split
  · exact .refl s
  · split
    · exact spares_drop key s
    · exact .refl s

theorem spares_delete (key : String) (s : Store α) : s.Spares (s.delete key).2 := by
  unfold delete
  split
  · exact .refl s
  · split
    · exact spares_drop key s
    · exact .refl s

theorem spares_clear (s : Store α) : s.Spares s.clear := by
  intro key e' he'
  cases he'

theorem spares_sweep (now : Instant) (s : Store α) : s.Spares (s.sweep now).2 := by
  unfold sweep
  generalize s.staleKeys now = gone
  induction gone generalizing s with
  | nil => exact .refl s
  | cons key rest ih => exact (spares_drop key s).trans (ih (s.drop key))

/-- **A sweep leaves no entry that has expired.** -/
theorem lt_expires_of_sweep {now : Instant} {key : String} {e : Entry α}
    (h : (s.sweep now).2.entries.get? key = some e) : now < e.expires := by
  -- Whatever is left after keys were dropped has none of these keys.
  have hkept (gone : List String) (s : Store α)
      (hleft : (gone.foldl (fun s key => s.drop key) s).entries.get? key = some e) :
      key ∉ gone ∧ s.entries.get? key = some e := by
    induction gone generalizing s with
    | nil => exact ⟨List.not_mem_nil, hleft⟩
    | cons first rest ih =>
      obtain ⟨hrest, hdropped⟩ := ih _ hleft
      have hdropped : (s.entries.erase first).get? key = some e := hdropped
      rw [Table.get?_erase] at hdropped
      split at hdropped
      · cases hdropped
      · next hne =>
        exact ⟨fun hmem => (List.mem_cons.mp hmem).elim (Ne.symm hne) hrest, hdropped⟩
  obtain ⟨hfresh, he⟩ := hkept _ _ h
  by_contra hexpired
  refine hfresh (List.mem_map.mpr ⟨(key, e), List.mem_filter.mpr ⟨Table.mem_of_get? he, ?_⟩, rfl⟩)
  exact decide_eq_true (Nat.le_of_not_lt hexpired)

theorem spares_makeRoom (s : Store α) : s.Spares s.makeRoom.2 := by
  unfold makeRoom
  split
  · next oldest _ _ => exact .erase oldest rfl
  · exact .refl s

/-- An entry is stored. -/
theorem get?_put {now : Instant} {key other : String} {value : α} {ttl : Nat} {e' : Entry α}
    (h : (s.put now key value ttl).entries.get? other = some e') :
    (other = key ∧ e' = .create now value ttl) ∨ s.entries.get? other = some e' := by
  simp only [put, Table.get?_set] at h
  split at h
  · next heq => exact .inl ⟨heq.symm, (Option.some.inj h).symm⟩
  · exact .inr h

/-- **A write is the only origin of an entry.** -/
theorem get?_set {now : Instant} {key other : String} {value : α} {ttl : Nat} {e' : Entry α}
    (h : (s.set now key value ttl).2.entries.get? other = some e') :
    (other = key ∧ e' = .create now value ttl) ∨
      ∃ e, s.entries.get? other = some e ∧ e'.value = e.value ∧ e'.expires = e.expires := by
  have hstay (h : s.entries.get? other = some e') : (other = key ∧ e' = .create now value ttl) ∨
      ∃ e, s.entries.get? other = some e ∧ e'.value = e.value ∧ e'.expires = e.expires :=
    .inr ⟨e', h, rfl, rfl⟩
  unfold set at h
  split at h
  · exact hstay h
  · split at h
    · have hroom := spares_makeRoom s
      split at h
      · next hmade =>
        rw [hmade] at hroom
        exact (get?_put h).imp_right (hroom other e')
      · next hmade =>
        rw [hmade] at hroom
        exact .inr (hroom other e' h)
    · exact (get?_put h).elim .inl hstay

/-- **A read finds a live entry.** -/
theorem get_eq_some {now : Instant} {key : String} {value : α}
    (h : (s.get now key).1 = .ok (some value)) : keyFault? key = none ∧
      ∃ e, s.entries.get? key = some e ∧ e.value = value ∧ now < e.expires := by
  unfold get at h
  split at h
  · cases h
  · next hgood =>
    refine ⟨hgood, ?_⟩
    split at h
    · cases h
    · next hlive =>
      split at h
      · next e he =>
        obtain rfl := Option.some.inj (Except.ok.inj h)
        exact ⟨e, he, rfl, by simpa [stale, he, Entry.expired] using hlive⟩
      · cases h

theorem get_of_fault {now : Instant} {key : String} {fault : Fault}
    (h : keyFault? key = some fault) (s : Store α) : s.get now key = (.error fault, s) := by
  simp [get, h]

theorem set_of_fault {now : Instant} {key : String} {fault : Fault}
    (h : keyFault? key = some fault) (value : α) (ttl : Nat) (s : Store α) :
    s.set now key value ttl = (.error fault, s) := by
  simp [set, h]

end Store

variable {c : Cache α}

theorem store_set (now : Instant) (key : String) (value : α) (ttl : Nat) (c : Cache α) :
    (c.set now key value ttl).2.store = (c.store.set now key value ttl).2 := by
  unfold set
  split <;> next heq => rw [heq]

theorem store_get (now : Instant) (key : String) (c : Cache α) :
    (c.get now key).2.store = (c.store.get now key).2 := by
  unfold get
  split <;> next heq => rw [heq]

theorem get_eq_some {now : Instant} {key : String} {value : α}
    (h : (c.get now key).1 = some value) : (c.store.get now key).1 = .ok (some value) := by
  unfold get at h
  split at h
  · next found store heq =>
    obtain rfl : found = some value := h
    rw [heq]
  · cases h

/-- **What the owner of a cache does puts no entry into it.** -/
theorem Handled.spares {now : Instant} {c c' : Cache Json} (h : Handled now c c') :
    c.store.Spares c'.store := by
  cases h with
  | get key => rw [store_get]; exact c.store.spares_get now key
  | has key =>
    have hhas := c.store.spares_has now key
    unfold Cache.has
    split <;> next heq => rw [heq] at hhas; exact hhas
  | delete key =>
    have hdelete := c.store.spares_delete key
    unfold Cache.delete
    split <;> next heq => rw [heq] at hdelete; exact hdelete
  | clear => exact c.store.spares_clear
  | sweep => exact c.store.spares_sweep now
  | shutDown | look => exact .refl c.store

end Cache

end Resilience
