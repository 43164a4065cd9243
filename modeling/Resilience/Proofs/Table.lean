import Resilience.Table
import Mathlib.Data.List.Perm.Basic
import Mathlib.Data.List.Nodup

/-!
# Tables with distinct keys

A table whose keys are distinct is, up to order, a set of entries: a look-up finds exactly the
entry that is there (`get?_eq_some_iff`), and setting a key puts one entry in the place of the
entry that the key had (`perm_set`). What is added up over a table, or counted in it, is
therefore read off its entries in any order.
-/

namespace Resilience

namespace Table

variable {κ α : Type} [DecidableEq κ]

/-! ### Keys -/

omit [DecidableEq κ] in
theorem mem_keys_of_mem {t : Table κ α} {p : κ × α} (h : p ∈ t) : p.1 ∈ keys t :=
  List.mem_map_of_mem h

theorem has_iff_mem_keys {key : κ} {t : Table κ α} : has key t = true ↔ key ∈ keys t := by
  rw [has, Option.isSome_iff_ne_none, ne_eq, get?_eq_none_iff, not_not]

theorem has_set_of_has {key other : κ} {a : α} {t : Table κ α} (h : has other t = true) :
    has other (set key a t) = true := by
  rw [has, get?_set]
  split
  · rfl
  · exact h

/-- A key that is there may get another value. -/
theorem has_set_of_get? {key other : κ} {a b : α} {t : Table κ α} (h : get? key t = some b) :
    has other (set key a t) = has other t := by
  rw [has, has, get?_set]
  split
  · next heq => rw [← heq, h]; rfl
  · rfl

@[simp]
theorem has_modify (key other : κ) (f : α → α) (t : Table κ α) :
    has other (modify key f t) = has other t := by
  rw [has, has, get?_modify]
  split
  · exact Option.isSome_map
  · rfl

@[simp]
theorem keys_erase (key : κ) (t : Table κ α) :
    keys (erase key t) = (keys t).filter fun k => k ≠ key := by
  simp only [keys, erase, List.filter_map]
  rfl

theorem erase_of_not_mem {key : κ} {t : Table κ α} (h : key ∉ keys t) : erase key t = t := by
  refine List.filter_eq_self.mpr fun p hp => ?_
  have hp' : p.1 ∈ keys t := mem_keys_of_mem hp
  simpa using ne_of_mem_of_not_mem hp' h

theorem erase_cons_self {key : κ} {t : Table κ α} (h : key ∉ keys t) (a : α) :
    erase key ((key, a) :: t) = t := by
  rw [← erase_of_not_mem h]
  simp [erase]

theorem erase_cons_of_ne {k key : κ} (h : k ≠ key) (a : α) (t : Table κ α) :
    erase key ((k, a) :: t) = (k, a) :: erase key t := by
  simp [erase, h]

theorem set_of_not_mem {key : κ} {t : Table κ α} (h : key ∉ keys t) (a : α) :
    set key a t = t ++ [(key, a)] := by
  induction t with
  | nil => rfl
  | cons p rest ih =>
    obtain ⟨k, b⟩ := p
    simp only [keys, List.map_cons, List.mem_cons, not_or] at h
    simp only [set, if_neg (Ne.symm h.1), List.cons_append]
    rw [ih h.2]

/-- Giving a key the value that it has changes nothing. -/
theorem set_of_get? {key : κ} {a : α} {t : Table κ α} (h : get? key t = some a) :
    set key a t = t := by
  induction t with
  | nil => cases h
  | cons p rest ih =>
    obtain ⟨k, b⟩ := p
    by_cases hk : k = key
    · subst hk
      simp only [get?, if_true, Option.some.injEq] at h
      simp only [set, if_true, h]
    · simp only [get?, if_neg hk] at h
      simp only [set, if_neg hk, ih h]

/-- Changing the value of a key is giving it the value that comes of the one that it has. -/
theorem modify_of_get? {key : κ} {a : α} {f : α → α} {t : Table κ α} (h : get? key t = some a) :
    modify key f t = set key (f a) t := by
  induction t with
  | nil => cases h
  | cons p rest ih =>
    obtain ⟨k, b⟩ := p
    by_cases hk : k = key
    · subst hk
      simp only [get?, if_true, Option.some.injEq] at h
      simp only [modify, set, if_true, h]
    · simp only [get?, if_neg hk] at h
      simp only [modify, set, if_neg hk, ih h]

theorem modify_of_get?_none {key : κ} {f : α → α} {t : Table κ α} (h : get? key t = none) :
    modify key f t = t := by
  induction t with
  | nil => rfl
  | cons p rest ih =>
    obtain ⟨k, b⟩ := p
    by_cases hk : k = key
    · simp only [get?, if_pos hk] at h
      cases h
    · simp only [get?, if_neg hk] at h
      simp only [modify, if_neg hk, ih h]

/-! ### Entries -/

/-- A look-up finds exactly the entry that is there. -/
theorem get?_eq_some_iff {key : κ} {a : α} {t : Table κ α} (h : (keys t).Nodup) :
    get? key t = some a ↔ (key, a) ∈ t := by
  induction t with
  | nil => simp
  | cons p rest ih =>
    obtain ⟨k, b⟩ := p
    simp only [keys, List.map_cons, List.nodup_cons] at h
    by_cases hk : k = key
    · subst hk
      have hrest : (k, a) ∉ rest := fun hm => h.1 (mem_keys_of_mem hm)
      simp [get?, hrest, eq_comm]
    · simp [get?, hk, Ne.symm hk, ih h.2]

/-- The entry of a key beside the entries of the other keys. -/
theorem perm_of_get? {key : κ} {a : α} {t : Table κ α} (h : (keys t).Nodup)
    (ha : get? key t = some a) : t.Perm ((key, a) :: erase key t) := by
  induction t with
  | nil => simp at ha
  | cons p rest ih =>
    obtain ⟨k, b⟩ := p
    simp only [keys, List.map_cons, List.nodup_cons] at h
    by_cases hk : k = key
    · subst hk
      have hb : b = a := by simpa [get?] using ha
      rw [erase_cons_self h.1, hb]
    · have hperm := ih h.2 (by simpa [get?, hk] using ha)
      rw [erase_cons_of_ne hk]
      exact (hperm.cons (k, b)).trans (List.Perm.swap ..)

/-- Setting a key puts one entry in the place of the entry that the key had. -/
theorem perm_set {t : Table κ α} (h : (keys t).Nodup) (key : κ) (a : α) :
    (set key a t).Perm ((key, a) :: erase key t) := by
  induction t with
  | nil => rfl
  | cons p rest ih =>
    obtain ⟨k, b⟩ := p
    simp only [keys, List.map_cons, List.nodup_cons] at h
    by_cases hk : k = key
    · subst hk
      rw [erase_cons_self h.1, set, if_pos rfl]
    · rw [erase_cons_of_ne hk, set, if_neg hk]
      exact ((ih h.2).cons (k, b)).trans (List.Perm.swap ..)

/-- What a change of one value leaves alone may be read off the table as it was. -/
theorem map_modify {β : Type} {key : κ} {f : α → α} {g : κ × α → β}
    (h : ∀ k a, g (k, f a) = g (k, a)) (t : Table κ α) : (modify key f t).map g = t.map g := by
  induction t with
  | nil => rfl
  | cons p rest ih =>
    obtain ⟨k, a⟩ := p
    simp only [modify]
    split
    · simp only [List.map_cons, h]
    · simp only [List.map_cons, ih]

/-! ### Values -/

theorem mem_of_get? {key : κ} {a : α} {t : Table κ α} (h : get? key t = some a) :
    (key, a) ∈ t := by
  induction t with
  | nil => cases h
  | cons p rest ih =>
    obtain ⟨k, b⟩ := p
    simp only [get?] at h
    split at h
    · next heq => exact heq ▸ Option.some.inj h ▸ List.mem_cons_self
    · exact List.mem_cons_of_mem _ (ih h)

theorem mem_values_of_get? {key : κ} {a : α} {t : Table κ α} (h : get? key t = some a) :
    a ∈ values t := List.mem_map_of_mem (mem_of_get? h)

theorem mem_values_set {key : κ} {a b : α} {t : Table κ α} (h : b ∈ values (set key a t)) :
    b = a ∨ b ∈ values t := by
  induction t with
  | nil => exact .inl (List.mem_singleton.mp h)
  | cons p rest ih =>
    simp only [set] at h
    split at h
    · exact (List.mem_cons.mp h).imp_right (List.mem_cons_of_mem _)
    · rcases List.mem_cons.mp h with rfl | hrest
      · exact .inr List.mem_cons_self
      · exact (ih hrest).imp_right (List.mem_cons_of_mem _)

theorem mem_values_erase {key : κ} {a : α} {t : Table κ α} (h : a ∈ values (erase key t)) :
    a ∈ values t := by
  obtain ⟨p, hp, rfl⟩ := List.mem_map.mp h
  exact List.mem_map_of_mem (List.mem_of_mem_filter hp)

theorem mem_values_modify {key : κ} {f : α → α} {a : α} {t : Table κ α}
    (h : a ∈ values (modify key f t)) : ∃ b ∈ values t, a = b ∨ a = f b := by
  induction t with
  | nil => cases h
  | cons p rest ih =>
    obtain ⟨k, c⟩ := p
    simp only [modify] at h
    split at h
    · rcases List.mem_cons.mp h with rfl | hrest
      · exact ⟨c, List.mem_cons_self, .inr rfl⟩
      · exact ⟨a, List.mem_cons_of_mem _ hrest, .inl rfl⟩
    · rcases List.mem_cons.mp h with rfl | hrest
      · exact ⟨a, List.mem_cons_self, .inl rfl⟩
      · obtain ⟨b, hb, heq⟩ := ih hrest
        exact ⟨b, List.mem_cons_of_mem _ hb, heq⟩

/-! ### Distinct keys stay distinct -/

theorem nodup_keys_erase {t : Table κ α} (h : (keys t).Nodup) (key : κ) :
    (keys (erase key t)).Nodup := by
  rw [keys_erase]
  exact h.filter _

theorem nodup_keys_set {t : Table κ α} (h : (keys t).Nodup) (key : κ) (a : α) :
    (keys (set key a t)).Nodup := by
  have hperm : (keys (set key a t)).Perm (key :: keys (erase key t)) :=
    (perm_set h key a).map Prod.fst
  rw [hperm.nodup_iff, List.nodup_cons]
  exact ⟨by simp, nodup_keys_erase h key⟩

/-! ### Sums -/

/-- A value that is set takes the place of the one that its key had in the sum. -/
theorem total_set (f : α → Nat) (key : κ) (a : α) (t : Table κ α) :
    total f (set key a t) + (get? key t).elim 0 f = total f t + f a := by
  induction t with
  | nil => simp [set, total]
  | cons p rest ih =>
    obtain ⟨k, b⟩ := p
    by_cases hk : k = key
    · simp only [set, get?, if_pos hk, total, Option.elim_some]
      omega
    · simp only [set, get?, if_neg hk, total, Nat.add_assoc, ih]

/-- A value that is removed goes out of the sum. -/
theorem total_erase_add_le (f : α → Nat) (key : κ) (t : Table κ α) :
    total f (erase key t) + (get? key t).elim 0 f ≤ total f t := by
  induction t with
  | nil => simp [erase, total]
  | cons p rest ih =>
    obtain ⟨k, b⟩ := p
    by_cases hk : k = key
    · subst hk
      simp only [erase, ne_eq, not_true_eq_false, decide_false, Bool.false_eq_true,
        not_false_eq_true, List.filter_cons_of_neg, get?, if_true, Option.elim_some, total] at ih ⊢
      omega
    · rw [erase_cons_of_ne hk, get?, if_neg hk]
      simp only [total]
      omega

/-- A change that makes no value greater makes the sum no greater. -/
theorem total_modify_le {f : α → Nat} {g : α → α} (h : ∀ a, f (g a) ≤ f a) (key : κ)
    (t : Table κ α) : total f (modify key g t) ≤ total f t := by
  induction t with
  | nil => exact Nat.le_refl _
  | cons p rest ih =>
    obtain ⟨k, b⟩ := p
    simp only [modify]
    split
    · exact Nat.add_le_add_right (h b) _
    · exact Nat.add_le_add_left ih _

end Table

end Resilience
