/-!
# Tables

A `Table` keeps one value for each of finitely many keys, in the order in which the keys first
came. Setting a key that is there replaces its value in place; a new key goes to the end.
-/

namespace Resilience

/-- Values by key, in the order in which the keys came. -/
abbrev Table (κ α : Type) := List (κ × α)

namespace Table

variable {κ α : Type} [DecidableEq κ]

/-- The value of a key. -/
def get? (key : κ) : Table κ α → Option α
  | [] => none
  | (k, a) :: rest => if k = key then some a else get? key rest

/-- Gives a key a value. -/
def set (key : κ) (value : α) : Table κ α → Table κ α
  | [] => [(key, value)]
  | (k, a) :: rest => if k = key then (key, value) :: rest else (k, a) :: set key value rest

/-- Removes a key. -/
def erase (key : κ) (t : Table κ α) : Table κ α := t.filter fun p => p.1 ≠ key

/-- Whether a key has a value. -/
def has (key : κ) (t : Table κ α) : Bool := (get? key t).isSome

/-- Changes the value of a key, if it has one. -/
def modify (key : κ) (f : α → α) : Table κ α → Table κ α
  | [] => []
  | (k, a) :: rest => if k = key then (k, f a) :: rest else (k, a) :: modify key f rest

/-- The keys, in the order in which they came. -/
def keys (t : Table κ α) : List κ := t.map Prod.fst

/-- The values, in the order in which their keys came. -/
def values (t : Table κ α) : List α := t.map Prod.snd

/-- Adds up a number over the values. -/
def total (f : α → Nat) : Table κ α → Nat
  | [] => 0
  | (_, a) :: rest => f a + total f rest

/-! ### What a look-up sees -/

@[simp]
theorem get?_nil (key : κ) : get? key ([] : Table κ α) = none := rfl

theorem get?_set (key other : κ) (value : α) (t : Table κ α) :
    get? other (set key value t) = if key = other then some value else get? other t := by
  induction t with
  | nil => simp [set, get?]
  | cons p rest ih =>
    obtain ⟨k, a⟩ := p
    simp only [set]
    split
    · next h => subst h; by_cases ho : k = other <;> simp [get?, ho]
    · next h =>
      by_cases ho : k = other
      · subst ho; simp [get?, Ne.symm h]
      · simp [get?, ho, ih]

theorem get?_modify (key other : κ) (f : α → α) (t : Table κ α) :
    get? other (modify key f t) = if key = other then (get? other t).map f else get? other t := by
  induction t with
  | nil => simp [modify]
  | cons p rest ih =>
    obtain ⟨k, a⟩ := p
    simp only [modify]
    split
    · next h => subst h; by_cases ho : k = other <;> simp [get?, ho]
    · next h =>
      by_cases ho : k = other
      · subst ho; simp [get?, Ne.symm h]
      · simp [get?, ho, ih]

theorem get?_erase (key other : κ) (t : Table κ α) :
    get? other (erase key t) = if key = other then none else get? other t := by
  induction t with
  | nil => simp [erase]
  | cons p rest ih =>
    obtain ⟨k, a⟩ := p
    simp only [erase, List.filter_cons] at ih ⊢
    by_cases hk : k = key
    · subst hk
      by_cases ho : k = other <;> simp_all [get?]
    · by_cases ho : k = other
      · subst ho; simp [get?, hk, Ne.symm hk]
      · simpa [get?, hk, ho] using ih

@[simp]
theorem keys_modify (key : κ) (f : α → α) (t : Table κ α) : keys (modify key f t) = keys t := by
  induction t with
  | nil => rfl
  | cons p rest ih =>
    obtain ⟨k, a⟩ := p
    simp only [modify]
    split
    · rfl
    · simpa [keys] using ih

theorem get?_eq_none_iff (key : κ) (t : Table κ α) : get? key t = none ↔ key ∉ keys t := by
  induction t with
  | nil => simp [keys]
  | cons p rest ih =>
    obtain ⟨k, a⟩ := p
    by_cases hk : k = key
    · subst hk; simp [get?, keys]
    · simp [get?, keys, hk, Ne.symm hk] at ih ⊢
      exact ih

end Table

end Resilience
