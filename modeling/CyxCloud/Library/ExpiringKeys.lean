import Mathlib.Data.Option.Basic

/-!
# Keys that expire

One key of a store whose values may come with the time from which they are gone.  A value that is
gone is not found any more and is taken for absent by every operation.
-/

namespace CyxCloud.Library

/-- A key of a store: absent, or a value with the time from which it is gone, if any. -/
structure ExpiringKey (α : Type*) where
  entry : Option (α × Option Nat)
  deriving DecidableEq, Repr

namespace ExpiringKey

variable {α : Type*}

/-- A key without a value. -/
def absent : ExpiringKey α := ⟨none⟩

/-- A value that is gone from some time on. -/
def lapsing (value : α) (lapses : Nat) : ExpiringKey α := ⟨some (value, some lapses)⟩

/-- A value that stays. -/
def staying (value : α) : ExpiringKey α := ⟨some (value, none)⟩

variable (key : ExpiringKey α) (now : Nat)

/-- The value found at some time. -/
def get : Option α :=
  match key.entry with
  | some (value, some lapses) => if now < lapses then some value else none
  | some (value, none) => some value
  | none => none

/-- Let the value be gone from some time on, if there is one. -/
def expireAt (lapses : Nat) : ExpiringKey α × Bool :=
  match key.get now with
  | some value => (lapsing value lapses, true)
  | none => (key, false)

/-- Change the value; the time at which it is gone remains, and a new value stays. -/
def modify (change : Option α → α) : ExpiringKey α :=
  match key.get now, key.entry with
  | some value, some (_, lapses) => ⟨some (change (some value), lapses)⟩
  | _, _ => staying (change none)

/-! ## What is found -/

@[simp]
theorem get_absent (now : Nat) : (absent : ExpiringKey α).get now = none := rfl

@[simp]
theorem get_staying (value : α) (now : Nat) : (staying value).get now = some value := rfl

theorem get_lapsing (value : α) (lapses now : Nat) :
    (lapsing value lapses).get now = if now < lapses then some value else none := rfl

@[simp]
theorem get_lapsing_eq_some_iff {value found : α} {lapses now : Nat} :
    (lapsing value lapses).get now = some found ↔ now < lapses ∧ value = found := by
  rw [get_lapsing]
  split <;> rename_i early <;> simp [early]

variable {key now}

/-- What is found later was there before. -/
theorem get_earlier {later : Nat} {value : α} (found : key.get later = some value)
    (past : now ≤ later) : key.get now = some value := by
  unfold get at found ⊢
  split at found
  · split at found
    · rw [if_pos (by omega)]
      exact found
    · exact nomatch found
  · exact found
  · exact nomatch found

theorem get_later {later : Nat} (nothing : key.get now = none) (past : now ≤ later) :
    key.get later = none := by
  by_contra found
  obtain ⟨value, found⟩ := Option.ne_none_iff_exists'.mp found
  exact nomatch nothing.symm.trans (get_earlier found past)

theorem expireAt_of_get {value : α} (found : key.get now = some value) (lapses : Nat) :
    key.expireAt now lapses = (lapsing value lapses, true) := by
  rw [expireAt, found]

theorem expireAt_of_absent (nothing : key.get now = none) (lapses : Nat) :
    key.expireAt now lapses = (key, false) := by
  rw [expireAt, nothing]

theorem modify_of_absent (nothing : key.get now = none) (change : Option α → α) :
    key.modify now change = staying (change none) := by
  rw [modify, nothing]

theorem modify_lapsing {lapses : Nat} (early : now < lapses) (value : α)
    (change : Option α → α) :
    (lapsing value lapses).modify now change = lapsing (change (some value)) lapses := by
  rw [modify, get_lapsing, if_pos early]
  rfl

/-- A value that is found stays or lapses later. -/
theorem eq_of_get {value : α} (found : key.get now = some value) :
    key = staying value ∨ ∃ lapses, now < lapses ∧ key = lapsing value lapses := by
  obtain ⟨entry⟩ := key
  rcases entry with _ | ⟨other, _ | lapses⟩
  · exact nomatch found
  · cases found
    exact .inl rfl
  · obtain ⟨early, rfl⟩ := get_lapsing_eq_some_iff.mp found
    exact .inr ⟨lapses, early, rfl⟩

end ExpiringKey

end CyxCloud.Library
