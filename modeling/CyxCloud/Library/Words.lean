import Mathlib.Algebra.Group.Nat.Defs
import Mathlib.Data.Nat.Basic

/-!
# Words

Arithmetic that checks for overflow, and casts that do not.
-/

namespace CyxCloud.Library

/-- A value, unless it overflows a word of some bits. -/
def checked (bits value : Nat) : Option Nat :=
  if value < 2 ^ bits then some value else none

/-- A difference, unless it is negative. -/
def checkedSub (left right : Nat) : Option Nat :=
  if right ≤ left then some (left - right) else none

/-- A value cast to a word of some bits. -/
def narrowed (bits value : Nat) : Nat := value % 2 ^ bits

/-- A value, or the largest one of a word of some bits. -/
def saturated (bits value : Nat) : Nat := min value (2 ^ bits - 1)

variable {bits value left right : Nat}

theorem checked_of_lt (fits : value < 2 ^ bits) : checked bits value = some value :=
  if_pos fits

theorem checked_eq_none_iff : checked bits value = none ↔ 2 ^ bits ≤ value := by
  simp [checked]

/-- A sum that fits has summands that fit. -/
theorem checked_bind_add (offset : Nat) :
    (checked bits value >>= fun kept => checked bits (offset + kept)) =
      checked bits (offset + value) := by
  by_cases fits : value < 2 ^ bits
  · rw [checked_of_lt fits]
    rfl
  · rw [checked_eq_none_iff.mpr (Nat.le_of_not_lt fits),
      checked_eq_none_iff.mpr (Nat.le_trans (Nat.le_of_not_lt fits) (Nat.le_add_left _ _))]
    rfl

theorem checkedSub_of_le (ordered : right ≤ left) :
    checkedSub left right = some (left - right) :=
  if_pos ordered

theorem checkedSub_eq_none_iff : checkedSub left right = none ↔ left < right := by
  simp [checkedSub]

theorem narrowed_lt : narrowed bits value < 2 ^ bits :=
  Nat.mod_lt value (Nat.two_pow_pos bits)

theorem narrowed_of_lt (fits : value < 2 ^ bits) : narrowed bits value = value :=
  Nat.mod_eq_of_lt fits

theorem saturated_of_lt (fits : value < 2 ^ bits) : saturated bits value = value :=
  min_eq_left (Nat.le_sub_one_of_lt fits)

section Narrowing

variable {wide larger : Nat}

theorem dvd_last_block (narrower : bits ≤ wide) : 2 ^ bits ∣ 2 ^ wide - 2 ^ bits :=
  Nat.dvd_sub (Nat.pow_dvd_pow 2 narrower) (Nat.dvd_refl _)

/-- The last block of a wide word starts with a value that is cast to zero. -/
theorem narrowed_last_block (narrower : bits ≤ wide) : narrowed bits (2 ^ wide - 2 ^ bits) = 0 :=
  Nat.mod_eq_zero_of_dvd (dvd_last_block narrower)

/-- Within the last block the cast gives the offset. -/
theorem narrowed_of_last_block (narrower : bits ≤ wide) (last : 2 ^ wide - 2 ^ bits ≤ value)
    (fits : value < 2 ^ wide) : narrowed bits value = value - (2 ^ wide - 2 ^ bits) := by
  have short : value - (2 ^ wide - 2 ^ bits) < 2 ^ bits := by omega
  obtain ⟨blocks, start⟩ := dvd_last_block narrower
  rw [start] at last short ⊢
  rw [narrowed, ← Nat.sub_mul_mod last, Nat.mod_eq_of_lt short]

/-- Within the last block the cast keeps the order. -/
theorem narrowed_le_narrowed (narrower : bits ≤ wide) (last : 2 ^ wide - 2 ^ bits ≤ value)
    (ordered : value ≤ larger) (fits : larger < 2 ^ wide) :
    narrowed bits value ≤ narrowed bits larger := by
  rw [narrowed_of_last_block narrower last (Nat.lt_of_le_of_lt ordered fits),
    narrowed_of_last_block narrower (Nat.le_trans last ordered) fits]
  exact Nat.sub_le_sub_right ordered _

end Narrowing

end CyxCloud.Library
