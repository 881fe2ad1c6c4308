import Mathlib.Algebra.BigOperators.Group.List.Basic
import Mathlib.Algebra.Order.BigOperators.Group.List
import Mathlib.Algebra.Order.Ring.Nat
import Mathlib.Data.Nat.Basic

/-!
# Shares of a pool

A pool is split in proportion to weights, and each share is rounded down.  The shares and what the
rounding leaves of them make up the pool, scaled by how much the weights exceed the total.
-/

namespace CyxCloud.Library

/-- A share of a pool in proportion to a weight, rounded down; nothing of a total of zero. -/
def share (pool total weight : Nat) : Nat := pool * weight / total

/-- What the rounding leaves of a share, in parts of the total. -/
def shareRemainder (pool total weight : Nat) : Nat := pool * weight % total

section Shares

variable (pool total : Nat) (weights : List Nat)

/-- The shares of all weights. -/
def sumShares : Nat := (weights.map (share pool total)).sum

/-- What the rounding leaves of all shares. -/
def sumRemainders : Nat := (weights.map (shareRemainder pool total)).sum

theorem sumShares_mul_add_sumRemainders :
    sumShares pool total weights * total + sumRemainders pool total weights =
      pool * weights.sum := by
  unfold sumShares sumRemainders
  induction weights with
  | nil => simp
  | cons weight weights induction =>
      have own : share pool total weight * total + shareRemainder pool total weight =
          pool * weight := Nat.div_add_mod' (pool * weight) total
      simp only [List.map_cons, List.sum_cons, Nat.add_mul, Nat.mul_add]
      omega

variable {pool total weights}

theorem sumShares_of_no_total : sumShares pool 0 weights = 0 := by
  have nothing : ∀ weight ∈ weights, share pool 0 weight = 0 := fun _ _ => Nat.div_zero _
  rw [sumShares, List.map_congr_left nothing]
  simp

/-- A pool of as much as the total gives every weight itself. -/
theorem sumShares_self (positive : 0 < total) : sumShares total total weights = weights.sum := by
  have own : ∀ weight ∈ weights, share total total weight = weight :=
    fun weight _ => Nat.mul_div_cancel_left weight positive
  rw [sumShares, List.map_congr_left own, List.map_id']

/-- Each remainder is less than the total. -/
theorem sumRemainders_add_length_le (positive : 0 < total) :
    sumRemainders pool total weights + weights.length ≤ weights.length * total := by
  unfold sumRemainders
  induction weights with
  | nil => exact Nat.zero_le _
  | cons weight weights induction =>
      have own : shareRemainder pool total weight < total := Nat.mod_lt _ positive
      simp only [List.map_cons, List.sum_cons, List.length_cons, Nat.add_mul, Nat.one_mul]
      omega

/-- The shares are within the pool exactly if the remainders make up for the weights beyond the
total. -/
theorem sumShares_le_iff (positive : 0 < total) :
    sumShares pool total weights ≤ pool ↔
      pool * weights.sum ≤ pool * total + sumRemainders pool total weights := by
  have balance := sumShares_mul_add_sumRemainders pool total weights
  rw [← Nat.mul_le_mul_right_iff positive]
  omega

/-- The shares of a total that the weights do not exceed are within the pool. -/
theorem sumShares_le (positive : 0 < total) (within : weights.sum ≤ total) :
    sumShares pool total weights ≤ pool := by
  rw [sumShares_le_iff positive]
  exact (Nat.mul_le_mul_left pool within).trans (Nat.le_add_right _ _)

/-- The shares of weights that make up the total leave less of the pool than there are weights. -/
theorem lt_sumShares_add_length (positive : 0 < weights.sum) :
    pool < sumShares pool weights.sum weights + weights.length := by
  have some_weight : 0 < weights.length := by
    refine List.length_pos_iff.mpr ?_
    rintro rfl
    exact Nat.lt_irrefl 0 positive
  have balance := sumShares_mul_add_sumRemainders pool weights.sum weights
  have remainders := @sumRemainders_add_length_le pool weights.sum weights positive
  refine Nat.lt_of_mul_lt_mul_right (a := weights.sum) ?_
  rw [Nat.add_mul]
  omega

theorem share_le_share {pool total weight heavier : Nat} (ordered : weight ≤ heavier) :
    share pool total weight ≤ share pool total heavier :=
  Nat.div_le_div_right (Nat.mul_le_mul_left pool ordered)

theorem share_le_sumShares {weight : Nat} (member : weight ∈ weights) :
    share pool total weight ≤ sumShares pool total weights :=
  List.le_sum_of_mem (List.mem_map_of_mem member)

end Shares

end CyxCloud.Library
