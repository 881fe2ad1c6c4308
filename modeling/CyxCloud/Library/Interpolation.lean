import Mathlib.LinearAlgebra.Lagrange

/-!
# Interpolation codes

A message of `k` field elements is the polynomial of degree below `k` with these values at the
first `k` points; its codeword lists the values at all points.  The code is systematic, and any
`k` positions of a codeword determine the rest.
-/

namespace CyxCloud.Library

open Polynomial

variable {F : Type*} [Field F]

/-- Value at a position of the codeword of a message of length `k`. -/
noncomputable def codeSymbol (point : ℕ → F) (k : ℕ) (message : ℕ → F) (position : ℕ) : F :=
  (Lagrange.interpolate (Finset.range k) point message).eval (point position)

section

variable {point : ℕ → F} {length k : ℕ}
  (distinct : Set.InjOn point (Finset.range length)) (k_le : k ≤ length)
include distinct k_le

omit [Field F] in
private theorem distinct_message : Set.InjOn point (Finset.range k) :=
  distinct.mono (Finset.coe_subset.mpr (Finset.range_mono k_le))

/-- The code is systematic. -/
theorem codeSymbol_message (message : ℕ → F) {position : ℕ} (bound : position < k) :
    codeSymbol point k message position = message position :=
  Lagrange.eval_interpolate_at_node message (distinct_message distinct k_le)
    (Finset.mem_range.mpr bound)

/-- The codeword of the values of a polynomial of degree below `k` lists its values. -/
theorem codeSymbol_eval {polynomial : F[X]} (degree_lt : polynomial.degree < k)
    (position : ℕ) :
    codeSymbol point k (fun i => polynomial.eval (point i)) position =
      polynomial.eval (point position) := by
  rw [codeSymbol, ← Lagrange.eq_interpolate (distinct_message distinct k_le)
    (by simpa using degree_lt)]

/-- Any `k` positions of a codeword determine all of it. -/
theorem interpolate_codeSymbol (message : ℕ → F) {positions : Finset ℕ}
    (inside : positions ⊆ Finset.range length) (enough : k ≤ positions.card) (position : ℕ) :
    (Lagrange.interpolate positions point (codeSymbol point k message)).eval (point position) =
      codeSymbol point k message position := by
  have degree_lt :
      (Lagrange.interpolate (Finset.range k) point message).degree < positions.card :=
    lt_of_lt_of_le
      (Lagrange.degree_interpolate_lt message (distinct_message distinct k_le))
      (by simpa using enough)
  have unique := Lagrange.eq_interpolate_of_eval_eq (codeSymbol point k message)
    (distinct.mono (Finset.coe_subset.mpr inside)) degree_lt fun _ _ => rfl
  rw [← unique]
  rfl

end

end CyxCloud.Library
