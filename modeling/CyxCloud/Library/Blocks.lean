import Mathlib.Algebra.Order.BigOperators.Group.List
import Mathlib.Data.List.Basic
import Mathlib.Tactic.Ring

/-!
# Cutting a list into blocks

`blocks size items` is the sequence of consecutive blocks of `size` items, the last one possibly
shorter.  The two facts the callers need are that the blocks concatenate to the list and that a
list of uniform blocks is recovered from its concatenation.
-/

namespace CyxCloud.Library

variable {α : Type*}

/-- Quotient of `total` by `size`, rounded up. -/
def divCeil (total size : Nat) : Nat := (total + size - 1) / size

theorem divCeil_eq_add_one {total size : Nat} (size_positive : 0 < size)
    (total_positive : 0 < total) : divCeil total size = (total - 1) / size + 1 := by
  rw [divCeil, show total + size - 1 = total - 1 + size by omega,
    Nat.add_div_right _ size_positive]

theorem divCeil_positive {total size : Nat} (size_positive : 0 < size)
    (total_positive : 0 < total) : 0 < divCeil total size := by
  rw [divCeil_eq_add_one size_positive total_positive]
  exact Nat.succ_pos _

@[simp]
theorem divCeil_zero {size : Nat} : divCeil 0 size = 0 := by
  rcases Nat.eq_zero_or_pos size with rfl | size_positive
  · rfl
  · rw [divCeil]
    exact Nat.div_eq_of_lt (by omega)

/-- The rounded quotient is large enough. -/
theorem le_divCeil_mul (total : Nat) {size : Nat} (size_positive : 0 < size) :
    total ≤ divCeil total size * size := by
  rcases Nat.eq_zero_or_pos total with rfl | total_positive
  · omega
  · rw [divCeil_eq_add_one size_positive total_positive, Nat.add_mul, Nat.one_mul]
    have division := Nat.div_add_mod (total - 1) size
    have remainder := Nat.mod_lt (total - 1) size_positive
    rw [Nat.mul_comm] at division
    omega

/-- The rounded quotient is the least one that is large enough. -/
theorem pred_divCeil_mul_lt {total size : Nat} (size_positive : 0 < size)
    (total_positive : 0 < total) : (divCeil total size - 1) * size < total := by
  rw [divCeil_eq_add_one size_positive total_positive, Nat.add_sub_cancel]
  have bound := Nat.div_mul_le_self (total - 1) size
  omega

theorem divCeil_mul_self {count size : Nat} (size_positive : 0 < size) :
    divCeil (count * size) size = count := by
  rcases Nat.eq_zero_or_pos count with rfl | count_positive
  · simp
  · have enough := le_divCeil_mul (count * size) size_positive
    have least := pred_divCeil_mul_lt size_positive
      (Nat.mul_pos count_positive size_positive)
    have lower := Nat.le_of_mul_le_mul_right enough size_positive
    have upper := Nat.lt_of_mul_lt_mul_right least
    omega

/-- Consecutive blocks of `size` items; only the last one may be shorter. -/
def blocks (size : Nat) (items : List α) : List (List α) :=
  (List.range (divCeil items.length size)).map fun i => (items.drop (i * size)).take size

@[simp]
theorem length_blocks (size : Nat) (items : List α) :
    (blocks size items).length = divCeil items.length size := by
  simp [blocks]

theorem getElem_blocks {size : Nat} {items : List α} {i : Nat}
    (bound : i < (blocks size items).length) :
    (blocks size items)[i] = (items.drop (i * size)).take size := by
  simp [blocks]

/-- Reading a list of known length entry by entry. -/
theorem map_getD_range {size : Nat} {items : List α} (full : items.length = size) (default : α) :
    ((List.range size).map fun i => items.getD i default) = items := by
  subst full
  apply List.ext_getElem
  · simp
  · intro i _ bound
    simp [bound]

/-- The first `count` blocks spell the first `count * size` items. -/
theorem flatten_range_blocks (size : Nat) (items : List α) (count : Nat) :
    ((List.range count).map fun i => (items.drop (i * size)).take size).flatten =
      items.take (count * size) := by
  induction count with
  | zero => simp
  | succ count induction =>
      rw [List.range_succ, List.map_append, List.flatten_append, induction]
      simp only [List.map_cons, List.map_nil, List.flatten_cons, List.flatten_nil,
        List.append_nil]
      rw [Nat.add_mul, Nat.one_mul, List.take_add]

theorem flatten_blocks {size : Nat} (size_positive : 0 < size) (items : List α) :
    (blocks size items).flatten = items := by
  rw [blocks, flatten_range_blocks]
  exact List.take_of_length_le (le_divCeil_mul _ size_positive)

theorem blocks_eq_nil_iff {size : Nat} (size_positive : 0 < size) (items : List α) :
    blocks size items = [] ↔ items = [] := by
  constructor
  · intro empty
    rw [← flatten_blocks size_positive items, empty, List.flatten_nil]
  · rintro rfl
    simp [blocks]

/-- Every block before the last is full. -/
theorem length_block_of_succ_lt {size : Nat} {items : List α} (size_positive : 0 < size)
    {i : Nat} (bound : i + 1 < divCeil items.length size) :
    ((items.drop (i * size)).take size).length = size := by
  have items_positive : 0 < items.length := by
    by_contra empty
    rw [show items.length = 0 by omega, divCeil_zero] at bound
    omega
  have least := pred_divCeil_mul_lt size_positive items_positive
  have covered : (i + 1) * size ≤ (divCeil items.length size - 1) * size :=
    Nat.mul_le_mul_right size (by omega)
  rw [Nat.add_mul, Nat.one_mul] at covered
  rw [List.length_take, List.length_drop]
  omega

/-- The last block holds what the full blocks leave over. -/
theorem length_block_last {size : Nat} {items : List α} (size_positive : 0 < size)
    (items_ne : items ≠ []) :
    ((items.drop ((divCeil items.length size - 1) * size)).take size).length =
      items.length - (divCeil items.length size - 1) * size := by
  have items_positive := List.length_pos_iff.mpr items_ne
  have count_positive := divCeil_positive size_positive items_positive
  have enough := le_divCeil_mul items.length size_positive
  have split : divCeil items.length size * size =
      (divCeil items.length size - 1) * size + size := by
    rw [← Nat.succ_mul, Nat.succ_eq_add_one, Nat.sub_add_cancel count_positive]
  rw [List.length_take, List.length_drop]
  omega

/-- Blocks are never empty. -/
theorem length_block_positive {size : Nat} {items : List α} (size_positive : 0 < size)
    {i : Nat} (bound : i < divCeil items.length size) :
    0 < ((items.drop (i * size)).take size).length := by
  have items_positive : 0 < items.length := by
    by_contra empty
    rw [show items.length = 0 by omega, divCeil_zero] at bound
    omega
  have least := pred_divCeil_mul_lt size_positive items_positive
  have covered : i * size ≤ (divCeil items.length size - 1) * size :=
    Nat.mul_le_mul_right size (by omega)
  rw [List.length_take, List.length_drop]
  omega

theorem length_of_mem_blocks_le {size : Nat} {items block : List α}
    (member : block ∈ blocks size items) : block.length ≤ size := by
  simp only [blocks, List.mem_map] at member
  obtain ⟨i, _, rfl⟩ := member
  simp

/-- A list of exactly `count` full blocks is cut into `count` blocks of full length. -/
theorem length_of_mem_blocks_of_exact {size : Nat} (count : Nat) {items block : List α}
    (size_positive : 0 < size) (exact_length : items.length = count * size)
    (member : block ∈ blocks size items) : block.length = size := by
  simp only [blocks, List.mem_map, List.mem_range, exact_length,
    divCeil_mul_self size_positive] at member
  obtain ⟨i, bound, rfl⟩ := member
  have covered : (i + 1) * size ≤ count * size := Nat.mul_le_mul_right size bound
  rw [Nat.add_mul, Nat.one_mul] at covered
  rw [List.length_take, List.length_drop]
  omega

theorem divCeil_add_self {total size : Nat} (size_positive : 0 < size) :
    divCeil (size + total) size = divCeil total size + 1 := by
  rw [divCeil, divCeil, show size + total + size - 1 = total + size - 1 + size by omega,
    Nat.add_div_right _ size_positive]

/-- A full block comes first. -/
theorem blocks_append_of_length_eq {size : Nat} (size_positive : 0 < size) {front : List α}
    (full : front.length = size) (rest : List α) :
    blocks size (front ++ rest) = front :: blocks size rest := by
  rw [blocks, List.length_append, full, divCeil_add_self size_positive, List.range_succ_eq_map,
    List.map_cons, List.map_map]
  congr 1
  · rw [Nat.zero_mul, List.drop_zero, ← full, List.take_left]
  · refine List.map_congr_left fun i _ => ?_
    rw [Function.comp_apply, Nat.succ_mul, Nat.add_comm, ← full, ← List.drop_drop, List.drop_left]

/-- A short list is a single block. -/
theorem blocks_of_length_le {size : Nat} {items : List α} (items_ne : items ≠ [])
    (short : items.length ≤ size) : blocks size items = [items] := by
  have positive := List.length_pos_iff.mpr items_ne
  have one : divCeil items.length size = 1 := by
    rw [divCeil_eq_add_one (by omega) positive, Nat.div_eq_of_lt (by omega)]
  rw [blocks, one]
  simp [List.take_of_length_le short]

/-! ## Uniform pieces -/

theorem length_flatten_of_uniform {size : Nat} {pieces : List (List α)}
    (uniform : ∀ piece ∈ pieces, piece.length = size) :
    pieces.flatten.length = pieces.length * size := by
  rw [List.length_flatten, List.map_congr_left uniform, List.map_const', List.sum_replicate]
  rfl

/-- Full pieces are recovered from their concatenation. -/
theorem blocks_flatten {size : Nat} (size_positive : 0 < size) {pieces : List (List α)}
    (uniform : ∀ piece ∈ pieces, piece.length = size) : blocks size pieces.flatten = pieces := by
  induction pieces with
  | nil => exact (blocks_eq_nil_iff size_positive []).mpr rfl
  | cons piece rest induction =>
      rw [List.flatten_cons, blocks_append_of_length_eq size_positive
        (uniform piece List.mem_cons_self),
        induction fun other member => uniform other (List.mem_cons_of_mem piece member)]

/-- Concatenations of pieces of which one side has the longer ones agree only piece by piece. -/
theorem flatten_map_eq_iff {κ : Type*} {long short : κ → List α} {keys : List κ}
    (longer : ∀ key ∈ keys, (short key).length ≤ (long key).length) :
    (keys.map long).flatten = (keys.map short).flatten ↔ ∀ key ∈ keys, long key = short key := by
  constructor
  · intro same
    induction keys with
    | nil => exact fun key member => absurd member List.not_mem_nil
    | cons key rest induction =>
        have longer_rest : ∀ other ∈ rest, (short other).length ≤ (long other).length :=
          fun other member => longer other (List.mem_cons_of_mem key member)
        have rest_le : (rest.map short).flatten.length ≤ (rest.map long).flatten.length := by
          rw [List.length_flatten, List.length_flatten, List.map_map, List.map_map]
          exact List.sum_le_sum longer_rest
        have first_le := longer key List.mem_cons_self
        rw [List.map_cons, List.map_cons, List.flatten_cons, List.flatten_cons] at same
        have lengths := congrArg List.length same
        rw [List.length_append, List.length_append] at lengths
        obtain ⟨first_eq, rest_eq⟩ := List.append_inj same (by omega)
        intro other member
        rcases List.mem_cons.mp member with rfl | later
        · exact first_eq
        · exact induction longer_rest rest_eq other later
  · intro pieces_eq
    rw [List.map_congr_left pieces_eq]

/-! ## Groups of a sorted list -/

section Groups

variable {key : α → Nat} {items : List α}

/-- In a sorted list the items with a key come right after those with smaller keys. -/
theorem filter_lt_succ (sorted : items.Pairwise fun left right => key left ≤ key right)
    (bound : Nat) :
    items.filter (fun item => decide (key item < bound + 1)) =
      items.filter (fun item => decide (key item < bound)) ++
        items.filter fun item => key item == bound := by
  induction items with
  | nil => rfl
  | cons item rest induction =>
      obtain ⟨least, sorted_rest⟩ := List.pairwise_cons.mp sorted
      rcases Nat.lt_trichotomy (key item) bound with below | same | above
      · have apart : (key item == bound) = false := by simpa using Nat.ne_of_lt below
        have at_most : decide (key item < bound + 1) = true :=
          decide_eq_true (Nat.lt_succ_of_lt below)
        have less : decide (key item < bound) = true := decide_eq_true below
        simp only [List.filter_cons, apart, at_most, less, if_true, Bool.false_eq_true, if_false,
          induction sorted_rest, List.cons_append]
      · have none_below : rest.filter (fun other => decide (key other < bound)) = [] := by
          refine List.filter_eq_nil_iff.mpr fun other member => ?_
          have := least other member
          simp only [decide_eq_true_eq]
          omega
        have at_most : decide (key item < bound + 1) = true := decide_eq_true (by omega)
        have not_less : decide (key item < bound) = false := decide_eq_false (by omega)
        have equal : (key item == bound) = true := beq_iff_eq.mpr same
        simp only [List.filter_cons, at_most, not_less, equal, if_true, Bool.false_eq_true, if_false,
          induction sorted_rest, none_below, List.nil_append]
      · have none_left : ∀ other ∈ item :: rest, bound < key other := by
          intro other member
          rcases List.mem_cons.mp member with rfl | later
          · exact above
          · exact Nat.lt_of_lt_of_le above (least other later)
        have drops : ∀ test : α → Bool, (∀ other, bound < key other → test other = false) →
            (item :: rest).filter test = [] := fun test fails =>
          List.filter_eq_nil_iff.mpr fun other member => by
            simp [fails other (none_left other member)]
        rw [drops _ fun other beyond => by simp; omega, drops _ fun other beyond => by simp; omega,
          drops _ fun other beyond => by simp; omega]
        rfl

/-- A sorted list is the sequence of its groups. -/
theorem flatMap_range_filter (sorted : items.Pairwise fun left right => key left ≤ key right)
    {count : Nat} (bounded : ∀ item ∈ items, key item < count) :
    (List.range count).flatMap (fun bound => items.filter fun item => key item == bound) =
      items := by
  have grouped : ∀ bound, (List.range bound).flatMap
      (fun group => items.filter fun item => key item == group) =
        items.filter fun item => decide (key item < bound) := by
    intro bound
    induction bound with
    | zero => simp
    | succ bound induction =>
        rw [List.range_succ, List.flatMap_append, induction, List.flatMap_singleton,
          filter_lt_succ sorted]
  rw [grouped]
  exact List.filter_eq_self.mpr fun item member => decide_eq_true (bounded item member)

end Groups

/-- Values that are determined by their items, taken from the items that have one. -/
theorem filterMap_eq_map_filter {β : Type*} {value : α → Option β} {expected : α → β}
    {items : List α} (determined : ∀ item ∈ items, ∀ found, value item = some found →
      found = expected item) :
    items.filterMap value = (items.filter fun item => (value item).isSome).map expected := by
  induction items with
  | nil => rfl
  | cons item rest induction =>
      have determined_rest : ∀ other ∈ rest, ∀ found, value other = some found →
          found = expected other := fun other member =>
        determined other (List.mem_cons_of_mem item member)
      cases value_eq : value item with
      | none => simp [value_eq, induction determined_rest]
      | some found =>
          have found_eq := determined item List.mem_cons_self found value_eq
          simp [value_eq, induction determined_rest, found_eq]

end CyxCloud.Library
