import Mathlib.Data.Finset.Range
import Mathlib.Data.Finset.Card
import Mathlib.Data.Finset.Dedup
import Mathlib.Data.List.Basic

/-!
# Slots: partial vectors and scheduled collection

A vector with missing entries is a list of options.  `Erases` says which partial vectors a full
one can turn into, `keepAt` erases everything outside a set of positions, and `collectSlots`
fills a vector slot by slot in the order in which independent tasks happen to finish.  The last
section is about the entries that remain when some of their holders are lost.
-/

namespace CyxCloud.Library

variable {α β : Type*}

/-! ## Erasure -/

/-- The partial vector agrees with the full one wherever it has an entry. -/
def Erases (full : List α) (partialVector : List (Option α)) : Prop :=
  List.Forall₂ (fun entry slot => slot = none ∨ slot = some entry) full partialVector

theorem Erases.length_eq {full : List α} {slots : List (Option α)} (erases : Erases full slots) :
    full.length = slots.length :=
  List.Forall₂.length_eq erases

theorem erases_iff_getElem {full : List α} {slots : List (Option α)} :
    Erases full slots ↔
      full.length = slots.length ∧
        ∀ (i : ℕ) (entry : α), slots[i]? = some (some entry) → full[i]? = some entry := by
  constructor
  · intro erases
    refine ⟨erases.length_eq, ?_⟩
    induction erases with
    | nil => simp
    | @cons entry slot full slots agrees _ induction =>
        intro i found present
        cases i with
        | zero =>
            simp only [List.getElem?_cons_zero, Option.some.injEq] at present ⊢
            subst present
            rcases agrees with absent | agrees
            · cases absent
            · exact (Option.some.inj agrees).symm
        | succ i =>
            simp only [List.getElem?_cons_succ] at present ⊢
            exact induction i found present
  · rintro ⟨lengths, agree⟩
    induction full generalizing slots with
    | nil =>
        obtain rfl := List.length_eq_zero_iff.mp lengths.symm
        exact .nil
    | cons entry full induction =>
        cases slots with
        | nil => simp at lengths
        | cons slot slots =>
            refine .cons ?_ (induction (by simpa using lengths) fun i found present => ?_)
            · cases slot with
              | none => exact Or.inl rfl
              | some found =>
                  have here := agree 0 found (by simp)
                  simp only [List.getElem?_cons_zero, Option.some.injEq] at here
                  exact Or.inr (by rw [here])
            · simpa using agree (i + 1) found (by simpa using present)

theorem Erases.map {full : List α} {slots : List (Option α)} (erases : Erases full slots)
    (f : α → β) : Erases (full.map f) (slots.map (Option.map f)) := by
  induction erases with
  | nil => exact .nil
  | cons agrees _ induction =>
      refine .cons ?_ induction
      rcases agrees with rfl | rfl
      · exact Or.inl rfl
      · exact Or.inr rfl

/-- Filling a slot with its entry. -/
theorem Erases.set {full : List α} {slots : List (Option α)} (erases : Erases full slots) {i : ℕ}
    {entry : α} (found : full[i]? = some entry) : Erases full (slots.set i (some entry)) := by
  obtain ⟨lengths, agree⟩ := erases_iff_getElem.mp erases
  refine erases_iff_getElem.mpr ⟨by rw [List.length_set, lengths], fun j other present => ?_⟩
  rw [List.getElem?_set] at present
  split_ifs at present with same inside
  · rw [← same, found, ← Option.some.inj (Option.some.inj present)]
  · exact agree j other present

/-- Filling an empty slot adds an entry. -/
theorem countP_isSome_set {slots : List (Option α)} {i : ℕ} (empty : slots[i]? = some none)
    (entry : α) :
    (slots.set i (some entry)).countP Option.isSome = slots.countP Option.isSome + 1 := by
  induction slots generalizing i with
  | nil => simp at empty
  | cons slot slots induction =>
      cases i with
      | zero =>
          obtain rfl : slot = none := by simpa using empty
          simp
      | succ i =>
          have later := induction (by simpa using empty)
          simp only [List.set_cons_succ, List.countP_cons, later]
          omega

/-- Keep the entries at the positions of `kept` and erase the others. -/
def keepAt (kept : Finset ℕ) (full : List α) : List (Option α) :=
  (List.range full.length).map fun i => if i ∈ kept then full[i]? else none

@[simp]
theorem length_keepAt (kept : Finset ℕ) (full : List α) :
    (keepAt kept full).length = full.length := by
  simp [keepAt]

theorem getElem?_keepAt (kept : Finset ℕ) {full : List α} {i : ℕ} (bound : i < full.length) :
    (keepAt kept full)[i]? = some (if i ∈ kept then full[i]? else none) := by
  simp [keepAt, List.getElem?_range bound]

theorem erases_keepAt (kept : Finset ℕ) (full : List α) : Erases full (keepAt kept full) := by
  refine erases_iff_getElem.mpr ⟨by simp, fun i entry present => ?_⟩
  by_cases bound : i < full.length
  · rw [getElem?_keepAt kept bound, Option.some.injEq] at present
    split at present
    · exact present
    · cases present
  · rw [List.getElem?_eq_none (by simpa using bound)] at present
    cases present

theorem countP_range (p : ℕ → Bool) (bound : ℕ) :
    (List.range bound).countP p = ((Finset.range bound).filter fun i => p i = true).card := by
  induction bound with
  | zero => simp
  | succ bound induction =>
      rw [List.range_succ, List.countP_append, induction, Finset.range_add_one,
        Finset.filter_insert]
      by_cases holds : p bound = true
      · simp [holds]
      · simp [holds]

/-- As many entries survive as there are positions kept. -/
theorem countP_keepAt {kept : Finset ℕ} {full : List α}
    (inside : kept ⊆ Finset.range full.length) :
    (keepAt kept full).countP Option.isSome = kept.card := by
  rw [keepAt, List.countP_map, countP_range]
  congr 1
  ext i
  simp only [Finset.mem_filter, Finset.mem_range, Function.comp_apply]
  constructor
  · rintro ⟨_, present⟩
    by_contra absent
    simp [absent] at present
  · intro member
    have bound := Finset.mem_range.mp (inside member)
    exact ⟨bound, by simp [member, bound]⟩

/-! ## Collection in completion order -/

/-- An order in which the tasks of an indexed parallel collection may finish. -/
structure Schedule where
  /-- Completion order of a collection of the given size. -/
  order : ℕ → List ℕ
  /-- Every task finishes exactly once. -/
  order_perm : ∀ size, (order size).Perm (List.range size)

/-- Tasks finishing in index order. -/
def Schedule.inOrder : Schedule where
  order := List.range
  order_perm size := List.Perm.refl (List.range size)

/-- Run the tasks in completion order, each writing its own slot. -/
def Schedule.collectSlots (schedule : Schedule) (task : ℕ → α) (size : ℕ) : List (Option α) :=
  (schedule.order size).foldl (fun slots i => slots.set i (some (task i)))
    (List.replicate size none)

private theorem getElem?_foldl_set (task : ℕ → α) (finished : List ℕ)
    (slots : List (Option α)) (i : ℕ) (bound : i < slots.length) :
    (finished.foldl (fun slots i => slots.set i (some (task i))) slots)[i]? =
      if i ∈ finished then some (some (task i)) else slots[i]? := by
  induction finished generalizing slots with
  | nil => simp
  | cons first finished induction =>
      rw [List.foldl_cons, induction _ (by simpa using bound)]
      by_cases later : i ∈ finished
      · simp [later]
      · by_cases here : first = i
        · subst here
          simp [later, bound]
        · have here' : ¬i = first := fun equal => here equal.symm
          simp [later, here, here']

private theorem length_foldl_set (task : ℕ → α) (finished : List ℕ)
    (slots : List (Option α)) :
    (finished.foldl (fun slots i => slots.set i (some (task i))) slots).length =
      slots.length := by
  induction finished generalizing slots with
  | nil => rfl
  | cons first finished induction => simpa using induction (slots.set first _)

/-- The collected vector does not depend on the completion order. -/
theorem Schedule.collectSlots_eq (schedule : Schedule) (task : ℕ → α) (size : ℕ) :
    schedule.collectSlots task size = (List.range size).map fun i => some (task i) := by
  apply List.ext_getElem?
  intro i
  by_cases bound : i < size
  · have member : i ∈ schedule.order size :=
      (schedule.order_perm size).mem_iff.mpr (List.mem_range.mpr bound)
    rw [collectSlots, getElem?_foldl_set task _ _ i (by simpa using bound)]
    simp [member, List.getElem?_range bound]
  · rw [List.getElem?_eq_none, List.getElem?_eq_none]
    · simpa using bound
    · rw [collectSlots, length_foldl_set]
      simpa using bound

/-! ## Losing holders -/

section Holders

variable [DecidableEq α]

theorem countP_filter_ne_add_count (holders : List α) (holder : α) :
    (holders.filter fun other => other != holder).length + holders.count holder =
      holders.length := by
  rw [← List.countP_eq_length_filter, List.count, Nat.add_comm,
    List.length_eq_countP_add_countP (fun other => other == holder)]
  congr 1
  exact List.countP_congr fun other _ => by simp

/-- Items spread over holders survive the loss of any `losses` holders but for `losses` items
exactly when no holder has two items. -/
theorem survives_iff_nodup (holders : List α) {losses : Nat} (losses_positive : 0 < losses)
    (losses_lt : losses < holders.length) :
    (∀ lost : Finset α, lost.card ≤ losses →
      holders.length - losses ≤ holders.countP fun holder => holder ∉ lost) ↔ holders.Nodup := by
  constructor
  · intro survives
    by_contra repeated
    obtain ⟨holder, twice⟩ : ∃ holder, 1 < holders.count holder := by
      simpa [List.nodup_iff_count_le_one] using repeated
    -- lose the holder of two items and as many others as the bound allows
    obtain ⟨rest, rest_eq⟩ : ∃ rest, rest = holders.filter fun other => other != holder :=
      ⟨_, rfl⟩
    obtain ⟨lost, lost_eq⟩ : ∃ lost, lost = insert holder (rest.take (losses - 1)).toFinset :=
      ⟨_, rfl⟩
    have lost_card : lost.card ≤ losses := by
      rw [lost_eq]
      have inserted := Finset.card_insert_le holder (rest.take (losses - 1)).toFinset
      have deduplicated := List.toFinset_card_le (rest.take (losses - 1))
      have taken := List.length_take_le (losses - 1) rest
      omega
    have rest_length : rest.length + holders.count holder = holders.length := by
      rw [rest_eq, countP_filter_ne_add_count]
    have surviving : (holders.countP fun other => other ∉ lost) ≤ rest.length - (losses - 1) := by
      calc
        (holders.countP fun other => other ∉ lost) = rest.countP fun other => other ∉ lost := by
          rw [rest_eq, List.countP_filter]
          refine List.countP_congr fun other _ => ?_
          simp only [decide_eq_true_eq, Bool.and_eq_true, bne_iff_ne, lost_eq,
            Finset.mem_insert, not_or]
          tauto
        _ ≤ (rest.drop (losses - 1)).countP fun other => other ∉ lost := by
          conv_lhs => rw [← List.take_append_drop (losses - 1) rest, List.countP_append]
          have none_left : ((rest.take (losses - 1)).countP fun other => other ∉ lost) = 0 := by
            rw [List.countP_eq_zero]
            intro other member
            simp [lost_eq, member]
          omega
        _ ≤ (rest.drop (losses - 1)).length := List.countP_le_length
        _ = rest.length - (losses - 1) := List.length_drop
    have needed := survives lost lost_card
    omega
  · intro distinct lost lost_card
    have lost_count : (holders.countP fun holder => holder ∈ lost) ≤ losses := by
      rw [List.countP_eq_length_filter, ← List.toFinset_card_of_nodup (distinct.filter _)]
      refine (Finset.card_le_card fun holder member => ?_).trans lost_card
      simpa using (List.mem_filter.mp (List.mem_toFinset.mp member)).2
    have total : holders.length = (holders.countP fun holder => holder ∈ lost) +
        holders.countP fun holder => holder ∉ lost := by
      rw [List.length_eq_countP_add_countP fun holder => decide (holder ∈ lost)]
      simp
    omega

end Holders

end CyxCloud.Library
