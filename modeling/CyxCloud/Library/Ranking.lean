import Mathlib.Algebra.Order.Group.Defs
import Mathlib.Data.List.Nodup
import Mathlib.Data.List.Sort
import Mathlib.Data.Prod.Lex
import Mathlib.Order.Basic
import Mathlib.Order.Defs.Unbundled
import Mathlib.Order.Lattice

/-!
# Ranking by score

A sort by a key puts no item after one with a larger key.  An item ranks first when it comes first
in a stable sort by decreasing score: it has the highest score, and every item listed before it has
a lower one.
-/

namespace CyxCloud.Library

/-- Items that are sorted by a key come with ascending keys. -/
theorem pairwise_mergeSort_by {α β : Type*} [Preorder β] [DecidableLE β]
    [total : Std.Total fun a b : β => a ≤ b] (key : α → β) (items : List α) :
    (items.mergeSort fun left right => decide (key left ≤ key right)).Pairwise
      fun left right => key left ≤ key right := by
  refine (List.pairwise_mergeSort ?_ ?_ items).imp of_decide_eq_true
  · intro left middle right before after
    exact decide_eq_true ((of_decide_eq_true before).trans (of_decide_eq_true after))
  · intro left right
    rw [Bool.or_eq_true, decide_eq_true_iff, decide_eq_true_iff]
    exact total.total (key left) (key right)

variable {α β : Type*} [LinearOrder β] {score other : α → β} {items : List α} {item : α}

/-- The item a stable sort by decreasing score puts first. -/
def RanksFirst (score : α → β) (items : List α) (item : α) : Prop :=
  ∃ before after, items = before ++ item :: after ∧
    (∀ earlier ∈ before, score earlier < score item) ∧
    ∀ later ∈ after, score later ≤ score item

theorem RanksFirst.mem (first : RanksFirst score items item) : item ∈ items := by
  obtain ⟨before, after, rfl, -, -⟩ := first
  exact List.mem_append_right before List.mem_cons_self

/-- Two items that rank first for scores that compare them alike are the same. -/
theorem RanksFirst.unique {rival : α} (first : RanksFirst score items item)
    (second : RanksFirst other items rival)
    (alike : score rival ≤ score item ↔ other rival ≤ other item)
    (alike_lt : score rival < score item ↔ other rival < other item) : item = rival := by
  obtain ⟨before, after, items_eq, below, within⟩ := first
  obtain ⟨before', after', items_eq', below', within'⟩ := second
  rw [items_eq, List.append_eq_append_iff] at items_eq'
  rcases items_eq' with ⟨middle, before_eq, tail_eq⟩ | ⟨middle, before_eq, tail_eq⟩
  · cases middle with
    | nil => simpa using (List.cons.inj tail_eq).1
    | cons head middle =>
        -- the item stands before its rival
        obtain ⟨rfl, after_eq⟩ := List.cons.inj tail_eq
        have lower := below' item (by simp [before_eq])
        have higher := within rival (by simp [after_eq])
        exact absurd (alike.mp higher) (not_le_of_gt lower)
  · cases middle with
    | nil => simpa using (List.cons.inj tail_eq).1.symm
    | cons head middle =>
        obtain ⟨rfl, after_eq⟩ := List.cons.inj tail_eq
        have lower := below rival (by simp [before_eq])
        have higher := within' item (by simp [after_eq])
        exact absurd (alike_lt.mp lower) (not_lt_of_ge higher)

/-- The items with their scores, by decreasing score. -/
def rankByScore (score : α → β) (items : List α) : List (β × α) :=
  (items.map fun item => (score item, item)).mergeSort fun left right => decide (right.1 ≤ left.1)

@[simp]
theorem length_rankByScore : (rankByScore score items).length = items.length := by
  simp [rankByScore]

theorem RanksFirst.cons (first : RanksFirst score items item) {head : α}
    (lower : score head < score item) : RanksFirst score (head :: items) item := by
  obtain ⟨before, after, rfl, below, within⟩ := first
  exact ⟨head :: before, after, rfl, List.forall_mem_cons.mpr ⟨lower, below⟩, within⟩

theorem mem_rankByScore {ranked : β × α} :
    ranked ∈ rankByScore score items ↔ ∃ item ∈ items, (score item, item) = ranked := by
  rw [rankByScore, List.mem_mergeSort, List.mem_map]

/-- The first item of a kind in the ranking is the one that ranks first of its kind. -/
theorem ranksFirst_of_find? {kind : α → Bool} {ranked : β × α}
    (found : (rankByScore score items).find? (fun ranked => kind ranked.2) = some ranked) :
    RanksFirst score (items.filter kind) ranked.2 := by
  have trans : ∀ a b c : β × α, decide (b.1 ≤ a.1) = true → decide (c.1 ≤ b.1) = true →
      decide (c.1 ≤ a.1) = true := by
    intro a b c left right
    simp only [decide_eq_true_eq] at *
    exact right.trans left
  have total : ∀ a b : β × α, (decide (b.1 ≤ a.1) || decide (a.1 ≤ b.1)) = true := by
    intro a b
    simpa using le_total b.1 a.1
  induction items with
  | nil => simp [rankByScore] at found
  | cons head items induction =>
      -- the head stands in the ranking of the others, behind those of a higher score only
      obtain ⟨above, below, ranked_eq, rest_eq, higher⟩ := List.mergeSort_cons trans total
        (score head, head) (items.map fun item => (score item, item))
      have sorted := List.pairwise_mergeSort trans total
        ((score head, head) :: items.map fun item => (score item, item))
      rw [ranked_eq] at sorted
      have sorted_below := (List.pairwise_cons.mp (List.pairwise_append.mp sorted).2.1).1
      rw [rankByScore, List.map_cons, ranked_eq, List.find?_append, List.find?_cons] at found
      rw [rankByScore, rest_eq, List.find?_append] at induction
      cases first_above : above.find? fun ranked => kind ranked.2 with
      | some first =>
          rw [first_above, Option.some_or] at found induction
          have first_mem := List.mem_of_find?_eq_some first_above
          have ranked_mem : first ∈ rankByScore score items := by
            rw [rankByScore, rest_eq]
            exact List.mem_append_left below first_mem
          obtain ⟨item, -, item_eq⟩ := mem_rankByScore.mp ranked_mem
          have lower : score head < score first.2 := by
            have beaten := higher first first_mem
            rw [← item_eq] at beaten ⊢
            simpa using beaten
          cases found
          rw [List.filter_cons]
          split
          · exact (induction rfl).cons lower
          · exact induction rfl
      | none =>
          rw [first_above, Option.none_or] at found induction
          cases head_kind : kind head with
          | false =>
              rw [head_kind] at found
              rw [List.filter_cons, head_kind, if_neg Bool.false_ne_true]
              exact induction found
          | true =>
              rw [head_kind] at found
              cases found
              rw [List.filter_cons, if_pos head_kind]
              refine ⟨[], _, rfl, List.forall_mem_nil _, fun later later_mem => ?_⟩
              obtain ⟨inside, later_kind⟩ := List.mem_filter.mp later_mem
              have ranked_mem : (score later, later) ∈ rankByScore score items :=
                mem_rankByScore.mpr ⟨later, inside, rfl⟩
              rw [rankByScore, rest_eq] at ranked_mem
              rcases List.mem_append.mp ranked_mem with outranks | follows
              · exact absurd later_kind (List.find?_eq_none.mp first_above _ outranks)
              · exact of_decide_eq_true (sorted_below _ follows)

section Places

variable {γ : Type*} [LinearOrder γ] {position : α → γ} {high low : β} {rival : α}

/-- Where an item of a given score stands: higher scores come first, and items of one score in the
order of their positions. -/
def place (position : α → γ) (score : β) (item : α) : βᵒᵈ ×ₗ γ :=
  toLex (OrderDual.toDual score, position item)

theorem place_le_place :
    place position high item ≤ place position low rival ↔
      low < high ∨ high = low ∧ position item ≤ position rival :=
  Prod.Lex.toLex_le_toLex

theorem place_lt_place :
    place position high item < place position low rival ↔
      low < high ∨ high = low ∧ position item < position rival :=
  Prod.Lex.toLex_lt_toLex

omit [LinearOrder β] [LinearOrder γ] in
theorem position_eq_of_place_eq (same : place position high item = place position low rival) :
    position item = position rival :=
  (Prod.mk.inj same).2

theorem place_add_le [AddCommGroup β] [IsOrderedAddMonoid β] {shift : β} :
    place position (high + shift) item ≤ place position (low + shift) rival ↔
      place position high item ≤ place position low rival := by
  simp only [place_le_place, add_lt_add_iff_right, add_left_inj]

theorem place_add_lt [AddCommGroup β] [IsOrderedAddMonoid β] {more less : β} (le : less ≤ more)
    (before : place position high item < place position low rival) :
    place position (high + more) item < place position (low + less) rival := by
  rcases place_lt_place.mp before with lower | ⟨rfl, earlier⟩
  · exact place_lt_place.mpr (.inl (add_lt_add_of_lt_of_le lower le))
  · rcases le.lt_or_eq with lower | rfl
    · exact place_lt_place.mpr (.inl (add_lt_add_right lower high))
    · exact place_lt_place.mpr (.inr ⟨rfl, earlier⟩)

/-- The item that ranks first stands before all others. -/
theorem ranksFirst_iff [DecidableEq α] :
    RanksFirst score items item ↔ item ∈ items ∧ ∀ rival ∈ items,
      place items.idxOf (score item) item ≤ place items.idxOf (score rival) rival := by
  constructor
  · intro first
    refine ⟨first.mem, fun rival member => place_le_place.mpr ?_⟩
    obtain ⟨before, after, rfl, below, within⟩ := first
    have absent : item ∉ before := fun inside => lt_irrefl _ (below item inside)
    by_cases earlier : rival ∈ before
    · exact .inl (below rival earlier)
    · have later := (List.mem_append.mp member).resolve_left earlier
      have bound : score rival ≤ score item := by
        rcases List.mem_cons.mp later with rfl | later
        · exact le_refl _
        · exact within rival later
      rcases bound.lt_or_eq with lower | same
      · exact .inl lower
      · refine .inr ⟨same.symm, ?_⟩
        rw [List.idxOf_append_of_notMem absent, List.idxOf_cons_self,
          List.idxOf_append_of_notMem earlier]
        exact Nat.add_le_add_left (Nat.zero_le _) _
  · rintro ⟨member, least⟩
    have inside := List.idxOf_lt_length_of_mem member
    have at_place : items[items.idxOf item] = item := List.getElem_idxOf inside
    have split := List.take_append_drop (items.idxOf item) items
    rw [List.drop_eq_getElem_cons inside, at_place] at split
    refine ⟨_, _, split.symm, fun earlier member => ?_, fun later member => ?_⟩
    · rcases place_le_place.mp (least earlier (List.mem_of_mem_take member)) with lower | ⟨-, after⟩
      · exact lower
      · have before := (List.mem_take_iff_idxOf_lt (List.mem_of_mem_take member)).mp member
        exact absurd before (Nat.not_lt.mpr after)
    · rcases place_le_place.mp (least later (List.mem_of_mem_drop member)) with lower | ⟨same, -⟩
      · exact lower.le
      · exact same.ge

end Places

section Counts

variable {γ : Type*} [LinearOrder γ] {items others : List γ}

/-- Among the first items in order, an item stands as often as the smaller ones leave room for it. -/
theorem count_take (sorted : items.Pairwise (· ≤ ·)) (limit : Nat) (item : γ) :
    (items.take limit).count item =
      min (items.count item) (limit - items.countP fun other => decide (other < item)) := by
  induction items generalizing limit with
  | nil => simp
  | cons head items induction =>
      obtain ⟨least, sorted⟩ := List.pairwise_cons.mp sorted
      cases limit with
      | zero => simp
      | succ limit =>
          rw [List.take_succ_cons, List.count_cons, List.count_cons, List.countP_cons,
            induction sorted]
          rcases lt_trichotomy head item with below | rfl | above
          · have different : (head == item) = false := by simpa using below.ne
            simp only [different, below, decide_true]
            simp
          · have none_below : items.countP (fun other => decide (other < head)) = 0 :=
              List.countP_eq_zero.mpr fun other member => by simpa using least other member
            simp [none_below]
          · have absent : items.count item = 0 :=
              List.count_eq_zero.mpr fun member => absurd (least item member) (not_le_of_gt above)
            have different : (head == item) = false := by simpa using above.ne'
            simp [absent, different]

/-- The first items of two lists in order are the same if each stands among them equally often. -/
theorem take_eq_take_iff (sorted : items.Pairwise (· ≤ ·)) (sorted' : others.Pairwise (· ≤ ·))
    (limit : Nat) :
    items.take limit = others.take limit ↔ ∀ item,
      min (items.count item) (limit - items.countP fun other => decide (other < item)) =
        min (others.count item) (limit - others.countP fun other => decide (other < item)) := by
  simp only [← count_take sorted, ← count_take sorted']
  constructor
  · intro same item
    rw [same]
  · intro counts
    exact (List.perm_iff_count.mpr counts).eq_of_pairwise' (sorted.sublist (List.take_sublist _ _))
      (sorted'.sublist (List.take_sublist _ _))

end Counts

/-- A list with more items of a kind than a limit has one with just the limit of them before it. -/
theorem exists_split_of_lt_countP {α : Type*} (kind : α → Prop) [DecidablePred kind]
    {items : List α} {limit : Nat} (more : limit < items.countP fun item => kind item) :
    ∃ before item after, items = before ++ item :: after ∧ kind item ∧
      (before.countP fun item => kind item) = limit := by
  induction items generalizing limit with
  | nil => exact absurd more (Nat.not_lt_zero limit)
  | cons head items induction =>
      simp only [List.countP_cons, decide_eq_true_eq] at more
      by_cases head_kind : kind head
      · rw [if_pos head_kind] at more
        cases limit with
        | zero => exact ⟨[], head, items, rfl, head_kind, rfl⟩
        | succ limit =>
            obtain ⟨before, item, after, rfl, item_kind, counted⟩ :=
              induction (Nat.lt_of_succ_lt_succ more)
            refine ⟨head :: before, item, after, rfl, item_kind, ?_⟩
            simp only [List.countP_cons, counted, head_kind, decide_true, if_true]
      · rw [if_neg head_kind] at more
        obtain ⟨before, item, after, rfl, item_kind, counted⟩ := induction more
        refine ⟨head :: before, item, after, rfl, item_kind, ?_⟩
        simp [counted, head_kind]

end CyxCloud.Library
