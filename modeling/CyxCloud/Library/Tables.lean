import Mathlib.Data.List.Sort
import Mathlib.Data.List.Perm.Basic

/-!
# Tables as row lists

A table is the list of its rows.  A query without a complete `ORDER BY` may deliver its rows in
any order: a `RowOrder` is one such choice.  The remaining lemmas are about collecting fallible
computations over a list.
-/

namespace CyxCloud.Library

variable {α β ε : Type*}

/-! ## Delivery order -/

/-- The order in which a query delivers the rows it selects. -/
structure RowOrder (α : Type*) where
  /-- The rows in delivery order. -/
  arrange : List α → List α
  /-- Rows are neither lost nor duplicated. -/
  arrange_perm : ∀ rows, (arrange rows).Perm rows

namespace RowOrder

/-- The order in which the rows were inserted. -/
def insertion : RowOrder α where
  arrange rows := rows
  arrange_perm rows := List.Perm.refl rows

/-- The opposite order. -/
def reversed : RowOrder α where
  arrange rows := rows.reverse
  arrange_perm rows := List.reverse_perm rows

/-- The row returned by a query for at most one row. -/
def fetchOptional (order : RowOrder α) (rows : List α) : Option α := (order.arrange rows).head?

@[simp]
theorem mem_arrange (order : RowOrder α) {rows : List α} {row : α} :
    row ∈ order.arrange rows ↔ row ∈ rows :=
  (order.arrange_perm rows).mem_iff

theorem mem_of_fetchOptional {order : RowOrder α} {rows : List α} {row : α}
    (fetched : order.fetchOptional rows = some row) : row ∈ rows :=
  order.mem_arrange.mp (List.mem_of_head? fetched)

theorem arrange_eq_nil_iff (order : RowOrder α) {rows : List α} :
    order.arrange rows = [] ↔ rows = [] := by
  constructor
  · intro empty
    exact List.perm_nil.mp (empty ▸ order.arrange_perm rows).symm
  · rintro rfl
    exact List.perm_nil.mp (order.arrange_perm [])

@[simp]
theorem fetchOptional_eq_none_iff (order : RowOrder α) {rows : List α} :
    order.fetchOptional rows = none ↔ rows = [] := by
  rw [fetchOptional, List.head?_eq_none_iff, arrange_eq_nil_iff]

@[simp]
theorem fetchOptional_nil (order : RowOrder α) : order.fetchOptional [] = none :=
  order.fetchOptional_eq_none_iff.mpr rfl

/-- A query that selects one row returns it. -/
@[simp]
theorem fetchOptional_singleton (order : RowOrder α) (row : α) :
    order.fetchOptional [row] = some row := by
  rw [fetchOptional, List.perm_singleton.mp (order.arrange_perm [row])]
  rfl

end RowOrder

/-! ## Greatest rows -/

section Greatest

variable {κ : Type*} [LinearOrder κ] {key : α → κ} {rows : List α}

/-- The first row in descending order has the greatest key. -/
theorem head?_insertionSort_eq_some {row : α}
    (first : (rows.insertionSort fun left right => key right ≤ key left).head? = some row) :
    row ∈ rows ∧ ∀ other ∈ rows, key other ≤ key row := by
  have sorted : (rows.insertionSort fun left right => key right ≤ key left).Pairwise
      fun left right => key right ≤ key left := by
    have : Std.Total fun left right : α => key right ≤ key left :=
      ⟨fun left right => le_total (key right) (key left)⟩
    have : IsTrans α fun left right => key right ≤ key left :=
      ⟨fun _ _ _ first second => second.trans first⟩
    exact List.pairwise_insertionSort _ _
  have permuted := List.perm_insertionSort (fun left right => key right ≤ key left) rows
  generalize rows.insertionSort (fun left right => key right ≤ key left) = arranged at *
  cases arranged with
  | nil => cases first
  | cons head rest =>
      obtain rfl : head = row := by simpa using first
      refine ⟨permuted.subset List.mem_cons_self, fun other member => ?_⟩
      rcases List.mem_cons.mp (permuted.symm.subset member) with rfl | later
      · exact le_rfl
      · exact (List.pairwise_cons.mp sorted).1 other later

theorem head?_insertionSort_eq_none
    (missing : (rows.insertionSort fun left right => key right ≤ key left).head? = none) :
    rows = [] := by
  rw [List.head?_eq_none_iff] at missing
  exact List.nil_perm.mp (missing ▸ List.perm_insertionSort _ rows)

end Greatest

/-! ## Counting rows -/

/-- A selection keeps the count of some rows exactly when it keeps each of them. -/
theorem countP_filter_eq_iff {counted kept : α → Bool} {rows : List α} :
    (rows.filter kept).countP counted = rows.countP counted ↔
      ∀ row ∈ rows, counted row → kept row := by
  induction rows with
  | nil => simp
  | cons row rows induction =>
      have le : (rows.filter kept).countP counted ≤ rows.countP counted :=
        (List.filter_sublist).countP_le
      rw [List.forall_mem_cons, ← induction, List.filter_cons]
      cases kept row with
      | true => cases here : counted row <;> simp [here]
      | false =>
          cases here : counted row with
          | true =>
              simp [here]
              omega
          | false => simp [here]

/-! ## Updates that a selection does not see -/

/-- A selection does not see an update of rows that it leaves out before and after. -/
theorem filter_map_of_unselected {update : α → α} {selected : α → Bool} {rows : List α}
    (unseen : ∀ row ∈ rows, update row = row ∨
      selected row = false ∧ selected (update row) = false) :
    (rows.map update).filter selected = rows.filter selected := by
  induction rows with
  | nil => rfl
  | cons row rows induction =>
      have later := induction fun other member => unseen other (List.mem_cons_of_mem _ member)
      rcases unseen row List.mem_cons_self with same | ⟨before, after⟩
      · rw [List.map_cons, same, List.filter_cons, List.filter_cons, later]
      · rw [List.map_cons, List.filter_cons_of_neg (by simp [after]),
          List.filter_cons_of_neg (by simp [before]), later]

/-! ## Unique keys -/

/-- The rows that a table accepts when they are inserted one after the other: those whose key is
neither taken nor the key of a row accepted before. -/
def acceptedRows {κ : Type*} [DecidableEq κ] (key : α → κ) : List κ → List α → List α
  | _, [] => []
  | taken, row :: rows =>
      if key row ∈ taken then
        acceptedRows key taken rows
      else
        row :: acceptedRows key (taken ++ [key row]) rows

section UniqueKeys

variable {κ : Type*} [DecidableEq κ] {key : α → κ}

theorem acceptedRows_sublist (taken : List κ) (rows : List α) :
    (acceptedRows key taken rows).Sublist rows := by
  induction rows generalizing taken with
  | nil => exact .slnil
  | cons row rows induction =>
      rw [acceptedRows]
      split
      · exact (induction taken).cons row
      · exact (induction _).cons_cons row

omit [DecidableEq κ] in
theorem nodup_append_fresh {keys : List κ} {next : κ} (distinct : keys.Nodup)
    (fresh : next ∉ keys) : (keys ++ [next]).Nodup := by
  refine List.nodup_append.mpr ⟨distinct, by simp, ?_⟩
  rintro _ member _ last rfl
  exact fresh (List.mem_singleton.mp last ▸ member)

/-- Accepted rows have keys of their own. -/
theorem nodup_append_acceptedRows {taken : List κ} (distinct : taken.Nodup) (rows : List α) :
    (taken ++ (acceptedRows key taken rows).map key).Nodup := by
  induction rows generalizing taken with
  | nil => simpa [acceptedRows] using distinct
  | cons row rows induction =>
      rw [acceptedRows]
      split
      · exact induction distinct
      · rename_i free
        rw [List.map_cons, List.append_cons]
        exact induction (nodup_append_fresh distinct free)

theorem nodup_map_acceptedRows (rows : List α) :
    ((acceptedRows key [] rows).map key).Nodup :=
  nodup_append_acceptedRows List.nodup_nil rows

/-- Rows with keys of their own are all accepted. -/
theorem acceptedRows_of_nodup {taken : List κ} {rows : List α}
    (distinct : (taken ++ rows.map key).Nodup) : acceptedRows key taken rows = rows := by
  induction rows generalizing taken with
  | nil => rfl
  | cons row rows induction =>
      rw [List.map_cons, List.append_cons] at distinct
      have free : key row ∉ taken := by
        intro member
        have halves := List.nodup_append.mp (List.nodup_append.mp distinct).1
        exact halves.2.2 _ member _ (List.mem_singleton_self _) rfl
      rw [acceptedRows, if_neg free, induction distinct]

end UniqueKeys

/-! ## Fallible collection -/

/-- Collection succeeds when every computation does. -/
theorem mapM_eq_ok {f : α → Except ε β} {g : α → β} {items : List α}
    (succeed : ∀ item ∈ items, f item = .ok (g item)) :
    items.mapM f = .ok (items.map g) := by
  induction items with
  | nil => rfl
  | cons item items induction =>
      rw [List.mapM_cons, succeed item List.mem_cons_self,
        induction fun later member => succeed later (List.mem_cons_of_mem item member)]
      rfl

/-- Collection fails when some computation does. -/
theorem mapM_eq_error {f : α → Except ε β} {items : List α} {item : α} (member : item ∈ items)
    {cause : ε} (fails : f item = .error cause) :
    ∃ first, items.mapM f = .error first := by
  induction items with
  | nil => cases member
  | cons head items induction =>
      rw [List.mapM_cons]
      cases here : f head with
      | error first => exact ⟨first, rfl⟩
      | ok value =>
          rcases List.mem_cons.mp member with rfl | later
          · rw [fails] at here
            cases here
          · obtain ⟨first, failed⟩ := induction later
            exact ⟨first, by rw [failed]; rfl⟩

end CyxCloud.Library
