import Mathlib.Data.List.Infix

/-!
# Scanning for a pattern

A text is cut at the first occurrence of a pattern.  In a text that is put together from pieces the
pattern may also occur across the end of a piece.
-/

namespace CyxCloud.Library

variable {α : Type*} [DecidableEq α]

/-- The text before and after the first occurrence of a pattern. -/
def cut (pattern : List α) : List α → Option (List α × List α)
  | [] => if pattern = [] then some ([], []) else none
  | c :: rest =>
      if pattern <+: c :: rest then
        some ([], (c :: rest).drop pattern.length)
      else
        (cut pattern rest).map fun pieces => (c :: pieces.1, pieces.2)

/-- The text up to a pattern, all of it if the pattern does not occur. -/
def upTo (pattern text : List α) : List α :=
  match cut pattern text with
  | none => text
  | some (before, _) => before

/-- No occurrence of a pattern in a text starts in its first piece. -/
def Foreign (pattern : List α) : List α → List α → Prop
  | [], _ => True
  | c :: piece, rest => ¬ pattern <+: c :: (piece ++ rest) ∧ Foreign pattern piece rest

section

variable {pattern piece rest text : List α}

theorem cut_append_of_foreign (foreign : Foreign pattern piece rest) :
    cut pattern (piece ++ rest) =
      (cut pattern rest).map fun pieces => (piece ++ pieces.1, pieces.2) := by
  induction piece with
  | nil => cases found : cut pattern rest <;> simp [found]
  | cons c piece induction =>
      rw [List.cons_append, cut, if_neg foreign.1, induction foreign.2]
      simp [Option.map_map, Function.comp_def]

theorem cut_append_self (nonempty : pattern ≠ []) (rest : List α) :
    cut pattern (pattern ++ rest) = some ([], rest) := by
  cases pattern with
  | nil => exact absurd rfl nonempty
  | cons c body =>
      rw [List.cons_append, cut, if_pos ⟨rest, rfl⟩, ← List.cons_append, List.drop_left]

omit [DecidableEq α] in
theorem Foreign.append {first second : List α} (foreign : Foreign pattern first (second ++ rest))
    (foreign' : Foreign pattern second rest) : Foreign pattern (first ++ second) rest := by
  induction first with
  | nil => exact foreign'
  | cons c first induction =>
      refine ⟨fun starts => foreign.1 ?_, induction foreign.2⟩
      rwa [← List.append_assoc]

theorem upTo_append_of_foreign (foreign : Foreign pattern piece rest) :
    upTo pattern (piece ++ rest) = piece ++ upTo pattern rest := by
  rw [upTo, upTo, cut_append_of_foreign foreign]
  cases cut pattern rest <;> rfl

/-- A cut puts the text together again. -/
theorem eq_of_cut {before after : List α} (found : cut pattern text = some (before, after)) :
    text = before ++ pattern ++ after := by
  induction text generalizing before with
  | nil =>
      rw [cut] at found
      split at found
      · rename_i empty
        cases found
        simp [empty]
      · exact nomatch found
  | cons c rest induction =>
      rw [cut] at found
      split at found
      · rename_i starts
        obtain ⟨after', whole⟩ := starts
        obtain ⟨rfl, rfl⟩ := Prod.mk.inj (Option.some.inj found)
        rw [← whole, List.drop_left]
        rfl
      · obtain ⟨⟨before', after'⟩, found', same⟩ := Option.map_eq_some_iff.mp found
        obtain ⟨rfl, rfl⟩ := Prod.mk.inj same
        rw [induction found']
        rfl

/-- A pattern that cannot be cut does not occur. -/
theorem cut_eq_none_iff : cut pattern text = none ↔ ¬ pattern <:+: text := by
  induction text with
  | nil =>
      rw [cut, List.infix_nil]
      split <;> simp_all
  | cons c rest induction =>
      rw [cut, List.infix_cons_iff, not_or]
      split
      · rename_i starts
        simp [starts]
      · rename_i starts
        rw [Option.map_eq_none_iff, induction]
        simp [starts]

theorem upTo_of_absent (absent : ¬ pattern <:+: text) : upTo pattern text = text := by
  rw [upTo, cut_eq_none_iff.mpr absent]

/-- The first occurrence is not preceded by another one. -/
theorem not_infix_of_cut {before after : List α} (found : cut pattern text = some (before, after))
    (nonempty : pattern ≠ []) : ¬ pattern <:+: before := by
  induction text generalizing before with
  | nil =>
      rw [cut, if_neg nonempty] at found
      exact nomatch found
  | cons c rest induction =>
      rw [cut] at found
      split at found
      · cases found
        rwa [List.infix_nil]
      · rename_i starts
        obtain ⟨⟨before', after'⟩, found', same⟩ := Option.map_eq_some_iff.mp found
        obtain ⟨rfl, rfl⟩ := Prod.mk.inj same
        rw [List.infix_cons_iff, not_or]
        refine ⟨fun early => starts ?_, induction found'⟩
        rw [eq_of_cut found', List.append_assoc, ← List.cons_append]
        exact early.trans (List.prefix_append _ _)

theorem upTo_eq_self_iff (nonempty : pattern ≠ []) :
    upTo pattern text = text ↔ ¬ pattern <:+: text := by
  refine ⟨fun same occurs => ?_, upTo_of_absent⟩
  rw [upTo] at same
  cases found : cut pattern text with
  | none => exact cut_eq_none_iff.mp found occurs
  | some pieces =>
      rw [found] at same
      dsimp only at same
      have early := not_infix_of_cut found nonempty
      rw [same] at early
      exact early occurs

omit [DecidableEq α] in
/-- An occurrence that starts in a piece lies in it, or its end is the start of what follows. -/
theorem foreign_of_absent (absent : ¬ pattern <:+: piece)
    (apart : ∀ start stop, pattern = start ++ stop → start ≠ [] → stop ≠ [] → ¬ stop <+: rest) :
    Foreign pattern piece rest := by
  induction piece with
  | nil => trivial
  | cons c piece induction =>
      rw [List.infix_cons_iff, not_or] at absent
      refine ⟨fun starts => ?_, induction absent.2⟩
      obtain ⟨after, whole⟩ := starts
      rw [← List.cons_append] at whole
      rcases List.append_eq_append_iff.mp whole with ⟨stop, inside, -⟩ | ⟨stop, across, rest_eq⟩
      · exact absent.1 ⟨stop, inside.symm⟩
      · cases stop with
        | nil => exact absent.1 ⟨[], by rw [across, List.append_nil, List.append_nil]⟩
        | cons d stop =>
            exact apart _ _ across (List.cons_ne_nil c piece) (List.cons_ne_nil d stop)
              ⟨after, rest_eq.symm⟩

omit [DecidableEq α] in
/-- Nothing starts in a piece without the first letter of the pattern. -/
theorem foreign_of_not_mem {c : α} (absent : c ∉ piece) (body rest : List α) :
    Foreign (c :: body) piece rest := by
  induction piece with
  | nil => trivial
  | cons d piece induction =>
      rw [List.mem_cons, not_or] at absent
      exact ⟨fun starts => absent.1 (List.cons_prefix_cons.mp starts).1, induction absent.2⟩

omit [DecidableEq α] in
theorem Foreign.of_prefix {longer : List α} (starts : pattern <+: longer)
    (foreign : Foreign pattern piece rest) : Foreign longer piece rest := by
  induction piece with
  | nil => trivial
  | cons c piece induction =>
      exact ⟨fun here => foreign.1 (starts.trans here), induction foreign.2⟩

theorem not_infix_of_foreign (foreign : Foreign pattern text []) (nonempty : pattern ≠ []) :
    ¬ pattern <:+: text := by
  have cut_eq := cut_append_of_foreign foreign
  rw [List.append_nil, cut, if_neg nonempty, Option.map_none] at cut_eq
  exact cut_eq_none_iff.mp cut_eq

/-- A cut of a text is one of any longer text. -/
theorem cut_append_of_cut {before after : List α} (found : cut pattern text = some (before, after))
    (rest : List α) : cut pattern (text ++ rest) = some (before, after ++ rest) := by
  induction text generalizing before with
  | nil =>
      rw [cut] at found
      split at found
      · rename_i empty
        obtain ⟨rfl, rfl⟩ := Prod.mk.inj (Option.some.inj found)
        cases rest <;> simp [cut, empty]
      · exact nomatch found
  | cons c text induction =>
      rw [cut] at found
      split at found
      · rename_i starts
        obtain ⟨rfl, rfl⟩ := Prod.mk.inj (Option.some.inj found)
        have longer : pattern <+: c :: (text ++ rest) := starts.trans ⟨rest, rfl⟩
        rw [List.cons_append, cut, if_pos longer, ← List.cons_append,
          List.drop_append_of_le_length starts.length_le]
      · rename_i starts
        obtain ⟨⟨before', after'⟩, found', same⟩ := Option.map_eq_some_iff.mp found
        obtain ⟨rfl, rfl⟩ := Prod.mk.inj same
        have later : ¬ pattern <+: c :: (text ++ rest) := by
          intro early
          refine starts (List.prefix_of_prefix_length_le early
            (List.prefix_append (c :: text) rest) ?_)
          have whole := congrArg List.length (eq_of_cut found')
          simp only [List.length_append] at whole
          rw [List.length_cons]
          omega
        rw [List.cons_append, cut, if_neg later, induction found']
        rfl

/-- No occurrence starts before the first one. -/
theorem length_le_of_cut {before after early late : List α}
    (found : cut pattern (early ++ (pattern ++ late)) = some (before, after)) :
    before.length ≤ early.length := by
  induction early generalizing before with
  | nil =>
      cases pattern with
      | nil =>
          cases late with
          | nil => simp_all [cut]
          | cons c late => simp_all [cut]
      | cons c body =>
          rw [List.nil_append, cut_append_self (List.cons_ne_nil c body)] at found
          cases found
          exact Nat.le_refl _
  | cons c early induction =>
      rw [List.cons_append, cut] at found
      split at found
      · cases found
        exact Nat.zero_le _
      · obtain ⟨⟨before', after'⟩, found', same⟩ := Option.map_eq_some_iff.mp found
        obtain ⟨rfl, rfl⟩ := Prod.mk.inj same
        exact Nat.succ_le_succ (induction found')

/-- The first occurrence stays the first one if the text ends with it. -/
theorem cut_self_of_cut {before after : List α} (found : cut pattern text = some (before, after)) :
    cut pattern (before ++ pattern) = some (before, []) := by
  induction text generalizing before with
  | nil =>
      rw [cut] at found
      split at found
      · rename_i empty
        cases found
        simp [cut, empty]
      · exact nomatch found
  | cons c rest induction =>
      rw [cut] at found
      split at found
      · cases found
        cases pattern with
        | nil => simp [cut]
        | cons d body =>
            have whole := cut_append_self (List.cons_ne_nil d body) []
            rwa [List.append_nil] at whole
      · rename_i starts
        obtain ⟨⟨before', after'⟩, found', same⟩ := Option.map_eq_some_iff.mp found
        obtain ⟨rfl, rfl⟩ := Prod.mk.inj same
        have later : ¬ pattern <+: c :: (before' ++ pattern) := by
          intro early
          refine starts (early.trans ?_)
          rw [eq_of_cut found']
          exact List.prefix_append (c :: (before' ++ pattern)) after'
        rw [List.cons_append, cut, if_neg later, induction found']
        rfl

/-- What stands before the first occurrence in a piece that ends with the pattern. -/
theorem cut_append_pattern (nonempty : pattern ≠ []) (piece rest : List α)
    (apart : ¬ pattern <:+: piece → Foreign pattern piece (pattern ++ rest)) :
    (cut pattern (piece ++ (pattern ++ rest))).map Prod.fst = some (upTo pattern piece) := by
  cases found : cut pattern piece with
  | none =>
      have absent := cut_eq_none_iff.mp found
      rw [cut_append_of_foreign (apart absent), cut_append_self nonempty, upTo_of_absent absent]
      simp
  | some pieces =>
      rw [cut_append_of_cut found, upTo, found]
      rfl

end

end CyxCloud.Library
