import Mathlib.Data.List.Basic

/-!
# Separators

Two texts with a separator between them.  Splitting gives them back exactly if neither contains the
separator; otherwise other texts may be joined to the same.
-/

namespace CyxCloud.Library

variable {α : Type*} [DecidableEq α] {separator : α} {text first second : List α}

/-- No part of a split text contains the separator. -/
theorem not_mem_of_mem_splitOn {part : List α} (member : part ∈ text.splitOn separator) :
    separator ∉ part := by
  induction text generalizing part with
  | nil =>
      rw [List.splitOn_nil, List.mem_singleton] at member
      rw [member]
      exact List.not_mem_nil
  | cons c text induction =>
      rw [List.splitOn_cons_eq_if_modifyHead] at member
      split at member
      · rcases List.mem_cons.mp member with rfl | later
        · exact List.not_mem_nil
        · exact induction later
      · rename_i different
        obtain ⟨head, parts, parts_eq⟩ :=
          List.exists_cons_of_ne_nil (List.splitOn_ne_nil separator text)
        rw [parts_eq, List.modifyHead_cons] at member
        rcases List.mem_cons.mp member with rfl | later
        · rw [List.mem_cons, not_or]
          refine ⟨fun same => different (beq_iff_eq.mpr same.symm), induction ?_⟩
          rw [parts_eq]
          exact List.mem_cons_self
        · refine induction ?_
          rw [parts_eq]
          exact List.mem_cons_of_mem head later

/-- A text splits in two exactly at its only separator. -/
theorem splitOn_eq_pair_iff : text.splitOn separator = [first, second] ↔
    text = first ++ separator :: second ∧ separator ∉ first ∧ separator ∉ second := by
  constructor
  · intro parts_eq
    have whole : [separator].intercalate (text.splitOn separator) = text :=
      List.intercalate_splitOn separator
    rw [parts_eq] at whole
    refine ⟨by simpa [List.intercalate] using whole.symm, ?_, ?_⟩
    · exact not_mem_of_mem_splitOn (parts_eq ▸ List.mem_cons_self)
    · exact not_mem_of_mem_splitOn (parts_eq ▸ List.mem_cons_of_mem _ List.mem_cons_self)
  · rintro ⟨rfl, plain, plain'⟩
    rw [List.splitOn_append_cons_self_of_not_mem plain, List.splitOn_eq_singleton plain']

omit [DecidableEq α] in
/-- Two pairs are joined to the same text exactly if they are the same or a separator in one of them
takes the place of the one between the other two. -/
theorem joined_eq_iff {first' second' : List α} :
    first ++ separator :: second = first' ++ separator :: second' ↔
      (first = first' ∧ second = second') ∨
        (∃ between, first' = first ++ separator :: between ∧
          second = between ++ separator :: second') ∨
        ∃ between, first = first' ++ separator :: between ∧
          second' = between ++ separator :: second := by
  constructor
  · intro same
    rcases List.append_eq_append_iff.mp same with ⟨rest, first_eq, rest_eq⟩ | ⟨rest, first_eq, rest_eq⟩
    · cases rest with
      | nil =>
          rw [List.append_nil] at first_eq
          exact .inl ⟨first_eq.symm, (List.cons.inj rest_eq).2⟩
      | cons c between =>
          obtain ⟨rfl, second_eq⟩ := List.cons.inj rest_eq
          exact .inr (.inl ⟨between, first_eq, second_eq⟩)
    · cases rest with
      | nil =>
          rw [List.append_nil] at first_eq
          exact .inl ⟨first_eq, (List.cons.inj rest_eq).2.symm⟩
      | cons c between =>
          obtain ⟨rfl, second_eq⟩ := List.cons.inj rest_eq
          exact .inr (.inr ⟨between, first_eq, second_eq⟩)
  · rintro (⟨rfl, rfl⟩ | ⟨between, rfl, rfl⟩ | ⟨between, rfl, rfl⟩) <;> simp

omit [DecidableEq α] in
/-- Only one pair without a separator is joined to a text. -/
theorem joined_inj_of_not_mem {first' second' : List α} (plain : separator ∉ first)
    (plain' : separator ∉ second)
    (same : first ++ separator :: second = first' ++ separator :: second') :
    first = first' ∧ second = second' := by
  rcases joined_eq_iff.mp same with same | ⟨between, -, second_eq⟩ | ⟨between, first_eq, -⟩
  · exact same
  · rw [second_eq] at plain'
    exact absurd (List.mem_append_right _ List.mem_cons_self) plain'
  · rw [first_eq] at plain
    exact absurd (List.mem_append_right _ List.mem_cons_self) plain

end CyxCloud.Library
