import Mathlib.Algebra.BigOperators.Group.Finset.Basic
import Mathlib.Algebra.GroupWithZero.Nat
import Mathlib.Data.Finmap

/-!
# Dictionaries

Finite maps with a total size: what an insertion or an erasure does to the sum of the sizes of the
values.
-/

namespace CyxCloud.Library

/-- A finite map with values of one type. -/
abbrev Dictionary (κ ν : Type*) := AList fun _ : κ => ν

namespace Dictionary

variable {κ ν : Type*} (size : ν → Nat)

/-- The sum of the sizes of all values. -/
def total (map : Dictionary κ ν) : Nat := (map.entries.map fun entry => size entry.2).sum

@[simp]
theorem total_empty : total size (∅ : Dictionary κ ν) = 0 := rfl

variable [DecidableEq κ]

/-- The size of the value under a key, zero where there is none. -/
def sizeAt (map : Dictionary κ ν) (key : κ) : Nat := ((map.lookup key).map size).getD 0

theorem sizeAt_of_lookup {map : Dictionary κ ν} {key : κ} {value : ν}
    (found : map.lookup key = some value) : sizeAt size map key = size value := by
  simp [sizeAt, found]

theorem sizeAt_of_missing {map : Dictionary κ ν} {key : κ} (missing : map.lookup key = none) :
    sizeAt size map key = 0 := by
  simp [sizeAt, missing]

private theorem sum_kerase (entries : List (Sigma fun _ : κ => ν)) (key : κ) :
    ((entries.kerase key).map fun entry => size entry.2).sum +
        ((entries.dlookup key).map size).getD 0 =
      (entries.map fun entry => size entry.2).sum := by
  induction entries with
  | nil => simp
  | cons entry entries induction =>
      obtain ⟨key', value⟩ := entry
      by_cases same : key = key'
      · subst same
        simp [Nat.add_comm]
      · rw [List.kerase_cons_ne (by simpa using same), List.dlookup_cons_ne _ _ same]
        simp only [List.map_cons, List.sum_cons]
        omega

/-- An erasure takes the size of the erased value off the total. -/
theorem total_erase (map : Dictionary κ ν) (key : κ) :
    total size (map.erase key) + sizeAt size map key = total size map :=
  sum_kerase size map.entries key

/-- An insertion adds the size of the new value and takes off that of the replaced one. -/
theorem total_insert (map : Dictionary κ ν) (key : κ) (value : ν) :
    total size (map.insert key value) + sizeAt size map key = total size map + size value := by
  have erased := sum_kerase size map.entries key
  simp only [total, sizeAt, AList.lookup, AList.entries_insert, List.map_cons, List.sum_cons]
  omega

theorem sizeAt_le_total (map : Dictionary κ ν) (key : κ) :
    sizeAt size map key ≤ total size map := by
  have erased := total_erase size map key
  omega

/-- Taking the replaced value off before the new one is added does not go below zero. -/
theorem total_insert_eq (map : Dictionary κ ν) (key : κ) (value : ν) :
    total size (map.insert key value) =
      total size map - sizeAt size map key + size value := by
  have inserted := total_insert size map key value
  have bounded := sizeAt_le_total size map key
  omega

theorem total_erase_eq (map : Dictionary κ ν) (key : κ) :
    total size (map.erase key) = total size map - sizeAt size map key := by
  have erased := total_erase size map key
  omega

theorem lookup_of_mem_entries {map : Dictionary κ ν} {entry : Sigma fun _ : κ => ν}
    (member : entry ∈ map.entries) : map.lookup entry.1 = some entry.2 :=
  AList.mem_lookup_iff.mpr member

/-- The total is the sum of the sizes over all keys. -/
theorem total_eq_sum (map : Dictionary κ ν) :
    total size map = ∑ key ∈ map.keys.toFinset, sizeAt size map key := by
  rw [List.sum_toFinset _ map.keys_nodup, total, AList.keys, List.keys, List.map_map]
  refine congrArg List.sum (List.map_congr_left fun entry member => ?_)
  rw [Function.comp_apply, sizeAt_of_lookup size (lookup_of_mem_entries member)]

/-! ## Representation -/

section

variable {ω : Type*} {rel : ν → ω → Prop}

/-- A dictionary represents a finite map if the values under every key are related. -/
def Represents (rel : ν → ω → Prop) (map : Dictionary κ ν) (other : Finmap fun _ : κ => ω) : Prop :=
  ∀ key, Option.Rel rel (map.lookup key) (other.lookup key)

variable {map : Dictionary κ ν} {other : Finmap fun _ : κ => ω}

theorem represents_empty : Represents rel (∅ : Dictionary κ ν) ∅ := by
  intro key
  rw [AList.lookup_empty, Finmap.lookup_empty]
  exact .none

theorem Represents.insert (represents : Represents rel map other) (key : κ) {value : ν}
    {value' : ω} (related : rel value value') :
    Represents rel (map.insert key value) (other.insert key value') := by
  intro key'
  by_cases same : key' = key
  · subst same
    rw [AList.lookup_insert, Finmap.lookup_insert]
    exact .some related
  · rw [AList.lookup_insert_ne same, Finmap.lookup_insert_of_ne _ same]
    exact represents key'

theorem Represents.erase (represents : Represents rel map other) (key : κ) :
    Represents rel (map.erase key) (other.erase key) := by
  intro key'
  by_cases same : key' = key
  · subst same
    rw [AList.lookup_erase, Finmap.lookup_erase]
    exact .none
  · rw [AList.lookup_erase_ne same, Finmap.lookup_erase_ne same]
    exact represents key'

/-- Erasing a key that is not there changes nothing. -/
theorem Represents.erase_of_missing (represents : Represents rel map other) {key : κ}
    (missing : map.lookup key = none) : Represents rel map (other.erase key) := by
  intro key'
  by_cases same : key' = key
  · subst same
    rw [missing, Finmap.lookup_erase]
    exact .none
  · rw [Finmap.lookup_erase_ne same]
    exact represents key'

/-- Inserting a value related to the one that is there changes nothing. -/
theorem Represents.insert_of_lookup (represents : Represents rel map other) {key : κ} {value : ν}
    {value' : ω} (found : map.lookup key = some value) (related : rel value value') :
    Represents rel map (other.insert key value') := by
  intro key'
  by_cases same : key' = key
  · subst same
    rw [found, Finmap.lookup_insert]
    exact .some related
  · rw [Finmap.lookup_insert_of_ne _ same]
    exact represents key'

theorem Represents.lookup_eq_none (represents : Represents rel map other) {key : κ}
    (missing : map.lookup key = none) : other.lookup key = none := by
  have related := represents key
  rw [missing] at related
  cases found : other.lookup key with
  | none => rfl
  | some value =>
      rw [found] at related
      cases related

theorem Represents.exists_lookup (represents : Represents rel map other) {key : κ} {value : ν}
    (found : map.lookup key = some value) :
    ∃ value', other.lookup key = some value' ∧ rel value value' := by
  have related := represents key
  rw [found] at related
  cases found' : other.lookup key with
  | none =>
      rw [found'] at related
      cases related
  | some value' =>
      rw [found'] at related
      cases related with
      | some related => exact ⟨value', rfl, related⟩

theorem Represents.isSome_iff (represents : Represents rel map other) (key : κ) :
    (map.lookup key).isSome ↔ key ∈ other := by
  rw [← Finmap.lookup_isSome]
  cases found : map.lookup key with
  | none =>
      rw [represents.lookup_eq_none found]
      simp
  | some value =>
      obtain ⟨value', found', -⟩ := represents.exists_lookup found
      rw [found']
      simp

theorem Represents.keys_eq (represents : Represents rel map other) :
    map.keys.toFinset = other.keys := by
  ext key
  rw [List.mem_toFinset, ← AList.mem_keys, ← AList.lookup_isSome, Finmap.mem_keys]
  exact represents.isSome_iff key

theorem Represents.length_keys (represents : Represents rel map other) :
    map.keys.length = other.keys.card := by
  rw [← represents.keys_eq, List.toFinset_card_of_nodup map.keys_nodup]

/-- Related values of one size give one total. -/
theorem Represents.total_eq (represents : Represents rel map other) {size : ν → Nat}
    {size' : ω → Nat} (sized : ∀ value value', rel value value' → size value = size' value') :
    total size map = ∑ key ∈ other.keys, ((other.lookup key).map size').getD 0 := by
  rw [total_eq_sum, represents.keys_eq]
  refine Finset.sum_congr rfl fun key _ => ?_
  cases found : map.lookup key with
  | none => rw [sizeAt_of_missing _ found, represents.lookup_eq_none found]; rfl
  | some value =>
      obtain ⟨value', found', related⟩ := represents.exists_lookup found
      rw [sizeAt_of_lookup _ found, found', sized value value' related]
      rfl

end

end Dictionary

end CyxCloud.Library
