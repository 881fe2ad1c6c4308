import CyxCloud.Library.Dictionaries
import CyxCloud.Library.Tables
import Mathlib.Data.List.MinMax

/-!
# Pools that evict by recency

A pool keeps a value under each key with the instant of its last use.  A new value makes the pool
drop what has not been used for some time and, while it is full, one value that was used no later
than any other.  A value that is used again and again stays as long as few other keys are used.
-/

namespace CyxCloud.Library

/-- A value and the instant at which it was last used. -/
structure Pooled (ν : Type*) where
  value : ν
  lastUsed : Nat

/-- Values under their keys. -/
abbrev RecencyPool (κ ν : Type*) := Dictionary κ (Pooled ν)

namespace RecencyPool

variable {κ ν : Type*}

/-- The number of values. -/
def size (pool : RecencyPool κ ν) : Nat := pool.entries.length

/-- The values that pass a test. -/
def retain (keep : Pooled ν → Bool) (pool : RecencyPool κ ν) : RecencyPool κ ν where
  entries := pool.entries.filter fun entry => keep entry.2
  nodupKeys := pool.nodupKeys.sublist (List.filter_sublist)

/-- A key whose value was used no later than any other, the first of them in some order. -/
def oldest (order : RowOrder (Sigma fun _ : κ => Pooled ν)) (pool : RecencyPool κ ν) : Option κ :=
  ((order.arrange pool.entries).argmin fun entry => entry.2.lastUsed).map Sigma.fst

variable [DecidableEq κ]

/-- Use the value under a key, if there is one. -/
def touch (now : Nat) (key : κ) (pool : RecencyPool κ ν) : RecencyPool κ ν :=
  match pool.lookup key with
  | some pooled => pool.insert key { pooled with lastUsed := now }
  | none => pool

/-- Drop the value of the oldest key. -/
def evictOldest (order : RowOrder (Sigma fun _ : κ => Pooled ν)) (pool : RecencyPool κ ν) :
    RecencyPool κ ν :=
  match pool.oldest order with
  | some key => pool.erase key
  | none => pool

/-- Drop the value of the oldest key of a full pool. -/
def makeRoom (order : RowOrder (Sigma fun _ : κ => Pooled ν)) (capacity : Nat)
    (pool : RecencyPool κ ν) : RecencyPool κ ν :=
  if capacity ≤ pool.size then pool.evictOldest order else pool

variable {order : RowOrder (Sigma fun _ : κ => Pooled ν)} {pool : RecencyPool κ ν}
  {capacity now : Nat} {key other : κ}

/-! ## Lookups -/

theorem mem_entries_iff {pooled : Pooled ν} :
    ⟨key, pooled⟩ ∈ pool.entries ↔ pool.lookup key = some pooled := by
  rw [← Option.mem_def, AList.mem_lookup_iff]

theorem lookup_retain (keep : Pooled ν → Bool) (pool : RecencyPool κ ν) (key : κ) :
    (pool.retain keep).lookup key = (pool.lookup key).filter keep := by
  refine Option.ext fun pooled => ?_
  rw [← mem_entries_iff, retain, List.mem_filter, mem_entries_iff, Option.filter_eq_some_iff]

theorem lookup_touch_self (now : Nat) (pool : RecencyPool κ ν) (key : κ) :
    (pool.touch now key).lookup key =
      (pool.lookup key).map fun pooled => { pooled with lastUsed := now } := by
  cases found : pool.lookup key with
  | none => simp only [touch, found, Option.map_none]
  | some pooled => simp only [touch, found, AList.lookup_insert, Option.map_some]

theorem lookup_touch_of_ne (ne : other ≠ key) :
    (pool.touch now key).lookup other = pool.lookup other := by
  cases found : pool.lookup key with
  | none => simp only [touch, found]
  | some pooled => simp only [touch, found, AList.lookup_insert_ne ne]

theorem lookup_evictOldest_of_ne (spared : pool.oldest order ≠ some key) :
    (pool.evictOldest order).lookup key = pool.lookup key := by
  cases found : pool.oldest order with
  | none => simp only [evictOldest, found]
  | some victim =>
      have ne : key ≠ victim := by
        rintro rfl
        exact spared found
      simp only [evictOldest, found, AList.lookup_erase_ne ne]

theorem lookup_of_evictOldest {pooled : Pooled ν}
    (found : (pool.evictOldest order).lookup key = some pooled) :
    pool.lookup key = some pooled := by
  cases chosen : pool.oldest order with
  | none => simpa only [evictOldest, chosen] using found
  | some victim =>
      simp only [evictOldest, chosen] at found
      by_cases same : key = victim
      · subst same
        rw [AList.lookup_erase] at found
        cases found
      · rwa [AList.lookup_erase_ne same] at found

theorem lookup_of_makeRoom {pooled : Pooled ν}
    (found : (pool.makeRoom order capacity).lookup key = some pooled) :
    pool.lookup key = some pooled := by
  rw [makeRoom] at found
  split at found
  · exact lookup_of_evictOldest found
  · exact found

/-- No value was used before that of the oldest key. -/
theorem lastUsed_le_of_oldest (chosen : pool.oldest order = some key) {pooled : Pooled ν}
    (found : pool.lookup key = some pooled) {pooled' : Pooled ν}
    (found' : pool.lookup other = some pooled') : pooled.lastUsed ≤ pooled'.lastUsed := by
  obtain ⟨entry, least, rfl⟩ := Option.map_eq_some_iff.mp chosen
  have member := order.mem_arrange.mp (List.argmin_mem least)
  have same : entry.2 = pooled := by
    rw [Dictionary.lookup_of_mem_entries member] at found
    exact Option.some.inj found
  subst same
  have listed := order.mem_arrange.mpr (mem_entries_iff.mpr found')
  have not_earlier : ¬(⟨other, pooled'⟩ : Sigma fun _ : κ => Pooled ν).2.lastUsed <
      entry.2.lastUsed := List.not_lt_of_mem_argmin (f := fun entry => entry.2.lastUsed) listed least
  exact not_lt.mp not_earlier

/-! ## Sizes -/

omit [DecidableEq κ] in
theorem size_retain_le (keep : Pooled ν → Bool) (pool : RecencyPool κ ν) :
    (pool.retain keep).size ≤ pool.size :=
  List.length_filter_le _ _

theorem size_erase_le (pool : RecencyPool κ ν) (key : κ) :
    RecencyPool.size (pool.erase key) ≤ pool.size :=
  (List.kerase_sublist key pool.entries).length_le

theorem size_erase_add_one {pooled : Pooled ν} (found : pool.lookup key = some pooled) :
    RecencyPool.size (pool.erase key) + 1 = pool.size := by
  have member : key ∈ pool.entries.keys := List.mem_keys.mpr ⟨pooled, mem_entries_iff.mpr found⟩
  have keys_eq : (pool.entries.kerase key).keys.length = pool.entries.keys.length - 1 := by
    rw [List.keys_kerase, List.length_erase_of_mem member]
  have some_key := List.length_pos_of_mem member
  simp only [List.keys, List.length_map] at keys_eq some_key
  change (pool.entries.kerase key).length + 1 = pool.entries.length
  omega

theorem size_insert_le (pool : RecencyPool κ ν) (key : κ) (pooled : Pooled ν) :
    RecencyPool.size (pool.insert key pooled) ≤ pool.size + 1 := by
  rw [size, AList.entries_insert, List.length_cons]
  exact Nat.succ_le_succ (size_erase_le pool key)

theorem size_insert_of_mem {pooled : Pooled ν} (found : pool.lookup key = some pooled)
    (pooled' : Pooled ν) : RecencyPool.size (pool.insert key pooled') = pool.size := by
  rw [size, AList.entries_insert, List.length_cons]
  exact size_erase_add_one found

theorem size_touch (now : Nat) (pool : RecencyPool κ ν) (key : κ) :
    (pool.touch now key).size = pool.size := by
  cases found : pool.lookup key with
  | none => simp only [touch, found]
  | some pooled => simp only [touch, found, size_insert_of_mem found]

omit [DecidableEq κ] in
theorem oldest_eq_none (none : pool.oldest order = none) : pool.size = 0 := by
  rw [oldest, Option.map_eq_none_iff, List.argmin_eq_none, RowOrder.arrange_eq_nil_iff] at none
  rw [size, none, List.length_nil]

/-- There is room for one more value, unless the pool may hold none at all. -/
theorem size_makeRoom_lt (bounded : pool.size ≤ max 1 capacity) :
    (pool.makeRoom order capacity).size < max 1 capacity := by
  rw [makeRoom]
  split
  · rw [evictOldest]
    split
    · rename_i victim chosen
      obtain ⟨entry, least, rfl⟩ := Option.map_eq_some_iff.mp chosen
      have member := order.mem_arrange.mp (List.argmin_mem least)
      have erased := size_erase_add_one (mem_entries_iff.mp member)
      omega
    · rename_i chosen
      have empty := oldest_eq_none chosen
      omega
  · omega

/-! ## Few keys in use -/

/-- The keys whose values were used since some instant. -/
def UsedSince (pool : RecencyPool κ ν) (start : Nat) (keys : Finset κ) : Prop :=
  ∀ key pooled, pool.lookup key = some pooled → start ≤ pooled.lastUsed → key ∈ keys

/-- While fewer keys than the pool has places are in use, the values in use stay. -/
theorem lookup_makeRoom_of_usedSince {pooled : Pooled ν} {keys : Finset κ}
    (found : pool.lookup key = some pooled) (used : pool.UsedSince pooled.lastUsed keys)
    (few : keys.card < capacity) :
    (pool.makeRoom order capacity).lookup key = some pooled := by
  rw [makeRoom]
  split
  · rename_i full
    rw [lookup_evictOldest_of_ne ?_, found]
    -- if the key were the oldest, all keys of the full pool would be in use
    intro chosen
    have inside : pool.keys.toFinset ⊆ keys := by
      intro other member
      rw [List.mem_toFinset, ← AList.mem_keys, ← AList.lookup_isSome,
        Option.isSome_iff_exists] at member
      obtain ⟨pooled', found'⟩ := member
      exact used other pooled' found' (lastUsed_le_of_oldest chosen found found')
    have counted := Finset.card_le_card inside
    rw [List.toFinset_card_of_nodup pool.keys_nodup] at counted
    have sizes : pool.keys.length = pool.size := List.length_map _
    omega
  · exact found

theorem UsedSince.retain {keys : Finset κ} {start : Nat} (used : pool.UsedSince start keys)
    (keep : Pooled ν → Bool) : (pool.retain keep).UsedSince start keys := by
  intro key pooled found since
  rw [lookup_retain, Option.filter_eq_some_iff] at found
  exact used key pooled found.1 since

theorem UsedSince.makeRoom {keys : Finset κ} {start : Nat} (used : pool.UsedSince start keys) :
    (pool.makeRoom order capacity).UsedSince start keys :=
  fun key pooled found since => used key pooled (lookup_of_makeRoom found) since

theorem UsedSince.insert {keys : Finset κ} {start : Nat} (used : pool.UsedSince start keys)
    (member : key ∈ keys) (pooled : Pooled ν) :
    RecencyPool.UsedSince (pool.insert key pooled) start keys := by
  intro other pooled' found since
  by_cases same : other = key
  · exact same ▸ member
  · rw [AList.lookup_insert_ne same] at found
    exact used other pooled' found since

theorem UsedSince.erase {keys : Finset κ} {start : Nat} (used : pool.UsedSince start keys)
    (key : κ) : RecencyPool.UsedSince (pool.erase key) start keys := by
  intro other pooled found since
  by_cases same : other = key
  · subst same
    rw [AList.lookup_erase] at found
    cases found
  · rw [AList.lookup_erase_ne same] at found
    exact used other pooled found since

theorem UsedSince.touch {keys : Finset κ} {start : Nat} (used : pool.UsedSince start keys)
    (member : key ∈ keys) (now : Nat) : (pool.touch now key).UsedSince start keys := by
  rw [RecencyPool.touch]
  split
  · exact used.insert member _
  · exact used

theorem UsedSince.mono {keys : Finset κ} {start later : Nat} (used : pool.UsedSince start keys)
    (passed : start ≤ later) : pool.UsedSince later keys :=
  fun key pooled found since => used key pooled found (passed.trans since)

end RecencyPool

end CyxCloud.Library
