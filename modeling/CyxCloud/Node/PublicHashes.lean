import CyxCloud.Core.Erasure
import CyxCloud.Library.Dictionaries
import CyxCloud.Library.Runs
import CyxCloud.Library.Separators
import CyxCloud.Library.Tables
import Mathlib.Data.List.Find

/-!
# Public dataset hashes

The offline registry of `cyxcloud-node/src/verification.rs`.  A name and a version are joined at a
colon into one key, and the key is split at its colons when a hash is looked up.
-/

namespace CyxCloud.Node

open CyxCloud.Core Library

/-! ## Registry -/

/-- Well-known public dataset hashes for offline verification. -/
structure PublicDatasetHashes where
  hashes : Dictionary String Bytes

namespace PublicDatasetHashes

/-- A registry of no hashes; `with_common_datasets` gives the same one. -/
def new : PublicDatasetHashes := { hashes := ∅ }

/-- Register a known public dataset hash. -/
def register (registry : PublicDatasetHashes) (name version : String) (hash : Bytes) :
    PublicDatasetHashes :=
  { registry with hashes := registry.hashes.insert (name ++ ":" ++ version) hash }

/-- The name and version of an entry with a hash, if its key has one colon. -/
def selectEntry (contentHash : Bytes) (entry : Sigma fun _ : String => Bytes) :
    Option (String × String) :=
  if entry.2 = contentHash then
    match entry.1.toList.splitOn ':' with
    | [name, version] => some (.ofList name, .ofList version)
    | _ => none
  else none

/-- Check if a hash matches a known public dataset.  The entries come in the order of the hash
table. -/
def findMatch (registry : PublicDatasetHashes) (order : RowOrder (Sigma fun _ : String => Bytes))
    (contentHash : Bytes) : Option (String × String) :=
  (order.arrange registry.hashes.entries).findSome? (selectEntry contentHash)

end PublicDatasetHashes

/-! ## Histories -/

/-- The arguments of one `register` call. -/
structure Registration where
  name : String
  version : String
  hash : Bytes

namespace Registration

variable (call : Registration)

/-- The registered name and version. -/
def pair : String × String := (call.name, call.version)

/-- The key under which the hash is stored. -/
def key : String := call.name ++ ":" ++ call.version

end Registration

/-- The registry after a sequence of calls. -/
def registeredHashes (calls : List Registration) : PublicDatasetHashes :=
  runAll (fun registry (call : Registration) => registry.register call.name call.version call.hash)
    .new calls

/-- The hash of the latest call that is selected. -/
def latestHash (selects : Registration → Bool) (calls : List Registration) : Option Bytes :=
  (calls.reverse.find? selects).map Registration.hash

/-- The hash that was last registered for a name and version. -/
def currentHash (calls : List Registration) (pair : String × String) : Option Bytes :=
  latestHash (fun call => call.pair = pair) calls

/-- Neither the name nor the version has a colon. -/
def PlainPair (pair : String × String) : Prop :=
  ':' ∉ pair.1.toList ∧ ':' ∉ pair.2.toList

/-- A lookup gives a pair whose current hash it is, if there is one, and nothing otherwise. -/
def FindsCurrent (calls : List Registration) : Prop :=
  ∀ order contentHash, match (registeredHashes calls).findMatch order contentHash with
    | some pair => currentHash calls pair = some contentHash
    | none => ∀ pair, currentHash calls pair ≠ some contentHash

/-- A pair that is registered for the first time overwrites nothing. -/
def OverwritesNothing (calls : List Registration) : Prop :=
  ∀ before (call : Registration) after, calls = before ++ call :: after →
    call.pair ∉ before.map Registration.pair →
      (registeredHashes before).hashes.lookup call.key = none

/-- No colon in the name of one registered pair is where the colon of another is put. -/
def NoShiftedColons (calls : List Registration) : Prop :=
  ∀ call ∈ calls, ∀ other ∈ calls, ∀ between : String,
    other.name = call.name ++ ":" ++ between → call.version ≠ between ++ ":" ++ other.version

/-- Every current hash is the current hash of a pair without colons. -/
def PlainHashes (calls : List Registration) : Prop :=
  ∀ pair contentHash, currentHash calls pair = some contentHash →
    ∃ plain, PlainPair plain ∧ currentHash calls plain = some contentHash

/-! ## Keys -/

theorem key_toList (call : Registration) :
    call.key.toList = call.name.toList ++ ':' :: call.version.toList := by
  simp [Registration.key]

theorem toList_eq_joined_iff {text first : String} {second : List Char} :
    text.toList = first.toList ++ ':' :: second ↔ text = first ++ ":" ++ .ofList second := by
  rw [← String.toList_inj]
  simp

theorem key_eq_of_pair_eq {call other : Registration} (same : call.pair = other.pair) :
    call.key = other.key := by
  obtain ⟨name_eq, version_eq⟩ := Prod.mk.inj same
  rw [Registration.key, name_eq, version_eq, Registration.key]

/-- A pair without colons shares its key with no other pair. -/
theorem PlainPair.pair_eq {call other : Registration} (plain : PlainPair call.pair)
    (same : call.key = other.key) : call.pair = other.pair := by
  have joined := congrArg String.toList same
  rw [key_toList, key_toList] at joined
  obtain ⟨name_eq, version_eq⟩ := joined_inj_of_not_mem plain.1 plain.2 joined
  exact Prod.ext (String.toList_inj.mp name_eq) (String.toList_inj.mp version_eq)

theorem NoShiftedColons.pair_eq {calls : List Registration} (apart : NoShiftedColons calls)
    {call other : Registration} (member : call ∈ calls) (member' : other ∈ calls)
    (same : call.key = other.key) : call.pair = other.pair := by
  rw [← String.toList_inj, key_toList, key_toList] at same
  rcases joined_eq_iff.mp same with ⟨name_eq, version_eq⟩ | ⟨between, name_eq, version_eq⟩ |
    ⟨between, name_eq, version_eq⟩
  · exact Prod.ext (String.toList_inj.mp name_eq) (String.toList_inj.mp version_eq)
  · refine absurd ?_ (apart call member other member' (.ofList between)
      (toList_eq_joined_iff.mp name_eq))
    simp [← String.toList_inj, version_eq]
  · refine absurd ?_ (apart other member' call member (.ofList between)
      (toList_eq_joined_iff.mp name_eq))
    simp [← String.toList_inj, version_eq]

/-- A colon in the place of another gives two pairs one key. -/
theorem key_eq_of_shifted {call other : Registration} {between : String}
    (name_eq : other.name = call.name ++ ":" ++ between)
    (version_eq : call.version = between ++ ":" ++ other.version) : call.key = other.key := by
  rw [Registration.key, Registration.key, name_eq, version_eq]
  simp only [String.append_assoc]

theorem pair_ne_of_shifted {call other : Registration} {between : String}
    (name_eq : other.name = call.name ++ ":" ++ between) : call.pair ≠ other.pair := by
  intro same
  have name_same := (Prod.mk.inj same).1
  rw [name_eq] at name_same
  have lengths := congrArg (fun text => text.toList.length) name_same
  simp at lengths

/-! ## Stored hashes -/

theorem registeredHashes_append (calls : List Registration) (call : Registration) :
    registeredHashes (calls ++ [call]) =
      (registeredHashes calls).register call.name call.version call.hash := by
  simp [registeredHashes, runAll]

theorem latestHash_append (selects : Registration → Bool) (calls : List Registration)
    (call : Registration) : latestHash selects (calls ++ [call]) =
      if selects call then some call.hash else latestHash selects calls := by
  rw [latestHash, List.reverse_append, List.reverse_singleton, List.singleton_append,
    List.find?_cons]
  cases selects call <;> rfl

theorem latestHash_congr {selects selects' : Registration → Bool} {calls : List Registration}
    (agree : ∀ call ∈ calls, selects call = selects' call) :
    latestHash selects calls = latestHash selects' calls := by
  rw [latestHash, latestHash, List.find?_congr fun call member =>
    agree call (List.mem_reverse.mp member)]

theorem latestHash_eq_none_iff {selects : Registration → Bool} {calls : List Registration} :
    latestHash selects calls = none ↔ ∀ call ∈ calls, selects call = false := by
  simp [latestHash]

/-- Under a key is the hash of the latest call with that key. -/
theorem lookup_registeredHashes (calls : List Registration) (key : String) :
    (registeredHashes calls).hashes.lookup key = latestHash (fun call => call.key = key) calls := by
  induction calls using List.reverseRecOn with
  | nil => rfl
  | append_singleton calls call induction =>
      rw [registeredHashes_append, latestHash_append]
      by_cases same : call.key = key
      · subst same
        rw [if_pos (decide_eq_true rfl)]
        exact AList.lookup_insert _
      · rw [if_neg (by simpa using same), ← induction]
        exact AList.lookup_insert_ne fun key_eq => same key_eq.symm

/-- Under the key of a pair without colons is its current hash. -/
theorem PlainPair.lookup {pair : String × String} (plain : PlainPair pair)
    (calls : List Registration) :
    (registeredHashes calls).hashes.lookup (pair.1 ++ ":" ++ pair.2) = currentHash calls pair := by
  rw [lookup_registeredHashes]
  let registration : Registration := ⟨pair.1, pair.2, []⟩
  have plain' : PlainPair registration.pair := plain
  refine latestHash_congr fun other _ => decide_eq_decide.mpr ⟨fun same => ?_, fun same => ?_⟩
  · exact (plain'.pair_eq same.symm).symm
  · exact @key_eq_of_pair_eq other registration same

/-! ## Lookups -/

/-- An entry is selected if it has the hash and its key is that of a pair without colons. -/
theorem selectEntry_eq_some_iff {contentHash : Bytes} {entry : Sigma fun _ : String => Bytes}
    {pair : String × String} : PublicDatasetHashes.selectEntry contentHash entry = some pair ↔
      entry.2 = contentHash ∧ entry.1 = pair.1 ++ ":" ++ pair.2 ∧ PlainPair pair := by
  obtain ⟨name, version⟩ := pair
  have splits : entry.1.toList.splitOn ':' = [name.toList, version.toList] ↔
      entry.1 = name ++ ":" ++ version ∧ PlainPair (name, version) := by
    rw [splitOn_eq_pair_iff, toList_eq_joined_iff, String.ofList_toList]
    rfl
  rw [← splits, PublicDatasetHashes.selectEntry]
  by_cases matching : entry.2 = contentHash
  · rw [if_pos matching]
    split
    · rename_i first second parts_eq
      rw [parts_eq]
      simp [matching, ← String.toList_inj]
    · rename_i other
      simp only [reduceCtorEq, false_iff, not_and]
      exact fun _ => other _ _
  · simp [matching]

/-- What a lookup finds is a pair without colons whose current hash it is. -/
theorem findMatch_eq_some {calls : List Registration}
    {order : RowOrder (Sigma fun _ : String => Bytes)} {contentHash : Bytes}
    {pair : String × String}
    (found : (registeredHashes calls).findMatch order contentHash = some pair) :
    PlainPair pair ∧ currentHash calls pair = some contentHash := by
  obtain ⟨entry, member, selected⟩ := List.exists_of_findSome?_eq_some found
  obtain ⟨hash_eq, key_eq, plain⟩ := selectEntry_eq_some_iff.mp selected
  refine ⟨plain, ?_⟩
  have stored := Dictionary.lookup_of_mem_entries ((order.arrange_perm _).mem_iff.mp member)
  rw [hash_eq, key_eq] at stored
  rw [← stored]
  exact (plain.lookup calls).symm

/-- Nothing is found exactly if no pair without colons has the hash. -/
theorem findMatch_eq_none_iff {calls : List Registration}
    {order : RowOrder (Sigma fun _ : String => Bytes)} {contentHash : Bytes} :
    (registeredHashes calls).findMatch order contentHash = none ↔
      ∀ pair, PlainPair pair → currentHash calls pair ≠ some contentHash := by
  constructor
  · intro missing pair plain current
    rw [← plain.lookup] at current
    have stored := AList.mem_lookup_iff.mp current
    have skipped := List.findSome?_eq_none_iff.mp missing _
      ((order.arrange_perm _).mem_iff.mpr stored)
    have selected : PublicDatasetHashes.selectEntry contentHash
        ⟨pair.1 ++ ":" ++ pair.2, contentHash⟩ = some pair :=
      selectEntry_eq_some_iff.mpr ⟨rfl, rfl, plain⟩
    exact Option.some_ne_none _ (selected.symm.trans skipped)
  · intro missing
    cases found : (registeredHashes calls).findMatch order contentHash with
    | none => rfl
    | some pair =>
        obtain ⟨plain, current⟩ := findMatch_eq_some found
        exact absurd current (missing pair plain)

theorem findsCurrent_iff {calls : List Registration} : FindsCurrent calls ↔ PlainHashes calls := by
  constructor
  · intro finds pair contentHash current
    have lookup := finds .insertion contentHash
    split at lookup
    · rename_i found
      exact ⟨_, findMatch_eq_some found⟩
    · exact absurd current (lookup pair)
  · intro plainHashes order contentHash
    split
    · rename_i found
      exact (findMatch_eq_some found).2
    · rename_i missing
      intro pair current
      obtain ⟨plain, isPlain, current'⟩ := plainHashes pair contentHash current
      exact findMatch_eq_none_iff.mp missing plain isPlain current'

/-! ## Overwritten entries -/

/-- Where nothing is overwritten, calls with one key have one pair. -/
theorem OverwritesNothing.pair_eq {calls : List Registration} (nothing : OverwritesNothing calls)
    {call other : Registration} (member : call ∈ calls) (member' : other ∈ calls)
    (same : call.key = other.key) : call.pair = other.pair := by
  induction calls using List.reverseRecOn generalizing call other with
  | nil => exact absurd member List.not_mem_nil
  | append_singleton calls latest induction =>
      have earlier : OverwritesNothing calls := by
        intro before registered after calls_eq
        exact nothing before registered (after ++ [latest]) (by simp [calls_eq])
      -- The latest call shares its key only with calls of its pair.
      have atLatest : ∀ call ∈ calls, call.key = latest.key → call.pair = latest.pair := by
        intro call member same
        by_cases new : latest.pair ∈ calls.map Registration.pair
        · obtain ⟨first, member', pair_eq⟩ := List.mem_map.mp new
          rw [← pair_eq]
          exact induction earlier member member' (same.trans (key_eq_of_pair_eq pair_eq).symm)
        · have missing := nothing calls latest [] rfl new
          rw [lookup_registeredHashes, latestHash_eq_none_iff] at missing
          exact absurd same (of_decide_eq_false (missing call member))
      rcases List.mem_append.mp member with before | last <;>
        rcases List.mem_append.mp member' with before' | last'
      · exact induction earlier before before' same
      · obtain rfl := List.mem_singleton.mp last'
        exact atLatest call before same
      · obtain rfl := List.mem_singleton.mp last
        exact (atLatest other before' same.symm).symm
      · rw [List.mem_singleton.mp last, List.mem_singleton.mp last']

theorem overwritesNothing_iff {calls : List Registration} :
    OverwritesNothing calls ↔ NoShiftedColons calls := by
  constructor
  · intro nothing call member other member' between name_eq version_eq
    exact pair_ne_of_shifted name_eq
      (nothing.pair_eq member member' (key_eq_of_shifted name_eq version_eq))
  · intro apart before call after calls_eq new
    rw [lookup_registeredHashes, latestHash_eq_none_iff]
    intro earlier member
    refine decide_eq_false fun same => new (List.mem_map.mpr ⟨earlier, member, ?_⟩)
    refine apart.pair_eq ?_ ?_ same <;> rw [calls_eq]
    · exact List.mem_append_left _ member
    · exact List.mem_append_right _ List.mem_cons_self

/-- Lookups find the current hashes and no pair overwrites another exactly if every current hash is
that of a pair without colons and no colon takes the place of another. -/
theorem publicHashes_faithful_iff (calls : List Registration) :
    FindsCurrent calls ∧ OverwritesNothing calls ↔ PlainHashes calls ∧ NoShiftedColons calls :=
  and_congr findsCurrent_iff overwritesNothing_iff

/-- The registered hash of a dataset with a colon in its name is not found. -/
theorem publicHashes_missed :
    ¬ ∀ calls, FindsCurrent calls ∧ OverwritesNothing calls := by
  intro all
  have finds := (all [⟨"vision:mnist", "1.0", [7]⟩]).1 .insertion [7]
  have missing : (registeredHashes [⟨"vision:mnist", "1.0", [7]⟩]).findMatch .insertion [7] =
      none := by decide
  rw [missing] at finds
  exact finds ("vision:mnist", "1.0") (by decide)

end CyxCloud.Node
