import CyxCloud.Library.Dictionaries
import Mathlib.Data.List.Infix

/-!
# Trees of files

Files and directories below a root.  Files are written one after the other, each with the directories
above it.  If no path is above another one, all of them get there.
-/

namespace CyxCloud.Library

/-- Files and directories below a root.  What is above a file or a directory is a directory, and no
directory is a file. -/
structure FileTree (ν β : Type*) where
  files : Dictionary (List ν) β
  directories : List (List ν)
  root : [] ∈ directories
  closed : ∀ path ∈ directories, ∀ above, above <+: path → above ∈ directories
  parents : ∀ path ∈ files, path.dropLast ∈ directories
  apart : ∀ path ∈ directories, path ∉ files

namespace FileTree

variable {ν β : Type*}

/-- A root without files. -/
def empty : FileTree ν β where
  files := ∅
  directories := [[]]
  root := List.mem_singleton_self _
  closed := by
    intro path member above below
    obtain rfl := List.mem_singleton.mp member
    rw [List.prefix_nil.mp below]
    exact member
  parents := fun path nothing => absurd nothing (AList.notMem_empty path)
  apart := fun path _ => AList.notMem_empty path

section

variable [DecidableEq ν]

/-- Make a directory and all above it, unless one of them is a file. -/
def createDirAll (tree : FileTree ν β) (path : List ν) : Option (FileTree ν β) :=
  if free : ∀ above ∈ path.inits, above ∉ tree.files then
    some
      { files := tree.files
        directories := path.inits ++ tree.directories
        root := List.mem_append_right _ tree.root
        closed := by
          intro known member above below
          rcases List.mem_append.mp member with new | old
          · have reached := below.trans ((List.mem_inits _ _).mp new)
            exact List.mem_append_left _ ((List.mem_inits _ _).mpr reached)
          · exact List.mem_append_right _ (tree.closed known old above below)
        parents := fun known member => List.mem_append_right _ (tree.parents known member)
        apart := fun known member =>
          (List.mem_append.mp member).elim (free known) (tree.apart known) }
  else
    none

/-- Write a file into a directory, unless a directory is in its place. -/
def createFile (tree : FileTree ν β) (path : List ν) (content : β) : Option (FileTree ν β) :=
  if located : path.dropLast ∈ tree.directories ∧ path ∉ tree.directories then
    some
      { files := tree.files.insert path content
        directories := tree.directories
        root := tree.root
        closed := tree.closed
        parents := by
          intro known member
          rcases (AList.mem_insert _).mp member with rfl | old
          · exact located.1
          · exact tree.parents known old
        apart := by
          intro known member written
          rcases (AList.mem_insert _).mp written with rfl | old
          · exact located.2 member
          · exact tree.apart known member old }
  else
    none

/-- Write a file with the directories above it. -/
def writeFile (tree : FileTree ν β) (path : List ν) (content : β) : Option (FileTree ν β) :=
  (tree.createDirAll path.dropLast).bind fun tree => tree.createFile path content

end

/-! ## Paths of files -/

section

variable {tree : FileTree ν β} {path other : List ν}

theorem ne_nil_of_mem (member : path ∈ tree.files) : path ≠ [] := by
  rintro rfl
  exact tree.apart [] tree.root member

theorem prefix_dropLast (nonempty : path ≠ []) (below : other <+: path) (differs : other ≠ path) :
    other <+: path.dropLast := by
  rw [← List.dropLast_concat_getLast nonempty, List.prefix_concat_iff] at below
  rcases below with same | below
  · rw [List.dropLast_concat_getLast nonempty] at same
    exact absurd same differs
  · exact below

/-- No file is below another one. -/
theorem eq_of_below (member : path ∈ tree.files) (member' : other ∈ tree.files)
    (below : other <+: path) : other = path := by
  by_contra differs
  have above := prefix_dropLast (ne_nil_of_mem member) below differs
  exact tree.apart other (tree.closed _ (tree.parents path member) other above) member'

variable [DecidableEq ν] {tree' : FileTree ν β}

theorem files_of_createDirAll (made : tree.createDirAll path = some tree') :
    tree'.files = tree.files := by
  unfold createDirAll at made
  split at made
  · cases made
    rfl
  · exact nomatch made

theorem mem_files_of_createFile {content : β} (created : tree.createFile path content = some tree')
    (member : other ∈ tree'.files) : other = path ∨ other ∈ tree.files := by
  unfold createFile at created
  split at created
  · cases created
    exact (AList.mem_insert _).mp member
  · exact nomatch created

end

/-! ## Files that are written in a row -/

/-- Two paths, neither above the other. -/
def Unrelated (path other : List ν) : Prop := ¬ path <+: other ∧ ¬ other <+: path

instance [DecidableEq ν] (path other : List ν) : Decidable (Unrelated path other) :=
  inferInstanceAs (Decidable (_ ∧ _))

/-- A tree has exactly some files, and no directories but those above them. -/
structure Holds [DecidableEq ν] (tree : FileTree ν β) (entries : List (List ν × β)) : Prop where
  written : ∀ entry ∈ entries, tree.files.lookup entry.1 = some entry.2
  nothing_else : ∀ path ∈ tree.files, ∃ entry ∈ entries, entry.1 = path
  above : ∀ path ∈ tree.directories, path ≠ [] →
    ∃ entry ∈ entries, path <+: entry.1 ∧ path ≠ entry.1

section

variable [DecidableEq ν] {tree : FileTree ν β} {entries : List (List ν × β)}

theorem holds_empty : Holds (empty : FileTree ν β) [] where
  written := fun _ nothing => nomatch nothing
  nothing_else := fun path nothing => absurd nothing (AList.notMem_empty path)
  above := by
    intro path member nonempty
    exact absurd (List.mem_singleton.mp member) nonempty

/-- A file unrelated to the others is written next to them. -/
theorem Holds.writeFile (holds : Holds tree entries) {entry : List ν × β} (nonempty : entry.1 ≠ [])
    (unrelated : ∀ other ∈ entries, Unrelated other.1 entry.1) :
    ∃ tree', tree.writeFile entry.1 entry.2 = some tree' ∧ Holds tree' (entries ++ [entry]) := by
  have free : ∀ above ∈ entry.1.dropLast.inits, above ∉ tree.files := by
    intro above member present
    obtain ⟨other, listed, rfl⟩ := holds.nothing_else above present
    exact (unrelated other listed).1
      (((List.mem_inits _ _).mp member).trans (List.dropLast_prefix entry.1))
  have proper : entry.1.dropLast ≠ entry.1 := fun same => by
    have shorter := congrArg List.length same
    rw [List.length_dropLast] at shorter
    have positive := List.length_pos_iff.mpr nonempty
    omega
  have directories : ∀ path ∈ entry.1.dropLast.inits ++ tree.directories, path ≠ [] →
      ∃ other ∈ entries ++ [entry], path <+: other.1 ∧ path ≠ other.1 := by
    intro path member nonempty'
    rcases List.mem_append.mp member with new | old
    · have below := (List.mem_inits _ _).mp new
      refine ⟨entry, by simp, below.trans (List.dropLast_prefix _), ?_⟩
      rintro rfl
      exact proper (List.dropLast_prefix _ |>.eq_of_length_le below.length_le)
    · obtain ⟨other, listed, below⟩ := holds.above path old nonempty'
      exact ⟨other, List.mem_append_left _ listed, below⟩
  have vacant : entry.1 ∉ entry.1.dropLast.inits ++ tree.directories := by
    intro member
    rcases List.mem_append.mp member with new | old
    · have below := (List.mem_inits _ _).mp new
      exact proper ((List.dropLast_prefix _).eq_of_length_le below.length_le)
    · obtain ⟨other, listed, below, -⟩ := holds.above entry.1 old nonempty
      exact (unrelated other listed).2 below
  have located : entry.1.dropLast ∈ entry.1.dropLast.inits ++ tree.directories :=
    List.mem_append_left _ ((List.mem_inits _ _).mpr (List.prefix_refl _))
  refine ⟨_, by rw [FileTree.writeFile, createDirAll, dif_pos free, Option.bind_some, createFile,
    dif_pos ⟨located, vacant⟩], ?_, ?_, directories⟩
  · intro other member
    rcases List.mem_append.mp member with old | new
    · have differs : other.1 ≠ entry.1 := fun same =>
        (unrelated other old).1 (same ▸ List.prefix_refl _)
      exact (AList.lookup_insert_ne differs).trans (holds.written other old)
    · obtain rfl := List.mem_singleton.mp new
      exact AList.lookup_insert _
  · intro path member
    rcases (AList.mem_insert _).mp member with rfl | old
    · exact ⟨entry, by simp, rfl⟩
    · obtain ⟨other, listed, same⟩ := holds.nothing_else path old
      exact ⟨other, List.mem_append_left _ listed, same⟩

/-- Unrelated files are written one after the other, whatever else a step does when it cannot write
its file. -/
theorem Holds.foldl {α : Type*} {step : FileTree ν β → α → FileTree ν β} {entry : α → List ν × β}
    (holds : Holds tree entries) {ops : List α}
    (writes : ∀ op ∈ ops, ∀ tree tree', tree.writeFile (entry op).1 (entry op).2 = some tree' →
      step tree op = tree')
    (nonempty : ∀ op ∈ ops, (entry op).1 ≠ [])
    (unrelated : (entries ++ ops.map entry).Pairwise fun left right =>
      Unrelated left.1 right.1) :
    Holds (ops.foldl step tree) (entries ++ ops.map entry) := by
  induction ops generalizing tree entries with
  | nil => simpa using holds
  | cons op ops induction =>
      have before : ∀ other ∈ entries, Unrelated other.1 (entry op).1 := by
        intro other member
        exact (List.pairwise_append.mp unrelated).2.2 other member _ List.mem_cons_self
      obtain ⟨tree', written, holds'⟩ := holds.writeFile (nonempty op List.mem_cons_self) before
      have rest := induction holds' (fun later member => writes later (List.mem_cons_of_mem _ member))
        (fun later member => nonempty later (List.mem_cons_of_mem _ member))
        (by rwa [List.append_assoc])
      rw [List.append_assoc] at rest
      rwa [List.foldl_cons, writes op List.mem_cons_self tree tree' written]

end

end FileTree

end CyxCloud.Library
