import CyxCloud.Core.Chunk
import CyxCloud.Storage.Backends
import Mathlib.Logic.Function.Basic

/-!
# The metadata store

The file operations of `cyxcloud-storage/src/sled_backend.rs`: a tree of files by identifier and a
tree that indexes them by name.  Each call of the database fails with a text that the environment
gives, or goes through.
-/

namespace CyxCloud.Storage

open CyxCloud.Core Library

/-- Metadata of a file. -/
structure FileMetadata where
  /-- File identifier. -/
  id : Uuid
  /-- Original filename. -/
  name : String
  /-- Total bytes. -/
  size : Nat
  /-- MIME type, if detected. -/
  contentType : Option String := none
  /-- Chunks that make up the file. -/
  chunks : List Bytes := []
  /-- Whether the file is encrypted. -/
  encrypted : Bool := false
  /-- Creation time. -/
  createdAt : Int
  /-- Time of the last modification. -/
  modifiedAt : Int
  /-- Public key or wallet of the owner. -/
  owner : Option String := none
  /-- Custom metadata. -/
  custom : List (String × String) := []
  deriving DecidableEq, Repr

/-- The trees of the metadata store that hold files. -/
structure SledMetadataStore where
  /-- The tree `files`. -/
  files : Uuid → Option FileMetadata
  /-- The tree `files_by_name`. -/
  filesByName : String → Option Uuid

/-- The text of a failing call of the database, for each kind of call that an operation makes. -/
structure SledFaults where
  read : Option String := none
  filesByName : Option String := none
  files : Option String := none
  deriving DecidableEq, Repr

namespace SledMetadataStore

/-- The store that `open_temporary` gives. -/
def openTemporary : SledMetadataStore where
  files := fun _ => none
  filesByName := fun _ => none

/-- Store the metadata of a file and index it by its name. -/
def putFile (store : SledMetadataStore) (faults : SledFaults) (file : FileMetadata) :
    SledMetadataStore × Except StorageError Unit :=
  match faults.files with
  | some cause => (store, .error (.storage cause))
  | none =>
      let store := { store with files := Function.update store.files file.id (some file) }
      match faults.filesByName with
      | some cause => (store, .error (.storage cause))
      | none =>
          ({ store with filesByName := Function.update store.filesByName file.name (some file.id) },
            .ok ())

/-- Get the metadata of a file. -/
def getFile (store : SledMetadataStore) (id : Uuid) : Option FileMetadata := store.files id

/-- Get the metadata of a file by its name. -/
def getFileByName (store : SledMetadataStore) (name : String) : Option FileMetadata :=
  match store.filesByName name with
  | some id => store.getFile id
  | none => none

/-- Delete the metadata of a file and the entry of its name; the result says whether the file was
stored. -/
def deleteFile (store : SledMetadataStore) (faults : SledFaults) (id : Uuid) :
    SledMetadataStore × Except StorageError Bool :=
  match faults.read with
  | some cause => (store, .error (.storage cause))
  | none =>
      match store.getFile id with
      | none =>
          match faults.files with
          | some cause => (store, .error (.storage cause))
          | none => (store, .ok false)
      | some file =>
          match faults.filesByName with
          | some cause => (store, .error (.storage cause))
          | none =>
              let store :=
                { store with filesByName := Function.update store.filesByName file.name none }
              match faults.files with
              | some cause => (store, .error (.storage cause))
              | none => ({ store with files := Function.update store.files id none }, .ok true)

/-- An operation on the files of the store, with the failures of the calls it makes. -/
inductive FileOp where
  | putFile (faults : SledFaults) (file : FileMetadata)
  | deleteFile (faults : SledFaults) (id : Uuid)

/-- The store after an operation. -/
def apply (store : SledMetadataStore) : FileOp → SledMetadataStore
  | .putFile faults file => (store.putFile faults file).1
  | .deleteFile faults id => (store.deleteFile faults id).1

/-! ## Consistency of the name index -/

/-- A file found by a name has that name and is stored, and the name of every stored file finds a
file. -/
structure IndexConsistent (store : SledMetadataStore) : Prop where
  found : ∀ name file, store.getFileByName name = some file →
    file.name = name ∧ ∃ id, store.getFile id = some file
  complete : ∀ id file, store.getFile id = some file → (store.getFileByName file.name).isSome

/-- The two trees match: entries lead to stored files of their name, every stored file has its name
indexed, and files are stored under their identifiers. -/
structure TreesMatch (store : SledMetadataStore) : Prop where
  entry : ∀ name id, store.filesByName name = some id →
    ∃ file, store.files id = some file ∧ file.name = name
  indexed : ∀ id file, store.files id = some file → (store.filesByName file.name).isSome
  identified : ∀ id file, store.files id = some file → file.id = id

/-- A put keeps the index consistent when it does not take its name from a file that the index
finds under another name; if the index is not written, the name has to be indexed already.  A
delete does when no other file has the name of the deleted one; if the file is not removed, there
must have been none. -/
def KeepsIndex (store : SledMetadataStore) : FileOp → Prop
  | .putFile faults file =>
      faults.files = none →
        (∀ name, store.filesByName name = some file.id → name = file.name) ∧
          (faults.filesByName = none ∨ (store.filesByName file.name).isSome)
  | .deleteFile faults id =>
      faults.read = none → faults.filesByName = none → ∀ file, store.files id = some file →
        faults.files = none ∧
          ∀ other twin, store.files other = some twin → twin.name = file.name → other = id

theorem TreesMatch.indexConsistent {store : SledMetadataStore} (trees : TreesMatch store) :
    IndexConsistent store := by
  constructor
  · intro name file found
    cases entry : store.filesByName name with
    | none => simp [getFileByName, entry] at found
    | some id =>
        obtain ⟨stored, stored_eq, named⟩ := trees.entry name id entry
        have same : stored = file := by simpa [getFileByName, entry, getFile, stored_eq] using found
        exact ⟨same ▸ named, id, same ▸ stored_eq⟩
  · intro id file stored
    obtain ⟨other, entry⟩ := Option.isSome_iff_exists.mp (trees.indexed id file stored)
    obtain ⟨twin, stored', -⟩ := trees.entry _ other entry
    simp [getFileByName, entry, getFile, stored']

theorem treesMatch_openTemporary : TreesMatch openTemporary := by
  constructor <;> simp [openTemporary]

section

variable {store : SledMetadataStore} {faults : SledFaults} {file : FileMetadata} {id : Uuid}

/-- A put that writes the file either writes the entry of its name too or leaves the index alone. -/
theorem apply_putFile (store : SledMetadataStore) (file : FileMetadata)
    (written : faults.files = none) :
    (store.apply (.putFile faults file)).files =
        Function.update store.files file.id (some file) ∧
      (store.apply (.putFile faults file)).filesByName =
        if faults.filesByName = none then
          Function.update store.filesByName file.name (some file.id)
        else
          store.filesByName := by
  cases named : faults.filesByName <;> simp [apply, putFile, written, named]

theorem apply_putFile_of_failed (failed : faults.files ≠ none) :
    store.apply (.putFile faults file) = store := by
  obtain ⟨cause, files_eq⟩ := Option.ne_none_iff_exists'.mp failed
  simp [apply, putFile, files_eq]

/-- A delete that gets as far as the index removes the entry, and then the file unless that call
fails. -/
theorem apply_deleteFile (read : faults.read = none) (named : faults.filesByName = none)
    (stored : store.files id = some file) :
    (store.apply (.deleteFile faults id)).files =
        (if faults.files = none then Function.update store.files id none else store.files) ∧
      (store.apply (.deleteFile faults id)).filesByName =
        Function.update store.filesByName file.name none := by
  cases removed : faults.files <;>
    simp [apply, deleteFile, getFile, read, named, stored, removed]

theorem apply_deleteFile_of_stopped
    (stopped : ¬ (faults.read = none ∧ faults.filesByName = none ∧ (store.files id).isSome)) :
    store.apply (.deleteFile faults id) = store := by
  cases read : faults.read with
  | some cause => simp [apply, deleteFile, read]
  | none =>
      cases stored : store.files id with
      | none => cases removed : faults.files <;> simp [apply, deleteFile, getFile, *]
      | some file =>
          cases named : faults.filesByName with
          | some cause => simp [apply, deleteFile, getFile, read, named, stored]
          | none => simp [read, named, stored] at stopped

/-- A put under its condition keeps the trees matching. -/
theorem TreesMatch.putFile (trees : TreesMatch store)
    (kept : store.KeepsIndex (.putFile faults file)) :
    TreesMatch (store.apply (.putFile faults file)) := by
  by_cases written : faults.files = none
  · obtain ⟨only, covered⟩ := kept written
    obtain ⟨files_eq, index_eq⟩ := apply_putFile store file written
    -- an entry of the new index is the written one or an old one of another name
    have entries : ∀ name other, (store.apply (.putFile faults file)).filesByName name =
        some other → (name = file.name ∧ other = file.id) ∨ store.filesByName name = some other := by
      intro name other entry
      rw [index_eq] at entry
      split at entry
      · by_cases same : name = file.name
        · subst same
          left
          simpa [eq_comm] using entry
        · right
          simpa [same] using entry
      · exact .inr entry
    constructor
    · intro name other entry
      rw [files_eq]
      obtain ⟨rfl, rfl⟩ | old := entries name other entry
      · exact ⟨file, by simp, rfl⟩
      · by_cases same : other = file.id
        · subst same
          exact ⟨file, by simp, (only name old).symm⟩
        · simpa [same] using trees.entry name other old
    · intro other stored present
      rw [files_eq] at present
      by_cases named : stored.name = file.name
      · rw [index_eq, named]
        split <;> simp_all
      · have old : store.files other = some stored := by
          by_cases same : other = file.id
          · subst same
            simp at present
            exact absurd (congrArg FileMetadata.name present).symm named
          · simpa [same] using present
        have indexed := trees.indexed other stored old
        rw [index_eq]
        split
        · simpa [named] using indexed
        · exact indexed
    · intro other stored present
      rw [files_eq] at present
      by_cases same : other = file.id
      · subst same
        simp at present
        rw [present]
      · exact trees.identified other stored (by simpa [same] using present)
  · rw [apply_putFile_of_failed written]
    exact trees

/-- A delete under its condition keeps the trees matching. -/
theorem TreesMatch.deleteFile (trees : TreesMatch store)
    (kept : store.KeepsIndex (.deleteFile faults id)) :
    TreesMatch (store.apply (.deleteFile faults id)) := by
  by_cases reached : faults.read = none ∧ faults.filesByName = none ∧ (store.files id).isSome
  · obtain ⟨read, named, present⟩ := reached
    obtain ⟨file, stored⟩ := Option.isSome_iff_exists.mp present
    obtain ⟨removed, alone⟩ := kept read named file stored
    obtain ⟨files_eq, index_eq⟩ := apply_deleteFile read named stored
    rw [if_pos removed] at files_eq
    constructor
    · intro name other entry
      have kept_name : name ≠ file.name := by
        rintro rfl
        simp [index_eq] at entry
      rw [index_eq, Function.update_of_ne kept_name] at entry
      obtain ⟨twin, twin_stored, twin_named⟩ := trees.entry name other entry
      have kept_id : other ≠ id := by
        rintro rfl
        have same : twin = file := by simpa [stored] using twin_stored.symm
        exact kept_name (twin_named ▸ congrArg FileMetadata.name same)
      exact ⟨twin, by rw [files_eq, Function.update_of_ne kept_id]; exact twin_stored, twin_named⟩
    · intro other twin twin_stored
      have kept_id : other ≠ id := by
        rintro rfl
        simp [files_eq] at twin_stored
      rw [files_eq, Function.update_of_ne kept_id] at twin_stored
      have kept_name : twin.name ≠ file.name := fun same =>
        kept_id (alone other twin twin_stored same)
      rw [index_eq, Function.update_of_ne kept_name]
      exact trees.indexed other twin twin_stored
    · intro other twin twin_stored
      have kept_id : other ≠ id := by
        rintro rfl
        simp [files_eq] at twin_stored
      rw [files_eq, Function.update_of_ne kept_id] at twin_stored
      exact trees.identified other twin twin_stored
  · rw [apply_deleteFile_of_stopped reached]
    exact trees

end

theorem TreesMatch.apply {store : SledMetadataStore} {op : FileOp} (trees : TreesMatch store)
    (kept : store.KeepsIndex op) : TreesMatch (store.apply op) := by
  cases op with
  | putFile faults file => exact trees.putFile kept
  | deleteFile faults id => exact trees.deleteFile kept

/-- A step that leaves the index consistent met the condition. -/
theorem keepsIndex_of_indexConsistent {store : SledMetadataStore} {op : FileOp}
    (consistent : IndexConsistent (store.apply op)) : store.KeepsIndex op := by
  cases op with
  | putFile faults file =>
      intro written
      obtain ⟨files_eq, index_eq⟩ := apply_putFile store file written
      constructor
      · intro name entry
        by_contra other
        -- the name still leads to the identifier, whose file is now the one put
        have entry' : (store.apply (.putFile faults file)).filesByName name = some file.id := by
          rw [index_eq]
          split
          · rw [Function.update_of_ne other]
            exact entry
          · exact entry
        have found : (store.apply (.putFile faults file)).getFileByName name = some file := by
          simp [getFileByName, entry', getFile, files_eq]
        exact other (consistent.found name file found).1.symm
      · by_cases named : faults.filesByName = none
        · exact .inl named
        · right
          have stored : (store.apply (.putFile faults file)).getFile file.id = some file := by
            simp [getFile, files_eq]
          have found := consistent.complete file.id file stored
          rw [if_neg named] at index_eq
          rw [getFileByName, index_eq] at found
          cases entry : store.filesByName file.name with
          | none => simp [entry] at found
          | some other => rfl
  | deleteFile faults id =>
      intro read named file stored
      obtain ⟨files_eq, index_eq⟩ := apply_deleteFile read named stored
      -- nothing is found under the name of the deleted file any more
      have gone : (store.apply (.deleteFile faults id)).getFileByName file.name = none := by
        simp [getFileByName, index_eq]
      have unstored : ∀ other twin, (store.apply (.deleteFile faults id)).files other = some twin →
          twin.name ≠ file.name := by
        intro other twin twin_stored same
        have found := consistent.complete other twin twin_stored
        rw [same, gone] at found
        cases found
      constructor
      · by_contra removed
        rw [if_neg removed] at files_eq
        exact unstored id file (by rw [files_eq]; exact stored) rfl
      · intro other twin twin_stored same
        by_contra kept_id
        refine unstored other twin ?_ same
        rw [files_eq]
        split
        · rw [Function.update_of_ne kept_id]
          exact twin_stored
        · exact twin_stored

/-- The name index is consistent throughout a run exactly when no put takes its name from a file
that the index finds under another one and no delete hits a file that shares its name. -/
theorem everyState_indexConsistent_iff (ops : List FileOp) :
    EveryState apply IndexConsistent openTemporary ops ↔
      EveryStep apply KeepsIndex openTemporary ops :=
  everyState_iff_of_restores TreesMatch (fun _ => TreesMatch.indexConsistent)
    (fun _ _ => TreesMatch.apply) (fun _ _ _ => keepsIndex_of_indexConsistent)
    treesMatch_openTemporary ops

/-- A renamed file is still found under its old name, and deleting one of two files of a name hides
the other. -/
theorem not_indexConsistent_of_rename_of_twin :
    ¬ EveryState apply IndexConsistent openTemporary
        [.putFile {} { id := 1, name := "draft", size := 10, createdAt := 0, modifiedAt := 0 },
          .putFile {} { id := 1, name := "final", size := 10, createdAt := 0, modifiedAt := 1 }] ∧
      ¬ EveryState apply IndexConsistent openTemporary
        [.putFile {} { id := 1, name := "notes", size := 10, createdAt := 0, modifiedAt := 0 },
          .putFile {} { id := 2, name := "notes", size := 20, createdAt := 0, modifiedAt := 0 },
          .deleteFile {} 1] := by
  constructor
  · intro every
    have named := every.last.found "draft"
      { id := 1, name := "final", size := 10, createdAt := 0, modifiedAt := 1 } (by decide)
    exact absurd named.1 (by decide)
  · intro every
    have found := every.last.complete 2
      { id := 2, name := "notes", size := 20, createdAt := 0, modifiedAt := 0 } (by decide)
    exact absurd found (by decide)

end SledMetadataStore

end CyxCloud.Storage
