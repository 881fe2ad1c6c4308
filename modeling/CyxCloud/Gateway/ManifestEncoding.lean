import CyxCloud.Gateway.DatasetVerification
import CyxCloud.Library.Ranking
import Mathlib.Data.String.Basic

/-!
# Encoded manifests

The bytes that `compute_manifest_hash` of `cyxcloud-gateway/src/verification.rs` hashes: paths and
hashes by path, one after another, with nothing that tells where a path ends.
-/

namespace CyxCloud.Gateway

open CyxCloud.Core hiding Chunk
open Library Metadata

variable {files files' : List DatasetFileRecord}

/-- The files by path. -/
def sortByPath (files : List DatasetFileRecord) : List DatasetFileRecord :=
  files.mergeSort fun left right => decide (left.pathInDataset ≤ right.pathInDataset)

/-- The bytes that are hashed. -/
def manifestStream (files : List DatasetFileRecord) : Bytes := manifestBytes (sortByPath files)

/-- The path and the hash of a file. -/
def filePair (file : DatasetFileRecord) : String × Bytes :=
  (file.pathInDataset, file.contentHash)

/-- Files of a dataset: no two have one path, and the hashes have 32 bytes. -/
structure ManifestFiles (files : List DatasetFileRecord) : Prop where
  distinct : (files.map DatasetFileRecord.pathInDataset).Nodup
  hashes : ∀ file ∈ files, file.contentHash.length = 32

/-- Two lists have the same paths and hashes. -/
def SamePairs (files files' : List DatasetFileRecord) : Prop :=
  ∀ pair, pair ∈ files.map filePair ↔ pair ∈ files'.map filePair

/-- The numbers of bytes of the paths, by path. -/
def pathLengths (files : List DatasetFileRecord) : List Nat :=
  (sortByPath files).map fun file => file.pathInDataset.toUTF8.data.toList.length

/-! ## Sorted files -/

theorem sortByPath_perm (files : List DatasetFileRecord) : (sortByPath files).Perm files :=
  List.mergeSort_perm files _

theorem sortByPath_pairwise (files : List DatasetFileRecord) :
    (sortByPath files).Pairwise fun left right => left.pathInDataset ≤ right.pathInDataset :=
  pairwise_mergeSort_by DatasetFileRecord.pathInDataset files

theorem sortByPath_of_pairwise
    (sorted : files.Pairwise fun left right => left.pathInDataset ≤ right.pathInDataset) :
    sortByPath files = files :=
  List.mergeSort_of_pairwise (sorted.imp decide_eq_true)

theorem ManifestFiles.nodup_pairs (valid : ManifestFiles files) :
    (files.map filePair).Nodup := by
  refine List.Nodup.of_map Prod.fst ?_
  rw [List.map_map]
  exact valid.distinct

/-- Without the other fields, a dataset has one order by path. -/
theorem SamePairs.sorted_eq (same : SamePairs files files') (valid : ManifestFiles files)
    (valid' : ManifestFiles files') :
    (sortByPath files).map filePair =
      (sortByPath files').map filePair := by
  have permuted : ((sortByPath files).map filePair).Perm
      ((sortByPath files').map filePair) :=
    ((sortByPath_perm files).map _).trans
      (((List.perm_ext_iff_of_nodup valid.nodup_pairs valid'.nodup_pairs).mpr same).trans
        ((sortByPath_perm files').map _).symm)
  have ordered : ∀ files : List DatasetFileRecord,
      ((sortByPath files).map filePair).Pairwise fun left right =>
        left.1 ≤ right.1 := fun files =>
    List.pairwise_map.mpr (sortByPath_pairwise files)
  refine permuted.eq_of_pairwise ?_ (ordered files) (ordered files')
  intro pair other member member' before after
  obtain ⟨file, listed, rfl⟩ := List.mem_map.mp member
  obtain ⟨file', listed', rfl⟩ := List.mem_map.mp (permuted.symm.subset member')
  have members := (sortByPath_perm files).subset
  rw [List.inj_on_of_nodup_map valid.distinct (members listed) (members listed')
    (String.le_antisymm before after)]

/-! ## Cut streams -/

theorem path_eq_of_utf8_eq {path path' : String}
    (same : path.toUTF8.data.toList = path'.toUTF8.data.toList) : path = path' :=
  String.toByteArray_inj.mp (ByteArray.ext (Array.toList_inj.mp same))

/-- With the lengths of the paths, a stream is cut in one way. -/
theorem pairs_eq_of_manifestBytes_eq (hashes : ∀ file ∈ files, file.contentHash.length = 32)
    (hashes' : ∀ file ∈ files', file.contentHash.length = 32)
    (same : manifestBytes files = manifestBytes files')
    (lengths : (files.map fun file => file.pathInDataset.toUTF8.data.toList.length) =
      files'.map fun file => file.pathInDataset.toUTF8.data.toList.length) :
    files.map filePair = files'.map filePair := by
  induction files generalizing files' with
  | nil =>
      rw [List.map_nil, eq_comm, List.map_eq_nil_iff] at lengths
      rw [lengths]
  | cons file files induction =>
      cases files' with
      | nil => exact absurd lengths (by simp)
      | cons file' files' =>
          obtain ⟨length_eq, lengths⟩ := List.cons.inj lengths
          simp only [manifestBytes, List.map_cons, List.flatten_cons, List.append_assoc] at same
          obtain ⟨path_eq, same⟩ := List.append_inj same length_eq
          have hash_lengths : file.contentHash.length = file'.contentHash.length := by
            rw [hashes file List.mem_cons_self, hashes' file' List.mem_cons_self]
          obtain ⟨hash_eq, same⟩ := List.append_inj same hash_lengths
          have rest := induction (fun other member => hashes other (List.mem_cons_of_mem _ member))
            (fun other member => hashes' other (List.mem_cons_of_mem _ member)) same lengths
          rw [List.map_cons, List.map_cons, rest, filePair, hash_eq,
            path_eq_of_utf8_eq path_eq, filePair]

/-- Two datasets with one stream have the same files exactly if the paths have the same lengths. -/
theorem samePairs_iff_pathLengths_eq (valid : ManifestFiles files) (valid' : ManifestFiles files')
    (same : manifestStream files = manifestStream files') :
    SamePairs files files' ↔ pathLengths files = pathLengths files' := by
  have permuted := (sortByPath_perm files).map filePair
  have permuted' := (sortByPath_perm files').map filePair
  constructor
  · intro pairs
    have lengths := congrArg (List.map fun pair : String × Bytes =>
      pair.1.toUTF8.data.toList.length) (pairs.sorted_eq valid valid')
    rwa [List.map_map, List.map_map] at lengths
  · intro lengths pair
    have members := (sortByPath_perm files).subset
    have members' := (sortByPath_perm files').subset
    have sorted_eq := pairs_eq_of_manifestBytes_eq
      (fun file member => valid.hashes file (members member))
      (fun file member => valid'.hashes file (members' member)) same lengths
    rw [← permuted.mem_iff, sorted_eq, permuted'.mem_iff]

/-! ## Files that are grouped otherwise -/

/-- A file of a dataset with a path and a hash. -/
def encodedFile (path : String) (contentHash : Bytes) : DatasetFileRecord :=
  { datasetId := 1
    fileId := 2
    fileIndex := 0
    pathInDataset := path
    contentHash
    sizeBytes := 1 }

/-- Two files whose first hash ends where the second path begins. -/
def shortFirst : List DatasetFileRecord :=
  [encodedFile "a" (List.replicate 32 98), encodedFile "bcd" (List.replicate 32 0)]

/-- Two files of which the first has a letter more and the second one less. -/
def longFirst : List DatasetFileRecord :=
  [encodedFile "ab" (List.replicate 32 98), encodedFile "cd" (List.replicate 32 0)]

theorem sortByPath_shortFirst : sortByPath shortFirst = shortFirst :=
  sortByPath_of_pairwise (by decide)

theorem sortByPath_longFirst : sortByPath longFirst = longFirst :=
  sortByPath_of_pairwise (by decide)

theorem manifestStream_regrouped : manifestStream shortFirst = manifestStream longFirst := by
  rw [manifestStream, manifestStream, sortByPath_shortFirst, sortByPath_longFirst]
  decide

theorem manifestFiles_shortFirst : ManifestFiles shortFirst := ⟨by decide, by decide⟩

theorem manifestFiles_longFirst : ManifestFiles longFirst := ⟨by decide, by decide⟩

theorem samePairs_iff_pathLengths_eq_regrouped :
    SamePairs shortFirst longFirst ↔ pathLengths shortFirst = pathLengths longFirst :=
  samePairs_iff_pathLengths_eq manifestFiles_shortFirst manifestFiles_longFirst
    manifestStream_regrouped

/-- Different files are hashed as the same bytes. -/
theorem manifestStream_ambiguous :
    ¬ ∀ files files', ManifestFiles files → ManifestFiles files' →
      manifestStream files = manifestStream files' → SamePairs files files' := by
  intro unambiguous
  have same := unambiguous shortFirst longFirst manifestFiles_shortFirst manifestFiles_longFirst
    manifestStream_regrouped
  have listed := (same ("a", List.replicate 32 98)).mp (by decide)
  exact absurd listed (by decide)

end CyxCloud.Gateway
