import CyxCloud.Gateway.DatasetManifest
import CyxCloud.Library.Ranking

/-!
# Indexed files

Files are added to a dataset under the positions of its request, and nothing else adds any.  The
files of a dataset have therefore distinct indices, and a query in the order of the indices delivers
them in one order only.
-/

namespace CyxCloud.Gateway

open CyxCloud.Core hiding Chunk
open Library Metadata

/-- The tables that creations lead to.  All else leaves the files of datasets alone. -/
inductive TablesReached (blake3 : Bytes → Bytes) : DatasetTables → Prop
  | start {db : DatasetTables} (none_yet : db.datasetFiles = []) : TablesReached blake3 db
  | createDataset {db : DatasetTables} (reached : TablesReached blake3 db) (env : CreateDatasetEnv)
      (userId : Uuid) (request : CreateDatasetRequest) :
      TablesReached blake3 (Gateway.createDataset blake3 env db userId request).1
  | restCreateDataset {db : DatasetTables} (reached : TablesReached blake3 db)
      (env : RestCreateDatasetEnv) (userId : Uuid) (request : RestCreateDatasetRequest) :
      TablesReached blake3 (Gateway.restCreateDataset blake3 env db userId request).1
  | other {db after : DatasetTables} (reached : TablesReached blake3 db)
      (files_eq : after.datasetFiles = db.datasetFiles)
      (kept : ∀ id, db.hasDataset id = true → after.hasDataset id = true) :
      TablesReached blake3 after

/-- The files of every dataset were added in the order of their indices. -/
structure FilesIndexed (db : DatasetTables) : Prop where
  referential : Referential db
  ascending : ∀ datasetId,
    (filesOf db datasetId).Pairwise fun left right => left.fileIndex < right.fileIndex

section Indexed

variable {db after : DatasetTables} {blake3 : Bytes → Bytes}

theorem FilesIndexed.of_files_eq (indexed : FilesIndexed db)
    (files_eq : after.datasetFiles = db.datasetFiles)
    (kept : ∀ id, db.hasDataset id = true → after.hasDataset id = true) : FilesIndexed after where
  referential row member := by
    rw [files_eq] at member
    exact kept row.datasetId (indexed.referential row member)
  ascending datasetId := by
    rw [filesOf, files_eq]
    exact indexed.ascending datasetId

/-- A dataset is inserted without files. -/
theorem FilesIndexed.createDataset (indexed : FilesIndexed db) {id : Uuid} {dataset : CreateDataset}
    {row : DatasetRecord} (ok : db.createDataset id dataset = (after, .ok row)) :
    FilesIndexed after ∧ after.hasDataset row.id = true ∧ filesOf after row.id = [] := by
  have recorded := (recorded_createDataset indexed.referential ok).1
  obtain ⟨-, -, -, rfl⟩ := createDataset_ok ok
  refine ⟨indexed.of_files_eq rfl fun id known => ?_, ?_, recorded.files⟩
  · rw [DatasetTables.hasDataset, List.any_append]
    exact Bool.or_eq_true_iff.mpr (.inl known)
  · simp [DatasetTables.hasDataset]

/-- A file is added after those with smaller indices. -/
theorem FilesIndexed.createDatasetFile (indexed : FilesIndexed db) {file row : DatasetFileRecord}
    (known : db.hasDataset file.datasetId = true)
    (below : ∀ earlier ∈ filesOf db file.datasetId, earlier.fileIndex < file.fileIndex)
    (ok : db.createDatasetFile file = (after, .ok row)) : FilesIndexed after := by
  obtain ⟨rfl, -⟩ := createDatasetFile_ok ok
  refine ⟨fun other member => ?_, fun datasetId => ?_⟩
  · rcases List.mem_append.mp member with earlier | new
    · exact indexed.referential other earlier
    · rw [List.mem_singleton.mp new]
      exact known
  · rw [filesOf, List.filter_append, ← filesOf, List.pairwise_append]
    refine ⟨indexed.ascending datasetId, (List.pairwise_singleton _ file).filter _, ?_⟩
    intro earlier earlier_mem new new_mem
    obtain ⟨new_mem, own⟩ := List.mem_filter.mp new_mem
    obtain rfl := List.mem_singleton.mp new_mem
    rw [← eq_of_beq own] at earlier_mem
    exact below earlier earlier_mem

/-- Files are looked up under their positions. -/
theorem idx_fetchFiles {env : CreateDatasetEnv} {db : Database} {idx : Nat} {fileIds : List Uuid}
    {infos : List FileInfo} (ok : fetchFiles env db idx fileIds = .ok infos) :
    infos.map FileInfo.idx = List.range' idx infos.length := by
  induction fileIds generalizing idx infos with
  | nil =>
      cases ok
      rfl
  | cons fileId rest induction =>
      rw [fetchFiles] at ok
      split at ok
      · cases ok
      · split at ok
        · cases ok
        · rename_i file _
          cases others : fetchFiles env db (idx + 1) rest with
          | error status =>
              rw [others] at ok
              cases ok
          | ok later =>
              rw [others] at ok
              cases ok
              rw [List.map_cons, induction others, List.length_cons, List.range'_succ]

/-- Adding files in the order of their positions keeps them indexed, wherever it ends. -/
theorem FilesIndexed.addFiles (indexed : FilesIndexed db) (env : CreateDatasetEnv)
    {datasetId : Uuid} (known : db.hasDataset datasetId = true) {infos : List FileInfo} {idx : Nat}
    (positions : infos.map FileInfo.idx = List.range' idx infos.length)
    (below : ∀ earlier ∈ filesOf db datasetId, earlier.fileIndex < idx) :
    FilesIndexed (addFiles env datasetId db infos).1 := by
  induction infos generalizing db idx with
  | nil => exact indexed
  | cons info rest induction =>
      rw [List.map_cons, List.length_cons, List.range'_succ, List.cons.injEq] at positions
      obtain ⟨idx_eq, positions⟩ := positions
      have index_eq : (info.row datasetId).fileIndex = idx := congrArg Int.ofNat idx_eq
      rw [Gateway.addFiles]
      split
      · exact indexed
      · split
        · exact indexed
        · rename_i added _ file_ok
          have added_indexed : FilesIndexed added :=
            indexed.createDatasetFile known (by rwa [index_eq]) file_ok
          obtain ⟨rfl, -⟩ := createDatasetFile_ok file_ok
          refine induction added_indexed known positions fun earlier member => ?_
          rw [filesOf, List.filter_append] at member
          rcases List.mem_append.mp member with before | new
          · have smaller := below earlier before
            omega
          · have earlier_eq := List.mem_singleton.mp (List.mem_filter.mp new).1
            rw [earlier_eq, index_eq]
            omega

theorem TablesReached.indexed (reached : TablesReached blake3 db) : FilesIndexed db := by
  induction reached with
  | start none_yet =>
      refine ⟨fun row member => ?_, fun datasetId => ?_⟩
      · rw [none_yet] at member
        cases member
      · rw [filesOf, none_yet]
        exact List.Pairwise.nil
  | createDataset _ env userId request indexed =>
      unfold Gateway.createDataset
      split
      · exact indexed
      · split
        · exact indexed
        · split
          · exact indexed
          · rename_i infos fetched
            split
            · exact indexed
            · split
              · exact indexed
              · split
                · exact indexed
                · rename_i created row row_ok
                  obtain ⟨created_indexed, known, no_files⟩ := indexed.createDataset row_ok
                  have added := created_indexed.addFiles env known (idx_fetchFiles fetched)
                    (by simp [no_files])
                  split <;> rename_i added_eq <;> rwa [added_eq] at added
  | restCreateDataset _ env userId request indexed =>
      unfold Gateway.restCreateDataset
      dsimp only
      split
      · exact indexed
      · split
        · exact indexed
        · split
          · exact indexed
          · split
            · exact indexed
            · rename_i row_ok
              exact (indexed.createDataset row_ok).1
  | other _ files_eq kept indexed => exact indexed.of_files_eq files_eq kept

/-- Rows that are ordered by index come with ascending indices. -/
theorem pairwise_byIndex (rows : List DatasetFile) :
    (rows.mergeSort fun left right => decide (left.fileIndex ≤ right.fileIndex)).Pairwise
      fun left right => left.fileIndex ≤ right.fileIndex :=
  pairwise_mergeSort_by DatasetFile.fileIndex rows

/-- The files that a stream goes over come in the order in which they were added. -/
theorem FilesIndexed.getDatasetFiles_eq (indexed : FilesIndexed db) (order : RowOrder DatasetFile)
    (datasetId : Uuid) :
    db.toDatasetDatabase.getDatasetFiles order datasetId =
      (filesOf db datasetId).map DatasetFileRecord.toDatasetFile := by
  have selected : (db.toDatasetDatabase.datasetFiles.filter fun row => row.datasetId == datasetId) =
      (filesOf db datasetId).map DatasetFileRecord.toDatasetFile := List.filter_map
  have ascending : ((filesOf db datasetId).map DatasetFileRecord.toDatasetFile).Pairwise
      fun left right => left.fileIndex < right.fileIndex :=
    List.pairwise_map.mpr (indexed.ascending datasetId)
  have distinct : (((filesOf db datasetId).map DatasetFileRecord.toDatasetFile).map
      DatasetFile.fileIndex).Nodup :=
    List.pairwise_map.mpr (ascending.imp Int.ne_of_lt)
  have perm : (db.toDatasetDatabase.getDatasetFiles order datasetId).Perm
      ((filesOf db datasetId).map DatasetFileRecord.toDatasetFile) := by
    rw [DatasetDatabase.getDatasetFiles, selected]
    exact (List.mergeSort_perm _ _).trans (order.arrange_perm _)
  refine perm.eq_of_pairwise (fun left right left_mem right_mem before behind => ?_)
    (pairwise_byIndex _) (ascending.imp Int.le_of_lt)
  exact List.inj_on_of_nodup_map distinct (perm.mem_iff.mp left_mem) right_mem
    (Int.le_antisymm before behind)

end Indexed

end CyxCloud.Gateway
