import CyxCloud.Gateway.DatasetVerification
import CyxCloud.Gateway.Reference

/-!
# Manifests of datasets

The two ways to create a dataset, `create_dataset` of `cyxcloud-gateway/src/datastream.rs` and the
handler of the same name in `dataset_api.rs`, against the two verifiers.  Both writers hash the
hashes of the files alone; both verifiers hash the paths as well, of the files that are recorded for
the dataset.
-/

namespace CyxCloud.Gateway

open CyxCloud.Core hiding Chunk
open Library Metadata

/-! ## Creation over gRPC -/

/-- Failures of the creation of a dataset. -/
inductive CreateStatus where
  | invalidFileId (text : String)
  | noFileIds
  | fileNotFound (fileId : Uuid)
  | invalidSchema
  | noFiles
  | internal (message : String) (cause : DbError)
  deriving DecidableEq, Repr

/-- A request for a dataset over gRPC. -/
structure CreateDatasetRequest where
  name : String
  description : String
  fileIds : List String
  schemaJson : String
  deriving DecidableEq, Repr

/-- What the creation of a dataset depends on besides the tables. -/
structure CreateDatasetEnv where
  /-- The identifier that a text stands for. -/
  parseUuid : String → Option Uuid
  validJson : String → Bool
  /-- The identifier that the database generates. -/
  datasetId : Uuid
  /-- The database answers the query for the file at a position. -/
  fileQuery : Nat → Bool
  /-- The database answers the insertion of the dataset. -/
  datasetInsert : Bool
  /-- The database answers the insertion of the file at a position. -/
  fileInsert : Nat → Bool

/-- Parse identifiers, up to the first that is none. -/
def parseFileIds (env : CreateDatasetEnv) : List String → Except CreateStatus (List Uuid)
  | [] => .ok []
  | text :: rest =>
      match env.parseUuid text with
      | none => .error (.invalidFileId text)
      | some fileId => (parseFileIds env rest).map (fileId :: ·)

/-- A file of a new dataset with its position. -/
structure FileInfo where
  fileId : Uuid
  file : File
  idx : Nat
  deriving DecidableEq, Repr

/-- Look files up from a position on, up to the first that is not there. -/
def fetchFiles (env : CreateDatasetEnv) (db : Database) :
    Nat → List Uuid → Except CreateStatus (List FileInfo)
  | _, [] => .ok []
  | idx, fileId :: rest =>
      if env.fileQuery idx = false then
        .error (.internal "Database error" .unavailable)
      else
        match db.getFile fileId with
        | none => .error (.fileNotFound fileId)
        | some file => (fetchFiles env db (idx + 1) rest).map ({ fileId, file, idx } :: ·)

/-- The row of a file in a dataset. -/
def FileInfo.row (datasetId : Uuid) (info : FileInfo) : DatasetFileRecord :=
  { datasetId
    fileId := info.fileId
    fileIndex := info.idx
    pathInDataset := info.file.path
    contentHash := info.file.contentHash
    sizeBytes := info.file.sizeBytes }

/-- Add files to a dataset one after the other; the first failure ends it. -/
def addFiles (env : CreateDatasetEnv) (datasetId : Uuid) :
    DatasetTables → List FileInfo → DatasetTables × Except CreateStatus Unit
  | db, [] => (db, .ok ())
  | db, info :: rest =>
      if env.fileInsert info.idx = false then
        (db, .error (.internal "Failed to add file to dataset" .unavailable))
      else
        match db.createDatasetFile (info.row datasetId) with
        | (_, .error cause) => (db, .error (.internal "Failed to add file to dataset" cause))
        | (added, .ok _) => addFiles env datasetId added rest

/-- The hash of the hashes of the files in the order of the request. -/
def requestedHash (blake3 : Bytes → Bytes) (infos : List FileInfo) : Bytes :=
  blake3 (infos.map fun info => info.file.contentHash).flatten

/-- The parameters of the dataset of a request. -/
def requestedDataset (blake3 : Bytes → Bytes) (userId : Uuid) (request : CreateDatasetRequest)
    (infos : List FileInfo) : CreateDataset :=
  { name := request.name
    ownerId := userId
    description := if request.description.isEmpty then none else some request.description
    contentHash := requestedHash blake3 infos
    totalSizeBytes := (infos.map fun info => (info.file.sizeBytes : Int)).sum
    fileCount := infos.length
    schema := if request.schemaJson.isEmpty then none else some request.schemaJson
    trustLevel := .selfUploaded
    signature := none }

/-- Create a dataset over gRPC. -/
def createDataset (blake3 : Bytes → Bytes) (env : CreateDatasetEnv) (db : DatasetTables)
    (userId : Uuid) (request : CreateDatasetRequest) :
    DatasetTables × Except CreateStatus DatasetRecord :=
  match parseFileIds env request.fileIds with
  | .error status => (db, .error status)
  | .ok fileIds =>
      if fileIds.isEmpty then
        (db, .error .noFileIds)
      else
        match fetchFiles env db.toDatabase 0 fileIds with
        | .error status => (db, .error status)
        | .ok infos =>
            if !request.schemaJson.isEmpty && !env.validJson request.schemaJson then
              (db, .error .invalidSchema)
            else if env.datasetInsert = false then
              (db, .error (.internal "Failed to create dataset" .unavailable))
            else
              match db.createDataset env.datasetId (requestedDataset blake3 userId request infos) with
              | (_, .error cause) => (db, .error (.internal "Failed to create dataset" cause))
              | (created, .ok row) =>
                  match addFiles env row.id created infos with
                  | (added, .error status) => (added, .error status)
                  | (added, .ok ()) => (added, .ok row)

/-! ## Creation over REST -/

/-- A request for a dataset over REST. -/
structure RestCreateDatasetRequest where
  name : String
  description : Option String
  bucket : String
  pathPrefix : Option String
  deriving DecidableEq, Repr

/-- What the creation of a dataset over REST depends on besides the tables. -/
structure RestCreateDatasetEnv where
  /-- The identifier that the database generates. -/
  datasetId : Uuid
  /-- The database answers the query for the files. -/
  filesQuery : Bool
  fileOrder : RowOrder File
  /-- The database answers the insertion of the dataset. -/
  datasetInsert : Bool

/-- The files of a request; no prefix selects the same files as the empty one. -/
def RestCreateDatasetRequest.files (request : RestCreateDatasetRequest)
    (env : RestCreateDatasetEnv) (db : DatasetTables) : List File :=
  db.matchingFiles env.fileOrder request.bucket (request.pathPrefix.getD "") 10000

/-- Ask the database for them. -/
def RestCreateDatasetRequest.listFiles (request : RestCreateDatasetRequest)
    (env : RestCreateDatasetEnv) (db : DatasetTables) : Except DbError (List File) :=
  if env.filesQuery = false then
    .error .unavailable
  else
    db.listFilesInBucket env.fileOrder request.bucket (request.pathPrefix.getD "") 10000

/-- The hash of the sorted hashes of the files. -/
def sortedHash (blake3 : Bytes → Bytes) (files : List File) : Bytes :=
  blake3 ((files.map File.contentHash).mergeSort fun left right => decide (left ≤ right)).flatten

/-- Create a dataset over REST.  Its files are counted and hashed; they are not added to it. -/
def restCreateDataset (blake3 : Bytes → Bytes) (env : RestCreateDatasetEnv) (db : DatasetTables)
    (userId : Uuid) (request : RestCreateDatasetRequest) :
    DatasetTables × Except CreateStatus DatasetRecord :=
  match request.listFiles env db with
  | .error cause => (db, .error (.internal "Failed to list files" cause))
  | .ok files =>
      if files.isEmpty then
        (db, .error .noFiles)
      else if env.datasetInsert = false then
        (db, .error (.internal "Failed to create dataset" .unavailable))
      else
        let dataset : CreateDataset :=
          { name := request.name
            ownerId := userId
            description := request.description
            contentHash := sortedHash blake3 files
            totalSizeBytes := (files.map fun file => (file.sizeBytes : Int)).sum
            fileCount := files.length
            schema := none
            trustLevel := .selfUploaded
            signature := none }
        match db.createDataset env.datasetId dataset with
        | (_, .error cause) => (db, .error (.internal "Failed to create dataset" cause))
        | (created, .ok row) => (created, .ok row)

/-! ## What is recorded -/

/-- The rows of the files of a dataset. -/
def filesOf (db : DatasetTables) (datasetId : Uuid) : List DatasetFileRecord :=
  db.datasetFiles.filter fun row => row.datasetId == datasetId

/-- Every file of a dataset belongs to one that exists. -/
def Referential (db : DatasetTables) : Prop :=
  ∀ row ∈ db.datasetFiles, db.hasDataset row.datasetId = true

/-- The dataset is recorded with these files. -/
structure Recorded (db : DatasetTables) (dataset : DatasetRecord)
    (rows : List DatasetFileRecord) : Prop where
  found : db.getDataset dataset.id = some dataset
  files : filesOf db dataset.id = rows

section Created

variable {db created : DatasetTables} {blake3 : Bytes → Bytes}

theorem createDataset_ok {id : Uuid} {dataset : CreateDataset} {row : DatasetRecord}
    (ok : db.createDataset id dataset = (created, .ok row)) :
    db.hasDataset id = false ∧ row.id = id ∧ row.contentHash = dataset.contentHash ∧
      created = { db with datasets := db.datasets ++ [row] } := by
  unfold DatasetTables.createDataset at ok
  simp only at ok
  split at ok
  · cases ok
  · rename_i free
    simp only [Bool.or_eq_true, not_or] at free
    cases ok
    exact ⟨by simpa using free.1, rfl, rfl, rfl⟩

/-- A new dataset has no files yet. -/
theorem recorded_createDataset (referential : Referential db) {id : Uuid}
    {dataset : CreateDataset} {row : DatasetRecord}
    (ok : db.createDataset id dataset = (created, .ok row)) :
    Recorded created row [] ∧ row.contentHash = dataset.contentHash := by
  obtain ⟨fresh, rfl, hash_eq, rfl⟩ := createDataset_ok ok
  have others : ∀ other ∈ db.datasets, (other.id == row.id) = false := by
    simpa [DatasetTables.hasDataset] using fresh
  refine ⟨⟨?_, ?_⟩, hash_eq⟩
  · rw [DatasetTables.getDataset, List.find?_append, List.find?_eq_none.mpr]
    · simp
    · intro other member
      simp [others other member]
  · rw [filesOf, List.filter_eq_nil_iff]
    intro file member belongs
    have known := referential file member
    rw [eq_of_beq belongs, fresh] at known
    cases known

/-- What adding a file to a dataset does. -/
theorem createDatasetFile_ok {file row : DatasetFileRecord}
    (ok : db.createDatasetFile file = (created, .ok row)) :
    created = { db with datasetFiles := db.datasetFiles ++ [file] } ∧
      file.pathInDataset ∉ (filesOf db file.datasetId).map DatasetFileRecord.pathInDataset := by
  unfold DatasetTables.createDatasetFile at ok
  split at ok
  · cases ok
  · split at ok
    · cases ok
    · rename_i free
      cases ok
      refine ⟨rfl, fun taken => free ?_⟩
      obtain ⟨other, member, same⟩ := List.mem_map.mp taken
      rw [filesOf, List.mem_filter] at member
      rw [List.any_eq_true]
      exact ⟨other, member.1, by simp [eq_of_beq member.2, same]⟩

/-- Files are added at the end, under paths of their own. -/
theorem addFiles_ok {env : CreateDatasetEnv} {dataset : DatasetRecord} {infos : List FileInfo}
    {rows : List DatasetFileRecord} (recorded : Recorded db dataset rows)
    (distinct : (rows.map DatasetFileRecord.pathInDataset).Nodup)
    (ok : addFiles env dataset.id db infos = (created, .ok ())) :
    Recorded created dataset (rows ++ infos.map (FileInfo.row dataset.id)) ∧
      ((rows ++ infos.map (FileInfo.row dataset.id)).map
        DatasetFileRecord.pathInDataset).Nodup := by
  induction infos generalizing db rows with
  | nil =>
      cases ok
      simpa using ⟨recorded, distinct⟩
  | cons info rest induction =>
      rw [addFiles] at ok
      split at ok
      · cases ok
      · split at ok
        · cases ok
        · rename_i added _ file_ok
          obtain ⟨rfl, fresh⟩ := createDatasetFile_ok file_ok
          have own : (info.row dataset.id).datasetId = dataset.id := rfl
          rw [own, recorded.files] at fresh
          have extended : Recorded
              { db with datasetFiles := db.datasetFiles ++ [info.row dataset.id] } dataset
              (rows ++ [info.row dataset.id]) := by
            refine ⟨recorded.found, ?_⟩
            rw [filesOf, List.filter_append, ← filesOf, recorded.files]
            simp [own]
          have distinct_extended :
              ((rows ++ [info.row dataset.id]).map DatasetFileRecord.pathInDataset).Nodup := by
            rw [List.map_append]
            exact nodup_append_fresh distinct fresh
          simpa using induction extended distinct_extended ok

/-- A file is looked up for every identifier. -/
theorem fetchFiles_ok {env : CreateDatasetEnv} {db : Database} {idx : Nat} {fileIds : List Uuid}
    {infos : List FileInfo} (ok : fetchFiles env db idx fileIds = .ok infos) :
    infos.map FileInfo.fileId = fileIds ∧
      ∀ info ∈ infos, db.getFile info.fileId = some info.file := by
  induction fileIds generalizing idx infos with
  | nil =>
      cases ok
      exact ⟨rfl, nofun⟩
  | cons fileId rest induction =>
      rw [fetchFiles] at ok
      split at ok
      · cases ok
      · cases found : db.getFile fileId with
        | none =>
            rw [found] at ok
            cases ok
        | some file =>
            rw [found] at ok
            cases others : fetchFiles env db (idx + 1) rest with
            | error status =>
                simp only [others] at ok
                cases ok
            | ok later =>
                simp only [others] at ok
                cases ok
                obtain ⟨ids_eq, looked_up⟩ := induction others
                refine ⟨by rw [List.map_cons, ids_eq], ?_⟩
                intro info member
                rcases List.mem_cons.mp member with rfl | later_mem
                · exact found
                · exact looked_up info later_mem

/-- The identifiers are those that the texts stand for. -/
theorem parseFileIds_ok {env : CreateDatasetEnv} {texts : List String} {fileIds : List Uuid}
    (ok : parseFileIds env texts = .ok fileIds) : texts.map env.parseUuid = fileIds.map some := by
  induction texts generalizing fileIds with
  | nil =>
      cases ok
      rfl
  | cons text rest induction =>
      rw [parseFileIds] at ok
      cases parsed : env.parseUuid text with
      | none =>
          rw [parsed] at ok
          cases ok
      | some fileId =>
          rw [parsed] at ok
          cases others : parseFileIds env rest with
          | error status =>
              simp only [others] at ok
              cases ok
          | ok later =>
              simp only [others] at ok
              cases ok
              rw [List.map_cons, List.map_cons, parsed, induction others]

/-- A dataset created over gRPC is recorded with a file for every identifier, under paths of their
own, and with the hash of their hashes. -/
theorem createDataset_recorded (referential : Referential db) {env : CreateDatasetEnv}
    {userId : Uuid} {request : CreateDatasetRequest} {dataset : DatasetRecord}
    (ok : createDataset blake3 env db userId request = (created, .ok dataset)) :
    ∃ infos : List FileInfo, infos ≠ [] ∧
      infos.map (fun info => some info.fileId) = request.fileIds.map env.parseUuid ∧
      (∀ info ∈ infos, db.getFile info.fileId = some info.file) ∧
      Recorded created dataset (infos.map (FileInfo.row dataset.id)) ∧
      ((infos.map (FileInfo.row dataset.id)).map DatasetFileRecord.pathInDataset).Nodup ∧
      dataset.contentHash = requestedHash blake3 infos := by
  unfold createDataset at ok
  split at ok
  · cases ok
  · rename_i fileIds parsed
    split at ok
    · cases ok
    · rename_i some_ids
      split at ok
      · cases ok
      · rename_i infos fetched
        split at ok
        · cases ok
        · split at ok
          · cases ok
          · split at ok
            · cases ok
            · rename_i inserted row row_ok
              split at ok
              · cases ok
              · rename_i added added_ok
                cases ok
                obtain ⟨ids_eq, looked_up⟩ := fetchFiles_ok fetched
                obtain ⟨recorded, hash_eq⟩ := recorded_createDataset referential row_ok
                obtain ⟨recorded_files, distinct⟩ := addFiles_ok recorded List.nodup_nil added_ok
                refine ⟨infos, ?_, ?_, looked_up, recorded_files, distinct, hash_eq⟩
                · rintro rfl
                  rw [List.map_nil] at ids_eq
                  exact some_ids (by rw [← ids_eq]; rfl)
                · rw [parseFileIds_ok parsed, ← ids_eq, List.map_map]
                  rfl

theorem RestCreateDatasetRequest.listFiles_ok {env : RestCreateDatasetEnv}
    {request : RestCreateDatasetRequest} {files : List File}
    (ok : request.listFiles env db = .ok files) : files = request.files env db := by
  rw [listFiles, Database.listFilesInBucket] at ok
  split at ok
  · cases ok
  · split at ok
    · cases ok
    · split at ok
      · cases ok
      · cases ok
        rfl

/-- A dataset created over REST is recorded without files, and with the hash of their hashes. -/
theorem restCreateDataset_recorded (referential : Referential db) {env : RestCreateDatasetEnv}
    {userId : Uuid} {request : RestCreateDatasetRequest} {dataset : DatasetRecord}
    (ok : restCreateDataset blake3 env db userId request = (created, .ok dataset)) :
    Recorded created dataset [] ∧ dataset.contentHash = sortedHash blake3 (request.files env db) := by
  unfold restCreateDataset at ok
  split at ok
  · cases ok
  · rename_i files listed
    rw [← RestCreateDatasetRequest.listFiles_ok listed]
    split at ok
    · cases ok
    · split at ok
      · cases ok
      · simp only at ok
        split at ok
        · cases ok
        · rename_i row_ok
          cases ok
          exact recorded_createDataset referential row_ok

end Created

/-! ## What the verifiers report -/

section Reports

variable {db : DatasetTables} {blake3 : Bytes → Bytes}

/-- Both verifiers report the same about the manifest of a dataset. -/
def BothReport (blake3 : Bytes → Bytes) (db : DatasetTables) (datasetId : Uuid) (valid : Bool) :
    Prop :=
  (∀ env : VerifyEnv, env.Answered → ∀ full, ∃ result,
    verifyDataset blake3 env db datasetId full = .ok result ∧ result.manifestValid = valid) ∧
  ∀ env : GrpcVerifyEnv, env.toVerifyEnv.Answered → ∀ request : VerifyDatasetRequest,
    request.datasetId = datasetId → ∃ result,
      grpcVerifyDataset blake3 env db request = .ok result ∧ result.manifestValid = valid

/-- While a dataset stays as it was created, both verifiers report a valid manifest, and once the
recorded hash of one of its files is another one, both report an invalid manifest. -/
def CreateThenVerify (blake3 : Bytes → Bytes) (created : DatasetTables) (datasetId : Uuid) : Prop :=
  (∀ later : DatasetTables, later.getDataset datasetId = created.getDataset datasetId →
    filesOf later datasetId = filesOf created datasetId → BothReport blake3 later datasetId true) ∧
  ∀ (later : DatasetTables) (before after : List DatasetFileRecord) (row : DatasetFileRecord)
    (contentHash : Bytes), later.getDataset datasetId = created.getDataset datasetId →
      filesOf created datasetId = before ++ row :: after → contentHash ≠ row.contentHash →
        filesOf later datasetId = before ++ { row with contentHash } :: after →
          BothReport blake3 later datasetId false

theorem getDatasetFiles_perm (order : RowOrder DatasetFileRecord) (datasetId : Uuid) :
    (db.getDatasetFiles order datasetId).Perm (filesOf db datasetId) :=
  (List.mergeSort_perm _ _).trans (order.arrange_perm _)

variable (blake3) in
theorem verifyDataset_manifest {env : VerifyEnv} (answered : env.Answered) {datasetId : Uuid}
    {dataset : DatasetRecord} (found : db.getDataset datasetId = some dataset) (full : Bool) :
    ∃ result, verifyDataset blake3 env db datasetId full = .ok result ∧
      result.manifestValid =
        (computeManifestHash blake3 (db.getDatasetFiles env.fileOrder datasetId) ==
          dataset.contentHash) := by
  obtain ⟨datasetQuery, filesQuery, -⟩ := answered
  simp [verifyDataset, datasetQuery, filesQuery, found]

variable (blake3) in
theorem grpcVerifyDataset_manifest {env : GrpcVerifyEnv} (answered : env.toVerifyEnv.Answered)
    {request : VerifyDatasetRequest} {dataset : DatasetRecord}
    (found : db.getDataset request.datasetId = some dataset) :
    ∃ result, grpcVerifyDataset blake3 env db request = .ok result ∧
      result.manifestValid =
        (blake3 (manifestBytes (db.getDatasetFiles env.fileOrder request.datasetId)) ==
          dataset.contentHash) := by
  obtain ⟨datasetQuery, filesQuery, fileQuery⟩ := answered
  simp [grpcVerifyDataset, datasetQuery, filesQuery, fileQuery, found, Except.isOk, Except.toBool]

/-- The verifiers compare the recorded hash with the hash of the files in two orders. -/
theorem bothReport_of_manifests {datasetId : Uuid} {dataset : DatasetRecord}
    (found : db.getDataset datasetId = some dataset) {valid : Bool}
    (manifests : ∀ files : List DatasetFileRecord, files.Perm (filesOf db datasetId) →
      (blake3 (manifestBytes files) == dataset.contentHash) = valid) :
    BothReport blake3 db datasetId valid := by
  constructor
  · intro env answered full
    obtain ⟨result, ok, manifest_eq⟩ := verifyDataset_manifest blake3 answered found full
    refine ⟨result, ok, manifest_eq.trans (manifests _ ?_)⟩
    exact (List.mergeSort_perm _ _).trans (getDatasetFiles_perm env.fileOrder datasetId)
  · rintro env answered request rfl
    obtain ⟨result, ok, manifest_eq⟩ := grpcVerifyDataset_manifest blake3 answered found
    exact ⟨result, ok, manifest_eq.trans (manifests _ (getDatasetFiles_perm _ _))⟩

/-- What the verifiers agree to be valid is a hash of the files in some order. -/
theorem manifest_of_bothReport {datasetId : Uuid} {dataset : DatasetRecord}
    (found : db.getDataset datasetId = some dataset) (report : BothReport blake3 db datasetId true) :
    ∃ files : List DatasetFileRecord, files.Perm (filesOf db datasetId) ∧
      blake3 (manifestBytes files) = dataset.contentHash := by
  have answered : VerifyEnv.Answered ⟨true, true, .insertion, fun _ => .ok ()⟩ :=
    ⟨rfl, rfl, fun _ => rfl⟩
  obtain ⟨result, ok, valid⟩ := report.1 _ answered false
  obtain ⟨computed, computed_ok, manifest_eq⟩ :=
    verifyDataset_manifest blake3 answered found false
  obtain rfl : result = computed := Except.ok.inj (ok.symm.trans computed_ok)
  refine ⟨_, ?_, eq_of_beq (manifest_eq.symm.trans valid)⟩
  exact (List.mergeSort_perm _ _).trans (getDatasetFiles_perm .insertion datasetId)

/-! ## When they agree with the writers -/

theorem utf8_eq_nil_iff {text : String} : text.toUTF8.data.toList = [] ↔ text = "" := by
  rw [List.eq_nil_iff_length_eq_zero, ← String.utf8ByteSize_eq_zero_iff]
  rfl

theorem length_manifestBytes (files : List DatasetFileRecord) :
    (manifestBytes files).length =
      (files.map fun file => file.pathInDataset.toUTF8.data.toList.length).sum +
        (files.map fun file => file.contentHash.length).sum := by
  rw [manifestBytes, List.length_flatten, List.map_map, ← List.sum_map_add]
  congr 1
  exact List.map_congr_left fun file _ => List.length_append

/-- A manifest as long as the hashes of its files has empty paths only. -/
theorem paths_empty_of_manifest {files rows : List DatasetFileRecord} (permuted : files.Perm rows)
    (same : manifestBytes files = (rows.map fun row => row.contentHash).flatten) :
    ∀ row ∈ rows, row.pathInDataset = "" := by
  have lengths := congrArg List.length same
  have hashes := (permuted.map fun file : DatasetFileRecord => file.contentHash.length).sum_eq
  rw [length_manifestBytes, hashes, List.length_flatten, List.map_map] at lengths
  have paths : (files.map fun file => file.pathInDataset.toUTF8.data.toList.length).sum = 0 := by
    have same_sum : (rows.map (List.length ∘ fun row => row.contentHash)).sum =
        (rows.map fun row => row.contentHash.length).sum := rfl
    omega
  intro row member
  have length_zero := List.sum_eq_zero_iff.mp paths _
    (List.mem_map_of_mem (permuted.symm.subset member))
  exact utf8_eq_nil_iff.mp (List.eq_nil_of_length_eq_zero length_zero)

/-- Without paths, and so with a single file, the manifest is the hash of that file. -/
theorem manifestBytes_singleton {row : DatasetFileRecord} (path_empty : row.pathInDataset = "") :
    manifestBytes [row] = row.contentHash := by
  rw [manifestBytes, List.map_singleton, utf8_eq_nil_iff.mpr path_empty, List.nil_append,
    List.flatten_singleton]

/-- The verifiers agree with the creation over gRPC exactly if no file has a path. -/
theorem createThenVerify_grpc_iff (injective : Function.Injective blake3)
    {created : DatasetTables} {dataset : DatasetRecord} {infos : List FileInfo}
    (infos_ne : infos ≠ [])
    (recorded : Recorded created dataset (infos.map (FileInfo.row dataset.id)))
    (distinct : ((infos.map (FileInfo.row dataset.id)).map
      DatasetFileRecord.pathInDataset).Nodup)
    (hash_eq : dataset.contentHash = requestedHash blake3 infos) :
    CreateThenVerify blake3 created dataset.id ↔ ∀ info ∈ infos, info.file.path = "" := by
  constructor
  · rintro ⟨valid, -⟩ info member
    obtain ⟨files, permuted, same⟩ :=
      manifest_of_bothReport recorded.found (valid created rfl rfl)
    rw [recorded.files] at permuted
    rw [hash_eq] at same
    have bytes_eq : manifestBytes files =
        ((infos.map (FileInfo.row dataset.id)).map fun row => row.contentHash).flatten := by
      rw [injective same, List.map_map]
      rfl
    exact paths_empty_of_manifest permuted bytes_eq _ (List.mem_map_of_mem member)
  · intro paths_empty
    -- Two files without a path would have the same path.
    obtain ⟨info, rfl⟩ : ∃ info, infos = [info] := by
      match infos with
      | [] => exact absurd rfl infos_ne
      | [info] => exact ⟨info, rfl⟩
      | info :: other :: rest =>
          refine absurd ?_ (List.nodup_cons.mp distinct).1
          have first_empty : (info.row dataset.id).pathInDataset = "" :=
            paths_empty info List.mem_cons_self
          have other_empty : (other.row dataset.id).pathInDataset = "" :=
            paths_empty other (List.mem_cons_of_mem _ List.mem_cons_self)
          rw [first_empty, ← other_empty]
          exact List.mem_cons_self
    have path_empty : (info.row dataset.id).pathInDataset = "" :=
      paths_empty info List.mem_cons_self
    have hash_single : dataset.contentHash = blake3 info.file.contentHash := by
      rw [hash_eq, requestedHash]
      simp
    constructor
    · intro later same_dataset same_files
      refine bothReport_of_manifests (same_dataset.trans recorded.found) ?_
      intro files permuted
      rw [same_files, recorded.files] at permuted
      obtain rfl : files = [info.row dataset.id] := List.perm_singleton.mp permuted
      rw [manifestBytes_singleton path_empty, hash_single, beq_iff_eq]
      rfl
    · intro later before after row contentHash same_dataset split changed later_files
      rw [recorded.files, List.map_singleton] at split
      obtain ⟨rfl, rfl, rfl⟩ : before = [] ∧ info.row dataset.id = row ∧ after = [] := by
        cases before with
        | nil => exact ⟨rfl, List.cons.inj split |>.1, (List.cons.inj split).2.symm⟩
        | cons head rest => exact absurd (List.cons.inj split).2 (by simp)
      refine bothReport_of_manifests (same_dataset.trans recorded.found) ?_
      intro files permuted
      rw [later_files, List.nil_append] at permuted
      obtain rfl := List.perm_singleton.mp permuted
      have changed_path : ({ info.row dataset.id with contentHash } :
          DatasetFileRecord).pathInDataset = "" := path_empty
      rw [manifestBytes_singleton changed_path, hash_single]
      exact beq_false_of_ne fun same => changed (injective same)

/-- The verifiers agree with the creation over REST exactly if no file has a hash. -/
theorem createThenVerify_rest_iff (injective : Function.Injective blake3)
    {created : DatasetTables} {dataset : DatasetRecord} {files : List File}
    (recorded : Recorded created dataset []) (hash_eq : dataset.contentHash = sortedHash blake3 files) :
    CreateThenVerify blake3 created dataset.id ↔ ∀ file ∈ files, file.contentHash = [] := by
  have empty_iff : blake3 [] = dataset.contentHash ↔ ∀ file ∈ files, file.contentHash = [] := by
    rw [hash_eq, sortedHash, injective.eq_iff, eq_comm, List.flatten_eq_nil_iff]
    simp [List.mem_mergeSort]
  have manifests (later : DatasetTables) (no_files : filesOf later dataset.id = [])
      (listed : List DatasetFileRecord) (permuted : listed.Perm (filesOf later dataset.id)) :
      manifestBytes listed = [] := by
    rw [no_files, List.perm_nil] at permuted
    rw [permuted, manifestBytes, List.map_nil, List.flatten_nil]
  rw [← empty_iff]
  constructor
  · rintro ⟨valid, -⟩
    obtain ⟨listed, permuted, same⟩ :=
      manifest_of_bothReport recorded.found (valid created rfl rfl)
    rwa [manifests created recorded.files listed permuted] at same
  · intro same
    constructor
    · intro later same_dataset same_files
      refine bothReport_of_manifests (same_dataset.trans recorded.found) ?_
      intro listed permuted
      rw [manifests later (same_files.trans recorded.files) listed permuted, same, beq_self_eq_true]
    · intro later before after row contentHash _ split
      rw [recorded.files] at split
      exact absurd split.symm (by simp)

/-- A dataset created over gRPC passes both verifiers exactly if its files have no paths, and one
created over REST exactly if the files it counts have no hashes. -/
theorem createThenVerify_iff (blake3 : Bytes → Bytes) (injective : Function.Injective blake3)
    (db : DatasetTables) (referential : Referential db) (userId : Uuid) :
    (∀ (env : CreateDatasetEnv) (request : CreateDatasetRequest) (created : DatasetTables)
      (dataset : DatasetRecord),
      createDataset blake3 env db userId request = (created, .ok dataset) →
        (CreateThenVerify blake3 created dataset.id ↔
          ∀ text ∈ request.fileIds, ∀ fileId file, env.parseUuid text = some fileId →
            db.getFile fileId = some file → file.path = "")) ∧
    ∀ (env : RestCreateDatasetEnv) (request : RestCreateDatasetRequest) (created : DatasetTables)
      (dataset : DatasetRecord),
      restCreateDataset blake3 env db userId request = (created, .ok dataset) →
        (CreateThenVerify blake3 created dataset.id ↔
          ∀ file ∈ request.files env db, file.contentHash = []) := by
  constructor
  · intro env request created dataset ok
    obtain ⟨infos, infos_ne, ids_eq, looked_up, recorded, distinct, hash_eq⟩ :=
      createDataset_recorded referential ok
    rw [createThenVerify_grpc_iff injective infos_ne recorded distinct hash_eq]
    constructor
    · intro paths_empty text member fileId file parsed found
      have listed : some fileId ∈ infos.map fun info => some info.fileId := by
        rw [ids_eq, ← parsed]
        exact List.mem_map_of_mem member
      obtain ⟨info, info_mem, same⟩ := List.mem_map.mp listed
      have file_eq := looked_up info info_mem
      rw [Option.some.inj same, found] at file_eq
      rw [Option.some.inj file_eq]
      exact paths_empty info info_mem
    · intro paths_empty info member
      have listed : some info.fileId ∈ request.fileIds.map env.parseUuid := by
        rw [← ids_eq]
        exact List.mem_map_of_mem member
      obtain ⟨text, text_mem, parsed⟩ := List.mem_map.mp listed
      exact paths_empty text text_mem _ _ parsed (looked_up info member)
  · intro env request created dataset ok
    obtain ⟨recorded, hash_eq⟩ := restCreateDataset_recorded referential ok
    exact createThenVerify_rest_iff injective recorded hash_eq

end Reports

namespace OneFile

/-- A file with the byte 7. -/
def file : File :=
  { id := 2
    name := "cat"
    path := "photos/cat"
    contentHash := Reference.hash [7]
    sizeBytes := 1
    chunkCount := 1
    dataShards := 10
    parityShards := 4
    chunkSize := DEFAULT_CHUNK_SIZE
    ownerId := some 7
    bucket := some "photos"
    status := .complete
    contentType := none
    createdAt := 0
    updatedAt := 0
    deletedAt := none }

/-- The tables with the file and without datasets. -/
def tables : DatasetTables :=
  { buckets := []
    nodes := []
    files := [file]
    chunks := []
    chunkLocations := []
    repairJobs := []
    datasets := []
    datasetFiles := []
    publicDatasets := []
    datasetShares := []
    dataAccessTokens := [] }

/-- Identifiers are single digits, and every statement is answered. -/
def env : CreateDatasetEnv :=
  { parseUuid := fun text => if text = "2" then some 2 else none
    validJson := fun _ => true
    datasetId := 9
    fileQuery := fun _ => true
    datasetInsert := true
    fileInsert := fun _ => true }

/-- A dataset of the file. -/
def request : CreateDatasetRequest :=
  { name := "cats"
    description := ""
    fileIds := ["2"]
    schemaJson := "" }

/-- Every statement is answered. -/
def restEnv : RestCreateDatasetEnv :=
  { datasetId := 9
    filesQuery := true
    fileOrder := .insertion
    datasetInsert := true }

/-- A dataset of the files of the bucket. -/
def restRequest : RestCreateDatasetRequest :=
  { name := "cats"
    description := none
    bucket := "photos"
    pathPrefix := none }

theorem referential : Referential tables := nofun

theorem created_ok : ∃ created dataset,
    createDataset Reference.hash env tables 7 request = (created, .ok dataset) :=
  ⟨_, _, rfl⟩

theorem restRequest_files : restRequest.files restEnv tables = [file] := by
  have selected : tables.files.filter (fun file => file.bucket == some restRequest.bucket &&
      Database.sqlLike ((restRequest.pathPrefix.getD "").toList ++ ['%']) file.path.toList &&
      file.isLive) = [file] := by
    decide +kernel
  rw [RestCreateDatasetRequest.files, Database.matchingFiles, selected]
  change ([file].mergeSort _).take 10000 = [file]
  rw [List.mergeSort_singleton]
  rfl

theorem rest_created_ok : ∃ created dataset,
    restCreateDataset Reference.hash restEnv tables 7 restRequest = (created, .ok dataset) := by
  have texts : (Database.isText restRequest.bucket &&
      Database.isText (restRequest.pathPrefix.getD "")) = true := by
    decide +kernel
  have listed : restRequest.listFiles restEnv tables = .ok [file] := by
    rw [RestCreateDatasetRequest.listFiles, if_neg (by decide), Database.listFilesInBucket, texts,
      ← restRequest_files]
    rfl
  unfold restCreateDataset
  rw [listed]
  exact ⟨_, _, rfl⟩

/-- Of the dataset of the file, the verifiers do not report a valid manifest. -/
theorem created_not_valid :
    (∃ created dataset, createDataset Reference.hash env tables 7 request = (created, .ok dataset) ∧
      ¬ CreateThenVerify Reference.hash created dataset.id) ∧
    ∃ created dataset,
      restCreateDataset Reference.hash restEnv tables 7 restRequest = (created, .ok dataset) ∧
        ¬ CreateThenVerify Reference.hash created dataset.id := by
  constructor
  · obtain ⟨created, dataset, ok⟩ := created_ok
    refine ⟨created, dataset, ok, ?_⟩
    obtain ⟨infos, infos_ne, ids_eq, looked_up, recorded, distinct, hash_eq⟩ :=
      createDataset_recorded referential ok
    rw [createThenVerify_grpc_iff Reference.hash_injective infos_ne recorded distinct hash_eq]
    intro paths_empty
    obtain ⟨info, member⟩ := List.exists_mem_of_ne_nil infos infos_ne
    have own := looked_up info member
    have path_eq : info.file.path = "photos/cat" := by
      have stored : info.file ∈ [file] := List.mem_of_find?_eq_some own
      rw [List.mem_singleton.mp stored]
      rfl
    rw [paths_empty info member] at path_eq
    exact absurd path_eq (by decide)
  · obtain ⟨created, dataset, ok⟩ := rest_created_ok
    refine ⟨created, dataset, ok, ?_⟩
    obtain ⟨recorded, hash_eq⟩ := restCreateDataset_recorded referential ok
    rw [createThenVerify_rest_iff Reference.hash_injective recorded hash_eq, restRequest_files]
    intro hashes_empty
    exact absurd (hashes_empty file List.mem_cons_self) (by decide +kernel)

/-- The condition for the dataset of the file. -/
theorem created_valid_iff : ∃ created dataset,
    createDataset Reference.hash env tables 7 request = (created, .ok dataset) ∧
      (CreateThenVerify Reference.hash created dataset.id ↔
        ∀ text ∈ request.fileIds, ∀ fileId found, env.parseUuid text = some fileId →
          tables.getFile fileId = some found → found.path = "") := by
  obtain ⟨created, dataset, ok⟩ := created_ok
  exact ⟨created, dataset, ok,
    (createThenVerify_iff Reference.hash Reference.hash_injective tables referential 7).1 env request
      created dataset ok⟩

end OneFile

end CyxCloud.Gateway
