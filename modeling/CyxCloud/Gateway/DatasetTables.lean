import CyxCloud.Gateway.DataStream

/-!
# The tables of datasets

The statements of `cyxcloud-metadata/src/postgres.rs` on datasets, their files, the registry of
public datasets, shares and access tokens, over the tables of the migration `007_datastream.sql`.
The rows that the streams read are extended by the columns that creation, verification and the
issue of tokens read or write.
-/

namespace CyxCloud.Metadata

open CyxCloud.Core Library

/-! ## Rows -/

/-- Points of time in microseconds, which may lie before the epoch of the clock. -/
abbrev Instant := Int

/-- The number of a trust level read back; other numbers stand for no trust. -/
def TrustLevel.fromI32 : Int → TrustLevel
  | 0 => .selfUploaded
  | 1 => .signed
  | 2 => .verified
  | 3 => .attested
  | _ => .untrusted

/-- A row of `datasets`. -/
structure DatasetRecord extends Dataset where
  name : String
  ownerId : Uuid
  description : Option String
  contentHash : Bytes
  totalSizeBytes : Int
  fileCount : Int
  schema : Option String
  /-- Ed25519 signature of the content hash. -/
  signature : Option Bytes
  verifiedAt : Option Instant
  version : Int
  deriving DecidableEq, Repr

/-- Parameters of a dataset. -/
structure CreateDataset where
  name : String
  ownerId : Uuid
  description : Option String
  contentHash : Bytes
  totalSizeBytes : Int
  fileCount : Int
  schema : Option String
  trustLevel : TrustLevel
  signature : Option Bytes
  deriving DecidableEq, Repr

/-- A row of `dataset_files`. -/
structure DatasetFileRecord extends DatasetFile where
  pathInDataset : String
  contentHash : Bytes
  sizeBytes : Int
  deriving DecidableEq, Repr

/-- A row of `public_datasets`. -/
structure PublicDataset where
  name : String
  version : String
  officialUrl : String
  officialHash : Bytes
  license : Option String
  verifiedBy : List String
  deriving DecidableEq, Repr

/-- A row of `dataset_shares`. -/
structure DatasetShare where
  datasetId : Uuid
  sharedWithUserId : Uuid
  permissions : List String
  expiresAt : Option Instant
  deriving DecidableEq, Repr

/-- A row of `data_access_tokens`. -/
structure DataAccessToken where
  id : Uuid
  datasetId : Uuid
  nodeId : Option Uuid
  userId : Uuid
  tokenHash : Bytes
  scopes : List String
  expiresAt : Instant
  revokedAt : Option Instant
  deriving DecidableEq, Repr

/-- Parameters of an access token. -/
structure CreateDataAccessToken where
  id : Uuid
  datasetId : Uuid
  nodeId : Option Uuid
  userId : Uuid
  tokenHash : Bytes
  scopes : List String
  expiresAt : Instant
  deriving DecidableEq, Repr

/-- The row of a new token. -/
def CreateDataAccessToken.row (token : CreateDataAccessToken) : DataAccessToken :=
  { id := token.id
    datasetId := token.datasetId
    nodeId := token.nodeId
    userId := token.userId
    tokenHash := token.tokenHash
    scopes := token.scopes
    expiresAt := token.expiresAt
    revokedAt := none }

/-- The database with the tables of datasets and all their columns. -/
structure DatasetTables extends Database where
  datasets : List DatasetRecord
  datasetFiles : List DatasetFileRecord
  publicDatasets : List PublicDataset
  datasetShares : List DatasetShare
  dataAccessTokens : List DataAccessToken

/-- What the streams read of the tables. -/
def DatasetTables.toDatasetDatabase (db : DatasetTables) : DatasetDatabase :=
  { db.toDatabase with
    datasets := db.datasets.map DatasetRecord.toDataset
    datasetFiles := db.datasetFiles.map DatasetFileRecord.toDatasetFile }

namespace DatasetTables

variable (db : DatasetTables)

/-! ## Datasets -/

/-- A dataset has the identifier. -/
def hasDataset (id : Uuid) : Bool := db.datasets.any fun row => row.id == id

/-- Insert a dataset as the first version under its name; the identifier is generated by the
database. -/
def createDataset (id : Uuid) (dataset : CreateDataset) :
    DatasetTables × Except DbError DatasetRecord :=
  let row : DatasetRecord :=
    { id
      trustLevel := dataset.trustLevel.asI32
      name := dataset.name
      ownerId := dataset.ownerId
      description := dataset.description
      contentHash := dataset.contentHash
      totalSizeBytes := dataset.totalSizeBytes
      fileCount := dataset.fileCount
      schema := dataset.schema
      signature := dataset.signature
      verifiedAt := none
      version := 1 }
  if db.hasDataset id || db.datasets.any fun other =>
      other.ownerId == row.ownerId && other.name == row.name && other.version == row.version then
    (db, .error .uniqueViolation)
  else
    ({ db with datasets := db.datasets ++ [row] }, .ok row)

/-- Look a dataset up. -/
def getDataset (id : Uuid) : Option DatasetRecord := db.datasets.find? fun row => row.id == id

/-- Apply an update to the row of a dataset. -/
def updateDataset (id : Uuid) (update : DatasetRecord → DatasetRecord) : DatasetTables :=
  { db with datasets := db.datasets.map fun row => if row.id == id then update row else row }

variable {db} in
theorem getDataset_updateDataset {update : DatasetRecord → DatasetRecord}
    (keeps : ∀ row, (update row).id = row.id) (id other : Uuid) :
    (db.updateDataset id update).getDataset other =
      (db.getDataset other).map fun row => if row.id == id then update row else row := by
  have same (row : DatasetRecord) : (if row.id == id then update row else row).id = row.id := by
    split
    · exact keeps row
    · rfl
  rw [updateDataset, getDataset, getDataset, List.find?_map]
  congr 2
  funext row
  exact congrArg (· == other) (same row)

variable {db} in
theorem id_of_getDataset {id : Uuid} {row : DatasetRecord} (found : db.getDataset id = some row) :
    row.id = id := by
  have selected := List.find?_some found
  exact eq_of_beq selected

/-- Overwrite the trust level and the signature of a dataset. -/
def updateDatasetTrust (id : Uuid) (trustLevel : Int) (signature : Option Bytes) (now : Instant) :
    DatasetTables :=
  db.updateDataset id fun row => { row with trustLevel, signature, verifiedAt := some now }

/-- Overwrite the signature of a dataset. -/
def updateDatasetSignature (id : Uuid) (signature : Bytes) : DatasetTables :=
  db.updateDataset id fun row => { row with signature := some signature }

theorem getDataset_updateDatasetTrust (id other : Uuid) (trustLevel : Int)
    (signature : Option Bytes) (now : Instant) :
    (db.updateDatasetTrust id trustLevel signature now).getDataset other =
      (db.getDataset other).map fun row =>
        if row.id == id then { row with trustLevel, signature, verifiedAt := some now } else row := by
  apply getDataset_updateDataset
  exact fun _ => rfl

theorem getDataset_updateDatasetSignature (id other : Uuid) (signature : Bytes) :
    (db.updateDatasetSignature id signature).getDataset other =
      (db.getDataset other).map fun row =>
        if row.id == id then { row with signature := some signature } else row := by
  apply getDataset_updateDataset
  exact fun _ => rfl

/-! ## Files of datasets -/

/-- Add a file to a dataset.  Dataset and file must exist, and no file of the dataset has the
path. -/
def createDatasetFile (file : DatasetFileRecord) :
    DatasetTables × Except DbError DatasetFileRecord :=
  if !(db.hasDataset file.datasetId && db.toDatabase.hasFile file.fileId) then
    (db, .error .foreignKeyViolation)
  else if db.datasetFiles.any fun row =>
      row.datasetId == file.datasetId && row.pathInDataset == file.pathInDataset then
    (db, .error .uniqueViolation)
  else
    ({ db with datasetFiles := db.datasetFiles ++ [file] }, .ok file)

/-- The files of a dataset by index; ties come in any order. -/
def getDatasetFiles (order : RowOrder DatasetFileRecord) (datasetId : Uuid) :
    List DatasetFileRecord :=
  (order.arrange (db.datasetFiles.filter fun row => row.datasetId == datasetId)).mergeSort
    fun left right => decide (left.fileIndex ≤ right.fileIndex)

/-! ## Public datasets -/

/-- The public datasets by name; ties come in any order. -/
def getAllPublicDatasets (order : RowOrder PublicDataset) : List PublicDataset :=
  (order.arrange db.publicDatasets).mergeSort fun left right => decide (left.name ≤ right.name)

/-- A public dataset with the hash: the first one the query delivers. -/
def findPublicDatasetByHash (order : RowOrder PublicDataset) (hash : Bytes) :
    Option PublicDataset :=
  order.fetchOptional (db.publicDatasets.filter fun row => row.officialHash == hash)

/-! ## Shares -/

/-- A share with the user that has not expired; there is at most one by the key of the table. -/
def checkDatasetAccess (now : Instant) (datasetId userId : Uuid) : Option DatasetShare :=
  db.datasetShares.find? fun row =>
    row.datasetId == datasetId && row.sharedWithUserId == userId &&
      row.expiresAt.all fun expires => decide (now < expires)

/-! ## Access tokens -/

/-- A token has the identifier. -/
def hasDataAccessToken (id : Uuid) : Bool := db.dataAccessTokens.any fun row => row.id == id

/-- Insert a token.  The dataset must exist, and the node if one is named. -/
def createDataAccessToken (token : CreateDataAccessToken) :
    DatasetTables × Except DbError DataAccessToken :=
  if db.hasDataAccessToken token.id then
    (db, .error .uniqueViolation)
  else if !(db.hasDataset token.datasetId && token.nodeId.all db.toDatabase.hasNode) then
    (db, .error .foreignKeyViolation)
  else
    ({ db with dataAccessTokens := db.dataAccessTokens ++ [token.row] }, .ok token.row)

/-- Look up a token that is neither revoked nor expired. -/
def getDataAccessToken (now : Instant) (id : Uuid) : Option DataAccessToken :=
  db.dataAccessTokens.find? fun row =>
    row.id == id && row.revokedAt.isNone && decide (now < row.expiresAt)

/-- Revoke a token. -/
def revokeDataAccessToken (now : Instant) (id : Uuid) : DatasetTables :=
  { db with
    dataAccessTokens := db.dataAccessTokens.map fun row =>
      if row.id == id then { row with revokedAt := some now } else row }

end DatasetTables

end CyxCloud.Metadata
