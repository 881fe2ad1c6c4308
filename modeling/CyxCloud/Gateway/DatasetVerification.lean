import CyxCloud.Gateway.DatasetTables
import CyxCloud.Library.Signatures

/-!
# Verification of datasets

`VerificationService` of `cyxcloud-gateway/src/verification.rs`,
`PublicDatasetRegistry::verify_dataset` of `public_registry.rs`, and `verify_dataset` of
`datastream.rs`.  They compare recorded hashes; the data is not read.  Queries and updates end as the
environments say.
-/

namespace CyxCloud.Gateway

open CyxCloud.Core hiding Chunk
open Library Metadata

/-! ## Results -/

/-- Failures of the verification service. -/
inductive VerificationError where
  | datasetNotFound (datasetId : Uuid)
  | permissionDenied
  | invalidSignature
  | database (cause : DbError)
  deriving DecidableEq, Repr

/-- The result for one file. -/
structure FileVerificationResult where
  fileId : Uuid
  path : String
  expectedHash : Bytes
  actualHash : Option Bytes
  valid : Bool
  error : Option String
  deriving DecidableEq, Repr

/-- The result for a dataset. -/
structure DatasetVerificationResult where
  datasetId : Uuid
  manifestValid : Bool
  allFilesValid : Bool
  filesVerified : Nat
  filesFailed : Nat
  fileResults : List FileVerificationResult
  computedTrustLevel : TrustLevel
  message : String
  deriving DecidableEq, Repr

/-- A match in the registry of public datasets. -/
structure PublicDatasetMatch where
  name : String
  version : String
  officialUrl : String
  license : Option String
  verifiedBy : List String
  deriving DecidableEq, Repr

/-- The match that a row of the registry stands for. -/
def PublicDatasetMatch.ofRow (row : PublicDataset) : PublicDatasetMatch :=
  { name := row.name
    version := row.version
    officialUrl := row.officialUrl
    license := row.license
    verifiedBy := row.verifiedBy }

/-! ## The verification service -/

/-- How the queries of a verification end. -/
structure VerifyEnv where
  /-- The database answers the query for the dataset. -/
  datasetQuery : Bool
  /-- The database answers the query for the files of the dataset. -/
  filesQuery : Bool
  fileOrder : RowOrder DatasetFileRecord
  /-- The answer to the query for the file of a row, or the text of its failure. -/
  fileQuery : DatasetFileRecord → Except String Unit

/-- All queries are answered. -/
def VerifyEnv.Answered (env : VerifyEnv) : Prop :=
  env.datasetQuery = true ∧ env.filesQuery = true ∧ ∀ file, env.fileQuery file = .ok ()

/-- What the files of a dataset add to a manifest. -/
def manifestBytes (files : List DatasetFileRecord) : Bytes :=
  (files.map fun file => file.pathInDataset.toUTF8.data.toList ++ file.contentHash).flatten

/-- The hash of the files by path. -/
def computeManifestHash (blake3 : Bytes → Bytes) (files : List DatasetFileRecord) : Bytes :=
  blake3 (manifestBytes (files.mergeSort fun left right =>
    decide (left.pathInDataset ≤ right.pathInDataset)))

/-- Compare the recorded hash of a file of a dataset with the hash of the file. -/
def verifyFile (env : VerifyEnv) (db : DatasetTables) (file : DatasetFileRecord) :
    FileVerificationResult :=
  let result (actualHash : Option Bytes) (valid : Bool) (error : Option String) :
      FileVerificationResult :=
    { fileId := file.fileId
      path := file.pathInDataset
      expectedHash := file.contentHash
      actualHash
      valid
      error }
  match env.fileQuery file with
  | .error cause => result none false (some ("Database error: " ++ cause))
  | .ok () =>
      match db.getFile file.fileId with
      | none => result none false (some "File not found in storage")
      | some stored =>
          let valid := stored.contentHash == file.contentHash
          result (some stored.contentHash) valid (if valid then none else some "Hash mismatch")

/-- The trust level after a verification: an untrusted dataset counts as uploaded by its owner when
its hashes agree. -/
def computedTrust (valid : Bool) (trustLevel : Int) : TrustLevel :=
  if valid then
    if trustLevel = TrustLevel.untrusted.asI32 then .selfUploaded
    else .fromI32 trustLevel
  else
    .untrusted

/-- The message about a verification. -/
def verificationMessage (manifestValid allFilesValid : Bool) (filesVerified filesFailed files : Nat) :
    String :=
  if manifestValid && allFilesValid then
    "Dataset verified: " ++ toString filesVerified ++ " files checked, all valid"
  else if manifestValid = false then
    "Manifest hash verification failed"
  else
    "File verification failed: " ++ toString filesFailed ++ "/" ++ toString files ++
      " files invalid"

/-- Verify a dataset. -/
def verifyDataset (blake3 : Bytes → Bytes) (env : VerifyEnv) (db : DatasetTables)
    (datasetId : Uuid) (fullVerification : Bool) :
    Except VerificationError DatasetVerificationResult :=
  if env.datasetQuery = false then
    .error (.database .unavailable)
  else
    match db.getDataset datasetId with
    | none => .error (.datasetNotFound datasetId)
    | some dataset =>
        if env.filesQuery = false then
          .error (.database .unavailable)
        else
          let files := db.getDatasetFiles env.fileOrder datasetId
          let manifestValid := computeManifestHash blake3 files == dataset.contentHash
          let fileResults := if fullVerification then files.map (verifyFile env db) else []
          let filesVerified :=
            if fullVerification then fileResults.countP FileVerificationResult.valid
            else files.length
          let filesFailed := fileResults.countP fun result => !result.valid
          let allFilesValid := filesFailed == 0
          .ok
            { datasetId
              manifestValid
              allFilesValid
              filesVerified
              filesFailed
              fileResults
              computedTrustLevel :=
                computedTrust (manifestValid && allFilesValid) dataset.trustLevel
              message := verificationMessage manifestValid allFilesValid filesVerified filesFailed
                files.length }

/-! ## The registry of public datasets -/

/-- How the statements of a comparison with the registry end. -/
structure RegistryEnv where
  /-- The database answers the query for the dataset. -/
  datasetQuery : Bool
  /-- The database answers the query for public datasets. -/
  publicQuery : Bool
  publicOrder : RowOrder PublicDataset
  /-- The database carries out the update of the trust level. -/
  trustUpdate : Bool
  now : Instant

/-- Record that a dataset agrees with the registry; a failed update is only logged. -/
def markVerified (env : RegistryEnv) (db : DatasetTables) (datasetId : Uuid) : DatasetTables :=
  if env.trustUpdate then
    db.updateDatasetTrust datasetId TrustLevel.verified.asI32 none env.now
  else
    db

/-- Look for the hash of a dataset in the list of all public datasets. -/
def verifyAgainstPublicRegistry (env : RegistryEnv) (db : DatasetTables) (datasetId : Uuid) :
    DatasetTables × Except VerificationError (Option PublicDatasetMatch) :=
  if env.datasetQuery = false then
    (db, .error (.database .unavailable))
  else
    match db.getDataset datasetId with
    | none => (db, .error (.datasetNotFound datasetId))
    | some dataset =>
        if env.publicQuery = false then
          (db, .error (.database .unavailable))
        else
          match (db.getAllPublicDatasets env.publicOrder).find? fun row =>
              row.officialHash == dataset.contentHash with
          | none => (db, .ok none)
          | some row => (markVerified env db datasetId, .ok (some (.ofRow row)))

/-- Failures of the registry. -/
inductive RegistryError where
  | datasetNotFound (datasetId : Uuid)
  | database (cause : DbError)
  deriving DecidableEq, Repr

/-- `PublicDatasetRegistry::verify_dataset`: query the registry for the hash of a dataset. -/
def registryVerifyDataset (env : RegistryEnv) (db : DatasetTables) (datasetId : Uuid) :
    DatasetTables × Except RegistryError (Option PublicDatasetMatch) :=
  if env.datasetQuery = false then
    (db, .error (.database .unavailable))
  else
    match db.getDataset datasetId with
    | none => (db, .error (.datasetNotFound datasetId))
    | some dataset =>
        if env.publicQuery = false then
          (db, .error (.database .unavailable))
        else
          match db.findPublicDatasetByHash env.publicOrder dataset.contentHash with
          | none => (db, .ok none)
          | some row => (markVerified env db datasetId, .ok (some (.ofRow row)))

/-! ## Signatures -/

section Signatures

variable {σ ν : Type} (scheme : SignatureScheme σ ν)

/-- How the statements of a signature end. -/
structure SignEnv where
  /-- The database answers the query for the dataset. -/
  datasetQuery : Bool
  /-- The database carries out the update of the signature. -/
  signatureUpdate : Bool
  /-- The database carries out the update of the trust level. -/
  trustUpdate : Bool
  now : Instant

/-- No statement fails. -/
def SignEnv.Answered (env : SignEnv) : Prop :=
  env.datasetQuery = true ∧ env.signatureUpdate = true ∧ env.trustUpdate = true

/-- Sign the content hash of a dataset for its owner; failed updates are only logged. -/
def signDataset (env : SignEnv) (db : DatasetTables) (datasetId userId : Uuid) (signingKey : σ) :
    DatasetTables × Except VerificationError Bytes :=
  if env.datasetQuery = false then
    (db, .error (.database .unavailable))
  else
    match db.getDataset datasetId with
    | none => (db, .error (.datasetNotFound datasetId))
    | some dataset =>
        if dataset.ownerId ≠ userId then
          (db, .error .permissionDenied)
        else
          let signatureBytes := scheme.sign signingKey dataset.contentHash
          let stored :=
            if env.signatureUpdate then db.updateDatasetSignature datasetId signatureBytes else db
          let marked :=
            if env.trustUpdate then
              stored.updateDatasetTrust datasetId TrustLevel.signed.asI32 none env.now
            else
              stored
          (marked, .ok signatureBytes)

/-- Verify the recorded signature of a dataset. -/
def verifySignature (datasetQuery : Bool) (db : DatasetTables) (datasetId : Uuid)
    (verifyingKey : ν) : Except VerificationError Bool :=
  if datasetQuery = false then
    .error (.database .unavailable)
  else
    match db.getDataset datasetId with
    | none => .error (.datasetNotFound datasetId)
    | some dataset =>
        match dataset.signature with
        | none => .error .invalidSignature
        | some signatureBytes =>
            if scheme.accepts verifyingKey dataset.contentHash signatureBytes then .ok true
            else .error .invalidSignature

end Signatures

/-! ## Verification over gRPC -/

/-- How the queries of a verification over gRPC end. -/
structure GrpcVerifyEnv extends VerifyEnv where
  /-- The database answers the query for public datasets. -/
  publicQuery : Bool
  publicOrder : RowOrder PublicDataset

/-- The result for one file. -/
structure FileVerification where
  path : String
  expectedHash : Bytes
  actualHash : Bytes
  valid : Bool
  error : String
  deriving DecidableEq, Repr

/-- A request for a verification. -/
structure VerifyDatasetRequest where
  datasetId : Uuid
  checkPublicRegistry : Bool
  fullVerification : Bool
  deriving DecidableEq, Repr

/-- The result for a dataset. -/
structure VerificationResult where
  datasetId : Uuid
  manifestValid : Bool
  allFilesValid : Bool
  computedTrustLevel : TrustLevel
  files : List FileVerification
  publicMatch : Option PublicDatasetMatch
  message : String
  deriving DecidableEq, Repr

/-- Compare the recorded hash of a file of a dataset with the hash of the file. -/
def grpcVerifyFile (db : DatasetTables) (file : DatasetFileRecord) : FileVerification :=
  let actualHash := (db.getFile file.fileId).map File.contentHash
  let valid := actualHash == some file.contentHash
  { path := file.pathInDataset
    expectedHash := file.contentHash
    actualHash := actualHash.getD []
    valid
    error := if valid then "" else "Hash mismatch" }

/-- The trust level after a verification over gRPC; the owner zero stands for none. -/
def grpcComputedTrust (publicMatch : Option PublicDatasetMatch) (dataset : DatasetRecord) :
    TrustLevel :=
  if publicMatch.isSome then .verified
  else if dataset.signature.isSome then .signed
  else if dataset.ownerId ≠ 0 then .selfUploaded
  else .untrusted

/-- The message about a verification over gRPC. -/
def grpcVerificationMessage (manifestValid allFilesValid publicMatch : Bool) : String :=
  if manifestValid && allFilesValid then
    if publicMatch then "Dataset verified against public registry"
    else "Dataset integrity verified"
  else if manifestValid = false then
    "Manifest hash mismatch"
  else
    "Some files failed verification"

/-- Verify a dataset over gRPC. -/
def grpcVerifyDataset (blake3 : Bytes → Bytes) (env : GrpcVerifyEnv) (db : DatasetTables)
    (request : VerifyDatasetRequest) : Except StreamStatus VerificationResult :=
  if env.datasetQuery = false then
    .error (.internal .unavailable)
  else
    match db.getDataset request.datasetId with
    | none => .error (.notFound "Dataset not found")
    | some dataset =>
        if env.filesQuery = false then
          .error (.internal .unavailable)
        else
          let files := db.getDatasetFiles env.fileOrder request.datasetId
          let manifestValid := blake3 (manifestBytes files) == dataset.contentHash
          if request.fullVerification && files.any fun file => !(env.fileQuery file).isOk then
            .error (.internal .unavailable)
          else
            let fileVerifications :=
              if request.fullVerification then files.map (grpcVerifyFile db) else []
            let allFilesValid := fileVerifications.all FileVerification.valid
            let publicMatch :=
              if request.checkPublicRegistry && env.publicQuery then
                (db.findPublicDatasetByHash env.publicOrder dataset.contentHash).map .ofRow
              else
                none
            .ok
              { datasetId := request.datasetId
                manifestValid
                allFilesValid
                computedTrustLevel := grpcComputedTrust publicMatch dataset
                files := fileVerifications
                publicMatch
                message :=
                  grpcVerificationMessage manifestValid allFilesValid publicMatch.isSome }

end CyxCloud.Gateway
