import CyxCloud.Gateway.DatasetVerification
import CyxCloud.Gateway.Reference
import CyxCloud.Library.Runs

/-!
# Trust and signatures of datasets

Runs of verifications, comparisons with the registry and signatures.  All of them write the same
row: what an update of the trust level does to the signature, and to levels that were better before.
-/

namespace CyxCloud.Gateway

open CyxCloud.Core hiding Chunk
open Library Metadata

/-! ## Operations -/

section Operations

variable {σ ν : Type}

/-- An operation of the verification service or of the registry. -/
inductive TrustOp (σ : Type) where
  | verifyDataset (env : VerifyEnv) (datasetId : Uuid) (fullVerification : Bool)
  | verifyAgainstPublicRegistry (env : RegistryEnv) (datasetId : Uuid)
  | registryVerifyDataset (env : RegistryEnv) (datasetId : Uuid)
  | signDataset (env : SignEnv) (datasetId userId : Uuid) (signingKey : σ)

/-- The tables after an operation; `verify_dataset` only reads. -/
def applyTrustOp (scheme : SignatureScheme σ ν) (db : DatasetTables) : TrustOp σ → DatasetTables
  | .verifyDataset _ _ _ => db
  | .verifyAgainstPublicRegistry env datasetId => (verifyAgainstPublicRegistry env db datasetId).1
  | .registryVerifyDataset env datasetId => (registryVerifyDataset env db datasetId).1
  | .signDataset env datasetId userId signingKey =>
      (signDataset scheme env db datasetId userId signingKey).1

/-- The operation signs a dataset. -/
def TrustOp.signs : TrustOp σ → Bool
  | .signDataset _ _ _ _ => true
  | .verifyDataset _ _ _ | .verifyAgainstPublicRegistry _ _ | .registryVerifyDataset _ _ => false

/-- The recorded trust level of a dataset. -/
def recordedTrust (db : DatasetTables) (datasetId : Uuid) : Option Int :=
  (db.getDataset datasetId).map fun dataset => dataset.trustLevel

variable {db : DatasetTables}

theorem recordedTrust_updateDatasetTrust (id other : Uuid) (trustLevel : Int)
    (signature : Option Bytes) (now : Instant) :
    recordedTrust (db.updateDatasetTrust id trustLevel signature now) other =
      (recordedTrust db other).map fun level => if other = id then trustLevel else level := by
  rw [recordedTrust, recordedTrust, DatasetTables.getDataset_updateDatasetTrust, Option.map_map,
    Option.map_map]
  cases found : db.getDataset other with
  | none => rfl
  | some row =>
      have row_id := DatasetTables.id_of_getDataset found
      simp only [Option.map_some, Function.comp_apply, row_id, beq_iff_eq]
      split <;> rfl

theorem recordedTrust_updateDatasetSignature (id other : Uuid) (signature : Bytes) :
    recordedTrust (db.updateDatasetSignature id signature) other = recordedTrust db other := by
  rw [recordedTrust, recordedTrust, DatasetTables.getDataset_updateDatasetSignature,
    Option.map_map]
  congr 1
  funext row
  simp only [Function.comp_apply]
  split <;> rfl

/-! ## What an operation does to the trust levels -/

theorem markVerified_cases (env : RegistryEnv) (db : DatasetTables) (id : Uuid) :
    markVerified env db id = db ∨
      markVerified env db id = db.updateDatasetTrust id TrustLevel.verified.asI32 none env.now := by
  unfold markVerified
  split
  · exact .inr rfl
  · exact .inl rfl

/-- A comparison with the registry leaves the tables as they are, or marks the dataset as
verified. -/
theorem verifyAgainstPublicRegistry_fst (env : RegistryEnv) (db : DatasetTables) (id : Uuid) :
    (verifyAgainstPublicRegistry env db id).1 = db ∨
      (verifyAgainstPublicRegistry env db id).1 =
        db.updateDatasetTrust id TrustLevel.verified.asI32 none env.now := by
  unfold verifyAgainstPublicRegistry
  split
  · exact .inl rfl
  · split
    · exact .inl rfl
    · split
      · exact .inl rfl
      · split
        · exact .inl rfl
        · exact markVerified_cases env db id

theorem registryVerifyDataset_fst (env : RegistryEnv) (db : DatasetTables) (id : Uuid) :
    (registryVerifyDataset env db id).1 = db ∨
      (registryVerifyDataset env db id).1 =
        db.updateDatasetTrust id TrustLevel.verified.asI32 none env.now := by
  unfold registryVerifyDataset
  split
  · exact .inl rfl
  · split
    · exact .inl rfl
    · split
      · exact .inl rfl
      · split
        · exact .inl rfl
        · exact markVerified_cases env db id

/-- A signature leaves the trust levels as they are, or marks the dataset as signed. -/
theorem recordedTrust_signDataset (scheme : SignatureScheme σ ν) (env : SignEnv)
    (db : DatasetTables) (id userId : Uuid) (signingKey : σ) (other : Uuid) :
    recordedTrust (signDataset scheme env db id userId signingKey).1 other =
        recordedTrust db other ∨
      recordedTrust (signDataset scheme env db id userId signingKey).1 other =
        (recordedTrust db other).map fun level =>
          if other = id then TrustLevel.signed.asI32 else level := by
  have stored (signature : Bytes) :
      recordedTrust (if env.signatureUpdate then db.updateDatasetSignature id signature else db)
        other = recordedTrust db other := by
    split
    · exact recordedTrust_updateDatasetSignature id other signature
    · rfl
  unfold signDataset
  split
  · exact .inl rfl
  · split
    · exact .inl rfl
    · split
      · exact .inl rfl
      · rename_i dataset _ _
        simp only
        split
        · right
          rw [recordedTrust_updateDatasetTrust, stored]
        · exact .inl (stored _)

/-- An operation keeps the level of a dataset, or sets it to `signed` or `verified`, the first only
by a signature. -/
theorem recordedTrust_applyTrustOp (scheme : SignatureScheme σ ν) (db : DatasetTables)
    (op : TrustOp σ) (id : Uuid) :
    recordedTrust (applyTrustOp scheme db op) id = recordedTrust db id ∨
      ∃ level : TrustLevel, (level = .verified ∨ level = .signed ∧ op.signs = true) ∧
        recordedTrust (applyTrustOp scheme db op) id =
          (recordedTrust db id).map fun _ => level.asI32 := by
  have marked (env : RegistryEnv) (target : Uuid) :
      recordedTrust (db.updateDatasetTrust target TrustLevel.verified.asI32 none env.now) id =
          recordedTrust db id ∨
        recordedTrust (db.updateDatasetTrust target TrustLevel.verified.asI32 none env.now) id =
          (recordedTrust db id).map fun _ => TrustLevel.verified.asI32 := by
    rw [recordedTrust_updateDatasetTrust]
    by_cases own : id = target
    · simp [own]
    · simp [own]
  cases op with
  | verifyDataset _ _ _ => exact .inl rfl
  | verifyAgainstPublicRegistry env target =>
      rcases verifyAgainstPublicRegistry_fst env db target with same | same
      · exact .inl (by rw [applyTrustOp, same])
      · rw [applyTrustOp, same]
        exact (marked env target).imp_right fun level => ⟨.verified, .inl rfl, level⟩
  | registryVerifyDataset env target =>
      rcases registryVerifyDataset_fst env db target with same | same
      · exact .inl (by rw [applyTrustOp, same])
      · rw [applyTrustOp, same]
        exact (marked env target).imp_right fun level => ⟨.verified, .inl rfl, level⟩
  | signDataset env target userId signingKey =>
      rcases recordedTrust_signDataset scheme env db target userId signingKey id with same | same
      · exact .inl same
      · rw [applyTrustOp, same]
        by_cases own : id = target
        · exact .inr ⟨.signed, .inr ⟨rfl, rfl⟩, by simp [own]⟩
        · exact .inl (by simp [own])

/-- An operation does not raise the number of a level from `verified` on. -/
theorem trust_not_degraded (scheme : SignatureScheme σ ν) (db : DatasetTables) (op : TrustOp σ)
    {id : Uuid} {level bound : Int} (recorded : recordedTrust db id = some level)
    (below : level ≤ bound) (verified_le : TrustLevel.verified.asI32 ≤ bound) :
    ∃ reached, recordedTrust (applyTrustOp scheme db op) id = some reached ∧ reached ≤ bound := by
  have signed_le : TrustLevel.signed.asI32 ≤ bound := le_trans (by decide) verified_le
  rcases recordedTrust_applyTrustOp scheme db op id with same | ⟨set, which, same⟩
  · exact ⟨level, same.trans recorded, below⟩
  · refine ⟨set.asI32, by rw [same, recorded, Option.map_some], ?_⟩
    rcases which with rfl | ⟨rfl, -⟩
    · exact verified_le
    · exact signed_le

/-- The level that a verification computes depends on the hashes and on the recorded level alone. -/
theorem verifyDataset_computed {blake3 : Bytes → Bytes} {env : VerifyEnv} {id : Uuid} {full : Bool}
    {dataset : DatasetRecord} {result : DatasetVerificationResult}
    (found : db.getDataset id = some dataset)
    (ok : verifyDataset blake3 env db id full = .ok result) :
    result.computedTrustLevel =
      computedTrust (result.manifestValid && result.allFilesValid) dataset.trustLevel := by
  unfold verifyDataset at ok
  split at ok
  · cases ok
  · rw [found] at ok
    simp only at ok
    split at ok
    · cases ok
    · cases ok
      rfl

/-- In any run, a dataset that is verified or less trusted never gets a larger level, and no
comparison with the registry gives it one.  A verification writes no level; the one it computes is
`selfUploaded` for an untrusted dataset whose hashes agree, the recorded one for any other whose
hashes agree, and `untrusted` else. -/
theorem trust_kept (blake3 : Bytes → Bytes) (scheme : SignatureScheme σ ν) (db : DatasetTables)
    (ops : List (TrustOp σ)) :
    (∀ id level, recordedTrust db id = some level → TrustLevel.verified.asI32 ≤ level →
      EveryState (applyTrustOp scheme)
        (fun reached => ∃ now, recordedTrust reached id = some now ∧ now ≤ level) db ops) ∧
    EveryStep (applyTrustOp scheme) (fun before op =>
      (∀ id level, recordedTrust before id = some level → TrustLevel.verified.asI32 ≤ level →
        ∃ after, recordedTrust (applyTrustOp scheme before op) id = some after ∧ after ≤ level) ∧
      ∀ env id full, op = .verifyDataset env id full →
        (∀ other, recordedTrust (applyTrustOp scheme before op) other =
          recordedTrust before other) ∧
        ∀ dataset result, before.getDataset id = some dataset →
          verifyDataset blake3 env before id full = .ok result →
            result.computedTrustLevel =
              if (result.manifestValid && result.allFilesValid) = false then .untrusted
              else if dataset.trustLevel = TrustLevel.untrusted.asI32 then .selfUploaded
              else .fromI32 dataset.trustLevel) db ops := by
  constructor
  · intro id level recorded verified_le
    have keeps : ∀ (reached : DatasetTables) (op : TrustOp σ),
        (∃ now, recordedTrust reached id = some now ∧ now ≤ level) →
          ∃ now, recordedTrust (applyTrustOp scheme reached op) id = some now ∧ now ≤ level := by
      rintro reached op ⟨now, recorded_now, below⟩
      exact trust_not_degraded scheme reached op recorded_now below verified_le
    exact everyState_of_keeps keeps ⟨level, recorded, le_rfl⟩ ops
  · refine everyStep_of_forall (fun op _ before => ⟨?_, ?_⟩) db
    · intro id level recorded verified_le
      exact trust_not_degraded scheme before op recorded le_rfl verified_le
    · rintro env id full rfl
      refine ⟨fun other => rfl, fun dataset result found ok => ?_⟩
      rw [verifyDataset_computed found ok, computedTrust]
      cases result.manifestValid && result.allFilesValid <;> rfl

/-! ## Signatures -/

/-- If a dataset is signed, its signature verifies until it is signed again, whatever
verifications and comparisons follow. -/
def SignatureLasts (scheme : SignatureScheme σ ν) (db : DatasetTables) (datasetId userId : Uuid)
    (signingKey : σ) : Prop :=
  ∀ env : SignEnv, env.Answered → ∀ after signature,
    signDataset scheme env db datasetId userId signingKey = (after, .ok signature) →
      ∀ ops : List (TrustOp σ), (∀ op ∈ ops, op.signs = false) →
        EveryState (applyTrustOp scheme) (fun reached =>
          verifySignature scheme true reached datasetId (scheme.verifyingKey signingKey) = .ok true)
          after ops

/-- The update of the trust level removes the signature that was stored before it. -/
theorem verifySignature_signDataset (scheme : SignatureScheme σ ν) {env : SignEnv}
    (answered : env.Answered) {id userId : Uuid} {dataset : DatasetRecord}
    (found : db.getDataset id = some dataset) (owned : dataset.ownerId = userId) (signingKey : σ)
    (key : ν) :
    ∃ after, signDataset scheme env db id userId signingKey =
        (after, .ok (scheme.sign signingKey dataset.contentHash)) ∧
      verifySignature scheme true after id key = .error .invalidSignature := by
  obtain ⟨datasetQuery, signatureUpdate, trustUpdate⟩ := answered
  refine ⟨(db.updateDatasetSignature id (scheme.sign signingKey dataset.contentHash)).updateDatasetTrust
    id TrustLevel.signed.asI32 none env.now, ?_, ?_⟩
  · simp [signDataset, datasetQuery, signatureUpdate, trustUpdate, found, owned]
  · have row_id := DatasetTables.id_of_getDataset found
    simp [verifySignature, DatasetTables.getDataset_updateDatasetTrust,
      DatasetTables.getDataset_updateDatasetSignature, found, row_id]

/-- A signature lasts only where none is made. -/
theorem signatureLasts_iff (scheme : SignatureScheme σ ν) (db : DatasetTables)
    (datasetId userId : Uuid) (signingKey : σ) :
    SignatureLasts scheme db datasetId userId signingKey ↔
      ∀ dataset, db.getDataset datasetId = some dataset → dataset.ownerId ≠ userId := by
  constructor
  · intro lasts dataset found owned
    have answered : SignEnv.Answered ⟨true, true, true, 0⟩ := ⟨rfl, rfl, rfl⟩
    obtain ⟨after, signed, rejected⟩ := verifySignature_signDataset scheme answered found owned
      signingKey (scheme.verifyingKey signingKey)
    have verifies := lasts _ answered after _ signed [] nofun
    rw [EveryState, rejected] at verifies
    cases verifies
  · intro refused env answered after signature signed
    obtain ⟨datasetQuery, -, -⟩ := answered
    unfold signDataset at signed
    rw [if_neg (by simp [datasetQuery])] at signed
    cases found : db.getDataset datasetId with
    | none =>
        rw [found] at signed
        cases signed
    | some dataset =>
        rw [found] at signed
        simp only [if_pos (refused dataset found)] at signed
        cases signed

end Operations

namespace OneDataset

/-- The file of the dataset. -/
def file : DatasetFileRecord :=
  { datasetId := 1
    fileId := 2
    fileIndex := 0
    pathInDataset := "photos/cat"
    contentHash := Reference.hash [7]
    sizeBytes := 1 }

/-- A dataset of user 7 whose recorded hashes agree. -/
def dataset (trustLevel : TrustLevel) : DatasetRecord :=
  { id := 1
    trustLevel := trustLevel.asI32
    name := "cats"
    ownerId := 7
    description := none
    contentHash := computeManifestHash Reference.hash [file]
    totalSizeBytes := 1
    fileCount := 1
    schema := none
    signature := none
    verifiedAt := none
    version := 1 }

/-- The tables with the dataset and its file. -/
def tables (trustLevel : TrustLevel) : DatasetTables :=
  { buckets := []
    nodes := []
    files := []
    chunks := []
    chunkLocations := []
    repairJobs := []
    datasets := [dataset trustLevel]
    datasetFiles := [file]
    publicDatasets := []
    datasetShares := []
    dataAccessTokens := [] }

/-- All queries are answered. -/
def env : VerifyEnv :=
  { datasetQuery := true
    filesQuery := true
    fileOrder := .insertion
    fileQuery := fun _ => .ok () }

theorem getDataset_eq (trustLevel : TrustLevel) :
    (tables trustLevel).getDataset 1 = some (dataset trustLevel) := rfl

theorem getDatasetFiles_eq (trustLevel : TrustLevel) (order : RowOrder DatasetFileRecord) :
    (tables trustLevel).getDatasetFiles order 1 = [file] := by
  have arranged : order.arrange [file] = [file] :=
    List.perm_singleton.mp (order.arrange_perm [file])
  change (order.arrange [file]).mergeSort _ = [file]
  rw [arranged, List.mergeSort_singleton]

theorem verifyDataset_ok (trustLevel : TrustLevel) :
    ∃ result, verifyDataset Reference.hash env (tables trustLevel) 1 false = .ok result ∧
      result.manifestValid = true ∧ result.allFilesValid = true := by
  simp [verifyDataset, env, getDataset_eq, getDatasetFiles_eq, dataset]

/-- A level is computed for an untrusted dataset that is more trusted than `verified`. -/
theorem untrusted_becomes_selfUploaded :
    ¬ ∀ (blake3 : Bytes → Bytes) (env : VerifyEnv) (db : DatasetTables) (id : Uuid) (full : Bool)
      (dataset : DatasetRecord) (result : DatasetVerificationResult),
      db.getDataset id = some dataset → dataset.trustLevel = TrustLevel.untrusted.asI32 →
        verifyDataset blake3 env db id full = .ok result →
          TrustLevel.verified.asI32 ≤ result.computedTrustLevel.asI32 := by
  intro bounded
  obtain ⟨result, ok, manifest, files⟩ := verifyDataset_ok .untrusted
  have computed := verifyDataset_computed (getDataset_eq .untrusted) ok
  have claimed := bounded _ _ _ _ _ _ result (getDataset_eq .untrusted) rfl ok
  rw [computed, manifest, files] at claimed
  revert claimed
  decide

/-- Signatures of 64 bytes that repeat the start of the message, under keys of one byte. -/
def scheme : SignatureScheme UInt8 UInt8 where
  verifyingKey key := key
  sign key message := (key :: message ++ List.replicate 64 0).take 64
  verify key message signature := signature == (key :: message ++ List.replicate 64 0).take 64
  signatureLength := 64
  length_sign key message := by simp

/-- The signature that the owner makes does not last. -/
theorem signature_lost : ¬ SignatureLasts scheme (tables .selfUploaded) 1 7 3 := by
  intro lasts
  have answered : SignEnv.Answered ⟨true, true, true, 0⟩ := ⟨rfl, rfl, rfl⟩
  obtain ⟨after, signed, rejected⟩ := verifySignature_signDataset scheme answered
    (getDataset_eq .selfUploaded) rfl 3 3
  have verifies := lasts _ answered after _ signed [] nofun
  rw [EveryState, show scheme.verifyingKey 3 = 3 from rfl, rejected] at verifies
  cases verifies

/-- A public dataset with the content of the dataset. -/
def publicDataset : PublicDataset :=
  { name := "public-cats"
    version := "1.0"
    officialUrl := "https://example.org/cats"
    officialHash := (dataset .attested).contentHash
    license := none
    verifiedBy := [] }

/-- The tables with an attested dataset that is a public one. -/
def registered : DatasetTables := { tables .attested with publicDatasets := [publicDataset] }

/-- All queries of a comparison are answered. -/
def answered : RegistryEnv :=
  { datasetQuery := true
    publicQuery := true
    publicOrder := .insertion
    trustUpdate := true
    now := 0 }

/-- An attested dataset is found in the registry, and a verification keeps its new level. -/
theorem attested_becomes_verified :
    recordedTrust registered 1 = some 3 ∧
      recordedTrust (applyTrustOp scheme registered (.registryVerifyDataset answered 1)) 1 =
        some 2 ∧
      EveryState (applyTrustOp scheme)
        (fun reached => ∃ now, recordedTrust reached 1 = some now ∧ now ≤ 3) registered
        [.registryVerifyDataset answered 1, .verifyDataset env 1 false] := by
  have found : registered.getDataset 1 = some (dataset .attested) := rfl
  have public_found : registered.findPublicDatasetByHash .insertion
      (dataset .attested).contentHash = some publicDataset := by
    simp [DatasetTables.findPublicDatasetByHash, registered, publicDataset,
      RowOrder.fetchOptional_singleton]
  have marked : applyTrustOp scheme registered (.registryVerifyDataset answered 1) =
      registered.updateDatasetTrust 1 TrustLevel.verified.asI32 none 0 := by
    simp [applyTrustOp, registryVerifyDataset, answered, found, public_found, markVerified]
  refine ⟨rfl, ?_, (trust_kept Reference.hash scheme registered _).1 1 3 rfl (by decide)⟩
  rw [marked, recordedTrust_updateDatasetTrust]
  rfl

end OneDataset

end CyxCloud.Gateway
