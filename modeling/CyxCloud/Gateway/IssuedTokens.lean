import CyxCloud.Gateway.ReferenceCodec

/-!
# Issued tokens

What a successful issue of a token implies on the two paths, and what both verify and revoke.  A
user who is not the owner needs a share, but neither its permissions nor its end bound the token.
-/

namespace CyxCloud.Gateway

open CyxCloud.Core hiding Chunk
open Library Metadata

variable {σ ν : Type} {blake3 : Bytes → Bytes} {scheme : SignatureScheme σ ν} {codec : TokenCodec}
  {signingKey : σ} {db after : DatasetTables} {now : Instant}

/-! ## Shares -/

/-- A share of the dataset with the user that has not expired. -/
def LiveShare (db : DatasetTables) (now : Instant) (datasetId userId : Uuid)
    (share : DatasetShare) : Prop :=
  share ∈ db.datasetShares ∧ share.datasetId = datasetId ∧ share.sharedWithUserId = userId ∧
    ∀ expires, share.expiresAt = some expires → now < expires

theorem checkDatasetAccess_eq_some {datasetId userId : Uuid} {share : DatasetShare}
    (found : db.checkDatasetAccess now datasetId userId = some share) :
    LiveShare db now datasetId userId share := by
  have selected := List.find?_some found
  simp only [Bool.and_eq_true, beq_iff_eq] at selected
  refine ⟨List.mem_of_find?_eq_some found, selected.1.1, selected.1.2, fun expires same => ?_⟩
  rw [same] at selected
  simpa using selected.2

/-- Access without ownership comes from a share. -/
theorem exists_share_of_hasAccess {dataset : DatasetRecord} {userId : Uuid}
    (access : hasAccess db now dataset userId = true) (foreign : dataset.ownerId ≠ userId) :
    ∃ share, LiveShare db now dataset.id userId share := by
  simp only [hasAccess, Bool.or_eq_true, beq_iff_eq, foreign, false_or, Option.isSome_iff_exists]
    at access
  obtain ⟨share, found⟩ := access
  exact ⟨share, checkDatasetAccess_eq_some found⟩

/-! ## Issue -/

/-- A token is recorded under an identifier that no other token has, for a known node if for any. -/
theorem createDataAccessToken_ok {token : CreateDataAccessToken} {row : DataAccessToken}
    (ok : db.createDataAccessToken token = (after, .ok row)) :
    db.hasDataAccessToken token.id = false ∧ token.nodeId.all db.toDatabase.hasNode = true ∧
      after = { db with dataAccessTokens := db.dataAccessTokens ++ [token.row] } := by
  unfold DatasetTables.createDataAccessToken at ok
  split at ok
  · cases ok
  · rename_i free
    split at ok
    · cases ok
    · rename_i known
      cases ok
      simp only [Bool.not_eq_true', Bool.not_eq_false, Bool.and_eq_true] at known
      exact ⟨by simpa using free, known.2, rfl⟩

theorem hasDataset_of_getDataset {id : Uuid} {dataset : DatasetRecord}
    (found : db.getDataset id = some dataset) : db.hasDataset id = true := by
  rw [DatasetTables.hasDataset, List.any_eq_true]
  exact ⟨dataset, List.mem_of_find?_eq_some found,
    beq_iff_eq.mpr (DatasetTables.id_of_getDataset found)⟩

/-- The record of a token of the service. -/
def serviceRecord (blake3 : Bytes → Bytes) (env : CreateTokenEnv) (request : CreateTokenRequest)
    (response : TokenResponse) : CreateDataAccessToken :=
  { id := env.tokenId
    datasetId := request.datasetId
    nodeId := request.nodeId
    userId := request.userId
    tokenHash := blake3 response.token.toUTF8.data.toList
    scopes := request.scopes
    expiresAt := response.expiresAt }

/-- What an issued token of the service is. -/
structure ServiceIssued (blake3 : Bytes → Bytes) (scheme : SignatureScheme σ ν)
    (codec : TokenCodec) (signingKey : σ) (env : CreateTokenEnv) (now : Instant)
    (db : DatasetTables) (request : CreateTokenRequest) (after : DatasetTables)
    (response : TokenResponse) : Prop where
  access : ∃ dataset, db.getDataset request.datasetId = some dataset ∧
    hasAccess db now dataset request.userId = true
  added : addSeconds now request.ttl = some response.expiresAt
  token_eq : response.token =
    (signToken scheme codec signingKey (tokenData env request now response.expiresAt)).encode codec
  tokenId_eq : response.tokenId = env.tokenId
  scopes_eq : response.scopes = request.scopes
  fresh : db.hasDataAccessToken env.tokenId = false
  after_eq : after = { db with
    dataAccessTokens := db.dataAccessTokens ++ [(serviceRecord blake3 env request response).row] }

theorem createToken_ok {env : CreateTokenEnv} {request : CreateTokenRequest}
    {response : TokenResponse}
    (ok : createToken blake3 scheme codec signingKey env now db request = (after, .ok response)) :
    ServiceIssued blake3 scheme codec signingKey env now db request after response := by
  unfold createToken at ok
  split at ok
  · cases ok
  · split at ok
    · cases ok
    · rename_i dataset found
      split at ok
      · cases ok
      · split at ok
        · cases ok
        · rename_i access
          split at ok
          · cases ok
          · rename_i expiresAt added
            simp only at ok
            split at ok
            · cases ok
            · split at ok
              · cases ok
              · rename_i stored_ok
                cases ok
                obtain ⟨fresh, -, after_eq⟩ := createDataAccessToken_ok stored_ok
                exact
                  { access := ⟨dataset, found, by simpa using access⟩
                    added
                    token_eq := rfl
                    tokenId_eq := rfl
                    scopes_eq := rfl
                    fresh
                    after_eq }

/-- The answer of the service to a request that it grants. -/
def serviceResponse (scheme : SignatureScheme σ ν) (codec : TokenCodec) (signingKey : σ)
    (env : CreateTokenEnv) (request : CreateTokenRequest) (now expiresAt : Instant) :
    TokenResponse :=
  { token := (signToken scheme codec signingKey (tokenData env request now expiresAt)).encode codec
    tokenId := env.tokenId
    expiresAt
    scopes := request.scopes }

theorem createToken_of_access {env : CreateTokenEnv} {request : CreateTokenRequest}
    {dataset : DatasetRecord} {expiresAt : Instant} (queried : env.datasetQuery = true)
    (asked : env.accessQuery = true) (inserted : env.insert = true)
    (found : db.getDataset request.datasetId = some dataset)
    (access : hasAccess db now dataset request.userId = true)
    (added : addSeconds now request.ttl = some expiresAt)
    (known : request.nodeId.all db.toDatabase.hasNode = true)
    (free : db.hasDataAccessToken env.tokenId = false) :
    createToken blake3 scheme codec signingKey env now db request =
      ({ db with
          dataAccessTokens := db.dataAccessTokens ++
            [(serviceRecord blake3 env request
              (serviceResponse scheme codec signingKey env request now expiresAt)).row] },
        .ok (serviceResponse scheme codec signingKey env request now expiresAt)) := by
  simp [createToken, DatasetTables.createDataAccessToken, queried, asked, inserted, found, access,
    added, known, free, hasDataset_of_getDataset found, serviceRecord, serviceResponse]

/-- The service leaves the tables as they are when it issues nothing. -/
theorem createToken_error {env : CreateTokenEnv} {request : CreateTokenRequest}
    {cause : DataAccessError}
    (failed : (createToken blake3 scheme codec signingKey env now db request).2 = .error cause) :
    (createToken blake3 scheme codec signingKey env now db request).1 = db := by
  unfold createToken at failed ⊢
  split
  · rfl
  · split
    · rfl
    · split
      · rfl
      · split
        · rfl
        · split
          · rfl
          · simp only
            split
            · rfl
            · split
              · rfl
              · simp_all

theorem eq_of_createToken_error {env : CreateTokenEnv} {request : CreateTokenRequest}
    {cause : DataAccessError} {after : DatasetTables}
    (outcome : createToken blake3 scheme codec signingKey env now db request =
      (after, .error cause)) : after = db := by
  have same := createToken_error (congrArg Prod.snd outcome)
  rwa [outcome] at same

/-- The issue of a token over gRPC passes every check, and every statement is answered. -/
def CreateAccessTokenEnv.Grants (env : CreateAccessTokenEnv) (now : Instant) (db : DatasetTables)
    (userId : Uuid) (request : CreateAccessTokenRequest) : Prop :=
  ∃ datasetId dataset nodeId, env.parseUuid request.datasetId = some datasetId ∧
    env.datasetQuery = true ∧ db.getDataset datasetId = some dataset ∧
    (dataset.ownerId ≠ userId → env.accessQuery = true) ∧
    hasAccess db now dataset userId = true ∧ request.node env = .ok nodeId ∧
    nodeId.all db.toDatabase.hasNode = true ∧ (addSeconds now request.ttl).isSome = true ∧
    env.insert = true ∧ db.hasDataAccessToken env.tokenId = false

/-- The record of a token over gRPC. -/
def grpcRecord (blake3 : Bytes → Bytes) (env : CreateAccessTokenEnv) (datasetId : Uuid)
    (nodeId : Option Uuid) (userId : Uuid) (request : CreateAccessTokenRequest)
    (response : AccessTokenResponse) (expiresAt : Instant) : CreateDataAccessToken :=
  { id := env.tokenId
    datasetId
    nodeId
    userId
    tokenHash := blake3 response.token.toUTF8.data.toList
    scopes := request.granted
    expiresAt }

/-- What an issued token over gRPC is. -/
structure GrpcIssued (blake3 : Bytes → Bytes) (codec : TokenCodec) (env : CreateAccessTokenEnv)
    (now : Instant) (db : DatasetTables) (userId : Uuid) (request : CreateAccessTokenRequest)
    (after : DatasetTables) (response : AccessTokenResponse) (expiresAt : Instant) : Prop where
  grants : env.Grants now db userId request
  access : ∃ dataset datasetId, env.parseUuid request.datasetId = some datasetId ∧
    db.getDataset datasetId = some dataset ∧ hasAccess db now dataset userId = true
  instant_eq : expiresAt = now + request.ttl * MICROS
  expires_eq : response.expiresAt = timestamp expiresAt
  token_eq : response.token = codec.base64Encode env.tokenBytes
  tokenId_eq : response.tokenId = env.tokenId
  scopes_eq : response.scopes = request.granted
  fresh : db.hasDataAccessToken env.tokenId = false
  after_eq : ∃ datasetId nodeId, env.parseUuid request.datasetId = some datasetId ∧
    after = { db with
      dataAccessTokens := db.dataAccessTokens ++
        [(grpcRecord blake3 env datasetId nodeId userId request response expiresAt).row] }

theorem createAccessToken_ok {env : CreateAccessTokenEnv} {userId : Uuid}
    {request : CreateAccessTokenRequest} {response : AccessTokenResponse}
    (ok : createAccessToken blake3 codec env now db userId request = (after, .ok response)) :
    ∃ expiresAt, GrpcIssued blake3 codec env now db userId request after response expiresAt := by
  unfold createAccessToken at ok
  split at ok
  · cases ok
  · rename_i datasetId parsed
    split at ok
    · cases ok
    · rename_i queried
      split at ok
      · cases ok
      · rename_i dataset found
        split at ok
        · cases ok
        · rename_i answered
          split at ok
          · cases ok
          · rename_i access
            split at ok
            · cases ok
            · rename_i nodeId node
              simp only at ok
              split at ok
              · cases ok
              · rename_i expiresAt added
                split at ok
                · cases ok
                · rename_i inserted
                  split at ok
                  · cases ok
                  · rename_i stored_ok
                    cases ok
                    obtain ⟨fresh, known, after_eq⟩ := createDataAccessToken_ok stored_ok
                    have asked : dataset.ownerId ≠ userId → env.accessQuery = true := by
                      intro foreign
                      simpa [foreign] using answered
                    exact ⟨expiresAt,
                      { grants := ⟨datasetId, dataset, nodeId, parsed, by simpa using queried,
                          found, asked, by simpa using access, node, known, by rw [added]; rfl,
                          by simpa using inserted, fresh⟩
                        access := ⟨dataset, datasetId, parsed, found, by simpa using access⟩
                        instant_eq := addSeconds_eq added
                        expires_eq := rfl
                        token_eq := rfl
                        tokenId_eq := rfl
                        scopes_eq := rfl
                        fresh
                        after_eq := ⟨datasetId, nodeId, parsed, after_eq⟩ }⟩

theorem CreateAccessTokenEnv.Grants.createAccessToken_ok (blake3 : Bytes → Bytes)
    (codec : TokenCodec) {env : CreateAccessTokenEnv} {userId : Uuid}
    {request : CreateAccessTokenRequest} (grants : env.Grants now db userId request) :
    ∃ after response,
      createAccessToken blake3 codec env now db userId request = (after, .ok response) := by
  obtain ⟨datasetId, dataset, nodeId, parsed, queried, found, asked, access, node, known, in_range,
    inserted, free⟩ := grants
  obtain ⟨expiresAt, added⟩ := Option.isSome_iff_exists.mp in_range
  have answered : ¬ (dataset.ownerId ≠ userId ∧ env.accessQuery = false) := by
    rintro ⟨foreign, unanswered⟩
    rw [asked foreign] at unanswered
    cases unanswered
  simp [createAccessToken, DatasetTables.createDataAccessToken, parsed, queried, found, answered,
    access, node, known, added, inserted, free, hasDataset_of_getDataset found]

/-- The gRPC method leaves the tables as they are when it issues nothing. -/
theorem createAccessToken_error {env : CreateAccessTokenEnv} {userId : Uuid}
    {request : CreateAccessTokenRequest} {status : AccessTokenStatus}
    (failed : (createAccessToken blake3 codec env now db userId request).2 = .error status) :
    (createAccessToken blake3 codec env now db userId request).1 = db := by
  unfold createAccessToken at failed ⊢
  split
  · rfl
  · split
    · rfl
    · split
      · rfl
      · split
        · rfl
        · split
          · rfl
          · split
            · rfl
            · simp only
              split
              · rfl
              · split
                · rfl
                · split
                  · rfl
                  · simp_all

theorem eq_of_createAccessToken_error {env : CreateAccessTokenEnv} {userId : Uuid}
    {request : CreateAccessTokenRequest} {status : AccessTokenStatus} {after : DatasetTables}
    (outcome : createAccessToken blake3 codec env now db userId request =
      (after, .error status)) : after = db := by
  have same := createAccessToken_error (congrArg Prod.snd outcome)
  rwa [outcome] at same

/-! ## Tokens of users who are not the owner -/

/-- A token of the service or over gRPC goes to another user than the owner only while a share with
that user has not expired.  Its scopes are those of the request, or `read` and `stream` if a request
over gRPC names none, and a token of the service expires within the largest lifetime. -/
theorem foreign_token_shared (blake3 : Bytes → Bytes) (scheme : SignatureScheme σ ν)
    (codec : TokenCodec) (lawful : codec.Lawful) (signingKey : σ) (db after : DatasetTables)
    (now : Instant) (dataset : DatasetRecord) :
    (∀ (env : CreateTokenEnv) (request : CreateTokenRequest) (response : TokenResponse),
      createToken blake3 scheme codec signingKey env now db request = (after, .ok response) →
        db.getDataset request.datasetId = some dataset → dataset.ownerId ≠ request.userId →
          (∃ share, LiveShare db now request.datasetId request.userId share) ∧
          response.scopes = request.scopes ∧
          (∃ token, SignedToken.decode codec response.token = some token ∧
            token.data.scopes = request.scopes ∧
            token.data.expiresAt = timestamp response.expiresAt) ∧
          (∃ row ∈ after.dataAccessTokens, row.id = response.tokenId ∧
            row.scopes = request.scopes ∧ row.expiresAt = response.expiresAt) ∧
          response.expiresAt ≤ now + MAX_TOKEN_TTL_SECS * MICROS) ∧
    ∀ (env : CreateAccessTokenEnv) (userId : Uuid) (request : CreateAccessTokenRequest)
      (response : AccessTokenResponse) (datasetId : Uuid),
      createAccessToken blake3 codec env now db userId request = (after, .ok response) →
        env.parseUuid request.datasetId = some datasetId →
          db.getDataset datasetId = some dataset → dataset.ownerId ≠ userId →
            (∃ share, LiveShare db now datasetId userId share) ∧
            response.scopes =
              (if request.scopes = [] then ["read", "stream"] else request.scopes) ∧
            ∃ row ∈ after.dataAccessTokens, row.id = response.tokenId ∧
              row.scopes = response.scopes ∧ timestamp row.expiresAt = response.expiresAt := by
  constructor
  · intro env request response ok found foreign
    have issued := createToken_ok ok
    obtain ⟨other, other_found, access⟩ := issued.access
    obtain rfl : dataset = other := Option.some.inj (found.symm.trans other_found)
    refine ⟨?_, issued.scopes_eq, ?_, ?_, ?_⟩
    · rw [← DatasetTables.id_of_getDataset found]
      exact exists_share_of_hasAccess access foreign
    · exact ⟨_, by rw [issued.token_eq, SignedToken.decode_encode lawful], rfl, rfl⟩
    · rw [issued.after_eq]
      exact ⟨_, List.mem_append_right _ (List.mem_singleton_self _), issued.tokenId_eq.symm, rfl,
        rfl⟩
    · have bounded : request.ttl ≤ MAX_TOKEN_TTL_SECS := min_le_right _ _
      have micros_nonneg : 0 ≤ MICROS := by decide
      rw [addSeconds_eq issued.added]
      exact Int.add_le_add_left (Int.mul_le_mul_of_nonneg_right bounded micros_nonneg) now
  · intro env userId request response datasetId ok parsed found foreign
    obtain ⟨expiresAt, issued⟩ := createAccessToken_ok ok
    obtain ⟨other, otherId, other_parsed, other_found, access⟩ := issued.access
    obtain rfl : datasetId = otherId := Option.some.inj (parsed.symm.trans other_parsed)
    obtain rfl : dataset = other := Option.some.inj (found.symm.trans other_found)
    refine ⟨?_, ?_, ?_⟩
    · rw [← DatasetTables.id_of_getDataset found]
      exact exists_share_of_hasAccess access foreign
    · rw [issued.scopes_eq, CreateAccessTokenRequest.granted]
      simp only [List.isEmpty_iff]
    · obtain ⟨_, nodeId, -, after_eq⟩ := issued.after_eq
      rw [after_eq]
      exact ⟨_, List.mem_append_right _ (List.mem_singleton_self _), issued.tokenId_eq.symm,
        issued.scopes_eq.symm, issued.expires_eq.symm⟩

namespace OneToken

/-- A share of the dataset with user 8: an hour of reading. -/
def share : DatasetShare :=
  { datasetId := 1
    sharedWithUserId := 8
    permissions := ["read"]
    expiresAt := some (3600 * MICROS) }

/-- The tables with the dataset and its share. -/
def shared : DatasetTables :=
  { OneDataset.tables .selfUploaded with datasetShares := [share] }

/-- What user 8 gets. -/
def response : TokenResponse :=
  serviceResponse OneDataset.scheme OneToken.codec OneToken.signingKey env request 0 expiresAt

/-- The tables with the token. -/
def recorded : DatasetTables :=
  { shared with dataAccessTokens := [(serviceRecord Reference.hash env request response).row] }

theorem addSeconds_eq_expiresAt : addSeconds 0 request.ttl = some expiresAt := by
  decide

theorem createToken_eq :
    createToken Reference.hash OneDataset.scheme OneToken.codec OneToken.signingKey env 0 shared
      request = (recorded, .ok response) := by
  have found : shared.getDataset request.datasetId = some (OneDataset.dataset .selfUploaded) := rfl
  exact createToken_of_access rfl rfl rfl found rfl addSeconds_eq_expiresAt rfl rfl

/-- The identifiers of the dataset and of the tokens, as they are written. -/
def parseUuid (text : String) : Option Uuid :=
  [("00000000-0000-0000-0000-000000000001", 1), ("00000000-0000-0000-0000-000000000005", 5),
    ("00000000-0000-0000-0000-000000000006", 6)].lookup text

/-- All statements are answered. -/
def grpcEnv : CreateAccessTokenEnv :=
  { parseUuid
    datasetQuery := true
    accessQuery := true
    tokenId := 6
    tokenBytes := List.replicate 32 0
    length_tokenBytes := rfl
    insert := true }

/-- A request of user 8 over gRPC that names no scopes and no lifetime. -/
def grpcRequest : CreateAccessTokenRequest :=
  { datasetId := "00000000-0000-0000-0000-000000000001"
    nodeId := ""
    scopes := []
    ttlSeconds := 0 }

theorem grants (db : DatasetTables) (datasets_eq : db.datasets = shared.datasets)
    (shares_eq : db.datasetShares = shared.datasetShares)
    (free : db.hasDataAccessToken 6 = false) : grpcEnv.Grants 0 db 8 grpcRequest := by
  have found : db.getDataset 1 = some (OneDataset.dataset .selfUploaded) := by
    rw [DatasetTables.getDataset, datasets_eq]
    rfl
  have access : hasAccess db 0 (OneDataset.dataset .selfUploaded) 8 = true := by
    rw [hasAccess, DatasetTables.checkDatasetAccess, shares_eq]
    rfl
  refine ⟨1, _, none, ?_, rfl, found, fun _ => rfl, access, rfl, rfl, by decide, rfl, free⟩
  decide

/-- Tokens of both paths for user 8. -/
theorem response_shared :
    (∃ share, LiveShare shared 0 1 8 share) ∧ response.scopes = ["*"] ∧
      response.expiresAt ≤ 0 + MAX_TOKEN_TTL_SECS * MICROS ∧
      ∃ after response, createAccessToken Reference.hash OneToken.codec grpcEnv 0 shared 8
        grpcRequest = (after, .ok response) ∧ response.scopes = ["read", "stream"] := by
  have found : shared.getDataset 1 = some (OneDataset.dataset .selfUploaded) := rfl
  have foreign : (OneDataset.dataset .selfUploaded).ownerId ≠ 8 := by decide
  obtain ⟨live, scopes, -, -, bounded⟩ :=
    (foreign_token_shared Reference.hash OneDataset.scheme OneToken.codec codec_lawful
      OneToken.signingKey shared recorded 0 (OneDataset.dataset .selfUploaded)).1 env request
        response createToken_eq found foreign
  obtain ⟨after, grpcResponse, ok⟩ :=
    (grants shared rfl rfl rfl).createAccessToken_ok Reference.hash OneToken.codec
  obtain ⟨-, granted, -⟩ :=
    (foreign_token_shared Reference.hash OneDataset.scheme OneToken.codec codec_lawful
      OneToken.signingKey shared after 0 (OneDataset.dataset .selfUploaded)).2 grpcEnv 8
        grpcRequest grpcResponse 1 ok (by decide) found foreign
  exact ⟨live, scopes, bounded, after, grpcResponse, ok, granted⟩

/-- A token within a share: scopes that the permissions allow, and an end no later than that of the
share and than the largest lifetime. -/
def WithinShare (db : DatasetTables) (now : Instant) (datasetId userId : Uuid)
    (scopes : List String) (expiresAt : Instant) : Prop :=
  ∃ share, LiveShare db now datasetId userId share ∧
    (∀ scope ∈ scopes, scope ∈ share.permissions ∨ "*" ∈ share.permissions) ∧
    (∀ ends, share.expiresAt = some ends → expiresAt ≤ ends) ∧
    expiresAt ≤ now + MAX_TOKEN_TTL_SECS * MICROS

/-- User 8 may read for an hour and gets a token for everything for a day. -/
theorem token_exceeds_share :
    ¬ ∀ (blake3 : Bytes → Bytes) (scheme : SignatureScheme UInt8 UInt8) (codec : TokenCodec)
      (signingKey : UInt8) (db after : DatasetTables) (now : Instant) (dataset : DatasetRecord),
      codec.Lawful →
      (∀ (env : CreateTokenEnv) (request : CreateTokenRequest) (response : TokenResponse),
        createToken blake3 scheme codec signingKey env now db request = (after, .ok response) →
          db.getDataset request.datasetId = some dataset → dataset.ownerId ≠ request.userId →
            WithinShare db now request.datasetId request.userId response.scopes
              response.expiresAt) ∧
      ∀ (env : CreateAccessTokenEnv) (userId : Uuid) (request : CreateAccessTokenRequest)
        (response : AccessTokenResponse) (datasetId : Uuid),
        createAccessToken blake3 codec env now db userId request = (after, .ok response) →
          env.parseUuid request.datasetId = some datasetId →
            db.getDataset datasetId = some dataset → dataset.ownerId ≠ userId →
              ∀ row ∈ after.dataAccessTokens, row.id = response.tokenId →
                WithinShare db now datasetId userId response.scopes row.expiresAt := by
  intro within
  have foreign : (OneDataset.dataset .selfUploaded).ownerId ≠ 8 := by decide
  obtain ⟨other, ⟨member, -⟩, scopes, -⟩ :=
    (within Reference.hash OneDataset.scheme OneToken.codec OneToken.signingKey shared recorded 0
      (OneDataset.dataset .selfUploaded) codec_lawful).1 env request response createToken_eq rfl
        foreign
  obtain rfl : other = share := List.mem_singleton.mp member
  rcases scopes "*" (List.mem_singleton_self _) with allowed | allowed <;>
    simp [share] at allowed

end OneToken

/-! ## Verification and revocation -/

theorem getDataAccessToken_eq_some {id : Uuid} {row : DataAccessToken}
    (found : db.getDataAccessToken now id = some row) :
    row ∈ db.dataAccessTokens ∧ row.id = id ∧ row.revokedAt = none ∧ now < row.expiresAt := by
  have selected := List.find?_some found
  simp only [Bool.and_eq_true, beq_iff_eq, Option.isNone_iff_eq_none, decide_eq_true_eq]
    at selected
  exact ⟨List.mem_of_find?_eq_some found, selected.1.1, selected.1.2, selected.2⟩

theorem getDataAccessToken_isSome {row : DataAccessToken} (row_mem : row ∈ db.dataAccessTokens)
    (live : row.revokedAt = none) (lives : now < row.expiresAt) :
    (db.getDataAccessToken now row.id).isSome = true := by
  rw [DatasetTables.getDataAccessToken, List.find?_isSome]
  exact ⟨row, row_mem, by simp [live, lives]⟩

/-- What a verified token is. -/
theorem verifyToken_ok_iff {tokenQuery : Bool} {text : String} {data : TokenData} :
    verifyToken scheme codec signingKey tokenQuery now db text = .ok data ↔
      ∃ token, SignedToken.decode codec text = some token ∧ token.data = data ∧
        scheme.accepts (scheme.verifyingKey signingKey) (codec.dataToVec data)
          token.signature = true ∧
        timestamp now ≤ data.expiresAt ∧ tokenQuery = true ∧
        (db.getDataAccessToken now data.tokenId).isSome = true := by
  unfold verifyToken
  cases decoded : SignedToken.decode codec text with
  | none => simp
  | some token =>
      simp only [Option.some.injEq, exists_eq_left']
      constructor
      · intro ok
        split at ok
        · cases ok
        · rename_i accepted
          split at ok
          · cases ok
          · rename_i lives
            split at ok
            · cases ok
            · rename_i answered
              split at ok
              · cases ok
              · rename_i row found
                split at ok
                · cases ok
                · cases ok
                  exact ⟨rfl, by simpa using accepted, not_lt.mp lives, by simpa using answered,
                    by rw [found]; rfl⟩
      · rintro ⟨rfl, accepted, lives, answered, found⟩
        obtain ⟨row, found⟩ := Option.isSome_iff_exists.mp found
        obtain ⟨-, -, live, -⟩ := getDataAccessToken_eq_some found
        simp [accepted, not_lt.mpr lives, answered, found, live]

/-- A revocation by the service leaves the tables as they are, or revokes a token of the user. -/
theorem revokeToken_cases (tokenQuery update : Bool) (now : Instant) (db : DatasetTables)
    (tokenId userId : Uuid) :
    (revokeToken tokenQuery update now db tokenId userId).1 = db ∨
      (∃ row ∈ db.dataAccessTokens, row.id = tokenId ∧ row.userId = userId) ∧
        (revokeToken tokenQuery update now db tokenId userId).1 =
          db.revokeDataAccessToken now tokenId := by
  unfold revokeToken
  split
  · exact .inl rfl
  · split
    · exact .inl rfl
    · rename_i row found
      split
      · exact .inl rfl
      · rename_i own
        split
        · exact .inl rfl
        · obtain ⟨row_mem, row_id, -, -⟩ := getDataAccessToken_eq_some found
          exact .inr ⟨⟨row, row_mem, row_id, not_not.mp own⟩, rfl⟩

/-- A revocation over gRPC leaves the tables as they are, or revokes the token that the text stands
for. -/
theorem revokeAccessToken_cases (parseUuid : String → Option Uuid) (update : Bool) (now : Instant)
    (db : DatasetTables) (userId : Uuid) (text : String) :
    (revokeAccessToken parseUuid update now db userId text).1 = db ∨
      ∃ tokenId, parseUuid text = some tokenId ∧ update = true ∧
        (revokeAccessToken parseUuid update now db userId text).1 =
          db.revokeDataAccessToken now tokenId := by
  unfold revokeAccessToken
  split
  · exact .inl rfl
  · rename_i tokenId parsed
    cases update with
    | false => exact .inl rfl
    | true => exact .inr ⟨tokenId, parsed, rfl, rfl⟩

end CyxCloud.Gateway
