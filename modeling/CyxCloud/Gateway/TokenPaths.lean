import CyxCloud.Gateway.TokenRuns

/-!
# The service and the gRPC methods

Both paths record tokens in one table, and agree on no more than that: a token over gRPC is a random
text that the service never accepts, and its revocation over gRPC does not ask who wants it.
-/

namespace CyxCloud.Gateway

open CyxCloud.Core hiding Chunk
open Library Metadata

section Runs

variable {σ ν : Type} (blake3 : Bytes → Bytes) (scheme : SignatureScheme σ ν) (codec : TokenCodec)
  (signingKey : σ)

/-! ## What the paths are to agree on -/

/-- Every token over gRPC verifies until its end or its revocation. -/
def GrpcAccepted (state : TokenState) : Prop :=
  ∀ token ∈ state.grpcIssued, state.now < token.expiresAt →
    ¬ Revoked state.db token.response.tokenId →
      ∃ data, verifyToken scheme codec signingKey true state.now state.db token.response.token =
        .ok data

/-- An operation revokes tokens of the user who asks for it alone. -/
def RevokesOwn (state : TokenState) (op : TokenOp) : Prop :=
  ∀ row ∈ state.db.dataAccessTokens, row.revokedAt = none →
    Revoked (applyTokenOp blake3 scheme codec signingKey state op).db row.id →
      op.revoker = some row.userId

/-- An operation is not the issue of a token over gRPC. -/
def GrantsNone (state : TokenState) (op : TokenOp) : Prop :=
  ∀ env userId request, op = .createAccessToken env userId request →
    ¬ env.Grants state.now state.db userId request

/-- A revocation over gRPC that is carried out is for no token that is live and of another user. -/
def AsksForOwn (state : TokenState) (op : TokenOp) : Prop :=
  ∀ parseUuid userId text tokenId, op = .revokeAccessToken parseUuid true userId text →
    parseUuid text = some tokenId → ∀ row ∈ state.db.dataAccessTokens, row.id = tokenId →
      row.revokedAt = none → row.userId = userId

section Steps

variable {blake3 scheme codec signingKey} {state : TokenState} {op : TokenOp}

/-! ## Acceptance -/

theorem OneRow.not_revoked {db : DatasetTables} (unique : OneRow db) {row : DataAccessToken}
    (row_mem : row ∈ db.dataAccessTokens) (live : row.revokedAt = none) : ¬ Revoked db row.id := by
  rintro ⟨other, other_mem, same, revoked⟩
  rw [unique.eq_of_id other_mem row_mem same, live] at revoked
  cases revoked

theorem CreateAccessTokenRequest.ttl_pos (request : CreateAccessTokenRequest) :
    0 < request.ttl := by
  unfold CreateAccessTokenRequest.ttl
  split <;> omega

/-- A text of 32 bytes is not a token. -/
theorem verifyToken_grpc (base64_roundTrip : ∀ bytes,
      codec.base64Decode (codec.base64Encode bytes) = some bytes)
    (long : ∀ bytes token, codec.fromSlice bytes = some token → 32 < bytes.length) {bytes : Bytes}
    (length : bytes.length = 32) (tokenQuery : Bool) (now : Instant) (db : DatasetTables) :
    verifyToken scheme codec signingKey tokenQuery now db (codec.base64Encode bytes) =
      .error .invalidToken := by
  have rejected : SignedToken.decode codec (codec.base64Encode bytes) = none := by
    rw [SignedToken.decode, base64_roundTrip, Option.bind_some, Option.eq_none_iff_forall_ne_some]
    intro token read
    have := long bytes token read
    omega
  rw [verifyToken, rejected]

theorem grpcIssued_applyTokenOp (none_granted : GrantsNone state op) :
    (applyTokenOp blake3 scheme codec signingKey state op).grpcIssued = state.grpcIssued := by
  cases op with
  | wait elapsed => rfl
  | createToken env request =>
      rw [applyTokenOp]
      split <;> rfl
  | verifyToken tokenQuery text => rfl
  | revokeToken tokenQuery update tokenId userId => rfl
  | createAccessToken env userId request =>
      rw [applyTokenOp]
      split
      · rfl
      · rename_i db response outcome
        obtain ⟨expiresAt, issued⟩ := createAccessToken_ok outcome
        exact absurd issued.grants (none_granted env userId request rfl)
  | revokeAccessToken parseUuid update userId tokenId => rfl

/-- As soon as a token is issued over gRPC, it is one that is not accepted. -/
theorem grantsNone_of_grpcAccepted (base64_roundTrip : ∀ bytes,
      codec.base64Decode (codec.base64Encode bytes) = some bytes)
    (long : ∀ bytes token, codec.fromSlice bytes = some token → 32 < bytes.length)
    (unique : OneRow state.db)
    (accepted : GrpcAccepted scheme codec signingKey
      (applyTokenOp blake3 scheme codec signingKey state op)) : GrantsNone state op := by
  rintro env userId request rfl grants
  obtain ⟨after, response, outcome⟩ := grants.createAccessToken_ok blake3 codec
  obtain ⟨expiresAt, issued⟩ := createAccessToken_ok outcome
  have reached : applyTokenOp blake3 scheme codec signingKey state
      (.createAccessToken env userId request) =
        { state with
          db := after
          grpcIssued := state.grpcIssued ++
            [{ response
               expiresAt := state.now + request.ttl * MICROS }] } := by
    rw [applyTokenOp, outcome]
  have unique_after : OneRow (applyTokenOp blake3 scheme codec signingKey state
      (.createAccessToken env userId request)).db := unique.applyTokenOp _
  rw [reached] at accepted unique_after
  have not_revoked : ¬ Revoked after response.tokenId := by
    obtain ⟨datasetId, nodeId, -, after_eq⟩ := issued.after_eq
    have row_mem : (grpcRecord blake3 env datasetId nodeId userId request response
        expiresAt).row ∈ after.dataAccessTokens := by
      rw [after_eq]
      exact List.mem_append_right _ (List.mem_singleton_self _)
    rw [issued.tokenId_eq]
    exact unique_after.not_revoked row_mem rfl
  have positive : 0 < request.ttl * MICROS := Int.mul_pos request.ttl_pos (by decide)
  obtain ⟨data, verified⟩ := accepted _ (List.mem_append_right _ (List.mem_singleton_self _))
    (Int.lt_add_of_pos_right _ positive) not_revoked
  rw [issued.token_eq, verifyToken_grpc base64_roundTrip long env.length_tokenBytes] at verified
  cases verified

/-! ## Revocation -/

/-- A revocation revokes no token but its own. -/
theorem OneRow.id_of_revoked {db : DatasetTables} (unique : OneRow db) {row : DataAccessToken}
    (row_mem : row ∈ db.dataAccessTokens) (live : row.revokedAt = none) {now : Instant} {id : Uuid}
    (revoked : Revoked (db.revokeDataAccessToken now id) row.id) : row.id = id := by
  obtain ⟨reached, reached_mem, same, marked⟩ := revoked
  obtain ⟨other, other_mem, rfl⟩ := List.mem_map.mp reached_mem
  by_cases target : other.id = id
  · simp only [target, beq_self_eq_true, if_true] at same
    exact same.symm
  · simp only [beq_iff_eq, target, if_false] at same marked
    exact absurd ⟨other, other_mem, same, marked⟩ (unique.not_revoked row_mem live)

/-- Only a request for a revocation revokes. -/
theorem TokensStep.exists_revoker {db after : DatasetTables} {now : Instant}
    (step : TokensStep op db after now) (unique : OneRow db) {row : DataAccessToken}
    (row_mem : row ∈ db.dataAccessTokens) (live : row.revokedAt = none)
    (revoked : Revoked after row.id) : ∃ userId, op.revoker = some userId := by
  have not_revoked := unique.not_revoked row_mem live
  cases step with
  | same rows_eq =>
      rw [Revoked, rows_eq] at revoked
      exact absurd revoked not_revoked
  | added new fresh new_live rows_eq =>
      rw [Revoked, rows_eq] at revoked
      obtain ⟨other, other_mem, same, marked⟩ := revoked
      rcases List.mem_append.mp other_mem with earlier | new_mem
      · exact absurd ⟨other, earlier, same, marked⟩ not_revoked
      · rw [List.mem_singleton.mp new_mem, new_live] at marked
        cases marked
  | revoked tokenId userId asked rows_eq => exact ⟨userId, asked⟩

/-- The check of the service leaves the requests over gRPC as the ones that can revoke a token of
another user. -/
theorem revokesOwn_iff (unique : OneRow state.db) :
    RevokesOwn blake3 scheme codec signingKey state op ↔ AsksForOwn state op := by
  constructor
  · rintro own parseUuid userId text _ rfl parsed row row_mem rfl live
    have revoked : Revoked (applyTokenOp blake3 scheme codec signingKey state
        (.revokeAccessToken parseUuid true userId text)).db row.id := by
      rw [applyTokenOp, revokeAccessToken, parsed]
      exact ⟨{ row with revokedAt := some state.now },
        List.mem_map.mpr ⟨row, row_mem, by simp⟩, rfl, rfl⟩
    exact (Option.some.inj (own row row_mem live revoked)).symm
  · intro asks row row_mem live revoked
    obtain ⟨userId, asked⟩ := (tokensStep state op).exists_revoker unique row_mem live revoked
    cases op with
    | wait _ | createToken _ _ | verifyToken _ _ | createAccessToken _ _ _ => cases asked
    | revokeToken tokenQuery update tokenId requester =>
        rw [applyTokenOp] at revoked
        rcases revokeToken_cases tokenQuery update state.now state.db tokenId requester with
          same | ⟨⟨other, other_mem, other_id, own⟩, reached⟩
        · rw [same] at revoked
          exact absurd revoked (unique.not_revoked row_mem live)
        · rw [reached] at revoked
          have row_id := unique.id_of_revoked row_mem live revoked
          have same_row : other = row :=
            unique.eq_of_id other_mem row_mem (other_id.trans row_id.symm)
          rw [TokenOp.revoker, ← own, same_row]
    | revokeAccessToken parseUuid update requester text =>
        rw [applyTokenOp] at revoked
        rcases revokeAccessToken_cases parseUuid update state.now state.db requester text with
          same | ⟨id, parsed, rfl, reached⟩
        · rw [same] at revoked
          exact absurd revoked (unique.not_revoked row_mem live)
        · rw [reached] at revoked
          have row_id := unique.id_of_revoked row_mem live revoked
          rw [TokenOp.revoker, asks _ _ _ _ rfl parsed row row_mem row_id live]

end Steps

/-- In a run, every token over gRPC verifies until its end or its revocation, and every revocation
is for a token of the user who asks for it, exactly when no token is issued over gRPC and no
revocation over gRPC is for a live token of another user. -/
theorem paths_agree_iff (base64_roundTrip : ∀ bytes,
      codec.base64Decode (codec.base64Encode bytes) = some bytes)
    (long : ∀ bytes token, codec.fromSlice bytes = some token → 32 < bytes.length)
    (db : DatasetTables) (unique : OneRow db) (now : Instant) (ops : List TokenOp) :
    (EveryState (applyTokenOp blake3 scheme codec signingKey)
        (GrpcAccepted scheme codec signingKey) (.start db now) ops ∧
      EveryStep (applyTokenOp blake3 scheme codec signingKey)
        (RevokesOwn blake3 scheme codec signingKey) (.start db now) ops) ↔
      EveryStep (applyTokenOp blake3 scheme codec signingKey)
        (fun state op => GrantsNone state op ∧ AsksForOwn state op) (.start db now) ops := by
  have accepted_iff : EveryState (applyTokenOp blake3 scheme codec signingKey)
      (GrpcAccepted scheme codec signingKey) (.start db now) ops ↔
        EveryStep (applyTokenOp blake3 scheme codec signingKey) GrantsNone (.start db now) ops := by
    refine everyState_iff_of_restores
      (fun state => OneRow state.db ∧ state.grpcIssued = []) ?_ ?_ ?_ ⟨unique, rfl⟩ ops
    · rintro state ⟨-, none_issued⟩ token token_mem
      rw [none_issued] at token_mem
      cases token_mem
    · rintro state op ⟨unique, none_issued⟩ none_granted
      exact ⟨unique.applyTokenOp op, (grpcIssued_applyTokenOp none_granted).trans none_issued⟩
    · rintro state op ⟨unique, -⟩ accepted
      exact grantsNone_of_grpcAccepted base64_roundTrip long unique accepted
  have owned_iff : EveryStep (applyTokenOp blake3 scheme codec signingKey)
      (RevokesOwn blake3 scheme codec signingKey) (.start db now) ops ↔
        EveryStep (applyTokenOp blake3 scheme codec signingKey) AsksForOwn (.start db now) ops := by
    have keeps : ∀ (state : TokenState) (op : TokenOp), OneRow state.db →
        OneRow (applyTokenOp blake3 scheme codec signingKey state op).db :=
      fun state op unique => unique.applyTokenOp op
    exact everyStep_congr keeps (fun state op unique => revokesOwn_iff unique) unique ops
  rw [accepted_iff, owned_iff, everyStep_and_iff]

end Runs

namespace OneToken

/-- The token as it is written. -/
def tokenText : String := "00000000-0000-0000-0000-000000000005"

/-- User 8 gets a token of the service and revokes it over gRPC. -/
theorem own_token_agrees :
    EveryState (applyTokenOp Reference.hash OneDataset.scheme codec signingKey)
        (GrpcAccepted OneDataset.scheme codec signingKey) (.start shared 0)
        [.createToken env request, .revokeAccessToken parseUuid true 8 tokenText] ∧
      EveryStep (applyTokenOp Reference.hash OneDataset.scheme codec signingKey)
        (RevokesOwn Reference.hash OneDataset.scheme codec signingKey) (.start shared 0)
        [.createToken env request, .revokeAccessToken parseUuid true 8 tokenText] := by
  have unique : OneRow shared := List.nodup_nil
  refine (paths_agree_iff Reference.hash OneDataset.scheme codec signingKey Base64.decode_encode
    length_of_fromSlice shared unique 0 _).mpr ⟨⟨nofun, nofun⟩, ⟨nofun, ?_⟩, trivial⟩
  rw [applyTokenOp_createToken]
  intro parse userId text tokenId same parsed row row_mem row_id live
  cases same
  rw [List.mem_singleton.mp row_mem]
  rfl

/-- The token over gRPC does not verify, and user 9 revokes the token of user 8. -/
theorem paths_disagree :
    ¬ (EveryState (applyTokenOp Reference.hash OneDataset.scheme codec signingKey)
          (GrpcAccepted OneDataset.scheme codec signingKey) (.start shared 0)
          [.createAccessToken grpcEnv 8 grpcRequest] ∧
        EveryStep (applyTokenOp Reference.hash OneDataset.scheme codec signingKey)
          (RevokesOwn Reference.hash OneDataset.scheme codec signingKey) (.start shared 0)
          [.createAccessToken grpcEnv 8 grpcRequest]) ∧
    ¬ (EveryState (applyTokenOp Reference.hash OneDataset.scheme codec signingKey)
          (GrpcAccepted OneDataset.scheme codec signingKey) (.start shared 0)
          [.createToken env request, .revokeAccessToken parseUuid true 9 tokenText] ∧
        EveryStep (applyTokenOp Reference.hash OneDataset.scheme codec signingKey)
          (RevokesOwn Reference.hash OneDataset.scheme codec signingKey) (.start shared 0)
          [.createToken env request, .revokeAccessToken parseUuid true 9 tokenText]) := by
  have unique : OneRow shared := List.nodup_nil
  constructor
  · rintro ⟨⟨-, accepted⟩, -⟩
    have none_granted : GrantsNone (.start shared 0) (.createAccessToken grpcEnv 8 grpcRequest) :=
      grantsNone_of_grpcAccepted Base64.decode_encode length_of_fromSlice unique accepted
    exact none_granted grpcEnv 8 grpcRequest rfl (grants shared rfl rfl rfl)
  · rintro ⟨-, -, own, -⟩
    rw [applyTokenOp_createToken] at own
    have asker := own (serviceRecord Reference.hash env request response).row
      (List.mem_singleton_self _) rfl
      ⟨{ (serviceRecord Reference.hash env request response).row with revokedAt := some 0 },
        List.mem_singleton_self _, rfl, rfl⟩
    exact absurd (Option.some.inj asker) (by decide)

end OneToken

end CyxCloud.Gateway
