import CyxCloud.Gateway.IssuedTokens
import CyxCloud.Library.Runs

/-!
# Runs of token operations

One service and the gRPC methods over one database, while time passes and anyone presents strings.
The state keeps what was signed and handed out, so that a verified token can be traced back to its
issue.
-/

namespace CyxCloud.Gateway

open CyxCloud.Core hiding Chunk
open Library Metadata

/-! ## Operations -/

/-- A token of the service as it was handed out, with its data. -/
structure IssuedToken where
  response : TokenResponse
  data : TokenData

/-- A token over gRPC as it was handed out, with the end of its life. -/
structure GrpcToken where
  response : AccessTokenResponse
  expiresAt : Instant

/-- The tables, the clock, and the history of the tokens. -/
structure TokenState where
  db : DatasetTables
  now : Instant
  /-- The data that the key of the service has signed. -/
  signed : List TokenData
  issued : List IssuedToken
  grpcIssued : List GrpcToken

/-- A service that has issued nothing yet. -/
def TokenState.start (db : DatasetTables) (now : Instant) : TokenState :=
  { db
    now
    signed := []
    issued := []
    grpcIssued := [] }

/-- Time passes, or a request arrives. -/
inductive TokenOp where
  | wait (elapsed : Nat)
  | createToken (env : CreateTokenEnv) (request : CreateTokenRequest)
  | verifyToken (tokenQuery : Bool) (text : String)
  | revokeToken (tokenQuery update : Bool) (tokenId userId : Uuid)
  | createAccessToken (env : CreateAccessTokenEnv) (userId : Uuid)
      (request : CreateAccessTokenRequest)
  | revokeAccessToken (parseUuid : String → Option Uuid) (update : Bool) (userId : Uuid)
      (tokenId : String)

/-- The user who asks for a revocation. -/
def TokenOp.revoker : TokenOp → Option Uuid
  | .revokeToken _ _ _ userId | .revokeAccessToken _ _ userId _ => some userId
  | .wait _ | .createToken _ _ | .verifyToken _ _ | .createAccessToken _ _ _ => none

section Runs

variable {σ ν : Type} (blake3 : Bytes → Bytes) (scheme : SignatureScheme σ ν) (codec : TokenCodec)
  (signingKey : σ)

/-- The data that a request may have signed: a request that is refused counts as well. -/
def signedBy (env : CreateTokenEnv) (request : CreateTokenRequest) (now : Instant) :
    List TokenData :=
  match addSeconds now request.ttl with
  | none => []
  | some expiresAt => [tokenData env request now expiresAt]

/-- The state after an operation. -/
def applyTokenOp (state : TokenState) : TokenOp → TokenState
  | .wait elapsed => { state with now := state.now + elapsed }
  | .createToken env request =>
      let signed := state.signed ++ signedBy env request state.now
      match createToken blake3 scheme codec signingKey env state.now state.db request with
      | (db, .error _) => { state with db, signed }
      | (db, .ok response) =>
          { state with
            db
            signed
            issued := state.issued ++
              [{ response
                 data := tokenData env request state.now response.expiresAt }] }
  | .verifyToken _ _ => state
  | .revokeToken tokenQuery update tokenId userId =>
      { state with db := (revokeToken tokenQuery update state.now state.db tokenId userId).1 }
  | .createAccessToken env userId request =>
      match createAccessToken blake3 codec env state.now state.db userId request with
      | (db, .error _) => { state with db }
      | (db, .ok response) =>
          { state with
            db
            grpcIssued := state.grpcIssued ++
              [{ response
                 expiresAt := state.now + request.ttl * MICROS }] }
  | .revokeAccessToken parseUuid update userId tokenId =>
      { state with
        db := (revokeAccessToken parseUuid update state.now state.db userId tokenId).1 }

/-- A token of this identifier has been revoked. -/
def Revoked (db : DatasetTables) (tokenId : Uuid) : Prop :=
  ∃ row ∈ db.dataAccessTokens, row.id = tokenId ∧ row.revokedAt.isSome = true

/-- There is one row for each token. -/
def OneRow (db : DatasetTables) : Prop := (db.dataAccessTokens.map DataAccessToken.id).Nodup

/-! ## What an operation does to the table of tokens -/

section Rows

variable {blake3 scheme codec signingKey} {db : DatasetTables}

theorem OneRow.eq_of_id (unique : OneRow db) {row other : DataAccessToken}
    (row_mem : row ∈ db.dataAccessTokens) (other_mem : other ∈ db.dataAccessTokens)
    (same : row.id = other.id) : row = other :=
  List.inj_on_of_nodup_map unique row_mem other_mem same

/-- An operation leaves the tokens, adds one that is new and not revoked, or revokes one. -/
inductive TokensStep (op : TokenOp) (db after : DatasetTables) (now : Instant) : Prop
  | same (rows_eq : after.dataAccessTokens = db.dataAccessTokens)
  | added (row : DataAccessToken) (fresh : ∀ other ∈ db.dataAccessTokens, other.id ≠ row.id)
      (live : row.revokedAt = none)
      (rows_eq : after.dataAccessTokens = db.dataAccessTokens ++ [row])
  | revoked (tokenId userId : Uuid) (asked : op.revoker = some userId)
      (rows_eq : after.dataAccessTokens =
        (db.revokeDataAccessToken now tokenId).dataAccessTokens)

theorem ne_of_not_hasDataAccessToken {id : Uuid} (free : db.hasDataAccessToken id = false) :
    ∀ other ∈ db.dataAccessTokens, other.id ≠ id := by
  intro other member same
  have taken : db.hasDataAccessToken id = true :=
    List.any_eq_true.mpr ⟨other, member, beq_iff_eq.mpr same⟩
  rw [free] at taken
  cases taken

theorem tokensStep (state : TokenState) (op : TokenOp) :
    TokensStep op state.db (applyTokenOp blake3 scheme codec signingKey state op).db state.now := by
  cases op with
  | wait elapsed => exact .same rfl
  | verifyToken tokenQuery text => exact .same rfl
  | createToken env request =>
      rw [applyTokenOp]
      split
      · rename_i db cause outcome
        exact .same (congrArg DatasetTables.dataAccessTokens (eq_of_createToken_error outcome))
      · rename_i db response outcome
        have issued := createToken_ok outcome
        refine .added _ ?_ rfl (congrArg DatasetTables.dataAccessTokens issued.after_eq)
        exact ne_of_not_hasDataAccessToken issued.fresh
  | revokeToken tokenQuery update tokenId userId =>
      rcases revokeToken_cases tokenQuery update state.now state.db tokenId userId with
        same | ⟨-, revoked⟩
      · exact .same (congrArg DatasetTables.dataAccessTokens same)
      · exact .revoked tokenId userId rfl (congrArg DatasetTables.dataAccessTokens revoked)
  | createAccessToken env userId request =>
      rw [applyTokenOp]
      split
      · rename_i db status outcome
        have same := eq_of_createAccessToken_error outcome
        exact .same (congrArg DatasetTables.dataAccessTokens same)
      · rename_i db response outcome
        obtain ⟨expiresAt, issued⟩ := createAccessToken_ok outcome
        obtain ⟨datasetId, nodeId, -, after_eq⟩ := issued.after_eq
        refine .added _ ?_ rfl (congrArg DatasetTables.dataAccessTokens after_eq)
        exact ne_of_not_hasDataAccessToken issued.fresh
  | revokeAccessToken parseUuid update userId tokenId =>
      rcases revokeAccessToken_cases parseUuid update state.now state.db userId tokenId with
        same | ⟨id, -, -, revoked⟩
      · exact .same (congrArg DatasetTables.dataAccessTokens same)
      · exact .revoked id userId rfl (congrArg DatasetTables.dataAccessTokens revoked)

/-- The tokens of a table with the ends of their lives. -/
def tokenLives (db : DatasetTables) : List (Uuid × Instant) :=
  db.dataAccessTokens.map fun row => (row.id, row.expiresAt)

theorem mem_tokenLives {life : Uuid × Instant} :
    life ∈ tokenLives db ↔ ∃ row ∈ db.dataAccessTokens, (row.id, row.expiresAt) = life :=
  List.mem_map

theorem tokenLives_revokeDataAccessToken (db : DatasetTables) (now : Instant) (id : Uuid) :
    tokenLives (db.revokeDataAccessToken now id) = tokenLives db := by
  rw [tokenLives, tokenLives, DatasetTables.revokeDataAccessToken, List.map_map]
  refine List.map_congr_left fun row _ => ?_
  rw [Function.comp_apply]
  split <;> rfl

theorem map_id_eq (db : DatasetTables) :
    db.dataAccessTokens.map DataAccessToken.id = (tokenLives db).map Prod.fst := by
  rw [tokenLives, List.map_map]
  rfl

/-- An operation leaves the lives of the tokens, or adds a life of a new identifier. -/
theorem TokensStep.lives {op : TokenOp} {after : DatasetTables} {now : Instant}
    (step : TokensStep op db after now) :
    tokenLives after = tokenLives db ∨
      ∃ life, (∀ other ∈ tokenLives db, other.1 ≠ life.1) ∧
        tokenLives after = tokenLives db ++ [life] := by
  cases step with
  | same rows_eq => exact .inl (by rw [tokenLives, rows_eq, tokenLives])
  | added row fresh live rows_eq =>
      refine .inr ⟨(row.id, row.expiresAt), ?_, ?_⟩
      · intro other member
        obtain ⟨earlier, earlier_mem, rfl⟩ := mem_tokenLives.mp member
        exact fresh earlier earlier_mem
      · rw [tokenLives, rows_eq, List.map_append]
        rfl
  | revoked tokenId userId asked rows_eq =>
      refine .inl ?_
      rw [← tokenLives_revokeDataAccessToken db now tokenId, tokenLives, rows_eq, tokenLives]

/-- No operation adds a second row for a token. -/
theorem OneRow.applyTokenOp {state : TokenState} (unique : OneRow state.db) (op : TokenOp) :
    OneRow (applyTokenOp blake3 scheme codec signingKey state op).db := by
  rw [OneRow, map_id_eq] at unique ⊢
  rcases (tokensStep state op).lives with same | ⟨life, fresh, added⟩
  · rwa [same]
  · rw [added, List.map_append, List.nodup_append]
    refine ⟨unique, List.nodup_singleton _, ?_⟩
    simpa using fresh

end Rows

end Runs

namespace OneToken

/-- User 8 has the token. -/
def handedOut : TokenState :=
  { db := recorded
    now := 0
    signed := [data]
    issued := [{ response, data }]
    grpcIssued := [] }

theorem applyTokenOp_createToken :
    applyTokenOp Reference.hash OneDataset.scheme codec signingKey (.start shared 0)
      (.createToken env request) = handedOut := by
  have created : createToken Reference.hash OneDataset.scheme codec signingKey env
      (TokenState.start shared 0).now (TokenState.start shared 0).db request =
        (recorded, .ok response) := createToken_eq
  have signed : signedBy env request 0 = [data] := by
    rw [signedBy, addSeconds_eq_expiresAt]
    rfl
  rw [applyTokenOp, created]
  exact congrArg (fun signed => { handedOut with signed }) signed

end OneToken

end CyxCloud.Gateway
