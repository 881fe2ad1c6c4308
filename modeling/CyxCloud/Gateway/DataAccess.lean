import CyxCloud.Gateway.DatasetTables
import CyxCloud.Library.Signatures

/-!
# Data access tokens

`DataAccessTokenService` of `cyxcloud-gateway/src/data_access.rs`, and `create_access_token` and
`revoke_access_token` of `datastream.rs`.  The service issues signed tokens, the gRPC methods random
ones; both record them in one table.  JSON, base64, Ed25519 and the random generator are parameters,
and statements end as the environments say.
-/

namespace CyxCloud.Gateway

open CyxCloud.Core hiding Chunk
open Library Metadata

/-! ## Time -/

/-- Microseconds of a second of the clock. -/
def MICROS : Int := 1000000

/-- The whole seconds of a point of time. -/
def timestamp (instant : Instant) : Int := instant / MICROS

/-- A point of time some seconds later; `chrono` panics outside its range. -/
def addSeconds (now : Instant) (seconds : Int) : Option Instant :=
  let reached := now + seconds * MICROS
  if |seconds| ≤ 9223372036854775 ∧ -8334601228800 * MICROS ≤ reached ∧
      reached < 8210266876800 * MICROS then
    some reached
  else
    none

theorem addSeconds_eq {now reached : Instant} {seconds : Int}
    (added : addSeconds now seconds = some reached) : reached = now + seconds * MICROS := by
  unfold addSeconds at added
  simp only at added
  split at added
  · exact (Option.some.inj added).symm
  · cases added

theorem timestamp_mono {first second : Instant} (le : first ≤ second) :
    timestamp first ≤ timestamp second :=
  Int.ediv_le_ediv (by decide) le

/-- Default lifetime of a token in seconds. -/
def DEFAULT_TOKEN_TTL_SECS : Int := 24 * 60 * 60

/-- Largest lifetime of a token in seconds. -/
def MAX_TOKEN_TTL_SECS : Int := 7 * 24 * 60 * 60

/-! ## Tokens -/

/-- The data that is signed. -/
structure TokenData where
  tokenId : Uuid
  datasetId : Uuid
  nodeId : Option Uuid
  userId : Uuid
  scopes : List String
  /-- Seconds. -/
  expiresAt : Int
  /-- Seconds. -/
  createdAt : Int
  nonce : Bytes
  deriving DecidableEq, Repr

/-- A token with its signature. -/
structure SignedToken where
  data : TokenData
  signature : Bytes
  deriving DecidableEq, Repr

/-- JSON and base64. -/
structure TokenCodec where
  dataToVec : TokenData → Bytes
  tokenToVec : SignedToken → Bytes
  fromSlice : Bytes → Option SignedToken
  base64Encode : Bytes → String
  base64Decode : String → Option Bytes

/-- Writing loses nothing, and what was written is read back. -/
structure TokenCodec.Lawful (codec : TokenCodec) : Prop where
  dataToVec_injective : Function.Injective codec.dataToVec
  fromSlice_tokenToVec : ∀ token, codec.fromSlice (codec.tokenToVec token) = some token
  base64_roundTrip : ∀ bytes, codec.base64Decode (codec.base64Encode bytes) = some bytes

/-- The text of a token. -/
def SignedToken.encode (codec : TokenCodec) (token : SignedToken) : String :=
  codec.base64Encode (codec.tokenToVec token)

/-- The token of a text. -/
def SignedToken.decode (codec : TokenCodec) (text : String) : Option SignedToken :=
  (codec.base64Decode text).bind codec.fromSlice

theorem SignedToken.decode_encode {codec : TokenCodec} (lawful : codec.Lawful)
    (token : SignedToken) : decode codec (token.encode codec) = some token := by
  rw [decode, encode, lawful.base64_roundTrip, Option.bind_some, lawful.fromSlice_tokenToVec]

/-! ## The service -/

/-- Failures of the service; `outOfRange` stands for the panic of `chrono`. -/
inductive DataAccessError where
  | datasetNotFound (datasetId : Uuid)
  | permissionDenied
  | tokenNotFound
  | tokenExpired
  | tokenRevoked
  | invalidToken
  | invalidSignature
  | database (cause : DbError)
  | outOfRange
  deriving DecidableEq, Repr

/-- A request for a token. -/
structure CreateTokenRequest where
  datasetId : Uuid
  nodeId : Option Uuid
  userId : Uuid
  scopes : List String
  ttlSeconds : Option Int
  deriving DecidableEq, Repr

/-- The answer to a request for a token. -/
structure TokenResponse where
  token : String
  tokenId : Uuid
  expiresAt : Instant
  scopes : List String
  deriving DecidableEq, Repr

/-- What the issue of a token depends on besides the tables. -/
structure CreateTokenEnv where
  /-- The database answers the query for the dataset. -/
  datasetQuery : Bool
  /-- The database answers the query for a share. -/
  accessQuery : Bool
  /-- The generated identifier. -/
  tokenId : Uuid
  /-- The generated nonce. -/
  nonce : Bytes
  /-- The database answers the insertion. -/
  insert : Bool

section Service

variable {σ ν : Type} (blake3 : Bytes → Bytes) (scheme : SignatureScheme σ ν) (codec : TokenCodec)
  (signingKey : σ)

/-- The lifetime of a requested token in seconds. -/
def CreateTokenRequest.ttl (request : CreateTokenRequest) : Int :=
  min (request.ttlSeconds.getD DEFAULT_TOKEN_TTL_SECS) MAX_TOKEN_TTL_SECS

/-- The data of a requested token. -/
def tokenData (env : CreateTokenEnv) (request : CreateTokenRequest) (now expiresAt : Instant) :
    TokenData :=
  { tokenId := env.tokenId
    datasetId := request.datasetId
    nodeId := request.nodeId
    userId := request.userId
    scopes := request.scopes
    expiresAt := timestamp expiresAt
    createdAt := timestamp now
    nonce := env.nonce }

/-- Sign the data of a token. -/
def signToken (data : TokenData) : SignedToken :=
  { data
    signature := scheme.sign signingKey (codec.dataToVec data) }

/-- The user owns the dataset or has a share of it that has not expired. -/
def hasAccess (db : DatasetTables) (now : Instant) (dataset : DatasetRecord) (userId : Uuid) :
    Bool :=
  dataset.ownerId == userId || (db.checkDatasetAccess now dataset.id userId).isSome

/-- Issue a token. -/
def createToken (env : CreateTokenEnv) (now : Instant) (db : DatasetTables)
    (request : CreateTokenRequest) : DatasetTables × Except DataAccessError TokenResponse :=
  if env.datasetQuery = false then
    (db, .error (.database .unavailable))
  else
    match db.getDataset request.datasetId with
    | none => (db, .error (.datasetNotFound request.datasetId))
    | some dataset =>
        if dataset.ownerId ≠ request.userId ∧ env.accessQuery = false then
          (db, .error (.database .unavailable))
        else if hasAccess db now dataset request.userId = false then
          (db, .error .permissionDenied)
        else
          match addSeconds now request.ttl with
          | none => (db, .error .outOfRange)
          | some expiresAt =>
              let token :=
                (signToken scheme codec signingKey (tokenData env request now expiresAt)).encode
                  codec
              if env.insert = false then
                (db, .error (.database .unavailable))
              else
                match db.createDataAccessToken
                    { id := env.tokenId
                      datasetId := request.datasetId
                      nodeId := request.nodeId
                      userId := request.userId
                      tokenHash := blake3 token.toUTF8.data.toList
                      scopes := request.scopes
                      expiresAt } with
                | (_, .error cause) => (db, .error (.database cause))
                | (stored, .ok _) =>
                    (stored, .ok
                      { token
                        tokenId := env.tokenId
                        expiresAt
                        scopes := request.scopes })

/-- Verify a token. -/
def verifyToken (tokenQuery : Bool) (now : Instant) (db : DatasetTables) (text : String) :
    Except DataAccessError TokenData :=
  match SignedToken.decode codec text with
  | none => .error .invalidToken
  | some token =>
      if scheme.accepts (scheme.verifyingKey signingKey) (codec.dataToVec token.data)
          token.signature = false then
        .error .invalidSignature
      else if token.data.expiresAt < timestamp now then
        .error .tokenExpired
      else if tokenQuery = false then
        .error (.database .unavailable)
      else
        match db.getDataAccessToken now token.data.tokenId with
        | none => .error .tokenNotFound
        | some row => if row.revokedAt.isSome then .error .tokenRevoked else .ok token.data

/-- Revoke a token for the user it was issued to. -/
def revokeToken (tokenQuery update : Bool) (now : Instant) (db : DatasetTables)
    (tokenId userId : Uuid) : DatasetTables × Except DataAccessError Unit :=
  if tokenQuery = false then
    (db, .error (.database .unavailable))
  else
    match db.getDataAccessToken now tokenId with
    | none => (db, .error .tokenNotFound)
    | some row =>
        if row.userId ≠ userId then
          (db, .error .permissionDenied)
        else if update = false then
          (db, .error (.database .unavailable))
        else
          (db.revokeDataAccessToken now tokenId, .ok ())

end Service

/-! ## Tokens over gRPC -/

/-- Failures of the gRPC methods; `outOfRange` stands for the panic of `chrono`. -/
inductive AccessTokenStatus where
  | invalidDatasetId
  | notFound (message : String)
  | permissionDenied (message : String)
  | invalidNodeId
  | invalidTokenId
  | internal (message : String) (cause : DbError)
  | outOfRange
  deriving DecidableEq, Repr

/-- A request for a token over gRPC. -/
structure CreateAccessTokenRequest where
  datasetId : String
  /-- Empty for no node. -/
  nodeId : String
  /-- Empty for the default scopes. -/
  scopes : List String
  /-- The default lifetime unless positive. -/
  ttlSeconds : Int
  deriving DecidableEq, Repr

/-- The answer to a request for a token over gRPC. -/
structure AccessTokenResponse where
  token : String
  tokenId : Uuid
  /-- Seconds. -/
  expiresAt : Int
  scopes : List String
  deriving DecidableEq, Repr

/-- What the issue of a token over gRPC depends on besides the tables. -/
structure CreateAccessTokenEnv where
  /-- The identifier that a text stands for. -/
  parseUuid : String → Option Uuid
  /-- The database answers the query for the dataset. -/
  datasetQuery : Bool
  /-- The database answers the query for a share. -/
  accessQuery : Bool
  /-- The generated identifier. -/
  tokenId : Uuid
  /-- The generated token. -/
  tokenBytes : Bytes
  length_tokenBytes : tokenBytes.length = 32
  /-- The database answers the insertion. -/
  insert : Bool

section Grpc

variable (blake3 : Bytes → Bytes) (codec : TokenCodec)

/-- The lifetime of a token over gRPC in seconds. -/
def CreateAccessTokenRequest.ttl (request : CreateAccessTokenRequest) : Int :=
  if 0 < request.ttlSeconds then request.ttlSeconds else 24 * 60 * 60

/-- The scopes of a token over gRPC. -/
def CreateAccessTokenRequest.granted (request : CreateAccessTokenRequest) : List String :=
  if request.scopes.isEmpty then ["read", "stream"] else request.scopes

/-- The node of a request, if it names one. -/
def CreateAccessTokenRequest.node (request : CreateAccessTokenRequest)
    (env : CreateAccessTokenEnv) : Except AccessTokenStatus (Option Uuid) :=
  if request.nodeId.isEmpty then
    .ok none
  else
    match env.parseUuid request.nodeId with
    | none => .error .invalidNodeId
    | some nodeId => .ok (some nodeId)

/-- Issue a token over gRPC. -/
def createAccessToken (env : CreateAccessTokenEnv) (now : Instant) (db : DatasetTables)
    (userId : Uuid) (request : CreateAccessTokenRequest) :
    DatasetTables × Except AccessTokenStatus AccessTokenResponse :=
  match env.parseUuid request.datasetId with
  | none => (db, .error .invalidDatasetId)
  | some datasetId =>
      if env.datasetQuery = false then
        (db, .error (.internal "Database error" .unavailable))
      else
        match db.getDataset datasetId with
        | none => (db, .error (.notFound "Dataset not found"))
        | some dataset =>
            if dataset.ownerId ≠ userId ∧ env.accessQuery = false then
              (db, .error (.internal "Database error" .unavailable))
            else if hasAccess db now dataset userId = false then
              (db, .error (.permissionDenied "No access to dataset"))
            else
              match request.node env with
              | .error status => (db, .error status)
              | .ok nodeId =>
                  let token := codec.base64Encode env.tokenBytes
                  match addSeconds now request.ttl with
                  | none => (db, .error .outOfRange)
                  | some expiresAt =>
                      if env.insert = false then
                        (db, .error (.internal "Failed to create token" .unavailable))
                      else
                        match db.createDataAccessToken
                            { id := env.tokenId
                              datasetId
                              nodeId
                              userId
                              tokenHash := blake3 token.toUTF8.data.toList
                              scopes := request.granted
                              expiresAt } with
                        | (_, .error cause) =>
                            (db, .error (.internal "Failed to create token" cause))
                        | (stored, .ok _) =>
                            (stored, .ok
                              { token
                                tokenId := env.tokenId
                                expiresAt := timestamp expiresAt
                                scopes := request.granted })

/-- Revoke a token over gRPC.  The user that asks for it must be known; it is not read. -/
def revokeAccessToken (parseUuid : String → Option Uuid) (update : Bool) (now : Instant)
    (db : DatasetTables) (_userId : Uuid) (tokenId : String) :
    DatasetTables × Except AccessTokenStatus Unit :=
  match parseUuid tokenId with
  | none => (db, .error .invalidTokenId)
  | some tokenId =>
      if update = false then
        (db, .error (.internal "Failed to revoke token" .unavailable))
      else
        (db.revokeDataAccessToken now tokenId, .ok ())

end Grpc

end CyxCloud.Gateway
