import CyxCloud.Gateway.Auth

/-!
# Endpoints for tokens

The handlers of `cyxcloud-gateway/src/auth_api.rs`.  What the metadata service answers, the UUIDs
that are drawn and the tables of Unicode enter as parameters.
-/

namespace CyxCloud.Gateway

open CyxCloud.Core hiding Chunk

/-- Body of a rejection. -/
structure ApiError where
  error : String
  code : String
  deriving DecidableEq, Repr

/-- A rejected request: HTTP status and body. -/
structure Rejection where
  status : Nat
  body : ApiError
  deriving DecidableEq, Repr

/-- The headers that the handlers read, where they are text. -/
structure AuthHeaders where
  xForwardedFor : Option String
  authorization : Option String
  deriving DecidableEq, Repr

/-- What the handlers ask the metadata service: the counter of a rate limit, and the user of a
wallet, created on the way if there is none. -/
structure AuthMetadata where
  checkRateLimit : String → Nat → Nat → Except String Bool
  getOrCreateUser : String → Except String String

/-! ## Rate limits -/

/-- A rate limit. -/
structure RateLimit where
  /-- Prefix of the key. -/
  key : String
  maxRequests : Nat
  windowSecs : Nat
  deriving DecidableEq, Repr

def RATE_LIMIT_CHALLENGE : RateLimit where
  key := "auth:challenge"
  maxRequests := 10
  windowSecs := 60

def RATE_LIMIT_LOGIN : RateLimit where
  key := "auth:login"
  maxRequests := 10
  windowSecs := 60

def RATE_LIMIT_REFRESH : RateLimit where
  key := "auth:refresh"
  maxRequests := 20
  windowSecs := 60

def RATE_LIMIT_API_KEY : RateLimit where
  key := "auth:api_key"
  maxRequests := 5
  windowSecs := 60

/-- Check a rate limit; without an answer the request is let through. -/
def checkRateLimit (metadata : Option AuthMetadata) (limit : RateLimit) (clientIp : String) :
    Except Rejection Unit :=
  match metadata with
  | none => .ok ()
  | some service =>
      match service.checkRateLimit (limit.key ++ ":" ++ clientIp) limit.maxRequests
          limit.windowSecs with
      | .ok true => .ok ()
      | .ok false =>
          .error
            { status := 429
              body := ⟨"Rate limit exceeded", "RATE_LIMITED"⟩ }
      | .error _ => .ok ()

/-- A text without the white space around it. -/
def trim (text : String) : String :=
  String.ofList
    (((text.toList.dropWhile Char.isWhitespace).reverse.dropWhile Char.isWhitespace).reverse)

/-- The address of the client as proxies report it. -/
def extractClientIp (headers : AuthHeaders) : String :=
  match headers.xForwardedFor.bind fun value => (value.splitOn ",").head? with
  | some first => trim first
  | none => "unknown"

/-! ## Challenges and logins -/

/-- Response of the challenge endpoint. -/
structure ChallengeResponse where
  nonce : String
  message : String
  /-- When the challenge is said to expire. -/
  expiresAt : Int
  deriving DecidableEq, Repr

/-- Get a challenge for a wallet to sign; nothing of it is kept. -/
def getChallenge (metadata : Option AuthMetadata) (now : Nat) (uuid : String)
    (headers : AuthHeaders) : Except Rejection ChallengeResponse :=
  match checkRateLimit metadata RATE_LIMIT_CHALLENGE (extractClientIp headers) with
  | .error rejection => .error rejection
  | .ok () =>
      let (nonce, message) := generateChallenge now uuid
      .ok
        { nonce
          message
          expiresAt := unixTimestamp now + 300 }

/-- The bytes of a text. -/
def asBytes (text : String) : Bytes := text.toUTF8.data.toList

/-- Body of a login. -/
structure WalletLoginRequest where
  walletAddress : String
  message : String
  signature : String
  deriving DecidableEq, Repr

/-- Response with tokens. -/
structure AuthResponse where
  accessToken : String
  refreshToken : Option String
  tokenType : String
  expiresIn : Int
  userId : String
  deriving DecidableEq, Repr

/-- A token with what it was issued as. -/
structure MintedToken where
  token : String
  tokenType : TokenType
  claims : Claims
  deriving DecidableEq, Repr

/-- Issue a token and note what it was issued as. -/
def issueToken (jwt : JwtLibrary) (service : AuthService) (now : Nat) (jti userId : String)
    (tokenType : TokenType) (wallet : Option String) (permissions : List String) :
    Except AuthError MintedToken :=
  (service.generateToken jwt now jti userId tokenType wallet permissions).map fun token =>
    { token
      tokenType
      claims := tokenType.claims now jti userId wallet permissions }

/-- Permissions of a login. -/
def defaultPermissions : List String := ["storage:read", "storage:write", "dataset:read"]

/-- The user of a wallet; without a database the address itself. -/
def loginUser (metadata : Option AuthMetadata) (walletAddress : String) : Except Rejection String :=
  match metadata with
  | none => .ok walletAddress
  | some service =>
      match service.getOrCreateUser walletAddress with
      | .ok userId => .ok userId
      | .error _ =>
          .error
            { status := 500
              body := ⟨"Database error", "DB_ERROR"⟩ }

/-- Log in with the signature of a wallet; next to the response, the tokens in it. -/
def walletLogin {ν : Type} (jwt : JwtLibrary) (crates : WalletCrates ν) (service : AuthService)
    (metadata : Option AuthMetadata) (now : Nat) (accessJti refreshJti : String)
    (headers : AuthHeaders) (req : WalletLoginRequest) :
    Except Rejection (AuthResponse × List MintedToken) :=
  match checkRateLimit metadata RATE_LIMIT_LOGIN (extractClientIp headers) with
  | .error rejection => .error rejection
  | .ok () =>
      match verifyWalletSignature crates req.walletAddress (asBytes req.message) req.signature with
      | .ok false | .error _ =>
          .error
            { status := 401
              body := ⟨"Invalid signature", "INVALID_SIGNATURE"⟩ }
      | .ok true =>
          match loginUser metadata req.walletAddress with
          | .error rejection => .error rejection
          | .ok userId =>
              let tokenError : Rejection :=
                { status := 500
                  body := ⟨"Token generation failed", "TOKEN_ERROR"⟩ }
              match issueToken jwt service now accessJti userId .access (some req.walletAddress)
                  defaultPermissions with
              | .error _ => .error tokenError
              | .ok access =>
                  match issueToken jwt service now refreshJti userId .refresh
                      (some req.walletAddress) defaultPermissions with
                  | .error _ => .error tokenError
                  | .ok refresh =>
                      .ok
                        ({ accessToken := access.token
                           refreshToken := some refresh.token
                           tokenType := "Bearer"
                           expiresIn := TokenType.access.lifetimeSecs
                           userId },
                          [access, refresh])

/-! ## Tokens for tokens -/

/-- Exchange a token for an access token; next to the response, the token in it. -/
def refreshToken (jwt : JwtLibrary) (service : AuthService) (redis : Redis)
    (redisFault : Option String) (metadata : Option AuthMetadata) (now : Nat) (jti : String)
    (headers : AuthHeaders) (presented : String) :
    AuthService × Except Rejection (AuthResponse × MintedToken) :=
  match checkRateLimit metadata RATE_LIMIT_REFRESH (extractClientIp headers) with
  | .error rejection => (service, .error rejection)
  | .ok () =>
      let (service, validated) := service.validateToken jwt redis redisFault now presented
      match validated with
      | .error _ =>
          (service,
            .error
              { status := 401
                body := ⟨"Invalid refresh token", "INVALID_TOKEN"⟩ })
      | .ok claims =>
          match issueToken jwt service now jti claims.sub .access claims.wallet
              claims.permissions with
          | .error _ =>
              (service,
                .error
                  { status := 500
                    body := ⟨"Token generation failed", "TOKEN_ERROR"⟩ })
          | .ok access =>
              (service,
                .ok
                  ({ accessToken := access.token
                     refreshToken := none
                     tokenType := "Bearer"
                     expiresIn := TokenType.access.lifetimeSecs
                     userId := claims.sub },
                    access))

/-- Permissions that an API key may ask for. -/
def ALLOWED_PERMISSIONS : List String :=
  ["storage:read", "storage:write", "storage:delete", "dataset:read", "dataset:write",
    "node:register", "node:admin", "*"]

/-- Body of a request for an API key. -/
structure CreateApiKeyRequest where
  name : String
  permissions : List String
  expiresInDays : Option Int
  deriving DecidableEq, Repr

/-- Response with an API key. -/
structure ApiKeyResponse where
  name : String
  apiKey : String
  expiresInDays : Int
  deriving DecidableEq, Repr

/-- Check a request for an API key and give the days that it asks for; `isAlphanumeric` is the table
of Unicode. -/
def validateApiKeyRequest (isAlphanumeric : Char → Bool) (req : CreateApiKeyRequest) :
    Except Rejection Int :=
  if req.name.isEmpty ∨ req.name.utf8ByteSize > 64 then
    .error
      { status := 400
        body := ⟨"API key name must be 1-64 characters", "INVALID_NAME"⟩ }
  else if !req.name.toList.all fun c => isAlphanumeric c || c == '-' || c == '_' then
    .error
      { status := 400
        body :=
          ⟨"API key name must contain only alphanumeric, dash, or underscore characters",
            "INVALID_NAME"⟩ }
  else
    let expiresDays := req.expiresInDays.getD 365
    if expiresDays < 1 ∨ expiresDays > 3650 then
      .error
        { status := 400
          body := ⟨"expires_in_days must be between 1 and 3650", "INVALID_EXPIRY"⟩ }
    else
      match req.permissions.find? fun perm => !ALLOWED_PERMISSIONS.contains perm with
      | some perm =>
          .error
            { status := 400
              body := ⟨"Unknown permission: " ++ perm, "INVALID_PERMISSION"⟩ }
      | none => .ok expiresDays

/-- The token of an authorization header. -/
def bearerToken (authorization : Option String) : Except Rejection String :=
  match authorization with
  | none =>
      .error
        { status := 401
          body := ⟨"Missing Authorization header", "MISSING_AUTH"⟩ }
  | some authHeader =>
      if "Bearer ".toList.isPrefixOf authHeader.toList then
        .ok (String.ofList (authHeader.toList.drop 7))
      else
        .error
          { status := 401
            body := ⟨"Invalid Authorization format", "INVALID_AUTH_FORMAT"⟩ }

/-- The claims of the token in the authorization header. -/
def extractAndValidateToken (jwt : JwtLibrary) (service : AuthService) (redis : Redis)
    (redisFault : Option String) (now : Nat) (headers : AuthHeaders) :
    AuthService × Except Rejection Claims :=
  match bearerToken headers.authorization with
  | .error rejection => (service, .error rejection)
  | .ok token =>
      let (service, validated) := service.validateToken jwt redis redisFault now token
      (service,
        validated.mapError fun cause =>
          { status := 401
            body := ⟨cause.display, "INVALID_TOKEN"⟩ })

/-- Create an API key; next to the response, the token in it. -/
def createApiKey (jwt : JwtLibrary) (isAlphanumeric : Char → Bool) (service : AuthService)
    (redis : Redis) (redisFault : Option String) (metadata : Option AuthMetadata) (now : Nat)
    (jti : String) (headers : AuthHeaders) (req : CreateApiKeyRequest) :
    AuthService × Except Rejection (ApiKeyResponse × MintedToken) :=
  match checkRateLimit metadata RATE_LIMIT_API_KEY (extractClientIp headers) with
  | .error rejection => (service, .error rejection)
  | .ok () =>
      match validateApiKeyRequest isAlphanumeric req with
      | .error rejection => (service, .error rejection)
      | .ok expiresDays =>
          let (service, authenticated) :=
            extractAndValidateToken jwt service redis redisFault now headers
          match authenticated with
          | .error rejection => (service, .error rejection)
          | .ok claims =>
              let permissions :=
                if req.permissions.isEmpty then claims.permissions else req.permissions
              -- the days that the request asks for do not reach the token
              match issueToken jwt service now jti claims.sub .apiKey claims.wallet permissions with
              | .error _ =>
                  (service,
                    .error
                      { status := 500
                        body := ⟨"API key generation failed", "TOKEN_ERROR"⟩ })
              | .ok apiKey =>
                  (service,
                    .ok
                      ({ name := req.name
                         apiKey := apiKey.token
                         expiresInDays := expiresDays },
                        apiKey))

/-- Revoke the token in the authorization header. -/
def logout (jwt : JwtLibrary) (service : AuthService) (redis : Redis)
    (redisFault : Option String) (now : Nat) (headers : AuthHeaders) :
    AuthService × Redis × Except Rejection Unit :=
  let (service, authenticated) := extractAndValidateToken jwt service redis redisFault now headers
  match authenticated with
  | .error rejection => (service, redis, .error rejection)
  | .ok claims =>
      let (service, redis) := service.revokeToken redis redisFault now claims.jti
      (service, redis, .ok ())

/-! ## What the handlers answer -/

section

variable {jwt : JwtLibrary} {service : AuthService} {redis : Redis} {redisFault : Option String}
  {metadata : Option AuthMetadata} {now : Nat} {jti : String} {headers : AuthHeaders}

theorem issueToken_eq_ok_iff {userId : String} {tokenType : TokenType} {wallet : Option String}
    {permissions : List String} {issued : MintedToken} :
    issueToken jwt service now jti userId tokenType wallet permissions = .ok issued ↔
      jwt.encode service.config.jwtSecret
          (tokenType.claims now jti userId wallet permissions) = .ok issued.token ∧
        issued.tokenType = tokenType ∧
          issued.claims = tokenType.claims now jti userId wallet permissions := by
  obtain ⟨token, issuedType, claims⟩ := issued
  rw [← AuthService.generateToken_eq_ok_iff]
  cases generated :
      service.generateToken jwt now jti userId tokenType wallet permissions with
  | error cause => simp [issueToken, generated, Except.map]
  | ok text => simp [issueToken, generated, Except.map, eq_comm]

theorem bearerToken_eq_ok_iff {authorization : Option String} {token : String} :
    bearerToken authorization = .ok token ↔ authorization = some ("Bearer " ++ token) := by
  cases authorization with
  | none => simp [bearerToken]
  | some authHeader =>
      rw [Option.some.injEq, String.ext_iff, String.toList_append]
      by_cases bearer : "Bearer ".toList.isPrefixOf authHeader.toList
      · obtain ⟨rest, split⟩ := List.isPrefixOf_iff_prefix.mp bearer
        have rest_eq : authHeader.toList.drop 7 = rest := by
          rw [← split]
          rfl
        rw [bearerToken, if_pos bearer, rest_eq, ← split, Except.ok.injEq,
          List.append_cancel_left_eq]
        constructor
        · rintro rfl
          rw [String.toList_ofList]
        · rintro rfl
          rw [String.ofList_toList]
      · rw [bearerToken, if_neg bearer]
        constructor
        · intro impossible
          cases impossible
        · intro split
          exact absurd (List.isPrefixOf_iff_prefix.mpr ⟨token.toList, split.symm⟩) bearer

/-- Validation does not matter for what is issued. -/
theorem issueToken_validateToken (token : String) :
    issueToken jwt (service.validateToken jwt redis redisFault now token).1 =
      issueToken jwt service := by
  have frame := AuthService.validateToken_frame jwt service redis redisFault now token
  funext now jti userId tokenType wallet permissions
  simp only [issueToken, AuthService.generateToken, frame.1]

theorem not_accepts_of_error {token : String} {cause : AuthError}
    (refused : (service.validateToken jwt redis redisFault now token).2 = .error cause)
    (claims : Claims) : ¬ service.Accepts jwt redis redisFault now token claims := by
  intro accepts
  rw [AuthService.validateToken_eq_ok_iff.mpr accepts] at refused
  cases refused

/-- A refresh goes through exactly when the rate limit allows it, the token presented is accepted
and a token can be issued; the new token copies the claims. -/
theorem refreshToken_eq_ok_iff {presented : String} {response : AuthResponse}
    {issued : MintedToken} :
    (refreshToken jwt service redis redisFault metadata now jti headers presented).2 =
        .ok (response, issued) ↔
      checkRateLimit metadata RATE_LIMIT_REFRESH (extractClientIp headers) = .ok () ∧
        ∃ claims, service.Accepts jwt redis redisFault now presented claims ∧
          issueToken jwt service now jti claims.sub .access claims.wallet claims.permissions =
              .ok issued ∧
            response =
              { accessToken := issued.token
                refreshToken := none
                tokenType := "Bearer"
                expiresIn := TokenType.access.lifetimeSecs
                userId := claims.sub } := by
  cases allowed : checkRateLimit metadata RATE_LIMIT_REFRESH (extractClientIp headers) with
  | error rejection => simp [refreshToken, allowed]
  | ok =>
      cases outcome : (service.validateToken jwt redis redisFault now presented).2 with
      | error cause => simp [refreshToken, allowed, outcome, not_accepts_of_error outcome]
      | ok claims =>
          have accepts := AuthService.validateToken_eq_ok_iff.mp outcome
          cases minted : issueToken jwt service now jti claims.sub .access claims.wallet
              claims.permissions with
          | error cause =>
              simp only [refreshToken, allowed, outcome, issueToken_validateToken, minted]
              constructor
              · intro impossible
                cases impossible
              · rintro ⟨-, found, accepts', minted', -⟩
                rw [accepts.unique accepts', minted] at minted'
                cases minted'
          | ok access =>
              simp only [refreshToken, allowed, outcome, issueToken_validateToken, minted]
              constructor
              · intro answered
                cases answered
                exact ⟨trivial, claims, accepts, minted, rfl⟩
              · rintro ⟨-, found, accepts', minted', rfl⟩
                rw [accepts.unique accepts', minted] at minted'
                cases minted'
                rw [accepts.unique accepts']

/-- The token that a request carries in its header is accepted. -/
def Authenticates (jwt : JwtLibrary) (service : AuthService) (redis : Redis)
    (redisFault : Option String) (now : Nat) (headers : AuthHeaders) (claims : Claims) : Prop :=
  ∃ token, headers.authorization = some ("Bearer " ++ token) ∧
    service.Accepts jwt redis redisFault now token claims

theorem Authenticates.unique {claims other : Claims}
    (authenticates : Authenticates jwt service redis redisFault now headers claims)
    (authenticates' : Authenticates jwt service redis redisFault now headers other) :
    other = claims := by
  obtain ⟨token, present, accepts⟩ := authenticates
  obtain ⟨token', present', accepts'⟩ := authenticates'
  rw [present, Option.some.injEq, String.append_right_inj] at present'
  exact accepts.unique (present' ▸ accepts')

theorem extractAndValidateToken_eq_ok_iff {claims : Claims} :
    (extractAndValidateToken jwt service redis redisFault now headers).2 = .ok claims ↔
      Authenticates jwt service redis redisFault now headers claims := by
  cases bearer : bearerToken headers.authorization with
  | error rejection =>
      have absent : ∀ token, headers.authorization ≠ some ("Bearer " ++ token) := by
        intro token present
        rw [bearerToken_eq_ok_iff.mpr present] at bearer
        cases bearer
      simp [extractAndValidateToken, Authenticates, bearer, absent]
  | ok token =>
      have present := bearerToken_eq_ok_iff.mp bearer
      have carried : Authenticates jwt service redis redisFault now headers claims ↔
          service.Accepts jwt redis redisFault now token claims := by
        simp [Authenticates, present, String.append_right_inj]
      rw [carried, ← AuthService.validateToken_eq_ok_iff]
      cases outcome : (service.validateToken jwt redis redisFault now token).2 <;>
        simp [extractAndValidateToken, bearer, outcome, Except.mapError]

theorem issueToken_extractAndValidateToken :
    issueToken jwt (extractAndValidateToken jwt service redis redisFault now headers).1 =
      issueToken jwt service := by
  cases bearer : bearerToken headers.authorization with
  | error rejection => simp only [extractAndValidateToken, bearer]
  | ok token => simp only [extractAndValidateToken, bearer, issueToken_validateToken]

/-- An API key is created exactly when the rate limit allows it, the request is valid, the token in
the header is accepted and a token can be issued. -/
theorem createApiKey_eq_ok_iff {isAlphanumeric : Char → Bool} {req : CreateApiKeyRequest}
    {response : ApiKeyResponse} {issued : MintedToken} :
    (createApiKey jwt isAlphanumeric service redis redisFault metadata now jti headers req).2 =
        .ok (response, issued) ↔
      checkRateLimit metadata RATE_LIMIT_API_KEY (extractClientIp headers) = .ok () ∧
        ∃ expiresDays claims, validateApiKeyRequest isAlphanumeric req = .ok expiresDays ∧
          Authenticates jwt service redis redisFault now headers claims ∧
            issueToken jwt service now jti claims.sub .apiKey claims.wallet
                (if req.permissions.isEmpty then claims.permissions else req.permissions) =
                .ok issued ∧
              response =
                { name := req.name
                  apiKey := issued.token
                  expiresInDays := expiresDays } := by
  cases allowed : checkRateLimit metadata RATE_LIMIT_API_KEY (extractClientIp headers) with
  | error rejection => simp [createApiKey, allowed]
  | ok =>
      cases valid : validateApiKeyRequest isAlphanumeric req with
      | error rejection => simp [createApiKey, allowed, valid]
      | ok expiresDays =>
          cases outcome : (extractAndValidateToken jwt service redis redisFault now headers).2 with
          | error rejection =>
              have refused : ∀ claims,
                  ¬ Authenticates jwt service redis redisFault now headers claims := by
                intro claims authenticates
                rw [extractAndValidateToken_eq_ok_iff.mpr authenticates] at outcome
                cases outcome
              simp [createApiKey, allowed, valid, outcome, refused]
          | ok claims =>
              have authenticates := extractAndValidateToken_eq_ok_iff.mp outcome
              cases minted : issueToken jwt service now jti claims.sub .apiKey claims.wallet
                  (if req.permissions.isEmpty then claims.permissions else req.permissions) with
              | error cause =>
                  simp only [createApiKey, allowed, valid, outcome,
                    issueToken_extractAndValidateToken, minted]
                  constructor
                  · intro impossible
                    cases impossible
                  · rintro ⟨-, days, found, -, authenticates', minted', -⟩
                    rw [authenticates.unique authenticates', minted] at minted'
                    cases minted'
              | ok apiKey =>
                  simp only [createApiKey, allowed, valid, outcome,
                    issueToken_extractAndValidateToken, minted]
                  constructor
                  · intro answered
                    cases answered
                    exact ⟨trivial, expiresDays, claims, rfl, authenticates, minted, rfl⟩
                  · rintro ⟨-, days, found, same, authenticates', minted', rfl⟩
                    rw [authenticates.unique authenticates', minted] at minted'
                    cases minted'
                    cases same
                    rfl

/-- A login goes through exactly when the rate limit allows it, the signature verifies, there is a
user and both tokens can be issued. -/
theorem walletLogin_eq_ok_iff {ν : Type} {crates : WalletCrates ν} {accessJti refreshJti : String}
    {req : WalletLoginRequest} {response : AuthResponse} {issued : List MintedToken} :
    walletLogin jwt crates service metadata now accessJti refreshJti headers req =
        .ok (response, issued) ↔
      checkRateLimit metadata RATE_LIMIT_LOGIN (extractClientIp headers) = .ok () ∧
        verifyWalletSignature crates req.walletAddress (asBytes req.message) req.signature =
            .ok true ∧
          ∃ userId access refresh, loginUser metadata req.walletAddress = .ok userId ∧
            issueToken jwt service now accessJti userId .access (some req.walletAddress)
                defaultPermissions = .ok access ∧
              issueToken jwt service now refreshJti userId .refresh (some req.walletAddress)
                  defaultPermissions = .ok refresh ∧
                response =
                    { accessToken := access.token
                      refreshToken := some refresh.token
                      tokenType := "Bearer"
                      expiresIn := TokenType.access.lifetimeSecs
                      userId } ∧
                  issued = [access, refresh] := by
  cases allowed : checkRateLimit metadata RATE_LIMIT_LOGIN (extractClientIp headers) with
  | error rejection => simp [walletLogin, allowed]
  | ok =>
      cases verified : verifyWalletSignature crates req.walletAddress (asBytes req.message)
          req.signature with
      | error cause => simp [walletLogin, allowed, verified]
      | ok genuine =>
          cases genuine with
          | false => simp [walletLogin, allowed, verified]
          | true =>
              cases user : loginUser metadata req.walletAddress with
              | error rejection => simp [walletLogin, allowed, verified, user]
              | ok userId =>
                  cases minted : issueToken jwt service now accessJti userId .access
                      (some req.walletAddress) defaultPermissions with
                  | error cause => simp [walletLogin, allowed, verified, user, minted]
                  | ok access =>
                      cases minted' : issueToken jwt service now refreshJti userId .refresh
                          (some req.walletAddress) defaultPermissions with
                      | error cause => simp [walletLogin, allowed, verified, user, minted, minted']
                      | ok refresh =>
                          simp [walletLogin, allowed, verified, user, minted, minted', eq_comm]

end

end CyxCloud.Gateway
