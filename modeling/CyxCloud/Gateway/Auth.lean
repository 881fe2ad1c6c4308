import CyxCloud.Core.Chunk
import Mathlib.Data.Finset.Insert
import Mathlib.Logic.Function.Basic

/-!
# Tokens of the gateway

The service of `cyxcloud-gateway/src/auth.rs` that issues, validates and revokes JSON web tokens and
checks the signatures of wallets.  The crates for tokens, base58 and Ed25519 and the Redis server
enter as parameters.  The clock counts milliseconds; tokens carry seconds.
-/

namespace CyxCloud.Gateway

open CyxCloud.Core hiding Chunk

/-- Failures of the service. -/
inductive AuthError where
  | invalidToken (reason : String)
  | tokenExpired
  | invalidSignature
  | invalidWalletAddress
  | internal (reason : String)
  deriving DecidableEq, Repr

/-- The text of a failure. -/
def AuthError.display : AuthError → String
  | .invalidToken reason => "Invalid token: " ++ reason
  | .tokenExpired => "Token expired"
  | .invalidSignature => "Invalid signature"
  | .invalidWalletAddress => "Invalid wallet address"
  | .internal reason => "Internal error: " ++ reason

/-- What a token says. -/
structure Claims where
  /-- Subject: the user. -/
  sub : String
  /-- Expiration time. -/
  exp : Int
  /-- Time of issue. -/
  iat : Int
  /-- Start of validity. -/
  nbf : Int
  /-- Identifier of the token. -/
  jti : String
  /-- `user`, `node` or `api_key`. -/
  userType : String
  /-- Wallet address. -/
  wallet : Option String
  permissions : List String
  deriving DecidableEq, Repr

/-- Kinds of tokens. -/
inductive TokenType where
  | access
  | refresh
  | node
  | apiKey
  deriving DecidableEq, Repr

namespace TokenType

/-- Seconds for which a token is valid. -/
def lifetimeSecs : TokenType → Nat
  | access => 3600
  | refresh => 7 * 24 * 3600
  | node => 24 * 3600
  | apiKey => 365 * 24 * 3600

/-- The kind of user that a token names. -/
def userType : TokenType → String
  | access => "user"
  | refresh => "user"
  | node => "node"
  | apiKey => "api_key"

end TokenType

/-- Seconds of the clock. -/
def unixTimestamp (now : Nat) : Int := (now / 1000 : Nat)

/-- The claims of a token issued now. -/
def TokenType.claims (tokenType : TokenType) (now : Nat) (jti userId : String)
    (wallet : Option String) (permissions : List String) : Claims :=
  { sub := userId
    exp := unixTimestamp (now + tokenType.lifetimeSecs * 1000)
    iat := unixTimestamp now
    nbf := unixTimestamp now
    jti
    userType := tokenType.userType
    wallet
    permissions }

theorem TokenType.claims_exp (tokenType : TokenType) (now : Nat) (jti userId : String)
    (wallet : Option String) (permissions : List String) :
    (tokenType.claims now jti userId wallet permissions).exp =
      unixTimestamp now + tokenType.lifetimeSecs := by
  simp only [claims, unixTimestamp]
  omega

/-! ## Token crate -/

/-- What the decoder requires of a token. -/
structure Validation where
  /-- Accepted issuers, any when absent. -/
  issuers : Option (List String)
  requiredSpecClaims : List String
  /-- Seconds for which an expired token is still accepted. -/
  leeway : Nat
  deriving DecidableEq, Repr

/-- The requirements of `Validation::default`. -/
def Validation.default : Validation :=
  { issuers := none
    requiredSpecClaims := ["exp"]
    leeway := 60 }

/-- Why a token is not decoded. -/
inductive JwtError where
  | expiredSignature
  | other (reason : String)
  deriving DecidableEq, Repr

/-- The crate `jsonwebtoken` with keys of bytes. -/
structure JwtLibrary where
  encode : Bytes → Claims → Except String String
  decode : Bytes → Validation → Int → String → Except JwtError Claims

/-- A token that was encoded under a key is read back until its expiration time and the leeway are
over; it names no issuer or audience, so that none is checked. -/
def JwtLibrary.Documented (jwt : JwtLibrary) : Prop :=
  ∀ secret claims token, jwt.encode secret claims = .ok token → ∀ validation now,
    jwt.decode secret validation now token =
      if claims.exp + validation.leeway < now then .error .expiredSignature else .ok claims

/-! ## Redis -/

/-- The keys of a Redis server, each with the time at which it lapses. -/
structure Redis where
  keys : String → Option Nat

namespace Redis

/-- `SET EX`. -/
def setEx (redis : Redis) (fault : Option String) (now : Nat) (key : String) (ttlSecs : Nat) :
    Redis × Except String Unit :=
  match fault with
  | some cause => (redis, .error cause)
  | none => ({ keys := Function.update redis.keys key (some (now + ttlSecs * 1000)) }, .ok ())

/-- `EXISTS`. -/
def keyExists (redis : Redis) (fault : Option String) (now : Nat) (key : String) :
    Except String Bool :=
  match fault with
  | some cause => .error cause
  | none =>
      match redis.keys key with
      | some lapses => .ok (decide (now < lapses))
      | none => .ok false

end Redis

/-! ## The service -/

/-- Configuration of the service. -/
structure AuthConfig where
  jwtSecret : Bytes
  issuer : String
  acceptedIssuers : List String
  skipIssuerValidation : Bool
  deriving DecidableEq, Repr

/-- The service. -/
structure AuthService where
  config : AuthConfig
  validation : Validation
  /-- Identifiers of revoked tokens, kept in memory. -/
  revokedTokens : Finset String
  /-- Whether a connection to Redis is attached. -/
  redis : Bool

namespace AuthService

/-- A service without Redis. -/
def new (config : AuthConfig) : AuthService :=
  { config
    validation :=
      if config.skipIssuerValidation then
        { Validation.default with requiredSpecClaims := ["exp", "sub"] }
      else
        { Validation.default with issuers := some (config.issuer :: config.acceptedIssuers) }
    revokedTokens := ∅
    redis := false }

/-- The service with a connection to Redis. -/
def withRedis (service : AuthService) : AuthService := { service with redis := true }

/-- Issue a token; its identifier is a fresh UUID. -/
def generateToken (jwt : JwtLibrary) (service : AuthService) (now : Nat) (jti userId : String)
    (tokenType : TokenType) (wallet : Option String) (permissions : List String) :
    Except AuthError String :=
  match jwt.encode service.config.jwtSecret
      (tokenType.claims now jti userId wallet permissions) with
  | .ok token => .ok token
  | .error cause => .error (.internal ("Failed to generate token: " ++ cause))

/-- The key under which a revocation is kept. -/
def revocationKey (jti : String) : String := "revoked:" ++ jti

/-- Validate a token: decode it, then look for a revocation in memory and in Redis. -/
def validateToken (jwt : JwtLibrary) (service : AuthService) (redis : Redis)
    (fault : Option String) (now : Nat) (token : String) :
    AuthService × Except AuthError Claims :=
  match jwt.decode service.config.jwtSecret service.validation (unixTimestamp now) token with
  | .error .expiredSignature => (service, .error .tokenExpired)
  | .error (.other reason) => (service, .error (.invalidToken reason))
  | .ok claims =>
      if claims.jti ∈ service.revokedTokens then
        (service, .error (.invalidToken "Token has been revoked"))
      else if !service.redis then
        (service, .ok claims)
      else
        match redis.keyExists fault now (revocationKey claims.jti) with
        | .ok true =>
            ({ service with revokedTokens := insert claims.jti service.revokedTokens },
              .error (.invalidToken "Token has been revoked"))
        | .ok false => (service, .ok claims)
        -- without an answer the token is let through
        | .error _ => (service, .ok claims)

/-- Revoke a token in memory and in Redis. -/
def revokeToken (service : AuthService) (redis : Redis) (fault : Option String) (now : Nat)
    (jti : String) : AuthService × Redis :=
  ({ service with revokedTokens := insert jti service.revokedTokens },
    if service.redis then
      (redis.setEx fault now (revocationKey jti) TokenType.refresh.lifetimeSecs).1
    else
      redis)

end AuthService

/-! ## Wallets -/

/-- The crates `bs58` and `ed25519-dalek`, with public keys of any type. -/
structure WalletCrates (ν : Type) where
  bs58Decode : String → Option Bytes
  keyFromBytes : Bytes → Option ν
  verify : ν → Bytes → Bytes → Bool

/-- Verify the signature of a wallet over a message. -/
def verifyWalletSignature {ν : Type} (crates : WalletCrates ν) (walletAddress : String)
    (message : Bytes) (signatureB58 : String) : Except AuthError Bool :=
  match crates.bs58Decode walletAddress with
  | none => .error .invalidWalletAddress
  | some pubkeyBytes =>
      if pubkeyBytes.length ≠ 32 then
        .error .invalidWalletAddress
      else
        match crates.keyFromBytes pubkeyBytes with
        | none => .error .invalidWalletAddress
        | some verifyingKey =>
            match crates.bs58Decode signatureB58 with
            | none => .error .invalidSignature
            | some sigBytes =>
                if sigBytes.length ≠ 64 then
                  .error .invalidSignature
                else if crates.verify verifyingKey message sigBytes then
                  .ok true
                else
                  .error .invalidSignature

/-- A challenge for a wallet to sign: its nonce, a fresh UUID, and its message. -/
def generateChallenge (now : Nat) (nonce : String) : String × String :=
  (nonce,
    "Sign this message to authenticate with CyxCloud.\n\nNonce: " ++ nonce ++ "\nTimestamp: " ++
      toString (unixTimestamp now))

/-! ## What the service answers -/

namespace AuthService

variable {jwt : JwtLibrary} {service : AuthService} {redis : Redis} {fault : Option String}
  {now : Nat} {token jti : String} {claims : Claims}

/-- A decoded token passes unless a revocation of it is seen in memory or in Redis. -/
theorem validateToken_of_decoded
    (decoded : jwt.decode service.config.jwtSecret service.validation (unixTimestamp now) token =
      .ok claims) :
    (validateToken jwt service redis fault now token).2 =
      if claims.jti ∈ service.revokedTokens ∨
          service.redis = true ∧ redis.keyExists fault now (revocationKey claims.jti) = .ok true then
        .error (.invalidToken "Token has been revoked")
      else
        .ok claims := by
  by_cases revoked : claims.jti ∈ service.revokedTokens
  · simp [validateToken, decoded, revoked]
  · by_cases attached : service.redis = true
    · cases answer : redis.keyExists fault now (revocationKey claims.jti) with
      | error cause => simp [validateToken, decoded, revoked, attached, answer]
      | ok lapsed => cases lapsed <;> simp [validateToken, decoded, revoked, attached, answer]
    · simp [validateToken, decoded, revoked, attached]

theorem decoded_of_validateToken
    (passed : (validateToken jwt service redis fault now token).2 = .ok claims) :
    jwt.decode service.config.jwtSecret service.validation (unixTimestamp now) token = .ok claims := by
  cases decoded : jwt.decode service.config.jwtSecret service.validation (unixTimestamp now) token with
  | error cause => cases cause <;> simp [validateToken, decoded] at passed
  | ok found =>
      rw [validateToken_of_decoded decoded] at passed
      split at passed
      · cases passed
      · rw [Except.ok.inj passed]

/-- A token decodes to claims, and no revocation of it is seen. -/
def Accepts (jwt : JwtLibrary) (service : AuthService) (redis : Redis) (fault : Option String)
    (now : Nat) (token : String) (claims : Claims) : Prop :=
  jwt.decode service.config.jwtSecret service.validation (unixTimestamp now) token = .ok claims ∧
    claims.jti ∉ service.revokedTokens ∧
      ¬ (service.redis = true ∧
        redis.keyExists fault now (revocationKey claims.jti) = .ok true)

/-- An issued token is accepted while it has not expired and no revocation of it is seen. -/
theorem accepts_of_encode (documented : jwt.Documented)
    (encoded : jwt.encode service.config.jwtSecret claims = .ok token)
    (unexpired : unixTimestamp now ≤ claims.exp + service.validation.leeway)
    (forgotten : claims.jti ∉ service.revokedTokens)
    (unseen : ¬ (service.redis = true ∧
      redis.keyExists fault now (revocationKey claims.jti) = .ok true)) :
    Accepts jwt service redis fault now token claims :=
  ⟨by rw [documented _ _ _ encoded, if_neg (by omega)], forgotten, unseen⟩

theorem Accepts.unique {other : Claims}
    (accepts : Accepts jwt service redis fault now token claims)
    (accepts' : Accepts jwt service redis fault now token other) : other = claims :=
  Except.ok.inj (accepts'.1.symm.trans accepts.1)

theorem validateToken_eq_ok_iff :
    (validateToken jwt service redis fault now token).2 = .ok claims ↔
      Accepts jwt service redis fault now token claims := by
  constructor
  · intro passed
    have decoded := decoded_of_validateToken passed
    rw [validateToken_of_decoded decoded] at passed
    split at passed
    · cases passed
    · exact ⟨decoded, not_or.mp ‹_›⟩
  · rintro ⟨decoded, unseen⟩
    rw [validateToken_of_decoded decoded, if_neg (not_or.mpr unseen)]

/-- Validation changes nothing but what is known in memory of revocations. -/
theorem validateToken_frame (jwt : JwtLibrary) (service : AuthService) (redis : Redis)
    (fault : Option String) (now : Nat) (token : String) :
    (validateToken jwt service redis fault now token).1.config = service.config ∧
      (validateToken jwt service redis fault now token).1.validation = service.validation ∧
        (validateToken jwt service redis fault now token).1.redis = service.redis := by
  unfold validateToken
  split
  · exact ⟨rfl, rfl, rfl⟩
  · exact ⟨rfl, rfl, rfl⟩
  · split
    · exact ⟨rfl, rfl, rfl⟩
    · split
      · exact ⟨rfl, rfl, rfl⟩
      · split <;> exact ⟨rfl, rfl, rfl⟩

theorem generateToken_eq_ok_iff {userId : String} {tokenType : TokenType} {wallet : Option String}
    {permissions : List String} :
    generateToken jwt service now jti userId tokenType wallet permissions = .ok token ↔
      jwt.encode service.config.jwtSecret
        (tokenType.claims now jti userId wallet permissions) = .ok token := by
  cases encoded : jwt.encode service.config.jwtSecret
      (tokenType.claims now jti userId wallet permissions) <;>
    simp [generateToken, encoded]

end AuthService

end CyxCloud.Gateway
