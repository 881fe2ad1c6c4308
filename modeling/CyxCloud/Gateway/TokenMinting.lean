import CyxCloud.Gateway.AuthApi
import CyxCloud.Gateway.ReferenceJwt
import CyxCloud.Library.Runs

/-!
# Tokens minted from tokens

Chains of logins, refreshes and API keys: what the tokens obtained permit, compared with the tokens
presented for them.
-/

namespace CyxCloud.Gateway

open CyxCloud.Core hiding Chunk
open Library

/-- Permissions that others contain, `*` containing all. -/
def Contained (permissions within : List String) : Prop :=
  "*" ∈ within ∨ ∀ permission ∈ permissions, permission ∈ within

theorem contained_refl (permissions : List String) : Contained permissions permissions :=
  .inr fun _ member => member

/-- The service, Redis and the clock, with a record of the tokens that were issued. -/
structure MintingState where
  service : AuthService
  redis : Redis
  now : Nat
  issued : List MintedToken

/-- A request, with what the environment answers to it, or time passing. -/
inductive MintingOp where
  | walletLogin (metadata : Option AuthMetadata) (accessJti refreshJti : String)
      (headers : AuthHeaders) (req : WalletLoginRequest)
  | refreshToken (redisFault : Option String) (metadata : Option AuthMetadata) (jti : String)
      (headers : AuthHeaders) (presented : String)
  | createApiKey (redisFault : Option String) (metadata : Option AuthMetadata) (jti : String)
      (headers : AuthHeaders) (req : CreateApiKeyRequest)
  | logout (redisFault : Option String) (headers : AuthHeaders)
  | pass (milliseconds : Nat)

namespace MintingState

section

variable {ν : Type} (jwt : JwtLibrary) (crates : WalletCrates ν) (isAlphanumeric : Char → Bool)

/-- The state with the tokens of a response recorded. -/
def record {ρ : Type} (state : MintingState) : Except Rejection (ρ × List MintedToken) → MintingState
  | .error _ => state
  | .ok (_, issued) => { state with issued := state.issued ++ issued }

/-- The state after a request. -/
def apply (state : MintingState) : MintingOp → MintingState
  | .walletLogin metadata accessJti refreshJti headers req =>
      state.record
        (Gateway.walletLogin jwt crates state.service metadata state.now accessJti refreshJti
          headers req)
  | .refreshToken redisFault metadata jti headers presented =>
      let answer := Gateway.refreshToken jwt state.service state.redis redisFault metadata
        state.now jti headers presented
      record { state with service := answer.1 }
        (answer.2.map fun minted => (minted.1, [minted.2]))
  | .createApiKey redisFault metadata jti headers req =>
      let answer := Gateway.createApiKey jwt isAlphanumeric state.service state.redis redisFault
        metadata state.now jti headers req
      record { state with service := answer.1 }
        (answer.2.map fun minted => (minted.1, [minted.2]))
  | .logout redisFault headers =>
      let answer := Gateway.logout jwt state.service state.redis redisFault state.now headers
      { state with
        service := answer.1
        redis := answer.2.1 }
  | .pass milliseconds => { state with now := state.now + milliseconds }

/-- A text was issued as a refresh token. -/
def IssuedAsRefresh (state : MintingState) (token : String) : Prop :=
  ∃ issued ∈ state.issued, issued.token = token ∧ issued.tokenType = .refresh

/-- A request escalates nothing: a refresh that goes through presents a refresh token, a token
obtained permits what the token presented for it permits, and an API key lives for the days that
were validated. -/
def NoEscalation (state : MintingState) : MintingOp → Prop
  | .refreshToken redisFault metadata jti headers presented =>
      ∀ response issued,
        (Gateway.refreshToken jwt state.service state.redis redisFault metadata state.now jti
            headers presented).2 = .ok (response, issued) →
          state.IssuedAsRefresh presented ∧
            ∀ claims,
              state.service.Accepts jwt state.redis redisFault state.now presented claims →
                Contained issued.claims.permissions claims.permissions
  | .createApiKey redisFault metadata jti headers req =>
      ∀ response issued,
        (Gateway.createApiKey jwt isAlphanumeric state.service state.redis redisFault metadata
            state.now jti headers req).2 = .ok (response, issued) →
          (∀ claims,
              Authenticates jwt state.service state.redis redisFault state.now headers claims →
                Contained issued.claims.permissions claims.permissions) ∧
            issued.claims.exp - issued.claims.iat = response.expiresInDays * 86400
  | _ => True

/-- A client stays within what it has: where the rate limit lets it through, it presents to the
refresh endpoint no other token that is accepted than a refresh token, and asks a valid API key for
no permission that its token lacks and for 365 days. -/
def StaysWithin (state : MintingState) : MintingOp → Prop
  | .refreshToken redisFault metadata jti headers presented =>
      checkRateLimit metadata RATE_LIMIT_REFRESH (extractClientIp headers) = .ok () →
        ∀ claims token,
          state.service.Accepts jwt state.redis redisFault state.now presented claims →
            jwt.encode state.service.config.jwtSecret
                (TokenType.access.claims state.now jti claims.sub claims.wallet
                  claims.permissions) = .ok token →
              state.IssuedAsRefresh presented
  | .createApiKey redisFault metadata jti headers req =>
      checkRateLimit metadata RATE_LIMIT_API_KEY (extractClientIp headers) = .ok () →
        ∀ days claims token,
          validateApiKeyRequest isAlphanumeric req = .ok days →
            Authenticates jwt state.service state.redis redisFault state.now headers claims →
              jwt.encode state.service.config.jwtSecret
                  (TokenType.apiKey.claims state.now jti claims.sub claims.wallet
                    (if req.permissions.isEmpty then claims.permissions else req.permissions)) =
                  .ok token →
                Contained req.permissions claims.permissions ∧ req.expiresInDays.getD 365 = 365
  | _ => True

/-! ## One request -/

theorem validated_days {req : CreateApiKeyRequest} {days : Int}
    (valid : validateApiKeyRequest isAlphanumeric req = .ok days) :
    days = req.expiresInDays.getD 365 := by
  unfold validateApiKeyRequest at valid
  split at valid
  · cases valid
  · split at valid
    · cases valid
    · dsimp only at valid
      split at valid
      · cases valid
      · split at valid
        · cases valid
        · exact (Except.ok.inj valid).symm

/-- The permissions of an API key are contained exactly when the ones asked for are. -/
theorem contained_apiKey_iff (asked held : List String) :
    Contained (if asked.isEmpty then held else asked) held ↔ Contained asked held := by
  cases asked with
  | nil => simp [Contained]
  | cons => rfl

/-- An API key lives for 365 days. -/
theorem apiKey_lifetime (now : Nat) (jti userId : String) (wallet : Option String)
    (permissions : List String) :
    (TokenType.apiKey.claims now jti userId wallet permissions).exp -
        (TokenType.apiKey.claims now jti userId wallet permissions).iat = 365 * 86400 := by
  rw [TokenType.claims_exp]
  simp [TokenType.claims, TokenType.lifetimeSecs]

theorem noEscalation_refreshToken_iff (state : MintingState) (redisFault : Option String)
    (metadata : Option AuthMetadata) (jti : String) (headers : AuthHeaders) (presented : String) :
    state.NoEscalation jwt isAlphanumeric
        (.refreshToken redisFault metadata jti headers presented) ↔
      state.StaysWithin jwt isAlphanumeric
        (.refreshToken redisFault metadata jti headers presented) := by
  constructor
  · intro safe allowed claims token accepts encoded
    refine (safe _ ⟨token, .access, _⟩ (refreshToken_eq_ok_iff.mpr
      ⟨allowed, claims, accepts, issueToken_eq_ok_iff.mpr ⟨encoded, rfl, rfl⟩, rfl⟩)).1
  · intro within response issued answered
    obtain ⟨allowed, claims, accepts, minted, -⟩ := refreshToken_eq_ok_iff.mp answered
    obtain ⟨encoded, -, claims_eq⟩ := issueToken_eq_ok_iff.mp minted
    refine ⟨within allowed claims issued.token accepts encoded, ?_⟩
    intro found accepts'
    rw [accepts.unique accepts', claims_eq]
    exact contained_refl claims.permissions

theorem noEscalation_createApiKey_iff (state : MintingState) (redisFault : Option String)
    (metadata : Option AuthMetadata) (jti : String) (headers : AuthHeaders)
    (req : CreateApiKeyRequest) :
    state.NoEscalation jwt isAlphanumeric
        (.createApiKey redisFault metadata jti headers req) ↔
      state.StaysWithin jwt isAlphanumeric
        (.createApiKey redisFault metadata jti headers req) := by
  constructor
  · intro safe allowed days claims token valid authenticates encoded
    have minted := safe _ ⟨token, .apiKey, _⟩ (createApiKey_eq_ok_iff.mpr
      ⟨allowed, days, claims, valid, authenticates,
        issueToken_eq_ok_iff.mpr ⟨encoded, rfl, rfl⟩, rfl⟩)
    refine ⟨(contained_apiKey_iff _ _).mp (minted.1 claims authenticates), ?_⟩
    have lifetime : 365 * 86400 = days * 86400 := by
      rw [← minted.2]
      exact (apiKey_lifetime _ _ _ _ _).symm
    rw [← validated_days isAlphanumeric valid]
    omega
  · intro within response issued answered
    obtain ⟨allowed, days, claims, valid, authenticates, minted, rfl⟩ :=
      createApiKey_eq_ok_iff.mp answered
    obtain ⟨encoded, -, claims_eq⟩ := issueToken_eq_ok_iff.mp minted
    obtain ⟨contained, days_eq⟩ :=
      within allowed days claims issued.token valid authenticates encoded
    constructor
    · intro found authenticates'
      rw [authenticates.unique authenticates', claims_eq]
      exact (contained_apiKey_iff _ _).mpr contained
    · rw [claims_eq, apiKey_lifetime, validated_days isAlphanumeric valid, days_eq]

/-- No request of a chain escalates anything exactly when the clients stay within what they
have. -/
theorem everyStep_noEscalation_iff (state : MintingState) (ops : List MintingOp) :
    EveryStep (apply jwt crates isAlphanumeric) (NoEscalation jwt isAlphanumeric) state ops ↔
      EveryStep (apply jwt crates isAlphanumeric) (StaysWithin jwt isAlphanumeric) state ops := by
  have agree : ∀ state op, True →
      (NoEscalation jwt isAlphanumeric state op ↔ StaysWithin jwt isAlphanumeric state op) := by
    intro state op _
    cases op with
    | walletLogin => exact Iff.rfl
    | refreshToken redisFault metadata jti headers presented =>
        exact noEscalation_refreshToken_iff jwt isAlphanumeric state _ _ _ _ _
    | createApiKey redisFault metadata jti headers req =>
        exact noEscalation_createApiKey_iff jwt isAlphanumeric state _ _ _ _ _
    | logout => exact Iff.rfl
    | pass => exact Iff.rfl
  exact everyStep_congr (fun _ _ _ => trivial) agree trivial ops

end

/-! ## Three escalations -/

section

open ReferenceJwt

/-- The tokens of the reference wallet. -/
def tokens : List Entry := [accessEntry, refreshEntry, apiKeyEntry]

/-- A gateway that has issued nothing yet. -/
def fresh : MintingState where
  service := AuthService.new config
  redis := { keys := fun _ => none }
  now := issuedAt
  issued := []

/-- The login of the reference wallet. -/
def loginOp : MintingOp := .walletLogin none accessJti refreshJti plainHeaders login

/-- Headers that carry the access token. -/
def accessHeaders : AuthHeaders where
  xForwardedFor := none
  authorization := some ("Bearer " ++ accessToken)

/-- The gateway after the login. -/
def loggedIn : MintingState := apply (jwt tokens) crates Char.isAlphanum fresh loginOp

theorem loggedIn_eq : loggedIn =
    { fresh with
      issued :=
        [⟨write tokens secret accessEntry.claims, .access, accessEntry.claims⟩,
          ⟨write tokens secret refreshEntry.claims, .refresh, refreshEntry.claims⟩] } := by
  have answered := walletLogin_eq_ok_iff.mpr
    ⟨(rfl : checkRateLimit none RATE_LIMIT_LOGIN (extractClientIp plainHeaders) = .ok ()),
      verify_login, walletAddress, _, _, rfl,
      issueToken_jwt tokens fresh.service fresh.now accessJti walletAddress .access
        (some walletAddress) defaultPermissions,
      issueToken_jwt tokens fresh.service fresh.now refreshJti walletAddress .refresh
        (some walletAddress) defaultPermissions, rfl, rfl⟩
  rw [loggedIn, loginOp, apply, answered]
  rfl

theorem access_accepted (redisFault : Option String) : loggedIn.service.Accepts (jwt tokens)
    loggedIn.redis redisFault loggedIn.now accessToken accessEntry.claims := by
  rw [loggedIn_eq]
  have text_eq : write tokens secret accessEntry.claims = accessToken :=
    write_first _ accessEntry_text
  refine AuthService.accepts_of_encode (jwt_documented tokens) (congrArg Except.ok text_eq) ?_ ?_ ?_
  · rw [accessEntry, TokenType.claims_exp]
    simp only [fresh]
    omega
  · exact Finset.notMem_empty _
  · rintro ⟨attached, -⟩
    cases attached

/-- The refresh token of the login has another text than the access token. -/
theorem access_not_refresh : ¬ loggedIn.IssuedAsRefresh accessToken := by
  rintro ⟨issued, member, text_eq, type_eq⟩
  rw [loggedIn_eq] at member
  obtain rfl | rfl : _ ∨ _ := by simpa using member
  · cases type_eq
  · dsimp only at text_eq
    have access_read := read_first [refreshEntry, apiKeyEntry] accessEntry_text
    have refresh_read := read_write tokens secret refreshEntry.claims
    rw [text_eq] at refresh_read
    have same := congrArg (fun read => read.map fun token => token.2.jti)
      (access_read.symm.trans refresh_read)
    exact absurd same (by decide)

/-- An access token obtains an API key for everything, an API key for a day that lives for a year,
and an access token that is fresh again. -/
theorem escalation_with_access_token :
    ¬ EveryStep (apply (jwt tokens) crates Char.isAlphanum)
        (NoEscalation (jwt tokens) Char.isAlphanum) fresh
        [loginOp,
          .createApiKey none none apiKeyJti accessHeaders
            { name := "ci", permissions := ["*"], expiresInDays := none }] ∧
      ¬ EveryStep (apply (jwt tokens) crates Char.isAlphanum)
        (NoEscalation (jwt tokens) Char.isAlphanum) fresh
        [loginOp,
          .createApiKey none none apiKeyJti accessHeaders
            { name := "ci", permissions := [], expiresInDays := some 1 }] ∧
        ¬ EveryStep (apply (jwt tokens) crates Char.isAlphanum)
          (NoEscalation (jwt tokens) Char.isAlphanum) fresh
          [loginOp, .refreshToken none none apiKeyJti plainHeaders accessToken] := by
  have authenticates : Authenticates (jwt tokens) loggedIn.service loggedIn.redis none loggedIn.now
      accessHeaders accessEntry.claims := ⟨accessToken, rfl, access_accepted none⟩
  refine ⟨?_, ?_, ?_⟩
  · rintro ⟨-, safe, -⟩
    have within := (noEscalation_createApiKey_iff _ _ _ _ _ _ _ _).mp safe rfl 365 _ _ (by decide)
      authenticates rfl
    exact absurd within.1 (by simp [Contained, accessEntry, TokenType.claims, loginPermissions])
  · rintro ⟨-, safe, -⟩
    have within := (noEscalation_createApiKey_iff _ _ _ _ _ _ _ _).mp safe rfl 1 _ _ (by decide)
      authenticates rfl
    exact absurd within.2 (by decide)
  · rintro ⟨-, safe, -⟩
    exact access_not_refresh ((noEscalation_refreshToken_iff _ _ _ _ _ _ _ _).mp safe rfl _ _
      (access_accepted none) rfl)

end

end MintingState

end CyxCloud.Gateway
