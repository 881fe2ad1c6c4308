import CyxCloud.Gateway.ReferenceJwt
import CyxCloud.Library.Runs

/-!
# How long a revocation lasts

The service with its Redis server over any run of issues, validations, revocations, restarts and
passing time.
-/

namespace CyxCloud.Gateway

open CyxCloud.Core hiding Chunk
open Library

/-- The service, the Redis server that it is attached to, and the clock. -/
structure AuthDeployment where
  service : AuthService
  redis : Redis
  now : Nat

/-- What happens to a deployment. -/
inductive AuthEvent where
  | generateToken (jti userId : String) (tokenType : TokenType) (wallet : Option String)
      (permissions : List String)
  | validateToken (token : String)
  | revokeToken (jti : String)
  | restart
  | pass (milliseconds : Nat)

namespace AuthDeployment

variable (jwt : JwtLibrary)

/-- A deployment whose Redis is attached and answers. -/
def start (config : AuthConfig) (now : Nat) : AuthDeployment where
  service := (AuthService.new config).withRedis
  redis := { keys := fun _ => none }
  now := now

/-- The deployment after an event, Redis answering. -/
def apply (state : AuthDeployment) : AuthEvent → AuthDeployment
  | .generateToken .. => state
  | .validateToken token =>
      { state with
        service := (state.service.validateToken jwt state.redis none state.now token).1 }
  | .revokeToken jti =>
      let revoked := state.service.revokeToken state.redis none state.now jti
      { state with
        service := revoked.1
        redis := revoked.2 }
  -- the service is built anew from its configuration, Redis and the clock go on
  | .restart => { state with service := (AuthService.new state.service.config).withRedis }
  | .pass milliseconds => { state with now := state.now + milliseconds }

/-- The deployment that a run of events leads to. -/
def reached (config : AuthConfig) (bootedAt : Nat) (events : List AuthEvent) : AuthDeployment :=
  runAll (apply jwt) (start config bootedAt) events

/-- The event is no validation that lets a token pass. -/
def Rejects (token : String) (state : AuthDeployment) (event : AuthEvent) : Prop :=
  event = .validateToken token →
    ∀ claims,
      (state.service.validateToken jwt state.redis none state.now token).2 ≠ .ok claims

/-! ## What a run keeps -/

/-- The service of a deployment is the configured one, up to what it has revoked. -/
structure Configured (config : AuthConfig) (state : AuthDeployment) : Prop where
  sameConfig : state.service.config = config
  sameValidation : state.service.validation = (AuthService.new config).validation
  attached : state.service.redis = true

/-- A revocation made at some time is kept by Redis for the lifetime of a refresh token. -/
structure Revoked (jti : String) (revokedAt : Nat) (state : AuthDeployment) : Prop where
  past : revokedAt ≤ state.now
  kept : ∃ lapses, state.redis.keys (AuthService.revocationKey jti) = some lapses ∧
    revokedAt + TokenType.refresh.lifetimeSecs * 1000 ≤ lapses

variable {jwt} {config : AuthConfig} {state : AuthDeployment} {jti token : String}

theorem configured_start (config : AuthConfig) (now : Nat) :
    Configured config (start config now) := ⟨rfl, rfl, rfl⟩

theorem Configured.apply (configured : Configured config state) (event : AuthEvent) :
    Configured config (state.apply jwt event) := by
  cases event with
  | generateToken => exact configured
  | validateToken token =>
      obtain ⟨config_eq, validation_eq, redis_eq⟩ := AuthService.validateToken_frame jwt
        state.service state.redis none state.now token
      exact ⟨config_eq.trans configured.sameConfig,
        validation_eq.trans configured.sameValidation, redis_eq.trans configured.attached⟩
  | revokeToken jti =>
      exact ⟨configured.sameConfig, configured.sameValidation, configured.attached⟩
  | restart =>
      constructor
      · exact configured.sameConfig
      · rw [← configured.sameConfig]
        rfl
      · rfl
  | pass milliseconds =>
      exact ⟨configured.sameConfig, configured.sameValidation, configured.attached⟩

theorem configured_reached (jwt : JwtLibrary) (config : AuthConfig) (bootedAt : Nat)
    (events : List AuthEvent) : Configured config (reached jwt config bootedAt events) :=
  (everyState_of_keeps (fun _ event configured => configured.apply event)
    (configured_start config bootedAt) events).last

theorem leeway_new (config : AuthConfig) : (AuthService.new config).validation.leeway = 60 := by
  unfold AuthService.new
  dsimp only
  split <;> rfl

theorem revocationKey_injective : Function.Injective AuthService.revocationKey :=
  fun _ _ same => String.append_right_inj _ |>.mp same

/-- Just after a revocation Redis keeps it from now on. -/
theorem revoked_apply_revokeToken (jwt : JwtLibrary) (configured : Configured config state)
    (jti : String) : Revoked jti state.now (state.apply jwt (.revokeToken jti)) := by
  refine ⟨le_rfl, state.now + TokenType.refresh.lifetimeSecs * 1000, ?_, le_rfl⟩
  simp [AuthDeployment.apply, AuthService.revokeToken, configured.attached, Redis.setEx]

/-- Later events keep the revocation, a repeated one prolongs it. -/
theorem Revoked.apply {revokedAt : Nat} (configured : Configured config state)
    (revoked : Revoked jti revokedAt state) (event : AuthEvent) :
    Revoked jti revokedAt (state.apply jwt event) := by
  obtain ⟨past, lapses, kept, long⟩ := revoked
  cases event with
  | generateToken => exact ⟨past, lapses, kept, long⟩
  | validateToken token => exact ⟨past, lapses, kept, long⟩
  | revokeToken other =>
      by_cases same : jti = other
      · subst same
        refine ⟨past, state.now + TokenType.refresh.lifetimeSecs * 1000, ?_,
          Nat.add_le_add_right past _⟩
        simp [AuthDeployment.apply, AuthService.revokeToken, configured.attached, Redis.setEx]
      · refine ⟨past, lapses, ?_, long⟩
        have other_key := revocationKey_injective.ne same
        simp [AuthDeployment.apply, AuthService.revokeToken, configured.attached, Redis.setEx,
          other_key, kept]
  | restart => exact ⟨past, lapses, kept, long⟩
  | pass milliseconds => exact ⟨Nat.le_add_right_of_le past, lapses, kept, long⟩

/-- While Redis keeps the revocation of a token that it outlives, validation rejects the token. -/
theorem Revoked.rejects {revokedAt : Nat} {claims : Claims} (documented : jwt.Documented)
    (configured : Configured config state) (revoked : Revoked claims.jti revokedAt state)
    (encoded : jwt.encode config.jwtSecret claims = .ok token)
    (outlived : claims.exp + 60 < unixTimestamp revokedAt + TokenType.refresh.lifetimeSecs)
    (event : AuthEvent) : Rejects jwt token state event := by
  rintro - found passed
  obtain ⟨past, lapses, kept, long⟩ := revoked
  obtain ⟨decoded, -, unseen⟩ := AuthService.validateToken_eq_ok_iff.mp passed
  have read := documented _ _ _ encoded state.service.validation (unixTimestamp state.now)
  rw [configured.sameConfig] at decoded
  rw [decoded, configured.sameValidation, leeway_new] at read
  split at read
  · cases read
  · rename_i unexpired
    cases read
    -- the token has not expired, so the key in Redis has not lapsed
    refine unseen ⟨configured.attached, ?_⟩
    have present : state.now < lapses := by
      simp only [unixTimestamp] at outlived unexpired
      generalize TokenType.refresh.lifetimeSecs = lifetime at outlived long
      omega
    simp [Redis.keyExists, kept, present]

/-- The state in which a revocation of a token has lapsed in Redis and is forgotten in memory. -/
theorem validateToken_of_lapsed {claims : Claims} (documented : jwt.Documented)
    (configured : Configured config state)
    (encoded : jwt.encode config.jwtSecret claims = .ok token)
    (forgotten : state.service.revokedTokens = ∅) {lapses : Nat}
    (kept : state.redis.keys (AuthService.revocationKey claims.jti) = some lapses)
    (lapsed : lapses ≤ state.now) (unexpired : unixTimestamp state.now ≤ claims.exp + 60) :
    (state.service.validateToken jwt state.redis none state.now token).2 = .ok claims := by
  have same_secret : jwt.encode state.service.config.jwtSecret claims = .ok token := by
    rw [configured.sameConfig]
    exact encoded
  have leeway : state.service.validation.leeway = 60 := by
    rw [configured.sameValidation, leeway_new]
  refine AuthService.validateToken_eq_ok_iff.mpr (AuthService.accepts_of_encode documented
    same_secret (by omega) (by simp [forgotten]) ?_)
  rintro ⟨-, present⟩
  simp [Redis.keyExists, kept] at present
  omega

/-- The gateway restarts, the key in Redis lapses, and a token that has not expired by then is let
through. -/
theorem not_rejects_of_late (claims : Claims) (documented : jwt.Documented)
    (configured : Configured config state)
    (encoded : jwt.encode config.jwtSecret claims = .ok token)
    (late : unixTimestamp state.now + TokenType.refresh.lifetimeSecs ≤ claims.exp + 60) :
    ¬ EveryStep (apply jwt) (Rejects jwt token) (state.apply jwt (.revokeToken claims.jti))
      [.restart, .pass (TokenType.refresh.lifetimeSecs * 1000), .validateToken token] := by
  intro rejected
  have kept : (state.apply jwt (.revokeToken claims.jti)).redis.keys
      (AuthService.revocationKey claims.jti) =
        some (state.now + TokenType.refresh.lifetimeSecs * 1000) := by
    simp [apply, AuthService.revokeToken, configured.attached, Redis.setEx]
  refine rejected.2.2.1 rfl claims (validateToken_of_lapsed documented
    (((configured.apply _).apply _).apply _) encoded rfl kept le_rfl ?_)
  simp only [apply, unixTimestamp] at late ⊢
  omega

theorem reached_concat (config : AuthConfig) (bootedAt : Nat) (events : List AuthEvent)
    (event : AuthEvent) :
    reached jwt config bootedAt (events ++ [event]) =
      (reached jwt config bootedAt events).apply jwt event := by
  simp [reached, runAll, List.foldl_append]

/-- Over all later runs with Redis available, a revoked token is never let through again exactly
when its lifetime, counted from its issue, and the leeway of the decoder end before the lifetime of
a refresh token, counted from its revocation. -/
theorem revoked_forever_iff (documented : jwt.Documented) (config : AuthConfig) (bootedAt : Nat)
    (before : List AuthEvent) {userId : String} {tokenType : TokenType} {wallet : Option String}
    {permissions : List String}
    (issued : (reached jwt config bootedAt before).service.generateToken jwt
      (reached jwt config bootedAt before).now jti userId tokenType wallet permissions = .ok token)
    (between : List AuthEvent) :
    (∀ later, EveryStep (apply jwt) (Rejects jwt token)
        (reached jwt config bootedAt (before ++ between ++ [.revokeToken jti])) later) ↔
      unixTimestamp (reached jwt config bootedAt before).now + tokenType.lifetimeSecs + 60 <
        unixTimestamp (reached jwt config bootedAt (before ++ between)).now +
          TokenType.refresh.lifetimeSecs := by
  set claims := tokenType.claims (reached jwt config bootedAt before).now jti userId wallet
    permissions with claims_eq
  have encoded : jwt.encode config.jwtSecret claims = .ok token := by
    rw [← (configured_reached jwt config bootedAt before).sameConfig]
    exact AuthService.generateToken_eq_ok_iff.mp issued
  have exp_eq : claims.exp = unixTimestamp (reached jwt config bootedAt before).now +
      tokenType.lifetimeSecs := by
    rw [claims_eq, TokenType.claims_exp]
  have jti_eq : claims.jti = jti := rfl
  have configured := configured_reached jwt config bootedAt (before ++ between)
  rw [← exp_eq, reached_concat, ← jti_eq]
  set state := reached jwt config bootedAt (before ++ between)
  constructor
  · intro rejected
    by_contra late
    exact not_rejects_of_late claims documented configured encoded (by omega) (rejected _)
  · intro outlived later
    have keeps : ∀ reached event, Configured config reached ∧ Revoked claims.jti state.now reached →
        True → Configured config (reached.apply jwt event) ∧
          Revoked claims.jti state.now (reached.apply jwt event) :=
      fun _ event both _ => ⟨both.1.apply event, both.2.apply both.1 event⟩
    have gives : ∀ reached event, Configured config reached ∧ Revoked claims.jti state.now reached →
        True → Rejects jwt token reached event :=
      fun _ event both _ => Revoked.rejects documented both.1 both.2 encoded outlived event
    exact everyStep_of_everyStep keeps gives
      ⟨configured.apply _, revoked_apply_revokeToken jwt configured claims.jti⟩
      (everyStep_of_forall (fun _ _ _ => trivial) _)

open ReferenceJwt in
/-- An API key that is revoked in the moment of its issue. -/
theorem revoked_forever_iff_apiKey :
    (∀ later, EveryStep (apply (ReferenceJwt.jwt [apiKeyEntry]))
        (Rejects (ReferenceJwt.jwt [apiKeyEntry]) apiKeyToken)
        (reached (ReferenceJwt.jwt [apiKeyEntry]) ReferenceJwt.config issuedAt
          [.revokeToken apiKeyJti]) later) ↔
      unixTimestamp issuedAt + TokenType.apiKey.lifetimeSecs + 60 <
        unixTimestamp issuedAt + TokenType.refresh.lifetimeSecs :=
  revoked_forever_iff (jwt_documented _) ReferenceJwt.config issuedAt []
    (AuthService.generateToken_eq_ok_iff.mpr encode_apiKey) []

open ReferenceJwt in
/-- The key is let through again by a gateway that restarted, seven days after its revocation. -/
theorem apiKey_passes_after_revocation :
    ¬ EveryStep (apply (ReferenceJwt.jwt [apiKeyEntry]))
      (Rejects (ReferenceJwt.jwt [apiKeyEntry]) apiKeyToken)
      (reached (ReferenceJwt.jwt [apiKeyEntry]) ReferenceJwt.config issuedAt
        [.revokeToken apiKeyJti])
      [.restart, .pass (TokenType.refresh.lifetimeSecs * 1000), .validateToken apiKeyToken] :=
  not_rejects_of_late apiKeyEntry.claims (jwt_documented _)
    (configured_start ReferenceJwt.config issuedAt) encode_apiKey
    (by
      rw [apiKeyEntry, TokenType.claims_exp]
      simp only [start, TokenType.lifetimeSecs]
      omega)

end AuthDeployment

end CyxCloud.Gateway
