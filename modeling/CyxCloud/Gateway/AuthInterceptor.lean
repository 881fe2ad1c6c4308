import CyxCloud.Gateway.Auth
import CyxCloud.Gateway.S3Api
import Mathlib.Data.List.Infix

/-!
# The gate of the gRPC services

`AuthInterceptor` of `cyxcloud-gateway/src/grpc_api.rs`.  It sees the metadata of a call, all of
which the client chooses, and not the path of the procedure that is called.
-/

namespace CyxCloud.Gateway

open CyxCloud.Core hiding Chunk
open AuthService (Accepts validateToken_eq_ok_iff)

/-- Failures of a call. -/
inductive CallStatus where
  | unauthenticated (message : String)
  | internal (message : String)
  deriving DecidableEq, Repr

/-- A call whose message is not read yet. -/
structure GrpcCall where
  /-- The procedure that is called. -/
  path : String
  /-- The first value under each key. -/
  metadata : String → Option Bytes
  /-- The claims among the extensions. -/
  claims : Option Claims

/-- The text of a metadata value, if all of its bytes are visible or blank. -/
def metadataText (value : Bytes) : Option String :=
  let text := String.ofList (value.map fun byte => Char.ofNat byte.toNat)
  if isHeaderText text then some text else none

/-- What a call meets with: a current runtime, and Redis. -/
structure CallEnv where
  runtime : Bool
  redis : Redis
  fault : Option String
  now : Nat

/-- The interceptor, with the methods that skip authentication. -/
structure AuthInterceptor where
  auth : AuthService
  skipMethods : List String

namespace AuthInterceptor

/-- A new interceptor lets nodes register. -/
def new (auth : AuthService) : AuthInterceptor :=
  { auth
    skipMethods := ["/cyxcloud.node.NodeService/RegisterNode"] }

/-- Add a method to skip authentication for. -/
def skipMethod (interceptor : AuthInterceptor) (method : String) : AuthInterceptor :=
  { interceptor with skipMethods := interceptor.skipMethods ++ [method] }

/-- Validate a token where a runtime is current. -/
def validateTokenSync (jwt : JwtLibrary) (env : CallEnv) (token : String) (auth : AuthService) :
    AuthService × Except CallStatus Claims :=
  if !env.runtime then
    (auth, .error (.internal "No Tokio runtime available"))
  else
    let (auth, validated) := auth.validateToken jwt env.redis env.fault env.now token
    (auth, validated.mapError fun cause =>
      .unauthenticated ("Invalid token: " ++ cause.display))

/-- The method that the client names, the empty one if it names none in text. -/
def methodName (request : GrpcCall) : String :=
  ((request.metadata "grpc-method").bind metadataText).getD ""

/-- The token behind the word `Bearer`. -/
def bearer (value : Bytes) : Option String :=
  (metadataText value).bind fun text =>
    (text.toList.dropPrefix? "Bearer ".toList).map String.ofList

/-- Check the authorization of a call, and add the claims of its token. -/
def call (jwt : JwtLibrary) (env : CallEnv) (interceptor : AuthInterceptor) (request : GrpcCall) :
    AuthInterceptor × Except CallStatus GrpcCall :=
  match request.metadata "authorization" with
  | none =>
      if interceptor.skipMethods.any fun m => m.toList <:+: (methodName request).toList then
        (interceptor, .ok request)
      else
        (interceptor, .error (.unauthenticated "Missing authorization header"))
  | some value =>
      match bearer value with
      | none =>
          (interceptor, .error (.unauthenticated
            "Invalid authorization format (expected 'Bearer <token>')"))
      | some token =>
          let (auth, validated) := validateTokenSync jwt env token interceptor.auth
          ({ interceptor with auth }, validated.map fun claims =>
            { request with claims := some claims })

end AuthInterceptor

/-! ## What passes -/

variable {jwt : JwtLibrary} {env : CallEnv} {interceptor : AuthInterceptor} {request : GrpcCall}

/-- A call carries a token that is accepted. -/
def CarriesToken (jwt : JwtLibrary) (env : CallEnv) (auth : AuthService) (request : GrpcCall)
    (claims : Claims) : Prop :=
  ∃ value token, request.metadata "authorization" = some value ∧
    metadataText value = some ("Bearer " ++ token) ∧
      Accepts jwt auth env.redis env.fault env.now token claims

/-- The method that the client names contains one that skips authentication. -/
def NamesSkipped (interceptor : AuthInterceptor) (request : GrpcCall) : Prop :=
  ∃ m ∈ interceptor.skipMethods, m.toList <:+: (AuthInterceptor.methodName request).toList

/-- A call passes only with an accepted token, or if its procedure skips authentication. -/
def Guarded (jwt : JwtLibrary) (env : CallEnv) (interceptor : AuthInterceptor)
    (request : GrpcCall) : Prop :=
  ∀ passed, (interceptor.call jwt env request).2 = .ok passed →
    (∃ claims, CarriesToken jwt env interceptor.auth request claims) ∨
      request.path ∈ interceptor.skipMethods

theorem bearer_eq_some_iff {value : Bytes} {token : String} :
    AuthInterceptor.bearer value = some token ↔
      metadataText value = some ("Bearer " ++ token) := by
  rw [AuthInterceptor.bearer, Option.bind_eq_some_iff]
  constructor
  · rintro ⟨text, read, found⟩
    obtain ⟨rest, stripped, rfl⟩ := Option.map_eq_some_iff.mp found
    obtain ⟨start, text_eq, same⟩ := List.dropPrefix?_eq_some_iff.mp stripped
    rw [eq_of_beq same] at text_eq
    have whole : text = "Bearer " ++ .ofList rest := by
      simp [← String.toList_inj, text_eq]
    rw [read, whole]
  · intro read
    refine ⟨_, read, ?_⟩
    rw [String.toList_append, List.dropPrefix?_append_of_beq _ (beq_self_eq_true _),
      Option.map_some, String.ofList_toList]

/-- Without authorization a call passes if the client names a method that is skipped. -/
theorem call_of_missing (missing : request.metadata "authorization" = none) :
    (∃ passed, (interceptor.call jwt env request).2 = .ok passed) ↔
      NamesSkipped interceptor request := by
  rw [AuthInterceptor.call, missing]
  by_cases named : interceptor.skipMethods.any fun m =>
      m.toList <:+: (AuthInterceptor.methodName request).toList
  · simp only [if_pos named]
    exact iff_of_true ⟨request, rfl⟩ (by simpa [NamesSkipped] using named)
  · simp only [if_neg named]
    exact iff_of_false (by rintro ⟨passed, ⟨⟩⟩) (by simpa [NamesSkipped] using named)

/-- A token passes where a runtime is current and it is accepted. -/
theorem validateTokenSync_eq_ok_iff {token : String} {auth : AuthService} {claims : Claims} :
    (AuthInterceptor.validateTokenSync jwt env token auth).2 = .ok claims ↔
      env.runtime = true ∧ Accepts jwt auth env.redis env.fault env.now token claims := by
  rw [AuthInterceptor.validateTokenSync, ← validateToken_eq_ok_iff]
  cases runtime : env.runtime with
  | false => simp
  | true =>
      cases validated : (auth.validateToken jwt env.redis env.fault env.now token).2 <;>
        simp [validated, Except.mapError]

/-- With authorization a call passes exactly with an accepted token, whose claims it is given. -/
theorem call_of_present {value : Bytes} (present : request.metadata "authorization" = some value)
    {passed : GrpcCall} :
    (interceptor.call jwt env request).2 = .ok passed ↔
      env.runtime = true ∧ ∃ claims, CarriesToken jwt env interceptor.auth request claims ∧
        passed = { request with claims := some claims } := by
  have carries : ∀ claims, CarriesToken jwt env interceptor.auth request claims ↔
      ∃ token, AuthInterceptor.bearer value = some token ∧
        Accepts jwt interceptor.auth env.redis env.fault env.now token claims := by
    intro claims
    simp only [CarriesToken, present, Option.some_inj, bearer_eq_some_iff]
    constructor
    · rintro ⟨_, token, rfl, carried⟩
      exact ⟨token, carried⟩
    · rintro ⟨token, carried⟩
      exact ⟨value, token, rfl, carried⟩
  simp only [AuthInterceptor.call, present, carries]
  cases read : AuthInterceptor.bearer value with
  | none => simp
  | some token =>
      simp only [Option.some_inj, exists_eq_left']
      cases validated : (AuthInterceptor.validateTokenSync jwt env token interceptor.auth).2 with
      | error cause =>
          refine iff_of_false (by simp [Except.map]) ?_
          rintro ⟨runtime, claims, accepted, -⟩
          have passed := validateTokenSync_eq_ok_iff.mpr ⟨runtime, accepted⟩
          rw [validated] at passed
          cases passed
      | ok claims =>
          obtain ⟨runtime, accepted⟩ := validateTokenSync_eq_ok_iff.mp validated
          constructor
          · intro passes
            exact ⟨runtime, claims, accepted, (Except.ok.inj passes).symm⟩
          · rintro ⟨-, claims', accepted', rfl⟩
            rw [accepted.unique accepted']
            rfl

/-- The path of a call plays no part. -/
theorem call_path (path : String) :
    interceptor.call jwt env { request with path } =
      ((interceptor.call jwt env request).1,
        (interceptor.call jwt env request).2.map fun passed => { passed with path }) := by
  cases authorization : request.metadata "authorization" with
  | none =>
      have same : AuthInterceptor.methodName { request with path } =
          AuthInterceptor.methodName request := rfl
      simp only [AuthInterceptor.call, authorization, same]
      split <;> rfl
  | some value =>
      simp only [AuthInterceptor.call, authorization]
      cases AuthInterceptor.bearer value with
      | none => rfl
      | some token =>
          cases validated : (AuthInterceptor.validateTokenSync jwt env token interceptor.auth).2 <;>
            simp [validated, Except.map]

/-- The gate holds for a call exactly if it has an authorization, or the client names no method that
is skipped, or the procedure is one. -/
theorem guarded_iff (jwt : JwtLibrary) (env : CallEnv) (interceptor : AuthInterceptor)
    (request : GrpcCall) : Guarded jwt env interceptor request ↔
      request.metadata "authorization" ≠ none ∨ ¬ NamesSkipped interceptor request ∨
        request.path ∈ interceptor.skipMethods := by
  cases authorization : request.metadata "authorization" with
  | none =>
      simp only [ne_eq, not_true_eq_false, false_or]
      constructor
      · intro guarded
        by_cases named : NamesSkipped interceptor request
        · obtain ⟨passed, passes⟩ := (call_of_missing authorization).mpr named
          rcases guarded passed passes with ⟨claims, value, token, present, -⟩ | skipped
          · rw [authorization] at present
            cases present
          · exact .inr skipped
        · exact .inl named
      · rintro (unnamed | skipped) passed passes
        · exact absurd ((call_of_missing authorization).mp ⟨passed, passes⟩) unnamed
        · exact .inr skipped
  | some value =>
      refine iff_of_true (fun passed passes => .inl ?_) (.inl (Option.some_ne_none value))
      obtain ⟨-, claims, carried, -⟩ := (call_of_present authorization).mp passes
      exact ⟨claims, carried⟩

/-! ## A claimed method -/

/-- The bytes of a text of ASCII characters. -/
def asciiBytes (text : String) : Bytes := text.toList.map fun c => UInt8.ofNat c.toNat

/-- A call without authorization that claims to register a node. -/
def claimedRegistration (path : String) : GrpcCall :=
  { path
    metadata := fun key =>
      if key = "grpc-method" then some (asciiBytes "/cyxcloud.node.NodeService/RegisterNode")
      else none
    claims := none }

theorem methodName_claimedRegistration (path : String) :
    AuthInterceptor.methodName (claimedRegistration path) =
      "/cyxcloud.node.NodeService/RegisterNode" := by
  have text : metadataText (asciiBytes "/cyxcloud.node.NodeService/RegisterNode") =
      some "/cyxcloud.node.NodeService/RegisterNode" := by decide
  rw [AuthInterceptor.methodName, claimedRegistration]
  simp [text]

/-- What claims to be a registration passes as any other procedure. -/
theorem not_guarded_claimedRegistration (jwt : JwtLibrary) (env : CallEnv) (auth : AuthService)
    {path : String} (other : path ≠ "/cyxcloud.node.NodeService/RegisterNode") :
    ¬ Guarded jwt env (.new auth) (claimedRegistration path) := by
  intro guarded
  have missing : (claimedRegistration path).metadata "authorization" = none := by
    simp [claimedRegistration]
  have named : NamesSkipped (.new auth) (claimedRegistration path) := by
    refine ⟨_, List.mem_cons_self, ?_⟩
    rw [methodName_claimedRegistration]
  obtain ⟨passed, passes⟩ := (call_of_missing missing).mpr named
  rcases guarded passed passes with ⟨claims, value, token, present, -⟩ | skipped
  · rw [missing] at present
    cases present
  · exact other (List.mem_singleton.mp skipped)

/-- The refusing crate of a gateway that issued no tokens. -/
def refusingJwt : JwtLibrary where
  encode _ _ := .error "no key"
  decode _ _ _ _ := .error (.other "no key")

/-- A client that claims to register a node may drain one. -/
theorem guarded_refuted :
    ¬ ∀ jwt env interceptor request, Guarded jwt env interceptor request := by
  intro guarded
  let auth : AuthService := .new
    { jwtSecret := []
      issuer := "cyxcloud"
      acceptedIssuers := []
      skipIssuerValidation := false }
  let env : CallEnv :=
    { runtime := true
      redis := { keys := fun _ => none }
      fault := none
      now := 0 }
  have other : "/cyxcloud.node.NodeService/DrainNode" ≠
      "/cyxcloud.node.NodeService/RegisterNode" := by decide
  exact not_guarded_claimedRegistration refusingJwt env auth other (guarded _ _ _ _)

end CyxCloud.Gateway
