import CyxCloud.Gateway.ReferenceJwt
import CyxCloud.Library.Runs

/-!
# Challenges and the logins that answer them

Runs of challenge and login requests by any clients.  The gateway keeps nothing of a challenge; the
record of challenges and of the messages used is the observer's.
-/

namespace CyxCloud.Gateway

open CyxCloud.Core hiding Chunk
open Library

/-- The service and the clock, with a record of the challenges issued and of the messages with which
logins have succeeded. -/
structure ChallengeState where
  service : AuthService
  now : Nat
  challenges : List ChallengeResponse
  used : List String

/-- A request of any client, with what the environment answers to it, or time passing. -/
inductive ChallengeOp where
  | getChallenge (metadata : Option AuthMetadata) (uuid : String) (headers : AuthHeaders)
  | walletLogin (metadata : Option AuthMetadata) (accessJti refreshJti : String)
      (headers : AuthHeaders) (req : WalletLoginRequest)
  | pass (milliseconds : Nat)

namespace ChallengeState

section

variable {ν : Type} (jwt : JwtLibrary) (crates : WalletCrates ν)

/-- The state after a request. -/
def apply (state : ChallengeState) : ChallengeOp → ChallengeState
  | .getChallenge metadata uuid headers =>
      match Gateway.getChallenge metadata state.now uuid headers with
      | .error _ => state
      | .ok challenge => { state with challenges := challenge :: state.challenges }
  | .walletLogin metadata accessJti refreshJti headers req =>
      match Gateway.walletLogin jwt crates state.service metadata state.now accessJti refreshJti
          headers req with
      | .error _ => state
      | .ok _ => { state with used := req.message :: state.used }
  | .pass milliseconds => { state with now := state.now + milliseconds }

/-- A message is a challenge that has not expired and that no login has used. -/
def Fresh (state : ChallengeState) (message : String) : Prop :=
  (∃ challenge ∈ state.challenges,
      challenge.message = message ∧ unixTimestamp state.now ≤ challenge.expiresAt) ∧
    message ∉ state.used

/-- A login that succeeds is with a fresh challenge. -/
def LoginsAreFresh (state : ChallengeState) : ChallengeOp → Prop
  | .walletLogin metadata accessJti refreshJti headers req =>
      ∀ response issued,
        Gateway.walletLogin jwt crates state.service metadata state.now accessJti refreshJti headers
            req = .ok (response, issued) →
          state.Fresh req.message
  | _ => True

/-- A client that the rate limit lets through, that has a user and for whom tokens can be issued
presents a valid signature for nothing but a fresh challenge. -/
def PresentsFresh (state : ChallengeState) : ChallengeOp → Prop
  | .walletLogin metadata accessJti refreshJti headers req =>
      checkRateLimit metadata RATE_LIMIT_LOGIN (extractClientIp headers) = .ok () →
        verifyWalletSignature crates req.walletAddress (asBytes req.message) req.signature =
            .ok true →
          ∀ userId access refresh, loginUser metadata req.walletAddress = .ok userId →
            jwt.encode state.service.config.jwtSecret
                (TokenType.access.claims state.now accessJti userId (some req.walletAddress)
                  defaultPermissions) = .ok access →
              jwt.encode state.service.config.jwtSecret
                  (TokenType.refresh.claims state.now refreshJti userId (some req.walletAddress)
                    defaultPermissions) = .ok refresh →
                state.Fresh req.message
  | _ => True

theorem loginsAreFresh_iff (state : ChallengeState) (op : ChallengeOp) :
    state.LoginsAreFresh jwt crates op ↔ state.PresentsFresh jwt crates op := by
  cases op with
  | getChallenge => exact Iff.rfl
  | walletLogin metadata accessJti refreshJti headers req =>
      constructor
      · intro fresh allowed verified userId access refresh user access_encoded refresh_encoded
        exact fresh _ _ (walletLogin_eq_ok_iff.mpr ⟨allowed, verified, userId,
          ⟨access, .access, _⟩, ⟨refresh, .refresh, _⟩, user,
          issueToken_eq_ok_iff.mpr ⟨access_encoded, rfl, rfl⟩,
          issueToken_eq_ok_iff.mpr ⟨refresh_encoded, rfl, rfl⟩, rfl, rfl⟩)
      · intro presents response issued answered
        obtain ⟨allowed, verified, userId, access, refresh, user, access_issued, refresh_issued,
          -, -⟩ := walletLogin_eq_ok_iff.mp answered
        exact presents allowed verified userId access.token refresh.token user
          (issueToken_eq_ok_iff.mp access_issued).1 (issueToken_eq_ok_iff.mp refresh_issued).1
  | pass => exact Iff.rfl

/-- The logins of a run succeed with fresh challenges alone exactly when the clients present valid
signatures for no other messages. -/
theorem everyStep_loginsAreFresh_iff (state : ChallengeState) (ops : List ChallengeOp) :
    EveryStep (apply jwt crates) (LoginsAreFresh jwt crates) state ops ↔
      EveryStep (apply jwt crates) (PresentsFresh jwt crates) state ops := by
  have agree : ∀ state op, True →
      (LoginsAreFresh jwt crates state op ↔ PresentsFresh jwt crates state op) :=
    fun state op _ => loginsAreFresh_iff jwt crates state op
  exact everyStep_congr (fun _ _ _ => trivial) agree trivial ops

end

/-! ## A replay and a late login -/

section

open ReferenceJwt

/-- A gateway that has issued no challenge yet. -/
def quiet : ChallengeState where
  service := AuthService.new config
  now := issuedAt
  challenges := []
  used := []

/-- The login of the reference wallet. -/
def login : ChallengeOp := .walletLogin none accessJti refreshJti plainHeaders ReferenceJwt.login

/-- The challenge that the reference wallet has signed. -/
def challenge : ChallengeOp := .getChallenge none nonce plainHeaders

/-- The login with the one signature of the wallet succeeds in any state of the service. -/
theorem login_succeeds (entries : List Entry) (service : AuthService) (now : Nat) :
    ∃ answer, walletLogin (jwt entries) crates service none now accessJti refreshJti plainHeaders
      ReferenceJwt.login = .ok answer :=
  ⟨_, walletLogin_eq_ok_iff.mpr
    ⟨(rfl : checkRateLimit none RATE_LIMIT_LOGIN (extractClientIp plainHeaders) = .ok ()),
      verify_login, walletAddress, _, _, rfl,
      issueToken_jwt entries service now accessJti walletAddress .access (some walletAddress)
        defaultPermissions,
      issueToken_jwt entries service now refreshJti walletAddress .refresh (some walletAddress)
        defaultPermissions, rfl, rfl⟩⟩

theorem fresh_of_login {entries : List Entry} {state : ChallengeState}
    (safe : state.LoginsAreFresh (jwt entries) crates login) : state.Fresh message := by
  obtain ⟨⟨response, issued⟩, answered⟩ := login_succeeds entries state.service state.now
  exact safe response issued answered

theorem used_apply_login (entries : List Entry) (state : ChallengeState) :
    (state.apply (jwt entries) crates login).used = message :: state.used := by
  obtain ⟨answer, answered⟩ := login_succeeds entries state.service state.now
  rw [login, apply, answered]
  rfl

theorem apply_challenge (entries : List Entry) :
    quiet.apply (jwt entries) crates challenge =
      { quiet with challenges := [⟨nonce, message, unixTimestamp issuedAt + 300⟩] } := rfl

/-- The same login succeeds twice, and it succeeds after the challenge has expired. -/
theorem replayed_and_late_login_succeed :
    ¬ EveryStep (apply (jwt [accessEntry, refreshEntry]) crates)
        (LoginsAreFresh (jwt [accessEntry, refreshEntry]) crates) quiet
        [challenge, login, login] ∧
      ¬ EveryStep (apply (jwt [accessEntry, refreshEntry]) crates)
        (LoginsAreFresh (jwt [accessEntry, refreshEntry]) crates) quiet
        [challenge, .pass 301000, login] := by
  constructor
  · rintro ⟨-, -, safe, -⟩
    have unused := (fresh_of_login safe).2
    rw [used_apply_login] at unused
    exact unused List.mem_cons_self
  · rintro ⟨-, -, safe, -⟩
    obtain ⟨known, member, -, unexpired⟩ := (fresh_of_login safe).1
    rw [apply_challenge] at member unexpired
    have only : known = ⟨nonce, message, unixTimestamp issuedAt + 300⟩ := by
      simpa [apply] using member
    have expired : unixTimestamp (issuedAt + 301000) ≤ unixTimestamp issuedAt + 300 := by
      simpa [apply, quiet, only] using unexpired
    simp only [unixTimestamp] at expired
    omega

end

end ChallengeState

end CyxCloud.Gateway
