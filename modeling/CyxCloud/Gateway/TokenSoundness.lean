import CyxCloud.Gateway.TokenRuns

/-!
# Verification of tokens is sound

A text verifies only as the data of a token that the service handed out, and each token handed out
verifies until its end or its revocation.  The invariant traces every signed identifier that is
recorded in the table back to a token in the history.
-/

namespace CyxCloud.Gateway

open CyxCloud.Core hiding Chunk
open Library Metadata

section Runs

variable {σ ν : Type} (blake3 : Bytes → Bytes) (scheme : SignatureScheme σ ν) (codec : TokenCodec)
  (signingKey : σ)

/-! ## Assumptions on the steps of a run -/

/-- Generated identifiers have not been used before. -/
def FreshId (state : TokenState) : TokenOp → Prop
  | .createToken env _ =>
      (∀ data ∈ state.signed, data.tokenId ≠ env.tokenId) ∧
        ∀ row ∈ state.db.dataAccessTokens, row.id ≠ env.tokenId
  | .createAccessToken env _ _ => ∀ data ∈ state.signed, data.tokenId ≠ env.tokenId
  | .wait _ | .verifyToken _ _ | .revokeToken _ _ _ _ | .revokeAccessToken _ _ _ _ => True

/-- A presented text carries no signature of the service but for data that was signed. -/
def UnforgedText (state : TokenState) (op : TokenOp) : Prop :=
  ∀ tokenQuery text token, op = .verifyToken tokenQuery text →
    SignedToken.decode codec text = some token →
      scheme.Unforged signingKey (state.signed.map codec.dataToVec) (codec.dataToVec token.data)
        token.signature

/-! ## The invariant -/

/-- A token that was handed out: its text, and its row in the table. -/
structure HandedOut (state : TokenState) (token : IssuedToken) : Prop where
  text_eq : token.response.token = (signToken scheme codec signingKey token.data).encode codec
  expires_eq : token.data.expiresAt = timestamp token.response.expiresAt
  recorded : (token.data.tokenId, token.response.expiresAt) ∈ tokenLives state.db

/-- The tokens that were handed out are in the table, and what was signed and is in the table was
handed out. -/
structure Tracked (state : TokenState) : Prop where
  unique : OneRow state.db
  handedOut : ∀ token ∈ state.issued, HandedOut scheme codec signingKey state token
  traced : ∀ data ∈ state.signed, ∀ life ∈ tokenLives state.db, life.1 = data.tokenId →
    ∃ token ∈ state.issued, token.data = data

theorem Tracked.start {db : DatasetTables} (unique : OneRow db) (now : Instant) :
    Tracked scheme codec signingKey (.start db now) :=
  { unique
    handedOut := nofun
    traced := nofun }

section Steps

variable {blake3 scheme codec signingKey} {state after : TokenState}

theorem HandedOut.mono {token : IssuedToken}
    (handedOut : HandedOut scheme codec signingKey state token)
    (kept : tokenLives state.db ⊆ tokenLives after.db) :
    HandedOut scheme codec signingKey after token :=
  { handedOut with recorded := kept handedOut.recorded }

/-- A step that issues nothing keeps the invariant. -/
theorem Tracked.of_lives_eq (tracked : Tracked scheme codec signingKey state)
    (lives_eq : tokenLives after.db = tokenLives state.db) (signed_eq : after.signed = state.signed)
    (issued_eq : after.issued = state.issued) : Tracked scheme codec signingKey after where
  unique := by
    have unique := tracked.unique
    rwa [OneRow, map_id_eq, ← lives_eq, ← map_id_eq] at unique
  handedOut token member := by
    rw [issued_eq] at member
    exact (tracked.handedOut token member).mono (by rw [lives_eq]; exact List.Subset.refl _)
  traced := by
    rw [lives_eq, signed_eq, issued_eq]
    exact tracked.traced

/-- Where a request has data signed, it is the data of its identifier. -/
theorem tokenId_of_signedBy {env : CreateTokenEnv} {request : CreateTokenRequest} {now : Instant}
    {data : TokenData} (member : data ∈ signedBy env request now) : data.tokenId = env.tokenId := by
  unfold signedBy at member
  split at member
  · cases member
  · rw [List.mem_singleton.mp member]
    rfl

/-- A request that is refused may still have had data signed, under an identifier that the table
does not have. -/
theorem Tracked.refused (tracked : Tracked scheme codec signingKey state) {env : CreateTokenEnv}
    {request : CreateTokenRequest} (fresh : FreshId state (.createToken env request)) :
    Tracked scheme codec signingKey
      { state with signed := state.signed ++ signedBy env request state.now } where
  unique := tracked.unique
  handedOut token member := (tracked.handedOut token member).mono (List.Subset.refl _)
  traced data data_mem life life_mem same := by
    rcases List.mem_append.mp data_mem with earlier | new
    · exact tracked.traced data earlier life life_mem same
    · obtain ⟨row, row_mem, rfl⟩ := mem_tokenLives.mp life_mem
      exact absurd (same.trans (tokenId_of_signedBy new)) (fresh.2 row row_mem)

/-- A token that the service hands out is tracked. -/
theorem Tracked.handOut (tracked : Tracked scheme codec signingKey state) {env : CreateTokenEnv}
    {request : CreateTokenRequest} (fresh : FreshId state (.createToken env request))
    {db : DatasetTables} {response : TokenResponse}
    (issued : ServiceIssued blake3 scheme codec signingKey env state.now state.db request db
      response) (unique : OneRow db) :
    Tracked scheme codec signingKey
      { state with
        db
        signed := state.signed ++ signedBy env request state.now
        issued := state.issued ++
          [{ response
             data := tokenData env request state.now response.expiresAt }] } := by
  have lives_eq : tokenLives db =
      tokenLives state.db ++ [(env.tokenId, response.expiresAt)] := by
    rw [issued.after_eq, tokenLives, List.map_append]
    rfl
  have signed_eq : signedBy env request state.now =
      [tokenData env request state.now response.expiresAt] := by
    rw [signedBy, issued.added]
  refine ⟨unique, ?_, ?_⟩
  · intro token member
    rcases List.mem_append.mp member with earlier | new
    · refine (tracked.handedOut token earlier).mono ?_
      rw [lives_eq]
      exact List.subset_append_left _ _
    · obtain rfl := List.mem_singleton.mp new
      refine ⟨issued.token_eq, rfl, ?_⟩
      rw [lives_eq]
      exact List.mem_append_right _ (List.mem_singleton_self _)
  · intro data data_mem life life_mem same
    rw [lives_eq] at life_mem
    rw [signed_eq] at data_mem
    rcases List.mem_append.mp data_mem with earlier | new
    · rcases List.mem_append.mp life_mem with kept | added
      · obtain ⟨token, token_mem, token_data⟩ := tracked.traced data earlier life kept same
        exact ⟨token, List.mem_append_left _ token_mem, token_data⟩
      · -- Only a clash of identifiers would give this row to data that was signed before.
        rw [List.mem_singleton.mp added] at same
        exact absurd same.symm (fresh.1 data earlier)
    · exact ⟨_, List.mem_append_right _ (List.mem_singleton_self _),
        (List.mem_singleton.mp new).symm⟩

/-- A token over gRPC gets a row that belongs to nothing that was signed. -/
theorem Tracked.handOutGrpc (tracked : Tracked scheme codec signingKey state)
    {env : CreateAccessTokenEnv} {userId : Uuid} {request : CreateAccessTokenRequest}
    (fresh : FreshId state (.createAccessToken env userId request)) {response : AccessTokenResponse}
    {expiresAt : Instant}
    (issued : GrpcIssued blake3 codec env state.now state.db userId request after.db response
      expiresAt)
    (unique : OneRow after.db) (signed_eq : after.signed = state.signed)
    (issued_eq : after.issued = state.issued) : Tracked scheme codec signingKey after := by
  obtain ⟨datasetId, nodeId, -, after_eq⟩ := issued.after_eq
  have lives_eq : tokenLives after.db = tokenLives state.db ++ [(env.tokenId, expiresAt)] := by
    rw [after_eq, tokenLives, List.map_append]
    rfl
  refine ⟨unique, ?_, ?_⟩
  · intro token member
    rw [issued_eq] at member
    refine (tracked.handedOut token member).mono ?_
    rw [lives_eq]
    exact List.subset_append_left _ _
  · intro data data_mem life life_mem same
    rw [signed_eq] at data_mem
    rw [lives_eq] at life_mem
    rw [issued_eq]
    rcases List.mem_append.mp life_mem with kept | added
    · exact tracked.traced data data_mem life kept same
    · rw [List.mem_singleton.mp added] at same
      exact absurd same.symm (fresh data data_mem)

theorem Tracked.applyTokenOp (tracked : Tracked scheme codec signingKey state) {op : TokenOp}
    (fresh : FreshId state op) :
    Tracked scheme codec signingKey (applyTokenOp blake3 scheme codec signingKey state op) := by
  have unique : OneRow (Gateway.applyTokenOp blake3 scheme codec signingKey state op).db :=
    tracked.unique.applyTokenOp op
  cases op with
  | wait elapsed => exact tracked.of_lives_eq rfl rfl rfl
  | verifyToken tokenQuery text => exact tracked
  | createToken env request =>
      rw [Gateway.applyTokenOp] at unique ⊢
      split
      · rename_i db cause outcome
        obtain rfl : db = state.db := eq_of_createToken_error outcome
        exact tracked.refused fresh
      · rename_i db response outcome
        rw [outcome] at unique
        exact tracked.handOut fresh (createToken_ok outcome) unique
  | revokeToken tokenQuery update tokenId userId =>
      refine tracked.of_lives_eq ?_ rfl rfl
      rcases revokeToken_cases tokenQuery update state.now state.db tokenId userId with
        same | ⟨-, revoked⟩
      · exact congrArg tokenLives same
      · exact (congrArg tokenLives revoked).trans (tokenLives_revokeDataAccessToken _ _ _)
  | createAccessToken env userId request =>
      rw [Gateway.applyTokenOp] at unique ⊢
      split
      · rename_i db status outcome
        have same := eq_of_createAccessToken_error outcome
        exact tracked.of_lives_eq (congrArg tokenLives same) rfl rfl
      · rename_i db response outcome
        rw [outcome] at unique
        obtain ⟨expiresAt, issued⟩ := createAccessToken_ok outcome
        exact tracked.handOutGrpc fresh issued unique rfl rfl
  | revokeAccessToken parseUuid update userId tokenId =>
      refine tracked.of_lives_eq ?_ rfl rfl
      rcases revokeAccessToken_cases parseUuid update state.now state.db userId tokenId with
        same | ⟨id, -, -, revoked⟩
      · exact congrArg tokenLives same
      · exact (congrArg tokenLives revoked).trans (tokenLives_revokeDataAccessToken _ _ _)

/-! ## What verifies -/

/-- What verifies was handed out, has not ended and is not revoked. -/
theorem Tracked.verifyToken_ok (tracked : Tracked scheme codec signingKey state)
    (injective : Function.Injective codec.dataToVec) {tokenQuery : Bool} {text : String}
    (unforged : UnforgedText scheme codec signingKey state (.verifyToken tokenQuery text))
    {data : TokenData}
    (ok : verifyToken scheme codec signingKey tokenQuery state.now state.db text = .ok data) :
    ∃ token ∈ state.issued, token.data = data ∧ state.now < token.response.expiresAt ∧
      timestamp state.now ≤ data.expiresAt ∧ ¬ Revoked state.db data.tokenId := by
  obtain ⟨token, decoded, rfl, accepted, lives, -, found⟩ := verifyToken_ok_iff.mp ok
  obtain ⟨signed, signed_mem, same⟩ :=
    List.mem_map.mp (unforged tokenQuery text token rfl decoded accepted)
  obtain rfl : signed = token.data := injective same
  obtain ⟨row, found⟩ := Option.isSome_iff_exists.mp found
  obtain ⟨row_mem, row_id, live, row_lives⟩ := getDataAccessToken_eq_some found
  obtain ⟨issued, issued_mem, issued_data⟩ := tracked.traced token.data signed_mem
    (row.id, row.expiresAt) (mem_tokenLives.mpr ⟨row, row_mem, rfl⟩) row_id
  refine ⟨issued, issued_mem, issued_data, ?_, lives, ?_⟩
  · obtain ⟨other, other_mem, other_eq⟩ :=
      mem_tokenLives.mp (tracked.handedOut issued issued_mem).recorded
    obtain ⟨other_id, other_expires⟩ := Prod.mk.inj other_eq
    have same_row : other = row := tracked.unique.eq_of_id other_mem row_mem
      (by rw [other_id, issued_data, row_id])
    rwa [← other_expires, same_row]
  · rintro ⟨other, other_mem, other_id, revoked⟩
    have same_row : other = row :=
      tracked.unique.eq_of_id other_mem row_mem (other_id.trans row_id.symm)
    rw [same_row, live] at revoked
    cases revoked

/-- What was handed out verifies until it ends or is revoked. -/
theorem Tracked.verifies (tracked : Tracked scheme codec signingKey state) (lawful : codec.Lawful)
    (correct : scheme.Correct) {token : IssuedToken} (token_mem : token ∈ state.issued)
    (lives : state.now < token.response.expiresAt)
    (live : ¬ Revoked state.db token.data.tokenId) :
    verifyToken scheme codec signingKey true state.now state.db token.response.token =
      .ok token.data := by
  have handedOut := tracked.handedOut token token_mem
  obtain ⟨row, row_mem, row_eq⟩ := mem_tokenLives.mp handedOut.recorded
  obtain ⟨row_id, row_expires⟩ := Prod.mk.inj row_eq
  have not_revoked : row.revokedAt = none := by
    by_contra revoked
    exact live ⟨row, row_mem, row_id, Option.isSome_iff_ne_none.mpr revoked⟩
  refine verifyToken_ok_iff.mpr ⟨signToken scheme codec signingKey token.data, ?_, rfl, ?_, ?_,
    rfl, ?_⟩
  · rw [handedOut.text_eq, SignedToken.decode_encode lawful]
  · exact correct.accepts_sign signingKey _
  · rw [handedOut.expires_eq]
    exact timestamp_mono lives.le
  · rw [← row_id]
    exact getDataAccessToken_isSome row_mem not_revoked (by rwa [row_expires])

end Steps

end Runs

namespace OneToken

/-- User 8 gets the token, presents it, revokes it and presents it again. -/
def ops : List TokenOp :=
  [.createToken env request, .verifyToken true response.token, .revokeToken true true 5 8,
    .verifyToken true response.token]

theorem freshIds :
    EveryStep (applyTokenOp Reference.hash OneDataset.scheme codec signingKey) FreshId
      (.start shared 0) ops :=
  ⟨⟨nofun, nofun⟩, trivial, trivial, trivial, trivial⟩

/-- The text of the token carries the signature of its data. -/
theorem unforgedText {state : TokenState} (signed : data ∈ state.signed) (tokenQuery : Bool) :
    UnforgedText OneDataset.scheme codec signingKey state
      (.verifyToken tokenQuery response.token) := by
  rintro tokenQuery text token same decoded -
  cases same
  have read : SignedToken.decode codec response.token =
      some (signToken OneDataset.scheme codec signingKey data) :=
    SignedToken.decode_encode codec_lawful _
  obtain rfl := Option.some.inj (decoded.symm.trans read)
  exact List.mem_map_of_mem signed

theorem unforgedTexts :
    EveryStep (applyTokenOp Reference.hash OneDataset.scheme codec signingKey)
      (UnforgedText OneDataset.scheme codec signingKey) (.start shared 0) ops := by
  refine ⟨nofun, ?_, nofun, ?_, trivial⟩ <;> rw [applyTokenOp_createToken]
  · exact unforgedText (List.mem_singleton_self data) true
  · exact unforgedText (List.mem_singleton_self data) true

end OneToken

end CyxCloud.Gateway
