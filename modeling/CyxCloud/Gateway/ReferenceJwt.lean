import CyxCloud.Gateway.AuthApi
import CyxCloud.Gateway.ReferenceCodec

/-!
# Reference tokens

Tokens of one wallet in the texts that HS256 under one secret gives.  Other tokens are written as
rows of zeros, which no token is, so that the assumption on the crate holds of every token.
-/

namespace CyxCloud.Gateway

open CyxCloud.Core hiding Chunk

deriving instance Encodable for Claims

namespace ReferenceJwt

/-! ## The crate on a table of tokens -/

/-- A token: the secret that signs it, what it says, and its text. -/
structure Entry where
  secret : Bytes
  claims : Claims
  text : String

/-- A row of zeros. -/
def zeros (length : Nat) : String := String.ofList (List.replicate length '0')

theorem length_zeros (length : Nat) : (zeros length).length = length := by
  simp [zeros]

variable (entries : List Entry)

/-- What a text was made from. -/
def read (text : String) : Option (Bytes × Claims) :=
  if text = zeros text.length then
    Encodable.decode text.length
  else
    (entries.find? fun entry => entry.text = text).map fun entry => (entry.secret, entry.claims)

/-- The text of a token: that of the table where it is read back, a row of zeros elsewhere. -/
def write (secret : Bytes) (claims : Claims) : String :=
  match entries.find? fun entry => entry.secret = secret ∧ entry.claims = claims with
  | some entry =>
      if read entries entry.text = some (secret, claims) then
        entry.text
      else
        zeros (Encodable.encode (secret, claims))
  | none => zeros (Encodable.encode (secret, claims))

/-- The crate: a token is decoded with the secret that signed it. -/
def jwt : JwtLibrary where
  encode secret claims := .ok (write entries secret claims)
  decode secret validation now text :=
    match read entries text with
    | some (signedWith, claims) =>
        if signedWith ≠ secret then
          .error (.other "InvalidSignature")
        else if claims.exp + validation.leeway < now then
          .error .expiredSignature
        else
          .ok claims
    | none => .error (.other "InvalidToken")

theorem read_zeros (secret : Bytes) (claims : Claims) :
    read entries (zeros (Encodable.encode (secret, claims))) = some (secret, claims) := by
  rw [read, length_zeros, if_pos rfl, Encodable.encodek]

theorem read_write (secret : Bytes) (claims : Claims) :
    read entries (write entries secret claims) = some (secret, claims) := by
  unfold write
  split
  · split
    · assumption
    · exact read_zeros entries secret claims
  · exact read_zeros entries secret claims

theorem jwt_documented : (jwt entries).Documented := by
  intro secret claims token encoded validation now
  have token_eq : write entries secret claims = token := Except.ok.inj encoded
  simp only [jwt, ← token_eq, read_write, ne_eq, not_true_eq_false, if_false]

theorem issueToken_jwt (service : AuthService) (now : Nat) (jti userId : String)
    (tokenType : TokenType) (wallet : Option String) (permissions : List String) :
    issueToken (jwt entries) service now jti userId tokenType wallet permissions =
      .ok
        ⟨write entries service.config.jwtSecret
            (tokenType.claims now jti userId wallet permissions),
          tokenType, tokenType.claims now jti userId wallet permissions⟩ := rfl

/-! ## The tokens -/

/-- The secret of the gateway. -/
def secret : Bytes := "reference-secret-of-thirty-two-b".toUTF8.data.toList

/-- The address of the wallet. -/
def walletAddress : String := "AKnL4NNf3DGWZJS6cPknBuEGnVsV4A4m5tgebLHaRSZ9"

/-- The configuration of the gateway. -/
def config : AuthConfig where
  jwtSecret := secret
  issuer := "cyxcloud-gateway"
  acceptedIssuers := ["cyxwiz-api"]
  skipIssuerValidation := false

/-- The moment at which the tokens are issued. -/
def issuedAt : Nat := 1700000000000

/-- Permissions of a login. -/
def loginPermissions : List String := ["storage:read", "storage:write", "dataset:read"]

/-- The header of every token. -/
def jwtHeader : String := "eyJ0eXAiOiJKV1QiLCJhbGciOiJIUzI1NiJ9"

/-- Identifier of the access token. -/
def accessJti : String := "0a6d2c11-9b7e-4e0a-8c55-1f2e3d4c5b6a"

/-- Identifier of the refresh token. -/
def refreshJti : String := "1b7e3d22-8c6f-4f1b-9d66-2a3f4e5d6c7b"

/-- Identifier of the API key. -/
def apiKeyJti : String := "4ea16055-5f32-4c4e-8a99-5d6271809fae"

/-- The access token. -/
def accessToken : String :=
  jwtHeader ++
    (".eyJzdWIiOiJBS25MNE5OZjNER1daSlM2Y1BrbkJ1RUduVnNWNEE0bTV0Z2ViTEhhUlNaOSIsImV4cCI6MTcwMDAwM" ++
      "zYwMCwiaWF0IjoxNzAwMDAwMDAwLCJuYmYiOjE3MDAwMDAwMDAsImp0aSI6IjBhNmQyYzExLTliN2UtNGUwYS04YzU" ++
      "1LTFmMmUzZDRjNWI2YSIsInVzZXJfdHlwZSI6InVzZXIiLCJ3YWxsZXQiOiJBS25MNE5OZjNER1daSlM2Y1BrbkJ1R" ++
      "UduVnNWNEE0bTV0Z2ViTEhhUlNaOSIsInBlcm1pc3Npb25zIjpbInN0b3JhZ2U6cmVhZCIsInN0b3JhZ2U6d3JpdGU" ++
      "iLCJkYXRhc2V0OnJlYWQiXX0.") ++
    "i1j_VCiH9tTYDSWahp0uLOewJ8LbrLiR-D6u8NhjbFs"

/-- The refresh token. -/
def refreshToken : String :=
  jwtHeader ++
    (".eyJzdWIiOiJBS25MNE5OZjNER1daSlM2Y1BrbkJ1RUduVnNWNEE0bTV0Z2ViTEhhUlNaOSIsImV4cCI6MTcwMDYwN" ++
      "DgwMCwiaWF0IjoxNzAwMDAwMDAwLCJuYmYiOjE3MDAwMDAwMDAsImp0aSI6IjFiN2UzZDIyLThjNmYtNGYxYi05ZDY" ++
      "2LTJhM2Y0ZTVkNmM3YiIsInVzZXJfdHlwZSI6InVzZXIiLCJ3YWxsZXQiOiJBS25MNE5OZjNER1daSlM2Y1BrbkJ1R" ++
      "UduVnNWNEE0bTV0Z2ViTEhhUlNaOSIsInBlcm1pc3Npb25zIjpbInN0b3JhZ2U6cmVhZCIsInN0b3JhZ2U6d3JpdGU" ++
      "iLCJkYXRhc2V0OnJlYWQiXX0.") ++
    "TM0GDucHKtpopJ6v9tcnW30nzzO_TEpOfBjwwt6RtQ8"

/-- The API key. -/
def apiKeyToken : String :=
  jwtHeader ++
    (".eyJzdWIiOiJBS25MNE5OZjNER1daSlM2Y1BrbkJ1RUduVnNWNEE0bTV0Z2ViTEhhUlNaOSIsImV4cCI6MTczMTUzN" ++
      "jAwMCwiaWF0IjoxNzAwMDAwMDAwLCJuYmYiOjE3MDAwMDAwMDAsImp0aSI6IjRlYTE2MDU1LTVmMzItNGM0ZS04YTk" ++
      "5LTVkNjI3MTgwOWZhZSIsInVzZXJfdHlwZSI6ImFwaV9rZXkiLCJ3YWxsZXQiOiJBS25MNE5OZjNER1daSlM2Y1Brb" ++
      "kJ1RUduVnNWNEE0bTV0Z2ViTEhhUlNaOSIsInBlcm1pc3Npb25zIjpbIioiXX0.") ++
    "3TkrRhAupBkp--cpG20EyoPaKwhrlUeeOieuttURAQ0"

/-- The access token with what it says. -/
def accessEntry : Entry where
  secret := secret
  claims := TokenType.access.claims issuedAt accessJti walletAddress (some walletAddress)
    loginPermissions
  text := accessToken

/-- The refresh token with what it says. -/
def refreshEntry : Entry where
  secret := secret
  claims := TokenType.refresh.claims issuedAt refreshJti walletAddress (some walletAddress)
    loginPermissions
  text := refreshToken

/-- The API key with what it says. -/
def apiKeyEntry : Entry where
  secret := secret
  claims := TokenType.apiKey.claims issuedAt apiKeyJti walletAddress (some walletAddress) ["*"]
  text := apiKeyToken

/-- No text after the header is a row of zeros. -/
theorem header_ne_zeros (rest : String) (length : Nat) : jwtHeader ++ rest ≠ zeros length := by
  intro same
  have letters := congrArg String.toList same
  rw [String.toList_append, zeros, String.toList_ofList] at letters
  have first := List.eq_of_mem_replicate
    (letters ▸ List.mem_append_left _ (by decide : 'e' ∈ jwtHeader.toList))
  exact absurd first (by decide)

theorem accessEntry_text : ∃ rest, accessEntry.text = jwtHeader ++ rest :=
  ⟨_, String.append_assoc⟩

theorem apiKeyEntry_text : ∃ rest, apiKeyEntry.text = jwtHeader ++ rest :=
  ⟨_, String.append_assoc⟩

/-- The first token of a table is read back from its text. -/
theorem read_first {entry : Entry} (headed : ∃ rest, entry.text = jwtHeader ++ rest) :
    read (entry :: entries) entry.text = some (entry.secret, entry.claims) := by
  obtain ⟨rest, text_eq⟩ := headed
  rw [read, if_neg (text_eq ▸ header_ne_zeros rest _)]
  simp

/-- The first token of a table has its text. -/
theorem write_first {entry : Entry} (headed : ∃ rest, entry.text = jwtHeader ++ rest) :
    write (entry :: entries) entry.secret entry.claims = entry.text := by
  simp [write, read_first entries headed]

theorem encode_apiKey : (jwt [apiKeyEntry]).encode config.jwtSecret apiKeyEntry.claims =
    .ok apiKeyToken :=
  congrArg Except.ok (write_first [] apiKeyEntry_text)

/-! ## The wallet -/

/-- The public key of the wallet. -/
def publicKey : Bytes :=
  [138, 136, 227, 221, 116, 9, 241, 149, 253, 82, 219, 45, 60, 186, 93, 114, 202, 103, 9, 191,
  29, 148, 18, 27, 243, 116, 136, 1, 180, 15, 111, 92]

/-- Nonce of the challenge that the wallet has signed. -/
def nonce : String := "6f1c1c4e-7a55-4d0b-9f3e-2b1d5c8a9e01"

/-- The challenge that the wallet has signed. -/
def message : String := (generateChallenge issuedAt nonce).2

/-- The signature of the challenge. -/
def signature : String :=
  "67ms8U1NHzss5qJgCarQjRmwRko8CWFjC6rCVZ3owQnoXncBUm8vnBGTZjJUK83WuoWZn18SyiWwPJSracJ933qh"

/-- The bytes of the signature. -/
def signatureBytes : Bytes :=
  [255, 237, 28, 199, 1, 84, 99, 15, 197, 87, 229, 100, 178, 176, 62, 118, 121, 238, 37, 2, 237,
  101, 90, 199, 185, 173, 215, 135, 37, 253, 163, 77, 196, 245, 246, 191, 181, 55, 232, 161,
  212, 149, 222, 241, 46, 170, 201, 39, 106, 180, 29, 16, 104, 188, 128, 25, 128, 149, 176, 162,
  204, 47, 22, 0]

/-- The crates on the one signature that the wallet has made. -/
def crates : WalletCrates Bytes where
  bs58Decode text :=
    if text = walletAddress then some publicKey
    else if text = signature then some signatureBytes
    else none
  keyFromBytes bytes := some bytes
  verify key signed bytes :=
    decide (key = publicKey ∧ signed = asBytes message ∧ bytes = signatureBytes)

/-- The login of the wallet. -/
def login : WalletLoginRequest where
  walletAddress := walletAddress
  message := message
  signature := signature

/-- Headers of a request without a token. -/
def plainHeaders : AuthHeaders where
  xForwardedFor := none
  authorization := none

theorem verify_login : verifyWalletSignature crates login.walletAddress (asBytes login.message)
    login.signature = .ok true := by
  have other : signature ≠ walletAddress := by decide
  have address_eq : crates.bs58Decode login.walletAddress = some publicKey := by
    simp [crates, login]
  have signature_eq : crates.bs58Decode login.signature = some signatureBytes := by
    simp [crates, login, other]
  have key_length : publicKey.length = 32 := rfl
  have signature_length : signatureBytes.length = 64 := rfl
  have genuine : crates.verify publicKey (asBytes login.message) signatureBytes = true := by
    simp [crates, login]
  have key_eq : crates.keyFromBytes publicKey = some publicKey := rfl
  simp [verifyWalletSignature, address_eq, signature_eq, key_length, signature_length, key_eq,
    genuine]

end ReferenceJwt

end CyxCloud.Gateway
