import CyxCloud.Gateway.DataAccess
import CyxCloud.Gateway.DatasetTrust
import CyxCloud.Library.Base64
import Mathlib.Logic.Equiv.List
import Mathlib.Tactic.DeriveEncodable

/-!
# A reference token

One token in the texts of JSON and base64.  Other tokens are written as rows of zeros, which no
JSON is, so that the assumptions on the external functions hold of every token.
-/

namespace CyxCloud.Gateway

open CyxCloud.Core hiding Chunk
open Library Metadata

instance encodableByte : Encodable UInt8 := .ofLeftInverse UInt8.toNat UInt8.ofNat fun _ => UInt8.ofNat_toNat

instance encodableChar : Encodable Char := .ofLeftInverse Char.toNat Char.ofNat Char.ofNat_toNat

instance encodableString : Encodable String :=
  .ofLeftInverse String.toList String.ofList fun _ => String.ofList_toList

deriving instance Encodable for TokenData
deriving instance Encodable for SignedToken

namespace OneToken

/-! ## The token -/

/-- A request of user 8 for everything that the dataset of user 7 allows. -/
def request : CreateTokenRequest :=
  { datasetId := 1
    nodeId := none
    userId := 8
    scopes := ["*"]
    ttlSeconds := none }

/-- All statements are answered. -/
def env : CreateTokenEnv :=
  { datasetQuery := true
    accessQuery := true
    tokenId := 5
    nonce := List.replicate 16 0
    insert := true }

/-- The end of the default lifetime. -/
def expiresAt : Instant := 86400 * MICROS

/-- The data of the token. -/
def data : TokenData := tokenData env request 0 expiresAt

/-- The bytes of a text. -/
def ascii (text : String) : Bytes := text.toList.map fun char => UInt8.ofNat char.toNat

theorem length_ascii (text : String) : (ascii text).length = text.length := by
  rw [ascii, List.length_map, String.length_toList]

/-- The JSON of bytes. -/
def numbersJson (bytes : Bytes) : Bytes :=
  0x5b :: ((bytes.map fun byte => ascii (toString byte.toNat)).intersperse [0x2c]).flatten ++ [0x5d]

/-- The JSON of the data. -/
def dataJson : Bytes :=
  0x7b ::
    (ascii "\"token_id\":\"00000000-0000-0000-0000-000000000005\"," ++
      ascii "\"dataset_id\":\"00000000-0000-0000-0000-000000000001\",\"node_id\":null," ++
      ascii "\"user_id\":\"00000000-0000-0000-0000-000000000008\",\"scopes\":[\"*\"]," ++
      ascii "\"expires_at\":86400,\"created_at\":0,\"nonce\":" ++
      numbersJson (List.replicate 16 0) ++ [0x7d])

/-- The key of the service. -/
def signingKey : UInt8 := 3

/-- The token. -/
def token : SignedToken :=
  { data
    signature := OneDataset.scheme.sign signingKey dataJson }

/-- The JSON of the token. -/
def tokenJson : Bytes :=
  0x7b :: (ascii "\"data\":" ++ dataJson ++ ascii ",\"signature\":" ++
    numbersJson token.signature ++ [0x7d])

/-! ## The codec -/

/-- JSON and base64 on the token. -/
def codec : TokenCodec where
  dataToVec other := if other = data then dataJson else List.replicate (Encodable.encode other) 0
  tokenToVec other :=
    if other = token then tokenJson else List.replicate (33 + Encodable.encode other) 0
  fromSlice bytes :=
    if bytes = tokenJson then some token
    else if 33 ≤ bytes.length ∧ bytes = List.replicate bytes.length 0 then
      Encodable.decode (bytes.length - 33)
    else
      none
  base64Encode := Base64.encode
  base64Decode := Base64.decode

theorem brace_ne_zeros (rest : Bytes) (length : Nat) : 0x7b :: rest ≠ List.replicate length 0 := by
  intro same
  cases length with
  | zero => cases same
  | succ length => exact absurd (List.cons.inj same).1 (by decide)

theorem codec_lawful : codec.Lawful where
  dataToVec_injective left right same := by
    simp only [codec] at same
    split at same
    · split at same
      · simp_all
      · exact absurd same (brace_ne_zeros _ _)
    · split at same
      · exact absurd same.symm (brace_ne_zeros _ _)
      · have lengths := congrArg List.length same
        rw [List.length_replicate, List.length_replicate] at lengths
        exact Encodable.encode_injective lengths
  fromSlice_tokenToVec other := by
    simp only [codec]
    by_cases reference : other = token
    · rw [if_pos reference, if_pos rfl, reference]
    · have differ : List.replicate (33 + Encodable.encode other) 0 ≠ tokenJson :=
        (brace_ne_zeros _ _).symm
      rw [if_neg reference, if_neg differ, List.length_replicate,
        if_pos ⟨Nat.le_add_right _ _, rfl⟩, Nat.add_sub_cancel_left, Encodable.encodek]
  base64_roundTrip := Base64.decode_encode

theorem length_of_fromSlice (bytes : Bytes) (read : SignedToken)
    (ok : codec.fromSlice bytes = some read) : 32 < bytes.length := by
  simp only [codec] at ok
  split at ok
  · rename_i reference
    have long : 32 < dataJson.length := by
      rw [dataJson, List.length_cons]
      simp only [List.length_append, length_ascii]
      have first : 32 < "\"token_id\":\"00000000-0000-0000-0000-000000000005\",".length := by decide
      omega
    rw [reference, tokenJson]
    simp only [List.length_cons, List.length_append]
    omega
  · split at ok
    · rename_i zeros
      omega
    · cases ok

theorem scheme_correct : OneDataset.scheme.Correct := fun _ _ => beq_self_eq_true _

end OneToken

end CyxCloud.Gateway
