import CyxCloud.Core.Erasure
import CyxCloud.Library.Aead

/-!
# Encryption

The keys and the encrypted containers of `cyxcloud-core/src/crypto.rs`.  The AES-256-GCM crate is
not part of the repository: it enters as an `Aead`, and the random nonces enter as arguments.
-/

namespace CyxCloud.Core

open Library

/-- Bytes of a key. -/
def KEY_SIZE : Nat := 32

/-- Bytes of a nonce. -/
def NONCE_SIZE : Nat := 12

/-- Bytes of an authentication tag. -/
def TAG_SIZE : Nat := 16

/-- Longest plaintext that the cipher takes. -/
def MAX_PLAINTEXT : Nat := 2 ^ 36

/-- The errors of the module. -/
inductive CryptoError where
  | encryption (message : String)
  | decryption (message : String)
  | invalidKeyLength (expected actual : Nat)
  deriving DecidableEq, Repr

/-- A byte string of a fixed size. -/
structure FixedBytes (size : Nat) where
  bytes : Bytes
  length_eq : bytes.length = size
  deriving DecidableEq, Repr

/-- An encryption key. -/
abbrev EncryptionKey := FixedBytes KEY_SIZE

/-- A nonce. -/
abbrev Nonce := FixedBytes NONCE_SIZE

/-- The cipher under the keys and nonces of the module. -/
abbrev Cipher := Aead EncryptionKey Nonce

/-- Create from a slice, whose length is checked. -/
def EncryptionKey.fromSlice (slice : Bytes) : Except CryptoError EncryptionKey :=
  if size : slice.length = KEY_SIZE then .ok { bytes := slice, length_eq := size }
  else .error (.invalidKeyLength KEY_SIZE slice.length)

/-- Encrypted data container. -/
structure EncryptedData where
  nonce : Nonce
  /-- Ciphertext with the tag appended. -/
  ciphertext : Bytes
  deriving DecidableEq, Repr

namespace EncryptedData

/-- Total overhead per encryption. -/
def OVERHEAD : Nat := NONCE_SIZE + TAG_SIZE

/-- Size of the encrypted data. -/
def len (encrypted : EncryptedData) : Nat := encrypted.ciphertext.length + NONCE_SIZE

/-- Serialize to bytes: the ciphertext after the nonce. -/
def toBytes (encrypted : EncryptedData) : Bytes := encrypted.nonce.bytes ++ encrypted.ciphertext

/-- The first bytes as a nonce. -/
def nonceOf (data : Bytes) (long : NONCE_SIZE ≤ data.length) : Nonce where
  bytes := data.take NONCE_SIZE
  length_eq := List.length_take_of_le long

/-- Deserialize from bytes. -/
def fromBytes (data : Bytes) : Except CryptoError EncryptedData :=
  if long : NONCE_SIZE + TAG_SIZE ≤ data.length then
    .ok
      { nonce := nonceOf data (Nat.le_trans (Nat.le_add_right _ _) long)
        ciphertext := data.drop NONCE_SIZE }
  else
    .error (.decryption "Data too short for encrypted content")

@[simp]
theorem length_toBytes (encrypted : EncryptedData) : encrypted.toBytes.length = encrypted.len := by
  rw [toBytes, List.length_append, encrypted.nonce.length_eq, len, Nat.add_comm]

/-- What holds a tag is read back. -/
theorem fromBytes_toBytes {encrypted : EncryptedData}
    (tagged : TAG_SIZE ≤ encrypted.ciphertext.length) :
    fromBytes encrypted.toBytes = .ok encrypted := by
  obtain ⟨⟨nonce, size⟩, ciphertext⟩ := encrypted
  have long : NONCE_SIZE + TAG_SIZE ≤ (nonce ++ ciphertext).length := by
    rw [List.length_append, size]
    exact Nat.add_le_add_left tagged NONCE_SIZE
  simp only [fromBytes, toBytes, dif_pos long, nonceOf, List.take_left' size, List.drop_left' size]

/-- What is read is what was written, tag included. -/
theorem toBytes_of_fromBytes {data : Bytes} {encrypted : EncryptedData}
    (read : fromBytes data = .ok encrypted) :
    encrypted.toBytes = data ∧ TAG_SIZE ≤ encrypted.ciphertext.length := by
  unfold fromBytes at read
  split at read
  · rename_i long
    cases read
    refine ⟨List.take_append_drop NONCE_SIZE data, ?_⟩
    rw [List.length_drop]
    omega
  · cases read

end EncryptedData

/-! ## Encryption and decryption -/

section

variable (aead : Cipher)

/-- Encrypt data under a nonce. -/
def encrypt (nonce : Nonce) (plaintext : Bytes) (key : EncryptionKey) :
    Except CryptoError EncryptedData :=
  match aead.encrypt key nonce plaintext with
  | some ciphertext => .ok { nonce, ciphertext }
  | none => .error (.encryption "aead::Error")

/-- Decrypt data. -/
def decrypt (encrypted : EncryptedData) (key : EncryptionKey) : Except CryptoError Bytes :=
  match aead.decrypt key encrypted.nonce encrypted.ciphertext with
  | some plaintext => .ok plaintext
  | none => .error (.decryption "Authentication failed")

/-- Encrypt data and return it as bytes. -/
def encryptToBytes (nonce : Nonce) (plaintext : Bytes) (key : EncryptionKey) :
    Except CryptoError Bytes :=
  match encrypt aead nonce plaintext key with
  | .ok encrypted => .ok (encrypted.nonce.bytes ++ encrypted.ciphertext)
  | .error cause => .error cause

/-- Decrypt data from bytes. -/
def decryptFromBytes (data : Bytes) (key : EncryptionKey) : Except CryptoError Bytes :=
  match EncryptedData.fromBytes data with
  | .ok encrypted => decrypt aead encrypted key
  | .error cause => .error cause

variable {aead} {nonce : Nonce} {plaintext : Bytes} {key : EncryptionKey}
  {encrypted : EncryptedData}

theorem encrypt_eq_ok_iff : encrypt aead nonce plaintext key = .ok encrypted ↔
    encrypted.nonce = nonce ∧ aead.encrypt key nonce plaintext = some encrypted.ciphertext := by
  obtain ⟨nonce', ciphertext⟩ := encrypted
  unfold encrypt
  cases aead.encrypt key nonce plaintext with
  | none => simp
  | some other => simp [eq_comm]

theorem decrypt_eq_ok_iff : decrypt aead encrypted key = .ok plaintext ↔
    aead.decrypt key encrypted.nonce encrypted.ciphertext = some plaintext := by
  unfold decrypt
  cases aead.decrypt key encrypted.nonce encrypted.ciphertext with
  | none => simp
  | some other => simp

theorem decrypt_of_error {cause : CryptoError}
    (refused : decrypt aead encrypted key = .error cause) :
    cause = .decryption "Authentication failed" := by
  rw [decrypt] at refused
  split at refused
  · cases refused
  · exact (Except.error.inj refused).symm

theorem encryptToBytes_eq_ok_iff {data : Bytes} :
    encryptToBytes aead nonce plaintext key = .ok data ↔
      ∃ encrypted, encrypt aead nonce plaintext key = .ok encrypted ∧ encrypted.toBytes = data := by
  unfold encryptToBytes
  cases encrypt aead nonce plaintext key with
  | error cause => simp
  | ok encrypted => simp [EncryptedData.toBytes]

variable (lawful : aead.Lawful TAG_SIZE MAX_PLAINTEXT)
include lawful

/-- Decryption of a container undoes the encryption that made it, and no other container decrypts
so. -/
theorem decrypt_iff_encrypt : decrypt aead encrypted key = .ok plaintext ↔
    encrypt aead encrypted.nonce plaintext key = .ok encrypted := by
  rw [decrypt_eq_ok_iff, encrypt_eq_ok_iff, lawful.decrypt_iff]
  simp

theorem tagged_of_encrypt (made : encrypt aead nonce plaintext key = .ok encrypted) :
    encrypted.ciphertext.length = plaintext.length + TAG_SIZE :=
  lawful.length key nonce plaintext _ (encrypt_eq_ok_iff.mp made).2

theorem len_of_encrypt (made : encrypt aead nonce plaintext key = .ok encrypted) :
    encrypted.len = plaintext.length + EncryptedData.OVERHEAD := by
  rw [EncryptedData.len, tagged_of_encrypt lawful made, EncryptedData.OVERHEAD]
  omega

/-- What encryption writes is read back and decrypted. -/
theorem decryptFromBytes_of_encrypt (made : encrypt aead nonce plaintext key = .ok encrypted) :
    decryptFromBytes aead encrypted.toBytes key = .ok plaintext := by
  have tagged : TAG_SIZE ≤ encrypted.ciphertext.length := by
    rw [tagged_of_encrypt lawful made]
    exact Nat.le_add_left _ _
  have nonce_eq := (encrypt_eq_ok_iff.mp made).1
  rw [decryptFromBytes, EncryptedData.fromBytes_toBytes tagged]
  exact (decrypt_iff_encrypt lawful).mpr (nonce_eq ▸ made)

theorem decryptFromBytes_eq_ok_iff {data : Bytes} :
    decryptFromBytes aead data key = .ok plaintext ↔
      ∃ nonce, encryptToBytes aead nonce plaintext key = .ok data := by
  constructor
  · intro decrypted
    unfold decryptFromBytes at decrypted
    split at decrypted
    · rename_i encrypted read
      refine ⟨encrypted.nonce, encryptToBytes_eq_ok_iff.mpr ⟨encrypted, ?_, ?_⟩⟩
      · exact (decrypt_iff_encrypt lawful).mp decrypted
      · exact (EncryptedData.toBytes_of_fromBytes read).1
    · cases decrypted
  · rintro ⟨nonce, written⟩
    obtain ⟨encrypted, made, rfl⟩ := encryptToBytes_eq_ok_iff.mp written
    exact decryptFromBytes_of_encrypt lawful made

/-- Plaintexts of admissible length are encrypted, with a fixed overhead, and decrypted.  A byte
string either is the encryption of what it decrypts to, or is refused, as too short or else as not
authentic. -/
theorem decryptFromBytes_accepts_encryptions :
    (∀ nonce plaintext, plaintext.length ≤ MAX_PLAINTEXT → ∃ data,
      encryptToBytes aead nonce plaintext key = .ok data ∧
        data.length = plaintext.length + EncryptedData.OVERHEAD ∧
        decryptFromBytes aead data key = .ok plaintext) ∧
    ∀ data,
      (∃ nonce plaintext, encryptToBytes aead nonce plaintext key = .ok data ∧
        decryptFromBytes aead data key = .ok plaintext) ∨
      (∀ nonce plaintext, encryptToBytes aead nonce plaintext key ≠ .ok data) ∧
        decryptFromBytes aead data key = .error (.decryption
          (if data.length < EncryptedData.OVERHEAD then "Data too short for encrypted content"
            else "Authentication failed")) := by
  constructor
  · intro nonce plaintext short
    obtain ⟨ciphertext, sealed, -⟩ := lawful.exists_encrypt key nonce short
    have made : encrypt aead nonce plaintext key = .ok { nonce, ciphertext } :=
      encrypt_eq_ok_iff.mpr ⟨rfl, sealed⟩
    refine ⟨_, encryptToBytes_eq_ok_iff.mpr ⟨_, made, rfl⟩, ?_,
      decryptFromBytes_of_encrypt lawful made⟩
    rw [EncryptedData.length_toBytes, len_of_encrypt lawful made]
  · intro data
    cases decrypted : decryptFromBytes aead data key with
    | ok plaintext =>
        obtain ⟨nonce, written⟩ := (decryptFromBytes_eq_ok_iff lawful).mp decrypted
        exact .inl ⟨nonce, plaintext, written, rfl⟩
    | error cause =>
        refine .inr ⟨fun nonce plaintext written => ?_, ?_⟩
        · have undone := (decryptFromBytes_eq_ok_iff lawful).mpr ⟨nonce, written⟩
          cases decrypted.symm.trans undone
        · unfold decryptFromBytes EncryptedData.fromBytes at decrypted
          unfold EncryptedData.OVERHEAD
          split at decrypted
          · rename_i encrypted read
            split at read
            · rename_i long
              rw [if_neg (Nat.not_lt.mpr long), decrypt_of_error decrypted]
            · cases read
          · rename_i other read
            split at read
            · cases read
            · rename_i short
              rw [if_pos (Nat.not_le.mp short), ← Except.error.inj decrypted,
                ← Except.error.inj read]

end

/-! ## The zero key -/

/-- Ten bytes to encrypt. -/
def tenBytes : Bytes := [0, 1, 2, 3, 4, 5, 6, 7, 8, 9]

/-- AES-256-GCM with the zero key and the zero nonce, on the ten bytes. -/
def zeroKeyStream : TaggedStream EncryptionKey Nonce TAG_SIZE where
  stream _ _ place :=
    ([0xce, 0xa7, 0x40, 0x3d, 0x4d, 0x60, 0x6b, 0x6e, 0x07, 0x4e] : Bytes).getD place 0
  tag _ _ body :=
    if body = [0xce, 0xa6, 0x42, 0x3e, 0x49, 0x65, 0x6d, 0x69, 0x0f, 0x47] then
      [0x1c, 0x26, 0x18, 0x86, 0xa0, 0x33, 0xd4, 0x57, 0x87, 0xf2, 0x41, 0xd6, 0x9a, 0x24, 0x04,
        0x15]
    else
      List.replicate TAG_SIZE 0
  length_tag _ _ body := by split <;> rfl

/-- The key of zeros. -/
def zeroKey : EncryptionKey := ⟨List.replicate KEY_SIZE 0, List.length_replicate⟩

/-- The nonce of zeros. -/
def zeroNonce : Nonce := ⟨List.replicate NONCE_SIZE 0, List.length_replicate⟩

/-- The ten bytes are encrypted and decrypted, and two bytes are refused. -/
theorem decryptFromBytes_zeroKey :
    (∃ data, encryptToBytes zeroKeyStream.aead zeroNonce tenBytes zeroKey = .ok data ∧
      data.length = 38 ∧ decryptFromBytes zeroKeyStream.aead data zeroKey = .ok tenBytes) ∧
    ((∃ nonce plaintext, encryptToBytes zeroKeyStream.aead nonce plaintext zeroKey = .ok [0, 0] ∧
        decryptFromBytes zeroKeyStream.aead [0, 0] zeroKey = .ok plaintext) ∨
      (∀ nonce plaintext, encryptToBytes zeroKeyStream.aead nonce plaintext zeroKey ≠ .ok [0, 0]) ∧
        decryptFromBytes zeroKeyStream.aead [0, 0] zeroKey =
          .error (.decryption "Data too short for encrypted content")) := by
  have lawful := zeroKeyStream.lawful MAX_PLAINTEXT
  exact ⟨(decryptFromBytes_accepts_encryptions lawful).1 zeroNonce tenBytes (by decide),
    (decryptFromBytes_accepts_encryptions lawful).2 [0, 0]⟩

end CyxCloud.Core
