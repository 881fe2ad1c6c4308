import Mathlib.Data.List.Basic

/-!
# Authenticated encryption

A cipher that encrypts byte strings under a key and a nonce, and whose decryption accepts nothing
but what encryption has made.  A stream cipher with a tag over its output is one.
-/

namespace CyxCloud.Library

/-- A cipher with keys and nonces; both directions may refuse. -/
structure Aead (κ ν : Type*) where
  encrypt : κ → ν → List UInt8 → Option (List UInt8)
  decrypt : κ → ν → List UInt8 → Option (List UInt8)

namespace Aead

variable {κ ν : Type*}

/-- Decryption accepts exactly the results of encryption, which add a tag; what is not too long is
encrypted. -/
structure Lawful (aead : Aead κ ν) (tagSize limit : Nat) : Prop where
  decrypt_iff : ∀ key nonce cipher plain,
    aead.decrypt key nonce cipher = some plain ↔ aead.encrypt key nonce plain = some cipher
  length : ∀ key nonce plain cipher, aead.encrypt key nonce plain = some cipher →
    cipher.length = plain.length + tagSize
  accepts : ∀ key nonce plain, plain.length ≤ limit → (aead.encrypt key nonce plain).isSome

section

variable {aead : Aead κ ν} {tagSize limit : Nat} {key : κ} {nonce : ν}

/-- What is not too long has an encryption. -/
theorem Lawful.exists_encrypt (lawful : aead.Lawful tagSize limit) (key : κ) (nonce : ν)
    {plain : List UInt8} (short : plain.length ≤ limit) :
    ∃ cipher, aead.encrypt key nonce plain = some cipher ∧
      cipher.length = plain.length + tagSize := by
  obtain ⟨cipher, encrypted⟩ := Option.isSome_iff_exists.mp (lawful.accepts key nonce plain short)
  exact ⟨cipher, encrypted, lawful.length key nonce plain cipher encrypted⟩

end

end Aead

/-! ## Stream ciphers with a tag -/

/-- Combine the bytes with a stream, place by place. -/
def mask (stream : Nat → UInt8) (bytes : List UInt8) : List UInt8 :=
  bytes.mapIdx fun place byte => byte ^^^ stream place

@[simp]
theorem length_mask (stream : Nat → UInt8) (bytes : List UInt8) :
    (mask stream bytes).length = bytes.length := List.length_mapIdx

@[simp]
theorem mask_mask (stream : Nat → UInt8) (bytes : List UInt8) :
    mask stream (mask stream bytes) = bytes := by
  refine List.ext_getElem (by simp) fun place _ _ => ?_
  simp only [mask, List.getElem_mapIdx]
  rw [UInt8.xor_assoc, UInt8.xor_self, UInt8.xor_zero]

/-- A stream for each key and nonce, and a tag of a fixed size. -/
structure TaggedStream (κ ν : Type*) (tagSize : Nat) where
  stream : κ → ν → Nat → UInt8
  tag : κ → ν → List UInt8 → List UInt8
  length_tag : ∀ key nonce body, (tag key nonce body).length = tagSize

namespace TaggedStream

variable {κ ν : Type*} {tagSize : Nat} (cipher : TaggedStream κ ν tagSize)

/-- Mask the text and append the tag of the result; check the tag and mask again. -/
def aead : Aead κ ν where
  encrypt key nonce plain :=
    let body := mask (cipher.stream key nonce) plain
    some (body ++ cipher.tag key nonce body)
  decrypt key nonce bytes :=
    let body := bytes.take (bytes.length - tagSize)
    if bytes = body ++ cipher.tag key nonce body then some (mask (cipher.stream key nonce) body)
    else none

theorem take_append_tag (key : κ) (nonce : ν) (body : List UInt8) :
    (body ++ cipher.tag key nonce body).take
      ((body ++ cipher.tag key nonce body).length - tagSize) = body := by
  rw [List.length_append, cipher.length_tag, Nat.add_sub_cancel, List.take_left]

theorem lawful (limit : Nat) : cipher.aead.Lawful tagSize limit where
  decrypt_iff := by
    intro key nonce bytes plain
    simp only [aead, Option.some_inj]
    constructor
    · intro decrypted
      split at decrypted
      · rename_i tagged
        rw [← Option.some_inj.mp decrypted, mask_mask]
        exact tagged.symm
      · cases decrypted
    · rintro rfl
      rw [cipher.take_append_tag, if_pos rfl, mask_mask]
  length := by
    intro key nonce plain bytes encrypted
    rw [← Option.some_inj.mp encrypted, List.length_append, cipher.length_tag, length_mask]
  accepts := fun _ _ _ _ => rfl

end TaggedStream

end CyxCloud.Library
