import Mathlib.Data.List.Basic

/-!
# Signatures

A signature scheme with keys of any type over messages and signatures of bytes.  What it is assumed
to do is stated as properties of the scheme.
-/

namespace CyxCloud.Library

/-- A scheme with secret keys, public keys, and signatures of a fixed length. -/
structure SignatureScheme (σ ν : Type*) where
  /-- The public key of a secret key. -/
  verifyingKey : σ → ν
  sign : σ → List UInt8 → List UInt8
  verify : ν → List UInt8 → List UInt8 → Bool
  signatureLength : Nat
  length_sign : ∀ key message, (sign key message).length = signatureLength

namespace SignatureScheme

variable {σ ν : Type*} (scheme : SignatureScheme σ ν)

/-- A signature verifies for the message that was signed. -/
def Correct : Prop :=
  ∀ key message, scheme.verify (scheme.verifyingKey key) message (scheme.sign key message) = true

/-- The check of a signature of any length. -/
def accepts (key : ν) (message signature : List UInt8) : Bool :=
  signature.length == scheme.signatureLength && scheme.verify key message signature

/-- Among signatures made with a key for some messages, one that is accepted is for one of
them. -/
def Unforged (key : σ) (signed : List (List UInt8)) (message signature : List UInt8) : Prop :=
  scheme.accepts (scheme.verifyingKey key) message signature = true → message ∈ signed

variable {scheme}

theorem Correct.accepts_sign (correct : scheme.Correct) (key : σ) (message : List UInt8) :
    scheme.accepts (scheme.verifyingKey key) message (scheme.sign key message) = true := by
  simp [accepts, scheme.length_sign, correct key message]

end SignatureScheme

end CyxCloud.Library
