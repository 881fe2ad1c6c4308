import Mathlib.Data.List.Basic

/-!
# Base64

The URL-safe alphabet without padding.  Three bytes are four letters of six bits; what was encoded
is decoded.
-/

namespace CyxCloud.Library.Base64

/-- The letters in the order of their values. -/
def alphabet : List Char :=
  "ABCDEFGHIJKLMNOPQRSTUVWXYZabcdefghijklmnopqrstuvwxyz0123456789-_".toList

/-- The letter of a value below 64. -/
def letter (value : Nat) : Char := alphabet.getD value 'A'

/-- The value of a letter. -/
def letterValue (char : Char) : Option Nat := alphabet.findIdx? fun other => other == char

theorem letterValue_letter {value : Nat} (small : value < 64) :
    letterValue (letter value) = some value := by
  have all : ∀ value : Fin 64, letterValue (letter value) = some value.val := by decide +kernel
  exact all ⟨value, small⟩

/-- The letters of some bytes. -/
def encodeChars : List UInt8 → List Char
  | [] => []
  | [first] => [letter (first.toNat / 4), letter (first.toNat % 4 * 16)]
  | [first, second] =>
      [letter (first.toNat / 4), letter (first.toNat % 4 * 16 + second.toNat / 16),
        letter (second.toNat % 16 * 4)]
  | first :: second :: third :: rest =>
      letter (first.toNat / 4) :: letter (first.toNat % 4 * 16 + second.toNat / 16) ::
        letter (second.toNat % 16 * 4 + third.toNat / 64) :: letter (third.toNat % 64) ::
          encodeChars rest

/-- The bytes of some letters.  Bits that no byte uses must be zero. -/
def decodeChars : List Char → Option (List UInt8)
  | [] => some []
  | [_] => none
  | [first, second] => do
      let high ← letterValue first
      let low ← letterValue second
      if low % 16 = 0 then some [UInt8.ofNat (high * 4 + low / 16)] else none
  | [first, second, third] => do
      let high ← letterValue first
      let middle ← letterValue second
      let low ← letterValue third
      if low % 4 = 0 then
        some [UInt8.ofNat (high * 4 + middle / 16), UInt8.ofNat (middle % 16 * 16 + low / 4)]
      else
        none
  | first :: second :: third :: fourth :: rest => do
      let a ← letterValue first
      let b ← letterValue second
      let c ← letterValue third
      let d ← letterValue fourth
      let bytes ← decodeChars rest
      some (UInt8.ofNat (a * 4 + b / 16) :: UInt8.ofNat (b % 16 * 16 + c / 4) ::
        UInt8.ofNat (c % 4 * 64 + d) :: bytes)

/-- The text of some bytes. -/
def encode (bytes : List UInt8) : String := String.ofList (encodeChars bytes)

/-- The bytes of a text. -/
def decode (text : String) : Option (List UInt8) := decodeChars text.toList

theorem ofNat_eq {value : Nat} {byte : UInt8} (same : value = byte.toNat) :
    UInt8.ofNat value = byte := by
  rw [same, UInt8.ofNat_toNat]

theorem decodeChars_encodeChars (bytes : List UInt8) :
    decodeChars (encodeChars bytes) = some bytes := by
  induction bytes using encodeChars.induct with
  | case1 => rfl
  | case2 first =>
      have first_lt := first.toNat_lt
      rw [encodeChars, decodeChars, letterValue_letter (by omega), letterValue_letter (by omega)]
      have first_eq : UInt8.ofNat (first.toNat / 4 * 4 + first.toNat % 4 * 16 / 16) = first :=
        ofNat_eq (by omega)
      simp only [Option.bind_eq_bind, Option.bind_some, Nat.mul_mod_left, if_true, first_eq]
  | case3 first second =>
      have first_lt := first.toNat_lt
      have second_lt := second.toNat_lt
      rw [encodeChars, decodeChars, letterValue_letter (by omega), letterValue_letter (by omega),
        letterValue_letter (by omega)]
      have first_eq : UInt8.ofNat (first.toNat / 4 * 4 +
          (first.toNat % 4 * 16 + second.toNat / 16) / 16) = first := ofNat_eq (by omega)
      have second_eq : UInt8.ofNat ((first.toNat % 4 * 16 + second.toNat / 16) % 16 * 16 +
          second.toNat % 16 * 4 / 4) = second := ofNat_eq (by omega)
      simp only [Option.bind_eq_bind, Option.bind_some, Nat.mul_mod_left, if_true, first_eq,
        second_eq]
  | case4 first second third rest induction =>
      have first_lt := first.toNat_lt
      have second_lt := second.toNat_lt
      have third_lt := third.toNat_lt
      rw [encodeChars, decodeChars, letterValue_letter (by omega), letterValue_letter (by omega),
        letterValue_letter (by omega), letterValue_letter (by omega), induction]
      have first_eq : UInt8.ofNat (first.toNat / 4 * 4 +
          (first.toNat % 4 * 16 + second.toNat / 16) / 16) = first := ofNat_eq (by omega)
      have second_eq : UInt8.ofNat ((first.toNat % 4 * 16 + second.toNat / 16) % 16 * 16 +
          (second.toNat % 16 * 4 + third.toNat / 64) / 4) = second := ofNat_eq (by omega)
      have third_eq : UInt8.ofNat ((second.toNat % 16 * 4 + third.toNat / 64) % 4 * 64 +
          third.toNat % 64) = third := ofNat_eq (by omega)
      simp only [Option.bind_eq_bind, Option.bind_some, first_eq, second_eq, third_eq]

theorem decode_encode (bytes : List UInt8) : decode (encode bytes) = some bytes := by
  rw [decode, encode, String.toList_ofList, decodeChars_encodeChars]

end CyxCloud.Library.Base64
