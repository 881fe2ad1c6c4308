import Mathlib.Data.List.GetD
import Mathlib.Tactic.Ring

/-!
# Byte layouts

Words in little-endian order, and reading fields of a byte string by their offsets, where a read
beyond the end panics.
-/

namespace CyxCloud.Library

/-! ## Little-endian words -/

/-- The number whose digits are the bytes, the least one first. -/
def fromLeBytes : List UInt8 → Nat
  | [] => 0
  | byte :: rest => byte.toNat + 256 * fromLeBytes rest

/-- The lowest bytes of a number, the least one first. -/
def toLeBytes : Nat → Nat → List UInt8
  | 0, _ => []
  | width + 1, value => UInt8.ofNat value :: toLeBytes width (value / 256)

@[simp]
theorem length_toLeBytes (width value : Nat) : (toLeBytes width value).length = width := by
  induction width generalizing value with
  | zero => rfl
  | succ width induction => rw [toLeBytes, List.length_cons, induction]

theorem fromLeBytes_toLeBytes {width value : Nat} (fits : value < 256 ^ width) :
    fromLeBytes (toLeBytes width value) = value := by
  induction width generalizing value with
  | zero =>
      have zero_eq : value = 0 := by simpa using fits
      rw [zero_eq]
      rfl
  | succ width induction =>
      have rest_fits : value / 256 < 256 ^ width := by
        refine Nat.div_lt_of_lt_mul ?_
        rw [← pow_succ']
        exact fits
      have low : (UInt8.ofNat value).toNat = value % 256 := by simp
      rw [toLeBytes, fromLeBytes, induction rest_fits, low]
      exact Nat.mod_add_div value 256

theorem toLeBytes_fromLeBytes (bytes : List UInt8) :
    toLeBytes bytes.length (fromLeBytes bytes) = bytes := by
  induction bytes with
  | nil => rfl
  | cons byte rest induction =>
      have bound : byte.toNat < 256 := byte.toNat_lt
      have high : (byte.toNat + 256 * fromLeBytes rest) / 256 = fromLeBytes rest := by omega
      have low : UInt8.ofNat (byte.toNat + 256 * fromLeBytes rest) = byte := by
        refine UInt8.toNat_inj.mp ?_
        rw [UInt8.toNat_ofNat']
        omega
      rw [List.length_cons, toLeBytes, fromLeBytes, high, low, induction]

theorem fromLeBytes_lt (bytes : List UInt8) : fromLeBytes bytes < 256 ^ bytes.length := by
  induction bytes with
  | nil => exact Nat.one_pos
  | cons byte rest induction =>
      have bound : byte.toNat < 256 := byte.toNat_lt
      rw [fromLeBytes, List.length_cons, pow_succ']
      omega

theorem fromLeBytes_inj {left right : List UInt8} (same_length : left.length = right.length)
    (same : fromLeBytes left = fromLeBytes right) : left = right := by
  rw [← toLeBytes_fromLeBytes left, ← toLeBytes_fromLeBytes right, same_length, same]

theorem toLeBytes_inj {width left right : Nat} (left_fits : left < 256 ^ width)
    (right_fits : right < 256 ^ width) (same : toLeBytes width left = toLeBytes width right) :
    left = right := by
  rw [← fromLeBytes_toLeBytes left_fits, ← fromLeBytes_toLeBytes right_fits, same]

/-- The words that occur in layouts, from as many bytes as they have. -/
def u16FromLeBytes (bytes : List UInt8) : UInt16 := UInt16.ofNat (fromLeBytes bytes)

def u32FromLeBytes (bytes : List UInt8) : UInt32 := UInt32.ofNat (fromLeBytes bytes)

def u64FromLeBytes (bytes : List UInt8) : UInt64 := UInt64.ofNat (fromLeBytes bytes)

def i64FromLeBytes (bytes : List UInt8) : Int64 := (u64FromLeBytes bytes).toInt64

theorem u16FromLeBytes_toLeBytes (word : UInt16) :
    u16FromLeBytes (toLeBytes 2 word.toNat) = word := by
  rw [u16FromLeBytes, fromLeBytes_toLeBytes word.toNat_lt, UInt16.ofNat_toNat]

theorem u64FromLeBytes_toLeBytes (word : UInt64) :
    u64FromLeBytes (toLeBytes 8 word.toNat) = word := by
  rw [u64FromLeBytes, fromLeBytes_toLeBytes word.toNat_lt, UInt64.ofNat_toNat]

theorem i64FromLeBytes_toLeBytes (word : Int64) :
    i64FromLeBytes (toLeBytes 8 word.toUInt64.toNat) = word := by
  rw [i64FromLeBytes, u64FromLeBytes_toLeBytes]
  rfl

theorem u16FromLeBytes_inj {left right : List UInt8} (left_length : left.length = 2)
    (right_length : right.length = 2) :
    u16FromLeBytes left = u16FromLeBytes right ↔ left = right := by
  refine ⟨fun same => ?_, congrArg u16FromLeBytes⟩
  have left_fits := fromLeBytes_lt left
  have right_fits := fromLeBytes_lt right
  rw [left_length] at left_fits
  rw [right_length] at right_fits
  have numbers := congrArg UInt16.toNat same
  rw [u16FromLeBytes, u16FromLeBytes, UInt16.toNat_ofNat_of_lt' left_fits,
    UInt16.toNat_ofNat_of_lt' right_fits] at numbers
  exact fromLeBytes_inj (left_length.trans right_length.symm) numbers

theorem u64FromLeBytes_inj {left right : List UInt8} (left_length : left.length = 8)
    (right_length : right.length = 8) :
    u64FromLeBytes left = u64FromLeBytes right ↔ left = right := by
  refine ⟨fun same => ?_, congrArg u64FromLeBytes⟩
  have left_fits := fromLeBytes_lt left
  have right_fits := fromLeBytes_lt right
  rw [left_length] at left_fits
  rw [right_length] at right_fits
  have numbers := congrArg UInt64.toNat same
  rw [u64FromLeBytes, u64FromLeBytes, UInt64.toNat_ofNat_of_lt' left_fits,
    UInt64.toNat_ofNat_of_lt' right_fits] at numbers
  exact fromLeBytes_inj (left_length.trans right_length.symm) numbers

theorem i64FromLeBytes_inj {left right : List UInt8} (left_length : left.length = 8)
    (right_length : right.length = 8) :
    i64FromLeBytes left = i64FromLeBytes right ↔ left = right := by
  refine ⟨fun same => ?_, congrArg i64FromLeBytes⟩
  exact (u64FromLeBytes_inj left_length right_length).mp (congrArg Int64.toUInt64 same)

/-! ## Reading -/

/-- Why a parser stops. -/
inductive ParseFailure where
  /-- It reads out of bounds. -/
  | panic
  | error (message : String)
  deriving DecidableEq, Repr

/-- What a parser returns. -/
abbrev Parsed (α : Type) := Except ParseFailure α

section Reading

variable {α β : Type} {data : List UInt8}

/-- The part of a byte string between two offsets, as far as it goes. -/
def between (data : List UInt8) (start stop : Nat) : List UInt8 :=
  (data.drop start).take (stop - start)

/-- A slice of a byte string. -/
def slice (data : List UInt8) (start stop : Nat) : Parsed (List UInt8) :=
  if start ≤ stop ∧ stop ≤ data.length then .ok (between data start stop) else .error .panic

/-- A byte of a byte string. -/
def byteAt (data : List UInt8) (offset : Nat) : Parsed UInt8 :=
  match data[offset]? with
  | some byte => .ok byte
  | none => .error .panic

/-- A value that is read if the data reach so far. -/
def inReach (data : List UInt8) (stop : Nat) (value : α) : Parsed α :=
  if stop ≤ data.length then .ok value else .error .panic

theorem slice_eq {start stop : Nat} (ordered : start ≤ stop) :
    slice data start stop = inReach data stop (between data start stop) := by
  simp [slice, inReach, ordered]

theorem byteAt_eq (data : List UInt8) (offset : Nat) :
    byteAt data offset = inReach data (offset + 1) (data.getD offset 0) := by
  unfold byteAt inReach
  by_cases bound : offset < data.length
  · rw [List.getElem?_eq_getElem bound, List.getD_eq_getElem data 0 bound]
    exact (if_pos bound).symm
  · rw [List.getElem?_eq_none (Nat.le_of_not_lt bound)]
    exact (if_neg bound).symm

theorem inReach_return {stop : Nat} (reaches : stop ≤ data.length) (value : α) :
    (pure value : Parsed α) = inReach data stop value :=
  (if_pos reaches).symm

/-- A read that goes further decides how far the data must reach. -/
theorem inReach_bind {stop further : Nat} (ordered : stop ≤ further) {value : α}
    {next : α → Parsed β} {result : β}
    (rest : stop ≤ data.length → next value = inReach data further result) :
    (inReach data stop value >>= next) = inReach data further result := by
  by_cases reaches : stop ≤ data.length
  · rw [inReach, if_pos reaches]
    exact rest reaches
  · have short : ¬ further ≤ data.length := fun enough => reaches (ordered.trans enough)
    rw [inReach, inReach, if_neg reaches, if_neg short]
    rfl

theorem inReach_ne_panic_iff {stop : Nat} {value : α} :
    inReach data stop value ≠ .error .panic ↔ stop ≤ data.length := by
  unfold inReach
  split
  · rename_i reaches
    exact iff_of_true nofun reaches
  · rename_i short
    exact iff_of_false (fun differs => differs rfl) short

/-! ## Fields one after the other -/

theorem drop_field {front rest : List UInt8} {offset : Nat}
    (here : data.drop offset = front ++ rest) : data.drop (offset + front.length) = rest := by
  rw [← List.drop_drop, here, List.drop_left]

theorem between_field {front rest : List UInt8} {offset stop : Nat}
    (here : data.drop offset = front ++ rest) (stop_eq : stop = offset + front.length) :
    between data offset stop = front := by
  rw [between, stop_eq, Nat.add_sub_cancel_left, here, List.take_left]

theorem drop_word {width value offset : Nat} {rest : List UInt8}
    (here : data.drop offset = toLeBytes width value ++ rest) :
    data.drop (offset + width) = rest := by
  have next := drop_field here
  rw [length_toLeBytes] at next
  exact next

theorem drop_byte {byte : UInt8} {rest : List UInt8} {offset : Nat}
    (here : data.drop offset = byte :: rest) : data.drop (offset + 1) = rest := by
  have single : data.drop offset = [byte] ++ rest := here
  exact drop_field single

theorem between_word {width value offset : Nat} {rest : List UInt8}
    (here : data.drop offset = toLeBytes width value ++ rest) :
    between data offset (offset + width) = toLeBytes width value :=
  between_field here (by rw [length_toLeBytes])

theorem u16_field {word : UInt16} {offset : Nat} {rest : List UInt8}
    (here : data.drop offset = toLeBytes 2 word.toNat ++ rest) :
    u16FromLeBytes (between data offset (offset + 2)) = word := by
  rw [between_word here, u16FromLeBytes_toLeBytes]

theorem u64_field {word : UInt64} {offset : Nat} {rest : List UInt8}
    (here : data.drop offset = toLeBytes 8 word.toNat ++ rest) :
    u64FromLeBytes (between data offset (offset + 8)) = word := by
  rw [between_word here, u64FromLeBytes_toLeBytes]

theorem i64_field {word : Int64} {offset : Nat} {rest : List UInt8}
    (here : data.drop offset = toLeBytes 8 word.toUInt64.toNat ++ rest) :
    i64FromLeBytes (between data offset (offset + 8)) = word := by
  rw [between_word here, i64FromLeBytes_toLeBytes]

theorem getD_field {byte : UInt8} {rest : List UInt8} {offset : Nat}
    (here : data.drop offset = byte :: rest) : data.getD offset 0 = byte := by
  rw [List.getD_eq_getElem?_getD, ← List.head?_drop, here]
  rfl

theorem between_drop (skipped start stop : Nat) :
    between (data.drop skipped) start stop = between data (skipped + start) (skipped + stop) := by
  rw [between, between, List.drop_drop, Nat.add_sub_add_left]

theorem length_between {start stop : Nat} (reaches : stop ≤ data.length) :
    (between data start stop).length = stop - start := by
  rw [between, List.length_take, List.length_drop]
  omega

end Reading

end CyxCloud.Library
