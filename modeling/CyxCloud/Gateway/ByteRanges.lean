import CyxCloud.Cli.ListResponse
import CyxCloud.Gateway.MemoryHandlers
import CyxCloud.Library.Separators
import CyxCloud.Library.Words

/-!
# Byte ranges

`parse_range_header` and the ranged `get_object` of `cyxcloud-gateway/src/s3_api.rs`, and
`get_object_range` of `cyxcloud-gateway/src/state.rs`, beside the ranges of RFC 9110.
-/

namespace CyxCloud.Gateway

open Cli (parseU64)
open CyxCloud.Core hiding Chunk
open Library

/-! ## Range headers -/

/-- The bounds that the two sides of the dash stand for.  Nothing at all comes of a subtraction
below zero. -/
def rangeBounds (first second : List Char) (totalSize : Nat) : Option (Option (Nat × Nat)) :=
  if first = [] then
    match parseU64 second with
    | none => some none
    | some suffix => (checkedSub totalSize 1).map fun last => some (totalSize - suffix, last)
  else
    match parseU64 first with
    | none => some none
    | some start =>
        if second = [] then
          (checkedSub totalSize 1).map fun last => some (start, last)
        else
          some ((parseU64 second).map fun stop => (start, stop))

/-- Parse a `Range` header; nothing at all comes of a subtraction below zero. -/
def parseRangeHeader (header : String) (totalSize : Nat) : Option (Option (Nat × Nat)) :=
  match header.toList.dropPrefix? "bytes=".toList with
  | none => some none
  | some header =>
      match header.splitOn '-' with
      | [first, second] =>
          (rangeBounds first second totalSize).bind fun
            | none => some none
            | some (start, stop) =>
                if start > stop ∨ start ≥ totalSize then
                  some none
                else
                  (checkedSub totalSize 1).map fun last => some (start, min stop last)
      | _ => some none

/-! ## Ranged reads -/

/-- Part of a text of bytes; nothing comes of bounds out of order or out of the text. -/
def sliceBytes (data : Bytes) (start stop : Nat) : Option Bytes :=
  if start ≤ stop ∧ stop ≤ data.length then some ((data.take stop).drop start) else none

/-- Get a range of an object; nothing comes of an overflow or of a slice out of bounds. -/
def getObjectRange (object : Except S3Error Bytes) (start stop : Nat) :
    Option (Except S3ApiError Bytes) :=
  match object with
  | .error cause => some (.error (.object cause))
  | .ok data =>
      (checked 64 (stop + 1)).bind fun next =>
        let stop := min next data.length
        if start ≥ data.length then
          some (.error (.invalidRequest "Range out of bounds"))
        else
          (sliceBytes data start stop).map .ok

/-- The answer to a request for an object. -/
structure ObjectAnswer where
  status : Nat
  contentType : String
  contentLength : Nat
  etag : String
  lastModified : String
  contentRange : Option String
  body : Bytes
  deriving DecidableEq, Repr

/-- The answer to a request without a range. -/
def ObjectAnswer.whole (answer : ObjectAnswer) : S3Answer :=
  .object answer.contentType answer.contentLength answer.etag answer.lastModified answer.body

namespace S3Handlers

variable (rfc3339 : Time → String) (state : MemoryBuckets)

/-- The range that the header of a request names in text. -/
def requestedRange (range : Option String) (size : Nat) : Option (Option (Nat × Nat)) :=
  match range.filter isHeaderText with
  | none => some none
  | some header => parseRangeHeader header size

/-- The answer with the data that was read. -/
def objectAnswer (metadata : ObjectMetadata) (range : Option (Nat × Nat)) (data : Bytes) :
    Except S3ApiError ObjectAnswer :=
  if !isHeaderText metadata.contentType then
    .error .invalidResponse
  else
    .ok
      { status := if range.isSome then 206 else 200
        contentType := metadata.contentType
        contentLength := data.length
        etag := quoted metadata.etag
        lastModified := rfc3339 metadata.lastModified
        contentRange := range.map fun (start, stop) =>
          "bytes " ++ toString start ++ "-" ++ toString stop ++ "/" ++ toString metadata.size
        body := data }

/-- Download an object, or the range of it that a header asks for. -/
def getObjectRanged (bucket key : String) (range : Option String) :
    Option (Except S3ApiError ObjectAnswer) :=
  match responseMetadata state bucket key with
  | .error cause => some (.error cause)
  | .ok metadata =>
      (requestedRange range metadata.size).bind fun range =>
        let data := match range with
          | some (start, stop) => getObjectRange (state.getObject bucket key) start stop
          | none => some ((state.getObject bucket key).mapError .object)
        data.map fun data => data.bind (objectAnswer rfc3339 metadata range)

end S3Handlers

/-! ## RFC 9110 -/

/-- The three forms of a range. -/
inductive RangeForm where
  | closed (first last : Nat)
  | from (first : Nat)
  | suffix (length : Nat)
  deriving DecidableEq, Repr

/-- The first and the last byte that a range selects, if it is satisfiable. -/
def RangeForm.select (size : Nat) : RangeForm → Option (Nat × Nat)
  | closed first last =>
      if first ≤ last ∧ first < size then some (first, min last (size - 1)) else none
  | .from first => if first < size then some (first, size - 1) else none
  | suffix length =>
      if 0 < length ∧ 0 < size then some (size - min length size, size - 1) else none

/-- The decimal digits of a number; zeros in front are allowed. -/
def Decimal (text : List Char) (number : Nat) : Prop :=
  text ≠ [] ∧ text.all Char.isDigit ∧ Nat.ofDigitChars 10 text 0 = number

/-- A header has one of the forms. -/
inductive WrittenRange (header : String) : RangeForm → Prop where
  | closed {digits digits' : List Char} {first last : Nat} (decimal : Decimal digits first)
      (decimal' : Decimal digits' last)
      (written : header.toList = "bytes=".toList ++ (digits ++ '-' :: digits')) :
      WrittenRange header (.closed first last)
  | from {digits : List Char} {first : Nat} (decimal : Decimal digits first)
      (written : header.toList = "bytes=".toList ++ (digits ++ ['-'])) :
      WrittenRange header (.from first)
  | suffix {digits : List Char} {length : Nat} (decimal : Decimal digits length)
      (written : header.toList = "bytes=".toList ++ '-' :: digits) :
      WrittenRange header (.suffix length)

/-- A range is computed, lies within the object, is what is read, and is the one of RFC 9110. -/
structure RangeServed (header : String) (size : Nat) : Prop where
  computes : parseRangeHeader header size ≠ none
  read : ∀ start stop, parseRangeHeader header size = some (some (start, stop)) →
    start ≤ stop ∧ stop < size ∧ ∀ data : Bytes, data.length = size →
      ∃ body, getObjectRange (.ok data) start stop = some (.ok body) ∧
        body.length = stop - start + 1 ∧ ∀ i < body.length, body[i]? = data[start + i]?
  standard : ∀ form, WrittenRange header form →
    parseRangeHeader header size = some (form.select size)

/-- The object is not empty where a range to its end is asked for, and no number that counts is
too large for a word. -/
structure RangeFits (header : String) (size : Nat) : Prop where
  nonempty : ∀ number, (parseU64 number).isSome →
    header.toList = "bytes=".toList ++ (number ++ ['-']) ∨
      header.toList = "bytes=".toList ++ '-' :: number → 0 < size
  last : ∀ first last, WrittenRange header (.closed first last) → first < size → last < 2 ^ 64
  suffix : ∀ length, WrittenRange header (.suffix length) → 0 < size → length < 2 ^ 64

variable {header : String} {size : Nat}

/-! ## Numbers -/

theorem dash_not_digit : Char.isDigit '-' = false := by decide

theorem Decimal.dash_not_mem {digits : List Char} {number : Nat} (decimal : Decimal digits number) :
    '-' ∉ digits := by
  intro member
  have digit := List.all_eq_true.mp decimal.2.1 '-' member
  rw [dash_not_digit] at digit
  exact absurd digit (by decide)

theorem Decimal.parseU64_eq {digits : List Char} {number : Nat} (decimal : Decimal digits number) :
    parseU64 digits = checked 64 number := by
  obtain ⟨nonempty, digitsOnly, rfl⟩ := decimal
  have unsigned : digits.head? ≠ some '+' := by
    intro signed
    have digit := List.all_eq_true.mp digitsOnly '+' (List.mem_of_head? signed)
    exact absurd digit (by decide)
  rw [parseU64, if_neg unsigned, checked]
  simp only [nonempty, digitsOnly, ne_eq, not_false_eq_true, true_and]

theorem Decimal.isSome_parseU64 {digits : List Char} {number : Nat}
    (decimal : Decimal digits number) (small : number < 2 ^ 64) : (parseU64 digits).isSome := by
  rw [decimal.parseU64_eq, checked_of_lt small]
  rfl

/-- A number that is parsed has no dash. -/
theorem dash_not_mem_of_parseU64 {text : List Char} (parsed : (parseU64 text).isSome) :
    '-' ∉ text := by
  intro member
  have inDigits : '-' ∈ if text.head? = some '+' then text.tail else text := by
    split
    · rename_i signed
      obtain ⟨digits, rfl⟩ := List.head?_eq_some_iff.mp signed
      exact (List.mem_cons.mp member).resolve_left (by decide)
    · exact member
  simp only [parseU64, Option.isSome_ite] at parsed
  have digit := List.all_eq_true.mp parsed.2.1 '-' inDigits
  rw [dash_not_digit] at digit
  exact absurd digit (by decide)

theorem parseU64_nil : parseU64 [] = none := by decide

theorem WrittenRange.sides {first last : Nat}
    (writtenRange : WrittenRange header (.closed first last)) :
    ∃ digits digits', Decimal digits first ∧ Decimal digits' last ∧
      header.toList = "bytes=".toList ++ (digits ++ '-' :: digits') := by
  cases writtenRange with
  | closed decimal decimal' written => exact ⟨_, _, decimal, decimal', written⟩

theorem WrittenRange.digits {length : Nat} (writtenRange : WrittenRange header (.suffix length)) :
    ∃ digits, Decimal digits length ∧ header.toList = "bytes=".toList ++ '-' :: digits := by
  cases writtenRange with
  | suffix decimal written => exact ⟨_, decimal, written⟩

/-! ## Parsed headers -/

/-- The range between parsed bounds, clipped to the object. -/
def clippedRange (size : Nat) : Option (Nat × Nat) → Option (Nat × Nat)
  | none => none
  | some (start, stop) =>
      if start > stop ∨ start ≥ size then none else some (start, min stop (size - 1))

/-- The last check of the parser clips the bounds; it subtracts nothing from zero. -/
theorem checkBounds_eq (bounds : Option (Nat × Nat)) :
    (match bounds with
      | none => some none
      | some (start, stop) =>
          if start > stop ∨ start ≥ size then
            some none
          else
            (checkedSub size 1).map fun last => some (start, min stop last)) =
      some (clippedRange size bounds) := by
  cases bounds with
  | none => rfl
  | some bounds =>
      obtain ⟨start, stop⟩ := bounds
      by_cases outside : start > stop ∨ start ≥ size
      · simp only [clippedRange, if_pos outside]
      · have nonempty : 1 ≤ size := by omega
        simp only [clippedRange, if_neg outside, checkedSub_of_le nonempty, Option.map_some]

/-- A header of two sides and a dash. -/
theorem parseRangeHeader_of_sides {first second : List Char} (plain : '-' ∉ first)
    (plain' : '-' ∉ second)
    (written : header.toList = "bytes=".toList ++ (first ++ '-' :: second)) :
    parseRangeHeader header size = (rangeBounds first second size).map (clippedRange size) := by
  have dropped : header.toList.dropPrefix? "bytes=".toList = some (first ++ '-' :: second) := by
    rw [written]
    exact List.dropPrefix?_append_of_beq _ (beq_self_eq_true _)
  have sides := splitOn_eq_pair_iff.mpr ⟨rfl, plain, plain'⟩
  rw [parseRangeHeader, dropped]
  simp only [sides]
  rw [Option.map_eq_bind]
  exact congrArg _ (funext fun bounds => checkBounds_eq bounds)

/-- Every other header asks for no range. -/
theorem parseRangeHeader_of_other
    (other : ∀ first second, '-' ∉ first → '-' ∉ second →
      header.toList ≠ "bytes=".toList ++ (first ++ '-' :: second)) :
    parseRangeHeader header size = some none := by
  rw [parseRangeHeader]
  split
  · rfl
  · rename_i rest dropped
    split
    · rename_i first second sides
      obtain ⟨rfl, plain, plain'⟩ := splitOn_eq_pair_iff.mp sides
      obtain ⟨start, written, same⟩ := List.dropPrefix?_eq_some_iff.mp dropped
      rw [eq_of_beq same] at written
      exact absurd written (other first second plain plain')
    · rfl

theorem parseRangeHeader_cases (header : String) (size : Nat) :
    (∃ first second, '-' ∉ first ∧ '-' ∉ second ∧
      header.toList = "bytes=".toList ++ (first ++ '-' :: second) ∧
      parseRangeHeader header size = (rangeBounds first second size).map (clippedRange size)) ∨
    parseRangeHeader header size = some none := by
  by_cases sides : ∃ first second, '-' ∉ first ∧ '-' ∉ second ∧
      header.toList = "bytes=".toList ++ (first ++ '-' :: second)
  · obtain ⟨first, second, plain, plain', written⟩ := sides
    exact .inl ⟨first, second, plain, plain', written,
      parseRangeHeader_of_sides plain plain' written⟩
  · refine .inr (parseRangeHeader_of_other fun first second plain plain' written => ?_)
    exact sides ⟨first, second, plain, plain', written⟩

theorem checkedSub_one_eq_none_iff : checkedSub size 1 = none ↔ size = 0 :=
  checkedSub_eq_none_iff.trans Nat.lt_one_iff

/-- The subtraction goes below zero for an empty object and a range to its end. -/
theorem rangeBounds_eq_none_iff {first second : List Char} :
    rangeBounds first second size = none ↔
      size = 0 ∧ (first = [] ∧ (parseU64 second).isSome ∨
        second = [] ∧ (parseU64 first).isSome) := by
  rw [rangeBounds]
  split
  · rename_i suffix
    subst suffix
    cases parsed : parseU64 second <;>
      simp [checkedSub_one_eq_none_iff, parseU64_nil]
  · rename_i closed
    cases parsed : parseU64 first with
    | none => simp [closed]
    | some start =>
        by_cases toEnd : second = []
        · simp [toEnd, checkedSub_one_eq_none_iff]
        · simp [toEnd, closed]

theorem parseRangeHeader_eq_none_iff : parseRangeHeader header size = none ↔
    size = 0 ∧ ∃ number, (parseU64 number).isSome ∧
      (header.toList = "bytes=".toList ++ (number ++ ['-']) ∨
        header.toList = "bytes=".toList ++ '-' :: number) := by
  constructor
  · intro underflow
    rcases parseRangeHeader_cases header size with ⟨first, second, -, -, written, parsed⟩ | parsed
    · rw [parsed, Option.map_eq_none_iff] at underflow
      obtain ⟨empty, ⟨rfl, number⟩ | ⟨rfl, number⟩⟩ := rangeBounds_eq_none_iff.mp underflow
      · exact ⟨empty, second, number, .inr written⟩
      · exact ⟨empty, first, number, .inl written⟩
    · rw [parsed] at underflow
      exact absurd underflow (Option.some_ne_none _)
  · rintro ⟨empty, number, parsed, written | written⟩
    · rw [parseRangeHeader_of_sides (dash_not_mem_of_parseU64 parsed) List.not_mem_nil written,
        rangeBounds_eq_none_iff.mpr ⟨empty, .inr ⟨rfl, parsed⟩⟩]
      rfl
    · rw [@parseRangeHeader_of_sides header size [] number List.not_mem_nil
        (dash_not_mem_of_parseU64 parsed) written,
        rangeBounds_eq_none_iff.mpr ⟨empty, .inl ⟨rfl, parsed⟩⟩]
      rfl

theorem clippedRange_eq_some {bounds : Option (Nat × Nat)} {start stop : Nat}
    (clipped : clippedRange size bounds = some (start, stop)) : start ≤ stop ∧ stop < size := by
  cases bounds with
  | none => exact absurd clipped (Option.some_ne_none _).symm
  | some bounds =>
      obtain ⟨first, last⟩ := bounds
      rw [clippedRange] at clipped
      split at clipped
      · exact absurd clipped (Option.some_ne_none _).symm
      · obtain ⟨rfl, rfl⟩ := Prod.mk.inj (Option.some.inj clipped)
        omega

/-- A parsed range lies within the object. -/
theorem parseRangeHeader_within {start stop : Nat}
    (parsed : parseRangeHeader header size = some (some (start, stop))) :
    start ≤ stop ∧ stop < size := by
  rcases parseRangeHeader_cases header size with ⟨first, second, -, -, -, parsed'⟩ | parsed'
  · rw [parsed', Option.map_eq_some_iff] at parsed
    obtain ⟨bounds, -, clipped⟩ := parsed
    exact clippedRange_eq_some clipped
  · rw [parsed'] at parsed
    exact absurd (Option.some.inj parsed) (Option.some_ne_none _).symm

/-! ## Read ranges -/

/-- Within the object exactly the bytes of the range are read. -/
theorem getObjectRange_within {data : Bytes} {start stop : Nat} (ordered : start ≤ stop)
    (inside : stop < data.length) (word : data.length < 2 ^ 64) :
    getObjectRange (.ok data) start stop = some (.ok ((data.take (stop + 1)).drop start)) := by
  have fits : stop + 1 < 2 ^ 64 := by omega
  have clipped : min (stop + 1) data.length = stop + 1 := by omega
  have kept : ¬ start ≥ data.length := by omega
  have slice : start ≤ stop + 1 ∧ stop + 1 ≤ data.length := by omega
  rw [getObjectRange, checked_of_lt fits]
  simp only [Option.bind_some, clipped, if_neg kept, sliceBytes, if_pos slice, Option.map_some]

theorem slice_spec {data : Bytes} {start stop : Nat} (ordered : start ≤ stop)
    (inside : stop < data.length) :
    ((data.take (stop + 1)).drop start).length = stop - start + 1 ∧
      ∀ i < ((data.take (stop + 1)).drop start).length,
        ((data.take (stop + 1)).drop start)[i]? = data[start + i]? := by
  have length_eq : ((data.take (stop + 1)).drop start).length = stop - start + 1 := by
    rw [List.length_drop, List.length_take]
    omega
  refine ⟨length_eq, fun i short => ?_⟩
  rw [length_eq] at short
  rw [List.getElem?_drop, List.getElem?_take_of_lt (by omega)]

/-! ## Standard ranges -/

theorem parse_closed {digits digits' : List Char} {first last : Nat}
    (decimal : Decimal digits first) (decimal' : Decimal digits' last)
    (written : header.toList = "bytes=".toList ++ (digits ++ '-' :: digits')) :
    parseRangeHeader header size = some (clippedRange size
      ((checked 64 first).bind fun start => (checked 64 last).map fun stop => (start, stop))) := by
  rw [parseRangeHeader_of_sides decimal.dash_not_mem decimal'.dash_not_mem written, rangeBounds,
    if_neg decimal.1, decimal.parseU64_eq]
  cases checked 64 first with
  | none => rfl
  | some start =>
      simp only [if_neg decimal'.1, decimal'.parseU64_eq, Option.map_some, Option.bind_some]

/-- A range of two numbers is the standard one exactly if its last byte counts for nothing or fits
a word. -/
theorem parse_closed_eq_iff (word : size < 2 ^ 64) {digits digits' : List Char} {first last : Nat}
    (decimal : Decimal digits first) (decimal' : Decimal digits' last)
    (written : header.toList = "bytes=".toList ++ (digits ++ '-' :: digits')) :
    parseRangeHeader header size = some ((RangeForm.closed first last).select size) ↔
      (first < size → last < 2 ^ 64) := by
  rw [parse_closed decimal decimal' written, Option.some_inj, RangeForm.select]
  by_cases fits : last < 2 ^ 64
  · simp only [fits, implies_true, iff_true, checked_of_lt fits, Option.map_some]
    by_cases fits' : first < 2 ^ 64
    · simp only [checked_of_lt fits', Option.bind_some, clippedRange]
      by_cases selected : first ≤ last ∧ first < size
      · rw [if_pos selected, if_neg (by omega)]
      · rw [if_neg selected, if_pos (by omega)]
    · rw [checked_eq_none_iff.mpr (Nat.le_of_not_lt fits'), if_neg (by omega)]
      rfl
  · have dropped : clippedRange size ((checked 64 first).bind fun start =>
        (checked 64 last).map fun stop => (start, stop)) = none := by
      rw [checked_eq_none_iff.mpr (Nat.le_of_not_lt fits)]
      cases checked 64 first <;> rfl
    rw [dropped]
    by_cases inside : first < size
    · rw [if_pos ⟨by omega, inside⟩]
      simpa [inside] using fits
    · rw [if_neg fun selected => inside selected.2]
      simp [inside]

/-- A range from a number on is the standard one unless it asks for the last byte of nothing. -/
theorem parse_from_eq (word : size < 2 ^ 64) {digits : List Char} {first : Nat}
    (nonempty : first < 2 ^ 64 → 0 < size) (decimal : Decimal digits first)
    (written : header.toList = "bytes=".toList ++ (digits ++ ['-'])) :
    parseRangeHeader header size = some ((RangeForm.from first).select size) := by
  rw [parseRangeHeader_of_sides decimal.dash_not_mem List.not_mem_nil written, rangeBounds,
    if_neg decimal.1, decimal.parseU64_eq, RangeForm.select]
  by_cases fits : first < 2 ^ 64
  · have oneByte : 1 ≤ size := nonempty fits
    simp only [checked_of_lt fits, if_pos, checkedSub_of_le oneByte, Option.map_some,
      Option.some_inj, clippedRange]
    by_cases inside : first < size
    · rw [if_pos inside, if_neg (by omega), Nat.min_self]
    · rw [if_neg inside, if_pos (by omega)]
  · rw [checked_eq_none_iff.mpr (Nat.le_of_not_lt fits), if_neg (by omega)]
    rfl

/-- A suffix of some object is the standard one exactly if its length fits a word. -/
theorem parse_suffix_eq_iff {digits : List Char} {length : Nat}
    (nonempty : length < 2 ^ 64 → 0 < size) (decimal : Decimal digits length)
    (written : header.toList = "bytes=".toList ++ '-' :: digits) :
    parseRangeHeader header size = some ((RangeForm.suffix length).select size) ↔
      (0 < size → length < 2 ^ 64) := by
  rw [@parseRangeHeader_of_sides header size [] digits List.not_mem_nil decimal.dash_not_mem
    written, rangeBounds, if_pos rfl, decimal.parseU64_eq, RangeForm.select]
  by_cases fits : length < 2 ^ 64
  · have oneByte : 1 ≤ size := nonempty fits
    simp only [checked_of_lt fits, checkedSub_of_le oneByte, Option.map_some, Option.some_inj,
      clippedRange, fits, implies_true, iff_true]
    by_cases selected : 0 < length
    · have inside : ¬ (size - length > size - 1 ∨ size - length ≥ size) := by omega
      have start_eq : size - length = size - min length size := by omega
      rw [if_neg inside, if_pos ⟨selected, nonempty fits⟩, Nat.min_self, start_eq]
    · have outside : size - length > size - 1 ∨ size - length ≥ size := by omega
      rw [if_pos outside, if_neg fun both => selected both.1]
  · rw [checked_eq_none_iff.mpr (Nat.le_of_not_lt fits)]
    by_cases some_byte : 0 < size
    · rw [if_pos ⟨by omega, some_byte⟩]
      simpa [clippedRange, some_byte] using fits
    · rw [if_neg fun both => some_byte both.2]
      simp [clippedRange, some_byte]

/-! ## Headers for an object -/

/-- Ranges are parsed, read and chosen as they should be exactly if the object is not empty where a
range to its end is asked for and no number that counts is too large for a word. -/
theorem rangeServed_iff (header : String) (size : Nat) (word : size < 2 ^ 64) :
    RangeServed header size ↔ RangeFits header size := by
  constructor
  · intro served
    refine ⟨fun number parsed written => ?_, fun first last writtenRange inside => ?_,
      fun length writtenRange nonempty => ?_⟩
    · by_contra empty
      refine served.computes (parseRangeHeader_eq_none_iff.mpr ⟨by omega, number, parsed, written⟩)
    · obtain ⟨digits, digits', decimal, decimal', written⟩ := writtenRange.sides
      exact (parse_closed_eq_iff word decimal decimal' written).mp
        (served.standard _ writtenRange) inside
    · obtain ⟨digits, decimal, written⟩ := writtenRange.digits
      exact (parse_suffix_eq_iff (fun _ => nonempty) decimal written).mp
        (served.standard _ writtenRange) nonempty
  · intro fits
    refine ⟨fun underflow => ?_, fun start stop parsed => ?_, fun form writtenRange => ?_⟩
    · obtain ⟨empty, number, parsed, written⟩ := parseRangeHeader_eq_none_iff.mp underflow
      have nonempty := fits.nonempty number parsed written
      omega
    · obtain ⟨ordered, inside⟩ := parseRangeHeader_within parsed
      refine ⟨ordered, inside, fun data length_eq => ?_⟩
      subst length_eq
      exact ⟨_, getObjectRange_within ordered inside word, slice_spec ordered inside⟩
    · cases form with
      | closed first last =>
          obtain ⟨digits, digits', decimal, decimal', written⟩ := writtenRange.sides
          exact (parse_closed_eq_iff word decimal decimal' written).mpr
            (fits.last _ _ writtenRange)
      | «from» first =>
          cases writtenRange with
          | «from» decimal written =>
              refine parse_from_eq word (fun small => ?_) decimal written
              exact fits.nonempty _ (decimal.isSome_parseU64 small) (.inl written)
      | suffix length =>
          obtain ⟨digits, decimal, written⟩ := writtenRange.digits
          refine (parse_suffix_eq_iff (fun small => ?_) decimal written).mpr
            (fits.suffix _ writtenRange)
          exact fits.nonempty _ (decimal.isSome_parseU64 small) (.inr written)

/-- The first kibibyte of four. -/
theorem rangeServed_first_kibibyte : RangeServed "bytes=0-1023" 4096 := by
  refine (rangeServed_iff "bytes=0-1023" 4096 (by decide)).mpr
    ⟨fun _ _ _ => by decide, fun first last writtenRange _ => ?_, fun length writtenRange _ => ?_⟩
  · obtain ⟨digits, digits', decimal, decimal', written⟩ := writtenRange.sides
    have same : digits ++ '-' :: digits' = "0-1023".toList :=
      List.append_cancel_left (written.symm.trans (by decide))
    have split := splitOn_eq_pair_iff.mpr ⟨rfl, decimal.dash_not_mem, decimal'.dash_not_mem⟩
    rw [same, show "0-1023".toList.splitOn '-' = [['0'], "1023".toList] by decide] at split
    have digits_eq : "1023".toList = digits' := (List.cons.inj (List.cons.inj split).2).1
    rw [← decimal'.2.2, ← digits_eq]
    decide
  · obtain ⟨digits, -, written⟩ := writtenRange.digits
    have same : '-' :: digits = "0-1023".toList :=
      List.append_cancel_left (written.symm.trans (by decide))
    exact absurd (List.cons.inj same).1 (by decide)

/-- For an empty object the last byte of an open range is computed below zero. -/
theorem rangeServed_refuted : ¬ ∀ header size, size < 2 ^ 64 → RangeServed header size := by
  intro all
  exact (all "bytes=0-" 0 (by decide)).computes (by decide)

/-! ## Answers -/

section Answers

variable {rfc3339 : Time → String} {state : MemoryBuckets} {bucket key : String}

/-- Without a range the object is answered as a whole. -/
theorem getObjectRanged_none :
    (S3Handlers.getObjectRanged rfc3339 state bucket key none).map
        (Except.map ObjectAnswer.whole) =
      some (S3Handlers.getObject rfc3339 state bucket key) := by
  have reads : (S3Handlers.memoryReads state).getObject bucket key = state.getObject bucket key := rfl
  rw [S3Handlers.getObjectRanged, S3Handlers.getObject, ObjectReads.object, reads,
    ← S3Handlers.responseMetadata]
  cases S3Handlers.responseMetadata state bucket key with
  | error cause => rfl
  | ok metadata =>
      cases state.getObject bucket key with
      | error cause => simp [S3Handlers.requestedRange, Except.mapError, Except.bind, Except.map]
      | ok data =>
          simp only [S3Handlers.requestedRange, Option.filter_none, Option.bind_some,
            Except.mapError, Option.map_some, Except.bind, S3Handlers.objectAnswer]
          cases isHeaderText metadata.contentType <;> rfl

/-- A parsed range is answered with its bytes, under their positions and the size of the object. -/
theorem getObjectRanged_some {metadata : ObjectMetadata} {data : Bytes} {start stop : Nat}
    (found : S3Handlers.responseMetadata state bucket key = .ok metadata)
    (read : state.getObject bucket key = .ok data) (sized : metadata.size = data.length)
    (word : data.length < 2 ^ 64) (texts : isHeaderText metadata.contentType)
    (textual : isHeaderText header)
    (parsed : parseRangeHeader header metadata.size = some (some (start, stop))) :
    S3Handlers.getObjectRanged rfc3339 state bucket key (some header) =
      some (.ok
        { status := 206
          contentType := metadata.contentType
          contentLength := stop - start + 1
          etag := S3Handlers.quoted metadata.etag
          lastModified := rfc3339 metadata.lastModified
          contentRange := some
            ("bytes " ++ toString start ++ "-" ++ toString stop ++ "/" ++ toString metadata.size)
          body := (data.take (stop + 1)).drop start }) := by
  obtain ⟨ordered, inside⟩ := parseRangeHeader_within parsed
  rw [sized] at inside
  rw [S3Handlers.getObjectRanged, found]
  simp only [S3Handlers.requestedRange, Option.filter_some, textual, if_true, parsed,
    Option.bind_some, read, getObjectRange_within ordered inside word, Option.map_some,
    Except.bind, S3Handlers.objectAnswer, texts, Bool.not_true, Bool.false_eq_true, if_false,
    (slice_spec ordered inside).1, Option.isSome_some]

end Answers

end CyxCloud.Gateway
