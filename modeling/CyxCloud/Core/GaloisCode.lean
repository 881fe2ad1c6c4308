import Mathlib.Data.List.GetD
import Mathlib.FieldTheory.Finite.GaloisField
import CyxCloud.Core.Erasure
import CyxCloud.Library.Interpolation

/-!
# A Reed-Solomon crate over the field of 256 elements

The crate evaluates, byte column by byte column, the polynomial that the data shards determine at
the points numbered by the shard indices.  This file carries that out over the field of 256
elements and shows that the result is lawful, so the assumptions on the crate are consistent.
-/

namespace CyxCloud.Core.GaloisCode

open Library Polynomial

/-- The field of 256 elements. -/
abbrev Field256 := GaloisField 2 8

/-- Bytes are the numbers below 256. -/
def byteEquivFin : UInt8 ≃ Fin 256 where
  toFun byte := byte.toFin
  invFun value := UInt8.ofFin value
  left_inv _ := by simp
  right_inv _ := by simp

/-- A numbering of the field by bytes. -/
noncomputable def label : UInt8 ≃ Field256 :=
  byteEquivFin.trans (Finite.equivFinOfCardEq (GaloisField.card 2 8 (by decide))).symm

/-- The evaluation point of a shard index. -/
noncomputable def point (i : ℕ) : Field256 := label (UInt8.ofNat i)

theorem point_injOn : Set.InjOn point (Finset.range 256) := by
  intro i member j member' equal
  have bytes := label.injective equal
  have values := congrArg UInt8.toNat bytes
  rw [Finset.coe_range, Set.mem_Iio] at member member'
  simpa [UInt8.toNat_ofNat', Nat.mod_eq_of_lt member, Nat.mod_eq_of_lt member'] using values

/-- One byte column of a shard vector. -/
noncomputable def column (shards : List Bytes) (offset : ℕ) (i : ℕ) : Field256 :=
  label ((shards.getD i []).getD offset 0)

/-- The shard at a position of the codeword of a message. -/
noncomputable def codeShard (k size : ℕ) (message : List Bytes) (position : ℕ) : Bytes :=
  (List.range size).map fun offset =>
    label.symm (codeSymbol point k (column message offset) position)

/-- Positions at which a partial vector has a shard. -/
def presentPositions (received : List (Option Bytes)) : Finset ℕ :=
  (Finset.range received.length).filter fun i => (received.getD i none).isSome = true

/-- The shard at a position, interpolated from the shards that are present. -/
noncomputable def interpolatedShard (size : ℕ) (received : List (Option Bytes))
    (position : ℕ) : Bytes :=
  (List.range size).map fun offset =>
    label.symm
      ((Lagrange.interpolate (presentPositions received) point
          (column (received.map fun slot => slot.getD []) offset)).eval (point position))

/-- Length of the first shard that is present. -/
def presentSize (received : List (Option Bytes)) : ℕ :=
  ((received.findSome? fun slot => slot).getD []).length

/-- The codec for `k` data and `m` parity shards. -/
noncomputable def codec (k m : ℕ) : ReedSolomon where
  encode shards :=
    if shards.length < k + m then .error .tooFewShards
    else if k + m < shards.length then .error .tooManyShards
    else if (shards.getD 0 []).length = 0 then .error .emptyShard
    else if ∃ shard ∈ shards, shard.length ≠ (shards.getD 0 []).length then
      .error .incorrectShardSize
    else
      .ok (shards.take k ++
        (List.range m).map fun j => codeShard k (shards.getD 0 []).length (shards.take k) (k + j))
  reconstruct received :=
    if received.countP Option.isSome < k then .error .tooFewShardsPresent
    else
      .ok ((List.range received.length).map fun i =>
        some ((received.getD i none).getD
          (interpolatedShard (presentSize received) received i)))

/-- The crate refuses empty and oversized configurations. -/
noncomputable def crate : ReedSolomonCrate where
  new k m :=
    if k = 0 then .error .tooFewDataShards
    else if m = 0 then .error .tooFewParityShards
    else if 256 < k + m then .error .tooManyShards
    else .ok (codec k m)

theorem length_codeShard (k size : ℕ) (message : List Bytes) (position : ℕ) :
    (codeShard k size message position).length = size := by
  simp [codeShard]

/-- One-byte shards numbered by their indices continue with their indices: the polynomial is the
identity, whichever way the field is numbered. -/
theorem codeShard_identity {k position : ℕ} (k_ge : 2 ≤ k) (k_le : k ≤ 256) :
    codeShard k 1 ((List.range k).map fun i => [UInt8.ofNat i]) position =
      [UInt8.ofNat position] := by
  have values : ∀ i ∈ Finset.range k,
      column ((List.range k).map fun i => [UInt8.ofNat i]) 0 i = (X : Field256[X]).eval (point i) := by
    intro i member
    have bound := Finset.mem_range.mp member
    simp [column, point, bound]
  have symbol : codeSymbol point k (column ((List.range k).map fun i => [UInt8.ofNat i]) 0)
      position = point position := by
    rw [codeSymbol, Lagrange.interpolate_eq_of_values_eq_on _ _ values, ← codeSymbol,
      codeSymbol_eval point_injOn k_le (by rw [degree_X]; exact_mod_cast k_ge), eval_X]
  simp [codeShard, symbol, point]

/-- The codeword of a message, as a full shard vector. -/
noncomputable def codeVector (k m size : ℕ) (message : List Bytes) : List Bytes :=
  (List.range (k + m)).map (codeShard k size message)

section

variable {k m size : ℕ} {message blank : List Bytes}
  (total_le : k + m ≤ 256) (message_length : message.length = k)
  (uniform : ∀ shard ∈ message, shard.length = size)

include total_le message_length uniform in
/-- The data part of a codeword is the message. -/
theorem codeShard_message {position : ℕ} (bound : position < k) :
    codeShard k size message position = message.getD position [] := by
  have in_message : position < message.length := by omega
  have full : (message.getD position []).length = size := by
    rw [List.getD_eq_getElem _ _ in_message]
    exact uniform _ (List.getElem_mem in_message)
  calc
    codeShard k size message position =
        (List.range size).map fun offset => (message.getD position []).getD offset 0 := by
      apply List.map_congr_left
      intro offset _
      rw [codeSymbol_message point_injOn (by omega) _ bound, column,
        Equiv.symm_apply_apply]
    _ = message.getD position [] := map_getD_range full 0

include total_le message_length uniform in
theorem codeVector_eq :
    codeVector k m size message =
      message ++ (List.range m).map fun j => codeShard k size message (k + j) := by
  rw [codeVector, List.range_add, List.map_append, List.map_map]
  congr 1
  apply List.ext_getElem
  · simp [message_length]
  · intro i left right
    have bound : i < k := by omega
    rw [List.getElem_map, List.getElem_range,
      codeShard_message total_le message_length uniform bound, List.getD_eq_getElem _ _ right]

include total_le message_length in
theorem codec_encode (blank_length : blank.length = m)
    (uniformShards : UniformShards size (message ++ blank)) (k_positive : 0 < k) :
    (codec k m).encode (message ++ blank) = .ok (codeVector k m size message) := by
  have message_uniform : ∀ shard ∈ message, shard.length = size := fun shard member =>
    uniformShards.2 shard (List.mem_append_left blank member)
  have first : ((message ++ blank).getD 0 []).length = size := by
    rw [List.getD_eq_getElem _ _ (by rw [List.length_append]; omega)]
    exact uniformShards.2 _ (List.getElem_mem _)
  have matching : ¬∃ shard ∈ message ++ blank, shard.length ≠ size := by
    rintro ⟨shard, member, different⟩
    exact different (uniformShards.2 shard member)
  have total : (message ++ blank).length = k + m := by
    rw [List.length_append, message_length, blank_length]
  have take_message : (message ++ blank).take k = message := List.take_left' message_length
  simp only [codec, total, lt_self_iff_false, ↓reduceIte, first, matching,
    uniformShards.1.ne', take_message]
  rw [codeVector_eq total_le message_length message_uniform]

theorem length_codeVector : (codeVector k m size message).length = k + m := by
  simp [codeVector]

theorem getElem?_codeVector {i : ℕ} (bound : i < k + m) :
    (codeVector k m size message)[i]? = some (codeShard k size message i) := by
  simp [codeVector, List.getElem?_range bound]

variable {received : List (Option Bytes)}
  (erased : Erases (codeVector k m size message) received)

include erased in
theorem length_received : received.length = k + m := by
  rw [← erased.length_eq, length_codeVector]

include erased in
theorem received_eq_codeShard {i : ℕ} {shard : Bytes} (present : received[i]? = some (some shard)) :
    shard = codeShard k size message i := by
  have bound : i < k + m := by
    have inside := (List.getElem?_eq_some_iff.mp present).1
    rwa [length_received erased] at inside
  have agreed := (erases_iff_getElem.mp erased).2 i shard present
  rw [getElem?_codeVector bound, Option.some.injEq] at agreed
  exact agreed.symm

include erased in
theorem mem_presentPositions {i : ℕ} (member : i ∈ presentPositions received) :
    received[i]? = some (some (codeShard k size message i)) := by
  obtain ⟨inside, isSome⟩ := Finset.mem_filter.mp member
  have bound := Finset.mem_range.mp inside
  rw [List.getD_eq_getElem _ _ bound] at isSome
  obtain ⟨shard, found⟩ := Option.isSome_iff_exists.mp isSome
  have present : received[i]? = some (some shard) := by
    rw [List.getElem?_eq_getElem bound, found]
  rw [present, received_eq_codeShard erased present]

theorem card_presentPositions (received : List (Option Bytes)) :
    (presentPositions received).card = received.countP Option.isSome := by
  rw [presentPositions, ← countP_range]
  have range_eq : (List.range received.length).map (fun i => received.getD i none) =
      received := by
    apply List.ext_getElem
    · simp
    · intro i _ bound
      simp [bound]
  calc
    (List.range received.length).countP (fun i => (received.getD i none).isSome) =
        ((List.range received.length).map fun i => received.getD i none).countP
          Option.isSome := by
      rw [List.countP_map]
      rfl
    _ = received.countP Option.isSome := by rw [range_eq]

include erased in
theorem presentSize_eq (enough : 0 < received.countP Option.isSome) :
    presentSize received = size := by
  obtain ⟨slot, member, isSome⟩ := List.countP_pos_iff.mp enough
  have found : (received.findSome? fun slot => slot).isSome := by
    rw [List.findSome?_isSome_iff]
    exact ⟨slot, member, isSome⟩
  obtain ⟨shard, first⟩ := Option.isSome_iff_exists.mp found
  obtain ⟨front, slot', _, _, here, _⟩ := List.findSome?_eq_some_iff.mp first
  rw [presentSize, first, Option.getD_some]
  have present : received[front.length]? = some (some shard) := by
    simp_all
  rw [received_eq_codeShard erased present, length_codeShard]

include total_le erased in
/-- Interpolating from any `k` shards restores every shard of the codeword. -/
theorem interpolatedShard_eq (k_positive : 0 < k)
    (enough : k ≤ received.countP Option.isSome) (position : ℕ) :
    interpolatedShard (presentSize received) received position =
      codeShard k size message position := by
  have inside : presentPositions received ⊆ Finset.range 256 := by
    intro i member
    have bound := Finset.mem_range.mp (Finset.mem_filter.mp member).1
    rw [length_received erased] at bound
    exact Finset.mem_range.mpr (by omega)
  rw [presentSize_eq erased (by omega)]
  apply List.map_congr_left
  intro offset offset_bound
  have offset_lt := List.mem_range.mp offset_bound
  congr 1
  have values : ∀ i ∈ presentPositions received,
      column (received.map fun slot => slot.getD []) offset i =
        codeSymbol point k (column message offset) i := by
    intro i member
    have present := mem_presentPositions erased member
    have here : (received.map fun slot => slot.getD []).getD i [] =
        codeShard k size message i := by
      rw [List.getD_eq_getElem?_getD, List.getElem?_map, present]
      rfl
    rw [column, here, codeShard, List.getD_eq_getElem?_getD, List.getElem?_map,
      List.getElem?_range offset_lt]
    simp
  rw [Lagrange.interpolate_eq_of_values_eq_on _ _ values,
    interpolate_codeSymbol point_injOn (by omega) _ inside
      (by rw [card_presentPositions]; exact enough)]

include total_le erased in
theorem codec_reconstruct (k_positive : 0 < k) (enough : k ≤ received.countP Option.isSome) :
    (codec k m).reconstruct received = .ok ((codeVector k m size message).map some) := by
  simp only [codec, Nat.not_lt.mpr enough, ↓reduceIte]
  congr 1
  rw [length_received erased, codeVector, List.map_map]
  apply List.map_congr_left
  intro i member
  have bound := List.mem_range.mp member
  rw [interpolatedShard_eq total_le erased k_positive enough, Function.comp_apply]
  congr 1
  have inside : i < received.length := by rw [length_received erased]; exact bound
  rw [List.getD_eq_getElem _ _ inside]
  cases present : received[i] with
  | none => rfl
  | some shard =>
      rw [Option.getD_some]
      exact received_eq_codeShard erased (by rw [List.getElem?_eq_getElem inside, present])

end

theorem codec_isCode {k m : ℕ} (k_positive : 0 < k) (total_le : k + m ≤ 256) :
    (codec k m).IsCode k m where
  encode_fills := by
    intro size message blank message_length blank_length uniform
    have message_uniform : ∀ shard ∈ message, shard.length = size := fun shard member =>
      uniform.2 shard (List.mem_append_left blank member)
    refine ⟨(List.range m).map fun j => codeShard k size message (k + j), ?_, by simp, ?_⟩
    · rw [codec_encode total_le message_length blank_length uniform k_positive,
        codeVector_eq total_le message_length message_uniform]
    · intro shard member
      obtain ⟨j, _, rfl⟩ := List.mem_map.mp member
      exact length_codeShard k size message (k + j)
  reconstruct_erased := by
    intro size message blank encoded received message_length blank_length uniform encoded_eq
      erased enough
    rw [codec_encode total_le message_length blank_length uniform k_positive,
      Except.ok.injEq] at encoded_eq
    subst encoded_eq
    exact codec_reconstruct total_le erased k_positive enough

/-- The assumptions on the Reed-Solomon crate are met by interpolation over 256 elements. -/
theorem crate_lawful : crate.Lawful := by
  intro k m k_positive m_positive total_le
  refine ⟨codec k m, ?_, codec_isCode k_positive total_le⟩
  simp only [crate, Nat.ne_of_gt k_positive, Nat.ne_of_gt m_positive, ↓reduceIte,
    Nat.not_lt.mpr total_le]

end CyxCloud.Core.GaloisCode
