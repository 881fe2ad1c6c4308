import CyxCloud.Core.ErasureRoundTrip

/-!
# Checking shards

`verify_shards` of `cyxcloud-core/src/erasure.rs`, the check of the shards of a block.  The check of
the Reed-Solomon crate enters as a function that tells whether encoding changes anything.
-/

namespace CyxCloud.Core

open Library

/-! ## Agreement -/

section

variable {α : Type} [DecidableEq α]

/-- The entries at which two vectors agree. -/
def agreeing (left right : List α) : List (Option α) :=
  List.zipWith (fun entry other => if entry = other then some entry else none) left right

/-- How many entries of two vectors differ. -/
def differing (left right : List α) : Nat := (agreeing left right).countP Option.isNone

theorem erases_agreeing_left {left right : List α} (lengths : left.length = right.length) :
    Erases left (agreeing left right) := by
  induction left generalizing right with
  | nil => exact .nil
  | cons entry left induction =>
      cases right with
      | nil => cases lengths
      | cons other right =>
          refine .cons ?_ (induction (Nat.succ.inj lengths))
          by_cases same : entry = other
          · exact .inr (if_pos same)
          · exact .inl (if_neg same)

theorem agreeing_comm (left right : List α) : agreeing left right = agreeing right left := by
  rw [agreeing, agreeing, List.zipWith_comm]
  congr
  funext entry other
  by_cases same : entry = other
  · rw [if_pos same, if_pos same.symm, same]
  · rw [if_neg same, if_neg (Ne.symm same)]

theorem countP_agreeing {left right : List α} (lengths : left.length = right.length) :
    (agreeing left right).countP Option.isSome + differing left right = left.length := by
  have total : (agreeing left right).length = left.length := by
    rw [agreeing, List.length_zipWith, lengths, Nat.min_self]
  have others : differing left right =
      (agreeing left right).countP fun slot => decide ¬slot.isSome = true := by
    refine List.countP_congr fun slot _ => ?_
    cases slot <;> simp
  rw [← total, List.length_eq_countP_add_countP Option.isSome, others]

/-- Vectors that agree somewhere share an entry. -/
theorem exists_common {left right : List α}
    (agree : 0 < (agreeing left right).countP Option.isSome) : ∃ entry ∈ left, entry ∈ right := by
  induction left generalizing right with
  | nil => cases agree
  | cons entry left induction =>
      cases right with
      | nil => cases agree
      | cons other right =>
          by_cases same : entry = other
          · exact ⟨entry, List.mem_cons_self, same ▸ List.mem_cons_self⟩
          · have later : 0 < (agreeing left right).countP Option.isSome := by
              simpa [agreeing, same] using agree
            obtain ⟨found, member, member'⟩ := induction later
            exact ⟨found, List.mem_cons_of_mem entry member, List.mem_cons_of_mem other member'⟩

/-- Vectors with a common beginning agree on it. -/
theorem length_le_countP_agreeing (front left right : List α) :
    front.length ≤ (agreeing (front ++ left) (front ++ right)).countP Option.isSome := by
  induction front with
  | nil => exact Nat.zero_le _
  | cons entry front induction =>
      rw [agreeing] at induction ⊢
      simp only [List.cons_append, List.zipWith_cons_cons, if_true, List.countP_cons,
        Option.isSome_some, List.length_cons]
      omega

end

/-! ## Code words -/

namespace ReedSolomon.IsCode

variable {codec : ReedSolomon} {dataShards parityShards size : Nat}
  (code : codec.IsCode dataShards parityShards)
include code

/-- Two encoded vectors that agree on enough shards are the same. -/
theorem eq_of_agreeing {message blank message' blank' encoded encoded' : List Bytes}
    (message_length : message.length = dataShards) (blank_length : blank.length = parityShards)
    (uniform : UniformShards size (message ++ blank))
    (message_length' : message'.length = dataShards) (blank_length' : blank'.length = parityShards)
    (uniform' : UniformShards size (message' ++ blank'))
    (encodes : codec.encode (message ++ blank) = .ok encoded)
    (encodes' : codec.encode (message' ++ blank') = .ok encoded')
    (lengths : encoded.length = encoded'.length)
    (enough : dataShards ≤ (agreeing encoded encoded').countP Option.isSome) :
    encoded = encoded' := by
  have first := code.reconstruct_erased message_length blank_length uniform encodes
    (erases_agreeing_left lengths) enough
  have second := code.reconstruct_erased message_length' blank_length' uniform' encodes'
    (agreeing_comm encoded encoded' ▸ erases_agreeing_left lengths.symm) enough
  have same := Except.ok.inj (first.symm.trans second)
  exact List.map_injective_iff.mpr (Option.some_injective Bytes) same

end ReedSolomon.IsCode

/-! ## The check -/

/-- What the crate's check promises: on enough shards of one positive length it tells whether
encoding them changes nothing. -/
def VerifiesParity (codec : ReedSolomon) (totalShards : Nat)
    (verify : List Bytes → Except ReedSolomonError Bool) : Prop :=
  ∀ size shards, shards.length = totalShards → UniformShards size shards →
    ∃ answer, verify shards = .ok answer ∧ (answer = true ↔ codec.encode shards = .ok shards)

namespace ErasureEncoder

/-- Verify that shards are consistent. -/
def verifyShards (self : ErasureEncoder) (verify : List Bytes → Except ReedSolomonError Bool)
    (shards : List ShardData) : Except CyxCloudError Bool :=
  if shards.length ≠ self.config.totalShards then
    .ok false
  else
    let expectedSize := (shards.head?.map ShardData.size).getD 0
    if !shards.all fun shard => shard.size == expectedSize then
      .ok false
    else
      match verify (shards.map ShardData.data) with
      | .error cause => .error (.erasureCoding cause)
      | .ok answer => .ok answer

section

variable {self : ErasureEncoder} {verify : List Bytes → Except ReedSolomonError Bool}
  (valid : self.Valid) {data : Bytes} (data_ne : data ≠ [])

include valid data_ne

/-- Encoding the shards of a block again makes no difference. -/
theorem encode_encodedShards :
    self.encoder.encode (self.encodedShards data) = .ok (self.encodedShards data) := by
  obtain ⟨parity, vector, encoded, parity_length, parity_uniform⟩ :=
    encodedShards_spec valid data_ne
  have pieces_length := length_dataPieces valid data_ne
  have blank := uniform_blankShards valid data_ne
  have uniform : UniformShards (self.calculateShardSize data.length)
      (self.dataPieces data ++ parity) := by
    refine ⟨blank.1, fun shard member => ?_⟩
    rcases List.mem_append.mp member with piece | redundant
    · exact length_of_mem_dataPieces valid data_ne piece
    · exact parity_uniform shard redundant
  obtain ⟨parity', again, parity_length', -⟩ :=
    valid.isCode.encode_fills pieces_length parity_length uniform
  rw [vector] at encoded ⊢
  have lengths : (self.dataPieces data ++ parity).length =
      (self.dataPieces data ++ parity').length := by
    rw [List.length_append, List.length_append, parity_length, parity_length']
  have same := valid.isCode.eq_of_agreeing pieces_length (by simp) blank pieces_length
    parity_length uniform encoded again lengths
    (pieces_length ▸ length_le_countP_agreeing (self.dataPieces data) parity parity')
  rw [again, ← same]

section

variable {received : List Bytes} (length_eq : received.length = self.config.totalShards)
  (few : differing (self.encodedShards data) received ≤ self.config.parityShards)
include length_eq few

theorem dataShards_le_countP_agreeing : self.config.dataShards ≤
    (agreeing (self.encodedShards data) received).countP Option.isSome := by
  have encoded_length := length_encodedShards valid data_ne
  have counted := countP_agreeing (encoded_length.trans length_eq.symm)
  rw [encoded_length, ErasureConfig.totalShards] at counted
  omega

/-- One of the shards is unchanged. -/
theorem exists_unchanged :
    ∃ shard ∈ received, shard.length = self.calculateShardSize data.length := by
  obtain ⟨shard, member, member'⟩ := exists_common (Nat.lt_of_lt_of_le valid.dataShards_positive
    (dataShards_le_countP_agreeing valid data_ne length_eq few))
  exact ⟨shard, member', length_of_mem_encodedShards valid data_ne member⟩

/-- Among the vectors that differ from the shards of a block in few places, these shards alone are
an encoding. -/
theorem encode_eq_iff_of_few {size : Nat} (uniform : UniformShards size received) :
    self.encoder.encode received = .ok received ↔ received = self.encodedShards data := by
  constructor
  · intro unchanged
    obtain ⟨_, _, encoded, _, _⟩ := encodedShards_spec valid data_ne
    obtain ⟨shard, member, shard_size⟩ := exists_unchanged valid data_ne length_eq few
    have lengths := (length_encodedShards valid data_ne).trans length_eq.symm
    have enough := dataShards_le_countP_agreeing valid data_ne length_eq few
    rw [(uniform.2 shard member).symm.trans shard_size] at uniform
    rw [ErasureConfig.totalShards] at length_eq
    have whole := List.take_append_drop self.config.dataShards received
    refine (valid.isCode.eq_of_agreeing (length_dataPieces valid data_ne) (by simp)
      (uniform_blankShards valid data_ne) (List.length_take_of_le (by omega))
      (by rw [List.length_drop]; omega) (whole.symm ▸ uniform) encoded (whole.symm ▸ unchanged)
      lengths enough).symm
  · rintro rfl
    exact encode_encodedShards valid data_ne

end

/-- The shards of a block pass the check, and every change of at most as many shards as there are
parity shards is detected, be it of their contents or of their sizes. -/
theorem verifyShards_detects
    (verifies : VerifiesParity self.encoder self.config.totalShards verify)
    {shards received : List ShardData} (encoded : self.encode data = .ok shards)
    (few : differing (shards.map ShardData.data) (received.map ShardData.data) ≤
      self.config.parityShards) (length_eq : received.length = shards.length) :
    self.verifyShards verify received =
      .ok (decide (received.map ShardData.data = shards.map ShardData.data)) := by
  rw [encode_eq valid data_ne] at encoded
  have contents : shards.map ShardData.data = self.encodedShards data := by
    rw [← Except.ok.inj encoded, data_mapIdx_labelShard]
  have total : received.length = self.config.totalShards := by
    rw [length_eq, ← length_encodedShards valid data_ne, ← contents, List.length_map]
  rw [contents] at few ⊢
  rw [verifyShards, if_neg (Classical.not_not.mpr total)]
  by_cases uniform : ∀ shard ∈ received,
      shard.size = (received.head?.map ShardData.size).getD 0
  · have passes : (!received.all fun shard =>
        shard.size == (received.head?.map ShardData.size).getD 0) = false := by
      simpa using uniform
    have uniform' : UniformShards ((received.head?.map ShardData.size).getD 0)
        (received.map ShardData.data) := by
      obtain ⟨bytes, member, size_eq⟩ :=
        exists_unchanged valid data_ne ((List.length_map _).trans total) few
      obtain ⟨shard, listed, rfl⟩ := List.mem_map.mp member
      constructor
      · rw [← uniform shard listed, ShardData.size, size_eq]
        exact calculateShardSize_positive valid data_ne
      · rintro bytes member'
        obtain ⟨other, listed', rfl⟩ := List.mem_map.mp member'
        exact uniform other listed'
    obtain ⟨answer, checked, meaning⟩ :=
      verifies _ _ (by rwa [List.length_map]) uniform'
    rw [encode_eq_iff_of_few valid data_ne (by rwa [List.length_map]) few uniform'] at meaning
    simp only [passes, Bool.false_eq_true, if_false, checked, Except.ok.injEq]
    exact Bool.eq_iff_iff.mpr (by rw [meaning, decide_eq_true_iff])
  · have fails : (!received.all fun shard =>
        shard.size == (received.head?.map ShardData.size).getD 0) = true := by
      simpa using uniform
    have different : received.map ShardData.data ≠ self.encodedShards data := by
      intro same
      have sizes : ∀ shard ∈ received, shard.size = self.calculateShardSize data.length :=
        fun shard member => length_of_mem_encodedShards valid data_ne
          (same ▸ List.mem_map_of_mem member)
      refine uniform fun shard member => ?_
      cases received with
      | nil => exact absurd member List.not_mem_nil
      | cons first rest => exact (sizes shard member).trans (sizes first List.mem_cons_self).symm
    simp only [fails, if_true, different, decide_false]

end

/-! ## Three shards -/

/-- Two data shards and one parity shard. -/
noncomputable def threeShards : ErasureEncoder where
  config := { dataShards := 2, parityShards := 1 }
  encoder := GaloisCode.codec 2 1

/-- The check of the codec. -/
noncomputable def encodesToItself (shards : List Bytes) : Except ReedSolomonError Bool :=
  .ok (open Classical in decide ((GaloisCode.codec 2 1).encode shards = .ok shards))

/-- The bytes 0 and 1 as shards, with the third byte as parity. -/
def numberedShards (parity : UInt8) : List ShardData :=
  [{ index := 0, data := [0], isParity := false }, { index := 1, data := [1], isParity := false },
    { index := 2, data := [parity], isParity := true }]

theorem encodedShards_of_encode {self : ErasureEncoder} {data : Bytes} {shards : List Bytes}
    (encoded : self.encoder.encode
      (self.blankShards (self.calculateShardSize data.length) (self.dataPieces data)) =
        .ok shards) : self.encodedShards data = shards := by
  rw [encodedShards, encoded]

theorem encode_threeShards : threeShards.encode [0, 1] = .ok (numberedShards 2) := by
  have valid : threeShards.Valid := ⟨by decide, GaloisCode.codec_isCode (by decide) (by decide)⟩
  have encoded : (GaloisCode.codec 2 1).encode
      (((List.range 2).map fun shardIndex => [UInt8.ofNat shardIndex]) ++
        List.replicate 1 (List.replicate 1 0)) =
      .ok (GaloisCode.codeVector 2 1 1
        ((List.range 2).map fun shardIndex => [UInt8.ofNat shardIndex])) :=
    GaloisCode.codec_encode (by decide) (by decide) (by decide) ⟨by decide, by decide⟩ (by decide)
  have vector : GaloisCode.codeVector 2 1 1
      ((List.range 2).map fun shardIndex => [UInt8.ofNat shardIndex]) = [[0], [1], [2]] :=
    List.map_congr_left fun _ _ => GaloisCode.codeShard_identity (Nat.le_refl 2) (by decide)
  rw [vector] at encoded
  have shards : threeShards.encodedShards [0, 1] = [[0], [1], [2]] :=
    encodedShards_of_encode encoded
  rw [encode_eq valid (by decide), shards]
  decide

/-- The shards pass the check, and another parity byte does not. -/
theorem verifyShards_numbered :
    threeShards.verifyShards encodesToItself (numberedShards 2) = .ok true ∧
      threeShards.verifyShards encodesToItself (numberedShards 9) = .ok false := by
  have valid : threeShards.Valid := ⟨by decide, GaloisCode.codec_isCode (by decide) (by decide)⟩
  have verifies : VerifiesParity threeShards.encoder threeShards.config.totalShards
      encodesToItself := fun _ _ _ _ => ⟨_, rfl, decide_eq_true_iff⟩
  have nonempty : ([0, 1] : Bytes) ≠ [] := by decide
  exact ⟨verifyShards_detects valid nonempty verifies encode_threeShards (by decide) rfl,
    verifyShards_detects valid nonempty verifies encode_threeShards (by decide) rfl⟩

end ErasureEncoder

end CyxCloud.Core
