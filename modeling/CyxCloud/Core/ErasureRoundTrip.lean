import CyxCloud.Core.GaloisCode

/-!
# The erasure round trip

Encoding a non-empty block and decoding any sufficiently large set of its shards gives the block
back, whatever the configuration, the length of the block and the shards that are missing.
-/

namespace CyxCloud.Core

open Library

namespace ErasureEncoder

/-- A lawful crate yields a valid encoder for every admissible configuration. -/
theorem withConfig_valid {crate : ReedSolomonCrate} (lawful : crate.Lawful)
    {config : ErasureConfig} (data_positive : 1 ≤ config.dataShards)
    (parity_positive : 1 ≤ config.parityShards) (total_le : config.totalShards ≤ 256) :
    ∃ encoder, withConfig crate config = .ok encoder ∧ encoder.Valid ∧
      encoder.config = config := by
  obtain ⟨codec, built, isCode⟩ :=
    lawful config.dataShards config.parityShards data_positive parity_positive total_le
  exact ⟨{ config, encoder := codec }, by simp only [withConfig, built],
    ⟨data_positive, isCode⟩, rfl⟩

/-- Labels of an encoded shard. -/
theorem label_of_getElem? {self : ErasureEncoder} (valid : self.Valid)
    (total_le : self.config.totalShards ≤ 256) {data : Bytes} (data_ne : data ≠ []) {i : Nat}
    {shard : ShardData}
    (found : ((self.encodedShards data).mapIdx self.labelShard)[i]? = some shard) :
    shard.index.toNat = i ∧ shard.data.length = divCeil data.length self.config.dataShards ∧
      (shard.isParity = true ↔ self.config.dataShards ≤ i) := by
  obtain ⟨bound, rfl⟩ := List.getElem?_eq_some_iff.mp found
  rw [List.length_mapIdx] at bound
  have contents := length_of_mem_encodedShards valid data_ne (List.getElem_mem bound)
  rw [length_encodedShards valid data_ne] at bound
  rw [List.getElem_mapIdx]
  refine ⟨?_, contents, decide_eq_true_iff⟩
  rw [labelShard, UInt8.toNat_ofNat', Nat.mod_eq_of_lt (by omega)]

theorem data_mapIdx_labelShard (self : ErasureEncoder) (shards : List Bytes) :
    (shards.mapIdx self.labelShard).map ShardData.data = shards := by
  apply List.ext_getElem
  · simp
  · intro i _ _
    simp [labelShard]

end ErasureEncoder

open ErasureEncoder

/-- Encoding produces `k + m` equally long, correctly labelled shards, in parallel as in
sequence; any `k` of them decode to the data and fewer are reported as insufficient. -/
theorem erasure_round_trip (crate : ReedSolomonCrate) (lawful : crate.Lawful)
    (schedule : Schedule) (config : ErasureConfig) (data_positive : 1 ≤ config.dataShards)
    (parity_positive : 1 ≤ config.parityShards) (total_le : config.totalShards ≤ 256)
    (data : Bytes) (data_ne : data ≠ []) :
    ∃ encoder shards,
      withConfig crate config = .ok encoder ∧
        encoder.encode data = .ok shards ∧
        encoder.encodeParallel schedule data = .ok shards ∧
        shards.length = config.totalShards ∧
        (∀ (i : Nat) (shard : ShardData), shards[i]? = some shard →
          shard.index.toNat = i ∧
            shard.data.length = divCeil data.length config.dataShards ∧
            (shard.isParity = true ↔ config.dataShards ≤ i)) ∧
        ∀ kept ⊆ Finset.range config.totalShards,
          (config.dataShards ≤ kept.card →
              encoder.decode (keepAt kept shards) data.length = .ok data) ∧
            (kept.card < config.dataShards →
              encoder.decode (keepAt kept shards) data.length =
                .error (.insufficientShards kept.card config.dataShards)) := by
  obtain ⟨encoder, built, valid, rfl⟩ :=
    withConfig_valid lawful data_positive parity_positive total_le
  have shards_length := length_encodedShards valid data_ne
  refine ⟨encoder, (encoder.encodedShards data).mapIdx encoder.labelShard, built,
    encode_eq valid data_ne, ?_, by rw [List.length_mapIdx, shards_length],
    fun i shard found => label_of_getElem? valid total_le data_ne found,
    fun kept inside => ?_⟩
  · rw [encodeParallel_eq_encode, encode_eq valid data_ne]
  · have kept_count : (keepAt kept ((encoder.encodedShards data).mapIdx
        encoder.labelShard)).countP Option.isSome = kept.card := by
      apply countP_keepAt
      rwa [List.length_mapIdx, shards_length]
    refine ⟨fun enough => ?_, fun short => ?_⟩
    · apply decode_erased valid data_ne _ (by rwa [kept_count])
      have erased := (erases_keepAt kept ((encoder.encodedShards data).mapIdx
        encoder.labelShard)).map ShardData.data
      rwa [data_mapIdx_labelShard] at erased
    · rw [← kept_count]
      apply decode_insufficient
      · rw [length_keepAt, List.length_mapIdx, shards_length]
      · rwa [kept_count]

/-- The bytes 0 and 1 over two data shards and one parity shard survive the loss of the first. -/
theorem erasure_round_trip_two_of_three :
    ∃ encoder shards,
      withConfig GaloisCode.crate { dataShards := 2, parityShards := 1 } = .ok encoder ∧
        encoder.encode [0, 1] = .ok shards ∧
        encoder.decode (keepAt {1, 2} shards) 2 = .ok [0, 1] ∧
        encoder.decode (keepAt {2} shards) 2 = .error (.insufficientShards 1 2) := by
  obtain ⟨encoder, shards, built, encoded, _, _, _, decoded⟩ :=
    erasure_round_trip GaloisCode.crate GaloisCode.crate_lawful Schedule.inOrder
      { dataShards := 2, parityShards := 1 } (by decide) (by decide) (by decide) [0, 1]
      (by decide)
  exact ⟨encoder, shards, built, encoded, (decoded {1, 2} (by decide)).1 (by decide),
    (decoded {2} (by decide)).2 (by decide)⟩

end CyxCloud.Core
