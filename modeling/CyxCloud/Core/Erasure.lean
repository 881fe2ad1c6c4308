import CyxCloud.Library.Blocks
import CyxCloud.Library.Slots
import Mathlib.Data.List.ReduceOption

/-!
# Erasure coding

The encoder of `cyxcloud-core/src/erasure.rs`.  The Reed-Solomon crate is not part of the
repository: it enters as a value of `ReedSolomonCrate`, and `ReedSolomonCrate.Lawful` states what
its documentation promises, namely that encoding fills the parity part and that any `k` shards of
an encoded vector determine all of them.
-/

namespace CyxCloud.Core

open Library

/-- A byte string. -/
abbrev Bytes := List UInt8

/-- Data shards of the default configuration. -/
def DATA_SHARDS : Nat := 10

/-- Parity shards of the default configuration. -/
def PARITY_SHARDS : Nat := 4

/-- All shards of the default configuration. -/
def TOTAL_SHARDS : Nat := DATA_SHARDS + PARITY_SHARDS

/-! ## The Reed-Solomon crate -/

/-- Errors of the Reed-Solomon crate. -/
inductive ReedSolomonError where
  | tooFewShards
  | tooManyShards
  | tooFewDataShards
  | tooManyDataShards
  | tooFewParityShards
  | tooManyParityShards
  | incorrectShardSize
  | tooFewShardsPresent
  | emptyShard
  deriving DecidableEq, Repr

/-- A codec for fixed shard counts: the shard vector goes in and comes back filled. -/
structure ReedSolomon where
  /-- Overwrite the parity part of a full vector. -/
  encode : List Bytes → Except ReedSolomonError (List Bytes)
  /-- Fill the missing shards of a partial vector. -/
  reconstruct : List (Option Bytes) → Except ReedSolomonError (List (Option Bytes))

/-- All shards of a vector share one positive length. -/
def UniformShards (size : Nat) (shards : List Bytes) : Prop :=
  0 < size ∧ ∀ shard ∈ shards, shard.length = size

/-- The codec is a systematic code with `dataShards` message shards, any `dataShards` of whose
`dataShards + parityShards` shards determine the others. -/
structure ReedSolomon.IsCode (codec : ReedSolomon) (dataShards parityShards : Nat) : Prop where
  /-- Encoding keeps the data part and fills exactly the parity part. -/
  encode_fills : ∀ {size : Nat} {message blank : List Bytes},
    message.length = dataShards → blank.length = parityShards →
      UniformShards size (message ++ blank) →
        ∃ parity, codec.encode (message ++ blank) = .ok (message ++ parity) ∧
          parity.length = parityShards ∧ ∀ shard ∈ parity, shard.length = size
  /-- Any `dataShards` shards of an encoded vector determine all of it. -/
  reconstruct_erased : ∀ {size : Nat} {message blank encoded : List Bytes}
    {received : List (Option Bytes)},
    message.length = dataShards → blank.length = parityShards →
      UniformShards size (message ++ blank) →
        codec.encode (message ++ blank) = .ok encoded →
          Erases encoded received → dataShards ≤ received.countP Option.isSome →
            codec.reconstruct received = .ok (encoded.map some)

/-- The crate: a constructor of codecs from shard counts. -/
structure ReedSolomonCrate where
  /-- Build a codec, or refuse the shard counts. -/
  new : Nat → Nat → Except ReedSolomonError ReedSolomon

/-- Over a field of 256 elements a code exists for every pair of positive counts of at most 256
shards together, and the crate provides it. -/
def ReedSolomonCrate.Lawful (crate : ReedSolomonCrate) : Prop :=
  ∀ dataShards parityShards, 1 ≤ dataShards → 1 ≤ parityShards →
    dataShards + parityShards ≤ 256 →
      ∃ codec, crate.new dataShards parityShards = .ok codec ∧
        codec.IsCode dataShards parityShards

/-! ## Configuration, shards and errors -/

/-- Errors raised by the modules of the core crate that are modelled here. -/
inductive CyxCloudError where
  | erasureCoding (cause : ReedSolomonError)
  | insufficientShards (available required : Nat)
  | shardSizeMismatch (expected actual : Nat)
  | invalidShardIndex (index max : Nat)
  | chunkTooLarge (size max : Nat)
  | configuration (message : String)
  | internal (message : String)
  deriving DecidableEq, Repr

/-- Numbers of data and parity shards. -/
structure ErasureConfig where
  /-- Shards needed to reconstruct. -/
  dataShards : Nat
  /-- Redundant shards. -/
  parityShards : Nat
  deriving DecidableEq, Repr

namespace ErasureConfig

/-- The configuration used by the gateway. -/
def default : ErasureConfig :=
  { dataShards := DATA_SHARDS
    parityShards := PARITY_SHARDS }

/-- A configuration with positive shard counts. -/
def new (dataShards parityShards : Nat) : Except CyxCloudError ErasureConfig :=
  if dataShards = 0 then
    .error (.configuration "data_shards must be > 0")
  else if parityShards = 0 then
    .error (.configuration "parity_shards must be > 0")
  else
    .ok { dataShards, parityShards }

/-- All shards of one encoded block. -/
def totalShards (config : ErasureConfig) : Nat := config.dataShards + config.parityShards

end ErasureConfig

/-- One shard of an encoded block. -/
structure ShardData where
  /-- Position within the block. -/
  index : UInt8
  /-- Contents. -/
  data : Bytes
  /-- Whether the shard lies in the parity part. -/
  isParity : Bool
  deriving DecidableEq, Repr

/-- Number of bytes of a shard. -/
def ShardData.size (shard : ShardData) : Nat := shard.data.length

/-! ## The encoder -/

/-- An encoder pairs a configuration with the codec built for it. -/
structure ErasureEncoder where
  /-- Shard counts. -/
  config : ErasureConfig
  /-- The codec of the crate. -/
  encoder : ReedSolomon

namespace ErasureEncoder

/-- Build an encoder for a custom configuration. -/
def withConfig (crate : ReedSolomonCrate) (config : ErasureConfig) :
    Except CyxCloudError ErasureEncoder :=
  match crate.new config.dataShards config.parityShards with
  | .error cause => .error (.erasureCoding cause)
  | .ok encoder => .ok { config, encoder }

/-- Build an encoder for the default configuration. -/
def new (crate : ReedSolomonCrate) : Except CyxCloudError ErasureEncoder :=
  withConfig crate .default

/-- Bytes of each shard, rounded up so that all data fits. -/
def calculateShardSize (self : ErasureEncoder) (dataSize : Nat) : Nat :=
  divCeil dataSize self.config.dataShards

/-- Extend with zeros, or cut, to an exact length. -/
def resize (data : Bytes) (size : Nat) : Bytes :=
  data.take size ++ List.replicate (size - data.length) 0

/-- The shard vector handed to the codec: the padded data in blocks, then blank parity shards. -/
def blankShards (self : ErasureEncoder) (shardSize : Nat) (pieces : List Bytes) : List Bytes :=
  pieces ++ List.replicate self.config.parityShards (List.replicate shardSize 0)

/-- Label the shard at a position of the encoded vector. -/
def labelShard (self : ErasureEncoder) (i : Nat) (shard : Bytes) : ShardData :=
  { index := UInt8.ofNat i
    data := shard
    isParity := decide (self.config.dataShards ≤ i) }

/-- Encode a non-empty block into data and parity shards. -/
def encode (self : ErasureEncoder) (data : Bytes) : Except CyxCloudError (List ShardData) :=
  let shardSize := self.calculateShardSize data.length
  let paddedSize := shardSize * self.config.dataShards
  let paddedData := resize data paddedSize
  match self.encoder.encode (self.blankShards shardSize (blocks shardSize paddedData)) with
  | .error cause => .error (.erasureCoding cause)
  | .ok shards => .ok (shards.mapIdx self.labelShard)

/-- The parallel encoder: blocks are cut, and shards labelled, by tasks that finish in any
order and write their own slots. -/
def encodeParallel (self : ErasureEncoder) (schedule : Schedule) (data : Bytes) :
    Except CyxCloudError (List ShardData) :=
  let shardSize := self.calculateShardSize data.length
  let paddedSize := shardSize * self.config.dataShards
  let paddedData := resize data paddedSize
  let pieces := (schedule.collectSlots
    (fun i => (paddedData.drop (i * shardSize)).take shardSize)
    (divCeil paddedData.length shardSize)).reduceOption
  match self.encoder.encode (self.blankShards shardSize pieces) with
  | .error cause => .error (.erasureCoding cause)
  | .ok shards =>
      .ok (schedule.collectSlots (fun i => self.labelShard i (shards.getD i []))
        shards.length).reduceOption

/-- Concatenate the leading data shards, failing on the first one that is still missing. -/
def concatShards : List (Option Bytes) → Except CyxCloudError Bytes
  | [] => .ok []
  | none :: _ => .error (.internal "Reconstruction failed")
  | some shard :: shards =>
      match concatShards shards with
      | .error cause => .error cause
      | .ok rest => .ok (shard ++ rest)

/-- Decode a vector of shards, with `none` for the missing ones, back into the block. -/
def decode (self : ErasureEncoder) (shards : List (Option ShardData)) (originalSize : Nat) :
    Except CyxCloudError Bytes :=
  let totalShards := self.config.totalShards
  if shards.length ≠ totalShards then
    .error (.shardSizeMismatch totalShards shards.length)
  else
    let available := shards.countP Option.isSome
    if available < self.config.dataShards then
      .error (.insufficientShards available self.config.dataShards)
    else
      match shards.findSome? fun slot => slot.map ShardData.size with
      | none => .error (.insufficientShards 0 self.config.dataShards)
      | some _ =>
          let shardVecs := shards.map (Option.map ShardData.data)
          match self.encoder.reconstruct shardVecs with
          | .error cause => .error (.erasureCoding cause)
          | .ok filled =>
              match concatShards (filled.take self.config.dataShards) with
              | .error cause => .error cause
              | .ok result => .ok (result.take originalSize)

/-! ## What encoding produces -/

/-- The encoder was built by a lawful crate for positive shard counts. -/
structure Valid (coder : ErasureEncoder) : Prop where
  /-- At least one data shard. -/
  dataShards_positive : 0 < coder.config.dataShards
  /-- The codec is a code with the configured counts. -/
  isCode : coder.encoder.IsCode coder.config.dataShards coder.config.parityShards

/-- The data part of the vector handed to the codec. -/
def dataPieces (self : ErasureEncoder) (data : Bytes) : List Bytes :=
  let shardSize := self.calculateShardSize data.length
  blocks shardSize (resize data (shardSize * self.config.dataShards))

/-- Contents of the shards of an encoded block, in order. -/
def encodedShards (self : ErasureEncoder) (data : Bytes) : List Bytes :=
  match self.encoder.encode
      (self.blankShards (self.calculateShardSize data.length) (self.dataPieces data)) with
  | .error _ => []
  | .ok shards => shards

theorem length_resize (data : Bytes) (size : Nat) : (resize data size).length = size := by
  simp [resize]
  omega

theorem take_resize {data : Bytes} {size : Nat} (fits : data.length ≤ size) :
    (resize data size).take data.length = data := by
  rw [resize, List.take_of_length_le fits, List.take_left']
  rfl

theorem calculateShardSize_positive {self : ErasureEncoder} (valid : self.Valid)
    {data : Bytes} (data_ne : data ≠ []) : 0 < self.calculateShardSize data.length :=
  divCeil_positive valid.dataShards_positive (List.length_pos_iff.mpr data_ne)

theorem length_dataPieces {self : ErasureEncoder} (valid : self.Valid) {data : Bytes}
    (data_ne : data ≠ []) : (self.dataPieces data).length = self.config.dataShards := by
  rw [dataPieces, length_blocks, length_resize, Nat.mul_comm]
  exact divCeil_mul_self (calculateShardSize_positive valid data_ne)

theorem length_of_mem_dataPieces {self : ErasureEncoder} (valid : self.Valid) {data : Bytes}
    (data_ne : data ≠ []) {piece : Bytes} (member : piece ∈ self.dataPieces data) :
    piece.length = self.calculateShardSize data.length := by
  refine length_of_mem_blocks_of_exact self.config.dataShards
    (calculateShardSize_positive valid data_ne) ?_ member
  rw [length_resize, Nat.mul_comm]

/-- The pieces concatenate to the padded data. -/
theorem flatten_dataPieces_take {self : ErasureEncoder} (valid : self.Valid) {data : Bytes}
    (data_ne : data ≠ []) : (self.dataPieces data).flatten.take data.length = data := by
  rw [dataPieces, flatten_blocks (calculateShardSize_positive valid data_ne)]
  exact take_resize (le_divCeil_mul _ valid.dataShards_positive)

theorem uniform_blankShards {self : ErasureEncoder} (valid : self.Valid) {data : Bytes}
    (data_ne : data ≠ []) :
    UniformShards (self.calculateShardSize data.length)
      (self.blankShards (self.calculateShardSize data.length) (self.dataPieces data)) := by
  refine ⟨calculateShardSize_positive valid data_ne, fun shard member => ?_⟩
  rcases List.mem_append.mp member with piece | blank
  · exact length_of_mem_dataPieces valid data_ne piece
  · rw [(List.mem_replicate.mp blank).2, List.length_replicate]

/-- The encoded vector is the data part followed by parity shards of the same length. -/
theorem encodedShards_spec {self : ErasureEncoder} (valid : self.Valid) {data : Bytes}
    (data_ne : data ≠ []) :
    ∃ parity : List Bytes,
      self.encodedShards data = self.dataPieces data ++ parity ∧
        self.encoder.encode
            (self.blankShards (self.calculateShardSize data.length) (self.dataPieces data)) =
          .ok (self.encodedShards data) ∧
        parity.length = self.config.parityShards ∧
        ∀ shard ∈ parity, shard.length = self.calculateShardSize data.length := by
  obtain ⟨parity, encoded, parity_length, parity_uniform⟩ :=
    valid.isCode.encode_fills (length_dataPieces valid data_ne) (by simp)
      (uniform_blankShards valid data_ne)
  have vector : self.encodedShards data = self.dataPieces data ++ parity := by
    simp only [encodedShards, blankShards, encoded]
  refine ⟨parity, vector, ?_, parity_length, parity_uniform⟩
  rw [vector]
  exact encoded

theorem length_encodedShards {self : ErasureEncoder} (valid : self.Valid) {data : Bytes}
    (data_ne : data ≠ []) :
    (self.encodedShards data).length = self.config.totalShards := by
  obtain ⟨parity, vector, _, parity_length, _⟩ := encodedShards_spec valid data_ne
  rw [vector, List.length_append, length_dataPieces valid data_ne, parity_length,
    ErasureConfig.totalShards]

theorem length_of_mem_encodedShards {self : ErasureEncoder} (valid : self.Valid) {data : Bytes}
    (data_ne : data ≠ []) {shard : Bytes} (member : shard ∈ self.encodedShards data) :
    shard.length = self.calculateShardSize data.length := by
  obtain ⟨parity, vector, _, _, parity_uniform⟩ := encodedShards_spec valid data_ne
  rw [vector] at member
  rcases List.mem_append.mp member with piece | redundant
  · exact length_of_mem_dataPieces valid data_ne piece
  · exact parity_uniform shard redundant

theorem take_encodedShards {self : ErasureEncoder} (valid : self.Valid) {data : Bytes}
    (data_ne : data ≠ []) :
    (self.encodedShards data).take self.config.dataShards = self.dataPieces data := by
  obtain ⟨parity, vector, _, _, _⟩ := encodedShards_spec valid data_ne
  rw [vector, List.take_left' (length_dataPieces valid data_ne)]

theorem encode_eq {self : ErasureEncoder} (valid : self.Valid) {data : Bytes}
    (data_ne : data ≠ []) :
    self.encode data = .ok ((self.encodedShards data).mapIdx self.labelShard) := by
  obtain ⟨_, _, encoded, _, _⟩ := encodedShards_spec valid data_ne
  simp only [dataPieces] at encoded
  simp only [encode, encoded]

theorem collectSlots_reduceOption {α : Type} (schedule : Schedule) (task : Nat → α)
    (size : Nat) :
    (schedule.collectSlots task size).reduceOption = (List.range size).map task := by
  rw [schedule.collectSlots_eq]
  simp [List.reduceOption, List.filterMap_map, List.filterMap_eq_map']

/-- Whatever order the parallel tasks finish in, both encoders return the same shards. -/
theorem encodeParallel_eq_encode (self : ErasureEncoder) (schedule : Schedule) (data : Bytes) :
    self.encodeParallel schedule data = self.encode data := by
  simp only [encodeParallel, encode, collectSlots_reduceOption, ← blocks.eq_1]
  split
  · rfl
  · congr 1
    apply List.ext_getElem
    · simp
    · intro i left right
      simp only [List.getElem_map, List.getElem_range, List.getElem_mapIdx]
      congr 1
      simp only [List.length_mapIdx] at right
      simp [right]

/-! ## Decoding -/

theorem concatShards_map_some (shards : List Bytes) :
    concatShards (shards.map some) = .ok shards.flatten := by
  induction shards with
  | nil => rfl
  | cons shard shards induction => simp [concatShards, induction]

/-- Decoding looks at the contents of the shards only. -/
theorem decode_erased {self : ErasureEncoder} (valid : self.Valid) {data : Bytes}
    (data_ne : data ≠ []) {slots : List (Option ShardData)}
    (erased : Erases (self.encodedShards data) (slots.map (Option.map ShardData.data)))
    (enough : self.config.dataShards ≤ slots.countP Option.isSome) :
    self.decode slots data.length = .ok data := by
  have slots_length : slots.length = self.config.totalShards := by
    rw [← length_encodedShards valid data_ne, erased.length_eq, List.length_map]
  have present : ∃ size, slots.findSome? (fun slot => slot.map ShardData.size) = some size := by
    have positive : 0 < slots.countP Option.isSome :=
      Nat.lt_of_lt_of_le valid.dataShards_positive enough
    obtain ⟨slot, member, isSome⟩ := List.countP_pos_iff.mp positive
    obtain ⟨shard, rfl⟩ := Option.isSome_iff_exists.mp isSome
    rw [← Option.isSome_iff_exists, List.findSome?_isSome_iff]
    exact ⟨some shard, member, rfl⟩
  have reconstructed : self.encoder.reconstruct (slots.map (Option.map ShardData.data)) =
      .ok ((self.encodedShards data).map some) := by
    obtain ⟨_, _, encoded, _, _⟩ := encodedShards_spec valid data_ne
    refine valid.isCode.reconstruct_erased (length_dataPieces valid data_ne) (by simp)
      (uniform_blankShards valid data_ne) encoded erased ?_
    rw [List.countP_map]
    simpa [Function.comp_def] using enough
  obtain ⟨size, found⟩ := present
  simp only [decode, slots_length, ne_eq, not_true_eq_false, ↓reduceIte,
    Nat.not_lt.mpr enough, found, reconstructed]
  rw [← List.map_take, take_encodedShards valid data_ne, concatShards_map_some]
  simp only [flatten_dataPieces_take valid data_ne]

theorem decode_insufficient (self : ErasureEncoder) {slots : List (Option ShardData)}
    (originalSize : Nat) (slots_length : slots.length = self.config.totalShards)
    (short : slots.countP Option.isSome < self.config.dataShards) :
    self.decode slots originalSize =
      .error (.insufficientShards (slots.countP Option.isSome) self.config.dataShards) := by
  simp [decode, slots_length, short]

end ErasureEncoder
end CyxCloud.Core
