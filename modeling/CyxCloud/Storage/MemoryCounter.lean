import CyxCloud.Library.ByteLayout
import CyxCloud.Storage.Backends

/-!
# The byte counter of the map in memory

`cyxcloud-storage/src/memory.rs` with its counters as words of 64 bits, which wrap, and its calls
one after another.
-/

namespace CyxCloud.Storage

open CyxCloud.Core Library

/-! ## Calls -/

/-- The backend in memory with atomic words for counters. -/
structure WordBackend where
  /-- Chunk storage. -/
  chunks : ChunkMap
  /-- Largest number of bytes, unlimited when zero. -/
  maxCapacity : UInt64
  /-- Bytes used. -/
  bytesUsed : UInt64
  reads : UInt64
  writes : UInt64
  deletes : UInt64

/-- A call; the length of its data is a word. -/
inductive MemoryCall where
  | put (id data : Bytes) (word : data.length < 2 ^ 64)
  | get (id : Bytes)
  | delete (id : Bytes)
  | exists (id : Bytes)
  | clear
  | stats

/-- What a call returns. -/
inductive MemoryResult where
  | put (result : Except StorageError Unit)
  | get (result : Option Bytes)
  | delete (result : Bool)
  | exists (result : Bool)
  | clear
  | stats (result : StorageStats)

namespace WordBackend

/-- An empty backend with a capacity. -/
def withCapacity (maxBytes : UInt64) : WordBackend :=
  { chunks := ∅
    maxCapacity := maxBytes
    bytesUsed := 0
    reads := 0
    writes := 0
    deletes := 0 }

variable (backend : WordBackend)

/-- Clear all stored chunks. -/
def clear : WordBackend := { backend with chunks := ∅, bytesUsed := 0 }

/-- Store a chunk, over an earlier one with the identifier. -/
def put (id data : Bytes) : WordBackend × Except StorageError Unit :=
  let dataLen := UInt64.ofNat data.length
  if backend.maxCapacity > 0 ∧ backend.bytesUsed + dataLen > backend.maxCapacity then
    (backend, .error (.storageFull backend.bytesUsed.toNat backend.maxCapacity.toNat))
  else
    -- the replaced chunk is taken off the counter first
    let bytesUsed := match backend.chunks.lookup id with
      | some old => backend.bytesUsed - UInt64.ofNat old.length
      | none => backend.bytesUsed
    ({ backend with
        chunks := backend.chunks.insert id data
        bytesUsed := bytesUsed + dataLen
        writes := backend.writes + 1 }, .ok ())

/-- Retrieve a chunk. -/
def get (id : Bytes) : WordBackend × Option Bytes :=
  ({ backend with reads := backend.reads + 1 }, backend.chunks.lookup id)

/-- Delete a chunk; the result says whether it was stored. -/
def delete (id : Bytes) : WordBackend × Bool :=
  match backend.chunks.lookup id with
  | some old =>
      ({ backend with
          chunks := backend.chunks.erase id
          bytesUsed := backend.bytesUsed - UInt64.ofNat old.length
          deletes := backend.deletes + 1 }, true)
  | none => (backend, false)

/-- Whether a chunk is stored. -/
def chunkExists (id : Bytes) : Bool := (backend.chunks.lookup id).isSome

/-- Statistics. -/
def stats : StorageStats :=
  { chunkCount := backend.chunks.keys.length
    bytesUsed := backend.bytesUsed.toNat
    bytesCapacity := backend.maxCapacity.toNat
    reads := backend.reads.toNat
    writes := backend.writes.toNat
    deletes := backend.deletes.toNat }

/-- Serve a call. -/
def serve : MemoryCall → WordBackend × MemoryResult
  | .put id data _ => ((backend.put id data).1, .put (backend.put id data).2)
  | .get id => ((backend.get id).1, .get (backend.get id).2)
  | .delete id => ((backend.delete id).1, .delete (backend.delete id).2)
  | .exists id => (backend, .exists (backend.chunkExists id))
  | .clear => (backend.clear, .clear)
  | .stats => (backend, .stats backend.stats)

/-- The backend after a call. -/
def apply (backend : WordBackend) (call : MemoryCall) : WordBackend := (backend.serve call).1

end WordBackend

/-! ## Histories -/

/-- The backend after a sequence of calls. -/
def wordBackend (capacity : UInt64) (calls : List MemoryCall) : WordBackend :=
  runAll WordBackend.apply (.withCapacity capacity) calls

/-- The calls with what they returned. -/
def history (capacity : UInt64) (calls : List MemoryCall) : List (MemoryCall × MemoryResult) :=
  calls.zip (answers WordBackend.serve (.withCapacity capacity) calls)

/-- After this event no earlier put of the identifier counts. -/
def Supersedes (id : Bytes) : MemoryCall × MemoryResult → Prop
  | (.put id' _ _, .put (.ok ())) => id' = id
  | (.delete id', _) => id' = id
  | (.clear, _) => True
  | _ => False

/-- The data of the latest successful put, with no delete of the identifier and no clear after
it. -/
def LatestPut (events : List (MemoryCall × MemoryResult)) (id data : Bytes) : Prop :=
  ∃ before after word, events = before ++ (.put id data word, .put (.ok ())) :: after ∧
    ∀ event ∈ after, ¬ Supersedes id event

/-- The statistics give the bytes of all chunks, and these are within a positive capacity. -/
def Counted (backend : WordBackend) : Prop :=
  backend.stats.bytesUsed = backend.chunks.bytes ∧
    (0 < backend.maxCapacity → backend.stats.bytesUsed ≤ backend.maxCapacity.toNat)

/-- What a call may take off the counter is on it. -/
def Covered (backend : WordBackend) : MemoryCall → Prop
  | .put id _ _ | .delete id => backend.chunks.bytesAt id ≤ backend.bytesUsed.toNat
  | _ => True

/-- A put for which there is no room changes nothing. -/
def Unchanged (backend : WordBackend) (call : MemoryCall) : Prop :=
  ∀ used capacity, (backend.serve call).2 = .put (.error (.storageFull used capacity)) →
    (backend.apply call).chunks = backend.chunks ∧
      (backend.apply call).bytesUsed = backend.bytesUsed

/-- A run of the backend is one of a map with bounded contents. -/
structure BoundedMap (capacity : UInt64) (calls : List MemoryCall) : Prop where
  reads : ∀ before, before <+: calls → ∀ id data,
    ((wordBackend capacity before).get id).2 = some data ↔
      LatestPut (history capacity before) id data
  counted : EveryState WordBackend.apply Counted (.withCapacity capacity) calls
  covered : EveryStep WordBackend.apply Covered (.withCapacity capacity) calls
  rejected : EveryStep WordBackend.apply Unchanged (.withCapacity capacity) calls

/-- The bytes of all chunks after a put fit a word; with a capacity, the bytes before it and those
of the put do, or the capacity is kept all the same. -/
def Fits (backend : WordBackend) : MemoryCall → Prop
  | .put id data _ =>
      if backend.maxCapacity = 0 then
        backend.chunks.bytes - backend.chunks.bytesAt id + data.length < 2 ^ 64
      else
        backend.chunks.bytes + data.length < 2 ^ 64 ∨
          backend.chunks.bytes - backend.chunks.bytesAt id + data.length ≤
            backend.maxCapacity.toNat
  | _ => True

/-! ## The counter -/

namespace WordBackend

variable {backend : WordBackend} {id data : Bytes}

/-- The backend after a put for which there is room. -/
def stored (backend : WordBackend) (id data : Bytes) : WordBackend :=
  { backend with
    chunks := backend.chunks.insert id data
    bytesUsed := backend.bytesUsed - UInt64.ofNat (backend.chunks.bytesAt id) +
      UInt64.ofNat data.length
    writes := backend.writes + 1 }

/-- There is no room for a put of so many bytes, as the words tell. -/
def Full (backend : WordBackend) (length : Nat) : Prop :=
  backend.maxCapacity > 0 ∧ backend.bytesUsed + UInt64.ofNat length > backend.maxCapacity

theorem put_of_full (full : backend.Full data.length) : backend.put id data =
    (backend, .error (.storageFull backend.bytesUsed.toNat backend.maxCapacity.toNat)) :=
  if_pos full

theorem put_of_room (room : ¬ backend.Full data.length) :
    backend.put id data = (backend.stored id data, .ok ()) := by
  have replaced : (match backend.chunks.lookup id with
      | some old => backend.bytesUsed - UInt64.ofNat old.length
      | none => backend.bytesUsed) =
      backend.bytesUsed - UInt64.ofNat (backend.chunks.bytesAt id) := by
    cases found : backend.chunks.lookup id with
    | none => simp [ChunkMap.bytesAt, Dictionary.sizeAt_of_missing _ found]
    | some old => simp [ChunkMap.bytesAt, Dictionary.sizeAt_of_lookup _ found]
  rw [put, stored, ← replaced]
  exact if_neg room

theorem delete_of_lookup {old : Bytes} (found : backend.chunks.lookup id = some old) :
    backend.delete id =
      ({ backend with
          chunks := backend.chunks.erase id
          bytesUsed := backend.bytesUsed - UInt64.ofNat (backend.chunks.bytesAt id)
          deletes := backend.deletes + 1 }, true) := by
  rw [delete, found, ChunkMap.bytesAt, Dictionary.sizeAt_of_lookup _ found]

theorem delete_of_missing (missing : backend.chunks.lookup id = none) :
    backend.delete id = (backend, false) := by
  rw [delete, missing]

/-- The counter holds what a word holds of the bytes of all chunks. -/
def Tallied (backend : WordBackend) : Prop :=
  backend.bytesUsed = UInt64.ofNat backend.chunks.bytes

theorem Tallied.stored (tallied : backend.Tallied) (id data : Bytes) :
    (backend.stored id data).Tallied := by
  have present := backend.chunks.bytesAt_le_bytes id
  rw [Tallied, WordBackend.stored]
  simp only
  rw [ChunkMap.bytes_insert, UInt64.ofNat_add, UInt64.ofNat_sub present, tallied]

theorem Tallied.apply (tallied : backend.Tallied) (call : MemoryCall) :
    (backend.apply call).Tallied := by
  cases call with
  | put id data word =>
      by_cases full : backend.Full data.length
      · rwa [WordBackend.apply, serve, put_of_full full]
      · rw [WordBackend.apply, serve, put_of_room full]
        exact tallied.stored id data
  | delete id =>
      cases found : backend.chunks.lookup id with
      | none => rwa [WordBackend.apply, serve, delete_of_missing found]
      | some old =>
          rw [WordBackend.apply, serve, delete_of_lookup found, Tallied]
          simp only
          rw [ChunkMap.bytes_erase, UInt64.ofNat_sub (backend.chunks.bytesAt_le_bytes id), tallied]
  | clear => rfl
  | get id => exact tallied
  | «exists» id => exact tallied
  | stats => exact tallied

theorem Tallied.bytesUsed_eq_iff (tallied : backend.Tallied) :
    backend.bytesUsed.toNat = backend.chunks.bytes ↔ backend.chunks.bytes < 2 ^ 64 := by
  rw [tallied, UInt64.toNat_ofNat']
  exact Nat.mod_eq_iff_lt (by decide)

theorem Tallied.counted_iff (tallied : backend.Tallied) :
    Counted backend ↔ backend.chunks.bytes < 2 ^ 64 ∧
      (0 < backend.maxCapacity → backend.chunks.bytes ≤ backend.maxCapacity.toNat) := by
  rw [Counted, stats]
  constructor
  · rintro ⟨used, bounded⟩
    rw [used] at bounded
    exact ⟨tallied.bytesUsed_eq_iff.mp used, bounded⟩
  · rintro ⟨fits, bounded⟩
    have used := tallied.bytesUsed_eq_iff.mpr fits
    exact ⟨used, fun positive => Nat.le_trans (Nat.le_of_eq used) (bounded positive)⟩

/-- Whether there is room is decided on the sum, less a word if it overflows. -/
theorem full_iff (counted : backend.bytesUsed.toNat = backend.chunks.bytes)
    (word : data.length < 2 ^ 64) : backend.Full data.length ↔
      0 < backend.maxCapacity ∧
        backend.maxCapacity.toNat < (backend.chunks.bytes + data.length) % 2 ^ 64 := by
  rw [Full, gt_iff_lt, gt_iff_lt, UInt64.lt_iff_toNat_lt (a := backend.maxCapacity),
    UInt64.toNat_add, counted, UInt64.toNat_ofNat_of_lt' word]

/-- A put keeps the statistics right exactly if its sums fit. -/
theorem counted_put_iff (tallied : backend.Tallied) (counted : Counted backend)
    (word : data.length < 2 ^ 64) :
    Counted (backend.put id data).1 ↔ Fits backend (.put id data word) := by
  have present := backend.chunks.bytesAt_le_bytes id
  obtain ⟨fits, bounded⟩ := tallied.counted_iff.mp counted
  have full := full_iff (tallied.bytesUsed_eq_iff.mpr fits) word
  have stored_iff : Counted (backend.stored id data) ↔
      backend.chunks.bytes - backend.chunks.bytesAt id + data.length < 2 ^ 64 ∧
        (0 < backend.maxCapacity →
          backend.chunks.bytes - backend.chunks.bytesAt id + data.length ≤
            backend.maxCapacity.toNat) := by
    rw [(tallied.stored id data).counted_iff, ← ChunkMap.bytes_insert]
    rfl
  have capacity_lt := backend.maxCapacity.toNat_lt
  by_cases unlimited : backend.maxCapacity = 0
  · have positive : ¬ 0 < backend.maxCapacity := by rw [unlimited]; decide
    have room : ¬ backend.Full data.length := fun full => positive full.1
    rw [put_of_room room, Fits, if_pos unlimited, stored_iff]
    simp [positive]
  · have positive : 0 < backend.maxCapacity := UInt64.pos_iff_ne_zero.mpr unlimited
    have bounded := bounded positive
    rw [Fits, if_neg unlimited]
    by_cases sum_fits : backend.chunks.bytes + data.length < 2 ^ 64
    · rw [Nat.mod_eq_of_lt sum_fits] at full
      by_cases no_room : backend.Full data.length
      · rw [put_of_full no_room]
        exact iff_of_true counted (.inl sum_fits)
      · rw [put_of_room no_room, stored_iff]
        have within : backend.chunks.bytes + data.length ≤ backend.maxCapacity.toNat :=
          Nat.le_of_not_lt fun beyond => no_room (full.mpr ⟨positive, beyond⟩)
        refine iff_of_true ⟨by omega, fun _ => by omega⟩ (.inl sum_fits)
    · -- the sum wraps below the bytes that are stored
      have room : ¬ backend.Full data.length := by
        rw [full]
        omega
      rw [put_of_room room, stored_iff]
      constructor
      · exact fun kept => .inr (kept.2 positive)
      · intro kept
        have kept := kept.resolve_left sum_fits
        exact ⟨by omega, fun _ => kept⟩

/-- Every call but a put keeps the statistics right. -/
theorem counted_apply_iff (tallied : backend.Tallied) (counted : Counted backend)
    (call : MemoryCall) : Counted (backend.apply call) ↔ Fits backend call := by
  cases call with
  | put id data word => exact counted_put_iff tallied counted word
  | delete id =>
      refine iff_of_true ?_ trivial
      obtain ⟨fits, bounded⟩ := tallied.counted_iff.mp counted
      refine (tallied.apply (.delete id)).counted_iff.mpr ?_
      cases found : backend.chunks.lookup id with
      | none =>
          rw [apply, serve, delete_of_missing found]
          exact ⟨fits, bounded⟩
      | some old =>
          rw [apply, serve, delete_of_lookup found]
          simp only [ChunkMap.bytes_erase]
          exact ⟨by omega, fun positive => by have := bounded positive; omega⟩
  | clear =>
      refine iff_of_true ((tallied.apply .clear).counted_iff.mpr ?_) trivial
      exact ⟨Nat.two_pow_pos 64, fun _ => Nat.zero_le _⟩
  | get id => exact iff_of_true counted trivial
  | «exists» id => exact iff_of_true counted trivial
  | stats => exact iff_of_true counted trivial

theorem tallied_withCapacity (capacity : UInt64) : (withCapacity capacity).Tallied := rfl

theorem everyState_counted_iff (capacity : UInt64) (calls : List MemoryCall) :
    EveryState apply Counted (withCapacity capacity) calls ↔
      EveryStep apply Fits (withCapacity capacity) calls :=
  everyState_iff_everyStep Tallied (fun _ call tallied => tallied.apply call)
    (fun _ call tallied counted => counted_apply_iff tallied counted call)
    (tallied_withCapacity capacity)
    ⟨rfl, fun _ => Nat.zero_le _⟩ calls

/-- Where the statistics are right, enough is on the counter for what is taken off. -/
theorem covered_of_counted (counted : Counted backend) (call : MemoryCall) :
    Covered backend call := by
  have enough : ∀ id, backend.chunks.bytesAt id ≤ backend.bytesUsed.toNat := by
    intro id
    exact Nat.le_trans (backend.chunks.bytesAt_le_bytes id) (Nat.le_of_eq counted.1.symm)
  cases call with
  | put id data word => exact enough id
  | delete id => exact enough id
  | get id => trivial
  | «exists» id => trivial
  | clear => trivial
  | stats => trivial

theorem unchanged (backend : WordBackend) (call : MemoryCall) : Unchanged backend call := by
  intro used capacity rejected
  cases call with
  | put id data word =>
      by_cases full : backend.Full data.length
      · rw [apply, serve, put_of_full full]
        exact ⟨rfl, rfl⟩
      · rw [serve, put_of_room full] at rejected
        simp at rejected
  | delete id => simp [serve] at rejected
  | get id => simp [serve] at rejected
  | «exists» id => simp [serve] at rejected
  | clear => simp [serve] at rejected
  | stats => simp [serve] at rejected

end WordBackend

/-! ## Contents -/

open WordBackend (serve apply withCapacity)

variable {capacity : UInt64}

theorem history_concat (calls : List MemoryCall) (call : MemoryCall) :
    history capacity (calls ++ [call]) =
      history capacity calls ++ [(call, ((wordBackend capacity calls).serve call).2)] := by
  rw [history, answers_concat, List.zip_append (length_answers _ _ _).symm]
  rfl

theorem wordBackend_concat (calls : List MemoryCall) (call : MemoryCall) :
    wordBackend capacity (calls ++ [call]) = (wordBackend capacity calls).apply call := by
  simp [wordBackend, runAll]

/-- The latest put is the last event, or an earlier one that the last event does not supersede. -/
theorem latestPut_concat_iff {events : List (MemoryCall × MemoryResult)}
    {event : MemoryCall × MemoryResult} {id data : Bytes} :
    LatestPut (events ++ [event]) id data ↔
      (∃ word, event = (.put id data word, .put (.ok ()))) ∨
        LatestPut events id data ∧ ¬ Supersedes id event := by
  constructor
  · rintro ⟨before, after, word, events_eq, later⟩
    rcases List.eq_nil_or_concat after with rfl | ⟨after, last, rfl⟩
    · obtain ⟨-, event_eq⟩ := List.append_inj' events_eq rfl
      exact .inl ⟨word, List.singleton_inj.mp event_eq⟩
    · rw [List.concat_eq_append, ← List.cons_append, ← List.append_assoc] at events_eq
      obtain ⟨front_eq, last_eq⟩ := List.append_inj' events_eq rfl
      obtain rfl := List.singleton_inj.mp last_eq
      rw [List.concat_eq_append] at later
      refine .inr ⟨⟨before, after, word, front_eq, fun other member => ?_⟩, ?_⟩
      · exact later other (List.mem_append_left _ member)
      · exact later event (List.mem_append_right _ List.mem_cons_self)
  · rintro (⟨word, rfl⟩ | ⟨⟨before, after, word, rfl, later⟩, kept⟩)
    · exact ⟨events, [], word, rfl, fun other member => absurd member List.not_mem_nil⟩
    · refine ⟨before, after ++ [event], word, by simp, fun other member => ?_⟩
      rcases List.mem_append.mp member with member | member
      · exact later other member
      · rwa [List.mem_singleton.mp member]

/-- What is stored after a call: the data that it puts, or what was stored if it supersedes
nothing. -/
theorem lookup_apply_iff (backend : WordBackend) (call : MemoryCall) (id data : Bytes) :
    (backend.apply call).chunks.lookup id = some data ↔
      (∃ word, (call, (backend.serve call).2) = (.put id data word, .put (.ok ()))) ∨
        backend.chunks.lookup id = some data ∧ ¬ Supersedes id (call, (backend.serve call).2) := by
  cases call with
  | put id' data' word =>
      by_cases full : backend.Full data'.length
      · simp [apply, serve, WordBackend.put_of_full full, Supersedes]
      · rw [apply, serve, WordBackend.put_of_room full]
        by_cases same : id' = id
        · subst same
          have fits : data' = data → data.length < 2 ^ 64 := fun same => same ▸ word
          simpa [WordBackend.stored, Supersedes] using fits
        · simp [WordBackend.stored, Supersedes, same, AList.lookup_insert_ne (Ne.symm same)]
  | delete id' =>
      cases found : backend.chunks.lookup id' with
      | none =>
          rw [apply, serve, WordBackend.delete_of_missing found]
          by_cases same : id' = id
          · subst same
            simp [Supersedes, found]
          · simp [Supersedes, same]
      | some old =>
          rw [apply, serve, WordBackend.delete_of_lookup found]
          by_cases same : id' = id
          · subst same
            simp [Supersedes]
          · simp [Supersedes, same, AList.lookup_erase_ne (Ne.symm same)]
  | clear => simp [apply, serve, WordBackend.clear, Supersedes]
  | get id' => simp [apply, serve, WordBackend.get, Supersedes]
  | «exists» id' => simp [apply, serve, Supersedes]
  | stats => simp [apply, serve, Supersedes]

/-- A get returns the data of the latest put. -/
theorem lookup_wordBackend_iff (calls : List MemoryCall) (id data : Bytes) :
    (wordBackend capacity calls).chunks.lookup id = some data ↔
      LatestPut (history capacity calls) id data := by
  induction calls using List.reverseRecOn with
  | nil =>
      refine iff_of_false (Option.some_ne_none data).symm ?_
      rintro ⟨before, after, word, empty, -⟩
      exact absurd empty.symm (by simp [history])
  | append_singleton calls call induction =>
      rw [wordBackend_concat, history_concat, latestPut_concat_iff, ← induction]
      exact lookup_apply_iff _ call id data

/-- The backend is a map with bounded contents, its statistics right, exactly in the runs in which
the sums of every put fit. -/
theorem boundedMap_iff (capacity : UInt64) (calls : List MemoryCall) :
    BoundedMap capacity calls ↔ EveryStep apply Fits (withCapacity capacity) calls := by
  rw [← WordBackend.everyState_counted_iff]
  constructor
  · exact fun bounded => bounded.counted
  · intro counted
    exact
      { reads := fun before _ id data => lookup_wordBackend_iff before id data
        counted
        covered := counted.everyStep fun _ call right =>
          WordBackend.covered_of_counted right call
        rejected := everyStep_of_forall (fun call _ backend => backend.unchanged call) _ }

/-! ## Counters without a bound -/

/-- The backend holds the same with counters without a bound. -/
structure Agrees (backend : WordBackend) (other : MemoryBackend) : Prop where
  chunks : other.chunks = backend.chunks
  maxCapacity : other.maxCapacity = backend.maxCapacity.toNat
  bytesUsed : other.bytesUsed = backend.bytesUsed.toNat

section

variable {backend : WordBackend} {other : MemoryBackend} {id data : Bytes}

theorem agrees_withCapacity (capacity : UInt64) :
    Agrees (.withCapacity capacity) (.withCapacity capacity.toNat) := ⟨rfl, rfl, rfl⟩

/-- As long as the bytes fit a word, the bound of the counters does not show in a put. -/
theorem Agrees.put (agrees : Agrees backend other) (tallied : backend.Tallied)
    (fits : backend.chunks.bytes + data.length < 2 ^ 64) :
    (backend.put id data).2 = (other.put id data).2 ∧
      Agrees (backend.put id data).1 (other.put id data).1 := by
  obtain ⟨chunks_eq, capacity_eq, used_eq⟩ := agrees
  have word : data.length < 2 ^ 64 := by omega
  have counted := tallied.bytesUsed_eq_iff.mpr (by omega)
  have full := WordBackend.full_iff counted word
  rw [Nat.mod_eq_of_lt fits, UInt64.lt_iff_toNat_lt] at full
  have full' : backend.Full data.length ↔
      other.maxCapacity > 0 ∧ other.bytesUsed + data.length > other.maxCapacity := by
    rw [full, capacity_eq, used_eq, counted]
    rfl
  by_cases no_room : backend.Full data.length
  · rw [WordBackend.put_of_full no_room, MemoryBackend.put, if_pos (full'.mp no_room), used_eq,
      capacity_eq]
    exact ⟨rfl, chunks_eq, capacity_eq, used_eq⟩
  · rw [WordBackend.put_of_room no_room, MemoryBackend.put, if_neg (full'.not.mp no_room)]
    refine ⟨rfl, congrArg (AList.insert id data) chunks_eq, capacity_eq, ?_⟩
    have present := backend.chunks.bytesAt_le_bytes id
    have stored := (tallied.stored id data).bytesUsed_eq_iff.mpr (by
      rw [WordBackend.stored, ChunkMap.bytes_insert]
      omega)
    rw [stored, WordBackend.stored, ChunkMap.bytes_insert, used_eq, counted, chunks_eq]
    rfl

/-- Nor does it show in a delete. -/
theorem Agrees.delete (agrees : Agrees backend other) (tallied : backend.Tallied)
    (fits : backend.chunks.bytes < 2 ^ 64) :
    (other.delete id).2 = .ok (backend.delete id).2 ∧
      Agrees (backend.delete id).1 (other.delete id).1 := by
  have tallied' := tallied.apply (.delete id)
  obtain ⟨chunks_eq, capacity_eq, used_eq⟩ := agrees
  have counted := tallied.bytesUsed_eq_iff.mpr fits
  cases found : backend.chunks.lookup id with
  | none =>
      rw [WordBackend.delete_of_missing found, MemoryBackend.delete, chunks_eq, found]
      exact ⟨rfl, chunks_eq, capacity_eq, used_eq⟩
  | some old =>
      rw [apply, serve, WordBackend.delete_of_lookup found] at tallied'
      rw [WordBackend.delete_of_lookup found, MemoryBackend.delete, chunks_eq, found]
      refine ⟨rfl, rfl, capacity_eq, ?_⟩
      have left := tallied'.bytesUsed_eq_iff.mpr (by
        rw [ChunkMap.bytes_erase]
        omega)
      simp only at left ⊢
      rw [left, ChunkMap.bytes_erase, used_eq, counted, ChunkMap.bytesAt,
        Dictionary.sizeAt_of_lookup _ found]

end

/-! ## A counter that wraps -/

/-- The identifier that spells a number. -/
def numberedId (number : Nat) : Bytes := toLeBytes 32 number

theorem numberedId_injective {number other : Nat} (small : number < 256 ^ 32)
    (small' : other < 256 ^ 32) (same : numberedId number = numberedId other) :
    number = other := by
  rw [← fromLeBytes_toLeBytes small, ← fromLeBytes_toLeBytes small']
  exact congrArg fromLeBytes same

/-- Puts of the same data under different identifiers, without a capacity. -/
def copies (data : Bytes) (word : data.length < 2 ^ 64) (count : Nat) : List MemoryCall :=
  (List.range count).map fun number => .put (numberedId number) data word

/-- The contents grow by the data with each copy; the identifiers of the others stay free. -/
theorem copies_stored {data : Bytes} (word : data.length < 2 ^ 64) {count : Nat}
    (small : count ≤ 256 ^ 32) :
    let backend := wordBackend 0 (copies data word count)
    backend.maxCapacity = 0 ∧ backend.chunks.bytes = count * data.length ∧
      ∀ number, count ≤ number → number < 256 ^ 32 →
        backend.chunks.lookup (numberedId number) = none := by
  induction count with
  | zero => exact ⟨rfl, (Nat.zero_mul _).symm, fun _ _ _ => rfl⟩
  | succ count induction =>
      obtain ⟨unlimited, bytes_eq, free⟩ := induction (Nat.le_of_succ_le small)
      have room : ¬ (wordBackend 0 (copies data word count)).Full data.length := by
        rintro ⟨positive, -⟩
        rw [unlimited] at positive
        exact absurd positive (by decide)
      have next : copies data word (count + 1) =
          copies data word count ++ [.put (numberedId count) data word] := by
        rw [copies, List.range_succ, List.map_append]
        rfl
      have added : (wordBackend 0 (copies data word count)).chunks.bytesAt (numberedId count) = 0 :=
        Dictionary.sizeAt_of_missing _ (free count (Nat.le_refl count) small)
      rw [next, wordBackend_concat, apply, serve, WordBackend.put_of_room room]
      refine ⟨unlimited, ?_, fun number later fits => ?_⟩
      · rw [WordBackend.stored, ChunkMap.bytes_insert, bytes_eq, added, Nat.sub_zero, Nat.succ_mul]
      · have other : numberedId number ≠ numberedId count := fun same => by
          have number_eq := numberedId_injective fits small same
          omega
        rw [WordBackend.stored, AList.lookup_insert_ne other]
        exact free number (Nat.le_of_succ_le later) fits

theorem BoundedMap.bytesUsed_eq {calls : List MemoryCall} (bounded : BoundedMap capacity calls) :
    (wordBackend capacity calls).bytesUsed.toNat = (wordBackend capacity calls).chunks.bytes :=
  bounded.counted.last.1

/-- Copies whose bytes overflow a word are miscounted. -/
theorem not_boundedMap_copies {data : Bytes} (word : data.length < 2 ^ 64) {count : Nat}
    (small : count ≤ 256 ^ 32) (overflows : 2 ^ 64 ≤ count * data.length) :
    ¬ BoundedMap 0 (copies data word count) := by
  intro bounded
  have used := bounded.bytesUsed_eq.trans (copies_stored word small).2.1
  have fits := (wordBackend 0 (copies data word count)).bytesUsed.toNat_lt
  omega

/-- As many copies of a TiB as fill a word leave nothing on the counter. -/
theorem boundedMap_refuted : ¬ ∀ capacity calls, BoundedMap capacity calls := by
  intro all
  have word : (List.replicate (2 ^ 40) (0 : UInt8)).length < 2 ^ 64 := by
    rw [List.length_replicate]
    decide
  refine not_boundedMap_copies word (show 2 ^ 24 ≤ 256 ^ 32 by decide) ?_ (all 0 _)
  rw [List.length_replicate]
  decide

end CyxCloud.Storage
