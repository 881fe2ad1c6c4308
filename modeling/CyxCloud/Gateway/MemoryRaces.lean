import CyxCloud.Gateway.MemoryHandlers
import CyxCloud.Library.Runs

/-!
# Requests to the buckets in memory at the same time

The handlers of `cyxcloud-gateway/src/s3_api.rs` in memory mode, taken apart at their locks and at
the atomic accesses to the counter of bytes.
-/

namespace CyxCloud.Gateway

open CyxCloud.Core hiding Chunk
open Library

/-- A request that puts an object. -/
structure PutRequest where
  now : Time
  bucket : String
  key : String
  contentType : Option String
  body : Bytes
  deriving DecidableEq

/-- A request that changes buckets or objects. -/
inductive ChangeRequest where
  | createBucket (bucket : String)
  | deleteBucket (bucket : String)
  | putObject (put : PutRequest)
  | deleteObject (bucket key : String)
  deriving DecidableEq

/-- What is left of a request in progress, up to its next lock or its next access to the counter. -/
inductive Pending where
  | arrived (request : ChangeRequest)
  | creating (bucket : String)
  | examining (bucket : String)
  | removing (bucket : String)
  /-- Before the counter is loaded, without a lock. -/
  | loading (put : PutRequest)
  | inserting (put : PutRequest)
  | deleting (bucket key : String)
  deriving DecidableEq

/-- What a request that holds the write lock does to the counter. -/
inductive CounterUpdate where
  | replace (newSize oldSize : Nat)
  | remove (size : Nat)
  deriving DecidableEq

def CounterUpdate.apply (used : Nat) : CounterUpdate → Nat
  | .replace newSize oldSize =>
      if newSize ≥ oldSize then used + (newSize - oldSize) else used - (oldSize - newSize)
  | .remove size => used - size

/-- The change of the counter. -/
def CounterUpdate.change : CounterUpdate → Int
  | .replace newSize oldSize => newSize - oldSize
  | .remove size => -size

theorem CounterUpdate.apply_eq (used : Nat) (update : CounterUpdate)
    (covered : 0 ≤ used + update.change) : (update.apply used : Int) = used + update.change := by
  cases update with
  | replace newSize oldSize =>
      simp only [apply, change] at covered ⊢
      split <;> omega
  | remove size =>
      simp only [apply, change] at covered ⊢
      omega

/-- How a step of a request ends. -/
inductive Outcome where
  | next (pending : Pending)
  | finish (buckets : MemoryBuckets)
  /-- The write lock is kept for the access to the counter. -/
  | write (buckets : MemoryBuckets) (update : CounterUpdate)

namespace MemoryBuckets

/-- Bytes of an object, zero if there is none. -/
def sizeOf (state : MemoryBuckets) (bucket key : String) : Nat :=
  (((state.memoryBuckets.lookup bucket).bind fun objects => objects.lookup key).map
    fun object => object.data.length).getD 0

/-- Set an object in an existing bucket; the counter is still to be moved. -/
def setObject (md5 : Bytes → String) (state : MemoryBuckets) (put : PutRequest) : Outcome :=
  match state.memoryBuckets.lookup put.bucket with
  | none => .finish state
  | some objects =>
      let object : StoredObject :=
        { data := put.body
          contentType := S3Handlers.contentTypeOf put.contentType
          etag := md5 put.body
          createdAt := put.now }
      .write
        { state with
          memoryBuckets := state.memoryBuckets.insert put.bucket (objects.insert put.key object) }
        (.replace put.body.length (state.sizeOf put.bucket put.key))

/-- Remove an object from an existing bucket; the counter is still to be moved. -/
def removeObject (state : MemoryBuckets) (bucket key : String) : Outcome :=
  match state.memoryBuckets.lookup bucket with
  | none => .finish state
  | some objects =>
      match objects.lookup key with
      | none => .finish state
      | some removed =>
          .write
            { state with
              memoryBuckets := state.memoryBuckets.insert bucket (objects.erase key) }
            (.remove removed.data.length)

/-- Move the counter. -/
def count (state : MemoryBuckets) (update : CounterUpdate) : MemoryBuckets :=
  { state with memoryBytesUsed := update.apply state.memoryBytesUsed }

@[simp]
theorem bytes_count (state : MemoryBuckets) (update : CounterUpdate) :
    (state.count update).bytes = state.bytes := rfl

@[simp]
theorem memoryBytesUsed_count (state : MemoryBuckets) (update : CounterUpdate) :
    (state.count update).memoryBytesUsed = update.apply state.memoryBytesUsed := rfl

end MemoryBuckets

/-- The buckets when nobody else takes a step before the lock is given back. -/
def Outcome.settled (state : MemoryBuckets) : Outcome → MemoryBuckets
  | .next _ => state
  | .finish buckets => buckets
  | .write buckets update => buckets.count update

/-- Setting an object and moving the counter is the locked part of a put. -/
theorem MemoryBuckets.settled_setObject (md5 : Bytes → String) (state : MemoryBuckets)
    (put : PutRequest) :
    (state.setObject md5 put).settled state =
      (state.insertObject md5 put.now put.bucket put.key put.body
        (S3Handlers.contentTypeOf put.contentType)).1 := by
  cases found : state.memoryBuckets.lookup put.bucket with
  | none => simp only [setObject, insertObject, found, Outcome.settled]
  | some objects =>
      simp only [setObject, insertObject, found, Outcome.settled, count, CounterUpdate.apply,
        sizeOf, Option.bind_some]

theorem MemoryBuckets.settled_removeObject (state : MemoryBuckets) (bucket key : String) :
    (state.removeObject bucket key).settled state = (state.deleteObject bucket key).1 := by
  cases found : state.memoryBuckets.lookup bucket with
  | none => simp only [removeObject, deleteObject, found, Outcome.settled]
  | some objects =>
      cases stored : objects.lookup key with
      | none => simp only [removeObject, deleteObject, found, stored, Outcome.settled]
      | some removed =>
          simp only [removeObject, deleteObject, found, stored, Outcome.settled, count,
            CounterUpdate.apply]

namespace Pending

/-- Whether the next step takes the lock of the buckets. -/
def locks : Pending → Bool
  | .loading _ => false
  | _ => true

/-- The bucket check at the start of a handler, after the check of the key. -/
def arrive (buckets : MemoryBuckets) : ChangeRequest → Outcome
  | .createBucket bucket =>
      if buckets.bucketExists bucket then .finish buckets else .next (.creating bucket)
  | .deleteBucket bucket =>
      if buckets.bucketExists bucket then .next (.examining bucket) else .finish buckets
  | .putObject put =>
      match validateObjectKey put.key with
      | .error _ => .finish buckets
      | .ok () => if buckets.bucketExists put.bucket then .next (.loading put) else .finish buckets
  | .deleteObject bucket key =>
      match validateObjectKey key with
      | .error _ => .finish buckets
      | .ok () =>
          if buckets.bucketExists bucket then .next (.deleting bucket key) else .finish buckets

/-- The next step of a request. -/
def advance (md5 : Bytes → String) (buckets : MemoryBuckets) : Pending → Outcome
  | .arrived request => arrive buckets request
  | .creating bucket => .finish (buckets.createBucket bucket).1
  | .examining bucket =>
      match buckets.bucketIsEmpty bucket with
      | .ok true => .next (.removing bucket)
      | _ => .finish buckets
  | .removing bucket => .finish (buckets.deleteBucket bucket)
  | .loading put =>
      if buckets.memoryLimitExceeded put.body.length then
        .finish buckets
      else
        .next (.inserting put)
  | .inserting put => buckets.setObject md5 put
  | .deleting bucket key => buckets.removeObject bucket key

/-- The bytes of the objects in a bucket that the next step removes. -/
def dropped (buckets : MemoryBuckets) : Pending → Nat
  | .removing bucket => buckets.bytesAt bucket
  | _ => 0

/-- An object that the next step sets in an existing bucket fits into the limit. -/
def Fits (buckets : MemoryBuckets) : Pending → Prop
  | .inserting put =>
      buckets.bucketExists put.bucket = true →
        buckets.bytes + put.body.length ≤
          MAX_MEMORY_BYTES + buckets.sizeOf put.bucket put.key
  | _ => True

end Pending

/-- Requests in progress on shared buckets; one of them may hold the write lock before its access
to the counter. -/
structure SharedBuckets where
  buckets : MemoryBuckets
  pending : List Pending
  writing : Option CounterUpdate

/-- What happens next: a request arrives, one takes its next step, or the one with the write lock
moves the counter and gives the lock back. -/
inductive SharedEvent where
  | arrive (request : ChangeRequest)
  | advance (position : Nat)
  | count

namespace SharedBuckets

/-- No buckets and no requests. -/
def start : SharedBuckets where
  buckets := MemoryBuckets.empty
  pending := []
  writing := none

/-- No request is in progress. -/
def Idle (state : SharedBuckets) : Prop := state.pending = [] ∧ state.writing = none

instance (state : SharedBuckets) : Decidable state.Idle :=
  inferInstanceAs (Decidable (_ ∧ _))

/-- The request at a position, unless it waits for the lock. -/
def runnable (state : SharedBuckets) (position : Nat) : Option Pending :=
  state.pending[position]?.filter fun pending => !(state.writing.isSome && pending.locks)

/-- What a step of the request at a position leaves. -/
def settle (state : SharedBuckets) (position : Nat) : Outcome → SharedBuckets
  | .next pending => { state with pending := state.pending.set position pending }
  | .finish buckets => { state with buckets, pending := state.pending.eraseIdx position }
  | .write buckets update =>
      { buckets, pending := state.pending.eraseIdx position, writing := some update }

/-- One step of the gateway. -/
def apply (md5 : Bytes → String) (state : SharedBuckets) : SharedEvent → SharedBuckets
  | .arrive request => { state with pending := state.pending ++ [.arrived request] }
  | .advance position =>
      match state.runnable position with
      | none => state
      | some pending => state.settle position (pending.advance md5 state.buckets)
  | .count =>
      match state.writing with
      | none => state
      | some update => { state with buckets := state.buckets.count update, writing := none }

/-- With no request in progress the counter is the sum of the sizes of all objects, and the sum is
within the limit. -/
def Sound (state : SharedBuckets) : Prop :=
  (state.Idle → state.buckets.Accounted) ∧ state.buckets.bytes ≤ MAX_MEMORY_BYTES

/-- The bytes of the objects in a bucket that a step removes. -/
def dropped (state : SharedBuckets) : SharedEvent → Nat
  | .advance position =>
      ((state.runnable position).map fun pending => pending.dropped state.buckets).getD 0
  | _ => 0

/-- An object that a step sets in an existing bucket fits into the limit. -/
def Fits (state : SharedBuckets) : SharedEvent → Prop
  | .advance position => ∀ pending ∈ state.runnable position, pending.Fits state.buckets
  | _ => True

/-- How far the counter is ahead of the objects, the outstanding update included. -/
def lead (state : SharedBuckets) : Int :=
  state.buckets.memoryBytesUsed + (state.writing.map CounterUpdate.change).getD 0 -
    state.buckets.bytes

end SharedBuckets

/-! ## One step of a request -/

/-- The counter and the bytes of the objects after a step, which loses the bytes of a removed
bucket. -/
def Outcome.Balances (state : MemoryBuckets) (lost : Nat) : Outcome → Prop
  | .next _ => lost = 0
  | .finish buckets =>
      buckets.memoryBytesUsed = state.memoryBytesUsed ∧ buckets.bytes + lost = state.bytes
  | .write buckets update =>
      buckets.memoryBytesUsed = state.memoryBytesUsed ∧
        (buckets.bytes : Int) = state.bytes + update.change ∧ lost = 0

/-- The bytes of all objects after a step. -/
def Outcome.bytesAfter (state : MemoryBuckets) : Outcome → Nat
  | .next _ => state.bytes
  | .finish buckets => buckets.bytes
  | .write buckets _ => buckets.bytes

section

variable (md5 : Bytes → String) (buckets : MemoryBuckets)

theorem Outcome.balances_finish : (Outcome.finish buckets).Balances buckets 0 := ⟨rfl, rfl⟩

theorem MemoryBuckets.bytes_setObject {put : PutRequest} {objects : StoredObjects}
    (found : buckets.memoryBuckets.lookup put.bucket = some objects) :
    (buckets.setObject md5 put).bytesAfter buckets + buckets.sizeOf put.bucket put.key =
      buckets.bytes + put.body.length := by
  have inserted := bytes_insertObject found md5 put.now put.key put.body
    (S3Handlers.contentTypeOf put.contentType)
  rw [← settled_setObject] at inserted
  simpa only [setObject, found, Outcome.settled, Outcome.bytesAfter, sizeOf, Option.bind_some,
    bytes_count] using inserted

theorem MemoryBuckets.setObject_balances (put : PutRequest) :
    (buckets.setObject md5 put).Balances buckets 0 := by
  cases found : buckets.memoryBuckets.lookup put.bucket with
  | none =>
      simp only [setObject, found]
      exact Outcome.balances_finish buckets
  | some objects =>
      have inserted := buckets.bytes_setObject md5 found
      simp only [setObject, found, Outcome.bytesAfter] at inserted ⊢
      refine ⟨rfl, ?_, rfl⟩
      simp only [CounterUpdate.change]
      omega

theorem MemoryBuckets.removeObject_balances (bucket key : String) :
    (buckets.removeObject bucket key).Balances buckets 0 := by
  unfold removeObject
  split
  · exact Outcome.balances_finish buckets
  · rename_i objects found
    split
    · exact Outcome.balances_finish buckets
    · rename_i removed stored
      have inner := bytes_erase stored
      have outer := bytes_setBucket found (objects.erase key) buckets.memoryBytesUsed
      refine ⟨rfl, ?_, rfl⟩
      simp only [CounterUpdate.change]
      omega

theorem Pending.arrive_balances (request : ChangeRequest) :
    (arrive buckets request).Balances buckets 0 := by
  cases request with
  | createBucket bucket =>
      simp only [arrive]
      split
      · exact Outcome.balances_finish buckets
      · rfl
  | deleteBucket bucket =>
      simp only [arrive]
      split
      · rfl
      · exact Outcome.balances_finish buckets
  | putObject put =>
      simp only [arrive]
      split
      · exact Outcome.balances_finish buckets
      · split
        · rfl
        · exact Outcome.balances_finish buckets
  | deleteObject bucket key =>
      simp only [arrive]
      split
      · exact Outcome.balances_finish buckets
      · split
        · rfl
        · exact Outcome.balances_finish buckets

/-- Every step keeps the books, but for the objects of a bucket that it removes. -/
theorem Pending.advance_balances (pending : Pending) :
    (pending.advance md5 buckets).Balances buckets (pending.dropped buckets) := by
  cases pending with
  | arrived request => exact arrive_balances buckets request
  | creating bucket =>
      exact ⟨buckets.memoryBytesUsed_createBucket bucket, buckets.bytes_createBucket bucket⟩
  | examining bucket =>
      simp only [advance]
      split
      · rfl
      · exact Outcome.balances_finish buckets
  | removing bucket => exact ⟨rfl, buckets.bytes_deleteBucket bucket⟩
  | loading put =>
      simp only [advance]
      split
      · exact Outcome.balances_finish buckets
      · rfl
  | inserting put => exact buckets.setObject_balances md5 put
  | deleting bucket key => exact buckets.removeObject_balances bucket key

theorem Pending.bytesAfter_arrive (request : ChangeRequest) :
    (arrive buckets request).bytesAfter buckets = buckets.bytes := by
  cases request with
  | createBucket bucket =>
      simp only [arrive]
      split <;> rfl
  | deleteBucket bucket =>
      simp only [arrive]
      split <;> rfl
  | putObject put =>
      simp only [arrive]
      split
      · rfl
      · split <;> rfl
  | deleteObject bucket key =>
      simp only [arrive]
      split
      · rfl
      · split <;> rfl

theorem MemoryBuckets.bytesAfter_removeObject_le (bucket key : String) :
    (buckets.removeObject bucket key).bytesAfter buckets ≤ buckets.bytes := by
  have balances := buckets.removeObject_balances bucket key
  revert balances
  unfold removeObject
  split
  · exact fun _ => le_rfl
  · split
    · exact fun _ => le_rfl
    · rintro ⟨-, kept, -⟩
      simp only [CounterUpdate.change, Outcome.bytesAfter] at kept ⊢
      omega

/-- Only a step with the lock writes. -/
theorem Pending.locks_of_write {pending : Pending} {after : MemoryBuckets}
    {update : CounterUpdate} (writes : pending.advance md5 buckets = .write after update) :
    pending.locks = true := by
  cases pending with
  | loading put =>
      simp only [advance] at writes
      split at writes <;> nomatch writes
  | _ => rfl

/-- From within the limit a step stays within it exactly if the object that it sets fits. -/
theorem Pending.bytesAfter_le_iff (pending : Pending)
    (within : buckets.bytes ≤ MAX_MEMORY_BYTES) :
    (pending.advance md5 buckets).bytesAfter buckets ≤ MAX_MEMORY_BYTES ↔
      pending.Fits buckets := by
  cases pending with
  | arrived request => simp only [advance, bytesAfter_arrive, within, Fits]
  | creating bucket =>
      simp only [advance, Outcome.bytesAfter, MemoryBuckets.bytes_createBucket, within, Fits]
  | examining bucket =>
      simp only [advance, Fits, iff_true]
      split <;> exact within
  | removing bucket =>
      have deleted := buckets.bytes_deleteBucket bucket
      simp only [advance, Outcome.bytesAfter, Fits, iff_true]
      omega
  | loading put =>
      simp only [advance, Fits, iff_true]
      split <;> exact within
  | inserting put =>
      cases found : buckets.memoryBuckets.lookup put.bucket with
      | none =>
          simp only [advance, MemoryBuckets.setObject, Fits, MemoryBuckets.bucketExists, found,
            Outcome.bytesAfter, within, Option.isSome_none, Bool.false_eq_true, false_imp_iff]
      | some objects =>
          have inserted := buckets.bytes_setObject md5 found
          simp only [advance, Fits, MemoryBuckets.bucketExists, found, Option.isSome_some,
            true_imp_iff]
          omega
  | deleting bucket key =>
      have removed := buckets.bytesAfter_removeObject_le bucket key
      simp only [advance, Fits, iff_true]
      omega

end

/-! ## Runs -/

namespace SharedBuckets

section

variable (md5 : Bytes → String) (state : SharedBuckets)

theorem lead_of_idle (idle : state.Idle) : state.lead = 0 ↔ state.buckets.Accounted := by
  simp only [lead, idle.2, Option.map_none, Option.getD_none, MemoryBuckets.Accounted]
  omega

theorem bytes_settle (position : Nat) (outcome : Outcome) :
    (state.settle position outcome).buckets.bytes = outcome.bytesAfter state.buckets := by
  cases outcome <;> rfl

/-- The locked part of a step starts only when nobody holds the write lock. -/
theorem writing_of_locks {position : Nat} {pending : Pending}
    (runs : state.runnable position = some pending) (locks : pending.locks = true) :
    state.writing = none := by
  have free := (Option.filter_eq_some_iff.mp runs).2
  simpa [locks] using free

/-- A step moves the counter ahead of the objects by what it drops with a bucket. -/
theorem lead_apply (event : SharedEvent) (ahead : 0 ≤ state.lead) :
    (state.apply md5 event).lead = state.lead + state.dropped event := by
  cases event with
  | arrive request => simp only [apply, lead, dropped, Nat.cast_zero, add_zero]
  | count =>
      cases writing : state.writing with
      | none => simp only [apply, writing, dropped, Nat.cast_zero, add_zero]
      | some update =>
          simp only [lead, writing, Option.map_some, Option.getD_some] at ahead
          have moved := CounterUpdate.apply_eq state.buckets.memoryBytesUsed update (by omega)
          simp only [apply, writing, lead, dropped, MemoryBuckets.bytes_count,
            MemoryBuckets.memoryBytesUsed_count, Option.map_some, Option.map_none,
            Option.getD_some, Option.getD_none]
          omega
  | advance position =>
      cases runs : state.runnable position with
      | none => simp only [apply, runs, dropped, Option.map_none, Option.getD_none, Nat.cast_zero,
          add_zero]
      | some pending =>
          have balances := pending.advance_balances md5 state.buckets
          simp only [apply, runs, dropped, Option.map_some, Option.getD_some]
          cases ends : pending.advance md5 state.buckets with
          | next pending' =>
              rw [ends] at balances
              simp only [settle, lead, Outcome.Balances] at balances ⊢
              omega
          | finish after =>
              rw [ends] at balances
              obtain ⟨used, kept⟩ := balances
              simp only [settle, lead]
              omega
          | write after update =>
              have free := state.writing_of_locks runs (Pending.locks_of_write md5 _ ends)
              rw [ends] at balances
              obtain ⟨used, kept, nothing⟩ := balances
              simp only [settle, lead, free, Option.map_some, Option.map_none, Option.getD_some,
                Option.getD_none]
              omega

/-- From within the limit a step stays within it exactly if the object that it sets fits. -/
theorem bytes_apply_le_iff (event : SharedEvent)
    (within : state.buckets.bytes ≤ MAX_MEMORY_BYTES) :
    (state.apply md5 event).buckets.bytes ≤ MAX_MEMORY_BYTES ↔ state.Fits event := by
  cases event with
  | arrive request => simp only [apply, Fits, within]
  | count =>
      cases writing : state.writing with
      | none => simp only [apply, writing, Fits, within]
      | some update => simp only [apply, writing, Fits, MemoryBuckets.bytes_count, within]
  | advance position =>
      cases runs : state.runnable position with
      | none => simp [apply, runs, Fits, within]
      | some pending =>
          simp only [apply, runs, Fits, bytes_settle, Option.mem_def, Option.some.injEq,
            forall_eq']
          exact pending.bytesAfter_le_iff md5 state.buckets within

/-- The counter is not ahead of the objects, which are within the limit. -/
def Level : Prop := state.lead = 0 ∧ state.buckets.bytes ≤ MAX_MEMORY_BYTES

/-- Where a run ends with no request in progress and every state of it is sound, the counter was
never ahead and stayed so. -/
theorem everyStep_of_sound {events : List SharedEvent} (ahead : 0 ≤ state.lead)
    (sound : EveryState (apply md5) Sound state events)
    (idle : (runAll (apply md5) state events).Idle) :
    state.lead = 0 ∧
      EveryStep (apply md5) (fun state event => state.dropped event = 0 ∧ state.Fits event)
        state events := by
  induction events generalizing state with
  | nil => exact ⟨(state.lead_of_idle idle).mpr (sound.1 idle), trivial⟩
  | cons event events induction =>
      have moved := state.lead_apply md5 event ahead
      obtain ⟨even, later⟩ := induction (state.apply md5 event) (by omega) sound.2 idle
      have fits := (state.bytes_apply_le_iff md5 event sound.1.2).mp sound.2.first.2
      exact ⟨by omega, ⟨by omega, fits⟩, later⟩

/-- If no step removes a bucket with bytes in it and every object that is set fits into the limit,
every state of a run is sound; and in a run after which no request is in progress, only then. -/
theorem everyState_sound_iff (events : List SharedEvent) :
    (EveryStep (apply md5) (fun state event => state.dropped event = 0 ∧ state.Fits event)
        start events →
      EveryState (apply md5) Sound start events) ∧
    ((runAll (apply md5) start events).Idle →
      EveryState (apply md5) Sound start events →
        EveryStep (apply md5) (fun state event => state.dropped event = 0 ∧ state.Fits event)
          start events) := by
  constructor
  · intro met
    have keeps : ∀ (state : SharedBuckets) event, state.Level → state.dropped event = 0 ∧ state.Fits event →
        (state.apply md5 event).Level := by
      rintro state event ⟨even, within⟩ ⟨kept, fits⟩
      refine ⟨?_, (state.bytes_apply_le_iff md5 event within).mpr fits⟩
      rw [state.lead_apply md5 event even.ge, even, kept]
      rfl
    refine (everyState_of_everyStep keeps ⟨rfl, Nat.zero_le _⟩ met).mono ?_
    rintro state ⟨even, within⟩
    exact ⟨fun idle => (state.lead_of_idle idle).mp even, within⟩
  · intro idle sound
    exact (start.everyStep_of_sound md5 le_rfl sound idle).2

/-- Between the last look at an empty bucket and its removal an object of one byte is put. -/
def removedUnderPut : List SharedEvent :=
  let put : PutRequest :=
    { now := 0, bucket := "photos", key := "a", contentType := none, body := [1] }
  [.arrive (.createBucket "photos"), .advance 0, .advance 0,
    .arrive (.deleteBucket "photos"), .advance 0, .advance 0,
    .arrive (.putObject put), .advance 1, .advance 1, .advance 1, .count, .advance 0]

theorem not_sound_of_removedUnderPut :
    ¬ ∀ events, EveryState (apply fun _ => "55a5") Sound start events := by
  intro all
  have last := (all removedUnderPut).last
  exact absurd (last.1 (by decide)) (by decide)

end

end SharedBuckets

end CyxCloud.Gateway
