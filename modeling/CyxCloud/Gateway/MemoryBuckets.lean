import CyxCloud.Gateway.S3Api
import CyxCloud.Library.Ranking
import Mathlib.Data.Finset.Sort
import Mathlib.Data.String.Basic

/-!
# Buckets in memory

The bucket and object operations of `cyxcloud-gateway/src/state.rs` in memory mode over finite maps,
which can be counted and listed.
-/

namespace CyxCloud.Gateway

open CyxCloud.Core hiding Chunk
open Library

/-- Limit on the buckets in memory. -/
def MAX_MEMORY_BUCKETS : Nat := 1000

/-- The objects of a bucket by key. -/
abbrev StoredObjects := Dictionary String StoredObject

/-- Bytes of the objects of a bucket. -/
def StoredObjects.bytes (objects : StoredObjects) : Nat :=
  Dictionary.total (fun object : StoredObject => object.data.length) objects

/-- The listing entries of the objects whose keys start with a prefix, sorted by key. -/
def StoredObjects.infosFrom (objects : StoredObjects) (keyPrefix : String) : List ObjectInfo :=
  let infos : List ObjectInfo :=
    (objects.entries.filter fun entry => startsWith entry.1 keyPrefix).map fun entry =>
      { key := entry.1
        lastModified := entry.2.createdAt
        etag := entry.2.etag
        size := entry.2.data.length
        storageClass := "STANDARD" }
  infos.mergeSort fun left right => decide (left.key ≤ right.key)

/-- The state of the gateway in memory mode. -/
structure MemoryBuckets where
  memoryBuckets : Dictionary String StoredObjects
  memoryBytesUsed : Nat

namespace MemoryBuckets

/-- A gateway without buckets. -/
def empty : MemoryBuckets where
  memoryBuckets := ∅
  memoryBytesUsed := 0

/-- Bytes of all objects. -/
def bytes (state : MemoryBuckets) : Nat :=
  Dictionary.total StoredObjects.bytes state.memoryBuckets

section

variable (state : MemoryBuckets)

/-- Whether a bucket exists. -/
def bucketExists (name : String) : Bool := (state.memoryBuckets.lookup name).isSome

/-- Create a bucket. -/
def createBucket (name : String) : MemoryBuckets × Except S3ApiError Unit :=
  if (state.memoryBuckets.lookup name).isSome then
    (state, .error (.bucketAlreadyExists name))
  else if state.memoryBuckets.keys.length ≥ MAX_MEMORY_BUCKETS then
    (state, .error (.bucketLimit MAX_MEMORY_BUCKETS))
  else
    ({ state with memoryBuckets := state.memoryBuckets.insert name ∅ }, .ok ())

/-- Delete a bucket with what it holds; the bytes used stay as they are. -/
def deleteBucket (name : String) : MemoryBuckets :=
  { state with memoryBuckets := state.memoryBuckets.erase name }

/-- Whether a bucket is empty. -/
def bucketIsEmpty (name : String) : Except S3ApiError Bool :=
  match state.memoryBuckets.lookup name with
  | none => .error (.object (.noSuchBucket name))
  | some objects => .ok objects.entries.isEmpty

/-- The check that a put makes before it takes the lock. -/
def memoryLimitExceeded (newSize : Nat) : Bool :=
  decide (state.memoryBytesUsed + newSize > MAX_MEMORY_BYTES)

/-- What a put does under the lock: set the object and move the counter by the difference of the
sizes. -/
def insertObject (md5 : Bytes → String) (now : Time) (bucket key : String) (data : Bytes)
    (contentType : String) : MemoryBuckets × Except S3Error String :=
  match state.memoryBuckets.lookup bucket with
  | none => (state, .error (.noSuchBucket bucket))
  | some objects =>
      let newSize := data.length
      let oldSize := ((objects.lookup key).map fun object => object.data.length).getD 0
      let object : StoredObject :=
        { data
          contentType
          etag := md5 data
          createdAt := now }
      ({ memoryBuckets := state.memoryBuckets.insert bucket (objects.insert key object)
         memoryBytesUsed :=
           if newSize ≥ oldSize then
             state.memoryBytesUsed + (newSize - oldSize)
           else
             state.memoryBytesUsed - (oldSize - newSize) }, .ok (md5 data))

/-- Put an object. -/
def putObject (md5 : Bytes → String) (now : Time) (bucket key : String) (data : Bytes)
    (contentType : String) : MemoryBuckets × Except S3Error String :=
  if state.memoryLimitExceeded data.length then
    (state, .error (.internal (.memoryLimit (MAX_MEMORY_BYTES / (1024 * 1024)))))
  else
    state.insertObject md5 now bucket key data contentType

/-- Get an object. -/
def getObject (bucket key : String) : Except S3Error Bytes :=
  match state.memoryBuckets.lookup bucket with
  | none => .error (.noSuchBucket bucket)
  | some objects =>
      match objects.lookup key with
      | none => .error (.noSuchKey key)
      | some object => .ok object.data

/-- Delete an object; deleting a missing one from an existing bucket succeeds. -/
def deleteObject (bucket key : String) : MemoryBuckets × Except S3Error Unit :=
  match state.memoryBuckets.lookup bucket with
  | none => (state, .error (.noSuchBucket bucket))
  | some objects =>
      match objects.lookup key with
      | none => (state, .ok ())
      | some removed =>
          ({ memoryBuckets := state.memoryBuckets.insert bucket (objects.erase key)
             memoryBytesUsed := state.memoryBytesUsed - removed.data.length }, .ok ())

/-- Get the metadata of an object, if it exists. -/
def getObjectMetadata (bucket key : String) : Except S3Error (Option ObjectMetadata) :=
  match state.memoryBuckets.lookup bucket with
  | none => .error (.noSuchBucket bucket)
  | some objects =>
      .ok ((objects.lookup key).map fun object =>
        { key
          size := object.data.length
          contentType := object.contentType
          etag := object.etag
          lastModified := object.createdAt })

/-- List the objects of a bucket whose keys start with a prefix; the flag tells that there are
more. -/
def listObjects (bucket keyPrefix : String) (maxKeys : Int) :
    Except S3Error (List ObjectInfo × Bool) :=
  match state.memoryBuckets.lookup bucket with
  | none => .error (.noSuchBucket bucket)
  | some objects =>
      let infos := objects.infosFrom keyPrefix
      .ok (infos.take (asUsize maxKeys), decide (infos.length > asUsize maxKeys))

end

/-! ## Accounting -/

/-- The counter is the sum of the sizes of all objects. -/
def Accounted (state : MemoryBuckets) : Prop := state.memoryBytesUsed = state.bytes

instance (state : MemoryBuckets) : Decidable state.Accounted :=
  inferInstanceAs (Decidable (_ = _))

theorem accounted_empty : Accounted empty := rfl

section

variable {state : MemoryBuckets} {bucket key : String} {objects : StoredObjects}
  {object : StoredObject}

/-- Setting an object changes the bytes of its bucket by the difference of the sizes. -/
theorem bytes_insert (objects : StoredObjects) (key : String) (object : StoredObject) :
    StoredObjects.bytes (objects.insert key object) +
        ((objects.lookup key).map fun object => object.data.length).getD 0 =
      objects.bytes + object.data.length :=
  Dictionary.total_insert _ objects key object

theorem bytes_erase (found : objects.lookup key = some object) :
    StoredObjects.bytes (objects.erase key) + object.data.length = objects.bytes := by
  rw [StoredObjects.bytes, StoredObjects.bytes, ← Dictionary.total_erase _ objects key,
    Dictionary.sizeAt_of_lookup _ found]

/-- Replacing the objects of a bucket changes the sum by the difference. -/
theorem bytes_setBucket (found : state.memoryBuckets.lookup bucket = some objects)
    (objects' : StoredObjects) (used : Nat) :
    bytes { memoryBuckets := state.memoryBuckets.insert bucket objects', memoryBytesUsed := used } +
        objects.bytes =
      state.bytes + objects'.bytes := by
  have inserted := Dictionary.total_insert StoredObjects.bytes state.memoryBuckets bucket objects'
  rw [Dictionary.sizeAt_of_lookup _ found] at inserted
  exact inserted

theorem bytes_le_of_lookup (found : state.memoryBuckets.lookup bucket = some objects) :
    objects.bytes ≤ state.bytes := by
  have bounded := Dictionary.sizeAt_le_total StoredObjects.bytes state.memoryBuckets bucket
  rwa [Dictionary.sizeAt_of_lookup _ found] at bounded

/-- Bytes of the objects of a bucket, zero where there is none. -/
def bytesAt (state : MemoryBuckets) (bucket : String) : Nat :=
  Dictionary.sizeAt StoredObjects.bytes state.memoryBuckets bucket

theorem bytes_createBucket (state : MemoryBuckets) (name : String) :
    (state.createBucket name).1.bytes = state.bytes := by
  unfold MemoryBuckets.createBucket
  split
  · rfl
  · split
    · rfl
    · rename_i missing _
      have inserted := Dictionary.total_insert StoredObjects.bytes state.memoryBuckets name ∅
      rwa [Dictionary.sizeAt_of_missing _ (by simpa using missing)] at inserted

theorem memoryBytesUsed_createBucket (state : MemoryBuckets) (name : String) :
    (state.createBucket name).1.memoryBytesUsed = state.memoryBytesUsed := by
  unfold MemoryBuckets.createBucket
  split
  · rfl
  · split <;> rfl

theorem Accounted.createBucket (accounted : Accounted state) (name : String) :
    Accounted (state.createBucket name).1 := by
  rwa [Accounted, bytes_createBucket, memoryBytesUsed_createBucket]

/-- A deleted bucket takes its bytes along. -/
theorem bytes_deleteBucket (state : MemoryBuckets) (name : String) :
    (state.deleteBucket name).bytes + state.bytesAt name = state.bytes :=
  Dictionary.total_erase StoredObjects.bytes state.memoryBuckets name

/-- Deleting a bucket without bytes leaves the sum as it is. -/
theorem Accounted.deleteBucket (accounted : Accounted state) {name : String}
    (drained : state.bytesAt name = 0) : Accounted (state.deleteBucket name) := by
  have erased := state.bytes_deleteBucket name
  rw [drained, Nat.add_zero] at erased
  exact accounted.trans erased.symm

/-- The bytes of all objects after a put under the lock. -/
theorem bytes_insertObject (found : state.memoryBuckets.lookup bucket = some objects)
    (md5 : Bytes → String) (now : Time) (key : String) (data : Bytes) (contentType : String) :
    (state.insertObject md5 now bucket key data contentType).1.bytes +
        ((objects.lookup key).map fun object => object.data.length).getD 0 =
      state.bytes + data.length := by
  simp only [insertObject, found]
  generalize stored : StoredObject.mk data contentType (md5 data) now = object
  have sized : object.data.length = data.length := by rw [← stored]
  have inner := bytes_insert objects key object
  generalize (if data.length ≥ _ then _ else _ : Nat) = used
  have outer := bytes_setBucket found (objects.insert key object) used
  omega

theorem Accounted.insertObject (accounted : Accounted state) (md5 : Bytes → String) (now : Time)
    (bucket key : String) (data : Bytes) (contentType : String) :
    Accounted (state.insertObject md5 now bucket key data contentType).1 := by
  cases found : state.memoryBuckets.lookup bucket with
  | none => simpa only [MemoryBuckets.insertObject, found] using accounted
  | some objects =>
      have inserted := bytes_insertObject found md5 now key data contentType
      have replaced : ((objects.lookup key).map fun object => object.data.length).getD 0 ≤
          objects.bytes := Dictionary.sizeAt_le_total _ objects key
      have within := bytes_le_of_lookup found
      unfold Accounted at accounted ⊢
      have moved : (state.insertObject md5 now bucket key data contentType).1.memoryBytesUsed +
          ((objects.lookup key).map fun object => object.data.length).getD 0 =
            state.memoryBytesUsed + data.length := by
        simp only [MemoryBuckets.insertObject, found]
        split <;> omega
      omega

theorem Accounted.deleteObject (accounted : Accounted state) (bucket key : String) :
    Accounted (state.deleteObject bucket key).1 := by
  unfold MemoryBuckets.deleteObject
  split
  · exact accounted
  · rename_i objects found
    split
    · exact accounted
    · rename_i removed present
      have inner := bytes_erase present
      have outer := bytes_setBucket found (objects.erase key)
        (state.memoryBytesUsed - removed.data.length)
      unfold Accounted at accounted ⊢
      dsimp only
      omega

end

/-! ## The maps as functions -/

/-- The objects of a bucket as a function. -/
def bucketState (objects : StoredObjects) : BucketState where
  objects key := objects.lookup key

/-- The state with its maps as functions. -/
def toStore (state : MemoryBuckets) : MemoryStore where
  memoryBuckets bucket := (state.memoryBuckets.lookup bucket).map bucketState
  memoryBytesUsed := state.memoryBytesUsed

theorem bucketState_insert (objects : StoredObjects) (key : String) (object : StoredObject) :
    bucketState (objects.insert key object) =
      { objects := Function.update (bucketState objects).objects key (some object) } := by
  rw [bucketState, BucketState.mk.injEq]
  funext other
  by_cases same : other = key
  · subst same
    simp
  · simp [AList.lookup_insert_ne same, same, bucketState]

theorem bucketState_erase (objects : StoredObjects) (key : String) :
    bucketState (objects.erase key) =
      { objects := Function.update (bucketState objects).objects key none } := by
  rw [bucketState, BucketState.mk.injEq]
  funext other
  by_cases same : other = key
  · subst same
    simp
  · simp [AList.lookup_erase_ne same, same, bucketState]

theorem toStore_insert (state : MemoryBuckets) (bucket : String) (objects : StoredObjects)
    (used : Nat) :
    toStore { memoryBuckets := state.memoryBuckets.insert bucket objects, memoryBytesUsed := used } =
      { memoryBuckets :=
          Function.update state.toStore.memoryBuckets bucket (some (bucketState objects))
        memoryBytesUsed := used } := by
  rw [toStore, MemoryStore.mk.injEq]
  refine ⟨?_, rfl⟩
  funext other
  by_cases same : other = bucket
  · subst same
    simp
  · simp [AList.lookup_insert_ne same, same, toStore]

/-- A put on finite maps is one on functions. -/
theorem toStore_putObject (state : MemoryBuckets) (md5 : Bytes → String) (now : Time)
    (bucket key : String) (data : Bytes) (contentType : String) :
    MemoryStore.putObject md5 now state.toStore bucket key data contentType =
      ((state.putObject md5 now bucket key data contentType).1.toStore,
        (state.putObject md5 now bucket key data contentType).2) := by
  by_cases exceeds : state.memoryBytesUsed + data.length > MAX_MEMORY_BYTES
  · simp [MemoryStore.putObject, putObject, memoryLimitExceeded, toStore, exceeds]
  · cases found : state.memoryBuckets.lookup bucket with
    | none => simp [MemoryStore.putObject, putObject, memoryLimitExceeded, insertObject, toStore,
        exceeds, found]
    | some objects =>
        have found' : state.toStore.memoryBuckets bucket = some (bucketState objects) := by
          simp [toStore, found]
        have within : ¬ (state.toStore.memoryBytesUsed + data.length > MAX_MEMORY_BYTES) := exceeds
        simp only [putObject, memoryLimitExceeded, exceeds, decide_false, Bool.false_eq_true, if_false,
          insertObject, found, toStore_insert, bucketState_insert]
        rw [MemoryStore.putObject, if_neg within, found']
        rfl

/-- A delete on finite maps is one on functions. -/
theorem toStore_deleteObject (state : MemoryBuckets) (bucket key : String) :
    MemoryStore.deleteObject state.toStore bucket key =
      ((state.deleteObject bucket key).1.toStore, (state.deleteObject bucket key).2) := by
  cases found : state.memoryBuckets.lookup bucket with
  | none => simp [MemoryStore.deleteObject, deleteObject, toStore, found]
  | some objects =>
      have found' : state.toStore.memoryBuckets bucket = some (bucketState objects) := by
        simp [toStore, found]
      cases present : objects.lookup key with
      | none => simp [MemoryStore.deleteObject, deleteObject, found, found', bucketState, present]
      | some removed =>
          have present' : (bucketState objects).objects key = some removed := present
          simp only [deleteObject, found, present, toStore_insert, bucketState_erase]
          rw [MemoryStore.deleteObject, found']
          simp only [present']
          rfl

/-- Reads on finite maps are reads on functions. -/
theorem toStore_getObject (state : MemoryBuckets) (bucket key : String) :
    MemoryStore.getObject state.toStore bucket key = state.getObject bucket key ∧
      MemoryStore.getObjectMetadata state.toStore bucket key =
        state.getObjectMetadata bucket key := by
  cases found : state.memoryBuckets.lookup bucket with
  | none =>
      simp [MemoryStore.getObject, getObject, MemoryStore.getObjectMetadata, getObjectMetadata,
        toStore, found]
  | some objects =>
      have found' : state.toStore.memoryBuckets bucket = some (bucketState objects) := by
        simp [toStore, found]
      simp only [MemoryStore.getObject, getObject, MemoryStore.getObjectMetadata,
        getObjectMetadata, found, found', bucketState]
      constructor <;> trivial

end MemoryBuckets

/-! ## Listings -/

namespace StoredObjects

variable (objects : StoredObjects) (keyPrefix : String)

/-- A listing entry shows the object under its key. -/
theorem of_mem_infosFrom {info : ObjectInfo} (member : info ∈ objects.infosFrom keyPrefix) :
    ∃ object, objects.lookup info.key = some object ∧
      info =
        { key := info.key
          lastModified := object.createdAt
          etag := object.etag
          size := object.data.length
          storageClass := "STANDARD" } := by
  rw [infosFrom, List.mem_mergeSort, List.mem_map] at member
  obtain ⟨entry, kept, rfl⟩ := member
  exact ⟨entry.2, Dictionary.lookup_of_mem_entries (List.mem_of_mem_filter kept), rfl⟩

theorem perm_keys_infosFrom :
    ((objects.infosFrom keyPrefix).map ObjectInfo.key).Perm
      (objects.keys.filter fun key => startsWith key keyPrefix) := by
  refine ((List.mergeSort_perm _ _).map _).trans (List.Perm.of_eq ?_)
  rw [List.map_map, AList.keys, List.keys, List.filter_map]
  rfl

theorem pairwise_keys_infosFrom :
    ((objects.infosFrom keyPrefix).map ObjectInfo.key).Pairwise (· ≤ ·) := by
  rw [List.pairwise_map]
  exact pairwise_mergeSort_by ObjectInfo.key _

/-- The keys of a listing are the keys of the bucket with the prefix, in order. -/
theorem keys_infosFrom :
    (objects.infosFrom keyPrefix).map ObjectInfo.key =
      (objects.keys.toFinset.filter fun key => startsWith key keyPrefix).sort := by
  have permuted := objects.perm_keys_infosFrom keyPrefix
  have nodup := permuted.nodup_iff.mpr (objects.keys_nodup.filter _)
  rw [← (List.toFinset_sort (· ≤ ·) nodup).mpr (objects.pairwise_keys_infosFrom keyPrefix),
    List.toFinset_eq_of_perm _ _ permuted, List.toFinset_filter]

end StoredObjects

/-- The keys of a set with a prefix, in byte order. -/
def orderedKeys (keys : Finset String) (keyPrefix : String) : List String :=
  (keys.filter fun key => startsWith key keyPrefix).sort

end CyxCloud.Gateway
