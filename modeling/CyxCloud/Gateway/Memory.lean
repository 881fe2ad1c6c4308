import CyxCloud.Gateway.Get

/-!
# Objects in memory

The object operations of `cyxcloud-gateway/src/state.rs` in memory mode, which serves without a
database: a map of buckets, each a map of objects, and a counter of the bytes that they take.
-/

namespace CyxCloud.Gateway

open CyxCloud.Core hiding Chunk
open Library Metadata

/-- Limit on the bytes of all objects in memory. -/
def MAX_MEMORY_BYTES : Nat := 256 * 1024 * 1024

/-- An object in memory. -/
structure StoredObject where
  data : Bytes
  contentType : String
  etag : String
  createdAt : Time
  deriving DecidableEq, Repr

/-- The objects of a bucket. -/
structure BucketState where
  objects : String → Option StoredObject

/-- The state of the gateway in memory mode. -/
structure MemoryStore where
  memoryBuckets : String → Option BucketState
  memoryBytesUsed : Nat

namespace MemoryStore

/-- The object under a key, if its bucket exists and has one. -/
def object? (store : MemoryStore) (bucket key : String) : Option StoredObject :=
  (store.memoryBuckets bucket).bind fun state => state.objects key

/-- The store in which the entry of a key in an existing bucket is replaced. -/
def setObject (store : MemoryStore) (bucket key : String) (state : BucketState)
    (object : Option StoredObject) (memoryBytesUsed : Nat) : MemoryStore :=
  { memoryBuckets := Function.update store.memoryBuckets bucket
      (some { objects := Function.update state.objects key object })
    memoryBytesUsed }

/-- Put an object; `md5` is the digest that the crate `md5` prints. -/
def putObject (md5 : Bytes → String) (now : Time) (store : MemoryStore) (bucket key : String)
    (data : Bytes) (contentType : String) : MemoryStore × Except S3Error String :=
  let newSize := data.length
  if store.memoryBytesUsed + newSize > MAX_MEMORY_BYTES then
    (store, .error (.internal (.memoryLimit (MAX_MEMORY_BYTES / (1024 * 1024)))))
  else
    match store.memoryBuckets bucket with
    | none => (store, .error (.noSuchBucket bucket))
    | some state =>
        let etag := md5 data
        let oldSize := ((state.objects key).map fun object => object.data.length).getD 0
        let used :=
          if newSize ≥ oldSize then
            store.memoryBytesUsed + (newSize - oldSize)
          else
            store.memoryBytesUsed - (oldSize - newSize)
        (store.setObject bucket key state
            (some
              { data
                contentType
                etag
                createdAt := now })
            used,
          .ok etag)

/-- Get an object. -/
def getObject (store : MemoryStore) (bucket key : String) : Except S3Error Bytes :=
  match store.memoryBuckets bucket with
  | none => .error (.noSuchBucket bucket)
  | some state =>
      match state.objects key with
      | none => .error (.noSuchKey key)
      | some object => .ok object.data

/-- Delete an object; deleting a missing one from an existing bucket succeeds. -/
def deleteObject (store : MemoryStore) (bucket key : String) :
    MemoryStore × Except S3Error Unit :=
  match store.memoryBuckets bucket with
  | none => (store, .error (.noSuchBucket bucket))
  | some state =>
      match state.objects key with
      | none => (store, .ok ())
      | some removed =>
          (store.setObject bucket key state none
            (store.memoryBytesUsed - removed.data.length), .ok ())

/-- Get the metadata of an object, if it exists. -/
def getObjectMetadata (store : MemoryStore) (bucket key : String) :
    Except S3Error (Option ObjectMetadata) :=
  match store.memoryBuckets bucket with
  | none => .error (.noSuchBucket bucket)
  | some state =>
      .ok ((state.objects key).map fun object =>
        { key
          size := object.data.length
          contentType := object.contentType
          etag := object.etag
          lastModified := object.createdAt })

/-! ## What the operations do to a key -/

section

variable {store : MemoryStore} {bucket key bucket' key' : String} {state : BucketState}

theorem object?_of_bucket (found : store.memoryBuckets bucket = some state) (key : String) :
    store.object? bucket key = state.objects key := by
  rw [object?, found]
  rfl

theorem object?_setObject_same (object : Option StoredObject) (used : Nat) :
    (store.setObject bucket key state object used).object? bucket key = object := by
  simp [object?, setObject]

theorem object?_setObject_other (found : store.memoryBuckets bucket = some state)
    (object : Option StoredObject) (used : Nat) (other : (bucket', key') ≠ (bucket, key)) :
    (store.setObject bucket key state object used).object? bucket' key' =
      store.object? bucket' key' := by
  by_cases same_bucket : bucket' = bucket
  · subst same_bucket
    have other_key : key' ≠ key := fun same => other (by rw [same])
    simp [object?, setObject, found, other_key]
  · simp [object?, setObject, same_bucket]

theorem isSome_setObject (found : store.memoryBuckets bucket = some state)
    (object : Option StoredObject) (used : Nat) (bucket' : String) :
    ((store.setObject bucket key state object used).memoryBuckets bucket').isSome =
      (store.memoryBuckets bucket').isSome := by
  by_cases same : bucket' = bucket
  · subst same
    simp [setObject, found]
  · simp [setObject, same]

variable (md5 : Bytes → String) (now : Time) (data : Bytes) (contentType : String)

/-- A put within the limit into an existing bucket stores the object. -/
theorem putObject_of_room (found : store.memoryBuckets bucket = some state)
    (room : store.memoryBytesUsed + data.length ≤ MAX_MEMORY_BYTES) (key : String) :
    ∃ used, putObject md5 now store bucket key data contentType =
      (store.setObject bucket key state
        (some
          { data
            contentType
            etag := md5 data
            createdAt := now })
        used, .ok (md5 data)) := by
  rw [putObject, if_neg (Nat.not_lt.mpr room), found]
  exact ⟨_, rfl⟩

/-- A put either sets its key or changes nothing. -/
theorem putObject_cases (store : MemoryStore) (bucket key : String) :
    (putObject md5 now store bucket key data contentType).1 = store ∨
      ∃ state object used, store.memoryBuckets bucket = some state ∧
        (putObject md5 now store bucket key data contentType).1 =
          store.setObject bucket key state object used := by
  by_cases room : store.memoryBytesUsed + data.length ≤ MAX_MEMORY_BYTES
  · cases found : store.memoryBuckets bucket with
    | none =>
        left
        rw [putObject, if_neg (Nat.not_lt.mpr room), found]
    | some state =>
        right
        obtain ⟨used, put_eq⟩ := putObject_of_room md5 now data contentType found room key
        exact ⟨state, _, used, rfl, by rw [put_eq]⟩
  · left
    rw [putObject, if_pos (Nat.lt_of_not_le room)]

/-- A delete removes its key; it either sets an entry or changes nothing. -/
theorem deleteObject_cases (store : MemoryStore) (bucket key : String) :
    (deleteObject store bucket key).1.object? bucket key = none ∧
      ((deleteObject store bucket key).1 = store ∨
        ∃ state object used, store.memoryBuckets bucket = some state ∧
          (deleteObject store bucket key).1 = store.setObject bucket key state object used) := by
  cases found : store.memoryBuckets bucket with
  | none => simp [deleteObject, object?, found]
  | some state =>
      cases present : state.objects key with
      | none => simp [deleteObject, object?, found, present]
      | some removed =>
          have set_eq : (deleteObject store bucket key).1 = store.setObject bucket key state none
              (store.memoryBytesUsed - removed.data.length) := by
            simp only [deleteObject, found, present]
          rw [set_eq]
          exact ⟨object?_setObject_same none _, .inr ⟨state, none, _, rfl, rfl⟩⟩

end

end MemoryStore

end CyxCloud.Gateway
