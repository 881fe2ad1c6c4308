import CyxCloud.Gateway.MemoryHandlers
import Mathlib.Data.Finset.Sort
import Mathlib.Data.String.Basic

/-!
# The S3 interface as a map

What the S3 interface is for: a finite map from bucket names to finite maps from keys to objects.
The handlers in memory mode answer as this map does.
-/

namespace CyxCloud.Gateway

open CyxCloud.Core hiding Chunk
open Library

/-- What is put under a key. -/
structure ObjectValue where
  data : Bytes
  contentType : String
  createdAt : Time
  deriving DecidableEq

/-- The objects of a bucket. -/
abbrev ObjectMap := Finmap fun _ : String => ObjectValue

/-- The buckets. -/
abbrev BucketMap := Finmap fun _ : String => ObjectMap

namespace ObjectMap

/-- Bytes of all objects of a bucket. -/
def bytes (objects : ObjectMap) : Nat :=
  ∑ key ∈ objects.keys, ((objects.lookup key).map fun value => value.data.length).getD 0

/-- The keys with a prefix in byte order. -/
def keysFrom (objects : ObjectMap) (keyPrefix : String) : List String :=
  orderedKeys objects.keys keyPrefix

end ObjectMap

/-- Bytes of all objects. -/
def BucketMap.bytes (buckets : BucketMap) : Nat :=
  ∑ name ∈ buckets.keys, ((buckets.lookup name).map ObjectMap.bytes).getD 0

namespace MapStore

open S3Handlers (quoted contentTypeOf)

variable (md5 : Bytes → String) (rfc3339 : Time → String) (buckets : BucketMap)

/-- An object as a listing shows it. -/
def listed (key : String) (value : ObjectValue) : ListedObject where
  key := key
  lastModified := rfc3339 value.createdAt
  etag := md5 value.data
  size := value.data.length
  storageClass := "STANDARD"

/-- The first keys of a bucket with a prefix, and whether there are more. -/
def listing (bucket : String) (query : ListObjectsQuery) (objects : ObjectMap) :
    ListObjectsV2Response :=
  let maxKeys := min (query.maxKeys.getD 1000) 1000
  let keyPrefix := query.keyPrefix.getD ""
  let keys := objects.keysFrom keyPrefix
  let contents := (keys.take maxKeys.toNat).filterMap fun key =>
    (objects.lookup key).map (listed md5 rfc3339 key)
  { name := bucket
    keyPrefix := some keyPrefix
    maxKeys
    isTruncated := decide (maxKeys.toNat < keys.length)
    contents
    commonPrefixes := []
    continuationToken := query.continuationToken
    nextContinuationToken := none
    keyCount := contents.length }

/-- Run an operation on the objects of a bucket, for a valid key. -/
def onObject (bucket key : String)
    (run : ObjectMap → BucketMap × Except S3ApiError S3Answer) :
    BucketMap × Except S3ApiError S3Answer :=
  match validateObjectKey key with
  | .error cause => (buckets, .error cause)
  | .ok () =>
      match buckets.lookup bucket with
      | none => (buckets, .error (.object (.noSuchBucket bucket)))
      | some objects => run objects

/-- What the map answers to a request, and what becomes of it. -/
def serve : S3Request → BucketMap × Except S3ApiError S3Answer
  | .createBucket bucket =>
      if bucket ∈ buckets then
        (buckets, .error (.bucketAlreadyExists bucket))
      else if MAX_MEMORY_BUCKETS ≤ buckets.keys.card then
        (buckets, .error (.bucketLimit MAX_MEMORY_BUCKETS))
      else
        (buckets.insert bucket ∅, .ok (.created ("/" ++ bucket)))
  | .deleteBucket bucket =>
      match buckets.lookup bucket with
      | none => (buckets, .error (.object (.noSuchBucket bucket)))
      | some objects =>
          if objects.keys = ∅ then
            (buckets.erase bucket, .ok .noContent)
          else
            (buckets, .error (.invalidRequest "Bucket is not empty"))
  | .headBucket bucket =>
      (buckets,
        if bucket ∈ buckets then .ok .found else .error (.object (.noSuchBucket bucket)))
  | .listObjects bucket query =>
      match buckets.lookup bucket with
      | none => (buckets, .error (.object (.noSuchBucket bucket)))
      | some objects => (buckets, .ok (.listing (listing md5 rfc3339 bucket query objects)))
  | .putObject now bucket key contentType body =>
      onObject buckets bucket key fun objects =>
        if buckets.bytes + body.length > MAX_MEMORY_BYTES then
          (buckets,
            .error (.object (.internal (.memoryLimit (MAX_MEMORY_BYTES / (1024 * 1024))))))
        else
          let value : ObjectValue :=
            { data := body
              contentType := contentTypeOf contentType
              createdAt := now }
          (buckets.insert bucket (objects.insert key value), .ok (.stored (quoted (md5 body))))
  | .getObject bucket key =>
      onObject buckets bucket key fun objects =>
        match objects.lookup key with
        | none => (buckets, .error (.object (.noSuchKey key)))
        | some value =>
            (buckets,
              .ok (.object value.contentType value.data.length (quoted (md5 value.data))
                (rfc3339 value.createdAt) value.data))
  | .deleteObject bucket key =>
      onObject buckets bucket key fun objects =>
        (buckets.insert bucket (objects.erase key), .ok .noContent)
  | .headObject bucket key =>
      onObject buckets bucket key fun objects =>
        match objects.lookup key with
        | none => (buckets, .error (.object (.noSuchKey key)))
        | some value =>
            (buckets,
              .ok (.metadata value.contentType value.data.length (quoted (md5 value.data))
                (rfc3339 value.createdAt)))

end MapStore

/-! ## What the buckets in memory hold -/

/-- An object in memory holds a value. -/
structure HoldsValue (md5 : Bytes → String) (object : StoredObject) (value : ObjectValue) :
    Prop where
  stored : object =
    { data := value.data
      contentType := value.contentType
      etag := md5 value.data
      createdAt := value.createdAt }
  text : isHeaderText value.contentType = true

/-- The buckets in memory hold the map, and their bytes are counted. -/
structure HoldsBuckets (md5 : Bytes → String) (state : MemoryBuckets) (buckets : BucketMap) :
    Prop where
  represents :
    Dictionary.Represents (Dictionary.Represents (HoldsValue md5)) state.memoryBuckets buckets
  accounted : state.Accounted

section

variable {md5 : Bytes → String}

theorem isHeaderText_contentTypeOf (header : Option String) :
    isHeaderText (S3Handlers.contentTypeOf header) = true := by
  cases header with
  | none => decide
  | some text =>
      by_cases readable : isHeaderText text = true
      · rw [S3Handlers.contentTypeOf, Option.filter_some_pos readable]
        exact readable
      · rw [S3Handlers.contentTypeOf, Option.filter_some_neg (by simpa using readable)]
        decide

theorem holdsBuckets_empty : HoldsBuckets md5 MemoryBuckets.empty ∅ where
  represents := Dictionary.represents_empty
  accounted := MemoryBuckets.accounted_empty

variable {objects : StoredObjects} {map : ObjectMap}

theorem HoldsValue.length_eq {object : StoredObject} {value : ObjectValue}
    (holds : HoldsValue md5 object value) : object.data.length = value.data.length := by
  rw [holds.stored]

theorem bytes_eq_of_represents (represents : Dictionary.Represents (HoldsValue md5) objects map) :
    objects.bytes = map.bytes :=
  represents.total_eq fun _ _ holds => holds.length_eq

theorem isEmpty_eq_of_represents
    (represents : Dictionary.Represents (HoldsValue md5) objects map) :
    objects.entries.isEmpty = decide (map.keys = ∅) := by
  rw [← represents.keys_eq, Bool.eq_iff_iff, decide_eq_true_iff, List.toFinset_eq_empty_iff,
    List.isEmpty_iff, AList.keys, List.keys, List.map_eq_nil_iff]

theorem keys_infosFrom_of_represents
    (represents : Dictionary.Represents (HoldsValue md5) objects map) (keyPrefix : String) :
    (objects.infosFrom keyPrefix).map ObjectInfo.key = map.keysFrom keyPrefix := by
  rw [StoredObjects.keys_infosFrom, represents.keys_eq, ObjectMap.keysFrom, orderedKeys]

/-- The entries of a listing are those that the map gives for their keys. -/
theorem listed_of_represents (represents : Dictionary.Represents (HoldsValue md5) objects map)
    (rfc3339 : Time → String) (keyPrefix : String) (count : Nat) :
    ((objects.infosFrom keyPrefix).take count).map (ObjectInfo.listed rfc3339) =
      ((map.keysFrom keyPrefix).take count).filterMap fun key =>
        (map.lookup key).map (MapStore.listed md5 rfc3339 key) := by
  rw [← keys_infosFrom_of_represents represents, ← List.map_take, List.filterMap_map,
    ← List.filterMap_eq_map]
  refine List.filterMap_congr fun info member => ?_
  obtain ⟨object, found, shown⟩ :=
    objects.of_mem_infosFrom keyPrefix (List.mem_of_mem_take member)
  obtain ⟨value, found', holds⟩ := represents.exists_lookup found
  rw [Function.comp_apply, Function.comp_apply, found', shown, holds.stored]
  rfl

end

/-! ## Serving a request -/

section

variable {md5 : Bytes → String} {state : MemoryBuckets} {buckets : BucketMap}

/-- The handlers and the map answer the same, and the buckets still hold the map. -/
structure Agree (md5 : Bytes → String) (served : MemoryBuckets × Except S3ApiError S3Answer)
    (served' : BucketMap × Except S3ApiError S3Answer) : Prop where
  answer : served.2 = served'.2
  holds : HoldsBuckets md5 served.1 served'.1

theorem HoldsBuckets.bucketExists_iff (holds : HoldsBuckets md5 state buckets) (bucket : String) :
    state.bucketExists bucket = true ↔ bucket ∈ buckets :=
  holds.represents.isSome_iff bucket

theorem HoldsBuckets.used_eq (holds : HoldsBuckets md5 state buckets) :
    state.memoryBytesUsed = buckets.bytes :=
  holds.accounted.trans
    (holds.represents.total_eq fun _ _ represents => bytes_eq_of_represents represents)

theorem HoldsBuckets.createBucket (holds : HoldsBuckets md5 state buckets)
    (rfc3339 : Time → String) (bucket : String) :
    Agree md5 (S3Handlers.createBucket state bucket)
      (MapStore.serve md5 rfc3339 buckets (.createBucket bucket)) := by
  have exists_iff := holds.bucketExists_iff bucket
  have accounted := holds.accounted.createBucket bucket
  by_cases present : bucket ∈ buckets
  · have exists' := exists_iff.mpr present
    simp only [S3Handlers.createBucket, MapStore.serve, exists', present, if_true]
    exact ⟨rfl, holds⟩
  · have missing : ¬ (state.memoryBuckets.lookup bucket).isSome = true :=
      fun found => present (exists_iff.mp found)
    have missing' : ¬ state.bucketExists bucket = true := missing
    by_cases full : MAX_MEMORY_BUCKETS ≤ buckets.keys.card
    · simp only [S3Handlers.createBucket, MapStore.serve, present, missing', if_false,
        MemoryBuckets.createBucket, missing, holds.represents.length_keys, ge_iff_le, full, if_true]
      exact ⟨rfl, holds⟩
    · simp only [S3Handlers.createBucket, MapStore.serve, present, missing', if_false,
        MemoryBuckets.createBucket, missing, holds.represents.length_keys, ge_iff_le, full]
        at accounted ⊢
      exact ⟨rfl, holds.represents.insert bucket Dictionary.represents_empty, accounted⟩

theorem HoldsBuckets.deleteBucket (holds : HoldsBuckets md5 state buckets)
    (rfc3339 : Time → String) (bucket : String) :
    Agree md5 (S3Handlers.deleteBucket state bucket)
      (MapStore.serve md5 rfc3339 buckets (.deleteBucket bucket)) := by
  cases found : state.memoryBuckets.lookup bucket with
  | none =>
      have missing := holds.represents.lookup_eq_none found
      simp only [S3Handlers.deleteBucket, MapStore.serve, MemoryBuckets.bucketExists, found,
        missing]
      exact ⟨rfl, holds⟩
  | some objects =>
      obtain ⟨map, found', represents⟩ := holds.represents.exists_lookup found
      have empty_eq := isEmpty_eq_of_represents represents
      by_cases drained : map.keys = ∅
      · have nothing : objects.bytes = 0 := by
          rw [bytes_eq_of_represents represents, ObjectMap.bytes, drained, Finset.sum_empty]
        have accounted : (state.deleteBucket bucket).Accounted :=
          holds.accounted.deleteBucket ((Dictionary.sizeAt_of_lookup _ found).trans nothing)
        simp only [S3Handlers.deleteBucket, MapStore.serve, MemoryBuckets.bucketExists,
          MemoryBuckets.bucketIsEmpty, found, found', empty_eq, drained]
        exact ⟨rfl, holds.represents.erase bucket, accounted⟩
      · simp only [S3Handlers.deleteBucket, MapStore.serve, MemoryBuckets.bucketExists,
          MemoryBuckets.bucketIsEmpty, found, found', empty_eq, drained]
        exact ⟨rfl, holds⟩

theorem HoldsBuckets.listObjects (holds : HoldsBuckets md5 state buckets)
    (rfc3339 : Time → String) (bucket : String) {query : ListObjectsQuery}
    (bounded : ∀ maxKeys ∈ query.maxKeys, 0 ≤ maxKeys) :
    Agree md5 (state, S3Handlers.listObjects rfc3339 state bucket query)
      (MapStore.serve md5 rfc3339 buckets (.listObjects bucket query)) := by
  have capped : asUsize (min (query.maxKeys.getD 1000) 1000) =
      (min (query.maxKeys.getD 1000) 1000).toNat := by
    refine asUsize_of_nonneg ?_ (min_le_right _ _)
    cases requested : query.maxKeys with
    | none => decide
    | some maxKeys => exact le_min (bounded maxKeys requested) (by decide)
  cases found : state.memoryBuckets.lookup bucket with
  | none =>
      have missing := holds.represents.lookup_eq_none found
      simp only [S3Handlers.listObjects, S3Handlers.memoryReads, ObjectReads.listing,
        MapStore.serve, MemoryBuckets.bucketExists, found, missing]
      exact ⟨rfl, holds⟩
  | some objects =>
      obtain ⟨map, found', represents⟩ := holds.represents.exists_lookup found
      have contents := listed_of_represents represents rfc3339 (query.keyPrefix.getD "")
        (min (query.maxKeys.getD 1000) 1000).toNat
      have counted := congrArg List.length
        (keys_infosFrom_of_represents represents (query.keyPrefix.getD ""))
      rw [List.length_map] at counted
      refine ⟨?_, ?_⟩
      · simp only [S3Handlers.listObjects, S3Handlers.memoryReads, ObjectReads.listing,
          MapStore.serve, MapStore.listing, MemoryBuckets.bucketExists, MemoryBuckets.listObjects,
          found, found', capped, ← contents, List.length_map, counted]
        rfl
      · simpa only [MapStore.serve, found'] using holds

/-- Handlers of objects agree if they refuse invalid keys and missing buckets and agree on the
objects of a bucket. -/
theorem HoldsBuckets.onObject (holds : HoldsBuckets md5 state buckets) {bucket key : String}
    {served : MemoryBuckets × Except S3ApiError S3Answer}
    {run : ObjectMap → BucketMap × Except S3ApiError S3Answer}
    (invalid : ∀ cause, validateObjectKey key = .error cause → served = (state, .error cause))
    (missing : validateObjectKey key = .ok () → state.memoryBuckets.lookup bucket = none →
      served = (state, .error (.object (.noSuchBucket bucket))))
    (found : ∀ objects map, validateObjectKey key = .ok () →
      state.memoryBuckets.lookup bucket = some objects →
      Dictionary.Represents (HoldsValue md5) objects map → Agree md5 served (run map)) :
    Agree md5 served (MapStore.onObject buckets bucket key run) := by
  unfold MapStore.onObject
  cases valid : validateObjectKey key with
  | error cause =>
      rw [invalid cause valid]
      exact ⟨rfl, holds⟩
  | ok _ =>
      cases present : state.memoryBuckets.lookup bucket with
      | none =>
          rw [missing valid present]
          simp only [holds.represents.lookup_eq_none present]
          exact ⟨rfl, holds⟩
      | some objects =>
          obtain ⟨map, present', represents⟩ := holds.represents.exists_lookup present
          simp only [present']
          exact found objects map valid present represents

theorem HoldsBuckets.putObject (holds : HoldsBuckets md5 state buckets)
    (rfc3339 : Time → String) (now : Time) (bucket key : String) (contentType : Option String)
    (body : Bytes) :
    Agree md5 (S3Handlers.putObject md5 state now bucket key contentType body)
      (MapStore.serve md5 rfc3339 buckets (.putObject now bucket key contentType body)) := by
  refine holds.onObject ?_ ?_ ?_
  · intro cause refused
    simp only [S3Handlers.putObject, S3Handlers.storeObject, refused]
  · intro valid missing
    simp only [S3Handlers.putObject, S3Handlers.storeObject, valid, MemoryBuckets.bucketExists,
      missing]
    rfl
  · intro objects map valid found represents
    have accounted := holds.accounted.insertObject md5 now bucket key body
      (S3Handlers.contentTypeOf contentType)
    by_cases exceeds : buckets.bytes + body.length > MAX_MEMORY_BYTES
    · simp only [S3Handlers.putObject, S3Handlers.storeObject, valid, MemoryBuckets.bucketExists,
        found, MemoryBuckets.putObject, MemoryBuckets.memoryLimitExceeded, holds.used_eq, exceeds,
        decide_true, if_true]
      exact ⟨rfl, holds⟩
    · simp only [S3Handlers.putObject, S3Handlers.storeObject, valid, MemoryBuckets.bucketExists,
        found, MemoryBuckets.putObject, MemoryBuckets.memoryLimitExceeded, holds.used_eq, exceeds,
        decide_false, if_false, MemoryBuckets.insertObject] at accounted ⊢
      refine ⟨rfl, holds.represents.insert bucket (represents.insert key ?_), accounted⟩
      exact ⟨rfl, isHeaderText_contentTypeOf contentType⟩

theorem HoldsBuckets.deleteObject (holds : HoldsBuckets md5 state buckets)
    (rfc3339 : Time → String) (bucket key : String) :
    Agree md5 (S3Handlers.deleteObject state bucket key)
      (MapStore.serve md5 rfc3339 buckets (.deleteObject bucket key)) := by
  refine holds.onObject ?_ ?_ ?_
  · intro cause refused
    simp only [S3Handlers.deleteObject, refused]
  · intro valid missing
    simp only [S3Handlers.deleteObject, valid, MemoryBuckets.bucketExists, missing]
    rfl
  · intro objects map valid found represents
    have accounted := holds.accounted.deleteObject bucket key
    cases stored : objects.lookup key with
    | none =>
        simp only [S3Handlers.deleteObject, valid, MemoryBuckets.bucketExists, found,
          MemoryBuckets.deleteObject, stored]
        have erased := represents.erase_of_missing stored
        exact ⟨rfl, holds.represents.insert_of_lookup found erased, holds.accounted⟩
    | some removed =>
        simp only [S3Handlers.deleteObject, valid, MemoryBuckets.bucketExists, found,
          MemoryBuckets.deleteObject, stored] at accounted ⊢
        exact ⟨rfl, holds.represents.insert bucket (represents.erase key), accounted⟩

theorem HoldsBuckets.headObject (holds : HoldsBuckets md5 state buckets)
    (rfc3339 : Time → String) (bucket key : String) :
    Agree md5 (state, S3Handlers.headObject rfc3339 state bucket key)
      (MapStore.serve md5 rfc3339 buckets (.headObject bucket key)) := by
  refine holds.onObject ?_ ?_ ?_
  · intro cause refused
    simp only [S3Handlers.headObject, S3Handlers.responseMetadata, ObjectReads.responseMetadata,
      refused]
  · intro valid missing
    simp only [S3Handlers.headObject, S3Handlers.responseMetadata, S3Handlers.memoryReads,
      ObjectReads.responseMetadata, valid, MemoryBuckets.bucketExists, missing]
    rfl
  · intro objects map valid found represents
    cases stored : objects.lookup key with
    | none =>
        simp only [S3Handlers.headObject, S3Handlers.responseMetadata, S3Handlers.memoryReads,
          ObjectReads.responseMetadata, valid, MemoryBuckets.bucketExists, found,
          MemoryBuckets.getObjectMetadata, stored, represents.lookup_eq_none stored]
        exact ⟨rfl, holds⟩
    | some object =>
        obtain ⟨value, stored', kept⟩ := represents.exists_lookup stored
        simp only [S3Handlers.headObject, S3Handlers.responseMetadata, S3Handlers.memoryReads,
          ObjectReads.responseMetadata, valid, MemoryBuckets.bucketExists, found,
          MemoryBuckets.getObjectMetadata, stored, stored', kept.stored, Option.isSome_some,
          Bool.not_true, Bool.false_eq_true, if_false, Option.map_some, kept.text]
        exact ⟨rfl, holds⟩

theorem HoldsBuckets.getObject (holds : HoldsBuckets md5 state buckets)
    (rfc3339 : Time → String) (bucket key : String) :
    Agree md5 (state, S3Handlers.getObject rfc3339 state bucket key)
      (MapStore.serve md5 rfc3339 buckets (.getObject bucket key)) := by
  refine holds.onObject ?_ ?_ ?_
  · intro cause refused
    simp only [S3Handlers.getObject, ObjectReads.object, ObjectReads.responseMetadata, refused]
  · intro valid missing
    simp only [S3Handlers.getObject, S3Handlers.memoryReads, ObjectReads.object,
      ObjectReads.responseMetadata, valid, MemoryBuckets.bucketExists, missing]
    rfl
  · intro objects map valid found represents
    cases stored : objects.lookup key with
    | none =>
        simp only [S3Handlers.getObject, S3Handlers.memoryReads, ObjectReads.object,
          ObjectReads.responseMetadata, valid, MemoryBuckets.bucketExists, found,
          MemoryBuckets.getObjectMetadata, stored, represents.lookup_eq_none stored]
        exact ⟨rfl, holds⟩
    | some object =>
        obtain ⟨value, stored', kept⟩ := represents.exists_lookup stored
        simp only [S3Handlers.getObject, S3Handlers.memoryReads, ObjectReads.object,
          ObjectReads.responseMetadata, valid, MemoryBuckets.bucketExists, found,
          MemoryBuckets.getObjectMetadata, MemoryBuckets.getObject, stored, stored', kept.stored,
          Option.isSome_some, Bool.not_true, Bool.false_eq_true, if_false, Option.map_some,
          kept.text]
        exact ⟨rfl, holds⟩

/-- The number of keys that a listing asks for is not negative. -/
def S3Request.Bounded : S3Request → Prop
  | .listObjects _ query => ∀ maxKeys ∈ query.maxKeys, 0 ≤ maxKeys
  | _ => True

theorem HoldsBuckets.serve (holds : HoldsBuckets md5 state buckets) (rfc3339 : Time → String)
    {request : S3Request} (bounded : request.Bounded) :
    Agree md5 (S3Handlers.serve md5 rfc3339 state request)
      (MapStore.serve md5 rfc3339 buckets request) := by
  cases request with
  | createBucket bucket => exact holds.createBucket rfc3339 bucket
  | deleteBucket bucket => exact holds.deleteBucket rfc3339 bucket
  | headBucket bucket =>
      have exists_iff := holds.bucketExists_iff bucket
      refine ⟨?_, holds⟩
      by_cases present : bucket ∈ buckets
      · simp [S3Handlers.serve, S3Handlers.headBucket, MapStore.serve, present, exists_iff]
      · have missing : state.bucketExists bucket = false := by simpa [present] using exists_iff
        simp [S3Handlers.serve, S3Handlers.headBucket, MapStore.serve, present, missing]
  | listObjects bucket query => exact holds.listObjects rfc3339 bucket bounded
  | putObject now bucket key contentType body =>
      exact holds.putObject rfc3339 now bucket key contentType body
  | getObject bucket key => exact holds.getObject rfc3339 bucket key
  | deleteObject bucket key => exact holds.deleteObject rfc3339 bucket key
  | headObject bucket key => exact holds.headObject rfc3339 bucket key

end

/-! ## Refused requests -/

section

variable {md5 : Bytes → String} {state : MemoryBuckets}

theorem MemoryBuckets.createBucket_of_error {bucket : String} {cause : S3ApiError}
    (refused : (state.createBucket bucket).2 = .error cause) :
    (state.createBucket bucket).1 = state := by
  revert refused
  unfold MemoryBuckets.createBucket
  split
  · exact fun _ => rfl
  · split
    · exact fun _ => rfl
    · exact fun refused => nomatch refused

theorem MemoryBuckets.putObject_of_error {now : Time} {bucket key : String} {data : Bytes}
    {contentType : String} {cause : S3Error}
    (refused : (state.putObject md5 now bucket key data contentType).2 = .error cause) :
    (state.putObject md5 now bucket key data contentType).1 = state := by
  revert refused
  unfold MemoryBuckets.putObject MemoryBuckets.insertObject
  split
  · exact fun _ => rfl
  · cases state.memoryBuckets.lookup bucket with
    | none => exact fun _ => rfl
    | some objects => exact fun refused => nomatch refused

theorem MemoryBuckets.deleteObject_of_error {bucket key : String} {cause : S3Error}
    (refused : (state.deleteObject bucket key).2 = .error cause) :
    (state.deleteObject bucket key).1 = state := by
  revert refused
  unfold MemoryBuckets.deleteObject
  cases state.memoryBuckets.lookup bucket with
  | none => exact fun _ => rfl
  | some objects =>
      dsimp only
      cases objects.lookup key with
      | none => exact fun refused => nomatch refused
      | some removed => exact fun refused => nomatch refused

/-- A request answered with an error leaves the buckets as they are. -/
theorem S3Handlers.serve_of_error {rfc3339 : Time → String} {request : S3Request}
    {cause : S3ApiError} (refused : (serve md5 rfc3339 state request).2 = .error cause) :
    (serve md5 rfc3339 state request).1 = state := by
  revert refused
  cases request with
  | headBucket bucket => exact fun _ => rfl
  | listObjects bucket query => exact fun _ => rfl
  | getObject bucket key => exact fun _ => rfl
  | headObject bucket key => exact fun _ => rfl
  | createBucket bucket =>
      simp only [serve, createBucket]
      split
      · exact fun _ => rfl
      · split
        · rename_i refused
          exact fun _ => MemoryBuckets.createBucket_of_error refused
        · exact fun refused => nomatch refused
  | deleteBucket bucket =>
      simp only [serve, deleteBucket]
      split
      · exact fun _ => rfl
      · split
        · exact fun _ => rfl
        · exact fun _ => rfl
        · exact fun refused => nomatch refused
  | putObject now bucket key contentType body =>
      simp only [serve, putObject, storeObject]
      split
      · exact fun _ => rfl
      · split
        · exact fun _ => rfl
        · intro refused
          cases put : (state.putObject md5 now bucket key body (contentTypeOf contentType)).2 with
          | error cause => exact MemoryBuckets.putObject_of_error put
          | ok etag =>
              rw [put] at refused
              exact nomatch refused
  | deleteObject bucket key =>
      simp only [serve, deleteObject]
      split
      · exact fun _ => rfl
      · split
        · exact fun _ => rfl
        · intro refused
          cases deleted : (state.deleteObject bucket key).2 with
          | error cause => exact MemoryBuckets.deleteObject_of_error deleted
          | ok _ =>
              rw [deleted] at refused
              exact nomatch refused

end

/-! ## Runs -/

/-- The handlers in memory mode answer every list of requests as the map does, and a request
answered with an error leaves the buckets as they are. -/
theorem S3Handlers.answers_eq_map (md5 : Bytes → String) (rfc3339 : Time → String)
    {requests : List S3Request} (bounded : ∀ request ∈ requests, request.Bounded) :
    answers (S3Handlers.serve md5 rfc3339) MemoryBuckets.empty requests =
        answers (MapStore.serve md5 rfc3339) ∅ requests ∧
      EveryStep (fun state request => (S3Handlers.serve md5 rfc3339 state request).1)
        (fun state request =>
          ∀ cause, (S3Handlers.serve md5 rfc3339 state request).2 = .error cause →
            (S3Handlers.serve md5 rfc3339 state request).1 = state)
        MemoryBuckets.empty requests := by
  constructor
  · refine answers_eq_of_simulation (HoldsBuckets md5) ?_ holdsBuckets_empty bounded
    intro state buckets request admitted holds
    have agree := holds.serve rfc3339 admitted
    exact ⟨agree.answer, agree.holds⟩
  · exact everyStep_of_forall (fun request _ state cause refused =>
      S3Handlers.serve_of_error refused) MemoryBuckets.empty

/-- A bucket with an object that is put twice, listed, and deleted, after which the bucket goes. -/
def storedAndDeleted : List S3Request :=
  [.createBucket "photos", .putObject 0 "photos" "a.txt" none [1],
    .putObject 1 "photos" "a.txt" (some "text/plain") [1, 2], .deleteBucket "photos",
    .listObjects "photos"
      { keyPrefix := some "a", delimiter := none, maxKeys := some 0, continuationToken := none },
    .getObject "photos" "a.txt", .deleteObject "photos" "a.txt", .deleteBucket "photos"]

theorem S3Handlers.answers_eq_map_storedAndDeleted :
    answers (S3Handlers.serve (fun _ => "0cc1") (fun _ => "1970-01-01T00:00:00+00:00"))
        MemoryBuckets.empty storedAndDeleted =
      answers (MapStore.serve (fun _ => "0cc1") (fun _ => "1970-01-01T00:00:00+00:00")) ∅
        storedAndDeleted := by
  refine (S3Handlers.answers_eq_map _ _ ?_).1
  intro request member
  simp only [storedAndDeleted, List.mem_cons, List.not_mem_nil, or_false] at member
  obtain rfl | rfl | rfl | rfl | rfl | rfl | rfl | rfl := member <;>
    simp [S3Request.Bounded]

end CyxCloud.Gateway
