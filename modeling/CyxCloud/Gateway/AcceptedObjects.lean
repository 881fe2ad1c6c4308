import CyxCloud.Gateway.MemoryMap
import CyxCloud.Library.Runs

/-!
# Accepted objects

Every object in memory was put by the handler: under a valid key, with a content type that is text,
the digest of its data and no more bytes than the limit.
-/

namespace CyxCloud.Gateway

open CyxCloud.Core hiding Chunk
open Library

/-- An object that the handler of puts accepts under a key. -/
structure Accepted (md5 : Bytes → String) (key : String) (object : StoredObject) : Prop where
  valid : validateObjectKey key = .ok ()
  text : isHeaderText object.contentType = true
  etag : object.etag = md5 object.data
  bounded : object.data.length ≤ MAX_MEMORY_BYTES

/-- All objects of a bucket are accepted. -/
def StoredObjects.AllAccepted (md5 : Bytes → String) (objects : StoredObjects) : Prop :=
  ∀ key object, objects.lookup key = some object → Accepted md5 key object

/-- All objects are accepted. -/
def MemoryBuckets.AllAccepted (md5 : Bytes → String) (state : MemoryBuckets) : Prop :=
  ∀ bucket objects, state.memoryBuckets.lookup bucket = some objects → objects.AllAccepted md5

section

variable {md5 : Bytes → String} {objects : StoredObjects} {key : String} {object : StoredObject}

theorem StoredObjects.allAccepted_empty : StoredObjects.AllAccepted md5 ∅ := by
  intro key object found
  rw [AList.lookup_empty] at found
  exact nomatch found

theorem StoredObjects.AllAccepted.insert (all : objects.AllAccepted md5)
    (accepted : Accepted md5 key object) :
    StoredObjects.AllAccepted md5 (AList.insert key object objects) := by
  intro key' object' found
  by_cases same : key' = key
  · subst same
    rw [AList.lookup_insert, Option.some.injEq] at found
    exact found ▸ accepted
  · rw [AList.lookup_insert_ne same] at found
    exact all key' object' found

theorem StoredObjects.AllAccepted.erase (all : objects.AllAccepted md5) (key : String) :
    StoredObjects.AllAccepted md5 (AList.erase key objects) := by
  intro key' object' found
  by_cases same : key' = key
  · subst same
    rw [AList.lookup_erase] at found
    exact nomatch found
  · rw [AList.lookup_erase_ne same] at found
    exact all key' object' found

end

/-! ## Requests -/

section

variable {md5 : Bytes → String} {rfc3339 : Time → String} {state : MemoryBuckets}
  {bucket key : String}

theorem MemoryBuckets.AllAccepted.setBucket (all : state.AllAccepted md5) {objects : StoredObjects}
    (accepted : objects.AllAccepted md5) (used : Nat) :
    MemoryBuckets.AllAccepted md5
      { memoryBuckets := state.memoryBuckets.insert bucket objects, memoryBytesUsed := used } := by
  intro bucket' objects' found
  by_cases same : bucket' = bucket
  · subst same
    dsimp only at found
    rw [AList.lookup_insert, Option.some.injEq] at found
    exact found ▸ accepted
  · dsimp only at found
    rw [AList.lookup_insert_ne same] at found
    exact all bucket' objects' found

/-- What a put does: it fails and changes nothing, or sets an accepted object. -/
theorem S3Handlers.putObject_cases (md5 : Bytes → String) (state : MemoryBuckets) (now : Time)
    (bucket key : String) (contentType : Option String) (body : Bytes) :
    ((S3Handlers.putObject md5 state now bucket key contentType body).1 = state ∧
      ∃ cause, (S3Handlers.putObject md5 state now bucket key contentType body).2 = .error cause) ∨
    ∃ objects object used, state.memoryBuckets.lookup bucket = some objects ∧
      object.data = body ∧ Accepted md5 key object ∧
      (S3Handlers.putObject md5 state now bucket key contentType body).1 =
        { memoryBuckets := state.memoryBuckets.insert bucket (AList.insert key object objects)
          memoryBytesUsed := used } := by
  cases valid : validateObjectKey key with
  | error cause =>
      simp only [S3Handlers.putObject, S3Handlers.storeObject, valid]
      exact .inl ⟨trivial, cause, rfl⟩
  | ok _ =>
      cases found : state.memoryBuckets.lookup bucket with
      | none =>
          simp only [S3Handlers.putObject, S3Handlers.storeObject, valid,
            MemoryBuckets.bucketExists, found]
          exact .inl ⟨rfl, _, rfl⟩
      | some objects =>
          by_cases exceeds : state.memoryBytesUsed + body.length > MAX_MEMORY_BYTES
          · simp only [S3Handlers.putObject, S3Handlers.storeObject, valid,
              MemoryBuckets.bucketExists, found, MemoryBuckets.putObject,
              MemoryBuckets.memoryLimitExceeded, exceeds, decide_true]
            exact .inl ⟨rfl, _, rfl⟩
          · simp only [S3Handlers.putObject, S3Handlers.storeObject, valid,
              MemoryBuckets.bucketExists, found, MemoryBuckets.putObject,
              MemoryBuckets.memoryLimitExceeded, exceeds, decide_false, MemoryBuckets.insertObject]
            refine .inr ⟨objects, _, _, rfl, rfl, ⟨valid, ?_, rfl, ?_⟩, rfl⟩
            · exact isHeaderText_contentTypeOf contentType
            · dsimp only
              omega

/-- Every request keeps all objects accepted. -/
theorem MemoryBuckets.AllAccepted.serve (all : state.AllAccepted md5) (request : S3Request) :
    (S3Handlers.serve md5 rfc3339 state request).1.AllAccepted md5 := by
  cases request with
  | createBucket name =>
      simp only [S3Handlers.serve, S3Handlers.createBucket, MemoryBuckets.createBucket]
      split_ifs
      · exact all
      · exact all
      · exact all
      · exact all.setBucket StoredObjects.allAccepted_empty _
  | deleteBucket name =>
      simp only [S3Handlers.serve, S3Handlers.deleteBucket]
      split
      · exact all
      · split
        · exact all
        · exact all
        · intro bucket objects found
          by_cases same : bucket = name
          · subst same
            simp [MemoryBuckets.deleteBucket] at found
          · rw [MemoryBuckets.deleteBucket, AList.lookup_erase_ne same] at found
            exact all bucket objects found
  | putObject now bucket key contentType body =>
      rcases S3Handlers.putObject_cases md5 state now bucket key contentType body with
        ⟨same, -⟩ | ⟨objects, object, used, found, -, accepted, set⟩
      · rw [S3Handlers.serve, same]
        exact all
      · rw [S3Handlers.serve, set]
        exact all.setBucket ((all bucket objects found).insert accepted) used
  | deleteObject bucket key =>
      simp only [S3Handlers.serve, S3Handlers.deleteObject, MemoryBuckets.deleteObject]
      split
      · exact all
      · split
        · exact all
        · split
          · exact all
          · rename_i objects found
            split
            · exact all
            · exact all.setBucket ((all bucket objects found).erase key) _
  | headBucket => exact all
  | listObjects => exact all
  | getObject => exact all
  | headObject => exact all

/-- After any requests to a gateway that started without buckets, all objects are accepted. -/
theorem MemoryBuckets.allAccepted_runAll (requests : List S3Request) :
    (runAll (fun state request => (S3Handlers.serve md5 rfc3339 state request).1)
      MemoryBuckets.empty requests).AllAccepted md5 := by
  have start : MemoryBuckets.empty.AllAccepted md5 := by
    intro bucket objects found
    rw [MemoryBuckets.empty, AList.lookup_empty] at found
    exact nomatch found
  have keeps : ∀ state request, MemoryBuckets.AllAccepted md5 state →
      (S3Handlers.serve md5 rfc3339 state request).1.AllAccepted md5 :=
    fun _ request all => all.serve request
  exact (everyState_of_keeps keeps start requests).last

/-- A get of an accepted object gives its data. -/
theorem S3Handlers.getObject_of_accepted {objects : StoredObjects} {object : StoredObject}
    (found : state.memoryBuckets.lookup bucket = some objects)
    (stored : objects.lookup key = some object) (accepted : Accepted md5 key object) :
    S3Handlers.getObject rfc3339 state bucket key =
      .ok (.object object.contentType object.data.length (S3Handlers.quoted object.etag)
        (rfc3339 object.createdAt) object.data) := by
  simp only [S3Handlers.getObject, S3Handlers.memoryReads, ObjectReads.object,
    ObjectReads.responseMetadata, accepted.valid, MemoryBuckets.bucketExists,
    MemoryBuckets.getObjectMetadata, MemoryBuckets.getObject, found, stored, accepted.text,
    Option.isSome_some, Bool.not_true, Bool.false_eq_true, if_false, Option.map_some]

end

end CyxCloud.Gateway
