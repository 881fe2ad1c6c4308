import CyxCloud.Gateway.MemoryBuckets

/-!
# The S3 handlers in memory mode

The handlers of `cyxcloud-gateway/src/s3_api.rs` over buckets in memory, for requests without a
range, one after another.  Those that list, store and read objects are written for every state that
answers them.
-/

namespace CyxCloud.Gateway

open CyxCloud.Core hiding Chunk
open Library

/-- A request to the S3 interface; a put carries the time at which it is served. -/
inductive S3Request where
  | createBucket (bucket : String)
  | deleteBucket (bucket : String)
  | headBucket (bucket : String)
  | listObjects (bucket : String) (query : ListObjectsQuery)
  | putObject (now : Time) (bucket key : String) (contentType : Option String) (body : Bytes)
  | getObject (bucket key : String)
  | deleteObject (bucket key : String)
  | headObject (bucket key : String)
  deriving DecidableEq, Repr

/-- The answer of a handler that succeeds. -/
inductive S3Answer where
  | created (location : String)
  | noContent
  | found
  | listing (response : ListObjectsV2Response)
  | stored (etag : String)
  | object (contentType : String) (contentLength : Nat) (etag lastModified : String) (data : Bytes)
  | metadata (contentType : String) (contentLength : Nat) (etag lastModified : String)
  deriving DecidableEq, Repr

namespace S3Handlers

/-- A text in quotation marks. -/
def quoted (text : String) : String := "\"" ++ text ++ "\""

/-- The content type that a request names in text. -/
def contentTypeOf (header : Option String) : String :=
  (header.filter isHeaderText).getD "application/octet-stream"

end S3Handlers

/-! ## Objects of any state -/

/-- What the handlers that list and read ask of the state. -/
structure ObjectReads where
  bucketExists : String → Bool
  listObjects : String → String → Int → Except S3Error (List ObjectInfo × Bool)
  getObjectMetadata : String → String → Except S3Error (Option ObjectMetadata)
  getObject : String → String → Except S3Error Bytes

namespace ObjectReads

open S3Handlers (quoted)

variable (reads : ObjectReads) (rfc3339 : Time → String)

/-- The answer to a request for a listing. -/
def listing (bucket : String) (query : ListObjectsQuery) : Except S3ApiError S3Answer :=
  if !reads.bucketExists bucket then
    .error (.object (.noSuchBucket bucket))
  else
    let maxKeys := min (query.maxKeys.getD 1000) 1000
    let keyPrefix := query.keyPrefix.getD ""
    match reads.listObjects bucket keyPrefix maxKeys with
    | .error cause => .error (.object cause)
    | .ok (objects, isTruncated) =>
        .ok
          (.listing
            { name := bucket
              keyPrefix := some keyPrefix
              maxKeys
              isTruncated
              contents := objects.map (ObjectInfo.listed rfc3339)
              commonPrefixes := []
              continuationToken := query.continuationToken
              nextContinuationToken := none
              keyCount := objects.length })

/-- The metadata of an object for a response. -/
def responseMetadata (bucket key : String) : Except S3ApiError ObjectMetadata :=
  match validateObjectKey key with
  | .error cause => .error cause
  | .ok () =>
      if !reads.bucketExists bucket then
        .error (.object (.noSuchBucket bucket))
      else
        match reads.getObjectMetadata bucket key with
        | .error cause => .error (.object cause)
        | .ok none => .error (.object (.noSuchKey key))
        | .ok (some metadata) => .ok metadata

/-- The answer to a request for an object; the headers of a response have to be text. -/
def object (bucket key : String) : Except S3ApiError S3Answer :=
  match reads.responseMetadata bucket key with
  | .error cause => .error cause
  | .ok metadata =>
      match reads.getObject bucket key with
      | .error cause => .error (.object cause)
      | .ok data =>
          if !isHeaderText metadata.contentType then
            .error .invalidResponse
          else
            .ok (.object metadata.contentType data.length (quoted metadata.etag)
              (rfc3339 metadata.lastModified) data)

end ObjectReads

namespace S3Handlers

/-- Store an object in a state that puts it as given. -/
def storeObject {σ : Type} (state : σ) (bucketExists : Bool) (bucket key : String)
    (put : σ × Except S3Error String) : σ × Except S3ApiError S3Answer :=
  match validateObjectKey key with
  | .error cause => (state, .error cause)
  | .ok () =>
      if !bucketExists then
        (state, .error (.object (.noSuchBucket bucket)))
      else
        (put.1, (put.2.mapError S3ApiError.object).map fun etag => .stored (quoted etag))

/-! ## Buckets and objects in memory -/

/-- What the handlers read of the buckets in memory. -/
def memoryReads (state : MemoryBuckets) : ObjectReads where
  bucketExists := state.bucketExists
  listObjects := state.listObjects
  getObjectMetadata := state.getObjectMetadata
  getObject := state.getObject

variable (md5 : Bytes → String) (rfc3339 : Time → String) (state : MemoryBuckets)

def createBucket (bucket : String) : MemoryBuckets × Except S3ApiError S3Answer :=
  if state.bucketExists bucket then
    (state, .error (.bucketAlreadyExists bucket))
  else
    let (state, created) := state.createBucket bucket
    match created with
    | .error cause => (state, .error cause)
    | .ok () => (state, .ok (.created ("/" ++ bucket)))

def deleteBucket (bucket : String) : MemoryBuckets × Except S3ApiError S3Answer :=
  if !state.bucketExists bucket then
    (state, .error (.object (.noSuchBucket bucket)))
  else
    match state.bucketIsEmpty bucket with
    | .error cause => (state, .error cause)
    | .ok false => (state, .error (.invalidRequest "Bucket is not empty"))
    | .ok true => (state.deleteBucket bucket, .ok .noContent)

def headBucket (bucket : String) : Except S3ApiError S3Answer :=
  if !state.bucketExists bucket then
    .error (.object (.noSuchBucket bucket))
  else
    .ok .found

def listObjects (bucket : String) (query : ListObjectsQuery) : Except S3ApiError S3Answer :=
  (memoryReads state).listing rfc3339 bucket query

def putObject (now : Time) (bucket key : String) (contentType : Option String) (body : Bytes) :
    MemoryBuckets × Except S3ApiError S3Answer :=
  storeObject state (state.bucketExists bucket) bucket key
    (state.putObject md5 now bucket key body (contentTypeOf contentType))

/-- The metadata of an object for a response. -/
def responseMetadata (bucket key : String) : Except S3ApiError ObjectMetadata :=
  (memoryReads state).responseMetadata bucket key

def getObject (bucket key : String) : Except S3ApiError S3Answer :=
  (memoryReads state).object rfc3339 bucket key

def deleteObject (bucket key : String) : MemoryBuckets × Except S3ApiError S3Answer :=
  match validateObjectKey key with
  | .error cause => (state, .error cause)
  | .ok () =>
      if !state.bucketExists bucket then
        (state, .error (.object (.noSuchBucket bucket)))
      else
        let (state, deleted) := state.deleteObject bucket key
        (state, (deleted.mapError S3ApiError.object).map fun _ => .noContent)

def headObject (bucket key : String) : Except S3ApiError S3Answer :=
  match responseMetadata state bucket key with
  | .error cause => .error cause
  | .ok metadata =>
      if !isHeaderText metadata.contentType then
        .error .invalidResponse
      else
        .ok (.metadata metadata.contentType metadata.size (quoted metadata.etag)
          (rfc3339 metadata.lastModified))

/-- Serve a request. -/
def serve : S3Request → MemoryBuckets × Except S3ApiError S3Answer
  | .createBucket bucket => createBucket state bucket
  | .deleteBucket bucket => deleteBucket state bucket
  | .headBucket bucket => (state, headBucket state bucket)
  | .listObjects bucket query => (state, listObjects rfc3339 state bucket query)
  | .putObject now bucket key contentType body =>
      putObject md5 state now bucket key contentType body
  | .getObject bucket key => (state, getObject rfc3339 state bucket key)
  | .deleteObject bucket key => deleteObject state bucket key
  | .headObject bucket key => (state, headObject rfc3339 state bucket key)

end S3Handlers

end CyxCloud.Gateway
