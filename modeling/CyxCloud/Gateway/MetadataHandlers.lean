import CyxCloud.Gateway.ListingModes
import CyxCloud.Gateway.MemoryHandlers

/-!
# The S3 handlers in metadata mode

The handlers that list, store and read objects over the tables of a metadata service and the storage
nodes.  Their own query for the bucket, and the queries of those that read, are answered.
-/

namespace CyxCloud.Gateway

open CyxCloud.Core hiding Chunk
open Library Metadata

namespace S3Handlers

/-- What the handlers read of tables and nodes, with the choices that each key meets. -/
def metadataReads (ext : Externals) (listOrder : RowOrder File) (env : String → ReadEnv)
    (db : Database) : ObjectReads where
  bucketExists bucket := (db.getBucket bucket).isSome
  listObjects := Gateway.listObjects listOrder db
  getObjectMetadata bucket key := .ok (getObjectMetadata (env key).fileOrder db bucket key)
  getObject bucket key := Gateway.getObject ext (env key) db bucket key

/-- Store an object on the nodes. -/
def putInCluster (ext : Externals) (env : PutEnv) (userId : Uuid) (cluster : Cluster)
    (bucket key : String) (contentType : Option String) (body : Bytes) :
    Cluster × Except S3ApiError S3Answer :=
  storeObject cluster (cluster.db.getBucket bucket).isSome bucket key
    (Gateway.putObject ext env cluster userId bucket key body (contentTypeOf contentType))

end S3Handlers

/-- The first paths of a bucket that match a prefix as a pattern, in byte order. -/
def matchingPaths (db : Database) (bucket keyPrefix : String) (limit : Nat) : List String :=
  ((((liveFilesOf db bucket).map File.path).filter fun path =>
    Database.sqlLike (keyPrefix.toList ++ ['%']) path.toList).mergeSort fun left right =>
      decide (left ≤ right)).take limit

section

variable {ext : Externals} {listOrder : RowOrder File} {env : String → ReadEnv} {db : Database}
  {rfc3339 : Time → String} {bucket key keyPrefix : String}

theorem mem_matchingPaths {limit : Nat} {path : String}
    (member : path ∈ matchingPaths db bucket keyPrefix limit) :
    path ∈ (liveFilesOf db bucket).map File.path :=
  List.mem_of_mem_filter (List.mem_mergeSort.mp (List.mem_of_mem_take member))

/-- After puts of some keys the matching paths are theirs. -/
theorem matchingPaths_eq {keys : List String}
    (holds : (liveFilesOf db bucket).map File.path = keys.map (objectPath bucket)) (limit : Nat) :
    matchingPaths db bucket keyPrefix limit = (pathsLike bucket keys keyPrefix).take limit := by
  rw [matchingPaths, holds, pathsLike]

/-- A listing shows the matching paths, with digests in hex. -/
theorem listObjects_metadata (askable : Askable bucket keyPrefix) (fileOrder : RowOrder File)
    (limit : Nat) :
    ∃ infos isTruncated, listObjects fileOrder db bucket keyPrefix limit = .ok (infos, isTruncated) ∧
      infos.map ObjectInfo.key = matchingPaths db bucket keyPrefix limit ∧
      ∀ info ∈ infos, (∃ hash, info.etag = hexEncode hash) ∧ info.storageClass = "STANDARD" := by
  have listed : db.listFilesInBucket fileOrder bucket keyPrefix limit =
      .ok (db.matchingFiles fileOrder bucket keyPrefix limit) := by
    simp [Database.listFilesInBucket, askable.1, askable.2]
  rw [listObjects, listed]
  refine ⟨_, _, rfl, ?_, ?_⟩
  · rw [matchingPaths, ← paths_matchingFiles fileOrder, List.map_map]
    rfl
  · intro info member
    obtain ⟨file, -, rfl⟩ := List.mem_map.mp member
    exact ⟨⟨_, rfl⟩, rfl⟩

/-- What is read is there, under a valid key. -/
theorem exists_liveFile_of_object {answer : S3Answer}
    (ok : (S3Handlers.metadataReads ext listOrder env db).object rfc3339 bucket key = .ok answer) :
    validateObjectKey key = .ok () ∧ db.liveFilesAt (objectPath bucket key) ≠ [] := by
  cases valid : validateObjectKey key with
  | error cause =>
      simp only [ObjectReads.object, ObjectReads.responseMetadata, valid] at ok
      cases ok
  | ok _ =>
      refine ⟨rfl, fun nothing => ?_⟩
      have no_file : db.getFileByPath (env key).fileOrder (objectPath bucket key) = none := by
        rw [Database.getFileByPath, nothing]
        exact RowOrder.fetchOptional_nil _
      simp only [ObjectReads.object, ObjectReads.responseMetadata, valid, S3Handlers.metadataReads,
        getObjectMetadata, no_file, Option.map_none] at ok
      split at ok
      · cases ok
      · rename_i metadata found
        split at found
        · cases found
        · cases found

end

/-! ## Puts -/

section

variable {ext : Externals} {encoder : ErasureEncoder} {env : PutEnv} {userId : Uuid}
  {cluster : Cluster} {bucket key : String} {contentType : Option String} {body : Bytes}

/-- A put that succeeds adds a live row with the path of its key. -/
theorem files_of_putInCluster (lawful : ext.Lawful)
    (built : ErasureEncoder.new ext.reedSolomon = .ok encoder)
    (ok : ∃ answer, (S3Handlers.putInCluster ext env userId cluster bucket key contentType
      body).2 = .ok answer) :
    ∃ file, file.isLive ∧ file.bucket = some bucket ∧ file.path = objectPath bucket key ∧
      (S3Handlers.putInCluster ext env userId cluster bucket key contentType body).1.db.files =
        cluster.db.files ++ [file] := by
  obtain ⟨answer, ok⟩ := ok
  cases valid : validateObjectKey key with
  | error cause =>
      simp only [S3Handlers.putInCluster, S3Handlers.storeObject, valid] at ok
      exact nomatch ok
  | ok _ =>
      cases missing : (cluster.db.getBucket bucket).isSome with
      | false =>
          simp only [S3Handlers.putInCluster, S3Handlers.storeObject, valid, missing] at ok
          exact nomatch ok
      | true =>
          simp only [S3Handlers.putInCluster, S3Handlers.storeObject, valid, missing,
            Bool.not_true, Bool.false_eq_true, if_false] at ok ⊢
          cases put : (putObject ext env cluster userId bucket key body
              (S3Handlers.contentTypeOf contentType)).2 with
          | error cause =>
              rw [put] at ok
              exact nomatch ok
          | ok etag =>
              obtain ⟨nodes, -, stored, -⟩ :=
                putObject_ok built (gatewayEncoder_of_new lawful built) put
              exact ⟨_, rfl, rfl, rfl, stored.grows.files_eq⟩

end

end CyxCloud.Gateway
