import CyxCloud.Library.Effects
import CyxCloud.Library.Pools
import CyxCloud.Library.Runs
import CyxCloud.Metadata.Buckets

/-!
# Buckets in the database

The requests of `cyxcloud-gateway/src/s3_api.rs` that create and delete buckets and put objects into
them, when `state.rs` serves them from the database: statement by statement, as far as the tables of
buckets, users and files go.  Requests to any number of gateways run in any interleaving.
-/

namespace CyxCloud.Gateway

open CyxCloud.Core hiding Chunk
open Library Metadata

/-- Errors of requests on buckets. -/
inductive BucketError where
  | noSuchBucket (bucket : String)
  | bucketAlreadyExists (bucket : String)
  | bucketNotEmpty (bucket : String)
  | invalidRequest (reason : String)
  /-- The internal error of a statement. -/
  | database (cause : DbError)
  /-- The internal error of a bucket that the metadata service does not delete. -/
  | invalid (message : String)
  deriving DecidableEq, Repr

/-- The next statement of a request that creates a bucket. -/
inductive CreateStage where
  | check
  | checkAgain
  | findUser
  | createUser
  | insert (ownerId : Uuid)
  deriving DecidableEq, Repr

/-- The next statement of a request that deletes a bucket. -/
inductive DeleteStage where
  | check
  | isEmpty
  | checkAgain
  | isEmptyAgain
  | count
  | delete
  deriving DecidableEq, Repr

/-- The next statement of a request that puts an object. -/
inductive PutStage where
  | check
  | checkAgain
  /-- Behind this statement the tables of buckets, users and files stay as they are. -/
  | register
  deriving DecidableEq, Repr

/-- A request, or its answer. -/
inductive BucketRequest where
  /-- The gateway creates buckets for a user of its own. -/
  | createBucket (userId name : String) (stage : CreateStage)
  | deleteBucket (name : String) (stage : DeleteStage)
  | putObject (name : String) (file : CreateFile) (stage : PutStage)
  | created (name : String) (answer : Except BucketError Unit)
  | deleted (name : String) (answer : Except BucketError Unit)
  | registered (name : String) (answer : Except BucketError Unit)
  /-- The gateway is gone, or the client. -/
  | stopped

/-- How a statement ends, with the identifier and the time of a new row. -/
structure BucketEvent where
  outcome : Outcome
  generated : Uuid
  now : Time
  deriving DecidableEq, Repr

namespace BucketRequest

/-- What follows a statement. -/
def follow (outcome : Outcome) (failed : DbError → BucketRequest) (next : BucketRequest) :
    BucketRequest :=
  match outcome.answer with
  | .ok () => next
  | .error .error => failed .unavailable
  | .error .crash => stopped

/-- What follows a statement that writes. -/
def followWrite {α : Type} (outcome : Outcome) (failed : DbError → BucketRequest)
    (result : Except DbError α) (next : α → BucketRequest) : BucketRequest :=
  follow outcome failed
    (match result with
    | .ok value => next value
    | .error cause => failed cause)

/-- The next statement of a request that creates a bucket. -/
def stepCreate (tables : BucketTables) (event : BucketEvent) (userId name : String) :
    CreateStage → BucketTables × BucketRequest
  | .check =>
      (tables, follow event.outcome (fun cause => created name (.error (.database cause)))
        (if tables.db.HasBucket name then
          created name (.error (.bucketAlreadyExists name))
        else
          createBucket userId name .checkAgain))
  | .checkAgain =>
      -- an error counts as no bucket
      (tables, follow event.outcome (fun _ => createBucket userId name .findUser)
        (if tables.db.HasBucket name then
          created name (.error (.bucketAlreadyExists name))
        else
          createBucket userId name .findUser))
  | .findUser =>
      (tables, follow event.outcome (fun cause => created name (.error (.database cause)))
        (match tables.getUserByWallet userId with
        | some user => createBucket userId name (.insert user.id)
        | none => createBucket userId name .createUser))
  | .createUser =>
      let result := tables.createUser event.generated userId
      (if event.outcome.applied then result.1 else tables,
        followWrite event.outcome (fun cause => created name (.error (.database cause))) result.2
          fun user => createBucket userId name (.insert user.id))
  | .insert ownerId =>
      let result := tables.createBucket name ownerId
      (if event.outcome.applied then result.1 else tables,
        followWrite event.outcome (fun cause => created name (.error (.database cause))) result.2
          fun _ => created name (.ok ()))

/-- The next statement of a request that deletes a bucket. -/
def stepDelete (tables : BucketTables) (event : BucketEvent) (name : String) :
    DeleteStage → BucketTables × BucketRequest :=
  let failed := fun cause => deleted name (.error (.database cause))
  fun
  | .check =>
      (tables, follow event.outcome failed
        (if tables.db.HasBucket name then
          deleteBucket name .isEmpty
        else
          deleted name (.error (.noSuchBucket name))))
  | .isEmpty =>
      (tables, follow event.outcome failed
        (if tables.db.bucketIsEmpty name then
          deleteBucket name .checkAgain
        else
          deleted name (.error (.invalidRequest "Bucket is not empty"))))
  | .checkAgain =>
      (tables, follow event.outcome failed
        (if tables.db.HasBucket name then
          deleteBucket name .isEmptyAgain
        else
          deleted name (.error (.noSuchBucket name))))
  | .isEmptyAgain =>
      (tables, follow event.outcome failed
        (if tables.db.bucketIsEmpty name then
          deleteBucket name .count
        else
          deleted name (.error (.bucketNotEmpty name))))
  | .count =>
      (tables, follow event.outcome failed
        (if tables.db.bucketIsEmpty name then
          deleteBucket name .delete
        else
          deleted name (.error (.invalid ("Bucket '" ++ name ++ "' is not empty")))))
  | .delete =>
      (if event.outcome.applied then { tables with db := tables.db.deleteBucket name } else tables,
        follow event.outcome failed (deleted name (.ok ())))

/-- The next statement of a request that puts an object.  Where it fails between two of these
statements, it ends as if the second one had failed. -/
def stepPut (tables : BucketTables) (event : BucketEvent) (name : String) (file : CreateFile) :
    PutStage → BucketTables × BucketRequest :=
  let failed := fun cause => registered name (.error (.database cause))
  fun
  | .check =>
      (tables, follow event.outcome failed
        (if tables.db.HasBucket name then
          putObject name file .checkAgain
        else
          registered name (.error (.noSuchBucket name))))
  | .checkAgain =>
      (tables, follow event.outcome failed
        (if tables.db.HasBucket name then
          putObject name file .register
        else
          registered name (.error (.noSuchBucket name))))
  | .register =>
      let result := tables.db.createFile event.generated event.now { file with bucket := some name }
      (if event.outcome.applied then { tables with db := result.1 } else tables,
        followWrite event.outcome failed result.2 fun _ => registered name (.ok ()))

/-- The next statement of a request. -/
def step (tables : BucketTables) (request : BucketRequest) (event : BucketEvent) :
    Option (BucketTables × BucketRequest) :=
  match request with
  | createBucket userId name stage => some (stepCreate tables event userId name stage)
  | deleteBucket name stage => some (stepDelete tables event name stage)
  | putObject name file stage => some (stepPut tables event name file stage)
  | created _ _ | deleted _ _ | registered _ _ | stopped => none

end BucketRequest

/-- The tables and the requests. -/
abbrev BucketRequests := Pool BucketTables BucketRequest

/-- A request arrives or goes on, or another one deletes an object or creates a user. -/
inductive BucketStep where
  | createBucket (userId name : String)
  | deleteBucket (name : String)
  | putObject (name : String) (file : CreateFile)
  | goOn (index : Nat) (event : BucketEvent)
  | deleteFile (fileId : Uuid) (now : Time)
  | createUser (generated : Uuid) (walletAddress : String)
  deriving DecidableEq, Repr

namespace BucketRequests

/-- One step. -/
def apply (requests : BucketRequests) : BucketStep → BucketRequests
  | .createBucket userId name => requests.spawn (.createBucket userId name .check)
  | .deleteBucket name => requests.spawn (.deleteBucket name .check)
  | .putObject name file => requests.spawn (.putObject name file .check)
  | .goOn index event => requests.move BucketRequest.step index event
  | .deleteFile fileId now =>
      { requests with
        shared :=
          { requests.shared with db := requests.shared.db.deleteFile fileId now } }
  | .createUser generated walletAddress =>
      { requests with shared := (requests.shared.createUser generated walletAddress).1 }

end BucketRequests

end CyxCloud.Gateway
