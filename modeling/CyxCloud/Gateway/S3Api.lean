import CyxCloud.Gateway.Memory
import CyxCloud.Library.Dictionaries

/-!
# The S3 interface

Requests, errors and answers of the handlers in `cyxcloud-gateway/src/s3_api.rs`, and the check of
object keys.
-/

namespace CyxCloud.Gateway

open CyxCloud.Core hiding Chunk
open Library

/-- Errors of the handlers: those of the object operations, and the ones of requests and buckets. -/
inductive S3ApiError where
  | object (cause : S3Error)
  | bucketAlreadyExists (bucket : String)
  | invalidRequest (reason : String)
  /-- The internal error of the limit on buckets in memory. -/
  | bucketLimit (maximum : Nat)
  /-- The internal error of a response whose headers are no text. -/
  | invalidResponse
  deriving DecidableEq, Repr

/-- Whether two dots follow one another. -/
def hasDots : List Char → Bool
  | '.' :: '.' :: _ => true
  | _ :: rest => hasDots rest
  | [] => false

/-- Whether a character is a control character other than the tab. -/
def isControl (c : Char) : Bool := c.toNat < 0x20 && c != '\t'

/-- Check an object key for path traversal and invalid characters. -/
def validateObjectKey (key : String) : Except S3ApiError Unit :=
  if key.isEmpty then
    .error (.invalidRequest "Key cannot be empty")
  else if hasDots key.toList then
    .error (.invalidRequest "Key cannot contain '..'")
  else if key.toList.head? = some '/' then
    .error (.invalidRequest "Key cannot start with '/'")
  else if Char.ofNat 0 ∈ key.toList then
    .error (.invalidRequest "Key cannot contain null bytes")
  else if key.toList.any isControl then
    .error (.invalidRequest "Key cannot contain control characters")
  else if key.utf8ByteSize > 1024 then
    .error (.invalidRequest "Key cannot exceed 1024 characters")
  else
    .ok ()

/-- Whether a text starts with another. -/
def startsWith (text start : String) : Bool := start.toList.isPrefixOf text.toList

/-- Query of a listing; the other parameters of the query are read by nobody. -/
structure ListObjectsQuery where
  keyPrefix : Option String
  delimiter : Option String
  maxKeys : Option Int
  continuationToken : Option String
  deriving DecidableEq, Repr

/-- An object in a listing, its time as text. -/
structure ListedObject where
  key : String
  lastModified : String
  etag : String
  size : Nat
  storageClass : String
  deriving DecidableEq, Repr

/-- An entry of a listing with its time as text. -/
def ObjectInfo.listed (rfc3339 : Time → String) (info : ObjectInfo) : ListedObject where
  key := info.key
  lastModified := rfc3339 info.lastModified
  etag := info.etag
  size := info.size
  storageClass := info.storageClass

/-- Response to a listing. -/
structure ListObjectsV2Response where
  name : String
  keyPrefix : Option String
  maxKeys : Int
  isTruncated : Bool
  contents : List ListedObject
  commonPrefixes : List String
  continuationToken : Option String
  nextContinuationToken : Option String
  keyCount : Int
  deriving DecidableEq, Repr

/-- A number of the 32-bit type as an unsigned one of 64 bits. -/
def asUsize (number : Int) : Nat := (number % 2 ^ 64).toNat

theorem asUsize_of_nonneg {number : Int} (nonneg : 0 ≤ number) (small : number ≤ 1000) :
    asUsize number = number.toNat := by
  unfold asUsize
  omega

/-- Text that fits into a header: visible characters of ASCII, blanks and tabs. -/
def isHeaderText (text : String) : Bool :=
  text.toList.all fun c => c == '\t' || (0x20 ≤ c.toNat && c.toNat < 0x7f)

end CyxCloud.Gateway
