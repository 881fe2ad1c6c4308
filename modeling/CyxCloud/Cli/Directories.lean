import CyxCloud.Cli.ListResponse
import CyxCloud.Gateway.MemoryHandlers
import CyxCloud.Library.FileTrees
import CyxCloud.Library.Runs

/-!
# Directories up and down

`upload_directory` and `download_prefix` of `cyxcloud-cli`, with the requests of its client.  The
gateway that serves these is in memory mode here.
-/

namespace CyxCloud.Cli

open CyxCloud.Core hiding Chunk
open Library Gateway

/-! ## Files -/

/-- A file of a directory: its path, the type that is guessed for it, and when it is uploaded. -/
structure SourceFile where
  path : List String
  data : Bytes
  contentType : String
  uploadedAt : Time

/-- A name in a directory, without backslashes. -/
structure ValidName (name : String) : Prop where
  nonempty : name.toList ≠ []
  not_dot : name.toList ≠ ['.']
  no_slash : '/' ∉ name.toList
  no_backslash : '\\' ∉ name.toList

/-- The files under a directory: distinct paths of valid names, none below another one. -/
structure SourceTree where
  files : List SourceFile
  distinct : (files.map SourceFile.path).Nodup
  path_ne_nil : ∀ file ∈ files, file.path ≠ []
  names : ∀ file ∈ files, ∀ name ∈ file.path, ValidName name
  apart : ∀ file ∈ files, ∀ other ∈ files, file.path <+: other.path → file.path = other.path

/-- An output directory. -/
abbrev OutputDirectory := FileTree String Bytes

/-! ## The client -/

/-- What lies between the client and the gateway.  The client puts bucket, key and prefix into a URL
as they are; what the gateway reads there is up to the libraries for URLs. -/
structure Connection where
  md5 : Bytes → String
  rfc3339 : Time → String
  /-- Bucket and key that the gateway reads in the path of a request. -/
  object : String → String → String × String
  /-- Bucket and prefix that the gateway reads in the request for a listing. -/
  listing : String → Option String → String × Option String

variable (connection : Connection)

/-- Upload a file. -/
def uploadFile (bucket : String) (state : MemoryBuckets) (key : String) (file : SourceFile) :
    MemoryBuckets × Except S3ApiError S3Answer :=
  let received := connection.object bucket key
  S3Handlers.putObject connection.md5 state file.uploadedAt received.1 received.2
    (some file.contentType) file.data

/-- The client asks for a listing by its prefix only. -/
def listQuery (keyPrefix : Option String) : ListObjectsQuery where
  keyPrefix := keyPrefix
  delimiter := none
  maxKeys := none
  continuationToken := none

/-- What the client reads of the answer to a request for a listing. -/
def listingOf : Except S3ApiError S3Answer → Option ListResponse
  | .ok (.listing response) => (parseListResponse response.toXml).toOption
  | _ => none

/-- What the client takes of the answer to a request for an object. -/
def dataOf : Except S3ApiError S3Answer → Option Bytes
  | .ok (.object _ _ _ _ data) => some data
  | _ => none

/-- List the objects of a bucket with a prefix. -/
def listObjects (state : MemoryBuckets) (bucket : String) (keyPrefix : Option String) :
    Option ListResponse :=
  let received := connection.listing bucket keyPrefix
  listingOf (S3Handlers.listObjects connection.rfc3339 state received.1 (listQuery received.2))

/-- Download the data of an object. -/
def downloadFile (state : MemoryBuckets) (bucket key : String) : Option Bytes :=
  let received := connection.object bucket key
  dataOf (S3Handlers.getObject connection.rfc3339 state received.1 received.2)

/-! ## Upload -/

/-- The key of a file. -/
def uploadKey (keyPrefix : Option String) (path : List String) : String :=
  let relative := ['/'].intercalate (path.map String.toList)
  let key :=
    match keyPrefix with
    | some text => trimMatches (· == '/') text.toList ++ '/' :: relative
    | none => relative
  .ofList (key.map fun c => if c = '\\' then '/' else c)

section

variable {σ : Type} (upload : σ → String → SourceFile → σ × Except S3ApiError S3Answer) (state : σ)
  (keyPrefix : Option String) (files : List SourceFile)

/-- Upload the files under a directory. -/
def uploadDirectory : σ :=
  runAll (fun state file => (upload state (uploadKey keyPrefix file.path) file).1) state files

/-- Every upload succeeds. -/
def UploadsSucceed : Prop :=
  EveryStep (fun state file => (upload state (uploadKey keyPrefix file.path) file).1)
    (fun state file => ∃ answer,
      (upload state (uploadKey keyPrefix file.path) file).2 = .ok answer)
    state files

end

/-! ## Download -/

/-- What a download gets from the gateway: the listing, and the data of objects. -/
structure Answers where
  listing : Option ListResponse
  object : String → Option Bytes

/-- The answers of a gateway in memory mode. -/
def memoryAnswers (state : MemoryBuckets) (bucket : String) (keyPrefix : Option String) :
    Answers where
  listing := listObjects connection state bucket keyPrefix
  object := downloadFile connection state bucket

/-- The path of an object relative to the output directory. -/
def relativePath (keyPrefix : Option String) (key : String) : List Char :=
  match keyPrefix with
  | some text =>
      (if text.toList <+: key.toList then
        key.toList.drop text.toList.length
      else
        key.toList).dropWhile (· == '/')
  | none => key.toList

/-- The names of a path; empty ones and single dots lead nowhere. -/
def pathNames (path : List Char) : List String :=
  ((path.splitOn '/').filter fun name => name ≠ [] ∧ name ≠ ['.']).map String.ofList

/-- Where a path joined to the output directory leads: the names below it, or nothing if it may
leave the directory. -/
def joinOutput (path : List Char) : Option (List String) :=
  if path.head? = some '/' ∨ ".." ∈ pathNames path then none else some (pathNames path)

/-- Whether a path ends in a slash or a single dot, which no file does. -/
def endsAtDirectory (path : List Char) : Bool :=
  match (path.splitOn '/').getLast? with
  | some name => name = [] ∨ name = ['.']
  | none => true

/-- Download an object: the directories above its file first, then the data, then the file.  What
leaves the output directory is not seen there. -/
def downloadObject (answers : Answers) (keyPrefix : Option String) (output : OutputDirectory)
    (object : ObjectInfo) : OutputDirectory :=
  let path := relativePath keyPrefix object.key
  match joinOutput path with
  | none => output
  | some names =>
      match output.createDirAll names.dropLast with
      | none => output
      | some output =>
          match answers.object object.key with
          | none => output
          | some data =>
              if endsAtDirectory path then output else (output.createFile names data).getD output

/-- Download all objects with a prefix into an empty directory. -/
def downloadPrefix (answers : Answers) (keyPrefix : Option String) : OutputDirectory :=
  match answers.listing with
  | none => .empty
  | some response => response.objects.foldl (downloadObject answers keyPrefix) .empty

end CyxCloud.Cli
