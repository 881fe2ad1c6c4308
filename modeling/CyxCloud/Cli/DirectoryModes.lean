import CyxCloud.Cli.DirectoryRoundTrip
import CyxCloud.Gateway.Acknowledgement
import CyxCloud.Gateway.MetadataHandlers

/-!
# Directories in both modes

A gateway with a metadata service lists paths in place of keys.  The client asks for these, so that a
directory with files never comes back, and an object is written only if its path is a key as well.
-/

namespace CyxCloud.Cli

open CyxCloud.Core hiding Chunk
open Library Gateway Metadata

/-! ## Requests in metadata mode -/

section

variable (connection : Connection) (ext : Externals)

/-- Upload a file to the nodes. -/
def uploadToNodes (env : SourceFile → PutEnv) (userId : Uuid) (bucket : String) (cluster : Cluster)
    (key : String) (file : SourceFile) : Cluster × Except S3ApiError S3Answer :=
  let received := connection.object bucket key
  S3Handlers.putInCluster ext (env file) userId cluster received.1 received.2
    (some file.contentType) file.data

/-- The answers of a gateway in metadata mode. -/
def metadataAnswers (listOrder : RowOrder File) (env : String → ReadEnv) (db : Database)
    (bucket : String) (keyPrefix : Option String) : Answers where
  listing :=
    let received := connection.listing bucket keyPrefix
    listingOf ((S3Handlers.metadataReads ext listOrder env db).listing connection.rfc3339 received.1
      (listQuery received.2))
  object key :=
    let received := connection.object bucket key
    dataOf ((S3Handlers.metadataReads ext listOrder env db).object connection.rfc3339 received.1
      received.2)

end

/-- The paths that a listing shows the client. -/
def shownPaths (db : Database) (bucket : String) (keyPrefix : Option String) : List String :=
  matchingPaths db bucket (keyPrefix.getD "") 1000

/-- A live file answers a request for a key. -/
def Present (db : Database) (bucket key : String) : Prop :=
  validateObjectKey key = .ok () ∧ db.liveFilesAt (objectPath bucket key) ≠ []

/-! ## Listings of paths -/

theorem not_mem_hexEncode (bytes : Bytes) : '<' ∉ (hexEncode bytes).toList := by
  have digit : ∀ n < 16, Nat.digitChar n ≠ '<' := by decide
  rw [hexEncode, String.toList_ofList, List.mem_flatMap]
  rintro ⟨byte, -, member⟩
  have bounded := byte.toNat_lt
  rcases List.mem_pair.mp member with same | same
  · exact digit _ (by omega) same.symm
  · exact digit _ (by omega) same.symm

section

variable {connection : Connection} {ext : Externals} {listOrder : RowOrder File}
  {env : String → ReadEnv} {db : Database} {bucket : String} {keyPrefix : Option String}

/-- The client sees every path once. -/
theorem listing_metadata (plain : connection.Plain) (there : (db.getBucket bucket).isSome)
    (askable : Askable bucket (keyPrefix.getD ""))
    (delivered : connection.listing bucket keyPrefix = (bucket, keyPrefix))
    (legible : Legible bucket keyPrefix (shownPaths db bucket keyPrefix)) :
    ∃ response,
      (metadataAnswers connection ext listOrder env db bucket keyPrefix).listing = some response ∧
      (response.objects.map ObjectInfo.key).Perm (shownPaths db bucket keyPrefix).dedup := by
  obtain ⟨infos, isTruncated, listed, names, entries⟩ :=
    @listObjects_metadata db _ _ askable listOrder 1000
  have sent : (S3Handlers.metadataReads ext listOrder env db).listing connection.rfc3339 bucket
      (listQuery keyPrefix) =
        .ok (.listing (clientListing connection.rfc3339 bucket keyPrefix isTruncated infos)) := by
    have capped : min ((listQuery keyPrefix).maxKeys.getD 1000) 1000 = (1000 : ℕ) := rfl
    simp only [ObjectReads.listing, S3Handlers.metadataReads, there, Bool.not_true,
      Bool.false_eq_true, if_false, capped]
    rw [show (listQuery keyPrefix).keyPrefix.getD "" = keyPrefix.getD "" from rfl, listed]
    rfl
  rw [← shownPaths] at names
  rw [← names] at legible
  have plain_entries : ∀ info ∈ infos, PlainEntry (info.listed connection.rfc3339) := by
    intro info member
    obtain ⟨⟨hash, etag⟩, standard⟩ := entries info member
    refine ⟨legible.closed _ (List.mem_map_of_mem member), plain.rfc3339 _, ?_, ?_⟩
    · change '<' ∉ info.etag.toList
      rw [etag]
      exact not_mem_hexEncode hash
    · change '<' ∉ info.storageClass.toList
      rw [standard]
      decide
  obtain ⟨response, read, once, members⟩ :=
    @listingOf_keys connection.rfc3339 bucket keyPrefix isTruncated infos legible plain_entries
  refine ⟨response, ?_, ?_⟩
  · simp only [metadataAnswers, delivered, sent, read]
  · rw [names] at members
    refine (List.perm_ext_iff_of_nodup once (List.nodup_dedup _)).mpr fun key => ?_
    rw [members, List.mem_dedup]

/-- Without the bucket, or with a prefix that is no text, there is no listing. -/
theorem listing_metadata_of_refused
    (refused : ¬ ((db.getBucket bucket).isSome ∧ Askable bucket (keyPrefix.getD "")))
    (delivered : connection.listing bucket keyPrefix = (bucket, keyPrefix)) :
    (metadataAnswers connection ext listOrder env db bucket keyPrefix).listing = none := by
  simp only [metadataAnswers, delivered, ObjectReads.listing, S3Handlers.metadataReads]
  cases there : (db.getBucket bucket).isSome with
  | false => rfl
  | true =>
      have not_askable : ¬ Askable bucket (keyPrefix.getD "") := fun askable =>
        refused ⟨there, askable⟩
      have failed := listObjects_of_not_askable not_askable listOrder db 1000
      simp only [Bool.not_true, Bool.false_eq_true, if_false]
      rw [show (listQuery keyPrefix).keyPrefix.getD "" = keyPrefix.getD "" from rfl,
        show min ((listQuery keyPrefix).maxKeys.getD 1000) 1000 = 1000 from rfl, failed]
      rfl

/-- The client gets the data of present keys only. -/
theorem present_of_object {key : String}
    (delivered : connection.object bucket key = (bucket, key))
    (got : ((metadataAnswers connection ext listOrder env db bucket keyPrefix).object
      key).isSome) : Present db bucket key := by
  simp only [metadataAnswers, delivered] at got
  cases answered : (S3Handlers.metadataReads ext listOrder env db).object connection.rfc3339 bucket
      key with
  | error cause =>
      rw [answered] at got
      exact nomatch got
  | ok answer => exact exists_liveFile_of_object answered

/-- Every listed object gets a file of its own exactly if every path is a key as well and these are
apart behind the prefix. -/
theorem writesApart_iff_of_metadata (plain : connection.Plain)
    (there : (db.getBucket bucket).isSome) (askable : Askable bucket (keyPrefix.getD ""))
    (delivers : connection.Delivers bucket keyPrefix (shownPaths db bucket keyPrefix))
    (legible : Legible bucket keyPrefix (shownPaths db bucket keyPrefix))
    (answered : ∀ path ∈ shownPaths db bucket keyPrefix, Present db bucket path →
      ((metadataAnswers connection ext listOrder env db bucket keyPrefix).object path).isSome) :
    WritesApart (metadataAnswers connection ext listOrder env db bucket keyPrefix) keyPrefix ↔
      (∀ path ∈ shownPaths db bucket keyPrefix, Present db bucket path) ∧
        KeysApart keyPrefix (shownPaths db bucket keyPrefix).dedup := by
  obtain ⟨response, listed, names⟩ := @listing_metadata connection ext listOrder env db bucket
    keyPrefix plain there askable delivers.listing legible
  have shown (present : ∀ path ∈ shownPaths db bucket keyPrefix, Present db bucket path) :
      Shown (metadataAnswers connection ext listOrder env db bucket keyPrefix) keyPrefix
        (shownPaths db bucket keyPrefix).dedup fun path =>
          ((metadataAnswers connection ext listOrder env db bucket keyPrefix).object path).getD [] := by
    refine ⟨⟨response, listed, names⟩, List.nodup_dedup _, ?_, ?_⟩
    · intro path member
      exact (present path (List.mem_dedup.mp member)).1
    · intro path member
      have known := List.mem_dedup.mp member
      obtain ⟨data, got⟩ := Option.isSome_iff_exists.mp (answered path known (present path known))
      rw [got]
      rfl
  constructor
  · intro apart
    have present : ∀ path ∈ shownPaths db bucket keyPrefix, Present db bucket path := by
      intro path member
      obtain ⟨object, shown_object, rfl⟩ :=
        List.mem_map.mp (names.mem_iff.mpr (List.mem_dedup.mpr member))
      obtain ⟨-, data, -, got, -⟩ := apart.written response listed object shown_object
      have some_data := Option.isSome_iff_exists.mpr ⟨data, got⟩
      exact present_of_object (delivers.object _ member) some_data
    exact ⟨present, (shown present).writesApart_iff.mp apart⟩
  · rintro ⟨present, apart⟩
    exact (shown present).writesApart_iff.mpr apart

end

/-! ## Uploads to the nodes -/

/-- No live file is in the bucket or under its name. -/
def Untouched (db : Database) (bucket : String) : Prop :=
  ∀ file ∈ db.files, file.isLive →
    file.bucket ≠ some bucket ∧ startsWith file.path (bucket ++ "/") = false

/-- The live files of a bucket are those of some keys, and no other key finds one. -/
structure HoldsKeys (db : Database) (bucket : String) (keys : List String) : Prop where
  listed : (liveFilesOf db bucket).map File.path = keys.map (objectPath bucket)
  found : ∀ key, db.liveFilesAt (objectPath bucket key) ≠ [] → key ∈ keys

section

variable {connection : Connection} {ext : Externals} {encoder : ErasureEncoder}
  {put : SourceFile → PutEnv} {userId : Uuid} {cluster : Cluster} {bucket : String}
  {keyPrefix : Option String} {keys : List String}

theorem Untouched.holdsKeys {db : Database} (untouched : Untouched db bucket) :
    HoldsKeys db bucket [] where
  listed := by
    rw [liveFilesOf, List.filter_eq_nil_iff.mpr, List.map_nil, List.map_nil]
    intro file member
    cases live : file.isLive with
    | false => simp
    | true => simp [(untouched file member live).1]
  found := by
    intro key there
    obtain ⟨file, member⟩ := List.exists_mem_of_ne_nil _ there
    obtain ⟨known, matches_key⟩ := List.mem_filter.mp member
    obtain ⟨path_eq, live⟩ := Bool.and_eq_true_iff.mp matches_key
    have under := (untouched file known live).2
    rw [eq_of_beq path_eq, startsWith_objectPath] at under
    cases under

theorem objectPath_injective (bucket : String) : Function.Injective (objectPath bucket) := by
  intro key key' same
  have chars := congrArg String.toList same
  simp only [objectPath, String.toList_append] at chars
  exact String.toList_injective (List.append_cancel_left chars)

/-- An upload that succeeds adds its key. -/
theorem HoldsKeys.upload (lawful : ext.Lawful)
    (built : ErasureEncoder.new ext.reedSolomon = .ok encoder)
    (holds : HoldsKeys cluster.db bucket keys) {key : String} {file : SourceFile}
    (delivered : connection.object bucket key = (bucket, key))
    (succeeds : ∃ answer,
      (uploadToNodes connection ext put userId bucket cluster key file).2 = .ok answer) :
    HoldsKeys (uploadToNodes connection ext put userId bucket cluster key file).1.db bucket
      (keys ++ [key]) := by
  simp only [uploadToNodes, delivered] at succeeds ⊢
  obtain ⟨row, live, in_bucket, path_eq, files_eq⟩ :=
    files_of_putInCluster lawful built succeeds
  constructor
  · have listed := holds.listed
    rw [liveFilesOf] at listed ⊢
    rw [files_eq, List.filter_append, List.map_append, listed, List.map_append]
    simp [live, in_bucket, path_eq]
  · intro other there
    rw [Database.liveFilesAt, files_eq, List.filter_append, ← Database.liveFilesAt] at there
    rw [List.mem_append, List.mem_singleton]
    by_cases before : cluster.db.liveFilesAt (objectPath bucket other) = []
    · refine .inr (objectPath_injective bucket ?_)
      rw [before, List.nil_append] at there
      obtain ⟨file, member⟩ := List.exists_mem_of_ne_nil _ there
      obtain ⟨rfl, matches_key⟩ := (List.mem_filter.mp member).imp_left List.mem_singleton.mp
      rw [← path_eq]
      exact (eq_of_beq (Bool.and_eq_true_iff.mp matches_key).1).symm
    · exact .inl (holds.found other before)

/-- After uploads that succeed the bucket holds the keys of the files. -/
theorem HoldsKeys.uploadDirectory (lawful : ext.Lawful)
    (built : ErasureEncoder.new ext.reedSolomon = .ok encoder)
    (holds : HoldsKeys cluster.db bucket keys) {files : List SourceFile}
    (delivered : ∀ key ∈ uploadKeys keyPrefix files,
      connection.object bucket key = (bucket, key))
    (succeed : UploadsSucceed (uploadToNodes connection ext put userId bucket) cluster keyPrefix
      files) :
    HoldsKeys
      (Cli.uploadDirectory (uploadToNodes connection ext put userId bucket) cluster keyPrefix
        files).db
      bucket (keys ++ uploadKeys keyPrefix files) := by
  induction files generalizing cluster keys with
  | nil =>
      rw [uploadKeys, List.map_nil, List.append_nil]
      exact holds
  | cons file files induction =>
      obtain ⟨first, later⟩ := succeed
      have next := induction (holds.upload lawful built (delivered _ List.mem_cons_self) first)
        (fun key member => delivered key (List.mem_cons_of_mem _ member)) later
      rw [List.append_assoc] at next
      exact next

/-! ## Directories in metadata mode -/

/-- Not every key is the path of another one. -/
theorem exists_no_path (bucket : String) {keys : List String} (nonempty : keys ≠ []) :
    ∃ key ∈ keys, ∀ other ∈ keys, objectPath bucket other ≠ key := by
  obtain ⟨key, member, least⟩ := keys.toFinset.exists_min_image String.length
    (List.toFinset_nonempty_iff keys |>.mpr nonempty)
  refine ⟨key, List.mem_toFinset.mp member, fun other known same => ?_⟩
  have shorter := least other (List.mem_toFinset.mpr known)
  rw [← same, objectPath, String.length_append, String.length_append] at shorter
  have slash : "/".length = 1 := rfl
  omega

/-- In metadata mode a directory that was uploaded into an untouched bucket comes back only if it has
no files. -/
theorem recreates_iff_of_metadata (plain : connection.Plain) (lawful : ext.Lawful)
    (built : ErasureEncoder.new ext.reedSolomon = .ok encoder) (tree : SourceTree)
    (untouched : Untouched cluster.db bucket)
    (succeed : UploadsSucceed (uploadToNodes connection ext put userId bucket) cluster keyPrefix
      tree.files)
    (delivers : connection.Delivers bucket keyPrefix
      (uploadKeys keyPrefix tree.files ++
        (uploadKeys keyPrefix tree.files).map (objectPath bucket)))
    (legible : Legible bucket keyPrefix
      ((pathsLike bucket (uploadKeys keyPrefix tree.files) (keyPrefix.getD "")).take 1000))
    (listOrder : RowOrder File) (env : String → ReadEnv) :
    Recreates tree.files
        (downloadPrefix
          (metadataAnswers connection ext listOrder env
            (uploadDirectory (uploadToNodes connection ext put userId bucket) cluster keyPrefix
              tree.files).db bucket keyPrefix)
          keyPrefix) ↔
      tree.files = [] := by
  have holds := untouched.holdsKeys.uploadDirectory lawful built
    (fun key member => delivers.object key (List.mem_append_left _ member)) succeed
  rw [List.nil_append] at holds
  generalize (uploadDirectory (uploadToNodes connection ext put userId bucket) cluster keyPrefix
    tree.files).db = db at holds ⊢
  have paths : shownPaths db bucket keyPrefix =
      (pathsLike bucket (uploadKeys keyPrefix tree.files) (keyPrefix.getD "")).take 1000 :=
    matchingPaths_eq holds.listed 1000
  rw [← paths] at legible
  generalize answers_eq : metadataAnswers connection ext listOrder env db bucket keyPrefix = answers
  -- what is written has a key that is a path as well
  have written : ∀ path ∈ (downloadPrefix answers keyPrefix).files,
      ∃ key ∈ (uploadKeys keyPrefix tree.files).filter fun key =>
        ∃ other ∈ uploadKeys keyPrefix tree.files, objectPath bucket other = key,
        (joinOutput (relativePath keyPrefix key)).getD [] = path := by
    intro path member
    rw [← answers_eq] at member
    by_cases listable : (db.getBucket bucket).isSome ∧ Askable bucket (keyPrefix.getD "")
    · obtain ⟨response, listed, names⟩ := @listing_metadata connection ext listOrder env db bucket
        keyPrefix plain listable.1 listable.2 delivers.listing legible
      rw [downloadPrefix, listed] at member
      rcases mem_files_foldl member with nothing | ⟨object, shown, joined, -, got⟩
      · exact absurd nothing (AList.notMem_empty _)
      · have path_listed := List.mem_dedup.mp (names.mem_iff.mp (List.mem_map_of_mem shown))
        have path_of := mem_matchingPaths path_listed
        rw [holds.listed] at path_of
        have present := present_of_object
          (delivers.object _ (List.mem_append_right _ path_of)) got
        refine ⟨object.key, List.mem_filter.mpr ⟨holds.found _ present.2, ?_⟩, ?_⟩
        · exact decide_eq_true (List.mem_map.mp path_of)
        · rw [joined, Option.getD_some]
    · rw [downloadPrefix, listing_metadata_of_refused listable delivers.listing] at member
      exact absurd member (AList.notMem_empty _)
  constructor
  · intro recreates
    by_contra nonempty
    have some_key : uploadKeys keyPrefix tree.files ≠ [] := fun nothing =>
      nonempty (List.map_eq_nil_iff.mp nothing)
    have only : tree.files.map SourceFile.path ⊆
        ((uploadKeys keyPrefix tree.files).filter fun key =>
          ∃ other ∈ uploadKeys keyPrefix tree.files, objectPath bucket other = key).map fun key =>
            (joinOutput (relativePath keyPrefix key)).getD [] := by
      intro path member
      obtain ⟨file, known, rfl⟩ := List.mem_map.mp member
      have there : file.path ∈ (downloadPrefix answers keyPrefix).files := by
        rw [← AList.lookup_isSome, recreates.contents file known]
        rfl
      exact List.mem_map.mpr (written _ there)
    have bounded := (List.subperm_of_subset tree.distinct only).length_le
    obtain ⟨key, member, no_path⟩ := exists_no_path bucket some_key
    have fewer : ((uploadKeys keyPrefix tree.files).filter fun key =>
        ∃ other ∈ uploadKeys keyPrefix tree.files, objectPath bucket other = key).length <
          (uploadKeys keyPrefix tree.files).length :=
      List.length_filter_lt_length_iff_exists.mpr ⟨key, member, by simpa using no_path⟩
    rw [List.length_map, List.length_map] at bounded
    have counted : (uploadKeys keyPrefix tree.files).length = tree.files.length := List.length_map _
    omega
  · intro nothing
    constructor
    · intro file member
      rw [nothing] at member
      exact absurd member List.not_mem_nil
    · intro path member
      obtain ⟨key, listed, -⟩ := written path member
      rw [nothing] at listed
      exact absurd listed List.not_mem_nil

end

/-! ## Both modes -/

section

variable {connection : Connection} {ext : Externals} {encoder : ErasureEncoder}

/-- Where prefix and keys reach the gateway and are listed as they are.  In memory mode an uploaded
directory comes back exactly if it has no files, or at most a thousand and a regular prefix, and every
listed object of a bucket gets a file of its own exactly if the keys are apart behind the prefix.  In
metadata mode a directory comes back only if it has no files, and listed objects get files of their
own exactly if their paths are keys as well and apart behind the prefix. -/
theorem recreates_and_writesApart_iff (plain : connection.Plain) (lawful : ext.Lawful)
    (built : ErasureEncoder.new ext.reedSolomon = .ok encoder) (bucket : String)
    (keyPrefix : Option String) :
    (∀ (tree : SourceTree) (state : MemoryBuckets) (objects : StoredObjects),
      state.memoryBuckets.lookup bucket = some objects → Alone keyPrefix tree.files objects →
      UploadsSucceed (uploadFile connection bucket) state keyPrefix tree.files →
      connection.Delivers bucket keyPrefix (uploadKeys keyPrefix tree.files) →
      Legible bucket keyPrefix (firstKeys (uploadKeys keyPrefix tree.files) keyPrefix) →
      (Recreates tree.files
          (downloadPrefix
            (memoryAnswers connection
              (uploadDirectory (uploadFile connection bucket) state keyPrefix tree.files) bucket
              keyPrefix)
            keyPrefix) ↔
        ComesBack keyPrefix tree.files)) ∧
    (∀ (requests : List S3Request) (objects : StoredObjects),
      (served connection requests).memoryBuckets.lookup bucket = some objects →
      connection.Delivers bucket keyPrefix (listedKeys objects keyPrefix) →
      Legible bucket keyPrefix (listedKeys objects keyPrefix) →
      (WritesApart (memoryAnswers connection (served connection requests) bucket keyPrefix)
          keyPrefix ↔
        KeysApart keyPrefix (listedKeys objects keyPrefix))) ∧
    (∀ (tree : SourceTree) (cluster : Cluster) (put : SourceFile → PutEnv) (userId : Uuid)
        (listOrder : RowOrder File) (env : String → ReadEnv),
      Untouched cluster.db bucket →
      UploadsSucceed (uploadToNodes connection ext put userId bucket) cluster keyPrefix
        tree.files →
      connection.Delivers bucket keyPrefix
        (uploadKeys keyPrefix tree.files ++
          (uploadKeys keyPrefix tree.files).map (objectPath bucket)) →
      Legible bucket keyPrefix
        ((pathsLike bucket (uploadKeys keyPrefix tree.files) (keyPrefix.getD "")).take 1000) →
      (Recreates tree.files
          (downloadPrefix
            (metadataAnswers connection ext listOrder env
              (uploadDirectory (uploadToNodes connection ext put userId bucket) cluster keyPrefix
                tree.files).db bucket keyPrefix)
            keyPrefix) ↔
        tree.files = [])) ∧
    (∀ (db : Database) (listOrder : RowOrder File) (env : String → ReadEnv),
      (db.getBucket bucket).isSome → Askable bucket (keyPrefix.getD "") →
      connection.Delivers bucket keyPrefix (shownPaths db bucket keyPrefix) →
      Legible bucket keyPrefix (shownPaths db bucket keyPrefix) →
      (∀ path ∈ shownPaths db bucket keyPrefix, Present db bucket path →
        ((metadataAnswers connection ext listOrder env db bucket keyPrefix).object path).isSome) →
      (WritesApart (metadataAnswers connection ext listOrder env db bucket keyPrefix) keyPrefix ↔
        (∀ path ∈ shownPaths db bucket keyPrefix, Present db bucket path) ∧
          KeysApart keyPrefix (shownPaths db bucket keyPrefix).dedup)) := by
  refine ⟨?_, ?_, ?_, ?_⟩
  · intro tree state objects found alone succeed delivers legible
    exact recreates_iff_of_memory plain tree found alone succeed delivers legible
  · intro requests objects found delivers legible
    exact writesApart_iff_of_memory plain requests found delivers legible
  · intro tree cluster put userId listOrder env untouched succeed delivers legible
    exact recreates_iff_of_metadata plain lawful built tree untouched succeed delivers legible
      listOrder env
  · intro db listOrder env there askable delivers legible answered
    exact writesApart_iff_of_metadata plain there askable delivers legible answered

end

/-! ## A directory with a single file -/

/-- A connection that carries everything as it is; its digest and time are those of the file
below. -/
def plainConnection : Connection where
  md5 := fun _ => "5289df737df57326fcdd22597afb1fac"
  rfc3339 := fun _ => "1970-01-01T00:00:00+00:00"
  object := fun bucket key => (bucket, key)
  listing := fun bucket keyPrefix => (bucket, keyPrefix)

theorem plainConnection_plain : plainConnection.Plain where
  rfc3339 := fun _ => (by decide : '<' ∉ "1970-01-01T00:00:00+00:00".toList)
  md5 := fun _ => (by decide : '<' ∉ "5289df737df57326fcdd22597afb1fac".toList)

theorem plainConnection_delivers (bucket : String) (keyPrefix : Option String)
    (keys : List String) : plainConnection.Delivers bucket keyPrefix keys where
  listing := rfl
  object := fun _ _ => rfl

/-- A directory with a single file. -/
def singleFile : SourceTree where
  files :=
    [{ path := ["cats", "tom.txt"]
       data := [1, 2, 3]
       contentType := "text/plain"
       uploadedAt := 0 }]
  distinct := by decide
  path_ne_nil := by decide
  names := by
    intro file member
    obtain rfl := List.mem_singleton.mp member
    have valid : ∀ name ∈ ["cats", "tom.txt"], name.toList ≠ [] ∧ name.toList ≠ ['.'] ∧
        '/' ∉ name.toList ∧ '\\' ∉ name.toList := by decide
    intro name listed
    obtain ⟨nonempty, not_dot, no_slash, no_backslash⟩ := valid name listed
    exact ⟨nonempty, not_dot, no_slash, no_backslash⟩
  apart := by
    intro file member other member' _
    rw [List.mem_singleton.mp member, List.mem_singleton.mp member']

/-- A gateway with an empty bucket. -/
def emptyPhotos : MemoryBuckets := served plainConnection [.createBucket "photos"]

theorem singleFile_uploads (keyPrefix : Option String)
    (accepted : validateObjectKey (uploadKey keyPrefix ["cats", "tom.txt"]) = .ok ()) :
    UploadsSucceed (uploadFile plainConnection "photos") emptyPhotos keyPrefix singleFile.files := by
  refine ⟨⟨.stored (S3Handlers.quoted "5289df737df57326fcdd22597afb1fac"), ?_⟩, trivial⟩
  simp only [uploadFile, plainConnection, S3Handlers.putObject, S3Handlers.storeObject]
  rw [accepted]
  rfl

theorem legible_of_keys {keyPrefix : Option String} {keys : List String}
    (head : Lacks (keyPrefix.getD "") XmlTag.key)
    (lacks : ∀ key ∈ keys, ∀ tag ∈ [XmlTag.key.closing, XmlTag.contents.closing], Lacks key tag) :
    Legible "photos" keyPrefix keys where
  head := by
    intro _ text member
    rcases List.mem_pair.mp member with rfl | rfl
    · decide
    · exact head
  nothing := by
    intro _
    have bucket : Lacks "photos" XmlTag.key := by decide
    constructor
    · intro text member
      rcases List.mem_pair.mp member with rfl | rfl
      · exact extractXmlValue_of_lacking bucket
      · exact extractXmlValue_of_lacking head
    · exact List.pairwise_pair.mpr (.inl bucket)
  closed := fun key member => lacks key member _ List.mem_cons_self
  whole := fun key member => lacks key (List.mem_of_mem_tail member) _ (by simp)
  settled := fun key member =>
    ⟨_, List.mem_cons_self, lacks key (List.mem_of_mem_head? member) _ (by simp)⟩

/-- An object with the data of the file. -/
def tom : StoredObject where
  data := [1, 2, 3]
  contentType := "application/octet-stream"
  etag := "5289df737df57326fcdd22597afb1fac"
  createdAt := 0

/-- Requests that put the object under some keys. -/
def putTom (keys : List String) : List S3Request :=
  .createBucket "photos" ::
    keys.map fun key => .putObject 0 "photos" key none [1, 2, 3]

/-- What a gateway in memory mode answers after the directory is uploaded. -/
def singleFileAnswers (keyPrefix : Option String) : Answers :=
  memoryAnswers plainConnection
    (uploadDirectory (uploadFile plainConnection "photos") emptyPhotos keyPrefix singleFile.files)
    "photos" keyPrefix

/-- Another directory with a single file. -/
def catFile : SourceTree where
  files :=
    [{ path := ["cat"]
       data := Reference.tenDigits
       contentType := "image/png"
       uploadedAt := 0 }]
  distinct := by decide
  path_ne_nil := by decide
  names := by
    intro file member name listed
    obtain rfl := List.mem_singleton.mp member
    obtain rfl := List.mem_singleton.mp listed
    exact ⟨by decide, by decide, by decide, by decide⟩
  apart := by
    intro file member other member' _
    rw [List.mem_singleton.mp member, List.mem_singleton.mp member']

/-- Upload a file to a node that takes every shard. -/
noncomputable abbrev calmUpload : Cluster → String → SourceFile → Cluster × Except S3ApiError S3Answer :=
  uploadToNodes plainConnection Reference.externals (fun _ => Reference.calmEnv 1) 7 "photos"

theorem catFile_uploads :
    UploadsSucceed calmUpload Reference.emptyCluster none catFile.files := by
  refine ⟨⟨.stored (S3Handlers.quoted (hexEncode
    (Reference.externals.blake3 Reference.tenDigits))), ?_⟩, trivial⟩
  have named : uploadKey none ["cat"] = "cat" := by decide
  have header : S3Handlers.contentTypeOf (some "image/png") = "image/png" := by decide
  have accepted : validateObjectKey "cat" = .ok () := by decide
  have there : (Reference.emptyCluster.db.getBucket "photos").isSome = true := by decide
  simp only [calmUpload, uploadToNodes, plainConnection, S3Handlers.putInCluster,
    S3Handlers.storeObject, named, header, accepted, there, Reference.first_put_ok, Bool.not_true,
    Bool.false_eq_true, if_false, Except.mapError, Except.map]

theorem pathsLike_cat : pathsLike "photos" ["cat"] "" = [objectPath "photos" "cat"] := by
  rw [pathsLike, List.filter_eq_self.mpr fun path _ => sqlLike_percent path.toList,
    List.map_singleton, List.mergeSort_singleton]

/-- In memory mode the directory comes back with the prefix `pets`, and its object gets a file of its
own; in metadata mode a directory does not come back. -/
theorem recreates_singleFile :
    Recreates singleFile.files (downloadPrefix (singleFileAnswers (some "pets")) (some "pets")) ∧
      WritesApart
        (memoryAnswers plainConnection (served plainConnection (putTom ["pets/cats/tom.txt"]))
          "photos" (some "pets"))
        (some "pets") ∧
      ∀ env, ¬ Recreates catFile.files
        (downloadPrefix
          (metadataAnswers plainConnection Reference.externals .insertion env
            (uploadDirectory calmUpload Reference.emptyCluster none catFile.files).db "photos" none)
          none) := by
  have all := recreates_and_writesApart_iff plainConnection_plain Reference.externals_lawful
    Reference.encoder_built "photos"
  have stored : (served plainConnection (putTom ["pets/cats/tom.txt"])).memoryBuckets.lookup
      "photos" = some (AList.insert "pets/cats/tom.txt" tom ∅) := by rfl
  have listed : listedKeys (AList.insert "pets/cats/tom.txt" tom ∅) (some "pets") =
      ["pets/cats/tom.txt"] :=
    listedKeys_eq (by decide) (by decide) (by decide)
  have named : uploadKeys none catFile.files = ["cat"] := by decide
  refine ⟨((all (some "pets")).1 singleFile emptyPhotos ∅ rfl (alone_empty _ _) ?_ ?_ ?_).mpr ?_,
    ((all (some "pets")).2.1 _ _ stored (plainConnection_delivers _ _ _) ?_).mpr ?_,
    fun env recreates => absurd
      (((all none).2.2.1 catFile Reference.emptyCluster (fun _ => Reference.calmEnv 1) 7 .insertion
        env ?_ catFile_uploads (plainConnection_delivers _ _ _) ?_).mp recreates)
      (List.cons_ne_nil _ _)⟩
  · exact singleFile_uploads _ (by decide)
  · exact plainConnection_delivers _ _ _
  · exact legible_of_keys (by decide +kernel) (by decide +kernel)
  · exact .inr (by decide)
  · rw [listed]
    exact legible_of_keys (by decide) (by decide)
  · rw [listed]
    decide
  · exact fun file member => nomatch member
  · rw [named, Option.getD_none, pathsLike_cat]
    exact legible_of_keys (by decide) (by decide)

/-- With the prefix `/pets` the directory is uploaded but not found, and two objects of a bucket may
be written to one file. -/
theorem not_recreates_of_slash :
    (UploadsSucceed (uploadFile plainConnection "photos") emptyPhotos (some "/pets")
        singleFile.files ∧
      ¬ Recreates singleFile.files
        (downloadPrefix (singleFileAnswers (some "/pets")) (some "/pets"))) ∧
    ¬ WritesApart
      (memoryAnswers plainConnection (served plainConnection (putTom ["pets/tom", "pets//tom"]))
        "photos" (some "pets"))
      (some "pets") := by
  have uploads := singleFile_uploads (some "/pets") (by decide)
  refine ⟨⟨uploads, fun recreates => ?_⟩, fun writes => ?_⟩
  · have back := (recreates_iff_of_memory plainConnection_plain singleFile rfl
      (alone_empty _ _) uploads (plainConnection_delivers _ _ _)
      (legible_of_keys (by decide +kernel) (by decide +kernel))).mp recreates
    exact absurd back (by decide)
  · have stored : (served plainConnection (putTom ["pets/tom", "pets//tom"])).memoryBuckets.lookup
        "photos" = some (AList.insert "pets//tom" tom (AList.insert "pets/tom" tom ∅)) := by rfl
    have listed : listedKeys (AList.insert "pets//tom" tom (AList.insert "pets/tom" tom ∅))
        (some "pets") = ["pets//tom", "pets/tom"] :=
      listedKeys_eq (by decide) (by decide) (by decide)
    have apart := (writesApart_iff_of_memory plainConnection_plain _ stored
      (plainConnection_delivers _ _ _) (by
        rw [listed]
        exact legible_of_keys (by decide) (by decide))).mp writes
    rw [listed] at apart
    exact absurd apart (by decide)

end CyxCloud.Cli
