import CyxCloud.Cli.DirectoryDownload

/-!
# Directories that come back

From a gateway in memory mode an uploaded directory comes back exactly if it has no files, or at most
a thousand and a regular prefix.
-/

namespace CyxCloud.Cli

open CyxCloud.Core hiding Chunk
open Library Gateway

/-- An output directory has exactly some files. -/
structure Recreates (files : List SourceFile) (output : OutputDirectory) : Prop where
  contents : ∀ file ∈ files, output.files.lookup file.path = some file.data
  nothing_else : ∀ path ∈ output.files, ∃ file ∈ files, file.path = path

/-- The keys of the files under a directory. -/
def uploadKeys (keyPrefix : Option String) (files : List SourceFile) : List String :=
  files.map fun file => uploadKey keyPrefix file.path

/-! ## Uploads -/

section

variable {connection : Connection} {state : MemoryBuckets} {bucket : String}
  {keyPrefix : Option String} {objects : StoredObjects} {files : List SourceFile}

theorem uploadKey_injective {path path' : List String} (path_ne_nil : path ≠ [])
    (path_ne_nil' : path' ≠ []) (names : ∀ name ∈ path, ValidName name)
    (names' : ∀ name ∈ path', ValidName name)
    (same : uploadKey keyPrefix path = uploadKey keyPrefix path') : path = path' := by
  have chars := congrArg String.toList same
  rw [uploadKey_toList names, uploadKey_toList names'] at chars
  rw [← pathNames_relativeOf path_ne_nil names, List.append_cancel_left chars,
    pathNames_relativeOf path_ne_nil' names']

/-- Different files of a directory have different keys. -/
theorem SourceTree.eq_of_uploadKey (tree : SourceTree) {file other : SourceFile}
    (member : file ∈ tree.files) (member' : other ∈ tree.files)
    (same : uploadKey keyPrefix file.path = uploadKey keyPrefix other.path) :
    file.path = other.path :=
  uploadKey_injective (tree.path_ne_nil file member) (tree.path_ne_nil other member')
    (tree.names file member) (tree.names other member') same

theorem SourceTree.uploadKeys_nodup (tree : SourceTree) (keyPrefix : Option String) :
    (uploadKeys keyPrefix tree.files).Nodup := by
  have distinct := List.pairwise_map.mp tree.distinct
  refine List.pairwise_map.mpr (distinct.imp_of_mem ?_)
  intro file other member member' differs same
  exact differs (tree.eq_of_uploadKey member member' same)

/-- A successful upload sets an accepted object with the data of the file. -/
theorem uploadFile_ok {key : String} {file : SourceFile}
    (found : state.memoryBuckets.lookup bucket = some objects)
    (delivered : connection.object bucket key = (bucket, key))
    (succeeds : ∃ answer, (uploadFile connection bucket state key file).2 = .ok answer) :
    ∃ object, object.data = file.data ∧ Accepted connection.md5 key object ∧
      (uploadFile connection bucket state key file).1.memoryBuckets.lookup bucket =
        some (AList.insert key object objects) := by
  obtain ⟨answer, ok⟩ := succeeds
  rw [uploadFile, delivered] at ok
  dsimp only at ok
  rw [uploadFile, delivered]
  dsimp only
  rcases S3Handlers.putObject_cases connection.md5 state file.uploadedAt bucket key
    (some file.contentType) file.data with
    ⟨-, cause, failed⟩ | ⟨objects', object, used, found', data, accepted, set⟩
  · rw [failed] at ok
    exact nomatch ok
  · rw [found, Option.some.injEq] at found'
    subst found'
    refine ⟨object, data, accepted, ?_⟩
    rw [set]
    exact AList.lookup_insert _

/-- What successful uploads leave in a bucket: the files under their keys, and the rest as it
was. -/
structure Uploaded (connection : Connection) (keyPrefix : Option String) (files : List SourceFile)
    (objects objects' : StoredObjects) : Prop where
  stored : ∀ file ∈ files, ∃ object,
    objects'.lookup (uploadKey keyPrefix file.path) = some object ∧ object.data = file.data ∧
      Accepted connection.md5 (uploadKey keyPrefix file.path) object
  others : ∀ key ∉ uploadKeys keyPrefix files, objects'.lookup key = objects.lookup key

theorem uploaded_of_succeed (found : state.memoryBuckets.lookup bucket = some objects)
    (distinct : (uploadKeys keyPrefix files).Nodup)
    (delivered : ∀ key ∈ uploadKeys keyPrefix files,
      connection.object bucket key = (bucket, key))
    (succeed : UploadsSucceed (uploadFile connection bucket) state keyPrefix files) :
    ∃ objects', (uploadDirectory (uploadFile connection bucket) state keyPrefix
        files).memoryBuckets.lookup bucket = some objects' ∧
      Uploaded connection keyPrefix files objects objects' := by
  induction files generalizing state objects with
  | nil => exact ⟨objects, found, ⟨fun _ nothing => (nomatch nothing), fun _ _ => rfl⟩⟩
  | cons file files induction =>
      obtain ⟨first, later⟩ := succeed
      obtain ⟨object, data, accepted, found'⟩ :=
        uploadFile_ok found (delivered _ List.mem_cons_self) first
      obtain ⟨fresh, distinct'⟩ := List.nodup_cons.mp distinct
      obtain ⟨objects', ended, stored, others⟩ := induction found' distinct'
        (fun key member => delivered key (List.mem_cons_of_mem _ member)) later
      refine ⟨objects', ended, ?_, ?_⟩
      · intro other member
        rcases List.mem_cons.mp member with rfl | member
        · refine ⟨object, ?_, data, accepted⟩
          rw [others _ fresh]
          exact AList.lookup_insert _
        · exact stored other member
      · intro key absent
        obtain ⟨differs, absent'⟩ := not_or.mp (mt List.mem_cons.mpr absent)
        rw [others key absent']
        exact AList.lookup_insert_ne differs

end

/-! ## The round trip -/

/-- No key of a bucket stands under the prefix but those of some files. -/
def Alone (keyPrefix : Option String) (files : List SourceFile) (objects : StoredObjects) : Prop :=
  ∀ key ∈ objects.keys, startsWith key (keyPrefix.getD "") = true →
    key ∈ uploadKeys keyPrefix files

theorem alone_empty (keyPrefix : Option String) (files : List SourceFile) :
    Alone keyPrefix files ∅ :=
  fun _ nothing => nomatch nothing

/-- There is nothing to upload, or at most a thousand files with a regular prefix. -/
def ComesBack (keyPrefix : Option String) (files : List SourceFile) : Prop :=
  files = [] ∨ (files.length ≤ 1000 ∧ ∀ text ∈ keyPrefix, RegularPrefix text)

instance (keyPrefix : Option String) (files : List SourceFile) :
    Decidable (ComesBack keyPrefix files) :=
  decidable_of_iff (files.isEmpty = true ∨
      (files.length ≤ 1000 ∧ ∀ text ∈ keyPrefix, RegularPrefix text))
    (or_congr_left List.isEmpty_iff)

section

variable {connection : Connection} {keyPrefix : Option String} {objects objects' : StoredObjects}
  {tree : SourceTree} {answers : Answers}

/-- A key under the prefix is that of a file. -/
theorem mem_uploadKeys_of_startsWith {files : List SourceFile}
    (uploaded : Uploaded connection keyPrefix files objects objects')
    (alone : Alone keyPrefix files objects) {key : String} (present : key ∈ objects'.keys)
    (starts : startsWith key (keyPrefix.getD "") = true) : key ∈ uploadKeys keyPrefix files := by
  by_contra absent
  have before : key ∈ objects := by
    rw [← AList.lookup_isSome, ← uploaded.others key absent, AList.lookup_isSome]
    exact present
  exact absent (alone key before starts)

theorem exists_file_of_listed {files : List SourceFile}
    (uploaded : Uploaded connection keyPrefix files objects objects')
    (alone : Alone keyPrefix files objects) {key : String}
    (member : key ∈ listedKeys objects' keyPrefix) :
    ∃ file ∈ files, uploadKey keyPrefix file.path = key := by
  obtain ⟨present, starts⟩ := mem_of_mem_listedKeys member
  exact List.mem_map.mp (mem_uploadKeys_of_startsWith uploaded alone present starts)

theorem startsWith_uploadKey (regular : ∀ text ∈ keyPrefix, RegularPrefix text)
    {file : SourceFile} (member : file ∈ tree.files) :
    startsWith (uploadKey keyPrefix file.path) (keyPrefix.getD "") = true ∧
      relativePath keyPrefix (uploadKey keyPrefix file.path) = relativeOf file.path := by
  cases keyPrefix with
  | none =>
      refine ⟨List.isPrefixOf_iff_prefix.mpr List.nil_prefix, ?_⟩
      rw [relativePath, uploadKey_toList (tree.names file member)]
      rfl
  | some text =>
      have back := (regular text rfl).relativePath_uploadKey (tree.path_ne_nil file member)
        (tree.names file member)
      exact ⟨List.isPrefixOf_iff_prefix.mpr back.1, back.2⟩

/-- What is listed after uploads are the first keys of the files. -/
theorem listedKeys_of_uploaded {files : List SourceFile}
    (uploaded : Uploaded connection keyPrefix files objects objects')
    (alone : Alone keyPrefix files objects) :
    listedKeys objects' keyPrefix = firstKeys (uploadKeys keyPrefix files) keyPrefix := by
  have same : (objects'.keys.toFinset.filter fun key => startsWith key (keyPrefix.getD "")) =
      (uploadKeys keyPrefix files).toFinset.filter fun key =>
        startsWith key (keyPrefix.getD "") := by
    ext key
    rw [Finset.mem_filter, Finset.mem_filter, List.mem_toFinset, List.mem_toFinset]
    refine and_congr_left fun starts => ⟨fun present => ?_, fun member => ?_⟩
    · exact mem_uploadKeys_of_startsWith uploaded alone present starts
    · obtain ⟨file, known, rfl⟩ := List.mem_map.mp member
      obtain ⟨object, stored, -⟩ := uploaded.stored file known
      exact AList.lookup_isSome.mp (by rw [stored]; rfl)
  rw [listedKeys, firstKeys, firstKeys, orderedKeys, orderedKeys, same]

/-- At most a thousand files with a regular prefix are all listed. -/
theorem mem_listedKeys_of_regular
    (uploaded : Uploaded connection keyPrefix tree.files objects objects')
    (alone : Alone keyPrefix tree.files objects)
    (few : tree.files.length ≤ 1000) (regular : ∀ text ∈ keyPrefix, RegularPrefix text)
    {file : SourceFile} (member : file ∈ tree.files) :
    uploadKey keyPrefix file.path ∈ listedKeys objects' keyPrefix := by
  have only : ∀ key ∈ (objects'.keys.toFinset.filter fun key =>
      startsWith key (keyPrefix.getD "")).sort, key ∈ uploadKeys keyPrefix tree.files := by
    intro key listed
    rw [Finset.mem_sort, Finset.mem_filter, List.mem_toFinset] at listed
    exact mem_uploadKeys_of_startsWith uploaded alone listed.1 listed.2
  have bounded := (List.subperm_of_subset (Finset.sort_nodup _ _) only).length_le
  rw [uploadKeys, List.length_map] at bounded
  rw [listedKeys, firstKeys, orderedKeys, List.take_of_length_le (bounded.trans few), Finset.mem_sort,
    Finset.mem_filter, List.mem_toFinset]
  obtain ⟨object, stored, -⟩ := uploaded.stored file member
  refine ⟨?_, (startsWith_uploadKey regular member).1⟩
  exact AList.lookup_isSome.mp (by rw [stored]; rfl)

/-- With a regular prefix the listed keys lead back to the paths of their files. -/
theorem Shown.leads_back (shown : Shown answers keyPrefix (listedKeys objects' keyPrefix)
      (dataOfKey objects'))
    (regular : ∀ text ∈ keyPrefix, RegularPrefix text) {file : SourceFile}
    (member : file ∈ tree.files)
    (listed : uploadKey keyPrefix file.path ∈ listedKeys objects' keyPrefix) :
    pathNames (restOf keyPrefix (uploadKey keyPrefix file.path)) = file.path ∧
      endsAtDirectory (restOf keyPrefix (uploadKey keyPrefix file.path)) = false := by
  have path_ne_nil := tree.path_ne_nil file member
  have names := tree.names file member
  have leads := shown.leads listed
  rw [(startsWith_uploadKey regular member).2] at leads
  refine ⟨?_, ?_⟩
  · have joined := leads.1
    unfold joinOutput at joined
    split at joined
    · exact nomatch joined
    · rw [Option.some.injEq, pathNames_relativeOf path_ne_nil names] at joined
      exact joined.symm
  · rw [← leads.2, endsAtDirectory_relativeOf path_ne_nil names]

theorem Shown.keysApart_of_regular
    (shown : Shown answers keyPrefix (listedKeys objects' keyPrefix) (dataOfKey objects'))
    (uploaded : Uploaded connection keyPrefix tree.files objects objects')
    (alone : Alone keyPrefix tree.files objects)
    (regular : ∀ text ∈ keyPrefix, RegularPrefix text) :
    KeysApart keyPrefix (listedKeys objects' keyPrefix) := by
  constructor
  · intro key listed
    obtain ⟨file, member, rfl⟩ := exists_file_of_listed uploaded alone listed
    exact (shown.leads_back regular member listed).2
  · rw [List.pairwise_map]
    refine (listedKeys_nodup objects' keyPrefix).imp_of_mem ?_
    intro key other listed listed' differs
    obtain ⟨file, member, rfl⟩ := exists_file_of_listed uploaded alone listed
    obtain ⟨file', member', rfl⟩ := exists_file_of_listed uploaded alone listed'
    rw [(shown.leads_back regular member listed).1, (shown.leads_back regular member' listed').1]
    constructor
    · intro below
      exact differs (congrArg _ (tree.apart file member file' member' below))
    · intro below
      exact differs (congrArg _ (tree.apart file' member' file member below).symm)

/-- An uploaded directory comes back exactly if it has no files, or at most a thousand and a regular
prefix. -/
theorem Shown.recreates_iff
    (shown : Shown answers keyPrefix (listedKeys objects' keyPrefix) (dataOfKey objects'))
    (uploaded : Uploaded connection keyPrefix tree.files objects objects')
    (alone : Alone keyPrefix tree.files objects) :
    Recreates tree.files (downloadPrefix answers keyPrefix) ↔
      ComesBack keyPrefix tree.files := by
  constructor
  · intro recreates
    by_cases nothing : tree.files = []
    · exact .inl nothing
    obtain ⟨first, member⟩ := List.exists_mem_of_ne_nil _ nothing
    have present : ∀ file ∈ tree.files,
        file.path ∈ (downloadPrefix answers keyPrefix).files := by
      intro file member
      rw [← AList.lookup_isSome, recreates.contents file member]
      rfl
    refine .inr ⟨?_, ?_⟩
    · -- every path is that of a listed key, and at most a thousand are listed
      have only : tree.files.map SourceFile.path ⊆
          (listedKeys objects' keyPrefix).map fun key => pathNames (restOf keyPrefix key) := by
        intro path member
        obtain ⟨file, known, rfl⟩ := List.mem_map.mp member
        obtain ⟨key, listed, leads⟩ := shown.exists_listed (present file known)
        exact List.mem_map.mpr ⟨key, listed, leads⟩
      have bounded := (List.subperm_of_subset tree.distinct only).length_le
      rw [List.length_map, List.length_map] at bounded
      exact bounded.trans (List.length_take_le _ _)
    · intro text given
      obtain ⟨key, listed, -⟩ := shown.exists_listed (present first member)
      obtain ⟨file, member', rfl⟩ := exists_file_of_listed uploaded alone listed
      have starts := (mem_of_mem_listedKeys listed).2
      obtain rfl := Option.mem_def.mp given
      exact regularPrefix_of_startsWith (tree.path_ne_nil file member') (tree.names file member')
        (of_validateObjectKey (shown.valid _ listed)).2 (List.isPrefixOf_iff_prefix.mp starts)
  · rintro (nothing | ⟨few, regular⟩)
    · have none_listed : ∀ path, path ∉ (downloadPrefix answers keyPrefix).files := by
        intro path member
        obtain ⟨key, listed, -⟩ := shown.exists_listed member
        obtain ⟨file, known, -⟩ := exists_file_of_listed uploaded alone listed
        rw [nothing] at known
        exact nomatch known
      constructor
      · intro file member
        rw [nothing] at member
        exact nomatch member
      · exact fun path member => absurd member (none_listed path)
    · have apart := shown.keysApart_of_regular uploaded alone regular
      constructor
      · intro file member
        have listed := mem_listedKeys_of_regular uploaded alone few regular member
        have written := shown.written apart listed
        obtain ⟨object, stored, data, -⟩ := uploaded.stored file member
        rw [(shown.leads_back regular member listed).1, dataOfKey, stored] at written
        rw [written, ← data]
        rfl
      · intro path member
        obtain ⟨key, listed, rfl⟩ := shown.exists_listed member
        obtain ⟨file, known, rfl⟩ := exists_file_of_listed uploaded alone listed
        exact ⟨file, known, (shown.leads_back regular known listed).1.symm⟩

end

/-! ## Every directory and every bucket -/

/-- The gateway after some requests. -/
def served (connection : Connection) (requests : List S3Request) : MemoryBuckets :=
  runAll (fun state request =>
    (S3Handlers.serve connection.md5 connection.rfc3339 state request).1) .empty requests

section

variable {connection : Connection} {bucket : String} {keyPrefix : Option String}

/-- In memory mode an uploaded directory comes back exactly if it has no files, or at most a thousand
and a regular prefix. -/
theorem recreates_iff_of_memory (plain : connection.Plain) (tree : SourceTree)
    {state : MemoryBuckets} {objects : StoredObjects}
    (found : state.memoryBuckets.lookup bucket = some objects)
    (alone : Alone keyPrefix tree.files objects)
    (succeed : UploadsSucceed (uploadFile connection bucket) state keyPrefix tree.files)
    (delivers : connection.Delivers bucket keyPrefix (uploadKeys keyPrefix tree.files))
    (legible : Legible bucket keyPrefix
      (firstKeys (uploadKeys keyPrefix tree.files) keyPrefix)) :
    Recreates tree.files
        (downloadPrefix
          (memoryAnswers connection
            (uploadDirectory (uploadFile connection bucket) state keyPrefix tree.files) bucket
            keyPrefix)
          keyPrefix) ↔
      ComesBack keyPrefix tree.files := by
  obtain ⟨objects', found', uploaded⟩ :=
    uploaded_of_succeed found (tree.uploadKeys_nodup keyPrefix) delivers.object succeed
  have fewer : listedKeys objects' keyPrefix ⊆ uploadKeys keyPrefix tree.files := by
    intro key listed
    exact List.mem_map.mpr (exists_file_of_listed uploaded alone listed)
  refine Shown.recreates_iff (shown_of_accepted plain found' ?_ (delivers.mono fewer)
    (listedKeys_of_uploaded uploaded alone ▸ legible)) uploaded alone
  intro key listed object stored
  obtain ⟨file, member, rfl⟩ := exists_file_of_listed uploaded alone listed
  obtain ⟨object', stored', -, accepted⟩ := uploaded.stored file member
  rw [stored, Option.some.injEq] at stored'
  exact stored' ▸ accepted

/-- In memory mode every listed object gets a file of its own exactly if the keys are apart behind
the prefix. -/
theorem writesApart_iff_of_memory (plain : connection.Plain) (requests : List S3Request)
    {objects : StoredObjects}
    (found : (served connection requests).memoryBuckets.lookup bucket = some objects)
    (delivers : connection.Delivers bucket keyPrefix (listedKeys objects keyPrefix))
    (legible : Legible bucket keyPrefix (listedKeys objects keyPrefix)) :
    WritesApart (memoryAnswers connection (served connection requests) bucket keyPrefix)
        keyPrefix ↔
      KeysApart keyPrefix (listedKeys objects keyPrefix) :=
  (shown_of_accepted plain found
    (fun key _ object stored =>
      MemoryBuckets.allAccepted_runAll requests bucket objects found key object stored)
    delivers legible).writesApart_iff

end

end CyxCloud.Cli
