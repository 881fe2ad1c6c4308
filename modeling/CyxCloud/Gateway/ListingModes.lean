import CyxCloud.Gateway.Degraded
import CyxCloud.Gateway.MemoryBuckets
import CyxCloud.Gateway.Reference
import CyxCloud.Library.Ranking

/-!
# Listings in both modes

A listing in memory mode shows the keys of a bucket.  In metadata mode it shows the paths of its
files, which are matched as patterns of the database and counted with repetition.
-/

namespace CyxCloud.Gateway

open CyxCloud.Core hiding Chunk
open Library Metadata

/-- A call that puts an object into a bucket. -/
structure PutCall where
  env : PutEnv
  userId : Uuid
  key : String
  data : Bytes
  contentType : String

/-- The gateway in both modes. -/
structure BothModes where
  cluster : Cluster
  memory : MemoryBuckets

namespace BothModes

section

variable (ext : Externals) (md5 : Bytes → String) (bucket : String)

/-- Both modes serve the same put. -/
def put (modes : BothModes) (call : PutCall) : BothModes where
  cluster :=
    (putObject ext call.env modes.cluster call.userId bucket call.key call.data call.contentType).1
  memory :=
    (modes.memory.putObject md5 call.env.now bucket call.key call.data call.contentType).1

/-- Both modes acknowledge a put. -/
structure Acknowledges (modes : BothModes) (call : PutCall) : Prop where
  cluster : ∃ etag,
    (putObject ext call.env modes.cluster call.userId bucket call.key call.data
      call.contentType).2 = .ok etag
  memory : ∃ etag,
    (modes.memory.putObject md5 call.env.now bucket call.key call.data call.contentType).2 =
      .ok etag

/-- The bucket is there in memory mode, and no object was put into it. -/
structure Vacant (modes : BothModes) : Prop where
  memory : modes.memory.memoryBuckets.lookup bucket = some ∅
  cluster : ∀ file ∈ modes.cluster.db.files, file.bucket ≠ some bucket

end

end BothModes

/-! ## What a listing should show -/

/-- The keys with a prefix in byte order, each once. -/
def keysWithPrefix (keys : List String) (keyPrefix : String) : List String :=
  orderedKeys keys.toFinset keyPrefix

/-- The paths of the keys that match a prefix as a pattern, in byte order and with repetition. -/
def pathsLike (bucket : String) (keys : List String) (keyPrefix : String) : List String :=
  ((keys.map (objectPath bucket)).filter fun path =>
    Database.sqlLike (keyPrefix.toList ++ ['%']) path.toList).mergeSort fun left right =>
      decide (left ≤ right)

/-- The first keys with a prefix, and whether there are more. -/
def keyListing (keys : List String) (keyPrefix : String) (maxKeys : Nat) : List String × Bool :=
  ((keysWithPrefix keys keyPrefix).take maxKeys,
    decide (maxKeys < (keysWithPrefix keys keyPrefix).length))

/-- Keys and flag of a listing. -/
def shownKeys (listing : List ObjectInfo × Bool) : List String × Bool :=
  (listing.1.map ObjectInfo.key, listing.2)

/-- Both modes list the keys of a bucket. -/
structure BothModes.ListsKeys (bucket : String) (keys : List String) (keyPrefix : String)
    (maxKeys : Nat) (modes : BothModes) : Prop where
  memory : (modes.memory.listObjects bucket keyPrefix maxKeys).map shownKeys =
    .ok (keyListing keys keyPrefix maxKeys)
  metadata : ∀ fileOrder,
    (listObjects fileOrder modes.cluster.db bucket keyPrefix maxKeys).map shownKeys =
      .ok (keyListing keys keyPrefix maxKeys)

/-- Number of puts whose path matches the prefix as a pattern and is one of some texts. -/
def pathCount (bucket : String) (keys : List String) (keyPrefix : String)
    (texts : String → Bool) : Nat :=
  keys.countP fun key =>
    Database.sqlLike (keyPrefix.toList ++ ['%']) (objectPath bucket key).toList &&
      texts (objectPath bucket key)

/-- Number of keys with the prefix that are one of some texts. -/
def keyCount (keys : List String) (keyPrefix : String) (texts : String → Bool) : Nat :=
  (keys.toFinset.filter fun key => startsWith key keyPrefix && texts key).card

/-- Every text has as many places among the first matching paths as among the first keys with the
prefix, and enough paths match to fill the listing exactly if there are more keys. -/
structure PathsPassForKeys (bucket : String) (keys : List String) (keyPrefix : String)
    (maxKeys : Nat) : Prop where
  entries : ∀ text, min (pathCount bucket keys keyPrefix fun path => path == text)
      (maxKeys - pathCount bucket keys keyPrefix fun path => decide (path < text)) =
    min (keyCount keys keyPrefix fun key => key == text)
      (maxKeys - keyCount keys keyPrefix fun key => decide (key < text))
  flag : maxKeys ≤ (pathCount bucket keys keyPrefix fun _ => true) ↔
    maxKeys < keyCount keys keyPrefix fun _ => true

/-- The database can be asked for the prefix in the bucket. -/
def Askable (bucket keyPrefix : String) : Prop :=
  Database.isText bucket = true ∧ Database.isText keyPrefix = true

instance (bucket keyPrefix : String) : Decidable (Askable bucket keyPrefix) :=
  inferInstanceAs (Decidable (_ ∧ _))

/-! ## The rows and objects of a bucket -/

/-- The live files of a bucket in the order of their rows. -/
def liveFilesOf (db : Database) (bucket : String) : List File :=
  db.files.filter fun file => file.bucket == some bucket && file.isLive

/-- After puts of some keys the bucket holds exactly these. -/
structure BothModes.Holds (bucket : String) (keys : List String) (modes : BothModes) : Prop where
  memory : ∃ objects, modes.memory.memoryBuckets.lookup bucket = some objects ∧
    objects.keys.toFinset = keys.toFinset
  metadata : (liveFilesOf modes.cluster.db bucket).map File.path = keys.map (objectPath bucket)

section

variable {ext : Externals} {encoder : ErasureEncoder} {md5 : Bytes → String} {bucket : String}
  {keys : List String} {modes : BothModes}

theorem BothModes.Vacant.holds (vacant : modes.Vacant bucket) : modes.Holds bucket [] where
  memory := ⟨∅, vacant.memory, rfl⟩
  metadata := by
    rw [liveFilesOf, List.filter_eq_nil_iff.mpr, List.map_nil, List.map_nil]
    intro file member
    simp [vacant.cluster file member]

theorem MemoryBuckets.lookup_of_put_ok {state : MemoryBuckets} {now : Time} {key : String}
    {data : Bytes} {contentType etag : String} {objects : StoredObjects}
    (found : state.memoryBuckets.lookup bucket = some objects)
    (ok : (state.putObject md5 now bucket key data contentType).2 = .ok etag) :
    ∃ object, (state.putObject md5 now bucket key data contentType).1.memoryBuckets.lookup bucket =
      some (objects.insert key object) := by
  revert ok
  unfold putObject insertObject
  split
  · exact fun ok => nomatch ok
  · intro ok
    simp only [found, AList.lookup_insert]
    exact ⟨_, rfl⟩

theorem keys_insert_toFinset (objects : StoredObjects) (key : String) (object : StoredObject) :
    (AList.insert key object objects).keys.toFinset = insert key objects.keys.toFinset := by
  ext other
  simp only [List.mem_toFinset, ← AList.mem_keys, AList.mem_insert, Finset.mem_insert]

/-- An acknowledged put adds its key. -/
theorem BothModes.Holds.put (lawful : ext.Lawful)
    (built : ErasureEncoder.new ext.reedSolomon = .ok encoder) (holds : modes.Holds bucket keys)
    {call : PutCall} (acknowledged : modes.Acknowledges ext md5 bucket call) :
    (modes.put ext md5 bucket call).Holds bucket (keys ++ [call.key]) := by
  constructor
  · obtain ⟨objects, found, keys_eq⟩ := holds.memory
    obtain ⟨etag, ok⟩ := acknowledged.memory
    obtain ⟨object, found'⟩ := MemoryBuckets.lookup_of_put_ok found ok
    refine ⟨_, found', ?_⟩
    rw [keys_insert_toFinset, keys_eq, List.toFinset_append, List.toFinset_cons,
      List.toFinset_nil, Finset.union_comm]
    rfl
  · obtain ⟨etag, ok⟩ := acknowledged.cluster
    obtain ⟨nodes, registers, stored, -⟩ :=
      putObject_ok built (gatewayEncoder_of_new lawful built) ok
    have rows := stored.grows.files_eq
    simp only [liveFilesOf, BothModes.put, rows, List.filter_append, List.map_append]
    rw [← liveFilesOf, holds.metadata]
    simp [fileRow, File.isLive]

/-- After acknowledged puts the bucket holds their keys. -/
theorem BothModes.Holds.runAll (lawful : ext.Lawful)
    (built : ErasureEncoder.new ext.reedSolomon = .ok encoder) (holds : modes.Holds bucket keys)
    {calls : List PutCall}
    (acknowledged : EveryStep (BothModes.put ext md5 bucket)
      (BothModes.Acknowledges ext md5 bucket) modes calls) :
    (Library.runAll (BothModes.put ext md5 bucket) modes calls).Holds bucket
      (keys ++ calls.map PutCall.key) := by
  induction calls generalizing modes keys with
  | nil => simpa using holds
  | cons call calls induction =>
      have later := induction (holds.put lawful built acknowledged.1) acknowledged.2
      rwa [List.append_assoc] at later

/-! ## Listings -/

theorem shownKeys_memory {keyPrefix : String} {maxKeys : Nat} (within : maxKeys ≤ 1000)
    (holds : modes.Holds bucket keys) :
    (modes.memory.listObjects bucket keyPrefix maxKeys).map shownKeys =
      .ok (keyListing keys keyPrefix maxKeys) := by
  obtain ⟨objects, found, keys_eq⟩ := holds.memory
  have count : asUsize maxKeys = maxKeys := by
    rw [asUsize_of_nonneg (Int.natCast_nonneg maxKeys) (by omega), Int.toNat_natCast]
  have names : (objects.infosFrom keyPrefix).map ObjectInfo.key =
      keysWithPrefix keys keyPrefix := by
    rw [StoredObjects.keys_infosFrom, keys_eq, keysWithPrefix, orderedKeys]
  have counted := congrArg List.length names
  rw [List.length_map] at counted
  simp only [MemoryBuckets.listObjects, found, Except.map, shownKeys, keyListing, count,
    List.map_take, names, counted, gt_iff_lt]

/-- Sorting rows by their paths sorts the paths. -/
theorem paths_mergeSort (fileOrder : RowOrder File) (files : List File) :
    ((fileOrder.arrange files).mergeSort fun left right =>
        decide (left.path ≤ right.path)).map File.path =
      (files.map File.path).mergeSort fun left right => decide (left ≤ right) := by
  have rows : ((fileOrder.arrange files).mergeSort fun left right =>
      decide (left.path ≤ right.path)).Perm files :=
    (List.mergeSort_perm _ _).trans (fileOrder.arrange_perm _)
  refine List.Perm.eq_of_pairwise' (r := (· ≤ ·)) ?_ ?_
    ((rows.map File.path).trans (List.mergeSort_perm _ _).symm)
  · rw [List.pairwise_map]
    exact pairwise_mergeSort_by File.path (fileOrder.arrange files)
  · exact List.pairwise_mergeSort' (· ≤ ·) _

/-- The paths of the rows that match a prefix, whatever order these are delivered in. -/
theorem paths_matchingFiles (fileOrder : RowOrder File) (db : Database) (bucket keyPrefix : String)
    (limit : Nat) :
    (db.matchingFiles fileOrder bucket keyPrefix limit).map File.path =
      ((((liveFilesOf db bucket).map File.path).filter fun path =>
        Database.sqlLike (keyPrefix.toList ++ ['%']) path.toList).mergeSort fun left right =>
          decide (left ≤ right)).take limit := by
  have rows : (db.files.filter fun file =>
      file.bucket == some bucket && Database.sqlLike (keyPrefix.toList ++ ['%']) file.path.toList &&
        file.isLive) =
      (liveFilesOf db bucket).filter fun file =>
        Database.sqlLike (keyPrefix.toList ++ ['%']) file.path.toList := by
    rw [liveFilesOf, List.filter_filter]
    refine List.filter_congr fun file _ => ?_
    cases file.bucket == some bucket <;> cases file.isLive <;> simp
  rw [Database.matchingFiles, List.map_take, rows, paths_mergeSort, List.filter_map]
  rfl

/-- In metadata mode a listing shows matching paths, and tells that there may be more if there are
enough. -/
theorem shownKeys_metadata {keyPrefix : String} (askable : Askable bucket keyPrefix) (maxKeys : Nat)
    (holds : modes.Holds bucket keys) (fileOrder : RowOrder File) :
    (listObjects fileOrder modes.cluster.db bucket keyPrefix maxKeys).map shownKeys =
      .ok ((pathsLike bucket keys keyPrefix).take maxKeys,
        decide (maxKeys ≤ (pathsLike bucket keys keyPrefix).length)) := by
  have listed : modes.cluster.db.listFilesInBucket fileOrder bucket keyPrefix maxKeys =
      .ok (modes.cluster.db.matchingFiles fileOrder bucket keyPrefix maxKeys) := by
    simp [Database.listFilesInBucket, askable.1, askable.2]
  have paths : ((modes.cluster.db.matchingFiles fileOrder bucket keyPrefix maxKeys).map
      File.path) = (pathsLike bucket keys keyPrefix).take maxKeys := by
    rw [paths_matchingFiles, holds.metadata, pathsLike]
  have counted := congrArg List.length paths
  rw [List.length_map, List.length_take] at counted
  have enough : decide (maxKeys ≤ min maxKeys (pathsLike bucket keys keyPrefix).length) =
      decide (maxKeys ≤ (pathsLike bucket keys keyPrefix).length) := by
    simp only [le_min_iff, le_refl, true_and]
  simp only [listObjects, listed, Int.toNat_natCast, Except.map, shownKeys, List.map_map,
    Function.comp_def, paths, List.length_map, counted, ge_iff_le, enough]

/-- What is no text the database refuses to look for. -/
theorem listObjects_of_not_askable {keyPrefix : String} (refused : ¬ Askable bucket keyPrefix)
    (fileOrder : RowOrder File) (db : Database) (maxKeys : Int) :
    listObjects fileOrder db bucket keyPrefix maxKeys =
      .error (.internal (.database .invalidText)) := by
  have texts : (Database.isText bucket && Database.isText keyPrefix) = false := by
    rw [← Bool.not_eq_true, Bool.and_eq_true]
    exact refused
  simp [listObjects, Database.listFilesInBucket, texts]

theorem pathsLike_countP (bucket : String) (keys : List String) (keyPrefix : String)
    (texts : String → Bool) :
    (pathsLike bucket keys keyPrefix).countP texts = pathCount bucket keys keyPrefix texts := by
  rw [pathsLike, (List.mergeSort_perm _ _).countP_eq, List.countP_filter, List.countP_map, pathCount]
  refine List.countP_congr fun key _ => ?_
  rw [Function.comp_apply, Bool.and_comm]

theorem keysWithPrefix_countP (keys : List String) (keyPrefix : String) (texts : String → Bool) :
    (keysWithPrefix keys keyPrefix).countP texts = keyCount keys keyPrefix texts := by
  have distinct : ((keysWithPrefix keys keyPrefix).filter texts).Nodup := by
    rw [keysWithPrefix, orderedKeys]
    exact (Finset.sort_nodup _ _).filter _
  rw [List.countP_eq_length_filter, ← List.toFinset_card_of_nodup distinct, keyCount]
  congr 1
  ext key
  simp [keysWithPrefix, orderedKeys, and_assoc]

/-- Paths pass for keys exactly if the listings agree. -/
theorem pathsPassForKeys_iff {keyPrefix : String} {maxKeys : Nat} :
    PathsPassForKeys bucket keys keyPrefix maxKeys ↔
      (pathsLike bucket keys keyPrefix).take maxKeys = (keysWithPrefix keys keyPrefix).take maxKeys ∧
        (maxKeys ≤ (pathsLike bucket keys keyPrefix).length ↔
          maxKeys < (keysWithPrefix keys keyPrefix).length) := by
  have sorted : (pathsLike bucket keys keyPrefix).Pairwise (· ≤ ·) :=
    List.pairwise_mergeSort' (· ≤ ·) _
  have sorted' : (keysWithPrefix keys keyPrefix).Pairwise (· ≤ ·) := by
    rw [keysWithPrefix, orderedKeys]
    exact Finset.pairwise_sort _ _
  have paths := pathsLike_countP bucket keys keyPrefix
  have names := keysWithPrefix_countP keys keyPrefix
  rw [take_eq_take_iff sorted sorted', ← List.countP_true]
  simp only [List.count, paths, names]
  exact ⟨fun ⟨entries, flag⟩ => ⟨entries, flag⟩, fun ⟨entries, flag⟩ => ⟨entries, flag⟩⟩

theorem BothModes.Holds.listing_iff (holds : modes.Holds bucket keys) (keyPrefix : String)
    {maxKeys : Nat} (within : maxKeys ≤ 1000) :
    modes.ListsKeys bucket keys keyPrefix maxKeys ↔
      Askable bucket keyPrefix ∧ PathsPassForKeys bucket keys keyPrefix maxKeys := by
  have agree : (Except.ok ((pathsLike bucket keys keyPrefix).take maxKeys,
        decide (maxKeys ≤ (pathsLike bucket keys keyPrefix).length)) : Except S3Error _) =
      .ok (keyListing keys keyPrefix maxKeys) ↔
        PathsPassForKeys bucket keys keyPrefix maxKeys := by
    rw [Except.ok.injEq, keyListing, Prod.mk.injEq, decide_eq_decide, pathsPassForKeys_iff]
  constructor
  · intro lists
    have shown := lists.metadata .insertion
    by_cases askable : Askable bucket keyPrefix
    · rw [shownKeys_metadata askable maxKeys holds] at shown
      exact ⟨askable, agree.mp shown⟩
    · rw [listObjects_of_not_askable askable] at shown
      cases shown
  · rintro ⟨askable, pass⟩
    refine ⟨shownKeys_memory within holds, fun fileOrder => ?_⟩
    rw [shownKeys_metadata askable maxKeys holds]
    exact agree.mpr pass

end

/-! ## Keys that do not repeat the name of the bucket -/

section

variable {bucket keyPrefix : String} {keys : List String} {maxKeys : Nat}

theorem mem_keysWithPrefix {key : String} :
    key ∈ keysWithPrefix keys keyPrefix ↔ key ∈ keys ∧ startsWith key keyPrefix = true := by
  rw [keysWithPrefix, orderedKeys, Finset.mem_sort, Finset.mem_filter, List.mem_toFinset]

theorem mem_pathsLike {path : String} :
    path ∈ pathsLike bucket keys keyPrefix ↔
      (∃ key ∈ keys, objectPath bucket key = path) ∧
        Database.sqlLike (keyPrefix.toList ++ ['%']) path.toList = true := by
  rw [pathsLike, List.mem_mergeSort, List.mem_filter, List.mem_map]

theorem startsWith_objectPath (bucket key : String) :
    startsWith (objectPath bucket key) (bucket ++ "/") = true := by
  simp [startsWith, objectPath, String.toList_append]

/-- Nothing is listed in either mode, or nothing is asked for and a key has the prefix. -/
def NothingToShow (bucket : String) (keys : List String) (keyPrefix : String) (maxKeys : Nat) :
    Prop :=
  (maxKeys = 0 ∧ ∃ key ∈ keys, startsWith key keyPrefix = true) ∨
    (0 < maxKeys ∧ ∀ key ∈ keys, startsWith key keyPrefix = false ∧
      Database.sqlLike (keyPrefix.toList ++ ['%']) (objectPath bucket key).toList = false)

instance : Decidable (NothingToShow bucket keys keyPrefix maxKeys) :=
  inferInstanceAs (Decidable (_ ∨ _))

/-- If no key starts with the name of the bucket, paths never pass for keys. -/
theorem pathsPassForKeys_iff_nothingToShow
    (apart : ∀ key ∈ keys, startsWith key (bucket ++ "/") = false) :
    PathsPassForKeys bucket keys keyPrefix maxKeys ↔
      NothingToShow bucket keys keyPrefix maxKeys := by
  rw [pathsPassForKeys_iff]
  rcases Nat.eq_zero_or_pos maxKeys with rfl | asked
  · simp only [NothingToShow, List.take_zero, Nat.zero_le, true_iff, true_and,
      List.length_pos_iff_exists_mem, mem_keysWithPrefix, lt_irrefl, false_and, or_false]
  constructor
  · rintro ⟨same, enough⟩
    have no_key : keysWithPrefix keys keyPrefix = [] := by
      cases names : keysWithPrefix keys keyPrefix with
      | nil => rfl
      | cons key others =>
          -- the first key listed would be a path
          have listed : key ∈ (pathsLike bucket keys keyPrefix).take maxKeys := by
            rw [same, names]
            exact List.mem_take_iff_getElem.mpr ⟨0, by simpa using asked, rfl⟩
          obtain ⟨⟨key', _, path_eq⟩, _⟩ := mem_pathsLike.mp (List.mem_of_mem_take listed)
          have member : key ∈ keysWithPrefix keys keyPrefix := by
            rw [names]
            exact List.mem_cons_self
          have under := startsWith_objectPath bucket key'
          rw [path_eq, apart key (mem_keysWithPrefix.mp member).1] at under
          exact nomatch under
    have no_path : pathsLike bucket keys keyPrefix = [] := by
      rw [no_key, List.take_nil] at same
      have short : (pathsLike bucket keys keyPrefix).length < maxKeys := by
        rw [no_key] at enough
        simpa using enough
      rwa [List.take_of_length_le short.le] at same
    refine .inr ⟨asked, fun key member => ⟨?_, ?_⟩⟩
    · by_contra starts
      have listed := mem_keysWithPrefix.mpr ⟨member, by simpa using starts⟩
      rw [no_key] at listed
      exact List.not_mem_nil listed
    · by_contra matched
      have listed : objectPath bucket key ∈ pathsLike bucket keys keyPrefix :=
        mem_pathsLike.mpr ⟨⟨key, member, rfl⟩, by simpa using matched⟩
      rw [no_path] at listed
      exact List.not_mem_nil listed
  · rintro (⟨nothing, -⟩ | ⟨-, none_listed⟩)
    · omega
    · have no_key : keysWithPrefix keys keyPrefix = [] := by
        refine List.eq_nil_iff_forall_not_mem.mpr fun key listed => ?_
        obtain ⟨member, starts⟩ := mem_keysWithPrefix.mp listed
        rw [(none_listed key member).1] at starts
        exact nomatch starts
      have no_path : pathsLike bucket keys keyPrefix = [] := by
        refine List.eq_nil_iff_forall_not_mem.mpr fun path listed => ?_
        obtain ⟨⟨key, member, rfl⟩, matched⟩ := mem_pathsLike.mp listed
        rw [(none_listed key member).2] at matched
        exact nomatch matched
      refine ⟨by rw [no_key, no_path], ?_⟩
      rw [no_key, no_path]
      simp only [List.length_nil, Nat.not_lt_zero, iff_false]
      omega

end

/-! ## Puts into an empty bucket -/

section

variable {ext : Externals} {encoder : ErasureEncoder} {md5 : Bytes → String} {bucket : String}
  {modes : BothModes} {calls : List PutCall}

/-- After acknowledged puts into an empty bucket both modes list its keys exactly if the database can
be asked for them and paths pass for keys; if no key starts with the name of the bucket, exactly if
it can be asked and there is nothing to show. -/
theorem BothModes.listsKeys_iff (lawful : ext.Lawful)
    (built : ErasureEncoder.new ext.reedSolomon = .ok encoder) (vacant : modes.Vacant bucket)
    (acknowledged : EveryStep (BothModes.put ext md5 bucket)
      (BothModes.Acknowledges ext md5 bucket) modes calls)
    (keyPrefix : String) {maxKeys : Nat} (within : maxKeys ≤ 1000) :
    ((runAll (BothModes.put ext md5 bucket) modes calls).ListsKeys bucket
        (calls.map PutCall.key) keyPrefix maxKeys ↔
      Askable bucket keyPrefix ∧
        PathsPassForKeys bucket (calls.map PutCall.key) keyPrefix maxKeys) ∧
    ((∀ call ∈ calls, startsWith call.key (bucket ++ "/") = false) →
      ((runAll (BothModes.put ext md5 bucket) modes calls).ListsKeys bucket
          (calls.map PutCall.key) keyPrefix maxKeys ↔
        Askable bucket keyPrefix ∧
          NothingToShow bucket (calls.map PutCall.key) keyPrefix maxKeys)) := by
  have holds := vacant.holds.runAll lawful built acknowledged
  have lists := holds.listing_iff keyPrefix within
  refine ⟨lists, fun apart => ?_⟩
  refine lists.trans (and_congr_right fun _ =>
    pathsPassForKeys_iff_nothingToShow fun key member => ?_)
  obtain ⟨call, called, rfl⟩ := List.mem_map.mp member
  exact apart call called

end

namespace Reference

/-- Both modes with an empty bucket. -/
def emptyBucket : BothModes where
  cluster := emptyCluster
  memory :=
    { memoryBuckets := (∅ : Dictionary String StoredObjects).insert "photos" ∅
      memoryBytesUsed := 0 }

/-- Put the ten digits as a cat. -/
def putCat : PutCall where
  env := calmEnv 1
  userId := 7
  key := "cat"
  data := tenDigits
  contentType := "image/png"

theorem emptyBucket_vacant : emptyBucket.Vacant "photos" where
  memory := AList.lookup_insert _
  cluster := fun _ member => nomatch member

theorem putCat_acknowledged :
    EveryStep (BothModes.put externals (fun _ => "") "photos")
      (BothModes.Acknowledges externals (fun _ => "") "photos") emptyBucket [putCat] :=
  ⟨⟨⟨_, first_put_ok 1 tenDigits⟩, ⟨"", by decide⟩⟩, trivial⟩

end Reference

/-- A listing of other keys than those that start with `cat` is empty in both modes. -/
theorem BothModes.listsKeys_of_other_prefix :
    (runAll (BothModes.put Reference.externals (fun _ => "") "photos") Reference.emptyBucket
      [Reference.putCat]).ListsKeys "photos" ["cat"] "dog" 10 := by
  refine ((BothModes.listsKeys_iff Reference.externals_lawful Reference.encoder_built
    Reference.emptyBucket_vacant Reference.putCat_acknowledged "dog" (by decide)).2 ?_).mpr ?_
  · decide
  · decide

/-- A listing of the bucket shows a path instead of the key in metadata mode. -/
theorem BothModes.not_listsKeys_of_putCat :
    EveryStep (BothModes.put Reference.externals (fun _ => "") "photos")
        (BothModes.Acknowledges Reference.externals (fun _ => "") "photos") Reference.emptyBucket
        [Reference.putCat] ∧
      ¬ (runAll (BothModes.put Reference.externals (fun _ => "") "photos") Reference.emptyBucket
        [Reference.putCat]).ListsKeys "photos" ["cat"] "" 10 := by
  refine ⟨Reference.putCat_acknowledged, fun lists => ?_⟩
  have holds := Reference.emptyBucket_vacant.holds.runAll Reference.externals_lawful
    Reference.encoder_built Reference.putCat_acknowledged
  have passes := ((holds.listing_iff "" (by decide)).mp lists).2
  have nothing := (pathsPassForKeys_iff_nothingToShow (by decide)).mp passes
  exact absurd nothing (by decide)

end CyxCloud.Gateway
