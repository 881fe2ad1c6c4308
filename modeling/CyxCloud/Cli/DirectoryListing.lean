import CyxCloud.Cli.DirectoryKeys
import CyxCloud.Cli.ListingKeys
import CyxCloud.Gateway.AcceptedObjects

/-!
# Listings for downloads

The client sees the first thousand keys with its prefix, if these reach the gateway as they are and
none of them, nor bucket or prefix, is taken for the tags of a key.
-/

namespace CyxCloud.Cli

open CyxCloud.Core hiding Chunk
open Library Gateway

/-- Times and digests are written without tags. -/
structure Connection.Plain (connection : Connection) : Prop where
  rfc3339 : ∀ time, '<' ∉ (connection.rfc3339 time).toList
  md5 : ∀ data, '<' ∉ (connection.md5 data).toList

/-- Bucket, prefix and some keys reach the gateway as they are. -/
structure Connection.Delivers (connection : Connection) (bucket : String)
    (keyPrefix : Option String) (keys : List String) : Prop where
  listing : connection.listing bucket keyPrefix = (bucket, keyPrefix)
  object : ∀ key ∈ keys, connection.object bucket key = (bucket, key)

/-- The keys of a listing are read as they are: bucket and prefix do not open one, none ends itself,
none behind the first one ends the block of its object, and what the first one leaves of its block,
if it ends it, makes no other object. -/
structure Legible (bucket : String) (keyPrefix : Option String) (keys : List String) : Prop where
  head : keys ≠ [] → ∀ text ∈ [bucket, keyPrefix.getD ""], Lacks text XmlTag.key
  nothing : keys = [] → NoObject [bucket, keyPrefix.getD ""]
  closed : ∀ key ∈ keys, Lacks key XmlTag.key.closing
  whole : ∀ key ∈ keys.tail, Lacks key XmlTag.contents.closing
  settled : ∀ key ∈ keys.head?,
    ∃ tag ∈ [XmlTag.contents.closing, XmlTag.contents, XmlTag.key], Lacks key tag

/-- The first thousand of some keys with a prefix, in byte order. -/
def firstKeys (keys : List String) (keyPrefix : Option String) : List String :=
  (orderedKeys keys.toFinset (keyPrefix.getD "")).take 1000

/-- The keys of a bucket that are listed. -/
def listedKeys (objects : StoredObjects) (keyPrefix : Option String) : List String :=
  firstKeys objects.keys keyPrefix

/-- The listing with some objects, as it answers the client. -/
def clientListing (rfc3339 : Time → String) (bucket : String) (keyPrefix : Option String)
    (isTruncated : Bool) (infos : List Gateway.ObjectInfo) : ListObjectsV2Response where
  name := bucket
  keyPrefix := some (keyPrefix.getD "")
  maxKeys := 1000
  isTruncated := isTruncated
  contents := infos.map (Gateway.ObjectInfo.listed rfc3339)
  commonPrefixes := []
  continuationToken := none
  nextContinuationToken := none
  keyCount := infos.length

section

variable {rfc3339 : Time → String} {bucket : String} {keyPrefix : Option String}
  {isTruncated : Bool} {infos : List Gateway.ObjectInfo}

/-- The client sees the keys of a listing, each once, if they are legible. -/
theorem listingOf_keys
    (legible : Legible bucket keyPrefix (infos.map Gateway.ObjectInfo.key))
    (entries : ∀ info ∈ infos, PlainEntry (info.listed rfc3339)) :
    ∃ response, listingOf (.ok (.listing
        (clientListing rfc3339 bucket keyPrefix isTruncated infos))) = some response ∧
      (response.objects.map ObjectInfo.key).Nodup ∧
      ∀ key, key ∈ response.objects.map ObjectInfo.key ↔
        key ∈ infos.map Gateway.ObjectInfo.key := by
  have names : (clientListing rfc3339 bucket keyPrefix isTruncated infos).contents.map
      ListedObject.key = infos.map Gateway.ObjectInfo.key := by
    rw [clientListing, List.map_map]
    rfl
  rw [listingOf]
  generalize sent : clientListing rfc3339 bucket keyPrefix isTruncated infos = response at names
  have head_texts : headTexts response = [bucket, keyPrefix.getD ""] := by rw [← sent]; rfl
  have tail_texts : tailTexts response = [] := by rw [← sent]; rfl
  rcases eq_or_ne response.contents [] with nothing | nonempty
  · have no_keys : infos.map Gateway.ObjectInfo.key = [] := by
      rw [← names, nothing]
      rfl
    have no_object : NoObject (headTexts response ++ tailTexts response) := by
      rw [head_texts, tail_texts]
      exact legible.nothing no_keys
    obtain ⟨read, parsed, none_read⟩ := parseListResponse_nothing nothing no_object
    rw [parsed, no_keys]
    exact ⟨read, rfl, by simp [none_read]⟩
  · have some_key : infos.map Gateway.ObjectInfo.key ≠ [] := by
      rw [← names, Ne, List.map_eq_nil_iff]
      exact nonempty
    have whole : ∀ listed ∈ response.contents.tail,
        Lacks listed.key XmlTag.contents.closing := by
      intro listed member
      refine legible.whole _ ?_
      rw [← names, ← List.map_tail]
      exact List.mem_map_of_mem member
    have plain : ∀ listed ∈ response.contents, PlainEntry listed := by
      intro listed member
      rw [← sent] at member
      obtain ⟨info, shown, rfl⟩ := List.mem_map.mp member
      exact entries info shown
    have settled : ∀ listed ∈ response.contents,
        ∃ tag ∈ [XmlTag.contents.closing, XmlTag.contents, XmlTag.key], Lacks listed.key tag := by
      intro listed member
      obtain ⟨first, later, contents_eq⟩ := List.exists_cons_of_ne_nil nonempty
      rw [contents_eq] at member names whole
      rcases List.mem_cons.mp member with rfl | behind
      · exact legible.settled _ (by rw [← names]; rfl)
      · exact ⟨_, List.mem_cons_self, whole listed behind⟩
    obtain ⟨read, parsed, once, members⟩ := parseListResponse_keys nonempty plain
      (by rw [head_texts]; exact legible.head some_key)
      (by rw [tail_texts]; exact fun _ nothing => absurd nothing List.not_mem_nil) settled whole
    rw [names] at members
    rw [parsed]
    exact ⟨read, rfl, once, members⟩

end

theorem Connection.Delivers.mono {connection : Connection} {bucket : String}
    {keyPrefix : Option String} {keys keys' : List String}
    (delivers : connection.Delivers bucket keyPrefix keys) (fewer : keys' ⊆ keys) :
    connection.Delivers bucket keyPrefix keys' where
  listing := delivers.listing
  object := fun key member => delivers.object key (fewer member)

section

variable {objects : StoredObjects} {keyPrefix : Option String} {key : String}

theorem mem_of_mem_listedKeys (member : key ∈ listedKeys objects keyPrefix) :
    key ∈ objects.keys ∧ startsWith key (keyPrefix.getD "") = true := by
  have listed := List.mem_of_mem_take member
  rwa [orderedKeys, Finset.mem_sort, Finset.mem_filter, List.mem_toFinset] at listed

theorem listedKeys_nodup (objects : StoredObjects) (keyPrefix : Option String) :
    (listedKeys objects keyPrefix).Nodup :=
  (Finset.sort_nodup _ _).sublist (List.take_sublist _ _)

end

section

variable {connection : Connection} {state : MemoryBuckets} {bucket : String}
  {objects : StoredObjects} {keyPrefix : Option String}

/-- At most a thousand keys in order are listed as they are. -/
theorem listedKeys_eq {keys : List String} (ordered : keys.Pairwise (· < ·))
    (few : keys.length ≤ 1000)
    (same : (objects.keys.toFinset.filter fun key => startsWith key (keyPrefix.getD "")) =
      keys.toFinset) : listedKeys objects keyPrefix = keys := by
  have distinct : keys.Nodup := ordered.imp fun below => below.ne
  have sorted := (List.toFinset_sort (· ≤ ·) distinct).mpr (ordered.imp fun below => below.le)
  rw [listedKeys, firstKeys, orderedKeys, same, sorted, List.take_of_length_le few]

/-- A listing as the gateway sends it to the client. -/
theorem listObjects_answer (rfc3339 : Time → String)
    (found : state.memoryBuckets.lookup bucket = some objects) (keyPrefix : Option String) :
    S3Handlers.listObjects rfc3339 state bucket (listQuery keyPrefix) =
      .ok
        (.listing
          (clientListing rfc3339 bucket keyPrefix
            (decide ((objects.infosFrom (keyPrefix.getD "")).length > 1000))
            ((objects.infosFrom (keyPrefix.getD "")).take 1000))) := by
  have count : asUsize 1000 = 1000 := by decide
  simp [S3Handlers.listObjects, S3Handlers.memoryReads, ObjectReads.listing,
    MemoryBuckets.bucketExists, MemoryBuckets.listObjects, found, count, listQuery, clientListing]

/-- The entry of an accepted object is plain if its key does not end itself. -/
theorem plainEntry_of_accepted (plain : connection.Plain) {info : Gateway.ObjectInfo}
    (shown : info ∈ objects.infosFrom (keyPrefix.getD ""))
    (closed : Lacks info.key XmlTag.key.closing)
    (accepted : ∀ object, objects.lookup info.key = some object →
      Accepted connection.md5 info.key object) :
    PlainEntry (info.listed connection.rfc3339) := by
  obtain ⟨object, stored, info_eq⟩ := objects.of_mem_infosFrom _ shown
  have standard : info.storageClass = "STANDARD" := by rw [info_eq]
  have etag : info.etag = connection.md5 object.data := by
    rw [info_eq]
    exact (accepted object stored).etag
  refine ⟨closed, plain.rfc3339 _, ?_, ?_⟩
  · change '<' ∉ info.etag.toList
    rw [etag]
    exact plain.md5 _
  · change '<' ∉ info.storageClass.toList
    rw [standard]
    decide

/-- The client sees the first thousand keys with its prefix. -/
theorem listObjects_keys (plain : connection.Plain)
    (found : state.memoryBuckets.lookup bucket = some objects)
    (accepted : ∀ key ∈ listedKeys objects keyPrefix, ∀ object,
      objects.lookup key = some object → Accepted connection.md5 key object)
    (listing : connection.listing bucket keyPrefix = (bucket, keyPrefix))
    (legible : Legible bucket keyPrefix (listedKeys objects keyPrefix)) :
    ∃ response, listObjects connection state bucket keyPrefix = some response ∧
      (response.objects.map ObjectInfo.key).Perm (listedKeys objects keyPrefix) := by
  have names : ((objects.infosFrom (keyPrefix.getD "")).take 1000).map Gateway.ObjectInfo.key =
      listedKeys objects keyPrefix := by
    rw [listedKeys, firstKeys, orderedKeys, ← objects.keys_infosFrom, List.map_take]
  rw [← names] at legible
  obtain ⟨response, read, once, members⟩ := @listingOf_keys connection.rfc3339 bucket keyPrefix
    (decide ((objects.infosFrom (keyPrefix.getD "")).length > 1000)) _ legible (by
      intro info member
      have listed := List.mem_map_of_mem (f := Gateway.ObjectInfo.key) member
      refine plainEntry_of_accepted plain (List.mem_of_mem_take member) (legible.closed _ listed) ?_
      rw [names] at listed
      exact accepted _ listed)
  refine ⟨response, ?_, ?_⟩
  · rw [listObjects, listing]
    dsimp only
    rw [listObjects_answer connection.rfc3339 found keyPrefix, read]
  · rw [names] at members
    exact (List.perm_ext_iff_of_nodup once (listedKeys_nodup objects keyPrefix)).mpr members

/-- The client gets the data of an accepted object. -/
theorem downloadFile_of_accepted {key : String} {object : StoredObject}
    (found : state.memoryBuckets.lookup bucket = some objects)
    (stored : objects.lookup key = some object) (accepted : Accepted connection.md5 key object)
    (delivered : connection.object bucket key = (bucket, key)) :
    downloadFile connection state bucket key = some object.data := by
  rw [downloadFile, delivered]
  dsimp only
  rw [S3Handlers.getObject_of_accepted found stored accepted, dataOf]

end

end CyxCloud.Cli
