import CyxCloud.Cli.DirectoryListing

/-!
# Downloads of listed objects

Every listed object gets a file of its own exactly if the keys are apart behind the prefix: each
leads to a file there, and none to the place of another one or above it.
-/

namespace CyxCloud.Cli

open CyxCloud.Core hiding Chunk
open Library Gateway

/-- A download of all objects with a prefix writes each listed one to a file of its own below the
output directory. -/
structure WritesApart (answers : Answers) (keyPrefix : Option String) : Prop where
  written : ∀ response, answers.listing = some response →
    ∀ object ∈ response.objects, ∃ path data,
      joinOutput (relativePath keyPrefix object.key) = some path ∧
        answers.object object.key = some data ∧
        (downloadPrefix answers keyPrefix).files.lookup path = some data
  different : ∀ response, answers.listing = some response →
    ∀ object ∈ response.objects, ∀ other ∈ response.objects,
      joinOutput (relativePath keyPrefix object.key) =
        joinOutput (relativePath keyPrefix other.key) → object.key = other.key

/-- Behind the prefix every key leads to a file, and none to the place of another one or above
it. -/
structure KeysApart (keyPrefix : Option String) (keys : List String) : Prop where
  file : ∀ key ∈ keys, endsAtDirectory (restOf keyPrefix key) = false
  unrelated : (keys.map fun key => pathNames (restOf keyPrefix key)).Pairwise FileTree.Unrelated

instance (keyPrefix : Option String) (keys : List String) : Decidable (KeysApart keyPrefix keys) :=
  decidable_of_iff
    ((∀ key ∈ keys, endsAtDirectory (restOf keyPrefix key) = false) ∧
      (keys.map fun key => pathNames (restOf keyPrefix key)).Pairwise FileTree.Unrelated)
    ⟨fun ⟨file, unrelated⟩ => ⟨file, unrelated⟩, fun ⟨file, unrelated⟩ => ⟨file, unrelated⟩⟩

/-- Path and data of the file for a key. -/
def fileOf (data : String → Bytes) (keyPrefix : Option String) (key : String) :
    List String × Bytes :=
  (pathNames (restOf keyPrefix key), data key)

section

variable {answers : Answers} {keyPrefix : Option String}

/-- A download that can write its file does so. -/
theorem downloadObject_of_writeFile {output output' : OutputDirectory} {object : ObjectInfo}
    {path : List String} {data : Bytes}
    (joined : joinOutput (relativePath keyPrefix object.key) = some path)
    (file : endsAtDirectory (relativePath keyPrefix object.key) = false)
    (got : answers.object object.key = some data)
    (written : output.writeFile path data = some output') :
    downloadObject answers keyPrefix output object = output' := by
  obtain ⟨above, made, created⟩ := Option.bind_eq_some_iff.mp written
  simp only [downloadObject, joined, made, got, file, created, Bool.false_eq_true, if_false,
    Option.getD_some]

/-- A download writes no file but its own, and this only with data. -/
theorem mem_files_downloadObject {output : OutputDirectory} {object : ObjectInfo}
    {path : List String}
    (member : path ∈ (downloadObject answers keyPrefix output object).files) :
    path ∈ output.files ∨ joinOutput (relativePath keyPrefix object.key) = some path ∧
      endsAtDirectory (relativePath keyPrefix object.key) = false ∧
      (answers.object object.key).isSome := by
  simp only [downloadObject] at member
  split at member
  · exact .inl member
  · rename_i names joined
    split at member
    · exact .inl member
    · rename_i above made
      rw [← FileTree.files_of_createDirAll made]
      split at member
      · exact .inl member
      · rename_i data got
        split at member
        · exact .inl member
        · rename_i file
          cases created : above.createFile names data with
          | none =>
              rw [created, Option.getD_none] at member
              exact .inl member
          | some written =>
              rw [created, Option.getD_some] at member
              rcases FileTree.mem_files_of_createFile created member with rfl | old
              · exact .inr ⟨joined, by simpa using file, by rw [got, Option.isSome_some]⟩
              · exact .inl old

theorem mem_files_foldl {output : OutputDirectory} {listed : List ObjectInfo} {path : List String}
    (member : path ∈
      (listed.foldl (downloadObject answers keyPrefix) output).files) :
    path ∈ output.files ∨ ∃ object ∈ listed,
      joinOutput (relativePath keyPrefix object.key) = some path ∧
        endsAtDirectory (relativePath keyPrefix object.key) = false ∧
        (answers.object object.key).isSome := by
  induction listed generalizing output with
  | nil => exact .inl member
  | cons object listed induction =>
      rcases induction member with before | ⟨other, later, leads⟩
      · rcases mem_files_downloadObject before with old | leads
        · exact .inl old
        · exact .inr ⟨object, List.mem_cons_self, leads⟩
      · exact .inr ⟨other, List.mem_cons_of_mem object later, leads⟩

end

/-! ## Listed keys -/

/-- The client sees some keys that lead below the output directory, and gets their data. -/
structure Shown (answers : Answers) (keyPrefix : Option String) (keys : List String)
    (data : String → Bytes) : Prop where
  listed : ∃ response, answers.listing = some response ∧
    (response.objects.map ObjectInfo.key).Perm keys
  distinct : keys.Nodup
  valid : ∀ key ∈ keys, validateObjectKey key = .ok ()
  object : ∀ key ∈ keys, answers.object key = some (data key)

section

variable {answers : Answers} {keyPrefix : Option String} {keys : List String}
  {data : String → Bytes}

theorem Shown.leads (shown : Shown answers keyPrefix keys data) {key : String}
    (member : key ∈ keys) :
    joinOutput (relativePath keyPrefix key) = some (pathNames (restOf keyPrefix key)) ∧
      endsAtDirectory (relativePath keyPrefix key) = endsAtDirectory (restOf keyPrefix key) :=
  joinOutput_relativePath (shown.valid key member)

theorem KeysApart.perm {keys' : List String} (apart : KeysApart keyPrefix keys)
    (same : keys'.Perm keys) : KeysApart keyPrefix keys' where
  file := fun key member => apart.file key (same.mem_iff.mp member)
  unrelated := (same.map _).symm.pairwise apart.unrelated fun unrelated => unrelated.symm

/-- If the keys are apart behind the prefix, the output directory holds a file for each. -/
theorem Shown.holds (shown : Shown answers keyPrefix keys data) {response : ListResponse}
    (listed : answers.listing = some response)
    (names : (response.objects.map ObjectInfo.key).Perm keys) (apart : KeysApart keyPrefix keys) :
    (downloadPrefix answers keyPrefix).Holds
      ((response.objects.map ObjectInfo.key).map (fileOf data keyPrefix)) := by
  have apart' := apart.perm names
  have listed_key : ∀ object ∈ response.objects, object.key ∈ keys := fun object member =>
    names.mem_iff.mp (List.mem_map_of_mem member)
  rw [downloadPrefix, listed, List.map_map]
  refine FileTree.holds_empty.foldl ?_ ?_ ?_
  · intro object member output output' written
    have known := listed_key object member
    have leads := shown.leads known
    refine downloadObject_of_writeFile leads.1 ?_ (shown.object object.key known) written
    rw [leads.2]
    exact apart.file object.key known
  · intro object member
    exact pathNames_ne_nil (apart.file object.key (listed_key object member))
  · have unrelated := apart'.unrelated
    rw [List.map_map, List.pairwise_map] at unrelated
    rw [List.nil_append, List.pairwise_map]
    exact unrelated

/-- Every listed object gets a file of its own exactly if the keys are apart behind the prefix. -/
theorem Shown.writesApart_iff (shown : Shown answers keyPrefix keys data) :
    WritesApart answers keyPrefix ↔ KeysApart keyPrefix keys := by
  obtain ⟨response, listed, names⟩ := shown.listed
  have listed_key : ∀ object ∈ response.objects, object.key ∈ keys := fun object member =>
    names.mem_iff.mp (List.mem_map_of_mem member)
  constructor
  · rintro ⟨written, different⟩
    have reached : ∀ key ∈ keys,
        pathNames (restOf keyPrefix key) ∈ (downloadPrefix answers keyPrefix).files := by
      intro key member
      obtain ⟨object, shown_object, rfl⟩ := List.mem_map.mp (names.mem_iff.mpr member)
      obtain ⟨path, data, joined, -, stored⟩ := written response listed object shown_object
      rw [(shown.leads member).1, Option.some.injEq] at joined
      rw [joined, ← AList.lookup_isSome, stored]
      rfl
    have same_key : ∀ key ∈ keys, ∀ other ∈ keys,
        joinOutput (relativePath keyPrefix key) = joinOutput (relativePath keyPrefix other) →
          key = other := by
      intro key member other member' same
      obtain ⟨object, shown_object, rfl⟩ := List.mem_map.mp (names.mem_iff.mpr member)
      obtain ⟨object', shown_object', rfl⟩ := List.mem_map.mp (names.mem_iff.mpr member')
      exact different response listed object shown_object object' shown_object' same
    constructor
    · intro key member
      -- the file at its place is that of a key, which can only be this one
      have present := reached key member
      rw [downloadPrefix, listed] at present
      rcases mem_files_foldl present with nothing | ⟨object, shown_object, joined, file, -⟩
      · exact absurd nothing (AList.notMem_empty _)
      · have same := same_key key member _ (listed_key object shown_object)
          ((shown.leads member).1.trans joined.symm)
        rw [← same, (shown.leads member).2] at file
        exact file
    · rw [List.pairwise_map]
      refine shown.distinct.imp_of_mem ?_
      intro key other member member' differs
      have apart : ∀ {key other}, key ∈ keys → other ∈ keys → key ≠ other →
          ¬ pathNames (restOf keyPrefix key) <+: pathNames (restOf keyPrefix other) := by
        intro key other member member' differs below
        have same := FileTree.eq_of_below (reached other member') (reached key member) below
        refine differs (same_key key member other member' ?_)
        rw [(shown.leads member).1, (shown.leads member').1, same]
      exact ⟨apart member member' differs, apart member' member differs.symm⟩
  · intro apart
    have holds := shown.holds listed names apart
    constructor
    · intro response' listed' object member
      rw [listed, Option.some.injEq] at listed'
      subst listed'
      have known := listed_key object member
      exact ⟨_, _, (shown.leads known).1, shown.object object.key known,
        holds.written _ (List.mem_map_of_mem (List.mem_map_of_mem member))⟩
    · intro response' listed' object member other member' same
      rw [listed, Option.some.injEq] at listed'
      subst listed'
      have known := listed_key object member
      have known' := listed_key other member'
      rw [(shown.leads known).1, (shown.leads known').1, Option.some.injEq] at same
      have distinct : (keys.map fun key => pathNames (restOf keyPrefix key)).Nodup := by
        refine apart.unrelated.imp ?_
        rintro path other unrelated rfl
        exact unrelated.1 (List.prefix_refl path)
      exact List.inj_on_of_nodup_map distinct known known' same

/-- What is downloaded was listed. -/
theorem Shown.exists_listed (shown : Shown answers keyPrefix keys data) {path : List String}
    (member : path ∈ (downloadPrefix answers keyPrefix).files) :
    ∃ key ∈ keys, pathNames (restOf keyPrefix key) = path := by
  obtain ⟨response, sent, names⟩ := shown.listed
  rw [downloadPrefix, sent] at member
  rcases mem_files_foldl member with nothing | ⟨object, listed, joined, -⟩
  · exact absurd nothing (AList.notMem_empty _)
  · have known : object.key ∈ keys := names.mem_iff.mp (List.mem_map_of_mem listed)
    rw [(shown.leads known).1, Option.some.injEq] at joined
    exact ⟨object.key, known, joined⟩

/-- With keys apart, the file of a listed key has its data. -/
theorem Shown.written (shown : Shown answers keyPrefix keys data)
    (apart : KeysApart keyPrefix keys) {key : String} (member : key ∈ keys) :
    (downloadPrefix answers keyPrefix).files.lookup (pathNames (restOf keyPrefix key)) =
      some (data key) := by
  obtain ⟨response, sent, names⟩ := shown.listed
  exact (shown.holds sent names apart).written _
    (List.mem_map_of_mem (f := fileOf data keyPrefix) (names.mem_iff.mpr member))

end

/-! ## Objects in memory -/

section

variable {connection : Connection} {state : MemoryBuckets} {bucket : String}
  {keyPrefix : Option String} {objects : StoredObjects}

/-- The data of a key. -/
def dataOfKey (objects : StoredObjects) (key : String) : Bytes :=
  ((objects.lookup key).map StoredObject.data).getD []

/-- Accepted objects are shown as they are, if prefix and keys reach the gateway. -/
theorem shown_of_accepted (plain : connection.Plain)
    (found : state.memoryBuckets.lookup bucket = some objects)
    (accepted : ∀ key ∈ listedKeys objects keyPrefix, ∀ object,
      objects.lookup key = some object → Accepted connection.md5 key object)
    (delivers : connection.Delivers bucket keyPrefix (listedKeys objects keyPrefix))
    (legible : Legible bucket keyPrefix (listedKeys objects keyPrefix)) :
    Shown (memoryAnswers connection state bucket keyPrefix) keyPrefix
      (listedKeys objects keyPrefix) (dataOfKey objects) := by
  have stored : ∀ key ∈ listedKeys objects keyPrefix,
      ∃ object, objects.lookup key = some object ∧ Accepted connection.md5 key object := by
    intro key member
    obtain ⟨object, stored⟩ :=
      Option.isSome_iff_exists.mp (AList.lookup_isSome.mpr (mem_of_mem_listedKeys member).1)
    exact ⟨object, stored, accepted key member object stored⟩
  constructor
  · exact listObjects_keys plain found accepted delivers.listing legible
  · exact listedKeys_nodup objects keyPrefix
  · intro key member
    obtain ⟨object, -, accepted⟩ := stored key member
    exact accepted.valid
  · intro key member
    obtain ⟨object, stored, accepted⟩ := stored key member
    rw [dataOfKey, stored]
    exact downloadFile_of_accepted found stored accepted (delivers.object key member)

end

end CyxCloud.Cli
