import CyxCloud.Library.Runs
import CyxCloud.Metadata.Cache
import CyxCloud.Metadata.Database

/-!
# The cache of file records

The calls of `MetadataService` that read a file through the cache, complete it and delete it, step by
step and in any interleaving.  A reader fills the cache with a record that it has read before, so
that a record may come back after a change has removed it.
-/

namespace CyxCloud.Metadata

open CyxCloud.Core Library

/-! ## The optional cache -/

namespace OptionalCache

variable {α : Type} (cache : Option (ExpiringKey α)) (now : Time)

/-- Try to get from cache. -/
def tryGet : Option α :=
  match cache with
  | some key => key.get now
  | none => none

/-- Try to set in cache, ignore errors. -/
def trySet (value : α) (ttl : Duration) : Option (ExpiringKey α) :=
  cache.map fun key => (RedisKey.setEx key now value ttl.asSecs).1

/-- Try to delete from cache. -/
def tryDelete : Option (ExpiringKey α) := cache.map fun _ => .absent

end OptionalCache

/-! ## Calls -/

/-- What a call makes of the file. -/
inductive FileChange where
  | complete
  | delete
  deriving DecidableEq, Repr

/-- The next step of a call, or its result. -/
inductive FileCall where
  | lookUp
  | query
  | store (file : File)
  | got (file : Option File)
  | update (change : FileChange)
  | invalidate (change : FileChange)
  | done (change : FileChange)
  deriving DecidableEq, Repr

/-- The call is a `get_file`. -/
def FileCall.Reads : FileCall → Prop
  | .lookUp | .query | .store _ | .got _ => True
  | .update _ | .invalidate _ | .done _ => False

/-- A call with the changes whose calls had returned when it started. -/
structure StartedCall where
  after : List FileChange
  call : FileCall
  deriving DecidableEq, Repr

/-- Calls on one file: the database, the key of the file in the cache if there is a cache, the
changes whose calls have returned, and all calls in the order in which they started. -/
structure FileCalls where
  db : Database
  cache : Option (ExpiringKey File)
  now : Time
  returned : List FileChange
  calls : List StartedCall

/-- A call starts, a call takes its next step, or time passes. -/
inductive FileStep where
  | getFile
  | completeFile
  | deleteFile
  | advance (call : Nat)
  | wait (duration : Nat)
  deriving DecidableEq, Repr

/-- Seconds for which a record is cached. -/
def fileTtl : Duration := .fromSecs 300

/-- Carry a change out in the database. -/
def FileChange.apply (change : FileChange) (db : Database) (fileId : Uuid) (now : Time) : Database :=
  match change with
  | .complete => db.updateFileStatus fileId .complete now
  | .delete => db.deleteFile fileId now

namespace FileCalls

/-- No calls yet, and nothing cached. -/
def start (db : Database) (hasCache : Bool) (now : Time) : FileCalls where
  db := db
  cache := if hasCache then some .absent else none
  now := now
  returned := []
  calls := []

/-- A call starts. -/
def begin (state : FileCalls) (call : FileCall) : FileCalls :=
  { state with calls := state.calls ++ [{ after := state.returned, call }] }

/-- The next step of a call. -/
def advance (fileId : Uuid) (state : FileCalls) : FileCall → FileCalls × FileCall
  | .lookUp =>
      match OptionalCache.tryGet state.cache state.now with
      | some file => (state, .got (some file))
      | none => (state, .query)
  | .query =>
      match state.db.getFile fileId with
      | some file => (state, .store file)
      | none => (state, .got none)
  | .store file =>
      ({ state with cache := OptionalCache.trySet state.cache state.now file fileTtl },
        .got (some file))
  | .update change =>
      ({ state with db := change.apply state.db fileId state.now }, .invalidate change)
  | .invalidate change =>
      ({ state with
          cache := OptionalCache.tryDelete state.cache
          returned := state.returned ++ [change] },
        .done change)
  | .got file => (state, .got file)
  | .done change => (state, .done change)

/-- Carry out a step. -/
def apply (fileId : Uuid) (state : FileCalls) : FileStep → FileCalls
  | .getFile => state.begin .lookUp
  | .completeFile => state.begin (.update .complete)
  | .deleteFile => state.begin (.update .delete)
  | .advance call =>
      match state.calls[call]? with
      | some started =>
          let (state, next) := state.advance fileId started.call
          { state with calls := state.calls.set call { started with call := next } }
      | none => state
  | .wait duration => { state with now := state.now + duration }

end FileCalls

/-- A record of the file that is not outdated by these changes. -/
structure UpToDate (changes : List FileChange) (file : File) : Prop where
  live : .delete ∉ changes
  status : .complete ∈ changes → file.status = .complete

namespace UpToDate

variable {changes changes' : List FileChange} {file : File}

theorem mono (upToDate : UpToDate changes file) (fewer : changes' ⊆ changes) :
    UpToDate changes' file where
  live := fun deleted => upToDate.live (fewer deleted)
  status := fun completed => upToDate.status (fewer completed)

theorem append (upToDate : UpToDate changes file) (upToDate' : UpToDate changes' file) :
    UpToDate (changes ++ changes') file where
  live := by
    rw [List.mem_append, not_or]
    exact ⟨upToDate.live, upToDate'.live⟩
  status := by
    rw [List.mem_append]
    rintro (completed | completed)
    · exact upToDate.status completed
    · exact upToDate'.status completed

end UpToDate

/-! ## The database after a change -/

theorem Database.getFile_updateFileStatus (db : Database) (fileId : Uuid) (status : FileStatus)
    (now : Time) :
    (db.updateFileStatus fileId status now).getFile fileId =
      (db.getFile fileId).map fun file => { file with status, updatedAt := now } := by
  have same : ((fun file : File => file.id == fileId && file.isLive) ∘ fun file =>
      if file.id == fileId then { file with status, updatedAt := now } else file) =
      fun file => file.id == fileId && file.isLive := by
    funext file
    by_cases mine : file.id = fileId <;> simp [mine, File.isLive]
  rw [Database.getFile, Database.updateFileStatus, List.find?_map, same, Database.getFile]
  cases found : db.files.find? fun file => file.id == fileId && file.isLive with
  | none => rfl
  | some file =>
      have mine := List.find?_some found
      rw [Bool.and_eq_true] at mine
      rw [Option.map_some, Option.map_some, if_pos mine.1]

theorem Database.getFile_deleteFile (db : Database) (fileId : Uuid) (now : Time) :
    (db.deleteFile fileId now).getFile fileId = none := by
  rw [Database.getFile, Database.deleteFile, List.find?_map, Option.map_eq_none_iff,
    List.find?_eq_none]
  intro file _
  by_cases mine : file.id = fileId <;> simp [mine, File.isLive]

/-- A change does not bring outdated records back. -/
theorem FileChange.upToDate_of_getFile_apply {change : FileChange} {db : Database} {fileId : Uuid}
    {now : Time} {changes : List FileChange} {file : File}
    (upToDate : ∀ file, db.getFile fileId = some file → UpToDate changes file)
    (found : (change.apply db fileId now).getFile fileId = some file) :
    UpToDate (changes ++ [change]) file := by
  cases change with
  | delete =>
      rw [FileChange.apply, Database.getFile_deleteFile] at found
      exact nomatch found
  | complete =>
      rw [FileChange.apply, Database.getFile_updateFileStatus, Option.map_eq_some_iff] at found
      obtain ⟨before, found, rfl⟩ := found
      have live := (upToDate before found).live
      exact ⟨by simpa using live, fun _ => rfl⟩

namespace FileCalls

/-- No call yields a record that was outdated when the call started. -/
def Coherent (state : FileCalls) : Prop :=
  ∀ started ∈ state.calls, ∀ file, started.call = .got (some file) → UpToDate started.after file

/-- Another reader, alone. -/
def freshReader (state : FileCalls) : List FileStep :=
  .getFile :: List.replicate 3 (.advance state.calls.length)

/-- No call yields an outdated record, nor does one that starts now and runs alone. -/
def Serves (fileId : Uuid) (state : FileCalls) : Prop :=
  state.Coherent ∧ (runAll (apply fileId) state state.freshReader).Coherent

/-- A reader that fills the cache has a record that is not outdated by now. -/
def StoresUpToDate (state : FileCalls) : FileStep → Prop
  | .advance call =>
      state.cache.isSome → ∀ started file, state.calls[call]? = some started →
        started.call = .store file → UpToDate state.returned file
  | _ => True

/-- A record that has just been cached is found, if there is a cache. -/
theorem tryGet_trySet_fileTtl (cache : Option (ExpiringKey File)) (now : Time) (file : File) :
    OptionalCache.tryGet (OptionalCache.trySet cache now file fileTtl) now =
      if cache.isSome then some file else none := by
  cases cache with
  | none => rfl
  | some key =>
      have accepted : 0 < fileTtl.asSecs ∧ fileTtl.asSecs.toNat ≤ maxExpireSecs := by decide
      have early : now < RedisKey.expiry now fileTtl.asSecs.toNat :=
        Nat.lt_add_of_pos_right (by decide)
      simp [OptionalCache.tryGet, OptionalCache.trySet, RedisKey.setEx, accepted,
        ExpiringKey.get_lapsing, early]

/-! ## The invariant -/

variable {fileId : Uuid} {state : FileCalls}

/-- What the database delivers now is not outdated by these changes. -/
def Delivers (fileId : Uuid) (state : FileCalls) (changes : List FileChange) : Prop :=
  ∀ file, state.db.getFile fileId = some file → UpToDate changes file

/-- A call started after changes that have returned, what it has read was not outdated then, and
the change that it is about to announce is in the database. -/
def Fits (fileId : Uuid) (state : FileCalls) (started : StartedCall) : Prop :=
  started.after ⊆ state.returned ∧
    match started.call with
    | .store file | .got (some file) => UpToDate started.after file
    | .invalidate change => state.Delivers fileId [change]
    | _ => True

/-- Neither the database nor the cache delivers an outdated record, and all calls fit. -/
structure Sound (fileId : Uuid) (state : FileCalls) : Prop where
  delivers : state.Delivers fileId state.returned
  cached : ∀ file, OptionalCache.tryGet state.cache state.now = some file →
    UpToDate state.returned file
  fits : ∀ started ∈ state.calls, state.Fits fileId started

/-- A call still fits when the database delivers no less and more calls have returned. -/
theorem Fits.mono {state' : FileCalls} {started : StartedCall} (fits : state.Fits fileId started)
    (later : state.returned ⊆ state'.returned)
    (delivers : ∀ changes, state.Delivers fileId changes → state'.Delivers fileId changes) :
    state'.Fits fileId started := by
  obtain ⟨after, call⟩ := started
  refine ⟨List.Subset.trans fits.1 later, ?_⟩
  cases call with
  | invalidate change => exact delivers [change] fits.2
  | store file => exact fits.2
  | got file =>
      cases file with
      | some file => exact fits.2
      | none => trivial
  | _ => trivial

theorem sound_start (fileId : Uuid) (db : Database) (hasCache : Bool) (now : Time) :
    (start db hasCache now).Sound fileId where
  delivers := fun _ _ => ⟨List.not_mem_nil, fun nothing => nomatch nothing⟩
  cached := by
    intro file found
    cases hasCache <;> exact nomatch found
  fits := fun _ nothing => nomatch nothing

theorem Sound.coherent (sound : state.Sound fileId) : state.Coherent := by
  rintro ⟨after, call⟩ member file rfl
  exact (sound.fits _ member).2

theorem Sound.begin (sound : state.Sound fileId) {call : FileCall}
    (fits : state.Fits fileId { after := state.returned, call }) :
    (state.begin call).Sound fileId where
  delivers := sound.delivers
  cached := sound.cached
  fits := by
    intro started member
    rcases List.mem_append.mp member with old | new
    · exact sound.fits started old
    · cases List.mem_singleton.mp new
      exact fits

@[simp]
theorem calls_advance (fileId : Uuid) (state : FileCalls) (call : FileCall) :
    (state.advance fileId call).1.calls = state.calls := by
  cases call <;> simp only [FileCalls.advance] <;> split <;> rfl

/-- The next step of a call keeps the invariant, if it fills the cache with no outdated record, and
the call still fits. -/
theorem Sound.advance (sound : state.Sound fileId) {started : StartedCall}
    (fits : state.Fits fileId started)
    (stores : state.cache.isSome → ∀ file, started.call = .store file →
      UpToDate state.returned file) :
    (state.advance fileId started.call).1.Sound fileId ∧
      (state.advance fileId started.call).1.Fits fileId
        { started with call := (state.advance fileId started.call).2 } := by
  obtain ⟨after, call⟩ := started
  obtain ⟨earlier, reads⟩ := fits
  cases call with
  | lookUp =>
      simp only [FileCalls.advance]
      split
      · rename_i file found
        exact ⟨sound, earlier, (sound.cached file found).mono earlier⟩
      · exact ⟨sound, earlier, trivial⟩
  | query =>
      simp only [FileCalls.advance]
      split
      · rename_i file found
        exact ⟨sound, earlier, (sound.delivers file found).mono earlier⟩
      · exact ⟨sound, earlier, trivial⟩
  | store file =>
      refine ⟨⟨sound.delivers, fun found known => ?_, sound.fits⟩, earlier, reads⟩
      rw [FileCalls.advance, tryGet_trySet_fileTtl] at known
      split at known
      · rename_i hasCache
        cases known
        exact stores hasCache file rfl
      · exact nomatch known
  | update change =>
      have delivers : ∀ changes, state.Delivers fileId changes →
          (state.advance fileId (.update change)).1.Delivers fileId (changes ++ [change]) :=
        fun _ before _ found => FileChange.upToDate_of_getFile_apply before found
      have fewer : ∀ changes, state.Delivers fileId changes →
          (state.advance fileId (.update change)).1.Delivers fileId changes :=
        fun changes before file found =>
          (delivers changes before file found).mono (List.subset_append_left _ _)
      refine ⟨⟨fewer _ sound.delivers, sound.cached, fun other member => ?_⟩, earlier, ?_⟩
      · exact (sound.fits other member).mono (List.Subset.refl _) fewer
      · exact fun file found =>
          (delivers _ sound.delivers file found).mono (List.subset_append_right _ _)
  | invalidate change =>
      have later : state.returned ⊆ state.returned ++ [change] := List.subset_append_left _ _
      refine ⟨⟨fun file found => (sound.delivers file found).append (reads file found), ?_, ?_⟩,
        List.Subset.trans earlier later, trivial⟩
      · intro file found
        cases cache : state.cache <;> rw [FileCalls.advance, cache] at found <;>
          exact nomatch found
      · exact fun other member => (sound.fits other member).mono later fun _ before => before
  | got file => exact ⟨sound, earlier, reads⟩
  | done change => exact ⟨sound, earlier, trivial⟩

theorem Sound.apply (sound : state.Sound fileId) {step : FileStep}
    (stores : state.StoresUpToDate step) : (state.apply fileId step).Sound fileId := by
  cases step with
  | getFile => exact sound.begin ⟨List.Subset.refl _, trivial⟩
  | completeFile => exact sound.begin ⟨List.Subset.refl _, trivial⟩
  | deleteFile => exact sound.begin ⟨List.Subset.refl _, trivial⟩
  | wait duration =>
      refine ⟨sound.delivers, fun file found => sound.cached file ?_, sound.fits⟩
      cases cache : state.cache with
      | none =>
          rw [FileCalls.apply, cache] at found
          exact nomatch found
      | some key =>
          rw [FileCalls.apply, cache] at found
          exact ExpiringKey.get_earlier found (Nat.le_add_right _ _)
  | advance call =>
      simp only [FileCalls.apply]
      cases known : state.calls[call]? with
      | none => exact sound
      | some started =>
          have fits := sound.fits started (List.mem_of_getElem? known)
          obtain ⟨sound', fits'⟩ := sound.advance fits fun hasCache file stores' =>
            stores hasCache started file known stores'
          refine ⟨sound'.delivers, sound'.cached, fun other member => ?_⟩
          rcases List.mem_or_eq_of_mem_set member with old | rfl
          · exact sound'.fits other (by simpa using old)
          · exact fits'

/-! ## A reader that runs alone -/

/-- The call that started last takes its next step. -/
theorem apply_advance_last {earlier : List StartedCall} {started : StartedCall}
    (calls : state.calls = earlier ++ [started]) :
    state.apply fileId (.advance earlier.length) =
      { (state.advance fileId started.call).1 with
        calls := earlier ++ [{ started with call := (state.advance fileId started.call).2 }] } := by
  simp [FileCalls.apply, calls]

/-- A reader that started last leaves what has returned as it was. -/
theorem advance_reader (fileId : Uuid) (state : FileCalls) {call : FileCall} (reads : call.Reads) :
    (state.advance fileId call).1.returned = state.returned ∧
      (state.advance fileId call).2.Reads := by
  cases call with
  | lookUp => simp only [FileCalls.advance]; split <;> exact ⟨rfl, trivial⟩
  | query => simp only [FileCalls.advance]; split <;> exact ⟨rfl, trivial⟩
  | store file => exact ⟨rfl, trivial⟩
  | got file => exact ⟨rfl, trivial⟩
  | update change => exact reads.elim
  | invalidate change => exact reads.elim
  | done change => exact reads.elim

theorem Sound.reader (sound : state.Sound fileId) {earlier : List StartedCall} {call : FileCall}
    (calls : state.calls = earlier ++ [{ after := state.returned, call }]) (reads : call.Reads)
    (steps : Nat) :
    (runAll (FileCalls.apply fileId) state
      (List.replicate steps (.advance earlier.length))).Sound fileId := by
  induction steps generalizing state call with
  | zero => exact sound
  | succ steps induction =>
      obtain ⟨returned, reads'⟩ := advance_reader fileId state reads
      rw [List.replicate_succ, runAll_cons]
      refine induction (sound.apply ?_) ?_ reads'
      · intro _ started file known stores
        -- the reader has read its record since the last change returned
        have fits := (sound.fits started (List.mem_of_getElem? known)).2
        rw [calls, List.getElem?_concat_length] at known
        cases known
        rw [stores] at fits
        exact fits
      · rw [apply_advance_last calls, returned]

theorem Sound.serves (sound : state.Sound fileId) : state.Serves fileId := by
  have begun : (state.begin .lookUp).Sound fileId := sound.begin ⟨List.Subset.refl _, trivial⟩
  exact ⟨sound.coherent, (begun.reader rfl trivial 3).coherent⟩

/-- A reader that finds a record in the cache yields it. -/
theorem calls_freshReader {file : File}
    (found : OptionalCache.tryGet state.cache state.now = some file) :
    (runAll (FileCalls.apply fileId) state state.freshReader).calls =
      state.calls ++ [{ after := state.returned, call := .got (some file) }] := by
  have stays : ∀ steps (reader : FileCalls),
      reader.calls = state.calls ++ [{ after := state.returned, call := .got (some file) }] →
      (runAll (FileCalls.apply fileId) reader
        (List.replicate steps (.advance state.calls.length))).calls = reader.calls := by
    intro steps reader calls
    induction steps with
    | zero => rfl
    | succ steps induction =>
        have same : reader.apply fileId (.advance state.calls.length) = reader := by
          rw [apply_advance_last calls]
          simp [FileCalls.advance, ← calls]
        rw [List.replicate_succ, runAll_cons, same, induction]
  have first : (state.begin .lookUp).apply fileId (.advance state.calls.length) =
      { state with
        calls := state.calls ++ [{ after := state.returned, call := .got (some file) }] } := by
    rw [apply_advance_last rfl]
    simp [FileCalls.advance, begin, found]
  rw [freshReader, runAll_cons, List.replicate_succ, runAll_cons]
  exact (congrArg (fun reader => (runAll (FileCalls.apply fileId) reader _).calls) first).trans
    (stays 2 _ rfl)

theorem Serves.cached (serves : state.Serves fileId) {file : File}
    (found : OptionalCache.tryGet state.cache state.now = some file) :
    UpToDate state.returned file := by
  have yields : { after := state.returned, call := .got (some file) } ∈
      (runAll (FileCalls.apply fileId) state state.freshReader).calls := by
    rw [calls_freshReader found]
    exact List.mem_append_right _ (List.mem_singleton.mpr rfl)
  exact serves.2 _ yields file rfl

/-- If no reader that follows a step is served an outdated record, then the step stores none. -/
theorem Serves.storesUpToDate {step : FileStep}
    (serves : (state.apply fileId step).Serves fileId) : state.StoresUpToDate step := by
  cases step with
  | advance call =>
      intro hasCache started file known stores
      have stored : OptionalCache.tryGet (state.apply fileId (.advance call)).cache
          (state.apply fileId (.advance call)).now = some file := by
        simp only [FileCalls.apply, known, FileCalls.advance, stores]
        rw [tryGet_trySet_fileTtl, if_pos hasCache]
      have upToDate := serves.cached stored
      simpa only [FileCalls.apply, known, FileCalls.advance, stores] using upToDate
  | _ => trivial

/-! ## Runs -/

/-- In every run, no call yields an outdated record, not even one that starts at any point and runs
alone, exactly if no reader fills the cache with an outdated record. -/
theorem serves_iff_storesUpToDate (fileId : Uuid) (db : Database) (hasCache : Bool) (now : Time)
    (steps : List FileStep) :
    EveryState (FileCalls.apply fileId) (Serves fileId) (start db hasCache now) steps ↔
      EveryStep (FileCalls.apply fileId) StoresUpToDate (start db hasCache now) steps :=
  everyState_iff_of_restores (Sound fileId) (fun _ sound => sound.serves)
    (fun _ _ sound stores => sound.apply stores) (fun _ _ _ serves => serves.storesUpToDate)
    (sound_start fileId db hasCache now) steps

/-! ## A slow reader -/

/-- A file that is not complete yet. -/
def pendingFile : File where
  id := 1
  name := "key"
  path := "bucket/key"
  contentHash := []
  sizeBytes := 0
  chunkCount := 0
  dataShards := 10
  parityShards := 4
  chunkSize := 4194304
  ownerId := none
  bucket := some "bucket"
  status := .pending
  contentType := none
  createdAt := 0
  updatedAt := 0
  deletedAt := none

/-- The only file of the database. -/
def pendingFiles : Database where
  buckets := []
  nodes := []
  files := [pendingFile]
  chunks := []
  chunkLocations := []
  repairJobs := []

/-- A reader reads the file, a change of the file starts and returns, and the reader fills the cache
for the next one. -/
def slowReader (change : FileStep) : List FileStep :=
  [.getFile, .advance 0, .advance 0, change, .advance 1, .advance 1, .advance 0, .getFile,
    .advance 2]

/-- After a file has been deleted a reader gets it, and after it has been completed a reader gets it
as pending. -/
theorem not_coherent_slowReader :
    ¬EveryState (FileCalls.apply 1) Coherent (start pendingFiles true 0)
        (slowReader .deleteFile) ∧
      ¬EveryState (FileCalls.apply 1) Coherent (start pendingFiles true 0)
        (slowReader .completeFile) := by
  constructor
  · intro coherent
    have upToDate := coherent.last { after := [.delete], call := .got (some pendingFile) }
      (by decide) pendingFile rfl
    exact upToDate.live (by decide)
  · intro coherent
    have upToDate := coherent.last { after := [.complete], call := .got (some pendingFile) }
      (by decide) pendingFile rfl
    exact nomatch upToDate.status (by decide)

end FileCalls

end CyxCloud.Metadata
