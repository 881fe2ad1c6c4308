import CyxCloud.Gateway.DatabaseBuckets

/-!
# Objects and their buckets

No table says that a file needs a bucket: a put checks for the bucket before it registers the file,
and a deletion counts the files before it deletes the bucket.  As long as no put stands between its
check and its registration while a deletion of the same bucket stands between its count and its
statement, every object has its bucket.  The names of buckets are unique in any case.
-/

namespace CyxCloud.Gateway

open CyxCloud.Core hiding Chunk
open Library Metadata

/-! ## What a statement does -/

namespace BucketRequest

/-- The bucket of a put that is about to register its file. -/
def registers? : BucketRequest → Option String
  | putObject name _ .register => some name
  | putObject _ _ .check | putObject _ _ .checkAgain | createBucket _ _ _ | deleteBucket _ _
  | created _ _ | deleted _ _ | registered _ _ | stopped => none

/-- The bucket that is about to be deleted. -/
def deletes? : BucketRequest → Option String
  | deleteBucket name .delete => some name
  | deleteBucket _ .check | deleteBucket _ .isEmpty | deleteBucket _ .checkAgain
  | deleteBucket _ .isEmptyAgain | deleteBucket _ .count | createBucket _ _ _ | putObject _ _ _
  | created _ _ | deleted _ _ | registered _ _ | stopped => none

/-- A bucket has been created. -/
def isCreated (name : String) : BucketRequest → Bool
  | created other (.ok ()) => other == name
  | created _ (.error _) | createBucket _ _ _ | deleteBucket _ _ | putObject _ _ _ | deleted _ _
  | registered _ _ | stopped => false

/-- A request may come to its next statement: a put has found its bucket, and a deletion no
objects.  Nothing has been created. -/
structure Admitted (tables : BucketTables) (moved : BucketRequest) : Prop where
  checked : ∀ name, moved.registers? = some name → tables.db.HasBucket name
  counted : ∀ name, moved.deletes? = some name → tables.db.bucketIsEmpty name = true
  uncreated : ∀ name, moved.isCreated name = false

/-- What the next statement of a request does. -/
inductive Effect (tables : BucketTables) : BucketRequest → BucketTables → BucketRequest → Prop where
  /-- A query, or a statement that creates a user. -/
  | passes (request moved : BucketRequest) (after : BucketTables) (same : after.db = tables.db)
      (admitted : Admitted tables moved) : Effect tables request after moved
  | creates (userId name : String) (ownerId : Uuid) (outcome : Outcome) (moved : BucketRequest)
      (answer : (moved = created name (.ok ()) ∧ outcome.applied = true ∧
          ∃ bucket, (tables.createBucket name ownerId).2 = .ok bucket) ∨
        (∃ cause, moved = created name (.error cause)) ∨ moved = stopped) :
      Effect tables (createBucket userId name (.insert ownerId))
        (if outcome.applied then (tables.createBucket name ownerId).1 else tables) moved
  | registers (name : String) (file : CreateFile) (event : BucketEvent) (moved : BucketRequest)
      (answer : (∃ result, moved = registered name result) ∨ moved = stopped) :
      Effect tables (putObject name file .register) (stepPut tables event name file .register).1
        moved
  | deletes (name : String) (event : BucketEvent) (moved : BucketRequest)
      (answer : (∃ result, moved = deleted name result) ∨ moved = stopped) :
      Effect tables (deleteBucket name .delete) (stepDelete tables event name .delete).1 moved

variable {tables after : BucketTables} {request moved : BucketRequest} {event : BucketEvent}
  {name : String}

/-- A request that neither registers, deletes nor has created may always come. -/
theorem admitted_of_none (unregistered : moved.registers? = none)
    (undeleted : moved.deletes? = none)
    (uncreated : ∀ name, moved.isCreated name = false) : Admitted tables moved where
  checked name registers := by
    rw [unregistered] at registers
    cases registers
  counted name deletes := by
    rw [undeleted] at deletes
    cases deletes
  uncreated := uncreated

theorem admitted_stopped : Admitted tables stopped := admitted_of_none rfl rfl fun _ => rfl

theorem admitted_create (userId : String) (stage : CreateStage) :
    Admitted tables (createBucket userId name stage) := admitted_of_none rfl rfl fun _ => rfl

theorem admitted_refused (cause : BucketError) :
    Admitted tables (created name (.error cause)) ∧
      Admitted tables (deleted name (.error cause)) ∧
        Admitted tables (registered name (.error cause)) :=
  ⟨admitted_of_none rfl rfl fun _ => rfl, admitted_of_none rfl rfl fun _ => rfl,
    admitted_of_none rfl rfl fun _ => rfl⟩

theorem Admitted.follow {outcome : Outcome} {failed : DbError → BucketRequest}
    (next : Admitted tables moved) (refused : ∀ cause, Admitted tables (failed cause)) :
    Admitted tables (follow outcome failed moved) := by
  cases outcome with
  | done => exact next
  | lost | failed => exact refused .unavailable
  | crashed | crashedAfter => exact admitted_stopped

/-- A check leads on, or to a refusal. -/
theorem Admitted.ite {condition : Prop} [Decidable condition] {next refusal : BucketRequest}
    (met : condition → Admitted tables next) (refused : Admitted tables refusal) :
    Admitted tables (if condition then next else refusal) := by
  split
  · rename_i holds
    exact met holds
  · exact refused

/-! ## Which statement does what -/

theorem effect_stepCreate (userId : String) (stage : CreateStage)
    (stepped : stepCreate tables event userId name stage = (after, moved)) :
    Effect tables (createBucket userId name stage) after moved := by
  have refused : ∀ cause, Admitted tables (created name (.error cause)) :=
    fun cause => (admitted_refused cause).1
  obtain ⟨rfl, rfl⟩ := Prod.mk.inj stepped
  cases stage with
  | check =>
      refine .passes _ _ _ rfl (.follow ?_ fun cause => refused _)
      split
      · exact refused _
      · exact admitted_create userId _
  | checkAgain =>
      refine .passes _ _ _ rfl (.follow ?_ fun _ => admitted_create userId _)
      split
      · exact refused _
      · exact admitted_create userId _
  | findUser =>
      refine .passes _ _ _ rfl (.follow ?_ fun cause => refused _)
      split <;> exact admitted_create userId _
  | createUser =>
      refine .passes _ _ _ ?_ (.follow ?_ fun cause => refused _)
      · dsimp only [stepCreate]
        split
        · exact tables.db_createUser _ _
        · rfl
      · dsimp only
        split
        · exact admitted_create userId _
        · exact refused _
  | insert ownerId =>
      refine .creates userId name ownerId event.outcome _ ?_
      dsimp only [stepCreate, followWrite]
      cases event.outcome with
      | done =>
          cases (tables.createBucket name ownerId).2 with
          | ok bucket => exact .inl ⟨rfl, rfl, bucket, rfl⟩
          | error cause => exact .inr (.inl ⟨_, rfl⟩)
      | lost | failed => exact .inr (.inl ⟨_, rfl⟩)
      | crashed | crashedAfter => exact .inr (.inr rfl)

theorem effect_stepDelete (stage : DeleteStage)
    (stepped : stepDelete tables event name stage = (after, moved)) :
    Effect tables (deleteBucket name stage) after moved := by
  have refused : ∀ cause, Admitted tables (deleted name (.error cause)) :=
    fun cause => (admitted_refused cause).2.1
  obtain ⟨rfl, rfl⟩ := Prod.mk.inj stepped
  cases stage with
  | check | isEmpty | checkAgain | isEmptyAgain =>
      refine .passes _ _ _ rfl (.follow (.ite (fun _ => ?_) (refused _)) fun cause => refused _)
      exact admitted_of_none rfl rfl fun _ => rfl
  | count =>
      refine .passes _ _ _ rfl (.follow (.ite (fun empty => ?_) (refused _)) fun cause => refused _)
      refine ⟨(fun _ same => by cases same), fun other same => ?_, fun _ => rfl⟩
      obtain rfl := Option.some.inj same
      exact empty
  | delete =>
      refine .deletes name event _ ?_
      dsimp only [stepDelete]
      cases event.outcome with
      | done | lost | failed => exact .inl ⟨_, rfl⟩
      | crashed | crashedAfter => exact .inr rfl

theorem effect_stepPut (file : CreateFile) (stage : PutStage)
    (stepped : stepPut tables event name file stage = (after, moved)) :
    Effect tables (putObject name file stage) after moved := by
  have refused : ∀ cause, Admitted tables (registered name (.error cause)) :=
    fun cause => (admitted_refused cause).2.2
  obtain ⟨rfl, rfl⟩ := Prod.mk.inj stepped
  cases stage with
  | check =>
      refine .passes _ _ _ rfl (.follow (.ite (fun _ => ?_) (refused _)) fun cause => refused _)
      exact admitted_of_none rfl rfl fun _ => rfl
  | checkAgain =>
      refine .passes _ _ _ rfl (.follow (.ite (fun has => ?_) (refused _)) fun cause => refused _)
      refine ⟨fun other same => ?_, (fun _ same => by cases same), fun _ => rfl⟩
      obtain rfl := Option.some.inj same
      exact has
  | register =>
      refine .registers name file event _ ?_
      dsimp only [stepPut, followWrite]
      cases event.outcome with
      | done => cases (tables.db.createFile event.generated event.now
          { file with bucket := some name }).2 <;> exact .inl ⟨_, rfl⟩
      | lost | failed => exact .inl ⟨_, rfl⟩
      | crashed | crashedAfter => exact .inr rfl

theorem effect_of_step (stepped : request.step tables event = some (after, moved)) :
    Effect tables request after moved := by
  cases request with
  | createBucket userId name stage => exact effect_stepCreate userId stage (Option.some.inj stepped)
  | deleteBucket name stage => exact effect_stepDelete stage (Option.some.inj stepped)
  | putObject name file stage => exact effect_stepPut file stage (Option.some.inj stepped)
  | created _ _ | deleted _ _ | registered _ _ | stopped => cases stepped

end BucketRequest

/-! ## Objects -/

/-- Every live file has its bucket. -/
def Housed (db : Database) : Prop :=
  ∀ file ∈ db.files, file.isLive = true → ∀ name, file.bucket = some name → db.HasBucket name

/-- A put that is about to register its file has its bucket, and a bucket that is about to be
deleted has no live file. -/
structure BucketRequest.Checked (tables : BucketTables) (request : BucketRequest) : Prop where
  puts : ∀ name, request.registers? = some name → tables.db.HasBucket name
  deletes : ∀ name, request.deletes? = some name → tables.db.bucketIsEmpty name = true

namespace BucketRequest

variable {tables after : BucketTables} {request moved other : BucketRequest} {name : String}

/-- A file that is registered is put into its bucket, behind the others. -/
theorem register_files (event : BucketEvent) (name : String) (file : CreateFile) :
    (stepPut tables event name file .register).1.db.buckets = tables.db.buckets ∧
      ∀ row ∈ (stepPut tables event name file .register).1.db.files,
        row ∈ tables.db.files ∨ row.bucket = some name := by
  dsimp only [stepPut, Database.createFile]
  split
  · split
    · exact ⟨rfl, fun row member => .inl member⟩
    · refine ⟨rfl, fun row member => (List.mem_append.mp member).imp_right fun added => ?_⟩
      rw [List.mem_singleton.mp added]
  · exact ⟨rfl, fun row member => .inl member⟩

theorem hasBucket_register {event : BucketEvent} {file : CreateFile} {bucket : String} :
    (stepPut tables event name file .register).1.db.HasBucket bucket ↔
      tables.db.HasBucket bucket := by
  rw [Database.hasBucket_iff, Database.hasBucket_iff, (register_files event name file).1]

/-- A bucket stays unless it is deleted. -/
theorem hasBucket_delete {event : BucketEvent} {bucket : String} (ne : bucket ≠ name)
    (has : tables.db.HasBucket bucket) :
    (stepDelete tables event name .delete).1.db.HasBucket bucket := by
  dsimp only [stepDelete]
  split
  · exact Database.hasBucket_deleteBucket_iff.mpr ⟨has, ne⟩
  · exact has

theorem files_delete (event : BucketEvent) :
    (stepDelete tables event name .delete).1.db.files = tables.db.files := by
  dsimp only [stepDelete]
  split <;> rfl

theorem checked_of_none (unregistered : moved.registers? = none)
    (undeleted : moved.deletes? = none) : moved.Checked tables where
  puts name registers := by
    rw [unregistered] at registers
    cases registers
  deletes name deletes := by
    rw [undeleted] at deletes
    cases deletes

/-- A request that moves is checked. -/
theorem Effect.checked (effect : Effect tables request after moved) : moved.Checked after := by
  cases effect with
  | passes request moved after same admitted =>
      constructor
      · intro name registers
        rw [same]
        exact admitted.checked name registers
      · intro name deletes
        rw [same]
        exact admitted.counted name deletes
  | creates userId name ownerId outcome moved answer =>
      obtain ⟨rfl, -⟩ | ⟨cause, rfl⟩ | rfl := answer <;> exact checked_of_none rfl rfl
  | registers name file event moved answer | deletes name event moved answer =>
      obtain ⟨result, rfl⟩ | rfl := answer <;> exact checked_of_none rfl rfl

/-- The other requests stay checked, if none of them deletes the bucket into which this one puts, or
puts into the bucket that this one deletes. -/
theorem Effect.keeps_checked (effect : Effect tables request after moved)
    (checked : other.Checked tables)
    (apart : ∀ name, (request.registers? = some name → other.deletes? ≠ some name) ∧
      (request.deletes? = some name → other.registers? ≠ some name)) : other.Checked after := by
  cases effect with
  | passes request moved after same admitted =>
      constructor
      · intro name registers
        rw [same]
        exact checked.puts name registers
      · intro name deletes
        rw [same]
        exact checked.deletes name deletes
  | creates userId name ownerId outcome moved answer =>
      constructor
      · intro bucket registers
        have has := checked.puts bucket registers
        split
        · exact BucketTables.hasBucket_createBucket has
        · exact has
      · intro bucket deletes
        have empty := Database.bucketIsEmpty_iff.mp (checked.deletes bucket deletes)
        refine Database.bucketIsEmpty_iff.mpr ?_
        split
        · rw [BucketTables.files_createBucket]
          exact empty
        · exact empty
  | registers name file event moved answer =>
      constructor
      · exact fun bucket registers => hasBucket_register.mpr (checked.puts bucket registers)
      · intro bucket deletes
        have empty := Database.bucketIsEmpty_iff.mp (checked.deletes bucket deletes)
        refine Database.bucketIsEmpty_iff.mpr fun row member live same => ?_
        rcases (register_files event name file).2 row member with before | put
        · exact empty row before live same
        · obtain rfl := Option.some.inj (put.symm.trans same)
          exact (apart name).1 rfl deletes
  | deletes name event moved answer =>
      constructor
      · intro bucket registers
        refine hasBucket_delete ?_ (checked.puts bucket registers)
        rintro rfl
        exact (apart bucket).2 rfl registers
      · intro bucket deletes
        have empty := Database.bucketIsEmpty_iff.mp (checked.deletes bucket deletes)
        refine Database.bucketIsEmpty_iff.mpr ?_
        rw [files_delete]
        exact empty

/-- A checked request leaves every live file its bucket. -/
theorem Effect.housed (effect : Effect tables request after moved)
    (checked : request.Checked tables) (housed : Housed tables.db) : Housed after.db := by
  cases effect with
  | passes request moved after same admitted =>
      rw [same]
      exact housed
  | creates userId name ownerId outcome moved answer =>
      split
      · intro file member live bucket same
        rw [BucketTables.files_createBucket] at member
        exact BucketTables.hasBucket_createBucket (housed file member live bucket same)
      · exact housed
  | registers name file event moved answer =>
      intro row member live bucket same
      refine hasBucket_register.mpr ?_
      rcases (register_files event name file).2 row member with before | put
      · exact housed row before live bucket same
      · obtain rfl := Option.some.inj (put.symm.trans same)
        exact checked.puts name rfl
  | deletes name event moved answer =>
      intro file member live bucket same
      rw [files_delete] at member
      refine hasBucket_delete ?_ (housed file member live bucket same)
      rintro rfl
      exact Database.bucketIsEmpty_iff.mp (checked.deletes bucket rfl) file member live same

end BucketRequest

namespace BucketRequests

/-- No put is about to register a file in a bucket that is about to be deleted. -/
def Apart (requests : BucketRequests) : Prop :=
  ∀ put ∈ requests.processes, ∀ deletion ∈ requests.processes, ∀ name ∈ put.registers?,
    deletion.deletes? ≠ some name

instance (requests : BucketRequests) : Decidable requests.Apart :=
  inferInstanceAs (Decidable (∀ put ∈ requests.processes, ∀ deletion ∈ requests.processes,
    ∀ name ∈ put.registers?, deletion.deletes? ≠ some name))

/-- Every live file has its bucket, and all requests are checked. -/
structure Sound (requests : BucketRequests) : Prop where
  housed : Housed requests.shared.db
  checked : ∀ request ∈ requests.processes, request.Checked requests.shared

variable {requests : BucketRequests}

theorem Sound.spawn (sound : requests.Sound) {request : BucketRequest}
    (unregistered : request.registers? = none) (undeleted : request.deletes? = none) :
    Sound (requests.spawn request) where
  housed := sound.housed
  checked other member := by
    rcases Pool.mem_spawn.mp member with before | rfl
    · exact sound.checked other before
    · exact BucketRequest.checked_of_none unregistered undeleted

theorem Sound.goOn (sound : requests.Sound) (apart : requests.Apart) (index : Nat)
    (event : BucketEvent) : Sound (requests.move BucketRequest.step index event) := by
  constructor
  · rcases requests.move_eq_or_step index event with same | ⟨request, shared, moved, found, stepped⟩
    · rw [same]
      exact sound.housed
    · rw [Pool.move_of_step found stepped]
      have checked := sound.checked request (List.mem_of_getElem? found)
      exact (BucketRequest.effect_of_step stepped).housed checked sound.housed
  · refine Pool.all_move requests index event ?_ ?_ sound.checked
    · exact fun _ stepped => (BucketRequest.effect_of_step stepped).checked
    · intro request shared moved other member other_member stepped checked
      refine (BucketRequest.effect_of_step stepped).keeps_checked checked fun name => ⟨?_, ?_⟩
      · exact apart request member other other_member name
      · exact fun deletes registers =>
          apart other other_member request member name registers deletes

/-- A deletion leaves no more live files than before, in the same buckets. -/
theorem deleteFile_live {db : Database} {fileId : Uuid} {now : Time} {file : File}
    (member : file ∈ (db.deleteFile fileId now).files) (live : file.isLive = true) :
    file ∈ db.files := by
  obtain ⟨before, listed, rfl⟩ := List.mem_map.mp member
  split at live
  · cases live
  · rename_i other
    rw [if_neg other]
    exact listed

theorem Sound.deleteFile (sound : requests.Sound) (fileId : Uuid) (now : Time) :
    (requests.apply (.deleteFile fileId now)).Sound where
  housed file member live := sound.housed file (deleteFile_live member live) live
  checked request member := by
    have checked := sound.checked request member
    refine ⟨checked.puts, fun name deletes => ?_⟩
    have empty := Database.bucketIsEmpty_iff.mp (checked.deletes name deletes)
    refine Database.bucketIsEmpty_iff.mpr fun file listed live => ?_
    exact empty file (deleteFile_live listed live) live

theorem Sound.createUser (sound : requests.Sound) (generated : Uuid) (walletAddress : String) :
    (requests.apply (.createUser generated walletAddress)).Sound := by
  have same := requests.shared.db_createUser generated walletAddress
  constructor
  · rw [BucketRequests.apply, same]
    exact sound.housed
  · intro request member
    have checked := sound.checked request member
    constructor
    · rw [BucketRequests.apply, same]
      exact checked.puts
    · rw [BucketRequests.apply, same]
      exact checked.deletes

theorem Sound.apply (sound : requests.Sound) (apart : requests.Apart) (step : BucketStep) :
    (requests.apply step).Sound := by
  cases step with
  | createBucket _ _ | deleteBucket _ | putObject _ _ =>
      exact sound.spawn rfl rfl
  | goOn index event => exact sound.goOn apart index event
  | deleteFile fileId now => exact sound.deleteFile fileId now
  | createUser generated walletAddress => exact sound.createUser generated walletAddress

end BucketRequests

/-- If no put stands between its check and the registration of its file while a deletion of the same
bucket stands between its last count and its statement, every live file has its bucket in every
interleaving of requests, however their statements end. -/
theorem objects_keep_their_bucket {tables : BucketTables} {steps : List BucketStep}
    (housed : Housed tables.db)
    (apart : EveryStep BucketRequests.apply (fun requests _ => requests.Apart)
      { shared := tables, processes := [] } steps) :
    EveryState BucketRequests.apply (fun reached => Housed reached.shared.db)
      { shared := tables, processes := [] } steps := by
  have start : BucketRequests.Sound { shared := tables, processes := [] } :=
    ⟨housed, fun _ member => by cases member⟩
  have keeps : ∀ (requests : BucketRequests) (step : BucketStep), requests.Sound →
      requests.Apart → (requests.apply step).Sound :=
    fun _ step sound apart => sound.apply apart step
  exact (everyState_of_everyStep keeps start apart).mono fun _ sound => sound.housed

/-- Tables without rows. -/
def noTables : BucketTables where
  db :=
    { buckets := []
      nodes := []
      files := []
      chunks := []
      chunkLocations := []
      repairJobs := [] }
  users := []

/-- No request has come yet. -/
def noRequests : BucketRequests := { shared := noTables, processes := [] }

/-- A file without contents. -/
def emptyFile (id : Uuid) : CreateFile where
  id := some id
  name := "file"
  path := "b/file"
  contentHash := []
  sizeBytes := 0
  chunkCount := 0
  dataShards := 10
  parityShards := 4
  chunkSize := 4194304
  ownerId := none
  bucket := none
  contentType := none

/-- A bucket is created, a file is put into it while a deletion counts none yet, and the bucket is
deleted once the file is. -/
theorem objects_keep_their_bucket_of_late_count :
    EveryState BucketRequests.apply (fun reached => Housed reached.shared.db) noRequests
      ([.createBucket "u" "b", .putObject "b" (emptyFile 1), .deleteBucket "b"] ++
        [0, 0, 0, 0, 0, 1, 2, 2, 2, 1, 1, 2].map (fun index => .goOn index ⟨.done, 7, 0⟩) ++
        [.deleteFile 1 0, .deleteBucket "b"] ++
        [3, 3, 3, 3, 3, 3].map fun index => .goOn index ⟨.done, 7, 0⟩) :=
  objects_keep_their_bucket (fun _ member => by cases member) (by decide)

/-! ## Names -/

/-- One if there is a bucket of the name. -/
def bucketsNamed (name : String) (db : Database) : Nat := (decide (db.HasBucket name)).toNat

theorem bucketsNamed_mono {db after : Database} {name : String}
    (kept : db.HasBucket name → after.HasBucket name) :
    bucketsNamed name db ≤ bucketsNamed name after := by
  rw [bucketsNamed, bucketsNamed]
  by_cases has : db.HasBucket name
  · rw [decide_eq_true has, decide_eq_true (kept has)]
  · rw [decide_eq_false has]
    exact Nat.zero_le _

/-- A statement that does not delete the bucket creates it at most when it is not there. -/
theorem BucketRequest.Effect.isCreated {tables after : BucketTables}
    {request moved : BucketRequest} {name : String}
    (effect : Effect tables request after moved) (undeleted : request.deletes? ≠ some name) :
    (moved.isCreated name).toNat + bucketsNamed name tables.db ≤ bucketsNamed name after.db := by
  cases effect with
  | passes request moved after same admitted =>
      rw [admitted.uncreated name, same]
      exact (Nat.zero_add _).le
  | creates userId other ownerId outcome moved answer =>
      have kept : tables.db.HasBucket name →
          (if outcome.applied then (tables.createBucket other ownerId).1 else tables).db.HasBucket
            name := by
        intro has
        split
        · exact BucketTables.hasBucket_createBucket has
        · exact has
      obtain ⟨rfl, applied, bucket, created⟩ | ⟨cause, rfl⟩ | rfl := answer
      · by_cases same : other = name
        · subst same
          obtain ⟨absent, present⟩ := BucketTables.createBucket_ok created
          rw [if_pos applied, bucketsNamed, bucketsNamed, decide_eq_false absent,
            decide_eq_true present, BucketRequest.isCreated, beq_self_eq_true]
          rfl
        · rw [BucketRequest.isCreated, beq_false_of_ne same]
          exact (Nat.zero_add _).trans_le (bucketsNamed_mono kept)
      · exact (Nat.zero_add _).trans_le (bucketsNamed_mono kept)
      · exact (Nat.zero_add _).trans_le (bucketsNamed_mono kept)
  | registers other file event moved answer =>
      obtain ⟨result, rfl⟩ | rfl := answer <;>
        exact (Nat.zero_add _).trans_le (bucketsNamed_mono hasBucket_register.mpr)
  | deletes other event moved answer =>
      have ne : name ≠ other := by
        rintro rfl
        exact undeleted rfl
      obtain ⟨result, rfl⟩ | rfl := answer <;>
        exact (Nat.zero_add _).trans_le (bucketsNamed_mono (hasBucket_delete ne))

namespace BucketRequests

/-- The answers that a bucket has been created. -/
def creations (name : String) (requests : BucketRequests) : Nat :=
  requests.processes.countP (BucketRequest.isCreated name)

/-- A step is not the statement that deletes the bucket. -/
def Undeleted (name : String) (requests : BucketRequests) : BucketStep → Prop
  | .goOn index _ => ∀ request ∈ requests.processes[index]?, request.deletes? ≠ some name
  | .createBucket _ _ | .deleteBucket _ | .putObject _ _ | .deleteFile _ _ | .createUser _ _ => True

instance (name : String) (requests : BucketRequests) :
    DecidablePred (requests.Undeleted name)
  | .goOn index _ => inferInstanceAs
      (Decidable (∀ request ∈ requests.processes[index]?, request.deletes? ≠ some name))
  | .createBucket _ _ | .deleteBucket _ | .putObject _ _ | .deleteFile _ _ | .createUser _ _ =>
      inferInstanceAs (Decidable True)

theorem creations_apply {name : String} {requests : BucketRequests} {step : BucketStep}
    (undeleted : requests.Undeleted name step) :
    (requests.apply step).creations name + bucketsNamed name requests.shared.db ≤
      requests.creations name + bucketsNamed name (requests.apply step).shared.db := by
  cases step with
  | createBucket _ _ | deleteBucket _ | putObject _ _ =>
      rw [BucketRequests.apply, creations, Pool.spawn, List.countP_append]
      exact le_rfl
  | deleteFile fileId now => exact le_rfl
  | createUser generated walletAddress =>
      rw [BucketRequests.apply, BucketTables.db_createUser]
      exact le_rfl
  | goOn index event =>
      rw [BucketRequests.apply]
      rcases requests.move_eq_or_step index event with
        same | ⟨request, shared, moved, found, stepped⟩
      · rw [same]
      · have effect := BucketRequest.effect_of_step stepped
        have balance := effect.isCreated (undeleted request found)
        have counted := Pool.total_move_of_step found stepped
          fun request => (request.isCreated name).toNat
        rw [Pool.total_toNat, Pool.total_toNat] at counted
        rw [creations, creations]
        rw [show (requests.move BucketRequest.step index event).shared = shared by
          rw [Pool.move_of_step found stepped]]
        omega

end BucketRequests

/-- While nobody deletes a bucket, at most one request creates it, and none if it is there: the
answers that it was created are at most one more than before, and are followed by the bucket. -/
theorem bucket_created_once {name : String} {requests : BucketRequests} {steps : List BucketStep}
    (undeleted : EveryStep BucketRequests.apply (BucketRequests.Undeleted name) requests steps) :
    EveryState BucketRequests.apply
      (fun reached => reached.creations name + bucketsNamed name requests.shared.db ≤
        requests.creations name + bucketsNamed name reached.shared.db) requests steps := by
  have keeps : ∀ (reached : BucketRequests) (step : BucketStep),
      reached.creations name + bucketsNamed name requests.shared.db ≤
        requests.creations name + bucketsNamed name reached.shared.db →
      reached.Undeleted name step →
      (reached.apply step).creations name + bucketsNamed name requests.shared.db ≤
        requests.creations name + bucketsNamed name (reached.apply step).shared.db := by
    intro reached step counted met
    have balance := BucketRequests.creations_apply met
    omega
  exact everyState_of_everyStep keeps le_rfl undeleted

/-- Two gateways create a bucket at the same time, and the statement of the second is refused. -/
theorem bucket_created_once_of_two :
    EveryState BucketRequests.apply
      (fun reached => reached.creations "b" + bucketsNamed "b" noRequests.shared.db ≤
        noRequests.creations "b" + bucketsNamed "b" reached.shared.db) noRequests
      ([.createBucket "u" "b", .createBucket "v" "b"] ++
        [0, 0, 1, 1, 0, 1, 0, 1, 0, 1].map fun index => .goOn index ⟨.done, 7 + index, 0⟩) :=
  @bucket_created_once "b" _ _ (by decide)

end CyxCloud.Gateway
