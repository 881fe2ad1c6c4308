import CyxCloud.Metadata.Database

/-!
# Buckets and their owners

The statements of `cyxcloud-metadata/src/postgres.rs` on buckets and on the users who own them.
Names of buckets and wallets of users are unique, and a bucket belongs to a user.
-/

namespace CyxCloud.Metadata

open CyxCloud.Core Library

/-- A row of `users`. -/
structure User where
  id : Uuid
  walletAddress : Option String
  deriving DecidableEq, Repr

namespace Database

variable (db : Database)

/-- Count the live files of a bucket. -/
def countFilesInBucket (bucketName : String) : Nat :=
  db.files.countP fun file => file.bucket == some bucketName && file.isLive

/-- Check if a bucket is empty. -/
def bucketIsEmpty (bucketName : String) : Bool := db.countFilesInBucket bucketName == 0

/-- Delete a bucket by name, whether it is empty or not. -/
def deleteBucket (name : String) : Database :=
  { db with buckets := db.buckets.filter fun bucket => bucket.name != name }

/-- A bucket has the name. -/
def HasBucket (name : String) : Prop := (db.getBucket name).isSome = true

instance (name : String) : Decidable (db.HasBucket name) :=
  inferInstanceAs (Decidable ((db.getBucket name).isSome = true))

variable {db} {name : String}

theorem hasBucket_iff : db.HasBucket name ↔ ∃ bucket ∈ db.buckets, bucket.name = name := by
  rw [HasBucket, getBucket, List.find?_isSome]
  simp

theorem hasBucket_deleteBucket_iff {other : String} :
    (db.deleteBucket name).HasBucket other ↔ db.HasBucket other ∧ other ≠ name := by
  rw [hasBucket_iff, hasBucket_iff]
  constructor
  · rintro ⟨bucket, member, rfl⟩
    obtain ⟨listed, ne⟩ := List.mem_filter.mp member
    exact ⟨⟨bucket, listed, rfl⟩, bne_iff_ne.mp ne⟩
  · rintro ⟨⟨bucket, listed, rfl⟩, ne⟩
    exact ⟨bucket, List.mem_filter.mpr ⟨listed, bne_iff_ne.mpr ne⟩, rfl⟩

theorem bucketIsEmpty_iff :
    db.bucketIsEmpty name = true ↔
      ∀ file ∈ db.files, file.isLive = true → file.bucket ≠ some name := by
  rw [bucketIsEmpty, countFilesInBucket, beq_iff_eq, List.countP_eq_zero]
  refine forall₂_congr fun file _ => ?_
  rw [Bool.and_eq_true, beq_iff_eq, not_and']

end Database

/-- The tables that requests on buckets use. -/
structure BucketTables where
  db : Database
  users : List User

namespace BucketTables

variable (tables : BucketTables)

/-- Get a user by the address of the wallet. -/
def getUserByWallet (walletAddress : String) : Option User :=
  tables.users.find? fun user => user.walletAddress == some walletAddress

/-- Create a user. -/
def createUser (generated : Uuid) (walletAddress : String) : BucketTables × Except DbError User :=
  if tables.users.any fun user =>
      user.id == generated || user.walletAddress == some walletAddress then
    (tables, .error .uniqueViolation)
  else
    let user : User :=
      { id := generated
        walletAddress := some walletAddress }
    ({ tables with users := tables.users ++ [user] }, .ok user)

/-- Create a bucket. -/
def createBucket (name : String) (ownerId : Uuid) : BucketTables × Except DbError Bucket :=
  if tables.db.HasBucket name then
    (tables, .error .uniqueViolation)
  else if tables.users.any fun user => user.id == ownerId then
    let bucket : Bucket := { name, ownerId }
    ({ tables with db := { tables.db with buckets := tables.db.buckets ++ [bucket] } }, .ok bucket)
  else
    (tables, .error .foreignKeyViolation)

@[simp]
theorem db_createUser (generated : Uuid) (walletAddress : String) :
    (tables.createUser generated walletAddress).1.db = tables.db := by
  rw [createUser]
  split <;> rfl

@[simp]
theorem files_createBucket (name : String) (ownerId : Uuid) :
    (tables.createBucket name ownerId).1.db.files = tables.db.files := by
  rw [createBucket]
  split
  · rfl
  · split <;> rfl

variable {tables}

/-- The creation of a bucket leaves the others. -/
theorem hasBucket_createBucket {name other : String} {ownerId : Uuid}
    (has : tables.db.HasBucket other) :
    (tables.createBucket name ownerId).1.db.HasBucket other := by
  rw [createBucket]
  split
  · exact has
  · split
    · obtain ⟨bucket, listed, rfl⟩ := Database.hasBucket_iff.mp has
      exact Database.hasBucket_iff.mpr ⟨bucket, List.mem_append_left _ listed, rfl⟩
    · exact has

/-- A bucket that is created was not there, and is there afterwards. -/
theorem createBucket_ok {name : String} {ownerId : Uuid} {bucket : Bucket}
    (created : (tables.createBucket name ownerId).2 = .ok bucket) :
    ¬tables.db.HasBucket name ∧ (tables.createBucket name ownerId).1.db.HasBucket name := by
  rw [createBucket] at created ⊢
  split at created
  · cases created
  · rename_i absent
    split at created
    · rename_i owned
      rw [if_neg absent, if_pos owned]
      exact ⟨absent, Database.hasBucket_iff.mpr ⟨⟨name, ownerId⟩, by simp, rfl⟩⟩
    · cases created

end BucketTables

end CyxCloud.Metadata
