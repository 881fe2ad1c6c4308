import CyxCloud.Rebalancer.Permits

/-!
# Records of attempts

The loop over the attempts of a task keeps the targets that have succeeded and those that are left
in two lists, which it updates by different rules.  They are compared with what the attempts that
have ended have reported.
-/

namespace CyxCloud.Rebalancer

/-- An attempt that has ended: the targets that it was to reach and what it returned. -/
structure Report where
  requested : List String
  outcome : Except ExecutorError (List String)

/-- The targets that an attempt has reported succeeded. -/
def Report.succeeded (report : Report) : List String :=
  match report.outcome with
  | .ok succeeded => succeeded
  | .error _ => []

/-- The report of an attempt for the targets that are left. -/
def Attempts.report (attempts : Attempts) (outcome : Except ExecutorError (List String)) : Report :=
  { requested := attempts.targetsFailed
    outcome }

/-- What a task has recorded after a number of reports.  The lists of the targets are a partition,
the targets that succeeded are those that were reported, no later attempt has requested one of
them, and as long as a target is left there is an error that says why. -/
structure Recorded (task : RepairTask) (reports : List Report) (attempts : Attempts) : Prop where
  partition : (attempts.targetsSucceeded ++ attempts.targetsFailed).Perm task.targetNodes
  succeeded : ∀ target,
    target ∈ attempts.targetsSucceeded ↔ ∃ report ∈ reports, target ∈ report.succeeded
  once : reports.Pairwise fun earlier later => earlier.succeeded.Disjoint later.requested
  explained : reports ≠ [] → attempts.targetsFailed ≠ [] → attempts.lastError ≠ none

/-- What the result of a task says of its reports. -/
structure TaskResult.Kept (task : RepairTask) (reports : List Report) (result : TaskResult) :
    Prop where
  taskId : result.taskId = task.taskId
  partition : (result.targetsSucceeded ++ result.targetsFailed).Perm task.targetNodes
  succeeded : ∀ target,
    target ∈ result.targetsSucceeded ↔ ∃ report ∈ reports, target ∈ report.succeeded
  once : reports.Pairwise fun earlier later => earlier.succeeded.Disjoint later.requested
  success : result.success = true ↔ result.targetsFailed = []
  error : result.error = none ↔ result.success = true

/-! ## The list of the targets that succeeded -/

section Gathered

variable (succeeded known : List String)

theorem mem_gathered (target : String) :
    target ∈ succeeded.foldl
        (fun known target => if known.contains target then known else known ++ [target]) known ↔
      target ∈ known ∨ target ∈ succeeded := by
  induction succeeded generalizing known with
  | nil => simp
  | cons first rest induction =>
      rw [List.foldl_cons, induction, List.mem_cons]
      split
      · rename_i contained
        have first_mem : first ∈ known := List.contains_iff_mem.mp contained
        constructor
        · rintro (earlier | later)
          · exact .inl earlier
          · exact .inr (.inr later)
        · rintro (earlier | rfl | later)
          · exact .inl earlier
          · exact .inl first_mem
          · exact .inr later
      · rw [List.mem_append, List.mem_singleton, or_assoc]

theorem nodup_gathered {known : List String} (distinct : known.Nodup) :
    (succeeded.foldl
      (fun known target => if known.contains target then known else known ++ [target])
      known).Nodup := by
  induction succeeded generalizing known with
  | nil => exact distinct
  | cons first rest induction =>
      rw [List.foldl_cons]
      split
      · exact induction distinct
      · rename_i missing
        have first_new : first ∉ known := fun member => missing (List.contains_iff_mem.mpr member)
        refine induction (List.Nodup.append distinct (List.nodup_singleton first) ?_)
        intro target earlier same
        rw [List.mem_singleton.mp same] at earlier
        exact first_new earlier

end Gathered

/-! ## Attempts -/

section Attempts

variable {task : RepairTask} {reports : List Report} {attempts : Attempts}

theorem recorded_first (task : RepairTask) : Recorded task [] (.first task) where
  partition := .refl _
  succeeded target := by simp [Attempts.first]
  once := .nil
  explained none_yet := absurd rfl none_yet

/-- The targets that are left are none of those that have been reported. -/
theorem Recorded.disjoint (recorded : Recorded task reports attempts)
    (distinct : task.targetNodes.Nodup) :
    attempts.targetsSucceeded.Disjoint attempts.targetsFailed := by
  have listed_once := recorded.partition.nodup_iff.mpr distinct
  exact (List.nodup_append'.mp listed_once).2.2

/-- An attempt for the targets that are left requests none that has been reported. -/
theorem Recorded.once_more (recorded : Recorded task reports attempts)
    (distinct : task.targetNodes.Nodup) (outcome : Except ExecutorError (List String)) :
    (reports ++ [attempts.report outcome]).Pairwise fun earlier later =>
      earlier.succeeded.Disjoint later.requested := by
  rw [List.pairwise_append]
  refine ⟨recorded.once, List.pairwise_singleton _ _, ?_⟩
  intro report member latest latest_mem target reported requested
  rw [List.mem_singleton.mp latest_mem] at requested
  have known := (recorded.succeeded target).mpr ⟨report, member, reported⟩
  exact recorded.disjoint distinct known requested

theorem exists_report_append (reports : List Report) (latest : Report) (target : String) :
    (∃ report ∈ reports ++ [latest], target ∈ report.succeeded) ↔
      (∃ report ∈ reports, target ∈ report.succeeded) ∨ target ∈ latest.succeeded := by
  simp [or_and_right, exists_or]

/-- The lists of the targets stay a partition when some of the targets that are left succeed. -/
theorem Recorded.partition_of_ok (recorded : Recorded task reports attempts)
    (distinct : task.targetNodes.Nodup) {succeeded : List String}
    (requested : succeeded ⊆ attempts.targetsFailed) :
    ((attempts.record task (.ok succeeded)).targetsSucceeded ++
      (attempts.record task (.ok succeeded)).targetsFailed).Perm task.targetNodes := by
  have listed_once := recorded.partition.nodup_iff.mpr distinct
  obtain ⟨known_distinct, left_distinct, apart⟩ := List.nodup_append'.mp listed_once
  have new_distinct : ((attempts.record task (.ok succeeded)).targetsSucceeded ++
      (attempts.record task (.ok succeeded)).targetsFailed).Nodup := by
    refine List.Nodup.append (nodup_gathered succeeded known_distinct)
      (left_distinct.filter _) ?_
    intro target gathered left
    obtain ⟨still, unreported⟩ := List.mem_filter.mp left
    rcases (mem_gathered succeeded _ target).mp gathered with known | reported
    · exact apart known still
    · simp [reported] at unreported
  refine (List.perm_ext_iff_of_nodup new_distinct distinct).mpr ?_
  intro target
  rw [← recorded.partition.mem_iff, List.mem_append, List.mem_append]
  change target ∈ succeeded.foldl _ attempts.targetsSucceeded ∨
    target ∈ attempts.targetsFailed.filter _ ↔ _
  rw [mem_gathered, List.mem_filter]
  by_cases reported : target ∈ succeeded
  · have left := requested reported
    simp [reported, left]
  · simp [reported]

/-- The record of an attempt that reports only targets that it was to reach. -/
theorem Recorded.record (recorded : Recorded task reports attempts)
    (distinct : task.targetNodes.Nodup) (outcome : Except ExecutorError (List String))
    (requested : ∀ succeeded, outcome = .ok succeeded → succeeded ⊆ attempts.targetsFailed) :
    Recorded task (reports ++ [attempts.report outcome])
      (attempts.record task outcome) := by
  have once := recorded.once_more distinct outcome
  cases outcome with
  | ok succeeded =>
      refine ⟨recorded.partition_of_ok distinct (requested succeeded rfl), ?_, once, ?_⟩
      · intro target
        rw [exists_report_append, ← recorded.succeeded]
        exact mem_gathered succeeded attempts.targetsSucceeded target
      · intro _ left
        simp only [Attempts.record, ne_eq, ← List.isEmpty_iff] at left ⊢
        rw [if_neg left]
        exact Option.some_ne_none _
  | error cause =>
      refine ⟨recorded.partition, ?_, once, ?_⟩
      · intro target
        rw [exists_report_append, ← recorded.succeeded]
        simp [Attempts.record, Attempts.report, Report.succeeded]
      · intro _ _
        exact Option.some_ne_none cause

/-- The number of the attempt does not matter. -/
theorem Recorded.numbered (recorded : Recorded task reports attempts) (attempt : Nat) :
    Recorded task reports { attempts with attempt } where
  partition := recorded.partition
  succeeded := recorded.succeeded
  once := recorded.once
  explained := recorded.explained

/-- The result of a task with at least one report. -/
theorem Recorded.result (recorded : Recorded task reports attempts) (some_report : reports ≠ []) :
    (attempts.result task).Kept task reports where
  taskId := rfl
  partition := recorded.partition
  succeeded := recorded.succeeded
  once := recorded.once
  success := List.isEmpty_iff
  error := by
    simp only [Attempts.result, List.isEmpty_iff]
    by_cases all_reached : attempts.targetsFailed = []
    · simp [all_reached]
    · simp [all_reached, recorded.explained some_report all_reached]

end Attempts

end CyxCloud.Rebalancer
