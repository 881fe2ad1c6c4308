import CyxCloud.Library.Words
import CyxCloud.Rebalancer.Detector

/-!
# Priorities of repairs

A scan gives each chunk a priority: fixed ones with no and with one available replica, and from two
on one that grows with the replicas that are missing.
-/

namespace CyxCloud.Rebalancer

open Library

/-- The priority of a health status, unless its computation overflows. -/
def ChunkIssue.calculatePriorityChecked : ChunkHealth → Option UInt32
  | .underReplicated current target =>
      if current = 0 then some 900
      else if current = 1 then some 800
      else do
        let missing ← checkedSub target current
        let bonus ← checked 32 (narrowed 32 missing * 100)
        let priority ← checked 32 (500 + bonus)
        return UInt32.ofNat priority
  | health => some (calculatePriority health)

/-- The priorities of issues are computed without overflow, do not grow with the number of available
replicas, and are at most that of a critical chunk. -/
structure PrioritiesSound (issues : List ChunkIssue) : Prop where
  computed : ∀ issue ∈ issues,
    ChunkIssue.calculatePriorityChecked issue.health = some issue.priority
  antitone : ∀ fewer ∈ issues, ∀ more ∈ issues,
    fewer.currentNodes.length < more.currentNodes.length → more.priority ≤ fewer.priority
  capped : ∀ issue ∈ issues, issue.priority ≤ ChunkIssue.calculatePriority .critical

/-- Replicas that are missing to a target, as a word of 32 bits. -/
def missingReplicas (target count : Nat) : Nat := narrowed 32 (target - count)

/-- The numbers of available replicas suit a target: from two on there are no more than it and at
most five are missing, at most three beside a chunk with a single replica. -/
structure CountsSuit (target : Nat) (counts : List Nat) : Prop where
  some_missing : ∀ count ∈ counts, 2 ≤ count → count ≤ target ∧ missingReplicas target count ≤ 5
  beside_single : 1 ∈ counts → ∀ count ∈ counts, 2 ≤ count → missingReplicas target count ≤ 3
  ordered : ∀ fewer ∈ counts, ∀ more ∈ counts, 2 ≤ fewer → fewer < more →
    missingReplicas target more ≤ missingReplicas target fewer

/-! ## The priority of a number of replicas -/

/-- What a scan reports of a chunk with some number of available replicas. -/
def healthOf (target count : Nat) : ChunkHealth :=
  if count = 0 then .critical else .underReplicated count target

/-- Its priority. -/
def priorityOf (target count : Nat) : UInt32 :=
  ChunkIssue.calculatePriority (healthOf target count)

theorem priorityOf_one (target : Nat) : priorityOf target 1 = 800 := rfl

variable {target count : Nat}

theorem calculatePriority_of_two_le (several : 2 ≤ count) :
    ChunkIssue.calculatePriority (.underReplicated count target) =
      500 + (UInt64.ofNat target - UInt64.ofNat count).toUInt32 * 100 := by
  rw [ChunkIssue.calculatePriority, if_neg (by omega), if_neg (by omega)]

theorem healthOf_of_two_le (several : 2 ≤ count) :
    healthOf target count = .underReplicated count target := by
  rw [healthOf, if_neg (by omega)]

/-- Without overflow the priority is a hundred for each missing replica, and five hundred. -/
theorem priorityOf_toNat (several : 2 ≤ count) (ordered : count ≤ target)
    (fits : 500 + missingReplicas target count * 100 < 2 ^ 32) :
    (priorityOf target count).toNat = 500 + missingReplicas target count * 100 := by
  have cast : (UInt64.ofNat target - UInt64.ofNat count).toUInt32 =
      UInt32.ofNat (missingReplicas target count) := by
    rw [← UInt64.ofNat_sub ordered]
    refine UInt32.toNat_inj.mp ?_
    simp [missingReplicas, narrowed]
  rw [priorityOf, healthOf_of_two_le several, calculatePriority_of_two_le several, cast]
  simp only [UInt32.toNat_add, UInt32.toNat_mul, UInt32.toNat_ofNat', UInt32.reduceToNat]
  omega

/-- The computation overflows exactly for more replicas than the target and for too many missing
ones. -/
theorem calculatePriorityChecked_healthOf_iff :
    ChunkIssue.calculatePriorityChecked (healthOf target count) = some (priorityOf target count) ↔
      (2 ≤ count → count ≤ target ∧ 500 + missingReplicas target count * 100 < 2 ^ 32) := by
  by_cases several : 2 ≤ count
  · rw [healthOf_of_two_le several, ChunkIssue.calculatePriorityChecked, if_neg (by omega),
      if_neg (by omega)]
    by_cases ordered : count ≤ target
    · rw [checkedSub_of_le ordered]
      change (checked 32 (missingReplicas target count * 100) >>= fun bonus =>
        checked 32 (500 + bonus) >>= fun priority => some (UInt32.ofNat priority)) = _ ↔ _
      rw [← bind_assoc, checked_bind_add]
      by_cases fits : 500 + missingReplicas target count * 100 < 2 ^ 32
      · rw [checked_of_lt fits, ← priorityOf_toNat several ordered fits, Option.bind_eq_bind,
          Option.bind_some, UInt32.ofNat_toNat]
        exact iff_of_true rfl fun _ => ⟨ordered, UInt32.toNat_lt _⟩
      · rw [checked_eq_none_iff.mpr (Nat.le_of_not_lt fits)]
        exact iff_of_false nofun fun fine => fits (fine several).2
    · rw [checkedSub_eq_none_iff.mpr (Nat.lt_of_not_le ordered)]
      exact iff_of_false nofun fun fine => ordered (fine several).1
  · have few : count = 0 ∨ count = 1 := by omega
    rcases few with rfl | rfl
    · exact iff_of_true rfl fun two => absurd two several
    · exact iff_of_true rfl fun two => absurd two several

/-! ## The priorities of a scan -/

/-- Available replicas of a candidate. -/
def availableReplicas (healthyNodes : List String) (chunk : ChunkInfo) : Nat :=
  (chunk.nodeIds.filter fun nodeId => healthyNodes.contains nodeId).length

section Candidates

variable (config : DetectorConfig) (healthyNodes : List String) (chunk : ChunkInfo)

theorem issueOf_length : (Detector.issueOf config healthyNodes chunk).currentNodes.length =
    availableReplicas healthyNodes chunk := rfl

theorem issueOf_health : (Detector.issueOf config healthyNodes chunk).health =
    healthOf config.replicationFactor (availableReplicas healthyNodes chunk) := by
  by_cases none_available :
      (chunk.nodeIds.filter fun nodeId => healthyNodes.contains nodeId) = []
  · simp only [Detector.issueOf, healthOf, availableReplicas, none_available]
    rfl
  · simp only [Detector.issueOf, healthOf, availableReplicas, List.isEmpty_iff, none_available,
      List.length_eq_zero_iff, if_false]

theorem issueOf_priority : (Detector.issueOf config healthyNodes chunk).priority =
    priorityOf config.replicationFactor (availableReplicas healthyNodes chunk) :=
  congrArg ChunkIssue.calculatePriority (issueOf_health config healthyNodes chunk)

end Candidates

/-- The priorities of numbers of replicas are sound for a target. -/
structure CountsSound (target : Nat) (counts : List Nat) : Prop where
  computed : ∀ count ∈ counts, ChunkIssue.calculatePriorityChecked (healthOf target count) =
    some (priorityOf target count)
  antitone : ∀ fewer ∈ counts, ∀ more ∈ counts,
    fewer < more → priorityOf target more ≤ priorityOf target fewer
  capped : ∀ count ∈ counts,
    priorityOf target count ≤ ChunkIssue.calculatePriority .critical

theorem prioritiesSound_map_iff (config : DetectorConfig) (healthyNodes : List String)
    (candidates : List ChunkInfo) :
    PrioritiesSound (candidates.map (Detector.issueOf config healthyNodes)) ↔
      CountsSound config.replicationFactor (candidates.map (availableReplicas healthyNodes)) := by
  constructor
  · rintro ⟨computed, antitone, capped⟩
    simp only [List.forall_mem_map, issueOf_length, issueOf_health, issueOf_priority]
      at computed antitone capped
    refine ⟨?_, ?_, ?_⟩
    · simpa only [List.forall_mem_map] using computed
    · simpa only [List.forall_mem_map] using antitone
    · simpa only [List.forall_mem_map] using capped
  · rintro ⟨computed, antitone, capped⟩
    simp only [List.forall_mem_map] at computed antitone capped
    refine ⟨?_, ?_, ?_⟩
    · simpa only [List.forall_mem_map, issueOf_health, issueOf_priority] using computed
    · simpa only [List.forall_mem_map, issueOf_length, issueOf_priority] using antitone
    · simpa only [List.forall_mem_map, issueOf_priority] using capped

/-- The priorities are sound for a target exactly when the numbers of replicas suit it. -/
theorem countsSound_iff (target : Nat) (counts : List Nat) :
    CountsSound target counts ↔ CountsSuit target counts := by
  constructor
  · rintro ⟨computed, antitone, capped⟩
    have fits : ∀ count ∈ counts, 2 ≤ count →
        count ≤ target ∧ 500 + missingReplicas target count * 100 < 2 ^ 32 :=
      fun count member => calculatePriorityChecked_healthOf_iff.mp (computed count member)
    have value : ∀ count ∈ counts, 2 ≤ count →
        (priorityOf target count).toNat = 500 + missingReplicas target count * 100 :=
      fun count member several =>
        priorityOf_toNat several (fits count member several).1 (fits count member several).2
    refine ⟨?_, ?_, ?_⟩
    · intro count member several
      have bound := UInt32.le_iff_toNat_le.mp (capped count member)
      rw [value count member several] at bound
      refine ⟨(fits count member several).1, ?_⟩
      have critical : (ChunkIssue.calculatePriority .critical).toNat = 1000 := rfl
      omega
    · intro single count member several
      have bound := UInt32.le_iff_toNat_le.mp (antitone 1 single count member several)
      rw [value count member several, priorityOf_one] at bound
      have eight_hundred : (800 : UInt32).toNat = 800 := rfl
      omega
    · intro fewer fewer_mem more more_mem several less
      have bound := UInt32.le_iff_toNat_le.mp (antitone fewer fewer_mem more more_mem less)
      rw [value fewer fewer_mem several, value more more_mem (several.trans less.le)] at bound
      omega
  · rintro ⟨some_missing, beside_single, ordered⟩
    have value : ∀ count ∈ counts, 2 ≤ count →
        (priorityOf target count).toNat = 500 + missingReplicas target count * 100 := by
      intro count member several
      have bound := some_missing count member several
      exact priorityOf_toNat several bound.1 (by omega)
    have capped : ∀ count ∈ counts,
        priorityOf target count ≤ ChunkIssue.calculatePriority .critical := by
      intro count member
      rw [UInt32.le_iff_toNat_le]
      rcases Nat.lt_or_ge count 2 with few | several
      · have either : count = 0 ∨ count = 1 := by omega
        rcases either with rfl | rfl
        · exact Nat.le_refl 1000
        · exact (by decide : 800 ≤ 1000)
      · have bound := (some_missing count member several).2
        rw [value count member several]
        change 500 + missingReplicas target count * 100 ≤ 1000
        omega
    refine ⟨?_, ?_, capped⟩
    · intro count member
      refine calculatePriorityChecked_healthOf_iff.mpr fun several => ?_
      have bound := some_missing count member several
      exact ⟨bound.1, by omega⟩
    · intro fewer fewer_mem more more_mem less
      rcases Nat.eq_zero_or_pos fewer with rfl | positive
      · exact capped more more_mem
      · have several : 2 ≤ more := by omega
        rw [UInt32.le_iff_toNat_le, value more more_mem several]
        rcases Nat.lt_or_ge fewer 2 with single | both
        · have one : fewer = 1 := by omega
          subst one
          have bound := beside_single fewer_mem more more_mem several
          change 500 + missingReplicas target more * 100 ≤ 800
          omega
        · have bound := ordered fewer fewer_mem more more_mem both less
          rw [value fewer fewer_mem both]
          omega

/-- The priorities that a scan gives are sound exactly when the numbers of available replicas of its
candidates suit the target of its configuration. -/
theorem prioritiesSound_scan_iff {detector cached : Detector} {metadataClient : MetadataClient}
    {networkClient : NetworkClient} {healthyNodes : List String} {candidates : List ChunkInfo}
    (healthy : detector.getHealthyNodes networkClient = .ok (cached, healthyNodes))
    (found : metadataClient.getUnderReplicatedChunks detector.config.batchSize = .ok candidates) :
    ∃ result, detector.scan metadataClient networkClient = .ok (cached, result) ∧
      (PrioritiesSound result.underReplicated ↔
        CountsSuit detector.config.replicationFactor
          (candidates.map (availableReplicas healthyNodes))) := by
  rw [← countsSound_iff, ← prioritiesSound_map_iff, Detector.scan, healthy]
  simp only [found]
  exact ⟨_, rfl, Iff.rfl⟩

namespace Basic

/-- Five nodes, all online. -/
def onlineNodes : NetworkClient where
  getAllNodes := .ok ["n1", "n2", "n3", "n4", "n5"]
  checkNodeAvailability _ := .ok .online

/-- A chunk on some of the nodes. -/
def heldBy (nodeIds : List String) : ChunkInfo :=
  { chunkId := [1]
    nodeIds
    fileId := none
    size := 1024 }

/-- Chunks that lack replicas. -/
def lacking (candidates : List ChunkInfo) : MetadataClient where
  getUnderReplicatedChunks _ := .ok candidates

/-- A scan for a target. -/
def scanFor (replicationFactor : Nat) (candidates : List ChunkInfo) :
    Except DetectorError (Detector × ScanResult) :=
  (Detector.new { replicationFactor, batchSize := 1000 }).scan (lacking candidates) onlineNodes

end Basic

/-- Chunks with one and with two of three replicas. -/
theorem prioritiesSound_scan_three :
    ∃ cached result,
      Basic.scanFor 3 [Basic.heldBy ["n1"], Basic.heldBy ["n1", "n2"]] = .ok (cached, result) ∧
        PrioritiesSound result.underReplicated := by
  obtain ⟨cached, healthy⟩ : ∃ cached,
      (Detector.new { replicationFactor := 3, batchSize := 1000 }).getHealthyNodes
        Basic.onlineNodes = .ok (cached, ["n1", "n2", "n3", "n4", "n5"]) := ⟨_, rfl⟩
  have found : (Basic.lacking [Basic.heldBy ["n1"], Basic.heldBy ["n1", "n2"]]
      ).getUnderReplicatedChunks 1000 =
    .ok [Basic.heldBy ["n1"], Basic.heldBy ["n1", "n2"]] := rfl
  obtain ⟨result, ran, sound⟩ := prioritiesSound_scan_iff healthy found
  have suits : CountsSuit 3 [1, 2] := ⟨by decide, by decide, by decide⟩
  exact ⟨cached, result, ran, sound.mpr suits⟩

/-- Four available replicas are more than a target of three, so that the subtraction underflows, and
with a target of ten a chunk with two replicas goes before one with a single replica and before a
critical one. -/
theorem not_prioritiesSound :
    (∃ cached result, Basic.scanFor 3 [Basic.heldBy ["n1", "n2", "n3", "n4"]] =
        .ok (cached, result) ∧ ¬ PrioritiesSound result.underReplicated) ∧
      ∃ cached result, Basic.scanFor 10 [Basic.heldBy ["n1"], Basic.heldBy ["n1", "n2"]] =
        .ok (cached, result) ∧ ¬ PrioritiesSound result.underReplicated := by
  constructor
  · refine ⟨_, _, rfl, fun sound => ?_⟩
    have computed := sound.computed _ List.mem_cons_self
    revert computed
    decide
  · refine ⟨_, _, rfl, fun sound => ?_⟩
    have antitone := sound.antitone _ List.mem_cons_self _
      (List.mem_cons_of_mem _ List.mem_cons_self)
    revert antitone
    decide

end CyxCloud.Rebalancer
