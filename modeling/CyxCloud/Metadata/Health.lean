import Mathlib.Data.List.DropRight
import CyxCloud.Library.Runs
import CyxCloud.Library.Words

/-!
# Health checks

`cyxcloud-metadata/src/health.rs` in a release build, where a counter wraps.  The checker is
represented by what it answers.  Instants and durations are left out.
-/

namespace CyxCloud.Metadata

open Library

/-! ## Data -/

/-- Health status of a node. -/
inductive HealthStatus where
  | healthy
  | degraded
  | unhealthy
  /-- Not yet checked. -/
  | unknown
  deriving DecidableEq, Repr

/-- Result of a health check. -/
structure HealthCheckResult where
  status : HealthStatus
  networkOk : Bool
  latencyMs : Option UInt64
  grpcOk : Bool
  storageOk : Bool
  consecutiveFailures : Nat
  error : Option String
  deriving DecidableEq, Repr

/-- Determine the status from the check results. -/
def HealthCheckResult.determineStatus (result : HealthCheckResult) : HealthCheckResult :=
  if result.networkOk && result.grpcOk && result.storageOk then
    { result with status := .healthy }
  else if result.networkOk && (result.grpcOk || result.storageOk) then
    { result with status := .degraded }
  else
    { result with status := .unhealthy }

/-- Health check configuration. -/
structure HealthConfig where
  /-- Number of failures before marking unhealthy. -/
  failureThreshold : Nat
  /-- Number of successes before marking healthy again.  Nothing reads it. -/
  recoveryThreshold : Nat
  deriving DecidableEq, Repr

/-- The default configuration. -/
def HealthConfig.default : HealthConfig :=
  { failureThreshold := 3
    recoveryThreshold := 2 }

/-- What the checker answers about a node. -/
structure CheckAnswers where
  network : Bool
  latency : Option UInt64
  grpc : Bool
  storage : Bool
  deriving DecidableEq, Repr

/-- Health monitor: the latest result of each address. -/
structure HealthMonitor where
  results : String → Option HealthCheckResult
  config : HealthConfig

namespace HealthMonitor

/-- Create a new health monitor. -/
def new (config : HealthConfig) : HealthMonitor :=
  { results := fun _ => none
    config }

/-- One failure more than in the previous result. -/
def nextFailures (previous : Option HealthCheckResult) : Nat :=
  (previous.map fun result => narrowed 32 (result.consecutiveFailures + 1)).getD 1

/-- Check health of a single node. -/
def checkNode (monitor : HealthMonitor) (address : String) (answers : CheckAnswers) :
    HealthMonitor × HealthCheckResult :=
  let networkOk := answers.network
  let grpcOk := if networkOk then answers.grpc else false
  let storageOk := if grpcOk then answers.storage else false
  let previous := monitor.results address
  let result : HealthCheckResult :=
    { status := .unknown
      networkOk
      latencyMs := answers.latency
      grpcOk
      storageOk
      consecutiveFailures := 0
      error := none }
  let counted :=
    if !networkOk then
      { result with
        consecutiveFailures := nextFailures previous
        error := some "Network check failed" }
    else if !grpcOk then
      { result with
        consecutiveFailures := nextFailures previous
        error := some "gRPC check failed" }
    else
      result
  let determined := counted.determineStatus
  ({ monitor with results := Function.update monitor.results address (some determined) },
    determined)

/-- Current health status of a node. -/
def getStatus (monitor : HealthMonitor) (address : String) : Option HealthCheckResult :=
  monitor.results address

/-- Check if a node should be marked as failed. -/
def shouldMarkFailed (monitor : HealthMonitor) (address : String) : Bool :=
  match monitor.results address with
  | some result => decide (monitor.config.failureThreshold ≤ result.consecutiveFailures)
  | none => false

end HealthMonitor

/-! ## Sequences of checks -/

/-- The network or the gRPC check has failed. -/
def CheckAnswers.failed (answers : CheckAnswers) : Bool := !(answers.network && answers.grpc)

/-- Every check has succeeded. -/
def CheckAnswers.succeeded (answers : CheckAnswers) : Bool :=
  answers.network && answers.grpc && answers.storage

/-- The answers about one address, in a sequence of checks of any nodes. -/
def checksOf (address : String) (checks : List (String × CheckAnswers)) : List CheckAnswers :=
  (checks.filter fun check => check.1 == address).map Prod.snd

/-- How many of the last answers in a row are failures. -/
def trailingFailures (answers : List CheckAnswers) : Nat :=
  (answers.rtakeWhile CheckAnswers.failed).length

namespace HealthMonitor

/-- The monitor after a sequence of checks. -/
def afterChecks (config : HealthConfig) (checks : List (String × CheckAnswers)) : HealthMonitor :=
  runAll (fun monitor check => (monitor.checkNode check.1 check.2).1) (new config) checks

/-- After every check of the sequence the count of failures is the number of checks that have
failed in a row. -/
def CountsFailures (config : HealthConfig) (address : String)
    (checks : List (String × CheckAnswers)) : Prop :=
  ∀ before, before <+: checks → ∀ result, (afterChecks config before).getStatus address =
    some result → result.consecutiveFailures = trailingFailures (checksOf address before)

/-- Once the node should have been marked as failed, a check reports it healthy only after as many
checks in a row as the recovery threshold have succeeded, itself included. -/
def RecoversSlowly (config : HealthConfig) (address : String)
    (checks : List (String × CheckAnswers)) : Prop :=
  ∀ before after answers, before ++ after ++ [(address, answers)] <+: checks →
    (afterChecks config before).shouldMarkFailed address = true →
      ((afterChecks config (before ++ after)).checkNode address answers).2.status = .healthy →
        List.replicate config.recoveryThreshold true <:+:
          (checksOf address after ++ [answers]).map CheckAnswers.succeeded

/-- The number of the failures in a row fits the counter throughout. -/
def FailuresFit (address : String) (checks : List (String × CheckAnswers)) : Prop :=
  ∀ before, before <+: checks → trailingFailures (checksOf address before) < 2 ^ 32

/-- After checks of the node of which as many in a row have failed as the failure threshold, none
succeeds. -/
def NeverRecovers (config : HealthConfig) (address : String)
    (checks : List (String × CheckAnswers)) : Prop :=
  ∀ before after answers, before ++ after ++ [(address, answers)] <+: checks →
    checksOf address before ≠ [] →
      config.failureThreshold ≤ trailingFailures (checksOf address before) →
        answers.succeeded = false

/-! ## One check -/

section Check

variable (monitor : HealthMonitor) (address : String) (answers : CheckAnswers)

/-- A check stores its result under its address only. -/
theorem getStatus_checkNode (other : String) :
    (monitor.checkNode address answers).1.getStatus other =
      if other = address then some (monitor.checkNode address answers).2
      else monitor.getStatus other := by
  simp only [getStatus, checkNode, Function.update_apply]

theorem determineStatus_consecutiveFailures (result : HealthCheckResult) :
    result.determineStatus.consecutiveFailures = result.consecutiveFailures := by
  unfold HealthCheckResult.determineStatus
  split
  · rfl
  · split <;> rfl

/-- A check reports a node healthy exactly if everything succeeds. -/
theorem checkNode_healthy_iff :
    (monitor.checkNode address answers).2.status = .healthy ↔ answers.succeeded = true := by
  obtain ⟨network, latency, grpc, storage⟩ := answers
  cases network <;> cases grpc <;> cases storage <;>
    simp [checkNode, HealthCheckResult.determineStatus, CheckAnswers.succeeded]

/-- A check counts a failure of the network or the gRPC check, and forgets all failures else. -/
theorem checkNode_consecutiveFailures :
    (monitor.checkNode address answers).2.consecutiveFailures =
      if answers.failed then nextFailures (monitor.getStatus address) else 0 := by
  obtain ⟨network, latency, grpc, storage⟩ := answers
  simp only [checkNode, determineStatus_consecutiveFailures]
  cases network <;> cases grpc <;> rfl

end Check

/-! ## Runs -/

section Runs

variable (config : HealthConfig) (address : String) (checks : List (String × CheckAnswers))

theorem afterChecks_concat (check : String × CheckAnswers) :
    afterChecks config (checks ++ [check]) =
      ((afterChecks config checks).checkNode check.1 check.2).1 := by
  rw [afterChecks, runAll, List.foldl_append]
  rfl

theorem checksOf_append (later : List (String × CheckAnswers)) :
    checksOf address (checks ++ later) = checksOf address checks ++ checksOf address later := by
  rw [checksOf, List.filter_append, List.map_append]
  rfl

theorem afterChecks_config : (afterChecks config checks).config = config := by
  induction checks using List.reverseRecOn with
  | nil => rfl
  | append_singleton checks check induction =>
      rw [afterChecks_concat]
      exact induction

theorem trailingFailures_concat (earlier : List CheckAnswers) (answers : CheckAnswers) :
    trailingFailures (earlier ++ [answers]) =
      if answers.failed then trailingFailures earlier + 1 else 0 := by
  unfold trailingFailures
  rw [List.rtakeWhile_concat]
  split
  · exact List.length_append
  · rfl

theorem nextFailures_eq (previous : Option HealthCheckResult) :
    nextFailures previous =
      ((previous.map HealthCheckResult.consecutiveFailures).map fun failures =>
        narrowed 32 (failures + 1)).getD 1 := by
  rw [Option.map_map]
  rfl

/-- The counter of a node that has been checked counts its failures in a row, up to a wrap. -/
theorem getStatus_afterChecks :
    ((afterChecks config checks).getStatus address).map HealthCheckResult.consecutiveFailures =
      if checksOf address checks = [] then none
      else some (narrowed 32 (trailingFailures (checksOf address checks))) := by
  induction checks using List.reverseRecOn with
  | nil => rfl
  | append_singleton checks check induction =>
      obtain ⟨checked, answers⟩ := check
      rw [afterChecks_concat, getStatus_checkNode, checksOf_append]
      by_cases own : address = checked
      · subst own
        have latest : checksOf address [(address, answers)] = [answers] := by simp [checksOf]
        rw [if_pos rfl, latest, if_neg (by simp), trailingFailures_concat, Option.map_some,
          checkNode_consecutiveFailures]
        refine congrArg some ?_
        split
        · rw [nextFailures_eq, induction]
          split
          · rename_i unchecked
            rw [unchecked]
            rfl
          · exact Nat.mod_add_mod _ _ _
        · rfl
      · have none_of_it : checksOf address [(checked, answers)] = [] := by
          simp [checksOf, Ne.symm own]
        rw [if_neg own, none_of_it, List.append_nil]
        exact induction

variable {config address checks}

/-- As long as the counter does not wrap, a node should be marked as failed exactly if it has been
checked and as many checks in a row have failed as the failure threshold. -/
theorem shouldMarkFailed_iff (fits : trailingFailures (checksOf address checks) < 2 ^ 32) :
    (afterChecks config checks).shouldMarkFailed address = true ↔
      checksOf address checks ≠ [] ∧
        config.failureThreshold ≤ trailingFailures (checksOf address checks) := by
  have counted := getStatus_afterChecks config address checks
  rw [narrowed_of_lt fits] at counted
  simp only [shouldMarkFailed, afterChecks_config]
  simp only [getStatus] at counted
  cases found : (afterChecks config checks).results address with
  | none =>
      rw [found] at counted
      split at counted
      · rename_i unchecked
        simp [unchecked]
      · cases counted
  | some result =>
      rw [found] at counted
      split at counted
      · cases counted
      · rename_i is_checked
        rw [Option.map_some, Option.some.injEq] at counted
        simp [is_checked, counted]

/-- The counter counts the failures in a row exactly as long as their number fits it. -/
theorem countsFailures_iff : CountsFailures config address checks ↔ FailuresFit address checks := by
  refine forall₂_congr fun before _ => ?_
  have counted := getStatus_afterChecks config address before
  constructor
  · intro counts
    by_cases unchecked : checksOf address before = []
    · rw [unchecked]
      exact Nat.two_pow_pos 32
    · rw [if_neg unchecked] at counted
      obtain ⟨result, found, failures_eq⟩ := Option.map_eq_some_iff.mp counted
      rw [← counts result found, failures_eq]
      exact narrowed_lt
  · intro fits result found
    rw [found, Option.map_some, narrowed_of_lt fits] at counted
    split at counted
    · cases counted
    · exact Option.some.inj counted

theorem FailuresFit.of_listed (fits : FailuresFit address checks)
    {before after : List (String × CheckAnswers)} {answers : CheckAnswers}
    (listed : before ++ after ++ [(address, answers)] <+: checks) :
    trailingFailures (checksOf address before) < 2 ^ 32 := by
  refine fits before (List.IsPrefix.trans ?_ listed)
  rw [List.append_assoc]
  exact List.prefix_append _ _

/-- Several successes in a row do not end a list of failures with one success. -/
theorem not_infix_of_one_success {threshold : Nat} (several : 1 < threshold) {earlier : List Bool}
    (none_earlier : true ∉ earlier) :
    ¬ List.replicate threshold true <:+: earlier ++ [true] := by
  intro inside
  have counted := inside.sublist.count_le true
  rw [List.count_replicate_self, List.count_append, List.count_eq_zero_of_not_mem none_earlier,
    List.count_singleton_self] at counted
  omega

/-- If several successes are needed, none can come after the failures: the first would do. -/
theorem neverRecovers_of_recoversSlowly (slowly : RecoversSlowly config address checks)
    (fits : FailuresFit address checks) (several : 1 < config.recoveryThreshold) :
    NeverRecovers config address checks := by
  intro before after answers listed is_checked failures
  induction length_eq : after.length using Nat.strongRecOn generalizing after answers with
  | _ length induction =>
      subst length_eq
      by_contra success
      have succeeded : answers.succeeded = true := by simpa using success
      have none_earlier : true ∉ (checksOf address after).map CheckAnswers.succeeded := by
        intro member
        obtain ⟨_, earlier_mem, earlier_succeeded⟩ := List.mem_map.mp member
        obtain ⟨⟨checked, earlier⟩, selected, rfl⟩ := List.mem_map.mp earlier_mem
        obtain ⟨check_mem, own⟩ := List.mem_filter.mp selected
        obtain rfl : checked = address := beq_iff_eq.mp own
        obtain ⟨first, rest, rfl⟩ := List.append_of_mem check_mem
        have shorter : before ++ first ++ [(checked, earlier)] <+: checks := by
          refine List.IsPrefix.trans ⟨rest ++ [(checked, answers)], ?_⟩ listed
          simp
        have failed := induction first.length (by simp) first earlier shorter rfl
        rw [earlier_succeeded] at failed
        cases failed
      have marked : (afterChecks config before).shouldMarkFailed address = true :=
        (shouldMarkFailed_iff (fits.of_listed listed)).mpr ⟨is_checked, failures⟩
      have enough := slowly before after answers listed marked
        ((checkNode_healthy_iff _ _ _).mpr succeeded)
      rw [List.map_append, List.map_singleton, succeeded] at enough
      exact not_infix_of_one_success several none_earlier enough

theorem recoversSlowly_iff (fits : FailuresFit address checks) :
    RecoversSlowly config address checks ↔
      config.recoveryThreshold ≤ 1 ∨ NeverRecovers config address checks := by
  constructor
  · intro slowly
    rcases Nat.lt_or_ge 1 config.recoveryThreshold with several | one
    · exact .inr (neverRecovers_of_recoversSlowly slowly fits several)
    · exact .inl one
  · rintro (one | never) before after answers listed marked healthy
    · rw [List.map_append, List.map_singleton, (checkNode_healthy_iff _ _ _).mp healthy]
      refine List.IsInfix.trans ?_ (List.suffix_append _ _).isInfix
      rcases Nat.le_one_iff_eq_zero_or_eq_one.mp one with none_needed | one_needed
      · rw [none_needed]
        exact List.nil_infix
      · rw [one_needed]
        exact List.infix_refl _
    · have failures := (shouldMarkFailed_iff (fits.of_listed listed)).mp marked
      have failed := never before after answers listed failures.1 failures.2
      rw [(checkNode_healthy_iff _ _ _).mp healthy] at failed
      cases failed

end Runs

/-- In every sequence of checks the counter of a node is the number of the failures in a row and the
node is reported healthy again only after enough successes, exactly if that number fits the counter
and either one success is enough or none comes after the failures. -/
theorem health_hysteresis_iff (config : HealthConfig) (address : String)
    (checks : List (String × CheckAnswers)) :
    CountsFailures config address checks ∧ RecoversSlowly config address checks ↔
      FailuresFit address checks ∧
        (config.recoveryThreshold ≤ 1 ∨ NeverRecovers config address checks) := by
  rw [countsFailures_iff]
  exact and_congr_right recoversSlowly_iff

/-! ## One success after three failures -/

namespace OneSuccess

/-- A check in which everything fails, or succeeds. -/
def answers (succeeds : Bool) : CheckAnswers :=
  { network := succeeds
    latency := none
    grpc := succeeds
    storage := succeeds }

/-- A node fails as often as the failure threshold says, and answers once. -/
def checks : List (String × CheckAnswers) :=
  [("node", answers false), ("node", answers false), ("node", answers false),
    ("node", answers true)]

/-- One success suffices to be reported healthy again, where the configuration asks for two. -/
theorem healthy_after_one_success :
    ¬ (CountsFailures .default "node" checks ∧ RecoversSlowly .default "node" checks) := by
  rintro ⟨-, slowly⟩
  have enough := slowly
    [("node", answers false), ("node", answers false), ("node", answers false)] []
    (answers true) (List.prefix_refl _) (by decide) (by decide)
  exact absurd enough (by decide)

end OneSuccess

end HealthMonitor

end CyxCloud.Metadata
