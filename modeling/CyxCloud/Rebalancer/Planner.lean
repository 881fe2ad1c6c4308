import CyxCloud.Rebalancer.Detector
import Mathlib.Algebra.BigOperators.Group.List.Basic
import Mathlib.Data.Finset.Lattice.Fold
import Mathlib.Data.List.MinMax
import Mathlib.Data.UInt
import Mathlib.Order.Lattice.Nat

/-!
# Repair planner

`cyxcloud-rebalancer/src/planner.rs`.  Loads and scores are floating-point numbers in the source;
here they are of any ordered types, and their arithmetic is a parameter.  Byte counts are 64-bit
words, the counter of tasks is unbounded.
-/

namespace CyxCloud.Rebalancer

open CyxCloud.Core Library

/-! ## Data -/

/-- Planner errors. -/
inductive PlannerError where
  | noSourceNodes
  | noTargetNodes
  | insufficientNodes (available need : Nat)
  | internal (message : String)
  /-- An internal error whose message prints the status. -/
  | unhandledHealth (health : ChunkHealth)
  deriving DecidableEq, Repr

/-- Why a call returns no plan. -/
inductive PlanFailure where
  | error (cause : PlannerError)
  /-- A division by zero. -/
  | panic
  deriving DecidableEq, Repr

/-- A single repair task. -/
structure RepairTask where
  taskId : String
  chunkId : Bytes
  sourceNode : String
  targetNodes : List String
  chunkSize : UInt64
  priority : UInt32
  /-- The issue that triggered the repair. -/
  issue : ChunkIssue
  deriving DecidableEq, Repr

/-- Bytes that a task transfers. -/
def RepairTask.estimatedBandwidth (task : RepairTask) : UInt64 :=
  task.chunkSize * UInt64.ofNat task.targetNodes.length

/-- A repair plan. -/
structure RepairPlan where
  tasks : List RepairTask
  totalBytes : UInt64
  /-- Seconds. -/
  estimatedDuration : Nat
  sourceNodes : Finset String
  targetNodes : Finset String
  deriving DecidableEq

namespace RepairPlan

/-- The plan without tasks. -/
def default : RepairPlan :=
  { tasks := []
    totalBytes := 0
    estimatedDuration := 0
    sourceNodes := ∅
    targetNodes := ∅ }

/-- Add a task to the plan. -/
def addTask (plan : RepairPlan) (task : RepairTask) : RepairPlan :=
  { plan with
    totalBytes := plan.totalBytes + task.estimatedBandwidth
    sourceNodes := insert task.sourceNode plan.sourceNodes
    targetNodes := task.targetNodes.foldl (fun nodes target => insert target nodes)
      plan.targetNodes
    tasks := plan.tasks ++ [task] }

/-- The tasks that read from a node. -/
def tasksForSource (plan : RepairPlan) (nodeId : String) : List RepairTask :=
  plan.tasks.filter fun task => task.sourceNode == nodeId

/-- The tasks that write to a node. -/
def tasksForTarget (plan : RepairPlan) (nodeId : String) : List RepairTask :=
  plan.tasks.filter fun task => task.targetNodes.contains nodeId

end RepairPlan

/-- Node information for planning. -/
structure NodeInfo (Load : Type*) where
  id : String
  availableStorage : UInt64
  load : Load
  datacenter : Option String
  isHealthy : Bool
  deriving DecidableEq

/-- Planner configuration. -/
structure PlannerConfig (Load : Type*) where
  replicationFactor : Nat
  maxTasks : Nat
  maxBytes : UInt64
  /-- Prefer transfers within a datacenter. -/
  preferLocal : Bool
  maxNodeLoad : Load
  /-- Bytes per second. -/
  nodeRateLimit : UInt64
  deriving DecidableEq

/-- The default configuration; the largest load is 0.8 in the source. -/
def PlannerConfig.default {Load : Type*} (maxNodeLoad : Load) : PlannerConfig Load :=
  { replicationFactor := 3
    maxTasks := 100
    maxBytes := 10 * 1024 * 1024 * 1024
    preferLocal := true
    maxNodeLoad
    nodeRateLimit := 100 * 1024 * 1024 }

/-- The floating-point arithmetic of loads and scores. -/
structure LoadArithmetic (Load Score : Type*) [Preorder Load] where
  /-- The load 1.0. -/
  one : Load
  /-- A load with the share of pending bytes in 10 GB added. -/
  addPending : Load → UInt64 → Load
  /-- The share of pending bytes is not negative. -/
  le_addPending : ∀ load pending, load ≤ addPending load pending
  /-- The score of a target, from whether it earns the bonus for its datacenter, its available
  storage and its load. -/
  score : Bool → UInt64 → Load → Score

/-- The repair planner. -/
structure Planner (Load : Type*) where
  config : PlannerConfig Load
  pendingLoad : String → UInt64
  /-- A word of 64 bits in the source, which only a planner of `2 ^ 64` tasks runs out of. -/
  taskCounter : Nat

namespace Planner

variable {Load Score : Type*} [Preorder Load] [DecidableLE Load] [DecidableLT Load]
  [Preorder Score] [DecidableLE Score]

/-- Create a planner. -/
def new (config : PlannerConfig Load) : Planner Load :=
  { config
    pendingLoad := fun _ => 0
    taskCounter := 0 }

/-! ## Selection of nodes -/

section Selection

variable (arithmetic : LoadArithmetic Load Score) (planner : Planner Load)

/-- Effective load of a node with its pending operations. -/
def getNodeLoad (nodeId : String) (baseLoad : Load) : Load :=
  let load := arithmetic.addPending baseLoad (planner.pendingLoad nodeId)
  if load ≤ arithmetic.one then load else arithmetic.one

/-- Score of a target node; higher is better. -/
def scoreTarget (node : NodeInfo Load) (sourceDc : Option String) : Score :=
  arithmetic.score
    (planner.config.preferLocal && sourceDc.isSome && sourceDc == node.datacenter)
    node.availableStorage (planner.getNodeLoad arithmetic node.id node.load)

/-- Select the source node of lowest load, the first of these. -/
def selectSourceNode (issue : ChunkIssue) (nodes : List (NodeInfo Load)) :
    Except PlannerError String :=
  let healthySources := nodes.filter fun node => issue.currentNodes.contains node.id
  match healthySources.argmin fun node => planner.getNodeLoad arithmetic node.id node.load with
  | none => .error .noSourceNodes
  | some best => .ok best.id

/-- The node can take a copy: it does not hold the chunk, has space, and is not overloaded. -/
def isCandidate (issue : ChunkIssue) (source : String) (node : NodeInfo Load) : Bool :=
  !issue.currentNodes.contains node.id && node.id != source &&
    decide (1024 * 1024 ≤ node.availableStorage) &&
    decide (planner.getNodeLoad arithmetic node.id node.load < planner.config.maxNodeLoad)

/-- Select target nodes by decreasing score. -/
def selectTargetNodes (issue : ChunkIssue) (nodes : List (NodeInfo Load)) (source : String)
    (count : Nat) : Except PlannerError (List String) :=
  let sourceDc := (nodes.find? fun node => node.id == source).bind NodeInfo.datacenter
  let candidates := nodes.filter (planner.isCandidate arithmetic issue source)
  if candidates.length < count then
    .error (.insufficientNodes candidates.length count)
  else
    let ranked := candidates.mergeSort fun left right =>
      decide (planner.scoreTarget arithmetic right sourceDc ≤
        planner.scoreTarget arithmetic left sourceDc)
    .ok ((ranked.take count).map NodeInfo.id)

/-! ## Planning -/

/-- The name of the task with a number. -/
def taskName (number : Nat) : String := "repair-" ++ toString number

/-- Plan the repair of an under-replicated chunk. -/
def planUnderReplicated (issue : ChunkIssue) (nodes : List (NodeInfo Load))
    (current target : Nat) : Planner Load × Except PlannerError RepairTask :=
  match planner.selectSourceNode arithmetic issue nodes with
  | .error cause => (planner, .error cause)
  | .ok source =>
      let replicasNeeded := target - current
      if replicasNeeded = 0 then
        (planner, .error (.internal "No replicas needed"))
      else
        match planner.selectTargetNodes arithmetic issue nodes source replicasNeeded with
        | .error cause => (planner, .error cause)
        | .ok targets =>
            ({ planner with taskCounter := planner.taskCounter + 1 },
              .ok
                { taskId := taskName (planner.taskCounter + 1)
                  chunkId := issue.chunkId
                  sourceNode := source
                  targetNodes := targets
                  chunkSize := 1024 * 1024
                  priority := issue.priority
                  issue })

/-- Plan the repair of a single chunk. -/
def planRepair (issue : ChunkIssue) (nodes : List (NodeInfo Load)) :
    Planner Load × Except PlannerError RepairTask :=
  match issue.health with
  | .underReplicated current target =>
      planner.planUnderReplicated arithmetic issue nodes current target
  | .critical =>
      if issue.currentNodes.isEmpty then
        (planner, .error .noSourceNodes)
      else
        planner.planUnderReplicated arithmetic issue nodes 0 planner.config.replicationFactor
  | .overReplicated _ _ =>
      (planner, .error (.internal "Over-replicated chunks don't need repair"))
  | health => (planner, .error (.unhandledHealth health))

end Selection

/-- Pending bytes once a task is added. -/
def chargeTask (pending : String → UInt64) (task : RepairTask) : String → UInt64 :=
  task.targetNodes.foldl
    (fun charged target => Function.update charged target (charged target + task.chunkSize))
    (Function.update pending task.sourceNode (pending task.sourceNode + task.chunkSize))

/-- Plan one issue after the other until a limit is reached. -/
def planIssues (arithmetic : LoadArithmetic Load Score) (nodes : List (NodeInfo Load)) :
    Planner Load → RepairPlan → List ChunkIssue → Planner Load × RepairPlan
  | planner, plan, [] => (planner, plan)
  | planner, plan, issue :: issues =>
      if planner.config.maxTasks ≤ plan.tasks.length then
        (planner, plan)
      else if planner.config.maxBytes ≤ plan.totalBytes then
        (planner, plan)
      else
        match planner.planRepair arithmetic issue nodes with
        | (planner, .ok task) =>
            planIssues arithmetic nodes
              { planner with pendingLoad := chargeTask planner.pendingLoad task }
              (plan.addTask task) issues
        | (planner, .error _) => planIssues arithmetic nodes planner plan issues

/-- Seconds a plan takes; there are none if the rate limit is zero. -/
def estimateDuration (planner : Planner Load) (plan : RepairPlan) : Option Nat :=
  if plan.tasks.isEmpty || decide (plan.sourceNodes = ∅) then
    some 0
  else if planner.config.nodeRateLimit = 0 then
    none
  else
    let maxPerNode := plan.sourceNodes.sup fun nodeId =>
      ((plan.tasksForSource nodeId).map RepairTask.chunkSize).sum.toNat
    some (maxPerNode / planner.config.nodeRateLimit.toNat)

/-- The issues by decreasing priority. -/
def sortIssues (issues : List ChunkIssue) : List ChunkIssue :=
  issues.mergeSort fun left right => decide (right.priority ≤ left.priority)

/-- Create a repair plan from issues. -/
def createPlan (arithmetic : LoadArithmetic Load Score) (planner : Planner Load)
    (issues : List ChunkIssue) (nodes : List (NodeInfo Load)) :
    Planner Load × Except PlanFailure RepairPlan :=
  let healthyNodes := nodes.filter NodeInfo.isHealthy
  if healthyNodes.isEmpty then
    (planner, .error (.error .noTargetNodes))
  else
    let (planned, plan) := planIssues arithmetic healthyNodes
      { planner with pendingLoad := fun _ => 0 } .default (sortIssues issues)
    match planned.estimateDuration plan with
    | none => (planned, .error .panic)
    | some estimatedDuration => (planned, .ok { plan with estimatedDuration })

/-- The arguments of a call. -/
structure PlanRequest (Load : Type*) where
  issues : List ChunkIssue
  nodes : List (NodeInfo Load)

/-- The results of one call after the other. -/
def createPlans (arithmetic : LoadArithmetic Load Score) :
    Planner Load → List (PlanRequest Load) →
      List (PlanRequest Load × Except PlanFailure RepairPlan)
  | _, [] => []
  | planner, request :: requests =>
      let (planned, result) := planner.createPlan arithmetic request.issues request.nodes
      (request, result) :: createPlans arithmetic planned requests

/-! ## What a planned repair keeps -/

section Kept

variable {arithmetic : LoadArithmetic Load Score} {planner : Planner Load} {issue : ChunkIssue}
  {nodes : List (NodeInfo Load)}

theorem planUnderReplicated_keeps (current target : Nat) :
    (planner.planUnderReplicated arithmetic issue nodes current target).1.config =
        planner.config ∧
      ∀ task, (planner.planUnderReplicated arithmetic issue nodes current target).2 = .ok task →
        task.chunkSize = 1024 * 1024 := by
  rw [planUnderReplicated]
  split
  · exact ⟨rfl, nofun⟩
  · simp only
    split
    · exact ⟨rfl, nofun⟩
    · split
      · exact ⟨rfl, nofun⟩
      · refine ⟨rfl, fun task planned => ?_⟩
        obtain rfl := Except.ok.inj planned
        rfl

/-- Planning keeps the configuration, and all tasks have the same chunk size. -/
theorem planRepair_keeps :
    (planner.planRepair arithmetic issue nodes).1.config = planner.config ∧
      ∀ task, (planner.planRepair arithmetic issue nodes).2 = .ok task →
        task.chunkSize = 1024 * 1024 := by
  rw [planRepair]
  split
  · exact planUnderReplicated_keeps _ _
  · split
    · exact ⟨rfl, nofun⟩
    · exact planUnderReplicated_keeps _ _
  · exact ⟨rfl, nofun⟩
  · exact ⟨rfl, nofun⟩

end Kept

end Planner
end CyxCloud.Rebalancer
