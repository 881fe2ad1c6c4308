import CyxCloud.Library.Effects
import CyxCloud.Metadata.Ledger

/-!
# The payment daemon

`cyxcloud-gateway/src/payment_daemon.rs`, built with the feature `blockchain`.  Without the feature
the daemon behaves as it does here when blockchain transactions are disabled.  Statements and
requests end as a `TickEnv` or `StartEnv` says; the clock counts microseconds.
-/

namespace CyxCloud.Gateway

open CyxCloud.Core hiding Chunk
open Library Metadata

/-- Epoch duration in seconds: seven days. -/
def EPOCH_DURATION_SECONDS : Int := 7 * 24 * 60 * 60

/-- Microseconds of a second. -/
def MICROS_PER_SECOND : Nat := 1000000

/-- Daemon configuration, in seconds. -/
structure PaymentDaemonConfig where
  accumulateInterval : Nat
  extendedDowntimeThreshold : Nat
  /-- False for a dry run. -/
  enableBlockchain : Bool
  deriving DecidableEq, Repr

/-- Sixty seconds, four hours, and transactions. -/
def PaymentDaemonConfig.default : PaymentDaemonConfig :=
  { accumulateInterval := 60
    extendedDowntimeThreshold := 4 * 60 * 60
    enableBlockchain := true }

/-! ## Weights -/

/-- Weight of a node for the payment of an epoch. -/
structure NodeWeight where
  nodeId : Uuid
  peerId : String
  walletAddress : Option String
  weight : Nat
  deriving DecidableEq, Repr

/-- A node's share of the reward pool, in 64 bits. -/
def NodeWeight.calculateShare (weight : NodeWeight) (totalNodesShare totalWeight : Nat) : Nat :=
  if totalWeight = 0 then 0 else totalNodesShare * weight.weight / totalWeight % 2 ^ 64

/-- What the daemon is set up with. -/
structure PaymentDaemon where
  config : PaymentDaemonConfig
  /-- A blockchain client is there. -/
  blockchain : Bool
  /-- Storage × uptime × reputation, computed in floating point and cut to 64 bits; the arguments
  are storage, seconds online, seconds of the epoch and reputation. -/
  floatWeight : Int → Nat → Int → Nat → Nat
  /-- Ten and five percent, computed in floating point. -/
  platformPart : Nat → Int
  communityPart : Nat → Int
  /-- A wallet address as a public key. -/
  parsePubkey : String → Option Bytes

/-- Reputation of every node. -/
def AVERAGE_REPUTATION : Nat := 5000

/-- The weight of a node with an uptime record. -/
def PaymentDaemon.nodeWeight (daemon : PaymentDaemon) (uptime : NodeEpochUptime) (node : Node) :
    NodeWeight :=
  { nodeId := uptime.nodeId
    peerId := node.peerId
    walletAddress := node.walletAddress
    weight := daemon.floatWeight node.storageTotal uptime.secondsOnline EPOCH_DURATION_SECONDS
      AVERAGE_REPUTATION }

/-! ## Chain and state -/

/-- A submission of `allocate_node_reward`. -/
structure Allocation where
  /-- The node in the database. -/
  nodeId : Uuid
  epoch : Int
  owner : Bytes
  peerId : String
  amount : Nat
  accepted : Bool
  deriving DecidableEq, Repr

/-- A submission of `slash_node`; the chain is not told the epoch. -/
structure Slash where
  /-- The node in the database. -/
  nodeId : Uuid
  epoch : Int
  owner : Bytes
  peerId : String
  amount : Nat
  reason : SlashReason
  accepted : Bool
  deriving DecidableEq, Repr

/-- What was submitted to the chain, the oldest first. -/
structure Chain where
  allocations : List Allocation
  slashes : List Slash
  finalizedEpochs : List Int
  deriving DecidableEq, Repr

/-- Pool data of an epoch on the chain. -/
structure EpochRewardsInfo where
  totalPoolAmount : Nat
  nodesShare : Nat
  deriving DecidableEq, Repr

/-- What the daemon remembers between ticks; epoch 0 means that it has none yet. -/
structure PaymentDaemonMetrics where
  currentEpoch : Int
  epochStart : Option Time
  uptimeUpdates : Nat
  epochsFinalized : Nat
  nodesPaid : Nat
  totalPaidAmount : Nat
  slashingEvents : Nat
  lastAccumulateAt : Option Time
  deriving DecidableEq, Repr

/-- Metrics of a daemon that has just started. -/
def PaymentDaemonMetrics.default : PaymentDaemonMetrics :=
  { currentEpoch := 0
    epochStart := none
    uptimeUpdates := 0
    epochsFinalized := 0
    nodesPaid := 0
    totalPaidAmount := 0
    slashingEvents := 0
    lastAccumulateAt := none }

/-- Ledger, chain and daemon. -/
structure PaymentSystem where
  ledger : Ledger
  chain : Chain
  metrics : PaymentDaemonMetrics
  /-- The daemon is up. -/
  running : Bool

/-- A reply of the chain: the outcome of a transaction, and its signature if it is confirmed. -/
structure ChainReply where
  outcome : Outcome
  signature : String
  deriving DecidableEq, Repr

/-- The outcomes and choices that a start of the daemon meets. -/
structure StartEnv where
  now : Time
  dbNow : Time
  currentEpoch : Outcome
  createEpoch : Outcome
  initializeEpoch : Outcome

/-- The outcomes and choices that a tick meets.  Statements about a node are named by its
identifier. -/
structure TickEnv where
  /-- The clock of the gateway. -/
  now : Time
  /-- The clock of the database. -/
  dbNow : Time
  allNodes : Outcome
  nodeOrder : RowOrder Node
  ensureUptime : Uuid → Outcome
  addUptime : Uuid → Outcome
  endUptime : Outcome
  downtime : Outcome
  downtimeOrder : RowOrder NodeEpochUptime
  slashedNode : Uuid → Outcome
  slash : Uuid → ChainReply
  recordSlash : Uuid → Outcome
  epochUptime : Outcome
  uptimeOrder : RowOrder NodeEpochUptime
  weighedNode : Uuid → Outcome
  epochRewards : Outcome
  /-- What the chain knows about the pool of the epoch. -/
  rewards : Option EpochRewardsInfo
  allocate : Uuid → ChainReply
  markPayment : Uuid → Outcome
  finalizeChain : ChainReply
  finalizeEpoch : Outcome
  createEpoch : Outcome
  initializeEpoch : Outcome

namespace PaymentSystem

/-- Replace the ledger. -/
def setLedger (system : PaymentSystem) (ledger : Ledger) : PaymentSystem := { system with ledger }

/-- A statement on the ledger that cannot be refused. -/
def updateLedger (outcome : Outcome) (change : Ledger → Ledger) : Effect PaymentSystem Unit :=
  Effect.update outcome fun system => system.setLedger (change system.ledger)

/-- A statement on the ledger that its constraints may refuse. -/
def tryLedger {α : Type} (outcome : Outcome) (run : Ledger → Except DbError (Ledger × α)) :
    Effect PaymentSystem α :=
  Effect.statement outcome fun system =>
    (run system.ledger).map fun (ledger, value) => (system.setLedger ledger, value)

/-- A query on the ledger. -/
def readLedger {α : Type} (outcome : Outcome) (read : Ledger → α) : Effect PaymentSystem α :=
  Effect.query outcome fun system => read system.ledger

/-- A transaction, noted together with whether the chain accepts it.  The caller gets the
signature of a confirmed one; an error is only logged. -/
def submit (reply : ChainReply) (note : Bool → Chain → Chain) :
    Effect PaymentSystem (Option String) := fun system =>
  (if reply.outcome = .crashed then system
    else { system with chain := note reply.outcome.applied system.chain },
    match reply.outcome.answer with
    | .ok () => .ok (some reply.signature)
    | .error .error => .ok none
    | .error .crash => .error .crash)

/-- Update the metrics. -/
def updateMetrics (change : PaymentDaemonMetrics → PaymentDaemonMetrics) :
    Effect PaymentSystem Unit :=
  Effect.modify fun system => { system with metrics := change system.metrics }

/-- The process starts and knows nothing yet. -/
def boot (system : PaymentSystem) : PaymentSystem :=
  { system with
    metrics := .default
    running := true }

/-- The process stops and forgets. -/
def crash (system : PaymentSystem) : PaymentSystem :=
  { system with
    metrics := .default
    running := false }

end PaymentSystem

namespace PaymentDaemon

open PaymentSystem

variable (daemon : PaymentDaemon)

/-! ## Start -/

/-- Create an epoch with its uptime rows and enter it; `finalized` is added to the number of
finalized epochs. -/
def openEpoch (createEpoch initializeEpoch : Outcome) (dbNow now : Time) (newEpoch : Int)
    (finalized : Nat) : Effect PaymentSystem Unit := do
  let record ← tryLedger createEpoch fun ledger => ledger.createPaymentEpoch newEpoch dbNow
  updateLedger initializeEpoch fun ledger => ledger.initializeEpochForAllNodes newEpoch now
  updateMetrics fun metrics =>
    { metrics with
      currentEpoch := newEpoch
      epochStart := some record.startedAt
      epochsFinalized := metrics.epochsFinalized + finalized }

/-- Resume the current epoch, or create the first one. -/
def ensureCurrentEpoch (env : StartEnv) : Effect PaymentSystem Unit := do
  match ← readLedger env.currentEpoch Ledger.getCurrentPaymentEpoch with
  | some epoch =>
      updateMetrics fun metrics =>
        { metrics with
          currentEpoch := epoch.epoch
          epochStart := some epoch.startedAt }
  | none => openEpoch env.createEpoch env.initializeEpoch env.dbNow env.now 1 0

/-! ## Uptime -/

/-- Credit one node with the time since the last tick. -/
def creditUptime (env : TickEnv) (epoch : Int) (epochStart : Time) (node : Node) :
    Effect PaymentSystem Unit := do
  tryLedger (env.ensureUptime node.id) fun ledger =>
    ledger.createOrGetEpochUptime node.id epoch epochStart
  match node.status with
  | .online | .recovering =>
      updateLedger (env.addUptime node.id) fun ledger =>
        ledger.updateUptimeOnline node.id epoch daemon.config.accumulateInterval
  | .offline | .draining | .maintenance =>
      updateLedger (env.addUptime node.id) fun ledger =>
        ledger.updateUptimeOffline node.id epoch daemon.config.accumulateInterval

/-- Accumulate uptime for all nodes. -/
def accumulateUptime (env : TickEnv) : Effect PaymentSystem Unit := do
  let system ← Effect.get
  if system.metrics.currentEpoch = 0 then
    pure ()
  else do
    let nodes ← readLedger env.allNodes fun ledger => ledger.getAllNodes env.nodeOrder
    Effect.each nodes (daemon.creditUptime env system.metrics.currentEpoch
      (system.metrics.epochStart.getD env.now))
    updateMetrics fun metrics =>
      { metrics with
        uptimeUpdates := metrics.uptimeUpdates + 1
        lastAccumulateAt := some env.now }

/-! ## Slashing -/

/-- The key that transactions about a wallet go to, if transactions are made. -/
def owner (walletAddress : Option String) : Option Bytes :=
  if daemon.config.enableBlockchain && daemon.blockchain then
    walletAddress.bind daemon.parsePubkey
  else
    none

/-- Slash a node on the chain. -/
def slashOnChain (env : TickEnv) (epoch : Int) (node : Node) :
    Effect PaymentSystem (Option String) :=
  match daemon.owner node.walletAddress with
  | none => pure none
  | some owner =>
      submit (env.slash node.id) fun accepted chain =>
        { chain with
          slashes := chain.slashes ++
            [{ nodeId := node.id
               epoch
               owner
               peerId := node.peerId
               amount := 0
               reason := .extendedDowntime
               accepted }] }

/-- The event recorded for a node with extended downtime. -/
def slashingEvent (epoch : Int) (uptime : NodeEpochUptime) (txSignature : Option String) :
    SlashingEvent :=
  { nodeId := uptime.nodeId
    epoch
    reason := .extendedDowntime
    slashPercent := SlashReason.extendedDowntime.slashPercent
    slashAmount := none
    txSignature
    details := some
      { secondsOffline := uptime.secondsOffline
        thresholdSeconds := daemon.config.extendedDowntimeThreshold } }

/-- Slash a node for an uptime record and record the slash. -/
def slashAndRecord (env : TickEnv) (epoch : Int) (uptime : NodeEpochUptime) (node : Node) :
    Effect PaymentSystem Unit := do
  let txSignature ← daemon.slashOnChain env epoch node
  tryLedger (env.recordSlash uptime.nodeId) fun ledger =>
    ledger.recordSlashingEvent (daemon.slashingEvent epoch uptime txSignature)
  updateMetrics fun metrics => { metrics with slashingEvents := metrics.slashingEvents + 1 }

/-- Slash the node of an uptime record, if it still exists. -/
def slashNode (env : TickEnv) (epoch : Int) (uptime : NodeEpochUptime) :
    Effect PaymentSystem Unit := do
  match ← readLedger (env.slashedNode uptime.nodeId) fun ledger => ledger.getNode uptime.nodeId with
  | none => pure ()
  | some node => daemon.slashAndRecord env epoch uptime node

/-- Slash the nodes with extended downtime. -/
def checkAndSlashNodes (env : TickEnv) (epoch : Int) : Effect PaymentSystem Unit := do
  let rows ← readLedger env.downtime fun ledger =>
    ledger.getNodesWithExtendedDowntime env.downtimeOrder epoch
      daemon.config.extendedDowntimeThreshold
  Effect.each rows (daemon.slashNode env epoch)

/-! ## Payments -/

/-- What an epoch pays. -/
structure Payments where
  weights : List NodeWeight
  totalPoolAmount : Nat
  nodesShare : Nat
  deriving DecidableEq, Repr

/-- Sum of the weights, in 64 bits. -/
def Payments.totalWeight (payments : Payments) : Nat :=
  (payments.weights.map NodeWeight.weight).sum % 2 ^ 64

/-- The reward of a node. -/
def Payments.reward (payments : Payments) (weight : NodeWeight) : Nat :=
  weight.calculateShare payments.nodesShare payments.totalWeight

/-- The weights of the nodes that still exist. -/
def collectWeights (env : TickEnv) : List NodeEpochUptime → Effect PaymentSystem (List NodeWeight)
  | [] => pure []
  | uptime :: rest => do
      let node ← readLedger (env.weighedNode uptime.nodeId) fun ledger =>
        ledger.getNode uptime.nodeId
      let weights ← collectWeights env rest
      match node with
      | none => pure weights
      | some node => pure (daemon.nodeWeight uptime node :: weights)

/-- Pool data of the epoch, if there is any. -/
def epochRewards (env : TickEnv) : Effect PaymentSystem (Option EpochRewardsInfo) := fun system =>
  (system,
    if daemon.config.enableBlockchain then
      if daemon.blockchain then
        match env.epochRewards.answer with
        | .ok () => .ok env.rewards
        | .error .error => .ok none
        | .error .crash => .error .crash
      else
        .ok (some ⟨0, 0⟩)
    else
      .ok (some ⟨1000000000, 850000000⟩))

/-- Weights and pool of an epoch; there is nothing to pay without nodes, pool data or tokens. -/
def preparePayments (env : TickEnv) (epoch : Int) : Effect PaymentSystem (Option Payments) := do
  let uptimes ← readLedger env.epochUptime fun ledger => ledger.getEpochUptime env.uptimeOrder epoch
  let weights ← daemon.collectWeights env uptimes
  if weights = [] then
    pure none
  else do
    match ← daemon.epochRewards env with
    | none => pure none
    | some rewards =>
        if rewards.nodesShare = 0 then
          pure none
        else
          pure (some
            { weights
              totalPoolAmount := rewards.totalPoolAmount
              nodesShare := rewards.nodesShare })

/-- Allocate a reward on the chain. -/
def allocateOnChain (env : TickEnv) (epoch : Int) (weight : NodeWeight) (reward : Nat) :
    Effect PaymentSystem (Option String) :=
  match daemon.owner weight.walletAddress with
  | none => pure none
  | some owner =>
      submit (env.allocate weight.nodeId) fun accepted chain =>
        { chain with
          allocations := chain.allocations ++
            [{ nodeId := weight.nodeId
               epoch
               owner
               peerId := weight.peerId
               amount := reward
               accepted }] }

/-- Pay one node and return its reward; the row is marked whatever the chain answers. -/
def payNode (env : TickEnv) (epoch : Int) (payments : Payments) (weight : NodeWeight) :
    Effect PaymentSystem Nat :=
  if payments.reward weight = 0 then
    pure 0
  else do
    let txSignature ← daemon.allocateOnChain env epoch weight (payments.reward weight)
    updateLedger (env.markPayment weight.nodeId) fun ledger =>
      ledger.markPaymentAllocated weight.nodeId epoch (asI64 (payments.reward weight)) txSignature
    pure (payments.reward weight)

/-- Pay the nodes in turn and return how many were paid, and how much. -/
def payNodes (env : TickEnv) (epoch : Int) (payments : Payments) :
    List NodeWeight → Effect PaymentSystem (Nat × Nat)
  | [] => pure (0, 0)
  | weight :: rest => do
      let reward ← daemon.payNode env epoch payments weight
      let paid ← payNodes env epoch payments rest
      pure (if reward = 0 then paid else (paid.1 + 1, paid.2 + reward))

/-- Finalize an epoch on the chain. -/
def finalizeOnChain (env : TickEnv) (epoch : Int) : Effect PaymentSystem (Option String) :=
  if daemon.config.enableBlockchain && daemon.blockchain then
    submit env.finalizeChain fun accepted chain =>
      { chain with
        finalizedEpochs := if accepted then chain.finalizedEpochs ++ [epoch]
          else chain.finalizedEpochs }
  else
    pure none

/-- Finalize an epoch in which so many nodes were paid so much. -/
def closeEpoch (env : TickEnv) (epoch : Int) (payments : Payments) (paid : Nat × Nat) :
    Effect PaymentSystem Unit := do
  let finalizeTx ← daemon.finalizeOnChain env epoch
  updateLedger env.finalizeEpoch fun ledger =>
    ledger.finalizePaymentEpoch epoch env.dbNow
      { totalPoolAmount := asI64 payments.totalPoolAmount
        nodesShare := asI64 payments.nodesShare
        platformShare := daemon.platformPart payments.totalPoolAmount
        communityShare := daemon.communityPart payments.totalPoolAmount
        nodesPaid := paid.1
        txSignature := finalizeTx }
  updateMetrics fun metrics =>
    { metrics with
      nodesPaid := metrics.nodesPaid + paid.1
      totalPaidAmount := metrics.totalPaidAmount + paid.2 }

/-- Pay the nodes and finalize the epoch. -/
def distributePayments (env : TickEnv) (epoch : Int) (payments : Payments) :
    Effect PaymentSystem Unit := do
  let paid ← daemon.payNodes env epoch payments payments.weights
  daemon.closeEpoch env epoch payments paid

/-- Finalize an epoch and distribute payments. -/
def finalizeAndPayEpoch (env : TickEnv) (epoch : Int) : Effect PaymentSystem Unit := do
  match ← daemon.preparePayments env epoch with
  | none => pure ()
  | some payments => daemon.distributePayments env epoch payments

/-! ## Epochs -/

/-- Start an epoch. -/
def startEpoch (env : TickEnv) (newEpoch : Int) : Effect PaymentSystem Unit :=
  openEpoch env.createEpoch env.initializeEpoch env.dbNow env.now newEpoch 1

/-- End an epoch: slash, pay, and start the next one. -/
def endEpoch (env : TickEnv) (epoch : Int) : Effect PaymentSystem Unit := do
  updateLedger env.endUptime fun ledger => ledger.endEpochUptime epoch env.dbNow
  daemon.checkAndSlashNodes env epoch
  daemon.finalizeAndPayEpoch env epoch
  startEpoch env (epoch + 1)

/-- The epoch that ends at a time, if one does. -/
def dueEpoch (now : Time) (metrics : PaymentDaemonMetrics) : Option Int :=
  if metrics.currentEpoch = 0 then
    none
  else
    match metrics.epochStart with
    | none => none
    | some epochStart =>
        if ((now : Int) - epochStart).tdiv MICROS_PER_SECOND < EPOCH_DURATION_SECONDS then none
        else some metrics.currentEpoch

/-- Check if the current epoch should end, and end it. -/
def checkEpochEnd (env : TickEnv) : Effect PaymentSystem Unit := do
  let system ← Effect.get
  match dueEpoch env.now system.metrics with
  | none => pure ()
  | some epoch => daemon.endEpoch env epoch

/-! ## Runs -/

/-- The two steps of a tick; their errors are only logged. -/
def tickSteps (env : TickEnv) : Effect PaymentSystem Unit := do
  Effect.attempt (daemon.accumulateUptime env)
  Effect.attempt (daemon.checkEpochEnd env)

/-- The system after a program that may have crashed. -/
def settle (result : PaymentSystem × Except Halt Unit) : PaymentSystem :=
  match result with
  | (system, .error .crash) => system.crash
  | (system, _) => system

/-- One tick of the daemon. -/
def tick (env : TickEnv) (system : PaymentSystem) : PaymentSystem :=
  if system.running then settle (daemon.tickSteps env system) else system

/-- Start the daemon; a failure to find an epoch is only logged. -/
def start (env : StartEnv) (system : PaymentSystem) : PaymentSystem :=
  settle (ensureCurrentEpoch env system.boot)

end PaymentDaemon

/-- Nothing was paid, slashed or opened yet, and the daemon is down. -/
structure PaymentSystem.Fresh (system : PaymentSystem) : Prop where
  uptime_eq : system.ledger.nodeEpochUptime = []
  slashing_eq : system.ledger.nodeSlashingEvents = []
  epochs_eq : system.ledger.paymentEpochs = []
  allocations_eq : system.chain.allocations = []
  slashes_eq : system.chain.slashes = []
  metrics_eq : system.metrics = .default
  down : system.running = false

/-- A step of the system. -/
inductive PaymentOp where
  /-- The daemon starts, or starts again. -/
  | start (env : StartEnv)
  | tick (env : TickEnv)
  /-- Other parts of the gateway change other tables. -/
  | others (db : Database)

/-- The system that a step leaves behind. -/
def PaymentOp.apply (daemon : PaymentDaemon) (system : PaymentSystem) : PaymentOp → PaymentSystem
  | .start env => PaymentDaemon.start env system
  | .tick env => daemon.tick env system
  | .others db => system.setLedger (system.ledger.withDatabase db)

end CyxCloud.Gateway
