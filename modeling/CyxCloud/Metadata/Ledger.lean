import CyxCloud.Metadata.Database
import Mathlib.Data.List.Sort

/-!
# Uptime, slashing and payment epochs

The tables of the migration `005_uptime_tracking.sql` and the statements of
`cyxcloud-metadata/src/postgres.rs` on them.  Rows of uptime and slashing belong to a node and go
with it; the pair of node and epoch is unique in the table of uptime, the number of an epoch in the
table of payment epochs.
-/

namespace CyxCloud.Metadata

open CyxCloud.Core Library

/-- Reasons for a slash. -/
inductive SlashReason where
  | dataLoss
  | extendedDowntime
  | corruptedData
  | failedProofs
  deriving DecidableEq, Repr

/-- The part of the stake that is slashed, in percent. -/
def SlashReason.slashPercent : SlashReason → Int
  | .dataLoss => 10
  | .extendedDowntime => 5
  | .corruptedData => 50
  | .failedProofs => 15

/-- A row of `node_epoch_uptime`. -/
structure NodeEpochUptime where
  nodeId : Uuid
  epoch : Int
  epochStart : Time
  epochEnd : Option Time
  secondsOnline : Nat
  secondsOffline : Nat
  paymentAllocated : Bool
  paymentAmount : Option Int
  paymentTxSignature : Option String
  deriving DecidableEq, Repr

/-- The row of a node at the start of an epoch. -/
def NodeEpochUptime.new (nodeId : Uuid) (epoch : Int) (epochStart : Time) : NodeEpochUptime :=
  { nodeId
    epoch
    epochStart
    epochEnd := none
    secondsOnline := 0
    secondsOffline := 0
    paymentAllocated := false
    paymentAmount := none
    paymentTxSignature := none }

/-- The unique pair of node and epoch. -/
def NodeEpochUptime.key (row : NodeEpochUptime) : Uuid × Int := (row.nodeId, row.epoch)

/-- The rows have the same key and the same payment. -/
structure NodeEpochUptime.SamePayment (left right : NodeEpochUptime) : Prop where
  key_eq : left.key = right.key
  paymentAllocated_eq : left.paymentAllocated = right.paymentAllocated
  paymentAmount_eq : left.paymentAmount = right.paymentAmount

/-- The details kept with a slash for downtime. -/
structure SlashDetails where
  secondsOffline : Nat
  thresholdSeconds : Nat
  deriving DecidableEq, Repr

/-- A row of `node_slashing_events`. -/
structure SlashingEvent where
  nodeId : Uuid
  epoch : Int
  reason : SlashReason
  slashPercent : Int
  slashAmount : Option Int
  txSignature : Option String
  details : Option SlashDetails
  deriving DecidableEq, Repr

/-- A row of `payment_epochs`. -/
structure PaymentEpoch where
  epoch : Int
  startedAt : Time
  endedAt : Option Time
  finalized : Bool
  totalPoolAmount : Option Int
  nodesShare : Option Int
  platformShare : Option Int
  communityShare : Option Int
  nodesPaid : Nat
  finalizeTxSignature : Option String
  deriving DecidableEq, Repr

/-- The row of an epoch when it is created. -/
def PaymentEpoch.new (epoch : Int) (startedAt : Time) : PaymentEpoch :=
  { epoch
    startedAt
    endedAt := none
    finalized := false
    totalPoolAmount := none
    nodesShare := none
    platformShare := none
    communityShare := none
    nodesPaid := 0
    finalizeTxSignature := none }

/-- All tables that the payment daemon works on. -/
structure Ledger extends Database where
  nodeEpochUptime : List NodeEpochUptime
  nodeSlashingEvents : List SlashingEvent
  paymentEpochs : List PaymentEpoch

namespace Ledger

variable (ledger : Ledger)

/-! ## Uptime -/

/-- Apply an update to the uptime rows that satisfy a condition. -/
def updateUptime (condition : NodeEpochUptime → Bool)
    (update : NodeEpochUptime → NodeEpochUptime) : Ledger :=
  { ledger with
    nodeEpochUptime := ledger.nodeEpochUptime.map fun row =>
      if condition row then update row else row }

/-- A node has a row for an epoch. -/
def hasUptime (nodeId : Uuid) (epoch : Int) : Bool :=
  ledger.nodeEpochUptime.any fun row => row.nodeId == nodeId && row.epoch == epoch

/-- Create the row of a node for an epoch unless it has one. -/
def createOrGetEpochUptime (nodeId : Uuid) (epoch : Int) (epochStart : Time) :
    Except DbError (Ledger × Unit) :=
  if ledger.hasUptime nodeId epoch then
    .ok (ledger, ())
  else if ledger.hasNode nodeId then
    .ok ({ ledger with
           nodeEpochUptime := ledger.nodeEpochUptime ++ [.new nodeId epoch epochStart] }, ())
  else
    .error .foreignKeyViolation

/-- Add online time to the row of a node. -/
def updateUptimeOnline (nodeId : Uuid) (epoch : Int) (seconds : Nat) : Ledger :=
  ledger.updateUptime (fun row => row.nodeId == nodeId && row.epoch == epoch) fun row =>
    { row with secondsOnline := row.secondsOnline + seconds }

/-- Add offline time to the row of a node. -/
def updateUptimeOffline (nodeId : Uuid) (epoch : Int) (seconds : Nat) : Ledger :=
  ledger.updateUptime (fun row => row.nodeId == nodeId && row.epoch == epoch) fun row =>
    { row with secondsOffline := row.secondsOffline + seconds }

/-- The rows of an epoch, the most reliable nodes first; ties come in any order. -/
def getEpochUptime (order : RowOrder NodeEpochUptime) (epoch : Int) : List NodeEpochUptime :=
  (order.arrange (ledger.nodeEpochUptime.filter fun row => row.epoch == epoch)).insertionSort
    fun left right => right.secondsOnline ≤ left.secondsOnline

/-- The rows of an epoch without a payment, in the same order. -/
def getUnpaidEpochUptime (order : RowOrder NodeEpochUptime) (epoch : Int) :
    List NodeEpochUptime :=
  (order.arrange (ledger.nodeEpochUptime.filter fun row =>
    row.epoch == epoch && !row.paymentAllocated)).insertionSort
      fun left right => right.secondsOnline ≤ left.secondsOnline

/-- Record the payment of a node for an epoch. -/
def markPaymentAllocated (nodeId : Uuid) (epoch : Int) (amount : Int)
    (txSignature : Option String) : Ledger :=
  ledger.updateUptime (fun row => row.nodeId == nodeId && row.epoch == epoch) fun row =>
    { row with
      paymentAllocated := true
      paymentAmount := some amount
      paymentTxSignature := txSignature }

/-- End the tracking of an epoch. -/
def endEpochUptime (epoch : Int) (now : Time) : Ledger :=
  ledger.updateUptime (fun row => row.epoch == epoch) fun row => { row with epochEnd := some now }

/-- The rows of an epoch with more offline time than the threshold, in any order. -/
def getNodesWithExtendedDowntime (order : RowOrder NodeEpochUptime) (epoch : Int)
    (thresholdSeconds : Nat) : List NodeEpochUptime :=
  order.arrange (ledger.nodeEpochUptime.filter fun row =>
    row.epoch == epoch && decide (row.secondsOffline > thresholdSeconds))

/-- The status is one of those that get a row at the start of an epoch. -/
def tracksStatus : NodeStatus → Bool
  | .online | .recovering | .offline | .draining => true
  | .maintenance => false

/-- Create the rows of an epoch; a row that is there stays. -/
def initializeEpochForAllNodes (epoch : Int) (epochStart : Time) : Ledger :=
  { ledger with
    nodeEpochUptime := ledger.nodeEpochUptime ++
      acceptedRows NodeEpochUptime.key (ledger.nodeEpochUptime.map NodeEpochUptime.key)
        ((ledger.nodes.filter fun node => tracksStatus node.status).map fun node =>
          .new node.id epoch epochStart) }

/-! ## Slashing -/

/-- Record a slashing event; the node must exist. -/
def recordSlashingEvent (event : SlashingEvent) : Except DbError (Ledger × Unit) :=
  if ledger.hasNode event.nodeId then
    .ok ({ ledger with nodeSlashingEvents := ledger.nodeSlashingEvents ++ [event] }, ())
  else
    .error .foreignKeyViolation

/-! ## Payment epochs -/

/-- An epoch has a row. -/
def hasEpoch (epoch : Int) : Bool := ledger.paymentEpochs.any fun row => row.epoch == epoch

/-- Create the row of an epoch, whose number must be new. -/
def createPaymentEpoch (epoch : Int) (now : Time) : Except DbError (Ledger × PaymentEpoch) :=
  if ledger.hasEpoch epoch then
    .error .uniqueViolation
  else
    .ok ({ ledger with paymentEpochs := ledger.paymentEpochs ++ [.new epoch now] }, .new epoch now)

/-- The latest epoch that is not finalized. -/
def getCurrentPaymentEpoch : Option PaymentEpoch :=
  ((ledger.paymentEpochs.filter fun row => !row.finalized).insertionSort
    fun left right => right.epoch ≤ left.epoch).head?

/-- What the row of a finalized epoch records. -/
structure EpochTotals where
  totalPoolAmount : Int
  nodesShare : Int
  platformShare : Int
  communityShare : Int
  nodesPaid : Nat
  txSignature : Option String
  deriving DecidableEq, Repr

/-- Finalize an epoch. -/
def finalizePaymentEpoch (epoch : Int) (now : Time) (totals : EpochTotals) : Ledger :=
  { ledger with
    paymentEpochs := ledger.paymentEpochs.map fun row =>
      if row.epoch == epoch then
        { row with
          finalized := true
          endedAt := some now
          totalPoolAmount := some totals.totalPoolAmount
          nodesShare := some totals.nodesShare
          platformShare := some totals.platformShare
          communityShare := some totals.communityShare
          nodesPaid := totals.nodesPaid
          finalizeTxSignature := totals.txSignature }
      else
        row }

/-! ## Nodes -/

/-- The ledger once other tables have changed: the rows of nodes that are gone go with them. -/
def withDatabase (db : Database) : Ledger :=
  { toDatabase := db
    nodeEpochUptime := ledger.nodeEpochUptime.filter fun row => db.hasNode row.nodeId
    nodeSlashingEvents := ledger.nodeSlashingEvents.filter fun event => db.hasNode event.nodeId
    paymentEpochs := ledger.paymentEpochs }

end Ledger

end CyxCloud.Metadata
