import CyxCloud.Library.Runs
import CyxCloud.Metadata.FaultTolerance

/-!
# The outage clock

`nodes.first_offline_at` is meant to hold the start of the current outage and to be reset when the
node is back.  A run of the calls that write the lifecycle columns is followed beside the start of
each outage as the statuses tell it; the column agrees with it exactly when no call ends an outage
without resetting the column, or starts one without setting it.
-/

namespace CyxCloud.Metadata

open CyxCloud.Core Library

/-! ## Outages -/

/-- The start of the outage of a node once its status is known: an outage starts when the node goes
offline or is drained, and lasts until it is online. -/
def outageAfter (now : Time) (status : NodeStatus) (outage : Option Time) : Option Time :=
  match status with
  | .online => none
  | .offline | .draining => outage.or (some now)
  | .recovering | .maintenance => outage

/-- The tables, and the start of the current outage of each node. -/
structure OutageHistory where
  db : Database
  outages : Uuid → Option Time

namespace OutageHistory

/-- A call at some instant. -/
def apply (history : OutageHistory) (call : Time × NodeOp) : OutageHistory :=
  let db := call.2.apply history.db call.1
  { db
    outages := fun nodeId =>
      match db.getNode nodeId with
      | some node => outageAfter call.1 node.status (history.outages nodeId)
      | none => history.outages nodeId }

/-- An online node has no first instant offline, and that of a node out of service is the start of
its current outage. -/
def ClocksOutages (history : OutageHistory) : Prop :=
  ∀ node ∈ history.db.nodes,
    (node.status = .online → node.firstOfflineAt = none) ∧
      (node.status.isOut = true →
        node.firstOfflineAt = history.outages node.id ∧ node.firstOfflineAt ≠ none)

instance (history : OutageHistory) : Decidable history.ClocksOutages :=
  inferInstanceAs (Decidable (∀ node ∈ history.db.nodes, _))

end OutageHistory

/-- A call leaves the column of a row right: it does not put the row online while the column is
set, nor take it out of service while the column is empty. -/
def NodeOp.KeepsRowClock (node : Node) : NodeOp → Prop
  | .updateNodeHeartbeat nodeId => node.id = nodeId → node.firstOfflineAt = none
  | .updateNodeStatus nodeId .online => node.id = nodeId → node.firstOfflineAt = none
  | .updateNodeStatus nodeId .offline | .updateNodeStatus nodeId .draining
  | .markNodeDraining nodeId => node.id = nodeId → node.firstOfflineAt ≠ none
  | _ => True

instance NodeOp.decidableKeepsRowClock (node : Node) : DecidablePred (KeepsRowClock node)
  | .updateNodeHeartbeat _ | .updateNodeStatus _ .online | .updateNodeStatus _ .offline
  | .updateNodeStatus _ .draining | .markNodeDraining _ => inferInstanceAs (Decidable (_ → _))
  | .createNode _ _ | .updateNodeHeartbeatWithRecovery _ | .updateNodeHeartbeatByPeerId _
  | .updateNodeStatus _ .recovering | .updateNodeStatus _ .maintenance | .markNodeOffline _
  | .markNodeRecovering _ | .markNodeOnline _ => inferInstanceAs (Decidable True)

/-- A call leaves the column of every row right. -/
def NodeOp.KeepsClock (history : OutageHistory) (call : Time × NodeOp) : Prop :=
  ∀ node ∈ history.db.nodes, call.2.KeepsRowClock node

instance (history : OutageHistory) : DecidablePred (NodeOp.KeepsClock history) := fun call =>
  inferInstanceAs (Decidable (∀ node ∈ history.db.nodes, call.2.KeepsRowClock node))

/-! ## One row -/

/-- The column of a row fits its status. -/
structure Node.Settled (node : Node) : Prop where
  online : node.status = .online → node.firstOfflineAt = none
  isOut : node.status.isOut = true → node.firstOfflineAt ≠ none

theorem settled_of_outageAfter {now : Time} {node : Node} {outage : Option Time}
    (clocked : node.firstOfflineAt = outageAfter now node.status outage) : node.Settled := by
  constructor
  · intro online
    rw [clocked, online]
    rfl
  · intro out
    rw [clocked]
    cases status : node.status <;> rw [status] at out <;> cases out <;>
      cases outage <;> exact Option.some_ne_none _

/-- A settled row stays as its status tells. -/
theorem Node.Settled.outageAfter_eq {node : Node} (settled : node.Settled) (now : Time) :
    node.firstOfflineAt = outageAfter now node.status node.firstOfflineAt := by
  cases status : node.status with
  | online => exact settled.online status
  | offline | draining =>
      obtain ⟨start, start_eq⟩ := Option.ne_none_iff_exists'.mp (settled.isOut (by rw [status]; rfl))
      rw [start_eq]
      rfl
  | recovering | maintenance => rfl

theorem outageAfter_of_ne_none {outage : Option Time} (running : outage ≠ none) (now : Time) :
    outage = outage.or (some now) := by
  obtain ⟨start, rfl⟩ := Option.ne_none_iff_exists'.mp running
  rfl

/-- A heartbeat that knows about recovery follows the outage. -/
theorem heartbeatRow_outageAfter {node : Node} (settled : node.Settled) (now : Time) :
    (Database.heartbeatRow node.status now node).firstOfflineAt =
      outageAfter now (Database.heartbeatRow node.status now node).status node.firstOfflineAt := by
  have kept := settled.outageAfter_eq now
  cases status : node.status with
  | online | recovering | maintenance =>
      rw [status] at kept
      simpa [Database.heartbeatRow, status] using kept
  | offline | draining => rfl

/-- A call that keeps the clock of a row follows its outage. -/
theorem rowAfter_outageAfter {op : NodeOp} {node : Node} (settled : node.Settled)
    (keeps : op.KeepsRowClock node) (now : Time) :
    (op.rowAfter now node).firstOfflineAt =
      outageAfter now (op.rowAfter now node).status node.firstOfflineAt := by
  rw [NodeOp.rowAfter]
  split
  · rename_i addressed
    cases op with
    | createNode id registration => rfl
    | updateNodeHeartbeat nodeId => exact keeps (beq_iff_eq.mp addressed)
    | updateNodeHeartbeatWithRecovery nodeId => exact heartbeatRow_outageAfter settled now
    | updateNodeHeartbeatByPeerId peerId => exact heartbeatRow_outageAfter settled now
    | updateNodeStatus nodeId status =>
        cases status with
        | online => exact keeps (beq_iff_eq.mp addressed)
        | offline | draining => exact outageAfter_of_ne_none (keeps (beq_iff_eq.mp addressed)) now
        | recovering | maintenance => rfl
    | markNodeOffline nodeId => rfl
    | markNodeRecovering nodeId => rfl
    | markNodeOnline nodeId => rfl
    | markNodeDraining nodeId => exact outageAfter_of_ne_none (keeps (beq_iff_eq.mp addressed)) now
  · exact settled.outageAfter_eq now

/-- Only a call that keeps the clock of a row leaves the row settled. -/
theorem keepsRowClock_of_settled {op : NodeOp} {node : Node} {now : Time}
    (settled : (op.rowAfter now node).Settled) : op.KeepsRowClock node := by
  have written : op.addresses node = true → (op.write now node).Settled := by
    intro addressed
    rw [NodeOp.rowAfter, if_pos addressed] at settled
    exact settled
  cases op with
  | updateNodeHeartbeat nodeId => exact fun same => (written (beq_iff_eq.mpr same)).online rfl
  | updateNodeStatus nodeId status =>
      cases status with
      | online => exact fun same => (written (beq_iff_eq.mpr same)).online rfl
      | offline | draining => exact fun same => (written (beq_iff_eq.mpr same)).isOut rfl
      | recovering | maintenance => trivial
  | markNodeDraining nodeId => exact fun same => (written (beq_iff_eq.mpr same)).isOut rfl
  | _ => trivial

/-! ## Runs -/

namespace OutageHistory

/-- Every row is settled, and its column is the start of its outage. -/
structure Clocked (history : OutageHistory) : Prop where
  unique : history.db.UniqueNodes
  settled : ∀ node ∈ history.db.nodes, node.Settled
  outages : ∀ node ∈ history.db.nodes, node.firstOfflineAt = history.outages node.id

theorem Clocked.clocksOutages {history : OutageHistory} (clocked : history.Clocked) :
    history.ClocksOutages := fun node member =>
  ⟨(clocked.settled node member).online,
    fun out => ⟨clocked.outages node member, (clocked.settled node member).isOut out⟩⟩

/-- The outage of a row after a call. -/
theorem Clocked.outages_apply {history : OutageHistory} (clocked : history.Clocked)
    (call : Time × NodeOp) {row : Node} (member : row ∈ (history.apply call).db.nodes) :
    (history.apply call).outages row.id =
      outageAfter call.1 row.status (history.outages row.id) := by
  have unique := NodeOp.uniqueNodes_apply clocked.unique call.1 call.2
  change (match (call.2.apply history.db call.1).getNode row.id with
    | some node => outageAfter call.1 node.status (history.outages row.id)
    | none => history.outages row.id) = _
  rw [unique.getNode_eq member]

/-- A row after a call is an old row after the call, or new. -/
theorem Clocked.mem_apply {history : OutageHistory} (clocked : history.Clocked)
    (call : Time × NodeOp) {row : Node} :
    row ∈ (history.apply call).db.nodes ↔
      (∃ node ∈ history.db.nodes, call.2.rowAfter call.1 node = row) ∨
        row ∈ call.2.newRows history.db call.1 := by
  change row ∈ (call.2.apply history.db call.1).nodes ↔ _
  rw [NodeOp.apply_nodes clocked.unique, List.mem_append, List.mem_map]

theorem Clocked.apply {history : OutageHistory} (clocked : history.Clocked)
    {call : Time × NodeOp} (keeps : NodeOp.KeepsClock history call) :
    (history.apply call).Clocked := by
  have rows : ∀ row ∈ (history.apply call).db.nodes,
      row.firstOfflineAt = outageAfter call.1 row.status (history.outages row.id) := by
    intro row member
    rcases (clocked.mem_apply call).mp member with ⟨node, known, rfl⟩ | added
    · rw [NodeOp.rowAfter_id, ← clocked.outages node known]
      exact rowAfter_outageAfter (clocked.settled node known) (keeps node known) call.1
    · obtain ⟨-, -, registration, row_eq⟩ := NodeOp.newRows_eq_register added
      rw [row_eq]
      rfl
  exact
    { unique := NodeOp.uniqueNodes_apply clocked.unique call.1 call.2
      settled := fun row member => settled_of_outageAfter (rows row member)
      outages := fun row member =>
        (rows row member).trans (clocked.outages_apply call member).symm }

theorem Clocked.keepsClock {history : OutageHistory} (clocked : history.Clocked)
    {call : Time × NodeOp} (clocks : (history.apply call).ClocksOutages) :
    NodeOp.KeepsClock history call := by
  intro node known
  have right := clocks (call.2.rowAfter call.1 node)
    ((clocked.mem_apply call).mpr (.inl ⟨node, known, rfl⟩))
  exact keepsRowClock_of_settled
    { online := right.1
      isOut := fun out => (right.2 out).2 }

/-- The history of tables without nodes. -/
def start (db : Database) : OutageHistory :=
  { db
    outages := fun _ => none }

end OutageHistory

/-- From tables without nodes, the column follows the outages throughout a run exactly when every
call keeps the clock. -/
theorem outage_clock_iff (db : Database) (calls : List (Time × NodeOp)) (empty : db.nodes = []) :
    EveryState OutageHistory.apply OutageHistory.ClocksOutages (.start db) calls ↔
      EveryStep OutageHistory.apply NodeOp.KeepsClock (.start db) calls := by
  have clocked : (OutageHistory.start db).Clocked :=
    { unique :=
        { ids := by simp [OutageHistory.start, empty]
          peerIds := by simp [OutageHistory.start, empty] }
      settled := by simp [OutageHistory.start, empty]
      outages := by simp [OutageHistory.start, empty] }
  exact everyState_iff_of_restores OutageHistory.Clocked (fun _ inv => inv.clocksOutages)
    (fun _ _ inv keeps => inv.apply keeps) (fun _ _ inv reached => inv.keepsClock reached)
    clocked calls

/-- A node that goes through quarantine after its first outage has a new clock in its second. -/
theorem outage_clock_quarantine :
    EveryState OutageHistory.apply OutageHistory.ClocksOutages (.start .empty)
      [(0, .createNode 1 firstRegistration), (10, .markNodeOffline 1),
        (20, .updateNodeHeartbeatByPeerId "peer-1"), (30, .markNodeOnline 1),
        (40, .markNodeOffline 1), (50, .markNodeDraining 1)] :=
  (outage_clock_iff .empty _ rfl).mpr (by decide)

/-- A plain heartbeat after the first outage leaves the clock of the first for the second. -/
theorem outage_clock_plain_heartbeat :
    ¬ ∀ db : Database, db.nodes = [] → ∀ calls : List (Time × NodeOp),
      EveryState OutageHistory.apply OutageHistory.ClocksOutages (.start db) calls := by
  intro clocks
  have reached := clocks .empty rfl
    [(0, .createNode 1 firstRegistration), (10, .markNodeOffline 1), (20, .updateNodeHeartbeat 1)]
  exact absurd reached (by decide)

end CyxCloud.Metadata
