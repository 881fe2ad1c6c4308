import CyxCloud.Gateway.LostHeartbeats
import CyxCloud.Gateway.Quarantine

/-!
# Nodes that keep reporting

A node whose heartbeats reach the database often enough is never taken out of service, and one that
has come back and goes on reporting is put online by the first check cycle that looks for recovered
nodes after its quarantine.
-/

namespace CyxCloud.Gateway

open CyxCloud.Core hiding Chunk
open Library Metadata

/-! ## Rows in service -/

/-- A row is online with a recent heartbeat, or recovering since some instant. -/
def Node.AtWork (config : FaultToleranceConfig) (now : Time) (since : Option Time) (node : Node) :
    Prop :=
  (node.status = .online ∧ ∃ beat ∈ node.lastHeartbeat, atMost config.offlineThreshold now beat) ∨
    (node.status = .recovering ∧ ∃ start ∈ since, node.statusChangedAt = some start)

instance (config : FaultToleranceConfig) (now : Time) (since : Option Time) (node : Node) :
    Decidable (Node.AtWork config now since node) :=
  inferInstanceAs (Decidable (_ ∧ _ ∨ _ ∧ _))

/-- A heartbeat names a node. -/
def HeartbeatAddress.Names (nodeId : Uuid) (peerId : String) : HeartbeatAddress → Prop
  | .byId id => id = nodeId
  | .byPeerId peer => peer = peerId

instance (nodeId : Uuid) (peerId : String) :
    DecidablePred (HeartbeatAddress.Names nodeId peerId)
  | .byId id => inferInstanceAs (Decidable (id = nodeId))
  | .byPeerId peer => inferInstanceAs (Decidable (peer = peerId))

theorem HeartbeatAddress.selects_iff {node : Node} {address : HeartbeatAddress} :
    address.selects node = true ↔ address.Names node.id node.peerId := by
  cases address with
  | byId id => exact beq_iff_eq.trans eq_comm
  | byPeerId peer => exact beq_iff_eq.trans eq_comm

section Rows

variable {config : FaultToleranceConfig} {now : Time} {since : Option Time} {node : Node}

theorem atWork_of_beat (online : node.status = .online) (beat : node.lastHeartbeat = some now) :
    Node.AtWork config now since node :=
  .inl ⟨online, now, beat, Nat.le_add_right _ _⟩

/-- The monitor has no reason to take the node out of service. -/
theorem Node.AtWork.not_selected (atWork : Node.AtWork config now since node) :
    node.isStale config.offlineThreshold now = false ∧
      node.awaitsDraining config.drainThreshold now = false ∧
        node.awaitsRemoval config.removeThreshold now = false := by
  rcases atWork with ⟨online, beat, is_beat, recent⟩ | ⟨recovering, -⟩
  · have fresh : olderThan config.offlineThreshold now beat = false :=
      decide_eq_false (Nat.not_lt.mpr recent)
    refine ⟨?_, by simp [Node.awaitsDraining, online], by simp [Node.awaitsRemoval, online]⟩
    rw [Node.isStale, Option.mem_def.mp is_beat, Option.all_some, fresh, Bool.and_false]
  · exact ⟨by simp [Node.isStale, recovering], by simp [Node.awaitsDraining, recovering],
      by simp [Node.awaitsRemoval, recovering]⟩

/-- A heartbeat that has not read the node out of service keeps it at work. -/
theorem Node.AtWork.heartbeatRow (atWork : Node.AtWork config now since node) {status : NodeStatus}
    (serving : status.isOut = false) :
    Node.AtWork config now since (Database.heartbeatRow status now node) := by
  have written : (Database.heartbeatRow status now node).status = node.status ∧
      (Database.heartbeatRow status now node).statusChangedAt = node.statusChangedAt ∧
        (Database.heartbeatRow status now node).lastHeartbeat = some now := by
    cases status with
    | online | recovering | maintenance => exact ⟨rfl, rfl, rfl⟩
    | offline | draining => cases serving
  obtain ⟨status_eq, changed_eq, beat_eq⟩ := written
  rcases atWork with ⟨online, -⟩ | ⟨recovering, start, is_start, changed⟩
  · exact atWork_of_beat (status_eq.trans online) beat_eq
  · exact .inr ⟨status_eq.trans recovering, start, is_start, changed_eq.trans changed⟩

/-- The statement of a monitor that has not selected the node keeps it at work. -/
theorem Node.AtWork.monitor (atWork : Node.AtWork config now since node) {monitor : MonitorState}
    (spared : ¬monitor.hasSelected node.id) :
    Node.AtWork config now since (monitor.rowAfter now node) := by
  cases monitor with
  | markOffline nodeId rest =>
      have other : ¬(node.id == nodeId) = true :=
        fun same => spared (.inl (beq_iff_eq.mp same ▸ List.mem_cons_self))
      have kept : (MonitorState.markOffline nodeId rest).rowAfter now node = node := if_neg other
      rwa [kept]
  | markDraining nodeId rest =>
      have other : ¬(node.id == nodeId) = true :=
        fun same => spared (.inr (.inl (beq_iff_eq.mp same ▸ List.mem_cons_self)))
      have kept : (MonitorState.markDraining nodeId rest).rowAfter now node = node := if_neg other
      rwa [kept]
  | markOnline nodeId rest =>
      rw [MonitorState.rowAfter, NodeOp.rowAfter]
      split
      · exact atWork_of_beat rfl rfl
      · exact atWork
  | _ => exact atWork

end Rows

/-! ## What the monitor selects -/

namespace MonitorState

variable {config : FaultToleranceConfig} {db : Database} {now : Time} {event : Event}
  {nodeId : Uuid}

theorem hasSelected_resume {outcome : Outcome} {success failure : MonitorState}
    (selected : (resume outcome success failure).hasSelected nodeId) :
    success.hasSelected nodeId ∨ failure.hasSelected nodeId := by
  cases outcome with
  | done => exact .inl selected
  | lost | failed => exact .inr selected
  | crashed | crashedAfter => simp [resume, Outcome.answer, hasSelected, staleBatch, drainingBatch,
      removalBatch] at selected

theorem hasSelected_markOfflineAll (batch : List Uuid) :
    (markOfflineAll batch).hasSelected nodeId ↔ nodeId ∈ batch := by
  cases batch <;> simp [markOfflineAll, hasSelected, staleBatch, drainingBatch, removalBatch]

theorem hasSelected_markDrainingAll (batch : List Uuid) :
    (markDrainingAll batch).hasSelected nodeId ↔ nodeId ∈ batch := by
  cases batch <;> simp [markDrainingAll, hasSelected, staleBatch, drainingBatch, removalBatch]

theorem hasSelected_createAll (batch : List Uuid) (jobs : List RepairJob) :
    (createAll batch jobs).hasSelected nodeId ↔ nodeId ∈ batch := by
  cases jobs with
  | nil => exact hasSelected_markDrainingAll batch
  | cons job jobs => simp [createAll, hasSelected, staleBatch, drainingBatch, removalBatch]

theorem hasSelected_deleteAll (batch : List Uuid) :
    (deleteAll batch).hasSelected nodeId ↔ nodeId ∈ batch := by
  cases batch <;> simp [deleteAll, hasSelected, staleBatch, drainingBatch, removalBatch]

theorem not_hasSelected_markOnlineAll (batch : List Uuid) :
    ¬(markOnlineAll batch).hasSelected nodeId := by
  cases batch <;> simp [markOnlineAll, hasSelected, staleBatch, drainingBatch, removalBatch]

theorem not_hasSelected_idle : ¬idle.hasSelected nodeId := by
  simp [hasSelected, staleBatch, drainingBatch, removalBatch]

/-- A query only finds rows that it selects. -/
theorem exists_of_mem_query {order : RowOrder Node} {selects : Node → Bool}
    (found : nodeId ∈ (order.arrange (db.nodes.filter selects)).map Node.id) :
    ∃ node ∈ db.nodes, node.id = nodeId ∧ selects node = true := by
  obtain ⟨node, listed, rfl⟩ := List.mem_map.mp found
  obtain ⟨known, selected⟩ := List.mem_filter.mp ((order.arrange_perm _).subset listed)
  exact ⟨node, known, rfl, selected⟩

/-- A node is only selected for a reason in its row. -/
theorem hasSelected_next {monitor : MonitorState}
    (selected : (monitor.next config db now event).hasSelected nodeId) :
    monitor.hasSelected nodeId ∨ ∃ node ∈ db.nodes, node.id = nodeId ∧
      (node.isStale config.offlineThreshold now = true ∨
        node.awaitsDraining config.drainThreshold now = true ∨
          node.awaitsRemoval config.removeThreshold now = true) := by
  cases monitor with
  | idle => exact absurd selected not_hasSelected_idle
  | findStale =>
      rcases hasSelected_resume selected with listed | failed
      · obtain ⟨node, known, same, stale⟩ :=
          exists_of_mem_query ((hasSelected_markOfflineAll _).mp listed)
        exact .inr ⟨node, known, same, .inl stale⟩
      · exact absurd failed not_hasSelected_idle
  | markOffline addressed rest =>
      rcases hasSelected_resume selected with listed | listed <;>
        exact .inl (.inl (List.mem_cons_of_mem _ ((hasSelected_markOfflineAll rest).mp listed)))
  | findDraining =>
      rcases hasSelected_resume selected with listed | failed
      · obtain ⟨node, known, same, awaits⟩ :=
          exists_of_mem_query ((hasSelected_markDrainingAll _).mp listed)
        exact .inr ⟨node, known, same, .inr (.inl awaits)⟩
      · exact absurd failed not_hasSelected_idle
  | markDraining addressed rest =>
      refine .inl (.inr (.inl (List.mem_cons_of_mem _ ?_)))
      rcases hasSelected_resume selected with listed | listed
      · simpa [hasSelected, staleBatch, drainingBatch, removalBatch] using listed
      · exact (hasSelected_markDrainingAll rest).mp listed
  | findChunks addressed rest =>
      refine .inl (.inr (.inl ?_))
      rcases hasSelected_resume selected with listed | listed
      · split at listed
        · exact (hasSelected_markDrainingAll rest).mp listed
        · simpa [hasSelected, staleBatch, drainingBatch, removalBatch] using listed
      · exact (hasSelected_markDrainingAll rest).mp listed
  | findTargets addressed chunks rest =>
      refine .inl (.inr (.inl ?_))
      rcases hasSelected_resume selected with listed | listed
      · exact (hasSelected_createAll rest _).mp listed
      · exact (hasSelected_markDrainingAll rest).mp listed
  | createJob job jobs rest =>
      refine .inl (.inr (.inl ?_))
      rcases hasSelected_resume selected with listed | listed <;>
        exact (hasSelected_createAll rest jobs).mp listed
  | findRemoval =>
      rcases hasSelected_resume selected with listed | failed
      · obtain ⟨node, known, same, awaits⟩ :=
          exists_of_mem_query ((hasSelected_deleteAll _).mp listed)
        exact .inr ⟨node, known, same, .inr (.inr awaits)⟩
      · exact absurd failed not_hasSelected_idle
  | deleteNode addressed rest =>
      rcases hasSelected_resume selected with listed | listed <;>
        exact .inl (.inr (.inr (List.mem_cons_of_mem _ ((hasSelected_deleteAll rest).mp listed))))
  | findRecovered =>
      rcases hasSelected_resume selected with promoted | failed
      · exact absurd promoted (not_hasSelected_markOnlineAll _)
      · exact absurd failed not_hasSelected_idle
  | markOnline addressed rest =>
      rcases hasSelected_resume selected with promoted | promoted <;>
        exact absurd promoted (not_hasSelected_markOnlineAll _)

end MonitorState

/-! ## Steps -/

/-- A node reports: its row is at work, the monitor has not selected it, and no heartbeat that is
under way has read it out of service. -/
structure Reporting (config : FaultToleranceConfig) (since : Option Time) (nodeId : Uuid)
    (peerId : String) (state : Lifecycle) : Prop where
  unique : state.db.UniqueNodes
  row : ∃ node ∈ state.db.nodes, node.id = nodeId ∧ node.peerId = peerId ∧
    Node.AtWork config state.now since node
  spared : ¬state.monitor.hasSelected nodeId
  serving : ∀ heartbeat ∈ state.heartbeats, heartbeat.address.Names nodeId peerId →
    heartbeat.status.isOut = false

/-- While the row of a node is online, no wait makes its last heartbeat older than the threshold. -/
def HeardInTime (config : FaultToleranceConfig) (nodeId : Uuid) (state : Lifecycle) :
    LifecycleStep → Prop
  | .wait elapsed => ∀ node ∈ state.db.nodes, node.id = nodeId → node.status = .online →
      ∃ beat ∈ node.lastHeartbeat, atMost config.offlineThreshold (state.now + elapsed) beat
  | _ => True

instance (config : FaultToleranceConfig) (nodeId : Uuid) (state : Lifecycle) :
    DecidablePred (HeardInTime config nodeId state)
  | .wait _ => inferInstanceAs (Decidable (∀ node ∈ state.db.nodes, _))
  | .createNode _ _ | .updateNodeHeartbeat _ | .readHeartbeat _ | .writeHeartbeat _ | .startCycle
  | .monitor _ | .storage _ => inferInstanceAs (Decidable True)

namespace Reporting

variable {config : FaultToleranceConfig} {since : Option Time} {nodeId : Uuid} {peerId : String}
  {state : Lifecycle} {step : LifecycleStep}

theorem atWork_of_mem (reporting : Reporting config since nodeId peerId state) {node : Node}
    (known : node ∈ state.db.nodes) (same : node.id = nodeId) :
    node.peerId = peerId ∧ Node.AtWork config state.now since node := by
  obtain ⟨found, found_mem, found_id, found_peer, atWork⟩ := reporting.row
  obtain rfl := reporting.unique.eq_of_id known found_mem (same.trans found_id.symm)
  exact ⟨found_peer, atWork⟩

/-- A step keeps the row at work. -/
theorem row_apply (reporting : Reporting config since nodeId peerId state)
    (heard : HeardInTime config nodeId state step) :
    ∃ node ∈ (state.apply config step).db.nodes, node.id = nodeId ∧ node.peerId = peerId ∧
      Node.AtWork config (state.apply config step).now since node := by
  obtain ⟨node, known, rfl, rfl, atWork⟩ := reporting.row
  have spared := reporting.spared
  have kept : state.keepsRow node step = true := by
    cases step with
    | monitor event =>
        cases monitor : state.monitor with
        | deleteNode addressed rest =>
            have other : node.id ≠ addressed := by
              rintro rfl
              exact spared (.inr (.inr (by rw [monitor]; exact List.mem_cons_self)))
            simp [Lifecycle.keepsRow, MonitorState.keepsRow, monitor, other]
        | _ => simp [Lifecycle.keepsRow, MonitorState.keepsRow, monitor]
    | _ => rfl
  refine ⟨state.rowAfter node step, (Lifecycle.mem_apply_nodes reporting.unique).mpr
    (.inl ⟨node, known, kept, rfl⟩), Lifecycle.rowAfter_id node step,
      Lifecycle.rowAfter_peerId node step, ?_⟩
  cases step with
  | wait elapsed =>
      rcases atWork with ⟨online, -⟩ | recovering
      · exact .inl ⟨online, heard node known rfl online⟩
      · exact .inr recovering
  | createNode id registration =>
      rw [Lifecycle.rowAfter, NodeOp.rowAfter]
      split
      · exact atWork_of_beat rfl rfl
      · exact atWork
  | updateNodeHeartbeat addressed =>
      rw [Lifecycle.rowAfter, NodeOp.rowAfter]
      split
      · exact atWork_of_beat rfl rfl
      · exact atWork
  | readHeartbeat address =>
      rw [(Lifecycle.readHeartbeat_keeps config state address).1]
      exact atWork
  | writeHeartbeat heartbeat =>
      rw [(Lifecycle.writeHeartbeat_keeps config state heartbeat).1, Lifecycle.rowAfter]
      split
      · rename_i pending
        exact atWork.heartbeatRow (reporting.serving heartbeat pending.1
          (HeartbeatAddress.selects_iff.mp pending.2))
      · exact atWork
  | monitor event =>
      rw [Lifecycle.rowAfter]
      split
      · exact atWork.monitor spared
      · exact atWork
  | startCycle | storage op => exact atWork

/-- A step does not make the monitor select the node. -/
theorem spared_apply (reporting : Reporting config since nodeId peerId state) :
    ¬(state.apply config step).monitor.hasSelected nodeId := by
  have spared := reporting.spared
  cases step with
  | monitor event =>
      intro selected
      rcases MonitorState.hasSelected_next selected with before | ⟨node, known, same, reason⟩
      · exact spared before
      · obtain ⟨-, atWork⟩ := reporting.atWork_of_mem known same
        obtain ⟨fresh, in_service, in_service'⟩ := atWork.not_selected
        simp [fresh, in_service, in_service'] at reason
  | readHeartbeat address =>
      rw [(Lifecycle.readHeartbeat_keeps config state address).2]
      exact spared
  | writeHeartbeat heartbeat =>
      rw [(Lifecycle.writeHeartbeat_keeps config state heartbeat).2]
      exact spared
  | startCycle =>
      simp only [Lifecycle.apply]
      split
      · simp [MonitorState.hasSelected, MonitorState.staleBatch, MonitorState.drainingBatch,
          MonitorState.removalBatch]
      · exact spared
  | wait elapsed | createNode id registration | updateNodeHeartbeat addressed | storage op =>
      exact spared

theorem Node.AtWork.isOut_eq {node : Node} (atWork : Node.AtWork config state.now since node) :
    node.status.isOut = false := by
  rcases atWork with ⟨online, -⟩ | ⟨recovering, -⟩
  · rw [online]
    rfl
  · rw [recovering]
    rfl

/-- No heartbeat of the node reads it out of service. -/
theorem serving_apply (reporting : Reporting config since nodeId peerId state) :
    ∀ heartbeat ∈ (state.apply config step).heartbeats,
      heartbeat.address.Names nodeId peerId → heartbeat.status.isOut = false := by
  have serving := reporting.serving
  cases step with
  | readHeartbeat address =>
      simp only [Lifecycle.apply]
      cases found : state.db.nodes.find? fun node => address.selects node with
      | none => exact serving
      | some node =>
          intro heartbeat member names
          rcases List.mem_cons.mp member with rfl | before
          · have known := List.mem_of_find?_eq_some found
            have matched : address.selects node = true := by simpa using List.find?_some found
            have selected := HeartbeatAddress.selects_iff.mp matched
            obtain ⟨row, row_mem, row_id, row_peer, -⟩ := reporting.row
            have same : node = row := by
              cases address with
              | byId id =>
                  exact reporting.unique.eq_of_id known row_mem
                    (selected.symm.trans (names.trans row_id.symm))
              | byPeerId peer =>
                  exact reporting.unique.eq_of_peerId known row_mem
                    (selected.symm.trans (names.trans row_peer.symm))
            subst same
            exact Node.AtWork.isOut_eq (reporting.atWork_of_mem known row_id).2
          · exact serving heartbeat before names
  | writeHeartbeat written =>
      simp only [Lifecycle.apply]
      split
      · exact fun heartbeat member => serving heartbeat (List.mem_of_mem_erase member)
      · exact serving
  | _ => exact serving

/-- A node goes on reporting as long as it is heard in time. -/
theorem apply (reporting : Reporting config since nodeId peerId state)
    (heard : HeardInTime config nodeId state step) :
    Reporting config since nodeId peerId (state.apply config step) where
  unique := Lifecycle.uniqueNodes_apply reporting.unique step
  row := reporting.row_apply heard
  spared := reporting.spared_apply
  serving := reporting.serving_apply

/-- A node at work that is online need not be recovering. -/
theorem of_online (reporting : Reporting config since nodeId peerId state)
    (online : ∃ node ∈ state.db.nodes, node.id = nodeId ∧ node.status = .online) :
    Reporting config none nodeId peerId state := by
  obtain ⟨node, known, same, is_online⟩ := online
  obtain ⟨peer, recent | recovering⟩ := reporting.atWork_of_mem known same
  · exact { reporting with row := ⟨node, known, same, peer, .inl recent⟩ }
  · rw [is_online] at recovering
    cases recovering.1

theorem online (reporting : Reporting config none nodeId peerId state) :
    ∃ node ∈ state.db.nodes, node.id = nodeId ∧ node.status = .online := by
  obtain ⟨node, known, same, -, recent | ⟨-, start, nothing, -⟩⟩ := reporting.row
  · exact ⟨node, known, same, recent.1⟩
  · cases nothing

end Reporting

/-- In every interleaving of registrations, heartbeats, storage operations and check cycles, a node
whose heartbeats keep its row recent is online throughout. -/
theorem online_while_heard {config : FaultToleranceConfig} {nodeId : Uuid} {peerId : String}
    {state : Lifecycle} (reporting : Reporting config none nodeId peerId state)
    {steps : List LifecycleStep}
    (heard : EveryStep (Lifecycle.apply config) (HeardInTime config nodeId) state steps) :
    EveryState (Lifecycle.apply config)
      (fun reached => ∃ node ∈ reached.db.nodes, node.id = nodeId ∧ node.status = .online)
      state steps := by
  have every := everyState_of_everyStep (fun _ _ inv met => Reporting.apply inv met) reporting heard
  exact every.mono fun _ inv => inv.online

/-- A node has registered and sent its first heartbeat. -/
def firstHeard : Lifecycle :=
  runAll (Lifecycle.apply .default) (.start .empty 0)
    [.createNode 1 firstRegistration, .updateNodeHeartbeat 1]

/-- A node that sends a heartbeat every four minutes stays online through a check cycle. -/
theorem online_while_heard_every_four_minutes :
    EveryState (Lifecycle.apply .default)
      (fun reached => ∃ node ∈ reached.db.nodes, node.id = 1 ∧ node.status = .online)
      firstHeard
      [.wait (240 * 1000000), .readHeartbeat (.byPeerId "peer-1"), .startCycle,
        .wait (20 * 1000000), .writeHeartbeat ⟨.byPeerId "peer-1", .online⟩, .monitor .answered,
        .wait (240 * 1000000), .monitor .answered, .updateNodeHeartbeat 1] := by
  have reporting : Reporting .default none 1 "peer-1" firstHeard :=
    { unique := ⟨by decide, by decide⟩
      row := by decide
      spared := by decide
      serving := by decide }
  exact online_while_heard reporting (by decide)

/-! ## Coming back -/

/-- The statements of the monitor are answered. -/
def LifecycleStep.Answered : LifecycleStep → Prop
  | .monitor event => event.outcome = .done
  | _ => True

instance : DecidablePred LifecycleStep.Answered
  | .monitor event => inferInstanceAs (Decidable (event.outcome = .done))
  | .wait _ | .createNode _ _ | .updateNodeHeartbeat _ | .readHeartbeat _ | .writeHeartbeat _
  | .startCycle | .storage _ => inferInstanceAs (Decidable True)

/-- A node is online, or about to be put online. -/
def Returning (config : FaultToleranceConfig) (since : Option Time) (nodeId : Uuid)
    (peerId : String) (state : Lifecycle) : Prop :=
  Reporting config none nodeId peerId state ∨
    Reporting config since nodeId peerId state ∧ nodeId ∈ state.monitor.onlineBatch

section Returning

variable {config : FaultToleranceConfig} {since : Option Time} {nodeId : Uuid} {peerId : String}
  {state : Lifecycle} {step : LifecycleStep}

/-- The statement that promotes a node puts its row online. -/
theorem online_of_markOnline {event : MonitorState.Event} {rest : List Uuid}
    (reporting : Reporting config since nodeId peerId state)
    (promotes : state.monitor = .markOnline nodeId rest) (answered : event.outcome = .done) :
    ∃ node ∈ (state.apply config (.monitor event)).db.nodes,
      node.id = nodeId ∧ node.status = .online := by
  obtain ⟨node, known, rfl, -, -⟩ := reporting.row
  have kept : state.keepsRow node (.monitor event) = true := by
    simp [Lifecycle.keepsRow, MonitorState.keepsRow, promotes]
  refine ⟨state.rowAfter node (.monitor event), (Lifecycle.mem_apply_nodes reporting.unique).mpr
    (.inl ⟨node, known, kept, rfl⟩), Lifecycle.rowAfter_id node _, ?_⟩
  have written : state.rowAfter node (.monitor event) = state.monitor.rowAfter state.now node := by
    rw [Lifecycle.rowAfter, answered]
    rfl
  have addressed : (NodeOp.markNodeOnline node.id).addresses node = true := beq_self_eq_true node.id
  rw [written, promotes, MonitorState.rowAfter, NodeOp.rowAfter, if_pos addressed]
  rfl

/-- A node stays online, or in line to be put online. -/
theorem Returning.apply (returning : Returning config since nodeId peerId state)
    (heard : HeardInTime config nodeId state step) (answered : step.Answered) :
    Returning config since nodeId peerId (state.apply config step) := by
  rcases returning with reporting | ⟨reporting, waits⟩
  · exact .inl (reporting.apply heard)
  have reached := reporting.apply heard
  by_cases others : ∀ event, step ≠ .monitor event
  · have batch_eq : (state.apply config step).monitor.onlineBatch = state.monitor.onlineBatch :=
      @ObservedLifecycle.onlineBatch_apply config ⟨state, fun _ => .none⟩ step others
    exact .inr ⟨reached, batch_eq ▸ waits⟩
  · obtain ⟨event, is_monitor⟩ := not_forall.mp others
    obtain rfl := not_not.mp is_monitor
    cases monitor : state.monitor with
    | markOnline head rest =>
        rw [monitor] at waits
        rcases List.mem_cons.mp waits with rfl | later
        · exact .inl (reached.of_online (online_of_markOnline reporting monitor answered))
        · have next : (state.apply config (.monitor event)).monitor =
              MonitorState.markOnlineAll rest := by
            have done : event.outcome = .done := answered
            change state.monitor.next config state.db state.now event = _
            rw [monitor, MonitorState.next, done]
            rfl
          refine .inr ⟨reached, ?_⟩
          rw [next, MonitorState.onlineBatch_markOnlineAll]
          exact later
    | _ =>
        rw [monitor] at waits
        cases waits

/-- The query for recovered nodes finds a node that has served its quarantine. -/
theorem returning_of_findRecovered {event : MonitorState.Event} {start : Time}
    (reporting : Reporting config (some start) nodeId peerId state)
    (looks : state.monitor = .findRecovered)
    (served : olderThan config.recoveryQuarantine state.now start = true)
    (answered : event.outcome = .done) :
    Returning config (some start) nodeId peerId (state.apply config (.monitor event)) := by
  have heard : HeardInTime config nodeId state (.monitor event) := trivial
  have reached := reporting.apply heard
  obtain ⟨node, known, same, peer, online | ⟨recovering, since, is_since, changed⟩⟩ := reporting.row
  · exact .inl ((reporting.of_online ⟨node, known, same, online.1⟩).apply heard)
  · obtain rfl := Option.some.inj is_since
    have recovered : node.isRecovered config.recoveryQuarantine state.now = true := by
      rw [Node.isRecovered, recovering, changed, Option.any_some, served]
      rfl
    have next : (state.apply config (.monitor event)).monitor = MonitorState.markOnlineAll
        ((state.db.getRecoveredNodes event.nodeOrder config.recoveryQuarantine state.now).map
          Node.id) := by
      change state.monitor.next config state.db state.now event = _
      rw [looks, MonitorState.next, answered]
      rfl
    refine .inr ⟨reached, ?_⟩
    rw [next, MonitorState.onlineBatch_markOnlineAll]
    have found : node ∈ state.db.getRecoveredNodes event.nodeOrder config.recoveryQuarantine
        state.now := (event.nodeOrder.arrange_perm _).mem_iff.mpr
          (List.mem_filter.mpr ⟨known, recovered⟩)
    exact List.mem_map.mpr ⟨node, found, same⟩

end Returning

/-- A check cycle looks for recovered nodes when a node has been recovering for longer than the
quarantine.  If its statements are answered and the node goes on reporting, the node is online
whenever no promotion is left to make, whatever else happens. -/
theorem online_after_quarantine {config : FaultToleranceConfig} {start : Time} {nodeId : Uuid}
    {peerId : String} {state : Lifecycle} {event : MonitorState.Event} {steps : List LifecycleStep}
    (reporting : Reporting config (some start) nodeId peerId state)
    (looks : state.monitor = .findRecovered)
    (served : olderThan config.recoveryQuarantine state.now start = true)
    (answered : event.outcome = .done)
    (heard : EveryStep (Lifecycle.apply config)
      (fun reached step => HeardInTime config nodeId reached step ∧ step.Answered)
      (state.apply config (.monitor event)) steps) :
    EveryState (Lifecycle.apply config)
      (fun reached => reached.monitor.onlineBatch = [] →
        ∃ node ∈ reached.db.nodes, node.id = nodeId ∧ node.status = .online)
      (state.apply config (.monitor event)) steps := by
  have returning := returning_of_findRecovered reporting looks served answered
  have every := everyState_of_everyStep
    (fun _ _ inv met => Returning.apply inv met.1 met.2) returning heard
  refine every.mono fun reached inv settled => ?_
  rcases inv with online | ⟨-, waits⟩
  · exact online.online
  · rw [settled] at waits
    cases waits

/-- A node has reported back and served its quarantine, and the monitor looks for such nodes. -/
def quarantineOver : Lifecycle :=
  runAll (Lifecycle.apply .default) (.start .empty 0)
    (reportsBack ++
      [.wait (301 * 1000000), .readHeartbeat (.byPeerId "peer-1"),
        .writeHeartbeat ⟨.byPeerId "peer-1", .recovering⟩, .monitor .answered,
        .monitor .answered])

/-- Such a node is online once the cycle is over, and stays so through the next one. -/
theorem online_after_quarantine_of_one_node :
    EveryState (Lifecycle.apply .default)
      (fun reached => reached.monitor.onlineBatch = [] →
        ∃ node ∈ reached.db.nodes, node.id = 1 ∧ node.status = .online)
      (quarantineOver.apply .default (.monitor .answered))
      [.wait 5, .monitor .answered, .startCycle, .monitor .answered] := by
  have reporting : Reporting .default (some (301 * 1000000)) 1 "peer-1" quarantineOver :=
    { unique := ⟨by decide, by decide⟩
      row := by decide
      spared := by decide
      serving := by decide }
  exact online_after_quarantine reporting (by decide) (by decide) rfl
    (by decide)

end CyxCloud.Gateway
