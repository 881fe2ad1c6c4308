import CyxCloud.Gateway.LiveNodes

/-!
# Nodes that fall silent

A node whose last heartbeat is too old when a check cycle looks for stale nodes is out of service
once the cycle has gone through them, and stays so until it is heard again.
-/

namespace CyxCloud.Gateway

open CyxCloud.Core hiding Chunk
open Library Metadata

/-- A step is no sign of life of a node: it neither registers the node nor writes a heartbeat. -/
def SilentFor (nodeId : Uuid) (peerId : String) : LifecycleStep → Prop
  | .createNode id registration => id ≠ nodeId ∧ registration.peerId ≠ peerId
  | .updateNodeHeartbeat addressed => addressed ≠ nodeId
  | .writeHeartbeat heartbeat => ¬heartbeat.address.Names nodeId peerId
  | .wait _ | .readHeartbeat _ | .startCycle | .monitor _ | .storage _ => True

instance (nodeId : Uuid) (peerId : String) : DecidablePred (SilentFor nodeId peerId)
  | .createNode _ _ => inferInstanceAs (Decidable (_ ∧ _))
  | .updateNodeHeartbeat addressed => inferInstanceAs (Decidable (addressed ≠ nodeId))
  | .writeHeartbeat _ => inferInstanceAs (Decidable (¬_))
  | .wait _ | .readHeartbeat _ | .startCycle | .monitor _ | .storage _ =>
      inferInstanceAs (Decidable True)

/-- A node is out of service, or selected as stale and about to be; nothing promotes it. -/
structure Fading (nodeId : Uuid) (peerId : String) (state : Lifecycle) : Prop where
  unique : state.db.UniqueNodes
  row : ∀ node ∈ state.db.nodes, node.id = nodeId → node.peerId = peerId ∧
    (nodeId ∈ state.monitor.staleBatch ∧ node.status = .online ∨ node.status.isOut = true)
  unpromoted : nodeId ∉ state.monitor.onlineBatch

namespace MonitorState

variable {config : FaultToleranceConfig} {db : Database} {now : Time} {event : Event}
  {nodeId : Uuid}

theorem staleBatch_markOfflineAll (batch : List Uuid) : (markOfflineAll batch).staleBatch = batch := by
  cases batch <;> rfl

/-- An answered statement takes at most its own node from the batch of stale nodes. -/
theorem mem_staleBatch_next {monitor : MonitorState} (waits : nodeId ∈ monitor.staleBatch)
    (answered : event.outcome = .done) :
    nodeId ∈ (monitor.next config db now event).staleBatch ∨
      ∃ rest, monitor = .markOffline nodeId rest := by
  cases monitor with
  | markOffline head rest =>
      rcases List.mem_cons.mp waits with rfl | later
      · exact .inr ⟨rest, rfl⟩
      · left
        have next_eq : (markOffline head rest).next config db now event = markOfflineAll rest := by
          rw [next, answered]
          rfl
        rw [next_eq, staleBatch_markOfflineAll]
        exact later
  | _ => cases waits

end MonitorState

section Fading

variable {config : FaultToleranceConfig} {nodeId : Uuid} {peerId : String} {state : Lifecycle}
  {step : LifecycleStep}

/-- Without a sign of life, only the monitor writes the row of a node, to take it out of service. -/
theorem rowAfter_of_silent (silent : SilentFor nodeId peerId step)
    (unpromoted : nodeId ∉ state.monitor.onlineBatch) {node : Node} (same : node.id = nodeId)
    (peer : node.peerId = peerId) :
    state.rowAfter node step = node ∨ (state.rowAfter node step).status.isOut = true := by
  subst same peer
  cases step with
  | createNode id registration =>
      left
      rw [Lifecycle.rowAfter, NodeOp.rowAfter]
      exact if_neg fun addressed => silent.2 (beq_iff_eq.mp addressed).symm
  | updateNodeHeartbeat addressed =>
      left
      rw [Lifecycle.rowAfter, NodeOp.rowAfter]
      exact if_neg fun names => silent (beq_iff_eq.mp names).symm
  | writeHeartbeat heartbeat =>
      left
      rw [Lifecycle.rowAfter]
      exact if_neg fun written => silent (HeartbeatAddress.selects_iff.mp written.2)
  | monitor event =>
      rw [Lifecycle.rowAfter]
      split
      · cases monitor : state.monitor with
        | markOffline addressed rest | markDraining addressed rest =>
            rw [MonitorState.rowAfter, NodeOp.rowAfter]
            split
            · exact .inr rfl
            · exact .inl rfl
        | markOnline addressed rest =>
            left
            rw [monitor] at unpromoted
            rw [MonitorState.rowAfter, NodeOp.rowAfter]
            refine if_neg fun names => unpromoted ?_
            obtain rfl : node.id = addressed := beq_iff_eq.mp names
            exact List.mem_cons_self
        | _ => exact .inl rfl
      · exact .inl rfl
  | _ => exact .inl rfl

/-- The statement of a monitor that has come to a stale node takes it out of service. -/
theorem isOut_of_markOffline {event : MonitorState.Event} {rest : List Uuid} {node : Node}
    (marks : state.monitor = .markOffline node.id rest) (answered : event.outcome = .done) :
    (state.rowAfter node (.monitor event)).status.isOut = true := by
  have written : state.rowAfter node (.monitor event) = state.monitor.rowAfter state.now node := by
    rw [Lifecycle.rowAfter, answered]
    rfl
  have addressed : (NodeOp.markNodeOffline node.id).addresses node = true :=
    beq_self_eq_true node.id
  rw [written, marks, MonitorState.rowAfter, NodeOp.rowAfter, if_pos addressed]
  rfl

theorem Fading.row_apply (fading : Fading nodeId peerId state)
    (silent : SilentFor nodeId peerId step) (answered : step.Answered) :
    ∀ row ∈ (state.apply config step).db.nodes, row.id = nodeId → row.peerId = peerId ∧
      (nodeId ∈ (state.apply config step).monitor.staleBatch ∧ row.status = .online ∨
        row.status.isOut = true) := by
  intro row member same
  rcases (Lifecycle.mem_apply_nodes fading.unique).mp member with ⟨node, known, -, rfl⟩ | added
  · rw [Lifecycle.rowAfter_id] at same
    obtain ⟨peer, status⟩ := fading.row node known same
    refine ⟨(Lifecycle.rowAfter_peerId node step).trans peer, ?_⟩
    rcases rowAfter_of_silent silent fading.unpromoted same peer with kept | out
    · rcases status with ⟨waits, online⟩ | out
      · by_cases others : ∀ event, step ≠ .monitor event
        · left
          refine ⟨?_, kept.symm ▸ online⟩
          have batch_eq : (state.apply config step).monitor = state.monitor := by
            cases step with
            | monitor event => exact absurd rfl (others event)
            | readHeartbeat address =>
                exact (Lifecycle.readHeartbeat_keeps config state address).2
            | writeHeartbeat heartbeat =>
                exact (Lifecycle.writeHeartbeat_keeps config state heartbeat).2
            | startCycle =>
                refine if_neg fun is_idle => ?_
                rw [is_idle] at waits
                cases waits
            | _ => rfl
          rw [batch_eq]
          exact waits
        · obtain ⟨event, is_monitor⟩ := not_forall.mp others
          obtain rfl := not_not.mp is_monitor
          rcases MonitorState.mem_staleBatch_next waits answered with later | ⟨rest, marks⟩
          · exact .inl ⟨later, kept.symm ▸ online⟩
          · right
            subst same
            exact isOut_of_markOffline marks answered
      · exact .inr (kept.symm ▸ out)
    · exact .inr out
  · obtain ⟨id, registration, rfl, new⟩ := Lifecycle.newRows_eq_register added
    rw [NodeOp.newRows] at new
    split at new
    · cases new
    · obtain rfl := List.mem_singleton.mp new
      exact absurd same silent.1

/-- A step does not select the node for promotion. -/
theorem Fading.unpromoted_apply (fading : Fading nodeId peerId state) :
    nodeId ∉ (state.apply config step).monitor.onlineBatch := by
  by_cases others : ∀ event, step ≠ .monitor event
  · have batch_eq : (state.apply config step).monitor.onlineBatch = state.monitor.onlineBatch :=
      @ObservedLifecycle.onlineBatch_apply config ⟨state, fun _ => .none⟩ step others
    rw [batch_eq]
    exact fading.unpromoted
  · obtain ⟨event, is_monitor⟩ := not_forall.mp others
    obtain rfl := not_not.mp is_monitor
    change nodeId ∉ (state.monitor.next config state.db state.now event).onlineBatch
    rcases MonitorState.onlineBatch_next config state.db state.now event state.monitor with
      empty | ⟨-, batch_eq⟩ | ⟨addressed, marks⟩
    · rw [empty]
      exact List.not_mem_nil
    · rw [batch_eq]
      intro found
      obtain ⟨node, known, same, recovered⟩ := MonitorState.exists_of_mem_query found
      rw [Node.isRecovered, Bool.and_eq_true, beq_iff_eq] at recovered
      rcases (fading.row node known same).2 with ⟨-, online⟩ | out
      · rw [recovered.1] at online
        cases online
      · rw [recovered.1] at out
        cases out
    · intro later
      have unpromoted := fading.unpromoted
      rw [marks] at unpromoted
      exact unpromoted (List.mem_cons_of_mem addressed later)

theorem Fading.apply (fading : Fading nodeId peerId state) (silent : SilentFor nodeId peerId step)
    (answered : step.Answered) : Fading nodeId peerId (state.apply config step) where
  unique := Lifecycle.uniqueNodes_apply fading.unique step
  row := fading.row_apply silent answered
  unpromoted := fading.unpromoted_apply

/-- The query for stale nodes finds a node that has been silent for too long. -/
theorem fading_of_findStale {event : MonitorState.Event} {node : Node}
    (unique : state.db.UniqueNodes) (known : node ∈ state.db.nodes)
    (looks : state.monitor = .findStale)
    (stale : node.isStale config.offlineThreshold state.now = true)
    (answered : event.outcome = .done) :
    Fading node.id node.peerId (state.apply config (.monitor event)) := by
  have next : (state.apply config (.monitor event)).monitor = MonitorState.markOfflineAll
      ((state.db.getStaleOnlineNodes event.nodeOrder config.offlineThreshold state.now).map
        Node.id) := by
    change state.monitor.next config state.db state.now event = _
    rw [looks, MonitorState.next, answered]
    rfl
  have db_eq : (state.apply config (.monitor event)).db = state.db := by
    change (if event.outcome.applied then state.monitor.write state.db state.now else state.db) = _
    rw [looks]
    exact ite_self _
  have online : node.status = .online := by
    rw [Node.isStale, Bool.and_eq_true, beq_iff_eq] at stale
    exact stale.1
  refine
    { unique := db_eq ▸ unique
      row := fun row member same => ?_
      unpromoted := ?_ }
  · rw [db_eq] at member
    obtain rfl := unique.eq_of_id member known same
    refine ⟨rfl, .inl ⟨?_, online⟩⟩
    rw [next, MonitorState.staleBatch_markOfflineAll]
    have found : row ∈ state.db.getStaleOnlineNodes event.nodeOrder config.offlineThreshold
        state.now := (event.nodeOrder.arrange_perm _).mem_iff.mpr
          (List.mem_filter.mpr ⟨known, stale⟩)
    exact List.mem_map.mpr ⟨row, found, rfl⟩
  · rw [next, MonitorState.onlineBatch_markOfflineAll]
    exact List.not_mem_nil

end Fading

/-- A check cycle looks for stale nodes when a node has been silent for longer than the threshold.
If its statements are answered, the node is not online whenever no stale node is left to be marked,
whatever else happens, until it registers again or one of its heartbeats is written. -/
theorem offline_when_silent {config : FaultToleranceConfig} {state : Lifecycle}
    {event : MonitorState.Event} {node : Node} {steps : List LifecycleStep}
    (unique : state.db.UniqueNodes) (known : node ∈ state.db.nodes)
    (looks : state.monitor = .findStale)
    (stale : node.isStale config.offlineThreshold state.now = true)
    (answered : event.outcome = .done)
    (silent : EveryStep (Lifecycle.apply config)
      (fun _ step => SilentFor node.id node.peerId step ∧ step.Answered)
      (state.apply config (.monitor event)) steps) :
    EveryState (Lifecycle.apply config)
      (fun reached => reached.monitor.staleBatch = [] →
        ∀ row ∈ reached.db.nodes, row.id = node.id → row.status.isOut = true)
      (state.apply config (.monitor event)) steps := by
  have fading := fading_of_findStale unique known looks stale answered
  have every := everyState_of_everyStep
    (fun _ _ inv met => Fading.apply inv met.1 met.2) fading silent
  refine every.mono fun reached inv none_left row member same => ?_
  rcases (inv.row row member same).2 with ⟨waits, -⟩ | out
  · rw [none_left] at waits
    cases waits
  · exact out

/-- The row of a node that has sent one heartbeat. -/
def silentRow : Node :=
  { Node.register 1 firstRegistration 0 with lastHeartbeat := some 0 }

/-- Such a node is offline five minutes later, and still when other nodes come and a later cycle
looks for nodes to promote. -/
theorem offline_when_silent_for_five_minutes :
    EveryState (Lifecycle.apply .default)
      (fun reached => reached.monitor.staleBatch = [] →
        ∀ row ∈ reached.db.nodes, row.id = silentRow.id → row.status.isOut = true)
      (Lifecycle.apply .default
        (runAll (Lifecycle.apply .default) firstHeard [.wait (301 * 1000000), .startCycle])
        (.monitor .answered))
      [.updateNodeHeartbeat 2, .monitor .answered, .readHeartbeat (.byPeerId "peer-1"),
        .monitor .answered, .monitor .answered, .wait (301 * 1000000), .monitor .answered] :=
  offline_when_silent ⟨by decide, by decide⟩ (by decide)
    (by decide) (by decide) rfl (by decide)

end CyxCloud.Gateway
