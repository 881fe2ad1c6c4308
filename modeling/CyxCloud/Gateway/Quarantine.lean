import CyxCloud.Gateway.Lifecycle

/-!
# Quarantine before readmission

A node that was out of service is meant to come back through the status recovering.  What the
statuses and heartbeats of a node say is followed beside its row: whether it has been out of service
since it was last online, since when it has been recovering, and when it sent its last heartbeat.
The monitor promotes by `status_changed_at`; registrations and plain heartbeats put a row online
whatever its status, and nothing looks at the age of the last heartbeat.
-/

namespace CyxCloud.Gateway

open CyxCloud.Core hiding Chunk
open Library Metadata

/-! ## What is known about a node -/

/-- The history of a node as far as its readmission goes. -/
structure Track where
  /-- Out of service since it was last online. -/
  down : Bool
  /-- Recovering without interruption since then. -/
  recoveringSince : Option Time
  /-- The last heartbeat that the node sent. -/
  lastBeat : Option Time
  deriving DecidableEq

/-- Nothing is known. -/
def Track.none : Track :=
  { down := false
    recoveringSince := .none
    lastBeat := .none }

/-- A step writes the heartbeat of a node. -/
def Lifecycle.beats (state : Lifecycle) (node : Node) : LifecycleStep → Bool
  | .updateNodeHeartbeat nodeId => node.id == nodeId
  | .writeHeartbeat heartbeat =>
      decide (heartbeat ∈ state.heartbeats) && heartbeat.address.selects node
  | _ => false

/-- The history once the row after a step is seen. -/
def Track.observe (track : Track) (now : Time) (beats : Bool) (row : Node) : Track :=
  { down :=
      match row.status with
      | .online => false
      | .offline | .draining => true
      | .recovering | .maintenance => track.down
    recoveringSince :=
      if row.status = .recovering then track.recoveringSince.or (some now) else .none
    lastBeat := if beats then some now else track.lastBeat }

/-- A statement of the monitor does not promote a node whose last heartbeat is too old. -/
def MonitorState.PromotesRecent (config : FaultToleranceConfig) (now : Time) (node : Node) :
    MonitorState → Prop
  | .markOnline nodeId _ => node.id = nodeId →
      ∃ beat ∈ node.lastHeartbeat, atMost config.offlineThreshold now beat
  | _ => True

instance (config : FaultToleranceConfig) (now : Time) (node : Node) :
    DecidablePred (MonitorState.PromotesRecent config now node)
  | .markOnline _ _ => inferInstanceAs (Decidable (_ → _))
  | .idle | .findStale | .markOffline _ _ | .findDraining | .markDraining _ _ | .findChunks _ _
  | .findTargets _ _ _ | .createJob _ _ _ | .findRemoval | .deleteNode _ _ | .findRecovered =>
      inferInstanceAs (Decidable True)

/-- The lifecycle, with the history of each node. -/
structure ObservedLifecycle extends Lifecycle where
  tracks : Uuid → Track

namespace ObservedLifecycle

/-- Tables without nodes, and nothing under way. -/
def start (db : Database) (now : Time) : ObservedLifecycle :=
  { Lifecycle.start db now with tracks := fun _ => .none }

/-- One step. -/
def apply (config : FaultToleranceConfig) (state : ObservedLifecycle) (step : LifecycleStep) :
    ObservedLifecycle :=
  let reached := state.toLifecycle.apply config step
  { reached with
    tracks := fun nodeId =>
      match reached.db.getNode nodeId with
      | some row =>
          (state.tracks nodeId).observe state.now (state.toLifecycle.beats row step) row
      | .none => .none }

/-- A node may come back: it has been recovering for the quarantine, and its last heartbeat is
recent. -/
def MayReturn (config : FaultToleranceConfig) (now : Time) (track : Track) : Prop :=
  (∃ since ∈ track.recoveringSince, atLeast config.recoveryQuarantine now since) ∧
    ∃ beat ∈ track.lastBeat, atMost config.offlineThreshold now beat

/-- A step puts a node that was out of service online only if the node may come back. -/
def ReadmitsRightly (config : FaultToleranceConfig) (state : ObservedLifecycle)
    (step : LifecycleStep) : Prop :=
  ∀ node ∈ state.db.nodes, ∀ row ∈ (state.apply config step).db.nodes, row.id = node.id →
    node.status ≠ .online → row.status = .online → (state.tracks node.id).down = true →
      MayReturn config state.now (state.tracks node.id)

/-- Registrations and plain heartbeats only reach rows that are online, and the monitor promotes
only nodes whose last heartbeat is recent. -/
def KeepsQuarantine (config : FaultToleranceConfig) (state : ObservedLifecycle) :
    LifecycleStep → Prop
  | .createNode _ registration => ∀ node ∈ state.db.nodes, node.peerId = registration.peerId →
      node.status = .online
  | .updateNodeHeartbeat nodeId => ∀ node ∈ state.db.nodes, node.id = nodeId →
      node.status = .online
  | .monitor event => event.outcome.applied = true → ∀ node ∈ state.db.nodes,
      state.monitor.PromotesRecent config state.now node
  | .wait _ | .readHeartbeat _ | .writeHeartbeat _ | .startCycle | .storage _ => True

instance (config : FaultToleranceConfig) (now : Time) (track : Track) :
    Decidable (MayReturn config now track) :=
  inferInstanceAs (Decidable (_ ∧ _))

instance (config : FaultToleranceConfig) (state : ObservedLifecycle) (step : LifecycleStep) :
    Decidable (state.ReadmitsRightly config step) :=
  inferInstanceAs (Decidable (∀ node ∈ state.db.nodes,
    ∀ row ∈ (state.apply config step).db.nodes, _))

instance (config : FaultToleranceConfig) (state : ObservedLifecycle) :
    DecidablePred (state.KeepsQuarantine config)
  | .monitor _ => inferInstanceAs (Decidable (_ → ∀ node ∈ state.db.nodes, _))
  | .createNode _ _ | .updateNodeHeartbeat _ =>
      inferInstanceAs (Decidable (∀ node ∈ state.db.nodes, _))
  | .wait _ | .readHeartbeat _ | .writeHeartbeat _ | .startCycle | .storage _ =>
      inferInstanceAs (Decidable True)

end ObservedLifecycle

/-! ## One row -/

/-- Nodes selected as recovered and not promoted yet. -/
def MonitorState.onlineBatch : MonitorState → List Uuid
  | .markOnline nodeId rest => nodeId :: rest
  | _ => []

/-- What a step that keeps the quarantine can do to a row. -/
inductive RowChange (state : Lifecycle) (step : LifecycleStep) (node row : Node) : Prop where
  /-- The status stays, and so does the last heartbeat unless one is written or the node is
  online. -/
  | stays (status_eq : row.status = node.status)
      (changed_eq : row.statusChangedAt = node.statusChangedAt)
      (beat_eq : node.status = .online ∨
        row.lastHeartbeat = if state.beats node step then some state.now else node.lastHeartbeat)
  /-- A heartbeat puts the node into quarantine. -/
  | enters (status_eq : row.status = .recovering)
      (changed_eq : row.statusChangedAt = some state.now)
      (beat_eq : row.lastHeartbeat = some state.now) (beats : state.beats node step = true)
  /-- The monitor takes the node out of service. -/
  | leaves (status_ne : row.status ≠ .recovering) (status_ne' : row.status ≠ .online)
      (batch_eq : state.monitor.onlineBatch = [])
  /-- The monitor promotes the node. -/
  | returns (event : MonitorState.Event) (step_eq : step = .monitor event)
      (applied : event.outcome.applied = true) (rest : List Uuid)
      (monitor_eq : state.monitor = .markOnline node.id rest) (status_eq : row.status = .online)

theorem RowChange.same (state : Lifecycle) {step : LifecycleStep} (node : Node)
    (quiet : state.beats node step = false) : RowChange state step node node :=
  .stays rfl rfl (.inr (by rw [quiet]; rfl))

theorem monitor_rowChange (state : Lifecycle) (node : Node) {event : MonitorState.Event}
    (applied : event.outcome.applied = true) :
    RowChange state (.monitor event) node (state.monitor.rowAfter state.now node) := by
  cases monitor : state.monitor with
  | markOffline nodeId rest | markDraining nodeId rest =>
      rw [MonitorState.rowAfter, NodeOp.rowAfter]
      split
      · refine .leaves (fun recovering => ?_) (fun online => ?_) (by rw [monitor]; rfl)
        · cases recovering
        · cases online
      · exact .same state node rfl
  | markOnline nodeId rest =>
      rw [MonitorState.rowAfter, NodeOp.rowAfter]
      split
      · rename_i addressed
        obtain rfl : node.id = nodeId := beq_iff_eq.mp addressed
        exact .returns event rfl applied rest monitor rfl
      · exact .same state node rfl
  | _ => exact .same state node rfl

theorem rowChange {config : FaultToleranceConfig} {state : ObservedLifecycle}
    {step : LifecycleStep} (keeps : state.KeepsQuarantine config step) {node : Node}
    (known : node ∈ state.db.nodes) :
    RowChange state.toLifecycle step node (state.toLifecycle.rowAfter node step) := by
  cases step with
  | createNode id registration =>
      rw [Lifecycle.rowAfter, NodeOp.rowAfter]
      split
      · rename_i addressed
        have online := keeps node known (beq_iff_eq.mp addressed)
        exact .stays online.symm rfl (.inl online)
      · exact .same _ node rfl
  | updateNodeHeartbeat nodeId =>
      rw [Lifecycle.rowAfter, NodeOp.rowAfter]
      split
      · rename_i addressed
        have online := keeps node known (beq_iff_eq.mp addressed)
        exact .stays online.symm rfl (.inl online)
      · rename_i other
        exact .same _ node (Bool.eq_false_iff.mpr other)
  | writeHeartbeat heartbeat =>
      rw [Lifecycle.rowAfter]
      split
      · rename_i both
        have beats : state.toLifecycle.beats node (.writeHeartbeat heartbeat) = true := by
          simp [Lifecycle.beats, both]
        cases read : heartbeat.status with
        | online | recovering | maintenance => exact .stays rfl rfl (.inr (by rw [beats]; rfl))
        | offline | draining => exact .enters rfl rfl rfl beats
      · rename_i other
        refine .same _ node ?_
        simpa [Lifecycle.beats] using other
  | monitor event =>
      rw [Lifecycle.rowAfter]
      split
      · rename_i applied
        exact monitor_rowChange state.toLifecycle node applied
      · exact .same _ node rfl
  | _ => exact .same _ node rfl

/-- The history of a node fits its row. -/
structure Track.Fits (track : Track) (now : Time) (row : Node) : Prop where
  recovering : row.status = .recovering → ∃ since changed, track.recoveringSince = some since ∧
    row.statusChangedAt = some changed ∧ since ≤ changed ∧ changed ≤ now ∧
      row.lastHeartbeat = track.lastBeat
  others : row.status ≠ .recovering → track.recoveringSince = .none

theorem Track.Fits.later {track : Track} {now after : Time} {row : Node}
    (fits : track.Fits now row) (passed : now ≤ after) : track.Fits after row :=
  { fits with
    recovering := fun recovering => by
      obtain ⟨since, changed, since_eq, changed_eq, before, past, beat_eq⟩ :=
        fits.recovering recovering
      exact ⟨since, changed, since_eq, changed_eq, before, past.trans passed, beat_eq⟩ }

theorem Track.observe_recoveringSince_of_ne {track : Track} {now : Time} {beats : Bool} {row : Node}
    (others : row.status ≠ .recovering) : (track.observe now beats row).recoveringSince = .none :=
  if_neg others

theorem Track.observe_recoveringSince {track : Track} {now : Time} {beats : Bool} {row : Node}
    (recovering : row.status = .recovering) :
    (track.observe now beats row).recoveringSince = track.recoveringSince.or (some now) :=
  if_pos recovering

/-- The history fits the row after a step, and a node that is recovering keeps its start. -/
theorem Track.Fits.observe {state : Lifecycle} {step : LifecycleStep} {track : Track}
    {node row : Node} (fits : track.Fits state.now node) (change : RowChange state step node row) :
    (track.observe state.now (state.beats node step) row).Fits state.now row := by
  constructor
  · intro recovering
    rw [observe_recoveringSince recovering]
    cases change with
    | stays status_eq changed_eq beat_eq =>
        rw [recovering] at status_eq
        obtain ⟨since, changed, since_eq, changed_eq', before, past, beat_eq'⟩ :=
          fits.recovering status_eq.symm
        refine ⟨since, changed, ?_, changed_eq.trans changed_eq', before, past, ?_⟩
        · rw [since_eq]
          rfl
        · rcases beat_eq with online | beat_eq
          · rw [← status_eq] at online
            cases online
          · rw [beat_eq, beat_eq']
            rfl
    | enters status_eq changed_eq beat_eq beats =>
        have written : row.lastHeartbeat =
            (track.observe state.now (state.beats node step) row).lastBeat := by
          rw [beat_eq, beats]
          rfl
        by_cases already : node.status = .recovering
        · obtain ⟨since, changed, since_eq, -, before, past, -⟩ := fits.recovering already
          refine ⟨since, state.now, ?_, changed_eq, before.trans past, le_rfl, written⟩
          rw [since_eq]
          rfl
        · refine ⟨state.now, state.now, ?_, changed_eq, le_rfl, le_rfl, written⟩
          rw [fits.others already]
          rfl
    | leaves status_ne _ _ => exact absurd recovering status_ne
    | returns event step_eq applied rest monitor_eq status_eq =>
        rw [status_eq] at recovering
        cases recovering
  · exact observe_recoveringSince_of_ne

/-! ## Runs -/

namespace MonitorState

theorem onlineBatch_resume_eq_nil {outcome : Outcome} {success failure : MonitorState}
    (succeeded : success.onlineBatch = []) (failed : failure.onlineBatch = []) :
    (resume outcome success failure).onlineBatch = [] := by
  cases outcome with
  | done => exact succeeded
  | lost | failed => exact failed
  | crashed | crashedAfter => rfl

theorem onlineBatch_markOfflineAll (batch : List Uuid) : (markOfflineAll batch).onlineBatch = [] := by
  cases batch <;> rfl

theorem onlineBatch_markDrainingAll (batch : List Uuid) :
    (markDrainingAll batch).onlineBatch = [] := by
  cases batch <;> rfl

theorem onlineBatch_createAll (batch : List Uuid) (jobs : List RepairJob) :
    (createAll batch jobs).onlineBatch = [] := by
  cases jobs with
  | nil => exact onlineBatch_markDrainingAll batch
  | cons job jobs => rfl

theorem onlineBatch_deleteAll (batch : List Uuid) : (deleteAll batch).onlineBatch = [] := by
  cases batch <;> rfl

@[simp]
theorem onlineBatch_markOnlineAll (batch : List Uuid) : (markOnlineAll batch).onlineBatch = batch := by
  cases batch <;> rfl

/-- The nodes to promote come from the query, and leave the batch one by one. -/
theorem onlineBatch_next (config : FaultToleranceConfig) (db : Database) (now : Time)
    (event : Event) (monitor : MonitorState) :
    (monitor.next config db now event).onlineBatch = [] ∨
      (monitor = .findRecovered ∧ (monitor.next config db now event).onlineBatch =
        (db.getRecoveredNodes event.nodeOrder config.recoveryQuarantine now).map Node.id) ∨
      ∃ nodeId, monitor = .markOnline nodeId (monitor.next config db now event).onlineBatch := by
  cases monitor with
  | idle => exact .inl rfl
  | findStale =>
      exact .inl (onlineBatch_resume_eq_nil (onlineBatch_markOfflineAll _) rfl)
  | markOffline nodeId rest =>
      exact .inl (onlineBatch_resume_eq_nil (onlineBatch_markOfflineAll _)
        (onlineBatch_markOfflineAll _))
  | findDraining =>
      exact .inl (onlineBatch_resume_eq_nil (onlineBatch_markDrainingAll _) rfl)
  | markDraining nodeId rest =>
      exact .inl (onlineBatch_resume_eq_nil rfl (onlineBatch_markDrainingAll _))
  | findChunks nodeId rest =>
      refine .inl (onlineBatch_resume_eq_nil ?_ (onlineBatch_markDrainingAll _))
      split
      · exact onlineBatch_markDrainingAll _
      · rfl
  | findTargets nodeId chunks rest =>
      exact .inl (onlineBatch_resume_eq_nil (onlineBatch_createAll _ _)
        (onlineBatch_markDrainingAll _))
  | createJob job jobs rest =>
      exact .inl (onlineBatch_resume_eq_nil (onlineBatch_createAll _ _)
        (onlineBatch_createAll _ _))
  | findRemoval =>
      exact .inl (onlineBatch_resume_eq_nil (onlineBatch_deleteAll _) rfl)
  | deleteNode nodeId rest =>
      exact .inl (onlineBatch_resume_eq_nil (onlineBatch_deleteAll _) (onlineBatch_deleteAll _))
  | findRecovered =>
      cases answer : event.outcome with
      | done =>
          refine .inr (.inl ⟨rfl, ?_⟩)
          rw [next, answer]
          exact onlineBatch_markOnlineAll _
      | _ =>
          left
          rw [next, answer]
          rfl
  | markOnline nodeId rest =>
      cases answer : event.outcome with
      | done | lost | failed =>
          refine .inr (.inr ⟨nodeId, ?_⟩)
          rw [next, answer]
          exact congrArg _ (onlineBatch_markOnlineAll rest).symm
      | crashed | crashedAfter =>
          left
          rw [next, answer]
          rfl

end MonitorState

namespace ObservedLifecycle

variable {config : FaultToleranceConfig} {state : ObservedLifecycle} {step : LifecycleStep}

/-- The node has been recovering for longer than the quarantine. -/
def servedQuarantine (config : FaultToleranceConfig) (state : ObservedLifecycle) (node : Node) :
    Bool :=
  node.status == .recovering &&
    (state.tracks node.id).recoveringSince.any (olderThan config.recoveryQuarantine state.now)

/-- Histories fit their rows, and the nodes to promote have served their quarantine. -/
structure Quarantined (config : FaultToleranceConfig) (state : ObservedLifecycle) : Prop where
  unique : state.db.UniqueNodes
  fits : ∀ node ∈ state.db.nodes, (state.tracks node.id).Fits state.now node
  promoted : BatchOf state.db state.monitor.onlineBatch (state.servedQuarantine config)

theorem beats_congr (state : Lifecycle) {node row : Node} (id_eq : row.id = node.id)
    (peerId_eq : row.peerId = node.peerId) (step : LifecycleStep) :
    state.beats row step = state.beats node step := by
  cases step with
  | updateNodeHeartbeat nodeId => rw [Lifecycle.beats, Lifecycle.beats, id_eq]
  | writeHeartbeat heartbeat =>
      rw [Lifecycle.beats, Lifecycle.beats]
      cases heartbeat.address with
      | byId nodeId => rw [HeartbeatAddress.selects, HeartbeatAddress.selects, id_eq]
      | byPeerId peerId => rw [HeartbeatAddress.selects, HeartbeatAddress.selects, peerId_eq]
  | _ => rfl

theorem Quarantined.tracks_apply (quarantined : state.Quarantined config) {row : Node}
    (member : row ∈ (state.apply config step).db.nodes) :
    (state.apply config step).tracks row.id =
      (state.tracks row.id).observe state.now (state.toLifecycle.beats row step) row := by
  have unique : (state.toLifecycle.apply config step).db.UniqueNodes :=
    Lifecycle.uniqueNodes_apply quarantined.unique step
  change (match (state.toLifecycle.apply config step).db.getNode row.id with
    | some found =>
        (state.tracks row.id).observe state.now (state.toLifecycle.beats found step) found
    | .none => Track.none) = _
  rw [unique.getNode_eq member]

theorem Quarantined.fits_apply (quarantined : state.Quarantined config)
    (keeps : state.KeepsQuarantine config step) {row : Node}
    (member : row ∈ (state.apply config step).db.nodes) :
    ((state.apply config step).tracks row.id).Fits (state.apply config step).now row := by
  rw [quarantined.tracks_apply member]
  have passed : state.now ≤ (state.apply config step).now := Lifecycle.now_le_apply step
  refine Track.Fits.later ?_ passed
  rcases (Lifecycle.mem_apply_nodes quarantined.unique).mp member with ⟨node, known, -, rfl⟩ | added
  · rw [beats_congr _ (Lifecycle.rowAfter_id node step) (Lifecycle.rowAfter_peerId node step),
      Lifecycle.rowAfter_id]
    exact (quarantined.fits node known).observe (rowChange keeps known)
  · obtain ⟨id, registration, -, new⟩ := Lifecycle.newRows_eq_register added
    obtain ⟨-, -, created, row_eq⟩ := NodeOp.newRows_eq_register new
    have online : row.status = .online := by
      rw [row_eq]
      rfl
    refine
      { recovering := fun recovering => ?_
        others := Track.observe_recoveringSince_of_ne }
    rw [online] at recovering
    cases recovering

/-- A row of the batch of nodes to promote that stays in the batch. -/
theorem Quarantined.servedQuarantine_apply (quarantined : state.Quarantined config)
    (keeps : state.KeepsQuarantine config step) {node : Node} (known : node ∈ state.db.nodes)
    (member : state.toLifecycle.rowAfter node step ∈ (state.apply config step).db.nodes)
    (served : state.servedQuarantine config node = true)
    (waits : node.id ∈ state.monitor.onlineBatch)
    (stays : ∀ event rest, step = .monitor event → state.monitor ≠ .markOnline node.id rest) :
    (state.apply config step).servedQuarantine config
      (state.toLifecycle.rowAfter node step) = true := by
  rw [servedQuarantine, Bool.and_eq_true, beq_iff_eq] at served
  have recovering : (state.toLifecycle.rowAfter node step).status = .recovering := by
    cases rowChange keeps known with
    | stays status_eq _ _ => exact status_eq.trans served.1
    | enters status_eq _ _ _ => exact status_eq
    | leaves _ _ batch_eq =>
        rw [batch_eq] at waits
        cases waits
    | returns event step_eq applied rest monitor_eq _ =>
        exact absurd monitor_eq (stays event rest step_eq)
  have passed : state.now ≤ (state.apply config step).now := Lifecycle.now_le_apply step
  rw [servedQuarantine, Bool.and_eq_true, beq_iff_eq]
  refine ⟨recovering, ?_⟩
  rw [quarantined.tracks_apply member, Track.observe_recoveringSince recovering,
    Lifecycle.rowAfter_id]
  obtain ⟨since, since_eq, older⟩ := (Option.any_eq_true _ _).mp served.2
  rw [since_eq, Option.some_or, Option.any_some]
  exact olderThan_mono passed older

/-- What is left of the batch of nodes to promote. -/
theorem Quarantined.promoted_rest (quarantined : state.Quarantined config)
    (keeps : state.KeepsQuarantine config step) {rest : List Uuid}
    (sublist : rest.Sublist state.monitor.onlineBatch)
    (stays : ∀ nodeId ∈ rest, ∀ event later, step = .monitor event →
      state.monitor ≠ .markOnline nodeId later) :
    BatchOf (state.apply config step).db rest
      ((state.apply config step).servedQuarantine config) := by
  have kept : ∀ node ∈ state.db.nodes, node.id ∈ rest →
      state.toLifecycle.rowAfter node step ∈ (state.apply config step).db.nodes := by
    intro node known member
    refine (Lifecycle.mem_apply_nodes quarantined.unique).mpr (.inl ⟨node, known, ?_, rfl⟩)
    cases step with
    | monitor event =>
        have waits := sublist.subset member
        rw [Lifecycle.keepsRow]
        cases monitor : state.monitor with
        | deleteNode nodeId later =>
            rw [monitor] at waits
            cases waits
        | _ => exact Bool.or_true _
    | _ => rfl
  refine quarantined.promoted.move sublist
    (fun node known member => ⟨_, kept node known member, Lifecycle.rowAfter_id node step⟩) ?_
  intro row member waits
  rcases (Lifecycle.mem_apply_nodes quarantined.unique).mp member with ⟨node, known, -, rfl⟩ | added
  · rw [Lifecycle.rowAfter_id] at waits
    refine ⟨node, known, (Lifecycle.rowAfter_id node step).symm, fun served => ?_⟩
    exact quarantined.servedQuarantine_apply keeps known member served (sublist.subset waits)
      (stays node.id waits)
  · obtain ⟨id, registration, -, new⟩ := Lifecycle.newRows_eq_register added
    obtain ⟨-, free, -⟩ := NodeOp.newRows_eq_register new
    obtain ⟨node, known, same⟩ := quarantined.promoted.known _ (sublist.subset waits)
    exact absurd (beq_iff_eq.mpr same) (List.any_eq_false.mp free node known)

/-- A step of another client leaves the batch alone. -/
theorem onlineBatch_apply (others : ∀ event, step ≠ .monitor event) :
    (state.apply config step).monitor.onlineBatch = state.monitor.onlineBatch := by
  cases step with
  | monitor event => exact absurd rfl (others event)
  | readHeartbeat address =>
      exact congrArg _ (Lifecycle.readHeartbeat_keeps config state.toLifecycle address).2
  | writeHeartbeat heartbeat =>
      exact congrArg _ (Lifecycle.writeHeartbeat_keeps config state.toLifecycle heartbeat).2
  | startCycle =>
      by_cases is_idle : state.monitor = .idle
      · have started : (state.apply config .startCycle).monitor = .findStale := if_pos is_idle
        rw [started, is_idle]
        rfl
      · exact congrArg _ (if_neg is_idle)
  | _ => rfl

/-- The nodes that the monitor has just selected have served their quarantine. -/
theorem Quarantined.promoted_query (quarantined : state.Quarantined config)
    (event : MonitorState.Event) (finds : state.monitor = .findRecovered) :
    BatchOf (state.apply config (.monitor event)).db
      ((state.db.getRecoveredNodes event.nodeOrder config.recoveryQuarantine state.now).map Node.id)
      ((state.apply config (.monitor event)).servedQuarantine config) := by
  have keeps : state.KeepsQuarantine config (.monitor event) := by
    intro applied node known
    rw [finds]
    trivial
  have db_eq : (state.apply config (.monitor event)).db = state.db := by
    change (if event.outcome.applied then state.monitor.write state.db state.now else state.db) = _
    rw [finds]
    exact ite_self _
  rw [db_eq]
  refine (BatchOf.query quarantined.unique event.nodeOrder _).mono fun node known recovered => ?_
  have fits := quarantined.fits_apply keeps (db_eq ▸ known)
  rw [Node.isRecovered, Bool.and_eq_true, beq_iff_eq] at recovered
  obtain ⟨since, changed, since_eq, changed_eq, before, -, -⟩ := fits.recovering recovered.1
  rw [servedQuarantine, Bool.and_eq_true, beq_iff_eq, since_eq]
  refine ⟨recovered.1, ?_⟩
  have older := recovered.2
  rw [changed_eq, Option.any_some, olderThan, decide_eq_true_eq] at older
  rw [Option.any_some, olderThan, decide_eq_true_eq]
  exact lt_of_le_of_lt (Nat.add_le_add_right before _) older

theorem Quarantined.promoted_apply (quarantined : state.Quarantined config)
    (keeps : state.KeepsQuarantine config step) :
    BatchOf (state.apply config step).db (state.apply config step).monitor.onlineBatch
      ((state.apply config step).servedQuarantine config) := by
  by_cases others : ∀ event, step ≠ .monitor event
  · rw [onlineBatch_apply others]
    exact quarantined.promoted_rest keeps (.refl _)
      fun _ _ event _ is_monitor => absurd is_monitor (others event)
  · obtain ⟨event, is_monitor⟩ := not_forall.mp others
    obtain rfl := not_not.mp is_monitor
    rcases MonitorState.onlineBatch_next config state.db state.now event state.monitor with
      empty | ⟨finds, batch_eq⟩ | ⟨nodeId, marks⟩
    · have empty' : (state.apply config (.monitor event)).monitor.onlineBatch = [] := empty
      rw [empty']
      exact .nil _ _
    · have batch_eq' : (state.apply config (.monitor event)).monitor.onlineBatch = _ := batch_eq
      rw [batch_eq']
      exact quarantined.promoted_query event finds
    · have batch := quarantined.promoted
      have sublist : (state.apply config (.monitor event)).monitor.onlineBatch.Sublist
          state.monitor.onlineBatch := by
        rw [marks]
        exact List.sublist_cons_self nodeId _
      refine quarantined.promoted_rest keeps sublist fun other waits _ later _ marks_other => ?_
      -- the node just promoted is not in the rest of its batch
      rw [marks] at batch
      obtain ⟨rfl, -⟩ : nodeId = other ∧ _ := MonitorState.markOnline.inj (marks.symm.trans marks_other)
      exact (List.nodup_cons.mp batch.nodup).1 waits

theorem Quarantined.apply (quarantined : state.Quarantined config)
    (keeps : state.KeepsQuarantine config step) :
    (state.apply config step).Quarantined config :=
  { unique := Lifecycle.uniqueNodes_apply quarantined.unique step
    fits := fun _ member => quarantined.fits_apply keeps member
    promoted := quarantined.promoted_apply keeps }

theorem Quarantined.readmitsRightly (quarantined : state.Quarantined config)
    (keeps : state.KeepsQuarantine config step) : state.ReadmitsRightly config step := by
  intro node known row member same not_online online _
  have row_eq : row = state.toLifecycle.rowAfter node step := by
    rcases (Lifecycle.mem_apply_nodes quarantined.unique).mp member with
      ⟨other, other_known, -, rfl⟩ | added
    · rw [Lifecycle.rowAfter_id] at same
      rw [quarantined.unique.eq_of_id other_known known same]
    · obtain ⟨id, registration, -, new⟩ := Lifecycle.newRows_eq_register added
      obtain ⟨-, free, -⟩ := NodeOp.newRows_eq_register new
      exact absurd (beq_iff_eq.mpr same.symm) (List.any_eq_false.mp free node known)
  have change := rowChange keeps known
  rw [← row_eq] at change
  cases change with
  | stays status_eq _ _ => exact absurd (status_eq.symm.trans online) not_online
  | enters status_eq _ _ _ =>
      rw [online] at status_eq
      cases status_eq
  | leaves _ status_ne _ => exact absurd online status_ne
  | returns event step_eq applied rest monitor_eq _ =>
      subst step_eq
      have served := quarantined.promoted.selected node known (by
        rw [monitor_eq]
        exact List.mem_cons_self)
      rw [servedQuarantine, Bool.and_eq_true, beq_iff_eq] at served
      obtain ⟨since, since_eq, older⟩ := (Option.any_eq_true _ _).mp served.2
      obtain ⟨_, _, _, _, _, _, beat_eq⟩ := (quarantined.fits node known).recovering served.1
      refine ⟨⟨since, since_eq, ?_⟩, ?_⟩
      · rw [olderThan, decide_eq_true_eq] at older
        rw [atLeast]
        exact older.le
      · have recent := keeps applied node known
        rw [monitor_eq] at recent
        rw [← beat_eq]
        exact recent rfl

end ObservedLifecycle

/-- From tables without nodes, in every run whose steps keep the quarantine, a node that was out of
service comes back only after the quarantine and with a recent heartbeat. -/
theorem readmission_after_quarantine (config : FaultToleranceConfig) (db : Database) (now : Time)
    (empty : db.nodes = []) (steps : List LifecycleStep)
    (keeps : EveryStep (ObservedLifecycle.apply config) (ObservedLifecycle.KeepsQuarantine config)
      (.start db now) steps) :
    EveryStep (ObservedLifecycle.apply config) (ObservedLifecycle.ReadmitsRightly config)
      (.start db now) steps := by
  have quarantined : (ObservedLifecycle.start db now).Quarantined config :=
    { unique :=
        { ids := by simp [ObservedLifecycle.start, Lifecycle.start, empty]
          peerIds := by simp [ObservedLifecycle.start, Lifecycle.start, empty] }
      fits := by simp [ObservedLifecycle.start, Lifecycle.start, empty]
      promoted := .nil _ _ }
  exact everyStep_of_everyStep (fun _ _ inv met => inv.apply met)
    (fun _ _ inv met => inv.readmitsRightly met) quarantined keeps

/-- A node registers, is set offline, and reports back. -/
def reportsBack : List LifecycleStep :=
  [.createNode 1 firstRegistration, .wait (301 * 1000000), .startCycle, .monitor .answered,
    .monitor .answered, .readHeartbeat (.byPeerId "peer-1"),
    .writeHeartbeat ⟨.byPeerId "peer-1", .offline⟩]

/-- The statements of a cycle that finds nothing stale, to drain or to remove. -/
def quietSteps : List LifecycleStep := List.replicate 3 (.monitor .answered)

/-- A node that reports back and goes on sending heartbeats is rightly promoted. -/
theorem readmission_after_heartbeats :
    EveryStep (ObservedLifecycle.apply .default) (ObservedLifecycle.ReadmitsRightly .default)
      (.start .empty 0)
      (reportsBack ++
        [.wait (301 * 1000000), .readHeartbeat (.byPeerId "peer-1"),
          .writeHeartbeat ⟨.byPeerId "peer-1", .recovering⟩] ++
        quietSteps ++ [.monitor .answered, .monitor .answered]) :=
  readmission_after_quarantine .default .empty 0 rfl _ (by decide)

/-- A node that is offline and registers again is online at once. -/
theorem readmission_by_registration :
    ¬ ∀ (config : FaultToleranceConfig) (db : Database) (now : Time), db.nodes = [] →
      ∀ steps : List LifecycleStep, EveryStep (ObservedLifecycle.apply config)
        (ObservedLifecycle.ReadmitsRightly config) (.start db now) steps := by
  intro rightly
  have run := rightly .default .empty 0 rfl
    [.createNode 1 firstRegistration, .wait (301 * 1000000), .startCycle, .monitor .answered,
      .monitor .answered, .createNode 2 firstRegistration]
  exact absurd run (by decide)

end CyxCloud.Gateway
