import CyxCloud.Gateway.LiveNodes

/-!
# The heartbeat service

`HeartbeatService::run` of `cyxcloud-node/src/health.rs` beside the gateway: a registration, then a
heartbeat with every tick of an interval, and a registration again after each one that fails.  The
interval catches up: the next tick is due one interval after the last one was due.  Capacities,
metrics and commands are left out; a request without credentials is one that fails.
-/

namespace CyxCloud.Node

open CyxCloud.Core hiding Chunk
open Library Metadata Gateway

/-! ## The loop -/

/-- What the service is configured with. -/
structure HeartbeatConfig where
  /-- The name of the node, its peer identifier at the gateway. -/
  nodeId : String
  /-- The duration of `heartbeat_interval_secs`, from one tick to the next. -/
  interval : Nat

/-- How far the gateway has come with a heartbeat. -/
inductive HeartbeatStage where
  | sent
  | read (heartbeat : Heartbeat)
  | written

/-- What the loop waits for, and since when. -/
inductive HeartbeatPhase where
  | ticking (since : Time)
  | beating (since : Time) (stage : HeartbeatStage)
  | registering (since : Time)

/-- A heartbeat is under way. -/
def HeartbeatPhase.isBeating : HeartbeatPhase → Bool
  | .beating _ _ => true
  | .ticking _ | .registering _ => false

/-- The gateway and the service: when the next tick is due, what the loop waits for, and how many
heartbeats in a row have failed. -/
structure HeartbeatService where
  lifecycle : Lifecycle
  due : Time
  phase : HeartbeatPhase
  failed : Nat

/-- What happens next: something at the gateway, time included, a tick, a statement of a handler,
the answer to a request, or its failure. -/
inductive HeartbeatStep where
  | gateway (step : LifecycleStep)
  | tick
  | serveHeartbeat
  | serveRegistration (id : Uuid) (node : CreateNode)
  | answer
  | fail

namespace HeartbeatService

/-- The service has just been started and registers; its first tick is due at once. -/
def start (lifecycle : Lifecycle) : HeartbeatService where
  lifecycle
  due := lifecycle.now
  phase := .registering lifecycle.now
  failed := 0

variable (faults : FaultToleranceConfig) (config : HeartbeatConfig) (service : HeartbeatService)

/-- A step of the gateway. -/
def onGateway (step : LifecycleStep) : HeartbeatService :=
  { service with lifecycle := service.lifecycle.apply faults step }

/-- A tick that is due starts a heartbeat. -/
def tick : HeartbeatService :=
  match service.phase with
  | .ticking _ =>
      if service.due ≤ service.lifecycle.now then
        { service with
          due := service.due + config.interval
          phase := .beating service.lifecycle.now .sent }
      else
        service
  | .beating _ _ | .registering _ => service

/-- The handler of a heartbeat runs its next statement.  For a node without a row there is none: the
heartbeat is not acknowledged. -/
def serveHeartbeat : HeartbeatService :=
  let address := HeartbeatAddress.byPeerId config.nodeId
  match service.phase with
  | .beating since .sent =>
      match service.lifecycle.db.nodes.find? fun node => address.selects node with
      | none => service
      | some node =>
          { service.onGateway faults (.readHeartbeat address) with
            phase := .beating since (.read { address, status := node.status }) }
  | .beating since (.read heartbeat) =>
      { service.onGateway faults (.writeHeartbeat heartbeat) with phase := .beating since .written }
  | .beating _ .written | .ticking _ | .registering _ => service

/-- The handler of a registration runs its statement. -/
def serveRegistration (id : Uuid) (node : CreateNode) : HeartbeatService :=
  match service.phase with
  | .registering _ =>
      service.onGateway faults (.createNode id { node with peerId := config.nodeId })
  | .beating _ _ | .ticking _ => service

/-- A heartbeat that was written is acknowledged.  The loop goes on after a registration whatever
its answer says. -/
def answer : HeartbeatService :=
  match service.phase with
  | .beating _ .written => { service with phase := .ticking service.lifecycle.now, failed := 0 }
  | .registering _ => { service with phase := .ticking service.lifecycle.now }
  | .beating _ .sent | .beating _ (.read _) | .ticking _ => service

/-- A heartbeat fails, at whatever point, and is followed by a registration; or a registration
fails. -/
def fail : HeartbeatService :=
  match service.phase with
  | .beating _ _ =>
      { service with phase := .registering service.lifecycle.now, failed := service.failed + 1 }
  | .registering _ => { service with phase := .ticking service.lifecycle.now }
  | .ticking _ => service

/-- One step. -/
def apply : HeartbeatStep → HeartbeatService
  | .gateway step => service.onGateway faults step
  | .tick => service.tick config
  | .serveHeartbeat => service.serveHeartbeat faults config
  | .serveRegistration id node => service.serveRegistration faults config id node
  | .answer => service.answer
  | .fail => service.fail

/-- The instant by which the loop goes on if nothing takes longer than the delay. -/
def deadline (delay : Nat) : Time :=
  match service.phase with
  | .ticking since => max service.due since + delay
  | .beating since _ | .registering since => since + delay

/-- Neither a tick nor a request takes longer than the delay, and at most so many heartbeats in a
row fail. -/
def Prompt (delay allowed : Nat) (service : HeartbeatService) : HeartbeatStep → Prop
  | .gateway (.wait elapsed) => service.lifecycle.now + elapsed ≤ service.deadline delay
  | .fail => service.phase.isBeating = true → service.failed < allowed
  | .gateway (.createNode _ _) | .gateway (.updateNodeHeartbeat _) | .gateway (.readHeartbeat _)
  | .gateway (.writeHeartbeat _) | .gateway .startCycle | .gateway (.monitor _)
  | .gateway (.storage _) | .tick | .serveHeartbeat | .serveRegistration _ _ | .answer => True

instance (delay allowed : Nat) (service : HeartbeatService) :
    DecidablePred (service.Prompt delay allowed)
  | .gateway (.wait _) => inferInstanceAs (Decidable (_ ≤ _))
  | .fail => inferInstanceAs (Decidable (_ = true → _ < _))
  | .gateway (.createNode _ _) | .gateway (.updateNodeHeartbeat _) | .gateway (.readHeartbeat _)
  | .gateway (.writeHeartbeat _) | .gateway .startCycle | .gateway (.monitor _)
  | .gateway (.storage _) | .tick | .serveHeartbeat | .serveRegistration _ _ | .answer =>
      inferInstanceAs (Decidable True)

end HeartbeatService

/-! ## The last heartbeat in a row -/

/-- The last heartbeat of a node is less than so much before an instant. -/
def HeardWithin (lifecycle : Lifecycle) (id : Uuid) (due : Time) (slack : Nat) : Prop :=
  ∀ node ∈ lifecycle.db.nodes, node.id = id → ∃ beat ∈ node.lastHeartbeat, due ≤ beat + slack

instance (lifecycle : Lifecycle) (id : Uuid) (due : Time) (slack : Nat) :
    Decidable (HeardWithin lifecycle id due slack) :=
  inferInstanceAs (Decidable (∀ node ∈ lifecycle.db.nodes, _))

theorem HeardWithin.mono {lifecycle : Lifecycle} {id : Uuid} {due due' : Time} {slack slack' : Nat}
    (heard : HeardWithin lifecycle id due slack) (weaker : due' + slack ≤ due + slack') :
    HeardWithin lifecycle id due' slack' := by
  intro node known same
  obtain ⟨beat, is_beat, recent⟩ := heard node known same
  exact ⟨beat, is_beat, by grind⟩

/-- A step writes the present as the last heartbeat of a row, or leaves it alone. -/
theorem lastHeartbeat_rowAfter (state : Lifecycle) (node : Metadata.Node) (step : LifecycleStep) :
    (state.rowAfter node step).lastHeartbeat = node.lastHeartbeat ∨
      (state.rowAfter node step).lastHeartbeat = some state.now := by
  cases step with
  | createNode id registration | updateNodeHeartbeat nodeId =>
      rw [Lifecycle.rowAfter, NodeOp.rowAfter]
      split
      · exact .inr rfl
      · exact .inl rfl
  | writeHeartbeat heartbeat =>
      rw [Lifecycle.rowAfter]
      split
      · right
        cases heartbeat.status <;> rfl
      · exact .inl rfl
  | monitor event =>
      rw [Lifecycle.rowAfter]
      split
      · cases state.monitor with
        | markOnline nodeId rest =>
            rw [MonitorState.rowAfter, NodeOp.rowAfter]
            split
            · exact .inr rfl
            · exact .inl rfl
        | markOffline nodeId rest | markDraining nodeId rest =>
            rw [MonitorState.rowAfter, NodeOp.rowAfter]
            split <;> exact .inl rfl
        | _ => exact .inl rfl
      · exact .inl rfl
  | wait _ | readHeartbeat _ | startCycle | storage _ => exact .inl rfl

section Rows

variable {faults : FaultToleranceConfig} {since : Option Time} {id : Uuid} {peerId : String}
  {lifecycle : Lifecycle} {due : Time} {slack : Nat}

/-- A row of a node that reports comes from its row before the step. -/
theorem row_of_reporting (reporting : Reporting faults since id peerId lifecycle)
    {step : LifecycleStep} {row : Metadata.Node}
    (known : row ∈ (lifecycle.apply faults step).db.nodes) (same : row.id = id) :
    ∃ node ∈ lifecycle.db.nodes, node.id = id ∧ node.peerId = peerId ∧
      lifecycle.rowAfter node step = row := by
  rcases (Lifecycle.mem_apply_nodes reporting.unique).mp known with
    ⟨node, before, -, rfl⟩ | added
  · rw [Lifecycle.rowAfter_id] at same
    exact ⟨node, before, same, (reporting.atWork_of_mem before same).1, rfl⟩
  · obtain ⟨generated, registration, -, registered⟩ := Lifecycle.newRows_eq_register added
    obtain ⟨-, id_free, -⟩ := NodeOp.newRows_eq_register registered
    obtain ⟨node, before, node_id, -⟩ := reporting.row
    have taken : lifecycle.db.hasNode row.id = true :=
      List.any_eq_true.mpr ⟨node, before, beq_iff_eq.mpr (node_id.trans same.symm)⟩
    rw [id_free] at taken
    cases taken

/-- What happens at the gateway does not take a heartbeat back. -/
theorem HeardWithin.apply (reporting : Reporting faults since id peerId lifecycle)
    (heard : HeardWithin lifecycle id due slack) (present : due ≤ lifecycle.now + slack)
    (step : LifecycleStep) : HeardWithin (lifecycle.apply faults step) id due slack := by
  intro row known same
  obtain ⟨node, before, node_id, -, rfl⟩ := row_of_reporting reporting known same
  rcases lastHeartbeat_rowAfter lifecycle node step with kept | written
  · rw [kept]
    exact heard node before node_id
  · exact ⟨lifecycle.now, written, present⟩

/-- The second statement of a heartbeat writes the present. -/
theorem heardWithin_of_write (reporting : Reporting faults since id peerId lifecycle)
    {heartbeat : Heartbeat} (pending : heartbeat ∈ lifecycle.heartbeats)
    (address_eq : heartbeat.address = .byPeerId peerId) (present : due ≤ lifecycle.now + slack) :
    HeardWithin (lifecycle.apply faults (.writeHeartbeat heartbeat)) id due slack := by
  intro row known same
  obtain ⟨node, -, -, node_peer, rfl⟩ := row_of_reporting reporting known same
  have selected : heartbeat.address.selects node = true := by
    rw [address_eq]
    exact beq_iff_eq.mpr node_peer
  refine ⟨lifecycle.now, ?_, present⟩
  rw [Lifecycle.rowAfter, if_pos ⟨pending, selected⟩]
  cases heartbeat.status <;> rfl

/-- A heartbeat that has been read waits for its second statement. -/
theorem pending_or_write {heartbeat : Heartbeat} (pending : heartbeat ∈ lifecycle.heartbeats)
    (step : LifecycleStep) :
    heartbeat ∈ (lifecycle.apply faults step).heartbeats ∨ step = .writeHeartbeat heartbeat := by
  cases step with
  | readHeartbeat address =>
      left
      rw [Lifecycle.apply]
      split
      · exact pending
      · exact List.mem_cons_of_mem _ pending
  | writeHeartbeat other =>
      by_cases same : heartbeat = other
      · exact .inr (congrArg _ same.symm)
      · left
        rw [Lifecycle.apply]
        split
        · exact (List.mem_erase_of_ne same).mpr pending
        · exact pending
  | wait _ | createNode _ _ | updateNodeHeartbeat _ | startCycle | monitor _ | storage _ =>
      exact .inl pending

/-- Only a wait moves the clock. -/
theorem now_apply {step : LifecycleStep} (others : ∀ elapsed, step ≠ .wait elapsed) :
    (lifecycle.apply faults step).now = lifecycle.now := by
  cases step with
  | wait elapsed => exact absurd rfl (others elapsed)
  | readHeartbeat address => exact (Lifecycle.readHeartbeat_keeps faults lifecycle address).1
  | writeHeartbeat heartbeat => exact (Lifecycle.writeHeartbeat_keeps faults lifecycle heartbeat).1
  | createNode _ _ | updateNodeHeartbeat _ | startCycle | monitor _ | storage _ => rfl

end Rows

/-! ## The loop in time -/

namespace HeartbeatService

/-- What the loop waits for began in time: a tick is taken and a request is made soon after the tick
before the next one was due. -/
def OnTime (interval delay : Nat) (service : HeartbeatService) : Prop :=
  match service.phase with
  | .ticking since =>
      since ≤ service.due + delay ∧ service.lifecycle.now ≤ service.due + 2 * delay ∧
        service.due ≤ service.lifecycle.now + interval
  | .beating since _ =>
      since + interval ≤ service.due + 2 * delay ∧ service.lifecycle.now ≤ since + delay ∧
        service.due ≤ since + interval ∧ since ≤ service.lifecycle.now
  | .registering since =>
      since ≤ service.due ∧ service.lifecycle.now ≤ since + delay ∧
        service.due ≤ since + interval ∧ since ≤ service.lifecycle.now

/-- How far the last heartbeat may lie before the next tick. -/
def slack (interval : Nat) (service : HeartbeatService) : Nat :=
  service.failed * interval + if service.phase.isBeating then 2 * interval else interval

/-- The heartbeat under way is written, or waits to be, once it has been read. -/
def Underway (peerId : String) (id : Uuid) (interval : Nat) (service : HeartbeatService) : Prop :=
  match service.phase with
  | .beating _ (.read heartbeat) => heartbeat.address = .byPeerId peerId ∧
      (heartbeat ∈ service.lifecycle.heartbeats ∨
        HeardWithin service.lifecycle id service.due interval)
  | .beating _ .written => HeardWithin service.lifecycle id service.due interval
  | .beating _ .sent | .ticking _ | .registering _ => True

variable {faults : FaultToleranceConfig} {config : HeartbeatConfig} {service : HeartbeatService}
  {delay allowed : Nat} {since : Option Time} {id : Uuid}

/-- The node is at work, and its service is on time. -/
structure Sound (faults : FaultToleranceConfig) (config : HeartbeatConfig) (delay allowed : Nat)
    (since : Option Time) (id : Uuid) (service : HeartbeatService) : Prop where
  reporting : Reporting faults since id config.nodeId service.lifecycle
  failed_le : service.failed ≤ allowed
  onTime : service.OnTime config.interval delay
  heard : HeardWithin service.lifecycle id service.due (service.slack config.interval)
  underway : service.Underway config.nodeId id config.interval

/-- The next tick is at most an interval away. -/
theorem OnTime.due_le {interval : Nat} (onTime : service.OnTime interval delay) :
    service.due ≤ service.lifecycle.now + interval := by
  rw [OnTime] at onTime
  cases phase : service.phase with
  | ticking since =>
      rw [phase] at onTime
      exact onTime.2.2
  | beating since stage | registering since =>
      rw [phase] at onTime
      obtain ⟨-, -, due_le, began⟩ := onTime
      exact due_le.trans (Nat.add_le_add_right began interval)

theorem interval_le_slack (interval : Nat) : interval ≤ service.slack interval := by
  rw [slack]
  split <;> omega

/-- Time passes at most up to the deadline of the loop. -/
theorem Sound.deadline_le (sound : service.Sound faults config delay allowed since id)
    (enough : (allowed + 1) * config.interval + 3 * delay ≤ faults.offlineThreshold * 1000000)
    {node : Metadata.Node} (known : node ∈ service.lifecycle.db.nodes) (same : node.id = id) :
    ∃ beat ∈ node.lastHeartbeat, atMost faults.offlineThreshold (service.deadline delay) beat := by
  obtain ⟨beat, is_beat, recent⟩ := sound.heard node known same
  have failures : service.failed * config.interval ≤ allowed * config.interval :=
    Nat.mul_le_mul_right _ sound.failed_le
  have onTime := sound.onTime
  refine ⟨beat, is_beat, le_trans ?_ (Nat.add_le_add_left enough beat)⟩
  clear enough
  rw [deadline, Nat.succ_mul]
  rw [OnTime] at onTime
  rw [slack] at recent
  cases phase : service.phase with
  | ticking began | beating began stage | registering began =>
      rw [phase] at onTime recent
      simp only [HeartbeatPhase.isBeating, if_true, Bool.false_eq_true, if_false] at recent
      grind

theorem OnTime.wait {interval elapsed : Nat} (onTime : service.OnTime interval delay)
    (prompt : service.lifecycle.now + elapsed ≤ service.deadline delay) :
    OnTime interval delay (service.onGateway faults (.wait elapsed)) := by
  have now_eq : (service.onGateway faults (.wait elapsed)).lifecycle.now =
    service.lifecycle.now + elapsed := rfl
  rw [OnTime] at onTime ⊢
  rw [deadline] at prompt
  rw [now_eq]
  cases phase : service.phase with
  | ticking began | beating began stage | registering began =>
      simp only [HeartbeatService.onGateway, phase] at onTime prompt ⊢
      grind

/-- What happens at the gateway keeps the service on time if time does not pass the deadline. -/
theorem Sound.onGateway (sound : service.Sound faults config delay allowed since id)
    (enough : (allowed + 1) * config.interval + 3 * delay ≤ faults.offlineThreshold * 1000000)
    {step : LifecycleStep}
    (prompt : ∀ elapsed, step = .wait elapsed →
      service.lifecycle.now + elapsed ≤ service.deadline delay) :
    Sound faults config delay allowed since id (service.onGateway faults step) := by
  have present := sound.onTime.due_le
  constructor
  · refine sound.reporting.apply ?_
    cases step with
    | wait elapsed =>
        intro node known same _
        obtain ⟨beat, is_beat, recent⟩ := sound.deadline_le enough known same
        exact ⟨beat, is_beat, (prompt elapsed rfl).trans recent⟩
    | createNode _ _ | updateNodeHeartbeat _ | readHeartbeat _ | writeHeartbeat _ | startCycle
    | monitor _ | storage _ => trivial
  · exact sound.failed_le
  · have onTime := sound.onTime
    by_cases waits : ∃ elapsed, step = .wait elapsed
    · obtain ⟨elapsed, rfl⟩ := waits
      exact onTime.wait (prompt elapsed rfl)
    · have now_eq : (service.onGateway faults step).lifecycle.now = service.lifecycle.now :=
        now_apply (not_exists.mp waits)
      rw [OnTime, now_eq]
      exact onTime
  · exact sound.heard.apply sound.reporting
      (present.trans (Nat.add_le_add_left (interval_le_slack _) _)) step
  · have underway := sound.underway
    rw [Underway] at underway ⊢
    have phase_eq : (service.onGateway faults step).phase = service.phase := rfl
    rw [phase_eq]
    cases phase : service.phase with
    | ticking began | registering began => trivial
    | beating began stage =>
        rw [phase] at underway
        cases stage with
        | sent => trivial
        | written => exact HeardWithin.apply sound.reporting underway present step
        | read heartbeat =>
            obtain ⟨address_eq, pending | written⟩ := underway
            · rcases pending_or_write pending step with waiting | rfl
              · exact ⟨address_eq, .inl waiting⟩
              -- Another heartbeat that has read the same may write first.
              · exact ⟨address_eq, .inr (heardWithin_of_write sound.reporting pending address_eq
                  present)⟩
            · exact ⟨address_eq, .inr (HeardWithin.apply sound.reporting written present step)⟩

/-- A heartbeat goes on at the gateway. -/
theorem Sound.advance (sound : service.Sound faults config delay allowed since id) {began : Time}
    {stage next : HeartbeatStage} (phase_eq : service.phase = .beating began stage)
    (underway : Underway config.nodeId id config.interval
      { service with phase := .beating began next }) :
    Sound faults config delay allowed since id { service with phase := .beating began next } := by
  have onTime := sound.onTime
  have heard := sound.heard
  rw [OnTime, phase_eq] at onTime
  rw [slack, phase_eq] at heard
  exact ⟨sound.reporting, sound.failed_le, onTime, heard, underway⟩

theorem Sound.serveHeartbeat (sound : service.Sound faults config delay allowed since id)
    (enough : (allowed + 1) * config.interval + 3 * delay ≤ faults.offlineThreshold * 1000000) :
    Sound faults config delay allowed since id (service.serveHeartbeat faults config) := by
  rw [HeartbeatService.serveHeartbeat]
  cases phase : service.phase with
  | ticking began | registering began => exact sound
  | beating began stage =>
      cases stage with
      | written => exact sound
      | sent =>
          simp only
          cases found : service.lifecycle.db.nodes.find? fun node =>
              (HeartbeatAddress.byPeerId config.nodeId).selects node with
          | none => exact sound
          | some node =>
              have read : Sound faults config delay allowed since id
                  (service.onGateway faults (.readHeartbeat (.byPeerId config.nodeId))) :=
                sound.onGateway enough fun _ waits => by cases waits
              refine read.advance phase ⟨rfl, .inl ?_⟩
              simp only [HeartbeatService.onGateway, Lifecycle.apply, found]
              exact List.mem_cons_self
      | read heartbeat =>
          have underway := sound.underway
          rw [Underway, phase] at underway
          obtain ⟨address_eq, reads⟩ := underway
          have present := sound.onTime.due_le
          have written : Sound faults config delay allowed since id
              (service.onGateway faults (.writeHeartbeat heartbeat)) :=
            sound.onGateway enough fun _ waits => by cases waits
          refine written.advance phase ?_
          rcases reads with pending | heard
          · exact heardWithin_of_write sound.reporting pending address_eq present
          · exact HeardWithin.apply sound.reporting heard present _

theorem Sound.tick (sound : service.Sound faults config delay allowed since id) :
    Sound faults config delay allowed since id (service.tick config) := by
  have onTime := sound.onTime
  have heard := sound.heard
  rw [HeartbeatService.tick]
  rw [OnTime] at onTime
  rw [slack] at heard
  cases phase : service.phase with
  | beating began stage | registering began => exact sound
  | ticking began =>
      rw [phase] at onTime heard
      simp only
      split
      · rename_i due_le
        refine ⟨sound.reporting, sound.failed_le, ?_, heard.mono ?_, trivial⟩
        · rw [OnTime]
          simp only
          grind
        · simp only [slack, HeartbeatPhase.isBeating, if_true, Bool.false_eq_true, if_false]
          grind
      · exact sound

/-- After a registration the loop waits for the next tick, and is on time for it. -/
theorem Sound.registered (sound : service.Sound faults config delay allowed since id) {began : Time}
    (phase_eq : service.phase = .registering began) :
    Sound faults config delay allowed since id
      { service with phase := .ticking service.lifecycle.now } := by
  have onTime := sound.onTime
  have heard := sound.heard
  rw [OnTime, phase_eq] at onTime
  rw [slack, phase_eq] at heard
  refine ⟨sound.reporting, sound.failed_le, ?_, heard, trivial⟩
  rw [OnTime]
  simp only at onTime ⊢
  grind

theorem Sound.answer (sound : service.Sound faults config delay allowed since id)
    (punctual : 4 * delay ≤ config.interval) :
    Sound faults config delay allowed since id service.answer := by
  rw [HeartbeatService.answer]
  cases phase : service.phase with
  | ticking began => exact sound
  | registering began => exact sound.registered phase
  | beating began stage =>
      cases stage with
      | sent | read heartbeat => exact sound
      | written =>
          have onTime := sound.onTime
          have underway := sound.underway
          rw [OnTime, phase] at onTime
          rw [Underway, phase] at underway
          refine ⟨sound.reporting, Nat.zero_le _, ?_, underway.mono ?_, trivial⟩
          · rw [OnTime]
            simp only at onTime ⊢
            grind
          · simp [slack, HeartbeatPhase.isBeating]

theorem Sound.fail (sound : service.Sound faults config delay allowed since id)
    (punctual : 4 * delay ≤ config.interval)
    (few : service.phase.isBeating = true → service.failed < allowed) :
    Sound faults config delay allowed since id service.fail := by
  rw [HeartbeatService.fail]
  cases phase : service.phase with
  | ticking began => exact sound
  | registering began => exact sound.registered phase
  | beating began stage =>
      have onTime := sound.onTime
      have heard := sound.heard
      rw [OnTime, phase] at onTime
      rw [slack, phase] at heard
      rw [phase] at few
      refine ⟨sound.reporting, few rfl, ?_, heard.mono ?_, trivial⟩
      · rw [OnTime]
        simp only at onTime ⊢
        grind
      · simp only [slack, HeartbeatPhase.isBeating, if_true, Bool.false_eq_true, if_false,
          Nat.succ_mul]
        grind

/-- The service stays on time. -/
theorem Sound.apply (sound : service.Sound faults config delay allowed since id)
    (punctual : 4 * delay ≤ config.interval)
    (enough : (allowed + 1) * config.interval + 3 * delay ≤ faults.offlineThreshold * 1000000)
    {step : HeartbeatStep} (prompt : service.Prompt delay allowed step) :
    Sound faults config delay allowed since id (service.apply faults config step) := by
  cases step with
  | gateway step =>
      refine sound.onGateway enough fun elapsed waits => ?_
      subst waits
      exact prompt
  | tick => exact sound.tick
  | serveHeartbeat => exact sound.serveHeartbeat enough
  | serveRegistration generated node =>
      rw [HeartbeatService.apply, HeartbeatService.serveRegistration]
      split
      · exact sound.onGateway enough fun _ waits => by cases waits
      · exact sound
      · exact sound
  | answer => exact sound.answer punctual
  | fail => exact sound.fail punctual prompt

theorem sound_start {lifecycle : Lifecycle}
    (reporting : Reporting faults since id config.nodeId lifecycle)
    (heard : HeardWithin lifecycle id lifecycle.now config.interval) :
    Sound faults config delay allowed since id (.start lifecycle) where
  reporting := reporting
  failed_le := Nat.zero_le _
  onTime := ⟨le_rfl, Nat.le_add_right _ _, Nat.le_add_right _ _, le_rfl⟩
  heard := heard.mono (by simp [slack, start, HeartbeatPhase.isBeating])
  underway := trivial

end HeartbeatService

/-- A node that is at work stays at work while its service runs, whatever else happens at the
gateway: the interval holds four delays, neither a tick nor a request takes longer than one, and so
few heartbeats in a row fail that the intervals between them fit into the offline threshold. -/
theorem at_work_while_service_runs {faults : FaultToleranceConfig} {config : HeartbeatConfig}
    {delay allowed : Nat} {since : Option Time} {id : Uuid} {lifecycle : Lifecycle}
    (punctual : 4 * delay ≤ config.interval)
    (enough : (allowed + 1) * config.interval + 3 * delay ≤ faults.offlineThreshold * 1000000)
    (reporting : Reporting faults since id config.nodeId lifecycle)
    (heard : HeardWithin lifecycle id lifecycle.now config.interval) {steps : List HeartbeatStep}
    (prompt : EveryStep (HeartbeatService.apply faults config)
      (HeartbeatService.Prompt delay allowed) (.start lifecycle) steps) :
    EveryState (HeartbeatService.apply faults config)
      (fun reached => ∃ node ∈ reached.lifecycle.db.nodes, node.id = id ∧
        Node.AtWork faults reached.lifecycle.now since node) (.start lifecycle) steps := by
  have keeps : ∀ (service : HeartbeatService) (step : HeartbeatStep),
      service.Sound faults config delay allowed since id → service.Prompt delay allowed step →
      (service.apply faults config step).Sound faults config delay allowed since id :=
    fun _ _ sound met => sound.apply punctual enough met
  have every := everyState_of_everyStep keeps (HeartbeatService.sound_start reporting heard) prompt
  refine every.mono fun reached sound => ?_
  obtain ⟨node, known, same, -, atWork⟩ := sound.reporting.row
  exact ⟨node, known, same, atWork⟩

/-- A heartbeat every thirty seconds. -/
def everyHalfMinute : HeartbeatConfig where
  nodeId := "peer-1"
  interval := 30 * 1000000

/-- A service is started, loses a heartbeat during a check cycle, registers, and is heard again. -/
theorem at_work_while_service_runs_every_half_minute :
    EveryState (HeartbeatService.apply .default everyHalfMinute)
      (fun reached => ∃ node ∈ reached.lifecycle.db.nodes, node.id = 1 ∧
        Node.AtWork .default reached.lifecycle.now none node) (.start firstHeard)
      [.serveRegistration 2 firstRegistration, .answer, .tick, .serveHeartbeat, .serveHeartbeat,
        .answer, .gateway (.wait 30000000), .tick, .serveHeartbeat, .gateway .startCycle, .fail,
        .gateway (.wait 7000000), .fail, .gateway (.monitor .answered),
        .gateway (.wait 23000000), .tick, .serveHeartbeat, .gateway (.wait 5000000),
        .serveHeartbeat, .answer] := by
  have reporting : Reporting .default none 1 everyHalfMinute.nodeId firstHeard :=
    { unique := ⟨by decide, by decide⟩
      row := by decide
      spared := by decide
      serving := by decide }
  have punctual : 4 * 7000000 ≤ everyHalfMinute.interval := by decide
  have enough : (8 + 1) * everyHalfMinute.interval + 3 * 7000000 ≤
      FaultToleranceConfig.default.offlineThreshold * 1000000 := by decide
  exact at_work_while_service_runs punctual enough reporting (by decide)
    (by decide)

end CyxCloud.Node
