import CyxCloud.Gateway.PaymentDaemon

/-!
# What the parts of a tick leave alone

Every part of a tick changes few tables.  A view of the system that ignores these is the same after
the part as before, wherever it stops.
-/

namespace CyxCloud.Gateway

open CyxCloud.Core hiding Chunk
open Library Metadata Effect PaymentSystem

variable {τ : Type} {view : PaymentSystem → τ}

/-! ## Views -/

/-- The view does not look at uptime rows. -/
def IgnoresUptime (view : PaymentSystem → τ) : Prop :=
  ∀ system rows, view (system.setLedger { system.ledger with nodeEpochUptime := rows }) = view system

/-- The view looks at the epoch that the daemon is in, but at no other metrics. -/
def IgnoresCounters (view : PaymentSystem → τ) : Prop :=
  ∀ system metrics, metrics.currentEpoch = system.metrics.currentEpoch →
    metrics.epochStart = system.metrics.epochStart → view { system with metrics } = view system

/-- The view does not look at slashes on the chain and in the ledger. -/
def IgnoresSlashing (view : PaymentSystem → τ) : Prop :=
  (∀ system slashes, view { system with chain := { system.chain with slashes } } = view system) ∧
    ∀ system events,
      view (system.setLedger { system.ledger with nodeSlashingEvents := events }) = view system

/-- The view does not look at allocations on the chain. -/
def IgnoresAllocations (view : PaymentSystem → τ) : Prop :=
  ∀ system allocations,
    view { system with chain := { system.chain with allocations } } = view system

/-- The view does not look at what is finalized on the chain. -/
def IgnoresFinalized (view : PaymentSystem → τ) : Prop :=
  ∀ system finalizedEpochs,
    view { system with chain := { system.chain with finalizedEpochs } } = view system

/-- The view does not look at payment epochs and metrics. -/
def IgnoresEpochs (view : PaymentSystem → τ) : Prop :=
  (∀ system rows,
      view (system.setLedger { system.ledger with paymentEpochs := rows }) = view system) ∧
    ∀ system metrics, view { system with metrics } = view system

/-! ## Primitive steps -/

theorem obeys_submit {law : Law PaymentSystem} {reply : ChainReply} {note : Bool → Chain → Chain}
    (changes : ∀ (system : PaymentSystem) accepted,
      law.allows system { system with chain := note accepted system.chain }) :
    Obeys law (submit reply note) := by
  intro system
  unfold submit
  split
  · exact law.refl system
  · exact changes system _

theorem obeys_updateLedger {law : Law PaymentSystem} {outcome : Outcome} {change : Ledger → Ledger}
    (changes : ∀ system : PaymentSystem,
      law.allows system (system.setLedger (change system.ledger))) :
    Obeys law (updateLedger outcome change) :=
  obeys_update changes outcome

theorem obeys_tryLedger {α : Type} {law : Law PaymentSystem} {outcome : Outcome}
    {run : Ledger → Except DbError (Ledger × α)}
    (changes : ∀ (system : PaymentSystem) ledger value, run system.ledger = .ok (ledger, value) →
      law.allows system (system.setLedger ledger)) :
    Obeys law (tryLedger outcome run) := by
  refine obeys_statement (fun system reached value accepted => ?_) outcome
  cases ran : run system.ledger with
  | error cause =>
      rw [ran] at accepted
      cases accepted
  | ok result =>
      rw [ran] at accepted
      cases accepted
      exact changes system _ _ ran

theorem obeys_readLedger {α : Type} {law : Law PaymentSystem} (outcome : Outcome)
    (read : Ledger → α) : Obeys law (readLedger outcome read) :=
  obeys_query outcome _

theorem readLedger_eq_ok {α : Type} {outcome : Outcome} {read : Ledger → α}
    {system reached : PaymentSystem} {value : α}
    (ran : readLedger outcome read system = (reached, .ok value)) :
    reached = system ∧ value = read system.ledger := by
  have answered : outcome.answer.map (fun _ => read system.ledger) = .ok value :=
    congrArg Prod.snd ran
  refine ⟨congrArg Prod.fst ran.symm, ?_⟩
  cases answer_eq : outcome.answer with
  | error halt =>
      rw [answer_eq] at answered
      cases answered
  | ok done =>
      rw [answer_eq] at answered
      exact (Except.ok.inj answered).symm

theorem obeys_updateMetrics (counters : IgnoresCounters view)
    {change : PaymentDaemonMetrics → PaymentDaemonMetrics}
    (epoch_eq : ∀ metrics, (change metrics).currentEpoch = metrics.currentEpoch)
    (start_eq : ∀ metrics, (change metrics).epochStart = metrics.epochStart) :
    Obeys (.keep view) (updateMetrics change) :=
  obeys_modify fun system => counters system _ (epoch_eq _) (start_eq _)

/-- A statement that the ledger accepts is carried out, perhaps as the last one; any other stops
the program without effect. -/
theorem tryLedger_cases {α : Type} (outcome : Outcome)
    (run : Ledger → Except DbError (Ledger × α)) (system : PaymentSystem) :
    (∃ ledger value, run system.ledger = .ok (ledger, value) ∧ outcome.applied = true ∧
        ((outcome = .done ∧ tryLedger outcome run system = (system.setLedger ledger, .ok value)) ∨
          (outcome ≠ .done ∧
            ∃ halt, tryLedger outcome run system = (system.setLedger ledger, .error halt)))) ∨
      ∃ halt, tryLedger outcome run system = (system, .error halt) ∧
        (outcome.applied = true → ∃ cause, run system.ledger = .error cause) := by
  rcases statement_cases outcome (fun system : PaymentSystem =>
      (run system.ledger).map fun result => (system.setLedger result.1, result.2)) system with
    ⟨reached, value, ran, applied, ended⟩ | ⟨halt, stopped, refused⟩
  · cases accepted : run system.ledger with
    | error cause =>
        rw [accepted] at ran
        cases ran
    | ok result =>
        rw [accepted] at ran
        cases ran
        exact .inl ⟨result.1, result.2, rfl, applied, ended⟩
  · refine .inr ⟨halt, stopped, fun applied => ?_⟩
    obtain ⟨cause, failed⟩ := refused applied
    cases accepted : run system.ledger with
    | error cause => exact ⟨cause, rfl⟩
    | ok result =>
        rw [accepted] at failed
        cases failed

/-- A statement that cannot be refused is carried out, or stops the program. -/
theorem updateLedger_cases (outcome : Outcome) (change : Ledger → Ledger) (system : PaymentSystem) :
    (outcome = .done ∧ updateLedger outcome change system =
        (system.setLedger (change system.ledger), .ok ())) ∨
      (outcome ≠ .done ∧ ∃ halt,
        (outcome.applied = true ∧ updateLedger outcome change system =
            (system.setLedger (change system.ledger), .error halt)) ∨
          (outcome.applied = false ∧ updateLedger outcome change system = (system, .error halt))) :=
  update_cases outcome _ system

theorem tryLedger_crash {α : Type} {outcome : Outcome} (crashes : ¬ outcome.survives)
    (run : Ledger → Except DbError (Ledger × α)) (system : PaymentSystem) :
    (tryLedger outcome run system).2 = .error .crash :=
  statement_crash crashes _ system

theorem tryLedger_done {α : Type} {run : Ledger → Except DbError (Ledger × α)}
    {system : PaymentSystem} {ledger : Ledger} {value : α}
    (accepted : run system.ledger = .ok (ledger, value)) :
    tryLedger .done run system = (system.setLedger ledger, .ok value) := by
  refine statement_done_ok ?_
  rw [accepted]
  rfl

theorem updateLedger_crash {outcome : Outcome} (crashes : ¬ outcome.survives)
    (change : Ledger → Ledger) (system : PaymentSystem) :
    (updateLedger outcome change system).2 = .error .crash :=
  update_crash crashes _ system

theorem updateLedger_done (change : Ledger → Ledger) (system : PaymentSystem) :
    updateLedger .done change system = (system.setLedger (change system.ledger), .ok ()) := rfl

/-- A submission that the process survives is noted, and the program goes on. -/
theorem completes_submit {reply : ChainReply} (survives : reply.outcome.survives)
    (note : Bool → Chain → Chain) : Completes (submit reply note) := by
  intro system
  unfold submit
  cases answer_eq : reply.outcome.answer with
  | ok done => exact ⟨_, _, rfl⟩
  | error halt =>
      cases halt with
      | error => exact ⟨_, _, rfl⟩
      | crash => exact absurd answer_eq survives

/-! ## Parts of a tick -/

namespace PaymentDaemon

variable {daemon : PaymentDaemon} {env : TickEnv} {epoch : Int}

/-- Crediting uptime creates rows, adds to rows and counts. -/
theorem accumulateUptime_obeys {law : Law PaymentSystem}
    (creates : ∀ (system : PaymentSystem) nodeId epoch epochStart,
      system.ledger.hasUptime nodeId epoch = false →
        law.allows system (system.setLedger
          { system.ledger with
            nodeEpochUptime := system.ledger.nodeEpochUptime ++ [.new nodeId epoch epochStart] }))
    (credits : ∀ (system : PaymentSystem) condition update,
      (∀ row : NodeEpochUptime, (update row).SamePayment row) →
        law.allows system (system.setLedger (system.ledger.updateUptime condition update)))
    (counts : ∀ (system : PaymentSystem) metrics,
      metrics.currentEpoch = system.metrics.currentEpoch →
        metrics.epochStart = system.metrics.epochStart → law.allows system { system with metrics }) :
    Obeys law (daemon.accumulateUptime env) := by
  refine obeys_get.bind fun system => ?_
  split
  · exact obeys_pure ()
  · refine (obeys_readLedger _ _).bind fun nodes => Obeys.bind (obeys_each fun node _ => ?_)
      fun _ => obeys_modify fun reached => counts reached _ rfl rfl
    refine Obeys.bind (obeys_tryLedger fun reached ledger value accepted => ?_) fun _ => ?_
    · unfold Ledger.createOrGetEpochUptime at accepted
      split at accepted
      · cases accepted
        exact law.refl reached
      · rename_i absent
        split at accepted
        · cases accepted
          exact creates reached _ _ _ (by simpa using absent)
        · cases accepted
    · split
      all_goals
        refine obeys_updateLedger fun reached => ?_
        exact credits reached _ _ fun row => ⟨rfl, rfl, rfl⟩

theorem accumulateUptime_keeps (uptime : IgnoresUptime view) (counters : IgnoresCounters view) :
    Obeys (.keep view) (daemon.accumulateUptime env) :=
  accumulateUptime_obeys (fun system _ _ _ _ => uptime system _) (fun system _ _ _ => uptime system _)
    counters

theorem endUptime_keeps (uptime : IgnoresUptime view) :
    Obeys (.keep view)
      (updateLedger env.endUptime fun ledger => ledger.endEpochUptime epoch env.dbNow) :=
  obeys_updateLedger fun reached => uptime reached _

theorem checkAndSlashNodes_keeps (slashing : IgnoresSlashing view)
    (counters : IgnoresCounters view) :
    Obeys (.keep view) (daemon.checkAndSlashNodes env epoch) := by
  refine (obeys_readLedger _ _).bind fun rows => obeys_each fun row _ => ?_
  refine (obeys_readLedger _ _).bind fun node => ?_
  split
  · exact obeys_pure ()
  · refine Obeys.bind ?_ fun txSignature => Obeys.bind ?_ fun _ => ?_
    · unfold slashOnChain
      split
      · exact obeys_pure none
      · exact obeys_submit fun reached accepted => slashing.1 reached _
    · refine obeys_tryLedger fun reached ledger value accepted => ?_
      unfold Ledger.recordSlashingEvent at accepted
      split at accepted
      · cases accepted
        exact slashing.2 reached _
      · cases accepted
    · exact obeys_updateMetrics counters (fun _ => rfl) fun _ => rfl

theorem collectWeights_keeps (uptimes : List NodeEpochUptime) :
    Obeys (.keep view) (daemon.collectWeights env uptimes) := by
  induction uptimes with
  | nil => exact obeys_pure []
  | cons uptime rest induction =>
      refine (obeys_readLedger _ _).bind fun node => induction.bind fun weights => ?_
      split
      · exact obeys_pure _
      · exact obeys_pure _

/-- Preparing payments only reads. -/
theorem preparePayments_keeps : Obeys (.keep view) (daemon.preparePayments env epoch) := by
  refine (obeys_readLedger _ _).bind fun uptimes =>
    (collectWeights_keeps uptimes).bind fun weights => ?_
  split
  · exact obeys_pure none
  · refine Obeys.bind (fun _ => rfl) fun rewards => ?_
    split
    · exact obeys_pure none
    · split
      · exact obeys_pure none
      · exact obeys_pure _

theorem preparePayments_fst (daemon : PaymentDaemon) (env : TickEnv) (epoch : Int)
    (system : PaymentSystem) :
    (daemon.preparePayments env epoch system).1 = system :=
  have kept : Obeys (.keep id) (daemon.preparePayments env epoch) := preparePayments_keeps
  kept system

/-- Paying a node submits an allocation and marks the row of the node. -/
theorem payNode_obeys {law : Law PaymentSystem} {payments : Payments} {weight : NodeWeight}
    (allocates : ∀ (system : PaymentSystem) allocations,
      law.allows system { system with chain := { system.chain with allocations } })
    (marks : ∀ (system : PaymentSystem) amount txSignature,
      law.allows system (system.setLedger
        (system.ledger.markPaymentAllocated weight.nodeId epoch amount txSignature))) :
    Obeys law (daemon.payNode env epoch payments weight) := by
  unfold payNode
  split
  · exact obeys_pure 0
  · refine Obeys.bind ?_ fun txSignature =>
      Obeys.bind (obeys_updateLedger fun reached => marks reached _ _) fun _ => obeys_pure _
    unfold allocateOnChain
    split
    · exact obeys_pure none
    · exact obeys_submit fun reached accepted => allocates reached _

theorem payNodes_obeys {law : Law PaymentSystem} {payments : Payments} {weights : List NodeWeight}
    (pays : ∀ weight ∈ weights, Obeys law (daemon.payNode env epoch payments weight)) :
    Obeys law (daemon.payNodes env epoch payments weights) := by
  induction weights with
  | nil => exact obeys_pure _
  | cons weight rest induction =>
      refine (pays weight List.mem_cons_self).bind fun reward => Obeys.bind ?_ fun paid =>
        obeys_pure _
      exact induction fun later member => pays later (List.mem_cons_of_mem _ member)

theorem payNodes_keeps (uptime : IgnoresUptime view) (allocations : IgnoresAllocations view)
    (payments : Payments) (weights : List NodeWeight) :
    Obeys (.keep view) (daemon.payNodes env epoch payments weights) :=
  payNodes_obeys fun _ _ => payNode_obeys allocations fun system _ _ => uptime system _

theorem finalizeOnChain_keeps (finalized : IgnoresFinalized view) :
    Obeys (.keep view) (daemon.finalizeOnChain env epoch) := by
  unfold finalizeOnChain
  split
  · exact obeys_submit fun reached accepted => finalized reached _
  · exact obeys_pure none

theorem closeEpoch_keeps (finalized : IgnoresFinalized view) (epochs : IgnoresEpochs view)
    (payments : Payments) (paid : Nat × Nat) :
    Obeys (.keep view) (daemon.closeEpoch env epoch payments paid) :=
  (finalizeOnChain_keeps finalized).bind fun _ =>
    Obeys.bind (obeys_updateLedger fun reached => epochs.1 reached _) fun _ =>
      obeys_modify fun reached => epochs.2 reached _

theorem finalizeAndPayEpoch_keeps (uptime : IgnoresUptime view)
    (allocations : IgnoresAllocations view) (finalized : IgnoresFinalized view)
    (epochs : IgnoresEpochs view) :
    Obeys (.keep view) (daemon.finalizeAndPayEpoch env epoch) := by
  refine preparePayments_keeps.bind fun prepared => ?_
  split
  · exact obeys_pure ()
  · rename_i payments
    exact (payNodes_keeps uptime allocations payments payments.weights).bind fun paid =>
      closeEpoch_keeps finalized epochs payments paid

theorem openEpoch_keeps (epochs : IgnoresEpochs view) (uptime : IgnoresUptime view)
    (createEpoch initializeEpoch : Outcome) (dbNow now : Time) (finalized : Nat) :
    Obeys (.keep view)
      (openEpoch createEpoch initializeEpoch dbNow now epoch finalized) := by
  refine Obeys.bind (obeys_tryLedger fun reached ledger value accepted => ?_) fun record =>
    Obeys.bind (obeys_updateLedger fun reached => uptime reached _) fun _ =>
      obeys_modify fun reached => epochs.2 reached _
  unfold Ledger.createPaymentEpoch at accepted
  split at accepted
  · cases accepted
  · cases accepted
    exact epochs.1 reached _

/-! ## Parts that run to their end -/

theorem collectWeights_completes (answered : ∀ nodeId, env.weighedNode nodeId = .done)
    (uptimes : List NodeEpochUptime) : Completes (daemon.collectWeights env uptimes) := by
  induction uptimes with
  | nil => exact completes_pure []
  | cons uptime rest induction =>
      refine Completes.bind (completes_query (answered _) _) fun node =>
        induction.bind fun weights => ?_
      split
      · exact completes_pure _
      · exact completes_pure _

theorem epochRewards_completes (survives : env.epochRewards.survives) :
    Completes (daemon.epochRewards env) := by
  intro system
  unfold epochRewards
  split
  · split
    · cases answer_eq : env.epochRewards.answer with
      | ok done => exact ⟨_, _, rfl⟩
      | error halt =>
          cases halt with
          | error => exact ⟨_, _, rfl⟩
          | crash => exact absurd answer_eq survives
    · exact ⟨_, _, rfl⟩
  · exact ⟨_, _, rfl⟩

theorem preparePayments_completes (listed : env.epochUptime = .done)
    (answered : ∀ nodeId, env.weighedNode nodeId = .done) (survives : env.epochRewards.survives) :
    Completes (daemon.preparePayments env epoch) := by
  refine Completes.bind (completes_query listed _) fun uptimes =>
    (collectWeights_completes answered uptimes).bind fun weights => ?_
  split
  · exact completes_pure none
  · refine (epochRewards_completes survives).bind fun rewards => ?_
    split
    · exact completes_pure none
    · split
      · exact completes_pure none
      · exact completes_pure _

theorem payNodes_completes (survives : ∀ nodeId, (env.allocate nodeId).outcome.survives)
    (marked : ∀ nodeId, env.markPayment nodeId = .done) (payments : Payments)
    (weights : List NodeWeight) : Completes (daemon.payNodes env epoch payments weights) := by
  induction weights with
  | nil => exact completes_pure _
  | cons weight rest induction =>
      refine Completes.bind ?_ fun reward => induction.bind fun paid => completes_pure _
      unfold payNode
      split
      · exact completes_pure 0
      · refine Completes.bind ?_ fun txSignature =>
          (completes_update (marked _) _).bind fun _ => completes_pure _
        unfold allocateOnChain
        split
        · exact completes_pure none
        · exact completes_submit (survives _) _

theorem finalizeOnChain_completes (survives : env.finalizeChain.outcome.survives) :
    Completes (daemon.finalizeOnChain env epoch) := by
  unfold finalizeOnChain
  split
  · exact completes_submit survives _
  · exact completes_pure none

/-! ## Ticks -/

theorem dueEpoch_eq_some {now : Time} {metrics : PaymentDaemonMetrics}
    (due : dueEpoch now metrics = some epoch) : epoch = metrics.currentEpoch ∧ epoch ≠ 0 := by
  unfold dueEpoch at due
  split at due
  · cases due
  · rename_i nonzero
    split at due
    · cases due
    · split at due
      · cases due
      · cases due
        exact ⟨rfl, nonzero⟩

theorem settle_cases (result : PaymentSystem × Except Halt Unit) :
    settle result = result.1 ∨ settle result = result.1.crash := by
  unfold settle
  split
  · exact .inr rfl
  · exact .inl rfl

/-- After a program whose errors are only logged, the process is up unless it crashed. -/
theorem settle_attempt (program : Effect PaymentSystem Unit) (system : PaymentSystem) :
    ((program system).2 ≠ .error .crash ∧ settle (attempt program system) = (program system).1) ∨
      ((program system).2 = .error .crash ∧
        settle (attempt program system) = (program system).1.crash) := by
  unfold attempt
  split
  · rename_i reached ran
    rw [ran]
    exact .inr ⟨rfl, rfl⟩
  · rename_i reached outcome survived ran
    rw [ran]
    exact .inl ⟨fun crashed => survived crashed, rfl⟩

theorem checkEpochEnd_run (env : TickEnv) (system : PaymentSystem) :
    daemon.checkEpochEnd env system =
      match dueEpoch env.now system.metrics with
      | none => (system, .ok ())
      | some epoch => daemon.endEpoch env epoch system := by
  change (match dueEpoch env.now system.metrics with
    | none => pure ()
    | some epoch => daemon.endEpoch env epoch : Effect PaymentSystem Unit) system = _
  cases dueEpoch env.now system.metrics with
  | none => rfl
  | some epoch => rfl

/-- Crediting uptime does not move the end of the epoch. -/
theorem dueEpoch_accumulateUptime (daemon : PaymentDaemon) (env : TickEnv) (now : Time)
    (system : PaymentSystem) :
    dueEpoch now (daemon.accumulateUptime env system).1.metrics = dueEpoch now system.metrics := by
  have kept : Obeys (.keep fun system : PaymentSystem => dueEpoch now system.metrics)
      (daemon.accumulateUptime env) := by
    refine accumulateUptime_keeps (fun _ _ => rfl) fun system metrics epoch_eq start_eq => ?_
    simp only [dueEpoch, epoch_eq, start_eq]
  exact kept system

/-- A tick credits uptime and may crash, or then ends the current epoch. -/
theorem tick_running (daemon : PaymentDaemon) (env : TickEnv) {system : PaymentSystem}
    (running : system.running = true) :
    (daemon.tick env system = (daemon.accumulateUptime env system).1 ∨
        daemon.tick env system = (daemon.accumulateUptime env system).1.crash) ∨
      ∃ epoch, dueEpoch env.now system.metrics = some epoch ∧
        (((daemon.endEpoch env epoch (daemon.accumulateUptime env system).1).2 ≠ .error .crash ∧
            daemon.tick env system =
              (daemon.endEpoch env epoch (daemon.accumulateUptime env system).1).1) ∨
          ((daemon.endEpoch env epoch (daemon.accumulateUptime env system).1).2 = .error .crash ∧
            daemon.tick env system =
              (daemon.endEpoch env epoch (daemon.accumulateUptime env system).1).1.crash)) := by
  rw [tick, if_pos running, tickSteps]
  have credited := settle_attempt (daemon.accumulateUptime env) system
  have credited_fst := attempt_fst (daemon.accumulateUptime env) system
  rcases bind_cases (attempt (daemon.accumulateUptime env))
      (fun _ => attempt (daemon.checkEpochEnd env)) system with
    ⟨reached, halt, ran, result⟩ | ⟨reached, done, ran, result⟩
  · rw [ran] at credited
    rw [result]
    exact .inl (credited.imp And.right And.right)
  · rw [ran] at credited_fst
    rw [result, ← credited_fst]
    have checked := settle_attempt (daemon.checkEpochEnd env) reached
    rw [checkEpochEnd_run] at checked
    have due_eq : dueEpoch env.now reached.metrics = dueEpoch env.now system.metrics := by
      rw [show reached = (daemon.accumulateUptime env system).1 from credited_fst,
        dueEpoch_accumulateUptime]
    rw [due_eq] at checked
    cases due : dueEpoch env.now system.metrics with
    | none =>
        rw [due] at checked
        exact .inl (checked.imp And.right And.right)
    | some epoch =>
        rw [due] at checked
        exact .inr ⟨epoch, rfl, checked⟩

/-- A tick does nothing, or credits uptime and may crash, or then ends the current epoch. -/
theorem tick_cases (daemon : PaymentDaemon) (env : TickEnv) (system : PaymentSystem) :
    daemon.tick env system = system ∨
      (daemon.tick env system = (daemon.accumulateUptime env system).1 ∨
        daemon.tick env system = (daemon.accumulateUptime env system).1.crash) ∨
      ∃ epoch, dueEpoch env.now system.metrics = some epoch ∧
        (((daemon.endEpoch env epoch (daemon.accumulateUptime env system).1).2 ≠ .error .crash ∧
            daemon.tick env system =
              (daemon.endEpoch env epoch (daemon.accumulateUptime env system).1).1) ∨
          ((daemon.endEpoch env epoch (daemon.accumulateUptime env system).1).2 = .error .crash ∧
            daemon.tick env system =
              (daemon.endEpoch env epoch (daemon.accumulateUptime env system).1).1.crash)) := by
  cases running : system.running with
  | false => exact .inl (by simp [tick, running])
  | true => exact .inr (tick_running daemon env running)

/-- A tick obeys a law that its parts and crashes obey. -/
theorem tick_obeys {law : Law PaymentSystem} {system : PaymentSystem}
    (credits : Obeys law (daemon.accumulateUptime env))
    (ends : ∀ epoch, dueEpoch env.now system.metrics = some epoch →
      law.allows (daemon.accumulateUptime env system).1
        (daemon.endEpoch env epoch (daemon.accumulateUptime env system).1).1)
    (crashes : ∀ reached : PaymentSystem, law.allows reached reached.crash) :
    law.allows system (daemon.tick env system) := by
  have credited := credits system
  rcases daemon.tick_cases env system with same | (same | same) | ⟨epoch, due, ⟨-, same⟩ | ⟨-, same⟩⟩
  · rw [same]
    exact law.refl system
  · rw [same]
    exact credited
  · rw [same]
    exact law.trans credited (crashes _)
  · rw [same]
    exact law.trans credited (ends epoch due)
  · rw [same]
    exact law.trans (law.trans credited (ends epoch due)) (crashes _)

/-- A start obeys a law that booting, looking for the epoch and crashes obey. -/
theorem start_obeys {law : Law PaymentSystem} {env : StartEnv} {system : PaymentSystem}
    (boots : law.allows system system.boot) (ensures : Obeys law (ensureCurrentEpoch env))
    (crashes : ∀ reached : PaymentSystem, law.allows reached reached.crash) :
    law.allows system (start env system) := by
  have ensured := law.trans boots (ensures system.boot)
  rw [start]
  rcases settle_cases (ensureCurrentEpoch env system.boot) with up | crashed
  · rw [up]
    exact ensured
  · rw [crashed]
    exact law.trans ensured (crashes _)

end PaymentDaemon

end CyxCloud.Gateway
