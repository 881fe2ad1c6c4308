import CyxCloud.Gateway.PaymentEpochs

/-!
# Rewards

An epoch that did not end completely is ended again as a whole, and every reward of it is submitted
again; only a finalized epoch that the daemon has left is never paid again.  A row of uptime is
marked as paid whatever became of the allocation.
-/

namespace CyxCloud.Gateway

open CyxCloud.Core hiding Chunk
open Library Metadata Effect PaymentSystem

/-! ## Uptime rows -/

/-- A node has at most one uptime row for each epoch. -/
def PaymentSystem.UniqueUptime (system : PaymentSystem) : Prop :=
  (system.ledger.nodeEpochUptime.map NodeEpochUptime.key).Nodup

/-- An update of uptime rows that keeps their keys. -/
theorem keys_updateUptime {ledger : Ledger} {condition : NodeEpochUptime → Bool}
    {update : NodeEpochUptime → NodeEpochUptime} (keeps : ∀ row, (update row).key = row.key) :
    (ledger.updateUptime condition update).nodeEpochUptime.map NodeEpochUptime.key =
      ledger.nodeEpochUptime.map NodeEpochUptime.key := by
  rw [Ledger.updateUptime, List.map_map]
  refine List.map_congr_left fun row _ => ?_
  rw [Function.comp_apply]
  split
  · exact keeps row
  · rfl

theorem PaymentSystem.UniqueUptime.updateUptime {system : PaymentSystem}
    (unique : system.UniqueUptime) {condition : NodeEpochUptime → Bool}
    {update : NodeEpochUptime → NodeEpochUptime} (keeps : ∀ row, (update row).key = row.key) :
    (system.setLedger (system.ledger.updateUptime condition update)).UniqueUptime := by
  rw [PaymentSystem.UniqueUptime, PaymentSystem.setLedger, keys_updateUptime keeps]
  exact unique

theorem not_mem_keys_of_hasUptime {ledger : Ledger} {nodeId : Uuid} {epoch : Int}
    (absent : ledger.hasUptime nodeId epoch = false) :
    (nodeId, epoch) ∉ ledger.nodeEpochUptime.map NodeEpochUptime.key := by
  intro member
  obtain ⟨row, row_mem, key_eq⟩ := List.mem_map.mp member
  obtain ⟨rfl, rfl⟩ := Prod.mk.inj key_eq
  simp only [Ledger.hasUptime, List.any_eq_false, Bool.and_eq_true, beq_iff_eq] at absent
  exact absent row row_mem ⟨rfl, rfl⟩

namespace PaymentDaemon

variable {daemon : PaymentDaemon} {env : TickEnv} {epoch : Int} {system : PaymentSystem}

theorem accumulateUptime_unique :
    Obeys (.preserve PaymentSystem.UniqueUptime) (daemon.accumulateUptime env) := by
  refine accumulateUptime_obeys (fun system nodeId epoch epochStart absent unique => ?_)
    (fun system condition update same unique => ?_) fun _ _ _ _ => id
  · rw [PaymentSystem.UniqueUptime, PaymentSystem.setLedger, List.map_append]
    exact nodup_append_fresh unique (not_mem_keys_of_hasUptime absent)
  · exact unique.updateUptime fun row => (same row).key_eq

theorem openEpoch_unique (createEpoch initializeEpoch : Outcome) (dbNow now : Time)
    (finalized : Nat) :
    Obeys (.preserve PaymentSystem.UniqueUptime)
      (openEpoch createEpoch initializeEpoch dbNow now epoch finalized) := by
  refine Obeys.bind (obeys_tryLedger fun reached ledger record accepted unique => ?_) fun record =>
    Obeys.bind (obeys_updateLedger fun reached unique => ?_) fun _ => obeys_modify fun _ => id
  · unfold Ledger.createPaymentEpoch at accepted
    split at accepted
    · cases accepted
    · cases accepted
      exact unique
  · rw [PaymentSystem.UniqueUptime, PaymentSystem.setLedger, Ledger.initializeEpochForAllNodes,
      List.map_append]
    exact nodup_append_acceptedRows unique _

theorem endUptime_unique (env : TickEnv) (epoch : Int) :
    Obeys (.preserve PaymentSystem.UniqueUptime)
      (updateLedger env.endUptime fun ledger => ledger.endEpochUptime epoch env.dbNow) :=
  obeys_updateLedger fun _ unique => unique.updateUptime fun _ => rfl

theorem endEpoch_unique :
    Obeys (.preserve PaymentSystem.UniqueUptime) (daemon.endEpoch env epoch) := by
  have of_rows : ∀ {α : Type} {program : Effect PaymentSystem α},
      Obeys (.keep fun system : PaymentSystem => system.ledger.nodeEpochUptime) program →
        Obeys (.preserve PaymentSystem.UniqueUptime) program := by
    intro α program keeps
    refine keeps.of_keeps fun before after same unique => ?_
    rw [PaymentSystem.UniqueUptime, same]
    exact unique
  refine (endUptime_unique env epoch).bind fun _ => Obeys.bind
    (of_rows (checkAndSlashNodes_keeps ⟨fun _ _ => rfl, fun _ _ => rfl⟩ fun _ _ _ _ => rfl)) fun _ =>
      Obeys.bind (Obeys.bind (of_rows preparePayments_keeps) fun prepared => ?_) fun _ =>
        openEpoch_unique _ _ _ _ _
  cases prepared with
  | none => exact obeys_pure ()
  | some payments =>
      refine Obeys.bind (payNodes_obeys fun weight _ => payNode_obeys (fun _ _ => id)
        fun reached amount txSignature unique => ?_) fun paid => of_rows
          (closeEpoch_keeps (fun _ _ => rfl) ⟨fun _ _ => rfl, fun _ _ => rfl⟩ payments paid)
      exact unique.updateUptime fun _ => rfl

end PaymentDaemon

theorem PaymentDaemon.ensureCurrentEpoch_unique {env : StartEnv} :
    Obeys (.preserve PaymentSystem.UniqueUptime) (PaymentDaemon.ensureCurrentEpoch env) := by
  refine Obeys.bind (obeys_readLedger _ _) fun found => ?_
  split
  · exact obeys_modify fun _ => id
  · exact PaymentDaemon.openEpoch_unique _ _ _ _ _

open PaymentDaemon in
/-- Uptime rows stay unique in every step. -/
theorem PaymentSystem.UniqueUptime.apply {daemon : PaymentDaemon} {system : PaymentSystem}
    (unique : system.UniqueUptime) (op : PaymentOp) : (op.apply daemon system).UniqueUptime := by
  cases op with
  | start env =>
      have started : (Law.preserve PaymentSystem.UniqueUptime).allows system (start env system) :=
        start_obeys id ensureCurrentEpoch_unique fun _ => id
      exact started unique
  | tick env =>
      have ticked : (Law.preserve PaymentSystem.UniqueUptime).allows system (daemon.tick env system) :=
        tick_obeys accumulateUptime_unique (fun epoch _ => endEpoch_unique _) fun _ => id
      exact ticked unique
  | others db => exact unique.sublist ((List.filter_sublist).map _)

/-! ## Weights -/

/-- Selected rows of one epoch belong to different nodes. -/
theorem nodup_nodeIds {system : PaymentSystem} (unique : system.UniqueUptime) (epoch : Int)
    {rows : List NodeEpochUptime} {selected : NodeEpochUptime → Bool}
    (listed : rows.Perm (system.ledger.nodeEpochUptime.filter selected))
    (epoch_eq : ∀ row, selected row = true → row.epoch = epoch) :
    (rows.map NodeEpochUptime.nodeId).Nodup := by
  rw [(listed.map _).nodup_iff]
  refine List.Nodup.of_map (fun nodeId => (nodeId, epoch)) ?_
  have keys_eq : ((system.ledger.nodeEpochUptime.filter selected).map
      NodeEpochUptime.nodeId).map (fun nodeId => (nodeId, epoch)) =
        (system.ledger.nodeEpochUptime.filter selected).map NodeEpochUptime.key := by
    rw [List.map_map]
    refine List.map_congr_left fun row member => ?_
    rw [Function.comp_apply, NodeEpochUptime.key, epoch_eq row (List.mem_filter.mp member).2]
  rw [keys_eq]
  exact unique.sublist ((List.filter_sublist).map _)

/-- A query for the rows of an epoch lists every node at most once. -/
theorem nodup_getEpochUptime {system : PaymentSystem} (unique : system.UniqueUptime)
    (order : RowOrder NodeEpochUptime) (epoch : Int) :
    ((system.ledger.getEpochUptime order epoch).map NodeEpochUptime.nodeId).Nodup :=
  nodup_nodeIds unique epoch ((List.perm_insertionSort _ _).trans (order.arrange_perm _))
    fun _ selected => beq_iff_eq.mp selected

namespace PaymentDaemon

variable {daemon : PaymentDaemon} {env : TickEnv} {epoch : Int} {system reached : PaymentSystem}

/-- Weights are collected for distinct rows of nodes that exist. -/
theorem collectWeights_run {uptimes : List NodeEpochUptime} {weights : List NodeWeight}
    (ran : daemon.collectWeights env uptimes system = (reached, .ok weights)) :
    (weights.map NodeWeight.nodeId).Sublist (uptimes.map NodeEpochUptime.nodeId) ∧
      ∀ weight ∈ weights, ∃ node ∈ system.ledger.nodes,
        weight.nodeId = node.id ∧ weight.walletAddress = node.walletAddress := by
  induction uptimes generalizing weights reached with
  | nil =>
      cases ran
      exact ⟨.slnil, by simp⟩
  | cons uptime rest induction =>
      rw [collectWeights] at ran
      rcases bind_cases (readLedger (env.weighedNode uptime.nodeId) fun ledger =>
          ledger.getNode uptime.nodeId) _ system with
        ⟨_, halt, -, result⟩ | ⟨seen, found, read, result⟩
      · rw [result] at ran
        cases ran
      rw [result] at ran
      obtain ⟨rfl, found_eq⟩ := readLedger_eq_ok read
      rcases bind_cases (daemon.collectWeights env rest) _ seen with
        ⟨_, halt, -, result⟩ | ⟨later, others, collected, result⟩
      · rw [result] at ran
        cases ran
      rw [result] at ran
      obtain ⟨sublist, known⟩ := induction collected
      cases found with
      | none =>
          cases ran
          exact ⟨sublist.cons _, known⟩
      | some node =>
          cases ran
          refine ⟨sublist.cons_cons _, fun weight member => ?_⟩
          rcases List.mem_cons.mp member with rfl | earlier
          · obtain ⟨node_mem, id_eq⟩ := Database.getNode_eq_some found_eq.symm
            exact ⟨node, node_mem, id_eq.symm, rfl⟩
          · exact known weight earlier

/-- Payments are prepared for distinct nodes that exist, and with transactions enabled only if there
is a client. -/
theorem preparePayments_run {payments : Payments}
    (ran : daemon.preparePayments env epoch system = (reached, .ok (some payments))) :
    reached = system ∧
      (system.UniqueUptime → (payments.weights.map NodeWeight.nodeId).Nodup) ∧
      (∀ weight ∈ payments.weights, ∃ node ∈ system.ledger.nodes,
        weight.nodeId = node.id ∧ weight.walletAddress = node.walletAddress) ∧
      (daemon.config.enableBlockchain = true → daemon.blockchain = true) := by
  have same := daemon.preparePayments_fst env epoch system
  rw [ran] at same
  refine ⟨same, ?_⟩
  rw [preparePayments] at ran
  rcases bind_cases (readLedger env.epochUptime fun ledger =>
      ledger.getEpochUptime env.uptimeOrder epoch) _ system with
    ⟨_, halt, -, result⟩ | ⟨listed, uptimes, read, result⟩
  · rw [result] at ran
    cases ran
  rw [result] at ran
  obtain ⟨rfl, rfl⟩ := readLedger_eq_ok read
  rcases bind_cases (daemon.collectWeights env
      (listed.ledger.getEpochUptime env.uptimeOrder epoch)) _ listed with
    ⟨_, halt, -, result⟩ | ⟨weighed, weights, collected, result⟩
  · rw [result] at ran
    cases ran
  rw [result] at ran
  obtain ⟨sublist, known⟩ := collectWeights_run collected
  split at ran
  · cases ran
  rcases bind_cases (daemon.epochRewards env) _ weighed with
    ⟨_, halt, -, result⟩ | ⟨asked, rewards, answered, result⟩
  · rw [result] at ran
    cases ran
  rw [result] at ran
  cases rewards with
  | none => cases ran
  | some rewards =>
      dsimp only at ran
      split at ran
      · cases ran
      · rename_i funded
        cases ran
        refine ⟨fun unique => (nodup_getEpochUptime unique env.uptimeOrder epoch).sublist sublist,
          known, fun enabled => ?_⟩
        by_contra absent
        have empty : (daemon.epochRewards env weighed).2 = .ok (some ⟨0, 0⟩) := by
          simp [epochRewards, enabled, absent]
        rw [answered] at empty
        cases empty
        exact funded rfl

/-! ## Allocations -/

/-- The allocations that a tick submits for an epoch: at most one for a node, accepted as the chain
decides. -/
structure Submitted (env : TickEnv) (epoch : Int) (nodeIds : List Uuid) (new : List Allocation) :
    Prop where
  once : (new.map Allocation.nodeId).Sublist nodeIds
  epoch_eq : ∀ allocation ∈ new, allocation.epoch = epoch
  accepted_eq : ∀ allocation ∈ new,
    allocation.accepted = (env.allocate allocation.nodeId).outcome.applied

theorem Submitted.nil {nodeIds : List Uuid} : Submitted env epoch nodeIds [] :=
  ⟨List.nil_sublist _, by simp, by simp⟩

theorem Submitted.append {nodeIds others : List Uuid} {new later : List Allocation}
    (first : Submitted env epoch nodeIds new) (second : Submitted env epoch others later) :
    Submitted env epoch (nodeIds ++ others) (new ++ later) := by
  refine ⟨?_, fun allocation member => ?_, fun allocation member => ?_⟩
  · rw [List.map_append]
    exact first.once.append second.once
  · exact (List.mem_append.mp member).elim (first.epoch_eq allocation) (second.epoch_eq allocation)
  · exact (List.mem_append.mp member).elim (first.accepted_eq allocation)
      (second.accepted_eq allocation)

theorem allocateOnChain_submits (daemon : PaymentDaemon) (env : TickEnv) (epoch : Int)
    (weight : NodeWeight) (reward : Nat) (system : PaymentSystem) :
    ∃ new, (daemon.allocateOnChain env epoch weight reward system).1.chain.allocations =
        system.chain.allocations ++ new ∧ Submitted env epoch [weight.nodeId] new := by
  rw [allocateOnChain]
  cases daemon.owner weight.walletAddress with
  | none => exact ⟨[], by simp, .nil⟩
  | some owner =>
      dsimp only [submit]
      by_cases crashed : (env.allocate weight.nodeId).outcome = .crashed
      · rw [if_pos crashed]
        exact ⟨[], by simp, .nil⟩
      · rw [if_neg crashed]
        exact ⟨_, rfl, by simp, by simp, by simp⟩

theorem payNode_submits (daemon : PaymentDaemon) (env : TickEnv) (epoch : Int)
    (payments : Payments) (weight : NodeWeight) (system : PaymentSystem) :
    ∃ new, (daemon.payNode env epoch payments weight system).1.chain.allocations =
        system.chain.allocations ++ new ∧ Submitted env epoch [weight.nodeId] new := by
  rw [payNode]
  by_cases nothing : payments.reward weight = 0
  · rw [if_pos nothing]
    exact ⟨[], by simp, .nil⟩
  · rw [if_neg nothing]
    obtain ⟨new, allocations_eq, submitted⟩ :=
      daemon.allocateOnChain_submits env epoch weight (payments.reward weight) system
    refine ⟨new, ?_, submitted⟩
    rcases bind_cases (daemon.allocateOnChain env epoch weight (payments.reward weight)) _ system with
      ⟨reached, halt, ran, result⟩ | ⟨reached, txSignature, ran, result⟩
    · rw [result, ← allocations_eq, ran]
    · have marks : Obeys (.keep fun system : PaymentSystem => system.chain.allocations)
          (updateLedger (env.markPayment weight.nodeId) (fun ledger =>
            ledger.markPaymentAllocated weight.nodeId epoch (asI64 (payments.reward weight))
              txSignature) >>= fun _ => pure (payments.reward weight)) :=
        Obeys.bind (obeys_updateLedger fun _ => rfl) fun _ => obeys_pure _
      rw [result, ← allocations_eq, ran]
      exact marks reached

/-- Paying nodes submits at most one allocation for each of them. -/
theorem payNodes_submits (daemon : PaymentDaemon) (env : TickEnv) (epoch : Int)
    (payments : Payments) (weights : List NodeWeight) (system : PaymentSystem) :
    ∃ new, (daemon.payNodes env epoch payments weights system).1.chain.allocations =
        system.chain.allocations ++ new ∧
      Submitted env epoch (weights.map NodeWeight.nodeId) new := by
  induction weights generalizing system with
  | nil => exact ⟨[], by simp [payNodes], .nil⟩
  | cons weight rest induction =>
      obtain ⟨new, first_eq, first⟩ := daemon.payNode_submits env epoch payments weight system
      rw [payNodes]
      rcases bind_cases (daemon.payNode env epoch payments weight) _ system with
        ⟨reached, halt, ran, result⟩ | ⟨reached, reward, ran, result⟩
      · rw [ran] at first_eq
        rw [result]
        exact ⟨new, first_eq, ⟨first.once.trans (by simp), first.epoch_eq, first.accepted_eq⟩⟩
      · rw [ran] at first_eq
        obtain ⟨later, rest_eq, others⟩ := induction reached
        rw [result]
        refine ⟨new ++ later, ?_, first.append others⟩
        rw [← List.append_assoc, ← first_eq, ← rest_eq]
        rcases bind_cases (daemon.payNodes env epoch payments rest) _ reached with
          ⟨_, halt, ran, result⟩ | ⟨_, paid, ran, result⟩
        · rw [result, ran]
        · rw [result, ran]
          rfl

/-! ## Epochs that end completely -/

end PaymentDaemon

/-- Opening the next epoch, which may be present already, succeeds or is cut short by a crash. -/
def TickEnv.LeavesEpoch (env : TickEnv) (present : Bool) : Prop :=
  ¬ env.createEpoch.survives ∨
    (env.createEpoch = .done ∧ present = false ∧
      (env.initializeEpoch = .done ∨ ¬ env.initializeEpoch.survives))

/-- What follows an allocation finalizes the epoch and leaves it. -/
structure TickEnv.FinishesPayment (env : TickEnv) (present : Bool) : Prop where
  allocate_survives : ∀ nodeId, (env.allocate nodeId).outcome.survives
  markPayment_eq : ∀ nodeId, env.markPayment nodeId = .done
  finalizeChain_survives : env.finalizeChain.outcome.survives
  finalizeEpoch_leaves :
    env.finalizeEpoch = .crashedAfter ∨ (env.finalizeEpoch = .done ∧ env.LeavesEpoch present)

namespace PaymentDaemon

variable {daemon : PaymentDaemon} {env : TickEnv} {epoch : Int}

/-- A daemon that opens an epoch is in it, or has crashed. -/
theorem startEpoch_leaves {system : PaymentSystem}
    (leaves : env.LeavesEpoch (system.ledger.hasEpoch (epoch + 1))) :
    (startEpoch env (epoch + 1) system).2 = .error .crash ∨
      (startEpoch env (epoch + 1) system).1.metrics.currentEpoch = epoch + 1 := by
  rw [startEpoch, openEpoch]
  rcases leaves with crashes | ⟨created, absent, initialized⟩
  · left
    rw [bind_run_halt (tryLedger_crash crashes _ system)]
  · rw [created, bind_run_ok (tryLedger_done (createPaymentEpoch_of_absent absent env.dbNow))]
    rcases initialized with is_done | crashes
    · right
      rw [is_done, bind_run_ok (updateLedger_done _ _)]
      rfl
    · left
      rw [bind_run_halt (updateLedger_crash crashes _ _)]

/-- Distributing payments, if nothing goes wrong before, closes the epoch. -/
theorem distributePayments_finishes {present : Bool} (finishes : env.FinishesPayment present)
    (daemon : PaymentDaemon) (epoch : Int) (payments : Payments) (system : PaymentSystem) :
    (daemon.distributePayments env epoch payments system).1.book =
        system.book.afterEnd epoch true false false ∧
      ((daemon.distributePayments env epoch payments system).2 = .error .crash ∨
        ((daemon.distributePayments env epoch payments system).2 = .ok () ∧
          env.LeavesEpoch present)) := by
  obtain ⟨paidOut, paid, ran, paid_book⟩ :=
    (payNodes_completes finishes.allocate_survives finishes.markPayment_eq payments
      payments.weights).run_keeps
        (payNodes_keeps book_ignoresUptime book_ignoresAllocations payments payments.weights) system
  obtain ⟨onChain, finalizeTx, reported, chain_book⟩ :=
    (finalizeOnChain_completes finishes.finalizeChain_survives).run_keeps
      (finalizeOnChain_keeps book_ignoresFinalized) paidOut
  rw [distributePayments, bind_run_ok ran, closeEpoch, bind_run_ok reported, ← paid_book,
    ← chain_book]
  rcases finishes.finalizeEpoch_leaves with crashed | ⟨is_done, leaves⟩
  · rw [crashed, bind_run_halt (updateLedger_crash (fun survives => survives rfl) _ _)]
    exact ⟨book_finalize _ _ _ _, .inl rfl⟩
  · rw [is_done, bind_run_ok (updateLedger_done _ _)]
    exact ⟨book_finalize _ _ _ _, .inr ⟨rfl, leaves⟩⟩

theorem distributePayments_allocations (payments : Payments) (system : PaymentSystem) :
    (daemon.distributePayments env epoch payments system).1.chain.allocations =
      (daemon.payNodes env epoch payments payments.weights system).1.chain.allocations := by
  rw [distributePayments]
  rcases bind_cases (daemon.payNodes env epoch payments payments.weights) _ system with
    ⟨reached, halt, ran, result⟩ | ⟨reached, paid, ran, result⟩
  · rw [result, ran]
  · rw [result, ran]
    have closes : Obeys (.keep fun system : PaymentSystem => system.chain.allocations)
        (daemon.closeEpoch env epoch payments paid) :=
      closeEpoch_keeps (fun _ _ => rfl) ⟨fun _ _ => rfl, fun _ _ => rfl⟩ payments paid
    exact closes reached

/-- A run pays an epoch at most once: it submits at most one allocation for each node, and if
everything that follows an allocation goes well, it closes the epoch and leaves it. -/
def PaysOnce (env : TickEnv) (epoch : Int) (before : PaymentSystem)
    (result : PaymentSystem × Except Halt Unit) : Prop :=
  ∃ new nodeIds, result.1.chain.allocations = before.chain.allocations ++ new ∧
    nodeIds.Nodup ∧ Submitted env epoch nodeIds new ∧
    (env.FinishesPayment (before.ledger.hasEpoch (epoch + 1)) → new = [] ∨
      ((∃ opens enters, result.1.book = before.book.afterEnd epoch true opens enters) ∧
        (result.2 = .error .crash ∨ result.1.metrics.currentEpoch = epoch + 1)))

theorem PaysOnce.of_unpaid {before : PaymentSystem} {result : PaymentSystem × Except Halt Unit}
    (same : result.1.chain.allocations = before.chain.allocations) :
    PaysOnce env epoch before result :=
  ⟨[], [], by simp [same], List.nodup_nil, .nil, fun _ => .inl rfl⟩

theorem PaysOnce.of_same_view {before earlier : PaymentSystem}
    {result : PaymentSystem × Except Halt Unit} (pays : PaysOnce env epoch before result)
    (allocations_eq : before.chain.allocations = earlier.chain.allocations)
    (book_eq : before.book = earlier.book) : PaysOnce env epoch earlier result := by
  have next_eq : before.ledger.hasEpoch (epoch + 1) = earlier.ledger.hasEpoch (epoch + 1) := by
    rw [Bool.eq_iff_iff, hasEpoch_iff, hasEpoch_iff, book_eq]
  unfold PaysOnce at pays ⊢
  rwa [← allocations_eq, ← book_eq, ← next_eq]

/-- The payments of an epoch and the opening of the next one. -/
theorem payAndStart_pays {system : PaymentSystem} (unique : system.UniqueUptime) :
    PaysOnce env epoch system
      ((daemon.finalizeAndPayEpoch env epoch >>= fun _ => startEpoch env (epoch + 1)) system) := by
  have starts : Obeys (.keep fun system : PaymentSystem => system.chain.allocations)
      (startEpoch env (epoch + 1)) :=
    openEpoch_keeps ⟨fun _ _ => rfl, fun _ _ => rfl⟩ (fun _ _ => rfl) _ _ _ _ _
  have started : ((daemon.finalizeAndPayEpoch env epoch >>= fun _ =>
      startEpoch env (epoch + 1)) system).1.chain.allocations =
        (daemon.finalizeAndPayEpoch env epoch system).1.chain.allocations := by
    rcases bind_cases (daemon.finalizeAndPayEpoch env epoch) (fun _ => startEpoch env (epoch + 1))
      system with ⟨reached, halt, ran, result⟩ | ⟨reached, done, ran, result⟩
    · rw [result, ran]
    · rw [result, ran]
      exact starts reached
  by_cases paying : ∃ payments,
      daemon.preparePayments env epoch system = (system, .ok (some payments))
  · obtain ⟨payments, prepared⟩ := paying
    obtain ⟨-, distinct, -, -⟩ := preparePayments_run prepared
    obtain ⟨new, paid_eq, submitted⟩ :=
      daemon.payNodes_submits env epoch payments payments.weights system
    have pay_eq : daemon.finalizeAndPayEpoch env epoch system =
        daemon.distributePayments env epoch payments system := by
      rw [finalizeAndPayEpoch, bind_run_ok prepared]
    refine ⟨new, payments.weights.map NodeWeight.nodeId, ?_, distinct unique, submitted,
      fun finishes => .inr ?_⟩
    · rw [started, pay_eq, distributePayments_allocations, paid_eq]
    · obtain ⟨closed, crashes | ⟨ended, leaves⟩⟩ :=
        distributePayments_finishes finishes daemon epoch payments system
      · rw [← pay_eq] at closed crashes
        rw [bind_run_halt crashes]
        exact ⟨⟨false, false, closed⟩, .inl rfl⟩
      · rw [← pay_eq] at closed ended
        rw [bind_run_value ended]
        obtain ⟨opens, enters, opened, -⟩ := openEpoch_book env.createEpoch env.initializeEpoch
          env.dbNow env.now epoch 1 (daemon.finalizeAndPayEpoch env epoch system).1
        have next_eq : (daemon.finalizeAndPayEpoch env epoch system).1.ledger.hasEpoch (epoch + 1) =
            system.ledger.hasEpoch (epoch + 1) := by
          rw [Bool.eq_iff_iff, hasEpoch_iff, hasEpoch_iff, closed, EpochBook.numbers_afterEnd]
          simp
        refine ⟨⟨opens, enters, ?_⟩, startEpoch_leaves (next_eq ▸ leaves)⟩
        rw [startEpoch, opened, closed]
        simp [EpochBook.afterEnd]
  · refine .of_unpaid ?_
    rw [started, finalizeAndPayEpoch]
    rcases bind_cases (daemon.preparePayments env epoch) _ system with
      ⟨reached, halt, ran, result⟩ | ⟨reached, prepared, ran, result⟩
    · rw [result, ← congrArg Prod.fst ran, preparePayments_fst]
    · have same : reached = system := by
        rw [← daemon.preparePayments_fst env epoch system, ran]
      subst same
      rw [result]
      cases prepared with
      | none => rfl
      | some payments => exact absurd ⟨payments, ran⟩ paying

theorem endEpoch_pays (daemon : PaymentDaemon) (env : TickEnv) (epoch : Int)
    {system : PaymentSystem} (unique : system.UniqueUptime) :
    PaysOnce env epoch system (daemon.endEpoch env epoch system) := by
  rw [endEpoch]
  have ends : Obeys (.keep fun system : PaymentSystem => (system.chain.allocations, system.book))
      (updateLedger env.endUptime fun ledger => ledger.endEpochUptime epoch env.dbNow) :=
    endUptime_keeps fun _ _ => rfl
  have slashes : Obeys (.keep fun system : PaymentSystem =>
      (system.chain.allocations, system.book, system.ledger.nodeEpochUptime))
        (daemon.checkAndSlashNodes env epoch) := by
    refine checkAndSlashNodes_keeps ⟨fun _ _ => rfl, fun _ _ => rfl⟩ fun system metrics same _ => ?_
    simp [PaymentSystem.book, same]
  rcases ends.bind_cases _ system with ⟨ended, halt, same, result⟩ | ⟨ended, done, same, ran, result⟩
  · rw [result]
    exact .of_unpaid (Prod.mk.inj same).1
  have ended_unique : ended.UniqueUptime := by
    have kept := endUptime_unique env epoch system unique
    rw [ran] at kept
    exact kept
  obtain ⟨ended_allocations, ended_book⟩ := Prod.mk.inj same
  rw [result]
  refine PaysOnce.of_same_view ?_ ended_allocations ended_book
  rcases slashes.bind_cases _ ended with
    ⟨slashed, halt, kept, result⟩ | ⟨slashed, done, kept, -, result⟩
  · rw [result]
    exact .of_unpaid (Prod.mk.inj kept).1
  obtain ⟨slashed_allocations, others⟩ := Prod.mk.inj kept
  obtain ⟨slashed_book, slashed_rows⟩ := Prod.mk.inj others
  rw [result]
  refine PaysOnce.of_same_view (payAndStart_pays ?_) slashed_allocations slashed_book
  rw [PaymentSystem.UniqueUptime, slashed_rows]
  exact ended_unique

end PaymentDaemon

/-! ## Closed epochs -/

namespace EpochBook

variable {book : EpochBook} {epoch number : Int} {closes opens enters : Bool}

/-- The epoch exists and is finalized. -/
def Closed (book : EpochBook) (number : Int) : Prop :=
  number ∈ book.numbers ∧ ∀ entry ∈ book.epochs, entry.1 = number → entry.2 = true

/-- A closed epoch stays closed. -/
theorem Closed.afterEnd (closed : book.Closed number)
    (new : opens = true → epoch + 1 ∉ book.numbers) :
    (book.afterEnd epoch closes opens enters).Closed number := by
  refine ⟨?_, fun entry member number_eq => ?_⟩
  · rw [numbers_afterEnd]
    exact List.mem_append_left _ closed.1
  · rcases List.mem_append.mp member with earlier | opened
    · cases closes with
      | false => exact closed.2 entry earlier number_eq
      | true =>
          obtain ⟨old, old_mem, rfl⟩ := List.mem_map.mp earlier
          have flag := closed.2 old old_mem ((close_fst epoch old).symm.trans number_eq)
          unfold close
          split
          · rfl
          · exact flag
    · cases opens with
      | false => cases opened
      | true =>
          rw [List.mem_singleton.mp opened] at number_eq
          have present : epoch + 1 ∈ book.numbers := by
            rw [show epoch + 1 = number from number_eq]
            exact closed.1
          exact absurd present (new rfl)

/-- The epoch that was closed is closed. -/
theorem closed_afterEnd (known : epoch ∈ book.numbers) :
    (book.afterEnd epoch true opens enters).Closed epoch := by
  refine ⟨?_, fun entry member number_eq => ?_⟩
  · rw [numbers_afterEnd]
    exact List.mem_append_left _ known
  · rcases List.mem_append.mp member with earlier | opened
    · obtain ⟨old, -, rfl⟩ := List.mem_map.mp earlier
      rw [close, if_pos ((close_fst epoch old).symm.trans number_eq)]
    · cases opens with
      | false => cases opened
      | true =>
          rw [List.mem_singleton.mp opened] at number_eq
          dsimp only at number_eq
          omega

end EpochBook

/-! ## Runs -/

/-- After an allocation for a node and an epoch was accepted, none is submitted for them again. -/
def PaymentSystem.AllocatesOnce (system : PaymentSystem) : Prop :=
  system.chain.allocations.Pairwise fun earlier later => earlier.accepted = true →
    ¬ (later.nodeId = earlier.nodeId ∧ later.epoch = earlier.epoch)

/-- When an epoch ends and some allocation is accepted, what follows finalizes the epoch and leaves
it. -/
def TickEnv.SettlesPayments (env : TickEnv) (system : PaymentSystem) : Prop :=
  (PaymentDaemon.dueEpoch env.now system.metrics).isSome →
    (∃ nodeId, (env.allocate nodeId).outcome.applied = true) →
      env.FinishesPayment (system.ledger.hasEpoch (system.metrics.currentEpoch + 1))

/-- A tick that pays ends its epoch completely. -/
def PaymentOp.SettlesPayments (system : PaymentSystem) : PaymentOp → Prop
  | .tick env => env.SettlesPayments system
  | .start _ | .others _ => True

/-- Epochs with an accepted allocation are finalized, and the daemon is not in one of them. -/
structure PaymentSystem.PaidUp (system : PaymentSystem) : Prop where
  once : system.AllocatesOnce
  unique : system.UniqueUptime
  known : system.book.current ≠ 0 → system.book.current ∈ system.book.numbers
  closed : ∀ allocation ∈ system.chain.allocations, allocation.accepted = true →
    system.book.Closed allocation.epoch
  left : system.book.current ≠ 0 → ∀ allocation ∈ system.chain.allocations,
    allocation.accepted = true → allocation.epoch ≠ system.book.current

/-- A step that pays the current epoch at most, and leaves it closed if it pays. -/
theorem PaymentSystem.PaidUp.step {before after : PaymentSystem} (paid : before.PaidUp)
    (unique : after.UniqueUptime)
    (known : after.book.current ≠ 0 → after.book.current ∈ after.book.numbers)
    (stays : ∀ number, before.book.Closed number → after.book.Closed number)
    (moves : after.book.current = 0 ∨
      (after.book.current = before.book.current ∧ before.book.current ≠ 0) ∨
        ¬ before.book.Closed after.book.current)
    {new : List Allocation}
    (allocations_eq : after.chain.allocations = before.chain.allocations ++ new)
    (distinct : (new.map Allocation.nodeId).Nodup)
    (submitted : ∀ allocation ∈ new, allocation.epoch = before.book.current)
    (inside : new ≠ [] → before.book.current ≠ 0)
    (leaves : ∀ allocation ∈ new, allocation.accepted = true →
      after.book.Closed before.book.current ∧ after.book.current ≠ before.book.current) :
    after.PaidUp := by
  refine ⟨?_, unique, known, fun allocation member accepted => ?_,
    fun nonzero allocation member accepted => ?_⟩
  · rw [PaymentSystem.AllocatesOnce, allocations_eq, List.pairwise_append]
    refine ⟨paid.once, ?_, fun earlier earlier_mem later later_mem accepted same => ?_⟩
    · have ids : new.Pairwise fun earlier later => earlier.nodeId ≠ later.nodeId :=
        List.pairwise_map.mp distinct
      exact ids.imp fun different _ same => different same.1.symm
    · have epoch_eq := submitted later later_mem
      exact paid.left (inside (List.ne_nil_of_mem later_mem)) earlier earlier_mem accepted
        (same.2.symm.trans epoch_eq)
  · rw [allocations_eq] at member
    rcases List.mem_append.mp member with earlier | paid_now
    · exact stays _ (paid.closed allocation earlier accepted)
    · rw [submitted allocation paid_now]
      exact (leaves allocation paid_now accepted).1
  · rw [allocations_eq] at member
    rcases List.mem_append.mp member with earlier | paid_now
    · rcases moves with outside | ⟨same, inside⟩ | open_epoch
      · exact absurd outside nonzero
      · rw [same]
        exact paid.left inside allocation earlier accepted
      · intro epoch_eq
        exact open_epoch (epoch_eq ▸ paid.closed allocation earlier accepted)
    · rw [submitted allocation paid_now]
      exact (leaves allocation paid_now accepted).2.symm

namespace PaymentSystem.PaidUp

open PaymentDaemon

variable {daemon : PaymentDaemon} {system : PaymentSystem}

/-- A step that pays nothing. -/
theorem unpaid (paid : system.PaidUp) {after : PaymentSystem} (unique : after.UniqueUptime)
    (known : after.book.current ≠ 0 → after.book.current ∈ after.book.numbers)
    (stays : ∀ number, system.book.Closed number → after.book.Closed number)
    (moves : after.book.current = 0 ∨
      (after.book.current = system.book.current ∧ system.book.current ≠ 0) ∨
        ¬ system.book.Closed after.book.current)
    (allocations_eq : after.chain.allocations = system.chain.allocations) : after.PaidUp := by
  have none_new : after.chain.allocations = system.chain.allocations ++ [] := by
    rw [allocations_eq, List.append_nil]
  exact paid.step unique known stays moves none_new List.nodup_nil (by simp)
    (fun some_new => absurd rfl some_new) (by simp)

/-- A step that pays nothing and leaves the book, or crashes. -/
theorem unchanged (paid : system.PaidUp) {after : PaymentSystem} (unique : after.UniqueUptime)
    (allocations_eq : after.chain.allocations = system.chain.allocations)
    (book_eq : after.book = system.book ∨ after.book = system.book.leave) : after.PaidUp := by
  refine paid.unpaid unique ?_ ?_ ?_ allocations_eq
  all_goals rcases book_eq with same | left
  · rw [same]
    exact paid.known
  · rw [left]
    exact fun nonzero => absurd rfl nonzero
  · rw [same]
    exact fun _ => id
  · rw [left]
    exact fun _ => id
  · rw [same]
    by_cases outside : system.book.current = 0
    · exact .inl outside
    · exact .inr (.inl ⟨rfl, outside⟩)
  · rw [left]
    exact .inl rfl

theorem tick (paid : system.PaidUp) (daemon : PaymentDaemon) (env : TickEnv)
    (settles : env.SettlesPayments system) : (daemon.tick env system).PaidUp := by
  have unique : (daemon.tick env system).UniqueUptime := paid.unique.apply (.tick env)
  have credited : Obeys (.keep fun system : PaymentSystem => (system.chain.allocations, system.book))
      (daemon.accumulateUptime env) := by
    refine accumulateUptime_keeps (fun _ _ => rfl) fun system metrics same _ => ?_
    simp [PaymentSystem.book, same]
  obtain ⟨allocations_eq, book_eq⟩ := Prod.mk.inj (credited system)
  rcases daemon.tick_cases env system with same | same | ⟨epoch, due, same⟩
  · rw [same]
    exact paid
  · refine paid.unchanged unique ?_ ?_
    · rw [← allocations_eq]
      rcases same with up | crashed
      · rw [up]
      · rw [crashed]
        rfl
    · rw [← book_eq]
      exact same.imp (congrArg _) (congrArg _)
  · obtain ⟨rfl, nonzero⟩ := dueEpoch_eq_some due
    have credited_unique : (daemon.accumulateUptime env system).1.UniqueUptime :=
      accumulateUptime_unique system paid.unique
    have pays := (daemon.endEpoch_pays env system.metrics.currentEpoch
      credited_unique).of_same_view allocations_eq book_eq
    have ends := daemon.endEpoch_book env system.metrics.currentEpoch
      (daemon.accumulateUptime env system).1
    rw [book_eq] at ends
    generalize daemon.endEpoch env system.metrics.currentEpoch
      (daemon.accumulateUptime env system).1 = result at pays ends same
    obtain ⟨new, nodeIds, paid_eq, distinct, submitted, finishes⟩ := pays
    obtain ⟨closes, opens, enters, ended, -, fresh, entered, -⟩ := ends
    have new_distinct := distinct.sublist submitted.once
    have stays : ∀ number, system.book.Closed number → result.1.book.Closed number := by
      intro number closed
      rw [ended]
      exact closed.afterEnd fresh
    have leaves : ∀ allocation ∈ new, allocation.accepted = true →
        result.1.book.Closed system.book.current ∧
          (result.2 = .error .crash ∨
            result.1.metrics.currentEpoch = system.metrics.currentEpoch + 1) := by
      intro allocation member accepted
      rcases finishes (settles (by rw [due]; rfl)
        ⟨allocation.nodeId, by rw [← submitted.accepted_eq allocation member, accepted]⟩) with
        none_new | ⟨⟨opens, enters, closed⟩, left⟩
      · rw [none_new] at member
        cases member
      · refine ⟨?_, left⟩
        rw [closed]
        exact EpochBook.closed_afterEnd (paid.known nonzero)
    rcases same with ⟨survived, same⟩ | ⟨crashed, same⟩
    · rw [same] at unique ⊢
      refine paid.step unique ?_ stays ?_ paid_eq new_distinct submitted.epoch_eq (fun _ => nonzero)
        fun allocation member accepted => ?_
      · rw [ended]
        exact EpochBook.current_mem_afterEnd paid.known entered
      · rw [ended]
        cases enters with
        | false => exact .inr (.inl ⟨rfl, nonzero⟩)
        | true => exact .inr (.inr fun closed => fresh (entered rfl) closed.1)
      · obtain ⟨closed, crashed | moved⟩ := leaves allocation member accepted
        · exact absurd crashed survived
        · refine ⟨closed, fun stayed => ?_⟩
          have current_eq : result.1.metrics.currentEpoch = system.metrics.currentEpoch := stayed
          omega
    · rw [same] at unique ⊢
      exact paid.step unique (fun inside => absurd rfl inside) stays (.inl rfl) paid_eq new_distinct
        submitted.epoch_eq (fun _ => nonzero) fun allocation member accepted =>
          ⟨(leaves allocation member accepted).1, nonzero.symm⟩

/-- A start enters an epoch that is open. -/
theorem start (paid : system.PaidUp) (env : StartEnv) : (start env system).PaidUp := by
  have ensures : Obeys (.preserve PaymentSystem.UniqueUptime) (ensureCurrentEpoch env) :=
    ensureCurrentEpoch_unique
  have unique : (ensureCurrentEpoch env system.boot).1.UniqueUptime :=
    ensures system.boot paid.unique
  have allocates : Obeys (.keep fun system : PaymentSystem => system.chain.allocations)
      (ensureCurrentEpoch env) := by
    refine Obeys.bind (obeys_readLedger _ _) fun found => ?_
    split
    · exact obeys_modify fun _ => rfl
    · exact openEpoch_keeps ⟨fun _ _ => rfl, fun _ _ => rfl⟩ (fun _ _ => rfl) _ _ _ _ _
  have allocations_eq : (ensureCurrentEpoch env system.boot).1.chain.allocations =
      system.chain.allocations := allocates system.boot
  have ensured : (ensureCurrentEpoch env system.boot).1.PaidUp := by
    rcases ensureCurrentEpoch_cases env system.boot with
      same | ⟨row, found, resumed⟩ | ⟨-, absent, enters, opened⟩
    · exact paid.unchanged unique allocations_eq (.inr same)
    · obtain ⟨member, -⟩ := head?_insertionSort_eq_some found
      obtain ⟨row_mem, is_open⟩ := List.mem_filter.mp member
      have entry_mem : (row.epoch, row.finalized) ∈ system.book.epochs :=
        List.mem_map.mpr ⟨row, row_mem, rfl⟩
      refine paid.unpaid unique ?_ ?_ (.inr (.inr ?_)) allocations_eq
      · rw [resumed]
        exact fun _ => List.mem_map.mpr ⟨_, entry_mem, rfl⟩
      · rw [resumed]
        exact fun _ => id
      · rw [resumed]
        intro closed
        have flag := closed.2 _ entry_mem rfl
        rw [show row.finalized = true from flag] at is_open
        cases is_open
    · refine paid.unpaid unique ?_ ?_ ?_ allocations_eq
      · rw [opened]
        exact EpochBook.current_mem_afterEnd (fun inside => absurd rfl inside) fun _ => rfl
      · rw [opened]
        intro number closed
        have booted : system.boot.book.Closed number := closed
        exact booted.afterEnd fun _ => absent
      · rw [opened]
        cases enters with
        | false => exact .inl rfl
        | true => exact .inr (.inr fun closed => absent closed.1)
  rw [PaymentDaemon.start]
  rcases settle_cases (ensureCurrentEpoch env system.boot) with up | crashed
  · rw [up]
    exact ensured
  · rw [crashed]
    exact ensured.unchanged ensured.unique rfl (.inr rfl)

theorem apply (paid : system.PaidUp) (op : PaymentOp) (settles : op.SettlesPayments system) :
    (op.apply daemon system).PaidUp := by
  cases op with
  | start env => exact paid.start env
  | tick env => exact paid.tick daemon env settles
  | others db =>
      have unique : ((PaymentOp.others db).apply daemon system).UniqueUptime := paid.unique.apply _
      exact paid.unchanged unique rfl (.inl rfl)

end PaymentSystem.PaidUp

/-- In every run whose ticks end an epoch completely once an allocation was accepted, an accepted
allocation is never submitted again. -/
theorem allocates_once_of_settlesPayments (daemon : PaymentDaemon) (system : PaymentSystem)
    (fresh : system.Fresh) (ops : List PaymentOp)
    (met : EveryStep (PaymentOp.apply daemon) PaymentOp.SettlesPayments system ops) :
    EveryState (PaymentOp.apply daemon) PaymentSystem.AllocatesOnce system ops := by
  have start : system.PaidUp := by
    refine ⟨?_, ?_, ?_, ?_, ?_⟩
    · simp [PaymentSystem.AllocatesOnce, fresh.allocations_eq]
    · simp [PaymentSystem.UniqueUptime, fresh.uptime_eq]
    · simp [PaymentSystem.book, fresh.metrics_eq, PaymentDaemonMetrics.default]
    · simp [fresh.allocations_eq]
    · simp [fresh.allocations_eq]
  exact (everyState_of_everyStep (fun _ op paid settles => paid.apply op settles) start met).mono
    fun _ paid => paid.once

section

open Reference

instance : DecidablePred PaymentSystem.AllocatesOnce := fun system =>
  inferInstanceAs (Decidable (system.chain.allocations.Pairwise _))

/-- The next epoch cannot be created at first, so the epoch is paid a second time. -/
theorem allocates_again_after_error :
    ¬ EveryState (PaymentOp.apply paymentDaemon) PaymentSystem.AllocatesOnce
      (freshPayments [paidNode])
      [.start (calmStart 0), .tick { calmTick week with createEpoch := .failed },
        .tick (calmTick week)] := by
  decide +kernel

/-- Two epochs that are paid and left, the first one by a crash. -/
theorem allocates_once_two_weeks :
    EveryStep (PaymentOp.apply paymentDaemon) PaymentOp.SettlesPayments (freshPayments [paidNode])
        [.start (calmStart 0),
          .tick { calmTick week with initializeEpoch := .crashed }, .start (calmStart week),
          .tick (calmTick (2 * week))] ∧
      EveryState (PaymentOp.apply paymentDaemon) PaymentSystem.AllocatesOnce
        (freshPayments [paidNode])
        [.start (calmStart 0),
          .tick { calmTick week with initializeEpoch := .crashed }, .start (calmStart week),
          .tick (calmTick (2 * week))] := by
  have met : EveryStep (PaymentOp.apply paymentDaemon) PaymentOp.SettlesPayments
      (freshPayments [paidNode])
      [.start (calmStart 0), .tick { calmTick week with initializeEpoch := .crashed },
        .start (calmStart week), .tick (calmTick (2 * week))] := by
    refine ⟨trivial, fun _ _ => ⟨fun _ => nofun, fun _ => rfl, nofun, .inr ⟨rfl, .inr ?_⟩⟩, trivial,
      fun _ _ => ⟨fun _ => nofun, fun _ => rfl, nofun, .inr ⟨rfl, .inr ?_⟩⟩, trivial⟩
    · exact ⟨rfl, by decide, .inr fun survives => survives rfl⟩
    · exact ⟨rfl, by decide +kernel, .inl rfl⟩
  exact ⟨met, allocates_once_of_settlesPayments paymentDaemon _ (freshPayments_fresh _) _ met⟩

end

end CyxCloud.Gateway
