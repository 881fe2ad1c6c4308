import CyxCloud.Gateway.Rewards

/-!
# Records of payments

The row of a node is marked as paid after the allocation was tried: without a usable wallet nothing
is submitted, and a submission may fail, but the row is marked all the same.  Where every mark that
takes effect follows an accepted allocation, the ledger claims no payment that was not made.
-/

namespace CyxCloud.Gateway

open CyxCloud.Core hiding Chunk
open Library Metadata Effect PaymentSystem

/-- The chain accepted an allocation of the amount, as the column holds it. -/
def Chain.Paid (chain : Chain) (nodeId : Uuid) (epoch amount : Int) : Prop :=
  ∃ allocation ∈ chain.allocations, allocation.accepted = true ∧ allocation.nodeId = nodeId ∧
    allocation.epoch = epoch ∧ asI64 allocation.amount = amount

/-- Every payment that the ledger claims was made. -/
def PaymentSystem.PaymentsMade (system : PaymentSystem) : Prop :=
  ∀ row ∈ system.ledger.nodeEpochUptime, row.paymentAllocated = true →
    ∀ amount, row.paymentAmount = some amount → system.chain.Paid row.nodeId row.epoch amount

instance (chain : Chain) (nodeId : Uuid) (epoch amount : Int) :
    Decidable (chain.Paid nodeId epoch amount) :=
  inferInstanceAs (Decidable (∃ allocation ∈ chain.allocations, _))

instance : DecidablePred PaymentSystem.PaymentsMade := fun system =>
  inferInstanceAs (Decidable (∀ row ∈ system.ledger.nodeEpochUptime, row.paymentAllocated = true →
    ∀ amount ∈ row.paymentAmount, system.chain.Paid row.nodeId row.epoch amount))

/-- When an epoch ends, a mark that takes effect belongs to a node with a usable wallet whose
allocation is accepted. -/
def TickEnv.BacksPayments (daemon : PaymentDaemon) (env : TickEnv) (system : PaymentSystem) :
    Prop :=
  (PaymentDaemon.dueEpoch env.now system.metrics).isSome → daemon.blockchain = true →
    ∀ node ∈ system.ledger.nodes, (env.markPayment node.id).applied = true →
      (node.walletAddress.bind daemon.parsePubkey).isSome ∧
        (env.allocate node.id).outcome.applied = true

/-- A tick marks only what the chain accepted. -/
def PaymentOp.BacksPayments (daemon : PaymentDaemon) (system : PaymentSystem) : PaymentOp → Prop
  | .tick env => env.BacksPayments daemon system
  | .start _ | .others _ => True

namespace PaymentSystem.PaymentsMade

variable {system : PaymentSystem}

/-- More allocations back as much as before. -/
theorem of_subset (made : system.PaymentsMade) {after : PaymentSystem}
    (rows_eq : after.ledger.nodeEpochUptime = system.ledger.nodeEpochUptime)
    (more : system.chain.allocations ⊆ after.chain.allocations) : after.PaymentsMade := by
  intro row member marked amount amount_eq
  rw [rows_eq] at member
  obtain ⟨allocation, allocation_mem, backed⟩ := made row member marked amount amount_eq
  exact ⟨allocation, more allocation_mem, backed⟩

theorem of_same (made : system.PaymentsMade) {after : PaymentSystem}
    (same : (after.ledger.nodeEpochUptime, after.chain.allocations) =
      (system.ledger.nodeEpochUptime, system.chain.allocations)) : after.PaymentsMade := by
  obtain ⟨rows_eq, allocations_eq⟩ := Prod.mk.inj same
  refine made.of_subset rows_eq ?_
  rw [allocations_eq]
  exact List.Subset.refl _

/-- Rows that are not marked claim nothing. -/
theorem append (made : system.PaymentsMade) {rows : List NodeEpochUptime}
    (unmarked : ∀ row ∈ rows, row.paymentAllocated = false) :
    (system.setLedger
      { system.ledger with
        nodeEpochUptime := system.ledger.nodeEpochUptime ++ rows }).PaymentsMade := by
  intro row member marked
  rcases List.mem_append.mp member with earlier | new
  · exact made row earlier marked
  · rw [unmarked row new] at marked
    cases marked

theorem updateUptime (made : system.PaymentsMade) {condition : NodeEpochUptime → Bool}
    {update : NodeEpochUptime → NodeEpochUptime}
    (backed : ∀ row, condition row = true → (update row).SamePayment row ∨
      ((update row).key = row.key ∧ ∀ amount, (update row).paymentAmount = some amount →
        system.chain.Paid row.nodeId row.epoch amount)) :
    (system.setLedger (system.ledger.updateUptime condition update)).PaymentsMade := by
  intro row member marked amount amount_eq
  obtain ⟨old, old_mem, rfl⟩ := List.mem_map.mp member
  by_cases updated : condition old = true
  · rw [if_pos updated] at marked amount_eq ⊢
    rcases backed old updated with same | ⟨key_eq, paid⟩
    · obtain ⟨node_eq, epoch_eq⟩ := Prod.mk.inj same.key_eq
      rw [node_eq, epoch_eq]
      exact made old old_mem (same.paymentAllocated_eq ▸ marked) amount
        (same.paymentAmount_eq ▸ amount_eq)
    · obtain ⟨node_eq, epoch_eq⟩ := Prod.mk.inj key_eq
      rw [node_eq, epoch_eq]
      exact paid amount amount_eq
  · rw [if_neg updated] at marked amount_eq ⊢
    exact made old old_mem marked amount amount_eq

end PaymentSystem.PaymentsMade

namespace PaymentDaemon

variable {daemon : PaymentDaemon} {env : TickEnv} {epoch : Int}

theorem accumulateUptime_made :
    Obeys (.preserve PaymentSystem.PaymentsMade) (daemon.accumulateUptime env) := by
  refine accumulateUptime_obeys (fun system nodeId epoch epochStart _ made => ?_)
    (fun system condition update same made => ?_) fun _ _ _ _ => id
  · exact made.append fun row member => by rw [List.mem_singleton.mp member]; rfl
  · exact made.updateUptime fun row _ => .inl (same row)

theorem openEpoch_made (createEpoch initializeEpoch : Outcome) (dbNow now : Time)
    (finalized : Nat) :
    Obeys (.preserve PaymentSystem.PaymentsMade)
      (openEpoch createEpoch initializeEpoch dbNow now epoch finalized) := by
  refine Obeys.bind (obeys_tryLedger fun reached ledger record accepted made => ?_) fun record =>
    Obeys.bind (obeys_updateLedger fun reached made => ?_) fun _ => obeys_modify fun _ => id
  · unfold Ledger.createPaymentEpoch at accepted
    split at accepted
    · cases accepted
    · cases accepted
      exact made
  · refine made.append fun row member => ?_
    obtain ⟨node, -, rfl⟩ := List.mem_map.mp ((acceptedRows_sublist _ _).subset member)
    rfl

/-- A submission changes the chain only, and a node with a key whose allocation is accepted is paid
on it. -/
theorem allocateOnChain_run (daemon : PaymentDaemon) (env : TickEnv) (epoch : Int)
    (weight : NodeWeight) (reward : Nat) (system : PaymentSystem) :
    (daemon.allocateOnChain env epoch weight reward system).1.ledger = system.ledger ∧
      system.chain.allocations ⊆
        (daemon.allocateOnChain env epoch weight reward system).1.chain.allocations ∧
      ((daemon.owner weight.walletAddress).isSome →
        (env.allocate weight.nodeId).outcome.applied = true →
          (daemon.allocateOnChain env epoch weight reward system).1.chain.Paid weight.nodeId epoch
            (asI64 reward)) := by
  rw [allocateOnChain]
  cases daemon.owner weight.walletAddress with
  | none =>
      refine ⟨rfl, List.Subset.refl _, fun usable => ?_⟩
      cases usable
  | some owner =>
      dsimp only [submit]
      by_cases crashed : (env.allocate weight.nodeId).outcome = .crashed
      · rw [if_pos crashed]
        refine ⟨rfl, List.Subset.refl _, fun _ applied => ?_⟩
        rw [crashed] at applied
        cases applied
      · rw [if_neg crashed]
        refine ⟨rfl, List.subset_append_left _ _, fun _ applied => ?_⟩
        exact ⟨_, List.mem_append_right _ (List.mem_singleton_self _), applied, rfl, rfl, rfl⟩

/-- Paying a node whose mark follows an accepted allocation. -/
theorem payNode_made {payments : Payments} {weight : NodeWeight}
    (backed : (env.markPayment weight.nodeId).applied = true →
      (daemon.owner weight.walletAddress).isSome ∧
        (env.allocate weight.nodeId).outcome.applied = true) :
    Obeys (.preserve PaymentSystem.PaymentsMade) (daemon.payNode env epoch payments weight) := by
  rw [payNode]
  split
  · exact obeys_pure 0
  · intro system made
    obtain ⟨ledger_eq, more, paid⟩ :=
      daemon.allocateOnChain_run env epoch weight (payments.reward weight) system
    rcases bind_cases (daemon.allocateOnChain env epoch weight (payments.reward weight)) _ system with
      ⟨reached, halt, ran, result⟩ | ⟨reached, txSignature, ran, result⟩
    · rw [ran] at ledger_eq more
      rw [result]
      exact made.of_subset (congrArg Ledger.nodeEpochUptime ledger_eq) more
    · rw [ran] at ledger_eq more paid
      rw [result]
      have reached_made : reached.PaymentsMade :=
        made.of_subset (congrArg Ledger.nodeEpochUptime ledger_eq) more
      have marked : (env.markPayment weight.nodeId).applied = true → (reached.setLedger
          (reached.ledger.markPaymentAllocated weight.nodeId epoch (asI64 (payments.reward weight))
            txSignature)).PaymentsMade := by
        intro applied
        obtain ⟨usable, accepted⟩ := backed applied
        refine reached_made.updateUptime fun row selected => .inr ⟨rfl, fun amount amount_eq => ?_⟩
        obtain ⟨node_eq, epoch_eq⟩ := Bool.and_eq_true_iff.mp selected
        rw [beq_iff_eq.mp node_eq, beq_iff_eq.mp epoch_eq, ← Option.some.inj amount_eq]
        exact paid usable accepted
      rcases updateLedger_cases (env.markPayment weight.nodeId) (fun ledger =>
          ledger.markPaymentAllocated weight.nodeId epoch (asI64 (payments.reward weight))
            txSignature) reached with ⟨is_done, ran⟩ | ⟨-, halt, ⟨applied, ran⟩ | ⟨-, ran⟩⟩
      · rw [bind_run_ok ran]
        exact marked (by rw [is_done]; rfl)
      · rw [bind_run_error ran]
        exact marked applied
      · rw [bind_run_error ran]
        exact reached_made

/-- Payments to nodes whose marks follow accepted allocations. -/
theorem finalizeAndPayEpoch_made (enabled : daemon.config.enableBlockchain = true)
    {nodes : List Node}
    (backed : daemon.blockchain = true → ∀ node ∈ nodes, (env.markPayment node.id).applied = true →
      (node.walletAddress.bind daemon.parsePubkey).isSome ∧
        (env.allocate node.id).outcome.applied = true) :
    Obeys (.preserve fun system : PaymentSystem =>
      system.ledger.nodes = nodes ∧ system.PaymentsMade) (daemon.finalizeAndPayEpoch env epoch) := by
  have nodes_keeps : Obeys (.keep fun system : PaymentSystem => system.ledger.nodes)
      (daemon.finalizeAndPayEpoch env epoch) :=
    finalizeAndPayEpoch_keeps (fun _ _ => rfl) (fun _ _ => rfl) (fun _ _ => rfl)
      ⟨fun _ _ => rfl, fun _ _ => rfl⟩
  rintro system ⟨nodes_eq, made⟩
  refine ⟨(nodes_keeps system).trans nodes_eq, ?_⟩
  rw [finalizeAndPayEpoch]
  have same := daemon.preparePayments_fst env epoch system
  rcases bind_cases (daemon.preparePayments env epoch) _ system with
    ⟨reached, halt, ran, result⟩ | ⟨reached, prepared, ran, result⟩
  · rw [ran] at same
    rw [result, show reached = system from same]
    exact made
  · rw [ran] at same
    obtain rfl : reached = system := same
    rw [result]
    cases prepared with
    | none => exact made
    | some payments =>
        obtain ⟨-, -, known, client⟩ := preparePayments_run ran
        have pays : Obeys (.preserve PaymentSystem.PaymentsMade)
            (daemon.payNodes env epoch payments payments.weights) := by
          refine payNodes_obeys fun weight member => payNode_made fun applied => ?_
          obtain ⟨node, node_mem, id_eq, wallet_eq⟩ := known weight member
          rw [id_eq] at applied ⊢
          obtain ⟨usable, accepted⟩ := backed (client enabled) node (nodes_eq ▸ node_mem) applied
          refine ⟨?_, accepted⟩
          rw [owner, enabled, client enabled, wallet_eq]
          exact usable
        have closes : ∀ paid, Obeys (.preserve PaymentSystem.PaymentsMade)
            (daemon.closeEpoch env epoch payments paid) := by
          intro paid
          have keeps : Obeys (.keep fun system : PaymentSystem =>
              (system.ledger.nodeEpochUptime, system.chain.allocations))
                (daemon.closeEpoch env epoch payments paid) :=
            closeEpoch_keeps (fun _ _ => rfl) ⟨fun _ _ => rfl, fun _ _ => rfl⟩ payments paid
          exact keeps.of_keeps fun before after same made => made.of_same same
        exact pays.bind closes reached made

/-- Ending an epoch whose marks follow accepted allocations. -/
theorem endEpoch_made (enabled : daemon.config.enableBlockchain = true) {nodes : List Node}
    (backed : daemon.blockchain = true → ∀ node ∈ nodes, (env.markPayment node.id).applied = true →
      (node.walletAddress.bind daemon.parsePubkey).isSome ∧
        (env.allocate node.id).outcome.applied = true) :
    Obeys (.preserve fun system : PaymentSystem =>
      system.ledger.nodes = nodes ∧ system.PaymentsMade) (daemon.endEpoch env epoch) := by
  have slashes : Obeys (.preserve PaymentSystem.PaymentsMade)
      (daemon.checkAndSlashNodes env epoch) := by
    have keeps : Obeys (.keep fun system : PaymentSystem =>
        (system.ledger.nodeEpochUptime, system.chain.allocations))
          (daemon.checkAndSlashNodes env epoch) :=
      checkAndSlashNodes_keeps ⟨fun _ _ => rfl, fun _ _ => rfl⟩ fun _ _ _ _ => rfl
    exact keeps.of_keeps fun before after same made => made.of_same same
  refine Obeys.bind (Obeys.and_keeps (obeys_updateLedger fun reached made => ?_)
      (endUptime_keeps fun _ _ => rfl) nodes) fun _ =>
    (slashes.and_keeps (checkAndSlashNodes_keeps ⟨fun _ _ => rfl, fun _ _ => rfl⟩
      fun _ _ _ _ => rfl) nodes).bind fun _ =>
        (finalizeAndPayEpoch_made enabled backed).bind fun _ =>
          (openEpoch_made _ _ _ _ _).and_keeps
            (openEpoch_keeps ⟨fun _ _ => rfl, fun _ _ => rfl⟩ (fun _ _ => rfl) _ _ _ _ _) nodes
  exact made.updateUptime fun row _ => .inl ⟨rfl, rfl, rfl⟩

end PaymentDaemon

/-! ## Runs -/

open PaymentDaemon in
theorem PaymentSystem.PaymentsMade.apply {daemon : PaymentDaemon} {system : PaymentSystem}
    (enabled : daemon.config.enableBlockchain = true) (made : system.PaymentsMade) (op : PaymentOp)
    (backs : op.BacksPayments daemon system) : (op.apply daemon system).PaymentsMade := by
  cases op with
  | start env =>
      have ensures : Obeys (.preserve PaymentSystem.PaymentsMade) (ensureCurrentEpoch env) := by
        refine Obeys.bind (obeys_readLedger _ _) fun found => ?_
        split
        · exact obeys_modify fun _ => id
        · exact openEpoch_made _ _ _ _ _
      have started : (Law.preserve PaymentSystem.PaymentsMade).allows system (start env system) :=
        start_obeys id ensures fun _ => id
      exact started made
  | tick env =>
      have credits : Obeys (.preserve fun reached : PaymentSystem =>
          reached.ledger.nodes = system.ledger.nodes ∧ reached.PaymentsMade)
            (daemon.accumulateUptime env) :=
        accumulateUptime_made.and_keeps
          (accumulateUptime_keeps (fun _ _ => rfl) fun _ _ _ _ => rfl) system.ledger.nodes
      have ticked : (Law.preserve fun reached : PaymentSystem =>
          reached.ledger.nodes = system.ledger.nodes ∧ reached.PaymentsMade).allows system
            (daemon.tick env system) :=
        tick_obeys credits
          (fun epoch due => endEpoch_made enabled (backs (by rw [due]; rfl)) _) fun _ => id
      exact (ticked ⟨rfl, made⟩).2
  | others db =>
      intro row member
      exact made row (List.mem_of_mem_filter member)

/-- With transactions enabled, in every run whose marks follow accepted allocations, the ledger
claims no payment that was not made. -/
theorem payments_made_of_backsPayments (daemon : PaymentDaemon)
    (enabled : daemon.config.enableBlockchain = true) (system : PaymentSystem)
    (fresh : system.Fresh) (ops : List PaymentOp)
    (met : EveryStep (PaymentOp.apply daemon) (PaymentOp.BacksPayments daemon) system ops) :
    EveryState (PaymentOp.apply daemon) PaymentSystem.PaymentsMade system ops := by
  have start : system.PaymentsMade := by simp [PaymentSystem.PaymentsMade, fresh.uptime_eq]
  exact everyState_of_everyStep (fun _ op made backs => made.apply enabled op backs) start met

section

open Reference

/-- A node without a wallet gets nothing on the chain, but its row is marked as paid. -/
theorem payment_claimed_without_wallet :
    ¬ EveryState (PaymentOp.apply paymentDaemon) PaymentSystem.PaymentsMade
      (freshPayments [{ paidNode with walletAddress := none }])
      [.start (calmStart 0), .tick (calmTick week)] := by
  decide +kernel

/-- The chain accepts the allocation although the daemon sees an error. -/
theorem payments_made_one_week :
    paymentDaemon.config.enableBlockchain = true ∧
      EveryState (PaymentOp.apply paymentDaemon) PaymentSystem.PaymentsMade
        (freshPayments [paidNode])
        [.start (calmStart 0),
          .tick { calmTick week with allocate := fun _ => ⟨.lost, "lost"⟩ }] := by
  refine ⟨rfl, payments_made_of_backsPayments paymentDaemon rfl _ (freshPayments_fresh _) _
    ⟨trivial, fun _ _ node member _ => ?_, trivial⟩⟩
  obtain rfl : node = paidNode := List.mem_singleton.mp member
  exact ⟨by decide, rfl⟩

end

end CyxCloud.Gateway
