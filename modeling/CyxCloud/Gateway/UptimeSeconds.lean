import CyxCloud.Gateway.PaymentEpochs

/-!
# Seconds of uptime

A tick adds its interval to the rows of the nodes that it reaches; nothing else that the daemon
does changes the seconds of a row.
-/

namespace CyxCloud.Metadata

open CyxCloud.Core Library

/-- The seconds that a row accounts for, online or not. -/
def NodeEpochUptime.seconds (row : NodeEpochUptime) : Nat := row.secondsOnline + row.secondsOffline

/-! ## Rows by key -/

/-- The seconds of the row with a key; without one there are none. -/
def secondsOf (rows : List NodeEpochUptime) (key : Uuid × Int) : Nat :=
  ((rows.find? fun row => decide (row.key = key)).map NodeEpochUptime.seconds).getD 0

section SecondsOf

variable {rows : List NodeEpochUptime} {key : Uuid × Int}

theorem secondsOf_append_fresh {new : List NodeEpochUptime}
    (fresh : ∀ row ∈ new, row.seconds = 0) :
    secondsOf (rows ++ new) key = secondsOf rows key := by
  unfold secondsOf
  rw [List.find?_append]
  cases rows.find? fun row => decide (row.key = key) with
  | some row => rfl
  | none =>
      rw [Option.none_or]
      cases found : new.find? fun row => decide (row.key = key) with
      | none => rfl
      | some row => exact fresh row (List.mem_of_find?_eq_some found)

/-- An update that keeps keys adds what it adds to the row with the key. -/
theorem secondsOf_map {update : NodeEpochUptime → NodeEpochUptime} {extra : Nat}
    (same_key : ∀ row, (update row).key = row.key)
    (adds : ∀ row : NodeEpochUptime, row.key = key → (update row).seconds = row.seconds + extra)
    (present : key ∈ rows.map NodeEpochUptime.key ∨ extra = 0) :
    secondsOf (rows.map update) key = secondsOf rows key + extra := by
  have wanted_eq : ((fun row : NodeEpochUptime => decide (row.key = key)) ∘ update) =
      fun row => decide (row.key = key) :=
    funext fun row => by simp [same_key]
  unfold secondsOf
  rw [List.find?_map, wanted_eq]
  cases found : rows.find? fun row => decide (row.key = key) with
  | some row => exact adds row (by simpa using List.find?_some found)
  | none =>
      rcases present with member | rfl
      · obtain ⟨row, row_mem, row_key⟩ := List.mem_map.mp member
        have missed := List.find?_eq_none.mp found row row_mem
        simp [row_key] at missed
      · rfl

/-- Deleting the rows of some nodes leaves a row as it is, or deletes it. -/
theorem secondsOf_filter_le (kept : Uuid → Bool) :
    secondsOf (rows.filter fun row => kept row.nodeId) key ≤ secondsOf rows key := by
  induction rows with
  | nil => exact le_rfl
  | cons row rest induction =>
      by_cases same : row.key = key
      · cases keeps : kept row.nodeId with
        | true => simp [secondsOf, keeps, same]
        | false =>
            have node_eq : row.nodeId = key.1 := congrArg Prod.fst same
            have gone : (rest.filter fun row => kept row.nodeId).find?
                (fun row => decide (row.key = key)) = none := by
              refine List.find?_eq_none.mpr fun other member other_key => ?_
              have other_eq : other.nodeId = key.1 :=
                congrArg Prod.fst (of_decide_eq_true other_key)
              have other_kept := (List.mem_filter.mp member).2
              rw [other_eq, ← node_eq, keeps] at other_kept
              cases other_kept
            simp [secondsOf, keeps, gone]
      · have rest_eq : secondsOf (row :: rest) key = secondsOf rest key := by
          simp [secondsOf, same]
        rw [rest_eq, List.filter_cons]
        split
        · have skipped : secondsOf (row :: rest.filter fun row => kept row.nodeId) key =
              secondsOf (rest.filter fun row => kept row.nodeId) key := by
            simp [secondsOf, same]
          rw [skipped]
          exact induction
        · exact induction

theorem secondsOf_of_mem {row : NodeEpochUptime} (unique : (rows.map NodeEpochUptime.key).Nodup)
    (member : row ∈ rows) : secondsOf rows row.key = row.seconds := by
  unfold secondsOf
  cases found : rows.find? fun other => decide (other.key = row.key) with
  | none =>
      have missed := List.find?_eq_none.mp found row member
      simp at missed
  | some other =>
      have same_key : other.key = row.key := by simpa using List.find?_some found
      rw [List.inj_on_of_nodup_map unique (List.mem_of_find?_eq_some found) member same_key]
      rfl

theorem exists_row_of_secondsOf_pos (positive : 0 < secondsOf rows key) :
    ∃ row ∈ rows, row.key = key := by
  unfold secondsOf at positive
  cases found : rows.find? fun row => decide (row.key = key) with
  | none =>
      rw [found] at positive
      exact absurd positive (lt_irrefl 0)
  | some row => exact ⟨row, List.mem_of_find?_eq_some found, by simpa using List.find?_some found⟩

end SecondsOf

namespace Ledger

variable (ledger : Ledger)

/-- The seconds that a node was given for an epoch. -/
def uptimeSeconds (nodeId : Uuid) (epoch : Int) : Nat :=
  secondsOf ledger.nodeEpochUptime (nodeId, epoch)

/-- When an epoch started. -/
def epochStartedAt (epoch : Int) : Option Time :=
  (ledger.paymentEpochs.find? fun row => row.epoch == epoch).map PaymentEpoch.startedAt

variable {ledger} {epoch newEpoch : Int} {now startedAt : Time}

theorem epochStartedAt_isSome_of_mem {row : PaymentEpoch} (member : row ∈ ledger.paymentEpochs) :
    (ledger.epochStartedAt row.epoch).isSome := by
  rw [epochStartedAt, Option.isSome_map, List.find?_isSome]
  exact ⟨row, member, by simp⟩

/-- Creating an epoch starts it, and no other. -/
theorem epochStartedAt_create {created : Ledger} {record : PaymentEpoch}
    (accepted : ledger.createPaymentEpoch newEpoch now = .ok (created, record)) :
    (∀ epoch startedAt, ledger.epochStartedAt epoch = some startedAt →
        created.epochStartedAt epoch = some startedAt) ∧
      (∀ epoch startedAt, created.epochStartedAt epoch = some startedAt →
        ledger.epochStartedAt epoch = some startedAt ∨ startedAt = now) ∧
      (created.epochStartedAt newEpoch).isSome := by
  unfold Ledger.createPaymentEpoch at accepted
  split at accepted
  · cases accepted
  · cases accepted
    refine ⟨fun epoch startedAt before => ?_, fun epoch startedAt after => ?_, ?_⟩
    · unfold epochStartedAt at before ⊢
      rw [List.find?_append]
      cases found : ledger.paymentEpochs.find? fun row => row.epoch == epoch with
      | none =>
          rw [found] at before
          cases before
      | some row =>
          rw [found] at before
          exact before
    · unfold epochStartedAt at after ⊢
      rw [List.find?_append] at after
      cases found : ledger.paymentEpochs.find? fun row => row.epoch == epoch with
      | none =>
          rw [found, Option.none_or] at after
          obtain ⟨row, row_found, rfl⟩ := Option.map_eq_some_iff.mp after
          have member := List.mem_of_find?_eq_some row_found
          rw [List.mem_singleton.mp member]
          exact .inr rfl
      | some row =>
          rw [found] at after
          exact .inl after
    · rw [epochStartedAt, Option.isSome_map, List.find?_isSome]
      exact ⟨.new newEpoch now, List.mem_append_right _ (List.mem_singleton_self _),
        by simp [PaymentEpoch.new]⟩

theorem epochStartedAt_finalize (totals : EpochTotals) :
    (ledger.finalizePaymentEpoch newEpoch now totals).epochStartedAt epoch =
      ledger.epochStartedAt epoch := by
  unfold epochStartedAt finalizePaymentEpoch
  have wanted_eq : ((fun row : PaymentEpoch => row.epoch == epoch) ∘ fun row : PaymentEpoch =>
      if row.epoch == newEpoch then
        { row with
          finalized := true
          endedAt := some now
          totalPoolAmount := some totals.totalPoolAmount
          nodesShare := some totals.nodesShare
          platformShare := some totals.platformShare
          communityShare := some totals.communityShare
          nodesPaid := totals.nodesPaid
          finalizeTxSignature := totals.txSignature }
      else
        row) = fun row => row.epoch == epoch := by
    funext row
    simp only [Function.comp_apply]
    split
    · rfl
    · rfl
  rw [List.find?_map, wanted_eq, Option.map_map]
  congr 1
  funext row
  simp only [Function.comp_apply]
  split
  · rfl
  · rfl

end Ledger

end CyxCloud.Metadata

namespace CyxCloud.Gateway

open CyxCloud.Core hiding Chunk
open Library Metadata Effect PaymentSystem

/-! ## Keeping account -/

/-- Nodes and rows are unique, and every epoch that is in use has a start. -/
structure PaymentSystem.Tracked (system : PaymentSystem) : Prop where
  nodes : (system.ledger.nodes.map Node.id).Nodup
  rows : (system.ledger.nodeEpochUptime.map NodeEpochUptime.key).Nodup
  started : ∀ row ∈ system.ledger.nodeEpochUptime, (system.ledger.epochStartedAt row.epoch).isSome
  current : system.metrics.currentEpoch ≠ 0 →
    (system.ledger.epochStartedAt system.metrics.currentEpoch).isSome

/-- Seconds were added to some rows; an epoch that was not there starts now. -/
structure Credits (now : Time) (added : Uuid × Int → Nat) (before after : PaymentSystem) : Prop where
  nodes_eq : after.ledger.nodes = before.ledger.nodes
  seconds_eq : ∀ key, secondsOf after.ledger.nodeEpochUptime key =
    secondsOf before.ledger.nodeEpochUptime key + added key
  keeps_start : ∀ epoch startedAt, before.ledger.epochStartedAt epoch = some startedAt →
    after.ledger.epochStartedAt epoch = some startedAt
  starts_now : ∀ epoch startedAt, after.ledger.epochStartedAt epoch = some startedAt →
    before.ledger.epochStartedAt epoch = some startedAt ∨ startedAt = now
  tracked : before.Tracked → after.Tracked

namespace Credits

variable {now : Time} {added : Uuid × Int → Nat} {before between after : PaymentSystem}

theorem trans {more : Uuid × Int → Nat} (first : Credits now added before between)
    (second : Credits now more between after) :
    Credits now (fun key => added key + more key) before after where
  nodes_eq := second.nodes_eq.trans first.nodes_eq
  seconds_eq key := by rw [second.seconds_eq, first.seconds_eq, Nat.add_assoc]
  keeps_start epoch startedAt known :=
    second.keeps_start epoch startedAt (first.keeps_start epoch startedAt known)
  starts_now epoch startedAt known := by
    rcases second.starts_now epoch startedAt known with known | same
    · exact first.starts_now epoch startedAt known
    · exact .inr same
  tracked := second.tracked ∘ first.tracked

/-- What adds no seconds may come first. -/
theorem after_none (first : Credits now (fun _ => 0) before between)
    (second : Credits now added between after) : Credits now added before after := by
  have both := first.trans second
  simp only [Nat.zero_add] at both
  exact both

/-- What adds no seconds may come last. -/
theorem then_none (first : Credits now added before between)
    (second : Credits now (fun _ => 0) between after) : Credits now added before after :=
  first.trans second

theorem isSome (credits : Credits now added before after) {epoch : Int}
    (known : (before.ledger.epochStartedAt epoch).isSome) :
    (after.ledger.epochStartedAt epoch).isSome := by
  obtain ⟨startedAt, start_eq⟩ := Option.isSome_iff_exists.mp known
  rw [credits.keeps_start epoch startedAt start_eq]
  rfl

/-- What the daemon knows of uptime. -/
def view (system : PaymentSystem) : List Node × List NodeEpochUptime × List PaymentEpoch × Int :=
  (system.ledger.nodes, system.ledger.nodeEpochUptime, system.ledger.paymentEpochs,
    system.metrics.currentEpoch)

/-- The process may enter another epoch, which has started. -/
theorem of_tables (nodes_eq : after.ledger.nodes = before.ledger.nodes)
    (rows_eq : after.ledger.nodeEpochUptime = before.ledger.nodeEpochUptime)
    (epochs_eq : after.ledger.paymentEpochs = before.ledger.paymentEpochs)
    (current : before.Tracked → after.metrics.currentEpoch ≠ 0 →
      (before.ledger.epochStartedAt after.metrics.currentEpoch).isSome) :
    Credits now (fun _ => 0) before after := by
  have start_eq : after.ledger.epochStartedAt = before.ledger.epochStartedAt := by
    funext epoch
    rw [Ledger.epochStartedAt, epochs_eq]
    rfl
  refine ⟨nodes_eq, fun key => by rw [rows_eq, Nat.add_zero],
    fun epoch startedAt known => by rw [start_eq, known],
    fun epoch startedAt known => .inl (by rw [← start_eq, known]), fun tracked => ?_⟩
  refine ⟨by rw [nodes_eq]; exact tracked.nodes, by rw [rows_eq]; exact tracked.rows, ?_, ?_⟩
  · rw [rows_eq, start_eq]
    exact tracked.started
  · rw [start_eq]
    exact current tracked

theorem of_view (same : view after = view before) : Credits now (fun _ => 0) before after := by
  obtain ⟨nodes_eq, rows_eq, epochs_eq, current_eq⟩ :
      after.ledger.nodes = before.ledger.nodes ∧
        after.ledger.nodeEpochUptime = before.ledger.nodeEpochUptime ∧
        after.ledger.paymentEpochs = before.ledger.paymentEpochs ∧
        after.metrics.currentEpoch = before.metrics.currentEpoch := by
    simpa [view] using same
  refine of_tables nodes_eq rows_eq epochs_eq fun tracked => ?_
  rw [current_eq]
  exact tracked.current

/-- An update that keeps keys adds seconds to the rows that it reaches, and to no others. -/
theorem of_update {condition : NodeEpochUptime → Bool} {update : NodeEpochUptime → NodeEpochUptime}
    (same_key : ∀ row, (update row).key = row.key)
    (adds : ∀ row, condition row = true → (update row).seconds = row.seconds + added row.key)
    (skips : ∀ row, condition row = false → added row.key = 0)
    (present : ∀ key, key ∈ before.ledger.nodeEpochUptime.map NodeEpochUptime.key ∨ added key = 0) :
    Credits now added before (before.setLedger (before.ledger.updateUptime condition update)) := by
  have row_key : ∀ row, (if condition row then update row else row).key = row.key := by
    intro row
    split
    · exact same_key row
    · rfl
  have keys_eq : (before.ledger.updateUptime condition update).nodeEpochUptime.map
      NodeEpochUptime.key = before.ledger.nodeEpochUptime.map NodeEpochUptime.key := by
    simp only [Ledger.updateUptime, List.map_map]
    exact List.map_congr_left fun row _ => row_key row
  refine ⟨rfl, fun key => ?_, fun _ _ known => known, fun _ _ known => .inl known, fun tracked => ?_⟩
  · refine secondsOf_map row_key (fun row is_key => ?_) (present key)
    rw [← is_key]
    split
    · rename_i holds
      exact adds row holds
    · rename_i missed
      rw [skips row (by simpa using missed), Nat.add_zero]
  · refine ⟨tracked.nodes, ?_, fun row member => ?_, tracked.current⟩
    · change ((before.ledger.updateUptime condition update).nodeEpochUptime.map
        NodeEpochUptime.key).Nodup
      rw [keys_eq]
      exact tracked.rows
    · obtain ⟨old, old_mem, rfl⟩ := List.mem_map.mp member
      have same_epoch : (if condition old then update old else old).epoch = old.epoch :=
        congrArg Prod.snd (row_key old)
      change (before.ledger.epochStartedAt _).isSome
      rw [same_epoch]
      exact tracked.started old old_mem

/-- New rows have no seconds yet, a key of their own, and an epoch that has started. -/
theorem of_append (before : PaymentSystem) {new : List NodeEpochUptime}
    (fresh : ∀ row ∈ new, row.seconds = 0)
    (unique : (before.ledger.nodeEpochUptime.map NodeEpochUptime.key).Nodup →
      ((before.ledger.nodeEpochUptime ++ new).map NodeEpochUptime.key).Nodup)
    (known : ∀ row ∈ new, (before.ledger.epochStartedAt row.epoch).isSome) :
    Credits now (fun _ => 0) before (before.setLedger
      { before.ledger with nodeEpochUptime := before.ledger.nodeEpochUptime ++ new }) where
  nodes_eq := rfl
  seconds_eq _ := secondsOf_append_fresh fresh
  keeps_start _ _ start_eq := start_eq
  starts_now _ _ start_eq := .inl start_eq
  tracked tracked :=
    { nodes := tracked.nodes
      rows := unique tracked.rows
      started := fun row member =>
        (List.mem_append.mp member).elim (tracked.started row) (known row)
      current := tracked.current }

/-- Creating an epoch starts it. -/
theorem of_create {ledger : Ledger} {record : PaymentEpoch} {newEpoch : Int}
    (accepted : before.ledger.createPaymentEpoch newEpoch now = .ok (ledger, record)) :
    Credits now (fun _ => 0) before (before.setLedger ledger) := by
  obtain ⟨keeps, starts, -⟩ := Ledger.epochStartedAt_create accepted
  have isSome : ∀ {epoch}, (before.ledger.epochStartedAt epoch).isSome →
      (ledger.epochStartedAt epoch).isSome := by
    intro epoch known
    obtain ⟨startedAt, start_eq⟩ := Option.isSome_iff_exists.mp known
    rw [keeps epoch startedAt start_eq]
    rfl
  unfold Ledger.createPaymentEpoch at accepted
  split at accepted
  · cases accepted
  · cases accepted
    exact ⟨rfl, fun _ => rfl, keeps, starts, fun tracked => ⟨tracked.nodes, tracked.rows,
      fun row member => isSome (tracked.started row member),
      fun nonzero => isSome (tracked.current nonzero)⟩⟩

theorem of_finalize (epoch : Int) (dbNow : Time) (totals : Ledger.EpochTotals) :
    Credits now (fun _ => 0) before
      (before.setLedger (before.ledger.finalizePaymentEpoch epoch dbNow totals)) := by
  have start_eq : ∀ number,
      (before.ledger.finalizePaymentEpoch epoch dbNow totals).epochStartedAt number =
        before.ledger.epochStartedAt number :=
    fun number => Ledger.epochStartedAt_finalize totals
  refine ⟨rfl, fun _ => rfl, fun number _ known => (start_eq number).trans known,
    fun number _ known => .inl ((start_eq number).symm.trans known), fun tracked => ?_⟩
  refine ⟨tracked.nodes, tracked.rows, fun row member => ?_, fun nonzero => ?_⟩
  · exact (start_eq row.epoch).symm ▸ tracked.started row member
  · exact (start_eq before.metrics.currentEpoch).symm ▸ tracked.current nonzero

end Credits

/-- The law of everything but crediting uptime: no seconds are added. -/
def keepsSeconds (now : Time) : Law PaymentSystem where
  allows := Credits now fun _ => 0
  refl _ := Credits.of_view rfl
  trans first second := first.trans second

namespace PaymentDaemon

variable {daemon : PaymentDaemon} {env : TickEnv} {epoch : Int} {now : Time}

/-! ## Parts that add no seconds -/

theorem obeys_keepsSeconds {α : Type} {program : Effect PaymentSystem α}
    (keeps : Obeys (.keep Credits.view) program) : Obeys (keepsSeconds now) program :=
  keeps.of_keeps fun _ _ same => Credits.of_view same

theorem openEpoch_keepsSeconds (createEpoch initializeEpoch : Outcome) (gatewayNow : Time)
    (newEpoch : Int) (finalized : Nat) :
    Obeys (keepsSeconds now)
      (openEpoch createEpoch initializeEpoch now gatewayNow newEpoch finalized) := by
  intro system
  unfold openEpoch
  rcases tryLedger_cases createEpoch (fun ledger => ledger.createPaymentEpoch newEpoch now) system
    with ⟨ledger, record, accepted, -, ended⟩ | ⟨halt, stopped, -⟩
  · have created : Credits now (fun _ => 0) system (system.setLedger ledger) :=
      Credits.of_create accepted
    have known : (ledger.epochStartedAt newEpoch).isSome :=
      (Ledger.epochStartedAt_create accepted).2.2
    rcases ended with ⟨-, ended⟩ | ⟨-, halt, ended⟩
    · rw [bind_run_ok ended]
      have initialized : Credits now (fun _ => 0) (system.setLedger ledger)
          (system.setLedger (ledger.initializeEpochForAllNodes newEpoch gatewayNow)) := by
        refine Credits.of_append (system.setLedger ledger) (fun row member => ?_)
          (fun unique => ?_) fun row member => ?_
        · obtain ⟨node, -, rfl⟩ := List.mem_map.mp ((acceptedRows_sublist _ _).subset member)
          rfl
        · rw [List.map_append]
          exact nodup_append_acceptedRows unique _
        · obtain ⟨node, -, rfl⟩ := List.mem_map.mp ((acceptedRows_sublist _ _).subset member)
          exact known
      rcases updateLedger_cases initializeEpoch (fun ledger =>
          ledger.initializeEpochForAllNodes newEpoch gatewayNow) (system.setLedger ledger) with
        ⟨-, ran⟩ | ⟨-, halt, ⟨-, ran⟩ | ⟨-, ran⟩⟩
      · rw [bind_run_ok ran]
        refine (keepsSeconds now).trans ((keepsSeconds now).trans created initialized) ?_
        exact Credits.of_tables rfl rfl rfl fun _ _ => known
      · rw [bind_run_error ran]
        exact (keepsSeconds now).trans created initialized
      · rw [bind_run_error ran]
        exact created
    · rw [bind_run_error ended]
      exact created
  · rw [bind_run_error stopped]
    exact Credits.of_view rfl

theorem payNodes_keepsSeconds (payments : Payments) (weights : List NodeWeight) :
    Obeys (keepsSeconds now) (daemon.payNodes env epoch payments weights) :=
  payNodes_obeys fun _ _ => payNode_obeys (fun _ _ => Credits.of_view rfl) fun _ _ _ =>
    Credits.of_update (fun _ => rfl) (fun _ _ => rfl) (fun _ _ => rfl) fun _ => .inr rfl

theorem endEpoch_keepsSeconds (daemon : PaymentDaemon) (env : TickEnv) (epoch : Int) :
    Obeys (keepsSeconds env.dbNow) (daemon.endEpoch env epoch) := by
  refine Obeys.bind (obeys_updateLedger fun _ => ?_) fun _ => Obeys.bind ?_ fun _ =>
    Obeys.bind ?_ fun _ => openEpoch_keepsSeconds _ _ _ _ _
  · exact Credits.of_update (fun _ => rfl) (fun _ _ => rfl) (fun _ _ => rfl) fun _ => .inr rfl
  · refine obeys_keepsSeconds (checkAndSlashNodes_keeps ⟨fun _ _ => rfl, fun _ _ => rfl⟩ ?_)
    intro system metrics epoch_eq _
    simp [Credits.view, epoch_eq]
  · refine (obeys_keepsSeconds preparePayments_keeps).bind fun prepared => ?_
    split
    · exact obeys_pure ()
    · rename_i payments
      refine (payNodes_keepsSeconds payments payments.weights).bind fun paid => ?_
      refine (obeys_keepsSeconds (finalizeOnChain_keeps fun _ _ => rfl)).bind fun _ =>
        Obeys.bind (obeys_updateLedger fun _ => ?_) fun _ => obeys_modify fun _ => ?_
      · exact Credits.of_finalize _ _ _
      · exact Credits.of_view rfl

theorem crash_keepsSeconds (system : PaymentSystem) :
    (keepsSeconds now).allows system system.crash :=
  Credits.of_tables rfl rfl rfl fun _ nonzero => absurd rfl nonzero

/-- A start enters an epoch of the ledger, or opens the first one. -/
theorem start_keepsSeconds (env : StartEnv) (system : PaymentSystem) :
    (keepsSeconds env.dbNow).allows system (start env system) := by
  refine start_obeys (Credits.of_tables rfl rfl rfl fun _ nonzero => absurd rfl nonzero) ?_
    crash_keepsSeconds
  intro booted
  by_cases answered : env.currentEpoch = .done
  · cases found : booted.ledger.getCurrentPaymentEpoch with
    | some row =>
        rw [ensureCurrentEpoch_of_some env answered found]
        refine Credits.of_tables rfl rfl rfl fun _ _ => ?_
        have member := (head?_insertionSort_eq_some found).1
        exact Ledger.epochStartedAt_isSome_of_mem (List.mem_of_mem_filter member)
    | none =>
        rw [ensureCurrentEpoch_of_none env answered found]
        exact openEpoch_keepsSeconds _ _ _ _ _ booted
  · obtain ⟨halt, answer_eq⟩ := Outcome.exists_halt answered
    have read : readLedger env.currentEpoch Ledger.getCurrentPaymentEpoch booted =
        (booted, .error halt) := by
      simp [readLedger, query, answer_eq, Except.map]
    rw [ensureCurrentEpoch, bind_run_error read]
    exact Credits.of_view rfl

end PaymentDaemon

end CyxCloud.Gateway
