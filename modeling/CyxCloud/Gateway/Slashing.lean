import CyxCloud.Gateway.Rewards

/-!
# Slashes

Slashing comes first when an epoch ends, and an epoch whose end fails later is ended again, slashes
included.  If whatever follows a slash opens the next epoch, and no epoch is closed without the
next one, the daemon never comes back to an epoch in which it slashed.
-/

namespace CyxCloud.Gateway

open CyxCloud.Core hiding Chunk
open Library Metadata Effect PaymentSystem

/-- What a slash is for. -/
def Slash.key (slash : Slash) : Uuid × Int × SlashReason :=
  (slash.nodeId, slash.epoch, slash.reason)

/-- What a recorded slash is for. -/
def slashingKey (event : SlashingEvent) : Uuid × Int × SlashReason :=
  (event.nodeId, event.epoch, event.reason)

/-- No slash was accepted twice, and none recorded twice. -/
structure PaymentSystem.SlashesOnce (system : PaymentSystem) : Prop where
  accepted_once : ((system.chain.slashes.filter Slash.accepted).map Slash.key).Nodup
  recorded_once : (system.ledger.nodeSlashingEvents.map slashingKey).Nodup

instance : DecidablePred PaymentSystem.SlashesOnce := fun system =>
  decidable_of_iff
    (((system.chain.slashes.filter Slash.accepted).map Slash.key).Nodup ∧
      (system.ledger.nodeSlashingEvents.map slashingKey).Nodup)
    ⟨fun both => ⟨both.1, both.2⟩, fun once => ⟨once.accepted_once, once.recorded_once⟩⟩

/-! ## What a tick slashes -/

/-- The slashes that the end of an epoch submits and records: at most one of each for a node,
accepted as the chain decides. -/
structure Slashed (env : TickEnv) (epoch : Int) (nodeIds : List Uuid) (slashes : List Slash)
    (events : List SlashingEvent) : Prop where
  submitted_once : (slashes.map Slash.nodeId).Sublist nodeIds
  recorded_once : (events.map SlashingEvent.nodeId).Sublist nodeIds
  submitted_epoch : ∀ slash ∈ slashes, slash.epoch = epoch
  recorded_epoch : ∀ event ∈ events, event.epoch = epoch
  accepted_eq : ∀ slash ∈ slashes, slash.accepted = (env.slash slash.nodeId).outcome.applied
  recorded : ∀ event ∈ events, (env.recordSlash event.nodeId).applied = true

namespace Slashed

variable {env : TickEnv} {epoch : Int} {nodeIds others : List Uuid} {slashes later : List Slash}
  {events more : List SlashingEvent}

theorem nil : Slashed env epoch nodeIds [] [] :=
  ⟨List.nil_sublist _, List.nil_sublist _, by simp, by simp, by simp, by simp⟩

theorem append (first : Slashed env epoch nodeIds slashes events)
    (second : Slashed env epoch others later more) :
    Slashed env epoch (nodeIds ++ others) (slashes ++ later) (events ++ more) := by
  refine ⟨?_, ?_, ?_, ?_, ?_, ?_⟩
  · rw [List.map_append]
    exact first.submitted_once.append second.submitted_once
  · rw [List.map_append]
    exact first.recorded_once.append second.recorded_once
  · exact List.forall_mem_append.mpr ⟨first.submitted_epoch, second.submitted_epoch⟩
  · exact List.forall_mem_append.mpr ⟨first.recorded_epoch, second.recorded_epoch⟩
  · exact List.forall_mem_append.mpr ⟨first.accepted_eq, second.accepted_eq⟩
  · exact List.forall_mem_append.mpr ⟨first.recorded, second.recorded⟩

end Slashed

/-- A program adds slashes of an epoch for some nodes. -/
def AddsSlashes (env : TickEnv) (epoch : Int) (nodeIds : List Uuid) (before after : PaymentSystem) :
    Prop :=
  ∃ slashes events, after.chain.slashes = before.chain.slashes ++ slashes ∧
    after.ledger.nodeSlashingEvents = before.ledger.nodeSlashingEvents ++ events ∧
    Slashed env epoch nodeIds slashes events

/-- The slashes of a system, submitted and recorded. -/
def PaymentSystem.slashesAndEvents (system : PaymentSystem) : List Slash × List SlashingEvent :=
  (system.chain.slashes, system.ledger.nodeSlashingEvents)

section AddsSlashes

variable {env : TickEnv} {epoch : Int} {nodeIds others : List Uuid}
  {before between after : PaymentSystem}

theorem AddsSlashes.of_same (same : after.slashesAndEvents = before.slashesAndEvents) :
    AddsSlashes env epoch nodeIds before after := by
  obtain ⟨slashes_eq, events_eq⟩ := Prod.mk.inj same
  exact ⟨[], [], by simp [slashes_eq], by simp [events_eq], .nil⟩

theorem AddsSlashes.congr {earlier later : PaymentSystem}
    (adds : AddsSlashes env epoch nodeIds before after)
    (before_eq : before.slashesAndEvents = earlier.slashesAndEvents)
    (after_eq : later.slashesAndEvents = after.slashesAndEvents) :
    AddsSlashes env epoch nodeIds earlier later := by
  obtain ⟨slashes, events, slashes_eq, events_eq, slashed⟩ := adds
  obtain ⟨before_slashes, before_events⟩ := Prod.mk.inj before_eq
  obtain ⟨after_slashes, after_events⟩ := Prod.mk.inj after_eq
  refine ⟨slashes, events, ?_, ?_, slashed⟩
  · rw [after_slashes, slashes_eq, before_slashes]
  · rw [after_events, events_eq, before_events]

theorem AddsSlashes.trans (first : AddsSlashes env epoch nodeIds before between)
    (second : AddsSlashes env epoch others between after) :
    AddsSlashes env epoch (nodeIds ++ others) before after := by
  obtain ⟨slashes, events, slashes_eq, events_eq, slashed⟩ := first
  obtain ⟨later, more, later_eq, more_eq, later_slashed⟩ := second
  refine ⟨slashes ++ later, events ++ more, ?_, ?_, slashed.append later_slashed⟩
  · rw [later_eq, slashes_eq, List.append_assoc]
  · rw [more_eq, events_eq, List.append_assoc]

end AddsSlashes

namespace PaymentDaemon

variable {daemon : PaymentDaemon} {env : TickEnv} {epoch : Int}

/-- A slash on the chain changes nothing but the slashes there. -/
theorem slashOnChain_run (daemon : PaymentDaemon) (env : TickEnv) (epoch : Int) (node : Node)
    (system : PaymentSystem) :
    (daemon.slashOnChain env epoch node system).1.ledger = system.ledger ∧
      ∃ slashes, (daemon.slashOnChain env epoch node system).1.chain.slashes =
          system.chain.slashes ++ slashes ∧ Slashed env epoch [node.id] slashes [] := by
  rw [slashOnChain]
  cases daemon.owner node.walletAddress with
  | none => exact ⟨rfl, [], by simp, .nil⟩
  | some owner =>
      dsimp only [submit]
      by_cases crashed : (env.slash node.id).outcome = .crashed
      · rw [if_pos crashed]
        exact ⟨rfl, [], by simp, .nil⟩
      · rw [if_neg crashed]
        exact ⟨rfl, _, rfl, by simp, by simp, by simp, by simp, by simp, by simp⟩

theorem slashAndRecord_adds (daemon : PaymentDaemon) (env : TickEnv) (epoch : Int)
    (uptime : NodeEpochUptime) {node : Node} (id_eq : node.id = uptime.nodeId)
    (system : PaymentSystem) :
    AddsSlashes env epoch [uptime.nodeId] system
      (daemon.slashAndRecord env epoch uptime node system).1 := by
  obtain ⟨ledger_eq, slashes, slashes_eq, slashed⟩ :=
    daemon.slashOnChain_run env epoch node system
  rw [id_eq] at slashed
  rw [slashAndRecord]
  rcases bind_cases (daemon.slashOnChain env epoch node) _ system with
    ⟨onChain, halt, ran, result⟩ | ⟨onChain, txSignature, ran, result⟩
  · rw [ran] at ledger_eq slashes_eq
    rw [result]
    refine ⟨slashes, [], slashes_eq, ?_, slashed⟩
    rw [List.append_nil]
    exact congrArg Ledger.nodeSlashingEvents ledger_eq
  rw [ran] at ledger_eq slashes_eq
  rw [result]
  rcases tryLedger_cases (env.recordSlash uptime.nodeId) (fun ledger =>
      ledger.recordSlashingEvent (daemon.slashingEvent epoch uptime txSignature)) onChain with
    ⟨ledger, value, accepted, applied, ended⟩ | ⟨halt, stopped, -⟩
  · have recorded : ledger.nodeSlashingEvents = system.ledger.nodeSlashingEvents ++
        [daemon.slashingEvent epoch uptime txSignature] := by
      unfold Ledger.recordSlashingEvent at accepted
      split at accepted
      · cases accepted
        rw [← show onChain.ledger = system.ledger from ledger_eq]
      · cases accepted
    have adds : AddsSlashes env epoch [uptime.nodeId] system (onChain.setLedger ledger) :=
      ⟨slashes, _, slashes_eq, recorded, slashed.submitted_once, by simp [slashingEvent],
        slashed.submitted_epoch, by simp [slashingEvent], slashed.accepted_eq,
        by simpa [slashingEvent] using applied⟩
    rcases ended with ⟨-, ended⟩ | ⟨-, halt, ended⟩
    · rw [bind_run_ok ended]
      exact adds
    · rw [bind_run_error ended]
      exact adds
  · rw [bind_run_error stopped]
    refine ⟨slashes, [], slashes_eq, ?_, slashed⟩
    rw [List.append_nil]
    exact congrArg Ledger.nodeSlashingEvents ledger_eq

theorem slashNode_adds (daemon : PaymentDaemon) (env : TickEnv) (epoch : Int)
    (uptime : NodeEpochUptime) (system : PaymentSystem) :
    AddsSlashes env epoch [uptime.nodeId] system (daemon.slashNode env epoch uptime system).1 := by
  rw [slashNode]
  rcases bind_cases (readLedger (env.slashedNode uptime.nodeId) fun ledger =>
      ledger.getNode uptime.nodeId) _ system with
    ⟨reached, halt, ran, result⟩ | ⟨reached, found, ran, result⟩
  · rw [result, show reached = system from congrArg Prod.fst ran.symm]
    exact .of_same rfl
  obtain ⟨rfl, found_eq⟩ := readLedger_eq_ok ran
  rw [result]
  cases found with
  | none => exact .of_same rfl
  | some node =>
      obtain ⟨-, id_eq⟩ := Database.getNode_eq_some found_eq.symm
      exact daemon.slashAndRecord_adds env epoch uptime id_eq reached

theorem slashNodes_adds (daemon : PaymentDaemon) (env : TickEnv) (epoch : Int)
    (rows : List NodeEpochUptime) (system : PaymentSystem) :
    AddsSlashes env epoch (rows.map NodeEpochUptime.nodeId) system
      (Effect.each rows (daemon.slashNode env epoch) system).1 := by
  induction rows generalizing system with
  | nil => exact .of_same rfl
  | cons row rest induction =>
      have first := daemon.slashNode_adds env epoch row system
      rw [Effect.each]
      rcases bind_cases (daemon.slashNode env epoch row)
          (fun _ => Effect.each rest (daemon.slashNode env epoch)) system with
        ⟨reached, halt, ran, result⟩ | ⟨reached, done, ran, result⟩
      · rw [ran] at first
        rw [result]
        exact first.trans (.of_same rfl)
      · rw [ran] at first
        rw [result]
        exact first.trans (induction reached)

end PaymentDaemon

/-! ## Epochs that end completely -/

/-- The next epoch is created, and the daemon enters it or crashes. -/
def TickEnv.OpensEpoch (env : TickEnv) (present : Bool) : Prop :=
  present = false ∧ (env.createEpoch = .crashedAfter ∨
    (env.createEpoch = .done ∧ (env.initializeEpoch = .done ∨ ¬ env.initializeEpoch.survives)))

/-- What follows a slash ends the epoch and opens the next one. -/
structure TickEnv.FinishesSlashing (env : TickEnv) (present : Bool) : Prop where
  slashedNode_eq : ∀ nodeId, env.slashedNode nodeId = .done
  slash_survives : ∀ nodeId, (env.slash nodeId).outcome.survives
  recordSlash_eq : ∀ nodeId, env.recordSlash nodeId = .done
  epochUptime_eq : env.epochUptime = .done
  weighedNode_eq : ∀ nodeId, env.weighedNode nodeId = .done
  epochRewards_survives : env.epochRewards.survives
  allocate_survives : ∀ nodeId, (env.allocate nodeId).outcome.survives
  markPayment_eq : ∀ nodeId, env.markPayment nodeId = .done
  finalizeChain_survives : env.finalizeChain.outcome.survives
  finalizeEpoch_eq : env.finalizeEpoch = .done
  opens : env.OpensEpoch present

namespace PaymentDaemon

variable {daemon : PaymentDaemon} {env : TickEnv} {epoch : Int}

theorem slashNode_completes {present : Bool} (finishes : env.FinishesSlashing present)
    (uptime : NodeEpochUptime) : Completes (daemon.slashNode env epoch uptime) := by
  intro system
  have read : readLedger (env.slashedNode uptime.nodeId) (fun ledger =>
      ledger.getNode uptime.nodeId) system = (system, .ok (system.ledger.getNode uptime.nodeId)) := by
    rw [finishes.slashedNode_eq]
    rfl
  rw [slashNode, bind_run_ok read]
  cases found : system.ledger.getNode uptime.nodeId with
  | none => exact ⟨system, (), rfl⟩
  | some node =>
      obtain ⟨node_mem, id_eq⟩ := Database.getNode_eq_some found
      have slashes : Completes (daemon.slashOnChain env epoch node) := by
        unfold slashOnChain
        split
        · exact completes_pure none
        · exact completes_submit (finishes.slash_survives _) _
      obtain ⟨onChain, txSignature, ran⟩ := slashes system
      obtain ⟨ledger_eq, -⟩ := daemon.slashOnChain_run env epoch node system
      rw [ran] at ledger_eq
      have present : onChain.ledger.hasNode uptime.nodeId = true := by
        rw [show onChain.ledger = system.ledger from ledger_eq, Database.hasNode]
        exact List.any_eq_true.mpr ⟨node, node_mem, beq_iff_eq.mpr id_eq⟩
      have recorded : onChain.ledger.recordSlashingEvent
          (daemon.slashingEvent epoch uptime txSignature) =
            .ok ({ onChain.ledger with
                   nodeSlashingEvents := onChain.ledger.nodeSlashingEvents ++
                     [daemon.slashingEvent epoch uptime txSignature] }, ()) :=
        if_pos present
      dsimp only
      rw [slashAndRecord, bind_run_ok ran, finishes.recordSlash_eq,
        bind_run_ok (tryLedger_done recorded)]
      exact ⟨_, (), rfl⟩

theorem finalizeAndPayEpoch_completes {present : Bool} (finishes : env.FinishesSlashing present) :
    Completes (daemon.finalizeAndPayEpoch env epoch) := by
  refine (preparePayments_completes finishes.epochUptime_eq finishes.weighedNode_eq
    finishes.epochRewards_survives).bind fun prepared => ?_
  split
  · exact completes_pure ()
  · rename_i payments
    exact (payNodes_completes finishes.allocate_survives finishes.markPayment_eq payments
      payments.weights).bind fun paid =>
        (finalizeOnChain_completes finishes.finalizeChain_survives).bind fun finalizeTx =>
          (completes_update finishes.finalizeEpoch_eq _).bind fun _ => completes_modify _

/-- A program that starts in an epoch slashes it at most once: it adds at most one slash for each
node, and if everything that follows a slash goes well, it opens the next epoch and leaves. -/
def SlashesOnceIn (env : TickEnv) (epoch : Int) (before : PaymentSystem)
    (result : PaymentSystem × Except Halt Unit) : Prop :=
  ∃ nodeIds, nodeIds.Nodup ∧ AddsSlashes env epoch nodeIds before result.1 ∧
    (env.FinishesSlashing (before.ledger.hasEpoch (epoch + 1)) →
      result.1.slashesAndEvents = before.slashesAndEvents ∨
        ((∃ closes enters, result.1.book = before.book.afterEnd epoch closes true enters) ∧
          (result.2 = .error .crash ∨ result.1.metrics.currentEpoch = epoch + 1)))

theorem SlashesOnceIn.of_same {before : PaymentSystem} {result : PaymentSystem × Except Halt Unit}
    (same : result.1.slashesAndEvents = before.slashesAndEvents) :
    SlashesOnceIn env epoch before result :=
  ⟨[], List.nodup_nil, .of_same same, fun _ => .inl same⟩

theorem SlashesOnceIn.of_same_view {before earlier : PaymentSystem}
    {result : PaymentSystem × Except Halt Unit} (slashes : SlashesOnceIn env epoch before result)
    (same : before.slashesAndEvents = earlier.slashesAndEvents)
    (book_eq : before.book = earlier.book) : SlashesOnceIn env epoch earlier result := by
  have next_eq : before.ledger.hasEpoch (epoch + 1) = earlier.ledger.hasEpoch (epoch + 1) := by
    rw [Bool.eq_iff_iff, hasEpoch_iff, hasEpoch_iff, book_eq]
  obtain ⟨nodeIds, distinct, adds, finishes⟩ := slashes
  rw [same, book_eq, next_eq] at finishes
  exact ⟨nodeIds, distinct, adds.congr same rfl, finishes⟩

theorem leavesEpoch_of_opensEpoch {present : Bool} (opens : env.OpensEpoch present) :
    env.LeavesEpoch present := by
  obtain ⟨absent, crashes | ⟨created, initialized⟩⟩ := opens
  · left
    rw [crashes]
    exact fun survives => survives rfl
  · exact .inr ⟨created, absent, initialized⟩

/-- Starting an epoch that is to be created opens it and leaves the last one. -/
theorem startEpoch_opens {system : PaymentSystem}
    (opens : env.OpensEpoch (system.ledger.hasEpoch (epoch + 1))) :
    (∃ enters, (startEpoch env (epoch + 1) system).1.book =
        system.book.afterEnd epoch false true enters) ∧
      ((startEpoch env (epoch + 1) system).2 = .error .crash ∨
        (startEpoch env (epoch + 1) system).1.metrics.currentEpoch = epoch + 1) := by
  refine ⟨?_, startEpoch_leaves (leavesEpoch_of_opensEpoch opens)⟩
  obtain ⟨opened, enters, book_eq, -, -, created, -⟩ := openEpoch_book env.createEpoch
    env.initializeEpoch env.dbNow env.now epoch 1 system
  have applied : env.createEpoch.applied = true := by
    rcases opens.2 with crashes | ⟨created, -⟩
    · rw [crashes]
      rfl
    · rw [created]
      rfl
  rcases created applied with rfl | present
  · exact ⟨enters, book_eq⟩
  · have absent := opens.1
    rw [hasEpoch_iff.mpr present] at absent
    cases absent

/-- Whatever follows the slashes leaves them alone. -/
theorem payAndStart_slashes : Obeys (.keep PaymentSystem.slashesAndEvents)
    (daemon.finalizeAndPayEpoch env epoch >>= fun _ => startEpoch env (epoch + 1)) :=
  Obeys.bind (finalizeAndPayEpoch_keeps (fun _ _ => rfl) (fun _ _ => rfl) (fun _ _ => rfl)
    ⟨fun _ _ => rfl, fun _ _ => rfl⟩) fun _ =>
      openEpoch_keeps ⟨fun _ _ => rfl, fun _ _ => rfl⟩ (fun _ _ => rfl) _ _ _ _ _

/-- Whatever follows the slashes opens the next epoch if all goes well. -/
theorem payAndStart_opens {system : PaymentSystem}
    (finishes : env.FinishesSlashing (system.ledger.hasEpoch (epoch + 1))) :
    (∃ closes enters, ((daemon.finalizeAndPayEpoch env epoch >>= fun _ =>
        startEpoch env (epoch + 1)) system).1.book =
          system.book.afterEnd epoch closes true enters) ∧
      (((daemon.finalizeAndPayEpoch env epoch >>= fun _ =>
          startEpoch env (epoch + 1)) system).2 = .error .crash ∨
        ((daemon.finalizeAndPayEpoch env epoch >>= fun _ =>
          startEpoch env (epoch + 1)) system).1.metrics.currentEpoch = epoch + 1) := by
  have completes : Completes (daemon.finalizeAndPayEpoch env epoch) :=
    finalizeAndPayEpoch_completes finishes
  obtain ⟨paid, done, ran⟩ := completes system
  rw [bind_run_ok ran]
  have closed := daemon.finalizeAndPayEpoch_book env epoch system
  rw [ran] at closed
  have paid_book : ∃ closes, paid.book = system.book.afterEnd epoch closes false false := by
    rcases closed with same | ⟨-, closed, -⟩
    · exact ⟨false, same.trans (by simp [EpochBook.afterEnd])⟩
    · exact ⟨true, closed⟩
  obtain ⟨closes, paid_book⟩ := paid_book
  have next_eq : paid.ledger.hasEpoch (epoch + 1) = system.ledger.hasEpoch (epoch + 1) := by
    rw [Bool.eq_iff_iff, hasEpoch_iff, hasEpoch_iff, paid_book, EpochBook.numbers_afterEnd]
    simp
  obtain ⟨⟨enters, opened⟩, left⟩ := startEpoch_opens (next_eq ▸ finishes.opens)
  refine ⟨⟨closes, enters, ?_⟩, left⟩
  rw [opened, paid_book]
  cases closes with
  | false => simp [EpochBook.afterEnd]
  | true => simp [EpochBook.afterEnd]

/-- The slashes of an epoch; they only stop early if a statement fails. -/
theorem checkAndSlashNodes_adds (daemon : PaymentDaemon) (env : TickEnv) (epoch : Int)
    {system : PaymentSystem} (unique : system.UniqueUptime) :
    ∃ nodeIds, nodeIds.Nodup ∧
      AddsSlashes env epoch nodeIds system (daemon.checkAndSlashNodes env epoch system).1 ∧
      ∀ present, env.FinishesSlashing present →
        ((daemon.checkAndSlashNodes env epoch system).1.slashesAndEvents =
            system.slashesAndEvents ∨
          (daemon.checkAndSlashNodes env epoch system).2 = .ok ()) := by
  rw [checkAndSlashNodes]
  rcases bind_cases (readLedger env.downtime fun ledger =>
      ledger.getNodesWithExtendedDowntime env.downtimeOrder epoch
        daemon.config.extendedDowntimeThreshold) _ system with
    ⟨reached, halt, ran, result⟩ | ⟨reached, rows, ran, result⟩
  · rw [result, show reached = system from congrArg Prod.fst ran.symm]
    exact ⟨[], List.nodup_nil, .of_same rfl, fun _ _ => .inl rfl⟩
  · obtain ⟨rfl, rfl⟩ := readLedger_eq_ok ran
    rw [result]
    refine ⟨_, nodup_nodeIds unique epoch (env.downtimeOrder.arrange_perm _) fun row selected => ?_,
      daemon.slashNodes_adds env epoch _ reached, fun present finishes => .inr ?_⟩
    · exact beq_iff_eq.mp (Bool.and_eq_true_iff.mp selected).1
    · have completes : Completes (Effect.each (reached.ledger.getNodesWithExtendedDowntime
          env.downtimeOrder epoch daemon.config.extendedDowntimeThreshold)
            (daemon.slashNode env epoch)) :=
        completes_each fun row _ => slashNode_completes finishes row
      obtain ⟨slashed, done, ended⟩ := completes reached
      rw [ended]

theorem endEpoch_slashes (daemon : PaymentDaemon) (env : TickEnv) (epoch : Int)
    {system : PaymentSystem} (unique : system.UniqueUptime) :
    SlashesOnceIn env epoch system (daemon.endEpoch env epoch system) := by
  rw [endEpoch]
  have ends : Obeys (.keep fun system : PaymentSystem => (system.slashesAndEvents, system.book))
      (updateLedger env.endUptime fun ledger => ledger.endEpochUptime epoch env.dbNow) :=
    endUptime_keeps fun _ _ => rfl
  rcases ends.bind_cases _ system with ⟨ended, halt, same, result⟩ | ⟨ended, done, same, ran, result⟩
  · rw [result]
    exact .of_same (Prod.mk.inj same).1
  have ended_unique : ended.UniqueUptime := by
    have kept := endUptime_unique env epoch system unique
    rw [ran] at kept
    exact kept
  rw [result]
  refine SlashesOnceIn.of_same_view ?_ (Prod.mk.inj same).1 (Prod.mk.inj same).2
  obtain ⟨nodeIds, distinct, adds, stops⟩ :=
    daemon.checkAndSlashNodes_adds env epoch ended_unique
  have book_keeps : Obeys (.keep PaymentSystem.book) (daemon.checkAndSlashNodes env epoch) :=
    checkAndSlashNodes_keeps book_ignoresSlashing book_ignoresCounters
  have slashed_book := book_keeps ended
  rcases bind_cases (daemon.checkAndSlashNodes env epoch) (fun _ =>
      daemon.finalizeAndPayEpoch env epoch >>= fun _ => startEpoch env (epoch + 1)) ended with
    ⟨slashed, halt, ran, result⟩ | ⟨slashed, done, ran, result⟩
  · rw [ran] at adds stops
    rw [result]
    refine ⟨nodeIds, distinct, adds, fun finishes => .inl ?_⟩
    rcases stops _ finishes with same | ended
    · exact same
    · cases ended
  · rw [ran] at adds
    have slashed_book : slashed.book = ended.book := by
      rw [ran] at slashed_book
      exact slashed_book
    rw [result]
    refine ⟨nodeIds, distinct, adds.congr rfl (payAndStart_slashes slashed), fun finishes => .inr ?_⟩
    have next_eq : slashed.ledger.hasEpoch (epoch + 1) = ended.ledger.hasEpoch (epoch + 1) := by
      rw [Bool.eq_iff_iff, hasEpoch_iff, hasEpoch_iff, slashed_book]
    rw [← slashed_book]
    exact payAndStart_opens (next_eq ▸ finishes)

end PaymentDaemon

/-! ## Runs -/

/-- When an epoch ends and some slash takes effect, what follows opens the next epoch. -/
def TickEnv.SettlesSlashing (env : TickEnv) (system : PaymentSystem) : Prop :=
  (PaymentDaemon.dueEpoch env.now system.metrics).isSome →
    (∃ nodeId, (env.slash nodeId).outcome.applied = true ∨
      (env.recordSlash nodeId).applied = true) →
        env.FinishesSlashing (system.ledger.hasEpoch (system.metrics.currentEpoch + 1))

/-- A tick closes no epoch without the next one, and one that slashes ends its epoch completely. -/
def PaymentOp.SettlesSlashing (system : PaymentSystem) : PaymentOp → Prop
  | .tick env => env.OpensNext system ∧ env.SettlesSlashing system
  | .start _ | .others _ => True

/-- The daemon will not come back to the epoch. -/
def EpochBook.Behind (book : EpochBook) (number : Int) : Prop :=
  number < book.greatest ∧ (book.current ≠ 0 → number < book.current)

theorem EpochBook.Behind.advance {before after : EpochBook} {number : Int}
    (behind : before.Behind number) (advances : before.Advances after) : after.Behind number := by
  refine ⟨behind.1.trans_le (EpochBook.greatest_mono advances.grows.subset), fun inside => ?_⟩
  rcases advances.forward inside with ⟨was_inside, onward⟩ | beyond
  · exact (behind.2 was_inside).trans_le onward
  · exact behind.1.trans_le beyond

/-- The epochs with slashes lie behind the daemon. -/
structure PaymentSystem.SlashedBehind (system : PaymentSystem) : Prop where
  once : system.SlashesOnce
  unique : system.UniqueUptime
  sound : system.book.Sound
  slashes_behind : ∀ slash ∈ system.chain.slashes, slash.accepted = true →
    system.book.Behind slash.epoch
  events_behind : ∀ event ∈ system.ledger.nodeSlashingEvents, system.book.Behind event.epoch

/-- Keys of one epoch are fresh if all others lie behind it. -/
theorem nodup_append_epoch {α : Type} {key : α → Uuid × Int × SlashReason} {old new : List α}
    (epoch : Int) (distinct : (old.map key).Nodup)
    (nodes : (new.map fun entry => (key entry).1).Nodup)
    (earlier : ∀ entry ∈ old, (key entry).2.1 < epoch)
    (now : ∀ entry ∈ new, (key entry).2.1 = epoch) : ((old ++ new).map key).Nodup := by
  rw [List.map_append, List.nodup_append]
  refine ⟨distinct, ?_, ?_⟩
  · refine List.Nodup.of_map Prod.fst ?_
    rwa [List.map_map]
  · intro _ old_mem _ new_mem same
    obtain ⟨first, first_mem, rfl⟩ := List.mem_map.mp old_mem
    obtain ⟨second, second_mem, rfl⟩ := List.mem_map.mp new_mem
    have below := earlier first first_mem
    rw [same, now second second_mem] at below
    exact lt_irrefl _ below

namespace PaymentSystem.SlashedBehind

open PaymentDaemon

variable {daemon : PaymentDaemon} {system : PaymentSystem}

/-- A step that adds no slashes. -/
theorem unslashed (behind : system.SlashedBehind) {after : PaymentSystem}
    (unique : after.UniqueUptime) (advances : system.book.Advances after.book)
    (slashes_eq : after.chain.slashes = system.chain.slashes)
    (fewer : after.ledger.nodeSlashingEvents.Sublist system.ledger.nodeSlashingEvents) :
    after.SlashedBehind := by
  refine ⟨⟨?_, ?_⟩, unique, advances.sound, fun slash member accepted => ?_,
    fun event member => ?_⟩
  · rw [slashes_eq]
    exact behind.once.accepted_once
  · exact behind.once.recorded_once.sublist (fewer.map _)
  · rw [slashes_eq] at member
    exact (behind.slashes_behind slash member accepted).advance advances
  · exact (behind.events_behind event (fewer.subset member)).advance advances

/-- A step that slashes the current epoch and leaves it behind. -/
theorem slash (behind : system.SlashedBehind) {after : PaymentSystem}
    (unique : after.UniqueUptime) (advances : system.book.Advances after.book)
    {env : TickEnv} {nodeIds : List Uuid} (inside : system.book.current ≠ 0)
    (distinct : nodeIds.Nodup)
    (adds : AddsSlashes env system.book.current nodeIds system after)
    (leaves : (∃ nodeId, (env.slash nodeId).outcome.applied = true ∨
        (env.recordSlash nodeId).applied = true) →
      after.slashesAndEvents = system.slashesAndEvents ∨
        after.book.Behind system.book.current) : after.SlashedBehind := by
  obtain ⟨slashes, events, slashes_eq, events_eq, slashed⟩ := adds
  have left_slash : ∀ slash ∈ slashes, slash.accepted = true →
      after.book.Behind system.book.current := by
    intro slash member accepted
    rw [slashed.accepted_eq slash member] at accepted
    rcases leaves ⟨slash.nodeId, .inl accepted⟩ with same | left
    · have none_new := slashes_eq.symm.trans (Prod.mk.inj same).1
      rw [List.append_right_eq_self.mp none_new] at member
      cases member
    · exact left
  have left_event : ∀ event ∈ events, after.book.Behind system.book.current := by
    intro event member
    rcases leaves ⟨event.nodeId, .inr (slashed.recorded event member)⟩ with same | left
    · have none_new := events_eq.symm.trans (Prod.mk.inj same).2
      rw [List.append_right_eq_self.mp none_new] at member
      cases member
    · exact left
  refine ⟨⟨?_, ?_⟩, unique, advances.sound, ?_, ?_⟩
  · rw [slashes_eq, List.filter_append]
    refine nodup_append_epoch system.book.current behind.once.accepted_once
      (distinct.sublist (((List.filter_sublist).map _).trans slashed.submitted_once))
      (fun slash member => ?_) fun slash member => ?_
    · obtain ⟨member, accepted⟩ := List.mem_filter.mp member
      exact (behind.slashes_behind slash member accepted).2 inside
    · exact slashed.submitted_epoch slash (List.mem_of_mem_filter member)
  · rw [events_eq]
    exact nodup_append_epoch system.book.current behind.once.recorded_once
      (distinct.sublist slashed.recorded_once)
      (fun event member => (behind.events_behind event member).2 inside) slashed.recorded_epoch
  · rw [slashes_eq]
    intro slash member accepted
    rcases List.mem_append.mp member with earlier | new
    · exact (behind.slashes_behind slash earlier accepted).advance advances
    · rw [slashed.submitted_epoch slash new]
      exact left_slash slash new accepted
  · rw [events_eq]
    intro event member
    rcases List.mem_append.mp member with earlier | new
    · exact (behind.events_behind event earlier).advance advances
    · rw [slashed.recorded_epoch event new]
      exact left_event event new

theorem tick (behind : system.SlashedBehind) (daemon : PaymentDaemon) (env : TickEnv)
    (opensNext : env.OpensNext system) (settles : env.SettlesSlashing system) :
    (daemon.tick env system).SlashedBehind := by
  have unique : (daemon.tick env system).UniqueUptime := behind.unique.apply (.tick env)
  have advances := tick_advances daemon env behind.sound opensNext
  have credited : Obeys (.keep fun system : PaymentSystem => (system.slashesAndEvents, system.book))
      (daemon.accumulateUptime env) := by
    refine accumulateUptime_keeps (fun _ _ => rfl) fun system metrics same _ => ?_
    simp [PaymentSystem.book, PaymentSystem.slashesAndEvents, same]
  obtain ⟨same_slashes, book_eq⟩ := Prod.mk.inj (credited system)
  rcases daemon.tick_cases env system with same | same | ⟨epoch, due, same⟩
  · rw [same]
    exact behind
  · have unchanged : (daemon.tick env system).slashesAndEvents = system.slashesAndEvents := by
      rw [← same_slashes]
      rcases same with up | crashed
      · rw [up]
      · rw [crashed]
        rfl
    obtain ⟨slashes_eq, events_eq⟩ := Prod.mk.inj unchanged
    exact behind.unslashed unique advances slashes_eq (by rw [events_eq])
  · obtain ⟨rfl, nonzero⟩ := dueEpoch_eq_some due
    have credited_unique : (daemon.accumulateUptime env system).1.UniqueUptime :=
      accumulateUptime_unique system behind.unique
    have slashes := (daemon.endEpoch_slashes env system.metrics.currentEpoch
      credited_unique).of_same_view same_slashes book_eq
    generalize daemon.endEpoch env system.metrics.currentEpoch
      (daemon.accumulateUptime env system).1 = result at slashes same
    obtain ⟨nodeIds, distinct, adds, finishes⟩ := slashes
    have left : env.FinishesSlashing (system.ledger.hasEpoch (system.metrics.currentEpoch + 1)) →
        result.1.slashesAndEvents = system.slashesAndEvents ∨
          (system.book.current < result.1.book.greatest ∧
            (result.2 = .error .crash ∨
              result.1.metrics.currentEpoch = system.metrics.currentEpoch + 1)) := by
      intro finishing
      refine (finishes finishing).imp id ?_
      rintro ⟨⟨closes, enters, opened⟩, left⟩
      refine ⟨?_, left⟩
      have opened_mem : system.metrics.currentEpoch + 1 ∈ result.1.book.numbers := by
        rw [opened, EpochBook.numbers_afterEnd]
        simp
      exact (Int.lt_succ _).trans_le (EpochBook.le_greatest opened_mem)
    rcases same with ⟨survived, same⟩ | ⟨crashed, same⟩
    · rw [same] at unique advances ⊢
      refine behind.slash unique advances nonzero distinct adds fun some_slash => ?_
      refine (left (settles (by rw [due]; rfl) some_slash)).imp id ?_
      rintro ⟨above, crashed | entered⟩
      · exact absurd crashed survived
      · exact ⟨above, fun _ => (Int.lt_succ _).trans_eq entered.symm⟩
    · rw [same] at unique advances ⊢
      refine behind.slash unique advances nonzero distinct (adds.congr rfl rfl) fun some_slash => ?_
      refine (left (settles (by rw [due]; rfl) some_slash)).imp id ?_
      rintro ⟨above, -⟩
      exact ⟨above, fun inside => absurd rfl inside⟩

theorem start (behind : system.SlashedBehind) (env : StartEnv) :
    (start env system).SlashedBehind := by
  have keeps : Obeys (.keep PaymentSystem.slashesAndEvents) (ensureCurrentEpoch env) := by
    refine Obeys.bind (obeys_readLedger _ _) fun found => ?_
    split
    · exact obeys_modify fun _ => rfl
    · exact openEpoch_keeps ⟨fun _ _ => rfl, fun _ _ => rfl⟩ (fun _ _ => rfl) _ _ _ _ _
  have started : (Law.keep PaymentSystem.slashesAndEvents).allows system
      (PaymentDaemon.start env system) :=
    start_obeys rfl keeps fun _ => rfl
  have unique : (Law.preserve PaymentSystem.UniqueUptime).allows system
      (PaymentDaemon.start env system) :=
    start_obeys id ensureCurrentEpoch_unique fun _ => id
  obtain ⟨slashes_eq, events_eq⟩ := Prod.mk.inj started
  exact behind.unslashed (unique behind.unique) (start_advances env behind.sound) slashes_eq
    (by rw [events_eq])

theorem apply (behind : system.SlashedBehind) (op : PaymentOp)
    (settles : op.SettlesSlashing system) : (op.apply daemon system).SlashedBehind := by
  cases op with
  | start env => exact behind.start env
  | tick env => exact behind.tick daemon env settles.1 settles.2
  | others db =>
      have unique : ((PaymentOp.others db).apply daemon system).UniqueUptime :=
        behind.unique.apply _
      exact behind.unslashed unique (apply_advances (.others db) behind.sound trivial) rfl
        List.filter_sublist

end PaymentSystem.SlashedBehind

/-- In every run whose ticks close no epoch without the next one, and open the next one once a slash
took effect, no slash is accepted twice or recorded twice. -/
theorem slashes_once_of_settlesSlashing (daemon : PaymentDaemon) (system : PaymentSystem)
    (fresh : system.Fresh) (ops : List PaymentOp)
    (met : EveryStep (PaymentOp.apply daemon) PaymentOp.SettlesSlashing system ops) :
    EveryState (PaymentOp.apply daemon) PaymentSystem.SlashesOnce system ops := by
  have start : system.SlashedBehind := by
    refine ⟨⟨?_, ?_⟩, ?_, fresh.sound, ?_, ?_⟩
    · simp [fresh.slashes_eq]
    · simp [fresh.slashing_eq]
    · simp [PaymentSystem.UniqueUptime, fresh.uptime_eq]
    · simp [fresh.slashes_eq]
    · simp [fresh.slashing_eq]
  exact (everyState_of_everyStep (fun _ op behind settles => behind.apply op settles) start
    met).mono fun _ behind => behind.once

section

open Reference

/-- A node that was offline for the whole week. -/
def awayNode : Node := { paidNode with status := .offline }

/-- A daemon that slashes after a minute of downtime. -/
def strictDaemon : PaymentDaemon :=
  { paymentDaemon with config := { PaymentDaemonConfig.default with extendedDowntimeThreshold := 30 } }

/-- The row of the slash is recorded, but its acknowledgement is lost, so the node is slashed again
at the next tick. -/
theorem slashes_again_after_error :
    ¬ EveryState (PaymentOp.apply strictDaemon) PaymentSystem.SlashesOnce (freshPayments [awayNode])
      [.start (calmStart 0), .tick { calmTick week with recordSlash := fun _ => .lost },
        .tick (calmTick week)] := by
  decide +kernel

/-- A node is slashed in each of two epochs. -/
theorem slashes_once_two_weeks :
    EveryStep (PaymentOp.apply strictDaemon) PaymentOp.SettlesSlashing (freshPayments [awayNode])
        [.start (calmStart 0), .tick (calmTick week), .tick (calmTick (2 * week))] ∧
      EveryState (PaymentOp.apply strictDaemon) PaymentSystem.SlashesOnce (freshPayments [awayNode])
        [.start (calmStart 0), .tick (calmTick week), .tick (calmTick (2 * week))] := by
  have met : EveryStep (PaymentOp.apply strictDaemon) PaymentOp.SettlesSlashing
      (freshPayments [awayNode])
      [.start (calmStart 0), .tick (calmTick week), .tick (calmTick (2 * week))] := by
    refine ⟨trivial, ⟨fun _ _ => .inr ⟨rfl, rfl⟩, fun _ _ => ?_⟩,
      ⟨fun _ _ => .inr ⟨rfl, rfl⟩, fun _ _ => ?_⟩, trivial⟩
    · exact ⟨fun _ => rfl, fun _ => nofun, fun _ => rfl, rfl, fun _ => rfl, nofun, fun _ => nofun,
        fun _ => rfl, nofun, rfl, by decide, .inr ⟨rfl, .inl rfl⟩⟩
    · exact ⟨fun _ => rfl, fun _ => nofun, fun _ => rfl, rfl, fun _ => rfl, nofun, fun _ => nofun,
        fun _ => rfl, nofun, rfl, by decide +kernel, .inr ⟨rfl, .inl rfl⟩⟩
  exact ⟨met, slashes_once_of_settlesSlashing strictDaemon _ (freshPayments_fresh _) _ met⟩

end

end CyxCloud.Gateway
