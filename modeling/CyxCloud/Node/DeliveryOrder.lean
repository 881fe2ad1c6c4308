import CyxCloud.Node.DataLoader

/-!
# The order of delivery

What a started loader sends are the batches of its epochs in order, each numbered once, and no epoch
but the last is cut short.  The invariant says for every point of the task which of the received
results have been passed on.
-/

namespace CyxCloud.Node

open CyxCloud.Core hiding Chunk
open Library Metadata Gateway

/-! ## The batches of an epoch -/

/-- The verified batches of a stream, up to and including the first that is marked as the last. -/
def epochBatches : List StreamResult → List VerifiedBatch
  | .ok batch :: rest => if batch.isLast then [batch] else batch :: epochBatches rest
  | .error _ :: _ | [] => []

theorem epochBatches_append {passed : List VerifiedBatch}
    (none_last : ∀ batch ∈ passed, batch.isLast = false) (rest : List StreamResult) :
    epochBatches (passed.map .ok ++ rest) = passed ++ epochBatches rest := by
  induction passed with
  | nil => rfl
  | cons batch passed induction =>
      have not_last : batch.isLast = false := none_last batch List.mem_cons_self
      have others : ∀ other ∈ passed, other.isLast = false := fun other member =>
        none_last other (List.mem_cons_of_mem batch member)
      rw [List.map_cons, List.cons_append, epochBatches, not_last, if_neg Bool.false_ne_true,
        induction others, List.cons_append]

theorem epochBatches_cut (results more : List StreamResult) :
    epochBatches results <+: epochBatches (results ++ more) := by
  induction results with
  | nil => exact List.nil_prefix
  | cons result rest induction =>
      cases result with
      | error error => exact List.prefix_rfl
      | ok batch =>
          rw [List.cons_append, epochBatches, epochBatches]
          cases batch.isLast with
          | true => exact List.prefix_rfl
          | false => exact (List.cons_prefix_cons).mpr ⟨rfl, induction⟩

/-- Nothing follows a batch that is marked as the last. -/
theorem epochBatches_append_of_last {results : List StreamResult}
    (last : ∃ batch ∈ epochBatches results, batch.isLast = true) (more : List StreamResult) :
    epochBatches (results ++ more) = epochBatches results := by
  induction results with
  | nil =>
      obtain ⟨batch, member, -⟩ := last
      cases member
  | cons result rest induction =>
      cases result with
      | error error => rfl
      | ok batch =>
          rw [List.cons_append, epochBatches, epochBatches]
          cases last_eq : batch.isLast with
          | true => rfl
          | false =>
              obtain ⟨found, member, is_last⟩ := last
              rw [epochBatches, last_eq, if_neg Bool.false_ne_true] at member
              rcases List.mem_cons.mp member with rfl | later
              · rw [last_eq] at is_last
                cases is_last
              · exact congrArg (batch :: ·) (induction ⟨found, later, is_last⟩)

/-! ## Numbering -/

/-- A batch under its numbers. -/
def VerifiedBatch.number (batch : VerifiedBatch) (globalIndex epochIndex epoch : Nat) :
    TrainingBatch :=
  { items := batch.items
    globalIndex
    epochIndex
    epoch
    totalBatches := batch.totalBatches
    isEpochEnd := batch.isLast }

/-- The batches of an epoch, numbered from some numbers on. -/
def numberFrom (globalIndex epochIndex epoch : Nat) : List VerifiedBatch → List TrainingBatch
  | [] => []
  | batch :: rest =>
      batch.number globalIndex epochIndex epoch ::
        numberFrom (globalIndex + 1) (epochIndex + 1) epoch rest

/-- The batches of epochs one after the other: the global number runs on, and the number in the
epoch starts again. -/
def numberEpochs (globalIndex epoch : Nat) : List (List VerifiedBatch) → List TrainingBatch
  | [] => []
  | batches :: rest =>
      numberFrom globalIndex 0 epoch batches ++
        numberEpochs (globalIndex + batches.length) (epoch + 1) rest

@[simp]
theorem length_numberFrom (globalIndex epochIndex epoch : Nat) (batches : List VerifiedBatch) :
    (numberFrom globalIndex epochIndex epoch batches).length = batches.length := by
  induction batches generalizing globalIndex epochIndex with
  | nil => rfl
  | cons batch rest induction => rw [numberFrom, List.length_cons, induction, List.length_cons]

theorem numberFrom_append (globalIndex epochIndex epoch : Nat)
    (batches more : List VerifiedBatch) :
    numberFrom globalIndex epochIndex epoch (batches ++ more) =
      numberFrom globalIndex epochIndex epoch batches ++
        numberFrom (globalIndex + batches.length) (epochIndex + batches.length) epoch more := by
  induction batches generalizing globalIndex epochIndex with
  | nil => rfl
  | cons batch rest induction =>
      rw [List.cons_append, numberFrom, induction, numberFrom, List.cons_append, List.length_cons,
        Nat.add_right_comm, Nat.add_assoc globalIndex, Nat.add_right_comm epochIndex,
        Nat.add_assoc epochIndex]

theorem numberEpochs_append (globalIndex epoch : Nat) (epochs : List (List VerifiedBatch))
    (batches : List VerifiedBatch) :
    numberEpochs globalIndex epoch (epochs ++ [batches]) =
      numberEpochs globalIndex epoch epochs ++
        numberFrom (globalIndex + (numberEpochs globalIndex epoch epochs).length) 0
          (epoch + epochs.length) batches := by
  induction epochs generalizing globalIndex epoch with
  | nil => simp [numberEpochs]
  | cons first rest induction =>
      rw [List.cons_append, numberEpochs, induction, numberEpochs, List.append_assoc,
        List.length_append, length_numberFrom, List.length_cons, Nat.add_assoc globalIndex,
        Nat.add_right_comm epoch, Nat.add_assoc epoch]

/-- Cutting the last epoch short cuts the numbered batches short. -/
theorem numberEpochs_cut (globalIndex epoch : Nat) (epochs : List (List VerifiedBatch))
    {passed batches : List VerifiedBatch} (cut : passed <+: batches) :
    numberEpochs globalIndex epoch (epochs ++ [passed]) <+:
      numberEpochs globalIndex epoch (epochs ++ [batches]) := by
  obtain ⟨rest, rfl⟩ := cut
  rw [numberEpochs_append, numberEpochs_append, numberFrom_append, ← List.append_assoc]
  exact List.prefix_append _ _

/-! ## The invariant -/

/-- The epochs of a loader: the complete ones, and the one that is not. -/
def DataLoader.epochs (loader : DataLoader) : List (List VerifiedBatch) :=
  loader.completed.map epochBatches ++ [epochBatches loader.stream.sent]

/-- The numbered batches of the complete epochs, and of those passed on in the next one. -/
def DataLoader.numberedBatches (loader : DataLoader) (passed : List VerifiedBatch) :
    List TrainingBatch :=
  numberEpochs 0 0 (loader.completed.map epochBatches ++ [passed])

/-- What has been passed on, and nothing else has been sent; so many batches are counted already. -/
structure Passed (loader : DataLoader) (passed : List VerifiedBatch) (counted : Nat) : Prop where
  sent_eq : loader.output.sent = (loader.numberedBatches passed).map .ok
  count_eq : loader.globalBatchCount = (loader.numberedBatches passed).length + counted

/-- The results taken in the current epoch: what was passed on, and the rest. -/
structure InEpoch (loader : DataLoader) (passed : List VerifiedBatch) (rest : List StreamResult)
    (counted : Nat) : Prop where
  taken_eq : loader.stream.taken = passed.map .ok ++ rest
  none_last : ∀ batch ∈ passed, batch.isLast = false
  kept : loader.stream.dropped = false
  epochCount_eq : loader.epochBatchCount = passed.length + counted

/-- The current epoch has been passed on as a whole, and has no more batches. -/
def PassedWhole (loader : DataLoader) (passed : List VerifiedBatch) : Prop :=
  passed = epochBatches loader.stream.sent ∧
    ((∃ batch ∈ passed, batch.isLast = true) ∨ loader.stream.closed = true)

/-- There is no stream between two epochs. -/
def BetweenEpochs (loader : DataLoader) : Prop :=
  loader.stream.sent = [] ∧ loader.stream.dropped = true

/-- The configured number of epochs has been reached. -/
def DataLoader.limitReached (loader : DataLoader) : Bool :=
  loader.config.numEpochs.any fun max => decide (max ≤ loader.epoch)

/-- Where the loader is in its epochs, by the point of its task. -/
def StageInv (loader : DataLoader) : LoaderStage → Prop
  | .epochLimit | .opening | .openFailed _ => Passed loader [] 0 ∧ BetweenEpochs loader
  | .receiving => ∃ passed, Passed loader passed 0 ∧ InEpoch loader passed [] 0
  | .held result | .sleeping result | .unpaused result =>
      ∃ passed, Passed loader passed 0 ∧ InEpoch loader passed [result] 0
  | .sending batch isLast => ∃ passed verified,
      Passed loader passed 1 ∧ InEpoch loader passed [.ok verified] 1 ∧
        batch = verified.number (loader.numberedBatches passed).length passed.length loader.epoch ∧
        isLast = verified.isLast
  | .sendingError error =>
      ∃ passed, Passed loader passed 0 ∧ InEpoch loader passed [.error error] 0
  | .epochEnd => ∃ passed, Passed loader passed 0 ∧ passed <+: epochBatches loader.stream.sent ∧
      (loader.shouldStop = true ∨ PassedWhole loader passed)
  | .finish | .done => ∃ passed errors,
      loader.output.sent = (loader.numberedBatches passed).map .ok ++ errors.map .error ∧
        errors.length ≤ 1 ∧ passed <+: epochBatches loader.stream.sent ∧
        (loader.stopped = true ∨ errors ≠ [] ∨ loader.output.dropped = true ∨
          passed = [] ∧ BetweenEpochs loader ∧ loader.limitReached = true)

/-- The invariant of a loader. -/
structure LoaderInv (loader : DataLoader) : Prop where
  epoch_eq : loader.completed.length = loader.epoch
  output_closed : loader.output.closed = true → loader.stage = .done
  stop_asked : loader.stopped = true → loader.shouldStop = true
  /-- A client that is not at its end can still send. -/
  client_ended : loader.stream.closed = true → ∃ reason, loader.client = .ended reason
  stage_inv : StageInv loader loader.stage

theorem LoaderInv.started (config : DataLoaderConfig) : LoaderInv (.started config) where
  epoch_eq := rfl
  output_closed := nofun
  stop_asked := nofun
  client_ended := nofun
  stage_inv := ⟨⟨rfl, rfl⟩, rfl, rfl⟩

/-! ## Events outside the task of the loader -/

/-- What the other tasks can do: set flags, take results, and fill a stream that is open. -/
structure Extends (loader after : DataLoader) : Prop where
  config_eq : after.config = loader.config
  stage_eq : after.stage = loader.stage
  epoch_eq : after.epoch = loader.epoch
  completed_eq : after.completed = loader.completed
  count_eq : after.globalBatchCount = loader.globalBatchCount
  epochCount_eq : after.epochBatchCount = loader.epochBatchCount
  sent_eq : after.output.sent = loader.output.sent
  output_closed : after.output.closed = loader.output.closed
  stopped_eq : after.stopped = loader.stopped
  output_dropped : loader.output.dropped = true → after.output.dropped = true
  stop : loader.shouldStop = true → after.shouldStop = true
  taken_eq : after.stream.taken = loader.stream.taken
  stream_dropped : after.stream.dropped = loader.stream.dropped
  closed : loader.stream.closed = true → after.stream.closed = true
  grows : after.stream.sent = loader.stream.sent ∨
    loader.stream.dropped = false ∧ loader.stream.closed = false ∧
      ∃ result, after.stream.sent = loader.stream.sent ++ [result]

section Steps

variable {loader after : DataLoader} {passed : List VerifiedBatch}

theorem Extends.refl (loader : DataLoader) : Extends loader loader :=
  ⟨rfl, rfl, rfl, rfl, rfl, rfl, rfl, rfl, rfl, id, id, rfl, rfl, id, .inl rfl⟩

namespace Extends

variable (extended : Extends loader after)

include extended

theorem numberedBatches_eq (passed : List VerifiedBatch) :
    after.numberedBatches passed = loader.numberedBatches passed := by
  rw [DataLoader.numberedBatches, extended.completed_eq, DataLoader.numberedBatches]

theorem passedOn {counted : Nat} (kept : Passed loader passed counted) :
    Passed after passed counted where
  sent_eq := by rw [extended.sent_eq, extended.numberedBatches_eq, kept.sent_eq]
  count_eq := by rw [extended.count_eq, extended.numberedBatches_eq, kept.count_eq]

theorem inEpoch {rest : List StreamResult} {counted : Nat}
    (kept : InEpoch loader passed rest counted) : InEpoch after passed rest counted where
  taken_eq := extended.taken_eq.trans kept.taken_eq
  none_last := kept.none_last
  kept := extended.stream_dropped.trans kept.kept
  epochCount_eq := extended.epochCount_eq.trans kept.epochCount_eq

theorem cut (kept : passed <+: epochBatches loader.stream.sent) :
    passed <+: epochBatches after.stream.sent := by
  rcases extended.grows with same | ⟨-, -, result, grown⟩
  · rwa [same]
  · rw [grown]
    exact kept.trans (epochBatches_cut _ _)

theorem passedWhole (kept : PassedWhole loader passed) : PassedWhole after passed := by
  obtain ⟨whole, ended⟩ := kept
  rcases extended.grows with same | ⟨-, still_open, result, grown⟩
  · exact ⟨by rw [whole, same], ended.imp_right extended.closed⟩
  · rcases ended with last | closed
    · refine ⟨?_, .inl last⟩
      rw [whole] at last
      rw [grown, epochBatches_append_of_last last, whole]
    · rw [still_open] at closed
      cases closed

theorem betweenEpochs (kept : BetweenEpochs loader) : BetweenEpochs after := by
  obtain ⟨empty, dropped⟩ := kept
  refine ⟨?_, extended.stream_dropped.trans dropped⟩
  rcases extended.grows with same | ⟨still_there, -⟩
  · exact same.trans empty
  · rw [dropped] at still_there
    cases still_there

theorem limitReached_eq : after.limitReached = loader.limitReached := by
  rw [DataLoader.limitReached, extended.config_eq, extended.epoch_eq, DataLoader.limitReached]

theorem stageInv (kept : StageInv loader loader.stage) : StageInv after after.stage := by
  rw [extended.stage_eq]
  revert kept
  cases loader.stage with
  | epochLimit | opening | openFailed _ =>
      rintro ⟨kept, between⟩
      exact ⟨extended.passedOn kept, extended.betweenEpochs between⟩
  | receiving | held _ | sleeping _ | unpaused _ | sendingError _ =>
      rintro ⟨passed, kept, inEpoch⟩
      exact ⟨passed, extended.passedOn kept, extended.inEpoch inEpoch⟩
  | sending batch isLast =>
      rintro ⟨passed, verified, kept, inEpoch, batch_eq, last_eq⟩
      refine ⟨passed, verified, extended.passedOn kept, extended.inEpoch inEpoch, ?_, last_eq⟩
      rw [extended.numberedBatches_eq, extended.epoch_eq, batch_eq]
  | epochEnd =>
      rintro ⟨passed, kept, cut, reason⟩
      exact ⟨passed, extended.passedOn kept, extended.cut cut,
        reason.imp extended.stop extended.passedWhole⟩
  | finish | done =>
      rintro ⟨passed, errors, sent, few, cut, reason⟩
      refine ⟨passed, errors, ?_, few, extended.cut cut, ?_⟩
      · rw [extended.sent_eq, extended.numberedBatches_eq, sent]
      · refine reason.imp extended.stopped_eq.trans (.imp_right (.imp extended.output_dropped ?_))
        rintro ⟨none_passed, between, limit⟩
        exact ⟨none_passed, extended.betweenEpochs between, extended.limitReached_eq.trans limit⟩

end Extends

theorem extends_message {μ : Type} (verify : μ → StreamResult)
    (outcome : Except String (Option μ)) : Extends loader (loader.message verify outcome) := by
  unfold DataLoader.message
  split
  · split
    · exact { Extends.refl loader with }
    · exact { Extends.refl loader with closed := fun _ => rfl }
    · exact { Extends.refl loader with closed := fun _ => rfl }
  · exact .refl loader
  · exact .refl loader

theorem extends_clientSend (inv : LoaderInv loader) : Extends loader loader.clientSend := by
  unfold DataLoader.clientSend
  split
  · rename_i result sending
    -- The client still has a result, so the stream has not been closed.
    have still_open : loader.stream.closed = false := by
      by_contra closed
      obtain ⟨reason, ended⟩ := inv.client_ended (by simpa using closed)
      rw [sending] at ended
      cases ended
    split
    · exact .refl loader
    · rename_i stream refused
      obtain ⟨-, rfl⟩ := Channel.send_eq_refused refused
      exact { Extends.refl loader with closed := fun _ => rfl }
    · rename_i stream accepted
      obtain ⟨still_there, rfl⟩ := Channel.send_eq_accepted accepted
      split
      · exact { Extends.refl loader with
          taken_eq := Channel.taken_push _ _
          grows := .inr ⟨still_there, still_open, _, rfl⟩ }
      · rename_i error
        exact { Extends.refl loader with
          taken_eq := loader.stream.taken_push (.error error)
          closed := fun _ => rfl
          grows := .inr ⟨still_there, still_open, _, rfl⟩ }
  · exact .refl loader
  · exact .refl loader

theorem extends_receive : Extends loader loader.receive := by
  unfold DataLoader.receive
  split
  · exact .refl loader
  · exact { Extends.refl loader with
      sent_eq := Channel.sent_receive _
      output_closed := Channel.closed_receive _
      output_dropped := fun dropped => (Channel.dropped_receive _).trans dropped }

/-- A step that is not one of the task of the loader keeps the invariant. -/
theorem LoaderInv.extend (inv : LoaderInv loader) (extended : Extends loader after)
    (client_ended : after.stream.closed = true → ∃ reason, after.client = .ended reason) :
    LoaderInv after where
  epoch_eq := by rw [extended.completed_eq, extended.epoch_eq, inv.epoch_eq]
  output_closed closed := by
    rw [extended.stage_eq]
    exact inv.output_closed (extended.output_closed.symm.trans closed)
  stop_asked stopped := extended.stop (inv.stop_asked (extended.stopped_eq.symm.trans stopped))
  client_ended := client_ended
  stage_inv := extended.stageInv inv.stage_inv

theorem client_ended_message {μ : Type} (verify : μ → StreamResult)
    (outcome : Except String (Option μ)) (inv : LoaderInv loader)
    (closed : (loader.message verify outcome).stream.closed = true) :
    ∃ reason, (loader.message verify outcome).client = .ended reason := by
  revert closed
  unfold DataLoader.message
  split
  · rename_i receiving
    split
    · intro closed
      obtain ⟨reason, ended⟩ := inv.client_ended closed
      rw [receiving] at ended
      cases ended
    · exact fun _ => ⟨_, rfl⟩
    · exact fun _ => ⟨_, rfl⟩
  · exact inv.client_ended
  · exact inv.client_ended

theorem client_ended_clientSend (inv : LoaderInv loader)
    (closed : loader.clientSend.stream.closed = true) :
    ∃ reason, loader.clientSend.client = .ended reason := by
  revert closed
  unfold DataLoader.clientSend
  split
  · rename_i result sending
    split
    · exact inv.client_ended
    · exact fun _ => ⟨_, rfl⟩
    · rename_i stream accepted
      obtain ⟨-, rfl⟩ := Channel.send_eq_accepted accepted
      split
      · intro closed
        obtain ⟨reason, ended⟩ := inv.client_ended closed
        rw [sending] at ended
        cases ended
      · exact fun _ => ⟨_, rfl⟩
  · exact inv.client_ended
  · exact inv.client_ended

/-! ## Steps of the loader -/

theorem numberedBatches_append (epoch_eq : loader.completed.length = loader.epoch)
    (passed : List VerifiedBatch) (batch : VerifiedBatch) :
    loader.numberedBatches (passed ++ [batch]) = loader.numberedBatches passed ++
      [batch.number (loader.numberedBatches passed).length passed.length loader.epoch] := by
  simp only [DataLoader.numberedBatches, numberEpochs_append, numberFrom_append, numberFrom,
    List.length_map, List.length_append, length_numberFrom, Nat.zero_add, epoch_eq,
    List.append_assoc]

theorem InEpoch.cut {rest : List StreamResult} {counted : Nat}
    (inEpoch : InEpoch loader passed rest counted) :
    passed <+: epochBatches loader.stream.sent := by
  obtain ⟨more, sent_eq⟩ := loader.stream.taken_prefix
  rw [← sent_eq, inEpoch.taken_eq, List.append_assoc, epochBatches_append inEpoch.none_last]
  exact List.prefix_append _ _

/-- A batch that was taken belongs to its epoch. -/
theorem InEpoch.cut_append {verified : VerifiedBatch} {counted : Nat}
    (inEpoch : InEpoch loader passed [.ok verified] counted) :
    passed ++ [verified] <+: epochBatches loader.stream.sent := by
  obtain ⟨more, sent_eq⟩ := loader.stream.taken_prefix
  rw [← sent_eq, inEpoch.taken_eq, List.append_assoc, epochBatches_append inEpoch.none_last]
  refine (List.prefix_append_right_inj passed).mpr ?_
  rw [List.singleton_append, epochBatches]
  cases verified.isLast with
  | true => exact List.prefix_rfl
  | false => exact ⟨_, rfl⟩

/-- A batch that is marked as the last ends its epoch. -/
theorem InEpoch.whole_of_last {verified : VerifiedBatch} {counted : Nat}
    (inEpoch : InEpoch loader passed [.ok verified] counted) (last : verified.isLast = true) :
    epochBatches loader.stream.sent = passed ++ [verified] := by
  obtain ⟨more, sent_eq⟩ := loader.stream.taken_prefix
  rw [← sent_eq, inEpoch.taken_eq, List.append_assoc, epochBatches_append inEpoch.none_last,
    List.singleton_append, epochBatches, if_pos last]

/-- A stream that has ended before a batch is marked as the last has passed all its batches on. -/
theorem InEpoch.whole_of_ended {counted : Nat} (inEpoch : InEpoch loader passed [] counted)
    (all : loader.stream.taken = loader.stream.sent) :
    epochBatches loader.stream.sent = passed := by
  rw [← all, inEpoch.taken_eq, epochBatches_append inEpoch.none_last]
  exact List.append_nil passed

/-- The batch that is being sent has been sent. -/
theorem Passed.push (kept : Passed loader passed 1)
    (epoch_eq : loader.completed.length = loader.epoch) (verified : VerifiedBatch) :
    Passed { loader with
        output := loader.output.push (.ok (verified.number (loader.numberedBatches passed).length
          passed.length loader.epoch)) } (passed ++ [verified]) 0 := by
  have numbered := numberedBatches_append epoch_eq passed verified
  constructor
  · refine Eq.trans ?_ (congrArg (List.map Except.ok) numbered).symm
    rw [List.map_append, ← kept.sent_eq]
    rfl
  · have counted := congrArg List.length numbered
    rw [List.length_append] at counted
    exact kept.count_eq.trans counted.symm

/-- Nothing remains to be sent once the next epoch begins. -/
theorem Passed.nextEpoch (kept : Passed loader passed 0)
    (whole : passed = epochBatches loader.stream.sent) :
    Passed { loader with completed := loader.completed ++ [loader.stream.sent] } [] 0 := by
  have numbered : numberEpochs 0 0
      ((loader.completed ++ [loader.stream.sent]).map epochBatches ++ [[]]) =
        loader.numberedBatches passed := by
    rw [numberEpochs_append, numberFrom, List.append_nil, List.map_append, whole]
    rfl
  exact
    { sent_eq := kept.sent_eq.trans (congrArg (List.map Except.ok) numbered.symm)
      count_eq := kept.count_eq.trans (congrArg List.length numbered.symm) }

theorem stageInv_step (inv : LoaderInv loader) (opened : Except DataStreamError Unit) :
    StageInv (loader.step opened) (loader.step opened).stage := by
  have stage_inv := inv.stage_inv
  revert stage_inv
  unfold DataLoader.step
  cases stage_eq : loader.stage with
  | epochLimit =>
      rintro ⟨kept, between⟩
      have sent : loader.output.sent = (loader.numberedBatches []).map .ok ++ [] := by
        rw [List.append_nil, kept.sent_eq]
      dsimp only
      split
      · rename_i limit
        exact ⟨[], [], sent, Nat.zero_le _, List.nil_prefix,
          .inr (.inr (.inr ⟨rfl, between, limit⟩))⟩
      · split
        · exact ⟨[], [], sent, Nat.zero_le _, List.nil_prefix, .inl rfl⟩
        · exact ⟨⟨kept.sent_eq, kept.count_eq⟩, between⟩
  | opening =>
      rintro ⟨kept, between⟩
      cases opened with
      | error error => exact ⟨⟨kept.sent_eq, kept.count_eq⟩, between⟩
      | ok _ => exact ⟨[], ⟨kept.sent_eq, kept.count_eq⟩, rfl, nofun, rfl, rfl⟩
  | openFailed error =>
      rintro ⟨kept, between⟩
      dsimp only
      split
      · rw [stage_eq]
        exact ⟨kept, between⟩
      · rename_i output refused
        obtain ⟨dropped, rfl⟩ := Channel.send_eq_refused refused
        refine ⟨[], [], ?_, Nat.zero_le _, List.nil_prefix, .inr (.inr (.inl dropped))⟩
        rw [List.map_nil, List.append_nil]
        exact kept.sent_eq
      · rename_i output accepted
        obtain ⟨-, rfl⟩ := Channel.send_eq_accepted accepted
        refine ⟨[], [error], ?_, Nat.le_refl 1, List.nil_prefix, .inr (.inl nofun)⟩
        exact congrArg (· ++ [.error error]) kept.sent_eq
  | receiving =>
      rintro ⟨passed, kept, inEpoch⟩
      have stream_kept := loader.stream.dropped_receive.trans inEpoch.kept
      dsimp only
      split
      · rw [stage_eq]
        exact ⟨passed, kept, inEpoch⟩
      · rename_i ended
        obtain ⟨closed, all, -⟩ := Channel.receive_eq_ended ended
        exact ⟨passed, ⟨kept.sent_eq, kept.count_eq⟩, inEpoch.cut,
          .inr ⟨(inEpoch.whole_of_ended all).symm, .inr closed⟩⟩
      · rename_i result stream received
        obtain ⟨more, -, taken⟩ := Channel.receive_eq_item received
        rw [received] at stream_kept
        refine ⟨passed, ⟨kept.sent_eq, kept.count_eq⟩, ?_, inEpoch.none_last, stream_kept,
          inEpoch.epochCount_eq⟩
        rw [taken, inEpoch.taken_eq, List.append_nil]
  | held result | sleeping result =>
      rintro ⟨passed, ⟨sent, count⟩, taken, none_last, stream_kept, epochCount⟩
      dsimp only
      split <;> exact ⟨passed, ⟨sent, count⟩, taken, none_last, stream_kept, epochCount⟩
  | unpaused result =>
      rintro ⟨passed, kept, inEpoch⟩
      dsimp only
      split
      · rename_i stopped
        exact ⟨passed, ⟨kept.sent_eq, kept.count_eq⟩, inEpoch.cut, .inl stopped⟩
      · cases result with
        | ok batch =>
            refine ⟨passed, batch, ⟨kept.sent_eq, congrArg (· + 1) kept.count_eq⟩,
              ⟨inEpoch.taken_eq, inEpoch.none_last, inEpoch.kept,
                congrArg (· + 1) inEpoch.epochCount_eq⟩, ?_, rfl⟩
            rw [DataLoader.numbered, kept.count_eq, inEpoch.epochCount_eq]
            rfl
        | error error =>
            exact ⟨passed, ⟨kept.sent_eq, kept.count_eq⟩, inEpoch.taken_eq, inEpoch.none_last,
              inEpoch.kept, inEpoch.epochCount_eq⟩
  | sending batch isLast =>
      rintro ⟨passed, verified, kept, inEpoch, rfl, rfl⟩
      dsimp only
      split
      · rw [stage_eq]
        exact ⟨passed, verified, kept, inEpoch, rfl, rfl⟩
      · rename_i output refused
        obtain ⟨dropped, rfl⟩ := Channel.send_eq_refused refused
        refine ⟨passed, [], ?_, Nat.zero_le _, inEpoch.cut, .inr (.inr (.inl dropped))⟩
        rw [List.map_nil, List.append_nil]
        exact kept.sent_eq
      · rename_i output accepted
        obtain ⟨-, rfl⟩ := Channel.send_eq_accepted accepted
        obtain ⟨sent, count⟩ := kept.push inv.epoch_eq verified
        cases last : verified.isLast with
        | true =>
            exact ⟨passed ++ [verified], ⟨sent, count⟩, inEpoch.cut_append,
              .inr ⟨(inEpoch.whole_of_last last).symm,
                .inl ⟨verified, List.mem_append_right _ List.mem_cons_self, last⟩⟩⟩
        | false =>
            refine ⟨passed ++ [verified], ⟨sent, count⟩, ?_, ?_, inEpoch.kept, ?_⟩
            · rw [List.append_nil, List.map_append]
              exact inEpoch.taken_eq
            · intro other member
              rcases List.mem_append.mp member with earlier | new
              · exact inEpoch.none_last other earlier
              · rw [List.mem_singleton.mp new, last]
            · rw [List.length_append]
              exact inEpoch.epochCount_eq
  | sendingError error =>
      rintro ⟨passed, kept, inEpoch⟩
      dsimp only
      split
      · rw [stage_eq]
        exact ⟨passed, kept, inEpoch⟩
      · rename_i output refused
        obtain ⟨dropped, rfl⟩ := Channel.send_eq_refused refused
        refine ⟨passed, [], ?_, Nat.zero_le _, inEpoch.cut, .inr (.inr (.inl dropped))⟩
        rw [List.map_nil, List.append_nil]
        exact kept.sent_eq
      · rename_i output accepted
        obtain ⟨-, rfl⟩ := Channel.send_eq_accepted accepted
        refine ⟨passed, [error], ?_, Nat.le_refl 1, inEpoch.cut, .inr (.inl nofun)⟩
        exact congrArg (· ++ [.error error]) kept.sent_eq
  | epochEnd =>
      rintro ⟨passed, kept, cut, reason⟩
      dsimp only
      split
      · refine ⟨passed, [], ?_, Nat.zero_le _, cut, .inl rfl⟩
        rw [List.map_nil, List.append_nil]
        exact kept.sent_eq
      · rename_i running
        obtain ⟨whole, -⟩ := reason.resolve_left running
        obtain ⟨sent, count⟩ := kept.nextEpoch whole
        exact ⟨⟨sent, count⟩, rfl, rfl⟩
  | finish =>
      rintro ⟨passed, errors, sent, few, cut, reason⟩
      exact ⟨passed, errors, sent, few, cut, reason⟩
  | done =>
      rintro ⟨passed, errors, sent, few, cut, reason⟩
      dsimp only
      rw [stage_eq]
      exact ⟨passed, errors, sent, few, cut, reason⟩

/-- What a step keeps of the flags, of the ends of the channels, and of the client. -/
structure StepFrame (loader after : DataLoader) : Prop where
  config_eq : after.config = loader.config
  shouldStop_eq : after.shouldStop = loader.shouldStop
  output_dropped : after.output.dropped = loader.output.dropped
  output_taken : after.output.taken = loader.output.taken
  epoch_moved : after.completed.length + loader.epoch = loader.completed.length + after.epoch
  output_closed : after.output.closed = loader.output.closed ∨ after.stage = .done
  stopped : after.stopped = true → loader.stopped = true ∨ loader.shouldStop = true
  client : after.stream.closed = false ∨
    after.stream.closed = loader.stream.closed ∧ after.client = loader.client

theorem StepFrame.refl (loader : DataLoader) : StepFrame loader loader :=
  ⟨rfl, rfl, rfl, rfl, rfl, .inl rfl, .inl, .inr ⟨rfl, rfl⟩⟩

theorem stepFrame (loader : DataLoader) (opened : Except DataStreamError Unit) :
    StepFrame loader (loader.step opened) := by
  unfold DataLoader.step
  cases loader.stage with
  | epochLimit =>
      dsimp only
      split
      · exact ⟨rfl, rfl, rfl, rfl, rfl, .inl rfl, .inl, .inr ⟨rfl, rfl⟩⟩
      · split
        · rename_i stopped
          exact ⟨rfl, rfl, rfl, rfl, rfl, .inl rfl, fun _ => .inr stopped, .inr ⟨rfl, rfl⟩⟩
        · exact ⟨rfl, rfl, rfl, rfl, rfl, .inl rfl, .inl, .inr ⟨rfl, rfl⟩⟩
  | opening =>
      cases opened with
      | error error => exact ⟨rfl, rfl, rfl, rfl, rfl, .inl rfl, .inl, .inr ⟨rfl, rfl⟩⟩
      | ok _ => exact ⟨rfl, rfl, rfl, rfl, rfl, .inl rfl, .inl, .inl rfl⟩
  | openFailed _ =>
      dsimp only
      split
      · exact .refl loader
      · rename_i refused
        obtain ⟨-, rfl⟩ := Channel.send_eq_refused refused
        exact ⟨rfl, rfl, rfl, rfl, rfl, .inl rfl, .inl, .inr ⟨rfl, rfl⟩⟩
      · rename_i accepted
        obtain ⟨-, rfl⟩ := Channel.send_eq_accepted accepted
        exact ⟨rfl, rfl, rfl, Channel.taken_push _ _, rfl, .inl rfl, .inl, .inr ⟨rfl, rfl⟩⟩
  | receiving =>
      have closed := loader.stream.closed_receive
      dsimp only
      split
      · exact .refl loader
      · exact ⟨rfl, rfl, rfl, rfl, rfl, .inl rfl, .inl, .inr ⟨rfl, rfl⟩⟩
      · rename_i received
        rw [received] at closed
        exact ⟨rfl, rfl, rfl, rfl, rfl, .inl rfl, .inl, .inr ⟨closed, rfl⟩⟩
  | held _ =>
      dsimp only
      split <;> exact ⟨rfl, rfl, rfl, rfl, rfl, .inl rfl, .inl, .inr ⟨rfl, rfl⟩⟩
  | unpaused result =>
      dsimp only
      split
      · exact ⟨rfl, rfl, rfl, rfl, rfl, .inl rfl, .inl, .inr ⟨rfl, rfl⟩⟩
      · cases result <;> exact ⟨rfl, rfl, rfl, rfl, rfl, .inl rfl, .inl, .inr ⟨rfl, rfl⟩⟩
  | sending _ _ =>
      dsimp only
      split
      · exact .refl loader
      · rename_i refused
        obtain ⟨-, rfl⟩ := Channel.send_eq_refused refused
        exact ⟨rfl, rfl, rfl, rfl, rfl, .inr rfl, .inl, .inr ⟨rfl, rfl⟩⟩
      · rename_i accepted
        obtain ⟨-, rfl⟩ := Channel.send_eq_accepted accepted
        exact ⟨rfl, rfl, rfl, Channel.taken_push _ _, rfl, .inl rfl, .inl, .inr ⟨rfl, rfl⟩⟩
  | sendingError error =>
      dsimp only
      split
      · exact .refl loader
      · rename_i refused
        obtain ⟨-, rfl⟩ := Channel.send_eq_refused refused
        exact ⟨rfl, rfl, rfl, rfl, rfl, .inr rfl, .inl, .inr ⟨rfl, rfl⟩⟩
      · rename_i accepted
        obtain ⟨-, rfl⟩ := Channel.send_eq_accepted accepted
        exact ⟨rfl, rfl, rfl, loader.output.taken_push (.error error), rfl, .inr rfl, .inl,
          .inr ⟨rfl, rfl⟩⟩
  | epochEnd =>
      dsimp only
      split
      · rename_i stopped
        exact ⟨rfl, rfl, rfl, rfl, rfl, .inl rfl, fun _ => .inr stopped, .inr ⟨rfl, rfl⟩⟩
      · refine ⟨rfl, rfl, rfl, rfl, ?_, .inl rfl, .inl, .inl rfl⟩
        dsimp only
        rw [List.length_append, List.length_singleton]
        omega
  | finish => exact ⟨rfl, rfl, rfl, rfl, rfl, .inr rfl, .inl, .inr ⟨rfl, rfl⟩⟩
  | sleeping _ | done => exact ⟨rfl, rfl, rfl, rfl, rfl, .inl rfl, .inl, .inr ⟨rfl, rfl⟩⟩

theorem step_of_done (done : loader.stage = .done) (opened : Except DataStreamError Unit) :
    loader.step opened = loader := by
  unfold DataLoader.step
  simp only [done]

theorem LoaderInv.step (inv : LoaderInv loader) (opened : Except DataStreamError Unit) :
    LoaderInv (loader.step opened) := by
  have frame := stepFrame loader opened
  refine
    { epoch_eq := ?_
      output_closed := fun closed => ?_
      stop_asked := fun stopped => ?_
      client_ended := fun closed => ?_
      stage_inv := stageInv_step inv opened }
  · have epoch_eq := inv.epoch_eq
    have moved := frame.epoch_moved
    omega
  · rcases frame.output_closed with same | done
    · have done := inv.output_closed (same.symm.trans closed)
      rw [step_of_done done]
      exact done
    · exact done
  · rw [frame.shouldStop_eq]
    exact (frame.stopped stopped).elim inv.stop_asked id
  · rcases frame.client with still_open | ⟨same, client_eq⟩
    · rw [still_open] at closed
      cases closed
    · rw [client_eq]
      exact inv.client_ended (same.symm.trans closed)

theorem LoaderInv.receive (inv : LoaderInv loader) : LoaderInv loader.receive := by
  refine inv.extend extends_receive ?_
  unfold DataLoader.receive
  split <;> exact inv.client_ended

theorem extends_pause : Extends loader loader.pause := { Extends.refl loader with }

theorem extends_resume : Extends loader loader.resume := { Extends.refl loader with }

theorem extends_stop : Extends loader loader.stop :=
  { Extends.refl loader with stop := fun _ => rfl }

theorem extends_dropReceiver : Extends loader loader.dropReceiver :=
  { Extends.refl loader with output_dropped := fun _ => rfl }

theorem LoaderInv.message {μ : Type} (verify : μ → StreamResult) (inv : LoaderInv loader)
    (outcome : Except String (Option μ)) : LoaderInv (loader.message verify outcome) :=
  inv.extend (extends_message verify outcome) (client_ended_message verify outcome inv)

theorem LoaderInv.clientSend (inv : LoaderInv loader) : LoaderInv loader.clientSend :=
  inv.extend (extends_clientSend inv) (client_ended_clientSend inv)

theorem LoaderInv.applyLoaderOp {μ : Type} (verify : μ → StreamResult) (inv : LoaderInv loader)
    (op : LoaderOp μ) : LoaderInv (applyLoaderOp verify loader op) := by
  cases op with
  | pause => exact inv.extend extends_pause inv.client_ended
  | resume => exact inv.extend extends_resume inv.client_ended
  | stop => exact inv.extend extends_stop inv.client_ended
  | message outcome => exact inv.message verify outcome
  | clientSend => exact inv.clientSend
  | step opened => exact inv.step opened
  | receive => exact inv.receive
  | dropReceiver => exact inv.extend extends_dropReceiver inv.client_ended

/-! ## Delivery -/

/-- The batches that the receiver has taken. -/
def DataLoader.delivered (loader : DataLoader) : List TrainingBatch :=
  loader.output.taken.filterMap Except.toOption

theorem globalIndex_numberFrom (globalIndex epochIndex epoch : Nat)
    (batches : List VerifiedBatch) :
    (numberFrom globalIndex epochIndex epoch batches).map TrainingBatch.globalIndex =
      List.range' globalIndex batches.length := by
  induction batches generalizing globalIndex epochIndex with
  | nil => rfl
  | cons batch rest induction =>
      rw [numberFrom, List.map_cons, induction, List.length_cons, List.range'_succ]
      rfl

theorem globalIndex_numberEpochs (globalIndex epoch : Nat) (epochs : List (List VerifiedBatch)) :
    (numberEpochs globalIndex epoch epochs).map TrainingBatch.globalIndex =
      List.range' globalIndex (numberEpochs globalIndex epoch epochs).length := by
  induction epochs generalizing globalIndex epoch with
  | nil => rfl
  | cons batches rest induction =>
      rw [numberEpochs, List.map_append, globalIndex_numberFrom, induction, List.length_append,
        length_numberFrom, List.range'_append_1]

/-- What is sent is in order, and an error ends it. -/
theorem LoaderInv.sent (inv : LoaderInv loader) :
    ∃ (passed : List VerifiedBatch) (errors : List DataStreamError), loader.output.sent =
        (loader.numberedBatches passed).map .ok ++ errors.map .error ∧ errors.length ≤ 1 ∧
      passed <+: epochBatches loader.stream.sent := by
  have kept := inv.stage_inv
  revert kept
  cases loader.stage with
  | epochLimit | opening | openFailed _ =>
      rintro ⟨kept, -⟩
      exact ⟨[], [], by rw [kept.sent_eq, List.map_nil, List.append_nil], Nat.zero_le _,
        List.nil_prefix⟩
  | receiving | held _ | sleeping _ | unpaused _ | sendingError _ =>
      rintro ⟨passed, kept, inEpoch⟩
      exact ⟨passed, [], by rw [kept.sent_eq, List.map_nil, List.append_nil], Nat.zero_le _,
        inEpoch.cut⟩
  | sending batch isLast =>
      rintro ⟨passed, verified, kept, inEpoch, -⟩
      exact ⟨passed, [], by rw [kept.sent_eq, List.map_nil, List.append_nil], Nat.zero_le _,
        inEpoch.cut⟩
  | epochEnd =>
      rintro ⟨passed, kept, cut, -⟩
      exact ⟨passed, [], by rw [kept.sent_eq, List.map_nil, List.append_nil], Nat.zero_le _, cut⟩
  | finish | done =>
      rintro ⟨passed, errors, sent, few, cut, -⟩
      exact ⟨passed, errors, sent, few, cut⟩

theorem filterMap_toOption (batches : List TrainingBatch) (errors : List DataStreamError) :
    ((batches.map .ok ++ errors.map .error : List LoaderResult).filterMap Except.toOption) =
      batches := by
  rw [List.filterMap_append, List.filterMap_map, List.filterMap_map]
  have oks : batches.filterMap (Except.toOption ∘ (.ok : TrainingBatch → LoaderResult)) = batches :=
    List.filterMap_some
  have none_left : errors.filterMap (Except.toOption ∘ (.error : DataStreamError → LoaderResult)) =
      [] := List.filterMap_eq_nil_iff.mpr fun _ _ => rfl
  rw [oks, none_left, List.append_nil]

theorem LoaderInv.delivered_prefix (inv : LoaderInv loader) :
    loader.delivered <+: numberEpochs 0 0 loader.epochs := by
  obtain ⟨passed, errors, sent, -, cut⟩ := inv.sent
  have taken : loader.delivered <+: loader.output.sent.filterMap Except.toOption :=
    (loader.output.taken_prefix).filterMap _
  rw [sent, filterMap_toOption] at taken
  exact taken.trans (numberEpochs_cut 0 0 _ cut)

/-- An error is the last result that is taken. -/
theorem LoaderInv.taken_eq (inv : LoaderInv loader) :
    ∃ errors : List DataStreamError, errors.length ≤ 1 ∧
      loader.output.taken = loader.delivered.map .ok ++ errors.map .error := by
  obtain ⟨passed, errors, sent, few, -⟩ := inv.sent
  have taken : loader.output.taken =
      ((loader.numberedBatches passed).take loader.output.received).map .ok ++
        (errors.take (loader.output.received - (loader.numberedBatches passed).length)).map
          .error := by
    rw [Channel.taken, sent, List.take_append, List.length_map, List.map_take, List.map_take]
  refine ⟨errors.take (loader.output.received - (loader.numberedBatches passed).length), ?_, ?_⟩
  · exact (List.length_take_le' _ _).trans few
  · rw [DataLoader.delivered, taken, filterMap_toOption]

theorem LoaderInv.delivered_whole (inv : LoaderInv loader) (done : loader.stage = .done)
    (all : loader.output.taken = loader.output.sent) (running : loader.stopped = false)
    (kept : loader.output.dropped = false)
    (no_error : ∀ error, .error error ∉ loader.output.taken) :
    loader.delivered = loader.numberedBatches [] ∧ loader.stream.sent = [] ∧
      loader.limitReached = true := by
  have stage_inv := inv.stage_inv
  rw [done] at stage_inv
  obtain ⟨passed, errors, sent, -, -, reason⟩ := stage_inv
  rcases reason with stopped | failed | dropped | ⟨rfl, ⟨empty, -⟩, limit⟩
  · rw [running] at stopped
    cases stopped
  · obtain ⟨error, member⟩ := List.exists_mem_of_ne_nil errors failed
    refine absurd ?_ (no_error error)
    rw [all, sent]
    exact List.mem_append_right _ (List.mem_map_of_mem member)
  · rw [kept] at dropped
    cases dropped
  · exact ⟨by rw [DataLoader.delivered, all, sent, filterMap_toOption], empty, limit⟩

end Steps

/-- In every run of a started loader, what its receiver takes are the batches of the epochs in
order, with a global number that runs on from zero and a number in the epoch that starts again from
zero, cut short in the last of them at most, and followed by at most one error.  Once the task has
ended and everything was taken, nothing is cut short unless there was a stop, an error, or a receiver
that was dropped. -/
theorem delivered_in_order {μ : Type} (verify : μ → StreamResult) (config : DataLoaderConfig)
    (ops : List (LoaderOp μ)) :
    EveryState (applyLoaderOp verify) (fun loader =>
      loader.delivered <+: numberEpochs 0 0 loader.epochs ∧
      loader.delivered.map TrainingBatch.globalIndex = List.range loader.delivered.length ∧
      (∃ errors : List DataStreamError, errors.length ≤ 1 ∧
        loader.output.taken = loader.delivered.map .ok ++ errors.map .error) ∧
      (loader.stage = .done → loader.output.taken = loader.output.sent →
        loader.shouldStop = false → loader.output.dropped = false →
          (∀ error, .error error ∉ loader.output.taken) →
            loader.delivered = numberEpochs 0 0 loader.epochs))
      (.started config) ops := by
  refine (everyState_of_keeps (fun loader op inv => inv.applyLoaderOp verify op)
    (LoaderInv.started config) ops).mono ?_
  intro loader inv
  have in_order := inv.delivered_prefix
  refine ⟨in_order, ?_, inv.taken_eq, ?_⟩
  · obtain ⟨rest, all⟩ := in_order
    have indices := globalIndex_numberEpochs 0 0 loader.epochs
    rw [← all, List.map_append, List.length_append, ← List.range_eq_range', List.range_add]
      at indices
    exact (List.append_inj indices (by simp)).1
  · intro done all running kept no_error
    have not_stopped : loader.stopped = false := by
      by_contra stopped
      have asked := inv.stop_asked (by simpa using stopped)
      rw [running] at asked
      cases asked
    obtain ⟨whole, empty, -⟩ := inv.delivered_whole done all not_stopped kept no_error
    rw [whole, DataLoader.epochs, empty]
    rfl

end CyxCloud.Node
