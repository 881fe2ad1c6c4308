import CyxCloud.Node.TrainingRuns

/-!
# Truncated streams

The client ends in the same way whether the gateway closed the stream or the stream failed, and the
loader takes the end of its channel for the end of the epoch.  Where the streams end after their last
batches, every complete epoch has its last batch, and a run that completes has processed them all.
-/

namespace CyxCloud.Node

open CyxCloud.Core hiding Chunk
open Library Metadata Gateway

/-! ## Ends of streams -/

/-- Among the batches of a stream is one that is marked as the last. -/
def hasLast (results : List StreamResult) : Bool :=
  (epochBatches results).any VerifiedBatch.isLast

theorem hasLast_iff {results : List StreamResult} :
    hasLast results = true ↔ ∃ batch ∈ epochBatches results, batch.isLast = true :=
  List.any_eq_true

theorem hasLast_append {results : List StreamResult} (last : hasLast results = true)
    (more : List StreamResult) : hasLast (results ++ more) = true := by
  rw [hasLast, epochBatches_append_of_last (hasLast_iff.mp last)]
  exact last

/-- Each complete epoch has its last batch. -/
def EpochsEnded (loader : DataLoader) : Prop :=
  ∀ results ∈ loader.completed, hasLast results = true

/-- What the end of a stream has shown so far. -/
structure Untruncated (loader : DataLoader) : Prop where
  closed_last : loader.stream.closed = true → loader.stream.dropped = true ∨
    hasLast loader.stream.sent = true ∨ ∃ error, .error error ∈ loader.stream.sent
  end_last : loader.stage = .epochEnd →
    loader.shouldStop = true ∨ hasLast loader.stream.sent = true
  completed_last : EpochsEnded loader

/-- If the gateway closes the stream or the stream fails, its last batch was passed on before, or
nobody receives any more. -/
def endsAfterLast {μ : Type} (loader : DataLoader) : Except String (Option μ) → Bool
  | .ok (some _) => true
  | .ok none | .error _ =>
      match loader.client with
      | .receiving => loader.stream.dropped || hasLast loader.stream.sent
      | .sending _ | .ended _ => true

section Loader

variable {loader after : DataLoader}

theorem Untruncated.started (config : DataLoaderConfig) : Untruncated (.started config) :=
  ⟨nofun, nofun, nofun⟩

/-- What leaves the stream and the complete epochs alone, and does not end an epoch. -/
theorem Untruncated.of_eq (kept : Untruncated loader)
    (closed_eq : after.stream.closed = loader.stream.closed)
    (dropped : loader.stream.dropped = true → after.stream.dropped = true)
    (sent_eq : after.stream.sent = loader.stream.sent)
    (completed_eq : after.completed = loader.completed) (stage_ne : after.stage ≠ .epochEnd) :
    Untruncated after where
  closed_last closed := by
    rw [sent_eq]
    exact (kept.closed_last (closed_eq.symm.trans closed)).imp_left dropped
  end_last at_end := absurd at_end stage_ne
  completed_last := by
    rw [EpochsEnded, completed_eq]
    exact kept.completed_last

/-- What leaves the stream alone and clears no flag. -/
theorem Untruncated.of_stream_eq (kept : Untruncated loader)
    (stream_eq : after.stream = loader.stream) (completed_eq : after.completed = loader.completed) (stage_eq : after.stage = loader.stage)
    (stop : loader.shouldStop = true → after.shouldStop = true) : Untruncated after where
  closed_last := by
    rw [stream_eq]
    exact kept.closed_last
  end_last at_end := by
    rw [stream_eq]
    exact (kept.end_last (stage_eq.symm.trans at_end)).imp_left stop
  completed_last := by
    rw [EpochsEnded, completed_eq]
    exact kept.completed_last

theorem Untruncated.message {μ : Type} (verify : μ → StreamResult) (kept : Untruncated loader)
    {outcome : Except String (Option μ)} (ends : endsAfterLast loader outcome = true) :
    Untruncated (loader.message verify outcome) := by
  unfold DataLoader.message
  split
  · rename_i receiving
    split
    · exact kept.of_stream_eq rfl rfl rfl id
    · rw [endsAfterLast, receiving, Bool.or_eq_true] at ends
      exact ⟨fun _ => ends.imp_right .inl, kept.end_last, kept.completed_last⟩
    · rw [endsAfterLast, receiving, Bool.or_eq_true] at ends
      exact ⟨fun _ => ends.imp_right .inl, kept.end_last, kept.completed_last⟩
  · exact kept
  · exact kept

theorem Untruncated.clientSend (kept : Untruncated loader) : Untruncated loader.clientSend := by
  unfold DataLoader.clientSend
  split
  · rename_i result sending
    split
    · exact kept
    · rename_i stream refused
      obtain ⟨dropped, rfl⟩ := Channel.send_eq_refused refused
      exact ⟨fun _ => .inl dropped, kept.end_last, kept.completed_last⟩
    · rename_i stream accepted
      obtain ⟨-, rfl⟩ := Channel.send_eq_accepted accepted
      have end_last (at_end : loader.stage = .epochEnd) : loader.shouldStop = true ∨
          hasLast (loader.stream.sent ++ [result]) = true :=
        (kept.end_last at_end).imp_right fun last => hasLast_append last _
      split
      · refine ⟨fun closed => ?_, end_last, kept.completed_last⟩
        refine (kept.closed_last closed).imp_right ?_
        rintro (last | ⟨error, member⟩)
        · exact .inl (hasLast_append last _)
        · exact .inr ⟨error, List.mem_append_left _ member⟩
      · rename_i error
        exact ⟨fun _ => .inr (.inr ⟨error, List.mem_append_right _ List.mem_cons_self⟩), end_last,
          kept.completed_last⟩
  · exact kept
  · exact kept

theorem Untruncated.receive (kept : Untruncated loader) : Untruncated loader.receive := by
  unfold DataLoader.receive
  split
  · exact kept
  · exact kept.of_stream_eq rfl rfl rfl id

/-- A stream that ends for the loader has passed its last batch on. -/
theorem Untruncated.hasLast_of_ended (kept : Untruncated loader) {passed : List VerifiedBatch}
    {counted : Nat} (inEpoch : InEpoch loader passed [] counted)
    (closed : loader.stream.closed = true) (all : loader.stream.taken = loader.stream.sent) :
    hasLast loader.stream.sent = true := by
  rcases kept.closed_last closed with dropped | last | ⟨error, member⟩
  · rw [inEpoch.kept] at dropped
    cases dropped
  · exact last
  · rw [← all, inEpoch.taken_eq, List.append_nil] at member
    obtain ⟨batch, -, differ⟩ := List.mem_map.mp member
    cases differ

theorem Untruncated.step (kept : Untruncated loader) (inv : LoaderInv loader)
    (opened : Except DataStreamError Unit) : Untruncated (loader.step opened) := by
  have stage_inv := inv.stage_inv
  revert stage_inv
  unfold DataLoader.step
  cases stage_eq : loader.stage with
  | epochLimit =>
      rintro -
      dsimp only
      split
      · exact kept.of_eq rfl id rfl rfl nofun
      · split <;> exact kept.of_eq rfl id rfl rfl nofun
  | opening =>
      rintro -
      cases opened with
      | error error => exact kept.of_eq rfl id rfl rfl nofun
      | ok _ => exact ⟨nofun, nofun, kept.completed_last⟩
  | openFailed error =>
      rintro -
      dsimp only
      split
      · exact kept
      · exact kept.of_eq rfl id rfl rfl nofun
      · exact kept.of_eq rfl id rfl rfl nofun
  | receiving =>
      rintro ⟨passed, -, inEpoch⟩
      have closed_eq := loader.stream.closed_receive
      have dropped_eq := loader.stream.dropped_receive
      have sent_eq := loader.stream.sent_receive
      dsimp only
      split
      · exact kept
      · rename_i ended
        obtain ⟨closed, all, -⟩ := Channel.receive_eq_ended ended
        exact ⟨kept.closed_last, fun _ => .inr (kept.hasLast_of_ended inEpoch closed all),
          kept.completed_last⟩
      · rename_i received
        rw [received] at closed_eq dropped_eq sent_eq
        exact kept.of_eq closed_eq dropped_eq.trans sent_eq rfl nofun
  | held result =>
      rintro -
      dsimp only
      split <;> exact kept.of_eq rfl id rfl rfl nofun
  | sleeping result =>
      rintro -
      dsimp only
      split <;> exact kept.of_eq rfl id rfl rfl nofun
  | unpaused result =>
      rintro -
      dsimp only
      split
      · rename_i stopped
        exact ⟨kept.closed_last, fun _ => .inl stopped, kept.completed_last⟩
      · cases result <;> exact kept.of_eq rfl id rfl rfl nofun
  | sending batch isLast =>
      rintro ⟨passed, verified, -, inEpoch, rfl, rfl⟩
      dsimp only
      split
      · exact kept
      · exact kept.of_eq rfl (fun _ => rfl) rfl rfl nofun
      · cases last : verified.isLast with
        | true =>
            have last_mem : hasLast loader.stream.sent = true :=
              hasLast_iff.mpr ⟨verified, by
                rw [inEpoch.whole_of_last last]
                exact List.mem_append_right _ List.mem_cons_self, last⟩
            exact ⟨kept.closed_last, fun _ => .inr last_mem, kept.completed_last⟩
        | false => exact kept.of_eq rfl id rfl rfl nofun
  | sendingError error =>
      rintro -
      dsimp only
      split
      · exact kept
      · exact kept.of_eq rfl (fun _ => rfl) rfl rfl nofun
      · exact kept.of_eq rfl (fun _ => rfl) rfl rfl nofun
  | epochEnd =>
      rintro -
      dsimp only
      split
      · exact kept.of_eq rfl (fun _ => rfl) rfl rfl nofun
      · rename_i running
        refine ⟨nofun, nofun, fun results member => ?_⟩
        rcases List.mem_append.mp member with earlier | new
        · exact kept.completed_last results earlier
        · rw [List.mem_singleton.mp new]
          exact (kept.end_last stage_eq).resolve_left running
  | finish =>
      rintro -
      exact kept.of_eq rfl id rfl rfl nofun
  | done => exact fun _ => kept

/-- No stream ends before its last batch. -/
def streamEndsWell {μ : Type} (loader : DataLoader) : LoaderOp μ → Bool
  | .message outcome => endsAfterLast loader outcome
  | .pause | .resume | .stop | .clientSend | .step _ | .receive | .dropReceiver => true

theorem Untruncated.applyLoaderOp {μ : Type} (verify : μ → StreamResult) (inv : LoaderInv loader)
    (kept : Untruncated loader) {op : LoaderOp μ} (ends : streamEndsWell loader op = true) :
    Untruncated (applyLoaderOp verify loader op) := by
  cases op with
  | pause | resume | dropReceiver => exact kept.of_stream_eq rfl rfl rfl id
  | stop => exact kept.of_stream_eq rfl rfl rfl fun _ => rfl
  | message outcome => exact kept.message verify ends
  | clientSend => exact kept.clientSend
  | step opened => exact kept.step inv opened
  | receive => exact kept.receive

end Loader

/-! ## Runs that complete -/

/-- Of each configured epoch, the last batch was processed. -/
def EpochsProcessed (executor : TrainingExecutor) : Prop :=
  ∀ epoch < executor.config.epochs,
    ∃ batch ∈ executor.processed, batch.epoch = epoch ∧ batch.isEpochEnd = true

/-- A truncated stream is not a complete epoch, for the loader or for a run that returns. -/
def TruncationSeen (executor : TrainingExecutor) : Prop :=
  (∀ loader, executor.loader = some loader → EpochsEnded loader) ∧
    ∀ status, executor.stage = .returned (.ok status) → status.state = .completed →
      EpochsProcessed executor

/-- The training loop does not find that its loader has ended because of a stop. -/
def endsUnstopped (executor : TrainingExecutor) : Bool :=
  match executor.stage, executor.loader with
  | .receiving, some loader =>
      match loader.output.receive with
      | (.ended, _) => !loader.stopped
      | (.waiting, _) | (.item _, _) => true
  | _, _ => true

/-- No stream ends before its last batch, and no training loop because of a stop. -/
def runEndsWell {μ : Type} (executor : TrainingExecutor) : TrainingOp μ → Bool
  | .message outcome => executor.loader.all fun loader => endsAfterLast loader outcome
  | .step _ => endsUnstopped executor
  | .pause | .resume | .stop | .clientSend | .loader _ => true

theorem exists_mem_numberFrom (globalIndex epochIndex epoch : Nat) {batches : List VerifiedBatch}
    {batch : VerifiedBatch} (member : batch ∈ batches) :
    ∃ numbered ∈ numberFrom globalIndex epochIndex epoch batches,
      numbered.epoch = epoch ∧ numbered.isEpochEnd = batch.isLast := by
  induction batches generalizing globalIndex epochIndex with
  | nil => cases member
  | cons first rest induction =>
      rcases List.mem_cons.mp member with rfl | later
      · exact ⟨_, List.mem_cons_self, rfl, rfl⟩
      · obtain ⟨numbered, numbered_mem, found⟩ :=
          induction (globalIndex + 1) (epochIndex + 1) later
        exact ⟨numbered, List.mem_cons_of_mem _ numbered_mem, found⟩

theorem exists_mem_numberEpochs (globalIndex first : Nat) {epochs : List (List VerifiedBatch)}
    {epoch : Nat} {batches : List VerifiedBatch} (found : epochs[epoch]? = some batches)
    {batch : VerifiedBatch} (member : batch ∈ batches) :
    ∃ numbered ∈ numberEpochs globalIndex first epochs,
      numbered.epoch = first + epoch ∧ numbered.isEpochEnd = batch.isLast := by
  induction epochs generalizing globalIndex first epoch with
  | nil => cases found
  | cons earlier rest induction =>
      cases epoch with
      | zero =>
          obtain rfl : earlier = batches := Option.some.inj found
          obtain ⟨numbered, numbered_mem, numbered_eq⟩ :=
            exists_mem_numberFrom globalIndex 0 first member
          exact ⟨numbered, List.mem_append_left _ numbered_mem, numbered_eq⟩
      | succ epoch =>
          obtain ⟨numbered, numbered_mem, epoch_eq, last_eq⟩ :=
            induction (globalIndex + earlier.length) (first + 1) found
          exact ⟨numbered, List.mem_append_right _ numbered_mem, by omega, last_eq⟩

/-- Of each complete epoch, the last batch is among those that the loader has sent. -/
theorem exists_last {loader : DataLoader} (ended : EpochsEnded loader) {epoch : Nat}
    (complete : epoch < loader.completed.length) :
    ∃ batch ∈ loader.numberedBatches [], batch.epoch = epoch ∧ batch.isEpochEnd = true := by
  have last := ended _ (List.getElem_mem complete)
  obtain ⟨batch, batch_mem, is_last⟩ := hasLast_iff.mp last
  have found : (loader.completed.map epochBatches ++ [[]])[epoch]? =
      some (epochBatches loader.completed[epoch]) := by
    rw [List.getElem?_append_left (by rwa [List.length_map]), List.getElem?_map,
      List.getElem?_eq_getElem complete, Option.map_some]
  obtain ⟨numbered, numbered_mem, epoch_eq, last_eq⟩ := exists_mem_numberEpochs 0 0 found batch_mem
  exact ⟨numbered, numbered_mem, by omega, last_eq.trans is_last⟩

/-- A regular end of the training loop is no stop. -/
def EndedRegularly (executor : TrainingExecutor) : TrainingStage → Prop
  | .leaving (.ok _) | .concluding (.ok _) => executor.endedByStop = false
  | .returned (.ok status) => status.state = .completed → executor.endedByStop = false
  | _ => True

/-- The invariant of a run in which all streams end well. -/
structure CompleteInv (executor : TrainingExecutor) : Prop where
  inv : TrainingInv executor
  untruncated : ∀ loader, executor.loader = some loader → Untruncated loader
  regular : EndedRegularly executor executor.stage

section Steps

variable {executor after : TrainingExecutor}

theorem CompleteInv.begin (executor : TrainingExecutor) : CompleteInv executor.begin where
  inv := .begin executor
  untruncated := forall_loader_begin
  regular := by
    unfold TrainingExecutor.begin
    dsimp only
    split <;> trivial

theorem EndedRegularly.next (regular : EndedRegularly executor executor.stage)
    (stage_eq : executor.stage = .receiving) (unstopped : endsUnstopped executor = true)
    {loader : DataLoader} (found : executor.loader = some loader) :
    EndedRegularly (executor.next loader) (executor.next loader).stage := by
  unfold TrainingExecutor.next
  split
  · exact regular
  · rename_i ended
    simp only [endsUnstopped, stage_eq, found, ended, Bool.not_eq_true'] at unstopped
    exact unstopped
  · trivial

theorem EndedRegularly.step (regular : EndedRegularly executor executor.stage)
    (unstopped : endsUnstopped executor = true) (env : TrainingEnv) :
    EndedRegularly (executor.step env) (executor.step env).stage := by
  revert regular
  unfold TrainingExecutor.step
  cases stage_eq : executor.stage with
  | verifying | initializing | held _ | sleeping _ =>
      rintro -
      dsimp only
      split <;> trivial
  | verified =>
      rintro -
      dsimp only
      split
      · exact nofun
      · trivial
  | started => exact id
  | receiving =>
      intro regular
      dsimp only
      split
      · rwa [stage_eq]
      · rename_i loader found
        exact EndedRegularly.next (by rwa [stage_eq]) stage_eq unstopped found
  | unpaused result =>
      rintro -
      dsimp only
      split
      · trivial
      · cases result with
        | error _ => trivial
        | ok batch =>
            dsimp only
            unfold TrainingExecutor.process
            split <;> trivial
  | leaving result =>
      intro regular
      cases result <;> exact regular
  | concluding result =>
      intro regular
      cases result with
      | ok _ => exact fun _ => regular
      | error _ => trivial
  | returned _ | panicked =>
      intro regular
      rwa [stage_eq]

theorem SameRun.endedRegularly (same : SameRun executor after)
    (regular : EndedRegularly executor executor.stage) : EndedRegularly after after.stage := by
  rw [same.stage_eq]
  revert regular
  cases executor.stage with
  | leaving result | concluding result | returned result =>
      cases result <;> simp only [EndedRegularly, same.ended_eq] <;> exact id
  | verifying | verified | initializing | started | receiving | held _ | sleeping _ | unpaused _
  | panicked => exact id

theorem CompleteInv.applyTrainingOp {μ : Type} (verify : μ → StreamResult)
    (complete : CompleteInv executor) {op : TrainingOp μ} (ends : runEndsWell executor op = true) :
    CompleteInv (applyTrainingOp verify executor op) := by
  have kept := complete.untruncated
  have regular := complete.regular
  refine ⟨complete.inv.applyTrainingOp verify op, ?_, ?_⟩
  · cases op with
    | pause | resume => exact forall_onAttached (fun _ kept => kept.of_stream_eq rfl rfl rfl id) kept
    | stop =>
        exact forall_onAttached (fun _ kept => kept.of_stream_eq rfl rfl rfl fun _ => rfl) kept
    | message outcome =>
        refine forall_onLoader fun loader found => ?_
        rw [runEndsWell, found, Option.all_some] at ends
        exact (kept loader found).message verify ends
    | clientSend => exact forall_onLoader fun loader found => (kept loader found).clientSend
    | loader opened =>
        refine forall_onLoader fun loader found => ?_
        exact (kept loader found).step (complete.inv.loader_inv loader found) opened
    | step env =>
        exact (loaderStep executor env).forall (fun _ kept => kept.of_stream_eq rfl rfl rfl id)
          (fun _ kept => kept.receive) (fun _ kept => kept.of_stream_eq rfl rfl rfl fun _ => rfl)
          (.started _) kept
  · cases op with
    | step env => exact regular.step ends env
    | pause | resume | stop | message _ | clientSend | loader _ =>
        exact (sameRun_applyTrainingOp verify fun _ same => by cases same).endedRegularly regular

/-- A run that completes has processed the last batch of each epoch. -/
theorem CompleteInv.truncationSeen (complete : CompleteInv executor) :
    TruncationSeen executor := by
  refine ⟨fun loader found => (complete.untruncated loader found).completed_last, ?_⟩
  intro status stage_eq completed epoch configured
  have run_inv := complete.inv.run_inv
  have regular := complete.regular
  rw [stage_eq] at run_inv regular
  obtain ⟨loader, found, -, whole⟩ := run_inv completed
  obtain ⟨processed_eq, limit⟩ := whole (regular completed)
  have loader_inv := complete.inv.loader_inv loader found
  rw [DataLoader.limitReached, complete.inv.epochs_eq loader found, Option.any_some,
    decide_eq_true_eq, ← loader_inv.epoch_eq] at limit
  rw [processed_eq]
  exact exists_last (complete.untruncated loader found).completed_last (by omega)

end Steps

/-- Where no stream ends before its last batch, no truncated stream is a complete epoch of a
loader; where no training loop ends because of a stop either, a run that completes has processed the
last batch of each configured epoch. -/
theorem truncation_seen {μ : Type} (verify : μ → StreamResult) :
    (∀ (config : DataLoaderConfig) (ops : List (LoaderOp μ)),
      EveryStep (applyLoaderOp verify) (fun loader op => streamEndsWell loader op = true)
        (.started config) ops →
          EveryState (applyLoaderOp verify) EpochsEnded (.started config) ops) ∧
    ∀ (executor : TrainingExecutor) (ops : List (TrainingOp μ)),
      EveryStep (applyTrainingOp verify) (fun executor op => runEndsWell executor op = true)
        executor.begin ops →
          EveryState (applyTrainingOp verify) TruncationSeen executor.begin ops := by
  constructor
  · intro config ops ends
    have keeps : ∀ (loader : DataLoader) (op : LoaderOp μ), LoaderInv loader ∧ Untruncated loader →
        streamEndsWell loader op = true → LoaderInv (applyLoaderOp verify loader op) ∧
          Untruncated (applyLoaderOp verify loader op) :=
      fun loader op both ends =>
        ⟨both.1.applyLoaderOp verify op, both.2.applyLoaderOp verify both.1 ends⟩
    exact (everyState_of_everyStep keeps ⟨.started config, .started config⟩ ends).mono
      fun _ both => both.2.completed_last
  · intro executor ops ends
    exact (everyState_of_everyStep (fun _ _ complete ends => complete.applyTrainingOp verify ends)
      (CompleteInv.begin executor) ends).mono fun _ complete => complete.truncationSeen

namespace OneEpoch

/-- A job of one epoch without verification. -/
def job : TrainingJobConfig :=
  { datasetId := "00000000-0000-0000-0000-000000000001"
    batchSize := 32
    epochs := 1
    shuffle := false
    verifyBeforeTraining := false
    prefetchBatches := 4
    accessToken := none
    maxTrustLevel := 2 }

/-- All goes well, and the status is not due. -/
def env : TrainingEnv :=
  { verification := .error (.dataStreamError "")
    connect := .ok ()
    callback := .ok ()
    statusDue := false }

/-- A run up to the stream of the first epoch. -/
def opening : List (TrainingOp BatchResponse) :=
  [.step env, .step env, .step env, .loader (.ok ()), .loader (.ok ())]

/-- The last and only batch, with hashes that the client accepts. -/
def batch : BatchResponse :=
  { batchIndex := 0
    items := [[1]]
    itemHashes := [Reference.hash [1]]
    batchHash := Reference.hash [1]
    totalBatches := 1
    isLast := true }

/-- The batch arrives and is passed on to the callback, and the stream is closed. -/
def wholeRun : List (TrainingOp BatchResponse) :=
  opening ++ [.message (.ok (some batch)), .clientSend, .message (.ok none)] ++
    List.replicate 7 (.loader (.ok ())) ++ List.replicate 6 (.step env)

/-- The stream fails before its first batch. -/
def failedRun : List (TrainingOp BatchResponse) :=
  opening ++ [.message (.error "connection reset")] ++ List.replicate 4 (.loader (.ok ())) ++
    List.replicate 3 (.step env)

/-- The run with a whole stream, which completes. -/
theorem wholeRun_seen :
    EveryState (applyTrainingOp (verifyMessage Reference.hash)) TruncationSeen
        (TrainingExecutor.new job).begin wholeRun ∧
      (runAll (applyTrainingOp (verifyMessage Reference.hash)) (TrainingExecutor.new job).begin
        wholeRun).state = .completed := by
  refine ⟨(truncation_seen (verifyMessage Reference.hash)).2 (.new job) wholeRun ?_, ?_⟩ <;>
    decide

/-- The run whose stream failed completes as well, without a batch. -/
theorem failedRun_not_seen :
    ¬ EveryState (applyTrainingOp (verifyMessage Reference.hash)) TruncationSeen
      (TrainingExecutor.new job).begin failedRun := by
  intro seen
  obtain ⟨-, processed⟩ := seen.last
  obtain ⟨batch, member, -⟩ := processed _ rfl rfl 0 Nat.zero_lt_one
  cases member

end OneEpoch

end CyxCloud.Node
