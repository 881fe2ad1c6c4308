import CyxCloud.Gateway.UptimeSeconds

/-!
# Crediting uptime

Which nodes get the seconds of a tick when its statements may fail: all up to the first failure,
and the node of that statement if it took effect nevertheless.
-/

namespace CyxCloud.Gateway

open CyxCloud.Core hiding Chunk
open Library Metadata Effect PaymentSystem

/-! ## Where the statements stop -/

namespace TickEnv

variable (env : TickEnv)

/-- How the statements about a node end. -/
def creditAnswer (nodeId : Uuid) : Except Halt Unit :=
  match (env.ensureUptime nodeId).answer with
  | .ok () => (env.addUptime nodeId).answer
  | .error halt => .error halt

/-- The seconds reach the row of a node. -/
def reaches (nodeId : Uuid) : Bool :=
  decide (env.ensureUptime nodeId = .done) && (env.addUptime nodeId).applied

/-- How the statements about some nodes end; the first that fails is the last. -/
def creditAnswers : List Uuid → Except Halt Unit
  | [] => .ok ()
  | nodeId :: rest =>
      match env.creditAnswer nodeId with
      | .ok () => creditAnswers rest
      | .error halt => .error halt

/-- The nodes whose rows are reached before the statements stop. -/
def credited : List Uuid → List Uuid
  | [] => []
  | nodeId :: rest =>
      match env.creditAnswer nodeId with
      | .ok () => nodeId :: credited rest
      | .error _ => if env.reaches nodeId then [nodeId] else []

variable {env}

theorem creditAnswer_eq_ok {nodeId : Uuid} (passes : env.creditAnswer nodeId = .ok ()) :
    env.ensureUptime nodeId = .done ∧ env.addUptime nodeId = .done := by
  unfold creditAnswer at passes
  cases ensured : env.ensureUptime nodeId with
  | done =>
      rw [ensured] at passes
      refine ⟨rfl, ?_⟩
      cases added : env.addUptime nodeId with
      | done => rfl
      | lost | failed | crashed | crashedAfter =>
          rw [added] at passes
          cases passes
  | lost | failed | crashed | crashedAfter =>
      rw [ensured] at passes
      cases passes

theorem reaches_of_passes {nodeId : Uuid} (passes : env.creditAnswer nodeId = .ok ()) :
    env.reaches nodeId = true := by
  obtain ⟨ensured, added⟩ := creditAnswer_eq_ok passes
  simp [reaches, ensured, added, Outcome.applied]

theorem credited_singleton (nodeId : Uuid) :
    env.credited [nodeId] = if env.reaches nodeId then [nodeId] else [] := by
  unfold credited
  split
  · rename_i passes
    rw [if_pos (reaches_of_passes passes)]
    rfl
  · rfl

/-- Every node is reached, or the statements stop at the first node where one fails. -/
theorem credited_cases (env : TickEnv) (nodeIds : List Uuid) :
    (env.creditAnswers nodeIds = .ok () ∧ env.credited nodeIds = nodeIds) ∨
      ∃ before nodeId after halt, nodeIds = before ++ nodeId :: after ∧
        (∀ earlier ∈ before, env.creditAnswer earlier = .ok ()) ∧
        env.creditAnswer nodeId = .error halt := by
  induction nodeIds with
  | nil => exact .inl ⟨rfl, rfl⟩
  | cons nodeId rest induction =>
      cases answer_eq : env.creditAnswer nodeId with
      | error halt => exact .inr ⟨[], nodeId, rest, halt, rfl, by simp, answer_eq⟩
      | ok done =>
          rcases induction with ⟨answers, all⟩ | ⟨before, stop, after, halt, rfl, passed, stopped⟩
          · exact .inl ⟨by rw [creditAnswers, answer_eq]; exact answers,
              by rw [credited, answer_eq, all]⟩
          · exact .inr ⟨nodeId :: before, stop, after, halt, rfl,
              List.forall_mem_cons.mpr ⟨answer_eq, passed⟩, stopped⟩

/-- Where the statements stop. -/
theorem credited_append {before : List Uuid} {nodeId : Uuid} {halt : Halt}
    (passed : ∀ earlier ∈ before, env.creditAnswer earlier = .ok ())
    (stopped : env.creditAnswer nodeId = .error halt) (after : List Uuid) :
    env.creditAnswers (before ++ nodeId :: after) = .error halt ∧
      env.credited (before ++ nodeId :: after) =
        before ++ if env.reaches nodeId then [nodeId] else [] := by
  induction before with
  | nil => simp [creditAnswers, credited, stopped]
  | cons first rest induction =>
      obtain ⟨first_passed, rest_passed⟩ := List.forall_mem_cons.mp passed
      obtain ⟨answers, reached⟩ := induction rest_passed
      simp [creditAnswers, credited, first_passed, answers, reached]

theorem credited_subset (nodeIds : List Uuid) : env.credited nodeIds ⊆ nodeIds := by
  induction nodeIds with
  | nil => exact List.Subset.refl []
  | cons nodeId rest induction =>
      unfold credited
      split
      · exact List.cons_subset_cons nodeId induction
      · split
        · simp
        · simp

/-- The statement that fails is about the first node and its seconds stay out, or it is the last
addition and the seconds get in. -/
def FailsAtEnds (env : TickEnv) (nodeIds : List Uuid) : Prop :=
  ∀ before nodeId after, nodeIds = before ++ nodeId :: after →
    (∀ earlier ∈ before, env.creditAnswer earlier = .ok ()) →
      env.creditAnswer nodeId = .error .error →
        (before = [] ∧ env.reaches nodeId = false) ∨ (after = [] ∧ env.reaches nodeId = true)

/-- After an error every node was reached, or none, exactly when the error came at one end. -/
theorem failsAtEnds_iff {nodeIds : List Uuid} (distinct : nodeIds.Nodup) :
    env.FailsAtEnds nodeIds ↔ (env.creditAnswers nodeIds = .error .error →
      nodeIds ⊆ env.credited nodeIds ∨ env.credited nodeIds = []) := by
  constructor
  · intro ends failed
    rcases credited_cases env nodeIds with
      ⟨answers, -⟩ | ⟨before, nodeId, after, halt, rfl, passed, stopped⟩
    · rw [answers] at failed
      cases failed
    · obtain ⟨answers, credited_eq⟩ := credited_append passed stopped after
      obtain rfl : halt = .error := by
        rw [answers] at failed
        exact Except.error.inj failed
      rw [credited_eq]
      rcases ends before nodeId after rfl passed stopped with ⟨rfl, misses⟩ | ⟨rfl, gets⟩
      · exact .inr (by simp [misses])
      · exact .inl (by simp [gets])
  · rintro whole before nodeId after rfl passed stopped
    obtain ⟨answers, credited_eq⟩ := credited_append passed stopped after
    have apart := List.nodup_append.mp distinct
    have outside : nodeId ∉ before := fun member =>
      apart.2.2 nodeId member nodeId List.mem_cons_self rfl
    cases gets : env.reaches nodeId with
    | false =>
        rcases whole answers with all | none_reached
        · have member := all (List.mem_append_right before List.mem_cons_self)
          rw [credited_eq] at member
          exact absurd (by simpa [gets] using member) outside
        · rw [credited_eq] at none_reached
          exact .inl ⟨(List.append_eq_nil_iff.mp none_reached).1, rfl⟩
    | true =>
        rcases whole answers with all | none_reached
        · refine .inr ⟨List.eq_nil_iff_forall_not_mem.mpr fun later member => ?_, rfl⟩
          have later_mem := all (List.mem_append_right before (List.mem_cons_of_mem _ member))
          rw [credited_eq, if_pos gets] at later_mem
          rcases List.mem_append.mp later_mem with early | same
          · exact apart.2.2 later early later (List.mem_cons_of_mem _ member) rfl
          · rw [List.mem_singleton.mp same] at member
            exact (List.nodup_cons.mp apart.2.1).1 member
        · simp [credited_eq, gets] at none_reached

end TickEnv

/-! ## Crediting nodes -/

/-- What crediting some nodes adds to the row with a key. -/
def addedTo (nodeIds : List Uuid) (epoch : Int) (seconds : Nat) (key : Uuid × Int) : Nat :=
  if key.1 ∈ nodeIds ∧ key.2 = epoch then seconds else 0

theorem addedTo_nil (epoch : Int) (seconds : Nat) : addedTo [] epoch seconds = fun _ => 0 := by
  funext key
  simp [addedTo]

theorem addedTo_cons {nodeId : Uuid} {rest : List Uuid} (apart : nodeId ∉ rest) (epoch : Int)
    (seconds : Nat) :
    (fun key => addedTo [nodeId] epoch seconds key + addedTo rest epoch seconds key) =
      addedTo (nodeId :: rest) epoch seconds := by
  funext key
  by_cases first : key.1 = nodeId
  · simp [addedTo, first, apart]
  · simp [addedTo, first]

theorem tryLedger_of_accepts {α : Type} {run : Ledger → Except DbError (Ledger × α)}
    {system : PaymentSystem} {ledger : Ledger} {value : α}
    (accepted : run system.ledger = .ok (ledger, value)) (outcome : Outcome) :
    tryLedger outcome run system =
      (if outcome.applied then system.setLedger ledger else system,
        outcome.answer.map fun _ => value) := by
  refine statement_of_accepts ?_ outcome
  rw [accepted]
  rfl

namespace PaymentDaemon

variable {daemon : PaymentDaemon} {env : TickEnv} {epoch : Int} {now epochStart : Time}

/-- A node that is there has a row after the statement that ensures it. -/
theorem ensureRow_cases {ledger : Ledger} {nodeId : Uuid} (registered : ledger.hasNode nodeId = true)
    (epoch : Int) (epochStart : Time) :
    ∃ new, ledger.createOrGetEpochUptime nodeId epoch epochStart =
        .ok ({ ledger with nodeEpochUptime := ledger.nodeEpochUptime ++ new }, ()) ∧
      (new = [] ∨ new = [.new nodeId epoch epochStart] ∧
        (nodeId, epoch) ∉ ledger.nodeEpochUptime.map NodeEpochUptime.key) ∧
      (nodeId, epoch) ∈ (ledger.nodeEpochUptime ++ new).map NodeEpochUptime.key := by
  have has_iff : ledger.hasUptime nodeId epoch = true ↔
      (nodeId, epoch) ∈ ledger.nodeEpochUptime.map NodeEpochUptime.key := by
    simp [Ledger.hasUptime, NodeEpochUptime.key]
  unfold Ledger.createOrGetEpochUptime
  by_cases has : ledger.hasUptime nodeId epoch = true
  · refine ⟨[], ?_, .inl rfl, ?_⟩
    · rw [if_pos has, List.append_nil]
    · rw [List.append_nil]
      exact has_iff.mp has
  · refine ⟨[.new nodeId epoch epochStart], ?_, .inr ⟨rfl, mt has_iff.mpr has⟩, ?_⟩
    · rw [if_neg has, if_pos registered]
    · simp [NodeEpochUptime.new, NodeEpochUptime.key]

/-- The addition for a node reaches the row with its key if it takes effect. -/
theorem addUptime_credits (now : Time) (system : PaymentSystem) {nodeId : Uuid}
    (present : (nodeId, epoch) ∈ system.ledger.nodeEpochUptime.map NodeEpochUptime.key)
    (ensured : env.ensureUptime nodeId = .done)
    (update : NodeEpochUptime → NodeEpochUptime) {seconds : Nat}
    (same_key : ∀ row, (update row).key = row.key)
    (adds : ∀ row, (update row).seconds = row.seconds + seconds) :
    Credits now (addedTo (if env.reaches nodeId then [nodeId] else []) epoch seconds) system
        (updateLedger (env.addUptime nodeId) (fun ledger => ledger.updateUptime
          (fun row => row.nodeId == nodeId && row.epoch == epoch) update) system).1 ∧
      (updateLedger (env.addUptime nodeId) (fun ledger => ledger.updateUptime
          (fun row => row.nodeId == nodeId && row.epoch == epoch) update) system).2 =
        env.creditAnswer nodeId := by
  refine ⟨?_, by rw [TickEnv.creditAnswer, ensured]; rfl⟩
  have reaches_eq : env.reaches nodeId = (env.addUptime nodeId).applied := by
    simp [TickEnv.reaches, ensured]
  rw [reaches_eq, updateLedger, Effect.update]
  cases (env.addUptime nodeId).applied with
  | false =>
      simp only [Bool.false_eq_true, if_false, addedTo_nil]
      exact Credits.of_view rfl
  | true =>
      simp only [if_true]
      refine Credits.of_update same_key (fun row holds => ?_) (fun row missed => ?_) fun key => ?_
      · have key_eq : row.nodeId = nodeId ∧ row.epoch = epoch := by simpa using holds
        rw [adds, addedTo, if_pos ⟨List.mem_singleton.mpr key_eq.1, key_eq.2⟩]
      · refine if_neg fun is_key => ?_
        have node_eq : row.nodeId = nodeId := List.mem_singleton.mp is_key.1
        have epoch_eq : row.epoch = epoch := is_key.2
        simp [node_eq, epoch_eq] at missed
      · by_cases is_key : key.1 ∈ [nodeId] ∧ key.2 = epoch
        · have key_eq : key = (nodeId, epoch) :=
            Prod.ext (List.mem_singleton.mp is_key.1) is_key.2
          exact .inl (key_eq ▸ present)
        · exact .inr (if_neg is_key)

/-- A node gets its seconds if the statements reach its row. -/
theorem creditUptime_credits (daemon : PaymentDaemon) (env : TickEnv) (now epochStart : Time)
    {system : PaymentSystem} {node : Node}
    (registered : system.ledger.hasNode node.id = true)
    (known : (system.ledger.epochStartedAt epoch).isSome) :
    Credits now (addedTo (env.credited [node.id]) epoch daemon.config.accumulateInterval) system
        (daemon.creditUptime env epoch epochStart node system).1 ∧
      (daemon.creditUptime env epoch epochStart node system).2 = env.creditAnswer node.id := by
  obtain ⟨new, accepted, fresh, present⟩ := ensureRow_cases registered epoch epochStart
  have ensured : Credits now (fun _ => 0) system (system.setLedger
      { system.ledger with nodeEpochUptime := system.ledger.nodeEpochUptime ++ new }) := by
    rcases fresh with rfl | ⟨rfl, absent⟩
    · rw [List.append_nil]
      exact Credits.of_view rfl
    · refine Credits.of_append system (by simp [NodeEpochUptime.new, NodeEpochUptime.seconds])
        (fun unique => ?_) (by simpa [NodeEpochUptime.new] using known)
      rw [List.map_append]
      exact nodup_append_fresh unique absent
  have ran : tryLedger (env.ensureUptime node.id) (fun ledger =>
      ledger.createOrGetEpochUptime node.id epoch epochStart) system = _ :=
    tryLedger_of_accepts accepted _
  rw [TickEnv.credited_singleton, creditUptime]
  by_cases is_done : env.ensureUptime node.id = .done
  · have value : (tryLedger (env.ensureUptime node.id) (fun ledger =>
        ledger.createOrGetEpochUptime node.id epoch epochStart) system).2 = .ok () := by
      rw [ran, is_done]
      rfl
    rw [bind_run_value value, ran, is_done]
    simp only [Outcome.applied, if_true]
    cases node.status with
    | online | recovering =>
        obtain ⟨credits, answer⟩ := addUptime_credits now (system.setLedger
            { system.ledger with nodeEpochUptime := system.ledger.nodeEpochUptime ++ new }) present
          is_done (fun row =>
            { row with secondsOnline := row.secondsOnline + daemon.config.accumulateInterval })
          (fun _ => rfl) fun row => Nat.add_right_comm _ _ _
        exact ⟨ensured.after_none credits, answer⟩
    | offline | draining | maintenance =>
        obtain ⟨credits, answer⟩ := addUptime_credits now (system.setLedger
            { system.ledger with nodeEpochUptime := system.ledger.nodeEpochUptime ++ new }) present
          is_done (fun row =>
            { row with secondsOffline := row.secondsOffline + daemon.config.accumulateInterval })
          (fun _ => rfl) fun row => (Nat.add_assoc _ _ _).symm
        exact ⟨ensured.after_none credits, answer⟩
  · obtain ⟨halt, answer_eq⟩ := Outcome.exists_halt is_done
    have misses : env.reaches node.id = false := by simp [TickEnv.reaches, is_done]
    have stopped : (tryLedger (env.ensureUptime node.id) (fun ledger =>
        ledger.createOrGetEpochUptime node.id epoch epochStart) system).2 = .error halt := by
      rw [ran, answer_eq]
      rfl
    rw [bind_run_halt stopped, misses, TickEnv.creditAnswer, answer_eq]
    refine ⟨?_, rfl⟩
    simp only [Bool.false_eq_true, if_false, addedTo_nil]
    rw [ran]
    split
    · exact ensured
    · exact Credits.of_view rfl

/-- Crediting some nodes reaches the rows of those before the statements stop. -/
theorem creditNodes_credits (daemon : PaymentDaemon) (env : TickEnv) (now epochStart : Time)
    {nodes : List Node} {system : PaymentSystem}
    (registered : ∀ node ∈ nodes, system.ledger.hasNode node.id = true)
    (distinct : (nodes.map Node.id).Nodup)
    (known : (system.ledger.epochStartedAt epoch).isSome) :
    Credits now (addedTo (env.credited (nodes.map Node.id)) epoch daemon.config.accumulateInterval)
        system (each nodes (daemon.creditUptime env epoch epochStart) system).1 ∧
      (each nodes (daemon.creditUptime env epoch epochStart) system).2 =
        env.creditAnswers (nodes.map Node.id) := by
  induction nodes generalizing system with
  | nil =>
      refine ⟨?_, rfl⟩
      rw [List.map_nil, TickEnv.credited, addedTo_nil]
      exact Credits.of_view rfl
  | cons node rest induction =>
      obtain ⟨here, later⟩ := List.forall_mem_cons.mp registered
      obtain ⟨apart, rest_distinct⟩ := List.nodup_cons.mp distinct
      obtain ⟨credits, answer⟩ := creditUptime_credits daemon env now epochStart here known
      rw [each, List.map_cons, TickEnv.creditAnswers]
      cases answer_eq : env.creditAnswer node.id with
      | error halt =>
          rw [answer_eq] at answer
          rw [bind_run_halt answer]
          refine ⟨?_, rfl⟩
          rw [TickEnv.credited_singleton] at credits
          rw [TickEnv.credited, answer_eq]
          exact credits
      | ok done =>
          rw [answer_eq] at answer
          rw [bind_run_value answer, TickEnv.credited, answer_eq]
          rw [TickEnv.credited_singleton, if_pos (TickEnv.reaches_of_passes answer_eq)] at credits
          have still_there : ∀ other ∈ rest,
              (daemon.creditUptime env epoch epochStart node system).1.ledger.hasNode other.id =
                true := by
            intro other member
            rw [Database.hasNode, credits.nodes_eq]
            exact later other member
          obtain ⟨others, answers⟩ := induction still_there rest_distinct (credits.isSome known)
          refine ⟨?_, answers⟩
          have outside : node.id ∉ env.credited (rest.map Node.id) := fun member =>
            apart (TickEnv.credited_subset _ member)
          rw [← addedTo_cons outside]
          exact credits.trans others

end PaymentDaemon

/-! ## Ticks -/

namespace TickEnv

/-- The nodes that a tick finds, in its order. -/
def nodeIds (env : TickEnv) (system : PaymentSystem) : List Uuid :=
  (system.ledger.getAllNodes env.nodeOrder).map Node.id

/-- The nodes that get the seconds of a tick. -/
def creditedNodes (env : TickEnv) (system : PaymentSystem) : List Uuid :=
  if system.metrics.currentEpoch ≠ 0 ∧ env.allNodes = .done then env.credited (env.nodeIds system)
  else []

variable {env : TickEnv} {system : PaymentSystem}

theorem nodeIds_perm (env : TickEnv) (system : PaymentSystem) :
    (env.nodeIds system).Perm (system.ledger.nodes.map Node.id) :=
  ((List.mergeSort_perm _ _).trans (env.nodeOrder.arrange_perm _)).map Node.id

theorem mem_nodeIds {nodeId : Uuid} :
    nodeId ∈ env.nodeIds system ↔ ∃ node ∈ system.ledger.nodes, node.id = nodeId := by
  rw [(env.nodeIds_perm system).mem_iff, List.mem_map]

theorem nodeIds_nodup (env : TickEnv) (tracked : system.Tracked) : (env.nodeIds system).Nodup :=
  (env.nodeIds_perm system).nodup_iff.mpr tracked.nodes

end TickEnv

namespace PaymentDaemon

variable {daemon : PaymentDaemon} {env : TickEnv} {system : PaymentSystem}

/-- Crediting uptime adds the interval to the rows of the nodes that it reaches. -/
theorem accumulateUptime_credits (daemon : PaymentDaemon) (env : TickEnv) (now : Time)
    (tracked : system.Tracked) :
    Credits now (addedTo (env.creditedNodes system) system.metrics.currentEpoch
        daemon.config.accumulateInterval) system (daemon.accumulateUptime env system).1 ∧
      (system.metrics.currentEpoch ≠ 0 → env.allNodes = .done →
        (daemon.accumulateUptime env system).2 = env.creditAnswers (env.nodeIds system)) := by
  have run_eq : daemon.accumulateUptime env system =
      (if system.metrics.currentEpoch = 0 then pure () else do
        let nodes ← readLedger env.allNodes fun ledger => ledger.getAllNodes env.nodeOrder
        Effect.each nodes (daemon.creditUptime env system.metrics.currentEpoch
          (system.metrics.epochStart.getD env.now))
        updateMetrics fun metrics =>
          { metrics with
            uptimeUpdates := metrics.uptimeUpdates + 1
            lastAccumulateAt := some env.now } : Effect PaymentSystem Unit) system := rfl
  rw [run_eq, TickEnv.creditedNodes]
  by_cases idle : system.metrics.currentEpoch = 0
  · rw [if_pos idle, if_neg fun both => both.1 idle, addedTo_nil]
    exact ⟨Credits.of_view rfl, fun nonzero => absurd idle nonzero⟩
  · rw [if_neg idle]
    by_cases listed : env.allNodes = .done
    · have read : readLedger env.allNodes (fun ledger => ledger.getAllNodes env.nodeOrder) system =
          (system, .ok (system.ledger.getAllNodes env.nodeOrder)) := by
        rw [listed]
        rfl
      rw [bind_run_ok read, if_pos ⟨idle, listed⟩]
      have registered : ∀ node ∈ system.ledger.getAllNodes env.nodeOrder,
          system.ledger.hasNode node.id = true := by
        intro node member
        rw [Database.hasNode, List.any_eq_true]
        exact ⟨node, env.nodeOrder.mem_arrange.mp (List.mem_mergeSort.mp member), by simp⟩
      obtain ⟨credits, answers⟩ := creditNodes_credits daemon env now
        (system.metrics.epochStart.getD env.now) registered (env.nodeIds_nodup tracked)
        (tracked.current idle)
      rcases bind_cases (each (system.ledger.getAllNodes env.nodeOrder)
          (daemon.creditUptime env system.metrics.currentEpoch
            (system.metrics.epochStart.getD env.now)))
          (fun _ => updateMetrics fun metrics =>
            { metrics with
              uptimeUpdates := metrics.uptimeUpdates + 1
              lastAccumulateAt := some env.now }) system with
        ⟨reached, halt, ran, result⟩ | ⟨reached, done, ran, result⟩
      · rw [ran] at credits answers
        rw [result]
        exact ⟨credits, fun _ _ => answers⟩
      · rw [ran] at credits answers
        rw [result]
        exact ⟨credits.then_none (Credits.of_view rfl), fun _ _ => answers⟩
    · obtain ⟨halt, answer_eq⟩ := Outcome.exists_halt listed
      have read : readLedger env.allNodes (fun ledger => ledger.getAllNodes env.nodeOrder) system =
          (system, .error halt) := by
        simp [readLedger, query, answer_eq, Except.map]
      rw [bind_run_error read, if_neg fun both => listed both.2, addedTo_nil]
      exact ⟨Credits.of_view rfl, fun _ is_done => absurd is_done listed⟩

/-- So does a whole tick. -/
theorem tick_credits (daemon : PaymentDaemon) (env : TickEnv) (tracked : system.Tracked)
    (running : system.running = true) :
    Credits env.dbNow (addedTo (env.creditedNodes system) system.metrics.currentEpoch
      daemon.config.accumulateInterval) system (daemon.tick env system) := by
  have credits := (daemon.accumulateUptime_credits env env.dbNow tracked).1
  rcases daemon.tick_running env running with (same | same) | ⟨epoch, -, ⟨-, same⟩ | ⟨-, same⟩⟩
  · rw [same]
    exact credits
  · rw [same]
    exact credits.then_none (crash_keepsSeconds _)
  · rw [same]
    exact credits.then_none (daemon.endEpoch_keepsSeconds env epoch _)
  · rw [same]
    exact (credits.then_none (daemon.endEpoch_keepsSeconds env epoch _)).then_none
      (crash_keepsSeconds _)

/-- A tick that does not end an epoch starts none. -/
theorem tick_keeps_epochs (daemon : PaymentDaemon) (env : TickEnv)
    (running : system.running = true) (not_due : dueEpoch env.now system.metrics = none) :
    (daemon.tick env system).ledger.paymentEpochs = system.ledger.paymentEpochs := by
  have kept : Obeys (.keep fun system : PaymentSystem => system.ledger.paymentEpochs)
      (daemon.accumulateUptime env) :=
    accumulateUptime_keeps (fun _ _ => rfl) fun _ _ _ _ => rfl
  rcases daemon.tick_running env running with (same | same) | ⟨epoch, due, -⟩
  · rw [same]
    exact kept system
  · rw [same]
    exact kept system
  · rw [not_due] at due
    cases due

/-! ## All or none -/

/-- If crediting uptime returns an error, it has added its interval to every node or to none. -/
def CreditsAllOrNone (daemon : PaymentDaemon) (env : TickEnv) (system : PaymentSystem) : Prop :=
  (daemon.accumulateUptime env system).2 = .error .error →
    (∀ node ∈ system.ledger.nodes,
        (daemon.accumulateUptime env system).1.ledger.uptimeSeconds node.id
            system.metrics.currentEpoch =
          system.ledger.uptimeSeconds node.id system.metrics.currentEpoch +
            daemon.config.accumulateInterval) ∨
      ∀ node ∈ system.ledger.nodes,
        (daemon.accumulateUptime env system).1.ledger.uptimeSeconds node.id
            system.metrics.currentEpoch =
          system.ledger.uptimeSeconds node.id system.metrics.currentEpoch

/-- After an error every node got the interval, or none did, exactly when the statement that failed
was at one end of the nodes. -/
theorem creditsAllOrNone_iff (daemon : PaymentDaemon) (env : TickEnv) (tracked : system.Tracked)
    (positive : 0 < daemon.config.accumulateInterval) :
    CreditsAllOrNone daemon env system ↔ (system.metrics.currentEpoch ≠ 0 →
      env.allNodes = .done → env.FailsAtEnds (env.nodeIds system)) := by
  obtain ⟨credits, answers⟩ := daemon.accumulateUptime_credits env env.dbNow tracked
  have seconds_eq : ∀ nodeId,
      (daemon.accumulateUptime env system).1.ledger.uptimeSeconds nodeId
          system.metrics.currentEpoch =
        system.ledger.uptimeSeconds nodeId system.metrics.currentEpoch +
          if nodeId ∈ env.creditedNodes system then daemon.config.accumulateInterval else 0 := by
    intro nodeId
    have added := credits.seconds_eq (nodeId, system.metrics.currentEpoch)
    simpa [addedTo, Ledger.uptimeSeconds] using added
  by_cases listed : system.metrics.currentEpoch ≠ 0 ∧ env.allNodes = .done
  · have credited_eq : env.creditedNodes system = env.credited (env.nodeIds system) := if_pos listed
    have every_iff : (∀ node ∈ system.ledger.nodes,
        (daemon.accumulateUptime env system).1.ledger.uptimeSeconds node.id
            system.metrics.currentEpoch =
          system.ledger.uptimeSeconds node.id system.metrics.currentEpoch +
            daemon.config.accumulateInterval) ↔
        env.nodeIds system ⊆ env.credited (env.nodeIds system) := by
      rw [← credited_eq]
      constructor
      · intro every nodeId member
        obtain ⟨node, node_mem, rfl⟩ := TickEnv.mem_nodeIds.mp member
        by_contra missed
        have same := (seconds_eq node.id).symm.trans (every node node_mem)
        rw [if_neg missed] at same
        exact positive.ne (Nat.add_left_cancel same)
      · intro all node node_mem
        rw [seconds_eq, if_pos (all (TickEnv.mem_nodeIds.mpr ⟨node, node_mem, rfl⟩))]
    have none_iff : (∀ node ∈ system.ledger.nodes,
        (daemon.accumulateUptime env system).1.ledger.uptimeSeconds node.id
            system.metrics.currentEpoch =
          system.ledger.uptimeSeconds node.id system.metrics.currentEpoch) ↔
        env.credited (env.nodeIds system) = [] := by
      rw [← credited_eq]
      constructor
      · intro unchanged
        refine List.eq_nil_iff_forall_not_mem.mpr fun nodeId reached => ?_
        have member := reached
        rw [credited_eq] at member
        obtain ⟨node, node_mem, rfl⟩ := TickEnv.mem_nodeIds.mp (TickEnv.credited_subset _ member)
        have same := (seconds_eq node.id).symm.trans (unchanged node node_mem)
        rw [if_pos reached] at same
        exact positive.ne' (Nat.add_eq_left.mp same)
      · intro empty node _
        rw [seconds_eq, empty, if_neg List.not_mem_nil, Nat.add_zero]
    rw [CreditsAllOrNone, every_iff, none_iff, answers listed.1 listed.2,
      ← TickEnv.failsAtEnds_iff (env.nodeIds_nodup tracked)]
    exact ⟨fun ends _ _ => ends, fun ends => ends listed.1 listed.2⟩
  · have empty : env.creditedNodes system = [] := if_neg listed
    refine ⟨fun _ active is_done => absurd ⟨active, is_done⟩ listed, fun _ _ => .inr ?_⟩
    intro node _
    rw [seconds_eq, empty, if_neg List.not_mem_nil, Nat.add_zero]

end PaymentDaemon

end CyxCloud.Gateway
