import CyxCloud.Gateway.UptimeCredits
import CyxCloud.Library.Runs

/-!
# Uptime and the clock

The loop of `PaymentDaemon::start` in time.  The timer is due at once when the daemon starts, before
the daemon has found or opened an epoch, and one interval after it was due before; a tick that comes
late does not move the later ones.  The database reads the clock, in microseconds; the gateway's own
clock may show anything.
-/

namespace CyxCloud.Gateway

open CyxCloud.Core hiding Chunk
open Library Metadata PaymentDaemon

/-- The database reads a clock. -/
def StartEnv.withClock (env : StartEnv) (now : Time) : StartEnv := { env with dbNow := now }

/-- The database reads a clock. -/
def TickEnv.withClock (env : TickEnv) (now : Time) : TickEnv := { env with dbNow := now }

theorem TickEnv.credited_withClock (env : TickEnv) (now : Time) (nodeIds : List Uuid) :
    (env.withClock now).credited nodeIds = env.credited nodeIds := by
  induction nodeIds with
  | nil => rfl
  | cons nodeId rest induction =>
      rw [credited, credited, induction]
      rfl

/-- Who is credited does not depend on the clock. -/
theorem TickEnv.creditedNodes_withClock (env : TickEnv) (now : Time) (system : PaymentSystem) :
    (env.withClock now).creditedNodes system = env.creditedNodes system := by
  rw [creditedNodes, creditedNodes, credited_withClock]
  rfl

/-- A system, the time, and when the timer of the daemon is due. -/
structure TimedPayments where
  system : PaymentSystem
  now : Time
  due : Time

/-- A step in time. -/
inductive TimedOp where
  | wait (span : Nat)
  /-- The daemon starts, or starts again, and has its epoch some time after its timer. -/
  | start (env : StartEnv) (lag : Nat)
  | tick (env : TickEnv)
  /-- Other parts of the gateway change other tables. -/
  | others (db : Database) (unique : (db.nodes.map Node.id).Nodup)

namespace TimedPayments

/-- Time between two ticks. -/
def interval (daemon : PaymentDaemon) : Nat :=
  daemon.config.accumulateInterval * MICROS_PER_SECOND

/-- The daemon is up and its timer has fired. -/
def Fires (state : TimedPayments) : Prop := state.system.running = true ∧ state.due ≤ state.now

instance (state : TimedPayments) : Decidable state.Fires :=
  inferInstanceAs (Decidable (_ ∧ _))

/-- The state after a step.  There is no timer with a period of zero: the daemon panics. -/
def apply (daemon : PaymentDaemon) (state : TimedPayments) : TimedOp → TimedPayments
  | .wait span => { state with now := state.now + span }
  | .start env lag =>
      if daemon.config.accumulateInterval = 0 then
        { state with system := state.system.crash }
      else
        { system := PaymentDaemon.start (env.withClock (state.now + lag)) state.system
          now := state.now + lag
          due := state.now }
  | .tick env =>
      if state.Fires then
        { state with
          system := daemon.tick (env.withClock state.now) state.system
          due := state.due + interval daemon }
      else
        state
  | .others db _ => { state with system := (PaymentOp.others db).apply daemon state.system }

/-- No row accounts for more than the time since its epoch started and one interval. -/
def Bounded (daemon : PaymentDaemon) (state : TimedPayments) : Prop :=
  ∀ row ∈ state.system.ledger.nodeEpochUptime,
    ∃ startedAt ∈ state.system.ledger.epochStartedAt row.epoch,
      startedAt + row.seconds * MICROS_PER_SECOND ≤ state.now + interval daemon

instance (daemon : PaymentDaemon) : DecidablePred (Bounded daemon) := fun state =>
  inferInstanceAs (Decidable (∀ row ∈ state.system.ledger.nodeEpochUptime,
    ∃ startedAt ∈ state.system.ledger.epochStartedAt row.epoch,
      startedAt + row.seconds * MICROS_PER_SECOND ≤ state.now + interval daemon))

/-- A tick that fires credits every node or none if it returns an error. -/
def AllOrNone (daemon : PaymentDaemon) (state : TimedPayments) : TimedOp → Prop
  | .tick env => state.Fires → CreditsAllOrNone daemon (env.withClock state.now) state.system
  | _ => True

/-- A tick that fires credits no node that has more seconds than have passed since the epoch
started. -/
def CreditsBehindClock (state : TimedPayments) : TimedOp → Prop
  | .tick env => state.Fires → ∀ nodeId ∈ env.creditedNodes state.system,
      ∀ startedAt ∈ state.system.ledger.epochStartedAt state.system.metrics.currentEpoch,
        startedAt +
            state.system.ledger.uptimeSeconds nodeId state.system.metrics.currentEpoch *
              MICROS_PER_SECOND ≤
          state.now
  | _ => True

/-- If a statement about a node fails in a tick that fires, then it is about the first node and its
seconds stay out, or about the last one and they get in. -/
def FailsAtEnds (state : TimedPayments) : TimedOp → Prop
  | .tick env => state.Fires → state.system.metrics.currentEpoch ≠ 0 → env.allNodes = .done →
      env.FailsAtEnds (env.nodeIds state.system)
  | _ => True

/-! ## One step -/

/-- What holds of every state of a run. -/
structure Regular (daemon : PaymentDaemon) (state : TimedPayments) : Prop where
  tracked : state.system.Tracked
  past : ∀ epoch, ∀ startedAt ∈ state.system.ledger.epochStartedAt epoch, startedAt ≤ state.now
  positive : state.system.running = true → 0 < daemon.config.accumulateInterval

section Step

variable {daemon : PaymentDaemon} {state : TimedPayments}

/-- Without a start an epoch has no rows. -/
theorem seconds_eq_zero (tracked : state.system.Tracked) {key : Uuid × Int}
    (missing : state.system.ledger.epochStartedAt key.2 = none) :
    secondsOf state.system.ledger.nodeEpochUptime key = 0 := by
  by_contra nonzero
  obtain ⟨row, member, rfl⟩ := exists_row_of_secondsOf_pos (Nat.pos_of_ne_zero nonzero)
  have known := tracked.started row member
  rw [show row.epoch = row.key.2 from rfl, missing] at known
  cases known

/-- The bound, for all keys. -/
theorem bounded_iff (regular : Regular daemon state) :
    Bounded daemon state ↔ ∀ key, ∀ startedAt ∈ state.system.ledger.epochStartedAt key.2,
      startedAt + secondsOf state.system.ledger.nodeEpochUptime key * MICROS_PER_SECOND ≤
        state.now + interval daemon := by
  constructor
  · intro bounded key startedAt known
    rcases Nat.eq_zero_or_pos (secondsOf state.system.ledger.nodeEpochUptime key) with none | some
    · rw [none, Nat.zero_mul]
      exact (regular.past key.2 startedAt known).trans (Nat.le_add_right _ _)
    · obtain ⟨row, member, rfl⟩ := exists_row_of_secondsOf_pos some
      obtain ⟨start, start_known, within⟩ := bounded row member
      obtain rfl : start = startedAt := Option.mem_unique start_known known
      rw [secondsOf_of_mem regular.tracked.rows member]
      exact within
  · intro within row member
    obtain ⟨startedAt, known⟩ := Option.isSome_iff_exists.mp (regular.tracked.started row member)
    refine ⟨startedAt, known, ?_⟩
    rw [← secondsOf_of_mem regular.tracked.rows member]
    exact within row.key startedAt known

theorem Regular.credits (regular : Regular daemon state) {added : Uuid × Int → Nat}
    {system : PaymentSystem} (credits : Credits state.now added state.system system) (due : Time)
    (positive : system.running = true → 0 < daemon.config.accumulateInterval) :
    Regular daemon { state with system, due } where
  tracked := credits.tracked regular.tracked
  past epoch startedAt known := by
    rcases credits.starts_now epoch startedAt known with before | rfl
    · exact regular.past epoch startedAt before
    · exact le_rfl
  positive := positive

/-- After some seconds were added, only the rows that they were added to can be too far. -/
theorem bounded_credits_iff (regular : Regular daemon state) (bounded : Bounded daemon state)
    {added : Uuid × Int → Nat} {system : PaymentSystem}
    (credits : Credits state.now added state.system system) (due : Time)
    (positive : system.running = true → 0 < daemon.config.accumulateInterval)
    (known : ∀ key, added key ≠ 0 → (state.system.ledger.epochStartedAt key.2).isSome) :
    Bounded daemon { state with system, due } ↔
      ∀ key, added key ≠ 0 → ∀ startedAt ∈ state.system.ledger.epochStartedAt key.2,
        startedAt + (secondsOf state.system.ledger.nodeEpochUptime key + added key) *
            MICROS_PER_SECOND ≤
          state.now + interval daemon := by
  rw [bounded_iff (regular.credits credits due positive)]
  constructor
  · intro within key _ startedAt start_eq
    have reached := within key startedAt (credits.keeps_start key.2 startedAt start_eq)
    rw [credits.seconds_eq] at reached
    exact reached
  · intro within key startedAt start_eq
    change startedAt + secondsOf system.ledger.nodeEpochUptime key * _ ≤ _
    rw [credits.seconds_eq]
    by_cases none_added : added key = 0
    · rw [none_added, Nat.add_zero]
      cases before : state.system.ledger.epochStartedAt key.2 with
      | none =>
          rw [seconds_eq_zero regular.tracked before, Nat.zero_mul]
          rcases credits.starts_now key.2 startedAt start_eq with old | rfl
          · rw [before] at old
            cases old
          · exact Nat.le_add_right _ _
      | some start =>
          obtain rfl : start = startedAt :=
            Option.mem_unique (credits.keeps_start key.2 start before) start_eq
          exact (bounded_iff regular).mp bounded key start before
    · obtain ⟨start, before⟩ := Option.isSome_iff_exists.mp (known key none_added)
      obtain rfl : start = startedAt :=
        Option.mem_unique (credits.keeps_start key.2 start before) start_eq
      exact within key none_added start before

theorem bounded_of_keepsSeconds (regular : Regular daemon state) (bounded : Bounded daemon state)
    {system : PaymentSystem} (credits : (keepsSeconds state.now).allows state.system system)
    (due : Time) (positive : system.running = true → 0 < daemon.config.accumulateInterval) :
    Bounded daemon { state with system, due } :=
  (bounded_credits_iff regular bounded credits due positive fun _ nonzero => absurd rfl nonzero).mpr
    fun _ nonzero => absurd rfl nonzero

theorem Regular.wait (regular : Regular daemon state) (span : Nat) :
    Regular daemon { state with now := state.now + span } where
  tracked := regular.tracked
  past epoch startedAt known :=
    (regular.past epoch startedAt known).trans (Nat.le_add_right _ _)
  positive := regular.positive

theorem bounded_wait (bounded : Bounded daemon state) (span : Nat) :
    Bounded daemon { state with now := state.now + span } := by
  intro row member
  obtain ⟨startedAt, known, within⟩ := bounded row member
  refine ⟨startedAt, known, within.trans ?_⟩
  exact Nat.add_le_add_right (Nat.le_add_right _ _) _

theorem Regular.others (regular : Regular daemon state) {db : Database}
    (unique : (db.nodes.map Node.id).Nodup) :
    Regular daemon (state.apply daemon (.others db unique)) where
  tracked :=
    { nodes := unique
      rows := regular.tracked.rows.sublist (List.filter_sublist.map NodeEpochUptime.key)
      started := fun row member => regular.tracked.started row (List.mem_of_mem_filter member)
      current := regular.tracked.current }
  past := regular.past
  positive := regular.positive

theorem Regular.apply (regular : Regular daemon state) (op : TimedOp) :
    Regular daemon (state.apply daemon op) := by
  cases op with
  | wait span => exact regular.wait span
  | start env lag =>
      rw [TimedPayments.apply]
      split
      · exact regular.credits (crash_keepsSeconds state.system) state.due nofun
      · rename_i nonzero
        exact (regular.wait lag).credits
          (start_keepsSeconds (env.withClock (state.now + lag)) state.system)
          state.now fun _ => Nat.pos_of_ne_zero nonzero
  | tick env =>
      rw [TimedPayments.apply]
      split
      · rename_i fires
        exact regular.credits (daemon.tick_credits (env.withClock state.now) regular.tracked
          fires.1) _ fun _ => regular.positive fires.1
      · exact regular
  | others db unique => exact regular.others unique

/-- A tick only credits nodes for an epoch that has started. -/
theorem started_of_credited (tracked : state.system.Tracked) {env : TickEnv} {seconds : Nat}
    {key : Uuid × Int}
    (nonzero : addedTo (env.creditedNodes state.system) state.system.metrics.currentEpoch seconds
      key ≠ 0) :
    (state.system.ledger.epochStartedAt key.2).isSome := by
  obtain ⟨member, epoch_eq⟩ := (ite_ne_right_iff.mp nonzero).1
  have active : state.system.metrics.currentEpoch ≠ 0 := by
    intro idle
    rw [TickEnv.creditedNodes, if_neg fun both => both.1 idle] at member
    cases member
  rw [epoch_eq]
  exact tracked.current active

/-- A tick keeps the bound exactly when it credits only nodes that are behind the clock. -/
theorem tick_bounded_iff (regular : Regular daemon state) (bounded : Bounded daemon state)
    (env : TickEnv) (fires : state.Fires) :
    Bounded daemon (state.apply daemon (.tick env)) ↔ state.CreditsBehindClock (.tick env) := by
  have positive := regular.positive fires.1
  have credits := daemon.tick_credits (env.withClock state.now) regular.tracked fires.1
  rw [TickEnv.creditedNodes_withClock] at credits
  rw [TimedPayments.apply, if_pos fires,
    bounded_credits_iff regular bounded credits _ (fun _ => positive)
      fun _ => started_of_credited regular.tracked]
  constructor
  · intro within _ nodeId member startedAt start_eq
    have added_eq : addedTo (env.creditedNodes state.system) state.system.metrics.currentEpoch
        daemon.config.accumulateInterval (nodeId, state.system.metrics.currentEpoch) =
          daemon.config.accumulateInterval := if_pos ⟨member, rfl⟩
    have reached := within (nodeId, state.system.metrics.currentEpoch)
      (added_eq.trans_ne positive.ne') startedAt start_eq
    rw [added_eq, Nat.add_mul, ← Nat.add_assoc] at reached
    exact Nat.add_le_add_iff_right.mp reached
  · intro behind key nonzero startedAt start_eq
    obtain ⟨member, epoch_eq⟩ := (ite_ne_right_iff.mp nonzero).1
    obtain ⟨nodeId, epoch⟩ := key
    obtain rfl : epoch = state.system.metrics.currentEpoch := epoch_eq
    have added_eq : addedTo (env.creditedNodes state.system) state.system.metrics.currentEpoch
        daemon.config.accumulateInterval (nodeId, state.system.metrics.currentEpoch) =
          daemon.config.accumulateInterval := if_pos ⟨member, rfl⟩
    rw [added_eq, Nat.add_mul, ← Nat.add_assoc]
    exact Nat.add_le_add_right (behind fires nodeId member startedAt start_eq) _

/-- A step keeps the bound exactly when it credits only nodes that are behind the clock. -/
theorem apply_bounded_iff (regular : Regular daemon state) (bounded : Bounded daemon state)
    (op : TimedOp) :
    Bounded daemon (state.apply daemon op) ↔ state.CreditsBehindClock op := by
  cases op with
  | wait span => exact iff_of_true (bounded_wait bounded span) trivial
  | start env lag =>
      refine iff_of_true ?_ trivial
      rw [TimedPayments.apply]
      split
      · exact bounded_of_keepsSeconds regular bounded (crash_keepsSeconds state.system) state.due
          nofun
      · rename_i nonzero
        exact bounded_of_keepsSeconds (regular.wait lag) (bounded_wait bounded lag)
          (start_keepsSeconds (env.withClock (state.now + lag)) state.system) state.now
          fun _ => Nat.pos_of_ne_zero nonzero
  | tick env =>
      by_cases fires : state.Fires
      · exact tick_bounded_iff regular bounded env fires
      · rw [TimedPayments.apply, if_neg fires]
        exact iff_of_true bounded fun fired => absurd fired fires
  | others db unique =>
      exact iff_of_true (fun row member => bounded row (List.mem_of_mem_filter member)) trivial

theorem allOrNone_iff (regular : Regular daemon state) (op : TimedOp) :
    AllOrNone daemon state op ↔ state.FailsAtEnds op := by
  cases op with
  | tick env =>
      refine forall_congr' fun fires => ?_
      exact daemon.creditsAllOrNone_iff (env.withClock state.now) regular.tracked
        (regular.positive fires.1)
  | wait span => exact Iff.rfl
  | start env lag => exact Iff.rfl
  | others db unique => exact Iff.rfl

end Step

/-! ## Runs -/

/-- Before the first start. -/
def fresh (system : PaymentSystem) (now : Time) : TimedPayments :=
  { system
    now
    due := now }

section Run

variable {daemon : PaymentDaemon} {system : PaymentSystem}

theorem regular_fresh (nothing : system.Fresh) (unique : (system.ledger.nodes.map Node.id).Nodup)
    (now : Time) : Regular daemon (fresh system now) where
  tracked :=
    { nodes := unique
      rows := by simp [fresh, nothing.uptime_eq]
      started := by simp [fresh, nothing.uptime_eq]
      current := by simp [fresh, nothing.metrics_eq, PaymentDaemonMetrics.default] }
  past := by simp [fresh, Ledger.epochStartedAt, nothing.epochs_eq]
  positive := by simp [fresh, nothing.down]

theorem bounded_fresh (nothing : system.Fresh) (now : Time) : Bounded daemon (fresh system now) := by
  simp [Bounded, fresh, nothing.uptime_eq]

/-! ## The schedule -/

/-- A daemon that starts again does so no sooner than the next tick of the last one was due, one that
opens an epoch does so at once, and a tick that may end an epoch comes at most one interval late. -/
def OnSchedule (daemon : PaymentDaemon) (state : TimedPayments) : TimedOp → Prop
  | .start env lag => state.due ≤ state.now ∧
      (lag = 0 ∨
        (PaymentDaemon.start (env.withClock (state.now + lag)) state.system).ledger.paymentEpochs =
          state.system.ledger.paymentEpochs)
  | .tick env => state.Fires → dueEpoch env.now state.system.metrics ≠ none →
      state.now ≤ state.due + interval daemon
  | _ => True

/-- Before the next tick is due, the clock will have passed all that was credited. -/
def Scheduled (state : TimedPayments) : Prop :=
  ∀ key, ∀ startedAt ∈ state.system.ledger.epochStartedAt key.2,
    startedAt + secondsOf state.system.ledger.nodeEpochUptime key * MICROS_PER_SECOND ≤ state.due

/-- Seconds are added to what was scheduled; an epoch may start with none. -/
theorem Scheduled.credits {state : TimedPayments} (scheduled : state.Scheduled)
    (tracked : state.system.Tracked) {added : Uuid × Int → Nat} {system : PaymentSystem}
    (credits : Credits state.now added state.system system) {due : Time}
    (room : ∀ key, state.due + added key * MICROS_PER_SECOND ≤ due)
    (opened : ∀ key, state.system.ledger.epochStartedAt key.2 = none →
      ∀ startedAt ∈ system.ledger.epochStartedAt key.2,
        startedAt + added key * MICROS_PER_SECOND ≤ due) :
    Scheduled { state with system, due } := by
  intro key startedAt known
  change startedAt + secondsOf system.ledger.nodeEpochUptime key * MICROS_PER_SECOND ≤ due
  rw [credits.seconds_eq]
  cases before : state.system.ledger.epochStartedAt key.2 with
  | none =>
      rw [seconds_eq_zero tracked before, Nat.zero_add]
      exact opened key before startedAt known
  | some start =>
      obtain rfl : start = startedAt :=
        Option.mem_unique (credits.keeps_start key.2 start before) known
      rw [Nat.add_mul, ← Nat.add_assoc]
      exact (Nat.add_le_add_right (scheduled key start before) _).trans (room key)

theorem addedTo_le (nodeIds : List Uuid) (epoch : Int) (seconds : Nat) (key : Uuid × Int) :
    addedTo nodeIds epoch seconds key ≤ seconds := by
  unfold addedTo
  split
  · exact le_rfl
  · exact Nat.zero_le _

/-- An epoch that starts in a step starts now. -/
theorem starts_now_of_none {state : TimedPayments} {added : Uuid × Int → Nat}
    {system : PaymentSystem} (credits : Credits state.now added state.system system) {epoch : Int}
    (missing : state.system.ledger.epochStartedAt epoch = none) {startedAt : Time}
    (known : startedAt ∈ system.ledger.epochStartedAt epoch) : startedAt = state.now := by
  rcases credits.starts_now epoch startedAt known with before | now_eq
  · rw [missing] at before
    cases before
  · exact now_eq

theorem Scheduled.apply {state : TimedPayments} (regular : Regular daemon state)
    (scheduled : state.Scheduled) (op : TimedOp) (timely : state.OnSchedule daemon op) :
    (state.apply daemon op).Scheduled := by
  cases op with
  | wait span => exact scheduled
  | start env lag =>
      rw [TimedPayments.apply]
      split
      · exact scheduled.credits regular.tracked (crash_keepsSeconds state.system)
          (fun _ => by rw [Nat.zero_mul, Nat.add_zero])
          fun key missing startedAt known => by
            rw [show state.system.crash.ledger = state.system.ledger from rfl, missing] at known
            cases known
      · have later : Scheduled { state with now := state.now + lag } := scheduled
        have credits := start_keepsSeconds (env.withClock (state.now + lag)) state.system
        refine later.credits regular.tracked credits (fun _ => ?_)
          fun key missing startedAt known => ?_
        · rw [Nat.zero_mul, Nat.add_zero]
          exact timely.1
        · rcases timely.2 with rfl | same
          · rw [Nat.zero_mul, Nat.add_zero]
            have start_eq := @starts_now_of_none { state with now := state.now + 0 } _ _ credits _
              missing _ known
            exact start_eq.le
          · rw [Ledger.epochStartedAt, same] at known
            rw [Ledger.epochStartedAt] at missing
            rw [missing] at known
            cases known
  | tick env =>
      rw [TimedPayments.apply]
      split
      · rename_i fires
        have credits := daemon.tick_credits (env.withClock state.now) regular.tracked fires.1
        refine scheduled.credits regular.tracked credits (fun key => ?_)
          fun key missing startedAt known => ?_
        · exact Nat.add_le_add_left (Nat.mul_le_mul_right _ (addedTo_le _ _ _ _)) _
        · by_cases ending : dueEpoch env.now state.system.metrics = none
          · have same := daemon.tick_keeps_epochs (env.withClock state.now) fires.1 ending
            rw [Ledger.epochStartedAt, same] at known
            rw [Ledger.epochStartedAt] at missing
            rw [missing] at known
            cases known
          · have not_added : addedTo ((env.withClock state.now).creditedNodes state.system)
                state.system.metrics.currentEpoch daemon.config.accumulateInterval key = 0 := by
              by_contra nonzero
              have started := started_of_credited regular.tracked nonzero
              rw [missing] at started
              cases started
            rw [not_added, Nat.zero_mul, Nat.add_zero, starts_now_of_none credits missing known]
            exact timely fires ending
      · exact scheduled
  | others db unique =>
      intro key startedAt known
      refine le_trans ?_ (scheduled key startedAt known)
      exact Nat.add_le_add_left
        (Nat.mul_le_mul_right _ (secondsOf_filter_le fun nodeId => db.hasNode nodeId)) _

/-- A tick that finds the schedule kept credits nodes that are behind the clock. -/
theorem Scheduled.behindClock {state : TimedPayments} (scheduled : state.Scheduled) (op : TimedOp) :
    state.CreditsBehindClock op := by
  cases op with
  | tick env =>
      intro fires nodeId _ startedAt known
      exact (scheduled (nodeId, state.system.metrics.currentEpoch) startedAt known).trans fires.2
  | wait span => trivial
  | start env lag => trivial
  | others db unique => trivial

/-- Ticks credit nodes that are behind the clock if no daemon starts before the next tick of the
last one was due, none takes time to open an epoch and no epoch ends more than one interval late. -/
theorem behindClock_of_onSchedule (nothing : system.Fresh)
    (unique : (system.ledger.nodes.map Node.id).Nodup) (now : Time) {ops : List TimedOp}
    (timely : EveryStep (TimedPayments.apply daemon) (OnSchedule daemon) (fresh system now) ops) :
    EveryStep (TimedPayments.apply daemon) CreditsBehindClock (fresh system now) ops := by
  have scheduled : Scheduled (fresh system now) := by
    intro key startedAt known
    simp [fresh, Ledger.epochStartedAt, nothing.epochs_eq] at known
  have keeps : ∀ state op, Regular daemon state ∧ state.Scheduled → state.OnSchedule daemon op →
      Regular daemon (state.apply daemon op) ∧ (state.apply daemon op).Scheduled :=
    fun _ op both on_time => ⟨both.1.apply op, both.2.apply both.1 op on_time⟩
  have gives : ∀ state op, Regular daemon state ∧ state.Scheduled → state.OnSchedule daemon op →
      state.CreditsBehindClock op :=
    fun _ op both _ => both.2.behindClock op
  exact everyStep_of_everyStep keeps gives ⟨regular_fresh nothing unique now, scheduled⟩ timely

/-! ## Uptime and the clock -/

/-- In a run from a fresh database, uptime stays within the clock and no tick credits only some of
the nodes exactly when every tick credits nodes that are behind the clock and fails, if it does, at
one end of the nodes. -/
theorem accounts_iff_behindClock (daemon : PaymentDaemon) (system : PaymentSystem)
    (nothing : system.Fresh) (unique : (system.ledger.nodes.map Node.id).Nodup) (now : Time)
    (ops : List TimedOp) :
    (EveryState (TimedPayments.apply daemon) (Bounded daemon) (fresh system now) ops ∧
        EveryStep (TimedPayments.apply daemon) (AllOrNone daemon) (fresh system now) ops) ↔
      EveryStep (TimedPayments.apply daemon)
        (fun state op => state.CreditsBehindClock op ∧ state.FailsAtEnds op)
        (fresh system now) ops := by
  have regular : Regular daemon (fresh system now) := regular_fresh nothing unique now
  have kept : ∀ state op, Regular daemon state → Regular daemon (state.apply daemon op) :=
    fun _ op regular => regular.apply op
  have bounded := everyState_iff_everyStep (Regular daemon) kept
    (fun _ op regular bounded => apply_bounded_iff regular bounded op) regular
    (bounded_fresh nothing now) ops
  have whole := everyStep_congr kept (fun _ op regular => allOrNone_iff regular op) regular ops
  rw [bounded, whole, everyStep_and_iff]

end Run

end TimedPayments

open Reference TimedPayments

/-! ## Restarts and errors -/

namespace Reference

/-- A second node. -/
def otherNode : Node := { paidNode with id := 2, peerId := "other" }

/-- The addition for the second node fails. -/
def halfTick : TickEnv :=
  { calmTick 0 with addUptime := fun nodeId => if nodeId = 2 then .failed else .done }

end Reference

/-- Two nodes that were registered at the same time come in the order of the table. -/
theorem nodeIds_pair {env : TickEnv} {system : PaymentSystem} (inserted : env.nodeOrder = .insertion)
    (nodes_eq : system.ledger.nodes = [paidNode, otherNode]) : env.nodeIds system = [1, 2] := by
  have sorted : [paidNode, otherNode].Pairwise fun left right =>
      decide (left.createdAt ≤ right.createdAt) = true := by
    decide
  rw [TickEnv.nodeIds, Database.getAllNodes, inserted, nodes_eq]
  exact congrArg (List.map Node.id) (List.mergeSort_of_pairwise sorted)

/-- A daemon that starts again right after a tick credits two minutes in no time, and a tick that
fails at the second of two nodes credits the first one only. -/
theorem not_accounts_of_restart_and_error :
    (¬ EveryState (TimedPayments.apply paymentDaemon) (Bounded paymentDaemon)
        (fresh (freshPayments [paidNode]) 0)
        [.start (calmStart 0) 0, .tick (calmTick 0), .start (calmStart 0) 0, .tick (calmTick 0)]) ∧
      ¬ EveryStep (TimedPayments.apply paymentDaemon) (AllOrNone paymentDaemon)
        (fresh (freshPayments [paidNode, otherNode]) 0) [.start (calmStart 0) 0, .tick halfTick] := by
  refine ⟨by decide +kernel, fun every => ?_⟩
  obtain ⟨-, whole, -⟩ := every
  have regular : Regular paymentDaemon (fresh (freshPayments [paidNode, otherNode]) 0) :=
    regular_fresh (freshPayments_fresh _) (by decide) 0
  have ends := (allOrNone_iff (regular.apply (.start (calmStart 0) 0)) (.tick halfTick)).mp whole
    (by decide) (by decide) rfl
  rcases ends [1] 2 [] (nodeIds_pair rfl rfl) (by decide) rfl with ⟨first, -⟩ | ⟨-, reached⟩
  · cases first
  · cases reached

/-- A daemon that ticks on time, and starts again a minute after its last tick. -/
theorem accounts_two_daemons :
    EveryState (TimedPayments.apply paymentDaemon) (Bounded paymentDaemon)
        (fresh (freshPayments [paidNode]) 0)
        [.start (calmStart 0) 0, .tick (calmTick 0), .wait 60000000, .start (calmStart 60000000) 0,
          .tick (calmTick 60000000)] ∧
      EveryStep (TimedPayments.apply paymentDaemon) (AllOrNone paymentDaemon)
        (fresh (freshPayments [paidNode]) 0)
        [.start (calmStart 0) 0, .tick (calmTick 0), .wait 60000000, .start (calmStart 60000000) 0,
          .tick (calmTick 60000000)] := by
  refine (accounts_iff_behindClock paymentDaemon _ (freshPayments_fresh _) (by decide) 0 _).mpr ?_
  rw [everyStep_and_iff]
  refine ⟨behindClock_of_onSchedule (freshPayments_fresh _) (by decide) 0 ?_, ?_⟩
  · refine ⟨⟨le_rfl, .inl rfl⟩, fun _ ending => absurd ?_ ending, trivial, ⟨le_rfl, .inl rfl⟩,
      fun _ ending => absurd ?_ ending, trivial⟩
    all_goals decide +kernel
  · refine ⟨trivial, ?_, trivial, trivial, ?_, trivial⟩
    all_goals
      rintro - - - before nodeId after - - stopped
      cases stopped

end CyxCloud.Gateway
