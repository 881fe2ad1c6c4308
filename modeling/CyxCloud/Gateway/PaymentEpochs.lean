import CyxCloud.Gateway.PaymentSteps
import CyxCloud.Library.Runs

/-!
# Progress of epochs

Finalizing an epoch and creating the next one are two statements.  A daemon that stops between them
finds no epoch to resume, or an older one that was never finalized.  As long as an epoch is only
finalized when the next one exists or is created right away, the latest epoch is always open, and a
restart resumes it.
-/

namespace CyxCloud.Gateway

open CyxCloud.Core hiding Chunk
open Library Metadata Effect PaymentSystem

/-! ## Books of epochs -/

/-- Epochs with their finalized flags, and the epoch that a daemon is in; 0 is none. -/
structure EpochBook where
  epochs : List (Int × Bool)
  current : Int

namespace EpochBook

variable (book : EpochBook)

/-- The numbers of the epochs. -/
def numbers : List Int := book.epochs.map Prod.fst

/-- The greatest number, 0 without epochs. -/
def greatest : Int := book.numbers.foldr max 0

/-- Set the flag of an epoch. -/
def close (epoch : Int) (entry : Int × Bool) : Int × Bool :=
  if entry.1 = epoch then (entry.1, true) else entry

/-- The book after an attempt to end an epoch, which may or may not close the epoch, open the next
one and enter it. -/
def afterEnd (epoch : Int) (closes opens enters : Bool) : EpochBook :=
  { epochs := (if closes then book.epochs.map (close epoch) else book.epochs) ++
      if opens then [(epoch + 1, false)] else []
    current := if enters then epoch + 1 else book.current }

/-- The book once the daemon has stopped. -/
def leave : EpochBook := { book with current := 0 }

/-- The latest epoch is open, and a daemon is in an epoch that exists. -/
structure Sound : Prop where
  unique : book.numbers.Nodup
  positive : ∀ entry ∈ book.epochs, 0 < entry.1
  latest_open : ∀ entry ∈ book.epochs, (∀ other ∈ book.epochs, other.1 ≤ entry.1) →
    entry.2 = false
  current_known : book.current ≠ 0 → book.current ∈ book.numbers

variable {book} {epoch : Int} {closes opens enters : Bool}

theorem close_fst (epoch : Int) (entry : Int × Bool) : (close epoch entry).1 = entry.1 := by
  unfold close
  split <;> rfl

theorem numbers_afterEnd :
    (book.afterEnd epoch closes opens enters).numbers =
      book.numbers ++ if opens then [epoch + 1] else [] := by
  have closed : (book.epochs.map (close epoch)).map Prod.fst = book.epochs.map Prod.fst := by
    rw [List.map_map]
    exact List.map_congr_left fun entry _ => close_fst epoch entry
  cases closes <;> cases opens <;> simp [afterEnd, numbers, closed]

/-- An entry after the attempt is the new epoch, or an old one that was closed at most. -/
theorem mem_afterEnd {entry : Int × Bool}
    (member : entry ∈ (book.afterEnd epoch closes opens enters).epochs) :
    (opens = true ∧ entry = (epoch + 1, false)) ∨
      ∃ old ∈ book.epochs, entry.1 = old.1 ∧
        (entry.2 = old.2 ∨ (closes = true ∧ old.1 = epoch)) := by
  rcases List.mem_append.mp member with earlier | new
  · right
    cases closes with
    | false => exact ⟨entry, earlier, rfl, .inl rfl⟩
    | true =>
        obtain ⟨old, old_mem, rfl⟩ := List.mem_map.mp earlier
        refine ⟨old, old_mem, close_fst epoch old, ?_⟩
        by_cases same : old.1 = epoch
        · exact .inr ⟨rfl, same⟩
        · exact .inl (by rw [close, if_neg same])
  · left
    cases opens with
    | false => cases new
    | true => exact ⟨rfl, List.mem_singleton.mp new⟩

theorem mem_numbers_iff {number : Int} :
    number ∈ book.numbers ↔ ∃ entry ∈ book.epochs, entry.1 = number := by
  simp [numbers]

theorem current_mem_afterEnd (known : book.current ≠ 0 → book.current ∈ book.numbers)
    (entered : enters = true → opens = true)
    (inside : (book.afterEnd epoch closes opens enters).current ≠ 0) :
    (book.afterEnd epoch closes opens enters).current ∈
      (book.afterEnd epoch closes opens enters).numbers := by
  rw [numbers_afterEnd]
  cases enters with
  | false => exact List.mem_append_left _ (known inside)
  | true => simp [afterEnd, entered rfl]

/-- An epoch that is only closed together with the next one existing keeps the book sound. -/
theorem Sound.afterEnd (sound : book.Sound) (known : epoch ∈ book.numbers)
    (new : opens = true → epoch + 1 ∉ book.numbers) (entered : enters = true → opens = true)
    (assured : closes = true → opens = true ∨ epoch + 1 ∈ book.numbers) :
    (book.afterEnd epoch closes opens enters).Sound := by
  have next : closes = true → epoch + 1 ∈ (book.afterEnd epoch closes opens enters).numbers := by
    intro closing
    rw [numbers_afterEnd, List.mem_append]
    rcases assured closing with opening | present
    · exact .inr (by simp [opening])
    · exact .inl present
  refine ⟨?_, fun entry member => ?_, fun entry member greatest => ?_, fun nonzero => ?_⟩
  · rw [numbers_afterEnd]
    cases opens with
    | false => simpa using sound.unique
    | true => simpa [List.nodup_append] using ⟨sound.unique, fun n mem same => new rfl (same ▸ mem)⟩
  · rcases mem_afterEnd member with ⟨-, rfl⟩ | ⟨old, old_mem, same, -⟩
    · obtain ⟨current, current_mem, rfl⟩ := mem_numbers_iff.mp known
      have := sound.positive current current_mem
      omega
    · rw [same]
      exact sound.positive old old_mem
  · rcases mem_afterEnd member with ⟨-, rfl⟩ | ⟨old, old_mem, same, flag⟩
    · rfl
    · have above : ∀ number ∈ (book.afterEnd epoch closes opens enters).numbers,
          number ≤ entry.1 := by
        intro number number_mem
        obtain ⟨other, other_mem, rfl⟩ := mem_numbers_iff.mp number_mem
        exact greatest other other_mem
      rcases flag with flag | ⟨closing, rfl⟩
      · rw [flag]
        refine sound.latest_open old old_mem fun other other_mem => ?_
        rw [← same]
        refine above other.1 ?_
        rw [numbers_afterEnd]
        exact List.mem_append_left _ (List.mem_map_of_mem other_mem)
      · have := above _ (next closing)
        omega
  · exact current_mem_afterEnd sound.current_known entered nonzero

theorem Sound.leave (sound : book.Sound) : book.leave.Sound :=
  ⟨sound.unique, sound.positive, sound.latest_open, fun nonzero => absurd rfl nonzero⟩

/-! ## Greatest epochs -/

theorem le_greatest {number : Int} (member : number ∈ book.numbers) :
    number ≤ book.greatest := by
  unfold greatest
  generalize book.numbers = numbers at member ⊢
  induction numbers with
  | nil => cases member
  | cons head rest induction =>
      rw [List.foldr_cons]
      rcases List.mem_cons.mp member with rfl | later
      · exact le_max_left _ _
      · exact (induction later).trans (le_max_right _ _)

theorem greatest_nonneg : 0 ≤ book.greatest := by
  unfold greatest
  induction book.numbers with
  | nil => exact le_rfl
  | cons head rest induction => exact induction.trans (le_max_right _ _)

theorem greatest_mem (nonempty : book.epochs ≠ []) (positive : ∀ entry ∈ book.epochs, 0 < entry.1) :
    book.greatest ∈ book.numbers := by
  have all_positive : ∀ number ∈ book.numbers, 0 < number := by
    intro number member
    obtain ⟨entry, entry_mem, rfl⟩ := mem_numbers_iff.mp member
    exact positive entry entry_mem
  have some_number : book.numbers ≠ [] := by simpa [numbers] using nonempty
  unfold greatest
  generalize book.numbers = numbers at all_positive some_number ⊢
  induction numbers with
  | nil => exact absurd rfl some_number
  | cons head rest induction =>
      rw [List.foldr_cons]
      have head_positive := all_positive head List.mem_cons_self
      by_cases last : rest = []
      · subst last
        rw [List.foldr_nil, max_eq_left head_positive.le]
        exact List.mem_cons_self
      · have later := induction (fun number member =>
          all_positive number (List.mem_cons_of_mem _ member)) last
        rcases max_choice head (rest.foldr max 0) with first | second
        · rw [first]
          exact List.mem_cons_self
        · rw [second]
          exact List.mem_cons_of_mem _ later

theorem greatest_mono {later : EpochBook} (grows : book.numbers ⊆ later.numbers) :
    book.greatest ≤ later.greatest := by
  have bound : ∀ numbers : List Int, (∀ number ∈ numbers, number ≤ later.greatest) →
      0 ≤ later.greatest → numbers.foldr max 0 ≤ later.greatest := by
    intro numbers below nonneg
    induction numbers with
    | nil => exact nonneg
    | cons head rest induction =>
        exact max_le (below head List.mem_cons_self)
          (induction fun number member => below number (List.mem_cons_of_mem _ member))
  exact bound book.numbers (fun number member => le_greatest (grows member)) greatest_nonneg

end EpochBook

/-! ## The book of a system -/

/-- The epochs of the ledger and the epoch that the daemon is in. -/
def PaymentSystem.book (system : PaymentSystem) : EpochBook :=
  { epochs := system.ledger.paymentEpochs.map fun row => (row.epoch, row.finalized)
    current := system.metrics.currentEpoch }

theorem book_ignoresUptime : IgnoresUptime PaymentSystem.book := fun _ _ => rfl

theorem book_ignoresCounters : IgnoresCounters PaymentSystem.book := by
  intro system metrics epoch_eq _
  simp [PaymentSystem.book, epoch_eq]

theorem book_ignoresSlashing : IgnoresSlashing PaymentSystem.book := ⟨fun _ _ => rfl, fun _ _ => rfl⟩

theorem book_ignoresAllocations : IgnoresAllocations PaymentSystem.book := fun _ _ => rfl

theorem book_ignoresFinalized : IgnoresFinalized PaymentSystem.book := fun _ _ => rfl

theorem hasEpoch_iff {system : PaymentSystem} {epoch : Int} :
    system.ledger.hasEpoch epoch = true ↔ epoch ∈ system.book.numbers := by
  simp [Ledger.hasEpoch, EpochBook.numbers, PaymentSystem.book]

theorem book_finalize (system : PaymentSystem) (epoch : Int) (now : Time)
    (totals : Ledger.EpochTotals) :
    (system.setLedger (system.ledger.finalizePaymentEpoch epoch now totals)).book =
      system.book.afterEnd epoch true false false := by
  have closed : (system.setLedger (system.ledger.finalizePaymentEpoch epoch now totals)).book.epochs =
      system.book.epochs.map (EpochBook.close epoch) := by
    simp only [PaymentSystem.book, PaymentSystem.setLedger, Ledger.finalizePaymentEpoch,
      List.map_map]
    refine List.map_congr_left fun row _ => ?_
    by_cases same : row.epoch = epoch
    · simp [EpochBook.close, same]
    · simp [EpochBook.close, same]
  simp only [EpochBook.afterEnd, if_true, Bool.false_eq_true, if_false, List.append_nil, ← closed]
  rfl

namespace PaymentDaemon

variable {daemon : PaymentDaemon} {env : TickEnv} {epoch : Int}

/-- Creating an epoch opens it if its number is new. -/
theorem createEpoch_book {ledger : Ledger} {system : PaymentSystem} {record : PaymentEpoch}
    {now : Time} (created : system.ledger.createPaymentEpoch (epoch + 1) now = .ok (ledger, record)) :
    epoch + 1 ∉ system.book.numbers ∧
      (system.setLedger ledger).book = system.book.afterEnd epoch false true false := by
  unfold Ledger.createPaymentEpoch at created
  split at created
  · cases created
  · rename_i absent
    cases created
    refine ⟨fun present => absent (hasEpoch_iff.mpr present), ?_⟩
    simp [PaymentSystem.book, PaymentSystem.setLedger, EpochBook.afterEnd, PaymentEpoch.new]

theorem createPaymentEpoch_of_absent {ledger : Ledger} {epoch : Int}
    (absent : ledger.hasEpoch epoch = false) (now : Time) :
    ledger.createPaymentEpoch epoch now =
      .ok ({ ledger with paymentEpochs := ledger.paymentEpochs ++ [.new epoch now] },
        .new epoch now) := by
  rw [Ledger.createPaymentEpoch, if_neg (by simp [absent])]

/-- Opening an epoch adds it if its number is new and the statement takes effect, and enters it if
the daemon gets that far. -/
theorem openEpoch_book (createEpoch initializeEpoch : Outcome) (dbNow now : Time) (epoch : Int)
    (finalized : Nat) (system : PaymentSystem) :
    ∃ opens enters : Bool,
      (openEpoch createEpoch initializeEpoch dbNow now (epoch + 1) finalized system).1.book =
        system.book.afterEnd epoch false opens enters ∧
      (opens = true → epoch + 1 ∉ system.book.numbers) ∧ (enters = true → opens = true) ∧
      (createEpoch.applied = true → opens = true ∨ epoch + 1 ∈ system.book.numbers) ∧
      (createEpoch = .done → initializeEpoch = .done → epoch + 1 ∉ system.book.numbers →
        enters = true ∧
          (openEpoch createEpoch initializeEpoch dbNow now (epoch + 1) finalized system).2 =
            .ok ()) := by
  unfold openEpoch
  rcases tryLedger_cases createEpoch (fun ledger =>
      ledger.createPaymentEpoch (epoch + 1) dbNow) system with
    ⟨ledger, record, created, -, ended⟩ | ⟨halt, stopped, refused⟩
  · obtain ⟨absent, book_eq⟩ := createEpoch_book created
    rcases ended with ⟨-, ended⟩ | ⟨not_done, halt, ended⟩
    · rw [bind_run_ok ended]
      rcases updateLedger_cases initializeEpoch (fun ledger =>
          ledger.initializeEpochForAllNodes (epoch + 1) now) (system.setLedger ledger) with
        ⟨-, ran⟩ | ⟨not_done, halt, ⟨-, ran⟩ | ⟨-, ran⟩⟩
      · refine ⟨true, true, ?_, fun _ => absent, id, fun _ => .inl rfl, fun _ _ _ => ⟨rfl, ?_⟩⟩
        · rw [bind_run_ok ran]
          have epochs_eq := congrArg EpochBook.epochs book_eq
          simpa [PaymentSystem.book, PaymentSystem.setLedger, updateMetrics, Effect.modify,
            Ledger.initializeEpochForAllNodes, EpochBook.afterEnd] using epochs_eq
        · rw [bind_run_ok ran]
          rfl
      · refine ⟨true, false, ?_, fun _ => absent, Bool.false_ne_true.elim, fun _ => .inl rfl,
          fun _ is_done => absurd is_done not_done⟩
        rw [bind_run_error ran]
        exact book_eq
      · refine ⟨true, false, ?_, fun _ => absent, Bool.false_ne_true.elim, fun _ => .inl rfl,
          fun _ is_done => absurd is_done not_done⟩
        rw [bind_run_error ran]
        exact book_eq
    · rw [bind_run_error ended]
      exact ⟨true, false, book_eq, fun _ => absent, Bool.false_ne_true.elim, fun _ => .inl rfl,
        fun is_done => absurd is_done not_done⟩
  · rw [bind_run_error stopped]
    have present : createEpoch.applied = true → epoch + 1 ∈ system.book.numbers := by
      intro applied
      obtain ⟨cause, failed⟩ := refused applied
      by_contra absent
      rw [createPaymentEpoch_of_absent (by simpa [← hasEpoch_iff] using absent)] at failed
      cases failed
    refine ⟨false, false, by simp [EpochBook.afterEnd], Bool.false_ne_true.elim, id,
      fun applied => .inr (present applied), fun is_done _ absent => ?_⟩
    exact absurd (present (by rw [is_done]; rfl)) absent

/-- The finalization closes the epoch if that statement takes effect; it only ends well if the
epoch is closed. -/
theorem closeEpoch_book (payments : Payments) (paid : Nat × Nat) (system : PaymentSystem) :
    ((daemon.closeEpoch env epoch payments paid system).1.book = system.book ∧
        ∃ halt, (daemon.closeEpoch env epoch payments paid system).2 = .error halt) ∨
      (env.finalizeEpoch.applied = true ∧
        (daemon.closeEpoch env epoch payments paid system).1.book =
          system.book.afterEnd epoch true false false ∧
        (env.finalizeEpoch = .done →
          (daemon.closeEpoch env epoch payments paid system).2 = .ok ())) := by
  rw [closeEpoch]
  rcases (finalizeOnChain_keeps book_ignoresFinalized).bind_cases _ system with
    ⟨onChain, halt, chain_book, result⟩ | ⟨onChain, finalizeTx, chain_book, -, result⟩
  · rw [result]
    exact .inl ⟨chain_book, halt, rfl⟩
  rw [result, ← chain_book]
  rcases updateLedger_cases env.finalizeEpoch _ onChain with
    ⟨is_done, ran⟩ | ⟨not_done, halt, ⟨applied, ran⟩ | ⟨-, ran⟩⟩
  · rw [bind_run_ok ran]
    exact .inr ⟨by rw [is_done]; rfl, book_finalize _ _ _ _, fun _ => rfl⟩
  · rw [bind_run_error ran]
    exact .inr ⟨applied, book_finalize _ _ _ _, fun is_done => absurd is_done not_done⟩
  · rw [bind_run_error ran]
    exact .inl ⟨rfl, halt, rfl⟩

theorem distributePayments_book (payments : Payments) (system : PaymentSystem) :
    (daemon.distributePayments env epoch payments system).1.book = system.book ∨
      (env.finalizeEpoch.applied = true ∧
        (daemon.distributePayments env epoch payments system).1.book =
          system.book.afterEnd epoch true false false ∧
        (env.finalizeEpoch = .done →
          (daemon.distributePayments env epoch payments system).2 = .ok ())) := by
  rw [distributePayments]
  rcases (payNodes_keeps book_ignoresUptime book_ignoresAllocations payments
    payments.weights).bind_cases _ system with
    ⟨paidOut, halt, paid_book, result⟩ | ⟨paidOut, paid, paid_book, -, result⟩
  · rw [result]
    exact .inl paid_book
  · rw [result, ← paid_book]
    exact (closeEpoch_book payments paid paidOut).imp And.left id

/-- Paying for an epoch leaves the book, or closes the epoch. -/
theorem finalizeAndPayEpoch_book (daemon : PaymentDaemon) (env : TickEnv) (epoch : Int)
    (system : PaymentSystem) :
    (daemon.finalizeAndPayEpoch env epoch system).1.book = system.book ∨
      (env.finalizeEpoch.applied = true ∧
        (daemon.finalizeAndPayEpoch env epoch system).1.book =
          system.book.afterEnd epoch true false false ∧
        (env.finalizeEpoch = .done →
          (daemon.finalizeAndPayEpoch env epoch system).2 = .ok ())) := by
  unfold finalizeAndPayEpoch
  rcases preparePayments_keeps.bind_cases _ system with
    ⟨reached, halt, prepared_book, result⟩ | ⟨reached, prepared, prepared_book, -, result⟩
  · rw [result]
    exact .inl prepared_book
  · rw [result]
    cases prepared with
    | none => exact .inl prepared_book
    | some payments =>
        rw [← prepared_book]
        exact distributePayments_book payments reached

/-- What an attempt to end an epoch does to the book. -/
theorem endEpoch_book (daemon : PaymentDaemon) (env : TickEnv) (epoch : Int)
    (system : PaymentSystem) :
    ∃ closes opens enters : Bool,
      (daemon.endEpoch env epoch system).1.book =
        system.book.afterEnd epoch closes opens enters ∧
      (closes = true → env.finalizeEpoch.applied = true) ∧
      (opens = true → epoch + 1 ∉ system.book.numbers) ∧ (enters = true → opens = true) ∧
      (closes = true → env.finalizeEpoch = .done → env.createEpoch.applied = true →
        opens = true ∨ epoch + 1 ∈ system.book.numbers) := by
  have unchanged : system.book.afterEnd epoch false false false = system.book := by
    simp [EpochBook.afterEnd]
  unfold endEpoch
  rcases (endUptime_keeps book_ignoresUptime).bind_cases _ system with
    ⟨ended, halt, ended_book, result⟩ | ⟨ended, done, ended_book, -, result⟩
  · rw [result]
    exact ⟨false, false, false, ended_book.trans unchanged.symm, nofun, nofun, id, nofun⟩
  rw [result]
  rcases (checkAndSlashNodes_keeps book_ignoresSlashing book_ignoresCounters).bind_cases _ ended with
    ⟨slashed, halt, slashed_book, result⟩ | ⟨slashed, done, slashed_book, -, result⟩
  · rw [result]
    exact ⟨false, false, false, (slashed_book.trans ended_book).trans unchanged.symm, nofun, nofun,
      id, nofun⟩
  rw [result]
  have before_book := slashed_book.trans ended_book
  rw [← before_book]
  rcases bind_cases (daemon.finalizeAndPayEpoch env epoch) (fun _ => startEpoch env (epoch + 1))
    slashed with ⟨paid, halt, ran, result⟩ | ⟨paid, done, ran, result⟩
  · rw [result]
    rcases daemon.finalizeAndPayEpoch_book env epoch slashed with same | ⟨applied, closed, ends⟩
    · rw [ran] at same
      exact ⟨false, false, false, by rw [before_book, unchanged, same, before_book], nofun, nofun,
        id, nofun⟩
    · rw [ran] at closed ends
      exact ⟨true, false, false, closed, fun _ => applied, nofun, id,
        fun _ is_done => by cases ends is_done⟩
  · rw [result]
    obtain ⟨opens, enters, started, new, entered, creates, -⟩ :=
      openEpoch_book env.createEpoch env.initializeEpoch env.dbNow env.now epoch 1 paid
    rw [startEpoch]
    rcases daemon.finalizeAndPayEpoch_book env epoch slashed with same | ⟨applied, closed, ends⟩
    · rw [ran] at same
      rw [started, same]
      exact ⟨false, opens, enters, rfl, nofun, same ▸ new, entered, nofun⟩
    · rw [ran] at closed
      have numbers_eq : paid.book.numbers = slashed.book.numbers := by
        rw [closed, EpochBook.numbers_afterEnd]
        simp
      rw [numbers_eq] at new creates
      refine ⟨true, opens, enters, ?_, fun _ => applied, new, entered, fun _ _ => creates⟩
      rw [started, closed]
      simp [EpochBook.afterEnd]

/-- What a tick does to the book: at most an attempt to end the current epoch, and a crash. -/
theorem tick_book (daemon : PaymentDaemon) (env : TickEnv) (system : PaymentSystem) :
    ∃ (ended : EpochBook) (closes opens enters : Bool),
      ended = system.book.afterEnd system.metrics.currentEpoch closes opens enters ∧
      ((daemon.tick env system).book = ended ∨ (daemon.tick env system).book = ended.leave) ∧
      (closes = true ∨ opens = true → system.metrics.currentEpoch ≠ 0) ∧
      (closes = true →
        (dueEpoch env.now system.metrics).isSome ∧ env.finalizeEpoch.applied = true) ∧
      (opens = true → system.metrics.currentEpoch + 1 ∉ system.book.numbers) ∧
      (enters = true → opens = true) ∧
      (closes = true → env.finalizeEpoch = .done → env.createEpoch.applied = true →
        opens = true ∨ system.metrics.currentEpoch + 1 ∈ system.book.numbers) := by
  have unchanged : system.book =
      system.book.afterEnd system.metrics.currentEpoch false false false := by
    simp [EpochBook.afterEnd]
  have credited : (daemon.accumulateUptime env system).1.book = system.book :=
    accumulateUptime_keeps book_ignoresUptime book_ignoresCounters system
  rcases daemon.tick_cases env system with same | same | ⟨epoch, due, same⟩
  · exact ⟨system.book, false, false, false, unchanged, .inl (by rw [same]), by simp, nofun, nofun,
      id, nofun⟩
  · refine ⟨system.book, false, false, false, unchanged, ?_, by simp, nofun, nofun, id, nofun⟩
    rw [← credited]
    exact same.imp (congrArg _) (congrArg _)
  · obtain ⟨rfl, nonzero⟩ := dueEpoch_eq_some due
    obtain ⟨closes, opens, enters, ended, closed, new, entered, assured⟩ :=
      daemon.endEpoch_book env system.metrics.currentEpoch (daemon.accumulateUptime env system).1
    rw [credited] at ended new assured
    refine ⟨_, closes, opens, enters, rfl, ?_, fun _ => nonzero,
      fun closing => ⟨by rw [due]; rfl, closed closing⟩, new, entered, assured⟩
    rw [← ended]
    exact same.imp (fun up => congrArg PaymentSystem.book up.2)
      fun crashed => congrArg PaymentSystem.book crashed.2

/-! ## Starts -/

section

variable {system : PaymentSystem}

/-- In a sound book the epoch to resume is the greatest one. -/
theorem resumed_of_sound (sound : system.book.Sound) {row : PaymentEpoch}
    (found : system.ledger.getCurrentPaymentEpoch = some row) :
    row.epoch = system.book.greatest ∧ row.epoch ∈ system.book.numbers := by
  obtain ⟨member, latest⟩ := head?_insertionSort_eq_some found
  have row_mem : (row.epoch, row.finalized) ∈ system.book.epochs :=
    List.mem_map.mpr ⟨row, List.mem_of_mem_filter member, rfl⟩
  have known : row.epoch ∈ system.book.numbers := List.mem_map.mpr ⟨_, row_mem, rfl⟩
  refine ⟨le_antisymm (EpochBook.le_greatest known) ?_, known⟩
  obtain ⟨⟨number, flag⟩, entry_mem, number_eq⟩ := EpochBook.mem_numbers_iff.mp
    (EpochBook.greatest_mem (List.ne_nil_of_mem row_mem) sound.positive)
  have is_open : flag = false := by
    refine sound.latest_open _ entry_mem fun other other_mem => ?_
    rw [number_eq]
    exact EpochBook.le_greatest (List.mem_map_of_mem other_mem)
  obtain ⟨greatest, greatest_mem, same⟩ := List.mem_map.mp entry_mem
  obtain ⟨rfl, rfl⟩ := Prod.mk.inj same
  rw [← number_eq]
  exact latest greatest (List.mem_filter.mpr ⟨greatest_mem, by simp [is_open]⟩)

/-- In a sound book there is an epoch to resume unless there is none at all. -/
theorem no_epochs_of_sound (sound : system.book.Sound)
    (missing : system.ledger.getCurrentPaymentEpoch = none) : system.ledger.paymentEpochs = [] := by
  have none_open := head?_insertionSort_eq_none missing
  by_contra nonempty
  have epochs_ne : system.book.epochs ≠ [] := by simpa [PaymentSystem.book] using nonempty
  obtain ⟨entry, entry_mem, number_eq⟩ := EpochBook.mem_numbers_iff.mp
    (EpochBook.greatest_mem epochs_ne sound.positive)
  have is_open : entry.2 = false := by
    refine sound.latest_open _ entry_mem fun other other_mem => ?_
    rw [number_eq]
    exact EpochBook.le_greatest (List.mem_map_of_mem other_mem)
  obtain ⟨row, row_mem, rfl⟩ := List.mem_map.mp entry_mem
  have kept : row ∈ system.ledger.paymentEpochs.filter fun row => !row.finalized :=
    List.mem_filter.mpr ⟨row_mem, by simpa using is_open⟩
  rw [none_open] at kept
  cases kept

theorem ensureCurrentEpoch_of_some (env : StartEnv) {row : PaymentEpoch}
    (answered : env.currentEpoch = .done)
    (found : system.ledger.getCurrentPaymentEpoch = some row) :
    ensureCurrentEpoch env system =
      ({ system with
         metrics :=
           { system.metrics with
             currentEpoch := row.epoch
             epochStart := some row.startedAt } }, .ok ()) := by
  have read : readLedger env.currentEpoch Ledger.getCurrentPaymentEpoch system =
      (system, .ok (some row)) := by
    rw [answered, ← found]
    rfl
  rw [ensureCurrentEpoch, bind_run_ok read]
  rfl

theorem ensureCurrentEpoch_of_none (env : StartEnv) (answered : env.currentEpoch = .done)
    (missing : system.ledger.getCurrentPaymentEpoch = none) :
    ensureCurrentEpoch env system =
      openEpoch env.createEpoch env.initializeEpoch env.dbNow env.now 1 0 system := by
  have read : readLedger env.currentEpoch Ledger.getCurrentPaymentEpoch system =
      (system, .ok none) := by
    rw [answered, ← missing]
    rfl
  rw [ensureCurrentEpoch, bind_run_ok read]

/-- A daemon that starts enters an open epoch, or tries to open the first one, or stays without
one. -/
theorem ensureCurrentEpoch_cases (env : StartEnv) (system : PaymentSystem) :
    (ensureCurrentEpoch env system).1.book = system.book ∨
      (∃ row, system.ledger.getCurrentPaymentEpoch = some row ∧
        (ensureCurrentEpoch env system).1.book = { system.book with current := row.epoch }) ∨
      (system.ledger.getCurrentPaymentEpoch = none ∧ 1 ∉ system.book.numbers ∧
        ∃ enters, (ensureCurrentEpoch env system).1.book =
          system.book.afterEnd 0 false true enters) := by
  by_cases answered : env.currentEpoch = .done
  · cases found : system.ledger.getCurrentPaymentEpoch with
    | some row =>
        rw [ensureCurrentEpoch_of_some env answered found]
        exact .inr (.inl ⟨row, rfl, rfl⟩)
    | none =>
        rw [ensureCurrentEpoch_of_none env answered found]
        obtain ⟨opens, enters, opened, new, entered, -, -⟩ :=
          openEpoch_book env.createEpoch env.initializeEpoch env.dbNow env.now 0 0 system
        cases opens with
        | true => exact .inr (.inr ⟨rfl, new rfl, enters, opened⟩)
        | false =>
            left
            have outside : enters = false := by
              cases enters with
              | false => rfl
              | true => cases entered rfl
            rw [outside] at opened
            exact opened.trans (by simp [EpochBook.afterEnd])
  · left
    obtain ⟨halt, answer_eq⟩ := Outcome.exists_halt answered
    have read : readLedger env.currentEpoch Ledger.getCurrentPaymentEpoch system =
        (system, .error halt) := by
      simp [readLedger, query, answer_eq, Except.map]
    rw [ensureCurrentEpoch, bind_run_error read]

end

end PaymentDaemon

/-! ## Histories -/

/-- A system with the epochs that the daemon was in, the earliest first. -/
structure PaymentHistory where
  system : PaymentSystem
  entered : List Int

/-- The history after a step. -/
def PaymentHistory.apply (daemon : PaymentDaemon) (history : PaymentHistory) (op : PaymentOp) :
    PaymentHistory :=
  { system := op.apply daemon history.system
    entered :=
      if (op.apply daemon history.system).metrics.currentEpoch = 0 then history.entered
      else history.entered ++ [(op.apply daemon history.system).metrics.currentEpoch] }

/-- The database answers every statement of the start. -/
structure StartEnv.Answered (env : StartEnv) : Prop where
  currentEpoch_eq : env.currentEpoch = .done
  createEpoch_eq : env.createEpoch = .done
  initializeEpoch_eq : env.initializeEpoch = .done

/-- A restart finds its epoch, the current epoch never went back, and no number has two rows. -/
structure EpochProgress (history : PaymentHistory) : Prop where
  resumes : ∀ env : StartEnv, env.Answered →
    (PaymentDaemon.ensureCurrentEpoch env history.system.boot).2 = .ok () ∧
      let resumed :=
        (PaymentDaemon.ensureCurrentEpoch env history.system.boot).1.metrics.currentEpoch
      resumed = history.system.book.greatest ∨ resumed = history.system.book.greatest + 1
  ascending : history.entered.Pairwise (· ≤ ·)
  created_once : history.system.book.numbers.Nodup

/-- When an epoch ends, it is finalized only if the next one exists, or is created right after. -/
def TickEnv.OpensNext (env : TickEnv) (system : PaymentSystem) : Prop :=
  (PaymentDaemon.dueEpoch env.now system.metrics).isSome → env.finalizeEpoch.applied = true →
    system.ledger.hasEpoch (system.metrics.currentEpoch + 1) = true ∨
      (env.finalizeEpoch = .done ∧ env.createEpoch.applied = true)

/-- A tick that finalizes an epoch opens the next one. -/
def PaymentOp.OpensNext (system : PaymentSystem) : PaymentOp → Prop
  | .tick env => env.OpensNext system
  | .start _ | .others _ => True

/-- A step forward: the book stays sound, keeps its epochs, and a daemon that is in an epoch has not
gone back. -/
structure EpochBook.Advances (before after : EpochBook) : Prop where
  sound : after.Sound
  grows : before.numbers <+: after.numbers
  forward : after.current ≠ 0 →
    (before.current ≠ 0 ∧ before.current ≤ after.current) ∨ before.greatest ≤ after.current

section Steps

open PaymentDaemon

variable {daemon : PaymentDaemon} {system : PaymentSystem}

theorem EpochBook.Advances.leave {before after : EpochBook} (advances : before.Advances after) :
    before.Advances after.leave :=
  ⟨advances.sound.leave, advances.grows, fun nonzero => absurd rfl nonzero⟩

theorem start_advances (env : StartEnv) (sound : system.book.Sound) :
    system.book.Advances (start env system).book := by
  have sound_boot : system.boot.book.Sound := sound.leave
  have started : system.book.Advances (ensureCurrentEpoch env system.boot).1.book := by
    rcases ensureCurrentEpoch_cases env system.boot with
      same | ⟨row, found, resumed⟩ | ⟨missing, -, enters, opened⟩
    · rw [same]
      exact ⟨sound.leave, List.prefix_rfl, fun nonzero => absurd rfl nonzero⟩
    · obtain ⟨greatest_eq, known⟩ := resumed_of_sound sound_boot found
      rw [resumed]
      exact ⟨⟨sound.unique, sound.positive, sound.latest_open, fun _ => known⟩, List.prefix_rfl,
        fun _ => .inr greatest_eq.ge⟩
    · rw [opened]
      have no_rows := no_epochs_of_sound sound_boot missing
      have empty : system.boot.book.epochs = [] := by simp [PaymentSystem.book, no_rows]
      have no_epochs : system.book.epochs = [] := empty
      have no_numbers : system.book.numbers = [] := by simp [EpochBook.numbers, no_epochs]
      refine ⟨⟨?_, ?_, ?_, ?_⟩, by rw [no_numbers]; exact List.nil_prefix, fun nonzero => .inr ?_⟩
      · simp [EpochBook.numbers, EpochBook.afterEnd, empty]
      · simp [EpochBook.afterEnd, empty]
      · simp [EpochBook.afterEnd, empty]
      · cases enters with
        | false => exact fun nonzero => absurd rfl nonzero
        | true => simp [EpochBook.afterEnd, EpochBook.numbers]
      · have greatest_eq : system.book.greatest = 0 := by simp [EpochBook.greatest, no_numbers]
        rw [greatest_eq]
        cases enters with
        | false => exact absurd rfl nonzero
        | true => simp [EpochBook.afterEnd]
  rw [start]
  rcases settle_cases (ensureCurrentEpoch env system.boot) with up | crashed
  · rw [up]
    exact started
  · rw [crashed]
    exact started.leave

theorem tick_advances (daemon : PaymentDaemon) (env : TickEnv) (sound : system.book.Sound)
    (opensNext : env.OpensNext system) :
    system.book.Advances (daemon.tick env system).book := by
  obtain ⟨_, closes, opens, enters, rfl, after, nonzero, closed, new, entered, assured⟩ :=
    daemon.tick_book env system
  have advances : system.book.Advances
      (system.book.afterEnd system.metrics.currentEpoch closes opens enters) := by
    refine ⟨?_, by rw [EpochBook.numbers_afterEnd]; exact List.prefix_append _ _, fun inside => ?_⟩
    · by_cases changes : closes = true ∨ opens = true
      · refine sound.afterEnd (sound.current_known (nonzero changes)) new entered fun closing => ?_
        obtain ⟨due, applied⟩ := closed closing
        rcases opensNext due applied with present | ⟨is_done, created⟩
        · exact .inr (hasEpoch_iff.mp present)
        · exact assured closing is_done created
      · obtain ⟨stays, shut⟩ := not_or.mp changes
        have outside : enters = false := by
          cases enters with
          | false => rfl
          | true => exact absurd (entered rfl) shut
        simpa [EpochBook.afterEnd, stays, shut, outside] using sound
    · left
      cases enters with
      | false => exact ⟨inside, le_rfl⟩
      | true =>
          refine ⟨nonzero (.inr (entered rfl)), ?_⟩
          simp [EpochBook.afterEnd, PaymentSystem.book]
  rcases after with same | left
  · rw [same]
    exact advances
  · rw [left]
    exact advances.leave

theorem apply_advances (op : PaymentOp) (sound : system.book.Sound)
    (opensNext : op.OpensNext system) :
    system.book.Advances (op.apply daemon system).book := by
  cases op with
  | start env => exact start_advances env sound
  | tick env => exact tick_advances daemon env sound opensNext
  | others db => exact ⟨sound, List.prefix_rfl, fun inside => .inl ⟨inside, le_rfl⟩⟩

end Steps

/-- The book is sound, and the epochs that were entered lie in order behind the current one. -/
structure PaymentHistory.Ordered (history : PaymentHistory) : Prop where
  sound : history.system.book.Sound
  ascending : history.entered.Pairwise (· ≤ ·)
  below : ∀ number ∈ history.entered, number ≤ history.system.book.greatest
  behind : history.system.metrics.currentEpoch ≠ 0 →
    ∀ number ∈ history.entered, number ≤ history.system.metrics.currentEpoch

namespace PaymentHistory

variable {daemon : PaymentDaemon} {history : PaymentHistory}

theorem Ordered.apply (ordered : history.Ordered) (op : PaymentOp)
    (opensNext : op.OpensNext history.system) : (history.apply daemon op).Ordered := by
  have advances : history.system.book.Advances (op.apply daemon history.system).book :=
    apply_advances op ordered.sound opensNext
  have grows := EpochBook.greatest_mono advances.grows.subset
  by_cases outside : (op.apply daemon history.system).metrics.currentEpoch = 0
  · have entered_eq : (history.apply daemon op).entered = history.entered := if_pos outside
    refine ⟨advances.sound, entered_eq ▸ ordered.ascending, ?_, fun inside => absurd outside inside⟩
    intro number member
    exact (ordered.below number (entered_eq ▸ member)).trans grows
  · have entered_eq : (history.apply daemon op).entered =
        history.entered ++ [(op.apply daemon history.system).metrics.currentEpoch] :=
      if_neg outside
    have last : ∀ number ∈ history.entered,
        number ≤ (op.apply daemon history.system).metrics.currentEpoch := by
      intro number member
      rcases advances.forward outside with ⟨inside, onward⟩ | beyond
      · exact (ordered.behind inside number member).trans onward
      · exact (ordered.below number member).trans beyond
    have current_le : (op.apply daemon history.system).metrics.currentEpoch ≤
        (op.apply daemon history.system).book.greatest :=
      EpochBook.le_greatest (advances.sound.current_known outside)
    refine ⟨advances.sound, ?_, ?_, fun _ => ?_⟩
    · rw [entered_eq, List.pairwise_append]
      refine ⟨ordered.ascending, List.pairwise_singleton _ _, fun number member other same => ?_⟩
      rw [List.mem_singleton.mp same]
      exact last number member
    · rw [entered_eq]
      intro number member
      rcases List.mem_append.mp member with earlier | same
      · exact (ordered.below number earlier).trans grows
      · rw [List.mem_singleton.mp same]
        exact current_le
    · rw [entered_eq]
      intro number member
      rcases List.mem_append.mp member with earlier | same
      · exact last number earlier
      · rw [List.mem_singleton.mp same]
        exact le_rfl

open PaymentDaemon in
theorem Ordered.progress (ordered : history.Ordered) : EpochProgress history := by
  refine ⟨fun env answered => ?_, ordered.ascending, ordered.sound.unique⟩
  have sound_boot : history.system.boot.book.Sound := ordered.sound.leave
  cases found : history.system.boot.ledger.getCurrentPaymentEpoch with
  | some row =>
      obtain ⟨greatest_eq, -⟩ := resumed_of_sound sound_boot found
      rw [ensureCurrentEpoch_of_some env answered.currentEpoch_eq found]
      exact ⟨rfl, .inl greatest_eq⟩
  | none =>
      have no_rows := no_epochs_of_sound sound_boot found
      have empty : history.system.ledger.paymentEpochs = [] := no_rows
      have no_numbers : history.system.boot.book.numbers = [] := by
        simp [EpochBook.numbers, PaymentSystem.book, PaymentSystem.boot, empty]
      obtain ⟨opens, enters, opened, -, entered, -, succeeds⟩ := openEpoch_book env.createEpoch
        env.initializeEpoch env.dbNow env.now 0 0 history.system.boot
      obtain ⟨inside, ended⟩ := succeeds answered.createEpoch_eq answered.initializeEpoch_eq
        (by simp [no_numbers])
      rw [ensureCurrentEpoch_of_none env answered.currentEpoch_eq found]
      refine ⟨ended, .inr ?_⟩
      have current_eq := congrArg EpochBook.current opened
      have greatest_eq : history.system.book.greatest = 0 := by
        simp [EpochBook.greatest, EpochBook.numbers, PaymentSystem.book, empty]
      rw [greatest_eq]
      simpa [EpochBook.afterEnd, PaymentSystem.book, inside] using current_eq

end PaymentHistory

theorem PaymentSystem.Fresh.sound {system : PaymentSystem} (fresh : system.Fresh) :
    system.book.Sound := by
  refine ⟨?_, ?_, ?_, ?_⟩
  · simp [EpochBook.numbers, PaymentSystem.book, fresh.epochs_eq]
  · simp [PaymentSystem.book, fresh.epochs_eq]
  · simp [PaymentSystem.book, fresh.epochs_eq]
  · simp [PaymentSystem.book, fresh.metrics_eq, PaymentDaemonMetrics.default]

/-- In every run whose ticks finalize an epoch only together with opening the next one, a restart
resumes the greatest epoch or creates the first one, the current epoch never goes back, and no
number is created twice. -/
theorem epoch_progress_of_opensNext (daemon : PaymentDaemon) (system : PaymentSystem)
    (fresh : system.Fresh) (ops : List PaymentOp)
    (met : EveryStep (PaymentHistory.apply daemon) (fun history op => op.OpensNext history.system)
      ⟨system, []⟩ ops) :
    EveryState (PaymentHistory.apply daemon) EpochProgress ⟨system, []⟩ ops ∧
      EveryStep (PaymentHistory.apply daemon) (fun history op => history.system.book.numbers <+:
        (history.apply daemon op).system.book.numbers) ⟨system, []⟩ ops := by
  have start : PaymentHistory.Ordered ⟨system, []⟩ :=
    ⟨fresh.sound, List.Pairwise.nil, by simp, by simp⟩
  have keeps : ∀ (history : PaymentHistory) (op : PaymentOp), history.Ordered →
      op.OpensNext history.system → (history.apply daemon op).Ordered :=
    fun _ op ordered opensNext => ordered.apply op opensNext
  constructor
  · exact (everyState_of_everyStep keeps start met).mono fun _ ordered => ordered.progress
  · exact everyStep_of_everyStep keeps
      (fun _ op ordered opensNext => (apply_advances op ordered.sound opensNext).grows) start met

/-! ## A reference daemon -/

namespace Reference

/-- An online node whose wallet is the address of 32 zero bytes. -/
def paidNode : Node :=
  { id := 1
    peerId := "peer"
    grpcAddress := "10.0.0.1:50051"
    storageTotal := 2 ^ 40
    storageReserved := 0
    storageUsed := 0
    bandwidthMbps := 1000
    datacenter := some "dc1"
    rack := some 0
    region := none
    latitude := none
    longitude := none
    status := .online
    lastHeartbeat := none
    failureCount := 0
    firstOfflineAt := none
    statusChangedAt := none
    version := none
    walletAddress := some "11111111111111111111111111111111"
    publicKey := none
    createdAt := 0 }

/-- The default configuration with a client; the products are exact. -/
def paymentDaemon : PaymentDaemon :=
  { config := .default
    blockchain := true
    floatWeight := fun storage online duration reputation =>
      storage.toNat * min online duration.toNat * (5000 + reputation) / (duration.toNat * 10000)
    platformPart := fun amount => amount / 10
    communityPart := fun amount => amount / 20
    parsePubkey := fun wallet =>
      if wallet = "11111111111111111111111111111111" then some (List.replicate 32 0) else none }

/-- Some nodes, and nothing paid yet. -/
def freshPayments (nodes : List Node) : PaymentSystem :=
  { ledger :=
      { buckets := []
        nodes
        files := []
        chunks := []
        chunkLocations := []
        repairJobs := []
        nodeEpochUptime := []
        nodeSlashingEvents := []
        paymentEpochs := [] }
    chain :=
      { allocations := []
        slashes := []
        finalizedEpochs := [] }
    metrics := .default
    running := false }

theorem freshPayments_fresh (nodes : List Node) : (freshPayments nodes).Fresh :=
  ⟨rfl, rfl, rfl, rfl, rfl, rfl, rfl⟩

/-- A start where every statement succeeds. -/
def calmStart (now : Time) : StartEnv :=
  { now
    dbNow := now
    currentEpoch := .done
    createEpoch := .done
    initializeEpoch := .done }

/-- A tick where every statement and transaction succeeds and the pool holds a billion. -/
def calmTick (now : Time) : TickEnv :=
  { now
    dbNow := now
    allNodes := .done
    nodeOrder := .insertion
    ensureUptime := fun _ => .done
    addUptime := fun _ => .done
    endUptime := .done
    downtime := .done
    downtimeOrder := .insertion
    slashedNode := fun _ => .done
    slash := fun _ => ⟨.done, "slashed"⟩
    recordSlash := fun _ => .done
    epochUptime := .done
    uptimeOrder := .insertion
    weighedNode := fun _ => .done
    epochRewards := .done
    rewards := some ⟨1000000000, 850000000⟩
    allocate := fun _ => ⟨.done, "allocated"⟩
    markPayment := fun _ => .done
    finalizeChain := ⟨.done, "finalized"⟩
    finalizeEpoch := .done
    createEpoch := .done
    initializeEpoch := .done }

/-- Seven days in microseconds. -/
def week : Time := 604800000000

end Reference

open Reference

/-- The daemon crashes after finalizing the first epoch; from then on it finds no epoch to resume
and cannot create the first one again. -/
theorem epoch_progress_lost_after_crash :
    ¬ EveryState (PaymentHistory.apply paymentDaemon) EpochProgress ⟨freshPayments [paidNode], []⟩
      [.start (calmStart 0), .tick { calmTick week with createEpoch := .crashed }] := by
  intro every
  have resumes := (every.last.resumes (calmStart week) ⟨rfl, rfl, rfl⟩).1
  revert resumes
  decide +kernel

/-- A daemon that ends two epochs and is started again in the third. -/
theorem epoch_progress_two_weeks :
    EveryStep (PaymentHistory.apply paymentDaemon) (fun history op => op.OpensNext history.system)
        ⟨freshPayments [paidNode], []⟩
        [.start (calmStart 0), .tick (calmTick week), .tick (calmTick (2 * week)),
          .start (calmStart (2 * week))] ∧
      EveryState (PaymentHistory.apply paymentDaemon) EpochProgress ⟨freshPayments [paidNode], []⟩
        [.start (calmStart 0), .tick (calmTick week), .tick (calmTick (2 * week)),
          .start (calmStart (2 * week))] := by
  have met : EveryStep (PaymentHistory.apply paymentDaemon)
      (fun history op => op.OpensNext history.system) ⟨freshPayments [paidNode], []⟩
      [.start (calmStart 0), .tick (calmTick week), .tick (calmTick (2 * week)),
        .start (calmStart (2 * week))] :=
    ⟨trivial, fun _ _ => .inr ⟨rfl, rfl⟩, fun _ _ => .inr ⟨rfl, rfl⟩, trivial, trivial⟩
  exact ⟨met, (epoch_progress_of_opensNext paymentDaemon _ (freshPayments_fresh _) _ met).1⟩

end CyxCloud.Gateway
