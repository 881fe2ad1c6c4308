import Mathlib.Data.List.Basic

/-!
# Effects that fail and crash

A program that works on a durable state through statements, each of which may be refused, may take
effect without the caller learning of it, or may be the last thing the process does.  A program
that stops early keeps what it did before.
-/

namespace CyxCloud.Library

universe u v

/-- Why a program stops early. -/
inductive Halt where
  | error
  | crash
  deriving DecidableEq, Repr

/-- How one statement or request ends. -/
inductive Outcome where
  /-- It takes effect, and the caller learns so. -/
  | done
  /-- It takes effect, and the caller sees an error. -/
  | lost
  /-- It has no effect, and the caller sees an error. -/
  | failed
  /-- The process stops before it. -/
  | crashed
  /-- It takes effect, and the process stops. -/
  | crashedAfter
  deriving DecidableEq, Repr

/-- The statement takes effect. -/
def Outcome.applied : Outcome → Bool
  | .done | .lost | .crashedAfter => true
  | .failed | .crashed => false

/-- What the caller learns. -/
def Outcome.answer : Outcome → Except Halt Unit
  | .done => .ok ()
  | .lost | .failed => .error .error
  | .crashed | .crashedAfter => .error .crash

/-- The process survives the statement. -/
def Outcome.survives (outcome : Outcome) : Prop := outcome.answer ≠ .error .crash

theorem Outcome.exists_halt {outcome : Outcome} (not_done : outcome ≠ .done) :
    ∃ halt, outcome.answer = .error halt := by
  cases outcome with
  | done => exact absurd rfl not_done
  | lost | failed => exact ⟨.error, rfl⟩
  | crashed | crashedAfter => exact ⟨.crash, rfl⟩

/-- A program over a durable state. -/
def Effect (σ : Type u) (α : Type v) : Type (max u v) := σ → σ × Except Halt α

namespace Effect

variable {σ : Type u} {α β : Type v} {ε : Type*}

instance : Monad (Effect σ) where
  pure value := fun state => (state, .ok value)
  bind first next := fun state =>
    match first state with
    | (reached, .ok value) => next value reached
    | (reached, .error halt) => (reached, .error halt)

/-- Stop with an error. -/
def fail : Effect σ α := fun state => (state, .error .error)

/-- Read the state of the process itself. -/
def get : Effect σ σ := fun state => (state, .ok state)

/-- Change the state of the process itself. -/
def modify (update : σ → σ) : Effect σ Unit := fun state => (update state, .ok ())

/-- A statement that the store may refuse; a refused one has no effect. -/
def statement (outcome : Outcome) (run : σ → Except ε (σ × α)) : Effect σ α := fun state =>
  if outcome.applied then
    match run state with
    | .ok (reached, value) => (reached, outcome.answer.map fun _ => value)
    | .error _ => (state, if outcome = .crashedAfter then .error .crash else .error .error)
  else
    match outcome.answer with
    | .ok () => (state, .error .error)
    | .error halt => (state, .error halt)

/-- A statement that the store never refuses. -/
def update (outcome : Outcome) (change : σ → σ) : Effect σ Unit := fun state =>
  (if outcome.applied then change state else state, outcome.answer)

/-- A query. -/
def query (outcome : Outcome) (read : σ → α) : Effect σ α := fun state =>
  (state, outcome.answer.map fun _ => read state)

/-- Run a program and go on after an error. -/
def attempt (program : Effect σ α) : Effect σ Unit := fun state =>
  match program state with
  | (reached, .error .crash) => (reached, .error .crash)
  | (reached, _) => (reached, .ok ())

/-- Run a program for one element after the other. -/
def each {ι : Type*} (elements : List ι) (program : ι → Effect σ Unit) : Effect σ Unit :=
  match elements with
  | [] => pure ()
  | element :: rest => program element >>= fun _ => each rest program

/-! ## Running -/

section Running

variable {state reached : σ}

@[simp]
theorem pure_run (value : α) (state : σ) :
    (pure value : Effect σ α) state = (state, .ok value) := rfl

@[simp]
theorem modify_run (change : σ → σ) (state : σ) :
    modify change state = (change state, .ok ()) := rfl

@[simp]
theorem get_run (state : σ) : (get : Effect σ σ) state = (state, .ok state) := rfl

theorem bind_run_ok {program : Effect σ α} {next : α → Effect σ β} {value : α}
    (ran : program state = (reached, .ok value)) :
    (program >>= next) state = next value reached := by
  change (match program state with
    | (reached, .ok value) => next value reached
    | (reached, .error halt) => (reached, .error halt)) = _
  rw [ran]

theorem bind_run_error {program : Effect σ α} {next : α → Effect σ β} {halt : Halt}
    (ran : program state = (reached, .error halt)) :
    (program >>= next) state = (reached, .error halt) := by
  change (match program state with
    | (reached, .ok value) => next value reached
    | (reached, .error halt) => (reached, .error halt)) = _
  rw [ran]

theorem update_done (change : σ → σ) (state : σ) :
    update .done change state = (change state, .ok ()) := rfl

theorem query_done (read : σ → α) (state : σ) :
    query .done read state = (state, .ok (read state)) := rfl

theorem statement_done_ok {run : σ → Except ε (σ × α)} {value : α}
    (accepted : run state = .ok (reached, value)) :
    statement .done run state = (reached, .ok value) := by
  simp [statement, Outcome.applied, Outcome.answer, accepted, Except.map]

/-- A statement that the store accepts. -/
theorem statement_of_accepts {run : σ → Except ε (σ × α)} {value : α}
    (accepted : run state = .ok (reached, value)) (outcome : Outcome) :
    statement outcome run state =
      (if outcome.applied then reached else state, outcome.answer.map fun _ => value) := by
  cases outcome with
  | done | lost | crashedAfter => simp [statement, Outcome.applied, accepted]
  | failed | crashed => rfl

theorem bind_run_halt {program : Effect σ α} {halt : Halt}
    (stopped : (program state).2 = .error halt) (next : α → Effect σ β) :
    (program >>= next) state = ((program state).1, .error halt) :=
  bind_run_error (Prod.ext rfl stopped)

theorem bind_run_value {program : Effect σ α} {value : α} (ended : (program state).2 = .ok value)
    (next : α → Effect σ β) : (program >>= next) state = next value (program state).1 :=
  bind_run_ok (Prod.ext rfl ended)

theorem statement_crash {outcome : Outcome} (crashes : ¬ outcome.survives)
    (run : σ → Except ε (σ × α)) (state : σ) :
    (statement outcome run state).2 = .error .crash := by
  have crashed : outcome.answer = .error .crash := not_not.mp crashes
  cases outcome with
  | done | lost | failed => cases crashed
  | crashed => rfl
  | crashedAfter =>
      rw [statement, if_pos rfl]
      cases run state with
      | ok result => rfl
      | error cause => rfl

theorem update_crash {outcome : Outcome} (crashes : ¬ outcome.survives) (change : σ → σ)
    (state : σ) : (update outcome change state).2 = .error .crash :=
  not_not.mp crashes

theorem attempt_ok {program : Effect σ α} {value : α}
    (ran : program state = (reached, .ok value)) : attempt program state = (reached, .ok ()) := by
  rw [attempt, ran]

theorem attempt_fst (program : Effect σ α) (state : σ) :
    (attempt program state).1 = (program state).1 := by
  unfold attempt
  split
  · rename_i ran
    rw [ran]
  · rename_i ran
    rw [ran]

end Running

/-- A statement that cannot be refused is carried out, or stops the program. -/
theorem update_cases (outcome : Outcome) (change : σ → σ) (state : σ) :
    (outcome = .done ∧ update outcome change state = (change state, .ok ())) ∨
      (outcome ≠ .done ∧ ∃ halt,
        (outcome.applied = true ∧ update outcome change state = (change state, .error halt)) ∨
          (outcome.applied = false ∧ update outcome change state = (state, .error halt))) := by
  by_cases is_done : outcome = .done
  · subst is_done
    exact .inl ⟨rfl, rfl⟩
  · obtain ⟨halt, answer_eq⟩ := Outcome.exists_halt is_done
    refine .inr ⟨is_done, halt, ?_⟩
    cases applied : outcome.applied with
    | true => exact .inl ⟨rfl, by simp [update, applied, answer_eq]⟩
    | false => exact .inr ⟨rfl, by simp [update, applied, answer_eq]⟩

/-- A statement that the store accepts is carried out, perhaps as the last one; any other stops the
program without effect. -/
theorem statement_cases (outcome : Outcome) (run : σ → Except ε (σ × α)) (state : σ) :
    (∃ reached value, run state = .ok (reached, value) ∧ outcome.applied = true ∧
        ((outcome = .done ∧ statement outcome run state = (reached, .ok value)) ∨
          (outcome ≠ .done ∧ ∃ halt, statement outcome run state = (reached, .error halt)))) ∨
      ∃ halt, statement outcome run state = (state, .error halt) ∧
        (outcome.applied = true → ∃ cause, run state = .error cause) := by
  cases applied : outcome.applied with
  | true =>
      cases ran : run state with
      | ok result =>
          obtain ⟨reached, value⟩ := result
          refine .inl ⟨reached, value, rfl, rfl, ?_⟩
          by_cases is_done : outcome = .done
          · subst is_done
            exact .inl ⟨rfl, statement_done_ok ran⟩
          · obtain ⟨halt, answer_eq⟩ := Outcome.exists_halt is_done
            exact .inr ⟨is_done, halt, by simp [statement, applied, ran, answer_eq, Except.map]⟩
      | error cause =>
          by_cases last : outcome = .crashedAfter
          · refine .inr ⟨.crash, ?_, fun _ => ⟨cause, rfl⟩⟩
            rw [statement, if_pos applied, ran, if_pos last]
          · refine .inr ⟨.error, ?_, fun _ => ⟨cause, rfl⟩⟩
            rw [statement, if_pos applied, ran, if_neg last]
  | false =>
      have not_done : outcome ≠ .done := by
        rintro rfl
        cases applied
      obtain ⟨halt, answer_eq⟩ := Outcome.exists_halt not_done
      exact .inr ⟨halt, by simp [statement, applied, answer_eq], fun wrong => by cases wrong⟩

/-- A sequence stops in its first part, or runs its second one. -/
theorem bind_cases (program : Effect σ α) (next : α → Effect σ β) (state : σ) :
    (∃ reached halt, program state = (reached, .error halt) ∧
        (program >>= next) state = (reached, .error halt)) ∨
      ∃ reached value, program state = (reached, .ok value) ∧
        (program >>= next) state = next value reached := by
  cases ran : program state with
  | mk reached result =>
      cases result with
      | error halt => exact .inl ⟨reached, halt, rfl, bind_run_error ran⟩
      | ok value => exact .inr ⟨reached, value, rfl, bind_run_ok ran⟩

/-! ## What a program can do to the state -/

/-- A law on changes of the state that a sequence of changes obeys if every one does. -/
structure Law (σ : Type u) where
  allows : σ → σ → Prop
  refl : ∀ state, allows state state
  trans : ∀ {first second third}, allows first second → allows second third →
    allows first third

/-- The law that a view of the state stays. -/
def Law.keep {τ : Type*} (view : σ → τ) : Law σ where
  allows before after := view after = view before
  refl _ := rfl
  trans first second := second.trans first

/-- The law that a property is not lost. -/
def Law.preserve (property : σ → Prop) : Law σ where
  allows before after := property before → property after
  refl _ := id
  trans first second := second ∘ first

/-- Wherever a program stops, it has obeyed the law. -/
def Obeys (law : Law σ) (program : Effect σ α) : Prop :=
  ∀ state, law.allows state (program state).1

section Obeys

variable {law : Law σ}

theorem obeys_pure (value : α) : Obeys law (pure value : Effect σ α) := law.refl

theorem obeys_get : Obeys law (get : Effect σ σ) := law.refl

theorem Obeys.bind {program : Effect σ α} {next : α → Effect σ β} (first : Obeys law program)
    (rest : ∀ value, Obeys law (next value)) : Obeys law (program >>= next) := by
  intro state
  have here := first state
  rcases bind_cases program next state with
    ⟨reached, halt, ran, result⟩ | ⟨reached, value, ran, result⟩
  · rw [ran] at here
    rw [result]
    exact here
  · rw [ran] at here
    rw [result]
    exact law.trans here (rest value reached)

/-- A sequence that starts with a program that keeps a view. -/
theorem Obeys.bind_cases {τ : Type*} {view : σ → τ} {program : Effect σ α}
    (keeps : Obeys (.keep view) program) (next : α → Effect σ β) (state : σ) :
    (∃ reached halt, view reached = view state ∧
        (program >>= next) state = (reached, .error halt)) ∨
      ∃ reached value, view reached = view state ∧ program state = (reached, .ok value) ∧
        (program >>= next) state = next value reached := by
  have kept := keeps state
  rcases Effect.bind_cases program next state with
    ⟨reached, halt, ran, result⟩ | ⟨reached, value, ran, result⟩
  · rw [ran] at kept
    exact .inl ⟨reached, halt, kept, result⟩
  · rw [ran] at kept
    exact .inr ⟨reached, value, kept, ran, result⟩

/-- A program that keeps a view obeys the laws that only look at the view. -/
theorem Obeys.of_keeps {τ : Type*} {view : σ → τ} {program : Effect σ α}
    (keeps : Obeys (.keep view) program)
    (allows : ∀ before after, view after = view before → law.allows before after) :
    Obeys law program :=
  fun state => allows _ _ (keeps state)

/-- A program that keeps a view and a property keeps both. -/
theorem Obeys.and_keeps {τ : Type*} {view : σ → τ} {property : σ → Prop} {program : Effect σ α}
    (preserves : Obeys (.preserve property) program) (keeps : Obeys (.keep view) program)
    (seen : τ) : Obeys (.preserve fun state => view state = seen ∧ property state) program :=
  fun state holds => ⟨(keeps state).trans holds.1, preserves state holds.2⟩

theorem obeys_modify {change : σ → σ} (changes : ∀ state, law.allows state (change state)) :
    Obeys law (modify change) :=
  changes

theorem obeys_update {change : σ → σ} (changes : ∀ state, law.allows state (change state))
    (outcome : Outcome) : Obeys law (update outcome change) := by
  intro state
  unfold update
  split
  · exact changes state
  · exact law.refl state

theorem obeys_query (outcome : Outcome) (read : σ → α) : Obeys law (query outcome read) := law.refl

theorem obeys_statement {run : σ → Except ε (σ × α)}
    (changes : ∀ state reached value, run state = .ok (reached, value) → law.allows state reached)
    (outcome : Outcome) : Obeys law (statement outcome run) := by
  intro state
  unfold statement
  split
  · split
    · rename_i reached value accepted
      exact changes state reached value accepted
    · exact law.refl state
  · split
    · exact law.refl state
    · exact law.refl state

theorem obeys_each {ι : Type*} {program : ι → Effect σ Unit} {elements : List ι}
    (obeys : ∀ element ∈ elements, Obeys law (program element)) :
    Obeys law (each elements program) := by
  induction elements with
  | nil => exact law.refl
  | cons element rest induction =>
      exact (obeys element List.mem_cons_self).bind
        fun _ => induction fun later member => obeys later (List.mem_cons_of_mem _ member)

end Obeys

/-! ## Programs that run to their end -/

/-- From every state the program runs to its end. -/
def Completes (program : Effect σ α) : Prop :=
  ∀ state, ∃ reached value, program state = (reached, .ok value)

theorem completes_pure (value : α) : Completes (pure value : Effect σ α) :=
  fun state => ⟨state, value, rfl⟩

theorem Completes.bind {program : Effect σ α} {next : α → Effect σ β} (first : Completes program)
    (rest : ∀ value, Completes (next value)) : Completes (program >>= next) := by
  intro state
  obtain ⟨reached, value, ran⟩ := first state
  rw [bind_run_ok ran]
  exact rest value reached

theorem Completes.run_keeps {τ : Type*} {view : σ → τ} {program : Effect σ α}
    (completes : Completes program) (keeps : Obeys (.keep view) program) (state : σ) :
    ∃ reached value, program state = (reached, .ok value) ∧ view reached = view state := by
  have kept := keeps state
  obtain ⟨reached, value, ran⟩ := completes state
  rw [ran] at kept
  exact ⟨reached, value, ran, kept⟩

theorem completes_modify (change : σ → σ) : Completes (modify change) :=
  fun state => ⟨change state, (), rfl⟩

theorem completes_update {outcome : Outcome} (is_done : outcome = .done) (change : σ → σ) :
    Completes (update outcome change) := by
  subst is_done
  exact fun state => ⟨change state, (), rfl⟩

theorem completes_query {outcome : Outcome} (is_done : outcome = .done) (read : σ → α) :
    Completes (query outcome read) := by
  subst is_done
  exact fun state => ⟨state, read state, rfl⟩

theorem completes_each {ι : Type*} {program : ι → Effect σ Unit} {elements : List ι}
    (completes : ∀ element ∈ elements, Completes (program element)) :
    Completes (each elements program) := by
  induction elements with
  | nil => exact completes_pure ()
  | cons element rest induction =>
      exact (completes element List.mem_cons_self).bind
        fun _ => induction fun later member => completes later (List.mem_cons_of_mem _ member)

end Effect

end CyxCloud.Library
