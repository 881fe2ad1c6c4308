import CyxCloud.Library.ExpiringKeys
import CyxCloud.Library.Runs
import Mathlib.Data.List.Induction

/-!
# Reading through a cache

A reader looks a value up in a cache, asks the source when it is not there, and fills the cache with
the answer.  The source changes behind the cache, the cached value may be dropped at any moment, and
both servers may fail.  A value that is served was an answer of the source not too long before, if
the readers fill the cache soon after they have asked.
-/

namespace CyxCloud.Library

variable {σ ω χ β : Type*}

/-- What is cached: the answers of a source that changes, for how long they live. -/
structure CacheUse (σ ω χ β : Type*) where
  /-- The answer of the source; some of it may be the choice of the source. -/
  query : χ → σ → β
  change : σ → Nat → ω → σ
  lifetime : Nat

/-- The next step of a reader, or how it has ended. -/
inductive CacheReader (β : Type*) where
  | lookUp
  | query
  | store (value : β) (asked : Nat)
  | got (value : β) (seen : Nat)
  | failed
  deriving DecidableEq, Repr

/-- The source, the key of the cache if there is a cache, and all readers in the order in which
they started. -/
structure CacheAside (σ β : Type*) where
  source : σ
  cache : Option (ExpiringKey β)
  now : Nat
  readers : List (CacheReader β)

/-- A reader starts or takes its next step, the source changes, the cached value is dropped, or time
passes.  A server that fails does not reply. -/
inductive CacheStep (ω χ : Type*) where
  | read
  | advance (reader : Nat) (reply : Option χ)
  | change (op : ω)
  | drop
  | wait (duration : Nat)

namespace CacheAside

/-- No readers yet, and nothing cached. -/
def start (source : σ) (hasCache : Bool) (now : Nat) : CacheAside σ β where
  source := source
  cache := if hasCache then some .absent else none
  now := now
  readers := []

/-- The cached value, if it is found. -/
def cached (state : CacheAside σ β) : Option β := state.cache.bind fun key => key.get state.now

variable (use : CacheUse σ ω χ β)

/-- The next step of a reader. -/
def next (state : CacheAside σ β) (reply : Option χ) : CacheReader β → CacheReader β
  | .lookUp =>
      match reply.bind fun _ => state.cached with
      | some value => .got value state.now
      | none => .query
  | .query =>
      match reply with
      | some choice => .store (use.query choice state.source) state.now
      | none => .failed
  | .store value asked => .got value asked
  | .got value seen => .got value seen
  | .failed => .failed

/-- What a step of a reader leaves in the cache. -/
def fill (state : CacheAside σ β) (reply : Option χ) :
    CacheReader β → Option (ExpiringKey β)
  | .store value _ =>
      if reply.isSome then state.cache.map fun _ => .lapsing value (state.now + use.lifetime)
      else state.cache
  | _ => state.cache

/-- Carry out a step. -/
def apply (state : CacheAside σ β) : CacheStep ω χ → CacheAside σ β
  | .read => { state with readers := state.readers ++ [.lookUp] }
  | .advance reader reply =>
      match state.readers[reader]? with
      | some stage =>
          { state with
            cache := state.fill use reply stage
            readers := state.readers.set reader (state.next use reply stage) }
      | none => state
  | .change op => { state with source := use.change state.source state.now op }
  | .drop => { state with cache := state.cache.map fun _ => .absent }
  | .wait duration => { state with now := state.now + duration }

/-- A reader that fills the cache has asked the source no longer ago than this. -/
def FillsWithin (delay : Nat) (state : CacheAside σ β) : CacheStep ω χ → Prop
  | .advance reader (some _) =>
      state.cache.isSome → ∀ value asked, state.readers[reader]? = some (.store value asked) →
        state.now ≤ asked + delay
  | _ => True

/-- The source would have answered so at a moment of the run. -/
def AnsweredAt (begin : CacheAside σ β) (ops : List (CacheStep ω χ)) (value : β) (time : Nat) :
    Prop :=
  ∃ before after, ops = before ++ after ∧
    (runAll (apply use) begin before).now = time ∧
    ∃ choice, use.query choice (runAll (apply use) begin before).source = value

variable {use} {begin : CacheAside σ β} {ops : List (CacheStep ω χ)} {value : β} {time : Nat}

theorem AnsweredAt.append (answered : AnsweredAt use begin ops value time)
    (later : List (CacheStep ω χ)) : AnsweredAt use begin (ops ++ later) value time := by
  obtain ⟨before, after, rfl, moment⟩ := answered
  exact ⟨before, after ++ later, List.append_assoc before after later, moment⟩

/-- What the source answers at the end of a run it answers at a moment of it. -/
theorem answeredAt_now (choice : χ) :
    AnsweredAt use begin ops (use.query choice (runAll (apply use) begin ops).source)
      (runAll (apply use) begin ops).now :=
  ⟨ops, [], (List.append_nil ops).symm, rfl, choice, rfl⟩

theorem answeredAt_nil_iff : AnsweredAt use begin [] value time ↔
    begin.now = time ∧ ∃ choice, use.query choice begin.source = value := by
  constructor
  · rintro ⟨before, after, split, moment⟩
    obtain ⟨rfl, rfl⟩ := List.append_eq_nil_iff.mp split.symm
    exact moment
  · intro moment
    exact ⟨[], [], rfl, moment⟩

theorem answeredAt_cons_iff {op : CacheStep ω χ} : AnsweredAt use begin (op :: ops) value time ↔
    (begin.now = time ∧ ∃ choice, use.query choice begin.source = value) ∨
      AnsweredAt use (apply use begin op) ops value time := by
  constructor
  · rintro ⟨before, after, split, moment⟩
    cases before with
    | nil => exact .inl moment
    | cons first before =>
        obtain ⟨rfl, rfl⟩ := List.cons.inj split
        exact .inr ⟨before, after, rfl, moment⟩
  · rintro (moment | ⟨before, after, rfl, moment⟩)
    · exact ⟨[], op :: ops, rfl, moment⟩
    · exact ⟨op :: before, after, rfl, moment⟩

/-- Time does not go back. -/
theorem now_le_apply (state : CacheAside σ β) (op : CacheStep ω χ) :
    state.now ≤ (apply use state op).now := by
  cases op with
  | wait duration => exact Nat.le_add_right state.now duration
  | advance reader reply =>
      simp only [apply]
      split <;> exact Nat.le_refl _
  | read => exact Nat.le_refl _
  | change op => exact Nat.le_refl _
  | drop => exact Nat.le_refl _

theorem now_le_runAll (state : CacheAside σ β) (ops : List (CacheStep ω χ)) :
    state.now ≤ (runAll (apply use) state ops).now := by
  induction ops generalizing state with
  | nil => exact Nat.le_refl _
  | cons op ops induction => exact Nat.le_trans (now_le_apply state op) (induction _)

theorem AnsweredAt.le_now (answered : AnsweredAt use begin ops value time) :
    time ≤ (runAll (apply use) begin ops).now := by
  obtain ⟨before, after, rfl, rfl, -⟩ := answered
  rw [runAll_append]
  exact now_le_runAll _ after

/-! ## The invariant -/

/-- What a reader has was an answer at some moment of the run: at the very moment it has asked, or
within a bound before it has found the answer cached. -/
def Traced (use : CacheUse σ ω χ β) (delay : Nat) (begin : CacheAside σ β)
    (ops : List (CacheStep ω χ)) : CacheReader β → Prop
  | .store value asked => AnsweredAt use begin ops value asked
  | .got value seen =>
      ∃ time, AnsweredAt use begin ops value time ∧ time ≤ seen ∧
        (begin.cache = none → time = seen) ∧ seen ≤ time + use.lifetime + delay
  | _ => True

/-- What is cached and what the readers have was an answer not too long before. -/
structure Recent (use : CacheUse σ ω χ β) (delay : Nat) (begin : CacheAside σ β)
    (ops : List (CacheStep ω χ)) (state : CacheAside σ β) : Prop where
  cacheless : begin.cache = none → state.cache = none
  cached : ∀ key, state.cache = some key → ∀ value later, key.get later = some value →
    ∃ time, AnsweredAt use begin ops value time ∧ later ≤ time + use.lifetime + delay
  traced : ∀ stage ∈ state.readers, Traced use delay begin ops stage

variable {delay : Nat}

theorem Traced.append {stage : CacheReader β} (traced : Traced use delay begin ops stage)
    (later : List (CacheStep ω χ)) : Traced use delay begin (ops ++ later) stage := by
  cases stage with
  | store value asked => exact AnsweredAt.append traced later
  | got value seen =>
      obtain ⟨time, answered, bounds⟩ := traced
      exact ⟨time, answered.append later, bounds⟩
  | lookUp => trivial
  | query => trivial
  | failed => trivial

theorem recent_start (source : σ) (hasCache : Bool) (now : Nat) :
    Recent use delay (start source hasCache now : CacheAside σ β) []
      (start source hasCache now : CacheAside σ β) where
  cacheless := id
  cached := by
    intro key cached value later found
    cases hasCache with
    | false => cases cached
    | true =>
        cases cached
        cases found
  traced := fun stage member => absurd member List.not_mem_nil

/-- The next stage of a reader is traced. -/
theorem Recent.next (recent : Recent use delay begin ops (runAll (apply use) begin ops))
    {stage : CacheReader β} (traced : Traced use delay begin ops stage) (reply : Option χ) :
    Traced use delay begin ops ((runAll (apply use) begin ops).next use reply stage) := by
  cases stage with
  | lookUp =>
      rw [CacheAside.next]
      split
      · rename_i value found
        obtain ⟨choice, -, found⟩ := Option.bind_eq_some_iff.mp found
        obtain ⟨key, cached, found⟩ := Option.bind_eq_some_iff.mp found
        obtain ⟨time, answered, bound⟩ := recent.cached key cached value _ found
        refine ⟨time, answered, answered.le_now, fun cacheless => ?_, bound⟩
        cases (recent.cacheless cacheless).symm.trans cached
      · trivial
  | query =>
      cases reply with
      | some choice => exact answeredAt_now choice
      | none => trivial
  | store value asked =>
      exact ⟨asked, traced, Nat.le_refl asked, fun _ => rfl,
        Nat.le_trans (Nat.le_add_right _ _) (Nat.le_add_right _ _)⟩
  | got value seen => exact traced
  | failed => trivial

/-- What a reader leaves in the cache was an answer not too long before. -/
theorem Recent.fill (recent : Recent use delay begin ops (runAll (apply use) begin ops))
    {stage : CacheReader β} (traced : Traced use delay begin ops stage) {reply : Option χ}
    (soon : reply.isSome → (runAll (apply use) begin ops).cache.isSome → ∀ value asked,
      stage = .store value asked → (runAll (apply use) begin ops).now ≤ asked + delay)
    {key : ExpiringKey β} (cached : (runAll (apply use) begin ops).fill use reply stage = some key)
    {value : β} {later : Nat} (found : key.get later = some value) :
    ∃ time, AnsweredAt use begin ops value time ∧ later ≤ time + use.lifetime + delay := by
  cases stage with
  | store value' asked =>
      rw [CacheAside.fill] at cached
      split at cached
      · rename_i replied
        obtain ⟨old, present, rfl⟩ := Option.map_eq_some_iff.mp cached
        obtain ⟨early, rfl⟩ := ExpiringKey.get_lapsing_eq_some_iff.mp found
        have filled := soon replied (Option.isSome_of_eq_some present) value' asked rfl
        exact ⟨asked, traced, by omega⟩
      · exact recent.cached key cached value later found
  | lookUp => exact recent.cached key cached value later found
  | query => exact recent.cached key cached value later found
  | got other seen => exact recent.cached key cached value later found
  | failed => exact recent.cached key cached value later found

theorem fill_eq_none {state : CacheAside σ β} (cacheless : state.cache = none)
    (reply : Option χ) (stage : CacheReader β) : state.fill use reply stage = none := by
  cases stage with
  | store value asked =>
      rw [fill, cacheless]
      split <;> rfl
  | lookUp => exact cacheless
  | query => exact cacheless
  | got value seen => exact cacheless
  | failed => exact cacheless

/-- What holds of a run holds of a longer one that leaves the readers and the cache as they are. -/
theorem Recent.append {state state' : CacheAside σ β}
    (recent : Recent use delay begin ops state) (later : List (CacheStep ω χ))
    (same_cache : state'.cache = state.cache) (same_readers : state'.readers = state.readers) :
    Recent use delay begin (ops ++ later) state' where
  cacheless := by
    rw [same_cache]
    exact recent.cacheless
  cached := by
    rw [same_cache]
    intro key cached value moment found
    obtain ⟨time, answered, bound⟩ := recent.cached key cached value moment found
    exact ⟨time, answered.append later, bound⟩
  traced := by
    rw [same_readers]
    exact fun stage member => (recent.traced stage member).append later

/-- A step keeps the invariant, if what it fills the cache with was asked for soon before. -/
theorem Recent.apply (recent : Recent use delay begin ops (runAll (apply use) begin ops))
    {op : CacheStep ω χ} (soon : FillsWithin delay (runAll (apply use) begin ops) op) :
    Recent use delay begin (ops ++ [op])
      (CacheAside.apply use (runAll (CacheAside.apply use) begin ops) op) := by
  cases op with
  | read =>
      have kept := recent.append [CacheStep.read] rfl rfl
      refine ⟨kept.cacheless, kept.cached, fun stage member => ?_⟩
      rcases List.mem_append.mp member with old | new
      · exact kept.traced stage old
      · cases List.mem_singleton.mp new
        trivial
  | advance reader reply =>
      have kept := recent.append [CacheStep.advance reader reply] rfl rfl
      simp only [CacheAside.apply]
      split
      · rename_i stage known
        have traced := recent.traced stage (List.mem_of_getElem? known)
        constructor
        · exact fun cacheless => fill_eq_none (recent.cacheless cacheless) reply stage
        · intro key cached value later found
          have within : reply.isSome → (runAll (CacheAside.apply use) begin ops).cache.isSome →
              ∀ value asked, stage = .store value asked →
                (runAll (CacheAside.apply use) begin ops).now ≤ asked + delay := by
            rintro replied present value asked rfl
            obtain ⟨choice, rfl⟩ := Option.isSome_iff_exists.mp replied
            exact soon present value asked known
          obtain ⟨time, answered, bound⟩ := recent.fill traced within cached found
          exact ⟨time, answered.append _, bound⟩
        · intro other member
          rcases List.mem_or_eq_of_mem_set member with old | rfl
          · exact kept.traced other old
          · exact (recent.next traced reply).append _
      · exact kept
  | change op => exact recent.append _ rfl rfl
  | drop =>
      have kept := recent.append [CacheStep.drop (ω := ω)] rfl rfl
      refine ⟨fun cacheless => ?_, fun key cached value later found => ?_, kept.traced⟩
      · rw [CacheAside.apply, recent.cacheless cacheless, Option.map_none]
      · obtain ⟨old, -, rfl⟩ := Option.map_eq_some_iff.mp cached
        cases found
  | wait duration => exact recent.append _ rfl rfl

/-- The invariant holds throughout a run whose readers fill the cache soon after they have asked. -/
theorem recent_runAll (start : Recent use delay begin [] begin) (ops : List (CacheStep ω χ))
    (soon : EveryStep (apply use) (FillsWithin delay) begin ops) :
    Recent use delay begin ops (runAll (apply use) begin ops) := by
  induction ops using List.reverseRecOn with
  | nil => exact start
  | append_singleton before op induction =>
      rw [everyStep_concat_iff] at soon
      rw [runAll_append]
      exact (induction soon.1).apply soon.2

/-- What a reader is served was an answer of the source not too long before it was seen, and an
answer of the very moment if there is no cache. -/
theorem served_recent {source : σ} {hasCache : Bool} {now : Nat} {ops : List (CacheStep ω χ)}
    (soon : EveryStep (apply use) (FillsWithin delay) (start source hasCache now) ops)
    {value : β} {seen : Nat}
    (served : .got value seen ∈ (runAll (apply use) (start source hasCache now) ops).readers) :
    ∃ time, AnsweredAt use (start source hasCache now) ops value time ∧ time ≤ seen ∧
      (hasCache = false → time = seen) ∧ seen ≤ time + use.lifetime + delay := by
  have recent := recent_runAll (recent_start source hasCache now) ops soon
  obtain ⟨time, answered, past, fresh, bound⟩ := recent.traced _ served
  refine ⟨time, answered, past, fun cacheless => fresh ?_, bound⟩
  rw [start, cacheless]
  rfl

/-- What the source answers throughout such a span of time before, a reader is served. -/
theorem served_of_lasting {source : σ} {hasCache : Bool} {now : Nat} {ops : List (CacheStep ω χ)}
    (soon : EveryStep (apply use) (FillsWithin delay) (start source hasCache now) ops)
    {value : β} {seen : Nat}
    (served : .got value seen ∈ (runAll (apply use) (start source hasCache now) ops).readers)
    {property : β → Prop}
    (lasting : ∀ before after, ops = before ++ after →
      (runAll (apply use) (start source hasCache now) before).now ≤ seen →
      seen ≤ (runAll (apply use) (start source hasCache now) before).now + use.lifetime + delay →
      ∀ choice, property
        (use.query choice (runAll (apply use) (start source hasCache now) before).source)) :
    property value := by
  obtain ⟨time, ⟨before, after, split, rfl, choice, rfl⟩, past, -, bound⟩ :=
    served_recent soon served
  exact lasting before after split past bound choice

/-- A reader that asks, waits before a change and fills the cache after it, and a reader that then
looks the value up. -/
def lateFill (op : ω) (choice : χ) (age : Nat) : List (CacheStep ω χ) :=
  [.read, .advance 0 (some choice), .advance 0 (some choice), .change op, .wait age,
    .advance 0 (some choice), .read, .advance 1 (some choice)]

/-- Readers that take their time serve an answer that the source has not given for as long as one
likes. -/
theorem served_lateFill (lives : 0 < use.lifetime) {source : σ} {now : Nat} {op : ω} {choice : χ}
    (gone : ∀ other, use.query other (use.change source now op) ≠ use.query choice source)
    (age : Nat) :
    .got (use.query choice source) (now + age) ∈
        (runAll (apply use) (start source true now) (lateFill op choice age)).readers ∧
      ∀ time, AnsweredAt use (start source true now) (lateFill op choice age)
        (use.query choice source) time → time + age ≤ now + age := by
  constructor
  · simp [lateFill, apply, start, next, fill, cached, ExpiringKey.get_lapsing, lives]
  · intro time answered
    simp only [lateFill, answeredAt_cons_iff, answeredAt_nil_iff] at answered
    simp [apply, start, next, fill, cached, gone] at answered
    omega

end CacheAside

end CyxCloud.Library
