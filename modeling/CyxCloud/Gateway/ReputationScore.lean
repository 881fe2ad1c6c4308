import CyxCloud.Gateway.NodeRegistry
import CyxCloud.Library.Words

/-!
# The reputation score

`calculate_reputation_score` of `cyxcloud-gateway/src/blockchain/node_registry.rs`, in a build that
checks for overflow.  The counters of 32 bits are cast to 16 bits before they are capped, so that a
larger counter may cost fewer points.
-/

namespace CyxCloud.Gateway

open Library

namespace NodeRegistryOps

/-- The points that events cost, counted in 16 bits and up to a cap. -/
def penalty (events cap points : Nat) : Option Nat :=
  checked 16 (min (narrowed 16 events) cap * points)

/-- Calculate the reputation score of a node, unless it overflows. -/
def calculateReputationScore (reputation : StorageReputation) : Option Nat :=
  let total := reputation.totalProofs.toNat
  if total = 0 then some 5000 -- Starting score
  else do
    let successRate ←
      if 0 < total then do
        let proven ← checkedSub total reputation.failedProofs.toNat
        let scaled ← checked 64 (proven * 6000)
        some (narrowed 16 (scaled / total))
      else some 3000
    let retrievalBonus ← checked 16 (reputation.retrievalSuccessRate.toNat * 20)
    let dataLossPenalty ← penalty reputation.dataLossEvents.toNat 20 100
    let slashPenalty ← penalty reputation.slashes.toNat 10 200
    let score := saturated 16 (successRate + retrievalBonus) - dataLossPenalty - slashPenalty
    some (min score 10000)

end NodeRegistryOps

open NodeRegistryOps

namespace StorageReputation

/-- No more proofs failed than there were, and the scaled number of the others fits 64 bits. -/
def ProofsFit (reputation : StorageReputation) : Prop :=
  reputation.failedProofs.toNat ≤ reputation.totalProofs.toNat ∧
    (reputation.totalProofs.toNat - reputation.failedProofs.toNat) * 6000 < 2 ^ 64

/-- Points for proofs and retrievals. -/
def points (reputation : StorageReputation) : Nat :=
  (reputation.totalProofs.toNat - reputation.failedProofs.toNat) * 6000 /
    reputation.totalProofs.toNat + reputation.retrievalSuccessRate.toNat * 20

end StorageReputation

/-- What events cost. -/
def penaltyPoints (events cap points : Nat) : Nat := min (narrowed 16 events) cap * points

/-- The score of points after all penalties. -/
def scoreOf (points penalties : Nat) : Nat := min (points - penalties) 10000

/-- No larger counter of 32 bits costs so much less than these events that it shows in the score:
the cast of the counter starts no new block, there is no penalty, the other penalty takes all
points, or they exceed both penalties by the highest score. -/
def Steady (events : UInt32) (penalty other points : Nat) : Prop :=
  2 ^ 32 - 2 ^ 16 ≤ events.toNat ∨ penalty = 0 ∨ points ≤ other ∨
    10000 + penalty + other ≤ points

/-- The score of one reputation, if both are computed, is not above that of another. -/
def NotAbove (reputation other : StorageReputation) : Prop :=
  ∀ score otherScore, calculateReputationScore reputation = some score →
    calculateReputationScore other = some otherScore → score ≤ otherScore

/-- The score is computed, at most 10000, and follows each field of the reputation. -/
structure ScoreLaws (reputation : StorageReputation) : Prop where
  computed : ∃ score, calculateReputationScore reputation = some score
  bounded : ∀ score, calculateReputationScore reputation = some score → score ≤ 10000
  failedProofs : reputation.totalProofs.toNat ≠ 0 → ∀ more, reputation.failedProofs ≤ more →
    NotAbove { reputation with failedProofs := more } reputation
  dataLossEvents : reputation.totalProofs.toNat ≠ 0 → ∀ more, reputation.dataLossEvents ≤ more →
    NotAbove { reputation with dataLossEvents := more } reputation
  slashes : reputation.totalProofs.toNat ≠ 0 → ∀ more, reputation.slashes ≤ more →
    NotAbove { reputation with slashes := more } reputation
  retrievalSuccessRate : ∀ more, reputation.retrievalSuccessRate ≤ more →
    NotAbove reputation { reputation with retrievalSuccessRate := more }

/-! ## The score in closed form -/

section Score

variable {reputation : StorageReputation}

theorem penalty_eq {events cap points : Nat} (fits : cap * points < 2 ^ 16) :
    penalty events cap points = some (penaltyPoints events cap points) :=
  checked_of_lt (lt_of_le_of_lt (Nat.mul_le_mul_right points (Nat.min_le_right _ _)) fits)

theorem score_of_no_proofs (none_made : reputation.totalProofs.toNat = 0) :
    calculateReputationScore reputation = some 5000 :=
  if_pos none_made

/-- At most 6000 points are for proofs. -/
theorem proofPoints_le (total failed : Nat) : (total - failed) * 6000 / total ≤ 6000 := by
  refine Nat.div_le_of_le_mul ?_
  exact Nat.mul_le_mul_right 6000 (Nat.sub_le total failed)

theorem score_of_proofsFit (some_made : reputation.totalProofs.toNat ≠ 0)
    (fit : reputation.ProofsFit) :
    calculateReputationScore reputation = some (scoreOf reputation.points
      (penaltyPoints reputation.dataLossEvents.toNat 20 100 +
        penaltyPoints reputation.slashes.toNat 10 200)) := by
  obtain ⟨proven, scaled⟩ := fit
  have success := proofPoints_le reputation.totalProofs.toNat reputation.failedProofs.toNat
  have rate : reputation.retrievalSuccessRate.toNat < 2 ^ 8 :=
    reputation.retrievalSuccessRate.toNat_lt
  have bonus : reputation.retrievalSuccessRate.toNat * 20 < 2 ^ 16 := by omega
  have narrow : (reputation.totalProofs.toNat - reputation.failedProofs.toNat) * 6000 /
      reputation.totalProofs.toNat < 2 ^ 16 := by omega
  have unsaturated : reputation.points < 2 ^ 16 := by
    unfold StorageReputation.points
    omega
  simp only [calculateReputationScore, if_neg some_made, if_pos (Nat.pos_of_ne_zero some_made),
    checkedSub_of_le proven, checked_of_lt scaled, checked_of_lt bonus, narrowed_of_lt narrow,
    penalty_eq (show 20 * 100 < 2 ^ 16 by decide), penalty_eq (show 10 * 200 < 2 ^ 16 by decide),
    Option.bind_eq_bind, Option.bind_some]
  rw [show _ + reputation.retrievalSuccessRate.toNat * 20 = reputation.points from rfl,
    saturated_of_lt unsaturated, Nat.sub_sub, scoreOf]

/-- Otherwise the computation overflows. -/
theorem score_eq_none (some_made : reputation.totalProofs.toNat ≠ 0)
    (overflow : ¬ reputation.ProofsFit) : calculateReputationScore reputation = none := by
  simp only [calculateReputationScore, if_neg some_made, if_pos (Nat.pos_of_ne_zero some_made)]
  rcases Nat.lt_or_ge reputation.totalProofs.toNat reputation.failedProofs.toNat with
    negative | proven
  · rw [checkedSub_eq_none_iff.mpr negative]
    rfl
  · have large : 2 ^ 64 ≤
        (reputation.totalProofs.toNat - reputation.failedProofs.toNat) * 6000 :=
      Nat.le_of_not_lt fun fits => overflow ⟨proven, fits⟩
    rw [checkedSub_of_le proven]
    simp only [Option.bind_eq_bind, Option.bind_some, checked_eq_none_iff.mpr large,
      Option.bind_none]

/-- The score is computed exactly if there are no proofs or they fit. -/
theorem score_computed_iff : (∃ score, calculateReputationScore reputation = some score) ↔
    reputation.totalProofs.toNat = 0 ∨ reputation.ProofsFit := by
  rcases Nat.eq_zero_or_pos reputation.totalProofs.toNat with none_made | some_made
  · exact iff_of_true ⟨5000, score_of_no_proofs none_made⟩ (Or.inl none_made)
  · rw [or_iff_right some_made.ne']
    constructor
    · rintro ⟨score, computed⟩
      by_contra overflow
      rw [score_eq_none some_made.ne' overflow] at computed
      cases computed
    · intro fit
      exact ⟨_, score_of_proofsFit some_made.ne' fit⟩

/-- Whatever is computed is at most 10000. -/
theorem score_le {score : Nat} (computed : calculateReputationScore reputation = some score) :
    score ≤ 10000 := by
  rcases Nat.eq_zero_or_pos reputation.totalProofs.toNat with none_made | some_made
  · rw [score_of_no_proofs none_made] at computed
    cases computed
    decide
  · have fit : reputation.ProofsFit :=
      (score_computed_iff.mp ⟨score, computed⟩).resolve_left some_made.ne'
    rw [score_of_proofsFit some_made.ne' fit] at computed
    cases computed
    exact Nat.min_le_right _ _

end Score

/-! ## Larger counters -/

section Counters

variable {points penalties cap each other : Nat}

theorem scoreOf_le_scoreOf {lessPoints morePenalties : Nat} (fewer : lessPoints ≤ points)
    (dearer : penalties ≤ morePenalties) :
    scoreOf lessPoints morePenalties ≤ scoreOf points penalties := by
  unfold scoreOf
  refine min_le_min_right 10000 ?_
  exact (Nat.sub_le_sub_right fewer _).trans (Nat.sub_le_sub_left dearer _)

/-- In the last block of the counter more events do not cost less. -/
theorem penaltyPoints_le {events more : UInt32} (last : 2 ^ 32 - 2 ^ 16 ≤ events.toNat)
    (ordered : events ≤ more) :
    penaltyPoints events.toNat cap each ≤ penaltyPoints more.toNat cap each := by
  have narrowed_le : narrowed 16 events.toNat ≤ narrowed 16 more.toNat :=
    narrowed_le_narrowed (by decide) last ordered more.toNat_lt
  exact Nat.mul_le_mul_right each (min_le_min_right cap narrowed_le)

/-- No larger counter scores more exactly if the counter is steady. -/
theorem forall_scoreOf_le_iff (events : UInt32) :
    (∀ more : UInt32, events ≤ more →
        scoreOf points (penaltyPoints more.toNat cap each + other) ≤
          scoreOf points (penaltyPoints events.toNat cap each + other)) ↔
      Steady events (penaltyPoints events.toNat cap each) other points := by
  constructor
  · intro law
    rcases Nat.lt_or_ge events.toNat (2 ^ 32 - 2 ^ 16) with early | last
    · -- The start of the last block costs nothing.
      have start : narrowed 16 (4294901760 : UInt32).toNat = 0 :=
        @narrowed_last_block 16 32 (by decide)
      have nothing : penaltyPoints (4294901760 : UInt32).toNat cap each = 0 := by
        rw [penaltyPoints, start, Nat.zero_min, Nat.zero_mul]
      have compared := law 4294901760 (Nat.le_of_lt early)
      rw [nothing] at compared
      unfold scoreOf at compared
      refine Or.inr ?_
      omega
    · exact Or.inl last
  · intro steady more ordered
    rcases steady with last | free | taken | ample
    · exact scoreOf_le_scoreOf (Nat.le_refl _)
        (Nat.add_le_add_right (penaltyPoints_le last ordered) other)
    · rw [free]
      exact scoreOf_le_scoreOf (Nat.le_refl _) (Nat.add_le_add_right (Nat.zero_le _) other)
    · have nothing : scoreOf points (penaltyPoints more.toNat cap each + other) = 0 := by
        rw [scoreOf, Nat.sub_eq_zero_of_le (taken.trans (Nat.le_add_left _ _)), Nat.zero_min]
      rw [nothing]
      exact Nat.zero_le _
    · have whole : scoreOf points (penaltyPoints events.toNat cap each + other) = 10000 :=
        min_eq_right (by omega)
      rw [whole]
      exact Nat.min_le_right _ _

end Counters

/-! ## The laws -/

section Laws

variable {reputation : StorageReputation}

theorem notAbove_iff (raised reputation : StorageReputation)
    (some_made : reputation.totalProofs.toNat ≠ 0)
    (fit : reputation.ProofsFit) (some_raised : raised.totalProofs.toNat ≠ 0)
    (fit_raised : raised.ProofsFit) :
    NotAbove raised reputation ↔
      scoreOf raised.points (penaltyPoints raised.dataLossEvents.toNat 20 100 +
          penaltyPoints raised.slashes.toNat 10 200) ≤
        scoreOf reputation.points (penaltyPoints reputation.dataLossEvents.toNat 20 100 +
          penaltyPoints reputation.slashes.toNat 10 200) := by
  unfold NotAbove
  rw [score_of_proofsFit some_made fit, score_of_proofsFit some_raised fit_raised]
  simp

/-- More failed proofs never score more. -/
theorem failedProofs_notAbove (some_made : reputation.totalProofs.toNat ≠ 0) {more : UInt64}
    (ordered : reputation.failedProofs ≤ more) :
    NotAbove { reputation with failedProofs := more } reputation := by
  intro score otherScore computed other_computed
  have more_fit := (score_computed_iff.mp ⟨score, computed⟩).resolve_left some_made
  have fit := (score_computed_iff.mp ⟨otherScore, other_computed⟩).resolve_left some_made
  have fewer : StorageReputation.points { reputation with failedProofs := more } ≤
      reputation.points := by
    refine Nat.add_le_add_right (Nat.div_le_div_right (Nat.mul_le_mul_right 6000 ?_)) _
    exact Nat.sub_le_sub_left ordered _
  have not_above := notAbove_iff { reputation with failedProofs := more } reputation
    some_made fit some_made more_fit
  exact not_above.mpr (scoreOf_le_scoreOf fewer (Nat.le_refl _)) score otherScore computed
    other_computed

/-- A higher rate never scores less. -/
theorem retrievalSuccessRate_notAbove {more : UInt8}
    (ordered : reputation.retrievalSuccessRate ≤ more) :
    NotAbove reputation { reputation with retrievalSuccessRate := more } := by
  intro score otherScore computed other_computed
  rcases Nat.eq_zero_or_pos reputation.totalProofs.toNat with none_made | some_made
  · have same := computed.symm.trans (score_of_no_proofs none_made)
    have other_same := other_computed.symm.trans
      (@score_of_no_proofs { reputation with retrievalSuccessRate := more } none_made)
    cases same
    cases other_same
    exact Nat.le_refl _
  · have fit := (score_computed_iff.mp ⟨score, computed⟩).resolve_left some_made.ne'
    have fewer : reputation.points ≤
        StorageReputation.points { reputation with retrievalSuccessRate := more } :=
      Nat.add_le_add_left (Nat.mul_le_mul_right 20 ordered) _
    have not_above := notAbove_iff reputation { reputation with retrievalSuccessRate := more }
      some_made.ne' fit some_made.ne' fit
    exact not_above.mpr (scoreOf_le_scoreOf fewer (Nat.le_refl _)) score otherScore computed
      other_computed

/-- Data loss events follow the law exactly if they are steady. -/
theorem dataLossEvents_notAbove_iff (some_made : reputation.totalProofs.toNat ≠ 0)
    (fit : reputation.ProofsFit) :
    (∀ more, reputation.dataLossEvents ≤ more →
        NotAbove { reputation with dataLossEvents := more } reputation) ↔
      Steady reputation.dataLossEvents (penaltyPoints reputation.dataLossEvents.toNat 20 100)
        (penaltyPoints reputation.slashes.toNat 10 200) reputation.points := by
  rw [← forall_scoreOf_le_iff]
  refine forall₂_congr fun more _ => ?_
  exact notAbove_iff { reputation with dataLossEvents := more } reputation some_made fit
    some_made fit

/-- Slashes follow the law exactly if they are steady. -/
theorem slashes_notAbove_iff (some_made : reputation.totalProofs.toNat ≠ 0)
    (fit : reputation.ProofsFit) :
    (∀ more, reputation.slashes ≤ more →
        NotAbove { reputation with slashes := more } reputation) ↔
      Steady reputation.slashes (penaltyPoints reputation.slashes.toNat 10 200)
        (penaltyPoints reputation.dataLossEvents.toNat 20 100) reputation.points := by
  rw [← forall_scoreOf_le_iff]
  refine forall₂_congr fun more _ => ?_
  rw [Nat.add_comm (penaltyPoints more.toNat 10 200),
    Nat.add_comm (penaltyPoints reputation.slashes.toNat 10 200)]
  exact notAbove_iff { reputation with slashes := more } reputation some_made fit some_made fit

/-- A reputation follows all laws exactly if it has no proofs, or the proofs fit and both counters
are steady. -/
theorem scoreLaws_iff (reputation : StorageReputation) :
    ScoreLaws reputation ↔ reputation.totalProofs.toNat = 0 ∨
      (reputation.ProofsFit ∧
        Steady reputation.dataLossEvents (penaltyPoints reputation.dataLossEvents.toNat 20 100)
          (penaltyPoints reputation.slashes.toNat 10 200) reputation.points ∧
        Steady reputation.slashes (penaltyPoints reputation.slashes.toNat 10 200)
          (penaltyPoints reputation.dataLossEvents.toNat 20 100) reputation.points) := by
  rcases Nat.eq_zero_or_pos reputation.totalProofs.toNat with none_made | some_made
  · refine iff_of_true ?_ (Or.inl none_made)
    exact {
      computed := ⟨5000, score_of_no_proofs none_made⟩
      bounded := fun _ computed => score_le computed
      failedProofs := fun some_made => absurd none_made some_made
      dataLossEvents := fun some_made => absurd none_made some_made
      slashes := fun some_made => absurd none_made some_made
      retrievalSuccessRate := fun _ ordered => retrievalSuccessRate_notAbove ordered }
  · have made := some_made.ne'
    rw [or_iff_right made]
    constructor
    · intro laws
      have fit := (score_computed_iff.mp laws.computed).resolve_left made
      exact ⟨fit, (dataLossEvents_notAbove_iff made fit).mp (laws.dataLossEvents made),
        (slashes_notAbove_iff made fit).mp (laws.slashes made)⟩
    · rintro ⟨fit, losses, slashes⟩
      exact {
        computed := score_computed_iff.mpr (Or.inr fit)
        bounded := fun _ computed => score_le computed
        failedProofs := fun made _ ordered => failedProofs_notAbove made ordered
        dataLossEvents := fun made => (dataLossEvents_notAbove_iff made fit).mpr losses
        slashes := fun made => (slashes_notAbove_iff made fit).mpr slashes
        retrievalSuccessRate := fun _ ordered => retrievalSuccessRate_notAbove ordered }

/-- A node with one proof. -/
def oneProof (failedProofs : UInt64) (dataLossEvents slashes : UInt32) : StorageReputation :=
  { totalProofs := 1
    failedProofs
    dataLossEvents
    retrievalSuccessRate := 100
    slashes
    reputationScore := 0 }

/-- With 65536 data loss events or slashes a node scores more than with one, and a second failed
proof of one underflows. -/
theorem more_losses_score_more :
    (calculateReputationScore (oneProof 0 1 0) = some 7900 ∧
      calculateReputationScore (oneProof 0 65536 0) = some 8000 ∧
      ¬ ScoreLaws (oneProof 0 1 0)) ∧
    (calculateReputationScore (oneProof 0 0 1) = some 7800 ∧
      calculateReputationScore (oneProof 0 0 65536) = some 8000 ∧
      ¬ ScoreLaws (oneProof 0 0 1)) ∧
    calculateReputationScore (oneProof 2 0 0) = none ∧ ¬ ScoreLaws (oneProof 2 0 0) := by
  refine ⟨⟨by decide, by decide, ?_⟩,
    ⟨by decide, by decide, ?_⟩, by decide, ?_⟩
  · intro laws
    have law := laws.dataLossEvents (by decide) 65536 (by decide) 8000 7900 (by decide)
      (by decide)
    exact absurd law (by decide)
  · intro laws
    have law := laws.slashes (by decide) 65536 (by decide) 8000 7800 (by decide)
      (by decide)
    exact absurd law (by decide)
  · intro laws
    obtain ⟨score, computed⟩ := laws.computed
    exact absurd (computed.symm.trans (show _ = none by decide)) nofun

end Laws

end CyxCloud.Gateway
