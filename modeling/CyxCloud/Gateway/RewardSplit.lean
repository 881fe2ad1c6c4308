import CyxCloud.Gateway.PaymentDaemon
import CyxCloud.Library.Shares

/-!
# The split of the reward pool

The daemon of `cyxcloud-gateway/src/payment_daemon.rs` adds the weights of the nodes in 64 bits, and
`calculate_share` divides by that total.  While the weights fit, the shares stay within the pool and
leave less of it than there are nodes; when their sum wraps, every share is too large.  The function
of `cyxcloud-gateway/src/blockchain/payment_pool.rs` computes the same share.
-/

namespace CyxCloud.Gateway

open CyxCloud.Core hiding Chunk
open Library

/-- Calculate a node's share of the rewards of an epoch, in 64 bits. -/
def PaymentPoolOps.calculateNodeShare (totalNodesShare nodeWeight totalWeight : Nat) : Nat :=
  if totalWeight = 0 then 0 else totalNodesShare * nodeWeight / totalWeight % 2 ^ 64

/-- The exact sum of the weights. -/
def exactWeight (weights : List NodeWeight) : Nat := (weights.map NodeWeight.weight).sum

/-! ## One share -/

section Share

variable {weight : NodeWeight} {totalNodesShare totalWeight : Nat}

theorem calculateShare_eq (weight : NodeWeight) (totalNodesShare totalWeight : Nat) :
    weight.calculateShare totalNodesShare totalWeight =
      share totalNodesShare totalWeight weight.weight % 2 ^ 64 := by
  unfold NodeWeight.calculateShare share
  split
  · rename_i no_weight
    rw [no_weight, Nat.div_zero]
    rfl
  · rfl

/-- A share is computed exactly if it fits 64 bits. -/
theorem calculateShare_of_fits
    (fits : share totalNodesShare totalWeight weight.weight < 2 ^ 64) :
    weight.calculateShare totalNodesShare totalWeight =
      share totalNodesShare totalWeight weight.weight := by
  rw [calculateShare_eq, Nat.mod_eq_of_lt fits]

end Share

/-! ## The shares of a list -/

section Shares

variable {weights : List NodeWeight} {nodesShare totalWeight : Nat}

/-- No share is cut if the exact shares are within a pool of 64 bits. -/
theorem calculateShare_of_within (fits : nodesShare < 2 ^ 64)
    (within : sumShares nodesShare totalWeight (weights.map NodeWeight.weight) ≤ nodesShare)
    {weight : NodeWeight} (member : weight ∈ weights) :
    weight.calculateShare nodesShare totalWeight =
      share nodesShare totalWeight weight.weight := by
  refine calculateShare_of_fits (lt_of_le_of_lt ?_ fits)
  exact (share_le_sumShares (List.mem_map_of_mem member)).trans within

/-- Shares that are not cut add up to the exact ones. -/
theorem sum_calculateShare
    (uncut : ∀ weight ∈ weights, weight.calculateShare nodesShare totalWeight =
      share nodesShare totalWeight weight.weight) :
    (weights.map fun weight => weight.calculateShare nodesShare totalWeight).sum =
      sumShares nodesShare totalWeight (weights.map NodeWeight.weight) := by
  rw [sumShares, List.map_map]
  exact congrArg List.sum (List.map_congr_left uncut)

/-- The order of the nodes does not change the sum of their weights. -/
theorem exactWeight_of_perm {reordered : List NodeWeight} (same : reordered.Perm weights) :
    exactWeight reordered = exactWeight weights :=
  (same.map NodeWeight.weight).sum_eq

end Shares

/-! ## The rewards of an epoch -/

namespace PaymentDaemon

/-- What the sum of the weights has lost in 64 bits. -/
def Payments.lostWeight (payments : Payments) : Nat :=
  exactWeight payments.weights - payments.totalWeight

/-- What rounding leaves of the shares, in parts of the total weight. -/
def Payments.remainders (payments : Payments) : Nat :=
  sumRemainders payments.nodesShare payments.totalWeight
    (payments.weights.map NodeWeight.weight)

/-- The rewards together are at most the share of the nodes, and no reward is cut to 64 bits. -/
def Payments.WithinPool (payments : Payments) : Prop :=
  (payments.weights.map payments.reward).sum ≤ payments.nodesShare ∧
    ∀ weight ∈ payments.weights, payments.reward weight =
      payments.nodesShare * weight.weight / payments.totalWeight

section Rewards

variable {payments : Payments}

theorem totalWeight_add_lostWeight :
    payments.totalWeight + payments.lostWeight = exactWeight payments.weights :=
  Nat.add_sub_cancel' (Nat.mod_le _ _)

/-- The rewards are within the pool exactly if the exact shares are. -/
theorem withinPool_iff_sumShares (fits : payments.nodesShare < 2 ^ 64) :
    payments.WithinPool ↔
      sumShares payments.nodesShare payments.totalWeight
        (payments.weights.map NodeWeight.weight) ≤ payments.nodesShare := by
  constructor
  · rintro ⟨within, uncut⟩
    rw [← sum_calculateShare uncut]
    exact within
  · intro within
    have uncut : ∀ weight ∈ payments.weights, payments.reward weight =
        share payments.nodesShare payments.totalWeight weight.weight :=
      fun weight member => calculateShare_of_within fits within member
    exact ⟨(sum_calculateShare uncut).trans_le within, uncut⟩

/-- The rewards are within the pool exactly if nothing weighs or the remainders make up for the lost
weight. -/
theorem withinPool_iff (fits : payments.nodesShare < 2 ^ 64) :
    payments.WithinPool ↔ payments.totalWeight = 0 ∨
      payments.nodesShare * payments.lostWeight ≤ payments.remainders := by
  rw [withinPool_iff_sumShares fits]
  rcases Nat.eq_zero_or_pos payments.totalWeight with no_weight | positive
  · rw [no_weight, sumShares_of_no_total]
    exact iff_of_true (Nat.zero_le _) (Or.inl rfl)
  · have whole : (payments.weights.map NodeWeight.weight).sum =
        payments.totalWeight + payments.lostWeight := totalWeight_add_lostWeight.symm
    rw [sumShares_le_iff positive, whole, Nat.mul_add, Nat.add_le_add_iff_left]
    exact (or_iff_right positive.ne').symm

/-- The rewards are within the pool whatever it holds exactly if the weights fit 64 bits or wrap to
nothing. -/
theorem forall_withinPool_iff (weights : List NodeWeight) :
    (∀ payments : Payments, payments.weights = weights → payments.nodesShare < 2 ^ 64 →
        payments.WithinPool) ↔
      exactWeight weights < 2 ^ 64 ∨ 2 ^ 64 ∣ exactWeight weights := by
  constructor
  · intro within
    -- A pool of as much as the total weight gives every node its weight.
    have whole := within
      { weights := weights
        totalPoolAmount := 0
        nodesShare := exactWeight weights % 2 ^ 64 } rfl (Nat.mod_lt _ (Nat.two_pow_pos 64))
    rw [withinPool_iff_sumShares (Nat.mod_lt _ (Nat.two_pow_pos 64))] at whole
    rcases Nat.eq_zero_or_pos (exactWeight weights % 2 ^ 64) with wrapped | positive
    · exact Or.inr (Nat.dvd_of_mod_eq_zero wrapped)
    · have shares : sumShares (exactWeight weights % 2 ^ 64) (exactWeight weights % 2 ^ 64)
          (weights.map NodeWeight.weight) = exactWeight weights :=
        sumShares_self positive
      have kept : exactWeight weights ≤ exactWeight weights % 2 ^ 64 := shares.symm.trans_le whole
      exact Or.inl (kept.trans_lt (Nat.mod_lt _ (Nat.two_pow_pos 64)))
  · rintro condition payments rfl fits
    rw [withinPool_iff fits]
    rcases condition with unwrapped | wrapped
    · have nothing_lost : payments.lostWeight = 0 := by
        have total : payments.totalWeight = exactWeight payments.weights :=
          Nat.mod_eq_of_lt unwrapped
        rw [Payments.lostWeight, total, Nat.sub_self]
      rw [nothing_lost]
      exact Or.inr (Nat.zero_le _)
    · exact Or.inl (Nat.mod_eq_zero_of_dvd wrapped)

/-- When the rewards of an epoch are within its pool, and which nodes share every pool properly. -/
theorem rewards_within_pool_iff (weights : List NodeWeight) :
    (∀ payments : Payments, payments.weights = weights → payments.nodesShare < 2 ^ 64 →
      (payments.WithinPool ↔ payments.totalWeight = 0 ∨
        payments.nodesShare * payments.lostWeight ≤ payments.remainders)) ∧
    ((∀ payments : Payments, payments.weights = weights → payments.nodesShare < 2 ^ 64 →
        payments.WithinPool) ↔
      exactWeight weights < 2 ^ 64 ∨ 2 ^ 64 ∣ exactWeight weights) :=
  ⟨fun _ _ fits => withinPool_iff fits, forall_withinPool_iff weights⟩

end Rewards

namespace FullNodes

/-- A node with a weight. -/
def node (nodeId weight : Nat) : NodeWeight :=
  { nodeId
    peerId := "full"
    walletAddress := none
    weight }

/-- Two nodes that report as much storage as the field takes, and a third one. -/
def epoch (weight : Nat) : Payments :=
  { weights := [node 1 (2 ^ 63), node 2 (2 ^ 63), node 3 weight]
    totalPoolAmount := 1000000000
    nodesShare := 850000000 }

/-- With a third node that is as large each gets the whole share of the nodes; with one of a single
byte the shares of the large ones are cut to nothing. -/
theorem rewards_beyond_pool :
    ((epoch (2 ^ 63)).weights.map (epoch (2 ^ 63)).reward).sum = 3 * 850000000 ∧
      ¬ (epoch (2 ^ 63)).WithinPool ∧
      (epoch 1).weights.map (epoch 1).reward = [0, 0, 850000000] ∧
      ¬ (epoch 1).WithinPool := by
  have whole : (epoch (2 ^ 63)).weights.map (epoch (2 ^ 63)).reward =
      [850000000, 850000000, 850000000] := by decide
  have cut : (epoch 1).weights.map (epoch 1).reward = [0, 0, 850000000] := by decide
  refine ⟨by rw [whole]; rfl, ?_, cut, ?_⟩
  · rintro ⟨within, -⟩
    rw [whole] at within
    exact absurd within (by decide)
  · rintro ⟨-, uncut⟩
    have own := uncut (node 1 (2 ^ 63)) (by decide)
    exact absurd own (by decide)

end FullNodes

end PaymentDaemon

/-! ## Weights that fit -/

section Fair

variable {weights : List NodeWeight} {nodesShare : Nat}

/-- No share of weights that make up the total is cut. -/
theorem calculateShare_of_exactWeight (positive : 0 < exactWeight weights)
    (fits : nodesShare < 2 ^ 64) {weight : NodeWeight} (member : weight ∈ weights) :
    weight.calculateShare nodesShare (exactWeight weights) =
      share nodesShare (exactWeight weights) weight.weight :=
  calculateShare_of_within fits (sumShares_le positive (Nat.le_refl _)) member

/-- Shares that use up the pool but for less than there are nodes, and that follow the weights. -/
structure FairSplit (weights : List NodeWeight) (nodesShare : Nat) (shareOf : NodeWeight → Nat) :
    Prop where
  nearly_all : nodesShare < (weights.map shareOf).sum + weights.length
  within : (weights.map shareOf).sum ≤ nodesShare
  larger : ∀ weight ∈ weights, ∀ other ∈ weights,
    weight.weight < other.weight → shareOf weight ≤ shareOf other
  equal : ∀ weight ∈ weights, ∀ other ∈ weights,
    weight.weight = other.weight → shareOf weight = shareOf other

theorem fairSplit_calculateShare (positive : 0 < exactWeight weights)
    (fits : nodesShare < 2 ^ 64) :
    FairSplit weights nodesShare fun weight =>
      weight.calculateShare nodesShare (exactWeight weights) := by
  have uncut : ∀ weight ∈ weights, weight.calculateShare nodesShare (exactWeight weights) =
      share nodesShare (exactWeight weights) weight.weight :=
    fun weight member => calculateShare_of_exactWeight positive fits member
  refine { nearly_all := ?_, within := ?_, larger := ?_, equal := ?_ }
  · rw [sum_calculateShare uncut, ← List.length_map NodeWeight.weight]
    exact lt_sumShares_add_length positive
  · rw [sum_calculateShare uncut]
    exact sumShares_le positive (Nat.le_refl _)
  · intro weight member other other_member lighter
    rw [uncut weight member, uncut other other_member]
    exact share_le_share lighter.le
  · intro weight member other other_member same
    rw [uncut weight member, uncut other other_member, same]

/-- The shares of nodes whose weights fit 64 bits are fair, the order of the nodes does not change
them, they are the rewards of the daemon, and the payment pool computes the same. -/
theorem reward_split_fair (weights : List NodeWeight) (nodesShare : Nat)
    (positive : 0 < exactWeight weights) (total_fits : exactWeight weights < 2 ^ 64)
    (fits : nodesShare < 2 ^ 64) :
    (FairSplit weights nodesShare fun weight =>
        weight.calculateShare nodesShare (exactWeight weights)) ∧
      (∀ reordered : List NodeWeight, reordered.Perm weights →
        (∀ weight : NodeWeight, weight.calculateShare nodesShare (exactWeight reordered) =
          weight.calculateShare nodesShare (exactWeight weights)) ∧
        (reordered.map fun weight =>
          weight.calculateShare nodesShare (exactWeight reordered)).Perm
            (weights.map fun weight =>
              weight.calculateShare nodesShare (exactWeight weights))) ∧
      (∀ totalPoolAmount : Nat, ∀ weight : NodeWeight,
        PaymentDaemon.Payments.reward { weights, totalPoolAmount, nodesShare } weight =
          weight.calculateShare nodesShare (exactWeight weights)) ∧
      ∀ (weight : NodeWeight) (totalNodesShare totalWeight : Nat),
        weight.calculateShare totalNodesShare totalWeight =
          PaymentPoolOps.calculateNodeShare totalNodesShare weight.weight totalWeight := by
  refine ⟨fairSplit_calculateShare positive fits, ?_, ?_, fun _ _ _ => rfl⟩
  · intro reordered same
    rw [exactWeight_of_perm same]
    exact ⟨fun _ => rfl, same.map _⟩
  · intro totalPoolAmount weight
    have total : (exactWeight weights) % 2 ^ 64 = exactWeight weights := Nat.mod_eq_of_lt total_fits
    exact congrArg (weight.calculateShare nodesShare) total

/-- Two nodes split a pool of ten in a ratio of two to one, and one is left. -/
theorem reward_split_two_nodes :
    ([PaymentDaemon.FullNodes.node 1 2, PaymentDaemon.FullNodes.node 2 1].map fun weight =>
        weight.calculateShare 10 3) = [6, 3] ∧
      FairSplit [PaymentDaemon.FullNodes.node 1 2, PaymentDaemon.FullNodes.node 2 1] 10
        fun weight => weight.calculateShare 10 3 :=
  ⟨by decide,
    (reward_split_fair [PaymentDaemon.FullNodes.node 1 2, PaymentDaemon.FullNodes.node 2 1] 10
      (by decide) (by decide) (by decide)).1⟩

end Fair

end CyxCloud.Gateway
