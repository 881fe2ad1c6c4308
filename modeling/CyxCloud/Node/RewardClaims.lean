import CyxCloud.Gateway.PoolAccounts
import CyxCloud.Library.Runs
import Mathlib.Data.List.Induction

/-!
# Claiming rewards

The claims of a storage node in `cyxcloud-node/src/blockchain/rewards.rs`.  What the chain answers
in a pass enters as a view: the pool account, the claim account of each epoch, and the outcome of
each transaction.
-/

namespace CyxCloud.Node

open CyxCloud.Core Library Gateway

/-! ## Accounts -/

/-- Get current epoch number from the pool account. -/
def getCurrentEpoch (account : Except String Bytes) : Parsed UInt64 :=
  match account with
  | .error cause => .error (.error cause)
  | .ok data =>
      if data.length < 80 then
        .error (.error "Invalid pool account data")
      else do
        let currentEpoch ← slice data 72 80
        return u64FromLeBytes currentEpoch

/-- Epoch claim information. -/
structure EpochClaimInfo where
  epoch : UInt64
  rewardAmount : UInt64
  claimed : Bool
  deriving DecidableEq, Repr

/-- Parse a claim account, the discriminator included. -/
def parseClaim (data : Bytes) : Parsed EpochClaimInfo := do
  let offset := 8
  let claimEpoch ← slice data offset (offset + 8)
  let offset := offset + 8
  -- the owner is skipped
  let offset := offset + 32
  let nodeIdLength ← slice data offset (offset + 4)
  let offset := offset + (4 + fromLeBytes nodeIdLength)
  let rewardAmount ← slice data offset (offset + 8)
  let offset := offset + 8
  let claimed ← byteAt data offset
  return {
    epoch := u64FromLeBytes claimEpoch
    rewardAmount := u64FromLeBytes rewardAmount
    claimed := claimed != 0 }

/-- Get epoch claim info for a node, if the account can be fetched. -/
def getEpochClaim (account : Option Bytes) : Parsed (Option EpochClaimInfo) :=
  match account with
  | none => .ok none
  | some data =>
      if data.length < 8 then
        .ok none
      else do
        let claim ← parseClaim data
        return some claim

/-- A claim account behind its discriminator. -/
structure ClaimAccount where
  epoch : UInt64
  nodeOwner : Pubkey
  nodeId : { bytes : Bytes // bytes.length < 256 ^ 4 }
  rewardAmount : UInt64
  claimed : UInt8

namespace ClaimAccount

/-- The information about a claim in its account. -/
def info (account : ClaimAccount) : EpochClaimInfo where
  epoch := account.epoch
  rewardAmount := account.rewardAmount
  claimed := account.claimed != 0

/-- The fields in the order of the account. -/
def fields :
    Layout (UInt64 × Pubkey × { bytes : Bytes // bytes.length < 256 ^ 4 } × UInt64 × UInt8) :=
  Layout.u64.seq (Pubkey.layout.seq (Layout.counted.seq (Layout.u64.seq Layout.byte)))

/-- The account. -/
def layout : Layout ClaimAccount :=
  fields.same
    (fun account => (account.epoch, account.nodeOwner, account.nodeId, account.rewardAmount,
      account.claimed))
    (fun (epoch, nodeOwner, nodeId, rewardAmount, claimed) =>
      { epoch, nodeOwner, nodeId, rewardAmount, claimed })
    (fun _ => rfl) (fun _ => rfl)

/-- A claim is read as laid out. -/
theorem parseClaim_write (account : ClaimAccount) {data rest : Bytes}
    (start : StandsAt data 8 (layout.write account ++ rest)) :
    parseClaim data = .ok account.info := by
  replace start : StandsAt data 8 (fields.write (account.epoch, account.nodeOwner, account.nodeId,
    account.rewardAmount, account.claimed) ++ rest) := start
  obtain ⟨epoch, start⟩ := start.both Layout.fixed_u64
  obtain ⟨-, start⟩ := start.both Pubkey.fixed_layout
  obtain ⟨nodeIdLength, start⟩ := start.countedBoth
  obtain ⟨rewardAmount, start⟩ := start.both Layout.fixed_u64
  have claimed := start.byteAt_eq
  simp only [Nat.reduceAdd] at *
  simp only [parseClaim, Nat.reduceAdd, epoch, nodeIdLength, parsed_bind,
    fromLeBytes_toLeBytes account.nodeId.property, rewardAmount, claimed, u64FromLeBytes_write]
  rfl

/-- Where the reward stands in claim data. -/
def rewardOffset (data : Bytes) : Nat := 48 + (4 + fromLeBytes (between data 48 52))

theorem parseClaim_inReach (data : Bytes) :
    parseClaim data = inReach data (rewardOffset data + 9)
      { epoch := u64FromLeBytes (between data 8 16)
        rewardAmount :=
          u64FromLeBytes (between data (rewardOffset data) (rewardOffset data + 8))
        claimed := data.getD (rewardOffset data + 8) 0 != 0 } := by
  have ordered : 52 ≤ rewardOffset data := by
    rw [rewardOffset]
    omega
  rw [parseClaim]
  simp only [Nat.reduceAdd]
  rw [slice_eq (by omega), slice_eq (by omega)]
  refine inReach_bind (by omega) fun _ => inReach_bind (by omega) fun _ => ?_
  simp only [show 48 + (4 + fromLeBytes (between data 48 52)) = rewardOffset data from rfl]
  rw [slice_eq (by omega), byteAt_eq]
  refine inReach_bind (by omega) fun _ => inReach_bind le_rfl fun reaches => ?_
  exact inReach_return reaches _

/-- Data that reach as far as a claim is read are laid out as one. -/
theorem exists_write {data : Bytes} (reaches : rewardOffset data + 9 ≤ data.length) :
    ∃ account rest, layout.write account ++ rest = data.drop 8 := by
  rw [rewardOffset] at reaches
  have front : (Layout.u64.seq (Pubkey.layout.seq (Layout.word 4))).Fixed 44 :=
    Layout.fixed_u64.seq (Pubkey.fixed_layout.seq (Layout.fixed_word 4))
  obtain ⟨⟨epoch, nodeOwner, count⟩, behind, written⟩ :=
    front.exists_write (data.drop 8) (by rw [List.length_drop]; omega)
  have count_eq : fromLeBytes (between data 48 52) = count.val := by
    have start : StandsAt data 8 ((Layout.u64.seq (Pubkey.layout.seq (Layout.word 4))).write
      (epoch, nodeOwner, count) ++ behind) := ⟨by omega, written.symm⟩
    obtain ⟨-, start⟩ := start.both Layout.fixed_u64
    obtain ⟨-, start⟩ := start.both Pubkey.fixed_layout
    have word : between data 48 52 = toLeBytes 4 count.val :=
      between_field start.drop_eq (by rw [length_toLeBytes])
    rw [word, fromLeBytes_toLeBytes count.property]
  have back : ((Layout.bytes count.val).seq (Layout.u64.seq Layout.byte)).Fixed (count.val + 9) :=
    (Layout.fixed_bytes count.val).seq (Layout.fixed_u64.seq Layout.fixed_byte)
  have lengths := congrArg List.length written
  rw [List.length_append, front.length_write, List.length_drop] at lengths
  obtain ⟨⟨nodeId, rewardAmount, claimed⟩, rest, written'⟩ := back.exists_write behind (by omega)
  have number : (⟨nodeId.val.length, nodeId.property.symm ▸ count.property⟩ :
      { value : Nat // value < 256 ^ 4 }) = count := Subtype.ext nodeId.property
  refine ⟨⟨epoch, nodeOwner, ⟨nodeId.val, nodeId.property.symm ▸ count.property⟩, rewardAmount,
    claimed⟩, rest, ?_⟩
  calc
    _ = Layout.u64.write epoch ++ (Pubkey.layout.write nodeOwner ++ ((Layout.word 4).write
          ⟨nodeId.val.length, nodeId.property.symm ▸ count.property⟩ ++ (nodeId.val ++
            (Layout.u64.write rewardAmount ++ Layout.byte.write claimed)))) ++ rest := by
      rw [← List.append_assoc ((Layout.word 4).write _)]
      rfl
    _ = (Layout.u64.seq (Pubkey.layout.seq (Layout.word 4))).write (epoch, nodeOwner, count) ++
          (((Layout.bytes count.val).seq (Layout.u64.seq Layout.byte)).write
            (nodeId, rewardAmount, claimed) ++ rest) := by
      rw [number]
      simp only [Layout.seq, Layout.bytes, List.append_assoc]
    _ = data.drop 8 := by rw [written', written]

/-- Whatever the account holds, the node reads the claim that is laid out in it, and panics if there
is none behind the discriminator. -/
theorem getEpochClaim_eq (account : Option Bytes) :
    getEpochClaim account = readAccount layout 0 "" (fun claim => .ok claim.info) account := by
  cases account with
  | none => rfl
  | some data =>
      simp only [getEpochClaim, readAccount, behindDiscriminator]
      by_cases little : data.length < 8
      · rw [if_pos little, if_pos little]
      · rw [if_neg little, if_neg little, if_neg (Nat.not_lt_zero _)]
        cases found : layout.read (data.drop 8) with
        | some pair =>
            have start : StandsAt data 8 (layout.write pair.1 ++ pair.2) :=
              ⟨Nat.le_of_not_lt little, (layout.write_of_read found).symm⟩
            rw [parseClaim_write pair.1 start]
        | none =>
            have short : ¬rewardOffset data + 9 ≤ data.length := by
              intro reaches
              obtain ⟨account, rest, written⟩ := exists_write reaches
              rw [layout.read_eq_some_iff.mpr written] at found
              cases found
            rw [parseClaim_inReach, inReach, if_neg short]

end ClaimAccount

/-- Where the gateway reads a pool, the node reads the epoch of that pool. -/
theorem getCurrentEpoch_eq {data : Bytes} {pool : PaymentPoolInfo}
    (read : getPool (some data) = .ok (some pool)) :
    getCurrentEpoch (.ok data) = .ok pool.currentEpoch := by
  rw [getPool_eq, readAccount, behindDiscriminator] at read
  split at read
  · cases read
  · rename_i whole
    split at read
    · cases read
    · cases found : poolLayout.read (data.drop 8) with
      | none =>
          rw [found] at read
          cases read
      | some pair =>
          rw [found] at read
          cases read
          have start : StandsAt data 8 (poolFields.write (pair.1.authority, pair.1.tokenMint,
            pair.1.currentEpoch, pair.1.totalDeposits, pair.1.nodePercent,
            pair.1.platformPercent, pair.1.communityPercent, pair.1.epochDurationSeconds,
            pair.1.lastEpochStart) ++ pair.2) :=
            ⟨Nat.le_of_not_lt whole, (poolLayout.write_of_read found).symm⟩
          obtain ⟨-, start⟩ := start.both Pubkey.fixed_layout
          obtain ⟨-, start⟩ := start.both Pubkey.fixed_layout
          obtain ⟨epoch, start⟩ := start.both Layout.fixed_u64
          have enough : ¬data.length < 80 := Nat.not_lt.mpr start.inside
          simp only [Nat.reduceAdd] at epoch
          simp only [getCurrentEpoch]
          rw [if_neg enough, epoch, parsed_bind, u64FromLeBytes_write]
          rfl

/-! ## Passes -/

/-- What the chain answers during a pass over the claims. -/
structure ChainView where
  /-- The data of the pool account. -/
  pool : Except String Bytes
  /-- The data of the claim account of an epoch. -/
  claim : UInt64 → Option Bytes
  /-- The signature that the transaction at some position gets, which claims some epoch. -/
  send : Nat → UInt64 → Except String String

/-- Check if rewards are available for an epoch. -/
def hasClaimableRewards (account : Option Bytes) : Parsed Bool := do
  match ← getEpochClaim account with
  | some claim => return !claim.claimed && decide (claim.rewardAmount > 0)
  | none => return false

/-- The last ten epochs before the current one. -/
def lastEpochs (currentEpoch : UInt64) : List UInt64 :=
  let startEpoch := currentEpoch.toNat - 10
  (List.range' startEpoch (currentEpoch.toNat - startEpoch)).map UInt64.ofNat

/-- The unclaimed rewards of some epochs. -/
def pendingOf (view : ChainView) : List UInt64 → Parsed (List EpochClaimInfo)
  | [] => return []
  | epoch :: epochs => do
      let claim ← getEpochClaim (view.claim epoch)
      let pending ← pendingOf view epochs
      match claim with
      | some claim =>
          if !claim.claimed && decide (claim.rewardAmount > 0) then
            return claim :: pending
          else
            return pending
      | none => return pending

/-- Get pending rewards across multiple epochs. -/
def getPendingRewards (view : ChainView) : Parsed (List EpochClaimInfo) := do
  let currentEpoch ← getCurrentEpoch view.pool
  pendingOf view (lastEpochs currentEpoch)

/-- Claim all pending rewards; the result tells the epoch and the outcome of each transaction. -/
def claimAllRewards (view : ChainView) : Parsed (List (UInt64 × Except String String)) := do
  let pending ← getPendingRewards view
  return pending.mapIdx fun position claim => (claim.epoch, view.send position claim.epoch)

/-- The epochs whose transactions have been confirmed. -/
def confirmedIn (attempts : List (UInt64 × Except String String)) : List UInt64 :=
  (attempts.filter fun attempt => attempt.2.isOk).map Prod.fst

/-- The epochs whose rewards have been paid after another pass. -/
def afterPass (paid : List UInt64) (view : ChainView) : List UInt64 :=
  match claimAllRewards view with
  | .ok attempts => paid ++ confirmedIn attempts
  | .error _ => paid

theorem toNat_ofNat_of_lt {number : Nat} {bound : UInt64} (small : number < bound.toNat) :
    (UInt64.ofNat number).toNat = number :=
  UInt64.toNat_ofNat_of_lt' (small.trans bound.toNat_lt)

theorem mem_lastEpochs {currentEpoch epoch : UInt64} :
    epoch ∈ lastEpochs currentEpoch ↔
      epoch.toNat < currentEpoch.toNat ∧ currentEpoch.toNat ≤ epoch.toNat + 10 := by
  rw [lastEpochs, List.mem_map]
  constructor
  · rintro ⟨number, listed, rfl⟩
    rw [List.mem_range'_1] at listed
    have small : number < currentEpoch.toNat := by omega
    rw [toNat_ofNat_of_lt small]
    omega
  · intro window
    refine ⟨epoch.toNat, ?_, UInt64.ofNat_toNat⟩
    rw [List.mem_range'_1]
    omega

theorem nodup_lastEpochs (currentEpoch : UInt64) : (lastEpochs currentEpoch).Nodup := by
  refine List.Nodup.map_on (fun number listed other listed' same => ?_) List.nodup_range'
  rw [List.mem_range'_1] at listed listed'
  have small : number < currentEpoch.toNat := by omega
  have small' : other < currentEpoch.toNat := by omega
  have numbers := congrArg UInt64.toNat same
  rwa [toNat_ofNat_of_lt small, toNat_ofNat_of_lt small'] at numbers

/-! ## What the chain promises -/

namespace ChainView

/-- Claim accounts that can be fetched are laid out as such for their epoch, and show it when their
reward has been paid. -/
def Follows (paid : List UInt64) (view : ChainView) : Prop :=
  ∀ epoch data, view.claim epoch = some data →
    ∃ discriminator account rest, discriminator.length = 8 ∧
      data = discriminator ++ (ClaimAccount.layout.write account ++ rest) ∧
        account.epoch = epoch ∧ (epoch ∈ paid → account.claimed ≠ 0)

/-- The chain shows an unclaimed reward of an epoch. -/
def Owes (view : ChainView) (epoch : UInt64) : Prop :=
  hasClaimableRewards (view.claim epoch) = .ok true

instance (view : ChainView) : DecidablePred view.Owes :=
  fun epoch => inferInstanceAs (Decidable (hasClaimableRewards (view.claim epoch) = .ok true))

/-- A pass gets the reward of an epoch: it is among the unclaimed ones of the last ten, and its
transaction is confirmed. -/
def Settles (view : ChainView) (epoch : UInt64) : Prop :=
  ∃ currentEpoch position signature, getCurrentEpoch view.pool = .ok currentEpoch ∧
    ((lastEpochs currentEpoch).filter view.Owes)[position]? = some epoch ∧
      view.send position epoch = .ok signature

variable {view : ChainView} {paid : List UInt64}

/-- The claim of an epoch can be read, and is that of the epoch. -/
theorem Follows.getEpochClaim_eq (follows : view.Follows paid) (epoch : UInt64) :
    getEpochClaim (view.claim epoch) = .ok none ∨
      ∃ claim, getEpochClaim (view.claim epoch) = .ok (some claim) ∧ claim.epoch = epoch ∧
        (epoch ∈ paid → claim.claimed = true) := by
  cases fetched : view.claim epoch with
  | none => exact .inl rfl
  | some data =>
      obtain ⟨discriminator, account, rest, length_eq, rfl, epoch_eq, shown⟩ :=
        follows epoch data fetched
      refine .inr ⟨account.info, ?_, epoch_eq, fun member => ?_⟩
      · rw [ClaimAccount.getEpochClaim_eq, readAccount, behindDiscriminator]
        rw [if_neg (by rw [List.length_append, length_eq]; omega), if_neg (Nat.not_lt_zero _),
          ← length_eq, List.drop_left, Layout.read_write]
        rfl
      · exact bne_iff_ne.mpr (shown member)

theorem owes_iff {epoch : UInt64} {claim : EpochClaimInfo}
    (read : getEpochClaim (view.claim epoch) = .ok (some claim)) :
    view.Owes epoch ↔ (!claim.claimed && decide (claim.rewardAmount > 0)) = true := by
  rw [Owes, hasClaimableRewards, read, parsed_bind]
  exact ⟨Except.ok.inj, congrArg Except.ok⟩

/-- The pending rewards are those that the chain shows, in the order of their epochs. -/
theorem Follows.pendingOf_eq (follows : view.Follows paid) (epochs : List UInt64) :
    ∃ pending, pendingOf view epochs = .ok pending ∧
      pending.map EpochClaimInfo.epoch = epochs.filter view.Owes := by
  induction epochs with
  | nil => exact ⟨[], rfl, rfl⟩
  | cons epoch epochs induction =>
      obtain ⟨pending, later, pending_eq⟩ := induction
      rw [pendingOf, later]
      rcases follows.getEpochClaim_eq epoch with read | ⟨claim, read, epoch_eq, -⟩
      · have nothing : ¬view.Owes epoch := by
          rw [Owes, hasClaimableRewards, read]
          decide
        exact ⟨pending, by rw [read]; rfl, by rw [List.filter_cons_of_neg (by simpa using nothing),
          pending_eq]⟩
      · rw [read]
        by_cases owed : (!claim.claimed && decide (claim.rewardAmount > 0)) = true
        · refine ⟨claim :: pending, by simp only [parsed_bind, owed, if_true]; rfl, ?_⟩
          rw [List.filter_cons_of_pos (by simpa using (owes_iff read).mpr owed), List.map_cons,
            pending_eq, epoch_eq]
        · refine ⟨pending, by simp only [parsed_bind, owed]; rfl, ?_⟩
          rw [List.filter_cons_of_neg (by simpa using mt (owes_iff read).mp owed), pending_eq]

/-- No reward is owed that has been paid. -/
theorem Follows.notMem_of_owes (follows : view.Follows paid) {epoch : UInt64}
    (owed : view.Owes epoch) : epoch ∉ paid := by
  intro member
  rcases follows.getEpochClaim_eq epoch with read | ⟨claim, read, -, shown⟩
  · rw [Owes, hasClaimableRewards, read] at owed
    exact absurd owed (by decide)
  · rw [owes_iff read, shown member] at owed
    cases owed

theorem mem_confirmedIn_iff (pending : List EpochClaimInfo) {epoch : UInt64} :
    epoch ∈ confirmedIn (pending.mapIdx fun position claim =>
        (claim.epoch, view.send position claim.epoch)) ↔
      ∃ position signature, (pending.map EpochClaimInfo.epoch)[position]? = some epoch ∧
        view.send position epoch = .ok signature := by
  rw [confirmedIn, List.mem_map]
  constructor
  · rintro ⟨attempt, listed, rfl⟩
    obtain ⟨member, succeeded⟩ := List.mem_filter.mp listed
    obtain ⟨position, bound, rfl⟩ := List.mem_mapIdx.mp member
    cases outcome : view.send position pending[position].epoch with
    | error cause =>
        rw [outcome] at succeeded
        cases succeeded
    | ok signature =>
        refine ⟨position, signature, ?_, outcome⟩
        rw [List.getElem?_map, List.getElem?_eq_getElem bound, Option.map_some]
  · rintro ⟨position, signature, found, outcome⟩
    rw [List.getElem?_map, Option.map_eq_some_iff] at found
    obtain ⟨claim, stored, rfl⟩ := found
    obtain ⟨bound, here⟩ := List.getElem?_eq_some_iff.mp stored
    refine ⟨(claim.epoch, view.send position claim.epoch), List.mem_filter.mpr ⟨?_, ?_⟩, rfl⟩
    · exact List.mem_mapIdx.mpr ⟨position, bound, by rw [here]⟩
    · rw [outcome]
      rfl

/-- A pass pays the rewards it settles, each once and none that has been paid. -/
theorem Follows.afterPass_eq (follows : view.Follows paid) :
    ∃ gained, afterPass paid view = paid ++ gained ∧ gained.Nodup ∧
      (∀ epoch ∈ gained, epoch ∉ paid) ∧ ∀ epoch, epoch ∈ gained ↔ view.Settles epoch := by
  cases current : getCurrentEpoch view.pool with
  | error cause =>
      refine ⟨[], ?_, List.nodup_nil, fun _ member => absurd member List.not_mem_nil,
        fun epoch => ⟨fun member => absurd member List.not_mem_nil, ?_⟩⟩
      · rw [afterPass, claimAllRewards, getPendingRewards, current]
        exact (List.append_nil paid).symm
      · rintro ⟨currentEpoch, position, signature, read, -⟩
        rw [current] at read
        cases read
  | ok currentEpoch =>
      obtain ⟨pending, read, pending_eq⟩ := follows.pendingOf_eq (lastEpochs currentEpoch)
      have attempts : claimAllRewards view = .ok (pending.mapIdx fun position claim =>
          (claim.epoch, view.send position claim.epoch)) := by
        rw [claimAllRewards, getPendingRewards, current, parsed_bind, read]
        rfl
      have settled (epoch : UInt64) : epoch ∈ confirmedIn (pending.mapIdx fun position claim =>
          (claim.epoch, view.send position claim.epoch)) ↔ view.Settles epoch := by
        rw [mem_confirmedIn_iff, pending_eq]
        constructor
        · rintro ⟨position, signature, listed, sent⟩
          exact ⟨currentEpoch, position, signature, current, listed, sent⟩
        · rintro ⟨currentEpoch', position, signature, current', listed, sent⟩
          cases current.symm.trans current'
          exact ⟨position, signature, listed, sent⟩
      refine ⟨_, by rw [afterPass, attempts], ?_, fun epoch member => ?_, settled⟩
      · have epochs : (pending.mapIdx fun position claim =>
            (claim.epoch, view.send position claim.epoch)).map Prod.fst =
              (lastEpochs currentEpoch).filter view.Owes := by
          rw [← pending_eq]
          refine List.ext_getElem? fun position => ?_
          rw [List.getElem?_map, List.getElem?_mapIdx, List.getElem?_map, Option.map_map]
          rfl
        have distinct := (nodup_lastEpochs currentEpoch).filter view.Owes
        rw [← epochs] at distinct
        exact distinct.sublist (List.filter_sublist.map Prod.fst)
      · obtain ⟨_, _, _, _, listed, _⟩ := (settled epoch).mp member
        have owed := (List.mem_filter.mp (List.mem_of_getElem? listed)).2
        exact follows.notMem_of_owes (of_decide_eq_true owed)

end ChainView

/-- In any number of passes over accounts that follow what has been paid, no reward is paid twice,
and the rewards paid are those that some pass settles. -/
theorem rewards_paid_once {views : List ChainView}
    (follows : EveryStep afterPass (fun paid view => view.Follows paid) [] views) :
    (runAll afterPass [] views).Nodup ∧
      ∀ epoch, epoch ∈ runAll afterPass [] views ↔ ∃ view ∈ views, view.Settles epoch := by
  induction views using List.reverseRecOn with
  | nil =>
      exact ⟨List.nodup_nil, fun epoch => ⟨fun member => absurd member List.not_mem_nil,
        fun ⟨_, member, _⟩ => absurd member List.not_mem_nil⟩⟩
  | append_singleton views view induction =>
      obtain ⟨before, last⟩ := everyStep_concat_iff.mp follows
      obtain ⟨distinct, paid⟩ := induction before
      obtain ⟨gained, after, distinct', fresh, settled⟩ := last.afterPass_eq
      rw [runAll_append, runAll_cons, runAll_nil, after]
      constructor
      · refine List.nodup_append.mpr ⟨distinct, distinct', ?_⟩
        intro epoch member other member' same
        exact fresh other member' (same ▸ member)
      · intro epoch
        rw [List.mem_append, paid, settled]
        simp only [List.mem_append, List.mem_singleton, or_and_right, exists_or, exists_eq_left]

/-! ## Two passes -/

/-- The claim of the fifth epoch, before and after it is paid. -/
def fifthClaim (claimed : UInt8) : ClaimAccount where
  epoch := 5
  nodeOwner := .ofBytes [7]
  nodeId := ⟨[110, 49], by decide⟩
  rewardAmount := 250
  claimed

/-- The chain in the twelfth epoch, with a single claim. -/
def twelfthEpoch (claimed : UInt8) : ChainView where
  pool := .ok (List.replicate 72 0 ++ (12 :: List.replicate 47 0))
  claim := fun epoch =>
    if epoch = 5 then some (List.replicate 8 0 ++ ClaimAccount.layout.write (fifthClaim claimed))
    else none
  send := fun _ _ => .ok "confirmed"

theorem twelfthEpoch_follows {paid : List UInt64} {claimed : UInt8}
    (shown : 5 ∈ paid → claimed ≠ 0) : (twelfthEpoch claimed).Follows paid := by
  intro epoch data fetched
  simp only [twelfthEpoch] at fetched
  split at fetched
  · rename_i fifth
    cases fetched
    refine ⟨List.replicate 8 0, fifthClaim claimed, [], rfl, ?_, fifth.symm, fun member => ?_⟩
    · rw [List.append_nil]
    · exact shown (fifth ▸ member)
  · cases fetched

/-- The first of two passes is paid the reward of the fifth epoch, and the second none. -/
theorem rewards_paid_once_in_twelfthEpoch :
    (runAll afterPass [] [twelfthEpoch 0, twelfthEpoch 1]).Nodup ∧
      5 ∈ runAll afterPass [] [twelfthEpoch 0, twelfthEpoch 1] := by
  have follows : EveryStep afterPass (fun paid view => view.Follows paid) []
      [twelfthEpoch 0, twelfthEpoch 1] :=
    ⟨twelfthEpoch_follows fun member => absurd member List.not_mem_nil,
      twelfthEpoch_follows fun _ => by decide, trivial⟩
  obtain ⟨once, paid⟩ := rewards_paid_once follows
  refine ⟨once, (paid 5).mpr ⟨twelfthEpoch 0, List.mem_cons_self, 12, 0, "confirmed", ?_, ?_, rfl⟩⟩
  · decide
  · decide

end CyxCloud.Node
