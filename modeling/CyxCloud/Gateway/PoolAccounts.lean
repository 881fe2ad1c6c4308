import CyxCloud.Gateway.NodeRegistry
import CyxCloud.Library.Layouts

/-!
# Accounts of the payment and subscription programs

What `payment_pool.rs` and `subscription.rs` of the gateway read from the accounts of the payment
pool, of its epochs and of subscriptions, and the layouts of these accounts.
-/

namespace CyxCloud

open CyxCloud.Core Library

/-- Public keys. -/
def Pubkey.layout : Layout Pubkey :=
  (Layout.bytes 32).same (fun key => ⟨key.bytes, key.length_eq⟩)
    (fun inner => ⟨inner.val, inner.property⟩) (fun _ => rfl) (fun _ => rfl)

theorem Pubkey.fixed_layout : Pubkey.layout.Fixed 32 := (Layout.fixed_bytes 32).same _ _

/-- A slice that is a key is converted to it. -/
theorem Pubkey.tryFrom_write (key : Pubkey) : Pubkey.tryFrom (Pubkey.layout.write key) = .ok key := by
  have whole : Pubkey.layout.write key = key.bytes := rfl
  rw [whole, Pubkey.tryFrom, if_pos key.length_eq, Pubkey.ofBytes_bytes]

namespace Gateway

/-! ## Parsing -/

/-- What the bytes behind the eight of the discriminator are parsed to.  An account that cannot be
fetched or is shorter than its discriminator is none. -/
def behindDiscriminator {α : Type} (parse : Bytes → Parsed α) (account : Option Bytes) :
    Parsed (Option α) :=
  match account with
  | some data =>
      if data.length < 8 then
        .ok none
      else do
        let info ← parse (data.drop 8)
        return some info
  | none => .ok none

/-- What the gateway knows of the payment pool. -/
structure PaymentPoolInfo where
  authority : Pubkey
  tokenMint : Pubkey
  currentEpoch : UInt64
  totalDeposits : UInt64
  nodePercent : UInt8
  platformPercent : UInt8
  communityPercent : UInt8
  epochDurationSeconds : Int64
  lastEpochStart : Int64
  deriving DecidableEq, Repr

/-- Parse pool data from the bytes after the discriminator. -/
def parsePoolData (data : Bytes) : Parsed PaymentPoolInfo :=
  if data.length < 120 then
    .error (.error "Pool data too short")
  else do
    let authority ← slice data 0 32
    let authority ← Pubkey.tryFrom authority
    let tokenMint ← slice data 32 64
    let tokenMint ← Pubkey.tryFrom tokenMint
    let currentEpoch ← slice data 64 72
    let totalDeposits ← slice data 72 80
    let nodePercent ← byteAt data 80
    let platformPercent ← byteAt data 81
    let communityPercent ← byteAt data 82
    let epochDuration ← slice data 83 91
    let lastEpochStart ← slice data 91 99
    return {
      authority
      tokenMint
      currentEpoch := u64FromLeBytes currentEpoch
      totalDeposits := u64FromLeBytes totalDeposits
      nodePercent
      platformPercent
      communityPercent
      epochDurationSeconds := i64FromLeBytes epochDuration
      lastEpochStart := i64FromLeBytes lastEpochStart }

/-- Get payment pool info, if the account can be fetched. -/
def getPool (account : Option Bytes) : Parsed (Option PaymentPoolInfo) :=
  behindDiscriminator parsePoolData account

/-- Get current epoch number. -/
def currentEpoch (account : Option Bytes) : Parsed UInt64 := do
  match ← getPool account with
  | some pool => return pool.currentEpoch
  | none => return 0

/-- What the gateway knows of the rewards of an epoch. -/
structure Accounts.EpochRewardsInfo where
  epoch : UInt64
  totalPoolAmount : UInt64
  nodesShare : UInt64
  platformShare : UInt64
  communityShare : UInt64
  allocatedToNodes : UInt64
  finalized : Bool
  platformClaimed : Bool
  communityClaimed : Bool
  epochStart : Int64
  epochEnd : Int64
  deriving DecidableEq, Repr

/-- Parse epoch rewards data from the bytes after the discriminator. -/
def parseEpochRewardsData (data : Bytes) (epoch : UInt64) : Parsed Accounts.EpochRewardsInfo :=
  if data.length < 72 then
    .error (.error "Epoch rewards data too short")
  else do
    let totalPoolAmount ← slice data 8 16
    let nodesShare ← slice data 16 24
    let platformShare ← slice data 24 32
    let communityShare ← slice data 32 40
    let allocatedToNodes ← slice data 40 48
    let finalized ← byteAt data 48
    let platformClaimed ← byteAt data 49
    let communityClaimed ← byteAt data 50
    let epochStart ← slice data 51 59
    let epochEnd ← slice data 59 67
    return {
      epoch
      totalPoolAmount := u64FromLeBytes totalPoolAmount
      nodesShare := u64FromLeBytes nodesShare
      platformShare := u64FromLeBytes platformShare
      communityShare := u64FromLeBytes communityShare
      allocatedToNodes := u64FromLeBytes allocatedToNodes
      finalized := finalized != 0
      platformClaimed := platformClaimed != 0
      communityClaimed := communityClaimed != 0
      epochStart := i64FromLeBytes epochStart
      epochEnd := i64FromLeBytes epochEnd }

/-- Get epoch rewards info, if the account can be fetched. -/
def getEpochRewards (account : Option Bytes) (epoch : UInt64) :
    Parsed (Option Accounts.EpochRewardsInfo) :=
  behindDiscriminator (fun data => parseEpochRewardsData data epoch) account

/-- Storage plan types. -/
inductive StoragePlanType where
  | free
  | starter
  | pro
  | enterprise
  deriving DecidableEq, Repr

/-- Subscription period types. -/
inductive PeriodType where
  | monthly
  | yearly
  deriving DecidableEq, Repr

/-- Status of a subscription. -/
inductive SubscriptionStatus where
  | active
  | expired
  | cancelled
  deriving DecidableEq, Repr

/-- What the gateway knows of a subscription. -/
structure SubscriptionInfo where
  user : Pubkey
  planType : StoragePlanType
  periodType : PeriodType
  storageQuotaBytes : UInt64
  storageUsedBytes : UInt64
  bandwidthUsedBytes : UInt64
  pricePerPeriod : UInt64
  currentPeriodStart : Int64
  currentPeriodEnd : Int64
  autoRenew : Bool
  status : SubscriptionStatus
  deriving DecidableEq, Repr

/-- The plan that a byte stands for. -/
def planTypeOf (byte : UInt8) : Parsed StoragePlanType :=
  if byte = 0 then .ok .free
  else if byte = 1 then .ok .starter
  else if byte = 2 then .ok .pro
  else if byte = 3 then .ok .enterprise
  else .error (.error "Unknown plan type")

/-- The period that a byte stands for. -/
def periodTypeOf (byte : UInt8) : Parsed PeriodType :=
  if byte = 0 then .ok .monthly
  else if byte = 1 then .ok .yearly
  else .error (.error "Unknown period type")

/-- The status that a byte stands for. -/
def subscriptionStatusOf (byte : UInt8) : Parsed SubscriptionStatus :=
  if byte = 0 then .ok .active
  else if byte = 1 then .ok .expired
  else if byte = 2 then .ok .cancelled
  else .error (.error "Unknown subscription status")

/-- Parse subscription data from the bytes after the discriminator. -/
def parseSubscriptionData (data : Bytes) (user : Pubkey) : Parsed SubscriptionInfo :=
  if data.length < 85 then
    .error (.error "Subscription data too short")
  else do
    let planType ← byteAt data 32
    let planType ← planTypeOf planType
    let periodType ← byteAt data 33
    let periodType ← periodTypeOf periodType
    let storageQuotaBytes ← slice data 34 42
    let storageUsedBytes ← slice data 42 50
    let bandwidthUsedBytes ← slice data 50 58
    let pricePerPeriod ← slice data 58 66
    let currentPeriodStart ← slice data 66 74
    let currentPeriodEnd ← slice data 74 82
    let autoRenew ← byteAt data 82
    let status ← byteAt data 83
    let status ← subscriptionStatusOf status
    return {
      user
      planType
      periodType
      storageQuotaBytes := u64FromLeBytes storageQuotaBytes
      storageUsedBytes := u64FromLeBytes storageUsedBytes
      bandwidthUsedBytes := u64FromLeBytes bandwidthUsedBytes
      pricePerPeriod := u64FromLeBytes pricePerPeriod
      currentPeriodStart := i64FromLeBytes currentPeriodStart
      currentPeriodEnd := i64FromLeBytes currentPeriodEnd
      autoRenew := autoRenew != 0
      status }

/-- Get subscription info for a user, if the account can be fetched. -/
def getSubscription (account : Option Bytes) (user : Pubkey) : Parsed (Option SubscriptionInfo) :=
  behindDiscriminator (fun data => parseSubscriptionData data user) account

/-- What is left of a quota; without a subscription there is none. -/
def remainingQuota : Option SubscriptionInfo → UInt64
  | some subscription =>
      if subscription.storageQuotaBytes > subscription.storageUsedBytes then
        subscription.storageQuotaBytes - subscription.storageUsedBytes
      else
        0
  | none => 0

/-- Get remaining storage quota for a user. -/
def getRemainingQuota (account : Option Bytes) (user : Pubkey) : Parsed UInt64 := do
  let subscription ← getSubscription account user
  return remainingQuota subscription

/-- Check if a user has enough quota for additional storage. -/
def hasQuota (account : Option Bytes) (user : Pubkey) (additionalBytes : UInt64) :
    Parsed Bool := do
  let remaining ← getRemainingQuota account user
  return decide (remaining ≥ additionalBytes)

/-! ## Layouts -/

/-- The fields of the pool account behind its discriminator. -/
def poolFields : Layout (Pubkey × Pubkey × UInt64 × UInt64 × UInt8 × UInt8 × UInt8 × Int64 × Int64) :=
  Pubkey.layout.seq (Pubkey.layout.seq (Layout.u64.seq (Layout.u64.seq (Layout.byte.seq
    (Layout.byte.seq (Layout.byte.seq (Layout.i64.seq Layout.i64)))))))

theorem fixed_poolFields : poolFields.Fixed 99 :=
  Pubkey.fixed_layout.seq (Pubkey.fixed_layout.seq (Layout.fixed_u64.seq (Layout.fixed_u64.seq
    (Layout.fixed_byte.seq (Layout.fixed_byte.seq (Layout.fixed_byte.seq
      (Layout.fixed_i64.seq Layout.fixed_i64)))))))

/-- The pool account. -/
def poolLayout : Layout PaymentPoolInfo :=
  poolFields.same
    (fun pool => (pool.authority, pool.tokenMint, pool.currentEpoch, pool.totalDeposits,
      pool.nodePercent, pool.platformPercent, pool.communityPercent, pool.epochDurationSeconds,
      pool.lastEpochStart))
    (fun (authority, tokenMint, currentEpoch, totalDeposits, nodePercent, platformPercent,
        communityPercent, epochDurationSeconds, lastEpochStart) =>
      { authority, tokenMint, currentEpoch, totalDeposits, nodePercent, platformPercent,
        communityPercent, epochDurationSeconds, lastEpochStart })
    (fun _ => rfl) (fun _ => rfl)

theorem fixed_poolLayout : poolLayout.Fixed 99 := fixed_poolFields.same _ _

/-- Pool data are read as laid out if they are long enough. -/
theorem parsePoolData_write (pool : PaymentPoolInfo) (rest : Bytes)
    (enough : ¬(poolLayout.write pool ++ rest).length < 120) :
    parsePoolData (poolLayout.write pool ++ rest) = .ok pool := by
  have start : StandsAt (poolLayout.write pool ++ rest) 0
    (poolFields.write (pool.authority, pool.tokenMint, pool.currentEpoch, pool.totalDeposits,
      pool.nodePercent, pool.platformPercent, pool.communityPercent, pool.epochDurationSeconds,
      pool.lastEpochStart) ++ rest) := .start _
  generalize poolLayout.write pool ++ rest = data at start enough
  obtain ⟨authority, start⟩ := start.both Pubkey.fixed_layout
  obtain ⟨tokenMint, start⟩ := start.both Pubkey.fixed_layout
  obtain ⟨currentEpoch, start⟩ := start.both Layout.fixed_u64
  obtain ⟨totalDeposits, start⟩ := start.both Layout.fixed_u64
  obtain ⟨nodePercent, start⟩ := start.byteBoth
  obtain ⟨platformPercent, start⟩ := start.byteBoth
  obtain ⟨communityPercent, start⟩ := start.byteBoth
  obtain ⟨epochDuration, start⟩ := start.both Layout.fixed_i64
  have lastEpochStart := start.slice_eq (Layout.fixed_i64.length_write _)
  simp only [Nat.reduceAdd] at *
  rw [parsePoolData, if_neg enough]
  simp only [authority, tokenMint, currentEpoch, totalDeposits, nodePercent, platformPercent,
    communityPercent, epochDuration, lastEpochStart, parsed_bind, Pubkey.tryFrom_write,
    u64FromLeBytes_write, i64FromLeBytes_write]
  rfl

/-- An epoch rewards account behind its discriminator. -/
structure EpochRewardsAccount where
  epoch : UInt64
  totalPoolAmount : UInt64
  nodesShare : UInt64
  platformShare : UInt64
  communityShare : UInt64
  allocatedToNodes : UInt64
  finalized : UInt8
  platformClaimed : UInt8
  communityClaimed : UInt8
  epochStart : Int64
  epochEnd : Int64
  deriving DecidableEq, Repr

namespace EpochRewardsAccount

/-- The information about an epoch in its account, whose own epoch is not looked at. -/
def info (account : EpochRewardsAccount) (epoch : UInt64) : Accounts.EpochRewardsInfo where
  epoch
  totalPoolAmount := account.totalPoolAmount
  nodesShare := account.nodesShare
  platformShare := account.platformShare
  communityShare := account.communityShare
  allocatedToNodes := account.allocatedToNodes
  finalized := account.finalized != 0
  platformClaimed := account.platformClaimed != 0
  communityClaimed := account.communityClaimed != 0
  epochStart := account.epochStart
  epochEnd := account.epochEnd

/-- The fields in the order of the account. -/
def fields : Layout (UInt64 × UInt64 × UInt64 × UInt64 × UInt64 × UInt64 × UInt8 × UInt8 × UInt8 ×
    Int64 × Int64) :=
  Layout.u64.seq (Layout.u64.seq (Layout.u64.seq (Layout.u64.seq (Layout.u64.seq (Layout.u64.seq
    (Layout.byte.seq (Layout.byte.seq (Layout.byte.seq (Layout.i64.seq Layout.i64)))))))))

theorem fixed_fields : fields.Fixed 67 :=
  Layout.fixed_u64.seq (Layout.fixed_u64.seq (Layout.fixed_u64.seq (Layout.fixed_u64.seq
    (Layout.fixed_u64.seq (Layout.fixed_u64.seq (Layout.fixed_byte.seq (Layout.fixed_byte.seq
      (Layout.fixed_byte.seq (Layout.fixed_i64.seq Layout.fixed_i64)))))))))

/-- The account. -/
def layout : Layout EpochRewardsAccount :=
  fields.same
    (fun account => (account.epoch, account.totalPoolAmount, account.nodesShare,
      account.platformShare, account.communityShare, account.allocatedToNodes, account.finalized,
      account.platformClaimed, account.communityClaimed, account.epochStart, account.epochEnd))
    (fun (epoch, totalPoolAmount, nodesShare, platformShare, communityShare, allocatedToNodes,
        finalized, platformClaimed, communityClaimed, epochStart, epochEnd) =>
      { epoch, totalPoolAmount, nodesShare, platformShare, communityShare, allocatedToNodes,
        finalized, platformClaimed, communityClaimed, epochStart, epochEnd })
    (fun _ => rfl) (fun _ => rfl)

theorem fixed_layout : layout.Fixed 67 := fixed_fields.same _ _

/-- Epoch rewards data are read as laid out if they are long enough. -/
theorem parseEpochRewardsData_write (epoch : UInt64) (account : EpochRewardsAccount) (rest : Bytes)
    (enough : ¬(layout.write account ++ rest).length < 72) :
    parseEpochRewardsData (layout.write account ++ rest) epoch = .ok (account.info epoch) := by
  have start : StandsAt (layout.write account ++ rest) 0
    (fields.write (account.epoch, account.totalPoolAmount, account.nodesShare,
      account.platformShare, account.communityShare, account.allocatedToNodes, account.finalized,
      account.platformClaimed, account.communityClaimed, account.epochStart, account.epochEnd) ++
        rest) := .start _
  generalize layout.write account ++ rest = data at start enough
  obtain ⟨-, start⟩ := start.both Layout.fixed_u64
  obtain ⟨totalPoolAmount, start⟩ := start.both Layout.fixed_u64
  obtain ⟨nodesShare, start⟩ := start.both Layout.fixed_u64
  obtain ⟨platformShare, start⟩ := start.both Layout.fixed_u64
  obtain ⟨communityShare, start⟩ := start.both Layout.fixed_u64
  obtain ⟨allocatedToNodes, start⟩ := start.both Layout.fixed_u64
  obtain ⟨finalized, start⟩ := start.byteBoth
  obtain ⟨platformClaimed, start⟩ := start.byteBoth
  obtain ⟨communityClaimed, start⟩ := start.byteBoth
  obtain ⟨epochStart, start⟩ := start.both Layout.fixed_i64
  have epochEnd := start.slice_eq (Layout.fixed_i64.length_write _)
  simp only [Nat.reduceAdd] at *
  rw [parseEpochRewardsData, if_neg enough]
  simp only [totalPoolAmount, nodesShare, platformShare, communityShare, allocatedToNodes,
    finalized, platformClaimed, communityClaimed, epochStart, epochEnd, parsed_bind,
    u64FromLeBytes_write, i64FromLeBytes_write]
  rfl

end EpochRewardsAccount

/-- A subscription account behind its discriminator. -/
structure SubscriptionAccount where
  user : Pubkey
  planType : UInt8
  periodType : UInt8
  storageQuotaBytes : UInt64
  storageUsedBytes : UInt64
  bandwidthUsedBytes : UInt64
  pricePerPeriod : UInt64
  currentPeriodStart : Int64
  currentPeriodEnd : Int64
  autoRenew : UInt8
  status : UInt8
  bump : UInt8
  deriving DecidableEq, Repr

namespace SubscriptionAccount

/-- The information about a user in an account, whose own user is not looked at; the first unknown
byte is reported. -/
def info (account : SubscriptionAccount) (user : Pubkey) : Parsed SubscriptionInfo := do
  let planType ← planTypeOf account.planType
  let periodType ← periodTypeOf account.periodType
  let status ← subscriptionStatusOf account.status
  return {
    user
    planType
    periodType
    storageQuotaBytes := account.storageQuotaBytes
    storageUsedBytes := account.storageUsedBytes
    bandwidthUsedBytes := account.bandwidthUsedBytes
    pricePerPeriod := account.pricePerPeriod
    currentPeriodStart := account.currentPeriodStart
    currentPeriodEnd := account.currentPeriodEnd
    autoRenew := account.autoRenew != 0
    status }

/-- The fields in the order of the account. -/
def fields : Layout (Pubkey × UInt8 × UInt8 × UInt64 × UInt64 × UInt64 × UInt64 × Int64 × Int64 ×
    UInt8 × UInt8 × UInt8) :=
  Pubkey.layout.seq (Layout.byte.seq (Layout.byte.seq (Layout.u64.seq (Layout.u64.seq
    (Layout.u64.seq (Layout.u64.seq (Layout.i64.seq (Layout.i64.seq (Layout.byte.seq
      (Layout.byte.seq Layout.byte))))))))))

theorem fixed_fields : fields.Fixed 85 :=
  Pubkey.fixed_layout.seq (Layout.fixed_byte.seq (Layout.fixed_byte.seq (Layout.fixed_u64.seq
    (Layout.fixed_u64.seq (Layout.fixed_u64.seq (Layout.fixed_u64.seq (Layout.fixed_i64.seq
      (Layout.fixed_i64.seq (Layout.fixed_byte.seq (Layout.fixed_byte.seq
        Layout.fixed_byte))))))))))

/-- The account. -/
def layout : Layout SubscriptionAccount :=
  fields.same
    (fun account => (account.user, account.planType, account.periodType,
      account.storageQuotaBytes, account.storageUsedBytes, account.bandwidthUsedBytes,
      account.pricePerPeriod, account.currentPeriodStart, account.currentPeriodEnd,
      account.autoRenew, account.status, account.bump))
    (fun (user, planType, periodType, storageQuotaBytes, storageUsedBytes, bandwidthUsedBytes,
        pricePerPeriod, currentPeriodStart, currentPeriodEnd, autoRenew, status, bump) =>
      { user, planType, periodType, storageQuotaBytes, storageUsedBytes, bandwidthUsedBytes,
        pricePerPeriod, currentPeriodStart, currentPeriodEnd, autoRenew, status, bump })
    (fun _ => rfl) (fun _ => rfl)

theorem fixed_layout : layout.Fixed 85 := fixed_fields.same _ _

/-- Subscription data are read as laid out. -/
theorem parseSubscriptionData_write (user : Pubkey) (account : SubscriptionAccount) (rest : Bytes)
    (enough : ¬(layout.write account ++ rest).length < 85) :
    parseSubscriptionData (layout.write account ++ rest) user = account.info user := by
  have start : StandsAt (layout.write account ++ rest) 0
    (fields.write (account.user, account.planType, account.periodType,
      account.storageQuotaBytes, account.storageUsedBytes, account.bandwidthUsedBytes,
      account.pricePerPeriod, account.currentPeriodStart, account.currentPeriodEnd,
      account.autoRenew, account.status, account.bump) ++ rest) := .start _
  generalize layout.write account ++ rest = data at start enough
  obtain ⟨-, start⟩ := start.both Pubkey.fixed_layout
  obtain ⟨planType, start⟩ := start.byteBoth
  obtain ⟨periodType, start⟩ := start.byteBoth
  obtain ⟨storageQuotaBytes, start⟩ := start.both Layout.fixed_u64
  obtain ⟨storageUsedBytes, start⟩ := start.both Layout.fixed_u64
  obtain ⟨bandwidthUsedBytes, start⟩ := start.both Layout.fixed_u64
  obtain ⟨pricePerPeriod, start⟩ := start.both Layout.fixed_u64
  obtain ⟨currentPeriodStart, start⟩ := start.both Layout.fixed_i64
  obtain ⟨currentPeriodEnd, start⟩ := start.both Layout.fixed_i64
  obtain ⟨autoRenew, start⟩ := start.byteBoth
  obtain ⟨status, -⟩ := start.byteBoth
  simp only [Nat.reduceAdd] at *
  rw [parseSubscriptionData, if_neg enough]
  simp only [planType, periodType, storageQuotaBytes, storageUsedBytes, bandwidthUsedBytes,
    pricePerPeriod, currentPeriodStart, currentPeriodEnd, autoRenew, status, parsed_bind,
    u64FromLeBytes_write, i64FromLeBytes_write]
  rfl

end SubscriptionAccount

/-! ## Every account data -/

/-- The value that is laid out behind the discriminator of an account; data that are too short for
the parser are refused with its text. -/
def readAccount {α β : Type} (layout : Layout α) (limit : Nat) (text : String)
    (info : α → Parsed β) (account : Option Bytes) : Parsed (Option β) :=
  behindDiscriminator (fun data =>
    if data.length < limit then .error (.error text)
    else match layout.read data with
      | some (value, _) => info value
      | none => .error .panic) account

/-- A parser that refuses short data and reads what is laid out in others, reads all accounts as
they are laid out. -/
theorem behindDiscriminator_eq {α β : Type} {parse : Bytes → Parsed β} {layout : Layout α}
    {width limit : Nat} {text : String} {info : α → Parsed β} (fixed : layout.Fixed width)
    (fields : width ≤ limit)
    (refuses : ∀ data, data.length < limit → parse data = .error (.error text))
    (reads : ∀ value rest, ¬(layout.write value ++ rest).length < limit →
      parse (layout.write value ++ rest) = info value) (account : Option Bytes) :
    behindDiscriminator parse account = readAccount layout limit text info account := by
  rw [readAccount]
  congr 1
  funext data
  by_cases short : data.length < limit
  · rw [if_pos short, refuses data short]
  · rw [if_neg short]
    obtain ⟨value, rest, rfl⟩ := fixed.exists_write data (by omega)
    rw [reads value rest short, layout.read_write]

theorem getPool_eq (account : Option Bytes) :
    getPool account = readAccount poolLayout 120 "Pool data too short" .ok account := by
  refine behindDiscriminator_eq fixed_poolLayout (by decide) (fun data short => ?_)
    parsePoolData_write account
  rw [parsePoolData, if_pos short]

theorem getEpochRewards_eq (account : Option Bytes) (epoch : UInt64) :
    getEpochRewards account epoch =
      readAccount EpochRewardsAccount.layout 72 "Epoch rewards data too short"
        (fun rewards => .ok (rewards.info epoch)) account := by
  refine behindDiscriminator_eq EpochRewardsAccount.fixed_layout (by decide)
    (fun data short => ?_) (EpochRewardsAccount.parseEpochRewardsData_write epoch) account
  rw [parseEpochRewardsData, if_pos short]

theorem getSubscription_eq (account : Option Bytes) (user : Pubkey) :
    getSubscription account user =
      readAccount SubscriptionAccount.layout 85 "Subscription data too short"
        (fun subscription => subscription.info user) account := by
  refine behindDiscriminator_eq SubscriptionAccount.fixed_layout (by decide)
    (fun data short => ?_) (SubscriptionAccount.parseSubscriptionData_write user) account
  rw [parseSubscriptionData, if_pos short]

/-- Whatever an account holds, the gateway reads the pool, the rewards or the subscription that are
laid out in it. -/
theorem accounts_read_as_laid_out (account : Option Bytes) :
    getPool account = readAccount poolLayout 120 "Pool data too short" .ok account ∧
      (∀ epoch, getEpochRewards account epoch =
        readAccount EpochRewardsAccount.layout 72 "Epoch rewards data too short"
          (fun rewards => .ok (rewards.info epoch)) account) ∧
      ∀ user, getSubscription account user =
        readAccount SubscriptionAccount.layout 85 "Subscription data too short"
          (fun subscription => subscription.info user) account :=
  ⟨getPool_eq account, getEpochRewards_eq account, getSubscription_eq account⟩

theorem le_remainingQuota_iff {additionalBytes : UInt64} {found : Option SubscriptionInfo} :
    additionalBytes ≤ remainingQuota found ↔ additionalBytes = 0 ∨
      ∃ subscription, found = some subscription ∧
        subscription.storageUsedBytes.toNat + additionalBytes.toNat ≤
          subscription.storageQuotaBytes.toNat := by
  have nothing : additionalBytes = 0 ↔ additionalBytes.toNat = 0 := UInt64.toNat_inj.symm
  rw [UInt64.le_iff_toNat_le, nothing]
  cases found with
  | none => simp [remainingQuota]
  | some subscription =>
      simp only [remainingQuota, Option.some.injEq, exists_eq_left']
      split
      · rename_i larger
        have order := UInt64.lt_iff_toNat_lt.mp larger
        rw [UInt64.toNat_sub_of_le _ _ (UInt64.le_of_lt larger)]
        omega
      · rename_i exhausted
        have order := mt UInt64.lt_iff_toNat_lt.mpr exhausted
        rw [show (0 : UInt64).toNat = 0 from rfl]
        omega

/-- There is quota for some bytes exactly if they and those in use fit the subscription; for no
bytes there always is. -/
theorem hasQuota_iff (account : Option Bytes) (user : Pubkey) (additionalBytes : UInt64) :
    hasQuota account user additionalBytes = .ok true ↔
      ∃ found, getSubscription account user = .ok found ∧
        (additionalBytes = 0 ∨ ∃ subscription, found = some subscription ∧
          subscription.storageUsedBytes.toNat + additionalBytes.toNat ≤
            subscription.storageQuotaBytes.toNat) := by
  rw [hasQuota, getRemainingQuota]
  cases getSubscription account user with
  | error cause =>
      constructor
      · intro refused
        cases refused
      · rintro ⟨found, refused, -⟩
        cases refused
  | ok found =>
      have answer : (Except.ok (decide (remainingQuota found ≥ additionalBytes)) : Parsed Bool) =
          .ok true ↔ additionalBytes ≤ remainingQuota found := by
        rw [Except.ok.injEq, decide_eq_true_iff]
      refine answer.trans (le_remainingQuota_iff.trans ⟨fun met => ⟨found, rfl, met⟩, ?_⟩)
      rintro ⟨found', same, met⟩
      cases same
      exact met

end Gateway

end CyxCloud
