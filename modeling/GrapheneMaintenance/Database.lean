import GrapheneMaintenance.Machine

set_option autoImplicit false

/- The part of the object store that `db_maint.cpp` reads and writes. Object ids are their
   instance numbers; every table is a list in its primary (`by_id`) order. Fields that no
   modelled function reads are left out. The `Ledger` is the part that the collaborators
   outside this file (operation evaluators, `process_fees`, worker payment, the bonus
   services) may change; the global property objects and the election tables are written
   only by the maintenance code. The scratch buffers are members of `database`, not
   objects, so an undo session does not roll them back. Times are `time_point_sec` seconds,
   and the `time` of the dynamic global properties is `head_block_time()`. The constants of
   `config.hpp`, `hardfork.hpp` and `fba_accumulator_id.hpp` are not part of the sources, nor
   are `account_object::is_member` and `is_annual_member`, `cheque_object`, `worker_object` with
   its `pay_worker` visitors, and `database::adjust_balance`: they are modelled by the fields the
   maintenance code reads. An account's membership is basic, annual until an expiration, or
   lifetime; a worker refunds its pay to the reserve, burns it or vests it; `adjust_balance`
   adds to the (account, asset) row and creates it when missing. `vote_id_type` keeps the
   vote type in the low 8 bits of `content` and the instance above, and the count of a
   `top_holders_special_authority` is a `uint8_t`. -/
namespace Graphene.Chain

abbrev AccountId := Nat
abbrev AssetId := Nat

structure Config where
  graphene100Percent : Nat
  graphene1Percent : Nat
  coreAssetCycleRate : Nat
  coreAssetCycleRateBits : Nat
  proxyToSelfAccount : AccountId
  witnessAccount : AccountId
  committeeAccount : AccountId
  relaxedCommitteeAccount : AccountId
  nullAccount : AccountId
  hardfork533Time : Nat
  hardfork607Time : Nat
  hardfork613Time : Nat
  hardfork616Time : Nat
  hardfork616MaintenanceChangeTime : Nat
  hardfork617Time : Nat
  hardfork618Time : Nat
  hardfork619Time : Nat
  hardfork620Time : Nat
  hardfork622Time : Nat
  fbaAccumulatorIdTransferToBlind : Nat
  fbaAccumulatorIdBlindTransfer : Nat
  fbaAccumulatorIdTransferFromBlind : Nat
  alphaAccount : AccountId
  edcAsset : AssetId
  precision : Int
deriving Repr

def exampleConfig : Config :=
  { graphene100Percent := 10000, graphene1Percent := 100, coreAssetCycleRate := 17, coreAssetCycleRateBits := 32
    proxyToSelfAccount := 0, witnessAccount := 1, committeeAccount := 0, relaxedCommitteeAccount := 0
    nullAccount := 0, hardfork533Time := 0, hardfork607Time := 0, hardfork613Time := 0, hardfork616Time := 0
    hardfork616MaintenanceChangeTime := 0, hardfork617Time := 0, hardfork618Time := 0, hardfork619Time := 0
    hardfork620Time := 0, hardfork622Time := 0, fbaAccumulatorIdTransferToBlind := 0, fbaAccumulatorIdBlindTransfer := 1
    fbaAccumulatorIdTransferFromBlind := 2, alphaAccount := 0, edcAsset := 0, precision := 100000 }

structure VoteId where
  content : Nat
deriving DecidableEq, Repr

def VoteId.instance (v : VoteId) : Nat := v.content / 256

inductive Membership where
  | basic
  | annual (expiration : Nat)
  | lifetime
deriving DecidableEq, Repr

def Membership.isAnnualMember : Membership → Nat → Bool
  | .annual expiration, now => now < expiration
  | _, _ => false

def Membership.isMember : Membership → Nat → Bool
  | .lifetime, _ => true
  | membership, now => membership.isAnnualMember now

structure AccountOptions where
  votingAccount : AccountId := 0
  votes : List VoteId := []
  numWitness : Nat := 0
  numCommittee : Nat := 0
deriving DecidableEq, Repr

structure Authority where
  weightThreshold : Nat := 0
  accountAuths : List (AccountId × Nat) := []
  keyAuths : List Nat := []
  addressAuths : List Nat := []
deriving DecidableEq, Repr

inductive SpecialAuthority where
  | noSpecialAuthority
  | topHolders (asset : AssetId) (numTopHolders : UInt8)
deriving DecidableEq, Repr

structure AccountObject where
  id : AccountId
  name : String := ""
  options : AccountOptions := {}
  membership : Membership := .basic
  cashbackVb : Option Nat := none
  totalCoreInOrders : Int := 0
  owner : Authority := {}
  active : Authority := {}
  ownerSpecialAuthority : SpecialAuthority := .noSpecialAuthority
  activeSpecialAuthority : SpecialAuthority := .noSpecialAuthority
  topNControlFlags : Nat := 0
  mostRecentOp : Nat := 0
deriving DecidableEq, Repr

structure SpecialAuthorityObject where
  account : AccountId
deriving DecidableEq, Repr

structure AccountBalanceObject where
  owner : AccountId
  assetType : AssetId
  balance : Int
  mandatoryTransfer : Bool := false
deriving DecidableEq, Repr

def AccountBalanceObject.key (row : AccountBalanceObject) : AccountId × AssetId := (row.owner, row.assetType)

structure AccountMatureBalanceObject where
  owner : AccountId
  assetType : AssetId
  balance : Int
  history : List (Int × Int) := []
  mandatoryTransfer : Bool := false
deriving DecidableEq, Repr

def AccountMatureBalanceObject.key (row : AccountMatureBalanceObject) : AccountId × AssetId :=
  (row.owner, row.assetType)

structure VestingBalanceObject where
  id : Nat
  owner : AccountId
  balance : Int
deriving DecidableEq, Repr

structure AssetDynamicDataObject where
  currentSupply : Int := 0
  accumulatedFees : Int := 0
deriving DecidableEq, Repr

structure CoreAsset where
  maxSupply : Int := 0
  dynamicData : AssetDynamicDataObject := {}
deriving DecidableEq, Repr

inductive ChequeStatus where
  | chequeNew
  | chequeUsed
  | chequeUndo
deriving DecidableEq, Repr

structure ChequeObject where
  id : Nat
  drawer : AccountId := 0
  status : ChequeStatus := .chequeNew
  datetimeCreation : Nat := 0
  datetimeExpiration : Nat := 0
  remainingAmount : Int := 0
deriving DecidableEq, Repr

structure FundObject where
  id : Nat
  enabled : Bool := true
  datetimeEnd : Nat := 0
deriving DecidableEq, Repr

structure Ledger where
  core : CoreAsset := {}
  accounts : List AccountObject := []
  balances : List AccountBalanceObject := []
  vestingBalances : List VestingBalanceObject := []
  cheques : List ChequeObject := []
  funds : List FundObject := []
  specialAuthorities : List SpecialAuthorityObject := []
  matureBalances : List AccountMatureBalanceObject := []
deriving Repr

structure AssetObject where
  id : AssetId
  issuer : AccountId := 0
  buybackAccount : Option AccountId := none
  dailyBonus : Bool := false
  bonusPercent : Nat := 0
  maturingBonusBalance : Bool := false
deriving DecidableEq, Repr

structure BuybackObject where
  id : Nat
  assetToBuy : AssetId
deriving DecidableEq, Repr

structure WitnessObject where
  id : Nat
  witnessAccount : AccountId := 0
  voteId : VoteId := ⟨0⟩
  totalVotes : Nat := 0
deriving DecidableEq, Repr

structure CommitteeMemberObject where
  id : Nat
  committeeMemberAccount : AccountId := 0
  voteId : VoteId := ⟨0⟩
  totalVotes : Nat := 0
deriving DecidableEq, Repr

inductive WorkerType where
  | refund
  | burn
  | vesting (balance : Nat)
deriving DecidableEq, Repr

structure WorkerObject where
  id : Nat
  dailyPay : Int := 0
  workBeginDate : Nat := 0
  workEndDate : Nat := 0
  voteFor : VoteId := ⟨0⟩
  voteAgainst : VoteId := ⟨0⟩
  totalVotesFor : Nat := 0
  totalVotesAgainst : Nat := 0
  worker : WorkerType := .refund
deriving DecidableEq, Repr

structure FbaAccumulatorObject where
  id : Nat
  accumulatedFbaFees : Int := 0
  designatedAsset : Option AssetId := none
deriving DecidableEq, Repr

structure ChainParameters where
  blockInterval : Nat := 5
  maintenanceInterval : Nat := 86400
  maximumWitnessCount : UInt16 := 1001
  maximumCommitteeCount : UInt16 := 1001
  countNonMemberVotes : Bool := true
  witnessPayPerBlock : Int := 0
  workerBudgetPerDay : Int := 0
  accountFeeScaleBitshifts : Nat := 0
  accountsPerFeeScale : Nat := 1
  accountCreateBasicFee : Nat := 0
deriving DecidableEq, Repr

structure GlobalPropertyObject where
  parameters : ChainParameters := {}
  pendingParameters : Option ChainParameters := none
  nextAvailableVoteId : Nat := 0
  activeWitnesses : List Nat := []
  activeCommitteeMembers : List Nat := []
deriving DecidableEq, Repr

structure DynamicGlobalPropertyObject where
  time : Nat := 0
  nextMaintenanceTime : Nat := 0
  lastBudgetTime : Nat := 0
  witnessBudget : Int := 0
  accountsRegisteredThisInterval : Nat := 0
deriving DecidableEq, Repr

structure ChainPropertyObject where
  minWitnessCount : UInt16 := 0
  minCommitteeMemberCount : UInt16 := 0
deriving DecidableEq, Repr

structure BudgetRecord where
  timeSinceLastBudget : Nat := 0
  fromInitialReserve : Int := 0
  fromAccumulatedFees : Int := 0
  fromUnusedWitnessBudget : Int := 0
  requestedWitnessBudget : Int := 0
  totalBudget : Int := 0
  witnessBudget : Int := 0
  workerBudget : Int := 0
  leftoverWorkerFunds : Int := 0
  supplyDelta : Int := 0
deriving DecidableEq, Repr

structure BudgetRecordObject where
  time : Nat
  record : BudgetRecord
deriving DecidableEq, Repr

inductive Operation where
  | fbaDistribute (accountId : AccountId) (fbaId : Nat) (amount : Int)
  | chequeReverse (chequeId : Nat) (accountId : AccountId) (amount : Int)
  | accountUpgrade (accountToUpgrade : AccountId) (upgradeToLifetimeMember : Bool)
deriving DecidableEq, Repr

structure HistoryObject where
  id : Nat
  time : Nat
deriving DecidableEq, Repr

structure AccountTransactionHistoryObject where
  id : Nat
  operationId : Nat
  next : Nat := 0
  blockTime : Nat := 0
deriving DecidableEq, Repr

inductive HistoryOperation where
  | transfer (sender : AccountId) (assetId : AssetId) (amount : Int)
  | other
deriving DecidableEq, Repr

structure OperationHistoryObject where
  id : Nat
  op : HistoryOperation
  time : Nat := 0
deriving DecidableEq, Repr

structure ObjectDatabase where
  gpo : GlobalPropertyObject := {}
  dgpo : DynamicGlobalPropertyObject := {}
  cpo : ChainPropertyObject := {}
  ledger : Ledger := {}
  assets : List AssetObject := []
  witnesses : List WitnessObject := []
  committeeMembers : List CommitteeMemberObject := []
  workers : List WorkerObject := []
  fbaAccumulators : List FbaAccumulatorObject := []
  budgetRecords : List BudgetRecordObject := []
  appliedOperations : List Operation := []
  operationHistory : List OperationHistoryObject := []
  accountTransactionHistory : List AccountTransactionHistoryObject := []
  fundTransactionHistory : List HistoryObject := []
  blindTransfers : List HistoryObject := []
  buybacks : List BuybackObject := []
  onlineInfo : List (AccountId × Nat) := []
deriving Repr

structure ScratchBuffers where
  voteTallyBuffer : List Nat := []
  witnessCountHistogramBuffer : List Nat := []
  committeeCountHistogramBuffer : List Nat := []
  totalVotingStake : Nat := 0
deriving DecidableEq, Repr

structure Database where
  objects : ObjectDatabase := {}
  buffers : ScratchBuffers := {}
  historySize : Nat := 0
deriving Repr

abbrev Evaluator := Operation → Ledger → Except Fault Ledger

abbrev FeeProcessor := AccountObject → Ledger → Except Fault Ledger

def ObjectDatabase.headBlockTime (db : ObjectDatabase) : Nat := db.dgpo.time

def ObjectDatabase.currentSupply (db : ObjectDatabase) : Int := db.ledger.core.dynamicData.currentSupply

def ObjectDatabase.schedule (db : ObjectDatabase) :
    DynamicGlobalPropertyObject × ChainParameters × Option ChainParameters :=
  (db.dgpo, db.gpo.parameters, db.gpo.pendingParameters)

def ObjectDatabase.reserved (db : ObjectDatabase) : Except Fault Int :=
  shareSub db.ledger.core.maxSupply db.ledger.core.dynamicData.currentSupply

def findAccount (accounts : List AccountObject) (id : AccountId) : Except Fault AccountObject :=
  match accounts.find? (·.id = id) with
  | some account => .ok account
  | none => .error .missingObject

theorem find?_of_findAccount {accounts : List AccountObject} {id : AccountId} {account : AccountObject}
    (found : findAccount accounts id = .ok account) : accounts.find? (·.id = id) = some account := by
  unfold findAccount at found
  split at found
  · rename_i lookup
    cases found
    exact lookup
  · cases found

def balanceOf (owner : AccountId) (asset : AssetId) : List AccountBalanceObject → Int
  | [] => 0
  | row :: rest =>
    if row.owner = owner ∧ row.assetType = asset then row.balance else balanceOf owner asset rest

def adjustRows (owner : AccountId) (asset : AssetId) (delta : Int) :
    List AccountBalanceObject → List AccountBalanceObject
  | [] => [{ owner := owner, assetType := asset, balance := delta }]
  | row :: rest =>
    if row.owner = owner ∧ row.assetType = asset then { row with balance := row.balance + delta } :: rest
    else row :: adjustRows owner asset delta rest

def Ledger.adjustBalance (ledger : Ledger) (owner : AccountId) (asset : AssetId) (delta : Int) :
    Ledger :=
  { ledger with balances := adjustRows owner asset delta ledger.balances }

def coreBalanceTotal : List AccountBalanceObject → Int
  | [] => 0
  | row :: rest => (if row.assetType = 0 then row.balance else 0) + coreBalanceTotal rest

theorem coreBalanceTotal_adjustRows (owner : AccountId) (delta : Int) (rows : List AccountBalanceObject) :
    coreBalanceTotal (adjustRows owner 0 delta rows) = coreBalanceTotal rows + delta := by
  induction rows with
  | nil => simp [adjustRows, coreBalanceTotal]
  | cons row rest ih =>
    by_cases same : row.owner = owner ∧ row.assetType = 0
    · rw [adjustRows, if_pos same]
      simp only [coreBalanceTotal, same.2, if_true]
      omega
    · rw [adjustRows, if_neg same]
      simp only [coreBalanceTotal, ih]
      omega

end Graphene.Chain
