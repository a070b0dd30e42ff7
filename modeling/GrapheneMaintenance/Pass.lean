import GrapheneMaintenance.Fba
import GrapheneMaintenance.NextMaintenance
import GrapheneMaintenance.Election
import GrapheneMaintenance.VoteTally
import GrapheneMaintenance.Budget
import GrapheneMaintenance.Cheques
import GrapheneMaintenance.Funds
import GrapheneMaintenance.BonusesBefore620
import GrapheneMaintenance.Buyback
import GrapheneMaintenance.TopHolders

set_option autoImplicit false

/- `database::perform_chain_maintenance`, lines 721-906, and a chain of maintenance blocks. A
   pass returns its objects or its exception together with the scratch buffers, which are
   members of `database`: when a pass throws, the block is undone and the objects return to
   their state before it, but the buffers keep what the pass left in them. The `clear_canary`
   guards of lines 815-817 empty the three vectors on every exit after they are built.
   The collaborators are what the pass calls and the sources do not define: the operation
   evaluators, `process_fees`, `vote_counter`, the try block of the buyback loop and each
   account's `allowed_assets`, the `by_asset_balance` index, the fund handlers, the bonus services
   and the two referral trees. The buyback loops and the history walks of `issue_bonuses_old` run
   on `fuel` iterations, and a run that uses them up ends the pass in `outOfFuel`. The EDC asset,
   which the bonus passes find by symbol, is the asset of id `edcAsset`; dereferencing a missing
   one is an abort. `catch (const fc::exception&)` catches every fault but an abort and the
   model's own. The reset of the bitasset force-settlement volumes, lines 880-882, writes no
   object of this model. -/
namespace Graphene.Chain

structure Collaborators where
  evaluator : Evaluator
  processFees : FeeProcessor
  voteCounter : VoteCounter
  voteCounterIsEmpty : List (AccountId × Nat) → Bool
  buybackAttempt : AssetId → AccountBalanceObject → Ledger → Ledger
  allowedAssets : AccountId → Option (List AssetId)
  byAssetBalance : AssetBalanceRange
  fundHandlers : FundHandlers
  bonusServices : BonusServices
  before620 : Before620Context
  oldBonus : OldBonusContext
  referrals : Ledger → List ReferralEntry
  referralsOld : Ledger → List ReferralEntry
  fuel : Nat

def fueled : Option (Except Fault Ledger) → Except Fault Ledger
  | some result => result
  | none => .error .outOfFuel

def writeLedger (step : ObjectDatabase → Except Fault Ledger) (db : ObjectDatabase) :
    Except Fault ObjectDatabase := do
  let ledger ← step db
  .ok { db with ledger := ledger }

-- Line 726.
def buybackStep (co : Collaborators) (db : ObjectDatabase) : Except Fault Ledger :=
  fueled (createBuybackOrders co.buybackAttempt co.allowedAssets db.assets co.fuel db.buybacks db.ledger)

-- Line 819.
def topNStep (co : Collaborators) (db : ObjectDatabase) : Except Fault Ledger :=
  updateTopNAuthorities ⟨co.voteCounter, co.voteCounterIsEmpty⟩ co.byAssetBalance db.ledger

-- Lines 892-894.
def fundsStep (cfg : Config) (co : Collaborators) (db : ObjectDatabase) : Except Fault ObjectDatabase :=
  if cfg.hardfork622Time < db.headBlockTime then writeLedger (processFunds co.fundHandlers) db else .ok db

-- Lines 1087 and 1169.
def findEdc (cfg : Config) (db : ObjectDatabase) : Except Fault AssetObject :=
  match db.assets.find? (·.id = cfg.edcAsset) with
  | some edc => .ok edc
  | none => .error .abort

def historiesOf (db : ObjectDatabase) : AccountHistories :=
  ⟨db.accountTransactionHistory, db.operationHistory,
    fun id => ((db.ledger.accounts.find? (·.id = id)).map (·.mostRecentOp)).getD 0⟩

-- Lines 895-901.
def bonusStep (cfg : Config) (co : Collaborators) (db : ObjectDatabase) : Except Fault Ledger :=
  if cfg.hardfork620Time < db.headBlockTime then
    issueBonuses co.bonusServices cfg.alphaAccount db.assets db.ledger
  else if cfg.hardfork617Time < db.headBlockTime then do
    let edc ← findEdc cfg db
    issueBonusesBefore620 { co.before620 with
        headBlockTime := db.headBlockTime, hardfork618Time := cfg.hardfork618Time
        hardfork619Time := cfg.hardfork619Time, hardfork620Time := cfg.hardfork620Time
        edc := edc, onlineInfo := db.onlineInfo }
      cfg.alphaAccount co.referrals db.ledger
  else if cfg.hardfork616Time < db.headBlockTime then do
    let edc ← findEdc cfg db
    fueled (issueBonusesOld { co.oldBonus with
        headBlockTime := db.headBlockTime, precision := cfg.precision, edc := edc, histories := historiesOf db }
      co.fuel cfg.alphaAccount (co.referralsOld db.ledger) db.ledger)
  else .ok db.ledger

-- Lines 102-115.
def updateWorkerVotes (hardfork607Time : Nat) (tally : List Nat) (db : ObjectDatabase) : ObjectDatabase :=
  let allowNegativeVotes := decide (db.headBlockTime < hardfork607Time)
  { db with workers := db.workers.map fun w => { w with
      totalVotesFor := voteTally tally w.voteFor
      totalVotesAgainst := if allowNegativeVotes then voteTally tally w.voteAgainst else 0 } }

-- Lines 824-835.
def switchParameters (db : ObjectDatabase) : ObjectDatabase :=
  let p := db.gpo.parameters
  let basicFee := p.accountCreateBasicFee >>>
    (p.accountFeeScaleBitshifts * (db.dgpo.accountsRegisteredThisInterval / p.accountsPerFeeScale))
  match db.gpo.pendingParameters with
  | some pending => { db with gpo.parameters := pending, gpo.pendingParameters := none }
  | none => { db with gpo.parameters := { p with accountCreateBasicFee := basicFee } }

def Fault.isFcException : Fault → Bool
  | .abort | .outOfFuel => false
  | _ => true

-- Lines 694-717.
def deprecateStep (evaluator : Evaluator) (now : Nat) (ledger : Ledger) (account : AccountObject) :
    Except Fault Ledger :=
  let account := (ledger.accounts.find? (·.id = account.id)).getD account
  if account.membership.isAnnualMember now then
    match evaluator (.accountUpgrade account.id true) ledger with
    | .ok ledger => .ok ledger
    | .error e => if e.isFcException then .ok ledger else .error e
  else .ok ledger

-- Lines 690-719.
def deprecateAnnualMembers (evaluator : Evaluator) (now : Nat) (ledger : Ledger) : Except Fault Ledger :=
  ledger.accounts.foldlM (deprecateStep evaluator now) ledger

-- Lines 725-726.
def prepareMaintenance (cfg : Config) (co : Collaborators) (db : ObjectDatabase) :
    Except Fault ObjectDatabase := do
  let db ← distributeFbaBalances cfg.graphene100Percent cfg.graphene1Percent
    cfg.fbaAccumulatorIdTransferToBlind cfg.fbaAccumulatorIdBlindTransfer cfg.fbaAccumulatorIdTransferFromBlind db
  writeLedger (buybackStep co) db

-- Lines 837-878.
def advanceMaintenance (cfg : Config) (evaluator : Evaluator) (blockNum : Nat) (db : ObjectDatabase) :
    Except Fault ObjectDatabase := do
  let next := nextMaintenanceAfter cfg.hardfork616MaintenanceChangeTime db.dgpo.nextMaintenanceTime blockNum
    db.headBlockTime db.headBlockTime db.gpo.parameters.maintenanceInterval
  let db ← (if deprecationDue cfg.hardfork613Time db.dgpo.nextMaintenanceTime next then
    writeLedger (fun db => deprecateAnnualMembers evaluator db.headBlockTime db.ledger) db else .ok db)
  .ok { db with dgpo.nextMaintenanceTime := next, dgpo.accountsRegisteredThisInterval := 0 }

-- Lines 892-905.
def settleMaintenance (cfg : Config) (co : Collaborators) (historySize : Nat) (db : ObjectDatabase) :
    Except Fault ObjectDatabase := do
  let db ← fundsStep cfg co db
  let db ← writeLedger (bonusStep cfg co) db
  let db ← processCheques co.evaluator db
  .ok (clearOldEntities cfg historySize db)

-- Lines 819-905.
def finishMaintenance (cfg : Config) (co : Collaborators) (blockNum historySize : Nat)
    (buffers : ScratchBuffers) (db : ObjectDatabase) : Except Fault ObjectDatabase := do
  let db ← writeLedger (topNStep co) db
  let db ← updateActiveWitnesses cfg.hardfork533Time cfg.witnessAccount co.voteCounter buffers db
  let db ← updateActiveCommitteeMembers cfg.hardfork533Time cfg.committeeAccount cfg.relaxedCommitteeAccount
    co.voteCounter buffers db
  let db ← advanceMaintenance cfg co.evaluator blockNum
    (switchParameters (updateWorkerVotes cfg.hardfork607Time buffers.voteTallyBuffer db))
  let db ← processBudget cfg.coreAssetCycleRate cfg.coreAssetCycleRateBits cfg.nullAccount db
  settleMaintenance cfg co historySize db

-- Lines 815-817.
def clearCanaries (buffers : ScratchBuffers) : ScratchBuffers :=
  { buffers with voteTallyBuffer := [], witnessCountHistogramBuffer := [], committeeCountHistogramBuffer := [] }

def performChainMaintenance (cfg : Config) (co : Collaborators) (blockNum : Nat) (db : Database) :
    Except Fault ObjectDatabase × ScratchBuffers :=
  match prepareMaintenance cfg co db.objects with
  | .error e => (.error e, db.buffers)
  | .ok objects =>
    match tallyPass cfg.proxyToSelfAccount co.processFees { db with objects := objects } with
    | (.error e, buffers) => (.error e, buffers)
    | (.ok ledger, buffers) =>
      (finishMaintenance cfg co blockNum db.historySize buffers { objects with ledger := ledger },
        clearCanaries buffers)

def maintainChain (cfg : Config) (co : Collaborators) (blockNum : Nat) (db : Database) : Database :=
  match performChainMaintenance cfg co blockNum db with
  | (.ok objects, buffers) => { db with objects := objects, buffers := buffers }
  | (.error _, buffers) => { db with buffers := buffers }

theorem maintainChain_buffers (cfg : Config) (co : Collaborators) (blockNum : Nat) (db : Database) :
    (maintainChain cfg co blockNum db).buffers = (performChainMaintenance cfg co blockNum db).2 := by
  unfold maintainChain
  split <;> simp_all

def quietCollaborators : Collaborators :=
  { evaluator := fun _ ledger => .ok ledger
    processFees := fun _ ledger => .ok ledger
    voteCounter := fun _ active => active
    voteCounterIsEmpty := List.isEmpty
    buybackAttempt := fun _ _ ledger => ledger
    allowedAssets := fun _ => none
    byAssetBalance := fun _ _ => []
    fundHandlers := ⟨fun _ ledger => .ok ledger, fun _ ledger => .ok ledger⟩
    bonusServices :=
      { considerMiningInMatureBalances := .ok, balanceForBonus := fun _ _ _ => 0, bonusQuantity := fun _ _ => 0
        checkSupplyOverflow := fun amount _ => .ok amount, adjustBonusBalance := fun _ _ ledger => .ok ledger
        issueReferral := .ok, processBonusBalances := fun _ ledger => .ok ledger, blacklistedAccounts := fun _ => []
        evaluator := fun _ ledger => .ok ledger }
    before620 :=
      { evaluator := fun _ ledger => .ok ledger, considerMiningOld := .ok, processBonusBalances := fun _ => .ok
        adjustBonusBalance := fun _ _ => .ok, adjustReferralBalance := fun _ _ => .ok, matureBalance := fun _ _ _ => 0
        headBlockTime := 0, hardfork618Time := 0, hardfork619Time := 0, hardfork620Time := 0, edc := { id := 0 }
        blacklistedAccounts := fun _ => [], onlineInfo := [], dailyQuantity := fun _ => 0
        scaleQuantity := fun quantity _ => quantity, scaleReferral := fun quantity _ => quantity.toNat }
    oldBonus :=
      { evaluator := fun _ ledger => .ok ledger, histories := ⟨[], [], fun _ => 0⟩, headBlockTime := 0, precision := 1
        edc := { id := 0 }, blacklistedAccounts := fun _ => [], dailyQuantity := fun _ => 0 }
    referrals := fun _ => []
    referralsOld := fun _ => []
    fuel := 100 }

def votingPass : Database :=
  { objects :=
    { gpo := { parameters := { maximumWitnessCount := 1, maximumCommitteeCount := 1 }, nextAvailableVoteId := 1 }
      dgpo := { time := 1000, nextMaintenanceTime := 1000 }
      ledger :=
        { accounts := [{ id := 1, name := "a", options := { votes := [⟨0⟩] } }, { id := 2, name := "b" }]
          balances := [{ owner := 1, assetType := 0, balance := 5 }] }
      witnesses := [{ id := 0, witnessAccount := 1 }]
      fbaAccumulators := [{ id := 0 }, { id := 1 }, { id := 2 }] } }

def feeFaultCollaborators : Collaborators :=
  { quietCollaborators with processFees := fun account ledger => if account.id = 2 then .error .overflow else .ok ledger }

theorem aborted_pass_leaves_tally :
    (maintainChain exampleConfig feeFaultCollaborators 2 votingPass).buffers.voteTallyBuffer = [5] ∧
    ((maintainChain exampleConfig quietCollaborators 2 { votingPass with
        buffers := (maintainChain exampleConfig feeFaultCollaborators 2 votingPass).buffers }).objects.witnesses.map
      (·.totalVotes)) = [10] ∧
    ((maintainChain exampleConfig quietCollaborators 2 votingPass).objects.witnesses.map (·.totalVotes)) = [5] := by
  decide

theorem tally_fresh_after_completed_loop {cfg : Config} {co : Collaborators} {blockNum : Nat} {db : Database}
    {prepared : ObjectDatabase} {ledger : Ledger} {buffers : ScratchBuffers}
    (prepare : prepareMaintenance cfg co db.objects = .ok prepared)
    (loop : tallyPass cfg.proxyToSelfAccount co.processFees { db with objects := prepared } = (.ok ledger, buffers))
    (next : ObjectDatabase) :
    tallyPass cfg.proxyToSelfAccount co.processFees { maintainChain cfg co blockNum db with objects := next } =
      tallyPass cfg.proxyToSelfAccount co.processFees { objects := next } := by
  have cleared : (maintainChain cfg co blockNum db).buffers = clearCanaries buffers := by
    rw [maintainChain_buffers]
    simp only [performChainMaintenance, prepare, loop]
  simp only [tallyPass, cleared]
  rfl

theorem tally_fresh_after_voting_pass :
    ∃ prepared ledger buffers, prepareMaintenance exampleConfig quietCollaborators votingPass.objects = .ok prepared ∧
      tallyPass 0 (fun _ ledger => .ok ledger) { votingPass with objects := prepared } = (.ok ledger, buffers) ∧
      tallyPass 0 (fun _ ledger => .ok ledger)
          { maintainChain exampleConfig quietCollaborators 2 votingPass with objects := votingPass.objects } =
        tallyPass 0 (fun _ ledger => .ok ledger) { objects := votingPass.objects } :=
  ⟨_, _, _, rfl, rfl, @tally_fresh_after_completed_loop exampleConfig quietCollaborators 2 votingPass _ _ _ rfl rfl
    votingPass.objects⟩

section
variable {cfg : Config} {co : Collaborators} {blockNum : Nat}

theorem writeLedger_ok {step : ObjectDatabase → Except Fault Ledger} {db db' : ObjectDatabase}
    (run : writeLedger step db = .ok db') : ∃ ledger, step db = .ok ledger ∧ db' = { db with ledger := ledger } := by
  obtain ⟨ledger, stepRun, done⟩ := bind_eq_ok run
  cases done
  exact ⟨ledger, stepRun, rfl⟩

theorem writeLedger_schedule {step : ObjectDatabase → Except Fault Ledger} {db db' : ObjectDatabase}
    (run : writeLedger step db = .ok db') : db'.schedule = db.schedule := by
  obtain ⟨_, -, rfl⟩ := writeLedger_ok run
  rfl

theorem fundsStep_ok {db db' : ObjectDatabase} (run : fundsStep cfg co db = .ok db') :
    ∃ ledger, db' = { db with ledger := ledger } := by
  unfold fundsStep at run
  split at run
  · obtain ⟨ledger, -, rfl⟩ := writeLedger_ok run
    exact ⟨ledger, rfl⟩
  · cases run
    exact ⟨db.ledger, rfl⟩

theorem advanceMaintenance_ok {evaluator : Evaluator} {db db' : ObjectDatabase}
    (run : advanceMaintenance cfg evaluator blockNum db = .ok db') :
    ∃ ledger, db' = { db with
      ledger := ledger
      dgpo.nextMaintenanceTime := nextMaintenanceAfter cfg.hardfork616MaintenanceChangeTime
        db.dgpo.nextMaintenanceTime blockNum db.headBlockTime db.headBlockTime db.gpo.parameters.maintenanceInterval
      dgpo.accountsRegisteredThisInterval := 0 } := by
  obtain ⟨deprecated, deprecateRun, done⟩ := bind_eq_ok run
  cases done
  split at deprecateRun
  · obtain ⟨ledger, -, rfl⟩ := writeLedger_ok deprecateRun
    exact ⟨ledger, rfl⟩
  · cases deprecateRun
    exact ⟨db.ledger, rfl⟩

def ObjectDatabase.records (db : ObjectDatabase) :
    DynamicGlobalPropertyObject × List WitnessObject × List WorkerObject × List FbaAccumulatorObject ×
      List BudgetRecordObject :=
  (db.dgpo, db.witnesses, db.workers, db.fbaAccumulators, db.budgetRecords)

@[simp] theorem clearMatureBalances_records (hardfork616MaintenanceChangeTime : Nat) (db : ObjectDatabase) :
    (clearMatureBalances hardfork616MaintenanceChangeTime db).records = db.records := by
  unfold clearMatureBalances
  split <;> rfl

@[simp] theorem reapOldEntities_records (hardfork617Time historySize : Nat) (db : ObjectDatabase) :
    (reapOldEntities hardfork617Time historySize db).records = db.records := by
  unfold reapOldEntities
  split <;> rfl

@[simp] theorem clearOnlineInfo_records (hardfork618Time : Nat) (db : ObjectDatabase) :
    (clearOnlineInfo hardfork618Time db).records = db.records := by
  unfold clearOnlineInfo
  split <;> rfl

theorem settleMaintenance_records {historySize : Nat} {db db' : ObjectDatabase}
    (run : settleMaintenance cfg co historySize db = .ok db') : db'.records = db.records := by
  obtain ⟨funded, fundRun, run⟩ := bind_eq_ok run
  obtain ⟨bonused, bonusRun, run⟩ := bind_eq_ok run
  obtain ⟨reversed, chequeRun, run⟩ := bind_eq_ok run
  cases run
  obtain ⟨_, rfl⟩ := fundsStep_ok fundRun
  obtain ⟨_, -, rfl⟩ := writeLedger_ok bonusRun
  obtain ⟨_, -, done⟩ := bind_eq_ok chequeRun
  cases done
  rw [clearOldEntities, clearOnlineInfo_records, reapOldEntities_records, clearMatureBalances_records]
  rfl

theorem prepareMaintenance_schedule {db db' : ObjectDatabase} (run : prepareMaintenance cfg co db = .ok db') :
    db'.schedule = db.schedule := by
  obtain ⟨distributed, distributeRun, run⟩ := bind_eq_ok run
  rw [writeLedger_schedule run, distributeFbaBalances_schedule distributeRun]

@[simp] theorem switchParameters_dgpo (db : ObjectDatabase) : (switchParameters db).dgpo = db.dgpo := by
  unfold switchParameters
  split <;> rfl

theorem switchParameters_interval (db : ObjectDatabase) :
    (switchParameters db).gpo.parameters.maintenanceInterval =
      (db.gpo.pendingParameters.getD db.gpo.parameters).maintenanceInterval := by
  unfold switchParameters
  split <;> simp_all

theorem finishMaintenance_inv {historySize : Nat} {buffers : ScratchBuffers} {db db' : ObjectDatabase}
    (run : finishMaintenance cfg co blockNum historySize buffers db = .ok db') :
    ∃ top elected committee advanced budgeted,
      writeLedger (topNStep co) db = .ok top ∧
      updateActiveWitnesses cfg.hardfork533Time cfg.witnessAccount co.voteCounter buffers top = .ok elected ∧
      updateActiveCommitteeMembers cfg.hardfork533Time cfg.committeeAccount cfg.relaxedCommitteeAccount co.voteCounter
        buffers elected = .ok committee ∧
      advanceMaintenance cfg co.evaluator blockNum
        (switchParameters (updateWorkerVotes cfg.hardfork607Time buffers.voteTallyBuffer committee)) = .ok advanced ∧
      processBudget cfg.coreAssetCycleRate cfg.coreAssetCycleRateBits cfg.nullAccount advanced = .ok budgeted ∧
      settleMaintenance cfg co historySize budgeted = .ok db' := by
  obtain ⟨top, topRun, run⟩ := bind_eq_ok run
  obtain ⟨elected, electRun, run⟩ := bind_eq_ok run
  obtain ⟨committee, committeeRun, run⟩ := bind_eq_ok run
  obtain ⟨advanced, advanceRun, run⟩ := bind_eq_ok run
  obtain ⟨budgeted, budgetRun, run⟩ := bind_eq_ok run
  exact ⟨top, elected, committee, advanced, budgeted, topRun, electRun, committeeRun, advanceRun, budgetRun, run⟩

theorem finishMaintenance_advance {historySize : Nat} {buffers : ScratchBuffers} {db db' : ObjectDatabase}
    (run : finishMaintenance cfg co blockNum historySize buffers db = .ok db') :
    ∃ advanced budgeted,
      advanced.dgpo.nextMaintenanceTime = nextMaintenanceAfter cfg.hardfork616MaintenanceChangeTime
        db.dgpo.nextMaintenanceTime blockNum db.headBlockTime db.headBlockTime
        (db.gpo.pendingParameters.getD db.gpo.parameters).maintenanceInterval ∧
      advanced.headBlockTime = db.headBlockTime ∧
      processBudget cfg.coreAssetCycleRate cfg.coreAssetCycleRateBits cfg.nullAccount advanced = .ok budgeted ∧
      db'.records = budgeted.records := by
  obtain ⟨top, elected, committee, advanced, budgeted, topRun, electRun, committeeRun, advanceRun, budgetRun,
    settleRun⟩ := finishMaintenance_inv run
  have elections : committee.schedule = db.schedule :=
    (updateActiveCommitteeMembers_schedule committeeRun).trans
      ((updateActiveWitnesses_schedule electRun).trans (writeLedger_schedule topRun))
  simp only [ObjectDatabase.schedule, Prod.mk.injEq] at elections
  obtain ⟨ledger, rfl⟩ := advanceMaintenance_ok advanceRun
  refine ⟨_, budgeted, ?_, ?_, budgetRun, settleMaintenance_records settleRun⟩ <;>
    simp only [ObjectDatabase.headBlockTime, switchParameters_interval, switchParameters_dgpo, updateWorkerVotes,
      elections]

theorem finishMaintenance_deadline {historySize : Nat} {buffers : ScratchBuffers} {db db' : ObjectDatabase}
    (run : finishMaintenance cfg co blockNum historySize buffers db = .ok db') :
    db'.dgpo.nextMaintenanceTime =
      nextMaintenanceAfter cfg.hardfork616MaintenanceChangeTime db.dgpo.nextMaintenanceTime blockNum
        db.headBlockTime db.headBlockTime (db.gpo.pendingParameters.getD db.gpo.parameters).maintenanceInterval := by
  obtain ⟨advanced, budgeted, deadline, -, budgetRun, settled⟩ := finishMaintenance_advance run
  have dgpo : db'.dgpo = budgeted.dgpo := congrArg Prod.fst settled
  rw [dgpo, (processBudget_deadline budgetRun).1, deadline]

theorem performChainMaintenance_inv {db : Database} {objects : ObjectDatabase} {buffers : ScratchBuffers}
    (run : performChainMaintenance cfg co blockNum db = (.ok objects, buffers)) :
    ∃ prepared ledger tally, prepareMaintenance cfg co db.objects = .ok prepared ∧
      tallyPass cfg.proxyToSelfAccount co.processFees { db with objects := prepared } = (.ok ledger, tally) ∧
      finishMaintenance cfg co blockNum db.historySize tally { prepared with ledger := ledger } = .ok objects ∧
      buffers = clearCanaries tally := by
  unfold performChainMaintenance at run
  split at run
  · cases run
  rename_i prepared prepareRun
  split at run
  · cases run
  rename_i ledger tally loop
  obtain ⟨finish, cleared⟩ := Prod.mk.inj run
  exact ⟨prepared, ledger, tally, prepareRun, loop, finish, cleared.symm⟩

theorem performChainMaintenance_deadline {db : Database} {objects : ObjectDatabase} {buffers : ScratchBuffers}
    (run : performChainMaintenance cfg co blockNum db = (.ok objects, buffers)) :
    objects.dgpo.nextMaintenanceTime =
      nextMaintenanceAfter cfg.hardfork616MaintenanceChangeTime db.objects.dgpo.nextMaintenanceTime blockNum
        db.objects.headBlockTime db.objects.headBlockTime
        (db.objects.gpo.pendingParameters.getD db.objects.gpo.parameters).maintenanceInterval := by
  obtain ⟨prepared, ledger, tally, prepareRun, -, finish, -⟩ := performChainMaintenance_inv run
  have prepared := prepareMaintenance_schedule prepareRun
  simp only [ObjectDatabase.schedule, Prod.mk.injEq] at prepared
  rw [finishMaintenance_deadline finish]
  simp only [ObjectDatabase.headBlockTime, prepared]

def passOf (blockNum : Nat) (db : Database) : MaintenancePass :=
  ⟨blockNum, db.objects.headBlockTime, (db.objects.gpo.pendingParameters.getD db.objects.gpo.parameters).maintenanceInterval⟩

def CompletedRun (cfg : Config) (co : Collaborators) : Nat → List (Nat × Database) → Prop
  | _, [] => True
  | old, (blockNum, db) :: rest =>
    db.objects.dgpo.nextMaintenanceTime = old ∧ (performChainMaintenance cfg co blockNum db).1.isOk = true ∧
      CompletedRun cfg co (maintainChain cfg co blockNum db).objects.dgpo.nextMaintenanceTime rest

instance decidableCompletedRun (cfg : Config) (co : Collaborators) :
    ∀ old blocks, Decidable (CompletedRun cfg co old blocks)
  | _, [] => isTrue trivial
  | _, (blockNum, db) :: rest =>
    have := decidableCompletedRun cfg co (maintainChain cfg co blockNum db).objects.dgpo.nextMaintenanceTime rest
    inferInstanceAs (Decidable (_ ∧ _ ∧ _))

theorem maintainChain_of_isOk {db : Database} (completes : (performChainMaintenance cfg co blockNum db).1.isOk = true) :
    ∃ buffers, performChainMaintenance cfg co blockNum db = (.ok (maintainChain cfg co blockNum db).objects, buffers) := by
  unfold maintainChain
  revert completes
  rcases performChainMaintenance cfg co blockNum db with ⟨_ | objects, buffers⟩
  · intro failed
    cases failed
  · exact fun _ => ⟨buffers, rfl⟩

theorem completedRun_deadlines :
    ∀ {old : Nat} {blocks : List (Nat × Database)}, CompletedRun cfg co old blocks →
      blocks.map (fun block => (maintainChain cfg co block.1 block.2).objects.dgpo.nextMaintenanceTime) =
        deadlines cfg.hardfork616MaintenanceChangeTime old (blocks.map fun block => passOf block.1 block.2)
  | _, [], _ => rfl
  | old, (blockNum, db) :: rest, ⟨start, completes, restRun⟩ => by
    obtain ⟨buffers, run⟩ := maintainChain_of_isOk completes
    rw [List.map_cons, List.map_cons, completedRun_deadlines restRun, performChainMaintenance_deadline run, start]
    rfl

theorem completed_run_voting_pass :
    CompletedRun exampleConfig quietCollaborators 1000 [(2, votingPass)] ∧
      [(maintainChain exampleConfig quietCollaborators 2 votingPass).objects.dgpo.nextMaintenanceTime] =
        deadlines 0 1000 [passOf 2 votingPass] :=
  ⟨by decide, @completedRun_deadlines exampleConfig quietCollaborators 1000 [(2, votingPass)] (by decide)⟩

theorem finishMaintenance_after_head {historySize : Nat} {buffers : ScratchBuffers} {db db' : ObjectDatabase}
    (run : finishMaintenance cfg co blockNum historySize buffers db = .ok db') :
    db'.headBlockTime = db.headBlockTime ∧ db.headBlockTime < db'.dgpo.nextMaintenanceTime := by
  obtain ⟨advanced, budgeted, -, head, budgetRun, settled⟩ := finishMaintenance_advance run
  obtain ⟨deadline, budgetHead⟩ := processBudget_deadline budgetRun
  have checked := processBudget_after_head budgetRun
  have dgpo : db'.dgpo = budgeted.dgpo := congrArg Prod.fst settled
  have finalHead : db'.headBlockTime = budgeted.headBlockTime := congrArg DynamicGlobalPropertyObject.time dgpo
  rw [finalHead, budgetHead, head, dgpo, deadline, ← head]
  exact ⟨rfl, checked⟩

theorem performChainMaintenance_after_head {db : Database} {objects : ObjectDatabase} {buffers : ScratchBuffers}
    (run : performChainMaintenance cfg co blockNum db = (.ok objects, buffers)) :
    objects.headBlockTime = db.objects.headBlockTime ∧ db.objects.headBlockTime < objects.dgpo.nextMaintenanceTime := by
  obtain ⟨prepared, ledger, tally, prepareRun, -, finish, -⟩ := performChainMaintenance_inv run
  have head : prepared.headBlockTime = db.objects.headBlockTime := congrArg (·.1.time) (prepareMaintenance_schedule prepareRun)
  obtain ⟨same, after⟩ := finishMaintenance_after_head finish
  exact ⟨same.trans head, head ▸ after⟩

theorem performChainMaintenance_fails_of_behind {db : Database}
    (behind : nextMaintenanceAfter cfg.hardfork616MaintenanceChangeTime db.objects.dgpo.nextMaintenanceTime blockNum
      db.objects.headBlockTime db.objects.headBlockTime
      (db.objects.gpo.pendingParameters.getD db.objects.gpo.parameters).maintenanceInterval ≤ db.objects.headBlockTime) :
    (performChainMaintenance cfg co blockNum db).1.isOk = false := by
  rcases pass : performChainMaintenance cfg co blockNum db with ⟨_ | objects, buffers⟩
  · rfl
  have after := (performChainMaintenance_after_head pass).2
  rw [performChainMaintenance_deadline pass] at after
  omega

theorem late_one_shot_pass_never_completes (db : Database) {interval : Nat}
    (switched : (db.objects.gpo.pendingParameters.getD db.objects.gpo.parameters).maintenanceInterval = interval)
    (due : db.objects.dgpo.nextMaintenanceTime ≤ db.objects.headBlockTime)
    (oneShot : db.objects.headBlockTime = cfg.hardfork616MaintenanceChangeTime) (notFirst : blockNum ≠ 1)
    (pos : 0 < interval) (fits : db.objects.headBlockTime + interval < 2 ^ 32)
    (late : 3 * interval / 8 ≤ (db.objects.headBlockTime - db.objects.dgpo.nextMaintenanceTime) % interval) :
    (performChainMaintenance cfg co blockNum db).1.isOk = false := by
  refine performChainMaintenance_fails_of_behind ?_
  rw [switched, nextMaintenanceAfter_oneShot due pos fits notFirst oneShot]
  have := Nat.div_add_mod' (db.objects.headBlockTime - db.objects.dgpo.nextMaintenanceTime) interval
  omega

def lateOneShotDay : Database :=
  { votingPass with
    objects.dgpo := { time := 100, nextMaintenanceTime := 90 }
    objects.gpo.parameters.maintenanceInterval := 16 }

theorem late_one_shot_example_fails :
    (lateOneShotDay.objects.gpo.pendingParameters.getD lateOneShotDay.objects.gpo.parameters).maintenanceInterval = 16 ∧
      (performChainMaintenance { exampleConfig with hardfork616MaintenanceChangeTime := 100 } quietCollaborators 2
        lateOneShotDay).1.isOk = false :=
  ⟨rfl, late_one_shot_pass_never_completes lateOneShotDay rfl (by decide) rfl (by decide) (by decide) (by decide)
    (by decide)⟩

end

def oneShotConfig : Config := { exampleConfig with hardfork616MaintenanceChangeTime := 100 }

def lateOneShotPass : Database :=
  { votingPass with
    objects.dgpo := { time := 100, nextMaintenanceTime := 93 }
    objects.gpo.parameters.maintenanceInterval := 8 }

theorem next_maintenance_time_one_shot_behind_head (co : Collaborators) :
    nextMaintenanceAfter 100 93 2 100 100 8 = 96 ∧ (performChainMaintenance oneShotConfig co 2 lateOneShotPass).1.isOk = false ∧
      faultOf (performChainMaintenance oneShotConfig quietCollaborators 2 lateOneShotPass).1 = some .abort :=
  ⟨by decide, performChainMaintenance_fails_of_behind (by decide), by decide⟩

def stalledPass : Database :=
  { votingPass with
    objects.dgpo := { time := 100, nextMaintenanceTime := 99 }
    objects.gpo.parameters.maintenanceInterval := 2 }

def wrappingPass : Database :=
  { votingPass with
    objects.dgpo := { time := 2 ^ 32 - 50, nextMaintenanceTime := 2 ^ 32 - 150 }
    objects.gpo.parameters.maintenanceInterval := 100 }

theorem maintenance_deadline_stalls_and_wraps (co : Collaborators) :
    nextMaintenanceAfter 100 99 2 100 100 2 = 99 ∧ (performChainMaintenance oneShotConfig co 2 stalledPass).1.isOk = false ∧
      faultOf (performChainMaintenance oneShotConfig quietCollaborators 2 stalledPass).1 = some .abort ∧
    nextMaintenanceAfter 0 (2 ^ 32 - 150) 2 (2 ^ 32 - 50) (2 ^ 32 - 50) 100 = 50 ∧
      (performChainMaintenance exampleConfig co 2 wrappingPass).1.isOk = false ∧
      faultOf (performChainMaintenance exampleConfig quietCollaborators 2 wrappingPass).1 = some .abort :=
  ⟨by decide, performChainMaintenance_fails_of_behind (by decide), by decide, by decide,
    performChainMaintenance_fails_of_behind (by decide), by decide⟩

end Graphene.Chain
