import GrapheneMaintenance.Bonuses
import GrapheneMaintenance.Election

set_option autoImplicit false

/- The daily bonus passes: `database::issue_bonuses`, lines 1021-1079, which runs after
   `HARDFORK_620_TIME`, and `database::issue_bonuses_old`, lines 1167-1256, which runs between
   `HARDFORK_616_TIME` and `HARDFORK_617_TIME`. Both hand amounts to services that are not part
   of the sources (the mature-balance bookkeeping, the `daily_issue` and `referral_issue`
   evaluators, the referral tree), and both pass over the accounts on the blacklists of the alpha
   account and of the asset's issuer. What a service may change is said of any per-account,
   per-asset view of the ledger, `holdings`: it changes the pair it is given and no other. The
   passes then never change the view at a pair they pass over. An amount is
   `asset(amount, asset_id)` as `asset_object::amount` builds it. The services of
   `issue_bonuses` besides the evaluator are the mature-balance bookkeeping
   (`consider_mining_in_mature_balances`, `get_balance_for_bonus`, `adjust_bonus_balance`,
   `issue_referral`, `process_bonus_balances`), `check_supply_overflow`, the `uint64_t` of
   `get_bonus_percent() * balance`, a `double` product, and each account's
   `blacklisted_accounts`. `issue_bonuses_old` reads besides the ledger the history nodes, their
   operations and each account's `statistics.most_recent_op`, the head block time, `PRECISION`,
   the EDC asset, the blacklists and the `uint64_t` of `0.0065 * balance.value`; the entries of
   `rtree.scan_old()` carry a `history` and a `rank` that go to the operation unread. -/
namespace Graphene.Chain

structure AssetAmount where
  amount : Int
  assetId : AssetId
deriving DecidableEq, Repr

def AssetObject.amount (asset : AssetObject) (quantity : Int) : AssetAmount := ⟨quantity, asset.id⟩

inductive BonusOperation where
  | dailyIssue (issuer : AccountId) (assetToIssue : AssetAmount) (issueToAccount : AccountId)
      (accountBalance : Int)
  | referralIssue (issuer : AccountId) (assetToIssue : AssetAmount) (issueToAccount : AccountId)
      (accountBalance : Int) (history : List Nat) (rank : Nat)
deriving DecidableEq, Repr

def BonusOperation.assetToIssue : BonusOperation → AssetAmount
  | .dailyIssue _ assetToIssue _ _ | .referralIssue _ assetToIssue _ _ _ _ => assetToIssue

def BonusOperation.issueToAccount : BonusOperation → AccountId
  | .dailyIssue _ _ issueToAccount _ | .referralIssue _ _ issueToAccount _ _ _ => issueToAccount

def BonusOperation.recipient (op : BonusOperation) : AccountId × AssetId :=
  (op.issueToAccount, op.assetToIssue.assetId)

abbrev BonusEvaluator := BonusOperation → Ledger → Except Fault Ledger

-- Lines 1065-1069, 1127-1130, 1150-1157, 1216-1218 and 1252-1254: `catch (fc::assert_exception&)`
-- swallows only an assertion.
def applyBonusOperation (evaluator : BonusEvaluator) (op : BonusOperation) (ledger : Ledger) :
    Except Fault Ledger :=
  match evaluator op ledger with
  | .ok ledger => .ok ledger
  | .error .assertion => .ok ledger
  | .error e => .error e

theorem applyBonusOperation_ok {evaluator : BonusEvaluator} {op : BonusOperation} {ledger ledger' : Ledger}
    (run : applyBonusOperation evaluator op ledger = .ok ledger') :
    ledger' = ledger ∨ evaluator op ledger = .ok ledger' := by
  unfold applyBonusOperation at run
  split at run
  · rename_i evaluated
    cases run
    exact .inr evaluated
  · cases run
    exact .inl rfl
  · cases run

theorem foldlM_keeps {β γ : Type} (view : Ledger → γ) {step : Ledger → β → Except Fault Ledger}
    {items : List β} (keeps : ∀ item ∈ items, ∀ {ledger ledger'}, step ledger item = .ok ledger' → view ledger' = view ledger)
    {ledger ledger' : Ledger} (run : items.foldlM step ledger = .ok ledger') : view ledger' = view ledger := by
  induction items generalizing ledger with
  | nil =>
    cases run
    rfl
  | cons item rest ih =>
    obtain ⟨next, first, later⟩ := bind_eq_ok run
    rw [ih (fun item mem => keeps item (List.mem_cons_of_mem _ mem)) later,
      keeps item (List.mem_cons_self _ _) first]

theorem ne_of_untouched {other account : AccountId} {assetId asset : AssetId} {alphaList issuerList : List AccountId}
    (untouched : (other, assetId) ≠ (account, asset) ∨ other ∈ alphaList ∨ other ∈ issuerList)
    (alpha : account ∉ alphaList) (issuer : account ∉ issuerList) : (other, assetId) ≠ (account, asset) := by
  rcases untouched with away | listed | listed
  · exact away
  · rintro ⟨⟩
    exact alpha listed
  · rintro ⟨⟩
    exact issuer listed

section Footprint
variable {γ : Type} (holdings : Ledger → AccountId → AssetId → γ)

def ChangesOnly (step : Ledger → Except Fault Ledger) (target : AccountId × AssetId) : Prop :=
  ∀ ⦃ledger ledger' : Ledger⦄, step ledger = .ok ledger' →
    ∀ account asset, (account, asset) ≠ target → holdings ledger' account asset = holdings ledger account asset

def EvaluatorLocal (evaluator : BonusEvaluator) : Prop :=
  ∀ op, ChangesOnly holdings (evaluator op) op.recipient

theorem applyBonusOperation_changesOnly {evaluator : BonusEvaluator} (confined : EvaluatorLocal holdings evaluator)
    (op : BonusOperation) : ChangesOnly holdings (applyBonusOperation evaluator op) op.recipient := by
  intro ledger ledger' run account asset away
  rcases applyBonusOperation_ok run with rfl | evaluated
  · rfl
  · exact confined op evaluated account asset away

end Footprint

structure BonusServices where
  considerMiningInMatureBalances : Ledger → Except Fault Ledger
  balanceForBonus : AccountId → AssetId → Ledger → Int
  bonusQuantity : AssetObject → Int → Nat
  checkSupplyOverflow : AssetAmount → Ledger → Except Fault AssetAmount
  adjustBonusBalance : AccountId → AssetAmount → Ledger → Except Fault Ledger
  issueReferral : Ledger → Except Fault Ledger
  processBonusBalances : AccountId → Ledger → Except Fault Ledger
  blacklistedAccounts : AccountId → List AccountId
  evaluator : BonusEvaluator

-- Lines 1040-1069, for one account and an asset with a daily bonus. `check_supply_overflow` runs
-- outside the `try`, so its exception leaves the pass.
def issueBonus (services : BonusServices) (alphaList issuerList : List AccountId) (asset : AssetObject)
    (account : AccountObject) (ledger : Ledger) : Except Fault Ledger :=
  let balance := services.balanceForBonus account.id asset.id ledger
  let quantity := services.bonusQuantity asset balance
  if quantity < 1 then .ok ledger
  else if account.id ∈ alphaList then .ok ledger
  else if account.id ∈ issuerList then .ok ledger
  else if asset.maturingBonusBalance then do
    let amount ← services.checkSupplyOverflow (asset.amount (shareOfUInt64 quantity)) ledger
    services.adjustBonusBalance account.id amount ledger
  else do
    let realBalance := balanceOf account.id asset.id ledger.balances
    let amount ← services.checkSupplyOverflow (asset.amount (shareOfUInt64 quantity)) ledger
    applyBonusOperation services.evaluator (.dailyIssue asset.issuer amount account.id realBalance) ledger

-- Lines 1034-1071, for one asset: the core asset and an asset without a daily bonus or with a
-- zero bonus percent are passed over, and `asset.issuer(*this)` throws when the issuer is missing.
-- The accounts are those of the ledger when the asset's turn starts, as no service creates one.
def issueBonusToAsset (services : BonusServices) (alphaList : List AccountId) (asset : AssetObject)
    (ledger : Ledger) : Except Fault Ledger :=
  if asset.id = 0 then .ok ledger
  else if asset.dailyBonus = false ∨ asset.bonusPercent = 0 then .ok ledger
  else do
    let issuer ← findAccount ledger.accounts asset.issuer
    ledger.accounts.foldlM (fun ledger account =>
      issueBonus services alphaList (services.blacklistedAccounts issuer.id) asset account ledger) ledger

-- Line 1034.
def issueDailyBonuses (services : BonusServices) (alphaList : List AccountId) (assets : List AssetObject)
    (ledger : Ledger) : Except Fault Ledger :=
  assets.foldlM (fun ledger asset => issueBonusToAsset services alphaList asset ledger) ledger

-- Lines 1021-1079. The pass returns after the mining step when the alpha account is missing.
def issueBonuses (services : BonusServices) (alphaAccount : AccountId) (assets : List AssetObject)
    (ledger : Ledger) : Except Fault Ledger := do
  let ledger ← services.considerMiningInMatureBalances ledger
  match findAccount ledger.accounts alphaAccount with
  | .error _ => .ok ledger
  | .ok alpha => do
    let ledger ← issueDailyBonuses services (services.blacklistedAccounts alpha.id) assets ledger
    let ledger ← services.issueReferral ledger
    ledger.accounts.foldlM (fun ledger account => services.processBonusBalances account.id ledger) ledger

section Daily
variable {γ : Type} (holdings : Ledger → AccountId → AssetId → γ) {services : BonusServices}

structure BonusServices.Local (services : BonusServices) : Prop where
  checkSupplyOverflow_assetId : ∀ {amount checked : AssetAmount} {ledger : Ledger},
    services.checkSupplyOverflow amount ledger = .ok checked → checked.assetId = amount.assetId
  adjustBonusBalance_changesOnly : ∀ account amount,
    ChangesOnly holdings (services.adjustBonusBalance account amount) (account, amount.assetId)
  evaluator_local : EvaluatorLocal holdings services.evaluator

theorem issueBonus_keeps (confined : BonusServices.Local holdings services) {alphaList issuerList : List AccountId}
    {asset : AssetObject} {account : AccountObject} {other : AccountId} {assetId : AssetId}
    (untouched : (other, assetId) ≠ (account.id, asset.id) ∨ other ∈ alphaList ∨ other ∈ issuerList)
    {ledger ledger' : Ledger} (run : issueBonus services alphaList issuerList asset account ledger = .ok ledger') :
    holdings ledger' other assetId = holdings ledger other assetId := by
  dsimp only [issueBonus] at run
  split_ifs at run with small alpha issuer maturing
  any_goals (cases run; rfl)
  · obtain ⟨amount, checked, adjusted⟩ := bind_eq_ok run
    refine confined.adjustBonusBalance_changesOnly _ _ adjusted _ _ ?_
    rw [confined.checkSupplyOverflow_assetId checked]
    exact ne_of_untouched untouched alpha issuer
  · obtain ⟨amount, checked, applied⟩ := bind_eq_ok run
    refine applyBonusOperation_changesOnly holdings confined.evaluator_local _ applied _ _ ?_
    rw [BonusOperation.recipient, BonusOperation.issueToAccount, BonusOperation.assetToIssue,
      confined.checkSupplyOverflow_assetId checked]
    exact ne_of_untouched untouched alpha issuer

theorem issueBonusToAsset_keeps (confined : BonusServices.Local holdings services) {alphaList : List AccountId}
    {asset : AssetObject} {other : AccountId} {assetId : AssetId}
    (skipped : assetId ≠ asset.id ∨ asset.id = 0 ∨ asset.dailyBonus = false ∨ asset.bonusPercent = 0 ∨
      other ∈ alphaList ∨ other ∈ services.blacklistedAccounts asset.issuer)
    {ledger ledger' : Ledger} (run : issueBonusToAsset services alphaList asset ledger = .ok ledger') :
    holdings ledger' other assetId = holdings ledger other assetId := by
  unfold issueBonusToAsset at run
  split_ifs at run with core quiet
  any_goals (cases run; rfl)
  · obtain ⟨issuer, found, loop⟩ := bind_eq_ok run
    refine foldlM_keeps (fun ledger => holdings ledger other assetId)
      (fun account _ _ _ step => issueBonus_keeps holdings confined ?_ step) loop
    rw [(findAccount_ok found).2]
    rcases skipped with away | zero | off | none | listed | listed
    · exact .inl fun same => away (congrArg Prod.snd same)
    · exact absurd zero core
    · exact absurd (.inl off) quiet
    · exact absurd (.inr none) quiet
    · exact .inr (.inl listed)
    · exact .inr (.inr listed)

theorem daily_bonuses_leave_skipped_holdings (confined : BonusServices.Local holdings services)
    (alphaList : List AccountId) (assets : List AssetObject) (account : AccountId) (assetId : AssetId)
    (skipped : ∀ asset ∈ assets, asset.id = assetId →
      asset.id = 0 ∨ asset.dailyBonus = false ∨ asset.bonusPercent = 0 ∨ account ∈ alphaList ∨
        account ∈ services.blacklistedAccounts asset.issuer)
    {ledger ledger' : Ledger} (run : issueDailyBonuses services alphaList assets ledger = .ok ledger') :
    holdings ledger' account assetId = holdings ledger account assetId := by
  refine foldlM_keeps (fun ledger => holdings ledger account assetId)
    (fun asset mem _ _ step => issueBonusToAsset_keeps holdings confined ?_ step) run
  by_cases same : asset.id = assetId
  · exact .inr (skipped asset mem same)
  · exact .inl (Ne.symm same)

end Daily

theorem balanceOf_adjustRows_of_ne {owner : AccountId} {asset : AssetId} (delta : Int) {other : AccountId}
    {assetId : AssetId} (away : (other, assetId) ≠ (owner, asset)) (rows : List AccountBalanceObject) :
    balanceOf other assetId (adjustRows owner asset delta rows) = balanceOf other assetId rows := by
  induction rows with
  | nil =>
    have : ¬(owner = other ∧ asset = assetId) := fun ⟨o, a⟩ => away (by rw [o, a])
    simp [adjustRows, balanceOf, this]
  | cons row rest ih =>
    by_cases adjusted : row.owner = owner ∧ row.assetType = asset
    · have : ¬(row.owner = other ∧ row.assetType = assetId) := fun ⟨o, a⟩ =>
        away (by rw [← o, ← a, adjusted.1, adjusted.2])
      simp only [adjustRows, if_pos adjusted, balanceOf, if_neg this]
    · simp only [adjustRows, if_neg adjusted, balanceOf, ih]

def bookedEvaluator : BonusEvaluator := fun op ledger =>
  .ok (ledger.adjustBalance op.issueToAccount op.assetToIssue.assetId op.assetToIssue.amount)

theorem bookedEvaluator_local :
    EvaluatorLocal (fun ledger account asset => balanceOf account asset ledger.balances) bookedEvaluator :=
  fun _ _ _ run _ _ away => by
    cases run
    exact balanceOf_adjustRows_of_ne _ away _

def bookedServices : BonusServices where
  considerMiningInMatureBalances := .ok
  balanceForBonus := fun account asset ledger => balanceOf account asset ledger.balances
  bonusQuantity := fun asset balance => asset.bonusPercent * balance.toNat / 100
  checkSupplyOverflow := fun amount _ => .ok amount
  adjustBonusBalance := fun account amount ledger => .ok (ledger.adjustBalance account amount.assetId amount.amount)
  issueReferral := .ok
  processBonusBalances := fun _ => .ok
  blacklistedAccounts := fun account => if account = 1 then [3] else []
  evaluator := bookedEvaluator

theorem bookedServices_local :
    BonusServices.Local (fun ledger account asset => balanceOf account asset ledger.balances) bookedServices where
  checkSupplyOverflow_assetId := fun checked => by cases checked; rfl
  adjustBonusBalance_changesOnly := fun _ _ _ _ run _ _ away => by
    cases run
    exact balanceOf_adjustRows_of_ne _ away _
  evaluator_local := bookedEvaluator_local

def bonusLedger : Ledger where
  accounts := [{ id := 1 }, { id := 2 }, { id := 3 }, { id := 4 }]
  balances := [{ owner := 3, assetType := 1, balance := 100 }, { owner := 4, assetType := 1, balance := 100 }]

def dailyBonusAssets : List AssetObject :=
  [{ id := 0, dailyBonus := true, bonusPercent := 10 }, { id := 1, issuer := 1, dailyBonus := true, bonusPercent := 10 }]

theorem daily_bonus_skips_issuer_blacklist :
    ∃ ledger', issueDailyBonuses bookedServices [2] dailyBonusAssets bonusLedger = .ok ledger' ∧
      balanceOf 3 1 ledger'.balances = balanceOf 3 1 bonusLedger.balances :=
  ⟨_, rfl, daily_bonuses_leave_skipped_holdings (fun ledger account asset => balanceOf account asset ledger.balances)
    bookedServices_local [2] dailyBonusAssets 3 1 (by decide) rfl⟩

structure AccountHistories where
  nodes : List AccountTransactionHistoryObject
  operations : List OperationHistoryObject
  mostRecentOp : AccountId → Nat

structure OldBonusContext where
  evaluator : BonusEvaluator
  histories : AccountHistories
  headBlockTime : Nat
  precision : Int
  edc : AssetObject
  blacklistedAccounts : AccountId → List AccountId
  dailyQuantity : Int → Nat

structure ReferralEntry where
  toAccountId : AccountId
  quantity : Int
  history : List Nat := []
  rank : Nat := 0
deriving DecidableEq, Repr

-- Lines 1177-1216, for one entry: `e.to_account_id(*this)` throws when the account is missing,
-- and an account without a qualifying transfer in the last day is passed over. Each walk has
-- `fuel` iterations at most.
def referralIssueOld (ctx : OldBonusContext) (fuel : Nat) (alphaList issuerList : List AccountId)
    (entry : ReferralEntry) (ledger : Ledger) : Option (Except Fault Ledger) :=
  if entry.toAccountId ∈ alphaList then some (.ok ledger)
  else if entry.toAccountId ∈ issuerList then some (.ok ledger)
  else match findAccount ledger.accounts entry.toAccountId with
    | .error e => some (.error e)
    | .ok _ =>
      (referralNeedContinue ctx.histories.nodes ctx.histories.operations ctx.headBlockTime entry.toAccountId
        ctx.edc.id ctx.precision fuel (ctx.histories.mostRecentOp entry.toAccountId)).map fun
        | .error e => .error e
        | .ok true => .ok ledger
        | .ok false => applyBonusOperation ctx.evaluator
          (.referralIssue ctx.edc.issuer (ctx.edc.amount entry.quantity) entry.toAccountId 0 entry.history entry.rank)
          ledger

-- Lines 1220-1255, for one account.
def dailyIssueOld (ctx : OldBonusContext) (fuel : Nat) (alphaList issuerList : List AccountId)
    (account : AccountObject) (ledger : Ledger) : Option (Except Fault Ledger) :=
  if account.id ∈ alphaList then some (.ok ledger)
  else if account.id ∈ issuerList then some (.ok ledger)
  else
    (dailyIssuePassesWalk ctx.histories.nodes ctx.histories.operations ctx.headBlockTime account.id ctx.edc.id
      ctx.precision fuel (ctx.histories.mostRecentOp account.id)).map fun
    | .error e => .error e
    | .ok false => .ok ledger
    | .ok true =>
      let balance := balanceOf account.id ctx.edc.id ledger.balances
      let quantity := ctx.dailyQuantity balance
      if balance = 0 then .ok ledger
      else if quantity < 1 then .ok ledger
      else applyBonusOperation ctx.evaluator
        (.dailyIssue ctx.edc.issuer (ctx.edc.amount (shareOfUInt64 quantity)) account.id 0) ledger

def thenOld (first : Option (Except Fault Ledger)) (rest : Ledger → Option (Except Fault Ledger)) :
    Option (Except Fault Ledger) :=
  match first with
  | some (.ok ledger) => rest ledger
  | stopped => stopped

theorem thenOld_ok {first : Option (Except Fault Ledger)} {rest : Ledger → Option (Except Fault Ledger)}
    {ledger' : Ledger} (run : thenOld first rest = some (.ok ledger')) :
    ∃ ledger, first = some (.ok ledger) ∧ rest ledger = some (.ok ledger') := by
  unfold thenOld at run
  split at run
  · exact ⟨_, rfl, run⟩
  · rename_i notOk
    exact (notOk _ run).elim

def forEachOld {β : Type} (step : β → Ledger → Option (Except Fault Ledger)) :
    List β → Ledger → Option (Except Fault Ledger)
  | [], ledger => some (.ok ledger)
  | item :: rest, ledger => thenOld (step item ledger) (forEachOld step rest)

-- Lines 1167-1256. The referral tree is formed and scanned (`entries`) before the loops, and
-- `asset->issuer(*this)` and `ALPHA_ACCOUNT_ID(*this)` throw when missing.
def issueBonusesOld (ctx : OldBonusContext) (fuel : Nat) (alphaAccount : AccountId) (entries : List ReferralEntry)
    (ledger : Ledger) : Option (Except Fault Ledger) :=
  match findAccount ledger.accounts ctx.edc.issuer, findAccount ledger.accounts alphaAccount with
  | .error e, _ => some (.error e)
  | .ok _, .error e => some (.error e)
  | .ok issuer, .ok alpha =>
    let alphaList := ctx.blacklistedAccounts alpha.id
    let issuerList := ctx.blacklistedAccounts issuer.id
    thenOld (forEachOld (referralIssueOld ctx fuel alphaList issuerList) entries ledger) fun ledger =>
      forEachOld (dailyIssueOld ctx fuel alphaList issuerList) ledger.accounts ledger

theorem forEachOld_keeps {β γ : Type} (view : Ledger → γ) {step : β → Ledger → Option (Except Fault Ledger)}
    {items : List β}
    (keeps : ∀ item ∈ items, ∀ {ledger ledger'}, step item ledger = some (.ok ledger') → view ledger' = view ledger)
    {ledger ledger' : Ledger} (run : forEachOld step items ledger = some (.ok ledger')) :
    view ledger' = view ledger := by
  induction items generalizing ledger with
  | nil =>
    cases run
    rfl
  | cons item rest ih =>
    obtain ⟨next, first, later⟩ := thenOld_ok run
    rw [ih (fun item mem => keeps item (List.mem_cons_of_mem _ mem)) later,
      keeps item (List.mem_cons_self _ _) first]

section Old
variable {γ : Type} (holdings : Ledger → AccountId → AssetId → γ) {ctx : OldBonusContext}

theorem referralIssueOld_keeps (confined : EvaluatorLocal holdings ctx.evaluator) {fuel : Nat}
    {alphaList issuerList : List AccountId} {entry : ReferralEntry} {other : AccountId} {assetId : AssetId}
    (differs : entry.toAccountId ∉ alphaList → entry.toAccountId ∉ issuerList →
      referralNeedContinue ctx.histories.nodes ctx.histories.operations ctx.headBlockTime entry.toAccountId
        ctx.edc.id ctx.precision fuel (ctx.histories.mostRecentOp entry.toAccountId) = some (.ok false) →
      (other, assetId) ≠ (entry.toAccountId, ctx.edc.id))
    {ledger ledger' : Ledger} (run : referralIssueOld ctx fuel alphaList issuerList entry ledger = some (.ok ledger')) :
    holdings ledger' other assetId = holdings ledger other assetId := by
  unfold referralIssueOld at run
  split_ifs at run with alpha issuer
  any_goals (cases run; rfl)
  · split at run
    · cases run
    · obtain ⟨result, walked, issued⟩ := Option.map_eq_some'.mp run
      split at issued
      · cases issued
      · cases issued
        rfl
      · exact applyBonusOperation_changesOnly holdings confined _ issued _ _ (differs alpha issuer walked)

theorem dailyIssueOld_keeps (confined : EvaluatorLocal holdings ctx.evaluator) {fuel : Nat}
    {alphaList issuerList : List AccountId} {account : AccountObject} {other : AccountId} {assetId : AssetId}
    (differs : account.id ∉ alphaList → account.id ∉ issuerList →
      dailyIssuePassesWalk ctx.histories.nodes ctx.histories.operations ctx.headBlockTime account.id ctx.edc.id
        ctx.precision fuel (ctx.histories.mostRecentOp account.id) = some (.ok true) →
      (other, assetId) ≠ (account.id, ctx.edc.id))
    {ledger ledger' : Ledger} (run : dailyIssueOld ctx fuel alphaList issuerList account ledger = some (.ok ledger')) :
    holdings ledger' other assetId = holdings ledger other assetId := by
  unfold dailyIssueOld at run
  split_ifs at run with alpha issuer
  any_goals (cases run; rfl)
  · obtain ⟨result, walked, issued⟩ := Option.map_eq_some'.mp run
    split at issued
    · cases issued
    · cases issued
      rfl
    · dsimp only at issued
      split_ifs at issued with empty small
      any_goals (cases issued; rfl)
      · exact applyBonusOperation_changesOnly holdings confined _ issued _ _ (differs alpha issuer walked)

theorem issueBonusesOld_ok {fuel : Nat} {alphaAccount : AccountId} {entries : List ReferralEntry} {ledger ledger' : Ledger}
    (run : issueBonusesOld ctx fuel alphaAccount entries ledger = some (.ok ledger')) :
    ∃ referred, forEachOld (referralIssueOld ctx fuel (ctx.blacklistedAccounts alphaAccount)
        (ctx.blacklistedAccounts ctx.edc.issuer)) entries ledger = some (.ok referred) ∧
      forEachOld (dailyIssueOld ctx fuel (ctx.blacklistedAccounts alphaAccount) (ctx.blacklistedAccounts ctx.edc.issuer))
        referred.accounts referred = some (.ok ledger') := by
  unfold issueBonusesOld at run
  split at run
  · cases run
  · cases run
  · rename_i issuer alpha foundIssuer foundAlpha
    rw [(findAccount_ok foundIssuer).2, (findAccount_ok foundAlpha).2] at run
    exact thenOld_ok run

theorem issueBonusesOld_keeps (confined : EvaluatorLocal holdings ctx.evaluator) {fuel : Nat} {alphaAccount : AccountId}
    {entries : List ReferralEntry} {other : AccountId} {assetId : AssetId}
    (unreached : ∀ target, target ∉ ctx.blacklistedAccounts alphaAccount →
      target ∉ ctx.blacklistedAccounts ctx.edc.issuer →
      referralNeedContinue ctx.histories.nodes ctx.histories.operations ctx.headBlockTime target ctx.edc.id
          ctx.precision fuel (ctx.histories.mostRecentOp target) = some (.ok false) ∨
        dailyIssuePassesWalk ctx.histories.nodes ctx.histories.operations ctx.headBlockTime target ctx.edc.id
          ctx.precision fuel (ctx.histories.mostRecentOp target) = some (.ok true) →
      (other, assetId) ≠ (target, ctx.edc.id))
    {ledger ledger' : Ledger} (run : issueBonusesOld ctx fuel alphaAccount entries ledger = some (.ok ledger')) :
    holdings ledger' other assetId = holdings ledger other assetId := by
  obtain ⟨referred, referrals, daily⟩ := issueBonusesOld_ok run
  exact (forEachOld_keeps (fun ledger => holdings ledger other assetId) (fun _ _ _ _ step =>
      dailyIssueOld_keeps holdings confined (fun alpha issuer walked => unreached _ alpha issuer (.inr walked)) step)
      daily).trans
    (forEachOld_keeps (fun ledger => holdings ledger other assetId) (fun _ _ _ _ step =>
      referralIssueOld_keeps holdings confined (fun alpha issuer walked => unreached _ alpha issuer (.inl walked)) step)
      referrals)

theorem old_bonuses_leave_blacklisted_holdings (confined : EvaluatorLocal holdings ctx.evaluator) (fuel : Nat)
    (alphaAccount : AccountId) (entries : List ReferralEntry) (account : AccountId) (assetId : AssetId)
    (skipped : assetId ≠ ctx.edc.id ∨ account ∈ ctx.blacklistedAccounts alphaAccount ∨
      account ∈ ctx.blacklistedAccounts ctx.edc.issuer)
    {ledger ledger' : Ledger} (run : issueBonusesOld ctx fuel alphaAccount entries ledger = some (.ok ledger')) :
    holdings ledger' account assetId = holdings ledger account assetId := by
  refine issueBonusesOld_keeps holdings confined (fun target alpha issuer _ => ne_of_untouched ?_ alpha issuer) run
  rcases skipped with away | listed
  · exact .inl fun same => away (congrArg Prod.snd same)
  · exact .inr listed

theorem old_bonuses_pass_over_inactive_accounts (confined : EvaluatorLocal holdings ctx.evaluator) (fuel : Nat)
    (alphaAccount : AccountId) (entries : List ReferralEntry) (account : AccountId)
    {chain : List AccountTransactionHistoryObject}
    (isChain : HistoryChain ctx.histories.nodes (ctx.histories.mostRecentOp account) chain)
    (resolve : OperationsResolve ctx.histories.operations ((ctx.headBlockTime : Int) - 86400) chain)
    (inactive : activeSince ctx.histories.operations ((ctx.headBlockTime : Int) - 86400)
      (HistoryOperation.isActivity account ctx.edc.id ctx.precision) chain = false)
    (assetId : AssetId) {ledger ledger' : Ledger}
    (run : issueBonusesOld ctx fuel alphaAccount entries ledger = some (.ok ledger')) :
    holdings ledger' account assetId = holdings ledger account assetId := by
  refine issueBonusesOld_keeps holdings confined (fun target _ _ walked same => ?_) run
  obtain rfl := (Prod.mk.inj same).1
  rcases walked with walked | walked
  · have decided := referralNeedContinue_ok isChain resolve walked
    rw [inactive] at decided
    cases decided
  · have decided := dailyIssuePassesWalk_ok isChain resolve walked
    rw [inactive] at decided
    cases decided

end Old

def oldBonusContext : OldBonusContext where
  evaluator := bookedEvaluator
  histories :=
    { nodes := [{ id := 30, operationId := 300, blockTime := 99000 }, { id := 40, operationId := 400, blockTime := 99000 },
        { id := 50, operationId := 500, blockTime := 9000 }]
      operations := [{ id := 300, op := .transfer 3 1 1 }, { id := 400, op := .transfer 4 1 1 },
        { id := 500, op := .transfer 5 1 1 }]
      mostRecentOp := fun account => if 3 ≤ account then 10 * account else 0 }
  headBlockTime := 100000
  precision := 1
  edc := { id := 1, issuer := 1 }
  blacklistedAccounts := fun account => if account = 1 then [3] else []
  dailyQuantity := fun balance => balance.toNat * 65 / 10000

def oldBonusLedger : Ledger where
  accounts := [{ id := 1 }, { id := 2 }, { id := 3 }, { id := 4 }, { id := 5 }]
  balances := [{ owner := 3, assetType := 1, balance := 1000 }, { owner := 4, assetType := 1, balance := 1000 },
    { owner := 5, assetType := 1, balance := 1000 }]

def oldReferralEntries : List ReferralEntry := [⟨3, 5, [], 0⟩, ⟨4, 5, [], 0⟩, ⟨5, 5, [], 0⟩]

theorem old_bonuses_skip_issuer_blacklist :
    ∃ ledger', issueBonusesOld oldBonusContext 2 2 oldReferralEntries oldBonusLedger = some (.ok ledger') ∧
      balanceOf 3 1 ledger'.balances = balanceOf 3 1 oldBonusLedger.balances :=
  ⟨_, rfl, @old_bonuses_leave_blacklisted_holdings _ (fun ledger account asset => balanceOf account asset ledger.balances)
    oldBonusContext bookedEvaluator_local 2 2 oldReferralEntries 3 1 (by decide) _ _ rfl⟩

theorem old_bonuses_skip_stale_sender :
    ∃ ledger', issueBonusesOld oldBonusContext 2 2 oldReferralEntries oldBonusLedger = some (.ok ledger') ∧
      balanceOf 5 1 ledger'.balances = balanceOf 5 1 oldBonusLedger.balances :=
  ⟨_, rfl, @old_bonuses_pass_over_inactive_accounts _ (fun ledger account asset => balanceOf account asset ledger.balances)
    oldBonusContext bookedEvaluator_local 2 2 oldReferralEntries 5 _ (.node (by decide) rfl .null)
    (fun _ stale => by simp [oldBonusContext] at stale) (by decide) 1 _ _ rfl⟩

end Graphene.Chain
