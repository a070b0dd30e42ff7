import GrapheneMaintenance.IssueBonuses

set_option autoImplicit false

/- `database::issue_bonuses_before_620`, lines 1081-1165, which runs between `HARDFORK_617_TIME`
   and `HARDFORK_620_TIME`. One pass over the accounts processes each account's bonus balances, then
   gives it a daily EDC bonus from its mature balance and, when the referral tree names it, its
   referral reward. Between `HARDFORK_618_TIME` and `HARDFORK_619_TIME` both are scaled by the part
   of the day the account was online. The `double` arithmetic, the mature balances and the
   referral tree are given functions; the tree is formed and scanned after the mining step, so
   its entries are a function of the ledger then. `online_info` is the map of the
   `accounts_online_object`, and `online_info.at` throws `std::out_of_range` for an account without
   a record, which `catch(...)` turns into the default part. `asset->issuer(*this)` and
   `ALPHA_ACCOUNT_ID(*this)` throw when missing. The pass context also holds the services, none of
   them part of the sources: `consider_mining_old`, `process_bonus_balances`, the two
   `adjust_bonus_balance` overloads, `get_mature_balance`, and the `uint64_t` of
   `0.0065 * balance.value`, of `quantity * online_part` and of `e->quantity * online_part`. -/
namespace Graphene.Chain

inductive OnlinePart where
  | zero
  | one
  | minutes (count : Nat)
deriving DecidableEq, Repr

structure Before620Context where
  evaluator : BonusEvaluator
  considerMiningOld : Ledger → Except Fault Ledger
  processBonusBalances : AccountId → Ledger → Except Fault Ledger
  adjustBonusBalance : AccountId → AssetAmount → Ledger → Except Fault Ledger
  adjustReferralBalance : AccountId → ReferralEntry → Ledger → Except Fault Ledger
  matureBalance : AccountId → AssetId → Ledger → Int
  headBlockTime : Nat
  hardfork618Time : Nat
  hardfork619Time : Nat
  hardfork620Time : Nat
  edc : AssetObject
  blacklistedAccounts : AccountId → List AccountId
  onlineInfo : List (AccountId × Nat)
  dailyQuantity : Int → Nat
  scaleQuantity : Nat → OnlinePart → Nat
  scaleReferral : Int → OnlinePart → Nat

-- Lines 1109-1114.
def onlinePart (ctx : Before620Context) (account : AccountId) : OnlinePart :=
  let defaultPart := if ctx.onlineInfo.isEmpty then OnlinePart.one else .zero
  if ctx.hardfork618Time < ctx.headBlockTime ∧ ctx.headBlockTime < ctx.hardfork619Time ∧ defaultPart = .zero then
    match ctx.onlineInfo.lookup account with
    | some minutes => .minutes minutes
    | none => defaultPart
  else defaultPart

-- Lines 1115-1116.
def scaledQuantity (ctx : Before620Context) (quantity : Nat) (part : OnlinePart) : Nat :=
  if ctx.hardfork618Time < ctx.headBlockTime ∧ ctx.headBlockTime < ctx.hardfork619Time then
    ctx.scaleQuantity quantity part
  else quantity

-- Lines 1118-1130.
def dailyBonusBefore620 (ctx : Before620Context) (account : AccountId) (quantity : Nat) (realBalance : Int)
    (ledger : Ledger) : Except Fault Ledger :=
  if ctx.hardfork620Time < ctx.headBlockTime then
    ctx.adjustBonusBalance account (ctx.edc.amount (shareOfUInt64 quantity)) ledger
  else applyBonusOperation ctx.evaluator
    (.dailyIssue ctx.edc.issuer (ctx.edc.amount (shareOfUInt64 quantity)) account realBalance) ledger

-- Line 1137.
def referralAmount (ctx : Before620Context) (entry : ReferralEntry) (part : OnlinePart) : Nat :=
  if ctx.hardfork618Time < ctx.headBlockTime ∧ ctx.headBlockTime < ctx.hardfork619Time then
    ctx.scaleReferral entry.quantity part
  else wrap64 entry.quantity

-- Lines 1131-1158.
def referralBonusBefore620 (ctx : Before620Context) (account : AccountId) (part : OnlinePart) (realBalance : Int)
    (entries : List ReferralEntry) (ledger : Ledger) : Except Fault Ledger :=
  match entries.find? (·.toAccountId = account) with
  | none => .ok ledger
  | some entry =>
    if ctx.hardfork620Time < ctx.headBlockTime then ctx.adjustReferralBalance account entry ledger
    else applyBonusOperation ctx.evaluator
      (.referralIssue ctx.edc.issuer (ctx.edc.amount (shareOfUInt64 (referralAmount ctx entry part)))
        entry.toAccountId realBalance entry.history entry.rank) ledger

-- Lines 1099-1159.
def bonusStepBefore620 (ctx : Before620Context) (alphaList issuerList : List AccountId)
    (entries : List ReferralEntry) (account : AccountObject) (ledger : Ledger) : Except Fault Ledger := do
  let ledger ← ctx.processBonusBalances account.id ledger
  let realBalance := balanceOf account.id ctx.edc.id ledger.balances
  let balance := ctx.matureBalance account.id ctx.edc.id ledger
  let quantity := ctx.dailyQuantity balance
  if quantity < 1 then .ok ledger
  else if account.id ∈ alphaList then .ok ledger
  else if account.id ∈ issuerList then .ok ledger
  else
    let part := onlinePart ctx account.id
    let quantity := scaledQuantity ctx quantity part
    if quantity < 1 then .ok ledger
    else do
      let ledger ← dailyBonusBefore620 ctx account.id quantity realBalance ledger
      referralBonusBefore620 ctx account.id part realBalance entries ledger

-- Lines 1081-1165.
def issueBonusesBefore620 (ctx : Before620Context) (alphaAccount : AccountId) (referrals : Ledger → List ReferralEntry)
    (ledger : Ledger) : Except Fault Ledger := do
  let ledger ← (if ctx.hardfork619Time < ctx.headBlockTime then ctx.considerMiningOld ledger else .ok ledger)
  let issuer ← findAccount ledger.accounts ctx.edc.issuer
  let alpha ← findAccount ledger.accounts alphaAccount
  let entries := referrals ledger
  let ledger ← ledger.accounts.foldlM (fun ledger account =>
    bonusStepBefore620 ctx (ctx.blacklistedAccounts alpha.id) (ctx.blacklistedAccounts issuer.id) entries account
      ledger) ledger
  if ctx.hardfork620Time < ctx.headBlockTime then
    ledger.accounts.foldlM (fun ledger account => ctx.processBonusBalances account.id ledger) ledger
  else .ok ledger

def OfflineBefore620 (ctx : Before620Context) (account : AccountId) : Prop :=
  (ctx.hardfork618Time < ctx.headBlockTime ∧ ctx.headBlockTime < ctx.hardfork619Time) ∧ ctx.onlineInfo ≠ [] ∧
    ctx.onlineInfo.lookup account = none

theorem onlinePart_of_offline {ctx : Before620Context} {account : AccountId} (offline : OfflineBefore620 ctx account) :
    onlinePart ctx account = .zero := by
  obtain ⟨window, kept, missing⟩ := offline
  have notEmpty : ctx.onlineInfo.isEmpty = false := List.isEmpty_eq_false.mpr kept
  simp only [onlinePart, notEmpty, window, missing]
  rfl

section Before620
variable {γ : Type} (holdings : Ledger → AccountId → AssetId → γ) {ctx : Before620Context}

structure Before620Context.Local (ctx : Before620Context) : Prop where
  evaluator_local : EvaluatorLocal holdings ctx.evaluator
  adjustBonusBalance_changesOnly : ∀ account amount,
    ChangesOnly holdings (ctx.adjustBonusBalance account amount) (account, amount.assetId)
  adjustReferralBalance_changesOnly : ∀ account entry,
    ChangesOnly holdings (ctx.adjustReferralBalance account entry) (account, ctx.edc.id)
  considerMiningOld_keeps : ∀ ⦃ledger ledger' : Ledger⦄, ctx.considerMiningOld ledger = .ok ledger' →
    holdings ledger' = holdings ledger
  processBonusBalances_keeps : ∀ account ⦃ledger ledger' : Ledger⦄,
    ctx.processBonusBalances account ledger = .ok ledger' → holdings ledger' = holdings ledger

theorem dailyBonusBefore620_changesOnly (confined : ctx.Local holdings) (account : AccountId) (quantity : Nat)
    (realBalance : Int) : ChangesOnly holdings (dailyBonusBefore620 ctx account quantity realBalance) (account, ctx.edc.id) := by
  intro ledger ledger' run
  unfold dailyBonusBefore620 at run
  split_ifs at run
  · exact confined.adjustBonusBalance_changesOnly _ _ run
  · exact applyBonusOperation_changesOnly holdings confined.evaluator_local _ run

theorem referralBonusBefore620_changesOnly (confined : ctx.Local holdings) (account : AccountId) (part : OnlinePart)
    (realBalance : Int) (entries : List ReferralEntry) :
    ChangesOnly holdings (referralBonusBefore620 ctx account part realBalance entries) (account, ctx.edc.id) := by
  intro ledger ledger' run
  unfold referralBonusBefore620 at run
  split at run
  · cases run
    exact fun _ _ _ => rfl
  · rename_i entry found
    have named : entry.toAccountId = account := by simpa using List.find?_some found
    subst named
    split_ifs at run
    · exact confined.adjustReferralBalance_changesOnly _ _ run
    · exact applyBonusOperation_changesOnly holdings confined.evaluator_local _ run

theorem bonusStepBefore620_keeps (confined : ctx.Local holdings) (zeroScale : ∀ quantity, ctx.scaleQuantity quantity .zero = 0)
    {alphaList issuerList : List AccountId} {entries : List ReferralEntry} {account : AccountObject}
    {other : AccountId} {assetId : AssetId}
    (untouched : (other, assetId) ≠ (account.id, ctx.edc.id) ∨ other ∈ alphaList ∨ other ∈ issuerList ∨
      OfflineBefore620 ctx other)
    {ledger ledger' : Ledger} (run : bonusStepBefore620 ctx alphaList issuerList entries account ledger = .ok ledger') :
    holdings ledger' other assetId = holdings ledger other assetId := by
  obtain ⟨processed, processRun, run⟩ := bind_eq_ok run
  rw [← confined.processBonusBalances_keeps _ processRun]
  dsimp only at run
  split_ifs at run with small alpha issuer scaledSmall
  any_goals (cases run; rfl)
  · have away : (other, assetId) ≠ (account.id, ctx.edc.id) := by
      rcases untouched with away | listed | listed | offline
      · exact away
      · rintro ⟨⟩
        exact alpha listed
      · rintro ⟨⟩
        exact issuer listed
      · rintro ⟨⟩
        apply scaledSmall
        rw [scaledQuantity, if_pos offline.1, onlinePart_of_offline offline, zeroScale]
        exact Nat.zero_lt_one
    obtain ⟨daily, dailyRun, referralRun⟩ := bind_eq_ok run
    exact (referralBonusBefore620_changesOnly holdings confined _ _ _ _ referralRun _ _ away).trans
      (dailyBonusBefore620_changesOnly holdings confined _ _ _ dailyRun _ _ away)

theorem before_620_bonuses_pass_over (confined : ctx.Local holdings)
    (zeroScale : ∀ quantity, ctx.scaleQuantity quantity .zero = 0) (alphaAccount : AccountId)
    (referrals : Ledger → List ReferralEntry) (account : AccountId) (assetId : AssetId)
    (skipped : assetId ≠ ctx.edc.id ∨ account ∈ ctx.blacklistedAccounts alphaAccount ∨
      account ∈ ctx.blacklistedAccounts ctx.edc.issuer ∨ OfflineBefore620 ctx account)
    {ledger ledger' : Ledger} (run : issueBonusesBefore620 ctx alphaAccount referrals ledger = .ok ledger') :
    holdings ledger' account assetId = holdings ledger account assetId := by
  unfold issueBonusesBefore620 at run
  obtain ⟨mined, miningRun, run⟩ := bind_eq_ok run
  obtain ⟨issuer, foundIssuer, run⟩ := bind_eq_ok run
  obtain ⟨alpha, foundAlpha, run⟩ := bind_eq_ok run
  obtain ⟨stepped, loop, run⟩ := bind_eq_ok run
  have mining : holdings mined = holdings ledger := by
    split_ifs at miningRun
    · exact confined.considerMiningOld_keeps miningRun
    · cases miningRun
      rfl
  have closing : holdings ledger' = holdings stepped := by
    split_ifs at run
    · exact foldlM_keeps holdings (fun _ _ _ _ step => confined.processBonusBalances_keeps _ step) run
    · cases run
      rfl
  rw [(findAccount_ok foundIssuer).2, (findAccount_ok foundAlpha).2] at loop
  rw [closing, ← mining]
  refine foldlM_keeps (fun ledger => holdings ledger account assetId)
    (fun _ _ _ _ step => bonusStepBefore620_keeps holdings confined zeroScale ?_ step) loop
  rcases skipped with away | listed
  · exact .inl fun same => away (congrArg Prod.snd same)
  · exact .inr listed

end Before620

def onlineWindowContext : Before620Context where
  evaluator := bookedEvaluator
  considerMiningOld := .ok
  processBonusBalances := fun _ => .ok
  adjustBonusBalance := fun account amount ledger => .ok (ledger.adjustBalance account amount.assetId amount.amount)
  adjustReferralBalance := fun account entry ledger => .ok (ledger.adjustBalance account 1 entry.quantity)
  matureBalance := fun account asset ledger => balanceOf account asset ledger.balances
  headBlockTime := 150
  hardfork618Time := 100
  hardfork619Time := 200
  hardfork620Time := 300
  edc := { id := 1, issuer := 1 }
  blacklistedAccounts := fun account => if account = 1 then [3] else []
  onlineInfo := [(4, 720)]
  dailyQuantity := fun balance => balance.toNat * 65 / 10000
  scaleQuantity := fun quantity part => match part with
    | .zero => 0
    | .one => quantity
    | .minutes count => quantity * count / 1440
  scaleReferral := fun quantity part => match part with
    | .zero => 0
    | .one => quantity.toNat
    | .minutes count => quantity.toNat * count / 1440

theorem onlineWindowContext_local :
    onlineWindowContext.Local (fun ledger account asset => balanceOf account asset ledger.balances) where
  evaluator_local := bookedEvaluator_local
  adjustBonusBalance_changesOnly := fun _ _ _ _ run _ _ away => by
    cases run
    exact balanceOf_adjustRows_of_ne _ away _
  adjustReferralBalance_changesOnly := fun _ _ _ _ run _ _ away => by
    cases run
    exact balanceOf_adjustRows_of_ne _ away _
  considerMiningOld_keeps := fun _ _ run => by
    cases run
    rfl
  processBonusBalances_keeps := fun _ _ _ run => by
    cases run
    rfl

theorem before_620_bonuses_skip_offline_account :
    ∃ ledger', issueBonusesBefore620 onlineWindowContext 2 (fun _ => [⟨4, 10, [], 0⟩, ⟨5, 10, [], 0⟩]) oldBonusLedger =
      .ok ledger' ∧
      balanceOf 5 1 ledger'.balances = balanceOf 5 1 oldBonusLedger.balances :=
  ⟨_, rfl, @before_620_bonuses_pass_over _ (fun ledger account asset => balanceOf account asset ledger.balances)
    onlineWindowContext onlineWindowContext_local (fun _ => rfl) 2 (fun _ => [⟨4, 10, [], 0⟩, ⟨5, 10, [], 0⟩]) 5 1
    (.inr (.inr (.inr ⟨⟨by decide, by decide⟩, by decide, rfl⟩))) _ _ rfl⟩

end Graphene.Chain
