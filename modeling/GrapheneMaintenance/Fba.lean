import GrapheneMaintenance.Database

set_option autoImplicit false

/- `split_fba_balance` and `distribute_fba_balances`: a fee-backed-asset pool is emptied into
   the network (burnt from the core supply), the designated asset's buyback account and its
   issuer. The percentages arrive as `uint16_t`; the products are `fc::uint128_t`.
   `fba_accumulator_object::is_configured` is not part of the sources: a pool is taken to be
   configured when its designated asset exists and has a buyback account. -/
namespace Graphene.Chain

def FbaAccumulatorObject.isConfigured (fba : FbaAccumulatorObject) (assets : List AssetObject) :
    Bool :=
  match fba.designatedAsset.bind fun id => assets.find? (·.id = id) with
  | some asset => asset.buybackAccount.isSome
  | none => false

def findFba (pools : List FbaAccumulatorObject) (id : Nat) : Except Fault FbaAccumulatorObject :=
  match pools.find? (·.id = id) with
  | some fba => .ok fba
  | none => .error .missingObject

def findAsset (assets : List AssetObject) (id : Option AssetId) : Except Fault AssetObject :=
  match id.bind fun id => assets.find? (·.id = id) with
  | some asset => .ok asset
  | none => .error .missingObject

def emptyPool (pools : List FbaAccumulatorObject) (id : Nat) : List FbaAccumulatorObject :=
  pools.map fun fba => if fba.id = id then { fba with accumulatedFbaFees := 0 } else fba

def ObjectDatabase.setCurrentSupply (db : ObjectDatabase) (supply : Int) : ObjectDatabase :=
  { db with ledger.core.dynamicData.currentSupply := supply }

def ObjectDatabase.emptyFbaPool (db : ObjectDatabase) (fbaId : Nat) : ObjectDatabase :=
  { db with fbaAccumulators := emptyPool db.fbaAccumulators fbaId }

def deref {α : Type} : Option α → Except Fault α
  | some a => .ok a
  | none => .error .missingObject

-- Lines 557-566: `floor(amount * pct / 100%)` through a `fc::uint128_t`, then `to_uint64()`.
def fbaShare (graphene100Percent : Nat) (amount : Int) (pct : Nat) : Except Fault Int := do
  let share ← toUInt64 (wrap128 amount * pct % 2 ^ 128 / graphene100Percent)
  .ok (shareOfUInt64 share)

-- Lines 575-580.
def burnNetworkAmount (networkAmount : Int) (db : ObjectDatabase) : Except Fault ObjectDatabase :=
  if networkAmount ≠ 0 then do
    let supply ← shareSub db.currentSupply networkAmount
    .ok (db.setCurrentSupply supply)
  else .ok db

-- Lines 582-600.
def creditFba (account : AccountId) (fbaId : Nat) (amount : Int) (db : ObjectDatabase) :
    ObjectDatabase :=
  if amount ≠ 0 then
    { db with ledger := db.ledger.adjustBalance account 0 amount,
              appliedOperations := db.appliedOperations ++ [.fbaDistribute account fbaId amount] }
  else db

-- Lines 529-605.
def splitFbaBalance (graphene100Percent : Nat) (fbaId : Nat)
    (networkPct designatedAssetBuybackPct designatedAssetIssuerPct : Nat) (db : ObjectDatabase) :
    Except Fault ObjectDatabase := do
  check (networkPct + designatedAssetBuybackPct + designatedAssetIssuerPct = graphene100Percent)
    .assertion
  let fba ← findFba db.fbaAccumulators fbaId
  if fba.accumulatedFbaFees = 0 then return db
  if !fba.isConfigured db.assets then
    let supply ← shareSub db.currentSupply fba.accumulatedFbaFees
    return (db.setCurrentSupply supply).emptyFbaPool fbaId
  let buybackAmount ← fbaShare graphene100Percent fba.accumulatedFbaFees designatedAssetBuybackPct
  let issuerAmount ← fbaShare graphene100Percent fba.accumulatedFbaFees designatedAssetIssuerPct
  let credited ← shareAdd buybackAmount issuerAmount
  check (credited ≤ fba.accumulatedFbaFees) .assertion
  let networkAmount ← shareSub fba.accumulatedFbaFees credited
  let designatedAsset ← findAsset db.assets fba.designatedAsset
  let db ← burnNetworkAmount networkAmount db
  let buybackAccount ← deref designatedAsset.buybackAccount
  let db := creditFba buybackAccount fbaId buybackAmount db
  let db := creditFba designatedAsset.issuer fbaId issuerAmount db
  return db.emptyFbaPool fbaId

-- Lines 607-612, each percentage cast to `uint16_t`.
def distributeFbaBalances (graphene100Percent graphene1Percent : Nat)
    (transferToBlind blindTransfer transferFromBlind : Nat) (db : ObjectDatabase) :
    Except Fault ObjectDatabase := do
  let split := fun fbaId => splitFbaBalance graphene100Percent fbaId ((20 * graphene1Percent) % 2 ^ 16)
    ((60 * graphene1Percent) % 2 ^ 16) ((20 * graphene1Percent) % 2 ^ 16)
  let db ← split transferToBlind db
  let db ← split blindTransfer db
  split transferFromBlind db

@[simp] theorem creditFba_schedule (account : AccountId) (fbaId : Nat) (amount : Int) (db : ObjectDatabase) :
    (creditFba account fbaId amount db).schedule = db.schedule := by
  unfold creditFba
  split <;> rfl

theorem burnNetworkAmount_schedule {networkAmount : Int} {db db' : ObjectDatabase}
    (run : burnNetworkAmount networkAmount db = .ok db') : db'.schedule = db.schedule := by
  unfold burnNetworkAmount at run
  split at run
  · obtain ⟨supply, -, run⟩ := bind_eq_ok run
    cases run
    rfl
  · cases run
    rfl

theorem splitFbaBalance_schedule {P fbaId networkPct buybackPct issuerPct : Nat} {db db' : ObjectDatabase}
    (run : splitFbaBalance P fbaId networkPct buybackPct issuerPct db = .ok db') : db'.schedule = db.schedule := by
  unfold splitFbaBalance at run
  obtain ⟨-, -, run⟩ := bind_eq_ok run
  obtain ⟨fba, -, run⟩ := bind_eq_ok run
  simp only [pure_bind] at run
  split at run
  · cases run
    rfl
  split at run
  · obtain ⟨supply, -, run⟩ := bind_eq_ok run
    cases run
    rfl
  obtain ⟨buyback, -, run⟩ := bind_eq_ok run
  obtain ⟨issuer, -, run⟩ := bind_eq_ok run
  obtain ⟨credited, -, run⟩ := bind_eq_ok run
  obtain ⟨-, -, run⟩ := bind_eq_ok run
  obtain ⟨network, -, run⟩ := bind_eq_ok run
  obtain ⟨asset, -, run⟩ := bind_eq_ok run
  obtain ⟨burnt, burn, run⟩ := bind_eq_ok run
  obtain ⟨account, -, run⟩ := bind_eq_ok run
  cases run
  rw [← burnNetworkAmount_schedule burn]
  exact (creditFba_schedule _ _ _ _).trans (creditFba_schedule _ _ _ _)

theorem distributeFbaBalances_schedule {P onePercent transferToBlind blindTransfer transferFromBlind : Nat}
    {db db' : ObjectDatabase}
    (run : distributeFbaBalances P onePercent transferToBlind blindTransfer transferFromBlind db = .ok db') :
    db'.schedule = db.schedule := by
  obtain ⟨first, firstRun, run⟩ := bind_eq_ok run
  obtain ⟨second, secondRun, run⟩ := bind_eq_ok run
  rw [splitFbaBalance_schedule run, splitFbaBalance_schedule secondRun, splitFbaBalance_schedule firstRun]

def poolFees (pools : List FbaAccumulatorObject) (id : Nat) : Int :=
  match pools.find? (·.id = id) with
  | some fba => fba.accumulatedFbaFees
  | none => 0

def fbaConserved (db : ObjectDatabase) (fbaId : Nat) : Int :=
  db.currentSupply - poolFees db.fbaAccumulators fbaId - coreBalanceTotal db.ledger.balances

def creditRows (account : AccountId) (amount : Int) (rows : List AccountBalanceObject) :
    List AccountBalanceObject :=
  if amount ≠ 0 then adjustRows account 0 amount rows else rows

section Frames

variable (db : ObjectDatabase) (supply : Int) (fbaId : Nat) (account : AccountId) (amount : Int)

@[simp] theorem setCurrentSupply_currentSupply : (db.setCurrentSupply supply).currentSupply = supply := rfl
@[simp] theorem setCurrentSupply_balances :
    (db.setCurrentSupply supply).ledger.balances = db.ledger.balances := rfl
@[simp] theorem setCurrentSupply_fbaAccumulators :
    (db.setCurrentSupply supply).fbaAccumulators = db.fbaAccumulators := rfl
@[simp] theorem setCurrentSupply_assets : (db.setCurrentSupply supply).assets = db.assets := rfl
@[simp] theorem emptyFbaPool_currentSupply : (db.emptyFbaPool fbaId).currentSupply = db.currentSupply := rfl
@[simp] theorem emptyFbaPool_balances : (db.emptyFbaPool fbaId).ledger.balances = db.ledger.balances := rfl
@[simp] theorem emptyFbaPool_fbaAccumulators :
    (db.emptyFbaPool fbaId).fbaAccumulators = emptyPool db.fbaAccumulators fbaId := rfl

@[simp] theorem creditFba_balances :
    (creditFba account fbaId amount db).ledger.balances = creditRows account amount db.ledger.balances := by
  unfold creditFba creditRows
  split <;> rfl

@[simp] theorem creditFba_currentSupply : (creditFba account fbaId amount db).currentSupply = db.currentSupply := by
  unfold creditFba
  split <;> rfl

@[simp] theorem creditFba_fbaAccumulators :
    (creditFba account fbaId amount db).fbaAccumulators = db.fbaAccumulators := by
  unfold creditFba
  split <;> rfl

end Frames

theorem poolFees_of_findFba {pools : List FbaAccumulatorObject} {id : Nat} {fba : FbaAccumulatorObject}
    (found : findFba pools id = .ok fba) : poolFees pools id = fba.accumulatedFbaFees := by
  unfold findFba at found
  unfold poolFees
  split at found <;> simp_all

theorem poolFees_emptyPool (pools : List FbaAccumulatorObject) (id : Nat) :
    poolFees (emptyPool pools id) id = 0 := by
  induction pools with
  | nil => rfl
  | cons fba rest ih =>
    by_cases same : fba.id = id
    · simp [poolFees, emptyPool, same]
    · simpa [poolFees, emptyPool, same] using ih

theorem poolFees_emptyPool_of_ne (pools : List FbaAccumulatorObject) {id other : Nat} (different : other ≠ id) :
    poolFees (emptyPool pools id) other = poolFees pools other := by
  have keepsId : ((fun fba : FbaAccumulatorObject => decide (fba.id = other)) ∘
      fun fba => if fba.id = id then { fba with accumulatedFbaFees := 0 } else fba) = fun fba => decide (fba.id = other) := by
    funext fba
    by_cases same : fba.id = id <;> simp [same]
  unfold poolFees emptyPool
  rw [List.find?_map, keepsId]
  cases found : pools.find? (·.id = other) with
  | none => rfl
  | some fba =>
    have hit : fba.id = other := by simpa using List.find?_some found
    simp [hit, different]

theorem coreBalanceTotal_creditRows (account : AccountId) (amount : Int) (rows : List AccountBalanceObject) :
    coreBalanceTotal (creditRows account amount rows) = coreBalanceTotal rows + amount := by
  unfold creditRows
  split
  · exact coreBalanceTotal_adjustRows account amount rows
  · omega

theorem fba_shares_le (a n b i : Nat) :
    a * n / (n + b + i) + a * b / (n + b + i) + a * i / (n + b + i) ≤ a := by
  rcases Nat.eq_zero_or_pos (n + b + i) with zero | pos
  · simp [zero]
  · have hn := Nat.div_mul_le_self (a * n) (n + b + i)
    have hb := Nat.div_mul_le_self (a * b) (n + b + i)
    have hi := Nat.div_mul_le_self (a * i) (n + b + i)
    refine Nat.le_of_mul_le_mul_right ?_ pos
    calc (a * n / (n + b + i) + a * b / (n + b + i) + a * i / (n + b + i)) * (n + b + i)
        = a * n / (n + b + i) * (n + b + i) + a * b / (n + b + i) * (n + b + i) +
            a * i / (n + b + i) * (n + b + i) := by rw [Nat.add_mul, Nat.add_mul]
      _ ≤ a * n + a * b + a * i := by omega
      _ = a * (n + b + i) := by rw [Nat.mul_add, Nat.mul_add]

theorem fba_shares_fit (a n b i : Nat) :
    a * b / (n + b + i) + a * i / (n + b + i) ≤ a ∧
    a * n / (n + b + i) ≤ a - a * b / (n + b + i) - a * i / (n + b + i) := by
  have := fba_shares_le a n b i
  generalize a * n / (n + b + i) = x at *
  generalize a * b / (n + b + i) = y at *
  generalize a * i / (n + b + i) = z at *
  omega

theorem fbaShare_eq {P fees pct : Nat} (feesBound : fees < 2 ^ 63) (pctBound : pct < 2 ^ 16)
    (share : fees * pct / P ≤ fees) : fbaShare P fees pct = .ok (fees * pct / P : Nat) := by
  have product : fees * pct < 2 ^ 128 := by
    calc fees * pct < 2 ^ 63 * 2 ^ 16 := Nat.mul_lt_mul'' feesBound pctBound
      _ < 2 ^ 128 := by decide
  rw [fbaShare, wrap128_nat_of_lt (by omega), Nat.mod_eq_of_lt product,
    toUInt64_of_lt (by omega)]
  exact congrArg Except.ok (shareOfUInt64_of_lt (by omega))

theorem burnNetworkAmount_eq {network : Nat} {db : ObjectDatabase} (networkBound : network < 2 ^ 63)
    (supplyLow : 0 ≤ db.currentSupply) (supplyHigh : db.currentSupply < 2 ^ 63) :
    burnNetworkAmount network db =
      .ok (if network ≠ 0 then db.setCurrentSupply (db.currentSupply - network) else db) := by
  unfold burnNetworkAmount
  by_cases zero : network = 0
  · simp [zero]
  · simp only [ne_eq, Int.ofNat_eq_zero, zero, not_false_eq_true, if_true]
    rw [shareSub_of_range (by unfold InShareRange; omega)]
    rfl

theorem burnt_currentSupply (network : Nat) (db : ObjectDatabase) :
    (if network ≠ 0 then db.setCurrentSupply (db.currentSupply - network) else db).currentSupply =
      db.currentSupply - network := by
  split <;> simp_all

theorem burnt_balances (network : Nat) (db : ObjectDatabase) :
    (if network ≠ 0 then db.setCurrentSupply (db.currentSupply - network) else db).ledger.balances =
      db.ledger.balances := by
  split <;> rfl

theorem isConfigured_asset {fba : FbaAccumulatorObject} {assets : List AssetObject}
    (configured : fba.isConfigured assets = true) :
    ∃ asset buybackAccount, findAsset assets fba.designatedAsset = .ok asset ∧
      asset.buybackAccount = some buybackAccount := by
  unfold FbaAccumulatorObject.isConfigured at configured
  unfold findAsset
  split at configured
  · rename_i asset found
    obtain ⟨buybackAccount, has⟩ := Option.isSome_iff_exists.mp configured
    exact ⟨asset, buybackAccount, by simp [found], has⟩
  · cases configured

theorem splitFbaBalance_configured {P fbaId networkPct buybackPct issuerPct : Nat} {db : ObjectDatabase}
    {fba : FbaAccumulatorObject} {fees buyback issuer : Nat} {asset : AssetObject}
    {buybackAccount : AccountId}
    (pool : findFba db.fbaAccumulators fbaId = .ok fba) (feesValue : fba.accumulatedFbaFees = fees)
    (nonzero : fees ≠ 0) (configured : fba.isConfigured db.assets = true)
    (found : findAsset db.assets fba.designatedAsset = .ok asset)
    (has : asset.buybackAccount = some buybackAccount)
    (total : networkPct + buybackPct + issuerPct = P) (feesBound : fees < 2 ^ 63)
    (buybackBound : buybackPct < 2 ^ 16) (issuerBound : issuerPct < 2 ^ 16)
    (buybackValue : fees * buybackPct / P = buyback) (issuerValue : fees * issuerPct / P = issuer)
    (fit : buyback + issuer ≤ fees) :
    splitFbaBalance P fbaId networkPct buybackPct issuerPct db =
      (burnNetworkAmount (fees - (buyback + issuer) : Nat) db).map fun burnt =>
        (creditFba asset.issuer fbaId issuer (creditFba buybackAccount fbaId buyback burnt)).emptyFbaPool fbaId := by
  rw [splitFbaBalance, total]
  simp only [check, eq_self_iff_true, decide_True, if_true, pure_bind, ok_bind, pool, feesValue,
    Int.ofNat_eq_zero, nonzero, if_false, configured, Bool.not_true]
  rw [fbaShare_eq feesBound buybackBound (by omega), fbaShare_eq feesBound issuerBound (by omega)]
  simp only [ok_bind, buybackValue, issuerValue]
  rw [shareAdd_of_range (by unfold InShareRange; omega)]
  have within : (buyback : Int) + issuer ≤ fees := by omega
  simp only [ok_bind, found, Bool.false_eq_true, if_false, within, decide_True, if_true, pure_bind]
  rw [shareSub_of_range (by unfold InShareRange; omega), ok_bind,
    show (fees : Int) - (buyback + issuer) = ((fees - (buyback + issuer) : Nat) : Int) by omega]
  cases burnNetworkAmount (fees - (buyback + issuer) : Nat) db <;> simp [has, deref, Except.map]

theorem splitFbaBalance_empty {P fbaId networkPct buybackPct issuerPct : Nat} {db : ObjectDatabase}
    {fba : FbaAccumulatorObject} (pool : findFba db.fbaAccumulators fbaId = .ok fba)
    (empty : fba.accumulatedFbaFees = 0) (total : networkPct + buybackPct + issuerPct = P) :
    splitFbaBalance P fbaId networkPct buybackPct issuerPct db = .ok db := by
  rw [splitFbaBalance, total]
  simp [check, pool, empty]

theorem splitFbaBalance_unconfigured {P fbaId networkPct buybackPct issuerPct : Nat} {db : ObjectDatabase}
    {fba : FbaAccumulatorObject} {fees : Nat} (pool : findFba db.fbaAccumulators fbaId = .ok fba)
    (feesValue : fba.accumulatedFbaFees = fees) (nonzero : fees ≠ 0)
    (unconfigured : fba.isConfigured db.assets = false) (total : networkPct + buybackPct + issuerPct = P)
    (feesBound : fees < 2 ^ 63) (supplyLow : 0 ≤ db.currentSupply) (supplyHigh : db.currentSupply < 2 ^ 63) :
    splitFbaBalance P fbaId networkPct buybackPct issuerPct db =
      .ok ((db.setCurrentSupply (db.currentSupply - fees)).emptyFbaPool fbaId) := by
  rw [splitFbaBalance, total]
  simp only [check, eq_self_iff_true, decide_True, if_true, pure_bind, ok_bind, pool, feesValue,
    Int.ofNat_eq_zero, nonzero, if_false, unconfigured, Bool.not_false]
  rw [shareSub_of_range (by unfold InShareRange; omega)]
  rfl

theorem split_fba_balance_conserves (P fbaId networkPct buybackPct issuerPct : Nat)
    (db : ObjectDatabase) (fba : FbaAccumulatorObject) (fees : Nat)
    (pool : findFba db.fbaAccumulators fbaId = .ok fba) (feesValue : fba.accumulatedFbaFees = fees)
    (feesBound : fees < 2 ^ 63) (buybackBound : buybackPct < 2 ^ 16) (issuerBound : issuerPct < 2 ^ 16)
    (total : networkPct + buybackPct + issuerPct = P)
    (supplyLow : 0 ≤ db.currentSupply) (supplyHigh : db.currentSupply < 2 ^ 63) :
    fees * buybackPct < 2 ^ 128 ∧ fees * issuerPct < 2 ^ 128 ∧
    fees * buybackPct / P + fees * issuerPct / P ≤ fees ∧
    fees * networkPct / P ≤ fees - fees * buybackPct / P - fees * issuerPct / P ∧
    ∃ db', splitFbaBalance P fbaId networkPct buybackPct issuerPct db = .ok db' ∧
      poolFees db'.fbaAccumulators fbaId = 0 ∧ fbaConserved db' fbaId = fbaConserved db fbaId ∧
      (fba.isConfigured db.assets = false →
        db'.currentSupply = db.currentSupply - fees ∧ db'.ledger.balances = db.ledger.balances) ∧
      (fba.isConfigured db.assets = true → ∃ asset buybackAccount,
        findAsset db.assets fba.designatedAsset = .ok asset ∧ asset.buybackAccount = some buybackAccount ∧
        db'.currentSupply =
          db.currentSupply - (fees - fees * buybackPct / P - fees * issuerPct / P : Nat) ∧
        db'.ledger.balances = creditRows asset.issuer (fees * issuerPct / P : Nat)
          (creditRows buybackAccount (fees * buybackPct / P : Nat) db.ledger.balances)) := by
  have product : ∀ pct, pct < 2 ^ 16 → fees * pct < 2 ^ 128 := fun pct bound =>
    calc fees * pct < 2 ^ 63 * 2 ^ 16 := Nat.mul_lt_mul'' feesBound bound
      _ < 2 ^ 128 := by decide
  obtain ⟨fit, networkFit⟩ := fba_shares_fit fees networkPct buybackPct issuerPct
  rw [total] at fit networkFit
  have before := poolFees_of_findFba pool
  refine ⟨product _ buybackBound, product _ issuerBound, fit, networkFit, ?_⟩
  generalize buybackValue : fees * buybackPct / P = buyback at *
  generalize issuerValue : fees * issuerPct / P = issuer at *
  have credits : ∀ account, creditRows account 0 db.ledger.balances = db.ledger.balances := by
    simp [creditRows]
  by_cases empty : fees = 0
  · subst empty
    refine ⟨db, splitFbaBalance_empty pool (by simpa using feesValue) total, by omega, rfl,
      fun _ => ⟨by simp, rfl⟩, fun configured => ?_⟩
    obtain ⟨asset, buybackAccount, found, has⟩ := isConfigured_asset configured
    refine ⟨asset, buybackAccount, found, has, by simp, ?_⟩
    rw [show buyback = 0 by omega, show issuer = 0 by omega]
    simp [credits]
  cases configured : fba.isConfigured db.assets
  · refine ⟨_, splitFbaBalance_unconfigured pool feesValue empty configured total feesBound supplyLow
      supplyHigh, poolFees_emptyPool _ _, ?_, fun _ => ⟨rfl, rfl⟩, fun absurd => by cases absurd⟩
    simp only [fbaConserved, emptyFbaPool_currentSupply, setCurrentSupply_currentSupply,
      emptyFbaPool_fbaAccumulators, poolFees_emptyPool, emptyFbaPool_balances, setCurrentSupply_balances,
      before, feesValue]
    omega
  · obtain ⟨asset, buybackAccount, found, has⟩ := isConfigured_asset configured
    have split := splitFbaBalance_configured pool feesValue empty configured found has total feesBound
      buybackBound issuerBound buybackValue issuerValue fit
    rw [burnNetworkAmount_eq (by omega) supplyLow supplyHigh] at split
    simp only [Except.map] at split
    refine ⟨_, split, ?_, ?_, ?_, ?_⟩
    · simp [poolFees_emptyPool]
    · simp only [fbaConserved, emptyFbaPool_currentSupply, creditFba_currentSupply, burnt_currentSupply,
        emptyFbaPool_fbaAccumulators, poolFees_emptyPool, emptyFbaPool_balances, creditFba_balances,
        coreBalanceTotal_creditRows, burnt_balances, before, feesValue]
      omega
    · intro absurd
      cases absurd
    · intro _
      refine ⟨asset, buybackAccount, found, has, ?_, ?_⟩
      · simp only [emptyFbaPool_currentSupply, creditFba_currentSupply, burnt_currentSupply]
        omega
      · simp only [emptyFbaPool_balances, creditFba_balances, burnt_balances]

def scenarioS5 : ObjectDatabase :=
  { ledger := { core := { dynamicData := { currentSupply := 5000 } } },
    assets := [{ id := 1, issuer := 8, buybackAccount := some 7 }],
    fbaAccumulators := [{ id := 0, accumulatedFbaFees := 1000, designatedAsset := some 1 }] }

theorem split_fba_balance_scenario_s5 :
    ∃ db', splitFbaBalance 10000 0 2000 6000 2000 scenarioS5 = .ok db' ∧
      poolFees db'.fbaAccumulators 0 = 0 ∧ fbaConserved db' 0 = fbaConserved scenarioS5 0 := by
  obtain ⟨-, -, -, -, db', run, empty, conserved, -⟩ := split_fba_balance_conserves 10000 0 2000 6000 2000
    scenarioS5 { id := 0, accumulatedFbaFees := 1000, designatedAsset := some 1 } 1000 rfl rfl
    (by decide) (by decide) (by decide) rfl (by decide) (by decide)
  exact ⟨db', run, empty, conserved⟩

end Graphene.Chain
