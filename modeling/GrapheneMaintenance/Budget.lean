import GrapheneMaintenance.Workers

set_option autoImplicit false

/- `database::initialize_budget_record` and `database::process_budget`, lines 324-469. The
   reserve (the unissued supply, the fees of the interval and the unspent witness budget) is
   spent at `GRAPHENE_CORE_ASSET_CYCLE_RATE / 2^GRAPHENE_CORE_ASSET_CYCLE_RATE_BITS` per second
   since the last budget; witnesses are budgeted for the blocks up to the next maintenance and
   workers for its seconds, and what the workers leave evaporates back into the reserve. The
   two `assert`s abort. -/
namespace Graphene.Chain

-- Lines 353-359: the budget for `dt` seconds rounded up, in `fc::uint128_t`. The rounding term
-- `(uint64_t(1) << BITS) - 1` is `uint64_t` arithmetic.
def cycleBudget (coreAssetCycleRate coreAssetCycleRateBits : Nat) (reserve : Int) (dt : Nat) : Nat :=
  let budget := wrap128 reserve * dt % 2 ^ 128 * coreAssetCycleRate % 2 ^ 128
  (budget + wrap64 ((2 ^ coreAssetCycleRateBits % 2 ^ 64 : Nat) - 1 : Int)) % 2 ^ 128 /
    2 ^ coreAssetCycleRateBits

-- Lines 324-373.
def initializeBudgetRecord (coreAssetCycleRate coreAssetCycleRateBits : Nat) (now : Nat)
    (db : ObjectDatabase) : Except Fault BudgetRecord := do
  let fromInitialReserve ← db.reserved
  let record : BudgetRecord :=
    { fromInitialReserve := fromInitialReserve
      fromAccumulatedFees := db.ledger.core.dynamicData.accumulatedFees
      fromUnusedWitnessBudget := db.dgpo.witnessBudget }
  if db.dgpo.lastBudgetTime = 0 ∨ now ≤ db.dgpo.lastBudgetTime then
    .ok { record with timeSinceLastBudget := 0 }
  else
    let dt := now - db.dgpo.lastBudgetTime
    let reserve ← shareAdd record.fromInitialReserve db.ledger.core.dynamicData.accumulatedFees
    let reserve ← shareAdd reserve db.dgpo.witnessBudget
    let budget := cycleBudget coreAssetCycleRate coreAssetCycleRateBits reserve dt
    if budget < wrap128 reserve then do
      let total ← toUInt64 budget
      .ok { record with timeSinceLastBudget := dt, totalBudget := shareOfUInt64 total }
    else .ok { record with timeSinceLastBudget := dt, totalBudget := reserve }

-- Line 390, in `uint64_t`.
def blocksToMaint (timeToMaint : Int) (blockInterval : Nat) : Nat :=
  wrap64 (timeToMaint + blockInterval - 1) / blockInterval

-- Lines 408-422: the worker budget for `time_to_maint` seconds in `fc::uint128_t`, capped by the
-- funds left; the comparison widens `available_funds` to 128 bits.
def workerBudgetFor (workerBudgetPerDay timeToMaint availableFunds : Int) : Except Fault Int :=
  let budget := wrap128 workerBudgetPerDay * wrap64 timeToMaint % 2 ^ 128 / (60 * 60 * 24)
  if wrap128 availableFunds ≤ budget then .ok availableFunds
  else do
    let budget ← toUInt64 budget
    .ok (shareOfUInt64 budget)

-- Lines 429-433 and the assert of lines 439-445.
def budgetDelta (a b c d e : Int) : Except Fault Int := do
  let sum ← shareAdd a b
  let sum ← shareSub sum c
  let sum ← shareSub sum d
  shareSub sum e

-- Lines 375-469.
def processBudget (coreAssetCycleRate coreAssetCycleRateBits : Nat) (nullAccount : AccountId)
    (db : ObjectDatabase) : Except Fault ObjectDatabase := do
  let now := db.headBlockTime
  let timeToMaint : Int := (db.dgpo.nextMaintenanceTime : Int) - now
  check (0 < timeToMaint) .abort
  check (0 < db.gpo.parameters.blockInterval) .abort
  let blocks := blocksToMaint timeToMaint db.gpo.parameters.blockInterval
  let record ← initializeBudgetRecord coreAssetCycleRate coreAssetCycleRateBits now db
  let availableFunds := record.totalBudget
  let witnessBudget := shareOfUInt64 (wrap64 (db.gpo.parameters.witnessPayPerBlock * blocks))
  let record := { record with requestedWitnessBudget := witnessBudget }
  let witnessBudget := min witnessBudget availableFunds
  let record := { record with witnessBudget := witnessBudget }
  let availableFunds ← shareSub availableFunds witnessBudget
  let workerBudget ← workerBudgetFor db.gpo.parameters.workerBudgetPerDay timeToMaint availableFunds
  let record := { record with workerBudget := workerBudget }
  let availableFunds ← shareSub availableFunds workerBudget
  let (leftoverWorkerFunds, db) ← payWorkers nullAccount workerBudget db
  let record := { record with leftoverWorkerFunds := leftoverWorkerFunds }
  let _ ← shareAdd availableFunds leftoverWorkerFunds
  let supplyDelta ← budgetDelta record.witnessBudget record.workerBudget record.leftoverWorkerFunds
    record.fromAccumulatedFees record.fromUnusedWitnessBudget
  let record := { record with supplyDelta := supplyDelta }
  let core := db.ledger.core.dynamicData
  let currentSupply ← shareAdd core.currentSupply supplyDelta
  let expected ← budgetDelta witnessBudget workerBudget leftoverWorkerFunds core.accumulatedFees
    db.dgpo.witnessBudget
  check (supplyDelta = expected) .abort
  .ok { db with
    ledger.core.dynamicData := { core with currentSupply := currentSupply, accumulatedFees := 0 }
    dgpo := { db.dgpo with witnessBudget := witnessBudget, lastBudgetTime := now }
    budgetRecords := db.budgetRecords ++ [⟨now, record⟩] }

theorem processBudget_deadline {coreAssetCycleRate coreAssetCycleRateBits : Nat} {nullAccount : AccountId}
    {db db' : ObjectDatabase} (run : processBudget coreAssetCycleRate coreAssetCycleRateBits nullAccount db = .ok db') :
    db'.dgpo.nextMaintenanceTime = db.dgpo.nextMaintenanceTime ∧ db'.headBlockTime = db.headBlockTime := by
  unfold processBudget at run
  obtain ⟨-, -, run⟩ := bind_eq_ok run
  obtain ⟨-, -, run⟩ := bind_eq_ok run
  obtain ⟨record, -, run⟩ := bind_eq_ok run
  obtain ⟨available, -, run⟩ := bind_eq_ok run
  obtain ⟨workerBudget, -, run⟩ := bind_eq_ok run
  obtain ⟨available', -, run⟩ := bind_eq_ok run
  obtain ⟨⟨leftover, paid⟩, pay, run⟩ := bind_eq_ok run
  dsimp only at run
  obtain ⟨-, -, run⟩ := bind_eq_ok run
  obtain ⟨delta, -, run⟩ := bind_eq_ok run
  obtain ⟨supply, -, run⟩ := bind_eq_ok run
  obtain ⟨expected, -, run⟩ := bind_eq_ok run
  obtain ⟨-, -, run⟩ := bind_eq_ok run
  cases run
  obtain ⟨⟨budget, ledger⟩, -, pay⟩ := bind_eq_ok pay
  cases pay
  exact ⟨rfl, rfl⟩

theorem processBudget_inv {coreAssetCycleRate coreAssetCycleRateBits : Nat} {nullAccount : AccountId}
    {db db' : ObjectDatabase} (run : processBudget coreAssetCycleRate coreAssetCycleRateBits nullAccount db = .ok db') :
    ∃ ledger witnessBudget initial record,
      db' = { db with
        ledger := ledger
        dgpo := { db.dgpo with witnessBudget := witnessBudget, lastBudgetTime := db.headBlockTime }
        budgetRecords := db.budgetRecords ++ [⟨db.headBlockTime, record⟩] } ∧
      initializeBudgetRecord coreAssetCycleRate coreAssetCycleRateBits db.headBlockTime db = .ok initial ∧
      record.timeSinceLastBudget = initial.timeSinceLastBudget := by
  unfold processBudget at run
  obtain ⟨_, -, run⟩ := bind_eq_ok run
  obtain ⟨_, -, run⟩ := bind_eq_ok run
  obtain ⟨record, initialized, run⟩ := bind_eq_ok run
  obtain ⟨available, -, run⟩ := bind_eq_ok run
  obtain ⟨workerBudget, -, run⟩ := bind_eq_ok run
  obtain ⟨available', -, run⟩ := bind_eq_ok run
  obtain ⟨⟨leftover, paid⟩, pay, run⟩ := bind_eq_ok run
  dsimp only at run
  obtain ⟨_, -, run⟩ := bind_eq_ok run
  obtain ⟨delta, -, run⟩ := bind_eq_ok run
  obtain ⟨supply, -, run⟩ := bind_eq_ok run
  obtain ⟨expected, -, run⟩ := bind_eq_ok run
  obtain ⟨_, -, run⟩ := bind_eq_ok run
  cases run
  obtain ⟨⟨budget, ledger⟩, -, pay⟩ := bind_eq_ok pay
  cases pay
  exact ⟨_, _, record, _, rfl, initialized, rfl⟩

theorem initializeBudgetRecord_timeSinceLastBudget {coreAssetCycleRate coreAssetCycleRateBits now : Nat}
    {db : ObjectDatabase} {record : BudgetRecord}
    (run : initializeBudgetRecord coreAssetCycleRate coreAssetCycleRateBits now db = .ok record) :
    record.timeSinceLastBudget =
      if db.dgpo.lastBudgetTime = 0 ∨ now ≤ db.dgpo.lastBudgetTime then 0 else now - db.dgpo.lastBudgetTime := by
  unfold initializeBudgetRecord at run
  obtain ⟨reserve, -, run⟩ := bind_eq_ok run
  split_ifs at run with first
  · cases run
    rw [if_pos first]
  · rw [if_neg first]
    obtain ⟨_, -, run⟩ := bind_eq_ok run
    obtain ⟨_, -, run⟩ := bind_eq_ok run
    dsimp only at run
    split_ifs at run
    · obtain ⟨_, -, run⟩ := bind_eq_ok run
      cases run
      rfl
    · cases run
      rfl

theorem processBudget_after_head {coreAssetCycleRate coreAssetCycleRateBits : Nat} {nullAccount : AccountId}
    {db db' : ObjectDatabase} (run : processBudget coreAssetCycleRate coreAssetCycleRateBits nullAccount db = .ok db') :
    db.headBlockTime < db.dgpo.nextMaintenanceTime := by
  unfold processBudget at run
  obtain ⟨_, checked, -⟩ := bind_eq_ok run
  have := check_eq_ok checked
  simp only [decide_eq_true_eq] at this
  omega

def ObjectDatabase.reserve (db : ObjectDatabase) : Int :=
  db.ledger.core.maxSupply - db.currentSupply + db.ledger.core.dynamicData.accumulatedFees +
    db.dgpo.witnessBudget

def ObjectDatabase.budgetBalance (db : ObjectDatabase) : Int :=
  db.currentSupply - db.ledger.core.dynamicData.accumulatedFees - db.dgpo.witnessBudget

def ObjectDatabase.refundedPay (db : ObjectDatabase) (workerBudget : Int) : Int :=
  refundTotal (payroll (proratedPay db.timeSinceBudget) (activeWorkers db) workerBudget)

section
variable (db : ObjectDatabase)

structure ReserveInRange : Prop where
  supplyLow : 0 ≤ db.currentSupply
  supplyHigh : db.currentSupply ≤ db.ledger.core.maxSupply
  maxFits : db.ledger.core.maxSupply < 2 ^ 63
  feesLow : 0 ≤ db.ledger.core.dynamicData.accumulatedFees
  witnessBudgetLow : 0 ≤ db.dgpo.witnessBudget
  reserveFits : db.reserve < 2 ^ 63

variable {db}

theorem initializeBudgetRecord_spec (coreAssetCycleRate coreAssetCycleRateBits now : Nat)
    (range : ReserveInRange db) :
    ∃ record, initializeBudgetRecord coreAssetCycleRate coreAssetCycleRateBits now db = .ok record ∧
      record.fromInitialReserve = db.ledger.core.maxSupply - db.currentSupply ∧
      record.fromAccumulatedFees = db.ledger.core.dynamicData.accumulatedFees ∧
      record.fromUnusedWitnessBudget = db.dgpo.witnessBudget ∧
      0 ≤ record.totalBudget ∧ record.totalBudget ≤ db.reserve := by
  obtain ⟨supplyLow, supplyHigh, maxFits, feesLow, witnessBudgetLow, reserveFits⟩ := range
  simp only [ObjectDatabase.reserve, ObjectDatabase.currentSupply] at *
  have reserved : db.reserved = .ok (db.ledger.core.maxSupply - db.ledger.core.dynamicData.currentSupply) :=
    shareSub_of_range (by unfold InShareRange; omega)
  simp only [initializeBudgetRecord, reserved, ok_bind]
  split
  · exact ⟨_, rfl, rfl, rfl, rfl, le_refl 0, by simp only; omega⟩
  · rw [shareAdd_of_range (by unfold InShareRange; omega), ok_bind,
      shareAdd_of_range (by unfold InShareRange; omega), ok_bind]
    have wide := wrap128_of_range (x := db.ledger.core.maxSupply - db.ledger.core.dynamicData.currentSupply +
      db.ledger.core.dynamicData.accumulatedFees + db.dgpo.witnessBudget) (by omega) (by omega)
    split
    · rename_i below
      rw [toUInt64_of_lt (by omega), ok_bind, shareOfUInt64_of_lt (by omega)]
      exact ⟨_, rfl, rfl, rfl, rfl, by simp only; omega, by simp only; omega⟩
    · exact ⟨_, rfl, rfl, rfl, rfl, by simp only; omega, le_refl _⟩

end

-- Lines 330 and 349-352: the reserve the budget is cut from, in `share_type`.
def ObjectDatabase.budgetReserve (db : ObjectDatabase) : Except Fault Int := do
  let reserved ← db.reserved
  let reserve ← shareAdd reserved db.ledger.core.dynamicData.accumulatedFees
  shareAdd reserve db.dgpo.witnessBudget

theorem roundingTerm_eq {bits : Nat} (bitsFit : bits ≤ 64) :
    wrap64 ((2 ^ bits % 2 ^ 64 : Nat) - 1 : Int) = 2 ^ bits - 1 := by
  rcases Nat.lt_or_eq_of_le bitsFit with below | rfl
  · have small : 2 ^ bits < 2 ^ 64 := Nat.pow_lt_pow_right (by decide) below
    have pos : 1 ≤ 2 ^ bits := Nat.one_le_two_pow
    rw [Nat.mod_eq_of_lt small, show ((2 ^ bits : Nat) : Int) - 1 = ((2 ^ bits - 1 : Nat) : Int) by omega,
      wrap64_nat_of_lt (by omega)]
  · decide

theorem cycleBudget_eq (coreAssetCycleRate coreAssetCycleRateBits reserve dt : Nat)
    (reserveFits : reserve < 2 ^ 63) (dtFits : dt < 2 ^ 32) (rateFits : coreAssetCycleRate < 2 ^ 32)
    (bitsFit : coreAssetCycleRateBits ≤ 64) :
    reserve * dt * coreAssetCycleRate + (2 ^ coreAssetCycleRateBits - 1) < 2 ^ 128 ∧
    cycleBudget coreAssetCycleRate coreAssetCycleRateBits reserve dt =
      (reserve * dt * coreAssetCycleRate + (2 ^ coreAssetCycleRateBits - 1)) / 2 ^ coreAssetCycleRateBits := by
  have first : reserve * dt < 2 ^ 95 :=
    calc reserve * dt < 2 ^ 63 * 2 ^ 32 := Nat.mul_lt_mul'' reserveFits dtFits
      _ = 2 ^ 95 := rfl
  have product : reserve * dt * coreAssetCycleRate < 2 ^ 127 :=
    calc reserve * dt * coreAssetCycleRate < 2 ^ 95 * 2 ^ 32 := Nat.mul_lt_mul'' first rateFits
      _ = 2 ^ 127 := rfl
  have rounding : 2 ^ coreAssetCycleRateBits ≤ 2 ^ 64 := Nat.pow_le_pow_right (by decide) bitsFit
  have fits : reserve * dt * coreAssetCycleRate + (2 ^ coreAssetCycleRateBits - 1) < 2 ^ 128 := by omega
  refine ⟨fits, ?_⟩
  rw [cycleBudget, wrap128_nat_of_lt (by omega), Nat.mod_eq_of_lt (show reserve * dt < 2 ^ 128 by omega),
    Nat.mod_eq_of_lt (show reserve * dt * coreAssetCycleRate < 2 ^ 128 by omega), roundingTerm_eq bitsFit,
    Nat.mod_eq_of_lt fits]

theorem initialize_budget_record_rounds_up (coreAssetCycleRate coreAssetCycleRateBits now : Nat)
    (db : ObjectDatabase) (R : Int) (reserveIs : db.budgetReserve = .ok R) (reserveLow : 0 ≤ R)
    (reserveFits : R < 2 ^ 63) (nowFits : now < 2 ^ 32) (lastFits : db.dgpo.lastBudgetTime < 2 ^ 32)
    (rateLow : 1 ≤ coreAssetCycleRate) (rateFits : coreAssetCycleRate < 2 ^ 32)
    (bitsFit : coreAssetCycleRateBits ≤ 64) :
    ∃ record, initializeBudgetRecord coreAssetCycleRate coreAssetCycleRateBits now db = .ok record ∧
      (db.dgpo.lastBudgetTime = 0 ∨ now ≤ db.dgpo.lastBudgetTime →
        record.timeSinceLastBudget = 0 ∧ record.totalBudget = 0) ∧
      (db.dgpo.lastBudgetTime ≠ 0 → db.dgpo.lastBudgetTime < now →
        R * (now - db.dgpo.lastBudgetTime : Nat) * coreAssetCycleRate + (2 ^ coreAssetCycleRateBits - 1) < 2 ^ 128 ∧
        record.timeSinceLastBudget = now - db.dgpo.lastBudgetTime ∧
        record.totalBudget = min R ((R * (now - db.dgpo.lastBudgetTime : Nat) * coreAssetCycleRate +
          (2 ^ coreAssetCycleRateBits - 1)) / 2 ^ coreAssetCycleRateBits) ∧
        (1 ≤ R → 1 ≤ record.totalBudget)) := by
  obtain ⟨reserved, reservedIs, reserveIs⟩ := bind_eq_ok reserveIs
  obtain ⟨partialSum, partialIs, reserveIs⟩ := bind_eq_ok reserveIs
  lift R to Nat using reserveLow
  simp only [initializeBudgetRecord, reservedIs, ok_bind]
  split
  · exact ⟨_, rfl, fun _ => ⟨rfl, rfl⟩, fun notEpoch later => by omega⟩
  rename_i late
  generalize dtIs : now - db.dgpo.lastBudgetTime = dt
  obtain ⟨fits, budgetIs⟩ := cycleBudget_eq coreAssetCycleRate coreAssetCycleRateBits R dt (by omega) (by omega)
    rateFits bitsFit
  rw [partialIs, ok_bind, reserveIs, ok_bind, budgetIs, wrap128_nat_of_lt (by omega)]
  generalize ceilingIs : (R * dt * coreAssetCycleRate + (2 ^ coreAssetCycleRateBits - 1)) / 2 ^ coreAssetCycleRateBits
    = ceiling at fits
  have roundingCast : ((2 ^ coreAssetCycleRateBits - 1 : Nat) : Int) = 2 ^ coreAssetCycleRateBits - 1 := by
    have atLeastOne : 1 ≤ 2 ^ coreAssetCycleRateBits := Nat.one_le_two_pow
    push_cast [atLeastOne]
    rfl
  have castFits : (R : Int) * dt * coreAssetCycleRate + (2 ^ coreAssetCycleRateBits - 1) < 2 ^ 128 := by
    rw [← roundingCast]
    exact_mod_cast fits
  have castCeiling : ((R : Int) * dt * coreAssetCycleRate + (2 ^ coreAssetCycleRateBits - 1)) /
      2 ^ coreAssetCycleRateBits = ceiling := by
    rw [← roundingCast, ← ceilingIs]
    push_cast
    rfl
  have positive : 1 ≤ R → 1 ≤ ceiling := fun reserveLow => by
    have product : 1 ≤ R * dt * coreAssetCycleRate :=
      Nat.mul_pos (Nat.mul_pos reserveLow (by omega)) rateLow
    rw [← ceilingIs, Nat.le_div_iff_mul_le (Nat.two_pow_pos _)]
    omega
  split
  · rename_i below
    rw [toUInt64_of_lt (by omega), ok_bind, shareOfUInt64_of_lt (by omega)]
    refine ⟨_, rfl, fun early => absurd early late, fun _ _ => ⟨castFits, rfl, ?_, fun low => ?_⟩⟩
    · show (ceiling : Int) = min (R : Int) _
      rw [castCeiling]
      omega
    · show (1 : Int) ≤ ceiling
      exact_mod_cast positive (by exact_mod_cast low)
  · rename_i above
    refine ⟨_, rfl, fun early => absurd early late, fun _ _ => ⟨castFits, rfl, ?_, fun low => low⟩⟩
    show (R : Int) = min (R : Int) _
    rw [castCeiling]
    omega

def firstBudgetDb : ObjectDatabase :=
  { dgpo := { lastBudgetTime := 100 }
    ledger := { core := { maxSupply := 1000 } } }

theorem initialize_budget_record_first_budget :
    ∃ record, initializeBudgetRecord 17 32 200 firstBudgetDb = .ok record ∧ 1 ≤ record.totalBudget := by
  obtain ⟨record, run, -, late⟩ := initialize_budget_record_rounds_up 17 32 200 firstBudgetDb 1000 rfl
    (by decide) (by decide) (by decide) (by decide) (by decide) (by decide) (by decide)
  exact ⟨record, run, (late (by decide) (by decide)).2.2.2 (by decide)⟩

def overflowingReserveDb : ObjectDatabase :=
  { dgpo := { lastBudgetTime := 1, witnessBudget := -1 }
    ledger := { core := { maxSupply := 2 ^ 63 - 1, dynamicData := { accumulatedFees := 1 } } } }

theorem initialize_budget_record_reserve_overflow :
    overflowingReserveDb.reserve = 2 ^ 63 - 1 ∧
      initializeBudgetRecord 17 32 2 overflowingReserveDb = .error .overflow :=
  ⟨rfl, rfl⟩

theorem workerBudgetFor_bounds (workerBudgetPerDay timeToMaint availableFunds : Int)
    (low : 0 ≤ availableFunds) (high : availableFunds < 2 ^ 63) :
    ∃ workerBudget, workerBudgetFor workerBudgetPerDay timeToMaint availableFunds = .ok workerBudget ∧
      0 ≤ workerBudget ∧ workerBudget ≤ availableFunds := by
  have wide := wrap128_of_range low (by omega)
  dsimp only [workerBudgetFor]
  split
  · exact ⟨_, rfl, low, le_refl _⟩
  · rename_i above
    rw [toUInt64_of_lt (by omega), ok_bind, shareOfUInt64_of_lt (by omega)]
    exact ⟨_, rfl, by omega, by omega⟩

theorem budgetDelta_eq {a b c d e : Int} (first : InShareRange (a + b)) (second : InShareRange (a + b - c))
    (third : InShareRange (a + b - c - d)) (fourth : InShareRange (a + b - c - d - e)) :
    budgetDelta a b c d e = .ok (a + b - c - d - e) := by
  simp only [budgetDelta, shareAdd_of_range first, shareSub_of_range second, shareSub_of_range third,
    shareSub_of_range fourth, ok_bind]

theorem refundedPay_bounds {db : ObjectDatabase} {workerBudget : Int} (budgetLow : 0 ≤ workerBudget)
    (paid : db.dgpo.lastBudgetTime ≤ db.headBlockTime)
    (fits : ∀ w ∈ activeWorkers db, RequestFits db.timeSinceBudget w) :
    0 ≤ db.refundedPay workerBudget ∧ db.refundedPay workerBudget ≤
      workerBudget - max 0 (workerBudget - ((activeWorkers db).map (proratedPay db.timeSinceBudget)).sum) := by
  have elapsedLow : 0 ≤ db.timeSinceBudget := by rw [timeSinceBudget_eq paid]; omega
  have requestsLow : ∀ w ∈ activeWorkers db, 0 ≤ proratedPay db.timeSinceBudget w :=
    fun w mem => proratedPay_nonneg elapsedLow (fits w mem).1
  rw [← payroll_sum _ _ _ budgetLow requestsLow]
  exact refundTotal_bounds _ (payroll_nonneg _ _ _ requestsLow)

theorem budget_arithmetic {maxSupply supply fees unused total witness workerBudget leftover refunded : Int}
    (supplyLow : 0 ≤ supply) (supplyHigh : supply ≤ maxSupply) (maxFits : maxSupply < 2 ^ 63) (feesLow : 0 ≤ fees)
    (unusedLow : 0 ≤ unused) (reserveFits : maxSupply - supply + fees + unused < 2 ^ 63)
    (totalLow : 0 ≤ total) (totalHigh : total ≤ maxSupply - supply + fees + unused)
    (witnessLow : 0 ≤ witness) (witnessHigh : witness ≤ total)
    (workerLow : 0 ≤ workerBudget) (workerHigh : workerBudget ≤ total - witness)
    (leftoverLow : 0 ≤ leftover) (refundLow : 0 ≤ refunded) (refundHigh : refunded ≤ workerBudget - leftover) :
    InShareRange (total - witness) ∧ InShareRange (total - witness - workerBudget) ∧
      InShareRange (witness + workerBudget) ∧ InShareRange (witness + workerBudget - leftover) ∧
      InShareRange (witness + workerBudget - leftover - fees) ∧
      InShareRange (witness + workerBudget - leftover - fees - unused) ∧
      InShareRange (total - witness - workerBudget + leftover) ∧
      InShareRange (supply - refunded + (witness + workerBudget - leftover - fees - unused)) ∧
      leftover ≤ workerBudget ∧ witness + workerBudget ≤ total ∧
      supply - refunded + (witness + workerBudget - leftover - fees - unused) - 0 - witness =
        supply - fees - unused + (workerBudget - leftover) - refunded ∧
      supply - refunded + (witness + workerBudget - leftover - fees - unused) ≤ supply + (maxSupply - supply) := by
  unfold InShareRange
  refine ⟨⟨?_, ?_⟩, ⟨?_, ?_⟩, ⟨?_, ?_⟩, ⟨?_, ?_⟩, ⟨?_, ?_⟩, ⟨?_, ?_⟩, ⟨?_, ?_⟩, ⟨?_, ?_⟩, ?_, ?_, ?_, ?_⟩ <;> omega

theorem process_budget_balances (coreAssetCycleRate coreAssetCycleRateBits : Nat)
    (nullAccount : AccountId) (db : ObjectDatabase) (range : ReserveInRange db)
    (due : db.headBlockTime < db.dgpo.nextMaintenanceTime) (blockPos : 0 < db.gpo.parameters.blockInterval)
    (paid : db.dgpo.lastBudgetTime ≤ db.headBlockTime) (timeFits : db.headBlockTime < 2 ^ 32)
    (payLow : 0 ≤ db.gpo.parameters.witnessPayPerBlock)
    (witnessFits : db.gpo.parameters.witnessPayPerBlock * blocksToMaint
      ((db.dgpo.nextMaintenanceTime : Int) - db.headBlockTime) db.gpo.parameters.blockInterval < 2 ^ 63)
    (fits : ∀ w ∈ activeWorkers db, RequestFits db.timeSinceBudget w) :
    ∃ record db', processBudget coreAssetCycleRate coreAssetCycleRateBits nullAccount db = .ok db' ∧
      db'.budgetRecords = db.budgetRecords ++ [⟨db.headBlockTime, record⟩] ∧
      record.fromInitialReserve = db.ledger.core.maxSupply - db.currentSupply ∧
      record.fromAccumulatedFees = db.ledger.core.dynamicData.accumulatedFees ∧
      record.fromUnusedWitnessBudget = db.dgpo.witnessBudget ∧
      0 ≤ record.witnessBudget ∧ 0 ≤ record.workerBudget ∧
      0 ≤ record.leftoverWorkerFunds ∧ record.leftoverWorkerFunds ≤ record.workerBudget ∧
      record.witnessBudget + record.workerBudget ≤ record.totalBudget ∧ record.totalBudget ≤ db.reserve ∧
      record.supplyDelta = record.witnessBudget + record.workerBudget - record.leftoverWorkerFunds -
        record.fromAccumulatedFees - record.fromUnusedWitnessBudget ∧
      db'.currentSupply = db.currentSupply - db.refundedPay record.workerBudget + record.supplyDelta ∧
      db'.ledger.core.dynamicData.accumulatedFees = 0 ∧ db'.dgpo.witnessBudget = record.witnessBudget ∧
      0 ≤ db.refundedPay record.workerBudget ∧
      db.refundedPay record.workerBudget ≤ record.workerBudget - record.leftoverWorkerFunds ∧
      db'.budgetBalance = db.budgetBalance + (record.workerBudget - record.leftoverWorkerFunds) -
        db.refundedPay record.workerBudget ∧
      db'.currentSupply ≤ db.currentSupply + record.fromInitialReserve := by
  obtain ⟨record, init, fromReserve, fromFees, fromWitness, totalLow, totalHigh⟩ :=
    initializeBudgetRecord_spec coreAssetCycleRate coreAssetCycleRateBits db.headBlockTime range
  obtain ⟨supplyLow, supplyHigh, maxFits, feesLow, witnessBudgetLow, reserveFits⟩ := range
  simp only [ObjectDatabase.reserve, ObjectDatabase.currentSupply, ObjectDatabase.budgetBalance,
    ObjectDatabase.refundedPay] at *
  have timeToMaintPos : (0 : Int) < db.dgpo.nextMaintenanceTime - db.headBlockTime :=
    Int.sub_pos.mpr (Int.ofNat_lt.mpr due)
  simp only [processBudget, check, decide_eq_true timeToMaintPos, decide_eq_true blockPos, if_true, ok_bind,
    init]
  generalize blocksToMaint ((db.dgpo.nextMaintenanceTime : Int) - db.headBlockTime)
    db.gpo.parameters.blockInterval = blocks at witnessFits ⊢
  have requestLow : 0 ≤ db.gpo.parameters.witnessPayPerBlock * blocks :=
    Int.mul_nonneg payLow (Int.ofNat_nonneg _)
  rw [shareOfUInt64_wrap64 requestLow witnessFits]
  generalize db.gpo.parameters.witnessPayPerBlock * blocks = request at requestLow witnessFits ⊢
  have totalFits := lt_of_le_of_lt totalHigh reserveFits
  have witnessLow := le_min requestLow totalLow
  obtain ⟨workerBudget, workerIs, workerLow, workerHigh⟩ := workerBudgetFor_bounds
    db.gpo.parameters.workerBudgetPerDay ((db.dgpo.nextMaintenanceTime : Int) - db.headBlockTime)
    (record.totalBudget - min request record.totalBudget) (Int.sub_nonneg.mpr (min_le_right _ _))
    (lt_of_le_of_lt (Int.sub_le_self _ witnessLow) totalFits)
  have run := payWorkers_eq nullAccount workerBudget db workerLow
    (lt_of_le_of_lt (workerHigh.trans (Int.sub_le_self _ witnessLow)) totalFits) paid timeFits fits
  have refunds := refundedPay_bounds workerLow paid fits
  simp only [ObjectDatabase.refundedPay] at refunds
  obtain ⟨supplyAfter, feesAfter, -⟩ := payAll_core nullAccount
    (payroll (proratedPay db.timeSinceBudget) (activeWorkers db) workerBudget) db.ledger
  generalize ((activeWorkers db).map (proratedPay db.timeSinceBudget)).sum = requests at run refunds ⊢
  generalize payAll nullAccount (payroll (proratedPay db.timeSinceBudget) (activeWorkers db) workerBudget)
    db.ledger = ledger at run supplyAfter feesAfter ⊢
  generalize refundedIs : refundTotal (payroll (proratedPay db.timeSinceBudget) (activeWorkers db)
    workerBudget) = refunded at refunds supplyAfter ⊢
  obtain ⟨available, remaining, first, second, third, fourth, leftoverRange, supplyRange, leftoverHigh, spent,
    balance, supplyHigh'⟩ := budget_arithmetic supplyLow supplyHigh maxFits feesLow witnessBudgetLow reserveFits totalLow
      totalHigh witnessLow (min_le_right _ _) workerLow workerHigh (le_max_left _ _) refunds.1 refunds.2
  rw [shareSub_of_range available, ok_bind, workerIs, ok_bind, shareSub_of_range remaining, ok_bind, run, ok_bind]
  simp only [fromFees, fromWitness, feesAfter, supplyAfter, budgetDelta_eq first second third fourth, ok_bind,
    shareAdd_of_range leftoverRange, shareAdd_of_range supplyRange, decide_True, if_true]
  refine ⟨_, _, rfl, rfl, ?_⟩
  dsimp only
  rw [refundedIs, ← fromReserve] at *
  exact ⟨fromReserve, rfl, rfl, witnessLow, workerLow, le_max_left _ _, leftoverHigh, spent, totalHigh, rfl, rfl, rfl,
    rfl, refunds.1, refunds.2, balance, supplyHigh'⟩

def refundWorkerPass : ObjectDatabase :=
  { gpo := { parameters := { workerBudgetPerDay := 86400 } }
    dgpo := { time := 100, nextMaintenanceTime := 200, lastBudgetTime := 10 }
    ledger := { core := { maxSupply := 1000, dynamicData := { currentSupply := 500 } } }
    workers := [{ id := 0, dailyPay := 86400, workEndDate := 1000, totalVotesFor := 1 }] }

theorem activeWorkers_refundWorkerPass : activeWorkers refundWorkerPass = refundWorkerPass.workers := by
  simp [activeWorkers, sortBy, refundWorkerPass, isPayable, WorkerObject.isActive,
    WorkerObject.approvingStake, ObjectDatabase.headBlockTime]

theorem process_budget_refund_worker_pass :
    ∃ db', processBudget 1 0 0 refundWorkerPass = .ok db' ∧
      db'.currentSupply ≤ refundWorkerPass.currentSupply + 500 := by
  obtain ⟨record, db', run, -, fromReserve, -, -, -, -, -, -, -, -, -, -, -, -, -, -, -, grows⟩ :=
    process_budget_balances 1 0 0 refundWorkerPass ⟨by decide, by decide, by decide, by decide, by decide, by decide⟩
      (by decide) (by decide) (by decide) (by decide) (by decide) (by decide)
      (by rw [activeWorkers_refundWorkerPass]; decide)
  exact ⟨db', run, by rw [fromReserve] at grows; exact grows⟩

theorem process_budget_refund_not_issued :
    refundWorkerPass.budgetBalance = 500 ∧
      (processBudget 1 0 0 refundWorkerPass).toOption.map (fun db => (db.budgetBalance,
        db.budgetRecords.map fun r => r.record.workerBudget - r.record.leftoverWorkerFunds)) = some (500, [90]) := by
  simp only [processBudget, payWorkers, activeWorkers_refundWorkerPass]
  exact ⟨rfl, rfl⟩

end Graphene.Chain
