import GrapheneMaintenance.Database
import GrapheneMaintenance.Sorting
import Mathlib.Algebra.Order.BigOperators.Group.List

set_option autoImplicit false

/- `database::pay_workers`, lines 117-158. The active workers with approving stake are sorted
   and paid in turn while budget remains; each request is `daily_pay` prorated to the time
   since the last budget in `uint128`, brought back through `to_uint64` and a `share_type`.
   `worker_object` and its pay visitors are not part of the sources: a worker is active from
   its begin date to its end date, and its approving stake is the stake voting for it less the
   stake voting against it. -/
namespace Graphene.Chain

def WorkerObject.isActive (w : WorkerObject) (now : Nat) : Bool :=
  w.workBeginDate ≤ now && now ≤ w.workEndDate

def WorkerObject.approvingStake (w : WorkerObject) : Int := w.totalVotesFor - w.totalVotesAgainst

-- Lines 152-154.
def payWorker (nullAccount : AccountId) (w : WorkerObject) (pay : Int) (ledger : Ledger) : Ledger :=
  match w.worker with
  | .refund => { ledger with core.dynamicData.currentSupply := ledger.core.dynamicData.currentSupply - pay }
  | .burn => ledger.adjustBalance nullAccount 0 pay
  | .vesting balance => { ledger with vestingBalances := ledger.vestingBalances.map fun b =>
      if b.id = balance then { b with balance := b.balance + pay } else b }

-- Lines 121-125.
def isPayable (now : Nat) (w : WorkerObject) : Bool := w.isActive now && 0 < w.approvingStake

-- Lines 130-136: the larger approving stake first, the lower id on a tie.
def workerPrecedes (wa wb : WorkerObject) : Bool :=
  stakeThenKey WorkerObject.approvingStake WorkerObject.id wa wb

-- Lines 120-126.
def activeWorkers (db : ObjectDatabase) : List WorkerObject :=
  sortBy workerPrecedes (db.workers.filter (isPayable db.headBlockTime))

-- Lines 142 and 145, in seconds.
def ObjectDatabase.timeSinceBudget (db : ObjectDatabase) : Int :=
  (db.headBlockTime : Int) - db.dgpo.lastBudgetTime

-- Lines 141-148. The difference of two `time_point_sec` is in microseconds, and so is
-- `fc::days(1)`.
def requestedPay (dailyPay elapsed : Int) : Except Fault Int :=
  if elapsed ≠ 86400 then do
    let pay ← toUInt64 (wrap128 dailyPay * wrap128 (elapsed * 1000000) % 2 ^ 128 / 86400000000)
    .ok (shareOfUInt64 pay)
  else .ok dailyPay

-- Lines 138-157, over the sorted workers not yet reached.
def payWorkersLoop (nullAccount : AccountId) (elapsed : Int) :
    List WorkerObject → Int → Ledger → Except Fault (Int × Ledger)
  | [], budget, ledger => .ok (budget, ledger)
  | w :: rest, budget, ledger =>
    if 0 < budget then do
      let requested ← requestedPay w.dailyPay elapsed
      let actualPay := min budget requested
      let ledger := payWorker nullAccount w actualPay ledger
      let budget ← shareSub budget actualPay
      payWorkersLoop nullAccount elapsed rest budget ledger
    else .ok (budget, ledger)

-- Lines 117-158.
def payWorkers (nullAccount : AccountId) (budget : Int) (db : ObjectDatabase) :
    Except Fault (Int × ObjectDatabase) := do
  let (budget, ledger) ← payWorkersLoop nullAccount db.timeSinceBudget (activeWorkers db) budget db.ledger
  .ok (budget, { db with ledger })

def proratedPay (elapsed : Int) (w : WorkerObject) : Int := w.dailyPay * elapsed / 86400

def payroll (request : WorkerObject → Int) : List WorkerObject → Int → List (WorkerObject × Int)
  | [], _ => []
  | w :: rest, budget =>
    if 0 < budget then (w, min budget (request w)) :: payroll request rest (budget - min budget (request w))
    else []

def payAll (nullAccount : AccountId) (paid : List (WorkerObject × Int)) (ledger : Ledger) : Ledger :=
  paid.foldl (fun ledger p => payWorker nullAccount p.1 p.2 ledger) ledger

def refundTotal : List (WorkerObject × Int) → Int
  | [] => 0
  | p :: rest => (if p.1.worker = .refund then p.2 else 0) + refundTotal rest

theorem requestedPay_eq {dailyPay elapsed : Nat} (elapsedFits : elapsed < 2 ^ 32)
    (payFits : dailyPay < 2 ^ 63) (fits : dailyPay * elapsed / 86400 < 2 ^ 63) :
    requestedPay dailyPay elapsed = .ok (dailyPay * elapsed / 86400 : Nat) := by
  have micro : wrap128 ((elapsed : Int) * 1000000) = elapsed * 1000000 := by
    have := wrap128_of_range (x := (elapsed : Int) * 1000000) (by omega) (by omega)
    omega
  have product : dailyPay * (elapsed * 1000000) < 2 ^ 128 :=
    calc dailyPay * (elapsed * 1000000) ≤ 2 ^ 63 * (2 ^ 32 * 1000000) :=
          Nat.mul_le_mul (by omega) (by omega)
      _ < 2 ^ 128 := by decide
  have scaled : dailyPay * (elapsed * 1000000) / 86400000000 = dailyPay * elapsed / 86400 := by
    rw [← Nat.mul_assoc, show 86400000000 = 86400 * 1000000 from rfl,
      Nat.mul_div_mul_right _ _ (by decide)]
  unfold requestedPay
  split
  · rw [wrap128_nat_of_lt (by omega), micro, Nat.mod_eq_of_lt product, scaled,
      toUInt64_of_lt (by omega)]
    simp [shareOfUInt64_of_lt fits]
  · have oneDay : elapsed = 86400 := by omega
    simp [oneDay]

theorem proratedPay_nonneg {elapsed : Int} {w : WorkerObject} (elapsedLow : 0 ≤ elapsed)
    (payLow : 0 ≤ w.dailyPay) : 0 ≤ proratedPay elapsed w :=
  Int.ediv_nonneg (Int.mul_nonneg payLow elapsedLow) (by decide)

def RequestFits (elapsed : Int) (w : WorkerObject) : Prop :=
  0 ≤ w.dailyPay ∧ w.dailyPay < 2 ^ 63 ∧ proratedPay elapsed w < 2 ^ 63

instance (elapsed : Int) (w : WorkerObject) : Decidable (RequestFits elapsed w) :=
  inferInstanceAs (Decidable (_ ∧ _ ∧ _))

theorem requestedPay_of_fits {elapsed : Nat} {w : WorkerObject} (elapsedFits : elapsed < 2 ^ 32)
    (fits : RequestFits elapsed w) : requestedPay w.dailyPay elapsed = .ok (proratedPay elapsed w) := by
  obtain ⟨payLow, payFits, proratedFits⟩ := fits
  obtain ⟨pay, same⟩ := Int.eq_ofNat_of_zero_le payLow
  have prorated : proratedPay elapsed w = (pay * elapsed / 86400 : Nat) := by
    simp [proratedPay, same]
  rw [same, prorated, requestedPay_eq elapsedFits (by omega) (by omega)]

@[simp] theorem payroll_nil (request : WorkerObject → Int) (budget : Int) :
    payroll request [] budget = [] := rfl

@[simp] theorem payAll_nil (nullAccount : AccountId) (ledger : Ledger) :
    payAll nullAccount [] ledger = ledger := rfl

@[simp] theorem payAll_cons (nullAccount : AccountId) (p : WorkerObject × Int)
    (rest : List (WorkerObject × Int)) (ledger : Ledger) :
    payAll nullAccount (p :: rest) ledger = payAll nullAccount rest (payWorker nullAccount p.1 p.2 ledger) :=
  rfl

theorem requests_sum_nonneg {elapsed : Int} (elapsedLow : 0 ≤ elapsed) (workers : List WorkerObject)
    (fits : ∀ w ∈ workers, RequestFits elapsed w) : 0 ≤ (workers.map (proratedPay elapsed)).sum :=
  List.sum_nonneg fun r mem => by
    obtain ⟨w, wMem, rfl⟩ := List.mem_map.mp mem
    exact proratedPay_nonneg elapsedLow (fits w wMem).1

theorem payWorkersLoop_eq (nullAccount : AccountId) {elapsed : Nat} (elapsedFits : elapsed < 2 ^ 32) :
    ∀ (workers : List WorkerObject) (budget : Int) (ledger : Ledger), 0 ≤ budget → budget < 2 ^ 63 →
      (∀ w ∈ workers, RequestFits elapsed w) →
      payWorkersLoop nullAccount elapsed workers budget ledger =
        .ok (max 0 (budget - (workers.map (proratedPay elapsed)).sum),
          payAll nullAccount (payroll (proratedPay elapsed) workers budget) ledger)
  | [], budget, ledger, budgetLow, _, _ => by simp [payWorkersLoop, budgetLow]
  | w :: rest, budget, ledger, budgetLow, budgetFits, fits => by
    have restFit : ∀ w ∈ rest, RequestFits elapsed w := fun w mem => fits w (List.mem_cons_of_mem _ mem)
    have requestLow : 0 ≤ proratedPay elapsed w :=
      proratedPay_nonneg (by omega) (fits w (List.mem_cons_self _ _)).1
    have restLow := requests_sum_nonneg (by omega) rest restFit
    by_cases positive : 0 < budget
    · have paid : shareSub budget (min budget (proratedPay elapsed w)) =
          .ok (budget - min budget (proratedPay elapsed w)) := shareSub_of_range (by unfold InShareRange; omega)
      simp only [payWorkersLoop, payroll, if_pos positive,
        requestedPay_of_fits elapsedFits (fits w (List.mem_cons_self _ _)), ok_bind, paid, payAll_cons]
      rw [payWorkersLoop_eq nullAccount elapsedFits rest _ _ (by omega) (by omega) restFit]
      simp only [List.map_cons, List.sum_cons]
      congr 2
      omega
    · simp only [payWorkersLoop, payroll, if_neg positive, payAll_nil, List.map_cons, List.sum_cons]
      congr 2
      omega

theorem payroll_nonneg (request : WorkerObject → Int) :
    ∀ (workers : List WorkerObject) (budget : Int), (∀ w ∈ workers, 0 ≤ request w) →
      ∀ p ∈ payroll request workers budget, 0 ≤ p.2
  | [], _, _ => by simp
  | w :: rest, budget, low => by
    by_cases positive : 0 < budget
    · simp only [payroll, if_pos positive, List.mem_cons, forall_eq_or_imp]
      refine ⟨by simpa using ⟨positive.le, low w (List.mem_cons_self _ _)⟩, ?_⟩
      exact payroll_nonneg request rest _ fun v mem => low v (List.mem_cons_of_mem _ mem)
    · simp [payroll, if_neg positive]

theorem payroll_sum (request : WorkerObject → Int) :
    ∀ (workers : List WorkerObject) (budget : Int), 0 ≤ budget → (∀ w ∈ workers, 0 ≤ request w) →
      ((payroll request workers budget).map Prod.snd).sum =
        budget - max 0 (budget - (workers.map request).sum)
  | [], budget, budgetLow, _ => by simp; omega
  | w :: rest, budget, budgetLow, low => by
    have restLow : 0 ≤ (rest.map request).sum :=
      List.sum_nonneg fun r mem => by
        obtain ⟨v, vMem, rfl⟩ := List.mem_map.mp mem
        exact low v (List.mem_cons_of_mem _ vMem)
    have requestLow := low w (List.mem_cons_self _ _)
    by_cases positive : 0 < budget
    · simp only [payroll, if_pos positive, List.map_cons, List.sum_cons]
      rw [payroll_sum request rest _ (by omega) fun v mem => low v (List.mem_cons_of_mem _ mem)]
      omega
    · simp only [payroll, if_neg positive, List.map_nil, List.sum_nil, List.map_cons, List.sum_cons]
      omega

theorem refundTotal_bounds : ∀ paid : List (WorkerObject × Int), (∀ p ∈ paid, 0 ≤ p.2) →
    0 ≤ refundTotal paid ∧ refundTotal paid ≤ (paid.map Prod.snd).sum
  | [], _ => by simp [refundTotal]
  | p :: rest, low => by
    have := refundTotal_bounds rest fun q mem => low q (List.mem_cons_of_mem _ mem)
    have := low p (List.mem_cons_self _ _)
    simp only [refundTotal, List.map_cons, List.sum_cons]
    split <;> omega

theorem payWorker_core (nullAccount : AccountId) (w : WorkerObject) (pay : Int) (ledger : Ledger) :
    (payWorker nullAccount w pay ledger).core.dynamicData.currentSupply =
        ledger.core.dynamicData.currentSupply - (if w.worker = .refund then pay else 0) ∧
      (payWorker nullAccount w pay ledger).core.dynamicData.accumulatedFees =
        ledger.core.dynamicData.accumulatedFees ∧
      (payWorker nullAccount w pay ledger).core.maxSupply = ledger.core.maxSupply := by
  cases kind : w.worker <;> simp [payWorker, kind, Ledger.adjustBalance]

theorem payAll_core (nullAccount : AccountId) :
    ∀ (paid : List (WorkerObject × Int)) (ledger : Ledger),
      (payAll nullAccount paid ledger).core.dynamicData.currentSupply =
          ledger.core.dynamicData.currentSupply - refundTotal paid ∧
        (payAll nullAccount paid ledger).core.dynamicData.accumulatedFees =
          ledger.core.dynamicData.accumulatedFees ∧
        (payAll nullAccount paid ledger).core.maxSupply = ledger.core.maxSupply
  | [], ledger => by simp [refundTotal]
  | p :: rest, ledger => by
    obtain ⟨supply, fees, maxSupply⟩ := payWorker_core nullAccount p.1 p.2 ledger
    obtain ⟨supply', fees', maxSupply'⟩ := payAll_core nullAccount rest (payWorker nullAccount p.1 p.2 ledger)
    refine ⟨?_, fees'.trans fees, maxSupply'.trans maxSupply⟩
    rw [payAll_cons, supply', supply, refundTotal]
    omega

theorem timeSinceBudget_eq {db : ObjectDatabase} (paid : db.dgpo.lastBudgetTime ≤ db.headBlockTime) :
    db.timeSinceBudget = (db.headBlockTime - db.dgpo.lastBudgetTime : Nat) := by
  simp only [ObjectDatabase.timeSinceBudget]
  omega

theorem payWorkers_eq (nullAccount : AccountId) (budget : Int) (db : ObjectDatabase)
    (budgetLow : 0 ≤ budget) (budgetFits : budget < 2 ^ 63)
    (paid : db.dgpo.lastBudgetTime ≤ db.headBlockTime) (timeFits : db.headBlockTime < 2 ^ 32)
    (fits : ∀ w ∈ activeWorkers db, RequestFits db.timeSinceBudget w) :
    payWorkers nullAccount budget db = .ok
      (max 0 (budget - ((activeWorkers db).map (proratedPay db.timeSinceBudget)).sum),
        { db with
          ledger := payAll nullAccount (payroll (proratedPay db.timeSinceBudget) (activeWorkers db) budget)
            db.ledger }) := by
  rw [timeSinceBudget_eq paid] at fits ⊢
  rw [payWorkers, timeSinceBudget_eq paid,
    payWorkersLoop_eq nullAccount (by omega) _ _ _ budgetLow budgetFits fits]
  rfl

theorem pay_workers_greedy (nullAccount : AccountId) (budget : Int) (db : ObjectDatabase)
    (budgetLow : 0 ≤ budget) (budgetFits : budget < 2 ^ 63)
    (paid : db.dgpo.lastBudgetTime ≤ db.headBlockTime) (timeFits : db.headBlockTime < 2 ^ 32)
    (distinct : (db.workers.map (·.id)).Nodup)
    (fits : ∀ w ∈ activeWorkers db, RequestFits db.timeSinceBudget w) :
    (activeWorkers db).Perm (db.workers.filter (isPayable db.headBlockTime)) ∧
    (activeWorkers db).Pairwise (workerPrecedes · ·) ∧
    (∀ p ∈ payroll (proratedPay db.timeSinceBudget) (activeWorkers db) budget, 0 ≤ p.2) ∧
    ∃ leftover, payWorkers nullAccount budget db = .ok (leftover,
        { db with
          ledger := payAll nullAccount (payroll (proratedPay db.timeSinceBudget) (activeWorkers db) budget)
            db.ledger }) ∧
      leftover = max 0 (budget - ((activeWorkers db).map (proratedPay db.timeSinceBudget)).sum) ∧
      0 ≤ leftover ∧ leftover ≤ budget := by
  have elapsedLow : 0 ≤ db.timeSinceBudget := by rw [timeSinceBudget_eq paid]; omega
  have payableDistinct : ((db.workers.filter (isPayable db.headBlockTime)).map (·.id)).Nodup :=
    distinct.sublist ((List.filter_sublist db.workers).map _)
  have sorted := sortBy_stakeThenKey WorkerObject.approvingStake WorkerObject.id payableDistinct
  have requestsLow := requests_sum_nonneg elapsedLow _ fits
  exact ⟨sorted.1, sorted.2, payroll_nonneg _ _ _ fun w mem => proratedPay_nonneg elapsedLow (fits w mem).1,
    _, payWorkers_eq nullAccount budget db budgetLow budgetFits paid timeFits fits, rfl, by omega, by omega⟩

def scenarioS3 : ObjectDatabase :=
  { dgpo := { time := 43200 }
    workers := [{ id := 0, dailyPay := 100, workEndDate := 86400, totalVotesFor := 1 }] }

theorem activeWorkers_scenarioS3 : activeWorkers scenarioS3 = scenarioS3.workers := by
  simp [activeWorkers, sortBy, scenarioS3, isPayable, WorkerObject.isActive,
    WorkerObject.approvingStake, ObjectDatabase.headBlockTime]

theorem pay_workers_scenario_s3 :
    ∃ ledger, payWorkers 0 1000 scenarioS3 = .ok (950, { scenarioS3 with ledger := ledger }) := by
  obtain ⟨-, -, -, leftover, run, value, -⟩ := pay_workers_greedy 0 1000 scenarioS3 (by decide) (by decide)
    (by decide) (by decide) (by decide)
    (by rw [activeWorkers_scenarioS3]; decide)
  rw [activeWorkers_scenarioS3] at value
  exact ⟨_, run.trans (by rw [value]; rfl)⟩

def overpaidWorker (elapsed : Nat) : ObjectDatabase :=
  { dgpo := { time := elapsed }
    workers := [{ id := 0, dailyPay := 2 ^ 63 - 1, workEndDate := elapsed, totalVotesFor := 1 }] }

theorem activeWorkers_overpaidWorker (elapsed : Nat) :
    activeWorkers (overpaidWorker elapsed) = (overpaidWorker elapsed).workers := by
  simp [activeWorkers, sortBy, overpaidWorker, isPayable, WorkerObject.isActive,
    WorkerObject.approvingStake, ObjectDatabase.headBlockTime]

theorem pay_workers_request_overflows :
    payWorkers 0 100 (overpaidWorker 259200) = .error .assertion ∧
      (payWorkers 0 100 (overpaidWorker 172800)).toOption.map Prod.fst = some 102 := by
  simp only [payWorkers, activeWorkers_overpaidWorker]
  exact ⟨rfl, rfl⟩

end Graphene.Chain
