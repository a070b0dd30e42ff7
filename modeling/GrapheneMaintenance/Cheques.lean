import GrapheneMaintenance.MatureBalances

set_option autoImplicit false

/- `database::process_cheques` and `database::clear_old_entities`, lines 908-969 and 991-1019,
   which run last in a pass. The first reverses new cheques whose expiration the finished
   interval has passed, through the `cheque_reverse` evaluator, which is not part of the
   sources; the second restarts the mature balance rows, removes the history rows and the
   cheques older than `history_size` days, found through their time indices, and clears the
   online records. `ChequeReverseLocal` states that the evaluator changes no cheque but the one
   it is asked to reverse. -/
namespace Graphene.Chain

-- Lines 1003-1016.
def reverseCheque (evaluator : Evaluator) (cheque : ChequeObject) (ledger : Ledger) : Except Fault Ledger :=
  match evaluator (.chequeReverse cheque.id cheque.drawer cheque.remainingAmount) ledger with
  | .ok ledger => .ok ledger
  | .error .assertion => .ok ledger
  | .error e => .error e

-- Line 1001, in `uint32_t` seconds.
def chequeIsOverdue (nextMaintenanceTime maintenanceInterval : Nat) (cheque : ChequeObject) : Bool :=
  cheque.status = .chequeNew && cheque.datetimeExpiration ≤ wrap32 ((nextMaintenanceTime : Int) - maintenanceInterval)

-- Lines 991-1019, over the cheques by id, each read as it is when its turn comes.
def processChequesLoop (evaluator : Evaluator) (nextMaintenanceTime maintenanceInterval : Nat) :
    List ChequeObject → Ledger → Except Fault Ledger
  | [], ledger => .ok ledger
  | cheque :: rest, ledger => do
    let cheque := (ledger.cheques.find? (·.id = cheque.id)).getD cheque
    let ledger ← if chequeIsOverdue nextMaintenanceTime maintenanceInterval cheque then
      reverseCheque evaluator cheque ledger else .ok ledger
    processChequesLoop evaluator nextMaintenanceTime maintenanceInterval rest ledger

def processCheques (evaluator : Evaluator) (db : ObjectDatabase) : Except Fault ObjectDatabase := do
  let ledger ← processChequesLoop evaluator db.dgpo.nextMaintenanceTime db.gpo.parameters.maintenanceInterval
    db.ledger.cheques db.ledger
  .ok { db with ledger := ledger }

def historyHorizon (headBlockTime historySize : Nat) : Int := (headBlockTime : Int) - historySize * 86400

def reapHistory {α : Type} (time : α → Nat) (horizon : Int) (rows : List α) : List α :=
  rows.filter fun row => horizon ≤ time row

-- Lines 910-912.
def clearMatureBalances (hardfork616MaintenanceChangeTime : Nat) (db : ObjectDatabase) : ObjectDatabase :=
  if db.headBlockTime ≠ hardfork616MaintenanceChangeTime then
    { db with
      ledger.balances := clearMandatoryTransfer db.ledger.balances
      ledger.matureBalances := restartMatureRows db.ledger.balances db.ledger.matureBalances }
  else db

-- Lines 914-960.
def reapOldEntities (hardfork617Time historySize : Nat) (db : ObjectDatabase) : ObjectDatabase :=
  if 0 < historySize then
    let horizon := historyHorizon db.headBlockTime historySize
    { db with
      operationHistory := reapHistory (·.time) horizon db.operationHistory
      accountTransactionHistory := if hardfork617Time < db.headBlockTime then
        reapHistory (·.blockTime) horizon db.accountTransactionHistory else db.accountTransactionHistory
      fundTransactionHistory := reapHistory (·.time) horizon db.fundTransactionHistory
      blindTransfers := reapHistory (·.time) horizon db.blindTransfers
      ledger.cheques := db.ledger.cheques.filter fun cheque => horizon ≤ cheque.datetimeCreation }
  else db

-- Lines 962-968.
def clearOnlineInfo (hardfork618Time : Nat) (db : ObjectDatabase) : ObjectDatabase :=
  if hardfork618Time < db.headBlockTime then { db with onlineInfo := [] } else db

-- Lines 908-969.
def clearOldEntities (cfg : Config) (historySize : Nat) (db : ObjectDatabase) : ObjectDatabase :=
  clearOnlineInfo cfg.hardfork618Time
    (reapOldEntities cfg.hardfork617Time historySize (clearMatureBalances cfg.hardfork616MaintenanceChangeTime db))

def ChequeReverseLocal (evaluator : Evaluator) : Prop :=
  ∀ chequeId account amount ledger ledger', evaluator (.chequeReverse chequeId account amount) ledger = .ok ledger' →
    ∀ id, id ≠ chequeId → ledger'.cheques.find? (·.id = id) = ledger.cheques.find? (·.id = id)

theorem reverseCheque_find? {evaluator : Evaluator} (reverseLocal : ChequeReverseLocal evaluator)
    {cheque : ChequeObject} {ledger ledger' : Ledger} (run : reverseCheque evaluator cheque ledger = .ok ledger')
    {id : Nat} (other : id ≠ cheque.id) : ledger'.cheques.find? (·.id = id) = ledger.cheques.find? (·.id = id) := by
  unfold reverseCheque at run
  split at run
  · cases run
    exact reverseLocal _ _ _ _ _ ‹_› id other
  · cases run
    rfl
  · cases run

theorem find?_id_of_mem : ∀ {cheques : List ChequeObject}, (cheques.map (·.id)).Nodup →
    ∀ {cheque : ChequeObject}, cheque ∈ cheques → cheques.find? (·.id = cheque.id) = some cheque
  | [], _, _, mem => absurd mem (List.not_mem_nil _)
  | first :: rest, distinct, cheque, mem => by
    obtain ⟨fresh, restDistinct⟩ := List.nodup_cons.mp distinct
    rcases List.mem_cons.mp mem with rfl | later
    · simp
    · have other : first.id ≠ cheque.id := fun same => fresh (List.mem_map.mpr ⟨cheque, later, same.symm⟩)
      simp only [List.find?_cons, other, decide_False]
      exact find?_id_of_mem restDistinct later

theorem processChequesLoop_eq {evaluator : Evaluator} (reverseLocal : ChequeReverseLocal evaluator)
    (nextMaintenanceTime maintenanceInterval : Nat) :
    ∀ (cheques : List ChequeObject) (ledger : Ledger), (cheques.map (·.id)).Nodup →
      (∀ cheque ∈ cheques, ledger.cheques.find? (·.id = cheque.id) = some cheque) →
      processChequesLoop evaluator nextMaintenanceTime maintenanceInterval cheques ledger =
        (cheques.filter (chequeIsOverdue nextMaintenanceTime maintenanceInterval)).foldlM
          (fun ledger cheque => reverseCheque evaluator cheque ledger) ledger
  | [], _, _, _ => rfl
  | cheque :: rest, ledger, distinct, current => by
    obtain ⟨fresh, restDistinct⟩ := List.nodup_cons.mp distinct
    have others : ∀ later ∈ rest, later.id ≠ cheque.id := fun later mem same =>
      fresh (List.mem_map.mpr ⟨later, mem, same⟩)
    have restEq := processChequesLoop_eq reverseLocal nextMaintenanceTime maintenanceInterval rest
    simp only [processChequesLoop, current cheque (List.mem_cons_self _ _), Option.getD_some]
    by_cases overdue : chequeIsOverdue nextMaintenanceTime maintenanceInterval cheque
    · simp only [overdue, if_true, List.filter_cons_of_pos overdue, List.foldlM_cons]
      cases reversed : reverseCheque evaluator cheque ledger with
      | error e => rfl
      | ok ledger' =>
        refine restEq ledger' restDistinct fun later mem => ?_
        rw [reverseCheque_find? reverseLocal reversed (others later mem)]
        exact current later (List.mem_cons_of_mem _ mem)
    · simp only [overdue, Bool.false_eq_true, if_false, List.filter_cons_of_neg overdue, ok_bind]
      exact restEq ledger restDistinct fun later mem => current later (List.mem_cons_of_mem _ mem)

theorem processCheques_schedule {evaluator : Evaluator} {db db' : ObjectDatabase}
    (run : processCheques evaluator db = .ok db') : db'.schedule = db.schedule := by
  obtain ⟨ledger, -, done⟩ := bind_eq_ok run
  cases done
  rfl

section Clear
variable (cfg : Config) (historySize : Nat) (db : ObjectDatabase)

@[simp] theorem clearMatureBalances_headBlockTime :
    (clearMatureBalances cfg.hardfork616MaintenanceChangeTime db).headBlockTime = db.headBlockTime := by
  unfold clearMatureBalances
  split <;> rfl

@[simp] theorem clearMatureBalances_cheques :
    (clearMatureBalances cfg.hardfork616MaintenanceChangeTime db).ledger.cheques = db.ledger.cheques := by
  unfold clearMatureBalances
  split <;> rfl

@[simp] theorem clearOnlineInfo_ledger (hardfork618Time : Nat) :
    (clearOnlineInfo hardfork618Time db).ledger = db.ledger := by
  unfold clearOnlineInfo
  split <;> rfl

theorem clearOldEntities_cheques :
    (clearOldEntities cfg historySize db).ledger.cheques =
      if 0 < historySize then
        db.ledger.cheques.filter fun cheque => historyHorizon db.headBlockTime historySize ≤ cheque.datetimeCreation
      else db.ledger.cheques := by
  rw [clearOldEntities, clearOnlineInfo_ledger, reapOldEntities]
  split <;> simp

end Clear

theorem cheques_removed_by_creation_time (evaluator : Evaluator) (cfg : Config) (historySize : Nat)
    (db : ObjectDatabase) (positive : 0 < historySize) (distinct : (db.ledger.cheques.map (·.id)).Nodup)
    (reverseLocal : ChequeReverseLocal evaluator) :
    processCheques evaluator db = (do
      let ledger ← (db.ledger.cheques.filter
          (chequeIsOverdue db.dgpo.nextMaintenanceTime db.gpo.parameters.maintenanceInterval)).foldlM
        (fun ledger cheque => reverseCheque evaluator cheque ledger) db.ledger
      .ok { db with ledger := ledger }) ∧
    ∀ db', processCheques evaluator db = .ok db' →
      (clearOldEntities cfg historySize db').ledger.cheques =
        db'.ledger.cheques.filter fun cheque => historyHorizon db.headBlockTime historySize ≤ cheque.datetimeCreation := by
  refine ⟨by rw [processCheques, processChequesLoop_eq reverseLocal _ _ _ _ distinct fun cheque mem =>
    find?_id_of_mem distinct mem], fun db' run => ?_⟩
  have sameTime : db'.headBlockTime = db.headBlockTime := congrArg (·.1.time) (processCheques_schedule run)
  rw [clearOldEntities_cheques, if_pos positive, sameTime]

def staleChequeDb : ObjectDatabase :=
  { dgpo := { time := 864000, nextMaintenanceTime := 950400 }
    ledger := { cheques := [{ id := 0, drawer := 1, datetimeExpiration := 1000000, remainingAmount := 100 }] } }

theorem cheques_removed_stale_cheque_scenario :
    ∃ db', processCheques (fun _ ledger => .ok ledger) staleChequeDb = .ok db' ∧
      (clearOldEntities exampleConfig 1 db').ledger.cheques =
        db'.ledger.cheques.filter fun cheque => historyHorizon staleChequeDb.headBlockTime 1 ≤ cheque.datetimeCreation :=
  ⟨_, rfl, (cheques_removed_by_creation_time (fun _ ledger => .ok ledger) exampleConfig 1 staleChequeDb (by decide) (by decide)
    (fun _ _ _ _ _ run _ _ => by cases run; rfl)).2 _ rfl⟩

theorem clear_old_entities_removes_new_cheque :
    (processCheques (fun _ ledger => .ok ledger) staleChequeDb).toOption.map
      (fun db => (db.ledger.cheques.map (·.status), (clearOldEntities exampleConfig 1 db).ledger.cheques.length)) =
        some ([.chequeNew], 0) := by
  decide

end Graphene.Chain
