import GrapheneMaintenance.Database
import Mathlib.Data.List.Nodup

set_option autoImplicit false

/- `database::process_funds`, lines 971-989, which a pass runs after `HARDFORK_622_TIME`. The
   funds are walked by id, and each is read again when the walk reaches it, so the walk sees what
   an earlier fund's handlers did to it. `fund_object::process`, `fund_object::finish` and
   `fund_object::get_datetime_end` are not part of the sources: the first two are parameters that
   may change the ledger or throw, and the last is read as `datetime_end`. `WindsDown` states what
   the handlers are meant to do to the fund records: `process` leaves them, and `finish` disables
   its own fund and no other. -/
namespace Graphene.Chain

structure FundHandlers where
  process : FundObject → Ledger → Except Fault Ledger
  finish : FundObject → Ledger → Except Fault Ledger

def findFund (funds : List FundObject) (id : Nat) : Option FundObject := funds.find? (·.id = id)

-- Line 985: `dpo.next_maintenance_time - maintenance_interval` on `time_point_sec`, in `uint32_t`.
def fundIntervalEnd (db : ObjectDatabase) : Nat :=
  wrap32 ((db.dgpo.nextMaintenanceTime : Int) - db.gpo.parameters.maintenanceInterval)

-- Lines 978-987.
def processFund (handlers : FundHandlers) (now intervalEnd : Nat) (ledger : Ledger) (id : Nat) :
    Except Fault Ledger :=
  match findFund ledger.funds id with
  | none => .ok ledger
  | some fund =>
    if fund.enabled = false ∨ fund.datetimeEnd < now then .ok ledger
    else do
      let ledger ← handlers.process fund ledger
      let fund := (findFund ledger.funds id).getD fund
      if fund.datetimeEnd ≤ intervalEnd then handlers.finish fund ledger else .ok ledger

def processFundsLoop (handlers : FundHandlers) (now intervalEnd : Nat) : List Nat → Ledger → Except Fault Ledger
  | [], ledger => .ok ledger
  | id :: rest, ledger => do
    let ledger ← processFund handlers now intervalEnd ledger id
    processFundsLoop handlers now intervalEnd rest ledger

-- Lines 971-989.
def processFunds (handlers : FundHandlers) (db : ObjectDatabase) : Except Fault Ledger :=
  processFundsLoop handlers db.headBlockTime (fundIntervalEnd db) (db.ledger.funds.map (·.id)) db.ledger

structure FundHandlers.WindsDown (handlers : FundHandlers) : Prop where
  processKeeps : ∀ fund ledger ledger', handlers.process fund ledger = .ok ledger' → ledger'.funds = ledger.funds
  finishDisables : ∀ fund ledger ledger', handlers.finish fund ledger = .ok ledger' →
    ledger'.funds = ledger.funds.map fun f => if f.id = fund.id then { f with enabled := false } else f

def FundObject.IsDue (now intervalEnd : Nat) (fund : FundObject) : Prop :=
  fund.enabled = true ∧ now ≤ fund.datetimeEnd ∧ fund.datetimeEnd ≤ intervalEnd

instance (now intervalEnd : Nat) (fund : FundObject) : Decidable (fund.IsDue now intervalEnd) :=
  inferInstanceAs (Decidable (_ ∧ _))

def windDownFund (now intervalEnd : Nat) (done : List Nat) (fund : FundObject) : FundObject :=
  if fund.id ∈ done ∧ fund.IsDue now intervalEnd then { fund with enabled := false } else fund

section
variable {now intervalEnd : Nat} {funds : List FundObject} {done : List Nat} {id : Nat}

@[simp] theorem windDownFund_id (fund : FundObject) : (windDownFund now intervalEnd done fund).id = fund.id := by
  unfold windDownFund
  split <;> rfl

theorem windDownFund_of_fresh {fund : FundObject} (fresh : fund.id ∉ done) :
    windDownFund now intervalEnd done fund = fund := by
  rw [windDownFund, if_neg fun due => fresh due.1]

theorem findFund_windDown (fresh : id ∉ done) :
    findFund (funds.map (windDownFund now intervalEnd done)) id = findFund funds id := by
  unfold findFund
  rw [List.find?_map]
  have sameKey : (fun fund : FundObject => decide (fund.id = id)) ∘ windDownFund now intervalEnd done =
      fun fund => decide (fund.id = id) := by
    funext fund
    simp only [Function.comp_apply, windDownFund_id]
  rw [sameKey]
  cases found : funds.find? (·.id = id) with
  | none => rfl
  | some fund =>
    have same : fund.id = id := by simpa using List.find?_some found
    rw [Option.map_some', windDownFund_of_fresh (same ▸ fresh)]

theorem windDownFund_cons_of_not_due (notDue : ∀ fund ∈ funds, fund.id = id → ¬fund.IsDue now intervalEnd) :
    funds.map (windDownFund now intervalEnd (id :: done)) = funds.map (windDownFund now intervalEnd done) :=
  List.map_congr_left fun fund mem => by
    by_cases same : fund.id = id
    · simp only [windDownFund, List.mem_cons, same, true_or, true_and, notDue fund mem same, if_false]
      split <;> simp_all
    · simp only [windDownFund, List.mem_cons, same, false_or]

theorem findFund_unique (distinct : (funds.map (·.id)).Nodup) {fund : FundObject}
    (found : findFund funds id = some fund) : ∀ other ∈ funds, other.id = id → other = fund := by
  have same : fund.id = id := by simpa using List.find?_some found
  exact fun other mem otherSame => List.inj_on_of_nodup_map distinct mem (List.mem_of_find?_eq_some found)
    (otherSame.trans same.symm)

theorem not_due_of_found (distinct : (funds.map (·.id)).Nodup) {fund : FundObject}
    (found : findFund funds id = some fund) (notDue : ¬fund.IsDue now intervalEnd) :
    ∀ other ∈ funds, other.id = id → ¬other.IsDue now intervalEnd := fun other mem same =>
  findFund_unique distinct found other mem same ▸ notDue

variable {handlers : FundHandlers}

theorem processFund_windDown (spec : handlers.WindsDown) (distinct : (funds.map (·.id)).Nodup)
    (fresh : id ∉ done) {ledger ledger' : Ledger}
    (current : ledger.funds = funds.map (windDownFund now intervalEnd done))
    (run : processFund handlers now intervalEnd ledger id = .ok ledger') :
    ledger'.funds = funds.map (windDownFund now intervalEnd (id :: done)) := by
  have lookup : findFund ledger.funds id = findFund funds id := by
    rw [current]
    exact findFund_windDown fresh
  unfold processFund at run
  rw [lookup] at run
  cases found : findFund funds id with
  | none =>
    rw [found] at run
    cases run
    rw [current, windDownFund_cons_of_not_due]
    intro fund mem same
    have absent := List.find?_eq_none.mp found fund mem
    simp [same] at absent
  | some fund =>
    rw [found] at run
    dsimp only at run
    split at run
    · rename_i skipped
      cases run
      rw [current, windDownFund_cons_of_not_due (not_due_of_found distinct found fun due => ?_)]
      rcases skipped with disabled | past
      · exact absurd due.1 (by simp [disabled])
      · exact absurd due.2.1 (by omega)
    · rename_i kept
      obtain ⟨processed, processRun, run⟩ := bind_eq_ok run
      have keeps := spec.processKeeps _ _ _ processRun
      rw [keeps, lookup, found, Option.getD_some] at run
      split at run
      · rename_i ended
        have fundId : fund.id = id := by simpa using List.find?_some found
        obtain ⟨enabled, notPast⟩ : fund.enabled = true ∧ now ≤ fund.datetimeEnd := by simpa using kept
        rw [spec.finishDisables _ _ _ run, keeps, current, List.map_map]
        refine List.map_congr_left fun other mem => ?_
        simp only [Function.comp_apply, windDownFund_id, fundId]
        by_cases same : other.id = id
        · obtain rfl := findFund_unique distinct found other mem same
          have due : other.IsDue now intervalEnd := ⟨enabled, notPast, ended⟩
          simp [windDownFund, same, fresh, due]
        · simp [windDownFund, same]
      · rename_i notEnded
        cases run
        rw [keeps, current, windDownFund_cons_of_not_due (not_due_of_found distinct found fun due => notEnded due.2.2)]

theorem processFundsLoop_windDown (spec : handlers.WindsDown) (distinct : (funds.map (·.id)).Nodup) :
    ∀ (ids : List Nat) (done : List Nat) (ledger ledger' : Ledger), (ids ++ done).Nodup →
      ledger.funds = funds.map (windDownFund now intervalEnd done) →
      processFundsLoop handlers now intervalEnd ids ledger = .ok ledger' →
      ledger'.funds = funds.map (windDownFund now intervalEnd (ids.reverse ++ done))
  | [], done, ledger, ledger', _, current, run => by
    cases run
    exact current
  | id :: rest, done, ledger, ledger', fresh, current, run => by
    obtain ⟨next, step, run⟩ := bind_eq_ok run
    have fresh' : (rest ++ id :: done).Nodup := List.perm_middle.nodup_iff.mpr fresh
    have stepped := processFund_windDown spec distinct
      (fun old => (List.nodup_cons.mp fresh).1 (List.mem_append_right _ old)) current step
    rw [processFundsLoop_windDown spec distinct rest (id :: done) next ledger' fresh' stepped run]
    simp

end

theorem process_funds_winds_down_due (handlers : FundHandlers) (spec : handlers.WindsDown) (db : ObjectDatabase)
    (distinct : (db.ledger.funds.map (·.id)).Nodup) (ledger : Ledger) (run : processFunds handlers db = .ok ledger) :
    ledger.funds = db.ledger.funds.map fun fund =>
      if fund.enabled = true ∧ db.headBlockTime ≤ fund.datetimeEnd ∧ fund.datetimeEnd ≤ fundIntervalEnd db then
        { fund with enabled := false } else fund := by
  have start : db.ledger.funds = db.ledger.funds.map (windDownFund db.headBlockTime (fundIntervalEnd db) []) := by
    rw [List.map_congr_left fun fund _ => windDownFund_of_fresh (List.not_mem_nil fund.id), List.map_id']
  rw [processFundsLoop_windDown spec distinct _ [] db.ledger ledger (by simpa using distinct) start run]
  refine List.map_congr_left fun fund mem => ?_
  simp [windDownFund, FundObject.IsDue, List.mem_map_of_mem (·.id) mem]

def disablingHandlers : FundHandlers :=
  { process := fun _ ledger => .ok ledger
    finish := fun fund ledger => .ok { ledger with
      funds := ledger.funds.map fun f => if f.id = fund.id then { f with enabled := false } else f } }

theorem disablingHandlers_windsDown : disablingHandlers.WindsDown :=
  ⟨fun _ _ _ run => by cases run; rfl, fun _ _ _ run => by cases run; rfl⟩

def dueFundDb : ObjectDatabase :=
  { dgpo := { time := 200, nextMaintenanceTime := 300 }
    gpo := { parameters := { maintenanceInterval := 100 } }
    ledger := { funds := [{ id := 0, datetimeEnd := 200 }, { id := 1, datetimeEnd := 100 }] } }

theorem process_funds_due_fund :
    ∃ ledger, processFunds disablingHandlers dueFundDb = .ok ledger ∧
      ledger.funds = [{ id := 0, enabled := false, datetimeEnd := 200 }, { id := 1, datetimeEnd := 100 }] := by
  refine ⟨_, rfl, ?_⟩
  rw [process_funds_winds_down_due disablingHandlers disablingHandlers_windsDown dueFundDb (by decide) _ rfl]
  decide

def overdueFundDb : ObjectDatabase :=
  { dgpo := { time := 200, nextMaintenanceTime := 250 }
    gpo := { parameters := { maintenanceInterval := 100 } }
    ledger := { funds := [{ id := 0, datetimeEnd := 100 }] } }

theorem process_funds_skips_overdue_fund :
    fundIntervalEnd overdueFundDb = 150 ∧
      (processFunds disablingHandlers overdueFundDb).toOption.map (·.funds) = some [{ id := 0, datetimeEnd := 100 }] := by
  decide

end Graphene.Chain
