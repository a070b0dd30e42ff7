import GrapheneMaintenance.PassOutcome

set_option autoImplicit false

/- The budget history over a run of maintenance blocks. A completed pass appends one
   `budget_record_object`, stamped with its head block time, whose `time_since_last_budget` runs
   from the last budget time to the head block, and moves the last budget time to the head block;
   no other step of the pass writes either. Over a run whose ordinary blocks leave the last budget
   time alone, the records' spans add up to the time from the first budget to the last
   maintenance block: no second is budgeted twice or left out. -/
namespace Graphene.Chain

def ObjectDatabase.budgetTrail (db : ObjectDatabase) : Nat × Nat × List BudgetRecordObject :=
  (db.dgpo.time, db.dgpo.lastBudgetTime, db.budgetRecords)

section Trail
variable {cfg : Config} {co : Collaborators} {db db' : ObjectDatabase}

theorem prepareMaintenance_budgetTrail (run : prepareMaintenance cfg co db = .ok db') :
    db'.budgetTrail = db.budgetTrail := by
  have kept := (prepareMaintenance_frame run).1
  simp only [ObjectDatabase.splitFrame, Prod.mk.injEq] at kept
  simp only [ObjectDatabase.budgetTrail, kept]

theorem writeLedger_budgetTrail {step : ObjectDatabase → Except Fault Ledger} (run : writeLedger step db = .ok db') :
    db'.budgetTrail = db.budgetTrail := by
  obtain ⟨_, -, rfl⟩ := writeLedger_ok run
  rfl

theorem updateActiveWitnesses_budgetTrail {hardfork533Time witnessAccount : Nat} {voteCounter : VoteCounter}
    {buffers : ScratchBuffers} (run : updateActiveWitnesses hardfork533Time witnessAccount voteCounter buffers db = .ok db') :
    db'.budgetTrail = db.budgetTrail := by
  obtain ⟨count, -, run⟩ := bind_eq_ok run
  obtain ⟨accounts, -, run⟩ := bind_eq_ok run
  cases run
  rfl

theorem updateActiveCommitteeMembers_budgetTrail {hardfork533Time committeeAccount relaxedCommitteeAccount : Nat}
    {voteCounter : VoteCounter} {buffers : ScratchBuffers}
    (run : updateActiveCommitteeMembers hardfork533Time committeeAccount relaxedCommitteeAccount voteCounter
      buffers db = .ok db') :
    db'.budgetTrail = db.budgetTrail := by
  obtain ⟨c, accounts, -, rfl⟩ := updateActiveCommitteeMembers_inv run
  rfl

@[simp] theorem updateWorkerVotes_budgetTrail (hardfork607Time : Nat) (tally : List Nat) (db : ObjectDatabase) :
    (updateWorkerVotes hardfork607Time tally db).budgetTrail = db.budgetTrail := rfl

@[simp] theorem switchParameters_budgetTrail (db : ObjectDatabase) : (switchParameters db).budgetTrail = db.budgetTrail := by
  unfold switchParameters
  split <;> rfl

theorem advanceMaintenance_budgetTrail {evaluator : Evaluator} {blockNum : Nat}
    (run : advanceMaintenance cfg evaluator blockNum db = .ok db') : db'.budgetTrail = db.budgetTrail := by
  obtain ⟨_, rfl⟩ := advanceMaintenance_ok run
  rfl

theorem completed_pass_budget {blockNum : Nat} {db : Database} {objects : ObjectDatabase} {buffers : ScratchBuffers}
    (run : performChainMaintenance cfg co blockNum db = (.ok objects, buffers)) :
    ∃ record : BudgetRecord,
      objects.budgetRecords = db.objects.budgetRecords ++ [⟨db.objects.headBlockTime, record⟩] ∧
      objects.dgpo.lastBudgetTime = db.objects.headBlockTime ∧
      record.timeSinceLastBudget =
        if db.objects.dgpo.lastBudgetTime = 0 ∨ db.objects.headBlockTime ≤ db.objects.dgpo.lastBudgetTime then 0
        else db.objects.headBlockTime - db.objects.dgpo.lastBudgetTime := by
  obtain ⟨prepared, ledger, tally, prepareRun, -, finish, -⟩ := performChainMaintenance_inv run
  obtain ⟨top, elected, committee, advanced, budgeted, topRun, electRun, committeeRun, advanceRun, budgetRun,
    settleRun⟩ := finishMaintenance_inv finish
  have prepareKept := prepareMaintenance_budgetTrail prepareRun
  have before : advanced.budgetTrail = db.objects.budgetTrail := by
    rw [advanceMaintenance_budgetTrail advanceRun, switchParameters_budgetTrail, updateWorkerVotes_budgetTrail,
      updateActiveCommitteeMembers_budgetTrail committeeRun, updateActiveWitnesses_budgetTrail electRun,
      writeLedger_budgetTrail topRun]
    exact prepareKept
  have after := settleMaintenance_records settleRun
  obtain ⟨budgetLedger, witnessBudget, initial, record, rfl, initialized, span⟩ := processBudget_inv budgetRun
  rw [initializeBudgetRecord_timeSinceLastBudget initialized] at span
  simp only [ObjectDatabase.budgetTrail, ObjectDatabase.records, Prod.mk.injEq] at before after
  obtain ⟨time, last, records⟩ := before
  obtain ⟨dgpo, -, -, -, records'⟩ := after
  simp only [ObjectDatabase.headBlockTime, time, last, records] at span dgpo records'
  exact ⟨record, records', by rw [dgpo]; rfl, span⟩

def budgetSpan (cfg : Config) (co : Collaborators) (block : Nat × Database) : Nat :=
  ((maintainChain cfg co block.1 block.2).objects.budgetRecords.getLastD ⟨0, {}⟩).record.timeSinceLastBudget

theorem budgetSpan_of_completes {blockNum : Nat} {db : Database}
    (completes : (performChainMaintenance cfg co blockNum db).1.isOk = true) :
    budgetSpan cfg co (blockNum, db) =
        (if db.objects.dgpo.lastBudgetTime = 0 ∨ db.objects.headBlockTime ≤ db.objects.dgpo.lastBudgetTime then 0
        else db.objects.headBlockTime - db.objects.dgpo.lastBudgetTime) ∧
      (maintainChain cfg co blockNum db).objects.dgpo.lastBudgetTime = db.objects.headBlockTime ∧
      db.objects.headBlockTime < (maintainChain cfg co blockNum db).objects.dgpo.nextMaintenanceTime := by
  obtain ⟨buffers, run⟩ := maintainChain_of_isOk completes
  obtain ⟨record, records, last, span⟩ := completed_pass_budget run
  refine ⟨?_, last, (performChainMaintenance_after_head run).2⟩
  rw [budgetSpan, records, List.getLastD_concat, ← span]

theorem completed_run_budgets_each_second : ∀ {old : Nat} {first : Nat × Database} {rest : List (Nat × Database)},
    CompletedRun cfg co old (first :: rest) →
    (∀ block ∈ first :: rest, block.2.objects.dgpo.nextMaintenanceTime ≤ block.2.objects.headBlockTime) →
    (first :: rest).Chain' (fun earlier later =>
      later.2.objects.dgpo.lastBudgetTime = (maintainChain cfg co earlier.1 earlier.2).objects.dgpo.lastBudgetTime) →
    0 < first.2.objects.dgpo.lastBudgetTime → first.2.objects.dgpo.lastBudgetTime ≤ first.2.objects.headBlockTime →
    ((first :: rest).map (budgetSpan cfg co)).sum + first.2.objects.dgpo.lastBudgetTime =
      ((first :: rest).getLast (List.cons_ne_nil _ _)).2.objects.headBlockTime
  | _, (blockNum, db), [], ⟨_, completes, _⟩, _, _, budgeted, started => by
    obtain ⟨span, -, -⟩ := budgetSpan_of_completes completes
    dsimp only at budgeted started ⊢
    simp only [List.map_cons, List.map_nil, List.sum_cons, List.sum_nil, List.getLast_singleton, span]
    split_ifs <;> omega
  | _, (blockNum, db), (nextNum, nextDb) :: rest, ⟨_, completes, restRun⟩, due, linked, budgeted, started => by
    obtain ⟨span, moved, after⟩ := budgetSpan_of_completes completes
    obtain ⟨link, restLinked⟩ := List.chain'_cons.mp linked
    have nextStart := restRun.1
    have nextDue := due (nextNum, nextDb) (List.mem_cons_of_mem _ (List.mem_cons_self _ _))
    dsimp only at link nextDue budgeted started
    have ih := completed_run_budgets_each_second restRun (fun block mem => due block (List.mem_cons_of_mem _ mem))
      restLinked (by dsimp only; omega) (by dsimp only; omega)
    rw [List.getLast_cons (List.cons_ne_nil _ _)]
    simp only [List.map_cons, List.sum_cons] at ih ⊢
    rw [span]
    split_ifs <;> omega

end Trail

def budgetDayOne : Database :=
  { votingPass with objects.dgpo := { time := 1000, nextMaintenanceTime := 1000, lastBudgetTime := 500 } }

def budgetDayTwo : Database :=
  { votingPass with objects.dgpo := { time := 87400, nextMaintenanceTime := 87400, lastBudgetTime := 1000 } }

theorem budget_spans_two_days :
    CompletedRun exampleConfig quietCollaborators 1000 [(2, budgetDayOne), (3, budgetDayTwo)] ∧
      ([(2, budgetDayOne), (3, budgetDayTwo)].map (budgetSpan exampleConfig quietCollaborators)).sum + 500 = 87400 :=
  have run : CompletedRun exampleConfig quietCollaborators 1000 [(2, budgetDayOne), (3, budgetDayTwo)] :=
    ⟨rfl, by decide, (by decide : CompletedRun exampleConfig quietCollaborators 87400 [(3, budgetDayTwo)])⟩
  ⟨run, completed_run_budgets_each_second run (by decide) (List.chain'_pair.mpr (by decide)) (by decide) (by decide)⟩

end Graphene.Chain
