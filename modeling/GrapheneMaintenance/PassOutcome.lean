import GrapheneMaintenance.Pass

set_option autoImplicit false

/- What a maintenance pass that completes leaves behind. `distribute_fba_balances` empties the
   three FBA pools, and `update_active_witnesses` and `update_worker_votes` store the totals of
   the pass's own tally in the witness and worker objects; no later step of the pass writes any
   of them again. `deprecate_annual_members`, run by the pass whose deadline crosses
   `HARDFORK_613_TIME`, leaves no annual member when each upgrade succeeds. -/
namespace Graphene.Chain

def ObjectDatabase.splitFrame (db : ObjectDatabase) :
    GlobalPropertyObject × DynamicGlobalPropertyObject × List WitnessObject × List WorkerObject ×
      List BudgetRecordObject :=
  (db.gpo, db.dgpo, db.witnesses, db.workers, db.budgetRecords)

def ObjectDatabase.outcome (db : ObjectDatabase) :
    List WitnessObject × List WorkerObject × List FbaAccumulatorObject :=
  (db.witnesses, db.workers, db.fbaAccumulators)

section Split
variable {P fbaId networkPct buybackPct issuerPct : Nat} {db db' : ObjectDatabase}

theorem poolFees_emptyFbaPool (db : ObjectDatabase) (fbaId id : Nat) :
    poolFees (db.emptyFbaPool fbaId).fbaAccumulators id = if id = fbaId then 0 else poolFees db.fbaAccumulators id := by
  split
  · rename_i same
    subst same
    exact poolFees_emptyPool _ _
  · exact poolFees_emptyPool_of_ne _ ‹_›

@[simp] theorem creditFba_splitFrame (account : AccountId) (fbaId : Nat) (amount : Int) (db : ObjectDatabase) :
    (creditFba account fbaId amount db).splitFrame = db.splitFrame := by
  unfold creditFba
  split <;> rfl

theorem burnNetworkAmount_frame {networkAmount : Int} (run : burnNetworkAmount networkAmount db = .ok db') :
    db'.splitFrame = db.splitFrame ∧ db'.fbaAccumulators = db.fbaAccumulators := by
  unfold burnNetworkAmount at run
  split at run
  · obtain ⟨supply, -, run⟩ := bind_eq_ok run
    cases run
    exact ⟨rfl, rfl⟩
  · cases run
    exact ⟨rfl, rfl⟩

theorem splitFbaBalance_frame (run : splitFbaBalance P fbaId networkPct buybackPct issuerPct db = .ok db') :
    db'.splitFrame = db.splitFrame ∧
      ∀ id, poolFees db'.fbaAccumulators id = if id = fbaId then 0 else poolFees db.fbaAccumulators id := by
  unfold splitFbaBalance at run
  obtain ⟨-, -, run⟩ := bind_eq_ok run
  obtain ⟨fba, found, run⟩ := bind_eq_ok run
  simp only [pure_bind] at run
  split at run
  · rename_i noFees
    cases run
    refine ⟨rfl, fun id => ?_⟩
    split
    · rename_i same
      subst same
      rw [poolFees_of_findFba found, noFees]
    · rfl
  split at run
  · obtain ⟨supply, -, run⟩ := bind_eq_ok run
    cases run
    exact ⟨rfl, poolFees_emptyFbaPool _ _⟩
  obtain ⟨buyback, -, run⟩ := bind_eq_ok run
  obtain ⟨issuer, -, run⟩ := bind_eq_ok run
  obtain ⟨credited, -, run⟩ := bind_eq_ok run
  obtain ⟨-, -, run⟩ := bind_eq_ok run
  obtain ⟨network, -, run⟩ := bind_eq_ok run
  obtain ⟨asset, -, run⟩ := bind_eq_ok run
  obtain ⟨burnt, burn, run⟩ := bind_eq_ok run
  obtain ⟨account, -, run⟩ := bind_eq_ok run
  cases run
  obtain ⟨kept, pools⟩ := burnNetworkAmount_frame burn
  refine ⟨(creditFba_splitFrame _ _ _ _).trans ((creditFba_splitFrame _ _ _ _).trans kept), fun id => ?_⟩
  rw [poolFees_emptyFbaPool, creditFba_fbaAccumulators, creditFba_fbaAccumulators, pools]

theorem distributeFbaBalances_frame {onePercent a b c : Nat}
    (run : distributeFbaBalances P onePercent a b c db = .ok db') :
    db'.splitFrame = db.splitFrame ∧ poolFees db'.fbaAccumulators a = 0 ∧ poolFees db'.fbaAccumulators b = 0 ∧
      poolFees db'.fbaAccumulators c = 0 := by
  obtain ⟨first, firstRun, run⟩ := bind_eq_ok run
  obtain ⟨second, secondRun, run⟩ := bind_eq_ok run
  obtain ⟨firstKept, firstPools⟩ := splitFbaBalance_frame firstRun
  obtain ⟨secondKept, secondPools⟩ := splitFbaBalance_frame secondRun
  obtain ⟨thirdKept, thirdPools⟩ := splitFbaBalance_frame run
  refine ⟨thirdKept.trans (secondKept.trans firstKept), ?_, ?_, ?_⟩ <;> simp [thirdPools, secondPools, firstPools]

end Split

section Outcome
variable {cfg : Config} {co : Collaborators} {db db' : ObjectDatabase}

theorem prepareMaintenance_frame (run : prepareMaintenance cfg co db = .ok db') :
    db'.splitFrame = db.splitFrame ∧ poolFees db'.fbaAccumulators cfg.fbaAccumulatorIdTransferToBlind = 0 ∧
      poolFees db'.fbaAccumulators cfg.fbaAccumulatorIdBlindTransfer = 0 ∧
      poolFees db'.fbaAccumulators cfg.fbaAccumulatorIdTransferFromBlind = 0 := by
  obtain ⟨distributed, distributeRun, run⟩ := bind_eq_ok run
  obtain ⟨_, -, rfl⟩ := writeLedger_ok run
  have frame := distributeFbaBalances_frame distributeRun
  exact frame

theorem processBudget_outcome {coreAssetCycleRate coreAssetCycleRateBits : Nat} {nullAccount : AccountId}
    (run : processBudget coreAssetCycleRate coreAssetCycleRateBits nullAccount db = .ok db') : db'.outcome = db.outcome := by
  obtain ⟨ledger, witnessBudget, initial, record, rfl, -⟩ := processBudget_inv run
  rfl

@[simp] theorem switchParameters_outcome (db : ObjectDatabase) : (switchParameters db).outcome = db.outcome := by
  unfold switchParameters
  split <;> rfl

theorem updateActiveWitnesses_outcome {hardfork533Time witnessAccount : Nat} {voteCounter : VoteCounter}
    {buffers : ScratchBuffers} (run : updateActiveWitnesses hardfork533Time witnessAccount voteCounter buffers db = .ok db') :
    db'.outcome = (db.witnesses.map fun w => { w with totalVotes := voteTally buffers.voteTallyBuffer w.voteId },
      db.workers, db.fbaAccumulators) := by
  obtain ⟨count, -, run⟩ := bind_eq_ok run
  obtain ⟨accounts, -, run⟩ := bind_eq_ok run
  cases run
  rfl

theorem updateActiveCommitteeMembers_outcome {hardfork533Time committeeAccount relaxedCommitteeAccount : Nat}
    {voteCounter : VoteCounter} {buffers : ScratchBuffers}
    (run : updateActiveCommitteeMembers hardfork533Time committeeAccount relaxedCommitteeAccount voteCounter
      buffers db = .ok db') :
    db'.outcome = db.outcome := by
  obtain ⟨c, accounts, -, rfl⟩ := updateActiveCommitteeMembers_inv run
  rfl

theorem finishMaintenance_outcome {blockNum historySize : Nat} {buffers : ScratchBuffers}
    (run : finishMaintenance cfg co blockNum historySize buffers db = .ok db') :
    db'.outcome = (db.witnesses.map fun w => { w with totalVotes := voteTally buffers.voteTallyBuffer w.voteId },
      (updateWorkerVotes cfg.hardfork607Time buffers.voteTallyBuffer db).workers, db.fbaAccumulators) := by
  obtain ⟨top, elected, committee, advanced, budgeted, topRun, electRun, committeeRun, advanceRun, budgetRun,
    settleRun⟩ := finishMaintenance_inv run
  have head : committee.headBlockTime = db.headBlockTime := congrArg (·.1.time)
    ((updateActiveCommitteeMembers_schedule committeeRun).trans
      ((updateActiveWitnesses_schedule electRun).trans (writeLedger_schedule topRun)))
  obtain ⟨_, -, rfl⟩ := writeLedger_ok topRun
  have electedOutcome := updateActiveWitnesses_outcome electRun
  have committeeOutcome := updateActiveCommitteeMembers_outcome committeeRun
  obtain ⟨_, rfl⟩ := advanceMaintenance_ok advanceRun
  have settled : db'.outcome = budgeted.outcome := by
    have records := settleMaintenance_records settleRun
    simp only [ObjectDatabase.records, Prod.mk.injEq] at records
    simp only [ObjectDatabase.outcome, records]
  have budget := processBudget_outcome budgetRun
  calc db'.outcome = budgeted.outcome := settled
    _ = (switchParameters (updateWorkerVotes cfg.hardfork607Time buffers.voteTallyBuffer committee)).outcome := budget
    _ = _ := by
      rw [switchParameters_outcome]
      simp only [ObjectDatabase.outcome, Prod.mk.injEq] at electedOutcome committeeOutcome ⊢
      simp only [updateWorkerVotes, head, committeeOutcome, electedOutcome, and_self]

end Outcome

def tallied (size : Nat) (leftover : List Nat) (ballots : List Ballot) (v : VoteId) : Nat :=
  if v.instance < size then (leftover.getD v.instance 0 + ballotVotes ballots v.instance) % 2 ^ 64 else 0

theorem tallyPass_voteTally {proxyToSelfAccount : AccountId} {processFees : FeeProcessor}
    {db : Database} (tallyFits : ∀ x ∈ db.buffers.voteTallyBuffer, x < 2 ^ 64) {ledger' : Ledger}
    {buffers' : ScratchBuffers} (run : tallyPass proxyToSelfAccount processFees db = (.ok ledger', buffers')) (v : VoteId) :
    voteTally buffers'.voteTallyBuffer v = tallied db.objects.gpo.nextAvailableVoteId db.buffers.voteTallyBuffer
      (loopBallots proxyToSelfAccount processFees db.objects.gpo db.objects.headBlockTime
        (accountsByName db.objects.ledger.accounts) db.objects.ledger) v := by
  obtain ⟨length, values⟩ := tally_of_ballots (loopBallots proxyToSelfAccount processFees db.objects.gpo
    db.objects.headBlockTime (accountsByName db.objects.ledger.accounts) db.objects.ledger)
    db.objects.gpo.nextAvailableVoteId tallyFits
  rw [performAccountMaintenance_ballots _ _ _ _ _ run, foldl_castBallot]
  dsimp only [voteTallyInit]
  unfold voteTally tallied
  split
  · exact values _ ‹_›
  · rw [List.getD_eq_getElem?_getD, List.getElem?_eq_none (by omega)]
    rfl

section
variable {cfg : Config} {co : Collaborators} {blockNum : Nat}

theorem completed_pass_stores_vote_totals {db : Database} (tallyFits : ∀ x ∈ db.buffers.voteTallyBuffer, x < 2 ^ 64)
    {objects : ObjectDatabase} {buffers : ScratchBuffers}
    (run : performChainMaintenance cfg co blockNum db = (.ok objects, buffers)) :
    ∃ prepared, prepareMaintenance cfg co db.objects = .ok prepared ∧
      let total := tallied db.objects.gpo.nextAvailableVoteId db.buffers.voteTallyBuffer
        (loopBallots cfg.proxyToSelfAccount co.processFees db.objects.gpo db.objects.headBlockTime
          (accountsByName prepared.ledger.accounts) prepared.ledger)
      objects.witnesses = db.objects.witnesses.map (fun w => { w with totalVotes := total w.voteId }) ∧
      objects.workers = db.objects.workers.map fun w => { w with
        totalVotesFor := total w.voteFor
        totalVotesAgainst := if db.objects.headBlockTime < cfg.hardfork607Time then total w.voteAgainst else 0 } := by
  obtain ⟨prepared, ledger, tally, prepareRun, loop, finish, -⟩ := performChainMaintenance_inv run
  obtain ⟨kept, -⟩ := prepareMaintenance_frame prepareRun
  simp only [ObjectDatabase.splitFrame, Prod.mk.injEq] at kept
  obtain ⟨gpo, dgpo, witnesses, workers, -⟩ := kept
  have head : prepared.headBlockTime = db.objects.headBlockTime := congrArg DynamicGlobalPropertyObject.time dgpo
  have votes := tallyPass_voteTally (by exact tallyFits) loop
  refine ⟨prepared, prepareRun, ?_⟩
  have outcome := finishMaintenance_outcome finish
  simp only [ObjectDatabase.outcome, Prod.mk.injEq] at outcome
  dsimp only at votes ⊢
  rw [gpo, head] at votes
  rw [outcome.1, outcome.2.1]
  simp only [updateWorkerVotes, votes, ObjectDatabase.headBlockTime, dgpo, witnesses, workers, decide_eq_true_eq, and_self]

theorem voting_pass_stores_vote_totals :
    ∃ objects buffers, performChainMaintenance exampleConfig quietCollaborators 2 votingPass = (.ok objects, buffers) ∧
      ∃ prepared, prepareMaintenance exampleConfig quietCollaborators votingPass.objects = .ok prepared ∧
        let total := tallied votingPass.objects.gpo.nextAvailableVoteId votingPass.buffers.voteTallyBuffer
          (loopBallots exampleConfig.proxyToSelfAccount quietCollaborators.processFees votingPass.objects.gpo
            votingPass.objects.headBlockTime (accountsByName prepared.ledger.accounts) prepared.ledger)
        objects.witnesses = votingPass.objects.witnesses.map (fun w => { w with totalVotes := total w.voteId }) ∧
        objects.workers = votingPass.objects.workers.map fun w => { w with
          totalVotesFor := total w.voteFor
          totalVotesAgainst := if votingPass.objects.headBlockTime < exampleConfig.hardfork607Time then
            total w.voteAgainst else 0 } :=
  ⟨_, _, rfl, @completed_pass_stores_vote_totals exampleConfig quietCollaborators 2 votingPass (by decide) _ _ rfl⟩

theorem completed_pass_empties_fba_pools {db : Database} {objects : ObjectDatabase} {buffers : ScratchBuffers}
    (run : performChainMaintenance cfg co blockNum db = (.ok objects, buffers)) :
    poolFees objects.fbaAccumulators cfg.fbaAccumulatorIdTransferToBlind = 0 ∧
      poolFees objects.fbaAccumulators cfg.fbaAccumulatorIdBlindTransfer = 0 ∧
      poolFees objects.fbaAccumulators cfg.fbaAccumulatorIdTransferFromBlind = 0 := by
  obtain ⟨prepared, ledger, tally, prepareRun, -, finish, -⟩ := performChainMaintenance_inv run
  have pools : objects.fbaAccumulators = prepared.fbaAccumulators := congrArg (·.2.2) (finishMaintenance_outcome finish)
  rw [pools]
  exact (prepareMaintenance_frame prepareRun).2

def feePoolPass : Database :=
  { votingPass with
    objects.fbaAccumulators := [{ id := 0, accumulatedFbaFees := 100 }, { id := 1 }, { id := 2 }]
    objects.ledger.core := { maxSupply := 10000, dynamicData := { currentSupply := 1000 } } }

theorem fee_pool_pass_empties_fba_pools :
    ∃ objects buffers, performChainMaintenance exampleConfig quietCollaborators 2 feePoolPass = (.ok objects, buffers) ∧
      poolFees objects.fbaAccumulators exampleConfig.fbaAccumulatorIdTransferToBlind = 0 ∧
      poolFees objects.fbaAccumulators exampleConfig.fbaAccumulatorIdBlindTransfer = 0 ∧
      poolFees objects.fbaAccumulators exampleConfig.fbaAccumulatorIdTransferFromBlind = 0 :=
  ⟨_, _, rfl, @completed_pass_empties_fba_pools exampleConfig quietCollaborators 2 feePoolPass _ _ rfl⟩

end

def membershipOf (ledger : Ledger) (id : AccountId) : Option Membership :=
  (ledger.accounts.find? (·.id = id)).map (·.membership)

theorem current_id (ledger : Ledger) (account : AccountObject) :
    ((ledger.accounts.find? (·.id = account.id)).getD account).id = account.id := by
  cases found : ledger.accounts.find? (·.id = account.id) with
  | none => rfl
  | some current => simpa using List.find?_some found

theorem current_membership {ledger : Ledger} {account : AccountObject} {m : Membership}
    (read : membershipOf ledger account.id = some m) :
    ((ledger.accounts.find? (·.id = account.id)).getD account).membership = m := by
  obtain ⟨current, found, rfl⟩ := Option.map_eq_some'.mp read
  rw [found]
  rfl

theorem membershipOf_isSome {ledger : Ledger} {account : AccountObject} (mem : account ∈ ledger.accounts) :
    (membershipOf ledger account.id).isSome := by
  simp only [membershipOf, Option.isSome_map', List.find?_isSome]
  exact ⟨account, mem, decide_eq_true rfl⟩

structure LifetimeUpgrade (evaluator : Evaluator) (now : Nat) : Prop where
  upgrades : ∀ id ledger ledger', evaluator (.accountUpgrade id true) ledger = .ok ledger' →
    membershipOf ledger' id = some .lifetime ∧ ∀ other, other ≠ id → membershipOf ledger' other = membershipOf ledger other
  succeeds : ∀ id ledger m, membershipOf ledger id = some m → m.isAnnualMember now = true →
    ∃ ledger', evaluator (.accountUpgrade id true) ledger = .ok ledger'

section Deprecate
variable {evaluator : Evaluator} {now : Nat}

theorem deprecateStep_cases {ledger ledger' : Ledger} {account : AccountObject}
    (run : deprecateStep evaluator now ledger account = .ok ledger') :
    ledger' = ledger ∨ evaluator (.accountUpgrade account.id true) ledger = .ok ledger' := by
  unfold deprecateStep at run
  dsimp only at run
  rw [current_id] at run
  split at run
  · cases evaluated : evaluator (.accountUpgrade account.id true) ledger <;> simp only [evaluated] at run
    · split at run <;> cases run
      exact .inl rfl
    · cases run
      exact .inr rfl
  · cases run
    exact .inl rfl

theorem deprecateStep_ok (upgrade : LifetimeUpgrade evaluator now) (ledger : Ledger) {account : AccountObject}
    (present : (membershipOf ledger account.id).isSome) :
    ∃ ledger', deprecateStep evaluator now ledger account = .ok ledger' := by
  obtain ⟨m, read⟩ := Option.isSome_iff_exists.mp present
  unfold deprecateStep
  dsimp only
  rw [current_id, current_membership read]
  split
  · obtain ⟨upgraded, ok⟩ := upgrade.succeeds _ _ _ read ‹_›
    exact ⟨upgraded, by rw [ok]⟩
  · exact ⟨ledger, rfl⟩

theorem deprecateStep_present (upgrade : LifetimeUpgrade evaluator now) {ledger ledger' : Ledger}
    {account : AccountObject} (run : deprecateStep evaluator now ledger account = .ok ledger') {id : AccountId}
    (present : (membershipOf ledger id).isSome) : (membershipOf ledger' id).isSome := by
  rcases deprecateStep_cases run with rfl | upgraded
  · exact present
  obtain ⟨lifetime, others⟩ := upgrade.upgrades _ _ _ upgraded
  by_cases same : id = account.id
  · rw [same, lifetime]
    rfl
  · rw [others id same]
    exact present

theorem deprecateStep_lifetime (upgrade : LifetimeUpgrade evaluator now) {ledger ledger' : Ledger}
    {account : AccountObject} (run : deprecateStep evaluator now ledger account = .ok ledger') {m : Membership}
    (read : membershipOf ledger account.id = some m) (isAnnual : m.isAnnualMember now = true) :
    membershipOf ledger' account.id = some .lifetime := by
  obtain ⟨upgraded, ok⟩ := upgrade.succeeds _ _ _ read isAnnual
  unfold deprecateStep at run
  dsimp only at run
  rw [current_id, current_membership read, if_pos isAnnual, ok] at run
  cases run
  exact (upgrade.upgrades _ _ _ ok).1

theorem deprecateStep_annual (upgrade : LifetimeUpgrade evaluator now) {ledger ledger' : Ledger}
    {account : AccountObject} (run : deprecateStep evaluator now ledger account = .ok ledger') {id : AccountId}
    {m : Membership} (annual : membershipOf ledger' id = some m) (isAnnual : m.isAnnualMember now = true) :
    id ≠ account.id ∧ membershipOf ledger id = some m := by
  rcases deprecateStep_cases run with rfl | upgraded
  · refine ⟨fun same => ?_, annual⟩
    subst same
    rw [deprecateStep_lifetime upgrade run annual isAnnual] at annual
    cases annual
    cases isAnnual
  obtain ⟨lifetime, others⟩ := upgrade.upgrades _ _ _ upgraded
  by_cases same : id = account.id
  · rw [same, lifetime] at annual
    cases annual
    cases isAnnual
  · exact ⟨same, (others id same).symm.trans annual⟩

theorem foldlM_deprecateStep (upgrade : LifetimeUpgrade evaluator now) : ∀ (todo : List AccountObject) (ledger : Ledger),
    (∀ account ∈ todo, (membershipOf ledger account.id).isSome) →
    (∀ id m, membershipOf ledger id = some m → m.isAnnualMember now = true → id ∈ todo.map (·.id)) →
    ∃ ledger', todo.foldlM (deprecateStep evaluator now) ledger = .ok ledger' ∧
      ∀ id m, membershipOf ledger' id = some m → m.isAnnualMember now = false
  | [], ledger, _, covered => ⟨ledger, rfl, fun id m read => by
      cases isAnnual : m.isAnnualMember now
      · rfl
      · exact absurd (covered id m read isAnnual) (List.not_mem_nil _)⟩
  | account :: rest, ledger, present, covered => by
    obtain ⟨next, step⟩ := deprecateStep_ok upgrade ledger (present account (List.mem_cons_self _ _))
    obtain ⟨ledger', run, cleared⟩ := foldlM_deprecateStep upgrade rest next
      (fun other mem => deprecateStep_present upgrade step (present other (List.mem_cons_of_mem _ mem)))
      (fun id m read isAnnual => by
        obtain ⟨other, before⟩ := deprecateStep_annual upgrade step read isAnnual
        rcases List.mem_cons.mp (covered id m before isAnnual) with same | later
        · exact absurd same other
        · exact later)
    exact ⟨ledger', by rw [List.foldlM_cons, step, ok_bind, run], cleared⟩

theorem deprecate_annual_members_leaves_none (upgrade : LifetimeUpgrade evaluator now) (ledger : Ledger) :
    ∃ ledger', deprecateAnnualMembers evaluator now ledger = .ok ledger' ∧
      ∀ id m, membershipOf ledger' id = some m → m.isAnnualMember now = false := by
  refine foldlM_deprecateStep upgrade ledger.accounts ledger (fun account mem => membershipOf_isSome mem)
    fun id m read _ => ?_
  obtain ⟨account, found, -⟩ := Option.map_eq_some'.mp read
  exact List.mem_map.mpr ⟨account, List.mem_of_find?_eq_some found, by simpa using List.find?_some found⟩

end Deprecate

def lifetimeEvaluator : Evaluator := fun op ledger =>
  match op with
  | .accountUpgrade id _ => do
    let accounts ← modifyAccount id (fun account => { account with membership := .lifetime }) ledger.accounts
    .ok { ledger with accounts := accounts }
  | _ => .ok ledger

theorem membershipOf_modified (ledger : Ledger) (id : AccountId) (f : AccountObject → AccountObject)
    (keepsId : ∀ a, (f a).id = a.id) (other : AccountId) :
    membershipOf { ledger with accounts := ledger.accounts.map fun a => if a.id = id then f a else a } other =
      (ledger.accounts.find? (·.id = other)).map fun a => (if a.id = id then f a else a).membership := by
  have samePredicate : ((fun a : AccountObject => decide (a.id = other)) ∘ fun a => if a.id = id then f a else a) =
      fun a => decide (a.id = other) := by
    funext a
    simp only [Function.comp_apply]
    split <;> simp only [keepsId]
  simp only [membershipOf, List.find?_map, samePredicate, Option.map_map]
  rfl

theorem lifetimeEvaluator_upgrades (now : Nat) : LifetimeUpgrade lifetimeEvaluator now where
  upgrades := fun id ledger ledger' run => by
    obtain ⟨accounts, modified, applied⟩ := bind_eq_ok run
    obtain ⟨found, lookup, listed⟩ := bind_eq_ok modified
    cases applied
    cases listed
    have lookups := membershipOf_modified ledger id (fun account => { account with membership := .lifetime })
      (fun _ => rfl)
    beta_reduce at lookups
    simp only [lookups]
    refine ⟨?_, fun other different => ?_⟩
    · rw [find?_of_findAccount lookup, Option.map_some', if_pos (findAccount_ok lookup).2]
    · unfold membershipOf
      cases read : ledger.accounts.find? (·.id = other) with
      | none => rfl
      | some a =>
        have named : a.id = other := by simpa using List.find?_some read
        simp only [Option.map_some', named, if_neg different]
  succeeds := fun id ledger m read _ => by
    obtain ⟨account, found, -⟩ := Option.map_eq_some'.mp read
    obtain ⟨present, lookup⟩ := findAccount_of_present ⟨account, List.mem_of_find?_eq_some found,
      by simpa using List.find?_some found⟩
    exact ⟨_, by simp only [lifetimeEvaluator, modifyAccount, lookup, ok_bind]; rfl⟩

def annualLedger : Ledger where
  accounts := [{ id := 1 }, { id := 2, membership := .annual 200 }, { id := 3, membership := .lifetime }]

theorem deprecation_upgrades_annual_member :
    membershipOf annualLedger 2 = some (.annual 200) ∧
      ∃ ledger', deprecateAnnualMembers lifetimeEvaluator 100 annualLedger = .ok ledger' ∧
        (membershipOf ledger' 2).map (·.isAnnualMember 100) ≠ some true := by
  obtain ⟨ledger', run, cleared⟩ := deprecate_annual_members_leaves_none (lifetimeEvaluator_upgrades 100) annualLedger
  refine ⟨rfl, ledger', run, fun annual => ?_⟩
  obtain ⟨m, read, isAnnual⟩ := Option.map_eq_some'.mp annual
  rw [cleared 2 m read] at isAnnual
  cases isAnnual

end Graphene.Chain
