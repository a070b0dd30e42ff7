import GrapheneMaintenance.Database
import Mathlib.Data.List.Sort

set_option autoImplicit false

/- The tally pass of `perform_chain_maintenance`, lines 731-817: `vote_tally_helper` and
   `process_fees_helper` run on every account, in name order, through
   `perform_account_maintenance`. The vote tally, the two count histograms and the total voting
   stake are members of `database`, not objects: the helper's constructor resizes the vectors,
   which keeps the values they already hold. -/
namespace Graphene.Chain

-- Lines 735-737: `std::vector::resize` keeps the elements it keeps and pads with zeros.
def resizeBuffer (buffer : List Nat) (size : Nat) : List Nat :=
  buffer.take size ++ List.replicate (size - buffer.length) 0

-- Lines 732-739.
def voteTallyInit (props : GlobalPropertyObject) (buffers : ScratchBuffers) : ScratchBuffers :=
  { voteTallyBuffer := resizeBuffer buffers.voteTallyBuffer props.nextAvailableVoteId
    witnessCountHistogramBuffer := resizeBuffer buffers.witnessCountHistogramBuffer
      (props.parameters.maximumWitnessCount.toNat / 2 + 1)
    committeeCountHistogramBuffer := resizeBuffer buffers.committeeCountHistogramBuffer
      (props.parameters.maximumCommitteeCount.toNat / 2 + 1)
    totalVotingStake := 0 }

-- Lines 762, 775 and 785: `buffer[offset] += stake` on a `uint64_t` element.
def addAt (offset stake : Nat) (buffer : List Nat) : List Nat :=
  buffer.set offset (wrap64 (buffer.getD offset 0 + stake))

def findVestingBalance (balances : List VestingBalanceObject) (id : Nat) : Except Fault VestingBalanceObject :=
  match balances.find? (·.id = id) with
  | some balance => .ok balance
  | none => .error .missingObject

-- Lines 758-760: core in open orders, the cashback vesting balance and the core balance, summed
-- into a `uint64_t`.
def votingStake (ledger : Ledger) (account : AccountObject) : Except Fault Nat := do
  let cashback ← match account.cashbackVb with
    | some id => do
      let balance ← findVestingBalance ledger.vestingBalances id
      .ok balance.balance
    | none => .ok 0
  .ok (wrap64 (account.totalCoreInOrders + cashback + balanceOf account.id 0 ledger.balances))

-- Lines 768-789, for the witness and the committee histogram alike: a desired count up to the
-- maximum adds the stake to bucket `count / 2`, capped at the last bucket (a `uint16_t`
-- offset); a count above the maximum adds nothing.
def addDesiredCount (desired maximum stake : Nat) (histogram : List Nat) : List Nat :=
  if desired ≤ maximum then addAt (min (desired / 2) (histogram.length - 1) % 2 ^ 16) stake histogram
  else histogram

-- Lines 741-790. The lookups that can throw come before any buffer is touched.
def voteTallyHelper (proxyToSelfAccount : AccountId) (props : GlobalPropertyObject) (now : Nat)
    (ledger : Ledger) (stakeAccount : AccountObject) (buffers : ScratchBuffers) : Except Fault ScratchBuffers :=
  if props.parameters.countNonMemberVotes || stakeAccount.membership.isMember now then do
    let opinionAccount ← if stakeAccount.options.votingAccount = proxyToSelfAccount then .ok stakeAccount
      else findAccount ledger.accounts stakeAccount.options.votingAccount
    let stake ← votingStake ledger stakeAccount
    let tally := opinionAccount.options.votes.foldl (fun tally id =>
      if id.instance < tally.length then addAt id.instance stake tally else tally) buffers.voteTallyBuffer
    .ok { voteTallyBuffer := tally
          witnessCountHistogramBuffer := addDesiredCount opinionAccount.options.numWitness
            props.parameters.maximumWitnessCount.toNat stake buffers.witnessCountHistogramBuffer
          committeeCountHistogramBuffer := addDesiredCount opinionAccount.options.numCommittee
            props.parameters.maximumCommitteeCount.toNat stake buffers.committeeCountHistogramBuffer
          totalVotingStake := wrap64 (buffers.totalVotingStake + stake) }
  else .ok buffers

-- Line 79: the `by_name` index, in the lexicographic order of `std::string`.
def accountsByName (accounts : List AccountObject) : List AccountObject :=
  accounts.insertionSort fun a b => @decide _ (String.decLE a.name b.name)

-- Lines 76-82 with the two helpers: for each account, as the index holds it now, the tally
-- helper and then `process_fees`. The buffers are returned on every exit: an exception leaves
-- what the accounts before it added.
def performAccountMaintenance (proxyToSelfAccount : AccountId) (processFees : FeeProcessor)
    (props : GlobalPropertyObject) (now : Nat) :
    List AccountObject → Ledger → ScratchBuffers → Except Fault Ledger × ScratchBuffers
  | [], ledger, buffers => (.ok ledger, buffers)
  | account :: rest, ledger, buffers =>
    let account := (ledger.accounts.find? (·.id = account.id)).getD account
    match voteTallyHelper proxyToSelfAccount props now ledger account buffers with
    | .error e => (.error e, buffers)
    | .ok buffers =>
      match processFees account ledger with
      | .error e => (.error e, buffers)
      | .ok ledger => performAccountMaintenance proxyToSelfAccount processFees props now rest ledger buffers

-- Lines 731-807.
def tallyPass (proxyToSelfAccount : AccountId) (processFees : FeeProcessor) (db : Database) :
    Except Fault Ledger × ScratchBuffers :=
  performAccountMaintenance proxyToSelfAccount processFees db.objects.gpo db.objects.headBlockTime
    (accountsByName db.objects.ledger.accounts) db.objects.ledger (voteTallyInit db.objects.gpo db.buffers)

def overMaximumVoter : Database :=
  { objects :=
    { gpo := { parameters := { maximumWitnessCount := 3 } }
      ledger :=
        { accounts := [{ id := 1, options := { votingAccount := 5, numWitness := 5 } }]
          balances := [{ owner := 1, assetType := 0, balance := 5 }] } } }

theorem vote_tally_drops_count_above_maximum :
    (tallyPass 5 (fun _ ledger => .ok ledger) overMaximumVoter).2.witnessCountHistogramBuffer = [0, 0] ∧
      (tallyPass 5 (fun _ ledger => .ok ledger) overMaximumVoter).2.totalVotingStake = 5 := by
  decide

theorem addAt_length (offset stake : Nat) (buffer : List Nat) : (addAt offset stake buffer).length = buffer.length :=
  List.length_set ..

theorem getD_addAt (offset stake v : Nat) (buffer : List Nat) :
    (addAt offset stake buffer).getD v 0 =
      if v = offset ∧ offset < buffer.length then (buffer.getD v 0 + stake) % 2 ^ 64 else buffer.getD v 0 := by
  unfold addAt
  by_cases same : v = offset
  · subst same
    by_cases inside : v < buffer.length
    · simp [inside, wrap64_add_natCast]
    · simp [inside, List.getElem?_eq_none (Nat.le_of_not_lt inside), List.getElem?_set]
  · simp [same, List.getElem?_set_ne (Ne.symm same)]

-- Lines 762-767: each vote adds the stake at its instance, if the tally has it.
def tallyVotes (votes : List VoteId) (stake : Nat) (tally : List Nat) : List Nat :=
  votes.foldl (fun tally id => if id.instance < tally.length then addAt id.instance stake tally else tally) tally

theorem tallyVotes_length (votes : List VoteId) (stake : Nat) (tally : List Nat) :
    (tallyVotes votes stake tally).length = tally.length := by
  induction votes generalizing tally with
  | nil => rfl
  | cons id rest ih =>
    simp only [tallyVotes, List.foldl_cons] at ih ⊢
    rw [ih]
    split
    · exact addAt_length ..
    · rfl

theorem add_mod_add_mul_succ (a s c : Nat) : ((a + s) % 2 ^ 64 + c * s) % 2 ^ 64 = (a + (c + 1) * s) % 2 ^ 64 := by
  rw [Nat.mod_add_mod, Nat.succ_mul, ← Nat.add_assoc, Nat.add_right_comm a s]

theorem getD_tallyVotes (votes : List VoteId) (stake : Nat) {tally : List Nat} {v : Nat}
    (inside : v < tally.length) (fits : tally.getD v 0 < 2 ^ 64) :
    (tallyVotes votes stake tally).getD v 0 = (tally.getD v 0 + votes.countP (·.instance = v) * stake) % 2 ^ 64 := by
  induction votes generalizing tally with
  | nil => simp only [tallyVotes, List.foldl_nil, List.countP_nil, Nat.zero_mul, Nat.add_zero, Nat.mod_eq_of_lt fits]
  | cons id rest ih =>
    simp only [tallyVotes, List.foldl_cons, List.countP_cons] at ih ⊢
    split
    · rename_i present
      have stillFits : (addAt id.instance stake tally).getD v 0 < 2 ^ 64 := by
        rw [getD_addAt]
        split
        · exact Nat.mod_lt _ (by decide)
        · exact fits
      rw [ih ((addAt_length ..).symm ▸ inside) stillFits, getD_addAt]
      by_cases hit : id.instance = v
      · rw [if_pos ⟨hit.symm, present⟩, if_pos (by simpa using hit), add_mod_add_mul_succ]
      · rw [if_neg fun h => hit h.1.symm, if_neg (by simpa using hit), Nat.add_zero]
    · rename_i absent
      have miss : ¬ id.instance = v := fun same => absent (same ▸ inside)
      rw [ih inside fits, if_neg (by simpa using miss), Nat.add_zero]

theorem addDesiredCount_length (desired maximum stake : Nat) (histogram : List Nat) :
    (addDesiredCount desired maximum stake histogram).length = histogram.length := by
  unfold addDesiredCount
  split
  · exact addAt_length ..
  · rfl

theorem getD_addDesiredCount (desired maximum stake k : Nat) {histogram : List Nat} (nonempty : 0 < histogram.length) :
    (addDesiredCount desired maximum stake histogram).getD k 0 =
      if desired ≤ maximum ∧ min (desired / 2) (histogram.length - 1) % 2 ^ 16 = k then
        (histogram.getD k 0 + stake) % 2 ^ 64 else histogram.getD k 0 := by
  have offsetInside : min (desired / 2) (histogram.length - 1) % 2 ^ 16 < histogram.length :=
    Nat.lt_of_le_of_lt ((Nat.mod_le _ _).trans (min_le_right _ _)) (Nat.sub_lt nonempty Nat.one_pos)
  unfold addDesiredCount
  split
  · rename_i counted
    rw [getD_addAt]
    by_cases hit : min (desired / 2) (histogram.length - 1) % 2 ^ 16 = k
    · rw [if_pos ⟨hit.symm, offsetInside⟩, if_pos ⟨counted, hit⟩]
    · rw [if_neg fun h => hit h.1.symm, if_neg fun h => hit h.2]
  · rename_i over
    rw [if_neg fun h => over h.1]

structure Ballot where
  opinion : AccountOptions
  stake : Nat
deriving DecidableEq, Repr

-- Lines 762-789 once the opinion account and the stake are known.
def castBallot (props : GlobalPropertyObject) (buffers : ScratchBuffers) (ballot : Ballot) : ScratchBuffers :=
  { voteTallyBuffer := tallyVotes ballot.opinion.votes ballot.stake buffers.voteTallyBuffer
    witnessCountHistogramBuffer := addDesiredCount ballot.opinion.numWitness props.parameters.maximumWitnessCount.toNat
      ballot.stake buffers.witnessCountHistogramBuffer
    committeeCountHistogramBuffer := addDesiredCount ballot.opinion.numCommittee
      props.parameters.maximumCommitteeCount.toNat ballot.stake buffers.committeeCountHistogramBuffer
    totalVotingStake := wrap64 (buffers.totalVotingStake + ballot.stake) }

def ballotVotes (ballots : List Ballot) (v : Nat) : Nat :=
  (ballots.map fun ballot => ballot.opinion.votes.countP (·.instance = v) * ballot.stake).sum

def ballotBucket (count : AccountOptions → Nat) (maximum size k : Nat) (ballots : List Ballot) : Nat :=
  ((ballots.filter fun ballot => count ballot.opinion ≤ maximum ∧
    min (count ballot.opinion / 2) (size - 1) % 2 ^ 16 = k).map (·.stake)).sum

def ballotStake (ballots : List Ballot) : Nat := (ballots.map (·.stake)).sum

theorem foldl_castBallot (props : GlobalPropertyObject) (ballots : List Ballot) (buffers : ScratchBuffers) :
    ballots.foldl (castBallot props) buffers =
      { voteTallyBuffer := ballots.foldl (fun tally ballot => tallyVotes ballot.opinion.votes ballot.stake tally)
          buffers.voteTallyBuffer
        witnessCountHistogramBuffer := ballots.foldl (fun histogram ballot =>
          addDesiredCount ballot.opinion.numWitness props.parameters.maximumWitnessCount.toNat ballot.stake histogram)
          buffers.witnessCountHistogramBuffer
        committeeCountHistogramBuffer := ballots.foldl (fun histogram ballot =>
          addDesiredCount ballot.opinion.numCommittee props.parameters.maximumCommitteeCount.toNat ballot.stake histogram)
          buffers.committeeCountHistogramBuffer
        totalVotingStake := ballots.foldl (fun total ballot => wrap64 (total + ballot.stake)) buffers.totalVotingStake } := by
  induction ballots generalizing buffers with
  | nil => rfl
  | cons ballot rest ih => exact ih _

theorem getD_foldl_tallyVotes (ballots : List Ballot) {tally : List Nat} {v : Nat} (inside : v < tally.length)
    (fits : tally.getD v 0 < 2 ^ 64) :
    (ballots.foldl (fun tally ballot => tallyVotes ballot.opinion.votes ballot.stake tally) tally).getD v 0 =
      (tally.getD v 0 + ballotVotes ballots v) % 2 ^ 64 := by
  induction ballots generalizing tally with
  | nil => simp only [List.foldl_nil, ballotVotes, List.map_nil, List.sum_nil, Nat.add_zero, Nat.mod_eq_of_lt fits]
  | cons ballot rest ih =>
    rw [List.foldl_cons, ih ((tallyVotes_length ..).symm ▸ inside)
      (by rw [getD_tallyVotes _ _ inside fits]; exact Nat.mod_lt _ (by decide)), getD_tallyVotes _ _ inside fits,
      Nat.mod_add_mod, Nat.add_assoc]
    rfl

theorem length_foldl_addDesiredCount (count : AccountOptions → Nat) (maximum : Nat) (ballots : List Ballot)
    (histogram : List Nat) :
    (ballots.foldl (fun histogram ballot => addDesiredCount (count ballot.opinion) maximum ballot.stake histogram)
      histogram).length = histogram.length := by
  induction ballots generalizing histogram with
  | nil => rfl
  | cons ballot rest ih => rw [List.foldl_cons, ih, addDesiredCount_length]

theorem getD_foldl_addDesiredCount (count : AccountOptions → Nat) (maximum : Nat) (ballots : List Ballot)
    {histogram : List Nat} {k : Nat} (nonempty : 0 < histogram.length) (fits : histogram.getD k 0 < 2 ^ 64) :
    (ballots.foldl (fun histogram ballot => addDesiredCount (count ballot.opinion) maximum ballot.stake histogram)
      histogram).getD k 0 = (histogram.getD k 0 + ballotBucket count maximum histogram.length k ballots) % 2 ^ 64 := by
  induction ballots generalizing histogram with
  | nil => simp only [List.foldl_nil, ballotBucket, List.filter_nil, List.map_nil, List.sum_nil, Nat.add_zero,
      Nat.mod_eq_of_lt fits]
  | cons ballot rest ih =>
    have step := getD_addDesiredCount (count ballot.opinion) maximum ballot.stake k nonempty
    rw [List.foldl_cons, ih ((addDesiredCount_length ..).symm ▸ nonempty)
      (by rw [step]; split; exacts [Nat.mod_lt _ (by decide), fits]), step, addDesiredCount_length]
    simp only [ballotBucket, List.filter_cons]
    split
    · rename_i counted
      rw [if_pos (by simpa using counted), List.map_cons, List.sum_cons, Nat.mod_add_mod, Nat.add_assoc]
    · rename_i over
      rw [if_neg (by simpa using over)]

theorem foldl_total (ballots : List Ballot) {total : Nat} (fits : total < 2 ^ 64) :
    ballots.foldl (fun total ballot => wrap64 (total + ballot.stake)) total = (total + ballotStake ballots) % 2 ^ 64 := by
  induction ballots generalizing total with
  | nil => simp only [List.foldl_nil, ballotStake, List.map_nil, List.sum_nil, Nat.add_zero, Nat.mod_eq_of_lt fits]
  | cons ballot rest ih =>
    rw [List.foldl_cons, wrap64_add_natCast, ih (Nat.mod_lt _ (by decide)), Nat.mod_add_mod, Nat.add_assoc]
    rfl

theorem length_foldl_tallyVotes (ballots : List Ballot) (tally : List Nat) :
    (ballots.foldl (fun tally ballot => tallyVotes ballot.opinion.votes ballot.stake tally) tally).length =
      tally.length := by
  induction ballots generalizing tally with
  | nil => rfl
  | cons ballot rest ih => rw [List.foldl_cons, ih, tallyVotes_length]

def turnBallot (proxyToSelfAccount : AccountId) (props : GlobalPropertyObject) (now : Nat) (ledger : Ledger)
    (stakeAccount : AccountObject) : Option Ballot :=
  if props.parameters.countNonMemberVotes || stakeAccount.membership.isMember now then
    match (if stakeAccount.options.votingAccount = proxyToSelfAccount then some stakeAccount
        else ledger.accounts.find? (·.id = stakeAccount.options.votingAccount)), votingStake ledger stakeAccount with
    | some opinion, .ok stake => some ⟨opinion.options, stake⟩
    | _, _ => none
  else none

def loopBallots (proxyToSelfAccount : AccountId) (processFees : FeeProcessor) (props : GlobalPropertyObject)
    (now : Nat) : List AccountObject → Ledger → List Ballot
  | [], _ => []
  | account :: rest, ledger =>
    let account := (ledger.accounts.find? (·.id = account.id)).getD account
    (turnBallot proxyToSelfAccount props now ledger account).toList ++
      loopBallots proxyToSelfAccount processFees props now rest ((processFees account ledger).toOption.getD ledger)

theorem voteTallyHelper_ok {proxyToSelfAccount : AccountId} {props : GlobalPropertyObject} {now : Nat}
    {ledger : Ledger} {stakeAccount : AccountObject} {buffers buffers' : ScratchBuffers}
    (run : voteTallyHelper proxyToSelfAccount props now ledger stakeAccount buffers = .ok buffers') :
    buffers' = (turnBallot proxyToSelfAccount props now ledger stakeAccount).toList.foldl (castBallot props) buffers := by
  unfold voteTallyHelper at run
  unfold turnBallot
  split at run
  · rename_i counted
    rw [if_pos counted]
    dsimp only at run
    split at run
    · rename_i proxy
      obtain ⟨opinion, lookup, run⟩ := bind_eq_ok run
      obtain ⟨stake, staked, run⟩ := bind_eq_ok run
      cases lookup
      cases run
      rw [if_pos proxy, staked]
      rfl
    · rename_i other
      obtain ⟨opinion, lookup, run⟩ := bind_eq_ok run
      obtain ⟨stake, staked, run⟩ := bind_eq_ok run
      cases run
      rw [if_neg other, find?_of_findAccount lookup, staked]
      rfl
  · rename_i notCounted
    cases run
    rw [if_neg notCounted]
    rfl

theorem performAccountMaintenance_ballots {proxyToSelfAccount : AccountId} {processFees : FeeProcessor}
    {props : GlobalPropertyObject} {now : Nat} :
    ∀ (order : List AccountObject) (ledger : Ledger) (buffers : ScratchBuffers) (ledger' : Ledger)
      (buffers' : ScratchBuffers),
      performAccountMaintenance proxyToSelfAccount processFees props now order ledger buffers = (.ok ledger', buffers') →
      buffers' = (loopBallots proxyToSelfAccount processFees props now order ledger).foldl (castBallot props) buffers
  | [], _, _, _, _, run => by
    cases run
    rfl
  | account :: rest, ledger, buffers, ledger', buffers', run => by
    unfold performAccountMaintenance at run
    dsimp only at run
    split at run
    · cases run
    rename_i counted helperRun
    split at run
    · cases run
    rename_i fed feesRun
    rw [performAccountMaintenance_ballots rest fed counted ledger' buffers' run, voteTallyHelper_ok helperRun,
      loopBallots, feesRun]
    simp only [Except.toOption, Option.getD_some, List.foldl_append]

theorem getD_lt_of_forall {buffer : List Nat} (fits : ∀ x ∈ buffer, x < 2 ^ 64) (v : Nat) : buffer.getD v 0 < 2 ^ 64 := by
  rw [List.getD_eq_getElem?_getD]
  cases lookup : buffer[v]? with
  | none => exact Nat.two_pow_pos 64
  | some x => exact fits x (List.getElem?_mem lookup)

theorem length_resizeBuffer (buffer : List Nat) (size : Nat) : (resizeBuffer buffer size).length = size := by
  simp only [resizeBuffer, List.length_append, List.length_take, List.length_replicate]
  omega

theorem getD_resizeBuffer (buffer : List Nat) {size v : Nat} (inside : v < size) :
    (resizeBuffer buffer size).getD v 0 = buffer.getD v 0 := by
  unfold resizeBuffer
  simp only [List.getD_eq_getElem?_getD]
  by_cases kept : v < buffer.length
  · rw [List.getElem?_append_left (by simp; omega), List.getElem?_take, if_pos inside]
  · rw [List.getElem?_append_right (by simp; omega), List.getElem?_replicate, if_pos (by simp; omega),
      List.getElem?_eq_none (by omega)]
    rfl

theorem resizeBuffer_fits {buffer : List Nat} (fits : ∀ x ∈ buffer, x < 2 ^ 64) (size : Nat) :
    ∀ x ∈ resizeBuffer buffer size, x < 2 ^ 64 := by
  intro x mem
  rcases List.mem_append.mp mem with kept | padded
  · exact fits x (List.mem_of_mem_take kept)
  · rw [List.eq_of_mem_replicate padded]
    exact Nat.two_pow_pos 64

section
variable (ballots : List Ballot)

theorem tally_of_ballots (size : Nat) {tally : List Nat} (fits : ∀ x ∈ tally, x < 2 ^ 64) :
    (ballots.foldl (fun tally ballot => tallyVotes ballot.opinion.votes ballot.stake tally)
      (resizeBuffer tally size)).length = size ∧
    ∀ v < size, (ballots.foldl (fun tally ballot => tallyVotes ballot.opinion.votes ballot.stake tally)
      (resizeBuffer tally size)).getD v 0 = (tally.getD v 0 + ballotVotes ballots v) % 2 ^ 64 := by
  have start := length_resizeBuffer tally size
  refine ⟨(length_foldl_tallyVotes ..).trans start, fun v inside => ?_⟩
  rw [getD_foldl_tallyVotes _ (start.symm ▸ inside) (getD_lt_of_forall (resizeBuffer_fits fits _) v),
    getD_resizeBuffer _ inside]

theorem histogram_of_ballots (count : AccountOptions → Nat) (maximum : Nat) {histogram : List Nat}
    (fits : ∀ x ∈ histogram, x < 2 ^ 64) :
    (ballots.foldl (fun histogram ballot => addDesiredCount (count ballot.opinion) maximum ballot.stake histogram)
      (resizeBuffer histogram (maximum / 2 + 1))).length = maximum / 2 + 1 ∧
    ∀ k < maximum / 2 + 1, (ballots.foldl (fun histogram ballot =>
      addDesiredCount (count ballot.opinion) maximum ballot.stake histogram) (resizeBuffer histogram (maximum / 2 + 1))).getD k 0 =
        (histogram.getD k 0 + ballotBucket count maximum (maximum / 2 + 1) k ballots) % 2 ^ 64 := by
  have start := length_resizeBuffer histogram (maximum / 2 + 1)
  refine ⟨(length_foldl_addDesiredCount ..).trans start, fun k inside => ?_⟩
  rw [getD_foldl_addDesiredCount _ _ _ (start.symm ▸ Nat.succ_pos _) (getD_lt_of_forall (resizeBuffer_fits fits _) k),
    start, getD_resizeBuffer _ inside]

end

theorem tally_pass_counts_each_stake (proxyToSelfAccount : AccountId) (processFees : FeeProcessor)
    (db : Database) (tallyFits : ∀ x ∈ db.buffers.voteTallyBuffer, x < 2 ^ 64)
    (witnessFits : ∀ x ∈ db.buffers.witnessCountHistogramBuffer, x < 2 ^ 64)
    (committeeFits : ∀ x ∈ db.buffers.committeeCountHistogramBuffer, x < 2 ^ 64)
    (ledger' : Ledger) (buffers' : ScratchBuffers)
    (run : tallyPass proxyToSelfAccount processFees db = (.ok ledger', buffers')) :
    let p := db.objects.gpo.parameters
    let ballots := loopBallots proxyToSelfAccount processFees db.objects.gpo db.objects.headBlockTime
      (accountsByName db.objects.ledger.accounts) db.objects.ledger
    buffers'.voteTallyBuffer.length = db.objects.gpo.nextAvailableVoteId ∧
    (∀ v < db.objects.gpo.nextAvailableVoteId,
      buffers'.voteTallyBuffer.getD v 0 = (db.buffers.voteTallyBuffer.getD v 0 + ballotVotes ballots v) % 2 ^ 64) ∧
    buffers'.witnessCountHistogramBuffer.length = p.maximumWitnessCount.toNat / 2 + 1 ∧
    (∀ k < p.maximumWitnessCount.toNat / 2 + 1, buffers'.witnessCountHistogramBuffer.getD k 0 =
      (db.buffers.witnessCountHistogramBuffer.getD k 0 +
        ballotBucket (·.numWitness) p.maximumWitnessCount.toNat (p.maximumWitnessCount.toNat / 2 + 1) k ballots) %
          2 ^ 64) ∧
    buffers'.committeeCountHistogramBuffer.length = p.maximumCommitteeCount.toNat / 2 + 1 ∧
    (∀ k < p.maximumCommitteeCount.toNat / 2 + 1, buffers'.committeeCountHistogramBuffer.getD k 0 =
      (db.buffers.committeeCountHistogramBuffer.getD k 0 +
        ballotBucket (·.numCommittee) p.maximumCommitteeCount.toNat (p.maximumCommitteeCount.toNat / 2 + 1) k
          ballots) % 2 ^ 64) ∧
    buffers'.totalVotingStake = ballotStake ballots % 2 ^ 64 := by
  intro p ballots
  obtain ⟨tallyLength, tally⟩ := tally_of_ballots ballots db.objects.gpo.nextAvailableVoteId tallyFits
  obtain ⟨witnessLength, witness⟩ := histogram_of_ballots ballots (·.numWitness) p.maximumWitnessCount.toNat witnessFits
  obtain ⟨committeeLength, committee⟩ :=
    histogram_of_ballots ballots (·.numCommittee) p.maximumCommitteeCount.toNat committeeFits
  rw [performAccountMaintenance_ballots _ _ _ _ _ run, foldl_castBallot]
  dsimp only [voteTallyInit]
  exact ⟨tallyLength, tally, witnessLength, witness, committeeLength, committee,
    (foldl_total ballots (Nat.two_pow_pos 64)).trans (congrArg (· % 2 ^ 64) (Nat.zero_add _))⟩

def proxiedVoters : Database :=
  { objects :=
    { gpo := { parameters := { maximumWitnessCount := 3 }, nextAvailableVoteId := 1 }
      ledger :=
        { accounts := [{ id := 1, name := "a", options := { votes := [⟨0⟩], numWitness := 3 } },
            { id := 2, name := "b", options := { votingAccount := 1 } }]
          balances := [{ owner := 1, assetType := 0, balance := 5 }, { owner := 2, assetType := 0, balance := 7 }] } } }

theorem tally_pass_proxied_voters :
    ∃ ledger' buffers', tallyPass 0 (fun _ ledger => .ok ledger) proxiedVoters = (.ok ledger', buffers') ∧
      buffers'.totalVotingStake = ballotStake (loopBallots 0 (fun _ ledger => .ok ledger) proxiedVoters.objects.gpo 0
        (accountsByName proxiedVoters.objects.ledger.accounts) proxiedVoters.objects.ledger) % 2 ^ 64 :=
  ⟨_, _, rfl, (tally_pass_counts_each_stake 0 (fun _ ledger => .ok ledger) proxiedVoters (by decide) (by decide)
    (by decide) _ _ rfl).2.2.2.2.2.2⟩

end Graphene.Chain
