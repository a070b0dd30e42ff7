import GrapheneMaintenance.DesiredCount
import GrapheneMaintenance.Database
import GrapheneMaintenance.Sorting
import Mathlib.Data.List.Dedup

set_option autoImplicit false

/- The elections of a maintenance pass: `sort_votable_objects`, `update_active_witnesses` and
   `update_active_committee_members`, lines 52-74 and 160-322. The tallies come from the scratch
   buffers the tally pass filled. Before `HARDFORK_533_TIME` the witness and committee accounts'
   active authorities are rebuilt here; afterwards `vote_counter`, which is not part of the
   sources, finishes them from the elected members' accounts with their tallies, in order.
   `_vote_tally_buffer[vote_id]` indexes the buffer by the vote's instance, `modify(get(id), f)`
   throws for a missing object, and the active sets are `flat_set`s, sorted with each id once,
   as `std::inserter` fills them. Unlike the witnesses, the committee members have only the
   elected members' `total_votes` refreshed, the authority is rebuilt only for a non-empty
   committee, and the relaxed committee account copies it. -/
namespace Graphene.Chain

-- Lines 189 and 268.
def voteTally (tally : List Nat) (v : VoteId) : Nat := tally.getD v.instance 0

-- Lines 64-69: the tally read as a `share_type`, then the vote id.
def votablePrecedes {α : Type} (voteId : α → VoteId) (tally : List Nat) (a b : α) : Bool :=
  stakeThenKey (fun o => shareOfUInt64 (voteTally tally (voteId o))) (fun o => (voteId o).content) a b

-- Lines 52-74: `refs.resize(count, refs.front())` keeps the first `count`.
def sortVotableObjects {α : Type} (voteId : α → VoteId) (tally : List Nat) (count : Nat)
    (objects : List α) : List α :=
  partialSortBy (votablePrecedes voteId tally) (min count objects.length) objects

abbrev VoteCounter := List (AccountId × Nat) → Authority → Authority

-- Lines 205 and 286: `std::map::emplace` keeps the first weight given for an account.
def emplaceWeight (entry : AccountId × Nat) : List (AccountId × Nat) → List (AccountId × Nat)
  | [] => [entry]
  | e :: rest =>
    if entry.1 < e.1 then entry :: e :: rest
    else if entry.1 = e.1 then e :: rest
    else e :: emplaceWeight entry rest

-- Lines 199-224 and 278-303. `total_votes` is a `uint64_t`, `bits_to_drop` keeps the top 16 of
-- its bits (`find_msb(0)` is taken as 0), each weight is cut to `uint16_t` and the threshold is
-- a `uint32_t`.
def legacyAuthority (members : List (AccountId × Nat)) : Authority :=
  let weights := members.foldl (fun weights member => emplaceWeight member weights) []
  let totalVotes := wrap64 (members.map (·.2)).sum
  let bitsToDrop := Nat.log2 totalVotes - 15
  let votes := weights.map fun w => (w.1, max (w.2 >>> bitsToDrop) 1 % 2 ^ 16)
  { weightThreshold := (votes.map (·.2)).sum % 2 ^ 32 / 2 + 1, accountAuths := votes }

-- Lines 194-231 and 275-311.
def rebuildAuthority (hardfork533Time : Nat) (voteCounter : VoteCounter) (now : Nat)
    (members : List (AccountId × Nat)) (active : Authority) : Authority :=
  if now < hardfork533Time then legacyAuthority members else voteCounter members active

-- Lines 194 and 275.
def modifyAccount (id : AccountId) (f : AccountObject → AccountObject) (accounts : List AccountObject) :
    Except Fault (List AccountObject) := do
  let _ ← findAccount accounts id
  .ok (accounts.map fun a => if a.id = id then f a else a)

-- Lines 233-241 and 316-321.
def flatSet (ids : List Nat) : List Nat := ids.dedup.insertionSort (· ≤ ·)

-- Line 182: the witnesses `update_active_witnesses` elects for a desired count.
def electedWitnesses (buffers : ScratchBuffers) (count : Nat) (db : ObjectDatabase) : List WitnessObject :=
  sortVotableObjects WitnessObject.voteId buffers.voteTallyBuffer (max (count * 2 + 1) db.cpo.minWitnessCount.toNat)
    db.witnesses

-- Lines 160-243.
def updateActiveWitnesses (hardfork533Time witnessAccount : Nat) (voteCounter : VoteCounter)
    (buffers : ScratchBuffers) (db : ObjectDatabase) : Except Fault ObjectDatabase := do
  let tally := buffers.voteTallyBuffer
  let count ← witnessCount buffers.witnessCountHistogramBuffer buffers.totalVotingStake
  let wits := electedWitnesses buffers count db
  let witnesses := db.witnesses.map fun w => { w with totalVotes := voteTally tally w.voteId }
  let accounts ← modifyAccount witnessAccount (fun a => { a with
    active := rebuildAuthority hardfork533Time voteCounter db.headBlockTime
      (wits.map fun w => (w.witnessAccount, voteTally tally w.voteId)) a.active }) db.ledger.accounts
  .ok { db with
    witnesses := witnesses
    ledger.accounts := accounts
    gpo.activeWitnesses := flatSet (wits.map (·.id)) }

-- Line 262: the committee members elected for a desired count.
def electedCommitteeMembers (buffers : ScratchBuffers) (count : Nat) (db : ObjectDatabase) :
    List CommitteeMemberObject :=
  sortVotableObjects CommitteeMemberObject.voteId buffers.voteTallyBuffer
    (max (count * 2 + 1) db.cpo.minCommitteeMemberCount.toNat) db.committeeMembers

-- Lines 245-322.
def updateActiveCommitteeMembers (hardfork533Time committeeAccount relaxedCommitteeAccount : Nat)
    (voteCounter : VoteCounter) (buffers : ScratchBuffers) (db : ObjectDatabase) :
    Except Fault ObjectDatabase := do
  let tally := buffers.voteTallyBuffer
  let count ← committeeMemberCount buffers.committeeCountHistogramBuffer
    buffers.witnessCountHistogramBuffer buffers.totalVotingStake
  let members := electedCommitteeMembers buffers count db
  let committeeMembers := db.committeeMembers.map fun m =>
    if m ∈ members then { m with totalVotes := voteTally tally m.voteId } else m
  let accounts ← if members.isEmpty then .ok db.ledger.accounts else do
    let accounts ← modifyAccount committeeAccount (fun a => { a with
      active := rebuildAuthority hardfork533Time voteCounter db.headBlockTime
        (members.map fun m => (m.committeeMemberAccount, voteTally tally m.voteId)) a.active })
      db.ledger.accounts
    let committee ← findAccount accounts committeeAccount
    modifyAccount relaxedCommitteeAccount (fun a => { a with active := committee.active }) accounts
  .ok { db with
    committeeMembers := committeeMembers
    ledger.accounts := accounts
    gpo.activeCommitteeMembers := flatSet (members.map (·.id)) }

section
variable {α : Type} (voteId : α → VoteId) (tally : List Nat)

theorem voteTally_lt {tally : List Nat} (fits : ∀ t ∈ tally, t < 2 ^ 63) (v : VoteId) :
    voteTally tally v < 2 ^ 63 := by
  unfold voteTally
  rw [List.getD_eq_getElem?_getD]
  cases lookup : tally[v.instance]? with
  | none => simp
  | some t => simpa using fits t (List.getElem?_mem lookup)

theorem votablePrecedes_iff (fits : ∀ t ∈ tally, t < 2 ^ 63) (a b : α) :
    votablePrecedes voteId tally a b = true ↔
      voteTally tally (voteId b) < voteTally tally (voteId a) ∨
        voteTally tally (voteId a) = voteTally tally (voteId b) ∧ (voteId a).content < (voteId b).content := by
  have small := voteTally_lt fits
  simp only [votablePrecedes, stakeThenKey_iff, shareOfUInt64_of_lt (small _)]
  omega

theorem votablePrecedes_order : StrictWeakOrder (votablePrecedes voteId tally) := stakeThenKey_order _ _

variable {voteId tally}

theorem votablePrecedes_connected {objects : List α} (distinct : (objects.map fun o => (voteId o).content).Nodup) :
    Connected (votablePrecedes voteId tally) objects :=
  stakeThenKey_connected _ _ distinct

theorem sortVotableObjects_length (count : Nat) (objects : List α) :
    (sortVotableObjects voteId tally count objects).length = min objects.length count := by
  simp [sortVotableObjects, partialSortBy, sortBy]
  omega

theorem sortVotableObjects_perm {objects objects' : List α} (perm : objects.Perm objects')
    (distinct : (objects.map fun o => (voteId o).content).Nodup) (count : Nat) :
    sortVotableObjects voteId tally count objects' = sortVotableObjects voteId tally count objects := by
  simp only [sortVotableObjects, partialSortBy, perm.length_eq]
  rw [sortBy_eq_of_perm (votablePrecedes_order voteId tally) perm (distinct.of_map _)
    (votablePrecedes_connected distinct)]

theorem sortVotableObjects_precedes {objects : List α}
    (distinct : (objects.map fun o => (voteId o).content).Nodup) (count : Nat) :
    ∀ a ∈ sortVotableObjects voteId tally count objects, ∀ b ∈ objects,
      b ∉ sortVotableObjects voteId tally count objects → votablePrecedes voteId tally a b := by
  intro a elected b mem left
  have order := partialSortBy_precedes (votablePrecedes_order voteId tally) (distinct.of_map _)
    (votablePrecedes_connected distinct) (min count objects.length)
  have later : b ∈ (sortBy (votablePrecedes voteId tally) objects).drop (min count objects.length) := by
    have whole := (mem_sortBy (votablePrecedes voteId tally)).mpr mem
    rw [← List.take_append_drop (min count objects.length) (sortBy _ objects), List.mem_append] at whole
    exact whole.resolve_left left
  exact order a elected b later

end

theorem flatSet_perm {ids : List Nat} (distinct : ids.Nodup) : (flatSet ids).Perm ids := by
  rw [flatSet, distinct.dedup]
  exact List.perm_insertionSort _ ids

theorem findAccount_of_present {accounts : List AccountObject} {id : AccountId}
    (present : ∃ a ∈ accounts, a.id = id) : ∃ found, findAccount accounts id = .ok found := by
  obtain ⟨a, mem, same⟩ := present
  unfold findAccount
  cases lookup : accounts.find? (·.id = id) with
  | none => exact absurd (List.find?_eq_none.mp lookup a mem) (by simp [same])
  | some found => exact ⟨found, rfl⟩

theorem modifyAccount_ok {id : AccountId} (f : AccountObject → AccountObject) {accounts : List AccountObject}
    (present : ∃ a ∈ accounts, a.id = id) :
    modifyAccount id f accounts = .ok (accounts.map fun a => if a.id = id then f a else a) := by
  obtain ⟨found, lookup⟩ := findAccount_of_present present
  rw [modifyAccount, lookup, ok_bind]

theorem present_of_modified {id other : AccountId} {f : AccountObject → AccountObject}
    (keepsId : ∀ a, (f a).id = a.id) {accounts : List AccountObject} (present : ∃ a ∈ accounts, a.id = other) :
    ∃ a ∈ accounts.map (fun a => if a.id = id then f a else a), a.id = other := by
  obtain ⟨a, mem, same⟩ := present
  refine ⟨_, List.mem_map_of_mem _ mem, ?_⟩
  split <;> simp only [keepsId, same]

theorem findAccount_ok {accounts : List AccountObject} {id : AccountId} {account : AccountObject}
    (found : findAccount accounts id = .ok account) : account ∈ accounts ∧ account.id = id := by
  unfold findAccount at found
  split at found
  · rename_i lookup
    cases found
    exact ⟨List.mem_of_find?_eq_some lookup, by simpa using List.find?_some lookup⟩
  · cases found

theorem mem_modifyAccount {id : AccountId} {f : AccountObject → AccountObject}
    {accounts accounts' : List AccountObject} (run : modifyAccount id f accounts = .ok accounts')
    {account : AccountObject} (mem : account ∈ accounts') :
    ∃ old ∈ accounts, old.id = id ∧ account = f old ∨ old.id ≠ id ∧ account = old := by
  unfold modifyAccount at run
  obtain ⟨_, -, run⟩ := bind_eq_ok run
  cases run
  obtain ⟨old, oldMem, rfl⟩ := List.mem_map.mp mem
  by_cases same : old.id = id
  · exact ⟨old, oldMem, .inl ⟨same, if_pos same⟩⟩
  · exact ⟨old, oldMem, .inr ⟨same, if_neg same⟩⟩

theorem updateActiveWitnesses_schedule {hardfork533Time witnessAccount : Nat} {voteCounter : VoteCounter}
    {buffers : ScratchBuffers} {db db' : ObjectDatabase}
    (run : updateActiveWitnesses hardfork533Time witnessAccount voteCounter buffers db = .ok db') :
    db'.schedule = db.schedule := by
  obtain ⟨count, -, run⟩ := bind_eq_ok run
  obtain ⟨accounts, -, run⟩ := bind_eq_ok run
  cases run
  rfl

theorem updateActiveCommitteeMembers_inv {hardfork533Time committeeAccount relaxedCommitteeAccount : Nat}
    {voteCounter : VoteCounter} {buffers : ScratchBuffers} {db db' : ObjectDatabase}
    (run : updateActiveCommitteeMembers hardfork533Time committeeAccount relaxedCommitteeAccount voteCounter
      buffers db = .ok db') :
    ∃ c accounts, committeeMemberCount buffers.committeeCountHistogramBuffer buffers.witnessCountHistogramBuffer
        buffers.totalVotingStake = .ok c ∧
      db' = { db with
        committeeMembers := db.committeeMembers.map fun m => if m ∈ electedCommitteeMembers buffers c db then
          { m with totalVotes := voteTally buffers.voteTallyBuffer m.voteId } else m
        ledger.accounts := accounts
        gpo.activeCommitteeMembers := flatSet ((electedCommitteeMembers buffers c db).map (·.id)) } := by
  obtain ⟨c, count, run⟩ := bind_eq_ok run
  dsimp only at run
  split at run
  · obtain ⟨accounts, -, run⟩ := bind_eq_ok run
    cases run
    exact ⟨c, accounts, count, rfl⟩
  · obtain ⟨accounts, -, run⟩ := bind_eq_ok run
    obtain ⟨committee, -, run⟩ := bind_eq_ok run
    obtain ⟨accounts', -, run⟩ := bind_eq_ok run
    cases run
    exact ⟨c, accounts', count, rfl⟩

theorem updateActiveCommitteeMembers_schedule {hardfork533Time committeeAccount relaxedCommitteeAccount : Nat}
    {voteCounter : VoteCounter} {buffers : ScratchBuffers} {db db' : ObjectDatabase}
    (run : updateActiveCommitteeMembers hardfork533Time committeeAccount relaxedCommitteeAccount voteCounter
      buffers db = .ok db') :
    db'.schedule = db.schedule := by
  obtain ⟨c, accounts, -, rfl⟩ := updateActiveCommitteeMembers_inv run
  rfl

theorem updateActiveWitnesses_eq {hardfork533Time witnessAccount : Nat} (voteCounter : VoteCounter)
    {buffers : ScratchBuffers} {db : ObjectDatabase} {c : Nat}
    (count : witnessCount buffers.witnessCountHistogramBuffer buffers.totalVotingStake = .ok c)
    (accountExists : ∃ a ∈ db.ledger.accounts, a.id = witnessAccount) :
    updateActiveWitnesses hardfork533Time witnessAccount voteCounter buffers db = .ok { db with
      witnesses := db.witnesses.map fun w => { w with totalVotes := voteTally buffers.voteTallyBuffer w.voteId }
      ledger.accounts := db.ledger.accounts.map fun a => if a.id = witnessAccount then { a with
        active := rebuildAuthority hardfork533Time voteCounter db.headBlockTime
          ((electedWitnesses buffers c db).map fun w => (w.witnessAccount, voteTally buffers.voteTallyBuffer w.voteId))
          a.active } else a
      gpo.activeWitnesses := flatSet ((electedWitnesses buffers c db).map (·.id)) } := by
  simp only [updateActiveWitnesses, count, ok_bind, modifyAccount_ok _ accountExists]

theorem update_active_witnesses_elects_top (hardfork533Time witnessAccount : Nat)
    (voteCounter : VoteCounter) (buffers : ScratchBuffers) (db : ObjectDatabase)
    (voteIdsDistinct : (db.witnesses.map fun w => w.voteId.content).Nodup)
    (idsDistinct : (db.witnesses.map (·.id)).Nodup)
    (talliesFit : ∀ t ∈ buffers.voteTallyBuffer, t < 2 ^ 63)
    (nonempty : 0 < buffers.witnessCountHistogramBuffer.length)
    (bounded : buffers.witnessCountHistogramBuffer.sum ≤ buffers.totalVotingStake)
    (stakeFits : buffers.totalVotingStake < 2 ^ 63)
    (accountExists : ∃ a ∈ db.ledger.accounts, a.id = witnessAccount) :
    ∃ c db', witnessCount buffers.witnessCountHistogramBuffer buffers.totalVotingStake = .ok c ∧
      updateActiveWitnesses hardfork533Time witnessAccount voteCounter buffers db = .ok db' ∧
      db'.witnesses = db.witnesses.map (fun w => { w with totalVotes := voteTally buffers.voteTallyBuffer w.voteId }) ∧
      db'.gpo.activeWitnesses.Perm ((electedWitnesses buffers c db).map (·.id)) ∧
      (electedWitnesses buffers c db).length = min db.witnesses.length (max (2 * c + 1) db.cpo.minWitnessCount.toNat) ∧
      ((electedWitnesses buffers c db).map (·.id)).Nodup ∧
      (∀ witnesses, witnesses.Perm db.witnesses →
        electedWitnesses buffers c { db with witnesses := witnesses } = electedWitnesses buffers c db) ∧
      ∀ w ∈ electedWitnesses buffers c db, ∀ x ∈ db.witnesses, x ∉ electedWitnesses buffers c db →
        voteTally buffers.voteTallyBuffer x.voteId < voteTally buffers.voteTallyBuffer w.voteId ∨
          voteTally buffers.voteTallyBuffer w.voteId = voteTally buffers.voteTallyBuffer x.voteId ∧
            w.voteId.content < x.voteId.content := by
  obtain ⟨c, count⟩ := witnessCount_ok _ _ nonempty bounded stakeFits
  have electedIds : ((electedWitnesses buffers c db).map (·.id)).Nodup :=
    (((sortBy_perm _ _).map _).nodup_iff.mpr idsDistinct).sublist ((List.take_sublist _ _).map _)
  refine ⟨c, _, count, updateActiveWitnesses_eq voteCounter count accountExists, rfl, flatSet_perm electedIds,
    ?_, electedIds, fun witnesses perm => sortVotableObjects_perm perm.symm voteIdsDistinct _,
    fun w elected x mem left => ?_⟩
  · rw [electedWitnesses, sortVotableObjects_length]
    omega
  · exact (votablePrecedes_iff _ _ talliesFit w x).mp
      (sortVotableObjects_precedes voteIdsDistinct _ w elected x mem left)

def scenarioS4 : ObjectDatabase :=
  { cpo := { minWitnessCount := 1 }
    ledger := { accounts := [{ id := 1 }] }
    witnesses := [{ id := 7, voteId := ⟨0⟩ }, { id := 9, voteId := ⟨256⟩ }] }

def scenarioS4Buffers : ScratchBuffers := { voteTallyBuffer := [10, 10], witnessCountHistogramBuffer := [0] }

theorem update_active_witnesses_scenario_s4 :
    ∃ db', updateActiveWitnesses 0 1 (fun _ active => active) scenarioS4Buffers scenarioS4 = .ok db' ∧
      db'.gpo.activeWitnesses.length = 1 := by
  obtain ⟨c, db', count, run, -, active, length, -⟩ := update_active_witnesses_elects_top 0 1
    (fun _ active => active) scenarioS4Buffers scenarioS4 (by decide) (by decide) (by decide) (by decide)
    (by decide) (by decide) ⟨_, List.mem_singleton_self _, rfl⟩
  obtain rfl : c = 0 := by injection count.symm
  refine ⟨db', run, ?_⟩
  rw [active.length_eq, List.length_map, length]
  rfl

def overflowTallyDb : ObjectDatabase :=
  { cpo := { minWitnessCount := 1 }
    ledger := { accounts := [{ id := 1 }] }
    witnesses := [{ id := 0, voteId := ⟨256⟩ }, { id := 1, voteId := ⟨0⟩ }] }

def overflowTallyBuffers : ScratchBuffers :=
  { voteTallyBuffer := [2 ^ 63, 1], witnessCountHistogramBuffer := [0] }

theorem update_active_witnesses_tally_overflow :
    (updateActiveWitnesses 0 1 (fun _ active => active) overflowTallyBuffers overflowTallyDb).toOption.map
      (fun db => (db.gpo.activeWitnesses, db.witnesses.map (·.totalVotes))) = some ([0], [1, 2 ^ 63]) := by
  decide

theorem committeeMemberCount_ok (committeeHistogram witnessHistogram : List Nat) (totalVotingStake : Nat)
    (nonempty : 0 < committeeHistogram.length) :
    ∃ c, committeeMemberCount committeeHistogram witnessHistogram totalVotingStake = .ok c := by
  unfold committeeMemberCount check
  rw [if_pos (decide_eq_true nonempty), ok_bind]
  exact ⟨_, rfl⟩

theorem updateActiveCommitteeMembers_ok {hardfork533Time committeeAccount relaxedCommitteeAccount : Nat}
    (voteCounter : VoteCounter) {buffers : ScratchBuffers} {db : ObjectDatabase} {c : Nat}
    (count : committeeMemberCount buffers.committeeCountHistogramBuffer buffers.witnessCountHistogramBuffer
      buffers.totalVotingStake = .ok c)
    (committeeExists : ∃ a ∈ db.ledger.accounts, a.id = committeeAccount)
    (relaxedExists : ∃ a ∈ db.ledger.accounts, a.id = relaxedCommitteeAccount) :
    ∃ db', updateActiveCommitteeMembers hardfork533Time committeeAccount relaxedCommitteeAccount voteCounter
      buffers db = .ok db' := by
  simp only [updateActiveCommitteeMembers, count, ok_bind]
  split
  · exact ⟨_, rfl⟩
  · rw [modifyAccount_ok _ committeeExists, ok_bind]
    refine exists_bind_ok (findAccount_of_present (present_of_modified (by intro; rfl) committeeExists))
      fun committee => ?_
    rw [modifyAccount_ok _ (present_of_modified (by intro; rfl) relaxedExists)]
    exact ⟨_, rfl⟩

theorem update_active_committee_members_refreshes_elected (hardfork533Time committeeAccount
      relaxedCommitteeAccount : Nat) (voteCounter : VoteCounter) (buffers : ScratchBuffers) (db : ObjectDatabase)
    (voteIdsDistinct : (db.committeeMembers.map fun m => m.voteId.content).Nodup)
    (talliesFit : ∀ t ∈ buffers.voteTallyBuffer, t < 2 ^ 63)
    (nonempty : 0 < buffers.committeeCountHistogramBuffer.length)
    (committeeExists : ∃ a ∈ db.ledger.accounts, a.id = committeeAccount)
    (relaxedExists : ∃ a ∈ db.ledger.accounts, a.id = relaxedCommitteeAccount) :
    ∃ c db', committeeMemberCount buffers.committeeCountHistogramBuffer buffers.witnessCountHistogramBuffer
        buffers.totalVotingStake = .ok c ∧
      updateActiveCommitteeMembers hardfork533Time committeeAccount relaxedCommitteeAccount voteCounter
        buffers db = .ok db' ∧
      db'.committeeMembers = db.committeeMembers.map (fun m => if m ∈ electedCommitteeMembers buffers c db then
        { m with totalVotes := voteTally buffers.voteTallyBuffer m.voteId } else m) ∧
      ∀ m ∈ electedCommitteeMembers buffers c db, ∀ x ∈ db.committeeMembers, x ∉ electedCommitteeMembers buffers c db →
        voteTally buffers.voteTallyBuffer x.voteId < voteTally buffers.voteTallyBuffer m.voteId ∨
          voteTally buffers.voteTallyBuffer m.voteId = voteTally buffers.voteTallyBuffer x.voteId ∧
            m.voteId.content < x.voteId.content := by
  obtain ⟨c, count⟩ := committeeMemberCount_ok _ buffers.witnessCountHistogramBuffer buffers.totalVotingStake nonempty
  obtain ⟨db', run⟩ := updateActiveCommitteeMembers_ok voteCounter count committeeExists relaxedExists
  obtain ⟨c', accounts, count', rfl⟩ := updateActiveCommitteeMembers_inv run
  exact ⟨c', _, count', run, rfl, fun m elected x mem left =>
    (votablePrecedes_iff _ _ talliesFit m x).mp (sortVotableObjects_precedes voteIdsDistinct _ m elected x mem left)⟩

def staleCommitteeDb : ObjectDatabase :=
  { ledger := { accounts := [{ id := 1 }, { id := 2 }] }
    committeeMembers := [{ id := 0, voteId := ⟨0⟩ }, { id := 1, voteId := ⟨256⟩, totalVotes := 1000 }] }

def staleCommitteeBuffers : ScratchBuffers :=
  { voteTallyBuffer := [5, 0], committeeCountHistogramBuffer := [0] }

theorem update_active_committee_members_stale_scenario :
    ∃ db', updateActiveCommitteeMembers 0 1 2 (fun _ active => active) staleCommitteeBuffers staleCommitteeDb = .ok db' ∧
      db'.committeeMembers.map (·.totalVotes) = [5, 1000] := by
  obtain ⟨c, db', count, run, members, -⟩ := update_active_committee_members_refreshes_elected 0 1 2
    (fun _ active => active) staleCommitteeBuffers staleCommitteeDb (by decide) (by decide) (by decide)
    ⟨_, List.mem_cons_self _ _, rfl⟩ ⟨_, List.mem_cons_of_mem _ (List.mem_singleton_self _), rfl⟩
  obtain rfl : c = 0 := by injection count.symm
  exact ⟨db', run, by rw [members]; decide⟩

theorem update_active_committee_members_keeps_stale_votes :
    (updateActiveCommitteeMembers 0 1 2 (fun _ active => active) staleCommitteeBuffers staleCommitteeDb).toOption.map
      (fun db => (db.gpo.activeCommitteeMembers, db.committeeMembers.map (·.totalVotes))) = some ([0], [5, 1000]) := by
  decide

end Graphene.Chain
