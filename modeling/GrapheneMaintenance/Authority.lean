import GrapheneMaintenance.Election
import Mathlib.Algebra.Order.BigOperators.Group.List
import Mathlib.Algebra.BigOperators.Ring
import Mathlib.Algebra.Order.Ring.Nat

set_option autoImplicit false

/- The authorities the elections rebuild before `HARDFORK_533_TIME`, lines 194-224 and 273-303.
   The elected members' tallies are collected in a `std::map` keyed by account, which keeps the
   first tally of each account; `bits_to_drop` keeps the top 16 bits of their 64-bit total, each
   weight is cut to `uint16_t` and raised to 1, and the threshold is summed in a `uint32_t`. The
   map's strict key order is the invariant of the fold that fills it. -/
namespace Graphene.Chain

def MapOrdered (weights : List (AccountId × Nat)) : Prop := weights.Sorted fun x y => x.1 < y.1

theorem mem_emplaceWeight {entry x : AccountId × Nat} {weights : List (AccountId × Nat)}
    (mem : x ∈ emplaceWeight entry weights) : x = entry ∨ x ∈ weights := by
  induction weights with
  | nil => simpa [emplaceWeight] using mem
  | cons e rest ih =>
    unfold emplaceWeight at mem
    split_ifs at mem
    · simpa using mem
    · exact .inr mem
    · rcases List.mem_cons.mp mem with rfl | later
      · exact .inr (List.mem_cons_self _ _)
      · exact (ih later).imp_right (List.mem_cons_of_mem _)

theorem emplaceWeight_ordered (entry : AccountId × Nat) {weights : List (AccountId × Nat)}
    (ordered : MapOrdered weights) : MapOrdered (emplaceWeight entry weights) := by
  induction weights with
  | nil => exact List.sorted_singleton _
  | cons e rest ih =>
    obtain ⟨above, ordered⟩ := List.sorted_cons.mp ordered
    unfold emplaceWeight
    split_ifs with below same
    · exact List.sorted_cons.mpr ⟨fun y mem => by
        rcases List.mem_cons.mp mem with rfl | later
        · exact below
        · exact below.trans (above y later), List.sorted_cons.mpr ⟨above, ordered⟩⟩
    · exact List.sorted_cons.mpr ⟨above, ordered⟩
    · refine List.sorted_cons.mpr ⟨fun y mem => ?_, ih ordered⟩
      rcases mem_emplaceWeight mem with rfl | later
      · exact lt_of_le_of_ne (not_lt.mp below) (Ne.symm same)
      · exact above y later

theorem lookup_of_below {key : AccountId} {e : AccountId × Nat} {rest : List (AccountId × Nat)}
    (ordered : MapOrdered (e :: rest)) (below : key < e.1) : (e :: rest).lookup key = none := by
  obtain ⟨above, -⟩ := List.sorted_cons.mp ordered
  refine List.lookup_eq_none_iff.mpr fun p mem => ?_
  rcases List.mem_cons.mp mem with rfl | later
  · simpa using Nat.ne_of_lt below
  · simpa using Nat.ne_of_lt (below.trans (above p later))

theorem lookup_emplaceWeight (entry : AccountId × Nat) {weights : List (AccountId × Nat)}
    (ordered : MapOrdered weights) (key : AccountId) :
    (emplaceWeight entry weights).lookup key = (weights ++ [entry]).lookup key := by
  obtain ⟨account, tally⟩ := entry
  induction weights with
  | nil => rfl
  | cons e rest ih =>
    obtain ⟨k, v⟩ := e
    have restOrdered := (List.sorted_cons.mp ordered).2
    unfold emplaceWeight
    rw [List.lookup_append]
    split_ifs with below same
    · by_cases hit : key = account
      · subst hit
        rw [lookup_of_below ordered below]
        simp
      · simp [List.lookup_cons, beq_eq_false_iff_ne.mpr hit]
    · by_cases hit : key = k
      · simp [List.lookup_cons, hit]
      · simp [List.lookup_cons, beq_eq_false_iff_ne.mpr hit, beq_eq_false_iff_ne.mpr (show key ≠ account from fun h => hit (h.trans same))]
    · by_cases hit : key = k
      · simp [List.lookup_cons, hit]
      · simp [List.lookup_cons, beq_eq_false_iff_ne.mpr hit, ih restOrdered, List.lookup_append]

theorem foldl_emplaceWeight (members : List (AccountId × Nat)) {weights : List (AccountId × Nat)}
    (ordered : MapOrdered weights) :
    MapOrdered (members.foldl (fun weights member => emplaceWeight member weights) weights) ∧
      ∀ key, (members.foldl (fun weights member => emplaceWeight member weights) weights).lookup key =
        (weights ++ members).lookup key := by
  induction members generalizing weights with
  | nil => simpa using ordered
  | cons member rest ih =>
    obtain ⟨restOrdered, restLookup⟩ := ih (emplaceWeight_ordered member ordered)
    refine ⟨restOrdered, fun key => ?_⟩
    rw [List.foldl_cons, restLookup, List.lookup_append, lookup_emplaceWeight member ordered,
      ← List.lookup_append, List.append_assoc, List.singleton_append]

theorem mem_iff_lookup {weights : List (AccountId × Nat)} (ordered : MapOrdered weights)
    (account : AccountId) (weight : Nat) : (account, weight) ∈ weights ↔ weights.lookup account = some weight := by
  induction weights with
  | nil => simp
  | cons e rest ih =>
    obtain ⟨above, restOrdered⟩ := List.sorted_cons.mp ordered
    obtain ⟨k, v⟩ := e
    by_cases hit : account = k
    · subst hit
      have absent : (account, weight) ∉ rest := fun mem => lt_irrefl account (above _ mem)
      simp [absent, eq_comm]
    · simp [List.lookup_cons, beq_eq_false_iff_ne.mpr hit, hit, ih restOrdered]

theorem emplaceWeight_sum_le (entry : AccountId × Nat) (weights : List (AccountId × Nat)) :
    ((emplaceWeight entry weights).map (·.2)).sum ≤ (weights.map (·.2)).sum + entry.2 := by
  induction weights with
  | nil => simp [emplaceWeight]
  | cons e rest ih =>
    unfold emplaceWeight
    split_ifs <;> simp only [List.map_cons, List.sum_cons] <;> omega

theorem foldl_emplaceWeight_sum_le (members weights : List (AccountId × Nat)) :
    ((members.foldl (fun weights member => emplaceWeight member weights) weights).map (·.2)).sum ≤
      (weights.map (·.2)).sum + (members.map (·.2)).sum := by
  induction members generalizing weights with
  | nil => simp
  | cons member rest ih =>
    have step := emplaceWeight_sum_le member weights
    have later := ih (emplaceWeight member weights)
    simp only [List.foldl_cons, List.map_cons, List.sum_cons] at later ⊢
    omega

theorem sum_shiftRight_le (bits : Nat) (values : List Nat) :
    (values.map (· >>> bits)).sum ≤ values.sum >>> bits := by
  induction values with
  | nil => simp
  | cons x rest ih =>
    simp only [List.map_cons, List.sum_cons, Nat.shiftRight_eq_div_pow] at ih ⊢
    refine (Nat.add_le_add_left ih _).trans ((Nat.le_div_iff_mul_le (Nat.two_pow_pos bits)).mpr ?_)
    rw [Nat.add_mul]
    exact Nat.add_le_add (Nat.div_mul_le_self _ _) (Nat.div_mul_le_self _ _)

theorem sum_max_one_le (values : List Nat) : (values.map fun v => max v 1).sum ≤ values.sum + values.length := by
  induction values with
  | nil => simp
  | cons v rest ih =>
    simp only [List.map_cons, List.sum_cons, List.length_cons]
    omega

theorem shiftRight_log2_lt (total : Nat) : total >>> (Nat.log2 total - 15) < 2 ^ 16 := by
  rw [Nat.shiftRight_eq_div_pow, Nat.div_lt_iff_lt_mul (Nat.two_pow_pos _), ← Nat.pow_add]
  calc total < 2 ^ (total.log2 + 1) := Nat.lt_log2_self
    _ ≤ 2 ^ (16 + (total.log2 - 15)) := Nat.pow_le_pow_right (by decide) (by omega)

structure RebuiltAuthority (members : List (AccountId × Nat)) (authority : Authority) : Prop where
  keyAuthsEmpty : authority.keyAuths = []
  addressAuthsEmpty : authority.addressAuths = []
  accountsDistinct : (authority.accountAuths.map (·.1)).Nodup
  weightOf : ∀ account weight, (account, weight) ∈ authority.accountAuths ↔
    ∃ tally, members.lookup account = some tally ∧
      weight = max (tally >>> (Nat.log2 (members.map (·.2)).sum - 15)) 1
  weightRange : ∀ entry ∈ authority.accountAuths, 1 ≤ entry.2 ∧ entry.2 < 2 ^ 16
  sumFits : (authority.accountAuths.map (·.2)).sum < 2 ^ 32
  thresholdEq : authority.weightThreshold = (authority.accountAuths.map (·.2)).sum / 2 + 1
  thresholdLe : authority.weightThreshold ≤ (authority.accountAuths.map (·.2)).sum

theorem legacyAuthority_rebuilt (members : List (AccountId × Nat)) (positive : 0 < (members.map (·.2)).sum)
    (fits : (members.map (·.2)).sum < 2 ^ 64) (fewAccounts : (members.map (·.1)).dedup.length ≤ 2 ^ 32 - 2 ^ 16) :
    RebuiltAuthority members (legacyAuthority members) := by
  obtain ⟨ordered, lookups⟩ := @foldl_emplaceWeight members [] List.sorted_nil
  have weightsSum := foldl_emplaceWeight_sum_le members []
  simp only [List.nil_append, List.map_nil, List.sum_nil, Nat.zero_add] at lookups weightsSum
  unfold legacyAuthority
  generalize members.foldl (fun weights member => emplaceWeight member weights) [] = weights at *
  have castSum : (members.map fun member => (member.2 : Int)).sum = ((members.map (·.2)).sum : Nat) := by
    rw [Nat.cast_list_sum, List.map_map]
    rfl
  dsimp only
  rw [castSum, wrap64_nat_of_lt fits]
  generalize totalIs : (members.map (·.2)).sum = total at *
  generalize bitsIs : Nat.log2 total - 15 = bits
  have narrow : ∀ entry ∈ weights, max (entry.2 >>> bits) 1 < 2 ^ 16 := fun entry mem => by
    have tallyLe := (List.le_sum_of_mem (List.mem_map_of_mem Prod.snd mem)).trans weightsSum
    have shifted : entry.2 >>> bits ≤ total >>> bits := by
      simp only [Nat.shiftRight_eq_div_pow]
      exact Nat.div_le_div_right tallyLe
    have top := shiftRight_log2_lt total
    rw [bitsIs] at top
    omega
  have votesIs : weights.map (fun w => (w.1, max (w.2 >>> bits) 1 % 2 ^ 16)) =
      weights.map fun w => (w.1, max (w.2 >>> bits) 1) :=
    List.map_congr_left fun w mem => by rw [Nat.mod_eq_of_lt (narrow w mem)]
  rw [votesIs]
  have keysDistinct : (weights.map (·.1)).Nodup := List.pairwise_map.mpr (ordered.imp ne_of_lt)
  have found : ∀ account tally, (account, tally) ∈ weights ↔ members.lookup account = some tally :=
    fun account tally => (mem_iff_lookup ordered account tally).trans (by rw [lookups])
  have shiftedSum : ((weights.map (·.2)).map (· >>> bits)).sum ≤ total >>> bits := by
    refine (sum_shiftRight_le bits _).trans ?_
    simp only [Nat.shiftRight_eq_div_pow]
    exact Nat.div_le_div_right weightsSum
  have votesSum : ((weights.map fun w => (w.1, max (w.2 >>> bits) 1)).map (·.2)).sum ≤
      total >>> bits + weights.length := by
    have rounded := sum_max_one_le ((weights.map (·.2)).map (· >>> bits))
    simp only [List.map_map, List.length_map] at rounded shiftedSum ⊢
    exact rounded.trans (by omega)
  have fewWeights : weights.length ≤ (members.map (·.1)).dedup.length := by
    rw [← List.length_map weights (·.1)]
    refine (keysDistinct.subperm fun key mem => ?_).length_le
    obtain ⟨⟨account, tally⟩, inWeights, rfl⟩ := List.mem_map.mp mem
    obtain ⟨member, inMembers, same⟩ := List.lookup_isSome_iff.mp
      (Option.isSome_iff_exists.mpr ⟨tally, (found account tally).mp inWeights⟩)
    exact List.mem_dedup.mpr (List.mem_map.mpr ⟨member, inMembers, (beq_iff_eq.mp same).symm⟩)
  have someWeight : ∃ entry, entry ∈ weights := by
    obtain ⟨member, inMembers⟩ : ∃ member, member ∈ members := by
      cases members with
      | nil => simp at totalIs; omega
      | cons member _ => exact ⟨member, List.mem_cons_self _ _⟩
    obtain ⟨tally, lookup⟩ := Option.isSome_iff_exists.mp
      (List.lookup_isSome_iff.mpr ⟨member, inMembers, beq_self_eq_true _⟩)
    exact ⟨(member.1, tally), (found _ _).mpr lookup⟩
  have top := shiftRight_log2_lt total
  rw [bitsIs] at top
  have sumFits : ((weights.map fun w => (w.1, max (w.2 >>> bits) 1)).map (·.2)).sum < 2 ^ 32 := by omega
  have sumPositive : 1 ≤ ((weights.map fun w => (w.1, max (w.2 >>> bits) 1)).map (·.2)).sum := by
    obtain ⟨entry, mem⟩ := someWeight
    have single := List.le_sum_of_mem (List.mem_map_of_mem Prod.snd
      (List.mem_map_of_mem (fun w => (w.1, max (w.2 >>> bits) 1)) mem))
    exact (le_max_right _ _).trans single
  refine ⟨rfl, rfl, ?_, fun account weight => ?_, fun entry mem => ?_, sumFits, ?_, ?_⟩
  · rw [List.map_map]
    exact keysDistinct
  · rw [totalIs, bitsIs]
    simp only [List.mem_map, Prod.mk.injEq]
    constructor
    · rintro ⟨⟨account, tally⟩, inWeights, rfl, rfl⟩
      exact ⟨tally, (found account tally).mp inWeights, rfl⟩
    · rintro ⟨tally, lookup, rfl⟩
      exact ⟨(account, tally), (found account tally).mpr lookup, rfl, rfl⟩
  · obtain ⟨w, inWeights, rfl⟩ := List.mem_map.mp mem
    exact ⟨le_max_right _ _, narrow w inWeights⟩
  · show _ % 2 ^ 32 / 2 + 1 = _
    rw [Nat.mod_eq_of_lt sumFits]
  · show _ % 2 ^ 32 / 2 + 1 ≤ ((weights.map fun w => (w.1, max (w.2 >>> bits) 1)).map (·.2)).sum
    rw [Nat.mod_eq_of_lt sumFits]
    omega

theorem rebuilt_of_modified {hardfork533Time now id : Nat} {voteCounter : VoteCounter}
    {members : List (AccountId × Nat)} {accounts accounts' : List AccountObject}
    (beforeHardfork : now < hardfork533Time) (positive : 0 < (members.map (·.2)).sum)
    (fits : (members.map (·.2)).sum < 2 ^ 64) (few : (members.map (·.1)).dedup.length ≤ 2 ^ 32 - 2 ^ 16)
    (modified : modifyAccount id (fun a => { a with
      active := rebuildAuthority hardfork533Time voteCounter now members a.active }) accounts = .ok accounts')
    {account : AccountObject} (mem : account ∈ accounts') (same : account.id = id) :
    RebuiltAuthority members account.active := by
  obtain ⟨old, -, ⟨-, rfl⟩ | ⟨different, rfl⟩⟩ := mem_modifyAccount modified mem
  · rw [rebuildAuthority, if_pos beforeHardfork]
    exact legacyAuthority_rebuilt _ positive fits few
  · exact absurd same different

theorem electionSize_lt {maximum minimum : UInt16} {c : Nat} (counted : c < maximum.toNat / 2 + 1) :
    max (c * 2 + 1) minimum.toNat < 2 ^ 16 :=
  max_lt (by have := toNat_lt_of_uint16 maximum; omega) (toNat_lt_of_uint16 minimum)

theorem electedWitnesses_length_le (buffers : ScratchBuffers) (c : Nat) (db : ObjectDatabase) :
    (electedWitnesses buffers c db).length ≤ max (c * 2 + 1) db.cpo.minWitnessCount.toNat :=
  (sortVotableObjects_length _ _).trans_le (min_le_right _ _)

theorem electedCommitteeMembers_length_le (buffers : ScratchBuffers) (c : Nat) (db : ObjectDatabase) :
    (electedCommitteeMembers buffers c db).length ≤ max (c * 2 + 1) db.cpo.minCommitteeMemberCount.toNat :=
  (sortVotableObjects_length _ _).trans_le (min_le_right _ _)

theorem fewAccounts_of_elected {β : Type} {elected : List β} (member : β → AccountId × Nat) {size : Nat}
    (taken : elected.length ≤ size) (small : size < 2 ^ 16) :
    ((elected.map member).map (·.1)).dedup.length ≤ 2 ^ 32 - 2 ^ 16 := by
  have := (List.dedup_sublist ((elected.map member).map (·.1))).length_le
  rw [List.length_map, List.length_map] at this
  omega

theorem legacy_authority_rebuild_fits (hardfork533Time witnessAccount committeeAccount relaxedCommitteeAccount : Nat)
    (voteCounter : VoteCounter) (buffers : ScratchBuffers) (db : ObjectDatabase) (c : Nat)
    (beforeHardfork : db.headBlockTime < hardfork533Time) :
    (let members := (electedWitnesses buffers c db).map fun w =>
       (w.witnessAccount, voteTally buffers.voteTallyBuffer w.voteId)
     0 < (members.map (·.2)).sum → (members.map (·.2)).sum < 2 ^ 64 →
       buffers.witnessCountHistogramBuffer.length = db.gpo.parameters.maximumWitnessCount.toNat / 2 + 1 →
       witnessCount buffers.witnessCountHistogramBuffer buffers.totalVotingStake = .ok c →
       ∀ db', updateActiveWitnesses hardfork533Time witnessAccount voteCounter buffers db = .ok db' →
         ∀ account ∈ db'.ledger.accounts, account.id = witnessAccount → RebuiltAuthority members account.active) ∧
    (let members := (electedCommitteeMembers buffers c db).map fun m =>
       (m.committeeMemberAccount, voteTally buffers.voteTallyBuffer m.voteId)
     0 < (members.map (·.2)).sum → (members.map (·.2)).sum < 2 ^ 64 →
       buffers.committeeCountHistogramBuffer.length = db.gpo.parameters.maximumCommitteeCount.toNat / 2 + 1 →
       committeeMemberCount buffers.committeeCountHistogramBuffer buffers.witnessCountHistogramBuffer
         buffers.totalVotingStake = .ok c →
       ∀ db', updateActiveCommitteeMembers hardfork533Time committeeAccount relaxedCommitteeAccount voteCounter
         buffers db = .ok db' →
         ∀ account ∈ db'.ledger.accounts, account.id = committeeAccount ∨ account.id = relaxedCommitteeAccount →
           RebuiltAuthority members account.active) := by
  refine ⟨fun positive fits sized count db' run account mem same => ?_,
    fun positive fits sized count db' run account mem same => ?_⟩
  · have few := fewAccounts_of_elected (fun w : WitnessObject => (w.witnessAccount, voteTally buffers.voteTallyBuffer w.voteId))
      (electedWitnesses_length_le buffers c db) (electionSize_lt ((witnessCount_lt_length count).trans_eq sized))
    obtain ⟨_, counted, run⟩ := bind_eq_ok run
    rw [count] at counted
    cases counted
    obtain ⟨accounts, modified, run⟩ := bind_eq_ok run
    cases run
    exact rebuilt_of_modified beforeHardfork positive fits few modified mem same
  · obtain ⟨_, counted, run⟩ := bind_eq_ok run
    rw [count] at counted
    cases counted
    have few := fewAccounts_of_elected
      (fun m : CommitteeMemberObject => (m.committeeMemberAccount, voteTally buffers.voteTallyBuffer m.voteId))
      (electedCommitteeMembers_length_le buffers c db)
      (electionSize_lt ((committeeMemberCount_lt_length count).trans_eq sized))
    dsimp only at run
    split at run
    · rename_i empty
      rw [List.isEmpty_iff] at empty
      simp [empty] at positive
    obtain ⟨accounts, modified, run⟩ := bind_eq_ok run
    obtain ⟨committee, foundCommittee, run⟩ := bind_eq_ok run
    obtain ⟨accounts', copied, run⟩ := bind_eq_ok run
    cases run
    obtain ⟨old, oldMem, ⟨-, rfl⟩ | ⟨different, rfl⟩⟩ := mem_modifyAccount copied mem
    · show RebuiltAuthority _ committee.active
      exact rebuilt_of_modified beforeHardfork positive fits few modified (findAccount_ok foundCommittee).1
        (findAccount_ok foundCommittee).2
    · exact rebuilt_of_modified beforeHardfork positive fits few modified oldMem (same.resolve_right different)

def legacyElectionDb : ObjectDatabase :=
  { gpo := { parameters := { maximumWitnessCount := 1 } }
    cpo := { minWitnessCount := 2 }
    ledger := { accounts := [{ id := 1 }] }
    witnesses := [{ id := 7, voteId := ⟨0⟩, witnessAccount := 5 }, { id := 9, voteId := ⟨256⟩, witnessAccount := 6 }] }

def legacyElectionBuffers : ScratchBuffers :=
  { voteTallyBuffer := [10, 20], witnessCountHistogramBuffer := [0] }

theorem legacy_authority_two_witnesses :
    ∃ db', updateActiveWitnesses 1 1 (fun _ active => active) legacyElectionBuffers legacyElectionDb = .ok db' ∧
      ∀ account ∈ db'.ledger.accounts, account.id = 1 → RebuiltAuthority [(6, 20), (5, 10)] account.active :=
  ⟨_, rfl, (legacy_authority_rebuild_fits 1 1 0 0 (fun _ active => active) legacyElectionBuffers legacyElectionDb 0
    (by decide)).1 (by decide) (by decide) rfl rfl _ rfl⟩

end Graphene.Chain
