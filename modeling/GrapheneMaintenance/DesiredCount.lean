import GrapheneMaintenance.Machine
import Mathlib.Algebra.BigOperators.Group.List

set_option autoImplicit false

/- The desired-count derivation at the top of `update_active_witnesses` and
   `update_active_committee_members`: the stake-weighted median of the count histogram,
   with the abstainers of bucket 0 left out. The `while` loops run over the buckets
   `1 .. size - 1` not yet taken, so `count < size - 1` is "some bucket is left". -/
namespace Graphene.Chain

-- Lines 163 and 248: `(_total_voting_stake - histogram[0]) / 2` in `uint64_t`, as a `share_type`.
def stakeTarget (totalVotingStake abstainers : Nat) : Int :=
  shareOfUInt64 (wrap64 ((totalVotingStake : Int) - abstainers) / 2)

-- Lines 173-176: `stake_tally` is a `share_type`, so each `+=` is checked.
def witnessCountLoop (target : Int) : List Nat → Nat → Int → Except Fault Nat
  | [], count, _ => .ok count
  | bucket :: rest, count, stakeTally =>
    if stakeTally ≤ target then do
      let stakeTally ← shareAdd stakeTally (shareOfUInt64 bucket)
      witnessCountLoop target rest (count + 1) stakeTally
    else .ok count

-- Lines 161-176.
def witnessCount (histogram : List Nat) (totalVotingStake : Nat) : Except Fault Nat := do
  check (0 < histogram.length) .abort
  let target := stakeTarget totalVotingStake (histogram.getD 0 0)
  if 0 < target then witnessCountLoop target histogram.tail 0 0 else .ok 0

-- Lines 256-259: here `stake_tally` is a `uint64_t`, converted to `share_type` for the test.
def committeeCountLoop (target : Int) : List Nat → Nat → Nat → Nat
  | [], count, _ => count
  | bucket :: rest, count, stakeTally =>
    if shareOfUInt64 stakeTally ≤ target then
      committeeCountLoop target rest (count + 1) (wrap64 (stakeTally + bucket))
    else count

-- Lines 247-260: the target subtracts bucket 0 of the witness histogram.
def committeeMemberCount (committeeHistogram witnessHistogram : List Nat)
    (totalVotingStake : Nat) : Except Fault Nat := do
  check (0 < committeeHistogram.length) .abort
  let target := stakeTarget totalVotingStake (witnessHistogram.getD 0 0)
  .ok (if 0 < target then committeeCountLoop target committeeHistogram.tail 0 0 else 0)

def bucketSum (histogram : List Nat) (c : Nat) : Nat := (histogram.tail.take c).sum

theorem stakeTarget_of_le {total abstainers : Nat} (le : abstainers ≤ total) (fits : total < 2 ^ 63) :
    stakeTarget total abstainers = ((total - abstainers) / 2 : Nat) := by
  have exact : (wrap64 ((total : Int) - abstainers) : Int) = ((total - abstainers : Nat) : Int) := by
    rw [wrap64_of_range (by omega) (by omega)]
    omega
  have half : wrap64 ((total : Int) - abstainers) / 2 < 2 ^ 63 := by omega
  rw [stakeTarget, shareOfUInt64_of_lt half]
  omega

theorem witnessCountLoop_stop (target : Int) (buckets : List Nat) (count : Nat) {stakeTally : Int}
    (above : target < stakeTally) : witnessCountLoop target buckets count stakeTally = .ok count := by
  cases buckets with
  | nil => rfl
  | cons bucket rest => simp [witnessCountLoop, Int.not_le.mpr above]

theorem witnessCountLoop_spec (target : Int) (buckets : List Nat) (count : Nat) (stakeTally : Int)
    (low : 0 ≤ stakeTally) (below : stakeTally ≤ target) (fits : stakeTally + buckets.sum < 2 ^ 63) :
    ∃ taken, witnessCountLoop target buckets count stakeTally = .ok (count + taken) ∧
      taken ≤ buckets.length ∧ (buckets ≠ [] → 1 ≤ taken) ∧
      (∀ j, j < taken → stakeTally + (buckets.take j).sum ≤ target) ∧
      (target < stakeTally + (buckets.take taken).sum ∨ taken = buckets.length) := by
  induction buckets generalizing count stakeTally with
  | nil => exact ⟨0, rfl, le_refl _, fun absurd => (absurd rfl).elim, fun j lt => by omega, by simp⟩
  | cons bucket rest ih =>
    simp only [List.sum_cons, Nat.cast_add] at fits
    have step : witnessCountLoop target (bucket :: rest) count stakeTally =
        witnessCountLoop target rest (count + 1) (stakeTally + bucket) := by
      have small : bucket < 2 ^ 63 := by omega
      simp only [witnessCountLoop, if_pos below, shareOfUInt64_of_lt small]
      rw [shareAdd_of_range (by unfold InShareRange; omega)]
      rfl
    rw [step]
    by_cases over : target < stakeTally + bucket
    · refine ⟨1, by rw [witnessCountLoop_stop _ _ _ over], by simp, fun _ => le_refl _, ?_, ?_⟩
      · intro j lt
        simp [show j = 0 by omega, below]
      · left
        simpa using over
    · obtain ⟨taken, run, bound, _, before, final⟩ :=
        ih (count + 1) (stakeTally + bucket) (by omega) (by omega) (by omega)
      refine ⟨taken + 1, by rw [run]; congr 1; omega, by simp; omega, fun _ => by omega, ?_, ?_⟩
      · intro j lt
        cases j with
        | zero => simpa using below
        | succ j =>
          have := before j (by omega)
          simp only [List.take_succ_cons, List.sum_cons, Nat.cast_add]
          omega
      · simp only [List.take_succ_cons, List.sum_cons, Nat.cast_add, List.length_cons]
        rcases final with final | final
        · left; omega
        · right; omega

def IsStakeMedian (histogram : List Nat) (target c : Nat) : Prop :=
  (target = 0 ∨ histogram.length = 1 → c = 0) ∧
  (0 < target → 1 < histogram.length →
    1 ≤ c ∧ c ≤ histogram.length - 1 ∧
    (∀ c', 1 ≤ c' → c' < c → bucketSum histogram c' ≤ target) ∧
    (target < bucketSum histogram c ∨ c = histogram.length - 1))

theorem witnessCount_cons (first : Nat) (rest : List Nat) (totalVotingStake : Nat) :
    witnessCount (first :: rest) totalVotingStake =
      if 0 < stakeTarget totalVotingStake first then
        witnessCountLoop (stakeTarget totalVotingStake first) rest 0 0
      else .ok 0 := by
  simp [witnessCount, check]

theorem witnessCount_ok (histogram : List Nat) (totalVotingStake : Nat) (nonempty : 0 < histogram.length)
    (bounded : histogram.sum ≤ totalVotingStake) (fits : totalVotingStake < 2 ^ 63) :
    ∃ c, witnessCount histogram totalVotingStake = .ok c := by
  obtain ⟨first, rest, rfl⟩ : ∃ first rest, histogram = first :: rest :=
    List.exists_cons_of_length_pos nonempty
  simp only [List.sum_cons] at bounded
  rw [witnessCount_cons, stakeTarget_of_le (by omega) fits]
  split
  · obtain ⟨taken, run, -⟩ := witnessCountLoop_spec ((totalVotingStake - first) / 2 : Nat) rest 0 0
      (le_refl _) (by omega) (by omega)
    exact ⟨_, run⟩
  · exact ⟨0, rfl⟩

theorem witnessCountLoop_le {target : Int} : ∀ {buckets : List Nat} {count c : Nat} {stakeTally : Int},
    witnessCountLoop target buckets count stakeTally = .ok c → c ≤ count + buckets.length
  | [], _, _, _, run => by
    cases run
    simp
  | bucket :: rest, count, c, stakeTally, run => by
    unfold witnessCountLoop at run
    split_ifs at run
    · obtain ⟨tally, -, loop⟩ := bind_eq_ok run
      have := witnessCountLoop_le loop
      simp only [List.length_cons]
      omega
    · cases run
      omega

theorem witnessCount_lt_length {histogram : List Nat} {totalVotingStake c : Nat}
    (run : witnessCount histogram totalVotingStake = .ok c) : c < histogram.length := by
  cases histogram with
  | nil => simp [witnessCount, check] at run
  | cons first rest =>
    rw [witnessCount_cons] at run
    split at run
    · have := witnessCountLoop_le run
      simp only [List.length_cons]
      omega
    · cases run
      simp

theorem committeeCountLoop_le (target : Int) : ∀ (buckets : List Nat) (count stakeTally : Nat),
    committeeCountLoop target buckets count stakeTally ≤ count + buckets.length
  | [], _, _ => le_refl _
  | bucket :: rest, count, stakeTally => by
    unfold committeeCountLoop
    split_ifs
    · have := committeeCountLoop_le target rest (count + 1) (wrap64 (stakeTally + bucket))
      simp only [List.length_cons]
      omega
    · omega

theorem committeeMemberCount_lt_length {committeeHistogram witnessHistogram : List Nat} {totalVotingStake c : Nat}
    (run : committeeMemberCount committeeHistogram witnessHistogram totalVotingStake = .ok c) :
    c < committeeHistogram.length := by
  cases committeeHistogram with
  | nil => simp [committeeMemberCount, check] at run
  | cons first rest =>
    simp only [committeeMemberCount, check, List.length_cons, Nat.zero_lt_succ, decide_True, if_true, ok_bind,
      List.tail_cons, Except.ok.injEq] at run
    subst run
    have := committeeCountLoop_le (stakeTarget totalVotingStake (witnessHistogram.getD 0 0)) rest 0 0
    simp only [List.length_cons]
    split <;> omega

theorem witness_count_is_stake_median (histogram : List Nat) (totalVotingStake : Nat)
    (nonempty : 0 < histogram.length) (bounded : histogram.sum ≤ totalVotingStake)
    (fits : totalVotingStake < 2 ^ 63) :
    histogram.getD 0 0 ≤ totalVotingStake ∧
    ∃ c, witnessCount histogram totalVotingStake = .ok c ∧
      IsStakeMedian histogram ((totalVotingStake - histogram.getD 0 0) / 2) c := by
  obtain ⟨first, rest, rfl⟩ : ∃ first rest, histogram = first :: rest :=
    List.exists_cons_of_length_pos nonempty
  simp only [List.sum_cons] at bounded
  have target : stakeTarget totalVotingStake first = ((totalVotingStake - first) / 2 : Nat) :=
    stakeTarget_of_le (by omega) fits
  simp only [List.getD_cons_zero, IsStakeMedian, List.length_cons, bucketSum, List.tail_cons,
    witnessCount_cons, target]
  refine ⟨by omega, ?_⟩
  by_cases positive : 0 < (totalVotingStake - first) / 2
  · obtain ⟨taken, run, bound, nonzero, before, final⟩ := witnessCountLoop_spec
      ((totalVotingStake - first) / 2 : Nat) rest 0 0 (le_refl _) (by omega) (by omega)
    refine ⟨taken, ?_, ?_, fun _ more => ⟨?_, by omega, ?_, ?_⟩⟩
    · rw [if_pos (by omega), run, Nat.zero_add]
    · rintro (zero | single)
      · omega
      · cases rest with
        | nil => simpa using bound
        | cons _ _ => simp at single
    · exact nonzero (List.ne_nil_of_length_pos (by omega))
    · intro c' _ lt
      have := before c' lt
      omega
    · rcases final with final | final
      · left; omega
      · right; simp [final]
  · exact ⟨0, by rw [if_neg (by omega)], fun _ => rfl, fun absurd => (positive absurd).elim⟩

theorem witness_count_is_stake_median_example :
    (0 < [5, 3, 4, 2].length ∧ [5, 3, 4, 2].sum ≤ 20 ∧ 20 < 2 ^ 63) ∧
      ([5, 3, 4, 2].getD 0 0 ≤ 20 ∧ ∃ c, witnessCount [5, 3, 4, 2] 20 = .ok c ∧
        IsStakeMedian [5, 3, 4, 2] ((20 - [5, 3, 4, 2].getD 0 0) / 2) c) :=
  ⟨by decide, witness_count_is_stake_median [5, 3, 4, 2] 20 (by decide) (by decide) (by decide)⟩

theorem committee_count_reads_witness_abstainers :
    IsStakeMedian [0, 10] ((10 - [0, 10].getD 0 0) / 2) 1 ∧ committeeMemberCount [0, 10] [10, 0] 10 = .ok 0 ∧
      committeeMemberCount [0, 10] [0, 10] 10 = .ok 1 :=
  ⟨⟨by decide, fun _ _ => ⟨le_refl _, le_refl _, fun _ _ below => absurd below (by omega), .inl (by decide)⟩⟩,
    rfl, rfl⟩

end Graphene.Chain
