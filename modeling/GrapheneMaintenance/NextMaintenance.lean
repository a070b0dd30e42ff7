import GrapheneMaintenance.Machine
import Mathlib.Data.List.Chain
import Mathlib.Data.List.Sort

set_option autoImplicit false

/- The advancement of `next_maintenance_time`, lines 837-868 of `perform_chain_maintenance`.
   `y` is an `int64_t` quotient of whole seconds. `(y + coef) * maintenance_interval` is a
   `double`; its operands have fewer than 53 bits here, so it is exact, and `coef` is 1, or
   0.375 = 3/8 in the one-shot pass. `time_point_sec::operator+=` takes a `uint32_t`, and the
   sum is `uint32_t` arithmetic. The `HARDFORK_613_TIME` gate of line 872 compares the old and
   the new deadline; its single firing is a property of runs of passes. A run is a list of
   passes, each at a block whose timestamp has reached the deadline, with the interval in force
   after its parameter switch; each writes the next deadline from the one before it. -/
namespace Graphene.Chain

def maintenanceIncrement (oneShot : Bool) (y : Int) (maintenanceInterval : Nat) : Int :=
  if oneShot then Int.tdiv ((8 * y + 3) * maintenanceInterval) 8 else (y + 1) * maintenanceInterval

def nextMaintenanceAfter (hardfork616MaintenanceChangeTime : Nat) (nextMaintenanceTime : Nat)
    (blockNum timestamp headBlockTime maintenanceInterval : Nat) : Nat :=
  if nextMaintenanceTime ≤ timestamp then
    if blockNum = 1 then wrap32 ((timestamp / maintenanceInterval + 1) * maintenanceInterval : Nat)
    else
      let y := Int.tdiv ((headBlockTime : Int) - nextMaintenanceTime) maintenanceInterval
      wrap32 (nextMaintenanceTime + wrap32 (maintenanceIncrement
        (headBlockTime = hardfork616MaintenanceChangeTime) y maintenanceInterval))
  else nextMaintenanceTime

theorem lt_div_mul_add (d I : Nat) (pos : 0 < I) : d < d / I * I + I := by
  have := Nat.div_add_mod' d I
  have := Nat.mod_lt d pos
  omega

theorem succ_div_le_of_lt_mul {d I k : Nat} (pos : 0 < I) (lt : d < k * I) : d / I + 1 ≤ k :=
  (Nat.div_lt_iff_lt_mul pos).mpr lt

theorem maintenanceIncrement_regular (y : Nat) (I : Nat) :
    maintenanceIncrement false y I = (y * I + I : Nat) := by
  simp [maintenanceIncrement, Int.add_mul]

theorem maintenanceIncrement_oneShot (y : Nat) (I : Nat) :
    maintenanceIncrement true y I = (y * I + 3 * I / 8 : Nat) := by
  have exact : (8 * (y : Int) + 3) * I = ((3 * I + 8 * (y * I) : Nat) : Int) := by
    rw [Int.add_mul, Int.mul_assoc]
    push_cast
    omega
  have split : (3 * I + 8 * (y * I)) / 8 = 3 * I / 8 + y * I := Nat.add_mul_div_left _ _ (by decide)
  rw [maintenanceIncrement, if_pos rfl, exact, Int.tdiv_eq_ediv (by omega) (by decide)]
  omega

theorem nextMaintenanceAfter_regular {hf old blockNum head I : Nat} (due : old ≤ head)
    (notFirst : blockNum ≠ 1) :
    nextMaintenanceAfter hf old blockNum head head I =
      wrap32 (old + wrap32 (maintenanceIncrement (head = hf) ((head - old) / I : Nat) I)) := by
  have y : Int.tdiv ((head : Int) - old) I = ((head - old) / I : Nat) := by
    rw [Int.ofNat_tdiv, Int.ofNat_sub due]
  rw [nextMaintenanceAfter, if_pos due, if_neg notFirst, y]

section
variable {hf old blockNum head I : Nat}

theorem nextMaintenanceAfter_blockOne (due : old ≤ head) (pos : 0 < I) (fits : head + I < 2 ^ 32)
    (first : blockNum = 1) : nextMaintenanceAfter hf old blockNum head head I = head / I * I + I := by
  have := lt_div_mul_add head I pos
  have := Nat.div_mul_le_self head I
  simp only [nextMaintenanceAfter, if_pos due, if_pos first, Nat.add_mul, Nat.one_mul]
  exact wrap32_nat_of_lt (by omega)

theorem nextMaintenanceAfter_other (due : old ≤ head) (pos : 0 < I) (fits : head + I < 2 ^ 32)
    (notFirst : blockNum ≠ 1) (other : head ≠ hf) :
    nextMaintenanceAfter hf old blockNum head head I = old + ((head - old) / I * I + I) := by
  have := lt_div_mul_add (head - old) I pos
  have := Nat.div_add_mod' (head - old) I
  simp only [nextMaintenanceAfter_regular due notFirst, decide_eq_false other, maintenanceIncrement_regular]
  rw [wrap32_nat_of_lt (by omega), wrap32_add_of_lt (by omega)]

theorem nextMaintenanceAfter_oneShot (due : old ≤ head) (pos : 0 < I) (fits : head + I < 2 ^ 32)
    (notFirst : blockNum ≠ 1) (same : head = hf) :
    nextMaintenanceAfter hf old blockNum head head I = old + (head - old) / I * I + 3 * I / 8 := by
  have := lt_div_mul_add (head - old) I pos
  have := Nat.div_add_mod' (head - old) I
  simp only [nextMaintenanceAfter_regular due notFirst, decide_eq_true same, maintenanceIncrement_oneShot]
  rw [wrap32_nat_of_lt (by omega), wrap32_add_of_lt (by omega)]
  omega

theorem nextMaintenanceAfter_advances (due : old ≤ head) (pos : 0 < I) (fits : head + I < 2 ^ 32) :
    old ≤ nextMaintenanceAfter hf old blockNum head head I ∧
      (old < nextMaintenanceAfter hf old blockNum head head I ∨ blockNum ≠ 1 ∧ head = hf ∧ I < 3) := by
  by_cases first : blockNum = 1
  · rw [nextMaintenanceAfter_blockOne due pos fits first]
    have := lt_div_mul_add head I pos
    omega
  by_cases same : head = hf
  · rw [nextMaintenanceAfter_oneShot due pos fits first same]
    omega
  · rw [nextMaintenanceAfter_other due pos fits first same]
    omega

end

theorem next_maintenance_time_after_head (hf old blockNum head I : Nat) (due : old ≤ head)
    (pos : 0 < I) (fits : head + I < 2 ^ 32) :
    (blockNum = 1 ∨ head ≠ hf → head < nextMaintenanceAfter hf old blockNum head head I ∧
      ∀ blockInterval, 0 < blockInterval →
        1 ≤ (nextMaintenanceAfter hf old blockNum head head I - head + blockInterval - 1) / blockInterval) ∧
    (blockNum ≠ 1 → head ≠ hf → ∃ k, 1 ≤ k ∧ nextMaintenanceAfter hf old blockNum head head I = old + k * I ∧
      ∀ k', 1 ≤ k' → head < old + k' * I → k ≤ k') ∧
    (blockNum = 1 → nextMaintenanceAfter hf old blockNum head head I % I = 0 ∧
      ∀ m, m % I = 0 → head < m → nextMaintenanceAfter hf old blockNum head head I ≤ m) ∧
    (blockNum ≠ 1 → head = hf →
      nextMaintenanceAfter hf old blockNum head head I = old + (head - old) / I * I + 3 * I / 8 ∧
      (head < nextMaintenanceAfter hf old blockNum head head I ↔ (head - old) % I < 3 * I / 8)) := by
  have below := lt_div_mul_add (head - old) I pos
  have split := Nat.div_add_mod' (head - old) I
  generalize nextIs : nextMaintenanceAfter hf old blockNum head head I = next
  have blockOne : blockNum = 1 → next = head / I * I + I := fun first => by
    rw [← nextIs, nextMaintenanceAfter_blockOne due pos fits first]
  have regular : blockNum ≠ 1 → head ≠ hf → next = old + ((head - old) / I * I + I) := fun notFirst other => by
    rw [← nextIs, nextMaintenanceAfter_other due pos fits notFirst other]
  have oneShot : blockNum ≠ 1 → head = hf → next = old + (head - old) / I * I + 3 * I / 8 := fun notFirst same => by
    rw [← nextIs, nextMaintenanceAfter_oneShot due pos fits notFirst same]
  have after : blockNum = 1 ∨ head ≠ hf → head < next := by
    by_cases first : blockNum = 1
    · exact fun _ => by rw [blockOne first]; exact lt_div_mul_add head I pos
    · rintro (absurd | other)
      · exact (first absurd).elim
      · rw [regular first other]
        exact (Nat.sub_lt_iff_lt_add due).mp below
  refine ⟨fun cases => ⟨after cases, fun blockInterval _ => ?_⟩, fun notFirst other => ?_,
    fun first => ?_, fun notFirst same => ?_⟩
  · have := after cases
    exact (Nat.le_div_iff_mul_le (by omega)).mpr (by omega)
  · refine ⟨(head - old) / I + 1, Nat.le_add_left 1 _, ?_, fun k' _ later => ?_⟩
    · rw [regular notFirst other, Nat.add_one_mul]
    · exact succ_div_le_of_lt_mul pos (Nat.sub_lt_left_of_lt_add due later)
  · have multipleOf : ∀ m, m % I = 0 → m / I * I = m := fun m multiple =>
      Nat.div_mul_cancel (Nat.dvd_of_mod_eq_zero multiple)
    rw [blockOne first, ← Nat.add_one_mul]
    refine ⟨Nat.mul_mod_left _ _, fun m multiple later => ?_⟩
    have least := succ_div_le_of_lt_mul pos (d := head) (k := m / I) (by rw [multipleOf m multiple]; exact later)
    calc (head / I + 1) * I ≤ m / I * I := Nat.mul_le_mul_right I least
      _ = m := multipleOf m multiple
  · rw [oneShot notFirst same]
    refine ⟨rfl, ?_⟩
    omega

theorem next_maintenance_time_scenario_s6 : nextMaintenanceAfter 7200 7000 2 7200 7200 3600 = 8350 :=
  ((next_maintenance_time_after_head 7200 7000 2 7200 3600 (by decide) (by decide) (by decide)).2.2.2
    (by decide) rfl).1

-- Line 872.
def deprecationDue (hardfork613Time oldDeadline newDeadline : Nat) : Bool :=
  oldDeadline < hardfork613Time && hardfork613Time ≤ newDeadline

structure MaintenancePass where
  blockNum : Nat
  time : Nat
  interval : Nat
  deriving DecidableEq, Repr

def deadlines (hardfork616MaintenanceChangeTime : Nat) : Nat → List MaintenancePass → List Nat
  | _, [] => []
  | old, pass :: rest =>
    let next := nextMaintenanceAfter hardfork616MaintenanceChangeTime old pass.blockNum pass.time pass.time
      pass.interval
    next :: deadlines hardfork616MaintenanceChangeTime next rest

def DueRun (hardfork616MaintenanceChangeTime : Nat) : Nat → List MaintenancePass → Prop
  | _, [] => True
  | old, pass :: rest => old ≤ pass.time ∧ 0 < pass.interval ∧ pass.time + pass.interval < 2 ^ 32 ∧
    DueRun hardfork616MaintenanceChangeTime
      (nextMaintenanceAfter hardfork616MaintenanceChangeTime old pass.blockNum pass.time pass.time pass.interval) rest

instance decidableDueRun (hardfork616MaintenanceChangeTime : Nat) :
    ∀ old passes, Decidable (DueRun hardfork616MaintenanceChangeTime old passes)
  | _, [] => isTrue trivial
  | old, pass :: rest =>
    have := decidableDueRun hardfork616MaintenanceChangeTime
      (nextMaintenanceAfter hardfork616MaintenanceChangeTime old pass.blockNum pass.time pass.time pass.interval) rest
    inferInstanceAs (Decidable (_ ∧ _ ∧ _ ∧ _))

section
variable {hf : Nat}

@[simp] theorem deadlines_cons (old : Nat) (pass : MaintenancePass) (rest : List MaintenancePass) :
    deadlines hf old (pass :: rest) =
      nextMaintenanceAfter hf old pass.blockNum pass.time pass.time pass.interval ::
        deadlines hf (nextMaintenanceAfter hf old pass.blockNum pass.time pass.time pass.interval) rest := rfl

theorem deadlines_chain {R : Nat → Nat → Prop} {passes : List MaintenancePass}
    (step : ∀ old pass, pass ∈ passes → old ≤ pass.time → 0 < pass.interval → pass.time + pass.interval < 2 ^ 32 →
      R old (nextMaintenanceAfter hf old pass.blockNum pass.time pass.time pass.interval)) :
    ∀ old, DueRun hf old passes → (old :: deadlines hf old passes).Chain' R := by
  induction passes with
  | nil => exact fun old _ => List.chain'_singleton old
  | cons pass rest ih =>
    rintro old ⟨due, pos, fits, dueRest⟩
    exact List.chain'_cons.mpr ⟨step old pass (List.mem_cons_self _ _) due pos fits,
      ih (fun old p mem => step old p (List.mem_cons_of_mem _ mem)) _ dueRest⟩

theorem deadlines_sorted {old : Nat} {passes : List MaintenancePass} (due : DueRun hf old passes) :
    (old :: deadlines hf old passes).Sorted (· ≤ ·) :=
  List.chain'_iff_pairwise.mp
    (deadlines_chain (fun _ _ _ due pos fits => (nextMaintenanceAfter_advances due pos fits).1) old due)

theorem le_last_deadline {old : Nat} {passes : List MaintenancePass} (due : DueRun hf old passes) :
    old ≤ (deadlines hf old passes).getLastD old := by
  rcases List.mem_cons.mp (List.getLastD_mem_cons (deadlines hf old passes) old) with same | later
  · rw [same]
  · exact List.rel_of_sorted_cons (deadlines_sorted due) _ later

theorem deprecations_count (hardfork613Time : Nat) {passes : List MaintenancePass} :
    ∀ {old : Nat}, DueRun hf old passes →
      ((old :: deadlines hf old passes).zip (deadlines hf old passes)).countP
          (fun p => deprecationDue hardfork613Time p.1 p.2) =
        if old < hardfork613Time ∧ hardfork613Time ≤ (deadlines hf old passes).getLastD old then 1 else 0 := by
  induction passes with
  | nil =>
    intro old _
    simp only [deadlines, List.zip_nil_right, List.countP_nil, List.getLastD_nil]
    split_ifs <;> omega
  | cons pass rest ih =>
    rintro old ⟨due, pos, fits, dueRest⟩
    have advances : old ≤ nextMaintenanceAfter hf old pass.blockNum pass.time pass.time pass.interval :=
      (nextMaintenanceAfter_advances due pos fits).1
    have reaches := le_last_deadline dueRest
    have restCount := ih dueRest
    simp only [deadlines_cons, List.zip_cons_cons, List.countP_cons, List.getLastD_cons]
    generalize nextMaintenanceAfter hf old pass.blockNum pass.time pass.time pass.interval = next
      at advances reaches restCount dueRest ⊢
    rw [restCount]
    simp only [deprecationDue, Bool.and_eq_true, decide_eq_true_eq]
    split_ifs <;> omega

end

theorem maintenance_deadlines_advance (hardfork616MaintenanceChangeTime hardfork613Time old : Nat)
    (passes : List MaintenancePass) (due : DueRun hardfork616MaintenanceChangeTime old passes) :
    (old :: deadlines hardfork616MaintenanceChangeTime old passes).Sorted (· ≤ ·) ∧
    ((∀ pass ∈ passes, pass.blockNum ≠ 1 → pass.time = hardfork616MaintenanceChangeTime → 3 ≤ pass.interval) →
      (old :: deadlines hardfork616MaintenanceChangeTime old passes).Sorted (· < ·)) ∧
    ((old :: deadlines hardfork616MaintenanceChangeTime old passes).zip
        (deadlines hardfork616MaintenanceChangeTime old passes)).countP
        (fun p => deprecationDue hardfork613Time p.1 p.2) =
      if old < hardfork613Time ∧
          hardfork613Time ≤ (deadlines hardfork616MaintenanceChangeTime old passes).getLastD old then 1 else 0 := by
  refine ⟨deadlines_sorted due, fun oneShots => List.chain'_iff_pairwise.mp (deadlines_chain ?_ old due),
    deprecations_count hardfork613Time due⟩
  intro old pass mem due pos fits
  refine (nextMaintenanceAfter_advances due pos fits).2.resolve_right fun ⟨notFirst, same, small⟩ => ?_
  have := oneShots pass mem notFirst same
  omega

def scenarioS6Run : List MaintenancePass := [⟨2, 7200, 3600⟩, ⟨3, 9000, 3600⟩]

theorem maintenance_deadlines_scenario_s6 :
    DueRun 7200 7000 scenarioS6Run ∧
      ((7000 :: deadlines 7200 7000 scenarioS6Run).zip (deadlines 7200 7000 scenarioS6Run)).countP
        (fun p => deprecationDue 8000 p.1 p.2) = 1 :=
  ⟨by decide, (maintenance_deadlines_advance 7200 8000 7000 scenarioS6Run (by decide)).2.2.trans (by decide)⟩

end Graphene.Chain
