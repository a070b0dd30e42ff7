import Mathlib.Algebra.Order.Ring.Nat
import Mathlib.Algebra.Ring.Int.Defs

set_option autoImplicit false

/- The machine arithmetic of the maintenance code. `share_type` is fc's `safe<int64_t>`:
   its `+`, `-` and `+=` throw an overflow or underflow exception whenever the exact result
   leaves the signed 64-bit range, so a `share_type` value is an `Int` and each operation is
   an `Except`. The tally buffers are `uint64_t`, the budget intermediates `fc::uint128`,
   and both wrap; `to_uint64` asserts that the high word is zero, and a `uint64_t` assigned to
   a `share_type` keeps its bits. `time_point_sec` holds `uint32_t` seconds. Exceptions carry
   no payload beyond their kind; a failed C `assert` is an abort, not an exception. A loop
   that the model runs on fuel and that uses it up ends in `outOfFuel`, which no source
   statement raises. -/
namespace Graphene.Chain

inductive Fault where
  | overflow
  | underflow
  | assertion
  | missingObject
  | evaluator
  | abort
  | outOfFuel
deriving DecidableEq, Repr

def shareChecked (x : Int) : Except Fault Int :=
  if x < -2 ^ 63 then .error .underflow
  else if 2 ^ 63 ≤ x then .error .overflow
  else .ok x

def shareAdd (a b : Int) : Except Fault Int := shareChecked (a + b)

def shareSub (a b : Int) : Except Fault Int := shareChecked (a - b)

def shareOfUInt64 (x : Nat) : Int := if x < 2 ^ 63 then x else x - 2 ^ 64

def wrap64 (x : Int) : Nat := (x % 2 ^ 64).toNat

def wrap128 (x : Int) : Nat := (x % 2 ^ 128).toNat

def wrap32 (x : Int) : Nat := (x % 2 ^ 32).toNat

def toUInt64 (x : Nat) : Except Fault Nat := if x < 2 ^ 64 then .ok x else .error .assertion

def check (condition : Bool) (fault : Fault) : Except Fault Unit :=
  if condition then .ok () else .error fault

def InShareRange (x : Int) : Prop := -2 ^ 63 ≤ x ∧ x < 2 ^ 63

instance (x : Int) : Decidable (InShareRange x) := inferInstanceAs (Decidable (_ ∧ _))

theorem shareChecked_of_range {x : Int} (range : InShareRange x) : shareChecked x = .ok x := by
  unfold shareChecked InShareRange at *
  rw [if_neg (by omega), if_neg (by omega)]

theorem shareChecked_ok {x y : Int} (h : shareChecked x = .ok y) : y = x ∧ InShareRange x := by
  unfold shareChecked at h
  split at h
  · cases h
  · split at h
    · cases h
    · cases h
      exact ⟨rfl, by unfold InShareRange; omega⟩

theorem shareAdd_of_range {a b : Int} (range : InShareRange (a + b)) : shareAdd a b = .ok (a + b) :=
  shareChecked_of_range range

theorem shareSub_of_range {a b : Int} (range : InShareRange (a - b)) : shareSub a b = .ok (a - b) :=
  shareChecked_of_range range

theorem shareOfUInt64_of_lt {x : Nat} (small : x < 2 ^ 63) : shareOfUInt64 x = x := by
  rw [shareOfUInt64, if_pos small]

theorem shareOfUInt64_of_le {x : Nat} (large : 2 ^ 63 ≤ x) : shareOfUInt64 x = x - 2 ^ 64 := by
  rw [shareOfUInt64, if_neg (Nat.not_lt.mpr large)]

theorem wrap64_of_range {x : Int} (low : 0 ≤ x) (high : x < 2 ^ 64) : (wrap64 x : Int) = x := by
  rw [wrap64, Int.emod_eq_of_lt low high, Int.toNat_of_nonneg low]

theorem wrap128_of_range {x : Int} (low : 0 ≤ x) (high : x < 2 ^ 128) : (wrap128 x : Int) = x := by
  rw [wrap128, Int.emod_eq_of_lt low high, Int.toNat_of_nonneg low]

theorem wrap32_of_range {x : Int} (low : 0 ≤ x) (high : x < 2 ^ 32) : (wrap32 x : Int) = x := by
  rw [wrap32, Int.emod_eq_of_lt low high, Int.toNat_of_nonneg low]

theorem wrap64_nat_of_lt {x : Nat} (high : x < 2 ^ 64) : wrap64 x = x := by
  have := wrap64_of_range (x := x) (by omega) (by omega)
  omega

theorem wrap128_nat_of_lt {x : Nat} (high : x < 2 ^ 128) : wrap128 x = x := by
  have := wrap128_of_range (x := x) (by omega) (by omega)
  omega

theorem wrap32_nat_of_lt {x : Nat} (high : x < 2 ^ 32) : wrap32 x = x := by
  have := wrap32_of_range (x := x) (by omega) (by omega)
  omega

theorem wrap32_add_of_lt {a b : Nat} (high : a + b < 2 ^ 32) : wrap32 ((a : Int) + b) = a + b := by
  have := wrap32_of_range (x := (a : Int) + b) (by omega) (by omega)
  omega

theorem wrap64_add_natCast (a b : Nat) : wrap64 ((a : Int) + b) = (a + b) % 2 ^ 64 := by
  unfold wrap64
  omega

theorem wrap64_lt (x : Int) : wrap64 x < 2 ^ 64 := by
  have := Int.emod_lt_of_pos x (by omega : (0 : Int) < 2 ^ 64)
  have := Int.emod_nonneg x (by omega : (2 : Int) ^ 64 ≠ 0)
  unfold wrap64
  omega

theorem shareOfUInt64_wrap64 {x : Int} (low : 0 ≤ x) (high : x < 2 ^ 63) : shareOfUInt64 (wrap64 x) = x := by
  have cast := wrap64_of_range low (by omega)
  rw [shareOfUInt64_of_lt (by omega), cast]

theorem toUInt64_of_lt {x : Nat} (small : x < 2 ^ 64) : toUInt64 x = .ok x := by
  rw [toUInt64, if_pos small]

def faultOf {α : Type} : Except Fault α → Option Fault
  | .error e => some e
  | .ok _ => none

theorem toNat_lt_of_uint16 (x : UInt16) : x.toNat < 2 ^ 16 := x.val.isLt

theorem bind_eq_ok {α β : Type} {x : Except Fault α} {f : α → Except Fault β} {b : β}
    (h : x >>= f = .ok b) : ∃ a, x = .ok a ∧ f a = .ok b := by
  cases x with
  | error e => cases h
  | ok a => exact ⟨a, rfl, h⟩

theorem exists_bind_ok {α β : Type} {x : Except Fault α} {f : α → Except Fault β}
    (first : ∃ a, x = .ok a) (rest : ∀ a, ∃ b, f a = .ok b) : ∃ b, x >>= f = .ok b := by
  obtain ⟨a, rfl⟩ := first
  exact rest a

@[simp] theorem ok_bind {α β : Type} (a : α) (f : α → Except Fault β) :
    (Except.ok a : Except Fault α) >>= f = f a := rfl

@[simp] theorem error_bind {α β : Type} (e : Fault) (f : α → Except Fault β) :
    (Except.error e : Except Fault α) >>= f = .error e := rfl

@[simp] theorem check_true (fault : Fault) : check true fault = .ok () := rfl

theorem check_eq_ok {condition : Bool} {fault : Fault} {u : Unit} (passed : check condition fault = .ok u) :
    condition = true := by
  cases condition
  · cases passed
  · rfl

end Graphene.Chain
