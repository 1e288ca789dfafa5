import Mathlib.Data.Int.Order.Basic
import Mathlib.Tactic.NormNum

/-!
# Lib.Integers — signed integers of a fixed width

A value of a signed type is an `Int` that `Fits`.  A `checked_` operation of two values is `checked`
of the exact result, and a plain one is `plain` of it: an overflow stops the program.
-/

namespace Lib

/-- `x` is a value of the signed type of `w` bits. -/
def Fits (w : Nat) (x : Int) : Prop := -2 ^ (w - 1) ≤ x ∧ x < 2 ^ (w - 1)

instance (w : Nat) (x : Int) : Decidable (Fits w x) := inferInstanceAs (Decidable (_ ∧ _))

inductive Overflow
  | overflow
  deriving DecidableEq, Repr

abbrev Arith (α : Type) : Type := Except Overflow α

def checked (w : Nat) (x : Int) : Option Int := if Fits w x then some x else none

def plain (w : Nat) (x : Int) : Arith Int := if Fits w x then .ok x else .error .overflow

/-- `a - b` of unsigned values. -/
def unsignedSub (a b : Nat) : Arith Nat := if b ≤ a then .ok (a - b) else .error .overflow

variable {w : Nat} {x y : Int}

theorem checked_of_fits (h : Fits w x) : checked w x = some x := if_pos h

theorem checked_eq_some : checked w x = some y ↔ Fits w x ∧ x = y := by
  unfold checked
  split_ifs with h <;> simp [h]

theorem checked_eq_none : checked w x = none ↔ ¬ Fits w x := by
  unfold checked
  split_ifs with h <;> simp [h]

theorem plain_of_fits (h : Fits w x) : plain w x = .ok x := if_pos h

theorem unsignedSub_of_le {a b : Nat} (h : b ≤ a) : unsignedSub a b = .ok (a - b) := if_pos h

theorem fits_32 : Fits 32 x ↔ -2147483648 ≤ x ∧ x < 2147483648 := by norm_num [Fits]

theorem fits_64 : Fits 64 x ↔ -9223372036854775808 ≤ x ∧ x < 9223372036854775808 := by
  norm_num [Fits]

end Lib
