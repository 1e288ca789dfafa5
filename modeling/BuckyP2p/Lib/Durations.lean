import BuckyP2p.Lib.Integers
import Mathlib.Order.Basic
import Mathlib.Order.Fin.Basic

/-!
# BuckyP2p.Lib.Durations — durations, and arithmetic that may overflow

A `Duration` counts nanoseconds, up to the last one of `u64::MAX` seconds.  Its checked operations
return `none` where the result is none.  The operations of `u128` stop the program there: a
computation with them is in `Arith`, and that it never overflows is the statement that it is `.ok`.
-/

namespace Lib

def durationBound : Nat := 2 ^ 64 * 10 ^ 9

structure Duration where
  nanos : Nat
  isLt : nanos < durationBound
  deriving DecidableEq

abbrev U128 : Type := Fin (2 ^ 128)

namespace Duration

instance : LE Duration := ⟨fun a b => a.nanos ≤ b.nanos⟩

instance : LT Duration := ⟨fun a b => a.nanos < b.nanos⟩

instance (a b : Duration) : Decidable (a ≤ b) := inferInstanceAs (Decidable (a.nanos ≤ b.nanos))

instance (a b : Duration) : Decidable (a < b) := inferInstanceAs (Decidable (a.nanos < b.nanos))

theorem le_def {a b : Duration} : a ≤ b ↔ a.nanos ≤ b.nanos := Iff.rfl

theorem lt_def {a b : Duration} : a < b ↔ a.nanos < b.nanos := Iff.rfl

theorem not_lt {a b : Duration} : ¬ a < b ↔ b ≤ a := Nat.not_lt

theorem ext {a b : Duration} (h : a.nanos = b.nanos) : a = b := by
  cases a
  cases b
  cases h
  rfl

def ofMillis (n : Nat) (h : n * 10 ^ 6 < durationBound) : Duration := ⟨n * 10 ^ 6, h⟩

@[irreducible] def checkedAdd (a b : Duration) : Option Duration :=
  if h : a.nanos + b.nanos < durationBound then some ⟨a.nanos + b.nanos, h⟩ else none

@[irreducible] def checkedSub (a b : Duration) : Option Duration :=
  if b ≤ a then some ⟨a.nanos - b.nanos, (Nat.sub_le ..).trans_lt a.isLt⟩ else none

/-- `n` is a `u32`. -/
@[irreducible] def checkedMul (a : Duration) (n : Fin (2 ^ 32)) : Option Duration :=
  if h : a.nanos * n.val < durationBound then some ⟨a.nanos * n.val, h⟩ else none

def asNanos (a : Duration) : U128 := ⟨a.nanos, a.isLt.trans_le (by decide)⟩

variable {a b c : Duration} {n : Fin (2 ^ 32)}

theorem checkedAdd_of_lt (h : a.nanos + b.nanos < durationBound) :
    checkedAdd a b = some ⟨a.nanos + b.nanos, h⟩ := by
  rw [checkedAdd, dif_pos h]

theorem checkedAdd_eq_none (h : durationBound ≤ a.nanos + b.nanos) : checkedAdd a b = none := by
  rw [checkedAdd, dif_neg (Nat.not_lt.mpr h)]

theorem checkedAdd_some (h : checkedAdd a b = some c) : c.nanos = a.nanos + b.nanos := by
  unfold checkedAdd at h
  split at h
  · cases h
    rfl
  · cases h

theorem checkedSub_of_le (h : b.nanos ≤ a.nanos) :
    checkedSub a b = some ⟨a.nanos - b.nanos, (Nat.sub_le ..).trans_lt a.isLt⟩ := by
  rw [checkedSub, if_pos (le_def.mpr h)]

theorem checkedMul_of_lt (h : a.nanos * n.val < durationBound) :
    checkedMul a n = some ⟨a.nanos * n.val, h⟩ := by
  rw [checkedMul, dif_pos h]

theorem checkedMul_eq_none (h : durationBound ≤ a.nanos * n.val) : checkedMul a n = none := by
  rw [checkedMul, dif_neg (Nat.not_lt.mpr h)]

end Duration

namespace Arith

def add (a b : U128) : Arith U128 :=
  if h : a.val + b.val < 2 ^ 128 then .ok ⟨a.val + b.val, h⟩ else .error .overflow

def sub (a b : U128) : Arith U128 :=
  if b.val ≤ a.val then .ok ⟨a.val - b.val, (Nat.sub_le ..).trans_lt a.isLt⟩ else .error .overflow

/-- A division by zero stops the program as well. -/
def div (a b : U128) : Arith U128 :=
  if b.val = 0 then .error .overflow
  else .ok ⟨a.val / b.val, (Nat.div_le_self ..).trans_lt a.isLt⟩

/-- `u32::try_from`. -/
def tryU32 (a : U128) : Option (Fin (2 ^ 32)) := if h : a.val < 2 ^ 32 then some ⟨a.val, h⟩ else none

@[simp] theorem ok_bind {α β : Type} (a : α) (f : α → Arith β) : Except.ok a >>= f = f a := rfl

theorem add_val {a b : U128} (h : a.val + b.val < 2 ^ 128) :
    ∃ c, add a b = .ok c ∧ c.val = a.val + b.val := ⟨_, dif_pos h, rfl⟩

theorem sub_val {a b : U128} (h : b.val ≤ a.val) :
    ∃ c, sub a b = .ok c ∧ c.val = a.val - b.val := ⟨_, if_pos h, rfl⟩

theorem div_val {a b : U128} (h : b.val ≠ 0) :
    ∃ c, div a b = .ok c ∧ c.val = a.val / b.val := ⟨_, if_neg h, rfl⟩

theorem tryU32_of_lt {a : U128} (h : a.val < 2 ^ 32) : tryU32 a = some ⟨a.val, h⟩ := dif_pos h

theorem tryU32_eq_none {a : U128} (h : 2 ^ 32 ≤ a.val) : tryU32 a = none :=
  dif_neg (Nat.not_lt.mpr h)

end Arith

end Lib
