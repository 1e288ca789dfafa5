import Mathlib.Algebra.GroupWithZero.Nat
import Mathlib.Data.List.Chain
import Mathlib.Logic.Function.Iterate
import Mathlib.Order.Compare
import Mathlib.Order.Fin.Basic

/-!
# BuckyP2p.Lib.Serial — numbers that wrap around without `0`

`succNonzero` goes on from the last number to `1`.  `serialCmp` compares two numbers by how far they
are apart: where that is more than half of the range, one of them has wrapped around since.

* `serialCmp_iterate`: what is reached in less than half of the range comes after.
* `nodup_of_cycle`: a list in which every number is followed by the next one has no number twice,
  unless it is longer than the range.
-/

namespace Lib

variable {n : Nat}

section Order

variable [NeZero n]

def succNonzero (x : Fin n) : Fin n := if x + 1 = 0 then 1 else x + 1

/-- `0` is before all the others. -/
def serialCmp (a b : Fin n) : Ordering :=
  if a = 0 ∨ b = 0 then compare a b
  else if (n - 1) / 2 < max a.val b.val - min a.val b.val then if b < a then .lt else .gt
  else compare a b

theorem succNonzero_val (hn : 2 ≤ n) (x : Fin n) : (succNonzero x).val = x.val % (n - 1) + 1 := by
  have hone : (1 : Fin n).val = 1 := by
    rw [Fin.val_one', Nat.mod_eq_of_lt hn]
  have hsum : (x + 1).val = (x.val + 1) % n := by rw [Fin.val_add, hone]
  have hx := x.isLt
  unfold succNonzero
  by_cases hlast : x.val = n - 1
  · have hwrap : (x.val + 1) % n = 0 := by
      rw [hlast, Nat.sub_add_cancel (by omega), Nat.mod_self]
    rw [if_pos (Fin.ext (hsum.trans hwrap)), hone, hlast, Nat.mod_self]
  · have hlt : (x.val + 1) % n = x.val + 1 := Nat.mod_eq_of_lt (by omega)
    have hne : x + 1 ≠ 0 := by
      intro heq
      have hval := congrArg Fin.val heq
      rw [hsum, hlt] at hval
      cases hval
    rw [if_neg hne, hsum, hlt, Nat.mod_eq_of_lt (by omega)]

theorem succNonzero_iterate_val (hn : 2 ≤ n) {x : Fin n} (hx : x ≠ 0) (k : Nat) :
    (succNonzero^[k] x).val = (x.val - 1 + k) % (n - 1) + 1 := by
  have hpos : 0 < x.val := Nat.pos_of_ne_zero fun h => hx (Fin.ext h)
  have hlt := x.isLt
  induction k with
  | zero =>
    rw [Function.iterate_zero, id_eq, Nat.add_zero, Nat.mod_eq_of_lt (by omega)]
    omega
  | succ k ih =>
    rw [Function.iterate_succ_apply', succNonzero_val hn, ih, Nat.mod_add_mod, Nat.add_assoc]

theorem succNonzero_iterate_ne_zero (hn : 2 ≤ n) {x : Fin n} (hx : x ≠ 0) (k : Nat) :
    succNonzero^[k] x ≠ 0 := by
  intro heq
  have hval := succNonzero_iterate_val hn hx k
  rw [heq] at hval
  cases hval

theorem serialCmp_self (x : Fin n) : serialCmp x x = .eq := by
  have hgap : ¬ (n - 1) / 2 < max x.val x.val - min x.val x.val := by
    rw [max_self, min_self, Nat.sub_self]
    exact Nat.not_lt_zero _
  unfold serialCmp
  rw [if_neg hgap, compare_eq_iff_eq.mpr rfl, ite_self]

theorem serialCmp_swap (a b : Fin n) : serialCmp a b = (serialCmp b a).swap := by
  have hcmp : compare a b = (compare b a).swap := Std.OrientedCmp.eq_swap
  unfold serialCmp
  rw [max_comm b.val, min_comm b.val]
  by_cases hzero : a = 0 ∨ b = 0
  · rw [if_pos hzero, if_pos hzero.symm]
    exact hcmp
  rw [if_neg hzero, if_neg (mt Or.symm hzero)]
  by_cases hgap : (n - 1) / 2 < max a.val b.val - min a.val b.val
  · rw [if_pos hgap, if_pos hgap]
    rcases lt_trichotomy a b with hlt | rfl | hgt
    · rw [if_neg (lt_asymm hlt), if_pos hlt]
      rfl
    · rw [max_self, min_self, Nat.sub_self] at hgap
      exact absurd hgap (Nat.not_lt_zero _)
    · rw [if_pos hgt, if_neg (lt_asymm hgt)]
      rfl
  · rw [if_neg hgap, if_neg hgap]
    exact hcmp

/-- The numbers that follow within half of the range come after, also where they wrap around. -/
theorem serialCmp_iterate (hn : 2 ≤ n) (heven : n % 2 = 0) {x : Fin n} (hx : x ≠ 0) {k : Nat}
    (hpos : 1 ≤ k) (hk : k ≤ (n - 1) / 2) : serialCmp (succNonzero^[k] x) x = .gt := by
  have hval := succNonzero_iterate_val hn hx k
  have hzero := succNonzero_iterate_ne_zero hn hx k
  generalize succNonzero^[k] x = y at hval hzero
  have hxpos : 0 < x.val := Nat.pos_of_ne_zero fun h => hx (Fin.ext h)
  have hxlt := x.isLt
  unfold serialCmp
  rw [if_neg (not_or.mpr ⟨hzero, hx⟩)]
  by_cases hwrap : x.val - 1 + k < n - 1
  · have hy : y.val = x.val + k := by
      rw [hval, Nat.mod_eq_of_lt hwrap]
      omega
    rw [if_neg (by omega)]
    exact compare_gt_iff_gt.mpr (Fin.lt_def.mpr (by omega))
  · have hy : y.val + (n - 1) = x.val + k := by
      rw [hval, Nat.mod_eq_sub_mod (by omega), Nat.mod_eq_of_lt (by omega)]
      omega
    rw [if_pos (by omega), if_neg (not_lt.mpr (Fin.le_def.mpr (by omega)))]

end Order

theorem cycle_getElem {m : Nat} {l : List Nat} (hchain : l.IsChain fun a b => b = a % m + 1)
    (hl : ∀ x ∈ l, 1 ≤ x ∧ x ≤ m) {i d : Nat} (h : i + d < l.length) :
    l[i + d] = (l[i] - 1 + d) % m + 1 := by
  induction d with
  | zero =>
    obtain ⟨hlow, hhigh⟩ := hl l[i] (List.getElem_mem _)
    simp only [Nat.add_zero]
    rw [Nat.mod_eq_of_lt (by omega)]
    omega
  | succ d ih =>
    have hnext := List.isChain_iff_getElem.mp hchain (i + d) (by omega)
    rw [ih (by omega), Nat.mod_add_mod] at hnext
    exact hnext

theorem nodup_of_cycle {m : Nat} {l : List Nat} (hchain : l.IsChain fun a b => b = a % m + 1)
    (hl : ∀ x ∈ l, 1 ≤ x ∧ x ≤ m) (hlen : l.length ≤ m) : l.Nodup := by
  rw [List.Nodup, List.pairwise_iff_getElem]
  intro i j hi hj hij heq
  obtain ⟨d, rfl⟩ := Nat.exists_eq_add_of_lt hij
  obtain ⟨hlow, hhigh⟩ := hl l[i] (List.getElem_mem _)
  have hvalue := cycle_getElem hchain hl (i := i) (d := d + 1) hj
  have hback : (l[i] - 1 + (d + 1)) % m = l[i] - 1 := by
    have : l[i + (d + 1)] = l[i] := heq.symm
    omega
  have hlt : l[i] - 1 < m := by omega
  by_cases hwrap : l[i] - 1 + (d + 1) < m
  · rw [Nat.mod_eq_of_lt hwrap] at hback
    omega
  · rw [Nat.mod_eq_sub_mod (by omega), Nat.mod_eq_of_lt (by omega)] at hback
    omega

end Lib
