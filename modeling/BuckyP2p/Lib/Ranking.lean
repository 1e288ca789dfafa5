import Mathlib.Data.List.Sort

/-!
# Lib.Ranking — the first elements of a list in a total order

`first r k xs` are the first `k` elements of `xs` sorted by `r`.  They depend on the elements of
`xs` only (`first_perm`), and one element less moves up at most one other (`first_erase_of_mem`,
`first_erase_of_not_mem`).
-/

namespace Lib

variable {α : Type*}

section Order

variable {r : α → α → Prop} [DecidableRel r] [Std.Total r] [IsTrans α r] [Std.Antisymm r]

/-- A list with the same elements that is in order is what the sort returns. -/
theorem insertionSort_eq {xs ys : List α} (hperm : ys.Perm xs) (hsorted : ys.Pairwise r) :
    xs.insertionSort r = ys := by
  have hsort := List.perm_insertionSort r xs
  exact (hsort.trans hperm.symm).eq_of_pairwise' (List.pairwise_insertionSort r xs) hsorted

theorem insertionSort_perm_eq {xs ys : List α} (h : xs.Perm ys) :
    xs.insertionSort r = ys.insertionSort r :=
  insertionSort_eq ((List.perm_insertionSort r ys).trans h.symm) (List.pairwise_insertionSort r ys)

theorem insertionSort_erase [BEq α] [LawfulBEq α] (xs : List α) (x : α) :
    (xs.erase x).insertionSort r = (xs.insertionSort r).erase x := by
  have hperm : ((xs.insertionSort r).erase x).Perm (xs.erase x) :=
    (List.perm_insertionSort r xs).erase x
  have hsorted : ((xs.insertionSort r).erase x).Pairwise r :=
    (List.pairwise_insertionSort r xs).sublist List.erase_sublist
  exact insertionSort_eq hperm hsorted

end Order

/-- The first `k` elements in the order `r`. -/
def first (r : α → α → Prop) [DecidableRel r] (k : Nat) (xs : List α) : List α :=
  (xs.insertionSort r).take k

section First

variable (r : α → α → Prop) [DecidableRel r] (k : Nat) {xs ys : List α} {x : α}

theorem first_subset : first r k xs ⊆ xs := fun _ h =>
  (List.mem_insertionSort r).mp (List.mem_of_mem_take h)

theorem length_first (xs : List α) : (first r k xs).length = min k xs.length := by
  rw [first, List.length_take, List.length_insertionSort]

theorem nodup_first (h : xs.Nodup) : (first r k xs).Nodup := by
  have hsort : (xs.insertionSort r).Nodup := (List.perm_insertionSort r xs).nodup_iff.mpr h
  exact hsort.sublist (List.take_sublist k _)

variable [Std.Total r] [IsTrans α r] [Std.Antisymm r]

theorem first_perm (h : xs.Perm ys) : first r k xs = first r k ys := by
  rw [first, insertionSort_perm_eq h, first]

variable [BEq α] [LawfulBEq α]

/-- Without an element that is not among the first, they are the same. -/
theorem first_erase_of_not_mem (h : x ∉ first r k xs) : first r k (xs.erase x) = first r k xs := by
  rw [first, insertionSort_erase]
  rw [first] at h ⊢
  generalize xs.insertionSort r = sorted at h ⊢
  have hsplit : sorted.erase x = sorted.take k ++ (sorted.drop k).erase x := by
    conv_lhs => rw [← List.take_append_drop k sorted]
    exact List.erase_append_right _ h
  by_cases hk : k ≤ sorted.length
  · rw [hsplit, List.take_append_of_le_length (by rw [List.length_take]; omega), List.take_take,
      Nat.min_self]
  · have htake : sorted.take k = sorted := List.take_of_length_le (by omega)
    rw [htake] at h ⊢
    rw [List.erase_of_not_mem h, htake]

/-- Without one of the first, the others stay in their places and at most one element follows. -/
theorem first_erase_of_mem (h : x ∈ first r k xs) :
    ∃ extra : List α, extra.length ≤ 1 ∧
      first r k (xs.erase x) = (first r k xs).erase x ++ extra := by
  rw [first] at h
  rw [first, first, insertionSort_erase]
  generalize xs.insertionSort r = sorted at h ⊢
  have hsplit : sorted.erase x = (sorted.take k).erase x ++ sorted.drop k := by
    conv_lhs => rw [← List.take_append_drop k sorted]
    exact List.erase_append_left _ h
  have hlength : ((sorted.take k).erase x).length = (sorted.take k).length - 1 :=
    List.length_erase_of_mem h
  have hpos : 0 < (sorted.take k).length := List.length_pos_of_mem h
  rw [hsplit, List.take_append, List.take_of_length_le (by rw [List.length_take] at hlength; omega)]
  refine ⟨(sorted.drop k).take (k - ((sorted.take k).erase x).length), ?_, rfl⟩
  rw [List.length_take, List.length_drop]
  rw [List.length_take] at hlength hpos
  omega

end First

end Lib
