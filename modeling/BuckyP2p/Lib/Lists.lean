import Mathlib.Algebra.GroupWithZero.Nat
import Mathlib.Algebra.Order.BigOperators.Group.List
import Mathlib.Algebra.Order.Group.Nat
import Mathlib.Data.List.Perm.Basic

/-!
# BuckyP2p.Lib.Lists — lists in which one element changes

A list of calls or of objects is changed at one place by `set`, `modify` or `eraseIdx`.  The lemmas
say what stays in it, and how a sum or a count over it changes.
-/

namespace Lib

variable {α β : Type*} {xs : List α} {i k : Nat} {x y z : α}

theorem mem_eraseIdx_of_ne (hi : xs[i]? = some y) (hx : x ∈ xs) (hne : x ≠ y) :
    x ∈ xs.eraseIdx i := by
  obtain ⟨j, hj⟩ := List.mem_iff_getElem?.mp hx
  refine List.mem_eraseIdx_iff_getElem?.mpr ⟨j, ?_, hj⟩
  rintro rfl
  rw [hi] at hj
  exact hne (Option.some.inj hj).symm

theorem mem_set_of_ne (hi : xs[i]? = some y) (hx : x ∈ xs) (hne : x ≠ y) :
    x ∈ xs.set i z := by
  obtain ⟨j, hj⟩ := List.mem_iff_getElem?.mp hx
  have hij : i ≠ j := by
    rintro rfl
    rw [hi] at hj
    exact hne (Option.some.inj hj).symm
  exact List.mem_iff_getElem?.mpr ⟨j, (List.getElem?_set_ne hij).trans hj⟩

theorem getElem?_push_cases (h : (xs ++ [x])[i]? = some y) :
    xs[i]? = some y ∨ (i = xs.length ∧ y = x) := by
  rcases Nat.lt_trichotomy i xs.length with hlt | rfl | hgt
  · rw [List.getElem?_append_left hlt] at h
    exact .inl h
  · rw [List.getElem?_concat_length] at h
    exact .inr ⟨rfl, (Option.some.inj h).symm⟩
  · rw [List.getElem?_eq_none (by simp; omega)] at h
    cases h

theorem getElem?_append_of_eq_some {ys : List α} (h : xs[i]? = some x) :
    (xs ++ ys)[i]? = some x := by
  rw [List.getElem?_append_left (List.getElem?_eq_some_iff.mp h).1]
  exact h

/-- An element of the list after the change is the new one, or is where it was. -/
theorem getElem?_set_cases (hk : xs[k]? = some x) (h : (xs.set k y)[i]? = some z) :
    (i = k ∧ z = y) ∨ (i ≠ k ∧ xs[i]? = some z) := by
  by_cases heq : i = k
  · subst heq
    rw [List.getElem?_set_self (List.getElem?_eq_some_iff.mp hk).1] at h
    exact .inl ⟨rfl, (Option.some.inj h).symm⟩
  · exact .inr ⟨heq, (List.getElem?_set_ne (Ne.symm heq)).symm.trans h⟩

theorem getElem?_modify_of_eq_some {change : α → α} (h : xs[k]? = some x) :
    (xs.modify k change)[k]? = some (change x) := by
  rw [List.getElem?_modify_eq, h]
  rfl

theorem getElem?_modify_of_ne {change : α → α} (h : i ≠ k) :
    (xs.modify k change)[i]? = xs[i]? := by
  rw [List.getElem?_modify]
  simp [Ne.symm h]

/-- An element of the list after the change is the changed one, or is where it was. -/
theorem getElem?_modify_cases {change : α → α} (hk : xs[k]? = some x)
    (h : (xs.modify k change)[i]? = some y) : (i = k ∧ y = change x) ∨ (i ≠ k ∧ xs[i]? = some y) := by
  by_cases heq : i = k
  · subst heq
    rw [List.getElem?_modify_eq, hk] at h
    exact .inl ⟨rfl, (Option.some.inj h).symm⟩
  · refine .inr ⟨heq, ?_⟩
    simpa [List.getElem?_modify, Ne.symm heq] using h

theorem map_modify_of_eq (f : α → β) (change : α → α) (h : ∀ x, f (change x) = f x) (xs : List α)
    (k : Nat) : (xs.modify k change).map f = xs.map f := by
  refine List.ext_getElem? fun i => ?_
  rw [List.getElem?_map, List.getElem?_map, List.getElem?_modify]
  cases xs[i]? with
  | none => rfl
  | some x =>
    by_cases hi : k = i
    · simp [hi, h]
    · simp [hi]

theorem map_set_of_eq {f : α → β} (hi : xs[i]? = some x) (hf : f y = f x) :
    (xs.set i y).map f = xs.map f := by
  refine List.ext_getElem? fun j => ?_
  rw [List.getElem?_map, List.getElem?_map]
  by_cases hj : i = j
  · subst hj
    rw [List.getElem?_set_self (List.getElem?_eq_some_iff.mp hi).1, hi, Option.map_some, hf,
      Option.map_some]
  · rw [List.getElem?_set_ne hj]

theorem filter_set_of_neg {p : α → Bool} (hi : xs[i]? = some x) (hx : p x = false) (hy : p y = false) :
    (xs.set i y).filter p = xs.filter p := by
  induction xs generalizing i with
  | nil => cases hi
  | cons z zs ih =>
    cases i with
    | zero =>
      obtain rfl : z = x := by simpa using hi
      simp [hx, hy]
    | succ i => simp only [List.set_cons_succ, List.filter_cons, ih (i := i) (by simpa using hi)]

/-- An element that passes a test keeps its place among those that do. -/
theorem filter_set_of_pos {p : α → Bool} (hi : xs[i]? = some x) (hx : p x = true) (hy : p y = true) :
    ∃ j, (xs.filter p)[j]? = some x ∧ (xs.set i y).filter p = (xs.filter p).set j y := by
  induction xs generalizing i with
  | nil => cases hi
  | cons z zs ih =>
    cases i with
    | zero =>
      obtain rfl : z = x := by simpa using hi
      exact ⟨0, by simp [hx], by simp [hx, hy]⟩
    | succ i =>
      obtain ⟨j, hj, hset⟩ := ih (i := i) (by simpa using hi)
      simp only [List.set_cons_succ, List.filter_cons, hset]
      by_cases hz : p z = true
      · exact ⟨j + 1, by simp [hz, hj], by simp [hz]⟩
      · exact ⟨j, by simp [hz, hj], by simp [hz]⟩

theorem modify_eq_set_of_eq_some {change : α → α} (h : xs[k]? = some x) :
    xs.modify k change = xs.set k (change x) := by
  refine List.ext_getElem? fun j => ?_
  by_cases hj : j = k
  · subst hj
    rw [getElem?_modify_of_eq_some h, List.getElem?_set_self (List.getElem?_eq_some_iff.mp h).1]
  · rw [getElem?_modify_of_ne hj, List.getElem?_set_ne (Ne.symm hj)]

theorem countP_modify (p : α → Bool) (change : α → α) (hk : xs[k]? = some x) :
    (xs.modify k change).countP p + (if p x then 1 else 0) =
      xs.countP p + if p (change x) then 1 else 0 := by
  induction xs generalizing k with
  | nil => cases hk
  | cons y ys ih =>
    cases k with
    | zero =>
      obtain rfl : y = x := by simpa using hk
      simp only [List.modify_zero_cons, List.countP_cons]
      omega
    | succ k =>
      have hrest := ih (k := k) (by simpa using hk)
      simp only [List.modify_succ_cons, List.countP_cons]
      omega

theorem countP_set_add (p : α → Bool) (y : α) (hk : xs[k]? = some x) :
    (xs.set k y).countP p + (if p x then 1 else 0) = xs.countP p + if p y then 1 else 0 := by
  have h := countP_modify p (fun _ => y) hk
  rwa [modify_eq_set_of_eq_some hk] at h

theorem countP_eraseIdx_add (p : α → Bool) (hk : xs[k]? = some x) :
    (xs.eraseIdx k).countP p + (if p x then 1 else 0) = xs.countP p := by
  obtain ⟨hlt, rfl⟩ := List.getElem?_eq_some_iff.mp hk
  rw [← (List.getElem_cons_eraseIdx_perm hlt).countP_eq, List.countP_cons]

theorem sum_lt_of_modify {f g : α → Nat} (hle : ∀ x, g x ≤ f x) {change : α → α}
    (hlt : g (change x) < f x) (hk : xs[k]? = some x) :
    ((xs.modify k change).map g).sum < (xs.map f).sum := by
  induction xs generalizing k with
  | nil => cases hk
  | cons y ys ih =>
    cases k with
    | zero =>
      obtain rfl : y = x := by simpa using hk
      have hrest : (ys.map g).sum ≤ (ys.map f).sum := List.sum_le_sum fun z _ => hle z
      simp only [List.modify_zero_cons, List.map_cons, List.sum_cons]
      omega
    | succ k =>
      have hrest := ih (k := k) (by simpa using hk)
      have hhead := hle y
      simp only [List.modify_succ_cons, List.map_cons, List.sum_cons]
      omega

end Lib
