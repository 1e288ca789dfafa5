import Mathlib.Data.List.Basic

/-!
# BuckyP2p.Lib.Dedup — a list without what is equal to something before

`pushUnique eq` adds an element at the end unless one is there that is equal to it in the sense of
`eq`, which may be coarser than equality.  `dedup eq xs` keeps the first of equal elements, in order.
-/

namespace Lib

variable {α : Type*} (eq : α → α → Bool)

def pushUnique (acc : List α) (x : α) : List α :=
  if acc.any fun y => eq y x then acc else acc ++ [x]

def dedup (xs : List α) : List α := xs.foldl (pushUnique eq) []

/-- No element is equal to one before it. -/
def Distinct (xs : List α) : Prop := xs.Pairwise fun x y => eq x y = false

variable {eq} {acc xs : List α} {x : α}

theorem pushUnique_distinct (h : Distinct eq acc) : Distinct eq (pushUnique eq acc x) := by
  unfold pushUnique
  split_ifs with hany
  · exact h
  · refine List.pairwise_append.mpr ⟨h, List.pairwise_singleton _ _, fun y hy z hz => ?_⟩
    rw [List.mem_singleton.mp hz]
    exact Bool.eq_false_iff.mpr fun heq => hany (List.any_eq_true.mpr ⟨y, hy, heq⟩)

theorem pushUnique_sublist (eq : α → α → Bool) (acc : List α) (x : α) :
    (pushUnique eq acc x).Sublist (acc ++ [x]) := by
  unfold pushUnique
  split_ifs with hany
  · exact List.sublist_append_left _ _
  · exact List.Sublist.refl _

theorem subset_pushUnique : acc ⊆ pushUnique eq acc x := by
  unfold pushUnique
  split_ifs with hany
  · exact List.Subset.refl _
  · exact List.subset_append_left _ _

theorem pushUnique_covers (hrefl : ∀ x, eq x x = true) (acc : List α) (x : α) :
    ∃ y ∈ pushUnique eq acc x, eq y x = true := by
  unfold pushUnique
  split_ifs with hany
  · exact List.any_eq_true.mp hany
  · exact ⟨x, List.mem_append_right _ (List.mem_singleton_self x), hrefl x⟩

theorem foldl_pushUnique_distinct (h : Distinct eq acc) :
    Distinct eq (xs.foldl (pushUnique eq) acc) := by
  induction xs generalizing acc with
  | nil => exact h
  | cons x xs ih => exact ih (pushUnique_distinct h)

theorem foldl_pushUnique_sublist : (xs.foldl (pushUnique eq) acc).Sublist (acc ++ xs) := by
  induction xs generalizing acc with
  | nil => simp
  | cons x xs ih =>
    have hstep := (pushUnique_sublist eq acc x).append_right xs
    rw [List.append_assoc, List.singleton_append] at hstep
    exact ih.trans hstep

theorem subset_foldl_pushUnique : acc ⊆ xs.foldl (pushUnique eq) acc := by
  induction xs generalizing acc with
  | nil => exact List.Subset.refl _
  | cons x xs ih => exact fun _ hmem => ih (subset_pushUnique hmem)

/-- What is distinct already is added whole. -/
theorem foldl_pushUnique_of_distinct (h : Distinct eq (acc ++ xs)) :
    xs.foldl (pushUnique eq) acc = acc ++ xs := by
  induction xs generalizing acc with
  | nil => simp
  | cons x xs ih =>
    have hpush : pushUnique eq acc x = acc ++ [x] := by
      refine if_neg fun hany => ?_
      obtain ⟨y, hy, heq⟩ := List.any_eq_true.mp hany
      have hne := (List.pairwise_append.mp h).2.2 y hy x List.mem_cons_self
      rw [heq] at hne
      cases hne
    rw [List.append_cons] at h
    rw [List.foldl_cons, hpush, ih h, ← List.append_cons]

theorem dedup_distinct : Distinct eq (dedup eq xs) := foldl_pushUnique_distinct List.Pairwise.nil

theorem dedup_sublist : (dedup eq xs).Sublist xs := foldl_pushUnique_sublist

theorem dedup_of_distinct (h : Distinct eq xs) : dedup eq xs = xs := foldl_pushUnique_of_distinct h

/-- Every element is there, up to `eq`. -/
theorem dedup_covers (hrefl : ∀ x, eq x x = true) (hx : x ∈ xs) :
    ∃ y ∈ dedup eq xs, eq y x = true := by
  obtain ⟨before, after, rfl⟩ := List.append_of_mem hx
  obtain ⟨y, hy, heq⟩ := pushUnique_covers hrefl (before.foldl (pushUnique eq) []) x
  refine ⟨y, ?_, heq⟩
  unfold dedup
  rw [List.foldl_append, List.foldl_cons]
  exact subset_foldl_pushUnique hy

end Lib
