import Mathlib.Data.List.Destutter
import Mathlib.Data.List.Perm.Subperm
import BuckyP2p.Lib.Ranking

/-!
# Lib.Merging — sort by one key, then drop neighbours of one kind

`merge r kind xs` sorts `xs` by `r` and drops each element of the same kind as the last one kept.
Every kind is kept (`mem_merge_kind`), by its first element in the order.  It is kept once exactly if
no element of another kind lies between two of the kind (`nodup_merge_iff`).
-/

namespace Lib

variable {α β : Type*} [DecidableEq β] (kind : α → β)

/-- Drop each element of the kind of the last one kept. -/
def heads (xs : List α) : List α := xs.destutter fun x y => kind x ≠ kind y

theorem heads_sublist (xs : List α) : (heads kind xs).Sublist xs := List.destutter_sublist _ xs

variable {kind} {xs : List α}

/-- The first element of a kind is kept. -/
theorem find?_heads (xs : List α) (c : β) :
    (heads kind xs).find? (fun x => kind x = c) = xs.find? fun x => kind x = c := by
  have hcons : ∀ (l : List α) (a : α),
      (l.destutter' (fun x y => kind x ≠ kind y) a).find? (fun x => kind x = c) =
        (a :: l).find? fun x => kind x = c := by
    intro l
    induction l with
    | nil => exact fun _ => rfl
    | cons b l ih =>
      intro a
      by_cases hsame : kind a = kind b
      · rw [List.destutter'_cons_neg _ (not_not.mpr hsame), ih a]
        by_cases hc : kind a = c
        · simp [hc]
        · have hb : kind b ≠ c := hsame ▸ hc
          simp [hc, hb]
      · rw [List.destutter'_cons_pos _ hsame, List.find?_cons, ih b]
        rfl
  cases xs with
  | nil => rfl
  | cons a l => exact hcons l a

theorem mem_heads_kind (xs : List α) (c : β) : c ∈ (heads kind xs).map kind ↔ c ∈ xs.map kind := by
  have hsome : ∀ l : List α, c ∈ l.map kind ↔ (l.find? fun x => kind x = c).isSome := by
    intro l
    simp [List.find?_isSome]
  rw [hsome, hsome, find?_heads]

/-- The kinds are kept once exactly if the elements of each kind are neighbours. -/
theorem nodup_heads_iff (xs : List α) : ((heads kind xs).map kind).Nodup ↔
    ∀ x y z, [x, y, z].Sublist xs → kind x = kind z → kind y = kind x := by
  have hcons : ∀ (l : List α) (a : α),
      ((l.destutter' (fun x y => kind x ≠ kind y) a).map kind).Nodup ↔
        ∀ x y z, [x, y, z].Sublist (a :: l) → kind x = kind z → kind y = kind x := by
    intro l
    induction l with
    | nil =>
      intro a
      refine iff_of_true (by simp) fun x y z h => ?_
      have hlength := h.length_le
      simp at hlength
    | cons b l ih =>
      intro a
      by_cases hsame : kind a = kind b
      · rw [List.destutter'_cons_neg _ (not_not.mpr hsame), ih a]
        constructor
        · intro h x y z hsub hxz
          rcases List.sublist_cons_iff.mp hsub with hsub | ⟨_, heq, hsub⟩
          · rcases List.sublist_cons_iff.mp hsub with hsub | ⟨_, heq, hsub⟩
            · exact h x y z (hsub.cons a) hxz
            · -- `b` is of the kind of `a`, which stands for it
              cases heq
              have hyz := h a y z (hsub.cons_cons a) (hsame.trans hxz)
              exact hyz.trans hsame
          · cases heq
            rcases List.sublist_cons_iff.mp hsub with hsub | ⟨_, heq, hsub⟩
            · exact h a y z (hsub.cons_cons a) hxz
            · cases heq
              exact hsame.symm
        · intro h x y z hsub
          refine h x y z (hsub.trans ?_)
          exact (List.sublist_cons_self b l).cons_cons a
      · rw [List.destutter'_cons_pos _ hsame, List.map_cons, List.nodup_cons, ih b]
        have hmem : kind a ∈ (heads kind (b :: l)).map kind ↔ kind a ∈ (b :: l).map kind :=
          mem_heads_kind (b :: l) (kind a)
        rw [heads, List.destutter_cons'] at hmem
        rw [hmem]
        constructor
        · rintro ⟨hnew, h⟩ x y z hsub hxz
          rcases List.sublist_cons_iff.mp hsub with hsub | ⟨_, heq, hsub⟩
          · exact h x y z hsub hxz
          · cases heq
            have hz : z ∈ b :: l := hsub.subset (by simp)
            exact absurd (List.mem_map.mpr ⟨z, hz, hxz.symm⟩) hnew
        · intro h
          refine ⟨fun hold => ?_, fun x y z hsub => h x y z (hsub.cons a)⟩
          obtain ⟨z, hz, hza⟩ := List.mem_map.mp hold
          rcases List.mem_cons.mp hz with rfl | hz
          · exact hsame hza.symm
          · have hsub : [a, b, z].Sublist (a :: b :: l) :=
              ((List.singleton_sublist.mpr hz).cons_cons b).cons_cons a
            exact hsame (h a b z hsub hza.symm).symm
  cases xs with
  | nil => exact iff_of_true (by simp [heads]) fun x y z h => by simp at h
  | cons a l => exact hcons l a

/-! ### Sorted -/

/-- Sort, then drop neighbours of one kind. -/
def merge (r : α → α → Prop) [DecidableRel r] (kind : α → β) (xs : List α) : List α :=
  heads kind (xs.insertionSort r)

section Merge

variable {r : α → α → Prop} [DecidableRel r]

theorem mem_merge_kind (c : β) : c ∈ (merge r kind xs).map kind ↔ c ∈ xs.map kind := by
  rw [merge, mem_heads_kind, List.mem_map, List.mem_map]
  simp only [List.mem_insertionSort]

variable [Std.Total r] [IsTrans α r]

theorem pairwise_merge : (merge r kind xs).Pairwise r :=
  (List.pairwise_insertionSort r xs).sublist (heads_sublist kind _)

/-- What is kept once is kept by its first element. -/
theorem rel_of_mem_merge (hnodup : ((merge r kind xs).map kind).Nodup) {x y : α}
    (hx : x ∈ merge r kind xs) (hy : y ∈ xs) (hkind : kind y = kind x) : r x y := by
  have hfind : (merge r kind xs).find? (fun u => kind u = kind x) = some x := by
    cases hfirst : (merge r kind xs).find? fun u => kind u = kind x with
    | none => exact absurd (List.find?_eq_none.mp hfirst x hx) (by simp)
    | some u =>
      have hu : kind u = kind x := by simpa using List.find?_some hfirst
      rw [List.inj_on_of_nodup_map hnodup (List.mem_of_find?_eq_some hfirst) hx hu]
  rw [merge, find?_heads, List.find?_eq_some_iff_append] at hfind
  obtain ⟨-, before, after, hsplit, hbefore⟩ := hfind
  have hmem : y ∈ before ++ x :: after := hsplit ▸ (List.mem_insertionSort r).mpr hy
  have hsorted := List.pairwise_insertionSort r xs
  rw [hsplit] at hsorted
  rcases List.mem_append.mp hmem with hmem | hmem
  · have hno := hbefore y hmem
    simp [hkind] at hno
  · rcases List.mem_cons.mp hmem with rfl | hmem
    · exact (total_of r y y).elim id id
    · exact List.rel_of_pairwise_cons (List.pairwise_append.mp hsorted).2.1 hmem

variable [Std.Antisymm r]

theorem merge_perm {ys : List α} (h : xs.Perm ys) : merge r kind xs = merge r kind ys := by
  rw [merge, insertionSort_perm_eq h, merge]

theorem nodup_merge_iff : ((merge r kind xs).map kind).Nodup ↔
    ∀ x ∈ xs, ∀ y ∈ xs, ∀ z ∈ xs, r x y → r y z → kind x = kind z → kind y = kind x := by
  rw [merge, nodup_heads_iff]
  constructor
  · intro h x hx y hy z hz hxy hyz hxz
    by_cases hne : kind y = kind x
    · exact hne
    · have hxy' : x ≠ y := fun heq => hne (heq ▸ rfl)
      have hyz' : y ≠ z := fun heq => hne (heq ▸ hxz.symm)
      have hxz' : x ≠ z := fun heq => hxy' (antisymm_of r hxy (heq ▸ hyz))
      have hsub : [x, y, z].Subperm xs :=
        List.subperm_of_subset (by simp [hxy', hyz', hxz']) (by simp [hx, hy, hz])
      have hsorted : [x, y, z].Pairwise r := by
        simp [hxy, hyz, trans_of r hxy hyz]
      have hperm := (List.perm_insertionSort r xs).symm.subperm
      exact h x y z (List.sublist_of_subperm_of_pairwise (hsub.trans hperm) hsorted
        (List.pairwise_insertionSort r xs)) hxz
  · intro h x y z hsub hxz
    have hmem : ∀ u ∈ [x, y, z], u ∈ xs := fun u hu =>
      (List.mem_insertionSort r).mp (hsub.subset hu)
    have hsorted := (List.pairwise_insertionSort r xs).sublist hsub
    simp only [List.pairwise_cons, List.mem_cons, List.not_mem_nil, or_false, forall_eq_or_imp,
      forall_eq] at hsorted
    exact h x (hmem x (by simp)) y (hmem y (by simp)) z (hmem z (by simp)) hsorted.1.1 hsorted.2.1 hxz

end Merge

end Lib
