import Mathlib.Data.List.Induction
import Mathlib.Order.Lattice

/-!
# BuckyP2p.Lib.Best — the best of a list in one pass

A slot holds the best element so far and takes the next one if it is better.  Where `better` compares
a key in a linear order, the slot ends with an element whose key is a maximum; elements of one kind
have a slot of their own in `foldl_slots`.
-/

namespace Lib

variable {α β : Type*} (better : α → α → Bool)

/-- The slot at the next element. -/
def keepBetter (slot : Option α) (x : α) : Option α := if slot.all (better x) then some x else slot

def best (xs : List α) : Option α := xs.foldl (keepBetter better) none

/-- An element of the list whose key no element exceeds. -/
def IsBest [LE β] (key : α → β) (xs : List α) (b : α) : Prop := b ∈ xs ∧ ∀ x ∈ xs, key x ≤ key b

variable {better} {xs : List α} {b : α}

theorem best_concat (xs : List α) (x : α) :
    best better (xs ++ [x]) = keepBetter better (best better xs) x := by
  unfold best
  rw [List.foldl_append, List.foldl_cons, List.foldl_nil]

theorem keepBetter_isSome (better : α → α → Bool) (slot : Option α) (x : α) :
    (keepBetter better slot x).isSome = true := by
  unfold keepBetter
  cases slot with
  | none => rfl
  | some y =>
    split_ifs with hbetter
    · rfl
    · rfl

theorem best_eq_none_iff : best better xs = none ↔ xs = [] := by
  induction xs using List.reverseRecOn with
  | nil => exact iff_of_true rfl rfl
  | append_singleton xs x _ =>
    refine iff_of_false (fun hnone => ?_) (by simp)
    have hsome := keepBetter_isSome better (best better xs) x
    rw [← best_concat, hnone] at hsome
    cases hsome

/-- The slot ends with a maximum. -/
theorem isBest_of_best [LinearOrder β] {key : α → β}
    (hbetter : ∀ x y, better x y = true ↔ key y < key x) (h : best better xs = some b) :
    IsBest key xs b := by
  induction xs using List.reverseRecOn generalizing b with
  | nil => cases h
  | append_singleton xs x ih =>
    rw [best_concat, keepBetter] at h
    cases hslot : best better xs with
    | none =>
      obtain rfl := best_eq_none_iff.mp hslot
      rw [hslot] at h
      obtain rfl : x = b := Option.some.inj h
      exact ⟨List.mem_singleton_self x, fun y hy => (List.mem_singleton.mp hy).symm ▸ le_refl _⟩
    | some c =>
      obtain ⟨hc, hmax⟩ := ih hslot
      rw [hslot, Option.all_some] at h
      by_cases hx : better x c = true
      · rw [if_pos hx, Option.some.injEq] at h
        subst h
        refine ⟨List.mem_append_right _ (List.mem_singleton_self x), fun y hy => ?_⟩
        rcases List.mem_append.mp hy with hy | hy
        · exact (hmax y hy).trans ((hbetter x c).mp hx).le
        · rw [List.mem_singleton.mp hy]
      · rw [if_neg hx, Option.some.injEq] at h
        subst h
        refine ⟨List.mem_append_left _ hc, fun y hy => ?_⟩
        rcases List.mem_append.mp hy with hy | hy
        · exact hmax y hy
        · rw [List.mem_singleton.mp hy]
          exact not_lt.mp fun hlt => hx ((hbetter x c).mpr hlt)

/-- Elements of two kinds, each with a slot of its own. -/
theorem foldl_slots (kind : α → Bool) (xs : List α) :
    xs.foldl (fun (slots : Option α × Option α) x =>
      if kind x then (slots.1, keepBetter better slots.2 x)
      else (keepBetter better slots.1 x, slots.2)) (none, none) =
    (best better (xs.filter (!kind ·)), best better (xs.filter kind)) := by
  induction xs using List.reverseRecOn with
  | nil => rfl
  | append_singleton xs x ih =>
    rw [List.foldl_append, ih, List.foldl_cons, List.foldl_nil, List.filter_append,
      List.filter_append]
    cases hx : kind x with
    | true => simp [hx, best_concat]
    | false => simp [hx, best_concat]

theorem IsBest.perm [LE β] {key : α → β} {ys : List α} (h : IsBest key xs b) (hperm : xs.Perm ys) :
    IsBest key ys b :=
  ⟨hperm.subset h.1, fun x hx => h.2 x (hperm.symm.subset hx)⟩

/-- Two of the best are equally good. -/
theorem IsBest.key_eq [PartialOrder β] {key : α → β} {c : α} (hb : IsBest key xs b)
    (hc : IsBest key xs c) : key b = key c :=
  le_antisymm (hc.2 b hb.1) (hb.2 c hc.1)

end Lib
