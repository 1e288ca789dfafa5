import BuckyP2p.Lib.Table

/-!
# BuckyP2p.Lib.Numbering — numbers that are given out once

Some values of a table hold a number that a counter gave out.  `Numbering num t bound` says that the
numbers are below the counter and that no number is held at two keys; a new number is the counter
itself.
-/

namespace Lib

variable {α β : Type*} [DecidableEq α]

/-- The numbers in the table are below `bound`, and no two keys hold the same one. -/
structure Numbering (num : β → Option Nat) (t : Table α β) (bound : Nat) : Prop where
  below : ∀ a b n, t.lookup a = some b → num b = some n → n < bound
  apart : ∀ a a' b b' n, t.lookup a = some b → t.lookup a' = some b' → num b = some n →
    num b' = some n → a = a'

namespace Numbering

variable {num : β → Option Nat} {t t' : Table α β} {bound : Nat} {b' : β}

theorem empty (num : β → Option Nat) (bound : Nat) : Numbering num (∅ : Table α β) bound where
  below _ _ _ hl := by cases hl
  apart _ _ _ _ _ hl := by cases hl

/-- Every number was held at the same key before. -/
theorem shrink (h : Numbering num t bound)
    (hold : ∀ a b' n, t'.lookup a = some b' → num b' = some n →
      ∃ b, t.lookup a = some b ∧ num b = some n) : Numbering num t' bound where
  below a b' n hl hn := by
    obtain ⟨b, hb, hbn⟩ := hold a b' n hl hn
    exact h.below a b n hb hbn
  apart a a' b b' n hl hl' hn hn' := by
    obtain ⟨c, hc, hcn⟩ := hold a b n hl hn
    obtain ⟨c', hc', hcn'⟩ := hold a' b' n hl' hn'
    exact h.apart a a' c c' n hc hc' hcn hcn'

theorem erase (h : Numbering num t bound) (a : α) : Numbering num (t.erase a) bound := by
  exact h.shrink fun a' b' n hl hn => ⟨b', (Table.lookup_erase_some.mp hl).2, hn⟩

/-- A value without a number, or with the number that its key holds. -/
theorem insert_old (h : Numbering num t bound) (a : α)
    (hnum : num b' = none ∨ ∃ b, t.lookup a = some b ∧ num b' = num b) :
    Numbering num (t.insert a b') bound := by
  refine h.shrink fun c d n hc hn => ?_
  rcases Table.lookup_insert_some.mp hc with ⟨rfl, rfl⟩ | ⟨hca, hc⟩
  · rcases hnum with hnone | ⟨b, hl, hsame⟩
    · rw [hnone] at hn
      cases hn
    · exact ⟨b, hl, hsame ▸ hn⟩
  · exact ⟨d, hc, hn⟩

/-- The counter gives out its next number. -/
theorem insert_new (h : Numbering num t bound) (a : α) (hnum : num b' = some bound) :
    Numbering num (t.insert a b') (bound + 1) := by
  have hcase : ∀ c d n, (t.insert a b').lookup c = some d → num d = some n →
      (c = a ∧ n = bound) ∨ t.lookup c = some d := by
    intro c d n hc hn
    rcases Table.lookup_insert_some.mp hc with ⟨rfl, rfl⟩ | ⟨hca, hc⟩
    · rw [hnum, Option.some.injEq] at hn
      exact .inl ⟨rfl, hn.symm⟩
    · exact .inr hc
  constructor
  · intro c d n hc hn
    rcases hcase c d n hc hn with ⟨-, rfl⟩ | hold
    · exact Nat.lt_succ_self n
    · exact Nat.lt_succ_of_lt (h.below c d n hold hn)
  · intro c c' d d' n hc hc' hn hn'
    rcases hcase c d n hc hn with ⟨rfl, rfl⟩ | hold <;>
      rcases hcase c' d' n hc' hn' with ⟨rfl, hsame⟩ | hold'
    · rfl
    · exact absurd (h.below c' d' n hold' hn') (lt_irrefl n)
    · exact absurd (h.below c d n hold hn) (hsame ▸ lt_irrefl bound)
    · exact h.apart c c' d d' n hold hold' hn hn'

theorem mapValues (h : Numbering num t bound) (g : β → β)
    (hnum : ∀ b, num (g b) = none ∨ num (g b) = num b) :
    Numbering num (t.mapValues g) bound := by
  refine h.shrink fun a d n hd hn => ?_
  obtain ⟨b, hb, rfl⟩ := Table.lookup_mapValues.mp hd
  rcases hnum b with hnone | hsame
  · rw [hnone] at hn
    cases hn
  · exact ⟨b, hb, hsame ▸ hn⟩

end Numbering

end Lib
