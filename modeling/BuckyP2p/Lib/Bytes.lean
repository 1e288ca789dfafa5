import Mathlib.Algebra.GroupWithZero.Nat
import Mathlib.Data.Fin.Basic
import Mathlib.Data.List.Basic

/-!
# BuckyP2p.Lib.Bytes — slices with checked bounds, and the bytes of a 16-bit number

A slice is a list.  An access outside of it stops the program, so a computation over slices is
`Checked`: it returns `Panic` for the first access that is out of bounds.  That a function reads
nothing outside of its input is the statement that it never returns `Panic`.

* `byteAt`, `slice`, `sliceFrom`: `p[i]`, `p[a..b]`, `p[a..]`.
* `copyFromSlice`, `setAt`: `p[a..b].copy_from_slice(src)`, which also stops on a wrong length, and
  `p[i] = x`.
* The lemmas `*_of_split` compute an access from a split of the slice at the bounds; `split_at` and
  `split_one` make such splits.
-/

namespace Lib

/-- An index or a range out of bounds. -/
inductive Panic
  | outOfBounds
  deriving DecidableEq, Repr

abbrev Checked (α : Type) : Type := Except Panic α

variable {α : Type}

/-- `p[i]`. -/
def byteAt (p : List α) (i : Nat) : Checked α :=
  match p[i]? with
  | some x => .ok x
  | none => .error .outOfBounds

/-- `p[a..b]`. -/
def slice (p : List α) (a b : Nat) : Checked (List α) :=
  if a ≤ b ∧ b ≤ p.length then .ok ((p.drop a).take (b - a)) else .error .outOfBounds

/-- `p[a..]`. -/
def sliceFrom (p : List α) (a : Nat) : Checked (List α) := slice p a p.length

/-- `p[a..b].copy_from_slice(src)`. -/
def copyFromSlice (p : List α) (a b : Nat) (src : List α) : Checked (List α) :=
  if a ≤ b ∧ b ≤ p.length ∧ src.length = b - a then .ok (p.take a ++ src ++ p.drop b)
  else .error .outOfBounds

/-- `p[i] = x`. -/
def setAt (p : List α) (i : Nat) (x : α) : Checked (List α) := copyFromSlice p i (i + 1) [x]

/-- `<[T; N]>::try_from(p)`. -/
def tryIntoArray (n : Nat) (p : List α) : Option (Vector α n) :=
  if h : p.length = n then some ⟨p.toArray, by simpa using h⟩ else none

variable {p u v w : List α} {y : α} {a b i n : Nat}

theorem tryIntoArray_toList (v : Vector α n) : tryIntoArray n v.toList = some v := by
  obtain ⟨⟨bytes⟩, hlen⟩ := v
  simp only [Vector.toList, tryIntoArray]
  simpa using hlen

theorem exists_array_of_length (h : p.length = n) : ∃ v : Vector α n, p = v.toList :=
  ⟨⟨p.toArray, by simpa using h⟩, by simp [Vector.toList]⟩

theorem byteAt_of_split (h : p = u ++ v) (ha : u.length = a) : byteAt p (a + i) = byteAt v i := by
  subst h ha
  rw [byteAt, List.getElem?_append_right (Nat.le_add_right ..), Nat.add_sub_cancel_left, byteAt]

theorem slice_of_split (h : p = u ++ (v ++ w)) (ha : u.length = a)
    (hb : a + v.length = b) : slice p a b = .ok v := by
  subst h ha hb
  rw [slice, if_pos ⟨by omega, by simp⟩]
  simp

theorem sliceFrom_of_split (h : p = u ++ v) (ha : u.length = a) : sliceFrom p a = .ok v := by
  have hlen : a + v.length = p.length := by rw [h, List.length_append, ha]
  exact slice_of_split (w := []) (by simpa using h) ha hlen

theorem copyFromSlice_of_split {src : List α} (h : p = u ++ (v ++ w)) (ha : u.length = a)
    (hb : a + v.length = b) (hsrc : src.length = v.length) :
    copyFromSlice p a b src = .ok (u ++ (src ++ w)) := by
  subst h ha hb
  rw [copyFromSlice, if_pos ⟨by omega, by simp, by omega⟩]
  simp [← List.drop_drop]

theorem setAt_of_split {x : α} (h : p = u ++ y :: w) (hi : u.length = i) :
    setAt p i x = .ok (u ++ x :: w) :=
  copyFromSlice_of_split (v := [y]) h hi rfl rfl

theorem split_at (h : a ≤ p.length) : ∃ xs ys, p = xs ++ ys ∧ xs.length = a :=
  ⟨p.take a, p.drop a, (List.take_append_drop a p).symm, by simpa using h⟩

theorem split_one (h : 0 < p.length) : ∃ x ys, p = x :: ys := by
  obtain ⟨x, ys, rfl⟩ := List.exists_cons_of_length_pos h
  exact ⟨x, ys, rfl⟩

/-- A copy with the right bounds and length is an overwritten split. -/
theorem copyFromSlice_eq_ok {q src : List α} (h : copyFromSlice p a b src = .ok q) :
    ∃ xs ys zs, p = xs ++ (ys ++ zs) ∧ xs.length = a ∧ a + ys.length = b ∧
      src.length = ys.length ∧ q = xs ++ (src ++ zs) := by
  unfold copyFromSlice at h
  split at h
  case isFalse => cases h
  case isTrue hc =>
    obtain ⟨hab, hbp, hlen⟩ := hc
    obtain ⟨xs, rest, rfl, ha⟩ := split_at (p := p) (a := a) (by omega)
    obtain ⟨ys, zs, rfl, hb⟩ := split_at (p := rest) (a := b - a) (by simp at hbp; omega)
    have hsrc : src.length = ys.length := by omega
    refine ⟨xs, ys, zs, rfl, ha, by omega, hsrc, ?_⟩
    have hcopy := copyFromSlice_of_split (p := xs ++ (ys ++ zs)) rfl ha
      (show a + ys.length = b by omega) hsrc
    rw [copyFromSlice, if_pos ⟨hab, hbp, hlen⟩] at hcopy
    cases h
    exact Except.ok.inj hcopy

/-! ### 16-bit numbers -/

/-- The byte with the high bits. -/
def highByte (n : Fin (2 ^ 16)) : Fin (2 ^ 8) := ⟨n.val / 256, by omega⟩

def lowByte (n : Fin (2 ^ 16)) : Fin (2 ^ 8) := ⟨n.val % 256, by omega⟩

/-- The number with these bytes. -/
def ofBytes (high low : Fin (2 ^ 8)) : Fin (2 ^ 16) := ⟨high.val * 256 + low.val, by omega⟩

@[simp] theorem ofBytes_bytes (n : Fin (2 ^ 16)) : ofBytes (highByte n) (lowByte n) = n := by
  apply Fin.ext
  simp only [ofBytes, highByte, lowByte]
  omega

@[simp] theorem highByte_ofBytes (high low : Fin (2 ^ 8)) : highByte (ofBytes high low) = high := by
  apply Fin.ext
  simp only [ofBytes, highByte]
  omega

@[simp] theorem lowByte_ofBytes (high low : Fin (2 ^ 8)) : lowByte (ofBytes high low) = low := by
  apply Fin.ext
  simp only [ofBytes, lowByte]
  omega

/-- `u16::to_be_bytes`. -/
def toBeBytes (n : Fin (2 ^ 16)) : List (Fin (2 ^ 8)) := [highByte n, lowByte n]

/-- `u16::to_le_bytes`. -/
def toLeBytes (n : Fin (2 ^ 16)) : List (Fin (2 ^ 8)) := [lowByte n, highByte n]

end Lib
