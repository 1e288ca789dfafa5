import Mathlib.Data.Nat.Bitwise
import Mathlib.Tactic.Ring

/-!
# BuckyP2p.Lib.Prefix — prefixes of fixed-width numbers

An address is a number that is written as digits of `w` bits.  `InPrefix width len base x` says that
`x` and `base` agree in the first `len` of `width` bits; a mask of high bits tests this for one
digit.
-/

namespace Lib

/-- The number with these digits of `w` bits, the highest first. -/
def number (w : Nat) (digits : List Nat) : Nat := digits.foldl (fun n d => n * 2 ^ w + d) 0

variable {w : Nat} {xs ys : List Nat}

@[simp] theorem number_nil : number w [] = 0 := rfl

theorem foldl_number (n : Nat) : ys.foldl (fun n d => n * 2 ^ w + d) n =
    n * 2 ^ (w * ys.length) + number w ys := by
  induction ys generalizing n with
  | nil => simp
  | cons d ys ih =>
    have hhead : number w (d :: ys) = d * 2 ^ (w * ys.length) + number w ys := by
      show ys.foldl (fun n d => n * 2 ^ w + d) (0 * 2 ^ w + d) = _
      rw [Nat.zero_mul, Nat.zero_add]
      exact ih d
    rw [List.foldl_cons, ih, hhead, List.length_cons, Nat.mul_succ, Nat.pow_add]
    ring

theorem number_append : number w (xs ++ ys) = number w xs * 2 ^ (w * ys.length) + number w ys := by
  unfold number
  rw [List.foldl_append]
  exact foldl_number _

theorem number_cons (d : Nat) : number w (d :: ys) = d * 2 ^ (w * ys.length) + number w ys := by
  have h : number w ([d] ++ ys) = _ := number_append
  simpa [number] using h

theorem number_lt (h : ∀ d ∈ ys, d < 2 ^ w) : number w ys < 2 ^ (w * ys.length) := by
  induction ys with
  | nil => simp
  | cons d ys ih =>
    have hd : d + 1 ≤ 2 ^ w := h d List.mem_cons_self
    have hys := ih fun e he => h e (List.mem_cons_of_mem _ he)
    rw [number_cons, List.length_cons, Nat.mul_succ, Nat.pow_add, Nat.mul_comm _ (2 ^ w)]
    calc d * 2 ^ (w * ys.length) + number w ys
        < d * 2 ^ (w * ys.length) + 2 ^ (w * ys.length) := Nat.add_lt_add_left hys _
      _ = (d + 1) * 2 ^ (w * ys.length) := by ring
      _ ≤ 2 ^ w * 2 ^ (w * ys.length) := Nat.mul_le_mul_right _ hd

/-- The first digits of a number, less `k` bits. -/
theorem number_append_div (xs : List Nat) (h : ∀ d ∈ ys, d < 2 ^ w) (k : Nat) :
    number w (xs ++ ys) / 2 ^ (w * ys.length + k) = number w xs / 2 ^ k := by
  rw [number_append, Nat.pow_add, ← Nat.div_div_eq_div_mul, Nat.mul_comm,
    Nat.mul_add_div (Nat.two_pow_pos _), Nat.div_eq_of_lt (number_lt h), Nat.add_zero]

/-- The numbers agree in the first `len` of `width` bits. -/
def InPrefix (width len base x : Nat) : Prop := x / 2 ^ (width - len) = base / 2 ^ (width - len)

instance (width len base x : Nat) : Decidable (InPrefix width len base x) :=
  inferInstanceAs (Decidable (_ = _))

theorem InPrefix.mono {width l m base x : Nat} (h : InPrefix width m base x) (hle : l ≤ m) :
    InPrefix width l base x := by
  have hsplit : width - l = width - m + (width - l - (width - m)) := by omega
  unfold InPrefix at h ⊢
  rw [hsplit, Nat.pow_add, ← Nat.div_div_eq_div_mul, ← Nat.div_div_eq_div_mul, h]

/-- Prefixes that differ in a bit that both have are disjoint. -/
theorem InPrefix.disjoint {width l m b c x : Nat} (h : InPrefix width l b x)
    (hne : ¬ InPrefix width (min l m) c b) : ¬ InPrefix width m c x := fun hm =>
  hne ((h.mono (min_le_left l m)).symm.trans (hm.mono (min_le_right l m)))

/-- A prefix that ends in the first `n` digits is one of the number that they make. -/
theorem inPrefix_take {bs : List Nat} {n len : Nat} (hx : ∀ d ∈ xs, d < 2 ^ w)
    (hb : ∀ d ∈ bs, d < 2 ^ w) (hlength : bs.length = xs.length) (hn : n ≤ xs.length)
    (hlen : len ≤ w * n) :
    InPrefix (w * xs.length) len (number w bs) (number w xs) ↔
      InPrefix (w * n) len (number w (bs.take n)) (number w (xs.take n)) := by
  have htake {ds : List Nat} (hd : ∀ d ∈ ds, d < 2 ^ w) (hds : ds.length = xs.length) :
      number w ds / 2 ^ (w * xs.length - len) = number w (ds.take n) / 2 ^ (w * n - len) := by
    have hwidth : w * xs.length - len = w * (ds.drop n).length + (w * n - len) := by
      rw [List.length_drop, hds, Nat.mul_sub]
      have hle : w * n ≤ w * xs.length := Nat.mul_le_mul_left w hn
      omega
    have happend := number_append_div (ds.take n)
      (fun d (h : d ∈ ds.drop n) => hd d (List.mem_of_mem_drop h)) (w * n - len)
    rwa [List.take_append_drop, ← hwidth] at happend
  unfold InPrefix
  rw [htake hx rfl, htake hb hlength]

/-- A mask of the high bits. -/
theorem and_high_mask {x k : Nat} (hx : x < 2 ^ w) (hk : k ≤ w) :
    x &&& (2 ^ w - 2 ^ k) = x / 2 ^ k * 2 ^ k := by
  have hmask : 2 ^ w - 2 ^ k = (2 ^ (w - k) - 1) * 2 ^ k := by
    rw [Nat.sub_mul, ← Nat.pow_add, Nat.sub_add_cancel hk, Nat.one_mul]
  have hdiv : (x &&& (2 ^ w - 2 ^ k)) / 2 ^ k = x / 2 ^ k := by
    rw [Nat.and_div_two_pow, hmask, Nat.mul_div_cancel _ (Nat.two_pow_pos k)]
    apply Nat.and_two_pow_sub_one_of_lt_two_pow
    rw [Nat.div_lt_iff_lt_mul (Nat.two_pow_pos k), ← Nat.pow_add, Nat.sub_add_cancel hk]
    exact hx
  have hmod : (x &&& (2 ^ w - 2 ^ k)) % 2 ^ k = 0 := by
    rw [Nat.and_mod_two_pow, hmask, Nat.mul_mod_left, Nat.and_zero]
  rw [← hdiv, Nat.div_mul_cancel (Nat.dvd_of_mod_eq_zero hmod)]

/-- The test of a number with a mask of its first `len` bits. -/
theorem and_high_mask_eq_iff (len base : Nat) {x : Nat} (hx : x < 2 ^ w)
    (hbase : 2 ^ (w - len) ∣ base) :
    x &&& (2 ^ w - 2 ^ (w - len)) = base ↔ InPrefix w len base x := by
  obtain ⟨b, rfl⟩ := hbase
  have hpos := Nat.two_pow_pos (w - len)
  unfold InPrefix
  rw [and_high_mask hx (Nat.sub_le w len), Nat.mul_div_cancel_left b hpos, Nat.mul_comm]
  exact Nat.mul_right_inj hpos.ne'

end Lib
