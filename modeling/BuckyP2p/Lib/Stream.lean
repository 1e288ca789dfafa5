import Mathlib.Data.List.Basic

/-!
# BuckyP2p.Lib.Stream — a byte stream that arrives in pieces

What a reader has still to read is the list of the pieces; the end of the list is the end of the
stream.  `readExact n` takes the next `n` bytes out of as many pieces as it needs.  Only the bytes
matter to it, not how they are cut (`readExact_eq`).
-/

namespace Lib

/-- A computation that returns has returned at each of its steps. -/
theorem bind_eq_ok {E α β : Type} {x : Except E α} {f : α → Except E β} {b : β} :
    (x >>= f) = .ok b ↔ ∃ a, x = .ok a ∧ f a = .ok b := by
  cases x with
  | error e => simp [bind, Except.bind]
  | ok a => simp [bind, Except.bind]

variable {B E : Type} {pieces rest : List (List B)} {n : Nat}

/-- `AsyncReadExt::read_exact` into a buffer of `n` bytes, with `eof` for a stream that ends first. -/
def readExact (eof : E) (n : Nat) : List (List B) → Except E (List B × List (List B))
  | [] => if n = 0 then .ok ([], []) else .error eof
  | piece :: rest =>
    if n ≤ piece.length then .ok (piece.take n, piece.drop n :: rest)
    else
      match readExact eof (n - piece.length) rest with
      | .ok (bytes, rest) => .ok (piece ++ bytes, rest)
      | .error e => .error e

theorem readExact_eq (eof : E) {s t : List B} (h : pieces.flatten = s ++ t) (hn : s.length = n) :
    ∃ rest, readExact eof n pieces = .ok (s, rest) ∧ rest.flatten = t := by
  induction pieces generalizing s n with
  | nil =>
    have hnil : s = [] ∧ t = [] := by simpa using h.symm
    obtain ⟨rfl, rfl⟩ := hnil
    subst hn
    exact ⟨[], rfl, rfl⟩
  | cons piece pieces ih =>
    rw [List.flatten_cons] at h
    by_cases hle : n ≤ piece.length
    · obtain ⟨u, rfl, rfl⟩ : ∃ u, piece = s ++ u ∧ t = u ++ pieces.flatten := by
        rcases List.append_eq_append_iff.mp h with ⟨u, rfl, hu⟩ | ⟨u, hpiece, ht⟩
        · have hzero : u = [] := by
            rw [List.length_append] at hn
            exact List.eq_nil_of_length_eq_zero (by omega)
          subst hzero
          exact ⟨[], by simp, by simpa using hu.symm⟩
        · exact ⟨u, hpiece, ht⟩
      refine ⟨u :: pieces, ?_, by rw [List.flatten_cons]⟩
      rw [readExact, if_pos hle, List.take_left' hn, List.drop_left' hn]
    · obtain ⟨u, rfl, hu⟩ : ∃ u, s = piece ++ u ∧ pieces.flatten = u ++ t := by
        rcases List.append_eq_append_iff.mp h with ⟨u, rfl, hu⟩ | ⟨u, rfl, -⟩
        · exact ⟨u, rfl, hu⟩
        · rw [List.length_append] at hle
          omega
      rw [List.length_append] at hn
      obtain ⟨rest, hread, hrest⟩ := ih hu (n := n - piece.length) (by omega)
      refine ⟨rest, ?_, hrest⟩
      rw [readExact, if_neg hle, hread]

/-- A stream that ends too early. -/
theorem readExact_short (eof : E) (h : pieces.flatten.length < n) :
    readExact eof n pieces = .error eof := by
  induction pieces generalizing n with
  | nil =>
    rw [readExact, if_neg (by rw [List.flatten_nil, List.length_nil] at h; omega)]
  | cons piece pieces ih =>
    rw [List.flatten_cons, List.length_append] at h
    rw [readExact, if_neg (by omega), ih (n := n - piece.length) (by omega)]

/-- What is read is the front of the stream. -/
theorem readExact_ok {eof : E} {s : List B} (h : readExact eof n pieces = .ok (s, rest)) :
    pieces.flatten = s ++ rest.flatten ∧ s.length = n := by
  induction pieces generalizing s n with
  | nil =>
    rw [readExact] at h
    split_ifs at h with hn
    cases h
    exact ⟨rfl, hn.symm⟩
  | cons piece pieces ih =>
    rw [readExact] at h
    split_ifs at h with hle
    · cases h
      refine ⟨?_, by rw [List.length_take]; omega⟩
      rw [List.flatten_cons, List.flatten_cons, ← List.append_assoc, List.take_append_drop]
    · split at h
      case h_1 bytes rest' hread =>
        cases h
        obtain ⟨hbytes, hlen⟩ := ih hread
        refine ⟨by rw [List.flatten_cons, hbytes, List.append_assoc], ?_⟩
        rw [List.length_append]
        omega
      case h_2 => cases h

end Lib
