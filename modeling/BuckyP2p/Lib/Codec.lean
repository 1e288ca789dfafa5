import Mathlib.Algebra.GroupWithZero.Nat
import Mathlib.Data.Fin.Basic
import Mathlib.Data.List.Basic

/-!
# BuckyP2p.Lib.Codec — binary codecs and what they are relied on for

A codec measures a value, writes it to the front of a buffer and reads it back from the front of a
byte string.  It is a value, so that a codec that cannot be looked into is a parameter.

* `Writes`: the bytes that a value is written as; the value is measured as their length.
* `Reads`: the bytes are read as the value, whatever follows them.
* `Transfers v w`: `v` is written, and read back as `w`.  A codec that loses nothing is `Lawful`.
* `be8`, `be32`: the fixed-width codecs of one byte and of four, most significant byte first.
-/

namespace Lib

/-- `rawEncode` returns what it has written, and the part of the buffer behind it. -/
structure RawCodec (B E P α : Type) where
  rawMeasure : α → P → Except E Nat
  rawEncode : α → P → List B → Except E (List B × List B)
  rawDecode : List B → Except E (α × List B)

namespace RawCodec

variable {B E P α β : Type}

/-- The value is written as `bytes` to every buffer that has the room. -/
structure Writes (c : RawCodec B E P α) (purpose : P) (v : α) (bytes : List B) : Prop where
  measure : c.rawMeasure v purpose = .ok bytes.length
  encode : ∀ buf : List B, bytes.length ≤ buf.length →
    c.rawEncode v purpose buf = .ok (bytes, buf.drop bytes.length)

/-- `bytes` is read as the value, and what follows is left. -/
def Reads (c : RawCodec B E P α) (bytes : List B) (v : α) : Prop :=
  ∀ t, c.rawDecode (bytes ++ t) = .ok (v, t)

def Transfers (c : RawCodec B E P α) (purpose : P) (v w : α) : Prop :=
  ∃ bytes, c.Writes purpose v bytes ∧ c.Reads bytes w

def Lawful (c : RawCodec B E P α) (purpose : P) : Prop := ∀ v, c.Transfers purpose v v

/-- Every value takes `n` bytes. -/
def Width (c : RawCodec B E P α) (purpose : P) (n : Nat) : Prop :=
  ∀ v, c.rawMeasure v purpose = .ok n

variable {c : RawCodec B E P α} {purpose : P} {v w : α} {bytes : List B}

theorem Reads.decode_self (h : c.Reads bytes v) : c.rawDecode bytes = .ok (v, []) := by
  have hnil := h []
  rwa [List.append_nil] at hnil

theorem Writes.length_eq (h : c.Writes purpose v bytes) {n : Nat} (hn : c.Width purpose n) :
    bytes.length = n :=
  Except.ok.inj (h.measure.symm.trans (hn v))

theorem Lawful.exists_bytes (h : c.Lawful purpose) {n : Nat} (hn : c.Width purpose n) (v : α) :
    ∃ bytes, c.Writes purpose v bytes ∧ c.Reads bytes v ∧ bytes.length = n := by
  obtain ⟨bytes, hwrites, hreads⟩ := h v
  exact ⟨bytes, hwrites, hreads, hwrites.length_eq hn⟩

/-! ### Fixed-width codecs -/

/-- One byte. -/
def be8 (P : Type) (short : E) : RawCodec (Fin (2 ^ 8)) E P (Fin (2 ^ 8)) where
  rawMeasure _ _ := .ok 1
  rawEncode v _ buf :=
    match buf with
    | _ :: rest => .ok ([v], rest)
    | [] => .error short
  rawDecode buf :=
    match buf with
    | v :: rest => .ok (v, rest)
    | [] => .error short

/-- The four bytes of a 32-bit number. -/
def beBytes32 (v : Fin (2 ^ 32)) : List (Fin (2 ^ 8)) :=
  [⟨v.val / 2 ^ 24, by omega⟩, ⟨v.val / 2 ^ 16 % 2 ^ 8, by omega⟩,
    ⟨v.val / 2 ^ 8 % 2 ^ 8, by omega⟩, ⟨v.val % 2 ^ 8, by omega⟩]

def be32 (P : Type) (short : E) : RawCodec (Fin (2 ^ 8)) E P (Fin (2 ^ 32)) where
  rawMeasure _ _ := .ok 4
  rawEncode v _ buf :=
    if buf.length < 4 then .error short else .ok (beBytes32 v, buf.drop 4)
  rawDecode buf :=
    match buf with
    | a :: b :: c :: d :: rest =>
      .ok (⟨a.val * 2 ^ 24 + b.val * 2 ^ 16 + c.val * 2 ^ 8 + d.val, by omega⟩, rest)
    | _ => .error short

theorem be8_lawful (P : Type) (short : E) (purpose : P) :
    (be8 P short).Lawful purpose ∧ (be8 P short).Width purpose 1 := by
  refine ⟨fun v => ⟨[v], ⟨rfl, ?_⟩, fun t => rfl⟩, fun v => rfl⟩
  intro buf hbuf
  obtain ⟨x, rest, rfl⟩ := List.exists_cons_of_length_pos (l := buf) hbuf
  rfl

theorem be32_reads (P : Type) (short : E) (v : Fin (2 ^ 32)) : (be32 P short).Reads (beBytes32 v) v := by
  intro t
  have hvalue : v.val / 2 ^ 24 * 2 ^ 24 + v.val / 2 ^ 16 % 2 ^ 8 * 2 ^ 16 +
      v.val / 2 ^ 8 % 2 ^ 8 * 2 ^ 8 + v.val % 2 ^ 8 = v.val := by
    omega
  simp only [be32, beBytes32, List.cons_append, List.nil_append, hvalue]

theorem be32_lawful (P : Type) (short : E) (purpose : P) :
    (be32 P short).Lawful purpose ∧ (be32 P short).Width purpose 4 := by
  refine ⟨fun v => ⟨beBytes32 v, ⟨rfl, ?_⟩, be32_reads P short v⟩, fun v => rfl⟩
  intro buf hbuf
  have hlen : ¬ buf.length < 4 := Nat.not_lt.mpr hbuf
  simp only [be32, hlen, if_false]
  rfl

/-- A codec that knows one value only. -/
def only [DecidableEq α] [DecidableEq B] (P : Type) (v : α) (bytes : List B) (bad : E) :
    RawCodec B E P α where
  rawMeasure x _ := if x = v then .ok bytes.length else .error bad
  rawEncode x _ buf :=
    if x = v ∧ bytes.length ≤ buf.length then .ok (bytes, buf.drop bytes.length) else .error bad
  rawDecode buf := if buf.take bytes.length = bytes then .ok (v, buf.drop bytes.length) else .error bad

theorem only_reads [DecidableEq α] [DecidableEq B] (P : Type) (v : α) (bytes : List B) (bad : E) :
    (only P v bytes bad).Reads bytes v := by
  intro t
  simp only [only, List.take_left', List.drop_left', if_true]

theorem only_writes [DecidableEq α] [DecidableEq B] (P : Type) (v : α) (bytes : List B) (bad : E)
    (purpose : P) : (only P v bytes bad).Writes purpose v bytes :=
  ⟨if_pos rfl, fun _ hbuf => if_pos ⟨rfl, hbuf⟩⟩

theorem only_transfers [DecidableEq α] [DecidableEq B] (P : Type) (v : α) (bytes : List B) (bad : E)
    (purpose : P) : (only P v bytes bad).Transfers purpose v v :=
  ⟨bytes, only_writes P v bytes bad purpose, only_reads P v bytes bad⟩

end RawCodec

end Lib
