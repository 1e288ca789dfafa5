import BuckyP2p.Sn.Messages
import Mathlib.Data.List.Nodup
import Mathlib.Order.Defs.LinearOrder

/-!
# BuckyP2p.Net.TunnelIds — the ids that the networks generate (`tcp/network.rs`, `quic/network.rs`)

`next_tunnel_id` is the same in both networks.  The sequence is that of a `TunnelIdGenerator` behind
a lock, without its highest bit; that bit says which of the two peers has the greater id.

`position` is where a generator stands in the cycle of the sequences, from which the ids of a run are
read off.
-/

namespace BuckyP2p.Net

open Lib

/-- `TunnelIdGenerator::generate` of one thread, with what `cur` is next. -/
def generateTunnelId (cur : U32) : U32 × U32 :=
  if cur = 0 then (cur + 1, cur + 2) else (cur, cur + 1)

/-- `1u32 << 31`. -/
def tunnelIdHighBit : Nat := 2 ^ 31

/-- The sequences that there are. -/
def sequenceCount : Nat := tunnelIdHighBit - 1

/-- The loop of `next_tunnel_id`; the sequence is not `0`. -/
def nextSequence : Nat → U32 → Option (Nat × U32)
  | 0, _ => none
  | fuel + 1, cur =>
    let generated := generateTunnelId cur
    let seq := generated.1.val % tunnelIdHighBit
    if seq ≠ 0 then some (seq, generated.2) else nextSequence fuel generated.2

/-- `creator_high_bit`. -/
def creatorHighBit (localId remoteId : P2pId) : Nat :=
  if remoteId < localId then tunnelIdHighBit else 0

/-- `next_tunnel_id`, with the generator after it. -/
def nextTunnelId (fuel : Nat) (cur : U32) (localId remoteId : P2pId) : Option (TunnelId × U32) :=
  (nextSequence fuel cur).map fun r =>
    (Fin.ofNat (2 ^ 32) (creatorHighBit localId remoteId + r.1), r.2)

/-- The ids of the calls of one network, in the order in which they draw a sequence that is not `0`. -/
def tunnelIds (fuel : Nat) : U32 → List (P2pId × P2pId) → Option (List TunnelId)
  | _, [] => some []
  | cur, (localId, remoteId) :: calls => do
    let r ← nextTunnelId fuel cur localId remoteId
    return r.1 :: (← tunnelIds fuel r.2 calls)

/-! ## The cycle of the sequences -/

/-- The sequences that come before the next one in the cycle. -/
def position (cur : U32) : Nat := cur.val % tunnelIdHighBit - 1

theorem val_succ (cur : U32) : (cur + 1).val = (cur.val + 1) % 2 ^ 32 := Fin.val_add cur 1

/-- A generator that stands at a sequence gives it out. -/
theorem nextSequence_of_ne (fuel : Nat) {cur : U32} (h : cur.val % tunnelIdHighBit ≠ 0) :
    nextSequence (fuel + 1) cur = some (position cur + 1, cur + 1) ∧
      position (cur + 1) = (position cur + 1) % sequenceCount := by
  have hne : cur ≠ 0 := by
    rintro rfl
    exact h rfl
  unfold nextSequence
  rw [generateTunnelId, if_neg hne]
  dsimp only
  rw [if_pos h]
  unfold position
  rw [val_succ]
  unfold sequenceCount tunnelIdHighBit at *
  have hlt := cur.isLt
  refine ⟨congrArg (fun n => some (n, cur + 1)) (by omega), by omega⟩

/-- Two rounds of the loop are always enough. -/
theorem nextSequence_eq (fuel : Nat) (cur : U32) :
    ∃ cur', nextSequence (fuel + 2) cur = some (position cur + 1, cur') ∧
      position cur' = (position cur + 1) % sequenceCount := by
  by_cases hzero : cur.val % tunnelIdHighBit = 0
  · by_cases hcur : cur = 0
    · subst hcur
      exact ⟨2, rfl, by decide⟩
    · -- the generator is at the highest bit alone, which is passed over
      have hlt := cur.isLt
      have hpos : cur.val ≠ 0 := fun h => hcur (Fin.ext h)
      have hnext : (cur + 1).val % tunnelIdHighBit = 1 := by
        rw [val_succ]
        unfold tunnelIdHighBit at *
        omega
      obtain ⟨hseq, hposition⟩ := @nextSequence_of_ne fuel (cur + 1) (by omega)
      have hsame : position (cur + 1) = position cur := by
        unfold position
        rw [hnext, hzero]
      rw [hsame] at hseq hposition
      refine ⟨_, ?_, hposition⟩
      rw [nextSequence, generateTunnelId, if_neg hcur]
      dsimp only
      rw [if_neg (not_not.mpr hzero)]
      exact hseq
  · obtain ⟨hseq, hposition⟩ := nextSequence_of_ne (fuel + 1) hzero
    exact ⟨_, hseq, hposition⟩

theorem position_lt (cur : U32) : position cur < sequenceCount := by
  unfold position sequenceCount tunnelIdHighBit
  omega

/-! ## The ids of a run -/

/-- The id of a call that is made after `count` others. -/
def idAfter (cur : U32) (count : Nat) (call : P2pId × P2pId) : TunnelId :=
  Fin.ofNat (2 ^ 32)
    (creatorHighBit call.1 call.2 + ((position cur + count) % sequenceCount + 1))

/-- Every call gets an id, which its number says. -/
theorem tunnelIds_spec (fuel : Nat) (cur : U32) (calls : List (P2pId × P2pId)) :
    ∃ ids, tunnelIds (fuel + 2) cur calls = some ids ∧ ids.length = calls.length ∧
      ∀ i : Nat, ids[i]? = (calls[i]?).map (idAfter cur i) := by
  induction calls generalizing cur with
  | nil => exact ⟨[], rfl, rfl, fun i => rfl⟩
  | cons call calls ih =>
    obtain ⟨localId, remoteId⟩ := call
    obtain ⟨cur', hseq, hposition⟩ := nextSequence_eq fuel cur
    obtain ⟨ids, hids, hlength, hspec⟩ := ih cur'
    have hnext : nextTunnelId (fuel + 2) cur localId remoteId =
        some (idAfter cur 0 (localId, remoteId), cur') := by
      have hmod : (position cur + 0) % sequenceCount = position cur :=
        Nat.mod_eq_of_lt (position_lt cur)
      unfold nextTunnelId idAfter
      rw [hseq, hmod]
      rfl
    refine ⟨idAfter cur 0 (localId, remoteId) :: ids, ?_, congrArg (· + 1) hlength, fun i => ?_⟩
    · rw [tunnelIds, hnext, Option.bind_eq_bind, Option.bind_some, hids]
      rfl
    · cases i with
      | zero => rfl
      | succ i =>
        rw [List.getElem?_cons_succ, List.getElem?_cons_succ, hspec]
        unfold idAfter
        rw [hposition, Nat.mod_add_mod, Nat.add_right_comm, Nat.add_assoc (position cur)]

theorem creatorHighBit_cases (localId remoteId : P2pId) :
    creatorHighBit localId remoteId = 0 ∨ creatorHighBit localId remoteId = tunnelIdHighBit := by
  unfold creatorHighBit
  split_ifs with hlt
  · exact .inr rfl
  · exact .inl rfl

/-- The sequence and the bit of the creator do not overlap. -/
theorem idAfter_val (cur : U32) (count : Nat) (call : P2pId × P2pId) :
    (idAfter cur count call).val =
      creatorHighBit call.1 call.2 + ((position cur + count) % sequenceCount + 1) := by
  have hlt : (position cur + count) % sequenceCount < sequenceCount :=
    Nat.mod_lt _ (by decide)
  have hbit := creatorHighBit_cases call.1 call.2
  unfold idAfter
  rw [Fin.val_ofNat]
  refine Nat.mod_eq_of_lt ?_
  unfold sequenceCount tunnelIdHighBit at *
  omega

theorem idAfter_ne_zero (cur : U32) (count : Nat) (call : P2pId × P2pId) :
    idAfter cur count call ≠ 0 := by
  intro hzero
  have hval := idAfter_val cur count call
  rw [hzero] at hval
  have : (0 : TunnelId).val = 0 := rfl
  omega

/-- A sequence does not come again before all others have come. -/
theorem idAfter_injective {cur : U32} {i j : Nat} {call call' : P2pId × P2pId}
    (hi : i < sequenceCount) (hj : j < sequenceCount)
    (h : idAfter cur i call = idAfter cur j call') : i = j := by
  have hval := congrArg Fin.val h
  rw [idAfter_val, idAfter_val] at hval
  have hbit := creatorHighBit_cases call.1 call.2
  have hbit' := creatorHighBit_cases call'.1 call'.2
  have hpos := position_lt cur
  unfold sequenceCount tunnelIdHighBit at *
  omega

/-- The two peers of a tunnel do not generate the same id. -/
theorem idAfter_ends_ne {curA curB : U32} {i j : Nat} {a b : P2pId} (hne : a ≠ b) :
    idAfter curA i (a, b) ≠ idAfter curB j (b, a) := by
  intro heq
  have hval := congrArg Fin.val heq
  rw [idAfter_val, idAfter_val] at hval
  have hlt : (position curA + i) % sequenceCount < sequenceCount := Nat.mod_lt _ (by decide)
  have hlt' : (position curB + j) % sequenceCount < sequenceCount := Nat.mod_lt _ (by decide)
  unfold creatorHighBit sequenceCount tunnelIdHighBit at *
  dsimp only at hval
  rcases lt_or_gt_of_ne hne with hab | hab
  · rw [if_neg (lt_asymm hab), if_pos hab] at hval
    omega
  · rw [if_pos hab, if_neg (lt_asymm hab)] at hval
    omega

/-- All calls of two networks get ids; none is the default id, a network repeats none before all
sequences have come, and the two peers of a tunnel never generate the same. -/
theorem next_tunnel_ids_apart (fuel : Nat) (curA curB : U32) (callsA callsB : List (P2pId × P2pId)) :
    ∃ idsA idsB, tunnelIds (fuel + 2) curA callsA = some idsA ∧
      tunnelIds (fuel + 2) curB callsB = some idsB ∧
      idsA.length = callsA.length ∧ (∀ id ∈ idsA, id ≠ 0) ∧
      (callsA.length ≤ sequenceCount → idsA.Nodup) ∧
      ∀ (i j : Nat) (a b : P2pId), callsA[i]? = some (a, b) → callsB[j]? = some (b, a) → a ≠ b →
        idsA[i]? ≠ idsB[j]? := by
  obtain ⟨idsA, hidsA, hlength, hspecA⟩ := tunnelIds_spec fuel curA callsA
  obtain ⟨idsB, hidsB, _, hspecB⟩ := tunnelIds_spec fuel curB callsB
  refine ⟨idsA, idsB, hidsA, hidsB, hlength, fun id hid => ?_, fun hfew => ?_,
    fun i j a b ha hb hne => ?_⟩
  · obtain ⟨i, hi⟩ := List.getElem?_of_mem hid
    rw [hspecA, Option.map_eq_some_iff] at hi
    obtain ⟨call, _, rfl⟩ := hi
    exact idAfter_ne_zero curA i call
  · refine List.nodup_iff_injective_get.mpr fun i j heq => Fin.ext ?_
    have hi : i.val < callsA.length := i.isLt.trans_eq hlength
    have hj : j.val < callsA.length := j.isLt.trans_eq hlength
    have hsome : idsA[i.val]? = idsA[j.val]? := by
      rw [List.getElem?_eq_getElem i.isLt, List.getElem?_eq_getElem j.isLt]
      exact congrArg some heq
    rw [hspecA, hspecA, List.getElem?_eq_getElem hi, List.getElem?_eq_getElem hj] at hsome
    exact idAfter_injective (hi.trans_le hfew) (hj.trans_le hfew) (Option.some.inj hsome)
  · rw [hspecA, hspecB, ha, hb]
    exact fun heq => idAfter_ends_ne hne (Option.some.inj heq)

end BuckyP2p.Net
