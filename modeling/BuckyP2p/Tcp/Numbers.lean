import BuckyP2p.Lib.Serial
import BuckyP2p.Tcp.Claim
import Mathlib.Data.List.Nodup

/-!
# BuckyP2p.Tcp.Numbers — lease sequences and local ids (`tcp/tunnel.rs`, `types.rs`)

The order of `TunnelId` is that of numbers which wrap around, and `next_lease_seq` is the number that
follows in it.

A local id is what a counter held at a `fetch_add`, without its highest bit; that bit says which end
it was.  Each pass of the loop of `next_local_id_value` is one `fetch_add`, and the passes of several
tasks come in any order: `issued` is what they return, in the order of the passes.
-/

namespace BuckyP2p

theorem TunnelId.partialCmp_eq (a b : TunnelId) : a.partialCmp b = some (Lib.serialCmp a b) := by
  unfold TunnelId.partialCmp Lib.serialCmp
  split_ifs <;> rfl

namespace Tcp

open Lib

theorem nextLeaseSeq_eq : nextLeaseSeq = succNonzero := rfl

/-- A number comes after those it follows on, until half of them are through. -/
theorem nextLeaseSeq_iterate_gt {s : TcpLeaseSeq} (hs : s ≠ 0) {k : Nat} (hpos : 1 ≤ k)
    (hk : k ≤ 2 ^ 31 - 1) :
    (nextLeaseSeq^[k] s).gt s = true ∧ s.lt (nextLeaseSeq^[k] s) = true := by
  have hcmp : serialCmp (succNonzero^[k] s) s = .gt :=
    serialCmp_iterate (by decide) (by decide) hs hpos hk
  rw [nextLeaseSeq_eq, TunnelId.gt, TunnelId.lt, TunnelId.partialCmp_eq, TunnelId.partialCmp_eq,
    serialCmp_swap s, hcmp]
  exact ⟨rfl, rfl⟩

theorem not_gt_self (s : TcpLeaseSeq) : s.gt s = false ∧ s.lt s = false := by
  rw [TunnelId.gt, TunnelId.lt, TunnelId.partialCmp_eq, serialCmp_self]
  exact ⟨rfl, rfl⟩

/-! ## Local ids -/

/-- `TCP_LOCAL_ID_HIGH_BIT`. -/
def tcpLocalIdHighBit : U32 := ⟨2 ^ 31, by decide⟩

/-- `!` of a `u32`. -/
def bitNot (x : U32) : U32 := ⟨2 ^ 32 - 1 - x.val, by omega⟩

/-- One pass of the loop of `next_local_id_value`, where `counter` is what `fetch_add` returns. -/
def localIdPass (form : TunnelForm) (counter : U32) : Option U32 :=
  let seq := counter &&& bitNot tcpLocalIdHighBit
  if seq = 0 then none
  else match form with
    | .active => some seq
    | .passive => some (tcpLocalIdHighBit ||| seq)

theorem masked_val (counter : U32) :
    (counter &&& bitNot tcpLocalIdHighBit).val = counter.val % 2 ^ 31 := by
  have hand : (counter &&& bitNot tcpLocalIdHighBit).val =
      (counter.val &&& (2 ^ 31 - 1)) % 2 ^ 32 := rfl
  have hlt : counter.val % 2 ^ 31 < 2 ^ 31 := Nat.mod_lt _ (by decide)
  rw [hand, Nat.and_two_pow_sub_one_eq_mod, Nat.mod_eq_of_lt (by omega)]

theorem highBit_or_val {seq : U32} (h : seq.val < 2 ^ 31) :
    (tcpLocalIdHighBit ||| seq).val = 2 ^ 31 + seq.val := by
  have hor : (tcpLocalIdHighBit ||| seq).val = (2 ^ 31 ||| seq.val) % 2 ^ 32 := rfl
  have hadd := Nat.two_pow_add_eq_or_of_lt h 1
  rw [Nat.mul_one] at hadd
  rw [hor, ← hadd, Nat.mod_eq_of_lt (by omega)]

/-- The bit that tells the ends apart. -/
def TunnelForm.highBit : TunnelForm → Nat
  | .active => 0
  | .passive => 2 ^ 31

theorem localIdPass_eq_none {form : TunnelForm} {counter : U32} :
    localIdPass form counter = none ↔ counter.val % 2 ^ 31 = 0 := by
  have hmasked := masked_val counter
  unfold localIdPass
  dsimp only
  split_ifs with hzero
  · rw [hzero] at hmasked
    exact iff_of_true rfl hmasked.symm
  · have hne : counter.val % 2 ^ 31 ≠ 0 := by
      rw [← hmasked]
      exact fun heq => hzero (Fin.ext heq)
    refine iff_of_false ?_ hne
    cases form <;> exact Option.some_ne_none _

theorem localIdPass_val {form : TunnelForm} {counter id : U32}
    (h : localIdPass form counter = some id) :
    id.val = form.highBit + counter.val % 2 ^ 31 ∧ counter.val % 2 ^ 31 ≠ 0 := by
  have hmasked := masked_val counter
  have hlt : counter.val % 2 ^ 31 < 2 ^ 31 := Nat.mod_lt _ (by decide)
  have hne : counter.val % 2 ^ 31 ≠ 0 := by
    intro hzero
    rw [localIdPass_eq_none.mpr hzero] at h
    cases h
  refine ⟨?_, hne⟩
  unfold localIdPass at h
  dsimp only at h
  split_ifs at h
  cases form with
  | active =>
    cases h
    rw [hmasked, TunnelForm.highBit, Nat.zero_add]
  | passive =>
    cases h
    rw [highBit_or_val (by omega), hmasked, TunnelForm.highBit]

theorem localIdPass_ne_zero {form : TunnelForm} {counter id : U32}
    (h : localIdPass form counter = some id) : id ≠ 0 := by
  obtain ⟨hval, hne⟩ := localIdPass_val h
  rintro rfl
  have hzero : (0 : U32).val = 0 := rfl
  omega

theorem counter_succ (counter : U32) : (counter + 1).val % 2 ^ 31 = (counter.val + 1) % 2 ^ 31 := by
  have hadd : (counter + 1).val = (counter.val + 1) % 2 ^ 32 := rfl
  rw [hadd, Nat.mod_mod_of_dvd _ (by decide)]

/-- The loop, where no other task comes between its passes; with the counter that it leaves. -/
def nextLocalIdValue (form : TunnelForm) (counter : U32) : U32 × U32 :=
  match h : localIdPass form counter with
  | some id => (id, counter + 1)
  | none => nextLocalIdValue form (counter + 1)
termination_by if counter.val % 2 ^ 31 = 0 then 1 else 0
decreasing_by
  have hzero := localIdPass_eq_none.mp h
  have hsucc := counter_succ counter
  rw [if_pos hzero, if_neg (by omega)]
  exact Nat.one_pos

/-- What `n` passes return, with the counter at `counter` before the first one. -/
def issued (form : TunnelForm) : U32 → Nat → List U32
  | _, 0 => []
  | counter, n + 1 => (localIdPass form counter).toList ++ issued form (counter + 1) n

/-- `n` calls, one after another. -/
def allocations (form : TunnelForm) : U32 → Nat → List U32
  | _, 0 => []
  | counter, n + 1 =>
    let (id, counter) := nextLocalIdValue form counter
    id :: allocations form counter n

/-- A call is one pass that returns a number, and perhaps one before it that does not. -/
theorem nextLocalIdValue_cases (form : TunnelForm) (counter : U32) :
    (∃ id, localIdPass form counter = some id ∧
      nextLocalIdValue form counter = (id, counter + 1)) ∨
    localIdPass form counter = none ∧ ∃ id, localIdPass form (counter + 1) = some id ∧
      nextLocalIdValue form counter = (id, counter + 1 + 1) := by
  rw [nextLocalIdValue]
  split
  · next id hid => exact .inl ⟨id, hid, rfl⟩
  · next hnone =>
    refine .inr ⟨hnone, ?_⟩
    have hzero := localIdPass_eq_none.mp hnone
    have hsucc := counter_succ counter
    cases hnext : localIdPass form (counter + 1) with
    | none =>
      have := localIdPass_eq_none.mp hnext
      omega
    | some id =>
      refine ⟨id, rfl, ?_⟩
      rw [nextLocalIdValue]
      split
      · next id' hid' =>
        cases hnext.symm.trans hid'
        rfl
      · next hnone' => cases hnext.symm.trans hnone'

theorem nextLocalIdValue_pass (form : TunnelForm) (counter : U32) :
    ∃ c, localIdPass form c = some (nextLocalIdValue form counter).1 := by
  rcases nextLocalIdValue_cases form counter with ⟨id, hid, heq⟩ | ⟨-, id, hid, heq⟩
  · exact ⟨counter, by rw [heq, hid]⟩
  · exact ⟨counter + 1, by rw [heq, hid]⟩

theorem allocations_eq_issued (form : TunnelForm) (counter : U32) (n : Nat) :
    ∃ m, allocations form counter n = issued form counter m := by
  induction n generalizing counter with
  | zero => exact ⟨0, rfl⟩
  | succ n ih =>
    rw [allocations]
    rcases nextLocalIdValue_cases form counter with ⟨id, hid, heq⟩ | ⟨hnone, id, hid, heq⟩
    · obtain ⟨m, hm⟩ := ih (counter + 1)
      refine ⟨m + 1, ?_⟩
      simp only [heq, hm, issued, hid]
      rfl
    · obtain ⟨m, hm⟩ := ih (counter + 1 + 1)
      refine ⟨m + 2, ?_⟩
      simp only [heq, hm, issued, hnone, hid]
      rfl

/-! ## Consecutive ids -/

/-- The number in a local id. -/
def lowBits (id : U32) : Nat := id.val % 2 ^ 31

theorem localIdPass_lowBits {form : TunnelForm} {counter id : U32}
    (h : localIdPass form counter = some id) : lowBits id = counter.val % 2 ^ 31 := by
  rw [lowBits, (localIdPass_val h).1]
  cases form with
  | active => rw [TunnelForm.highBit, Nat.zero_add, Nat.mod_mod]
  | passive => rw [TunnelForm.highBit, Nat.add_mod_left, Nat.mod_mod]

/-- The number of the next id, whatever the counter holds. -/
def nextLowBits (counter : U32) : Nat :=
  if counter.val % 2 ^ 31 = 0 then 1 else counter.val % 2 ^ 31

theorem issued_head {form : TunnelForm} {counter : U32} {n : Nat} {id : U32}
    (h : (issued form counter n).head? = some id) : lowBits id = nextLowBits counter := by
  induction n generalizing counter with
  | zero => cases h
  | succ n ih =>
    rw [issued] at h
    cases hpass : localIdPass form counter with
    | some id' =>
      rw [hpass] at h
      cases h
      rw [localIdPass_lowBits hpass, nextLowBits, if_neg (localIdPass_val hpass).2]
    | none =>
      rw [hpass] at h
      have hzero := localIdPass_eq_none.mp hpass
      have hsucc := counter_succ counter
      rw [ih h, nextLowBits, nextLowBits, if_pos hzero, if_neg (by omega)]
      omega

/-- The numbers follow on one another, and wrap around to `1`. -/
theorem issued_chain (form : TunnelForm) (counter : U32) (n : Nat) :
    ((issued form counter n).map lowBits).IsChain fun a b => b = a % (2 ^ 31 - 1) + 1 := by
  induction n generalizing counter with
  | zero => exact .nil
  | succ n ih =>
    rw [issued]
    cases hpass : localIdPass form counter with
    | none => exact ih (counter + 1)
    | some id =>
      have hne := (localIdPass_val hpass).2
      have hsucc := counter_succ counter
      refine List.isChain_cons.mpr ⟨fun b hb => ?_, ih (counter + 1)⟩
      rw [List.head?_map] at hb
      obtain ⟨id', hhead, rfl⟩ := Option.map_eq_some_iff.mp hb
      rw [issued_head hhead, localIdPass_lowBits hpass, nextLowBits]
      split_ifs <;> omega

theorem mem_issued {form : TunnelForm} {counter : U32} {n : Nat} {id : U32}
    (h : id ∈ issued form counter n) : ∃ c, localIdPass form c = some id := by
  induction n generalizing counter with
  | zero => cases h
  | succ n ih =>
    rw [issued, List.mem_append] at h
    rcases h with hid | hrest
    · exact ⟨counter, Option.mem_toList.mp hid⟩
    · exact ih hrest

theorem issued_window_nodup {form : TunnelForm} {counter : U32} {n : Nat} {window : List U32}
    (h : window <:+: issued form counter n) (hlen : window.length ≤ 2 ^ 31 - 1) : window.Nodup := by
  refine List.Nodup.of_map lowBits (nodup_of_cycle (m := 2 ^ 31 - 1) ?_ (fun x hx => ?_) ?_)
  · have hchain := issued_chain form counter n
    obtain ⟨before, after, hsplit⟩ := h
    rw [← hsplit, List.map_append, List.map_append] at hchain
    exact hchain.left_of_append.right_of_append
  · obtain ⟨id, hid, rfl⟩ := List.mem_map.mp hx
    obtain ⟨c, hc⟩ := mem_issued (h.subset hid)
    have hne := (localIdPass_val hc).2
    rw [localIdPass_lowBits hc]
    omega
  · rwa [List.length_map]

/-- **Numbers.**  The order of lease sequences follows `next_lease_seq` for half of the range, also
where it wraps around; local ids are not `0`, tell the ends apart, and come again after a whole
range. -/
theorem numbers_sound :
    (∀ s : TcpLeaseSeq, s ≠ 0 → ∀ k, 1 ≤ k → k ≤ 2 ^ 31 - 1 →
      nextLeaseSeq^[k] s ≠ 0 ∧ (nextLeaseSeq^[k] s).gt s = true ∧
        s.lt (nextLeaseSeq^[k] s) = true) ∧
    (∀ s : TcpLeaseSeq, s.gt s = false ∧ s.lt s = false) ∧
    (∀ form counter, (nextLocalIdValue form counter).1 ≠ 0) ∧
    (∀ counter counter',
      (nextLocalIdValue .active counter).1 ≠ (nextLocalIdValue .passive counter').1) ∧
    (∀ form counter n, ∃ m, allocations form counter n = issued form counter m) ∧
    ∀ form counter n window, window <:+: issued form counter n →
      window.length ≤ 2 ^ 31 - 1 → window.Nodup := by
  refine ⟨fun s hs k hpos hk => ⟨?_, nextLeaseSeq_iterate_gt hs hpos hk⟩, not_gt_self,
    fun form counter => ?_, fun counter counter' heq => ?_, allocations_eq_issued,
    fun _ _ _ _ hwindow hlen => issued_window_nodup hwindow hlen⟩
  · exact succNonzero_iterate_ne_zero (by decide) hs k
  · obtain ⟨c, hc⟩ := nextLocalIdValue_pass form counter
    exact localIdPass_ne_zero hc
  · obtain ⟨c, hc⟩ := nextLocalIdValue_pass .active counter
    obtain ⟨c', hc'⟩ := nextLocalIdValue_pass .passive counter'
    have hactive := (localIdPass_val hc).1
    have hpassive := (localIdPass_val hc').1
    have hval := congrArg Fin.val heq
    simp only [TunnelForm.highBit] at hactive hpassive
    omega

end Tcp

end BuckyP2p
