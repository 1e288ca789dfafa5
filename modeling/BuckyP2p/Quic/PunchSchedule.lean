import BuckyP2p.Lib.Durations
import Mathlib.Data.List.Basic

/-!
# BuckyP2p.Quic.PunchSchedule — when the packets of a UDP punch are sent (`quic/listener.rs`)

`run_udp_punch_burst` sends at the start offset of the intent, and then at what
`udp_punch_next_offset` says: an interval later, or, where the send took longer than that, at the
first slot that is an interval away.  `udp_punch_offsets_for_deadline` lists the slots.

A round of the loop reads the clock three times: at its beginning, when it has slept, and when the
packet is sent.  The rounds end where the listener is closed; what comes before the first offset
(the endpoint may not be punched, there is no socket) is left out.
-/

namespace BuckyP2p.Quic.PunchSchedule

open Lib Lib.Duration

/-- `UDP_PUNCH_INTERVAL`. -/
def udpPunchInterval : Duration := ofMillis 50 (by decide)

/-- `UDP_PUNCH_ACTIVE_START_OFFSET`. -/
def udpPunchActiveStartOffset : Duration := ofMillis 250 (by decide)

/-- `UDP_PUNCH_REVERSE_START_OFFSET`. -/
def udpPunchReverseStartOffset : Duration := ofMillis 0 (by decide)

/-- Of the intent only `is_reverse` is looked at. -/
def udpPunchStartOffset (isReverse : Bool) : Duration :=
  if isReverse then udpPunchReverseStartOffset else udpPunchActiveStartOffset

section Burst

/- The interval is a parameter here, the constant is put in at the end. -/
variable (interval : Duration)

/-- `1 + (overdue_nanos - 1) / interval_nanos`. -/
def intervalsToSkip (overdue : Duration) : Arith U128 := do
  let overdueNanos ← Arith.sub overdue.asNanos 1
  Arith.add 1 (← Arith.div overdueNanos interval.asNanos)

/-- The branch of `udp_punch_next_offset` for a send that was too long. -/
def lateOffset (regularNext elapsed : Duration) : Arith (Option Duration) := do
  let some earliestNext := checkedAdd elapsed interval | return none
  let some overdue := checkedSub earliestNext regularNext | return none
  let intervalsToSkip ← intervalsToSkip interval overdue
  let some intervalsToSkip := Arith.tryU32 intervalsToSkip | return none
  let some skipped := checkedMul interval intervalsToSkip | return none
  return checkedAdd regularNext skipped

def nextOffset (currentOffset elapsed maxDuration : Duration) : Arith (Option Duration) :=
  match checkedAdd currentOffset interval with
  | none => return none
  | some regularNext =>
    if elapsed < regularNext then return (some regularNext).filter (· ≤ maxDuration)
    else do return (← lateOffset interval regularNext elapsed).filter (· ≤ maxDuration)

/-- What `started_at.elapsed()` reads in a round. -/
structure Round where
  begun : Duration
  woken : Duration
  sent : Duration
  deriving DecidableEq

/-- The loop of `run_udp_punch_burst`: the offsets at which it sends. -/
def sendsFrom (maxDuration : Duration) : Duration → List Round → Arith (List Duration)
  | _, [] => return []
  | offset, round :: rest =>
    if maxDuration < round.begun then return []
    else if maxDuration < round.woken then return []
    else do
      let some next ← nextOffset interval offset round.sent maxDuration | return [offset]
      return offset :: (← sendsFrom maxDuration next rest)

variable {interval}

/-- The slots that are left become fewer. -/
theorem slot_lt {deadline offset next : Duration} (hpos : 0 < interval.nanos)
    (h : checkedAdd offset interval = some next) (hle : ¬ deadline < next) :
    deadline.nanos - next.nanos < deadline.nanos - offset.nanos := by
  have hnanos := checkedAdd_some h
  rw [Duration.not_lt, le_def] at hle
  omega

/-- The loop of `udp_punch_offsets_for_deadline`. -/
def offsetsFrom (hpos : 0 < interval.nanos) (deadline offset : Duration) : List Duration :=
  offset ::
    match _ : checkedAdd offset interval with
    | none => []
    | some next => if _ : deadline < next then [] else offsetsFrom hpos deadline next
  termination_by deadline.nanos - offset.nanos
  decreasing_by exact slot_lt hpos (by assumption) (by assumption)

end Burst

theorem udpPunchInterval_pos : 0 < udpPunchInterval.nanos := by decide

def udpPunchNextOffset (currentOffset elapsed maxDuration : Duration) : Arith (Option Duration) :=
  nextOffset udpPunchInterval currentOffset elapsed maxDuration

def udpPunchOffsetsForDeadline (isReverse : Bool) (maxDuration : Duration) : List Duration :=
  if maxDuration < udpPunchStartOffset isReverse then []
  else offsetsFrom udpPunchInterval_pos maxDuration (udpPunchStartOffset isReverse)

def runUdpPunchBurst (isReverse : Bool) (maxDuration : Duration) (rounds : List Round) :
    Arith (List Duration) :=
  if maxDuration < udpPunchStartOffset isReverse then return []
  else sendsFrom udpPunchInterval maxDuration (udpPunchStartOffset isReverse) rounds

/-! ## The next offset -/

section NextOffset

variable {interval : Duration} {regularNext elapsed : Duration}

theorem intervalsToSkip_val (overdue : Duration) (hpos : 0 < interval.nanos) (h : 0 < overdue.nanos) :
    ∃ count, intervalsToSkip interval overdue = .ok count ∧
      count.val = 1 + (overdue.nanos - 1) / interval.nanos := by
  have hwide : durationBound ≤ 2 ^ 127 := by decide
  have hone : (1 : U128).val = 1 := by decide
  obtain ⟨less, hsub, hless⟩ := Arith.sub_val (a := overdue.asNanos) (b := 1) (hone.trans_le h)
  obtain ⟨quotient, hdiv, hquotient⟩ :=
    Arith.div_val (a := less) (b := interval.asNanos) (Nat.pos_iff_ne_zero.mp hpos)
  have hvalue : quotient.val = (overdue.nanos - 1) / interval.nanos := by
    rw [hquotient, hless, hone]
    rfl
  have hle : quotient.val ≤ overdue.nanos - 1 := hvalue.trans_le (Nat.div_le_self ..)
  obtain ⟨count, hadd, hcount⟩ := Arith.add_val (a := 1) (b := quotient) (by
    have := overdue.isLt
    omega)
  refine ⟨count, ?_, by rw [hcount, hone, hvalue]⟩
  rw [intervalsToSkip, hsub, Arith.ok_bind, hdiv, Arith.ok_bind, hadd]

/-- How many intervals a late send skips. -/
def skipCount (interval regularNext elapsed : Duration) : Nat :=
  1 + (elapsed.nanos + interval.nanos - regularNext.nanos - 1) / interval.nanos

/-- The slot after those that are skipped. -/
def slotAfter (interval regularNext elapsed : Duration) : Nat :=
  regularNext.nanos + interval.nanos * skipCount interval regularNext elapsed

/-- It is an interval away from `elapsed`, and less than two. -/
theorem slotAfter_bounds (regularNext elapsed : Duration) (hpos : 0 < interval.nanos) (h : regularNext ≤ elapsed) :
    elapsed.nanos + interval.nanos ≤ slotAfter interval regularNext elapsed ∧
      slotAfter interval regularNext elapsed < elapsed.nanos + 2 * interval.nanos := by
  rw [le_def] at h
  unfold slotAfter skipCount
  generalize hn : elapsed.nanos + interval.nanos - regularNext.nanos - 1 = n
  have hlow := Nat.mul_div_le n interval.nanos
  have hhigh := Nat.lt_mul_div_succ n hpos
  rw [Nat.mul_add, Nat.mul_one] at hhigh ⊢
  omega

/-- What the branch for a late send returns: a slot, unless it is no `Duration` or too many are
skipped. -/
def lateSlot (interval regularNext elapsed : Duration) : Option Duration :=
  if h : skipCount interval regularNext elapsed < 2 ^ 32 ∧
      slotAfter interval regularNext elapsed < durationBound
  then some ⟨_, h.2⟩ else none

/-- What `lateOffset` does with the number of intervals that are skipped. -/
theorem skipped_eq (interval regularNext : Duration) (count : U128) :
    (do let some intervalsToSkip := Arith.tryU32 count | return none
        let some skipped := checkedMul interval intervalsToSkip | return none
        return checkedAdd regularNext skipped : Arith (Option Duration)) =
      .ok (if h : count.val < 2 ^ 32 ∧
          regularNext.nanos + interval.nanos * count.val < durationBound
        then some ⟨_, h.2⟩ else none) := by
  by_cases hcast : count.val < 2 ^ 32
  · rw [Arith.tryU32_of_lt hcast]
    by_cases hmul : interval.nanos * count.val < durationBound
    · simp only [checkedMul_of_lt (n := ⟨_, hcast⟩) hmul]
      by_cases hsum : regularNext.nanos + interval.nanos * count.val < durationBound
      · rw [checkedAdd_of_lt (b := ⟨_, hmul⟩) hsum, dif_pos ⟨hcast, hsum⟩]
        rfl
      · rw [checkedAdd_eq_none (b := ⟨_, hmul⟩) (Nat.not_lt.mp hsum), dif_neg fun h => hsum h.2]
        rfl
    · simp only [checkedMul_eq_none (n := ⟨_, hcast⟩) (Nat.not_lt.mp hmul)]
      rw [dif_neg fun h => hmul (by omega)]
      rfl
  · rw [Arith.tryU32_eq_none (Nat.not_lt.mp hcast), dif_neg fun h => hcast h.1]
    rfl

theorem lateOffset_eq (hpos : 0 < interval.nanos) (h : regularNext ≤ elapsed) :
    lateOffset interval regularNext elapsed = .ok (lateSlot interval regularNext elapsed) := by
  have hle : regularNext.nanos ≤ elapsed.nanos := h
  obtain ⟨hlow, hhigh⟩ := slotAfter_bounds _ _ hpos h
  unfold lateOffset
  by_cases hadd : elapsed.nanos + interval.nanos < durationBound
  · have hover : (⟨_, hadd⟩ : Duration).nanos - regularNext.nanos < durationBound := by
      dsimp only
      omega
    have hlate : regularNext.nanos ≤ (⟨_, hadd⟩ : Duration).nanos := by
      dsimp only
      omega
    obtain ⟨count, hskip, hcount⟩ :=
      intervalsToSkip_val ⟨_, hover⟩ hpos (by dsimp only; omega)
    have hvalue : count.val = skipCount interval regularNext elapsed := by
      rw [hcount, skipCount]
    simp only [checkedAdd_of_lt hadd, checkedSub_of_le (a := ⟨_, hadd⟩) hlate, hskip, Arith.ok_bind]
    refine (skipped_eq interval regularNext count).trans (congrArg Except.ok ?_)
    simp only [lateSlot, slotAfter, ← hvalue]
  · have hnone : lateSlot interval regularNext elapsed = none := dif_neg (by omega)
    rw [checkedAdd_eq_none (by omega), hnone]
    rfl

/-- How many slots of the plan the next offset passes over. -/
def slotsSkipped (interval offset elapsed : Duration) : Nat :=
  if elapsed.nanos < offset.nanos + interval.nanos then 0
  else 1 + (elapsed.nanos - offset.nanos - 1) / interval.nanos

theorem slotsSkipped_of_lt {offset : Duration}
    (h : elapsed.nanos < offset.nanos + interval.nanos) :
    slotsSkipped interval offset elapsed = 0 := if_pos h

theorem slotsSkipped_of_le {offset : Duration} (hnext : checkedAdd offset interval = some regularNext)
    (h : regularNext ≤ elapsed) :
    slotsSkipped interval offset elapsed = skipCount interval regularNext elapsed := by
  rw [le_def, checkedAdd_some hnext] at h
  rw [slotsSkipped, if_neg (Nat.not_lt.mpr h), skipCount, checkedAdd_some hnext, Nat.add_comm offset.nanos,
    Nat.add_comm elapsed.nanos, Nat.add_sub_add_left]

theorem lateSlot_eq_some_iff {slot : Duration} :
    lateSlot interval regularNext elapsed = some slot ↔
      skipCount interval regularNext elapsed < 2 ^ 32 ∧
        slot.nanos = slotAfter interval regularNext elapsed := by
  unfold lateSlot
  split
  case isTrue h =>
    rw [Option.some_inj]
    exact ⟨fun heq => ⟨h.1, congrArg nanos heq.symm⟩, fun heq => Duration.ext heq.2.symm⟩
  case isFalse h =>
    exact ⟨by rintro ⟨⟩, fun heq => absurd ⟨heq.1, heq.2 ▸ slot.isLt⟩ h⟩

/-- The slot that follows a send at `offset`, done at `elapsed`. -/
def nextSlot (interval offset elapsed : Duration) : Option Duration :=
  match checkedAdd offset interval with
  | none => none
  | some regularNext =>
    if elapsed < regularNext then some regularNext else lateSlot interval regularNext elapsed

variable {offset maxDuration next : Duration}

theorem nextOffset_eq (hpos : 0 < interval.nanos) :
    nextOffset interval offset elapsed maxDuration =
      .ok ((nextSlot interval offset elapsed).filter (· ≤ maxDuration)) := by
  unfold nextOffset nextSlot
  cases checkedAdd offset interval with
  | none => rfl
  | some regularNext =>
    by_cases hlt : elapsed < regularNext
    · simp only [if_pos hlt]
      rfl
    · simp only [if_neg hlt, lateOffset_eq hpos (Duration.not_lt.mp hlt)]
      rfl

/-- It is a slot of the plan; too many slots passed over end the burst. -/
theorem nextSlot_eq_some_iff :
    nextSlot interval offset elapsed = some next ↔
      slotsSkipped interval offset elapsed < 2 ^ 32 ∧
        next.nanos = offset.nanos + interval.nanos * (1 + slotsSkipped interval offset elapsed) := by
  unfold nextSlot
  rw [Nat.mul_add, Nat.mul_one, ← Nat.add_assoc]
  by_cases hregular : offset.nanos + interval.nanos < durationBound
  · have hadd := checkedAdd_of_lt (a := offset) (b := interval) hregular
    rw [hadd]
    by_cases hlt : elapsed.nanos < offset.nanos + interval.nanos
    · rw [slotsSkipped_of_lt hlt]
      simp only [Nat.mul_zero, Nat.add_zero]
      rw [if_pos (lt_def.mpr hlt), Option.some_inj]
      exact ⟨fun heq => ⟨by decide, congrArg nanos heq.symm⟩, fun heq => Duration.ext heq.2.symm⟩
    · have hle : (⟨_, hregular⟩ : Duration) ≤ elapsed := Nat.not_lt.mp hlt
      rw [slotsSkipped_of_le hadd hle]
      exact (if_neg (mt lt_def.mp hlt)).congr_left.trans lateSlot_eq_some_iff
  · rw [checkedAdd_eq_none (Nat.not_lt.mp hregular)]
    refine ⟨by rintro ⟨⟩, fun heq => absurd (heq.2 ▸ next.isLt) ?_⟩
    omega

theorem slot_late_bounds (hpos : 0 < interval.nanos)
    (hlate : offset.nanos + interval.nanos ≤ elapsed.nanos)
    (h : nextSlot interval offset elapsed = some next) :
    elapsed.nanos + interval.nanos ≤ next.nanos ∧
      next.nanos < elapsed.nanos + 2 * interval.nanos := by
  have hnext : checkedAdd offset interval = some ⟨_, hlate.trans_lt elapsed.isLt⟩ :=
    checkedAdd_of_lt _
  have hbounds := slotAfter_bounds ⟨_, hlate.trans_lt elapsed.isLt⟩ elapsed hpos hlate
  rw [(nextSlot_eq_some_iff.mp h).2, slotsSkipped_of_le hnext hlate, Nat.mul_add, Nat.mul_one,
    ← Nat.add_assoc]
  exact hbounds

end NextOffset

/-! ## The plan -/

section Plan

variable {interval deadline offset next : Duration} (hpos : 0 < interval.nanos)

theorem offsetsFrom_head (deadline offset : Duration) :
    ∃ tail, offsetsFrom hpos deadline offset = offset :: tail := by
  rw [offsetsFrom]
  exact ⟨_, rfl⟩

theorem offsetsFrom_cases (deadline offset : Duration) :
    offsetsFrom hpos deadline offset = [offset] ∨
      ∃ later, checkedAdd offset interval = some later ∧ ¬ deadline < later ∧
        offsetsFrom hpos deadline offset = offset :: offsetsFrom hpos deadline later := by
  rw [offsetsFrom]
  split
  case h_1 => exact .inl rfl
  case h_2 later hlater =>
    by_cases hlt : deadline < later
    · exact .inl (by rw [dif_pos hlt])
    · exact .inr ⟨later, hlater, hlt, by rw [dif_neg hlt]⟩

theorem head_le_of_mem_offsetsFrom {slot : Duration} (h : slot ∈ offsetsFrom hpos deadline offset) :
    offset ≤ slot := by
  induction offset using offsetsFrom.induct hpos deadline with
  | case1 offset ih =>
    obtain heq | ⟨later, hadd, hle, heq⟩ := offsetsFrom_cases hpos deadline offset
    · rw [heq, List.mem_singleton] at h
      exact h ▸ Nat.le_refl _
    · rw [heq, List.mem_cons] at h
      obtain rfl | h := h
      · exact Nat.le_refl _
      · have hslot := le_def.mp (ih later hadd hle h)
        rw [checkedAdd_some hadd] at hslot
        exact (Nat.le_add_right ..).trans hslot

theorem offsetsFrom_sorted (deadline offset : Duration) :
    (offsetsFrom hpos deadline offset).Pairwise (· < ·) := by
  induction offset using offsetsFrom.induct hpos deadline with
  | case1 offset ih =>
    obtain heq | ⟨later, hadd, hle, heq⟩ := offsetsFrom_cases hpos deadline offset
    · rw [heq]
      exact List.pairwise_singleton ..
    · rw [heq]
      refine .cons (fun slot hslot => ?_) (ih later hadd hle)
      have hlater := le_def.mp (head_le_of_mem_offsetsFrom hpos hslot)
      rw [checkedAdd_some hadd] at hlater
      exact (Nat.lt_add_of_pos_right hpos).trans_le hlater

/-- The slots from `offset` on are `offset`, and those from the next one on. -/
theorem offsetsFrom_succ (later : Duration) (hlater : later.nanos = offset.nanos + interval.nanos)
    (hle : later ≤ deadline) :
    offsetsFrom hpos deadline offset = offset :: offsetsFrom hpos deadline later := by
  have hadd : checkedAdd offset interval = some later := by
    rw [checkedAdd_of_lt (hlater ▸ later.isLt)]
    exact congrArg some (Duration.ext hlater.symm)
  rw [offsetsFrom]
  split
  case h_1 hnone => cases hnone.symm.trans hadd
  case h_2 slot hslot =>
    cases Option.some.inj (hslot.symm.trans hadd)
    rw [dif_neg (Duration.not_lt.mpr hle)]

/-- The slots from a later slot on end the plan. -/
theorem offsetsFrom_suffix {n : Nat} (hnext : next.nanos = offset.nanos + interval.nanos * n)
    (hle : next ≤ deadline) :
    offsetsFrom hpos deadline next <:+ offsetsFrom hpos deadline offset := by
  induction n generalizing offset with
  | zero =>
    cases Duration.ext (a := next) (b := offset) hnext
    exact List.suffix_refl _
  | succ n ih =>
    have hbound := next.isLt
    have hlater : offset.nanos + interval.nanos ≤ next.nanos := by
      rw [hnext, Nat.mul_succ]
      omega
    rw [offsetsFrom_succ hpos ⟨_, hlater.trans_lt hbound⟩ rfl (hlater.trans hle)]
    refine (ih ?_).trans (List.suffix_cons ..)
    rw [Nat.mul_succ] at hnext
    dsimp only
    omega

end Plan

/-! ## A burst -/

section Sends

variable {interval maxDuration offset : Duration} {round : Round} {rest : List Round}

/-- The packet of `offset` is sent, and that is done before the next slot. -/
structure InTime (interval maxDuration offset : Duration) (round : Round) : Prop where
  begun : round.begun ≤ maxDuration
  woken : round.woken ≤ maxDuration
  sent : round.sent.nanos < offset.nanos + interval.nanos

/-- What a burst promises, of the offsets at which it sends. -/
structure Scheduled (interval maxDuration : Duration) (plan : List Duration) (rounds : List Round)
    (offsets : List Duration) : Prop where
  planned : offsets.Sublist plan
  late : ∀ {i : Nat} {round : Round} {offset next : Duration}, rounds[i]? = some round →
    offsets[i]? = some offset → offsets[i + 1]? = some next →
      offset.nanos + interval.nanos ≤ round.sent.nanos →
        round.sent.nanos + interval.nanos ≤ next.nanos ∧
          next.nanos < round.sent.nanos + 2 * interval.nanos
  whole : List.Forall₂ (InTime interval maxDuration) plan (rounds.take plan.length) →
    offsets = plan

theorem sendsFrom_cons (hpos : 0 < interval.nanos) :
    sendsFrom interval maxDuration offset (round :: rest) =
      if maxDuration < round.begun then .ok []
      else if maxDuration < round.woken then .ok []
      else match (nextSlot interval offset round.sent).filter (· ≤ maxDuration) with
        | none => .ok [offset]
        | some next => do return offset :: (← sendsFrom interval maxDuration next rest) := by
  rw [sendsFrom, nextOffset_eq hpos, Arith.ok_bind]
  cases (nextSlot interval offset round.sent).filter (· ≤ maxDuration) <;> rfl

theorem filter_le_eq_some {slot : Option Duration} {next : Duration} :
    slot.filter (· ≤ maxDuration) = some next ↔ slot = some next ∧ next ≤ maxDuration := by
  rw [Option.filter_eq_some_iff, decide_eq_true_iff]

theorem Scheduled.nil {plan : List Duration} {rounds : List Round}
    (h : ¬ List.Forall₂ (InTime interval maxDuration) plan (rounds.take plan.length)) :
    Scheduled interval maxDuration plan rounds [] :=
  ⟨List.nil_sublist _, fun _ h => (nofun : _ = some _ → _) h, fun htime => absurd htime h⟩

/-- A round whose packet is not sent ends the burst. -/
theorem not_all_inTime (hpos : 0 < interval.nanos)
    (h : ¬ InTime interval maxDuration offset round) :
    ¬ List.Forall₂ (InTime interval maxDuration) (offsetsFrom hpos maxDuration offset)
      ((round :: rest).take (offsetsFrom hpos maxDuration offset).length) := by
  obtain ⟨tail, heq⟩ := offsetsFrom_head hpos maxDuration offset
  rw [heq, List.length_cons, List.take_succ_cons, List.forall₂_cons]
  exact fun htime => h htime.1

theorem sendsFrom_head (hpos : 0 < interval.nanos) {rounds : List Round} {first : Duration}
    {offsets : List Duration}
    (h : sendsFrom interval maxDuration offset rounds = .ok (first :: offsets)) :
    first = offset := by
  cases rounds with
  | nil => cases h
  | cons round rest =>
    rw [sendsFrom_cons hpos] at h
    split at h
    · cases h
    split at h
    · cases h
    split at h
    · cases h
      rfl
    case h_2 next _ =>
      cases htail : sendsFrom interval maxDuration next rest with
      | error stop => rw [htail] at h; cases h
      | ok tail =>
        rw [htail] at h
        cases h
        rfl

/-- After a send the plan goes on, and its slots end with those from the next send on. -/
theorem offsetsFrom_next (hpos : 0 < interval.nanos) {elapsed next : Duration}
    (hnext : nextSlot interval offset elapsed = some next) (hle : next ≤ maxDuration) :
    ∃ later, offsetsFrom hpos maxDuration offset = offset :: offsetsFrom hpos maxDuration later ∧
      offsetsFrom hpos maxDuration next <:+ offsetsFrom hpos maxDuration later ∧
      (elapsed.nanos < offset.nanos + interval.nanos → next = later) := by
  have hnanos := (nextSlot_eq_some_iff.mp hnext).2
  rw [Nat.mul_add, Nat.mul_one, ← Nat.add_assoc] at hnanos
  have hlater : offset.nanos + interval.nanos ≤ next.nanos := hnanos ▸ Nat.le_add_right ..
  refine ⟨⟨_, hlater.trans_lt next.isLt⟩, offsetsFrom_succ hpos _ rfl (hlater.trans hle),
    offsetsFrom_suffix hpos hnanos hle, fun htime => Duration.ext ?_⟩
  rwa [slotsSkipped_of_lt htime, Nat.mul_zero, Nat.add_zero] at hnanos

/-- A send in time that is the last one has the last slot of the plan. -/
theorem offsetsFrom_last (hpos : 0 < interval.nanos) (elapsed : Duration)
    (htime : elapsed.nanos < offset.nanos + interval.nanos)
    (hnone : (nextSlot interval offset elapsed).filter (· ≤ maxDuration) = none) :
    offsetsFrom hpos maxDuration offset = [offset] := by
  obtain heq | ⟨later, hadd, hle, -⟩ := offsetsFrom_cases hpos maxDuration offset
  · exact heq
  · have hnext : nextSlot interval offset elapsed = some later := by
      rw [nextSlot_eq_some_iff, slotsSkipped_of_lt htime, checkedAdd_some hadd, Nat.add_zero,
        Nat.mul_one]
      exact ⟨by decide, rfl⟩
    cases hnone.symm.trans (filter_le_eq_some.mpr ⟨hnext, Duration.not_lt.mp hle⟩)

theorem sendsFrom_scheduled (hpos : 0 < interval.nanos) (maxDuration offset : Duration)
    (rounds : List Round) :
    ∃ offsets, sendsFrom interval maxDuration offset rounds = .ok offsets ∧
      Scheduled interval maxDuration (offsetsFrom hpos maxDuration offset) rounds offsets := by
  induction rounds generalizing offset with
  | nil =>
    obtain ⟨tail, heq⟩ := offsetsFrom_head hpos maxDuration offset
    refine ⟨[], rfl, .nil ?_⟩
    rw [heq, List.take_nil]
    nofun
  | cons round rest ih =>
    rw [sendsFrom_cons hpos]
    by_cases hbegun : maxDuration < round.begun
    · refine ⟨[], if_pos hbegun, .nil (not_all_inTime hpos fun h => ?_)⟩
      exact Duration.not_lt.mpr h.begun hbegun
    by_cases hwoken : maxDuration < round.woken
    · rw [if_neg hbegun]
      refine ⟨[], if_pos hwoken, .nil (not_all_inTime hpos fun h => ?_)⟩
      exact Duration.not_lt.mpr h.woken hwoken
    rw [if_neg hbegun, if_neg hwoken]
    cases hnext : (nextSlot interval offset round.sent).filter (· ≤ maxDuration) with
    | none =>
      obtain ⟨tail, hhead⟩ := offsetsFrom_head hpos maxDuration offset
      refine ⟨[offset], rfl, ?_, fun _ _ h _ => (nofun : _ = some _ → _) h, fun htime => ?_⟩
      · rw [hhead]
        exact (List.nil_sublist _).cons_cons _
      · rw [hhead, List.length_cons, List.take_succ_cons, List.forall₂_cons] at htime
        exact (offsetsFrom_last hpos _ htime.1.sent hnext).symm
    | some next =>
      obtain ⟨hslot, hle⟩ := filter_le_eq_some.mp hnext
      obtain ⟨later, hplan, hsuffix, hsame⟩ := offsetsFrom_next hpos hslot hle
      obtain ⟨tail, htail, hscheduled⟩ := ih next
      refine ⟨offset :: tail, ?_, ?_, ?_, fun htime => ?_⟩
      · simp only [htail]
        rfl
      · rw [hplan]
        exact (hscheduled.planned.trans hsuffix.sublist).cons_cons _
      · intro i sent here after hround hhere hafter hlate
        cases i with
        | zero =>
          cases hround
          cases hhere
          cases tail with
          | nil => cases hafter
          | cons first more =>
            cases hafter
            cases sendsFrom_head hpos htail
            exact slot_late_bounds hpos hlate hslot
        | succ i => exact hscheduled.late hround hhere hafter hlate
      · rw [hplan, List.length_cons, List.take_succ_cons, List.forall₂_cons] at htime
        cases hsame htime.1.sent
        rw [hplan, hscheduled.whole htime.2]

end Sends

/-- What `udp_punch_next_offset` looks for: the slot that follows, before the deadline; if 2^32 slots
or more are passed over, their number is no `u32`, and there is none. -/
structure FollowingSlot (currentOffset elapsed maxDuration next : Duration) : Prop where
  skipped : slotsSkipped udpPunchInterval currentOffset elapsed < 2 ^ 32
  nanos : next.nanos = currentOffset.nanos +
    udpPunchInterval.nanos * (1 + slotsSkipped udpPunchInterval currentOffset elapsed)
  le : next ≤ maxDuration

/-- No operation of `u128` overflows on the way. -/
theorem udpPunchNextOffset_ok (currentOffset elapsed maxDuration : Duration) :
    ∃ result, udpPunchNextOffset currentOffset elapsed maxDuration = .ok result ∧
      ∀ next, result = some next ↔ FollowingSlot currentOffset elapsed maxDuration next := by
  refine ⟨_, nextOffset_eq udpPunchInterval_pos, fun next => ?_⟩
  rw [filter_le_eq_some, nextSlot_eq_some_iff]
  exact ⟨fun ⟨⟨hskipped, hnanos⟩, hle⟩ => ⟨hskipped, hnanos, hle⟩,
    fun h => ⟨⟨h.skipped, h.nanos⟩, h.le⟩⟩

/-- A burst never stops on an overflow.  It sends at slots of the plan, in their order; a send that
was too long is followed by one an interval later, and less than two; and where all are in time it
sends at all of them. -/
theorem runUdpPunchBurst_scheduled (isReverse : Bool) (maxDuration : Duration)
    (rounds : List Round) :
    ∃ offsets, runUdpPunchBurst isReverse maxDuration rounds = .ok offsets ∧
      offsets.Pairwise (· < ·) ∧
      Scheduled udpPunchInterval maxDuration (udpPunchOffsetsForDeadline isReverse maxDuration)
        rounds offsets ∧
      ∀ current elapsed, ∃ result, udpPunchNextOffset current elapsed maxDuration = .ok result ∧
        ∀ next, result = some next ↔ FollowingSlot current elapsed maxDuration next := by
  have hok := fun current elapsed => udpPunchNextOffset_ok current elapsed maxDuration
  unfold runUdpPunchBurst udpPunchOffsetsForDeadline
  by_cases hstart : maxDuration < udpPunchStartOffset isReverse
  · rw [if_pos hstart, if_pos hstart]
    exact ⟨[], rfl, .nil, ⟨.slnil, fun _ h => (nofun : _ = some _ → _) h, fun _ => rfl⟩, hok⟩
  · rw [if_neg hstart, if_neg hstart]
    obtain ⟨offsets, hsends, hscheduled⟩ := sendsFrom_scheduled udpPunchInterval_pos maxDuration
      (udpPunchStartOffset isReverse) rounds
    exact ⟨offsets, hsends, (offsetsFrom_sorted ..).sublist hscheduled.planned, hscheduled, hok⟩

def millis (n : Nat) (h : n < 2 ^ 64 := by decide) : Duration :=
  ofMillis n ((Nat.mul_lt_mul_of_pos_right h (by decide)).trans_le (by decide))

/-- The second packet of this burst is woken up for a millisecond after its slot, which is the
deadline; and a send of 2^32 intervals has nothing after it, however far the deadline is. -/
theorem lastSlot_missed :
    (runUdpPunchBurst true (millis 50)
        [⟨millis 0, millis 0, millis 1⟩, ⟨millis 1, millis 51, millis 51⟩] = .ok [millis 0] ∧
      udpPunchOffsetsForDeadline true (millis 50) = [millis 0, millis 50]) ∧
    udpPunchNextOffset (millis 0) (millis (2 ^ 32 * 50)) (millis (2 ^ 33 * 50)) = .ok none := by
  have hfirst : nextSlot udpPunchInterval (millis 0) (millis 1) = some (millis 50) :=
    nextSlot_eq_some_iff.mpr ⟨by decide, by decide⟩
  have hsecond : nextSlot udpPunchInterval (millis 50) (millis 50) = some (millis 100) :=
    nextSlot_eq_some_iff.mpr ⟨by decide, by decide⟩
  have hstart : udpPunchStartOffset true = millis 0 := by decide
  refine ⟨⟨?_, ?_⟩, ?_⟩
  · rw [runUdpPunchBurst, hstart, if_neg (by decide), sendsFrom_cons udpPunchInterval_pos,
      if_neg (by decide), if_neg (by decide), hfirst]
    have hmissed : sendsFrom udpPunchInterval (millis 50) (millis 50)
        [⟨millis 1, millis 51, millis 51⟩] = .ok [] := by
      rw [sendsFrom_cons udpPunchInterval_pos, if_neg (by decide), if_pos (by decide)]
    rw [filter_le_eq_some.mpr ⟨rfl, Nat.le_refl _⟩]
    simp only [hmissed]
    rfl
  · have hlast : offsetsFrom udpPunchInterval_pos (millis 50) (millis 50) = [millis 50] :=
      offsetsFrom_last udpPunchInterval_pos (millis 50) (by decide) (by rw [hsecond]; decide)
    rw [udpPunchOffsetsForDeadline, hstart, if_neg (by decide),
      offsetsFrom_succ udpPunchInterval_pos (millis 50) (by decide) (by decide), hlast]
  · obtain ⟨result, hok, hiff⟩ :=
      udpPunchNextOffset_ok (millis 0) (millis (2 ^ 32 * 50)) (millis (2 ^ 33 * 50))
    cases result with
    | none => exact hok
    | some next => exact absurd ((hiff next).mp rfl).skipped (by decide)

end BuckyP2p.Quic.PunchSchedule
