import Mathlib.Order.Bounds.Defs
import Mathlib.Tactic.IntervalCases
import Mathlib.Tactic.Linarith
import BuckyP2p.Lib.Integers
import BuckyP2p.NatProbe.Scheduler
import BuckyP2p.Rendezvous.EndpointCodec

/-!
# BuckyP2p.NatProbe.Prediction — the ports that a symmetric NAT may use next

`NatProfile::from_observations` and `NatPredictionHint` of `nat_type.rs`.  The plain arithmetic of
the source can overflow here, and the checked one returns `none`, so that the theorem says that
neither happens.

A hint keeps the first and the last observed port with the number and the step of the progression;
`is_usable_with` checks that these agree, so they also agree for a hint that was received.  A step
that is no `i32` fails its checked multiplication, so it needs no bound of its own.
-/

namespace BuckyP2p

open Lib

/-- `MAX_NAT_PREDICTION_PORTS`. -/
def maxNatPredictionPorts : Nat := 8

/-- The difference of the ports of two endpoints as `i32`. -/
def portStep (x y : Endpoint) : Arith Int := plain 32 ((y.addr.port.val : Int) - x.addr.port.val)

namespace NatPredictionHint

/-- Some two consecutive ports differ by something else. -/
def anyOtherStep (delta : Int) : List Endpoint → Arith Bool
  | x :: y :: rest => do
    if (← portStep x y) ≠ delta then return true
    anyOtherStep delta (y :: rest)
  | _ => return false

def fromObservations : List Endpoint → Arith (Option NatPredictionHint)
  | first :: second :: rest => do
    let observations := first :: second :: rest
    if observations.any fun ep => !Endpoint.isIpv4 ep.addr then return none
    if observations.any fun ep => ep.addr.ip ≠ first.addr.ip then return none
    let delta ← portStep first second
    if delta = 0 then return none
    if ← anyOtherStep delta observations then return none
    return some
      { firstObserved := first
        lastObserved := (second :: rest).getLast (by simp)
        sampleCount := ⟨min observations.length 65535, by omega⟩
        portDelta := delta
        parity :=
          if first.addr.port.val % 2 = second.addr.port.val % 2 then .same else .alternating }
  | _ => return none

def isUsableWith (hint : NatPredictionHint) (base : Endpoint) : Arith Bool := do
  if hint.sampleCount < 2 || hint.portDelta = 0 || !Endpoint.isIpv4 hint.firstObserved.addr ||
      !Endpoint.isIpv4 hint.lastObserved.addr || !Endpoint.isIpv4 base.addr ||
      hint.firstObserved.addr.ip ≠ hint.lastObserved.addr.ip ||
      base.addr.ip ≠ hint.lastObserved.addr.ip then
    return false
  let steps ← unsignedSub hint.sampleCount.val 1
  let some expectedTotalDelta := checked 32 (hint.portDelta * steps) | return false
  if (← portStep hint.firstObserved hint.lastObserved) ≠ expectedTotalDelta then return false
  let deltaParity : NatPortParityRelation :=
    if hint.portDelta.natAbs % 2 = 0 then .same else .alternating
  return hint.parity = deltaParity

/-- `candidate as u16`. -/
def asU16 (candidate : Int) : U16 := ⟨(candidate % 65536).toNat, by omega⟩

/-- The loop of `predicted_ports` from one step on, with the ports that it has pushed. -/
def predictedPorts.loop (basePort : U16) (delta : Int) : List Nat → List U16 → List U16
  | [], ports => ports
  | step :: steps, ports =>
    match checked 64 (delta * step) with
    | none => ports
    | some offset =>
      match checked 64 (basePort.val + offset) with
      | none => ports
      | some candidate =>
        if ¬ (1 ≤ candidate ∧ candidate ≤ 65535) then ports
        else if asU16 candidate ≠ basePort ∧ asU16 candidate ∉ ports then
          loop basePort delta steps (ports ++ [asU16 candidate])
        else loop basePort delta steps ports

def predictedPorts (hint : NatPredictionHint) (base : Endpoint) (limit : Nat) :
    Arith (List U16) := do
  if !(← hint.isUsableWith base) then return []
  return predictedPorts.loop base.addr.port hint.portDelta
    (List.range' 1 (min limit maxNatPredictionPorts)) []

end NatPredictionHint

namespace NatProfile

/-- `duration_to_bucky_time`, from nanoseconds. -/
def durationToBuckyTime (duration : Nat) : Timestamp :=
  ⟨min (duration / 1000) (2 ^ 64 - 1), micros_lt duration⟩

/-- `ttl` is in nanoseconds. -/
def fromObservations (observations : List Endpoint) (observedAt : Timestamp) (ttl : Nat) :
    Arith NatProfile := do
  if observations.length < 2 || 65535 < observations.length || ttl = 0 then return unknown
  let validUntil := saturatingAdd observedAt (durationToBuckyTime ttl)
  if observations.all fun ep => observations.head?.any fun first => ep.addr = first.addr then
    return ⟨currentVersion, .nonSymmetricLike, observedAt, validUntil, none⟩
  return ⟨currentVersion, .symmetricLike, observedAt, validUntil,
    ← NatPredictionHint.fromObservations observations⟩

def mappingAt (profile : NatProfile) (now : Timestamp) : NatMappingObservation :=
  if profile.isFresh now then profile.observation else .unknown

def usablePredictionHint (profile : NatProfile) (now : Timestamp) :
    Arith (Option NatPredictionHint) := do
  if profile.mappingAt now ≠ .symmetricLike then return none
  match profile.predictionHint with
  | none => return none
  | some hint => return if ← hint.isUsableWith hint.lastObserved then some hint else none

end NatProfile

/-! ### The progression of the observed ports -/

theorem portStep_eq (x y : Endpoint) :
    portStep x y = .ok ((y.addr.port.val : Int) - x.addr.port.val) := by
  have hx := x.addr.port.isLt
  have hy := y.addr.port.isLt
  exact plain_of_fits (fits_32.mpr (by omega))

namespace NatPredictionHint

/-- Consecutive ports differ by `delta`. -/
def Steps (delta : Int) (observations : List Endpoint) : Prop :=
  observations.IsChain fun x y => (y.addr.port.val : Int) - x.addr.port.val = delta

instance (delta : Int) (observations : List Endpoint) : Decidable (Steps delta observations) :=
  inferInstanceAs (Decidable (List.IsChain _ _))

theorem anyOtherStep_eq (delta : Int) (observations : List Endpoint) :
    anyOtherStep delta observations = .ok (!decide (Steps delta observations)) := by
  induction observations with
  | nil => simp [anyOtherStep, Steps, pure, Except.pure]
  | cons x rest ih =>
    cases rest with
    | nil => simp [anyOtherStep, Steps, pure, Except.pure]
    | cons y rest =>
      have hiff : Steps delta (x :: y :: rest) ↔
          (y.addr.port.val : Int) - x.addr.port.val = delta ∧ Steps delta (y :: rest) :=
        List.isChain_cons_cons
      rw [anyOtherStep, portStep_eq, ih]
      simp only [bind, Except.bind, pure, Except.pure, hiff]
      by_cases hstep : (y.addr.port.val : Int) - x.addr.port.val = delta
      · simp [hstep]
      · simp [hstep]

/-- The last port of a progression. -/
theorem Steps.getLast {delta : Int} {x : Endpoint} {rest : List Endpoint}
    (h : Steps delta (x :: rest)) :
    (((x :: rest).getLast (by simp)).addr.port.val : Int) - x.addr.port.val = rest.length * delta := by
  induction rest generalizing x with
  | nil => simp
  | cons y rest ih =>
    obtain ⟨hstep, hrest⟩ := List.isChain_cons_cons.mp h
    have hlast := ih hrest
    rw [List.getLast_cons (by simp), List.length_cons]
    push_cast
    rw [add_mul, one_mul]
    omega

/-- What is asked of a hint and a base. -/
structure Usable (hint : NatPredictionHint) (base : Endpoint) : Prop where
  samples : 2 ≤ hint.sampleCount.val
  delta : hint.portDelta ≠ 0
  first4 : Endpoint.isIpv4 hint.firstObserved.addr = true
  last4 : Endpoint.isIpv4 hint.lastObserved.addr = true
  base4 : Endpoint.isIpv4 base.addr = true
  ip : hint.firstObserved.addr.ip = hint.lastObserved.addr.ip
  baseIp : base.addr.ip = hint.lastObserved.addr.ip
  fits : Fits 32 (hint.portDelta * (hint.sampleCount.val - 1 : Nat))
  total : (hint.lastObserved.addr.port.val : Int) - hint.firstObserved.addr.port.val =
    hint.portDelta * (hint.sampleCount.val - 1 : Nat)
  parity : hint.parity = if hint.portDelta.natAbs % 2 = 0 then .same else .alternating

theorem isUsableWith_spec (hint : NatPredictionHint) (base : Endpoint) :
    ∃ usable, hint.isUsableWith base = .ok usable ∧ (usable = true ↔ hint.Usable base) := by
  unfold isUsableWith
  split
  next hguard =>
    refine ⟨false, rfl, iff_of_false Bool.false_ne_true fun h => ?_⟩
    have hsamples : ¬ hint.sampleCount < 2 := not_lt.mpr h.samples
    simp [h.delta, h.first4, h.last4, h.base4, h.ip, h.baseIp, hsamples] at hguard
  next hguard =>
    simp only [Bool.or_eq_true, decide_eq_true_eq, not_or, Bool.not_eq_true', Bool.not_eq_false,
      not_lt, ne_eq, not_not] at hguard
    obtain ⟨⟨⟨⟨⟨⟨hsamples, hdelta⟩, hfirst⟩, hlast⟩, hbase⟩, hip⟩, hbaseIp⟩ := hguard
    have hcount : 2 ≤ hint.sampleCount.val := hsamples
    rw [unsignedSub_of_le (by omega)]
    simp only [bind, Except.bind, pure, Except.pure]
    cases htotal : checked 32 (hint.portDelta * (hint.sampleCount.val - 1 : Nat)) with
    | none =>
      refine ⟨false, rfl, iff_of_false Bool.false_ne_true fun h => ?_⟩
      exact checked_eq_none.mp htotal h.fits
    | some total =>
      obtain ⟨hfits, rfl⟩ := checked_eq_some.mp htotal
      dsimp only
      rw [portStep_eq]
      dsimp only
      split
      next hne =>
        exact ⟨false, rfl, iff_of_false Bool.false_ne_true fun h => hne h.total⟩
      next heq =>
        refine ⟨_, rfl, ?_⟩
        rw [decide_eq_true_eq]
        exact ⟨fun hparity => ⟨hcount, hdelta, hfirst, hlast, hbase, hip, hbaseIp, hfits, not_not.mp heq,
          hparity⟩, fun h => h.parity⟩

/-- A hint that is made of observations is usable with the last of them. -/
theorem fromObservations_spec {observations : List Endpoint} (hmax : observations.length ≤ 65535) :
    ∃ made, fromObservations observations = .ok made ∧
      ∀ hint, made = some hint → hint.Usable hint.lastObserved := by
  unfold fromObservations
  split
  next first second rest =>
    dsimp only
    split
    next => exact ⟨none, rfl, by simp⟩
    next hfour =>
    split
    next => exact ⟨none, rfl, by simp⟩
    next hip =>
    rw [portStep_eq]
    simp only [bind, Except.bind, pure, Except.pure]
    split
    next => exact ⟨none, rfl, by simp⟩
    next hdelta =>
    rw [anyOtherStep_eq]
    dsimp only
    split
    next => exact ⟨none, rfl, by simp⟩
    next hsteps =>
    refine ⟨_, rfl, ?_⟩
    rintro hint ⟨⟩
    have hfour' : ∀ ep ∈ first :: second :: rest, Endpoint.isIpv4 ep.addr = true := by
      simpa using hfour
    have hip' : ∀ ep ∈ first :: second :: rest, ep.addr.ip = first.addr.ip := by
      simpa using hip
    have hmem : (second :: rest).getLast (by simp) ∈ first :: second :: rest :=
      List.mem_cons_of_mem _ (List.getLast_mem _)
    have hchain : Steps ((second.addr.port.val : Int) - first.addr.port.val)
        (first :: second :: rest) := by simpa using hsteps
    have hlast := hchain.getLast
    rw [List.getLast_cons (by simp)] at hlast
    -- the count is exact, so the steps between the first and the last are those of the hint
    have hcount : min (first :: second :: rest).length 65535 - 1 = (second :: rest).length := by
      simp only [List.length_cons] at hmax ⊢
      omega
    have htotal : ((second :: rest).getLast (by simp)).addr.port.val - (first.addr.port.val : Int) =
        ((second.addr.port.val : Int) - first.addr.port.val) *
          (min (first :: second :: rest).length 65535 - 1 : Nat) := by
      rw [hlast, hcount, mul_comm]
    have hfirst := first.addr.port.isLt
    have hsecond := ((second :: rest).getLast (by simp)).addr.port.isLt
    refine ⟨?_, hdelta, hfour' first (by simp), hfour' _ hmem, hfour' _ hmem, (hip' _ hmem).symm, rfl,
      ?_, htotal, ?_⟩
    · show 2 ≤ min (first :: second :: rest).length 65535
      simp only [List.length_cons]
      omega
    · show Fits 32 (_ * (min (first :: second :: rest).length 65535 - 1 : Nat))
      rw [← htotal, fits_32]
      omega
    · have hiff : first.addr.port.val % 2 = second.addr.port.val % 2 ↔
          ((second.addr.port.val : Int) - first.addr.port.val).natAbs % 2 = 0 := by omega
      simp only [hiff]
  next => exact ⟨none, rfl, by simp⟩

/-! ### The window of the next ports -/

section Window

variable (basePort : U16) (delta : Int)

/-- The port after `k` steps, if there is one. -/
def candidate (k : Nat) : Int := basePort.val + delta * k

/-- The port after `k` steps is one. -/
def InPorts (k : Nat) : Prop := 1 ≤ candidate basePort delta k ∧ candidate basePort delta k ≤ 65535

variable {basePort delta}

theorem asU16_val {x : Int} (h : 1 ≤ x ∧ x ≤ 65535) : ((asU16 x).val : Int) = x := by
  show (((x % 65536).toNat : Nat) : Int) = x
  omega

/-- No offset of the window overflows. -/
theorem fits_offset (h : Fits 32 delta) {k : Nat} (hk : k ≤ 8) :
    Fits 64 (delta * k) ∧ Fits 64 (basePort.val + delta * k) := by
  have hport := basePort.isLt
  rw [fits_32] at h
  rw [fits_64, fits_64]
  interval_cases k <;> omega

theorem candidate_inj (hdelta : delta ≠ 0) {i j : Nat}
    (h : candidate basePort delta i = candidate basePort delta j) : i = j := by
  have hmul : delta * (i : Int) = delta * j := by
    unfold candidate at h
    omega
  exact_mod_cast mul_left_cancel₀ hdelta hmul

theorem asU16_candidate_ne (hdelta : delta ≠ 0) {i j : Nat} (hi : InPorts basePort delta i)
    (hj : InPorts basePort delta j) (hne : i ≠ j) :
    asU16 (candidate basePort delta i) ≠ asU16 (candidate basePort delta j) := fun heq => by
  have hval : ((asU16 (candidate basePort delta i)).val : Int) =
      (asU16 (candidate basePort delta j)).val := by rw [heq]
  rw [asU16_val hi, asU16_val hj] at hval
  exact hne (candidate_inj hdelta hval)

theorem asU16_candidate_ne_base (hdelta : delta ≠ 0) {k : Nat} (hpos : 1 ≤ k)
    (hk : InPorts basePort delta k) : asU16 (candidate basePort delta k) ≠ basePort := fun heq => by
  have hval := asU16_val hk
  rw [heq] at hval
  have hzero : candidate basePort delta 0 = basePort.val := by simp [candidate]
  have hk0 := candidate_inj hdelta (hzero.trans hval)
  omega

theorem loop_cons_of_inPorts {k : Nat} {steps : List Nat} {ports : List U16} (hfits : Fits 32 delta)
    (hk : k ≤ 8) (hin : InPorts basePort delta k) (hne : asU16 (candidate basePort delta k) ≠ basePort)
    (hnew : asU16 (candidate basePort delta k) ∉ ports) :
    predictedPorts.loop basePort delta (k :: steps) ports =
      predictedPorts.loop basePort delta steps (ports ++ [asU16 (candidate basePort delta k)]) := by
  obtain ⟨hoffset, hcandidate⟩ : Fits 64 (delta * k) ∧ Fits 64 (basePort.val + delta * k) :=
    fits_offset hfits hk
  rw [predictedPorts.loop, checked_of_fits hoffset]
  dsimp only
  rw [checked_of_fits hcandidate]
  exact (if_neg (not_not.mpr hin)).trans (if_pos ⟨hne, hnew⟩)

theorem loop_cons_of_not_inPorts {k : Nat} {steps : List Nat} {ports : List U16}
    (hfits : Fits 32 delta) (hk : k ≤ 8) (hout : ¬ InPorts basePort delta k) :
    predictedPorts.loop basePort delta (k :: steps) ports = ports := by
  obtain ⟨hoffset, hcandidate⟩ : Fits 64 (delta * k) ∧ Fits 64 (basePort.val + delta * k) :=
    fits_offset hfits hk
  rw [predictedPorts.loop, checked_of_fits hoffset]
  dsimp only
  rw [checked_of_fits hcandidate]
  exact if_pos hout

/-- The loop goes on as long as the next port is one. -/
theorem loop_spec (hdelta : delta ≠ 0) (hfits : Fits 32 delta) (n k : Nat) (hk : k + n ≤ 8)
    (hports : ∀ i, 1 ≤ i → i ≤ k → InPorts basePort delta i) :
    ∃ m, m ≤ k + n ∧ (∀ i, 1 ≤ i → i ≤ m → InPorts basePort delta i) ∧
      (m < k + n → ¬ InPorts basePort delta (m + 1)) ∧
      predictedPorts.loop basePort delta (List.range' (k + 1) n)
          ((List.range' 1 k).map fun i => asU16 (candidate basePort delta i)) =
        (List.range' 1 m).map fun i => asU16 (candidate basePort delta i) := by
  induction n generalizing k with
  | zero => exact ⟨k, le_rfl, hports, fun h => absurd h (lt_irrefl _), rfl⟩
  | succ n ih =>
    rw [List.range'_succ]
    by_cases hnext : InPorts basePort delta (k + 1)
    · have hnew : asU16 (candidate basePort delta (k + 1)) ∉
          (List.range' 1 k).map fun i => asU16 (candidate basePort delta i) := by
        rw [List.mem_map]
        rintro ⟨i, hi, heq⟩
        rw [List.mem_range'_1] at hi
        exact asU16_candidate_ne hdelta (hports i (by omega) (by omega)) hnext (by omega) heq
      have hpush : ((List.range' 1 k).map fun i => asU16 (candidate basePort delta i)) ++
          [asU16 (candidate basePort delta (k + 1))] =
          (List.range' 1 (k + 1)).map fun i => asU16 (candidate basePort delta i) := by
        rw [List.range'_concat, List.map_append]
        simp [Nat.add_comm]
      have hne := asU16_candidate_ne_base hdelta (by omega) hnext
      rw [loop_cons_of_inPorts hfits (by omega) hnext hne hnew, hpush]
      obtain ⟨m, hm, hall, hstop, heq⟩ := ih (k + 1) (by omega) fun i hi hik => by
        rcases Nat.lt_or_ge i (k + 1) with hlt | hge
        · exact hports i hi (by omega)
        · rw [show i = k + 1 by omega]
          exact hnext
      exact ⟨m, by omega, hall, fun h => hstop (by omega), heq⟩
    · rw [loop_cons_of_not_inPorts hfits (by omega) hnext]
      exact ⟨k, by omega, hports, fun _ => hnext, rfl⟩

end Window

theorem Usable.fits_delta {hint : NatPredictionHint} {base : Endpoint} (h : hint.Usable base) :
    Fits 32 hint.portDelta := by
  have hfits := fits_32.mp h.fits
  have hsamples := h.samples
  obtain ⟨n, hn⟩ : ∃ n, hint.sampleCount.val - 1 = n + 1 := ⟨hint.sampleCount.val - 2, by omega⟩
  rw [hn] at hfits
  rw [fits_32]
  push_cast at hfits
  have hpos : (0 : Int) ≤ n := Int.natCast_nonneg n
  constructor <;> nlinarith

theorem predictedPorts_spec (hint : NatPredictionHint) (base : Endpoint) (limit : Nat) :
    ∃ ports, hint.predictedPorts base limit = .ok ports ∧
      (¬ hint.Usable base → ports = []) ∧
      (hint.Usable base → ∃ m, m ≤ min limit maxNatPredictionPorts ∧
        (∀ i, 1 ≤ i → i ≤ m → InPorts base.addr.port hint.portDelta i) ∧
        (m < min limit maxNatPredictionPorts → ¬ InPorts base.addr.port hint.portDelta (m + 1)) ∧
        ports = (List.range' 1 m).map fun i => asU16 (candidate base.addr.port hint.portDelta i)) := by
  obtain ⟨usable, heq, hiff⟩ := hint.isUsableWith_spec base
  unfold predictedPorts
  rw [heq]
  simp only [bind, Except.bind, pure, Except.pure]
  cases usable with
  | false =>
    have hnot : ¬ hint.Usable base := fun h => Bool.false_ne_true (hiff.mpr h)
    exact ⟨[], rfl, fun _ => rfl, fun h => absurd h hnot⟩
  | true =>
    have h := hiff.mp rfl
    obtain ⟨m, hm, hall, hstop, hloop⟩ := @loop_spec base.addr.port _ h.delta h.fits_delta
      (min limit maxNatPredictionPorts) 0 (by rw [maxNatPredictionPorts]; omega) (by omega)
    rw [Nat.zero_add] at hm hstop
    exact ⟨_, rfl, fun hnot => absurd h hnot, fun _ => ⟨m, hm, hall, hstop, hloop⟩⟩

end NatPredictionHint

/-- A profile that is made of observations has a hint only if it is usable. -/
theorem NatProfile.fromObservations_spec (observations : List Endpoint) (observedAt : Timestamp)
    (ttl : Nat) : ∃ profile, fromObservations observations observedAt ttl = .ok profile ∧
      ∀ hint, profile.predictionHint = some hint → hint.isUsableWith hint.lastObserved = .ok true := by
  unfold fromObservations
  split
  next => exact ⟨unknown, rfl, by simp [unknown]⟩
  next hguard =>
    simp only [Bool.or_eq_true, decide_eq_true_eq, not_or, not_lt] at hguard
    dsimp only
    split
    next => exact ⟨_, rfl, by simp⟩
    next =>
      obtain ⟨made, hmade, husable⟩ := NatPredictionHint.fromObservations_spec hguard.1.2
      rw [hmade]
      refine ⟨_, rfl, fun hint hhint => ?_⟩
      obtain ⟨usable, heq, hiff⟩ := hint.isUsableWith_spec hint.lastObserved
      rw [heq, hiff.mpr (husable hint hhint)]

/-- A hint that is made of observations is usable with its last endpoint; and from any hint come
either no ports or the next ones of the progression, as many as there are up to the limit, and no
operation on the way overflows. -/
theorem port_prediction :
    (∀ observations observedAt ttl, ∃ profile,
      NatProfile.fromObservations observations observedAt ttl = .ok profile ∧
      ∀ hint, profile.predictionHint = some hint →
        hint.isUsableWith hint.lastObserved = .ok true) ∧
    ∀ (hint : NatPredictionHint) (base : Endpoint) (limit : Nat), ∃ usable ports,
      hint.isUsableWith base = .ok usable ∧ hint.predictedPorts base limit = .ok ports ∧
      (usable = false → ports = []) ∧
      (usable = true → ∃ m,
        IsGreatest {m : Nat | m ≤ min limit maxNatPredictionPorts ∧ ∀ k, 1 ≤ k → k ≤ m →
          1 ≤ (base.addr.port.val : Int) + k * hint.portDelta ∧
            (base.addr.port.val : Int) + k * hint.portDelta ≤ 65535} m ∧
        ports.map (fun port => (port.val : Int)) =
          (List.range' 1 m).map fun k : Nat => (base.addr.port.val : Int) + k * hint.portDelta) ∧
      (usable = true → ∀ k ≤ min limit maxNatPredictionPorts,
        Fits 64 (hint.portDelta * k) ∧ Fits 64 (base.addr.port.val + hint.portDelta * k)) ∧
      ports.Nodup ∧ base.addr.port ∉ ports := by
  refine ⟨NatProfile.fromObservations_spec, fun hint base limit => ?_⟩
  obtain ⟨usable, heq, hiff⟩ := hint.isUsableWith_spec base
  obtain ⟨ports, hports, hnone, hwindow⟩ := hint.predictedPorts_spec base limit
  have hcandidate : ∀ k : Nat, NatPredictionHint.candidate base.addr.port hint.portDelta k =
      (base.addr.port.val : Int) + k * hint.portDelta := fun k => by
    rw [NatPredictionHint.candidate, mul_comm]
  refine ⟨usable, ports, heq, hports, fun hfalse => hnone fun h => ?_, fun htrue => ?_,
    fun htrue k hk => ?_, ?_⟩
  · exact Bool.false_ne_true (hfalse.symm.trans (hiff.mpr h))
  · obtain ⟨m, hm, hall, hstop, rfl⟩ := hwindow (hiff.mp htrue)
    refine ⟨m, ⟨⟨hm, fun k h1 hk => hcandidate k ▸ hall k h1 hk⟩, fun n ⟨hn, hin⟩ => ?_⟩, ?_⟩
    · by_contra hlt
      have hnext := hin (m + 1) (by omega) (by omega)
      rw [← hcandidate] at hnext
      exact hstop (by omega) hnext
    · rw [List.map_map]
      refine List.map_congr_left fun k hk => ?_
      rw [List.mem_range'_1] at hk
      show ((NatPredictionHint.asU16 _).val : Int) = _
      rw [NatPredictionHint.asU16_val (hall k hk.1 (by omega)), hcandidate]
  · have hmax : k ≤ 8 := hk.trans (Nat.min_le_right _ _)
    exact NatPredictionHint.fits_offset (hiff.mp htrue).fits_delta hmax
  · by_cases h : hint.Usable base
    · obtain ⟨m, -, hall, -, rfl⟩ := hwindow h
      have hin : ∀ k ∈ List.range' 1 m, NatPredictionHint.InPorts base.addr.port hint.portDelta k :=
        fun k hk => by
          rw [List.mem_range'_1] at hk
          exact hall k hk.1 (by omega)
      refine ⟨List.Nodup.map_on (fun i hi j hj hsame => ?_) List.nodup_range', fun hmem => ?_⟩
      · by_contra hne
        exact NatPredictionHint.asU16_candidate_ne h.delta (hin i hi) (hin j hj) hne hsame
      · obtain ⟨k, hk, hbase⟩ := List.mem_map.mp hmem
        have hpos := (List.mem_range'_1.mp hk).1
        exact NatPredictionHint.asU16_candidate_ne_base h.delta hpos (hin k hk) hbase
    · rw [hnone h]
      simp

end BuckyP2p
