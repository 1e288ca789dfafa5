import BuckyP2p.Lib.Runs
import BuckyP2p.Lib.Window
import BuckyP2p.NatProbe.Datagram

/-!
# BuckyP2p.NatProbe.Signing — what is signed for a NAT probe, and how often

* Two messages are signed with the key of an SN: a short one when the context is made, to learn the
  length of the signatures (`signatureCalibrationPreimage`), and one for each response.  Each begins
  with a domain of its own, then the length of the id, the id, and for a response the signed fields.
* `try_acquire` admits a response if fewer than `MAX_NAT_PROBE_RESPONSES_PER_SECOND` were admitted
  in the last second and fewer than `MAX_NAT_PROBE_IN_FLIGHT_SIGNATURES` permits live.  Instants are
  nanoseconds; `duration_since` is the truncated difference.
-/

namespace BuckyP2p.NatProbe

open Lib

/-! ### The signed messages -/

/-- `b"CYFS-P2P/PNAT/SIGNATURE-LENGTH/V2\0"`. -/
def natProbeSignatureCalibrationDomain : List U8 :=
  "CYFS-P2P/PNAT/SIGNATURE-LENGTH/V2".toList.map (fun c => Fin.ofNat (2 ^ 8) c.toNat) ++ [0]

def signatureCalibrationPreimage (signerId : P2pId) : P2pResult (List U8) :=
  if 2 ^ 16 ≤ signerId.length then
    .error ⟨.outOfLimit, s!"NAT probe signer id is too large: {signerId.length}"⟩
  else
    .ok (natProbeSignatureCalibrationDomain ++ toBeBytes (Fin.ofNat (2 ^ 16) signerId.length) ++
      signerId)

/-- `verifies` is the `verify` of the certificate, and `expectedSigner` its id. -/
def DecodedNatProbeResponse.verify (response : DecodedNatProbeResponse) (expectedSigner : P2pId)
    (verifies : List U8 → List U8 → Bool) : Bool :=
  match responseSignaturePreimage expectedSigner response.signedFields with
  | .error _ => false
  | .ok preimage => verifies preimage response.signature

section Preimages

variable {s₁ s₂ : P2pId} {f₁ f₂ : List U8}

theorem toBeBytes_injective {m n : U16} (h : toBeBytes m = toBeBytes n) : m = n := by
  simp only [toBeBytes, List.cons.injEq, and_true] at h
  rw [← ofBytes_bytes m, h.1, h.2, ofBytes_bytes]

theorem responseSignaturePreimage_eq (hs : s₁.length < 2 ^ 16)
    (hf : f₁.length = natProbeSignedFieldsLen) : responseSignaturePreimage s₁ f₁ =
      .ok (natProbeSignatureDomain ++ (toBeBytes (Fin.ofNat (2 ^ 16) s₁.length) ++ (s₁ ++ f₁))) := by
  rw [responseSignaturePreimage, if_neg (not_not.mpr hf), if_neg (by omega)]
  simp only [List.append_assoc]

/-- The length before the id tells where the signed fields begin. -/
theorem responseSignaturePreimage_injective (hs₁ : s₁.length < 2 ^ 16) (hs₂ : s₂.length < 2 ^ 16)
    (hf₁ : f₁.length = natProbeSignedFieldsLen) (hf₂ : f₂.length = natProbeSignedFieldsLen)
    (h : responseSignaturePreimage s₁ f₁ = responseSignaturePreimage s₂ f₂) : s₁ = s₂ ∧ f₁ = f₂ := by
  rw [responseSignaturePreimage_eq hs₁ hf₁, responseSignaturePreimage_eq hs₂ hf₂] at h
  have hrest := List.append_cancel_left (Except.ok.inj h)
  obtain ⟨hlen, hbody⟩ := List.append_inj hrest rfl
  have hsize : s₁.length = s₂.length := by
    have hval := congrArg Fin.val (toBeBytes_injective hlen)
    rwa [Fin.val_ofNat, Fin.val_ofNat, Nat.mod_eq_of_lt hs₁, Nat.mod_eq_of_lt hs₂] at hval
  exact List.append_inj hbody hsize

/-- The domains differ in the fifteenth byte. -/
theorem responseSignaturePreimage_ne_calibration {preimage calibration : List U8}
    (h₁ : responseSignaturePreimage s₁ f₁ = .ok preimage)
    (h₂ : signatureCalibrationPreimage s₂ = .ok calibration) : preimage ≠ calibration := by
  have hresponse : preimage[14]? = some 82 := by
    unfold responseSignaturePreimage at h₁
    split_ifs at h₁
    cases h₁
    rw [List.append_assoc, List.append_assoc]
    rfl
  have hcalibration : calibration[14]? = some 83 := by
    unfold signatureCalibrationPreimage at h₂
    split_ifs at h₂
    cases h₂
    rw [List.append_assoc]
    rfl
  rintro rfl
  rw [hresponse] at hcalibration
  exact absurd hcalibration (by decide)

end Preimages

/-- The signed fields are the fields of the response. -/
theorem responseFields_injective {t₁ t₂ : NatProbeToken} {i₁ i₂ : Ipv4Addr} {p₁ p₂ l₁ l₂ : U16}
    (h : responseFields t₁ i₁ p₁ l₁ = responseFields t₂ i₂ p₂ l₂) :
    t₁ = t₂ ∧ i₁ = i₂ ∧ p₁ = p₂ ∧ l₁ = l₂ := by
  have hrest := List.append_cancel_left h
  obtain ⟨htoken, hrest⟩ := List.append_inj hrest (by rw [token_length, token_length])
  obtain ⟨hip, hrest⟩ := List.append_inj hrest rfl
  obtain ⟨hport, hlen⟩ := List.append_inj hrest rfl
  refine ⟨Vector.toList_inj.mp htoken, ?_, toBeBytes_injective hport, toBeBytes_injective hlen⟩
  simp only [List.cons.injEq, and_true] at hip
  cases i₁
  cases i₂
  simp_all

/-- What is decoded from a packet is in the bytes that are signed. -/
theorem exists_responseFields_of_decode {packet : List U8} {response : DecodedNatProbeResponse}
    (h : decodeResponseDatagram packet = .ok (some response)) :
    ∃ ip port, ∃ len : U16, response.observed = .v4 ip port ∧ response.signature.length = len.val ∧
      response.signedFields = packet.take natProbeSignedFieldsLen ∧
      packet.take natProbeSignedFieldsLen = responseFields response.token ip port len := by
  obtain ⟨token, ip, port, len, tail, htail, rfl, hdecode⟩ := exists_decodeFields h
  obtain ⟨-, -, hrange, -, rfl⟩ := (decodeFields_eq_some_iff htail).mp hdecode
  have hmax : len.val ≤ 1168 := hrange.2
  refine ⟨ip, port, len, rfl, ?_, (take_responseFields ..).symm, take_responseFields ..⟩
  rw [List.length_take, htail]
  omega

/-- Two responses of the same signed message are of one signer and carry the same token, endpoint
and length; and the message of a response is never that of a calibration, so the certificate of the
signer is never asked about one of those. -/
theorem response_signature_determines {s₁ s₂ : P2pId} (hs₁ : s₁.length < 2 ^ 16)
    (hs₂ : s₂.length < 2 ^ 16) {p₁ p₂ : List U8} {r₁ r₂ : DecodedNatProbeResponse}
    (h₁ : decodeResponseDatagram p₁ = .ok (some r₁)) (h₂ : decodeResponseDatagram p₂ = .ok (some r₂)) :
    (responseSignaturePreimage s₁ (p₁.take natProbeSignedFieldsLen) =
        responseSignaturePreimage s₂ (p₂.take natProbeSignedFieldsLen) →
      s₁ = s₂ ∧ r₁.token = r₂.token ∧ r₁.observed = r₂.observed ∧
        r₁.signature.length = r₂.signature.length) ∧
    responseSignaturePreimage s₁ (p₁.take natProbeSignedFieldsLen) ≠ signatureCalibrationPreimage s₂ ∧
    ∀ verifies, r₁.verify s₁ verifies = true → ∃ preimage, verifies preimage r₁.signature = true ∧
      ∀ s, signatureCalibrationPreimage s ≠ .ok preimage := by
  obtain ⟨ip₁, port₁, len₁, hobserved₁, hlen₁, hsigned₁, hfields₁⟩ :=
    exists_responseFields_of_decode h₁
  obtain ⟨ip₂, port₂, len₂, hobserved₂, hlen₂, -, hfields₂⟩ := exists_responseFields_of_decode h₂
  have hsize₁ := responseFields_length r₁.token ip₁ port₁ len₁
  have hsize₂ := responseFields_length r₂.token ip₂ port₂ len₂
  have hpreimage := responseSignaturePreimage_eq hs₁ hsize₁
  rw [hfields₁, hfields₂]
  refine ⟨fun heq => ?_, fun heq => ?_, fun verifies hverify => ?_⟩
  · obtain ⟨rfl, hsame⟩ := responseSignaturePreimage_injective hs₁ hs₂ hsize₁ hsize₂ heq
    obtain ⟨htoken, rfl, rfl, rfl⟩ := responseFields_injective hsame
    exact ⟨rfl, htoken, hobserved₁.trans hobserved₂.symm, hlen₁.trans hlen₂.symm⟩
  · rw [hpreimage] at heq
    exact responseSignaturePreimage_ne_calibration hpreimage heq.symm rfl
  · rw [DecodedNatProbeResponse.verify, hsigned₁, hfields₁, hpreimage] at hverify
    refine ⟨_, hverify, fun s hcalibration => ?_⟩
    exact responseSignaturePreimage_ne_calibration hpreimage hcalibration rfl

/-- The bytes behind the signed fields, with a signature of one byte. -/
def oneByteSignature : List U8 := 7 :: List.replicate 1167 0

def zeroToken : NatProbeToken := Vector.replicate natProbeTokenLen 0

theorem response_signature_determines_one_byte :
    responseSignaturePreimage [1]
        ((responseFields zeroToken ⟨10, 0, 0, 1⟩ 80 1 ++ oneByteSignature).take
          natProbeSignedFieldsLen) ≠ signatureCalibrationPreimage [2] := by
  have htail : oneByteSignature.length = 1168 := by
    rw [oneByteSignature, List.length_cons, List.length_replicate]
  have hdecode : decodeResponseDatagram
      (responseFields zeroToken ⟨10, 0, 0, 1⟩ 80 1 ++ oneByteSignature) =
      .ok (some ⟨zeroToken, .v4 ⟨10, 0, 0, 1⟩ 80, [7],
        responseFields zeroToken ⟨10, 0, 0, 1⟩ 80 1⟩) := by
    rw [decodeResponseDatagram_spec _ _ _ _ htail]
    exact congrArg Except.ok ((decodeFields_eq_some_iff htail).mpr
      ⟨by decide, by decide, by decide, rfl, rfl⟩)
  exact (response_signature_determines (show ([1] : P2pId).length < 2 ^ 16 by decide)
    (show ([2] : P2pId).length < 2 ^ 16 by decide) hdecode hdecode).2.1

/-! ### What a reflector sends -/

section Sent

variable {signerId : P2pId} {signatureLen : Nat} {sign : List U8 → P2pResult (List U8)}
  {permit : P2pResult Bool} {token : NatProbeToken} {observed : SocketAddr} {packet : List U8}

theorem slice_signedFields (ip : Ipv4Addr) (port len : U16) (tail : List U8) :
    slice (responseFields token ip port len ++ tail) 0 natProbeSignedFieldsLen =
      .ok (responseFields token ip port len) :=
  slice_of_split (u := []) rfl rfl ((Nat.zero_add _).trans (responseFields_length token ip port len))

/-- What a reflector sends is made of the fields, which it signed, and the signature. -/
theorem encodeResponse_eq_some
    (h : encodeResponse signerId signatureLen sign permit token observed = .ok (.ok (some packet))) :
    ∃ preimage signature, responseSignaturePreimage signerId (packet.take natProbeSignedFieldsLen) =
        .ok preimage ∧ sign preimage = .ok signature ∧
      decodeResponseDatagram packet =
        .ok (some ⟨token, observed, signature, packet.take natProbeSignedFieldsLen⟩) := by
  unfold encodeResponse at h
  simp only [bind, Except.bind, pure, Except.pure] at h
  cases hfields : encodeResponseFields token observed signatureLen with
  | error panic =>
    rw [hfields] at h
    cases h
  | ok result =>
    rw [hfields] at h
    cases result with
    | error err => cases h
    | ok fields =>
      obtain ⟨ip, port, rfl, hip, hport, hrange, rfl⟩ := encodeResponseFields_eq_ok_iff.mp hfields
      dsimp only at h
      rw [slice_signedFields] at h
      dsimp only at h
      split at h
      case h_1 => cases h
      case h_2 => cases h
      case h_3 => cases h
      next preimage hpreimage =>
      split at h
      case h_1 => cases h
      next signature hsign =>
      split at h
      case h_1 => cases h
      split at h
      case isTrue => cases h
      next hlen =>
      split at h
      case h_1 => cases h
      next packet' hcopy =>
      cases h
      rw [not_not.mp hlen] at hcopy
      obtain ⟨xs, ys, zs, hsplit, hxs, -, -, rfl⟩ := copyFromSlice_eq_ok hcopy
      obtain ⟨rfl, -⟩ := List.append_inj hsplit (by rw [responseFields_length, hxs])
      refine ⟨preimage, signature, ?_, hsign, (decodeResponseDatagram_eq_some_iff _ _).mpr
        ⟨token, ip, port, signatureLen, signature, _, hip, hport, hrange, hfields, hcopy, rfl⟩⟩
      rw [take_responseFields]
      exact hpreimage

/-- **What a reflector sends is accepted by the client that it answers**, where the certificate of the
signer verifies what its key has signed; a reflector with a permit and a signature of the calibrated
length sends it to every endpoint that can be probed. -/
theorem sent_responses_verify (verifies : List U8 → List U8 → Bool)
    (hsign : ∀ message signature, sign message = .ok signature → verifies message signature = true) :
    (∀ packet, encodeResponse signerId signatureLen sign permit token observed =
        .ok (.ok (some packet)) →
      ∃ response, decodeResponseDatagram packet = .ok (some response) ∧ response.token = token ∧
        response.observed = observed ∧ response.verify signerId verifies = true) ∧
    ∀ ip port preimage signature, observed = .v4 ip port → ip.isUnspecified = false → port ≠ 0 →
      responseSignaturePreimage signerId (responseFields token ip port
        (Fin.ofNat (2 ^ 16) signatureLen)) = .ok preimage → permit = .ok true →
      sign preimage = .ok signature → signature.length = signatureLen →
      1 ≤ signatureLen ∧ signatureLen ≤ maxNatProbeSignatureLen →
      ∃ packet, encodeResponse signerId signatureLen sign permit token observed =
        .ok (.ok (some packet)) := by
  refine ⟨fun packet h => ?_, ?_⟩
  · obtain ⟨preimage, signature, hpreimage, hsigned, hdecode⟩ := encodeResponse_eq_some h
    refine ⟨_, hdecode, rfl, rfl, ?_⟩
    unfold DecodedNatProbeResponse.verify
    rw [hpreimage]
    exact hsign preimage signature hsigned
  · rintro ip port preimage signature rfl hip hport hpreimage rfl hsigned rfl hrange
    have hzeros : List.replicate 1168 (0 : U8) =
        List.replicate signature.length 0 ++ List.replicate (1168 - signature.length) 0 := by
      rw [← List.replicate_add, Nat.add_sub_cancel' (show signature.length ≤ 1168 from hrange.2)]
    have hcopy := copyFromSlice_of_split (congrArg _ hzeros)
      (responseFields_length token ip port (Fin.ofNat (2 ^ 16) signature.length))
      (by rw [List.length_replicate]) (@List.length_replicate _ signature.length (0 : U8)).symm
    refine ⟨responseFields token ip port (Fin.ofNat (2 ^ 16) signature.length) ++
      (signature ++ List.replicate (1168 - signature.length) 0), ?_⟩
    simp only [encodeResponse, bind, Except.bind, pure, Except.pure,
      encodeResponseFields_eq token hip hport hrange, slice_signedFields, hpreimage, hsigned,
      validateSignatureLen_eq_ok.mpr hrange, ne_eq, not_true, if_false, hcopy]

theorem sent_responses_verify_one_byte : ∃ packet response,
    encodeResponse [1] 1 (fun _ => .ok [7]) (.ok true) zeroToken (.v4 ⟨10, 0, 0, 1⟩ 80) =
      .ok (.ok (some packet)) ∧
    decodeResponseDatagram packet = .ok (some response) ∧
    response.verify [1] (fun _ signature => signature == [7]) = true := by
  have hsent := @sent_responses_verify [1] 1 (fun _ => .ok [7]) (.ok true) zeroToken
    (.v4 ⟨10, 0, 0, 1⟩ 80) (fun _ signature => signature == [7]) (by rintro _ _ ⟨⟩; rfl)
  obtain ⟨packet, hpacket⟩ := hsent.2 ⟨10, 0, 0, 1⟩ 80 _ [7] rfl (by decide) (by decide) rfl rfl rfl
    rfl (by decide)
  obtain ⟨response, hdecode, -, -, hverify⟩ := hsent.1 packet hpacket
  exact ⟨packet, response, hpacket, hdecode, hverify⟩

end Sent

/-! ### The budget -/

def maxNatProbeResponsesPerSecond : Nat := 128
def maxNatProbeInFlightSignatures : Nat := 4

/-- `Duration::from_secs(1)`, in nanoseconds. -/
def second : Nat := 10 ^ 9

structure NatProbeSigningBudget where
  admitted : List Nat
  inFlight : Nat
  deriving DecidableEq, Repr

namespace NatProbeSigningBudget

def init : NatProbeSigningBudget := ⟨[], 0⟩

/-- The region of `try_acquire`; `true`: it returns a permit. -/
def tryAcquire (budget : NatProbeSigningBudget) (now : Nat) : NatProbeSigningBudget × Bool :=
  let admitted := budget.admitted.dropWhile fun t => second ≤ now - t
  if maxNatProbeResponsesPerSecond ≤ admitted.length then ({ budget with admitted }, false)
  else if maxNatProbeInFlightSignatures ≤ budget.inFlight then ({ budget with admitted }, false)
  else (⟨admitted ++ [now], budget.inFlight + 1⟩, true)

/-- `NatProbeSigningPermit::drop`. -/
def dropPermit (budget : NatProbeSigningBudget) : NatProbeSigningBudget :=
  { budget with inFlight := budget.inFlight - 1 }

end NatProbeSigningBudget

/-- The budget of a context and its live permits, numbered as they were given out. -/
structure NatProbeSigning where
  budget : NatProbeSigningBudget
  permits : List Nat
  nextPermit : Nat
  deriving DecidableEq, Repr

/-- A call of `try_acquire` with the clock that it read, in the order of the lock; or the end of a
permit. -/
inductive SigningOp
  | tryAcquire (now : Nat)
  | drop (permit : Nat)
  deriving DecidableEq, Repr

def SigningOp.clock : SigningOp → Option Nat
  | .tryAcquire now => some now
  | .drop _ => none

namespace NatProbeSigning

def init : NatProbeSigning := ⟨.init, [], 0⟩

/-- The call is admitted. -/
def admits (s : NatProbeSigning) : SigningOp → Bool
  | .tryAcquire now => (s.budget.tryAcquire now).2
  | .drop _ => false

/-- A permit ends once. -/
def step (s : NatProbeSigning) : SigningOp → NatProbeSigning
  | .tryAcquire now =>
    let (budget, permit) := s.budget.tryAcquire now
    if permit then ⟨budget, s.permits ++ [s.nextPermit], s.nextPermit + 1⟩ else { s with budget }
  | .drop permit =>
    if permit ∈ s.permits then
      { s with budget := s.budget.dropPermit, permits := s.permits.erase permit }
    else s

/-- The clocks of the calls that are admitted in a run. -/
def admitted (s : NatProbeSigning) : List SigningOp → List Nat
  | [] => []
  | op :: ops => (if s.admits op then op.clock.toList else []) ++ (s.step op).admitted ops

end NatProbeSigning

theorem NatProbeSigningBudget.tryAcquire_cases (budget : NatProbeSigningBudget) (now : Nat) :
    (budget.tryAcquire now = (⟨evict second now budget.admitted, budget.inFlight⟩, false) ∧
      (maxNatProbeResponsesPerSecond ≤ (evict second now budget.admitted).length ∨
        maxNatProbeInFlightSignatures ≤ budget.inFlight)) ∨
    budget.tryAcquire now =
        (⟨evict second now budget.admitted ++ [now], budget.inFlight + 1⟩, true) ∧
      (evict second now budget.admitted).length < maxNatProbeResponsesPerSecond ∧
      budget.inFlight < maxNatProbeInFlightSignatures := by
  unfold tryAcquire
  rw [← evict]
  by_cases hrate : maxNatProbeResponsesPerSecond ≤ (evict second now budget.admitted).length
  · rw [if_pos hrate]
    exact .inl ⟨rfl, .inl hrate⟩
  · rw [if_neg hrate]
    by_cases hflight : maxNatProbeInFlightSignatures ≤ budget.inFlight
    · rw [if_pos hflight]
      exact .inl ⟨rfl, .inr hflight⟩
    · rw [if_neg hflight]
      exact .inr ⟨rfl, Nat.lt_of_not_le hrate, Nat.lt_of_not_le hflight⟩

namespace NatProbeSigning

/-- Between two steps: `log` are the clocks of the calls admitted so far, and `rest` those of the
calls to come. -/
structure Holds (log rest : List Nat) (s : NatProbeSigning) : Prop where
  counted : s.budget.inFlight = s.permits.length
  few : s.permits.length ≤ maxNatProbeInFlightSignatures
  nodup : s.permits.Nodup
  numbered : ∀ permit ∈ s.permits, permit < s.nextPermit
  sorted : log.Pairwise (· ≤ ·)
  clock : rest.Pairwise (· ≤ ·)
  queue : ∃ last, s.budget.admitted = recent second last log ∧ (∀ t ∈ log, t ≤ last) ∧
    ∀ now ∈ rest, last ≤ now
  window : ∀ p : Nat → Bool, (∀ t u, p t = true → p u = true → u < t + second) →
    log.countP p ≤ maxNatProbeResponsesPerSecond

theorem holds_init {rest : List Nat} (h : rest.Pairwise (· ≤ ·)) : Holds [] rest init where
  counted := rfl
  few := Nat.zero_le _
  nodup := .nil
  numbered := by simp [init]
  sorted := .nil
  clock := h
  queue := ⟨0, rfl, by simp, by simp⟩
  window _ _ := Nat.zero_le _

variable {s : NatProbeSigning} {log rest : List Nat} {now : Nat}

/-- The queue after the loop of `try_acquire`. -/
theorem Holds.evicted (h : Holds log (now :: rest) s) :
    evict second now s.budget.admitted = recent second now log ∧ ∀ t ∈ log, t ≤ now := by
  obtain ⟨last, hqueue, hlast, hrest⟩ := h.queue
  have hnow : last ≤ now := hrest now (.head _)
  rw [hqueue, evict_recent (by decide) h.sorted hnow]
  exact ⟨rfl, fun t ht => (hlast t ht).trans hnow⟩

theorem Holds.step (op : SigningOp) (h : Holds log (op.clock.toList ++ rest) s) :
    Holds (log ++ if s.admits op then op.clock.toList else []) rest (s.step op) := by
  cases op with
  | tryAcquire now =>
    obtain ⟨hevict, hold⟩ := h.evicted
    obtain ⟨hlater, hclock⟩ := List.pairwise_cons.mp h.clock
    rcases s.budget.tryAcquire_cases now with ⟨heq, -⟩ | ⟨heq, hrate, hflight⟩
    · have hadmits : s.admits (.tryAcquire now) = false := by rw [admits, heq]
      have hstep : s.step (.tryAcquire now) =
          { s with budget := ⟨evict second now s.budget.admitted, s.budget.inFlight⟩ } := by
        rw [NatProbeSigning.step, heq]
        rfl
      rw [hadmits, hstep, if_neg Bool.false_ne_true, List.append_nil]
      exact { h with clock := hclock, queue := ⟨now, hevict, hold, hlater⟩ }
    · have hadmits : s.admits (.tryAcquire now) = true := by rw [admits, heq]
      have hstep : s.step (.tryAcquire now) =
          ⟨⟨evict second now s.budget.admitted ++ [now], s.budget.inFlight + 1⟩,
            s.permits ++ [s.nextPermit], s.nextPermit + 1⟩ := by
        rw [NatProbeSigning.step, heq]
        rfl
      rw [hadmits, hstep, if_pos rfl]
      rw [hevict] at hrate ⊢
      have hcounted := h.counted
      refine ⟨?_, ?_, ?_, ?_, ?_, hclock, ⟨now, ?_, ?_, hlater⟩, fun p hp => ?_⟩
      · simp [hcounted]
      · rw [List.length_append, List.length_singleton]
        omega
      · have hnew : s.nextPermit ∉ s.permits := fun hmem => lt_irrefl _ (h.numbered _ hmem)
        exact List.Nodup.append h.nodup (List.nodup_singleton _) (by simpa using hnew)
      · intro permit hmem
        rcases List.mem_append.mp hmem with hmem | hmem
        · exact (h.numbered permit hmem).trans (Nat.lt_succ_self _)
        · rw [List.mem_singleton.mp hmem]
          exact Nat.lt_succ_self _
      · refine List.pairwise_append.mpr ⟨h.sorted, List.pairwise_singleton _ _, fun t ht u hu => ?_⟩
        rw [List.mem_singleton.mp hu]
        exact hold t ht
      · have hself : recent second now [now] = [now] := by simp [recent, second]
        show _ = recent second now (log ++ [now])
        rw [recent_append, hself]
      · intro t ht
        rcases List.mem_append.mp ht with ht | ht
        · exact hold t ht
        · exact (List.mem_singleton.mp ht).le
      · show (log ++ [now]).countP p ≤ _
        rw [List.countP_append, List.countP_singleton]
        by_cases hnow : p now = true
        · -- what else lies in the interval is in the queue, which is not full
          have hle : log.countP p ≤ (recent second now log).length :=
            countP_le_recent fun t _ ht => hp t now ht hnow
          rw [if_pos hnow]
          omega
        · rw [if_neg hnow]
          exact h.window p hp
  | drop permit =>
    rw [admits, if_neg Bool.false_ne_true, List.append_nil, NatProbeSigning.step]
    by_cases hmem : permit ∈ s.permits
    · rw [if_pos hmem]
      have hlength := List.length_erase_of_mem hmem
      have hfew := h.few
      refine { h with counted := ?_, few := ?_, nodup := h.nodup.erase permit, numbered := ?_ }
      · show s.budget.inFlight - 1 = _
        rw [h.counted, hlength]
      · show (s.permits.erase permit).length ≤ _
        omega
      · intro p hp
        exact h.numbered p (List.mem_of_mem_erase hp)
    · rw [if_neg hmem]
      exact h

theorem Holds.exec {ops : List SigningOp} (h : Holds log (ops.filterMap SigningOp.clock ++ rest) s) :
    Holds (log ++ s.admitted ops) rest (exec NatProbeSigning.step s ops) := by
  induction ops generalizing s log with
  | nil => simpa [admitted] using h
  | cons op ops ih =>
    have hclock : (op :: ops).filterMap SigningOp.clock =
        op.clock.toList ++ ops.filterMap SigningOp.clock := by
      cases op <;> rfl
    rw [hclock, List.append_assoc] at h
    have hrest := ih (h.step op)
    rwa [List.append_assoc] at hrest

end NatProbeSigning

/-- In every run with a clock that does not go back: as many signatures are in flight as permits
live, at most four; at most 128 calls are admitted in any second; and a call is refused only if four
permits live, or 128 calls were admitted in the second up to it. -/
theorem signing_budget_holds (ops : List SigningOp)
    (hclock : (ops.filterMap SigningOp.clock).Pairwise (· ≤ ·)) :
    (exec NatProbeSigning.step .init ops).permits.Nodup ∧
    (exec NatProbeSigning.step .init ops).budget.inFlight =
      (exec NatProbeSigning.step .init ops).permits.length ∧
    (exec NatProbeSigning.step .init ops).budget.inFlight ≤ maxNatProbeInFlightSignatures ∧
    (∀ a, (NatProbeSigning.init.admitted ops).countP (fun t => a ≤ t ∧ t < a + second) ≤
        maxNatProbeResponsesPerSecond ∧
      (NatProbeSigning.init.admitted ops).countP (fun t => a < t ∧ t ≤ a + second) ≤
        maxNatProbeResponsesPerSecond) ∧
    ∀ pre now post, ops = pre ++ .tryAcquire now :: post →
      (exec NatProbeSigning.step .init pre).admits (.tryAcquire now) = false →
      (exec NatProbeSigning.step .init pre).permits.length = maxNatProbeInFlightSignatures ∨
      (NatProbeSigning.init.admitted pre).countP (fun t => now < t + second ∧ t ≤ now) =
        maxNatProbeResponsesPerSecond := by
  have hinit := NatProbeSigning.holds_init (by rwa [List.append_nil] : (ops.filterMap
    SigningOp.clock ++ []).Pairwise (· ≤ ·))
  have h := hinit.exec
  rw [List.nil_append] at h
  refine ⟨h.nodup, h.counted, h.counted.trans_le h.few, fun a => ⟨?_, ?_⟩, ?_⟩
  · refine h.window _ fun t u ht hu => ?_
    simp only [decide_eq_true_eq] at ht hu
    omega
  · refine h.window _ fun t u ht hu => ?_
    simp only [decide_eq_true_eq] at ht hu
    omega
  · rintro pre now post rfl hrefused
    have hbefore : (pre.filterMap SigningOp.clock ++ [now]).Pairwise (· ≤ ·) := by
      refine hclock.sublist ?_
      rw [List.filterMap_append]
      exact List.Sublist.append_left (List.singleton_sublist.mpr (by simp [SigningOp.clock])) _
    have hpre := NatProbeSigning.Holds.exec (NatProbeSigning.holds_init hbefore)
    rw [List.nil_append] at hpre
    obtain ⟨hevict, hold⟩ := hpre.evicted
    rw [NatProbeSigning.admits] at hrefused
    rcases NatProbeSigningBudget.tryAcquire_cases _ now with ⟨-, hfull | hflight⟩ | ⟨heq, -⟩
    · refine .inr (le_antisymm (hpre.window _ fun t u ht hu => ?_) ?_)
      · simp only [decide_eq_true_eq] at ht hu
        omega
      · rw [hevict, recent, ← List.countP_eq_length_filter] at hfull
        refine hfull.trans (List.countP_mono_left fun t ht hnow => ?_)
        simp only [decide_eq_true_eq] at hnow ⊢
        exact ⟨hnow, hold t ht⟩
    · rw [hpre.counted] at hflight
      exact .inl (le_antisymm hpre.few hflight)
    · rw [heq] at hrefused
      cases hrefused

theorem signing_budget_holds_twice :
    (exec NatProbeSigning.step .init [.tryAcquire 5, .tryAcquire 5, .drop 0]).budget.inFlight = 1 := by
  rw [(signing_budget_holds [.tryAcquire 5, .tryAcquire 5, .drop 0] (by decide)).2.1]
  decide

end BuckyP2p.NatProbe
