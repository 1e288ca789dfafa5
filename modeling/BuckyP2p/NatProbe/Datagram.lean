import BuckyP2p.Lib.Bytes
import BuckyP2p.Rendezvous.Message

/-!
# BuckyP2p.NatProbe.Datagram — the datagrams of the NAT probe

The request and the response of `sn/nat_probe.rs`: two packets of the same fixed size, with fields
at fixed offsets.

| bytes      | request        | response                                  |
|------------|----------------|-------------------------------------------|
| 0..4       | magic          | magic                                     |
| 4, 5       | version, kind  | version, kind                             |
| 6, 7       | 0              | 0                                         |
| 8..24      | token          | token                                     |
| 24..28     | 0              | observed IPv4 address                     |
| 28..30     | 0              | observed port                             |
| 30..32     | 0              | length of the signature                   |
| 32..1200   | 0              | signature, then 0                         |

Every index and every range of the source is a checked one here, in the order of the source.  The
private key is the parameter `sign` of `encodeResponse`, and `permit` says what `try_acquire` of the
signing budget returns.
-/

namespace BuckyP2p.NatProbe

open Lib

/-- `b"PNAT"`. -/
def natProbeMagic : List U8 := [80, 78, 65, 84]
def natProbeRequest : U8 := 1
def natProbeResponse : U8 := 2
def natProbeProtocolVersion : U8 := 2
def natProbeTokenOffset : Nat := 8
def natProbeTokenLen : Nat := 16
def natProbeIpv4Offset : Nat := 24
def natProbePortOffset : Nat := 28
def natProbeSignatureLenOffset : Nat := 30
def natProbeSignatureOffset : Nat := 32
def natProbeSignedFieldsLen : Nat := natProbeSignatureOffset
def natProbePacketLen : Nat := 1200
def maxNatProbeSignatureLen : Nat := natProbePacketLen - natProbeSignatureOffset

abbrev NatProbeToken : Type := Vector U8 natProbeTokenLen

def validHeader (packet : List U8) (kind : U8) : Checked Bool := do
  if packet.length ≠ natProbePacketLen then return false
  if (← slice packet 0 4) ≠ natProbeMagic then return false
  if (← byteAt packet 4) ≠ natProbeProtocolVersion then return false
  if (← byteAt packet 5) ≠ kind then return false
  if (← byteAt packet 6) ≠ 0 then return false
  return (← byteAt packet 7) = 0

/-- The fields that requests and responses begin with. -/
def encodeHeader (kind : U8) (token : NatProbeToken) : Checked (List U8) := do
  let packet := List.replicate natProbePacketLen 0
  let packet ← copyFromSlice packet 0 4 natProbeMagic
  let packet ← setAt packet 4 natProbeProtocolVersion
  let packet ← setAt packet 5 kind
  copyFromSlice packet natProbeTokenOffset (natProbeTokenOffset + natProbeTokenLen) token.toList

def encodeRequest (token : NatProbeToken) : Checked (List U8) :=
  encodeHeader natProbeRequest token

def decodeRequest (packet : List U8) : Checked (Option NatProbeToken) := do
  if !(← validHeader packet natProbeRequest) then return none
  if (← sliceFrom packet 24).any (· ≠ 0) then return none
  return tryIntoArray natProbeTokenLen
    (← slice packet natProbeTokenOffset (natProbeTokenOffset + natProbeTokenLen))

def validateSignatureLen (signatureLen : Nat) : P2pResult Unit :=
  if signatureLen = 0 then
    .error ⟨.invalidSignature, "NAT probe signer returned an empty signature"⟩
  else if signatureLen > maxNatProbeSignatureLen then
    .error ⟨.outOfLimit, s!"NAT probe signature is too large: {signatureLen} > {maxNatProbeSignatureLen}"⟩
  else .ok ()

def encodeResponseFields (token : NatProbeToken) (observed : SocketAddr) (signatureLen : Nat) :
    Checked (P2pResult (List U8)) := do
  if let .error err := validateSignatureLen signatureLen then return .error err
  let packet ← encodeHeader natProbeResponse token
  let .v4 ip port := observed
    | return .error ⟨.invalidParam, "NAT probe response requires an IPv4 observed address"⟩
  if ip.isUnspecified || port = 0 then
    return .error
      ⟨.invalidParam, "NAT probe response requires a non-zero observed IPv4 endpoint"⟩
  let packet ← copyFromSlice packet natProbeIpv4Offset (natProbeIpv4Offset + 4)
    [ip.a, ip.b, ip.c, ip.d]
  let packet ← copyFromSlice packet natProbePortOffset (natProbePortOffset + 2) (toBeBytes port)
  let packet ← copyFromSlice packet natProbeSignatureLenOffset natProbeSignatureOffset
    (toBeBytes (Fin.ofNat (2 ^ 16) signatureLen))
  return .ok packet

/-- `DecodedNatProbeResponse`; the two slices of the packet are kept as the bytes they hold. -/
structure DecodedNatProbeResponse where
  token : NatProbeToken
  observed : SocketAddr
  signature : List U8
  signedFields : List U8
  deriving DecidableEq, Repr

def decodeResponseDatagram (packet : List U8) : Checked (Option DecodedNatProbeResponse) := do
  if !(← validHeader packet natProbeResponse) then return none
  let some token := tryIntoArray natProbeTokenLen
      (← slice packet natProbeTokenOffset (natProbeTokenOffset + natProbeTokenLen))
    | return none
  let ip : Ipv4Addr :=
    ⟨← byteAt packet natProbeIpv4Offset, ← byteAt packet (natProbeIpv4Offset + 1),
      ← byteAt packet (natProbeIpv4Offset + 2), ← byteAt packet (natProbeIpv4Offset + 3)⟩
  let port := ofBytes (← byteAt packet natProbePortOffset)
    (← byteAt packet (natProbePortOffset + 1))
  if ip.isUnspecified || port = 0 then return none
  let signatureLen := (ofBytes (← byteAt packet natProbeSignatureLenOffset)
    (← byteAt packet (natProbeSignatureLenOffset + 1))).val
  if signatureLen = 0 || signatureLen > maxNatProbeSignatureLen then return none
  let signatureEnd := natProbeSignatureOffset + signatureLen
  if (← sliceFrom packet signatureEnd).any (· ≠ 0) then return none
  return some
    { token
      observed := .v4 ip port
      signature := ← slice packet natProbeSignatureOffset signatureEnd
      signedFields := ← slice packet 0 natProbeSignedFieldsLen }

/-- `b"CYFS-P2P/PNAT/RESPONSE/V2\0"`. -/
def natProbeSignatureDomain : List U8 :=
  "CYFS-P2P/PNAT/RESPONSE/V2".toList.map (fun c => Fin.ofNat (2 ^ 8) c.toNat) ++ [0]

def responseSignaturePreimage (signerId : P2pId) (signedFields : List U8) : P2pResult (List U8) :=
  if signedFields.length ≠ natProbeSignedFieldsLen then
    .error ⟨.invalidParam, s!"invalid NAT probe signed fields length: {signedFields.length}"⟩
  else if 2 ^ 16 ≤ signerId.length then
    .error ⟨.outOfLimit, s!"NAT probe signer id is too large: {signerId.length}"⟩
  else
    .ok (natProbeSignatureDomain ++ toBeBytes (Fin.ofNat (2 ^ 16) signerId.length) ++ signerId ++
      signedFields)

/-- `NatProbeSigningContext::encode_response`; `signatureLen` is the length that the context was
calibrated to.  `none`: the budget does not admit another signature. -/
def encodeResponse (signerId : P2pId) (signatureLen : Nat) (sign : List U8 → P2pResult (List U8))
    (permit : P2pResult Bool) (token : NatProbeToken) (observed : SocketAddr) :
    Checked (P2pResult (Option (List U8))) := do
  match ← encodeResponseFields token observed signatureLen with
  | .error err => return .error err
  | .ok packet =>
    let preimage := responseSignaturePreimage signerId (← slice packet 0 natProbeSignedFieldsLen)
    match preimage, permit with
    | .error err, _ => return .error err
    | .ok _, .error err => return .error err
    | .ok _, .ok false => return .ok none
    | .ok preimage, .ok true =>
      match sign preimage with
      | .error err => return .error err
      | .ok signature =>
        if let .error err := validateSignatureLen signature.length then return .error err
        if signature.length ≠ signatureLen then
          return .error ⟨.invalidSignature,
            s!"NAT probe signature length drifted: {signature.length} != {signatureLen}"⟩
        let packet ← copyFromSlice packet natProbeSignatureOffset
          (natProbeSignatureOffset + signature.length) signature
        return .ok (some packet)

/-! ### Requests -/

/-- The bytes before the token. -/
def header (kind : U8) : List U8 := natProbeMagic ++ [natProbeProtocolVersion, kind, 0, 0]

theorem header_length (kind : U8) : (header kind).length = natProbeTokenOffset := rfl

theorem token_length (token : NatProbeToken) : token.toList.length = 16 := Vector.length_toList

/-- The header is read inside of the packet, and it is valid exactly if the packet has the fixed
size and begins with it. -/
theorem validHeader_spec (packet : List U8) (kind : U8) :
    ∃ valid, validHeader packet kind = .ok valid ∧
      (valid = true ↔ ∃ body, body.length = 1192 ∧ packet = header kind ++ body) := by
  by_cases hlen : packet.length = natProbePacketLen
  case neg =>
    refine ⟨false, by simp [validHeader, hlen, pure, Except.pure], by simp, ?_⟩
    rintro ⟨body, hbody, rfl⟩
    exact absurd (show (header kind ++ body).length = natProbePacketLen by
      simp [header_length, hbody, natProbeTokenOffset, natProbePacketLen]) hlen
  case pos =>
    -- the packet, cut at the bytes that the check looks at
    obtain ⟨magic, rest, rfl, hmagic⟩ := split_at (p := packet) (a := 4)
      (by rw [hlen]; decide)
    have hrest : rest.length = 1196 := by
      simp [natProbePacketLen] at hlen
      omega
    obtain ⟨b4, r, rfl⟩ := split_one (p := rest) (by omega)
    obtain ⟨b5, r, rfl⟩ := split_one (p := r) (by simp at hrest; omega)
    obtain ⟨b6, r, rfl⟩ := split_one (p := r) (by simp at hrest; omega)
    obtain ⟨b7, body, rfl⟩ := split_one (p := r) (by simp at hrest; omega)
    have h0 : slice (magic ++ b4 :: b5 :: b6 :: b7 :: body) 0 4 = .ok magic :=
      slice_of_split (u := []) rfl rfl (by omega)
    have hat : ∀ i, byteAt (magic ++ b4 :: b5 :: b6 :: b7 :: body) (4 + i) =
        byteAt (b4 :: b5 :: b6 :: b7 :: body) i := fun i => byteAt_of_split rfl hmagic
    have h4 : byteAt (magic ++ b4 :: b5 :: b6 :: b7 :: body) 4 = .ok b4 := hat 0
    have h5 : byteAt (magic ++ b4 :: b5 :: b6 :: b7 :: body) 5 = .ok b5 := hat 1
    have h6 : byteAt (magic ++ b4 :: b5 :: b6 :: b7 :: body) 6 = .ok b6 := hat 2
    have h7 : byteAt (magic ++ b4 :: b5 :: b6 :: b7 :: body) 7 = .ok b7 := hat 3
    have hbody : body.length = 1192 := by
      simp at hrest
      omega
    have hiff : (∃ body', body'.length = 1192 ∧
        magic ++ b4 :: b5 :: b6 :: b7 :: body = header kind ++ body') ↔
        magic = natProbeMagic ∧ b4 = natProbeProtocolVersion ∧ b5 = kind ∧ b6 = 0 ∧ b7 = 0 := by
      constructor
      · rintro ⟨body', -, h⟩
        rw [header, List.append_assoc] at h
        obtain ⟨rfl, htail⟩ := List.append_inj h (by rw [hmagic]; rfl)
        simp only [List.cons_append, List.nil_append, List.cons.injEq] at htail
        exact ⟨rfl, htail.1, htail.2.1, htail.2.2.1, htail.2.2.2.1⟩
      · rintro ⟨rfl, rfl, rfl, rfl, rfl⟩
        exact ⟨body, hbody, by simp [header]⟩
    rw [hiff]
    unfold validHeader
    simp only [hlen, h0, h4, h5, h6, h7, bind, Except.bind, pure, Except.pure]
    by_cases hm : magic = natProbeMagic <;> by_cases hv : b4 = natProbeProtocolVersion <;>
      by_cases hk : b5 = kind <;> by_cases hz : b6 = 0 <;> simp [hm, hv, hk, hz]

theorem encodeHeader_eq (kind : U8) (token : NatProbeToken) :
    encodeHeader kind token = .ok (header kind ++ (token.toList ++ List.replicate 1176 0)) := by
  have hmagic : copyFromSlice (List.replicate natProbePacketLen (0 : U8)) 0 4 natProbeMagic =
      .ok (natProbeMagic ++ List.replicate 1196 0) :=
    copyFromSlice_of_split (u := []) (v := List.replicate 4 0)
      (by rw [List.nil_append, ← List.replicate_add]; rfl) rfl rfl rfl
  have hversion : setAt (natProbeMagic ++ List.replicate 1196 (0 : U8)) 4 natProbeProtocolVersion =
      .ok (natProbeMagic ++ natProbeProtocolVersion :: List.replicate 1195 0) :=
    setAt_of_split (y := 0) rfl rfl
  have hkind : setAt (natProbeMagic ++ natProbeProtocolVersion :: List.replicate 1195 (0 : U8)) 5
      kind = .ok (natProbeMagic ++ [natProbeProtocolVersion] ++ kind :: List.replicate 1194 0) :=
    setAt_of_split (u := natProbeMagic ++ [natProbeProtocolVersion]) (y := 0) rfl rfl
  have htoken : copyFromSlice
      (natProbeMagic ++ [natProbeProtocolVersion] ++ kind :: List.replicate 1194 (0 : U8))
      natProbeTokenOffset (natProbeTokenOffset + natProbeTokenLen) token.toList =
      .ok (header kind ++ (token.toList ++ List.replicate 1176 0)) := by
    refine copyFromSlice_of_split (v := List.replicate 16 0) ?_ rfl (by simp; rfl) (by simp; rfl)
    rw [← List.replicate_add]
    rfl
  simp only [encodeHeader, bind, Except.bind, hmagic, hversion, hkind, htoken]

/-- Zero bytes are what `any` does not find. -/
theorem any_ne_zero_eq_false {bytes : List U8} :
    bytes.any (· ≠ 0) = false ↔ bytes = List.replicate bytes.length 0 := by
  simp [List.eq_replicate_iff]

theorem decodeRequest_spec (token : NatProbeToken) {rest : List U8} (hrest : rest.length = 1176) :
    decodeRequest (header natProbeRequest ++ (token.toList ++ rest)) =
      .ok (if rest.any (· ≠ 0) then none else some token) := by
  obtain ⟨valid, hvalid, hiff⟩ := validHeader_spec
    (header natProbeRequest ++ (token.toList ++ rest)) natProbeRequest
  have htrue : valid = true := hiff.mpr 
    ⟨token.toList ++ rest, by rw [List.length_append, token_length, hrest], rfl⟩
  have hfrom : sliceFrom (header natProbeRequest ++ (token.toList ++ rest)) 24 = .ok rest :=
    sliceFrom_of_split (u := header natProbeRequest ++ token.toList) (by simp)
      (by simp [header_length]; rfl)
  have htoken : slice (header natProbeRequest ++ (token.toList ++ rest)) natProbeTokenOffset
      (natProbeTokenOffset + natProbeTokenLen) = .ok token.toList :=
    slice_of_split rfl (header_length _) (by simp)
  simp only [decodeRequest, bind, Except.bind, pure, Except.pure, hvalid, htrue, hfrom, htoken,
    tryIntoArray_toList]
  cases rest.any (· ≠ 0) <;> rfl

/-- A packet with a valid header has a token. -/
theorem exists_token {body : List U8} (hbody : body.length = 1192) :
    ∃ (token : NatProbeToken) (rest : List U8), rest.length = 1176 ∧ body = token.toList ++ rest := by
  obtain ⟨bytes, rest, rfl, hbytes⟩ := split_at (p := body) (a := 16) (by omega)
  obtain ⟨token, rfl⟩ := exists_array_of_length hbytes
  refine ⟨token, rest, ?_, rfl⟩
  rw [List.length_append, hbytes] at hbody
  omega

theorem decodeRequest_of_invalid {packet : List U8}
    (h : validHeader packet natProbeRequest = .ok false) : decodeRequest packet = .ok none := by
  simp [decodeRequest, bind, Except.bind, pure, Except.pure, h]

/-- A request is read inside of the packet. -/
theorem decodeRequest_checked (packet : List U8) : ∃ token, decodeRequest packet = .ok token := by
  obtain ⟨valid, hvalid, hiff⟩ := validHeader_spec packet natProbeRequest
  cases valid with
  | false => exact ⟨none, decodeRequest_of_invalid hvalid⟩
  | true =>
    obtain ⟨body, hbody, rfl⟩ := hiff.mp rfl
    obtain ⟨token, rest, hrest, rfl⟩ := exists_token hbody
    exact ⟨_, decodeRequest_spec token hrest⟩

theorem decodeRequest_eq_some_iff (packet : List U8) (token : NatProbeToken) :
    decodeRequest packet = .ok (some token) ↔ encodeRequest token = .ok packet := by
  rw [encodeRequest, encodeHeader_eq]
  constructor
  · intro h
    obtain ⟨valid, hvalid, hiff⟩ := validHeader_spec packet natProbeRequest
    cases valid with
    | false =>
      rw [decodeRequest_of_invalid hvalid] at h
      cases h
    | true =>
      obtain ⟨body, hbody, rfl⟩ := hiff.mp rfl
      obtain ⟨token', rest, hrest, rfl⟩ := exists_token hbody
      rw [decodeRequest_spec token' hrest] at h
      split at h
      case isTrue => cases h
      case isFalse hany =>
        have hzero := any_ne_zero_eq_false.mp (by simpa using hany)
        cases h
        rw [hzero, hrest]
  · intro h
    cases h
    have hany : (List.replicate 1176 (0 : U8)).any (· ≠ 0) = false :=
      any_ne_zero_eq_false.mpr (by rw [List.length_replicate])
    rw [decodeRequest_spec token List.length_replicate, hany]
    rfl

/-! ### Responses -/

/-- The bytes before the signature. -/
def responseFields (token : NatProbeToken) (ip : Ipv4Addr) (port signatureLen : U16) : List U8 :=
  header natProbeResponse ++
    (token.toList ++ ([ip.a, ip.b, ip.c, ip.d] ++ (toBeBytes port ++ toBeBytes signatureLen)))

theorem responseFields_length (token : NatProbeToken) (ip : Ipv4Addr) (port signatureLen : U16) :
    (responseFields token ip port signatureLen).length = natProbeSignatureOffset := by
  rw [responseFields, List.length_append, List.length_append, token_length]
  rfl

theorem take_responseFields (token : NatProbeToken) (ip : Ipv4Addr) (port signatureLen : U16)
    (tail : List U8) : (responseFields token ip port signatureLen ++ tail).take
      natProbeSignedFieldsLen = responseFields token ip port signatureLen :=
  List.take_left' (responseFields_length token ip port signatureLen)

theorem validateSignatureLen_eq_ok {n : Nat} :
    validateSignatureLen n = .ok () ↔ 1 ≤ n ∧ n ≤ maxNatProbeSignatureLen := by
  unfold validateSignatureLen
  split_ifs <;> simp <;> omega

theorem encodeResponseFields_eq (token : NatProbeToken) {ip : Ipv4Addr} {port : U16} {n : Nat}
    (hip : ip.isUnspecified = false) (hport : port ≠ 0)
    (hn : 1 ≤ n ∧ n ≤ maxNatProbeSignatureLen) :
    encodeResponseFields token (.v4 ip port) n =
      .ok (.ok (responseFields token ip port (Fin.ofNat (2 ^ 16) n) ++ List.replicate 1168 0)) := by
  -- the three fields, each written over zero bytes
  obtain ⟨pre, hfields⟩ : ∃ pre, pre = header natProbeResponse ++ token.toList := ⟨_, rfl⟩
  have hpre : pre.length = natProbeIpv4Offset := by
    rw [hfields, List.length_append, header_length, token_length]
    rfl
  have haddr : copyFromSlice (header natProbeResponse ++ (token.toList ++ List.replicate 1176 0))
      natProbeIpv4Offset (natProbeIpv4Offset + 4) [ip.a, ip.b, ip.c, ip.d] =
      .ok (pre ++ ([ip.a, ip.b, ip.c, ip.d] ++ List.replicate 1172 0)) := by
    refine copyFromSlice_of_split (v := List.replicate 4 0) ?_ hpre rfl rfl
    rw [← List.replicate_add, hfields, List.append_assoc]
  have hportBytes : copyFromSlice (pre ++ ([ip.a, ip.b, ip.c, ip.d] ++ List.replicate 1172 0))
      natProbePortOffset (natProbePortOffset + 2) (toBeBytes port) =
      .ok (pre ++ [ip.a, ip.b, ip.c, ip.d] ++ (toBeBytes port ++ List.replicate 1170 0)) := by
    refine copyFromSlice_of_split (v := List.replicate 2 0) ?_ ?_ rfl rfl
    · rw [← List.replicate_add, List.append_assoc]
    · rw [List.length_append, hpre]
      rfl
  have hlenBytes : copyFromSlice
      (pre ++ [ip.a, ip.b, ip.c, ip.d] ++ (toBeBytes port ++ List.replicate 1170 0))
      natProbeSignatureLenOffset natProbeSignatureOffset
      (toBeBytes (Fin.ofNat (2 ^ 16) n)) =
      .ok (pre ++ [ip.a, ip.b, ip.c, ip.d] ++ toBeBytes port ++
        (toBeBytes (Fin.ofNat (2 ^ 16) n) ++ List.replicate 1168 0)) := by
    refine copyFromSlice_of_split (v := List.replicate 2 0) ?_ ?_ rfl rfl
    · rw [← List.replicate_add, List.append_assoc _ (toBeBytes port)]
    · rw [List.length_append, List.length_append, hpre]
      rfl
  have hresult : pre ++ [ip.a, ip.b, ip.c, ip.d] ++ toBeBytes port ++
      (toBeBytes (Fin.ofNat (2 ^ 16) n) ++ List.replicate 1168 0) =
      responseFields token ip port (Fin.ofNat (2 ^ 16) n) ++ List.replicate 1168 0 := by
    simp only [responseFields, hfields, List.append_assoc]
  unfold encodeResponseFields
  rw [validateSignatureLen_eq_ok.mpr hn]
  simp only [bind, Except.bind, pure, Except.pure, encodeHeader_eq, hip, hport, haddr, hportBytes,
    hlenBytes, hresult]
  rfl

/-- Only an IPv4 endpoint with an address and a port, and a length in range, is encoded. -/
theorem encodeResponseFields_eq_ok_iff {token : NatProbeToken} {observed : SocketAddr} {n : Nat}
    {packet : List U8} : encodeResponseFields token observed n = .ok (.ok packet) ↔
      ∃ ip port, observed = .v4 ip port ∧ ip.isUnspecified = false ∧ port ≠ 0 ∧
        (1 ≤ n ∧ n ≤ maxNatProbeSignatureLen) ∧
        packet = responseFields token ip port (Fin.ofNat (2 ^ 16) n) ++ List.replicate 1168 0 := by
  constructor
  · intro h
    have hn : 1 ≤ n ∧ n ≤ maxNatProbeSignatureLen := by
      rw [← validateSignatureLen_eq_ok]
      cases hv : validateSignatureLen n with
      | ok _ => rfl
      | error err =>
        rw [encodeResponseFields, hv] at h
        cases h
    cases observed with
    | v6 segments port flowinfo scopeId =>
      rw [encodeResponseFields, validateSignatureLen_eq_ok.mpr hn] at h
      simp only [bind, Except.bind, pure, Except.pure, encodeHeader_eq] at h
      cases h
    | v4 ip port =>
      by_cases hzero : (ip.isUnspecified || port = 0) = true
      · rw [encodeResponseFields, validateSignatureLen_eq_ok.mpr hn] at h
        simp only [bind, Except.bind, pure, Except.pure, encodeHeader_eq, hzero] at h
        cases h
      · simp only [Bool.or_eq_true, decide_eq_true_eq, not_or, Bool.not_eq_true] at hzero
        rw [encodeResponseFields_eq token hzero.1 hzero.2 hn] at h
        cases h
        exact ⟨ip, port, rfl, hzero.1, hzero.2, hn, rfl⟩
  · rintro ⟨ip, port, rfl, hip, hport, hn, rfl⟩
    exact encodeResponseFields_eq token hip hport hn

/-- A packet with a valid header has all the fields of a response. -/
theorem exists_responseFields {body : List U8} (hbody : body.length = 1192) :
    ∃ token ip port signatureLen tail, tail.length = 1168 ∧
      header natProbeResponse ++ body = responseFields token ip port signatureLen ++ tail := by
  obtain ⟨token, rest, hrest, rfl⟩ := exists_token hbody
  obtain ⟨a, r, rfl⟩ := split_one (p := rest) (by omega)
  obtain ⟨b, r, rfl⟩ := split_one (p := r) (by simp at hrest; omega)
  obtain ⟨c, r, rfl⟩ := split_one (p := r) (by simp at hrest; omega)
  obtain ⟨d, r, rfl⟩ := split_one (p := r) (by simp at hrest; omega)
  obtain ⟨ph, r, rfl⟩ := split_one (p := r) (by simp at hrest; omega)
  obtain ⟨pl, r, rfl⟩ := split_one (p := r) (by simp at hrest; omega)
  obtain ⟨lh, r, rfl⟩ := split_one (p := r) (by simp at hrest; omega)
  obtain ⟨ll, tail, rfl⟩ := split_one (p := r) (by simp at hrest; omega)
  refine ⟨token, ⟨a, b, c, d⟩, ofBytes ph pl, ofBytes lh ll, tail, by simp at hrest; omega, ?_⟩
  simp [responseFields, toBeBytes]

theorem decodeResponseDatagram_of_invalid {packet : List U8}
    (h : validHeader packet natProbeResponse = .ok false) :
    decodeResponseDatagram packet = .ok none := by
  simp [decodeResponseDatagram, bind, Except.bind, pure, Except.pure, h]

/-- What `decode_response_datagram` makes of the fields of a packet. -/
def decodeFields (token : NatProbeToken) (ip : Ipv4Addr) (port signatureLen : U16)
    (tail : List U8) : Option DecodedNatProbeResponse :=
  if ip.isUnspecified || port = 0 then none
  else if signatureLen.val = 0 || signatureLen.val > maxNatProbeSignatureLen then none
  else if (tail.drop signatureLen.val).any (· ≠ 0) then none
  else some
    { token
      observed := .v4 ip port
      signature := tail.take signatureLen.val
      signedFields := responseFields token ip port signatureLen }

theorem decodeResponseDatagram_spec (token : NatProbeToken) (ip : Ipv4Addr)
    (port signatureLen : U16) {tail : List U8} (htail : tail.length = 1168) :
    decodeResponseDatagram (responseFields token ip port signatureLen ++ tail) =
      .ok (decodeFields token ip port signatureLen tail) := by
  obtain ⟨packet, hpacket⟩ :
    ∃ packet, packet = responseFields token ip port signatureLen ++ tail := ⟨_, rfl⟩
  have hsplit : packet = header natProbeResponse ++ (token.toList ++
      (ip.a :: ip.b :: ip.c :: ip.d :: highByte port :: lowByte port :: highByte signatureLen ::
        lowByte signatureLen :: tail)) := by
    simp [hpacket, responseFields, toBeBytes]
  obtain ⟨valid, hvalid, hiff⟩ := validHeader_spec packet natProbeResponse
  have htrue : valid = true := by
    refine hiff.mpr ⟨_, ?_, hsplit⟩
    simp only [List.length_append, token_length, List.length_cons, htail]
  have hlen : packet.length = natProbePacketLen := by
    rw [hpacket, List.length_append, responseFields_length, htail]
    rfl
  -- the accesses of the decoder, in its order
  have htoken : slice packet natProbeTokenOffset (natProbeTokenOffset + natProbeTokenLen) =
      .ok token.toList := slice_of_split hsplit (header_length _) (by simp)
  obtain ⟨pre, hfields⟩ : ∃ pre, pre = header natProbeResponse ++ token.toList := ⟨_, rfl⟩
  have hpre : pre.length = natProbeIpv4Offset := by
    rw [hfields, List.length_append, header_length, token_length]
    rfl
  have hbytes : packet = pre ++ (ip.a :: ip.b :: ip.c :: ip.d :: highByte port :: lowByte port ::
      highByte signatureLen :: lowByte signatureLen :: tail) := by
    rw [hsplit, hfields, List.append_assoc]
  have hat : ∀ i, byteAt packet (natProbeIpv4Offset + i) = byteAt (ip.a :: ip.b :: ip.c :: ip.d ::
      highByte port :: lowByte port :: highByte signatureLen :: lowByte signatureLen :: tail) i :=
    fun i => byteAt_of_split hbytes hpre
  have ha : byteAt packet natProbeIpv4Offset = .ok ip.a := hat 0
  have hb : byteAt packet (natProbeIpv4Offset + 1) = .ok ip.b := hat 1
  have hc : byteAt packet (natProbeIpv4Offset + 2) = .ok ip.c := hat 2
  have hd : byteAt packet (natProbeIpv4Offset + 3) = .ok ip.d := hat 3
  have hp : byteAt packet natProbePortOffset = .ok (highByte port) := hat 4
  have hp' : byteAt packet (natProbePortOffset + 1) = .ok (lowByte port) := hat 5
  have hl : byteAt packet natProbeSignatureLenOffset = .ok (highByte signatureLen) := hat 6
  have hl' : byteAt packet (natProbeSignatureLenOffset + 1) = .ok (lowByte signatureLen) := hat 7
  have hsigned : slice packet 0 natProbeSignedFieldsLen =
      .ok (responseFields token ip port signatureLen) :=
    slice_of_split (u := []) hpacket rfl (by rw [responseFields_length]; rfl)
  rw [← hpacket]
  unfold decodeResponseDatagram decodeFields
  simp only [bind, Except.bind, pure, Except.pure, hvalid, htrue, htoken, tryIntoArray_toList, ha, hb,
    hc, hd, hp, hp', hl, hl', ofBytes_bytes, hsigned]
  by_cases hzero : (ip.isUnspecified || port = 0) = true
  · simp only [hzero, Bool.not_true, Bool.false_eq_true, if_false, if_true]
  by_cases hrange : (signatureLen.val = 0 || signatureLen.val > maxNatProbeSignatureLen) = true
  · simp only [hzero, hrange, Bool.not_true, Bool.false_eq_true, if_false, if_true]
  -- the signature ends inside of the packet
  have hle : signatureLen.val ≤ tail.length := by
    simp only [Bool.or_eq_true, decide_eq_true_eq, not_or, Nat.not_lt] at hrange
    exact hrange.2.trans htail.ge
  obtain ⟨signature, padding, rfl, hsignature⟩ := split_at hle
  have hfrom : sliceFrom packet (natProbeSignatureOffset + signatureLen.val) = .ok padding :=
    sliceFrom_of_split (by rw [hpacket, ← List.append_assoc])
      (by rw [List.length_append, responseFields_length, hsignature])
  have hslice : slice packet natProbeSignatureOffset (natProbeSignatureOffset + signatureLen.val) =
      .ok signature :=
    slice_of_split hpacket (responseFields_length ..) (by rw [hsignature])
  simp only [hzero, hrange, hfrom, hslice, List.drop_left' hsignature, List.take_left' hsignature]
  cases padding.any (· ≠ 0) <;> rfl

/-- A response is read inside of the packet. -/
theorem decodeResponseDatagram_checked (packet : List U8) :
    ∃ response, decodeResponseDatagram packet = .ok response := by
  obtain ⟨valid, hvalid, hiff⟩ := validHeader_spec packet natProbeResponse
  cases valid with
  | false => exact ⟨none, decodeResponseDatagram_of_invalid hvalid⟩
  | true =>
    obtain ⟨body, hbody, rfl⟩ := hiff.mp rfl
    obtain ⟨token, ip, port, signatureLen, tail, htail, hsplit⟩ := exists_responseFields hbody
    exact ⟨_, hsplit ▸ decodeResponseDatagram_spec token ip port signatureLen htail⟩

/-- A packet that gives a response is the fields of one with a tail. -/
theorem exists_decodeFields {packet : List U8} {response : DecodedNatProbeResponse}
    (h : decodeResponseDatagram packet = .ok (some response)) :
    ∃ token ip port len tail, tail.length = 1168 ∧ packet = responseFields token ip port len ++ tail ∧
      decodeFields token ip port len tail = some response := by
  obtain ⟨valid, hvalid, hiff⟩ := validHeader_spec packet natProbeResponse
  cases valid with
  | false =>
    rw [decodeResponseDatagram_of_invalid hvalid] at h
    cases h
  | true =>
    obtain ⟨body, hbody, rfl⟩ := hiff.mp rfl
    obtain ⟨token, ip, port, len, tail, htail, hsplit⟩ := exists_responseFields hbody
    rw [hsplit, decodeResponseDatagram_spec token ip port len htail] at h
    exact ⟨token, ip, port, len, tail, htail, hsplit, Except.ok.inj h⟩

theorem decodeFields_eq_some_iff {token : NatProbeToken} {ip : Ipv4Addr} {port signatureLen : U16}
    {tail : List U8} {response : DecodedNatProbeResponse} (htail : tail.length = 1168) :
    decodeFields token ip port signatureLen tail = some response ↔
      ip.isUnspecified = false ∧ port ≠ 0 ∧
        (1 ≤ signatureLen.val ∧ signatureLen.val ≤ maxNatProbeSignatureLen) ∧
        tail.drop signatureLen.val = List.replicate (1168 - signatureLen.val) 0 ∧
        response = ⟨token, .v4 ip port, tail.take signatureLen.val,
          responseFields token ip port signatureLen⟩ := by
  have hzeros : (tail.drop signatureLen.val).any (· ≠ 0) = false ↔
      tail.drop signatureLen.val = List.replicate (1168 - signatureLen.val) 0 := by
    rw [any_ne_zero_eq_false, List.length_drop, htail]
  unfold decodeFields
  rw [← hzeros]
  split_ifs with h1 h2 h3
  · simp only [Bool.or_eq_true, decide_eq_true_eq] at h1
    constructor
    · exact nofun
    · rintro ⟨hip, hport, -⟩
      rcases h1 with h | h
      · rw [hip] at h
        cases h
      · exact absurd h hport
  · simp only [Bool.or_eq_true, decide_eq_true_eq] at h2
    constructor
    · exact nofun
    · rintro ⟨-, -, hrange, -⟩
      omega
  · constructor
    · exact nofun
    · rintro ⟨-, -, -, hany, -⟩
      rw [hany] at h3
      cases h3
  · simp only [Bool.or_eq_true, decide_eq_true_eq, not_or, Bool.not_eq_true] at h1 h2
    constructor
    · intro h
      exact ⟨h1.1, h1.2, by omega, by simpa using h3, (Option.some.inj h).symm⟩
    · rintro ⟨-, -, -, -, rfl⟩
      rfl

/-- The datagrams that are accepted as a response are exactly those that the encoder builds, with a
signature of the announced length copied behind the fields. -/
theorem decodeResponseDatagram_eq_some_iff (packet : List U8) (response : DecodedNatProbeResponse) :
    decodeResponseDatagram packet = .ok (some response) ↔
      ∃ token ip port n signature fields, ip.isUnspecified = false ∧ port ≠ 0 ∧
        (1 ≤ n ∧ n ≤ maxNatProbeSignatureLen) ∧
        encodeResponseFields token (.v4 ip port) n = .ok (.ok fields) ∧
        copyFromSlice fields natProbeSignatureOffset (natProbeSignatureOffset + n) signature =
          .ok packet ∧
        response = ⟨token, .v4 ip port, signature, packet.take natProbeSignedFieldsLen⟩ := by
  constructor
  · intro h
    obtain ⟨token, ip, port, len, tail, htail, rfl, hdecode⟩ := exists_decodeFields h
    obtain ⟨hip, hport, hrange, hzeros, rfl⟩ := (decodeFields_eq_some_iff htail).mp hdecode
    have hlen : Fin.ofNat (2 ^ 16) len.val = len := Fin.ofNat_val_eq_self len
    have hmax : len.val ≤ 1168 := hrange.2
    have hfields := encodeResponseFields_eq token hip hport hrange
    rw [hlen] at hfields
    have hcopy := copyFromSlice_of_split (u := responseFields token ip port len)
      (v := List.replicate len.val (0 : U8)) (w := List.replicate (1168 - len.val) 0)
      (by rw [← List.replicate_add, Nat.add_sub_cancel' hmax])
      (responseFields_length token ip port len) (by rw [List.length_replicate])
      (show (tail.take len.val).length = (List.replicate len.val (0 : U8)).length by
        rw [List.length_take, List.length_replicate, htail]
        omega)
    rw [← hzeros, List.take_append_drop] at hcopy
    refine ⟨token, ip, port, len.val, tail.take len.val, _, hip, hport, hrange, hfields, hcopy, ?_⟩
    rw [take_responseFields]
  · rintro ⟨token, ip, port, n, signature, fields, hip, hport, hrange, hfields, hcopy, rfl⟩
    rw [encodeResponseFields_eq token hip hport hrange] at hfields
    cases hfields
    have hmax : n ≤ 1168 := hrange.2
    have hlen : (Fin.ofNat (2 ^ 16) n).val = n := Nat.mod_eq_of_lt (by omega)
    obtain ⟨xs, ys, zs, hsplit, hxs, hys, hsig, rfl⟩ := copyFromSlice_eq_ok hcopy
    obtain ⟨rfl, hzeros⟩ := List.append_inj hsplit (by rw [responseFields_length, hxs])
    have hsize : signature.length = n := by omega
    have hpad : zs = List.replicate (1168 - n) 0 := by
      have hdrop := congrArg (List.drop n) hzeros
      rw [List.drop_left' (by omega), List.drop_replicate] at hdrop
      exact hdrop.symm
    have htail : (signature ++ zs).length = 1168 := by
      rw [List.length_append, hpad, List.length_replicate]
      omega
    rw [decodeResponseDatagram_spec token ip port _ htail]
    refine congrArg Except.ok ((decodeFields_eq_some_iff htail).mpr ⟨hip, hport, ?_, ?_, ?_⟩)
    · rw [hlen]
      exact hrange
    · rw [hlen, List.drop_left' hsize, hpad]
    · rw [hlen, List.take_left' hsize, take_responseFields]

/-- **A NAT probe datagram parses exactly when an encoder built it**, to what was encoded, and no
byte outside of it is read. -/
theorem datagrams_parse_exactly (packet : List U8) :
    (∀ token, decodeRequest packet = .ok (some token) ↔ encodeRequest token = .ok packet) ∧
    (∀ response, decodeResponseDatagram packet = .ok (some response) ↔
      ∃ token ip port n signature fields, ip.isUnspecified = false ∧ port ≠ 0 ∧
        (1 ≤ n ∧ n ≤ maxNatProbeSignatureLen) ∧
        encodeResponseFields token (.v4 ip port) n = .ok (.ok fields) ∧
        copyFromSlice fields natProbeSignatureOffset (natProbeSignatureOffset + n) signature =
          .ok packet ∧
        response = ⟨token, .v4 ip port, signature, packet.take natProbeSignedFieldsLen⟩) ∧
    (∃ token, decodeRequest packet = .ok token) ∧
    (∃ response, decodeResponseDatagram packet = .ok response) :=
  ⟨decodeRequest_eq_some_iff packet, decodeResponseDatagram_eq_some_iff packet,
    decodeRequest_checked packet, decodeResponseDatagram_checked packet⟩

end BuckyP2p.NatProbe
