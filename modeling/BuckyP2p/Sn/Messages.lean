import BuckyP2p.Sn.Call
import BuckyP2p.Sn.Extension

/-!
# BuckyP2p.Sn.Messages — the SN messages that carry extensions (`sn/protocol/sn.rs`)

`ReportSn`, `ReportSnResp`, `SnQueryResp`, `SnDetailResp` and `SnCall`, their legacy structures, and
their codecs.  A decoder drops the optional parts that it does not support: `supported` is what it
leaves of a message.

`Codecs` are the codecs that the messages are made of: those of `bucky_raw_codec` and those that it
derives.  Not every one of them loses nothing: the flow and scope of an IPv6 endpoint are not encoded,
nor is the part of a receipt's duration below a millisecond.  So the results speak of a value and of
what its codec gives back.
-/

namespace BuckyP2p.Sn

open Lib NatProbe

/-! ## Messages -/

abbrev P2pSignature : Type := List U8

inductive SnServiceGrade
  | none | discard | passable | normal | fine | wonderfull
  deriving DecidableEq, Repr

inductive SnServiceReceiptVersion
  | invalid | current
  deriving DecidableEq, Repr

/-- Durations and times are in nanoseconds. -/
structure SnServiceReceipt where
  version : SnServiceReceiptVersion
  grade : SnServiceGrade
  rto : U16
  duration : Nat
  startTime : Int
  pingCount : U32
  pingRespCount : U32
  calledCount : U32
  callPeerCount : U32
  connectPeerCount : U32
  callDelay : U16
  deriving DecidableEq, Repr

structure ReceiptWithSignature where
  receipt : SnServiceReceipt
  signature : P2pSignature
  deriving DecidableEq, Repr

structure LegacyReportSn where
  protocolVersion : U8
  stackVersion : U32
  seq : Sequence
  snPeerId : P2pId
  fromPeerId : Option P2pId
  peerInfo : Option EncodedP2pIdentityCert
  sendTime : Timestamp
  contractId : Option P2pId
  receipt : Option ReceiptWithSignature
  mapPorts : List (Protocol × U16)
  localEps : List Endpoint
  deriving DecidableEq, Repr

structure ReportSn where
  protocolVersion : U8
  stackVersion : U32
  seq : Sequence
  snPeerId : P2pId
  fromPeerId : Option P2pId
  peerInfo : Option EncodedP2pIdentityCert
  sendTime : Timestamp
  contractId : Option P2pId
  receipt : Option ReceiptWithSignature
  mapPorts : List (Protocol × U16)
  localEps : List Endpoint
  netProfile : Option NatProfile
  natProbeControlVersion : Option U8
  natProbeResult : Option NatProbeResult
  deriving DecidableEq, Repr

structure ReportSnProbeControl where
  version : U8
  result : Option NatProbeResult
  deriving DecidableEq, Repr

structure LegacyReportSnResp where
  seq : Sequence
  snPeerId : P2pId
  result : U8
  peerInfo : Option EncodedP2pIdentityCert
  endPointArray : List Endpoint
  receipt : Option SnServiceReceipt
  deriving DecidableEq, Repr

structure ReportSnResp where
  seq : Sequence
  snPeerId : P2pId
  result : U8
  peerInfo : Option EncodedP2pIdentityCert
  endPointArray : List Endpoint
  receipt : Option SnServiceReceipt
  natProbePorts : List U16
  natProbeDirective : Option NatProbeDirective
  deriving DecidableEq, Repr

structure LegacySnQueryResp where
  seq : Sequence
  peerInfo : Option EncodedP2pIdentityCert
  endPointArray : List Endpoint
  deriving DecidableEq, Repr

structure SnQueryResp where
  seq : Sequence
  peerInfo : Option EncodedP2pIdentityCert
  endPointArray : List Endpoint
  netProfile : Option NatProfile
  targetProtocolVersion : Option U8
  deriving DecidableEq, Repr

structure LegacySnDetailResp where
  peerInfo : Option EncodedP2pIdentityCert
  endPointArray : List Endpoint
  deriving DecidableEq, Repr

structure SnDetailResp where
  peerInfo : Option EncodedP2pIdentityCert
  endPointArray : List Endpoint
  netProfile : Option NatProfile
  targetProtocolVersion : Option U8
  deriving DecidableEq, Repr

structure LegacySnCall where
  protocolVersion : U8
  stackVersion : U32
  seq : Sequence
  tunnelId : TunnelId
  snPeerId : P2pId
  toPeerId : P2pId
  fromPeerId : P2pId
  reverseEndpointArray : Option (List Endpoint)
  activePnList : Option (List P2pId)
  peerInfo : Option EncodedP2pIdentityCert
  sendTime : Timestamp
  callType : TunnelType
  payload : List U8
  isAlwaysCall : Bool
  deriving DecidableEq, Repr

/-! ## What a decoder supports -/

def supportedNatProfile (profile : Option NatProfile) : Option NatProfile :=
  profile.filter NatProfile.isSupported

/-- A set has as many elements as the ports have different ones. -/
def supportedNatProbePorts (ports : List U16) : Bool :=
  2 ≤ ports.length && ports.length ≤ maxNatProbeEndpoints && ports.all (· ≠ 0) &&
    ports.dedup.length = ports.length

def supportedProbeControl (control : Option ReportSnProbeControl) : Option ReportSnProbeControl :=
  control.filter fun control => control.version = natProbeControlVersion

def directiveSupported (d : NatProbeDirective) : Bool :=
  d.version = natProbeControlVersion && supportedNatProbePorts d.ports

def natTraversalContextVersion : U8 := 1

/-- `NatTraversalContext::is_supported`. -/
def NatTraversalContext.isSupported (c : NatTraversalContext) : Bool :=
  c.version = natTraversalContextVersion

def supportedNatContext (context : Option NatTraversalContext) : Option NatTraversalContext :=
  context.filter fun c => c.version = natTraversalContextVersion && c.callerProfile.isSupported &&
    c.calleeProfile.isSupported

/-! ## Codecs -/

variable {Purpose : Type}

/-- The codecs that the messages are made of. -/
structure Codecs (Purpose : Type) where
  wire : Wire Purpose
  natProfile : Codec Purpose NatProfile
  reportSnProbeControl : Codec Purpose ReportSnProbeControl
  ports : Codec Purpose (List U16)
  natProbeDirective : Codec Purpose NatProbeDirective
  natTraversalContext : Codec Purpose NatTraversalContext
  legacyReportSn : Codec Purpose LegacyReportSn
  legacyReportSnResp : Codec Purpose LegacyReportSnResp
  legacySnQueryResp : Codec Purpose LegacySnQueryResp
  legacySnDetailResp : Codec Purpose LegacySnDetailResp
  legacySnCall : Codec Purpose LegacySnCall

namespace ReportSn

def extensionMagic : U32 := fromBeBytes "RSNP"
def probeResultExtensionMagic : U32 := fromBeBytes "RSNR"

/-- `LegacyReportSn::from`. -/
def legacy (m : ReportSn) : LegacyReportSn where
  protocolVersion := m.protocolVersion
  stackVersion := m.stackVersion
  seq := m.seq
  snPeerId := m.snPeerId
  fromPeerId := m.fromPeerId
  peerInfo := m.peerInfo
  sendTime := m.sendTime
  contractId := m.contractId
  receipt := m.receipt
  mapPorts := m.mapPorts
  localEps := m.localEps

def probeControl (m : ReportSn) : Option ReportSnProbeControl :=
  if m.natProbeControlVersion.isSome || m.natProbeResult.isSome then
    some ⟨m.natProbeControlVersion.getD 0, m.natProbeResult⟩
  else none

def parts (m : ReportSn) : Format.Parts LegacyReportSn NatProfile ReportSnProbeControl :=
  (m.legacy, m.netProfile, m.probeControl)

def format (cs : Codecs Purpose) : Format Purpose LegacyReportSn NatProfile ReportSnProbeControl :=
  ⟨cs.legacyReportSn, cs.natProfile, extensionMagic, cs.reportSnProbeControl,
    probeResultExtensionMagic⟩

/-- What `raw_decode` makes of the parts. -/
def build (legacy : LegacyReportSn) (netProfile : Option NatProfile)
    (probeControl : Option ReportSnProbeControl) : ReportSn :=
  let netProfile := supportedNatProfile netProfile
  let probeControl := supportedProbeControl probeControl
  let natProbeControlVersion := probeControl.map fun control => control.version
  let natProbeResult :=
    (probeControl.bind fun control => control.result).filter NatProbeResult.isSupported
  { protocolVersion := legacy.protocolVersion
    stackVersion := legacy.stackVersion
    seq := legacy.seq
    snPeerId := legacy.snPeerId
    fromPeerId := legacy.fromPeerId
    peerInfo := legacy.peerInfo
    sendTime := legacy.sendTime
    contractId := legacy.contractId
    receipt := legacy.receipt
    mapPorts := legacy.mapPorts
    localEps := legacy.localEps
    netProfile, natProbeControlVersion, natProbeResult }

def codec (cs : Codecs Purpose) : Codec Purpose ReportSn :=
  (format cs).codec cs.wire parts build

/-- The message without the parts that are not supported.  Version and result of the probe control
are one part. -/
def supported (m : ReportSn) : ReportSn :=
  { m with
    netProfile := supportedNatProfile m.netProfile
    natProbeControlVersion := m.natProbeControlVersion.filter (· = NatProbe.natProbeControlVersion)
    natProbeResult :=
      if m.natProbeControlVersion = some NatProbe.natProbeControlVersion then
        m.natProbeResult.filter NatProbeResult.isSupported
      else none }

end ReportSn

namespace ReportSnResp

def extensionMagic : U32 := fromBeBytes "RSRP"
def probeDirectiveExtensionMagic : U32 := fromBeBytes "RSRD"

/-- `LegacyReportSnResp::from`. -/
def legacy (m : ReportSnResp) : LegacyReportSnResp where
  seq := m.seq
  snPeerId := m.snPeerId
  result := m.result
  peerInfo := m.peerInfo
  endPointArray := m.endPointArray
  receipt := m.receipt

def extension (m : ReportSnResp) : Option (List U16) :=
  if !m.natProbePorts.isEmpty then some m.natProbePorts else none

def parts (m : ReportSnResp) : Format.Parts LegacyReportSnResp (List U16) NatProbeDirective :=
  (m.legacy, m.extension, m.natProbeDirective)

def format (cs : Codecs Purpose) :
    Format Purpose LegacyReportSnResp (List U16) NatProbeDirective :=
  ⟨cs.legacyReportSnResp, cs.ports, extensionMagic, cs.natProbeDirective,
    probeDirectiveExtensionMagic⟩

def build (legacy : LegacyReportSnResp) (natProbePorts : Option (List U16))
    (natProbeDirective : Option NatProbeDirective) : ReportSnResp :=
  let natProbePorts := (natProbePorts.filter supportedNatProbePorts).getD []
  let natProbeDirective := natProbeDirective.filter directiveSupported
  { seq := legacy.seq
    snPeerId := legacy.snPeerId
    result := legacy.result
    peerInfo := legacy.peerInfo
    endPointArray := legacy.endPointArray
    receipt := legacy.receipt
    natProbePorts, natProbeDirective }

def codec (cs : Codecs Purpose) : Codec Purpose ReportSnResp :=
  (format cs).codec cs.wire parts build

def supported (m : ReportSnResp) : ReportSnResp :=
  { m with
    natProbePorts := if supportedNatProbePorts m.natProbePorts then m.natProbePorts else []
    natProbeDirective := m.natProbeDirective.filter directiveSupported }

end ReportSnResp

namespace SnQueryResp

def extensionMagic : U32 := fromBeBytes "SQRP"
def protocolVersionExtensionMagic : U32 := fromBeBytes "SQPV"

/-- `LegacySnQueryResp::from`. -/
def legacy (m : SnQueryResp) : LegacySnQueryResp where
  seq := m.seq
  peerInfo := m.peerInfo
  endPointArray := m.endPointArray

def parts (m : SnQueryResp) : Format.Parts LegacySnQueryResp NatProfile U8 :=
  (m.legacy, m.netProfile, m.targetProtocolVersion)

def format (cs : Codecs Purpose) : Format Purpose LegacySnQueryResp NatProfile U8 :=
  ⟨cs.legacySnQueryResp, cs.natProfile, extensionMagic, cs.wire.u8, protocolVersionExtensionMagic⟩

def build (legacy : LegacySnQueryResp) (netProfile : Option NatProfile)
    (targetProtocolVersion : Option U8) : SnQueryResp where
  seq := legacy.seq
  peerInfo := legacy.peerInfo
  endPointArray := legacy.endPointArray
  netProfile := supportedNatProfile netProfile
  targetProtocolVersion := targetProtocolVersion

def codec (cs : Codecs Purpose) : Codec Purpose SnQueryResp :=
  (format cs).codec cs.wire parts build

def supported (m : SnQueryResp) : SnQueryResp :=
  { m with netProfile := supportedNatProfile m.netProfile }

end SnQueryResp

namespace SnDetailResp

def extensionMagic : U32 := fromBeBytes "SDRP"
def protocolVersionExtensionMagic : U32 := fromBeBytes "SDPV"

/-- `LegacySnDetailResp::from`. -/
def legacy (m : SnDetailResp) : LegacySnDetailResp where
  peerInfo := m.peerInfo
  endPointArray := m.endPointArray

def parts (m : SnDetailResp) : Format.Parts LegacySnDetailResp NatProfile U8 :=
  (m.legacy, m.netProfile, m.targetProtocolVersion)

def format (cs : Codecs Purpose) : Format Purpose LegacySnDetailResp NatProfile U8 :=
  ⟨cs.legacySnDetailResp, cs.natProfile, extensionMagic, cs.wire.u8, protocolVersionExtensionMagic⟩

def build (legacy : LegacySnDetailResp) (netProfile : Option NatProfile)
    (targetProtocolVersion : Option U8) : SnDetailResp where
  peerInfo := legacy.peerInfo
  endPointArray := legacy.endPointArray
  netProfile := supportedNatProfile netProfile
  targetProtocolVersion := targetProtocolVersion

def codec (cs : Codecs Purpose) : Codec Purpose SnDetailResp :=
  (format cs).codec cs.wire parts build

def supported (m : SnDetailResp) : SnDetailResp :=
  { m with netProfile := supportedNatProfile m.netProfile }

end SnDetailResp

namespace SnCall

def extensionMagic : U32 := fromBeBytes "SCAL"

/-- `LegacySnCall::from`. -/
def legacy (m : SnCall) : LegacySnCall where
  protocolVersion := m.protocolVersion
  stackVersion := m.stackVersion
  seq := m.seq
  tunnelId := m.tunnelId
  snPeerId := m.snPeerId
  toPeerId := m.toPeerId
  fromPeerId := m.fromPeerId
  reverseEndpointArray := m.reverseEndpointArray
  activePnList := m.activePnList
  peerInfo := m.peerInfo
  sendTime := m.sendTime
  callType := m.callType
  payload := m.payload
  isAlwaysCall := m.isAlwaysCall

def build (legacy : LegacySnCall) (natContext : Option NatTraversalContext) : SnCall where
  protocolVersion := legacy.protocolVersion
  stackVersion := legacy.stackVersion
  seq := legacy.seq
  tunnelId := legacy.tunnelId
  snPeerId := legacy.snPeerId
  toPeerId := legacy.toPeerId
  fromPeerId := legacy.fromPeerId
  reverseEndpointArray := legacy.reverseEndpointArray
  activePnList := legacy.activePnList
  peerInfo := legacy.peerInfo
  sendTime := legacy.sendTime
  callType := legacy.callType
  payload := legacy.payload
  isAlwaysCall := legacy.isAlwaysCall
  natContext := supportedNatContext natContext

/-- A call has one envelope only. -/
def codec (cs : Codecs Purpose) : Codec Purpose SnCall where
  rawMeasure m purpose := do
    return (← cs.legacySnCall.rawMeasure m.legacy purpose) +
      (← extensionMeasure cs.natTraversalContext m.natContext purpose)
  rawEncode m purpose buf := do
    let (legacyBytes, buf) ← cs.legacySnCall.rawEncode m.legacy purpose buf
    let (contextBytes, buf) ←
      extensionEncode cs.wire cs.natTraversalContext m.natContext extensionMagic buf purpose
    return (legacyBytes ++ contextBytes, buf)
  rawDecode buf := do
    let (legacy, buf) ← cs.legacySnCall.rawDecode buf
    let (natContext, buf) := extensionDecode cs.wire cs.natTraversalContext buf extensionMagic
    return (build legacy natContext, buf)

def supported (m : SnCall) : SnCall := { m with natContext := supportedNatContext m.natContext }

end SnCall

/-! ## Round trips -/

theorem ReportSn.build_self (m : ReportSn) : build m.legacy m.netProfile m.probeControl = m.supported := by
  unfold build supported probeControl legacy supportedProbeControl
  cases hversion : m.natProbeControlVersion with
  | none =>
    cases hresult : m.natProbeResult with
    | none => simp
    | some r => simp [NatProbe.natProbeControlVersion, Option.filter]
  | some v =>
    by_cases hv : v = NatProbe.natProbeControlVersion
    · simp [hv, Option.filter]
    · simp [hv, Option.filter]

theorem ReportSnResp.build_self (m : ReportSnResp) :
    build m.legacy m.extension m.natProbeDirective = m.supported := by
  unfold build supported extension legacy
  cases hports : m.natProbePorts with
  | nil => simp
  | cons p ps => by_cases hp : supportedNatProbePorts (p :: ps) <;> simp [hp, Option.filter]

theorem SnCall.codec_carries (cs : Codecs Purpose) {purpose : Purpose} (hw : cs.wire.Sound purpose)
    {m m' : SnCall} (hl : cs.legacySnCall.Transfers purpose m.legacy m'.legacy)
    (hc : Option.Rel (cs.natTraversalContext.Transfers purpose) m.natContext m'.natContext) :
    Carries (codec cs) cs.legacySnCall purpose
      (PayloadFits cs.natTraversalContext purpose m.natContext) m m'.supported m'.legacy := by
  obtain ⟨legacyBytes, hwrites, hreads⟩ := hl
  constructor
  · intro hfits
    obtain ⟨context, hmeasure, hencode, hframed⟩ := extension_framed hw hc hfits extensionMagic
    refine ⟨legacyBytes ++ context, ⟨?_, ?_⟩, ?_, context, hreads _⟩
    · simp only [codec, hwrites.measure, hmeasure, bind, Except.bind, pure, Except.pure,
        List.length_append]
    · intro buf hbuf
      simp only [List.length_append] at hbuf
      have h1 := hwrites.encode buf (by omega)
      have h2 := hencode (buf.drop legacyBytes.length) (by rw [List.length_drop]; omega)
      simp only [codec, bind, Except.bind, pure, Except.pure, h1, h2]
      simp only [List.drop_drop, List.length_append]
    · simp only [codec, bind, Except.bind, pure, Except.pure, hreads _, hframed.decode_last hw]
      rfl
  · intro hlarge buf out hout
    simp only [codec, bind, Except.bind, pure, Except.pure, extensionEncode_tooLarge hlarge] at hout
    split at hout <;> cases hout

theorem extensionMagics_ne :
    (ReportSn.probeResultExtensionMagic ≠ ReportSn.extensionMagic ∧
      ReportSnResp.probeDirectiveExtensionMagic ≠ ReportSnResp.extensionMagic) ∧
    SnQueryResp.protocolVersionExtensionMagic ≠ SnQueryResp.extensionMagic ∧
      SnDetailResp.protocolVersionExtensionMagic ≠ SnDetailResp.extensionMagic := by
  decide +kernel

/-- **An SN message survives its codec, but for the optional parts that are not supported.**  `m'` is
the message that the codecs of its parts make of `m`: with codecs that lose nothing, `m` itself. -/
theorem extensions_round_trip (cs : Codecs Purpose) (purpose : Purpose)
    (hw : cs.wire.Sound purpose) :
    (∀ m m' : ReportSn, (ReportSn.format cs).Transfers purpose m.parts m'.parts →
      Carries (ReportSn.codec cs) cs.legacyReportSn purpose ((ReportSn.format cs).Fits purpose m.parts)
        m m'.supported m'.legacy) ∧
    (∀ m m' : ReportSnResp, (ReportSnResp.format cs).Transfers purpose m.parts m'.parts →
      Carries (ReportSnResp.codec cs) cs.legacyReportSnResp purpose
        ((ReportSnResp.format cs).Fits purpose m.parts) m m'.supported m'.legacy) ∧
    (∀ m m' : SnQueryResp, (SnQueryResp.format cs).Transfers purpose m.parts m'.parts →
      Carries (SnQueryResp.codec cs) cs.legacySnQueryResp purpose
        ((SnQueryResp.format cs).Fits purpose m.parts) m m'.supported m'.legacy) ∧
    (∀ m m' : SnDetailResp, (SnDetailResp.format cs).Transfers purpose m.parts m'.parts →
      Carries (SnDetailResp.codec cs) cs.legacySnDetailResp purpose
        ((SnDetailResp.format cs).Fits purpose m.parts) m m'.supported m'.legacy) ∧
    ∀ m m' : SnCall, cs.legacySnCall.Transfers purpose m.legacy m'.legacy →
      Option.Rel (cs.natTraversalContext.Transfers purpose) m.natContext m'.natContext →
      Carries (SnCall.codec cs) cs.legacySnCall purpose
        (PayloadFits cs.natTraversalContext purpose m.natContext) m m'.supported m'.legacy := by
  obtain ⟨⟨hreport, hresp⟩, hquery, hdetail⟩ := extensionMagics_ne
  refine ⟨?_, ?_, ?_, ?_, ?_⟩
  · intro m m' h
    rw [← m'.build_self]
    exact Format.codec_carries hw hreport h
  · intro m m' h
    rw [← m'.build_self]
    exact Format.codec_carries hw hresp h
  · intro m m' h
    exact Format.codec_carries hw hquery h
  · intro m m' h
    exact Format.codec_carries hw hdetail h
  · intro m m' hl hc
    exact SnCall.codec_carries cs hw hl hc

def sampleReport : ReportSn :=
  ⟨0, 0, 21, [21], some [22], none, 5000000, none, none, [], [], some .unknown, some 1, none⟩

/-- A context of the current version with a caller's profile of another one. -/
def staleContext : NatTraversalContext :=
  ⟨1, [1], [2], { NatProfile.unknown with version := 2 }, .unknown⟩

def staleCall : SnCall :=
  ⟨0, 0, 7, 1, [3], [2], [1], none, none, none, 0, .stream, [], false, some staleContext⟩

/-- Codecs that know the parts of the samples. -/
def sampleCodecs : Codecs Unit :=
  let bad : CodecError := ⟨.invalidInput, ""⟩
  { wire := ⟨.be8 Unit bad, .be32 Unit bad, 4⟩
    natProfile := .only Unit .unknown (1 :: List.replicate 18 0) bad
    reportSnProbeControl := .only Unit ⟨1, none⟩ [1, 0] bad
    ports := .only Unit [4400, 4401] [17, 48, 17, 49] bad
    natProbeDirective := .only Unit ⟨1, [21], [22], 7, 8, 9, 10, [4400, 4401]⟩ [1] bad
    natTraversalContext := .only Unit staleContext [1, 2] bad
    legacyReportSn := .only Unit sampleReport.legacy [21, 22] bad
    legacyReportSnResp := .only Unit ⟨20, [21], 0, none, [], none⟩ [20] bad
    legacySnQueryResp := .only Unit ⟨7, none, []⟩ [7] bad
    legacySnDetailResp := .only Unit ⟨none, []⟩ [0, 0] bad
    legacySnCall := .only Unit staleCall.legacy [9] bad }

theorem sampleCodecs_sound : sampleCodecs.wire.Sound () where
  u8 := (RawCodec.be8_lawful Unit _ ()).1
  u8Width := (RawCodec.be8_lawful Unit _ ()).2
  u32 := (RawCodec.be32_lawful Unit _ ()).1
  u32Width := (RawCodec.be32_lawful Unit _ ()).2
  u32RawBytes := rfl

theorem extensions_round_trip_sample : ∃ bytes,
    (ReportSn.codec sampleCodecs).Writes () sampleReport bytes ∧
    (ReportSn.codec sampleCodecs).rawDecode bytes = .ok (sampleReport, []) := by
  have hcarries := (extensions_round_trip sampleCodecs () sampleCodecs_sound).1 sampleReport
    sampleReport ⟨RawCodec.only_transfers .., .some (RawCodec.only_transfers ..),
      .some (RawCodec.only_transfers ..)⟩
  obtain ⟨bytes, hwrites, hdecode, -⟩ := hcarries.carried
    ⟨fun v hv n hn => by cases hv; cases hn; decide, fun v hv n hn => by cases hv; cases hn; decide⟩
  exact ⟨bytes, hwrites, hdecode⟩

/-- The context passes its own `is_supported`, its codec gives it back, and the decoder drops it. -/
theorem context_dropped :
    staleContext.isSupported = true ∧
      sampleCodecs.natTraversalContext.Transfers () staleContext staleContext ∧
      (SnCall.codec sampleCodecs).rawEncode staleCall () (List.replicate 12 0) =
        .ok ([9, 83, 67, 65, 76, 1, 0, 0, 0, 2, 1, 2], []) ∧
      (SnCall.codec sampleCodecs).rawDecode [9, 83, 67, 65, 76, 1, 0, 0, 0, 2, 1, 2] =
        .ok ({ staleCall with natContext := none }, []) :=
  ⟨rfl, RawCodec.only_transfers .., by decide +kernel, by decide +kernel⟩

/-- **A byte string behind a legacy structure cannot spoil it.**  The message is decoded whatever it
is; the legacy fields are those of the structure, and the optional ones come from the envelopes that
stand there (`Behind`). -/
theorem tail_keeps_legacy (cs : Codecs Purpose) (hwidth : cs.wire.u32RawBytes = 4)
    (bytes tail : List U8) :
    (∀ l, cs.legacyReportSn.Reads bytes l → ∃ m rest profile control,
      (ReportSn.codec cs).rawDecode (bytes ++ tail) = .ok (m, rest) ∧ m.legacy = l ∧
      (ReportSn.format cs).Behind cs.wire tail profile control ∧
      m.netProfile = supportedNatProfile profile ∧
      m.natProbeControlVersion = (supportedProbeControl control).map ReportSnProbeControl.version ∧
      m.natProbeResult = ((supportedProbeControl control).bind ReportSnProbeControl.result).filter
        NatProbeResult.isSupported) ∧
    (∀ l, cs.legacyReportSnResp.Reads bytes l → ∃ m rest ports directive,
      (ReportSnResp.codec cs).rawDecode (bytes ++ tail) = .ok (m, rest) ∧ m.legacy = l ∧
      (ReportSnResp.format cs).Behind cs.wire tail ports directive ∧
      m.natProbePorts = (ports.filter supportedNatProbePorts).getD [] ∧
      m.natProbeDirective = directive.filter directiveSupported) ∧
    (∀ l, cs.legacySnQueryResp.Reads bytes l → ∃ m rest profile version,
      (SnQueryResp.codec cs).rawDecode (bytes ++ tail) = .ok (m, rest) ∧ m.legacy = l ∧
      (SnQueryResp.format cs).Behind cs.wire tail profile version ∧
      m.netProfile = supportedNatProfile profile ∧ m.targetProtocolVersion = version) ∧
    (∀ l, cs.legacySnDetailResp.Reads bytes l → ∃ m rest profile version,
      (SnDetailResp.codec cs).rawDecode (bytes ++ tail) = .ok (m, rest) ∧ m.legacy = l ∧
      (SnDetailResp.format cs).Behind cs.wire tail profile version ∧
      m.netProfile = supportedNatProfile profile ∧ m.targetProtocolVersion = version) ∧
    ∀ l, cs.legacySnCall.Reads bytes l → ∃ m rest context,
      (SnCall.codec cs).rawDecode (bytes ++ tail) = .ok (m, rest) ∧ m.legacy = l ∧
      (∀ x, context = some x ↔ ∃ payload rest,
        Envelope cs.wire tail SnCall.extensionMagic snExtensionVersion payload rest ∧
        cs.natTraversalContext.rawDecode payload = .ok (x, [])) ∧
      m.natContext = supportedNatContext context := by
  obtain ⟨⟨hreport, hresp⟩, hquery, hdetail⟩ := extensionMagics_ne
  refine ⟨?_, ?_, ?_, ?_, ?_⟩
  · intro l hl
    obtain ⟨profile, control, rest, hbehind, hdecode⟩ :=
      Format.codec_decode (ReportSn.format cs) ReportSn.parts ReportSn.build hwidth hreport hl tail
    exact ⟨_, rest, profile, control, hdecode, rfl, hbehind, rfl, rfl, rfl⟩
  · intro l hl
    obtain ⟨ports, directive, rest, hbehind, hdecode⟩ :=
      Format.codec_decode (ReportSnResp.format cs) ReportSnResp.parts ReportSnResp.build hwidth hresp hl tail
    exact ⟨_, rest, ports, directive, hdecode, rfl, hbehind, rfl, rfl⟩
  · intro l hl
    obtain ⟨profile, version, rest, hbehind, hdecode⟩ :=
      Format.codec_decode (SnQueryResp.format cs) SnQueryResp.parts SnQueryResp.build hwidth hquery hl tail
    exact ⟨_, rest, profile, version, hdecode, rfl, hbehind, rfl, rfl⟩
  · intro l hl
    obtain ⟨profile, version, rest, hbehind, hdecode⟩ :=
      Format.codec_decode (SnDetailResp.format cs) SnDetailResp.parts SnDetailResp.build hwidth hdetail hl tail
    exact ⟨_, rest, profile, version, hdecode, rfl, hbehind, rfl, rfl⟩
  · intro l hl
    refine ⟨SnCall.build l (extensionDecode cs.wire cs.natTraversalContext tail SnCall.extensionMagic).1,
      (extensionDecode cs.wire cs.natTraversalContext tail SnCall.extensionMagic).2, _, ?_, rfl,
      fun x => extensionDecode_eq_some, rfl⟩
    simp only [SnCall.codec, bind, Except.bind, pure, Except.pure, hl tail]

/-- A truncated envelope with the right magic behind a detail response. -/
theorem tail_keeps_legacy_truncated : ∃ m rest,
    (SnDetailResp.codec sampleCodecs).rawDecode ([0, 0] ++ [83, 68, 82, 80, 2]) = .ok (m, rest) ∧
      m.legacy = ⟨none, []⟩ := by
  obtain ⟨m, rest, profile, version, hdecode, hlegacy, -⟩ :=
    (tail_keeps_legacy sampleCodecs rfl [0, 0] [83, 68, 82, 80, 2]).2.2.2.1 ⟨none, []⟩
      (RawCodec.only_reads Unit _ [0, 0] _)
  exact ⟨m, rest, hdecode, hlegacy⟩

end BuckyP2p.Sn
