import BuckyP2p.Lib.Codec
import BuckyP2p.Lib.Stream
import BuckyP2p.Rendezvous.EndpointCodec
import BuckyP2p.Tcp.Claim

/-!
# BuckyP2p.Tcp.Protocol — the control commands on the wire (`networks/command.rs`, `tcp/protocol.rs`)

A command is a header with version, command id and body length, and the body.  The writer takes the
length from `raw_measure`, cut to 32 bits; the reader wants it to be between 1 and 1 MiB, and wants
the body that it decodes to measure as much again.

The codecs of the header and of the bodies are derived by `bucky_raw_codec`, so they are parameters:
`RawConvert` is what `RawEncode`, `RawConvertTo` and `RawFrom` offer of one type, and `RoundTrips` is
what the code relies on.
-/

namespace BuckyP2p.Tcp.Protocol

open Lib

/-! ## `networks/command.rs` -/

structure RawConvert (α : Type) where
  /-- `raw_measure(&None)` -/
  rawMeasure : α → Except CodecError Nat
  toVec : α → Except CodecError (List U8)
  cloneFromSlice : List U8 → Except CodecError α

/-- What is encoded has the length that is measured, and is decoded to what it was. -/
def RawConvert.RoundTrips {α : Type} (c : RawConvert α) : Prop :=
  ∀ v bytes, c.toVec v = .ok bytes →
    c.rawMeasure v = .ok bytes.length ∧ c.cloneFromSlice bytes = .ok v

/-- `map_err(into_p2p_err!(P2pErrorCode::RawCodecError))`. -/
def rawCodecErr {α : Type} : Except CodecError α → P2pResult α
  | .ok a => .ok a
  | .error e => .error ⟨.rawCodecError, e.msg⟩

def tunnelCommandVersion : U8 := 1

structure TunnelCommandHeader where
  version : U8
  commandId : U8
  dataLen : U32
  deriving DecidableEq, Repr

structure TunnelCommand (T : Type) where
  header : TunnelCommandHeader
  body : T

/-- `TunnelCommandBody`; every body has the default version. -/
structure TunnelCommandBody (T : Type) where
  codec : RawConvert T
  commandId : U8

/-- `as u32`. -/
def asU32 (n : Nat) : U32 := Fin.ofNat (2 ^ 32) n

namespace TunnelCommand

variable {T : Type}

def new (b : TunnelCommandBody T) (body : T) : P2pResult (TunnelCommand T) := do
  let dataLen := asU32 (← rawCodecErr (b.codec.rawMeasure body))
  return ⟨⟨tunnelCommandVersion, b.commandId, dataLen⟩, body⟩

def validate (b : TunnelCommandBody T) (c : TunnelCommand T) : P2pResult Unit :=
  if c.header.version ≠ tunnelCommandVersion then
    .error ⟨.invalidData, s!"invalid tunnel command version {c.header.version.val}, expect {tunnelCommandVersion.val}"⟩
  else if c.header.commandId ≠ b.commandId then
    .error ⟨.invalidData, s!"invalid tunnel command id {c.header.commandId.val}, expect {b.commandId.val}"⟩
  else do
    let dataLen := asU32 (← rawCodecErr (b.codec.rawMeasure c.body))
    if c.header.dataLen ≠ dataLen then
      .error ⟨.invalidData, s!"invalid tunnel command data len {c.header.dataLen.val}, expect {dataLen.val}"⟩
    else return ()

def fromHeaderAndBody (b : TunnelCommandBody T) (header : TunnelCommandHeader) (body : T) :
    P2pResult (TunnelCommand T) := do
  let command : TunnelCommand T := ⟨header, body⟩
  command.validate b
  return command

end TunnelCommand

/-- What a reader has still to read: the pieces in which the bytes arrive. -/
abbrev Read : Type := List (List U8)

def unexpectedEof : P2pError := ⟨.ioError, "early eof"⟩

def headerLen (h : RawConvert TunnelCommandHeader) : P2pResult Nat :=
  rawCodecErr (h.rawMeasure ⟨0, 0, 0⟩)

def readTunnelCommandHeader (h : RawConvert TunnelCommandHeader) (read : Read) :
    P2pResult (TunnelCommandHeader × Read) := do
  let (buf, read) ← readExact unexpectedEof (← headerLen h) read
  return (← rawCodecErr (h.cloneFromSlice buf), read)

def readTunnelCommandBody {T : Type} (b : TunnelCommandBody T) (read : Read)
    (header : TunnelCommandHeader) : P2pResult (TunnelCommand T × Read) :=
  if header.commandId ≠ b.commandId then
    .error ⟨.invalidData, s!"unexpected tunnel command id {header.commandId.val}, expect {b.commandId.val}"⟩
  else do
    let (body, read) ← readExact unexpectedEof header.dataLen.val read
    let body ← rawCodecErr (b.codec.cloneFromSlice body)
    return (← TunnelCommand.fromHeaderAndBody b header body, read)

/-! ## `tcp/protocol.rs` -/

abbrev TcpRequestId : Type := TunnelId

def maxTcpTunnelCommandBodyLen : U32 := 1024 * 1024

inductive TcpCommandId
  | connectionHello | controlConnReady | dataConnReady | ping | pong | openDataConnReq
  | claimConnReq | claimConnAck | writeFin | readDone | data | openDataConnResp
  deriving DecidableEq, Repr

def TcpCommandId.asU8 : TcpCommandId → U8
  | .connectionHello => 1
  | .controlConnReady => 2
  | .dataConnReady => 3
  | .ping => 4
  | .pong => 5
  | .openDataConnReq => 6
  | .claimConnReq => 7
  | .claimConnAck => 8
  | .writeFin => 9
  | .readDone => 10
  | .data => 11
  | .openDataConnResp => 12

def TcpCommandId.fromU8 (value : U8) : Option TcpCommandId :=
  [.connectionHello, .controlConnReady, .dataConnReady, .ping, .pong, .openDataConnReq,
    .claimConnReq, .claimConnAck, .writeFin, .readDone, .data, .openDataConnResp].find?
    fun id => value = id.asU8

structure PingCmd where
  seq : U64
  sendTime : Timestamp
  deriving DecidableEq, Repr

structure PongCmd where
  seq : U64
  sendTime : Timestamp
  deriving DecidableEq, Repr

structure OpenDataConnReq where
  requestId : TcpRequestId
  deriving DecidableEq, Repr

inductive OpenDataConnRespResult
  | success | connectFailed | protocolError | internalError
  deriving DecidableEq, Repr

structure OpenDataConnResp where
  requestId : TcpRequestId
  connId : Option TcpConnId
  result : OpenDataConnRespResult
  deriving DecidableEq, Repr

/-- The result is a byte: what it means is decided by who handles the answer. -/
structure ClaimConnAck where
  channelId : TcpChannelId
  connId : TcpConnId
  leaseSeq : TcpLeaseSeq
  result : U8
  deriving DecidableEq, Repr

structure TcpControlData where
  payload : List U8
  deriving DecidableEq, Repr

inductive TcpControlCmd
  | ping (cmd : PingCmd)
  | pong (cmd : PongCmd)
  | openDataConnReq (cmd : OpenDataConnReq)
  | openDataConnResp (cmd : OpenDataConnResp)
  | claimConnReq (cmd : ClaimConnReq)
  | claimConnAck (cmd : ClaimConnAck)
  | writeFin (cmd : WriteFin)
  | readDone (cmd : ReadDone)
  | data (cmd : TcpControlData)
  deriving DecidableEq, Repr

/-- The derived codecs of the header and of the bodies. -/
structure Codecs where
  header : RawConvert TunnelCommandHeader
  ping : RawConvert PingCmd
  pong : RawConvert PongCmd
  openDataConnReq : RawConvert OpenDataConnReq
  openDataConnResp : RawConvert OpenDataConnResp
  claimConnReq : RawConvert ClaimConnReq
  claimConnAck : RawConvert ClaimConnAck
  writeFin : RawConvert WriteFin
  readDone : RawConvert ReadDone
  data : RawConvert TcpControlData

/-- What the code relies on: headers and bodies round-trip, and all headers have one length. -/
structure Codecs.Sound (c : Codecs) (len : Nat) : Prop where
  header : ∀ h, ∃ bytes, c.header.toVec h = .ok bytes ∧ bytes.length = len ∧
    c.header.cloneFromSlice bytes = .ok h
  headerLen : ∀ h, c.header.rawMeasure h = .ok len
  ping : c.ping.RoundTrips
  pong : c.pong.RoundTrips
  openDataConnReq : c.openDataConnReq.RoundTrips
  openDataConnResp : c.openDataConnResp.RoundTrips
  claimConnReq : c.claimConnReq.RoundTrips
  claimConnAck : c.claimConnAck.RoundTrips
  writeFin : c.writeFin.RoundTrips
  readDone : c.readDone.RoundTrips
  data : c.data.RoundTrips

def validateHeaderLen (header : TunnelCommandHeader) : P2pResult Unit :=
  if header.dataLen = 0 || maxTcpTunnelCommandBodyLen < header.dataLen then
    .error ⟨.outOfLimit, s!"invalid tcp tunnel command body len {header.dataLen.val}"⟩
  else .ok ()

def encodeTunnelCommandBytes {T : Type} (h : RawConvert TunnelCommandHeader)
    (b : TunnelCommandBody T) (body : T) : P2pResult (List U8) := do
  let command ← TunnelCommand.new b body
  let bytes ← rawCodecErr (h.toVec command.header)
  return bytes ++ (← rawCodecErr (b.codec.toVec command.body))

def decodeTunnelCommandBody {T : Type} (b : TunnelCommandBody T) (read : Read)
    (header : TunnelCommandHeader) : P2pResult (T × Read) := do
  validateHeaderLen header
  let (command, read) ← readTunnelCommandBody b read header
  return (command.body, read)

namespace TcpControlCmd

variable (c : Codecs)

def encodeWire : TcpControlCmd → P2pResult (List U8)
  | .ping cmd => encodeTunnelCommandBytes c.header ⟨c.ping, TcpCommandId.ping.asU8⟩ cmd
  | .pong cmd => encodeTunnelCommandBytes c.header ⟨c.pong, TcpCommandId.pong.asU8⟩ cmd
  | .openDataConnReq cmd =>
    encodeTunnelCommandBytes c.header ⟨c.openDataConnReq, TcpCommandId.openDataConnReq.asU8⟩ cmd
  | .openDataConnResp cmd =>
    encodeTunnelCommandBytes c.header ⟨c.openDataConnResp, TcpCommandId.openDataConnResp.asU8⟩ cmd
  | .claimConnReq cmd =>
    encodeTunnelCommandBytes c.header ⟨c.claimConnReq, TcpCommandId.claimConnReq.asU8⟩ cmd
  | .claimConnAck cmd =>
    encodeTunnelCommandBytes c.header ⟨c.claimConnAck, TcpCommandId.claimConnAck.asU8⟩ cmd
  | .writeFin cmd => encodeTunnelCommandBytes c.header ⟨c.writeFin, TcpCommandId.writeFin.asU8⟩ cmd
  | .readDone cmd => encodeTunnelCommandBytes c.header ⟨c.readDone, TcpCommandId.readDone.asU8⟩ cmd
  | .data cmd => encodeTunnelCommandBytes c.header ⟨c.data, TcpCommandId.data.asU8⟩ cmd

/-- The body of a command with this id. -/
def decodeBody (read : Read) (header : TunnelCommandHeader) :
    TcpCommandId → P2pResult (TcpControlCmd × Read)
  | .connectionHello | .controlConnReady | .dataConnReady =>
    .error ⟨.invalidData,
      s!"unexpected tcp handshake command id {header.commandId.val} on control command path"⟩
  | .ping => do
    let (cmd, read) ← decodeTunnelCommandBody ⟨c.ping, TcpCommandId.ping.asU8⟩ read header
    return (.ping cmd, read)
  | .pong => do
    let (cmd, read) ← decodeTunnelCommandBody ⟨c.pong, TcpCommandId.pong.asU8⟩ read header
    return (.pong cmd, read)
  | .openDataConnReq => do
    let (cmd, read) ← decodeTunnelCommandBody
      ⟨c.openDataConnReq, TcpCommandId.openDataConnReq.asU8⟩ read header
    return (.openDataConnReq cmd, read)
  | .openDataConnResp => do
    let (cmd, read) ← decodeTunnelCommandBody
      ⟨c.openDataConnResp, TcpCommandId.openDataConnResp.asU8⟩ read header
    return (.openDataConnResp cmd, read)
  | .claimConnReq => do
    let (cmd, read) ← decodeTunnelCommandBody ⟨c.claimConnReq, TcpCommandId.claimConnReq.asU8⟩ read
      header
    return (.claimConnReq cmd, read)
  | .claimConnAck => do
    let (cmd, read) ← decodeTunnelCommandBody ⟨c.claimConnAck, TcpCommandId.claimConnAck.asU8⟩ read
      header
    return (.claimConnAck cmd, read)
  | .writeFin => do
    let (cmd, read) ← decodeTunnelCommandBody ⟨c.writeFin, TcpCommandId.writeFin.asU8⟩ read header
    return (.writeFin cmd, read)
  | .readDone => do
    let (cmd, read) ← decodeTunnelCommandBody ⟨c.readDone, TcpCommandId.readDone.asU8⟩ read header
    return (.readDone cmd, read)
  | .data => do
    let (cmd, read) ← decodeTunnelCommandBody ⟨c.data, TcpCommandId.data.asU8⟩ read header
    return (.data cmd, read)

def decodeFromWireHeaderBounded (read : Read) (header : TunnelCommandHeader) (maxCommandId : U8) :
    P2pResult (TcpControlCmd × Read) := do
  validateHeaderLen header
  if maxCommandId < header.commandId then
    .error ⟨.invalidData,
      s!"unsupported tcp tunnel command id {header.commandId.val} for peer maximum {maxCommandId.val}"⟩
  else
    match TcpCommandId.fromU8 header.commandId with
    | none => .error ⟨.invalidData, s!"unknown tcp tunnel command id {header.commandId.val}"⟩
    | some commandId => decodeBody c read header commandId

def readFromWireBounded (read : Read) (maxCommandId : U8) : P2pResult (TcpControlCmd × Read) := do
  let (header, read) ← readTunnelCommandHeader c.header read
  decodeFromWireHeaderBounded c read header maxCommandId

def readFromWire (read : Read) : P2pResult (TcpControlCmd × Read) :=
  readFromWireBounded c read TcpCommandId.openDataConnResp.asU8

/-- The reader's loop, for `n` commands. -/
def readCommands : Nat → Read → P2pResult (List TcpControlCmd × Read)
  | 0, read => .ok ([], read)
  | n + 1, read => do
    let (cmd, read) ← readFromWire c read
    let (cmds, read) ← readCommands n read
    return (cmd :: cmds, read)

/-- `raw_measure` of the body. -/
def bodyLen : TcpControlCmd → Except CodecError Nat
  | .ping cmd => c.ping.rawMeasure cmd
  | .pong cmd => c.pong.rawMeasure cmd
  | .openDataConnReq cmd => c.openDataConnReq.rawMeasure cmd
  | .openDataConnResp cmd => c.openDataConnResp.rawMeasure cmd
  | .claimConnReq cmd => c.claimConnReq.rawMeasure cmd
  | .claimConnAck cmd => c.claimConnAck.rawMeasure cmd
  | .writeFin cmd => c.writeFin.rawMeasure cmd
  | .readDone cmd => c.readDone.rawMeasure cmd
  | .data cmd => c.data.rawMeasure cmd

end TcpControlCmd

/-! ## Frames -/

section Frames

variable {T : Type} {h : RawConvert TunnelCommandHeader} {b : TunnelCommandBody T} {body : T}
  {header : TunnelCommandHeader} {read read' : Read} {frame : List U8} {len n : Nat}

theorem rawCodecErr_eq_ok {α : Type} {r : Except CodecError α} {a : α} :
    rawCodecErr r = .ok a ↔ r = .ok a := by
  cases r <;> simp [rawCodecErr]

/-- What is written for a command: the header with the length of the body, and the body. -/
theorem encodeTunnelCommandBytes_ok (hb : b.codec.RoundTrips)
    (henc : encodeTunnelCommandBytes h b body = .ok frame) :
    ∃ headerBytes bytes, frame = headerBytes ++ bytes ∧
      h.toVec ⟨tunnelCommandVersion, b.commandId, asU32 bytes.length⟩ = .ok headerBytes ∧
      b.codec.rawMeasure body = .ok bytes.length ∧ b.codec.cloneFromSlice bytes = .ok body := by
  simp only [encodeTunnelCommandBytes, TunnelCommand.new, bind, Except.bind, pure, Except.pure] at henc
  cases hm : rawCodecErr (b.codec.rawMeasure body) with
  | error e => simp only [hm, reduceCtorEq] at henc
  | ok m =>
    simp only [hm] at henc
    cases hh : rawCodecErr (h.toVec ⟨tunnelCommandVersion, b.commandId, asU32 m⟩) with
    | error e => simp only [hh, reduceCtorEq] at henc
    | ok headerBytes =>
      cases hv : rawCodecErr (b.codec.toVec body) with
      | error e => simp only [hh, hv, reduceCtorEq] at henc
      | ok bytes =>
        simp only [hh, hv, Except.ok.injEq] at henc
        obtain ⟨hmeasure, hclone⟩ := hb body bytes (rawCodecErr_eq_ok.mp hv)
        have hlen : m = bytes.length :=
          Except.ok.inj ((rawCodecErr_eq_ok.mp hm).symm.trans hmeasure)
        subst hlen
        exact ⟨headerBytes, bytes, henc.symm, rawCodecErr_eq_ok.mp hh, hmeasure, hclone⟩

theorem encodeTunnelCommandBytes_eq {headerBytes bytes : List U8}
    (hmeasure : b.codec.rawMeasure body = .ok n)
    (hheader : h.toVec ⟨tunnelCommandVersion, b.commandId, asU32 n⟩ = .ok headerBytes)
    (hvec : b.codec.toVec body = .ok bytes) :
    encodeTunnelCommandBytes h b body = .ok (headerBytes ++ bytes) := by
  refine bind_eq_ok.mpr ⟨⟨⟨tunnelCommandVersion, b.commandId, asU32 n⟩, body⟩, ?_, ?_⟩
  · exact bind_eq_ok.mpr ⟨n, rawCodecErr_eq_ok.mpr hmeasure, rfl⟩
  · exact bind_eq_ok.mpr ⟨headerBytes, rawCodecErr_eq_ok.mpr hheader,
      bind_eq_ok.mpr ⟨bytes, rawCodecErr_eq_ok.mpr hvec, rfl⟩⟩

theorem validateHeaderLen_eq_ok {u : Unit} :
    validateHeaderLen header = .ok u ↔
      1 ≤ header.dataLen.val ∧ header.dataLen ≤ maxTcpTunnelCommandBodyLen := by
  unfold validateHeaderLen
  have hzero : header.dataLen = 0 ↔ header.dataLen.val = 0 := Fin.ext_iff
  by_cases hlow : header.dataLen = 0
  · simp only [hlow, decide_true, Bool.true_or, if_true, reduceCtorEq, false_iff]
    intro hone
    exact absurd hone.1 (by decide)
  · by_cases hhigh : maxTcpTunnelCommandBodyLen < header.dataLen
    · simp only [hhigh, decide_true, Bool.or_true, if_true, reduceCtorEq, false_iff]
      intro hone
      exact absurd hhigh (not_lt.mpr hone.2)
    · simp only [hlow, hhigh, decide_false, Bool.or_self, Bool.false_eq_true, if_false, true_iff]
      exact ⟨Nat.one_le_iff_ne_zero.mpr fun h => hlow (hzero.mpr h), not_lt.mp hhigh⟩

/-- A command is taken apart into what it was, if the length fits. -/
theorem decodeTunnelCommandBody_eq {bytes t : List U8} (hlen : 1 ≤ bytes.length)
    (hmax : bytes.length ≤ maxTcpTunnelCommandBodyLen.val)
    (hmeasure : b.codec.rawMeasure body = .ok bytes.length)
    (hclone : b.codec.cloneFromSlice bytes = .ok body) (hread : read.flatten = bytes ++ t) :
    ∃ rest, decodeTunnelCommandBody b read ⟨tunnelCommandVersion, b.commandId, asU32 bytes.length⟩ =
      .ok (body, rest) ∧ rest.flatten = t := by
  have hval : (asU32 bytes.length).val = bytes.length := by
    have hbound : maxTcpTunnelCommandBodyLen.val < 2 ^ 32 := maxTcpTunnelCommandBodyLen.isLt
    exact Nat.mod_eq_of_lt (by omega)
  have hvalid : validateHeaderLen ⟨tunnelCommandVersion, b.commandId, asU32 bytes.length⟩ = .ok () := by
    refine validateHeaderLen_eq_ok.mpr ⟨?_, ?_⟩
    · rw [hval]
      exact hlen
    · rw [Fin.le_def, hval]
      exact hmax
  obtain ⟨rest, hexact, hrest⟩ := readExact_eq unexpectedEof hread hval.symm
  refine ⟨rest, ?_, hrest⟩
  simp only [decodeTunnelCommandBody, hvalid, readTunnelCommandBody, bind, Except.bind, pure,
    Except.pure, ne_eq, not_true_eq_false, if_false, hexact, rawCodecErr, hclone,
    TunnelCommand.fromHeaderAndBody, TunnelCommand.validate, hmeasure]

/-- Whatever command the reader accepts, it has read as many bytes of a body as the command measures,
cut to 32 bits, and that is between 1 and the limit. -/
theorem decodeTunnelCommandBody_ok (h : decodeTunnelCommandBody b read header = .ok (body, read')) :
    ∃ n, b.codec.rawMeasure body = .ok n ∧ 1 ≤ n % 2 ^ 32 ∧
      n % 2 ^ 32 ≤ maxTcpTunnelCommandBodyLen.val ∧
      read.flatten.length = n % 2 ^ 32 + read'.flatten.length := by
  obtain ⟨u, hvalid, h⟩ := bind_eq_ok.mp h
  obtain ⟨hlow, hhigh⟩ := validateHeaderLen_eq_ok.mp hvalid
  obtain ⟨⟨command, rest⟩, hcommand, h⟩ := bind_eq_ok.mp h
  cases h
  unfold readTunnelCommandBody at hcommand
  split_ifs at hcommand
  obtain ⟨⟨bytes, rest⟩, hexact, hcommand⟩ := bind_eq_ok.mp hcommand
  obtain ⟨hbytes, hlen⟩ := readExact_ok hexact
  obtain ⟨decoded, -, hcommand⟩ := bind_eq_ok.mp hcommand
  obtain ⟨built, hbuilt, hcommand⟩ := bind_eq_ok.mp hcommand
  cases hcommand
  obtain ⟨u'', hvalidate, hbuilt⟩ := bind_eq_ok.mp hbuilt
  cases hbuilt
  unfold TunnelCommand.validate at hvalidate
  split_ifs at hvalidate
  obtain ⟨n, hmeasure, hvalidate⟩ := bind_eq_ok.mp hvalidate
  dsimp only at hvalidate
  split_ifs at hvalidate with hdata
  -- the body that was decoded measures what the header says
  have hn : header.dataLen.val = n % 2 ^ 32 := congrArg Fin.val (Decidable.not_not.mp hdata)
  refine ⟨n, rawCodecErr_eq_ok.mp hmeasure, by rwa [← hn], by rwa [← hn], ?_⟩
  rw [hbytes, List.length_append, hlen, hn]

end Frames

theorem TcpCommandId.fromU8_asU8 (id : TcpCommandId) : fromU8 id.asU8 = some id := by
  cases id <;> rfl

theorem TcpCommandId.asU8_le (id : TcpCommandId) : id.asU8 ≤ TcpCommandId.openDataConnResp.asU8 := by
  cases id <;> decide

namespace TcpControlCmd

variable {c : Codecs} {len : Nat} {cmd : TcpControlCmd} {read rest : Read} {frame t : List U8}

/-- A frame of a body of the kind `id` is read as the command with that body, if its length fits. -/
theorem readFromWire_frame (hc : c.Sound len) {T : Type} {codec : RawConvert T} {body : T}
    (hcodec : codec.RoundTrips) {id : TcpCommandId} {mk : T → TcpControlCmd}
    (hdecode : ∀ read header, decodeBody c read header id = (do
      let (cmd, read) ← decodeTunnelCommandBody ⟨codec, id.asU8⟩ read header
      return (mk cmd, read)))
    (henc : encodeTunnelCommandBytes c.header ⟨codec, id.asU8⟩ body = .ok frame) {n : Nat}
    (hn : codec.rawMeasure body = .ok n) (hlow : 1 ≤ n) (hhigh : n ≤ maxTcpTunnelCommandBodyLen.val)
    (hread : read.flatten = frame ++ t) :
    ∃ rest, readFromWire c read = .ok (mk body, rest) ∧ rest.flatten = t := by
  obtain ⟨headerBytes, bytes, rfl, hheader, hmeasure, hclone⟩ := encodeTunnelCommandBytes_ok hcodec henc
  dsimp only at hheader hmeasure hclone
  obtain rfl : n = bytes.length := Except.ok.inj (hn.symm.trans hmeasure)
  obtain ⟨headerBytes', hvec, hlen, hheaderClone⟩ :=
    hc.header ⟨tunnelCommandVersion, id.asU8, asU32 bytes.length⟩
  obtain rfl : headerBytes = headerBytes' := Except.ok.inj (hheader.symm.trans hvec)
  rw [List.append_assoc] at hread
  obtain ⟨read', hexact, hread'⟩ := readExact_eq unexpectedEof hread hlen
  obtain ⟨rest, hbody, hrest⟩ := decodeTunnelCommandBody_eq (b := ⟨codec, id.asU8⟩) hlow hhigh hmeasure
    hclone hread'
  refine ⟨rest, ?_, hrest⟩
  have hvalid : validateHeaderLen ⟨tunnelCommandVersion, id.asU8, asU32 bytes.length⟩ = .ok () := by
    obtain ⟨u, hvalid, -⟩ := bind_eq_ok.mp hbody
    exact hvalid
  have hheaderLen : headerLen c.header = .ok len := rawCodecErr_eq_ok.mpr (hc.headerLen _)
  simp only [readFromWire, readFromWireBounded, readTunnelCommandHeader, bind, Except.bind, pure,
    Except.pure, hheaderLen, hexact, rawCodecErr, hheaderClone, decodeFromWireHeaderBounded, hvalid,
    not_lt.mpr id.asU8_le, if_false, id.fromU8_asU8, hdecode]
  simp only [hbody]

theorem readFromWire_encodeWire (hc : c.Sound len) (henc : cmd.encodeWire c = .ok frame) {n : Nat}
    (hn : cmd.bodyLen c = .ok n) (hlow : 1 ≤ n) (hhigh : n ≤ maxTcpTunnelCommandBodyLen.val)
    (hread : read.flatten = frame ++ t) :
    ∃ rest, readFromWire c read = .ok (cmd, rest) ∧ rest.flatten = t := by
  cases cmd with
  | ping body => exact readFromWire_frame hc hc.ping (fun _ _ => rfl) henc hn hlow hhigh hread
  | pong body => exact readFromWire_frame hc hc.pong (fun _ _ => rfl) henc hn hlow hhigh hread
  | openDataConnReq body =>
    exact readFromWire_frame hc hc.openDataConnReq (fun _ _ => rfl) henc hn hlow hhigh hread
  | openDataConnResp body =>
    exact readFromWire_frame hc hc.openDataConnResp (fun _ _ => rfl) henc hn hlow hhigh hread
  | claimConnReq body =>
    exact readFromWire_frame hc hc.claimConnReq (fun _ _ => rfl) henc hn hlow hhigh hread
  | claimConnAck body =>
    exact readFromWire_frame hc hc.claimConnAck (fun _ _ => rfl) henc hn hlow hhigh hread
  | writeFin body => exact readFromWire_frame hc hc.writeFin (fun _ _ => rfl) henc hn hlow hhigh hread
  | readDone body => exact readFromWire_frame hc hc.readDone (fun _ _ => rfl) henc hn hlow hhigh hread
  | data body => exact readFromWire_frame hc hc.data (fun _ _ => rfl) henc hn hlow hhigh hread

/-- The length of what is written: a header, and all of the body. -/
theorem encodeWire_length (hc : c.Sound len) (henc : cmd.encodeWire c = .ok frame) :
    ∃ n, cmd.bodyLen c = .ok n ∧ frame.length = len + n := by
  have hframe : ∀ {T : Type} {codec : RawConvert T} {id : U8} {body : T}, codec.RoundTrips →
      encodeTunnelCommandBytes c.header ⟨codec, id⟩ body = .ok frame →
      ∃ n, codec.rawMeasure body = .ok n ∧ frame.length = len + n := by
    intro T codec id body hcodec henc
    obtain ⟨headerBytes, bytes, rfl, hheader, hmeasure, -⟩ := encodeTunnelCommandBytes_ok hcodec henc
    obtain ⟨headerBytes', hvec, hlen, -⟩ := hc.header ⟨tunnelCommandVersion, id, asU32 bytes.length⟩
    obtain rfl : headerBytes = headerBytes' := Except.ok.inj (hheader.symm.trans hvec)
    exact ⟨bytes.length, hmeasure, by rw [List.length_append, hlen]⟩
  cases cmd with
  | ping body => exact hframe hc.ping henc
  | pong body => exact hframe hc.pong henc
  | openDataConnReq body => exact hframe hc.openDataConnReq henc
  | openDataConnResp body => exact hframe hc.openDataConnResp henc
  | claimConnReq body => exact hframe hc.claimConnReq henc
  | claimConnAck body => exact hframe hc.claimConnAck henc
  | writeFin body => exact hframe hc.writeFin henc
  | readDone body => exact hframe hc.readDone henc
  | data body => exact hframe hc.data henc

/-- What the reader takes from the stream for a command that it accepts. -/
theorem readFromWire_ok (hc : c.Sound len) (h : readFromWire c read = .ok (cmd, rest)) :
    ∃ n, cmd.bodyLen c = .ok n ∧ 1 ≤ n % 2 ^ 32 ∧ n % 2 ^ 32 ≤ maxTcpTunnelCommandBodyLen.val ∧
      read.flatten.length = len + n % 2 ^ 32 + rest.flatten.length := by
  obtain ⟨⟨header, read'⟩, hheader, h⟩ := bind_eq_ok.mp h
  have hconsumed : read.flatten.length = len + read'.flatten.length := by
    obtain ⟨hlen, hheaderLen, hheader⟩ := bind_eq_ok.mp hheader
    obtain rfl : len = hlen := Except.ok.inj ((hc.headerLen _).symm.trans (rawCodecErr_eq_ok.mp hheaderLen))
    obtain ⟨⟨bytes, read''⟩, hexact, hheader⟩ := bind_eq_ok.mp hheader
    obtain ⟨decoded, -, hheader⟩ := bind_eq_ok.mp hheader
    cases hheader
    obtain ⟨hbytes, hlength⟩ := readExact_ok hexact
    rw [hbytes, List.length_append, hlength]
  obtain ⟨u, -, h⟩ := bind_eq_ok.mp h
  split_ifs at h
  split at h
  · cases h
  have hbody : ∀ {T : Type} {codec : RawConvert T} {id : U8} {mk : T → TcpControlCmd},
      (do
        let (cmd, read) ← decodeTunnelCommandBody ⟨codec, id⟩ read' header
        return (mk cmd, read)) = Except.ok (cmd, rest) →
      ∃ body n, cmd = mk body ∧ codec.rawMeasure body = .ok n ∧ 1 ≤ n % 2 ^ 32 ∧
        n % 2 ^ 32 ≤ maxTcpTunnelCommandBodyLen.val ∧
        read.flatten.length = len + n % 2 ^ 32 + rest.flatten.length := by
    intro T codec id mk h
    obtain ⟨⟨body, read''⟩, hdecode, h⟩ := bind_eq_ok.mp h
    cases h
    obtain ⟨n, hn, hlow, hhigh, hlength⟩ := decodeTunnelCommandBody_ok hdecode
    exact ⟨body, n, rfl, hn, hlow, hhigh, by omega⟩
  rename_i id hid
  cases id with
  | connectionHello => cases h
  | controlConnReady => cases h
  | dataConnReady => cases h
  | ping | pong | openDataConnReq | openDataConnResp | claimConnReq | claimConnAck | writeFin | readDone
  | data =>
    obtain ⟨body, n, rfl, hspec⟩ := hbody h
    exact ⟨n, hspec⟩

/-! ### A list of commands -/

/-- The body has at least one byte, and at most as many as the reader takes. -/
def Within (c : Codecs) (cmd : TcpControlCmd) : Prop :=
  ∃ n, cmd.bodyLen c = .ok n ∧ 1 ≤ n ∧ n ≤ maxTcpTunnelCommandBodyLen.val

/-- The frames are those of the commands. -/
def Encoded (c : Codecs) : List TcpControlCmd → List (List U8) → Prop :=
  List.Forall₂ fun cmd frame => cmd.encodeWire c = .ok frame

variable {cmds : List TcpControlCmd} {frames : List (List U8)}

theorem readCommands_encoded (hc : c.Sound len) (h : Encoded c cmds frames)
    (hwithin : ∀ cmd ∈ cmds, cmd.Within c) (hread : read.flatten = frames.flatten ++ t) :
    ∃ rest, readCommands c cmds.length read = .ok (cmds, rest) ∧ rest.flatten = t := by
  induction h generalizing read with
  | nil => exact ⟨read, rfl, hread⟩
  | @cons cmd frame cmds frames henc _ ih =>
    obtain ⟨n, hn, hlow, hhigh⟩ := hwithin cmd (List.mem_cons_self ..)
    rw [List.flatten_cons, List.append_assoc] at hread
    obtain ⟨read', hcmd, hread'⟩ := readFromWire_encodeWire hc henc hn hlow hhigh hread
    obtain ⟨rest, hcmds, hrest⟩ := ih (fun cmd hcmd => hwithin cmd (List.mem_cons_of_mem _ hcmd)) hread'
    refine ⟨rest, ?_, hrest⟩
    simp only [List.length_cons, readCommands, bind, Except.bind, pure, Except.pure, hcmd, hcmds]

/-- The reader never takes more bytes than the frames have; where it takes them all, the commands are
within the limit. -/
theorem readCommands_ok (hc : c.Sound len) (h : Encoded c cmds frames)
    (hread : readCommands c cmds.length read = .ok (cmds, rest)) :
    read.flatten.length ≤ frames.flatten.length + rest.flatten.length ∧
      (read.flatten.length = frames.flatten.length + rest.flatten.length →
        ∀ cmd ∈ cmds, cmd.Within c) := by
  induction h generalizing read with
  | nil =>
    cases hread
    simp
  | @cons cmd frame cmds frames henc _ ih =>
    obtain ⟨⟨cmd', read'⟩, hcmd, hread⟩ := bind_eq_ok.mp hread
    obtain ⟨⟨cmds', rest'⟩, hcmds, hread⟩ := bind_eq_ok.mp hread
    cases hread
    obtain ⟨n, hn, hlow, hhigh, hlength⟩ := readFromWire_ok hc hcmd
    obtain ⟨n', hn', hframe⟩ := encodeWire_length hc henc
    obtain rfl : n = n' := Except.ok.inj (hn.symm.trans hn')
    obtain ⟨hle, hall⟩ := ih hcmds
    -- the header names the length cut to 32 bits, the frame has all of it
    have hcut : n % 2 ^ 32 ≤ n := Nat.mod_le ..
    rw [List.flatten_cons, List.length_append, hframe]
    refine ⟨by omega, fun heq cmd' hcmd' => ?_⟩
    rcases List.mem_cons.mp hcmd' with rfl | htail
    · exact ⟨n, hn, by omega, by omega⟩
    · exact hall (by omega) cmd' htail

/-- **The peer reads the commands that were written if and only if each is within the limit.**  The
commands are any that `encode_wire` accepts, and their bytes arrive in any pieces. -/
theorem commands_read_iff_within (hc : c.Sound len) (h : Encoded c cmds frames)
    (hread : read.flatten = frames.flatten) :
    (∃ rest, readCommands c cmds.length read = .ok (cmds, rest) ∧ rest.flatten = []) ↔
      ∀ cmd ∈ cmds, cmd.Within c := by
  constructor
  · rintro ⟨rest, hok, hrest⟩
    refine (readCommands_ok hc h hok).2 ?_
    rw [hread, hrest, List.length_nil, Nat.add_zero]
  · intro hwithin
    exact readCommands_encoded hc h hwithin (by rw [hread, List.append_nil])

/-- A header that names a bad length makes the reader fail. -/
theorem readFromWire_refuses (hc : c.Sound len) {header : TunnelCommandHeader} {bytes : List U8}
    (hvec : c.header.toVec header = .ok bytes) (hread : read.flatten = bytes ++ t) {e : P2pError}
    (hbad : validateHeaderLen header = .error e) : readFromWire c read = .error e := by
  obtain ⟨bytes', hvec', hlen, hclone⟩ := hc.header header
  obtain rfl : bytes = bytes' := Except.ok.inj (hvec.symm.trans hvec')
  obtain ⟨rest, hexact, -⟩ := readExact_eq unexpectedEof hread hlen
  have hheaderLen : headerLen c.header = .ok len := rawCodecErr_eq_ok.mpr (hc.headerLen _)
  simp only [readFromWire, readFromWireBounded, readTunnelCommandHeader, bind, Except.bind, pure,
    Except.pure, hheaderLen, hexact, rawCodecErr, hclone, decodeFromWireHeaderBounded, hbad]

end TcpControlCmd

/-! ### Sample codecs -/

/-- A codec that knows one value only. -/
def RawConvert.only {α : Type} [DecidableEq α] (v : α) (bytes : List U8) : RawConvert α where
  rawMeasure x := if x = v then .ok bytes.length else .error ⟨.invalidInput, ""⟩
  toVec x := if x = v then .ok bytes else .error ⟨.invalidInput, ""⟩
  cloneFromSlice b := if b = bytes then .ok v else .error ⟨.invalidInput, ""⟩

theorem RawConvert.only_roundTrips {α : Type} [DecidableEq α] (v : α) (bytes : List U8) :
    (RawConvert.only v bytes).RoundTrips := by
  intro x b hb
  simp only [only] at hb ⊢
  split_ifs at hb with hx
  cases hb
  exact ⟨if_pos hx, by rw [if_pos rfl, hx]⟩

theorem RawConvert.only_toVec {α : Type} [DecidableEq α] (v : α) (bytes : List U8) :
    (RawConvert.only v bytes).toVec v = .ok bytes := if_pos rfl

/-- Version, command id and body length, most significant byte first. -/
def sampleHeader : RawConvert TunnelCommandHeader where
  rawMeasure _ := .ok 6
  toVec h := .ok (h.version :: h.commandId :: RawCodec.beBytes32 h.dataLen)
  cloneFromSlice bytes :=
    match bytes with
    | version :: commandId :: rest =>
      match (RawCodec.be32 Unit (CodecError.mk .outOfLimit "")).rawDecode rest with
      | .ok (dataLen, _) => .ok ⟨version, commandId, dataLen⟩
      | .error e => .error e
    | _ => .error ⟨.outOfLimit, ""⟩

/-- A claim for a purpose of 1 MiB. -/
def largeClaim : ClaimConnReq := ⟨7, .stream, List.replicate 1048576 7, 5, 1, 9⟩

/-- The claim for a purpose of that many bytes 7. -/
def claimBytes (n : Nat) : List U8 :=
  [0, 0, 0, 7, 0, 0, 16, 0, 0] ++ List.replicate n 7 ++
    [0, 0, 0, 5, 0, 0, 0, 1, 0, 0, 0, 0, 0, 0, 0, 9]

theorem claimBytes_length (n : Nat) : (claimBytes n).length = n + 25 := by
  simp [claimBytes]

def largeClaimBytes : List U8 := claimBytes 1048576

theorem largeClaimBytes_length : largeClaimBytes.length = 1048601 := claimBytes_length 1048576

def sampleCodecs : Codecs where
  header := sampleHeader
  ping := .only ⟨1, 2⟩ [0, 0, 0, 0, 0, 0, 0, 1, 0, 0, 0, 0, 0, 0, 0, 2]
  pong := .only ⟨1, 2⟩ [0, 0, 0, 0, 0, 0, 0, 1, 0, 0, 0, 0, 0, 0, 0, 2]
  openDataConnReq := .only ⟨1⟩ [0, 0, 0, 1]
  openDataConnResp := .only ⟨1, none, .success⟩ [0, 0, 0, 1, 0, 0]
  claimConnReq := .only largeClaim largeClaimBytes
  claimConnAck := .only ⟨7, 5, 1, 0⟩ [0, 0, 0, 7, 0, 0, 0, 5, 0, 0, 0, 1, 0]
  writeFin := .only ⟨7, 5, 1, 3⟩ [0, 0, 0, 7, 0, 0, 0, 5, 0, 0, 0, 1, 0, 0, 0, 0, 0, 0, 0, 3]
  readDone := .only ⟨7, 5, 1, 3⟩ [0, 0, 0, 7, 0, 0, 0, 5, 0, 0, 0, 1, 0, 0, 0, 0, 0, 0, 0, 3]
  data := .only ⟨[5]⟩ [0, 0, 0, 1, 5]

theorem sampleCodecs_sound : sampleCodecs.Sound 6 where
  header h := by
    have hlen := (RawCodec.be32_reads Unit (CodecError.mk .outOfLimit "") h.dataLen).decode_self
    refine ⟨h.version :: h.commandId :: RawCodec.beBytes32 h.dataLen, rfl, rfl, ?_⟩
    simp only [sampleCodecs, sampleHeader, hlen]
  headerLen _ := rfl
  ping := RawConvert.only_roundTrips _ _
  pong := RawConvert.only_roundTrips _ _
  openDataConnReq := RawConvert.only_roundTrips _ _
  openDataConnResp := RawConvert.only_roundTrips _ _
  claimConnReq := RawConvert.only_roundTrips _ _
  claimConnAck := RawConvert.only_roundTrips _ _
  writeFin := RawConvert.only_roundTrips _ _
  readDone := RawConvert.only_roundTrips _ _
  data := RawConvert.only_roundTrips _ _

/-- A ping and one byte of data, cut in the header of the second frame. -/
def samplePieces : Read :=
  [[1, 4, 0, 0, 0, 16, 0, 0, 0, 0, 0, 0, 0, 1, 0, 0, 0, 0, 0, 0, 0, 2, 1, 11, 0],
    [0, 0, 5, 0, 0, 0], [1, 5]]

theorem commands_read_iff_within_sample :
    ∃ rest, TcpControlCmd.readCommands sampleCodecs 2 samplePieces =
      .ok ([.ping ⟨1, 2⟩, .data ⟨[5]⟩], rest) ∧ rest.flatten = [] := by
  have henc : TcpControlCmd.Encoded sampleCodecs [.ping ⟨1, 2⟩, .data ⟨[5]⟩]
      [[1, 4, 0, 0, 0, 16, 0, 0, 0, 0, 0, 0, 0, 1, 0, 0, 0, 0, 0, 0, 0, 2],
        [1, 11, 0, 0, 0, 5, 0, 0, 0, 1, 5]] :=
    .cons (by decide +kernel) (.cons (by decide +kernel) .nil)
  have hpieces : samplePieces.flatten =
      List.flatten [[1, 4, 0, 0, 0, 16, 0, 0, 0, 0, 0, 0, 0, 1, 0, 0, 0, 0, 0, 0, 0, 2],
        [1, 11, 0, 0, 0, 5, 0, 0, 0, 1, 5]] := by
    decide
  refine (TcpControlCmd.commands_read_iff_within sampleCodecs_sound henc hpieces).mpr ?_
  intro cmd hcmd
  rcases List.mem_pair.mp hcmd with rfl | rfl
  · exact ⟨16, by decide +kernel, by decide, by decide⟩
  · exact ⟨5, by decide +kernel, by decide, by decide⟩

/-- The claim is written, and makes the reader fail. -/
theorem large_claim_refused : ∃ frame, (TcpControlCmd.claimConnReq largeClaim).encodeWire sampleCodecs =
      .ok frame ∧
    TcpControlCmd.readCommands sampleCodecs 1 [frame] =
      .error ⟨.outOfLimit, "invalid tcp tunnel command body len 1048601"⟩ := by
  have hcodec : sampleCodecs.claimConnReq = .only largeClaim largeClaimBytes := rfl
  have hvec : sampleCodecs.claimConnReq.toVec largeClaim = .ok largeClaimBytes := by
    rw [hcodec, RawConvert.only_toVec]
  have hmeasure := (sampleCodecs_sound.claimConnReq _ _ hvec).1
  rw [largeClaimBytes_length] at hmeasure
  have hbad : validateHeaderLen ⟨tunnelCommandVersion, TcpCommandId.claimConnReq.asU8, asU32 1048601⟩ =
      .error ⟨.outOfLimit, "invalid tcp tunnel command body len 1048601"⟩ := by
    decide +kernel
  obtain ⟨headerBytes, hheader, -⟩ := sampleCodecs_sound.header
    ⟨tunnelCommandVersion, TcpCommandId.claimConnReq.asU8, asU32 1048601⟩
  refine ⟨headerBytes ++ largeClaimBytes, encodeTunnelCommandBytes_eq hmeasure hheader hvec, ?_⟩
  have hread : List.flatten [headerBytes ++ largeClaimBytes] = headerBytes ++ largeClaimBytes := by
    simp
  simp only [TcpControlCmd.readCommands, bind, Except.bind,
    TcpControlCmd.readFromWire_refuses sampleCodecs_sound hheader hread hbad]

end BuckyP2p.Tcp.Protocol
