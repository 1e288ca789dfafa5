import BuckyP2p.ControlStream.Frame
import BuckyP2p.Lib.Lists
import BuckyP2p.Lib.Table
import BuckyP2p.Tunnel.CommandWriter

/-!
# BuckyP2p.Quic.Opens — channels that two `QuicTunnel`s open to each other (`networks/quic/tunnel.rs`)

A call of `open_stream` or `open_datagram` opens a QUIC stream of its own, writes its request there
and waits for the answer: on the same stream, or, for a datagram channel, on the command stream.  The
future of a call may be dropped at every await, and dropping the `SendStream` ends the stream behind
the bytes that were accepted.

* The connection is reliable: no socket error occurs, and no timeout fires.  What a reader has not
  got yet is on the way, so a read of a request or an answer returns when the bytes that it wants
  were written, or the stream was ended before.
* The command streams are written by tasks that nobody drops, under a lock (`Tunnel.CommandWriter`):
  they carry whole frames.  No control streams are opened.
* `begin_pending` has succeeded for the calls; when an answer comes, `live` says whether the tunnel
  was retired since.
* What a tunnel does after `close_with_error` is not followed: there is no step from then on.

A call that is dropped behind a part of its request takes the tunnel down (`cut_closes`).
-/

namespace BuckyP2p.Quic

open Lib Tcp.Protocol
open ControlStream (TunnelCommandResult purposeText)
open Tcp (TunnelPurpose)
open Tunnel.CommandWriter (tunnelCommand)

/-! ## The commands -/

inductive TunnelChannelKind
  | stream | datagram
  deriving DecidableEq, Repr

inductive QuicTunnelCommandId
  | hello | helloResp | ping | pong | openChannelReq | openChannelResp | data
  deriving DecidableEq, Repr

namespace QuicTunnelCommandId

def asU8 : QuicTunnelCommandId → U8
  | .hello => 1
  | .helloResp => 2
  | .ping => 3
  | .pong => 4
  | .openChannelReq => 5
  | .openChannelResp => 6
  | .data => 7

def fromU8 (value : U8) : Option QuicTunnelCommandId :=
  [.hello, .helloResp, .ping, .pong, .openChannelReq, .openChannelResp, .data].find?
    fun id => value = id.asU8

/-- The derived `Debug`. -/
def debug : QuicTunnelCommandId → String
  | .hello => "Hello"
  | .helloResp => "HelloResp"
  | .ping => "Ping"
  | .pong => "Pong"
  | .openChannelReq => "OpenChannelReq"
  | .openChannelResp => "OpenChannelResp"
  | .data => "Data"

theorem fromU8_asU8 (id : QuicTunnelCommandId) : fromU8 id.asU8 = some id := by
  cases id <;> rfl

end QuicTunnelCommandId

/-- The derived `Debug`. -/
def resultDebug : TunnelCommandResult → String
  | .success => "Success"
  | .portNotListen => "PortNotListen"
  | .listenerClosed => "ListenerClosed"
  | .acceptQueueFull => "AcceptQueueFull"
  | .conflictLost => "ConflictLost"
  | .leaseMismatch => "LeaseMismatch"
  | .retired => "Retired"
  | .protocolError => "ProtocolError"
  | .timeout => "Timeout"
  | .interrupted => "Interrupted"
  | .invalidParam => "InvalidParam"
  | .internalError => "InternalError"

structure TunnelPing where
  seq : U64
  sendTime : Timestamp
  deriving DecidableEq, Repr

structure TunnelPong where
  seq : U64
  sendTime : Timestamp
  deriving DecidableEq, Repr

structure TunnelOpenChannelReq where
  requestId : U64
  kind : TunnelChannelKind
  purpose : TunnelPurpose
  deriving DecidableEq, Repr

structure TunnelOpenChannelResp where
  requestId : U64
  result : TunnelCommandResult
  deriving DecidableEq, Repr

/-- The derived codecs of the header and of the bodies. -/
structure Codecs where
  header : RawConvert TunnelCommandHeader
  ping : RawConvert TunnelPing
  pong : RawConvert TunnelPong
  openChannelReq : RawConvert TunnelOpenChannelReq
  openChannelResp : RawConvert TunnelOpenChannelResp

namespace Codecs

/-- What the code relies on: headers and bodies round-trip, all headers have one length, and the
bodies of the command stream, which have a fixed number of fields, fit. -/
structure Sound (c : Codecs) (len : Nat) : Prop where
  header : ∀ h, ∃ bytes, c.header.toVec h = .ok bytes ∧ bytes.length = len ∧
    c.header.cloneFromSlice bytes = .ok h
  headerLen : ∀ h, c.header.rawMeasure h = .ok len
  ping : c.ping.RoundTrips
  pong : c.pong.RoundTrips
  openChannelReq : c.openChannelReq.RoundTrips
  openChannelResp : c.openChannelResp.RoundTrips
  pingLen : ∀ v bytes, c.ping.toVec v = .ok bytes → bytes.length < 2 ^ 32
  pongLen : ∀ v bytes, c.pong.toVec v = .ok bytes → bytes.length < 2 ^ 32
  openChannelRespLen : ∀ v bytes, c.openChannelResp.toVec v = .ok bytes → bytes.length < 2 ^ 32

variable (c : Codecs)

def pingBody : TunnelCommandBody TunnelPing := ⟨c.ping, QuicTunnelCommandId.ping.asU8⟩

def pongBody : TunnelCommandBody TunnelPong := ⟨c.pong, QuicTunnelCommandId.pong.asU8⟩

def reqBody : TunnelCommandBody TunnelOpenChannelReq :=
  ⟨c.openChannelReq, QuicTunnelCommandId.openChannelReq.asU8⟩

def respBody : TunnelCommandBody TunnelOpenChannelResp :=
  ⟨c.openChannelResp, QuicTunnelCommandId.openChannelResp.asU8⟩

end Codecs

def readChannelCommand {T : Type} (h : RawConvert TunnelCommandHeader) (b : TunnelCommandBody T)
    (expectedId : QuicTunnelCommandId) (label : String) (read : Read) : P2pResult (T × Read) := do
  let (header, read) ← readTunnelCommandHeader h read
  match QuicTunnelCommandId.fromU8 header.commandId with
  | none => .error ⟨.invalidData, s!"unknown quic {label} command id {header.commandId.val}"⟩
  | some commandId =>
    if commandId ≠ expectedId then
      .error ⟨.invalidData,
        s!"unexpected quic {label} command id {commandId.debug}, expect {expectedId.debug}"⟩
    else do
      let (command, read) ← readTunnelCommandBody b read header
      return (command.body, read)

/-! ## Frames that are read -/

section Frames

variable {T : Type} {c : Codecs} {len : Nat} {b : TunnelCommandBody T} {body : T}
  {pieces : List (List U8)} {bytes t : List U8} {read : Read}

theorem readTunnelCommandHeader_frame (hc : c.Sound len) (hb : b.codec.RoundTrips)
    (henc : tunnelCommand c.header b body = .ok pieces) (hread : read.flatten = pieces.flatten ++ t) :
    ∃ bytes rest, readTunnelCommandHeader c.header read =
        .ok (⟨tunnelCommandVersion, b.commandId, asU32 bytes.length⟩, rest) ∧
      rest.flatten = bytes ++ t ∧ b.codec.toVec body = .ok bytes := by
  obtain ⟨headerBytes, bytes, rfl, hheader, hbytes, -, -⟩ :=
    Tunnel.CommandWriter.tunnelCommand_ok hb henc
  obtain ⟨headerBytes', hvec, hlen, hclone⟩ := hc.header
    ⟨tunnelCommandVersion, b.commandId, asU32 bytes.length⟩
  obtain rfl : headerBytes = headerBytes' := Except.ok.inj (hheader.symm.trans hvec)
  obtain ⟨rest, hexact, hrest⟩ := readExact_eq (t := bytes ++ t) unexpectedEof
    (hread.trans (by simp)) hlen
  refine ⟨bytes, rest, ?_, hrest, hbytes⟩
  have hheaderLen : headerLen c.header = .ok len := rawCodecErr_eq_ok.mpr (hc.headerLen _)
  simp only [readTunnelCommandHeader, bind, Except.bind, pure, Except.pure, hheaderLen, hexact,
    rawCodecErr, hclone]

theorem readTunnelCommandBody_frame (hb : b.codec.RoundTrips)
    (hbytes : b.codec.toVec body = .ok bytes) (hfit : bytes.length < 2 ^ 32)
    (hread : read.flatten = bytes ++ t) :
    ∃ command rest, readTunnelCommandBody b read
        ⟨tunnelCommandVersion, b.commandId, asU32 bytes.length⟩ = .ok (command, rest) ∧
      command.body = body := by
  obtain ⟨hmeasure, hclone⟩ := hb body bytes hbytes
  obtain ⟨rest, hexact, -⟩ := readExact_eq unexpectedEof hread
    (Tunnel.CommandWriter.asU32_val hfit).symm
  refine ⟨⟨⟨tunnelCommandVersion, b.commandId, asU32 bytes.length⟩, body⟩, rest, ?_, rfl⟩
  simp only [readTunnelCommandBody, bind, Except.bind, pure, Except.pure, ne_eq, not_true_eq_false,
    if_false, hexact, rawCodecErr, hclone, TunnelCommand.fromHeaderAndBody, TunnelCommand.validate,
    hmeasure]

/-- Whatever comes behind a request or an answer, it is read. -/
theorem readChannelCommand_frame (hc : c.Sound len) (hb : b.codec.RoundTrips)
    {id : QuicTunnelCommandId} (hid : b.commandId = id.asU8) (label : String)
    (henc : tunnelCommand c.header b body = .ok pieces)
    (hfit : ∀ bytes, b.codec.toVec body = .ok bytes → bytes.length < 2 ^ 32)
    (hread : read.flatten = pieces.flatten ++ t) :
    ∃ rest, readChannelCommand c.header b id label read = .ok (body, rest) := by
  obtain ⟨bytes, read', hheader, hread', hbytes⟩ := readTunnelCommandHeader_frame hc hb henc hread
  obtain ⟨command, rest, hcommand, rfl⟩ :=
    readTunnelCommandBody_frame hb hbytes (hfit bytes hbytes) hread'
  refine ⟨rest, ?_⟩
  simp only [readChannelCommand, bind, Except.bind, pure, Except.pure, hheader, hcommand]
  rw [hid, id.fromU8_asU8]
  simp

/-- A part of a request or an answer is not read: its reader wants more. -/
theorem readChannelCommand_short (hc : c.Sound len) (hb : b.codec.RoundTrips)
    {id : QuicTunnelCommandId} (hid : b.commandId = id.asU8) (label : String)
    (henc : tunnelCommand c.header b body = .ok pieces)
    (hfit : ∀ bytes, b.codec.toVec body = .ok bytes → bytes.length < 2 ^ 32)
    (hread : read.flatten ++ t = pieces.flatten) (ht : t ≠ []) :
    readChannelCommand c.header b id label read = .error unexpectedEof := by
  obtain ⟨headerBytes, bytes, rfl, hheader, hbytes, -, -⟩ :=
    Tunnel.CommandWriter.tunnelCommand_ok hb henc
  obtain ⟨headerBytes', hvec, hlen, hclone⟩ := hc.header
    ⟨tunnelCommandVersion, b.commandId, asU32 bytes.length⟩
  obtain rfl : headerBytes = headerBytes' := Except.ok.inj (hheader.symm.trans hvec)
  have hheaderLen : headerLen c.header = .ok len := rawCodecErr_eq_ok.mpr (hc.headerLen _)
  have hall : read.flatten ++ t = headerBytes ++ bytes := hread.trans (by simp)
  by_cases hshort : read.flatten.length < len
  · simp only [readChannelCommand, readTunnelCommandHeader, bind, Except.bind, hheaderLen,
      readExact_short unexpectedEof hshort]
  · -- the header is there, and the body is short
    obtain ⟨v, hv, hbody⟩ : ∃ v, read.flatten = headerBytes ++ v ∧ bytes = v ++ t := by
      rcases List.append_eq_append_iff.mp hall with ⟨u, hu, ht'⟩ | ⟨u, hu, ht'⟩
      · have hnil : u = [] := by
          have hsum := congrArg List.length hu
          rw [List.length_append] at hsum
          exact List.eq_nil_of_length_eq_zero (by omega)
        subst hnil
        exact ⟨[], by simpa using hu.symm, by simpa using ht'.symm⟩
      · exact ⟨u, hu, ht'⟩
    obtain ⟨rest, hexact, hrest⟩ := readExact_eq unexpectedEof hv hlen
    have hshort' : rest.flatten.length < (asU32 bytes.length).val := by
      rw [Tunnel.CommandWriter.asU32_val (hfit bytes hbytes), hrest, hbody, List.length_append]
      have := List.length_pos_of_ne_nil ht
      omega
    simp only [readChannelCommand, readTunnelCommandHeader, bind, Except.bind, pure, Except.pure,
      hheaderLen, hexact, rawCodecErr, hclone]
    rw [hid, id.fromU8_asU8]
    simp only [readTunnelCommandBody, bind, Except.bind, hid, ne_eq, not_true_eq_false, if_false,
      readExact_short unexpectedEof hshort']

/-- A body that is encoded makes a frame. -/
theorem tunnelCommand_eq (hc : c.Sound len) (hb : b.codec.RoundTrips)
    (hbytes : b.codec.toVec body = .ok bytes) :
    ∃ pieces, tunnelCommand c.header b body = .ok pieces := by
  obtain ⟨hmeasure, -⟩ := hb body bytes hbytes
  obtain ⟨headerBytes, hheader, -, -⟩ := hc.header
    ⟨tunnelCommandVersion, b.commandId, asU32 bytes.length⟩
  refine ⟨[headerBytes, bytes], ?_⟩
  simp [tunnelCommand, TunnelCommand.new, TunnelCommand.validate, bind, Except.bind, pure, Except.pure,
    rawCodecErr, hmeasure, hheader, hbytes]

end Frames

/-! ## The tunnels -/

/-- The end of the connection. -/
abbrev Side : Type := Bool

/-- The call that opens a channel. -/
inductive Phase
  /-- Awaits `open_bi` or `open_uni`. -/
  | opening
  /-- What is left of the pieces of the request. -/
  | writing (left : List (List U8))
  /-- Awaits the answer. -/
  | waiting
  /-- The caller has the halves of the channel. -/
  | opened
  /-- The call has failed or was dropped, or the halves were. -/
  | ended (error : Option P2pError)
  deriving DecidableEq

/-- `handle_incoming_stream_open` or `handle_incoming_datagram_open` at the other end. -/
inductive Handler
  /-- The accept loop has not got the stream. -/
  | idle
  | reading
  | answering (req : TunnelOpenChannelReq) (result : TunnelCommandResult)
  /-- The callback has got the channel. -/
  | serving
  | ended
  deriving DecidableEq

/-- The QUIC stream of a call. -/
structure QuicStream where
  requestId : U64
  /-- The bytes that its `SendStream` has accepted. -/
  sent : List U8
  /-- The `SendStream` was dropped. -/
  ended : Bool
  handler : Handler
  /-- The way back, which only a stream channel has. -/
  back : List U8
  backEnded : Bool
  deriving DecidableEq

/-- The oneshot channel of `open_datagram`. -/
inductive Answer
  | none
  | sent (result : P2pResult Unit)
  /-- Its sender was dropped. -/
  | dropped
  deriving DecidableEq

structure Call where
  side : Side
  kind : TunnelChannelKind
  purpose : TunnelPurpose
  phase : Phase
  stream : Option QuicStream
  answer : Answer
  deriving DecidableEq

/-- An argument of `close_with_error`: the code, the message and the error that the message ends
with. -/
structure Close where
  code : P2pErrorCode
  message : String
  cause : Option P2pError
  deriving DecidableEq

structure QuicTunnel where
  nextRequestId : U64
  pendingOpenRequests : Table U64 Nat
  /-- The frames that `command_recv_loop` has not read. -/
  commands : List (List U8)
  closed : Option Close

/-- What the handler of a request finds. -/
structure Listening where
  /-- `listen_vports`, and whether the purpose is listened to. -/
  vports : Option Bool
  callback : Bool
  /-- `begin_pending` succeeds. -/
  live : Bool
  deriving DecidableEq

inductive Event
  | call (side : Side) (kind : TunnelChannelKind) (purpose : TunnelPurpose)
  /-- The QUIC stream is opened. -/
  | opened (k : Nat)
  /-- A write accepts `n` bytes of the piece that is being written. -/
  | poll (k n : Nat)
  | flushed (k : Nat)
  /-- The future of the call is dropped. -/
  | cancel (k : Nat)
  | accept (k : Nat)
  /-- The handler has read the request, or cannot. -/
  | request (k : Nat) (l : Listening)
  /-- The handler writes its answer; `stopped` if the reader of the answer is gone. -/
  | respond (k : Nat) (stopped live : Bool)
  /-- The call gets its answer. -/
  | response (k : Nat) (live : Bool)
  /-- `command_recv_loop` reads a frame. -/
  | command (side : Side)
  /-- `heartbeat_loop` sends a ping. -/
  | ping (side : Side) (seq : U64)
  | write (k : Nat) (bytes : List U8)
  /-- The caller, or the other end, drops the halves of the channel. -/
  | release (k : Nat)
  | releasePeer (k : Nat)
  deriving DecidableEq

/-- The call whose step it is, or that of the handler of its stream. -/
def Event.call? : Event → Option Nat
  | .opened k | .poll k _ | .flushed k | .cancel k | .accept k | .request k _ | .respond k _ _
  | .response k _ | .write k _ | .release k | .releasePeer k => some k
  | _ => none

structure Connection where
  tunnels : Side → QuicTunnel
  calls : List Call

def TunnelChannelKind.label : TunnelChannelKind → String
  | .stream => "stream open req"
  | .datagram => "datagram open req"

def TunnelChannelKind.decodeFailed : TunnelChannelKind → String
  | .stream => "quic decode stream open req failed"
  | .datagram => "quic decode datagram open req failed"

/-- What the handler answers: `incoming_open_result`, and the checks behind it. -/
def openResult (kind : TunnelChannelKind) (req : TunnelOpenChannelReq) (l : Listening) :
    TunnelCommandResult :=
  if req.kind ≠ kind then .invalidParam
  else
    match l.vports with
    | none => .listenerClosed
    | some false => .portNotListen
    | some true => if !l.callback then .listenerClosed else if !l.live then .retired else .success

/-- `TunnelActivity::interrupted_error`. -/
def interruptedError : P2pError := ⟨.interrupted, "tunnel candidate retired"⟩

namespace Call

/-- The call returns an error or is dropped, and its `SendStream` with it. -/
def leaves (x : Call) (error : Option P2pError) : Call :=
  { x with
    phase := .ended error
    stream := x.stream.map fun q => { q with ended := true } }

def isOver (x : Call) : Bool :=
  match x.phase with
  | .ended _ => true
  | _ => false

end Call

namespace QuicStream

/-- The handler returns, and drops what it has of the stream. -/
def handled (q : QuicStream) : QuicStream := { q with handler := .ended, backEnded := true }

end QuicStream

namespace Connection

variable (c : Codecs)

def init : Connection := ⟨fun _ => ⟨1, ∅, [], none⟩, []⟩

def setTunnel (s : Connection) (a : Side) (t : QuicTunnel) : Connection :=
  { s with tunnels := Function.update s.tunnels a t }

def setCall (s : Connection) (k : Nat) (x : Call) : Connection := { s with calls := s.calls.set k x }

def setStream (s : Connection) (k : Nat) (x : Call) (q : QuicStream) : Connection :=
  s.setCall k { x with stream := some q }

def closeWithError (s : Connection) (a : Side) (close : Close) : Connection :=
  s.setTunnel a { s.tunnels a with closed := some close }

/-- Neither end has called `close_with_error`. -/
def Up (s : Connection) : Prop := ∀ a, (s.tunnels a).closed = none

instance (s : Connection) : Decidable s.Up :=
  decidable_of_iff ((s.tunnels false).closed = none ∧ (s.tunnels true).closed = none) <| by
    rw [Up, Bool.forall_bool]

/-- `send_command` of the end `a`. -/
def sendCommand {T : Type} (s : Connection) (a : Side) (b : TunnelCommandBody T) (body : T) :
    Connection :=
  match tunnelCommand c.header b body with
  | .ok pieces =>
    s.setTunnel (!a) { s.tunnels (!a) with commands := (s.tunnels (!a)).commands ++ [pieces.flatten] }
  | .error _ => s

/-- `pending_open_requests.remove`. -/
def removePending (s : Connection) (a : Side) (id : U64) : Connection :=
  s.setTunnel a
    { s.tunnels a with pendingOpenRequests := (s.tunnels a).pendingOpenRequests.erase id }

/-- `next_request_id`, and for a datagram channel `begin_open_channel`, which keeps the sender of the
call; one that it replaces is dropped. -/
def beginOpenChannel (s : Connection) (k : Nat) (x : Call) : Connection :=
  let t := s.tunnels x.side
  match x.kind with
  | .stream => s.setTunnel x.side { t with nextRequestId := t.nextRequestId + 1 }
  | .datagram =>
    let r := s.setTunnel x.side { t with
      nextRequestId := t.nextRequestId + 1
      pendingOpenRequests := t.pendingOpenRequests.insert t.nextRequestId k }
    match t.pendingOpenRequests.lookup t.nextRequestId with
    | some k' => { r with calls := r.calls.modify k' fun y => { y with answer := .dropped } }
    | none => r

/-- The QUIC stream of the call `k`, which is `x`, is there: the request gets its id. -/
def opensStream (s : Connection) (k : Nat) (x : Call) : Connection :=
  let id := (s.tunnels x.side).nextRequestId
  let r := s.beginOpenChannel k x
  match tunnelCommand c.header c.reqBody ⟨id, x.kind, x.purpose⟩ with
  | .ok pieces => r.setCall k { x with
      phase := .writing pieces
      stream := some ⟨id, [], false, .idle, [], false⟩ }
  | .error e =>
    (match x.kind with
      | .stream => r
      | .datagram => r.removePending x.side id).setCall k
        ({ x with stream := some ⟨id, [], false, .idle, [], false⟩ }.leaves (some e))

/-- The answer that the call waits for on its own stream. -/
def readsAnswer (s : Connection) (k : Nat) (x : Call) (q : QuicStream) (live : Bool) : Connection :=
  match readChannelCommand c.header c.respBody .openChannelResp "stream open resp" [q.back] with
  | .error e => if e = unexpectedEof ∧ q.backEnded = false then s else s.setCall k (x.leaves (some e))
  | .ok (resp, _) =>
    if resp.requestId ≠ q.requestId then
      s.setCall k (x.leaves (some ⟨.invalidData, "quic open stream resp request_id mismatch"⟩))
    else if resp.result ≠ .success then
      s.setCall k (x.leaves (some (resp.result.intoP2pError
        s!"quic open stream rejected request {q.requestId.val} result {resultDebug resp.result}")))
    else if live then s.setCall k { x with phase := .opened }
    else s.setCall k (x.leaves (some interruptedError))

/-- `wait_open_channel`. -/
def waitOpenChannel (s : Connection) (k : Nat) (x : Call) (q : QuicStream) (live : Bool) : Connection :=
  match x.answer with
  | .none => s
  | .dropped => (s.removePending x.side q.requestId).setCall k
      (x.leaves (some ⟨.interrupted, "quic open channel interrupted"⟩))
  | .sent (.error e) => s.setCall k (x.leaves (some e))
  | .sent (.ok ()) =>
    (s.removePending x.side q.requestId).setCall k
      (if live then { x with phase := .opened } else x.leaves (some interruptedError))

/-- The handler of the stream `q` reads the request. -/
def handles (s : Connection) (k : Nat) (x : Call) (q : QuicStream) (l : Listening) : Connection :=
  match readChannelCommand c.header c.reqBody .openChannelReq x.kind.label [q.sent] with
  | .error e =>
    if e = unexpectedEof ∧ q.ended = false then s
    else s.closeWithError (!x.side) ⟨.invalidData, x.kind.decodeFailed, some e⟩
  | .ok (req, _) => s.setStream k x { q with handler := .answering req (openResult x.kind req l) }

/-- The handler writes its answer, and hands the channel over if it is a success. -/
def answers (s : Connection) (k : Nat) (x : Call) (q : QuicStream) (req : TunnelOpenChannelReq)
    (result : TunnelCommandResult) (stopped live : Bool) : Connection :=
  match tunnelCommand c.header c.respBody ⟨req.requestId, result⟩ with
  | .error _ => s.setStream k x q.handled
  | .ok pieces =>
    match x.kind with
    | .stream =>
      if stopped && x.isOver then s.setStream k x q.handled
      else
        let q := { q with back := pieces.flatten }
        s.setStream k x (if result = .success ∧ live then { q with handler := .serving } else q.handled)
    | .datagram =>
      (s.sendCommand c (!x.side) c.respBody ⟨req.requestId, result⟩).setStream k x
        (if result = .success ∧ live then { q with handler := .serving } else q.handled)

/-- The pending request with the id of the answer gets it. -/
def answered (s : Connection) (a : Side) (resp : TunnelOpenChannelResp) : Connection :=
  match (s.tunnels a).pendingOpenRequests.lookup resp.requestId with
  | some k =>
    { s.removePending a resp.requestId with
      calls := s.calls.modify k fun x =>
        { x with answer := .sent (if resp.result = .success then .ok ()
          else .error (resp.result.intoP2pError
            s!"quic open channel rejected request {resp.requestId.val} result {resultDebug resp.result}")) } }
  | none => s

/-- `command_recv_loop` of the end `a`, with the next frame. -/
def receives (s : Connection) (a : Side) (frame : List U8) : Connection :=
  match readTunnelCommandHeader c.header [frame] with
  | .error e => s.closeWithError a ⟨.interrupted, "quic command recv failed", some e⟩
  | .ok (header, read) =>
    match QuicTunnelCommandId.fromU8 header.commandId with
    | none =>
      s.closeWithError a
        ⟨.invalidData, s!"unknown quic tunnel command id {header.commandId.val}", none⟩
    | some .hello | some .helloResp =>
      s.closeWithError a
        ⟨.invalidData, "quic command stream should not carry tunnel hello after init", none⟩
    | some .ping =>
      match readTunnelCommandBody c.pingBody read header with
      | .error e => s.closeWithError a ⟨.invalidData, "quic decode ping failed", some e⟩
      | .ok (cmd, _) => s.sendCommand c a c.pongBody ⟨cmd.body.seq, cmd.body.sendTime⟩
    | some .pong =>
      match readTunnelCommandBody c.pongBody read header with
      | .error e => s.closeWithError a ⟨.invalidData, "quic decode pong failed", some e⟩
      | .ok _ => s
    | some .openChannelReq =>
      s.closeWithError a ⟨.invalidData, "quic command stream should not carry OpenChannelReq", none⟩
    | some .openChannelResp =>
      match readTunnelCommandBody c.respBody read header with
      | .error e => s.closeWithError a ⟨.invalidData, "quic decode open channel resp failed", some e⟩
      | .ok (cmd, _) => s.answered a cmd.body
    -- goes to the control streams, of which there are none
    | some .data => s

/-- A step of the call `k`, which is `x`, or of the handler of its stream. -/
def run (s : Connection) (k : Nat) (x : Call) : Event → Connection
  | .opened _ => if x.phase = .opening then s.opensStream c k x else s
  | .poll _ n =>
    match x.phase, x.stream with
    | .writing left, some q =>
      -- `write_all` of an empty piece does not poll
      match left.dropWhile List.isEmpty with
      | [] => s
      | piece :: rest =>
        if n = 0 then s
        else s.setCall k { x with
          phase := .writing (piece.drop n :: rest)
          stream := some { q with sent := q.sent ++ piece.take n } }
    | _, _ => s
  | .flushed _ =>
    match x.phase with
    | .writing left => if left.flatten = [] then s.setCall k { x with phase := .waiting } else s
    | _ => s
  | .cancel _ =>
    match x.phase with
    | .opening | .writing _ | .waiting => s.setCall k (x.leaves none)
    | _ => s
  | .accept _ =>
    match x.stream with
    | some q => if q.handler = .idle then s.setStream k x { q with handler := .reading } else s
    | none => s
  | .request _ l =>
    match x.stream with
    | some q => if q.handler = .reading then s.handles c k x q l else s
    | none => s
  | .respond _ stopped live =>
    match x.stream with
    | some q =>
      match q.handler with
      | .answering req result => s.answers c k x q req result stopped live
      | _ => s
    | none => s
  | .response _ live =>
    match x.phase, x.stream with
    | .waiting, some q =>
      match x.kind with
      | .stream => s.readsAnswer c k x q live
      | .datagram => s.waitOpenChannel k x q live
    | _, _ => s
  | .write _ bytes =>
    match x.phase, x.stream with
    | .opened, some q => s.setStream k x { q with sent := q.sent ++ bytes }
    | _, _ => s
  | .release _ => if x.phase = .opened then s.setCall k (x.leaves none) else s
  | .releasePeer _ =>
    match x.stream with
    | some q => if q.handler = .serving then s.setStream k x q.handled else s
    | none => s
  | _ => s

def step (s : Connection) (ev : Event) : Connection :=
  if s.Up then
    match ev with
    | .call side kind purpose =>
      { s with calls := s.calls ++ [⟨side, kind, purpose, .opening, none, .none⟩] }
    | .command side =>
      match (s.tunnels side).commands with
      | frame :: rest =>
        (s.setTunnel side { s.tunnels side with commands := rest }).receives c side frame
      | [] => s
    | .ping side seq => s.sendCommand c side c.pingBody ⟨seq, 0⟩
    | .opened k | .poll k _ | .flushed k | .cancel k | .accept k | .request k _ | .respond k _ _
    | .response k _ | .write k _ | .release k | .releasePeer k =>
      match s.calls[k]? with
      | some x => s.run c k x ev
      | none => s
  else s

/-! ## What is on the streams -/

/-- The request encodes, and its length fits into the header. -/
def fits (req : TunnelOpenChannelReq) : Bool :=
  match c.openChannelReq.toVec req with
  | .ok bytes => bytes.length < 2 ^ 32
  | .error _ => false

theorem fits_iff {req : TunnelOpenChannelReq} :
    fits c req = true ↔ ∃ bytes, c.openChannelReq.toVec req = .ok bytes ∧ bytes.length < 2 ^ 32 := by
  unfold fits
  cases c.openChannelReq.toVec req <;> simp

/-- `f` is the frame of a request. -/
def Request (f : List U8) : Prop :=
  ∃ req pieces, tunnelCommand c.header c.reqBody req = .ok pieces ∧ pieces.flatten = f ∧
    fits c req = true

/-- A frame that is sent on a command stream. -/
inductive Command : List U8 → Prop
  | ping {cmd pieces} (h : tunnelCommand c.header c.pingBody cmd = .ok pieces) : Command pieces.flatten
  | pong {cmd pieces} (h : tunnelCommand c.header c.pongBody cmd = .ok pieces) : Command pieces.flatten
  | resp {cmd pieces} (h : tunnelCommand c.header c.respBody cmd = .ok pieces) : Command pieces.flatten

/-- The call has written a part of its request, or nothing of it, on a stream that is there. -/
def amid (x : Call) : Bool :=
  match x.phase with
  | .writing left => !left.flatten.isEmpty
  | _ => false

/-- A stream is opened for a request that fits, and a call is not dropped before all of its request
is accepted, if its stream is there. -/
def Sparing (s : Connection) : Event → Prop
  | .opened k => ∀ x ∈ s.calls[k]?, x.phase = .opening →
      fits c ⟨(s.tunnels x.side).nextRequestId, x.kind, x.purpose⟩ = true
  | .cancel k => ∀ x ∈ s.calls[k]?, amid x = false
  | _ => True

instance (s : Connection) (ev : Event) : Decidable (s.Sparing c ev) := by
  unfold Sparing
  split <;> infer_instance

/-- The stream of the call holds its request, or is still being written. -/
def Fine (x : Call) : Prop :=
  ∀ q, x.stream = some q → ∃ f, Request c f ∧
    match x.phase with
    | .opening => False
    | .writing left => q.sent ++ left.flatten = f ∧ q.ended = false
    | _ => f <+: q.sent

structure Whole (s : Connection) : Prop where
  up : s.Up
  calls : ∀ x ∈ s.calls, Fine c x
  commands : ∀ a, ∀ f ∈ (s.tunnels a).commands, Command c f

variable {c} {len : Nat} {s : Connection} {k : Nat} {x : Call} {q : QuicStream}

theorem whole_init : Whole c init := by
  refine ⟨fun _ => rfl, ?_, ?_⟩
  · intro x hx
    cases hx
  · intro a f hf
    cases hf

theorem Fine.leaves (h : Fine c x) (hamid : amid x = false) (error : Option P2pError) :
    Fine c (x.leaves error) := by
  intro q' hq'
  obtain ⟨q, hq, rfl⟩ := Option.map_eq_some_iff.mp hq'
  obtain ⟨f, hf, hphase⟩ := h q hq
  refine ⟨f, hf, ?_⟩
  show f <+: q.sent
  cases hp : x.phase with
  | opening =>
    rw [hp] at hphase
    exact hphase.elim
  | writing left =>
    rw [hp] at hphase
    have hnil : left.flatten = [] := by simpa [amid, hp] using hamid
    rw [← hphase.1, hnil, List.append_nil]
  | waiting | opened | ended error =>
    rw [hp] at hphase
    exact hphase

/-- The handler and the way back do not matter. -/
theorem Fine.stream (h : Fine c x) (hq : x.stream = some q) (q' : QuicStream)
    (hsent : q'.sent = q.sent) (hended : q'.ended = q.ended) : Fine c { x with stream := some q' } := by
  intro q'' hq''
  cases hq''
  rw [hsent, hended]
  exact h q hq

theorem Whole.setCall (h : Whole c s) {y : Call} (hy : Fine c y) (k : Nat) : Whole c (s.setCall k y) := by
  refine ⟨h.up, fun z hz => ?_, h.commands⟩
  rcases List.mem_or_eq_of_mem_set hz with hz | rfl
  · exact h.calls z hz
  · exact hy

theorem Whole.fine (h : Whole c s) (hx : s.calls[k]? = some x) : Fine c x :=
  h.calls x (List.mem_of_getElem? hx)

theorem Whole.setHandler (h : Whole c s) (hx : Fine c x) (hq : x.stream = some q) (k : Nat)
    (handler : Handler) (back : List U8) (backEnded : Bool) : Whole c (s.setStream k x
      { q with handler := handler, back := back, backEnded := backEnded }) :=
  h.setCall (hx.stream hq { q with handler := handler, back := back, backEnded := backEnded } rfl rfl) k

theorem Whole.setTunnel (h : Whole c s) {t : QuicTunnel} (hclosed : t.closed = none)
    (hcommands : ∀ f ∈ t.commands, Command c f) (a : Side) : Whole c (s.setTunnel a t) := by
  refine ⟨fun a' => ?_, h.calls, fun a' f hf => ?_⟩
  · by_cases ha : a' = a
    · subst ha
      simpa [Connection.setTunnel] using hclosed
    · simpa [Connection.setTunnel, ha] using h.up a'
  · by_cases ha : a' = a
    · subst ha
      exact hcommands f (by simpa [Connection.setTunnel] using hf)
    · exact h.commands a' f (by simpa [Connection.setTunnel, ha] using hf)

theorem Whole.removePending (h : Whole c s) (a : Side) (id : U64) : Whole c (s.removePending a id) :=
  h.setTunnel
    (t := { s.tunnels a with pendingOpenRequests := (s.tunnels a).pendingOpenRequests.erase id })
    (h.up a) (h.commands a) a

/-- What is sent to a call on its oneshot channel does not matter. -/
theorem Whole.modifyAnswer (h : Whole c s) (k : Nat) (answer : Answer) :
    Whole c { s with calls := s.calls.modify k fun y => { y with answer := answer } } := by
  refine ⟨h.up, fun z hz => ?_, h.commands⟩
  obtain ⟨i, hi⟩ := List.mem_iff_getElem?.mp hz
  rw [List.getElem?_modify, Option.map_eq_map, Option.map_eq_some_iff] at hi
  obtain ⟨y, hy, rfl⟩ := hi
  have hfine := h.fine hy
  split_ifs
  · exact hfine
  · exact hfine

theorem Whole.sendCommand (h : Whole c s) {T : Type} (a : Side) {b : TunnelCommandBody T} {body : T}
    (hcommand : ∀ pieces, tunnelCommand c.header b body = .ok pieces → Command c pieces.flatten) :
    Whole c (s.sendCommand c a b body) := by
  unfold Connection.sendCommand
  cases henc : tunnelCommand c.header b body with
  | error e => exact h
  | ok pieces =>
    refine h.setTunnel
      (t := { s.tunnels (!a) with commands := (s.tunnels (!a)).commands ++ [pieces.flatten] })
      (h.up _) (fun f hf => ?_) _
    rcases List.mem_append.mp hf with hf | hf
    · exact h.commands _ f hf
    · cases List.mem_singleton.mp hf
      exact hcommand pieces henc

theorem Whole.beginOpenChannel (h : Whole c s) (k : Nat) (x : Call) :
    Whole c (s.beginOpenChannel k x) := by
  have ht : ∀ (id : U64) (pending : Table U64 Nat), Whole c (s.setTunnel x.side
      { s.tunnels x.side with nextRequestId := id, pendingOpenRequests := pending }) :=
    fun id pending => h.setTunnel
      (t := { s.tunnels x.side with nextRequestId := id, pendingOpenRequests := pending })
      (h.up _) (h.commands _) _
  unfold Connection.beginOpenChannel
  dsimp only
  split
  · exact ht _ _
  · split
    · exact (ht _ _).modifyAnswer _ .dropped
    · exact ht _ _

theorem Whole.opensStream (h : Whole c s) (hc : c.Sound len)
    (hfits : fits c ⟨(s.tunnels x.side).nextRequestId, x.kind, x.purpose⟩ = true) (k : Nat) :
    Whole c (s.opensStream c k x) := by
  obtain ⟨bytes, hbytes, -⟩ := (fits_iff c).mp hfits
  obtain ⟨pieces, henc⟩ := tunnelCommand_eq (b := c.reqBody) hc hc.openChannelReq hbytes
  simp only [Connection.opensStream, henc]
  refine (h.beginOpenChannel k x).setCall (fun q hq => ?_) k
  cases hq
  exact ⟨pieces.flatten, ⟨_, pieces, henc, rfl, hfits⟩, rfl, rfl⟩

theorem Whole.readsAnswer (h : Whole c s) (hx : Fine c x) (hp : x.phase = .waiting) (k : Nat)
    (q : QuicStream) (live : Bool) : Whole c (s.readsAnswer c k x q live) := by
  have hleaves : ∀ error, Whole c (s.setCall k (x.leaves error)) := fun error =>
    h.setCall (hx.leaves (by simp [amid, hp]) error) k
  unfold Connection.readsAnswer
  split
  · split_ifs
    · exact h
    · exact hleaves _
  · split_ifs
    · exact hleaves _
    · exact hleaves _
    · refine h.setCall (fun q' hq' => ?_) k
      obtain ⟨f, hf, hphase⟩ := hx q' hq'
      rw [hp] at hphase
      exact ⟨f, hf, hphase⟩
    · exact hleaves _

theorem Whole.waitOpenChannel (h : Whole c s) (hx : Fine c x) (hp : x.phase = .waiting) (k : Nat)
    (q : QuicStream) (live : Bool) : Whole c (s.waitOpenChannel k x q live) := by
  have hleaves : ∀ error, Fine c (x.leaves error) := fun error =>
    hx.leaves (by simp [amid, hp]) error
  have hopened : Fine c { x with phase := .opened } := by
    intro q' hq'
    obtain ⟨f, hf, hphase⟩ := hx q' hq'
    rw [hp] at hphase
    exact ⟨f, hf, hphase⟩
  unfold Connection.waitOpenChannel
  split
  · exact h
  · exact (h.removePending _ _).setCall (hleaves _) k
  · exact h.setCall (hleaves _) k
  · refine (h.removePending _ _).setCall ?_ k
    split_ifs
    · exact hopened
    · exact hleaves _

/-- The handler of a stream finds its request, or waits for more of it. -/
theorem handles_cases (hc : c.Sound len) (hx : Fine c x) (hq : x.stream = some q) (s : Connection)
    (k : Nat) (l : Listening) :
    s.handles c k x q l = s ∨ ∃ req, s.handles c k x q l =
      s.setStream k x { q with handler := .answering req (openResult x.kind req l) } := by
  obtain ⟨f, ⟨req, pieces, henc, rfl, hfits⟩, hphase⟩ := hx q hq
  have hfit : ∀ bytes, c.reqBody.codec.toVec req = .ok bytes → bytes.length < 2 ^ 32 := by
    intro bytes hbytes
    obtain ⟨bytes', hbytes', hlt⟩ := (fits_iff c).mp hfits
    cases hbytes'.symm.trans hbytes
    exact hlt
  have hwhole : ∀ t, q.sent = pieces.flatten ++ t → ∃ req, s.handles c k x q l =
      s.setStream k x { q with handler := .answering req (openResult x.kind req l) } := by
    intro t ht
    obtain ⟨rest, hread⟩ := readChannelCommand_frame hc hc.openChannelReq
      (show c.reqBody.commandId = QuicTunnelCommandId.openChannelReq.asU8 from rfl) x.kind.label henc hfit
      (show [q.sent].flatten = pieces.flatten ++ t by simpa using ht)
    refine ⟨req, ?_⟩
    simp only [Connection.handles, hread]
  have hbegun : pieces.flatten <+: q.sent → ∃ req, s.handles c k x q l =
      s.setStream k x { q with handler := .answering req (openResult x.kind req l) } :=
    fun ⟨t, ht⟩ => hwhole t ht.symm
  cases hp : x.phase with
  | opening =>
    rw [hp] at hphase
    exact hphase.elim
  | writing left =>
    rw [hp] at hphase
    by_cases hnil : left.flatten = []
    · exact .inr (hwhole [] (by rw [List.append_nil, ← hphase.1, hnil, List.append_nil]))
    · left
      have hshort := readChannelCommand_short hc hc.openChannelReq
        (show c.reqBody.commandId = QuicTunnelCommandId.openChannelReq.asU8 from rfl) x.kind.label henc
        hfit (show [q.sent].flatten ++ left.flatten = pieces.flatten by simpa using hphase.1) hnil
      simp only [Connection.handles, hshort]
      rw [if_pos ⟨trivial, hphase.2⟩]
  | waiting | opened | ended error =>
    rw [hp] at hphase
    exact .inr (hbegun hphase)

theorem Whole.handles (h : Whole c s) (hc : c.Sound len) (hx : Fine c x) (hq : x.stream = some q)
    (k : Nat) (l : Listening) : Whole c (s.handles c k x q l) := by
  rcases handles_cases hc hx hq s k l with heq | ⟨req, heq⟩
  · rw [heq]
    exact h
  · rw [heq]
    exact h.setHandler hx hq k _ _ _

theorem Whole.answers (h : Whole c s) (hx : Fine c x) (hq : x.stream = some q) (k : Nat)
    (req : TunnelOpenChannelReq) (result : TunnelCommandResult) (stopped live : Bool) :
    Whole c (s.answers c k x q req result stopped live) := by
  unfold Connection.answers
  split
  · exact h.setHandler hx hq k _ _ _
  · split
    · split_ifs
      · exact h.setHandler hx hq k _ _ _
      · exact h.setHandler hx hq k _ _ _
      · exact h.setHandler hx hq k _ _ _
    · have hsend : Whole c (s.sendCommand c (!x.side) c.respBody ⟨req.requestId, result⟩) :=
        h.sendCommand (!x.side) fun pieces henc => .resp henc
      split_ifs
      · exact hsend.setHandler hx hq k _ _ _
      · exact hsend.setHandler hx hq k _ _ _

theorem Whole.answered (h : Whole c s) (a : Side) (resp : TunnelOpenChannelResp) :
    Whole c (s.answered a resp) := by
  unfold Connection.answered
  split
  · exact (h.removePending a resp.requestId).modifyAnswer _ _
  · exact h

/-- A frame of the command stream is read. -/
theorem Whole.receives (h : Whole c s) (hc : c.Sound len) (a : Side) {f : List U8}
    (hf : Command c f) : Whole c (s.receives c a f) := by
  cases hf with
  | @ping cmd pieces henc =>
    obtain ⟨bytes, read, hheader, hread, hbytes⟩ := readTunnelCommandHeader_frame hc hc.ping henc
      (show [pieces.flatten].flatten = pieces.flatten ++ [] by simp)
    obtain ⟨command, rest, hbody, -⟩ :=
      readTunnelCommandBody_frame (b := c.pingBody) hc.ping hbytes (hc.pingLen _ _ hbytes) hread
    simp only [Connection.receives, hheader]
    rw [show c.pingBody.commandId = QuicTunnelCommandId.ping.asU8 from rfl, QuicTunnelCommandId.fromU8_asU8]
    dsimp only
    rw [show QuicTunnelCommandId.ping.asU8 = c.pingBody.commandId from rfl, hbody]
    exact h.sendCommand a fun pieces henc => .pong henc
  | @pong cmd pieces henc =>
    obtain ⟨bytes, read, hheader, hread, hbytes⟩ := readTunnelCommandHeader_frame hc hc.pong henc
      (show [pieces.flatten].flatten = pieces.flatten ++ [] by simp)
    obtain ⟨command, rest, hbody, -⟩ :=
      readTunnelCommandBody_frame (b := c.pongBody) hc.pong hbytes (hc.pongLen _ _ hbytes) hread
    simp only [Connection.receives, hheader]
    rw [show c.pongBody.commandId = QuicTunnelCommandId.pong.asU8 from rfl, QuicTunnelCommandId.fromU8_asU8]
    dsimp only
    rw [show QuicTunnelCommandId.pong.asU8 = c.pongBody.commandId from rfl, hbody]
    exact h
  | @resp cmd pieces henc =>
    obtain ⟨bytes, read, hheader, hread, hbytes⟩ := readTunnelCommandHeader_frame hc
      hc.openChannelResp henc (show [pieces.flatten].flatten = pieces.flatten ++ [] by simp)
    obtain ⟨command, rest, hbody, -⟩ := readTunnelCommandBody_frame (b := c.respBody)
      hc.openChannelResp hbytes (hc.openChannelRespLen _ _ hbytes) hread
    simp only [Connection.receives, hheader]
    rw [show c.respBody.commandId = QuicTunnelCommandId.openChannelResp.asU8 from rfl,
      QuicTunnelCommandId.fromU8_asU8]
    dsimp only
    rw [show QuicTunnelCommandId.openChannelResp.asU8 = c.respBody.commandId from rfl, hbody]
    exact h.answered a _

theorem flatten_dropWhile {left rest : List (List U8)} {piece : List U8}
    (h : left.dropWhile List.isEmpty = piece :: rest) : left.flatten = piece ++ rest.flatten := by
  rw [← Tunnel.CommandWriter.Writer.flatten_dropWhile, h, List.flatten_cons]

theorem Whole.run (h : Whole c s) (hc : c.Sound len) (hx : s.calls[k]? = some x) {ev : Event}
    (hev : ev.call? = some k) (hsparing : s.Sparing c ev) : Whole c (s.run c k x ev) := by
  have hfine := h.fine hx
  cases ev with
  | opened k' =>
    cases hev
    simp only [Connection.run]
    split_ifs with hp
    · exact h.opensStream hc (hsparing x hx hp) k
    · exact h
  | poll k' n =>
    simp only [Connection.run]
    split
    · rename_i left q hp hq
      split
      · exact h
      · rename_i piece rest hleft
        split_ifs
        · exact h
        · refine h.setCall (fun q' hq' => ?_) k
          cases hq'
          obtain ⟨f, hf, hphase⟩ := hfine q hq
          rw [hp] at hphase
          refine ⟨f, hf, ?_, hphase.2⟩
          rw [← hphase.1, flatten_dropWhile hleft, List.flatten_cons, List.append_assoc,
            ← List.append_assoc (piece.take n), List.take_append_drop]
    · exact h
  | flushed k' =>
    simp only [Connection.run]
    split
    · rename_i left hp
      split_ifs with hnil
      · refine h.setCall (fun q hq => ?_) k
        obtain ⟨f, hf, hphase⟩ := hfine q hq
        rw [hp] at hphase
        refine ⟨f, hf, ?_⟩
        show f <+: q.sent
        rw [← hphase.1, hnil, List.append_nil]
      · exact h
    · exact h
  | cancel k' =>
    cases hev
    simp only [Connection.run]
    split
    · exact h.setCall (hfine.leaves (hsparing x hx) none) k
    · exact h.setCall (hfine.leaves (hsparing x hx) none) k
    · exact h.setCall (hfine.leaves (hsparing x hx) none) k
    · exact h
  | accept k' =>
    simp only [Connection.run]
    split
    · rename_i q hq
      split_ifs
      · exact h.setHandler hfine hq k _ _ _
      · exact h
    · exact h
  | request k' l =>
    simp only [Connection.run]
    split
    · rename_i q hq
      split_ifs
      · exact h.handles hc hfine hq k l
      · exact h
    · exact h
  | respond k' stopped live =>
    simp only [Connection.run]
    split
    · rename_i q hq
      split
      · exact h.answers hfine hq k _ _ stopped live
      · exact h
    · exact h
  | response k' live =>
    simp only [Connection.run]
    split
    · rename_i q hp hq
      split
      · exact h.readsAnswer hfine hp k q live
      · exact h.waitOpenChannel hfine hp k q live
    · exact h
  | write k' bytes =>
    simp only [Connection.run]
    split
    · rename_i q hp hq
      refine h.setCall (fun q' hq' => ?_) k
      cases hq'
      obtain ⟨f, hf, hphase⟩ := hfine q hq
      rw [hp] at hphase
      refine ⟨f, hf, ?_⟩
      dsimp only
      rw [hp]
      exact hphase.trans (List.prefix_append _ _)
    · exact h
  | release k' =>
    simp only [Connection.run]
    split_ifs with hp
    · exact h.setCall (hfine.leaves (by simp [amid, hp]) none) k
    · exact h
  | releasePeer k' =>
    simp only [Connection.run]
    split
    · rename_i q hq
      split_ifs
      · exact h.setHandler hfine hq k _ _ _
      · exact h
    · exact h
  | call side kind purpose => exact h
  | command side => exact h
  | ping side seq => exact h

theorem Whole.step (h : Whole c s) (hc : c.Sound len) {ev : Event} (hsparing : s.Sparing c ev) :
    Whole c (s.step c ev) := by
  have hcall : ∀ k, ev.call? = some k → Whole c (match s.calls[k]? with
      | some x => s.run c k x ev
      | none => s) := by
    intro k hk
    cases hx : s.calls[k]? with
    | none => exact h
    | some x => exact h.run hc hx hk hsparing
  unfold Connection.step
  rw [if_pos h.up]
  cases ev with
  | call side kind purpose =>
    refine ⟨h.up, fun x hx => ?_, h.commands⟩
    rcases List.mem_append.mp hx with hx | hx
    · exact h.calls x hx
    · cases List.mem_singleton.mp hx
      intro q hq
      cases hq
  | command side =>
    dsimp only
    split
    · rename_i frame rest hcommands
      refine Whole.receives ?_ hc side (h.commands side frame (by rw [hcommands]; exact List.mem_cons_self))
      refine h.setTunnel (t := { s.tunnels side with commands := rest }) (h.up side) (fun f hf => ?_) side
      exact h.commands side f (by rw [hcommands]; exact List.mem_cons_of_mem _ hf)
    · exact h
  | ping side seq => exact h.sendCommand side fun pieces henc => .ping henc
  | opened k => exact hcall k rfl
  | poll k n => exact hcall k rfl
  | flushed k => exact hcall k rfl
  | cancel k => exact hcall k rfl
  | accept k => exact hcall k rfl
  | request k l => exact hcall k rfl
  | respond k stopped live => exact hcall k rfl
  | response k live => exact hcall k rfl
  | write k bytes => exact hcall k rfl
  | release k => exact hcall k rfl
  | releasePeer k => exact hcall k rfl

theorem whole_exec (hc : c.Sound len) {evs : List Event} (h : Along (step c) (Sparing c) init evs) :
    Whole c (exec (step c) init evs) :=
  exec_inv (fun _ _ hI hC => hI.step hc hC) whole_init h

/-! ## The other channels -/

/-- The callback at the other end has got the channel and has its halves. -/
def served (x : Call) : Bool :=
  match x.stream with
  | some q => q.handler = .serving
  | none => false

/-- What the call `k` has of its channel, it has still, unless it drops it in this step. -/
structure Keeps (ev : Event) (k : Nat) (x y : Call) : Prop where
  caller : x.phase = .opened → ev ≠ .release k → y.phase = .opened
  peer : served x = true → ev ≠ .releasePeer k → served y = true

theorem Keeps.self (ev : Event) (k : Nat) (x : Call) : Keeps ev k x x :=
  ⟨fun h _ => h, fun h _ => h⟩

theorem Keeps.trans {ev : Event} {y z : Call} (hxy : Keeps ev k x y) (hyz : Keeps ev k y z) :
    Keeps ev k x z :=
  ⟨fun h hev => hyz.caller (hxy.caller h hev) hev, fun h hev => hyz.peer (hxy.peer h hev) hev⟩

def AllKeep (ev : Event) (s s' : Connection) : Prop :=
  ∀ (k : Nat) x, s.calls[k]? = some x → ∃ y, s'.calls[k]? = some y ∧ Keeps ev k x y

theorem AllKeep.same {s' : Connection} (h : s'.calls = s.calls) (ev : Event) : AllKeep ev s s' :=
  fun k x hx => ⟨x, by rw [h]; exact hx, .self ev k x⟩

theorem AllKeep.trans {ev : Event} {s₁ s₂ : Connection} (h₁ : AllKeep ev s s₁)
    (h₂ : AllKeep ev s₁ s₂) : AllKeep ev s s₂ := by
  intro k x hx
  obtain ⟨y, hy, hxy⟩ := h₁ k x hx
  obtain ⟨z, hz, hyz⟩ := h₂ k y hy
  exact ⟨z, hz, hxy.trans hyz⟩

theorem AllKeep.setCall {ev : Event} {s₁ : Connection} (h : AllKeep ev s s₁)
    (hx : s.calls[k]? = some x) {y : Call} (hkeep : Keeps ev k x y) : AllKeep ev s (s₁.setCall k y) := by
  intro k' x' hx'
  obtain ⟨y', hy', hkeep'⟩ := h k' x' hx'
  by_cases hk : k = k'
  · subst hk
    cases hx.symm.trans hx'
    exact ⟨y, List.getElem?_set_self (List.getElem?_eq_some_iff.mp hy').1, hkeep⟩
  · exact ⟨y', (List.getElem?_set_ne hk).trans hy', hkeep'⟩

theorem allKeep_setCall (hx : s.calls[k]? = some x) {ev : Event} {y : Call} (hkeep : Keeps ev k x y) :
    AllKeep ev s (s.setCall k y) :=
  (AllKeep.same rfl ev).setCall hx hkeep

theorem allKeep_modifyAnswer (s : Connection) (k : Nat) (answer : Answer) (ev : Event) :
    AllKeep ev s { s with calls := s.calls.modify k fun y => { y with answer := answer } } := by
  intro k' x hx
  by_cases hk : k' = k
  · subst hk
    exact ⟨_, getElem?_modify_of_eq_some hx, ⟨fun h _ => h, fun h _ => h⟩⟩
  · exact ⟨x, (getElem?_modify_of_ne hk).trans hx, .self ev k' x⟩

theorem sendCommand_calls {T : Type} (s : Connection) (a : Side) (b : TunnelCommandBody T) (body : T) :
    (s.sendCommand c a b body).calls = s.calls := by
  unfold Connection.sendCommand
  split
  · rfl
  · rfl

theorem allKeep_beginOpenChannel (s : Connection) (k : Nat) (x : Call) (ev : Event) :
    AllKeep ev s (s.beginOpenChannel k x) := by
  unfold Connection.beginOpenChannel
  dsimp only
  split
  · exact .same rfl ev
  · split
    · exact .trans (.same rfl ev) (allKeep_modifyAnswer _ _ .dropped ev)
    · exact .same rfl ev

theorem allKeep_answered (s : Connection) (a : Side) (resp : TunnelOpenChannelResp) (ev : Event) :
    AllKeep ev s (s.answered a resp) := by
  unfold Connection.answered
  split
  · exact .trans (.same rfl ev) (allKeep_modifyAnswer (s.removePending a resp.requestId) _ _ ev)
  · exact .same rfl ev

/-- A call that has no channel may become anything. -/
theorem keeps_of_not {ev : Event} {y : Call} (hopened : x.phase ≠ .opened) (hserved : served y = served x) :
    Keeps ev k x y :=
  ⟨fun h => absurd h hopened, fun h _ => by rw [hserved]; exact h⟩

theorem served_leaves (x : Call) (error : Option P2pError) : served (x.leaves error) = served x := by
  unfold served Call.leaves
  cases x.stream <;> rfl

theorem allKeep_leaves (hx : s.calls[k]? = some x) {ev : Event} (hopened : x.phase ≠ .opened)
    (error : Option P2pError) : AllKeep ev s (s.setCall k (x.leaves error)) :=
  allKeep_setCall hx (keeps_of_not hopened (served_leaves x error))

theorem allKeep_setStream (hx : s.calls[k]? = some x) (hq : x.stream = some q) {ev : Event}
    {q' : QuicStream} (hserving : q.handler = .serving → ev ≠ .releasePeer k → q'.handler = .serving) :
    AllKeep ev s (s.setStream k x q') := by
  refine allKeep_setCall hx ⟨fun h _ => h, fun h hev => ?_⟩
  simp only [served, hq, decide_eq_true_eq] at h ⊢
  exact hserving h hev

theorem allKeep_opensStream (hc : c.Sound len) (hx : s.calls[k]? = some x) (hfine : Fine c x)
    (hp : x.phase = .opening)
    (hfits : fits c ⟨(s.tunnels x.side).nextRequestId, x.kind, x.purpose⟩ = true) (ev : Event) :
    AllKeep ev s (s.opensStream c k x) := by
  obtain ⟨bytes, hbytes, -⟩ := (fits_iff c).mp hfits
  obtain ⟨pieces, henc⟩ := tunnelCommand_eq (b := c.reqBody) hc hc.openChannelReq hbytes
  have hnone : x.stream = none := by
    by_contra hsome
    obtain ⟨q, hq⟩ := Option.ne_none_iff_exists'.mp hsome
    obtain ⟨f, -, hphase⟩ := hfine q hq
    rw [hp] at hphase
    exact hphase
  simp only [Connection.opensStream, henc]
  refine (allKeep_beginOpenChannel s k x ev).setCall hx (keeps_of_not (by simp [hp]) ?_)
  simp [served, hnone]

theorem allKeep_readsAnswer (hx : s.calls[k]? = some x) (hp : x.phase = .waiting) (q : QuicStream)
    (live : Bool) (ev : Event) : AllKeep ev s (s.readsAnswer c k x q live) := by
  have hne : x.phase ≠ .opened := by simp [hp]
  unfold Connection.readsAnswer
  split
  · split_ifs
    · exact .same rfl ev
    · exact allKeep_leaves hx hne _
  · split_ifs
    · exact allKeep_leaves hx hne _
    · exact allKeep_leaves hx hne _
    · exact allKeep_setCall hx (keeps_of_not hne rfl)
    · exact allKeep_leaves hx hne _

theorem allKeep_waitOpenChannel (hx : s.calls[k]? = some x) (hp : x.phase = .waiting) (q : QuicStream)
    (live : Bool) (ev : Event) : AllKeep ev s (s.waitOpenChannel k x q live) := by
  have hne : x.phase ≠ .opened := by simp [hp]
  have hremove : AllKeep ev s (s.removePending x.side q.requestId) := .same rfl ev
  unfold Connection.waitOpenChannel
  split
  · exact .same rfl ev
  · exact hremove.setCall hx (keeps_of_not hne (served_leaves x _))
  · exact allKeep_leaves hx hne _
  · refine hremove.setCall hx (keeps_of_not hne ?_)
    split_ifs
    · rfl
    · exact served_leaves x _

theorem allKeep_answers (hx : s.calls[k]? = some x) (hq : x.stream = some q)
    {req : TunnelOpenChannelReq} {result : TunnelCommandResult}
    (hanswering : q.handler = .answering req result) (stopped live : Bool) (ev : Event) :
    AllKeep ev s (s.answers c k x q req result stopped live) := by
  have hset : ∀ (s₁ : Connection) q', s₁.calls = s.calls → AllKeep ev s (s₁.setStream k x q') := by
    intro s₁ q' hcalls
    refine AllKeep.setCall (.same hcalls ev) hx ⟨fun h _ => h, fun h _ => ?_⟩
    simp [served, hq, hanswering] at h
  unfold Connection.answers
  split
  · exact hset s _ rfl
  · split
    · split_ifs
      · exact hset s _ rfl
      · exact hset s _ rfl
      · exact hset s _ rfl
    · split_ifs
      · exact hset _ _ (sendCommand_calls s _ _ _)
      · exact hset _ _ (sendCommand_calls s _ _ _)

theorem allKeep_handles (hx : s.calls[k]? = some x) (hq : x.stream = some q)
    (hreading : q.handler = .reading) (l : Listening) (ev : Event) :
    AllKeep ev s (s.handles c k x q l) := by
  unfold Connection.handles
  split
  · split_ifs
    · exact .same rfl ev
    · exact .same rfl ev
  · exact allKeep_setStream hx hq fun h => by rw [hreading] at h; cases h

theorem allKeep_receives (s : Connection) (a : Side) (frame : List U8) (ev : Event) :
    AllKeep ev s (s.receives c a frame) := by
  unfold Connection.receives
  split
  · exact .same rfl ev
  · split
    · exact .same rfl ev
    · exact .same rfl ev
    · exact .same rfl ev
    · split
      · exact .same rfl ev
      · exact .same (sendCommand_calls s a _ _) ev
    · split
      · exact .same rfl ev
      · exact .same rfl ev
    · exact .same rfl ev
    · split
      · exact .same rfl ev
      · exact allKeep_answered s a _ ev
    · exact .same rfl ev

theorem Whole.run_keeps (h : Whole c s) (hc : c.Sound len) (hx : s.calls[k]? = some x) {ev : Event}
    (hev : ev.call? = some k) (hsparing : s.Sparing c ev) : AllKeep ev s (s.run c k x ev) := by
  cases ev with
  | opened k' =>
    cases hev
    simp only [Connection.run]
    split_ifs with hp
    · exact allKeep_opensStream hc hx (h.fine hx) hp (hsparing x hx hp) _
    · exact .same rfl _
  | poll k' n =>
    simp only [Connection.run]
    split
    · rename_i left q hp hq
      split
      · exact .same rfl _
      · split_ifs
        · exact .same rfl _
        · exact allKeep_setCall hx (keeps_of_not (by simp [hp]) (by simp [served, hq]))
    · exact .same rfl _
  | flushed k' =>
    simp only [Connection.run]
    split
    · rename_i left hp
      split_ifs
      · exact allKeep_setCall hx (keeps_of_not (by simp [hp]) rfl)
      · exact .same rfl _
    · exact .same rfl _
  | cancel k' =>
    simp only [Connection.run]
    split
    · rename_i hp
      exact allKeep_leaves hx (by simp [hp]) none
    · rename_i hp
      exact allKeep_leaves hx (by simp [hp]) none
    · rename_i hp
      exact allKeep_leaves hx (by simp [hp]) none
    · exact .same rfl _
  | accept k' =>
    simp only [Connection.run]
    split
    · rename_i q hq
      split_ifs with hidle
      · exact allKeep_setStream hx hq fun h => by rw [hidle] at h; cases h
      · exact .same rfl _
    · exact .same rfl _
  | request k' l =>
    simp only [Connection.run]
    split
    · rename_i q hq
      split_ifs with hreading
      · exact allKeep_handles hx hq hreading l _
      · exact .same rfl _
    · exact .same rfl _
  | respond k' stopped live =>
    simp only [Connection.run]
    split
    · rename_i q hq
      split
      · rename_i req result hanswering
        exact allKeep_answers hx hq hanswering stopped live _
      · exact .same rfl _
    · exact .same rfl _
  | response k' live =>
    simp only [Connection.run]
    split
    · rename_i q hp hq
      split
      · exact allKeep_readsAnswer hx hp q live _
      · exact allKeep_waitOpenChannel hx hp q live _
    · exact .same rfl _
  | write k' bytes =>
    simp only [Connection.run]
    split
    · rename_i q hp hq
      exact allKeep_setStream hx hq fun h _ => h
    · exact .same rfl _
  | release k' =>
    cases hev
    simp only [Connection.run]
    split_ifs
    · exact allKeep_setCall hx ⟨fun _ hne => absurd rfl hne, fun h _ => by rw [served_leaves]; exact h⟩
    · exact .same rfl _
  | releasePeer k' =>
    cases hev
    simp only [Connection.run]
    split
    · rename_i q hq
      split_ifs
      · exact allKeep_setStream hx hq fun _ hne => absurd rfl hne
      · exact .same rfl _
    · exact .same rfl _
  | call side kind purpose => cases hev
  | command side => cases hev
  | ping side seq => cases hev

theorem Whole.step_keeps (h : Whole c s) (hc : c.Sound len) {ev : Event} (hsparing : s.Sparing c ev) :
    AllKeep ev s (s.step c ev) := by
  have hcall : ∀ k, ev.call? = some k → AllKeep ev s (match s.calls[k]? with
      | some x => s.run c k x ev
      | none => s) := by
    intro k hk
    cases hx : s.calls[k]? with
    | none => exact .same rfl _
    | some x => exact h.run_keeps hc hx hk hsparing
  unfold Connection.step
  rw [if_pos h.up]
  cases ev with
  | call side kind purpose =>
    intro k x hx
    exact ⟨x, getElem?_append_of_eq_some hx, .self _ k x⟩
  | command side =>
    dsimp only
    split
    · rename_i frame rest hcommands
      have htaken : AllKeep (.command side) s
          (s.setTunnel side { s.tunnels side with commands := rest }) := .same rfl _
      exact htaken.trans (allKeep_receives _ side frame _)
    · exact .same rfl _
  | ping side seq => exact .same (sendCommand_calls s side _ _) _
  | opened k => exact hcall k rfl
  | poll k n => exact hcall k rfl
  | flushed k => exact hcall k rfl
  | cancel k => exact hcall k rfl
  | accept k => exact hcall k rfl
  | request k l => exact hcall k rfl
  | respond k stopped live => exact hcall k rfl
  | response k live => exact hcall k rfl
  | write k bytes => exact hcall k rfl
  | release k => exact hcall k rfl
  | releasePeer k => exact hcall k rfl

/-- The caller has its channel, or the other end has. -/
def CallerHas (s : Connection) (k : Nat) : Prop := ∃ x ∈ s.calls[k]?, x.phase = .opened

def PeerHas (s : Connection) (k : Nat) : Prop := ∃ x ∈ s.calls[k]?, served x = true

instance (s : Connection) (k : Nat) : Decidable (s.CallerHas k) := by
  unfold CallerHas
  infer_instance

instance (s : Connection) (k : Nat) : Decidable (s.PeerHas k) := by
  unfold PeerHas
  infer_instance

theorem Whole.keeps_caller (h : Whole c s) (hc : c.Sound len) {evs : List Event}
    (hsparing : Along (Connection.step c) (Sparing c) s evs) (hhas : s.CallerHas k) (hno : .release k ∉ evs) :
    (exec (Connection.step c) s evs).CallerHas k := by
  induction evs generalizing s with
  | nil => exact hhas
  | cons ev evs ih =>
    obtain ⟨x, hx, hp⟩ := hhas
    obtain ⟨y, hy, hkeep⟩ := h.step_keeps hc hsparing.1 k x hx
    refine ih (h.step hc hsparing.1) hsparing.2 ⟨y, hy, hkeep.caller hp ?_⟩ ?_
    · exact fun heq => hno (heq ▸ List.mem_cons_self)
    · exact fun hmem => hno (List.mem_cons_of_mem _ hmem)

theorem Whole.keeps_peer (h : Whole c s) (hc : c.Sound len) {evs : List Event}
    (hsparing : Along (Connection.step c) (Sparing c) s evs) (hhas : s.PeerHas k) (hno : .releasePeer k ∉ evs) :
    (exec (Connection.step c) s evs).PeerHas k := by
  induction evs generalizing s with
  | nil => exact hhas
  | cons ev evs ih =>
    obtain ⟨x, hx, hp⟩ := hhas
    obtain ⟨y, hy, hkeep⟩ := h.step_keeps hc hsparing.1 k x hx
    refine ih (h.step hc hsparing.1) hsparing.2 ⟨y, hy, hkeep.peer hp ?_⟩ ?_
    · exact fun heq => hno (heq ▸ List.mem_cons_self)
    · exact fun hmem => hno (List.mem_cons_of_mem _ hmem)

/-- In every run in which each request fits and no call is dropped behind a part of its request:
neither end calls `close_with_error`, and who has a channel has it until he drops it. -/
theorem opens_spared (hc : c.Sound len) (evs evs' : List Event)
    (h : Along (step c) (Sparing c) init (evs ++ evs')) :
    (exec (step c) init (evs ++ evs')).Up ∧
    ∀ k, ((exec (step c) init evs).CallerHas k → .release k ∉ evs' →
        (exec (step c) init (evs ++ evs')).CallerHas k) ∧
      ((exec (step c) init evs).PeerHas k → .releasePeer k ∉ evs' →
        (exec (step c) init (evs ++ evs')).PeerHas k) := by
  obtain ⟨hfirst, hrest⟩ := along_append.mp h
  have hwhole := whole_exec hc hfirst
  refine ⟨(whole_exec hc h).up, fun k => ?_⟩
  rw [exec_append]
  exact ⟨hwhole.keeps_caller hc hrest, hwhole.keeps_peer hc hrest⟩

/-- `Sparing` asks for no more of a call that is dropped than it must: behind a part of the request
the other end closes the tunnel. -/
theorem Whole.cut_closes (h : Whole c s) (hc : c.Sound len) (hx : s.calls[k]? = some x)
    (hamid : amid x = true) (hq : x.stream = some q)
    (hreader : q.handler = .idle ∨ q.handler = .reading) (l : Listening) :
    ((((s.step c (.cancel k)).step c (.accept k)).step c (.request k l)).tunnels (!x.side)).closed =
      some ⟨.invalidData, x.kind.decodeFailed, some unexpectedEof⟩ := by
  obtain ⟨f, ⟨req, pieces, henc, rfl, hfits⟩, hphase⟩ := h.fine hx q hq
  obtain ⟨left, hp⟩ : ∃ left, x.phase = .writing left := by
    unfold amid at hamid
    split at hamid
    · rename_i left hp
      exact ⟨left, hp⟩
    · cases hamid
  rw [hp] at hphase
  have hnil : left.flatten ≠ [] := by simpa [amid, hp] using hamid
  have hfit : ∀ bytes, c.reqBody.codec.toVec req = .ok bytes → bytes.length < 2 ^ 32 := by
    intro bytes hbytes
    obtain ⟨bytes', hbytes', hlt⟩ := (fits_iff c).mp hfits
    cases hbytes'.symm.trans hbytes
    exact hlt
  have hshort := readChannelCommand_short hc hc.openChannelReq
    (show c.reqBody.commandId = QuicTunnelCommandId.openChannelReq.asU8 from rfl) x.kind.label henc
    hfit (show [q.sent].flatten ++ left.flatten = pieces.flatten by simpa using hphase.1) hnil
  have hlt := (List.getElem?_eq_some_iff.mp hx).1
  -- the stream is ended, and its handler reads
  have hcancel : s.step c (.cancel k) = s.setCall k (x.leaves none) := by
    simp only [Connection.step, if_pos h.up, hx, Connection.run, hp]
  have hget : (s.setCall k (x.leaves none)).calls[k]? = some (x.leaves none) := List.getElem?_set_self hlt
  have hstream : (x.leaves none).stream = some { q with ended := true } := by
    simp [Call.leaves, hq]
  obtain ⟨s', hs', hup, hget'⟩ : ∃ s', (s.step c (.cancel k)).step c (.accept k) = s' ∧ s'.Up ∧
      s'.calls[k]? = some { x.leaves none with
        stream := some { q with ended := true, handler := .reading } } := by
    have hup : (s.setCall k (x.leaves none)).Up := h.up
    rw [hcancel]
    refine ⟨_, rfl, ?_⟩
    simp only [Connection.step, if_pos hup, hget, Connection.run, hstream]
    rcases hreader with hidle | hreading
    · rw [if_pos hidle]
      exact ⟨hup, List.getElem?_set_self (by simpa [Connection.setCall] using hlt)⟩
    · rw [if_neg (by rw [hreading]; decide)]
      refine ⟨hup, ?_⟩
      rw [hget, ← hreading]
      simp [Call.leaves, hq]
  rw [hs']
  simp only [Connection.step, if_pos hup, hget', Connection.run]
  rw [if_pos trivial]
  simp [Connection.handles, Call.leaves, hshort, Connection.closeWithError, Connection.setTunnel]

/-! ### Sample runs -/

/-- A codec that knows the values of a list. -/
def among {α : Type} [DecidableEq α] (known : List (α × List U8)) : RawConvert α where
  rawMeasure v :=
    match known.find? fun x => x.1 = v with
    | some x => .ok x.2.length
    | none => .error ⟨.invalidInput, ""⟩
  toVec v :=
    match known.find? fun x => x.1 = v with
    | some x => .ok x.2
    | none => .error ⟨.invalidInput, ""⟩
  cloneFromSlice bytes :=
    match known.find? fun x => x.2 = bytes with
    | some x => .ok x.1
    | none => .error ⟨.invalidInput, ""⟩

theorem among_roundTrips {α : Type} [DecidableEq α] {known : List (α × List U8)}
    (h : ∀ x ∈ known, ∀ y ∈ known, x.2 = y.2 → x = y) : (among known).RoundTrips := by
  intro v bytes hbytes
  simp only [among] at hbytes ⊢
  cases hv : known.find? fun x => x.1 = v with
  | none =>
    rw [hv] at hbytes
    cases hbytes
  | some x =>
    rw [hv] at hbytes
    cases hbytes
    refine ⟨rfl, ?_⟩
    have hx : x.1 = v := of_decide_eq_true (List.find?_some (p := fun x : α × List U8 => decide (x.1 = v)) hv)
    cases hb : known.find? fun y => y.2 = x.2 with
    | none =>
      have hnone := List.find?_eq_none.mp hb x (List.mem_of_find?_eq_some hv)
      simp at hnone
    | some y =>
      have hy : y.2 = x.2 := of_decide_eq_true (List.find?_some (p := fun y : α × List U8 => decide (y.2 = x.2)) hb)
      rw [← hx, h y (List.mem_of_find?_eq_some hb) x (List.mem_of_find?_eq_some hv) hy]

/-- The bodies of two requests for a purpose, of their answers, and of a ping. -/
def sampleCodecs : Codecs where
  header := sampleHeader
  ping := among [(⟨1, 0⟩, [0, 0, 0, 0, 0, 0, 0, 1, 0, 0, 0, 0, 0, 0, 0, 0])]
  pong := among [(⟨1, 0⟩, [0, 0, 0, 0, 0, 0, 0, 1, 0, 0, 0, 0, 0, 0, 0, 0])]
  openChannelReq := among [(⟨1, .stream, [7]⟩, [0, 0, 0, 0, 0, 0, 0, 1, 1, 1, 7]),
    (⟨2, .stream, [7]⟩, [0, 0, 0, 0, 0, 0, 0, 2, 1, 1, 7]),
    (⟨2, .datagram, [7]⟩, [0, 0, 0, 0, 0, 0, 0, 2, 2, 1, 7])]
  openChannelResp := among [(⟨1, .success⟩, [0, 0, 0, 0, 0, 0, 0, 1, 0]),
    (⟨2, .success⟩, [0, 0, 0, 0, 0, 0, 0, 2, 0])]

theorem among_length {α : Type} [DecidableEq α] {known : List (α × List U8)} {n : Nat}
    (h : ∀ x ∈ known, x.2.length < n) (v : α) (bytes : List U8)
    (hbytes : (among known).toVec v = .ok bytes) : bytes.length < n := by
  simp only [among] at hbytes
  cases hv : known.find? fun x => x.1 = v with
  | none =>
    rw [hv] at hbytes
    cases hbytes
  | some x =>
    rw [hv] at hbytes
    cases hbytes
    exact h x (List.mem_of_find?_eq_some hv)

theorem sampleCodecs_sound : sampleCodecs.Sound 6 where
  header := Tcp.Protocol.sampleCodecs_sound.header
  headerLen _ := rfl
  ping := among_roundTrips (by decide)
  pong := among_roundTrips (by decide)
  openChannelReq := among_roundTrips (by decide)
  openChannelResp := among_roundTrips (by decide)
  pingLen := among_length (by decide)
  pongLen := among_length (by decide)
  openChannelRespLen := among_length (by decide)

/-- A stream channel that both ends have. -/
def channelOpen : List Event :=
  [.call false .stream [7], .opened 0, .poll 0 6, .poll 0 11, .flushed 0, .accept 0,
    .request 0 ⟨some true, true, true⟩, .respond 0 false true, .response 0 true]

/-- Another one is opened, its request is accepted in two parts, and then its call is dropped. -/
def sparedOpen : List Event :=
  [.call false .datagram [7], .opened 1, .poll 1 6, .poll 1 4, .poll 1 7, .cancel 1, .accept 1,
    .request 1 ⟨some true, true, true⟩, .respond 1 false true, .command false]

theorem opens_spared_sample :
    (exec (step sampleCodecs) init (channelOpen ++ sparedOpen)).Up ∧
      (exec (step sampleCodecs) init (channelOpen ++ sparedOpen)).CallerHas 0 := by
  obtain ⟨hup, hkeep⟩ := opens_spared sampleCodecs_sound channelOpen sparedOpen (by decide +kernel)
  exact ⟨hup, (hkeep 0).1 (by decide +kernel) (by decide)⟩

/-- The call is dropped behind three bytes of its request, and before the first one. -/
def cutStream : List Event :=
  [.call false .stream [7], .opened 1, .poll 1 3, .cancel 1, .accept 1,
    .request 1 ⟨some true, true, true⟩]

def cutDatagram : List Event :=
  [.call false .datagram [7], .opened 1, .cancel 1, .accept 1, .request 1 ⟨some true, true, true⟩]

/-- Both ends have a channel; a second call is dropped, and the tunnel is closed. -/
theorem opens_cut :
    ((exec (step sampleCodecs) init channelOpen).Up ∧
      (exec (step sampleCodecs) init channelOpen).CallerHas 0 ∧
      (exec (step sampleCodecs) init channelOpen).PeerHas 0) ∧
    ((exec (step sampleCodecs) init (channelOpen ++ cutStream)).tunnels true).closed =
      some ⟨.invalidData, "quic decode stream open req failed", some unexpectedEof⟩ ∧
    ((exec (step sampleCodecs) init (channelOpen ++ cutDatagram)).tunnels true).closed =
      some ⟨.invalidData, "quic decode datagram open req failed", some unexpectedEof⟩ := by
  decide +kernel

end Connection

end BuckyP2p.Quic
