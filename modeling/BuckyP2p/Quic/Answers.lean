import BuckyP2p.Quic.Opens

/-!
# BuckyP2p.Quic.Answers — opens and closes of two `QuicTunnel`s (`quic/tunnel.rs`, `tunnel.rs`)

The calls of `open_datagram` and `open_stream` on both ends, the handlers of their requests, the loop
that reads the command stream, listeners that come and go, `try_retire_idle` and `close_with_error`,
each in the steps that other tasks can come between.  Tunnels that are closed go on as they do in the
code.

A request is on its stream, and an answer is on its way, as one message: the frames of a command
stream are whole.  A write fails behind the end of the connection, and may fail before.  No request
times out and no call is dropped.  Request ids are not used up.

`sends` and `handed` are books that the code does not keep: how often the sender of a call was used,
and how often a handler has given its callback a channel.
-/

namespace BuckyP2p.Quic.Answers

open Lib
open ControlStream (TunnelCommandResult)
open Tcp (TunnelPurpose)

abbrev Result : Type := Except P2pErrorCode Unit

structure TunnelOpenChannelReq where
  requestId : Nat
  kind : TunnelChannelKind
  purpose : TunnelPurpose
  deriving DecidableEq

structure TunnelOpenChannelResp where
  requestId : Nat
  result : TunnelCommandResult
  deriving DecidableEq

/-- A stream has two halves, each with its `TunnelWorkActivity`. -/
def halvesOf : TunnelChannelKind → Nat
  | .stream => 2
  | .datagram => 1

/-- What the result of a request says to the call. -/
def resultOf : TunnelCommandResult → Result
  | .success => .ok ()
  | result => .error (result.intoP2pError "quic open channel rejected request").code

inductive Phase
  /-- Awaits `open_bi` or `open_uni`. -/
  | opening
  /-- `next_request_id`. -/
  | numbering
  /-- `begin_open_channel` inserts its sender. -/
  | inserting
  | writing
  | waiting
  /-- The answer is a success, and the entry of the call is removed. -/
  | completing
  | promoting
  | returned (result : Result)
  deriving DecidableEq

/-- `handle_incoming_stream_open` or `handle_incoming_datagram_open` at the other end. -/
inductive HandlerPhase
  | idle
  | reading
  /-- `incoming_open_result`. -/
  | deciding
  /-- `is_closed`. -/
  | checking
  /-- `current_stream_callback`. -/
  | taking
  /-- `begin_pending`. -/
  | beginning
  /-- The answer is made; with `Success` the handler has its `PendingTunnelActivity`. -/
  | answering (result : TunnelCommandResult)
  | responding (result : TunnelCommandResult)
  | promoting
  | ended
  deriving DecidableEq

structure Handler where
  phase : HandlerPhase
  req : Option TunnelOpenChannelReq
  /-- The answer that it has written. -/
  answered : Option TunnelCommandResult
  handed : Nat
  halves : Nat
  deriving DecidableEq

/-- The oneshot channel of `open_datagram`. -/
inductive Answer
  | none
  | sent (result : Result)
  /-- Its sender was dropped. -/
  | dropped
  deriving DecidableEq

/-- A call, with the QUIC stream that it opens and the handler of that stream. -/
structure Call where
  side : Side
  kind : TunnelChannelKind
  purpose : TunnelPurpose
  phase : Phase
  requestId : Option Nat
  /-- The request is on the stream. -/
  sent : Bool
  answer : Answer
  sends : Nat
  /-- The answer on a stream channel. -/
  back : Option TunnelOpenChannelResp
  halves : Nat
  handler : Handler
  deriving DecidableEq

/-- Where `close_with_error` is, which the first one does for all. -/
inductive Closing
  | live
  | callbacks
  | socket
  | drain
  | sending (left : List (Nat × Nat))
  | done
  deriving DecidableEq

structure Listener where
  /-- The purposes behind `ListenVPortsRef`. -/
  vports : Option (List TunnelPurpose)
  callback : Bool
  acceptStarted : Bool

structure QuicTunnel where
  /-- `TunnelActivityLifecycle`. -/
  retired : Bool
  pendingOpenCount : Nat
  workInstanceNum : Nat
  closing : Closing
  closeCode : P2pErrorCode
  /-- `socket.close_reason()`. -/
  lost : Bool
  listeners : TunnelChannelKind → Listener
  nextRequestId : Nat
  pendingOpenRequests : Table Nat Nat

inductive Event
  | call (side : Side) (kind : TunnelChannelKind) (purpose : TunnelPurpose)
  | streamOpened (k : Nat) (ok : Bool)
  | number (k : Nat)
  | insert (k : Nat)
  /-- The stream has all of the request. -/
  | send (k : Nat)
  | wrote (k : Nat) (ok : Bool)
  | answered (k : Nat)
  | readFailed (k : Nat)
  | complete (k : Nat)
  | promote (k : Nat)
  | dropHalf (k : Nat)
  | accept (k : Nat)
  | read (k : Nat)
  | readRequestFailed (k : Nat)
  | decide (k : Nat)
  | check (k : Nat)
  | take (k : Nat)
  | begin (k : Nat)
  | respond (k : Nat)
  | responded (k : Nat) (ok : Bool)
  | promotePeer (k : Nat)
  | dropPeerHalf (k : Nat)
  /-- `command_recv_loop` reads an answer. -/
  | recv (side : Side)
  | listen (side : Side) (kind : TunnelChannelKind) (purposes : List TunnelPurpose)
  | listenCallback (side : Side) (kind : TunnelChannelKind)
  /-- Purposes come to a listener, or leave it. -/
  | purposes (side : Side) (kind : TunnelChannelKind) (purposes : List TunnelPurpose)
  | tryRetireIdle (side : Side) (elapsed : Bool)
  /-- `close_with_error`: `activity.retire()`, then `closed.swap`, and what follows. -/
  | retire (side : Side)
  | swap (side : Side) (code : P2pErrorCode)
  | clearCallbacks (side : Side)
  | closeSocket (side : Side)
  | drain (side : Side)
  | sendError (side : Side)
  /-- The end of the connection gets to this end. -/
  | lose (side : Side)
  deriving DecidableEq

structure Connection where
  tunnels : Side → QuicTunnel
  /-- The answers on the command stream to this end. -/
  commands : Side → List TunnelOpenChannelResp
  calls : List Call

namespace QuicTunnel

def init : QuicTunnel := ⟨false, 0, 0, .live, .ok, false, fun _ => ⟨none, false, false⟩, 1, ∅⟩

def isClosed (t : QuicTunnel) : Bool := t.closing ≠ .live || t.lost

/-- `begin_pending` where the tunnel is live. -/
def beginPending (t : QuicTunnel) : QuicTunnel := { t with pendingOpenCount := t.pendingOpenCount + 1 }

/-- A `PendingTunnelActivity` is dropped. -/
def dropPending (t : QuicTunnel) : QuicTunnel := { t with pendingOpenCount := t.pendingOpenCount - 1 }

/-- `promote` where the tunnel is live. -/
def promoted (t : QuicTunnel) (kind : TunnelChannelKind) : QuicTunnel :=
  { t with
    pendingOpenCount := t.pendingOpenCount - 1
    workInstanceNum := t.workInstanceNum + halvesOf kind }

def dropWork (t : QuicTunnel) : QuicTunnel := { t with workInstanceNum := t.workInstanceNum - 1 }

def removePending (t : QuicTunnel) (requestId : Nat) : QuicTunnel :=
  { t with pendingOpenRequests := t.pendingOpenRequests.erase requestId }

def setListener (t : QuicTunnel) (kind : TunnelChannelKind) (l : Listener) : QuicTunnel :=
  { t with listeners := Function.update t.listeners kind l }

def incomingOpenResult (t : QuicTunnel) (kind : TunnelChannelKind) (req : TunnelOpenChannelReq) :
    TunnelCommandResult :=
  if req.kind ≠ kind then .invalidParam
  else
    match (t.listeners kind).vports with
    | none => .listenerClosed
    | some purposes => if req.purpose ∈ purposes then .success else .portNotListen

def tryRetireIdle (t : QuicTunnel) (elapsed : Bool) : QuicTunnel :=
  if t.retired = false ∧ t.pendingOpenCount = 0 ∧ t.workInstanceNum = 0 ∧ elapsed then
    { t with retired := true }
  else t

end QuicTunnel

namespace Connection

def init : Connection := ⟨fun _ => .init, fun _ => [], []⟩

def setTunnel (s : Connection) (a : Side) (t : QuicTunnel) : Connection :=
  { s with tunnels := Function.update s.tunnels a t }

/-- The call `k` becomes `x`, and the tunnel of the end `a` becomes `t`. -/
def put (s : Connection) (k : Nat) (x : Call) (a : Side) (t : QuicTunnel) : Connection :=
  { s with tunnels := Function.update s.tunnels a t, calls := s.calls.set k x }

def move (s : Connection) (k : Nat) (x : Call) (phase : Phase) : Connection :=
  s.put k { x with phase := phase } x.side (s.tunnels x.side)

/-- The call returns an error, and drops its `PendingTunnelActivity`. -/
def fail (s : Connection) (k : Nat) (x : Call) (t : QuicTunnel) (code : P2pErrorCode) : Connection :=
  s.put k { x with phase := .returned (.error code) } x.side t.dropPending

def setHandler (s : Connection) (k : Nat) (x : Call) (h : Handler) (t : QuicTunnel) : Connection :=
  s.put k { x with handler := h } (!x.side) t

def moveHandler (s : Connection) (k : Nat) (x : Call) (phase : HandlerPhase) : Connection :=
  s.setHandler k x { x.handler with phase := phase } (s.tunnels (!x.side))

/-- The handler returns without a channel. -/
def leave (s : Connection) (k : Nat) (x : Call) (result : TunnelCommandResult) : Connection :=
  let u := s.tunnels (!x.side)
  s.setHandler k x { x.handler with phase := .ended } (if result = .success then u.dropPending else u)

/-- The sender of the call `k` is used. -/
def finish (s : Connection) (k : Nat) (result : Result) : Connection :=
  { s with calls := s.calls.modify k fun x => { x with answer := .sent result, sends := x.sends + 1 } }

/-- The answer gets to the opening end. -/
def deliver (s : Connection) (k : Nat) (x : Call) (resp : TunnelOpenChannelResp) : Connection :=
  let h := { x.handler with
    answered := some resp.result
    phase := if resp.result = .success then .promoting else .ended }
  match x.kind with
  | .stream => s.put k { x with handler := h, back := some resp } (!x.side) (s.tunnels (!x.side))
  | .datagram =>
    { s.setHandler k x h (s.tunnels (!x.side)) with
      commands := Function.update s.commands x.side (s.commands x.side ++ [resp]) }

/-- A step of the call `k`, which is `x`. -/
def runCall (s : Connection) (k : Nat) (x : Call) : Event → Connection
  | .streamOpened _ ok =>
    if x.phase = .opening then
      if ok ∧ (s.tunnels x.side).lost = false then s.move k x .numbering
      else s.fail k x (s.tunnels x.side) .connectFailed
    else s
  | .number _ =>
    if x.phase = .numbering then
      let t := s.tunnels x.side
      s.put k { x with
        requestId := some t.nextRequestId
        phase := if x.kind = .stream then .writing else .inserting } x.side
        { t with nextRequestId := t.nextRequestId + 1 }
    else s
  | .insert _ =>
    match x.phase, x.requestId with
    | .inserting, some requestId =>
      let t := s.tunnels x.side
      let r := s.put k { x with phase := .writing } x.side
        { t with pendingOpenRequests := t.pendingOpenRequests.insert requestId k }
      match t.pendingOpenRequests.lookup requestId with
      | some k' => { r with calls := r.calls.modify k' fun y => { y with answer := .dropped } }
      | none => r
    | _, _ => s
  | .send _ =>
    if x.phase = .writing ∧ (s.tunnels x.side).lost = false then
      s.put k { x with sent := true } x.side (s.tunnels x.side)
    else s
  | .wrote _ ok =>
    match x.phase, x.requestId with
    | .writing, some requestId =>
      if ok then if x.sent then s.move k x .waiting else s
      else s.fail k x ((s.tunnels x.side).removePending requestId) .ioError
    | _, _ => s
  | .answered _ =>
    match x.phase, x.requestId with
    | .waiting, some requestId =>
      match x.kind with
      | .datagram =>
        match x.answer with
        | .none => s
        | .dropped => s.fail k x ((s.tunnels x.side).removePending requestId) .interrupted
        | .sent (.error code) => s.fail k x (s.tunnels x.side) code
        | .sent (.ok ()) => s.move k x .completing
      | .stream =>
        match x.back with
        | none => s
        | some resp =>
          if resp.requestId ≠ requestId then s.fail k x (s.tunnels x.side) .invalidData
          else
            match resultOf resp.result with
            | .error code => s.fail k x (s.tunnels x.side) code
            | .ok () => s.move k x .promoting
    | _, _ => s
  | .readFailed _ =>
    if x.phase = .waiting ∧ x.kind = .stream then s.fail k x (s.tunnels x.side) .ioError else s
  | .complete _ =>
    match x.phase, x.requestId with
    | .completing, some requestId =>
      s.put k { x with phase := .promoting } x.side ((s.tunnels x.side).removePending requestId)
    | _, _ => s
  | .promote _ =>
    if x.phase = .promoting then
      let t := s.tunnels x.side
      if t.retired then s.fail k x t .interrupted
      else s.put k { x with phase := .returned (.ok ()), halves := halvesOf x.kind } x.side
        (t.promoted x.kind)
    else s
  | .dropHalf _ =>
    if x.halves = 0 then s
    else s.put k { x with halves := x.halves - 1 } x.side (s.tunnels x.side).dropWork
  | _ => s

/-- A step of the handler of the call `k`, which is `x`. -/
def runHandler (s : Connection) (k : Nat) (x : Call) : Event → Connection
  | .accept _ =>
    if x.handler.phase = .idle ∧ ((s.tunnels (!x.side)).listeners x.kind).acceptStarted then
      s.moveHandler k x .reading
    else s
  | .read _ =>
    match x.handler.phase, x.requestId with
    | .reading, some requestId =>
      if x.sent then
        s.setHandler k x { x.handler with
          req := some ⟨requestId, x.kind, x.purpose⟩
          phase := .deciding } (s.tunnels (!x.side))
      else s
    | _, _ => s
  | .readRequestFailed _ => if x.handler.phase = .reading then s.moveHandler k x .ended else s
  | .decide _ =>
    match x.handler.phase, x.handler.req with
    | .deciding, some req =>
      let result := (s.tunnels (!x.side)).incomingOpenResult x.kind req
      s.moveHandler k x (if result = .success then .checking else .answering result)
    | _, _ => s
  | .check _ =>
    if x.handler.phase = .checking then
      s.moveHandler k x
        (if (s.tunnels (!x.side)).isClosed then .answering .listenerClosed else .taking)
    else s
  | .take _ =>
    if x.handler.phase = .taking then
      s.moveHandler k x (if ((s.tunnels (!x.side)).listeners x.kind).callback then .beginning
        else .answering .listenerClosed)
    else s
  | .begin _ =>
    if x.handler.phase = .beginning then
      let u := s.tunnels (!x.side)
      if u.retired then s.moveHandler k x (.answering .retired)
      else s.setHandler k x { x.handler with phase := .answering .success } u.beginPending
    else s
  | .respond _ =>
    match x.handler.phase with
    | .answering result =>
      -- `send_command` looks at the tunnel first
      if x.kind = .datagram ∧ (s.tunnels (!x.side)).isClosed then s.leave k x result
      else s.moveHandler k x (.responding result)
    | _ => s
  | .responded _ ok =>
    match x.handler.phase, x.handler.req with
    | .responding result, some req =>
      if ok ∧ (s.tunnels (!x.side)).lost = false then s.deliver k x ⟨req.requestId, result⟩
      else s.leave k x result
    | _, _ => s
  | .promotePeer _ =>
    if x.handler.phase = .promoting then
      let u := s.tunnels (!x.side)
      if u.retired then s.leave k x .success
      else s.setHandler k x { x.handler with
        phase := .ended
        handed := x.handler.handed + 1
        halves := halvesOf x.kind } (u.promoted x.kind)
    else s
  | .dropPeerHalf _ =>
    if x.handler.halves = 0 then s
    else s.setHandler k x { x.handler with halves := x.handler.halves - 1 }
      (s.tunnels (!x.side)).dropWork
  | _ => s

/-- `command_recv_loop` of the end `a` gets the answer `resp`. -/
def receive (s : Connection) (a : Side) (resp : TunnelOpenChannelResp)
    (rest : List TunnelOpenChannelResp) : Connection :=
  let t := s.tunnels a
  let r := { s with commands := Function.update s.commands a rest }
  match t.pendingOpenRequests.lookup resp.requestId with
  | some k => (r.setTunnel a (t.removePending resp.requestId)).finish k (resultOf resp.result)
  | none => r

/-- A step of the tunnel of the end `a`, which is `t`. -/
def runTunnel (s : Connection) (a : Side) (t : QuicTunnel) : Event → Connection
  | .recv _ =>
    match s.commands a with
    | resp :: rest => s.receive a resp rest
    | [] => s
  | .listen _ kind purposes =>
    if t.retired ∨ t.isClosed then s
    else s.setTunnel a (t.setListener kind { t.listeners kind with vports := some purposes })
  | .listenCallback _ kind =>
    s.setTunnel a
      (t.setListener kind { t.listeners kind with callback := true, acceptStarted := true })
  | .purposes _ kind purposes =>
    s.setTunnel a (t.setListener kind
      { t.listeners kind with vports := (t.listeners kind).vports.map fun _ => purposes })
  | .tryRetireIdle _ elapsed => s.setTunnel a (t.tryRetireIdle elapsed)
  | .retire _ => s.setTunnel a { t with retired := true }
  | .swap _ code =>
    if t.retired ∧ t.closing = .live then
      s.setTunnel a { t with closing := .callbacks, closeCode := code }
    else s
  | .clearCallbacks _ =>
    if t.closing = .callbacks then
      s.setTunnel a { t with
        closing := .socket
        listeners := fun kind => { t.listeners kind with callback := false } }
    else s
  | .closeSocket _ =>
    if t.closing = .socket then s.setTunnel a { t with closing := .drain, lost := true } else s
  | .drain _ =>
    if t.closing = .drain then
      s.setTunnel a { t with
        closing := .sending (t.pendingOpenRequests.entries.map fun x => (x.1, x.2))
        pendingOpenRequests := ∅ }
    else s
  | .sendError _ =>
    match t.closing with
    | .sending ((_, k) :: left) =>
      (s.setTunnel a { t with closing := .sending left }).finish k (.error t.closeCode)
    | .sending [] => s.setTunnel a { t with closing := .done }
    | _ => s
  | .lose _ => if (s.tunnels (!a)).lost then s.setTunnel a { t with lost := true } else s
  | _ => s

/-- A call begins, unless `begin_pending` fails. -/
def begins (s : Connection) (side : Side) (kind : TunnelChannelKind) (purpose : TunnelPurpose) :
    Connection :=
  let t := s.tunnels side
  let x : Call := ⟨side, kind, purpose, .opening, none, false, .none, 0, none, 0, ⟨.idle, none, none, 0, 0⟩⟩
  if t.retired then { s with calls := s.calls ++ [{ x with phase := .returned (.error .interrupted) }] }
  else { s.setTunnel side t.beginPending with calls := s.calls ++ [x] }

def step (s : Connection) (ev : Event) : Connection :=
  match ev with
  | .call side kind purpose => s.begins side kind purpose
  | .streamOpened k _ | .number k | .insert k | .send k | .wrote k _ | .answered k | .readFailed k
  | .complete k | .promote k | .dropHalf k =>
    match s.calls[k]? with
    | some x => s.runCall k x ev
    | none => s
  | .accept k | .read k | .readRequestFailed k | .decide k | .check k | .take k | .begin k
  | .respond k | .responded k _ | .promotePeer k | .dropPeerHalf k =>
    match s.calls[k]? with
    | some x => s.runHandler k x ev
    | none => s
  | .recv a | .listen a _ _ | .listenCallback a _ | .purposes a _ _ | .tryRetireIdle a _ | .retire a
  | .swap a _ | .clearCallbacks a | .closeSocket a | .drain a | .sendError a | .lose a =>
    s.runTunnel a (s.tunnels a) ev

end Connection

end BuckyP2p.Quic.Answers
