import BuckyP2p.ControlStream.Read
import BuckyP2p.Lib.Lists
import BuckyP2p.Lib.Table

/-!
# BuckyP2p.ControlStream.Runtime — `ControlStreamRuntime`, one lock region at a time

A runtime has calls of `open`, `on_data` and `close_all` that run at the same time, and it has handed
out halves of streams.  A step is one hold of a lock, one access to an atomic, one completed await,
or one use of a half.

* `opens`, `handlers` and `closers` say where the calls stand.  A call of `open` keeps its place when
  it has returned; a call of `on_data` or `close_all` that has returned is no longer in its list.
* `chans` are the inbound channels that were ever made, with their readers.  The maps, the pending
  opens and the calls refer to a channel by its number: who refers to it holds its sender.
* A send that fails makes the call return an error; the `close_all` that it runs before that is a
  call of its own here, so that it may also be overtaken.
* `prepare` and the callback belong to the user of the runtime: what `prepare` returns is an input,
  and what was given to the callback is in `accepted`.
* `out` is what was sent, with who sent it; `lost` and `delivered` say what became of the frames with
  data or an end that `on_data` was given, by their number.  `registered`, `removed`, `drained` and
  `closedAll` mark what has happened.  No function reads these.
* `listen` is one step.
-/

namespace BuckyP2p.ControlStream

open Lib
open Tcp (TunnelPurpose)

/-- Where a stream comes from: the call of `open` with this number, or the `Open` frame with this
number among those that the peer has sent. -/
inductive Origin
  | opened (call : Nat)
  | accepted (frame : Nat)
  deriving DecidableEq, Repr

structure Chan where
  id : StreamId
  origin : Origin
  read : ControlStreamRead
  registered : Bool
  removed : Bool
  deriving DecidableEq, Repr

namespace Chan

/-- The sender of the channel is put into the map. -/
def register (ch : Chan) : Chan := { ch with registered := true }

/-- An item that ends the stream is sent on a channel whose sender is taken out of a map. -/
def terminate (item : InboundItem) (ch : Chan) : Chan :=
  { ch with read := { ch.read with rx := ch.read.rx.sendOrDrop item }, removed := true }

/-- `deliver` with the sender of the channel. -/
def deliver (bytes : List U8) (ch : Chan) : Chan :=
  { ch with
    read := { ch.read with rx := (deliverInto ch.read.rx bytes).1 }
    removed := ch.removed || (deliverInto ch.read.rx bytes).2.isSome }

def remove (ch : Chan) : Chan := { ch with removed := true }

def dropReceiver (ch : Chan) : Chan := { ch with read := { ch.read with rx := ch.read.rx.dropReceiver } }

/-- A poll of the reader.  Whether the channel has a sender makes no difference to the reader. -/
def pollRead (n : Nat) (ch : Chan) : Chan := { ch with read := (ch.read.pollRead true n).1 }

end Chan

inductive WriteState
  | live | finished | dropped
  deriving DecidableEq, Repr

structure WriteHalf where
  id : StreamId
  origin : Origin
  state : WriteState
  deriving DecidableEq, Repr

/-- Who has sent a frame. -/
inductive Source
  | call (call : Nat)
  | handler
  | writer (half : Nat)
  deriving DecidableEq, Repr

structure PendingOpen where
  purpose : TunnelPurpose
  inboundTx : Nat
  waiter : Nat
  deriving DecidableEq, Repr

inductive OpenEnd
  | ok
  | err (err : P2pError)
  | cancelled
  deriving DecidableEq, Repr

/-- Where a call of `open` stands; `leaving`: its `PendingOpenCleanup` is dropped next, and `dropping`:
its receiver. -/
inductive OpenPhase
  | checking
  | allocating
  | probingPending (id : StreamId)
  | probingStreams (id : StreamId)
  | inserting (id : StreamId)
  | sending (id : StreamId) (chan : Nat)
  | waiting (id : StreamId) (chan : Nat)
  | leaving (id : StreamId) (chan : Nat) (result : OpenEnd)
  | dropping (chan : Nat) (result : OpenEnd)
  | returned (chan : Option Nat) (result : OpenEnd)
  deriving DecidableEq, Repr

/-- `waiter` is what was sent to the call, and `waiterRx` says that it still listens; `id` is the id
that it has allocated. -/
structure OpenCall where
  purpose : TunnelPurpose
  id : Option StreamId
  phase : OpenPhase
  waiter : Option (P2pResult Unit)
  waiterRx : Bool
  deriving DecidableEq, Repr

/-- The call has made no channel yet. -/
def OpenCall.early (call : OpenCall) : Bool :=
  match call.phase with
  | .checking | .allocating | .probingPending _ | .probingStreams _ | .inserting _ => true
  | _ => false

/-- Where a call of `on_data` stands, after the size of its payload was checked. -/
inductive Handler
  | checking (frame : Option ControlStreamFrame) (index : Nat)
  | openPending (id : StreamId) (purpose : TunnelPurpose) (index : Nat)
  | openStreams (id : StreamId) (purpose : TunnelPurpose) (index : Nat)
  | openListener (id : StreamId) (purpose : TunnelPurpose) (index : Nat)
  | openInsert (id : StreamId) (index : Nat) (prepare : Bool)
  | openPrepare (id : StreamId) (chan : Nat) (index : Nat) (prepare : Bool)
  | openRemove (id : StreamId) (chan : Nat)
  | answering (id : StreamId) (result : TunnelCommandResult)
  | respTake (id : StreamId) (result : TunnelCommandResult)
  | respSend (id : StreamId) (result : TunnelCommandResult) (pending : PendingOpen)
  | respInsert (id : StreamId) (chan : Nat)
  | delivering (id : StreamId) (bytes : List U8) (index : Nat)
  | sendingReset (id : StreamId) (reason : TunnelCommandResult)
  | finishing (id : StreamId) (index : Nat)
  | resetting (id : StreamId) (reason : P2pError)
  deriving DecidableEq, Repr

/-- Where a call of `close_all` stands. -/
inductive ClosePhase
  | swapping | recording | drainingStreams | drainingPending | clearingListener
  deriving DecidableEq, Repr

/-- The reason in the `Reset` frame for a stream whose delivery has failed. -/
def DeliveryFailure.reason : DeliveryFailure → TunnelCommandResult
  | .overflow => .acceptQueueFull
  | .readerClosed => .interrupted

/-- `purposes.is_listen`, and whether there is a `prepare`. -/
structure Listener where
  isListen : TunnelPurpose → Bool
  prepare : Bool

structure Runtime where
  nextStreamId : U32
  localStreamIdParity : Nat
  closed : Bool
  closeReason : Option (P2pErrorCode × String)
  streams : Table StreamId Nat
  pendingOpens : Table StreamId PendingOpen
  listener : Option Listener
  chans : List Chan
  opens : List OpenCall
  handlers : List Handler
  closers : List (ClosePhase × P2pError)
  accepted : List Nat
  writes : List WriteHalf
  out : List (ControlStreamFrame × Source)
  lost : List Nat
  delivered : List (Nat × Nat)
  drained : Bool
  closedAll : Bool

namespace Runtime

def new (isInitiator : Bool) : Runtime where
  nextStreamId := if isInitiator then 1 else 2
  localStreamIdParity := if isInitiator then 1 else 0
  closed := false
  closeReason := none
  streams := ∅
  pendingOpens := ∅
  listener := none
  chans := []
  opens := []
  handlers := []
  closers := []
  accepted := []
  writes := []
  out := []
  lost := []
  delivered := []
  drained := false
  closedAll := false

/-- The error of `check_open`. -/
def closeError (r : Runtime) : P2pError :=
  match r.closeReason with
  | some (code, msg) => ⟨code, msg⟩
  | none => ⟨.interrupted, "control stream runtime closed"⟩

def isPeerStreamId (r : Runtime) (id : StreamId) : Bool :=
  id ≠ 0 && id.val % 2 ≠ r.localStreamIdParity

/-! ### Channels -/

/-- The region of a call that has taken the sender of `c` out of the map and sends an item on it. -/
def terminate (r : Runtime) (c : Nat) (item : InboundItem) : Runtime :=
  { r with chans := r.chans.modify c (Chan.terminate item) }

/-- The channel has been given to a reader. -/
def handedOut (r : Runtime) (c : Nat) : Bool :=
  r.accepted.contains c || r.opens.any fun call => call.phase = .returned (some c) .ok

/-! ### `open` -/

def setPhase (r : Runtime) (k : Nat) (phase : OpenPhase) : Runtime :=
  { r with opens := r.opens.modify k fun call => { call with phase } }

/-- The await of the call is over, and what it waited on is dropped. -/
def leave (r : Runtime) (k : Nat) (id : StreamId) (chan : Nat) (result : OpenEnd) : Runtime :=
  { r with
    opens := r.opens.modify k fun call =>
      { call with phase := .leaving id chan result, waiterRx := false } }

/-- The next region of the call `k` of `open`. -/
def runOpen (r : Runtime) (k : Nat) : Runtime :=
  match r.opens[k]? with
  | none => r
  | some call =>
    match call.phase with
    | .checking =>
      if r.closed then r.setPhase k (.returned none (.err r.closeError)) else r.setPhase k .allocating
    | .allocating =>
      let id := r.nextStreamId
      if id = 0 then { r with nextStreamId := id + 2 }
      else
        { r with
          nextStreamId := id + 2
          opens := r.opens.modify k fun call =>
            { call with id := some id, phase := .probingPending id } }
    | .probingPending id =>
      r.setPhase k (if (r.pendingOpens.lookup id).isSome then .allocating else .probingStreams id)
    | .probingStreams id =>
      r.setPhase k (if (r.streams.lookup id).isSome then .allocating else .inserting id)
    | .inserting id =>
      let c := r.chans.length
      { r.setPhase k (.sending id c) with
        chans := r.chans ++ [⟨id, .opened k, .new inboundChannel, false, false⟩]
        pendingOpens := r.pendingOpens.insert id ⟨call.purpose, c, k⟩ }
    | .leaving id c result =>
      match result with
      | .ok =>
        { r.setPhase k (.returned (some c) .ok) with
          pendingOpens := r.pendingOpens.erase id
          writes := r.writes ++ [⟨id, .opened k, .live⟩] }
      | result =>
        { r.setPhase k (.dropping c result) with pendingOpens := r.pendingOpens.erase id }
    | .dropping c result =>
      { r.setPhase k (.returned none result) with chans := r.chans.modify c Chan.dropReceiver }
    | .sending .. | .waiting .. | .returned .. => r

/-- The `Open` frame of the call `k` is sent. -/
def openSent (r : Runtime) (k : Nat) : Runtime :=
  match r.opens[k]? with
  | some ⟨purpose, _, .sending id c, _, _⟩ =>
    { r.setPhase k (.waiting id c) with out := r.out ++ [(.openStream id purpose, .call k)] }
  | _ => r

/-- The `Open` frame of the call `k` cannot be sent; `closes` unless the frame was too large. -/
def openSendFails (r : Runtime) (k : Nat) (err : P2pError) (closes : Bool) : Runtime :=
  match r.opens[k]? with
  | some ⟨_, _, .sending id c, _, _⟩ =>
    { r.leave k id c (.err err) with
      closers := if closes then r.closers ++ [(.swapping, err)] else r.closers }
  | _ => r

/-- The call `k` reads what was sent to its waiter. -/
def openResumes (r : Runtime) (k : Nat) : Runtime :=
  match r.opens[k]? with
  | some ⟨_, _, .waiting id c, some (.ok ()), _⟩ => r.leave k id c .ok
  | some ⟨_, _, .waiting id c, some (.error err), _⟩ => r.leave k id c (.err err)
  | _ => r

/-- Somebody may still send to the waiter of the call `k`. -/
def hasWaiter (r : Runtime) (k : Nat) : Bool :=
  r.pendingOpens.entries.any (fun e => e.2.waiter = k) || r.handlers.any fun
    | .respSend _ _ pending => pending.waiter = k
    | _ => false

/-- The waiter of the call `k` was dropped without a result. -/
def openCanceled (r : Runtime) (k : Nat) : Runtime :=
  match r.opens[k]? with
  | some ⟨_, _, .waiting id c, none, _⟩ =>
    if r.hasWaiter k then r
    else r.leave k id c (.err ⟨.interrupted, "control stream open canceled"⟩)
  | _ => r

/-- The time of the call `k` is up; something may be sent to its waiter after the call has looked. -/
def openTimesOut (r : Runtime) (k : Nat) : Runtime :=
  match r.opens[k]? with
  | some ⟨_, _, .waiting id c, _, _⟩ =>
    r.leave k id c (.err ⟨.timeout, "control stream open timeout"⟩)
  | _ => r

/-- The future of the call `k` is dropped at one of its awaits. -/
def openDropped (r : Runtime) (k : Nat) : Runtime :=
  match r.opens[k]? with
  | some ⟨_, _, .sending id c, _, _⟩ | some ⟨_, _, .waiting id c, _, _⟩ => r.leave k id c .cancelled
  | _ => r

/-- `waiter.send(result)`. -/
def sendWaiter (r : Runtime) (k : Nat) (result : P2pResult Unit) : Runtime :=
  { r with
    opens := r.opens.modify k fun call =>
      if call.waiterRx then { call with waiter := some result } else call }

/-- The receiver of the waiter is there. -/
def waits (r : Runtime) (k : Nat) : Bool :=
  match r.opens[k]? with
  | some call => call.waiterRx
  | none => false

/-! ### `on_data` -/

def setHandler (r : Runtime) (i : Nat) (h : Handler) : Runtime :=
  { r with handlers := r.handlers.set i h }

/-- The call returns. -/
def endHandler (r : Runtime) (i : Nat) : Runtime := { r with handlers := r.handlers.eraseIdx i }

/-- `handle_frame`, up to the first region. -/
def dispatch (r : Runtime) (i : Nat) (index : Nat) : ControlStreamFrame → Runtime
  | .openStream id purpose =>
    if r.isPeerStreamId id then r.setHandler i (.openPending id purpose index)
    else r.setHandler i (.answering id .invalidParam)
  | .openResp id result => r.setHandler i (.respTake id result)
  | .data id bytes => r.setHandler i (.delivering id bytes index)
  | .fin id => r.setHandler i (.finishing id index)
  | .reset id reason => r.setHandler i (.resetting id (reason.intoP2pError "control stream reset"))
  | .window .. => r.endHandler i

/-- The region of `deliver`. -/
def deliver (r : Runtime) (i : Nat) (id : StreamId) (bytes : List U8) (index : Nat) : Runtime :=
  match r.streams.lookup id with
  | none => { r.endHandler i with lost := r.lost ++ [index] }
  | some c =>
    match (r.chans[c]?).bind fun ch => (deliverInto ch.read.rx bytes).2 with
    | none =>
      { r.endHandler i with
        chans := r.chans.modify c (Chan.deliver bytes)
        delivered := r.delivered ++ [(index, c)] }
    | some failure =>
      { r.setHandler i (.sendingReset id failure.reason) with
        streams := r.streams.erase id
        chans := r.chans.modify c (Chan.deliver bytes) }

/-- The region of `handle_open_resp` that sends to the waiter. -/
def respond (r : Runtime) (i : Nat) (id : StreamId) (result : TunnelCommandResult)
    (pending : PendingOpen) : Runtime :=
  if result = .success then
    if r.waits pending.waiter then
      (r.sendWaiter pending.waiter (.ok ())).setHandler i (.respInsert id pending.inboundTx)
    else r.endHandler i
  else
    (r.sendWaiter pending.waiter
      (.error (result.intoP2pError
        ("control stream open rejected purpose " ++ purposeText pending.purpose)))).endHandler i

/-- The next region of the call `i` of `on_data`; `prepared` is the error that `prepare` returns. -/
def runHandler (r : Runtime) (i : Nat) (prepared : Option P2pError) : Runtime :=
  match r.handlers[i]? with
  | none => r
  | some h =>
    match h with
    | .checking frame index =>
      if r.closed then r.endHandler i
      else
        match frame with
        | none => r.endHandler i
        | some frame => r.dispatch i index frame
    | .openPending id purpose index =>
      r.setHandler i (if (r.pendingOpens.lookup id).isSome then .answering id .conflictLost
        else .openStreams id purpose index)
    | .openStreams id purpose index =>
      r.setHandler i (if (r.streams.lookup id).isSome then .answering id .conflictLost
        else .openListener id purpose index)
    | .openListener id purpose index =>
      r.setHandler i (match r.listener with
        | none => .answering id .listenerClosed
        | some l =>
          if l.isListen purpose then .openInsert id index l.prepare
          else .answering id .portNotListen)
    | .openInsert id index prepare =>
      if (r.streams.lookup id).isSome then r.setHandler i (.answering id .conflictLost)
      else
        let c := r.chans.length
        { r.setHandler i (.openPrepare id c index prepare) with
          chans := r.chans ++ [⟨id, .accepted index, .new inboundChannel, true, false⟩]
          streams := r.streams.insert id c }
    | .openPrepare id c index prepare =>
      if prepare && prepared.isSome then
        { r.setHandler i (.openRemove id c) with chans := r.chans.modify c Chan.dropReceiver }
      else
        { r.setHandler i (.answering id .success) with
          accepted := r.accepted ++ [c]
          writes := r.writes ++ [⟨id, .accepted index, .live⟩] }
    | .openRemove id _ =>
      { r.setHandler i (.answering id .retired) with
        streams := r.streams.erase id
        chans := match r.streams.lookup id with
          | some c => r.chans.modify c Chan.remove
          | none => r.chans }
    | .respTake id result =>
      match r.pendingOpens.lookup id with
      | none => r.endHandler i
      | some pending =>
        { r.setHandler i (.respSend id result pending) with
          pendingOpens := r.pendingOpens.erase id }
    | .respSend id result pending => r.respond i id result pending
    | .respInsert id c =>
      { r.endHandler i with streams := r.streams.insert id c, chans := r.chans.modify c Chan.register }
    | .delivering id bytes index => r.deliver i id bytes index
    | .finishing id index =>
      match r.streams.lookup id with
      | none => { r.endHandler i with lost := r.lost ++ [index] }
      | some c =>
        { (r.endHandler i).terminate c .fin with
          streams := r.streams.erase id
          delivered := r.delivered ++ [(index, c)] }
    | .resetting id reason =>
      match r.streams.lookup id with
      | none => r.endHandler i
      | some c =>
        { (r.endHandler i).terminate c (.reset reason.code reason.msg) with
          streams := r.streams.erase id }
    | .answering .. | .sendingReset .. => r

/-- The frame that the call `i` of `on_data` waits to send. -/
def answer : Handler → Option ControlStreamFrame
  | .answering id result => some (.openResp id result)
  | .sendingReset id reason => some (.reset id reason)
  | _ => none

def handlerSent (r : Runtime) (i : Nat) : Runtime :=
  match (r.handlers[i]?).bind answer with
  | some frame => { r.endHandler i with out := r.out ++ [(frame, .handler)] }
  | none => r

def handlerSendFails (r : Runtime) (i : Nat) (err : P2pError) : Runtime :=
  match (r.handlers[i]?).bind answer with
  | some _ => { r.endHandler i with closers := r.closers ++ [(.swapping, err)] }
  | none => r

/-- `on_data` with a payload that is too large closes the runtime. -/
def onOversized (r : Runtime) : Runtime :=
  { r with closers := r.closers ++
      [(.swapping, ⟨.invalidData, "control data payload exceeds 64KiB"⟩)] }

/-! ### `close_all` -/

def setCloser (r : Runtime) (i : Nat) (c : ClosePhase × P2pError) : Runtime :=
  { r with closers := r.closers.set i c }

def drainStreams (r : Runtime) (reason : P2pError) : Runtime :=
  { r with
    chans := r.streams.entries.foldl
      (fun chans e => chans.modify e.2 (Chan.terminate (.reset reason.code reason.msg))) r.chans
    streams := ∅
    drained := true }

def drainPending (r : Runtime) (reason : P2pError) : Runtime :=
  let r' := r.pendingOpens.entries.foldl (fun r e =>
    (r.sendWaiter e.2.waiter (.error reason)).terminate e.2.inboundTx
      (.reset reason.code reason.msg)) r
  { r' with pendingOpens := ∅ }

/-- The next region of the call `i` of `close_all`. -/
def runCloser (r : Runtime) (i : Nat) : Runtime :=
  match r.closers[i]? with
  | none => r
  | some (phase, reason) =>
    match phase with
    | .swapping =>
      if r.closed then { r with closers := r.closers.eraseIdx i }
      else { r.setCloser i (.recording, reason) with closed := true }
    | .recording =>
      { r.setCloser i (.drainingStreams, reason) with closeReason := some (reason.code, reason.msg) }
    | .drainingStreams => (r.drainStreams reason).setCloser i (.drainingPending, reason)
    | .drainingPending => (r.drainPending reason).setCloser i (.clearingListener, reason)
    | .clearingListener =>
      { r with listener := none, closedAll := true, closers := r.closers.eraseIdx i }

/-! ### The halves of a stream -/

/-- A `Data` frame of the write half `w` is sent. -/
def writeData (r : Runtime) (w : Nat) (bytes : List U8) : Runtime :=
  match r.writes[w]? with
  | some ⟨id, _, .live⟩ =>
    if r.closed || bytes.isEmpty then r
    else { r with out := r.out ++ [(.data id bytes, .writer w)] }
  | _ => r

/-- The `Fin` frame of the write half `w` is sent. -/
def shutdown (r : Runtime) (w : Nat) : Runtime :=
  match r.writes[w]? with
  | some ⟨id, origin, .live⟩ =>
    if r.closed then r
    else
      { r with
        out := r.out ++ [(.fin id, .writer w)]
        writes := r.writes.set w ⟨id, origin, .finished⟩ }
  | _ => r

def dropWrite (r : Runtime) (w : Nat) : Runtime :=
  { r with writes := r.writes.modify w fun half => { half with state := .dropped } }

def pollRead (r : Runtime) (c n : Nat) : Runtime :=
  if r.handedOut c then { r with chans := r.chans.modify c (Chan.pollRead n) } else r

def dropRead (r : Runtime) (c : Nat) : Runtime :=
  if r.handedOut c then { r with chans := r.chans.modify c Chan.dropReceiver } else r

end Runtime

/-! ### Steps -/

inductive RuntimeEvent
  | listen (listener : Listener)
  | openStream (purpose : TunnelPurpose)
  | runOpen (k : Nat)
  | openSent (k : Nat)
  | openSendFails (k : Nat) (err : P2pError) (closes : Bool)
  | openResumes (k : Nat)
  | openCanceled (k : Nat)
  | openTimesOut (k : Nat)
  | openDropped (k : Nat)
  | onData (frame : Option ControlStreamFrame) (index : Nat)
  | onOversized
  | runHandler (i : Nat) (prepared : Option P2pError)
  | handlerSent (i : Nat)
  | handlerSendFails (i : Nat) (err : P2pError)
  | closeAll (reason : P2pError)
  | runCloser (i : Nat)
  | writeData (w : Nat) (bytes : List U8)
  | shutdown (w : Nat)
  | dropWrite (w : Nat)
  | pollRead (c n : Nat)
  | dropRead (c : Nat)

namespace Runtime

def step (r : Runtime) : RuntimeEvent → Runtime
  | .listen listener => if r.closed then r else { r with listener := some listener }
  | .openStream purpose => { r with opens := r.opens ++ [⟨purpose, none, .checking, none, true⟩] }
  | .runOpen k => r.runOpen k
  | .openSent k => r.openSent k
  | .openSendFails k err closes => r.openSendFails k err closes
  | .openResumes k => r.openResumes k
  | .openCanceled k => r.openCanceled k
  | .openTimesOut k => r.openTimesOut k
  | .openDropped k => r.openDropped k
  | .onData frame index => { r with handlers := r.handlers ++ [.checking frame index] }
  | .onOversized => r.onOversized
  | .runHandler i prepared => r.runHandler i prepared
  | .handlerSent i => r.handlerSent i
  | .handlerSendFails i err => r.handlerSendFails i err
  | .closeAll reason => { r with closers := r.closers ++ [(.swapping, reason)] }
  | .runCloser i => r.runCloser i
  | .writeData w bytes => r.writeData w bytes
  | .shutdown w => r.shutdown w
  | .dropWrite w => r.dropWrite w
  | .pollRead c n => r.pollRead c n
  | .dropRead c => r.dropRead c

end Runtime

end BuckyP2p.ControlStream
