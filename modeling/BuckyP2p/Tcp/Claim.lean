import BuckyP2p.Tcp.Drain

/-!
# BuckyP2p.Tcp.Claim — two tunnels that claim one data connection

`TcpTunnel` is one end of a tunnel with one entry of `data_conns`.  The two ends are linked by one
FIFO control channel in each direction, which carries `ClaimConnReq`, `ClaimConnAck`, `WriteFin` and
`ReadDone`.

A step is one lock region at one end.

* `opening`, `sending` and `resetting` hold the calls of `claim_entry`: before the waiter is
  registered, before the request is sent, and after the send failed.
* `loop` is what `control_recv_loop` does with the command that it has read.  Regions under the
  locks of the entry and of the tunnel's state are single steps, so that other tasks may run between
  any two of them.
* `leases` are the leases that the entry was ever bound to; the entry refers to them by their index.
  What a call does after its first region waits in `todo` and runs at any later time, in any order.
* What the data connection carries is not kept: a read may return any number of bytes.  Timers, and
  the closing of the tunnel, may come at any time.  A send that fails delivers nothing.
-/

namespace BuckyP2p.Tcp

open Lib

inductive ClaimConnAckResult
  | success | vportNotFound | listenerClosed | notIdle | leaseMismatch | conflictLost | retired
  | protocolError | acceptQueueFull
  deriving DecidableEq, Repr

/-- What `check_accept_target` and `reserve_accept_slot` may refuse with. -/
inductive AcceptRefusal
  | vportNotFound | listenerClosed | acceptQueueFull
  deriving DecidableEq, Repr

def AcceptRefusal.result : AcceptRefusal → ClaimConnAckResult
  | .vportNotFound => .vportNotFound
  | .listenerClosed => .listenerClosed
  | .acceptQueueFull => .acceptQueueFull

structure ClaimConnReq where
  channelId : TcpChannelId
  kind : TcpChannelKind
  purpose : TunnelPurpose
  connId : TcpConnId
  leaseSeq : TcpLeaseSeq
  claimNonce : U64
  deriving DecidableEq, Repr

structure ClaimConnAck where
  channelId : TcpChannelId
  connId : TcpConnId
  leaseSeq : TcpLeaseSeq
  result : ClaimConnAckResult
  deriving DecidableEq, Repr

inductive TcpControlCmd
  | claimConnReq (req : ClaimConnReq)
  | claimConnAck (ack : ClaimConnAck)
  | drain (cmd : DrainCmd)
  deriving DecidableEq, Repr

namespace DrainCmd

def connId : DrainCmd → TcpConnId
  | .writeFin fin => fin.connId
  | .readDone done => done.connId

def leaseSeq : DrainCmd → TcpLeaseSeq
  | .writeFin fin => fin.leaseSeq
  | .readDone done => done.leaseSeq

def channelId : DrainCmd → TcpChannelId
  | .writeFin fin => fin.channelId
  | .readDone done => done.channelId

end DrainCmd

/-- The request of a claim. -/
def ClaimingState.request (c : ClaimingState) (connId : TcpConnId) : ClaimConnReq :=
  ⟨c.channelId, c.kind, c.purpose, connId, c.leaseSeq, c.claimNonce⟩

/-- The claim that a request is for. -/
def ClaimConnReq.claiming (req : ClaimConnReq) : ClaimingState :=
  ⟨req.leaseSeq, req.channelId, req.claimNonce, req.kind, req.purpose⟩

inductive RecentClaimResponse
  | ack
  | err (result : ClaimConnAckResult)
  deriving DecidableEq, Repr

def RecentClaimResponse.result : RecentClaimResponse → ClaimConnAckResult
  | .ack => .success
  | .err result => result

structure RecentClaimRecord where
  channelId : TcpChannelId
  leaseSeq : TcpLeaseSeq
  claimNonce : U64
  kind : TcpChannelKind
  purpose : TunnelPurpose
  response : RecentClaimResponse
  deriving DecidableEq, Repr

/-- `make_record`. -/
def ClaimConnReq.record (req : ClaimConnReq) (response : RecentClaimResponse) : RecentClaimRecord :=
  ⟨req.channelId, req.leaseSeq, req.claimNonce, req.kind, req.purpose, response⟩

def claimRecordMatches (req : ClaimConnReq) (record : RecentClaimRecord) : Bool :=
  req.channelId = record.channelId && req.leaseSeq = record.leaseSeq &&
    req.claimNonce = record.claimNonce && req.kind = record.kind && req.purpose = record.purpose

def claimResponseCmd (req : ClaimConnReq) (response : RecentClaimResponse) : ClaimConnAck :=
  ⟨req.channelId, req.connId, req.leaseSeq, response.result⟩

/-- The sequence wraps around, and `0` is not used. -/
def nextLeaseSeq (current : TcpLeaseSeq) : TcpLeaseSeq :=
  let next := current + 1
  if next = 0 then 1 else next

def validateRemoteFirstClaim (firstClaimLocal : Bool) (leaseSeq : TcpLeaseSeq) :
    Except ClaimConnAckResult Unit :=
  if leaseSeq ≠ 1 then .error .leaseMismatch
  else if firstClaimLocal then .error .protocolError
  else .ok ()

def localSimultaneousClaimWins (localId remoteId : P2pId) (localNonce remoteNonce : U64) : Bool :=
  if localNonce = remoteNonce then remoteId < localId else remoteNonce < localNonce

inductive ClaimDecision
  | replay (response : RecentClaimResponse)
  | accept
  | err (result : ClaimConnAckResult)
  | conflictWin
  | conflictLose (localChannelId : TcpChannelId)
  deriving DecidableEq, Repr

inductive ClaimDecisionPlan
  | ready (decision : ClaimDecision)
  | checkThen (decision : ClaimDecision)
  deriving DecidableEq, Repr

/-- `ClaimReqProcessing`; `accepted` is the lease. -/
structure ClaimReqProcessing where
  response : ClaimConnAck
  accepted : Option Nat
  localConflictChannel : Option TcpChannelId
  deriving DecidableEq, Repr

/-- What `control_recv_loop` is about to do: with a `ClaimConnReq`, in `process_claim_req` and
`handle_claim_req`; with a `ClaimConnAck`, in `handle_claim_ack`; with a command for a lease. -/
inductive Loop
  | ready
  | deciding (req : ClaimConnReq)
  | checking (req : ClaimConnReq) (decision : ClaimDecision)
  | reserving (req : ClaimConnReq) (localChannelId : Option TcpChannelId)
  | taking (req : ClaimConnReq) (localChannelId : Option TcpChannelId)
  | binding (req : ClaimConnReq) (localChannelId : Option TcpChannelId)
  | recording (record : RecentClaimRecord) (processing : ClaimReqProcessing)
  | processed (processing : ClaimReqProcessing)
  | replying (ack : ClaimConnAck)
  | waited (ack : ClaimConnAck)
  | found (ack : ClaimConnAck)
  | failing (ack : ClaimConnAck)
  | acked (claiming : ClaimingState)
  | confirming (claiming : ClaimingState)
  | telling (channelId : TcpChannelId)
  | handling (lease : Nat) (cmd : DrainCmd)
  | stopped
  deriving DecidableEq, Repr

/-- What a call runs after its first region: a region of a lease; `drop_stream`; the removal from
`pending_drains`; `remove_entry`; `send_pending_claim_result`. -/
inductive Chore
  | lease (i : Nat) (todo : Todo)
  | dropStream
  | clearPendingDrainsForConn
  | clearPendingDrainForEntry (leaseSeq : TcpLeaseSeq)
  | removeEntry
  | sendPendingClaimResult (channelId : TcpChannelId)
  deriving DecidableEq, Repr

/-- One end.  `stream` says that the entry has its stream; `registered`, that it is in `data_conns`;
`pendingClaims` are the channels with a waiter. -/
structure TcpTunnel where
  localId : P2pId
  remoteId : P2pId
  connId : TcpConnId
  firstClaimLocal : Bool
  stream : Bool
  committedLeaseSeq : TcpLeaseSeq
  state : DataConnEntryState Nat
  recentClaim : Option RecentClaimRecord
  pendingFin : Option WriteFin
  pendingReadDone : Option ReadDone
  registered : Bool
  closed : Bool
  pendingDrains : TcpLeaseSeq → PendingDrainFacts
  pendingClaims : List TcpChannelId
  opening : List ClaimConnReq
  sending : List ClaimConnReq
  resetting : List ClaimConnReq
  loop : Loop
  leases : List LeaseContext
  observing : List Nat
  todo : List Chore
  outbox : List (Nat × DrainCmd)
  inbox : List TcpControlCmd

/-- `insert_pending_write_fin`; `none` if there is another one. -/
def PendingDrainFacts.insertWriteFin (facts : PendingDrainFacts) (fin : WriteFin) :
    Option PendingDrainFacts :=
  match facts.writeFin with
  | some e =>
    if e.channelId ≠ fin.channelId ∨ e.finalTxBytes ≠ fin.finalTxBytes then none else some facts
  | none => some { facts with writeFin := some fin }

/-- `insert_pending_read_done`; `none` if there is another one. -/
def PendingDrainFacts.insertReadDone (facts : PendingDrainFacts) (done : ReadDone) :
    Option PendingDrainFacts :=
  match facts.readDone with
  | some e =>
    if e.channelId ≠ done.channelId ∨ e.finalRxBytes ≠ done.finalRxBytes then none else some facts
  | none => some { facts with readDone := some done }

namespace TcpTunnel

def getEntry (x : TcpTunnel) (connId : TcpConnId) : Bool := x.registered && connId = x.connId

/-- The state of an entry whose claim has failed. -/
def unclaimed (x : TcpTunnel) : DataConnEntryState Nat :=
  if x.firstClaimLocal && x.committedLeaseSeq = 0 then .firstClaimPending else .idle

/-- `retire_plain_entry`. -/
def retirePlainEntry (x : TcpTunnel) : TcpTunnel :=
  let tell : List Chore := match x.state with
    | .claiming c => [.sendPendingClaimResult c.channelId]
    | _ => []
  { x with
    state := .retired
    todo := x.todo ++ [.dropStream, .clearPendingDrainsForConn, .removeEntry] ++ tell }

/-! ### `claim_entry` -/

def startClaim (x : TcpTunnel) (c : ClaimingState) : TcpTunnel :=
  { x with state := .claiming c, opening := x.opening ++ [c.request x.connId] }

/-- The first region of `claim_entry`.  The channel id comes from a counter that all connections of
the tunnel share. -/
def claimEntry (x : TcpTunnel) (kind : TcpChannelKind) (purpose : TunnelPurpose)
    (channelId : TcpChannelId) (claimNonce : U64) : TcpTunnel :=
  match x.state with
  | .firstClaimPending =>
    if x.firstClaimLocal then x.startClaim ⟨1, channelId, claimNonce, kind, purpose⟩ else x
  | .idle =>
    x.startClaim ⟨nextLeaseSeq x.committedLeaseSeq, channelId, claimNonce, kind, purpose⟩
  | _ => x

/-- The waiter is registered. -/
def registerClaim (x : TcpTunnel) (i : Nat) : TcpTunnel :=
  match x.opening[i]? with
  | some req =>
    { x with
      opening := x.opening.eraseIdx i
      sending := x.sending ++ [req]
      pendingClaims := x.pendingClaims.insert req.channelId }
  | none => x

/-- The request is sent, or its waiter removed. -/
def sendClaim (x y : TcpTunnel) (i : Nat) (ok : Bool) : TcpTunnel × TcpTunnel :=
  match x.sending[i]? with
  | some req =>
    let x := { x with sending := x.sending.eraseIdx i }
    if ok then (x, { y with inbox := y.inbox ++ [.claimConnReq req] })
    else
      ({ x with
          pendingClaims := x.pendingClaims.erase req.channelId
          resetting := x.resetting ++ [req] }, y)
  | none => (x, y)

/-- After a failed send the entry is reset, whatever its state is by then. -/
def resetClaim (x : TcpTunnel) (i : Nat) : TcpTunnel :=
  match x.resetting[i]? with
  | some _ => { x with resetting := x.resetting.eraseIdx i, state := x.unclaimed }
  | none => x

/-! ### Leases -/

/-- The result of a region of the lease `i`. -/
def region (x : TcpTunnel) (i : Nat) (r : LeaseContext × List Todo) : TcpTunnel :=
  { x with leases := x.leases.set i r.1, todo := x.todo ++ r.2.map (Chore.lease i) }

/-- `bind_entry_to_lease`, after `take_stream`. -/
def bindEntryToLease (x : TcpTunnel) (channelId : TcpChannelId) (leaseSeq : TcpLeaseSeq)
    (kind : TcpChannelKind) (purpose : TunnelPurpose) (localInitiator : Bool) : TcpTunnel :=
  let fresh := LeaseContext.new x.connId leaseSeq channelId kind purpose localInitiator
  let drain := x.pendingDrains leaseSeq
  let a := fresh.absorb x.pendingFin x.pendingReadDone drain
  let early := x.pendingFin.isSome || x.pendingReadDone.isSome || drain.writeFin.isSome ||
    drain.readDone.isSome
  let i := x.leases.length
  { x with
    committedLeaseSeq := leaseSeq
    state := .bound i
    pendingFin := none
    pendingReadDone := none
    pendingDrains := Function.update x.pendingDrains leaseSeq ⟨none, none⟩
    leases := x.leases ++ [a.1]
    todo := x.todo ++
      (Side.bindTodo early fresh.autoWriteFinZero a.2.1 a.2.2).map (Chore.lease i) }

/-- A region of the lease `i`. -/
def runLease (x : TcpTunnel) (i : Nat) (lease : LeaseContext) : Todo → TcpTunnel
  | .sendWriteFin =>
    let (lease, todo, cmd) := lease.sendWriteFin
    { x.region i (lease, todo) with
      outbox := x.outbox ++ (cmd.map fun fin => (i, DrainCmd.writeFin fin)).toList }
  | .sendReadDone =>
    let (lease, todo, cmd) := lease.sendReadDone
    { x.region i (lease, todo) with
      outbox := x.outbox ++ (cmd.map fun done => (i, DrainCmd.readDone done)).toList }
  | .markDraining =>
    match x.state with
    | .bound _ => { x with state := .draining i }
    | _ => x
  | .retire =>
    let tell : List Chore := if lease.retired then [] else
      [.clearPendingDrainForEntry lease.leaseSeq, .sendPendingClaimResult lease.channelId]
    let x := x.region i lease.retireLease
    { x with todo := x.todo ++ tell }
  | .markRetired => { x with state := .retired, todo := x.todo ++ [.removeEntry] }
  | .finalize => x.region i lease.maybeFinalizeLease
  | .settle =>
    match x.state with
    | .bound _ | .draining _ => { x with stream := true, state := .idle }
    | _ => { x with stream := true }

def runChore (x : TcpTunnel) : Chore → TcpTunnel
  | .lease i todo =>
    match x.leases[i]? with
    | some lease => x.runLease i lease todo
    | none => x
  | .dropStream => { x with stream := false }
  | .clearPendingDrainsForConn => { x with pendingDrains := fun _ => ⟨none, none⟩ }
  | .clearPendingDrainForEntry leaseSeq =>
    { x with pendingDrains := Function.update x.pendingDrains leaseSeq ⟨none, none⟩ }
  | .removeEntry => { x with registered := false }
  | .sendPendingClaimResult channelId =>
    { x with pendingClaims := x.pendingClaims.erase channelId }

end TcpTunnel

/-- What happens to a lease: reads, writes and drops by its handles, the observer of the direction
that is not used, the timer of `schedule_finalize_check`, and failures. -/
inductive LeaseEvent
  | write (n : Nat)
  | read (n : Nat) (eof : Bool)
  | dropRead
  | dropWrite
  | observe
  | observed (result : ObservedRead)
  | check
  | fail
  deriving DecidableEq, Repr

namespace TcpTunnel

def useLease (x : TcpTunnel) (i : Nat) (lease : LeaseContext) : LeaseEvent → TcpTunnel
  | .write n =>
    if lease.writeReleased || !lease.write then x
    else x.region i ({ lease with txBytes := lease.txBytes + wrap n }, [])
  | .read n eof => if lease.readReleased then x else x.region i (lease.afterRead n eof)
  | .dropRead => x.region i lease.releaseReadHalf
  | .dropWrite => x.region i lease.releaseWriteHalf
  | .observe =>
    if !lease.hiddenZeroRead || i ∈ x.observing then x
    else match lease.observeStart with
      | (some lease, todo) => { x.region i (lease, todo) with observing := i :: x.observing }
      | (none, todo) => x.region i (lease, todo)
  | .observed result =>
    if i ∈ x.observing then
      { x.region i (lease.observeEnd result) with observing := x.observing.erase i }
    else x
  | .check => x.region i lease.maybeFinalizeLease
  | .fail => x.runLease i lease .retire

/-- The task of `spawn_send_write_fin` or `spawn_send_read_done`. -/
def sendDrain (x y : TcpTunnel) (j : Nat) (ok : Bool) : TcpTunnel × TcpTunnel :=
  match x.outbox[j]? with
  | some (i, cmd) =>
    let x := { x with outbox := x.outbox.eraseIdx j }
    if ok then
      ({ x with todo := x.todo ++ [.lease i .finalize] },
        { y with inbox := y.inbox ++ [.drain cmd] })
    else ({ x with todo := x.todo ++ [.lease i .retire] }, y)
  | none => (x, y)

/-- `close_local`. -/
def close (x : TcpTunnel) : TcpTunnel :=
  if x.closed then x
  else
    let x := { x with closed := true, pendingDrains := fun _ => ⟨none, none⟩, pendingClaims := [] }
    if !x.registered then x
    else match x.state with
      | .bound i | .draining i =>
        match x.leases[i]? with
        | some lease =>
          let lease := { lease with noReuse := true }
          x.region i (lease, if lease.readyForClose then [.retire] else [])
        | none => x
      | .claiming _ | .firstClaimPending | .idle => { x with state := .retired, stream := false }
      | .retired => { x with stream := false }

/-! ### `WriteFin` and `ReadDone` -/

def keepWriteFin (x : TcpTunnel) (fin : WriteFin) : TcpTunnel :=
  match (x.pendingDrains fin.leaseSeq).insertWriteFin fin with
  | none => x.retirePlainEntry
  | some facts =>
    let x := { x with pendingDrains := Function.update x.pendingDrains fin.leaseSeq facts }
    match x.pendingFin with
    | some e =>
      if e.channelId ≠ fin.channelId ∨ e.finalTxBytes ≠ fin.finalTxBytes then x.retirePlainEntry
      else x
    | none => { x with pendingFin := some fin }

def keepReadDone (x : TcpTunnel) (done : ReadDone) : TcpTunnel :=
  match (x.pendingDrains done.leaseSeq).insertReadDone done with
  | none => x.retirePlainEntry
  | some facts =>
    let x := { x with pendingDrains := Function.update x.pendingDrains done.leaseSeq facts }
    match x.pendingReadDone with
    | some e =>
      if e.channelId ≠ done.channelId ∨ e.finalRxBytes ≠ done.finalRxBytes then x.retirePlainEntry
      else x
    | none => { x with pendingReadDone := some done }

/-- A command for the lease that the entry claims is kept. -/
def keepDrain (x : TcpTunnel) : DrainCmd → TcpTunnel
  | .writeFin fin => x.keepWriteFin fin
  | .readDone done => x.keepReadDone done

/-- `handle_write_fin` and `handle_read_done` up to the lock of the lease.  A command for a
connection that is not there is an error, which ends the loop. -/
def arrive (x : TcpTunnel) (cmd : DrainCmd) : TcpTunnel :=
  if !x.getEntry cmd.connId then { x with loop := .stopped }
  else match x.state with
    | .firstClaimPending | .idle | .retired =>
      if cmd.leaseSeq.gt x.committedLeaseSeq then x.retirePlainEntry else x
    | .claiming c =>
      if c.leaseSeq = cmd.leaseSeq then
        if c.channelId ≠ cmd.channelId then x.retirePlainEntry else x.keepDrain cmd
      else x
    | .bound i | .draining i => { x with loop := .handling i cmd }

/-- The rest of `handle_write_fin` and `handle_read_done`. -/
def handle (x : TcpTunnel) (i : Nat) (cmd : DrainCmd) : TcpTunnel :=
  let x := { x with loop := .ready }
  match x.leases[i]? with
  | some lease =>
    match cmd with
    | .writeFin fin => x.region i (lease.handleWriteFin fin)
    | .readDone done => x.region i (lease.handleReadDone done)
  | none => x

/-! ### `process_claim_req` -/

/-- The decision by the state of the entry. -/
def decisionOnState (x : TcpTunnel) (req : ClaimConnReq) : ClaimDecisionPlan :=
  match x.state with
  | .retired => .ready (.err .retired)
  | .firstClaimPending =>
    match validateRemoteFirstClaim x.firstClaimLocal req.leaseSeq with
    | .ok () => .checkThen .accept
    | .error result => .ready (.err result)
  | .idle =>
    if req.leaseSeq ≠ nextLeaseSeq x.committedLeaseSeq then .ready (.err .leaseMismatch)
    else .checkThen .accept
  | .claiming c =>
    if req.leaseSeq ≠ c.leaseSeq then .ready (.err .leaseMismatch)
    else if localSimultaneousClaimWins x.localId x.remoteId c.claimNonce req.claimNonce then
      .checkThen .conflictWin
    else .checkThen (.conflictLose c.channelId)
  | .bound _ | .draining _ => .ready (.err .notIdle)

def decisionPlan (x : TcpTunnel) (req : ClaimConnReq) : ClaimDecisionPlan :=
  match x.recentClaim with
  | some record =>
    if record.leaseSeq = req.leaseSeq then
      if claimRecordMatches req record then .ready (.replay record.response)
      else .ready (.err .protocolError)
    else x.decisionOnState req
  | none => x.decisionOnState req

/-- An answer that refuses the request, to be recorded. -/
def refuse (req : ClaimConnReq) (result : ClaimConnAckResult)
    (localChannelId : Option TcpChannelId) : Loop :=
  .recording (req.record (.err result)) ⟨claimResponseCmd req (.err result), none, localChannelId⟩

/-- What follows a decision. -/
def onDecision (req : ClaimConnReq) : ClaimDecision → Loop
  | .replay response => .processed ⟨claimResponseCmd req response, none, none⟩
  | .accept => .reserving req none
  | .err result => refuse req result none
  | .conflictWin => refuse req .conflictLost none
  | .conflictLose localChannelId => .reserving req (some localChannelId)

/-- The entry is bound to the request, without another look at its state. -/
def bindRequest (x : TcpTunnel) (req : ClaimConnReq) (localChannelId : Option TcpChannelId) :
    TcpTunnel :=
  { x.bindEntryToLease req.channelId req.leaseSeq req.kind req.purpose false with
    loop := .recording (req.record .ack)
      ⟨claimResponseCmd req .ack, some x.leases.length, localChannelId⟩ }

/-! ### `handle_claim_ack` -/

/-- The entry's claim, if it is the one that `ack` answers. -/
def claimOf (x : TcpTunnel) (ack : ClaimConnAck) : Option ClaimingState :=
  match x.state with
  | .claiming c =>
    if c.channelId = ack.channelId ∧ c.leaseSeq = ack.leaseSeq then some c else none
  | _ => none

/-- The entry after a claim that was refused. -/
def failClaim (x : TcpTunnel) (result : ClaimConnAckResult) : DataConnEntryState Nat :=
  if result = .conflictLost then
    match x.state with
    | .bound i => .bound i
    | .draining i => .draining i
    | _ => x.unclaimed
  else x.unclaimed

/-! ### `control_recv_loop` -/

/-- The loop reads a command and runs the first region of its handler; `active` is the answer of
`begin_pending`. -/
def deliver (x : TcpTunnel) (active : Bool) : TcpTunnel :=
  match x.loop, x.inbox with
  | .ready, .claimConnReq req :: rest =>
    let x := { x with inbox := rest }
    if !active then { x with loop := .stopped }
    else if x.getEntry req.connId then { x with loop := .deciding req }
    else { x with
      loop := .processed ⟨claimResponseCmd req (.err .protocolError), none, none⟩ }
  | .ready, .claimConnAck ack :: rest =>
    let x := { x with inbox := rest }
    if ack.channelId ∈ x.pendingClaims then { x with loop := .waited ack } else x
  | .ready, .drain cmd :: rest => { x with inbox := rest }.arrive cmd
  | _, _ => x

/-- The next region of the loop, where nothing but the state decides. -/
def go (x : TcpTunnel) : TcpTunnel :=
  match x.loop with
  | .deciding req =>
    match x.decisionPlan req with
    | .ready decision => { x with loop := onDecision req decision }
    | .checkThen decision => { x with loop := .checking req decision }
  | .taking req localChannelId =>
    if x.stream then { x with stream := false, loop := .binding req localChannelId }
    else { x with loop := .stopped }
  | .binding req localChannelId => x.bindRequest req localChannelId
  | .recording record processing =>
    { x with recentClaim := some record, loop := .processed processing }
  | .waited ack =>
    if x.getEntry ack.connId then { x with loop := .found ack }
    else { x with loop := .telling ack.channelId }
  | .found ack =>
    match x.claimOf ack with
    | some c => { x with loop := if ack.result = .success then .acked c else .failing ack }
    | none => { x with loop := .ready }
  | .failing ack => { x with state := x.failClaim ack.result, loop := .telling ack.channelId }
  | .acked c =>
    if x.stream then { x with stream := false, loop := .confirming c }
    else { x with loop := .stopped }
  | .confirming c =>
    { x.bindEntryToLease c.channelId c.leaseSeq c.kind c.purpose true with
      loop := .telling c.channelId }
  | .telling channelId =>
    { x with pendingClaims := x.pendingClaims.erase channelId, loop := .ready }
  | .handling i cmd => x.handle i cmd
  | _ => x

/-- `check_accept_target` answers. -/
def checked (x : TcpTunnel) (answer : Option AcceptRefusal) : TcpTunnel :=
  match x.loop, answer with
  | .checking req decision, none => { x with loop := onDecision req decision }
  | .checking req _, some reason => { x with loop := refuse req reason.result none }
  | _, _ => x

/-- `reserve_accept_slot` answers. -/
def reserved (x : TcpTunnel) (answer : Option AcceptRefusal) : TcpTunnel :=
  match x.loop, answer with
  | .reserving req localChannelId, none => { x with loop := .taking req localChannelId }
  | .reserving req localChannelId, some reason =>
    { x with loop := refuse req reason.result localChannelId }
  | _, _ => x

/-- `handle_claim_req` after `process_claim_req`; `ok` is the answer of `enqueue_accepted`. -/
def enqueued (x : TcpTunnel) (ok : Bool) : TcpTunnel :=
  match x.loop with
  | .processed p =>
    let x := match p.localConflictChannel with
      | some channelId => { x with pendingClaims := x.pendingClaims.erase channelId }
      | none => x
    if p.accepted.isSome && !ok then { x with loop := .stopped }
    else { x with loop := .replying p.response }
  | _ => x

/-- The answer is sent; if that fails the loop ends. -/
def reply (x y : TcpTunnel) (ok : Bool) : TcpTunnel × TcpTunnel :=
  match x.loop with
  | .replying ack =>
    if ok then ({ x with loop := .ready }, { y with inbox := y.inbox ++ [.claimConnAck ack] })
    else ({ x with loop := .stopped }, y)
  | _ => (x, y)

end TcpTunnel

/-- What happens next at an end. -/
inductive ClaimEvent
  | claim (kind : TcpChannelKind) (purpose : TunnelPurpose) (channelId : TcpChannelId)
    (claimNonce : U64)
  | register (i : Nat)
  | sendClaim (i : Nat) (ok : Bool)
  | reset (i : Nat)
  | forget (channelId : TcpChannelId)
  | deliver (active : Bool)
  | go
  | checked (answer : Option AcceptRefusal)
  | reserved (answer : Option AcceptRefusal)
  | enqueued (ok : Bool)
  | reply (ok : Bool)
  | lease (i : Nat) (e : LeaseEvent)
  | run (i : Nat)
  | sendDrain (i : Nat) (ok : Bool)
  | abandon
  | close
  deriving DecidableEq, Repr

/-- One step at the end `x`, with `y` the other end. -/
def TcpTunnel.act (x y : TcpTunnel) : ClaimEvent → TcpTunnel × TcpTunnel
  | .claim kind purpose channelId claimNonce =>
    (x.claimEntry kind purpose channelId claimNonce, y)
  | .register i => (x.registerClaim i, y)
  | .sendClaim i ok => x.sendClaim y i ok
  | .reset i => (x.resetClaim i, y)
  | .forget channelId => ({ x with pendingClaims := x.pendingClaims.erase channelId }, y)
  | .deliver active => (x.deliver active, y)
  | .go => (x.go, y)
  | .checked answer => (x.checked answer, y)
  | .reserved answer => (x.reserved answer, y)
  | .enqueued ok => (x.enqueued ok, y)
  | .reply ok => x.reply y ok
  | .lease i e =>
    match x.leases[i]? with
    | some lease => (x.useLease i lease e, y)
    | none => (x, y)
  | .run i =>
    match x.todo[i]? with
    | some chore => ({ x with todo := x.todo.eraseIdx i }.runChore chore, y)
    | none => (x, y)
  | .sendDrain i ok => x.sendDrain y i ok
  | .abandon => (x.retirePlainEntry, y)
  | .close => (x.close, y)

/-- The two ends of a tunnel. -/
inductive TunnelForm
  | active | passive
  deriving DecidableEq, Repr

def TunnelForm.other : TunnelForm → TunnelForm
  | .active => .passive
  | .passive => .active

structure Link where
  active : TcpTunnel
  passive : TcpTunnel

/-- The end of a form. -/
def Link.tunnel (s : Link) : TunnelForm → TcpTunnel
  | .active => s.active
  | .passive => s.passive

def Link.step (s : Link) (i : TunnelForm × ClaimEvent) : Link :=
  match i.1 with
  | .active =>
    let r := s.active.act s.passive i.2
    ⟨r.1, r.2⟩
  | .passive =>
    let r := s.passive.act s.active i.2
    ⟨r.2, r.1⟩

/-- `DataConnEntry::new`, registered at an end. -/
def TcpTunnel.new (localId remoteId : P2pId) (connId : TcpConnId) (firstClaimLocal : Bool) :
    TcpTunnel where
  localId := localId
  remoteId := remoteId
  connId := connId
  firstClaimLocal := firstClaimLocal
  stream := true
  committedLeaseSeq := 0
  state := .firstClaimPending
  recentClaim := none
  pendingFin := none
  pendingReadDone := none
  registered := true
  closed := false
  pendingDrains := fun _ => ⟨none, none⟩
  pendingClaims := []
  opening := []
  sending := []
  resetting := []
  loop := .ready
  leases := []
  observing := []
  todo := []
  outbox := []
  inbox := []

/-- A new data connection; the first claim is for the end `first` to make. -/
def Link.start (activeId passiveId : P2pId) (connId : TcpConnId) (first : TunnelForm) : Link where
  active := .new activeId passiveId connId (first = .active)
  passive := .new passiveId activeId connId (first = .passive)

end BuckyP2p.Tcp
