import BuckyP2p.Base

/-!
# BuckyP2p.Tcp.Lease — the lease of a data connection, `LeaseContext` of `tcp/tunnel.rs`

A lease is used by several tasks through `Arc<Mutex<LeaseContext>>`.  Every function here is one
region under that lock; it returns the lease and the regions that the same call runs after it
(`Todo`), each under a lock of its own.

* `canSendReadDone`, `readyForIdle`, `readyForClose`: the predicates that decide the end of a lease.
* `afterRead`, `observeStart`, `observeEnd`: counting what was read, by the application or by the
  observer of the direction that a datagram channel does not use.
* `absorb`: the commands that came before the lease was bound.
* `releaseReadHalf`, `releaseWriteHalf`, `sendWriteFin`, `sendReadDone`, `handleWriteFin`,
  `handleReadDone`, `maybeFinalizeLease`, `retireLease`.

`note_drain_progress` only starts a timer that may retire the lease; a lease may be retired at any
time, so the timer is not kept.
-/

namespace BuckyP2p.Tcp

abbrev TcpConnId : Type := TunnelId

abbrev TcpChannelId : Type := TunnelId

abbrev TcpLeaseSeq : Type := TunnelId

abbrev TunnelPurpose : Type := List U8

inductive TcpChannelKind
  | stream | datagram
  deriving DecidableEq, Repr

structure WriteFin where
  channelId : TcpChannelId
  connId : TcpConnId
  leaseSeq : TcpLeaseSeq
  finalTxBytes : U64
  deriving DecidableEq, Repr

structure ReadDone where
  channelId : TcpChannelId
  connId : TcpConnId
  leaseSeq : TcpLeaseSeq
  finalRxBytes : U64
  deriving DecidableEq, Repr

/-- `LeaseContext`; `read` and `write` say whether the halves of the stream are there. -/
structure LeaseContext where
  connId : TcpConnId
  leaseSeq : TcpLeaseSeq
  channelId : TcpChannelId
  kind : TcpChannelKind
  purpose : TunnelPurpose
  localInitiator : Bool
  read : Bool
  write : Bool
  txBytes : U64
  rxBytes : U64
  peerFinalTxBytes : Option U64
  pendingPeerReadDoneFinalRxBytes : Option U64
  localWriteFinSent : Bool
  peerWriteFinReceived : Bool
  localReadDoneSent : Bool
  peerReadDoneReceived : Bool
  readReleased : Bool
  writeReleased : Bool
  retired : Bool
  noReuse : Bool
  hiddenZeroRead : Bool
  deriving DecidableEq, Repr

/-- What came for a lease before it was bound, `pending_drains` at `(conn_id, lease_seq)`. -/
structure PendingDrainFacts where
  writeFin : Option WriteFin
  readDone : Option ReadDone
  deriving DecidableEq, Repr

structure ClaimingState where
  leaseSeq : TcpLeaseSeq
  channelId : TcpChannelId
  claimNonce : U64
  kind : TcpChannelKind
  purpose : TunnelPurpose
  deriving DecidableEq, Repr

/-- `DataConnEntryState`; `L` is what stands for the shared lease. -/
inductive DataConnEntryState (L : Type)
  | firstClaimPending
  | idle
  | claiming (claiming : ClaimingState)
  | bound (lease : L)
  | draining (lease : L)
  | retired
  deriving DecidableEq, Repr

/-- The change from `Bound` to `Draining`. -/
def DataConnEntryState.markDraining {L : Type} : DataConnEntryState L → DataConnEntryState L
  | .bound l => .draining l
  | state => state

/-- The regions that a call runs after the one that is modelled: `spawn_send_write_fin`,
`spawn_send_read_done`, the change from `Bound` to `Draining`, `retire_lease_arc`, the entry's
`Retired` at its end, `maybe_finalize_lease`, and the entry's `Idle` at its end. -/
inductive Todo
  | sendWriteFin | sendReadDone | markDraining | retire | markRetired | finalize | settle
  deriving DecidableEq, Repr

/-- What the read of the hidden observer ended with: `Ok(0)`, `Ok(n)`, an error, the timeout. -/
inductive ObservedRead
  | eof | data (n : Nat) | failed | timeout
  deriving DecidableEq, Repr

/-- The bytes that the observer read. -/
def ObservedRead.bytes : ObservedRead → Nat
  | .data n => n
  | _ => 0

namespace LeaseContext

/-- The lease that `bind_entry_to_lease` creates. -/
def new (connId : TcpConnId) (leaseSeq : TcpLeaseSeq) (channelId : TcpChannelId)
    (kind : TcpChannelKind) (purpose : TunnelPurpose) (localInitiator : Bool) : LeaseContext where
  connId := connId
  leaseSeq := leaseSeq
  channelId := channelId
  kind := kind
  purpose := purpose
  localInitiator := localInitiator
  read := true
  write := true
  txBytes := 0
  rxBytes := 0
  peerFinalTxBytes := none
  pendingPeerReadDoneFinalRxBytes := none
  localWriteFinSent := false
  peerWriteFinReceived := false
  localReadDoneSent := false
  peerReadDoneReceived := false
  readReleased := kind = .datagram && localInitiator
  writeReleased := kind = .datagram && !localInitiator
  retired := false
  noReuse := false
  hiddenZeroRead := kind = .datagram && localInitiator

/-- `auto_write_fin_zero`. -/
def autoWriteFinZero (c : LeaseContext) : Bool := c.kind = .datagram && !c.localInitiator

def canSendReadDone (c : LeaseContext) : Bool :=
  c.peerWriteFinReceived && c.peerFinalTxBytes = some c.rxBytes && !c.localReadDoneSent

def readyForIdle (c : LeaseContext) : Bool :=
  c.localWriteFinSent && c.peerWriteFinReceived && c.localReadDoneSent && c.peerReadDoneReceived &&
    c.readReleased && c.writeReleased && !c.retired && !c.noReuse

def readyForClose (c : LeaseContext) : Bool :=
  c.readReleased && c.writeReleased && (c.retired || c.noReuse)

def afterRead (c : LeaseContext) (readLen : Nat) (eof : Bool) : LeaseContext × List Todo :=
  if c.retired then (c, [])
  else if 0 < readLen then
    let c := { c with rxBytes := c.rxBytes + wrap readLen }
    if c.hiddenZeroRead then (c, [.retire])
    else match c.peerFinalTxBytes with
      | some peerFinal =>
        if peerFinal < c.rxBytes then (c, [.retire])
        else if c.canSendReadDone then (c, [.sendReadDone])
        else (c, [])
      | none => (c, [])
  else if eof then (c, [.retire])
  else (c, [])

/-- The observer takes the read half; `none` if it returns. -/
def observeStart (c : LeaseContext) : Option LeaseContext × List Todo :=
  if c.retired then (none, [.finalize])
  else if c.read then (some { c with read := false }, [])
  else (none, [])

/-- The observer puts the read half back and counts what it read.  The end of a lease is looked at
before the read is. -/
def observeEnd (c : LeaseContext) (result : ObservedRead) : LeaseContext × List Todo :=
  let c := { c with read := true }
  if c.retired then (c, [.finalize])
  else
    let c := { c with rxBytes := c.rxBytes + wrap result.bytes }
    if c.readyForIdle || c.readyForClose then (c, [.finalize])
    else if result ≠ .timeout then (c, [.retire])
    else match c.peerFinalTxBytes with
      | some peerFinal =>
        if peerFinal < c.rxBytes then (c, [.retire])
        else if c.canSendReadDone then (c, [.sendReadDone, .finalize])
        else (c, [])
      | none => if c.canSendReadDone then (c, [.sendReadDone, .finalize]) else (c, [])

def releaseReadHalf (c : LeaseContext) : LeaseContext × List Todo :=
  if c.readReleased then (c, [])
  else
    let c := { c with readReleased := true }
    if c.peerWriteFinReceived then
      if c.peerFinalTxBytes = some c.rxBytes then
        if c.canSendReadDone then (c, [.sendReadDone, .finalize]) else (c, [.finalize])
      else (c, [.retire, .finalize])
    else (c, [.finalize])

def releaseWriteHalf (c : LeaseContext) : LeaseContext × List Todo :=
  if c.writeReleased then (c, [])
  else
    let c := { c with writeReleased := true }
    if c.localWriteFinSent then (c, [.finalize]) else (c, [.sendWriteFin, .finalize])

/-- `spawn_send_write_fin`, with the command that the task it spawns will send. -/
def sendWriteFin (c : LeaseContext) : LeaseContext × List Todo × Option WriteFin :=
  if c.localWriteFinSent || c.retired then (c, [], none)
  else
    let fin : WriteFin := ⟨c.channelId, c.connId, c.leaseSeq, c.txBytes⟩
    match c.pendingPeerReadDoneFinalRxBytes with
    | none => ({ c with localWriteFinSent := true }, [.markDraining], some fin)
    | some pendingFinalRx =>
      let c := { c with localWriteFinSent := true, pendingPeerReadDoneFinalRxBytes := none }
      if pendingFinalRx = c.txBytes then
        ({ c with peerReadDoneReceived := true }, [.markDraining], some fin)
      else (c, [.markDraining, .retire], none)

/-- `spawn_send_read_done`, with the command that the task it spawns will send. -/
def sendReadDone (c : LeaseContext) : LeaseContext × List Todo × Option ReadDone :=
  if !c.canSendReadDone || c.retired then (c, [], none)
  else
    ({ c with localReadDoneSent := true }, [.markDraining],
      some ⟨c.channelId, c.connId, c.leaseSeq, c.rxBytes⟩)

/-- The peer's total becomes known; whether the lease is to be retired, or its end of the reading
announced. -/
def receiveWriteFin (c : LeaseContext) (finalTxBytes : U64) : LeaseContext × Bool × Bool :=
  let zero := c.hiddenZeroRead && finalTxBytes ≠ 0
  let c := { c with peerWriteFinReceived := true, peerFinalTxBytes := some finalTxBytes }
  if c.readReleased && c.rxBytes ≠ finalTxBytes then (c, true, false)
  else (c, zero, c.canSendReadDone)

/-- `bind_entry_to_lease` with the entry's `pending_fin`. -/
def absorbFin (c : LeaseContext) : Option WriteFin → LeaseContext × Bool × Bool
  | some fin =>
    if fin.leaseSeq = c.leaseSeq ∧ fin.channelId = c.channelId then
      c.receiveWriteFin fin.finalTxBytes
    else (c, true, false)
  | none => (c, false, false)

/-- `bind_entry_to_lease` with the entry's `pending_read_done`. -/
def absorbDone (c : LeaseContext) : Option ReadDone → LeaseContext × Bool
  | some done =>
    if done.leaseSeq = c.leaseSeq ∧ done.channelId = c.channelId then
      ({ c with pendingPeerReadDoneFinalRxBytes := some done.finalRxBytes }, false)
    else (c, true)
  | none => (c, false)

/-- `bind_entry_to_lease` with the `write_fin` of `pending_drains`. -/
def absorbDrainFin (c : LeaseContext) : Option WriteFin → LeaseContext × Bool × Bool
  | some fin =>
    if fin.channelId ≠ c.channelId then (c, true, false) else c.receiveWriteFin fin.finalTxBytes
  | none => (c, false, false)

/-- `bind_entry_to_lease` with the `read_done` of `pending_drains`. -/
def absorbDrainDone (c : LeaseContext) : Option ReadDone → LeaseContext × Bool
  | some done =>
    if done.channelId ≠ c.channelId then (c, true)
    else ({ c with pendingPeerReadDoneFinalRxBytes := some done.finalRxBytes }, false)
  | none => (c, false)

/-- What `bind_entry_to_lease` does with commands that came before the lease: the lease, whether it
is to be retired, and whether its end of the reading is to be announced. -/
def absorb (c : LeaseContext) (pendingFin : Option WriteFin) (pendingReadDone : Option ReadDone)
    (pendingDrain : PendingDrainFacts) : LeaseContext × Bool × Bool :=
  let a := c.absorbFin pendingFin
  let b := a.1.absorbDone pendingReadDone
  let d := b.1.absorbDrainFin pendingDrain.writeFin
  let e := d.1.absorbDrainDone pendingDrain.readDone
  (e.1, a.2.1 || b.2 || d.2.1 || e.2, a.2.2 || d.2.2)

/-- `handle_write_fin`, from the lock of the lease on. -/
def handleWriteFin (c : LeaseContext) (fin : WriteFin) : LeaseContext × List Todo :=
  if c.leaseSeq ≠ fin.leaseSeq then
    if fin.leaseSeq.lt c.leaseSeq then (c, []) else (c, [.markDraining, .retire, .finalize])
  else if c.channelId ≠ fin.channelId then (c, [.markDraining, .retire, .finalize])
  else if c.peerWriteFinReceived then
    if c.peerFinalTxBytes ≠ some fin.finalTxBytes then (c, [.markDraining, .retire, .finalize])
    else (c, [.markDraining, .finalize])
  else
    let (c, retire, send) := c.receiveWriteFin fin.finalTxBytes
    if retire then (c, [.markDraining, .retire, .finalize])
    else if send then (c, [.markDraining, .sendReadDone, .finalize])
    else (c, [.markDraining, .finalize])

/-- `handle_read_done`, from the lock of the lease on. -/
def handleReadDone (c : LeaseContext) (done : ReadDone) : LeaseContext × List Todo :=
  if c.leaseSeq ≠ done.leaseSeq then
    if done.leaseSeq.lt c.leaseSeq then (c, []) else (c, [.retire])
  else if c.channelId ≠ done.channelId then (c, [.retire])
  else if !c.localWriteFinSent then
    match c.pendingPeerReadDoneFinalRxBytes with
    | some value => if value ≠ done.finalRxBytes then (c, [.retire]) else (c, [])
    | none =>
      ({ c with pendingPeerReadDoneFinalRxBytes := some done.finalRxBytes }, [.markDraining])
  else if done.finalRxBytes ≠ c.txBytes then (c, [.retire])
  else ({ c with peerReadDoneReceived := true }, [.finalize])

/-- `maybe_finalize_lease`, up to the lock of the entry. -/
def maybeFinalizeLease (c : LeaseContext) : LeaseContext × List Todo :=
  if c.readyForIdle then
    if !c.read || !c.write then (c, [])
    else ({ c with read := false, write := false }, [.settle])
  else if c.readyForClose then
    ({ c with retired := true, read := false, write := false }, [.markRetired])
  else (c, [])

/-- `retire_lease_arc`, up to the lock of the entry. -/
def retireLease (c : LeaseContext) : LeaseContext × List Todo :=
  if c.retired then (c, [])
  else ({ c with retired := true, read := false, write := false }, [.markRetired])

end LeaseContext

end BuckyP2p.Tcp
