import BuckyP2p.Tcp.Claim

/-!
# BuckyP2p.Tcp.Handles — who holds a lease

`Holder` is one end of a tunnel with the callers of `open_stream` and `open_datagram` and with the
handles of its leases.  The other end is not kept: any command may arrive.

* A caller waits in `claim_entry` for the lease of its channel; `receivers` are the channels whose
  `oneshot` has a receiver and is empty, `delivered` the leases that are in a `oneshot`.
* A caller may be dropped while it waits.  Its waiter stays in `pending_claims`, and a request that
  was not sent yet is not sent.
* `telling` is the lease that `handle_claim_ack` has bound and not sent to the caller yet.
* `reads` and `writes` are the leases with a `TcpLeaseRead` and a `TcpLeaseWrite`.  A lease is used
  and let go through its handles only; without one, nothing but the timer of the drain retires it.
-/

namespace BuckyP2p.Tcp

open Lib

structure Holder where
  tunnel : TcpTunnel
  streamCallback : Bool
  datagramCallback : Bool
  receivers : List TcpChannelId
  telling : Option Nat
  delivered : List (TcpChannelId × Nat)
  reads : List Nat
  writes : List Nat

inductive HolderEvent
  | tunnel (e : ClaimEvent)
  | arrive (cmd : TcpControlCmd)
  | listen (kind : TcpChannelKind)
  | take (j : Nat)
  | cancel (channelId : TcpChannelId)
  deriving DecidableEq, Repr

/-- The timer of `note_drain_progress` is running. -/
def LeaseContext.drainTimer (c : LeaseContext) : Bool :=
  c.peerWriteFinReceived &&
    match c.peerFinalTxBytes with
    | some peerFinal => c.rxBytes < peerFinal
    | none => false

namespace Holder

/-- `current_stream_callback` and `current_datagram_callback`. -/
def callback (s : Holder) : TcpChannelKind → Bool
  | .stream => s.streamCallback
  | .datagram => s.datagramCallback

def makeStreamChannel (s : Holder) (i : Nat) : Holder :=
  { s with reads := i :: s.reads, writes := i :: s.writes }

def makeDatagramWrite (s : Holder) (i : Nat) : Holder := { s with writes := i :: s.writes }

def makeDatagramRead (s : Holder) (i : Nat) : Holder := { s with reads := i :: s.reads }

/-- A step of the tunnel.  A caller whose sender is gone has got its answer. -/
def follow (s : Holder) (e : ClaimEvent) : Holder :=
  let x := (s.tunnel.act s.tunnel e).1
  { s with tunnel := x, receivers := s.receivers.filter (· ∈ x.pendingClaims) }

/-- The waiter and its receiver. -/
def registerClaim (s : Holder) (i : Nat) : Holder :=
  match s.tunnel.opening[i]? with
  | some req =>
    { s with
      tunnel := s.tunnel.registerClaim i
      receivers := s.receivers.insert req.channelId }
  | none => s

/-- `send_pending_claim_result` with the lease: if the receiver is gone, so is the lease. -/
def tell (s : Holder) (channelId : TcpChannelId) (i : Nat) : Holder :=
  let s' := { s.follow .go with telling := none }
  if channelId ∈ s.tunnel.pendingClaims ∧ channelId ∈ s.receivers then
    { s' with delivered := s.delivered ++ [(channelId, i)] }
  else s'

def go (s : Holder) : Holder :=
  match s.tunnel.loop, s.telling with
  | .confirming _, _ => { s.follow .go with telling := some s.tunnel.leases.length }
  | .telling channelId, some i => s.tell channelId i
  | _, _ => s.follow .go

/-- `enqueue_accepted`: when the tunnel is closed, or has no callback, the lease is dropped. -/
def enqueueAccepted (s : Holder) (i : Nat) : Holder :=
  match s.tunnel.leases[i]? with
  | some lease =>
    if s.tunnel.closed || !s.callback lease.kind then s
    else match lease.kind with
      | .stream => s.makeStreamChannel i
      | .datagram => s.makeDatagramRead i
  | none => s

def enqueued (s : Holder) (ok : Bool) : Holder :=
  match s.tunnel.loop with
  | .processed p =>
    match p.accepted with
    | some i => (s.enqueueAccepted i).follow (.enqueued ok)
    | none => s.follow (.enqueued ok)
  | _ => s.follow (.enqueued ok)

/-- Who may do what with a lease. -/
def mayUse (s : Holder) (i : Nat) (lease : LeaseContext) : LeaseEvent → Bool
  | .write _ | .dropWrite => i ∈ s.writes
  | .read _ _ | .dropRead => i ∈ s.reads
  | .fail => i ∈ s.reads || i ∈ s.writes || lease.drainTimer
  | _ => true

/-- The lease is used, or a handle of it dropped. -/
def useLease (s : Holder) (i : Nat) (e : LeaseEvent) : Holder :=
  match s.tunnel.leases[i]? with
  | some lease =>
    if s.mayUse i lease e then
      match e with
      | .dropRead => { s.follow (.lease i e) with reads := s.reads.erase i }
      | .dropWrite => { s.follow (.lease i e) with writes := s.writes.erase i }
      | _ => s.follow (.lease i e)
    else s
  | none => s

/-- `close_local`. -/
def close (s : Holder) : Holder :=
  { s.follow .close with streamCallback := false, datagramCallback := false }

/-- `listen_stream` and `listen_datagram`. -/
def listen (s : Holder) (kind : TcpChannelKind) : Holder :=
  if s.tunnel.closed then s
  else match kind with
    | .stream => { s with streamCallback := true }
    | .datagram => { s with datagramCallback := true }

/-- The caller takes its lease and makes the handles: the end of `open_stream` and
`open_datagram`. -/
def take (s : Holder) (j : Nat) : Holder :=
  match s.delivered[j]? with
  | some (_, i) =>
    let s' := { s with delivered := s.delivered.eraseIdx j }
    match s.tunnel.leases[i]? with
    | some lease =>
      match lease.kind with
      | .stream => s'.makeStreamChannel i
      | .datagram => s'.makeDatagramWrite i
    | none => s'
  | none => s

/-- The caller is dropped, or its claim times out. -/
def cancel (s : Holder) (channelId : TcpChannelId) : Holder :=
  { s with
    tunnel := { s.tunnel with
      sending := s.tunnel.sending.filter fun req => req.channelId ≠ channelId }
    receivers := s.receivers.filter (· ≠ channelId)
    delivered := s.delivered.filter fun d => d.1 ≠ channelId }

def step (s : Holder) : HolderEvent → Holder
  | .tunnel (.register i) => s.registerClaim i
  | .tunnel .go => s.go
  | .tunnel (.enqueued ok) => s.enqueued ok
  | .tunnel (.lease i e) => s.useLease i e
  | .tunnel .close => s.close
  | .tunnel e => s.follow e
  | .arrive cmd => { s with tunnel := { s.tunnel with inbox := s.tunnel.inbox ++ [cmd] } }
  | .listen kind => s.listen kind
  | .take j => s.take j
  | .cancel channelId => s.cancel channelId

/-- An end with a new data connection. -/
def new (localId remoteId : P2pId) (connId : TcpConnId) (firstClaimLocal : Bool) : Holder where
  tunnel := .new localId remoteId connId firstClaimLocal
  streamCallback := false
  datagramCallback := false
  receivers := []
  telling := none
  delivered := []
  reads := []
  writes := []

end Holder

end BuckyP2p.Tcp
