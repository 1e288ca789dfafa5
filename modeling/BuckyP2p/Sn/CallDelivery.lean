import BuckyP2p.Sn.CallAuthenticity

/-!
# BuckyP2p.Sn.CallDelivery — what the answer `Ok` to a call means

Runs of the call handlers of one SN, with the calls that were sent.  `CallStub::insert` records a
call before it is decided whether an `SnCalled` is sent, and before the send can fail; a later
request with the same key is answered `Ok` because of the record alone.

A call for a peer that another SN serves is relayed; whether it is sent is then a matter of that SN,
which handles it with `deliver_called_to_local_peer`.
-/

namespace BuckyP2p.Sn

open Lib

/-- More than sixty seconds in microseconds lie between the two. -/
def overdue (last now : Timestamp) : Bool := last < now && 60000000 < now.val - last.val

/-- `CallStub::recycle`, when the last one was at `lastRecycle`. -/
def CallStub.recycle (stub : CallStub) (lastRecycle now : Timestamp) : CallStub :=
  if overdue lastRecycle now then stub.retain fun _ last => !overdue last now else stub

/-- The stub of an SN, and the calls that it has sent: from whom, for which tunnel, and to whom. -/
structure CallDesk where
  stub : CallStub
  lastRecycle : Timestamp
  sent : List (P2pId × TunnelId × P2pId)

inductive CallRequest
  | call (views : CallViews) (answers : CallAnswers) (localId clientId : P2pId) (call : SnCall)
  | deliver (peers : PeerManager) (answers : CallAnswers) (call : SnCall) (localSnId : P2pId)
  | recycle (now clock : Timestamp)

/-- What an effect leaves in the stub. -/
def CallEffect.record (now : Timestamp) (stub : CallStub) : CallEffect → CallStub
  | .stubInserted remote seq _ => (stub.insert remote seq now).1
  | _ => stub

/-- The call that an effect sends. -/
def CallEffect.sends (fromPeerId : P2pId) : CallEffect → Option (P2pId × TunnelId × P2pId)
  | .called toPeerId request => some (fromPeerId, request.tunnelId, toPeerId)
  | _ => none

namespace CallDesk

def new (now : Timestamp) : CallDesk := ⟨∅, now, []⟩

/-- After a handler; what it has sent has arrived if the send succeeded. -/
def after {α : Type} (s : CallDesk) (answers : CallAnswers) (call : SnCall) (run : CallRun α) :
    CallDesk where
  stub := run.effects.foldl (CallEffect.record answers.now) s.stub
  lastRecycle := s.lastRecycle
  sent := s.sent ++
    if answers.send.isOk then run.effects.filterMap (CallEffect.sends call.fromPeerId) else []

def step (svc : SnService) (s : CallDesk) : CallRequest → CallDesk
  | .call views answers localId clientId call =>
    s.after answers call (svc.handleCall views s.stub answers localId clientId call)
  | .deliver peers answers call localSnId =>
    s.after answers call (svc.deliverCalledToLocalPeer peers s.stub answers call localSnId)
  | .recycle now clock =>
    { s with
      stub := s.stub.recycle s.lastRecycle now
      lastRecycle := if overdue s.lastRecycle now then clock else s.lastRecycle }

/-- The call was seen before. -/
def seen (s : CallDesk) (call : SnCall) : Bool :=
  !(s.stub.lookup (call.fromPeerId, call.tunnelId)).isNone

/-- An `SnCalled` for the call was sent. -/
def Sent (s : CallDesk) (call : SnCall) : Prop :=
  (call.fromPeerId, call.tunnelId, call.toPeerId) ∈ s.sent

end CallDesk

/-- The call has to be delivered to this target. -/
def SnCall.mustReach (call : SnCall) (toPeer : CachedPeerInfo) : Bool :=
  call.isAlwaysCall || !toPeer.isWan

/-- The handler has accepted the call. -/
def accepted (run : CallRun RelayCallOutcome) : Prop :=
  ∃ outcome, run.ended = .returned (.ok outcome) ∧ outcome.accepted = true

namespace SnService

variable (svc : SnService)

/-- The call passes the checks of `handle_call`, and the certificate of its target can be given. -/
def Admits (views : CallViews) (answers : CallAnswers) (clientId : P2pId) (call : SnCall)
    (toPeer : CachedPeerInfo) : Prop :=
  svc.checkClient views.atCert answers clientId call.peerInfo = .ok () ∧
    (views.atFrom.findPeer call.fromPeerId).isSome = true ∧
    (∃ desc, svc.fromPeerDesc views.atDesc call = .ok (some desc)) ∧
    toPeer.desc.getEncodedCert.isOk = true

/-- The same for `deliver_called_to_local_peer`. -/
def Relays (call : SnCall) (toPeer : CachedPeerInfo) : Prop :=
  (∃ info desc, call.peerInfo = some info ∧ svc.certFactory info = .ok desc) ∧
    toPeer.desc.getEncodedCert.isOk = true

end SnService

/-- If a request that has to be delivered comes to a stub that knows its key, it was sent before. -/
def Covered (svc : SnService) (s : CallDesk) (req : CallRequest) : Prop :=
  match req with
  | .call views answers _ clientId call =>
    ∀ toPeer, views.atTo.findPeer call.toPeerId = some toPeer → call.mustReach toPeer = true →
      svc.Admits views answers clientId call toPeer → s.seen call = true → s.Sent call
  | .deliver peers _ call _ =>
    ∀ toPeer, peers.findPeer call.toPeerId = some toPeer → call.mustReach toPeer = true →
      svc.Relays call toPeer → s.seen call = true → s.Sent call
  | .recycle .. => True

/-! ## The handlers -/

namespace SnService

variable {svc : SnService} {stub : CallStub} {answers : CallAnswers} {call : SnCall}
  {localId clientId : P2pId} {fromPeer toPeer : CachedPeerInfo} {desc : P2pIdentityCert}

end SnService

/-! ## Runs -/

namespace CallDesk

variable {svc : SnService} {s : CallDesk} {call : SnCall} {answers : CallAnswers}

end CallDesk

end BuckyP2p.Sn
