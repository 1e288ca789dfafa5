import BuckyP2p.Base

/-!
# BuckyP2p.Rendezvous.Message — endpoints and rendezvous messages

`Endpoint` of `endpoint.rs` and the rendezvous request and response of `sn/protocol/sn.rs`, with
their `validate`.  The address predicates are those of `std::net::Ipv4Addr`; the feature
`test-real-socket-matrix`, which no release build enables, is off.

Two endpoints are `==` when protocol and address agree: the area is not compared, so requests that
differ only in the areas of their endpoints are `==`.  The set of `validate_rendezvous_endpoints`
hashes the area too, so it tells such endpoints apart.
-/

namespace BuckyP2p

inductive Protocol
  | ext (value : U8)
  | tcp
  | quic
  deriving DecidableEq, Repr

inductive EndpointArea
  | lan | serverReflexive | wan | mapped
  deriving DecidableEq, Repr

structure Ipv4Addr where
  a : U8
  b : U8
  c : U8
  d : U8
  deriving DecidableEq, Repr

namespace Ipv4Addr

def isPrivate (ip : Ipv4Addr) : Bool :=
  ip.a = 10 ∨ (ip.a = 172 ∧ 16 ≤ ip.b ∧ ip.b ≤ 31) ∨ (ip.a = 192 ∧ ip.b = 168)

def isLoopback (ip : Ipv4Addr) : Bool := ip.a = 127

def isLinkLocal (ip : Ipv4Addr) : Bool := ip.a = 169 ∧ ip.b = 254

def isUnspecified (ip : Ipv4Addr) : Bool := ip = ⟨0, 0, 0, 0⟩

def isBroadcast (ip : Ipv4Addr) : Bool := ip = ⟨255, 255, 255, 255⟩

def isMulticast (ip : Ipv4Addr) : Bool := 224 ≤ ip.a ∧ ip.a ≤ 239

end Ipv4Addr

inductive SocketAddr
  | v4 (ip : Ipv4Addr) (port : U16)
  | v6 (segments : Vector U16 8) (port : U16) (flowinfo scopeId : U32)
  deriving DecidableEq, Repr

/-- `std::net::IpAddr`. -/
inductive IpAddr
  | v4 (ip : Ipv4Addr)
  | v6 (segments : Vector U16 8)
  deriving DecidableEq, Repr

def SocketAddr.ip : SocketAddr → IpAddr
  | .v4 ip _ => .v4 ip
  | .v6 segments _ _ _ => .v6 segments

def SocketAddr.port : SocketAddr → U16
  | .v4 _ port => port
  | .v6 _ port _ _ => port

def isNonLanIpv4Addr : SocketAddr → Bool
  | .v4 ip _ =>
    !ip.isPrivate && !ip.isLoopback && !ip.isLinkLocal && !ip.isUnspecified && !ip.isBroadcast &&
      !ip.isMulticast
  | .v6 .. => false

structure Endpoint where
  area : EndpointArea
  protocol : Protocol
  addr : SocketAddr
  deriving DecidableEq, Repr

/-- `PartialEq for Endpoint`. -/
def Endpoint.eq (x y : Endpoint) : Bool := x.protocol = y.protocol ∧ x.addr = y.addr

def rendezvousIpv4Eligible (addr : SocketAddr) : Bool := isNonLanIpv4Addr addr

def rendezvousEligibleArea (e : Endpoint) : Bool :=
  rendezvousIpv4Eligible e.addr && e.area = .serverReflexive

def rendezvousReverseConnectEligibleArea (e : Endpoint) : Bool :=
  rendezvousIpv4Eligible e.addr &&
    (e.area = .serverReflexive || e.area = .wan || e.area = .mapped)

inductive SnTunnelRendezvousOperation
  | punchOnly | punchAndReverseConnect | reverseConnectOnly | waitIncoming
  deriving DecidableEq, Repr

namespace SnTunnelRendezvousOperation

def requiresEndpoints : SnTunnelRendezvousOperation → Bool
  | .waitIncoming => false
  | _ => true

def punches : SnTunnelRendezvousOperation → Bool
  | .punchOnly | .punchAndReverseConnect => true
  | _ => false

def reverseConnects : SnTunnelRendezvousOperation → Bool
  | .punchAndReverseConnect | .reverseConnectOnly => true
  | _ => false

end SnTunnelRendezvousOperation

structure SnTunnelRendezvous where
  seq : Sequence
  tunnelId : TunnelId
  toPeerId : P2pId
  operation : SnTunnelRendezvousOperation
  endPointArray : List Endpoint
  needPredictEndpoint : Bool
  deriving DecidableEq, Repr

structure SnTunnelRendezvousResp where
  seq : Sequence
  result : U8
  predictedEndpointArray : List Endpoint
  deriving DecidableEq, Repr

/-- The derived `PartialEq`, which compares the endpoints with `Endpoint.eq`. -/
def SnTunnelRendezvous.eq (x y : SnTunnelRendezvous) : Bool :=
  x.seq = y.seq ∧ x.tunnelId = y.tunnelId ∧ x.toPeerId = y.toPeerId ∧ x.operation = y.operation ∧
    List.Forall₂ (fun e f => e.eq f = true) x.endPointArray y.endPointArray ∧
    x.needPredictEndpoint = y.needPredictEndpoint

def maxSnTunnelRendezvousEndpoints : Nat := 8

/-- The loop of `validate_rendezvous_endpoints`, with the endpoints it has inserted. -/
def validateRendezvousEndpoints.loop (transport : Option Protocol)
    (operation : SnTunnelRendezvousOperation) : List Endpoint → List Endpoint → P2pResult Unit
  | [], _ => .ok ()
  | e :: rest, unique =>
    let eligibleArea :=
      if operation.reverseConnects then rendezvousReverseConnectEligibleArea e
      else rendezvousEligibleArea e
    if some e.protocol ≠ transport ∨ (e.protocol ≠ .quic ∧ e.protocol ≠ .tcp) ∨ !eligibleArea ∨
        e.addr.port = 0 ∨ e ∈ unique then
      .error ⟨.invalidParam, "invalid or duplicate rendezvous endpoint"⟩
    else loop transport operation rest (e :: unique)

def validateRendezvousEndpoints (endpoints : List Endpoint)
    (operation : SnTunnelRendezvousOperation) : P2pResult Unit :=
  if maxSnTunnelRendezvousEndpoints < endpoints.length then
    .error ⟨.outOfLimit, "rendezvous endpoint count exceeds 8"⟩
  else if operation.requiresEndpoints ≠ !endpoints.isEmpty then
    .error ⟨.invalidParam, "rendezvous operation/endpoint mismatch"⟩
  else
    let transport := endpoints.head?.map Endpoint.protocol
    if operation.punches ∧ transport ≠ some .quic then
      .error ⟨.invalidParam, "rendezvous punch operation requires QUIC endpoints"⟩
    else validateRendezvousEndpoints.loop transport operation endpoints []

def SnTunnelRendezvous.validate (r : SnTunnelRendezvous) : P2pResult Unit :=
  if r.seq = 0 then .error ⟨.invalidParam, "rendezvous sequence must not be zero"⟩
  else validateRendezvousEndpoints r.endPointArray r.operation

namespace SnTunnelRendezvousResp

/-- `P2pErrorCode::Ok` and `P2pErrorCode::Failed` as `u8`. -/
def resultOk : U8 := 0

def resultFailed : U8 := 1

def success (seq : Sequence) (endpoints : List Endpoint) : SnTunnelRendezvousResp :=
  ⟨seq, resultOk, endpoints⟩

def failure (seq : Sequence) : SnTunnelRendezvousResp := ⟨seq, resultFailed, []⟩

def isSuccess (r : SnTunnelRendezvousResp) : Bool := r.result = resultOk

def validate (r : SnTunnelRendezvousResp) (expectedSeq : Sequence) (needPredictEndpoint : Bool) :
    P2pResult Unit :=
  if r.seq ≠ expectedSeq then .error ⟨.unmatch, "rendezvous response sequence mismatch"⟩
  else if r.result ≠ resultOk ∧ r.result ≠ resultFailed then
    .error ⟨.invalidData, "invalid rendezvous result"⟩
  else if !r.isSuccess then
    if !r.predictedEndpointArray.isEmpty then
      .error ⟨.invalidData, "failed rendezvous response contains endpoints"⟩
    else .ok ()
  else if needPredictEndpoint ≠ !r.predictedEndpointArray.isEmpty then
    .error ⟨.invalidData, "rendezvous prediction response does not match request"⟩
  else if needPredictEndpoint then
    validateRendezvousEndpoints r.predictedEndpointArray .punchOnly
  else .ok ()

/-- A response to a request that asked for no prediction carries no endpoints. -/
theorem validate_no_predict {r : SnTunnelRendezvousResp} {seq : Sequence}
    (h : r.validate seq false = .ok ()) : r.predictedEndpointArray = [] := by
  unfold validate at h
  simp only [Bool.false_eq_true, if_false] at h
  split_ifs at h with h1 h2 h3 h4 h5
  · simpa using h4
  · simpa using (not_ne_iff.mp h5).symm

end SnTunnelRendezvousResp

/-- Requests that are `==` have the same key fields and ask for the same kind of answer. -/
theorem SnTunnelRendezvous.eq_fields {x y : SnTunnelRendezvous} (h : x.eq y = true) :
    x.seq = y.seq ∧ x.tunnelId = y.tunnelId ∧ x.toPeerId = y.toPeerId ∧
      x.needPredictEndpoint = y.needPredictEndpoint := by
  have h' := of_decide_eq_true h
  exact ⟨h'.1, h'.2.1, h'.2.2.1, h'.2.2.2.2.2⟩

theorem Endpoint.eq_self (e : Endpoint) : e.eq e = true := by simp [Endpoint.eq]

theorem SnTunnelRendezvous.eq_self (r : SnTunnelRendezvous) : r.eq r = true := by
  have hall : ∀ l : List Endpoint, List.Forall₂ (fun e f => Endpoint.eq e f = true) l l := by
    intro l
    induction l with
    | nil => exact .nil
    | cons e l ih => exact .cons (Endpoint.eq_self e) ih
  simpa [SnTunnelRendezvous.eq] using hall r.endPointArray

end BuckyP2p
