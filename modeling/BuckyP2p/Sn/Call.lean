import BuckyP2p.Sn.PeerManager

/-!
# BuckyP2p.Sn.Call — `handle_call` and `deliver_called_to_local_peer` (`sn/service/service.rs`)

A client asks its SN to call another peer; the SN sends an `SnCalled` to the peer if it serves it,
or relays the call to the SN that does.  `CallAnswers` holds what the service learns from others
while it handles one call: the validator, the observed endpoints of the client, the serving leases
and what the other SNs and the tunnels answer.  Between two awaits the peer manager may change, so
the four times at which `handle_call` reads it are the four fields of `CallViews`.
-/

namespace BuckyP2p.Sn

open Lib

/-! ## Messages -/

inductive TunnelType
  | datagram | stream
  deriving DecidableEq, Repr

structure NatTraversalContext where
  version : U8
  callerPeerId : P2pId
  calleePeerId : P2pId
  callerProfile : NatProfile
  calleeProfile : NatProfile
  deriving DecidableEq, Repr

structure SnCall where
  protocolVersion : U8
  stackVersion : U32
  seq : Sequence
  tunnelId : TunnelId
  snPeerId : P2pId
  toPeerId : P2pId
  fromPeerId : P2pId
  reverseEndpointArray : Option (List Endpoint)
  activePnList : Option (List P2pId)
  peerInfo : Option EncodedP2pIdentityCert
  sendTime : Timestamp
  callType : TunnelType
  payload : List U8
  isAlwaysCall : Bool
  natContext : Option NatTraversalContext
  deriving DecidableEq, Repr

structure SnCalled where
  seq : Sequence
  snPeerId : P2pId
  toPeerId : P2pId
  reverseEndpointArray : List Endpoint
  activePnList : List P2pId
  peerInfo : EncodedP2pIdentityCert
  tunnelId : TunnelId
  callSendTime : Timestamp
  callType : TunnelType
  payload : List U8
  natContext : Option NatTraversalContext
  deriving DecidableEq, Repr

structure SnCallResp where
  seq : Sequence
  snPeerId : P2pId
  result : U8
  toPeerInfo : Option EncodedP2pIdentityCert
  deriving DecidableEq, Repr

structure RelayCallOutcome where
  accepted : Bool
  toPeerInfo : Option EncodedP2pIdentityCert
  deriving DecidableEq, Repr

/-- `P2pErrorCode::Ok.into_u8()`. -/
def callOk : U8 := 0

/-- `P2pErrorCode::NotFound.into_u8()`. -/
def callNotFound : U8 := 4

/-! ## Endpoints -/

def pushUniqueEndpoint (endpoints : List Endpoint) (endpoint : Endpoint) : List Endpoint :=
  if endpoints.any fun e => e.eq endpoint then endpoints else endpoints ++ [endpoint]

def extendUniqueEndpoints (endpoints extras : List Endpoint) : List Endpoint :=
  extras.foldl pushUniqueEndpoint endpoints

def dedupEndpoints (endpoints : List Endpoint) : List Endpoint :=
  endpoints.foldl pushUniqueEndpoint []

def classifyObservedEndpoint (endpoint : Endpoint) (reportedEps : List Endpoint) : Endpoint :=
  if reportedEps.any fun e => e.protocol = endpoint.protocol && e.addr = endpoint.addr then
    { endpoint with area := .wan }
  else { endpoint with area := .serverReflexive }

/-- `SocketAddr::new(addr.ip(), port)`. -/
def withPort : SocketAddr → U16 → SocketAddr
  | .v4 ip _, port => .v4 ip port
  | .v6 segments _ _ _, port => .v6 segments port 0 0

def mappedEndpointFromObserved (ep : Endpoint) (protocol : Protocol) (port : U16) : Endpoint :=
  ⟨.mapped, protocol, withPort ep.addr port⟩

def isDirectObservedCandidate (endpoint : Endpoint) : Bool := endpoint.protocol ≠ .tcp

def observedEndpointCandidates (observedEp : List Endpoint) (mapPorts : List (Protocol × U16))
    (reportedEps : List Endpoint) : List Endpoint :=
  let remoteEp := (observedEp.filter isDirectObservedCandidate).map fun remote =>
    classifyObservedEndpoint remote reportedEps
  let mapEps := observedEp.foldl (fun mapEps ep =>
    mapPorts.foldl (fun mapEps (m : Protocol × U16) =>
      let mapEp := mappedEndpointFromObserved ep m.1 m.2
      if remoteEp.any (fun e => e.eq mapEp) || mapEps.any (fun e => e.eq mapEp) then mapEps
      else mapEps ++ [mapEp]) mapEps) []
  extendUniqueEndpoints remoteEp mapEps

def reportedEndpointsForPeer (peer : CachedPeerInfo) : List Endpoint :=
  extendUniqueEndpoints peer.desc.endpoints peer.localEps

/-! ## The service -/

/-- `CallStub`: when a call of a peer was last seen. -/
abbrev CallStub : Type := Table (P2pId × TunnelId) Timestamp

/-- `CallStub::insert`, and whether the call is new. -/
def CallStub.insert (stub : CallStub) (remote : P2pId) (seq : TunnelId) (now : Timestamp) :
    CallStub × Bool :=
  (AList.insert (remote, seq) now stub, (stub.lookup (remote, seq)).isNone)

structure SnConnectionValidateContext where
  clientId : P2pId
  clientCert : EncodedP2pIdentityCert
  deriving DecidableEq, Repr

inductive ValidateResult
  | accept
  | reject (reason : String)
  deriving DecidableEq, Repr

structure SnService where
  certFactory : CertFactory
  /-- `to_base36`, which prints an id. -/
  toBase36 : P2pId → String
  localSnId : Option P2pId

/-- What others answer while one call is handled. -/
structure CallAnswers where
  validate : SnConnectionValidateContext → P2pResult ValidateResult
  /-- `get_peer_observed_ep` of the client. -/
  observedEp : List Endpoint
  /-- `seq_generator.generate()`. -/
  calledSeq : Sequence
  /-- `SnCalled::to_vec`. -/
  encode : SnCalled → P2pResult (List U8)
  /-- `send_by_all_tunnels`. -/
  send : P2pResult Unit
  /-- The serving SNs of `query_serving_leases`. -/
  leases : List P2pId
  /-- `relay_call_to_sn` of the inter-SN client, if there is one. -/
  interSn : Option (P2pId → P2pResult RelayCallOutcome)
  now : Timestamp

/-- The peer manager at the four times at which `handle_call` looks into it. -/
structure CallViews where
  atCert : PeerManager
  atFrom : PeerManager
  atTo : PeerManager
  atDesc : PeerManager

inductive CallEffect
  | stubInserted (remote : P2pId) (seq : TunnelId) (isNew : Bool)
  | called (toPeerId : P2pId) (called : SnCalled)
  | relayed (servingSnId : P2pId) (call : SnCall)
  deriving DecidableEq, Repr

/-- How a handler ends; `unwrap` of an error panics. -/
inductive Ended (α : Type)
  | returned (result : P2pResult α)
  | panicked

/-- What a handler does, in order, and how it ends. -/
structure CallRun (α : Type) where
  effects : List CallEffect
  ended : Ended α

/-- The request that both handlers send, with what they move out of the call. -/
def SnCalled.ofCall (call : SnCall) (seq : Sequence) (snPeerId : P2pId)
    (peerInfo : EncodedP2pIdentityCert) : SnCalled where
  seq := seq
  snPeerId := snPeerId
  toPeerId := call.toPeerId
  reverseEndpointArray := dedupEndpoints (call.reverseEndpointArray.getD [])
  activePnList := call.activePnList.getD []
  peerInfo := peerInfo
  tunnelId := call.tunnelId
  callSendTime := call.sendTime
  callType := call.callType
  payload := call.payload
  natContext := call.natContext

namespace SnService

variable (svc : SnService)

def effectiveLocalSnId (localId : P2pId) : P2pId := svc.localSnId.getD localId

def clientCertFromRequestOrCache (peers : PeerManager) (clientId : P2pId)
    (requestCert : Option EncodedP2pIdentityCert) : P2pResult EncodedP2pIdentityCert :=
  match requestCert with
  | some cert => .ok cert
  | none =>
    match peers.findPeer clientId with
    | some cached => cached.desc.getEncodedCert
    | none => .error ⟨.permissionDenied, "sn client cert missing client=" ++ svc.toBase36 clientId⟩

def validateContextFromCert (clientId : P2pId) (clientCert : EncodedP2pIdentityCert) :
    P2pResult SnConnectionValidateContext :=
  match svc.certFactory clientCert with
  | .error e => .error e
  | .ok parsed =>
    if parsed.getId ≠ clientId then
      .error ⟨.permissionDenied, "sn client cert id mismatch client=" ++ svc.toBase36 clientId ++
        " cert=" ++ svc.toBase36 parsed.getId⟩
    else .ok ⟨clientId, clientCert⟩

def validateConnection (answers : CallAnswers) (ctx : SnConnectionValidateContext) :
    P2pResult Unit :=
  match answers.validate ctx with
  | .error e => .error e
  | .ok .accept => .ok ()
  | .ok (.reject reason) =>
    .error ⟨.permissionDenied, "sn connection validate failed client=" ++
      svc.toBase36 ctx.clientId ++ " reason=" ++ reason⟩

/-- The checks with which `handle_call` begins. -/
def checkClient (peers : PeerManager) (answers : CallAnswers) (clientId : P2pId)
    (requestCert : Option EncodedP2pIdentityCert) : P2pResult Unit := do
  let clientCert ← svc.clientCertFromRequestOrCache peers clientId requestCert
  let ctx ← svc.validateContextFromCert clientId clientCert
  svc.validateConnection answers ctx

def deliverCalledToLocalPeer (peers : PeerManager) (stub : CallStub) (answers : CallAnswers)
    (call : SnCall) (localSnId : P2pId) : CallRun RelayCallOutcome :=
  match peers.findPeer call.toPeerId with
  | none => ⟨[], .returned (.ok ⟨false, none⟩)⟩
  | some toPeer =>
    match call.peerInfo with
    | none => ⟨[], .returned (toPeer.desc.getEncodedCert.map fun info => ⟨false, some info⟩)⟩
    | some fromPeerInfo =>
      match svc.certFactory fromPeerInfo with
      | .error e => ⟨[], .returned (.error e)⟩
      | .ok fromPeerDesc =>
        let isNew := (stub.insert call.fromPeerId call.tunnelId answers.now).2
        let inserted := [CallEffect.stubInserted call.fromPeerId call.tunnelId isNew]
        let accepted := toPeer.desc.getEncodedCert.map fun info => (⟨true, some info⟩ : RelayCallOutcome)
        if isNew && (call.isAlwaysCall || !toPeer.isWan) then
          match fromPeerDesc.getEncodedCert with
          | .error e => ⟨inserted, .returned (.error e)⟩
          | .ok peerInfo =>
            let calledReq := SnCalled.ofCall call answers.calledSeq localSnId peerInfo
            match answers.encode calledReq with
            | .error e => ⟨inserted, .returned (.error e)⟩
            | .ok _ =>
              ⟨inserted ++ [.called call.toPeerId calledReq],
                .returned (answers.send.bind fun _ => accepted)⟩
        else ⟨inserted, .returned accepted⟩

/-- `relay_call_to_serving_sn` over the leases. -/
def relayCallToServingSn (answers : CallAnswers) (localSnId : P2pId) (call : SnCall) :
    List P2pId → List CallEffect × Option SnCallResp
  | [] => ([], none)
  | servingSnId :: leases =>
    if servingSnId = localSnId then relayCallToServingSn answers localSnId call leases
    else match answers.interSn with
      | none => relayCallToServingSn answers localSnId call leases
      | some relay =>
        let (effects, resp) := match relay servingSnId with
          | .ok outcome =>
            if outcome.accepted then
              ([], some ⟨call.seq, localSnId, callOk, outcome.toPeerInfo⟩)
            else relayCallToServingSn answers localSnId call leases
          | .error _ => relayCallToServingSn answers localSnId call leases
        (.relayed servingSnId call :: effects, resp)

def notFound (call : SnCall) (localId : P2pId) : SnCallResp := ⟨call.seq, localId, callNotFound, none⟩

/-- The certificate that `handle_call` sends as the caller's. -/
def fromPeerDesc (peers : PeerManager) (call : SnCall) : Except Unit (Option P2pIdentityCert) :=
  match call.peerInfo with
  | none => .ok ((peers.findPeer call.fromPeerId).map CachedPeerInfo.desc)
  | some info =>
    match svc.certFactory info with
    | .ok desc => .ok (some desc)
    | .error _ => .error ()

/-- `handle_call` of a call whose target is served here. -/
def callLocalPeer (stub : CallStub) (answers : CallAnswers) (localId : P2pId)
    (fromPeer toPeer : CachedPeerInfo) (fromPeerDesc : P2pIdentityCert) (call : SnCall) :
    CallRun SnCallResp :=
  let reverseEps := extendUniqueEndpoints (observedEndpointCandidates answers.observedEp
    fromPeer.mapPorts (reportedEndpointsForPeer fromPeer)) fromPeer.localEps
  let isNew := (stub.insert call.fromPeerId call.tunnelId answers.now).2
  let inserted := [CallEffect.stubInserted call.fromPeerId call.tunnelId isNew]
  let ok : Ended SnCallResp := match toPeer.desc.getEncodedCert with
    | .ok info => .returned (.ok ⟨call.seq, localId, callOk, some info⟩)
    | .error _ => .panicked
  if isNew && (call.isAlwaysCall || !toPeer.isWan) then
    match fromPeerDesc.getEncodedCert with
    | .error _ => ⟨inserted, .panicked⟩
    | .ok peerInfo =>
      let called := SnCalled.ofCall call answers.calledSeq localId peerInfo
      let called := { called with
        reverseEndpointArray := extendUniqueEndpoints called.reverseEndpointArray reverseEps }
      match answers.encode called with
      | .error e => ⟨inserted, .returned (.error e)⟩
      | .ok _ =>
        ⟨inserted ++ [.called call.toPeerId called],
          match answers.send with
          | .error e => .returned (.error e)
          | .ok _ => ok⟩
  else ⟨inserted, ok⟩

def handleCall (views : CallViews) (stub : CallStub) (answers : CallAnswers)
    (localId clientId : P2pId) (call : SnCall) : CallRun SnCallResp :=
  match svc.checkClient views.atCert answers clientId call.peerInfo with
  | .error e => ⟨[], .returned (.error e)⟩
  | .ok () =>
    match views.atFrom.findPeer call.fromPeerId with
    | none => ⟨[], .returned (.ok (notFound call localId))⟩
    | some fromPeer =>
      match views.atTo.findPeer call.toPeerId with
      | none =>
        let (effects, resp) := relayCallToServingSn answers (svc.effectiveLocalSnId localId) call
          answers.leases
        ⟨effects, .returned (.ok (resp.getD (notFound call localId)))⟩
      | some toPeer =>
        match svc.fromPeerDesc views.atDesc call with
        | .error () => ⟨[], .panicked⟩
        | .ok none => ⟨[], .returned (.ok (notFound call localId))⟩
        | .ok (some desc) => callLocalPeer stub answers localId fromPeer toPeer desc call

end SnService

end BuckyP2p.Sn
