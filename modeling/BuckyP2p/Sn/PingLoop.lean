import BuckyP2p.Sn.Ipv6Area
import BuckyP2p.Sn.Messages
import BuckyP2p.Tls.Verifiers
import Mathlib.Data.List.Sort

/-!
# BuckyP2p.Sn.PingLoop — the ping loop of an SN client (`sn/client/sn_service.rs`)

An iteration of `ping_proc` either refreshes the SNs in `active_sn_list`, or, where that is empty,
registers with those of the SN list.  `World` is what it does not decide: what its reports and probes
come back with, and what the clock reads; `turn` counts what was asked of it.

`log` keeps what the loop did.  No other task writes the list while the loop runs: `stop` ends the
loop and then clears it, and a loop that is ended has done what the log had till then.
-/

namespace BuckyP2p

def SocketAddr.setPort : SocketAddr → U16 → SocketAddr
  | .v4 ip _, port => .v4 ip port
  | .v6 segments _ flowinfo scopeId, port => .v6 segments port flowinfo scopeId

def IpAddr.isUnspecified : IpAddr → Bool
  | .v4 ip => ip.isUnspecified
  | .v6 segments => Ipv6Addr.isUnspecified segments

namespace Sn

open Lib NatProbe

/-- `SN_ACTIVE_REPORT_REFRESH_INTERVAL`, ten minutes. -/
def snActiveReportRefreshInterval : Nat := 600000000

/-- `NAT_CLIENT_PROBE_PERIOD`, two hours. -/
def natClientProbePeriod : Timestamp := 7200000000

def snReportStreamFailureEvictThreshold : U32 := 2

/-! ## Candidates -/

def snClientProtocolPriority : Protocol → U8
  | .quic => 0
  | .tcp => 1
  | .ext _ => 2

def snClientLocalEpForProtocol (protocol : Protocol) (localEp : Endpoint) : Option Endpoint :=
  if protocol ≠ .tcp then some localEp
  else if localEp.addr.ip.isUnspecified then none
  else some { localEp with addr := localEp.addr.setPort 0 }

/-- The loop over the protocols of the networks. -/
def addProtocols (candidates : List (Protocol × List (Option Endpoint))) :
    List Protocol → List (Protocol × List (Option Endpoint))
  | [] => candidates
  | protocol :: rest =>
    addProtocols (if candidates.any (·.1 = protocol) then candidates
      else candidates ++ [(protocol, [none])]) rest

/-- Of a listener only the local endpoint counts. -/
def snClientProtocolCandidates (listenerEntries : List (Protocol × List Endpoint))
    (supportedProtocols : List Protocol) : List (Protocol × List (Option Endpoint)) :=
  let candidates := listenerEntries.map fun (protocol, listeners) =>
    (protocol, if listeners.isEmpty then [none]
      else listeners.map (snClientLocalEpForProtocol protocol))
  (addProtocols candidates supportedProtocols).insertionSort
    fun x y => snClientProtocolPriority x.1 ≤ snClientProtocolPriority y.1

structure SnTunnelClassification where
  localEp : Option Endpoint
  remoteEp : Endpoint
  deriving DecidableEq

structure P2pSn where
  id : P2pId
  endpoints : List Endpoint
  deriving DecidableEq

/-- The endpoints of the SN, in the order in which the three loops of `ping_proc` come to them. -/
def P2pSn.classifications (sn : P2pSn) (candidates : List (Protocol × List (Option Endpoint))) :
    List SnTunnelClassification :=
  candidates.flatMap fun (protocol, localEps) =>
    (sn.endpoints.filter (·.protocol = protocol)).flatMap fun snEp =>
      localEps.map fun localEp => ⟨localEp, snEp⟩

/-! ## Directives -/

inductive NatProbeDirectiveRejectReason
  | transportNotUdp | activeEndpointProtocol | activeEndpointIpv4 | activeEndpointAddress
  | versionUnsupported | snMismatch | peerMismatch | deadlineExpired | replay | portCount | portZero
  | portDuplicate
  deriving DecidableEq, Repr

def validateNatProbeTarget (activeProtocol : Protocol) (snEndpoint : Endpoint) :
    Except NatProbeDirectiveRejectReason Ipv4Addr :=
  if activeProtocol = .tcp then .error .transportNotUdp
  else if snEndpoint.protocol ≠ activeProtocol then .error .activeEndpointProtocol
  else match snEndpoint.addr.ip with
    | .v6 _ => .error .activeEndpointIpv4
    | .v4 ip =>
      if ip.isUnspecified || ip.isMulticast || ip.isBroadcast then .error .activeEndpointAddress
      else .ok ip

/-- The loop over the ports, with those it has seen. -/
def validatePortsFrom (unique : List U16) : List U16 → Except NatProbeDirectiveRejectReason Unit
  | [] => .ok ()
  | port :: rest =>
    if port = 0 then .error .portZero
    else if port ∈ unique then .error .portDuplicate
    else validatePortsFrom (port :: unique) rest

def validateNatProbePorts (ports : List U16) : Except NatProbeDirectiveRejectReason Unit :=
  if ports.length < 2 ∨ maxNatProbeEndpoints < ports.length then .error .portCount
  else validatePortsFrom [] ports

def buildNatProbeEndpoints (activeProtocol : Protocol) (snEndpoint : Endpoint) (ports : List U16) :
    Except NatProbeDirectiveRejectReason (List Endpoint) :=
  match validateNatProbeTarget activeProtocol snEndpoint with
  | .error reason => .error reason
  | .ok ip =>
    match validateNatProbePorts ports with
    | .error reason => .error reason
    | .ok () => .ok (ports.map fun port => ⟨.wan, activeProtocol, .v4 ip port⟩)

def validateProbeDirective (activeSnId localPeerId : P2pId) (activeProtocol : Protocol)
    (activeSnEndpoint : Endpoint) (lastRegistrationGeneration lastRequestId : U64) (now : Timestamp)
    (directive : NatProbeDirective) : Except NatProbeDirectiveRejectReason (List Endpoint) :=
  let replayed := directive.registrationGeneration < lastRegistrationGeneration ||
    (directive.registrationGeneration = lastRegistrationGeneration &&
      directive.requestId ≤ lastRequestId)
  if activeProtocol = .tcp then .error .transportNotUdp
  else if directive.version ≠ natProbeControlVersion then .error .versionUnsupported
  else if directive.snPeerId ≠ activeSnId then .error .snMismatch
  else if directive.peerId ≠ localPeerId then .error .peerMismatch
  else if directive.expiresAt < now then .error .deadlineExpired
  else if replayed then .error .replay
  else buildNatProbeEndpoints activeProtocol activeSnEndpoint directive.ports

def resultFromDirective (directive : NatProbeDirective) (profile : NatProfile) : NatProbeResult :=
  ⟨directive.version, directive.snPeerId, directive.peerId, directive.registrationGeneration,
    directive.requestId, directive.probeConfigGeneration, profile⟩

/-! ## The service -/

structure ActiveSN where
  snPeerId : P2pId
  latestTime : U64
  protocol : Protocol
  snEndpoint : Endpoint
  wanEpList : List Endpoint
  natProbeEndpoints : List Endpoint
  natProbeSigner : Option Tls.P2pIdentityCert
  netProfile : NatProfile
  natProbeRegistrationGeneration : U64
  lastNatProbeRequestId : U64
  nextProbeAt : U64

/-- The flag says whether it was published. -/
def publishActiveSn (activeSnList : List ActiveSN) (activeSn : ActiveSN) : List ActiveSN × Bool :=
  if activeSnList.any (·.snPeerId = activeSn.snPeerId) then (activeSnList, false)
  else (activeSnList ++ [activeSn], true)

/-- The first one of the id is updated, the flag says whether there is one. -/
def updateActiveSn (snPeerId : P2pId) (update : ActiveSN → ActiveSN) :
    List ActiveSN → List ActiveSN × Bool
  | [] => ([], false)
  | activeSn :: rest =>
    if activeSn.snPeerId = snPeerId then (update activeSn :: rest, true)
    else
      let (rest, found) := updateActiveSn snPeerId update rest
      (activeSn :: rest, found)

/-- `now.saturating_sub(SN_ACTIVE_REPORT_REFRESH_INTERVAL + 1)`. -/
def overdueSince (now : U64) : U64 := ⟨now.val - (snActiveReportRefreshInterval + 1), by omega⟩

def activeSnDueReport (forceInitialReport : Bool) (latestTime now : U64) : Bool :=
  forceInitialReport || snActiveReportRefreshInterval < now.val - latestTime.val

/-- The list, and those that are due. -/
def collectDueActiveSns (activeSnList : List ActiveSN) (forceInitialReport : Bool) (now : U64) :
    List ActiveSN × List ActiveSN :=
  let refreshed := activeSnList.map fun activeSn =>
    if activeSnDueReport forceInitialReport activeSn.latestTime now then
      ({ activeSn with latestTime := now }, true)
    else (activeSn, false)
  (refreshed.map (·.1), (refreshed.filter (·.2)).map (·.1))

/-- What a report comes to: there may be no stream for it, and there may be no response to it (none
of the SN and the sequence number of the report). -/
inductive ReportOutcome
  | noStream
  | noResponse
  | response (resp : ReportSnResp)

/-- `profiles` is `none` where the network cannot probe or the probe fails. -/
structure World where
  localId : P2pId
  certFactory : Tls.P2pIdentityCertFactory
  reports : Nat → ReportOutcome
  profiles : Nat → Option NatProfile
  clock : Nat → Timestamp

inductive PingEvent
  /-- A report is attempted. -/
  | attempted (snPeerId : P2pId) (classification : SnTunnelClassification)
    (netProfile : Option NatProfile) (natProbeResult : Option NatProbeResult)
  | published (activeSn : ActiveSN)
  /-- `remove_active_sn` was called. -/
  | removed (snPeerId : P2pId)
  /-- A directive is accepted, at `now`, and executed. -/
  | executed (snPeerId : P2pId) (directive : NatProbeDirective) (now : Timestamp)
    (endpoints : List Endpoint)
  /-- The endpoints are given to their network, if there is one, to be probed. -/
  | probed (snPeerId : P2pId) (endpoints : List Endpoint)
  /-- `nat_probe_endpoints` is set. -/
  | stored (snPeerId : P2pId) (endpoints : List Endpoint)

structure SNServiceState where
  activeSnList : List ActiveSN
  latestSnInterval : U64
  firstReportPending : Bool
  reportStreamFailures : Table P2pId U32

structure SNClientService where
  state : SNServiceState
  turn : Nat
  log : List PingEvent

namespace SNClientService

variable (w : World) (s : SNClientService)

def record (event : PingEvent) : SNClientService := { s with log := s.log ++ [event] }

/-- The world was asked. -/
def next : SNClientService := { s with turn := s.turn + 1 }

def setActive (activeSnList : List ActiveSN) : SNClientService :=
  { s with state := { s.state with activeSnList } }

def updateActive (snPeerId : P2pId) (update : ActiveSN → ActiveSN) : SNClientService × Bool :=
  let (activeSnList, found) := updateActiveSn snPeerId update s.state.activeSnList
  (s.setActive activeSnList, found)

def setFailures (reportStreamFailures : Table P2pId U32) : SNClientService :=
  { s with state := { s.state with reportStreamFailures } }

def removeActiveSn (snPeerId : P2pId) : SNClientService :=
  ((s.setActive (s.state.activeSnList.filter (·.snPeerId ≠ snPeerId))).setFailures
    (s.state.reportStreamFailures.erase snPeerId)).record (.removed snPeerId)

def recordReportStreamFailure (snPeerId : P2pId) : SNClientService :=
  let count := (s.state.reportStreamFailures.lookup snPeerId).getD 0
  let failures : U32 := ⟨min (count.val + 1) (2 ^ 32 - 1), by omega⟩
  let s := s.setFailures (s.state.reportStreamFailures.insert snPeerId failures)
  if snReportStreamFailureEvictThreshold ≤ failures then s.removeActiveSn snPeerId
  else
    (s.updateActive snPeerId ({ · with
      latestTime := overdueSince (w.clock s.turn) })).1.next

def clearReportStreamFailure (snPeerId : P2pId) : SNClientService :=
  s.setFailures (s.state.reportStreamFailures.erase snPeerId)

def report (classification : SnTunnelClassification) (snPeerId : P2pId)
    (netProfile : Option NatProfile) (natProbeResult : Option NatProbeResult) :
    SNClientService × Option ReportSnResp :=
  let asked := (s.record (.attempted snPeerId classification netProfile natProbeResult)).next
  match w.reports s.turn with
  | .noStream => (asked.recordReportStreamFailure w snPeerId, none)
  | .noResponse => (asked.clearReportStreamFailure snPeerId, none)
  | .response resp => (asked.clearReportStreamFailure snPeerId, some resp)

def validateNatProbeSigner (expectedSnId : P2pId) (peerInfo : Option EncodedP2pIdentityCert) :
    Option Tls.P2pIdentityCert :=
  match peerInfo with
  | none => none
  | some peerInfo =>
    match w.certFactory peerInfo with
    | .error _ => none
    | .ok cert =>
      if cert.getId ≠ expectedSnId then none
      else if cert.verifyCert cert.getName then some cert
      else none

/-- `probe_endpoints` and `probe_local`. -/
def probe (snPeerId : P2pId) (endpoints : List Endpoint) (expectedSigner : Option Tls.P2pIdentityCert) :
    SNClientService × NatProfile :=
  match expectedSigner with
  | none => (s, .unknown)
  | some _ => ((s.record (.probed snPeerId endpoints)).next, (w.profiles s.turn).getD .unknown)

/-- The update of `apply_completed_probe`.  `mark` is `registration_generation` and `request_id`,
which are always given together. -/
def completed (mark : Option (U64 × U64)) (profile : NatProfile) (now : Timestamp)
    (current : ActiveSN) : ActiveSN :=
  let current := match mark with
    | none => current
    | some (registrationGeneration, requestId) =>
      { current with
        natProbeRegistrationGeneration := registrationGeneration
        lastNatProbeRequestId := requestId }
  { current with
    netProfile := profile
    nextProbeAt := now + natClientProbePeriod }

def applyCompletedProbe (snPeerId : P2pId) (mark : Option (U64 × U64)) (profile : NatProfile) :
    SNClientService :=
  (s.updateActive snPeerId (completed mark profile (w.clock s.turn))).1.next

def probeLocalIfDue (activeSn : ActiveSN) : SNClientService × Option NatProfile :=
  if w.clock s.turn < activeSn.nextProbeAt then (s.next, none)
  else
    let (s, profile) :=
      s.next.probe w activeSn.snPeerId activeSn.natProbeEndpoints activeSn.natProbeSigner
    (s.applyCompletedProbe w activeSn.snPeerId none profile, some profile)

def executeProbeDirective (activeSnId : P2pId) (activeProtocol : Protocol)
    (activeSnEndpoint : Endpoint) (lastRegistrationGeneration lastRequestId : U64)
    (expectedSigner : Option Tls.P2pIdentityCert) (directive : Option NatProbeDirective) :
    SNClientService × Option NatProbeResult :=
  match directive with
  | none => (s, none)
  | some directive =>
    match validateProbeDirective activeSnId w.localId activeProtocol activeSnEndpoint
      lastRegistrationGeneration lastRequestId (w.clock s.turn) directive with
    | .error _ => (s.next, none)
    | .ok endpoints =>
      let accepted := s.next.record (.executed activeSnId directive (w.clock s.turn) endpoints)
      let (s, profile) := accepted.probe w activeSnId endpoints expectedSigner
      (s, some (resultFromDirective directive profile))

/-- `build_nat_probe_endpoints(..).unwrap_or_default()`. -/
def endpointsOrNone (protocol : Protocol) (snEndpoint : Endpoint) (ports : List U16) :
    List Endpoint :=
  match buildNatProbeEndpoints protocol snEndpoint ports with
  | .error _ => []
  | .ok endpoints => endpoints

def publish (activeSn : ActiveSN) : SNClientService :=
  let (activeSnList, published) := publishActiveSn s.state.activeSnList activeSn
  let s := s.setActive activeSnList
  if published then s.record (.published activeSn) else s

/-- What a response says of the SN is stored. -/
def store (snPeerId : P2pId) (protocol : Protocol) (snEndpoint : Endpoint) (resp : ReportSnResp) :
    SNClientService :=
  let natProbeEndpoints := endpointsOrNone protocol snEndpoint resp.natProbePorts
  let (s, found) := s.updateActive snPeerId fun current =>
    { current with
      natProbeEndpoints
      natProbeSigner := validateNatProbeSigner w snPeerId resp.peerInfo
      wanEpList := resp.endPointArray }
  if found then s.record (.stored snPeerId natProbeEndpoints) else s

/-- The result of a directive is noted, and reported. -/
def reportResult (classification : SnTunnelClassification) (snPeerId : P2pId)
    (result : NatProbeResult) : SNClientService × Option ReportSnResp :=
  (s.applyCompletedProbe w snPeerId (some (result.registrationGeneration, result.requestId))
    result.profile).report w classification snPeerId (some result.profile) (some result)

/-- An SN that is refreshed has answered.  What is stored is the answer to the result, if it comes. -/
def refreshed (activeSn : ActiveSN) (resp : ReportSnResp) : SNClientService :=
  let signer := validateNatProbeSigner w activeSn.snPeerId resp.peerInfo
  let (s, accepted) := s.executeProbeDirective w activeSn.snPeerId activeSn.protocol
    activeSn.snEndpoint activeSn.natProbeRegistrationGeneration activeSn.lastNatProbeRequestId
    signer resp.natProbeDirective
  match accepted with
  | none => s.store w activeSn.snPeerId activeSn.protocol activeSn.snEndpoint resp
  | some result =>
    let (s, followUp) := s.reportResult w ⟨none, activeSn.snEndpoint⟩ activeSn.snPeerId result
    s.store w activeSn.snPeerId activeSn.protocol activeSn.snEndpoint (followUp.getD resp)

/-- The turn of the loop over the SNs that are due. -/
def refresh (activeSn : ActiveSN) : SNClientService :=
  let (s, profile) := s.probeLocalIfDue w activeSn
  let reportProfile := profile.getD activeSn.netProfile
  let (s, answer) :=
    s.report w ⟨none, activeSn.snEndpoint⟩ activeSn.snPeerId (some reportProfile) none
  match answer with
  | none => s
  | some resp => s.refreshed w activeSn resp

/-- The entry of an SN that has answered its first report; the clock is read twice. -/
def newActiveSn (sn : P2pSn) (snEp : Endpoint) (resp : ReportSnResp) : ActiveSN where
  snPeerId := sn.id
  latestTime := w.clock s.turn
  protocol := snEp.protocol
  snEndpoint := snEp
  wanEpList := resp.endPointArray
  natProbeEndpoints := endpointsOrNone snEp.protocol snEp resp.natProbePorts
  natProbeSigner := validateNatProbeSigner w sn.id resp.peerInfo
  netProfile := .unknown
  natProbeRegistrationGeneration := 0
  lastNatProbeRequestId := 0
  nextProbeAt := w.clock (s.turn + 1)

/-- Without a directive to execute, the ports of the response are probed. -/
def probeFirst (snPeerId : P2pId) (snEp : Endpoint) (resp : ReportSnResp) : SNClientService :=
  let (s, profile) := s.probe w snPeerId
    (endpointsOrNone snEp.protocol snEp resp.natProbePorts)
    (validateNatProbeSigner w snPeerId resp.peerInfo)
  s.applyCompletedProbe w snPeerId none profile

/-- An SN has answered its first report. -/
def registered (sn : P2pSn) (classification : SnTunnelClassification) (resp : ReportSnResp) :
    SNClientService :=
  let snEp := classification.remoteEp
  let s := s.next.next.publish (s.newActiveSn w sn snEp resp)
  let (s, accepted) := s.executeProbeDirective w sn.id snEp.protocol snEp 0 0
    (validateNatProbeSigner w sn.id resp.peerInfo) resp.natProbeDirective
  match accepted with
  | none => s.probeFirst w sn.id snEp resp
  | some result =>
    let (s, followUp) := s.reportResult w classification sn.id result
    match followUp with
    | none => s
    | some resp => s.store w sn.id snEp.protocol snEp resp

/-- The loops over the endpoints of an SN: the first report that is answered ends all three. -/
def register (sn : P2pSn) : SNClientService → List SnTunnelClassification → SNClientService
  | s, [] => s
  | s, classification :: rest =>
    let (s, answer) := s.report w classification sn.id none none
    match answer with
    | none => register sn s rest
    | some resp => s.registered w sn classification resp

/-- What an iteration of `ping_proc` reads of its surroundings. -/
structure Iteration where
  snList : List P2pSn
  listenerEntries : List (Protocol × List Endpoint)
  protocols : List Protocol

def Iteration.candidates (it : Iteration) : List (Protocol × List (Option Endpoint)) :=
  snClientProtocolCandidates it.listenerEntries it.protocols

/-- The first region of an iteration: how long it sleeps is left out of what it returns. -/
def beginIteration : SNClientService × Nat × Bool :=
  let latestSnInterval :=
    if 0 < s.state.activeSnList.length then 10
    else min 600 (if s.state.latestSnInterval = 0 ∨ s.state.latestSnInterval = 10 then 1
      else s.state.latestSnInterval * 2)
  ({ s with state := { s.state with latestSnInterval, firstReportPending := false } },
    s.state.activeSnList.length, s.state.firstReportPending)

/-- An iteration of the loop of `ping_proc`. -/
def pingProc (it : Iteration) : SNClientService :=
  let (s, activeSnCount, forceInitialReport) := s.beginIteration
  if 0 < activeSnCount then
    let (activeSnList, due) :=
      collectDueActiveSns s.state.activeSnList forceInitialReport (w.clock s.turn)
    due.foldl (refresh w) (s.setActive activeSnList).next
  else
    it.snList.foldl (fun s sn => register w sn s (sn.classifications it.candidates)) s

/-! ## What a function is about -/

def entry (s : SNClientService) (snPeerId : P2pId) : Option ActiveSN :=
  s.state.activeSnList.find? (·.snPeerId = snPeerId)

end SNClientService

/-- Whom the event is about. -/
def PingEvent.snPeerId : PingEvent → P2pId
  | .attempted id .. | .removed id | .executed id .. | .probed id _ | .stored id _ => id
  | .published activeSn => activeSn.snPeerId

theorem updateActiveSn_find_self {id : P2pId} {update : ActiveSN → ActiveSN}
    (hid : ∀ a, (update a).snPeerId = a.snPeerId) (l : List ActiveSN) :
    (updateActiveSn id update l).1.find? (·.snPeerId = id) =
      (l.find? (·.snPeerId = id)).map update := by
  induction l with
  | nil => rfl
  | cons a rest ih =>
    unfold updateActiveSn
    by_cases ha : a.snPeerId = id
    · simp [ha, hid]
    · simpa [ha] using ih

theorem updateActiveSn_find_ne {id other : P2pId} {update : ActiveSN → ActiveSN}
    (hid : ∀ a, (update a).snPeerId = a.snPeerId) (hne : other ≠ id) (l : List ActiveSN) :
    (updateActiveSn id update l).1.find? (·.snPeerId = other) =
      l.find? (·.snPeerId = other) := by
  induction l with
  | nil => rfl
  | cons a rest ih =>
    unfold updateActiveSn
    by_cases ha : a.snPeerId = id
    · simp [ha, hid, hne.symm]
    · by_cases hother : a.snPeerId = other
      · simp [hother, hne]
      · simpa [ha, hother] using ih

namespace SNClientService

/-- What was done is about one SN, and the entries of the others are as they were. -/
structure About (id : P2pId) (s t : SNClientService) : Prop where
  log : ∃ events, t.log = s.log ++ events ∧ ∀ e ∈ events, e.snPeerId = id
  entry : ∀ other, other ≠ id → t.entry other = s.entry other

section Frames

variable {w : World} {s t u : SNClientService} {id : P2pId}

theorem About.refl (id : P2pId) (s : SNClientService) : About id s s :=
  ⟨⟨[], (List.append_nil _).symm, List.forall_mem_nil _⟩, fun _ _ => rfl⟩

theorem About.trans (h : About id s t) (h' : About id t u) : About id s u := by
  obtain ⟨events, hlog, hid⟩ := h.log
  obtain ⟨events', hlog', hid'⟩ := h'.log
  refine ⟨⟨events ++ events', ?_, List.forall_mem_append.mpr ⟨hid, hid'⟩⟩, fun other hne => ?_⟩
  · rw [hlog', hlog, List.append_assoc]
  · rw [h'.entry other hne, h.entry other hne]

/-- Nothing that is seen has changed. -/
theorem About.of_same (hlog : t.log = s.log)
    (hlist : t.state.activeSnList = s.state.activeSnList) : About id s t := by
  refine ⟨⟨[], by rw [hlog, List.append_nil], List.forall_mem_nil _⟩, fun other _ => ?_⟩
  rw [SNClientService.entry, hlist, SNClientService.entry]

theorem about_next (id : P2pId) (s : SNClientService) : About id s s.next := .of_same rfl rfl

theorem about_failures (failures : Table P2pId U32) : About id s (s.setFailures failures) :=
  .of_same rfl rfl

theorem about_record (e : PingEvent) : About e.snPeerId s (s.record e) :=
  ⟨⟨[e], rfl, fun _ he => List.mem_singleton.mp he ▸ rfl⟩, fun _ _ => rfl⟩

theorem about_update (update : ActiveSN → ActiveSN)
    (hid : ∀ a, (update a).snPeerId = a.snPeerId) : About id s (s.updateActive id update).1 :=
  ⟨⟨[], (List.append_nil _).symm, List.forall_mem_nil _⟩,
    fun _ hne => updateActiveSn_find_ne hid hne _⟩

theorem about_remove (id : P2pId) (s : SNClientService) : About id s (s.removeActiveSn id) := by
  refine ⟨⟨[.removed id], rfl, fun _ he => List.mem_singleton.mp he ▸ rfl⟩, fun other hne => ?_⟩
  show (s.state.activeSnList.filter _).find? _ = _
  rw [List.find?_filter]
  refine congrArg (List.find? · _) (funext fun a => ?_)
  by_cases ha : a.snPeerId = other <;> simp [ha, hne]

theorem about_failure : About id s (s.recordReportStreamFailure w id) := by
  unfold recordReportStreamFailure
  dsimp only
  split_ifs
  · exact (about_failures _).trans (about_remove ..)
  · refine (about_failures _).trans (.trans (about_update _ fun _ => ?_) (about_next ..))
    rfl

theorem report_attempted (id : P2pId) (classification : SnTunnelClassification) (netProfile : Option NatProfile)
    (natProbeResult : Option NatProbeResult) :
    About id (s.record (.attempted id classification netProfile natProbeResult))
      (s.report w classification id netProfile natProbeResult).1 := by
  unfold report
  cases w.reports s.turn with
  | noStream => exact (about_next ..).trans about_failure
  | noResponse => exact (about_next ..).trans (about_failures _)
  | response resp => exact (about_next ..).trans (about_failures _)

theorem about_report (classification : SnTunnelClassification) (netProfile : Option NatProfile)
    (natProbeResult : Option NatProbeResult) :
    About id s (s.report w classification id netProfile natProbeResult).1 :=
  (about_record (.attempted id classification netProfile natProbeResult)).trans
    (report_attempted ..)

theorem about_probe (endpoints : List Endpoint) (signer : Option Tls.P2pIdentityCert) :
    About id s (s.probe w id endpoints signer).1 := by
  cases signer with
  | none => exact .refl id s
  | some _ => exact (about_record (.probed id endpoints)).trans (about_next ..)

theorem about_apply (mark : Option (U64 × U64)) (profile : NatProfile) :
    About id s (s.applyCompletedProbe w id mark profile) := by
  refine (about_update _ fun a => ?_).trans (about_next ..)
  cases mark <;> rfl

theorem about_probeLocalIfDue (a : ActiveSN) : About a.snPeerId s (s.probeLocalIfDue w a).1 := by
  unfold probeLocalIfDue
  split_ifs
  · exact about_next ..
  · dsimp only
    exact ((about_next ..).trans (about_probe ..)).trans (about_apply ..)

theorem about_execute (protocol : Protocol) (snEndpoint : Endpoint) (generation requestId : U64)
    (signer : Option Tls.P2pIdentityCert) (directive : Option NatProbeDirective) :
    About id s (s.executeProbeDirective w id protocol snEndpoint generation requestId signer
      directive).1 := by
  unfold executeProbeDirective
  cases directive with
  | none => exact .refl id s
  | some directive =>
    dsimp only
    split
    · exact about_next ..
    · rename_i endpoints _
      refine (about_next ..).trans (.trans ?_ (about_probe endpoints signer))
      exact about_record (.executed id directive (w.clock s.turn) endpoints)

theorem about_store (protocol : Protocol) (snEndpoint : Endpoint) (resp : ReportSnResp) :
    About id s (s.store w id protocol snEndpoint resp) := by
  unfold store
  dsimp only
  split_ifs
  · refine .trans (about_update _ fun _ => ?_) (about_record (.stored id _))
    rfl
  · exact about_update _ fun _ => rfl

theorem about_reportResult (classification : SnTunnelClassification) (result : NatProbeResult) :
    About id s (s.reportResult w classification id result).1 :=
  (about_apply ..).trans (about_report ..)

theorem about_refreshed (a : ActiveSN) (resp : ReportSnResp) :
    About a.snPeerId s (s.refreshed w a resp) := by
  unfold refreshed
  dsimp only
  split
  · exact (about_execute ..).trans (about_store ..)
  · exact (about_execute ..).trans ((about_reportResult ..).trans (about_store ..))

theorem about_refresh (a : ActiveSN) : About a.snPeerId s (s.refresh w a) := by
  unfold refresh
  dsimp only
  split
  · exact (about_probeLocalIfDue a).trans (about_report ..)
  · exact (about_probeLocalIfDue a).trans ((about_report ..).trans (about_refreshed ..))

theorem publishActiveSn_find_ne {a : ActiveSN} {other : P2pId} (hne : other ≠ a.snPeerId)
    (l : List ActiveSN) :
    (publishActiveSn l a).1.find? (·.snPeerId = other) = l.find? (·.snPeerId = other) := by
  unfold publishActiveSn
  split_ifs
  · rfl
  · simp [List.find?_append, hne.symm]

theorem about_publish (a : ActiveSN) : About a.snPeerId s (s.publish a) := by
  have hlist : About a.snPeerId s (s.setActive (publishActiveSn s.state.activeSnList a).1) :=
    ⟨⟨[], (List.append_nil _).symm, List.forall_mem_nil _⟩,
      fun _ hne => publishActiveSn_find_ne hne _⟩
  unfold publish
  dsimp only
  split_ifs
  · exact hlist.trans (about_record (.published a))
  · exact hlist

theorem about_probeFirst (snEp : Endpoint) (resp : ReportSnResp) :
    About id s (s.probeFirst w id snEp resp) := by
  unfold probeFirst
  dsimp only
  exact (about_probe ..).trans (about_apply ..)

theorem about_registered (sn : P2pSn) (classification : SnTunnelClassification)
    (resp : ReportSnResp) : About sn.id s (s.registered w sn classification resp) := by
  unfold registered
  dsimp only
  have hpublish := about_publish (s := s.next.next) (s.newActiveSn w sn classification.remoteEp resp)
  have hpublished := ((about_next sn.id s).trans (about_next ..)).trans hpublish
  split
  · exact hpublished.trans ((about_execute ..).trans (about_probeFirst ..))
  · split
    · exact hpublished.trans ((about_execute ..).trans (about_reportResult ..))
    · exact hpublished.trans ((about_execute ..).trans ((about_reportResult ..).trans
        (about_store ..)))

theorem about_register (sn : P2pSn) (classifications : List SnTunnelClassification) :
    About sn.id s (register w sn s classifications) := by
  induction classifications generalizing s with
  | nil => exact .refl sn.id s
  | cons classification rest ih =>
    unfold register
    dsimp only
    split
    · exact (about_report ..).trans ih
    · exact (about_report ..).trans (about_registered ..)

end Frames

/-! ## Who is contacted -/

section Contacts

variable {w : World} {s t : SNClientService} {id : P2pId}

/-- A report to the SN was attempted in the events. -/
def Attempted (events : List PingEvent) (id : P2pId) : Prop :=
  ∃ classification netProfile result, .attempted id classification netProfile result ∈ events

/-- An endpoint of the SN is of a protocol of the candidates. -/
def HasCandidate (it : Iteration) (sn : P2pSn) : Prop :=
  ∃ snEp ∈ sn.endpoints, ∃ c ∈ it.candidates, c.1 = snEp.protocol

/-- The iteration contacts every SN of the list that is not active and could be. -/
def ContactsMissing (w : World) (s : SNClientService) (it : Iteration) : Prop :=
  ∀ sn ∈ it.snList, (∀ a ∈ s.state.activeSnList, a.snPeerId ≠ sn.id) → HasCandidate it sn →
    Attempted ((s.pingProc w it).log.drop s.log.length) sn.id

theorem addProtocols_nonempty {candidates : List (Protocol × List (Option Endpoint))}
    (h : ∀ c ∈ candidates, c.2 ≠ []) (protocols : List Protocol) :
    ∀ c ∈ addProtocols candidates protocols, c.2 ≠ [] := by
  induction protocols generalizing candidates with
  | nil => exact h
  | cons protocol rest ih =>
    refine ih ?_
    split_ifs
    · exact h
    · exact List.forall_mem_append.mpr ⟨h, by simp⟩

/-- Every candidate has a local endpoint to try, or none given. -/
theorem snClientProtocolCandidates_nonempty (listenerEntries : List (Protocol × List Endpoint))
    (supportedProtocols : List Protocol) :
    ∀ c ∈ snClientProtocolCandidates listenerEntries supportedProtocols, c.2 ≠ [] := by
  intro c hc
  unfold snClientProtocolCandidates at hc
  rw [List.mem_insertionSort] at hc
  refine addProtocols_nonempty (fun c hc => ?_) supportedProtocols c hc
  obtain ⟨⟨protocol, listeners⟩, -, rfl⟩ := List.mem_map.mp hc
  dsimp only
  split_ifs with hempty
  · simp
  · simpa using hempty

theorem classifications_ne_nil {it : Iteration} {sn : P2pSn} (h : HasCandidate it sn) :
    sn.classifications it.candidates ≠ [] := by
  obtain ⟨snEp, hsnEp, ⟨protocol, localEps⟩, hc, rfl⟩ := h
  obtain ⟨localEp, hlocal⟩ :=
    List.exists_mem_of_ne_nil _ (snClientProtocolCandidates_nonempty _ _ _ hc)
  refine List.ne_nil_of_mem (a := ⟨localEp, snEp⟩) ?_
  refine List.mem_flatMap.mpr ⟨_, hc, List.mem_flatMap.mpr ⟨snEp, ?_, ?_⟩⟩
  · exact List.mem_filter.mpr ⟨hsnEp, by simp⟩
  · exact List.mem_map.mpr ⟨localEp, hlocal, rfl⟩

theorem report_attempts (id : P2pId) (classification : SnTunnelClassification) (netProfile : Option NatProfile)
    (result : Option NatProbeResult) :
    ∃ events, (s.report w classification id netProfile result).1.log = s.log ++ events ∧
      Attempted events id := by
  obtain ⟨events, hlog, -⟩ := (report_attempted (s := s) (w := w) id classification netProfile result).log
  refine ⟨.attempted id classification netProfile result :: events, ?_,
    classification, netProfile, result, List.mem_cons_self⟩
  rw [hlog, record, List.append_assoc, List.singleton_append]

theorem register_attempts {sn : P2pSn} {classifications : List SnTunnelClassification}
    (h : classifications ≠ []) :
    ∃ events, (register w sn s classifications).log = s.log ++ events ∧ Attempted events sn.id := by
  obtain ⟨classification, rest, rfl⟩ := List.exists_cons_of_ne_nil h
  obtain ⟨events, hlog, cls, profile, result, hmem⟩ :=
    report_attempts (s := s) (w := w) sn.id classification none none
  have hlater : About sn.id (s.report w classification sn.id none none).1
      (register w sn s (classification :: rest)) := by
    unfold register
    dsimp only
    split
    · exact about_register ..
    · exact about_registered ..
  obtain ⟨later, hlog', -⟩ := hlater.log
  exact ⟨events ++ later, by rw [hlog', hlog, List.append_assoc],
    cls, profile, result, List.mem_append_left _ hmem⟩

/-- The loop of the registration branch. -/
theorem registerAll_attempts (it : Iteration) (snList : List P2pSn) (s : SNClientService) :
    ∃ events, (snList.foldl (fun s sn => register w sn s (sn.classifications it.candidates)) s).log =
        s.log ++ events ∧
      ∀ sn ∈ snList, HasCandidate it sn → Attempted events sn.id := by
  induction snList generalizing s with
  | nil => exact ⟨[], (List.append_nil _).symm, List.forall_mem_nil _⟩
  | cons sn rest ih =>
    obtain ⟨later, hlater, hrest⟩ := ih (register w sn s (sn.classifications it.candidates))
    obtain ⟨events, hlog, -⟩ := (about_register (w := w) (s := s) sn (sn.classifications it.candidates)).log
    refine ⟨events ++ later, by rw [List.foldl_cons, hlater, hlog, List.append_assoc], ?_⟩
    refine List.forall_mem_cons.mpr ⟨fun hcandidate => ?_, fun other hother hcandidate => ?_⟩
    · obtain ⟨events', hlog', cls, profile, result, hmem⟩ :=
        register_attempts (w := w) (s := s) (classifications_ne_nil hcandidate)
      cases List.append_cancel_left (hlog.symm.trans hlog')
      exact ⟨cls, profile, result, List.mem_append_left _ hmem⟩
    · obtain ⟨cls, profile, result, hmem⟩ := hrest other hother hcandidate
      exact ⟨cls, profile, result, List.mem_append_right _ hmem⟩

/-- The loop of the other branch is about the SNs that are due. -/
theorem refreshAll_about (due : List ActiveSN) (s : SNClientService) :
    ∃ events, (due.foldl (refresh w) s).log = s.log ++ events ∧
      ∀ e ∈ events, ∃ a ∈ due, e.snPeerId = a.snPeerId := by
  induction due generalizing s with
  | nil => exact ⟨[], (List.append_nil _).symm, List.forall_mem_nil _⟩
  | cons a rest ih =>
    obtain ⟨events, hlog, hid⟩ := (about_refresh (w := w) (s := s) a).log
    obtain ⟨later, hlater, hdue⟩ := ih (s.refresh w a)
    refine ⟨events ++ later, by rw [List.foldl_cons, hlater, hlog, List.append_assoc], ?_⟩
    refine List.forall_mem_append.mpr ⟨fun e he => ⟨a, List.mem_cons_self, hid e he⟩, fun e he => ?_⟩
    obtain ⟨b, hb, heq⟩ := hdue e he
    exact ⟨b, List.mem_cons_of_mem _ hb, heq⟩

theorem collectDueActiveSns_sublist (l : List ActiveSN) (force : Bool) (now : U64) :
    (collectDueActiveSns l force now).2.Sublist (collectDueActiveSns l force now).1 :=
  List.filter_sublist.map _

theorem collectDueActiveSns_ids (l : List ActiveSN) (force : Bool) (now : U64) :
    (collectDueActiveSns l force now).1.map (·.snPeerId) = l.map (·.snPeerId) := by
  unfold collectDueActiveSns
  simp only [List.map_map]
  refine List.map_congr_left fun a _ => ?_
  simp only [Function.comp_apply]
  split_ifs <;> rfl

theorem exists_of_due {l : List ActiveSN} {force : Bool} {now : U64} {a : ActiveSN}
    (h : a ∈ (collectDueActiveSns l force now).2) : ∃ b ∈ l, b.snPeerId = a.snPeerId := by
  have hmem := List.mem_map_of_mem (f := (·.snPeerId)) ((collectDueActiveSns_sublist ..).subset h)
  rw [collectDueActiveSns_ids] at hmem
  exact List.mem_map.mp hmem

theorem pingProc_refreshes (it : Iteration) (h : s.state.activeSnList ≠ []) :
    ∃ events, (s.pingProc w it).log = s.log ++ events ∧
      ∀ e ∈ events, ∃ a ∈ s.state.activeSnList, e.snPeerId = a.snPeerId := by
  obtain ⟨events, hlog, hdue⟩ := refreshAll_about (w := w)
    (collectDueActiveSns s.state.activeSnList s.state.firstReportPending (w.clock s.turn)).2
    (s.beginIteration.1.setActive (collectDueActiveSns s.state.activeSnList
      s.state.firstReportPending (w.clock s.turn)).1).next
  refine ⟨events, ?_, fun e he => ?_⟩
  · refine Eq.trans ?_ hlog
    unfold pingProc
    dsimp only
    rw [if_pos (by simpa [beginIteration] using List.length_pos_of_ne_nil h)]
    rfl
  · obtain ⟨a, ha, heq⟩ := hdue e he
    obtain ⟨b, hb, hid⟩ := exists_of_due ha
    exact ⟨b, hb, heq.trans hid.symm⟩

theorem pingProc_registers (it : Iteration) (h : s.state.activeSnList = []) :
    s.pingProc w it = it.snList.foldl
      (fun s sn => register w sn s (sn.classifications it.candidates)) s.beginIteration.1 := by
  unfold pingProc
  dsimp only
  rw [if_neg (by simp [beginIteration, h])]

theorem not_contactsMissing {it : Iteration} (h : s.state.activeSnList ≠ []) (sn : P2pSn)
    (hsn : sn ∈ it.snList) (hmissing : ∀ a ∈ s.state.activeSnList, a.snPeerId ≠ sn.id)
    (hcandidate : HasCandidate it sn) : ¬ ContactsMissing w s it := by
  intro hall
  have hattempted := hall sn hsn hmissing hcandidate
  obtain ⟨events, hlog, hactive⟩ := pingProc_refreshes (w := w) it h
  rw [hlog, List.drop_left] at hattempted
  obtain ⟨cls, profile, result, hmem⟩ := hattempted
  obtain ⟨a, ha, heq⟩ := hactive _ hmem
  exact hmissing a ha heq.symm

/-- **A missing SN is contacted when no other is active.**  While one is active, the loop refreshes
those that are, and nothing is attempted with the others. -/
theorem contactsMissing_iff (w : World) (s : SNClientService) (it : Iteration) :
    ContactsMissing w s it ↔
      s.state.activeSnList = [] ∨
        ∀ sn ∈ it.snList, HasCandidate it sn → ∃ a ∈ s.state.activeSnList, a.snPeerId = sn.id := by
  by_cases hnone : s.state.activeSnList = []
  · refine iff_of_true (fun sn hsn _ hcandidate => ?_) (.inl hnone)
    obtain ⟨events, hlog, hall⟩ := registerAll_attempts (w := w) it it.snList s.beginIteration.1
    rw [pingProc_registers it hnone, hlog]
    show Attempted ((s.log ++ events).drop s.log.length) sn.id
    rw [List.drop_left]
    exact hall sn hsn hcandidate
  · rw [or_iff_right hnone]
    constructor
    · intro h sn hsn hcandidate
      by_contra hmissing
      exact not_contactsMissing hnone sn hsn (fun a ha heq => hmissing ⟨a, ha, heq⟩) hcandidate h
    · intro h sn hsn hmissing hcandidate
      obtain ⟨a, ha, heq⟩ := h sn hsn hcandidate
      exact absurd heq (hmissing a ha)

/-- A service that is started: it was just made, or stopped, which leaves `latest_sn_interval`. -/
def start (latestSnInterval : U64) : SNClientService := ⟨⟨[], latestSnInterval, true, ∅⟩, 0, []⟩

def twoSns : Iteration :=
  ⟨[⟨[1], [⟨.wan, .quic, .v4 ⟨1, 1, 1, 1⟩ 1000⟩]⟩, ⟨[2], [⟨.wan, .quic, .v4 ⟨2, 2, 2, 2⟩ 1000⟩]⟩],
    [(.quic, [⟨.lan, .quic, .v4 ⟨10, 0, 0, 1⟩ 1000⟩])], [.quic]⟩

/-- Of the reports only those at the turns have no stream. -/
def noStreamAt (turns : List Nat) : World where
  localId := [9]
  certFactory := fun _ => .error .certError
  reports := fun turn => if turn ∈ turns then .noStream else .response ⟨0, [], 0, none, [], none, [], none⟩
  profiles := fun _ => none
  clock := fun turn => Fin.ofNat _ (turn * 1000000000)

/-- Twice in a row there is no stream for the second SN, which is evicted; the first is active, and
the next iteration does not register the second again. -/
theorem evicted_not_contacted :
    ∃ s, s = exec (pingProc (noStreamAt [12, 20])) (start 0) [twoSns, twoSns, twoSns] ∧
      s.state.activeSnList.map (·.snPeerId) = [[1]] ∧
      (s.log.map (·.snPeerId)).getLast? = some [2] ∧
      ¬ ContactsMissing (noStreamAt [12, 20]) s twoSns := by
  have hids : (exec (pingProc (noStreamAt [12, 20])) (start 0)
      [twoSns, twoSns, twoSns]).state.activeSnList.map (·.snPeerId) = [[1]] := by decide +kernel
  refine ⟨_, rfl, hids, by decide +kernel, ?_⟩
  refine not_contactsMissing (fun hnil => ?_) ⟨[2], _⟩ (.tail _ (.head _)) (fun a ha heq => ?_) ?_
  · rw [hnil] at hids
    cases hids
  · have hmem := List.mem_map_of_mem (f := (·.snPeerId)) ha
    rw [hids, List.mem_singleton, heq] at hmem
    cases hmem
  · exact ⟨_, List.mem_singleton_self _, (.quic, [some ⟨.lan, .quic, .v4 ⟨10, 0, 0, 1⟩ 1000⟩]),
      by decide, rfl⟩

end Contacts

end SNClientService

end Sn

end BuckyP2p
