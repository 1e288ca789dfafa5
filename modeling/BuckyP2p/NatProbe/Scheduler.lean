import BuckyP2p.Lib.Runs
import BuckyP2p.Lib.Table
import BuckyP2p.Rendezvous.Message
import Mathlib.Data.List.Sort

/-!
# BuckyP2p.NatProbe.Scheduler — `NatProbeScheduler` of `sn/service/nat_probe_scheduler.rs`

The scheduler of an SN registers the peers that report over UDP, sends each registration one probe
directive, and accepts the result of a directive while it is the one in flight.  Every operation
runs under the scheduler's lock and is one step.

`log` keeps the lines that the operations write at level `info` about registrations, directives and
results, in the order in which they are written; `snIdentityChanged` stands for those that
`set_sn_peer_id` writes for each peer.
-/

namespace BuckyP2p

/-! ## Profiles, directives and results -/

inductive NatMappingObservation
  | unknown | nonSymmetricLike | symmetricLike
  deriving DecidableEq, Repr

inductive NatPortParityRelation
  | same | alternating
  deriving DecidableEq, Repr

structure NatPredictionHint where
  firstObserved : Endpoint
  lastObserved : Endpoint
  sampleCount : U16
  portDelta : Int
  parity : NatPortParityRelation
  deriving DecidableEq, Repr

structure NatProfile where
  version : U8
  observation : NatMappingObservation
  observedAt : Timestamp
  validUntil : Timestamp
  predictionHint : Option NatPredictionHint
  deriving DecidableEq, Repr

namespace NatProfile

/-- `NAT_PROFILE_VERSION`. -/
def currentVersion : U8 := 1

def unknown : NatProfile := ⟨currentVersion, .unknown, 0, 0, none⟩

def isSupported (p : NatProfile) : Bool := p.version = currentVersion

def isFresh (p : NatProfile) (now : Timestamp) : Bool :=
  p.isSupported && p.observation ≠ .unknown && p.observedAt ≤ p.validUntil && p.observedAt ≤ now &&
    now ≤ p.validUntil

end NatProfile

def Endpoint.isUdp (e : Endpoint) : Bool := e.protocol ≠ .tcp

namespace NatProbe

abbrev CmdTunnelId : Type := U32

def natProbeControlVersion : U8 := 1

def maxNatProbeEndpoints : Nat := 8

def maxConcurrentNatProbes : Nat := 2048

/-- `NAT_PROBE_PERIOD`, two hours. -/
def natProbePeriod : Timestamp := 7200000000

/-- `NAT_PROBE_DIRECTIVE_TIMEOUT`, thirty seconds. -/
def natProbeDirectiveTimeout : Timestamp := 30000000

structure NatProbeDirective where
  version : U8
  snPeerId : P2pId
  peerId : P2pId
  registrationGeneration : U64
  requestId : U64
  probeConfigGeneration : U64
  expiresAt : Timestamp
  ports : List U16
  deriving DecidableEq, Repr

structure NatProbeResult where
  version : U8
  snPeerId : P2pId
  peerId : P2pId
  registrationGeneration : U64
  requestId : U64
  probeConfigGeneration : U64
  profile : NatProfile
  deriving DecidableEq, Repr

def NatProbeResult.isSupported (r : NatProbeResult) : Bool :=
  r.version = natProbeControlVersion && r.profile.isSupported

/-! ## The scheduler -/

inductive NatProbeTriggerReason
  | online | externalAddress
  deriving DecidableEq, Repr

inductive NatProbeResultRejectReason
  | missingAuthority | capabilityUnsupported | versionUnsupported | profileStale | snMismatch
  | peerMismatch | registrationGenerationMismatch | configGenerationMismatch | missingInFlight
  | requestMismatch | deadlineExpired
  deriving DecidableEq, Repr

structure InFlightProbe where
  requestId : U64
  expiresAt : Timestamp
  deriving DecidableEq, Repr

structure PeerProbeState where
  authorityTunnelId : CmdTunnelId
  remoteEndpoint : Endpoint
  registrationGeneration : U64
  configGeneration : U64
  inFlight : Option InFlightProbe
  nextPeriodicAt : Timestamp
  pendingTrigger : Option NatProbeTriggerReason
  profile : Option NatProfile
  controlSupported : Bool
  deriving DecidableEq, Repr

/-- `ProbeTransition`; in `profileUpdate`, `some none` invalidates what is published. -/
structure ProbeTransition where
  directive : Option NatProbeDirective := none
  profileUpdate : Option (Option NatProfile) := none
  deriving DecidableEq, Repr

inductive ProbeEvent
  | configChanged
  | snIdentityChanged
  | authorityEstablished (peerId : P2pId) (registrationGeneration : U64)
  | authorityRemoved (peerId : P2pId)
  | capabilityLost (peerId : P2pId)
  | directiveTimeout (peerId : P2pId)
  | resultAccepted (peerId : P2pId) (result : NatProbeResult)
  | directiveIssued (directive : NatProbeDirective)
  deriving DecidableEq, Repr

structure NatProbeScheduler where
  snPeerId : P2pId
  ports : List U16
  configGeneration : U64
  nextRegistrationGeneration : U64
  nextRequestId : U64
  peers : Lib.Table P2pId PeerProbeState
  log : List ProbeEvent

/-- `wrapping_add(1).max(1)`. -/
def nextGeneration (g : U64) : U64 := max (g + 1) 1

namespace NatProbeScheduler

def new (snPeerId : P2pId) : NatProbeScheduler where
  snPeerId := snPeerId
  ports := []
  configGeneration := 1
  nextRegistrationGeneration := 1
  nextRequestId := 1
  peers := ∅
  log := []

def validPorts (ports : List U16) : Bool :=
  2 ≤ ports.length && ports.length ≤ maxNatProbeEndpoints && ports.all (· ≠ 0) &&
    (ports.zip ports.tail).all fun w => w.1 ≠ w.2

/-- `set_ports`, with the peers that are affected. -/
def setPorts (s : NatProbeScheduler) (ports : List U16) : NatProbeScheduler × List P2pId :=
  let sorted := ports.insertionSort (· ≤ ·)
  let ports := if validPorts sorted then sorted else []
  if ports = s.ports then (s, [])
  else
    let configGeneration := nextGeneration s.configGeneration
    ({ s with
        ports := ports
        configGeneration := configGeneration
        peers := s.peers.mapValues fun st =>
          { st with configGeneration := configGeneration, inFlight := none, profile := none }
        log := s.log ++ [.configChanged] }, s.peers.keys)

def setSnPeerId (s : NatProbeScheduler) (snPeerId : P2pId) : NatProbeScheduler :=
  if s.snPeerId = snPeerId then s
  else { s with snPeerId := snPeerId, peers := ∅, log := s.log ++ [.snIdentityChanged] }

def sameObservedPath (registered reported : Endpoint) : Bool :=
  registered.protocol = reported.protocol && registered.addr = reported.addr

def isAuthoritativeReport (st : PeerProbeState) (tunnelId : CmdTunnelId)
    (remoteEndpoint : Endpoint) : Bool :=
  st.authorityTunnelId = tunnelId || sameObservedPath st.remoteEndpoint remoteEndpoint

/-- A report on another path than the registered one. -/
def ignores (s : NatProbeScheduler) (peerId : P2pId) (tunnelId : CmdTunnelId)
    (remoteEndpoint : Endpoint) : Bool :=
  match s.peers.lookup peerId with
  | some st => !isAuthoritativeReport st tunnelId remoteEndpoint
  | none => false

def needsRegistration (s : NatProbeScheduler) (peerId : P2pId) (remoteEndpoint : Endpoint) : Bool :=
  match s.peers.lookup peerId with
  | some st => st.remoteEndpoint.addr ≠ remoteEndpoint.addr
  | none => true

/-- The registration that `observe_capable_report` and `observe_control` make. -/
def register (s : NatProbeScheduler) (peerId : P2pId) (tunnelId : CmdTunnelId)
    (remoteEndpoint : Endpoint) (controlSupported : Bool) (now : Timestamp) :
    NatProbeScheduler × ProbeTransition :=
  let previous := s.peers.lookup peerId
  let generation := s.nextRegistrationGeneration
  ({ s with
      nextRegistrationGeneration := nextGeneration generation
      peers := s.peers.insert peerId
        { authorityTunnelId := tunnelId
          remoteEndpoint := remoteEndpoint
          registrationGeneration := generation
          configGeneration := s.configGeneration
          inFlight := none
          nextPeriodicAt := now
          pendingTrigger := some (if previous.isSome then .externalAddress else .online)
          profile := previous.bind PeerProbeState.profile
          controlSupported := controlSupported }
      log := s.log ++ [.authorityEstablished peerId generation] },
    { profileUpdate := if previous.isSome then none else some none })

/-- A report of a registered peer says whether the client can be controlled. -/
def observeCapability (s : NatProbeScheduler) (peerId : P2pId) (controlSupported : Bool) :
    NatProbeScheduler × ProbeTransition :=
  match s.peers.lookup peerId with
  | some st =>
    if st.controlSupported && !controlSupported then
      ({ s with
          peers := s.peers.insert peerId
            { st with inFlight := none, profile := none, controlSupported := false }
          log := s.log ++ [.capabilityLost peerId] }, { profileUpdate := some none })
    else
      ({ s with
          peers := s.peers.insert peerId { st with controlSupported := controlSupported } }, {})
  | none => (s, {})

def observeIneligibleReport (s : NatProbeScheduler) (peerId : P2pId) (tunnelId : CmdTunnelId) :
    NatProbeScheduler × ProbeTransition :=
  match s.peers.lookup peerId with
  | some st =>
    if st.authorityTunnelId = tunnelId then
      ({ s with peers := s.peers.erase peerId, log := s.log ++ [.authorityRemoved peerId] },
        { profileUpdate := some none })
    else (s, {})
  | none => (s, {})

def finishExpired (s : NatProbeScheduler) (peerId : P2pId) (now : Timestamp)
    (transition : ProbeTransition) : NatProbeScheduler × ProbeTransition :=
  match s.peers.lookup peerId with
  | some st =>
    match st.inFlight with
    | some probe =>
      if probe.expiresAt < now then
        ({ s with
            peers := s.peers.insert peerId
              { st with
                inFlight := none
                profile := none
                pendingTrigger := none
                nextPeriodicAt := saturatingAdd now natProbePeriod }
            log := s.log ++ [.directiveTimeout peerId] },
          { transition with profileUpdate := some none })
      else (s, transition)
    | none => (s, transition)
  | none => (s, transition)

/-- Why `accept_result` rejects a result. -/
def rejection (s : NatProbeScheduler) (peerId : P2pId) (st : PeerProbeState)
    (result : NatProbeResult) (now : Timestamp) : Option NatProbeResultRejectReason :=
  if !st.controlSupported then some .capabilityUnsupported
  else if !result.isSupported then some .versionUnsupported
  else if !(result.profile.observation = .unknown || result.profile.isFresh now) then
    some .profileStale
  else if result.snPeerId ≠ s.snPeerId then some .snMismatch
  else if result.peerId ≠ peerId then some .peerMismatch
  else if result.registrationGeneration ≠ st.registrationGeneration then
    some .registrationGenerationMismatch
  else if result.probeConfigGeneration ≠ st.configGeneration then some .configGenerationMismatch
  else match st.inFlight with
    | none => some .missingInFlight
    | some probe =>
      if probe.requestId ≠ result.requestId then some .requestMismatch
      else if probe.expiresAt < now then some .deadlineExpired
      else none

def acceptResult (s : NatProbeScheduler) (peerId : P2pId) (result : NatProbeResult)
    (now : Timestamp) (transition : ProbeTransition) : NatProbeScheduler × ProbeTransition :=
  match s.peers.lookup peerId with
  | some st =>
    match s.rejection peerId st result now with
    | some _ => (s, transition)
    | none =>
      let nextPeriodicAt := saturatingAdd now natProbePeriod
      let profile : Option NatProfile :=
        if result.profile.observation = .unknown then none
        else some { result.profile with validUntil := nextPeriodicAt }
      ({ s with
          peers := s.peers.insert peerId
            { st with
              inFlight := none
              pendingTrigger := none
              nextPeriodicAt := nextPeriodicAt
              profile := profile }
          log := s.log ++ [.resultAccepted peerId result] },
        { transition with profileUpdate := some profile })
  | none => (s, transition)

def inFlightCount (s : NatProbeScheduler) : Nat :=
  s.peers.entries.countP fun e => e.2.inFlight.isSome

def issueIfDue (s : NatProbeScheduler) (peerId : P2pId) (now : Timestamp) :
    NatProbeScheduler × Option NatProbeDirective :=
  match s.peers.lookup peerId with
  | some st =>
    if st.pendingTrigger = none then (s, none)
    else if s.ports = [] || !st.controlSupported || st.inFlight.isSome ||
        maxConcurrentNatProbes ≤ s.inFlightCount then (s, none)
    else
      let requestId := s.nextRequestId
      let expiresAt := saturatingAdd now natProbeDirectiveTimeout
      let directive : NatProbeDirective :=
        ⟨natProbeControlVersion, s.snPeerId, peerId, st.registrationGeneration, requestId,
          st.configGeneration, expiresAt, s.ports⟩
      ({ s with
          nextRequestId := nextGeneration requestId
          peers := s.peers.insert peerId
            { st with inFlight := some ⟨requestId, expiresAt⟩, pendingTrigger := none }
          log := s.log ++ [.directiveIssued directive] }, some directive)
  | none => (s, none)

/-- `observe_capable_report` up to its call of `accept_result`; `none` if it returns before. -/
def prepareReport (s : NatProbeScheduler) (peerId : P2pId) (tunnelId : CmdTunnelId)
    (remoteEndpoint : Endpoint) (controlVersion : Option U8) (now : Timestamp) :
    Option (NatProbeScheduler × ProbeTransition) :=
  if !remoteEndpoint.isUdp || s.ignores peerId tunnelId remoteEndpoint then none
  else
    let controlSupported : Bool := controlVersion = some natProbeControlVersion
    let (s, transition) :=
      if s.needsRegistration peerId remoteEndpoint then
        s.register peerId tunnelId remoteEndpoint controlSupported now
      else s.observeCapability peerId controlSupported
    some (s.finishExpired peerId now transition)

def observeCapableReport (s : NatProbeScheduler) (peerId : P2pId) (tunnelId : CmdTunnelId)
    (remoteEndpoint : Endpoint) (controlVersion : Option U8) (result : Option NatProbeResult)
    (now : Timestamp) : NatProbeScheduler × ProbeTransition :=
  match s.prepareReport peerId tunnelId remoteEndpoint controlVersion now with
  | some (s, transition) =>
    let (s, transition) := match result with
      | some result => s.acceptResult peerId result now transition
      | none => (s, transition)
    let (s, directive) := s.issueIfDue peerId now
    (s, { transition with directive := directive })
  | none =>
    if !remoteEndpoint.isUdp then s.observeIneligibleReport peerId tunnelId else (s, {})

def observeReportedProfile (s : NatProbeScheduler) (peerId : P2pId) (tunnelId : CmdTunnelId)
    (remoteEndpoint : Endpoint) (profile : NatProfile) (now : Timestamp) :
    NatProbeScheduler × ProbeTransition :=
  match s.peers.lookup peerId with
  | some st =>
    if !remoteEndpoint.isUdp || !isAuthoritativeReport st tunnelId remoteEndpoint ||
        !profile.isFresh now then (s, {})
    else
      let older : Bool := match st.profile with
        | some current => current.isFresh now && profile.observedAt < current.observedAt
        | none => false
      if older then (s, {})
      else
        ({ s with
            peers := s.peers.insert peerId
              { st with
                profile := some profile
                nextPeriodicAt := saturatingAdd now natProbePeriod } },
          { profileUpdate := some (some profile) })
  | none => (s, {})

def observeControl (s : NatProbeScheduler) (peerId : P2pId) (tunnelId : CmdTunnelId)
    (remoteEndpoint : Endpoint) (now : Timestamp) : NatProbeScheduler × ProbeTransition :=
  if !remoteEndpoint.isUdp then s.observeIneligibleReport peerId tunnelId
  else if s.ignores peerId tunnelId remoteEndpoint then (s, {})
  else
    let (s, transition) :=
      if s.needsRegistration peerId remoteEndpoint then
        let controlSupported := match s.peers.lookup peerId with
          | some st => st.controlSupported
          | none => false
        s.register peerId tunnelId remoteEndpoint controlSupported now
      else (s, {})
    s.finishExpired peerId now transition

/-- `expire_due`, with the peers whose profile it invalidates. -/
def expireDue (s : NatProbeScheduler) (now : Timestamp) : NatProbeScheduler × List P2pId :=
  s.peers.keys.foldl (fun (r : NatProbeScheduler × List P2pId) peerId =>
    let (s, transition) := r.1.finishExpired peerId now {}
    (s, if transition.profileUpdate.isSome then r.2 ++ [peerId] else r.2)) (s, [])

/-- `remove_peer`, and whether there was something to remove. -/
def removePeer (s : NatProbeScheduler) (peerId : P2pId) : NatProbeScheduler × Bool :=
  if (s.peers.lookup peerId).isSome then
    ({ s with peers := s.peers.erase peerId, log := s.log ++ [.authorityRemoved peerId] }, true)
  else (s, false)

def authorityRegistration (s : NatProbeScheduler) (peerId : P2pId) : Option (CmdTunnelId × U64) :=
  (s.peers.lookup peerId).map fun st => (st.authorityTunnelId, st.registrationGeneration)

def removePeerIfAuthority (s : NatProbeScheduler) (peerId : P2pId) (expectedTunnelId : CmdTunnelId)
    (expectedRegistrationGeneration : U64) : NatProbeScheduler × Bool :=
  if s.authorityRegistration peerId = some (expectedTunnelId, expectedRegistrationGeneration) then
    s.removePeer peerId
  else (s, false)

end NatProbeScheduler

/-- The operations of the scheduler that change it. -/
inductive ProbeOp
  | capableReport (peerId : P2pId) (tunnelId : CmdTunnelId) (remoteEndpoint : Endpoint)
    (controlVersion : Option U8) (result : Option NatProbeResult) (now : Timestamp)
  | reportedProfile (peerId : P2pId) (tunnelId : CmdTunnelId) (remoteEndpoint : Endpoint)
    (profile : NatProfile) (now : Timestamp)
  | control (peerId : P2pId) (tunnelId : CmdTunnelId) (remoteEndpoint : Endpoint) (now : Timestamp)
  | setPorts (ports : List U16)
  | setSnPeerId (snPeerId : P2pId)
  | expireDue (now : Timestamp)
  | removePeer (peerId : P2pId)
  | removePeerIfAuthority (peerId : P2pId) (tunnelId : CmdTunnelId) (registrationGeneration : U64)
  deriving DecidableEq, Repr

def NatProbeScheduler.step (s : NatProbeScheduler) : ProbeOp → NatProbeScheduler
  | .capableReport peerId tunnelId remoteEndpoint controlVersion result now =>
    (s.observeCapableReport peerId tunnelId remoteEndpoint controlVersion result now).1
  | .reportedProfile peerId tunnelId remoteEndpoint profile now =>
    (s.observeReportedProfile peerId tunnelId remoteEndpoint profile now).1
  | .control peerId tunnelId remoteEndpoint now =>
    (s.observeControl peerId tunnelId remoteEndpoint now).1
  | .setPorts ports => (s.setPorts ports).1
  | .setSnPeerId snPeerId => s.setSnPeerId snPeerId
  | .expireDue now => (s.expireDue now).1
  | .removePeer peerId => (s.removePeer peerId).1
  | .removePeerIfAuthority peerId tunnelId registrationGeneration =>
    (s.removePeerIfAuthority peerId tunnelId registrationGeneration).1

end NatProbe

end BuckyP2p
