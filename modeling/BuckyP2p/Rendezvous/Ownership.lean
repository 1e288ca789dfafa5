import BuckyP2p.Rendezvous.Replay

/-!
# BuckyP2p.Rendezvous.Ownership — whose addresses a rendezvous carries (`sn/service/service.rs`)

The tasks of `handle_rendezvous` on any number of SNs, from the command of the initiator to the
response that it gets: the check of its endpoints, the rendezvous table, the delivery to a target
of this SN, and the relay to the SN that serves the target (`relay_rendezvous_from_sn`).

* A step is what a task does between two awaits.  What comes back from an await (the answer of the
  target, the leases, a validation that fails, a limit that passes, a task that is dropped) is in
  the event, with arbitrary contents.
* A command tunnel is known by its place in `tunnels`; the places are not used again.
* `checks` and `notified` are not in the code: the validations of responses with what was observed
  then, and the notifies that went to targets with the calls they come from.
-/

namespace BuckyP2p

def IpAddr.isLoopback : IpAddr → Bool
  | .v4 ip => ip.isLoopback
  | .v6 segments => segments.toList = [0, 0, 0, 0, 0, 0, 0, 1]

def Endpoint.isLoopback (e : Endpoint) : Bool := e.addr.ip.isLoopback

structure SnTunnelRendezvousNotify where
  seq : Sequence
  tunnelId : TunnelId
  peerInfo : List U8
  operation : SnTunnelRendezvousOperation
  endPointArray : List Endpoint
  needPredictEndpoint : Bool
  deriving DecidableEq

def SnTunnelRendezvousNotify.validate (notify : SnTunnelRendezvousNotify) : P2pResult Unit :=
  if notify.seq = 0 then .error ⟨.invalidParam, "rendezvous notify sequence must not be zero"⟩
  else validateRendezvousEndpoints notify.endPointArray notify.operation

end BuckyP2p

namespace BuckyP2p.Rendezvous.Ownership

open Lib Rendezvous

structure Tunnel where
  peerId : P2pId
  remote : Endpoint
  live : Bool

/-- Where `deliver_rendezvous_to_local_peer` stands. -/
inductive Stage
  | starting
  | sending (streams : List Nat)
  | awaiting (streams : List Nat)
  /-- In `validate_rendezvous_response_owner`. -/
  | checking (response : SnTunnelRendezvousResp)
  | done (result : Outcome)

/-- Where `handle_rendezvous` stands. -/
inductive Phase
  | received
  /-- The endpoints are owned; before `begin`. -/
  | owned (notify : SnTunnelRendezvousNotify)
  | delivering (notify : SnTunnelRendezvousNotify) (stage : Stage)
  | querying (notify : SnTunnelRendezvousNotify)
  | relaying (notify : SnTunnelRendezvousNotify) (leases : List P2pId)
  | relayed (notify : SnTunnelRendezvousNotify) (relay : Nat) (leases : List P2pId)
  /-- There is a response; before `cache_response`. -/
  | answered (response : SnTunnelRendezvousResp)
  /-- The armed guard is about to be dropped. -/
  | failing
  | waiting (waiter : Nat)
  | returned (response : SnTunnelRendezvousResp)
  | cancelled

structure Call where
  initiator : P2pId
  conn : Nat
  request : SnTunnelRendezvous
  phase : Phase

structure Sn where
  tunnels : List Tunnel
  /-- `find_peer`. -/
  peers : P2pId → Bool
  table : System
  calls : List Call

/-- A request of one SN to another; the stage is there when `relay_rendezvous_from_sn` has
validated it. -/
structure Relay where
  fromSn : P2pId
  call : Nat
  toSn : P2pId
  target : P2pId
  notify : SnTunnelRendezvousNotify
  stage : Option Stage

structure Check where
  sn : P2pId
  target : P2pId
  response : SnTunnelRendezvousResp
  observed : List Endpoint

structure Notified where
  sn : P2pId
  target : P2pId
  notify : SnTunnelRendezvousNotify
  fromSn : P2pId
  call : Nat

structure Net where
  sns : P2pId → Sn
  relays : List Relay
  checks : List Check
  notified : List Notified

/-- What a task goes on with. -/
inductive Input
  | go (now : Timestamp)
  /-- The validations of the client have passed, and this is its certificate. -/
  | cert (peerInfo : List U8)
  /-- What is awaited fails for good. -/
  | refuse
  /-- Where the rotation over the streams begins. -/
  | cursor (start : Nat)
  | response (response : SnTunnelRendezvousResp)
  /-- A stream, the transport to an SN, or its answer is lost. -/
  | lost
  | leases (leases : List P2pId)
  | timeout
  | cancel

inductive Event
  | connect (sn peerId : P2pId) (remote : Endpoint)
  | disconnect (sn : P2pId) (conn : Nat)
  | addPeer (sn peerId : P2pId)
  | removePeer (sn peerId : P2pId)
  /-- A command comes on a tunnel. -/
  | request (sn : P2pId) (conn : Nat) (request : SnTunnelRendezvous)
  | call (sn : P2pId) (call : Nat) (input : Input)
  | relay (relay : Nat) (input : Input)

namespace Sn

/-- The places of the live tunnels of a peer. -/
def peerTunnels (sn : Sn) (peerId : P2pId) : List (Nat × Tunnel) :=
  (sn.tunnels.zipIdx.filter fun x => x.1.peerId = peerId ∧ x.1.live).map fun x => (x.2, x.1)

/-- The loop of `get_peer_observed_ep`. -/
def observe (remotes : List Endpoint) : List (Nat × Tunnel) → List Endpoint
  | [] => remotes
  | x :: tunnels =>
    if x.2.remote.isLoopback ∨ remotes.any (·.eq x.2.remote) then observe remotes tunnels
    else observe (remotes ++ [x.2.remote]) tunnels

def getPeerObservedEp (sn : Sn) (peerId : P2pId) : List Endpoint :=
  observe [] (sn.peerTunnels peerId)

def getPeerTunnelRemote (sn : Sn) (peerId : P2pId) (conn : Nat) : Option Endpoint :=
  ((sn.peerTunnels peerId).find? fun x => x.1 = conn).map fun x => x.2.remote

def rendezvousEndpointsOwnedBy (sn : Sn) (peerId : P2pId) (conn : Nat) (endpoints : List Endpoint) :
    Bool :=
  if endpoints.isEmpty then true
  else match sn.getPeerTunnelRemote peerId conn with
    | some observed => endpoints.all fun e => e.addr.ip = observed.addr.ip
    | none => false

def validateRendezvousResponseOwner (sn : Sn) (target : P2pId) (response : SnTunnelRendezvousResp) :
    P2pResult Unit :=
  if response.predictedEndpointArray.isEmpty then .ok ()
  else
    let observedIps := (sn.getPeerObservedEp target).map fun e => e.addr.ip
    if observedIps.isEmpty ∨ response.predictedEndpointArray.any fun e => e.addr.ip ∉ observedIps then
      .error ⟨.permissionDenied, "rendezvous response contains an endpoint not observed for target"⟩
    else .ok ()

/-- What `deliver_rendezvous_to_local_peer` does next. -/
def deliver (sn : Sn) (target : P2pId) (notify : SnTunnelRendezvousNotify) : Stage → Input → Stage
  | .starting, .cursor start =>
    if !sn.peers target then
      .done (.error ⟨.targetNotFound, "rendezvous target is not connected to this SN"⟩)
    else
      match (sn.peerTunnels target).map (·.1) with
      | [] => .done (.error ⟨.notConnected, "rendezvous target has no live command stream"⟩)
      | streams => .sending (streams.rotate (start % streams.length))
  | .sending (_ :: streams), .go _ => .awaiting streams
  | .sending [], .go _ => .done (.error ⟨.ioError, "SN rendezvous target QA failed"⟩)
  | .awaiting _, .response response =>
    match response.validate notify.seq notify.needPredictEndpoint with
    | .ok () => .checking response
    | .error err => .done (.error err)
  | .awaiting streams, .lost => .sending streams
  -- the answer cannot be read or decoded, or the task that waits for it fails
  | .awaiting _, .refuse => .done (.error ⟨.ioError, "SN rendezvous target QA failed"⟩)
  | .checking response, .go _ =>
    match sn.validateRendezvousResponseOwner target response with
    | .ok () => .done (.ok response)
    | .error err => .done (.error err)
  | stage, _ => stage

end Sn

namespace Net

variable (n : Net)

def setSn (a : P2pId) (sn : Sn) : Net := { n with sns := Function.update n.sns a sn }

/-- The call goes on to a phase, the table to another one. -/
def setCall (a : P2pId) (c : Nat) (call : Call) (table : System) (phase : Phase) : Net :=
  n.setSn a { n.sns a with
    table := table
    calls := (n.sns a).calls.set c { call with phase := phase } }

/-- What is noted when a delivery of the SN `b` takes its next step. -/
def note (b target : P2pId) (notify : SnTunnelRendezvousNotify) (a : P2pId) (c : Nat)
    (stage : Stage) (input : Input) : Net :=
  match stage, input with
  | .sending (_ :: _), .go _ => { n with notified := n.notified ++ [⟨b, target, notify, a, c⟩] }
  | .checking response, .go _ =>
    { n with checks := n.checks ++ [⟨b, target, response, (n.sns b).getPeerObservedEp target⟩] }
  | _, _ => n

/-- The notify of a call, once its endpoints are found to be owned by its tunnel. -/
def owns (a : P2pId) (call : Call) (peerInfo : List U8) : Phase :=
  let request := call.request
  let notify : SnTunnelRendezvousNotify :=
    ⟨request.seq, request.tunnelId, peerInfo, request.operation, request.endPointArray,
      request.needPredictEndpoint⟩
  if request.validate.toBool ∧ call.initiator ≠ request.toPeerId ∧
      (n.sns a).rendezvousEndpointsOwnedBy call.initiator call.conn request.endPointArray ∧
      notify.validate.toBool then .owned notify
  else .returned (.failure request.seq)

/-- How a call goes on after `begin`. -/
def begun (notify : SnTunnelRendezvousNotify) : P2pResult RendezvousBegin → Phase
  | .ok .new => .delivering notify .starting
  | .ok (.cached response) => .returned response
  | .ok (.inFlight waiter) => .waiting waiter
  | .error _ => .returned (.failure notify.seq)

/-- The guard of the call is dropped while armed. -/
def dropGuard (a : P2pId) (c : Nat) (call : Call) (phase : Phase) : Net :=
  n.setCall a c call ((n.sns a).table.step (.failUnanswered call.initiator call.request)) phase

/-- The delivery of a call on its own SN goes on, or is done. -/
def callDeliver (a : P2pId) (c : Nat) (call : Call) (notify : SnTunnelRendezvousNotify)
    (stage : Stage) (input : Input) : Net :=
  match stage with
  | .done (.ok response) => n.setCall a c call (n.sns a).table (.answered response)
  | .done (.error err) =>
    n.setCall a c call (n.sns a).table
      (if err.code = .targetNotFound then .querying notify else .failing)
  | stage =>
    (n.note a call.request.toPeerId notify a c stage input).setCall a c call (n.sns a).table
      (.delivering notify ((n.sns a).deliver call.request.toPeerId notify stage input))

/-- The next lease of `relay_rendezvous_to_serving_sn`. -/
def callRelay (a : P2pId) (c : Nat) (call : Call) (notify : SnTunnelRendezvousNotify) :
    List P2pId → Net
  | [] => n.setCall a c call (n.sns a).table .failing
  | lease :: leases =>
    if lease = a then n.setCall a c call (n.sns a).table (.relaying notify leases)
    else
      { n.setCall a c call (n.sns a).table (.relayed notify n.relays.length leases) with
        relays := n.relays ++ [⟨a, c, lease, call.request.toPeerId, notify, none⟩] }

/-- The answer of the other SN, when there is one. -/
def callRelayed (a : P2pId) (c : Nat) (call : Call) (notify : SnTunnelRendezvousNotify)
    (relay : Nat) (leases : List P2pId) : Net :=
  match (n.relays[relay]?).bind Relay.stage with
  | some (.done (.ok response)) =>
    n.setCall a c call (n.sns a).table
      (if (response.validate notify.seq notify.needPredictEndpoint).toBool then .answered response
      else .failing)
  | some (.done (.error _)) => n.setCall a c call (n.sns a).table (.relaying notify leases)
  | _ => n

/-- The executor caches its response. -/
def callCache (a : P2pId) (c : Nat) (call : Call) (response : SnTunnelRendezvousResp)
    (now : Timestamp) : Net :=
  n.setCall a c call ((n.sns a).table.step (.cacheResponse call.initiator call.request response now))
    (match ((n.sns a).table.state.cacheResponse call.initiator call.request response now).result with
      | .ok () => .returned response
      | .error _ => .failing)

/-- The outcome of a waiter, when it has been sent. -/
def callAwait (a : P2pId) (c : Nat) (call : Call) (waiter : Nat) : Net :=
  match (n.sns a).table.outcomes.find? fun x => x.1 = waiter with
  | some (_, .ok response) => n.setCall a c call (n.sns a).table (.returned response)
  | some (_, .error _) =>
    n.setCall a c call (n.sns a).table (.returned (.failure call.request.seq))
  | none => n

/-- The call `c` of the SN `a` goes on. -/
def callStep (a : P2pId) (c : Nat) (call : Call) (input : Input) : Net :=
  match call.phase, input with
  | .received, .cert peerInfo => n.setCall a c call (n.sns a).table (n.owns a call peerInfo)
  | .received, .refuse =>
    n.setCall a c call (n.sns a).table (.returned (.failure call.request.seq))
  | .owned notify, .go now =>
    n.setCall a c call ((n.sns a).table.step (.begin call.initiator call.request now))
      (begun notify ((n.sns a).table.begins call.initiator call.request now).result)
  | .delivering .., .timeout | .querying _, .timeout | .relaying .., .timeout
  | .relayed .., .timeout => n.setCall a c call (n.sns a).table .failing
  | .delivering .., .cancel | .querying _, .cancel | .relaying .., .cancel
  | .relayed .., .cancel => n.dropGuard a c call .cancelled
  | .delivering notify stage, input => n.callDeliver a c call notify stage input
  | .querying notify, .leases leases =>
    n.setCall a c call (n.sns a).table (.relaying notify leases)
  | .relaying notify leases, .go _ => n.callRelay a c call notify leases
  | .relaying notify (_ :: leases), .lost =>
    n.setCall a c call (n.sns a).table (.relaying notify leases)
  | .relayed notify relay leases, .go _ => n.callRelayed a c call notify relay leases
  | .relayed notify _ leases, .lost =>
    n.setCall a c call (n.sns a).table (.relaying notify leases)
  | .answered response, .go now => n.callCache a c call response now
  | .failing, .go _ => n.dropGuard a c call (.returned (.failure call.request.seq))
  | .waiting waiter, .go _ => n.callAwait a c call waiter
  | .waiting _, .timeout =>
    n.setCall a c call (n.sns a).table (.returned (.failure call.request.seq))
  | _, _ => n

def setRelay (r : Nat) (relay : Relay) (stage : Stage) : Net :=
  { n with relays := n.relays.set r { relay with stage := some stage } }

/-- `relay_rendezvous_from_sn` on the other SN; `certId` is the id in a certificate. -/
def relayStep (certId : List U8 → P2pResult P2pId) (r : Nat) (relay : Relay) (input : Input) : Net :=
  match relay.stage, input with
  | none, .go _ =>
    match relay.notify.validate, certId relay.notify.peerInfo with
    | .error err, _ => n.setRelay r relay (.done (.error err))
    | .ok (), .error err => n.setRelay r relay (.done (.error err))
    | .ok (), .ok initiator =>
      if initiator = relay.target then
        n.setRelay r relay
          (.done (.error ⟨.permissionDenied, "rendezvous initiator and target must differ"⟩))
      else n.setRelay r relay .starting
  | none, .refuse =>
    n.setRelay r relay (.done (.error ⟨.permissionDenied, "inter-sn connection rejected"⟩))
  | some stage, input =>
    (n.note relay.toSn relay.target relay.notify relay.fromSn relay.call stage input).setRelay r relay
      ((n.sns relay.toSn).deliver relay.target relay.notify stage input)
  | _, _ => n

def step (certId : List U8 → P2pResult P2pId) (n : Net) : Event → Net
  | .connect a peerId remote =>
    n.setSn a { n.sns a with tunnels := (n.sns a).tunnels ++ [⟨peerId, remote, true⟩] }
  | .disconnect a conn =>
    match (n.sns a).tunnels[conn]? with
    | some tunnel =>
      n.setSn a { n.sns a with tunnels := (n.sns a).tunnels.set conn { tunnel with live := false } }
    | none => n
  | .addPeer a peerId => n.setSn a { n.sns a with peers := Function.update (n.sns a).peers peerId true }
  | .removePeer a peerId =>
    n.setSn a { n.sns a with
      peers := Function.update (n.sns a).peers peerId false
      table := (n.sns a).table.step (.removePeer peerId) }
  | .request a conn request =>
    match (n.sns a).tunnels[conn]? with
    | some tunnel =>
      if tunnel.live then
        n.setSn a { n.sns a with
          calls := (n.sns a).calls ++ [⟨tunnel.peerId, conn, request, .received⟩] }
      else n
    | none => n
  | .call a c input =>
    match (n.sns a).calls[c]? with
    | some call => n.callStep a c call input
    | none => n
  | .relay r input =>
    match n.relays[r]? with
    | some relay => n.relayStep certId r relay input
    | none => n

def start : Net := ⟨fun _ => ⟨[], fun _ => false, .init, []⟩, [], [], []⟩

end Net

/-! ## What a state vouches for -/

/-- The endpoints of the response were observed for the target when the response was checked. -/
def Endorsed (n : Net) (target : P2pId) (response : SnTunnelRendezvousResp) : Prop :=
  ∀ e ∈ response.predictedEndpointArray, ∃ check ∈ n.checks, check.target = target ∧
    check.response = response ∧ e.addr.ip ∈ check.observed.map fun o => o.addr.ip

/-- What was observed are remote ends of command tunnels of the target. -/
def Seen (n : Net) (check : Check) : Prop :=
  ∀ o ∈ check.observed, ∃ (i : Nat) (tunnel : Tunnel),
    (n.sns check.sn).tunnels[i]? = some tunnel ∧ tunnel.peerId = check.target ∧ tunnel.remote = o

/-- The notify has the endpoints of a call to that target, and they are those of its tunnel. -/
def Sourced (n : Net) (a : P2pId) (c : Nat) (target : P2pId) (notify : SnTunnelRendezvousNotify) :
    Prop :=
  ∃ call tunnel, (n.sns a).calls[c]? = some call ∧ (n.sns a).tunnels[call.conn]? = some tunnel ∧
    tunnel.peerId = call.initiator ∧ call.request.toPeerId = target ∧
    notify.endPointArray = call.request.endPointArray ∧
    ∀ e ∈ notify.endPointArray, e.addr.ip = tunnel.remote.addr.ip

def StageOk (n : Net) (target : P2pId) : Stage → Prop
  | .done (.ok response) => Endorsed n target response
  | _ => True

def PhaseOk (n : Net) (a : P2pId) (c : Nat) (call : Call) : Phase → Prop
  | .owned notify | .querying notify | .relaying notify _ =>
    Sourced n a c call.request.toPeerId notify
  | .delivering notify stage =>
    Sourced n a c call.request.toPeerId notify ∧ StageOk n call.request.toPeerId stage
  | .relayed notify relay _ =>
    Sourced n a c call.request.toPeerId notify ∧
      ∃ r, n.relays[relay]? = some r ∧ r.target = call.request.toPeerId
  | .answered response | .returned response => Endorsed n call.request.toPeerId response
  | .waiting waiter =>
    (n.sns a).table.joined[waiter]? = some (call.initiator, call.request)
  | .received | .failing | .cancelled => True

/-- The tunnel of the call is one of its initiator. -/
def Carried (n : Net) (a : P2pId) (call : Call) : Prop :=
  ∃ tunnel, (n.sns a).tunnels[call.conn]? = some tunnel ∧ tunnel.peerId = call.initiator

structure RelayOk (n : Net) (relay : Relay) : Prop where
  sourced : Sourced n relay.fromSn relay.call relay.target relay.notify
  stage : ∀ stage, relay.stage = some stage → StageOk n relay.target stage

structure Inv (n : Net) : Prop where
  tidy : ∀ a, (n.sns a).table.Tidy
  outcomes : ∀ a w response, (w, .ok response) ∈ (n.sns a).table.outcomes →
    ∃ i request, (n.sns a).table.joined[w]? = some (i, request) ∧
      Endorsed n request.toPeerId response
  carried : ∀ a (c : Nat) call, (n.sns a).calls[c]? = some call → Carried n a call
  calls : ∀ a (c : Nat) call, (n.sns a).calls[c]? = some call → PhaseOk n a c call call.phase
  relays : ∀ (r : Nat) relay, n.relays[r]? = some relay → RelayOk n relay
  checks : ∀ check ∈ n.checks, Seen n check
  notified : ∀ x ∈ n.notified, Sourced n x.fromSn x.call x.target x.notify

/-- What stays: the tunnels and calls with what they are made of, the waiters, the relays with their
targets, and what was checked. -/
structure Grows (n n' : Net) : Prop where
  checks : ∀ check ∈ n.checks, check ∈ n'.checks
  tunnels : ∀ a (i : Nat) tunnel, (n.sns a).tunnels[i]? = some tunnel →
    ∃ tunnel', (n'.sns a).tunnels[i]? = some tunnel' ∧ tunnel'.peerId = tunnel.peerId ∧
      tunnel'.remote = tunnel.remote
  calls : ∀ a (c : Nat) call, (n.sns a).calls[c]? = some call →
    ∃ call', (n'.sns a).calls[c]? = some call' ∧ call'.initiator = call.initiator ∧
      call'.conn = call.conn ∧ call'.request = call.request
  joined : ∀ a (w : Nat) x, (n.sns a).table.joined[w]? = some x →
    (n'.sns a).table.joined[w]? = some x
  relays : ∀ (r : Nat) relay, n.relays[r]? = some relay →
    ∃ relay', n'.relays[r]? = some relay' ∧ relay'.target = relay.target

section Mono

variable {n n' : Net} {a target : P2pId} {c : Nat} {call : Call} (g : Grows n n')

include g

theorem Endorsed.mono {response : SnTunnelRendezvousResp} (h : Endorsed n target response) :
    Endorsed n' target response := by
  intro e he
  obtain ⟨check, hmem, hrest⟩ := h e he
  exact ⟨check, g.checks check hmem, hrest⟩

theorem Seen.mono {check : Check} (h : Seen n check) : Seen n' check := by
  intro o ho
  obtain ⟨i, tunnel, hi, hpeer, hremote⟩ := h o ho
  obtain ⟨tunnel', hi', hpeer', hremote'⟩ := g.tunnels _ i tunnel hi
  exact ⟨i, tunnel', hi', hpeer'.trans hpeer, hremote'.trans hremote⟩

theorem Sourced.mono {notify : SnTunnelRendezvousNotify} (h : Sourced n a c target notify) :
    Sourced n' a c target notify := by
  obtain ⟨call, tunnel, hcall, htunnel, hpeer, htarget, hends, hips⟩ := h
  obtain ⟨call', hcall', hinitiator, hconn, hrequest⟩ := g.calls a c call hcall
  obtain ⟨tunnel', htunnel', hpeer', hremote⟩ := g.tunnels a call.conn tunnel htunnel
  refine ⟨call', tunnel', hcall', hconn ▸ htunnel', ?_, ?_, ?_, ?_⟩
  · rw [hpeer', hpeer, hinitiator]
  · rw [hrequest, htarget]
  · rw [hends, hrequest]
  · intro e he
    rw [hips e he, hremote]

theorem StageOk.mono {stage : Stage} (h : StageOk n target stage) : StageOk n' target stage := by
  unfold StageOk at h ⊢
  split at h
  · exact Endorsed.mono g h
  · trivial

theorem PhaseOk.mono {phase : Phase} (h : PhaseOk n a c call phase) : PhaseOk n' a c call phase := by
  cases phase with
  | owned notify => exact Sourced.mono g h
  | querying notify => exact Sourced.mono g h
  | relaying notify leases => exact Sourced.mono g h
  | delivering notify stage => exact ⟨Sourced.mono g h.1, StageOk.mono g h.2⟩
  | relayed notify relay leases =>
    obtain ⟨hsourced, r, hr, htarget⟩ := h
    obtain ⟨r', hr', htarget'⟩ := g.relays relay r hr
    exact ⟨Sourced.mono g hsourced, r', hr', htarget'.trans htarget⟩
  | answered response => exact Endorsed.mono g h
  | returned response => exact Endorsed.mono g h
  | waiting waiter => exact g.joined a waiter _ h
  | received | failing | cancelled => trivial

theorem Carried.mono (h : Carried n a call) : Carried n' a call := by
  obtain ⟨tunnel, htunnel, hpeer⟩ := h
  obtain ⟨tunnel', htunnel', hpeer', -⟩ := g.tunnels a call.conn tunnel htunnel
  exact ⟨tunnel', htunnel', hpeer'.trans hpeer⟩

theorem RelayOk.mono {relay : Relay} (h : RelayOk n relay) : RelayOk n' relay :=
  ⟨Sourced.mono g h.sourced, fun stage hstage => StageOk.mono g (h.stage stage hstage)⟩

/-- The invariant holds of a later state when it holds of what is new there. -/
theorem Inv.grow (h : Inv n) (htidy : ∀ a, (n'.sns a).table.Tidy)
    (houtcomes : ∀ a w response, (w, .ok response) ∈ (n'.sns a).table.outcomes →
      (w, .ok response) ∈ (n.sns a).table.outcomes ∨
        ∃ i request, (n'.sns a).table.joined[w]? = some (i, request) ∧
          Endorsed n' request.toPeerId response)
    (hcalls : ∀ a (c : Nat) call, (n'.sns a).calls[c]? = some call →
      (n.sns a).calls[c]? = some call ∨ Carried n' a call ∧ PhaseOk n' a c call call.phase)
    (hrelays : ∀ (r : Nat) relay, n'.relays[r]? = some relay →
      n.relays[r]? = some relay ∨ RelayOk n' relay)
    (hchecks : ∀ check ∈ n'.checks, check ∈ n.checks ∨ Seen n' check)
    (hnotified : ∀ x ∈ n'.notified,
      x ∈ n.notified ∨ Sourced n' x.fromSn x.call x.target x.notify) : Inv n' where
  tidy := htidy
  outcomes a w response hmem := by
    rcases houtcomes a w response hmem with hold | hnew
    · obtain ⟨i, request, hjoined, hgood⟩ := h.outcomes a w response hold
      exact ⟨i, request, g.joined a w _ hjoined, Endorsed.mono g hgood⟩
    · exact hnew
  carried a c call hcall := by
    rcases hcalls a c call hcall with hold | hnew
    · exact Carried.mono g (h.carried a c call hold)
    · exact hnew.1
  calls a c call hcall := by
    rcases hcalls a c call hcall with hold | hnew
    · exact PhaseOk.mono g (h.calls a c call hold)
    · exact hnew.2
  relays r relay hr := by
    rcases hrelays r relay hr with hold | hnew
    · exact RelayOk.mono g (h.relays r relay hold)
    · exact hnew
  checks check hmem := by
    rcases hchecks check hmem with hold | hnew
    · exact Seen.mono g (h.checks check hold)
    · exact hnew
  notified x hmem := by
    rcases hnotified x hmem with hold | hnew
    · exact Sourced.mono g (h.notified x hold)
    · exact hnew

end Mono

/-! ## The rendezvous table -/

/-- A response that an operation sends to a waiter is that of the operation, and the waiter asked
for the same target. -/
theorem sent_target {s : System} (h : s.Tidy) {op : Op} {w : Nat} {response : SnTunnelRendezvousResp}
    (hmem : (w, .ok response) ∈ (s.step op).outcomes) :
    (w, .ok response) ∈ s.outcomes ∨ ∃ i request now, op = .cacheResponse i request response now ∧
      ∃ i' request', s.joined[w]? = some (i', request') ∧ request'.toPeerId = request.toPeerId := by
  obtain ⟨sent, hsent, hcause⟩ := sent_in_flight s op
  rw [hsent, List.mem_append] at hmem
  refine hmem.imp id fun hmem => ?_
  obtain ⟨i, request, now, e, rfl, hl, hw⟩ := hcause w response hmem
  obtain ⟨i', request', hjoined, -, heq'⟩ := h.place _ e hl w hw
  have hsends : (s.state.cacheResponse i request response now).sends = sent :=
    List.append_cancel_left hsent
  rcases s.state.cacheResponse_cases i request response now with
    ⟨-, hnone, -⟩ | ⟨e', -, -, heq⟩ | ⟨e', hl', -, hreq, -, -⟩
  · rw [hnone] at hsends
    rw [← hsends] at hmem
    cases hmem
  · rw [heq] at hsends
    rw [← hsends] at hmem
    cases (RendezvousState.mem_drain hmem).1
  · cases hl.symm.trans hl'
    refine ⟨i, request, now, rfl, i', request', hjoined, ?_⟩
    rw [← (SnTunnelRendezvous.eq_fields heq').2.2.1, (SnTunnelRendezvous.eq_fields hreq).2.2.1]

theorem joined_step (s : System) (op : Op) : s.joined <+: (s.step op).joined := by
  cases op with
  | begin i request now =>
    unfold System.step
    dsimp only
    split
    · exact List.prefix_append ..
    · exact List.prefix_rfl
  | cacheResponse i request response now => exact List.prefix_rfl
  | failUnanswered i request => exact List.prefix_rfl
  | removePeer peerId => exact List.prefix_rfl

theorem getElem?_of_prefix {α : Type*} {l l' : List α} (h : l <+: l') {i : Nat} {x : α}
    (hx : l[i]? = some x) : l'[i]? = some x := by
  obtain ⟨rest, rfl⟩ := h
  rw [List.getElem?_append_left (List.getElem?_eq_some_iff.mp hx).1, hx]

/-- The waiter that `begin` names is the request's own. -/
theorem begin_waiter {s : System} {i : P2pId} {request : SnTunnelRendezvous} {now : Timestamp}
    {waiter : Nat} (h : (s.begins i request now).result = .ok (.inFlight waiter)) :
    (s.step (.begin i request now)).joined[waiter]? = some (i, request) := by
  have hjoined : (s.step (.begin i request now)).joined = s.joined ++ [(i, request)] := by
    unfold System.step
    dsimp only
    rw [h]
  have hwaiter : waiter = s.joined.length := by
    unfold System.begins at h
    rcases s.state.begin_cases i request now s.joined.length with ⟨e, hl, heq⟩ | ⟨hl, heq⟩
    · rw [heq] at h
      rcases (s.state.cleanup now).state.join_cases (.new i request) e request s.joined.length with
        ⟨-, -, hres⟩ | ⟨-, -, -, hres, -⟩
      · exact absurd h (hres waiter)
      · rw [hres] at h
        cases h
        rfl
    · rw [heq] at h
      obtain ⟨-, ⟨-, err, hres⟩ | ⟨-, hres⟩⟩ := (s.state.cleanup now).state.create_cases i request now
      · rw [hres] at h
        cases h
      · rw [hres] at h
        cases h
  rw [hjoined, hwaiter]
  simp

/-! ## Small changes of a state -/

theorem Grows.refl (n : Net) : Grows n n where
  checks _ h := h
  tunnels _ _ tunnel h := ⟨tunnel, h, rfl, rfl⟩
  calls _ _ call h := ⟨call, h, rfl, rfl, rfl⟩
  joined _ _ _ h := h
  relays _ relay h := ⟨relay, h, rfl⟩

section Changes

variable {n : Net} {a : P2pId} {c : Nat} {call : Call}

@[simp] theorem setSn_self (n : Net) (a : P2pId) (sn : Sn) : (n.setSn a sn).sns a = sn :=
  Function.update_self ..

theorem setSn_ne (n : Net) {a b : P2pId} (h : b ≠ a) (sn : Sn) : (n.setSn a sn).sns b = n.sns b :=
  Function.update_of_ne h ..

/-- An SN keeps the tunnels, the calls and the waiters that it has. -/
structure SnGrows (sn sn' : Sn) : Prop where
  tunnels : ∀ (i : Nat) tunnel, sn.tunnels[i]? = some tunnel →
    ∃ tunnel', sn'.tunnels[i]? = some tunnel' ∧ tunnel'.peerId = tunnel.peerId ∧
      tunnel'.remote = tunnel.remote
  calls : ∀ (c : Nat) call, sn.calls[c]? = some call →
    ∃ call', sn'.calls[c]? = some call' ∧ call'.initiator = call.initiator ∧
      call'.conn = call.conn ∧ call'.request = call.request
  joined : sn.table.joined <+: sn'.table.joined

theorem Grows.setSn {sn : Sn} (h : SnGrows (n.sns a) sn) : Grows n (n.setSn a sn) where
  checks _ h := h
  tunnels b i tunnel hi := by
    by_cases hb : b = a
    · subst hb
      rw [setSn_self]
      exact h.tunnels i tunnel hi
    · rw [setSn_ne n hb]
      exact ⟨tunnel, hi, rfl, rfl⟩
  calls b c call hc := by
    by_cases hb : b = a
    · subst hb
      rw [setSn_self]
      exact h.calls c call hc
    · rw [setSn_ne n hb]
      exact ⟨call, hc, rfl, rfl, rfl⟩
  joined b w x hx := by
    by_cases hb : b = a
    · subst hb
      rw [setSn_self]
      exact getElem?_of_prefix h.joined hx
    · rwa [setSn_ne n hb]
  relays _ relay h := ⟨relay, h, rfl⟩

/-- One SN changes; what has to be shown is about that SN only. -/
theorem Inv.setSn (h : Inv n) {sn : Sn} (g : SnGrows (n.sns a) sn) (htidy : sn.table.Tidy)
    (houtcomes : ∀ w response, (w, .ok response) ∈ sn.table.outcomes →
      (w, .ok response) ∈ (n.sns a).table.outcomes ∨
        ∃ i request, sn.table.joined[w]? = some (i, request) ∧
          Endorsed n request.toPeerId response)
    (hcalls : ∀ (c : Nat) call, sn.calls[c]? = some call → (n.sns a).calls[c]? = some call ∨
      Carried (n.setSn a sn) a call ∧ PhaseOk (n.setSn a sn) a c call call.phase) :
    Inv (n.setSn a sn) := by
  refine h.grow (Grows.setSn g) ?_ ?_ ?_ (fun r relay hr => .inl hr) (fun check hmem => .inl hmem)
    (fun x hmem => .inl hmem)
  · intro b
    by_cases hb : b = a
    · subst hb
      rwa [setSn_self]
    · rw [setSn_ne n hb]
      exact h.tidy b
  · intro b w response hmem
    by_cases hb : b = a
    · subst hb
      rw [setSn_self] at hmem ⊢
      exact houtcomes w response hmem
    · rw [setSn_ne n hb] at hmem
      exact .inl hmem
  · intro b c call hc
    by_cases hb : b = a
    · subst hb
      rw [setSn_self] at hc
      exact hcalls c call hc
    · rw [setSn_ne n hb] at hc
      exact .inl hc

theorem snGrows_setCall (hcall : (n.sns a).calls[c]? = some call) {table : System}
    (hjoined : (n.sns a).table.joined <+: table.joined) (phase : Phase) :
    SnGrows (n.sns a) { n.sns a with
      table := table
      calls := (n.sns a).calls.set c { call with phase := phase } } where
  tunnels i tunnel hi := ⟨tunnel, hi, rfl, rfl⟩
  calls c' call' hc' := by
    by_cases heq : c = c'
    · subst heq
      cases hcall.symm.trans hc'
      have hlt := (List.getElem?_eq_some_iff.mp hcall).1
      exact ⟨{ call with phase := phase }, List.getElem?_set_self hlt, rfl, rfl, rfl⟩
    · exact ⟨call', (List.getElem?_set_ne heq).trans hc', rfl, rfl, rfl⟩
  joined := hjoined

theorem Grows.setCall (hcall : (n.sns a).calls[c]? = some call) {table : System}
    (hjoined : (n.sns a).table.joined <+: table.joined) (phase : Phase) :
    Grows n (n.setCall a c call table phase) :=
  Grows.setSn (snGrows_setCall hcall hjoined phase)

/-- A call goes on, with another table. -/
theorem Inv.setCall (h : Inv n) (hcall : (n.sns a).calls[c]? = some call) {table : System}
    {phase : Phase} (hjoined : (n.sns a).table.joined <+: table.joined) (htidy : table.Tidy)
    (houtcomes : ∀ w response, (w, .ok response) ∈ table.outcomes →
      (w, .ok response) ∈ (n.sns a).table.outcomes ∨
        ∃ i request, table.joined[w]? = some (i, request) ∧ Endorsed n request.toPeerId response)
    (hphase : PhaseOk (n.setCall a c call table phase) a c call phase) :
    Inv (n.setCall a c call table phase) := by
  refine h.setSn (snGrows_setCall hcall hjoined phase) htidy houtcomes ?_
  intro c' call' hc'
  dsimp only at hc'
  by_cases heq : c = c'
  · subst heq
    rw [List.getElem?_set_self (List.getElem?_eq_some_iff.mp hcall).1] at hc'
    cases hc'
    refine .inr ⟨?_, ?_⟩
    · exact Carried.mono (Grows.setCall hcall hjoined phase) (h.carried a c call hcall)
    · cases phase <;> exact hphase
  · rw [List.getElem?_set_ne heq] at hc'
    exact .inl hc'

/-- A call goes on with the same table. -/
theorem Inv.setPhase (h : Inv n) (hcall : (n.sns a).calls[c]? = some call) {phase : Phase}
    (hphase : PhaseOk n a c call phase) : Inv (n.setCall a c call (n.sns a).table phase) :=
  h.setCall hcall List.prefix_rfl (h.tidy a) (fun _ _ hmem => .inl hmem)
    (PhaseOk.mono (Grows.setCall hcall List.prefix_rfl phase) hphase)

/-- A call goes on with an operation of the table that answers nothing. -/
theorem Inv.setTable (h : Inv n) (hcall : (n.sns a).calls[c]? = some call) {phase : Phase} (op : Op)
    (hop : ∀ i request response now, op = .cacheResponse i request response now →
      i = call.initiator ∧ request = call.request ∧ Endorsed n call.request.toPeerId response)
    (hphase : PhaseOk (n.setCall a c call ((n.sns a).table.step op) phase) a c call phase) :
    Inv (n.setCall a c call ((n.sns a).table.step op) phase) := by
  refine h.setCall hcall (joined_step _ op) (System.tidy_step (h.tidy a) op) ?_ hphase
  intro w response hmem
  refine (sent_target (h.tidy a) hmem).imp id ?_
  rintro ⟨i, request, now, heq, i', request', hjoined, htarget⟩
  obtain ⟨-, rfl, hgood⟩ := hop i request response now heq
  exact ⟨i', request', getElem?_of_prefix (joined_step _ op) hjoined, htarget ▸ hgood⟩

end Changes

/-! ## Deliveries -/

theorem mem_peerTunnels {sn : Sn} {peerId : P2pId} {x : Nat × Tunnel}
    (h : x ∈ sn.peerTunnels peerId) : sn.tunnels[x.1]? = some x.2 ∧ x.2.peerId = peerId := by
  obtain ⟨⟨tunnel, i⟩, hmem, rfl⟩ := List.mem_map.mp h
  obtain ⟨hmem, htest⟩ := List.mem_filter.mp hmem
  have hboth := of_decide_eq_true htest
  exact ⟨List.mem_zipIdx_iff_getElem?.mp hmem, hboth.1⟩

theorem mem_observe {tunnels : List (Nat × Tunnel)} {remotes : List Endpoint} {o : Endpoint}
    (h : o ∈ Sn.observe remotes tunnels) : o ∈ remotes ∨ ∃ x ∈ tunnels, x.2.remote = o := by
  induction tunnels generalizing remotes with
  | nil => exact .inl h
  | cons x tunnels ih =>
    unfold Sn.observe at h
    split_ifs at h
    · exact (ih h).imp id fun ⟨y, hy, heq⟩ => ⟨y, List.mem_cons_of_mem x hy, heq⟩
    · rcases ih h with hmem | ⟨y, hy, heq⟩
      · rcases List.mem_append.mp hmem with hold | hnew
        · exact .inl hold
        · exact .inr ⟨x, List.mem_cons_self, (List.mem_singleton.mp hnew).symm⟩
      · exact .inr ⟨y, List.mem_cons_of_mem x hy, heq⟩

/-- What an SN observes for a peer are remote ends of the peer's tunnels. -/
theorem observed_tunnel {sn : Sn} {peerId : P2pId} {o : Endpoint}
    (h : o ∈ sn.getPeerObservedEp peerId) :
    ∃ (i : Nat) (tunnel : Tunnel), sn.tunnels[i]? = some tunnel ∧ tunnel.peerId = peerId ∧
      tunnel.remote = o := by
  rcases mem_observe h with hnil | ⟨x, hx, hremote⟩
  · cases hnil
  · exact ⟨x.1, x.2, (mem_peerTunnels hx).1, (mem_peerTunnels hx).2, hremote⟩

/-- The response passes when all of its addresses are observed. -/
theorem validate_owner {sn : Sn} {target : P2pId} {response : SnTunnelRendezvousResp}
    (h : sn.validateRendezvousResponseOwner target response = .ok ()) :
    ∀ e ∈ response.predictedEndpointArray,
      e.addr.ip ∈ (sn.getPeerObservedEp target).map fun o => o.addr.ip := by
  intro e he
  unfold Sn.validateRendezvousResponseOwner at h
  dsimp only at h
  split_ifs at h with hempty hbad
  · rw [List.isEmpty_iff.mp hempty] at he
    cases he
  · by_contra hnot
    exact hbad (.inr (List.any_eq_true.mpr ⟨e, he, decide_eq_true hnot⟩))

section Deliver

variable {n : Net} {a b target : P2pId} {c : Nat} {notify : SnTunnelRendezvousNotify} {stage : Stage}

theorem Grows.note (n : Net) (b target : P2pId) (notify : SnTunnelRendezvousNotify) (a : P2pId)
    (c : Nat) (stage : Stage) (input : Input) :
    Grows n (n.note b target notify a c stage input) := by
  unfold Net.note
  split
  · exact { Grows.refl n with checks := fun _ hmem => hmem }
  · exact { Grows.refl n with checks := fun _ hmem => List.mem_append_left _ hmem }
  · exact .refl n

theorem note_sns (n : Net) (b target : P2pId) (notify : SnTunnelRendezvousNotify) (a : P2pId)
    (c : Nat) (stage : Stage) (input : Input) :
    (n.note b target notify a c stage input).sns = n.sns := by
  unfold Net.note
  split <;> rfl

theorem note_relays (n : Net) (b target : P2pId) (notify : SnTunnelRendezvousNotify) (a : P2pId)
    (c : Nat) (stage : Stage) (input : Input) :
    (n.note b target notify a c stage input).relays = n.relays := by
  unfold Net.note
  split <;> rfl

theorem Inv.note (h : Inv n) (hsourced : Sourced n a c target notify) (stage : Stage)
    (input : Input) : Inv (n.note b target notify a c stage input) := by
  refine h.grow (Grows.note ..) ?_ ?_ ?_ ?_ ?_ ?_
  · rw [note_sns]
    exact h.tidy
  · rw [note_sns]
    exact fun a w response hmem => .inl hmem
  · rw [note_sns]
    exact fun a c call hcall => .inl hcall
  · rw [note_relays]
    exact fun r relay hr => .inl hr
  · unfold Net.note
    split
    · exact fun check hmem => .inl hmem
    · intro check hmem
      rcases List.mem_append.mp hmem with hold | hnew
      · exact .inl hold
      · obtain rfl := List.mem_singleton.mp hnew
        exact .inr fun o ho => observed_tunnel ho
    · exact fun check hmem => .inl hmem
  · unfold Net.note
    split
    · intro x hmem
      rcases List.mem_append.mp hmem with hold | hnew
      · exact .inl hold
      · obtain rfl := List.mem_singleton.mp hnew
        exact .inr hsourced
    · exact fun x hmem => .inl hmem
    · exact fun x hmem => .inl hmem

/-- A delivery that ends with a response has checked it. -/
theorem deliver_ok (h : StageOk n target stage) (input : Input) :
    StageOk (n.note b target notify a c stage input) target
      ((n.sns b).deliver target notify stage input) := by
  have hmono := StageOk.mono (Grows.note n b target notify a c stage input) h
  unfold Sn.deliver
  split
  · split_ifs
    · trivial
    · split <;> trivial
  · trivial
  · trivial
  · split <;> trivial
  · trivial
  · trivial
  · rename_i response now
    cases hvalid : (n.sns b).validateRendezvousResponseOwner target response with
    | error err => trivial
    | ok =>
      intro e he
      exact ⟨⟨b, target, response, (n.sns b).getPeerObservedEp target⟩,
        List.mem_append_right _ (List.mem_singleton.mpr rfl), rfl, rfl, validate_owner hvalid e he⟩
  · exact hmono

end Deliver

/-! ## The steps of a call -/

section Steps

variable {n : Net} {a : P2pId} {c : Nat} {call : Call}

theorem endorsed_failure (n : Net) (target : P2pId) (seq : Sequence) :
    Endorsed n target (.failure seq) := by
  rintro e ⟨⟩

/-- Endpoints that are owned have the address of the tunnel. -/
theorem owned_by {sn : Sn} {peerId : P2pId} {conn : Nat} {tunnel : Tunnel} {endpoints : List Endpoint}
    (h : sn.rendezvousEndpointsOwnedBy peerId conn endpoints = true)
    (htunnel : sn.tunnels[conn]? = some tunnel) :
    ∀ e ∈ endpoints, e.addr.ip = tunnel.remote.addr.ip := by
  intro e he
  unfold Sn.rendezvousEndpointsOwnedBy at h
  split_ifs at h with hempty
  · rw [List.isEmpty_iff.mp hempty] at he
    cases he
  · split at h
    · rename_i observed hremote
      obtain ⟨x, hfind, hobserved⟩ := Option.map_eq_some_iff.mp hremote
      have hconn : x.1 = conn := by simpa using List.find?_some hfind
      have hx := (mem_peerTunnels (List.mem_of_find?_eq_some hfind)).1
      rw [hconn, htunnel] at hx
      have hip := of_decide_eq_true (List.all_eq_true.mp h e he)
      rw [hip, ← hobserved, Option.some.inj hx]
    · cases h

/-- The check of `handle_rendezvous`: the notify has the address of the tunnel. -/
theorem owns_ok (h : Inv n) (hcall : (n.sns a).calls[c]? = some call) (peerInfo : List U8) :
    PhaseOk n a c call (n.owns a call peerInfo) := by
  unfold Net.owns
  dsimp only
  split_ifs with hall
  · obtain ⟨tunnel, htunnel, hpeer⟩ := h.carried a c call hcall
    exact ⟨call, tunnel, hcall, htunnel, hpeer, rfl, rfl, owned_by hall.2.2.1 htunnel⟩
  · exact endorsed_failure _ _ _

theorem begun_ok (h : Inv n) (hcall : (n.sns a).calls[c]? = some call)
    {notify : SnTunnelRendezvousNotify} (hsourced : Sourced n a c call.request.toPeerId notify)
    (now : Timestamp) :
    Inv (n.setCall a c call ((n.sns a).table.step (.begin call.initiator call.request now))
      (Net.begun notify ((n.sns a).table.begins call.initiator call.request now).result)) := by
  refine h.setTable hcall _ (by rintro i request response now' ⟨⟩) ?_
  have hgrows : ∀ phase, Grows n (n.setCall a c call
      ((n.sns a).table.step (.begin call.initiator call.request now)) phase) :=
    fun phase => Grows.setCall hcall (joined_step _ _) phase
  cases hresult : ((n.sns a).table.begins call.initiator call.request now).result with
  | error err => exact endorsed_failure _ _ _
  | ok began =>
    cases began with
    | new => exact ⟨Sourced.mono (hgrows _) hsourced, trivial⟩
    | cached response =>
      intro e he
      rw [(cached_empty (h.tidy a) hresult).1] at he
      cases he
    | inFlight waiter =>
      show ((n.setCall a c call _ _).sns a).table.joined[waiter]? = _
      rw [Net.setCall, setSn_self]
      exact begin_waiter hresult

theorem dropGuard_ok (h : Inv n) (hcall : (n.sns a).calls[c]? = some call) {phase : Phase}
    (hphase : PhaseOk n a c call phase) : Inv (n.dropGuard a c call phase) :=
  h.setTable hcall _ (by rintro i request response now ⟨⟩)
    (PhaseOk.mono (Grows.setCall hcall (joined_step ..) phase) hphase)

theorem callCache_ok (h : Inv n) (hcall : (n.sns a).calls[c]? = some call)
    {response : SnTunnelRendezvousResp} (hgood : Endorsed n call.request.toPeerId response)
    (now : Timestamp) : Inv (n.callCache a c call response now) := by
  refine h.setTable hcall _ ?_ ?_
  · rintro i request response' now' ⟨⟩
    exact ⟨rfl, rfl, hgood⟩
  · refine PhaseOk.mono (Grows.setCall hcall (joined_step ..) _) ?_
    split
    · exact hgood
    · trivial

theorem callAwait_ok (h : Inv n) (hcall : (n.sns a).calls[c]? = some call) {waiter : Nat}
    (hjoined : (n.sns a).table.joined[waiter]? = some (call.initiator, call.request)) :
    Inv (n.callAwait a c call waiter) := by
  unfold Net.callAwait
  split
  · rename_i waiter' response hfind
    have hwaiter : waiter' = waiter := by simpa using List.find?_some hfind
    subst hwaiter
    obtain ⟨i, request, hjoined', hgood⟩ :=
      h.outcomes a waiter' response (List.mem_of_find?_eq_some hfind)
    cases hjoined.symm.trans hjoined'
    exact h.setPhase hcall hgood
  · exact h.setPhase hcall (endorsed_failure _ _ _)
  · exact h

theorem callDeliver_ok (h : Inv n) (hcall : (n.sns a).calls[c]? = some call)
    {notify : SnTunnelRendezvousNotify} (hsourced : Sourced n a c call.request.toPeerId notify)
    {stage : Stage} (hstage : StageOk n call.request.toPeerId stage) (input : Input) :
    Inv (n.callDeliver a c call notify stage input) := by
  unfold Net.callDeliver
  split
  · exact h.setPhase hcall hstage
  · split_ifs
    · exact h.setPhase hcall hsourced
    · exact h.setPhase hcall trivial
  · have hnote := h.note (b := a) hsourced stage input
    have hmono := Grows.note n a call.request.toPeerId notify a c stage input
    have hsame := note_sns n a call.request.toPeerId notify a c stage input
    have hphase : PhaseOk (n.note a call.request.toPeerId notify a c stage input) a c call
        (.delivering notify ((n.sns a).deliver call.request.toPeerId notify stage input)) :=
      ⟨Sourced.mono hmono hsourced, deliver_ok hstage input⟩
    have hnext := hnote.setPhase (by rwa [hsame]) hphase
    rwa [hsame] at hnext

theorem callRelayed_ok (h : Inv n) (hcall : (n.sns a).calls[c]? = some call)
    {notify : SnTunnelRendezvousNotify} (hsourced : Sourced n a c call.request.toPeerId notify)
    {relay : Nat} {r : Relay} (hr : n.relays[relay]? = some r)
    (htarget : r.target = call.request.toPeerId) (leases : List P2pId) :
    Inv (n.callRelayed a c call notify relay leases) := by
  unfold Net.callRelayed
  split
  · rename_i response hdone
    rw [hr] at hdone
    split_ifs
    · have hgood := (h.relays relay r hr).stage _ hdone
      rw [htarget] at hgood
      exact h.setPhase hcall hgood
    · exact h.setPhase hcall trivial
  · exact h.setPhase hcall hsourced
  · exact h

/-- The request to another SN goes out. -/
theorem Inv.addRelay (h : Inv n) {relay : Relay} (hrelay : RelayOk n relay) :
    Inv { n with relays := n.relays ++ [relay] } := by
  have hgrows : Grows n { n with relays := n.relays ++ [relay] } :=
    { Grows.refl n with
      relays := fun r old hr => ⟨old, getElem?_of_prefix (List.prefix_append ..) hr, rfl⟩ }
  refine h.grow hgrows h.tidy (fun a w response hmem => .inl hmem) (fun a c call hcall => .inl hcall)
    ?_ (fun check hmem => .inl hmem) (fun x hmem => .inl hmem)
  intro r new hr
  by_cases hlt : r < n.relays.length
  · rw [List.getElem?_append_left hlt] at hr
    exact .inl hr
  · rw [List.getElem?_append_right (by omega), List.getElem?_singleton] at hr
    split_ifs at hr
    cases hr
    exact .inr (RelayOk.mono hgrows hrelay)

theorem callRelay_ok (h : Inv n) (hcall : (n.sns a).calls[c]? = some call)
    {notify : SnTunnelRendezvousNotify} (hsourced : Sourced n a c call.request.toPeerId notify)
    (leases : List P2pId) : Inv (n.callRelay a c call notify leases) := by
  unfold Net.callRelay
  cases leases with
  | nil => exact h.setPhase hcall trivial
  | cons lease leases =>
    dsimp only
    split_ifs
    · exact h.setPhase hcall hsourced
    · have hrelay : RelayOk n ⟨a, c, lease, call.request.toPeerId, notify, none⟩ :=
        ⟨hsourced, by rintro stage ⟨⟩⟩
      refine (h.addRelay hrelay).setPhase hcall ⟨hsourced, _, List.getElem?_concat_length, rfl⟩

theorem callStep_ok (h : Inv n) (hcall : (n.sns a).calls[c]? = some call) (input : Input) :
    Inv (n.callStep a c call input) := by
  have hphase := h.calls a c call hcall
  unfold Net.callStep
  cases hp : call.phase with
  | received =>
    cases input with
    | cert peerInfo => exact h.setPhase hcall (owns_ok h hcall peerInfo)
    | refuse => exact h.setPhase hcall (endorsed_failure _ _ _)
    | _ => exact h
  | owned notify =>
    rw [hp] at hphase
    cases input with
    | go now => exact begun_ok h hcall hphase now
    | _ => exact h
  | delivering notify stage =>
    rw [hp] at hphase
    cases input with
    | timeout => exact h.setPhase hcall trivial
    | cancel => exact dropGuard_ok h hcall trivial
    | _ => exact callDeliver_ok h hcall hphase.1 hphase.2 _
  | querying notify =>
    rw [hp] at hphase
    cases input with
    | timeout => exact h.setPhase hcall trivial
    | cancel => exact dropGuard_ok h hcall trivial
    | leases leases => exact h.setPhase hcall hphase
    | _ => exact h
  | relaying notify leases =>
    rw [hp] at hphase
    cases input with
    | timeout => exact h.setPhase hcall trivial
    | cancel => exact dropGuard_ok h hcall trivial
    | go now => exact callRelay_ok h hcall hphase leases
    | lost =>
      cases leases with
      | nil => exact h
      | cons lease leases => exact h.setPhase hcall hphase
    | _ => exact h
  | relayed notify relay leases =>
    rw [hp] at hphase
    obtain ⟨hsourced, r, hr, htarget⟩ := hphase
    cases input with
    | timeout => exact h.setPhase hcall trivial
    | cancel => exact dropGuard_ok h hcall trivial
    | go now => exact callRelayed_ok h hcall hsourced hr htarget leases
    | lost => exact h.setPhase hcall hsourced
    | _ => exact h
  | answered response =>
    rw [hp] at hphase
    cases input with
    | go now => exact callCache_ok h hcall hphase now
    | _ => exact h
  | failing =>
    cases input with
    | go now => exact dropGuard_ok h hcall (endorsed_failure _ _ _)
    | _ => exact h
  | waiting waiter =>
    rw [hp] at hphase
    cases input with
    | go now => exact callAwait_ok h hcall hphase
    | timeout => exact h.setPhase hcall (endorsed_failure _ _ _)
    | _ => exact h
  | returned response | cancelled =>
    cases input <;> exact h

/-! ## The steps of a relay -/

theorem Inv.setRelay (h : Inv n) {r : Nat} {relay : Relay} (hr : n.relays[r]? = some relay)
    {stage : Stage} (hstage : StageOk n relay.target stage) : Inv (n.setRelay r relay stage) := by
  have hlt := (List.getElem?_eq_some_iff.mp hr).1
  have hgrows : Grows n (n.setRelay r relay stage) := by
    refine { Grows.refl n with relays := fun r' old hold => ?_ }
    by_cases heq : r = r'
    · subst heq
      cases hr.symm.trans hold
      exact ⟨{ relay with stage := some stage }, List.getElem?_set_self hlt, rfl⟩
    · exact ⟨old, (List.getElem?_set_ne heq).trans hold, rfl⟩
  refine h.grow hgrows h.tidy (fun a w response hmem => .inl hmem) (fun a c call hcall => .inl hcall)
    ?_ (fun check hmem => .inl hmem) (fun x hmem => .inl hmem)
  intro r' new hnew
  by_cases heq : r = r'
  · subst heq
    have hself := List.getElem?_set_self (a := { relay with stage := some stage }) hlt
    cases hself.symm.trans hnew
    refine .inr ⟨Sourced.mono hgrows (h.relays r relay hr).sourced, ?_⟩
    rintro stage' ⟨⟩
    exact StageOk.mono hgrows hstage
  · exact .inl ((List.getElem?_set_ne heq).symm.trans hnew)

theorem relayStep_ok (certId : List U8 → P2pResult P2pId) (h : Inv n) {r : Nat} {relay : Relay}
    (hr : n.relays[r]? = some relay) (input : Input) : Inv (n.relayStep certId r relay input) := by
  obtain ⟨hsourced, hstages⟩ := h.relays r relay hr
  unfold Net.relayStep
  cases hp : relay.stage with
  | none =>
    cases input with
    | go now =>
      dsimp only
      split
      · exact h.setRelay hr trivial
      · exact h.setRelay hr trivial
      · split_ifs
        · exact h.setRelay hr trivial
        · exact h.setRelay hr trivial
    | refuse => exact h.setRelay hr trivial
    | _ => exact h
  | some stage =>
    have hnote := h.note (b := relay.toSn) hsourced stage input
    refine hnote.setRelay ?_ (deliver_ok (hstages stage hp) input)
    rwa [note_relays]

/-! ## Runs -/

theorem Inv.step (certId : List U8 → P2pResult P2pId) (h : Inv n) (ev : Event) :
    Inv (n.step certId ev) := by
  cases ev with
  | connect a peerId remote =>
    refine h.setSn ⟨fun i tunnel hi => ?_, fun c call hc => ⟨call, hc, rfl, rfl, rfl⟩,
      List.prefix_rfl⟩ (h.tidy a) (fun w response hmem => .inl hmem) fun c call hc => .inl hc
    exact ⟨tunnel, getElem?_of_prefix (List.prefix_append ..) hi, rfl, rfl⟩
  | disconnect a conn =>
    unfold Net.step
    dsimp only
    split
    · rename_i tunnel htunnel
      have hlt := (List.getElem?_eq_some_iff.mp htunnel).1
      refine h.setSn ⟨fun i old hi => ?_, fun c call hc => ⟨call, hc, rfl, rfl, rfl⟩,
        List.prefix_rfl⟩ (h.tidy a) (fun w response hmem => .inl hmem) fun c call hc => .inl hc
      by_cases heq : conn = i
      · subst heq
        cases htunnel.symm.trans hi
        exact ⟨{ tunnel with live := false }, List.getElem?_set_self hlt, rfl, rfl⟩
      · exact ⟨old, (List.getElem?_set_ne heq).trans hi, rfl, rfl⟩
    · exact h
  | addPeer a peerId =>
    exact h.setSn ⟨fun i tunnel hi => ⟨tunnel, hi, rfl, rfl⟩,
      fun c call hc => ⟨call, hc, rfl, rfl, rfl⟩, List.prefix_rfl⟩ (h.tidy a)
      (fun w response hmem => .inl hmem) fun c call hc => .inl hc
  | removePeer a peerId =>
    refine h.setSn ⟨fun i tunnel hi => ⟨tunnel, hi, rfl, rfl⟩,
      fun c call hc => ⟨call, hc, rfl, rfl, rfl⟩, joined_step ..⟩
      (System.tidy_step (h.tidy a) _) (fun w response hmem => ?_) fun c call hc => .inl hc
    refine (sent_target (h.tidy a) hmem).imp id ?_
    rintro ⟨i, request, now, ⟨⟩, -⟩
  | request a conn request =>
    unfold Net.step
    dsimp only
    split
    · rename_i tunnel htunnel
      split_ifs
      · refine h.setSn ⟨fun i tunnel hi => ⟨tunnel, hi, rfl, rfl⟩, fun c call hc => ?_,
          List.prefix_rfl⟩ (h.tidy a) (fun w response hmem => .inl hmem) fun c call hc => ?_
        · exact ⟨call, getElem?_of_prefix (List.prefix_append ..) hc, rfl, rfl, rfl⟩
        · by_cases hlt : c < (n.sns a).calls.length
          · dsimp only at hc
            rw [List.getElem?_append_left hlt] at hc
            exact .inl hc
          · dsimp only at hc
            rw [List.getElem?_append_right (by omega), List.getElem?_singleton] at hc
            split_ifs at hc
            cases hc
            refine .inr ⟨⟨tunnel, ?_, rfl⟩, trivial⟩
            rw [setSn_self]
            exact htunnel
      · exact h
    · exact h
  | call a c input =>
    unfold Net.step
    dsimp only
    split
    · rename_i call hcall
      exact callStep_ok h hcall input
    · exact h
  | relay r input =>
    unfold Net.step
    dsimp only
    split
    · rename_i relay hr
      exact relayStep_ok certId h hr input
    · exact h

theorem inv_start : Inv .start where
  tidy _ := System.tidy_init
  outcomes _ _ _ hmem := by cases hmem
  carried _ _ _ hc := by cases hc
  calls _ _ _ hc := by cases hc
  relays _ _ hr := by cases hr
  checks _ hmem := by cases hmem
  notified _ hmem := by cases hmem

/-- In every state of a run: a response that a call returns has only addresses that were observed
for the target when an SN checked this response; what an SN observed for a target are remote ends of
the target's command tunnels with it; and a notify that went to a target has only the address of the
command tunnel of the call that it comes from. -/
theorem rendezvous_owned (certId : List U8 → P2pResult P2pId) (evs : List Event) :
    (∀ a (c : Nat) call response, ((exec (Net.step certId) .start evs).sns a).calls[c]? = some call →
      call.phase = .returned response →
      Endorsed (exec (Net.step certId) .start evs) call.request.toPeerId response) ∧
    (∀ check ∈ (exec (Net.step certId) .start evs).checks,
      Seen (exec (Net.step certId) .start evs) check) ∧
    ∀ x ∈ (exec (Net.step certId) .start evs).notified,
      Sourced (exec (Net.step certId) .start evs) x.fromSn x.call x.target x.notify := by
  have h : Inv (exec (Net.step certId) .start evs) :=
    exec_inv_all (fun n ev h => h.step certId ev) inv_start evs
  refine ⟨fun a c call response hcall hreturned => ?_, h.checks, h.notified⟩
  have hphase := h.calls a c call hcall
  rwa [hreturned] at hphase

/-- A call of `[1]` on the SN `[8]`, relayed to the SN `[9]` of its target `[2]`. -/
def relayedCall : List Event :=
  [.connect [8] [1] ⟨.wan, .quic, .v4 ⟨198, 51, 100, 7⟩ 5000⟩,
    .connect [9] [2] ⟨.wan, .quic, .v4 ⟨203, 0, 113, 5⟩ 6000⟩, .addPeer [9] [2],
    .request [8] 0 ⟨7, 9, [2], .waitIncoming, [], true⟩, .call [8] 0 (.cert []),
    .call [8] 0 (.go 1), .call [8] 0 (.cursor 0), .call [8] 0 (.go 2),
    .call [8] 0 (.leases [[9]]), .call [8] 0 (.go 3), .relay 0 (.go 3), .relay 0 (.cursor 4),
    .relay 0 (.go 4), .relay 0 (.response ⟨7, 0, [⟨.serverReflexive, .quic,
      .v4 ⟨203, 0, 113, 5⟩ 6001⟩]⟩), .relay 0 (.go 5), .call [8] 0 (.go 6), .call [8] 0 (.go 7)]

example : ((exec (Net.step fun _ => .ok [1]) .start relayedCall).sns [8]).calls.map (fun call =>
    match call.phase with
    | .returned response => response.predictedEndpointArray.length
    | _ => 0) = [1] := by decide +kernel

end Steps

end BuckyP2p.Rendezvous.Ownership
