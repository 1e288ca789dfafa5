import BuckyP2p.Directory.Calls
import BuckyP2p.Directory.OwnerClient
import BuckyP2p.Lib.Table

/-!
# BuckyP2p.Directory.OwnerService — the commands of an owner (`directory/server.rs`)

`OwnerDirectoryService` behind its two planes: the owners send `InterSnRequest`s to
`dispatch_owner_cmd`, the serving SNs commands to `dispatch_owner_serving_cmd`.  The sender is the
id that its connection has been authenticated with.

* The election node with its suspended calls is a `Host`; what it does between commands is an event
  of its own.
* The decoders of the bodies of the serving plane are parameters.
* `written` is not in the code: it is what came into the store, with who sent it.
-/

namespace BuckyP2p.Directory

open Lib

structure PeerRoute where
  peerId : P2pId
  servingSnId : P2pId
  sequence : U64
  deriving DecidableEq

namespace PeerRoute

def fromLease (lease : ServingLease) : PeerRoute :=
  ⟨lease.peerId, lease.servingSnId, lease.sequence⟩

def toLease (route : PeerRoute) (expiresAt : Timestamp) : ServingLease :=
  ⟨route.peerId, route.servingSnId, route.sequence, expiresAt⟩

/-- The order of `query`: the sequence downwards, then the id. -/
def newer (left right : PeerRoute) : Prop :=
  right.sequence < left.sequence ∨
    left.sequence = right.sequence ∧ left.servingSnId ≤ right.servingSnId

instance : DecidableRel newer := fun _ _ => inferInstanceAs (Decidable (_ ∨ _ ∧ _))

end PeerRoute

namespace OwnerControlPlane

/-- `is_online` of the session. -/
def isServingOnline (cp : OwnerControlPlane) (servingSnId : P2pId) (now : Timestamp) : Bool :=
  match cp.sessions servingSnId with
  | some session => session.state = .online ∧ now < session.expiresAt
  | none => false

def servingOnlineExpiresAt (cp : OwnerControlPlane) (servingSnId : P2pId) (now : Timestamp) :
    Option Timestamp :=
  if cp.isServingOnline servingSnId now then (cp.sessions servingSnId).map (·.expiresAt) else none

end OwnerControlPlane

/-- The routes of a peer, by their serving SN. -/
abbrev PeerRouteStore := Table P2pId (Table P2pId PeerRoute)

namespace PeerRouteStore

def peerRoutes (routes : PeerRouteStore) (peerId : P2pId) : Table P2pId PeerRoute :=
  (routes.lookup peerId).getD ∅

/-- The store has no newer route of the peer to that SN. -/
def admits (routes : PeerRouteStore) (route : PeerRoute) : Bool :=
  match (routes.peerRoutes route.peerId).lookup route.servingSnId with
  | some existing => decide (existing.sequence ≤ route.sequence)
  | none => true

def putRoute (routes : PeerRouteStore) (route : PeerRoute) : PeerRouteStore × Bool :=
  if routes.admits route then
    (routes.insert route.peerId
      ((routes.peerRoutes route.peerId).insert route.servingSnId route), true)
  else (routes, false)

/-- The routes to SNs that are not online are dropped. -/
def query (routes : PeerRouteStore) (peerId : P2pId) (cp : OwnerControlPlane) (now : Timestamp) :
    PeerRouteStore × List PeerRoute :=
  match routes.lookup peerId with
  | none => (routes, [])
  | some peerRoutes =>
    let kept := Table.retain (fun _ route => cp.isServingOnline route.servingSnId now) peerRoutes
    (routes.insert peerId kept, (kept.entries.map (·.2)).insertionSort PeerRoute.newer)

end PeerRouteStore

inductive ValidateResult
  | accept
  | reject (reason : String)

inductive InterSnCommand
  | heartbeat | publishLease | queryLease | queryDetail | relayCall | relayRendezvous

structure SnInterServiceValidator where
  validateConnection : P2pId → P2pResult ValidateResult
  validateCommand : P2pId → InterSnCommand → P2pId → P2pResult ValidateResult

def allowAllSnInterServiceValidator : SnInterServiceValidator :=
  ⟨fun _ => .ok .accept, fun _ _ _ => .ok .accept⟩

def requireAccept (operation : String) : P2pResult ValidateResult → P2pResult Unit
  | .ok .accept => .ok ()
  | .ok (.reject reason) =>
    .error ⟨.permissionDenied, "inter-sn " ++ operation ++ " rejected: " ++ reason⟩
  | .error err => .error err

structure OwnerDirectoryService where
  membership : ServingMembership
  interServiceValidator : SnInterServiceValidator
  host : Host
  freshUntil : P2pId → Option Timestamp
  routes : PeerRouteStore
  written : List (P2pId × PeerRoute)

inductive InterSnCommandCode
  | heartbeat | publishLease | queryLease | queryDetail | relayCall | relayRendezvousV2
  deriving DecidableEq

/-- What an owner does not read of a request is left out. -/
inductive InterSnRequest
  | heartbeat (memberSnId : P2pId)
  | ownerVote (request : OwnerVoteRequest)
  | ownerControlHeartbeat (request : OwnerHeartbeatRequest)
  | ownerSessionReplication (request : OwnerSessionReplication)
  | ownerSessionForward (request : OwnerSessionForward)
  | publishLease (lease : ServingLease)
  | queryLease (peerId : P2pId)
  | queryDetail (peerId : P2pId)
  | relayCall
  | relayRendezvous (targetPeerId : P2pId)

/-- The answers of the election node are those of the host. -/
inductive InterSnResponse
  | heartbeat (refreshed : Bool)
  | election (response : Response)
  | published (written : Bool)
  | leases (leases : List ServingLease)
  | error (err : P2pError)

inductive OwnerServingCommandCode
  | publishLease | queryLease
  deriving DecidableEq

namespace OwnerDirectoryService

def new (localSnId : P2pId) (membership : ServingMembership)
    (interServiceValidator : SnInterServiceValidator) (now : Timestamp) : OwnerDirectoryService where
  membership := membership
  interServiceValidator := interServiceValidator
  host := .init (.withControlPlane localSnId membership.toOwnerMembership now)
  freshUntil id :=
    if membership.isMember id then
      some (saturatingAdd now (durationToBuckyTime membership.memberHealthTtl))
    else none
  routes := ∅
  written := []

variable (s : OwnerDirectoryService)

def controlPlane : OwnerControlPlane := s.host.node.controlPlane

def validateConnection (remoteSnId : P2pId) : P2pResult Unit :=
  requireAccept "connection" (s.interServiceValidator.validateConnection remoteSnId)

def validateCommand (remoteSnId : P2pId) (command : InterSnCommand) (peerId : P2pId) :
    P2pResult Unit :=
  requireAccept "command" (s.interServiceValidator.validateCommand remoteSnId command peerId)

def refreshOwnerMember (memberSnId : P2pId) (now : Timestamp) : OwnerDirectoryService × Bool :=
  if s.membership.isMember memberSnId then
    ({ s with
      freshUntil := Function.update s.freshUntil memberSnId
        (some (saturatingAdd now (durationToBuckyTime s.membership.memberHealthTtl))) }, true)
  else (s, false)

/-- `put_route` takes the route of the lease. -/
def takes (lease : ServingLease) (now : Timestamp) : Bool :=
  s.controlPlane.isServingOnline lease.servingSnId now && s.routes.admits (.fromLease lease)

/-- `put_lease_route`; `remoteSnId` is for `written` only. -/
def publishServingLease (remoteSnId : P2pId) (lease : ServingLease) (now : Timestamp) :
    OwnerDirectoryService × Bool :=
  if s.controlPlane.isServingOnline lease.servingSnId now then
    let put := s.routes.putRoute (.fromLease lease)
    ({ s with
      routes := put.1
      written := if put.2 then s.written ++ [(remoteSnId, .fromLease lease)] else s.written }, put.2)
  else (s, false)

def queryServingLeases (peerId : P2pId) (now : Timestamp) :
    OwnerDirectoryService × List ServingLease :=
  let queried := s.routes.query peerId s.controlPlane now
  ({ s with routes := queried.1 },
    queried.2.filterMap fun route =>
      (s.controlPlane.servingOnlineExpiresAt route.servingSnId now).map route.toLease)

def publishLeaseFromSn (remoteSnId : P2pId) (lease : ServingLease) (now : Timestamp) :
    OwnerDirectoryService × P2pResult Bool :=
  match s.validateConnection remoteSnId with
  | .error err => (s, .error err)
  | .ok () =>
    match s.validateCommand remoteSnId .publishLease lease.peerId with
    | .error err => (s, .error err)
    | .ok () =>
      let refreshed := (s.refreshOwnerMember remoteSnId now).1
      let published := refreshed.publishServingLease remoteSnId lease now
      (published.1, .ok published.2)

def queryLeasesFromSn (remoteSnId peerId : P2pId) (now : Timestamp) :
    OwnerDirectoryService × P2pResult (List ServingLease) :=
  match s.validateConnection remoteSnId with
  | .error err => (s, .error err)
  | .ok () =>
    match s.validateCommand remoteSnId .queryLease peerId with
    | .error err => (s, .error err)
    | .ok () =>
      let refreshed := (s.refreshOwnerMember remoteSnId now).1
      let queried := refreshed.queryServingLeases peerId now
      (queried.1, .ok queried.2)

def publishLeaseFromServingSn (servingSnId : P2pId) (lease : ServingLease) (now : Timestamp) :
    OwnerDirectoryService × P2pResult Bool :=
  match s.validateConnection servingSnId with
  | .error err => (s, .error err)
  | .ok () =>
    if lease.servingSnId ≠ servingSnId then
      (s, .error ⟨.permissionDenied,
        "serving lease serving_sn_id does not match remote serving sn id"⟩)
    else
      match s.validateCommand servingSnId .publishLease lease.peerId with
      | .error err => (s, .error err)
      | .ok () =>
        let published := s.publishServingLease servingSnId lease now
        (published.1, .ok published.2)

def queryLeasesFromServingSn (servingSnId peerId : P2pId) (now : Timestamp) :
    OwnerDirectoryService × P2pResult (List ServingLease) :=
  match s.validateConnection servingSnId with
  | .error err => (s, .error err)
  | .ok () =>
    match s.validateCommand servingSnId .queryLease peerId with
    | .error err => (s, .error err)
    | .ok () =>
      let queried := s.queryServingLeases peerId now
      (queried.1, .ok queried.2)

def heartbeatFromSn (remoteSnId memberSnId : P2pId) (now : Timestamp) :
    OwnerDirectoryService × P2pResult Bool :=
  match s.validateConnection remoteSnId with
  | .error err => (s, .error err)
  | .ok () =>
    if remoteSnId ≠ memberSnId then
      (s, .error ⟨.permissionDenied, "owner heartbeat member id does not match remote sn id"⟩)
    else
      match s.validateCommand remoteSnId .heartbeat memberSnId with
      | .error err => (s, .error err)
      | .ok () =>
        let refreshed := s.refreshOwnerMember memberSnId now
        (refreshed.1, .ok refreshed.2)

/-- The election node gets the request; its answer may come later. -/
def receiveOwner (remoteSnId : P2pId) (req : ReqId) (request : Request) (now : Timestamp) :
    OwnerDirectoryService × Option InterSnResponse :=
  let served := s.host.step (.recv remoteSnId req request now)
  ({ s with host := served.1 },
    served.2.outputs.findSome? fun
      | .response _ _ body => some (.election body)
      | .request _ _ _ => none)

/-- `unwrap_or_else` of a result, answered at once. -/
def respond {α : Type} (respond : α → InterSnResponse)
    (result : OwnerDirectoryService × P2pResult α) :
    OwnerDirectoryService × Option InterSnResponse :=
  (result.1,
    match result.2 with
    | .ok answer => some (respond answer)
    | .error err => some (.error err))

def notSupport (s : OwnerDirectoryService) (msg : String) :
    OwnerDirectoryService × Option InterSnResponse :=
  (s, some (.error ⟨.notSupport, msg⟩))

def dispatchOwnerCmd (remoteSnId : P2pId) (req : ReqId) (command : InterSnCommandCode)
    (request : InterSnRequest) (now : Timestamp) : OwnerDirectoryService × Option InterSnResponse :=
  match command, request with
  | .heartbeat, .heartbeat memberSnId =>
    respond .heartbeat (s.heartbeatFromSn remoteSnId memberSnId now)
  | .heartbeat, .ownerVote request => s.receiveOwner remoteSnId req (.vote request) now
  | .heartbeat, .ownerControlHeartbeat request =>
    s.receiveOwner remoteSnId req (.heartbeat request) now
  | .heartbeat, .ownerSessionReplication request =>
    s.receiveOwner remoteSnId req (.replicate request) now
  | .heartbeat, .ownerSessionForward request =>
    s.receiveOwner remoteSnId req (.forward request) now
  | .publishLease, .publishLease lease =>
    respond .published (s.publishLeaseFromSn remoteSnId lease now)
  | .queryLease, .queryLease peerId =>
    respond .leases (s.queryLeasesFromSn remoteSnId peerId now)
  -- `OwnerDirectoryServer` has only the default bodies of the next three
  | .queryDetail, .queryDetail _ =>
    s.notSupport "inter-sn peer does not support serving detail query"
  | .relayCall, .relayCall => s.notSupport "inter-sn peer does not support serving relay call"
  | .relayRendezvousV2, .relayRendezvous _ =>
    s.notSupport "inter-sn peer does not support rendezvous relay"
  | _, _ => (s, some (.error ⟨.invalidData, "inter-sn command code and payload mismatch"⟩))

/-- `body` is what `read_all` gives. -/
def dispatchOwnerServingCmd (decodeLease : List U8 → Option ServingLease)
    (decodeQuery : List U8 → Option P2pId) (remoteSnId : P2pId) (command : OwnerServingCommandCode)
    (body : P2pResult (List U8)) (now : Timestamp) : OwnerDirectoryService × OwnerServingResponse :=
  match body with
  | .error _ => (s, .error ⟨.failed, "read owner serving command body failed"⟩)
  | .ok bytes =>
    match command with
    | .publishLease =>
      match decodeLease bytes with
      | some lease =>
        let published := s.publishLeaseFromServingSn remoteSnId lease now
        (published.1, match published.2 with
          | .ok written => .published written
          | .error err => .error err)
      | none => (s, .error ⟨.rawCodecError, "decode serving publish lease failed"⟩)
    | .queryLease =>
      match decodeQuery bytes with
      | some peerId =>
        let queried := s.queryLeasesFromServingSn remoteSnId peerId now
        (queried.1, match queried.2 with
          | .ok leases => .leases leases
          | .error err => .error err)
      | none => (s, .error ⟨.rawCodecError, "decode serving query lease failed"⟩)

end OwnerDirectoryService

/-- A command on one of the planes, or the election node going on by itself. -/
inductive ServiceEvent
  | ownerCmd (remoteSnId : P2pId) (req : ReqId) (command : InterSnCommandCode)
      (request : InterSnRequest) (now : Timestamp)
  | ownerServingCmd (remoteSnId : P2pId) (command : OwnerServingCommandCode)
      (body : P2pResult (List U8)) (now : Timestamp)
  | node (input : Input)

namespace OwnerDirectoryService

variable (decodeLease : List U8 → Option ServingLease) (decodeQuery : List U8 → Option P2pId)
  (s : OwnerDirectoryService)

def step (s : OwnerDirectoryService) : ServiceEvent → OwnerDirectoryService
  | .ownerCmd remoteSnId req command request now =>
    (s.dispatchOwnerCmd remoteSnId req command request now).1
  | .ownerServingCmd remoteSnId command body now =>
    (s.dispatchOwnerServingCmd decodeLease decodeQuery remoteSnId command body now).1
  | .node input => { s with host := (s.host.step input).1 }

/-- The command is answered with an error. -/
def Fails (s : OwnerDirectoryService) : ServiceEvent → Prop
  | .ownerCmd remoteSnId req command request now =>
    ∃ err, (s.dispatchOwnerCmd remoteSnId req command request now).2 = some (.error err)
  | .ownerServingCmd remoteSnId command body now =>
    ∃ err,
      (s.dispatchOwnerServingCmd decodeLease decodeQuery remoteSnId command body now).2 = .error err
  | .node _ => False

/-- The sender may bring a route to the serving SN. -/
def Authentic (members : List P2pId) (remoteSnId servingSnId : P2pId) : Prop :=
  remoteSnId = servingSnId ∨ remoteSnId ∈ members

instance (members : List P2pId) (remoteSnId servingSnId : P2pId) :
    Decidable (Authentic members remoteSnId servingSnId) := inferInstanceAs (Decidable (_ ∨ _))

/-- A lease that comes on the plane of the owners, and that the store takes, is from an owner or
from the SN that it names. -/
def Vouched (s : OwnerDirectoryService) : ServiceEvent → Prop
  | .ownerCmd remoteSnId _ .publishLease (.publishLease lease) now =>
    s.takes lease now = true → Authentic s.membership.members remoteSnId lease.servingSnId
  | _ => True

variable {decodeLease decodeQuery} {s}

/-! ## The parts -/

@[simp] theorem refreshOwnerMember_membership (id : P2pId) (now : Timestamp) :
    (s.refreshOwnerMember id now).1.membership = s.membership := by
  unfold refreshOwnerMember
  split_ifs <;> rfl

@[simp] theorem refreshOwnerMember_validator (id : P2pId) (now : Timestamp) :
    (s.refreshOwnerMember id now).1.interServiceValidator = s.interServiceValidator := by
  unfold refreshOwnerMember
  split_ifs <;> rfl

@[simp] theorem refreshOwnerMember_written (id : P2pId) (now : Timestamp) :
    (s.refreshOwnerMember id now).1.written = s.written := by
  unfold refreshOwnerMember
  split_ifs <;> rfl

/-- The record of the members is not read by the store. -/
@[simp] theorem refreshOwnerMember_takes (id : P2pId) (now : Timestamp) (lease : ServingLease)
    (at' : Timestamp) : (s.refreshOwnerMember id now).1.takes lease at' = s.takes lease at' := by
  unfold refreshOwnerMember
  split_ifs <;> rfl

theorem publishServingLease_written (remoteSnId : P2pId) (lease : ServingLease) (now : Timestamp) :
    (s.publishServingLease remoteSnId lease now).1.written =
      if s.takes lease now then s.written ++ [(remoteSnId, PeerRoute.fromLease lease)]
      else s.written := by
  unfold publishServingLease takes
  by_cases honline : s.controlPlane.isServingOnline lease.servingSnId now = true
  · by_cases hadmits : s.routes.admits (.fromLease lease) = true
    · simp [honline, hadmits, PeerRouteStore.putRoute]
    · simp [honline, hadmits, PeerRouteStore.putRoute]
  · simp [honline]

theorem publishServingLease_membership (remoteSnId : P2pId) (lease : ServingLease)
    (now : Timestamp) :
    (s.publishServingLease remoteSnId lease now).1.membership = s.membership := by
  unfold publishServingLease
  split_ifs <;> rfl

theorem publishServingLease_validator (remoteSnId : P2pId) (lease : ServingLease)
    (now : Timestamp) :
    (s.publishServingLease remoteSnId lease now).1.interServiceValidator =
      s.interServiceValidator := by
  unfold publishServingLease
  split_ifs <;> rfl

/-- The membership and the validator are never changed. -/
def SameSetup (s s' : OwnerDirectoryService) : Prop :=
  s'.membership = s.membership ∧ s'.interServiceValidator = s.interServiceValidator

/-- What a command may do to `written`: nothing, or it brings the route of a lease that the store
takes. -/
def Brings (s s' : OwnerDirectoryService) (remoteSnId : P2pId) (lease : ServingLease)
    (now : Timestamp) : Prop :=
  s.takes lease now = true ∧ s'.written = s.written ++ [(remoteSnId, .fromLease lease)]

theorem publishLeaseFromSn_cases (remoteSnId : P2pId) (lease : ServingLease) (now : Timestamp) :
    SameSetup s (s.publishLeaseFromSn remoteSnId lease now).1 ∧
      ((s.publishLeaseFromSn remoteSnId lease now).1.written = s.written ∨
        Brings s (s.publishLeaseFromSn remoteSnId lease now).1 remoteSnId lease now) ∧
      ∀ err, (s.publishLeaseFromSn remoteSnId lease now).2 = .error err →
        (s.publishLeaseFromSn remoteSnId lease now).1 = s := by
  unfold publishLeaseFromSn
  cases s.validateConnection remoteSnId with
  | error err => exact ⟨⟨rfl, rfl⟩, .inl rfl, fun _ _ => rfl⟩
  | ok =>
    dsimp only
    cases s.validateCommand remoteSnId .publishLease lease.peerId with
    | error err => exact ⟨⟨rfl, rfl⟩, .inl rfl, fun _ _ => rfl⟩
    | ok =>
      dsimp only
      refine ⟨⟨?_, ?_⟩, ?_, by rintro err ⟨⟩⟩
      · rw [publishServingLease_membership, refreshOwnerMember_membership]
      · rw [publishServingLease_validator, refreshOwnerMember_validator]
      · rw [Brings, publishServingLease_written, refreshOwnerMember_takes,
          refreshOwnerMember_written]
        by_cases htakes : s.takes lease now = true
        · exact .inr ⟨htakes, if_pos htakes⟩
        · exact .inl (if_neg htakes)

theorem publishLeaseFromServingSn_cases (servingSnId : P2pId) (lease : ServingLease)
    (now : Timestamp) :
    SameSetup s (s.publishLeaseFromServingSn servingSnId lease now).1 ∧
      ((s.publishLeaseFromServingSn servingSnId lease now).1.written = s.written ∨
        lease.servingSnId = servingSnId ∧
          Brings s (s.publishLeaseFromServingSn servingSnId lease now).1 servingSnId lease now) ∧
      ∀ err, (s.publishLeaseFromServingSn servingSnId lease now).2 = .error err →
        (s.publishLeaseFromServingSn servingSnId lease now).1 = s := by
  unfold publishLeaseFromServingSn
  cases s.validateConnection servingSnId with
  | error err => exact ⟨⟨rfl, rfl⟩, .inl rfl, fun _ _ => rfl⟩
  | ok =>
    dsimp only
    by_cases hown : lease.servingSnId = servingSnId
    · rw [if_neg (not_not.mpr hown)]
      cases s.validateCommand servingSnId .publishLease lease.peerId with
      | error err => exact ⟨⟨rfl, rfl⟩, .inl rfl, fun _ _ => rfl⟩
      | ok =>
        dsimp only
        refine ⟨⟨?_, ?_⟩, ?_, by rintro err ⟨⟩⟩
        · rw [publishServingLease_membership]
        · rw [publishServingLease_validator]
        · rw [Brings, publishServingLease_written]
          by_cases htakes : s.takes lease now = true
          · exact .inr ⟨hown, htakes, if_pos htakes⟩
          · exact .inl (if_neg htakes)
    · rw [if_pos hown]
      exact ⟨⟨rfl, rfl⟩, .inl rfl, fun _ _ => rfl⟩

/-- A command that publishes nothing: it keeps `written`, and an error has changed nothing. -/
structure Quiet {α : Type} (s : OwnerDirectoryService)
    (result : OwnerDirectoryService × P2pResult α) : Prop where
  setup : SameSetup s result.1
  written : result.1.written = s.written
  error : ∀ err, result.2 = .error err → result.1 = s

theorem quiet_error {α : Type} (err : P2pError) :
    Quiet s (s, (.error err : P2pResult α)) := ⟨⟨rfl, rfl⟩, rfl, fun _ _ => rfl⟩

theorem queryLeasesFromSn_quiet (remoteSnId peerId : P2pId) (now : Timestamp) :
    Quiet s (s.queryLeasesFromSn remoteSnId peerId now) := by
  unfold queryLeasesFromSn
  cases s.validateConnection remoteSnId with
  | error err => exact quiet_error err
  | ok =>
    dsimp only
    cases s.validateCommand remoteSnId .queryLease peerId with
    | error err => exact quiet_error err
    | ok =>
      refine ⟨⟨?_, ?_⟩, ?_, by rintro err ⟨⟩⟩
      · exact refreshOwnerMember_membership remoteSnId now
      · exact refreshOwnerMember_validator remoteSnId now
      · exact refreshOwnerMember_written remoteSnId now

theorem queryLeasesFromServingSn_quiet (servingSnId peerId : P2pId) (now : Timestamp) :
    Quiet s (s.queryLeasesFromServingSn servingSnId peerId now) := by
  unfold queryLeasesFromServingSn
  cases s.validateConnection servingSnId with
  | error err => exact quiet_error err
  | ok =>
    dsimp only
    cases s.validateCommand servingSnId .queryLease peerId with
    | error err => exact quiet_error err
    | ok => exact ⟨⟨rfl, rfl⟩, rfl, by rintro err ⟨⟩⟩

theorem heartbeatFromSn_quiet (remoteSnId memberSnId : P2pId) (now : Timestamp) :
    Quiet s (s.heartbeatFromSn remoteSnId memberSnId now) := by
  unfold heartbeatFromSn
  cases s.validateConnection remoteSnId with
  | error err => exact quiet_error err
  | ok =>
    dsimp only
    split_ifs with hne
    · exact quiet_error _
    · cases s.validateCommand remoteSnId .heartbeat memberSnId with
      | error err => exact quiet_error err
      | ok =>
        refine ⟨⟨?_, ?_⟩, ?_, by rintro err ⟨⟩⟩
        · exact refreshOwnerMember_membership memberSnId now
        · exact refreshOwnerMember_validator memberSnId now
        · exact refreshOwnerMember_written memberSnId now

/-- What the election node answers is no error. -/
theorem receiveOwner_ne_error (remoteSnId : P2pId) (req : ReqId) (request : Request)
    (now : Timestamp) (err : P2pError) :
    (s.receiveOwner remoteSnId req request now).2 ≠ some (.error err) := by
  intro h
  obtain ⟨output, -, houtput⟩ := List.exists_of_findSome?_eq_some h
  cases output <;> cases houtput

theorem respond_error {α : Type} {respond' : α → InterSnResponse}
    {result : OwnerDirectoryService × P2pResult α} (hne : ∀ answer err, respond' answer ≠ .error err)
    {err : P2pError} (h : (respond respond' result).2 = some (.error err)) :
    ∃ err, result.2 = .error err := by
  unfold respond at h
  cases hresult : result.2 with
  | ok answer =>
    rw [hresult] at h
    exact absurd (Option.some.inj h) (hne answer err)
  | error err => exact ⟨err, rfl⟩

/-! ## One command -/

/-- A command that is answered with an error has changed nothing. -/
theorem fails_unchanged (ev : ServiceEvent) (h : s.Fails decodeLease decodeQuery ev) :
    s.step decodeLease decodeQuery ev = s := by
  cases ev with
  | ownerCmd remoteSnId req command request now =>
    obtain ⟨err, herr⟩ := h
    show (s.dispatchOwnerCmd remoteSnId req command request now).1 = s
    revert herr
    unfold dispatchOwnerCmd
    split
    case h_1 memberSnId =>
      intro herr
      obtain ⟨err', herr'⟩ := respond_error (by rintro _ _ ⟨⟩) herr
      exact (heartbeatFromSn_quiet ..).error err' herr'
    case h_6 lease =>
      intro herr
      obtain ⟨err', herr'⟩ := respond_error (by rintro _ _ ⟨⟩) herr
      exact (publishLeaseFromSn_cases ..).2.2 err' herr'
    case h_7 peerId =>
      intro herr
      obtain ⟨err', herr'⟩ := respond_error (by rintro _ _ ⟨⟩) herr
      exact (queryLeasesFromSn_quiet ..).error err' herr'
    case h_2 | h_3 | h_4 | h_5 => exact fun herr => (receiveOwner_ne_error _ _ _ _ _ herr).elim
    case h_8 | h_9 | h_10 | h_11 => exact fun _ => rfl
  | ownerServingCmd remoteSnId command body now =>
    obtain ⟨err, herr⟩ := h
    show (s.dispatchOwnerServingCmd decodeLease decodeQuery remoteSnId command body now).1 = s
    revert herr
    unfold dispatchOwnerServingCmd
    cases body with
    | error err => exact fun _ => rfl
    | ok bytes =>
      cases command with
      | publishLease =>
        dsimp only
        cases decodeLease bytes with
        | none => exact fun _ => rfl
        | some lease =>
          dsimp only
          cases hresult : (s.publishLeaseFromServingSn remoteSnId lease now).2 with
          | ok written => rintro ⟨⟩
          | error err' => exact fun _ => (publishLeaseFromServingSn_cases ..).2.2 err' hresult
      | queryLease =>
        dsimp only
        cases decodeQuery bytes with
        | none => exact fun _ => rfl
        | some peerId =>
          dsimp only
          cases hresult : (s.queryLeasesFromServingSn remoteSnId peerId now).2 with
          | ok leases => rintro ⟨⟩
          | error err' => exact fun _ => (queryLeasesFromServingSn_quiet ..).error err' hresult
  | node input => exact h.elim

/-- What is written by a command: nothing, the lease of a vouched command, or a lease of the sender
itself. -/
theorem step_written (ev : ServiceEvent) :
    SameSetup s (s.step decodeLease decodeQuery ev) ∧
      ((s.step decodeLease decodeQuery ev).written = s.written ∨
        ∃ remoteSnId lease now, Brings s (s.step decodeLease decodeQuery ev) remoteSnId lease now ∧
          (remoteSnId = lease.servingSnId ∨
            ∃ req, ev = .ownerCmd remoteSnId req .publishLease (.publishLease lease) now)) := by
  cases ev with
  | ownerCmd remoteSnId req command request now =>
    unfold step dispatchOwnerCmd
    dsimp only
    split
    case h_1 memberSnId => exact ⟨(heartbeatFromSn_quiet ..).setup, .inl (heartbeatFromSn_quiet ..).written⟩
    case h_6 lease =>
      obtain ⟨hsetup, hwritten, -⟩ := publishLeaseFromSn_cases (s := s) remoteSnId lease now
      refine ⟨hsetup, hwritten.imp id fun hbrings => ?_⟩
      exact ⟨remoteSnId, lease, now, hbrings, .inr ⟨req, rfl⟩⟩
    case h_7 peerId =>
      exact ⟨(queryLeasesFromSn_quiet ..).setup, .inl (queryLeasesFromSn_quiet ..).written⟩
    case h_2 | h_3 | h_4 | h_5 | h_8 | h_9 | h_10 | h_11 => exact ⟨⟨rfl, rfl⟩, .inl rfl⟩
  | ownerServingCmd remoteSnId command body now =>
    unfold step dispatchOwnerServingCmd
    cases body with
    | error err => exact ⟨⟨rfl, rfl⟩, .inl rfl⟩
    | ok bytes =>
      cases command with
      | publishLease =>
        dsimp only
        cases decodeLease bytes with
        | none => exact ⟨⟨rfl, rfl⟩, .inl rfl⟩
        | some lease =>
          obtain ⟨hsetup, hwritten, -⟩ := publishLeaseFromServingSn_cases (s := s) remoteSnId lease now
          refine ⟨hsetup, hwritten.imp id fun hbrings => ?_⟩
          exact ⟨remoteSnId, lease, now, hbrings.2, .inl hbrings.1.symm⟩
      | queryLease =>
        dsimp only
        cases decodeQuery bytes with
        | none => exact ⟨⟨rfl, rfl⟩, .inl rfl⟩
        | some peerId =>
          exact ⟨(queryLeasesFromServingSn_quiet ..).setup,
            .inl (queryLeasesFromServingSn_quiet ..).written⟩
  | node input => exact ⟨⟨rfl, rfl⟩, .inl rfl⟩

/-- Where everything is allowed, a lease on the plane of the owners is written when the store takes
it. -/
theorem publishLease_written (hallow : s.interServiceValidator = allowAllSnInterServiceValidator)
    (remoteSnId : P2pId) (req : ReqId) (lease : ServingLease) (now : Timestamp)
    (htakes : s.takes lease now = true) :
    (s.step decodeLease decodeQuery (.ownerCmd remoteSnId req .publishLease (.publishLease lease)
      now)).written = s.written ++ [(remoteSnId, PeerRoute.fromLease lease)] := by
  have hconnection : s.validateConnection remoteSnId = .ok () := by
    rw [validateConnection, hallow]
    rfl
  have hcommand : s.validateCommand remoteSnId .publishLease lease.peerId = .ok () := by
    rw [validateCommand, hallow]
    rfl
  show (s.publishLeaseFromSn remoteSnId lease now).1.written = _
  unfold publishLeaseFromSn
  rw [hconnection]
  dsimp only
  rw [hcommand]
  dsimp only
  rw [publishServingLease_written, refreshOwnerMember_takes, refreshOwnerMember_written,
    if_pos htakes]

/-- Every route in the store was written. -/
def Recorded (s : OwnerDirectoryService) : Prop :=
  ∀ peerId servingSnId route, (s.routes.peerRoutes peerId).lookup servingSnId = some route →
    route.servingSnId = servingSnId ∧ ∃ remoteSnId, (remoteSnId, route) ∈ s.written

theorem peerRoutes_insert (routes : PeerRouteStore) (peerId peerId' : P2pId)
    (peerRoutes : Table P2pId PeerRoute) :
    PeerRouteStore.peerRoutes (routes.insert peerId peerRoutes) peerId' =
      if peerId' = peerId then peerRoutes else PeerRouteStore.peerRoutes routes peerId' := by
  unfold PeerRouteStore.peerRoutes
  split_ifs with heq
  · rw [heq, AList.lookup_insert]
    rfl
  · rw [AList.lookup_insert_ne heq]

theorem Recorded.publish (h : Recorded s) (remoteSnId : P2pId) (lease : ServingLease)
    (now : Timestamp) : Recorded (s.publishServingLease remoteSnId lease now).1 := by
  unfold publishServingLease PeerRouteStore.putRoute
  split_ifs with honline hadmits
  · intro peerId servingSnId route hroute
    dsimp only at hroute ⊢
    rw [peerRoutes_insert] at hroute
    have hkept : (s.routes.peerRoutes peerId).lookup servingSnId = some route →
        route.servingSnId = servingSnId ∧
          ∃ remoteSnId',
            (remoteSnId', route) ∈ s.written ++ [(remoteSnId, PeerRoute.fromLease lease)] :=
      fun hold => (h peerId servingSnId route hold).imp id fun ⟨remoteSnId', hmem⟩ =>
        ⟨remoteSnId', List.mem_append_left _ hmem⟩
    split_ifs at hroute with hpeer
    · by_cases hserving : servingSnId = (PeerRoute.fromLease lease).servingSnId
      · rw [hserving, AList.lookup_insert] at hroute
        cases hroute
        exact ⟨hserving.symm, remoteSnId, by simp⟩
      · rw [AList.lookup_insert_ne hserving, ← hpeer] at hroute
        exact hkept hroute
    · exact hkept hroute
  · exact h
  · exact h

theorem Recorded.query (h : Recorded s) (peerId : P2pId) (now : Timestamp) :
    Recorded (s.queryServingLeases peerId now).1 := by
  unfold queryServingLeases PeerRouteStore.query
  cases hlookup : s.routes.lookup peerId with
  | none => exact h
  | some peerRoutes =>
    intro peerId' servingSnId route hroute
    dsimp only at hroute ⊢
    rw [peerRoutes_insert] at hroute
    split_ifs at hroute with hpeer
    · refine h peerId servingSnId route ?_
      unfold PeerRouteStore.peerRoutes
      rw [hlookup]
      exact (Table.lookup_retain.mp hroute).1
    · exact h peerId' servingSnId route hroute

theorem Recorded.refresh (h : Recorded s) (id : P2pId) (now : Timestamp) :
    Recorded (s.refreshOwnerMember id now).1 := by
  unfold refreshOwnerMember
  split_ifs
  · exact h
  · exact h

theorem Recorded.step (h : Recorded s) (ev : ServiceEvent) :
    Recorded (s.step decodeLease decodeQuery ev) := by
  cases ev with
  | ownerCmd remoteSnId req command request now =>
    unfold OwnerDirectoryService.step dispatchOwnerCmd
    dsimp only
    split
    case h_1 memberSnId =>
      unfold respond heartbeatFromSn
      repeat' split
      all_goals first | exact h | exact h.refresh _ _
    case h_6 lease =>
      unfold respond publishLeaseFromSn
      repeat' split
      all_goals first | exact h | exact (h.refresh _ _).publish _ _ _
    case h_7 peerId =>
      unfold respond queryLeasesFromSn
      repeat' split
      all_goals first | exact h | exact (h.refresh _ _).query _ _
    case h_2 | h_3 | h_4 | h_5 | h_8 | h_9 | h_10 | h_11 => exact h
  | ownerServingCmd remoteSnId command body now =>
    unfold OwnerDirectoryService.step dispatchOwnerServingCmd
    dsimp only
    split
    · exact h
    · split
      · split
        · unfold publishLeaseFromServingSn
          repeat' split
          all_goals first | exact h | exact h.publish _ _ _
        · exact h
      · split
        · unfold queryLeasesFromServingSn
          repeat' split
          all_goals first | exact h | exact h.query _ _
        · exact h
  | node input => exact h

/-! ## Runs -/

/-- Every route that came into the store was brought by its SN or by an owner. -/
def AllAuthentic (members : List P2pId) (s : OwnerDirectoryService) : Prop :=
  ∀ entry ∈ s.written, Authentic members entry.1 entry.2.servingSnId

/-- The invariant of a run in which every lease is vouched for. -/
structure Sound (membership : ServingMembership) (s : OwnerDirectoryService) : Prop where
  owners : s.membership = membership
  validator : s.interServiceValidator = allowAllSnInterServiceValidator
  authentic : AllAuthentic membership.members s

theorem allAuthentic_append {members : List P2pId} {s' : OwnerDirectoryService} {remoteSnId : P2pId}
    {lease : ServingLease} (h : AllAuthentic members s)
    (hwritten : s'.written = s.written ++ [(remoteSnId, PeerRoute.fromLease lease)])
    (hauthentic : Authentic members remoteSnId lease.servingSnId) : AllAuthentic members s' := by
  intro entry hentry
  rw [hwritten, List.mem_append, List.mem_singleton] at hentry
  rcases hentry with hold | rfl
  · exact h entry hold
  · exact hauthentic

theorem Sound.step {membership : ServingMembership} (h : Sound membership s) {ev : ServiceEvent}
    (hvouched : s.Vouched ev) :
    Sound membership (s.step decodeLease decodeQuery ev) := by
  obtain ⟨⟨hmembership, hvalidator⟩, hwritten⟩ :
      SameSetup s (s.step decodeLease decodeQuery ev) ∧ _ := step_written ev
  refine ⟨hmembership.trans h.owners, hvalidator.trans h.validator, ?_⟩
  rcases hwritten with hsame | ⟨remoteSnId, lease, now, ⟨htakes, hbrings⟩, howner⟩
  · intro entry hentry
    exact h.authentic entry (hsame ▸ hentry)
  · refine allAuthentic_append h.authentic hbrings ?_
    rcases howner with hself | ⟨req, rfl⟩
    · exact .inl hself
    · have hauthentic := hvouched htakes
      rwa [h.owners] at hauthentic

/-- A lease that nobody vouches for is seen in the store. -/
theorem Sound.unvouched {membership : ServingMembership} (h : Sound membership s) {ev : ServiceEvent}
    (hnot : ¬s.Vouched ev) :
    ¬AllAuthentic membership.members (s.step decodeLease decodeQuery ev) := by
  unfold Vouched at hnot
  split at hnot
  · rename_i remoteSnId req lease now
    rw [Classical.not_imp] at hnot
    obtain ⟨htakes, hforged⟩ := hnot
    intro hall
    have hwritten : (s.step decodeLease decodeQuery (.ownerCmd remoteSnId req .publishLease
        (.publishLease lease) now)).written = _ :=
      publishLease_written h.validator remoteSnId req lease now htakes
    refine hforged ?_
    rw [h.owners]
    exact hall (remoteSnId, .fromLease lease) (by rw [hwritten]; simp)
  · exact absurd trivial hnot

/-- In every run: all leases of the plane of the owners that are taken are vouched for if and only
if every route of every state was brought by its SN or by an owner; and a command that is answered
with an error changes nothing. -/
theorem leases_authentic_iff (decodeLease : List U8 → Option ServingLease)
    (decodeQuery : List U8 → Option P2pId) (localSnId : P2pId) (membership : ServingMembership)
    (now : Timestamp) (evs : List ServiceEvent) :
    let start := new localSnId membership allowAllSnInterServiceValidator now
    (Along (step decodeLease decodeQuery) Vouched start evs ↔
      ∀ pre, pre <+: evs →
        AllAuthentic membership.members (exec (step decodeLease decodeQuery) start pre)) ∧
    Along (step decodeLease decodeQuery) (fun s ev =>
      s.Fails decodeLease decodeQuery ev → s.step decodeLease decodeQuery ev = s) start evs := by
  intro start
  have hstart : Sound membership start := ⟨rfl, rfl, by rintro entry ⟨⟩⟩
  refine ⟨?_, ?_⟩
  · exact along_iff (fun s ev h hvouched => h.step hvouched) (fun s h => h.authentic)
      (fun s ev h hnot => h.unvouched hnot) hstart evs
  · refine Along.mono ?_ (along_true start evs)
    intro s ev _ hfails
    exact fails_unchanged ev hfails

/-- In such a run a route in the store was brought by its SN or by an owner. -/
theorem route_authentic (localSnId : P2pId) (membership : ServingMembership) (now : Timestamp)
    (evs : List ServiceEvent)
    (hvouched : Along (step decodeLease decodeQuery) Vouched
      (new localSnId membership allowAllSnInterServiceValidator now) evs)
    {peerId servingSnId : P2pId} {route : PeerRoute}
    (hroute : ((exec (step decodeLease decodeQuery)
      (new localSnId membership allowAllSnInterServiceValidator now) evs).routes.peerRoutes
        peerId).lookup servingSnId = some route) :
    ∃ remoteSnId, (remoteSnId, route) ∈ (exec (step decodeLease decodeQuery)
      (new localSnId membership allowAllSnInterServiceValidator now) evs).written ∧
      Authentic membership.members remoteSnId servingSnId := by
  have hempty : Recorded (new localSnId membership allowAllSnInterServiceValidator now) := by
    rintro _ _ _ ⟨⟩
  have hsound : Sound membership (exec (step decodeLease decodeQuery)
      (new localSnId membership allowAllSnInterServiceValidator now) evs) :=
    exec_inv (fun s ev h hev => h.step hev) ⟨rfl, rfl, by rintro entry ⟨⟩⟩ hvouched
  have hrecorded : Recorded (exec (step decodeLease decodeQuery)
      (new localSnId membership allowAllSnInterServiceValidator now) evs) :=
    exec_inv_all (I := Recorded) (fun s ev h => h.step ev) hempty evs
  obtain ⟨hserving, remoteSnId, hmem⟩ := hrecorded peerId servingSnId route hroute
  exact ⟨remoteSnId, hmem, hserving ▸ hsound.authentic _ hmem⟩

/-- The only owner is `[1]`; it leads, and has a session of the SN `[7]`. -/
def soleMembership : ServingMembership :=
  ⟨⟨[[1]], by decide, by decide⟩, 1, 300000000000, fun _ => false⟩

/-- The SN `[9]`, which is no owner, publishes a route to `[7]`. -/
def forged : List ServiceEvent :=
  [.node (.submit (.renewServingSession ⟨[7], .online, 100⟩) 0), .node (.resume 0),
    .ownerCmd [9] ⟨0, 0⟩ .publishLease (.publishLease ⟨[5], [7], 1, 100⟩) 1]

theorem forged_written : ¬∀ (decodeLease : List U8 → Option ServingLease)
    (decodeQuery : List U8 → Option P2pId) (localSnId : P2pId) (membership : ServingMembership)
    (now : Timestamp) (evs : List ServiceEvent),
    AllAuthentic membership.members (exec (step decodeLease decodeQuery)
      (new localSnId membership allowAllSnInterServiceValidator now) evs) := by
  intro hall
  have hauthentic := hall (fun _ => none) (fun _ => none) [1] soleMembership 0 forged
    ([9], ⟨[5], [7], 1⟩) (by decide +kernel)
  exact absurd hauthentic (by decide +kernel)

end OwnerDirectoryService

end BuckyP2p.Directory
