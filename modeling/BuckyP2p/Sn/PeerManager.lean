import BuckyP2p.NatProbe.Scheduler

/-!
# BuckyP2p.Sn.PeerManager — the peers that an SN knows (`sn/service/peer_manager.rs`)

A certificate is a trait object in the source; `P2pIdentityCert` is the record of what the modelled
code asks it for.  `last_send_time` and `last_call_time` of a cached peer are read by no one.
-/

namespace BuckyP2p

open Lib

abbrev EncodedP2pIdentityCert : Type := List U8

structure P2pIdentityCert where
  getId : P2pId
  getEncodedCert : P2pResult EncodedP2pIdentityCert
  endpoints : List Endpoint

/-- `P2pIdentityCertFactory::create`. -/
abbrev CertFactory : Type := EncodedP2pIdentityCert → P2pResult P2pIdentityCert

def Endpoint.isStaticWan (e : Endpoint) : Bool := e.area = .wan || e.area = .mapped

namespace Sn

structure CachedPeerInfo where
  desc : P2pIdentityCert
  protocolVersion : Option U8
  mapPorts : List (Protocol × U16)
  localEps : List Endpoint
  isWan : Bool
  netProfile : NatProfile

def hasWanEndpoint (desc : P2pIdentityCert) : Bool := desc.endpoints.any Endpoint.isStaticWan

namespace CachedPeerInfo

def new (desc : P2pIdentityCert) : CachedPeerInfo where
  desc := desc
  protocolVersion := none
  mapPorts := []
  localEps := []
  isWan := hasWanEndpoint desc
  netProfile := .unknown

def updateDesc (info : CachedPeerInfo) (desc : P2pIdentityCert) : CachedPeerInfo :=
  { info with desc := desc, isWan := hasWanEndpoint desc }

end CachedPeerInfo

abbrev PeerManager : Type := Table P2pId CachedPeerInfo

namespace PeerManager

def findPeer (m : PeerManager) (id : P2pId) : Option CachedPeerInfo := m.lookup id

def removePeer (m : PeerManager) (id : P2pId) : PeerManager := m.erase id

def addOrUpdatePeer (m : PeerManager) (id : P2pId) (device : Option P2pIdentityCert)
    (protocolVersion : U8) (mapPorts : List (Protocol × U16)) (localEps : List Endpoint) :
    PeerManager :=
  match m.lookup id with
  | some peer =>
    let peer := match device with
      | some device => peer.updateDesc device
      | none => peer
    m.insert id
      { peer with protocolVersion := protocolVersion, mapPorts := mapPorts, localEps := localEps }
  | none =>
    match device with
    | some device =>
      m.insert id
        { CachedPeerInfo.new device with
          protocolVersion := protocolVersion, mapPorts := mapPorts, localEps := localEps }
    | none => m

def setNetProfile (m : PeerManager) (id : P2pId) (profile : NatProfile) : PeerManager :=
  match m.lookup id with
  | some peer => m.insert id { peer with netProfile := profile }
  | none => m

def invalidateNetProfile (m : PeerManager) (id : P2pId) : PeerManager := m.setNetProfile id .unknown

/-- The profile that is published for a peer. -/
def netProfile (m : PeerManager) (id : P2pId) : Option NatProfile :=
  (m.lookup id).map CachedPeerInfo.netProfile

variable (m : PeerManager) (id : P2pId)

theorem netProfile_removePeer (p : P2pId) :
    (m.removePeer id).netProfile p = if p = id then none else m.netProfile p := by
  unfold netProfile removePeer
  split_ifs with h
  · rw [h, AList.lookup_erase]
    rfl
  · rw [AList.lookup_erase_ne h]

theorem netProfile_setNetProfile (profile : NatProfile) (p : P2pId) :
    (m.setNetProfile id profile).netProfile p =
      if p = id then (m.netProfile p).map (fun _ => profile) else m.netProfile p := by
  unfold netProfile setNetProfile
  split_ifs with h
  · subst h
    cases hp : m.lookup p with
    | none => simp [hp]
    | some peer => simp [AList.lookup_insert]
  · cases m.lookup id with
    | none => rfl
    | some peer =>
      dsimp only
      rw [AList.lookup_insert_ne h]

/-- A peer that is known keeps its profile, and a new one has none. -/
theorem netProfile_addOrUpdatePeer (device : Option P2pIdentityCert) (protocolVersion : U8)
    (mapPorts : List (Protocol × U16)) (localEps : List Endpoint) (p : P2pId) :
    (m.addOrUpdatePeer id device protocolVersion mapPorts localEps).netProfile p =
      if p = id ∧ m.netProfile p = none then device.map fun _ => .unknown else m.netProfile p := by
  unfold netProfile addOrUpdatePeer
  by_cases h : p = id
  · subst h
    cases hp : m.lookup p with
    | none =>
      cases device with
      | none => simp [hp]
      | some device => simp [AList.lookup_insert, CachedPeerInfo.new]
    | some peer =>
      cases device with
      | none => simp [AList.lookup_insert]
      | some device => simp [AList.lookup_insert, CachedPeerInfo.updateDesc]
  · rw [if_neg fun hand => h hand.1]
    cases m.lookup id with
    | none =>
      cases device with
      | none => rfl
      | some device =>
        dsimp only
        rw [AList.lookup_insert_ne h]
    | some peer =>
      dsimp only
      rw [AList.lookup_insert_ne h]

end PeerManager

end Sn

end BuckyP2p
