import Mathlib.Data.Finset.Card
import BuckyP2p.Directory.OwnerService
import BuckyP2p.Directory.Placement

/-!
# BuckyP2p.Directory.Store — the directory of one owner by itself (`directory/store.rs`)

`OwnerDirectoryStore` puts routes of serving SNs that are online and answers queries with them.  It
writes the sessions as the leader that its own control plane names.  `accepted` is not in the code:
it is what was put.

* `Keeps`: the route that is stored is the newest that was put.
* `Covered` is the condition for it: no query while an SN of the peer is offline.
-/

namespace BuckyP2p.Directory

open Lib

/-- `ServingSnSession::online`; `ttl` in nanoseconds. -/
def ServingSnSession.online (servingSnId : P2pId) (ttl : Nat) (now : Timestamp) : ServingSnSession :=
  ⟨servingSnId, .online, saturatingAdd now (durationToBuckyTime ttl)⟩

/-- `u64::saturating_sub`. -/
def saturatingSub (a b : U64) : U64 := ⟨a.val - b.val, by omega⟩

/-- At least one microsecond, in nanoseconds. -/
def buckyTimeToDuration (delta : Timestamp) : Nat := 1000 * (max delta 1).val

namespace OwnerControlPlane

variable (m : OwnerMembership) (activeVoters : Finset P2pId) (cp : OwnerControlPlane)

def hasQuorum : Bool := decide (m.quorumSize ≤ activeVoters.card)

def appendAsLeader (leaderId : P2pId) (entry : OwnerSessionEntry) (now : Timestamp) :
    P2pResult (OwnerControlPlane × Nat) :=
  if cp.leaderId ≠ some leaderId then
    .error ⟨.permissionDenied, "owner control mutation must be submitted to current leader"⟩
  else if hasQuorum m activeVoters = false then
    .error ⟨.notFound, "owner control plane cannot commit without quorum"⟩
  else
    let log := cp.log ++ [entry]
    .ok ({ cp with
      log := log
      committedIndex := log.length
      sessions := applyEntry cp.sessions entry now }, log.length)

def renewServingOnline (leaderId servingSnId : P2pId) (ttl : Nat) (now : Timestamp) :
    P2pResult (OwnerControlPlane × Nat) :=
  appendAsLeader m activeVoters cp leaderId (.renewServingSession (.online servingSnId ttl now)) now

def renewServingSession (leaderId servingSnId : P2pId) (_epoch : U64) (ttl : Nat)
    (now : Timestamp) : P2pResult (OwnerControlPlane × Nat) :=
  renewServingOnline m activeVoters cp leaderId servingSnId ttl now

def markServingOffline (leaderId servingSnId : P2pId) (now : Timestamp) :
    P2pResult (OwnerControlPlane × Nat) :=
  appendAsLeader m activeVoters cp leaderId (.revokeServingSession servingSnId) now

def revokeServingSession (leaderId servingSnId : P2pId) (_epoch : U64) (now : Timestamp) :
    P2pResult (OwnerControlPlane × Nat) :=
  markServingOffline m activeVoters cp leaderId servingSnId now

end OwnerControlPlane

/-- `is_fresh` of a lease. -/
def ServingLease.isFresh (lease : ServingLease) (now : Timestamp) : Bool :=
  decide (now < lease.expiresAt)

structure OwnerDirectoryStore where
  membership : OwnerMembership
  activeVoters : Finset P2pId
  controlPlane : OwnerControlPlane
  routes : PeerRouteStore
  accepted : List PeerRoute

inductive StoreEvent
  | putLease (lease : ServingLease) (now : Timestamp)
  | putRoute (route : PeerRoute) (now : Timestamp)
  | renewServingSession (servingSnId : P2pId) (epoch : U64) (ttl : Nat) (now : Timestamp)
  | revokeServingSession (servingSnId : P2pId) (epoch : U64) (now : Timestamp)
  | queryRoutes (peerId : P2pId) (now : Timestamp)
  | query (peerId : P2pId) (now : Timestamp)

inductive StoreAnswer
  | put (written : Bool)
  | session (result : P2pResult Nat)
  | routes (routes : List PeerRoute)
  | leases (leases : List ServingLease)

namespace OwnerDirectoryStore

/-- A store without routes. -/
def withControlPlane (membership : OwnerMembership) (activeVoters : Finset P2pId)
    (controlPlane : OwnerControlPlane) : OwnerDirectoryStore :=
  ⟨membership, activeVoters, controlPlane, ∅, []⟩

def withMembership (membership : OwnerMembership) : OwnerDirectoryStore :=
  withControlPlane membership membership.members.toFinset (.new membership)

variable (s : OwnerDirectoryStore)

def putRoute (route : PeerRoute) (now : Timestamp) : OwnerDirectoryStore × Bool :=
  if s.controlPlane.isServingOnline route.servingSnId now then
    let put := s.routes.putRoute route
    ({ s with
      routes := put.1
      accepted := if put.2 then s.accepted ++ [route] else s.accepted }, put.2)
  else (s, false)

def queryRoutes (peerId : P2pId) (now : Timestamp) : OwnerDirectoryStore × List PeerRoute :=
  let queried := s.routes.query peerId s.controlPlane now
  ({ s with routes := queried.1 }, queried.2)

/-- What the control plane made of an entry. -/
def commit : P2pResult (OwnerControlPlane × Nat) → OwnerDirectoryStore × P2pResult Nat
  | .ok (controlPlane, index) => ({ s with controlPlane := controlPlane }, .ok index)
  | .error err => (s, .error err)

def putLease (lease : ServingLease) (now : Timestamp) : OwnerDirectoryStore × Bool :=
  if lease.isFresh now = false then (s, false)
  else
    match s.controlPlane.leaderId with
    | none => (s, false)
    | some leaderId =>
      let ttl := buckyTimeToDuration (saturatingSub lease.expiresAt now)
      match s.commit (s.controlPlane.renewServingSession s.membership s.activeVoters leaderId
          lease.servingSnId 0 ttl now) with
      | (s', .ok _) => s'.putRoute (.fromLease lease) now
      | (s', .error _) => (s', false)

def noLeader : P2pError := ⟨.notFound, "owner control plane has no current leader"⟩

def revokeServingSession (servingSnId : P2pId) (epoch : U64) (now : Timestamp) :
    OwnerDirectoryStore × P2pResult Nat :=
  match s.controlPlane.leaderId with
  | none => (s, .error noLeader)
  | some leaderId =>
    s.commit (s.controlPlane.revokeServingSession s.membership s.activeVoters leaderId servingSnId
      epoch now)

def renewServingSession (servingSnId : P2pId) (epoch : U64) (ttl : Nat) (now : Timestamp) :
    OwnerDirectoryStore × P2pResult Nat :=
  match s.controlPlane.leaderId with
  | none => (s, .error noLeader)
  | some leaderId =>
    s.commit (s.controlPlane.renewServingSession s.membership s.activeVoters leaderId servingSnId
      epoch ttl now)

def query (peerId : P2pId) (now : Timestamp) : OwnerDirectoryStore × List ServingLease :=
  let queried := s.queryRoutes peerId now
  (queried.1, queried.2.filterMap fun route =>
    (queried.1.controlPlane.servingOnlineExpiresAt route.servingSnId now).map route.toLease)

def serve : StoreEvent → OwnerDirectoryStore × StoreAnswer
  | .putLease lease now => Prod.map id .put (s.putLease lease now)
  | .putRoute route now => Prod.map id .put (s.putRoute route now)
  | .renewServingSession servingSnId epoch ttl now =>
    Prod.map id .session (s.renewServingSession servingSnId epoch ttl now)
  | .revokeServingSession servingSnId epoch now =>
    Prod.map id .session (s.revokeServingSession servingSnId epoch now)
  | .queryRoutes peerId now => Prod.map id .routes (s.queryRoutes peerId now)
  | .query peerId now => Prod.map id .leases (s.query peerId now)

def step (s : OwnerDirectoryStore) (ev : StoreEvent) : OwnerDirectoryStore := (s.serve ev).1

def answer (ev : StoreEvent) : StoreAnswer := (s.serve ev).2

end OwnerDirectoryStore

/-! ## What was put -/

namespace PeerRoute

/-- A route of the same peer to the same SN. -/
def SameKey (left right : PeerRoute) : Prop :=
  left.peerId = right.peerId ∧ left.servingSnId = right.servingSnId

def NoneNewer (accepted : List PeerRoute) (route : PeerRoute) : Prop :=
  ∀ other ∈ accepted, SameKey other route → other.sequence ≤ route.sequence

structure IsNewest (accepted : List PeerRoute) (route : PeerRoute) : Prop where
  mem : route ∈ accepted
  noneNewer : NoneNewer accepted route

theorem newer_iff (left right : PeerRoute) : newer left right ↔
    ServingMembership.ranked (left.sequence, left.servingSnId)
      (right.sequence, right.servingSnId) := Iff.rfl

/-- The strict order of `query`. -/
def Precedes (left right : PeerRoute) : Prop :=
  right.sequence < left.sequence ∨
    left.sequence = right.sequence ∧ left.servingSnId < right.servingSnId

variable {accepted : List PeerRoute} {route route' : PeerRoute}

theorem SameKey.symm (h : SameKey route route') : SameKey route' route := ⟨h.1.symm, h.2.symm⟩

/-- There is one newest route of a peer to an SN. -/
theorem IsNewest.eq (h : IsNewest accepted route) (h' : IsNewest accepted route')
    (hkey : SameKey route route') : route = route' := by
  have hle : route.sequence ≤ route'.sequence := h'.noneNewer route h.mem hkey
  have hge : route'.sequence ≤ route.sequence := h.noneNewer route' h'.mem hkey.symm
  obtain ⟨peerId, servingSnId, sequence⟩ := route
  obtain ⟨peerId', servingSnId', sequence'⟩ := route'
  obtain ⟨rfl, rfl⟩ : peerId = peerId' ∧ servingSnId = servingSnId' := hkey
  have heq : sequence = sequence' := le_antisymm hle hge
  rw [heq]

/-- A route that is put is the newest of its own, and no other changes. -/
theorem IsNewest.put_self (h : NoneNewer accepted route) : IsNewest (accepted ++ [route]) route := by
  refine ⟨by simp, fun other hother hkey => ?_⟩
  rcases List.mem_append.mp hother with hold | hnew
  · exact h other hold hkey
  · rw [List.mem_singleton.mp hnew]

theorem IsNewest.put_other (h : IsNewest accepted route) (hkey : ¬ SameKey route' route) :
    IsNewest (accepted ++ [route']) route := by
  refine ⟨List.mem_append_left _ h.mem, fun other hother hsame => ?_⟩
  rcases List.mem_append.mp hother with hold | hnew
  · exact h.noneNewer other hold hsame
  · rw [List.mem_singleton.mp hnew] at hsame
    exact absurd hsame hkey

instance : Std.Total newer where
  total left right := by
    rw [newer_iff, newer_iff]
    exact total_of ServingMembership.ranked _ _

instance : IsTrans PeerRoute newer where
  trans left middle right h h' := by
    rw [newer_iff] at h h' ⊢
    exact trans_of ServingMembership.ranked h h'

instance : Std.Antisymm Precedes where
  antisymm left right h h' := by
    exfalso
    rcases h with hlt | ⟨heq, hlt⟩
    · rcases h' with hlt' | ⟨heq', -⟩
      · exact lt_asymm hlt hlt'
      · exact ne_of_gt hlt heq'.symm
    · rcases h' with hlt' | ⟨-, hlt'⟩
      · exact ne_of_gt hlt' heq.symm
      · exact lt_asymm hlt hlt'

theorem precedes_of_newer (h : newer route route') (hne : route.servingSnId ≠ route'.servingSnId) :
    Precedes route route' := by
  rcases h with hlt | ⟨heq, hle⟩
  · exact .inl hlt
  · exact .inr ⟨heq, lt_of_le_of_ne hle hne⟩

end PeerRoute

/-! ## The routes -/

namespace PeerRouteStore

variable {routes : PeerRouteStore} {peerId : P2pId} {cp : OwnerControlPlane} {now : Timestamp}

/-- The routes of the peer to SNs that are online. -/
def online (routes : PeerRouteStore) (peerId : P2pId) (cp : OwnerControlPlane) (now : Timestamp) :
    Table P2pId PeerRoute :=
  Table.retain (fun _ route => cp.isServingOnline route.servingSnId now) (routes.peerRoutes peerId)

theorem query_answer : (routes.query peerId cp now).2 =
    ((routes.online peerId cp now).entries.map (·.2)).insertionSort PeerRoute.newer := by
  unfold query online peerRoutes
  cases routes.lookup peerId with
  | none => rfl
  | some peerRoutes => rfl

theorem query_peerRoutes (peerId' : P2pId) : (routes.query peerId cp now).1.peerRoutes peerId' =
    if peerId' = peerId then routes.online peerId cp now else routes.peerRoutes peerId' := by
  unfold query
  cases hlookup : routes.lookup peerId with
  | none =>
    dsimp only
    split_ifs with heq
    · rw [heq, online, peerRoutes, hlookup]
      rfl
    · rfl
  | some peerRoutes =>
    have honline : routes.online peerId cp now =
        Table.retain (fun _ route => cp.isServingOnline route.servingSnId now) peerRoutes := by
      rw [online, PeerRouteStore.peerRoutes, hlookup]
      rfl
    rw [honline]
    exact OwnerDirectoryService.peerRoutes_insert routes peerId peerId' _

theorem lookup_online {servingSnId : P2pId} {route : PeerRoute} :
    (routes.online peerId cp now).lookup servingSnId = some route ↔
      (routes.peerRoutes peerId).lookup servingSnId = some route ∧
        cp.isServingOnline route.servingSnId now = true := Table.lookup_retain

theorem mem_query {route : PeerRoute} : route ∈ (routes.query peerId cp now).2 ↔
    ∃ servingSnId, (routes.peerRoutes peerId).lookup servingSnId = some route ∧
      cp.isServingOnline route.servingSnId now = true := by
  rw [query_answer, List.mem_insertionSort, List.mem_map]
  constructor
  · rintro ⟨⟨servingSnId, stored⟩, hmem, rfl⟩
    exact ⟨servingSnId, lookup_online.mp (Table.mem_entries_iff.mp hmem)⟩
  · rintro ⟨servingSnId, hroute⟩
    exact ⟨⟨servingSnId, route⟩, Table.mem_entries_iff.mpr (lookup_online.mpr hroute), rfl⟩

/-- Routes that are stored under their SN are answered in the strict order. -/
theorem query_ordered (hkeys : ∀ servingSnId route,
      (routes.peerRoutes peerId).lookup servingSnId = some route → route.servingSnId = servingSnId) :
    (routes.query peerId cp now).2.Pairwise PeerRoute.Precedes := by
  have hkept : (((routes.online peerId cp now).entries.map (·.2)).map PeerRoute.servingSnId) =
      (routes.online peerId cp now).keys := by
    rw [List.map_map]
    refine List.map_congr_left fun entry hentry => ?_
    exact hkeys entry.1 entry.2 (lookup_online.mp (Table.mem_entries_iff.mp hentry)).1
  have hnodup : ((routes.query peerId cp now).2.map PeerRoute.servingSnId).Nodup := by
    rw [query_answer, ((List.perm_insertionSort _ _).map _).nodup_iff, hkept]
    exact (routes.online peerId cp now).keys_nodup
  have hsorted : (routes.query peerId cp now).2.Pairwise PeerRoute.newer := by
    rw [query_answer]
    exact List.pairwise_insertionSort _ _
  rw [List.Nodup, List.pairwise_map] at hnodup
  exact hsorted.imp₂ (fun _ _ h hne => PeerRoute.precedes_of_newer h hne) hnodup

end PeerRouteStore

namespace OwnerDirectoryStore

open PeerRoute

/-- The route that is stored is the newest that was put. -/
structure Keeps (s : OwnerDirectoryStore) : Prop where
  newest : ∀ peerId servingSnId route,
    (s.routes.peerRoutes peerId).lookup servingSnId = some route →
      route.peerId = peerId ∧ route.servingSnId = servingSnId ∧ IsNewest s.accepted route
  stored : ∀ route ∈ s.accepted, ∃ current,
    (s.routes.peerRoutes route.peerId).lookup route.servingSnId = some current

/-- A query finds every SN online to which a route of the peer was put. -/
def Covered (s : OwnerDirectoryStore) : StoreEvent → Prop
  | .queryRoutes peerId now | .query peerId now => ∀ route ∈ s.accepted, route.peerId = peerId →
    s.controlPlane.isServingOnline route.servingSnId now = true
  | _ => True

/-- The newest routes to the SNs that are online, in order. -/
structure Answers (s : OwnerDirectoryStore) (peerId : P2pId) (now : Timestamp)
    (answer : List PeerRoute) : Prop where
  ordered : answer.Pairwise Precedes
  complete : ∀ route, route ∈ answer ↔ route.peerId = peerId ∧ IsNewest s.accepted route ∧
    s.controlPlane.isServingOnline route.servingSnId now = true

/-- The control plane takes entries. -/
def Leads (s : OwnerDirectoryStore) : Prop :=
  s.controlPlane.leaderId ≠ none ∧ OwnerControlPlane.hasQuorum s.membership s.activeVoters = true

/-- What an event is answered, by what was put before. -/
def Observed (s : OwnerDirectoryStore) : StoreEvent → Prop
  | .putLease lease now => (s.putLease lease now).2 = true ↔
    now < lease.expiresAt ∧ s.Leads ∧ NoneNewer s.accepted (.fromLease lease)
  | .putRoute route now => (s.putRoute route now).2 = true ↔
    s.controlPlane.isServingOnline route.servingSnId now = true ∧ NoneNewer s.accepted route
  | .queryRoutes peerId now => s.Answers peerId now (s.queryRoutes peerId now).2
  | .query peerId now => ∃ routes, s.Answers peerId now routes ∧
    (s.query peerId now).2 = routes.filterMap fun route =>
      (s.controlPlane.servingOnlineExpiresAt route.servingSnId now).map route.toLease
  | .renewServingSession _ _ _ _ | .revokeServingSession _ _ _ => True

variable {s : OwnerDirectoryStore}

/-- The answer to a query is determined. -/
theorem Answers.eq {peerId : P2pId} {now : Timestamp} {answer answer' : List PeerRoute}
    (h : s.Answers peerId now answer) (h' : s.Answers peerId now answer') : answer = answer' := by
  have hne : ∀ left right : PeerRoute, Precedes left right → left ≠ right := by
    rintro left right hlt rfl
    rcases hlt with hlt | ⟨-, hlt⟩
    · exact lt_irrefl _ hlt
    · exact lt_irrefl _ hlt
  have hperm : answer.Perm answer' := by
    refine (List.perm_ext_iff_of_nodup (h.ordered.imp fun hlt => hne _ _ hlt)
      (h'.ordered.imp fun hlt => hne _ _ hlt)).mpr fun route => ?_
    rw [h.complete, h'.complete]
  exact hperm.eq_of_pairwise' h.ordered h'.ordered

namespace Keeps

theorem admits_iff (h : Keeps s) (route : PeerRoute) :
    s.routes.admits route = true ↔ NoneNewer s.accepted route := by
  unfold PeerRouteStore.admits
  cases hlookup : (s.routes.peerRoutes route.peerId).lookup route.servingSnId with
  | none =>
    refine iff_of_true rfl fun other hother hkey => ?_
    obtain ⟨current, hcurrent⟩ := h.stored other hother
    rw [hkey.1, hkey.2, hlookup] at hcurrent
    cases hcurrent
  | some existing =>
    obtain ⟨hpeer, hserving, hnewest⟩ := h.newest _ _ existing hlookup
    dsimp only
    rw [decide_eq_true_eq]
    constructor
    · intro hle other hother hkey
      exact le_trans (hnewest.noneNewer other hother
        ⟨hkey.1.trans hpeer.symm, hkey.2.trans hserving.symm⟩) hle
    · intro hnone
      exact hnone existing hnewest.mem ⟨hpeer, hserving⟩

/-- What is stored of a peer are its newest routes. -/
theorem lookup_iff (h : Keeps s) {peerId : P2pId} {route : PeerRoute} :
    (∃ servingSnId, (s.routes.peerRoutes peerId).lookup servingSnId = some route) ↔
      route.peerId = peerId ∧ IsNewest s.accepted route := by
  constructor
  · rintro ⟨servingSnId, hlookup⟩
    obtain ⟨hpeer, -, hnewest⟩ := h.newest _ _ _ hlookup
    exact ⟨hpeer, hnewest⟩
  · rintro ⟨rfl, hnewest⟩
    obtain ⟨current, hcurrent⟩ := h.stored route hnewest.mem
    obtain ⟨hpeer, hserving, hcurrentNewest⟩ := h.newest _ _ _ hcurrent
    have heq : current = route := hcurrentNewest.eq hnewest ⟨hpeer, hserving⟩
    exact ⟨route.servingSnId, heq ▸ hcurrent⟩

theorem answers (h : Keeps s) (peerId : P2pId) (now : Timestamp) :
    s.Answers peerId now (s.queryRoutes peerId now).2 := by
  refine ⟨PeerRouteStore.query_ordered fun servingSnId route hlookup =>
    (h.newest _ _ _ hlookup).2.1, fun route => ?_⟩
  show route ∈ (s.routes.query peerId s.controlPlane now).2 ↔ _
  rw [PeerRouteStore.mem_query, ← and_assoc, ← h.lookup_iff, exists_and_right]

/-- The newest routes are the same where only the control plane is another. -/
theorem of_same {s' : OwnerDirectoryStore} (h : Keeps s) (hroutes : s'.routes = s.routes)
    (haccepted : s'.accepted = s.accepted) : Keeps s' := by
  refine ⟨?_, ?_⟩
  · rw [hroutes, haccepted]
    exact h.newest
  · rw [hroutes, haccepted]
    exact h.stored

theorem putRoute (h : Keeps s) (route : PeerRoute) (now : Timestamp) :
    Keeps (s.putRoute route now).1 := by
  unfold OwnerDirectoryStore.putRoute PeerRouteStore.putRoute
  split_ifs with honline hadmits
  · have hnone : NoneNewer s.accepted route := (h.admits_iff route).mp hadmits
    refine ⟨fun peerId servingSnId other hother => ?_, fun other hother => ?_⟩
    · dsimp only at hother ⊢
      rw [OwnerDirectoryService.peerRoutes_insert] at hother
      have hold : (s.routes.peerRoutes peerId).lookup servingSnId = some other →
          ¬ (peerId = route.peerId ∧ servingSnId = route.servingSnId) →
            other.peerId = peerId ∧ other.servingSnId = servingSnId ∧
              IsNewest (s.accepted ++ [route]) other := by
        intro hlookup hne
        obtain ⟨rfl, rfl, hnewest⟩ := h.newest _ _ _ hlookup
        exact ⟨rfl, rfl, hnewest.put_other fun hkey => hne ⟨hkey.1.symm, hkey.2.symm⟩⟩
      split_ifs at hother with hpeer
      · rw [Table.lookup_insert_some] at hother
        rcases hother with ⟨rfl, rfl⟩ | ⟨hne, hlookup⟩
        · exact ⟨hpeer.symm, rfl, .put_self hnone⟩
        · exact hold (hpeer ▸ hlookup) fun hkey => hne hkey.2
      · exact hold hother fun hkey => hpeer hkey.1
    · dsimp only at hother ⊢
      rw [OwnerDirectoryService.peerRoutes_insert]
      by_cases hkey : SameKey other route
      · exact ⟨route, by rw [if_pos hkey.1, hkey.2, AList.lookup_insert]⟩
      · rcases List.mem_append.mp hother with hold | hnew
        · obtain ⟨current, hcurrent⟩ := h.stored other hold
          refine ⟨current, ?_⟩
          split_ifs with hpeer
          · rw [AList.lookup_insert_ne fun hserving => hkey ⟨hpeer, hserving⟩, ← hpeer]
            exact hcurrent
          · exact hcurrent
        · rw [List.mem_singleton.mp hnew] at hkey
          exact absurd ⟨rfl, rfl⟩ hkey
  · exact h
  · exact h

/-- A query that finds all SNs online drops nothing. -/
theorem queryRoutes (h : Keeps s) {peerId : P2pId} {now : Timestamp}
    (hcovered : s.Covered (.queryRoutes peerId now)) : Keeps (s.queryRoutes peerId now).1 := by
  have hsame : ∀ peerId' servingSnId route,
      ((s.queryRoutes peerId now).1.routes.peerRoutes peerId').lookup servingSnId = some route ↔
        (s.routes.peerRoutes peerId').lookup servingSnId = some route := by
    intro peerId' servingSnId route
    show ((s.routes.query peerId s.controlPlane now).1.peerRoutes peerId').lookup _ = _ ↔ _
    rw [PeerRouteStore.query_peerRoutes]
    split_ifs with hpeer
    · rw [PeerRouteStore.lookup_online, hpeer, and_iff_left_iff_imp]
      intro hlookup
      obtain ⟨hroute, -, hnewest⟩ := h.newest _ _ _ hlookup
      exact hcovered route hnewest.mem hroute
    · exact Iff.rfl
  refine ⟨fun peerId' servingSnId route hlookup => ?_, fun route hroute => ?_⟩
  · exact h.newest _ _ _ ((hsame _ _ _).mp hlookup)
  · obtain ⟨current, hcurrent⟩ := h.stored route hroute
    exact ⟨current, (hsame _ _ _).mpr hcurrent⟩

/-- The first query that does not is seen in the store. -/
theorem queryRoutes_lost (h : Keeps s) {peerId : P2pId} {now : Timestamp}
    (hnot : ¬ s.Covered (.queryRoutes peerId now)) : ¬ Keeps (s.queryRoutes peerId now).1 := by
  intro hkept
  apply hnot
  rintro route hroute rfl
  obtain ⟨current, hcurrent⟩ := hkept.stored route hroute
  have honline : ((s.routes.query route.peerId s.controlPlane now).1.peerRoutes
      route.peerId).lookup route.servingSnId = some current := hcurrent
  rw [PeerRouteStore.query_peerRoutes, if_pos rfl, PeerRouteStore.lookup_online] at honline
  obtain ⟨-, hserving, -⟩ := h.newest _ _ _ honline.1
  exact hserving ▸ honline.2

end Keeps

/-! ## One event -/

/-- The time that a fresh lease has left is that of the session. -/
theorem online_expiresAt {lease : ServingLease} {now : Timestamp} (hfresh : now < lease.expiresAt) :
    (ServingSnSession.online lease.servingSnId
      (buckyTimeToDuration (saturatingSub lease.expiresAt now)) now).expiresAt =
        lease.expiresAt := by
  have hlt : now.val < lease.expiresAt.val := hfresh
  have hbound : lease.expiresAt.val < 2 ^ 64 := lease.expiresAt.isLt
  have hle : (1 : U64) ≤ saturatingSub lease.expiresAt now := by
    rw [Fin.le_def]
    show 1 ≤ lease.expiresAt.val - now.val
    omega
  have hduration : buckyTimeToDuration (saturatingSub lease.expiresAt now) =
      1000 * (lease.expiresAt.val - now.val) := by
    rw [buckyTimeToDuration, max_eq_left hle, saturatingSub]
  apply Fin.ext
  rw [ServingSnSession.online, saturatingAdd_val, durationToBuckyTime, hduration]
  dsimp only
  omega

theorem online_applyEntry {cp : OwnerControlPlane} {session : ServingSnSession} {now : Timestamp}
    (hstate : session.state = .online) (hlive : now < session.expiresAt) (index : Nat)
    (log : List OwnerSessionEntry) :
    OwnerControlPlane.isServingOnline { cp with
      log := log
      committedIndex := index
      sessions := OwnerControlPlane.applyEntry cp.sessions (.renewServingSession session) now }
      session.servingSnId now = true := by
  unfold OwnerControlPlane.isServingOnline OwnerControlPlane.applyEntry
  dsimp only
  cases hold : cp.sessions session.servingSnId with
  | none =>
    dsimp only
    rw [Function.update_self]
    simp [hstate, hlive]
  | some old =>
    dsimp only
    split_ifs with hshorter
    · rw [Function.update_self]
      simp [hstate, hlive]
    · rw [not_or, not_not, not_le] at hshorter
      rw [hold]
      simp [hshorter.1, hlive.trans hshorter.2]

theorem appendAsLeader_ok {m : OwnerMembership} {activeVoters : Finset P2pId}
    {cp : OwnerControlPlane} {leaderId : P2pId} (hleader : cp.leaderId = some leaderId)
    (hquorum : OwnerControlPlane.hasQuorum m activeVoters = true) (entry : OwnerSessionEntry)
    (now : Timestamp) :
    OwnerControlPlane.appendAsLeader m activeVoters cp leaderId entry now =
      .ok ({ cp with
        log := cp.log ++ [entry]
        committedIndex := (cp.log ++ [entry]).length
        sessions := OwnerControlPlane.applyEntry cp.sessions entry now },
        (cp.log ++ [entry]).length) := by
  rw [OwnerControlPlane.appendAsLeader, if_neg (not_not.mpr hleader), if_neg (by simp [hquorum])]

theorem appendAsLeader_error {m : OwnerMembership} {activeVoters : Finset P2pId}
    {cp : OwnerControlPlane} {leaderId : P2pId} (hleader : cp.leaderId = some leaderId)
    (hquorum : OwnerControlPlane.hasQuorum m activeVoters ≠ true) (entry : OwnerSessionEntry)
    (now : Timestamp) : ∃ err,
    OwnerControlPlane.appendAsLeader m activeVoters cp leaderId entry now = .error err := by
  rw [OwnerControlPlane.appendAsLeader, if_neg (not_not.mpr hleader), if_pos (by simpa using hquorum)]
  exact ⟨_, rfl⟩

/-- A lease that is not put at once renews the session of its SN and puts its route. -/
theorem putLease_cases (s : OwnerDirectoryStore) (lease : ServingLease) (now : Timestamp) :
    ¬ (now < lease.expiresAt ∧ s.Leads) ∧ s.putLease lease now = (s, false) ∨
      (now < lease.expiresAt ∧ s.Leads) ∧ ∃ cp : OwnerControlPlane,
        cp.isServingOnline lease.servingSnId now = true ∧
          s.putLease lease now =
            ({ s with controlPlane := cp } : OwnerDirectoryStore).putRoute (.fromLease lease) now := by
  unfold putLease
  by_cases hfresh : now < lease.expiresAt
  · rw [if_neg (by simp [ServingLease.isFresh, hfresh])]
    cases hleader : s.controlPlane.leaderId with
    | none => exact .inl ⟨fun h => h.2.1 hleader, rfl⟩
    | some leaderId =>
      dsimp only
      unfold OwnerControlPlane.renewServingSession OwnerControlPlane.renewServingOnline
      by_cases hquorum : OwnerControlPlane.hasQuorum s.membership s.activeVoters = true
      · refine .inr ⟨⟨hfresh, by simp [hleader], hquorum⟩, ?_⟩
        rw [appendAsLeader_ok hleader hquorum]
        refine ⟨_, @online_applyEntry s.controlPlane _ _ rfl ?_ _ _, rfl⟩
        rw [online_expiresAt hfresh]
        exact hfresh
      · refine .inl ⟨fun h => hquorum h.2.2, ?_⟩
        obtain ⟨err, herr⟩ := appendAsLeader_error hleader hquorum
          (.renewServingSession (.online lease.servingSnId
            (buckyTimeToDuration (saturatingSub lease.expiresAt now)) now)) now
        rw [herr]
        rfl
  · rw [if_pos (by simp [ServingLease.isFresh, hfresh])]
    exact .inl ⟨fun h => hfresh h.1, rfl⟩

theorem commit_same (result : P2pResult (OwnerControlPlane × Nat)) :
    (s.commit result).1.routes = s.routes ∧ (s.commit result).1.accepted = s.accepted := by
  cases result with
  | ok => exact ⟨rfl, rfl⟩
  | error => exact ⟨rfl, rfl⟩

theorem renewServingSession_same (servingSnId : P2pId) (epoch : U64) (ttl : Nat) (now : Timestamp) :
    (s.renewServingSession servingSnId epoch ttl now).1.routes = s.routes ∧
      (s.renewServingSession servingSnId epoch ttl now).1.accepted = s.accepted := by
  unfold renewServingSession
  split
  · exact ⟨rfl, rfl⟩
  · exact commit_same _

theorem revokeServingSession_same (servingSnId : P2pId) (epoch : U64) (now : Timestamp) :
    (s.revokeServingSession servingSnId epoch now).1.routes = s.routes ∧
      (s.revokeServingSession servingSnId epoch now).1.accepted = s.accepted := by
  unfold revokeServingSession
  split
  · exact ⟨rfl, rfl⟩
  · exact commit_same _

theorem Keeps.step (h : Keeps s) {ev : StoreEvent} (hcovered : s.Covered ev) :
    Keeps (s.step ev) := by
  cases ev with
  | putLease lease now =>
    show Keeps (s.putLease lease now).1
    rcases putLease_cases s lease now with ⟨-, heq⟩ | ⟨-, cp, -, heq⟩
    · rw [heq]
      exact h
    · rw [heq]
      exact Keeps.putRoute (s := { s with controlPlane := cp }) (h.of_same rfl rfl) _ now
  | putRoute route now => exact h.putRoute route now
  | renewServingSession servingSnId epoch ttl now =>
    obtain ⟨hroutes, haccepted⟩ := renewServingSession_same (s := s) servingSnId epoch ttl now
    exact h.of_same hroutes haccepted
  | revokeServingSession servingSnId epoch now =>
    obtain ⟨hroutes, haccepted⟩ := revokeServingSession_same (s := s) servingSnId epoch now
    exact h.of_same hroutes haccepted
  | queryRoutes peerId now => exact h.queryRoutes hcovered
  | query peerId now =>
    have hroutes : s.Covered (.queryRoutes peerId now) := hcovered
    exact h.queryRoutes hroutes

theorem Keeps.lost (h : Keeps s) {ev : StoreEvent} (hnot : ¬ s.Covered ev) :
    ¬ Keeps (s.step ev) := by
  cases ev with
  | queryRoutes peerId now => exact h.queryRoutes_lost hnot
  | query peerId now =>
    have hroutes : ¬ s.Covered (.queryRoutes peerId now) := hnot
    exact h.queryRoutes_lost hroutes
  | putLease | putRoute | renewServingSession | revokeServingSession => exact absurd trivial hnot

theorem Keeps.putRoute_iff (h : Keeps s) (route : PeerRoute) (now : Timestamp) :
    (s.putRoute route now).2 = true ↔
      s.controlPlane.isServingOnline route.servingSnId now = true ∧
        NoneNewer s.accepted route := by
  rw [← h.admits_iff]
  unfold OwnerDirectoryStore.putRoute PeerRouteStore.putRoute
  split_ifs with honline hadmits
  · exact iff_of_true rfl ⟨honline, hadmits⟩
  · exact iff_of_false (by simp) fun hboth => hadmits hboth.2
  · exact iff_of_false (by simp) fun hboth => honline hboth.1

theorem Keeps.observed (h : Keeps s) (ev : StoreEvent) : s.Observed ev := by
  cases ev with
  | putLease lease now =>
    show (s.putLease lease now).2 = true ↔ _
    rcases putLease_cases s lease now with ⟨hnot, heq⟩ | ⟨⟨hfresh, hleads⟩, cp, honline, heq⟩
    · rw [heq]
      exact iff_of_false Bool.false_ne_true fun hall => hnot ⟨hall.1, hall.2.1⟩
    · have hput := Keeps.putRoute_iff (s := { s with controlPlane := cp }) (h.of_same rfl rfl)
        (.fromLease lease) now
      rw [heq, hput]
      constructor
      · rintro ⟨-, hnone⟩
        exact ⟨hfresh, hleads, hnone⟩
      · rintro ⟨-, -, hnone⟩
        exact ⟨honline, hnone⟩
  | putRoute route now => exact h.putRoute_iff route now
  | queryRoutes peerId now => exact h.answers peerId now
  | query peerId now => exact ⟨_, h.answers peerId now, rfl⟩
  | renewServingSession | revokeServingSession => trivial

/-! ## Two stores -/

/-- The stores differ in what they store at most. -/
structure Alike (s s' : OwnerDirectoryStore) : Prop where
  membership : s'.membership = s.membership
  activeVoters : s'.activeVoters = s.activeVoters
  controlPlane : s'.controlPlane = s.controlPlane
  accepted : s'.accepted = s.accepted

namespace Alike

variable {s' : OwnerDirectoryStore}

theorem refl (s : OwnerDirectoryStore) : Alike s s := ⟨rfl, rfl, rfl, rfl⟩

theorem symm (ha : Alike s s') : Alike s' s :=
  ⟨ha.membership.symm, ha.activeVoters.symm, ha.controlPlane.symm, ha.accepted.symm⟩

theorem trans {s'' : OwnerDirectoryStore} (ha : Alike s s') (ha' : Alike s' s'') : Alike s s'' :=
  ⟨ha'.membership.trans ha.membership, ha'.activeVoters.trans ha.activeVoters,
    ha'.controlPlane.trans ha.controlPlane, ha'.accepted.trans ha.accepted⟩

theorem commit (ha : Alike s s') (result : P2pResult (OwnerControlPlane × Nat)) :
    Alike (s.commit result).1 (s'.commit result).1 ∧
      (s'.commit result).2 = (s.commit result).2 := by
  cases result with
  | ok => exact ⟨⟨ha.membership, ha.activeVoters, rfl, ha.accepted⟩, rfl⟩
  | error => exact ⟨ha, rfl⟩

theorem putRoute (ha : Alike s s') (h : Keeps s) (h' : Keeps s') (route : PeerRoute)
    (now : Timestamp) : Alike (s.putRoute route now).1 (s'.putRoute route now).1 ∧
      (s'.putRoute route now).2 = (s.putRoute route now).2 := by
  have hadmits : s'.routes.admits route = s.routes.admits route := by
    rw [Bool.eq_iff_iff, h'.admits_iff, h.admits_iff, ha.accepted]
  unfold OwnerDirectoryStore.putRoute PeerRouteStore.putRoute
  rw [ha.controlPlane, hadmits, ha.accepted]
  split_ifs
  · exact ⟨⟨ha.membership, ha.activeVoters, rfl, rfl⟩, rfl⟩
  · exact ⟨⟨ha.membership, ha.activeVoters, rfl, rfl⟩, rfl⟩
  · exact ⟨ha, rfl⟩

theorem putLease (ha : Alike s s') (h : Keeps s) (h' : Keeps s') (lease : ServingLease)
    (now : Timestamp) : Alike (s.putLease lease now).1 (s'.putLease lease now).1 ∧
      (s'.putLease lease now).2 = (s.putLease lease now).2 := by
  unfold OwnerDirectoryStore.putLease
  rw [ha.controlPlane, ha.membership, ha.activeVoters]
  split_ifs
  · exact ⟨ha, rfl⟩
  · cases s.controlPlane.leaderId with
    | none => exact ⟨ha, rfl⟩
    | some leaderId =>
      dsimp only
      generalize OwnerControlPlane.renewServingSession _ _ _ _ _ _ _ _ = result
      have hcommit := ha.commit result
      cases result with
      | ok committed =>
        exact hcommit.1.putRoute (h.of_same rfl rfl) (h'.of_same rfl rfl) (.fromLease lease) now
      | error err => exact ⟨ha, rfl⟩

theorem queryRoutes (ha : Alike s s') (h : Keeps s) (h' : Keeps s') (peerId : P2pId)
    (now : Timestamp) : Alike (s.queryRoutes peerId now).1 (s'.queryRoutes peerId now).1 ∧
      (s'.queryRoutes peerId now).2 = (s.queryRoutes peerId now).2 := by
  have hanswers : s.Answers peerId now (s'.queryRoutes peerId now).2 := by
    have hanswers' := h'.answers peerId now
    refine ⟨hanswers'.ordered, fun route => ?_⟩
    rw [hanswers'.complete, ha.accepted, ha.controlPlane]
  exact ⟨⟨ha.membership, ha.activeVoters, ha.controlPlane, ha.accepted⟩,
    hanswers.eq (h.answers peerId now)⟩

/-- Stores that keep the newest routes and are alike go on alike, with the same answers. -/
theorem serve (ha : Alike s s') (h : Keeps s) (h' : Keeps s') (ev : StoreEvent) :
    Alike (s.step ev) (s'.step ev) ∧ s'.answer ev = s.answer ev := by
  cases ev with
  | putLease lease now =>
    obtain ⟨hstate, hanswer⟩ := ha.putLease h h' lease now
    exact ⟨hstate, congrArg StoreAnswer.put hanswer⟩
  | putRoute route now =>
    obtain ⟨hstate, hanswer⟩ := ha.putRoute h h' route now
    exact ⟨hstate, congrArg StoreAnswer.put hanswer⟩
  | renewServingSession servingSnId epoch ttl now =>
    have hrenewed : Alike (s.renewServingSession servingSnId epoch ttl now).1
        (s'.renewServingSession servingSnId epoch ttl now).1 ∧
        (s'.renewServingSession servingSnId epoch ttl now).2 =
          (s.renewServingSession servingSnId epoch ttl now).2 := by
      unfold OwnerDirectoryStore.renewServingSession
      rw [ha.controlPlane, ha.membership, ha.activeVoters]
      cases s.controlPlane.leaderId with
      | none => exact ⟨ha, rfl⟩
      | some leaderId => exact ha.commit _
    exact ⟨hrenewed.1, congrArg StoreAnswer.session hrenewed.2⟩
  | revokeServingSession servingSnId epoch now =>
    have hrevoked : Alike (s.revokeServingSession servingSnId epoch now).1
        (s'.revokeServingSession servingSnId epoch now).1 ∧
        (s'.revokeServingSession servingSnId epoch now).2 =
          (s.revokeServingSession servingSnId epoch now).2 := by
      unfold OwnerDirectoryStore.revokeServingSession
      rw [ha.controlPlane, ha.membership, ha.activeVoters]
      cases s.controlPlane.leaderId with
      | none => exact ⟨ha, rfl⟩
      | some leaderId => exact ha.commit _
    exact ⟨hrevoked.1, congrArg StoreAnswer.session hrevoked.2⟩
  | queryRoutes peerId now =>
    obtain ⟨hstate, hanswer⟩ := ha.queryRoutes h h' peerId now
    exact ⟨hstate, congrArg StoreAnswer.routes hanswer⟩
  | query peerId now =>
    obtain ⟨hstate, hanswer⟩ := ha.queryRoutes h h' peerId now
    have hleases : (s'.query peerId now).2 = (s.query peerId now).2 := by
      unfold OwnerDirectoryStore.query
      dsimp only
      rw [hstate.controlPlane, hanswer]
    exact ⟨hstate, congrArg StoreAnswer.leases hleases⟩

end Alike

/-! ## Runs -/

def isQuery : StoreEvent → Bool
  | .queryRoutes _ _ | .query _ _ => true
  | _ => false

/-- The run without its queries. -/
def changes (evs : List StoreEvent) : List StoreEvent := evs.filter fun ev => !isQuery ev

theorem alike_query {ev : StoreEvent} (hquery : isQuery ev = true) : Alike s (s.step ev) := by
  cases ev with
  | queryRoutes | query => exact ⟨rfl, rfl, rfl, rfl⟩
  | putLease | putRoute | renewServingSession | revokeServingSession => cases hquery

theorem covered_change {ev : StoreEvent} (hquery : isQuery ev = false) : s.Covered ev := by
  cases ev with
  | queryRoutes | query => cases hquery
  | putLease | putRoute | renewServingSession | revokeServingSession => trivial

/-- A run goes like the one without its queries. -/
theorem alike_changes {s' : OwnerDirectoryStore} (ha : Alike s s') (h : Keeps s) (h' : Keeps s')
    {evs : List StoreEvent} (hcovered : Along step Covered s evs) :
    Alike (exec step s evs) (exec step s' (changes evs)) := by
  induction evs generalizing s s' with
  | nil => exact ha
  | cons ev evs ih =>
    cases hquery : isQuery ev with
    | true =>
      have hchanges : changes (ev :: evs) = changes evs := List.filter_cons_of_neg (by simp [hquery])
      rw [hchanges]
      exact ih ((alike_query hquery).symm.trans ha) (h.step hcovered.1) h' hcovered.2
    | false =>
      have hchanges : changes (ev :: evs) = ev :: changes evs :=
        List.filter_cons_of_pos (by simp [hquery])
      rw [hchanges]
      exact ih (ha.serve h h' ev).1 (h.step hcovered.1) (h'.step (covered_change hquery)) hcovered.2

/-- In every run: no query finds an SN of its peer offline if and only if in every state the routes
that are stored are the newest that were put; then every event is answered by what was put before,
and as in every other such run with the same changes. -/
theorem queries_only_observe (membership : OwnerMembership) (activeVoters : Finset P2pId)
    (controlPlane : OwnerControlPlane) (evs : List StoreEvent) :
    let start := withControlPlane membership activeVoters controlPlane
    (Along step Covered start evs ↔ ∀ pre, pre <+: evs → Keeps (exec step start pre)) ∧
    (Along step Covered start evs → ∀ ev, (exec step start evs).Observed ev ∧
      ∀ evs', Along step Covered start evs' → changes evs' = changes evs →
        (exec step start evs').answer ev = (exec step start evs).answer ev) := by
  intro start
  have hstart : Keeps start := ⟨by rintro _ _ _ ⟨⟩, by rintro _ ⟨⟩⟩
  have hkeeps : ∀ evs, Along step Covered start evs → Keeps (exec step start evs) := fun evs h =>
    exec_inv (fun s ev hs hev => hs.step hev) hstart h
  refine ⟨along_iff (fun s ev hs hev => hs.step hev) (fun s hs => hs) (fun s ev hs hnot =>
    hs.lost hnot) hstart evs, fun hcovered ev => ⟨(hkeeps evs hcovered).observed ev, ?_⟩⟩
  intro evs' hcovered' hchanges
  have halike := alike_changes (.refl start) hstart hstart hcovered
  have halike' := alike_changes (.refl start) hstart hstart hcovered'
  rw [hchanges] at halike'
  exact ((halike.trans halike'.symm).serve (hkeeps evs hcovered) (hkeeps evs' hcovered') ev).2

/-- The SN `[7]` is revoked when the peer `[5]` is queried, and then renewed. -/
def forgotten : List StoreEvent :=
  [.renewServingSession [7] 0 100000 0, .putRoute ⟨[5], [7], 5⟩ 1, .revokeServingSession [7] 0 2,
    .queryRoutes [5] 3, .renewServingSession [7] 0 100000 4]

/-- Its route is gone, and an older one is put, which is refused without the query. -/
theorem forgotten_is_not_observed :
    ∃ s, s = exec step (withMembership OwnerDirectoryService.soleMembership.toOwnerMembership)
        forgotten ∧
      ¬ s.Observed (.queryRoutes [5] 5) ∧ ¬ s.Observed (.putRoute ⟨[5], [7], 4⟩ 5) ∧
      s.answer (.putRoute ⟨[5], [7], 4⟩ 5) = .put true ∧
      (exec step (withMembership OwnerDirectoryService.soleMembership.toOwnerMembership)
        (changes forgotten)).answer (.putRoute ⟨[5], [7], 4⟩ 5) = .put false := by
  refine ⟨_, rfl, fun hquery => ?_, fun hput => ?_, congrArg StoreAnswer.put (by decide +kernel),
    congrArg StoreAnswer.put (by decide +kernel)⟩
  · have hnewest : IsNewest [⟨[5], [7], 5⟩] ⟨[5], [7], 5⟩ :=
      ⟨by simp, fun other hother _ => by rw [List.mem_singleton.mp hother]⟩
    have hanswered := (hquery.complete ⟨[5], [7], 5⟩).mpr ⟨rfl, hnewest, by decide +kernel⟩
    exact absurd hanswered (by decide +kernel)
  · have hnone := (hput.mp (by decide +kernel)).2
    exact absurd (hnone ⟨[5], [7], 5⟩ (by decide +kernel) ⟨rfl, rfl⟩) (by decide)

end OwnerDirectoryStore

end BuckyP2p.Directory
