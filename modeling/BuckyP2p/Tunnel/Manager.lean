import BuckyP2p.Base
import BuckyP2p.Lib.Table

/-!
# BuckyP2p.Tunnel.Manager — the tunnels of a `TunnelManager` (`tunnel/tunnel_manager.rs`)

The candidates of every remote peer, and for peers that are reached through a proxy the state of the
upgrade to another tunnel.  A tunnel is known by its `Arc` (`handle`).

A tunnel may close at any moment, also between two checks of one operation.  `down` are the tunnels
that are not available; an operation that makes several checks takes the tunnels that go down
between them (`closing`).  Within one pass over the entries every tunnel is looked at once, so that
the passes are the only moments that matter.  Times are in milliseconds.
-/

namespace BuckyP2p.Tunnel

open Lib

/-- `P2pId::is_default`. -/
def isDefault (id : P2pId) : Bool := id.all (· = 0)

inductive TunnelForm
  | active | passive | proxy
  deriving DecidableEq, Repr

structure TunnelRef where
  handle : Nat
  remoteId : P2pId
  tunnelId : TunnelId
  candidateId : U32
  form : TunnelForm
  isReverse : Bool
  deriving DecidableEq, Repr

structure TunnelEntry where
  tunnel : TunnelRef
  updatedAt : Nat
  published : Bool
  deriving DecidableEq, Repr

structure ProxyUpgradeState where
  generation : Nat
  nextAttemptAt : Nat
  retryInterval : Nat
  shortRetryIndex : Nat
  inProgress : Bool
  deriving DecidableEq, Repr

/-- `PROXY_UPGRADE_SHORT_INTERVALS`. -/
def proxyUpgradeShortIntervals : List Nat := [15000, 30000, 60000, 120000]

/-- `PROXY_UPGRADE_MAX_INTERVAL`. -/
def proxyUpgradeMaxInterval : Nat := 2 * 60 * 60 * 1000

namespace ProxyUpgradeState

def new (generation now : Nat) : ProxyUpgradeState where
  generation := generation
  nextAttemptAt := now + proxyUpgradeShortIntervals.headD 0
  retryInterval := proxyUpgradeShortIntervals.headD 0
  shortRetryIndex := 0
  inProgress := false

/-- `advance_proxy_upgrade_retry`. -/
def advanceRetry (upgrade : ProxyUpgradeState) (initialInterval : Nat) : ProxyUpgradeState :=
  if upgrade.shortRetryIndex + 1 < proxyUpgradeShortIntervals.length then
    { upgrade with
      shortRetryIndex := upgrade.shortRetryIndex + 1
      retryInterval := proxyUpgradeShortIntervals.getD (upgrade.shortRetryIndex + 1) 0 }
  else if upgrade.shortRetryIndex + 1 = proxyUpgradeShortIntervals.length then
    { upgrade with
      shortRetryIndex := upgrade.shortRetryIndex + 1
      retryInterval := initialInterval }
  else { upgrade with retryInterval := min (upgrade.retryInterval * 2) proxyUpgradeMaxInterval }

@[simp] theorem advanceRetry_inProgress (upgrade : ProxyUpgradeState) (initialInterval : Nat) :
    (upgrade.advanceRetry initialInterval).inProgress = upgrade.inProgress := by
  unfold advanceRetry
  split_ifs with hshort hlast
  · rfl
  · rfl
  · rfl

end ProxyUpgradeState

structure TunnelManager where
  tunnels : Table P2pId (List TunnelEntry)
  proxyUpgradeStates : Table P2pId ProxyUpgradeState
  nextProxyUpgradeGeneration : Nat
  proxyUpgradeInitialInterval : Nat
  /-- The tunnels that are closed or whose state is not `Connected`. -/
  down : List Nat
  /-- The tunnels on which `close` was called. -/
  closed : List Nat
  /-- `latest_business_activity_at` of the tunnels that have carried traffic. -/
  activity : Table Nat Nat

namespace TunnelManager

def new (proxyUpgradeInitialInterval : Nat) : TunnelManager :=
  ⟨∅, ∅, 0, proxyUpgradeInitialInterval, [], [], ∅⟩

section Tunnels

variable (m : TunnelManager)

/-- `is_tunnel_available`. -/
def isTunnelAvailable (tunnel : TunnelRef) : Bool := tunnel.handle ∉ m.down

/-- Tunnels go down by themselves. -/
def goDown (tunnels : List Nat) : TunnelManager := { m with down := tunnels ++ m.down }

/-- Tunnels get `Connected`. -/
def comeUp (tunnels : List Nat) : TunnelManager :=
  { m with down := m.down.filter (· ∉ tunnels) }

/-- The manager closes a tunnel. -/
def closeTunnel (tunnel : TunnelRef) : TunnelManager :=
  { m with down := tunnel.handle :: m.down, closed := tunnel.handle :: m.closed }

def closeAll (tunnels : List TunnelRef) : TunnelManager := tunnels.foldl closeTunnel m

def available (entries : List TunnelEntry) : List TunnelEntry :=
  entries.filter fun entry => m.isTunnelAvailable entry.tunnel

/-- The candidates of a peer; a peer without candidates is not in the table. -/
def setEntries (remoteId : P2pId) (entries : List TunnelEntry) : TunnelManager :=
  { m with
    tunnels := if entries.isEmpty then m.tunnels.erase remoteId
      else m.tunnels.insert remoteId entries }

def removeProxyUpgrade (remoteId : P2pId) : TunnelManager :=
  { m with proxyUpgradeStates := m.proxyUpgradeStates.erase remoteId }

def insertProxyUpgrade (remoteId : P2pId) (now : Nat) : TunnelManager :=
  { m with
    nextProxyUpgradeGeneration := m.nextProxyUpgradeGeneration + 1
    proxyUpgradeStates := m.proxyUpgradeStates.insert remoteId
      (.new (m.nextProxyUpgradeGeneration + 1) now) }

def hasProxyUpgrade (remoteId : P2pId) : Bool := (m.proxyUpgradeStates.lookup remoteId).isSome

end Tunnels

def isProxy (entry : TunnelEntry) : Bool := entry.tunnel.form = .proxy

/-- `reconcile_proxy_upgrade_state`, with whether the upgrade loop has to be notified. -/
def reconcileProxyUpgradeState (m : TunnelManager) (now : Nat) (remoteId : P2pId)
    (entries : Option (List TunnelEntry)) : TunnelManager × Bool :=
  match entries with
  | none => (m.removeProxyUpgrade remoteId, m.hasProxyUpgrade remoteId)
  | some entries =>
    let available := m.available entries
    if available.isEmpty || available.any (!isProxy ·) then
      (m.removeProxyUpgrade remoteId, m.hasProxyUpgrade remoteId)
    else if available.all TunnelEntry.published && !m.hasProxyUpgrade remoteId then
      (m.insertProxyUpgrade remoteId now, true)
    else (m, false)

/-! ## Selection -/

/-- `preferred_tunnel_entry`. -/
def preferredTunnelEntry (m : TunnelManager) (candidate current : TunnelEntry) : Bool :=
  match m.activity.lookup candidate.tunnel.handle, m.activity.lookup current.tunnel.handle with
  | some candidateAt, some currentAt => currentAt < candidateAt
  | some _, none => true
  | none, some _ => false
  | none, none => current.updatedAt < candidate.updatedAt

/-- One of the two slots of `select_preferred_tunnel_entry` at the next entry. -/
def latest (m : TunnelManager) (slot : Option TunnelEntry) (entry : TunnelEntry) :
    Option TunnelEntry :=
  if slot.all (m.preferredTunnelEntry entry) then some entry else slot

/-- `select_preferred_tunnel_entry`. -/
def selectPreferredTunnelEntry (m : TunnelManager) (entries : List TunnelEntry) :
    Option TunnelEntry :=
  let slots := entries.foldl (fun (slots : Option TunnelEntry × Option TunnelEntry) entry =>
    if isProxy entry then (slots.1, m.latest slots.2 entry)
    else (m.latest slots.1 entry, slots.2)) (none, none)
  slots.1.or slots.2

/-- `get_tunnel_with_filter`; the tunnels of `closing` go down before the upgrade state of the peer
is reconciled. -/
def getTunnelWithFilter (m : TunnelManager) (now : Nat) (remoteId : P2pId)
    (filter : TunnelEntry → Bool) (allowHiddenFallback : Bool) (closing : List Nat) :
    Option TunnelRef × TunnelManager :=
  let r : Option TunnelRef × TunnelManager := match m.tunnels.lookup remoteId with
    | some entries =>
      let entries := m.available entries
      let selected := m.selectPreferredTunnelEntry
        ((entries.filter filter).filter TunnelEntry.published)
      let selected := selected.or
        (if allowHiddenFallback then m.selectPreferredTunnelEntry (entries.filter filter) else none)
      (selected.map TunnelEntry.tunnel, m.setEntries remoteId entries)
    | none => (none, m)
  let m := r.2.goDown closing
  (r.1, (m.reconcileProxyUpgradeState now remoteId (m.tunnels.lookup remoteId)).1)

def getTunnel (m : TunnelManager) (now : Nat) (remoteId : P2pId) (closing : List Nat) :
    Option TunnelRef × TunnelManager :=
  m.getTunnelWithFilter now remoteId (fun _ => true) true closing

def getNonProxyTunnel (m : TunnelManager) (now : Nat) (remoteId : P2pId) (closing : List Nat) :
    Option TunnelRef × TunnelManager :=
  m.getTunnelWithFilter now remoteId (!isProxy ·) false closing

def hasAvailableTunnelId (m : TunnelManager) (now : Nat) (remoteId : P2pId) (tunnelId : TunnelId)
    (closing : List Nat) : Bool × TunnelManager :=
  let r : Bool × TunnelManager := match m.tunnels.lookup remoteId with
    | some entries =>
      let entries := m.available entries
      (entries.any fun entry => entry.tunnel.tunnelId = tunnelId, m.setEntries remoteId entries)
    | none => (false, m)
  let m := r.2.goDown closing
  (r.1, (m.reconcileProxyUpgradeState now remoteId (m.tunnels.lookup remoteId)).1)

/-! ## Registration -/

/-- The entry has the ids of the tunnel. -/
def isCandidate (tunnel : TunnelRef) (entry : TunnelEntry) : Bool :=
  entry.tunnel.tunnelId = tunnel.tunnelId && entry.tunnel.candidateId = tunnel.candidateId

def alreadyRegistered : P2pError := ⟨.alreadyExists, "tunnel candidate already registered"⟩

/-- What `register_tunnel` does about the upgrade of the peer when the tunnel is a new one;
`closing₂` and `closing₃` go down before the second and the third check. -/
def registerUpgrade (m : TunnelManager) (now : Nat) (tunnel : TunnelRef)
    (entries : List TunnelEntry) (closing₂ closing₃ : List Nat) : TunnelManager :=
  if entries.any fun entry => !isProxy entry && m.isTunnelAvailable entry.tunnel then
    m.removeProxyUpgrade tunnel.remoteId
  else
    let m := m.goDown closing₂
    if tunnel.form = .proxy && m.isTunnelAvailable tunnel then
      m.insertProxyUpgrade tunnel.remoteId now
    else
      let m := m.goDown closing₃
      (m.reconcileProxyUpgradeState now tunnel.remoteId (some entries)).1

/-- `register_tunnel`, from where it has the lock of the peer. -/
def registerTunnel (m : TunnelManager) (now : Nat) (tunnel : TunnelRef)
    (closing₁ closing₂ closing₃ : List Nat) : P2pResult TunnelRef × TunnelManager :=
  if isDefault tunnel.remoteId then (.ok tunnel, m)
  else
    let entries := m.available ((m.tunnels.lookup tunnel.remoteId).getD [])
    match entries.find? (isCandidate tunnel) with
    | some entry =>
      let m := (m.setEntries tunnel.remoteId entries).goDown closing₁
      let m := (m.reconcileProxyUpgradeState now tunnel.remoteId (some entries)).1
      (.error alreadyRegistered,
        if entry.tunnel.handle = tunnel.handle then m else m.closeTunnel tunnel)
    | none =>
      let entries := entries ++ [⟨tunnel, now, false⟩]
      let m := (m.setEntries tunnel.remoteId entries).goDown closing₁
      (.ok tunnel, m.registerUpgrade now tunnel entries closing₂ closing₃)

/-- The first entry with the ids of the tunnel is published. -/
def publishEntry (now : Nat) (tunnel : TunnelRef) : List TunnelEntry → List TunnelEntry
  | [] => []
  | entry :: entries =>
    if isCandidate tunnel entry then { entry with published := true, updatedAt := now } :: entries
    else entry :: publishEntry now tunnel entries

/-- The message goes on with the ids of the tunnel. -/
def publishUnregistered : P2pError := ⟨.notFound, "publish unregistered tunnel"⟩

/-- `publish_registered_tunnel`; the subscribers run on their own. -/
def publishRegisteredTunnel (m : TunnelManager) (now : Nat) (tunnel : TunnelRef) :
    P2pResult Unit × TunnelManager :=
  let entries := (m.tunnels.lookup tunnel.remoteId).getD []
  match entries.find? (isCandidate tunnel) with
  | some entry =>
    if entry.published then (.ok (), m)
    else (.ok (), m.setEntries tunnel.remoteId (publishEntry now tunnel entries))
  | none => (.error publishUnregistered, m)

/-- The part of `cleanup_closed_tunnels` for one peer: `idle` are the tunnels that `try_retire_idle`
retires, `closing` go down before the upgrade state is reconciled. -/
def cleanupRemote (now : Nat) (idle : List Nat) (closing : P2pId → List Nat)
    (r : TunnelManager × List TunnelRef) (e : Sigma fun _ : P2pId => List TunnelEntry) :
    TunnelManager × List TunnelRef :=
  let kept := (r.1.available e.2).filter fun entry => entry.tunnel.handle ∉ idle
  let removed := e.2.filter fun entry =>
    !r.1.isTunnelAvailable entry.tunnel || entry.tunnel.handle ∈ idle
  let m := (r.1.setEntries e.1 kept).goDown (closing e.1)
  ((m.reconcileProxyUpgradeState now e.1 (some kept)).1, r.2 ++ removed.map TunnelEntry.tunnel)

def cleanupClosedTunnels (m : TunnelManager) (now : Nat) (idle : List Nat)
    (closing : P2pId → List Nat) : TunnelManager :=
  let r := m.tunnels.entries.foldl (cleanupRemote now idle closing) (m, [])
  r.1.closeAll r.2

/-! ## Upgrades -/

/-- `collect_due_proxy_upgrades`. -/
def collectDueProxyUpgrades (m : TunnelManager) (now : Nat) : TunnelManager × List (P2pId × Nat) :=
  let isDue (upgrade : ProxyUpgradeState) : Bool :=
    !upgrade.inProgress && upgrade.nextAttemptAt ≤ now
  ({ m with
      proxyUpgradeStates := m.proxyUpgradeStates.mapValues fun upgrade =>
        if isDue upgrade then { upgrade with inProgress := true } else upgrade },
    (m.proxyUpgradeStates.entries.filter fun e => isDue e.2).map fun e => (e.1, e.2.generation))

/-- `on_proxy_upgrade_failed_generation`. -/
def onProxyUpgradeFailedGeneration (m : TunnelManager) (now : Nat) (remoteId : P2pId)
    (generation : Nat) : Option Nat × TunnelManager :=
  match m.proxyUpgradeStates.lookup remoteId with
  | none => (none, m)
  | some upgrade =>
    if upgrade.generation ≠ generation then (none, m)
    else
      let upgrade := { upgrade with inProgress := false }
      let upgrade := upgrade.advanceRetry m.proxyUpgradeInitialInterval
      let upgrade := { upgrade with nextAttemptAt := now + upgrade.retryInterval }
      (some upgrade.retryInterval,
        { m with proxyUpgradeStates := m.proxyUpgradeStates.insert remoteId upgrade })

/-- The tunnel is a candidate of the peer, not a proxy, and available. -/
def returnedIsLive (m : TunnelManager) (remoteId : P2pId) (tunnel : TunnelRef) : Bool :=
  ((m.tunnels.lookup remoteId).getD []).any fun entry =>
    entry.tunnel.handle = tunnel.handle && !isProxy entry && m.isTunnelAvailable entry.tunnel

/-- `finalize_proxy_upgrade_success`. -/
def finalizeProxyUpgradeSuccess (m : TunnelManager) (now : Nat) (remoteId : P2pId)
    (tunnel : TunnelRef) (closing : List Nat) : Bool × TunnelManager :=
  if tunnel.form = .proxy then (false, m)
  else if m.returnedIsLive remoteId tunnel then
    let entries := (m.tunnels.lookup remoteId).getD []
    let m := (m.setEntries remoteId (entries.filter (!isProxy ·))).goDown closing
    let m := m.removeProxyUpgrade remoteId
    (true, m.closeAll ((entries.filter isProxy).map TunnelEntry.tunnel))
  else
    let m := m.goDown closing
    (false, (m.reconcileProxyUpgradeState now remoteId (m.tunnels.lookup remoteId)).1)

end TunnelManager

end BuckyP2p.Tunnel
