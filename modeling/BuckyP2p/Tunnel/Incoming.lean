import BuckyP2p.Tunnel.Owners
import BuckyP2p.Tunnel.Upgrades

/-!
# BuckyP2p.Tunnel.Incoming — tunnels that come in and those who wait for them

`on_incoming_tunnel` takes the waiter for the tunnel out of the table and notifies it; a reverse
tunnel that nobody waits for is closed, and any other is registered.  Those who wait are
`open_reverse_path`, `wait_planned_incoming` and `punch_and_wait_incoming`.  They register the tunnel
that they get.  Their futures may time out, or be dropped at an await: by `race_with_delay` when the
direct path wins, or by whoever drops the whole operation.

Every task is a state machine with one step between two awaits, and one for each moment at which
others can get between two of its actions.  Of `notify_future` the model has that a value that is
notified to a dropped waiter is discarded; a waiter that is dropped takes along what it was notified
of.
-/

namespace BuckyP2p.Tunnel

open Lib

/-- A wait for an incoming tunnel, as it stands in the table of waiters. -/
structure Registration where
  remoteId : P2pId
  tunnelId : TunnelId
  expectedReverse : Bool
  token : Nat
  waiter : Nat
  deriving DecidableEq, Repr

/-- Who registers a tunnel: the one who waited for it, or `on_incoming_tunnel` itself. -/
inductive Registrant
  | waiter
  | incoming
  deriving DecidableEq, Repr

inductive Task
  /-- `open_reverse_path` awaits the call through the SN. -/
  | calling (wait : Registration)
  /-- The waiter is awaited, with a timeout. -/
  | waiting (wait : Registration)
  /-- The waiter is dropped, and the registration is dropped next. -/
  | unregistering (wait : Registration)
  /-- The registration is dropped, and the waiter is dropped next. -/
  | dropping (wait : Registration)
  /-- `on_incoming_tunnel` has taken the waiter. -/
  | notifying (waiter : Nat) (tunnel : TunnelRef)
  /-- `register_tunnel` awaits the lock of the peer. -/
  | holding (tunnel : TunnelRef) (registrant : Registrant)
  /-- `register_tunnel` has returned `Ok`. -/
  | registered (tunnel : TunnelRef) (registrant : Registrant)
  /-- The tunnel is published, and `conn_info_cache.add` is awaited. -/
  | caching (tunnel : TunnelRef)
  deriving DecidableEq, Repr

/-- The tunnel that a task holds by itself. -/
def Task.tunnel? : Task → Option TunnelRef
  | .notifying _ tunnel => some tunnel
  | .holding tunnel _ => some tunnel
  | .registered tunnel _ => some tunnel
  | .caching tunnel => some tunnel
  | _ => none

inductive TaskStep
  /-- The call through the SN has returned. -/
  | called (ok : Bool)
  /-- The waiter is polled after it was notified. -/
  | receive
  | timeout
  /-- What is left to be dropped is dropped. -/
  | drop
  | notify
  | register (now : Nat) (closing₁ closing₂ closing₃ : List Nat)
  | publish (now : Nat)
  | cached
  /-- The future is dropped at its await. -/
  | cancel
  deriving DecidableEq, Repr

inductive IncomingOp
  | openReversePath (remoteId : P2pId) (tunnelId : TunnelId)
  /-- `wait_planned_incoming` or `punch_and_wait_incoming` begins, with a registered waiter. -/
  | awaitPlanned (remoteId : P2pId) (tunnelId : TunnelId) (expectedReverse : Bool)
  /-- `on_incoming_tunnel`, up to its first await. -/
  | incoming (tunnel : TunnelRef)
  /-- The registration is dropped by whoever else has it, as the owner of a rendezvous attempt. -/
  | removeIncomingWaiter (remoteId : P2pId) (tunnelId : TunnelId) (expectedReverse : Bool)
    (token : Nat)
  | task (i : Nat) (step : TaskStep)
  /-- Tunnels are closed by others than the manager. -/
  | close (tunnels : List TunnelRef)
  /-- Any other operation on the tunnels of the manager. -/
  | upgrade (op : UpgradeOp)

structure IncomingSystem where
  upgrades : UpgradeSystem
  state : ManagerState
  /-- The waiters that were not dropped, with what they were notified of. -/
  receivers : Table Nat (Option TunnelRef)
  tasks : Table Nat Task
  /-- Tasks, tokens and waiters are numbered in the order in which they are made. -/
  made : Nat
  /-- The tunnels for which `on_incoming_tunnel` has returned `Ok(true)`. -/
  accepted : List TunnelRef

namespace IncomingSystem

def new (proxyUpgradeInitialInterval : Nat) : IncomingSystem :=
  ⟨.new proxyUpgradeInitialInterval, .new, ∅, ∅, 0, []⟩

section Steps

variable (s : IncomingSystem)

def manager : TunnelManager := s.upgrades.manager

def withManager (manager : TunnelManager) : IncomingSystem :=
  { s with upgrades := s.upgrades.withManager manager }

def become (i : Nat) (task : Task) : IncomingSystem := { s with tasks := s.tasks.insert i task }

def finish (i : Nat) : IncomingSystem := { s with tasks := s.tasks.erase i }

/-- A new task begins. -/
def spawn (task : Task) : IncomingSystem := { s.become s.made task with made := s.made + 1 }

def accept (tunnel : TunnelRef) : IncomingSystem := { s with accepted := tunnel :: s.accepted }

/-- The wait that a new task begins with. -/
def nextWait (remoteId : P2pId) (tunnelId : TunnelId) (expectedReverse : Bool) : Registration :=
  ⟨remoteId, tunnelId, expectedReverse, s.made, s.made⟩

/-- A waiter is made and registered. -/
def registerWait (wait : Registration) : IncomingSystem :=
  { s with
    state := s.state.addIncomingWaiter wait.remoteId wait.tunnelId wait.expectedReverse wait.token
      wait.waiter
    receivers := s.receivers.insert wait.waiter none }

def unregister (wait : Registration) : IncomingSystem :=
  { s with
    state := s.state.removeIncomingWaiter wait.remoteId wait.tunnelId wait.expectedReverse
      wait.token }

def dropWaiter (waiter : Nat) : IncomingSystem :=
  { s with receivers := s.receivers.erase waiter }

/-- `Notify::notify`. -/
def notify (waiter : Nat) (tunnel : TunnelRef) : IncomingSystem :=
  match s.receivers.lookup waiter with
  | some none => { s with receivers := s.receivers.insert waiter (some tunnel) }
  | _ => s

/-- `on_incoming_tunnel`, up to its first await. -/
def onIncomingTunnel (tunnel : TunnelRef) : IncomingSystem :=
  let r := s.state.takeIncomingWaiter tunnel.remoteId tunnel.tunnelId tunnel.isReverse
  let s := { s with state := r.1 }
  match r.2 with
  | some waiter => s.spawn (.notifying waiter tunnel)
  | none =>
    if tunnel.isReverse then s.withManager (s.manager.closeTunnel tunnel)
    else s.spawn (.holding tunnel .incoming)

def taskStep (i : Nat) (task : Task) (step : TaskStep) : IncomingSystem :=
  match task, step with
  | .calling wait, .called true => s.become i (.waiting wait)
  -- `waiter_registration` is declared after `waiter` and so dropped before it
  | .calling wait, .called false => (s.unregister wait).become i (.dropping wait)
  | .calling wait, .cancel => (s.unregister wait).become i (.dropping wait)
  | .waiting wait, .receive =>
    match s.receivers.lookup wait.waiter with
    | some (some tunnel) => (s.dropWaiter wait.waiter).become i (.holding tunnel .waiter)
    | _ => s
  -- the waiter has been moved into the timeout
  | .waiting wait, .timeout => (s.dropWaiter wait.waiter).become i (.unregistering wait)
  | .waiting wait, .cancel => (s.dropWaiter wait.waiter).become i (.unregistering wait)
  | .unregistering wait, .drop => (s.unregister wait).finish i
  | .dropping wait, .drop => (s.dropWaiter wait.waiter).finish i
  | .notifying waiter tunnel, .notify => ((s.notify waiter tunnel).accept tunnel).finish i
  | .holding tunnel registrant, .register now closing₁ closing₂ closing₃ =>
    let r := s.manager.registerTunnel now tunnel closing₁ closing₂ closing₃
    match r.1 with
    | .ok tunnel => (s.withManager r.2).become i (.registered tunnel registrant)
    | .error _ => (s.withManager r.2).finish i
  | .holding _ _, .cancel => s.finish i
  | .registered tunnel registrant, .publish now =>
    let r := s.manager.publishRegisteredTunnel now tunnel
    match r.1, registrant with
    | .ok _, .incoming => ((s.withManager r.2).accept tunnel).finish i
    | .ok _, .waiter => (s.withManager r.2).become i (.caching tunnel)
    | .error _, _ => (s.withManager r.2).finish i
  | .caching _, .cached => s.finish i
  | .caching _, .cancel => s.finish i
  | _, _ => s

end Steps

def step (s : IncomingSystem) : IncomingOp → IncomingSystem
  | .openReversePath remoteId tunnelId =>
    let wait := s.nextWait remoteId tunnelId true
    (s.registerWait wait).spawn (.calling wait)
  | .awaitPlanned remoteId tunnelId expectedReverse =>
    let wait := s.nextWait remoteId tunnelId expectedReverse
    (s.registerWait wait).spawn (.waiting wait)
  | .incoming tunnel => s.onIncomingTunnel tunnel
  | .removeIncomingWaiter remoteId tunnelId expectedReverse token =>
    { s with state := s.state.removeIncomingWaiter remoteId tunnelId expectedReverse token }
  | .task i step =>
    match s.tasks.lookup i with
    | some task => s.taskStep i task step
    | none => s
  | .close tunnels => s.withManager (s.manager.closeAll tunnels)
  | .upgrade op => { s with upgrades := s.upgrades.step op }

end IncomingSystem

end BuckyP2p.Tunnel
