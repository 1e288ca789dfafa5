import BuckyP2p.ControlStream.Frame
import BuckyP2p.Lib.Runs
import BuckyP2p.Lib.Table

/-!
# BuckyP2p.Pn.ControlOpen — control opens between two PN clients (`pn/client/pn_client.rs`)

Two `PnClient`s and a relay that forwards what it gets.  A control open is a call of
`create_tunnel_via_relay_with_options` at one end and the `handle_stream` of the `PnListener` that
serves it at the other; the data opens are on streams of their own.  The steps of all of them come
in any order.

* The relay forwards a request or an answer at any time after it was written, so what is written on
  one stream may arrive before what was written earlier on another.
* A tunnel may be closed at any time (by its owner, its control loops or its idle check); it takes
  itself out of the registry some time later.  A call may be dropped where it awaits, and its tunnel
  with it.
* A registry holds weak references.  A tunnel is referenced by its call and then by its control
  loops, so that only one that is closed, or whose call was dropped, may be gone.
-/

namespace BuckyP2p.Pn.ControlOpen

open Lib
open ControlStream (TunnelCommandResult)

abbrev Side : Type := Bool

structure PnTunnelKey where
  remoteId : Side
  tunnelId : TunnelId
  deriving DecidableEq

inductive Status
  | openingControl
  /-- `Open`. -/
  | opened
  | retired
  /-- `Closing` or `Closed`; the closed flag is set. -/
  | closed
  /-- The last reference went away, and the flag is not set. -/
  | dropped
  deriving DecidableEq

structure PnTunnel where
  localId : Side
  tunnelId : TunnelId
  /-- The control open that the tunnel is an end of. -/
  control : Nat
  status : Status
  deriving DecidableEq

namespace PnTunnel

def isClosedFlag (t : PnTunnel) : Bool := t.status = .closed

/-- `Weak::upgrade` gives the tunnel, and its closed flag is not set. -/
def isLive (t : PnTunnel) : Bool := t.status ≠ .closed && t.status ≠ .dropped

def markControlReady (t : PnTunnel) : PnTunnel :=
  if t.status ≠ .openingControl then t else { t with status := .opened }

/-- `close_lifecycle_locked`. -/
def close (t : PnTunnel) : PnTunnel :=
  if t.status = .dropped then t else { t with status := .closed }

def drop (t : PnTunnel) : PnTunnel :=
  if t.status = .closed then t else { t with status := .dropped }

def tryRetireIdle (t : PnTunnel) : PnTunnel :=
  if t.status ≠ .opened then t else { t with status := .retired }

def pushPassiveChannel (t : PnTunnel) : P2pResult Unit :=
  if t.status ≠ .opened then .error ⟨.errorState, "pn tunnel closed"⟩ else .ok ()

end PnTunnel

/-- The call of `create_tunnel_via_relay_with_options`. -/
inductive Phase
  /-- `open_control_channel` waits for the answer. -/
  | waiting
  /-- It has read `Success`. -/
  | accepted
  /-- The tunnel is registered, and `set_control_channel` has not returned. -/
  | registered
  | returned (result : P2pResult Unit)
  /-- The future of the call was dropped. -/
  | dropped
  deriving DecidableEq

/-- `handle_stream` for the request of a control open. -/
inductive HandlerPhase
  | idle | registered | ready | answered | failed
  deriving DecidableEq

structure Control where
  opener : Side
  tunnelId : TunnelId
  /-- The tunnel of the call. -/
  active : Nat
  phase : Phase
  /-- The relay has forwarded `ProxyControlOpenReq`. -/
  requested : Bool
  handler : HandlerPhase
  /-- The tunnel of the handler. -/
  passive : Option Nat
  answer : Option TunnelCommandResult
  /-- The relay has forwarded `ProxyControlOpenResp`. -/
  replied : Bool
  deriving DecidableEq

inductive DataPhase
  | sent | forwarded
  /-- `dispatch_passive_channel` has found this tunnel in the registry. -/
  | found (y : Nat)
  | dispatched (y : Nat)
  | rejected (error : P2pError)
  deriving DecidableEq

/-- A `ProxyOpenReq` of a tunnel. -/
structure DataOpen where
  tunnel : Nat
  phase : DataPhase
  deriving DecidableEq

/-- What ends `open_control_channel` without an answer. -/
inductive Failure
  | timeout | stream
  deriving DecidableEq

def Failure.intoP2pError : Failure → P2pError
  | .timeout => ⟨.timeout, "pn control open timeout"⟩
  | .stream => ⟨.ioError, ""⟩

inductive Event
  | openControl (a : Side) (tunnelId : TunnelId)
  | forwardRequest (k : Nat)
  | registerPassive (k : Nat)
  | readyPassive (k : Nat)
  /-- The write of `Success`, which may fail. -/
  | answer (k : Nat) (written : Bool)
  | forwardAnswer (k : Nat)
  | readAnswer (k : Nat)
  | fails (k : Nat) (failure : Failure)
  | cancel (k : Nat)
  | register (k : Nat)
  | readyActive (k : Nat)
  | close (x : Nat)
  /-- `finish_close_local`; `freed` says if the closed tunnel of the entry is gone. -/
  | unregister (x : Nat) (freed : Bool)
  | retire (x : Nat)
  | openData (x : Nat)
  | forwardData (d : Nat)
  | lookup (d : Nat)
  | push (d : Nat) (freed : Bool)
  deriving DecidableEq

/-- The two ends with the registries `PnShared::tunnels`, and what is between them. -/
structure World where
  tunnels : List PnTunnel
  registry : Side → Table PnTunnelKey Nat
  controls : List Control
  opens : List DataOpen

/-- What `dispatch_passive_channel` answers without a live tunnel. -/
def notEstablished : P2pError := ⟨.errorState, "pn tunnel control channel is not established"⟩

def Control.key (c : Control) : PnTunnelKey := ⟨!c.opener, c.tunnelId⟩

/-- The key at the other end. -/
def Control.passiveKey (c : Control) : PnTunnelKey := ⟨c.opener, c.tunnelId⟩

namespace World

def init : World := ⟨[], fun _ => ∅, [], []⟩

def isLive (w : World) (y : Nat) : Bool := w.tunnels[y]?.any PnTunnel.isLive

def isClosedFlag (w : World) (y : Nat) : Bool := w.tunnels[y]?.any PnTunnel.isClosedFlag

/-- `tunnels.get(key).and_then(Weak::upgrade)` when it is not closed. -/
def live (w : World) (a : Side) (key : PnTunnelKey) : Option Nat :=
  ((w.registry a).lookup key).filter w.isLive

def remove (w : World) (a : Side) (key : PnTunnelKey) : World :=
  { w with registry := Function.update w.registry a ((w.registry a).erase key) }

def insert (w : World) (a : Side) (key : PnTunnelKey) (y : Nat) : World :=
  { w with registry := Function.update w.registry a ((w.registry a).insert key y) }

def setControl (w : World) (k : Nat) (c : Control) : World :=
  { w with controls := w.controls.set k c }

def setOpen (w : World) (d : Nat) (x : DataOpen) : World := { w with opens := w.opens.set d x }

def changeTunnel (w : World) (x : Nat) (change : PnTunnel → PnTunnel) : World :=
  { w with tunnels := w.tunnels.modify x change }

def pushTunnel (w : World) (t : PnTunnel) : World := { w with tunnels := w.tunnels ++ [t] }

def getTunnel (w : World) (a : Side) (key : PnTunnelKey) : World × Option Nat :=
  match w.live a key with
  | some y => (w, some y)
  | none => (w.remove a key, none)

def unregisterTunnel (w : World) (a : Side) (key : PnTunnelKey) (x : Nat) (freed : Bool) : World :=
  match (w.registry a).lookup key with
  | none => w
  | some y =>
    if y = x ∨ (¬ w.isLive y ∧ freed) then w.remove a key else w

def registerControlTunnelIfAbsent (w : World) (a : Side) (key : PnTunnelKey) (x : Nat) :
    World × P2pResult Unit :=
  if w.isClosedFlag x then
    (w, .error ⟨.interrupted, "pn control tunnel closed before registration"⟩)
  else
    match w.live a key with
    | some _ => (w, .error ⟨.alreadyExists, "pn control tunnel already exists"⟩)
    | none => (w.insert a key x, .ok ())

/-- `register_passive_control_tunnel` for the request of the control open `k`. -/
def registerPassiveControlTunnel (w : World) (k : Nat) (c : Control) : World × P2pResult Nat :=
  match w.live (!c.opener) c.passiveKey with
  | some _ => (w, .error ⟨.alreadyExists, "pn control tunnel already exists"⟩)
  | none =>
    ((w.pushTunnel ⟨!c.opener, c.tunnelId, k, .openingControl⟩).insert (!c.opener) c.passiveKey
      w.tunnels.length, .ok w.tunnels.length)

def openControl (w : World) (a : Side) (tunnelId : TunnelId) : World :=
  { w.pushTunnel ⟨a, tunnelId, w.controls.length, .openingControl⟩ with
    controls := w.controls ++
      [⟨a, tunnelId, w.tunnels.length, .waiting, false, .idle, none, none, false⟩] }

def registerPassive (w : World) (k : Nat) (c : Control) : World :=
  if c.requested ∧ c.handler = .idle then
    match w.registerPassiveControlTunnel k c with
    | (w', .ok y) => w'.setControl k { c with handler := .registered, passive := some y }
    | (w', .error _) =>
      w'.setControl k { c with handler := .failed, answer := some .internalError }
  else w

def readyPassive (w : World) (k : Nat) (c : Control) : World :=
  match c.handler, c.passive with
  | .registered, some y =>
    (w.changeTunnel y .markControlReady).setControl k { c with handler := .ready }
  | _, _ => w

/-- `send_control_open_response(Success)`. -/
def answer (w : World) (k : Nat) (c : Control) (written : Bool) : World :=
  match c.handler, c.passive with
  | .ready, some y =>
    if w.isClosedFlag y = false ∧ written then
      w.setControl k { c with handler := .answered, answer := some .success }
    else (w.changeTunnel y .close).setControl k { c with handler := .failed }
  | _, _ => w

/-- The call closes its tunnel and returns the error. -/
def giveUp (w : World) (k : Nat) (c : Control) (error : P2pError) : World :=
  (w.changeTunnel c.active .close).setControl k { c with phase := .returned (.error error) }

def readAnswer (w : World) (k : Nat) (c : Control) : World :=
  match c.phase, c.replied, c.answer with
  | .waiting, true, some result =>
    if result ≠ .success then w.giveUp k c (result.intoP2pError "pn control open rejected")
    else w.setControl k { c with phase := .accepted }
  | _, _, _ => w

def cancel (w : World) (k : Nat) (c : Control) : World :=
  if c.phase = .waiting ∨ c.phase = .registered then
    (w.setControl k { c with phase := .dropped }).changeTunnel c.active .drop
  else w

def register (w : World) (k : Nat) (c : Control) : World :=
  if c.phase = .accepted then
    match w.registerControlTunnelIfAbsent c.opener c.key c.active with
    | (w', .ok ()) => w'.setControl k { c with phase := .registered }
    | (w', .error e) => w'.giveUp k c e
  else w

def readyActive (w : World) (k : Nat) (c : Control) : World :=
  if c.phase = .registered then
    (w.changeTunnel c.active .markControlReady).setControl k { c with phase := .returned (.ok ()) }
  else w

/-- The call or the handler has given the tunnel to its caller. -/
def handedOut (w : World) (x : Nat) (t : PnTunnel) : Bool :=
  w.controls[t.control]?.any fun c =>
    if c.active = x then c.phase = .returned (.ok ()) else c.handler = .answered

/-- `begin_pending_channel`, and the request is written to a new stream. -/
def openData (w : World) (x : Nat) (t : PnTunnel) : World :=
  if w.handedOut x t ∧ t.status = .opened then { w with opens := w.opens ++ [⟨x, .sent⟩] } else w

/-- `dispatch_passive_channel` up to the tunnel; `t` is the tunnel that has sent the request. -/
def lookup (w : World) (d : Nat) (x : DataOpen) (t : PnTunnel) : World :=
  if x.phase = .forwarded then
    match w.getTunnel (!t.localId) ⟨t.localId, t.tunnelId⟩ with
    | (w', some y) => w'.setOpen d { x with phase := .found y }
    | (w', none) => w'.setOpen d { x with phase := .rejected notEstablished }
  else w

/-- `push_passive_channel` to the tunnel that was found. -/
def push (w : World) (d : Nat) (x : DataOpen) (freed : Bool) : World :=
  match x.phase with
  | .found y =>
    match w.tunnels[y]? with
    | some t =>
      match t.pushPassiveChannel with
      | .ok () => w.setOpen d { x with phase := .dispatched y }
      | .error e =>
        (if t.isClosedFlag then w.unregisterTunnel t.localId ⟨!t.localId, t.tunnelId⟩ y freed
          else w).setOpen d { x with phase := .rejected e }
    | none => w
  | _ => w

/-- A step of the control open `k`. -/
def controlStep (w : World) (k : Nat) (f : Control → World) : World :=
  match w.controls[k]? with
  | some c => f c
  | none => w

/-- A step of the tunnel `x`. -/
def tunnelStep (w : World) (x : Nat) (f : PnTunnel → World) : World :=
  match w.tunnels[x]? with
  | some t => f t
  | none => w

/-- A step of the data open `d`. -/
def openStep (w : World) (d : Nat) (f : DataOpen → World) : World :=
  match w.opens[d]? with
  | some x => f x
  | none => w

def step (w : World) : Event → World
  | .openControl a tunnelId => w.openControl a tunnelId
  | .forwardRequest k => w.controlStep k fun c => w.setControl k { c with requested := true }
  | .registerPassive k => w.controlStep k fun c => w.registerPassive k c
  | .readyPassive k => w.controlStep k fun c => w.readyPassive k c
  | .answer k written => w.controlStep k fun c => w.answer k c written
  | .forwardAnswer k => w.controlStep k fun c =>
      w.setControl k { c with replied := c.answer.isSome }
  | .readAnswer k => w.controlStep k fun c => w.readAnswer k c
  | .fails k failure => w.controlStep k fun c =>
      if c.phase = .waiting then w.giveUp k c failure.intoP2pError else w
  | .cancel k => w.controlStep k fun c => w.cancel k c
  | .register k => w.controlStep k fun c => w.register k c
  | .readyActive k => w.controlStep k fun c => w.readyActive k c
  | .close x => w.changeTunnel x .close
  | .unregister x freed => w.tunnelStep x fun t =>
      if t.isClosedFlag then w.unregisterTunnel t.localId ⟨!t.localId, t.tunnelId⟩ x freed else w
  | .retire x => w.changeTunnel x .tryRetireIdle
  | .openData x => w.tunnelStep x fun t => w.openData x t
  | .forwardData d => w.openStep d fun x =>
      if x.phase = .sent then w.setOpen d { x with phase := .forwarded } else w
  | .lookup d => w.openStep d fun x => w.tunnelStep x.tunnel fun t => w.lookup d x t
  | .push d freed => w.openStep d fun x => w.push d x freed

def run (evs : List Event) : World := exec step init evs

end World

end BuckyP2p.Pn.ControlOpen
