import BuckyP2p.ControlStream.Frame
import BuckyP2p.Lib.Lists
import BuckyP2p.Lib.Runs

/-!
# BuckyP2p.Pn.Lifecycle — the channel counts of `PnTunnel` (`pn/client/pn_tunnel.rs`)

A channel that is opened, accepted or pushed is counted until it ends: as queued until its dispatch
task takes it up, as pending while a `PnPendingChannel` guards it, and as active while a lease is in
its halves.  A step is one region under the lock of the lifecycle, with what its task does around it.

* A task is a call of `open_stream`, `open_datagram` or `open_control_stream`, which may fail or be
  dropped at every await; the `prepare` of an incoming control stream; or a dispatch task.  What it
  awaits is said by the event.
* A lease is the number of the halves that hold it.  They are dropped at any time, by whoever has
  got them.
* `checks` are the sleeping tasks of `schedule_idle_check`, with their generation; they may wake up
  at any time.  Instants are numbers.
-/

namespace BuckyP2p.Pn.Lifecycle

open Lib
open ControlStream (TunnelCommandResult)

inductive PnTunnelCloseReason
  | manual | idleTimeout | remoteControl | controlError | heartbeatTimeout
  deriving DecidableEq, Repr

/-- `opened` is `Open`. -/
inductive PnTunnelLifecycleStatus
  | openingControl | opened | retired | closing | closed
  deriving DecidableEq, Repr

structure PnTunnelLifecycleState where
  status : PnTunnelLifecycleStatus
  activeChannels : Nat
  pendingChannels : Nat
  queuedChannels : Nat
  zeroSince : Option Nat
  generation : U64
  closeReason : Option PnTunnelCloseReason
  deriving DecidableEq

namespace PnTunnelLifecycleState

def new (queuedChannels : Nat) (status : PnTunnelLifecycleStatus) (now : Nat) :
    PnTunnelLifecycleState where
  status := status
  activeChannels := 0
  pendingChannels := 0
  queuedChannels := queuedChannels
  zeroSince := if status = .opened ∧ queuedChannels = 0 then some now else none
  generation := 0
  closeReason := none

def isOpen (st : PnTunnelLifecycleState) : Bool := st.status = .opened && st.closeReason.isNone

def totalChannels (st : PnTunnelLifecycleState) : Nat :=
  st.activeChannels + st.pendingChannels + st.queuedChannels

def refreshIdleState (st : PnTunnelLifecycleState) (now : Nat) :
    PnTunnelLifecycleState × Option (Nat × U64) :=
  if !st.isOpen then (st, none)
  else if st.totalChannels = 0 then
    if st.zeroSince.isNone then
      ({ st with zeroSince := some now, generation := st.generation + 1 },
        some (now, st.generation + 1))
    else (st, none)
  else if st.zeroSince.isSome then
    ({ st with zeroSince := none, generation := st.generation + 1 }, none)
  else (st, none)

def markControlReady (st : PnTunnelLifecycleState) (now : Nat) :
    PnTunnelLifecycleState × Option (Nat × U64) :=
  if st.status ≠ .openingControl then (st, none)
  else { st with status := .opened }.refreshIdleState now

end PnTunnelLifecycleState

inductive PnChannelKind
  | stream | datagram
  deriving DecidableEq

inductive TaskKind
  | openStream | openDatagram | openControlStream
  /-- `prepare`, for a control stream that the other end has opened. -/
  | incomingControl
  | dispatch (kind : PnChannelKind)
  deriving DecidableEq

inductive Phase
  /-- Has a guard and awaits the channel. -/
  | opening
  /-- Has a guard and awaits the TLS handshake. -/
  | securing
  /-- `prepare` has a guard. -/
  | preparing
  /-- The dispatch task waits for the first listener. -/
  | queued
  /-- It has found the tunnel not closed, and what it will answer. -/
  | checked (result : TunnelCommandResult)
  /-- Has a guard and writes its answer. -/
  | answering (result : TunnelCommandResult)
  | ended
  deriving DecidableEq

/-- The task holds a `PnPendingChannel` that is not promoted. -/
def Phase.guard : Phase → Bool
  | .opening | .securing | .preparing | .answering _ => true
  | _ => false

/-- The task has not moved its channel from queued to pending. -/
def Phase.waiting : Phase → Bool
  | .queued | .checked _ => true
  | _ => false

structure Task where
  kind : TaskKind
  phase : Phase
  deriving DecidableEq

namespace Task

def guard (x : Task) : Bool := x.phase.guard

def waiting (x : Task) : Bool := x.phase.waiting

/-- The halves that get the lease. -/
def halves (x : Task) : Nat :=
  match x.kind with
  | .openDatagram => 1
  | _ => 2

/-- The stream of the channel is wrapped, if the tunnel wants it. -/
def isStream (x : Task) : Bool := x.kind = .openStream || x.kind = .dispatch .stream

/-- The task is a call, whose future may be dropped. -/
def isCall (x : Task) : Bool :=
  match x.kind with
  | .openStream | .openDatagram | .openControlStream => true
  | _ => false

end Task

/-- What a `close` has still to do. -/
inductive CloserPhase
  /-- `finish_close_local`. -/
  | localPart
  /-- `close_control_channel`, and for `finish_close` the region behind it. -/
  | controlPart
  | done
  deriving DecidableEq

/-- Why the control loops close the tunnel. -/
inductive ControlEnd
  | remoteControl | controlError | heartbeatTimeout
  deriving DecidableEq

def ControlEnd.reason : ControlEnd → PnTunnelCloseReason
  | .remoteControl => .remoteControl
  | .controlError => .controlError
  | .heartbeatTimeout => .heartbeatTimeout

/-- How the tunnel was made. -/
inductive Start
  | active
  | passive (kind : PnChannelKind)
  | passiveControl
  deriving DecidableEq

structure PnTunnel where
  lifecycle : PnTunnelLifecycleState
  idleTimeout : Option Nat
  closed : Bool
  /-- There is a proxy network to open channels on. -/
  relayed : Bool
  /-- `PnProxyStreamSecurityMode::TlsRequired`. -/
  tlsRequired : Bool
  tlsContext : Bool
  tasks : List Task
  leases : List Nat
  checks : List U64
  closers : List (PnTunnelCloseReason × CloserPhase)

inductive Event
  /-- `open_stream`, `open_datagram` or `open_control_stream` is called. -/
  | openChannel (kind : TaskKind) (now : Nat)
  /-- The channel is there, or its open has failed. -/
  | channel (k : Nat) (ok : Bool) (now : Nat)
  | handshake (k : Nat) (ok : Bool) (now : Nat)
  /-- The future of a call is dropped. -/
  | cancel (k now : Nat)
  | incomingControl (now : Nat)
  | prepared (k now : Nat)
  | pushPassiveChannel (kind : PnChannelKind) (now : Nat)
  /-- The dispatch task knows what to answer, and looks whether the tunnel is closed. -/
  | decided (k : Nat) (result : TunnelCommandResult)
  | moved (k now : Nat)
  /-- The answer is written, or the write has failed. -/
  | answered (k : Nat) (ok : Bool) (now : Nat)
  | dropHalf (l now : Nat)
  | markControlReady (now : Nat)
  | close
  /-- The control loops call `close_with_reason`. -/
  | controlEnds (e : ControlEnd)
  | closer (i : Nat)
  | closeIfIdle (i now : Nat)
  | tryRetireIdle (now idleTimeout : Nat)
  deriving DecidableEq

namespace PnTunnel

/-- The tunnel as it is made; a passive one that is made for a request has its dispatch task. -/
def new (start : Start) (idleTimeout : Option Nat) (relayed tlsRequired tlsContext : Bool) (now : Nat) :
    PnTunnel where
  lifecycle :=
    match start with
    | .active | .passiveControl => .new 0 .openingControl now
    | .passive _ => .new 1 .opened now
  idleTimeout := idleTimeout
  closed := false
  relayed := relayed
  tlsRequired := tlsRequired
  tlsContext := tlsContext
  tasks :=
    match start with
    | .active | .passiveControl => []
    | .passive kind => [⟨.dispatch kind, .queued⟩]
  leases := []
  checks := []
  closers := []

def setTask (s : PnTunnel) (k : Nat) (x : Task) (phase : Phase) : PnTunnel :=
  { s with tasks := s.tasks.set k { x with phase := phase } }

/-- `schedule_from_refresh`. -/
def scheduleFromRefresh (s : PnTunnel) (r : PnTunnelLifecycleState × Option (Nat × U64)) : PnTunnel :=
  { s with
    lifecycle := r.1
    checks :=
      match r.2, s.idleTimeout with
      | some (_, generation), some _ => s.checks ++ [generation]
      | _, _ => s.checks }

/-- A region that changes a count ends so.  Where the source drops what `refresh_idle_state` returns,
it returns nothing. -/
def refreshed (s : PnTunnel) (st : PnTunnelLifecycleState) (now : Nat) : PnTunnel :=
  s.scheduleFromRefresh (st.refreshIdleState now)

def beginPendingChannel (s : PnTunnel) (now : Nat) : P2pResult PnTunnel :=
  if !s.lifecycle.isOpen then .error ⟨.errorState, "pn tunnel control channel is not ready"⟩
  else
    .ok (s.refreshed { s.lifecycle with pendingChannels := s.lifecycle.pendingChannels + 1 } now)

/-- A lease is made for that many halves, if the tunnel is open. -/
def pendingToActiveChannel (s : PnTunnel) (halves now : Nat) : PnTunnel :=
  let st := { s.lifecycle with pendingChannels := s.lifecycle.pendingChannels - 1 }
  if st.isOpen then
    { s with leases := s.leases ++ [halves] }.refreshed
      { st with activeChannels := st.activeChannels + 1 } now
  else s.refreshed st now

def releasePendingChannel (s : PnTunnel) (now : Nat) : PnTunnel :=
  s.refreshed { s.lifecycle with pendingChannels := s.lifecycle.pendingChannels - 1 } now

def queuedToPendingChannel (s : PnTunnel) (now : Nat) : P2pResult PnTunnel :=
  if !s.lifecycle.isOpen then .error ⟨.interrupted, "pn tunnel closed"⟩
  else
    .ok (s.refreshed { s.lifecycle with
      queuedChannels := s.lifecycle.queuedChannels - 1
      pendingChannels := s.lifecycle.pendingChannels + 1 } now)

def releaseActiveChannel (s : PnTunnel) (now : Nat) : PnTunnel :=
  s.refreshed { s.lifecycle with activeChannels := s.lifecycle.activeChannels - 1 } now

/-- `PnPendingChannel::into_active`, by the task `k`, which is `x`. -/
def intoActive (s : PnTunnel) (k : Nat) (x : Task) (now : Nat) : PnTunnel :=
  (s.pendingToActiveChannel x.halves now).setTask k x .ended

/-- The task returns an error or is dropped, and its guard with it. -/
def gives (s : PnTunnel) (k : Nat) (x : Task) (now : Nat) : PnTunnel :=
  (s.releasePendingChannel now).setTask k x .ended

/-- The channel of the task is there: a stream is wrapped if it must be. -/
def wraps (s : PnTunnel) (k : Nat) (x : Task) (now : Nat) : PnTunnel :=
  if x.isStream && s.tlsRequired then
    if s.tlsContext then s.setTask k x .securing else s.gives k x now
  else s.intoActive k x now

def closeLifecycleLocked (s : PnTunnel) (reason : PnTunnelCloseReason) : PnTunnel :=
  if s.lifecycle.status = .closing ∨ s.lifecycle.status = .closed then s
  else
    { s with
      lifecycle := { s.lifecycle with
        status := .closing
        closeReason := some reason
        queuedChannels := 0
        zeroSince := none
        generation := s.lifecycle.generation + 1 }
      closed := true
      closers := s.closers ++ [(reason, .localPart)] }

def closeIfIdle (s : PnTunnel) (generation : U64) (now : Nat) : PnTunnel :=
  match s.idleTimeout, s.lifecycle.zeroSince with
  | some timeout, some zeroSince =>
    if s.lifecycle.isOpen ∧ s.lifecycle.generation = generation ∧ s.lifecycle.totalChannels = 0 ∧
        zeroSince + timeout ≤ now then
      s.closeLifecycleLocked .idleTimeout
    else s
  | _, _ => s

def tryRetireIdle (s : PnTunnel) (now idleTimeout : Nat) : PnTunnel :=
  let idle := s.lifecycle.status = .opened ∧ s.lifecycle.closeReason = none ∧
    s.lifecycle.totalChannels = 0 ∧
    ∃ zeroSince ∈ s.lifecycle.zeroSince, zeroSince ≤ now ∧ idleTimeout < now - zeroSince
  if idle then
    { s with lifecycle := { s.lifecycle with
        status := .retired
        zeroSince := none
        generation := s.lifecycle.generation + 1 } }
  else s

def markClosed (s : PnTunnel) : PnTunnel :=
  if s.lifecycle.status = .closing then
    { s with lifecycle := { s.lifecycle with status := .closed } }
  else s

/-- A step of the task `k`, which is `x`. -/
def run (s : PnTunnel) (k : Nat) (x : Task) : Event → PnTunnel
  | .channel _ ok now =>
    if x.phase = .opening then
      -- without a proxy network only a control stream gets this far
      if ok && (s.relayed || x.kind = .openControlStream) then s.wraps k x now
      else s.gives k x now
    else s
  | .handshake _ ok now =>
    if x.phase = .securing then
      if ok then s.intoActive k x now else s.gives k x now
    else s
  | .cancel _ now =>
    if x.isCall ∧ (x.phase = .opening ∨ x.phase = .securing) then s.gives k x now else s
  | .prepared _ now => if x.phase = .preparing then s.intoActive k x now else s
  | .decided _ result =>
    if x.phase = .queued then
      -- a closed tunnel answers `Interrupted`
      if s.closed then s.setTask k x .ended else s.setTask k x (.checked result)
    else s
  | .moved _ now =>
    match x.phase with
    | .checked result =>
      match s.queuedToPendingChannel now with
      | .ok s => s.setTask k x (.answering result)
      | .error _ => s.setTask k x .ended
    | _ => s
  | .answered _ ok now =>
    match x.phase with
    | .answering result => if ok ∧ result = .success then s.wraps k x now else s.gives k x now
    | _ => s
  | _ => s

def step (s : PnTunnel) (ev : Event) : PnTunnel :=
  match ev with
  | .openChannel kind now =>
    if (Task.mk kind .opening).isCall then
      match s.beginPendingChannel now with
      | .ok s => { s with tasks := s.tasks ++ [⟨kind, .opening⟩] }
      | .error _ => s
    else s
  | .incomingControl now =>
    match s.beginPendingChannel now with
    | .ok s => { s with tasks := s.tasks ++ [⟨.incomingControl, .preparing⟩] }
    | .error _ => s
  | .pushPassiveChannel kind now =>
    if s.lifecycle.isOpen then
      let s := s.refreshed { s.lifecycle with queuedChannels := s.lifecycle.queuedChannels + 1 } now
      { s with tasks := s.tasks ++ [⟨.dispatch kind, .queued⟩] }
    else s
  | .dropHalf l now =>
    match s.leases[l]? with
    | some (n + 1) =>
      let s := { s with leases := s.leases.set l n }
      if n = 0 then s.releaseActiveChannel now else s
    | _ => s
  | .markControlReady now => s.scheduleFromRefresh (s.lifecycle.markControlReady now)
  | .close => s.closeLifecycleLocked .manual
  | .controlEnds e => s.closeLifecycleLocked e.reason
  | .closer i =>
    match s.closers[i]? with
    | some (reason, .localPart) =>
      { s.markClosed with closers := s.closers.set i (reason, .controlPart) }
    | some (reason, .controlPart) =>
      -- a manual `close` leaves the control channel to a task of its own
      let s := if reason = .manual then s else s.markClosed
      { s with closers := s.closers.set i (reason, .done) }
    | _ => s
  | .closeIfIdle i now =>
    match s.checks[i]? with
    | some generation => s.closeIfIdle generation now
    | none => s
  | .tryRetireIdle now idleTimeout => s.tryRetireIdle now idleTimeout
  | .channel k .. | .handshake k .. | .cancel k _ | .prepared k _ | .decided k _ | .moved k _
  | .answered k .. =>
    match s.tasks[k]? with
    | some x => s.run k x ev
    | none => s

end PnTunnel

/-! ## The counts -/

/-- The tunnel is never opened again. -/
def PnTunnelLifecycleStatus.over : PnTunnelLifecycleStatus → Bool
  | .retired | .closing | .closed => true
  | .openingControl | .opened => false

namespace PnTunnelLifecycleState

/-- The counts are these, and the idle state follows them. -/
structure Counts (st : PnTunnelLifecycleState) (guards leases waiting : Nat) : Prop where
  pending : st.pendingChannels = guards
  active : st.activeChannels = leases
  queued : st.status.over = false → st.queuedChannels = waiting
  zero : st.zeroSince.isSome = true ↔ st.isOpen = true ∧ st.totalChannels = 0
  reason : st.status.over = false → st.closeReason = none

variable {st : PnTunnelLifecycleState} {guards leases waiting : Nat}

theorem isOpen_iff : st.isOpen = true ↔ st.status = .opened ∧ st.closeReason = none := by
  simp [isOpen]

theorem over_eq_false_of_isOpen (h : st.isOpen = true) : st.status.over = false := by
  rw [(isOpen_iff.mp h).1]
  rfl

theorem isOpen_eq_false_of_over (h : st.status.over = true) : st.isOpen = false := by
  by_contra hopen
  rw [over_eq_false_of_isOpen (Bool.eq_true_of_not_eq_false hopen)] at h
  cases h

/-- `refresh_idle_state` changes the idle state only. -/
theorem refreshIdleState_eq (st : PnTunnelLifecycleState) (now : Nat) :
    ∃ zeroSince generation, (st.refreshIdleState now).1 =
      { st with zeroSince := zeroSince, generation := generation } := by
  unfold refreshIdleState
  split_ifs
  · exact ⟨st.zeroSince, st.generation, rfl⟩
  · exact ⟨_, _, rfl⟩
  · exact ⟨st.zeroSince, st.generation, rfl⟩
  · exact ⟨_, _, rfl⟩
  · exact ⟨st.zeroSince, st.generation, rfl⟩

theorem refreshIdleState_zero (hstale : st.zeroSince.isSome = true → st.isOpen = true) (now : Nat) :
    (st.refreshIdleState now).1.zeroSince.isSome = true ↔ st.isOpen = true ∧ st.totalChannels = 0 := by
  unfold refreshIdleState
  split_ifs with hopen htotal hnone hsome
  · have hclosed : st.isOpen = false := by simpa using hopen
    simp only [hclosed, Bool.false_eq_true, false_and, iff_false]
    exact fun h => by rw [hstale h] at hclosed; cases hclosed
  · have hopen' : st.isOpen = true := by simpa using hopen
    simp [htotal, hopen']
  · have hopen' : st.isOpen = true := by simpa using hopen
    have hsome : st.zeroSince.isSome = true := by simpa [Option.isSome_iff_ne_none] using hnone
    simp [hopen', htotal, hsome]
  · simp [htotal]
  · have hsome' : st.zeroSince.isSome = false := by simpa using hsome
    simp [htotal, hsome']

/-- What a region leaves behind that ends with `refresh_idle_state`. -/
theorem refreshIdleState_counts (hpending : st.pendingChannels = guards)
    (hactive : st.activeChannels = leases)
    (hqueued : st.status.over = false → st.queuedChannels = waiting)
    (hstale : st.zeroSince.isSome = true → st.isOpen = true)
    (hreason : st.status.over = false → st.closeReason = none) (now : Nat) :
    (st.refreshIdleState now).1.Counts guards leases waiting := by
  have hzero := refreshIdleState_zero hstale now
  obtain ⟨zeroSince, generation, heq⟩ := refreshIdleState_eq st now
  rw [heq] at hzero ⊢
  exact ⟨hpending, hactive, hqueued, hzero, hreason⟩

theorem Counts.stale (h : st.Counts guards leases waiting) :
    st.zeroSince.isSome = true → st.isOpen = true := fun hsome => (h.zero.mp hsome).1

end PnTunnelLifecycleState

namespace PnTunnel

open PnTunnelLifecycleState (Counts)

def guards (s : PnTunnel) : Nat := s.tasks.countP Task.guard

def liveLeases (s : PnTunnel) : Nat := s.leases.countP fun n => decide (0 < n)

/-- The dispatch tasks that have not moved their channel to pending. -/
def waiting (s : PnTunnel) : Nat := s.tasks.countP Task.waiting

structure Accounted (s : PnTunnel) : Prop where
  counts : s.lifecycle.Counts s.guards s.liveLeases s.waiting
  closed : s.closed = true → s.lifecycle.status.over = true
  early : s.lifecycle.status = .openingControl → s.tasks = []

variable {s : PnTunnel} {k : Nat} {x : Task}

@[simp] theorem refreshed_lifecycle (s : PnTunnel) (st : PnTunnelLifecycleState) (now : Nat) :
    (s.refreshed st now).lifecycle = (st.refreshIdleState now).1 := rfl

@[simp] theorem refreshed_status (s : PnTunnel) (st : PnTunnelLifecycleState) (now : Nat) :
    (s.refreshed st now).lifecycle.status = st.status := by
  obtain ⟨zeroSince, generation, heq⟩ := st.refreshIdleState_eq now
  rw [refreshed_lifecycle, heq]

theorem guards_setTask (hx : s.tasks[k]? = some x) (phase : Phase) :
    (s.setTask k x phase).guards + (if x.guard then 1 else 0) =
      s.guards + if phase.guard then 1 else 0 :=
  countP_set_add Task.guard _ hx

theorem waiting_setTask (hx : s.tasks[k]? = some x) (phase : Phase) :
    (s.setTask k x phase).waiting + (if x.waiting then 1 else 0) =
      s.waiting + if phase.waiting then 1 else 0 :=
  countP_set_add Task.waiting _ hx

theorem accounted_new (start : Start) (idleTimeout : Option Nat)
    (relayed tlsRequired tlsContext : Bool) (now : Nat) :
    (PnTunnel.new start idleTimeout relayed tlsRequired tlsContext now).Accounted := by
  cases start with
  | active =>
    refine ⟨⟨rfl, rfl, fun _ => rfl, ?_, fun _ => rfl⟩, ?_, fun _ => rfl⟩
    · simp [PnTunnel.new, PnTunnelLifecycleState.new, PnTunnelLifecycleState.isOpen]
    · simp [PnTunnel.new]
  | passive kind =>
    refine ⟨⟨rfl, rfl, fun _ => rfl, ?_, fun _ => rfl⟩, ?_, fun h => by cases h⟩
    · simp [PnTunnel.new, PnTunnelLifecycleState.new, PnTunnelLifecycleState.totalChannels]
    · simp [PnTunnel.new]
  | passiveControl =>
    refine ⟨⟨rfl, rfl, fun _ => rfl, ?_, fun _ => rfl⟩, ?_, fun _ => rfl⟩
    · simp [PnTunnel.new, PnTunnelLifecycleState.new, PnTunnelLifecycleState.isOpen]
    · simp [PnTunnel.new]

/-- A region that changes counts and ends with `refresh_idle_state`. -/
theorem Accounted.refreshed (h : s.Accounted) {s' : PnTunnel} {u : PnTunnelLifecycleState} {now : Nat}
    (hlifecycle : s'.lifecycle = (u.refreshIdleState now).1) (hclosed : s'.closed = s.closed)
    (hstatus : u.status = s.lifecycle.status) (hreason : u.closeReason = s.lifecycle.closeReason)
    (hzero : u.zeroSince = s.lifecycle.zeroSince) (hpending : u.pendingChannels = s'.guards)
    (hactive : u.activeChannels = s'.liveLeases)
    (hqueued : s.lifecycle.status.over = false → u.queuedChannels = s'.waiting)
    (hearly : s.lifecycle.status = .openingControl → s'.tasks = []) : s'.Accounted := by
  have hopen : u.isOpen = s.lifecycle.isOpen := by
    rw [PnTunnelLifecycleState.isOpen, PnTunnelLifecycleState.isOpen, hstatus, hreason]
  have hstatus' : s'.lifecycle.status = s.lifecycle.status := by
    obtain ⟨zeroSince, generation, heq⟩ := u.refreshIdleState_eq now
    rw [hlifecycle, heq]
    exact hstatus
  refine ⟨?_, ?_, ?_⟩
  · rw [hlifecycle]
    refine PnTunnelLifecycleState.refreshIdleState_counts hpending hactive ?_ ?_ ?_ now
    · rw [hstatus]
      exact hqueued
    · rw [hzero, hopen]
      exact h.counts.stale
    · rw [hstatus, hreason]
      exact h.counts.reason
  · rw [hclosed, hstatus']
    exact h.closed
  · rw [hstatus']
    exact hearly

/-- There is no task before the control channel is there. -/
theorem Accounted.not_early (h : s.Accounted) (hx : s.tasks[k]? = some x) :
    s.lifecycle.status ≠ .openingControl := by
  intro hearly
  rw [h.early hearly] at hx
  cases hx

/-- A task goes on without a region of its own. -/
theorem Accounted.setTask (h : s.Accounted) (hx : s.tasks[k]? = some x) {phase : Phase}
    (hguard : phase.guard = x.guard)
    (hwaiting : s.lifecycle.status.over = false → phase.waiting = x.waiting) :
    (s.setTask k x phase).Accounted := by
  have hguards := guards_setTask hx phase
  have hwaits := waiting_setTask hx phase
  rw [hguard, Nat.add_right_cancel_iff] at hguards
  refine ⟨⟨h.counts.pending.trans hguards.symm, h.counts.active, fun hover => ?_, h.counts.zero,
    h.counts.reason⟩, h.closed, fun hearly => absurd hearly (h.not_early hx)⟩
  rw [hwaiting hover, Nat.add_right_cancel_iff] at hwaits
  exact (h.counts.queued hover).trans hwaits.symm

theorem guard_of_phase {phase : Phase} (hphase : x.phase = phase) (hguard : phase.guard = true) :
    x.guard = true := by
  subst hphase
  exact hguard

theorem not_waiting_of_guard (hguard : x.guard = true) : x.waiting = false := by
  rw [Task.guard] at hguard
  rw [Task.waiting]
  cases hp : x.phase with
  | opening | securing | preparing | answering result => rfl
  | queued | checked result | ended =>
    rw [hp] at hguard
    cases hguard

theorem Accounted.gives (h : s.Accounted) (hx : s.tasks[k]? = some x) (hguard : x.guard = true)
    (now : Nat) : (s.gives k x now).Accounted := by
  have hguards : (s.setTask k x .ended).guards + 1 = s.guards := by
    simpa [hguard, Phase.guard] using guards_setTask hx .ended
  have hwaits : (s.setTask k x .ended).waiting = s.waiting := by
    simpa [not_waiting_of_guard hguard, Phase.waiting] using waiting_setTask hx .ended
  refine h.refreshed (u := { s.lifecycle with
    pendingChannels := s.lifecycle.pendingChannels - 1 }) rfl rfl rfl rfl rfl ?_ ?_ ?_ ?_
  · have hpending := h.counts.pending
    show s.lifecycle.pendingChannels - 1 = (s.setTask k x .ended).guards
    omega
  · exact h.counts.active
  · intro hover
    exact (h.counts.queued hover).trans hwaits.symm
  · exact fun hearly => absurd hearly (h.not_early hx)

theorem Accounted.intoActive (h : s.Accounted) (hx : s.tasks[k]? = some x) (hguard : x.guard = true)
    (now : Nat) : (s.intoActive k x now).Accounted := by
  have hguards : (s.setTask k x .ended).guards + 1 = s.guards := by
    simpa [hguard, Phase.guard] using guards_setTask hx .ended
  have hwaits : (s.setTask k x .ended).waiting = s.waiting := by
    simpa [not_waiting_of_guard hguard, Phase.waiting] using waiting_setTask hx .ended
  have hpending := h.counts.pending
  have hhalves : 0 < x.halves := by
    unfold Task.halves
    split <;> decide
  unfold PnTunnel.intoActive pendingToActiveChannel
  dsimp only
  split_ifs
  · refine h.refreshed (u := { s.lifecycle with
      pendingChannels := s.lifecycle.pendingChannels - 1
      activeChannels := s.lifecycle.activeChannels + 1 }) rfl rfl rfl rfl rfl ?_ ?_ ?_ ?_
    · show s.lifecycle.pendingChannels - 1 = (s.setTask k x .ended).guards
      omega
    · show s.lifecycle.activeChannels + 1 = (s.leases ++ [x.halves]).countP _
      rw [List.countP_append, List.countP_singleton, if_pos (by simpa using hhalves), h.counts.active]
      rfl
    · intro hover
      exact (h.counts.queued hover).trans hwaits.symm
    · exact fun hearly => absurd hearly (h.not_early hx)
  · refine h.refreshed (u := { s.lifecycle with
      pendingChannels := s.lifecycle.pendingChannels - 1 }) rfl rfl rfl rfl rfl ?_ ?_ ?_ ?_
    · show s.lifecycle.pendingChannels - 1 = (s.setTask k x .ended).guards
      omega
    · exact h.counts.active
    · intro hover
      exact (h.counts.queued hover).trans hwaits.symm
    · exact fun hearly => absurd hearly (h.not_early hx)

theorem Accounted.wraps (h : s.Accounted) (hx : s.tasks[k]? = some x) (hguard : x.guard = true)
    (now : Nat) : (s.wraps k x now).Accounted := by
  unfold PnTunnel.wraps
  split_ifs
  · refine h.setTask hx ?_ fun _ => ?_
    · rw [hguard]
      rfl
    · rw [not_waiting_of_guard hguard]
      rfl
  · exact h.gives hx hguard now
  · exact h.intoActive hx hguard now

/-- A pushed channel is taken up by its dispatch task. -/
theorem Accounted.moves (h : s.Accounted) (hx : s.tasks[k]? = some x) {result : TunnelCommandResult}
    (hp : x.phase = .checked result) (now : Nat) : (match s.queuedToPendingChannel now with
      | .ok s => s.setTask k x (.answering result)
      | .error _ => s.setTask k x .ended).Accounted := by
  unfold queuedToPendingChannel
  by_cases hopen : s.lifecycle.isOpen = true
  · rw [if_neg (by simp [hopen])]
    dsimp only
    have hguards : (s.setTask k x (.answering result)).guards = s.guards + 1 := by
      simpa [hp, Task.guard, Phase.guard] using guards_setTask hx (.answering result)
    have hwaits : (s.setTask k x (.answering result)).waiting + 1 = s.waiting := by
      simpa [hp, Task.waiting, Phase.waiting] using waiting_setTask hx (.answering result)
    refine h.refreshed (u := { s.lifecycle with
      queuedChannels := s.lifecycle.queuedChannels - 1
      pendingChannels := s.lifecycle.pendingChannels + 1 }) rfl rfl rfl rfl rfl ?_ ?_ ?_ ?_
    · show s.lifecycle.pendingChannels + 1 = (s.setTask k x (.answering result)).guards
      rw [hguards, h.counts.pending]
    · exact h.counts.active
    · intro hover
      have hqueued := h.counts.queued hover
      show s.lifecycle.queuedChannels - 1 = (s.setTask k x (.answering result)).waiting
      omega
    · exact fun hearly => absurd hearly (h.not_early hx)
  · rw [if_pos (by simpa using hopen)]
    refine h.setTask hx ?_ fun hover => ?_
    · simp [Task.guard, hp, Phase.guard]
    · refine absurd (PnTunnelLifecycleState.isOpen_iff.mpr ⟨?_, h.counts.reason hover⟩) hopen
      have hearly := h.not_early hx
      cases hstatus : s.lifecycle.status with
      | opened => rfl
      | openingControl => exact absurd hstatus hearly
      | retired | closing | closed =>
        rw [hstatus] at hover
        cases hover

/-- What ends the tunnel leaves the counts of guards and leases as they are. -/
theorem Accounted.ends (h : s.Accounted) {s' : PnTunnel} (htasks : s'.tasks = s.tasks)
    (hleases : s'.leases = s.leases) (hover : s'.lifecycle.status.over = true)
    (hpending : s'.lifecycle.pendingChannels = s.lifecycle.pendingChannels)
    (hactive : s'.lifecycle.activeChannels = s.lifecycle.activeChannels)
    (hzero : s'.lifecycle.zeroSince = none) : s'.Accounted := by
  refine ⟨⟨?_, ?_, fun hover' => ?_, ?_, fun hover' => ?_⟩, fun _ => hover, fun hearly => ?_⟩
  · rw [hpending, guards, htasks]
    exact h.counts.pending
  · rw [hactive, liveLeases, hleases]
    exact h.counts.active
  · rw [hover] at hover'
    cases hover'
  · rw [hzero, PnTunnelLifecycleState.isOpen_eq_false_of_over hover]
    simp
  · rw [hover] at hover'
    cases hover'
  · rw [hearly] at hover
    cases hover

theorem Accounted.closeLifecycleLocked (h : s.Accounted) (reason : PnTunnelCloseReason) :
    (s.closeLifecycleLocked reason).Accounted := by
  unfold PnTunnel.closeLifecycleLocked
  split_ifs
  · exact h
  · exact h.ends rfl rfl rfl rfl rfl rfl

theorem Accounted.closeIfIdle (h : s.Accounted) (generation : U64) (now : Nat) :
    (s.closeIfIdle generation now).Accounted := by
  unfold PnTunnel.closeIfIdle
  split
  · split_ifs
    · exact h.closeLifecycleLocked .idleTimeout
    · exact h
  · exact h

theorem Accounted.tryRetireIdle (h : s.Accounted) (now idleTimeout : Nat) :
    (s.tryRetireIdle now idleTimeout).Accounted := by
  unfold PnTunnel.tryRetireIdle
  dsimp only
  split_ifs
  · exact h.ends rfl rfl rfl rfl rfl rfl
  · exact h

theorem Accounted.markClosed (h : s.Accounted) : s.markClosed.Accounted := by
  unfold PnTunnel.markClosed
  split_ifs with hclosing
  · refine h.ends rfl rfl rfl rfl rfl ?_
    have hover : s.lifecycle.status.over = true := by rw [hclosing]; rfl
    by_contra hsome
    have hopen := h.counts.stale (Option.isSome_iff_ne_none.mpr hsome)
    rw [PnTunnelLifecycleState.isOpen_eq_false_of_over hover] at hopen
    cases hopen
  · exact h

/-- What only the closers have changes nothing that is counted. -/
theorem Accounted.closers (h : s.Accounted) (closers : List (PnTunnelCloseReason × CloserPhase)) :
    { s with closers := closers }.Accounted :=
  ⟨h.counts, h.closed, h.early⟩

theorem Accounted.markControlReady (h : s.Accounted) (now : Nat) :
    (s.scheduleFromRefresh (s.lifecycle.markControlReady now)).Accounted := by
  unfold PnTunnelLifecycleState.markControlReady
  split_ifs with hstatus
  · exact ⟨h.counts, h.closed, h.early⟩
  · have hearly : s.lifecycle.status = .openingControl := Decidable.not_not.mp hstatus
    have hover : s.lifecycle.status.over = false := by rw [hearly]; rfl
    have hnone : s.lifecycle.zeroSince.isSome ≠ true := fun hsome => by
      have hopen := h.counts.stale hsome
      rw [PnTunnelLifecycleState.isOpen_iff, hearly] at hopen
      cases hopen.1
    refine ⟨?_, fun hclosed => ?_, fun hearly' => ?_⟩
    · refine PnTunnelLifecycleState.refreshIdleState_counts
        (show PnTunnelLifecycleState.pendingChannels { s.lifecycle with status := .opened } = s.guards
          from h.counts.pending)
        h.counts.active (fun _ => h.counts.queued hover) (fun hsome => ?_)
        (fun _ => h.counts.reason hover) now
      exact absurd hsome hnone
    · have hover' := h.closed hclosed
      rw [hover] at hover'
      cases hover'
    · exact h.early hearly

theorem Accounted.dropHalf (h : s.Accounted) {l n : Nat} (hl : s.leases[l]? = some (n + 1)) (now : Nat) :
    (if n = 0 then { s with leases := s.leases.set l n }.releaseActiveChannel now
      else { s with leases := s.leases.set l n }).Accounted := by
  have hcount := countP_set_add (fun n => decide (0 < n)) n hl
  split_ifs with hn
  · subst hn
    have hlive : (s.leases.set l 0).countP (fun n => decide (0 < n)) + 1 = s.liveLeases := by
      simpa [liveLeases] using hcount
    have hactive := h.counts.active
    refine h.refreshed (u := { s.lifecycle with
      activeChannels := s.lifecycle.activeChannels - 1 }) rfl rfl rfl rfl rfl h.counts.pending ?_
      h.counts.queued h.early
    show s.lifecycle.activeChannels - 1 = (s.leases.set l 0).countP (fun n => decide (0 < n))
    omega
  · have hpos : 0 < n := Nat.pos_of_ne_zero hn
    have hlive : (s.leases.set l n).countP (fun n => decide (0 < n)) = s.liveLeases := by
      simpa [hpos, liveLeases] using hcount
    exact ⟨⟨h.counts.pending, h.counts.active.trans hlive.symm, h.counts.queued, h.counts.zero,
      h.counts.reason⟩, h.closed, h.early⟩

/-- A task begins with a guard. -/
theorem Accounted.beginPendingChannel (h : s.Accounted) {x : Task} (hguard : x.guard = true) (now : Nat) :
    (match s.beginPendingChannel now with
      | .ok s => { s with tasks := s.tasks ++ [x] }
      | .error _ => s).Accounted := by
  unfold PnTunnel.beginPendingChannel
  by_cases hopen : s.lifecycle.isOpen = true
  · rw [if_neg (by simp [hopen])]
    dsimp only
    refine h.refreshed (u := { s.lifecycle with
      pendingChannels := s.lifecycle.pendingChannels + 1 }) rfl rfl rfl rfl rfl ?_ ?_ ?_ ?_
    · show s.lifecycle.pendingChannels + 1 = (s.tasks ++ [x]).countP Task.guard
      rw [List.countP_append, List.countP_singleton, if_pos hguard, h.counts.pending]
      rfl
    · exact h.counts.active
    · intro hover
      show s.lifecycle.queuedChannels = (s.tasks ++ [x]).countP Task.waiting
      rw [List.countP_append, List.countP_singleton, if_neg (by simp [not_waiting_of_guard hguard]),
        h.counts.queued hover]
      rfl
    · intro hearly
      rw [PnTunnelLifecycleState.isOpen_iff, hearly] at hopen
      cases hopen.1
  · rw [if_pos (by simpa using hopen)]
    exact h

theorem Accounted.push (h : s.Accounted) (hopen : s.lifecycle.isOpen = true) (kind : PnChannelKind)
    (now : Nat) : { s.refreshed
        { s.lifecycle with queuedChannels := s.lifecycle.queuedChannels + 1 } now with
      tasks := s.tasks ++ [Task.mk (.dispatch kind) .queued] }.Accounted := by
  refine h.refreshed (u := { s.lifecycle with
    queuedChannels := s.lifecycle.queuedChannels + 1 }) rfl rfl rfl rfl rfl ?_ ?_ ?_ ?_
  · show s.lifecycle.pendingChannels = (s.tasks ++ [Task.mk (.dispatch kind) .queued]).countP Task.guard
    rw [List.countP_append, List.countP_singleton, if_neg (by simp [Task.guard, Phase.guard]), h.counts.pending]
    rfl
  · exact h.counts.active
  · intro hover
    show s.lifecycle.queuedChannels + 1 =
      (s.tasks ++ [Task.mk (.dispatch kind) .queued]).countP Task.waiting
    rw [List.countP_append, List.countP_singleton, if_pos (by simp [Task.waiting, Phase.waiting]), h.counts.queued hover]
    rfl
  · intro hearly
    rw [PnTunnelLifecycleState.isOpen_iff, hearly] at hopen
    cases hopen.1

theorem Accounted.run (h : s.Accounted) (hx : s.tasks[k]? = some x) (ev : Event) :
    (s.run k x ev).Accounted := by
  cases ev with
  | channel k' ok now =>
    simp only [PnTunnel.run]
    split_ifs with hp
    · exact h.wraps hx (guard_of_phase hp rfl) now
    · exact h.gives hx (guard_of_phase hp rfl) now
    · exact h
  | handshake k' ok now =>
    simp only [PnTunnel.run]
    split_ifs with hp
    · exact h.intoActive hx (guard_of_phase hp rfl) now
    · exact h.gives hx (guard_of_phase hp rfl) now
    · exact h
  | cancel k' now =>
    simp only [PnTunnel.run]
    split_ifs with hp
    · rcases hp.2 with hp | hp
      · exact h.gives hx (guard_of_phase hp rfl) now
      · exact h.gives hx (guard_of_phase hp rfl) now
    · exact h
  | prepared k' now =>
    simp only [PnTunnel.run]
    split_ifs with hp
    · exact h.intoActive hx (guard_of_phase hp rfl) now
    · exact h
  | decided k' result =>
    simp only [PnTunnel.run]
    split_ifs with hp hclosed
    · refine h.setTask hx ?_ fun hover => ?_
      · simp [Task.guard, hp, Phase.guard]
      · rw [h.closed hclosed] at hover
        cases hover
    · refine h.setTask hx ?_ fun _ => ?_
      · simp [Task.guard, hp, Phase.guard]
      · simp [Task.waiting, hp, Phase.waiting]
    · exact h
  | moved k' now =>
    simp only [PnTunnel.run]
    split
    · rename_i result hp
      exact h.moves hx hp now
    · exact h
  | answered k' ok now =>
    simp only [PnTunnel.run]
    split
    · rename_i result hp
      split_ifs
      · exact h.wraps hx (guard_of_phase hp rfl) now
      · exact h.gives hx (guard_of_phase hp rfl) now
    · exact h
  | _ => exact h

theorem Accounted.step (h : s.Accounted) (ev : Event) : (s.step ev).Accounted := by
  have htask : ∀ k : Nat, (match s.tasks[k]? with
      | some x => s.run k x ev
      | none => s).Accounted := by
    intro k
    cases hx : s.tasks[k]? with
    | none => exact h
    | some x => exact h.run hx ev
  cases ev with
  | openChannel kind now =>
    simp only [PnTunnel.step]
    split_ifs
    · exact h.beginPendingChannel rfl now
    · exact h
  | incomingControl now => exact h.beginPendingChannel rfl now
  | pushPassiveChannel kind now =>
    simp only [PnTunnel.step]
    split_ifs with hopen
    · exact h.push hopen kind now
    · exact h
  | dropHalf l now =>
    simp only [PnTunnel.step]
    split
    · rename_i n hl
      exact h.dropHalf hl now
    · exact h
  | markControlReady now => exact h.markControlReady now
  | close => exact h.closeLifecycleLocked .manual
  | controlEnds e => exact h.closeLifecycleLocked e.reason
  | closer i =>
    simp only [PnTunnel.step]
    split
    · exact h.markClosed.closers _
    · split_ifs
      · exact h.closers _
      · exact h.markClosed.closers _
    · exact h
  | closeIfIdle i now =>
    simp only [PnTunnel.step]
    split
    · exact h.closeIfIdle _ now
    · exact h
  | tryRetireIdle now idleTimeout => exact h.tryRetireIdle now idleTimeout
  | channel k ok now => exact htask k
  | handshake k ok now => exact htask k
  | cancel k now => exact htask k
  | prepared k now => exact htask k
  | decided k result => exact htask k
  | moved k now => exact htask k
  | answered k ok now => exact htask k

/-! ## After the end -/

/-- No guard and no lease has come in this step, and the tunnel is over as before. -/
structure Ungranted (s s' : PnTunnel) : Prop where
  gone : s'.lifecycle.status.over = true
  leases : s'.leases.length = s.leases.length
  guards : ∀ (k : Nat) y, s'.tasks[k]? = some y → y.guard = true →
    ∃ x, s.tasks[k]? = some x ∧ x.guard = true

theorem Ungranted.same {s' : PnTunnel} (hover : s'.lifecycle.status.over = true)
    (hleases : s'.leases.length = s.leases.length) (htasks : s'.tasks = s.tasks) : Ungranted s s' :=
  ⟨hover, hleases, fun k y hy hguard => ⟨y, by rw [← htasks]; exact hy, hguard⟩⟩

theorem Ungranted.trans {s₁ s₂ : PnTunnel} (h₁ : Ungranted s s₁) (h₂ : Ungranted s₁ s₂) :
    Ungranted s s₂ := by
  refine ⟨h₂.gone, h₂.leases.trans h₁.leases, fun k z hz hguard => ?_⟩
  obtain ⟨y, hy, hguard⟩ := h₂.guards k z hz hguard
  exact h₁.guards k y hy hguard

/-- The task `k` goes on, with a guard only if it had one. -/
theorem ungranted_setTask (hx : s.tasks[k]? = some x) {u : PnTunnel} {p : Phase}
    (hover : u.lifecycle.status.over = true) (hleases : u.leases.length = s.leases.length)
    (htasks : u.tasks = s.tasks) (hguard : p.guard = true → x.guard = true) :
    Ungranted s (u.setTask k x p) := by
  refine ⟨hover, hleases, fun k' y hy hguard' => ?_⟩
  have hget : (s.tasks.set k { x with phase := p })[k']? = some y := by
    rw [← htasks]
    exact hy
  by_cases hk : k = k'
  · subst hk
    rw [List.getElem?_set_self (List.getElem?_eq_some_iff.mp hx).1] at hget
    cases hget
    exact ⟨x, hx, hguard hguard'⟩
  · rw [List.getElem?_set_ne hk] at hget
    exact ⟨y, hget, hguard'⟩

theorem ungranted_gives (hover : s.lifecycle.status.over = true) (hx : s.tasks[k]? = some x) (now : Nat) :
    Ungranted s (s.gives k x now) :=
  ungranted_setTask (u := s.releasePendingChannel now) (p := .ended) hx
    (by rw [releasePendingChannel, refreshed_status]; exact hover) rfl rfl fun h => by cases h

theorem ungranted_intoActive (hover : s.lifecycle.status.over = true) (hx : s.tasks[k]? = some x)
    (now : Nat) : Ungranted s (s.intoActive k x now) := by
  have hopen := PnTunnelLifecycleState.isOpen_eq_false_of_over hover
  have hpending : s.pendingToActiveChannel x.halves now = s.refreshed
      { s.lifecycle with pendingChannels := s.lifecycle.pendingChannels - 1 } now := by
    unfold pendingToActiveChannel
    exact if_neg (by rw [show PnTunnelLifecycleState.isOpen { s.lifecycle with
      pendingChannels := s.lifecycle.pendingChannels - 1 } = s.lifecycle.isOpen from rfl, hopen]; decide)
  unfold PnTunnel.intoActive
  rw [hpending]
  exact ungranted_setTask hx (by rw [refreshed_status]; exact hover) rfl rfl fun h => by cases h

theorem ungranted_wraps (hover : s.lifecycle.status.over = true) (hx : s.tasks[k]? = some x)
    (hguard : x.guard = true) (now : Nat) : Ungranted s (s.wraps k x now) := by
  unfold PnTunnel.wraps
  split_ifs
  · exact ungranted_setTask hx hover rfl rfl fun _ => hguard
  · exact ungranted_gives hover hx now
  · exact ungranted_intoActive hover hx now

theorem ungranted_run (hover : s.lifecycle.status.over = true) (hx : s.tasks[k]? = some x) (ev : Event) :
    Ungranted s (s.run k x ev) := by
  have hsame : Ungranted s s := .same hover rfl rfl
  cases ev with
  | channel k' ok now =>
    simp only [PnTunnel.run]
    split_ifs with hp
    · exact ungranted_wraps hover hx (guard_of_phase hp rfl) now
    · exact ungranted_gives hover hx now
    · exact hsame
  | handshake k' ok now =>
    simp only [PnTunnel.run]
    split_ifs
    · exact ungranted_intoActive hover hx now
    · exact ungranted_gives hover hx now
    · exact hsame
  | cancel k' now =>
    simp only [PnTunnel.run]
    split_ifs
    · exact ungranted_gives hover hx now
    · exact hsame
  | prepared k' now =>
    simp only [PnTunnel.run]
    split_ifs
    · exact ungranted_intoActive hover hx now
    · exact hsame
  | decided k' result =>
    simp only [PnTunnel.run]
    split_ifs
    · exact ungranted_setTask hx hover rfl rfl fun h => by cases h
    · exact ungranted_setTask hx hover rfl rfl fun h => by cases h
    · exact hsame
  | moved k' now =>
    simp only [PnTunnel.run]
    split
    · have hopen := PnTunnelLifecycleState.isOpen_eq_false_of_over hover
      unfold queuedToPendingChannel
      rw [if_pos (by simp [hopen])]
      exact ungranted_setTask hx hover rfl rfl fun h => by cases h
    · exact hsame
  | answered k' ok now =>
    simp only [PnTunnel.run]
    split
    · rename_i result hp
      split_ifs
      · exact ungranted_wraps hover hx (guard_of_phase hp rfl) now
      · exact ungranted_gives hover hx now
    · exact hsame
  | _ => exact hsame

theorem ungranted_markClosed (hover : s.lifecycle.status.over = true) : Ungranted s s.markClosed := by
  unfold PnTunnel.markClosed
  split_ifs
  · exact .same rfl rfl rfl
  · exact .same hover rfl rfl

theorem ungranted_closeLifecycleLocked (hover : s.lifecycle.status.over = true)
    (reason : PnTunnelCloseReason) : Ungranted s (s.closeLifecycleLocked reason) := by
  unfold PnTunnel.closeLifecycleLocked
  split_ifs
  · exact .same hover rfl rfl
  · exact .same rfl rfl rfl

theorem ungranted_begin (hover : s.lifecycle.status.over = true) (x : Task) (now : Nat) :
    Ungranted s (match s.beginPendingChannel now with
      | .ok s => { s with tasks := s.tasks ++ [x] }
      | .error _ => s) := by
  have hopen := PnTunnelLifecycleState.isOpen_eq_false_of_over hover
  unfold PnTunnel.beginPendingChannel
  rw [if_pos (by simp [hopen])]
  exact .same hover rfl rfl

theorem ungranted_step (hover : s.lifecycle.status.over = true) (ev : Event) : Ungranted s (s.step ev) := by
  have hopen := PnTunnelLifecycleState.isOpen_eq_false_of_over hover
  have hsame : Ungranted s s := .same hover rfl rfl
  have htask : ∀ k : Nat, Ungranted s (match s.tasks[k]? with
      | some x => s.run k x ev
      | none => s) := by
    intro k
    cases hx : s.tasks[k]? with
    | none => exact hsame
    | some x => exact ungranted_run hover hx ev
  cases ev with
  | openChannel kind now =>
    simp only [PnTunnel.step]
    split_ifs
    · exact ungranted_begin hover _ now
    · exact hsame
  | incomingControl now => exact ungranted_begin hover _ now
  | pushPassiveChannel kind now =>
    simp only [PnTunnel.step]
    rw [if_neg (by simp [hopen])]
    exact hsame
  | dropHalf l now =>
    simp only [PnTunnel.step]
    split
    · split_ifs
      · exact .same (by rw [releaseActiveChannel, refreshed_status]; exact hover) (List.length_set ..) rfl
      · exact .same hover (List.length_set ..) rfl
    · exact hsame
  | markControlReady now =>
    have hne : s.lifecycle.status ≠ .openingControl := fun heq => by rw [heq] at hover; cases hover
    refine .same ?_ rfl rfl
    simp only [PnTunnel.step, scheduleFromRefresh, PnTunnelLifecycleState.markControlReady, if_pos hne]
    exact hover
  | close => exact ungranted_closeLifecycleLocked hover .manual
  | controlEnds e => exact ungranted_closeLifecycleLocked hover e.reason
  | closer i =>
    simp only [PnTunnel.step]
    split
    · exact (ungranted_markClosed hover).trans (.same (ungranted_markClosed hover).gone rfl rfl)
    · split_ifs
      · exact .same hover rfl rfl
      · exact (ungranted_markClosed hover).trans (.same (ungranted_markClosed hover).gone rfl rfl)
    · exact hsame
  | closeIfIdle i now =>
    simp only [PnTunnel.step]
    split
    · unfold PnTunnel.closeIfIdle
      split
      · split_ifs
        · exact ungranted_closeLifecycleLocked hover _
        · exact hsame
      · exact hsame
    · exact hsame
  | tryRetireIdle now idleTimeout =>
    simp only [PnTunnel.step, PnTunnel.tryRetireIdle]
    split_ifs
    · exact .same rfl rfl rfl
    · exact hsame
  | channel k ok now => exact htask k
  | handshake k ok now => exact htask k
  | cancel k now => exact htask k
  | prepared k now => exact htask k
  | decided k result => exact htask k
  | moved k now => exact htask k
  | answered k ok now => exact htask k

theorem ungranted_exec (hover : s.lifecycle.status.over = true) (evs : List Event) :
    Ungranted s (exec PnTunnel.step s evs) := by
  induction evs generalizing s with
  | nil => exact .same hover rfl rfl
  | cons ev evs ih => exact (ungranted_step hover ev).trans (ih (ungranted_step hover ev).gone)

/-! ## Idle tunnels -/

/-- The step neither ends the tunnel nor gives a reason for its end. -/
structure SameEnd (s s' : PnTunnel) : Prop where
  retired : s'.lifecycle.status = .retired → s.lifecycle.status = .retired
  reason : s'.lifecycle.closeReason = s.lifecycle.closeReason

theorem SameEnd.same {s' : PnTunnel} (h : s'.lifecycle = s.lifecycle) : SameEnd s s' :=
  ⟨fun hr => by rw [← h]; exact hr, by rw [h]⟩

/-- A region under the lock that changes counts. -/
theorem SameEnd.refreshed {u s' : PnTunnel} {st : PnTunnelLifecycleState} {now : Nat}
    (h : s'.lifecycle = (u.refreshed st now).lifecycle) (hstatus : st.status = s.lifecycle.status)
    (hreason : st.closeReason = s.lifecycle.closeReason) : SameEnd s s' := by
  obtain ⟨zeroSince, generation, heq⟩ := st.refreshIdleState_eq now
  rw [refreshed_lifecycle, heq] at h
  constructor
  · rw [h, ← hstatus]
    exact fun hr => hr
  · rw [h]
    exact hreason

theorem sameEnd_gives (s : PnTunnel) (k : Nat) (x : Task) (now : Nat) : SameEnd s (s.gives k x now) :=
  .refreshed (u := s) rfl rfl rfl

theorem sameEnd_intoActive (s : PnTunnel) (k : Nat) (x : Task) (now : Nat) :
    SameEnd s (s.intoActive k x now) := by
  unfold PnTunnel.intoActive pendingToActiveChannel
  dsimp only
  split_ifs
  · exact .refreshed (u := { s with leases := s.leases ++ [x.halves] }) rfl rfl rfl
  · exact .refreshed (u := s) rfl rfl rfl

theorem sameEnd_wraps (s : PnTunnel) (k : Nat) (x : Task) (now : Nat) : SameEnd s (s.wraps k x now) := by
  unfold PnTunnel.wraps
  split_ifs
  · exact .same rfl
  · exact sameEnd_gives s k x now
  · exact sameEnd_intoActive s k x now

theorem sameEnd_run (s : PnTunnel) (k : Nat) (x : Task) (ev : Event) : SameEnd s (s.run k x ev) := by
  cases ev with
  | channel k' ok now =>
    simp only [PnTunnel.run]
    split_ifs
    · exact sameEnd_wraps s k x now
    · exact sameEnd_gives s k x now
    · exact .same rfl
  | handshake k' ok now =>
    simp only [PnTunnel.run]
    split_ifs
    · exact sameEnd_intoActive s k x now
    · exact sameEnd_gives s k x now
    · exact .same rfl
  | cancel k' now =>
    simp only [PnTunnel.run]
    split_ifs
    · exact sameEnd_gives s k x now
    · exact .same rfl
  | prepared k' now =>
    simp only [PnTunnel.run]
    split_ifs
    · exact sameEnd_intoActive s k x now
    · exact .same rfl
  | decided k' result =>
    simp only [PnTunnel.run]
    split_ifs
    · exact .same rfl
    · exact .same rfl
    · exact .same rfl
  | moved k' now =>
    simp only [PnTunnel.run]
    split
    · unfold queuedToPendingChannel
      split_ifs
      · exact .same rfl
      · exact .refreshed (u := s) rfl rfl rfl
    · exact .same rfl
  | answered k' ok now =>
    simp only [PnTunnel.run]
    split
    · split_ifs
      · exact sameEnd_wraps s k x now
      · exact sameEnd_gives s k x now
    · exact .same rfl
  | _ => exact .same rfl

theorem sameEnd_begin (s : PnTunnel) (x : Task) (now : Nat) :
    SameEnd s (match s.beginPendingChannel now with
      | .ok s => { s with tasks := s.tasks ++ [x] }
      | .error _ => s) := by
  unfold PnTunnel.beginPendingChannel
  split_ifs
  · exact .same rfl
  · exact .refreshed (u := s) rfl rfl rfl

theorem sameEnd_markClosed (s : PnTunnel) : SameEnd s s.markClosed := by
  unfold PnTunnel.markClosed
  split_ifs
  · exact ⟨(fun h => by cases h), rfl⟩
  · exact .same rfl

/-- The tunnel may be closed or retired as idle in this step. -/
def IdleFor (s : PnTunnel) (past : Nat → Prop) : Prop :=
  s.lifecycle.activeChannels = 0 ∧ s.lifecycle.pendingChannels = 0 ∧ s.lifecycle.queuedChannels = 0 ∧
    ∃ zeroSince, s.lifecycle.zeroSince = some zeroSince ∧ past zeroSince

theorem idleFor_of_total {past : Nat → Prop} {zeroSince : Nat} (htotal : s.lifecycle.totalChannels = 0)
    (hzero : s.lifecycle.zeroSince = some zeroSince) (hpast : past zeroSince) : s.IdleFor past := by
  rw [PnTunnelLifecycleState.totalChannels] at htotal
  exact ⟨by omega, by omega, by omega, zeroSince, hzero, hpast⟩

/-- The step that closes the tunnel for `IdleTimeout` is a check behind the timeout. -/
def ClosesIdle (s : PnTunnel) (ev : Event) : Prop :=
  (s.step ev).lifecycle.closeReason = some .idleTimeout →
    s.lifecycle.closeReason = some .idleTimeout ∨ ∃ i now timeout, ev = .closeIfIdle i now ∧
      s.idleTimeout = some timeout ∧ s.IdleFor fun zeroSince => zeroSince + timeout ≤ now

/-- The step that retires it is a call with a timeout that has passed. -/
def RetiresIdle (s : PnTunnel) (ev : Event) : Prop :=
  (s.step ev).lifecycle.status = .retired →
    s.lifecycle.status = .retired ∨ ∃ now timeout, ev = .tryRetireIdle now timeout ∧
      s.IdleFor fun zeroSince => zeroSince + timeout < now

theorem SameEnd.idle {ev : Event} (h : SameEnd s (s.step ev)) : s.ClosesIdle ev ∧ s.RetiresIdle ev :=
  ⟨fun hr => .inl (h.reason.symm.trans hr), fun hr => .inl (h.retired hr)⟩

theorem closes_reason {reason : PnTunnelCloseReason} (hreason : reason ≠ .idleTimeout) {ev : Event}
    (hstep : s.step ev = s.closeLifecycleLocked reason) : s.ClosesIdle ev ∧ s.RetiresIdle ev := by
  unfold ClosesIdle RetiresIdle
  rw [hstep]
  unfold PnTunnel.closeLifecycleLocked
  split_ifs
  · exact ⟨.inl, .inl⟩
  · exact ⟨fun h => absurd (Option.some.inj h) hreason, fun h => by cases h⟩

theorem idle_step (s : PnTunnel) (ev : Event) : s.ClosesIdle ev ∧ s.RetiresIdle ev := by
  have htask : ∀ k : Nat, SameEnd s (match s.tasks[k]? with
      | some x => s.run k x ev
      | none => s) := by
    intro k
    cases s.tasks[k]? with
    | none => exact .same rfl
    | some x => exact sameEnd_run s k x ev
  cases ev with
  | openChannel kind now =>
    refine SameEnd.idle ?_
    simp only [PnTunnel.step]
    split_ifs
    · exact sameEnd_begin s _ now
    · exact .same rfl
  | incomingControl now => exact (sameEnd_begin s _ now).idle
  | pushPassiveChannel kind now =>
    refine SameEnd.idle ?_
    simp only [PnTunnel.step]
    split_ifs
    · exact .refreshed (u := s) rfl rfl rfl
    · exact .same rfl
  | dropHalf l now =>
    refine SameEnd.idle ?_
    simp only [PnTunnel.step]
    split
    · rename_i n hl
      split_ifs
      · exact .refreshed (u := { s with leases := s.leases.set l n }) rfl rfl rfl
      · exact .same rfl
    · exact .same rfl
  | markControlReady now =>
    refine SameEnd.idle ?_
    simp only [PnTunnel.step, PnTunnelLifecycleState.markControlReady]
    split_ifs
    · exact .same rfl
    · obtain ⟨zeroSince, generation, heq⟩ :=
        PnTunnelLifecycleState.refreshIdleState_eq { s.lifecycle with status := .opened } now
      refine ⟨fun h => ?_, ?_⟩
      · rw [scheduleFromRefresh, heq] at h
        cases h
      · rw [scheduleFromRefresh, heq]
  | close => exact closes_reason (by decide) rfl
  | controlEnds e => exact closes_reason (by cases e <;> decide) rfl
  | closer i =>
    refine SameEnd.idle ?_
    simp only [PnTunnel.step]
    split
    · exact ⟨(sameEnd_markClosed s).retired, (sameEnd_markClosed s).reason⟩
    · split_ifs
      · exact .same rfl
      · exact ⟨(sameEnd_markClosed s).retired, (sameEnd_markClosed s).reason⟩
    · exact .same rfl
  | closeIfIdle i now =>
    unfold ClosesIdle RetiresIdle
    simp only [PnTunnel.step]
    split
    · unfold PnTunnel.closeIfIdle
      split
      · rename_i timeout zeroSince htimeout hzero
        split_ifs with hidle
        · refine ⟨fun _ => .inr ⟨i, now, timeout, rfl, htimeout, ?_⟩, fun h => ?_⟩
          · exact idleFor_of_total hidle.2.2.1 hzero hidle.2.2.2
          · unfold PnTunnel.closeLifecycleLocked at h
            split_ifs at h
            exact .inl h
        · exact ⟨.inl, .inl⟩
      · exact ⟨.inl, .inl⟩
    · exact ⟨.inl, .inl⟩
  | tryRetireIdle now timeout =>
    unfold ClosesIdle RetiresIdle
    simp only [PnTunnel.step, PnTunnel.tryRetireIdle]
    split_ifs with hidle
    · refine ⟨.inl, fun _ => .inr ⟨now, timeout, rfl, ?_⟩⟩
      obtain ⟨-, -, htotal, zeroSince, hzero, hle, hpast⟩ := hidle
      exact idleFor_of_total htotal hzero (by omega)
    · exact ⟨.inl, .inl⟩
  | channel k ok now => exact (htask k).idle
  | handshake k ok now => exact (htask k).idle
  | cancel k now => exact (htask k).idle
  | prepared k now => exact (htask k).idle
  | decided k result => exact (htask k).idle
  | moved k now => exact (htask k).idle
  | answered k ok now => exact (htask k).idle

/-! ## Every run -/

structure Sound (s : PnTunnel) : Prop where
  pending : s.lifecycle.pendingChannels = s.guards
  active : s.lifecycle.activeChannels = s.liveLeases
  queued : s.lifecycle.isOpen = true → s.lifecycle.queuedChannels = s.waiting
  /-- There is one to subtract wherever one is subtracted. -/
  guard_counted : ∀ x ∈ s.tasks, x.guard = true → 0 < s.lifecycle.pendingChannels
  lease_counted : ∀ n ∈ s.leases, 0 < n → 0 < s.lifecycle.activeChannels
  push_counted : s.lifecycle.isOpen = true → ∀ x ∈ s.tasks, x.waiting = true →
    0 < s.lifecycle.queuedChannels
  zero : s.lifecycle.zeroSince.isSome = true ↔
    s.lifecycle.isOpen = true ∧ s.lifecycle.totalChannels = 0
  idle : ∀ ev, s.ClosesIdle ev ∧ s.RetiresIdle ev
  ended : s.lifecycle.status.over = true → ∀ evs, Ungranted s (exec PnTunnel.step s evs)

theorem Accounted.sound (h : s.Accounted) : s.Sound where
  pending := h.counts.pending
  active := h.counts.active
  queued hopen := h.counts.queued (PnTunnelLifecycleState.over_eq_false_of_isOpen hopen)
  guard_counted x hx hguard := by
    rw [h.counts.pending]
    exact List.countP_pos_iff.mpr ⟨x, hx, hguard⟩
  lease_counted n hn hpos := by
    rw [h.counts.active]
    exact List.countP_pos_iff.mpr ⟨n, hn, by simpa using hpos⟩
  push_counted hopen x hx hwaiting := by
    rw [h.counts.queued (PnTunnelLifecycleState.over_eq_false_of_isOpen hopen)]
    exact List.countP_pos_iff.mpr ⟨x, hx, hwaiting⟩
  zero := h.counts.zero
  idle := s.idle_step
  ended hover := ungranted_exec hover

/-- However a tunnel is made, in every state of every run the counts are those of the guards, the
leases and the pushed channels, none of them is decreased below them, the tunnel is idle since some
instant exactly when it is open and all of them are zero, and it ends as idle only then; and once it
is over it stays so and grants nothing. -/
theorem lifecycle_accounted (start : Start) (idleTimeout : Option Nat)
    (relayed tlsRequired tlsContext : Bool) (now : Nat) (evs : List Event) :
    (exec PnTunnel.step (.new start idleTimeout relayed tlsRequired tlsContext now) evs).Sound :=
  (exec_inv_all (fun _ ev h => h.step ev)
    (accounted_new start idleTimeout relayed tlsRequired tlsContext now) evs).sound

/-- A stream channel that is opened and dropped, and the check behind the timeout. -/
example : (exec PnTunnel.step (.new .active (some 10) true false false 0)
    [.markControlReady 1, .openChannel .openStream 2, .channel 0 true 3, .dropHalf 0 4, .dropHalf 0 5,
      .closeIfIdle 0 11, .closeIfIdle 1 15]).lifecycle =
    ⟨.closing, 0, 0, 0, none, 4, some .idleTimeout⟩ := by decide

end PnTunnel

end BuckyP2p.Pn.Lifecycle
