import BuckyP2p.Tcp.Connected
import Mathlib.Order.MinMax

/-!
# BuckyP2p.Tunnel.Heartbeats — when a silent peer is noticed (`heartbeat_loop`)

`TcpTunnel` and `QuicTunnel` each have a task that sleeps, pings a peer that was quiet for an
interval, and closes the tunnel when the times of the last command and of the last pong are both
older than the timeout.  A turn of a loop goes from one lock, clock or await to the next.

Instants are nanoseconds.  `since` and `seen`, `pingFailed` and `heardThen` are notes that no step
reads.
-/

namespace BuckyP2p.Tunnel.Heartbeats

open Lib
open Tcp.Connected (LocalTunnelPhase)

/-! ## The control connection -/

/-- What happens beside the loops. -/
inductive ControlEvent
  | pass (d : Nat)
  /-- A command; `stamp` may be older than the lock it is stored under. -/
  | receive (stamp : Nat)
  | pong (stamp : Nat)
  | close
  deriving DecidableEq

structure Control where
  now : Nat
  /-- `last_cmd_recv_at` in `QuicTunnel`. -/
  lastRecvAt : Nat
  lastPongAt : Nat
  closed : Bool
  deriving DecidableEq

namespace Control

def new (now : Nat) : Control := ⟨now, now, now, false⟩

/-- When something was received last. -/
def heardAt (c : Control) : Nat := max c.lastRecvAt c.lastPongAt

def step (c : Control) : ControlEvent → Control
  | .pass d => { c with now := c.now + d }
  | .receive stamp =>
    if c.lastRecvAt ≤ stamp ∧ stamp ≤ c.now then { c with lastRecvAt := stamp } else c
  | .pong stamp =>
    if c.lastPongAt ≤ stamp ∧ stamp ≤ c.now then { c with lastPongAt := stamp } else c
  | .close => { c with closed := true }

end Control

/-! ## `TcpTunnel` -/

inductive TcpLoop
  | sleeping (wake : Nat)
  /-- Before it looks at `closed`. -/
  | woken
  /-- Before it looks at the phase. -/
  | reading
  /-- Is a ping due? -/
  | deciding
  /-- In `send_ping`. -/
  | pinging
  /-- Has the peer timed out? -/
  | testing
  /-- Before `close_impl`. -/
  | closing (reason : P2pErrorCode)
  /-- `close_impl` waits for the write half. -/
  | shuttingDown
  | ended
  deriving DecidableEq

/-- Between two iterations, or after the last one. -/
def TcpLoop.Rests : TcpLoop → Prop
  | .sleeping _ | .ended => True
  | _ => False

structure TcpTunnel where
  control : Control
  phase : LocalTunnelPhase
  loop : TcpLoop
  /-- The start of the iteration. -/
  since : Nat
  /-- The phase that the iteration has read. -/
  seen : Option LocalTunnelPhase
  deriving DecidableEq

inductive TcpEvent
  | control (ev : ControlEvent)
  /-- `promote_connected`. -/
  | promote
  /-- `close_local` writes the phase. -/
  | settle (error : Bool)
  /-- The loop goes on; `sent` is the outcome of a ping. -/
  | turn (sent : Bool)
  deriving DecidableEq

namespace TcpTunnel

variable (heartbeatInterval heartbeatTimeout : Nat)

def new (now : Nat) (initialPhase : LocalTunnelPhase) : TcpTunnel :=
  ⟨.new now, initialPhase, .sleeping (now + heartbeatInterval), now, none⟩

def turn (m : TcpTunnel) (sent : Bool) : TcpTunnel :=
  match m.loop with
  | .sleeping wake =>
    if wake ≤ m.control.now then { m with loop := .woken, since := m.control.now, seen := none }
    else m
  | .woken => { m with loop := if m.control.closed then .ended else .reading }
  | .reading =>
    { m with
      seen := some m.phase
      loop := if m.phase = .connected then .deciding
        else .sleeping (m.control.now + heartbeatInterval) }
  | .deciding =>
    { m with
      loop := if heartbeatInterval ≤ m.control.now - m.control.lastRecvAt then .pinging
        else .testing }
  | .pinging => { m with loop := if sent then .testing else .closing .interrupted }
  | .testing =>
    { m with
      loop := if heartbeatTimeout ≤ m.control.now - m.control.lastPongAt ∧
          heartbeatTimeout ≤ m.control.now - m.control.lastRecvAt then .closing .timeout
        else .sleeping (m.control.now + heartbeatInterval) }
  | .closing _ =>
    if m.control.closed then { m with loop := .ended }
    else
      { m with
        control := { m.control with closed := true }
        phase := .error
        loop := .shuttingDown }
  | .shuttingDown => { m with loop := .ended }
  | .ended => m

def step (m : TcpTunnel) : TcpEvent → TcpTunnel
  | .control ev => { m with control := m.control.step ev }
  | .promote => if m.phase = .passiveReady then { m with phase := .connected } else m
  | .settle error =>
    if m.control.closed then { m with phase := if error then .error else .closed } else m
  | .turn sent => m.turn heartbeatInterval heartbeatTimeout sent

end TcpTunnel

/-! ## `QuicTunnel` -/

def commandHeartbeatInterval : Nat := 5 * 10 ^ 9
def commandHeartbeatTimeout : Nat := 30 * 10 ^ 9

inductive QuicLoop
  | sleeping (wake : Nat)
  | woken
  | reading
  /-- It has read both times and let go of the lock; the clock is next. -/
  | timing (lastCmdRecvAt lastPongAt : Nat)
  | pinging
  /-- Before `close_with_error`. -/
  | closing
  | ended
  deriving DecidableEq

def QuicLoop.Rests : QuicLoop → Prop
  | .sleeping _ | .ended => True
  | _ => False

structure QuicTunnel where
  control : Control
  loop : QuicLoop
  since : Nat
  /-- What was the last time heard, when the loop read it. -/
  heardThen : Nat
  /-- A ping was not sent. -/
  pingFailed : Bool
  deriving DecidableEq

inductive QuicEvent
  | control (ev : ControlEvent)
  | turn (sent : Bool)
  deriving DecidableEq

namespace QuicTunnel

def new (now : Nat) : QuicTunnel :=
  ⟨.new now, .sleeping (now + commandHeartbeatInterval), now, now, false⟩

def turn (m : QuicTunnel) (sent : Bool) : QuicTunnel :=
  match m.loop with
  | .sleeping wake =>
    if wake ≤ m.control.now then { m with loop := .woken, since := m.control.now } else m
  | .woken => { m with loop := if m.control.closed then .ended else .reading }
  | .reading =>
    { m with
      loop := .timing m.control.lastRecvAt m.control.lastPongAt
      heardThen := m.control.heardAt }
  | .timing lastCmdRecvAt lastPongAt =>
    { m with
      loop := if commandHeartbeatTimeout < m.control.now - lastCmdRecvAt ∧
          commandHeartbeatTimeout < m.control.now - lastPongAt then .closing
        else if commandHeartbeatInterval ≤ m.control.now - lastCmdRecvAt then .pinging
        else .sleeping (m.control.now + commandHeartbeatInterval) }
  | .pinging =>
    if sent then { m with loop := .sleeping (m.control.now + commandHeartbeatInterval) }
    else { m with loop := .ended, pingFailed := true }
  | .closing => { m with control := { m.control with closed := true }, loop := .ended }
  | .ended => m

def step (m : QuicTunnel) : QuicEvent → QuicTunnel
  | .control ev => { m with control := m.control.step ev }
  | .turn sent => m.turn sent

end QuicTunnel

/-! ## What goes on beside the loops -/

/-- The times do not go back, and closed is closed. -/
structure Control.Later (c c' : Control) : Prop where
  now : c.now ≤ c'.now
  lastRecvAt : c.lastRecvAt ≤ c'.lastRecvAt
  lastPongAt : c.lastPongAt ≤ c'.lastPongAt
  closed : c.closed = true → c'.closed = true

variable {c c' : Control}

theorem Control.heardAt_le {n : Nat} : c.heardAt ≤ n ↔ c.lastRecvAt ≤ n ∧ c.lastPongAt ≤ n :=
  max_le_iff

theorem Control.Later.heardAt (h : c.Later c') : c.heardAt ≤ c'.heardAt :=
  max_le_max h.lastRecvAt h.lastPongAt

theorem Control.later_step (c : Control) (ev : ControlEvent) : c.Later (c.step ev) := by
  cases ev with
  | pass d => exact ⟨Nat.le_add_right _ _, le_rfl, le_rfl, id⟩
  | receive stamp =>
    unfold Control.step
    dsimp only
    split
    · next h => exact ⟨le_rfl, h.1, le_rfl, id⟩
    · exact ⟨le_rfl, le_rfl, le_rfl, id⟩
  | pong stamp =>
    unfold Control.step
    dsimp only
    split
    · next h => exact ⟨le_rfl, le_rfl, h.1, id⟩
    · exact ⟨le_rfl, le_rfl, le_rfl, id⟩
  | close => exact ⟨le_rfl, le_rfl, le_rfl, fun _ => rfl⟩

/-- Nothing is heard before its time. -/
theorem Control.heardAt_step (h : c.heardAt ≤ c.now) (ev : ControlEvent) :
    (c.step ev).heardAt ≤ (c.step ev).now := by
  rw [Control.heardAt_le] at h
  cases ev with
  | pass d =>
    have hnow : c.now ≤ c.now + d := Nat.le_add_right _ _
    exact Control.heardAt_le.mpr ⟨h.1.trans hnow, h.2.trans hnow⟩
  | receive stamp =>
    unfold Control.step
    dsimp only
    split
    · next hstamp => exact Control.heardAt_le.mpr ⟨hstamp.2, h.2⟩
    · exact Control.heardAt_le.mpr h
  | pong stamp =>
    unfold Control.step
    dsimp only
    split
    · next hstamp => exact Control.heardAt_le.mpr ⟨h.1, hstamp.2⟩
    · exact Control.heardAt_le.mpr h
  | close => exact Control.heardAt_le.mpr h

/-- The peer was heard in the time before `since`. -/
def Control.Heard (timeout since : Nat) (c : Control) : Prop :=
  c.closed = true ∨ since ≤ c.heardAt + timeout

theorem Control.Heard.mono {timeout since : Nat} (h : c.Heard timeout since) (hlater : c.Later c') :
    c'.Heard timeout since := by
  rcases h with hclosed | hheard
  · exact .inl (hlater.closed hclosed)
  · exact .inr (hheard.trans (Nat.add_le_add_right hlater.heardAt _))

/-- A peer that has not timed out was heard. -/
theorem heard_of_not_timedOut {timeout since now recvAt pongAt : Nat} (hsince : since ≤ now)
    (h : ¬ (timeout < now - recvAt ∧ timeout < now - pongAt)) :
    since ≤ max recvAt pongAt + timeout := by
  rcases Nat.lt_or_ge timeout (now - recvAt) with hrecv | hrecv
  · have hpong : ¬ timeout < now - pongAt := fun hpong => h ⟨hrecv, hpong⟩
    omega
  · omega

/-! ## The invariant of `TcpTunnel` -/

namespace TcpTunnel

variable {heartbeatInterval heartbeatTimeout : Nat} {m : TcpTunnel}

/-- What is known where the loop stands. -/
def LoopOk (heartbeatTimeout : Nat) (m : TcpTunnel) : Prop :=
  match m.loop with
  | .sleeping _ => m.seen ≠ some .passiveReady → m.control.Heard heartbeatTimeout m.since
  | .shuttingDown | .ended => m.control.closed = true
  | _ => True

structure Inv (heartbeatTimeout : Nat) (m : TcpTunnel) : Prop where
  heard : m.control.heardAt ≤ m.control.now
  since : m.since ≤ m.control.now
  phase : m.phase = .closed ∨ m.phase = .error → m.control.closed = true
  loop : m.LoopOk heartbeatTimeout

theorem inv_new (now : Nat) {initialPhase : LocalTunnelPhase}
    (hphase : initialPhase = .passiveReady ∨ initialPhase = .connected) :
    Inv heartbeatTimeout (new heartbeatInterval now initialPhase) where
  heard := (max_self now).le
  since := le_rfl
  phase h := by
    rcases hphase with rfl | rfl <;> rcases h with h | h <;> cases h
  loop _ := by
    refine .inr ?_
    show now ≤ max now now + heartbeatTimeout
    omega

theorem Inv.control (hinv : Inv heartbeatTimeout m) (ev : ControlEvent) :
    Inv heartbeatTimeout { m with control := m.control.step ev } := by
  have hlater := m.control.later_step ev
  refine ⟨Control.heardAt_step hinv.heard ev, hinv.since.trans hlater.now,
    fun h => hlater.closed (hinv.phase h), ?_⟩
  have hloop := hinv.loop
  unfold LoopOk at hloop ⊢
  dsimp only
  split
  · next wake heq =>
    rw [heq] at hloop
    exact fun hseen => (hloop hseen).mono hlater
  · next heq =>
    rw [heq] at hloop
    exact hlater.closed hloop
  · next heq =>
    rw [heq] at hloop
    exact hlater.closed hloop
  · trivial

theorem Inv.turn (hinv : Inv heartbeatTimeout m) (sent : Bool) :
    Inv heartbeatTimeout (m.turn heartbeatInterval heartbeatTimeout sent) := by
  obtain ⟨control, phase, loop, since, seen⟩ := m
  obtain ⟨hheard, hsince, hphase, hloop⟩ := hinv
  cases loop with
  | sleeping wake =>
    unfold TcpTunnel.turn
    dsimp only
    split
    · exact ⟨hheard, le_rfl, hphase, trivial⟩
    · exact ⟨hheard, hsince, hphase, hloop⟩
  | woken =>
    refine ⟨hheard, hsince, hphase, ?_⟩
    show LoopOk heartbeatTimeout ⟨control, phase, if control.closed then .ended else .reading, _, _⟩
    split
    · next hclosed => exact hclosed
    · trivial
  | reading =>
    refine ⟨hheard, hsince, hphase, ?_⟩
    show LoopOk heartbeatTimeout ⟨control, phase,
      if phase = .connected then .deciding else .sleeping (control.now + heartbeatInterval), _, _⟩
    split
    · trivial
    · next hother =>
      intro hseen
      -- the phase of a tunnel that is not closed is one of two
      cases phase with
      | passiveReady => exact absurd rfl hseen
      | connected => exact absurd rfl hother
      | closed => exact .inl (hphase (.inl rfl))
      | error => exact .inl (hphase (.inr rfl))
  | deciding =>
    refine ⟨hheard, hsince, hphase, ?_⟩
    show LoopOk heartbeatTimeout ⟨control, phase,
      if heartbeatInterval ≤ control.now - control.lastRecvAt then .pinging else .testing, _, _⟩
    split <;> trivial
  | pinging =>
    refine ⟨hheard, hsince, hphase, ?_⟩
    cases sent <;> trivial
  | testing =>
    refine ⟨hheard, hsince, hphase, ?_⟩
    show LoopOk heartbeatTimeout ⟨control, phase,
      if heartbeatTimeout ≤ control.now - control.lastPongAt ∧
          heartbeatTimeout ≤ control.now - control.lastRecvAt then .closing .timeout
        else .sleeping (control.now + heartbeatInterval), _, _⟩
    split
    · trivial
    · next hin =>
      refine fun _ => .inr (heard_of_not_timedOut hsince fun hout => hin ?_)
      exact ⟨hout.2.le, hout.1.le⟩
  | closing reason =>
    unfold TcpTunnel.turn
    dsimp only
    split
    · next hclosed => exact ⟨hheard, hsince, hphase, hclosed⟩
    · exact ⟨hheard, hsince, fun _ => rfl, rfl⟩
  | shuttingDown => exact ⟨hheard, hsince, hphase, hloop⟩
  | ended => exact ⟨hheard, hsince, hphase, hloop⟩

theorem Inv.step (hinv : Inv heartbeatTimeout m) (ev : TcpEvent) :
    Inv heartbeatTimeout (m.step heartbeatInterval heartbeatTimeout ev) := by
  cases ev with
  | control ev => exact hinv.control ev
  | promote =>
    unfold TcpTunnel.step
    dsimp only
    split
    · refine ⟨hinv.heard, hinv.since, fun h => ?_, hinv.loop⟩
      rcases h with h | h <;> cases h
    · exact hinv
  | settle error =>
    unfold TcpTunnel.step
    dsimp only
    split
    · next hclosed => exact ⟨hinv.heard, hinv.since, fun _ => hclosed, hinv.loop⟩
    · exact hinv
  | turn sent => exact hinv.turn sent

/-- The step finds that the peer has timed out. -/
def TimesOut (heartbeatInterval heartbeatTimeout : Nat) (m : TcpTunnel) (ev : TcpEvent) : Prop :=
  m.loop ≠ .closing .timeout ∧
    (m.step heartbeatInterval heartbeatTimeout ev).loop = .closing .timeout

/-- Only the test after the ping finds it. -/
theorem timedOut_of_turn {sent : Bool} (hnot : m.loop ≠ .closing .timeout)
    (h : (m.turn heartbeatInterval heartbeatTimeout sent).loop = .closing .timeout) :
    heartbeatTimeout ≤ m.control.now - m.control.lastPongAt ∧
      heartbeatTimeout ≤ m.control.now - m.control.lastRecvAt := by
  obtain ⟨control, phase, loop, since, seen⟩ := m
  cases loop with
  | sleeping wake =>
    unfold TcpTunnel.turn at h
    dsimp only at h
    split at h <;> cases h
  | testing =>
    by_contra hin
    rw [TcpTunnel.turn] at h
    dsimp only at h
    rw [if_neg hin] at h
    cases h
  | closing reason =>
    unfold TcpTunnel.turn at h
    dsimp only at h
    split at h <;> cases h
  | shuttingDown => cases h
  | ended => cases h
  | pinging => cases sent <;> cases h
  | _ =>
    unfold TcpTunnel.turn at h
    dsimp only at h
    split at h <;> cases h

theorem silent_of_timesOut {ev : TcpEvent} (hinv : Inv heartbeatTimeout m)
    (h : TimesOut heartbeatInterval heartbeatTimeout m ev) :
    m.control.heardAt + heartbeatTimeout ≤ m.control.now := by
  obtain ⟨hnot, hclosing⟩ := h
  cases ev with
  | control ev => exact absurd hclosing hnot
  | promote =>
    unfold TcpTunnel.step at hclosing
    dsimp only at hclosing
    split at hclosing <;> exact absurd hclosing hnot
  | settle error =>
    unfold TcpTunnel.step at hclosing
    dsimp only at hclosing
    split at hclosing <;> exact absurd hclosing hnot
  | turn sent =>
    have hheard := Control.heardAt_le.mp hinv.heard
    obtain ⟨hpong, hrecv⟩ := timedOut_of_turn hnot hclosing
    unfold Control.heardAt
    omega

end TcpTunnel

/-! ## The invariant of `QuicTunnel` -/

namespace QuicTunnel

variable {m : QuicTunnel}

def LoopOk (m : QuicTunnel) : Prop :=
  match m.loop with
  | .sleeping _ | .pinging => m.control.Heard commandHeartbeatTimeout m.since
  | .timing lastCmdRecvAt lastPongAt => lastCmdRecvAt ≤ m.control.lastRecvAt ∧
    lastPongAt ≤ m.control.lastPongAt ∧ m.heardThen = max lastCmdRecvAt lastPongAt
  | .ended => m.control.closed = true ∨
    m.pingFailed = true ∧ m.control.Heard commandHeartbeatTimeout m.since
  | _ => True

structure Inv (m : QuicTunnel) : Prop where
  heard : m.control.heardAt ≤ m.control.now
  since : m.since ≤ m.control.now
  loop : m.LoopOk

theorem inv_new (now : Nat) : Inv (new now) where
  heard := (max_self now).le
  since := le_rfl
  loop := by
    refine .inr ?_
    show now ≤ max now now + commandHeartbeatTimeout
    omega

theorem Inv.control (hinv : Inv m) (ev : ControlEvent) :
    Inv { m with control := m.control.step ev } := by
  have hlater := m.control.later_step ev
  refine ⟨Control.heardAt_step hinv.heard ev, hinv.since.trans hlater.now, ?_⟩
  have hloop := hinv.loop
  unfold LoopOk at hloop ⊢
  dsimp only
  split
  · next wake heq =>
    rw [heq] at hloop
    exact hloop.mono hlater
  · next heq =>
    rw [heq] at hloop
    exact hloop.mono hlater
  · next recvAt pongAt heq =>
    rw [heq] at hloop
    obtain ⟨hrecv, hpong, hthen⟩ := hloop
    exact ⟨hrecv.trans hlater.lastRecvAt, hpong.trans hlater.lastPongAt, hthen⟩
  · next heq =>
    rw [heq] at hloop
    rcases hloop with hclosed | ⟨hfailed, hheard⟩
    · exact .inl (hlater.closed hclosed)
    · exact .inr ⟨hfailed, hheard.mono hlater⟩
  · trivial

theorem Inv.turn (hinv : Inv m) (sent : Bool) : Inv (m.turn sent) := by
  obtain ⟨control, loop, since, heardThen, pingFailed⟩ := m
  obtain ⟨hheard, hsince, hloop⟩ := hinv
  cases loop with
  | sleeping wake =>
    unfold QuicTunnel.turn
    dsimp only
    split
    · exact ⟨hheard, le_rfl, trivial⟩
    · exact ⟨hheard, hsince, hloop⟩
  | woken =>
    refine ⟨hheard, hsince, ?_⟩
    show LoopOk ⟨control, if control.closed then .ended else .reading, _, _, _⟩
    split
    · next hclosed => exact .inl hclosed
    · trivial
  | reading => exact ⟨hheard, hsince, le_rfl, le_rfl, rfl⟩
  | timing recvAt pongAt =>
    refine ⟨hheard, hsince, ?_⟩
    show LoopOk ⟨control, if commandHeartbeatTimeout < control.now - recvAt ∧
        commandHeartbeatTimeout < control.now - pongAt then .closing
      else if commandHeartbeatInterval ≤ control.now - recvAt then .pinging
      else .sleeping (control.now + commandHeartbeatInterval), _, _, _⟩
    split
    · trivial
    · next hin =>
      have hread := heard_of_not_timedOut hsince hin
      have hnow : max recvAt pongAt ≤ control.heardAt := max_le_max hloop.1 hloop.2.1
      have hrecent : control.Heard commandHeartbeatTimeout since :=
        .inr (hread.trans (Nat.add_le_add_right hnow _))
      split <;> exact hrecent
  | pinging =>
    cases sent with
    | true => exact ⟨hheard, hsince, hloop⟩
    | false => exact ⟨hheard, hsince, .inr ⟨rfl, hloop⟩⟩
  | closing => exact ⟨hheard, hsince, .inl rfl⟩
  | ended => exact ⟨hheard, hsince, hloop⟩

theorem Inv.step (hinv : Inv m) (ev : QuicEvent) : Inv (m.step ev) := by
  cases ev with
  | control ev => exact hinv.control ev
  | turn sent => exact hinv.turn sent

/-- The step finds that the peer has timed out. -/
def TimesOut (m : QuicTunnel) (ev : QuicEvent) : Prop :=
  m.loop ≠ .closing ∧ (m.step ev).loop = .closing

theorem silent_of_timesOut {ev : QuicEvent} (hinv : Inv m) (h : TimesOut m ev) :
    m.heardThen + commandHeartbeatTimeout < m.control.now := by
  obtain ⟨hnot, hclosing⟩ := h
  cases ev with
  | control ev => exact absurd hclosing hnot
  | turn sent =>
    obtain ⟨control, loop, since, heardThen, pingFailed⟩ := m
    cases loop with
    | timing recvAt pongAt =>
      have hloop := hinv.loop
      obtain ⟨-, -, hthen⟩ := hloop
      have hout : commandHeartbeatTimeout < control.now - recvAt ∧
          commandHeartbeatTimeout < control.now - pongAt := by
        by_contra hin
        rw [step, QuicTunnel.turn] at hclosing
        dsimp only at hclosing
        rw [if_neg hin] at hclosing
        split at hclosing <;> cases hclosing
      show heardThen + _ < control.now
      rw [show heardThen = max recvAt pongAt from hthen]
      omega
    | pinging => cases sent <;> cases hclosing
    | closing => exact absurd rfl hnot
    | reading => cases hclosing
    | ended => cases hclosing
    | _ =>
      unfold QuicTunnel.step QuicTunnel.turn at hclosing
      dsimp only at hclosing
      split at hclosing <;> cases hclosing

end QuicTunnel

/-! ## Every run -/

/-- The loop goes on while the tunnel is open, and an iteration leaves no tunnel open that was silent
for the timeout before it and to its end, unless it has found it `PassiveReady`. -/
structure TcpTunnel.Watched (heartbeatTimeout : Nat) (m : TcpTunnel) : Prop where
  goesOn : m.loop = .ended → m.control.closed = true
  closes : m.loop.Rests → m.seen ≠ some .passiveReady →
    m.control.heardAt + heartbeatTimeout < m.since → m.control.closed = true

/-- The same, if every ping was sent. -/
structure QuicTunnel.Watched (m : QuicTunnel) : Prop where
  goesOn : m.loop = .ended → m.pingFailed = false → m.control.closed = true
  closes : m.loop.Rests → m.control.heardAt + commandHeartbeatTimeout < m.since →
    m.control.closed = true

theorem Control.Heard.closed {timeout since : Nat} (h : c.Heard timeout since)
    (hsilent : c.heardAt + timeout < since) : c.closed = true :=
  h.resolve_right (Nat.not_le_of_lt hsilent)

theorem TcpTunnel.Inv.watched {heartbeatTimeout : Nat} {m : TcpTunnel}
    (hinv : m.Inv heartbeatTimeout) : m.Watched heartbeatTimeout := by
  have hloop := hinv.loop
  unfold LoopOk at hloop
  constructor
  · intro hended
    rwa [hended] at hloop
  · intro hrests hseen hsilent
    split at hloop
    · exact (hloop hseen).closed hsilent
    · exact hloop
    · exact hloop
    · next hsleeping _ hended =>
      unfold TcpLoop.Rests at hrests
      split at hrests
      · next wake heq => exact absurd heq (hsleeping wake)
      · next heq => exact absurd heq hended
      · exact hrests.elim

theorem QuicTunnel.Inv.watched {m : QuicTunnel} (hinv : m.Inv) : m.Watched := by
  have hloop := hinv.loop
  unfold LoopOk at hloop
  constructor
  · intro hended hsent
    rw [hended] at hloop
    refine hloop.resolve_right fun hfailed => ?_
    rw [hfailed.1] at hsent
    cases hsent
  · intro hrests hsilent
    unfold QuicLoop.Rests at hrests
    split at hrests
    · next wake heq =>
      rw [heq] at hloop
      exact Control.Heard.closed hloop hsilent
    · next heq =>
      rw [heq] at hloop
      rcases hloop with hclosed | ⟨-, hheard⟩
      · exact hclosed
      · exact hheard.closed hsilent
    · exact hrests.elim

/-- Every run of either loop watches its peer, and times it out only if it was silent: on TCP when
it is tested, on QUIC when its times are read. -/
theorem silent_peers_detected :
    (∀ heartbeatInterval heartbeatTimeout now initialPhase is,
      initialPhase = .passiveReady ∨ initialPhase = .connected →
      (exec (TcpTunnel.step heartbeatInterval heartbeatTimeout)
        (.new heartbeatInterval now initialPhase) is).Watched heartbeatTimeout ∧
      Along (TcpTunnel.step heartbeatInterval heartbeatTimeout)
        (fun m ev => m.TimesOut heartbeatInterval heartbeatTimeout ev →
          m.control.heardAt + heartbeatTimeout ≤ m.control.now)
        (.new heartbeatInterval now initialPhase) is) ∧
    ∀ now is, (exec QuicTunnel.step (.new now) is).Watched ∧
      Along QuicTunnel.step
        (fun m ev => m.TimesOut ev → m.heardThen + commandHeartbeatTimeout < m.control.now)
        (.new now) is := by
  constructor
  · intro heartbeatInterval heartbeatTimeout now initialPhase is hphase
    have hnew : TcpTunnel.Inv heartbeatTimeout (.new heartbeatInterval now initialPhase) :=
      TcpTunnel.inv_new now hphase
    refine ⟨(exec_inv_all (fun m ev h => h.step ev) hnew is).watched, ?_⟩
    exact along_of_inv (I := TcpTunnel.Inv heartbeatTimeout) (C := fun _ _ => True)
      (fun m ev h _ => h.step ev) (fun m ev h _ => TcpTunnel.silent_of_timesOut h) hnew (along_true _ _)
  · intro now is
    have hnew := QuicTunnel.inv_new now
    refine ⟨(exec_inv_all (fun m ev h => h.step ev) hnew is).watched, ?_⟩
    exact along_of_inv (I := QuicTunnel.Inv) (C := fun _ _ => True)
      (fun m ev h _ => h.step ev) (fun m ev h _ => QuicTunnel.silent_of_timesOut h) hnew (along_true _ _)

/-- A passive tunnel that hears nothing stays open, a loop may end with its tunnel open when a ping
is not sent, who is heard late is not closed, and a command that comes between the lock and the
clock is not seen. -/
theorem silent_peers_missed :
    (∃ m, m = exec (TcpTunnel.step 5 30) (.new 5 0 .passiveReady)
        [.control (.pass 40), .turn true, .turn true, .turn true] ∧
      m.loop = .sleeping 45 ∧ m.control.heardAt + 30 < m.since ∧ m.control.closed = false) ∧
    (∃ m m', m = exec (TcpTunnel.step 5 30) (.new 5 0 .connected)
        [.control (.pass 40), .turn true] ∧
      m' = exec (TcpTunnel.step 5 30) m
        [.control (.receive 40), .turn true, .turn true, .turn true, .turn true] ∧
      m.control.heardAt + 30 < m.since ∧ m'.since = m.since ∧ m'.loop = .sleeping 45 ∧
      m'.control.closed = false) ∧
    (∃ m, m = exec QuicTunnel.step (.new 0)
        [.control (.pass (6 * 10 ^ 9)), .turn true, .turn true, .turn true, .turn true,
          .turn false] ∧
      m.loop = .ended ∧ m.control.closed = false) ∧
    ∃ m, m = exec QuicTunnel.step (.new 0)
        [.control (.pass (31 * 10 ^ 9)), .turn true, .turn true, .turn true,
          .control (.receive (31 * 10 ^ 9))] ∧
      m.TimesOut (.turn true) ∧ m.control.heardAt = m.control.now := by
  refine ⟨⟨_, rfl, ?_⟩, ⟨_, _, rfl, rfl, ?_⟩, ⟨_, rfl, ?_⟩, ⟨_, rfl, ?_⟩⟩
  · decide
  · decide
  · decide
  · unfold QuicTunnel.TimesOut
    decide

end BuckyP2p.Tunnel.Heartbeats
