import BuckyP2p.Pn.Lifecycle

/-!
# BuckyP2p.Pn.Heartbeat — pings on the control channel (`pn/client/pn_tunnel.rs`)

`control_heartbeat_loop` sleeps for the interval, closes the tunnel when the pending ping or the last
sign of the peer is as old as the timeout, and sends a ping when the peer was quiet for an interval and
no ping is pending.  `control_recv_loop` notes every command (`mark_control_seen`) and clears the
pending ping when its pong is there (`mark_control_pong`).

* The loops are tasks of their own: what each does between two locks is a step.  The two looks at
  the timeouts and the close that follows are one.
* Instants are numbers; the clock goes on by any amount at any time, and the interval and the
  timeout may be set at any time.
* The last part of the state is a history, which no step reads: the pings that went out, with
  whether a pong for them was processed since, and when commands came in.
-/

namespace BuckyP2p.Pn.Heartbeat

open Lib
open Lifecycle (PnTunnelCloseReason)

/-- A command of the control channel, with what the loops look at. -/
inductive PnControlCmd
  | ping (seq : U64)
  | pong (seq : U64)
  | close
  | data
  deriving DecidableEq

/-- Where `control_heartbeat_loop` stands. -/
inductive HeartbeatPhase
  | sleeping (interval wakeAt : Nat)
  /-- Nothing has timed out; is a ping due? -/
  | deciding (interval : Nat)
  /-- `send_control` is called. -/
  | sending (seq : U64)
  | writing (seq : U64)
  /-- The ping is out, and `mark_control_ping_sent` is next. -/
  | sent (seq : U64)
  | done
  deriving DecidableEq

/-- Where `control_recv_loop` stands. -/
inductive RecvPhase
  | reading
  /-- `read_control_cmd` has returned, and `mark_control_seen` is next. -/
  | arrived (cmd : PnControlCmd) (now : Nat)
  | handling (cmd : PnControlCmd)
  | done
  deriving DecidableEq

structure SentPing where
  seq : U64
  sentAt : Nat
  answered : Bool
  deriving DecidableEq

structure PnTunnel where
  now : Nat
  controlHeartbeatInterval : Nat
  controlHeartbeatTimeout : Nat
  controlLastSeen : Nat
  controlPendingPing : Option (U64 × Nat)
  /-- `closed` is set in the same region. -/
  closeReason : Option PnTunnelCloseReason
  heartbeat : HeartbeatPhase
  seq : U64
  recv : RecvPhase
  pings : List SentPing
  arrivals : List Nat

inductive Event
  | tick (d : Nat)
  | setInterval (interval : Nat)
  | setTimeout (timeout : Nat)
  /-- Closed by others, by hand or as idle. -/
  | closeElsewhere (idle : Bool)
  /-- The sleep of the heartbeat loop is over. -/
  | wake
  | decide
  | enterSend
  | written (ok : Bool)
  | markSent
  | arrive (cmd : PnControlCmd)
  | readFailed
  | markSeen
  /-- The command is handled; the answer to a ping, or what takes the data, may fail. -/
  | handle (ok : Bool)
  deriving DecidableEq

namespace PnTunnel

/-- Both loops are started (`set_control_channel`). -/
def start (interval timeout now : Nat) : PnTunnel where
  now := now
  controlHeartbeatInterval := interval
  controlHeartbeatTimeout := timeout
  controlLastSeen := now
  controlPendingPing := none
  closeReason := none
  heartbeat := .sleeping interval (now + interval)
  seq := 0
  recv := .reading
  pings := []
  arrivals := []

variable (s : PnTunnel)

/-- The first reason stays. -/
def closeWithReason (reason : PnTunnelCloseReason) : PnTunnel :=
  { s with closeReason := s.closeReason.or (some reason) }

def markControlSeen : PnTunnel := { s with controlLastSeen := s.now }

def markControlPingSent (seq : U64) : PnTunnel :=
  { s with controlLastSeen := s.now, controlPendingPing := some (seq, s.now) }

def markControlPong (seq : U64) : PnTunnel :=
  { s with
    controlPendingPing := s.controlPendingPing.filter fun pending => pending.1 ≠ seq
    pings := s.pings.map fun p => if p.seq = seq then { p with answered := true } else p }

/-- The heartbeat loop goes round. -/
def sleep : PnTunnel :=
  { s with
    heartbeat := .sleeping s.controlHeartbeatInterval (s.now + s.controlHeartbeatInterval) }

/-- The receive loop goes round. -/
def recvNext : PnTunnel := { s with recv := if s.closeReason.isSome then .done else .reading }

def pendingTimedOut : Bool :=
  s.controlPendingPing.any fun pending => s.controlHeartbeatTimeout ≤ s.now - pending.2

def seenTimedOut : Bool := s.controlHeartbeatTimeout ≤ s.now - s.controlLastSeen

def wake (wakeAt interval : Nat) : PnTunnel :=
  if s.now < wakeAt then s
  else if s.closeReason.isSome then { s with heartbeat := .done }
  else if s.pendingTimedOut || s.seenTimedOut then
    { s.closeWithReason .heartbeatTimeout with heartbeat := .done }
  else { s with heartbeat := .deciding interval }

def decidePing (interval : Nat) : PnTunnel :=
  if s.now - s.controlLastSeen < interval || s.controlPendingPing.isSome then s.sleep
  else { s with seq := s.seq + 1, heartbeat := .sending (s.seq + 1) }

/-- The write of a ping ends. -/
def pingWritten (seq : U64) (ok : Bool) : PnTunnel :=
  if ok then { s with heartbeat := .sent seq, pings := s.pings ++ [⟨seq, s.now, false⟩] }
  else { s.closeWithReason .controlError with heartbeat := .done }

def handle (cmd : PnControlCmd) (ok : Bool) : PnTunnel :=
  match cmd with
  | .pong seq => (s.markControlPong seq).recvNext
  | .close => { s.closeWithReason .remoteControl with recv := .done }
  | .ping _ | .data =>
    if ok then s.recvNext else { s.closeWithReason .controlError with recv := .done }

def step (s : PnTunnel) : Event → PnTunnel
  | .tick d => { s with now := s.now + d }
  | .setInterval interval => { s with controlHeartbeatInterval := interval }
  | .setTimeout timeout => { s with controlHeartbeatTimeout := timeout }
  | .closeElsewhere idle => s.closeWithReason (if idle then .idleTimeout else .manual)
  | .wake =>
    match s.heartbeat with
    | .sleeping interval wakeAt => s.wake wakeAt interval
    | _ => s
  | .decide =>
    match s.heartbeat with
    | .deciding interval => s.decidePing interval
    | _ => s
  | .enterSend =>
    match s.heartbeat with
    | .sending seq => { s with heartbeat := if s.closeReason.isSome then .done else .writing seq }
    | _ => s
  | .written ok =>
    match s.heartbeat with
    | .writing seq => s.pingWritten seq ok
    | _ => s
  | .markSent =>
    match s.heartbeat with
    | .sent seq => (s.markControlPingSent seq).sleep
    | _ => s
  | .arrive cmd =>
    match s.recv with
    | .reading => { s with recv := .arrived cmd s.now, arrivals := s.arrivals ++ [s.now] }
    | _ => s
  | .readFailed =>
    match s.recv with
    | .reading => { s.closeWithReason .controlError with recv := .done }
    | _ => s
  | .markSeen =>
    match s.recv with
    | .arrived cmd _ => { s.markControlSeen with recv := .handling cmd }
    | _ => s
  | .handle ok =>
    match s.recv with
    | .handling cmd => s.handle cmd ok
    | _ => s

/-! ## Justified timeouts -/

/-- A ping that is as old as the timeout has no answer, or for that long no command came and no ping
went out. -/
def Justified : Prop :=
  (∃ p ∈ s.pings, p.sentAt + s.controlHeartbeatTimeout ≤ s.now ∧ ¬ p.answered) ∨
    (∀ at' ∈ s.arrivals, at' + s.controlHeartbeatTimeout ≤ s.now) ∧
      ∀ p ∈ s.pings, p.sentAt + s.controlHeartbeatTimeout ≤ s.now

/-- The step closes the tunnel, for a timeout. -/
def ClosesForTimeout (ev : Event) : Prop :=
  s.closeReason = none ∧ (s.step ev).closeReason = some .heartbeatTimeout

/-- The ping that is to be marked. -/
def unmarked : Option U64 :=
  match s.heartbeat with
  | .sent seq => some seq
  | _ => none

/-- The pong that is to be processed. -/
def pongToHandle : Option U64 :=
  match s.recv with
  | .handling (.pong seq) => some seq
  | _ => none

/-- When the command came that is to be marked. -/
def unseen : Option Nat :=
  match s.recv with
  | .arrived _ now => some now
  | _ => none

/-- The heartbeat loop is about to look at the timeouts. -/
def checking : Bool :=
  match s.heartbeat with
  | .sleeping _ wakeAt => wakeAt ≤ s.now && s.closeReason.isNone
  | _ => false

/-- No pong is processed while its ping is to be marked, and the peer is not taken for quiet while
a command that came within the timeout is to be marked. -/
def MarkedInTime (s : PnTunnel) : Event → Prop
  | .handle _ => ∀ seq ∈ s.pongToHandle, s.unmarked ≠ some seq
  | .wake => s.checking → s.pendingTimedOut = false → s.seenTimedOut →
      ∀ at' ∈ s.unseen, at' + s.controlHeartbeatTimeout ≤ s.now
  | _ => True

instance : Decidable s.Justified := inferInstanceAs (Decidable (_ ∨ _))

instance (ev : Event) : Decidable (s.ClosesForTimeout ev) := inferInstanceAs (Decidable (_ ∧ _))

instance : (ev : Event) → Decidable (s.MarkedInTime ev)
  | .handle _ => inferInstanceAs (Decidable (∀ seq ∈ s.pongToHandle, s.unmarked ≠ some seq))
  | .wake =>
    inferInstanceAs (Decidable (s.checking → s.pendingTimedOut = false → s.seenTimedOut →
      ∀ at' ∈ s.unseen, at' + s.controlHeartbeatTimeout ≤ s.now))
  | .tick _ | .setInterval _ | .setTimeout _ | .closeElsewhere _ | .decide | .enterSend | .written _
  | .markSent | .arrive _ | .readFailed | .markSeen => isTrue trivial

/-- A ping that is pending or to be marked went out and has no answer; what came in or went out is
not younger than the last sign of the peer, unless that is to be marked. -/
structure Inv : Prop where
  seen_le : s.controlLastSeen ≤ s.now
  pending : ∀ pending ∈ s.controlPendingPing, pending.2 ≤ s.now ∧
    ∃ p ∈ s.pings, p.seq = pending.1 ∧ p.sentAt ≤ pending.2 ∧ p.answered = false
  unmarked : ∀ seq ∈ s.unmarked, ∃ p ∈ s.pings, p.seq = seq ∧ p.answered = false
  arrival : ∀ at' ∈ s.arrivals,
    at' ≤ s.now ∧ (at' ≤ s.controlLastSeen ∨ s.unseen = some at')
  ping : ∀ p ∈ s.pings, p.sentAt ≤ s.now ∧ (p.sentAt ≤ s.controlLastSeen ∨ s.unmarked.isSome)

variable {s}

theorem inv_start (interval timeout now : Nat) : (start interval timeout now).Inv where
  seen_le := le_rfl
  pending := by simp [start]
  unmarked := by simp [start, PnTunnel.unmarked]
  arrival := by simp [start]
  ping := by simp [start]

/-- The invariant does not see what is done next. -/
theorem Inv.of_eq (h : s.Inv) {t : PnTunnel} (hnow : t.now = s.now)
    (hseen : t.controlLastSeen = s.controlLastSeen)
    (hpending : t.controlPendingPing = s.controlPendingPing) (hpings : t.pings = s.pings)
    (harrivals : t.arrivals = s.arrivals) (hunmarked : t.unmarked = s.unmarked)
    (hunseen : t.unseen = s.unseen) : t.Inv where
  seen_le := by rw [hseen, hnow]; exact h.seen_le
  pending := by rw [hpending, hnow, hpings]; exact h.pending
  unmarked := by rw [hunmarked, hpings]; exact h.unmarked
  arrival := by rw [harrivals, hnow, hseen, hunseen]; exact h.arrival
  ping := by rw [hpings, hnow, hseen, hunmarked]; exact h.ping

theorem Inv.tick (h : s.Inv) (d : Nat) : Inv { s with now := s.now + d } where
  seen_le := h.seen_le.trans (Nat.le_add_right ..)
  pending := fun pending hpending =>
    let ⟨hle, hsent⟩ := h.pending pending hpending
    ⟨hle.trans (Nat.le_add_right ..), hsent⟩
  unmarked := h.unmarked
  arrival := fun at' hat =>
    let ⟨hle, hseen⟩ := h.arrival at' hat
    ⟨hle.trans (Nat.le_add_right ..), hseen⟩
  ping := fun p hp =>
    let ⟨hle, hseen⟩ := h.ping p hp
    ⟨hle.trans (Nat.le_add_right ..), hseen⟩

/-- The heartbeat loop goes on, and neither had nor has a ping to mark. -/
theorem Inv.heartbeat (h : s.Inv) {phase : HeartbeatPhase} (hs : s.unmarked = none)
    (hphase : ∀ seq, phase ≠ .sent seq) : Inv { s with heartbeat := phase } := by
  refine h.of_eq rfl rfl rfl rfl rfl ?_ rfl
  rw [hs]
  cases phase with
  | sent seq => exact absurd rfl (hphase seq)
  | _ => rfl

theorem Inv.closeWithReason (h : s.Inv) (reason : PnTunnelCloseReason) :
    (s.closeWithReason reason).Inv :=
  h.of_eq rfl rfl rfl rfl rfl rfl rfl

/-- The ping is marked with the clock as it is now. -/
theorem Inv.markControlPingSent (h : s.Inv) {seq : U64} (hs : s.heartbeat = .sent seq) :
    (s.markControlPingSent seq).sleep.Inv where
  seen_le := le_rfl
  pending := by
    rintro pending ⟨⟩
    obtain ⟨p, hp, hseq, hfresh⟩ := h.unmarked seq (by simp [PnTunnel.unmarked, hs])
    exact ⟨le_rfl, p, hp, hseq, (h.ping p hp).1, hfresh⟩
  unmarked := by simp [PnTunnel.unmarked, sleep]
  arrival := fun at' hat => ⟨(h.arrival at' hat).1, .inl (h.arrival at' hat).1⟩
  ping := fun p hp => ⟨(h.ping p hp).1, .inl (h.ping p hp).1⟩

theorem Inv.pingWritten (h : s.Inv) {seq : U64} (hs : s.unmarked = none) (ok : Bool) :
    (s.pingWritten seq ok).Inv := by
  cases ok with
  | false => exact (h.closeWithReason .controlError).heartbeat hs (by simp)
  | true =>
    refine ⟨h.seen_le, fun pending hpending => ?_, fun seq' hseq' => ?_, h.arrival, fun p hp => ?_⟩
    · obtain ⟨hle, p, hp, hsent⟩ := h.pending pending hpending
      exact ⟨hle, p, List.mem_append_left _ hp, hsent⟩
    · cases hseq'
      exact ⟨⟨seq, s.now, false⟩, List.mem_append_right _ (List.mem_singleton_self _), rfl, rfl⟩
    · refine ⟨?_, .inr rfl⟩
      rcases List.mem_append.mp hp with hp | hp
      · exact (h.ping p hp).1
      · cases List.mem_singleton.mp hp
        exact le_rfl

/-- Processing a pong touches only the pings with its number. -/
theorem Inv.markControlPong (h : s.Inv) {seq : U64} (hs : s.unmarked ≠ some seq) :
    (s.markControlPong seq).Inv where
  seen_le := h.seen_le
  pending := by
    intro pending hpending
    obtain ⟨hpending, hne⟩ := Option.mem_filter_iff.mp hpending
    obtain ⟨hle, p, hp, hseq, hsent⟩ := h.pending pending hpending
    refine ⟨hle, p, List.mem_map.mpr ⟨p, hp, if_neg ?_⟩, hseq, hsent⟩
    rw [hseq]
    exact of_decide_eq_true hne
  unmarked := by
    intro seq' hseq'
    obtain ⟨p, hp, hseq, hfresh⟩ := h.unmarked seq' hseq'
    refine ⟨p, List.mem_map.mpr ⟨p, hp, if_neg ?_⟩, hseq, hfresh⟩
    rintro rfl
    exact hs (hseq ▸ hseq')
  arrival := h.arrival
  ping := by
    intro p hp
    obtain ⟨q, hq, rfl⟩ := List.mem_map.mp hp
    have hsent : (if q.seq = seq then { q with answered := true } else q).sentAt = q.sentAt := by
      split <;> rfl
    rw [hsent]
    exact h.ping q hq

theorem Inv.recvNext (h : s.Inv) (hs : s.unseen = none) : s.recvNext.Inv := by
  refine h.of_eq rfl rfl rfl rfl rfl rfl ?_
  rw [hs, PnTunnel.recvNext]
  split <;> rfl

theorem Inv.recvDone (h : s.Inv) (hs : s.unseen = none) : Inv { s with recv := .done } :=
  h.of_eq rfl rfl rfl rfl rfl rfl hs.symm

theorem Inv.handle (h : s.Inv) {cmd : PnControlCmd} (hs : s.recv = .handling cmd) (ok : Bool)
    (hin : s.MarkedInTime (.handle ok)) : (s.handle cmd ok).Inv := by
  have hunseen : s.unseen = none := by simp [unseen, hs]
  cases cmd with
  | pong seq =>
    have hseq : s.unmarked ≠ some seq := hin seq (by simp [pongToHandle, hs])
    exact (h.markControlPong hseq).recvNext hunseen
  | close => exact (h.closeWithReason _).recvDone hunseen
  | ping seq =>
    cases ok with
    | true => exact h.recvNext hunseen
    | false => exact (h.closeWithReason _).recvDone hunseen
  | data =>
    cases ok with
    | true => exact h.recvNext hunseen
    | false => exact (h.closeWithReason _).recvDone hunseen

theorem Inv.arrive (h : s.Inv) (cmd : PnControlCmd) (hs : s.unseen = none) :
    Inv { s with recv := .arrived cmd s.now, arrivals := s.arrivals ++ [s.now] } where
  seen_le := h.seen_le
  pending := h.pending
  unmarked := h.unmarked
  arrival := by
    intro at' hat
    rcases List.mem_append.mp hat with hat | hat
    · obtain ⟨hle, hseen | hunseen⟩ := h.arrival at' hat
      · exact ⟨hle, .inl hseen⟩
      · rw [hs] at hunseen
        cases hunseen
    · cases List.mem_singleton.mp hat
      exact ⟨le_rfl, .inr rfl⟩
  ping := h.ping

theorem Inv.markControlSeen (h : s.Inv) (cmd : PnControlCmd) :
    Inv { s.markControlSeen with recv := .handling cmd } where
  seen_le := le_rfl
  pending := h.pending
  unmarked := h.unmarked
  arrival := fun at' hat => ⟨(h.arrival at' hat).1, .inl (h.arrival at' hat).1⟩
  ping := fun p hp => ⟨(h.ping p hp).1, .inl (h.ping p hp).1⟩

theorem Inv.wake (h : s.Inv) (hs : s.unmarked = none) (wakeAt interval : Nat) :
    (s.wake wakeAt interval).Inv := by
  unfold PnTunnel.wake
  split_ifs
  · exact h
  · exact h.heartbeat hs (by simp)
  · exact (h.closeWithReason _).heartbeat hs (by simp)
  · exact h.heartbeat hs (by simp)

theorem Inv.decidePing (h : s.Inv) (hs : s.unmarked = none) (interval : Nat) :
    (s.decidePing interval).Inv := by
  unfold PnTunnel.decidePing
  split_ifs
  · exact h.heartbeat hs (by simp)
  · have hseq : Inv { s with seq := s.seq + 1 } := h.of_eq rfl rfl rfl rfl rfl rfl rfl
    exact hseq.heartbeat hs (by simp)

theorem Inv.step (h : s.Inv) {ev : Event} (hin : s.MarkedInTime ev) : (s.step ev).Inv := by
  cases ev with
  | tick d => exact h.tick d
  | setInterval interval => exact h.of_eq rfl rfl rfl rfl rfl rfl rfl
  | setTimeout timeout => exact h.of_eq rfl rfl rfl rfl rfl rfl rfl
  | closeElsewhere idle => exact h.closeWithReason _
  | wake =>
    rw [PnTunnel.step]
    split
    · next hs => exact h.wake (by simp [PnTunnel.unmarked, hs]) _ _
    · exact h
  | decide =>
    rw [PnTunnel.step]
    split
    · next hs => exact h.decidePing (by simp [PnTunnel.unmarked, hs]) _
    · exact h
  | enterSend =>
    rw [PnTunnel.step]
    split
    · next hs =>
      refine h.heartbeat (by simp [PnTunnel.unmarked, hs]) fun seq => ?_
      split <;> simp
    · exact h
  | written ok =>
    rw [PnTunnel.step]
    split
    · next hs => exact h.pingWritten (by simp [PnTunnel.unmarked, hs]) ok
    · exact h
  | markSent =>
    rw [PnTunnel.step]
    split
    · next hs => exact h.markControlPingSent hs
    · exact h
  | arrive cmd =>
    rw [PnTunnel.step]
    split
    · next hs => exact h.arrive cmd (by simp [unseen, hs])
    · exact h
  | readFailed =>
    rw [PnTunnel.step]
    split
    · next hs => exact (h.closeWithReason _).recvDone (by simp [unseen, PnTunnel.closeWithReason, hs])
    · exact h
  | markSeen =>
    rw [PnTunnel.step]
    split
    · exact h.markControlSeen _
    · exact h
  | handle ok =>
    rw [PnTunnel.step]
    split
    · next hs => exact h.handle hs ok hin
    · exact h

/-- Only the heartbeat loop gives a timeout as the reason, and only after its look at the
timeouts. -/
theorem ClosesForTimeout.wake {ev : Event} (h : s.ClosesForTimeout ev) :
    ev = .wake ∧ s.checking ∧ (s.pendingTimedOut || s.seenTimedOut) := by
  obtain ⟨hopen, hcloses⟩ := h
  cases ev with
  | wake =>
    rw [step] at hcloses
    split at hcloses
    · next interval wakeAt hs =>
      unfold PnTunnel.wake at hcloses
      split_ifs at hcloses with hearly hclosed htimed
      · simp [hopen] at hcloses
      · simp [hopen] at hcloses
      · exact ⟨rfl, by simp [checking, hs, hopen, Nat.le_of_not_lt hearly], htimed⟩
      · simp [hopen] at hcloses
    · simp [hopen] at hcloses
  | closeElsewhere idle => cases idle <;> simp [step, closeWithReason, hopen] at hcloses
  | handle ok =>
    rw [step] at hcloses
    split at hcloses
    · next cmd _ =>
      cases cmd <;> cases ok <;>
        simp [handle, markControlPong, recvNext, closeWithReason, hopen] at hcloses
    · simp [hopen] at hcloses
  | decide =>
    rw [step] at hcloses
    split at hcloses
    · unfold decidePing at hcloses
      split_ifs at hcloses <;> simp [sleep, hopen] at hcloses
    · simp [hopen] at hcloses
  | written ok =>
    rw [step] at hcloses
    split at hcloses
    · cases ok <;> simp [pingWritten, closeWithReason, hopen] at hcloses
    · simp [hopen] at hcloses
  | _ =>
    simp only [step] at hcloses
    try split at hcloses
    all_goals simp [markControlPingSent, sleep, markControlSeen, closeWithReason, hopen] at hcloses

theorem Inv.justified (h : s.Inv) {ev : Event} (hin : s.MarkedInTime ev)
    (hcloses : s.ClosesForTimeout ev) : s.Justified := by
  obtain ⟨rfl, hchecking, htimed⟩ := hcloses.wake
  by_cases hpending : s.pendingTimedOut
  · obtain ⟨pending, hsome, hold⟩ := Option.any_eq_true .. |>.mp hpending
    obtain ⟨hle, p, hp, -, hsent, hfresh⟩ := h.pending pending hsome
    have hold : s.controlHeartbeatTimeout ≤ s.now - pending.2 := of_decide_eq_true hold
    exact .inl ⟨p, hp, by omega, by simp [hfresh]⟩
  · have hquiet : s.seenTimedOut := by simpa [hpending] using htimed
    have hold : s.controlHeartbeatTimeout ≤ s.now - s.controlLastSeen := of_decide_eq_true hquiet
    have hle := h.seen_le
    -- the loop sleeps, so that no ping is to be marked
    have hmarked : s.unmarked = none := by
      unfold checking at hchecking
      split at hchecking
      · next hs => simp [PnTunnel.unmarked, hs]
      · cases hchecking
    refine .inr ⟨fun at' hat => ?_, fun p hp => ?_⟩
    · obtain ⟨-, hseen | hunseen⟩ := h.arrival at' hat
      · omega
      · exact hin hchecking (by simpa using hpending) hquiet at' hunseen
    · obtain ⟨-, hseen | hunmarked⟩ := h.ping p hp
      · omega
      · rw [hmarked] at hunmarked
        cases hunmarked

/-- **Timeouts are justified.**  In every run in which what comes in is marked in time, the tunnel
is closed for a timeout only if a ping as old as the timeout has no answer, or for that long no
command came and no ping went out. -/
theorem timeout_justified (interval timeout now : Nat) (evs : List Event)
    (hin : Along step MarkedInTime (start interval timeout now) evs) :
    Along step (fun s ev => s.ClosesForTimeout ev → s.Justified) (start interval timeout now) evs :=
  along_of_inv (I := Inv) (fun _ _ h hin => h.step hin) (fun _ _ h hin => h.justified hin)
    (inv_start ..) hin

/-- The peer never says anything: a ping at 5, the timeout at 20. -/
def silentPeer : List Event :=
  [.tick 5, .wake, .decide, .enterSend, .written true, .markSent, .tick 15, .wake]

theorem silentPeer_justified :
    Along step (fun s ev => s.ClosesForTimeout ev → s.Justified) (start 5 15 0) silentPeer ∧
      (exec step (start 5 15 0) silentPeer).closeReason = some .heartbeatTimeout :=
  ⟨timeout_justified 5 15 0 silentPeer (by decide), by decide⟩

/-- The pong is processed before the ping is marked; at 12 the peer sends data; at 20 the tunnel is
closed. -/
def promptPong : List Event :=
  [.tick 5, .wake, .decide, .enterSend, .written true, .arrive (.pong 1), .markSeen, .handle true,
    .markSent, .tick 7, .arrive .data, .markSeen, .handle true, .tick 8]

theorem promptPong_closes :
    let s := exec step (start 5 15 0) promptPong
    s.ClosesForTimeout .wake ∧ s.pings = [⟨1, 5, true⟩] ∧ s.arrivals = [5, 12] ∧ s.now = 20 ∧
      ¬ s.Justified := by
  decide

end PnTunnel

end BuckyP2p.Pn.Heartbeat
