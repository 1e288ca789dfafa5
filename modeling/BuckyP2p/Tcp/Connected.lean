import BuckyP2p.Base
import BuckyP2p.Lib.Runs

/-!
# BuckyP2p.Tcp.Connected — waiting for a passive tunnel (`wait_until_connected`)

A tunnel that was accepted is `PassiveReady` until the other end has used it (`promote_connected`).
Who opens a channel before that waits on `connected_notify`, which `promote_connected` and
`close_local` notify after they have written the phase.

The phase is read and written under the lock; reading it, subscribing, writing it and
`notify_waiters` are steps of their own.  `notify_waiters` wakes those who have subscribed, and
nothing of it is left for those who have not.  A caller may be dropped wherever it waits.
-/

namespace BuckyP2p.Tcp.Connected

open Lib

inductive LocalTunnelPhase
  | passiveReady | connected | closed | error
  deriving DecidableEq

/-- Where a call of `wait_until_connected` stands. -/
inductive WaiterPhase
  | reading
  /-- It has read `PassiveReady`. -/
  | subscribing
  | parked
  | done (result : P2pResult Unit)
  deriving DecidableEq

/-- Where the call of `close_local` stands that has set `closed`. -/
inductive ClosePhase
  | writing (phase : LocalTunnelPhase)
  | notifying
  deriving DecidableEq

/-- `promoting` are the calls of `promote_connected` that have written the phase and are to
notify. -/
structure Waiting where
  phase : LocalTunnelPhase
  closed : Bool
  promoting : Nat
  closing : Option ClosePhase
  waiters : Nat → Option WaiterPhase

inductive WaitEvent
  | call (w : Nat)
  | read (w : Nat)
  | subscribe (w : Nat)
  | cancel (w : Nat)
  | promote
  | notifyPromoted
  /-- `close_local`, with `Error` or `Closed`. -/
  | close (error : Bool)
  | writeClosed
  | notifyClosed
  deriving DecidableEq

namespace Waiting

def start (phase : LocalTunnelPhase) : Waiting := ⟨phase, false, 0, none, fun _ => none⟩

variable (s : Waiting)

def setWaiter (w : Nat) (p : Option WaiterPhase) : Waiting :=
  { s with waiters := Function.update s.waiters w p }

/-- What a caller does with the phase. -/
def afterRead : LocalTunnelPhase → WaiterPhase
  | .connected => .done (.ok ())
  | .closed => .done (.error ⟨.interrupted, "tunnel closed"⟩)
  | .error => .done (.error ⟨.errorState, "tunnel error"⟩)
  | .passiveReady => .subscribing

/-- `notify_waiters`. -/
def notifyWaiters : Waiting :=
  { s with waiters := fun w => (s.waiters w).map fun p => if p = .parked then .reading else p }

def step (s : Waiting) : WaitEvent → Waiting
  | .call w =>
    match s.waiters w with
    | none => s.setWaiter w (some .reading)
    | some _ => s
  | .read w =>
    match s.waiters w with
    | some .reading => s.setWaiter w (some (afterRead s.phase))
    | _ => s
  | .subscribe w =>
    match s.waiters w with
    | some .subscribing => s.setWaiter w (some .parked)
    | _ => s
  | .cancel w => s.setWaiter w none
  | .promote =>
    if s.phase = .passiveReady then { s with phase := .connected, promoting := s.promoting + 1 }
    else s
  | .notifyPromoted =>
    if s.promoting = 0 then s else { s with promoting := s.promoting - 1 }.notifyWaiters
  | .close error =>
    if s.closed then s
    else { s with closed := true, closing := some (.writing (if error then .error else .closed)) }
  | .writeClosed =>
    match s.closing with
    | some (.writing phase) => { s with phase := phase, closing := some .notifying }
    | _ => s
  | .notifyClosed =>
    match s.closing with
    | some .notifying => { s with closing := none }.notifyWaiters
    | _ => s

/-! ## Lost wakeups -/

/-- Somebody will still call `notify_waiters`. -/
def NotifyToCome : Prop := s.promoting ≠ 0 ∨ s.closing ≠ none

/-- Whoever is parked waits for a phase that has not come, or will be notified. -/
def Awake (s : Waiting) : Prop :=
  ∀ w, s.waiters w = some .parked → s.phase = .passiveReady ∨ s.NotifyToCome

/-- Nobody subscribes when the phase has been left and the notification is over. -/
def InTime (s : Waiting) : WaitEvent → Prop
  | .subscribe w => s.waiters w = some .subscribing → s.phase = .passiveReady ∨ s.NotifyToCome
  | _ => True

variable {s} {w : Nat}

@[simp] theorem setWaiter_self (p : Option WaiterPhase) : (s.setWaiter w p).waiters w = p := by
  simp [setWaiter]

theorem setWaiter_of_ne {v : Nat} (hvw : v ≠ w) (p : Option WaiterPhase) :
    (s.setWaiter w p).waiters v = s.waiters v := by
  simp [setWaiter, hvw]

theorem awake_start (phase : LocalTunnelPhase) : (start phase).Awake := fun _ h => by cases h

/-- A caller that is not parked by it. -/
theorem Awake.setWaiter {p : Option WaiterPhase} (h : s.Awake)
    (hp : p = some .parked → s.phase = .passiveReady ∨ s.NotifyToCome) : (s.setWaiter w p).Awake := by
  intro v hv
  by_cases hvw : v = w
  · subst hvw
    rw [setWaiter_self] at hv
    exact hp hv
  · rw [setWaiter_of_ne hvw] at hv
    exact h v hv

/-- After `notify_waiters` nobody is parked. -/
theorem awake_notifyWaiters (s : Waiting) : s.notifyWaiters.Awake := by
  intro v hv
  obtain ⟨p, -, hp⟩ := Option.map_eq_some_iff.mp hv
  by_cases hparked : p = .parked
  · rw [if_pos hparked] at hp
    cases hp
  · rw [if_neg hparked] at hp
    exact absurd hp hparked

theorem afterRead_ne_parked (phase : LocalTunnelPhase) : afterRead phase ≠ .parked := by
  cases phase <;> simp [afterRead]

theorem Awake.step {ev : WaitEvent} (h : s.Awake) (hin : s.InTime ev) : (s.step ev).Awake := by
  cases ev with
  | call w =>
    rw [Waiting.step]
    split
    · exact h.setWaiter (by simp)
    · exact h
  | read w =>
    rw [Waiting.step]
    split
    · exact h.setWaiter fun hp => absurd (Option.some.inj hp) (afterRead_ne_parked s.phase)
    · exact h
  | subscribe w =>
    rw [Waiting.step]
    split
    · next hw => exact h.setWaiter fun _ => hin hw
    · exact h
  | cancel w => exact h.setWaiter (by simp)
  | promote =>
    rw [Waiting.step]
    split_ifs
    · exact fun _ _ => .inr (.inl (Nat.succ_ne_zero _))
    · exact h
  | notifyPromoted =>
    rw [Waiting.step]
    split_ifs
    · exact h
    · exact awake_notifyWaiters _
  | close error =>
    rw [Waiting.step]
    split_ifs
    · exact h
    · exact fun _ _ => .inr (.inr (Option.some_ne_none _))
    · exact fun _ _ => .inr (.inr (Option.some_ne_none _))
  | writeClosed =>
    rw [Waiting.step]
    split
    · exact fun _ _ => .inr (.inr (Option.some_ne_none _))
    · exact h
  | notifyClosed =>
    rw [Waiting.step]
    split
    · exact awake_notifyWaiters _
    · exact h

/-- Who subscribes too late is parked for good. -/
theorem not_awake_of_late {ev : WaitEvent} (hlate : ¬ s.InTime ev) : ¬ (s.step ev).Awake := by
  cases ev with
  | subscribe w =>
    simp only [InTime, Classical.not_imp] at hlate
    obtain ⟨hw, hlate⟩ := hlate
    intro hawake
    simp only [Waiting.step, hw] at hawake
    exact hlate (hawake w (setWaiter_self _))
  | _ => exact absurd trivial hlate

/-- **Lost wakeups.**  In every state of a run whoever is parked waits for a phase that has not come
or will be notified, exactly if no caller subscribes after the last notification. -/
theorem awake_iff_in_time (phase : LocalTunnelPhase) (evs : List WaitEvent) :
    Along step InTime (start phase) evs ↔ ∀ pre, pre <+: evs → (exec step (start phase) pre).Awake :=
  along_iff (fun _ _ h hin => h.step hin) (fun _ h => h) (fun _ _ _ hlate => not_awake_of_late hlate)
    (awake_start phase) evs

/-- The tunnel is promoted between the caller's look at the phase and its subscription. -/
def promotedBetween : List WaitEvent := [.call 0, .read 0, .promote, .notifyPromoted, .subscribe 0]

theorem promotedBetween_parked :
    let s := exec step (start .passiveReady) promotedBetween
    s.waiters 0 = some .parked ∧ s.phase = .connected ∧ s.promoting = 0 ∧ s.closing = none ∧
      ¬ s.Awake := by
  refine ⟨rfl, rfl, rfl, rfl, fun hawake => ?_⟩
  rcases hawake 0 rfl with hphase | hpromoting | hclosing
  · cases hphase
  · exact hpromoting rfl
  · exact hclosing rfl

end Waiting

end BuckyP2p.Tcp.Connected
