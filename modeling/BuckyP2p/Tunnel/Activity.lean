import BuckyP2p.Base
import BuckyP2p.Lib.Lists
import BuckyP2p.Lib.Runs

/-!
# BuckyP2p.Tunnel.Activity — `TunnelActivity` (`networks/tunnel.rs`)

One tunnel counts its open attempts and its work leases, so that it is retired only when it is idle.
The counters are changed by three kinds of guards: a `PendingTunnelActivity` until it is promoted or
dropped, and a `TunnelWorkActivity` for each half that is handed out, until it is dropped.

Every operation is done under the lock, at the time of `clock`; `Instant::now()` does not go back.
Times are in nanoseconds, the counters are numbers of objects in memory and do not overflow.  What
is handed out is a type variable; it is wrapped together with its leases.
-/

namespace BuckyP2p.Tunnel

open Lib

inductive TunnelActivityLifecycle
  | live | retired
  deriving DecidableEq, Repr

structure TunnelActivity where
  lifecycle : TunnelActivityLifecycle
  pendingOpenCount : Nat
  workInstanceNum : Nat
  latestActiveAt : Nat
  latestBusinessActivityAt : Option Nat
  deriving DecidableEq, Repr

structure PendingTunnelActivity where
  active : Bool
  deriving DecidableEq, Repr

structure TunnelWorkActivity where
  active : Bool
  deriving DecidableEq, Repr

namespace TunnelActivity

variable {α : Type} (s : TunnelActivity) (now : Nat)

def new : TunnelActivity := ⟨.live, 0, 0, now, none⟩

def interruptedError : P2pError := ⟨.interrupted, "tunnel candidate retired"⟩

def noteActivity : TunnelActivity :=
  if s.lifecycle = .live then { s with latestActiveAt := now } else s

def beginPending : P2pResult PendingTunnelActivity × TunnelActivity :=
  if s.lifecycle = .retired then (.error interruptedError, s)
  else
    (.ok ⟨true⟩,
      { s with pendingOpenCount := s.pendingOpenCount + 1, latestActiveAt := now })

def acquireWorkInstances (workInstanceNum : Nat) :
    P2pResult (List TunnelWorkActivity) × TunnelActivity :=
  if s.lifecycle = .retired then (.error interruptedError, s)
  else
    (.ok (List.replicate workInstanceNum ⟨true⟩),
      { s with
        workInstanceNum := s.workInstanceNum + workInstanceNum
        latestActiveAt := now
        latestBusinessActivityAt := some now })

/-- `track_stream_result` and `track_datagram_result`, which differ in the number of halves. -/
def trackResult (workInstanceNum : Nat) (result : P2pResult α) :
    P2pResult (α × List TunnelWorkActivity) × TunnelActivity :=
  match result with
  | .ok halves =>
    let (leases, s) := s.acquireWorkInstances now workInstanceNum
    (leases.map fun leases => (halves, leases), s)
  | .error e => (.error e, s.noteActivity now)

def trackStreamResult (result : P2pResult α) :
    P2pResult (α × List TunnelWorkActivity) × TunnelActivity := s.trackResult now 2 result

def trackDatagramResult (result : P2pResult α) :
    P2pResult (α × List TunnelWorkActivity) × TunnelActivity := s.trackResult now 1 result

/-- `now.checked_duration_since(latest_active_at)` is `None` if that is later than `now`. -/
def tryRetireIdle (idleTimeout : Nat) : Bool × TunnelActivity :=
  let elapsed : Option Nat :=
    if s.latestActiveAt ≤ now then some (now - s.latestActiveAt) else none
  if s.lifecycle ≠ .live ∨ s.pendingOpenCount ≠ 0 ∨ s.workInstanceNum ≠ 0 ∨
      (elapsed.map fun elapsed => decide (elapsed ≤ idleTimeout)).getD true = true then
    (false, s)
  else (true, { s with lifecycle := .retired })

def retire : TunnelActivity := { s with lifecycle := .retired }

/-! Only retirement changes the lifecycle. -/

theorem noteActivity_lifecycle (s : TunnelActivity) (now : Nat) :
    (s.noteActivity now).lifecycle = s.lifecycle := by
  unfold noteActivity
  split_ifs
  · rfl
  · rfl

theorem beginPending_lifecycle (s : TunnelActivity) (now : Nat) :
    (s.beginPending now).2.lifecycle = s.lifecycle := by
  unfold beginPending
  split_ifs
  · rfl
  · rfl

theorem trackResult_lifecycle (s : TunnelActivity) (now n : Nat) (result : P2pResult α) :
    (s.trackResult now n result).2.lifecycle = s.lifecycle := by
  cases result with
  | error e => exact noteActivity_lifecycle s now
  | ok halves =>
    show (s.acquireWorkInstances now n).2.lifecycle = s.lifecycle
    unfold acquireWorkInstances
    split_ifs
    · rfl
    · rfl

/-- The tunnel has no guards, and was not active for longer than the timeout. -/
def Idle (s : TunnelActivity) (now idleTimeout : Nat) : Prop :=
  s.lifecycle = .live ∧ s.pendingOpenCount = 0 ∧ s.workInstanceNum = 0 ∧
    s.latestActiveAt + idleTimeout < now

/-- Only an idle tunnel is retired, and any other is left as it is. -/
theorem tryRetireIdle_cases (s : TunnelActivity) (now idleTimeout : Nat) :
    (s.Idle now idleTimeout ∧ s.tryRetireIdle now idleTimeout = (true, s.retire)) ∨
      s.tryRetireIdle now idleTimeout = (false, s) := by
  unfold tryRetireIdle
  dsimp only
  split_ifs with hle hbusy hbusy
  · exact .inr rfl
  · refine .inl ⟨?_, rfl⟩
    simp only [not_or, not_not, Option.map_some, Option.getD_some, decide_eq_true_eq] at hbusy
    obtain ⟨hlive, hpending, hwork, hlate⟩ := hbusy
    refine ⟨hlive, hpending, hwork, ?_⟩
    omega
  · exact .inr rfl
  · exact absurd (.inr (.inr (.inr rfl))) hbusy

end TunnelActivity

/-- `Drop for PendingTunnelActivity`. -/
def PendingTunnelActivity.drop (guard : PendingTunnelActivity) (s : TunnelActivity) (now : Nat) :
    TunnelActivity :=
  if !guard.active then s
  else
    { s with
      pendingOpenCount :=
        if 0 < s.pendingOpenCount then s.pendingOpenCount - 1 else s.pendingOpenCount
      latestActiveAt := now }

theorem PendingTunnelActivity.drop_lifecycle (guard : PendingTunnelActivity) (s : TunnelActivity)
    (now : Nat) : (guard.drop s now).lifecycle = s.lifecycle := by
  unfold drop
  cases guard.active with
  | true => rfl
  | false => rfl

/-- The guard is dropped at the end, when it is not active any more. -/
def PendingTunnelActivity.promote (guard : PendingTunnelActivity) (s : TunnelActivity) (now : Nat)
    (workInstanceNum : Nat) : P2pResult (List TunnelWorkActivity) × TunnelActivity :=
  let s := { s with
    pendingOpenCount :=
      if 0 < s.pendingOpenCount then s.pendingOpenCount - 1 else s.pendingOpenCount }
  let guard := { guard with active := false }
  if s.lifecycle = .retired then (.error TunnelActivity.interruptedError, guard.drop s now)
  else
    (.ok (List.replicate workInstanceNum ⟨true⟩),
      guard.drop { s with
        workInstanceNum := s.workInstanceNum + workInstanceNum
        latestActiveAt := now
        latestBusinessActivityAt := some now } now)

theorem PendingTunnelActivity.promote_lifecycle (guard : PendingTunnelActivity) (s : TunnelActivity)
    (now n : Nat) : (guard.promote s now n).2.lifecycle = s.lifecycle := by
  unfold promote
  dsimp only
  by_cases h : s.lifecycle = .retired
  · rw [if_pos h]
    exact drop_lifecycle _ _ _
  · rw [if_neg h]
    exact drop_lifecycle _ _ _

/-- `Drop for TunnelWorkActivity`. -/
def TunnelWorkActivity.drop (lease : TunnelWorkActivity) (s : TunnelActivity) (now : Nat) :
    TunnelActivity :=
  if !lease.active then s
  else
    { s with
      workInstanceNum := if 0 < s.workInstanceNum then s.workInstanceNum - 1 else s.workInstanceNum
      latestActiveAt := now }

theorem TunnelWorkActivity.drop_lifecycle (lease : TunnelWorkActivity) (s : TunnelActivity)
    (now : Nat) : (lease.drop s now).lifecycle = s.lifecycle := by
  unfold drop
  cases lease.active with
  | true => rfl
  | false => rfl

/-! ## Runs -/

/-- The guards that are alive, and when the tunnel was active. -/
structure ActivityDesk where
  activity : TunnelActivity
  clock : Nat
  guards : List PendingTunnelActivity
  leases : List TunnelWorkActivity
  activeAt : List Nat

inductive ActivityEvent
  /-- Time goes on. -/
  | elapse (nanos : Nat)
  | beginPending
  /-- Of the `i`th guard; a stream takes two leases, a datagram one. -/
  | promote (i workInstanceNum : Nat)
  | dropPending (i : Nat)
  | dropWork (i : Nat)
  | trackStreamResult (result : P2pResult Unit)
  | trackDatagramResult (result : P2pResult Unit)
  | noteActivity
  | tryRetireIdle (now idleTimeout : Nat)
  | retire

namespace ActivityDesk

def new (now : Nat) : ActivityDesk := ⟨.new now, now, [], [], [now]⟩

/-- After an operation on the tunnel, with the guards that it returns. -/
def after (s : ActivityDesk) (activity : TunnelActivity) (guards : List PendingTunnelActivity)
    (leases : List TunnelWorkActivity) : ActivityDesk :=
  { s with activity, guards, leases, activeAt := s.clock :: s.activeAt }

/-- What a result hands out. -/
def handedOut {α : Type} (result : P2pResult (List α)) : List α :=
  match result with
  | .ok xs => xs
  | .error _ => []

def step (s : ActivityDesk) : ActivityEvent → ActivityDesk
  | .elapse nanos => { s with clock := s.clock + nanos }
  | .beginPending =>
    let (guard, activity) := s.activity.beginPending s.clock
    s.after activity (s.guards ++ handedOut (guard.map fun guard => [guard])) s.leases
  | .promote i workInstanceNum =>
    match s.guards[i]? with
    | none => s
    | some guard =>
      let (leases, activity) := guard.promote s.activity s.clock workInstanceNum
      s.after activity (s.guards.eraseIdx i) (s.leases ++ handedOut leases)
  | .dropPending i =>
    match s.guards[i]? with
    | none => s
    | some guard => s.after (guard.drop s.activity s.clock) (s.guards.eraseIdx i) s.leases
  | .dropWork i =>
    match s.leases[i]? with
    | none => s
    | some lease => s.after (lease.drop s.activity s.clock) s.guards (s.leases.eraseIdx i)
  | .trackStreamResult result =>
    let (leases, activity) := s.activity.trackStreamResult s.clock result
    s.after activity s.guards (s.leases ++ handedOut (leases.map Prod.snd))
  | .trackDatagramResult result =>
    let (leases, activity) := s.activity.trackDatagramResult s.clock result
    s.after activity s.guards (s.leases ++ handedOut (leases.map Prod.snd))
  | .noteActivity => s.after (s.activity.noteActivity s.clock) s.guards s.leases
  | .tryRetireIdle now idleTimeout =>
    { s with activity := (s.activity.tryRetireIdle now idleTimeout).2 }
  | .retire => { s with activity := s.activity.retire }

/-- The operation finds a counter that it may decrement; `debug_assert` checks it. -/
def NoUnderflow (s : ActivityDesk) : ActivityEvent → Prop
  | .promote i _ | .dropPending i => i < s.guards.length → 0 < s.activity.pendingOpenCount
  | .dropWork i => i < s.leases.length → 0 < s.activity.workInstanceNum
  | _ => True

/-- The tunnel is retired, and hands out nothing. -/
structure Refuses (s : ActivityDesk) : Prop where
  retired : s.activity.lifecycle = .retired
  beginPending : ∀ now, (s.activity.beginPending now).1 = .error TunnelActivity.interruptedError
  promote : ∀ (guard : PendingTunnelActivity) now n,
    (guard.promote s.activity now n).1 = .error TunnelActivity.interruptedError
  track : ∀ now n (result : P2pResult Unit), ∃ e, (s.activity.trackResult now n result).1 = .error e

structure Accounted (s : ActivityDesk) : Prop where
  pending : s.activity.pendingOpenCount = s.guards.length
  work : s.activity.workInstanceNum = s.leases.length
  /-- Once retired, for ever retired; there are only guards that there were before. -/
  retired : s.activity.lifecycle = .retired → ∀ later, (exec step s later).Refuses ∧
    (exec step s later).guards.Sublist s.guards ∧ (exec step s later).leases.Sublist s.leases
  idle : ∀ now idleTimeout, (s.activity.tryRetireIdle now idleTimeout).1 = true →
    s.activity.pendingOpenCount = 0 ∧ s.activity.workInstanceNum = 0 ∧
      ∀ t ∈ s.activeAt, t + idleTimeout < now

/-! ## The invariant -/

structure Sound (s : ActivityDesk) : Prop where
  guards : ∀ guard ∈ s.guards, guard.active = true
  leases : ∀ lease ∈ s.leases, lease.active = true
  pending : s.activity.pendingOpenCount = s.guards.length
  work : s.activity.workInstanceNum = s.leases.length
  clock : ∀ t ∈ s.activeAt, t ≤ s.clock
  latest : s.activity.lifecycle = .live → ∀ t ∈ s.activeAt, t ≤ s.activity.latestActiveAt

variable {s : ActivityDesk} {activity : TunnelActivity} {guards : List PendingTunnelActivity}
  {leases : List TunnelWorkActivity}

/-- An operation that leaves the guards and the counters in agreement, and is an activity. -/
theorem Sound.after (h : s.Sound) (hguards : ∀ guard ∈ guards, guard.active = true)
    (hleases : ∀ lease ∈ leases, lease.active = true)
    (hpending : activity.pendingOpenCount = guards.length)
    (hwork : activity.workInstanceNum = leases.length)
    (hlatest : activity.lifecycle = .live → activity.latestActiveAt = s.clock) :
    (s.after activity guards leases).Sound where
  guards := hguards
  leases := hleases
  pending := hpending
  work := hwork
  clock t ht := by
    rcases List.mem_cons.mp ht with rfl | ht
    · exact le_rfl
    · exact h.clock t ht
  latest hlive t ht := by
    show t ≤ activity.latestActiveAt
    rw [hlatest hlive]
    rcases List.mem_cons.mp ht with rfl | ht
    · exact le_rfl
    · exact h.clock t ht

/-- A tunnel that is retired need not know when it was last active. -/
theorem Sound.after_refused (h : s.Sound) (hretired : activity.lifecycle = .retired)
    (hguards : ∀ guard ∈ guards, guard.active = true)
    (hpending : activity.pendingOpenCount = guards.length)
    (hwork : activity.workInstanceNum = s.leases.length) :
    (s.after activity guards s.leases).Sound := by
  refine h.after hguards h.leases hpending hwork fun hlive => ?_
  rw [hretired] at hlive
  cases hlive

theorem Sound.pending_pos (h : s.Sound) {i : Nat} (hi : i < s.guards.length) :
    0 < s.activity.pendingOpenCount := by
  rw [h.pending]
  exact Nat.zero_lt_of_lt hi

theorem Sound.work_pos (h : s.Sound) {i : Nat} (hi : i < s.leases.length) :
    0 < s.activity.workInstanceNum := by
  rw [h.work]
  exact Nat.zero_lt_of_lt hi

theorem active_replicate (n : Nat) :
    ∀ lease ∈ List.replicate n (⟨true⟩ : TunnelWorkActivity), lease.active = true := by
  intro lease hlease
  rw [List.eq_of_mem_replicate hlease]

theorem Sound.step_beginPending (h : s.Sound) : (s.step .beginPending).Sound := by
  by_cases hretired : s.activity.lifecycle = .retired
  · have heq : s.activity.beginPending s.clock =
        (.error TunnelActivity.interruptedError, s.activity) := if_pos hretired
    simp only [step, heq, Except.map, handedOut, List.append_nil]
    exact h.after_refused hretired h.guards h.pending h.work
  · have heq : s.activity.beginPending s.clock = (.ok ⟨true⟩, _) := if_neg hretired
    simp only [step, heq]
    refine h.after (List.forall_mem_append.mpr ⟨h.guards, ?_⟩) h.leases ?_ h.work fun _ => rfl
    · simp [handedOut, Except.map]
    · simp [handedOut, Except.map, h.pending]

theorem Sound.step_promote (h : s.Sound) (i n : Nat) : (s.step (.promote i n)).Sound := by
  simp only [step]
  cases hi : s.guards[i]? with
  | none => exact h
  | some guard =>
    have hlt := (List.getElem?_eq_some_iff.mp hi).1
    have hpos := h.pending_pos hlt
    have hguards : ∀ g ∈ s.guards.eraseIdx i, g.active = true := fun g hg =>
      h.guards g (List.mem_of_mem_eraseIdx hg)
    have hpending : s.activity.pendingOpenCount - 1 = (s.guards.eraseIdx i).length := by
      rw [List.length_eraseIdx_of_lt hlt, h.pending]
    by_cases hretired : s.activity.lifecycle = .retired
    · have heq : guard.promote s.activity s.clock n = (.error TunnelActivity.interruptedError,
          { s.activity with pendingOpenCount := s.activity.pendingOpenCount - 1 }) := by
        simp [PendingTunnelActivity.promote, PendingTunnelActivity.drop, hretired, hpos]
      simp only [heq, handedOut, List.append_nil]
      exact h.after_refused hretired hguards hpending h.work
    · have heq : guard.promote s.activity s.clock n = (.ok (List.replicate n ⟨true⟩),
          { s.activity with
            pendingOpenCount := s.activity.pendingOpenCount - 1
            workInstanceNum := s.activity.workInstanceNum + n
            latestActiveAt := s.clock
            latestBusinessActivityAt := some s.clock }) := by
        simp [PendingTunnelActivity.promote, PendingTunnelActivity.drop, hretired, hpos]
      simp only [heq]
      refine h.after hguards (List.forall_mem_append.mpr ⟨h.leases, active_replicate n⟩) hpending
        ?_ fun _ => rfl
      simp [handedOut, h.work]

theorem Sound.step_dropPending (h : s.Sound) (i : Nat) : (s.step (.dropPending i)).Sound := by
  simp only [step]
  cases hi : s.guards[i]? with
  | none => exact h
  | some guard =>
    have hlt := (List.getElem?_eq_some_iff.mp hi).1
    have hactive := h.guards guard (List.mem_of_getElem? hi)
    have heq : guard.drop s.activity s.clock =
        { s.activity with
          pendingOpenCount := s.activity.pendingOpenCount - 1
          latestActiveAt := s.clock } := by
      simp [PendingTunnelActivity.drop, hactive, h.pending_pos hlt]
    simp only [heq]
    refine h.after (fun g hg => h.guards g (List.mem_of_mem_eraseIdx hg)) h.leases ?_ h.work
      fun _ => rfl
    rw [List.length_eraseIdx_of_lt hlt, ← h.pending]

theorem Sound.step_dropWork (h : s.Sound) (i : Nat) : (s.step (.dropWork i)).Sound := by
  simp only [step]
  cases hi : s.leases[i]? with
  | none => exact h
  | some lease =>
    have hlt := (List.getElem?_eq_some_iff.mp hi).1
    have hactive := h.leases lease (List.mem_of_getElem? hi)
    have heq : lease.drop s.activity s.clock =
        { s.activity with
          workInstanceNum := s.activity.workInstanceNum - 1
          latestActiveAt := s.clock } := by
      simp [TunnelWorkActivity.drop, hactive, h.work_pos hlt]
    simp only [heq]
    refine h.after h.guards (fun l hl => h.leases l (List.mem_of_mem_eraseIdx hl)) h.pending ?_
      fun _ => rfl
    rw [List.length_eraseIdx_of_lt hlt, ← h.work]

theorem Sound.noteActivity (h : s.Sound) :
    (s.after (s.activity.noteActivity s.clock) s.guards s.leases).Sound := by
  by_cases hlive : s.activity.lifecycle = .live
  · have heq : s.activity.noteActivity s.clock = _ := if_pos hlive
    rw [heq]
    exact h.after h.guards h.leases h.pending h.work fun _ => rfl
  · have heq : s.activity.noteActivity s.clock = s.activity := if_neg hlive
    rw [heq]
    exact h.after h.guards h.leases h.pending h.work fun h => absurd h hlive

theorem Sound.track (h : s.Sound) (n : Nat) (result : P2pResult Unit) :
    (s.after (s.activity.trackResult s.clock n result).2 s.guards (s.leases ++
      handedOut ((s.activity.trackResult s.clock n result).1.map Prod.snd))).Sound := by
  cases result with
  | error e =>
    have hnote := h.noteActivity
    simpa [TunnelActivity.trackResult, handedOut, Except.map] using hnote
  | ok halves =>
    unfold TunnelActivity.trackResult
    dsimp only
    by_cases hretired : s.activity.lifecycle = .retired
    · have heq : s.activity.acquireWorkInstances s.clock n =
          (.error TunnelActivity.interruptedError, s.activity) := if_pos hretired
      simp only [heq, Except.map, handedOut, List.append_nil]
      exact h.after_refused hretired h.guards h.pending h.work
    · have heq : s.activity.acquireWorkInstances s.clock n = (.ok (List.replicate n ⟨true⟩), _) :=
        if_neg hretired
      rw [heq]
      refine h.after h.guards (List.forall_mem_append.mpr ⟨h.leases, active_replicate n⟩) h.pending
        ?_ fun _ => rfl
      simp [handedOut, Except.map, h.work]

theorem Sound.retire (h : s.Sound) : Sound { s with activity := s.activity.retire } where
  guards := h.guards
  leases := h.leases
  pending := h.pending
  work := h.work
  clock := h.clock
  latest hlive := by cases hlive

theorem Sound.step (h : s.Sound) (e : ActivityEvent) : (s.step e).Sound := by
  cases e with
  | elapse nanos =>
    exact { h with clock := fun t ht => (h.clock t ht).trans (Nat.le_add_right _ _) }
  | beginPending => exact h.step_beginPending
  | promote i n => exact h.step_promote i n
  | dropPending i => exact h.step_dropPending i
  | dropWork i => exact h.step_dropWork i
  | trackStreamResult result => exact h.track 2 result
  | trackDatagramResult result => exact h.track 1 result
  | noteActivity => exact h.noteActivity
  | tryRetireIdle now idleTimeout =>
    simp only [ActivityDesk.step]
    rcases s.activity.tryRetireIdle_cases now idleTimeout with ⟨-, heq⟩ | heq
    · rw [heq]
      exact h.retire
    · rw [heq]
      exact h
  | retire => exact h.retire

theorem Sound.noUnderflow (h : s.Sound) (e : ActivityEvent) : s.NoUnderflow e := by
  cases e with
  | promote i n => exact fun hi => h.pending_pos hi
  | dropPending i => exact fun hi => h.pending_pos hi
  | dropWork i => exact fun hi => h.work_pos hi
  | _ => trivial

theorem sound_new (now : Nat) : (new now).Sound where
  guards _ hguard := by cases hguard
  leases _ hlease := by cases hlease
  pending := rfl
  work := rfl
  clock t ht := (List.mem_singleton.mp ht).le
  latest _ t ht := (List.mem_singleton.mp ht).le

/-! ## Retirement -/

theorem refuses_of_retired (h : s.activity.lifecycle = .retired) : s.Refuses where
  retired := h
  beginPending now := by rw [TunnelActivity.beginPending, if_pos h]
  promote guard now n := by
    unfold PendingTunnelActivity.promote
    dsimp only
    rw [if_pos h]
  track now n result := by
    cases result with
    | error e => exact ⟨e, rfl⟩
    | ok halves =>
      refine ⟨TunnelActivity.interruptedError, ?_⟩
      simp [TunnelActivity.trackResult, TunnelActivity.acquireWorkInstances, h, Except.map]

/-- No step of a retired tunnel makes it live, or adds a guard. -/
theorem step_retired (h : s.activity.lifecycle = .retired) (e : ActivityEvent) :
    (s.step e).activity.lifecycle = .retired ∧ (s.step e).guards.Sublist s.guards ∧
      (s.step e).leases.Sublist s.leases := by
  have hrefuses := refuses_of_retired h
  have htrack (n : Nat) (result : P2pResult Unit) : (s.leases ++
      handedOut ((s.activity.trackResult s.clock n result).1.map Prod.snd)).Sublist s.leases := by
    obtain ⟨e, herror⟩ := hrefuses.track s.clock n result
    simp [herror, handedOut, Except.map]
  have hstays : s.activity.lifecycle = .retired ∧ s.guards.Sublist s.guards ∧
      s.leases.Sublist s.leases := ⟨h, List.Sublist.refl _, List.Sublist.refl _⟩
  cases e with
  | elapse nanos => exact hstays
  | beginPending =>
    refine ⟨(TunnelActivity.beginPending_lifecycle _ _).trans h, ?_, List.Sublist.refl _⟩
    simp [step, after, hrefuses.beginPending, handedOut, Except.map]
  | promote i n =>
    simp only [step]
    cases hi : s.guards[i]? with
    | none => exact hstays
    | some guard =>
      refine ⟨(PendingTunnelActivity.promote_lifecycle _ _ _ _).trans h,
        List.eraseIdx_sublist _ _, ?_⟩
      simp [after, hrefuses.promote, handedOut]
  | dropPending i =>
    simp only [step]
    cases hi : s.guards[i]? with
    | none => exact hstays
    | some guard =>
      exact ⟨(PendingTunnelActivity.drop_lifecycle _ _ _).trans h, List.eraseIdx_sublist _ _,
        List.Sublist.refl _⟩
  | dropWork i =>
    simp only [step]
    cases hi : s.leases[i]? with
    | none => exact hstays
    | some lease =>
      exact ⟨(TunnelWorkActivity.drop_lifecycle _ _ _).trans h, List.Sublist.refl _,
        List.eraseIdx_sublist _ _⟩
  | trackStreamResult result =>
    exact ⟨(TunnelActivity.trackResult_lifecycle _ _ _ _).trans h, List.Sublist.refl _,
      htrack 2 result⟩
  | trackDatagramResult result =>
    exact ⟨(TunnelActivity.trackResult_lifecycle _ _ _ _).trans h, List.Sublist.refl _,
      htrack 1 result⟩
  | noteActivity =>
    exact ⟨(TunnelActivity.noteActivity_lifecycle _ _).trans h, List.Sublist.refl _,
      List.Sublist.refl _⟩
  | tryRetireIdle now idleTimeout =>
    refine ⟨?_, List.Sublist.refl _, List.Sublist.refl _⟩
    rcases s.activity.tryRetireIdle_cases now idleTimeout with ⟨-, heq⟩ | heq
    · simp only [step, heq]
      rfl
    · simp only [step, heq]
      exact h
  | retire => exact ⟨rfl, List.Sublist.refl _, List.Sublist.refl _⟩

theorem exec_retired (h : s.activity.lifecycle = .retired) (later : List ActivityEvent) :
    (exec step s later).Refuses ∧ (exec step s later).guards.Sublist s.guards ∧
      (exec step s later).leases.Sublist s.leases := by
  induction later generalizing s with
  | nil => exact ⟨refuses_of_retired h, List.Sublist.refl _, List.Sublist.refl _⟩
  | cons e later ih =>
    obtain ⟨hretired, hguards, hleases⟩ := step_retired h e
    obtain ⟨hrefuses, hguards', hleases'⟩ := ih hretired
    exact ⟨hrefuses, hguards'.trans hguards, hleases'.trans hleases⟩

theorem Sound.accounted (h : s.Sound) : s.Accounted where
  pending := h.pending
  work := h.work
  retired := exec_retired
  idle now idleTimeout hidle := by
    rcases s.activity.tryRetireIdle_cases now idleTimeout with
      ⟨⟨hlive, hpending, hwork, hlate⟩, -⟩ | heq
    · refine ⟨hpending, hwork, fun t ht => ?_⟩
      exact (Nat.add_le_add_right (h.latest hlive t ht) idleTimeout).trans_lt hlate
    · rw [heq] at hidle
      cases hidle

/-- For every interleaving of the operations, wherever it is cut. -/
theorem activity_accounted (now : Nat) (events : List ActivityEvent) :
    (exec step (new now) events).Accounted ∧ Along step NoUnderflow (new now) events := by
  refine ⟨(exec_inv_all (fun _ e h => h.step e) (sound_new now) events).accounted, ?_⟩
  exact along_of_inv (fun _ e h _ => h.step e) (fun _ e h _ => h.noUnderflow e) (sound_new now)
    (along_true _ events)

end ActivityDesk

end BuckyP2p.Tunnel
