import BuckyP2p.Lib.Durations
import BuckyP2p.Pn.Lifecycle

/-!
# BuckyP2p.Pn.IdleCheck — deadlines of idle tunnels (`pn/client/pn_tunnel.rs`)

When the last channel of a tunnel has ended, `schedule_idle_check` computes a deadline from
`zero_since` and the idle timeout, and sleeps until then; `close_if_idle` computes it again, under
the lock of the lifecycle.

An instant is a number up to `maxInstant`.  `checked_add` returns `None` where the sum is none, and
`+` panics there, which poisons the lock: whoever takes it panics too.  A step is one region under
the lock, or the part of `schedule_idle_check` behind it.

`epoch` is the generation as it would be if it did not wrap around; no step reads it.
-/

namespace BuckyP2p.Pn.IdleCheck

open Lib
open Lifecycle (ControlEnd PnTunnelCloseReason PnTunnelLifecycleState Start)

/-! ## What is done under the lock -/

inductive Region
  | beginPendingChannel
  | pendingToActiveChannel
  | releasePendingChannel
  | queuedToPendingChannel
  | releaseActiveChannel
  | pushPassiveChannel
  | markControlReady
  /-- `close`. -/
  | close
  /-- The control loops call `close_with_reason`. -/
  | controlEnds (e : ControlEnd)
  | finishClose
  | tryRetireIdle (now idleTimeout : Nat)
  deriving DecidableEq

/-- What `close_lifecycle_locked` does to the state. -/
def closeLifecycleLocked (st : PnTunnelLifecycleState) (reason : PnTunnelCloseReason) :
    PnTunnelLifecycleState :=
  if st.status = .closing ∨ st.status = .closed then st
  else
    { st with
      status := .closing
      closeReason := some reason
      queuedChannels := 0
      zeroSince := none
      generation := st.generation + 1 }

/-- With what `schedule_from_refresh` gets. -/
def Region.run (now : Nat) (st : PnTunnelLifecycleState) :
    Region → PnTunnelLifecycleState × Option (Nat × U64)
  | .beginPendingChannel =>
    if st.isOpen then
      (({ st with pendingChannels := st.pendingChannels + 1 }.refreshIdleState now).1, none)
    else (st, none)
  | .pendingToActiveChannel =>
    let st := { st with pendingChannels := st.pendingChannels - 1 }
    if st.isOpen then { st with activeChannels := st.activeChannels + 1 }.refreshIdleState now
    else st.refreshIdleState now
  | .releasePendingChannel =>
    { st with pendingChannels := st.pendingChannels - 1 }.refreshIdleState now
  | .queuedToPendingChannel =>
    if st.isOpen then
      { st with
        queuedChannels := st.queuedChannels - 1
        pendingChannels := st.pendingChannels + 1 }.refreshIdleState now
    else (st, none)
  | .releaseActiveChannel =>
    { st with activeChannels := st.activeChannels - 1 }.refreshIdleState now
  | .pushPassiveChannel =>
    if st.isOpen then
      (({ st with queuedChannels := st.queuedChannels + 1 }.refreshIdleState now).1, none)
    else (st, none)
  | .markControlReady => st.markControlReady now
  | .close => (closeLifecycleLocked st .manual, none)
  | .controlEnds e => (closeLifecycleLocked st e.reason, none)
  | .finishClose => (if st.status = .closing then { st with status := .closed } else st, none)
  | .tryRetireIdle now idleTimeout =>
    let idle := st.status = .opened ∧ st.closeReason = none ∧ st.totalChannels = 0 ∧
      ∃ zeroSince ∈ st.zeroSince, zeroSince ≤ now ∧ idleTimeout < now - zeroSince
    (if idle then
      { st with status := .retired, zeroSince := none, generation := st.generation + 1 }
    else st, none)

/-! ## The checks -/

/-- A call of `schedule_idle_check`, before it reads the clock. -/
structure Schedule where
  zeroSince : Nat
  generation : U64
  epoch : Nat
  deriving DecidableEq

/-- A task that sleeps until `wake`. -/
structure SleepingCheck where
  generation : U64
  wake : Nat
  epoch : Nat
  deriving DecidableEq

structure PnTunnel where
  now : Nat
  lifecycle : PnTunnelLifecycleState
  poisoned : Bool
  scheduling : List Schedule
  checks : List SleepingCheck
  epoch : Nat
  deriving DecidableEq

inductive Event
  | pass (d : Nat)
  | region (r : Region)
  /-- The rest of `schedule_idle_check`. -/
  | schedule (k : Nat)
  /-- A sleep is over, and `close_if_idle` runs. -/
  | check (i : Nat)
  deriving DecidableEq

section
variable (maxInstant : Nat) (idleTimeout : Option Duration)

/-- `Instant::checked_add`. -/
def checkedAdd (instant : Nat) (timeout : Duration) : Option Nat :=
  if instant + timeout.nanos ≤ maxInstant then some (instant + timeout.nanos) else none

/-- `Instant::checked_duration_since`. -/
def checkedDurationSince (deadline now : Nat) : Option Nat :=
  if now ≤ deadline then some (deadline - now) else none

def delay (now zeroSince : Nat) (timeout : Duration) : Nat :=
  ((checkedAdd maxInstant zeroSince timeout).bind
    fun deadline => checkedDurationSince deadline now).getD 0

namespace PnTunnel

def scheduleIdleCheckIfNeeded (m : PnTunnel) : PnTunnel :=
  match m.lifecycle.zeroSince, idleTimeout with
  | some zeroSince, some _ =>
    if m.lifecycle.isOpen then
      { m with scheduling := m.scheduling ++ [⟨zeroSince, m.lifecycle.generation, m.epoch⟩] }
    else m
  | _, _ => m

def new (start : Start) (now : Nat) : PnTunnel :=
  let lifecycle : PnTunnelLifecycleState :=
    match start with
    | .active | .passiveControl => .new 0 .openingControl now
    | .passive _ => .new 1 .opened now
  scheduleIdleCheckIfNeeded idleTimeout ⟨now, lifecycle, false, [], [], 0⟩

/-- The region, and `schedule_from_refresh` up to its call. -/
def region (m : PnTunnel) (r : Region) : PnTunnel :=
  let (lifecycle, refresh) := r.run m.now m.lifecycle
  let epoch := if lifecycle.generation = m.lifecycle.generation then m.epoch else m.epoch + 1
  { m with
    lifecycle := lifecycle
    scheduling :=
      match refresh, idleTimeout with
      | some (zeroSince, generation), some _ =>
        m.scheduling ++ [⟨zeroSince, generation, epoch⟩]
      | _, _ => m.scheduling
    epoch := epoch }

def scheduleIdleCheck (m : PnTunnel) (k : Nat) : PnTunnel :=
  match m.scheduling[k]?, idleTimeout with
  | some ⟨zeroSince, generation, epoch⟩, some timeout =>
    { m with
      scheduling := m.scheduling.eraseIdx k
      checks := m.checks ++
        [⟨generation, m.now + delay maxInstant m.now zeroSince timeout, epoch⟩] }
  | _, _ => m

def closeIfIdle (m : PnTunnel) (generation : U64) : PnTunnel :=
  match idleTimeout, m.lifecycle.zeroSince with
  | some timeout, some zeroSince =>
    if m.lifecycle.isOpen ∧ m.lifecycle.generation = generation ∧
        m.lifecycle.totalChannels = 0 then
      match checkedAdd maxInstant zeroSince timeout with
      -- `zero_since + timeout` panics with the lock held
      | none => { m with poisoned := true }
      | some deadline =>
        if deadline ≤ m.now then
          { m with
            lifecycle := closeLifecycleLocked m.lifecycle .idleTimeout
            epoch := m.epoch + 1 }
        else m
    else m
  | _, _ => m

def step (m : PnTunnel) : Event → PnTunnel
  | .pass d => if m.now + d ≤ maxInstant then { m with now := m.now + d } else m
  | .region r => if m.poisoned then m else m.region idleTimeout r
  | .schedule k => m.scheduleIdleCheck maxInstant idleTimeout k
  | .check i =>
    match m.checks[i]? with
    | some ⟨generation, wake, _⟩ =>
      if wake ≤ m.now then
        let m := { m with checks := m.checks.eraseIdx i }
        if m.poisoned then m else m.closeIfIdle maxInstant idleTimeout generation
      else m
    | none => m

end PnTunnel

/-! ## What is expected -/

/-- A step does not overflow an instant, does not close the tunnel as idle before its deadline, and
closes it if it is a check of the current generation and the tunnel has stayed idle. -/
structure InOrder (m : PnTunnel) (ev : Event) : Prop where
  noOverflow : (m.step maxInstant idleTimeout ev).poisoned = false
  notEarly : m.lifecycle.closeReason ≠ some .idleTimeout →
    (m.step maxInstant idleTimeout ev).lifecycle.closeReason = some .idleTimeout →
    ∃ zeroSince timeout, m.lifecycle.zeroSince = some zeroSince ∧ idleTimeout = some timeout ∧
      zeroSince + timeout.nanos ≤ m.now
  closes : ∀ i c, ev = .check i → m.checks[i]? = some c → c.wake ≤ m.now → c.epoch = m.epoch →
    m.lifecycle.isOpen = true → m.lifecycle.totalChannels = 0 →
    (m.step maxInstant idleTimeout ev).lifecycle.status = .closing ∧
      (m.step maxInstant idleTimeout ev).lifecycle.closeReason = some .idleTimeout

/-- A check of the current generation that wakes up in an idle tunnel finds a deadline that is an
instant. -/
def Representable (m : PnTunnel) (ev : Event) : Prop :=
  ∀ i c zeroSince timeout, ev = .check i → m.checks[i]? = some c → c.wake ≤ m.now →
    m.lifecycle.generation = c.generation → m.lifecycle.isOpen = true →
    m.lifecycle.totalChannels = 0 → m.lifecycle.zeroSince = some zeroSince →
    idleTimeout = some timeout → zeroSince + timeout.nanos ≤ maxInstant

end

/-! ## The regions -/

theorem succ_ne_self (generation : U64) : generation + 1 ≠ generation := by
  intro heq
  have hval := congrArg Fin.val heq
  rw [Fin.val_add] at hval
  have hlt := generation.isLt
  have hone : (1 : U64).val = 1 := rfl
  omega

/-- A new generation is begun when `zero_since` changes, and `schedule_from_refresh` gets it. -/
structure Changes (st : PnTunnelLifecycleState) (r : PnTunnelLifecycleState × Option (Nat × U64)) :
    Prop where
  same : r.1.generation = st.generation → r.1.zeroSince = st.zeroSince
  refresh : ∀ zeroSince generation, r.2 = some (zeroSince, generation) →
    r.1.zeroSince = some zeroSince ∧ r.1.generation = generation
  reason : r.1.closeReason = some .idleTimeout → st.closeReason = some .idleTimeout

section
variable {st u : PnTunnelLifecycleState}

theorem changes_of_eq {refresh : Option (Nat × U64)} (hzero : u.zeroSince = st.zeroSince)
    (hreason : u.closeReason = st.closeReason) (hrefresh : refresh = none) :
    Changes st (u, refresh) := by
  refine ⟨fun _ => hzero, fun _ _ h => ?_, fun h => hreason.symm.trans h⟩
  rw [hrefresh] at h
  cases h

/-- The region has written a new generation. -/
theorem changes_of_succ {refresh : Option (Nat × U64)} (hgeneration : u.generation = st.generation + 1)
    (hreason : u.closeReason = some .idleTimeout → st.closeReason = some .idleTimeout)
    (hrefresh : ∀ zeroSince generation, refresh = some (zeroSince, generation) →
      u.zeroSince = some zeroSince ∧ u.generation = generation) :
    Changes st (u, refresh) := by
  refine ⟨fun h => ?_, hrefresh, hreason⟩
  rw [show (u, refresh).1.generation = _ from hgeneration] at h
  exact absurd h (succ_ne_self _)

theorem changes_refreshIdleState (hgeneration : u.generation = st.generation)
    (hzero : u.zeroSince = st.zeroSince) (hreason : u.closeReason = st.closeReason) (now : Nat) :
    Changes st (u.refreshIdleState now) := by
  unfold PnTunnelLifecycleState.refreshIdleState
  split_ifs
  · exact changes_of_eq hzero hreason rfl
  · refine changes_of_succ (congrArg (· + 1) hgeneration) (fun h => hreason.symm.trans h) ?_
    rintro zeroSince generation ⟨⟩
    exact ⟨rfl, rfl⟩
  · exact changes_of_eq hzero hreason rfl
  · refine changes_of_succ (congrArg (· + 1) hgeneration) (fun h => hreason.symm.trans h) ?_
    rintro zeroSince generation ⟨⟩
  · exact changes_of_eq hzero hreason rfl

/-- A region that changes the counts. -/
theorem changes_counts (st : PnTunnelLifecycleState) (active pending queued now : Nat) :
    Changes st ({ st with
      activeChannels := active
      pendingChannels := pending
      queuedChannels := queued }.refreshIdleState now) :=
  changes_refreshIdleState (by rfl) (by rfl) (by rfl) now

/-- The caller does not get what `refresh_idle_state` returns. -/
theorem Changes.dropped {r : PnTunnelLifecycleState × Option (Nat × U64)} (h : Changes st r) :
    Changes st (r.1, none) :=
  ⟨h.same, by rintro _ _ ⟨⟩, h.reason⟩

theorem changes_closeLifecycleLocked {reason : PnTunnelCloseReason} (hreason : reason ≠ .idleTimeout) :
    Changes st (closeLifecycleLocked st reason, none) := by
  unfold closeLifecycleLocked
  split_ifs
  · exact changes_of_eq rfl rfl rfl
  · refine changes_of_succ rfl (fun h => ?_) (by rintro _ _ ⟨⟩)
    exact absurd (Option.some.inj h) hreason

theorem changes_run (now : Nat) (st : PnTunnelLifecycleState) (r : Region) :
    Changes st (r.run now st) := by
  have hsame : Changes st (st, none) := changes_of_eq rfl rfl rfl
  cases r with
  | beginPendingChannel =>
    unfold Region.run
    dsimp only
    split_ifs
    · exact (changes_counts st _ _ _ now).dropped
    · exact hsame
  | pendingToActiveChannel =>
    unfold Region.run
    dsimp only
    split_ifs
    · exact changes_counts st _ _ _ now
    · exact changes_counts st _ _ _ now
  | releasePendingChannel => exact changes_counts st _ _ _ now
  | queuedToPendingChannel =>
    unfold Region.run
    dsimp only
    split_ifs
    · exact changes_counts st _ _ _ now
    · exact hsame
  | releaseActiveChannel => exact changes_counts st _ _ _ now
  | pushPassiveChannel =>
    unfold Region.run
    dsimp only
    split_ifs
    · exact (changes_counts st _ _ _ now).dropped
    · exact hsame
  | markControlReady =>
    unfold Region.run PnTunnelLifecycleState.markControlReady
    dsimp only
    split_ifs
    · exact hsame
    · exact changes_refreshIdleState (by rfl) (by rfl) (by rfl) now
  | close => exact changes_closeLifecycleLocked (by decide)
  | controlEnds e => exact changes_closeLifecycleLocked (by cases e <;> decide)
  | finishClose =>
    unfold Region.run
    dsimp only
    split_ifs
    · exact changes_of_eq rfl rfl rfl
    · exact hsame
  | tryRetireIdle now idleTimeout =>
    unfold Region.run
    dsimp only
    split_ifs
    · exact changes_of_succ rfl id (by rintro _ _ ⟨⟩)
    · exact hsame

end

/-! ## The invariant -/

variable {maxInstant : Nat} {idleTimeout : Option Duration} {m : PnTunnel}

/-- What was made in the current generation has its number, and knows of its instant. -/
def Fits (m : PnTunnel) (epoch : Nat) (generation : U64) (P : Option Nat → Prop) : Prop :=
  epoch ≤ m.epoch ∧
    (epoch = m.epoch → generation = m.lifecycle.generation ∧ P m.lifecycle.zeroSince)

def Schedule.Fits (m : PnTunnel) (s : Schedule) : Prop :=
  IdleCheck.Fits m s.epoch s.generation (· = some s.zeroSince)

/-- It sleeps until the deadline, if that is an instant. -/
def SleepingCheck.Fits (maxInstant : Nat) (idleTimeout : Option Duration) (m : PnTunnel)
    (c : SleepingCheck) : Prop :=
  IdleCheck.Fits m c.epoch c.generation fun since =>
    ∃ zeroSince timeout, since = some zeroSince ∧ idleTimeout = some timeout ∧
      (zeroSince + timeout.nanos ≤ maxInstant → zeroSince + timeout.nanos ≤ c.wake)

structure Inv (maxInstant : Nat) (idleTimeout : Option Duration) (m : PnTunnel) : Prop where
  sane : m.poisoned = false
  scheduled : ∀ s ∈ m.scheduling, s.Fits m
  checked : ∀ c ∈ m.checks, c.Fits maxInstant idleTimeout m

theorem inv_new (start : Start) (now : Nat) :
    Inv maxInstant idleTimeout (.new idleTimeout start now) := by
  -- a tunnel is made with a channel or without its control channel, so it is not idle
  have hnew : PnTunnel.new idleTimeout start now =
      ⟨now, (PnTunnel.new idleTimeout start now).lifecycle, false, [], [], 0⟩ := by
    cases start <;> rfl
  rw [hnew]
  exact ⟨rfl, by rintro s ⟨⟩, by rintro c ⟨⟩⟩

/-- A deadline that is an instant is not after the end of the sleep. -/
theorem deadline_le_wake {now zeroSince : Nat} {timeout : Duration}
    (h : zeroSince + timeout.nanos ≤ maxInstant) :
    zeroSince + timeout.nanos ≤ now + delay maxInstant now zeroSince timeout := by
  unfold delay checkedAdd
  rw [if_pos h, Option.bind_some]
  unfold checkedDurationSince
  split_ifs with hnow
  · rw [Option.getD_some]
    omega
  · rw [Option.getD_none]
    omega

theorem Inv.schedule (hinv : Inv maxInstant idleTimeout m) (k : Nat) :
    Inv maxInstant idleTimeout (m.scheduleIdleCheck maxInstant idleTimeout k) := by
  unfold PnTunnel.scheduleIdleCheck
  split
  · next _ _ zeroSince generation epoch timeout hk =>
    have hfits := hinv.scheduled _ (List.mem_of_getElem? hk)
    refine ⟨hinv.sane, fun s hs => hinv.scheduled s (List.mem_of_mem_eraseIdx hs), fun c hc => ?_⟩
    rcases List.mem_append.mp hc with hold | hnew
    · exact hinv.checked c hold
    · rw [List.mem_singleton.mp hnew]
      refine ⟨hfits.1, fun hepoch => ?_⟩
      obtain ⟨hgeneration, hzero⟩ := hfits.2 hepoch
      exact ⟨hgeneration, zeroSince, timeout, hzero, rfl, deadline_le_wake⟩
  · exact hinv

/-- The lifecycle keeps its generation and its instant, or a new generation begins. -/
def Moves (m m' : PnTunnel) : Prop :=
  m'.epoch = m.epoch ∧ m'.lifecycle.generation = m.lifecycle.generation ∧
    m'.lifecycle.zeroSince = m.lifecycle.zeroSince ∨ m'.epoch = m.epoch + 1

theorem Fits.moves {m' : PnTunnel} {epoch : Nat} {generation : U64} {P : Option Nat → Prop}
    (h : Fits m epoch generation P) (hmoves : Moves m m') : Fits m' epoch generation P := by
  unfold Fits
  rcases hmoves with ⟨hepoch, hgeneration, hzero⟩ | hepoch
  · rw [hepoch, hgeneration, hzero]
    exact h
  · have hle := h.1
    exact ⟨by omega, fun heq => by omega⟩

theorem region_moves (idleTimeout : Option Duration) (m : PnTunnel) (r : Region) : Moves m (m.region idleTimeout r) := by
  have hsame := (changes_run m.now m.lifecycle r).same
  by_cases hgeneration : (r.run m.now m.lifecycle).1.generation = m.lifecycle.generation
  · exact .inl ⟨if_pos hgeneration, hgeneration, hsame hgeneration⟩
  · exact .inr (if_neg hgeneration)

theorem Inv.region (hinv : Inv maxInstant idleTimeout m) (r : Region) :
    Inv maxInstant idleTimeout (m.region idleTimeout r) := by
  have hmoves := region_moves idleTimeout m r
  refine ⟨hinv.sane, fun s hs => ?_, fun c hc => Fits.moves (hinv.checked c hc) hmoves⟩
  have hrefresh := (changes_run m.now m.lifecycle r).refresh
  unfold PnTunnel.region at hs
  dsimp only at hs
  split at hs
  · next _ _ zeroSince generation timeout hresult =>
    rcases List.mem_append.mp hs with hold | hnew
    · exact Fits.moves (hinv.scheduled s hold) hmoves
    · obtain ⟨hzero, hgeneration⟩ := hrefresh zeroSince generation hresult
      rw [List.mem_singleton.mp hnew]
      exact ⟨le_rfl, fun _ => ⟨hgeneration.symm, hzero⟩⟩
  · exact Fits.moves (hinv.scheduled s hs) hmoves

/-! ## A check that wakes up -/

/-- All that `close_if_idle` asks before it computes the deadline. -/
structure Due (idleTimeout : Option Duration) (m : PnTunnel) (generation : U64) (zeroSince : Nat)
    (timeout : Duration) : Prop where
  timeout : idleTimeout = some timeout
  zeroSince : m.lifecycle.zeroSince = some zeroSince
  isOpen : m.lifecycle.isOpen = true
  generation : m.lifecycle.generation = generation
  total : m.lifecycle.totalChannels = 0

def PnTunnel.closed (m : PnTunnel) : PnTunnel :=
  { m with lifecycle := closeLifecycleLocked m.lifecycle .idleTimeout, epoch := m.epoch + 1 }

section
variable {generation : U64} {zeroSince : Nat} {timeout : Duration}

theorem closeIfIdle_of_due (h : Due idleTimeout m generation zeroSince timeout) :
    m.closeIfIdle maxInstant idleTimeout generation =
      if zeroSince + timeout.nanos ≤ maxInstant then
        if zeroSince + timeout.nanos ≤ m.now then m.closed else m
      else { m with poisoned := true } := by
  unfold PnTunnel.closeIfIdle
  rw [h.timeout, h.zeroSince]
  dsimp only
  rw [if_pos ⟨h.isOpen, h.generation, h.total⟩]
  unfold checkedAdd
  by_cases hinstant : zeroSince + timeout.nanos ≤ maxInstant
  · rw [if_pos hinstant, if_pos hinstant]
    rfl
  · rw [if_neg hinstant, if_neg hinstant]

theorem closeIfIdle_cases (maxInstant : Nat) (idleTimeout : Option Duration) (m : PnTunnel)
    (generation : U64) :
    m.closeIfIdle maxInstant idleTimeout generation = m ∨
      ∃ zeroSince timeout, Due idleTimeout m generation zeroSince timeout := by
  unfold PnTunnel.closeIfIdle
  split
  · next zeroSince timeout hzero =>
    split_ifs with hdue
    · exact .inr ⟨_, _, rfl, hzero, hdue.1, hdue.2.1, hdue.2.2⟩
    · exact .inl rfl
  · exact .inl rfl

theorem closed_reason (h : m.lifecycle.isOpen = true) :
    m.closed.lifecycle.status = .closing ∧
      m.closed.lifecycle.closeReason = some .idleTimeout := by
  have hopened := (PnTunnelLifecycleState.isOpen_iff.mp h).1
  unfold PnTunnel.closed closeLifecycleLocked
  dsimp only
  rw [hopened, if_neg (by decide)]
  exact ⟨rfl, rfl⟩

theorem Inv.closeIfIdle (hinv : Inv maxInstant idleTimeout m)
    (hrepresentable : ∀ zeroSince timeout, Due idleTimeout m generation zeroSince timeout →
      zeroSince + timeout.nanos ≤ maxInstant) :
    Inv maxInstant idleTimeout (m.closeIfIdle maxInstant idleTimeout generation) := by
  rcases closeIfIdle_cases maxInstant idleTimeout m generation with heq | ⟨zeroSince, timeout, hdue⟩
  · rwa [heq]
  · rw [closeIfIdle_of_due hdue, if_pos (hrepresentable zeroSince timeout hdue)]
    split_ifs
    · have hmoves : Moves m m.closed := .inr rfl
      exact ⟨hinv.sane, fun s hs => Fits.moves (hinv.scheduled s hs) hmoves,
        fun c hc => Fits.moves (hinv.checked c hc) hmoves⟩
    · exact hinv

end

/-- The check is out of the list when it runs. -/
def PnTunnel.taken (m : PnTunnel) (i : Nat) : PnTunnel := { m with checks := m.checks.eraseIdx i }

theorem Inv.taken (hinv : Inv maxInstant idleTimeout m) (i : Nat) :
    Inv maxInstant idleTimeout (m.taken i) :=
  ⟨hinv.sane, hinv.scheduled, fun c hc => hinv.checked c (List.mem_of_mem_eraseIdx hc)⟩

theorem step_check {i : Nat} {c : SleepingCheck} (hc : m.checks[i]? = some c)
    (hwake : c.wake ≤ m.now) (hsane : m.poisoned = false) :
    m.step maxInstant idleTimeout (.check i) =
      (m.taken i).closeIfIdle maxInstant idleTimeout c.generation := by
  unfold PnTunnel.step
  dsimp only
  rw [hc]
  dsimp only
  rw [if_pos hwake, hsane, if_neg Bool.false_ne_true]
  unfold PnTunnel.taken
  rw [hsane]

theorem step_check_cases (maxInstant : Nat) (idleTimeout : Option Duration) (m : PnTunnel) (i : Nat) :
    m.step maxInstant idleTimeout (.check i) = m ∨
      ∃ c, m.checks[i]? = some c ∧ c.wake ≤ m.now := by
  unfold PnTunnel.step
  dsimp only
  split
  · next generation wake epoch hc =>
    by_cases hwake : wake ≤ m.now
    · exact .inr ⟨_, hc, hwake⟩
    · exact .inl (if_neg hwake)
  · exact .inl rfl

theorem Inv.step (hinv : Inv maxInstant idleTimeout m) (ev : Event)
    (hrepresentable : Representable maxInstant idleTimeout m ev) :
    Inv maxInstant idleTimeout (m.step maxInstant idleTimeout ev) := by
  cases ev with
  | pass d =>
    unfold PnTunnel.step
    dsimp only
    split_ifs
    · exact ⟨hinv.sane, hinv.scheduled, hinv.checked⟩
    · exact hinv
  | region r =>
    unfold PnTunnel.step
    dsimp only
    split_ifs
    · exact hinv
    · exact hinv.region r
  | schedule k => exact hinv.schedule k
  | check i =>
    rcases step_check_cases maxInstant idleTimeout m i with heq | ⟨c, hc, hwake⟩
    · rwa [heq]
    · rw [step_check hc hwake hinv.sane]
      refine (hinv.taken i).closeIfIdle fun zeroSince timeout hdue => ?_
      exact hrepresentable i c zeroSince timeout rfl hc hwake hdue.generation hdue.isOpen
        hdue.total hdue.zeroSince hdue.timeout

/-- Only a check closes the tunnel as idle. -/
theorem Inv.notEarly (hinv : Inv maxInstant idleTimeout m) (ev : Event)
    (hopen : m.lifecycle.closeReason ≠ some .idleTimeout)
    (hclosed : (m.step maxInstant idleTimeout ev).lifecycle.closeReason = some .idleTimeout) :
    ∃ zeroSince timeout, m.lifecycle.zeroSince = some zeroSince ∧ idleTimeout = some timeout ∧
      zeroSince + timeout.nanos ≤ m.now := by
  cases ev with
  | pass d =>
    unfold PnTunnel.step at hclosed
    dsimp only at hclosed
    split_ifs at hclosed <;> exact absurd hclosed hopen
  | region r =>
    unfold PnTunnel.step at hclosed
    dsimp only at hclosed
    split_ifs at hclosed
    · exact absurd hclosed hopen
    · exact absurd ((changes_run m.now m.lifecycle r).reason hclosed) hopen
  | schedule k =>
    unfold PnTunnel.step PnTunnel.scheduleIdleCheck at hclosed
    dsimp only at hclosed
    split at hclosed <;> exact absurd hclosed hopen
  | check i =>
    rcases step_check_cases maxInstant idleTimeout m i with heq | ⟨c, hc, hwake⟩
    · rw [heq] at hclosed
      exact absurd hclosed hopen
    rw [step_check hc hwake hinv.sane] at hclosed
    rcases closeIfIdle_cases maxInstant idleTimeout (m.taken i) c.generation with
      heq | ⟨zeroSince, timeout, hdue⟩
    · rw [heq] at hclosed
      exact absurd hclosed hopen
    · rw [closeIfIdle_of_due hdue] at hclosed
      split_ifs at hclosed with hinstant hnow
      · exact ⟨zeroSince, timeout, hdue.zeroSince, hdue.timeout, hnow⟩
      · exact absurd hclosed hopen
      · exact absurd hclosed hopen

/-- A check of the current generation that is in time finds an idle tunnel due. -/
theorem Inv.due (hinv : Inv maxInstant idleTimeout m) {i : Nat} {c : SleepingCheck}
    (hc : m.checks[i]? = some c) (hepoch : c.epoch = m.epoch) (hopen : m.lifecycle.isOpen = true)
    (htotal : m.lifecycle.totalChannels = 0) :
    ∃ zeroSince timeout, Due idleTimeout (m.taken i) c.generation zeroSince timeout ∧
      (zeroSince + timeout.nanos ≤ maxInstant → zeroSince + timeout.nanos ≤ c.wake) := by
  obtain ⟨hgeneration, zeroSince, timeout, hzero, htimeout, hwake⟩ :=
    (hinv.checked c (List.mem_of_getElem? hc)).2 hepoch
  exact ⟨zeroSince, timeout, ⟨htimeout, hzero, hopen, hgeneration.symm, htotal⟩, hwake⟩

theorem Inv.inOrder (hinv : Inv maxInstant idleTimeout m) (ev : Event)
    (hrepresentable : Representable maxInstant idleTimeout m ev) :
    InOrder maxInstant idleTimeout m ev where
  noOverflow := (hinv.step ev hrepresentable).sane
  notEarly := hinv.notEarly ev
  closes i c hev hc hwake hepoch hopen htotal := by
    subst hev
    obtain ⟨zeroSince, timeout, hdue, hdeadline⟩ := hinv.due hc hepoch hopen htotal
    have hinstant : zeroSince + timeout.nanos ≤ maxInstant :=
      hrepresentable i c zeroSince timeout rfl hc hwake hdue.generation hdue.isOpen hdue.total
        hdue.zeroSince hdue.timeout
    have hnow : zeroSince + timeout.nanos ≤ (m.taken i).now := (hdeadline hinstant).trans hwake
    rw [step_check hc hwake hinv.sane, closeIfIdle_of_due hdue, if_pos hinstant, if_pos hnow]
    exact closed_reason hdue.isOpen

/-- A deadline that is no instant poisons the lock. -/
theorem Inv.representable (hinv : Inv maxInstant idleTimeout m) {ev : Event}
    (h : InOrder maxInstant idleTimeout m ev) : Representable maxInstant idleTimeout m ev := by
  rintro i c zeroSince timeout rfl hc hwake hgeneration hopen htotal hzero htimeout
  by_contra hinstant
  have hdue : Due idleTimeout (m.taken i) c.generation zeroSince timeout :=
    ⟨htimeout, hzero, hopen, hgeneration, htotal⟩
  have hsane := h.noOverflow
  rw [step_check hc hwake hinv.sane, closeIfIdle_of_due hdue, if_neg hinstant] at hsane
  cases hsane

/-- The steps of a run are in order exactly when no check of an idle tunnel finds a deadline that is
not an instant. -/
theorem idle_checks_iff (maxInstant : Nat) (idleTimeout : Option Duration) (start : Start)
    (now : Nat) (is : List Event) :
    Along (PnTunnel.step maxInstant idleTimeout) (InOrder maxInstant idleTimeout)
        (.new idleTimeout start now) is ↔
      Along (PnTunnel.step maxInstant idleTimeout) (Representable maxInstant idleTimeout)
        (.new idleTimeout start now) is := by
  refine (along_congr (I := Inv maxInstant idleTimeout) (fun m ev h hC => h.step ev hC)
    (fun m ev h => ?_) (inv_new start now) is).symm
  exact ⟨h.inOrder ev, h.representable⟩

/-- With `Duration::MAX` the first check of an idle tunnel runs at once and panics. -/
theorem idle_check_panics :
    (exec (PnTunnel.step (2 ^ 63 * 10 ^ 9 - 1) (some ⟨durationBound - 1, by decide⟩))
      (.new (some ⟨durationBound - 1, by decide⟩) .active 0)
      [.region .markControlReady, .schedule 0, .check 0]).poisoned = true := by
  decide

end BuckyP2p.Pn.IdleCheck
