import Mathlib.Data.List.Sort
import BuckyP2p.Base
import BuckyP2p.Lib.Lists
import BuckyP2p.Lib.Runs
import BuckyP2p.Lib.Table

/-!
# BuckyP2p.Pn.Traffic — the users of `PnTrafficManager` (`pn/service/pn_server.rs`)

A relayed session counts as active for its two users from `begin_session` until its
`PnTrafficSessionGuard` is dropped.  A user without an active session is kept for the retention, for
its counters, and then cleaned up.

* Every operation is one region under the lock of the state.  `guards` are the guards that have not
  been dropped yet; they are dropped in any order.
* `entries` are the `PnUserTrafficEntry`s, of which an `Arc` is the number, with the limits that
  they were set; the counters in them are not read here.
* The clock is in the events, in nanoseconds.  `Instant` is a `Timespec` of 64 bit seconds.
* A `BTreeSet` is its sorted list.
-/

namespace BuckyP2p.Pn.Traffic

open Lib

/-- The rates and weights; `0` is not one. -/
structure PnTrafficLimitConfig where
  txRate : Option U32
  txWeight : Option U32
  rxRate : Option U32
  rxWeight : Option U32
  deriving DecidableEq

structure PnTrafficUserState where
  entry : Nat
  activeSessions : Nat
  idleDeadline : Option Nat
  deriving DecidableEq

structure PnTrafficCleanupDeadline where
  deadline : Nat
  user : P2pId
  deriving DecidableEq

/-- The derived `Ord`. -/
def PnTrafficCleanupDeadline.le (d e : PnTrafficCleanupDeadline) : Bool :=
  d.deadline < e.deadline || (d.deadline = e.deadline && d.user ≤ e.user)

structure PnTrafficManagerState where
  users : Table P2pId PnTrafficUserState
  limitConfigs : Table P2pId PnTrafficLimitConfig
  retention : Nat
  cleanupDeadlines : List PnTrafficCleanupDeadline
  shutdown : Bool

inductive PnTrafficCleanupAction
  | shutdown
  | waitForNotification
  | waitForDeadline (wait : Nat)
  | yield
  deriving DecidableEq

structure PnTrafficSessionParticipant where
  user : P2pId
  entry : Nat
  deriving DecidableEq

/-- `registered`: the `Weak` is one of the manager. -/
structure PnTrafficSessionGuard where
  registered : Bool
  source : PnTrafficSessionParticipant
  target : Option PnTrafficSessionParticipant
  deriving DecidableEq

structure PnTrafficManager where
  state : PnTrafficManagerState
  entries : List PnTrafficLimitConfig
  guards : List PnTrafficSessionGuard

inductive TrafficEvent
  | beginSession (sourceUser targetUser : P2pId)
  /-- The clock is read for each of the two users. -/
  | dropGuard (i : Nat) (now now' : Nat)
  | setRetention (retention : Nat)
  | setUserLimit (user : P2pId) (config : PnTrafficLimitConfig)
  | cleanupAction (now : Nat)
  | shutdown
  deriving DecidableEq

def trafficCleanupMaxWait : Nat := 3600 * 10 ^ 9

def trafficCleanupBatchSize : Nat := 64

def trafficRetentionMax : Nat := 2592000 * 10 ^ 9

/-- The last `Instant`. -/
def instantMax : Nat := (2 ^ 63 - 1) * 10 ^ 9 + 999999999

/-- `PnTrafficManager::retention_deadline`. -/
def retentionDeadline (now retention : Nat) : Option Nat :=
  if now + retention ≤ instantMax then some (now + retention) else none

namespace PnTrafficManagerState

/-- `BTreeSet::insert`. -/
def schedule (s : PnTrafficManagerState) (d : PnTrafficCleanupDeadline) : PnTrafficManagerState :=
  { s with
    cleanupDeadlines :=
      if d ∈ s.cleanupDeadlines then s.cleanupDeadlines
      else s.cleanupDeadlines.orderedInsert (fun d e => d.le e) d }

def releaseUser (s : PnTrafficManagerState) (p : PnTrafficSessionParticipant) (now : Nat) :
    PnTrafficManagerState :=
  match s.users.lookup p.user with
  | none => s
  | some u =>
    if u.entry ≠ p.entry ∨ u.activeSessions = 0 then s
    else if u.activeSessions - 1 ≠ 0 then
      { s with users := s.users.insert p.user { u with activeSessions := u.activeSessions - 1 } }
    else if s.retention = 0 ∨ s.shutdown = true then { s with users := s.users.erase p.user }
    else match retentionDeadline now s.retention with
      | none => { s with users := s.users.erase p.user }
      | some deadline =>
        { s with
          users := s.users.insert p.user
            { u with activeSessions := 0, idleDeadline := some deadline } }.schedule
          ⟨deadline, p.user⟩

def endSession (s : PnTrafficManagerState) (g : PnTrafficSessionGuard) (now now' : Nat) :
    PnTrafficManagerState :=
  match g.target with
  | some target => (s.releaseUser g.source now).releaseUser target now'
  | none => s.releaseUser g.source now

/-- The user is idle since the deadline was set, and is dropped. -/
def expireUser (s : PnTrafficManagerState) (d : PnTrafficCleanupDeadline) : PnTrafficManagerState :=
  if (s.users.lookup d.user).any fun u => u.activeSessions = 0 && u.idleDeadline = some d.deadline then
    { s with users := s.users.erase d.user }
  else s

/-- The loop of `cleanup_action`; `left` is how many deadlines it may still process. -/
def sweep (now : Nat) : Nat → PnTrafficManagerState → PnTrafficManagerState
  | 0, s => s
  | left + 1, s =>
    match s.cleanupDeadlines with
    | [] => s
    | d :: rest =>
      if now < d.deadline then s
      else sweep now left ({ s with cleanupDeadlines := rest }.expireUser d)

def cleanupAction (s : PnTrafficManagerState) (now : Nat) :
    PnTrafficManagerState × PnTrafficCleanupAction :=
  if s.shutdown then (s, .shutdown)
  else
    let s := s.sweep now trafficCleanupBatchSize
    (s, match s.cleanupDeadlines with
      | [] => .waitForNotification
      | d :: _ =>
        if d.deadline ≤ now then .yield
        else .waitForDeadline (min (d.deadline - now) trafficCleanupMaxWait))

end PnTrafficManagerState

namespace PnTrafficManager

def new : PnTrafficManager := ⟨⟨∅, ∅, 0, [], false⟩, [], []⟩

variable (m : PnTrafficManager)

/-- `PnUserTrafficEntry::new`, with the limits set. -/
def newEntry (config : PnTrafficLimitConfig) : PnTrafficManager × Nat :=
  ({ m with entries := m.entries ++ [config] }, m.entries.length)

def noLimit : PnTrafficLimitConfig := ⟨none, none, none, none⟩

def acquireUser (user : P2pId) : PnTrafficManager × Nat :=
  match m.state.users.lookup user with
  | some u =>
    ({ m with
      state := { m.state with
        users := m.state.users.insert user
          { u with activeSessions := u.activeSessions + 1, idleDeadline := none }
        cleanupDeadlines := match u.idleDeadline with
          | some deadline => m.state.cleanupDeadlines.erase ⟨deadline, user⟩
          | none => m.state.cleanupDeadlines } }, u.entry)
  | none =>
    let (m, entry) := m.newEntry ((m.state.limitConfigs.lookup user).getD noLimit)
    ({ m with state := { m.state with users := m.state.users.insert user ⟨entry, 1, none⟩ } }, entry)

def beginSession (sourceUser targetUser : P2pId) : PnTrafficManager :=
  let acquire := fun (m : PnTrafficManager) user =>
    if m.state.shutdown then m.newEntry noLimit else m.acquireUser user
  let (m', source) := acquire m sourceUser
  let (m', target) :=
    if sourceUser = targetUser then (m', none)
    else
      let (m', target) := acquire m' targetUser
      (m', some ⟨targetUser, target⟩)
  { m' with guards := m'.guards ++ [⟨!m.state.shutdown, ⟨sourceUser, source⟩, target⟩] }

/-- `PnTrafficSessionGuard::drop`. -/
def dropGuard (i : Nat) (now now' : Nat) : PnTrafficManager :=
  match m.guards[i]? with
  | none => m
  | some g =>
    { m with
      guards := m.guards.eraseIdx i
      state := if g.registered then m.state.endSession g now now' else m.state }

def setRetention (retention : Nat) : PnTrafficManager :=
  if m.state.shutdown then m
  else { m with state := { m.state with retention := min retention trafficRetentionMax } }

def setUserLimit (user : P2pId) (config : PnTrafficLimitConfig) : PnTrafficManager :=
  if m.state.shutdown then m
  else
    { m with
      state := { m.state with limitConfigs := m.state.limitConfigs.insert user config }
      entries := match m.state.users.lookup user with
        | some u => m.entries.set u.entry config
        | none => m.entries }

def shutdown : PnTrafficManager := { m with state := ⟨∅, ∅, 0, [], true⟩ }

def step (m : PnTrafficManager) : TrafficEvent → PnTrafficManager
  | .beginSession sourceUser targetUser => m.beginSession sourceUser targetUser
  | .dropGuard i now now' => m.dropGuard i now now'
  | .setRetention retention => m.setRetention retention
  | .setUserLimit user config => m.setUserLimit user config
  | .cleanupAction now => { m with state := (m.state.cleanupAction now).1 }
  | .shutdown => m.shutdown

end PnTrafficManager

/-! ## What is claimed of a state -/

def PnTrafficSessionGuard.participants (g : PnTrafficSessionGuard) :
    List PnTrafficSessionParticipant := g.source :: g.target.toList

/-- The guard counts for the user. -/
def PnTrafficSessionGuard.names (g : PnTrafficSessionGuard) (user : P2pId) : Bool :=
  g.registered && g.participants.any fun p => p.user = user

namespace PnTrafficManager

/-- The live guards that were created before the shutdown and name the user. -/
def sessions (m : PnTrafficManager) (user : P2pId) : Nat := m.guards.countP (·.names user)

/-- The counts are those of the live guards, whose users keep their entries; exactly the idle users
have a deadline, and those are the deadlines that are waited for; after the shutdown nothing is
left. -/
structure Balanced (m : PnTrafficManager) : Prop where
  counted : ∀ user u, m.state.users.lookup user = some u → u.activeSessions = m.sessions user
  kept : m.state.shutdown = false → ∀ g ∈ m.guards, g.registered = true → ∀ p ∈ g.participants,
    ∃ u, m.state.users.lookup p.user = some u ∧ u.entry = p.entry
  idle : ∀ user u, m.state.users.lookup user = some u →
    (u.idleDeadline.isSome = true ↔ u.activeSessions = 0)
  deadlines : ∀ deadline user, ⟨deadline, user⟩ ∈ m.state.cleanupDeadlines ↔
    ∃ u, m.state.users.lookup user = some u ∧ u.idleDeadline = some deadline
  once : m.state.cleanupDeadlines.Nodup
  ended : m.state.shutdown = true →
    m.state.users = ∅ ∧ m.state.limitConfigs = ∅ ∧ m.state.cleanupDeadlines = []

/-- A user that the step drops was idle and its deadline has passed, or its last guard is dropped
and the retention is zero or leads past the last `Instant`, or the manager is shut down. -/
def DropsIdle (m : PnTrafficManager) (ev : TrafficEvent) : Prop :=
  ∀ user u, m.state.users.lookup user = some u → (m.step ev).state.users.lookup user = none →
    match ev with
    | .cleanupAction now =>
      u.activeSessions = 0 ∧ ∃ deadline, u.idleDeadline = some deadline ∧ deadline ≤ now
    | .dropGuard _ now now' =>
      (m.step ev).sessions user = 0 ∧ (m.state.retention = 0 ∨
        retentionDeadline now m.state.retention = none ∨
        retentionDeadline now' m.state.retention = none)
    | .shutdown => True
    | _ => False

/-- The manager is shut down and has nothing. -/
def Ended (m : PnTrafficManager) : Prop :=
  m.state.shutdown = true ∧ m.state.users = ∅ ∧ m.state.limitConfigs = ∅ ∧
    m.state.cleanupDeadlines = []

end PnTrafficManager

namespace PnTrafficManagerState

variable {s : PnTrafficManagerState} {count : P2pId → Nat} {user : P2pId} {u : PnTrafficUserState}

/-! ## The users and their deadlines -/

/-- The users are those who are counted or wait for their deadline. -/
structure Books (s : PnTrafficManagerState) (count : P2pId → Nat) : Prop where
  counted : ∀ user u, s.users.lookup user = some u → u.activeSessions = count user
  absent : ∀ user, s.users.lookup user = none → count user = 0
  idle : ∀ user u, s.users.lookup user = some u →
    (u.idleDeadline.isSome = true ↔ u.activeSessions = 0)
  deadlines : ∀ deadline user, ⟨deadline, user⟩ ∈ s.cleanupDeadlines ↔
    ∃ u, s.users.lookup user = some u ∧ u.idleDeadline = some deadline
  once : s.cleanupDeadlines.Nodup

/-- A user is active, and whatever it waited for is taken off. -/
theorem Books.activate (h : s.Books count) {users : Table P2pId PnTrafficUserState}
    {ds : List PnTrafficCleanupDeadline} {n e : Nat} (hn : n ≠ 0)
    (husers : users = s.users.insert user ⟨e, n, none⟩)
    (hds : ∀ d, d ∈ ds ↔ d ∈ s.cleanupDeadlines ∧ d.user ≠ user) (hnodup : ds.Nodup) :
    Books { s with users, cleanupDeadlines := ds } (Function.update count user n) := by
  subst husers
  refine ⟨fun v x hx => ?_, fun v hv => ?_, fun v x hx => ?_, fun deadline v => ?_, hnodup⟩
  · rcases Table.lookup_insert_some.mp hx with ⟨rfl, rfl⟩ | ⟨hv, hx⟩
    · rw [Function.update_self]
    · rw [Function.update_of_ne hv]
      exact h.counted v x hx
  · by_cases hvu : v = user
    · subst hvu
      cases hv.symm.trans (AList.lookup_insert _)
    · rw [Function.update_of_ne hvu]
      exact h.absent v ((AList.lookup_insert_ne hvu).symm.trans hv)
  · rcases Table.lookup_insert_some.mp hx with ⟨-, rfl⟩ | ⟨-, hx⟩
    · simp [hn]
    · exact h.idle v x hx
  · simp only [hds, h.deadlines, Table.lookup_insert_some]
    constructor
    · rintro ⟨⟨x, hx, hd⟩, hv⟩
      exact ⟨x, .inr ⟨hv, hx⟩, hd⟩
    · rintro ⟨x, ⟨-, rfl⟩ | ⟨hv, hx⟩, hd⟩
      · cases hd
      · exact ⟨⟨x, hx, hd⟩, hv⟩

/-- A user that waits for nothing is dropped. -/
theorem Books.forget (h : s.Books count) (hu : s.users.lookup user = some u)
    (hnone : u.idleDeadline = none) :
    Books { s with users := s.users.erase user } (Function.update count user 0) := by
  refine ⟨fun v x hx => ?_, fun v hv => ?_, fun v x hx => ?_, fun deadline v => ?_, h.once⟩
  · obtain ⟨hv, hx⟩ := Table.lookup_erase_some.mp hx
    rw [Function.update_of_ne hv]
    exact h.counted v x hx
  · by_cases hvu : v = user
    · rw [hvu, Function.update_self]
    · rw [Function.update_of_ne hvu]
      exact h.absent v ((AList.lookup_erase_ne hvu).symm.trans hv)
  · exact h.idle v x (Table.lookup_erase_some.mp hx).2
  · simp only [h.deadlines, Table.lookup_erase_some]
    constructor
    · rintro ⟨x, hx, hd⟩
      refine ⟨x, ⟨?_, hx⟩, hd⟩
      rintro rfl
      cases hu.symm.trans hx
      cases hnone.symm.trans hd
    · rintro ⟨x, ⟨-, hx⟩, hd⟩
      exact ⟨x, hx, hd⟩

theorem mem_schedule {d e : PnTrafficCleanupDeadline} :
    e ∈ (s.schedule d).cleanupDeadlines ↔ e = d ∨ e ∈ s.cleanupDeadlines := by
  unfold schedule
  by_cases hd : d ∈ s.cleanupDeadlines
  · simp only [if_pos hd]
    refine ⟨.inr, ?_⟩
    rintro (rfl | he)
    · exact hd
    · exact he
  · simp only [if_neg hd, List.mem_orderedInsert]

theorem nodup_schedule {d : PnTrafficCleanupDeadline} (h : s.cleanupDeadlines.Nodup) :
    (s.schedule d).cleanupDeadlines.Nodup := by
  unfold schedule
  by_cases hd : d ∈ s.cleanupDeadlines
  · simpa only [if_pos hd] using h
  · simp only [if_neg hd]
    exact (List.perm_orderedInsert _ d _).nodup_iff.mpr (List.nodup_cons.mpr ⟨hd, h⟩)

/-- A user becomes idle. -/
theorem Books.retain (h : s.Books count) (hu : s.users.lookup user = some u)
    (hnone : u.idleDeadline = none) (deadline : Nat) :
    Books ({ s with
        users := s.users.insert user { u with activeSessions := 0, idleDeadline := some deadline }
        }.schedule ⟨deadline, user⟩) (Function.update count user 0) := by
  refine ⟨fun v x hx => ?_, fun v hv => ?_, fun v x hx => ?_, fun d v => ?_, nodup_schedule h.once⟩
  · rcases Table.lookup_insert_some.mp hx with ⟨rfl, rfl⟩ | ⟨hv, hx⟩
    · rw [Function.update_self]
    · rw [Function.update_of_ne hv]
      exact h.counted v x hx
  · by_cases hvu : v = user
    · rw [hvu, Function.update_self]
    · rw [Function.update_of_ne hvu]
      exact h.absent v ((AList.lookup_insert_ne hvu).symm.trans hv)
  · rcases Table.lookup_insert_some.mp hx with ⟨-, rfl⟩ | ⟨-, hx⟩
    · simp
    · exact h.idle v x hx
  · rw [mem_schedule]
    show _ ↔ ∃ x, (s.users.insert user _).lookup v = some x ∧ _
    simp only [h.deadlines, Table.lookup_insert_some, PnTrafficCleanupDeadline.mk.injEq]
    constructor
    · rintro (⟨rfl, rfl⟩ | ⟨x, hx, hd⟩)
      · exact ⟨_, .inl ⟨rfl, rfl⟩, rfl⟩
      · refine ⟨x, .inr ⟨?_, hx⟩, hd⟩
        rintro rfl
        cases hu.symm.trans hx
        cases hnone.symm.trans hd
    · rintro ⟨x, ⟨rfl, rfl⟩ | ⟨-, hx⟩, hd⟩
      · exact .inl ⟨(Option.some.inj hd).symm, rfl⟩
      · exact .inr ⟨x, hx, hd⟩

/-! ### The end of a session -/

variable {p : PnTrafficSessionParticipant} {now : Nat}

variable (now) in
/-- What the end of a session leaves of its user. -/
theorem releaseUser_cases (hu : s.users.lookup p.user = some u) (hentry : u.entry = p.entry)
    (hactive : u.activeSessions ≠ 0) :
    (1 < u.activeSessions ∧ s.releaseUser p now = { s with
      users := s.users.insert p.user { u with activeSessions := u.activeSessions - 1 } }) ∨
    (u.activeSessions = 1 ∧ (s.retention = 0 ∨ s.shutdown = true ∨
        retentionDeadline now s.retention = none) ∧
      s.releaseUser p now = { s with users := s.users.erase p.user }) ∨
    (u.activeSessions = 1 ∧ ∃ deadline, s.releaseUser p now = { s with
      users := s.users.insert p.user { u with activeSessions := 0, idleDeadline := some deadline }
      }.schedule ⟨deadline, p.user⟩) := by
  have hfirst : ¬ (u.entry ≠ p.entry ∨ u.activeSessions = 0) := by
    rintro (hne | hzero)
    · exact hne hentry
    · exact hactive hzero
  unfold releaseUser
  simp only [hu, if_neg hfirst]
  by_cases hlast : u.activeSessions - 1 ≠ 0
  · rw [if_pos hlast]
    exact .inl ⟨by omega, rfl⟩
  · have hone : u.activeSessions = 1 := by omega
    rw [if_neg hlast]
    by_cases hnow : s.retention = 0 ∨ s.shutdown = true
    · rw [if_pos hnow]
      exact .inr (.inl ⟨hone, hnow.imp id .inl, rfl⟩)
    · rw [if_neg hnow]
      cases hd : retentionDeadline now s.retention with
      | none => exact .inr (.inl ⟨hone, .inr (.inr rfl), rfl⟩)
      | some deadline => exact .inr (.inr ⟨hone, deadline, rfl⟩)

theorem Books.idle_none (h : s.Books count) (hu : s.users.lookup user = some u)
    (hactive : u.activeSessions ≠ 0) : u.idleDeadline = none :=
  Option.not_isSome_iff_eq_none.mp fun hsome => hactive ((h.idle user u hu).mp hsome)

theorem Books.user_ne (h : s.Books count) (hu : s.users.lookup user = some u)
    (hnone : u.idleDeadline = none) {d : PnTrafficCleanupDeadline} (hd : d ∈ s.cleanupDeadlines) :
    d.user ≠ user := by
  rintro rfl
  obtain ⟨x, hx, hdeadline⟩ := (h.deadlines d.deadline d.user).mp hd
  cases hu.symm.trans hx
  cases hnone.symm.trans hdeadline

theorem Books.releaseUser (h : s.Books count) (hu : s.users.lookup p.user = some u)
    (hentry : u.entry = p.entry) (hactive : u.activeSessions ≠ 0) (now : Nat) :
    (s.releaseUser p now).Books (Function.update count p.user (count p.user - 1)) := by
  have hnone := h.idle_none hu hactive
  rw [← h.counted p.user u hu]
  rcases releaseUser_cases now hu hentry hactive with
    ⟨hmore, heq⟩ | ⟨hone, -, heq⟩ | ⟨hone, deadline, heq⟩
  · rw [heq]
    refine h.activate (e := u.entry) (by omega) ?_ (fun d => ?_) h.once
    · rw [← hnone]
    · exact ⟨fun hd => ⟨hd, h.user_ne hu hnone hd⟩, And.left⟩
  · rw [heq, hone]
    exact h.forget hu hnone
  · rw [heq, hone]
    exact h.retain hu hnone deadline

/-- What is not touched by the end of a session. -/
theorem releaseUser_frame (s : PnTrafficManagerState) (p : PnTrafficSessionParticipant) (now : Nat) :
    (s.releaseUser p now).retention = s.retention ∧ (s.releaseUser p now).shutdown = s.shutdown ∧
      (s.releaseUser p now).limitConfigs = s.limitConfigs := by
  unfold PnTrafficManagerState.releaseUser
  split
  · exact ⟨rfl, rfl, rfl⟩
  · split_ifs
    · exact ⟨rfl, rfl, rfl⟩
    · exact ⟨rfl, rfl, rfl⟩
    · exact ⟨rfl, rfl, rfl⟩
    · split <;> exact ⟨rfl, rfl, rfl⟩

variable (now) in
/-- The user keeps its entry while it has another session. -/
theorem releaseUser_keeps (hu : s.users.lookup p.user = some u) (hentry : u.entry = p.entry)
    (hactive : u.activeSessions ≠ 0) {x : PnTrafficUserState} (hx : s.users.lookup user = some x)
    (hmore : user ≠ p.user ∨ 1 < x.activeSessions) :
    ∃ x', (s.releaseUser p now).users.lookup user = some x' ∧ x'.entry = x.entry ∧
      (user ≠ p.user → x' = x) := by
  by_cases huser : user = p.user
  · subst huser
    cases hu.symm.trans hx
    have hmore := hmore.resolve_left fun hne => hne rfl
    rcases releaseUser_cases now hu hentry hactive with ⟨-, heq⟩ | ⟨hone, -⟩ | ⟨hone, -⟩
    · rw [heq]
      exact ⟨_, AList.lookup_insert _, rfl, fun hne => absurd rfl hne⟩
    · omega
    · omega
  · refine ⟨x, ?_, rfl, fun _ => rfl⟩
    rcases releaseUser_cases now hu hentry hactive with
      ⟨-, heq⟩ | ⟨-, -, heq⟩ | ⟨-, deadline, heq⟩
    · rw [heq]
      exact (AList.lookup_insert_ne huser).trans hx
    · rw [heq]
      exact (AList.lookup_erase_ne huser).trans hx
    · rw [heq]
      exact (AList.lookup_insert_ne huser).trans hx

/-- Only the user of the session is dropped, and only if this was its last one. -/
theorem releaseUser_drops (hu : s.users.lookup p.user = some u) (hentry : u.entry = p.entry)
    (hactive : u.activeSessions ≠ 0) {x : PnTrafficUserState} (hx : s.users.lookup user = some x)
    (hgone : (s.releaseUser p now).users.lookup user = none) :
    user = p.user ∧ x.activeSessions = 1 ∧
      (s.retention = 0 ∨ s.shutdown = true ∨ retentionDeadline now s.retention = none) := by
  have hlast : ¬ (user ≠ p.user ∨ 1 < x.activeSessions) := by
    intro hmore
    obtain ⟨x', hx', -⟩ := releaseUser_keeps now hu hentry hactive hx hmore
    cases hgone.symm.trans hx'
  rw [not_or, not_not] at hlast
  obtain ⟨rfl, hle⟩ := hlast
  cases hu.symm.trans hx
  rcases releaseUser_cases now hu hentry hactive with
    ⟨hmore, -⟩ | ⟨hone, hwhy, -⟩ | ⟨-, deadline, heq⟩
  · omega
  · exact ⟨rfl, hone, hwhy⟩
  · rw [heq] at hgone
    cases hgone.symm.trans (AList.lookup_insert _)

theorem update_once (change : Nat → Nat) (count : P2pId → Nat) (user v : P2pId) :
    Function.update count user (change (count user)) v =
      if user = v then change (count v) else count v := by
  by_cases hv : v = user
  · subst hv
    simp
  · rw [Function.update_of_ne hv, if_neg (Ne.symm hv)]

/-- The count of two users, one after the other. -/
theorem update_twice (change : Nat → Nat) (count : P2pId → Nat) {first second : P2pId}
    (hne : second ≠ first) (v : P2pId) :
    Function.update (Function.update count first (change (count first))) second
        (change (Function.update count first (change (count first)) second)) v =
      if first = v ∨ second = v then change (count v) else count v := by
  rw [update_once change (Function.update count first (change (count first)))]
  by_cases hv : second = v
  · subst hv
    rw [if_pos rfl, Function.update_of_ne hne, if_pos (.inr rfl)]
  · rw [if_neg hv, update_once]
    simp only [hv, or_false]

/-- What `end_session` does to the users of the guard. -/
structure Ends (s s' : PnTrafficManagerState) (g : PnTrafficSessionGuard) (now now' : Nat)
    (count : P2pId → Nat) : Prop where
  books : s'.Books fun v => count v - if g.participants.any (fun p => p.user = v) then 1 else 0
  keeps : ∀ v x, s.users.lookup v = some x → (∀ p ∈ g.participants, p.user ≠ v) ∨ 1 < x.activeSessions →
    ∃ x', s'.users.lookup v = some x' ∧ x'.entry = x.entry
  drops : ∀ v x, s.users.lookup v = some x → s'.users.lookup v = none →
    s.retention = 0 ∨ s.shutdown = true ∨ retentionDeadline now s.retention = none ∨
      retentionDeadline now' s.retention = none
  shutdown : s'.shutdown = s.shutdown

theorem endSession_ends {g : PnTrafficSessionGuard} (h : s.Books count)
    (hentry : ∀ p ∈ g.participants, ∃ u, s.users.lookup p.user = some u ∧ u.entry = p.entry)
    (hpos : ∀ p ∈ g.participants, count p.user ≠ 0)
    (hapart : ∀ p, g.target = some p → p.user ≠ g.source.user) (now now' : Nat) :
    s.Ends (s.endSession g now now') g now now' count := by
  have hsource : g.source ∈ g.participants := List.mem_cons_self
  obtain ⟨u, hu, huentry⟩ := hentry g.source hsource
  have hactive : u.activeSessions ≠ 0 := by
    rw [h.counted g.source.user u hu]
    exact hpos g.source hsource
  have hbooks := h.releaseUser hu huentry hactive now
  obtain ⟨hretention, hshutdown, -⟩ := releaseUser_frame s g.source now
  unfold PnTrafficManagerState.endSession
  cases htarget : g.target with
  | none =>
    have honly : g.participants = [g.source] := by
      simp [PnTrafficSessionGuard.participants, htarget]
    refine ⟨?_, fun v x hx hmore => ?_, fun v x hx hgone => ?_, hshutdown⟩
    · refine Eq.mp (congrArg _ (funext fun v => ?_)) hbooks
      rw [update_once (· - 1)]
      simp only [honly, List.any_cons, List.any_nil, Bool.or_false, decide_eq_true_eq]
      split_ifs <;> rfl
    · have hmore' := hmore.imp (fun hne => (hne g.source hsource).symm) id
      obtain ⟨x', hx', hsame, -⟩ := releaseUser_keeps now hu huentry hactive hx hmore'
      exact ⟨x', hx', hsame⟩
    · obtain ⟨-, -, hwhy⟩ := releaseUser_drops hu huentry hactive hx hgone
      exact hwhy.imp id (Or.imp id .inl)
  | some p =>
    have hboth : g.participants = [g.source, p] := by
      simp [PnTrafficSessionGuard.participants, htarget]
    have hp : p ∈ g.participants := by simp [hboth]
    have hne : p.user ≠ g.source.user := hapart p htarget
    obtain ⟨w, hw, hwentry⟩ := hentry p hp
    -- the target is untouched by the first release
    obtain ⟨w', hw', -, hsame⟩ := releaseUser_keeps now hu huentry hactive hw (.inl hne)
    cases hsame hne
    have hwactive : w.activeSessions ≠ 0 := by
      rw [h.counted p.user w hw]
      exact hpos p hp
    have hbooks' := hbooks.releaseUser hw' hwentry hwactive now'
    obtain ⟨-, hshutdown', -⟩ := releaseUser_frame (s.releaseUser g.source now) p now'
    refine ⟨?_, fun v x hx hmore => ?_, fun v x hx hgone => ?_, hshutdown'.trans hshutdown⟩
    · refine Eq.mp (congrArg _ (funext fun v => ?_)) hbooks'
      rw [update_twice (· - 1) count hne]
      simp only [hboth, List.any_cons, List.any_nil, Bool.or_false, Bool.or_eq_true,
        decide_eq_true_eq]
      split_ifs <;> rfl
    · have hmore' := hmore.imp (fun hne => (hne g.source hsource).symm) id
      obtain ⟨x', hx', hsame, hother⟩ := releaseUser_keeps now hu huentry hactive hx hmore'
      have hsecond : v ≠ p.user ∨ 1 < x'.activeSessions := by
        by_cases hv : v = p.user
        · subst hv
          rw [hother hne]
          exact .inr (hmore.resolve_left fun hall => hall p hp rfl)
        · exact .inl hv
      obtain ⟨x'', hx'', hsame', -⟩ :=
        releaseUser_keeps now' hw' hwentry hwactive hx' hsecond
      exact ⟨x'', hx'', hsame'.trans hsame⟩
    · cases hmid : (s.releaseUser g.source now).users.lookup v with
      | none =>
        obtain ⟨-, -, hwhy⟩ := releaseUser_drops hu huentry hactive hx hmid
        exact hwhy.imp id (Or.imp id .inl)
      | some x' =>
        obtain ⟨-, -, hwhy⟩ := releaseUser_drops hw' hwentry hwactive hmid hgone
        rw [hretention, hshutdown] at hwhy
        exact hwhy.imp id (Or.imp id .inr)

/-! ### The cleanup -/

theorem Books.expireUser (h : s.Books count) {d : PnTrafficCleanupDeadline}
    {rest : List PnTrafficCleanupDeadline} (hds : s.cleanupDeadlines = d :: rest) :
    ({ s with cleanupDeadlines := rest }.expireUser d).Books count := by
  have honce := h.once
  rw [hds, List.nodup_cons] at honce
  obtain ⟨u, hu, hdeadline⟩ := (h.deadlines d.deadline d.user).mp (hds ▸ List.mem_cons_self)
  have hzero : u.activeSessions = 0 := (h.idle d.user u hu).mp (by rw [hdeadline]; rfl)
  have hcount : count d.user = 0 := (h.counted d.user u hu).symm.trans hzero
  have hdue : (s.users.lookup d.user).any (fun u =>
      u.activeSessions = 0 && u.idleDeadline = some d.deadline) = true := by
    simp [hu, hzero, hdeadline]
  unfold PnTrafficManagerState.expireUser
  rw [if_pos hdue]
  refine ⟨fun v x hx => h.counted v x (Table.lookup_erase_some.mp hx).2, fun v hv => ?_,
    fun v x hx => h.idle v x (Table.lookup_erase_some.mp hx).2, fun deadline v => ?_, honce.2⟩
  · by_cases hvd : v = d.user
    · rw [hvd, hcount]
    · exact h.absent v ((AList.lookup_erase_ne hvd).symm.trans hv)
  · simp only [Table.lookup_erase_some]
    have hmem : ⟨deadline, v⟩ ∈ rest ↔ ⟨deadline, v⟩ ∈ s.cleanupDeadlines ∧ v ≠ d.user := by
      rw [hds, List.mem_cons]
      constructor
      · intro hin
        refine ⟨.inr hin, ?_⟩
        rintro rfl
        obtain ⟨x, hx, hxd⟩ := (h.deadlines deadline d.user).mp (hds ▸ List.mem_cons_of_mem _ hin)
        cases hu.symm.trans hx
        cases hdeadline.symm.trans hxd
        exact honce.1 hin
      · rintro ⟨rfl | hin, hne⟩
        · exact absurd rfl hne
        · exact hin
    rw [hmem, h.deadlines]
    constructor
    · rintro ⟨⟨x, hx, hxd⟩, hv⟩
      exact ⟨x, ⟨hv, hx⟩, hxd⟩
    · rintro ⟨x, ⟨hv, hx⟩, hxd⟩
      exact ⟨⟨x, hx, hxd⟩, hv⟩

theorem expireUser_frame (s : PnTrafficManagerState) (d : PnTrafficCleanupDeadline) :
    (s.expireUser d).retention = s.retention ∧ (s.expireUser d).shutdown = s.shutdown ∧
      (s.expireUser d).limitConfigs = s.limitConfigs := by
  unfold PnTrafficManagerState.expireUser
  split_ifs <;> exact ⟨rfl, rfl, rfl⟩

/-- A user that the cleanup leaves is unchanged, and one that it drops is idle and due. -/
theorem expireUser_lookup {d : PnTrafficCleanupDeadline} (hu : s.users.lookup user = some u) :
    (s.expireUser d).users.lookup user = some u ∨ (s.expireUser d).users.lookup user = none ∧
      u.activeSessions = 0 ∧ u.idleDeadline = some d.deadline := by
  unfold PnTrafficManagerState.expireUser
  split_ifs with hdue
  · by_cases huser : user = d.user
    · subst huser
      rw [hu] at hdue
      simp only [Option.any_some, Bool.and_eq_true, decide_eq_true_eq] at hdue
      exact .inr ⟨AList.lookup_erase _ _, hdue⟩
    · exact .inl ((AList.lookup_erase_ne huser).trans hu)
  · exact .inl hu

theorem Books.sweep (now left : Nat) (h : s.Books count) : (s.sweep now left).Books count := by
  induction left generalizing s with
  | zero => exact h
  | succ left ih =>
    rw [PnTrafficManagerState.sweep]
    split
    · exact h
    · next d rest hds =>
      split_ifs
      · exact h
      · exact ih (h.expireUser hds)

theorem sweep_frame (now left : Nat) (s : PnTrafficManagerState) :
    (s.sweep now left).retention = s.retention ∧ (s.sweep now left).shutdown = s.shutdown ∧
      (s.sweep now left).limitConfigs = s.limitConfigs := by
  induction left generalizing s with
  | zero => exact ⟨rfl, rfl, rfl⟩
  | succ left ih =>
    rw [PnTrafficManagerState.sweep]
    split
    · exact ⟨rfl, rfl, rfl⟩
    · next d rest _ =>
      split_ifs
      · exact ⟨rfl, rfl, rfl⟩
      · obtain ⟨hretention, hshutdown, hlimits⟩ :=
          expireUser_frame { s with cleanupDeadlines := rest } d
        obtain ⟨hretention', hshutdown', hlimits'⟩ :=
          ih ({ s with cleanupDeadlines := rest }.expireUser d)
        exact ⟨hretention'.trans hretention, hshutdown'.trans hshutdown, hlimits'.trans hlimits⟩

/-- The cleanup makes no users. -/
theorem sweep_none (now left : Nat) (hnone : s.users.lookup user = none) :
    (s.sweep now left).users.lookup user = none := by
  induction left generalizing s with
  | zero => exact hnone
  | succ left ih =>
    rw [PnTrafficManagerState.sweep]
    split
    · exact hnone
    · next d rest _ =>
      split_ifs
      · exact hnone
      · refine ih ?_
        unfold PnTrafficManagerState.expireUser
        split_ifs
        · refine Option.eq_none_iff_forall_not_mem.mpr fun x hx => ?_
          cases hnone.symm.trans (Table.lookup_erase_some.mp hx).2
        · exact hnone

theorem sweep_lookup (now left : Nat) (hu : s.users.lookup user = some u) :
    (s.sweep now left).users.lookup user = some u ∨ (s.sweep now left).users.lookup user = none ∧
      u.activeSessions = 0 ∧ ∃ deadline, u.idleDeadline = some deadline ∧ deadline ≤ now := by
  induction left generalizing s with
  | zero => exact .inl hu
  | succ left ih =>
    rw [PnTrafficManagerState.sweep]
    split
    · exact .inl hu
    · next d rest _ =>
      split_ifs with hlater
      · exact .inl hu
      · rcases expireUser_lookup (s := { s with cleanupDeadlines := rest }) (d := d) hu with
          hkept | ⟨hgone, hzero, hdeadline⟩
        · exact ih hkept
        · refine .inr ⟨?_, hzero, d.deadline, hdeadline, not_lt.mp hlater⟩
          exact sweep_none now left hgone

end PnTrafficManagerState

namespace PnTrafficManager

open PnTrafficManagerState

variable {m : PnTrafficManager} {count : P2pId → Nat} {user : P2pId} {u : PnTrafficUserState}

/-! ## What each operation keeps -/

theorem Books.acquireUser (h : m.state.Books count) (user : P2pId) :
    (m.acquireUser user).1.state.Books (Function.update count user (count user + 1)) := by
  unfold PnTrafficManager.acquireUser
  cases hu : m.state.users.lookup user with
  | some u =>
    have hcount := h.counted user u hu
    refine h.activate (by omega) (by rw [← hcount]) (fun d => ?_) ?_
    · cases hidle : u.idleDeadline with
      | none => exact ⟨fun hd => ⟨hd, h.user_ne hu hidle hd⟩, And.left⟩
      | some deadline =>
        rw [h.once.mem_erase_iff]
        constructor
        · rintro ⟨hne, hd⟩
          refine ⟨hd, ?_⟩
          rintro rfl
          obtain ⟨x, hx, hxd⟩ := (h.deadlines d.deadline d.user).mp hd
          cases hu.symm.trans hx
          cases hidle.symm.trans hxd
          exact hne rfl
        · rintro ⟨hd, hne⟩
          refine ⟨?_, hd⟩
          rintro rfl
          exact hne rfl
    · cases u.idleDeadline with
      | none => exact h.once
      | some deadline => exact h.once.erase _
  | none =>
    rw [h.absent user hu]
    refine h.activate Nat.one_ne_zero rfl (fun d => ⟨fun hd => ⟨hd, ?_⟩, And.left⟩) h.once
    rintro rfl
    obtain ⟨x, hx, -⟩ := (h.deadlines d.deadline d.user).mp hd
    cases hu.symm.trans hx

/-- What `acquire_user` returns, and what it does not touch. -/
structure Acquires (m m' : PnTrafficManager) (p : PnTrafficSessionParticipant) : Prop where
  guards : m'.guards = m.guards
  shutdown : m'.state.shutdown = m.state.shutdown
  entry : ∃ u, m'.state.users.lookup p.user = some u ∧ u.entry = p.entry
  keeps : ∀ v x, m.state.users.lookup v = some x →
    ∃ x', m'.state.users.lookup v = some x' ∧ x'.entry = x.entry

theorem acquireUser_acquires (m : PnTrafficManager) (user : P2pId) :
    m.Acquires (m.acquireUser user).1 ⟨user, (m.acquireUser user).2⟩ := by
  unfold PnTrafficManager.acquireUser
  cases hu : m.state.users.lookup user with
  | some u =>
    refine ⟨rfl, rfl, ⟨_, AList.lookup_insert _, rfl⟩, fun v x hx => ?_⟩
    by_cases hv : v = user
    · subst hv
      cases hu.symm.trans hx
      exact ⟨_, AList.lookup_insert _, rfl⟩
    · exact ⟨x, (AList.lookup_insert_ne hv).trans hx, rfl⟩
  | none =>
    refine ⟨rfl, rfl, ⟨_, AList.lookup_insert _, rfl⟩, fun v x hx => ?_⟩
    have hv : v ≠ user := by
      rintro rfl
      cases hu.symm.trans hx
    exact ⟨x, (AList.lookup_insert_ne hv).trans hx, rfl⟩

theorem Acquires.keeps_entry {m m' : PnTrafficManager} {p : PnTrafficSessionParticipant}
    (h : m.Acquires m' p) {user : P2pId} {entry : Nat}
    (hentry : ∃ x, m.state.users.lookup user = some x ∧ x.entry = entry) :
    ∃ x, m'.state.users.lookup user = some x ∧ x.entry = entry := by
  obtain ⟨x, hx, hsame⟩ := hentry
  obtain ⟨x', hx', hsame'⟩ := h.keeps user x hx
  exact ⟨x', hx', hsame'.trans hsame⟩

structure Inv (m : PnTrafficManager) : Prop where
  books : m.state.shutdown = false → m.state.Books m.sessions
  kept : m.state.shutdown = false → ∀ g ∈ m.guards, g.registered = true → ∀ p ∈ g.participants,
    ∃ u, m.state.users.lookup p.user = some u ∧ u.entry = p.entry
  ended : m.state.shutdown = true → m.state = ⟨∅, ∅, 0, [], true⟩
  apart : ∀ g ∈ m.guards, ∀ p, g.target = some p → p.user ≠ g.source.user

theorem inv_new : Inv new := by
  refine ⟨fun _ => ⟨?_, fun _ _ => rfl, ?_, ?_, List.nodup_nil⟩, ?_, ?_, ?_⟩
  · intro user u hu
    cases hu
  · intro user u hu
    cases hu
  · intro deadline user
    constructor
    · intro hd
      cases hd
    · rintro ⟨u, hu, -⟩
      cases hu
  · intro _ g hg
    cases hg
  · intro h
    cases h
  · intro g hg
    cases hg

theorem Inv.balanced (h : Inv m) : m.Balanced := by
  cases hshut : m.state.shutdown with
  | false =>
    have hbooks := h.books hshut
    refine ⟨hbooks.counted, h.kept, hbooks.idle, hbooks.deadlines, hbooks.once, fun hnow => ?_⟩
    cases hshut.symm.trans hnow
  | true =>
    have hempty := h.ended hshut
    refine ⟨?_, h.kept, ?_, ?_, ?_, ?_⟩
    all_goals rw [hempty]
    · intro user u hu
      cases hu
    · intro user u hu
      cases hu
    · intro deadline user
      constructor
      · intro hd
        cases hd
      · rintro ⟨u, hu, -⟩
        cases hu
    · exact List.nodup_nil
    · exact fun _ => ⟨rfl, rfl, rfl⟩

theorem sessions_append (m : PnTrafficManager) (g : PnTrafficSessionGuard) :
    (m.guards ++ [g]).countP (·.names user) = m.sessions user + if g.names user then 1 else 0 := by
  rw [List.countP_append, List.countP_singleton]
  rfl

/-- The guard counts once for each of its users. -/
theorem names_iff {g : PnTrafficSessionGuard} :
    g.names user = true ↔ g.registered = true ∧ ∃ p ∈ g.participants, p.user = user := by
  simp [PnTrafficSessionGuard.names]

/-- The users of a new guard were acquired for it. -/
theorem Inv.addGuard {n : PnTrafficManager} {g : PnTrafficSessionGuard} (h : Inv m)
    (hshut : m.state.shutdown = false) (hshut' : n.state.shutdown = false)
    (hguards : n.guards = m.guards)
    (hbooks : n.state.Books fun v => m.sessions v + if g.names v then 1 else 0)
    (hkeeps : ∀ v x, m.state.users.lookup v = some x →
      ∃ x', n.state.users.lookup v = some x' ∧ x'.entry = x.entry)
    (hentry : ∀ p ∈ g.participants, ∃ u, n.state.users.lookup p.user = some u ∧ u.entry = p.entry)
    (hapart : ∀ p, g.target = some p → p.user ≠ g.source.user) :
    Inv { n with guards := n.guards ++ [g] } := by
  refine ⟨fun _ => ?_, fun _ g' hg' hreg p hp => ?_, fun hnow => ?_, fun g' hg' => ?_⟩
  · have hsame : (fun v => m.sessions v + if g.names v then 1 else 0) =
        sessions { n with guards := n.guards ++ [g] } := by
      funext v
      rw [← sessions_append, ← hguards]
      rfl
    rwa [← hsame]
  · rw [hguards] at hg'
    rcases List.mem_append.mp hg' with hold | hnew
    · obtain ⟨u, hu, hentry'⟩ := h.kept hshut g' hold hreg p hp
      obtain ⟨u', hu', hsame⟩ := hkeeps p.user u hu
      exact ⟨u', hu', hsame.trans hentry'⟩
    · cases List.mem_singleton.mp hnew
      exact hentry p hp
  · cases hshut'.symm.trans hnow
  · rw [hguards] at hg'
    rcases List.mem_append.mp hg' with hold | hnew
    · exact h.apart g' hold
    · cases List.mem_singleton.mp hnew
      exact hapart

/-- After the shutdown a new guard does not count. -/
theorem Inv.addUncounted (h : Inv m) (hshut : m.state.shutdown = true)
    (entries : List PnTrafficLimitConfig) {source : PnTrafficSessionParticipant}
    {target : Option PnTrafficSessionParticipant}
    (hapart : ∀ p, target = some p → p.user ≠ source.user) :
    Inv ⟨m.state, entries, m.guards ++ [⟨false, source, target⟩]⟩ := by
  refine ⟨fun hnow => ?_, fun hnow => ?_, h.ended, fun g hg => ?_⟩
  · cases hshut.symm.trans hnow
  · cases hshut.symm.trans hnow
  · rcases List.mem_append.mp hg with hold | hnew
    · exact h.apart g hold
    · cases List.mem_singleton.mp hnew
      exact hapart

theorem Inv.beginSession (h : Inv m) (sourceUser targetUser : P2pId) :
    Inv (m.beginSession sourceUser targetUser) := by
  unfold PnTrafficManager.beginSession
  cases hshut : m.state.shutdown with
  | true =>
    by_cases hsame : sourceUser = targetUser
    · simp only [hshut, if_true, if_pos hsame, newEntry]
      exact h.addUncounted hshut _ fun p hp => by cases hp
    · simp only [hshut, if_true, if_neg hsame, newEntry]
      refine h.addUncounted hshut _ fun p hp => ?_
      cases hp
      exact Ne.symm hsame
  | false =>
    have hsource := acquireUser_acquires m sourceUser
    have hbooks := Books.acquireUser (h.books hshut) sourceUser
    simp only [hshut, Bool.false_eq_true, if_false]
    generalize m.acquireUser sourceUser = r at hsource hbooks
    obtain ⟨m', source⟩ := r
    have hshut' : m'.state.shutdown = false := hsource.shutdown.trans hshut
    by_cases hsame : sourceUser = targetUser
    · simp only [if_pos hsame]
      refine h.addGuard (n := m') (g := ⟨true, ⟨sourceUser, source⟩, none⟩) hshut hshut'
        hsource.guards ?_ hsource.keeps ?_ fun p hp => by cases hp
      · refine Eq.mp (congrArg m'.state.Books (funext fun v => ?_)) hbooks
        rw [update_once (· + 1)]
        simp only [PnTrafficSessionGuard.names, PnTrafficSessionGuard.participants,
          Option.toList_none, List.any_cons, List.any_nil, Bool.or_false, Bool.true_and,
          decide_eq_true_eq]
        split_ifs <;> rfl
      · intro p hp
        cases List.mem_singleton.mp hp
        exact hsource.entry
    · have htarget := acquireUser_acquires m' targetUser
      have hbooks' := Books.acquireUser hbooks targetUser
      simp only [if_neg hsame, hshut', Bool.false_eq_true, if_false]
      generalize m'.acquireUser targetUser = r at htarget hbooks'
      obtain ⟨m'', target⟩ := r
      refine h.addGuard (n := m'')
        (g := ⟨true, ⟨sourceUser, source⟩, some ⟨targetUser, target⟩⟩) hshut
        (htarget.shutdown.trans hshut') (htarget.guards.trans hsource.guards) ?_
        (fun v x hx => htarget.keeps_entry (hsource.keeps v x hx)) ?_ fun p hp => ?_
      · refine Eq.mp (congrArg m''.state.Books (funext fun v => ?_)) hbooks'
        rw [update_twice (· + 1) m.sessions (Ne.symm hsame)]
        simp only [PnTrafficSessionGuard.names, PnTrafficSessionGuard.participants,
          Option.toList_some, List.any_cons, List.any_nil, Bool.or_false, Bool.true_and,
          Bool.or_eq_true, decide_eq_true_eq]
        split_ifs <;> rfl
      · intro p hp
        rcases List.mem_cons.mp hp with rfl | hp
        · exact htarget.keeps_entry hsource.entry
        · cases List.mem_singleton.mp hp
          exact htarget.entry
      · cases hp
        exact Ne.symm hsame

/-- A region that leaves the users and their deadlines, and adds or takes no guard. -/
theorem Inv.setLimits (h : Inv m) (hshut : m.state.shutdown = false)
    (limitConfigs : Table P2pId PnTrafficLimitConfig) (retention : Nat)
    (entries : List PnTrafficLimitConfig) :
    Inv { m with state := { m.state with limitConfigs, retention }, entries } := by
  have hbooks := h.books hshut
  refine ⟨fun _ => ⟨hbooks.counted, hbooks.absent, hbooks.idle, hbooks.deadlines, hbooks.once⟩,
    h.kept, fun hnow => ?_, h.apart⟩
  cases hshut.symm.trans hnow

theorem Inv.setRetention (h : Inv m) (retention : Nat) : Inv (m.setRetention retention) := by
  unfold PnTrafficManager.setRetention
  split_ifs with hshut
  · exact h
  · exact h.setLimits (Bool.not_eq_true _ ▸ hshut) _ _ m.entries

theorem Inv.setUserLimit (h : Inv m) (user : P2pId) (config : PnTrafficLimitConfig) :
    Inv (m.setUserLimit user config) := by
  unfold PnTrafficManager.setUserLimit
  split_ifs with hshut
  · exact h
  · exact h.setLimits (Bool.not_eq_true _ ▸ hshut) _ m.state.retention _

theorem Inv.shutdown (h : Inv m) : Inv m.shutdown := by
  refine ⟨fun hnow => ?_, fun hnow => ?_, fun _ => rfl, h.apart⟩
  · cases hnow
  · cases hnow

/-- A user that has a guard is not idle. -/
theorem sessions_pos {g : PnTrafficSessionGuard} (hg : g ∈ m.guards)
    (hnames : g.names user = true) : m.sessions user ≠ 0 :=
  (List.countP_pos_iff.mpr ⟨g, hg, hnames⟩).ne'

theorem Inv.cleanupAction (h : Inv m) (now : Nat) :
    Inv { m with state := (m.state.cleanupAction now).1 } := by
  unfold PnTrafficManagerState.cleanupAction
  split_ifs with hshut
  · exact h
  · have hopen : m.state.shutdown = false := Bool.not_eq_true _ ▸ hshut
    have hbooks := h.books hopen
    refine ⟨fun _ => hbooks.sweep now _, fun _ g hg hreg p hp => ?_, fun hnow => ?_, h.apart⟩
    · obtain ⟨u, hu, hentry⟩ := h.kept hopen g hg hreg p hp
      rcases sweep_lookup now trafficCleanupBatchSize hu with hkept | ⟨-, hzero, -⟩
      · exact ⟨u, hkept, hentry⟩
      · have hnames : g.names p.user = true := names_iff.mpr ⟨hreg, p, hp, rfl⟩
        exact absurd ((hbooks.counted p.user u hu).symm.trans hzero) (sessions_pos hg hnames)
    · cases ((sweep_frame now _ m.state).2.1.trans hopen).symm.trans hnow

/-- The session ends for the users of a guard that counts. -/
theorem Inv.ends (h : Inv m) (hopen : m.state.shutdown = false) {i : Nat} {g : PnTrafficSessionGuard}
    (hg : m.guards[i]? = some g) (hreg : g.registered = true) (now now' : Nat) :
    m.state.Ends (m.state.endSession g now now') g now now' m.sessions := by
  have hmem := List.mem_of_getElem? hg
  refine endSession_ends (h.books hopen) (h.kept hopen g hmem hreg) (fun p hp => ?_) (h.apart g hmem)
    now now'
  exact sessions_pos hmem (names_iff.mpr ⟨hreg, p, hp, rfl⟩)

/-- After the shutdown there is nobody to release. -/
theorem Inv.endSession_ended (h : Inv m) (hshut : m.state.shutdown = true) (g : PnTrafficSessionGuard)
    (now now' : Nat) : m.state.endSession g now now' = m.state := by
  have hempty := h.ended hshut
  have hnone : ∀ p now, m.state.releaseUser p now = m.state := by
    intro p now
    unfold releaseUser
    rw [hempty]
    rfl
  unfold endSession
  split
  · rw [hnone, hnone]
  · exact hnone _ _

theorem sessions_eraseIdx {i : Nat} {g : PnTrafficSessionGuard} (hg : m.guards[i]? = some g)
    (v : P2pId) :
    (m.guards.eraseIdx i).countP (·.names v) = m.sessions v - if g.names v then 1 else 0 := by
  rw [PnTrafficManager.sessions, ← countP_eraseIdx_add (·.names v) hg, Nat.add_sub_cancel]

/-- A user of a guard that stays is not of the one that goes, or it counts twice. -/
theorem Inv.shared (h : Inv m) (hopen : m.state.shutdown = false) {i : Nat}
    {g g' : PnTrafficSessionGuard} {p : PnTrafficSessionParticipant} {u : PnTrafficUserState}
    (hg : m.guards[i]? = some g) (hreg : g.registered = true) (hg' : g' ∈ m.guards.eraseIdx i)
    (hreg' : g'.registered = true) (hp : p ∈ g'.participants)
    (hu : m.state.users.lookup p.user = some u) :
    (∀ q ∈ g.participants, q.user ≠ p.user) ∨ 1 < u.activeSessions := by
  by_cases hnames : g.names p.user = true
  · have hleft : 0 < (m.guards.eraseIdx i).countP (·.names p.user) :=
      List.countP_pos_iff.mpr ⟨g', hg', names_iff.mpr ⟨hreg', p, hp, rfl⟩⟩
    rw [sessions_eraseIdx hg, if_pos hnames, ← (h.books hopen).counted p.user u hu] at hleft
    exact .inr (by omega)
  · exact .inl fun q hq heq => hnames (names_iff.mpr ⟨hreg, q, hq, heq⟩)

theorem Inv.dropGuard (h : Inv m) (i now now' : Nat) : Inv (m.dropGuard i now now') := by
  unfold PnTrafficManager.dropGuard
  cases hg : m.guards[i]? with
  | none => exact h
  | some g =>
    have hapart : ∀ g ∈ m.guards.eraseIdx i, ∀ p, g.target = some p → p.user ≠ g.source.user :=
      fun g' hg' => h.apart g' (List.mem_of_mem_eraseIdx hg')
    dsimp only
    cases hshut : m.state.shutdown with
    | true =>
      have hstate : (if g.registered then m.state.endSession g now now' else m.state) = m.state := by
        split_ifs
        · exact h.endSession_ended hshut g now now'
        · rfl
      rw [hstate]
      refine ⟨fun hnow => ?_, fun hnow => ?_, h.ended, hapart⟩
      · cases hshut.symm.trans hnow
      · cases hshut.symm.trans hnow
    | false =>
      cases hreg : g.registered with
      | false =>
        have hnames : ∀ v, g.names v = false := fun v => by simp [PnTrafficSessionGuard.names, hreg]
        rw [if_neg Bool.false_ne_true]
        refine ⟨fun _ => ?_, fun _ g' hg' => h.kept hshut g' (List.mem_of_mem_eraseIdx hg'),
          h.ended, hapart⟩
        refine Eq.mp (congrArg m.state.Books (funext fun v => ?_)) (h.books hshut)
        exact ((sessions_eraseIdx hg v).trans (by simp [hnames])).symm
      | true =>
        have hends := h.ends hshut hg hreg now now'
        rw [if_pos rfl]
        refine ⟨fun _ => ?_, fun _ g' hg' hreg' p hp => ?_, fun hnow => ?_, hapart⟩
        · refine Eq.mp (congrArg _ (funext fun v => ?_)) hends.books
          refine Eq.trans ?_ (sessions_eraseIdx hg v).symm
          simp [PnTrafficSessionGuard.names, hreg]
        · obtain ⟨u, hu, hentry⟩ := h.kept hshut g' (List.mem_of_mem_eraseIdx hg') hreg' p hp
          obtain ⟨u', hu', hsame⟩ :=
            hends.keeps p.user u hu (h.shared hshut hg hreg hg' hreg' hp hu)
          exact ⟨u', hu', hsame.trans hentry⟩
        · cases (hends.shutdown.trans hshut).symm.trans hnow

theorem Inv.step (h : Inv m) (ev : TrafficEvent) : Inv (m.step ev) := by
  cases ev with
  | beginSession sourceUser targetUser => exact h.beginSession sourceUser targetUser
  | dropGuard i now now' => exact h.dropGuard i now now'
  | setRetention retention => exact h.setRetention retention
  | setUserLimit user config => exact h.setUserLimit user config
  | cleanupAction now => exact h.cleanupAction now
  | shutdown => exact h.shutdown

/-! ## Whom a step drops -/

theorem beginSession_keeps (hopen : m.state.shutdown = false) (sourceUser targetUser : P2pId)
    (hu : m.state.users.lookup user = some u) :
    ∃ u', (m.beginSession sourceUser targetUser).state.users.lookup user = some u' := by
  have hsource := acquireUser_acquires m sourceUser
  obtain ⟨u', hu', -⟩ := hsource.keeps user u hu
  have htarget := acquireUser_acquires (m.acquireUser sourceUser).1 targetUser
  unfold PnTrafficManager.beginSession
  simp only [hopen, Bool.false_eq_true, if_false]
  by_cases hsame : sourceUser = targetUser
  · simp only [if_pos hsame]
    exact ⟨u', hu'⟩
  · simp only [if_neg hsame, hsource.shutdown.trans hopen, Bool.false_eq_true, if_false]
    obtain ⟨u'', hu'', -⟩ := htarget.keeps user u' hu'
    exact ⟨u'', hu''⟩

/-- A user that goes with a guard has no session left, and nothing to wait for. -/
theorem Inv.dropGuard_drops (h : Inv m) (hopen : m.state.shutdown = false) (i now now' : Nat)
    {v : P2pId} {x : PnTrafficUserState} (hx : m.state.users.lookup v = some x)
    (hgone : (m.dropGuard i now now').state.users.lookup v = none) :
    (m.dropGuard i now now').sessions v = 0 ∧
      (m.state.retention = 0 ∨ retentionDeadline now m.state.retention = none ∨
        retentionDeadline now' m.state.retention = none) := by
  cases hg : m.guards[i]? with
  | none =>
    simp only [PnTrafficManager.dropGuard, hg] at hgone
    cases hgone.symm.trans hx
  | some g =>
    have hstate : (m.dropGuard i now now').state =
        if g.registered then m.state.endSession g now now' else m.state := by
      simp only [PnTrafficManager.dropGuard, hg]
    cases hreg : g.registered with
    | false =>
      rw [hstate, hreg, if_neg Bool.false_ne_true] at hgone
      cases hgone.symm.trans hx
    | true =>
      have hends := h.ends hopen hg hreg now now'
      rw [hreg, if_pos rfl] at hstate
      have hopen' : (m.dropGuard i now now').state.shutdown = false := by
        rw [hstate, hends.shutdown, hopen]
      refine ⟨((h.dropGuard i now now').books hopen').absent v hgone, ?_⟩
      rw [hstate] at hgone
      refine (hends.drops v x hx hgone).imp id fun hwhy => hwhy.resolve_left fun hshut => ?_
      cases hopen.symm.trans hshut

theorem Inv.dropsIdle (h : Inv m) (ev : TrafficEvent) : m.DropsIdle ev := by
  intro v x hx hgone
  have hopen : m.state.shutdown = false := by
    by_contra hshut
    rw [Bool.not_eq_false] at hshut
    rw [h.ended hshut] at hx
    cases hx
  cases ev with
  | beginSession sourceUser targetUser =>
    obtain ⟨x', hx'⟩ := beginSession_keeps hopen sourceUser targetUser hx
    cases hgone.symm.trans hx'
  | dropGuard i now now' => exact h.dropGuard_drops hopen i now now' hx hgone
  | setRetention retention =>
    change (m.setRetention retention).state.users.lookup v = none at hgone
    rw [PnTrafficManager.setRetention, if_neg (ne_true_of_eq_false hopen)] at hgone
    cases hgone.symm.trans hx
  | setUserLimit user config =>
    change (m.setUserLimit user config).state.users.lookup v = none at hgone
    rw [PnTrafficManager.setUserLimit, if_neg (ne_true_of_eq_false hopen)] at hgone
    cases hgone.symm.trans hx
  | cleanupAction now =>
    change (m.state.cleanupAction now).1.users.lookup v = none at hgone
    rw [PnTrafficManagerState.cleanupAction, if_neg (ne_true_of_eq_false hopen)] at hgone
    rcases sweep_lookup now trafficCleanupBatchSize hx with hkept | ⟨-, hidle⟩
    · cases hgone.symm.trans hkept
    · exact hidle
  | shutdown => trivial

theorem ended_step (h : m.Ended) (ev : TrafficEvent) : (m.step ev).Ended := by
  obtain ⟨hshut, husers, hlimits, hdeadlines⟩ := h
  cases ev with
  | beginSession sourceUser targetUser =>
    have hstate : (m.beginSession sourceUser targetUser).state = m.state := by
      unfold PnTrafficManager.beginSession
      by_cases hsame : sourceUser = targetUser
      · simp only [hshut, if_true, if_pos hsame, newEntry]
      · simp only [hshut, if_true, if_neg hsame, newEntry]
    exact ⟨by rw [step, hstate, hshut], by rw [step, hstate, husers],
      by rw [step, hstate, hlimits], by rw [step, hstate, hdeadlines]⟩
  | dropGuard i now now' =>
    have hnone : ∀ p now, m.state.releaseUser p now = m.state := by
      intro p now
      unfold releaseUser
      rw [husers]
      rfl
    have hstate : (m.dropGuard i now now').state = m.state := by
      unfold PnTrafficManager.dropGuard
      split
      · rfl
      · simp only [endSession, hnone]
        split_ifs
        · split <;> rfl
        · rfl
    exact ⟨by rw [step, hstate, hshut], by rw [step, hstate, husers],
      by rw [step, hstate, hlimits], by rw [step, hstate, hdeadlines]⟩
  | setRetention retention =>
    rw [step, PnTrafficManager.setRetention, if_pos hshut]
    exact ⟨hshut, husers, hlimits, hdeadlines⟩
  | setUserLimit user config =>
    rw [step, PnTrafficManager.setUserLimit, if_pos hshut]
    exact ⟨hshut, husers, hlimits, hdeadlines⟩
  | cleanupAction now =>
    rw [step, PnTrafficManagerState.cleanupAction, if_pos hshut]
    exact ⟨hshut, husers, hlimits, hdeadlines⟩
  | shutdown => exact ⟨rfl, rfl, rfl, rfl⟩

/-- **Traffic bookkeeping.**  In every run the counts, entries and deadlines are those of the live
guards, only users are dropped that have none, and nothing comes back after the shutdown. -/
theorem traffic_balanced (evs : List TrafficEvent) :
    (exec step new evs).Balanced ∧ Along step DropsIdle new evs ∧ Absorbs step Ended new evs := by
  have hinv : Inv (exec step new evs) := exec_inv_all (I := Inv) (fun _ ev h => h.step ev) inv_new evs
  refine ⟨hinv.balanced, ?_, ?_⟩
  · exact along_of_inv (I := Inv) (fun _ ev h _ => h.step ev) (fun _ ev h _ => h.dropsIdle ev) inv_new
      (along_true new evs)
  · intro pre mid _ hend
    rw [exec_append]
    exact exec_inv_all (I := Ended) (fun _ ev h => ended_step h ev) hend mid

/-- The retention is five seconds, and a session ends at the last `Instant`. -/
def beyond : List TrafficEvent := [.setRetention (5 * 10 ^ 9), .beginSession [1] [2]]

/-- Its users are dropped although the retention is not zero and no deadline was set. -/
theorem beyond_dropped :
    let m := exec step new beyond
    let m' := m.step (.dropGuard 0 instantMax instantMax)
    m.state.users.lookup [1] = some ⟨0, 1, none⟩ ∧ m'.state.users.lookup [1] = none ∧
      m'.state.retention ≠ 0 ∧ m'.state.shutdown = false := by
  decide

end PnTrafficManager

end BuckyP2p.Pn.Traffic
