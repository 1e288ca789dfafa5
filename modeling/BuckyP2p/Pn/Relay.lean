import BuckyP2p.Lib.Runs
import BuckyP2p.ControlStream.Frame
import Mathlib.Data.Finset.Basic

/-!
# BuckyP2p.Pn.Relay — relay sessions of `pn/service/pn_server.rs`

The tasks of `handle_proxy_open_req` (data) and `handle_proxy_control_open_req` (control) over one
`PnService`.  A task waits for the validator, for the target's stream, for the target's response and
for the write of its own response to the source, then it copies between the two ends (`bridging`).
What is waited for answers as it likes.  The handlers use no more of an error than its code; the
messages go to the log.

A data task whose target accepted registers its session before it starts its bridge, and keeps it
when the bridge ends; a control task registers nothing, and takes the session away when its bridge
has ended.  `Orderly` is the order of bridges under which the registry follows them nevertheless.
-/

namespace BuckyP2p.Pn

open Lib
open ControlStream (TunnelCommandResult)

def TunnelCommandResult.fromU8 (value : U8) : Option TunnelCommandResult :=
  [.success, .portNotListen, .listenerClosed, .acceptQueueFull, .conflictLost, .leaseMismatch,
    .retired, .protocolError, .timeout, .interrupted, .invalidParam, .internalError][value.val]?

def resultFromError : P2pErrorCode → TunnelCommandResult
  | .portNotListen => .portNotListen
  | .timeout => .timeout
  | .interrupted | .notFound => .interrupted
  | .invalidParam | .permissionDenied | .reject => .invalidParam
  | .invalidData => .protocolError
  | _ => .internalError

/-- `ProxyOpenReq` and `ProxyControlOpenReq`. -/
structure ProxyOpenReq where
  tunnelId : TunnelId
  source : P2pId
  target : P2pId
  deriving DecidableEq

/-- `ProxyOpenResp` and `ProxyControlOpenResp`. -/
structure ProxyOpenResp where
  tunnelId : TunnelId
  result : U8
  deriving DecidableEq

inductive ValidateResult
  | accept
  | reject (reason : String)
  deriving DecidableEq

structure PnRelaySessionKey where
  tunnelId : TunnelId
  source : P2pId
  target : P2pId
  deriving DecidableEq

inductive Phase
  | validating
  | opening
  | asking
  /-- The response is being written to the source. -/
  | replying (result : TunnelCommandResult)
  /-- `Success` has been written to the source. -/
  | accepted
  /-- A data task has registered its session. -/
  | registered
  | bridging
  /-- The bridge of a control task has ended. -/
  | ended
  | done
  deriving DecidableEq

/-- A handler; `req.source` is the authenticated peer. -/
structure Task where
  isControl : Bool
  req : ProxyOpenReq
  phase : Phase
  deriving DecidableEq

inductive Event
  | arrives (isControl : Bool) (peer : P2pId) (req : ProxyOpenReq)
  | validated (k : Nat) (answer : Except P2pErrorCode ValidateResult)
  /-- `open_target_stream` returned, or its timeout. -/
  | opened (k : Nat) (answer : Except P2pErrorCode Unit)
  /-- The request was written and the response read, or one of them failed. -/
  | answered (k : Nat) (answer : Except P2pErrorCode ProxyOpenResp)
  /-- The write to the source returned; its result is ignored. -/
  | replied (k : Nat)
  | register (k : Nat)
  | bridge (k : Nat)
  | bridgeEnd (k : Nat)
  | unregister (k : Nat)
  deriving DecidableEq

structure PnService where
  relaySessions : Finset PnRelaySessionKey
  tasks : List Task
  deriving DecidableEq

namespace PnService

def init : PnService := ⟨∅, []⟩

def hasRelaySession (s : PnService) (tunnelId : TunnelId) (source target : P2pId) : Bool :=
  ⟨tunnelId, source, target⟩ ∈ s.relaySessions ∨ ⟨tunnelId, target, source⟩ ∈ s.relaySessions

def registerRelaySession (s : PnService) (tunnelId : TunnelId) (source target : P2pId) :
    PnService :=
  { s with relaySessions := insert ⟨tunnelId, source, target⟩ s.relaySessions }

def unregisterRelaySession (s : PnService) (tunnelId : TunnelId) (source target : P2pId) :
    PnService :=
  { s with relaySessions :=
      (s.relaySessions.erase ⟨tunnelId, source, target⟩).erase ⟨tunnelId, target, source⟩ }

def setPhase (s : PnService) (k : Nat) (x : Task) (phase : Phase) : PnService :=
  { s with tasks := s.tasks.set k { x with phase := phase } }

/-- The beginning of a handler: a data request of a known session is not validated. -/
def opens (s : PnService) (isControl : Bool) (req : ProxyOpenReq) : PnService :=
  let known := !isControl && s.hasRelaySession req.tunnelId req.source req.target
  { s with tasks := s.tasks ++ [⟨isControl, req, if known then .opening else .validating⟩] }

/-- What the handler makes of the answer of the target. -/
def bridgeReady (tunnelId : TunnelId) :
    Except P2pErrorCode ProxyOpenResp → Except P2pErrorCode TunnelCommandResult
  | .error code => .error code
  | .ok resp =>
    if resp.tunnelId ≠ tunnelId then .error .invalidData
    else match TunnelCommandResult.fromU8 resp.result with
      | some result => .ok result
      | none => .error .invalidData

/-- A step of the task `k`, which is `x`. -/
def run (s : PnService) (k : Nat) (x : Task) : Event → PnService
  | .arrives .. => s
  | .validated _ answer =>
    if x.phase = .validating then
      s.setPhase k x <| match answer with
        | .ok .accept => .opening
        | .ok (.reject _) => .replying (resultFromError .permissionDenied)
        | .error code => .replying (resultFromError code)
    else s
  | .opened _ answer =>
    if x.phase = .opening then
      s.setPhase k x <| match answer with
        | .ok () => .asking
        | .error code => .replying (resultFromError code)
    else s
  | .answered _ answer =>
    if x.phase = .asking then
      s.setPhase k x <| match bridgeReady x.req.tunnelId answer with
        | .ok result => .replying result
        | .error code => .replying (resultFromError code)
    else s
  | .replied _ =>
    match x.phase with
    | .replying result => s.setPhase k x (if result = .success then .accepted else .done)
    | _ => s
  | .register _ =>
    if x.phase = .accepted ∧ x.isControl = false then
      (s.registerRelaySession x.req.tunnelId x.req.source x.req.target).setPhase k x
        .registered
    else s
  | .bridge _ =>
    if (x.phase = .accepted ∧ x.isControl = true) ∨ x.phase = .registered then
      s.setPhase k x .bridging
    else s
  | .bridgeEnd _ =>
    if x.phase = .bridging then
      s.setPhase k x (if x.isControl then .ended else .done)
    else s
  | .unregister _ =>
    if x.phase = .ended then
      (s.unregisterRelaySession x.req.tunnelId x.req.source x.req.target).setPhase k x
        .done
    else s

def step (s : PnService) (ev : Event) : PnService :=
  match ev with
  | .arrives isControl peer req => s.opens isControl { req with source := peer }
  | .validated k _ | .opened k _ | .answered k _ | .replied k | .register k | .bridge k
  | .bridgeEnd k | .unregister k =>
    match s.tasks[k]? with
    | some x => s.run k x ev
    | none => s

end PnService

/-! ## Bridges and sessions -/

namespace Task

variable {x : Task}

/-- The task is of the tunnel `id` between `a` and `b`. -/
def Between (x : Task) (id : TunnelId) (a b : P2pId) : Prop :=
  x.req.tunnelId = id ∧
    ((x.req.source = a ∧ x.req.target = b) ∨ (x.req.source = b ∧ x.req.target = a))

instance (x : Task) (id : TunnelId) (a b : P2pId) : Decidable (x.Between id a b) := by
  unfold Between
  infer_instance

theorem between_self (x : Task) : x.Between x.req.tunnelId x.req.source x.req.target :=
  ⟨rfl, .inl ⟨rfl, rfl⟩⟩

theorem Between.symm {id : TunnelId} {a b : P2pId} (h : x.Between id a b) : x.Between id b a :=
  ⟨h.1, h.2.symm⟩

/-- The session of the task is to be known. -/
def live (x : Task) : Bool := x.phase = .registered ∨ x.phase = .bridging

/-- The session of the task may still be known. -/
def holding (x : Task) : Bool := x.live ∨ x.phase = .ended

theorem holding_of_live (h : x.live = true) : x.holding = true := by simp [holding, h]

end Task

namespace PnService

variable {s : PnService} {k : Nat} {x : Task}

theorem hasRelaySession_symm (s : PnService) (id : TunnelId) (a b : P2pId) :
    s.hasRelaySession id a b = s.hasRelaySession id b a := by
  rw [hasRelaySession, hasRelaySession, decide_eq_decide, or_comm]

theorem hasRelaySession_between {y : Task} {id : TunnelId} {a b : P2pId} (h : y.Between id a b) :
    s.hasRelaySession id a b = s.hasRelaySession y.req.tunnelId y.req.source y.req.target := by
  obtain ⟨rfl, ⟨rfl, rfl⟩ | ⟨rfl, rfl⟩⟩ := h
  · rfl
  · exact hasRelaySession_symm ..

/-- The tasks other than `k`. -/
def others (s : PnService) (k : Nat) : List Task := s.tasks.eraseIdx k

theorem mem_tasks {y : Task} (hx : s.tasks[k]? = some x) :
    y ∈ s.tasks ↔ y = x ∨ y ∈ s.others k := by
  rw [others, List.mem_eraseIdx_iff_getElem?, List.mem_iff_getElem?]
  constructor
  · rintro ⟨j, hj⟩
    by_cases hk : j = k
    · rw [hk, hx] at hj
      exact .inl (Option.some.inj hj).symm
    · exact .inr ⟨j, hk, hj⟩
  · rintro (rfl | ⟨j, -, hj⟩)
    · exact ⟨k, hx⟩
    · exact ⟨j, hj⟩

theorem mem_setPhase {y : Task} {phase : Phase} (hx : s.tasks[k]? = some x) :
    y ∈ (s.setPhase k x phase).tasks ↔ y = { x with phase := phase } ∨ y ∈ s.others k := by
  have hlt := (List.getElem?_eq_some_iff.mp hx).1
  have hset : (s.setPhase k x phase).tasks[k]? = some { x with phase := phase } :=
    List.getElem?_set_self hlt
  rw [mem_tasks hset]
  have hothers : (s.setPhase k x phase).others k = s.others k := List.eraseIdx_set_eq
  rw [hothers]

/-- Sessions of live tasks are known, and known sessions are held by a task. -/
structure Tracked (s : PnService) : Prop where
  live : ∀ x ∈ s.tasks, x.live = true →
    s.hasRelaySession x.req.tunnelId x.req.source x.req.target = true
  held : ∀ key ∈ s.relaySessions, ∃ x ∈ s.tasks,
    x.Between key.tunnelId key.source key.target ∧ x.holding = true

theorem tracked_init : Tracked .init where
  live := by rintro x ⟨⟩
  held key h := absurd h (Finset.notMem_empty key)

theorem Tracked.holder (h : s.Tracked) {id : TunnelId} {a b : P2pId}
    (hhas : s.hasRelaySession id a b = true) : ∃ x ∈ s.tasks, x.Between id a b ∧ x.holding := by
  rcases of_decide_eq_true hhas with hmem | hmem
  · exact h.held _ hmem
  · obtain ⟨x, hx, hb, hh⟩ := h.held _ hmem
    exact ⟨x, hx, hb.symm, hh⟩

/-- A task moves on, and the sessions stay. -/
theorem Tracked.move (h : s.Tracked) (hx : s.tasks[k]? = some x) {phase : Phase}
    (hlive : Task.live { x with phase := phase } = true → x.live = true ∨
      s.hasRelaySession x.req.tunnelId x.req.source x.req.target = true)
    (hheld : x.holding = true →
      s.hasRelaySession x.req.tunnelId x.req.source x.req.target = true →
      Task.holding { x with phase := phase } = true ∨
        ∃ y ∈ s.others k, y.Between x.req.tunnelId x.req.source x.req.target ∧ y.holding = true) :
    (s.setPhase k x phase).Tracked where
  live y hy hl := by
    rcases (mem_setPhase hx).mp hy with rfl | hy
    · exact (hlive hl).elim (h.live x (List.mem_of_getElem? hx)) id
    · exact h.live y ((mem_tasks hx).mpr (.inr hy)) hl
  held key hkey := by
    obtain ⟨y, hy, hb, hh⟩ := h.held key hkey
    rcases (mem_tasks hx).mp hy with rfl | hy
    · have hhas : s.hasRelaySession y.req.tunnelId y.req.source y.req.target = true := by
        rw [← hasRelaySession_between hb]
        exact decide_eq_true (.inl hkey)
      rcases hheld hh hhas with hh' | ⟨z, hz, hbz, hhz⟩
      · exact ⟨_, (mem_setPhase hx).mpr (.inl rfl), hb, hh'⟩
      · refine ⟨z, (mem_setPhase hx).mpr (.inr hz), ?_, hhz⟩
        obtain ⟨hid, ⟨hs, ht⟩ | ⟨hs, ht⟩⟩ := hb
        · rw [← hid, ← hs, ← ht]
          exact hbz
        · rw [← hid, ← hs, ← ht]
          exact hbz.symm
    · exact ⟨y, (mem_setPhase hx).mpr (.inr hy), hb, hh⟩

/-- A step between phases that have nothing to do with the registry. -/
theorem Tracked.idle (h : s.Tracked) (hx : s.tasks[k]? = some x) {phase : Phase}
    (hlive : Task.live { x with phase := phase } = false) (hheld : x.holding = false) :
    (s.setPhase k x phase).Tracked :=
  h.move hx (fun hl => by rw [hlive] at hl; cases hl) fun hh => by rw [hheld] at hh; cases hh

theorem Tracked.registers (h : s.Tracked) (hx : s.tasks[k]? = some x)
    (hheld : x.holding = false) :
    ((s.registerRelaySession x.req.tunnelId x.req.source x.req.target).setPhase k x
      .registered).Tracked where
  live y hy hl := by
    rcases (mem_setPhase (s := s.registerRelaySession ..) hx).mp hy with rfl | hy
    · exact decide_eq_true (.inl (Finset.mem_insert_self ..))
    · have hold := of_decide_eq_true (h.live y ((mem_tasks hx).mpr (.inr hy)) hl)
      exact decide_eq_true
        (hold.imp (Finset.mem_insert_of_mem ·) (Finset.mem_insert_of_mem ·))
  held key hkey := by
    rcases Finset.mem_insert.mp hkey with rfl | hkey
    · exact ⟨_, (mem_setPhase (s := s.registerRelaySession ..) hx).mpr (.inl rfl),
        Task.between_self _, rfl⟩
    · obtain ⟨y, hy, hb, hh⟩ := h.held key hkey
      rcases (mem_tasks hx).mp hy with rfl | hy
      · rw [hheld] at hh
        cases hh
      · exact ⟨y, (mem_setPhase (s := s.registerRelaySession ..) hx).mpr (.inr hy), hb, hh⟩

theorem mem_unregister {id : TunnelId} {a b : P2pId} {key : PnRelaySessionKey} :
    key ∈ (s.unregisterRelaySession id a b).relaySessions ↔
      key ≠ ⟨id, b, a⟩ ∧ key ≠ ⟨id, a, b⟩ ∧ key ∈ s.relaySessions := by
  rw [unregisterRelaySession, Finset.mem_erase, Finset.mem_erase]

theorem Tracked.unregisters (h : s.Tracked) (hx : s.tasks[k]? = some x)
    (hno : ∀ y ∈ s.tasks, y.Between x.req.tunnelId x.req.source x.req.target → y.live = false) :
    ((s.unregisterRelaySession x.req.tunnelId x.req.source x.req.target).setPhase k x
      .done).Tracked where
  live y hy hl := by
    rcases (mem_setPhase (s := s.unregisterRelaySession ..) hx).mp hy with rfl | hy
    · cases hl
    · have hmem := (mem_tasks hx).mpr (.inr hy)
      have hb : ¬y.Between x.req.tunnelId x.req.source x.req.target := by
        intro hb
        rw [hno y hmem hb] at hl
        cases hl
      have hne : ∀ a b, (a = y.req.source ∧ b = y.req.target ∨ a = y.req.target ∧ b = y.req.source) →
          (⟨y.req.tunnelId, a, b⟩ : PnRelaySessionKey) ≠
            ⟨x.req.tunnelId, x.req.target, x.req.source⟩ ∧
          (⟨y.req.tunnelId, a, b⟩ : PnRelaySessionKey) ≠
            ⟨x.req.tunnelId, x.req.source, x.req.target⟩ := by
        intro a b hab
        constructor
        · intro heq
          injection heq with hid ha hb'
          exact hb ⟨hid, by rcases hab with ⟨rfl, rfl⟩ | ⟨rfl, rfl⟩ <;> simp [← ha, ← hb']⟩
        · intro heq
          injection heq with hid ha hb'
          exact hb ⟨hid, by rcases hab with ⟨rfl, rfl⟩ | ⟨rfl, rfl⟩ <;> simp [← ha, ← hb']⟩
      refine decide_eq_true ((of_decide_eq_true (h.live y hmem hl)).imp ?_ ?_)
      · intro hin
        obtain ⟨h1, h2⟩ := hne _ _ (.inl ⟨rfl, rfl⟩)
        exact mem_unregister.mpr ⟨h1, h2, hin⟩
      · intro hin
        obtain ⟨h1, h2⟩ := hne _ _ (.inr ⟨rfl, rfl⟩)
        exact mem_unregister.mpr ⟨h1, h2, hin⟩
  held key hkey := by
    obtain ⟨h1, h2, hkey⟩ := mem_unregister.mp hkey
    obtain ⟨y, hy, hb, hh⟩ := h.held key hkey
    rcases (mem_tasks hx).mp hy with rfl | hy
    · obtain ⟨hid, ⟨hs, ht⟩ | ⟨hs, ht⟩⟩ := hb
      · exact absurd (by rw [hid, hs, ht]) h2
      · exact absurd (by rw [hid, hs, ht]) h1
    · exact ⟨y, (mem_setPhase (s := s.unregisterRelaySession ..) hx).mpr (.inr hy), hb, hh⟩

/-- The order of the bridges of a tunnel: a control bridge starts when the session of its tunnel is
known, a data bridge that ends leaves another one behind, and when a control task takes the session
away no bridge of its tunnel runs. -/
def Orderly (s : PnService) : Event → Prop
  | .bridge k => ∀ x ∈ s.tasks[k]?, x.phase = .accepted → x.isControl = true →
      s.hasRelaySession x.req.tunnelId x.req.source x.req.target = true
  | .bridgeEnd k => ∀ x ∈ s.tasks[k]?, x.phase = .bridging → x.isControl = false →
      ∃ y ∈ s.others k, y.Between x.req.tunnelId x.req.source x.req.target ∧ y.holding = true
  | .unregister k => ∀ x ∈ s.tasks[k]?, x.phase = .ended →
      ∀ y ∈ s.tasks, y.Between x.req.tunnelId x.req.source x.req.target → y.live = false
  | _ => True

instance (s : PnService) (ev : Event) : Decidable (s.Orderly ev) := by
  unfold Orderly
  cases ev <;> infer_instance

theorem Tracked.run (h : s.Tracked) (hx : s.tasks[k]? = some x) (ev : Event)
    (hbridge : (∃ j, ev = .bridge j) → x.phase = .accepted → x.isControl = true →
      s.hasRelaySession x.req.tunnelId x.req.source x.req.target = true)
    (hend : (∃ j, ev = .bridgeEnd j) → x.phase = .bridging → x.isControl = false →
      ∃ y ∈ s.others k, y.Between x.req.tunnelId x.req.source x.req.target ∧ y.holding = true)
    (hgone : (∃ j, ev = .unregister j) → x.phase = .ended → ∀ y ∈ s.tasks,
      y.Between x.req.tunnelId x.req.source x.req.target → y.live = false) :
    (s.run k x ev).Tracked := by
  cases ev with
  | arrives isControl peer req => exact h
  | validated j answer =>
    simp only [PnService.run]
    split_ifs with hp
    · refine h.idle hx ?_ (by simp [Task.holding, Task.live, hp])
      rcases answer with code | _ | reason <;> rfl
    · exact h
  | opened j answer =>
    simp only [PnService.run]
    split_ifs with hp
    · refine h.idle hx ?_ (by simp [Task.holding, Task.live, hp])
      rcases answer with code | u <;> rfl
    · exact h
  | answered j answer =>
    simp only [PnService.run]
    split_ifs with hp
    · refine h.idle hx ?_ (by simp [Task.holding, Task.live, hp])
      rcases bridgeReady x.req.tunnelId answer with code | result <;> rfl
    · exact h
  | replied j =>
    simp only [PnService.run]
    split
    next result hp =>
      refine h.idle hx ?_ (by simp [Task.holding, Task.live, hp])
      split_ifs <;> rfl
    next => exact h
  | register j =>
    simp only [PnService.run]
    split_ifs with hp
    · exact h.registers hx (by simp [Task.holding, Task.live, hp.1])
    · exact h
  | bridge j =>
    simp only [PnService.run]
    split_ifs with hp
    · refine h.move hx (fun _ => ?_) fun _ _ => .inl rfl
      rcases hp with ⟨hp, hc⟩ | hp
      · exact .inr (hbridge ⟨j, rfl⟩ hp hc)
      · exact .inl (by simp [Task.live, hp])
    · exact h
  | bridgeEnd j =>
    simp only [PnService.run]
    split_ifs with hp hc
    · exact h.move hx (fun hl => by cases hl) fun _ _ => .inl rfl
    · exact h.move hx (fun hl => by cases hl) fun _ _ =>
        .inr (hend ⟨j, rfl⟩ hp (Bool.not_eq_true _ ▸ hc))
    · exact h
  | unregister j =>
    simp only [PnService.run]
    split_ifs with hp
    · exact h.unregisters hx (hgone ⟨j, rfl⟩ hp)
    · exact h

theorem Tracked.opens (h : s.Tracked) (isControl : Bool) (req : ProxyOpenReq) :
    (s.opens isControl req).Tracked where
  live y hy hl := by
    rcases List.mem_append.mp hy with hy | hy
    · exact h.live y hy hl
    · rw [List.mem_singleton.mp hy] at hl
      dsimp only [Task.live] at hl
      split_ifs at hl <;> cases hl
  held key hkey := by
    obtain ⟨y, hy, hb, hh⟩ := h.held key hkey
    exact ⟨y, List.mem_append_left _ hy, hb, hh⟩

theorem Tracked.step (h : s.Tracked) {ev : Event} (hord : s.Orderly ev) : (s.step ev).Tracked := by
  have htask : ∀ k, (∀ x, s.tasks[k]? = some x → (s.run k x ev).Tracked) →
      (match s.tasks[k]? with | some x => s.run k x ev | none => s).Tracked := by
    intro k hrun
    cases hx : s.tasks[k]? with
    | some x => exact hrun x hx
    | none => exact h
  cases ev with
  | arrives isControl peer req => exact h.opens isControl _
  | bridge k =>
    refine htask k fun x hx => h.run hx _ (fun _ => hord x hx) ?_ ?_
    · rintro ⟨j, ⟨⟩⟩
    · rintro ⟨j, ⟨⟩⟩
  | bridgeEnd k =>
    refine htask k fun x hx => h.run hx _ ?_ (fun _ => hord x hx) ?_
    · rintro ⟨j, ⟨⟩⟩
    · rintro ⟨j, ⟨⟩⟩
  | unregister k =>
    refine htask k fun x hx => h.run hx _ ?_ ?_ fun _ => hord x hx
    · rintro ⟨j, ⟨⟩⟩
    · rintro ⟨j, ⟨⟩⟩
  | validated k answer | opened k answer | answered k answer | replied k | register k =>
    refine htask k fun x hx => h.run hx _ ?_ ?_ ?_
    · rintro ⟨j, ⟨⟩⟩
    · rintro ⟨j, ⟨⟩⟩
    · rintro ⟨j, ⟨⟩⟩

theorem tracked_exec {evs : List Event} (h : Along step Orderly .init evs) :
    (exec step .init evs).Tracked :=
  exec_inv (fun _ _ hI hC => hI.step hC) tracked_init h

/-- No task is between the start or the end of its bridge and its update of the registry. -/
def Quiet (s : PnService) : Prop := ∀ x ∈ s.tasks, x.phase ≠ .registered ∧ x.phase ≠ .ended

instance (s : PnService) : Decidable s.Quiet := by
  unfold Quiet
  infer_instance

/-- A bridge of the tunnel `id` between `a` and `b` runs. -/
def Running (s : PnService) (id : TunnelId) (a b : P2pId) : Prop :=
  ∃ x ∈ s.tasks, x.Between id a b ∧ x.phase = .bridging

instance (s : PnService) (id : TunnelId) (a b : P2pId) : Decidable (s.Running id a b) := by
  unfold Running
  infer_instance

theorem Tracked.has_iff (h : s.Tracked) (hquiet : s.Quiet) (id : TunnelId) (a b : P2pId) :
    s.hasRelaySession id a b = true ↔ s.Running id a b := by
  constructor
  · intro hhas
    obtain ⟨x, hx, hb, hh⟩ := h.holder hhas
    obtain ⟨hreg, hended⟩ := hquiet x hx
    refine ⟨x, hx, hb, ?_⟩
    simpa [Task.holding, Task.live, hreg, hended] using hh
  · rintro ⟨x, hx, hb, hp⟩
    rw [hasRelaySession_between hb]
    exact h.live x hx (by simp [Task.live, hp])

/-- `Orderly` asks for no more than it must: a step out of order that leads to a quiet state leads
to one where some session is known without a bridge, or the other way. -/
theorem Tracked.astray (h : s.Tracked) {ev : Event} (hord : ¬s.Orderly ev)
    (hquiet : (s.step ev).Quiet) :
    ∃ id a b, ¬((s.step ev).hasRelaySession id a b = true ↔ (s.step ev).Running id a b) := by
  cases ev with
  | bridge k =>
    simp only [Orderly, Option.mem_def, not_forall] at hord
    obtain ⟨x, hx, hp, hc, hno⟩ := hord
    have hs : s.step (.bridge k) = s.setPhase k x .bridging := by
      simp only [PnService.step, hx, PnService.run]
      rw [if_pos (.inl ⟨hp, hc⟩)]
    rw [hs]
    refine ⟨x.req.tunnelId, x.req.source, x.req.target, fun hiff => hno (hiff.mpr ?_)⟩
    exact ⟨_, (mem_setPhase hx).mpr (.inl rfl), x.between_self, rfl⟩
  | bridgeEnd k =>
    simp only [Orderly, Option.mem_def, not_forall] at hord
    obtain ⟨x, hx, hp, hc, hno⟩ := hord
    have hs : s.step (.bridgeEnd k) = s.setPhase k x .done := by
      simp only [PnService.step, hx, PnService.run]
      rw [if_pos hp, if_neg (by simp [hc])]
    rw [hs]
    have hhas := h.live x (List.mem_of_getElem? hx) (by simp [Task.live, hp])
    refine ⟨x.req.tunnelId, x.req.source, x.req.target, fun hiff => hno ?_⟩
    obtain ⟨y, hy, hb, hrun⟩ := hiff.mp hhas
    rcases (mem_setPhase hx).mp hy with rfl | hy
    · cases hrun
    · exact ⟨y, hy, hb, Task.holding_of_live (by simp [Task.live, hrun])⟩
  | unregister k =>
    simp only [Orderly, Option.mem_def, not_forall, Bool.not_eq_false] at hord
    obtain ⟨x, hx, hp, y, hy, hb, hl⟩ := hord
    have hs : s.step (.unregister k) =
        (s.unregisterRelaySession x.req.tunnelId x.req.source x.req.target).setPhase k x .done := by
      simp only [PnService.step, hx, PnService.run]
      rw [if_pos hp]
    rw [hs] at hquiet ⊢
    have hne : y ≠ x := by
      rintro rfl
      simp [Task.live, hp] at hl
    have hmem : y ∈ ((s.unregisterRelaySession x.req.tunnelId x.req.source
        x.req.target).setPhase k x .done).tasks := (mem_setPhase hx).mpr
      (.inr (((mem_tasks hx).mp hy).resolve_left hne))
    have hrun : y.phase = .bridging := by
      simpa [Task.live, (hquiet y hmem).1] using hl
    refine ⟨x.req.tunnelId, x.req.source, x.req.target, fun hiff => ?_⟩
    have hhas := of_decide_eq_true (hiff.mpr ⟨y, hmem, hb, hrun⟩)
    rcases hhas with hin | hin
    · exact (mem_unregister.mp hin).2.1 rfl
    · exact (mem_unregister.mp hin).1 rfl
  | arrives isControl peer req => exact absurd trivial hord
  | validated k answer | opened k answer | answered k answer | replied k | register k =>
    exact absurd trivial hord

/-- A data request goes past the validator if and only if its session is known. -/
theorem opens_skips (s : PnService) (req : ProxyOpenReq) :
    (s.opens false req).tasks = s.tasks ++ [⟨false, req, .opening⟩] ↔
      s.hasRelaySession req.tunnelId req.source req.target = true := by
  rw [opens, List.append_cancel_left_eq, Bool.not_false, Bool.true_and]
  split_ifs with hknown
  · simp [hknown]
  · simp [hknown]

/-- After every run with bridges in that order, in a quiet state: a session is known if and only if
a bridge of its tunnel runs, and a data request of either end goes past the validator if and only if
a bridge of its tunnel runs. -/
theorem sessions_follow_bridges (evs : List Event) (h : Along step Orderly .init evs)
    (hquiet : (exec step .init evs).Quiet) :
    (∀ id a b, (exec step .init evs).hasRelaySession id a b = true ↔
      (exec step .init evs).Running id a b) ∧
    ∀ (peer : P2pId) (req : ProxyOpenReq),
      ((exec step .init evs).step (.arrives false peer req)).tasks =
          (exec step .init evs).tasks ++ [⟨false, { req with source := peer }, .opening⟩] ↔
        (exec step .init evs).Running req.tunnelId peer req.target := by
  have htrack := tracked_exec h
  refine ⟨htrack.has_iff hquiet, fun peer req => ?_⟩
  rw [← htrack.has_iff hquiet]
  exact opens_skips _ _

/-- The steps of task `k` up to its accepted response. -/
def accepting (k : Nat) (id : TunnelId) : List Event :=
  [.validated k (.ok .accept), .opened k (.ok ()), .answered k (.ok ⟨id, 0⟩), .replied k]

/-- A tunnel whose first bridge is a data bridge and whose last one is its control bridge. -/
def orderly : List Event :=
  [.arrives false [1] ⟨5, [9], [2]⟩] ++ accepting 0 5 ++ [.register 0, .bridge 0] ++
    [.arrives true [1] ⟨5, [1], [2]⟩] ++ accepting 1 5 ++ [.bridge 1, .bridgeEnd 0]

theorem sessions_follow_bridges_orderly :
    (exec step .init orderly).hasRelaySession 5 [2] [1] = true ∧
      ((exec step .init orderly).step (.arrives false [2] ⟨5, [2], [1]⟩)).tasks =
        (exec step .init orderly).tasks ++ [⟨false, ⟨5, [2], [1]⟩, .opening⟩] := by
  obtain ⟨hhas, hskip⟩ := sessions_follow_bridges orderly (by decide +kernel) (by decide +kernel)
  exact ⟨(hhas 5 [2] [1]).mpr (by decide +kernel), (hskip [2] ⟨5, [2], [1]⟩).mpr (by decide +kernel)⟩

/-- A control bridge runs; the other end opens a channel and is refused by the validator. -/
def refused : List Event :=
  [.arrives true [1] ⟨5, [1], [2]⟩] ++ accepting 0 5 ++ [.bridge 0]

/-- The only bridge of a tunnel, a data bridge, has ended. -/
def left : List Event :=
  [.arrives false [1] ⟨5, [1], [2]⟩] ++ accepting 0 5 ++ [.register 0, .bridge 0, .bridgeEnd 0]

/-- The control bridge of a tunnel ends while a data bridge runs. -/
def taken : List Event := orderly.dropLast ++ [.bridgeEnd 1, .unregister 1]

/-- A running control bridge without a session, with the channel that is refused for it; a session
without a bridge, with the request that goes past the validator for it; a running data bridge whose
session was taken away. -/
theorem sessions_astray :
    ((exec step .init refused).Quiet ∧ (exec step .init refused).Running 5 [2] [1] ∧
      (exec step .init refused).hasRelaySession 5 [2] [1] = false ∧
      (exec step .init (refused ++ [.arrives false [2] ⟨5, [2], [1]⟩,
        .validated 1 (.ok (.reject "target is not assigned to this pn server"))])).tasks[1]? =
          some ⟨false, ⟨5, [2], [1]⟩, .replying .invalidParam⟩) ∧
    ((exec step .init left).Quiet ∧ ¬(exec step .init left).Running 5 [1] [2] ∧
      (exec step .init left).hasRelaySession 5 [1] [2] = true ∧
      (exec step .init (left ++ [.arrives false [1] ⟨5, [1], [2]⟩])).tasks[1]? =
        some ⟨false, ⟨5, [1], [2]⟩, .opening⟩) ∧
    ((exec step .init taken).Quiet ∧ (exec step .init taken).Running 5 [1] [2] ∧
      (exec step .init taken).hasRelaySession 5 [1] [2] = false) := by
  decide +kernel

end PnService

end BuckyP2p.Pn
