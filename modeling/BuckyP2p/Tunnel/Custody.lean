import BuckyP2p.Tunnel.Incoming
import BuckyP2p.Tunnel.Storage

/-!
# BuckyP2p.Tunnel.Custody — where a tunnel that was accepted is

A tunnel for which `on_incoming_tunnel` has returned `Ok(true)` is with a waiter that was notified of
it, with the task that will register it, among the tunnels of the manager, or closed (`Custody`).
It is lost when one who was notified goes away before the tunnel is registered, and when the manager
forgets a tunnel that is down and was not closed.
-/

namespace BuckyP2p.Tunnel

open Lib

namespace IncomingSystem

/-- A waiter was notified of the tunnel, or the task that waited is about to register it. -/
def Awaited (s : IncomingSystem) (tunnel : TunnelRef) : Prop :=
  (∃ waiter, s.receivers.lookup waiter = some (some tunnel)) ∨
    ∃ i, s.tasks.lookup i = some (.holding tunnel .waiter)

/-- The tunnel is held by a task, or by the waiter that a task awaits. -/
def Held (s : IncomingSystem) (tunnel : TunnelRef) : Prop :=
  (∃ waiter, s.receivers.lookup waiter = some (some tunnel)) ∨
    ∃ i task, s.tasks.lookup i = some task ∧ task.tunnel? = some tunnel

theorem Awaited.held {s : IncomingSystem} {tunnel : TunnelRef} (h : s.Awaited tunnel) :
    s.Held tunnel := by
  rcases h with hreceiver | ⟨i, htask⟩
  · exact .inl hreceiver
  · exact .inr ⟨i, _, htask, rfl⟩

/-- The tunnels that were accepted, and those that `on_incoming_tunnel` is about to accept. -/
def tracked (s : IncomingSystem) : List Nat :=
  s.accepted.map TunnelRef.handle ++ s.tasks.collect fun
    | .registered tunnel .incoming => [tunnel.handle]
    | _ => []

/-- The waiter has not been notified. -/
def hasNothing (s : IncomingSystem) (waiter : Nat) : Bool :=
  ((s.receivers.lookup waiter).bind id).isNone

/-- No task lets go of a tunnel that is not yet registered, and the manager forgets no tunnel that
is down and was not closed. -/
def keepsTask (s : IncomingSystem) (task : Task) (step : TaskStep) : Bool :=
  match task, step with
  | .notifying waiter _, .notify => s.receivers.lookup waiter = some none
  | .waiting wait, .timeout => s.hasNothing wait.waiter
  | .waiting wait, .cancel => s.hasNothing wait.waiter
  | .dropping wait, .drop => s.hasNothing wait.waiter
  | .holding tunnel .waiter, .cancel => s.manager.Safe tunnel
  | .holding tunnel registrant, .register _ _ _ _ =>
    s.manager.prunesClosed s.tracked tunnel.remoteId &&
      (registrant = .incoming || !isDefault tunnel.remoteId || tunnel.handle ∈ s.manager.closed)
  | _, _ => true

def keeps (s : IncomingSystem) : IncomingOp → Bool
  | .task i step => (s.tasks.lookup i).all fun task => s.keepsTask task step
  | .upgrade op => s.upgrades.prunesClosed s.tracked op
  | _ => true

end IncomingSystem

structure Custody (s : IncomingSystem) : Prop where
  accepted : ∀ tunnel ∈ s.accepted, s.Awaited tunnel ∨ s.manager.Safe tunnel
  registered : ∀ i tunnel, s.tasks.lookup i = some (.registered tunnel .incoming) →
    s.manager.Safe tunnel ∨ isDefault tunnel.remoteId = true
  vacant : ∀ remoteId, isDefault remoteId = true → s.manager.entriesOf remoteId = []

namespace Custody

variable {s s' : IncomingSystem}

theorem new (initialInterval : Nat) : Custody (.new initialInterval) where
  accepted tunnel h := by cases h
  registered i tunnel h := by cases h
  vacant remoteId _ := rfl

theorem safe_of_keeps {handles : List Nat} {m m' : TunnelManager} (hkeeps : KeepsStored handles m m')
    {tunnel : TunnelRef} (hmem : tunnel.handle ∈ handles) (h : m.Safe tunnel) : m'.Safe tunnel := by
  rcases h with hstored | hclosed
  · exact hkeeps.stored tunnel.remoteId tunnel.handle hmem hstored
  · exact .inr (hkeeps.closed tunnel.handle hclosed)

theorem mem_tracked_accepted {tunnel : TunnelRef} (h : tunnel ∈ s.accepted) :
    tunnel.handle ∈ s.tracked :=
  List.mem_append_left _ (List.mem_map_of_mem h)

theorem mem_tracked_registered {i : Nat} {tunnel : TunnelRef}
    (h : s.tasks.lookup i = some (.registered tunnel .incoming)) : tunnel.handle ∈ s.tracked :=
  List.mem_append_right _ (Table.mem_collect.mpr ⟨i, _, h, List.mem_singleton_self _⟩)

/-- What a step has to meet. -/
theorem of_step (h : Custody s) (hkeeps : KeepsStored s.tracked s.manager s'.manager)
    (haccepted : ∀ tunnel ∈ s'.accepted, tunnel ∈ s.accepted ∨ s'.Awaited tunnel ∨
      s'.manager.Safe tunnel)
    (hawaited : ∀ tunnel ∈ s.accepted, s.Awaited tunnel → s'.Awaited tunnel ∨
      s'.manager.Safe tunnel)
    (hregistered : ∀ i tunnel, s'.tasks.lookup i = some (.registered tunnel .incoming) →
      s.tasks.lookup i = some (.registered tunnel .incoming) ∨ s'.manager.Safe tunnel ∨
        isDefault tunnel.remoteId = true) : Custody s' where
  accepted tunnel hmem := by
    rcases haccepted tunnel hmem with hbefore | hnew
    · rcases h.accepted tunnel hbefore with hawaits | hsafe
      · exact hawaited tunnel hbefore hawaits
      · exact .inr (safe_of_keeps hkeeps (mem_tracked_accepted hbefore) hsafe)
    · exact hnew
  registered i tunnel htask := by
    rcases hregistered i tunnel htask with hbefore | hnew
    · rcases h.registered i tunnel hbefore with hsafe | hdefault
      · exact .inl (safe_of_keeps hkeeps (mem_tracked_registered hbefore) hsafe)
      · exact .inr hdefault
    · exact hnew
  vacant remoteId hdefault := hkeeps.vacant remoteId hdefault (h.vacant remoteId hdefault)

/-- A task goes from one state to another. -/
theorem turn (h : Custody s) {i : Nat} {old : Task} (htask : s.tasks.lookup i = some old)
    (htasks : ∀ j, j ≠ i → s'.tasks.lookup j = s.tasks.lookup j)
    (hkeeps : KeepsStored s.tracked s.manager s'.manager)
    (haccepted : ∀ tunnel ∈ s'.accepted, tunnel ∈ s.accepted ∨ s'.Awaited tunnel ∨
      s'.manager.Safe tunnel)
    (hreceivers : ∀ waiter tunnel, s.receivers.lookup waiter = some (some tunnel) →
      s'.Awaited tunnel)
    (hold : ∀ tunnel, old = .holding tunnel .waiter → s'.manager.Safe tunnel)
    (hnew : ∀ tunnel, s'.tasks.lookup i = some (.registered tunnel .incoming) →
      s'.manager.Safe tunnel ∨ isDefault tunnel.remoteId = true) : Custody s' := by
  refine h.of_step hkeeps haccepted (fun tunnel _ hawaits => ?_) fun j tunnel hj => ?_
  · rcases hawaits with ⟨waiter, hwaiter⟩ | ⟨j, hj⟩
    · exact .inl (hreceivers waiter tunnel hwaiter)
    · by_cases hji : j = i
      · subst hji
        exact .inr (hold tunnel (Option.some.inj (htask.symm.trans hj)))
      · exact .inl (.inr ⟨j, (htasks j hji).trans hj⟩)
  · by_cases hji : j = i
    · subst hji
      exact .inr (hnew tunnel hj)
    · exact .inl ((htasks j hji).symm.trans hj)

/-- A task goes on that holds no tunnel which it would have to register. -/
theorem quiet (h : Custody s) {i : Nat} {old : Task} (htask : s.tasks.lookup i = some old)
    (htasks : ∀ j, j ≠ i → s'.tasks.lookup j = s.tasks.lookup j)
    (hmanager : s'.manager = s.manager) (haccepted : s'.accepted = s.accepted)
    (hreceivers : ∀ waiter tunnel, s.receivers.lookup waiter = some (some tunnel) →
      s'.receivers.lookup waiter = some (some tunnel))
    (hold : ∀ tunnel, old ≠ .holding tunnel .waiter)
    (hnew : ∀ tunnel, s'.tasks.lookup i ≠ some (.registered tunnel .incoming)) : Custody s' := by
  refine h.turn htask htasks ?_ (fun tunnel hmem => .inl ?_)
    (fun waiter tunnel hwaiter => .inl ⟨waiter, hreceivers waiter tunnel hwaiter⟩)
    (fun tunnel heq => absurd heq (hold tunnel)) fun tunnel heq => absurd heq (hnew tunnel)
  · rw [hmanager]
    exact .of_eq rfl rfl
  · rw [← haccepted]
    exact hmem

theorem become_other {i j : Nat} {task : Task} (hne : j ≠ i) :
    (s.become i task).tasks.lookup j = s.tasks.lookup j := AList.lookup_insert_ne hne

theorem finish_other {i j : Nat} (hne : j ≠ i) :
    (s.finish i).tasks.lookup j = s.tasks.lookup j := AList.lookup_erase_ne hne

theorem become_self {i : Nat} {task task' : Task} (h : (s.become i task).tasks.lookup i = some task') :
    task = task' := Option.some.inj ((AList.lookup_insert s.tasks).symm.trans h)

theorem finish_self {i : Nat} {task : Task} : (s.finish i).tasks.lookup i ≠ some task := by
  intro h
  have hnone : (s.finish i).tasks.lookup i = none := AList.lookup_erase _ _
  rw [hnone] at h
  cases h

theorem dropWaiter_lookup {waiter w : Nat} {tunnel : TunnelRef} (h : s.hasNothing waiter = true)
    (hw : s.receivers.lookup w = some (some tunnel)) :
    (s.dropWaiter waiter).receivers.lookup w = some (some tunnel) := by
  have hne : w ≠ waiter := by
    intro heq
    subst heq
    unfold IncomingSystem.hasNothing at h
    rw [hw] at h
    cases h
  exact (AList.lookup_erase_ne hne).trans hw

section Tasks

variable {i : Nat} {tunnel : TunnelRef}

/-- A task drops its waiter, which was not notified. -/
theorem dropsWaiter (h : Custody s) {wait : Registration} {old new : Task}
    (htask : s.tasks.lookup i = some old) (hold : ∀ tunnel, old ≠ .holding tunnel .waiter)
    (hnothing : s.hasNothing wait.waiter = true) (hnew : ∀ tunnel, new ≠ .registered tunnel .incoming) :
    Custody ((s.dropWaiter wait.waiter).become i new) := by
  refine h.quiet htask (fun j hne => become_other hne) rfl rfl
    (fun w tunnel hw => dropWaiter_lookup hnothing hw) hold fun tunnel heq => ?_
  exact hnew tunnel (become_self heq)

/-- The waiter gives the tunnel to the task. -/
theorem receive (h : Custody s) {wait : Registration}
    (htask : s.tasks.lookup i = some (.waiting wait))
    (hvalue : s.receivers.lookup wait.waiter = some (some tunnel)) :
    Custody ((s.dropWaiter wait.waiter).become i (.holding tunnel .waiter)) := by
  refine h.turn htask (fun j hne => become_other hne) (.of_eq rfl rfl) (fun _ hmem => .inl hmem)
    (fun w tunnel' hw => ?_) (fun _ heq => by cases heq) fun tunnel' heq => ?_
  · by_cases hwait : w = wait.waiter
    · subst hwait
      obtain rfl : tunnel = tunnel' := Option.some.inj (Option.some.inj (hvalue.symm.trans hw))
      exact .inr ⟨i, AList.lookup_insert _⟩
    · exact .inl ⟨w, (AList.lookup_erase_ne hwait).trans hw⟩
  · cases become_self heq

theorem notify (h : Custody s) {waiter : Nat}
    (htask : s.tasks.lookup i = some (.notifying waiter tunnel))
    (hlive : s.receivers.lookup waiter = some none) :
    Custody (((s.notify waiter tunnel).accept tunnel).finish i) := by
  have hnotify : s.notify waiter tunnel =
      { s with receivers := s.receivers.insert waiter (some tunnel) } := by
    unfold IncomingSystem.notify
    rw [hlive]
  rw [hnotify]
  refine h.turn htask (fun j hne => finish_other hne) (.of_eq rfl rfl) (fun t hmem => ?_)
    (fun w t hw => ?_) (fun _ heq => by cases heq) fun _ heq => absurd heq finish_self
  · rcases List.mem_cons.mp hmem with rfl | hbefore
    · exact .inr (.inl (.inl ⟨waiter, AList.lookup_insert _⟩))
    · exact .inl hbefore
  · have hne : w ≠ waiter := by
      intro heq
      subst heq
      rw [hlive] at hw
      cases hw
    exact .inl ⟨w, (AList.lookup_insert_ne hne).trans hw⟩

theorem register (h : Custody s) {registrant : Registrant}
    (htask : s.tasks.lookup i = some (.holding tunnel registrant))
    (hprunes : s.manager.prunesClosed s.tracked tunnel.remoteId = true)
    (hkept : registrant = .incoming ∨ isDefault tunnel.remoteId = false ∨
      tunnel.handle ∈ s.manager.closed) (now : Nat) (closing₁ closing₂ closing₃ : List Nat) :
    Custody (s.taskStep i (.holding tunnel registrant)
      (.register now closing₁ closing₂ closing₃)) := by
  have hkeeps := KeepsStored.registerTunnel hprunes now closing₁ closing₂ closing₃
  have hsafe : registrant = .incoming ∨ (s.manager.registerTunnel now tunnel closing₁ closing₂
      closing₃).2.Safe tunnel := by
    rcases hkept with hincoming | hnot | hclosed
    · exact .inl hincoming
    · exact .inr (TunnelManager.registerTunnel_safe hnot now closing₁ closing₂ closing₃)
    · exact .inr (.inr (hkeeps.closed _ hclosed))
  have hold : ∀ t, Task.holding tunnel registrant = .holding t .waiter →
      (s.manager.registerTunnel now tunnel closing₁ closing₂ closing₃).2.Safe t := by
    intro t heq
    obtain ⟨rfl, rfl⟩ := Task.holding.inj heq
    exact hsafe.resolve_left Registrant.noConfusion
  unfold IncomingSystem.taskStep
  dsimp only
  split
  · next t hok =>
    refine h.turn htask (fun j hne => become_other hne) hkeeps (fun _ hmem => .inl hmem)
      (fun w t hw => .inl ⟨w, hw⟩) hold fun t' heq => ?_
    obtain ⟨rfl, -⟩ := Task.registered.inj (become_self heq)
    obtain rfl := TunnelManager.registerTunnel_ok hok
    cases hdefault : isDefault t.remoteId with
    | true => exact .inr rfl
    | false =>
      exact .inl (TunnelManager.registerTunnel_safe hdefault now closing₁ closing₂ closing₃)
  · exact h.turn htask (fun j hne => finish_other hne) hkeeps (fun _ hmem => .inl hmem)
      (fun w t hw => .inl ⟨w, hw⟩) hold fun _ heq => absurd heq finish_self

theorem publish (h : Custody s) {registrant : Registrant}
    (htask : s.tasks.lookup i = some (.registered tunnel registrant)) (now : Nat) :
    Custody (s.taskStep i (.registered tunnel registrant) (.publish now)) := by
  have hkeeps : KeepsStored s.tracked s.manager (s.manager.publishRegisteredTunnel now tunnel).2 :=
    KeepsStored.publishRegisteredTunnel now tunnel
  have hold : ∀ t, Task.registered tunnel registrant = .holding t .waiter →
      (s.manager.publishRegisteredTunnel now tunnel).2.Safe t := by
    intro t heq
    cases heq
  unfold IncomingSystem.taskStep
  dsimp only
  split
  · next hok =>
    refine h.turn htask (fun j hne => finish_other hne) hkeeps (fun t hmem => ?_)
      (fun w t hw => .inl ⟨w, hw⟩) hold fun _ heq => absurd heq finish_self
    rcases List.mem_cons.mp hmem with rfl | hbefore
    · rcases h.registered i t htask with hsafe | hdefault
      · exact .inr (.inr (safe_of_keeps hkeeps (mem_tracked_registered htask) hsafe))
      · -- nothing is stored for the default id, so that nothing can be published for it
        rw [TunnelManager.publishRegisteredTunnel_vacant (h.vacant t.remoteId hdefault)] at hok
        cases hok
    · exact .inl hbefore
  · refine h.turn htask (fun j hne => become_other hne) hkeeps (fun _ hmem => .inl hmem)
      (fun w t hw => .inl ⟨w, hw⟩) hold fun t heq => ?_
    cases become_self heq
  · exact h.turn htask (fun j hne => finish_other hne) hkeeps (fun _ hmem => .inl hmem)
      (fun w t hw => .inl ⟨w, hw⟩) hold fun _ heq => absurd heq finish_self

/-- A task ends with nothing that it would have to register. -/
theorem finishes (h : Custody s) {old : Task} (htask : s.tasks.lookup i = some old)
    (hold : ∀ tunnel, old ≠ .holding tunnel .waiter) : Custody (s.finish i) :=
  h.quiet htask (fun _ hne => finish_other hne) rfl rfl (fun _ _ hw => hw) hold
    fun _ => finish_self

theorem taskStep (h : Custody s) {task : Task} (htask : s.tasks.lookup i = some task)
    {step : TaskStep} (hkept : s.keepsTask task step = true) : Custody (s.taskStep i task step) := by
  cases task with
  | calling wait =>
    have hgo : ∀ new : Task, (∀ tunnel, new ≠ .registered tunnel .incoming) →
        Custody ((s.unregister wait).become i new) := by
      intro new hnew
      refine h.quiet htask (fun j hne => become_other hne) rfl rfl (fun _ _ hw => hw)
        (fun _ heq => by cases heq) fun tunnel heq => hnew tunnel (become_self heq)
    cases step with
    | called ok =>
      cases ok with
      | true =>
        refine h.quiet htask (fun j hne => become_other hne) rfl rfl (fun _ _ hw => hw)
          (fun _ heq => by cases heq) fun tunnel heq => ?_
        cases become_self heq
      | false => exact hgo _ fun _ heq => by cases heq
    | cancel => exact hgo _ fun _ heq => by cases heq
    | _ => exact h
  | waiting wait =>
    cases step with
    | receive =>
      unfold IncomingSystem.taskStep
      dsimp only
      split
      · next hvalue => exact h.receive htask hvalue
      · exact h
    | timeout =>
      exact h.dropsWaiter htask (fun _ heq => by cases heq) hkept fun _ heq => by cases heq
    | cancel =>
      exact h.dropsWaiter htask (fun _ heq => by cases heq) hkept fun _ heq => by cases heq
    | _ => exact h
  | unregistering wait =>
    cases step with
    | drop =>
      exact h.quiet htask (fun j hne => finish_other hne) rfl rfl (fun _ _ hw => hw)
        (fun _ heq => by cases heq) fun _ => finish_self
    | _ => exact h
  | dropping wait =>
    cases step with
    | drop =>
      exact h.quiet htask (fun _ hne => finish_other hne) rfl rfl
        (fun _ _ hw => dropWaiter_lookup hkept hw) (fun _ heq => by cases heq) fun _ => finish_self
    | _ => exact h
  | notifying waiter tunnel =>
    cases step with
    | notify => exact h.notify htask (by simpa [IncomingSystem.keepsTask] using hkept)
    | _ => exact h
  | holding tunnel registrant =>
    cases step with
    | register now closing₁ closing₂ closing₃ =>
      have hkept' : (s.manager.prunesClosed s.tracked tunnel.remoteId && (registrant = .incoming ||
          !isDefault tunnel.remoteId || tunnel.handle ∈ s.manager.closed)) = true := by
        cases registrant with
        | waiter => exact hkept
        | incoming => exact hkept
      simp only [Bool.and_eq_true, Bool.or_eq_true, decide_eq_true_eq, Bool.not_eq_true',
        or_assoc] at hkept'
      exact h.register htask hkept'.1 hkept'.2 now closing₁ closing₂ closing₃
    | cancel =>
      cases registrant with
      | waiter =>
        refine h.turn htask (fun j hne => finish_other hne) (.of_eq rfl rfl)
          (fun _ hmem => .inl hmem) (fun w t hw => .inl ⟨w, hw⟩) (fun t heq => ?_)
          fun _ heq => absurd heq finish_self
        obtain ⟨rfl, -⟩ := Task.holding.inj heq
        exact of_decide_eq_true hkept
      | incoming => exact h.finishes htask fun _ heq => by cases heq
    | _ => exact h
  | registered tunnel registrant =>
    cases step with
    | publish now => exact h.publish htask now
    | _ => exact h
  | caching tunnel =>
    cases step with
    | cached => exact h.finishes htask fun _ heq => by cases heq
    | cancel => exact h.finishes htask fun _ heq => by cases heq
    | _ => exact h

end Tasks

end Custody

/-- Tasks and waiters have the numbers that were given out. -/
structure Numbered (s : IncomingSystem) : Prop where
  tasks : ∀ i task, s.tasks.lookup i = some task → i < s.made
  receivers : ∀ waiter value, s.receivers.lookup waiter = some value → waiter < s.made

namespace Numbered

variable {s : IncomingSystem}

theorem new (initialInterval : Nat) : Numbered (.new initialInterval) where
  tasks i task h := by cases h
  receivers waiter value h := by cases h

/-- An existing task goes on or ends. -/
theorem turn (h : Numbered s) {s' : IncomingSystem} {i : Nat} {old : Task}
    (htask : s.tasks.lookup i = some old) (hmade : s'.made = s.made)
    (htasks : ∀ j, j ≠ i → s'.tasks.lookup j = s.tasks.lookup j)
    (hreceivers : ∀ waiter value, s'.receivers.lookup waiter = some value →
      ∃ value', s.receivers.lookup waiter = some value') : Numbered s' := by
  refine ⟨fun j task hj => ?_, fun waiter value hw => ?_⟩
  · rw [hmade]
    by_cases hji : j = i
    · subst hji
      exact h.tasks j old htask
    · exact h.tasks j task ((htasks j hji).symm.trans hj)
  · rw [hmade]
    obtain ⟨value', hw'⟩ := hreceivers waiter value hw
    exact h.receivers waiter value' hw'

theorem dropWaiter_some {waiter w : Nat} {value : Option TunnelRef}
    (h : (s.dropWaiter waiter).receivers.lookup w = some value) :
    ∃ value', s.receivers.lookup w = some value' := by
  unfold IncomingSystem.dropWaiter at h
  dsimp only at h
  exact ⟨value, (Table.lookup_erase_some.mp h).2⟩

theorem notify_some {waiter w : Nat} {tunnel : TunnelRef} {value : Option TunnelRef}
    (h : (s.notify waiter tunnel).receivers.lookup w = some value) :
    ∃ value', s.receivers.lookup w = some value' := by
  unfold IncomingSystem.notify at h
  split at h
  · next hlive =>
    dsimp only at h
    by_cases hw : w = waiter
    · exact ⟨none, by rw [hw]; exact hlive⟩
    · rw [AList.lookup_insert_ne hw] at h
      exact ⟨value, h⟩
  · exact ⟨value, h⟩

theorem notify_tasks (waiter : Nat) (tunnel : TunnelRef) :
    (s.notify waiter tunnel).tasks = s.tasks ∧ (s.notify waiter tunnel).made = s.made := by
  unfold IncomingSystem.notify
  split
  · exact ⟨rfl, rfl⟩
  · exact ⟨rfl, rfl⟩

theorem taskStep (h : Numbered s) {i : Nat} {task : Task} (htask : s.tasks.lookup i = some task)
    (step : TaskStep) : Numbered (s.taskStep i task step) := by
  have hbecome : ∀ (s' : IncomingSystem) (new : Task), s'.tasks = s.tasks → s'.made = s.made →
      (∀ waiter value, s'.receivers.lookup waiter = some value →
        ∃ value', s.receivers.lookup waiter = some value') → Numbered (s'.become i new) := by
    intro s' new htasks hmade hreceivers
    refine h.turn htask hmade (fun j hne => ?_) hreceivers
    rw [← htasks]
    exact Custody.become_other hne
  have hfinish : ∀ s' : IncomingSystem, s'.tasks = s.tasks → s'.made = s.made →
      (∀ waiter value, s'.receivers.lookup waiter = some value →
        ∃ value', s.receivers.lookup waiter = some value') → Numbered (s'.finish i) := by
    intro s' htasks hmade hreceivers
    refine h.turn htask hmade (fun j hne => ?_) hreceivers
    rw [← htasks]
    exact Custody.finish_other hne
  have hsame : ∀ waiter value, s.receivers.lookup waiter = some value →
      ∃ value', s.receivers.lookup waiter = some value' := fun _ value hw => ⟨value, hw⟩
  unfold IncomingSystem.taskStep
  split
  · exact hbecome s _ rfl rfl hsame
  · exact hbecome _ _ rfl rfl hsame
  · exact hbecome _ _ rfl rfl hsame
  · split
    · exact hbecome _ _ rfl rfl fun _ _ => dropWaiter_some
    · exact h
  · exact hbecome _ _ rfl rfl fun _ _ => dropWaiter_some
  · exact hbecome _ _ rfl rfl fun _ _ => dropWaiter_some
  · exact hfinish _ rfl rfl hsame
  · exact hfinish _ rfl rfl fun _ _ => dropWaiter_some
  · obtain ⟨htasks, hmade⟩ := notify_tasks (s := s) _ _
    exact hfinish _ htasks hmade fun _ _ => notify_some
  · dsimp only
    split
    · exact hbecome _ _ rfl rfl hsame
    · exact hfinish _ rfl rfl hsame
  · exact hfinish s rfl rfl hsame
  · dsimp only
    split
    · exact hfinish _ rfl rfl hsame
    · exact hbecome _ _ rfl rfl hsame
    · exact hfinish _ rfl rfl hsame
  · exact hfinish s rfl rfl hsame
  · exact hfinish s rfl rfl hsame
  · exact h

/-- A new task begins, with a waiter of its own or without. -/
theorem spawn (h : Numbered s) {s' : IncomingSystem} (htasks : s'.tasks = s.tasks)
    (hmade : s'.made = s.made)
    (hreceivers : ∀ waiter value, s'.receivers.lookup waiter = some value →
      waiter = s.made ∨ s.receivers.lookup waiter = some value) (task : Task) :
    Numbered (s'.spawn task) := by
  have hnext : (s'.spawn task).made = s.made + 1 := congrArg (· + 1) hmade
  refine ⟨fun i task' hi => ?_, fun waiter value hw => ?_⟩
  · rw [hnext]
    by_cases his : i = s'.made
    · omega
    · have hbefore : s.tasks.lookup i = some task' := by
        rw [← htasks]
        exact (AList.lookup_insert_ne his).symm.trans hi
      have hlt := h.tasks i task' hbefore
      omega
  · rw [hnext]
    rcases hreceivers waiter value hw with heq | hbefore
    · omega
    · have hlt := h.receivers waiter value hbefore
      omega

theorem registerWait_some {wait : Registration} {waiter : Nat} {value : Option TunnelRef}
    (hwait : wait.waiter = s.made)
    (h : (s.registerWait wait).receivers.lookup waiter = some value) :
    waiter = s.made ∨ s.receivers.lookup waiter = some value := by
  by_cases hw : waiter = wait.waiter
  · exact .inl (hw.trans hwait)
  · exact .inr ((AList.lookup_insert_ne hw).symm.trans h)

theorem step (h : Numbered s) (op : IncomingOp) : Numbered (s.step op) := by
  cases op with
  | openReversePath remoteId tunnelId =>
    refine h.spawn ?_ ?_ (fun waiter value hw => ?_) _
    · rfl
    · rfl
    · exact registerWait_some rfl hw
  | awaitPlanned remoteId tunnelId rev =>
    refine h.spawn ?_ ?_ (fun waiter value hw => ?_) _
    · rfl
    · rfl
    · exact registerWait_some rfl hw
  | incoming tunnel =>
    show Numbered (s.onIncomingTunnel tunnel)
    unfold IncomingSystem.onIncomingTunnel
    dsimp only
    split
    · refine h.spawn ?_ ?_ (fun waiter value hw => ?_) _
      · rfl
      · rfl
      · exact .inr hw
    · split_ifs with hreverse
      · exact ⟨h.tasks, h.receivers⟩
      · refine h.spawn ?_ ?_ (fun waiter value hw => ?_) _
        · rfl
        · rfl
        · exact .inr hw
  | removeIncomingWaiter remoteId tunnelId rev token => exact ⟨h.tasks, h.receivers⟩
  | task i step =>
    unfold IncomingSystem.step
    dsimp only
    cases htask : s.tasks.lookup i with
    | none => exact h
    | some task => exact h.taskStep htask step
  | close tunnels => exact ⟨h.tasks, h.receivers⟩
  | upgrade op => exact ⟨h.tasks, h.receivers⟩

end Numbered

namespace Custody

variable {s : IncomingSystem}

/-- A new task begins, which holds no tunnel that was accepted. -/
theorem spawn (h : Custody s) (hnumbered : Numbered s) {s' : IncomingSystem} {task : Task}
    (htasks : s'.tasks = s.tasks) (hmade : s'.made = s.made) (hmanager : s'.manager = s.manager)
    (haccepted : s'.accepted = s.accepted)
    (hreceivers : ∀ waiter tunnel, s.receivers.lookup waiter = some (some tunnel) →
      s'.receivers.lookup waiter = some (some tunnel))
    (hnew : ∀ tunnel, task ≠ .registered tunnel .incoming) : Custody (s'.spawn task) := by
  have hother : ∀ j, j ≠ s.made → (s'.spawn task).tasks.lookup j = s.tasks.lookup j := by
    intro j hne
    rw [← htasks]
    exact AList.lookup_insert_ne (hmade ▸ hne)
  refine h.of_step ?_ (fun tunnel hmem => .inl ?_) (fun tunnel _ hawaits => .inl ?_)
    fun j tunnel hj => ?_
  · rw [show (s'.spawn task).manager = s.manager from hmanager]
    exact .of_eq rfl rfl
  · rw [← haccepted]
    exact hmem
  · rcases hawaits with ⟨waiter, hwaiter⟩ | ⟨j, hj⟩
    · exact .inl ⟨waiter, hreceivers waiter tunnel hwaiter⟩
    · have hlt := hnumbered.tasks j _ hj
      exact .inr ⟨j, (hother j (by omega)).trans hj⟩
  · by_cases hjs : j = s.made
    · rw [hjs, ← hmade] at hj
      have hself : some task = some (.registered tunnel .incoming) :=
        (AList.lookup_insert s'.tasks).symm.trans hj
      exact absurd (Option.some.inj hself) (hnew tunnel)
    · exact .inl ((hother j hjs).symm.trans hj)

theorem registerWait_keeps (hnumbered : Numbered s) {wait : Registration}
    (hwait : wait.waiter = s.made) {waiter : Nat} {value : Option TunnelRef}
    (h : s.receivers.lookup waiter = some value) :
    (s.registerWait wait).receivers.lookup waiter = some value := by
  have hlt := hnumbered.receivers waiter value h
  have hne : waiter ≠ wait.waiter := by omega
  exact (AList.lookup_insert_ne hne).trans h

/-- Only the manager changes. -/
theorem withManager (h : Custody s) {s' : IncomingSystem}
    (hkeeps : KeepsStored s.tracked s.manager s'.manager) (htasks : s'.tasks = s.tasks)
    (hreceivers : s'.receivers = s.receivers) (haccepted : s'.accepted = s.accepted) :
    Custody s' := by
  refine h.of_step hkeeps (fun tunnel hmem => .inl ?_) (fun tunnel _ hawaits => .inl ?_)
    fun i tunnel hi => .inl ?_
  · rw [← haccepted]
    exact hmem
  · unfold IncomingSystem.Awaited
    rw [htasks, hreceivers]
    exact hawaits
  · rw [← htasks]
    exact hi

theorem step (h : Custody s) (hnumbered : Numbered s) (op : IncomingOp)
    (hkept : s.keeps op = true) : Custody (s.step op) := by
  cases op with
  | openReversePath remoteId tunnelId =>
    refine h.spawn hnumbered ?_ ?_ ?_ ?_ (fun _ _ hw => registerWait_keeps hnumbered rfl hw)
      fun _ heq => by cases heq
    · rfl
    · rfl
    · rfl
    · rfl
  | awaitPlanned remoteId tunnelId rev =>
    refine h.spawn hnumbered ?_ ?_ ?_ ?_ (fun _ _ hw => registerWait_keeps hnumbered rfl hw)
      fun _ heq => by cases heq
    · rfl
    · rfl
    · rfl
    · rfl
  | incoming tunnel =>
    show Custody (s.onIncomingTunnel tunnel)
    unfold IncomingSystem.onIncomingTunnel
    dsimp only
    split
    · refine h.spawn hnumbered ?_ ?_ ?_ ?_ (fun _ _ hw => hw) fun _ heq => by cases heq
      · rfl
      · rfl
      · rfl
      · rfl
    · split_ifs with hreverse
      · exact h.withManager (KeepsStored.closeTunnel tunnel) rfl rfl rfl
      · refine h.spawn hnumbered ?_ ?_ ?_ ?_ (fun _ _ hw => hw) fun _ heq => by cases heq
        · rfl
        · rfl
        · rfl
        · rfl
  | removeIncomingWaiter remoteId tunnelId rev token =>
    exact h.withManager (.of_eq rfl rfl) rfl rfl rfl
  | task i step =>
    unfold IncomingSystem.step
    dsimp only
    cases htask : s.tasks.lookup i with
    | none => exact h
    | some task =>
      have hall : (s.tasks.lookup i).all (fun task => s.keepsTask task step) = true := hkept
      rw [htask] at hall
      exact h.taskStep htask hall
  | close tunnels => exact h.withManager (KeepsStored.closeAll tunnels) rfl rfl rfl
  | upgrade op => exact h.withManager (UpgradeSystem.keeps_step hkept) rfl rfl rfl

end Custody

namespace IncomingSystem

/-- In every run in which nobody who was notified of a tunnel goes away before it is registered, and
the manager forgets no accepted tunnel that is down and was not closed: a tunnel that was accepted
and that no task holds is stored or was closed. -/
theorem accepted_tunnels_kept (initialInterval : Nat) (ops : List IncomingOp)
    (hkept : Along step (fun s op => s.keeps op = true) (.new initialInterval) ops) :
    let s := exec step (.new initialInterval) ops
    ∀ tunnel ∈ s.accepted, ¬ s.Held tunnel → s.manager.Safe tunnel := by
  intro s tunnel hmem hfree
  have hcustody : Custody s ∧ Numbered s :=
    exec_inv (I := fun s => Custody s ∧ Numbered s)
      (fun _ op h hop => ⟨h.1.step h.2 op hop, h.2.step op⟩)
      ⟨Custody.new initialInterval, Numbered.new initialInterval⟩ hkept
  exact (hcustody.1.accepted tunnel hmem).resolve_left fun hawaits => hfree hawaits.held

/-! ## A waiter that times out while its tunnel comes in -/

def reverseTunnel : TunnelRef := ⟨0, [1], 7, 1, .passive, true⟩

/-- A reverse path is opened; the tunnel comes in, and `steps` follow. -/
def reverseRun (steps : List IncomingOp) : List IncomingOp :=
  [.openReversePath [1] 7, .task 0 (.called true)] ++ steps

/-- The waiter is notified in time. -/
def inTime : List IncomingOp :=
  [.incoming reverseTunnel, .task 1 .notify, .task 0 .receive, .task 0 (.register 5 [] [] []),
    .task 0 (.publish 5), .task 0 .cached]

/-- The waiter is dropped at the timeout, and the tunnel comes in before its registration is. -/
def tooLate : List IncomingOp :=
  [.task 0 .timeout, .incoming reverseTunnel, .task 1 .notify, .task 0 .drop]

theorem accepted_tunnels_kept_in_time :
    Along step (fun s op => s.keeps op = true) (.new 300000) (reverseRun inTime) ∧
      ∀ tunnel ∈ (exec step (.new 300000) (reverseRun inTime)).accepted,
        ¬ (exec step (.new 300000) (reverseRun inTime)).Held tunnel →
          (exec step (.new 300000) (reverseRun inTime)).manager.Safe tunnel :=
  ⟨by decide +kernel, accepted_tunnels_kept 300000 (reverseRun inTime) (by decide +kernel)⟩

/-- The tunnel was accepted; nobody holds it, it is not stored, and nobody closed it. -/
theorem accepted_tunnel_lost :
    reverseTunnel ∈ (exec step (.new 300000) (reverseRun tooLate)).accepted ∧
      ¬ (exec step (.new 300000) (reverseRun tooLate)).Held reverseTunnel ∧
      ¬ (exec step (.new 300000) (reverseRun tooLate)).manager.Safe reverseTunnel := by
  refine ⟨by decide +kernel, fun hheld => ?_, by decide +kernel⟩
  have hreceivers : (exec step (.new 300000) (reverseRun tooLate)).receivers = ∅ :=
    AList.ext (List.eq_nil_of_length_eq_zero (by decide +kernel))
  have htasks : (exec step (.new 300000) (reverseRun tooLate)).tasks = ∅ :=
    AList.ext (List.eq_nil_of_length_eq_zero (by decide +kernel))
  unfold Held at hheld
  rw [hreceivers, htasks] at hheld
  rcases hheld with ⟨waiter, hwaiter⟩ | ⟨i, task, htask, -⟩
  · cases hwaiter
  · cases htask

end IncomingSystem

end BuckyP2p.Tunnel
