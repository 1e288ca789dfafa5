import BuckyP2p.Base
import BuckyP2p.Lib.Runs

/-!
# BuckyP2p.Quic.Listener — closing a `QuicTunnelListener` (`quic/listener.rs`)

Calls of `start`, of `run_worker_endpoint` with `register_worker_endpoint`, and of `close`, each with
a number.  A step is what a call does between two of the points where another one may come in: the
test of `closed`, the region under the lock of `state`, and the rest.

* An endpoint has the number of the worker that made it, a server that of the `start`.
* `closed` is tested outside of the lock.  `drained` says that `close` has emptied the lists; it is
  not in the code.
* What the results of awaits are is in the event.
-/

namespace BuckyP2p.Quic.Listener

open Lib

inductive StartPhase
  | uncalled
  | entered
  /-- `closed` was false. -/
  | admitted
  /-- There was no server, and a local endpoint is bound. -/
  | binding
  /-- Has the server of `serve_socket`. -/
  | served
  /-- In `wait_quic_endpoint_ready`. -/
  | waiting
  /-- No endpoint became ready. -/
  | failing
  /-- Has closed its server. -/
  | draining
  | dropping (endpoints : List Nat)
  | returned (result : P2pResult Unit)
  deriving DecidableEq

inductive WorkerPhase
  | uncalled
  | entered
  | admitted
  /-- Has an endpoint. -/
  | created
  /-- `register_worker_endpoint` has found `closed`. -/
  | refused
  /-- It has not. -/
  | registering
  | accepting
  | returned
  deriving DecidableEq

inductive ClosePhase
  | uncalled
  | entered
  /-- Has set `closed`. -/
  | swapped
  | closing (endpoints : List Nat) (server : Option Nat)
  | returned
  deriving DecidableEq

/-- The worker has an endpoint that it has not handed over. -/
def WorkerPhase.holds : WorkerPhase → Bool
  | .created | .refused | .registering => true
  | _ => false

/-- The phases in which the server of a `start` is stored. -/
def StartPhase.stored : StartPhase → Bool
  | .waiting | .failing | .draining => true
  | _ => false

/-- The call has set `closed`, or found it set. -/
def ClosePhase.past : ClosePhase → Bool
  | .uncalled | .entered => false
  | _ => true

/-- What the call has still to close. -/
def StartPhase.endpoints : StartPhase → List Nat
  | .dropping endpoints => endpoints
  | _ => []

def ClosePhase.endpoints : ClosePhase → List Nat
  | .closing endpoints _ => endpoints
  | _ => []

def ClosePhase.server : ClosePhase → Option Nat
  | .closing _ server => server
  | _ => none

structure QuicTunnelListener where
  closed : Bool
  bound : Bool
  endpoints : List Nat
  server : Option Nat
  punchSocket : Option Nat
  starts : Nat → StartPhase
  workers : Nat → WorkerPhase
  closes : Nat → ClosePhase
  endpointCreated : Nat → Bool
  endpointClosed : Nat → Bool
  serverCreated : Nat → Bool
  serverClosed : Nat → Bool
  drained : Bool

inductive Event
  | bind
  /-- The call of `start` goes on; `result` is that of what it awaits. -/
  | start (i : Nat) (result : P2pResult Unit)
  /-- `ok` says whether the endpoint can be created. -/
  | worker (j : Nat) (ok : Bool)
  | close (k : Nat)
  deriving DecidableEq

namespace QuicTunnelListener

def new : QuicTunnelListener where
  closed := false
  bound := false
  endpoints := []
  server := none
  punchSocket := none
  starts _ := .uncalled
  workers _ := .uncalled
  closes _ := .uncalled
  endpointCreated _ := false
  endpointClosed _ := false
  serverCreated _ := false
  serverClosed _ := false
  drained := false

variable (s : QuicTunnelListener)

def setStart (i : Nat) (phase : StartPhase) : QuicTunnelListener :=
  { s with starts := Function.update s.starts i phase }

def setWorker (j : Nat) (phase : WorkerPhase) : QuicTunnelListener :=
  { s with workers := Function.update s.workers j phase }

def setClose (k : Nat) (phase : ClosePhase) : QuicTunnelListener :=
  { s with closes := Function.update s.closes k phase }

/-- `endpoint.close`. -/
def closeEndpoint (j : Nat) : QuicTunnelListener :=
  { s with endpointClosed := Function.update s.endpointClosed j true }

/-- `server.close`. -/
def closeServer (i : Nat) : QuicTunnelListener :=
  { s with serverClosed := Function.update s.serverClosed i true }

/-- The region that empties the lists. -/
def take : QuicTunnelListener := { s with endpoints := [], server := none, punchSocket := none }

def startStep (i : Nat) (result : P2pResult Unit) : QuicTunnelListener :=
  match s.starts i with
  | .uncalled => s.setStart i .entered
  | .entered =>
    if s.closed then s.setStart i (.returned (.error ⟨.errorState, "quic listener closed"⟩))
    else s.setStart i .admitted
  | .admitted =>
    if s.server.isSome then
      s.setStart i (.returned (.error ⟨.alreadyExists, "quic listener already started"⟩))
    else if !s.bound then
      s.setStart i (.returned (.error ⟨.invalidParam, "quic listener not bound"⟩))
    else s.setStart i .binding
  | .binding =>
    match result with
    | .ok () => { s.setStart i .served with serverCreated := Function.update s.serverCreated i true }
    | .error e => s.setStart i (.returned (.error e))
  | .served => { s.setStart i .waiting with server := some i }
  | .waiting =>
    match result with
    | .ok () => s.setStart i (.returned (.ok ()))
    | .error _ =>
      if s.endpoints.isEmpty then s.setStart i .failing else s.setStart i (.returned (.ok ()))
  | .failing => (s.closeServer i).setStart i .draining
  | .draining => s.take.setStart i (.dropping s.endpoints)
  | .dropping (j :: endpoints) => (s.closeEndpoint j).setStart i (.dropping endpoints)
  | .dropping [] =>
    s.setStart i (.returned (.error ⟨.quicError, "quic endpoint did not become ready"⟩))
  | .returned _ => s

def workerStep (j : Nat) (ok : Bool) : QuicTunnelListener :=
  match s.workers j with
  | .uncalled => s.setWorker j .entered
  | .entered => if s.closed then s.setWorker j .returned else s.setWorker j .admitted
  | .admitted =>
    if ok then
      { s.setWorker j .created with endpointCreated := Function.update s.endpointCreated j true }
    else s.setWorker j .returned
  | .created => if s.closed then s.setWorker j .refused else s.setWorker j .registering
  | .refused => (s.closeEndpoint j).setWorker j .returned
  | .registering =>
    { s.setWorker j .accepting with
      endpoints := s.endpoints ++ [j]
      punchSocket := s.punchSocket.or (some j) }
  | .accepting => s.setWorker j .returned
  | .returned => s

def closeStep (k : Nat) : QuicTunnelListener :=
  match s.closes k with
  | .uncalled => s.setClose k .entered
  | .entered =>
    if s.closed then s.setClose k .returned else { s.setClose k .swapped with closed := true }
  | .swapped => { s.take.setClose k (.closing s.endpoints s.server) with drained := true }
  | .closing (j :: endpoints) server => (s.closeEndpoint j).setClose k (.closing endpoints server)
  | .closing [] (some i) => (s.closeServer i).setClose k (.closing [] none)
  | .closing [] none => s.setClose k .returned
  | .returned => s

def step : Event → QuicTunnelListener
  | .bind => { s with bound := true }
  | .start i result => s.startStep i result
  | .worker j ok => s.workerStep j ok
  | .close k => s.closeStep k

/-- `close` has returned, and all calls have or are in their accept loop. -/
structure Settled : Prop where
  closed : ∃ k, s.closes k = .returned
  closes : ∀ k, s.closes k = .uncalled ∨ s.closes k = .returned
  starts : ∀ i, s.starts i = .uncalled ∨ ∃ result, s.starts i = .returned result
  workers : ∀ j, s.workers j = .uncalled ∨ s.workers j = .accepting ∨ s.workers j = .returned

/-- Nothing that was made for the listener is left open. -/
structure Ended : Prop where
  endpoint : ∀ j, s.endpointCreated j = true → s.endpointClosed j = true
  opened : ∀ i, s.serverCreated i = true → s.serverClosed i = true
  endpoints : s.endpoints = []
  server : s.server = none
  punchSocket : s.punchSocket = none

/-- What goes into the lists comes before `close` has emptied them, and no server is stored over
another one. -/
def Timely : Event → Prop
  | .start i _ => s.starts i = .served → s.drained = false ∧ s.server = none
  | .worker j _ => s.workers j = .registering → s.drained = false
  | _ => True

instance (ev : Event) : Decidable (s.Timely ev) := by
  cases ev <;> unfold Timely <;> infer_instance

/-- Somebody has still to close the endpoint. -/
def HeldEndpoint (j : Nat) : Prop :=
  j ∈ s.endpoints ∨ (s.workers j).holds = true ∨ (∃ k, j ∈ (s.closes k).endpoints) ∨
    ∃ i, j ∈ (s.starts i).endpoints

def HeldServer (i : Nat) : Prop :=
  s.server = some i ∨ s.starts i = .served ∨ ∃ k, (s.closes k).server = some i

/-- What is made for the listener is closed, or somebody will close it. -/
structure Kept : Prop where
  endpoint : ∀ j, s.endpointCreated j = true → s.endpointClosed j = true ∨ s.HeldEndpoint j
  opened : ∀ i, s.serverCreated i = true → s.serverClosed i = true ∨ s.HeldServer i
  stored : ∀ i, (s.starts i).stored = true → s.drained = false → s.server = some i
  draining : ∀ i, s.starts i = .draining → s.serverClosed i = true
  drained : s.drained = true → s.endpoints = [] ∧ s.server = none ∧ s.punchSocket = none
  swapped : s.closed = true → s.drained = true ∨ ∃ k, s.closes k = .swapped
  closed : ∀ k, (s.closes k).past = true → s.closed = true

variable {s} {i j k : Nat}

/-- One of the old values is that at `k`, or it is still there. -/
theorem exists_update {α : Type*} {f : Nat → α} {P : α → Prop} (h : ∃ n, P (f n)) (k : Nat) (v : α) :
    P (f k) ∨ ∃ n, P (Function.update f k v n) := by
  obtain ⟨n, hn⟩ := h
  by_cases hk : n = k
  · exact .inl (hk ▸ hn)
  · exact .inr ⟨n, by rwa [Function.update_of_ne hk]⟩

theorem starts_update (h : ∃ i, j ∈ (s.starts i).endpoints) (i : Nat) (phase : StartPhase) :
    j ∈ (s.starts i).endpoints ∨ ∃ n, j ∈ (Function.update s.starts i phase n).endpoints :=
  exists_update (P := fun x : StartPhase => j ∈ x.endpoints) h i phase

theorem closes_update (h : ∃ k, j ∈ (s.closes k).endpoints) (k : Nat) (phase : ClosePhase) :
    j ∈ (s.closes k).endpoints ∨ ∃ n, j ∈ (Function.update s.closes k phase n).endpoints :=
  exists_update (P := fun x : ClosePhase => j ∈ x.endpoints) h k phase

theorem server_update (h : ∃ k, (s.closes k).server = some i) (k : Nat) (phase : ClosePhase) :
    (s.closes k).server = some i ∨ ∃ n, (Function.update s.closes k phase n).server = some i :=
  exists_update (P := fun x : ClosePhase => x.server = some i) h k phase

theorem swapped_update (h : ∃ k, s.closes k = .swapped) (k : Nat) (phase : ClosePhase) :
    s.closes k = .swapped ∨ ∃ n, Function.update s.closes k phase n = .swapped :=
  exists_update (P := fun x : ClosePhase => x = .swapped) h k phase

theorem starts_self (s : QuicTunnelListener) (i : Nat) {phase : StartPhase} (h : j ∈ phase.endpoints) :
    ∃ n, j ∈ (Function.update s.starts i phase n).endpoints := ⟨i, by rwa [Function.update_self]⟩

theorem closes_self (s : QuicTunnelListener) (k : Nat) {phase : ClosePhase} (h : j ∈ phase.endpoints) :
    ∃ n, j ∈ (Function.update s.closes k phase n).endpoints := ⟨k, by rwa [Function.update_self]⟩

theorem server_self (s : QuicTunnelListener) (k : Nat) {phase : ClosePhase}
    (h : phase.server = some i) : ∃ n, (Function.update s.closes k phase n).server = some i :=
  ⟨k, by rwa [Function.update_self]⟩

/-- What holds of all the old values and of the new one. -/
theorem forall_update {α : Type*} {f : Nat → α} {P : Nat → α → Prop} {k : Nat} {v : α}
    (h : ∀ n, P n (f n)) (hv : P k v) (n : Nat) : P n (Function.update f k v n) := by
  by_cases hk : n = k
  · subst hk
    rwa [Function.update_self]
  · rw [Function.update_of_ne hk]
    exact h n

theorem kept_new : Kept .new where
  endpoint j hj := by cases hj
  opened i hi := by cases hi
  stored i hi := by cases hi
  draining i hi := by cases hi
  drained hd := by cases hd
  swapped hc := by cases hc
  closed k hk := by cases hk

/-! ## The steps of one call -/

/-- A `start` goes on without a change to what it holds. -/
theorem Kept.setStart (h : s.Kept) {phase : StartPhase} (hserved : s.starts i ≠ .served)
    (hends : (s.starts i).endpoints = []) (hstored : phase.stored = true → (s.starts i).stored = true)
    (hdraining : phase ≠ .draining) : (s.setStart i phase).Kept where
  endpoint j hj := by
    rcases h.endpoint j hj with hclosed | hl | hw | hc | hs
    · exact .inl hclosed
    · exact .inr (.inl hl)
    · exact .inr (.inr (.inl hw))
    · exact .inr (.inr (.inr (.inl hc)))
    · rcases starts_update hs i phase with hold | hnew
      · rw [hends] at hold
        cases hold
      · exact .inr (.inr (.inr (.inr hnew)))
  opened i' hi := by
    rcases h.opened i' hi with hclosed | hl | hs | hc
    · exact .inl hclosed
    · exact .inr (.inl hl)
    · have hne : i' ≠ i := fun heq => hserved (heq ▸ hs)
      refine .inr (.inr (.inl ?_))
      exact (Function.update_of_ne hne ..).trans hs
    · exact .inr (.inr (.inr hc))
  stored := forall_update (P := fun n x => StartPhase.stored x = true → s.drained = false → s.server = some n)
    h.stored fun hphase => h.stored i (hstored hphase)
  draining := forall_update (P := fun n x => x = StartPhase.draining → s.serverClosed n = true)
    h.draining fun hphase => absurd hphase hdraining
  drained := h.drained
  swapped := h.swapped
  closed := h.closed

theorem Kept.setWorker (h : s.Kept) {phase : WorkerPhase}
    (hholds : (s.workers j).holds = true → phase.holds = true) : (s.setWorker j phase).Kept where
  endpoint j' hj := by
    rcases h.endpoint j' hj with hclosed | hl | hw | hrest
    · exact .inl hclosed
    · exact .inr (.inl hl)
    · refine .inr (.inr (.inl ?_))
      show (Function.update s.workers j phase j').holds = true
      by_cases heq : j' = j
      · subst heq
        rw [Function.update_self]
        exact hholds hw
      · rwa [Function.update_of_ne heq]
    · exact .inr (.inr (.inr hrest))
  opened := h.opened
  stored := h.stored
  draining := h.draining
  drained := h.drained
  swapped := h.swapped
  closed := h.closed

theorem Kept.setClose (h : s.Kept) {phase : ClosePhase} (hends : (s.closes k).endpoints = [])
    (hserver : (s.closes k).server = none) (hswapped : s.closes k ≠ .swapped)
    (hclosed : phase.past = true → s.closed = true) : (s.setClose k phase).Kept where
  endpoint j hj := by
    rcases h.endpoint j hj with hdone | hl | hw | hc | hs
    · exact .inl hdone
    · exact .inr (.inl hl)
    · exact .inr (.inr (.inl hw))
    · rcases closes_update hc k phase with hold | hnew
      · rw [hends] at hold
        cases hold
      · exact .inr (.inr (.inr (.inl hnew)))
    · exact .inr (.inr (.inr (.inr hs)))
  opened i hi := by
    rcases h.opened i hi with hdone | hl | hs | hc
    · exact .inl hdone
    · exact .inr (.inl hl)
    · exact .inr (.inr (.inl hs))
    · rcases server_update hc k phase with hold | hnew
      · rw [hserver] at hold
        cases hold
      · exact .inr (.inr (.inr hnew))
  stored := h.stored
  draining := h.draining
  drained := h.drained
  swapped hc := by
    rcases h.swapped hc with hd | hs
    · exact .inl hd
    · rcases swapped_update hs k phase with hold | hnew
      · exact absurd hold hswapped
      · exact .inr hnew
  closed := forall_update (P := fun _ x => ClosePhase.past x = true → s.closed = true) h.closed hclosed

/-- The worker has its endpoint. -/
theorem Kept.creates (h : s.Kept) (j : Nat) :
    { s.setWorker j .created with
      endpointCreated := Function.update s.endpointCreated j true }.Kept := by
  refine { h with endpoint := fun j' hj => ?_ }
  change Function.update s.endpointCreated j true j' = true at hj
  by_cases heq : j' = j
  · subst heq
    exact .inr (.inr (.inl (by
      show (Function.update s.workers j' _ j').holds = true
      rw [Function.update_self]
      rfl)))
  · rw [Function.update_of_ne heq] at hj
    rcases h.endpoint j' hj with hclosed | hl | hw | hrest
    · exact .inl hclosed
    · exact .inr (.inl hl)
    · refine .inr (.inr (.inl ?_))
      show (Function.update s.workers j _ j').holds = true
      rwa [Function.update_of_ne heq]
    · exact .inr (.inr (.inr hrest))

/-- The worker puts its endpoint into the list, before `close` has emptied it. -/
theorem Kept.registers (h : s.Kept) (j : Nat) (hd : s.drained = false) :
    { s.setWorker j .accepting with
      endpoints := s.endpoints ++ [j]
      punchSocket := s.punchSocket.or (some j) }.Kept := by
  refine { h with endpoint := fun j' hj => ?_, drained := fun hdrained => ?_ }
  · rcases h.endpoint j' hj with hclosed | hl | hw | hrest
    · exact .inl hclosed
    · exact .inr (.inl (List.mem_append_left _ hl))
    · by_cases heq : j' = j
      · exact .inr (.inl (List.mem_append_right _ (List.mem_singleton.mpr heq)))
      · refine .inr (.inr (.inl ?_))
        show (Function.update s.workers j _ j').holds = true
        rwa [Function.update_of_ne heq]
    · exact .inr (.inr (.inr hrest))
  · cases hd.symm.trans hdrained

/-- The worker closes its own endpoint. -/
theorem Kept.refuses (h : s.Kept) (j : Nat) : ((s.closeEndpoint j).setWorker j .returned).Kept := by
  refine { h with endpoint := fun j' hj => ?_ }
  by_cases heq : j' = j
  · subst heq
    exact .inl (Function.update_self ..)
  · rcases h.endpoint j' hj with hclosed | hl | hw | hrest
    · exact .inl ((Function.update_of_ne heq ..).trans hclosed)
    · exact .inr (.inl hl)
    · refine .inr (.inr (.inl ?_))
      show (Function.update s.workers j _ j').holds = true
      rwa [Function.update_of_ne heq]
    · exact .inr (.inr (.inr hrest))

/-- A server is made. -/
theorem Kept.serves (h : s.Kept) (hi : s.starts i = .binding) :
    { s.setStart i .served with
      serverCreated := Function.update s.serverCreated i true }.Kept := by
  have hset : (s.setStart i .served).Kept :=
    h.setStart (by simp [hi]) (by simp [hi, StartPhase.endpoints]) (by simp [StartPhase.stored])
      (by simp)
  refine { hset with opened := fun i' hi' => ?_ }
  change Function.update s.serverCreated i true i' = true at hi'
  by_cases heq : i' = i
  · subst heq
    exact .inr (.inr (.inl (Function.update_self ..)))
  · rw [Function.update_of_ne heq] at hi'
    exact hset.opened i' hi'

/-- The server is stored, where there is none, and before `close` has emptied the lists. -/
theorem Kept.stores (h : s.Kept) (hi : s.starts i = .served) (hd : s.drained = false)
    (hnone : s.server = none) : { s.setStart i .waiting with server := some i }.Kept where
  endpoint j hj := by
    rcases h.endpoint j hj with hclosed | hl | hw | hc | hs
    · exact .inl hclosed
    · exact .inr (.inl hl)
    · exact .inr (.inr (.inl hw))
    · exact .inr (.inr (.inr (.inl hc)))
    · rcases starts_update hs i .waiting with hold | hnew
      · rw [hi] at hold
        cases hold
      · exact .inr (.inr (.inr (.inr hnew)))
  opened i' hi' := by
    by_cases heq : i' = i
    · subst heq
      exact .inr (.inl rfl)
    · rcases h.opened i' hi' with hclosed | hl | hs | hc
      · exact .inl hclosed
      · cases hnone.symm.trans hl
      · exact .inr (.inr (.inl ((Function.update_of_ne heq ..).trans hs)))
      · exact .inr (.inr (.inr hc))
  stored i' := by
    show (Function.update s.starts i .waiting i').stored = true → _
    by_cases heq : i' = i
    · exact fun _ _ => congrArg some heq.symm
    · rw [Function.update_of_ne heq]
      exact fun hstored hdrained => by cases hnone.symm.trans (h.stored i' hstored hdrained)
  draining := forall_update (P := fun n x => x = StartPhase.draining → s.serverClosed n = true)
    h.draining (by simp)
  drained hdrained := by cases hd.symm.trans hdrained
  swapped := h.swapped
  closed := h.closed

/-- A `start` without a ready endpoint closes its server. -/
theorem Kept.fails (h : s.Kept) (hi : s.starts i = .failing) :
    ((s.closeServer i).setStart i .draining).Kept where
  endpoint j hj := by
    rcases h.endpoint j hj with hclosed | hl | hw | hc | hs
    · exact .inl hclosed
    · exact .inr (.inl hl)
    · exact .inr (.inr (.inl hw))
    · exact .inr (.inr (.inr (.inl hc)))
    · rcases starts_update hs i .draining with hold | hnew
      · rw [hi] at hold
        cases hold
      · exact .inr (.inr (.inr (.inr hnew)))
  opened i' hi' := by
    by_cases heq : i' = i
    · subst heq
      exact .inl (Function.update_self ..)
    · rcases h.opened i' hi' with hclosed | hl | hs | hc
      · exact .inl ((Function.update_of_ne heq ..).trans hclosed)
      · exact .inr (.inl hl)
      · exact .inr (.inr (.inl ((Function.update_of_ne heq ..).trans hs)))
      · exact .inr (.inr (.inr hc))
  stored := forall_update (P := fun n x => StartPhase.stored x = true → s.drained = false → s.server = some n)
    h.stored fun _ => h.stored i (by rw [hi]; rfl)
  draining i' := by
    show Function.update s.starts i .draining i' = .draining →
      Function.update s.serverClosed i true i' = true
    by_cases heq : i' = i
    · subst heq
      exact fun _ => Function.update_self ..
    · rw [Function.update_of_ne heq, Function.update_of_ne heq]
      exact h.draining i'
  drained := h.drained
  swapped := h.swapped
  closed := h.closed

/-- It empties the lists; its own server is in them, or `close` has been there. -/
theorem Kept.drains (h : s.Kept) (hi : s.starts i = .draining) :
    (s.take.setStart i (.dropping s.endpoints)).Kept where
  endpoint j hj := by
    rcases h.endpoint j hj with hclosed | hl | hw | hc | hs
    · exact .inl hclosed
    · exact .inr (.inr (.inr (.inr (starts_self s i hl))))
    · exact .inr (.inr (.inl hw))
    · exact .inr (.inr (.inr (.inl hc)))
    · rcases starts_update hs i (.dropping s.endpoints) with hold | hnew
      · rw [hi] at hold
        cases hold
      · exact .inr (.inr (.inr (.inr hnew)))
  opened i' hi' := by
    rcases h.opened i' hi' with hclosed | hl | hs | hc
    · exact .inl hclosed
    · cases hd : s.drained with
      | true => cases (h.drained hd).2.1.symm.trans hl
      | false =>
        have hown := h.stored i (by rw [hi]; rfl) hd
        cases hown.symm.trans hl
        exact .inl (h.draining i hi)
    · have hne : i' ≠ i := fun heq => by
        subst heq
        cases hi.symm.trans hs
      exact .inr (.inr (.inl ((Function.update_of_ne hne ..).trans hs)))
    · exact .inr (.inr (.inr hc))
  stored i' := by
    show (Function.update s.starts i _ i').stored = true → s.drained = false → none = some i'
    by_cases heq : i' = i
    · subst heq
      rw [Function.update_self]
      rintro ⟨⟩
    · rw [Function.update_of_ne heq]
      intro hstored hd
      have hown := h.stored i (by rw [hi]; rfl) hd
      exact absurd (Option.some.inj ((h.stored i' hstored hd).symm.trans hown)) heq
  draining := forall_update (P := fun n x => x = StartPhase.draining → s.serverClosed n = true)
    h.draining (by simp)
  drained _ := ⟨rfl, rfl, rfl⟩
  swapped := h.swapped
  closed := h.closed

/-- A `start` closes an endpoint that it took from the list. -/
theorem Kept.drops (h : s.Kept) {endpoints : List Nat} (hi : s.starts i = .dropping (j :: endpoints)) :
    ((s.closeEndpoint j).setStart i (.dropping endpoints)).Kept where
  endpoint j' hj := by
    by_cases heq : j' = j
    · subst heq
      exact .inl (Function.update_self ..)
    · rcases h.endpoint j' hj with hclosed | hl | hw | hc | hs
      · exact .inl ((Function.update_of_ne heq ..).trans hclosed)
      · exact .inr (.inl hl)
      · exact .inr (.inr (.inl hw))
      · exact .inr (.inr (.inr (.inl hc)))
      · rcases starts_update hs i (.dropping endpoints) with hold | hnew
        · rw [hi] at hold
          have hmem : j' ∈ endpoints := (List.mem_cons.mp hold).resolve_left heq
          exact .inr (.inr (.inr (.inr (starts_self s i hmem))))
        · exact .inr (.inr (.inr (.inr hnew)))
  opened i' hi' := by
    rcases h.opened i' hi' with hclosed | hl | hs | hc
    · exact .inl hclosed
    · exact .inr (.inl hl)
    · have hne : i' ≠ i := fun heq => by
        subst heq
        cases hi.symm.trans hs
      exact .inr (.inr (.inl ((Function.update_of_ne hne ..).trans hs)))
    · exact .inr (.inr (.inr hc))
  stored := forall_update (P := fun n x => StartPhase.stored x = true → s.drained = false → s.server = some n)
    h.stored (by rintro ⟨⟩)
  draining := forall_update (P := fun n x => x = StartPhase.draining → s.serverClosed n = true)
    h.draining (by simp)
  drained := h.drained
  swapped := h.swapped
  closed := h.closed

/-- `close` sets the flag. -/
theorem Kept.swaps (h : s.Kept) (hk : s.closes k = .entered) :
    { s.setClose k .swapped with closed := true }.Kept := by
  have hends : (s.closes k).endpoints = [] := by rw [hk]; rfl
  have hserver : (s.closes k).server = none := by rw [hk]; rfl
  refine ⟨fun j hj => ?_, fun i hi => ?_, h.stored, h.draining, h.drained, fun _ => .inr ?_,
    fun _ _ => rfl⟩
  · rcases h.endpoint j hj with hdone | hl | hw | hc | hs
    · exact .inl hdone
    · exact .inr (.inl hl)
    · exact .inr (.inr (.inl hw))
    · rcases closes_update hc k .swapped with hold | hnew
      · rw [hends] at hold
        cases hold
      · exact .inr (.inr (.inr (.inl hnew)))
    · exact .inr (.inr (.inr (.inr hs)))
  · rcases h.opened i hi with hdone | hl | hs | hc
    · exact .inl hdone
    · exact .inr (.inl hl)
    · exact .inr (.inr (.inl hs))
    · rcases server_update hc k .swapped with hold | hnew
      · cases hserver.symm.trans hold
      · exact .inr (.inr (.inr hnew))
  · exact ⟨k, Function.update_self ..⟩

/-- `close` empties the lists. -/
theorem Kept.takes (h : s.Kept) (hk : s.closes k = .swapped) :
    { s.take.setClose k (.closing s.endpoints s.server) with drained := true }.Kept where
  endpoint j hj := by
    rcases h.endpoint j hj with hdone | hl | hw | hcl | hs
    · exact .inl hdone
    · exact .inr (.inr (.inr (.inl (closes_self s k hl))))
    · exact .inr (.inr (.inl hw))
    · rcases closes_update hcl k (.closing s.endpoints s.server) with hold | hnew
      · rw [hk] at hold
        cases hold
      · exact .inr (.inr (.inr (.inl hnew)))
    · exact .inr (.inr (.inr (.inr hs)))
  opened i hi := by
    rcases h.opened i hi with hdone | hl | hs | hcl
    · exact .inl hdone
    · exact .inr (.inr (.inr (server_self s k hl)))
    · exact .inr (.inr (.inl hs))
    · rcases server_update hcl k (.closing s.endpoints s.server) with hold | hnew
      · rw [hk] at hold
        cases hold
      · exact .inr (.inr (.inr hnew))
  stored _ _ hd := by cases hd
  draining := h.draining
  drained _ := ⟨rfl, rfl, rfl⟩
  swapped _ := .inl rfl
  closed _ _ := h.closed k (by rw [hk]; rfl)

/-- `close` closes one of the endpoints that it took. -/
theorem Kept.closesEndpoint (h : s.Kept) {endpoints : List Nat} {server : Option Nat}
    (hk : s.closes k = .closing (j :: endpoints) server) :
    ((s.closeEndpoint j).setClose k (.closing endpoints server)).Kept where
  endpoint j' hj := by
    by_cases heq : j' = j
    · subst heq
      exact .inl (Function.update_self ..)
    · rcases h.endpoint j' hj with hdone | hl | hw | hc | hs
      · exact .inl ((Function.update_of_ne heq ..).trans hdone)
      · exact .inr (.inl hl)
      · exact .inr (.inr (.inl hw))
      · rcases closes_update hc k (.closing endpoints server) with hold | hnew
        · rw [hk] at hold
          have hmem : j' ∈ endpoints := (List.mem_cons.mp hold).resolve_left heq
          exact .inr (.inr (.inr (.inl (closes_self s k hmem))))
        · exact .inr (.inr (.inr (.inl hnew)))
      · exact .inr (.inr (.inr (.inr hs)))
  opened i hi := by
    rcases h.opened i hi with hdone | hl | hs | hc
    · exact .inl hdone
    · exact .inr (.inl hl)
    · exact .inr (.inr (.inl hs))
    · rcases server_update hc k (.closing endpoints server) with hold | hnew
      · rw [hk] at hold
        exact .inr (.inr (.inr (server_self s k hold)))
      · exact .inr (.inr (.inr hnew))
  stored := h.stored
  draining := h.draining
  drained := h.drained
  swapped hc := by
    rcases h.swapped hc with hd | hs
    · exact .inl hd
    · rcases swapped_update hs k (.closing endpoints server) with hold | hnew
      · cases hk.symm.trans hold
      · exact .inr hnew
  closed := forall_update (P := fun _ x => ClosePhase.past x = true → s.closed = true) h.closed
    fun _ => h.closed k (by rw [hk]; rfl)

theorem Kept.closesServer (h : s.Kept) (hk : s.closes k = .closing [] (some i)) :
    ((s.closeServer i).setClose k (.closing [] none)).Kept where
  endpoint j hj := by
    rcases h.endpoint j hj with hdone | hl | hw | hc | hs
    · exact .inl hdone
    · exact .inr (.inl hl)
    · exact .inr (.inr (.inl hw))
    · rcases closes_update hc k (.closing [] none) with hold | hnew
      · rw [hk] at hold
        cases hold
      · exact .inr (.inr (.inr (.inl hnew)))
    · exact .inr (.inr (.inr (.inr hs)))
  opened i' hi := by
    by_cases heq : i' = i
    · subst heq
      exact .inl (Function.update_self ..)
    · rcases h.opened i' hi with hdone | hl | hs | hc
      · exact .inl ((Function.update_of_ne heq ..).trans hdone)
      · exact .inr (.inl hl)
      · exact .inr (.inr (.inl hs))
      · rcases server_update hc k (.closing [] none) with hold | hnew
        · rw [hk] at hold
          exact absurd (Option.some.inj hold).symm heq
        · exact .inr (.inr (.inr hnew))
  stored := h.stored
  draining i' hi' := by
    by_cases heq : i' = i
    · subst heq
      exact Function.update_self ..
    · exact (Function.update_of_ne heq ..).trans (h.draining i' hi')
  drained := h.drained
  swapped hc := by
    rcases h.swapped hc with hd | hs
    · exact .inl hd
    · rcases swapped_update hs k (.closing [] none) with hold | hnew
      · cases hk.symm.trans hold
      · exact .inr hnew
  closed := forall_update (P := fun _ x => ClosePhase.past x = true → s.closed = true) h.closed
    fun _ => h.closed k (by rw [hk]; rfl)

/-! ## Runs -/

theorem Kept.startStep (h : s.Kept) {result : P2pResult Unit} (htimely : s.Timely (.start i result)) :
    (s.startStep i result).Kept := by
  unfold QuicTunnelListener.startStep
  cases hi : s.starts i with
  | served =>
    obtain ⟨hd, hnone⟩ := htimely hi
    exact h.stores hi hd hnone
  | failing => exact h.fails hi
  | draining => exact h.drains hi
  | dropping endpoints =>
    cases endpoints with
    | cons j endpoints => exact h.drops hi
    | nil => exact h.setStart (by simp [hi]) (by simp [hi, StartPhase.endpoints]) (by simp [StartPhase.stored]) (by simp)
  | binding =>
    cases result with
    | ok => exact h.serves hi
    | error e => exact h.setStart (by simp [hi]) (by simp [hi, StartPhase.endpoints]) (by simp [StartPhase.stored]) (by simp)
  | waiting =>
    have hgo : ∀ phase, phase ≠ .draining → (s.setStart i phase).Kept := fun phase hphase =>
      h.setStart (by simp [hi]) (by simp [hi, StartPhase.endpoints]) (by simp [hi, StartPhase.stored]) hphase
    cases result with
    | ok => exact hgo _ (by simp)
    | error e =>
      dsimp only
      split_ifs
      · exact hgo _ (by simp)
      · exact hgo _ (by simp)
  | returned result => exact h
  | uncalled | entered | admitted =>
    have hgo : ∀ phase, phase.stored = false → (s.setStart i phase).Kept := fun phase hphase =>
      h.setStart (by simp [hi]) (by simp [hi, StartPhase.endpoints]) (by simp [hphase])
        (by rintro rfl; cases hphase)
    dsimp only
    first
      | exact hgo _ rfl
      | split_ifs <;> exact hgo _ rfl

theorem Kept.workerStep (h : s.Kept) {ok : Bool} (htimely : s.Timely (.worker j ok)) :
    (s.workerStep j ok).Kept := by
  unfold QuicTunnelListener.workerStep
  cases hj : s.workers j with
  | registering => exact h.registers j (htimely hj)
  | refused => exact h.refuses j
  | admitted =>
    dsimp only
    split_ifs
    · exact h.creates j
    · exact h.setWorker (by simp [hj, WorkerPhase.holds])
  | created =>
    dsimp only
    split_ifs
    · exact h.setWorker (by simp [WorkerPhase.holds])
    · exact h.setWorker (by simp [WorkerPhase.holds])
  | entered =>
    dsimp only
    split_ifs
    · exact h.setWorker (by simp [hj, WorkerPhase.holds])
    · exact h.setWorker (by simp [hj, WorkerPhase.holds])
  | uncalled | accepting => exact h.setWorker (by simp [hj, WorkerPhase.holds])
  | returned => exact h

theorem Kept.closeStep (h : s.Kept) (k : Nat) : (s.closeStep k).Kept := by
  unfold QuicTunnelListener.closeStep
  cases hk : s.closes k with
  | uncalled =>
    exact h.setClose (by simp [hk, ClosePhase.endpoints]) (by simp [hk, ClosePhase.server])
      (by simp [hk]) (by rintro ⟨⟩)
  | entered =>
    dsimp only
    split_ifs with hclosed
    · exact h.setClose (by simp [hk, ClosePhase.endpoints]) (by simp [hk, ClosePhase.server])
        (by simp [hk]) fun _ => hclosed
    · exact h.swaps hk
  | swapped => exact h.takes hk
  | closing endpoints server =>
    cases endpoints with
    | cons j endpoints => exact h.closesEndpoint hk
    | nil =>
      cases server with
      | some i => exact h.closesServer hk
      | none =>
        exact h.setClose (by simp [hk, ClosePhase.endpoints]) (by simp [hk, ClosePhase.server])
          (by simp [hk]) fun _ => h.closed k (by rw [hk]; rfl)
  | returned => exact h

theorem Kept.step (h : s.Kept) {ev : Event} (htimely : s.Timely ev) : (s.step ev).Kept := by
  cases ev with
  | bind => exact { h with }
  | start i result => exact h.startStep htimely
  | worker j ok => exact h.workerStep htimely
  | close k => exact h.closeStep k

/-- When all calls have settled, nobody holds anything. -/
theorem Kept.ended (h : s.Kept) (hset : s.Settled) : s.Ended := by
  obtain ⟨k, hk⟩ := hset.closed
  have hclosed : s.closed = true := h.closed k (by rw [hk]; rfl)
  have hdrained : s.drained = true := by
    rcases h.swapped hclosed with hd | ⟨k', hk'⟩
    · exact hd
    · rcases hset.closes k' with hun | hret
      · cases hun.symm.trans hk'
      · cases hret.symm.trans hk'
  obtain ⟨hends, hserver, hpunch⟩ := h.drained hdrained
  refine ⟨fun j hj => ?_, fun i hi => ?_, hends, hserver, hpunch⟩
  · rcases h.endpoint j hj with hdone | hl | hw | ⟨k', hk'⟩ | ⟨i, hi⟩
    · exact hdone
    · rw [hends] at hl
      cases hl
    · rcases hset.workers j with hj' | hj' | hj' <;> rw [hj'] at hw <;> cases hw
    · rcases hset.closes k' with hret | hret <;> rw [hret] at hk' <;> cases hk'
    · rcases hset.starts i with hret | ⟨result, hret⟩ <;> rw [hret] at hi <;> cases hi
  · rcases h.opened i hi with hdone | hl | hs | ⟨k', hk'⟩
    · exact hdone
    · cases hserver.symm.trans hl
    · rcases hset.starts i with hret | ⟨result, hret⟩ <;> cases hret.symm.trans hs
    · rcases hset.closes k' with hret | hret <;> rw [hret] at hk' <;> cases hk'

/-! What a run does not mention stays as it is. -/

theorem step_starts_ne {ev : Event} (h : ∀ result, ev ≠ .start i result) :
    (s.step ev).starts i = s.starts i := by
  cases ev with
  | bind => rfl
  | start i' result =>
    have hne : i ≠ i' := fun heq => h result (heq ▸ rfl)
    show (s.startStep i' result).starts i = s.starts i
    unfold startStep
    repeat' split
    all_goals first | rfl | exact Function.update_of_ne hne ..
  | worker j ok =>
    show (s.workerStep j ok).starts i = s.starts i
    unfold workerStep
    repeat' split
    all_goals rfl
  | close k =>
    show (s.closeStep k).starts i = s.starts i
    unfold closeStep
    repeat' split
    all_goals rfl

theorem step_workers_ne {ev : Event} (h : ∀ ok, ev ≠ .worker j ok) :
    (s.step ev).workers j = s.workers j := by
  cases ev with
  | bind => rfl
  | start i result =>
    show (s.startStep i result).workers j = s.workers j
    unfold startStep
    repeat' split
    all_goals rfl
  | worker j' ok =>
    have hne : j ≠ j' := fun heq => h ok (heq ▸ rfl)
    show (s.workerStep j' ok).workers j = s.workers j
    unfold workerStep
    repeat' split
    all_goals first | rfl | exact Function.update_of_ne hne ..
  | close k =>
    show (s.closeStep k).workers j = s.workers j
    unfold closeStep
    repeat' split
    all_goals rfl

theorem step_closes_ne {ev : Event} (h : ev ≠ .close k) : (s.step ev).closes k = s.closes k := by
  cases ev with
  | bind => rfl
  | start i result =>
    show (s.startStep i result).closes k = s.closes k
    unfold startStep
    repeat' split
    all_goals rfl
  | worker j ok =>
    show (s.workerStep j ok).closes k = s.closes k
    unfold workerStep
    repeat' split
    all_goals rfl
  | close k' =>
    have hne : k ≠ k' := fun heq => h (heq ▸ rfl)
    show (s.closeStep k').closes k = s.closes k
    unfold closeStep
    repeat' split
    all_goals first | rfl | exact Function.update_of_ne hne ..

/-- The calls with the number 0 are the only ones of the run. -/
def Single (ev : Event) : Prop :=
  match ev with
  | .bind => True
  | .start i _ => i = 0
  | .worker j _ => j = 0
  | .close k => k = 0

instance (ev : Event) : Decidable (Single ev) := by
  cases ev <;> unfold Single <;> infer_instance

theorem single_uncalled {evs : List Event} (hall : ∀ ev ∈ evs, Single ev) {n : Nat} (hn : n ≠ 0) :
    (exec step .new evs).starts n = .uncalled ∧ (exec step .new evs).workers n = .uncalled ∧
      (exec step .new evs).closes n = .uncalled := by
  refine exec_inv (C := fun _ ev => Single ev)
    (I := fun s : QuicTunnelListener =>
      s.starts n = .uncalled ∧ s.workers n = .uncalled ∧ s.closes n = .uncalled)
    ?_ ⟨rfl, rfl, rfl⟩ (along_of_forall _ hall)
  rintro s ev ⟨hstart, hworker, hclose⟩ hev
  refine ⟨?_, ?_, ?_⟩
  · rwa [step_starts_ne (by rintro result rfl; exact hn hev)]
  · rwa [step_workers_ne (by rintro ok rfl; exact hn hev)]
  · rwa [step_closes_ne (by rintro rfl; exact hn hev)]

/-- The calls of a run of `Single` events have settled when those with the number 0 have. -/
theorem single_settled {evs : List Event} (hall : ∀ ev ∈ evs, Single ev) (result : P2pResult Unit)
    (hclose : (exec step .new evs).closes 0 = .returned)
    (hstart : (exec step .new evs).starts 0 = .returned result)
    (hworker : (exec step .new evs).workers 0 = .accepting) : (exec step .new evs).Settled where
  closed := ⟨0, hclose⟩
  closes k := by
    by_cases hk : k = 0
    · exact .inr (hk ▸ hclose)
    · exact .inl (single_uncalled hall hk).2.2
  starts i := by
    by_cases hi : i = 0
    · exact .inr ⟨result, hi ▸ hstart⟩
    · exact .inl (single_uncalled hall hi).1
  workers j := by
    by_cases hj : j = 0
    · exact .inr (.inl (hj ▸ hworker))
    · exact .inl (single_uncalled hall hj).2.1

/-- In a run in which everything comes into the lists before `close` empties them, and no server is
stored over another one, nothing is left open. -/
theorem settled_ended (evs : List Event) (htimely : Along step Timely .new evs)
    (hset : (exec step .new evs).Settled) : (exec step .new evs).Ended := by
  have hkept : (exec step .new evs).Kept :=
    exec_inv (fun s ev h hev => h.step hev) kept_new htimely
  exact hkept.ended hset

/-- A listener with a server and a registered worker is closed. -/
def inOrder : List Event :=
  [.bind, .start 0 (.ok ()), .start 0 (.ok ()), .start 0 (.ok ()), .start 0 (.ok ()),
    .start 0 (.ok ()), .worker 0 true, .worker 0 true, .worker 0 true, .worker 0 true,
    .worker 0 true, .start 0 (.ok ()), .close 0, .close 0, .close 0, .close 0, .close 0, .close 0]

theorem inOrder_ended : (exec step .new inOrder).Ended :=
  settled_ended inOrder (by decide +kernel)
    (single_settled (by decide) (.ok ()) (by decide +kernel) (by decide +kernel)
      (by decide +kernel))

/-- The worker has tested `closed` when `close` sets it, and registers when `close` has returned. -/
def late : List Event :=
  [.bind, .start 0 (.ok ()), .start 0 (.ok ()), .start 0 (.ok ()), .start 0 (.ok ()),
    .start 0 (.ok ()), .start 0 (.ok ()), .worker 0 true, .worker 0 true, .worker 0 true,
    .worker 0 true, .close 0, .close 0, .close 0, .close 0, .close 0, .worker 0 true]

theorem late_open : ¬∀ evs : List Event,
    (exec step .new evs).Settled → (exec step .new evs).Ended := by
  intro hall
  have hset : (exec step .new late).Settled :=
    single_settled (by decide) (.ok ()) (by decide +kernel) (by decide +kernel)
      (by decide +kernel)
  have hclosed := (hall late hset).endpoint 0 (by decide +kernel)
  exact absurd hclosed (by decide +kernel)

end QuicTunnelListener

end BuckyP2p.Quic.Listener
