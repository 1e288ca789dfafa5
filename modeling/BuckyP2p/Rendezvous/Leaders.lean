import BuckyP2p.Rendezvous.Waiters

/-!
# BuckyP2p.Rendezvous.Leaders — executors of rendezvous requests and their entries

The tasks of `process_rendezvous_request` over one table.  A task whose `begin` returned `New` is
an executor: it delivers the request, then caches the response or drops its armed
`RendezvousLeaderGuard`.  `Service` has the table, the executors, and four books that the code does
not keep: the executor that made the entry of a key (`owners`), the executor whose entry a waiter
joined (`attached`), the outcomes with their causes (`served`) and the entries that executors
answered or failed (`acts`).

`cache_response` and `fail_unanswered` know an entry by its key and the contents of its request.
When an entry is gone while its executor still runs, the same request makes a second one, and the
first executor answers or fails it (`overlap`).  `Led` is the invariant of the runs in which this
does not happen, that is in which no request makes an entry that a running executor takes for its
own (`Unrivalled`).
-/

namespace BuckyP2p.Rendezvous

open Lib

inductive Phase
  | delivering
  | failing
  | returned (response : SnTunnelRendezvousResp)
  | cancelled
  deriving DecidableEq

/-- A task whose `begin` returned `New`.  `gone` says that the entry it made has expired or was
removed with its peer. -/
structure Executor where
  initiator : P2pId
  request : SnTunnelRendezvous
  expiresAt : Timestamp
  phase : Phase
  gone : Bool
  deriving DecidableEq

namespace Executor

def key (x : Executor) : RendezvousKey := .new x.initiator x.request

/-- The guard of the executor is armed. -/
def armed (x : Executor) : Bool := x.phase = .delivering ∨ x.phase = .failing

/-- The clock is read. -/
def age (now : Timestamp) (x : Executor) : Executor :=
  { x with gone := x.gone || decide (x.expiresAt ≤ now) }

/-- A peer disconnects. -/
def leave (peerId : P2pId) (x : Executor) : Executor :=
  { x with gone := x.gone || decide (x.initiator = peerId ∨ x.request.toPeerId = peerId) }

end Executor

/-- Why a waiter got its outcome. -/
inductive Cause
  | expired
  | removed
  | leader (k : Nat)
  deriving DecidableEq

structure Service where
  state : RendezvousState
  execs : List Executor
  owners : Table RendezvousKey Nat
  attached : List (Option Nat)
  served : List (Nat × Outcome × Cause)
  acts : List (Nat × Option Nat)

inductive Event
  /-- `begin`. -/
  | request (initiator : P2pId) (request : SnTunnelRendezvous) (now : Timestamp)
  /-- A response came within the limit; `cache_response`. -/
  | delivered (k : Nat) (response : SnTunnelRendezvousResp) (now : Timestamp)
  /-- The delivery failed or the limit passed. -/
  | undelivered (k : Nat)
  /-- The guard is dropped as the task returns. -/
  | dropGuard (k : Nat)
  /-- The task is dropped while it delivers. -/
  | cancel (k : Nat)
  | removePeer (peerId : P2pId)
  deriving DecidableEq

/-- What an operation sent, with its cause. -/
def Done.causedBy {α : Type} (d : Done α) (c : Cause) : List (Nat × Outcome × Cause) :=
  d.sends.map fun x => (x.1, x.2, c)

namespace Service

def init : Service := ⟨.new, [], ∅, [], [], []⟩

def begins (s : Service) (initiator : P2pId) (request : SnTunnelRendezvous) (now : Timestamp) :
    Service :=
  let d := s.state.begin initiator request now s.attached.length
  let s' := { s with
    state := d.state
    execs := s.execs.map (.age now)
    served := s.served ++ d.causedBy .expired }
  match d.result with
  | .ok .new =>
    { s' with
      execs := s'.execs ++
        [⟨initiator, request, saturatingAdd now maxRequestLifetime, .delivering, false⟩]
      owners := s.owners.insert (.new initiator request) s.execs.length }
  | .ok (.inFlight _) =>
    { s' with attached := s.attached ++ [s.owners.lookup (.new initiator request)] }
  | _ => s'

/-- The executor `k` caches its response. -/
def caches (s : Service) (k : Nat) (x : Executor) (response : SnTunnelRendezvousResp)
    (now : Timestamp) : Service :=
  let d := s.state.cacheResponse x.initiator x.request response now
  match d.result with
  | .ok () =>
    { s with
      state := d.state
      execs := (s.execs.set k { x with phase := .returned response }).map (.age now)
      served := s.served ++ d.causedBy (.leader k)
      acts := s.acts ++ [(k, s.owners.lookup x.key)] }
  | .error _ =>
    { s with
      state := d.state
      execs := (s.execs.set k { x with phase := .failing }).map (.age now)
      served := s.served ++ d.causedBy .expired }

/-- The guard of the executor `k` is dropped while armed. -/
def fails (s : Service) (k : Nat) (x : Executor) (phase : Phase) : Service :=
  let d := s.state.failUnanswered x.initiator x.request
  { s with
    state := d.state
    execs := s.execs.set k { x with phase := phase }
    served := s.served ++ d.causedBy (.leader k)
    acts := s.acts ++
      if d.state.entries.lookup x.key = s.state.entries.lookup x.key then []
      else [(k, s.owners.lookup x.key)] }

def step (s : Service) : Event → Service
  | .request i r now => s.begins i r now
  | .delivered k response now =>
    match s.execs[k]? with
    | some x => if x.phase = .delivering then s.caches k x response now else s
    | none => s
  | .undelivered k =>
    match s.execs[k]? with
    | some x =>
      if x.phase = .delivering then { s with execs := s.execs.set k { x with phase := .failing } }
      else s
    | none => s
  | .dropGuard k =>
    match s.execs[k]? with
    | some x =>
      if x.phase = .failing then s.fails k x (.returned (.failure x.request.seq)) else s
    | none => s
  | .cancel k =>
    match s.execs[k]? with
    | some x => if x.phase = .delivering then s.fails k x .cancelled else s
    | none => s
  | .removePeer p =>
    let d := s.state.removePeer p
    { s with
      state := d.state
      execs := s.execs.map (.leave p)
      served := s.served ++ d.causedBy .removed }

end Service

/-! ## The invariant -/

/-- The executor moves on: it stays what it is, is not armed again, and what is gone stays gone. -/
structure Executor.Later (x x' : Executor) : Prop where
  initiator : x'.initiator = x.initiator
  request : x'.request = x.request
  expiresAt : x'.expiresAt = x.expiresAt
  armed : x'.armed = true → x.armed = true
  gone : x'.gone = false → x.gone = false

theorem Executor.Later.key {x x' : Executor} (h : x.Later x') : x'.key = x.key := by
  rw [Executor.key, Executor.key, h.initiator, h.request]

theorem Executor.Later.rfl' (x : Executor) : x.Later x := ⟨rfl, rfl, rfl, id, id⟩

theorem Executor.Later.trans {x y z : Executor} (h : x.Later y) (h' : y.Later z) : x.Later z where
  initiator := h'.initiator.trans h.initiator
  request := h'.request.trans h.request
  expiresAt := h'.expiresAt.trans h.expiresAt
  armed := h.armed ∘ h'.armed
  gone := h.gone ∘ h'.gone

theorem Executor.later_age (x : Executor) (now : Timestamp) : x.Later (x.age now) where
  initiator := rfl
  request := rfl
  expiresAt := rfl
  armed := id
  gone h := by
    simp only [Executor.age, Bool.or_eq_false_iff] at h
    exact h.1

theorem Executor.gone_age {x : Executor} {now : Timestamp} (h : x.expiresAt ≤ now) :
    (x.age now).gone = true := by
  simp [Executor.age, h]

theorem Executor.live_of_age {x : Executor} {now : Timestamp} (h : (x.age now).gone = false) :
    now < x.expiresAt := by
  simp only [Executor.age, Bool.or_eq_false_iff, decide_eq_false_iff_not, not_le] at h
  exact h.2

theorem Executor.gone_leave {x : Executor} {p : P2pId}
    (h : x.initiator = p ∨ x.request.toPeerId = p) : (x.leave p).gone = true := by
  simp [Executor.leave, h]

theorem Executor.later_leave (x : Executor) (p : P2pId) : x.Later (x.leave p) where
  initiator := rfl
  request := rfl
  expiresAt := rfl
  armed := id
  gone h := by
    simp only [Executor.leave, Bool.or_eq_false_iff] at h
    exact h.1

/-- The executors of a later state, one by one. -/
def Onward (xs xs' : List Executor) : Prop :=
  xs'.length = xs.length ∧ ∀ (k : Nat) x', xs'[k]? = some x' → ∃ x, xs[k]? = some x ∧ x.Later x'

namespace Onward

variable {xs ys zs : List Executor}

theorem map {f : Executor → Executor} (h : ∀ x : Executor, x.Later (f x)) : Onward xs (xs.map f) := by
  refine ⟨List.length_map _, fun k x' hx' => ?_⟩
  rw [List.getElem?_map, Option.map_eq_some_iff] at hx'
  obtain ⟨x, hx, rfl⟩ := hx'
  exact ⟨x, hx, h x⟩

theorem set {k : Nat} {x x' : Executor} (hx : xs[k]? = some x) (h : x.Later x') :
    Onward xs (xs.set k x') := by
  refine ⟨List.length_set, fun j y hy => ?_⟩
  rw [List.getElem?_set] at hy
  split_ifs at hy with hj hlt
  · cases hy
    exact ⟨x, hj ▸ hx, h⟩
  · exact ⟨y, hy, .rfl' y⟩

theorem trans (h : Onward xs ys) (h' : Onward ys zs) : Onward xs zs := by
  refine ⟨h'.1.trans h.1, fun k z hz => ?_⟩
  obtain ⟨y, hy, hyz⟩ := h'.2 k z hz
  obtain ⟨x, hx, hxy⟩ := h.2 k y hy
  exact ⟨x, hx, hxy.trans hyz⟩

theorem forth (h : Onward xs ys) {k : Nat} {x : Executor} (hx : xs[k]? = some x) :
    ∃ y, ys[k]? = some y ∧ x.Later y := by
  have hlt : k < ys.length := h.1 ▸ (List.getElem?_eq_some_iff.mp hx).1
  obtain ⟨x', hx', hl⟩ := h.2 k ys[k] (List.getElem?_eq_getElem hlt)
  rw [hx] at hx'
  cases hx'
  exact ⟨_, List.getElem?_eq_getElem hlt, hl⟩

end Onward

/-- The entries, the executors and the books fit together. -/
structure Led (t : Table RendezvousKey RendezvousEntry) (execs : List Executor)
    (owners : Table RendezvousKey Nat) (attached : List (Option Nat)) : Prop where
  owner : ∀ key e, t.lookup key = some e → ∃ (k : Nat) (x : Executor), owners.lookup key = some k ∧
    execs[k]? = some x ∧ x.key = key ∧ e.request = x.request ∧ e.expiresAt = x.expiresAt
  /-- What an armed executor takes for its entry is its entry. -/
  sole : ∀ (k : Nat) x e, execs[k]? = some x → x.armed = true → t.lookup x.key = some e →
    e.request.eq x.request = true → owners.lookup x.key = some k
  /-- The entry of an armed executor is there, unless it is gone, with all who joined it. -/
  kept : ∀ (k : Nat) x, execs[k]? = some x → x.armed = true → x.gone = false →
    ∃ e, t.lookup x.key = some e ∧ owners.lookup x.key = some k ∧ e.response = none ∧
      ∀ w : Nat, attached[w]? = some (some k) → w ∈ e.waiters
  waiter : ∀ key e, t.lookup key = some e → ∀ w ∈ e.waiters,
    attached[w]? = some (owners.lookup key)
  bound : ∀ (w k : Nat), attached[w]? = some (some k) → k < execs.length

namespace Led

variable {t t' : Table RendezvousKey RendezvousEntry} {execs execs' : List Executor}
  {owners : Table RendezvousKey Nat} {attached : List (Option Nat)}

/-- Entries leave the table; those of armed executors only when they are gone. -/
theorem leave (h : Led t execs owners attached)
    (hsub : ∀ key e, t'.lookup key = some e → t.lookup key = some e) (hon : Onward execs execs')
    (hstay : ∀ (k : Nat) x e, execs'[k]? = some x → x.armed = true → x.gone = false →
      t.lookup x.key = some e → owners.lookup x.key = some k → e.request = x.request →
      e.expiresAt = x.expiresAt → t'.lookup x.key = some e) :
    Led t' execs' owners attached where
  owner key e hl := by
    obtain ⟨k, x, ho, hx, hkey, hreq, hexp⟩ := h.owner key e (hsub key e hl)
    obtain ⟨x', hx', hlater⟩ := hon.forth hx
    exact ⟨k, x', ho, hx', hlater.key.trans hkey, hreq.trans hlater.request.symm,
      hexp.trans hlater.expiresAt.symm⟩
  sole k x' e hx' harm hl heq := by
    obtain ⟨x, hx, hlater⟩ := hon.2 k x' hx'
    rw [hlater.key] at hl ⊢
    rw [hlater.request] at heq
    exact h.sole k x e hx (hlater.armed harm) (hsub _ e hl) heq
  kept k x' hx' harm hgone := by
    obtain ⟨x, hx, hlater⟩ := hon.2 k x' hx'
    obtain ⟨e, hl, ho, hresp, hw⟩ := h.kept k x hx (hlater.armed harm) (hlater.gone hgone)
    obtain ⟨k', y, ho', hy, -, hreq, hexp⟩ := h.owner _ e hl
    rw [ho] at ho'
    cases ho'
    rw [hx] at hy
    cases hy
    rw [← hlater.key] at hl ho
    have hin := hstay k x' e hx' harm hgone hl ho (hreq.trans hlater.request.symm)
      (hexp.trans hlater.expiresAt.symm)
    exact ⟨e, hin, ho, hresp, hw⟩
  waiter key e hl := h.waiter key e (hsub key e hl)
  bound w k hw := hon.1.symm ▸ h.bound w k hw

/-- The executor `k` answers its entry and is not armed any more. -/
theorem answer (h : Led t execs owners attached) (hon : Onward execs execs') {k : Nat}
    {x : Executor} {e e' : RendezvousEntry} (hx : execs[k]? = some x) (harm : x.armed = true)
    (hl : t.lookup x.key = some e) (heq : e.request.eq x.request = true)
    (hreq : e'.request = e.request) (hexp : e'.expiresAt = e.expiresAt) (hw : e'.waiters = [])
    (hdone : ∀ x', execs'[k]? = some x' → x'.armed = false) :
    Led (t.insert x.key e') execs' owners attached where
  owner key e'' hl'' := by
    have hold : ∃ e₀, t.lookup key = some e₀ ∧ e''.request = e₀.request ∧
        e''.expiresAt = e₀.expiresAt := by
      rcases Table.lookup_insert_some.mp hl'' with ⟨rfl, rfl⟩ | ⟨hk, hl''⟩
      · exact ⟨e, hl, hreq, hexp⟩
      · exact ⟨e'', hl'', rfl, rfl⟩
    obtain ⟨e₀, hl₀, hr₀, he₀⟩ := hold
    obtain ⟨j, y, ho, hy, hkey, hr, he⟩ := h.owner key e₀ hl₀
    obtain ⟨y', hy', hlater⟩ := hon.forth hy
    exact ⟨j, y', ho, hy', hlater.key.trans hkey, (hr₀.trans hr).trans hlater.request.symm,
      (he₀.trans he).trans hlater.expiresAt.symm⟩
  sole j y' e'' hy' harm' hl'' heq' := by
    obtain ⟨y, hy, hlater⟩ := hon.2 j y' hy'
    rw [hlater.key] at hl'' ⊢
    rw [hlater.request] at heq'
    by_cases hk : y.key = x.key
    · rw [hk, AList.lookup_insert] at hl''
      cases hl''
      rw [hreq] at heq'
      exact h.sole j y e hy (hlater.armed harm') (hk ▸ hl) heq'
    · rw [AList.lookup_insert_ne hk] at hl''
      exact h.sole j y e'' hy (hlater.armed harm') hl'' heq'
  kept j y' hy' harm' hgone := by
    obtain ⟨y, hy, hlater⟩ := hon.2 j y' hy'
    obtain ⟨e₀, hl₀, ho, hresp, hall⟩ := h.kept j y hy (hlater.armed harm') (hlater.gone hgone)
    have hk : y.key ≠ x.key := by
      intro hk
      rw [hk, h.sole k x e hx harm hl heq] at ho
      cases ho
      exact absurd harm' (by rw [hdone y' hy']; decide)
    rw [hlater.key]
    exact ⟨e₀, (AList.lookup_insert_ne hk).trans hl₀, ho, hresp, hall⟩
  waiter key e'' hl'' w hw'' := by
    rcases Table.lookup_insert_some.mp hl'' with ⟨rfl, rfl⟩ | ⟨hk, hl''⟩
    · rw [hw] at hw''
      cases hw''
    · exact h.waiter key e'' hl'' w hw''
  bound w j hw' := hon.1.symm ▸ h.bound w j hw'

/-- A waiter joins an entry that is not answered. -/
theorem join (h : Led t execs owners attached) {key : RendezvousKey} {e : RendezvousEntry}
    (hl : t.lookup key = some e) :
    Led (t.insert key { e with waiters := e.waiters ++ [attached.length] }) execs owners
      (attached ++ [owners.lookup key]) where
  owner key' e' hl' := by
    rcases Table.lookup_insert_some.mp hl' with ⟨rfl, rfl⟩ | ⟨hk, hl'⟩
    · exact h.owner _ e hl
    · exact h.owner key' e' hl'
  sole k x e' hx harm hl' heq := by
    by_cases hk : x.key = key
    · rw [hk, AList.lookup_insert] at hl'
      cases hl'
      exact h.sole k x e hx harm (hk ▸ hl) heq
    · rw [AList.lookup_insert_ne hk] at hl'
      exact h.sole k x e' hx harm hl' heq
  kept k x hx harm hgone := by
    obtain ⟨e', hl', ho, hresp, hall⟩ := h.kept k x hx harm hgone
    by_cases hk : x.key = key
    · rw [hk, hl] at hl'
      cases hl'
      rw [hk, AList.lookup_insert]
      refine ⟨_, rfl, hk ▸ ho, hresp, fun w hw => ?_⟩
      rw [List.getElem?_append] at hw
      split_ifs at hw with hlt
      · exact List.mem_append_left _ (hall w hw)
      · rw [List.getElem?_singleton] at hw
        split_ifs at hw with hz
        have hlen : w = attached.length := by omega
        exact List.mem_append_right _ (List.mem_singleton.mpr hlen)
    · refine ⟨e', (AList.lookup_insert_ne hk).trans hl', ho, hresp, fun w hw => ?_⟩
      rw [List.getElem?_append] at hw
      split_ifs at hw with hlt
      · exact hall w hw
      · -- the new waiter joined the entry of another key, which has another owner
        rw [List.getElem?_singleton] at hw
        split_ifs at hw with hz
        obtain ⟨j, y, hoj, hy, hyk, -⟩ := h.owner key e hl
        rw [hoj] at hw
        cases hw
        rw [hx] at hy
        cases hy
        exact absurd hyk hk
  waiter key' e' hl' w hw := by
    have hold : ∀ o : Option Nat, attached[w]? = some o →
        (attached ++ [owners.lookup key])[w]? = some o := by
      intro o ho
      rw [List.getElem?_append_left (List.getElem?_eq_some_iff.mp ho).1]
      exact ho
    rcases Table.lookup_insert_some.mp hl' with ⟨rfl, rfl⟩ | ⟨hk, hl'⟩
    · rcases List.mem_append.mp hw with hw | hw
      · exact hold _ (h.waiter _ e hl w hw)
      · rw [List.mem_singleton.mp hw]
        exact List.getElem?_concat_length
    · exact hold _ (h.waiter key' e' hl' w hw)
  bound w k hw := by
    rw [List.getElem?_append] at hw
    split_ifs at hw with hlt
    · exact h.bound w k hw
    · rw [List.getElem?_singleton] at hw
      split_ifs at hw with hz
      obtain ⟨j, y, hoj, hy, -⟩ := h.owner key e hl
      rw [hoj] at hw
      cases hw
      exact (List.getElem?_eq_some_iff.mp hy).1

/-- A new executor makes an entry that no armed executor takes for its own. -/
theorem create (h : Led t execs owners attached) {x : Executor} {e : RendezvousEntry}
    (hnone : t.lookup x.key = none) (hreq : e.request = x.request)
    (hexp : e.expiresAt = x.expiresAt) (hresp : e.response = none) (hw : e.waiters = [])
    (hno : ∀ (k : Nat) y, execs[k]? = some y → y.armed = true → y.initiator = x.initiator →
      x.request.eq y.request = false) :
    Led (t.insert x.key e) (execs ++ [x]) (owners.insert x.key execs.length) attached where
  owner key e' hl' := by
    rcases Table.lookup_insert_some.mp hl' with ⟨rfl, rfl⟩ | ⟨hk, hl'⟩
    · exact ⟨_, x, AList.lookup_insert _, List.getElem?_concat_length, rfl, hreq, hexp⟩
    · obtain ⟨k, y, ho, hy, hkey, hr, he⟩ := h.owner key e' hl'
      refine ⟨k, y, (AList.lookup_insert_ne hk).trans ho, ?_, hkey, hr, he⟩
      rw [List.getElem?_append_left (List.getElem?_eq_some_iff.mp hy).1]
      exact hy
  sole k y e' hy harm hl' heq := by
    rw [List.getElem?_append] at hy
    split_ifs at hy with hlt
    · by_cases hk : y.key = x.key
      · rw [hk, AList.lookup_insert] at hl'
        cases hl'
        have hi : y.initiator = x.initiator := congrArg RendezvousKey.initiator hk
        rw [hreq, hno k y hy harm hi] at heq
        cases heq
      · rw [AList.lookup_insert_ne hk] at hl' ⊢
        exact h.sole k y e' hy harm hl' heq
    · rw [List.getElem?_singleton] at hy
      split_ifs at hy with hz
      cases hy
      rw [AList.lookup_insert]
      congr 1
      omega
  kept k y hy harm hgone := by
    rw [List.getElem?_append] at hy
    split_ifs at hy with hlt
    · obtain ⟨e', hl', ho, hr, hall⟩ := h.kept k y hy harm hgone
      have hk : y.key ≠ x.key := by
        intro hk
        rw [hk, hnone] at hl'
        cases hl'
      exact ⟨e', (AList.lookup_insert_ne hk).trans hl', (AList.lookup_insert_ne hk).trans ho, hr,
        hall⟩
    · rw [List.getElem?_singleton] at hy
      split_ifs at hy with hz
      cases hy
      have hlen : execs.length = k := by omega
      refine ⟨e, AList.lookup_insert _, ?_, hresp, fun w hw' => ?_⟩
      · rw [AList.lookup_insert, hlen]
      · exact absurd (h.bound w k hw') (by omega)
  waiter key e' hl' w hw' := by
    by_cases hk : key = x.key
    · subst hk
      rw [AList.lookup_insert] at hl'
      cases hl'
      rw [hw] at hw'
      cases hw'
    · rw [AList.lookup_insert_ne hk] at hl' ⊢
      exact h.waiter key e' hl' w hw'
  bound w k hw' := by
    have hlt := h.bound w k hw'
    rw [List.length_append]
    omega

end Led

/-! ## The steps -/

/-- The limits of `begin` let the request make an entry. -/
def RendezvousState.Admits (s : RendezvousState) (i : P2pId) (r : SnTunnelRendezvous)
    (now : Timestamp) : Prop :=
  (s.cleanup now).state.entries.lookup (.new i r) = none ∧
    (s.cleanup now).state.entries.entries.length < maxLiveAttempts ∧
    (s.cleanup now).state.pairAttempts i r.toPeerId < maxLiveAttemptsPerPair ∧
    ((((s.cleanup now).state.rateWindows.lookup i).getD []).dropWhile
      (RendezvousState.stale now)).length < maxRequestsPerInitiatorWindow

instance (s : RendezvousState) (i : P2pId) (r : SnTunnelRendezvous) (now : Timestamp) :
    Decidable (s.Admits i r now) := by unfold RendezvousState.Admits; infer_instance

theorem RendezvousState.admits_iff {s : RendezvousState} {i : P2pId} {r : SnTunnelRendezvous}
    {now : Timestamp} {w : Nat} : s.Admits i r now ↔ (s.begin i r now w).result = .ok .new := by
  rcases s.begin_cases i r now w with ⟨e, hl, heq⟩ | ⟨hl, heq⟩
  · constructor
    · rintro ⟨hnone, -⟩
      rw [hl] at hnone
      cases hnone
    · intro h
      rw [heq] at h
      exact absurd h ((s.cleanup now).state.join_ne_new _ e r w)
  · rw [heq, Admits]
    unfold create
    dsimp only
    constructor
    · rintro ⟨-, hlen, hpair, hrate⟩
      rw [if_neg (by omega), if_neg (by omega)]
    · intro h
      split_ifs at h with h1 h2
      exact ⟨hl, by omega, by omega, by omega⟩

namespace Service

variable {s : Service}

/-- No request makes an entry that an executor whose guard is armed takes for its own. -/
def Unrivalled (s : Service) : Event → Prop
  | .request i r now => s.state.Admits i r now →
      ∀ x ∈ s.execs, x.armed = true → x.initiator = i → r.eq x.request = false
  | _ => True

instance (s : Service) : (ev : Event) → Decidable (s.Unrivalled ev)
  | .request i r now => inferInstanceAs (Decidable (s.state.Admits i r now →
      ∀ x ∈ s.execs, x.armed = true → x.initiator = i → r.eq x.request = false))
  | .delivered .. | .undelivered _ | .dropGuard _ | .cancel _ | .removePeer _ => isTrue trivial

structure Apart (s : Service) : Prop where
  led : Led s.state.entries s.execs s.owners s.attached
  acts : ∀ k o, (k, o) ∈ s.acts → o = some k
  served : ∀ (w : Nat) o c, (w, o, c) ∈ s.served → ∃ (k : Nat) (x : Executor),
    s.attached[w]? = some (some k) ∧ s.execs[k]? = some x ∧ (c = .leader k ∨ x.gone = true)

theorem apart_init : Apart .init where
  led := by
    refine ⟨?_, ?_, ?_, ?_, ?_⟩
    · rintro key e ⟨⟩
    · rintro k x e ⟨⟩
    · rintro k x ⟨⟩
    · rintro key e ⟨⟩
    · rintro w k ⟨⟩
  acts := by rintro k o ⟨⟩
  served := by rintro w o c ⟨⟩

theorem mem_causedBy {α : Type} {d : Done α} {c c' : Cause} {w : Nat} {o : Outcome}
    (h : (w, o, c') ∈ d.causedBy c) : (w, o) ∈ d.sends ∧ c' = c := by
  obtain ⟨⟨w', o'⟩, hmem, heq⟩ := List.mem_map.mp h
  cases heq
  exact ⟨hmem, rfl⟩

/-- The outcomes served before keep their reasons. -/
theorem Apart.before (h : s.Apart) {execs : List Executor} (hon : Onward s.execs execs)
    {w : Nat} {o : Outcome} {c : Cause} (hmem : (w, o, c) ∈ s.served) :
    ∃ (k : Nat) (x : Executor), s.attached[w]? = some (some k) ∧ execs[k]? = some x ∧
      (c = .leader k ∨ x.gone = true) := by
  obtain ⟨k, x, hw, hx, hc⟩ := h.served w o c hmem
  obtain ⟨x', hx', hlater⟩ := hon.forth hx
  refine ⟨k, x', hw, hx', hc.imp_right fun hg => ?_⟩
  rw [← Bool.not_eq_false]
  intro hg'
  rw [hlater.gone hg'] at hg
  cases hg

/-- The waiters of an entry joined the entry of its owner. -/
theorem Apart.owner (h : s.Apart) {key : RendezvousKey} {e : RendezvousEntry}
    (hl : s.state.entries.lookup key = some e) : ∃ (k : Nat) (x : Executor),
      s.owners.lookup key = some k ∧ s.execs[k]? = some x ∧ x.key = key ∧
        e.request = x.request ∧ e.expiresAt = x.expiresAt ∧
        ∀ w ∈ e.waiters, s.attached[w]? = some (some k) := by
  obtain ⟨k, x, ho, hx, hkey, hr, he⟩ := h.led.owner key e hl
  exact ⟨k, x, ho, hx, hkey, hr, he, fun w hw => ho ▸ h.led.waiter key e hl w hw⟩

/-- A step that only takes entries away. -/
theorem Apart.leave (h : s.Apart) {s' : Service} (hattached : s'.attached = s.attached)
    (howners : s'.owners = s.owners) (hon : Onward s.execs s'.execs)
    (hsub : ∀ key e, s'.state.entries.lookup key = some e → s.state.entries.lookup key = some e)
    (hstay : ∀ (k : Nat) x e, s'.execs[k]? = some x → x.armed = true → x.gone = false →
      s.state.entries.lookup x.key = some e → s.owners.lookup x.key = some k →
      e.request = x.request → e.expiresAt = x.expiresAt →
      s'.state.entries.lookup x.key = some e)
    (hacts : ∀ k o, (k, o) ∈ s'.acts → (k, o) ∈ s.acts ∨ o = some k)
    (hserved : ∀ w o c, (w, o, c) ∈ s'.served → (w, o, c) ∈ s.served ∨
      ∃ (k : Nat) (x : Executor), s.attached[w]? = some (some k) ∧ s'.execs[k]? = some x ∧
        (c = .leader k ∨ x.gone = true)) : s'.Apart where
  led := by
    rw [hattached, howners]
    exact h.led.leave hsub hon hstay
  acts k o hmem := (hacts k o hmem).elim (h.acts k o) id
  served w o c hmem := by
    rw [hattached]
    exact (hserved w o c hmem).elim (h.before hon) id

/-- `begin` has cleaned up. -/
def cleaned (s : Service) (now : Timestamp) : Service :=
  { s with
    state := (s.state.cleanup now).state
    execs := s.execs.map (.age now)
    served := s.served ++ (s.state.cleanup now).causedBy .expired }

theorem Apart.cleaned (h : s.Apart) (now : Timestamp) : (s.cleaned now).Apart := by
  have hon : Onward s.execs (s.cleaned now).execs := .map fun x => x.later_age now
  refine h.leave rfl rfl hon ?_ ?_ ?_ ?_
  · intro key e hl
    exact (RendezvousState.lookup_cleanup.mp hl).1
  · intro k x e hx _ hgone hl _ _ hexp
    rw [Service.cleaned, List.getElem?_map, Option.map_eq_some_iff] at hx
    obtain ⟨y, -, rfl⟩ := hx
    have hlive := Executor.live_of_age hgone
    refine RendezvousState.lookup_cleanup.mpr ⟨hl, ?_⟩
    rw [RendezvousEntry.live, hexp]
    exact decide_eq_true hlive
  · exact fun k o hmem => .inl hmem
  · intro w o c hmem
    rcases List.mem_append.mp hmem with hold | hnew
    · exact .inl hold
    · obtain ⟨hsend, rfl⟩ := mem_causedBy hnew
      obtain ⟨key, e, hl, hdrain⟩ := Table.mem_collect.mp hsend
      obtain ⟨hl, hdead⟩ := Table.lookup_retain.mp hl
      obtain ⟨k, x, -, hx, -, -, hexp, hw⟩ := h.owner hl
      have hdead : x.expiresAt ≤ now := by
        simpa [RendezvousEntry.live, hexp] using hdead
      refine .inr ⟨k, x.age now, hw w (RendezvousState.mem_drain hdrain).2, ?_,
        .inr (Executor.gone_age hdead)⟩
      rw [Service.cleaned, List.getElem?_map, hx]
      rfl

/-- What `begin` does after its cleanup. -/
theorem begins_cases (s : Service) (i : P2pId) (r : SnTunnelRendezvous) (now : Timestamp) :
    ((s.begins i r now).state.entries = (s.cleaned now).state.entries ∧
      (s.begins i r now).execs = (s.cleaned now).execs ∧
      (s.begins i r now).owners = s.owners ∧ (s.begins i r now).attached = s.attached ∧
      (s.begins i r now).served = (s.cleaned now).served ∧ (s.begins i r now).acts = s.acts) ∨
    (∃ e, (s.cleaned now).state.entries.lookup (.new i r) = some e ∧
      s.begins i r now =
        { s.cleaned now with
          state := { (s.cleaned now).state with
            entries := (s.cleaned now).state.entries.insert (.new i r)
              { e with waiters := e.waiters ++ [s.attached.length] } }
          attached := s.attached ++ [s.owners.lookup (.new i r)] }) ∨
    (s.state.Admits i r now ∧ (s.cleaned now).state.entries.lookup (.new i r) = none ∧
      (s.begins i r now).state.entries =
        (s.cleaned now).state.entries.insert (.new i r) (RendezvousState.fresh r now) ∧
      (s.begins i r now).execs = (s.cleaned now).execs ++
        [⟨i, r, saturatingAdd now maxRequestLifetime, .delivering, false⟩] ∧
      (s.begins i r now).owners = s.owners.insert (.new i r) s.execs.length ∧
      (s.begins i r now).attached = s.attached ∧
      (s.begins i r now).served = (s.cleaned now).served ∧ (s.begins i r now).acts = s.acts) := by
  have hsent : (s.state.begin i r now s.attached.length).causedBy .expired =
      (s.state.cleanup now).causedBy .expired := by
    rw [Done.causedBy, RendezvousState.begin_sends]
    rfl
  rcases s.state.begin_cases i r now s.attached.length with ⟨e, hl, heq⟩ | ⟨hl, heq⟩
  · rcases (s.state.cleanup now).state.join_cases (.new i r) e r s.attached.length with
      ⟨hst, -, hwait⟩ | ⟨-, -, -, hres, hst⟩
    · refine .inl ?_
      have hnew := (s.state.cleanup now).state.join_ne_new (.new i r) e r s.attached.length
      unfold begins
      dsimp only
      rw [hsent, heq]
      dsimp only
      rw [hst]
      generalize ((s.state.cleanup now).state.join (.new i r) e r s.attached.length).result = d
        at hnew hwait
      match d with
      | .ok .new => exact absurd rfl hnew
      | .ok (.inFlight w) => exact absurd rfl (hwait w)
      | .ok (.cached resp) => exact ⟨rfl, rfl, rfl, rfl, rfl, rfl⟩
      | .error err => exact ⟨rfl, rfl, rfl, rfl, rfl, rfl⟩
    · refine .inr (.inl ⟨e, hl, ?_⟩)
      unfold begins
      dsimp only
      rw [hsent, heq]
      dsimp only
      rw [hres, hst]
      rfl
  · obtain ⟨-, ⟨hst, err, hres⟩ | ⟨hst, hres⟩⟩ := (s.state.cleanup now).state.create_cases i r now
    · refine .inl ?_
      unfold begins
      dsimp only
      rw [hsent, heq]
      dsimp only
      rw [hres]
      exact ⟨hst, rfl, rfl, rfl, rfl, rfl⟩
    · refine .inr (.inr ⟨RendezvousState.admits_iff.mpr (by rw [heq]; exact hres), hl, ?_⟩)
      unfold begins
      dsimp only
      rw [hsent, heq]
      dsimp only
      rw [hres]
      exact ⟨hst, rfl, rfl, rfl, rfl, rfl⟩

/-- Waiters and executors come at the end of their lists. -/
theorem Apart.more (h : s.Apart) (attached : List (Option Nat)) (execs : List Executor) {w : Nat}
    {o : Outcome} {c : Cause} (hmem : (w, o, c) ∈ s.served) : ∃ (k : Nat) (x : Executor),
      (s.attached ++ attached)[w]? = some (some k) ∧ (s.execs ++ execs)[k]? = some x ∧
        (c = .leader k ∨ x.gone = true) := by
  obtain ⟨k, x, hw, hx, hc⟩ := h.served w o c hmem
  refine ⟨k, x, ?_, ?_, hc⟩
  · rwa [List.getElem?_append_left (List.getElem?_eq_some_iff.mp hw).1]
  · rwa [List.getElem?_append_left (List.getElem?_eq_some_iff.mp hx).1]

theorem Apart.begins (h : s.Apart) {i : P2pId} {r : SnTunnelRendezvous} {now : Timestamp}
    (hno : s.state.Admits i r now →
      ∀ x ∈ s.execs, x.armed = true → x.initiator = i → r.eq x.request = false) :
    (s.begins i r now).Apart := by
  have hc := h.cleaned now
  rcases s.begins_cases i r now with ⟨ht, hx, ho, ha, hs, hact⟩ | ⟨e, hl, heq⟩ |
    ⟨hadm, hl, ht, hx, ho, ha, hs, hact⟩
  · exact ⟨by rw [ht, hx, ho, ha]; exact hc.led, by rw [hact]; exact hc.acts,
      by rw [hs, hx, ha]; exact hc.served⟩
  · rw [heq]
    refine ⟨hc.led.join hl, hc.acts, fun w o c hmem => ?_⟩
    have hmore := hc.more [s.owners.lookup (.new i r)] [] hmem
    rwa [List.append_nil] at hmore
  · have hlen : s.execs.length = (s.cleaned now).execs.length := (List.length_map _).symm
    refine ⟨?_, by rw [hact]; exact hc.acts, ?_⟩
    · rw [ht, hx, ho, ha, hlen]
      refine hc.led.create
        (x := ⟨i, r, saturatingAdd now maxRequestLifetime, .delivering, false⟩) hl rfl rfl rfl rfl ?_
      intro k y hy harm hi
      rw [Service.cleaned, List.getElem?_map, Option.map_eq_some_iff] at hy
      obtain ⟨z, hz, rfl⟩ := hy
      exact hno hadm z (List.mem_of_getElem? hz) harm hi
    · rw [hs, hx, ha]
      intro w o c hmem
      have hmore := hc.more [] [⟨i, r, saturatingAdd now maxRequestLifetime, .delivering, false⟩] hmem
      rwa [List.append_nil] at hmore

theorem later_phase {x : Executor} (harm : x.armed = true) (phase : Phase) :
    x.Later { x with phase := phase } := ⟨rfl, rfl, rfl, fun _ => harm, id⟩

/-- The executor `k` caches its response, or is refused. -/
theorem Apart.caches (h : s.Apart) {k : Nat} {x : Executor} (hx : s.execs[k]? = some x)
    (harm : x.armed = true) (resp : SnTunnelRendezvousResp) (now : Timestamp) :
    (s.caches k x resp now).Apart := by
  have hon : ∀ phase, Onward s.execs ((s.execs.set k { x with phase := phase }).map (.age now)) :=
    fun phase => (Onward.set hx (later_phase harm phase)).trans (.map fun y => y.later_age now)
  have hset : ∀ phase y, ((s.execs.set k { x with phase := phase }).map (.age now))[k]? = some y →
      y = Executor.age now { x with phase := phase } := by
    intro phase y hy
    rw [List.getElem?_map, List.getElem?_set_self (List.getElem?_eq_some_iff.mp hx).1] at hy
    exact (Option.some.inj hy).symm
  rcases s.state.cacheResponse_cases x.initiator x.request resp now with
    ⟨hst, hsend, err, hres⟩ | ⟨e, hl, hdead, heq⟩ | ⟨e, hl, hlive, hreq, -, heq⟩
  · -- nothing changes but the phase
    have hs : s.caches k x resp now =
        { s with execs := (s.execs.set k { x with phase := .failing }).map (.age now) } := by
      unfold Service.caches
      dsimp only
      rw [hres, hst]
      dsimp only
      rw [Done.causedBy, hsend, List.map_nil, List.append_nil]
    rw [hs]
    exact h.leave rfl rfl (hon _) (fun _ _ hl => hl) (fun _ _ _ _ _ _ hl _ _ _ => hl)
      (fun _ _ hmem => .inl hmem) fun _ _ _ hmem => .inl hmem
  · -- the entry at the key has expired
    have hs : s.caches k x resp now =
        { s with
          state := { s.state with entries := s.state.entries.erase x.key }
          execs := (s.execs.set k { x with phase := .failing }).map (.age now)
          served := s.served ++
            (e.drain (.error RendezvousState.responseExpired)).map fun y => (y.1, y.2, .expired) } := by
      unfold Service.caches
      rw [heq]
      rfl
    obtain ⟨j, y, ho, hy, hkey, -, hexp, hw⟩ := h.owner hl
    have hdead : y.expiresAt ≤ now := by
      simpa [RendezvousEntry.live, hexp] using hdead
    rw [hs]
    refine h.leave rfl rfl (hon _) ?_ ?_ (fun _ _ hmem => .inl hmem) ?_
    · intro key e' hl'
      exact (Table.lookup_erase_some.mp hl').2
    · intro j' z e' hz _ hgone hl' ho' _ hexp'
      dsimp only
      rw [AList.lookup_erase_ne]
      · exact hl'
      · intro hk
        rw [List.getElem?_map, Option.map_eq_some_iff] at hz
        obtain ⟨z', -, rfl⟩ := hz
        have hlive := Executor.live_of_age hgone
        rw [hk, show x.key = RendezvousKey.new x.initiator x.request from rfl, hl] at hl'
        cases hl'
        exact absurd hdead (by rw [← hexp, hexp']; exact not_le.mpr hlive)
    · intro w o c hmem
      rcases List.mem_append.mp hmem with hold | hnew
      · exact .inl hold
      · obtain ⟨⟨w', o'⟩, hdrain, heq'⟩ := List.mem_map.mp hnew
        cases heq'
        obtain ⟨y', hy', hlater⟩ := (hon .failing).forth hy
        refine .inr ⟨j, y', hw w' (RendezvousState.mem_drain hdrain).2, hy', .inr ?_⟩
        rw [List.getElem?_map, Option.map_eq_some_iff] at hy'
        obtain ⟨z, -, rfl⟩ := hy'
        have hz : z.expiresAt = y.expiresAt := hlater.expiresAt
        exact Executor.gone_age (hz.symm ▸ hdead)
  · -- the entry is the executor's own
    have ho := h.led.sole k x e hx harm hl hreq
    have hs : s.caches k x resp now =
        { s with
          state := { s.state with
            entries := s.state.entries.insert x.key
              { e with
                response := some
                  (if x.request.needPredictEndpoint then .failure x.request.seq else resp)
                waiters := [] } }
          execs := (s.execs.set k { x with phase := .returned resp }).map (.age now)
          served := s.served ++ (e.drain (.ok resp)).map fun y => (y.1, y.2, .leader k)
          acts := s.acts ++ [(k, some k)] } := by
      unfold Service.caches
      rw [heq, ho]
      rfl
    rw [hs]
    refine ⟨h.led.answer (hon _) hx harm hl hreq rfl rfl rfl ?_, ?_, ?_⟩
    · intro y hy
      rw [hset _ y hy]
      rfl
    · intro j o hmem
      rcases List.mem_append.mp hmem with hold | hnew
      · exact h.acts j o hold
      · cases List.mem_singleton.mp hnew
        rfl
    · intro w o c hmem
      rcases List.mem_append.mp hmem with hold | hnew
      · exact h.before (hon _) hold
      · obtain ⟨⟨w', o'⟩, hdrain, heq'⟩ := List.mem_map.mp hnew
        cases heq'
        obtain ⟨y', hy', -⟩ := (hon (.returned resp)).forth hx
        have hw := h.led.waiter x.key e hl w' (RendezvousState.mem_drain hdrain).2
        exact ⟨k, y', ho ▸ hw, hy', .inl rfl⟩

/-- The executor `k` drops its guard: it fails its own entry, if that is there and unanswered. -/
theorem Apart.fails (h : s.Apart) {k : Nat} {x : Executor} (hx : s.execs[k]? = some x)
    (harm : x.armed = true) {phase : Phase}
    (hphase : Executor.armed { x with phase := phase } = false) : (s.fails k x phase).Apart := by
  have hon : Onward s.execs (s.execs.set k { x with phase := phase }) :=
    .set hx (later_phase harm phase)
  rcases s.state.failUnanswered_cases x.initiator x.request with
    ⟨hst, hsend⟩ | ⟨e, hl, hreq, -, heq⟩
  · have hs : s.fails k x phase = { s with execs := s.execs.set k { x with phase := phase } } := by
      unfold Service.fails
      dsimp only
      rw [hst, if_pos rfl, Done.causedBy, hsend, List.map_nil, List.append_nil, List.append_nil]
    rw [hs]
    exact h.leave rfl rfl hon (fun _ _ hl => hl) (fun _ _ _ _ _ _ hl _ _ _ => hl)
      (fun _ _ hmem => .inl hmem) fun _ _ _ hmem => .inl hmem
  · have ho := h.led.sole k x e hx harm hl hreq
    have hl : s.state.entries.lookup x.key = some e := hl
    have hs : s.fails k x phase =
        { s with
          state := { s.state with entries := s.state.entries.erase x.key }
          execs := s.execs.set k { x with phase := phase }
          served := s.served ++ (e.drain (.error RendezvousState.failedBeforeResponse)).map
            fun y => (y.1, y.2, .leader k)
          acts := s.acts ++ [(k, some k)] } := by
      have hne : (s.state.entries.erase x.key).lookup x.key ≠ s.state.entries.lookup x.key := by
        rw [AList.lookup_erase, hl]
        exact fun h => by cases h
      unfold Service.fails
      dsimp only
      rw [heq, show RendezvousKey.new x.initiator x.request = x.key from rfl]
      dsimp only
      rw [if_neg hne, ho]
      rfl
    rw [hs]
    refine h.leave rfl rfl hon ?_ ?_ ?_ ?_
    · intro key e' hl'
      exact (Table.lookup_erase_some.mp hl').2
    · intro j y e' hy harm' _ hl' ho' _ _
      dsimp only
      rw [AList.lookup_erase_ne]
      · exact hl'
      · intro hk
        rw [hk, ho] at ho'
        cases ho'
        rw [List.getElem?_set_self (List.getElem?_eq_some_iff.mp hx).1] at hy
        cases hy
        rw [hphase] at harm'
        cases harm'
    · intro j o hmem
      refine (List.mem_append.mp hmem).imp_right fun hnew => ?_
      cases List.mem_singleton.mp hnew
      rfl
    · intro w o c hmem
      refine (List.mem_append.mp hmem).imp_right fun hnew => ?_
      obtain ⟨⟨w', o'⟩, hdrain, heq'⟩ := List.mem_map.mp hnew
      cases heq'
      obtain ⟨y', hy', -⟩ := hon.forth hx
      have hw := h.led.waiter x.key e hl w' (RendezvousState.mem_drain hdrain).2
      exact ⟨k, y', ho ▸ hw, hy', .inl rfl⟩

theorem Apart.removePeer (h : s.Apart) (p : P2pId) : (s.step (.removePeer p)).Apart := by
  have hon : Onward s.execs (s.step (.removePeer p)).execs := .map fun x => x.later_leave p
  refine h.leave rfl rfl hon ?_ ?_ (fun _ _ hmem => .inl hmem) ?_
  · intro key e hl
    exact (Table.lookup_retain.mp hl).1
  · intro k x e hx _ hgone hl _ hreq _
    rw [Service.step, List.getElem?_map, Option.map_eq_some_iff] at hx
    obtain ⟨y, -, rfl⟩ := hx
    refine Table.lookup_retain.mpr ⟨hl, ?_⟩
    simp only [Executor.leave, Bool.or_eq_false_iff, decide_eq_false_iff_not, not_or] at hgone
    rw [RendezvousState.keeps, hreq]
    exact decide_eq_true hgone.2
  · intro w o c hmem
    refine (List.mem_append.mp hmem).imp_right fun hnew => ?_
    obtain ⟨hsend, rfl⟩ := mem_causedBy hnew
    obtain ⟨key, e, hl, hdrain⟩ := Table.mem_collect.mp hsend
    obtain ⟨hl, hdead⟩ := Table.lookup_retain.mp hl
    obtain ⟨k, x, -, hx, hkey, hreq, -, hw⟩ := h.owner hl
    have hleft : x.initiator = p ∨ x.request.toPeerId = p := by
      by_contra hne
      rw [not_or] at hne
      rw [← hkey, show RendezvousState.keeps p x.key e = true from
        decide_eq_true ⟨hne.1, hreq ▸ hne.2⟩] at hdead
      cases hdead
    refine ⟨k, x.leave p, hw w (RendezvousState.mem_drain hdrain).2, ?_,
      .inr (Executor.gone_leave hleft)⟩
    rw [Service.step, List.getElem?_map, hx]
    rfl

theorem Apart.step (h : s.Apart) {ev : Event} (hno : s.Unrivalled ev) : (s.step ev).Apart := by
  cases ev with
  | request i r now => exact h.begins hno
  | delivered k resp now =>
    simp only [Service.step]
    cases hx : s.execs[k]? with
    | none => exact h
    | some x =>
      dsimp only
      split_ifs with hp
      · exact h.caches hx (by simp [Executor.armed, hp]) resp now
      · exact h
  | undelivered k =>
    simp only [Service.step]
    cases hx : s.execs[k]? with
    | none => exact h
    | some x =>
      dsimp only
      split_ifs with hp
      · exact h.leave rfl rfl (.set hx (later_phase (by simp [Executor.armed, hp]) .failing))
          (fun _ _ hl => hl) (fun _ _ _ _ _ _ hl _ _ _ => hl) (fun _ _ hmem => .inl hmem)
          fun _ _ _ hmem => .inl hmem
      · exact h
  | dropGuard k =>
    simp only [Service.step]
    cases hx : s.execs[k]? with
    | none => exact h
    | some x =>
      dsimp only
      split_ifs with hp
      · exact h.fails hx (by simp [Executor.armed, hp]) rfl
      · exact h
  | cancel k =>
    simp only [Service.step]
    cases hx : s.execs[k]? with
    | none => exact h
    | some x =>
      dsimp only
      split_ifs with hp
      · exact h.fails hx (by simp [Executor.armed, hp]) rfl
      · exact h
  | removePeer p => exact h.removePeer p

theorem apart_exec {evs : List Event} (h : Along step Unrivalled .init evs) :
    (exec step .init evs).Apart :=
  exec_inv (fun _ _ hI hC => hI.step hC) apart_init h

/-- A valid response is returned while the executor's entry is there. -/
theorem Apart.answers (h : s.Apart) {k : Nat} {x : Executor} {resp : SnTunnelRendezvousResp}
    {now : Timestamp} (hx : s.execs[k]? = some x) (hp : x.phase = .delivering)
    (hgone : x.gone = false) (hnow : now < x.expiresAt)
    (hvalid : resp.validate x.request.seq x.request.needPredictEndpoint = .ok ()) :
    (s.step (.delivered k resp now)).execs[k]? = some { x with phase := .returned resp } ∧
      ∀ w : Nat, s.attached[w]? = some (some k) →
        (w, .ok resp, .leader k) ∈ (s.step (.delivered k resp now)).served := by
  obtain ⟨e, hl, ho, -, hall⟩ := h.led.kept k x hx (by simp [Executor.armed, hp]) hgone
  obtain ⟨j, y, ho', hy, -, hreq, hexp⟩ := h.led.owner x.key e hl
  rw [ho] at ho'
  cases ho'
  rw [hx] at hy
  cases hy
  have hcache : s.state.cacheResponse x.initiator x.request resp now =
      { result := .ok ()
        state := { s.state with
          entries := s.state.entries.insert x.key
            { e with
              response := some
                (if x.request.needPredictEndpoint then .failure x.request.seq else resp)
              waiters := [] } }
        sends := e.drain (.ok resp) } := by
    unfold RendezvousState.cacheResponse
    rw [show RendezvousKey.new x.initiator x.request = x.key from rfl]
    dsimp only
    rw [hl]
    dsimp only
    rw [if_neg (by rw [hexp]; exact not_le.mpr hnow), hreq, x.request.eq_self,
      if_neg (by decide), hvalid]
  have hstep : s.step (.delivered k resp now) = s.caches k x resp now := by
    simp only [Service.step, hx, hp, if_true]
  have hlive : decide (x.expiresAt ≤ now) = false := decide_eq_false (not_le.mpr hnow)
  rw [hstep]
  unfold Service.caches
  rw [hcache]
  constructor
  · dsimp only
    rw [List.getElem?_map, List.getElem?_set_self (List.getElem?_eq_some_iff.mp hx).1]
    simp [Executor.age, hgone, hlive]
  · intro w hw
    refine List.mem_append_right _ (List.mem_map.mpr ⟨(w, .ok resp), ?_, rfl⟩)
    exact List.mem_map.mpr ⟨w, hall w hw, rfl⟩

/-- After every run in which no request makes an entry that a running executor takes for its own:
what executors answered or failed were their own entries; an outcome that a waiter got came from
the executor of the entry that it joined, unless this entry has expired or was removed; and an
executor whose entry did neither has it in the table, unanswered, and returns a valid response to
itself and to the waiters of the entry. -/
theorem leaders_apart (evs : List Event) (h : Along step Unrivalled .init evs) :
    (∀ k o, (k, o) ∈ (exec step .init evs).acts → o = some k) ∧
    (∀ (w : Nat) o c, (w, o, c) ∈ (exec step .init evs).served → ∃ (k : Nat) (x : Executor),
      (exec step .init evs).attached[w]? = some (some k) ∧
        (exec step .init evs).execs[k]? = some x ∧ (c = .leader k ∨ x.gone = true)) ∧
    ∀ (k : Nat) x, (exec step .init evs).execs[k]? = some x → x.phase = .delivering →
      x.gone = false →
      (∃ e, (exec step .init evs).state.entries.lookup x.key = some e ∧ e.response = none ∧
        ∀ w : Nat, (exec step .init evs).attached[w]? = some (some k) → w ∈ e.waiters) ∧
      ∀ resp now, now < x.expiresAt →
        resp.validate x.request.seq x.request.needPredictEndpoint = .ok () →
        (step (exec step .init evs) (.delivered k resp now)).execs[k]? =
            some { x with phase := .returned resp } ∧
          ∀ w : Nat, (exec step .init evs).attached[w]? = some (some k) →
            (w, .ok resp, .leader k) ∈
              (step (exec step .init evs) (.delivered k resp now)).served := by
  have hapart := apart_exec h
  refine ⟨hapart.acts, hapart.served, fun k x hx hp hgone => ⟨?_, fun resp now hnow hvalid => ?_⟩⟩
  · obtain ⟨e, hl, -, hresp, hall⟩ :=
      hapart.led.kept k x hx (by simp [Executor.armed, hp]) hgone
    exact ⟨e, hl, hresp, hall⟩
  · exact hapart.answers hx hp hgone hnow hvalid

/-- An executor, a duplicate that waits, a disconnect of another peer, and an executor of a second
request. -/
def apart : List Event :=
  [.request [1] sample 0, .request [1] sample 1, .removePeer [9], .request [3] sample 2]

theorem leaders_apart_sample :
    (step (exec step .init apart) (.delivered 0 (.success 7 []) 3)).execs[0]? =
        some ⟨[1], sample, 30000000, .returned (.success 7 []), false⟩ ∧
      (0, .ok (.success 7 []), .leader 0) ∈
        (step (exec step .init apart) (.delivered 0 (.success 7 []) 3)).served := by
  obtain ⟨-, -, hans⟩ := leaders_apart apart (by decide +kernel)
  obtain ⟨hret, hserved⟩ := (hans 0 ⟨[1], sample, 30000000, .delivering, false⟩ (by decide +kernel)
    rfl rfl).2 (.success 7 []) 3 (by decide) (by decide +kernel)
  exact ⟨hret, hserved 0 (by decide +kernel)⟩

/-- The peer disconnects, its request comes again while the first executor still runs, a duplicate
joins, and the first executor gives up. -/
def overlap : List Event :=
  [.request [1] sample 0, .removePeer [2], .request [1] sample 1, .request [1] sample 2,
    .undelivered 0, .dropGuard 0]

/-- The first executor fails the entry of the second one and its waiter; the second one, whose
entry has neither expired nor been removed, gets a valid response and returns a failure. -/
theorem leaders_overlap :
    (exec step .init overlap).acts = [(0, some 1)] ∧
    (exec step .init overlap).attached = [some 1] ∧
    (exec step .init overlap).served =
      [(0, .error RendezvousState.failedBeforeResponse, .leader 0)] ∧
    (exec step .init overlap).execs[1]? = some ⟨[1], sample, 30000001, .delivering, false⟩ ∧
    (exec step .init (overlap ++ [.delivered 1 (.success 7 []) 3, .dropGuard 1])).execs[1]? =
      some ⟨[1], sample, 30000001, .returned (.failure 7), false⟩ := by
  decide +kernel

/-- A guard that is dropped takes what it finds under its key with an equal request. -/
theorem fails_takes {k : Nat} {x : Executor} {phase : Phase} {e : RendezvousEntry}
    (hl : s.state.entries.lookup x.key = some e) (heq : e.request.eq x.request = true)
    (hresp : e.response = none) :
    (k, s.owners.lookup x.key) ∈ (s.fails k x phase).acts := by
  have hfail : (s.state.failUnanswered x.initiator x.request).state.entries =
      s.state.entries.erase x.key := by
    unfold RendezvousState.failUnanswered
    rw [show RendezvousKey.new x.initiator x.request = x.key from rfl]
    dsimp only
    rw [hl]
    dsimp only
    rw [if_neg (by simp [heq, hresp])]
  refine List.mem_append_right _ ?_
  rw [hfail, AList.lookup_erase, hl, if_neg (by simp)]
  exact List.mem_singleton_self _

/-- `Unrivalled` asks for no more than it must: a request that makes an entry which a running
executor takes for its own lets that executor, when it is cancelled next, fail the new entry. -/
theorem rival_fails {i : P2pId} {r : SnTunnelRendezvous} {now : Timestamp} {k : Nat}
    {x : Executor} (hadm : s.state.Admits i r now) (hx : s.execs[k]? = some x)
    (hp : x.phase = .delivering) (hi : x.initiator = i) (heq : r.eq x.request = true) :
    (k, some s.execs.length) ∈ ((s.step (.request i r now)).step (.cancel k)).acts := by
  have hres := (RendezvousState.admits_iff (w := s.attached.length)).mp hadm
  have hentries : (s.begins i r now).state.entries =
      (s.cleaned now).state.entries.insert (.new i r) (RendezvousState.fresh r now) := by
    have hst : (s.begins i r now).state = (s.state.begin i r now s.attached.length).state := by
      unfold begins
      dsimp only
      rw [hres]
    rw [hst]
    rcases s.state.begin_cases i r now s.attached.length with ⟨e, hl, hb⟩ | ⟨-, hb⟩
    · rw [hb] at hres
      exact absurd hres (RendezvousState.join_ne_new _ _ e r _)
    · rw [hb] at hres ⊢
      obtain ⟨-, ⟨-, err, herr⟩ | ⟨hc, -⟩⟩ := (s.state.cleanup now).state.create_cases i r now
      · rw [herr] at hres
        cases hres
      · exact hc
  have hkey : (x.age now).key = .new i r := by
    obtain ⟨hseq, htunnel, -⟩ := SnTunnelRendezvous.eq_fields heq
    rw [Executor.key, RendezvousKey.new, RendezvousKey.new, Executor.age, hi, hseq, htunnel]
  have hx' : (s.begins i r now).execs[k]? = some (x.age now) := by
    unfold begins
    dsimp only
    rw [hres]
    dsimp only
    rw [List.getElem?_append_left (by simpa using (List.getElem?_eq_some_iff.mp hx).1),
      List.getElem?_map, hx]
    rfl
  have howner : (s.begins i r now).owners.lookup (x.age now).key = some s.execs.length := by
    unfold begins
    dsimp only
    rw [hres, hkey]
    exact AList.lookup_insert _
  have hp' : (x.age now).phase = .delivering := hp
  rw [← howner]
  simp only [Service.step, hx', hp', if_true]
  exact fails_takes (e := RendezvousState.fresh r now)
    (by rw [hentries, hkey, AList.lookup_insert]) heq rfl

end Service

end BuckyP2p.Rendezvous
