import BuckyP2p.Tcp.Registration

/-!
# BuckyP2p.Tcp.Routing — from the ready frame to the registry (`tcp/listener.rs`, `tcp/network.rs`)

An attempt is one control connection: the connecting side sends its hello, the listener answers with
`ControlConnReady`, makes the tunnel, offers it to the acceptance callback and, when that accepts,
commits it to the `TcpTunnelRegistry`; the connecting side reads the frame, makes its tunnel and
registers it.  Each of these is a step of its own.  Data connections of either side arrive at any
time and look the tunnel up.

A registry is keyed by the local id first, so that one table stands for the registries of all sides.
It holds weak references: a tunnel that is closed or not held any more is not found.  `last` is a
book that the code does not keep: the tunnel that was registered last under a key.
-/

namespace BuckyP2p.Tcp.Routing

open Lib

structure TunnelKey where
  localId : P2pId
  remoteId : P2pId
  tunnelId : TunnelId
  candidateId : TunnelCandidateId
  deriving DecidableEq

inductive ControlConnReadyResult
  | success | tunnelConflictLost | protocolError | internalError
  deriving DecidableEq

inductive TcpIncomingControlDecision
  | accept | protocolError | tunnelConflictLost
  deriving DecidableEq

def TcpIncomingControlDecision.result : TcpIncomingControlDecision → ControlConnReadyResult
  | .accept => .success
  | .protocolError => .protocolError
  | .tunnelConflictLost => .tunnelConflictLost

def validateControlHello (hello : TcpConnectionHello) : TcpIncomingControlDecision :=
  if hello.role ≠ .control ∨ hello.connId.isSome ∨ hello.openRequestId.isSome then .protocolError
  else .accept

inductive IncomingTunnelAcceptance
  | accepted | rejected
  deriving DecidableEq

/-- A `TcpTunnel`; `held` says that there is a strong reference to it. -/
structure Tunnel where
  key : TunnelKey
  closed : Bool
  held : Bool
  deriving DecidableEq

/-- The connecting side, in `open_tunnel_inner`. -/
inductive Active
  | waiting
  | readReady
  | constructed (t : Nat)
  | registered (t : Nat)
  | failed
  deriving DecidableEq

/-- The accepting side, in `handle_accepted_stream`. -/
inductive Passive
  | arrived
  | readyWritten
  | constructed (t : Nat)
  /-- The acceptance callback runs. -/
  | offered (t : Nat)
  | accepted (t : Nat)
  | registered (t : Nat)
  | refused
  deriving DecidableEq

structure Attempt where
  connector : P2pId
  acceptor : P2pId
  tunnelId : TunnelId
  hello : TcpConnectionHello
  ready : Option ControlConnReadyResult
  active : Active
  passive : Passive
  deriving DecidableEq

namespace Attempt

def activeKey (x : Attempt) : TunnelKey :=
  ⟨x.connector, x.acceptor, x.tunnelId, x.hello.candidateId⟩

def passiveKey (x : Attempt) : TunnelKey :=
  ⟨x.acceptor, x.connector, x.tunnelId, x.hello.candidateId⟩

/-- The ready frame with `Success` has been read. -/
def isRead (x : Attempt) : Bool :=
  match x.active with
  | .waiting | .failed => false
  | _ => true

/-- The connecting side has its tunnel. -/
def hasActive (x : Attempt) : Bool :=
  match x.active with
  | .constructed _ | .registered _ => true
  | _ => false

/-- The accepting side has its tunnel. -/
def hasPassive (x : Attempt) : Bool :=
  match x.passive with
  | .arrived | .readyWritten | .refused => false
  | _ => true

end Attempt

/-- What a data connection is answered: it is handed to a tunnel, or gets a ready frame. -/
inductive Answer
  | routed (t : Nat)
  | ready (frame : DataConnReady)
  deriving DecidableEq

/-- The hello of a data connection; `key` is that of the side that it arrives at. -/
structure DataHello where
  key : TunnelKey
  connId : Option TcpConnId
  answer : Option Answer
  deriving DecidableEq

inductive Event
  | dial (connector acceptor : P2pId) (tunnelId : TunnelId) (hello : TcpConnectionHello)
  | writeReady (a : Nat)
  | readReady (a : Nat)
  | constructActive (a : Nat)
  | registerActive (a : Nat)
  | constructPassive (a : Nat)
  /-- `deliver_incoming` begins. -/
  | deliver (a : Nat)
  | callback (a : Nat) (acceptance : IncomingTunnelAcceptance)
  | registerPassive (a : Nat)
  | closeListener (peerId : P2pId)
  | close (t : Nat)
  | release (t : Nat)
  | cleanupStale
  /-- A side of the attempt sends the hello of a data connection. -/
  | sendHello (a : Nat) (byConnector : Bool) (connId : Option TcpConnId)
  | onDataConnection (h : Nat)
  deriving DecidableEq

structure System where
  attempts : List Attempt
  tunnels : List Tunnel
  byTunnel : Table TunnelKey Nat
  last : Table TunnelKey Nat
  closedListeners : List P2pId
  hellos : List DataHello

namespace System

def init : System := ⟨[], [], ∅, ∅, [], []⟩

/-- A weak reference to the tunnel is upgraded, and the tunnel is not closed. -/
def isOpen (s : System) (t : Nat) : Bool :=
  match s.tunnels[t]? with
  | some x => x.held && !x.closed
  | none => false

def isClosed (s : System) (t : Nat) : Bool :=
  match s.tunnels[t]? with
  | some x => x.closed
  | none => true

def register (s : System) (key : TunnelKey) (t : Nat) : System :=
  { s with byTunnel := s.byTunnel.insert key t, last := s.last.insert key t }

/-- `find_tunnel`, with the table after it. -/
def findTunnel (s : System) (key : TunnelKey) : Option Nat × Table TunnelKey Nat :=
  match s.byTunnel.lookup key with
  | some t => if s.isOpen t then (some t, s.byTunnel) else (none, s.byTunnel.erase key)
  | none => (none, s.byTunnel)

def cleanupStale (s : System) : System :=
  { s with byTunnel := s.byTunnel.retain fun _ t => s.isOpen t }

def setAttempt (s : System) (a : Nat) (x : Attempt) : System :=
  { s with attempts := s.attempts.set a x }

/-- `TcpTunnel::new`. -/
def newTunnel (s : System) (key : TunnelKey) : System :=
  { s with tunnels := s.tunnels ++ [⟨key, false, true⟩] }

def closeTunnel (s : System) (t : Nat) : System :=
  { s with tunnels := s.tunnels.modify t fun x => { x with closed := true } }

def releaseTunnel (s : System) (t : Nat) : System :=
  { s with tunnels := s.tunnels.modify t fun x => { x with held := false } }

/-- `on_data_connection`. -/
def onDataConnection (s : System) (h : Nat) (x : DataHello) : System :=
  let (found, byTunnel) := s.findTunnel x.key
  let answer := match found with
    | some t => Answer.routed t
    | none => Answer.ready ⟨x.connId.getD 0, x.key.candidateId, .tunnelNotFound⟩
  { s with byTunnel := byTunnel, hellos := s.hellos.set h { x with answer := some answer } }

/-- A step of the attempt `a`, which is `x`. -/
def run (s : System) (a : Nat) (x : Attempt) : Event → System
  | .writeReady _ =>
    if x.passive = .arrived then
      let result := (validateControlHello x.hello).result
      s.setAttempt a { x with
        ready := some result
        passive := if result = .success then .readyWritten else .refused }
    else s
  | .readReady _ =>
    match x.active, x.ready with
    | .waiting, some result =>
      s.setAttempt a { x with active := if result = .success then .readReady else .failed }
    | _, _ => s
  | .constructActive _ =>
    if x.active = .readReady then
      (s.newTunnel x.activeKey).setAttempt a { x with active := .constructed s.tunnels.length }
    else s
  | .registerActive _ =>
    match x.active with
    | .constructed t => (s.register x.activeKey t).setAttempt a { x with active := .registered t }
    | _ => s
  | .constructPassive _ =>
    if x.passive = .readyWritten then
      (s.newTunnel x.passiveKey).setAttempt a { x with passive := .constructed s.tunnels.length }
    else s
  | .deliver _ =>
    match x.passive with
    | .constructed t =>
      if x.acceptor ∈ s.closedListeners then
        (s.closeTunnel t).setAttempt a { x with passive := .refused }
      else s.setAttempt a { x with passive := .offered t }
    | _ => s
  | .callback _ acceptance =>
    match x.passive with
    | .offered t =>
      s.setAttempt a { x with passive := if acceptance = .accepted then .accepted t else .refused }
    | _ => s
  | .registerPassive _ =>
    match x.passive with
    | .accepted t =>
      if x.acceptor ∉ s.closedListeners ∧ s.isClosed t = false then
        (s.register x.passiveKey t).setAttempt a { x with passive := .registered t }
      else s.setAttempt a { x with passive := .refused }
    | _ => s
  | .sendHello _ byConnector connId =>
    if x.isRead ∧ (if byConnector then x.hasActive else x.hasPassive) then
      { s with hellos := s.hellos ++
          [⟨if byConnector then x.passiveKey else x.activeKey, connId, none⟩] }
    else s
  | _ => s

def step (s : System) (ev : Event) : System :=
  match ev with
  | .dial connector acceptor tunnelId hello =>
    { s with attempts := s.attempts ++
        [⟨connector, acceptor, tunnelId, hello, none, .waiting, .arrived⟩] }
  | .closeListener peerId => { s with closedListeners := peerId :: s.closedListeners }
  | .close t => s.closeTunnel t
  | .release t => s.releaseTunnel t
  | .cleanupStale => s.cleanupStale
  | .onDataConnection h =>
    match s.hellos[h]? with
    | some x => if x.answer = none then s.onDataConnection h x else s
    | none => s
  | .writeReady a | .readReady a | .constructActive a | .registerActive a | .constructPassive a
  | .deliver a | .callback a _ | .registerPassive a | .sendHello a _ _ =>
    match s.attempts[a]? with
    | some x => s.run a x ev
    | none => s

end System

/-! ## What is registered is found -/

/-- The attempt knows the tunnel `t`. -/
def Attempt.Knows (x : Attempt) (t : Nat) : Prop :=
  x.active = .constructed t ∨ x.active = .registered t ∨ x.passive = .constructed t ∨
    x.passive = .offered t ∨ x.passive = .accepted t ∨ x.passive = .registered t

/-- The attempt fits to `n` tunnels and to the book. -/
structure Attempt.Fits (x : Attempt) (n : Nat) (last : Table TunnelKey Nat) : Prop where
  bound : ∀ t, x.Knows t → t < n
  active : ∀ t, x.active = .registered t → (last.lookup x.activeKey).isSome = true
  passive : ∀ t, x.passive = .registered t → (last.lookup x.passiveKey).isSome = true

theorem Attempt.Fits.mono {x : Attempt} {n n' : Nat} {last last' : Table TunnelKey Nat}
    (h : x.Fits n last) (hn : n ≤ n')
    (hlast : ∀ key, (last.lookup key).isSome = true → (last'.lookup key).isSome = true) :
    x.Fits n' last' where
  bound t ht := Nat.lt_of_lt_of_le (h.bound t ht) hn
  active t ht := hlast _ (h.active t ht)
  passive t ht := hlast _ (h.passive t ht)

/-- What an attempt knows after a step: what it knew, and what is said here. -/
theorem Attempt.Fits.setActive {x : Attempt} {n : Nat} {last : Table TunnelKey Nat}
    (h : x.Fits n last) {active : Active}
    (hbound : ∀ t, active = .constructed t ∨ active = .registered t → t < n)
    (hlast : ∀ t, active = .registered t → (last.lookup x.activeKey).isSome = true) :
    Attempt.Fits { x with active := active } n last where
  bound t ht := by
    rcases ht with ht | ht | ht
    · exact hbound t (.inl ht)
    · exact hbound t (.inr ht)
    · exact h.bound t (.inr (.inr ht))
  active := hlast
  passive := h.passive

theorem Attempt.Fits.setPassive {x : Attempt} {n : Nat} {last : Table TunnelKey Nat}
    (h : x.Fits n last) {passive : Passive} {ready : Option ControlConnReadyResult}
    (hbound : ∀ t, passive = .constructed t ∨ passive = .offered t ∨ passive = .accepted t ∨
      passive = .registered t → t < n)
    (hlast : ∀ t, passive = .registered t → (last.lookup x.passiveKey).isSome = true) :
    Attempt.Fits { x with passive := passive, ready := ready } n last where
  bound t ht := by
    rcases ht with ht | ht | ht
    · exact h.bound t (.inl ht)
    · exact h.bound t (.inr (.inl ht))
    · exact hbound t ht
  active := h.active
  passive := hlast

namespace System

variable {s : System} {x : Attempt} {a t : Nat} {key : TunnelKey} {ev : Event}

theorem isOpen_iff : s.isOpen t = true ↔
    ∃ x, s.tunnels[t]? = some x ∧ x.held = true ∧ x.closed = false := by
  unfold isOpen
  cases s.tunnels[t]? with
  | some x => simp
  | none => simp

structure Booked (s : System) : Prop where
  bound : ∀ key t, s.last.lookup key = some t → t < s.tunnels.length
  sound : ∀ key t, s.byTunnel.lookup key = some t → s.last.lookup key = some t
  kept : ∀ key t, s.last.lookup key = some t → s.isOpen t = true → s.byTunnel.lookup key = some t
  fits : ∀ x ∈ s.attempts, x.Fits s.tunnels.length s.last

theorem booked_init : Booked .init where
  bound key t h := by cases h
  sound key t h := by cases h
  kept key t h := by cases h
  fits x h := by cases h

/-- The tunnels change, and none is opened again. -/
theorem Booked.tunnels (h : s.Booked) {tunnels : List Tunnel}
    (hlen : s.tunnels.length ≤ tunnels.length)
    (hopen : ∀ t < s.tunnels.length, { s with tunnels := tunnels }.isOpen t = true → s.isOpen t = true) :
    Booked { s with tunnels := tunnels } where
  bound key t hl := Nat.lt_of_lt_of_le (h.bound key t hl) hlen
  sound := h.sound
  kept key t hl ht := h.kept key t hl (hopen t (h.bound key t hl) ht)
  fits x hx := (h.fits x hx).mono hlen fun _ => id

theorem Booked.newTunnel (h : s.Booked) (key : TunnelKey) : (s.newTunnel key).Booked := by
  refine h.tunnels (by simp) fun t ht hopen => ?_
  rw [isOpen, List.getElem?_append_left ht] at hopen
  exact hopen

/-- A tunnel is marked, and is not open if it was not. -/
theorem Booked.modify (h : s.Booked) (t : Nat) {f : Tunnel → Tunnel}
    (hf : ∀ x : Tunnel, (f x).held = true ∧ (f x).closed = false → x.held = true ∧ x.closed = false) :
    Booked { s with tunnels := s.tunnels.modify t f } := by
  refine h.tunnels (by rw [List.length_modify]) fun u hu hopen => ?_
  obtain ⟨y, hy, hopen⟩ := isOpen_iff.mp hopen
  rw [List.getElem?_modify, Option.map_eq_map, Option.map_eq_some_iff] at hy
  obtain ⟨x, hx, rfl⟩ := hy
  refine isOpen_iff.mpr ⟨x, hx, ?_⟩
  split_ifs at hopen with htu
  · exact hf x hopen
  · exact hopen

theorem Booked.closeTunnel (h : s.Booked) (t : Nat) : (s.closeTunnel t).Booked :=
  h.modify t fun x hx => by cases hx.2

theorem Booked.releaseTunnel (h : s.Booked) (t : Nat) : (s.releaseTunnel t).Booked :=
  h.modify t fun x hx => by cases hx.1

theorem Booked.setAttempt (h : s.Booked) (a : Nat) (hx : x.Fits s.tunnels.length s.last) :
    (s.setAttempt a x).Booked where
  bound := h.bound
  sound := h.sound
  kept := h.kept
  fits y hy := by
    rcases List.mem_or_eq_of_mem_set hy with hy | rfl
    · exact h.fits y hy
    · exact hx

theorem isSome_insert (last : Table TunnelKey Nat) (key key' : TunnelKey) (t : Nat)
    (h : (last.lookup key').isSome = true) : ((last.insert key t).lookup key').isSome = true := by
  by_cases hk : key' = key
  · rw [hk, AList.lookup_insert]
    rfl
  · rw [AList.lookup_insert_ne hk]
    exact h

theorem Booked.register (h : s.Booked) (key : TunnelKey) (ht : t < s.tunnels.length) :
    (s.register key t).Booked where
  bound key' u hl := by
    rw [System.register] at hl
    by_cases hk : key' = key
    · rw [hk, AList.lookup_insert] at hl
      exact Option.some.inj hl ▸ ht
    · rw [AList.lookup_insert_ne hk] at hl
      exact h.bound key' u hl
  sound key' u hl := by
    rw [System.register] at hl ⊢
    by_cases hk : key' = key
    · rw [hk, AList.lookup_insert] at hl ⊢
      exact hl
    · rw [AList.lookup_insert_ne hk] at hl ⊢
      exact h.sound key' u hl
  kept key' u hl hopen := by
    rw [System.register] at hl ⊢
    by_cases hk : key' = key
    · rw [hk, AList.lookup_insert] at hl ⊢
      exact hl
    · rw [AList.lookup_insert_ne hk] at hl ⊢
      exact h.kept key' u hl hopen
  fits x hx := (h.fits x hx).mono le_rfl fun key' => isSome_insert s.last key key' t

/-- A table that lost only tunnels that are not open. -/
theorem Booked.shrink (h : s.Booked) {byTunnel : Table TunnelKey Nat} {hellos : List DataHello}
    (hsub : ∀ key t, byTunnel.lookup key = some t → s.byTunnel.lookup key = some t)
    (hkeep : ∀ key t, s.byTunnel.lookup key = some t → s.isOpen t = true →
      byTunnel.lookup key = some t) :
    Booked { s with byTunnel := byTunnel, hellos := hellos } where
  bound := h.bound
  sound key t hl := h.sound key t (hsub key t hl)
  kept key t hl hopen := hkeep key t (h.kept key t hl hopen) hopen
  fits := h.fits

theorem Booked.findTunnel (h : s.Booked) (key : TunnelKey) (hellos : List DataHello) :
    Booked { s with byTunnel := (s.findTunnel key).2, hellos := hellos } := by
  unfold System.findTunnel
  split
  next t hl =>
    split_ifs with hopen
    · exact h.shrink (fun _ _ => id) fun _ _ hl _ => hl
    · refine h.shrink (fun key' u hl' => ?_) fun key' u hl' hopen' => ?_
      · dsimp only at hl'
        by_cases hk : key' = key
        · rw [hk, AList.lookup_erase] at hl'
          cases hl'
        · rwa [AList.lookup_erase_ne hk] at hl'
      · dsimp only
        rw [AList.lookup_erase_ne]
        · exact hl'
        · rintro rfl
          rw [hl] at hl'
          cases hl'
          exact hopen hopen'
  next => exact h.shrink (fun _ _ => id) fun _ _ hl _ => hl

theorem Booked.cleanupStale (h : s.Booked) : s.cleanupStale.Booked :=
  h.shrink (fun _ _ hl => (Table.lookup_retain.mp hl).1)
    fun _ _ hl hopen => Table.lookup_retain.mpr ⟨hl, hopen⟩

/-- The tunnel that was registered last under a key is found while it is open. -/
theorem Booked.found (h : s.Booked) (hl : s.last.lookup key = some t) (hopen : s.isOpen t = true) :
    (s.findTunnel key).1 = some t := by
  rw [System.findTunnel, h.kept key t hl hopen]
  dsimp only
  rw [if_pos hopen]

theorem Booked.run (h : s.Booked) (hx : s.attempts[a]? = some x) (ev : Event) :
    (s.run a x ev).Booked := by
  have hfits := h.fits x (List.mem_of_getElem? hx)
  cases ev with
  | writeReady b =>
    simp only [System.run]
    split_ifs with hp hr
    · exact h.setAttempt a (hfits.setPassive (by simp) (by simp))
    · exact h.setAttempt a (hfits.setPassive (by simp) (by simp))
    · exact h
  | readReady b =>
    simp only [System.run]
    split
    next result _ _ =>
      refine h.setAttempt a (hfits.setActive ?_ ?_)
      · split_ifs <;> simp
      · split_ifs <;> simp
    next => exact h
  | constructActive b =>
    simp only [System.run]
    split_ifs with hp
    · refine (h.newTunnel x.activeKey).setAttempt a ((hfits.mono ?_ fun _ => id).setActive ?_ ?_)
      · simp [System.newTunnel]
      · simp [System.newTunnel]
      · simp
    · exact h
  | registerActive b =>
    simp only [System.run]
    split
    next t hp =>
      have ht := hfits.bound t (.inl hp)
      refine (h.register x.activeKey ht).setAttempt a
        ((hfits.mono le_rfl fun key => isSome_insert s.last x.activeKey key t).setActive ?_ ?_)
      · simpa using ht
      · intro u _
        rw [AList.lookup_insert]
        rfl
    next => exact h
  | constructPassive b =>
    simp only [System.run]
    split_ifs with hp
    · refine (h.newTunnel x.passiveKey).setAttempt a ((hfits.mono ?_ fun _ => id).setPassive ?_ ?_)
      · simp [System.newTunnel]
      · simp [System.newTunnel]
      · simp
    · exact h
  | deliver b =>
    simp only [System.run]
    split
    next t hp =>
      have ht := hfits.bound t (.inr (.inr (.inl hp)))
      split_ifs
      · refine (h.closeTunnel t).setAttempt a ((hfits.mono ?_ fun _ => id).setPassive ?_ ?_)
        · simp [System.closeTunnel]
        · simp
        · simp
      · exact h.setAttempt a (hfits.setPassive (by simpa using ht) (by simp))
    next => exact h
  | callback b acceptance =>
    simp only [System.run]
    split
    next t hp =>
      have ht := hfits.bound t (.inr (.inr (.inr (.inl hp))))
      refine h.setAttempt a (hfits.setPassive ?_ ?_)
      · split_ifs
        · simpa using ht
        · simp
      · split_ifs <;> simp
    next => exact h
  | registerPassive b =>
    simp only [System.run]
    split
    next t hp =>
      have ht := hfits.bound t (.inr (.inr (.inr (.inr (.inl hp)))))
      split_ifs
      · refine (h.register x.passiveKey ht).setAttempt a
          ((hfits.mono le_rfl fun key => isSome_insert s.last x.passiveKey key t).setPassive ?_ ?_)
        · simpa using ht
        · intro u _
          rw [AList.lookup_insert]
          rfl
      · exact h.setAttempt a (hfits.setPassive (by simp) (by simp))
    next => exact h
  | sendHello b byConnector connId =>
    simp only [System.run]
    by_cases hsend : x.isRead = true ∧ (if byConnector = true then x.hasActive else x.hasPassive) = true
    · rw [if_pos hsend]
      exact h.shrink (fun _ _ => id) fun _ _ hl _ => hl
    · rw [if_neg hsend]
      exact h
  | dial connector acceptor tunnelId hello => exact h
  | closeListener p => exact h
  | close t => exact h
  | release t => exact h
  | cleanupStale => exact h
  | onDataConnection j => exact h

theorem Booked.step (h : s.Booked) (ev : Event) : (s.step ev).Booked := by
  have htask : ∀ a, (match s.attempts[a]? with | some x => s.run a x ev | none => s).Booked := by
    intro a
    cases hx : s.attempts[a]? with
    | some x => exact h.run hx ev
    | none => exact h
  cases ev with
  | dial connector acceptor tunnelId hello =>
    refine ⟨h.bound, h.sound, h.kept, fun x hx => ?_⟩
    rcases List.mem_append.mp hx with hx | hx
    · exact h.fits x hx
    · rw [List.mem_singleton.mp hx]
      refine ⟨fun t ht => ?_, fun t ht => ?_, fun t ht => ?_⟩
      · simp [Attempt.Knows] at ht
      · cases ht
      · cases ht
  | closeListener p => exact ⟨h.bound, h.sound, h.kept, h.fits⟩
  | close t => exact h.closeTunnel t
  | release t => exact h.releaseTunnel t
  | cleanupStale => exact h.cleanupStale
  | onDataConnection j =>
    simp only [System.step]
    split
    next x _ =>
      split_ifs
      · exact h.findTunnel x.key _
      · exact h
    next => exact h
  | writeReady a | readReady a | constructActive a | registerActive a | constructPassive a
  | deliver a | callback a acceptance | registerPassive a | sendHello a byConnector connId =>
    exact htask a

theorem booked_exec (evs : List Event) : (exec step .init evs).Booked :=
  exec_inv_all (fun _ ev hI => hI.step ev) booked_init evs

/-- After every run: a data connection is handed to the tunnel that was registered last under its
key, if that one is open, and is answered `TunnelNotFound` if none was registered; the connecting
side registers the tunnel that it has made, and the accepting side the one that the callback
accepted, unless its listener or the tunnel was closed meanwhile. -/
theorem registered_routes (evs : List Event) :
    (∀ (h : Nat) x, (exec step .init evs).hellos[h]? = some x → x.answer = none →
      (∀ t, (exec step .init evs).last.lookup x.key = some t →
        (exec step .init evs).isOpen t = true →
        (step (exec step .init evs) (.onDataConnection h)).hellos[h]? =
          some { x with answer := some (.routed t) }) ∧
      ((exec step .init evs).last.lookup x.key = none →
        (step (exec step .init evs) (.onDataConnection h)).hellos[h]? =
          some { x with
            answer := some (.ready ⟨x.connId.getD 0, x.key.candidateId, .tunnelNotFound⟩) })) ∧
    ∀ (a : Nat) y, (exec step .init evs).attempts[a]? = some y →
      (∀ t, y.active = .constructed t →
        (step (exec step .init evs) (.registerActive a)).last.lookup y.activeKey = some t) ∧
      ∀ t, y.passive = .accepted t → y.acceptor ∉ (exec step .init evs).closedListeners →
        (exec step .init evs).isClosed t = false →
        (step (exec step .init evs) (.registerPassive a)).last.lookup y.passiveKey = some t := by
  have hbooked := booked_exec evs
  generalize exec step .init evs = s at hbooked ⊢
  refine ⟨fun h x hx hnone => ?_, fun a y hy => ⟨fun t ht => ?_, fun t ht hopen hclosed => ?_⟩⟩
  · have hstep : s.step (.onDataConnection h) = s.onDataConnection h x := by
      simp only [System.step, hx, hnone, if_true]
    have hlt := (List.getElem?_eq_some_iff.mp hx).1
    rw [hstep]
    refine ⟨fun t hl hopen => ?_, fun hl => ?_⟩
    · rw [System.onDataConnection]
      dsimp only
      rw [hbooked.found hl hopen, List.getElem?_set_self hlt]
    · have hfind : (s.findTunnel x.key).1 = none := by
        unfold System.findTunnel
        cases hby : s.byTunnel.lookup x.key with
        | none => rfl
        | some t =>
          rw [hbooked.sound _ _ hby] at hl
          cases hl
      rw [System.onDataConnection]
      dsimp only
      rw [hfind, List.getElem?_set_self hlt]
  · simp only [System.step, hy, System.run, ht]
    exact AList.lookup_insert _
  · simp only [System.step, hy, System.run, ht, if_pos (And.intro hopen hclosed)]
    exact AList.lookup_insert _

/-- A control hello for candidate 9. -/
def sampleHello : TcpConnectionHello := ⟨.control, 9, none, none⟩

/-- `[1]` connects to `[2]`: the frame is written and read, and `[1]` has registered its tunnel. -/
def connecting : List Event :=
  [.dial [1] [2] 5 sampleHello, .writeReady 0, .readReady 0, .constructActive 0, .registerActive 0]

/-- `[2]` accepts the tunnel and registers it; then `[1]` opens a data connection. -/
def settled : List Event :=
  connecting ++ [.constructPassive 0, .deliver 0, .callback 0 .accepted, .registerPassive 0,
    .sendHello 0 true (some 3)]

theorem registered_routes_settled :
    (step (exec step .init settled) (.onDataConnection 0)).hellos[0]? =
      some ⟨⟨[2], [1], 5, 9⟩, some 3, some (.routed 1)⟩ := by
  obtain ⟨hroute, -⟩ := registered_routes settled
  exact (hroute 0 ⟨⟨[2], [1], 5, 9⟩, some 3, none⟩ (by decide +kernel) rfl).1 1 (by decide +kernel)
    (by decide +kernel)

/-- `[1]` opens a data connection as soon as it has its tunnel; it arrives at `[2]` when the callback
has accepted the tunnel there, just before it is registered. -/
def early : List Event :=
  connecting ++ [.sendHello 0 true (some 3), .constructPassive 0, .deliver 0,
    .callback 0 .accepted, .onDataConnection 0, .registerPassive 0]

/-- `[2]` opens a data connection when `[1]` has read the frame and not yet registered its tunnel. -/
def earlyBack : List Event :=
  [.dial [1] [2] 5 sampleHello, .writeReady 0, .constructPassive 0, .readReady 0,
    .sendHello 0 false (some 3), .constructActive 0, .onDataConnection 0, .registerActive 0]

/-- Both data connections are answered `TunnelNotFound`, by sides that have the tunnel, then and
later, and do not close it. -/
theorem early_not_found :
    ((exec step .init early).hellos =
        [⟨⟨[2], [1], 5, 9⟩, some 3, some (.ready ⟨3, 9, .tunnelNotFound⟩)⟩] ∧
      (exec step .init early).attempts =
        [⟨[1], [2], 5, sampleHello, some .success, .registered 0, .registered 1⟩] ∧
      (exec step .init early).tunnels =
        [⟨⟨[1], [2], 5, 9⟩, false, true⟩, ⟨⟨[2], [1], 5, 9⟩, false, true⟩]) ∧
    ((exec step .init earlyBack).hellos =
        [⟨⟨[1], [2], 5, 9⟩, some 3, some (.ready ⟨3, 9, .tunnelNotFound⟩)⟩] ∧
      (exec step .init earlyBack).attempts =
        [⟨[1], [2], 5, sampleHello, some .success, .registered 1, .constructed 0⟩] ∧
      (exec step .init earlyBack).tunnels =
        [⟨⟨[2], [1], 5, 9⟩, false, true⟩, ⟨⟨[1], [2], 5, 9⟩, false, true⟩]) := by
  decide +kernel

end System

end BuckyP2p.Tcp.Routing
