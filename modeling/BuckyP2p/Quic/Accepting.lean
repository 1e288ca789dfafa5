import BuckyP2p.Base
import BuckyP2p.Lib.Runs
import Mathlib.Logic.Function.Basic

/-!
# BuckyP2p.Quic.Accepting — the accept loop of a worker (`quic/listener.rs`, `quic/tunnel.rs`)

`wait_quic_endpoint_loop` takes the next connection, awaits the whole of `accept_connection` and of
`QuicTunnel::accept`, passes what comes of it to `on_incoming_tunnel` and awaits that, before it takes
the next one.  A step of the loop is what it does up to the next await; it does nothing where the
await is not over.

* A peer has sent what it has sent, whether the loop looks at it or not.  `credit` says that its
  window takes the response.
* The server configuration has a `max_idle_timeout` of 600 s: a connection of which nothing was
  heard for that long is lost, and so is every one when the endpoint is closed.  An await of a
  lost connection is over as soon as there is nothing left to read.  Time is in seconds.
* `identities` are the ids that come of the server name and the certificate of a connection, and of
  the certificate cache: all of this is local.
* Of an error the code is kept.
-/

namespace BuckyP2p.Quic.Accepting

open Lib

/-- Seconds (`build_server_config`). -/
def maxIdleTimeout : Nat := 600

structure TunnelHello where
  tunnelId : TunnelId
  candidateId : TunnelId
  isReverse : Bool
  deriving DecidableEq

structure QuicTunnel where
  localId : P2pId
  remoteId : P2pId
  hello : TunnelHello
  deriving DecidableEq

/-- What a peer has done.  `handshake` says how it ended, `header` that the header of a hello has
come, and `hello` what `read_command` makes of the bytes on the command stream. -/
structure Peer where
  arrived : Bool
  lastHeard : Nat
  closed : Bool
  handshake : Option Bool
  stream : Bool
  header : Bool
  hello : Option (Except P2pErrorCode TunnelHello)
  credit : Bool

inductive PeerAct
  /-- The first packet. -/
  | initial
  | handshake (ok credit : Bool)
  | openStream
  | commandHeader
  | command (hello : Except P2pErrorCode TunnelHello)
  | grant
  | keepAlive
  | close
  deriving DecidableEq

/-- Where the loop stands, with the connection it has taken. -/
inductive LoopPhase
  | accepting
  /-- `conn.await` -/
  | handshaking (q : Nat)
  /-- From the server name and the certificate to `cert_cache.add`. -/
  | resolving (q : Nat)
  /-- `accept_bi` -/
  | opening (q : Nat) (ids : P2pId × P2pId)
  | reading (q : Nat) (ids : P2pId × P2pId)
  | responding (q : Nat) (ids : P2pId × P2pId) (hello : TunnelHello)
  /-- `on_incoming_tunnel` is running. -/
  | calling (q : Nat)
  | ended
  deriving DecidableEq

def LoopPhase.current : LoopPhase → Option Nat
  | .handshaking q | .resolving q | .opening q _ | .reading q _ | .responding q _ _ | .calling q =>
    some q
  | .accepting | .ended => none

/-- The awaits that are left. -/
def LoopPhase.rank : LoopPhase → Nat
  | .accepting | .ended => 0
  | .calling _ => 1
  | .responding .. => 2
  | .reading .. => 3
  | .opening .. => 4
  | .resolving _ => 5
  | .handshaking _ => 6

structure Worker where
  now : Nat
  endpointClosed : Bool
  peers : Nat → Peer
  queue : List Nat
  loop : LoopPhase
  /-- What was passed to `on_incoming_tunnel`. -/
  passed : List (Nat × Except P2pErrorCode QuicTunnel)

inductive Event
  | loop
  | tick (d : Nat)
  | packet (q : Nat) (act : PeerAct)
  | close
  deriving DecidableEq

def Peer.act (x : Peer) (now : Nat) : PeerAct → Peer
  | .initial => { x with arrived := true, lastHeard := now }
  | .handshake ok credit =>
    { x with lastHeard := now, handshake := x.handshake.or (some ok), credit := x.credit || credit }
  | .openStream => { x with lastHeard := now, stream := true }
  | .commandHeader => { x with lastHeard := now, stream := true, header := true }
  | .command hello => { x with lastHeard := now, stream := true, hello := x.hello.or (some hello) }
  | .grant => { x with lastHeard := now, credit := true }
  | .keepAlive => { x with lastHeard := now }
  | .close => { x with closed := true }

namespace Worker

def start : Worker where
  now := 0
  endpointClosed := false
  peers := fun _ => ⟨false, 0, false, none, false, false, none, false⟩
  queue := []
  loop := .accepting
  passed := []

variable (identities : Nat → Except P2pErrorCode (P2pId × P2pId)) (s : Worker)

/-- The connection is closed or has timed out. -/
def lost (q : Nat) : Bool :=
  s.endpointClosed || (s.peers q).closed || (s.peers q).lastHeard + maxIdleTimeout ≤ s.now

/-- The result of `accept_connection` goes to `on_incoming_tunnel`. -/
def pass (q : Nat) (result : Except P2pErrorCode QuicTunnel) : Worker :=
  { s with loop := .calling q, passed := s.passed ++ [(q, result)] }

def loopStep : Worker :=
  match s.loop with
  | .accepting =>
    match s.queue with
    | q :: rest => { s with queue := rest, loop := .handshaking q }
    | [] => if s.endpointClosed then { s with loop := .ended } else s
  | .handshaking q =>
    match (s.peers q).handshake with
    | some true => { s with loop := .resolving q }
    | some false => s.pass q (.error .quicError)
    | none => if s.lost q then s.pass q (.error .quicError) else s
  | .resolving q =>
    match identities q with
    | .ok ids => { s with loop := .opening q ids }
    | .error err => s.pass q (.error err)
  | .opening q ids =>
    if (s.peers q).stream then { s with loop := .reading q ids }
    else if s.lost q then s.pass q (.error .ioError)
    else s
  | .reading q ids =>
    match (s.peers q).hello with
    | some (.ok hello) => { s with loop := .responding q ids hello }
    | some (.error err) => s.pass q (.error err)
    | none =>
      if s.lost q then s.pass q (.error (if (s.peers q).header then .ioError else .invalidData))
      else s
  | .responding q ids hello =>
    if s.lost q then s.pass q (.error .ioError)
    else if (s.peers q).credit then s.pass q (.ok ⟨ids.1, ids.2, hello⟩)
    else s
  | .calling _ => { s with loop := .accepting }
  | .ended => s

/-- What comes from a connection that is lost is not heard. -/
def packetStep (q : Nat) (act : PeerAct) : Worker :=
  if act = .initial then
    if (s.peers q).arrived || s.endpointClosed then s
    else
      { s with
        peers := Function.update s.peers q ((s.peers q).act s.now act)
        queue := s.queue ++ [q] }
  else if !(s.peers q).arrived || s.lost q then s
  else { s with peers := Function.update s.peers q ((s.peers q).act s.now act) }

def step (s : Worker) : Event → Worker
  | .loop => s.loopStep identities
  | .tick d => { s with now := s.now + d }
  | .packet q act => s.packetStep q act
  | .close => { s with endpointClosed := true }

/-! ## What is passed on -/

/-- What `accept_connection` makes of a connection whose hello it reads. -/
def accepted (q : Nat) (hello : TunnelHello) : Except P2pErrorCode QuicTunnel :=
  (identities q).map fun ids => ⟨ids.1, ids.2, hello⟩

/-- What has been passed on for `q` is right, as far as `q` has not failed itself. -/
def Outcome (q : Nat) (result : Except P2pErrorCode QuicTunnel) : Prop :=
  s.lost q ∨ (s.peers q).handshake = some false ∨
    (∃ code, (s.peers q).hello = some (.error code)) ∨
    (∃ code, identities q = .error code ∧ result = .error code) ∨
    ∃ hello, (s.peers q).hello = some (.ok hello) ∧ result = accepted identities q hello

def PhaseOk : Prop :=
  match s.loop with
  | .opening q ids | .reading q ids => identities q = .ok ids
  | .responding q ids hello => identities q = .ok ids ∧ (s.peers q).hello = some (.ok hello)
  | .calling q => ∃ result, (q, result) ∈ s.passed
  | .ended => s.endpointClosed
  | .accepting | .handshaking _ | .resolving _ => True

/-- The loop knows of the connection. -/
def Known (q : Nat) : Prop :=
  q ∈ s.queue ∨ s.loop.current = some q ∨ ∃ result, (q, result) ∈ s.passed

/-- No await of the connection is open: it is lost, or the peer has sent all that is awaited. -/
def Flows (q : Nat) : Prop :=
  s.lost q ∨ (s.peers q).handshake.isSome ∧ (s.peers q).stream ∧ (s.peers q).hello.isSome ∧
    (s.peers q).credit

structure Inv : Prop where
  known : ∀ q, s.Known q ↔ (s.peers q).arrived
  heard : ∀ q, (s.peers q).lastHeard ≤ s.now
  stream : ∀ q, (s.peers q).hello.isSome → (s.peers q).stream
  outcome : ∀ q result, (q, result) ∈ s.passed → s.Outcome identities q result
  phase : s.PhaseOk identities

/-- What a step of the loop can do. -/
inductive Turn : Worker → Prop
  | waits (h : ∀ q, s.loop.current = some q → ¬ s.Flows q) : Turn s
  | takes (q : Nat) (rest : List Nat) (hloop : s.loop = .accepting) (hqueue : s.queue = q :: rest) :
    Turn { s with queue := rest, loop := .handshaking q }
  | ends (hloop : s.loop = .accepting) (hclosed : s.endpointClosed) : Turn { s with loop := .ended }
  | goesOn (q : Nat) (phase : LoopPhase) (hcurrent : s.loop.current = some q)
    (hphase : phase.current = some q) (hrank : phase.rank < s.loop.rank)
    (hok : PhaseOk identities { s with loop := phase }) : Turn { s with loop := phase }
  | passes (q : Nat) (result : Except P2pErrorCode QuicTunnel) (hcurrent : s.loop.current = some q)
    (hrank : 1 < s.loop.rank) (houtcome : s.Outcome identities q result) : Turn (s.pass q result)
  | returns (q : Nat) (hloop : s.loop = .calling q) : Turn { s with loop := .accepting }

variable {identities s}

theorem turn (h : s.PhaseOk identities) : s.Turn identities (s.loopStep identities) := by
  cases hloop : s.loop with
  | accepting =>
    simp only [loopStep, hloop]
    split
    · next q rest hqueue => exact .takes q rest hloop hqueue
    · split
      · next hclosed => exact .ends hloop hclosed
      · exact .waits (by simp [hloop, LoopPhase.current])
  | handshaking q =>
    have hcurrent : s.loop.current = some q := by rw [hloop]; rfl
    simp only [loopStep, hloop]
    split
    · exact .goesOn q _ hcurrent rfl (by simp [hloop, LoopPhase.rank]) trivial
    · next hfailed => exact .passes q _ hcurrent (by simp [hloop, LoopPhase.rank]) (.inr (.inl hfailed))
    · next hnone =>
      split
      · next hlost => exact .passes q _ hcurrent (by simp [hloop, LoopPhase.rank]) (.inl hlost)
      · next hlost => exact .waits (by simp [hloop, LoopPhase.current, Flows, hlost, hnone])
  | resolving q =>
    have hcurrent : s.loop.current = some q := by rw [hloop]; rfl
    simp only [loopStep, hloop]
    split
    · next ids hids => exact .goesOn q _ hcurrent rfl (by simp [hloop, LoopPhase.rank]) hids
    · next code hids =>
      exact .passes q _ hcurrent (by simp [hloop, LoopPhase.rank])
        (.inr (.inr (.inr (.inl ⟨code, hids, rfl⟩))))
  | opening q ids =>
    have hcurrent : s.loop.current = some q := by rw [hloop]; rfl
    have hids : identities q = .ok ids := by simpa [PhaseOk, hloop] using h
    simp only [loopStep, hloop]
    split
    · exact .goesOn q _ hcurrent rfl (by simp [hloop, LoopPhase.rank]) hids
    · next hstream =>
      split
      · next hlost => exact .passes q _ hcurrent (by simp [hloop, LoopPhase.rank]) (.inl hlost)
      · next hlost => exact .waits (by simp [hloop, LoopPhase.current, Flows, hlost, hstream])
  | reading q ids =>
    have hcurrent : s.loop.current = some q := by rw [hloop]; rfl
    have hids : identities q = .ok ids := by simpa [PhaseOk, hloop] using h
    simp only [loopStep, hloop]
    split
    · next hello hhello =>
      exact .goesOn q _ hcurrent rfl (by simp [hloop, LoopPhase.rank]) ⟨hids, hhello⟩
    · next code hhello =>
      exact .passes q _ hcurrent (by simp [hloop, LoopPhase.rank]) (.inr (.inr (.inl ⟨code, hhello⟩)))
    · next hnone =>
      split
      · next hlost => exact .passes q _ hcurrent (by simp [hloop, LoopPhase.rank]) (.inl hlost)
      · next hlost => exact .waits (by simp [hloop, LoopPhase.current, Flows, hlost, hnone])
  | responding q ids hello =>
    have hcurrent : s.loop.current = some q := by rw [hloop]; rfl
    obtain ⟨hids, hhello⟩ : identities q = .ok ids ∧ (s.peers q).hello = some (.ok hello) := by
      simpa [PhaseOk, hloop] using h
    simp only [loopStep, hloop]
    split
    · next hlost => exact .passes q _ hcurrent (by simp [hloop, LoopPhase.rank]) (.inl hlost)
    · next hlost =>
      split
      · refine .passes q _ hcurrent (by simp [hloop, LoopPhase.rank]) ?_
        exact .inr (.inr (.inr (.inr ⟨hello, hhello, by rw [accepted, hids]; rfl⟩)))
      · next hcredit => exact .waits (by simp [hloop, LoopPhase.current, Flows, hlost, hcredit])
  | calling q =>
    simp only [loopStep, hloop]
    exact .returns q hloop
  | ended =>
    simp only [loopStep, hloop]
    exact .waits (by simp [hloop, LoopPhase.current])

theorem inv_start : start.Inv identities where
  known := by simp [Known, start, LoopPhase.current]
  heard := fun _ => le_rfl
  stream := by simp [start]
  outcome := by simp [start]
  phase := trivial

theorem Inv.loopStep (h : s.Inv identities) : (s.loopStep identities).Inv identities := by
  have hturn := turn h.phase
  generalize s.loopStep identities = t at hturn ⊢
  cases hturn with
  | waits => exact h
  | takes q rest hloop hqueue =>
    refine ⟨fun x => (h.known x).symm.trans ?_ |>.symm, h.heard, h.stream, h.outcome, trivial⟩
    simp only [Known, hqueue, hloop, LoopPhase.current, List.mem_cons, Option.some.injEq, reduceCtorEq,
      false_or, eq_comm (a := q)]
    tauto
  | ends hloop hclosed =>
    refine ⟨fun x => (h.known x).symm.trans ?_ |>.symm, h.heard, h.stream, h.outcome, hclosed⟩
    simp only [Known, hloop, LoopPhase.current]
  | goesOn q phase hcurrent hphase hrank hok =>
    refine ⟨fun x => (h.known x).symm.trans ?_ |>.symm, h.heard, h.stream, h.outcome, hok⟩
    simp only [Known, hcurrent, hphase]
  | passes q result hcurrent hrank houtcome =>
    refine ⟨fun x => (h.known x).symm.trans ?_ |>.symm, h.heard, h.stream, fun x r hx => ?_,
      ⟨result, List.mem_append_right _ (List.mem_singleton_self _)⟩⟩
    · have hcalling : (LoopPhase.calling q).current = some q := rfl
      simp only [Known, pass, hcurrent, hcalling, List.mem_append, List.mem_singleton,
        Prod.mk.injEq, Option.some.injEq]
      constructor
      · rintro (hx | hx | ⟨r, hx⟩)
        · exact .inl hx
        · exact .inr (.inl hx)
        · exact .inr (.inr ⟨r, .inl hx⟩)
      · rintro (hx | hx | ⟨r, hx | ⟨rfl, -⟩⟩)
        · exact .inl hx
        · exact .inr (.inl hx)
        · exact .inr (.inr ⟨r, hx⟩)
        · exact .inr (.inl rfl)
    · rcases List.mem_append.mp hx with hx | hx
      · exact h.outcome x r hx
      · cases List.mem_singleton.mp hx
        exact houtcome
  | returns q hloop =>
    obtain ⟨result, hpassed⟩ : ∃ result, (q, result) ∈ s.passed := by
      simpa [PhaseOk, hloop] using h.phase
    refine ⟨fun x => (h.known x).symm.trans ?_ |>.symm, h.heard, h.stream, h.outcome, trivial⟩
    simp only [Known, hloop, LoopPhase.current, Option.some.injEq, reduceCtorEq, false_or]
    constructor
    · rintro (hx | rfl | hx)
      · exact .inl hx
      · exact .inr ⟨result, hpassed⟩
      · exact .inr hx
    · exact fun hx => hx.imp_right .inr

/-! What a peer has done once stays as it is. -/

theorem act_handshake {x : Peer} {now : Nat} {act : PeerAct} {ok : Bool}
    (h : x.handshake = some ok) : (x.act now act).handshake = some ok := by
  cases act <;> simp [Peer.act, h]

theorem act_hello {x : Peer} {now : Nat} {act : PeerAct} {hello : Except P2pErrorCode TunnelHello}
    (h : x.hello = some hello) : (x.act now act).hello = some hello := by
  cases act <;> simp [Peer.act, h]

theorem act_stream {x : Peer} {now : Nat} {act : PeerAct} (h : x.hello.isSome → x.stream) :
    (x.act now act).hello.isSome → (x.act now act).stream := by
  cases act <;> simp [Peer.act] <;> exact h

theorem act_lastHeard {x : Peer} {now : Nat} {act : PeerAct} (h : x.lastHeard ≤ now) :
    (x.act now act).lastHeard ≤ now := by
  cases act <;> simp [Peer.act, h]

theorem act_arrived {x : Peer} {now : Nat} {act : PeerAct} (h : x.arrived) :
    (x.act now act).arrived := by
  cases act <;> simp [Peer.act, h]

/-- The worker after an act of a peer that is heard. -/
def heardFrom (s : Worker) (q : Nat) (act : PeerAct) : Worker :=
  { s with peers := Function.update s.peers q ((s.peers q).act s.now act) }

theorem heardFrom_self (q : Nat) (act : PeerAct) :
    (s.heardFrom q act).peers q = (s.peers q).act s.now act := Function.update_self ..

theorem heardFrom_of_ne {q x : Nat} (hx : x ≠ q) (act : PeerAct) :
    (s.heardFrom q act).peers x = s.peers x := Function.update_of_ne hx ..

theorem Outcome.heardFrom {x q : Nat} {act : PeerAct} {result : Except P2pErrorCode QuicTunnel}
    (h : s.Outcome identities x result) (hq : ¬ s.lost q) :
    (s.heardFrom q act).Outcome identities x result := by
  by_cases hx : x = q
  · subst hx
    simp only [Outcome, heardFrom_self]
    rcases h with hlost | hfailed | ⟨code, hhello⟩ | hids | ⟨hello, hhello, hresult⟩
    · exact absurd hlost hq
    · exact .inr (.inl (act_handshake hfailed))
    · exact .inr (.inr (.inl ⟨code, act_hello hhello⟩))
    · exact .inr (.inr (.inr (.inl hids)))
    · exact .inr (.inr (.inr (.inr ⟨hello, act_hello hhello, hresult⟩)))
  · unfold Outcome lost at h ⊢
    rw [heardFrom_of_ne hx]
    exact h

theorem PhaseOk.heardFrom (h : s.PhaseOk identities) (q : Nat) (act : PeerAct) :
    (s.heardFrom q act).PhaseOk identities := by
  unfold PhaseOk at h ⊢
  change match s.loop with
    | .opening q ids | .reading q ids => identities q = .ok ids
    | .responding x ids hello =>
      identities x = .ok ids ∧ ((s.heardFrom q act).peers x).hello = some (.ok hello)
    | .calling q => ∃ result, (q, result) ∈ s.passed
    | .ended => s.endpointClosed
    | .accepting | .handshaking _ | .resolving _ => True
  cases hloop : s.loop with
  | responding x ids hello =>
    rw [hloop] at h
    refine ⟨h.1, ?_⟩
    by_cases hx : x = q
    · subst hx
      rw [heardFrom_self]
      exact act_hello h.2
    · rw [heardFrom_of_ne hx]
      exact h.2
  | _ =>
    rw [hloop] at h
    exact h

/-- The loop knows the peer already, or comes to know it by this. -/
theorem Inv.heardFrom (h : s.Inv identities) {q : Nat} (hq : ¬ s.lost q) {act : PeerAct}
    (harrived : (s.peers q).arrived) : (s.heardFrom q act).Inv identities where
  known := by
    intro x
    refine (h.known x).trans ?_
    by_cases hx : x = q
    · subst hx
      rw [heardFrom_self]
      exact iff_of_true harrived (act_arrived harrived)
    · rw [heardFrom_of_ne hx]
  heard := by
    intro x
    by_cases hx : x = q
    · subst hx
      rw [heardFrom_self]
      exact act_lastHeard (h.heard x)
    · rw [heardFrom_of_ne hx]
      exact h.heard x
  stream := by
    intro x
    by_cases hx : x = q
    · subst hx
      rw [heardFrom_self]
      exact act_stream (h.stream x)
    · rw [heardFrom_of_ne hx]
      exact h.stream x
  outcome := fun x result hx => (h.outcome x result hx).heardFrom hq
  phase := h.phase.heardFrom q act

theorem Inv.arrives (h : s.Inv identities) {q : Nat} (hq : (s.peers q).arrived = false) :
    Inv identities { s.heardFrom q .initial with queue := s.queue ++ [q] } where
  known := by
    intro x
    by_cases hx : x = q
    · subst hx
      refine iff_of_true (.inl (List.mem_append_right _ (List.mem_singleton_self _))) ?_
      simp only [heardFrom_self]
      rfl
    · simp only [heardFrom_of_ne hx, ← h.known x, Known, List.mem_append, List.mem_singleton, hx,
        or_false]
      rfl
  heard := by
    intro x
    by_cases hx : x = q
    · subst hx
      simp only [heardFrom_self]
      exact act_lastHeard (h.heard x)
    · simp only [heardFrom_of_ne hx]
      exact h.heard x
  stream := by
    intro x
    by_cases hx : x = q
    · subst hx
      simp only [heardFrom_self]
      exact act_stream (h.stream x)
    · simp only [heardFrom_of_ne hx]
      exact h.stream x
  outcome := by
    intro x result hpassed
    have hx : x ≠ q := by
      rintro rfl
      have harrived := (h.known x).mp (.inr (.inr ⟨result, hpassed⟩))
      rw [hq] at harrived
      cases harrived
    have houtcome := h.outcome x result hpassed
    unfold Outcome lost at houtcome ⊢
    simp only [heardFrom_of_ne hx]
    exact houtcome
  phase := h.phase.heardFrom q .initial

theorem Inv.packetStep (h : s.Inv identities) (q : Nat) (act : PeerAct) :
    (s.packetStep q act).Inv identities := by
  unfold Worker.packetStep
  split_ifs with hinitial hknown hignored
  · exact h
  · subst hinitial
    simp only [Bool.or_eq_true, not_or, Bool.not_eq_true] at hknown
    exact h.arrives hknown.1
  · exact h
  · simp only [Bool.or_eq_true, Bool.not_eq_true', not_or, Bool.not_eq_false] at hignored
    exact h.heardFrom hignored.2 hignored.1

theorem Inv.tick (h : s.Inv identities) (d : Nat) : Inv identities { s with now := s.now + d } where
  known := h.known
  heard := fun q => (h.heard q).trans (Nat.le_add_right ..)
  stream := h.stream
  outcome := by
    intro q result hpassed
    refine (h.outcome q result hpassed).imp_left fun hlost => ?_
    simp only [lost, Bool.or_eq_true, decide_eq_true_eq] at hlost ⊢
    exact hlost.imp_right fun hold => hold.trans (Nat.le_add_right ..)
  phase := h.phase

theorem Inv.close (h : s.Inv identities) : Inv identities { s with endpointClosed := true } where
  known := h.known
  heard := h.heard
  stream := h.stream
  outcome := fun _ _ _ => .inl rfl
  phase := by
    have hphase := h.phase
    unfold PhaseOk at hphase ⊢
    cases hloop : s.loop with
    | accepting | ended => simp
    | handshaking q | resolving q => simp
    | _ => simpa [hloop] using hphase

theorem Inv.step (h : s.Inv identities) (ev : Event) : (step identities s ev).Inv identities := by
  cases ev with
  | loop => exact h.loopStep
  | tick d => exact h.tick d
  | packet q act => exact h.packetStep q act
  | close => exact h.close

theorem Inv.run (h : s.Inv identities) (evs : List Event) :
    (exec (Worker.step identities) s evs).Inv identities :=
  exec_inv_all (I := (Inv identities ·)) (fun _ ev h => h.step ev) h evs

/-! ## No peer blocks the others -/

/-- A step of the worker, of the clock, or of the peer `p`: its keep-alives, and that its window takes
the response. -/
def LocalTo (p : Nat) : Event → Prop
  | .loop | .tick _ => True
  | .packet q act => q = p ∧ (act = .keepAlive ∨ act = .grant)
  | .close => False

/-- The handshake of `p` is complete and its hello sent, and the connection is not lost. -/
structure Ready (s : Worker) (p : Nat) (hello : TunnelHello) : Prop where
  arrived : (s.peers p).arrived
  alive : ¬ s.lost p
  handshake : (s.peers p).handshake = some true
  hello : (s.peers p).hello = some (.ok hello)

/-- Only the loop has gone on. -/
structure SameWorld (s t : Worker) : Prop where
  now : t.now = s.now
  peers : t.peers = s.peers
  endpointClosed : t.endpointClosed = s.endpointClosed

theorem SameWorld.lost {t : Worker} (h : s.SameWorld t) (q : Nat) : t.lost q = s.lost q := by
  rw [Worker.lost, Worker.lost, h.now, h.peers, h.endpointClosed]

theorem SameWorld.trans {t u : Worker} (h : s.SameWorld t) (h' : t.SameWorld u) : s.SameWorld u :=
  ⟨h'.now.trans h.now, h'.peers.trans h.peers, h'.endpointClosed.trans h.endpointClosed⟩

/-- A connection none of whose awaits is open is passed on, by the loop alone. -/
theorem drain {q : Nat} (h : s.Inv identities) (hcurrent : s.loop.current = some q)
    (hflows : s.Flows q) : ∃ n,
      let t := exec (step identities) s (List.replicate n .loop)
      t.loop = .accepting ∧ t.queue = s.queue ∧ s.SameWorld t ∧ ∃ result, (q, result) ∈ t.passed := by
  induction hrank : s.loop.rank using Nat.strong_induction_on generalizing s with
  | _ rank ih =>
    have hinv : (step identities s .loop).Inv identities := h.step .loop
    have hturn : s.Turn identities (step identities s .loop) := turn h.phase
    generalize ht : step identities s .loop = t at hinv hturn
    -- one turn, and then as the induction says
    have hnext : t.loop.current = some q → t.loop.rank < rank → t.queue = s.queue → s.SameWorld t →
        ∃ n, let u := exec (step identities) s (List.replicate n .loop)
          u.loop = .accepting ∧ u.queue = s.queue ∧ s.SameWorld u ∧
            ∃ result, (q, result) ∈ u.passed := by
      intro hcurrent' hless hqueue hsame
      have hflows' : t.Flows q := by
        rw [Flows, hsame.lost, hsame.peers]
        exact hflows
      obtain ⟨n, haccepting, hqueue', hsame', hpassed⟩ := ih _ hless hinv hcurrent' hflows' rfl
      refine ⟨n + 1, ?_⟩
      rw [List.replicate_succ, exec_cons, ht]
      exact ⟨haccepting, hqueue'.trans hqueue, hsame.trans hsame', hpassed⟩
    cases hturn with
    | waits hwaits => exact absurd hflows (hwaits q hcurrent)
    | takes q' rest hloop hqueue => simp [hloop, LoopPhase.current] at hcurrent
    | ends hloop hclosed => simp [hloop, LoopPhase.current] at hcurrent
    | goesOn q' phase hcurrent' hphase hless hok =>
      cases hcurrent.symm.trans hcurrent'
      exact hnext hphase (hrank ▸ hless) rfl ⟨rfl, rfl, rfl⟩
    | passes q' result hcurrent' hless houtcome =>
      cases hcurrent.symm.trans hcurrent'
      exact hnext rfl (hrank ▸ hless) rfl ⟨rfl, rfl, rfl⟩
    | returns q' hloop =>
      have hq : q' = q := by simpa [hloop, LoopPhase.current] using hcurrent
      subst hq
      have hpassed : ∃ result, (q', result) ∈ s.passed := by simpa [PhaseOk, hloop] using h.phase
      refine ⟨1, ?_⟩
      rw [List.replicate_one, exec_cons, exec_nil, ht]
      exact ⟨rfl, rfl, ⟨rfl, rfl, rfl⟩, hpassed⟩

/-- A packet that is not the first one is heard, or it changes nothing. -/
theorem packetStep_eq {act : PeerAct} (hact : act ≠ .initial) (q : Nat) :
    s.packetStep q act = s ∨ s.packetStep q act = s.heardFrom q act := by
  rw [packetStep, if_neg hact]
  split_ifs
  · exact .inl rfl
  · exact .inr rfl

/-- Ready, and its window takes the response. -/
structure Sending (s : Worker) (p : Nat) (hello : TunnelHello) : Prop extends s.Ready p hello where
  credit : (s.peers p).credit

theorem Ready.packetStep {p : Nat} {hello : TunnelHello} (h : s.Ready p hello) {act : PeerAct}
    (hact : act ≠ .initial) : s.packetStep p act = s.heardFrom p act := by
  have hheard : ¬ (!(s.peers p).arrived || s.lost p) = true := by simp [h.arrived, h.alive]
  rw [Worker.packetStep, if_neg hact, if_neg hheard]
  rfl

theorem not_lost_iff {q : Nat} : ¬ s.lost q ↔
    s.endpointClosed = false ∧ (s.peers q).closed = false ∧
      s.now < (s.peers q).lastHeard + maxIdleTimeout := by
  simp [lost, and_assoc]

theorem Ready.grant {p : Nat} {hello : TunnelHello} (h : s.Ready p hello) :
    (s.packetStep p .grant).Sending p hello := by
  obtain ⟨hopen, hclosed, -⟩ := not_lost_iff.mp h.alive
  rw [h.packetStep (by simp)]
  refine ⟨⟨?_, not_lost_iff.mpr ⟨hopen, ?_⟩, ?_, ?_⟩, ?_⟩
  · rw [heardFrom_self]
    exact h.arrived
  · rw [heardFrom_self]
    exact ⟨hclosed, Nat.lt_add_of_pos_right (by decide)⟩
  · rw [heardFrom_self]
    exact h.handshake
  · rw [heardFrom_self]
    exact act_hello h.hello
  · rw [heardFrom_self]
    rfl

/-- A keep-alive starts the idle time anew. -/
theorem Sending.keepAlive {p : Nat} {hello : TunnelHello} (h : s.Sending p hello) :
    (s.packetStep p .keepAlive).Sending p hello ∧
      ((s.packetStep p .keepAlive).peers p).lastHeard = (s.packetStep p .keepAlive).now := by
  obtain ⟨hopen, hclosed, -⟩ := not_lost_iff.mp h.alive
  rw [h.packetStep (by simp)]
  refine ⟨⟨⟨?_, not_lost_iff.mpr ⟨hopen, ?_⟩, ?_, ?_⟩, ?_⟩, ?_⟩
  · rw [heardFrom_self]
    exact h.arrived
  · rw [heardFrom_self]
    exact ⟨hclosed, Nat.lt_add_of_pos_right (by decide)⟩
  · rw [heardFrom_self]
    exact h.handshake
  · rw [heardFrom_self]
    exact act_hello h.hello
  · rw [heardFrom_self]
    exact h.credit
  · rw [heardFrom_self]
    rfl

theorem Sending.tick {p : Nat} {hello : TunnelHello} (h : s.Sending p hello)
    (hheard : (s.peers p).lastHeard = s.now) {d : Nat} (hd : d < maxIdleTimeout) :
    Sending { s with now := s.now + d } p hello := by
  obtain ⟨hopen, hclosed, -⟩ := not_lost_iff.mp h.alive
  refine ⟨⟨h.arrived, not_lost_iff.mpr ⟨hopen, hclosed, ?_⟩, h.handshake, h.hello⟩, h.credit⟩
  rw [hheard]
  exact Nat.add_lt_add_left hd _

/-- The idle time of all others goes by, and `p` keeps its connection alive. -/
def outlast (p : Nat) : List Event :=
  [.packet p .keepAlive, .tick (maxIdleTimeout - 1), .packet p .keepAlive, .tick 1]

theorem outlast_local (p : Nat) : ∀ ev ∈ outlast p, LocalTo p ev := by
  simp [outlast, LocalTo]

/-- The loop has not moved; only `p` was heard, and the clock has gone on by `d`. -/
structure Waited (s t : Worker) (p d : Nat) : Prop where
  now : t.now = s.now + d
  peers : ∀ q, q ≠ p → t.peers q = s.peers q
  endpointClosed : t.endpointClosed = s.endpointClosed
  loop : t.loop = s.loop
  queue : t.queue = s.queue
  passed : t.passed = s.passed

theorem waited_packet {p : Nat} {act : PeerAct} (hact : act ≠ .initial) :
    s.Waited (s.packetStep p act) p 0 := by
  rcases packetStep_eq hact p with hsame | hheard
  · rw [hsame]
    exact ⟨rfl, fun _ _ => rfl, rfl, rfl, rfl, rfl⟩
  · rw [hheard]
    exact ⟨rfl, fun _ hq => heardFrom_of_ne hq act, rfl, rfl, rfl, rfl⟩

theorem waited_tick (p d : Nat) : s.Waited { s with now := s.now + d } p d :=
  ⟨rfl, fun _ _ => rfl, rfl, rfl, rfl, rfl⟩

theorem Waited.trans {t u : Worker} {p d e : Nat} (h : s.Waited t p d) (h' : t.Waited u p e) :
    s.Waited u p (d + e) where
  now := by rw [h'.now, h.now, Nat.add_assoc]
  peers := fun q hq => (h'.peers q hq).trans (h.peers q hq)
  endpointClosed := h'.endpointClosed.trans h.endpointClosed
  loop := h'.loop.trans h.loop
  queue := h'.queue.trans h.queue
  passed := h'.passed.trans h.passed

variable (identities s) in
theorem outlast_waited (p : Nat) : s.Waited (exec (step identities) s (outlast p)) p maxIdleTimeout :=
  (((waited_packet (by simp)).trans (waited_tick p _)).trans (waited_packet (by simp))).trans
    (waited_tick p 1)

theorem Sending.outlast {p : Nat} {hello : TunnelHello} (h : s.Sending p hello) :
    (exec (step identities) s (outlast p)).Sending p hello := by
  obtain ⟨h₁, hheard₁⟩ := h.keepAlive
  have h₂ := h₁.tick hheard₁ (d := maxIdleTimeout - 1) (by decide)
  obtain ⟨h₃, hheard₃⟩ := h₂.keepAlive
  exact h₃.tick hheard₃ (d := 1) (by decide)

/-- Whoever else is silent meanwhile is lost. -/
theorem lost_of_outlast (h : s.Inv identities) {p q : Nat} (hq : q ≠ p) :
    (exec (step identities) s (outlast p)).lost q := by
  have hwaited := outlast_waited identities s p
  simp only [lost, hwaited.peers q hq, hwaited.now, Bool.or_eq_true, decide_eq_true_eq]
  exact .inr (Nat.add_le_add_right (h.heard q) _)

theorem Sending.sameWorld {t : Worker} {p : Nat} {hello : TunnelHello} (h : s.Sending p hello)
    (hsame : s.SameWorld t) : t.Sending p hello := by
  refine ⟨⟨?_, ?_, ?_, ?_⟩, ?_⟩
  · rw [hsame.peers]
    exact h.arrived
  · rw [hsame.lost]
    exact h.alive
  · rw [hsame.peers]
    exact h.handshake
  · rw [hsame.peers]
    exact h.hello
  · rw [hsame.peers]
    exact h.credit

theorem local_replicate (p n : Nat) : ∀ ev ∈ List.replicate n Event.loop, LocalTo p ev := by
  rintro ev hev
  rw [List.eq_of_mem_replicate hev]
  trivial

/-- Whoever is taken and is not `p` is passed on, after its idle time at the latest. -/
theorem exists_accepting {p q : Nat} (h : s.Inv identities) (hq : q ≠ p)
    (hcurrent : s.loop.current = some q) :
    ∃ evs, (∀ ev ∈ evs, LocalTo p ev) ∧
      let t := exec (step identities) s evs
      t.loop = .accepting ∧ t.queue = s.queue ∧
        ∀ hello, s.Sending p hello → t.Sending p hello := by
  have hwaited := outlast_waited identities s p
  obtain ⟨n, hloop, hqueue, hsame, -⟩ :=
    drain (h.run (outlast p)) (hwaited.loop ▸ hcurrent) (.inl (lost_of_outlast h hq))
  refine ⟨outlast p ++ List.replicate n .loop, ?_, ?_⟩
  · exact List.forall_mem_append.mpr ⟨outlast_local p, local_replicate p n⟩
  · rw [exec_append]
    exact ⟨hloop, hqueue.trans hwaited.queue, fun hello hsending =>
      hsending.outlast.sameWorld hsame⟩

/-- **Whoever waits is taken.**  While the endpoint is open, the loop comes to every connection in its
queue, with no step of another peer, and a peer that keeps its connection alive keeps it till then. -/
theorem exists_taken {p : Nat} {pre post : List Nat} (h : s.Inv identities) (hpre : p ∉ pre)
    (hqueue : s.queue = pre ++ p :: post) (hloop : s.loop = .accepting) :
    ∃ evs, (∀ ev ∈ evs, LocalTo p ev) ∧
      let t := exec (step identities) s evs
      t.loop = .handshaking p ∧ ∀ hello, s.Sending p hello → t.Sending p hello := by
  induction pre generalizing s with
  | nil =>
    refine ⟨[.loop], by simp [LocalTo], ?_⟩
    have htake : step identities s .loop = { s with queue := post, loop := .handshaking p } := by
      simp [step, loopStep, hloop, hqueue]
    rw [exec_cons, exec_nil, htake]
    exact ⟨rfl, fun hello hsending => ⟨⟨hsending.arrived, hsending.alive, hsending.handshake,
      hsending.hello⟩, hsending.credit⟩⟩
  | cons q pre ih =>
    obtain ⟨hq, hpre⟩ : p ≠ q ∧ p ∉ pre := by simpa using hpre
    have htake : step identities s .loop =
        { s with queue := pre ++ p :: post, loop := .handshaking q } := by
      simp [step, loopStep, hloop, hqueue]
    have hinv : (step identities s .loop).Inv identities := h.step .loop
    have hsame : s.SameWorld (step identities s .loop) := by
      rw [htake]
      exact ⟨rfl, rfl, rfl⟩
    obtain ⟨evs, hlocal, haccepting, hrest, hkeeps⟩ :=
      exists_accepting hinv (Ne.symm hq) (by rw [htake]; rfl)
    obtain ⟨evs', hlocal', hloop', hkeeps'⟩ :=
      ih (hinv.run evs) hpre (hrest.trans (by rw [htake])) haccepting
    refine ⟨.loop :: evs ++ evs', ?_, ?_⟩
    · exact List.forall_mem_append.mpr ⟨List.forall_mem_cons.mpr ⟨trivial, hlocal⟩, hlocal'⟩
    · rw [exec_append, exec_cons]
      exact ⟨hloop', fun hello hsending => hkeeps' hello (hkeeps hello (hsending.sameWorld hsame))⟩

/-- What is passed on for a peer that is ready is what comes of its hello. -/
theorem Inv.passed_eq (h : s.Inv identities) {p : Nat} {hello : TunnelHello}
    (hready : s.Ready p hello) {result : Except P2pErrorCode QuicTunnel}
    (hpassed : (p, result) ∈ s.passed) : result = accepted identities p hello := by
  rcases h.outcome p result hpassed with hlost | hfailed | ⟨code, hbad⟩ | ⟨code, hids, hresult⟩ |
    ⟨hello', hgood, hresult⟩
  · exact absurd hlost hready.alive
  · cases hready.handshake.symm.trans hfailed
  · cases hready.hello.symm.trans hbad
  · rw [hresult, accepted, hids]
    rfl
  · cases hready.hello.symm.trans hgood
    exact hresult

/-- Once it is taken, the loop alone passes it on. -/
theorem exists_passed_of_current {p : Nat} {hello : TunnelHello} (h : s.Inv identities)
    (hsending : s.Sending p hello) (hcurrent : s.loop.current = some p) :
    ∃ n, (p, accepted identities p hello) ∈
      (exec (step identities) s (List.replicate n .loop)).passed := by
  have hflows : s.Flows p :=
    .inr ⟨by simp [hsending.handshake], h.stream p (by simp [hsending.hello]),
      by simp [hsending.hello], hsending.credit⟩
  obtain ⟨n, -, -, hsame, result, hpassed⟩ := drain h hcurrent hflows
  refine ⟨n, ?_⟩
  have hresult := (h.run _).passed_eq (hsending.sameWorld hsame).toReady hpassed
  exact hresult ▸ hpassed

/-- The loop comes back to `accept`, before it has come to `p`. -/
theorem exists_accepting_or_current {p : Nat} {hello : TunnelHello} (h : s.Inv identities)
    (hsending : s.Sending p hello) :
    s.loop.current = some p ∨ ∃ evs, (∀ ev ∈ evs, LocalTo p ev) ∧
      let t := exec (step identities) s evs
      t.loop = .accepting ∧ t.queue = s.queue ∧ t.Sending p hello := by
  cases hcurrent : s.loop.current with
  | some q =>
    by_cases hq : q = p
    · exact .inl (by rw [hq])
    · obtain ⟨evs, hlocal, hloop, hqueue, hkeeps⟩ := exists_accepting h hq hcurrent
      exact .inr ⟨evs, hlocal, hloop, hqueue, hkeeps hello hsending⟩
  | none =>
    have hphase := h.phase
    cases hloop : s.loop with
    | accepting => exact .inr ⟨[], by simp, hloop, rfl, hsending⟩
    | ended =>
      have hclosed : s.endpointClosed := by simpa [PhaseOk, hloop] using hphase
      exact absurd (by simp [lost, hclosed]) hsending.alive
    | _ => simp [hloop, LoopPhase.current] at hcurrent

theorem exists_passed_of_sending {p : Nat} {hello : TunnelHello} (h : s.Inv identities)
    (hsending : s.Sending p hello) :
    ∃ evs, (∀ ev ∈ evs, LocalTo p ev) ∧
      (p, accepted identities p hello) ∈ (exec (step identities) s evs).passed := by
  rcases (h.known p).mpr hsending.arrived with hwaits | hcurrent | ⟨result, hpassed⟩
  · rcases exists_accepting_or_current h hsending with hcurrent | ⟨evs, hlocal, hloop, hqueue, hkept⟩
    · obtain ⟨n, hpassed⟩ := exists_passed_of_current h hsending hcurrent
      exact ⟨_, local_replicate p n, hpassed⟩
    · obtain ⟨pre, post, hsplit, hpre⟩ := List.eq_append_cons_of_mem hwaits
      obtain ⟨evs', hlocal', htaken, hkeeps⟩ :=
        exists_taken (h.run evs) hpre (hqueue.trans hsplit) hloop
      obtain ⟨n, hpassed⟩ := exists_passed_of_current ((h.run evs).run evs') (hkeeps hello hkept)
        (by rw [htaken]; rfl)
      refine ⟨evs ++ evs' ++ List.replicate n .loop, ?_, ?_⟩
      · exact List.forall_mem_append.mpr
          ⟨List.forall_mem_append.mpr ⟨hlocal, hlocal'⟩, local_replicate p n⟩
      · rw [exec_append, exec_append]
        exact hpassed
  · obtain ⟨n, hpassed⟩ := exists_passed_of_current h hsending hcurrent
    exact ⟨_, local_replicate p n, hpassed⟩
  · exact ⟨[], by simp, h.passed_eq hsending.toReady hpassed ▸ hpassed⟩

/-- **No peer blocks another.**  In every reachable state, for a peer whose handshake is complete and
whose hello is sent, there are steps of the worker, of the clock and of this peer only, after which
what comes of its hello (its tunnel, where its identities are good) has been passed to
`on_incoming_tunnel`. -/
theorem exists_passed (identities : Nat → Except P2pErrorCode (P2pId × P2pId)) (evs : List Event)
    {p : Nat} {hello : TunnelHello} (hready : (exec (step identities) start evs).Ready p hello) :
    ∃ evs', (∀ ev ∈ evs', LocalTo p ev) ∧
      (p, accepted identities p hello) ∈
        (exec (step identities) (exec (step identities) start evs) evs').passed := by
  have h : (exec (step identities) start evs).Inv identities := inv_start.run evs
  obtain ⟨evs', hlocal, hpassed⟩ := exists_passed_of_sending (h.step (.packet p .grant)) hready.grant
  exact ⟨.packet p .grant :: evs', List.forall_mem_cons.mpr ⟨⟨rfl, .inr rfl⟩, hlocal⟩, hpassed⟩

/-- The first peer says nothing after its handshake; the second one has sent its hello. -/
def silentFirst : List Event :=
  [.packet 0 .initial, .packet 1 .initial, .loop, .packet 0 (.handshake true true), .loop, .loop,
    .packet 1 (.handshake true true), .packet 1 (.command (.ok ⟨7, 8, false⟩))]

theorem silentFirst_passed :
    (exec (step fun _ => .ok ([1], [2])) start silentFirst).loop = .opening 0 ([1], [2]) ∧
      ∃ evs', (∀ ev ∈ evs', LocalTo 1 ev) ∧
        (1, accepted (fun _ => .ok ([1], [2])) 1 ⟨7, 8, false⟩) ∈
          (exec (step fun _ => .ok ([1], [2]))
            (exec (step fun _ => .ok ([1], [2])) start silentFirst) evs').passed :=
  ⟨rfl, exists_passed (fun _ => .ok ([1], [2])) silentFirst ⟨rfl, by decide, rfl, rfl⟩⟩

end Worker

end BuckyP2p.Quic.Accepting
