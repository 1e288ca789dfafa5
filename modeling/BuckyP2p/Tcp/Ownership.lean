import BuckyP2p.Tcp.Endings
import BuckyP2p.Tcp.Handles

/-!
# BuckyP2p.Tcp.Ownership — every half of a lease has an owner

The control loop makes a lease and hands it over: to the caller that waits for it, through a
`oneshot`, or to the accept callback.  Where nobody is there to take it the lease is dropped without
having had a handle, and then nobody ever releases its halves.

* `HandsOver`: the lease is on its way to somebody who will make its handles.
* `Owned`: each half is released, or has a handle, or is on its way.
* `passes`: what a step must meet so that no lease is dropped on its way; `keeps`, so that the
  connection of a lease that is let go comes to its end, too.
* `leases_owned`: in every run whose steps keep leases, every half of every lease is owned, and the
  connection of a lease that is bound can still be retired.
* `Orphan.not_canEnd`: the connection of a lease without an owner cannot.
-/

namespace BuckyP2p.Tcp

open Lib

/-- What the handles of a lease depend on. -/
structure Halves where
  kind : TcpChannelKind
  localInitiator : Bool
  readReleased : Bool
  writeReleased : Bool
  deriving DecidableEq, Repr

/-- What a lease may become: its halves are released, and not taken back. -/
structure Halves.Eases (h h' : Halves) : Prop where
  kind : h'.kind = h.kind
  localInitiator : h'.localInitiator = h.localInitiator
  readReleased : h.readReleased = true → h'.readReleased = true
  writeReleased : h.writeReleased = true → h'.writeReleased = true

theorem Halves.Eases.refl (h : Halves) : h.Eases h := ⟨rfl, rfl, fun hr => hr, fun hw => hw⟩

namespace LeaseContext

def halves (c : LeaseContext) : Halves where
  kind := c.kind
  localInitiator := c.localInitiator
  readReleased := c.readReleased
  writeReleased := c.writeReleased

theorem Intact.halves {c c' : LeaseContext} (h : c.Intact c') : c'.halves = c.halves := by
  rw [LeaseContext.halves, h.kind, h.localInitiator, h.readReleased, h.writeReleased]
  rfl

/-- Dropping the reader releases its half, and nothing else. -/
theorem releaseReadHalf_halves (c : LeaseContext) :
    c.releaseReadHalf.1.halves = { c.halves with readReleased := true } := by
  unfold releaseReadHalf
  split
  · next hreleased =>
    rw [← hreleased]
    rfl
  · dsimp only
    repeat' split
    all_goals rfl

/-- Dropping the writer releases its half, and nothing else. -/
theorem releaseWriteHalf_halves (c : LeaseContext) :
    c.releaseWriteHalf.1.halves = { c.halves with writeReleased := true } := by
  unfold releaseWriteHalf
  split
  · next hreleased =>
    rw [← hreleased]
    rfl
  · dsimp only
    split <;> rfl

end LeaseContext

/-- The lease that the loop has bound to a request of the other end, and not enqueued yet. -/
def Loop.accepted : Loop → Option Nat
  | .recording _ p | .processed p => p.accepted
  | _ => none

/-- The loop has a lease to hand over. -/
def Loop.hands : Loop → Bool
  | .recording _ _ | .processed _ | .telling _ => true
  | _ => false

theorem Loop.accepted_none {l : Loop} (h : l.hands = false) : l.accepted = none := by
  cases l with
  | recording record p => cases h
  | processed p => cases h
  | _ => rfl

namespace TcpTunnel

variable {x x' y : TcpTunnel}

/-- The halves of the lease `i`. -/
def halvesOf (x : TcpTunnel) (i : Nat) : Option Halves := x.leases[i]?.map LeaseContext.halves

theorem halvesOf_region {i : Nat} {lease : LeaseContext} (hi : x.leases[i]? = some lease)
    (r : LeaseContext × List Todo) (j : Nat) :
    (x.region i r).halvesOf j = if j = i then some r.1.halves else x.halvesOf j := by
  have hlt : i < x.leases.length := (List.getElem?_eq_some_iff.mp hi).1
  show ((x.leases.set i r.1)[j]?).map LeaseContext.halves = _
  rw [List.getElem?_set]
  by_cases hji : j = i
  · subst hji
    rw [if_pos rfl, if_pos hlt, if_pos rfl]
    rfl
  · rw [if_neg (Ne.symm hji), if_neg hji]
    rfl

/-- A step that hands nothing over, and changes neither the loop nor what a handle depends on. -/
structure Quiet (x x' : TcpTunnel) : Prop where
  halves : ∀ i, x'.halvesOf i = x.halvesOf i
  loop : x'.loop = x.loop
  closed : x'.closed = x.closed

namespace Quiet

theorem refl (x : TcpTunnel) : Quiet x x := ⟨fun _ => rfl, rfl, rfl⟩

theorem region {i : Nat} {lease : LeaseContext} (hi : x.leases[i]? = some lease)
    {r : LeaseContext × List Todo} (hr : r.1.halves = lease.halves) : Quiet x (x.region i r) where
  halves j := by
    rw [halvesOf_region hi]
    split_ifs with hji
    · rw [hji, hr, halvesOf, hi]
      rfl
    · rfl
  loop := rfl
  closed := rfl

theorem runLease {i : Nat} {lease : LeaseContext} (hi : x.leases[i]? = some lease) (t : Todo) :
    Quiet x (x.runLease i lease t) := by
  cases t with
  | sendWriteFin => exact { region hi lease.sendWriteFin_intact.halves with }
  | sendReadDone => exact { region hi lease.sendReadDone_intact.halves with }
  | markDraining =>
    simp only [TcpTunnel.runLease]
    split
    · exact { refl x with }
    · exact refl x
  | retire => exact { region hi lease.retireLease_intact.halves with }
  | markRetired => exact { refl x with }
  | finalize => exact region hi lease.maybeFinalizeLease_intact.halves
  | settle =>
    simp only [TcpTunnel.runLease]
    split
    · exact { refl x with }
    · exact { refl x with }
    · exact { refl x with }

theorem runChore (x : TcpTunnel) (chore : Chore) : Quiet x (x.runChore chore) := by
  cases chore with
  | lease i t =>
    simp only [TcpTunnel.runChore]
    split
    · next hi => exact runLease hi t
    · exact refl x
  | _ => exact { refl x with }

/-- The lease is used, and no handle of it dropped. -/
theorem useLease {i : Nat} {lease : LeaseContext} (hi : x.leases[i]? = some lease) {e : LeaseEvent}
    (hread : e ≠ .dropRead) (hwrite : e ≠ .dropWrite) : Quiet x (x.useLease i lease e) := by
  cases e with
  | write n =>
    simp only [TcpTunnel.useLease]
    split
    · exact refl x
    · exact region hi rfl
  | read n eof =>
    simp only [TcpTunnel.useLease]
    split
    · exact refl x
    · exact region hi (lease.afterRead_intact n eof).halves
  | dropRead => exact absurd rfl hread
  | dropWrite => exact absurd rfl hwrite
  | observe =>
    simp only [TcpTunnel.useLease]
    split
    · exact refl x
    · split
      · next lease' todo heq =>
        exact { region hi (r := (lease', todo)) (LeaseContext.observeStart_intact heq).halves with }
      · exact region hi rfl
  | observed result =>
    simp only [TcpTunnel.useLease]
    split
    · exact { region hi (lease.observeEnd_intact result).halves with }
    · exact refl x
  | check => exact region hi lease.maybeFinalizeLease_intact.halves
  | fail => exact runLease hi .retire

theorem handle (x : TcpTunnel) (i : Nat) (cmd : DrainCmd) :
    Quiet { x with loop := .ready } (x.handle i cmd) := by
  cases cmd with
  | writeFin fin =>
    simp only [TcpTunnel.handle]
    split
    · next lease hi =>
      exact region (x := { x with loop := .ready }) hi (lease.handleWriteFin_intact fin).halves
    · exact refl _
  | readDone done =>
    simp only [TcpTunnel.handle]
    split
    · next lease hi =>
      exact region (x := { x with loop := .ready }) hi (lease.handleReadDone_intact done).halves
    · exact refl _

theorem claimEntry (x : TcpTunnel) (kind : TcpChannelKind) (purpose : TunnelPurpose)
    (channelId : TcpChannelId) (claimNonce : U64) :
    Quiet x (x.claimEntry kind purpose channelId claimNonce) := by
  unfold TcpTunnel.claimEntry
  split
  · split
    · exact { refl x with }
    · exact refl x
  · exact { refl x with }
  · exact refl x

theorem registerClaim (x : TcpTunnel) (i : Nat) : Quiet x (x.registerClaim i) := by
  unfold TcpTunnel.registerClaim
  split
  · exact { refl x with }
  · exact refl x

theorem sendClaim (x y : TcpTunnel) (i : Nat) (ok : Bool) : Quiet x (x.sendClaim y i ok).1 := by
  unfold TcpTunnel.sendClaim
  split
  · cases ok with
    | true => exact { refl x with }
    | false => exact { refl x with }
  · exact refl x

theorem sendDrain (x y : TcpTunnel) (i : Nat) (ok : Bool) : Quiet x (x.sendDrain y i ok).1 := by
  unfold TcpTunnel.sendDrain
  split
  · cases ok with
    | true => exact { refl x with }
    | false => exact { refl x with }
  · exact refl x

theorem resetClaim (x : TcpTunnel) (i : Nat) : Quiet x (x.resetClaim i) := by
  unfold TcpTunnel.resetClaim
  split
  · exact { refl x with }
  · exact refl x

theorem run (x y : TcpTunnel) (i : Nat) : Quiet x (x.act y (.run i)).1 := by
  simp only [act]
  split
  · exact { runChore _ _ with }
  · exact refl x

theorem keepDrain (x : TcpTunnel) (cmd : DrainCmd) : Quiet x (x.keepDrain cmd) := by
  cases cmd with
  | writeFin fin =>
    simp only [TcpTunnel.keepDrain, keepWriteFin]
    split
    · exact { refl x with }
    · split
      · split
        · exact { refl x with }
        · exact { refl x with }
      · exact { refl x with }
  | readDone done =>
    simp only [TcpTunnel.keepDrain, keepReadDone]
    split
    · exact { refl x with }
    · split
      · split
        · exact { refl x with }
        · exact { refl x with }
      · exact { refl x with }

end Quiet

/-- The loop takes a step, and has no lease to hand over after it. -/
structure Turns (x x' : TcpTunnel) : Prop where
  halves : ∀ i, x'.halvesOf i = x.halvesOf i
  closed : x'.closed = x.closed
  accepted : x'.loop.accepted = none

namespace Turns

theorem loop {l : Loop} (h : l.accepted = none) : Turns x { x with loop := l } :=
  ⟨fun _ => rfl, rfl, h⟩

theorem quiet (h : Quiet x x') (hloop : x.loop.accepted = none) : Turns x x' where
  halves := h.halves
  closed := h.closed
  accepted := by rw [h.loop, hloop]

theorem arrive (x : TcpTunnel) (hloop : x.loop.accepted = none) (cmd : DrainCmd) :
    Turns x (x.arrive cmd) := by
  have hretire : Turns x x.retirePlainEntry := { quiet (.refl x) hloop with }
  have hlater : Turns x (if cmd.leaseSeq.gt x.committedLeaseSeq then x.retirePlainEntry else x) := by
    split
    · exact hretire
    · exact quiet (.refl x) hloop
  unfold TcpTunnel.arrive
  split
  · exact loop rfl
  · split
    · exact hlater
    · exact hlater
    · exact hlater
    · split
      · split
        · exact hretire
        · exact quiet (.keepDrain x cmd) hloop
      · exact quiet (.refl x) hloop
    · exact loop rfl
    · exact loop rfl

theorem deliver (x : TcpTunnel) (hloop : x.loop.accepted = none) (active : Bool) :
    Turns x (x.deliver active) := by
  unfold TcpTunnel.deliver
  split
  · next req rest _ _ =>
    dsimp only
    split
    · exact { loop (x := x) (l := .stopped) rfl with }
    · split
      · exact { loop (x := x) (l := .deciding req) rfl with }
      · exact { loop (x := x) (l := .processed _) rfl with }
  · next ack rest _ _ =>
    dsimp only
    split
    · exact { loop (x := x) (l := .waited ack) rfl with }
    · exact { quiet (.refl x) hloop with }
  · next cmd rest _ _ => exact { arrive { x with inbox := rest } hloop cmd with }
  · exact quiet (.refl x) hloop

theorem onDecision (req : ClaimConnReq) (decision : ClaimDecision) :
    (onDecision req decision).accepted = none := by
  cases decision with
  | _ => rfl

theorem checked (x : TcpTunnel) (hloop : x.loop.accepted = none) (answer : Option AcceptRefusal) :
    Turns x (x.checked answer) := by
  unfold TcpTunnel.checked
  split
  · exact loop (onDecision ..)
  · exact loop rfl
  · exact quiet (.refl x) hloop

theorem reserved (x : TcpTunnel) (hloop : x.loop.accepted = none) (answer : Option AcceptRefusal) :
    Turns x (x.reserved answer) := by
  unfold TcpTunnel.reserved
  split
  · exact loop rfl
  · exact loop rfl
  · exact quiet (.refl x) hloop

theorem reply (x y : TcpTunnel) (hloop : x.loop.accepted = none) (ok : Bool) :
    Turns x (x.reply y ok).1 := by
  unfold TcpTunnel.reply
  split
  · cases ok with
    | true => exact loop rfl
    | false => exact loop rfl
  · exact quiet (.refl x) hloop

/-- A step of the loop that neither binds the entry nor hands a lease over. -/
theorem go (x : TcpTunnel) (hhands : x.loop.hands = false)
    (hbinding : ∀ req id, x.loop ≠ .binding req id) (hconfirming : ∀ c, x.loop ≠ .confirming c) :
    Turns x x.go := by
  unfold TcpTunnel.go
  split
  · split
    · exact loop (onDecision ..)
    · exact loop rfl
  · next req id _ =>
    split
    · exact { loop (x := x) (l := .binding req id) rfl with }
    · exact loop rfl
  · next req id hloop => exact absurd hloop (hbinding req id)
  · next hloop =>
    rw [hloop] at hhands
    cases hhands
  · split
    · exact loop rfl
    · exact loop rfl
  · split
    · refine loop ?_
      split
      · rfl
      · rfl
    · exact loop rfl
  · next ack _ => exact { loop (x := x) (l := .telling ack.channelId) rfl with }
  · next c _ =>
    split
    · exact { loop (x := x) (l := .confirming c) rfl with }
    · exact loop rfl
  · next c hloop => exact absurd hloop (hconfirming c)
  · next hloop =>
    rw [hloop] at hhands
    cases hhands
  · next i cmd _ =>
    have hquiet := Quiet.handle x i cmd
    exact { quiet (x := { x with loop := .ready }) hquiet rfl with }
  · exact quiet (.refl x) (Loop.accepted_none hhands)

end Turns

/-- The loop does nothing else while it has a lease to hand over. -/
theorem act_hands (h : x.loop.hands = true) {e : ClaimEvent}
    (he : (∃ active, e = .deliver active) ∨ (∃ answer, e = .checked answer) ∨
      (∃ answer, e = .reserved answer) ∨ ∃ ok, e = .reply ok) : (x.act y e).1 = x := by
  have hloop : (∃ record p, x.loop = .recording record p) ∨ (∃ p, x.loop = .processed p) ∨
      ∃ id, x.loop = .telling id := by
    cases hx : x.loop with
    | recording record p => exact .inl ⟨record, p, rfl⟩
    | processed p => exact .inr (.inl ⟨p, rfl⟩)
    | telling id => exact .inr (.inr ⟨id, rfl⟩)
    | _ =>
      rw [hx] at h
      cases h
  rcases hloop with ⟨record, p, hloop⟩ | ⟨p, hloop⟩ | ⟨id, hloop⟩
  all_goals
    rcases he with ⟨active, rfl⟩ | ⟨answer, rfl⟩ | ⟨answer, rfl⟩ | ⟨ok, rfl⟩
    · simp only [act, deliver, hloop]
    · simp only [act, checked, hloop]
    · simp only [act, reserved, hloop]
    · simp only [act, reply, hloop]

end TcpTunnel

namespace Holder

variable {s s' : Holder}

/-- The loop has bound a lease for the channel, and is about to send it to the caller. -/
def tells (s : Holder) (channelId : TcpChannelId) : Bool :=
  s.telling.isSome && s.tunnel.loop = .telling channelId

/-- The lease is on its way to somebody who will make its handles: to a caller who waits for it, in
the `oneshot` of a caller, or to the accept callback. -/
def HandsOver (s : Holder) (i : Nat) (kind : TcpChannelKind) : Prop :=
  (s.telling = some i ∧ ∃ id, s.tunnel.loop = .telling id ∧ id ∈ s.tunnel.pendingClaims ∧
    id ∈ s.receivers) ∨
  (∃ id, (id, i) ∈ s.delivered) ∨
  (s.tunnel.loop.accepted = some i ∧ s.tunnel.closed = false ∧ s.callback kind = true)

/-- Each half is released, or has a handle, or is on its way. -/
structure Owned (s : Holder) (i : Nat) (h : Halves) : Prop where
  read : h.readReleased = true ∨ i ∈ s.reads ∨ s.HandsOver i h.kind
  write : h.writeReleased = true ∨ i ∈ s.writes ∨ s.HandsOver i h.kind

/-- The lease is for a caller of this end. -/
def Opened (s : Holder) (i : Nat) : Prop := s.telling = some i ∨ ∃ id, (id, i) ∈ s.delivered

structure Kept (s : Holder) : Prop where
  owned : ∀ i h, s.tunnel.halvesOf i = some h → s.Owned i h
  datagramRead : ∀ i h, s.tunnel.halvesOf i = some h → h.kind = .datagram →
    h.localInitiator = true → h.readReleased = true
  datagramWrite : ∀ i h, s.tunnel.halvesOf i = some h → h.kind = .datagram →
    h.localInitiator = false → h.writeReleased = true
  opened : ∀ i, s.Opened i → ∃ h, s.tunnel.halvesOf i = some h ∧ h.localInitiator = true
  accepted : ∀ i, s.tunnel.loop.accepted = some i →
    ∃ h, s.tunnel.halvesOf i = some h ∧ h.localInitiator = false

theorem Kept.new (localId remoteId : P2pId) (connId : TcpConnId) (first : Bool) :
    Kept (.new localId remoteId connId first) where
  owned i h hi := by cases hi
  datagramRead i h hi := by cases hi
  datagramWrite i h hi := by cases hi
  opened i h := by
    rcases h with h | ⟨id, h⟩
    · cases h
    · cases h
  accepted i h := by cases h

/-- A step at the end of which every lease that was owned is owned. -/
structure Follows (s s' : Holder) : Prop where
  back : ∀ i h', s'.tunnel.halvesOf i = some h' → ∃ h, s.tunnel.halvesOf i = some h ∧ h.Eases h'
  forth : ∀ i h, s.tunnel.halvesOf i = some h → ∃ h', s'.tunnel.halvesOf i = some h' ∧ h.Eases h'
  owned : ∀ i h h', s.tunnel.halvesOf i = some h → s'.tunnel.halvesOf i = some h' → s.Owned i h →
    s'.Owned i h'
  opened : ∀ i, s'.Opened i → s.Opened i
  accepted : ∀ i, s'.tunnel.loop.accepted = some i → s.tunnel.loop.accepted = some i

theorem Kept.follows (h : Kept s) (hfollows : Follows s s') : Kept s' where
  owned i h' hi := by
    obtain ⟨h₀, h₀i, -⟩ := hfollows.back i h' hi
    exact hfollows.owned i h₀ h' h₀i hi (h.owned i h₀ h₀i)
  datagramRead i h' hi hkind hlocal := by
    obtain ⟨h₀, h₀i, heases⟩ := hfollows.back i h' hi
    exact heases.readReleased (h.datagramRead i h₀ h₀i (heases.kind ▸ hkind)
      (heases.localInitiator ▸ hlocal))
  datagramWrite i h' hi hkind hlocal := by
    obtain ⟨h₀, h₀i, heases⟩ := hfollows.back i h' hi
    exact heases.writeReleased (h.datagramWrite i h₀ h₀i (heases.kind ▸ hkind)
      (heases.localInitiator ▸ hlocal))
  opened i hopened := by
    obtain ⟨h₀, h₀i, hlocal⟩ := h.opened i (hfollows.opened i hopened)
    obtain ⟨h', hi, heases⟩ := hfollows.forth i h₀ h₀i
    exact ⟨h', hi, heases.localInitiator.trans hlocal⟩
  accepted i haccepted := by
    obtain ⟨h₀, h₀i, hlocal⟩ := h.accepted i (hfollows.accepted i haccepted)
    obtain ⟨h', hi, heases⟩ := hfollows.forth i h₀ h₀i
    exact ⟨h', hi, heases.localInitiator.trans hlocal⟩

/-- A step that changes no lease. -/
theorem Follows.same (hhalves : ∀ i, s'.tunnel.halvesOf i = s.tunnel.halvesOf i)
    (howned : ∀ i h, s.Owned i h → s'.Owned i h) (hopened : ∀ i, s'.Opened i → s.Opened i)
    (haccepted : ∀ i, s'.tunnel.loop.accepted = some i → s.tunnel.loop.accepted = some i) :
    Follows s s' where
  back i h' hi := ⟨h', by rw [← hhalves, hi], .refl h'⟩
  forth i h hi := ⟨h, by rw [hhalves, hi], .refl h⟩
  owned i h h' hi hi' := by
    rw [hhalves, hi] at hi'
    obtain rfl := Option.some.inj hi'
    exact howned i h
  opened := hopened
  accepted := haccepted

theorem Follows.refl (s : Holder) : Follows s s :=
  .same (fun _ => rfl) (fun _ _ h => h) (fun _ h => h) fun _ h => h

theorem Owned.mono {i : Nat} {h : Halves} (howned : s.Owned i h)
    (hreads : i ∈ s.reads → i ∈ s'.reads) (hwrites : i ∈ s.writes → i ∈ s'.writes)
    (hhands : s.HandsOver i h.kind → s'.HandsOver i h.kind) : s'.Owned i h where
  read := howned.read.imp_right (Or.imp hreads hhands)
  write := howned.write.imp_right (Or.imp hwrites hhands)

/-- A step of the tunnel that leaves the loop, the leases and the waiter of the caller that is being
told. -/
theorem follows_quiet {e : ClaimEvent} (hquiet : s.tunnel.Quiet (s.tunnel.act s.tunnel e).1)
    (hwaiter : ∀ id, s.tells id = true → id ∈ s.tunnel.pendingClaims →
      id ∈ (s.tunnel.act s.tunnel e).1.pendingClaims) : Follows s (s.follow e) := by
  refine .same hquiet.halves (fun i h howned => ?_) (fun i hopened => hopened) fun i haccepted => ?_
  · refine howned.mono (fun hr => hr) (fun hw => hw) fun hhands => ?_
    rcases hhands with ⟨htelling, id, hloop, hmem, hreceiver⟩ | hdelivered | ⟨hacc, hclosed, hcall⟩
    · have hmem' := hwaiter id (by rw [tells, htelling, hloop]; simp) hmem
      refine .inl ⟨htelling, id, hquiet.loop.trans hloop, hmem', ?_⟩
      exact List.mem_filter.mpr ⟨hreceiver, decide_eq_true hmem'⟩
    · exact .inr (.inl hdelivered)
    · refine .inr (.inr ⟨?_, hquiet.closed.trans hclosed, hcall⟩)
      show (s.tunnel.act s.tunnel e).1.loop.accepted = _
      rw [hquiet.loop, hacc]
  · rw [← hquiet.loop]
    exact haccepted

/-- The loop has no lease to hand over. -/
theorem delivered_of_hands (hhands : s.tunnel.loop.hands = false) (i : Nat) (kind : TcpChannelKind)
    (hover : s.HandsOver i kind) : ∃ id, (id, i) ∈ s.delivered := by
  rcases hover with ⟨-, id, hloop, -⟩ | hdelivered | ⟨hacc, -⟩
  · rw [hloop] at hhands
    cases hhands
  · exact hdelivered
  · rw [Loop.accepted_none hhands] at hacc
    cases hacc

/-- A step of the loop, when a lease that is on its way has reached a `oneshot`. -/
theorem follows_turns {e : ClaimEvent}
    (honly : ∀ i kind, s.HandsOver i kind → ∃ id, (id, i) ∈ s.delivered)
    (hturns : s.tunnel.Turns (s.tunnel.act s.tunnel e).1) : Follows s (s.follow e) := by
  refine .same hturns.halves (fun i h howned => ?_) (fun i hopened => hopened) fun i haccepted => ?_
  · refine howned.mono (fun hr => hr) (fun hw => hw) fun hover => ?_
    exact .inr (.inl (honly i h.kind hover))
  · have hnone : (s.tunnel.act s.tunnel e).1.loop.accepted = some i := haccepted
    rw [hturns.accepted] at hnone
    cases hnone

/-! ## Steps -/

/-- The step drops no lease on its way.

* The loop binds a granted lease only while the waiter is there and its caller waits, and an accepted
  one only while the tunnel is open and has a callback for it.
* From then until the lease is handed over the tunnel is not closed, the waiter stays, and the caller
  is not dropped; nor is a caller dropped with a lease in its `oneshot`. -/
def passes (s : Holder) : HolderEvent → Bool
  | .tunnel .go =>
    match s.tunnel.loop with
    | .confirming c => c.channelId ∈ s.tunnel.pendingClaims && c.channelId ∈ s.receivers
    | .binding req _ => !s.tunnel.closed && s.callback req.kind
    | _ => true
  | .tunnel .close => s.telling.isNone && s.tunnel.loop.accepted.isNone
  | .tunnel (.forget channelId) => !s.tells channelId
  | .tunnel (.sendClaim k ok) =>
    match s.tunnel.sending[k]? with
    | some req => ok || !s.tells req.channelId
    | none => true
  | .tunnel (.run k) =>
    match s.tunnel.todo[k]? with
    | some (.sendPendingClaimResult channelId) => !s.tells channelId
    | _ => true
  | .cancel channelId => !s.tells channelId && s.delivered.all (·.1 ≠ channelId)
  | _ => true

/-- Another channel is told. -/
theorem mem_erase_of_tells {id channelId : TcpChannelId} {l : List TcpChannelId}
    (hnot : (!s.tells channelId) = true) (htells : s.tells id = true) (hmem : id ∈ l) :
    id ∈ l.erase channelId := by
  refine (List.mem_erase_of_ne fun heq => ?_).mpr hmem
  rw [← heq, htells] at hnot
  cases hnot

/-- The steps of the loop in which nothing is bound or handed over. -/
theorem follows_loop {e : ClaimEvent}
    (he : (∃ active, e = .deliver active) ∨ (∃ answer, e = .checked answer) ∨
      (∃ answer, e = .reserved answer) ∨ ∃ ok, e = .reply ok) : Follows s (s.follow e) := by
  cases hhands : s.tunnel.loop.hands with
  | true =>
    have hsame := TcpTunnel.act_hands (y := s.tunnel) hhands he
    refine follows_quiet ?_ fun id _ hmem => ?_
    · rw [hsame]
      exact .refl _
    · rw [hsame]
      exact hmem
  | false =>
    have haccepted := Loop.accepted_none hhands
    refine follows_turns (delivered_of_hands hhands) ?_
    rcases he with ⟨active, rfl⟩ | ⟨answer, rfl⟩ | ⟨answer, rfl⟩ | ⟨ok, rfl⟩
    · exact .deliver _ haccepted active
    · exact .checked _ haccepted answer
    · exact .reserved _ haccepted answer
    · exact .reply _ _ haccepted ok

theorem runLease_pendingClaims (x : TcpTunnel) (i : Nat) (lease : LeaseContext) (t : Todo) :
    (x.runLease i lease t).pendingClaims = x.pendingClaims := by
  cases t with
  | markDraining =>
    simp only [TcpTunnel.runLease]
    split <;> rfl
  | settle =>
    simp only [TcpTunnel.runLease]
    split <;> rfl
  | _ => rfl

theorem useLease_pendingClaims (x : TcpTunnel) (i : Nat) (lease : LeaseContext) (e : LeaseEvent) :
    (x.useLease i lease e).pendingClaims = x.pendingClaims := by
  cases e with
  | fail => exact runLease_pendingClaims ..
  | observe =>
    simp only [TcpTunnel.useLease]
    split
    · rfl
    · split <;> rfl
  | write n =>
    simp only [TcpTunnel.useLease]
    split <;> rfl
  | read n eof =>
    simp only [TcpTunnel.useLease]
    split <;> rfl
  | observed result =>
    simp only [TcpTunnel.useLease]
    split <;> rfl
  | _ => rfl

theorem follows_run (k : Nat) (hpasses : s.passes (.tunnel (.run k)) = true) :
    Follows s (s.follow (.run k)) := by
  refine follows_quiet (.run ..) fun id htells hmem => ?_
  simp only [passes] at hpasses
  simp only [TcpTunnel.act]
  cases hk : s.tunnel.todo[k]? with
  | none => exact hmem
  | some chore =>
    rw [hk] at hpasses
    cases chore with
    | lease i t =>
      simp only [TcpTunnel.runChore]
      split
      · rw [runLease_pendingClaims]
        exact hmem
      · exact hmem
    | sendPendingClaimResult channelId => exact mem_erase_of_tells hpasses htells hmem
    | _ => exact hmem

theorem follows_sendClaim (k : Nat) (ok : Bool)
    (hpasses : s.passes (.tunnel (.sendClaim k ok)) = true) : Follows s (s.follow (.sendClaim k ok)) := by
  refine follows_quiet (.sendClaim ..) fun id htells hmem => ?_
  simp only [passes] at hpasses
  simp only [TcpTunnel.act, TcpTunnel.sendClaim]
  cases hk : s.tunnel.sending[k]? with
  | none => exact hmem
  | some req =>
    rw [hk] at hpasses
    cases ok with
    | true => exact hmem
    | false => exact mem_erase_of_tells hpasses htells hmem

theorem follows_registerClaim (k : Nat) : Follows s (s.registerClaim k) := by
  unfold registerClaim
  split
  · next req hk =>
    have hquiet := TcpTunnel.Quiet.registerClaim s.tunnel k
    have hpending : (s.tunnel.registerClaim k).pendingClaims =
        s.tunnel.pendingClaims.insert req.channelId := by
      simp only [TcpTunnel.registerClaim, hk]
    refine .same hquiet.halves (fun i h howned => ?_) (fun i hopened => hopened) fun i haccepted => ?_
    · refine howned.mono (fun hr => hr) (fun hw => hw) fun hhands => ?_
      rcases hhands with ⟨htelling, id, hloop, hmem, hreceiver⟩ | hdelivered | ⟨hacc, hclosed, hcall⟩
      · refine .inl ⟨htelling, id, hquiet.loop.trans hloop, ?_, List.mem_insert_of_mem hreceiver⟩
        rw [hpending]
        exact List.mem_insert_of_mem hmem
      · exact .inr (.inl hdelivered)
      · refine .inr (.inr ⟨?_, hquiet.closed.trans hclosed, hcall⟩)
        rw [hquiet.loop]
        exact hacc
    · rw [← hquiet.loop]
      exact haccepted
  · exact .refl s

theorem follows_listen (kind : TcpChannelKind) : Follows s (s.listen kind) := by
  unfold listen
  split
  · exact .refl s
  · cases kind with
    | stream =>
      refine .same (fun _ => rfl) (fun i h howned => ?_) (fun _ h => h) fun _ h => h
      refine howned.mono (fun hr => hr) (fun hw => hw) fun hhands => ?_
      refine hhands.imp_right (Or.imp_right fun ⟨hacc, hclosed, hcall⟩ => ⟨hacc, hclosed, ?_⟩)
      cases hkind : h.kind with
      | stream => rfl
      | datagram =>
        rw [hkind] at hcall
        exact hcall
    | datagram =>
      refine .same (fun _ => rfl) (fun i h howned => ?_) (fun _ h => h) fun _ h => h
      refine howned.mono (fun hr => hr) (fun hw => hw) fun hhands => ?_
      refine hhands.imp_right (Or.imp_right fun ⟨hacc, hclosed, hcall⟩ => ⟨hacc, hclosed, ?_⟩)
      cases hkind : h.kind with
      | stream =>
        rw [hkind] at hcall
        exact hcall
      | datagram => rfl

theorem follows_cancel (channelId : TcpChannelId) (hpasses : s.passes (.cancel channelId) = true) :
    Follows s (s.cancel channelId) := by
  obtain ⟨hnot, hall⟩ := Bool.and_eq_true_iff.mp hpasses
  have hdelivered : s.delivered.filter (fun d => d.1 ≠ channelId) = s.delivered :=
    List.filter_eq_self.mpr (List.all_eq_true.mp hall)
  refine .same (fun _ => rfl) (fun i h howned => ?_) (fun i hopened => ?_) fun _ h => h
  · refine howned.mono (fun hr => hr) (fun hw => hw) fun hhands => ?_
    rcases hhands with ⟨htelling, id, hloop, hmem, hreceiver⟩ | ⟨id, hmem⟩ | haccepted
    · refine .inl ⟨htelling, id, hloop, hmem, List.mem_filter.mpr ⟨hreceiver, ?_⟩⟩
      have htells : s.tells id = true := by
        rw [tells, htelling, hloop]
        simp
      refine decide_eq_true fun heq => ?_
      rw [← heq, htells] at hnot
      cases hnot
    · refine .inr (.inl ⟨id, ?_⟩)
      rw [cancel, hdelivered]
      exact hmem
    · exact .inr (.inr haccepted)
  · refine hopened.imp_right fun ⟨id, hmem⟩ => ⟨id, ?_⟩
    exact List.mem_of_mem_filter hmem

theorem close_halvesOf (x : TcpTunnel) (i : Nat) : x.close.halvesOf i = x.halvesOf i := by
  have hregion : ∀ {j : Nat} {lease : LeaseContext} {todo : List Todo},
      x.leases[j]? = some lease →
      (x.region j ({ lease with noReuse := true }, todo)).halvesOf i = x.halvesOf i :=
    fun hj => (TcpTunnel.Quiet.region (x := x) hj rfl).halves i
  unfold TcpTunnel.close
  split
  · rfl
  · dsimp only
    split
    · rfl
    · split
      · split
        · next hj => exact hregion hj
        · rfl
      · split
        · next hj => exact hregion hj
        · rfl
      all_goals rfl

theorem close_loop (x : TcpTunnel) : x.close.loop = x.loop := by
  unfold TcpTunnel.close
  split
  · rfl
  · dsimp only
    split
    · rfl
    · split
      · split <;> rfl
      · split <;> rfl
      all_goals rfl

theorem follows_close (hpasses : s.passes (.tunnel .close) = true) : Follows s s.close := by
  obtain ⟨htelling, haccepted⟩ := Bool.and_eq_true_iff.mp hpasses
  rw [Option.isNone_iff_eq_none] at htelling haccepted
  refine .same (close_halvesOf s.tunnel) (fun i h howned => ?_) (fun i hopened => hopened) fun i hacc => ?_
  · refine howned.mono (fun hr => hr) (fun hw => hw) fun hhands => ?_
    rcases hhands with ⟨htell, -⟩ | hdelivered | ⟨hacc, -⟩
    · rw [htelling] at htell
      cases htell
    · exact .inr (.inl hdelivered)
    · rw [haccepted] at hacc
      cases hacc
  · have hloop : s.tunnel.close.loop.accepted = some i := hacc
    rw [close_loop] at hloop
    exact hloop

/-- A handle is dropped: its half is released, and every other half keeps its handle. -/
theorem follows_drop {i : Nat} {lease : LeaseContext} (hi : s.tunnel.leases[i]? = some lease)
    {e : ClaimEvent} {r : LeaseContext × List Todo}
    (hact : (s.tunnel.act s.tunnel e).1 = s.tunnel.region i r)
    (heases : lease.halves.Eases r.1.halves) {reads writes : List Nat}
    (hreads : ∀ j ∈ s.reads, j ∈ reads ∨ j = i ∧ r.1.halves.readReleased = true)
    (hwrites : ∀ j ∈ s.writes, j ∈ writes ∨ j = i ∧ r.1.halves.writeReleased = true) :
    Follows s { s.follow e with reads := reads, writes := writes } := by
  have hold : s.tunnel.halvesOf i = some lease.halves := by
    rw [TcpTunnel.halvesOf, hi]
    rfl
  have htable : ∀ j, ((s.tunnel.act s.tunnel e).1).halvesOf j =
      if j = i then some r.1.halves else s.tunnel.halvesOf j := by
    intro j
    rw [hact]
    exact TcpTunnel.halvesOf_region hi r j
  have hhands : ∀ j kind, s.HandsOver j kind →
      HandsOver { s.follow e with reads := reads, writes := writes } j kind := by
    intro j kind hover
    rw [follow, hact]
    rcases hover with ⟨htelling, id, hloop, hmem, hreceiver⟩ | hdelivered | haccepted
    · refine .inl ⟨htelling, id, hloop, hmem, ?_⟩
      exact List.mem_filter.mpr ⟨hreceiver, decide_eq_true hmem⟩
    · exact .inr (.inl hdelivered)
    · exact .inr (.inr haccepted)
  refine ⟨fun j h' hj => ?_, fun j h hj => ?_, fun j h h' hj hj' howned => ?_, fun j hopened => hopened,
    fun j haccepted => ?_⟩
  · have hj' := (htable j).symm.trans hj
    split_ifs at hj' with hji
    · subst hji
      obtain rfl := Option.some.inj hj'
      exact ⟨lease.halves, hold, heases⟩
    · exact ⟨h', hj', .refl h'⟩
  · by_cases hji : j = i
    · subst hji
      rw [hold] at hj
      obtain rfl := Option.some.inj hj
      exact ⟨r.1.halves, (htable j).trans (if_pos rfl), heases⟩
    · exact ⟨h, ((htable j).trans (if_neg hji)).trans hj, .refl h⟩
  · have hnew := (htable j).symm.trans hj'
    have heases' : h.Eases h' := by
      split_ifs at hnew with hji
      · subst hji
        rw [hold] at hj
        obtain rfl := Option.some.inj hj
        obtain rfl := Option.some.inj hnew
        exact heases
      · rw [hj] at hnew
        obtain rfl := Option.some.inj hnew
        exact .refl h
    have hreleased : j = i → h' = r.1.halves := by
      intro hji
      rw [if_pos hji] at hnew
      exact (Option.some.inj hnew).symm
    constructor
    · rcases howned.read with hr | hr | hr
      · exact .inl (heases'.readReleased hr)
      · rcases hreads j hr with hmem | ⟨hji, hfree⟩
        · exact .inr (.inl hmem)
        · rw [hreleased hji]
          exact .inl hfree
      · rw [heases'.kind]
        exact .inr (.inr (hhands j _ hr))
    · rcases howned.write with hw | hw | hw
      · exact .inl (heases'.writeReleased hw)
      · rcases hwrites j hw with hmem | ⟨hji, hfree⟩
        · exact .inr (.inl hmem)
        · rw [hreleased hji]
          exact .inl hfree
      · rw [heases'.kind]
        exact .inr (.inr (hhands j _ hw))
  · have hloop : ((s.tunnel.act s.tunnel e).1).loop.accepted = some j := haccepted
    rw [hact] at hloop
    exact hloop

theorem mem_erase_or_eq {l : List Nat} {i j : Nat} (h : j ∈ l) : j ∈ l.erase i ∨ j = i := by
  by_cases hji : j = i
  · exact .inr hji
  · exact .inl ((List.mem_erase_of_ne hji).mpr h)

theorem follows_useLease (i : Nat) (e : LeaseEvent) : Follows s (s.useLease i e) := by
  unfold useLease
  split
  · next lease hi =>
    split
    · split
      · refine follows_drop hi (r := lease.releaseReadHalf) ?_ ?_ (fun j hj => ?_) fun j hj => .inl hj
        · simp only [TcpTunnel.act, hi]
          rfl
        · rw [lease.releaseReadHalf_halves]
          exact ⟨rfl, rfl, fun _ => rfl, fun hw => hw⟩
        · rw [lease.releaseReadHalf_halves]
          exact (mem_erase_or_eq hj).imp_right fun hji => ⟨hji, rfl⟩
      · refine follows_drop hi (r := lease.releaseWriteHalf) ?_ ?_ (fun j hj => .inl hj) fun j hj => ?_
        · simp only [TcpTunnel.act, hi]
          rfl
        · rw [lease.releaseWriteHalf_halves]
          exact ⟨rfl, rfl, fun hr => hr, fun _ => rfl⟩
        · rw [lease.releaseWriteHalf_halves]
          exact (mem_erase_or_eq hj).imp_right fun hji => ⟨hji, rfl⟩
      · next hread hwrite =>
        refine follows_quiet ?_ fun id _ hmem => ?_
        · simp only [TcpTunnel.act, hi]
          exact .useLease hi hread hwrite
        · simp only [TcpTunnel.act, hi]
          rw [useLease_pendingClaims]
          exact hmem
    · exact .refl s
  · exact .refl s

/-- The lease that is taken from a `oneshot` has its handles. -/
theorem follows_take (h : Kept s) (j : Nat) : Follows s (s.take j) := by
  unfold take
  split
  · next id i hj =>
    have hmem : (id, i) ∈ s.delivered := List.mem_of_getElem? hj
    obtain ⟨h₀, hi, hlocal⟩ := h.opened i (.inr ⟨id, hmem⟩)
    obtain ⟨lease, hlease, rfl⟩ := Option.map_eq_some_iff.mp hi
    -- what another lease has in a `oneshot` stays there
    have hother : ∀ {i' id'}, i' ≠ i → (id', i') ∈ s.delivered →
        (id', i') ∈ s.delivered.eraseIdx j := by
      intro i' id' hne hmem'
      obtain ⟨k, hk⟩ := List.mem_iff_getElem?.mp hmem'
      refine List.mem_eraseIdx_iff_getElem?.mpr ⟨k, fun hkj => hne ?_, hk⟩
      rw [hkj, hj] at hk
      exact (congrArg Prod.snd (Option.some.inj hk)).symm
    have hopened : ∀ i', (s.telling = some i' ∨ ∃ id', (id', i') ∈ s.delivered.eraseIdx j) →
        s.Opened i' := by
      intro i' ho
      exact ho.imp_right fun ⟨id', hmem'⟩ => ⟨id', List.mem_of_mem_eraseIdx hmem'⟩
    have hhands : ∀ {s' : Holder} {i' kind}, i' ≠ i → s'.tunnel = s.tunnel →
        s'.telling = s.telling → s'.receivers = s.receivers →
        s'.delivered = s.delivered.eraseIdx j → s'.callback = s.callback →
        s.HandsOver i' kind → s'.HandsOver i' kind := by
      intro s' i' kind hne htunnel htelling hreceivers hdelivered hcallback hover
      unfold HandsOver
      rw [htunnel, htelling, hreceivers, hdelivered, hcallback]
      exact hover.imp_right (Or.imp_left fun ⟨id', hmem'⟩ => ⟨id', hother hne hmem'⟩)
    rw [hlease]
    dsimp only
    cases hkind : lease.kind with
    | stream =>
      refine .same (fun _ => rfl) (fun i' h' howned => ?_) hopened fun _ hacc => hacc
      by_cases hne : i' = i
      · subst hne
        exact ⟨.inr (.inl (List.mem_cons_self ..)), .inr (.inl (List.mem_cons_self ..))⟩
      · refine howned.mono (List.mem_cons_of_mem _) (List.mem_cons_of_mem _) ?_
        exact hhands hne rfl rfl rfl rfl rfl
    | datagram =>
      have hreleased := h.datagramRead i lease.halves hi hkind hlocal
      refine ⟨fun i' h' hi' => ⟨h', hi', .refl h'⟩, fun i' h' hi' => ⟨h', hi', .refl h'⟩,
        fun i' h' h'' hi' hi'' howned => ?_, hopened, fun _ hacc => hacc⟩
      obtain rfl : h' = h'' := Option.some.inj (hi'.symm.trans hi'')
      by_cases hne : i' = i
      · subst hne
        obtain rfl : lease.halves = h' := Option.some.inj (hi.symm.trans hi')
        exact ⟨.inl hreleased, .inr (.inl (List.mem_cons_self ..))⟩
      · refine howned.mono (fun hr => hr) (List.mem_cons_of_mem _) ?_
        exact hhands hne rfl rfl rfl rfl rfl
  · exact .refl s

/-- The accepted lease of a request has its handles. -/
theorem enqueueAccepted_owned (h : Kept s) {p : ClaimReqProcessing} {i : Nat}
    (hloop : s.tunnel.loop = .processed p) (hp : p.accepted = some i) {i' : Nat} {h' : Halves}
    (hi' : s.tunnel.halvesOf i' = some h') (howned : s.Owned i' h') :
    (h'.readReleased = true ∨ i' ∈ (s.enqueueAccepted i).reads ∨ ∃ id, (id, i') ∈ s.delivered) ∧
      (h'.writeReleased = true ∨ i' ∈ (s.enqueueAccepted i).writes ∨
        ∃ id, (id, i') ∈ s.delivered) := by
  have hacc : s.tunnel.loop.accepted = some i := by
    rw [hloop]
    exact hp
  obtain ⟨h₀, hi, hlocal⟩ := h.accepted i hacc
  obtain ⟨lease, hlease, rfl⟩ := Option.map_eq_some_iff.mp hi
  have hgrow : s.reads ⊆ (s.enqueueAccepted i).reads ∧ s.writes ⊆ (s.enqueueAccepted i).writes := by
    unfold enqueueAccepted
    rw [hlease]
    dsimp only
    split
    · exact ⟨fun _ hr => hr, fun _ hw => hw⟩
    · split
      · exact ⟨List.subset_cons_self .., List.subset_cons_self ..⟩
      · exact ⟨List.subset_cons_self .., fun _ hw => hw⟩
  -- only this lease is on its way to the callback, and the callback is there
  have hover : s.HandsOver i' h'.kind → (∃ id, (id, i') ∈ s.delivered) ∨
      (i' ∈ (s.enqueueAccepted i).reads ∧
        (h'.writeReleased = true ∨ i' ∈ (s.enqueueAccepted i).writes)) := by
    rintro (⟨-, id, htelling, -⟩ | hdelivered | ⟨hacc', hclosed, hcall⟩)
    · rw [hloop] at htelling
      cases htelling
    · exact .inl hdelivered
    · obtain rfl : i = i' := Option.some.inj (hacc.symm.trans hacc')
      obtain rfl : lease.halves = h' := Option.some.inj (hi.symm.trans hi')
      have hthere : (s.tunnel.closed || !s.callback lease.kind) = false := by
        rw [hclosed, show s.callback lease.kind = true from hcall]
        rfl
      refine .inr ?_
      unfold enqueueAccepted
      rw [hlease]
      dsimp only
      rw [hthere, if_neg Bool.false_ne_true]
      cases hkind : lease.kind with
      | stream => exact ⟨List.mem_cons_self .., .inr (List.mem_cons_self ..)⟩
      | datagram =>
        exact ⟨List.mem_cons_self .., .inl (h.datagramWrite i lease.halves hi hkind hlocal)⟩
  constructor
  · rcases howned.read with hr | hr | hr
    · exact .inl hr
    · exact .inr (.inl (hgrow.1 hr))
    · rcases hover hr with hdelivered | ⟨hread, -⟩
      · exact .inr (.inr hdelivered)
      · exact .inr (.inl hread)
  · rcases howned.write with hw | hw | hw
    · exact .inl hw
    · exact .inr (.inl (hgrow.2 hw))
    · rcases hover hw with hdelivered | ⟨-, hreleased | hwrite⟩
      · exact .inr (.inr hdelivered)
      · exact .inl hreleased
      · exact .inr (.inl hwrite)

theorem enqueued_turns {x : TcpTunnel} {p : ClaimReqProcessing} (hloop : x.loop = .processed p)
    (ok : Bool) : x.Turns (x.enqueued ok) := by
  simp only [TcpTunnel.enqueued, hloop]
  split
  · split
    · exact ⟨fun _ => rfl, rfl, rfl⟩
    · exact ⟨fun _ => rfl, rfl, rfl⟩
  · split
    · exact ⟨fun _ => rfl, rfl, rfl⟩
    · exact ⟨fun _ => rfl, rfl, rfl⟩

theorem enqueueAccepted_frame (i : Nat) : (s.enqueueAccepted i).tunnel = s.tunnel ∧
    (s.enqueueAccepted i).telling = s.telling ∧ (s.enqueueAccepted i).delivered = s.delivered := by
  unfold enqueueAccepted
  split
  · split
    · exact ⟨rfl, rfl, rfl⟩
    · split
      · exact ⟨rfl, rfl, rfl⟩
      · exact ⟨rfl, rfl, rfl⟩
  · exact ⟨rfl, rfl, rfl⟩

theorem follows_enqueued (h : Kept s) (ok : Bool) : Follows s (s.enqueued ok) := by
  cases hloop : s.tunnel.loop with
  | processed p =>
    have hturns := enqueued_turns hloop ok
    cases hp : p.accepted with
    | none =>
      have heq : s.enqueued ok = s.follow (.enqueued ok) := by
        simp only [enqueued, hloop, hp]
      rw [heq]
      refine follows_turns (fun i kind hover => ?_) hturns
      rcases hover with ⟨-, id, htelling, -⟩ | hdelivered | ⟨hacc, -⟩
      · rw [hloop] at htelling
        cases htelling
      · exact hdelivered
      · rw [hloop] at hacc
        cases hp.symm.trans hacc
    | some i =>
      have heq : s.enqueued ok = (s.enqueueAccepted i).follow (.enqueued ok) := by
        simp only [enqueued, hloop, hp]
      obtain ⟨htunnel, htelling, hdelivered⟩ := s.enqueueAccepted_frame i
      have hfollow : ((s.enqueueAccepted i).follow (.enqueued ok)).tunnel = s.tunnel.enqueued ok := by
        show ((s.enqueueAccepted i).tunnel.act (s.enqueueAccepted i).tunnel (.enqueued ok)).1 = _
        rw [htunnel]
        rfl
      rw [heq]
      refine ⟨fun i' h' hi' => ⟨h', ?_, .refl h'⟩, fun i' h' hi' => ⟨h', ?_, .refl h'⟩,
        fun i' h' h'' hi' hi'' howned => ?_, fun i' hopened => ?_, fun i' hacc => ?_⟩
      · rw [hfollow, hturns.halves] at hi'
        exact hi'
      · rw [hfollow, hturns.halves]
        exact hi'
      · rw [hfollow, hturns.halves] at hi''
        obtain rfl : h' = h'' := Option.some.inj (hi'.symm.trans hi'')
        obtain ⟨hread, hwrite⟩ := enqueueAccepted_owned h hloop hp hi' howned
        have hover : (∃ id, (id, i') ∈ s.delivered) →
            ((s.enqueueAccepted i).follow (.enqueued ok)).HandsOver i' h'.kind := by
          intro hmem
          refine .inr (.inl ?_)
          show ∃ id, (id, i') ∈ (s.enqueueAccepted i).delivered
          rw [hdelivered]
          exact hmem
        exact ⟨hread.imp_right (Or.imp_right hover), hwrite.imp_right (Or.imp_right hover)⟩
      · have ho : (s.enqueueAccepted i).telling = some i' ∨
            ∃ id, (id, i') ∈ (s.enqueueAccepted i).delivered := hopened
        rw [htelling, hdelivered] at ho
        exact ho
      · rw [hfollow, hturns.accepted] at hacc
        cases hacc
  | _ =>
    have hsame : s.tunnel.enqueued ok = s.tunnel := by simp only [TcpTunnel.enqueued, hloop]
    have heq : s.enqueued ok = s.follow (.enqueued ok) := by simp only [enqueued, hloop]
    rw [heq]
    refine follows_quiet ?_ fun id _ hmem => ?_
    · show s.tunnel.Quiet (s.tunnel.enqueued ok)
      rw [hsame]
      exact .refl _
    · show id ∈ (s.tunnel.enqueued ok).pendingClaims
      rw [hsame]
      exact hmem

/-! ### The loop binds a lease -/

/-- The halves of a new lease: a datagram channel uses one of them. -/
def newHalves (kind : TcpChannelKind) (localInitiator : Bool) : Halves where
  kind := kind
  localInitiator := localInitiator
  readReleased := kind = .datagram && localInitiator
  writeReleased := kind = .datagram && !localInitiator

theorem bindEntryToLease_halvesOf (x : TcpTunnel) (channelId : TcpChannelId) (leaseSeq : TcpLeaseSeq)
    (kind : TcpChannelKind) (purpose : TunnelPurpose) (localInitiator : Bool) (i : Nat) :
    (x.bindEntryToLease channelId leaseSeq kind purpose localInitiator).halvesOf i =
      if i = x.leases.length then some (newHalves kind localInitiator) else x.halvesOf i := by
  let fresh := LeaseContext.new x.connId leaseSeq channelId kind purpose localInitiator
  let lease := (fresh.absorb x.pendingFin x.pendingReadDone (x.pendingDrains leaseSeq)).1
  have hlease : lease.halves = newHalves kind localInitiator := (fresh.absorb_intact _ _ _).halves
  show ((x.leases ++ [lease])[i]?).map LeaseContext.halves = _
  split_ifs with hi
  · rw [hi, List.getElem?_concat_length, Option.map_some, hlease]
  · rw [TcpTunnel.halvesOf]
    rcases Nat.lt_or_gt_of_ne hi with hlt | hgt
    · rw [List.getElem?_append_left hlt]
    · have hge : (x.leases ++ [lease]).length ≤ i := by
        rw [List.length_append]
        exact hgt
      rw [List.getElem?_eq_none hge, List.getElem?_eq_none (Nat.le_of_lt hgt)]

/-- The loop binds a lease, which is on its way to its caller or to the callback. -/
theorem Kept.binds (h : Kept s) (kind : TcpChannelKind) (localInitiator : Bool)
    (htable : ∀ i, s'.tunnel.halvesOf i =
      if i = s.tunnel.leases.length then some (newHalves kind localInitiator)
      else s.tunnel.halvesOf i)
    (hreads : s'.reads = s.reads) (hwrites : s'.writes = s.writes)
    (honly : ∀ i kind, s.HandsOver i kind → ∃ id, (id, i) ∈ s.delivered)
    (hdelivered : s'.delivered = s.delivered)
    (hover : s'.HandsOver s.tunnel.leases.length kind)
    (hopened : ∀ i, s'.telling = some i → s.telling = some i ∨
      i = s.tunnel.leases.length ∧ localInitiator = true)
    (haccepted : ∀ i, s'.tunnel.loop.accepted = some i →
      i = s.tunnel.leases.length ∧ localInitiator = false) : Kept s' := by
  have hnew : s'.tunnel.halvesOf s.tunnel.leases.length = some (newHalves kind localInitiator) :=
    (htable _).trans (if_pos rfl)
  have hlt : ∀ {i h₀}, s.tunnel.halvesOf i = some h₀ → s'.tunnel.halvesOf i = some h₀ := by
    intro i h₀ hi
    have hne : i ≠ s.tunnel.leases.length := by
      intro heq
      rw [TcpTunnel.halvesOf, heq, List.getElem?_eq_none (Nat.le_refl _)] at hi
      cases hi
    rw [htable, if_neg hne, hi]
  have hcases : ∀ {i h'}, s'.tunnel.halvesOf i = some h' →
      i = s.tunnel.leases.length ∧ h' = newHalves kind localInitiator ∨
        s.tunnel.halvesOf i = some h' := by
    intro i h' hi
    rw [htable] at hi
    split_ifs at hi with heq
    · exact .inl ⟨heq, (Option.some.inj hi).symm⟩
    · exact .inr hi
  refine ⟨fun i h' hi => ?_, fun i h' hi hkind hlocal => ?_, fun i h' hi hkind hlocal => ?_,
    fun i ho => ?_, fun i hacc => ?_⟩
  · rcases hcases hi with ⟨rfl, rfl⟩ | hold
    · exact ⟨.inr (.inr hover), .inr (.inr hover)⟩
    · refine (h.owned i h' hold).mono ?_ ?_ fun hh => ?_
      · rw [hreads]
        exact fun hr => hr
      · rw [hwrites]
        exact fun hw => hw
      · obtain ⟨id, hmem⟩ := honly i h'.kind hh
        refine .inr (.inl ⟨id, ?_⟩)
        rw [hdelivered]
        exact hmem
  · rcases hcases hi with ⟨-, rfl⟩ | hold
    · show (decide (kind = .datagram) && localInitiator) = true
      rw [show kind = .datagram from hkind, show localInitiator = true from hlocal]
      rfl
    · exact h.datagramRead i h' hold hkind hlocal
  · rcases hcases hi with ⟨-, rfl⟩ | hold
    · show (decide (kind = .datagram) && !localInitiator) = true
      rw [show kind = .datagram from hkind, show localInitiator = false from hlocal]
      rfl
    · exact h.datagramWrite i h' hold hkind hlocal
  · have hbefore : s.Opened i ∨ i = s.tunnel.leases.length ∧ localInitiator = true := by
      rcases ho with htelling | ⟨id, hmem⟩
      · exact (hopened i htelling).imp_left .inl
      · rw [hdelivered] at hmem
        exact .inl (.inr ⟨id, hmem⟩)
    rcases hbefore with hold | ⟨rfl, hlocal⟩
    · obtain ⟨h₀, hi, hlocal⟩ := h.opened i hold
      exact ⟨h₀, hlt hi, hlocal⟩
    · exact ⟨_, hnew, hlocal⟩
  · obtain ⟨rfl, hlocal⟩ := haccepted i hacc
    exact ⟨_, hnew, hlocal⟩

theorem kept_confirming (h : Kept s) {c : ClaimingState} (hloop : s.tunnel.loop = .confirming c)
    (hpasses : s.passes (.tunnel .go) = true) : Kept s.go := by
  simp only [passes, hloop, Bool.and_eq_true, decide_eq_true_eq] at hpasses
  have hgo : (s.tunnel.act s.tunnel .go).1 =
      { s.tunnel.bindEntryToLease c.channelId c.leaseSeq c.kind c.purpose true with
        loop := .telling c.channelId } := by
    simp only [TcpTunnel.act, TcpTunnel.go, hloop]
  have heq : s.go = { s.follow .go with telling := some s.tunnel.leases.length } := by
    simp only [go, hloop]
  have hhands : s.tunnel.loop.hands = false := by
    rw [hloop]
    rfl
  rw [heq, follow, hgo]
  refine h.binds c.kind true (fun i => ?_) rfl rfl
    (delivered_of_hands hhands) rfl ?_ (fun i hi => ?_) fun i hacc => ?_
  · exact bindEntryToLease_halvesOf ..
  · refine .inl ⟨rfl, c.channelId, rfl, hpasses.1, ?_⟩
    exact List.mem_filter.mpr ⟨hpasses.2, decide_eq_true hpasses.1⟩
  · exact .inr ⟨(Option.some.inj hi).symm, rfl⟩
  · cases hacc

theorem kept_binding (h : Kept s) {req : ClaimConnReq} {localChannelId : Option TcpChannelId}
    (hloop : s.tunnel.loop = .binding req localChannelId)
    (hpasses : s.passes (.tunnel .go) = true) : Kept s.go := by
  simp only [passes, hloop, Bool.and_eq_true, Bool.not_eq_true'] at hpasses
  have hgo : (s.tunnel.act s.tunnel .go).1 = s.tunnel.bindRequest req localChannelId := by
    simp only [TcpTunnel.act, TcpTunnel.go, hloop]
  have heq : s.go = s.follow .go := by simp only [go, hloop]
  have hhands : s.tunnel.loop.hands = false := by
    rw [hloop]
    rfl
  rw [heq, follow, hgo]
  refine h.binds req.kind false (fun i => ?_) rfl rfl
    (delivered_of_hands hhands) rfl ?_ (fun i hi => .inl hi) fun i hacc => ?_
  · exact bindEntryToLease_halvesOf ..
  · exact .inr (.inr ⟨rfl, hpasses⟩)
  · exact ⟨(Option.some.inj hacc).symm, rfl⟩

/-! ### The loop hands a lease over -/

theorem follows_tell {channelId : TcpChannelId} {i : Nat}
    (hloop : s.tunnel.loop = .telling channelId) (htelling : s.telling = some i) :
    Follows s (s.tell channelId i) := by
  have hgo : (s.tunnel.act s.tunnel .go).1 =
      { s.tunnel with
        pendingClaims := s.tunnel.pendingClaims.erase channelId
        loop := .ready } := by
    simp only [TcpTunnel.act, TcpTunnel.go, hloop]
  have honly : ∀ i' kind, s.HandsOver i' kind → (∃ id, (id, i') ∈ s.delivered) ∨
      i' = i ∧ channelId ∈ s.tunnel.pendingClaims ∧ channelId ∈ s.receivers := by
    rintro i' kind (⟨htell, id, hid, hmem, hreceiver⟩ | hdelivered | ⟨hacc, -⟩)
    · rw [hloop] at hid
      obtain rfl := Loop.telling.inj hid
      rw [htelling] at htell
      exact .inr ⟨(Option.some.inj htell).symm, hmem, hreceiver⟩
    · exact .inl hdelivered
    · rw [hloop] at hacc
      cases hacc
  have hhalves : ∀ j, (s.tunnel.act s.tunnel .go).1.halvesOf j = s.tunnel.halvesOf j := by
    rw [hgo]
    exact fun _ => rfl
  have hacc : (s.tunnel.act s.tunnel .go).1.loop.accepted = none := by
    rw [hgo]
    rfl
  unfold tell
  dsimp only
  split_ifs with hthere
  · refine .same hhalves (fun i' h howned => ?_) (fun i' hopened => ?_) fun i' haccepted => ?_
    · refine howned.mono (fun hr => hr) (fun hw => hw) fun hover => .inr (.inl ?_)
      rcases honly i' h.kind hover with ⟨id, hmem⟩ | ⟨rfl, -⟩
      · exact ⟨id, List.mem_append_left _ hmem⟩
      · exact ⟨channelId, List.mem_append_right _ (List.mem_singleton_self _)⟩
    · rcases hopened with hnone | ⟨id, hmem⟩
      · cases hnone
      · rcases List.mem_append.mp hmem with hbefore | hnew
        · exact .inr ⟨id, hbefore⟩
        · rw [List.mem_singleton] at hnew
          obtain rfl : i' = i := congrArg Prod.snd hnew
          exact .inl htelling
    · cases hacc.symm.trans haccepted
  · refine .same hhalves (fun i' h howned => ?_) (fun i' hopened => ?_) fun i' haccepted => ?_
    · refine howned.mono (fun hr => hr) (fun hw => hw) fun hover => .inr (.inl ?_)
      rcases honly i' h.kind hover with hmem | ⟨-, hwaits⟩
      · exact hmem
      · exact absurd hwaits hthere
    · rcases hopened with hnone | hmem
      · cases hnone
      · exact .inr hmem
    · cases hacc.symm.trans haccepted

theorem follows_recording {record : RecentClaimRecord} {p : ClaimReqProcessing}
    (hloop : s.tunnel.loop = .recording record p) : Follows s (s.follow .go) := by
  have hgo : (s.tunnel.act s.tunnel .go).1 =
      { s.tunnel with recentClaim := some record, loop := .processed p } := by
    simp only [TcpTunnel.act, TcpTunnel.go, hloop]
  have hacc : s.tunnel.loop.accepted = p.accepted := by
    rw [hloop]
    rfl
  rw [follow, hgo]
  refine .same (fun _ => rfl) (fun i h howned => ?_) (fun i hopened => hopened) fun i haccepted => ?_
  · refine howned.mono (fun hr => hr) (fun hw => hw) fun hover => ?_
    rcases hover with ⟨-, id, htelling, -⟩ | hdelivered | ⟨hi, hthere⟩
    · rw [hloop] at htelling
      cases htelling
    · exact .inr (.inl hdelivered)
    · exact .inr (.inr ⟨hacc.symm.trans hi, hthere⟩)
  · exact hacc.trans haccepted

theorem kept_go (h : Kept s) (hpasses : s.passes (.tunnel .go) = true) : Kept s.go := by
  cases hloop : s.tunnel.loop with
  | confirming c => exact kept_confirming h hloop hpasses
  | binding req localChannelId => exact kept_binding h hloop hpasses
  | recording record p =>
    have heq : s.go = s.follow .go := by simp only [go, hloop]
    rw [heq]
    exact h.follows (follows_recording hloop)
  | telling channelId =>
    cases htelling : s.telling with
    | some i =>
      have heq : s.go = s.tell channelId i := by simp only [go, hloop, htelling]
      rw [heq]
      exact h.follows (follows_tell hloop htelling)
    | none =>
      have heq : s.go = s.follow .go := by simp only [go, hloop, htelling]
      rw [heq]
      refine h.follows (follows_turns (fun i kind hover => ?_) ?_)
      · rcases hover with ⟨htell, -⟩ | hdelivered | ⟨hacc, -⟩
        · rw [htelling] at htell
          cases htell
        · exact hdelivered
        · rw [hloop] at hacc
          cases hacc
      · simp only [TcpTunnel.act, TcpTunnel.go, hloop]
        exact ⟨fun _ => rfl, rfl, rfl⟩
  | processed p =>
    have heq : s.go = s.follow .go := by simp only [go, hloop]
    have hsame : (s.tunnel.act s.tunnel .go).1 = s.tunnel := by
      simp only [TcpTunnel.act, TcpTunnel.go, hloop]
    rw [heq]
    refine h.follows (follows_quiet ?_ fun id _ hmem => ?_)
    · rw [hsame]
      exact .refl _
    · rw [hsame]
      exact hmem
  | _ =>
    have heq : s.go = s.follow .go := by simp only [go, hloop]
    have hhands : s.tunnel.loop.hands = false := by
      rw [hloop]
      rfl
    have hbinding : ∀ req id, s.tunnel.loop ≠ .binding req id := by
      intro req id hbind
      cases hloop.symm.trans hbind
    have hconfirming : ∀ c, s.tunnel.loop ≠ .confirming c := by
      intro c hconfirm
      cases hloop.symm.trans hconfirm
    rw [heq]
    exact h.follows
      (follows_turns (delivered_of_hands hhands) (.go _ hhands hbinding hconfirming))

/-- **One step.** -/
theorem Kept.step (h : Kept s) {e : HolderEvent} (hpasses : s.passes e = true) : Kept (s.step e) := by
  have hquiet : ∀ {e : ClaimEvent}, s.tunnel.Quiet (s.tunnel.act s.tunnel e).1 →
      (s.tunnel.act s.tunnel e).1.pendingClaims = s.tunnel.pendingClaims → Kept (s.follow e) := by
    intro e hq hpending
    refine h.follows (follows_quiet hq fun id _ hmem => ?_)
    rw [hpending]
    exact hmem
  cases e with
  | tunnel e =>
    cases e with
    | claim kind purpose channelId nonce =>
      refine hquiet (.claimEntry ..) ?_
      simp only [TcpTunnel.act, TcpTunnel.claimEntry]
      split
      · split <;> rfl
      · rfl
      · rfl
    | register k => exact h.follows (follows_registerClaim k)
    | sendClaim k ok => exact h.follows (follows_sendClaim k ok hpasses)
    | reset k =>
      refine hquiet (.resetClaim ..) ?_
      simp only [TcpTunnel.act, TcpTunnel.resetClaim]
      split <;> rfl
    | forget channelId =>
      refine h.follows (follows_quiet ?_ fun id htells hmem => ?_)
      · exact ⟨fun _ => rfl, rfl, rfl⟩
      · exact mem_erase_of_tells hpasses htells hmem
    | deliver active => exact h.follows (follows_loop (.inl ⟨active, rfl⟩))
    | go => exact kept_go h hpasses
    | checked answer => exact h.follows (follows_loop (.inr (.inl ⟨answer, rfl⟩)))
    | reserved answer => exact h.follows (follows_loop (.inr (.inr (.inl ⟨answer, rfl⟩))))
    | enqueued ok => exact h.follows (follows_enqueued h ok)
    | reply ok => exact h.follows (follows_loop (.inr (.inr (.inr ⟨ok, rfl⟩))))
    | lease i e => exact h.follows (follows_useLease i e)
    | run k => exact h.follows (follows_run k hpasses)
    | sendDrain k ok =>
      refine hquiet (.sendDrain ..) ?_
      simp only [TcpTunnel.act, TcpTunnel.sendDrain]
      split
      · split <;> rfl
      · rfl
    | abandon => exact hquiet ⟨fun _ => rfl, rfl, rfl⟩ rfl
    | close => exact h.follows (follows_close hpasses)
  | arrive cmd => exact { h with owned := fun i h' hi => { h.owned i h' hi with } }
  | listen kind => exact h.follows (follows_listen kind)
  | take j => exact h.follows (follows_take h j)
  | cancel channelId => exact h.follows (follows_cancel channelId hpasses)

/-! ## The end of a lease that has an owner -/

/-- The step leaves a lease that is let go its end. -/
def endsLeases (s : Holder) : HolderEvent → Bool
  | .tunnel e => s.tunnel.endsLeases e
  | _ => true

/-- The step drops no lease on its way, and leaves a lease that is let go its end. -/
def keeps (s : Holder) (e : HolderEvent) : Bool := s.passes e && s.endsLeases e

theorem ends_step (h : s.tunnel.Ends) {e : HolderEvent} (hends : s.endsLeases e = true) :
    (s.step e).tunnel.Ends := by
  have hfollow : ∀ {e : ClaimEvent}, s.tunnel.endsLeases e = true → (s.follow e).tunnel.Ends :=
    fun he => h.act s.tunnel he
  cases e with
  | tunnel e =>
    cases e with
    | register k =>
      simp only [step, registerClaim]
      split
      · exact h.goes (.registerClaim ..)
      · exact h
    | go =>
      simp only [step, go]
      split
      · exact hfollow hends
      · next channelId i _ _ =>
        unfold tell
        dsimp only
        split
        · exact hfollow hends
        · exact hfollow hends
      · exact hfollow hends
    | enqueued ok =>
      have hend : (s.follow (.enqueued ok)).tunnel.Ends := hfollow rfl
      simp only [step, enqueued]
      split
      · split
        · next i _ =>
          show ((s.enqueueAccepted i).tunnel.enqueued ok).Ends
          rw [(s.enqueueAccepted_frame i).1]
          exact hend
        · exact hend
      · exact hend
    | lease i e =>
      have hend : (s.follow (.lease i e)).tunnel.Ends := hfollow rfl
      simp only [step, useLease]
      split
      · split
        · split
          · exact hend
          · exact hend
          · exact hend
        · exact h
      · exact h
    | _ => exact hfollow hends
  | arrive cmd => exact h.goes { TcpTunnel.Goes.refl s.tunnel with }
  | listen kind =>
    simp only [step, listen]
    split
    · exact h
    · split
      · exact h
      · exact h
  | take j =>
    simp only [step, take]
    split
    · split
      · split
        · exact h
        · exact h
      · exact h
    · exact h
  | cancel channelId => exact h.goes { TcpTunnel.Goes.refl s.tunnel with }

end Holder

/-- The lease is used through its handles, or fails there. -/
def LeaseEvent.byHandle : LeaseEvent → Bool
  | .write _ | .read _ _ | .dropRead | .dropWrite | .fail => true
  | _ => false

/-- A step by which a lease is handed over, used, let go or ended.  The other end has no part in it,
and no timeout of a claim. -/
def HolderEvent.ofOwner : HolderEvent → Bool
  | .tunnel .go | .tunnel (.enqueued _) | .tunnel (.run _) | .tunnel .close => true
  | .tunnel (.lease _ e) => e.byHandle
  | .take _ => true
  | _ => false

namespace Holder

variable {s s' : Holder}

/-- The connection can still become idle or be retired. -/
def CanEnd (s : Holder) : Prop :=
  ∃ events : List HolderEvent, events.all HolderEvent.ofOwner = true ∧
    ((exec step s events).tunnel.state = .idle ∨ (exec step s events).tunnel.state = .retired)

theorem CanEnd.of_exec (events : List HolderEvent)
    (howner : events.all HolderEvent.ofOwner = true) (h : CanEnd (exec step s events)) :
    CanEnd s := by
  obtain ⟨rest, hrest, hend⟩ := h
  refine ⟨events ++ rest, ?_, ?_⟩
  · rw [List.all_append, howner, hrest]
    rfl
  · rw [exec_append]
    exact hend

theorem canEnd_markRetired {k i : Nat} {lease : LeaseContext}
    (hi : s.tunnel.leases[i]? = some lease)
    (hk : s.tunnel.todo[k]? = some (.lease i .markRetired)) : CanEnd s := by
  refine ⟨[.tunnel (.run k)], rfl, .inr ?_⟩
  show (s.tunnel.act s.tunnel (.run k)).1.state = .retired
  simp only [TcpTunnel.act, hk, TcpTunnel.runChore, hi]
  rfl

/-- A region of the lease whose last step retires the entry. -/
theorem region_markRetired {x : TcpTunnel} {i : Nat} {lease : LeaseContext}
    (hi : x.leases[i]? = some lease) {r : LeaseContext × List Todo} (hr : r.2 = [.markRetired])
    (rest : List Chore) :
    (x.region i r).leases[i]? = some r.1 ∧
      ((x.region i r).todo ++ rest)[x.todo.length]? = some (.lease i .markRetired) := by
  have hlt : i < x.leases.length := (List.getElem?_eq_some_iff.mp hi).1
  constructor
  · show (x.leases.set i r.1)[i]? = _
    rw [List.getElem?_set, if_pos rfl, if_pos hlt]
  · show ((x.todo ++ r.2.map (Chore.lease i)) ++ rest)[x.todo.length]? = _
    rw [hr, List.append_assoc, List.getElem?_append_right (Nat.le_refl _), Nat.sub_self]
    rfl

theorem retireLease_todo {lease : LeaseContext} (h : lease.retired = false) :
    lease.retireLease.2 = [.markRetired] := by
  rw [LeaseContext.retireLease, if_neg (by rw [h]; exact Bool.false_ne_true)]

/-- A handle of the lease: its next read or write may fail. -/
theorem canEnd_handle {i : Nat} {lease : LeaseContext} (hi : s.tunnel.leases[i]? = some lease)
    (hretired : lease.retired = false) (hhandle : i ∈ s.reads ∨ i ∈ s.writes) : CanEnd s := by
  have hmay : s.mayUse i lease .fail = true := by
    simp only [mayUse, Bool.or_eq_true, decide_eq_true_eq]
    exact .inl hhandle
  have hstep : s.step (.tunnel (.lease i .fail)) = s.follow (.lease i .fail) := by
    simp only [step, useLease, hi, hmay, if_true]
  have hact : (s.tunnel.act s.tunnel (.lease i .fail)).1 =
      s.tunnel.runLease i lease .retire := by
    simp only [TcpTunnel.act, hi]
    rfl
  obtain ⟨hlease, htodo⟩ := region_markRetired hi (retireLease_todo hretired)
    (if lease.retired then [] else
      [.clearPendingDrainForEntry lease.leaseSeq, .sendPendingClaimResult lease.channelId])
  refine CanEnd.of_exec [.tunnel (.lease i .fail)] rfl ?_
  rw [exec_cons, exec_nil, hstep]
  have hlease' : (s.follow (.lease i .fail)).tunnel.leases[i]? = some lease.retireLease.1 := by
    show ((s.tunnel.act s.tunnel (.lease i .fail)).1).leases[i]? = _
    rw [hact]
    exact hlease
  have htodo' : (s.follow (.lease i .fail)).tunnel.todo[s.tunnel.todo.length]? =
      some (.lease i .markRetired) := by
    show ((s.tunnel.act s.tunnel (.lease i .fail)).1).todo[s.tunnel.todo.length]? = _
    rw [hact]
    exact htodo
  exact canEnd_markRetired hlease' htodo'

/-- A lease in the `oneshot` of a caller. -/
theorem canEnd_delivered {i : Nat} {lease : LeaseContext} (hi : s.tunnel.leases[i]? = some lease)
    (hretired : lease.retired = false) {id : TcpChannelId} (hmem : (id, i) ∈ s.delivered) :
    CanEnd s := by
  obtain ⟨j, hj⟩ := List.mem_iff_getElem?.mp hmem
  have htake : (s.take j).tunnel = s.tunnel ∧ i ∈ (s.take j).writes := by
    unfold take
    rw [hj]
    dsimp only
    rw [hi]
    dsimp only
    split
    · exact ⟨rfl, List.mem_cons_self ..⟩
    · exact ⟨rfl, List.mem_cons_self ..⟩
  refine CanEnd.of_exec [.take j] rfl (canEnd_handle (i := i) ?_ hretired (.inr htake.2))
  show (s.take j).tunnel.leases[i]? = some lease
  rw [htake.1]
  exact hi

/-- A lease that is on its way. -/
theorem canEnd_hands {i : Nat} {lease : LeaseContext} (hi : s.tunnel.leases[i]? = some lease)
    (hretired : lease.retired = false) (hover : s.HandsOver i lease.kind) : CanEnd s := by
  rcases hover with ⟨htelling, id, hloop, hmem, hreceiver⟩ | ⟨id, hmem⟩ | ⟨hacc, hclosed, hcall⟩
  · have hgo : s.go = s.tell id i := by simp only [go, hloop, htelling]
    have hact : (s.tunnel.act s.tunnel .go).1.leases = s.tunnel.leases := by
      simp only [TcpTunnel.act, TcpTunnel.go, hloop]
    have htold : (id, i) ∈ s.go.delivered ∧ s.go.tunnel.leases[i]? = some lease := by
      rw [hgo, tell, if_pos ⟨hmem, hreceiver⟩]
      refine ⟨List.mem_append_right _ (List.mem_singleton_self _), ?_⟩
      show (s.tunnel.act s.tunnel .go).1.leases[i]? = _
      rw [hact]
      exact hi
    exact CanEnd.of_exec [.tunnel .go] rfl (canEnd_delivered htold.2 hretired htold.1)
  · exact canEnd_delivered hi hretired hmem
  · -- the rest of `process_claim_req`, and `enqueue_accepted`
    have hprocessed : ∀ {s : Holder} {p : ClaimReqProcessing}, s.tunnel.leases[i]? = some lease →
        s.tunnel.closed = false → s.callback lease.kind = true → s.tunnel.loop = .processed p →
        p.accepted = some i → CanEnd s := by
      intro s p hi hclosed hcall hloop hp
      have henqueue : i ∈ (s.enqueueAccepted i).reads := by
        simp only [enqueueAccepted, hi, hclosed, hcall, Bool.not_true, Bool.or_false,
          Bool.false_eq_true, if_false]
        split
        · exact List.mem_cons_self ..
        · exact List.mem_cons_self ..
      have heq : s.enqueued true = (s.enqueueAccepted i).follow (.enqueued true) := by
        simp only [enqueued, hloop, hp]
      have hleases : (s.tunnel.enqueued true).leases = s.tunnel.leases := by
        simp only [TcpTunnel.enqueued, hloop]
        split
        · split <;> rfl
        · split <;> rfl
      refine CanEnd.of_exec [.tunnel (.enqueued true)] rfl ?_
      show CanEnd (s.enqueued true)
      rw [heq]
      refine canEnd_handle (i := i) ?_ hretired (.inl henqueue)
      show (((s.enqueueAccepted i).tunnel.act (s.enqueueAccepted i).tunnel
        (.enqueued true)).1).leases[i]? = some lease
      rw [(s.enqueueAccepted_frame i).1]
      show (s.tunnel.enqueued true).leases[i]? = some lease
      rw [hleases]
      exact hi
    cases hloop : s.tunnel.loop with
    | processed p =>
      rw [hloop] at hacc
      exact hprocessed hi hclosed hcall hloop hacc
    | recording record p =>
      rw [hloop] at hacc
      have hgo : (s.tunnel.act s.tunnel .go).1 =
          { s.tunnel with recentClaim := some record, loop := .processed p } := by
        simp only [TcpTunnel.act, TcpTunnel.go, hloop]
      have heq : s.go = s.follow .go := by simp only [go, hloop]
      refine CanEnd.of_exec [.tunnel .go] rfl ?_
      show CanEnd s.go
      rw [heq, follow, hgo]
      exact hprocessed hi hclosed hcall rfl hacc
    | _ =>
      rw [hloop] at hacc
      cases hacc

/-- A lease that is due: what ends it is run. -/
theorem canEnd_due {i : Nat} {lease : LeaseContext} (hi : s.tunnel.leases[i]? = some lease)
    (hdue : lease.due = true) (hend : s.tunnel.Due i) : CanEnd s := by
  have hretired : lease.retired = false := by
    simp only [LeaseContext.due, Bool.and_eq_true, Bool.not_eq_true'] at hdue
    exact hdue.2
  rcases hend with hmem | hmem
  · obtain ⟨k, hk⟩ := List.mem_iff_getElem?.mp hmem
    let x : TcpTunnel := { s.tunnel with todo := s.tunnel.todo.eraseIdx k }
    have hact : (s.tunnel.act s.tunnel (.run k)).1 = x.region i lease.maybeFinalizeLease := by
      simp only [TcpTunnel.act, hk, TcpTunnel.runChore, hi]
      rfl
    obtain ⟨hlease, htodo⟩ := region_markRetired (x := x) (r := lease.maybeFinalizeLease) hi
      (by rw [LeaseContext.maybeFinalizeLease_of_due hdue]) []
    rw [List.append_nil] at htodo
    rw [← hact] at hlease htodo
    exact CanEnd.of_exec [.tunnel (.run k)] rfl
      (canEnd_markRetired (s := s.follow (.run k)) hlease htodo)
  · obtain ⟨k, hk⟩ := List.mem_iff_getElem?.mp hmem
    let x : TcpTunnel := { s.tunnel with todo := s.tunnel.todo.eraseIdx k }
    have hact : (s.tunnel.act s.tunnel (.run k)).1 = x.runLease i lease .retire := by
      simp only [TcpTunnel.act, hk, TcpTunnel.runChore, hi]
      rfl
    obtain ⟨hlease, htodo⟩ := region_markRetired (x := x) (r := lease.retireLease) hi
      (retireLease_todo hretired)
      (if lease.retired then [] else
        [.clearPendingDrainForEntry lease.leaseSeq, .sendPendingClaimResult lease.channelId])
    have hlease' : (s.follow (.run k)).tunnel.leases[i]? = some lease.retireLease.1 := by
      show ((s.tunnel.act s.tunnel (.run k)).1).leases[i]? = _
      rw [hact]
      exact hlease
    have htodo' : (s.follow (.run k)).tunnel.todo[x.todo.length]? =
        some (.lease i .markRetired) := by
      show ((s.tunnel.act s.tunnel (.run k)).1).todo[x.todo.length]? = _
      rw [hact]
      exact htodo
    exact CanEnd.of_exec [.tunnel (.run k)] rfl (canEnd_markRetired hlease' htodo')

/-- Both halves are released: the lease is retired when the tunnel is closed. -/
theorem canEnd_released (hends : s.tunnel.Ends) {i : Nat} {lease : LeaseContext}
    (hi : s.tunnel.leases[i]? = some lease) (hretired : lease.retired = false)
    (hholds : s.tunnel.Holds i) (hread : lease.readReleased = true)
    (hwrite : lease.writeReleased = true) : CanEnd s := by
  have hdue : ∀ {c : LeaseContext}, c.readReleased = true → c.writeReleased = true →
      c.noReuse = true → c.retired = false → c.due = true := by
    intro c hr hw hn hret
    rw [LeaseContext.due, hr, hw, hn, hret]
    rfl
  cases hclosed : s.tunnel.closed with
  | true =>
    have hlease := hdue hread hwrite (hends.closed hclosed i lease hholds hi) hretired
    exact canEnd_due hi hlease (hends.due i lease hi hlease)
  | false =>
    have hregistered := (hends.registered i hholds).1
    let last : LeaseContext := { lease with noReuse := true }
    have hlast : last.due = true := hdue hread hwrite rfl hretired
    have hleases : s.tunnel.close.leases = s.tunnel.leases.set i last := by
      rcases hholds with hs | hs
      · simp only [TcpTunnel.close, hclosed, hregistered, hs, hi, Bool.false_eq_true, if_false,
          Bool.not_true]
        rfl
      · simp only [TcpTunnel.close, hclosed, hregistered, hs, hi, Bool.false_eq_true, if_false,
          Bool.not_true]
        rfl
    have hlt : i < s.tunnel.leases.length := (List.getElem?_eq_some_iff.mp hi).1
    have hlease : s.tunnel.close.leases[i]? = some last := by
      rw [hleases, List.getElem?_set, if_pos rfl, if_pos hlt]
    refine CanEnd.of_exec [.tunnel .close] rfl ?_
    exact canEnd_due (s := s.close) hlease hlast (hends.close.due i last hlease hlast)

/-- **No orphaned lease.**  In every run whose steps keep leases, each half of a lease that the entry
is bound to, and that is not retired, is released, or has a handle, or is on its way to somebody who
will make its handle; and the connection can still become idle or be retired. -/
theorem leases_owned (localId remoteId : P2pId) (connId : TcpConnId) (first : Bool)
    (events : List HolderEvent)
    (hkeeps : Along step (fun s e => s.keeps e = true) (.new localId remoteId connId first) events)
    (s : Holder) (hs : exec step (.new localId remoteId connId first) events = s)
    (i : Nat) (lease : LeaseContext) (hi : s.tunnel.leases[i]? = some lease)
    (hholds : s.tunnel.state = .bound i ∨ s.tunnel.state = .draining i)
    (hretired : lease.retired = false) :
    (lease.readReleased = true ∨ i ∈ s.reads ∨ s.HandsOver i lease.kind) ∧
      (lease.writeReleased = true ∨ i ∈ s.writes ∨ s.HandsOver i lease.kind) ∧ s.CanEnd := by
  have hinv : Kept s ∧ s.tunnel.Ends := by
    rw [← hs]
    refine exec_inv (I := fun s => Kept s ∧ s.tunnel.Ends) (fun s e h hC => ?_)
      ⟨.new .., .new ..⟩ hkeeps
    obtain ⟨hpasses, hends⟩ := Bool.and_eq_true_iff.mp hC
    exact ⟨h.1.step hpasses, ends_step h.2 hends⟩
  obtain ⟨hkept, hends⟩ := hinv
  have howned : s.Owned i lease.halves := by
    refine hkept.owned i lease.halves ?_
    rw [TcpTunnel.halvesOf, hi]
    rfl
  have hread : lease.readReleased = true ∨ i ∈ s.reads ∨ s.HandsOver i lease.kind := howned.read
  have hwrite : lease.writeReleased = true ∨ i ∈ s.writes ∨ s.HandsOver i lease.kind := howned.write
  refine ⟨hread, hwrite, ?_⟩
  rcases hread with hr | hr | hover
  · rcases hwrite with hw | hw | hover
    · exact canEnd_released hends hi hretired hholds hr hw
    · exact canEnd_handle hi hretired (.inr hw)
    · exact canEnd_hands hi hretired hover
  · exact canEnd_handle hi hretired (.inl hr)
  · exact canEnd_hands hi hretired hover

/-! ## A lease without an owner -/

/-- The entry is bound to a lease that has a half left, and nobody has it. -/
structure Orphan (s : Holder) (i : Nat) : Prop where
  state : s.tunnel.state = .bound i
  half : ∃ lease, s.tunnel.leases[i]? = some lease ∧
    (lease.readReleased && lease.writeReleased) = false
  timer : ∀ lease ∈ s.tunnel.leases, lease.drainTimer = false
  loop : s.tunnel.loop = .ready
  todo : s.tunnel.todo = []
  delivered : s.delivered = []
  reads : s.reads = []
  writes : s.writes = []

/-- Closing the tunnel does not retire the lease: only the release of its halves would. -/
theorem Orphan.close {i : Nat} (h : s.Orphan i) : s.close.Orphan i := by
  obtain ⟨lease, hi, hhalf⟩ := h.half
  have hready : LeaseContext.readyForClose { lease with noReuse := true } = false := by
    show (lease.readReleased && lease.writeReleased && (lease.retired || true)) = false
    rw [hhalf]
    rfl
  -- what closing changes: the waiters, what was kept for later leases, and `no_reuse`
  have hclose : s.tunnel.close.state = .bound i ∧ s.tunnel.close.loop = .ready ∧
      s.tunnel.close.todo = [] ∧
      (s.tunnel.close.leases = s.tunnel.leases ∨
        s.tunnel.close.leases = s.tunnel.leases.set i { lease with noReuse := true }) := by
    unfold TcpTunnel.close
    split
    · exact ⟨h.state, h.loop, h.todo, .inl rfl⟩
    · dsimp only
      split
      · exact ⟨h.state, h.loop, h.todo, .inl rfl⟩
      · simp only [h.state, hi, hready]
        refine ⟨rfl, h.loop, ?_, .inr rfl⟩
        show s.tunnel.todo ++ [] = []
        rw [h.todo]
        rfl
  obtain ⟨hstate, hloop, htodo, hleases⟩ := hclose
  have hlt : i < s.tunnel.leases.length := (List.getElem?_eq_some_iff.mp hi).1
  refine ⟨hstate, ?_, ?_, hloop, htodo, h.delivered, h.reads, h.writes⟩
  · show ∃ lease, s.tunnel.close.leases[i]? = some lease ∧ _
    rcases hleases with heq | heq
    · rw [heq]
      exact h.half
    · rw [heq, List.getElem?_set, if_pos rfl, if_pos hlt]
      exact ⟨_, rfl, hhalf⟩
  · show ∀ lease ∈ s.tunnel.close.leases, _
    rcases hleases with heq | heq
    · rw [heq]
      exact h.timer
    · rw [heq]
      intro c hc
      rcases List.mem_or_eq_of_mem_set hc with hold | rfl
      · exact h.timer c hold
      · exact h.timer lease (List.mem_of_getElem? hi)

/-- Without handles a lease is not used. -/
theorem Orphan.useLease {i : Nat} (h : s.Orphan i) (j : Nat) {e : LeaseEvent}
    (he : e.byHandle = true) : s.useLease j e = s := by
  unfold Holder.useLease
  split
  · next lease hj =>
    have hmay : s.mayUse j lease e = false := by
      have htimer := h.timer lease (List.mem_of_getElem? hj)
      cases e with
      | fail => simp [mayUse, h.reads, h.writes, htimer]
      | write n => simp [mayUse, h.writes]
      | dropWrite => simp [mayUse, h.writes]
      | read n eof => simp [mayUse, h.reads]
      | dropRead => simp [mayUse, h.reads]
      | _ => cases he
    rw [hmay, if_neg Bool.false_ne_true]
  · rfl

theorem Orphan.step {i : Nat} (h : s.Orphan i) {e : HolderEvent} (he : e.ofOwner = true) :
    (s.step e).Orphan i := by
  -- a step of the tunnel that does nothing
  have hfollow : ∀ {e : ClaimEvent}, (s.tunnel.act s.tunnel e).1 = s.tunnel →
      (s.follow e).Orphan i := by
    intro e heq
    rw [follow, heq]
    exact { h with }
  cases e with
  | tunnel e =>
    cases e with
    | go =>
      have heq : s.go = s.follow .go := by simp only [go, h.loop]
      show s.go.Orphan i
      rw [heq]
      refine hfollow ?_
      simp only [TcpTunnel.act, TcpTunnel.go, h.loop]
    | enqueued ok =>
      have heq : s.enqueued ok = s.follow (.enqueued ok) := by simp only [enqueued, h.loop]
      show (s.enqueued ok).Orphan i
      rw [heq]
      refine hfollow ?_
      simp only [TcpTunnel.act, TcpTunnel.enqueued, h.loop]
    | run k =>
      refine hfollow ?_
      simp only [TcpTunnel.act, h.todo, List.getElem?_nil]
    | lease j e =>
      show (s.useLease j e).Orphan i
      rw [h.useLease j he]
      exact h
    | close => exact h.close
    | _ => cases he
  | take j =>
    show (s.take j).Orphan i
    simp only [take, h.delivered, List.getElem?_nil]
    exact h
  | _ => cases he

/-- The connection of a lease without an owner cannot end. -/
theorem Orphan.not_canEnd {i : Nat} (h : s.Orphan i) : ¬ s.CanEnd := by
  rintro ⟨events, howner, hend⟩
  have horphan : (exec Holder.step s events).Orphan i := by
    clear hend
    induction events generalizing s with
    | nil => exact h
    | cons e events ih =>
      rw [List.all_cons, Bool.and_eq_true] at howner
      exact ih (h.step howner.1) howner.2
  rw [horphan.state] at hend
  rcases hend with hend | hend
  · cases hend
  · cases hend

/-! ## Runs -/

/-- A caller asks for a stream, and the request is sent. -/
def asks : List HolderEvent :=
  [.tunnel (.claim .stream [3] 1 5), .tunnel (.register 0), .tunnel (.sendClaim 0 true)]

/-- The grant comes, and the loop binds the lease and sends it to the caller. -/
def binds : List HolderEvent :=
  [.arrive (.claimConnAck ⟨1, 7, 1, .success⟩), .tunnel (.deliver true), .tunnel .go, .tunnel .go,
    .tunnel .go, .tunnel .go, .tunnel .go]

/-- The caller takes its lease, and the connection is its to end. -/
theorem leases_owned_taken :
    0 ∈ (exec step (.new [1] [2] 7 true) (asks ++ binds ++ [.take 0])).reads ∧
      CanEnd (exec step (.new [1] [2] 7 true) (asks ++ binds ++ [.take 0])) := by
  have howned := leases_owned [1] [2] 7 true (asks ++ binds ++ [.take 0]) (by decide +kernel)
    _ rfl 0 (.new 7 1 1 .stream [3] true) (by decide +kernel) (.inl (by decide +kernel)) rfl
  exact ⟨by decide +kernel, howned.2.2⟩

/-- The caller is dropped while it waits for the grant.  The loop binds the lease all the same and
loses it: no half of it is released, neither has a handle or is on its way, and the connection cannot
end. -/
theorem lease_orphaned :
    let s := exec step (.new [1] [2] 7 true) (asks ++ [.cancel 1] ++ binds)
    s.tunnel.state = .bound 0 ∧
      (∃ lease, s.tunnel.leases[0]? = some lease ∧ lease.retired = false ∧
        ¬ (lease.readReleased = true ∨ 0 ∈ s.reads ∨ s.HandsOver 0 lease.kind) ∧
        ¬ (lease.writeReleased = true ∨ 0 ∈ s.writes ∨ s.HandsOver 0 lease.kind)) ∧
      ¬ s.CanEnd := by
  intro s
  have hleases : s.tunnel.leases = [.new 7 1 1 .stream [3] true] := by decide +kernel
  have hreads : s.reads = [] := by decide +kernel
  have hwrites : s.writes = [] := by decide +kernel
  have htelling : s.telling = none := by decide +kernel
  have hdelivered : s.delivered = [] := by decide +kernel
  have hloop : s.tunnel.loop = .ready := by decide +kernel
  have horphan : s.Orphan 0 := by
    refine ⟨by decide +kernel, ⟨_, by rw [hleases]; rfl, rfl⟩, ?_, hloop, by decide +kernel,
      hdelivered, hreads, hwrites⟩
    rw [hleases]
    decide
  have hover : ¬ s.HandsOver 0 .stream := by
    rintro (⟨htell, -⟩ | ⟨id, hmem⟩ | ⟨hacc, -⟩)
    · rw [htelling] at htell
      cases htell
    · rw [hdelivered] at hmem
      cases hmem
    · rw [hloop] at hacc
      cases hacc
  refine ⟨horphan.state, ⟨_, by rw [hleases]; rfl, rfl, ?_, ?_⟩, horphan.not_canEnd⟩
  · rintro (h | h | h)
    · cases h
    · rw [hreads] at h
      cases h
    · exact hover h
  · rintro (h | h | h)
    · cases h
    · rw [hwrites] at h
      cases h
    · exact hover h

end Holder

end BuckyP2p.Tcp
