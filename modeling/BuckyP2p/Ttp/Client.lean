import BuckyP2p.Lib.Lists
import BuckyP2p.Lib.Runs
import BuckyP2p.Lib.Table
import BuckyP2p.Rendezvous.Message

/-!
# BuckyP2p.Ttp.Client — leases on the tunnels of `TtpClient` (`ttp/client.rs`)

The calls of `open_stream`, `open_control_stream`, `open_datagram` and `connect_server` on one
client.  A call looks for a tunnel in the cache or creates one, attaches and remembers it; the first
three then acquire a lease, open the channel and put the lease into its halves.  Every await may fail
or be cancelled, which drops what the call holds.

The cache is one table: a slot is the remote id with the key of the tunnel.  Which of the entries
that match a target is found first depends on the order of a `HashMap`, and is said by the event; so
are the clock and the clone of `maintained_targets` that is taken before the lock of the cache.

A lease knows its entry by the slot.  `Tended` are the steps at which this makes no difference: a
tunnel is remembered when no lease of its slot is out, and the lease is acquired on the entry of the
tunnel that the call has.
-/

namespace BuckyP2p

/-- `a.ip() == b.ip()`. -/
def SocketAddr.sameIp : SocketAddr → SocketAddr → Bool
  | .v4 a _, .v4 b _ => a = b
  | .v6 a _ _ _, .v6 b _ _ _ => a = b
  | _, _ => false

/-- `Default for Endpoint`. -/
def Endpoint.default : Endpoint := ⟨.lan, .quic, .v4 ⟨0, 0, 0, 0⟩ 0⟩

end BuckyP2p

namespace BuckyP2p.Ttp

open Lib

structure TtpTarget where
  localEp : Option Endpoint
  remoteEp : Endpoint
  remoteId : P2pId
  deriving DecidableEq

/-- The derived `Hash` reads the area of an endpoint, which `PartialEq` does not: keys that differ in
it are different keys of the map. -/
structure TtpClientTunnelKey where
  localEp : Option Endpoint
  remoteEp : Option Endpoint
  deriving DecidableEq

/-- What a tunnel says of itself. -/
structure Tunnel where
  remoteId : P2pId
  localEp : Option Endpoint
  remoteEp : Option Endpoint
  /-- Not closed, and `Connected`. -/
  available : Bool
  deriving DecidableEq

abbrev Slot : Type := P2pId × TtpClientTunnelKey

def TtpClientTunnelKey.fromTunnel (x : Tunnel) : TtpClientTunnelKey := ⟨x.localEp, x.remoteEp⟩

def Tunnel.slot (x : Tunnel) : Slot := (x.remoteId, .fromTunnel x)

def matchTarget (x : Tunnel) (target : TtpTarget) : Bool :=
  if x.remoteId ≠ target.remoteId then false
  else
    let elsewhere := match target.localEp with
      | some localEp =>
        (x.localEp.map fun ep : Endpoint =>
          if localEp.addr.port = 0 then
            decide (ep.protocol ≠ localEp.protocol) || !ep.addr.sameIp localEp.addr
          else !ep.eq localEp).getD false
      | none => false
    if elsewhere then false
    else target.remoteEp.eq .default || (x.remoteEp.map fun ep : Endpoint => ep.eq target.remoteEp).getD true

structure TtpClientTunnelEntry where
  tunnel : Nat
  maintained : Bool
  lastUsed : Nat
  leases : Nat
  deriving DecidableEq

inductive Kind
  | connect | stream | controlStream | datagram
  deriving DecidableEq

/-- The lease is in both halves of a stream, and in the one half of a datagram channel. -/
def Kind.moreHalves : Kind → Nat
  | .stream | .controlStream => 1
  | .datagram | .connect => 0

inductive LeaseState
  /-- The call opens the channel. -/
  | opening
  /-- The lease is in a half of the channel and in `more` others. -/
  | held (more : Nat)
  | dropped
  deriving DecidableEq

/-- A lease, with the tunnel whose channel it is for. -/
structure Lease where
  kind : Kind
  tunnel : Nat
  slot : Slot
  state : LeaseState
  deriving DecidableEq

def Lease.live (x : Lease) : Bool := x.state ≠ .dropped

inductive Phase
  | looking
  | creating
  | attaching (t : Nat)
  | chosen (t : Nat)
  /-- `connect_server` has its tunnel, or the others have their lease, or an error is returned. -/
  | done
  deriving DecidableEq

structure Call where
  kind : Kind
  target : TtpTarget
  phase : Phase
  deriving DecidableEq

inductive Event
  | call (kind : Kind) (target : TtpTarget)
  /-- `find_existing_tunnel`, which finds the entry at `found`. -/
  | find (c : Nat) (targets : List TtpTarget) (now : Nat) (found : Option Slot)
  /-- `create_tunnel` returns. -/
  | created (c : Nat) (made : Option Tunnel)
  /-- `attach_tunnel` returns, and the tunnel is remembered. -/
  | attached (c : Nat) (ok : Bool) (targets : List TtpTarget) (now : Nat)
  /-- `acquire_lease`, which takes the entry at `found`. -/
  | acquire (c : Nat) (now : Nat) (found : Option Slot)
  /-- The call is dropped before it has its lease. -/
  | cancel (c : Nat)
  /-- The call with the lease `l` has opened its channel, or has failed or was dropped. -/
  | opened (l : Nat) (ok : Bool) (now : Nat)
  /-- A half of a channel is dropped. -/
  | dropHalf (l : Nat) (now : Nat)
  | rememberTunnel (t : Nat) (targets : List TtpTarget) (now : Nat)
  | refresh (remoteId : P2pId) (targets : List TtpTarget) (now : Nat)
  | idle (targets : List TtpTarget) (now : Nat)
  /-- The tunnel `t` becomes available, or ceases to be. -/
  | turn (t : Nat) (available : Bool)
  deriving DecidableEq

/-- The call that takes the step. -/
def Event.caller? : Event → Option Nat
  | .find c .. | .created c _ | .attached c .. | .acquire c .. | .cancel c => some c
  | _ => none

structure TtpClient where
  idleTimeout : Nat
  tunnels : List Tunnel
  cache : Table Slot TtpClientTunnelEntry
  leases : List Lease
  calls : List Call

namespace TtpClient

def init (idleTimeout : Nat) : TtpClient := ⟨idleTimeout, [], ∅, [], []⟩

def meets (s : TtpClient) (t : Nat) (target : TtpTarget) : Bool :=
  match s.tunnels[t]? with
  | some x => matchTarget x target
  | none => false

def isAvailable (s : TtpClient) (t : Nat) : Bool :=
  match s.tunnels[t]? with
  | some x => x.available
  | none => false

def isMaintained (s : TtpClient) (targets : List TtpTarget) (t : Nat) : Bool :=
  targets.any (s.meets t)

/-- What `release_idle_tunnels_locked` keeps. -/
def keeps (s : TtpClient) (targets : List TtpTarget) (now : Nat) (e : TtpClientTunnelEntry) : Bool :=
  s.isAvailable e.tunnel && (s.isMaintained targets e.tunnel || decide (0 < e.leases) ||
    decide (now - e.lastUsed < s.idleTimeout))

def releaseIdleTunnels (s : TtpClient) (targets : List TtpTarget) (now : Nat) : TtpClient :=
  { s with cache := (s.cache.mapValues fun e =>
      { e with maintained := s.isMaintained targets e.tunnel }).retain fun _ e => s.keeps targets now e }

/-- The entry at `found` may be the first one that matches the target. -/
def Finds (s : TtpClient) (target : TtpTarget) : Option Slot → Prop
  | some slot => slot.1 = target.remoteId ∧
      ∃ e ∈ s.cache.lookup slot, s.meets e.tunnel target = true
  | none => ∀ x ∈ s.cache.entries, x.1.1 = target.remoteId →
      s.meets x.2.tunnel target = false

instance (s : TtpClient) (target : TtpTarget) (found : Option Slot) :
    Decidable (s.Finds target found) := by
  unfold Finds
  cases found <;> infer_instance

def setPhase (s : TtpClient) (c : Nat) (x : Call) (phase : Phase) : TtpClient :=
  { s with calls := s.calls.set c { x with phase := phase } }

/-- `remember_tunnel_entry` of the tunnel `t`, which is `x`. -/
def rememberTunnelEntry (s : TtpClient) (t : Nat) (x : Tunnel) (targets : List TtpTarget)
    (now : Nat) : TtpClient :=
  let r := s.releaseIdleTunnels targets now
  { r with cache := r.cache.insert x.slot ⟨t, s.isMaintained targets t, now, 0⟩ }

/-- `Drop for TtpClientTunnelLeaseInner`. -/
def dropLease (s : TtpClient) (slot : Slot) (now : Nat) : TtpClient :=
  match s.cache.lookup slot with
  | some e => { s with cache := s.cache.insert slot { e with leases := e.leases - 1, lastUsed := now } }
  | none => s

/-- The lease `l`, which is `x`, changes its state; the last reference to it drops it. -/
def setLease (s : TtpClient) (l : Nat) (x : Lease) (state : LeaseState) (now : Nat) : TtpClient :=
  let s' := { s with leases := s.leases.set l { x with state := state } }
  if state = .dropped then s'.dropLease x.slot now else s'

/-- `acquire_lease` for a call that has the tunnel `t`. -/
def acquireLease (s : TtpClient) (kind : Kind) (t : Nat) (slot : Slot) (e : TtpClientTunnelEntry)
    (now : Nat) : TtpClient :=
  { s with
    cache := s.cache.insert slot { e with leases := e.leases + 1, lastUsed := now }
    leases := s.leases ++ [⟨kind, t, slot, .opening⟩] }

/-- A step of the call `c`, which is `x`. -/
def run (s : TtpClient) (c : Nat) (x : Call) : Event → TtpClient
  | .find _ targets now found =>
    let r := s.releaseIdleTunnels targets now
    if x.phase = .looking ∧ r.Finds x.target found then
      match found.bind fun slot => (r.cache.lookup slot).map fun e => (slot, e) with
      | some (slot, e) =>
        { r with cache := r.cache.insert slot { e with lastUsed := now } }.setPhase c x
          (.chosen e.tunnel)
      | none => r.setPhase c x .creating
    else s
  | .created _ made =>
    if x.phase = .creating then
      match made with
      | some tunnel =>
        { s with tunnels := s.tunnels ++ [tunnel] }.setPhase c x (.attaching s.tunnels.length)
      | none => s.setPhase c x .done
    else s
  | .attached _ ok targets now =>
    match x.phase with
    | .attaching t =>
      match s.tunnels[t]? with
      | some tunnel =>
        if ok then (s.rememberTunnelEntry t tunnel targets now).setPhase c x (.chosen t)
        else s.setPhase c x .done
      | none => s
    | _ => s
  | .acquire _ now found =>
    match x.phase with
    | .chosen t =>
      if x.kind = .connect then s.setPhase c x .done
      else if s.Finds x.target found then
        match found.bind fun slot => (s.cache.lookup slot).map fun e => (slot, e) with
        | some (slot, e) =>
          (s.acquireLease x.kind t slot e now).setPhase c x .done
        | none => s.setPhase c x .done
      else s
    | _ => s
  | .cancel _ => s.setPhase c x .done
  | _ => s

def step (s : TtpClient) (ev : Event) : TtpClient :=
  match ev with
  | .call kind target => { s with calls := s.calls ++ [⟨kind, target, .looking⟩] }
  | .opened l ok now =>
    match s.leases[l]? with
    | some x =>
      if x.state = .opening then
        s.setLease l x (if ok then .held x.kind.moreHalves else .dropped) now
      else s
    | none => s
  | .dropHalf l now =>
    match s.leases[l]? with
    | some x =>
      match x.state with
      | .held (more + 1) => s.setLease l x (.held more) now
      | .held 0 => s.setLease l x .dropped now
      | _ => s
    | none => s
  | .rememberTunnel t targets now =>
    match s.tunnels[t]? with
    | some x => s.rememberTunnelEntry t x targets now
    | none => s
  | .refresh remoteId targets now =>
    { s with cache := s.cache.mapEntries fun slot e =>
        if slot.1 = remoteId then
          { e with maintained := s.isMaintained targets e.tunnel, lastUsed := now }
        else e }
  | .idle targets now => s.releaseIdleTunnels targets now
  | .turn t available =>
    { s with tunnels := s.tunnels.modify t fun x => { x with available := available } }
  | .find c .. | .created c _ | .attached c .. | .acquire c .. | .cancel c =>
    match s.calls[c]? with
    | some x => s.run c x ev
    | none => s

/-- The leases out of channels that were opened on the tunnel `t`. -/
def leasesOn (s : TtpClient) (t : Nat) : Nat :=
  s.leases.countP fun l => l.live && decide (l.tunnel = t)

/-- No lease is out that knows its entry by the slot of the tunnel `t`. -/
def Unleased (s : TtpClient) (t : Nat) : Prop :=
  ∀ x ∈ s.tunnels[t]?, ∀ l ∈ s.leases, l.live = true → l.slot ≠ x.slot

/-- The slot of a lease is that of the tunnel whose channel it is for. -/
def Tended (s : TtpClient) : Event → Prop
  | .attached c true _ _ => ∀ x ∈ s.calls[c]?, ∀ t, x.phase = .attaching t → s.Unleased t
  | .rememberTunnel t _ _ => s.Unleased t
  | .acquire c _ (some slot) => ∀ x ∈ s.calls[c]?, ∀ t, x.phase = .chosen t → x.kind ≠ .connect →
      s.Finds x.target (some slot) → ∀ e ∈ s.cache.lookup slot, e.tunnel = t
  | _ => True

instance (s : TtpClient) (t : Nat) : Decidable (s.Unleased t) := by
  unfold Unleased
  infer_instance

/-- What the leases in the cache are to be: those of the entry's own tunnel, and none of the leases
that are out finds none to give back. -/
structure Kept (s : TtpClient) : Prop where
  leases : ∀ slot e, s.cache.lookup slot = some e → e.leases = s.leasesOn e.tunnel
  some_left : ∀ l ∈ s.leases, l.live = true → ∀ e, s.cache.lookup l.slot = some e → 0 < e.leases

structure Accounted (s : TtpClient) : Prop where
  slot : ∀ slot e, s.cache.lookup slot = some e → ∃ x, s.tunnels[e.tunnel]? = some x ∧ x.slot = slot
  leases : ∀ slot e, s.cache.lookup slot = some e → e.leases = s.leasesOn e.tunnel
  home : ∀ l ∈ s.leases, l.live = true → ∃ x, s.tunnels[l.tunnel]? = some x ∧ x.slot = l.slot
  own : ∀ l ∈ s.leases, l.live = true → ∀ e, s.cache.lookup l.slot = some e → e.tunnel = l.tunnel

variable {s : TtpClient}

theorem accounted_init (idleTimeout : Nat) : (init idleTimeout).Accounted := by
  refine ⟨?_, ?_, ?_, ?_⟩
  · intro slot e h
    cases h
  · intro slot e h
    cases h
  · intro l hl
    cases hl
  · intro l hl
    cases hl

theorem Accounted.kept (h : s.Accounted) : s.Kept := by
  refine ⟨h.leases, fun l hl hlive e he => ?_⟩
  rw [h.leases l.slot e he, h.own l hl hlive e he]
  exact List.countP_pos_iff.mpr ⟨l, hl, by simp [hlive]⟩

/-- Entries that are dropped, or change in what is not counted, leave the others accounted. -/
theorem Accounted.frame (h : s.Accounted) {s' : TtpClient} (hleases : s'.leases = s.leases)
    (htunnels : ∀ (t : Nat) x, s.tunnels[t]? = some x →
      ∃ x', s'.tunnels[t]? = some x' ∧ x'.slot = x.slot)
    (hcache : ∀ slot e', s'.cache.lookup slot = some e' →
      ∃ e, s.cache.lookup slot = some e ∧ e'.tunnel = e.tunnel ∧ e'.leases = e.leases) :
    s'.Accounted := by
  have hon : ∀ t, s'.leasesOn t = s.leasesOn t := fun t => by rw [leasesOn, leasesOn, hleases]
  refine ⟨?_, ?_, ?_, ?_⟩
  · intro slot e' he'
    obtain ⟨e, he, htunnel, -⟩ := hcache slot e' he'
    obtain ⟨x, hx, hslot⟩ := h.slot slot e he
    obtain ⟨x', hx', hslot'⟩ := htunnels e.tunnel x hx
    exact ⟨x', by rw [htunnel]; exact hx', hslot'.trans hslot⟩
  · intro slot e' he'
    obtain ⟨e, he, htunnel, hn⟩ := hcache slot e' he'
    rw [hn, htunnel, hon]
    exact h.leases slot e he
  · intro l hl hlive
    obtain ⟨x, hx, hslot⟩ := h.home l (hleases ▸ hl) hlive
    obtain ⟨x', hx', hslot'⟩ := htunnels l.tunnel x hx
    exact ⟨x', hx', hslot'.trans hslot⟩
  · intro l hl hlive e' he'
    obtain ⟨e, he, htunnel, -⟩ := hcache l.slot e' he'
    rw [htunnel]
    exact h.own l (hleases ▸ hl) hlive e he

/-- Entries of one tunnel are one entry. -/
theorem Accounted.slot_eq (h : s.Accounted) {slot slot' : Slot} {e e' : TtpClientTunnelEntry}
    (he : s.cache.lookup slot = some e) (he' : s.cache.lookup slot' = some e')
    (ht : e.tunnel = e'.tunnel) : slot = slot' := by
  obtain ⟨x, hx, rfl⟩ := h.slot slot e he
  obtain ⟨x', hx', rfl⟩ := h.slot slot' e' he'
  rw [ht, hx'] at hx
  cases hx
  rfl

theorem Accounted.setPhase (h : s.Accounted) (c : Nat) (x : Call) (phase : Phase) :
    (s.setPhase c x phase).Accounted :=
  h.frame rfl (fun _ x hx => ⟨x, hx, rfl⟩) fun _ e he => ⟨e, he, rfl, rfl⟩

theorem lookup_releaseIdleTunnels {targets : List TtpTarget} {now : Nat} {slot : Slot}
    {e' : TtpClientTunnelEntry} :
    (s.releaseIdleTunnels targets now).cache.lookup slot = some e' ↔
      ∃ e, s.cache.lookup slot = some e ∧ s.keeps targets now e = true ∧
        e' = { e with maintained := s.isMaintained targets e.tunnel } := by
  rw [releaseIdleTunnels, Table.lookup_retain, Table.lookup_mapValues]
  constructor
  · rintro ⟨⟨e, he, rfl⟩, hkeep⟩
    exact ⟨e, he, hkeep, rfl⟩
  · rintro ⟨e, he, hkeep, rfl⟩
    exact ⟨⟨e, he, rfl⟩, hkeep⟩

theorem Accounted.releaseIdleTunnels (h : s.Accounted) (targets : List TtpTarget) (now : Nat) :
    (s.releaseIdleTunnels targets now).Accounted := by
  refine h.frame rfl (fun _ x hx => ⟨x, hx, rfl⟩) ?_
  intro slot e' he'
  obtain ⟨e, he, -, rfl⟩ := lookup_releaseIdleTunnels.mp he'
  exact ⟨e, he, rfl, rfl⟩

theorem Accounted.touch (h : s.Accounted) {slot : Slot} {e : TtpClientTunnelEntry}
    (he : s.cache.lookup slot = some e) (now : Nat) :
    { s with cache := s.cache.insert slot { e with lastUsed := now } }.Accounted := by
  refine h.frame rfl (fun _ x hx => ⟨x, hx, rfl⟩) ?_
  intro slot' e' he'
  dsimp only at he'
  rcases Table.lookup_insert_some.mp he' with ⟨rfl, rfl⟩ | ⟨hs, he'⟩
  · exact ⟨e, he, rfl, rfl⟩
  · exact ⟨e', he', rfl, rfl⟩

/-- A tunnel is remembered whose slot no lease knows. -/
theorem Accounted.remember (h : s.Accounted) {t : Nat} {x : Tunnel} (hx : s.tunnels[t]? = some x)
    (hfree : s.Unleased t) (targets : List TtpTarget) (now : Nat) :
    (s.rememberTunnelEntry t x targets now).Accounted := by
  have hr := h.releaseIdleTunnels targets now
  have hnone : s.leasesOn t = 0 := by
    refine List.countP_eq_zero.mpr fun l hl hon => ?_
    simp only [Bool.and_eq_true, decide_eq_true_eq] at hon
    obtain ⟨x', hx', hslot⟩ := h.home l hl hon.1
    rw [hon.2, hx] at hx'
    cases hx'
    exact hfree x hx l hl hon.1 hslot.symm
  refine ⟨?_, ?_, hr.home, ?_⟩
  · intro slot e he
    by_cases hs : slot = x.slot
    · subst hs
      cases (AList.lookup_insert _).symm.trans he
      exact ⟨x, hx, rfl⟩
    · exact hr.slot slot e ((AList.lookup_insert_ne hs).symm.trans he)
  · intro slot e he
    by_cases hs : slot = x.slot
    · subst hs
      cases (AList.lookup_insert _).symm.trans he
      exact hnone.symm
    · exact hr.leases slot e ((AList.lookup_insert_ne hs).symm.trans he)
  · intro l hl hlive e he
    have hs : l.slot ≠ x.slot := hfree x hx l hl hlive
    exact hr.own l hl hlive e ((AList.lookup_insert_ne hs).symm.trans he)

/-- A lease is acquired on the entry of the tunnel that the call has. -/
theorem Accounted.acquire (h : s.Accounted) {slot : Slot} {e : TtpClientTunnelEntry}
    (he : s.cache.lookup slot = some e) (kind : Kind) (now : Nat) :
    (s.acquireLease kind e.tunnel slot e now).Accounted := by
  have hon : ∀ t, (s.acquireLease kind e.tunnel slot e now).leasesOn t =
      s.leasesOn t + if e.tunnel = t then 1 else 0 := by
    intro t
    rw [leasesOn, leasesOn, acquireLease, List.countP_append, List.countP_singleton]
    simp [Lease.live]
  refine ⟨?_, ?_, ?_, ?_⟩
  · intro slot' e' he'
    by_cases hs : slot' = slot
    · subst hs
      cases (AList.lookup_insert _).symm.trans he'
      exact h.slot slot' e he
    · exact h.slot slot' e' ((AList.lookup_insert_ne hs).symm.trans he')
  · intro slot' e' he'
    rw [hon]
    by_cases hs : slot' = slot
    · subst hs
      cases (AList.lookup_insert _).symm.trans he'
      rw [if_pos rfl, ← h.leases slot' e he]
    · have hold := (AList.lookup_insert_ne hs).symm.trans he'
      rw [if_neg fun ht => hs (h.slot_eq hold he ht.symm), Nat.add_zero]
      exact h.leases slot' e' hold
  · intro l hl hlive
    rcases List.mem_append.mp hl with hl | hl
    · exact h.home l hl hlive
    · cases List.mem_singleton.mp hl
      exact h.slot slot e he
  · intro l hl hlive e' he'
    by_cases hs : l.slot = slot
    · rw [hs] at he'
      cases (AList.lookup_insert _).symm.trans he'
      rcases List.mem_append.mp hl with hl | hl
      · exact h.own l hl hlive e (by rw [hs]; exact he)
      · cases List.mem_singleton.mp hl
        rfl
    · rcases List.mem_append.mp hl with hl | hl
      · exact h.own l hl hlive e' ((AList.lookup_insert_ne hs).symm.trans he')
      · cases List.mem_singleton.mp hl
        exact absurd rfl hs

theorem leasesOn_set {l : Nat} {x y : Lease} (hx : s.leases[l]? = some x) (ht : y.tunnel = x.tunnel)
    {u : TtpClient} (hu : u.leases = s.leases.set l y) (t : Nat) :
    u.leasesOn t + (if x.live ∧ x.tunnel = t then 1 else 0) =
      s.leasesOn t + if y.live ∧ x.tunnel = t then 1 else 0 := by
  have hset := countP_set_add (fun l => l.live && decide (l.tunnel = t)) y hx
  simpa only [leasesOn, hu, ht, Bool.and_eq_true, decide_eq_true_eq] using hset

/-- A lease goes from one state to another in which it is out as before. -/
theorem Accounted.keepLease (h : s.Accounted) {l : Nat} {x : Lease} (hx : s.leases[l]? = some x)
    (hlive : x.live = true) {state : LeaseState} (hstate : state ≠ .dropped) (now : Nat) :
    (s.setLease l x state now).Accounted := by
  rw [setLease, if_neg hstate]
  have hlive' : ({ x with state := state } : Lease).live = true := by simp [Lease.live, hstate]
  have hmem : ∀ l' ∈ s.leases.set l { x with state := state },
      l' = { x with state := state } ∨ l' ∈ s.leases := fun l' hl' =>
    (List.mem_or_eq_of_mem_set hl').symm
  refine ⟨h.slot, ?_, ?_, ?_⟩
  · intro slot e he
    have hcount := leasesOn_set (y := { x with state := state }) hx rfl
      (u := { s with leases := s.leases.set l { x with state := state } }) rfl e.tunnel
    rw [hlive, hlive', Nat.add_right_cancel_iff] at hcount
    rw [hcount]
    exact h.leases slot e he
  · intro l' hl' hl'live
    rcases hmem l' hl' with rfl | hold
    · exact h.home x (List.mem_of_getElem? hx) hlive
    · exact h.home l' hold hl'live
  · intro l' hl' hl'live e he
    rcases hmem l' hl' with rfl | hold
    · exact h.own x (List.mem_of_getElem? hx) hlive e he
    · exact h.own l' hold hl'live e he

/-- A lease that is out is dropped, and takes one from the entry of its own tunnel. -/
theorem Accounted.dropsLease (h : s.Accounted) {l : Nat} {x : Lease} (hx : s.leases[l]? = some x)
    (hlive : x.live = true) (now : Nat) : (s.setLease l x .dropped now).Accounted := by
  rw [setLease, if_pos rfl]
  have hmem : ∀ l' ∈ s.leases.set l { x with state := .dropped }, l'.live = true → l' ∈ s.leases := by
    intro l' hl' hl'live
    rcases List.mem_or_eq_of_mem_set hl' with hold | rfl
    · exact hold
    · simp [Lease.live] at hl'live
  have hcount : ∀ t, TtpClient.leasesOn { s with leases := s.leases.set l { x with state := .dropped } } t
      + (if x.tunnel = t then 1 else 0) = s.leasesOn t := by
    intro t
    have hset := leasesOn_set (y := { x with state := .dropped }) hx rfl
      (u := { s with leases := s.leases.set l { x with state := .dropped } }) rfl t
    have hout : x.state ≠ .dropped := of_decide_eq_true hlive
    simpa [hout, Lease.live] using hset
  unfold dropLease
  dsimp only
  cases he : s.cache.lookup x.slot with
  | none =>
    refine ⟨h.slot, ?_, fun l' hl' hl'live => h.home l' (hmem l' hl' hl'live) hl'live,
      fun l' hl' hl'live => h.own l' (hmem l' hl' hl'live) hl'live⟩
    intro slot e he'
    have hne : x.tunnel ≠ e.tunnel := by
      intro ht
      obtain ⟨y, hy, hslot⟩ := h.slot slot e he'
      obtain ⟨z, hz, hhome⟩ := h.home x (List.mem_of_getElem? hx) hlive
      rw [ht, hy] at hz
      cases hz
      rw [← hhome, hslot, he'] at he
      cases he
    have hsame := hcount e.tunnel
    rw [if_neg hne, Nat.add_zero] at hsame
    rw [hsame]
    exact h.leases slot e he'
  | some e =>
    dsimp only
    have hown := h.own x (List.mem_of_getElem? hx) hlive e he
    refine ⟨?_, ?_, fun l' hl' hl'live => h.home l' (hmem l' hl' hl'live) hl'live, ?_⟩
    · intro slot e' he'
      by_cases hs : slot = x.slot
      · subst hs
        cases (AList.lookup_insert _).symm.trans he'
        exact h.slot x.slot e he
      · exact h.slot slot e' ((AList.lookup_insert_ne hs).symm.trans he')
    · intro slot e' he'
      by_cases hs : slot = x.slot
      · subst hs
        cases (AList.lookup_insert _).symm.trans he'
        have hone := hcount e.tunnel
        rw [if_pos hown.symm, ← h.leases x.slot e he] at hone
        dsimp only
        exact (Nat.sub_eq_of_eq_add hone.symm)
      · have hold := (AList.lookup_insert_ne hs).symm.trans he'
        have hsame := hcount e'.tunnel
        rw [if_neg fun ht => hs (h.slot_eq hold he (hown.trans ht).symm), Nat.add_zero] at hsame
        exact (h.leases slot e' hold).trans hsame.symm
    · intro l' hl' hl'live e' he'
      by_cases hs : l'.slot = x.slot
      · rw [hs] at he'
        cases (AList.lookup_insert _).symm.trans he'
        exact h.own l' (hmem l' hl' hl'live) hl'live e (by rw [hs]; exact he)
      · exact h.own l' (hmem l' hl' hl'live) hl'live e' ((AList.lookup_insert_ne hs).symm.trans he')

theorem Accounted.run (h : s.Accounted) {c : Nat} {x : Call} (hx : s.calls[c]? = some x) {ev : Event}
    (htended : s.Tended ev) (hev : ∀ c', ev.caller? = some c' → c' = c) : (s.run c x ev).Accounted := by
  cases ev with
  | find c' targets now found =>
    simp only [TtpClient.run]
    split_ifs with hfind
    · have hr := h.releaseIdleTunnels targets now
      cases hf : found.bind fun slot =>
          ((s.releaseIdleTunnels targets now).cache.lookup slot).map fun e => (slot, e) with
      | none => exact hr.setPhase c x .creating
      | some y =>
        obtain ⟨slot, -, hslot⟩ := Option.bind_eq_some_iff.mp hf
        obtain ⟨e, he, rfl⟩ := Option.map_eq_some_iff.mp hslot
        exact (hr.touch he now).setPhase c x (.chosen e.tunnel)
    · exact h
  | created c' made =>
    simp only [TtpClient.run]
    split_ifs with hp
    · cases made with
      | none => exact h.setPhase c x .done
      | some tunnel =>
        refine Accounted.setPhase ?_ c x (.attaching s.tunnels.length)
        exact h.frame rfl (fun t y hy => ⟨y, getElem?_append_of_eq_some hy, rfl⟩)
          fun _ e he => ⟨e, he, rfl, rfl⟩
    · exact h
  | attached c' ok targets now =>
    cases hev c' rfl
    simp only [TtpClient.run]
    split
    · rename_i t hp
      cases ht : s.tunnels[t]? with
      | none => exact h
      | some tunnel =>
        dsimp only
        cases ok with
        | false => exact h.setPhase c x .done
        | true => exact (h.remember ht (htended x hx t hp) targets now).setPhase c x (.chosen t)
    · exact h
  | acquire c' now found =>
    cases hev c' rfl
    simp only [TtpClient.run]
    split
    · rename_i t hp
      split_ifs with hkind hfind
      · exact h.setPhase c x .done
      · cases found with
        | none => exact h.setPhase c x .done
        | some slot =>
          obtain ⟨-, e, he, -⟩ := id hfind
          have hown := htended x hx t hp hkind hfind e he
          rw [Option.bind_some, Option.mem_def.mp he]
          subst hown
          exact (h.acquire he x.kind now).setPhase c x .done
      · exact h
    · exact h
  | cancel c' => exact h.setPhase c x .done
  | _ => exact h

theorem Accounted.step (h : s.Accounted) {ev : Event} (htended : s.Tended ev) :
    (s.step ev).Accounted := by
  have hcall : ∀ c, ev.caller? = some c → (match s.calls[c]? with
      | some x => s.run c x ev
      | none => s).Accounted := by
    intro c hc
    cases hx : s.calls[c]? with
    | none => exact h
    | some x => exact h.run hx htended fun c' hc' => Option.some.inj (hc'.symm.trans hc)
  cases ev with
  | call kind target => exact h.frame rfl (fun _ x hx => ⟨x, hx, rfl⟩) fun _ e he => ⟨e, he, rfl, rfl⟩
  | find c targets now found => exact hcall c rfl
  | created c made => exact hcall c rfl
  | attached c ok targets now => exact hcall c rfl
  | acquire c now found => exact hcall c rfl
  | cancel c => exact hcall c rfl
  | opened l ok now =>
    simp only [TtpClient.step]
    cases hx : s.leases[l]? with
    | none => exact h
    | some x =>
      dsimp only
      split_ifs with hp hok
      · exact h.keepLease hx (by simp [Lease.live, hp]) (by simp) now
      · exact h.dropsLease hx (by simp [Lease.live, hp]) now
      · exact h
  | dropHalf l now =>
    simp only [TtpClient.step]
    cases hx : s.leases[l]? with
    | none => exact h
    | some x =>
      dsimp only
      split
      · rename_i more hp
        exact h.keepLease hx (by simp [Lease.live, hp]) (by simp) now
      · rename_i hp
        exact h.dropsLease hx (by simp [Lease.live, hp]) now
      · exact h
  | rememberTunnel t targets now =>
    simp only [TtpClient.step]
    cases hx : s.tunnels[t]? with
    | none => exact h
    | some x => exact h.remember hx htended targets now
  | refresh remoteId targets now =>
    refine h.frame rfl (fun _ x hx => ⟨x, hx, rfl⟩) ?_
    intro slot e' he'
    obtain ⟨e, he, rfl⟩ := Table.lookup_mapEntries.mp he'
    refine ⟨e, he, ?_⟩
    split_ifs
    · exact ⟨rfl, rfl⟩
    · exact ⟨rfl, rfl⟩
  | idle targets now => exact h.releaseIdleTunnels targets now
  | turn t available =>
    refine h.frame rfl ?_ fun _ e he => ⟨e, he, rfl, rfl⟩
    intro t' x hx
    by_cases ht : t' = t
    · subst ht
      exact ⟨_, getElem?_modify_of_eq_some hx, rfl⟩
    · exact ⟨x, (getElem?_modify_of_ne ht).trans hx, rfl⟩

/-- A tunnel that is remembered while a lease of its slot is out leaves that lease none to give
back. -/
theorem remember_lost {t : Nat} {x : Tunnel} (hx : s.tunnels[t]? = some x) (hout : ¬s.Unleased t)
    (targets : List TtpTarget) (now : Nat) : ¬(s.rememberTunnelEntry t x targets now).Kept := by
  intro hk
  refine hout fun y hy l hl hlive hslot => ?_
  cases hx.symm.trans hy
  have hpos := hk.some_left l hl hlive ⟨t, s.isMaintained targets t, now, 0⟩
    (by rw [hslot]; exact AList.lookup_insert _)
  exact absurd hpos (lt_irrefl 0)

/-- A lease that is acquired on the entry of another tunnel is one too many there. -/
theorem Accounted.acquire_lost (h : s.Accounted) {slot : Slot} {e : TtpClientTunnelEntry}
    (he : s.cache.lookup slot = some e) {t : Nat} (ht : e.tunnel ≠ t) (kind : Kind) (now : Nat) :
    ¬(s.acquireLease kind t slot e now).Kept := by
  intro hk
  have hmore := hk.leases slot { e with leases := e.leases + 1, lastUsed := now }
    (AList.lookup_insert _)
  have hsame : (s.acquireLease kind t slot e now).leasesOn e.tunnel = s.leasesOn e.tunnel := by
    rw [leasesOn, leasesOn, acquireLease, List.countP_append, List.countP_singleton]
    simp [ht.symm]
  rw [hsame, ← h.leases slot e he] at hmore
  exact absurd hmore (Nat.succ_ne_self _)

theorem Accounted.lost (h : s.Accounted) {ev : Event} (hno : ¬s.Tended ev) : ¬(s.step ev).Kept := by
  cases ev with
  | rememberTunnel t targets now =>
    cases hx : s.tunnels[t]? with
    | none => exact absurd (fun x hmem => by rw [hx] at hmem; cases hmem) hno
    | some x =>
      simp only [TtpClient.step, hx]
      exact remember_lost hx hno targets now
  | attached c ok targets now =>
    cases ok with
    | false => exact absurd trivial hno
    | true =>
      simp only [Tended, Option.mem_def, not_forall] at hno
      obtain ⟨x, hx, t, hp, hout⟩ := hno
      cases ht : s.tunnels[t]? with
      | none => exact absurd (fun y hmem => by rw [ht] at hmem; cases hmem) hout
      | some y =>
        simp only [TtpClient.step, hx, TtpClient.run, hp, ht]
        intro hk
        exact remember_lost ht hout targets now ⟨hk.leases, hk.some_left⟩
  | acquire c now found =>
    cases found with
    | none => exact absurd trivial hno
    | some slot =>
      simp only [Tended, Option.mem_def, not_forall] at hno
      obtain ⟨x, hx, t, hp, hkind, hfind, e, he, hother⟩ := hno
      simp only [TtpClient.step, hx, TtpClient.run, hp, if_neg hkind, if_pos hfind, Option.bind_some,
        he, Option.map_some]
      intro hk
      exact h.acquire_lost he hother x.kind now ⟨hk.leases, hk.some_left⟩
  | call _ _ | find _ _ _ _ | created _ _ | cancel _ | opened _ _ _ | dropHalf _ _ | refresh _ _ _
    | idle _ _ | turn _ _ => exact absurd trivial hno

/-- An entry of an available tunnel is released if and only if the tunnel is not maintained, no
channel of it is left, and the idle timeout has passed. -/
def ReleasesIdle (s : TtpClient) : Prop :=
  ∀ slot e, s.cache.lookup slot = some e → s.isAvailable e.tunnel = true → ∀ targets now,
    (s.releaseIdleTunnels targets now).cache.lookup slot = none ↔
      s.isMaintained targets e.tunnel = false ∧ s.leasesOn e.tunnel = 0 ∧
        s.idleTimeout ≤ now - e.lastUsed

theorem Kept.releasesIdle (h : s.Kept) : s.ReleasesIdle := by
  intro slot e he havail targets now
  have hnone : (s.releaseIdleTunnels targets now).cache.lookup slot = none ↔
      s.keeps targets now e = false := by
    rw [Option.eq_none_iff_forall_ne_some]
    constructor
    · intro hall
      by_contra hkeep
      exact hall _ (lookup_releaseIdleTunnels.mpr ⟨e, he, Bool.eq_true_of_not_eq_false hkeep, rfl⟩)
    · intro hdrop e' he'
      obtain ⟨e'', he'', hkeep, -⟩ := lookup_releaseIdleTunnels.mp he'
      cases he.symm.trans he''
      rw [hdrop] at hkeep
      cases hkeep
  rw [hnone, keeps, havail, ← h.leases slot e he]
  simp [and_assoc]

/-- In every state of a run the leases are those of the entry's own tunnel, none is given back twice
and the idle tunnels are released, if and only if every step of the run is `Tended`. -/
theorem leases_kept (idleTimeout : Nat) (evs : List Event) :
    (∀ pre, pre <+: evs → (exec step (init idleTimeout) pre).Kept ∧
      (exec step (init idleTimeout) pre).ReleasesIdle) ↔
        Along step Tended (init idleTimeout) evs :=
  (along_iff (P := fun s : TtpClient => s.Kept ∧ s.ReleasesIdle) (fun _ _ h hi => h.step hi)
    (fun _ h => ⟨h.kept, h.kept.releasesIdle⟩) (fun _ _ h hno hk => h.lost hno hk.1)
    (accounted_init idleTimeout) evs).symm

/-- The server at 1.2.3.4, and a tunnel to it from the local port `port`. -/
def server : Endpoint := ⟨.wan, .quic, .v4 ⟨1, 2, 3, 4⟩ 80⟩

def tunnelFrom (port : U16) : Tunnel :=
  ⟨[1], some ⟨.lan, .quic, .v4 ⟨10, 0, 0, 1⟩ port⟩, some server, true⟩

/-- Two calls find no tunnel, and each one makes its own. -/
def openers (x y : Tunnel) (found : Slot) : List Event :=
  [.call .stream ⟨none, server, [1]⟩, .call .stream ⟨none, server, [1]⟩, .find 0 [] 0 none,
    .find 1 [] 0 none, .created 0 (some x), .created 1 (some y), .attached 0 true [] 0,
    .acquire 0 0 (some x.slot), .opened 0 true 0, .attached 1 true [] 0, .acquire 1 0 (some found),
    .opened 1 true 0]

/-- Tunnels of one slot, and the first call drops its channel; tunnels of two slots, and the second
call finds the entry of the first one. -/
def replaced : List Event :=
  openers (tunnelFrom 5) (tunnelFrom 5) (tunnelFrom 5).slot ++ [.dropHalf 0 1, .dropHalf 0 1]

def crossed : List Event := openers (tunnelFrom 5) (tunnelFrom 6) (tunnelFrom 5).slot

/-- The channel of the second call is open and its tunnel is available, its entry has no lease, and
it is released as idle. -/
theorem leases_lost :
    ((exec step (init 300) replaced).leasesOn 1 = 1 ∧
      (exec step (init 300) replaced).cache.lookup (tunnelFrom 5).slot = some ⟨1, false, 1, 0⟩ ∧
      (exec step (init 300) replaced).isAvailable 1 = true ∧
      (exec step (init 300) (replaced ++ [.idle [] 301])).cache.lookup (tunnelFrom 5).slot = none) ∧
    (exec step (init 300) crossed).leasesOn 1 = 1 ∧
      (exec step (init 300) crossed).cache.lookup (tunnelFrom 6).slot = some ⟨1, false, 0, 0⟩ ∧
      (exec step (init 300) crossed).isAvailable 1 = true ∧
      (exec step (init 300) (crossed ++ [.idle [] 300])).cache.lookup (tunnelFrom 6).slot = none := by
  decide +kernel

end TtpClient

end BuckyP2p.Ttp
