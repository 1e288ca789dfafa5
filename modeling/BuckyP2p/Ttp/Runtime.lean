import BuckyP2p.Ttp.Client

/-!
# BuckyP2p.Ttp.Runtime — incoming tunnels of `RuntimeCore` (`ttp/runtime/handle.rs`)

`accept_incoming_tunnel` validates and attaches a tunnel and puts it into the cache; lookups find
it there.  Both first drop every tunnel from the cache that is not available at that moment.

* A tunnel has the number with which it came; `state` is what it says of itself.  A passive TCP
  tunnel is `connecting` until its first command comes.
* The slots are those of `TtpClient`: the remote id with the key.
* `latest` is not in the code: the tunnel that was accepted last under a slot.
-/

namespace BuckyP2p.Ttp

open Lib

inductive TunnelState
  | connecting | connected | closed | error
  deriving DecidableEq

structure IncomingTunnel where
  remoteId : P2pId
  localEp : Option Endpoint
  remoteEp : Option Endpoint
  state : TunnelState
  isClosed : Bool
  deriving DecidableEq

namespace IncomingTunnel

/-- `is_tunnel_available`. -/
def isAvailable (x : IncomingTunnel) : Bool := !x.isClosed && decide (x.state = .connected)

/-- What `match_target` and the keys read of it. -/
def toTunnel (x : IncomingTunnel) : Tunnel := ⟨x.remoteId, x.localEp, x.remoteEp, x.isAvailable⟩

def slot (x : IncomingTunnel) : Slot := x.toTunnel.slot

/-- `promote_connected`. -/
def promote (x : IncomingTunnel) : IncomingTunnel :=
  if x.state = .connecting then { x with state := .connected } else x

/-- The tunnel is closed, or fails. -/
def close (failed : Bool) (x : IncomingTunnel) : IncomingTunnel :=
  if x.isClosed then x else { x with state := if failed then .error else .closed, isClosed := true }

end IncomingTunnel

/-- Where `accept_incoming_tunnel` stands. -/
inductive AcceptPhase
  | validating
  | attaching
  | done
  deriving DecidableEq

structure RuntimeCore where
  tunnels : List IncomingTunnel
  /-- The call for the tunnel with that number. -/
  accepts : List AcceptPhase
  cache : Table Slot Nat
  latest : Slot → Option Nat

inductive RuntimeEvent
  /-- A tunnel comes; `connected` is that of a QUIC tunnel. -/
  | accept (remoteId : P2pId) (localEp remoteEp : Option Endpoint) (connected : Bool)
  /-- The validator accepts the tunnel, or does not. -/
  | validated (t : Nat) (accepted : Bool)
  /-- `attach_tunnel` returns. -/
  | attached (t : Nat) (ok : Bool)
  | findExistingTunnel (target : TtpTarget)
  | promote (t : Nat)
  | close (t : Nat) (failed : Bool)

namespace RuntimeCore

def new : RuntimeCore := ⟨[], [], ∅, fun _ => none⟩

def isAvailable (s : RuntimeCore) (t : Nat) : Bool :=
  match s.tunnels[t]? with
  | some x => x.isAvailable
  | none => false

def meets (s : RuntimeCore) (t : Nat) (target : TtpTarget) : Bool :=
  match s.tunnels[t]? with
  | some x => matchTarget x.toTunnel target
  | none => false

/-- `retain` over all entries. -/
def prune (s : RuntimeCore) : RuntimeCore :=
  { s with cache := s.cache.retain fun _ t => s.isAvailable t }

/-- `remember_tunnel_in_multi` of the tunnel `t`, which is `x`. -/
def rememberTunnel (s : RuntimeCore) (t : Nat) (x : IncomingTunnel) : RuntimeCore :=
  { s.prune with
    cache := s.prune.cache.insert x.slot t
    latest := Function.update s.latest x.slot (some t) }

/-- What the second part of `find_existing_tunnel_in_multi` may return; the order in which it sees
the entries is that of a `HashMap`. -/
def Finds (s : RuntimeCore) (target : TtpTarget) : Option Nat → Prop
  | some t => ∃ slot : Slot, slot.1 = target.remoteId ∧ s.cache.lookup slot = some t ∧
      s.meets t target = true
  | none => ∀ slot t, slot.1 = target.remoteId → s.cache.lookup slot = some t →
      s.meets t target = false

def setTunnel (s : RuntimeCore) (t : Nat) (f : IncomingTunnel → IncomingTunnel) : RuntimeCore :=
  { s with tunnels := s.tunnels.modify t f }

def step (s : RuntimeCore) : RuntimeEvent → RuntimeCore
  | .accept remoteId localEp remoteEp connected =>
    { s with
      tunnels := s.tunnels ++
        [⟨remoteId, localEp, remoteEp, if connected then .connected else .connecting, false⟩]
      accepts := s.accepts ++ [.validating] }
  | .validated t accepted =>
    if s.accepts[t]? = some .validating then
      if accepted then { s with accepts := s.accepts.set t .attaching }
      else { s.setTunnel t (.close false) with accepts := s.accepts.set t .done }
    else s
  | .attached t ok =>
    match s.tunnels[t]? with
    | some x =>
      if s.accepts[t]? = some .attaching then
        -- a tunnel that cannot be attached is closed by `attach_tunnel`
        if ok then { s.rememberTunnel t x with accepts := s.accepts.set t .done }
        else { s.setTunnel t (.close false) with accepts := s.accepts.set t .done }
      else s
    | none => s
  | .findExistingTunnel _ => s.prune
  | .promote t => s.setTunnel t .promote
  | .close t failed => s.setTunnel t (.close failed)

/-- No tunnel in the cache is about to become available. -/
def Ready (s : RuntimeCore) : Prop :=
  ∀ slot t, s.cache.lookup slot = some t → ∀ x ∈ s.tunnels[t]?, x.isClosed = false →
    x.state = .connected

/-- The step prunes only when all open tunnels in the cache are connected. -/
def Timely (s : RuntimeCore) : RuntimeEvent → Prop
  | .attached t true => s.accepts[t]? = some .attaching → s.Ready
  | .findExistingTunnel _ => s.Ready
  | _ => True

/-- The tunnel that was accepted last under a slot is there until it is closed. -/
structure Kept (s : RuntimeCore) : Prop where
  slot : ∀ slot t, s.latest slot = some t → ∃ x, s.tunnels[t]? = some x ∧ x.slot = slot
  cached : ∀ slot t, s.latest slot = some t → ∀ x ∈ s.tunnels[t]?, x.isClosed = false →
    s.cache.lookup slot = some t
  entry : ∀ slot t, s.cache.lookup slot = some t → ∃ x, s.tunnels[t]? = some x ∧ x.slot = slot

variable {s : RuntimeCore}

theorem kept_new : Kept .new := by
  refine ⟨?_, ?_, ?_⟩
  · rintro slot t ⟨⟩
  · rintro slot t ⟨⟩
  · rintro slot t ⟨⟩

theorem lookup_prune {slot : Slot} {t : Nat} :
    s.prune.cache.lookup slot = some t ↔ s.cache.lookup slot = some t ∧ s.isAvailable t = true :=
  Table.lookup_retain

/-- When the open tunnels in the cache are connected, only closed ones are dropped. -/
theorem Kept.prune (h : s.Kept) (hready : s.Ready) : s.prune.Kept where
  slot := h.slot
  cached slot t hlatest x hx hopen := by
    have hcached := h.cached slot t hlatest x hx hopen
    refine lookup_prune.mpr ⟨hcached, ?_⟩
    have hstate := hready slot t hcached x hx hopen
    have hx' : s.tunnels[t]? = some x := hx
    simp [isAvailable, hx', IncomingTunnel.isAvailable, hopen, hstate]
  entry slot t hentry := h.entry slot t (lookup_prune.mp hentry).1

theorem Kept.rememberTunnel (h : s.Kept) (hready : s.Ready) {t : Nat} {x : IncomingTunnel}
    (hx : s.tunnels[t]? = some x) : (s.rememberTunnel t x).Kept := by
  have hpruned := h.prune hready
  refine ⟨?_, ?_, ?_⟩
  · intro slot t' hlatest
    change Function.update s.latest x.slot (some t) slot = some t' at hlatest
    by_cases hslot : slot = x.slot
    · subst hslot
      rw [Function.update_self] at hlatest
      cases hlatest
      exact ⟨x, hx, rfl⟩
    · rw [Function.update_of_ne hslot] at hlatest
      exact h.slot slot t' hlatest
  · intro slot t' hlatest x' hx' hopen
    change Function.update s.latest x.slot (some t) slot = some t' at hlatest
    show (s.prune.cache.insert x.slot t).lookup slot = some t'
    by_cases hslot : slot = x.slot
    · subst hslot
      rw [Function.update_self] at hlatest
      rw [AList.lookup_insert, hlatest]
    · rw [Function.update_of_ne hslot] at hlatest
      rw [AList.lookup_insert_ne hslot]
      exact hpruned.cached slot t' hlatest x' hx' hopen
  · intro slot t' hentry
    change (s.prune.cache.insert x.slot t).lookup slot = some t' at hentry
    rcases Table.lookup_insert_some.mp hentry with ⟨rfl, rfl⟩ | ⟨hslot, hentry⟩
    · exact ⟨x, hx, rfl⟩
    · exact hpruned.entry slot t' hentry

/-- A tunnel keeps its slot, and is not opened again. -/
structure Ages (x x' : IncomingTunnel) : Prop where
  slot : x'.slot = x.slot
  isClosed : x'.isClosed = false → x.isClosed = false

theorem ages_promote (x : IncomingTunnel) : Ages x x.promote := by
  unfold IncomingTunnel.promote
  split_ifs
  · exact ⟨rfl, id⟩
  · exact ⟨rfl, id⟩

theorem ages_close (failed : Bool) (x : IncomingTunnel) : Ages x (x.close failed) := by
  unfold IncomingTunnel.close
  split_ifs with hclosed
  · exact ⟨rfl, id⟩
  · exact ⟨rfl, by rintro ⟨⟩⟩
  · exact ⟨rfl, by rintro ⟨⟩⟩

/-- Tunnels age, or come. -/
theorem Kept.frame (h : s.Kept) {s' : RuntimeCore} (hcache : s'.cache = s.cache)
    (hlatest : s'.latest = s.latest)
    (htunnels : ∀ (t : Nat) x, s.tunnels[t]? = some x →
      ∃ x', s'.tunnels[t]? = some x' ∧ Ages x x') : s'.Kept where
  slot slot t ht := by
    obtain ⟨x, hx, hslot⟩ := h.slot slot t (hlatest ▸ ht)
    obtain ⟨x', hx', hages⟩ := htunnels t x hx
    exact ⟨x', hx', hages.slot.trans hslot⟩
  cached slot t ht x' hx' hopen := by
    obtain ⟨x, hx, -⟩ := h.slot slot t (hlatest ▸ ht)
    obtain ⟨x'', hx'', hages⟩ := htunnels t x hx
    cases hx''.symm.trans hx'
    rw [hcache]
    exact h.cached slot t (hlatest ▸ ht) x hx (hages.isClosed hopen)
  entry slot t ht := by
    obtain ⟨x, hx, hslot⟩ := h.entry slot t (hcache ▸ ht)
    obtain ⟨x', hx', hages⟩ := htunnels t x hx
    exact ⟨x', hx', hages.slot.trans hslot⟩

theorem Kept.setTunnel (h : s.Kept) (t : Nat) {f : IncomingTunnel → IncomingTunnel}
    (hf : ∀ x, Ages x (f x)) : (s.setTunnel t f).Kept := by
  refine h.frame rfl rfl fun t' x hx => ?_
  by_cases ht : t = t'
  · subst ht
    exact ⟨f x, by simp [RuntimeCore.setTunnel, hx], hf x⟩
  · exact ⟨x, by simp [RuntimeCore.setTunnel, ht, hx], rfl, id⟩

theorem Kept.step (h : s.Kept) {ev : RuntimeEvent} (htimely : s.Timely ev) : (s.step ev).Kept := by
  cases ev with
  | accept remoteId localEp remoteEp connected =>
    refine h.frame rfl rfl fun t x hx => ⟨x, ?_, rfl, id⟩
    have hlt := (List.getElem?_eq_some_iff.mp hx).1
    exact (List.getElem?_append_left hlt).trans hx
  | validated t accepted =>
    unfold RuntimeCore.step
    dsimp only
    split_ifs
    · exact h.frame rfl rfl fun t x hx => ⟨x, hx, rfl, id⟩
    · exact (h.setTunnel t (ages_close false)).frame rfl rfl fun t x hx => ⟨x, hx, rfl, id⟩
    · exact h
  | attached t ok =>
    unfold RuntimeCore.step
    dsimp only
    split
    · rename_i x hx
      split_ifs with hphase hok
      · subst hok
        exact (h.rememberTunnel (htimely hphase) hx).frame rfl rfl fun t x hx => ⟨x, hx, rfl, id⟩
      · exact (h.setTunnel t (ages_close false)).frame rfl rfl fun t x hx => ⟨x, hx, rfl, id⟩
      · exact h
    · exact h
  | findExistingTunnel target => exact h.prune htimely
  | promote t => exact h.setTunnel t ages_promote
  | close t failed => exact h.setTunnel t (ages_close failed)

/-- A target that names a peer, no local endpoint and the default remote endpoint fits all tunnels
to that peer. -/
theorem matchTarget_default (x : Tunnel) (target : TtpTarget) (hid : target.remoteId = x.remoteId)
    (hlocal : target.localEp = none) (hremote : target.remoteEp = .default) :
    matchTarget x target = true := by
  simp [matchTarget, hid, hlocal, hremote, Endpoint.eq]

/-- In a run in which nothing is pruned while an open tunnel in the cache is not connected yet, a
tunnel that was accepted last under its slot and is connected and not closed is reachable: a lookup
for its peer returns a tunnel to that peer. -/
theorem accepted_found (evs : List RuntimeEvent) (htimely : Along step Timely .new evs) {t : Nat}
    {x : IncomingTunnel} (hx : (exec step .new evs).tunnels[t]? = some x)
    (hlatest : (exec step .new evs).latest x.slot = some t) (hstate : x.state = .connected)
    (hopen : x.isClosed = false) {target : TtpTarget} (hid : target.remoteId = x.remoteId)
    (hlocal : target.localEp = none) (hremote : target.remoteEp = .default) {found : Option Nat}
    (hfound : (exec step .new evs).prune.Finds target found) :
    ∃ t' x', found = some t' ∧ (exec step .new evs).tunnels[t']? = some x' ∧
      x'.remoteId = x.remoteId ∧ x'.isAvailable = true := by
  have hkept : (exec step .new evs).Kept :=
    exec_inv (fun s ev h hev => h.step hev) kept_new htimely
  generalize exec step .new evs = s at hx hlatest hfound hkept ⊢
  have havailable : s.isAvailable t = true := by
    simp [isAvailable, hx, IncomingTunnel.isAvailable, hstate, hopen]
  have hcached := lookup_prune.mpr ⟨hkept.cached x.slot t hlatest x hx hopen, havailable⟩
  cases found with
  | none =>
    have hmiss := hfound x.slot t hid.symm hcached
    have hmeets : s.prune.meets t target = true := by
      simp only [meets, RuntimeCore.prune, hx]
      exact matchTarget_default x.toTunnel target hid hlocal hremote
    rw [hmeets] at hmiss
    cases hmiss
  | some t' =>
    obtain ⟨slot, hslot, hlookup, -⟩ := hfound
    obtain ⟨hlookup, havailable'⟩ := lookup_prune.mp hlookup
    obtain ⟨x', hx', hslot'⟩ := hkept.entry slot t' hlookup
    have hpeer : x'.remoteId = slot.1 := congrArg Prod.fst hslot'
    refine ⟨t', x', rfl, hx', by rw [hpeer, hslot, hid], ?_⟩
    simpa [isAvailable, hx'] using havailable'

/-- The remote end of the passive tunnel below. -/
def passiveEp : Endpoint := ⟨.lan, .tcp, .v4 ⟨192, 0, 2, 7⟩ 24124⟩

/-- A passive tunnel to `[2]` that is connected. -/
def passive : IncomingTunnel := ⟨[2], none, some passiveEp, .connected, false⟩

/-- The tunnel is accepted, and its first command comes. -/
def promoted : List RuntimeEvent :=
  [.accept [2] none (some passiveEp) false, .validated 0 true, .attached 0 true, .promote 0]

theorem promoted_found : ∃ t' x', some 0 = some t' ∧
    (exec step .new promoted).tunnels[t']? = some x' ∧ x'.remoteId = [2] ∧
      x'.isAvailable = true := by
  have hfinds : (exec step .new promoted).prune.Finds ⟨none, .default, [2]⟩ (some 0) :=
    ⟨passive.slot, rfl, by decide +kernel, by decide +kernel⟩
  have htimely : Along step Timely .new promoted :=
    ⟨trivial, trivial, by rintro - slot t ⟨⟩, trivial, trivial⟩
  exact accepted_found (x := passive) (t := 0) promoted htimely (by decide +kernel)
    (by decide +kernel) rfl rfl rfl rfl rfl hfinds

/-- A lookup for another peer comes before the first command. -/
def pruned : List RuntimeEvent :=
  [.accept [2] none (some passiveEp) false, .validated 0 true, .attached 0 true,
    .findExistingTunnel ⟨none, .default, [3]⟩, .promote 0]

theorem pruned_lost : ¬∀ (evs : List RuntimeEvent) (t : Nat) (x : IncomingTunnel),
    (exec step .new evs).tunnels[t]? = some x → (exec step .new evs).latest x.slot = some t →
    x.state = .connected → x.isClosed = false → ∀ target : TtpTarget, target.remoteId = x.remoteId →
    target.localEp = none → target.remoteEp = .default → ∀ found,
    (exec step .new evs).prune.Finds target found →
      ∃ t' x', found = some t' ∧ (exec step .new evs).tunnels[t']? = some x' ∧
        x'.remoteId = x.remoteId := by
  intro hall
  have hempty : (exec step .new pruned).prune.cache.entries = [] := by decide +kernel
  have hnone : (exec step .new pruned).prune.Finds ⟨none, .default, [2]⟩ none := by
    intro slot t _ hlookup
    have hmem := Table.mem_entries_iff.mpr hlookup
    rw [hempty] at hmem
    cases hmem
  obtain ⟨t', x', ⟨⟩, -⟩ := hall pruned 0 passive (by decide +kernel) (by decide +kernel) rfl rfl
    ⟨none, .default, [2]⟩ rfl rfl rfl none hnone

end RuntimeCore

end BuckyP2p.Ttp
