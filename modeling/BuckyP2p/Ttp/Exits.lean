import BuckyP2p.Ttp.Client

/-!
# BuckyP2p.Ttp.Exits — how a tunnel leaves the cache of `TtpClient` (`ttp/client.rs`)

`get_or_create_tunnel` attaches a tunnel to the runtime, which keeps it until it closes, and then
remembers it.  From then on the entry stays under its key until `release_idle_tunnels_locked` drops
it, or until another tunnel is remembered under that key.  Neither closes the tunnel: the release of
an idle tunnel is of the cache entry only, and other owners of the tunnel are not affected.
-/

namespace BuckyP2p.Ttp

open Lib

/-- The targets and the clock that the step gives to `release_idle_tunnels_locked`. -/
def Event.releases? : Event → Option (List TtpTarget × Nat)
  | .find _ targets now _ | .attached _ _ targets now | .rememberTunnel _ targets now
  | .idle targets now => some (targets, now)
  | _ => none

namespace TtpClient

variable {s : TtpClient}

def Cached (s : TtpClient) (t : Nat) : Prop :=
  ∃ slot e, s.cache.lookup slot = some e ∧ e.tunnel = t

/-- The call that created the tunnel `t` has attached it, and remembers it. -/
def Attaches (s : TtpClient) (ev : Event) (t : Nat) : Prop :=
  ∃ c targets now x y, ev = .attached c true targets now ∧ s.calls[c]? = some x ∧
    x.phase = .attaching t ∧ s.tunnels[t]? = some y

def Remembers (s : TtpClient) (ev : Event) (t : Nat) : Prop :=
  s.Attaches ev t ∨ ∃ targets now, ev = .rememberTunnel t targets now

/-- The step releases the entry of `t`: the tunnel is not available, or it is not maintained, its
lease count is zero and it was not used for the idle timeout. -/
def Releases (s : TtpClient) (ev : Event) (t : Nat) : Prop :=
  ∃ slot e targets now, s.cache.lookup slot = some e ∧ e.tunnel = t ∧
    ev.releases? = some (targets, now) ∧
    (s.isAvailable t = false ∨
      s.isMaintained targets t = false ∧ e.leases = 0 ∧ s.idleTimeout ≤ now - e.lastUsed)

/-- The step remembers another tunnel under the key of the entry of `t`. -/
def Replaces (s : TtpClient) (ev : Event) (t : Nat) : Prop :=
  ∃ slot e t' x, s.cache.lookup slot = some e ∧ e.tunnel = t ∧ s.Remembers ev t' ∧ t' ≠ t ∧
    s.tunnels[t']? = some x ∧ x.slot = slot

theorem keeps_eq_false {targets : List TtpTarget} {now : Nat} {e : TtpClientTunnelEntry} :
    s.keeps targets now e = false ↔ s.isAvailable e.tunnel = false ∨
      s.isMaintained targets e.tunnel = false ∧ e.leases = 0 ∧ s.idleTimeout ≤ now - e.lastUsed := by
  cases h : s.isAvailable e.tunnel with
  | false => simp [keeps, h]
  | true => simp [keeps, h, and_assoc]

/-- The tunnel of the entry at `slot` stays there, or the step releases it or replaces it. -/
def Stays (s : TtpClient) (ev : Event) (slot : Slot) (t : Nat) (s' : TtpClient) : Prop :=
  (∃ e', s'.cache.lookup slot = some e' ∧ e'.tunnel = t) ∨ s.Releases ev t ∨ s.Replaces ev t

theorem Stays.of_lookup {ev : Event} {slot : Slot} {e : TtpClientTunnelEntry} {s' : TtpClient}
    (h : s'.cache.lookup slot = some e) : s.Stays ev slot e.tunnel s' :=
  .inl ⟨e, h, rfl⟩

/-- An entry that is written again has the tunnel it had. -/
theorem lookup_insert_tunnel {cache : Table Slot TtpClientTunnelEntry} {slot slot' : Slot}
    {e e₁ e₂ : TtpClientTunnelEntry} (he : cache.lookup slot = some e)
    (h₁ : cache.lookup slot' = some e₁) (h₂ : e₂.tunnel = e₁.tunnel) :
    ∃ e', (cache.insert slot' e₂).lookup slot = some e' ∧ e'.tunnel = e.tunnel := by
  by_cases hs : slot = slot'
  · subst hs
    rw [he] at h₁
    cases h₁
    exact ⟨e₂, AList.lookup_insert _, h₂⟩
  · exact ⟨e, (AList.lookup_insert_ne hs).trans he, rfl⟩

variable {ev : Event} {slot : Slot} {e : TtpClientTunnelEntry}

/-- `release_idle_tunnels_locked` keeps the entry, or releases its tunnel. -/
theorem lookup_release (ev : Event) (he : s.cache.lookup slot = some e) {targets : List TtpTarget} {now : Nat}
    (hev : ev.releases? = some (targets, now)) :
    (∃ e', (s.releaseIdleTunnels targets now).cache.lookup slot = some e' ∧ e'.tunnel = e.tunnel) ∨
      s.Releases ev e.tunnel := by
  cases hkeep : s.keeps targets now e with
  | true => exact .inl ⟨_, lookup_releaseIdleTunnels.mpr ⟨e, he, hkeep, rfl⟩, rfl⟩
  | false => exact .inr ⟨slot, e, targets, now, he, rfl, hev, keeps_eq_false.mp hkeep⟩

theorem stays_remember (he : s.cache.lookup slot = some e) {t : Nat} {x : Tunnel}
    (hx : s.tunnels[t]? = some x) (hrem : s.Remembers ev t) {targets : List TtpTarget} {now : Nat}
    (hev : ev.releases? = some (targets, now)) :
    s.Stays ev slot e.tunnel (s.rememberTunnelEntry t x targets now) := by
  rcases lookup_release ev he hev with ⟨e', he', htunnel⟩ | hrel
  · by_cases hs : slot = x.slot
    · by_cases ht : t = e.tunnel
      · subst hs
        exact .inl ⟨_, AList.lookup_insert _, ht⟩
      · exact .inr (.inr ⟨slot, e, t, x, he, rfl, hrem, ht, hx, hs.symm⟩)
    · exact .inl ⟨e', (AList.lookup_insert_ne hs).trans he', htunnel⟩
  · exact .inr (.inl hrel)

theorem stays_dropLease (he : s.cache.lookup slot = some e) (slot' : Slot) (now : Nat) :
    ∃ e', (s.dropLease slot' now).cache.lookup slot = some e' ∧ e'.tunnel = e.tunnel := by
  unfold dropLease
  cases h₁ : s.cache.lookup slot' with
  | none => exact ⟨e, he, rfl⟩
  | some e₁ => exact lookup_insert_tunnel he h₁ rfl

theorem stays_setLease (he : s.cache.lookup slot = some e) (l : Nat) (x : Lease) (state : LeaseState)
    (now : Nat) :
    ∃ e', (s.setLease l x state now).cache.lookup slot = some e' ∧ e'.tunnel = e.tunnel := by
  unfold setLease
  dsimp only
  split_ifs
  · exact stays_dropLease (s := { s with leases := s.leases.set l { x with state := state } }) he _ _
  · exact ⟨e, he, rfl⟩

theorem stays_run (he : s.cache.lookup slot = some e) {c : Nat} {x : Call} (hx : s.calls[c]? = some x)
    (hev : ∀ c', ev.caller? = some c' → c' = c) : s.Stays ev slot e.tunnel (s.run c x ev) := by
  cases ev with
  | find c' targets now found =>
    simp only [TtpClient.run]
    split_ifs with hfind
    · rcases lookup_release (.find c' targets now found) he rfl with ⟨e', he', htunnel⟩ | hrel
      · cases hf : found.bind fun slot =>
            ((s.releaseIdleTunnels targets now).cache.lookup slot).map fun e => (slot, e) with
        | none => exact .inl ⟨e', he', htunnel⟩
        | some y =>
          obtain ⟨slot', -, hslot⟩ := Option.bind_eq_some_iff.mp hf
          obtain ⟨e₁, h₁, rfl⟩ := Option.map_eq_some_iff.mp hslot
          have hsame : ({ e₁ with lastUsed := now } : TtpClientTunnelEntry).tunnel = e₁.tunnel := rfl
          obtain ⟨e₂, h₂, htunnel₂⟩ := lookup_insert_tunnel he' h₁ hsame
          exact .inl ⟨e₂, h₂, htunnel₂.trans htunnel⟩
      · exact .inr (.inl hrel)
    · exact .of_lookup he
  | created c' made =>
    simp only [TtpClient.run]
    split_ifs
    · cases made with
      | none => exact .of_lookup he
      | some tunnel => exact .of_lookup he
    · exact .of_lookup he
  | attached c' ok targets now =>
    cases hev c' rfl
    simp only [TtpClient.run]
    split
    · rename_i t hp
      cases ht : s.tunnels[t]? with
      | none => exact .of_lookup he
      | some y =>
        cases ok with
        | false => exact .of_lookup he
        | true => exact stays_remember he ht (.inl ⟨c, targets, now, x, y, rfl, hx, hp, ht⟩) rfl
    · exact .of_lookup he
  | acquire c' now found =>
    simp only [TtpClient.run]
    split
    · rename_i t hp
      split_ifs
      · exact .of_lookup he
      · cases hf : found.bind fun slot => (s.cache.lookup slot).map fun e => (slot, e) with
        | none => exact .of_lookup he
        | some y =>
          obtain ⟨slot', -, hslot⟩ := Option.bind_eq_some_iff.mp hf
          obtain ⟨e₁, h₁, rfl⟩ := Option.map_eq_some_iff.mp hslot
          exact .inl (lookup_insert_tunnel he h₁ rfl)
      · exact .of_lookup he
    · exact .of_lookup he
  | _ => exact .of_lookup he

/-- An entry leaves its key by a release or a replacement only. -/
theorem stays_step (he : s.cache.lookup slot = some e) (ev : Event) :
    s.Stays ev slot e.tunnel (s.step ev) := by
  have hcall : ∀ c s', ev.caller? = some c → (s.calls[c]? = none → s' = s) →
      (∀ x, s.calls[c]? = some x → s' = s.run c x ev) → s.Stays ev slot e.tunnel s' := by
    intro c s' hc hnone hsome
    cases hx : s.calls[c]? with
    | none =>
      rw [hnone hx]
      exact .of_lookup he
    | some x =>
      rw [hsome x hx]
      exact stays_run he hx fun c' hc' => Option.some.inj (hc'.symm.trans hc)
  cases ev with
  | call kind target => exact .of_lookup he
  | find c targets now found =>
    exact hcall c _ rfl (fun hx => by simp only [TtpClient.step, hx])
      fun x hx => by simp only [TtpClient.step, hx]
  | created c made =>
    exact hcall c _ rfl (fun hx => by simp only [TtpClient.step, hx])
      fun x hx => by simp only [TtpClient.step, hx]
  | attached c ok targets now =>
    exact hcall c _ rfl (fun hx => by simp only [TtpClient.step, hx])
      fun x hx => by simp only [TtpClient.step, hx]
  | acquire c now found =>
    exact hcall c _ rfl (fun hx => by simp only [TtpClient.step, hx])
      fun x hx => by simp only [TtpClient.step, hx]
  | cancel c =>
    exact hcall c _ rfl (fun hx => by simp only [TtpClient.step, hx])
      fun x hx => by simp only [TtpClient.step, hx]
  | opened l ok now =>
    simp only [TtpClient.step]
    cases hx : s.leases[l]? with
    | none => exact .of_lookup he
    | some x =>
      dsimp only
      split_ifs
      · exact .inl (stays_setLease he l x _ now)
      · exact .inl (stays_setLease he l x _ now)
      · exact .of_lookup he
  | dropHalf l now =>
    simp only [TtpClient.step]
    cases hx : s.leases[l]? with
    | none => exact .of_lookup he
    | some x =>
      dsimp only
      split
      · exact .inl (stays_setLease he l x _ now)
      · exact .inl (stays_setLease he l x _ now)
      · exact .of_lookup he
  | rememberTunnel t targets now =>
    simp only [TtpClient.step]
    cases hx : s.tunnels[t]? with
    | none => exact .of_lookup he
    | some x => exact stays_remember he hx (.inr ⟨targets, now, rfl⟩) rfl
  | refresh remoteId targets now =>
    refine .inl ⟨_, Table.lookup_mapEntries.mpr ⟨e, he, rfl⟩, ?_⟩
    split_ifs
    · rfl
    · rfl
  | idle targets now =>
    rcases lookup_release (.idle targets now) he rfl with hkept | hrel
    · exact .inl hkept
    · exact .inr (.inl hrel)
  | turn t available => exact .of_lookup he

theorem Attaches.cached {t : Nat} (h : s.Attaches ev t) : (s.step ev).Cached t := by
  obtain ⟨c, targets, now, x, y, rfl, hx, hp, ht⟩ := h
  refine ⟨y.slot, ⟨t, s.isMaintained targets t, now, 0⟩, ?_, rfl⟩
  simp only [TtpClient.step, hx, TtpClient.run, hp, ht, if_pos]
  exact AList.lookup_insert _

/-- What leaves the cache in a step is released or replaced there. -/
theorem Cached.lost {t : Nat} (h : s.Cached t) (hno : ¬(s.step ev).Cached t) :
    s.Releases ev t ∨ s.Replaces ev t := by
  obtain ⟨slot, e, he, rfl⟩ := h
  rcases stays_step he ev with ⟨e', he', htunnel⟩ | hleft
  · exact absurd ⟨slot, e', he', htunnel⟩ hno
  · exact hleft

/-- A call creates the tunnel 0, attaches it and opens a stream on it. -/
def opening : List Event :=
  [.call .stream ⟨none, server, [1]⟩, .find 0 [] 0 none, .created 0 (some (tunnelFrom 5))]

def attaching : Event := .attached 0 true [] 0

end TtpClient

end BuckyP2p.Ttp
