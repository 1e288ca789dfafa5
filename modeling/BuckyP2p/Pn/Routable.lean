import BuckyP2p.Lib.Lists
import BuckyP2p.Pn.ControlOpen

/-!
# BuckyP2p.Pn.Routable — what an accepted control open is good for (`pn/client/pn_client.rs`)

`Sound` is what every step keeps: an entry of a registry is of a tunnel of that end and that key; a
tunnel is an end of its control open; the tunnel of a call that has registered is the entry of its
key for as long as it is live, and that of a call which has not come to register is no entry.

So a data open finds no live tunnel only where the call at that end has not registered one, or has
closed it; and a call is told `AlreadyExists` only because of a tunnel of another control open.
-/

namespace BuckyP2p.Pn.ControlOpen

open Lib
open ControlStream (TunnelCommandResult)

/-- The call has its tunnel in the registry. -/
def Phase.held : Phase → Bool
  | .registered | .returned (.ok ()) => true
  | _ => false

/-- The call has not come to register. -/
def Phase.early : Phase → Bool
  | .waiting | .accepted => true
  | _ => false

/-- The call has returned `AlreadyExists`. -/
def Phase.Conflicts (p : Phase) : Prop :=
  ∃ e, p = .returned (.error e) ∧ e.code = .alreadyExists

/-- `y` is the tunnel of the end `a` for the control open. -/
def Control.Owns (c : Control) (y : Nat) (a : Side) : Prop :=
  (a = c.opener ∧ c.active = y) ∨ (a = !c.opener ∧ c.passive = some y)

namespace World

/-- The tunnel `y` is that of the end `a` with the id `id`, for the control open `k`. -/
def Is (w : World) (y : Nat) (a : Side) (id : TunnelId) (k : Nat) : Prop :=
  ∃ status, w.tunnels[y]? = some ⟨a, id, k, status⟩

def isDropped (w : World) (y : Nat) : Bool := w.tunnels[y]?.any fun t => t.status = .dropped

end World

structure Control.Fits (c : Control) (k : Nat) (w : World) : Prop where
  active : w.Is c.active c.opener c.tunnelId k
  passive : ∀ y, c.passive = some y → w.Is y (!c.opener) c.tunnelId k
  held : c.phase.held = true → w.isLive c.active = true →
    (w.registry c.opener).lookup c.key = some c.active
  early : c.phase.early = true → (w.registry c.opener).lookup c.key ≠ some c.active
  dropped : w.isDropped c.active = true → c.phase = .dropped
  idle : c.handler = .idle → c.passive = none

structure Sound (w : World) : Prop where
  entry : ∀ (a : Side) (key : PnTunnelKey) y, (w.registry a).lookup key = some y →
    ∃ k, w.Is y a key.tunnelId k
  owner : ∀ (y : Nat) (a : Side) id k, w.Is y a id k →
    ∃ c, w.controls[k]? = some c ∧ c.tunnelId = id ∧ c.Owns y a
  fits : ∀ (k : Nat) c, w.controls[k]? = some c → c.Fits k w

variable {w w' : World} {a : Side} {key : PnTunnelKey} {id : TunnelId} {c c' : Control} {j k y : Nat}

namespace World

theorem Is.lt (h : w.Is y a id k) : y < w.tunnels.length := by
  obtain ⟨status, ht⟩ := h
  exact (List.getElem?_eq_some_iff.mp ht).1

theorem Is.unique {b : Side} {id' : TunnelId} (h : w.Is y a id k) (h' : w.Is y b id' j) :
    b = a ∧ id' = id ∧ j = k := by
  obtain ⟨status, ht⟩ := h
  obtain ⟨status', ht'⟩ := h'
  rw [ht] at ht'
  cases ht'
  exact ⟨rfl, rfl, rfl⟩

theorem live_eq_some : w.live a key = some y ↔
    (w.registry a).lookup key = some y ∧ w.isLive y = true := by
  rw [live, Option.filter_eq_some_iff]

theorem live_eq_none (h : w.live a key = none) (hy : (w.registry a).lookup key = some y) :
    w.isLive y = false := by
  by_contra hlive
  have hsome := live_eq_some.mpr ⟨hy, by simpa using hlive⟩
  rw [h] at hsome
  cases hsome

theorem lookup_remove (w : World) (a b : Side) (key key' : PnTunnelKey) :
    ((w.remove a key).registry b).lookup key' =
      if b = a ∧ key' = key then none else (w.registry b).lookup key' := by
  change (Function.update w.registry a _ b).lookup key' = _
  by_cases hb : b = a
  · subst hb
    rw [Function.update_self]
    by_cases hk : key' = key
    · rw [if_pos ⟨rfl, hk⟩, hk, AList.lookup_erase]
    · rw [if_neg fun h => hk h.2, AList.lookup_erase_ne hk]
  · rw [Function.update_of_ne hb, if_neg fun h => hb h.1]

theorem lookup_insert (w : World) (a b : Side) (key key' : PnTunnelKey) (y : Nat) :
    ((w.insert a key y).registry b).lookup key' =
      if b = a ∧ key' = key then some y else (w.registry b).lookup key' := by
  change (Function.update w.registry a _ b).lookup key' = _
  by_cases hb : b = a
  · subst hb
    rw [Function.update_self]
    by_cases hk : key' = key
    · rw [if_pos ⟨rfl, hk⟩, hk, AList.lookup_insert]
    · rw [if_neg fun h => hk h.2, AList.lookup_insert_ne hk]
  · rw [Function.update_of_ne hb, if_neg fun h => hb h.1]

/-- A tunnel that is neither closed nor dropped is live. -/
theorem Is.closed (h : w.Is y a id k) (hlive : w.isLive y = false) (hdropped : w.isDropped y = false) :
    w.isClosedFlag y = true := by
  obtain ⟨status, ht⟩ := h
  simp only [isLive, isDropped, isClosedFlag, ht, Option.any_some] at hlive hdropped ⊢
  cases status <;> simp_all [PnTunnel.isLive, PnTunnel.isClosedFlag]

/-- Tunnels stay what they are, and none comes back to life. -/
structure Frame (w w' : World) : Prop where
  keeps : ∀ {y a id k}, w.Is y a id k → w'.Is y a id k
  lives : ∀ {y a id k}, w.Is y a id k → w'.isLive y = true → w.isLive y = true
  drops : ∀ {y a id k}, w.Is y a id k → w'.isDropped y = true →
    w.isDropped y = true ∨ ∀ c, w.controls[k]? = some c → c.phase = .dropped

theorem Frame.of_eq (h : w'.tunnels = w.tunnels) : Frame w w' := by
  refine ⟨fun ⟨status, ht⟩ => ⟨status, by rw [h]; exact ht⟩, fun _ hlive => ?_,
    fun _ hdropped => .inl ?_⟩
  · rwa [isLive, h] at hlive
  · rwa [isDropped, h] at hdropped

theorem frame_pushTunnel (w : World) (t : PnTunnel) : Frame w (w.pushTunnel t) := by
  have hold : ∀ {y a id k}, w.Is y a id k → (w.pushTunnel t).tunnels[y]? = w.tunnels[y]? :=
    fun h => List.getElem?_append_left h.lt
  refine ⟨fun h => ?_, fun h hlive => ?_, fun h hdropped => .inl ?_⟩
  · obtain ⟨status, ht⟩ := id h
    exact ⟨status, (hold h).trans ht⟩
  · rwa [isLive, hold h] at hlive
  · rwa [isDropped, hold h] at hdropped

/-- A change of the status of the tunnel `x`. -/
structure Changes (w : World) (x : Nat) (change : PnTunnel → PnTunnel) : Prop where
  same : ∀ t, ∃ status, change t = { t with status := status }
  lives : ∀ t, (change t).isLive = true → t.isLive = true
  drops : ∀ t, w.tunnels[x]? = some t → (change t).status = .dropped → t.status = .dropped ∨
    ∀ c, w.controls[t.control]? = some c → c.phase = .dropped

/-- A status that some tunnels take. -/
theorem changes_ite {x : Nat} {p : PnTunnel → Prop} [DecidablePred p] {status : Status}
    (hstatus : status ≠ .dropped)
    (hlive : ∀ t, ¬ p t → status ≠ .closed → t.isLive = true) :
    Changes w x fun t => if p t then t else { t with status := status } := by
  refine ⟨fun t => ?_, fun t h => ?_, fun t _ h => .inl ?_⟩
  · split_ifs
    · exact ⟨t.status, rfl⟩
    · exact ⟨status, rfl⟩
  · split_ifs at h with hp
    · exact h
    · exact hlive t hp fun heq => by simp [PnTunnel.isLive, heq] at h
  · split_ifs at h
    · exact h
    · exact absurd h hstatus

theorem changes_close (w : World) (x : Nat) : Changes w x .close :=
  changes_ite (p := fun t => t.status = .dropped) (by decide) fun _ _ h => absurd rfl h

theorem changes_markControlReady (w : World) (x : Nat) : Changes w x .markControlReady :=
  changes_ite (p := fun t => t.status ≠ .openingControl) (by decide) fun t h _ => by
    simp [PnTunnel.isLive, not_not.mp h]

theorem changes_tryRetireIdle (w : World) (x : Nat) : Changes w x .tryRetireIdle :=
  changes_ite (p := fun t => t.status ≠ .opened) (by decide) fun t h _ => by
    simp [PnTunnel.isLive, not_not.mp h]

/-- The tunnel of a call whose future is dropped. -/
theorem changes_drop {x : Nat} (h : w.Is x a id k)
    (hphase : ∀ c, w.controls[k]? = some c → c.phase = .dropped) : Changes w x .drop := by
  refine ⟨fun t => ?_, fun t hlive => ?_, fun t ht _ => .inr ?_⟩
  · unfold PnTunnel.drop
    split_ifs
    · exact ⟨t.status, rfl⟩
    · exact ⟨.dropped, rfl⟩
  · unfold PnTunnel.drop at hlive
    split_ifs at hlive
    · exact hlive
    · cases hlive
  · obtain ⟨status, ht'⟩ := h
    rw [ht] at ht'
    cases ht'
    exact hphase

theorem frame_changeTunnel {x : Nat} {change : PnTunnel → PnTunnel} (h : Changes w x change) :
    Frame w (w.changeTunnel x change) := by
  refine ⟨fun {y} a id k hy => ?_, fun {y} a id k hy hlive => ?_, fun {y} a id k hy hdropped => ?_⟩
  · obtain ⟨status, ht⟩ := hy
    by_cases heq : y = x
    · subst heq
      obtain ⟨status', hsame⟩ := h.same ⟨a, id, k, status⟩
      exact ⟨status', (getElem?_modify_of_eq_some ht).trans (congrArg some hsame)⟩
    · exact ⟨status, (getElem?_modify_of_ne heq).trans ht⟩
  · obtain ⟨status, ht⟩ := hy
    by_cases heq : y = x
    · subst heq
      rw [isLive, changeTunnel, getElem?_modify_of_eq_some ht, Option.any_some] at hlive
      rw [isLive, ht, Option.any_some]
      exact h.lives _ hlive
    · rwa [isLive, changeTunnel, getElem?_modify_of_ne heq] at hlive
  · obtain ⟨status, ht⟩ := hy
    by_cases heq : y = x
    · subst heq
      rw [isDropped, changeTunnel, getElem?_modify_of_eq_some ht, Option.any_some] at hdropped
      refine (h.drops _ ht (by simpa using hdropped)).imp_left fun hs => ?_
      rw [isDropped, ht, Option.any_some]
      simpa using hs
    · rw [isDropped, changeTunnel, getElem?_modify_of_ne heq] at hdropped
      exact .inl hdropped

/-- Every tunnel after the change was there before it. -/
theorem is_of_changeTunnel {x : Nat} {change : PnTunnel → PnTunnel} (h : Changes w x change)
    (hy : (w.changeTunnel x change).Is y a id k) : w.Is y a id k := by
  obtain ⟨status, ht⟩ := hy
  by_cases heq : y = x
  · subst heq
    rw [changeTunnel, List.getElem?_modify_eq, Option.map_eq_map, Option.map_eq_some_iff] at ht
    obtain ⟨t, ht, hchange⟩ := ht
    obtain ⟨status', hsame⟩ := h.same t
    rw [hsame] at hchange
    cases hchange
    exact ⟨t.status, ht⟩
  · exact ⟨status, (getElem?_modify_of_ne heq).symm.trans ht⟩

end World

namespace Control.Fits

/-- What a control open says stays true while the registry keeps what is live. -/
theorem mono (h : c.Fits k w) (hc : w.controls[k]? = some c) (hf : World.Frame w w')
    (hheld : c.phase.held = true → w.isLive c.active = true →
      (w.registry c.opener).lookup c.key = some c.active →
      (w'.registry c.opener).lookup c.key = some c.active)
    (hearly : (w'.registry c.opener).lookup c.key = some c.active →
      (w.registry c.opener).lookup c.key = some c.active) : c.Fits k w' where
  active := hf.keeps h.active
  passive y hy := hf.keeps (h.passive y hy)
  held hp hlive := hheld hp (hf.lives h.active hlive) (h.held hp (hf.lives h.active hlive))
  early hp heq := h.early hp (hearly heq)
  dropped hd := by
    rcases hf.drops h.active hd with hd | hphase
    · exact h.dropped hd
    · exact hphase c hc
  idle := h.idle

theorem frame (h : c.Fits k w) (hc : w.controls[k]? = some c) (hf : World.Frame w w')
    (hr : w'.registry = w.registry) : c.Fits k w' :=
  h.mono hc hf (fun _ _ heq => by rw [hr]; exact heq) fun heq => by rwa [hr] at heq

/-- Nothing is said about the other controls. -/
theorem of_eq (h : c.Fits k w) (ht : w'.tunnels = w.tunnels) (hr : w'.registry = w.registry) :
    c.Fits k w' := by
  obtain ⟨tunnels, registry, controls, opens⟩ := w
  obtain ⟨tunnels', registry', controls', opens'⟩ := w'
  obtain rfl : tunnels' = tunnels := ht
  obtain rfl : registry' = registry := hr
  exact ⟨h.active, h.passive, h.held, h.early, h.dropped, h.idle⟩

end Control.Fits

/-- What a step of the call or of its handler keeps, the registration apart. -/
structure Control.Goes (c c' : Control) : Prop where
  opener : c'.opener = c.opener
  tunnelId : c'.tunnelId = c.tunnelId
  active : c'.active = c.active
  passive : c'.passive = c.passive
  held : c'.phase.held = true → c.phase.held = true
  early : c'.phase.early = true → c.phase.early = true
  dropped : c.phase = .dropped → c'.phase = .dropped
  idle : c'.handler = .idle → c.handler = .idle

namespace Control.Fits

theorem goes (h : c.Fits k w) (hgo : c.Goes c') : c'.Fits k w := by
  have hkey : c'.key = c.key := by rw [key, hgo.opener, hgo.tunnelId, key]
  refine ⟨?_, ?_, ?_, ?_, ?_, ?_⟩
  · rw [hgo.active, hgo.opener, hgo.tunnelId]
    exact h.active
  · rw [hgo.passive, hgo.opener, hgo.tunnelId]
    exact h.passive
  · rw [hgo.active, hgo.opener, hkey]
    exact fun hp => h.held (hgo.held hp)
  · rw [hgo.active, hgo.opener, hkey]
    exact fun hp => h.early (hgo.early hp)
  · rw [hgo.active]
    exact fun hd => hgo.dropped (h.dropped hd)
  · rw [hgo.passive]
    exact fun hp => h.idle (hgo.idle hp)

end Control.Fits

namespace Sound

/-- The same controls and entries over tunnels that stay what they are. -/
theorem frame (hs : Sound w) (hf : World.Frame w w') (hc : w'.controls = w.controls)
    (hr : w'.registry = w.registry) (hold : ∀ y a id k, w'.Is y a id k → w.Is y a id k) :
    Sound w' where
  entry a key y hy := by
    rw [hr] at hy
    obtain ⟨k, hk⟩ := hs.entry a key y hy
    exact ⟨k, hf.keeps hk⟩
  owner y a id k hy := by
    rw [hc]
    exact hs.owner y a id k (hold y a id k hy)
  fits k c hk := by
    rw [hc] at hk
    exact (hs.fits k c hk).frame hk hf hr

theorem changeTunnel (hs : Sound w) {x : Nat} {change : PnTunnel → PnTunnel}
    (h : World.Changes w x change) : Sound (w.changeTunnel x change) :=
  hs.frame (World.frame_changeTunnel h) rfl rfl fun _ _ _ _ => World.is_of_changeTunnel h

theorem setControl (hs : Sound w) (hc : w.controls[k]? = some c) (hgo : c.Goes c') :
    Sound (w.setControl k c') where
  entry := hs.entry
  owner y a id j hy := by
    obtain ⟨d, hd, hid, howns⟩ := hs.owner y a id j hy
    by_cases hjk : j = k
    · subst hjk
      obtain rfl : d = c := Option.some.inj (hd.symm.trans hc)
      refine ⟨c', List.getElem?_set_self (List.getElem?_eq_some_iff.mp hc).1,
        hgo.tunnelId.trans hid, ?_⟩
      rw [Control.Owns, hgo.opener, hgo.active, hgo.passive]
      exact howns
    · exact ⟨d, (List.getElem?_set_ne (Ne.symm hjk)).trans hd, hid, howns⟩
  fits j d hd := by
    rcases getElem?_set_cases hc hd with ⟨rfl, rfl⟩ | ⟨-, hd⟩
    · exact ((hs.fits j c hc).goes hgo).of_eq rfl rfl
    · exact (hs.fits j d hd).of_eq rfl rfl

/-- The data opens are no part of it. -/
theorem of_eq (hs : Sound w) (ht : w'.tunnels = w.tunnels) (hr : w'.registry = w.registry)
    (hc : w'.controls = w.controls) : Sound w' :=
  hs.frame (.of_eq ht) hc hr fun _ _ _ _ ⟨status, h⟩ => ⟨status, by rw [← ht]; exact h⟩

/-- The registry loses an entry that is not live. -/
theorem remove (hs : Sound w) (hdead : w.live a key = none) : Sound (w.remove a key) := by
  have hsub : ∀ (b : Side) (key' : PnTunnelKey) y, ((w.remove a key).registry b).lookup key' = some y →
      (w.registry b).lookup key' = some y := by
    intro b key' y hy
    rw [World.lookup_remove] at hy
    split_ifs at hy
    exact hy
  refine ⟨fun b key' y hy => hs.entry b key' y (hsub b key' y hy), hs.owner, fun k c hk => ?_⟩
  refine (hs.fits k c hk).mono hk (.of_eq rfl) (fun _ hlive hy => ?_) (hsub _ _ _)
  rw [World.lookup_remove, if_neg]
  · exact hy
  · rintro ⟨ha, hkey⟩
    rw [ha, hkey] at hy
    rw [World.live_eq_none hdead hy] at hlive
    cases hlive

theorem getTunnel (hs : Sound w) (a : Side) (key : PnTunnelKey) : Sound (w.getTunnel a key).1 := by
  unfold World.getTunnel
  cases hl : w.live a key with
  | some y => exact hs
  | none => exact hs.remove hl

theorem unregisterTunnel (hs : Sound w) {x : Nat} (hx : w.isLive x = false) (a : Side)
    (key : PnTunnelKey) (freed : Bool) : Sound (w.unregisterTunnel a key x freed) := by
  unfold World.unregisterTunnel
  cases hl : (w.registry a).lookup key with
  | none => exact hs
  | some y =>
    dsimp only
    split_ifs with h
    · have hy : w.isLive y = false := by
        rcases h with rfl | ⟨hy, -⟩
        · exact hx
        · simpa using hy
      refine hs.remove ?_
      rw [World.live, hl, Option.filter_some, hy]
      rfl
    · exact hs

/-- A control open whose tunnel is not the new entry. -/
theorem fits_insert (h : c.Fits k w) (hk : w.controls[k]? = some c) (hdead : w.live a key = none)
    (hy : y ≠ c.active) : c.Fits k (w.insert a key y) := by
  refine h.mono hk (.of_eq rfl) (fun _ hlive hentry => ?_) fun hentry => ?_
  · rw [World.lookup_insert, if_neg]
    · exact hentry
    · rintro ⟨ha, hkey⟩
      rw [ha, hkey] at hentry
      rw [World.live_eq_none hdead hentry] at hlive
      cases hlive
  · rw [World.lookup_insert] at hentry
    split_ifs at hentry
    · exact absurd (Option.some.inj hentry) hy
    · exact hentry

/-- The call registers its tunnel. -/
theorem register (hs : Sound w) (hc : w.controls[k]? = some c) (hp : c.phase = .accepted)
    (hdead : w.live c.opener c.key = none) :
    Sound ((w.insert c.opener c.key c.active).setControl k { c with phase := .registered }) := by
  have hfits := hs.fits k c hc
  refine ⟨fun b key y hy => ?_, fun y b id j hy => ?_, fun j d hd => ?_⟩
  · change ((w.insert _ _ _).registry b).lookup key = some y at hy
    rw [World.lookup_insert] at hy
    split_ifs at hy with h
    · cases hy
      rw [h.1, h.2]
      exact ⟨k, hfits.active⟩
    · exact hs.entry b key y hy
  · obtain ⟨d, hd, hid, howns⟩ := hs.owner y b id j hy
    by_cases hjk : j = k
    · subst hjk
      obtain rfl : d = c := Option.some.inj (hd.symm.trans hc)
      exact ⟨_, List.getElem?_set_self (List.getElem?_eq_some_iff.mp hc).1, hid, howns⟩
    · exact ⟨d, (List.getElem?_set_ne (Ne.symm hjk)).trans hd, hid, howns⟩
  · rcases getElem?_set_cases hc hd with ⟨rfl, rfl⟩ | ⟨hjk, hd⟩
    · refine ⟨hfits.active, hfits.passive, fun _ _ => ?_, nofun, fun h => ?_, hfits.idle⟩
      · exact (World.lookup_insert ..).trans (if_pos ⟨rfl, rfl⟩)
      · rw [hfits.dropped h] at hp
        cases hp
    · refine (fits_insert (hs.fits j d hd) hd hdead fun heq => hjk ?_).of_eq rfl rfl
      have hactive := (hs.fits j d hd).active
      rw [← heq] at hactive
      exact (hfits.active.unique hactive).2.2

/-- The handler registers a new tunnel. -/
theorem registerPassive (hs : Sound w) (hc : w.controls[k]? = some c) (hp : c.handler = .idle)
    (hdead : w.live (!c.opener) c.passiveKey = none) :
    Sound (((w.pushTunnel ⟨!c.opener, c.tunnelId, k, .openingControl⟩).insert (!c.opener) c.passiveKey
      w.tunnels.length).setControl k
        { c with handler := .registered, passive := some w.tunnels.length }) := by
  have hfits := hs.fits k c hc
  have hframe := World.frame_pushTunnel w ⟨!c.opener, c.tunnelId, k, .openingControl⟩
  have hnew : (w.pushTunnel ⟨!c.opener, c.tunnelId, k, .openingControl⟩).Is w.tunnels.length
      (!c.opener) c.tunnelId k := ⟨.openingControl, List.getElem?_concat_length⟩
  have hdead' : (w.pushTunnel ⟨!c.opener, c.tunnelId, k, .openingControl⟩).live (!c.opener)
      c.passiveKey = none := by
    rw [Option.eq_none_iff_forall_ne_some]
    intro y hy
    obtain ⟨hentry, hlive⟩ := World.live_eq_some.mp hy
    obtain ⟨j, hj⟩ := hs.entry _ _ y hentry
    have hlive' := hframe.lives hj hlive
    rw [World.live_eq_none hdead hentry] at hlive'
    cases hlive'
  refine ⟨fun b key y hy => ?_, fun y b id j hy => ?_, fun j d hd => ?_⟩
  · change ((World.insert _ _ _ _).registry b).lookup key = some y at hy
    rw [World.lookup_insert] at hy
    split_ifs at hy with h
    · cases hy
      rw [h.1, h.2]
      exact ⟨k, hnew⟩
    · obtain ⟨j, hj⟩ := hs.entry b key y hy
      exact ⟨j, hframe.keeps hj⟩
  · obtain ⟨status, ht⟩ := hy
    rcases getElem?_push_cases ht with ht | ⟨rfl, heq⟩
    · obtain ⟨d, hd, hid, howns⟩ := hs.owner y b id j ⟨status, ht⟩
      by_cases hjk : j = k
      · subst hjk
        obtain rfl : d = c := Option.some.inj (hd.symm.trans hc)
        refine ⟨_, List.getElem?_set_self (List.getElem?_eq_some_iff.mp hc).1, hid, ?_⟩
        rcases howns with hactive | ⟨-, hpassive⟩
        · exact .inl hactive
        · rw [hfits.idle hp] at hpassive
          cases hpassive
      · exact ⟨d, (List.getElem?_set_ne (Ne.symm hjk)).trans hd, hid, howns⟩
    · cases heq
      exact ⟨_, List.getElem?_set_self (List.getElem?_eq_some_iff.mp hc).1, rfl, .inr ⟨rfl, rfl⟩⟩
  · have hother : ∀ (i : Nat) e, w.controls[i]? = some e →
        e.Fits i ((w.pushTunnel ⟨!c.opener, c.tunnelId, k, .openingControl⟩).insert (!c.opener)
          c.passiveKey w.tunnels.length) := by
      intro i e he
      refine fits_insert ((hs.fits i e he).frame he hframe rfl) he hdead' fun heq => ?_
      have hlt := (hs.fits i e he).active.lt
      omega
    rcases getElem?_set_cases hc hd with ⟨rfl, rfl⟩ | ⟨-, hd⟩
    · have h := hother j c hc
      refine ⟨h.active, fun y hy => ?_, h.held, h.early, h.dropped, nofun⟩
      cases hy
      exact hnew
    · exact (hother j d hd).of_eq rfl rfl

theorem openControl (hs : Sound w) (a : Side) (id : TunnelId) : Sound (w.openControl a id) := by
  have hframe := World.frame_pushTunnel w ⟨a, id, w.controls.length, .openingControl⟩
  refine ⟨fun b key y hy => ?_, fun y b id' j hy => ?_, fun j d hd => ?_⟩
  · obtain ⟨j, hj⟩ := hs.entry b key y hy
    exact ⟨j, hframe.keeps hj⟩
  · obtain ⟨status, ht⟩ := hy
    rcases getElem?_push_cases ht with ht | ⟨rfl, heq⟩
    · obtain ⟨d, hd, hid, howns⟩ := hs.owner y b id' j ⟨status, ht⟩
      exact ⟨d, getElem?_append_of_eq_some hd, hid, howns⟩
    · cases heq
      exact ⟨_, List.getElem?_concat_length, rfl, .inl ⟨rfl, rfl⟩⟩
  · rcases getElem?_push_cases hd with hd | ⟨rfl, rfl⟩
    · exact ((hs.fits j d hd).frame hd hframe rfl).of_eq rfl rfl
    · refine ⟨⟨.openingControl, List.getElem?_concat_length⟩, by simp, by simp [Phase.held], ?_, ?_,
        fun _ => rfl⟩
      · rintro - hentry
        obtain ⟨i, hi⟩ := hs.entry _ _ _ hentry
        exact absurd hi.lt (lt_irrefl _)
      · intro hdropped
        simp [World.isDropped, World.openControl, World.pushTunnel] at hdropped

end Sound

/-- A conflict of the control open `k` after the step: it was there, or the call has found another
tunnel when it came to register. -/
def Control.Conflicted (w : World) (ev : Event) (k : Nat) (c c' : Control) : Prop :=
  c'.phase.Conflicts → c.phase.Conflicts ∨
    (ev = .register k ∧ c.phase = .accepted ∧ ∃ y, w.live c.opener c.key = some y)

/-- What a step keeps, and what it does to the control opens. -/
structure Advance (w : World) (ev : Event) (w' : World) : Prop where
  sound : Sound w'
  old : ∀ (k : Nat) c, w.controls[k]? = some c → ∃ c', w'.controls[k]? = some c' ∧
    c'.opener = c.opener ∧ c'.tunnelId = c.tunnelId ∧ c.Conflicted w ev k c'
  new : ∀ (k : Nat) c', w'.controls[k]? = some c' → w.controls[k]? = none → ¬ c'.phase.Conflicts

namespace Advance

variable {ev : Event}

/-- A step that does nothing to the control opens. -/
theorem same (hs : Sound w') (h : w'.controls = w.controls) : Advance w ev w' := by
  refine ⟨hs, fun k c hc => ⟨c, by rw [h]; exact hc, rfl, rfl, .inl⟩, fun k c' hc' hnone => ?_⟩
  rw [h, hnone] at hc'
  cases hc'

/-- A step of the control open `j`. -/
theorem set {c₁ : Control} (hs : Sound w') (hw : w'.controls = w.controls.set j c₁)
    (hj : w.controls[j]? = some c) (ho : c₁.opener = c.opener) (hid : c₁.tunnelId = c.tunnelId)
    (hconflict : c.Conflicted w ev j c₁) : Advance w ev w' := by
  refine ⟨hs, fun k d hd => ?_, fun k c' hc' hnone => ?_⟩
  · rw [hw]
    by_cases hkj : k = j
    · subst hkj
      obtain rfl : d = c := Option.some.inj (hd.symm.trans hj)
      exact ⟨c₁, List.getElem?_set_self (List.getElem?_eq_some_iff.mp hj).1, ho, hid, hconflict⟩
    · exact ⟨d, (List.getElem?_set_ne (Ne.symm hkj)).trans hd, rfl, rfl, .inl⟩
  · rw [hw] at hc'
    rcases getElem?_set_cases hj hc' with ⟨rfl, -⟩ | ⟨-, hc'⟩
    · rw [hnone] at hj
      cases hj
    · rw [hnone] at hc'
      cases hc'

/-- A step that only moves the call or the handler, after a change of the tunnels. -/
theorem goes {w₁ : World} {c₁ : Control} (hs : Sound w₁) (hw : w₁.controls = w.controls)
    (hj : w.controls[j]? = some c) (hgo : c.Goes c₁) (hconflict : c.Conflicted w ev j c₁) :
    Advance w ev (w₁.setControl j c₁) := by
  refine set (hs.setControl (by rw [hw]; exact hj) hgo) ?_ hj hgo.opener hgo.tunnelId hconflict
  rw [← hw]
  rfl

end Advance

namespace Control

/-- A step of the handler. -/
theorem goes_handler (c : Control) (handler : HandlerPhase) (answer : Option TunnelCommandResult)
    (h : handler ≠ .idle) : c.Goes { c with handler := handler, answer := answer } :=
  ⟨rfl, rfl, rfl, rfl, id, id, id, fun heq => absurd heq h⟩

/-- A step of the call; `registered` is not reached so. -/
theorem goes_phase (c : Control) {phase : Phase} (hheld : phase.held = true → c.phase.held = true)
    (hearly : phase.early = true → c.phase.early = true) (hdropped : c.phase ≠ .dropped) :
    c.Goes { c with phase := phase } :=
  ⟨rfl, rfl, rfl, rfl, hheld, hearly, fun heq => absurd heq hdropped, id⟩

theorem conflicted_of_not {ev : Event} (h : ¬ c'.phase.Conflicts) : c.Conflicted w ev k c' :=
  fun hc => absurd hc h

end Control

namespace World

variable {ev : Event}

theorem controlStep_advance (hs : Sound w) {f : Control → World}
    (h : ∀ c, w.controls[k]? = some c → Advance w ev (f c)) : Advance w ev (w.controlStep k f) := by
  unfold controlStep
  cases hc : w.controls[k]? with
  | none => exact .same hs rfl
  | some c => exact h c hc

theorem tunnelStep_advance (hs : Sound w) {x : Nat} {f : PnTunnel → World}
    (h : ∀ t, w.tunnels[x]? = some t → Advance w ev (f t)) : Advance w ev (w.tunnelStep x f) := by
  unfold tunnelStep
  cases ht : w.tunnels[x]? with
  | none => exact .same hs rfl
  | some t => exact h t ht

theorem openStep_advance (hs : Sound w) {d : Nat} {f : DataOpen → World}
    (h : ∀ x, w.opens[d]? = some x → Advance w ev (f x)) : Advance w ev (w.openStep d f) := by
  unfold openStep
  cases hx : w.opens[d]? with
  | none => exact .same hs rfl
  | some x => exact h x hx

/-- The call closes its tunnel; the error is `AlreadyExists` only where it has found another. -/
theorem giveUp_advance (hs : Sound w) (hc : w.controls[k]? = some c) (hp : c.phase ≠ .dropped)
    {e : P2pError} (he : e.code = .alreadyExists →
      ev = .register k ∧ c.phase = .accepted ∧ ∃ y, w.live c.opener c.key = some y) :
    Advance w ev (w.giveUp k c e) := by
  refine .goes (hs.changeTunnel (changes_close w c.active)) rfl hc
    (c.goes_phase (fun h => by cases h) (fun h => by cases h) hp) ?_
  rintro ⟨e', heq, hcode⟩
  cases heq
  exact .inr (he hcode)

/-- A step that only moves the handler. -/
theorem handler_advance {w₁ : World} (hs : Sound w₁) (hw : w₁.controls = w.controls)
    (hc : w.controls[k]? = some c) {c₁ : Control} (hgo : c.Goes c₁) (hp : c₁.phase = c.phase) :
    Advance w ev (w₁.setControl k c₁) :=
  .goes hs hw hc hgo fun h => .inl (by rwa [hp] at h)

theorem registerPassive_advance (hs : Sound w) (hc : w.controls[k]? = some c) :
    Advance w ev (w.registerPassive k c) := by
  unfold registerPassive
  split_ifs with h
  · cases hl : w.live (!c.opener) c.passiveKey with
    | some y =>
      rw [registerPassiveControlTunnel, hl]
      exact handler_advance hs rfl hc
        (c.goes_handler .failed (some .internalError) nofun) rfl
    | none =>
      rw [registerPassiveControlTunnel, hl]
      exact .set (hs.registerPassive hc h.2 hl) rfl hc rfl rfl .inl
  · exact .same hs rfl

theorem readyPassive_advance (hs : Sound w) (hc : w.controls[k]? = some c) :
    Advance w ev (w.readyPassive k c) := by
  unfold readyPassive
  split
  · rename_i y _ _
    exact handler_advance (w := w) (hs.changeTunnel (changes_markControlReady w y)) rfl hc
      (c.goes_handler .ready c.answer nofun) rfl
  · exact .same hs rfl

theorem answer_advance (hs : Sound w) (hc : w.controls[k]? = some c) (written : Bool) :
    Advance w ev (w.answer k c written) := by
  unfold answer
  split
  · rename_i y _ _
    split_ifs
    · exact handler_advance hs rfl hc (c.goes_handler .answered (some .success) nofun) rfl
    · exact handler_advance (w := w) (hs.changeTunnel (changes_close w y)) rfl hc
        (c.goes_handler .failed c.answer nofun) rfl
  · exact .same hs rfl

/-- No answer is turned into `AlreadyExists`. -/
theorem intoP2pError_ne (r : TunnelCommandResult) (context : String) :
    (r.intoP2pError context).code ≠ .alreadyExists := by
  cases r <;> exact nofun

theorem readAnswer_advance (hs : Sound w) (hc : w.controls[k]? = some c) :
    Advance w ev (w.readAnswer k c) := by
  unfold readAnswer
  split
  · rename_i result hp _ _
    split_ifs
    · exact giveUp_advance hs hc (by rw [hp]; exact nofun) fun he =>
        absurd he (intoP2pError_ne _ _)
    · refine .goes hs rfl hc (c.goes_phase (fun h => by cases h) (fun _ => by rw [hp]; rfl)
        (by rw [hp]; exact nofun)) (c.conflicted_of_not ?_)
      rintro ⟨e, heq, -⟩
      cases heq
  · exact .same hs rfl

theorem fails_advance (hs : Sound w) (hc : w.controls[k]? = some c) (failure : Failure) :
    Advance w ev (if c.phase = .waiting then w.giveUp k c failure.intoP2pError else w) := by
  split_ifs with hp
  · refine giveUp_advance hs hc (by rw [hp]; exact nofun) fun he => ?_
    cases failure <;> cases he
  · exact .same hs rfl

theorem cancel_advance (hs : Sound w) (hc : w.controls[k]? = some c) :
    Advance w ev (w.cancel k c) := by
  unfold cancel
  split_ifs with hp
  · have hgo : c.Goes { c with phase := .dropped } :=
      ⟨rfl, rfl, rfl, rfl, nofun, nofun, fun _ => rfl, id⟩
    have hs' := hs.setControl hc hgo
    refine .set (hs'.changeTunnel (changes_drop (hs.fits k c hc).active fun d hd => ?_)) rfl hc rfl rfl
      (c.conflicted_of_not ?_)
    · rcases getElem?_set_cases hc hd with ⟨-, rfl⟩ | ⟨hne, -⟩
      · rfl
      · exact absurd rfl hne
    · rintro ⟨e, heq, -⟩
      cases heq
  · exact .same hs rfl

theorem register_advance (hs : Sound w) (hc : w.controls[k]? = some c) :
    Advance w (.register k) (w.register k c) := by
  unfold register
  split_ifs with hp
  · by_cases hclosed : w.isClosedFlag c.active = true
    · rw [registerControlTunnelIfAbsent, if_pos hclosed]
      exact giveUp_advance hs hc (by rw [hp]; exact nofun) nofun
    · rw [registerControlTunnelIfAbsent, if_neg hclosed]
      cases hl : w.live c.opener c.key with
      | some y =>
        exact giveUp_advance hs hc (by rw [hp]; exact nofun) fun _ => ⟨rfl, hp, y, hl⟩
      | none =>
        refine .set (hs.register hc hp hl) rfl hc rfl rfl (c.conflicted_of_not ?_)
        rintro ⟨e, heq, -⟩
        cases heq
  · exact .same hs rfl

theorem readyActive_advance (hs : Sound w) (hc : w.controls[k]? = some c) :
    Advance w ev (w.readyActive k c) := by
  unfold readyActive
  split_ifs with hp
  · refine .goes (hs.changeTunnel (changes_markControlReady w c.active)) rfl hc
      (c.goes_phase (fun _ => by rw [hp]; rfl) (fun h => by cases h) (by rw [hp]; exact nofun))
      (c.conflicted_of_not ?_)
    rintro ⟨e, heq, -⟩
    cases heq
  · exact .same hs rfl

theorem openControl_advance (hs : Sound w) (a : Side) (id : TunnelId) :
    Advance w ev (w.openControl a id) := by
  refine ⟨hs.openControl a id, fun k c hc => ?_, fun k c' hc' hnone => ?_⟩
  · exact ⟨c, getElem?_append_of_eq_some hc, rfl, rfl, .inl⟩
  · rcases getElem?_push_cases hc' with hc' | ⟨-, rfl⟩
    · rw [hnone] at hc'
      cases hc'
    · rintro ⟨e, heq, -⟩
      cases heq

theorem not_isLive_of_closed {x : Nat} {t : PnTunnel} (ht : w.tunnels[x]? = some t)
    (hclosed : t.isClosedFlag = true) : w.isLive x = false := by
  rw [isLive, ht, Option.any_some]
  simp only [PnTunnel.isClosedFlag, decide_eq_true_eq] at hclosed
  simp [PnTunnel.isLive, hclosed]

theorem unregisterTunnel_controls (w : World) (a : Side) (key : PnTunnelKey) (x : Nat) (freed : Bool) :
    (w.unregisterTunnel a key x freed).controls = w.controls := by
  unfold unregisterTunnel
  split
  · rfl
  · split_ifs
    · rfl
    · rfl

theorem unregister_advance (hs : Sound w) {x : Nat} {t : PnTunnel} (ht : w.tunnels[x]? = some t)
    (freed : Bool) : Advance w ev (if t.isClosedFlag then
      w.unregisterTunnel t.localId ⟨!t.localId, t.tunnelId⟩ x freed else w) := by
  split_ifs with h
  · exact .same (hs.unregisterTunnel (not_isLive_of_closed ht h) _ _ freed)
      (unregisterTunnel_controls ..)
  · exact .same hs rfl

theorem lookup_advance (hs : Sound w) (d : Nat) (x : DataOpen) (t : PnTunnel) :
    Advance w ev (w.lookup d x t) := by
  have hget := hs.getTunnel (!t.localId) ⟨t.localId, t.tunnelId⟩
  unfold lookup
  split_ifs
  · unfold getTunnel at hget ⊢
    split at hget
    · exact .same (hget.of_eq rfl rfl rfl) rfl
    · exact .same (hget.of_eq rfl rfl rfl) rfl
  · exact .same hs rfl

theorem push_advance (hs : Sound w) (d : Nat) (x : DataOpen) (freed : Bool) :
    Advance w ev (w.push d x freed) := by
  unfold push
  split
  · rename_i y _
    cases ht : w.tunnels[y]? with
    | none => exact .same hs rfl
    | some t =>
      have hun : Advance w ev _ := unregister_advance hs ht freed
      dsimp only
      split
      · exact .same (hs.of_eq rfl rfl rfl) rfl
      · refine .same (hun.sound.of_eq rfl rfl rfl) ?_
        change World.controls (if _ then _ else _) = _
        split_ifs
        · exact unregisterTunnel_controls ..
        · rfl
  · exact .same hs rfl

/-- What every step does. -/
theorem step_advance (hs : Sound w) (ev : Event) : Advance w ev (w.step ev) := by
  cases ev with
  | openControl a id => exact openControl_advance hs a id
  | forwardRequest k =>
    refine controlStep_advance hs fun c hc => handler_advance hs rfl hc ?_ rfl
    exact ⟨rfl, rfl, rfl, rfl, id, id, id, id⟩
  | registerPassive k => exact controlStep_advance hs fun c hc => registerPassive_advance hs hc
  | readyPassive k => exact controlStep_advance hs fun c hc => readyPassive_advance hs hc
  | answer k written => exact controlStep_advance hs fun c hc => answer_advance hs hc written
  | forwardAnswer k =>
    refine controlStep_advance hs fun c hc => handler_advance hs rfl hc ?_ rfl
    exact ⟨rfl, rfl, rfl, rfl, id, id, id, id⟩
  | readAnswer k => exact controlStep_advance hs fun c hc => readAnswer_advance hs hc
  | fails k failure => exact controlStep_advance hs fun c hc => fails_advance hs hc failure
  | cancel k => exact controlStep_advance hs fun c hc => cancel_advance hs hc
  | register k => exact controlStep_advance hs fun c hc => register_advance hs hc
  | readyActive k => exact controlStep_advance hs fun c hc => readyActive_advance hs hc
  | close x => exact .same (hs.changeTunnel (changes_close w x)) rfl
  | unregister x freed => exact tunnelStep_advance hs fun t ht => unregister_advance hs ht freed
  | retire x => exact .same (hs.changeTunnel (changes_tryRetireIdle w x)) rfl
  | openData x =>
    refine tunnelStep_advance hs fun t ht => ?_
    change Advance w _ (if _ then _ else _)
    split_ifs
    · exact .same (hs.of_eq rfl rfl rfl) rfl
    · exact .same hs rfl
  | forwardData d =>
    refine openStep_advance hs fun x hx => ?_
    split_ifs
    · exact .same (hs.of_eq rfl rfl rfl) rfl
    · exact .same hs rfl
  | lookup d =>
    exact openStep_advance hs fun x hx => tunnelStep_advance hs fun t ht => lookup_advance hs d x t
  | push d freed => exact openStep_advance hs fun x hx => push_advance hs d x freed

theorem init_sound : Sound init := by
  refine ⟨fun a key y hy => ?_, fun y a id k hy => ?_, fun k c hc => ?_⟩
  · cases hy
  · exact absurd hy.lt (Nat.not_lt_zero _)
  · cases hc

theorem run_sound (evs : List Event) : Sound (run evs) :=
  exec_inv_all (I := Sound) (fun _ ev h => (step_advance h ev).sound) init_sound evs

theorem run_append (pre post : List Event) : run (pre ++ post) = exec step (run pre) post :=
  exec_append step init pre post

/-- A data open that finds no live tunnel, at an end whose call has registered one. -/
theorem lookup_rejected (hs : Sound w) {d x : Nat} (hd : w.opens[d]? = some ⟨x, .forwarded⟩)
    (hc : w.controls[k]? = some c) (hx : c.passive = some x)
    (hr : (w.step (.lookup d)).opens[d]? = some ⟨x, .rejected notEstablished⟩)
    (hheld : c.phase.held = true) : w.isClosedFlag c.active = true := by
  have hfits := hs.fits k c hc
  obtain ⟨status, ht⟩ := hfits.passive x hx
  have hstep : w.step (.lookup d) = w.lookup d ⟨x, .forwarded⟩ ⟨!c.opener, c.tunnelId, k, status⟩ := by
    simp only [step, openStep, hd, tunnelStep, ht]
  rw [hstep, lookup, if_pos rfl] at hr
  simp only [Bool.not_not] at hr
  have hlt : d < w.opens.length := (List.getElem?_eq_some_iff.mp hd).1
  -- the sender's key at this end is that of the call
  cases hl : w.live c.opener ⟨!c.opener, c.tunnelId⟩ with
  | some y =>
    rw [getTunnel, hl] at hr
    have heq := (List.getElem?_set_self hlt).symm.trans hr
    cases heq
  | none =>
    have hdead : w.isLive c.active = false := by
      by_contra hlive
      have hentry := hfits.held hheld (by simpa using hlive)
      exact hlive (live_eq_none hl hentry)
    refine hfits.active.closed hdead ?_
    by_contra hdropped
    rw [hfits.dropped (by simpa using hdropped)] at hheld
    cases hheld

/-- A control open keeps its opener and its id. -/
theorem exec_control (hs : Sound w) (hc : w.controls[k]? = some c) (evs : List Event) :
    ∃ c', (exec step w evs).controls[k]? = some c' ∧ c'.opener = c.opener ∧
      c'.tunnelId = c.tunnelId := by
  have hinv : Sound (exec step w evs) ∧ ∃ c', (exec step w evs).controls[k]? = some c' ∧
      c'.opener = c.opener ∧ c'.tunnelId = c.tunnelId := by
    refine exec_inv_all (I := fun v => Sound v ∧ ∃ c', v.controls[k]? = some c' ∧
      c'.opener = c.opener ∧ c'.tunnelId = c.tunnelId) ?_ ⟨hs, c, hc, rfl, rfl⟩ evs
    rintro v ev ⟨hv, c', hc', ho, hid⟩
    have hadvance := step_advance hv ev
    obtain ⟨c'', hc'', ho', hid', -⟩ := hadvance.old k c' hc'
    exact ⟨hadvance.sound, c'', hc'', ho'.trans ho, hid'.trans hid⟩
  exact hinv.2

/-- The tunnel that a call has found when it came to register is of another control open. -/
theorem live_other (hs : Sound w) (hc : w.controls[k]? = some c) (hp : c.phase = .accepted)
    (hl : w.live c.opener c.key = some y) :
    ∃ j b, j ≠ k ∧ w.controls[j]? = some b ∧ b.tunnelId = c.tunnelId ∧ b.Owns y c.opener := by
  have hfits := hs.fits k c hc
  have hentry := (live_eq_some.mp hl).1
  obtain ⟨j, hj⟩ := hs.entry _ _ y hentry
  obtain ⟨b, hb, hid, howns⟩ := hs.owner y c.opener _ j hj
  refine ⟨j, b, ?_, hb, hid, howns⟩
  rintro rfl
  obtain rfl : b = c := Option.some.inj (hb.symm.trans hc)
  rcases howns with ⟨-, hactive⟩ | ⟨hside, -⟩
  · rw [← hactive] at hentry
    exact hfits.early (by rw [hp]; rfl) hentry
  · cases ho : b.opener <;> rw [ho] at hside <;> cases hside

/-- A call that ends with `AlreadyExists` found, when it came to register, a live tunnel of another
control open with its id. -/
theorem conflict_found (evs : List Event) (hc : (run evs).controls[k]? = some c)
    (hconflict : c.phase.Conflicts) :
    ∃ pre post y j b, evs = pre ++ .register k :: post ∧
      (run pre).live c.opener c.key = some y ∧ j ≠ k ∧ (run pre).controls[j]? = some b ∧
      b.tunnelId = c.tunnelId ∧ b.Owns y c.opener := by
  have hend : ¬ ∀ d, (exec step init evs).controls[k]? = some d → ¬ d.phase.Conflicts :=
    fun hno => hno c hc hconflict
  obtain ⟨pre, ev, post, rfl, hbefore, hafter⟩ := exec_break
    (I := fun v : World => ∀ d, v.controls[k]? = some d → ¬ d.phase.Conflicts)
    (fun d hd => by cases hd) hend
  have hs : Sound (run pre) := run_sound pre
  have hadvance := step_advance hs ev
  push Not at hafter
  obtain ⟨d', hd', hd'conflict⟩ := hafter
  -- the control open was there before the step, and the step is its registration
  cases hd : (run pre).controls[k]? with
  | none => exact absurd hd'conflict (hadvance.new k d' hd' hd)
  | some d =>
    obtain ⟨d'', hd'', -, -, hgo⟩ := hadvance.old k d hd
    obtain rfl : d'' = d' := Option.some.inj (hd''.symm.trans hd')
    rcases hgo hd'conflict with hold | ⟨rfl, hp, y, hl⟩
    · exact absurd hold (hbefore d hd)
    · obtain ⟨j, b, hne, hb, hid, howns⟩ := live_other hs hd hp hl
      obtain ⟨c', hc', ho, hid'⟩ := exec_control hs hd (.register k :: post)
      rw [← run_append, hc] at hc'
      obtain rfl : c = c' := Option.some.inj hc'
      refine ⟨pre, post, y, j, b, rfl, ?_, hne, hb, hid.trans hid'.symm, ?_⟩
      · rw [Control.key, ho, hid']
        exact hl
      · rw [ho]
        exact howns

/-- Where only the other end has an open with the id, it is the tunnel of its request. -/
theorem conflict_crossing (evs : List Event) {b : Control} (hc : (run evs).controls[k]? = some c)
    (hb : (run evs).controls[j]? = some b) (hopener : b.opener = !c.opener)
    (honly : ∀ (i : Nat) e, (run evs).controls[i]? = some e → e.tunnelId = c.tunnelId → i = k ∨ i = j)
    (hconflict : c.phase.Conflicts) :
    ∃ pre post y b', evs = pre ++ .register k :: post ∧ (run pre).controls[j]? = some b' ∧
      b'.passive = some y ∧ (run pre).live c.opener c.key = some y := by
  obtain ⟨pre, post, y, i, e, rfl, hl, hne, he, hid, howns⟩ := conflict_found evs hc hconflict
  obtain ⟨e', he', ho, hid'⟩ := exec_control (run_sound pre) he (.register k :: post)
  rw [← run_append] at he'
  obtain rfl : i = j := (honly i e' he' (hid'.trans hid)).resolve_left hne
  obtain rfl : b = e' := Option.some.inj (hb.symm.trans he')
  refine ⟨pre, post, y, e, rfl, he, ?_, hl⟩
  rcases howns with ⟨hside, -⟩ | ⟨-, hpassive⟩
  · rw [← ho, hopener] at hside
    cases hco : c.opener <;> rw [hco] at hside <;> cases hside
  · exact hpassive

/-- Once the call at an end has registered the tunnel that the other end has accepted, a data open of
that other end finds it until it is closed; and a call is told `AlreadyExists` only because its end
has a live tunnel of another control open, that of the other end's request where the two are alone. -/
theorem routable (evs : List Event) :
    (∀ (d x k : Nat) c, (run evs).opens[d]? = some ⟨x, .forwarded⟩ →
      (run evs).controls[k]? = some c → c.passive = some x →
      ((run evs).step (.lookup d)).opens[d]? = some ⟨x, .rejected notEstablished⟩ →
      c.phase.held = true → (run evs).isClosedFlag c.active = true) ∧
    (∀ (k : Nat) c, (run evs).controls[k]? = some c → c.phase.Conflicts →
      ∃ pre post y j b, evs = pre ++ .register k :: post ∧
        (run pre).live c.opener c.key = some y ∧ j ≠ k ∧ (run pre).controls[j]? = some b ∧
        b.tunnelId = c.tunnelId ∧ b.Owns y c.opener) ∧
    (∀ (k j : Nat) c b, (run evs).controls[k]? = some c → (run evs).controls[j]? = some b →
      b.opener = (!c.opener) →
      (∀ (i : Nat) e, (run evs).controls[i]? = some e → e.tunnelId = c.tunnelId → i = k ∨ i = j) →
      c.phase.Conflicts →
      ∃ pre post y b', evs = pre ++ .register k :: post ∧ (run pre).controls[j]? = some b' ∧
        b'.passive = some y ∧ (run pre).live c.opener c.key = some y) := by
  refine ⟨fun d x k c hd hc hx hr hheld => ?_, fun k c hc hconflict => ?_,
    fun k j c b hc hb hopener honly hconflict => ?_⟩
  · exact lookup_rejected (run_sound evs) hd hc hx hr hheld
  · exact conflict_found evs hc hconflict
  · exact conflict_crossing evs hc hb hopener honly hconflict

/-- The passive end accepts, and its data open overtakes its answer. -/
def overtaking : List Event :=
  [.openControl false 7, .forwardRequest 0, .registerPassive 0, .readyPassive 0, .answer 0 true,
    .openData 1, .forwardData 0, .lookup 0]

/-- Both ends open, and each accepts the other's request before it reads its answer. -/
def crossing : List Event :=
  [.openControl false 7, .openControl true 7, .forwardRequest 0, .forwardRequest 1,
    .registerPassive 0, .registerPassive 1, .readyPassive 0, .readyPassive 1, .answer 0 true,
    .answer 1 true, .forwardAnswer 0, .forwardAnswer 1, .readAnswer 0, .readAnswer 1, .register 0,
    .register 1]

/-- The tunnel is not closed, and the call still waits; in the other run both calls fail. -/
theorem unroutable :
    ((run overtaking).opens = [⟨1, .rejected notEstablished⟩] ∧
      (run overtaking).controls.map (fun c => (c.passive, c.handler, c.phase)) =
        [(some 1, .answered, .waiting)] ∧ (run overtaking).isClosedFlag 0 = false) ∧
    (run crossing).controls.map (fun c => (c.opener, c.phase)) =
      [(false, .returned (.error ⟨.alreadyExists, "pn control tunnel already exists"⟩)),
        (true, .returned (.error ⟨.alreadyExists, "pn control tunnel already exists"⟩))] := by
  decide +kernel

end World

end BuckyP2p.Pn.ControlOpen
