import BuckyP2p.Lib.Lists
import BuckyP2p.Lib.Runs
import BuckyP2p.Lib.Table
import BuckyP2p.Tcp.Lease

/-!
# BuckyP2p.Stream.Listeners — listeners and their guards (`stream_manager.rs`, `datagram_manager.rs`)

The calls of the three functions that listen on a purpose and the drops of the guards they return,
on one stack.  They are cut where the lock of a registry is let go: a call tests its purpose and
inserts its sender under two locks, a drop stops its listener, takes out what its purpose is
registered with, and stops that.

A listener, its sender and what they share are known by the number of the guard.
-/

namespace BuckyP2p.Stream.Listeners

open Lib
open Tcp (TunnelPurpose)

inductive ListenerKind
  /-- `StreamManager::listen` and `StreamListenerGuard`. -/
  | stream
  /-- `StreamManager::listen_control_stream` and `ControlStreamListenerGuard`. -/
  | controlStream
  /-- `DatagramManager::listen` and `DatagramListenerGuard`. -/
  | datagram
  deriving DecidableEq, Repr

/-- `TunnelPurpose` as it is displayed. -/
def displayPurpose (purpose : TunnelPurpose) : String :=
  "0x" ++ String.join (purpose.map fun byte =>
    String.ofList [Nat.digitChar (byte.val / 16), Nat.digitChar (byte.val % 16)])

def alreadyListen (purpose : TunnelPurpose) : ListenerKind → P2pError
  | .stream =>
    ⟨.streamPortAlreadyListen, "stream purpose " ++ displayPurpose purpose ++ " already listen"⟩
  | .controlStream =>
    ⟨.streamPortAlreadyListen,
      "control stream purpose " ++ displayPurpose purpose ++ " already listen"⟩
  | .datagram =>
    ⟨.datagramPortAlreadyListen, "datagram purpose " ++ displayPurpose purpose ++ " already listen"⟩

/-! ## The registry -/

/-- The senders by their purposes. -/
abbrev ListenPurposeRegistry : Type := Table TunnelPurpose Nat

namespace ListenPurposeRegistry

def contains (registry : ListenPurposeRegistry) (purpose : TunnelPurpose) : Bool :=
  (AList.lookup purpose registry).isSome

/-- With the sender that it takes the place of. -/
def insert (registry : ListenPurposeRegistry) (purpose : TunnelPurpose) (listener : Nat) :
    ListenPurposeRegistry × Option Nat :=
  (AList.insert purpose listener registry, AList.lookup purpose registry)

/-- With the sender that was there. -/
def remove (registry : ListenPurposeRegistry) (purpose : TunnelPurpose) :
    ListenPurposeRegistry × Option Nat :=
  (AList.erase purpose registry, AList.lookup purpose registry)

end ListenPurposeRegistry

/-! ## Calls and guards -/

inductive CallPhase
  /-- Nothing is registered, and the sender is not inserted. -/
  | checked
  | refused (error : P2pError)
  | returned (guard : Nat)
  deriving DecidableEq

structure ListenCall where
  kind : ListenerKind
  purpose : TunnelPurpose
  phase : CallPhase
  deriving DecidableEq

inductive GuardPhase
  | live
  /-- `drop` has stopped the listener. -/
  | stopped
  /-- `remove` has taken `sender` out. -/
  | removed (sender : Option Nat)
  | dropped
  deriving DecidableEq

structure ListenerGuard where
  kind : ListenerKind
  listenerPurpose : TunnelPurpose
  /-- Of what the listener and its sender share. -/
  isStop : Bool
  /-- `accepted_rx` is closed. -/
  closed : Bool
  phase : GuardPhase
  deriving DecidableEq

/-- `channel`, and the guard of its listener. -/
def ListenerGuard.channel (kind : ListenerKind) (listenerPurpose : TunnelPurpose) : ListenerGuard :=
  ⟨kind, listenerPurpose, false, false, .live⟩

/-- `StreamListener::stop`, `DatagramListener::stop`. -/
def ListenerGuard.stop (guard : ListenerGuard) : ListenerGuard :=
  { guard with isStop := true, closed := true, phase := .stopped }

/-- `StreamListenerSender::stop`, `DatagramListenerSender::stop`. -/
def ListenerGuard.stopSender (guard : ListenerGuard) : ListenerGuard := { guard with isStop := true }

structure Managers where
  /-- `StreamManager::listeners`, `control_listeners` and `DatagramManager::listeners`. -/
  registries : ListenerKind → ListenPurposeRegistry
  guards : List ListenerGuard
  calls : List ListenCall

def start : Managers := ⟨fun _ => ∅, [], []⟩

namespace Managers

def registered (m : Managers) (kind : ListenerKind) (purpose : TunnelPurpose) : Option Nat :=
  AList.lookup purpose (m.registries kind)

/-- A call up to the end of its test. -/
def listen (m : Managers) (kind : ListenerKind) (purpose : TunnelPurpose) : Managers :=
  let phase : CallPhase :=
    if (m.registries kind).contains purpose then .refused (alreadyListen purpose kind) else .checked
  { m with calls := m.calls ++ [⟨kind, purpose, phase⟩] }

/-- The call from its insert on. -/
def insert (m : Managers) (c : Nat) : Managers :=
  match m.calls[c]? with
  | some ⟨kind, purpose, .checked⟩ =>
    let (registry, _) := (m.registries kind).insert purpose m.guards.length
    { registries := Function.update m.registries kind registry
      guards := m.guards ++ [.channel kind purpose]
      calls := m.calls.set c ⟨kind, purpose, .returned m.guards.length⟩ }
  | _ => m

/-- `drop` of the guard up to the stop of its listener. -/
def dropGuard (m : Managers) (g : Nat) : Managers :=
  match m.guards[g]? with
  | some guard =>
    if guard.phase = .live then { m with guards := m.guards.set g guard.stop } else m
  | none => m

/-- `remove_listener`, `remove_control_listener` up to the end of `remove`. -/
def removeListener (m : Managers) (g : Nat) : Managers :=
  match m.guards[g]? with
  | some guard =>
    if guard.phase = .stopped then
      let (registry, sender) := (m.registries guard.kind).remove guard.listenerPurpose
      { m with
        registries := Function.update m.registries guard.kind registry
        guards := m.guards.set g { guard with phase := .removed sender } }
    else m
  | none => m

/-- The stop of what `remove` has returned; the drop ends. -/
def stopRemoved (m : Managers) (g : Nat) : Managers :=
  match m.guards[g]? with
  | some guard =>
    match guard.phase with
    | .removed sender =>
      let guards := match sender with
        | some sender => m.guards.modify sender ListenerGuard.stopSender
        | none => m.guards
      { m with guards := guards.modify g fun guard => { guard with phase := .dropped } }
    | _ => m
  | none => m

end Managers

inductive Event
  | listen (kind : ListenerKind) (purpose : TunnelPurpose)
  | insert (c : Nat)
  | drop (g : Nat)
  | remove (g : Nat)
  | stop (g : Nat)
  deriving DecidableEq

def step (m : Managers) : Event → Managers
  | .listen kind purpose => m.listen kind purpose
  | .insert c => m.insert c
  | .drop g => m.dropGuard g
  | .remove g => m.removeListener g
  | .stop g => m.stopRemoved g

/-- The steps of the drop of a guard. -/
def dropSteps (g : Nat) : List Event := [.drop g, .remove g, .stop g]

def Live (m : Managers) (g : Nat) (guard : ListenerGuard) : Prop :=
  m.guards[g]? = some guard ∧ guard.phase = .live

/-- No listener disturbs another one: what has been done so far, and what the next step of a drop
does. -/
structure Undisturbed (m : Managers) : Prop where
  unique : ∀ g h guard other, Live m g guard → Live m h other → guard.kind = other.kind →
    guard.listenerPurpose = other.listenerPurpose → g = h
  registered : ∀ g guard, Live m g guard →
    m.registered guard.kind guard.listenerPurpose = some g
  spared : ∀ g h, g ≠ h → ∀ ev ∈ dropSteps g, (step m ev).guards[h]? = m.guards[h]? ∧
    ∀ kind purpose, m.registered kind purpose = some h →
      (step m ev).registered kind purpose = some h

/-- A sender is inserted where no other one is registered. -/
def Free (m : Managers) : Event → Prop
  | .insert c => ∀ kind purpose, m.calls[c]? = some ⟨kind, purpose, .checked⟩ →
    m.registered kind purpose = none
  | _ => True
/-! ## What a step can do -/

variable {m : Managers}

theorem registered_insert {kind : ListenerKind} {purpose : TunnelPurpose} {c : Nat}
    (hc : m.calls[c]? = some ⟨kind, purpose, .checked⟩) (k : ListenerKind) (p : TunnelPurpose)
    (h : Nat) :
    (m.insert c).registered k p = some h ↔
      (k = kind ∧ p = purpose) ∧ m.guards.length = h ∨
        ¬ (k = kind ∧ p = purpose) ∧ m.registered k p = some h := by
  have hreg : (m.insert c).registered k p = AList.lookup p
      (Function.update m.registries kind
        (AList.insert purpose m.guards.length (m.registries kind)) k) := by
    unfold Managers.registered Managers.insert
    rw [hc]
    rfl
  rw [hreg]
  by_cases hk : k = kind
  · subst hk
    rw [Function.update_self, Table.lookup_insert_some]
    simp [Managers.registered]
  · rw [Function.update_of_ne hk]
    simp [hk, Managers.registered]

theorem insert_guards {kind : ListenerKind} {purpose : TunnelPurpose} {c : Nat}
    (hc : m.calls[c]? = some ⟨kind, purpose, .checked⟩) :
    (m.insert c).guards = m.guards ++ [.channel kind purpose] := by
  unfold Managers.insert
  rw [hc]

/-- Only a call that has passed its test has anything to insert. -/
theorem insert_cases (m : Managers) (c : Nat) :
    m.insert c = m ∨ ∃ kind purpose, m.calls[c]? = some ⟨kind, purpose, .checked⟩ := by
  unfold Managers.insert
  split
  · next kind purpose hc => exact .inr ⟨kind, purpose, hc⟩
  · exact .inl rfl

theorem dropGuard_cases (m : Managers) (g : Nat) :
    m.dropGuard g = m ∨ ∃ guard, Live m g guard ∧
      m.dropGuard g = { m with guards := m.guards.set g guard.stop } := by
  unfold Managers.dropGuard
  split
  · next guard hg =>
    split
    · next hlive => exact .inr ⟨guard, ⟨hg, hlive⟩, rfl⟩
    · exact .inl rfl
  · exact .inl rfl

section
variable {g : Nat} {guard : ListenerGuard} (hg : m.guards[g]? = some guard)
  (hstopped : guard.phase = .stopped)
include hg hstopped

theorem removeListener_guards :
    (m.removeListener g).guards = m.guards.set g
      { guard with phase := .removed (m.registered guard.kind guard.listenerPurpose) } := by
  unfold Managers.removeListener
  rw [hg]
  dsimp only
  rw [if_pos hstopped]
  rfl

theorem registered_removeListener (k : ListenerKind) (p : TunnelPurpose) (h : Nat) :
    (m.removeListener g).registered k p = some h ↔
      ¬ (k = guard.kind ∧ p = guard.listenerPurpose) ∧ m.registered k p = some h := by
  have hreg : (m.removeListener g).registered k p = AList.lookup p
      (Function.update m.registries guard.kind
        (AList.erase guard.listenerPurpose (m.registries guard.kind)) k) := by
    unfold Managers.registered Managers.removeListener
    rw [hg]
    dsimp only
    rw [if_pos hstopped]
    rfl
  rw [hreg]
  by_cases hk : k = guard.kind
  · subst hk
    rw [Function.update_self, Table.lookup_erase_some]
    simp [Managers.registered]
  · rw [Function.update_of_ne hk]
    simp [hk, Managers.registered]

end

theorem removeListener_cases (m : Managers) (g : Nat) :
    m.removeListener g = m ∨
      ∃ guard : ListenerGuard, m.guards[g]? = some guard ∧ guard.phase = .stopped := by
  unfold Managers.removeListener
  split
  · next guard hg =>
    split
    · next hstopped => exact .inr ⟨guard, hg, hstopped⟩
    · exact .inl rfl
  · exact .inl rfl

theorem stopRemoved_cases (m : Managers) (g : Nat) :
    m.stopRemoved g = m ∨ ∃ guard sender, m.guards[g]? = some guard ∧
      guard.phase = .removed sender ∧ (m.stopRemoved g).registries = m.registries ∧
      (m.stopRemoved g).guards =
        (match sender with
          | some sender => m.guards.modify sender ListenerGuard.stopSender
          | none => m.guards).modify g fun guard => { guard with phase := .dropped } := by
  unfold Managers.stopRemoved
  split
  · next guard hg =>
    split
    · next sender hphase => exact .inr ⟨guard, sender, hg, hphase, rfl, rfl⟩
    · exact .inl rfl
  · exact .inl rfl

/-! ## The invariant -/

/-- The guard has not taken its listener out. -/
def ListenerGuard.Holds (guard : ListenerGuard) : Prop :=
  guard.phase = .live ∨ guard.phase = .stopped

/-- The registries and the guards that hold agree, and what a drop has taken out is its own. -/
structure Inv (m : Managers) : Prop where
  entry : ∀ kind purpose g, m.registered kind purpose = some g →
    ∃ guard, m.guards[g]? = some guard ∧ guard.kind = kind ∧ guard.listenerPurpose = purpose ∧
      guard.Holds
  held : ∀ g guard, m.guards[g]? = some guard → guard.Holds →
    m.registered guard.kind guard.listenerPurpose = some g
  taken : ∀ g sender, ∀ guard : ListenerGuard, m.guards[g]? = some guard →
    guard.phase = .removed (some sender) → sender = g

theorem inv_start : Inv start where
  entry _ _ _ h := by cases h
  held _ _ h := by cases h
  taken _ _ _ h := by cases h

theorem Inv.listen (hinv : Inv m) (kind : ListenerKind) (purpose : TunnelPurpose) :
    Inv (m.listen kind purpose) :=
  ⟨hinv.entry, hinv.held, hinv.taken⟩

theorem Inv.insert {c : Nat} (hinv : Inv m) (hfree : Free m (.insert c)) : Inv (m.insert c) := by
  rcases insert_cases m c with heq | ⟨kind, purpose, hc⟩
  · rwa [heq]
  have hreg := registered_insert hc
  have hguards := insert_guards hc
  refine ⟨fun k p h hh => ?_, fun h x hx hx' => ?_, fun h sender x hx hx' => ?_⟩
  · rw [hguards]
    rcases (hreg k p h).mp hh with ⟨⟨rfl, rfl⟩, rfl⟩ | ⟨-, hold⟩
    · exact ⟨_, List.getElem?_concat_length, rfl, rfl, .inl rfl⟩
    · obtain ⟨x, hx, hrest⟩ := hinv.entry k p h hold
      exact ⟨x, getElem?_append_of_eq_some hx, hrest⟩
  · rw [hguards] at hx
    rcases getElem?_push_cases hx with hx | ⟨rfl, rfl⟩
    · have hheld := hinv.held h x hx hx'
      refine (hreg _ _ h).mpr (.inr ⟨?_, hheld⟩)
      rintro ⟨hk, hp⟩
      rw [hk, hp, hfree kind purpose hc] at hheld
      cases hheld
    · exact (hreg _ _ _).mpr (.inl ⟨⟨rfl, rfl⟩, rfl⟩)
  · rw [hguards] at hx
    rcases getElem?_push_cases hx with hx | ⟨rfl, rfl⟩
    · exact hinv.taken h sender x hx hx'
    · cases hx'

theorem Inv.dropGuard (hinv : Inv m) (g : Nat) : Inv (m.dropGuard g) := by
  rcases dropGuard_cases m g with heq | ⟨guard, ⟨hg, hlive⟩, heq⟩
  · rwa [heq]
  rw [heq]
  refine ⟨fun k p h hh => ?_, fun h x hx hx' => ?_, fun h sender x hx hx' => ?_⟩
  · obtain ⟨x, hx, hk, hp, hx'⟩ := hinv.entry k p h hh
    by_cases hgh : g = h
    · subst hgh
      cases hg.symm.trans hx
      exact ⟨guard.stop, List.getElem?_set_self (List.getElem?_eq_some_iff.mp hg).1, hk, hp, .inr rfl⟩
    · exact ⟨x, (List.getElem?_set_ne hgh).trans hx, hk, hp, hx'⟩
  · rcases getElem?_set_cases hg hx with ⟨rfl, rfl⟩ | ⟨-, hx⟩
    · exact hinv.held h guard hg (.inl hlive)
    · exact hinv.held h x hx hx'
  · rcases getElem?_set_cases hg hx with ⟨rfl, rfl⟩ | ⟨-, hx⟩
    · cases hx'
    · exact hinv.taken h sender x hx hx'

/-- A purpose is registered with one sender: two guards that hold it are one. -/
theorem Inv.same (hinv : Inv m) {g h : Nat} {guard other : ListenerGuard}
    (hg : m.guards[g]? = some guard) (hguard : guard.Holds) (hh : m.guards[h]? = some other)
    (hother : other.Holds) (hk : guard.kind = other.kind)
    (hp : guard.listenerPurpose = other.listenerPurpose) : g = h := by
  have hheld := hinv.held g guard hg hguard
  rw [hk, hp, hinv.held h other hh hother] at hheld
  exact (Option.some.inj hheld).symm

theorem Inv.removeListener (hinv : Inv m) (g : Nat) : Inv (m.removeListener g) := by
  rcases removeListener_cases m g with heq | ⟨guard, hg, hstopped⟩
  · rwa [heq]
  have hguards := removeListener_guards hg hstopped
  have hreg := registered_removeListener hg hstopped
  have hheld := hinv.held g guard hg (.inr hstopped)
  refine ⟨fun k p h hh => ?_, fun h x hx hx' => ?_, fun h sender x hx hx' => ?_⟩
  · obtain ⟨hne, hold⟩ := (hreg k p h).mp hh
    obtain ⟨x, hx, hk, hp, hx'⟩ := hinv.entry k p h hold
    refine ⟨x, ?_, hk, hp, hx'⟩
    rw [hguards, List.getElem?_set_ne, hx]
    rintro rfl
    cases hg.symm.trans hx
    exact hne ⟨hk.symm, hp.symm⟩
  · rw [hguards] at hx
    rcases getElem?_set_cases hg hx with ⟨-, rfl⟩ | ⟨hne, hx⟩
    · rcases hx' with hx' | hx' <;> cases hx'
    · refine (hreg _ _ h).mpr ⟨?_, hinv.held h x hx hx'⟩
      rintro ⟨hk, hp⟩
      exact hne (hinv.same hx hx' hg (.inr hstopped) hk hp)
  · rw [hguards] at hx
    rcases getElem?_set_cases hg hx with ⟨rfl, rfl⟩ | ⟨-, hx⟩
    · rw [hheld] at hx'
      cases hx'
      rfl
    · exact hinv.taken h sender x hx hx'

/-- Of the guards, only the one whose drop it is has changed. -/
theorem Inv.stopRemoved_guards (hinv : Inv m) (g : Nat) :
    m.stopRemoved g = m ∨ (m.stopRemoved g).registries = m.registries ∧
      (∀ h, g ≠ h → (m.stopRemoved g).guards[h]? = m.guards[h]?) ∧
      ∃ guard guard' : ListenerGuard, m.guards[g]? = some guard ∧ ¬ guard.Holds ∧
        (m.stopRemoved g).guards[g]? = some guard' ∧ guard'.phase = .dropped := by
  rcases stopRemoved_cases m g with heq | ⟨guard, sender, hg, hphase, hregs, hguards⟩
  · exact .inl heq
  have hholds : ¬ guard.Holds := by
    rintro (h | h) <;> cases hphase.symm.trans h
  refine .inr ⟨hregs, ?_⟩
  rw [hguards]
  cases sender with
  | none =>
    exact ⟨fun h hne => List.getElem?_modify_ne _ _ hne,
      guard, _, hg, hholds, getElem?_modify_of_eq_some hg, rfl⟩
  | some sender =>
    cases hinv.taken g sender guard hg hphase
    refine ⟨fun h hne => ?_, guard, _, hg, hholds,
      getElem?_modify_of_eq_some (getElem?_modify_of_eq_some hg), rfl⟩
    exact (List.getElem?_modify_ne _ _ hne).trans (List.getElem?_modify_ne _ _ hne)

theorem Inv.stopRemoved (hinv : Inv m) (g : Nat) : Inv (m.stopRemoved g) := by
  rcases hinv.stopRemoved_guards g with
    heq | ⟨hregs, hne, guard, guard', hg, hholds, hg', hdropped⟩
  · rwa [heq]
  have hreg : (m.stopRemoved g).registered = m.registered := by
    unfold Managers.registered
    rw [hregs]
  refine ⟨fun k p h hh => ?_, fun h x hx hx' => ?_, fun h sender x hx hx' => ?_⟩
  · rw [hreg] at hh
    obtain ⟨x, hx, hrest⟩ := hinv.entry k p h hh
    refine ⟨x, (hne h ?_).trans hx, hrest⟩
    rintro rfl
    cases hg.symm.trans hx
    exact hholds hrest.2.2
  · rw [hreg]
    by_cases hgh : g = h
    · subst hgh
      cases hg'.symm.trans hx
      rcases hx' with hx' | hx' <;> cases hdropped.symm.trans hx'
    · exact hinv.held h x ((hne h hgh).symm.trans hx) hx'
  · by_cases hgh : g = h
    · subst hgh
      cases hg'.symm.trans hx
      cases hdropped.symm.trans hx'
    · exact hinv.taken h sender x ((hne h hgh).symm.trans hx) hx'

theorem Inv.step (m : Managers) (ev : Event) (hinv : Inv m) (hfree : Free m ev) :
    Inv (step m ev) := by
  cases ev with
  | listen kind purpose => exact hinv.listen kind purpose
  | insert c => exact hinv.insert hfree
  | drop g => exact hinv.dropGuard g
  | remove g => exact hinv.removeListener g
  | stop g => exact hinv.stopRemoved g

/-- A step of a drop leaves the other listeners alone. -/
theorem Inv.spared (hinv : Inv m) {g h : Nat} (hne : g ≠ h) {ev : Event} (hev : ev ∈ dropSteps g) :
    (Listeners.step m ev).guards[h]? = m.guards[h]? ∧
      ∀ kind purpose, m.registered kind purpose = some h →
        (Listeners.step m ev).registered kind purpose = some h := by
  have hevs : ev = .drop g ∨ ev = .remove g ∨ ev = .stop g := by simpa [dropSteps] using hev
  rcases hevs with rfl | rfl | rfl
  · show (m.dropGuard g).guards[h]? = _ ∧ ∀ k p, _ → (m.dropGuard g).registered k p = _
    rcases dropGuard_cases m g with heq | ⟨guard, -, heq⟩
    · rw [heq]
      exact ⟨rfl, fun _ _ hh => hh⟩
    · rw [heq]
      exact ⟨List.getElem?_set_ne hne, fun _ _ hh => hh⟩
  · show (m.removeListener g).guards[h]? = _ ∧ ∀ k p, _ → (m.removeListener g).registered k p = _
    rcases removeListener_cases m g with heq | ⟨guard, hg, hstopped⟩
    · rw [heq]
      exact ⟨rfl, fun _ _ hh => hh⟩
    · rw [removeListener_guards hg hstopped]
      refine ⟨List.getElem?_set_ne hne, fun k p hh => ?_⟩
      refine (registered_removeListener hg hstopped k p h).mpr ⟨?_, hh⟩
      rintro ⟨rfl, rfl⟩
      exact hne (Option.some.inj ((hinv.held g guard hg (.inr hstopped)).symm.trans hh))
  · show (m.stopRemoved g).guards[h]? = _ ∧ ∀ k p, _ → (m.stopRemoved g).registered k p = _
    rcases hinv.stopRemoved_guards g with heq | ⟨hregs, hguards, -⟩
    · rw [heq]
      exact ⟨rfl, fun _ _ hh => hh⟩
    · refine ⟨hguards h hne, fun k p hh => ?_⟩
      unfold Managers.registered
      rw [hregs]
      exact hh

theorem Inv.undisturbed (hinv : Inv m) : Undisturbed m where
  unique _ _ _ _ hg hh hk hp := hinv.same hg.1 (.inl hg.2) hh.1 (.inl hh.2) hk hp
  registered g guard hg := hinv.held g guard hg.1 (.inl hg.2)
  spared _ _ hne _ hev := hinv.spared hne hev

/-- The insert that is not free takes the place of a listener: its guard is live, or its drop goes on
to take the other one out. -/
theorem Inv.disturbed (hinv : Inv m) {ev : Event} (hfree : ¬ Free m ev) :
    ¬ Undisturbed (Listeners.step m ev) := by
  cases ev with
  | insert c =>
    intro hund
    obtain ⟨kind, purpose, hc, hsome⟩ :
        ∃ kind purpose, m.calls[c]? = some ⟨kind, purpose, .checked⟩ ∧
          m.registered kind purpose ≠ none := by
      simpa [Free] using hfree
    obtain ⟨g, hg⟩ := Option.ne_none_iff_exists'.mp hsome
    obtain ⟨guard, hguard, rfl, rfl, hholds⟩ := hinv.entry kind purpose g hg
    have hlt : g < m.guards.length := (List.getElem?_eq_some_iff.mp hguard).1
    have hguards := insert_guards hc
    have hold : (m.insert c).guards[g]? = some guard := by
      rw [hguards]
      exact getElem?_append_of_eq_some hguard
    have hnew : (m.insert c).guards[m.guards.length]? =
        some (.channel guard.kind guard.listenerPurpose) := by
      rw [hguards]
      exact List.getElem?_concat_length
    have hreg := (registered_insert hc guard.kind guard.listenerPurpose m.guards.length).mpr
      (.inl ⟨⟨rfl, rfl⟩, rfl⟩)
    rcases hholds with hlive | hstopped
    · have hsame := hund.unique g _ guard _ ⟨hold, hlive⟩ ⟨hnew, rfl⟩ rfl rfl
      omega
    · -- its `remove` is to come, and is by purpose
      have hkept := (hund.spared g m.guards.length (by omega) (.remove g) (by simp [dropSteps])).2
        _ _ hreg
      exact ((registered_removeListener hold hstopped _ _ _).mp hkept).1 ⟨rfl, rfl⟩
  | listen kind purpose => exact absurd trivial hfree
  | drop g => exact absurd trivial hfree
  | remove g => exact absurd trivial hfree
  | stop g => exact absurd trivial hfree

/-- **Listeners.**  They leave each other alone, in every state of a run, exactly when every sender of
the run is inserted where no other one is registered. -/
theorem undisturbed_iff (evs : List Event) :
    Along step Free start evs ↔
      ∀ pre, pre <+: evs → Undisturbed (exec step start pre) :=
  along_iff (I := Inv) Inv.step (fun _ hinv => hinv.undisturbed)
    (fun _ _ hinv hfree => hinv.disturbed hfree) inv_start evs

/-- Two calls test the purpose before either inserts; the drop of the first guard stops and takes out
the listener of the second one, which is live. -/
theorem overlapping_disturbed :
    let m := exec step start
      [.listen .stream [7], .listen .stream [7], .insert 0, .insert 1, .drop 0, .remove 0, .stop 0]
    m.guards[1]? = some ⟨.stream, [7], true, false, .live⟩ ∧ m.registered .stream [7] = none ∧
      ¬ Undisturbed m := by
  intro m
  have hguard : m.guards[1]? = some ⟨.stream, [7], true, false, .live⟩ := by decide
  have hnone : m.registered .stream [7] = none := by decide
  refine ⟨hguard, hnone, fun hund => ?_⟩
  cases hnone.symm.trans (hund.registered 1 _ ⟨hguard, rfl⟩)

end BuckyP2p.Stream.Listeners
