import BuckyP2p.Base
import BuckyP2p.Lib.Lists
import BuckyP2p.Lib.Runs
import BuckyP2p.Lib.Table

/-!
# BuckyP2p.Net.Subscriptions — who takes the incoming tunnels (`networks/net_manager.rs`)

Registrations, drops of guards and any number of `dispatch_tunnel`s on one manager.  A dispatch is
cut where its validator or a subscriber may suspend it and where it lets go of the lock of the
subscriptions.

An owner is the number of its guard, and a callback is known by the owner it was registered with.
`answers` is a book that the code does not keep: who was asked for the tunnel, and what was said.
-/

namespace BuckyP2p.Net.Subscriptions

open Lib

inductive IncomingTunnelSubscription
  | legacy | acceptance
  deriving DecidableEq

inductive IncomingTunnelAcceptance
  | accepted | rejected
  deriving DecidableEq

inductive ValidateResult
  | accept
  | reject (reason : String)

structure IncomingTunnelSubscriptionEntry where
  owner : Nat
  subscription : IncomingTunnelSubscription
  deriving DecidableEq

structure IncomingTunnelSubscriptionGuard where
  localId : P2pId
  subscription : IncomingTunnelSubscription
  dropped : Bool
  deriving DecidableEq

/-! ## One dispatch -/

inductive SelectedSubscriber
  | legacy (owner : Nat)
  | acceptance (subscriber : Nat)
  deriving DecidableEq

def IncomingTunnelSubscriptionEntry.selected (entry : IncomingTunnelSubscriptionEntry) :
    SelectedSubscriber :=
  match entry.subscription with
  | .legacy => .legacy entry.owner
  | .acceptance => .acceptance entry.owner

inductive Phase
  /-- The validator has the tunnel. -/
  | validating
  /-- In `publish_tunnel`, before it reads the subscriptions. -/
  | publishing
  | calling (subscriber : SelectedSubscriber)
  /-- The legacy callback of `owner` has returned false. -/
  | refused (owner : Nat)
  /-- Before `close_tunnel`. -/
  | closing
  | returned (result : IncomingTunnelAcceptance)
  deriving DecidableEq

structure Dispatch where
  localId : P2pId
  phase : Phase
  answers : List (Nat × Bool)
  /-- The calls of `close`. -/
  closes : Nat
  deriving DecidableEq

/-- What a dispatch does next, with the answer it has waited for. -/
inductive Turn
  | validate (verdict : P2pResult ValidateResult)
  | select
  | answer (accepted : Bool)
  | cleanUp
  | close

/-- `close_tunnel` drops the error of `close`. -/
def Dispatch.turn (selected : Option SelectedSubscriber) (t : Dispatch) : Turn → Dispatch
  | .validate verdict =>
    match t.phase, verdict with
    | .validating, .ok .accept => { t with phase := .publishing }
    | .validating, .ok (.reject _) => { t with phase := .closing }
    | .validating, .error _ => { t with phase := .closing }
    | _, _ => t
  | .select =>
    match t.phase, selected with
    | .publishing, some subscriber => { t with phase := .calling subscriber }
    | .publishing, none => { t with phase := .closing }
    | _, _ => t
  | .answer accepted =>
    match t.phase, accepted with
    | .calling (.legacy owner), true =>
      { t with phase := .returned .accepted, answers := t.answers ++ [(owner, true)] }
    | .calling (.legacy owner), false =>
      { t with phase := .refused owner, answers := t.answers ++ [(owner, false)] }
    | .calling (.acceptance subscriber), true =>
      { t with phase := .returned .accepted, answers := t.answers ++ [(subscriber, true)] }
    | .calling (.acceptance subscriber), false =>
      { t with phase := .closing, answers := t.answers ++ [(subscriber, false)] }
    | _, _ => t
  | .cleanUp =>
    match t.phase with
    | .refused _ => { t with phase := .closing }
    | _ => t
  | .close =>
    match t.phase with
    | .closing => { t with phase := .returned .rejected, closes := t.closes + 1 }
    | _ => t

/-! ## The manager -/

structure NetManager where
  subscriptions : Table P2pId IncomingTunnelSubscriptionEntry
  guards : List IncomingTunnelSubscriptionGuard
  dispatches : List Dispatch

def start : NetManager := ⟨∅, [], []⟩

namespace NetManager

/-- `contains_key` and `insert` are under one lock. -/
def registerIncomingTunnelSubscription (toBase36 : P2pId → String) (m : NetManager)
    (localId : P2pId) (subscription : IncomingTunnelSubscription) : P2pResult NetManager :=
  match m.subscriptions.lookup localId with
  | some _ =>
    .error ⟨.alreadyExists, "tunnel acceptor already exists for " ++ toBase36 localId⟩
  | none =>
    .ok { m with
      subscriptions := m.subscriptions.insert localId ⟨m.guards.length, subscription⟩
      guards := m.guards ++ [⟨localId, subscription, false⟩] }

/-- `publish_tunnel` does the same for a legacy callback that has returned false. -/
def unregisterOwnedIncomingTunnelSubscriber (m : NetManager) (localId : P2pId) (owner : Nat) :
    NetManager :=
  match m.subscriptions.lookup localId with
  | some current =>
    if current.owner = owner then { m with subscriptions := m.subscriptions.erase localId } else m
  | none => m

def dropGuard (m : NetManager) (g : Nat) : NetManager :=
  match m.guards[g]? with
  | some guard =>
    if guard.dropped then m
    else
      { m.unregisterOwnedIncomingTunnelSubscriber guard.localId g with
        guards := m.guards.set g { guard with dropped := true } }
  | none => m

def dispatchTunnel (m : NetManager) (localId : P2pId) : NetManager :=
  { m with dispatches := m.dispatches ++ [⟨localId, .validating, [], 0⟩] }

/-- The subscriptions after the next turn of a dispatch. -/
def cleaned (m : NetManager) (t : Dispatch) : Turn → NetManager
  | .cleanUp =>
    match t.phase with
    | .refused owner => m.unregisterOwnedIncomingTunnelSubscriber t.localId owner
    | _ => m
  | _ => m

def turn (m : NetManager) (d : Nat) (x : Turn) : NetManager :=
  match m.dispatches[d]? with
  | some t =>
    let selected := (m.subscriptions.lookup t.localId).map IncomingTunnelSubscriptionEntry.selected
    { m.cleaned t x with dispatches := m.dispatches.set d (t.turn selected x) }
  | none => m

end NetManager

inductive Event
  | register (localId : P2pId) (subscription : IncomingTunnelSubscription)
  | dropGuard (g : Nat)
  | dispatch (localId : P2pId)
  | turn (d : Nat) (x : Turn)

def step (toBase36 : P2pId → String) (m : NetManager) : Event → NetManager
  | .register localId subscription =>
    match m.registerIncomingTunnelSubscription toBase36 localId subscription with
    | .ok registered => registered
    | .error _ => m
  | .dropGuard g => m.dropGuard g
  | .dispatch localId => m.dispatchTunnel localId
  | .turn d x => m.turn d x

/-! ## What is expected -/

/-- The callback of the subscription `g` has returned false. -/
def Refused (m : NetManager) (g : Nat) : Prop :=
  ∃ (d : Nat) (t : Dispatch), m.dispatches[d]? = some t ∧ (g, false) ∈ t.answers

/-- A tunnel that is reported was accepted by one subscriber of its local id, or it was closed. -/
structure Dispatch.Reported (m : NetManager) (t : Dispatch) : Prop where
  accepted : t.phase = .returned .accepted → t.closes = 0 ∧
    ∃ g guard, m.guards[g]? = some guard ∧ guard.localId = t.localId ∧ t.answers = [(g, true)]
  rejected : t.phase = .returned .rejected → t.closes = 1 ∧ ∀ x ∈ t.answers, x.2 = false

/-- A subscription goes with its own guard, or when its own callback has returned false. -/
def GoesByItself (toBase36 : P2pId → String) (m : NetManager) (ev : Event) : Prop :=
  ∀ localId entry, m.subscriptions.lookup localId = some entry →
    (step toBase36 m ev).subscriptions.lookup localId = some entry ∨
    (ev = .dropGuard entry.owner ∧
      m.guards[entry.owner]? = some ⟨localId, entry.subscription, false⟩) ∨
    (entry.subscription = .legacy ∧ ∃ (d : Nat) (t : Dispatch), ev = .turn d .cleanUp ∧
      m.dispatches[d]? = some t ∧ t.phase = .refused entry.owner ∧
      (entry.owner, false) ∈ t.answers)

/-- All that a dispatch does, with the answers it gets. -/
def turns (verdict : P2pResult ValidateResult) (accepted : Bool) : List Turn :=
  [.validate verdict, .select, .answer accepted, .cleanUp, .close]

/-! ## What an operation does to the subscriptions -/

variable {m : NetManager} {localId : P2pId} {entry : IncomingTunnelSubscriptionEntry}

@[simp] theorem unregister_guards (m : NetManager) (localId : P2pId) (owner : Nat) :
    (m.unregisterOwnedIncomingTunnelSubscriber localId owner).guards = m.guards := by
  unfold NetManager.unregisterOwnedIncomingTunnelSubscriber
  split
  · split <;> rfl
  · rfl

@[simp] theorem unregister_dispatches (m : NetManager) (localId : P2pId) (owner : Nat) :
    (m.unregisterOwnedIncomingTunnelSubscriber localId owner).dispatches = m.dispatches := by
  unfold NetManager.unregisterOwnedIncomingTunnelSubscriber
  split
  · split <;> rfl
  · rfl

theorem lookup_unregister {id : P2pId} {owner : Nat} :
    (m.unregisterOwnedIncomingTunnelSubscriber id owner).subscriptions.lookup localId = some entry ↔
      m.subscriptions.lookup localId = some entry ∧ ¬ (localId = id ∧ entry.owner = owner) := by
  unfold NetManager.unregisterOwnedIncomingTunnelSubscriber
  split
  · next current hcurrent =>
    split
    · next howner =>
      rw [Table.lookup_erase_some]
      constructor
      · rintro ⟨hne, hold⟩
        exact ⟨hold, fun h => hne h.1⟩
      · rintro ⟨hold, hother⟩
        refine ⟨?_, hold⟩
        rintro rfl
        cases hcurrent.symm.trans hold
        exact hother ⟨rfl, howner⟩
    · next howner =>
      refine ⟨fun hold => ⟨hold, ?_⟩, And.left⟩
      rintro ⟨rfl, rfl⟩
      cases hcurrent.symm.trans hold
      exact howner rfl
  · next hnone =>
    refine ⟨fun hold => ⟨hold, ?_⟩, And.left⟩
    rintro ⟨rfl, -⟩
    cases hnone.symm.trans hold

@[simp] theorem cleaned_guards (m : NetManager) (t : Dispatch) (x : Turn) :
    (m.cleaned t x).guards = m.guards := by
  unfold NetManager.cleaned
  split
  · split <;> simp
  · rfl

theorem lookup_cleaned {t : Dispatch} {x : Turn} :
    (m.cleaned t x).subscriptions.lookup localId = some entry ↔
      m.subscriptions.lookup localId = some entry ∧
        ¬ (x = .cleanUp ∧ t.phase = .refused entry.owner ∧ localId = t.localId) := by
  unfold NetManager.cleaned
  split
  · split
    · next owner hphase =>
      rw [lookup_unregister, hphase]
      constructor
      · rintro ⟨hold, hother⟩
        refine ⟨hold, ?_⟩
        rintro ⟨-, howner, rfl⟩
        cases howner
        exact hother ⟨rfl, rfl⟩
      · rintro ⟨hold, hother⟩
        refine ⟨hold, ?_⟩
        rintro ⟨rfl, rfl⟩
        exact hother ⟨rfl, rfl, rfl⟩
    · next hphase =>
      refine ⟨fun hold => ⟨hold, ?_⟩, And.left⟩
      rintro ⟨-, howner, -⟩
      exact hphase _ howner
  · next hx =>
    refine ⟨fun hold => ⟨hold, ?_⟩, And.left⟩
    rintro ⟨rfl, -⟩
    exact hx rfl

theorem dropGuard_cases (m : NetManager) (g : Nat) :
    m.dropGuard g = m ∨ ∃ localId subscription, m.guards[g]? = some ⟨localId, subscription, false⟩ ∧
      m.dropGuard g = { m.unregisterOwnedIncomingTunnelSubscriber localId g with
        guards := m.guards.set g ⟨localId, subscription, true⟩ } := by
  unfold NetManager.dropGuard
  split
  · next guard hg =>
    obtain ⟨localId, subscription, dropped⟩ := guard
    cases dropped with
    | true => exact .inl rfl
    | false => exact .inr ⟨localId, subscription, hg, rfl⟩
  · exact .inl rfl

theorem turn_cases (m : NetManager) (d : Nat) (x : Turn) :
    m.turn d x = m ∨ ∃ t, m.dispatches[d]? = some t ∧
      m.turn d x = { m.cleaned t x with
        dispatches := m.dispatches.set d
          (t.turn ((m.subscriptions.lookup t.localId).map IncomingTunnelSubscriptionEntry.selected)
            x) } := by
  unfold NetManager.turn
  split
  · next t ht => exact .inr ⟨t, ht, rfl⟩
  · exact .inl rfl

/-! ## The dispatches -/

/-- `g` is a subscription of this kind and of the local id of `t`. -/
def Asked (m : NetManager) (t : Dispatch) (g : Nat) (subscription : IncomingTunnelSubscription) :
    Prop :=
  ∃ guard, m.guards[g]? = some guard ∧ guard.localId = t.localId ∧ guard.subscription = subscription

def SelectedSubscriber.Of (m : NetManager) (t : Dispatch) : SelectedSubscriber → Prop
  | .legacy owner => Asked m t owner .legacy
  | .acceptance subscriber => Asked m t subscriber .acceptance

/-- What the book of a dispatch holds where the dispatch stands. -/
def Sound (m : NetManager) (t : Dispatch) : Prop :=
  match t.phase with
  | .validating | .publishing => t.answers = [] ∧ t.closes = 0
  | .calling subscriber => subscriber.Of m t ∧ t.answers = [] ∧ t.closes = 0
  | .refused owner => Asked m t owner .legacy ∧ t.answers = [(owner, false)] ∧ t.closes = 0
  | .closing => (∀ x ∈ t.answers, x.2 = false) ∧ t.closes = 0
  | .returned .accepted => t.closes = 0 ∧
    ∃ g guard, m.guards[g]? = some guard ∧ guard.localId = t.localId ∧ t.answers = [(g, true)]
  | .returned .rejected => t.closes = 1 ∧ ∀ x ∈ t.answers, x.2 = false

/-- The subscriptions of `m` are also those of `m'`, with more of them perhaps. -/
def Extends (m m' : NetManager) : Prop :=
  ∀ (g : Nat) guard, m.guards[g]? = some guard → ∃ guard', m'.guards[g]? = some guard' ∧
    guard'.localId = guard.localId ∧ guard'.subscription = guard.subscription

variable {t : Dispatch} {m' : NetManager}

theorem Asked.mono {g : Nat} {subscription : IncomingTunnelSubscription}
    (h : Asked m t g subscription) (hext : Extends m m') : Asked m' t g subscription := by
  obtain ⟨guard, hg, hid, hkind⟩ := h
  obtain ⟨guard', hg', hid', hkind'⟩ := hext g guard hg
  exact ⟨guard', hg', hid'.trans hid, hkind'.trans hkind⟩

theorem Sound.mono (h : Sound m t) (hext : Extends m m') : Sound m' t := by
  unfold Sound at h ⊢
  split
  · next hphase => simpa only [hphase] using h
  · next hphase => simpa only [hphase] using h
  · next subscriber hphase =>
    simp only [hphase] at h
    refine ⟨?_, h.2⟩
    cases subscriber with
    | legacy owner => exact Asked.mono h.1 hext
    | acceptance subscriber => exact Asked.mono h.1 hext
  · next hphase =>
    simp only [hphase] at h
    exact ⟨h.1.mono hext, h.2⟩
  · next hphase => simpa only [hphase] using h
  · next hphase =>
    simp only [hphase] at h
    obtain ⟨hcloses, g, guard, hg, hid, hanswers⟩ := h
    obtain ⟨guard', hg', hid', -⟩ := hext g guard hg
    exact ⟨hcloses, g, guard', hg', hid'.trans hid, hanswers⟩
  · next hphase => simpa only [hphase] using h

theorem Sound.reported (h : Sound m t) : t.Reported m := by
  constructor
  · intro hphase
    simpa only [Sound, hphase] using h
  · intro hphase
    simpa only [Sound, hphase] using h

theorem Sound.turn {selected : Option SelectedSubscriber} (h : Sound m t)
    (hselected : ∀ subscriber, selected = some subscriber → subscriber.Of m t) (x : Turn) :
    Sound m (t.turn selected x) := by
  obtain ⟨localId, phase, answers, closes⟩ := t
  cases phase with
  | validating =>
    cases x with
    | validate verdict =>
      obtain ⟨rfl, rfl⟩ := h
      match verdict with
      | .ok .accept => exact ⟨rfl, rfl⟩
      | .ok (.reject _) => exact ⟨List.forall_mem_nil _, rfl⟩
      | .error _ => exact ⟨List.forall_mem_nil _, rfl⟩
    | _ => exact h
  | publishing =>
    cases x with
    | select =>
      obtain ⟨rfl, rfl⟩ := h
      match selected with
      | some subscriber => exact ⟨hselected subscriber rfl, rfl, rfl⟩
      | none => exact ⟨List.forall_mem_nil _, rfl⟩
    | _ => exact h
  | calling subscriber =>
    cases x with
    | answer accepted =>
      obtain ⟨hof, rfl, rfl⟩ := h
      match subscriber, accepted with
      | .legacy owner, true =>
        obtain ⟨guard, hg, hid, -⟩ := hof
        exact ⟨rfl, owner, guard, hg, hid, rfl⟩
      | .legacy owner, false => exact ⟨hof, rfl, rfl⟩
      | .acceptance subscriber, true =>
        obtain ⟨guard, hg, hid, -⟩ := hof
        exact ⟨rfl, subscriber, guard, hg, hid, rfl⟩
      | .acceptance subscriber, false => exact ⟨by simp [Dispatch.turn], rfl⟩
    | _ => exact h
  | refused owner =>
    cases x with
    | cleanUp =>
      obtain ⟨-, rfl, rfl⟩ := h
      exact ⟨by simp [Dispatch.turn], rfl⟩
    | _ => exact h
  | closing =>
    cases x with
    | close =>
      obtain ⟨hanswers, rfl⟩ := h
      exact ⟨rfl, hanswers⟩
    | _ => exact h
  | returned result => cases x <;> exact h

/-- An answer stays in the book. -/
theorem answers_turn (selected : Option SelectedSubscriber) (t : Dispatch) (x : Turn) :
    t.answers ⊆ (t.turn selected x).answers := by
  unfold Dispatch.turn
  split <;> split <;> simp

/-! ## The invariant -/

/-- The subscription `g` is the registered one of its local id. -/
def Registered (m : NetManager) (g : Nat) (guard : IncomingTunnelSubscriptionGuard) : Prop :=
  m.subscriptions.lookup guard.localId = some ⟨g, guard.subscription⟩

structure Inv (m : NetManager) : Prop where
  entry : ∀ localId e, m.subscriptions.lookup localId = some e →
    m.guards[e.owner]? = some ⟨localId, e.subscription, false⟩
  kept : ∀ (g : Nat) guard, m.guards[g]? = some guard → Registered m g guard ∨
    guard.dropped = true ∨ guard.subscription = .legacy ∧ Refused m g
  sound : ∀ (d : Nat) t, m.dispatches[d]? = some t → Sound m t

theorem inv_start : Inv start where
  entry _ _ h := by cases h
  kept _ _ h := by cases h
  sound _ _ h := by cases h

theorem Inv.register (hinv : Inv m) (subscription : IncomingTunnelSubscription)
    (hvacant : m.subscriptions.lookup localId = none) :
    Inv { m with
      subscriptions := m.subscriptions.insert localId ⟨m.guards.length, subscription⟩
      guards := m.guards ++ [⟨localId, subscription, false⟩] } := by
  refine ⟨fun id e he => ?_, fun g guard hg => ?_, fun d t ht => ?_⟩
  · rcases Table.lookup_insert_some.mp he with ⟨rfl, rfl⟩ | ⟨-, hold⟩
    · exact List.getElem?_concat_length
    · exact getElem?_append_of_eq_some (hinv.entry id e hold)
  · rcases getElem?_push_cases hg with hold | ⟨rfl, rfl⟩
    · rcases hinv.kept g guard hold with hreg | hgone
      · refine .inl (Table.lookup_insert_some.mpr (.inr ⟨?_, hreg⟩))
        intro hid
        unfold Registered at hreg
        rw [hid, hvacant] at hreg
        cases hreg
      · exact .inr hgone
    · exact .inl (Table.lookup_insert_some.mpr (.inl ⟨rfl, rfl⟩))
  · refine (hinv.sound d t ht).mono fun g guard hg => ?_
    exact ⟨guard, getElem?_append_of_eq_some hg, rfl, rfl⟩

theorem Inv.dropGuard (hinv : Inv m) (g : Nat) : Inv (m.dropGuard g) := by
  rcases dropGuard_cases m g with heq | ⟨localId, subscription, hg, heq⟩
  · rwa [heq]
  rw [heq]
  refine ⟨fun id e he => ?_, fun h guard hh => ?_, fun d t ht => ?_⟩
  · obtain ⟨hold, hother⟩ := lookup_unregister.mp he
    have hentry := hinv.entry id e hold
    have hne : g ≠ e.owner := by
      rintro rfl
      cases hg.symm.trans hentry
      exact hother ⟨rfl, rfl⟩
    exact (List.getElem?_set_ne hne).trans hentry
  · rcases getElem?_set_cases hg hh with ⟨rfl, rfl⟩ | ⟨hne, hold⟩
    · exact .inr (.inl rfl)
    · rcases hinv.kept h guard hold with hreg | hdropped | ⟨hkind, d, t, ht, hanswer⟩
      · exact .inl (lookup_unregister.mpr ⟨hreg, fun hboth => hne hboth.2⟩)
      · exact .inr (.inl hdropped)
      · exact .inr (.inr ⟨hkind, d, t, by simpa using ht, hanswer⟩)
  · refine (hinv.sound d t (by simpa using ht)).mono fun h guard hh => ?_
    by_cases hgh : g = h
    · subst hgh
      cases hg.symm.trans hh
      exact ⟨_, List.getElem?_set_self (List.getElem?_eq_some_iff.mp hg).1, rfl, rfl⟩
    · exact ⟨guard, (List.getElem?_set_ne hgh).trans hh, rfl, rfl⟩

theorem Inv.dispatch (hinv : Inv m) (localId : P2pId) : Inv (m.dispatchTunnel localId) := by
  refine ⟨hinv.entry, fun g guard hg => ?_, fun d t ht => ?_⟩
  · rcases hinv.kept g guard hg with hreg | hdropped | ⟨hkind, d, t, ht, hanswer⟩
    · exact .inl hreg
    · exact .inr (.inl hdropped)
    · exact .inr (.inr ⟨hkind, d, t, getElem?_append_of_eq_some ht, hanswer⟩)
  · rcases getElem?_push_cases ht with hold | ⟨rfl, rfl⟩
    · exact hinv.sound d t hold
    · exact ⟨rfl, rfl⟩

theorem Inv.selected (hinv : Inv m) (t : Dispatch) (subscriber : SelectedSubscriber)
    (h : (m.subscriptions.lookup t.localId).map IncomingTunnelSubscriptionEntry.selected =
      some subscriber) : subscriber.Of m t := by
  obtain ⟨e, he, rfl⟩ := Option.map_eq_some_iff.mp h
  have hentry := hinv.entry t.localId e he
  unfold IncomingTunnelSubscriptionEntry.selected
  split
  · next hkind => exact ⟨_, hentry, rfl, hkind⟩
  · next hkind => exact ⟨_, hentry, rfl, hkind⟩

/-- A dispatch that takes an entry out has asked its callback. -/
theorem Inv.refuses (hinv : Inv m) {d : Nat} (ht : m.dispatches[d]? = some t)
    (hentry : m.subscriptions.lookup localId = some entry)
    (hphase : t.phase = .refused entry.owner) :
    entry.subscription = .legacy ∧ (entry.owner, false) ∈ t.answers := by
  have hsound := hinv.sound d t ht
  simp only [Sound, hphase] at hsound
  obtain ⟨⟨guard, hg, -, hkind⟩, hanswers, -⟩ := hsound
  cases hg.symm.trans (hinv.entry localId entry hentry)
  rw [hanswers]
  exact ⟨hkind, List.mem_singleton_self _⟩

theorem Inv.turn (hinv : Inv m) (d : Nat) (x : Turn) : Inv (m.turn d x) := by
  rcases turn_cases m d x with heq | ⟨t, ht, heq⟩
  · rwa [heq]
  rw [heq]
  have hext : Extends m { m.cleaned t x with
      dispatches := m.dispatches.set d
        (t.turn ((m.subscriptions.lookup t.localId).map IncomingTunnelSubscriptionEntry.selected)
          x) } :=
    fun g guard hg => ⟨guard, by simpa using hg, rfl, rfl⟩
  refine ⟨fun id e he => ?_, fun g guard hg => ?_, fun h u hu => ?_⟩
  · simpa using hinv.entry id e (lookup_cleaned.mp he).1
  · have hold : m.guards[g]? = some guard := by simpa using hg
    have hself : (m.dispatches.set d (t.turn ((m.subscriptions.lookup t.localId).map
        IncomingTunnelSubscriptionEntry.selected) x))[d]? = some _ :=
      List.getElem?_set_self (List.getElem?_eq_some_iff.mp ht).1
    rcases hinv.kept g guard hold with hreg | hdropped | ⟨hkind, h, u, hu, hanswer⟩
    · by_cases hclean : x = .cleanUp ∧ t.phase = .refused g ∧ guard.localId = t.localId
      · obtain ⟨hkind, hanswer⟩ := hinv.refuses ht hreg hclean.2.1
        exact .inr (.inr ⟨hkind, d, _, hself, answers_turn _ t x hanswer⟩)
      · exact .inl (lookup_cleaned.mpr ⟨hreg, hclean⟩)
    · exact .inr (.inl hdropped)
    · refine .inr (.inr ⟨hkind, ?_⟩)
      by_cases hdh : d = h
      · subst hdh
        cases ht.symm.trans hu
        exact ⟨d, _, hself, answers_turn _ t x hanswer⟩
      · exact ⟨h, u, (List.getElem?_set_ne hdh).trans hu, hanswer⟩
  · rcases getElem?_set_cases ht hu with ⟨rfl, rfl⟩ | ⟨-, hold⟩
    · exact ((hinv.sound h t ht).turn (hinv.selected t) x).mono hext
    · exact (hinv.sound h u hold).mono hext

variable {toBase36 : P2pId → String}

/-- A local id has one subscription at a time. -/
theorem register_cases (m : NetManager) (localId : P2pId)
    (subscription : IncomingTunnelSubscription) :
    step toBase36 m (.register localId subscription) = m ∨
      m.subscriptions.lookup localId = none ∧ step toBase36 m (.register localId subscription) =
        { m with
          subscriptions := m.subscriptions.insert localId ⟨m.guards.length, subscription⟩
          guards := m.guards ++ [⟨localId, subscription, false⟩] } := by
  unfold step
  dsimp only
  unfold NetManager.registerIncomingTunnelSubscription
  cases h : m.subscriptions.lookup localId with
  | some current => exact .inl rfl
  | none => exact .inr ⟨rfl, rfl⟩

theorem Inv.step (hinv : Inv m) (ev : Event) : Inv (step toBase36 m ev) := by
  cases ev with
  | register localId subscription =>
    rcases register_cases m localId subscription with heq | ⟨hvacant, heq⟩
    · rwa [heq]
    · rw [heq]
      exact hinv.register subscription hvacant
  | dropGuard g => exact hinv.dropGuard g
  | dispatch localId => exact hinv.dispatch localId
  | turn d x => exact hinv.turn d x

theorem Inv.goesByItself (hinv : Inv m) (ev : Event) : GoesByItself toBase36 m ev := by
  intro localId entry hentry
  cases ev with
  | register id subscription =>
    rcases register_cases m id subscription with heq | ⟨hvacant, heq⟩
    · rw [heq]
      exact .inl hentry
    · rw [heq]
      refine .inl (Table.lookup_insert_some.mpr (.inr ⟨?_, hentry⟩))
      rintro rfl
      cases hvacant.symm.trans hentry
  | dropGuard g =>
    rcases dropGuard_cases m g with heq | ⟨id, subscription, hg, heq⟩
    · exact .inl (by rwa [Subscriptions.step, heq])
    by_cases hown : localId = id ∧ entry.owner = g
    · obtain ⟨-, rfl⟩ := hown
      exact .inr (.inl ⟨rfl, hinv.entry localId entry hentry⟩)
    · refine .inl ?_
      rw [Subscriptions.step, heq]
      exact lookup_unregister.mpr ⟨hentry, hown⟩
  | dispatch id => exact .inl hentry
  | turn d x =>
    rcases turn_cases m d x with heq | ⟨t, ht, heq⟩
    · exact .inl (by rwa [Subscriptions.step, heq])
    by_cases hclean : x = .cleanUp ∧ t.phase = .refused entry.owner ∧ localId = t.localId
    · obtain ⟨rfl, hphase, -⟩ := hclean
      obtain ⟨hkind, hanswer⟩ := hinv.refuses ht hentry hphase
      exact .inr (.inr ⟨hkind, d, t, rfl, ht, hphase, hanswer⟩)
    · refine .inl ?_
      rw [Subscriptions.step, heq]
      exact lookup_cleaned.mpr ⟨hentry, hclean⟩

/-! ## Every dispatch returns -/

/-- The turns that are left. -/
def Phase.left : Phase → Nat
  | .validating => 5
  | .publishing => 4
  | .calling _ => 3
  | .refused _ => 2
  | .closing => 1
  | .returned _ => 0

/-- What is left after this turn. -/
def Turn.leaves : Turn → Nat
  | .validate _ => 4
  | .select => 3
  | .answer _ => 2
  | .cleanUp => 1
  | .close => 0

theorem returned_of_left {phase : Phase} (h : phase.left = 0) : ∃ r, phase = .returned r := by
  cases phase with
  | returned r => exact ⟨r, rfl⟩
  | _ => cases h

theorem left_turn (selected : Option SelectedSubscriber) (t : Dispatch) (x : Turn) :
    (t.turn selected x).phase.left ≤ t.phase.left ∧
      (t.phase.left ≤ x.leaves + 1 → (t.turn selected x).phase.left ≤ x.leaves) := by
  obtain ⟨localId, phase, answers, closes⟩ := t
  cases x with
  | validate verdict =>
    cases phase with
    | validating =>
      rcases verdict with error | (_ | reason) <;> simp [Dispatch.turn, Phase.left, Turn.leaves]
    | _ => simp [Dispatch.turn, Phase.left, Turn.leaves]
  | select =>
    cases phase with
    | publishing => cases selected <;> simp [Dispatch.turn, Phase.left, Turn.leaves]
    | _ => simp [Dispatch.turn, Phase.left, Turn.leaves]
  | answer accepted =>
    cases phase with
    | calling subscriber =>
      cases subscriber <;> cases accepted <;> simp [Dispatch.turn, Phase.left, Turn.leaves]
    | _ => simp [Dispatch.turn, Phase.left, Turn.leaves]
  | cleanUp => cases phase <;> simp [Dispatch.turn, Phase.left, Turn.leaves]
  | close => cases phase <;> simp [Dispatch.turn, Phase.left, Turn.leaves]

theorem left_step (toBase36 : P2pId → String) {d : Nat} (ht : m.dispatches[d]? = some t) (ev : Event) :
    ∃ t', (step toBase36 m ev).dispatches[d]? = some t' ∧ t'.phase.left ≤ t.phase.left ∧
      ∀ x, ev = .turn d x → t.phase.left ≤ x.leaves + 1 → t'.phase.left ≤ x.leaves := by
  have hsame : m.dispatches[d]? = some t ∧ t.phase.left ≤ t.phase.left := ⟨ht, le_rfl⟩
  cases ev with
  | register localId subscription =>
    rcases register_cases m localId subscription with heq | ⟨-, heq⟩
    · rw [heq]
      exact ⟨t, ht, le_rfl, by rintro x ⟨⟩⟩
    · rw [heq]
      exact ⟨t, ht, le_rfl, by rintro x ⟨⟩⟩
  | dropGuard g =>
    refine ⟨t, ?_, le_rfl, by rintro x ⟨⟩⟩
    rcases dropGuard_cases m g with heq | ⟨id, subscription, -, heq⟩
    · rwa [step, heq]
    · rw [step, heq]
      simpa using ht
  | dispatch localId => exact ⟨t, getElem?_append_of_eq_some ht, le_rfl, by rintro x ⟨⟩⟩
  | turn h x =>
    have hturn : (m.turn h x).dispatches[d]? = some (if h = d then
        t.turn ((m.subscriptions.lookup t.localId).map IncomingTunnelSubscriptionEntry.selected) x
        else t) := by
      by_cases hhd : h = d
      · subst hhd
        rw [NetManager.turn, ht, if_pos rfl]
        exact List.getElem?_set_self (List.getElem?_eq_some_iff.mp ht).1
      · rw [if_neg hhd]
        rcases turn_cases m h x with heq | ⟨u, -, heq⟩
        · rwa [heq]
        · rw [heq]
          exact (List.getElem?_set_ne hhd).trans ht
    refine ⟨_, hturn, ?_, ?_⟩
    · split
      · exact (left_turn _ t x).1
      · exact le_rfl
    · rintro y ⟨⟩ hleft
      rw [if_pos rfl]
      exact (left_turn _ t x).2 hleft

/-- The turns `xs` are the last `k` ones of a dispatch. -/
def Finishes : Nat → List Turn → Prop
  | k, [] => k = 0
  | k, x :: xs => k = x.leaves + 1 ∧ Finishes x.leaves xs

theorem left_exec (toBase36 : P2pId → String) (is : List Event) {d k : Nat}
    (ht : m.dispatches[d]? = some t) (hleft : t.phase.left ≤ k) :
    ∃ t', (exec (step toBase36) m is).dispatches[d]? = some t' ∧ t'.phase.left ≤ k := by
  let I : NetManager → Prop := fun m => ∃ t', m.dispatches[d]? = some t' ∧ t'.phase.left ≤ k
  refine exec_inv_all (I := I) ?_ ⟨t, ht, hleft⟩ is
  rintro s ev ⟨u, hu, hle⟩
  obtain ⟨u', hu', hle', -⟩ := left_step toBase36 hu ev
  exact ⟨u', hu', hle'.trans hle⟩

/-- A dispatch gets on with its turns, whatever happens between them. -/
theorem returns {d : Nat} {k : Nat} {xs : List Turn} (hxs : Finishes k xs) {is : List Event}
    (his : (xs.map (Event.turn d)).Sublist is) (ht : m.dispatches[d]? = some t)
    (hleft : t.phase.left ≤ k) :
    ∃ t' r, (exec (step toBase36) m is).dispatches[d]? = some t' ∧ t'.phase = .returned r := by
  induction xs generalizing m t k is with
  | nil =>
    obtain rfl : k = 0 := hxs
    obtain ⟨t', ht', hle⟩ := left_exec toBase36 is ht hleft
    obtain ⟨r, hr⟩ := returned_of_left (Nat.le_zero.mp hle)
    exact ⟨t', r, ht', hr⟩
  | cons x xs ih =>
    obtain ⟨rfl, hxs⟩ := hxs
    obtain ⟨before, after, rfl, hx, hrest⟩ := List.cons_sublist_iff.mp his
    obtain ⟨pre, mid, rfl⟩ := List.append_of_mem hx
    -- at its turn, and after the steps up to where the next one may be
    obtain ⟨u, hu, hle⟩ := left_exec toBase36 pre ht hleft
    obtain ⟨v, hv, -, hturn⟩ := left_step toBase36 hu (.turn d x)
    obtain ⟨w, hw, hle'⟩ := left_exec toBase36 mid hv (hturn x rfl hle)
    rw [exec_append, exec_append, exec_cons]
    exact ih hxs hrest hw hle'

/-- In every state of every run a reported tunnel was accepted once or closed once, a dispatch whose
callbacks answer returns, and a subscription that is gone went by itself. -/
theorem subscriptions_sound (toBase36 : P2pId → String) (is : List Event) :
    (∀ (d : Nat) t, (exec (step toBase36) start is).dispatches[d]? = some t →
      t.Reported (exec (step toBase36) start is) ∧
      ∀ verdict accepted later, ((turns verdict accepted).map (Event.turn d)).Sublist later →
        ∃ t' r, (exec (step toBase36) start (is ++ later)).dispatches[d]? = some t' ∧
          t'.phase = .returned r) ∧
    (∀ (g : Nat) guard, (exec (step toBase36) start is).guards[g]? = some guard →
      Registered (exec (step toBase36) start is) g guard ∨ guard.dropped = true ∨
        guard.subscription = .legacy ∧ Refused (exec (step toBase36) start is) g) ∧
    Along (step toBase36) (GoesByItself toBase36) start is := by
  have hinv : Inv (exec (step toBase36) start is) :=
    exec_inv_all (I := Inv) (fun s ev h => h.step ev) inv_start is
  refine ⟨fun d t ht => ⟨(hinv.sound d t ht).reported, ?_⟩, hinv.kept, ?_⟩
  · intro verdict accepted later hlater
    rw [exec_append]
    have hfinishes : Finishes 5 (turns verdict accepted) := ⟨rfl, rfl, rfl, rfl, rfl, rfl⟩
    refine returns hfinishes hlater ht ?_
    cases t.phase <;> simp [Phase.left]
  · exact along_of_inv (C := fun _ _ => True) (fun s ev h _ => h.step ev)
      (fun s ev h _ => h.goesByItself ev) inv_start (along_true _ _)

/-- A late callback of a subscription that was replaced. -/
example : (exec (step fun _ => "") start [.register [7] .legacy, .dispatch [7],
    .turn 0 (.validate (.ok .accept)), .turn 0 .select, .dropGuard 0, .register [7] .legacy,
    .turn 0 (.answer false), .turn 0 .cleanUp, .turn 0 .close]).subscriptions.lookup [7] =
      some ⟨1, .legacy⟩ := by decide

end BuckyP2p.Net.Subscriptions
