import BuckyP2p.Lib.Runs
import BuckyP2p.Tunnel.Owners

/-!
# BuckyP2p.Tunnel.Collisions — two peers keep attempts of the same direction

Two managers offer each other rendezvous attempts, in any order and with any number of retries.
`Keeps` is the rule that the slots of both follow: an attempt of the peer with the smaller id, once
offered, is replaced by attempts of that peer only.
-/

namespace BuckyP2p.Tunnel

open Lib

/-- The peer that started an attempt which a manager has for a remote peer. -/
def initiator (localId remoteId : P2pId) (owner : RendezvousAttemptOwner) : P2pId :=
  if owner.initiatorLocal then localId else remoteId

/-- The smaller of two ids. -/
def smallerId (a b : P2pId) : P2pId := if a < b then a else b

theorem smallerId_comm (a b : P2pId) : smallerId a b = smallerId b a := by
  unfold smallerId
  rcases lt_trichotomy a b with h | rfl | h
  · rw [if_pos h, if_neg (lt_asymm h)]
  · rfl
  · rw [if_neg (lt_asymm h), if_pos h]

theorem newWins_iff {localId remoteId : P2pId} (hne : localId ≠ remoteId)
    (owner : RendezvousAttemptOwner) :
    ManagerState.newWins localId remoteId owner = true ↔
      initiator localId remoteId owner = smallerId localId remoteId := by
  unfold ManagerState.newWins initiator smallerId
  by_cases hlt : localId < remoteId
  · cases owner.initiatorLocal <;> simp [hlt, hne.symm]
  · cases owner.initiatorLocal <;> simp [hlt, hne]

/-! ## One manager -/

section OneManager

variable {st : ManagerState} {localId remoteId : P2pId} {owner : RendezvousAttemptOwner}
  {waiter : Option Nat}

/-- What a manager has in the slot of a peer. -/
def slot (st : ManagerState) (remoteId : P2pId) : Option RendezvousAttemptOwner :=
  st.rendezvousAttempts.lookup remoteId

theorem winnerOf_initiatorLocal (existing : RendezvousAttemptOwner) :
    (ManagerState.winnerOf existing owner).initiatorLocal = owner.initiatorLocal := by
  unfold ManagerState.winnerOf
  split_ifs with h
  · rfl
  · rfl

/-- The slot of a peer after an attempt was offered for it. -/
theorem install_slot (hslot : slot st remoteId = none) :
    slot (st.installRendezvousOwner localId remoteId owner waiter).2.1 remoteId = some owner := by
  unfold slot at hslot ⊢
  simp only [ManagerState.installRendezvousOwner, hslot,
    ManagerState.publishRendezvousWaiter_attempts]
  exact AList.lookup_insert _

theorem install_slot_taken (localId : P2pId) (owner : RendezvousAttemptOwner)
    (waiter : Option Nat) {existing : RendezvousAttemptOwner} (hslot : slot st remoteId = some existing) :
    (ManagerState.sameAttempt existing owner = true ∧
      slot (st.installRendezvousOwner localId remoteId owner waiter).2.1 remoteId = some existing) ∨
    (ManagerState.newWins localId remoteId owner = true ∧
      slot (st.installRendezvousOwner localId remoteId owner waiter).2.1 remoteId =
        some (ManagerState.winnerOf existing owner) ∧
      (ManagerState.yieldsTo existing owner = true → .yielded existing.token ∈
        (st.installRendezvousOwner localId remoteId owner waiter).2.2)) ∨
    (ManagerState.newWins localId remoteId owner = false ∧
      ManagerState.yieldsTo owner existing = true ∧
      slot (st.installRendezvousOwner localId remoteId owner waiter).2.1 remoteId =
        some (ManagerState.takesOver existing owner) ∧
      .yielded owner.token ∈ (st.installRendezvousOwner localId remoteId owner waiter).2.2) ∨
    (ManagerState.newWins localId remoteId owner = false ∧
      ManagerState.yieldsTo owner existing = false ∧
      slot (st.installRendezvousOwner localId remoteId owner waiter).2.1 remoteId =
        some existing) := by
  unfold slot at hslot ⊢
  simp only [ManagerState.installRendezvousOwner, hslot]
  by_cases hsame : ManagerState.sameAttempt existing owner = true
  · rw [if_pos hsame]
    exact .inl ⟨hsame, hslot⟩
  · rw [if_neg hsame]
    refine .inr ?_
    by_cases hwins : ManagerState.newWins localId remoteId owner = true
    · rw [if_pos hwins]
      refine .inl ⟨hwins, ?_, ?_⟩
      · show AList.lookup remoteId (st.displace remoteId existing owner waiter).1.rendezvousAttempts = _
        rw [ManagerState.displace_attempts]
        exact AList.lookup_insert _
      · intro hyields
        simp [ManagerState.displace, hyields]
    · rw [if_neg hwins]
      rw [Bool.not_eq_true] at hwins
      refine .inr ?_
      by_cases hyields : ManagerState.yieldsTo owner existing = true
      · rw [if_pos hyields]
        refine .inl ⟨hwins, hyields, AList.lookup_insert _, ?_⟩
        exact List.mem_cons_self ..
      · rw [if_neg hyields]
        rw [Bool.not_eq_true] at hyields
        exact .inr ⟨hwins, hyields, hslot⟩

theorem install_slot_other {other : P2pId} (hne : other ≠ remoteId) :
    slot (st.installRendezvousOwner localId remoteId owner waiter).2.1 other = slot st other := by
  unfold slot ManagerState.installRendezvousOwner
  cases st.rendezvousAttempts.lookup remoteId with
  | none =>
    simp only [ManagerState.publishRendezvousWaiter_attempts]
    exact AList.lookup_insert_ne hne
  | some existing =>
    dsimp only
    split_ifs with hsame hwins hyields
    · rfl
    · show AList.lookup other (st.displace remoteId existing owner waiter).1.rendezvousAttempts = _
      rw [ManagerState.displace_attempts]
      exact AList.lookup_insert_ne hne
    · exact AList.lookup_insert_ne hne
    · rfl

/-- The slot has an attempt of the peer with the smaller id. -/
def Keeps (localId remoteId : P2pId) (st : ManagerState) : Prop :=
  ∃ owner, slot st remoteId = some owner ∧
    initiator localId remoteId owner = smallerId localId remoteId

theorem initiator_congr {x y : RendezvousAttemptOwner} (h : x.initiatorLocal = y.initiatorLocal) :
    initiator localId remoteId x = initiator localId remoteId y := by
  unfold initiator
  rw [h]

theorem keeps_offered (hne : localId ≠ remoteId)
    (h : initiator localId remoteId owner = smallerId localId remoteId) :
    Keeps localId remoteId (st.installRendezvousOwner localId remoteId owner waiter).2.1 := by
  have hwins := (newWins_iff hne owner).mpr h
  cases hslot : slot st remoteId with
  | none => exact ⟨owner, install_slot hslot, h⟩
  | some existing =>
    rcases install_slot_taken localId owner waiter hslot with
      ⟨hsame, hafter⟩ | ⟨-, hafter, -⟩ | ⟨hloses, -⟩ | ⟨hloses, -⟩
    · refine ⟨existing, hafter, ?_⟩
      have hlocal : existing.initiatorLocal = owner.initiatorLocal := by
        simp only [ManagerState.sameAttempt, Bool.and_eq_true, decide_eq_true_eq] at hsame
        exact hsame.1.1
      rw [initiator_congr hlocal]
      exact h
    · refine ⟨_, hafter, ?_⟩
      rw [initiator_congr (winnerOf_initiatorLocal existing)]
      exact h
    · rw [hwins] at hloses
      cases hloses
    · rw [hwins] at hloses
      cases hloses

theorem keeps_install (hne : localId ≠ remoteId) (h : Keeps localId remoteId st) (other : P2pId) :
    Keeps localId remoteId (st.installRendezvousOwner localId other owner waiter).2.1 := by
  by_cases hother : remoteId = other
  · subst hother
    obtain ⟨existing, hslot, hfirst⟩ := h
    rcases install_slot_taken localId owner waiter hslot with
      ⟨-, hafter⟩ | ⟨hwins, hafter, -⟩ | ⟨-, -, hafter, -⟩ | ⟨-, -, hafter⟩
    · exact ⟨existing, hafter, hfirst⟩
    · refine ⟨_, hafter, ?_⟩
      rw [initiator_congr (winnerOf_initiatorLocal existing)]
      exact (newWins_iff hne owner).mp hwins
    · exact ⟨_, hafter, hfirst⟩
    · exact ⟨existing, hafter, hfirst⟩
  · obtain ⟨existing, hslot, hfirst⟩ := h
    exact ⟨existing, (install_slot_other hother).trans hslot, hfirst⟩

/-- A local attempt that loses to a remote one is marked and leaves the survivor who waits for it. -/
theorem install_yields {existing survivor : RendezvousAttemptOwner}
    (hslot : slot st remoteId = some existing)
    (hdiffer : existing.initiatorLocal ≠ owner.initiatorLocal)
    (hafter : slot (st.installRendezvousOwner localId remoteId owner waiter).2.1 remoteId =
      some survivor) (hremote : survivor.initiatorLocal = false) :
    ∃ loser, (loser = existing ∨ loser = owner) ∧ loser.initiatorLocal = true ∧
      .yielded loser.token ∈ (st.installRendezvousOwner localId remoteId owner waiter).2.2 ∧
      ∀ w ∈ loser.winnerCompletions, w ∈ survivor.winnerCompletions := by
  rcases install_slot_taken localId owner waiter hslot with
    ⟨hsame, -⟩ | ⟨-, hslot', hyields⟩ | ⟨-, hlost, hslot', hyielded⟩ | ⟨-, hkept, hslot'⟩
  · simp only [ManagerState.sameAttempt, Bool.and_eq_true, decide_eq_true_eq] at hsame
    exact absurd hsame.1.1 hdiffer
  · obtain rfl := Option.some.inj (hslot'.symm.trans hafter)
    rw [winnerOf_initiatorLocal] at hremote
    have hlocal : existing.initiatorLocal = true := by
      rw [hremote] at hdiffer
      exact Bool.not_eq_false _ |>.mp hdiffer
    have hgives : ManagerState.yieldsTo existing owner = true := by
      simp [ManagerState.yieldsTo, hlocal, hremote]
    refine ⟨existing, .inl rfl, hlocal, hyields hgives, fun w hw => ?_⟩
    rw [ManagerState.winnerOf, if_pos hgives]
    exact List.mem_append_right _ hw
  · obtain rfl := Option.some.inj (hslot'.symm.trans hafter)
    simp only [ManagerState.yieldsTo, Bool.and_eq_true] at hlost
    exact ⟨owner, .inr rfl, hlost.1, hyielded, fun w hw => List.mem_append_right _ hw⟩
  · obtain rfl := Option.some.inj (hslot'.symm.trans hafter)
    have hlocal : owner.initiatorLocal = true := by
      rw [hremote] at hdiffer
      exact Bool.not_eq_false _ |>.mp (Ne.symm hdiffer)
    simp [ManagerState.yieldsTo, hlocal, hremote] at hkept

end OneManager

/-! ## Two managers -/

inductive Peer
  | first | second
  deriving DecidableEq, Repr

structure Managers where
  first : ManagerState
  second : ManagerState

/-- An attempt that is offered to one of the managers. -/
structure Offer where
  manager : Peer
  remoteId : P2pId
  owner : RendezvousAttemptOwner
  waiter : Option Nat

namespace Managers

def new : Managers := ⟨.new, .new⟩

def ofPeer (s : Managers) : Peer → ManagerState
  | .first => s.first
  | .second => s.second

end Managers

def Peer.id (a b : P2pId) : Peer → P2pId
  | .first => a
  | .second => b

def Peer.other : Peer → Peer
  | .first => .second
  | .second => .first

def Managers.install (a b : P2pId) (s : Managers) (o : Offer) : Managers :=
  match o.manager with
  | .first => { s with
      first := (s.first.installRendezvousOwner a o.remoteId o.owner o.waiter).2.1 }
  | .second => { s with
      second := (s.second.installRendezvousOwner b o.remoteId o.owner o.waiter).2.1 }

section TwoManagers

variable {a b : P2pId}

theorem Peer.id_ne (hne : a ≠ b) (p : Peer) : p.id a b ≠ p.other.id a b := by
  cases p with
  | first => exact hne
  | second => exact hne.symm

theorem Peer.smallerId_eq (p : Peer) : smallerId (p.id a b) (p.other.id a b) = smallerId a b := by
  cases p with
  | first => rfl
  | second => exact smallerId_comm b a

theorem install_ofPeer (s : Managers) (o : Offer) (p : Peer) :
    (s.install a b o).ofPeer p = if o.manager = p then
      ((s.ofPeer p).installRendezvousOwner (p.id a b) o.remoteId o.owner o.waiter).2.1
    else s.ofPeer p := by
  obtain ⟨manager, remoteId, owner, waiter⟩ := o
  cases manager <;> cases p <;> rfl

/-- The offer is one of the smaller peer's attempts, for the slot that the two peers share. -/
def Offer.decides (a b : P2pId) (p : Peer) (o : Offer) : Prop :=
  o.manager = p ∧ o.remoteId = p.other.id a b ∧
    initiator (p.id a b) (p.other.id a b) o.owner = smallerId a b

theorem keeps_step (hne : a ≠ b) (p : Peer) (s : Managers) (o : Offer)
    (h : Keeps (p.id a b) (p.other.id a b) (s.ofPeer p) ∨ o.decides a b p) :
    Keeps (p.id a b) (p.other.id a b) ((s.install a b o).ofPeer p) := by
  rw [install_ofPeer]
  rcases h with hkeeps | ⟨hmanager, hremote, hfirst⟩
  · split_ifs with hmanager
    · exact keeps_install (p.id_ne hne) hkeeps o.remoteId
    · exact hkeeps
  · rw [if_pos hmanager, hremote]
    refine keeps_offered (p.id_ne hne) ?_
    rw [hfirst, p.smallerId_eq]

theorem keeps_exec (hne : a ≠ b) (p : Peer) (s : Managers) (offers : List Offer)
    (h : Keeps (p.id a b) (p.other.id a b) (s.ofPeer p) ∨ ∃ o ∈ offers, o.decides a b p) :
    Keeps (p.id a b) (p.other.id a b) ((exec (Managers.install a b) s offers).ofPeer p) := by
  induction offers generalizing s with
  | nil =>
    rcases h with hkeeps | ⟨o, hmem, -⟩
    · exact hkeeps
    · cases hmem
  | cons o offers ih =>
    refine ih (s.install a b o) ?_
    rcases h with hkeeps | ⟨o', hmem, hdecides⟩
    · exact .inl (keeps_step hne p s o (.inl hkeeps))
    · rcases List.mem_cons.mp hmem with rfl | hlater
      · exact .inl (keeps_step hne p s o' (.inr hdecides))
      · exact .inr ⟨o', hlater, hdecides⟩

/-- Whatever is offered in whatever order: a manager that was offered an attempt of the smaller peer
has one of its attempts, so the two managers agree on the direction; and whenever a local attempt
loses to a remote one it is marked and the survivor takes over who waits for it. -/
theorem collisions_agree (a b : P2pId) (hne : a ≠ b) (offers : List Offer) :
    (∀ p : Peer, (∃ o ∈ offers, o.decides a b p) →
      ∃ owner, slot ((exec (Managers.install a b) .new offers).ofPeer p) (p.other.id a b) =
        some owner ∧ initiator (p.id a b) (p.other.id a b) owner = smallerId a b) ∧
    ((∀ p : Peer, ∃ o ∈ offers, o.decides a b p) →
      ∃ x y, slot (exec (Managers.install a b) .new offers).first b = some x ∧
        slot (exec (Managers.install a b) .new offers).second a = some y ∧
        initiator a b x = initiator b a y) ∧
    (∀ (p : Peer) (owner existing survivor : RendezvousAttemptOwner) (waiter : Option Nat),
      slot ((exec (Managers.install a b) .new offers).ofPeer p) (p.other.id a b) = some existing →
      existing.initiatorLocal ≠ owner.initiatorLocal →
      slot (((exec (Managers.install a b) .new offers).ofPeer p).installRendezvousOwner (p.id a b)
        (p.other.id a b) owner waiter).2.1 (p.other.id a b) = some survivor →
      survivor.initiatorLocal = false →
      ∃ loser, (loser = existing ∨ loser = owner) ∧ loser.initiatorLocal = true ∧
        .yielded loser.token ∈ (((exec (Managers.install a b) .new offers).ofPeer
          p).installRendezvousOwner (p.id a b) (p.other.id a b) owner waiter).2.2 ∧
        ∀ w ∈ loser.winnerCompletions, w ∈ survivor.winnerCompletions) := by
  have hkeeps : ∀ p : Peer, (∃ o ∈ offers, o.decides a b p) →
      ∃ owner, slot ((exec (Managers.install a b) .new offers).ofPeer p) (p.other.id a b) =
        some owner ∧ initiator (p.id a b) (p.other.id a b) owner = smallerId a b := by
    intro p hoffered
    obtain ⟨owner, hslot, hfirst⟩ := keeps_exec hne p .new offers (.inr hoffered)
    exact ⟨owner, hslot, hfirst.trans p.smallerId_eq⟩
  refine ⟨hkeeps, fun hboth => ?_, fun p owner existing survivor waiter => install_yields⟩
  obtain ⟨x, hx, hxfirst⟩ := hkeeps .first (hboth .first)
  obtain ⟨y, hy, hyfirst⟩ := hkeeps .second (hboth .second)
  exact ⟨x, y, hx, hy, hxfirst.trans hyfirst.symm⟩

/-- An attempt of peer `[1]`, as peer `[2]` is told about it. -/
def remoteAttempt : RendezvousAttemptOwner := ⟨1, false, none, none, 7, [], 0⟩

theorem collisions_agree_remote :
    ([1] : P2pId) ≠ [2] ∧ ∃ owner,
      slot ((exec (Managers.install [1] [2]) .new [⟨.second, [1], remoteAttempt, none⟩]).ofPeer
        .second) [1] = some owner ∧ initiator [2] [1] owner = smallerId [1] [2] :=
  have hne : ([1] : P2pId) ≠ [2] := by decide
  ⟨hne, (collisions_agree [1] [2] hne [⟨.second, [1], remoteAttempt, none⟩]).1 .second
    ⟨_, List.mem_singleton_self _, rfl, rfl, by decide⟩⟩

end TwoManagers

end BuckyP2p.Tunnel
