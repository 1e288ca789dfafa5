import BuckyP2p.Lib.Runs
import BuckyP2p.Tunnel.Owners

/-!
# BuckyP2p.Tunnel.OwnerBooks — the bookkeeping of rendezvous owners

Runs of the operations on rendezvous attempts and incoming waiters.  `OwnerSystem` numbers the
tokens in the order in which they are made and the senders in the order in which installs that
succeed are given them, and keeps everything that was done.

* `Balanced`: the senders that the owners hold together with those that got a completion are all the
  senders, each once.
* `Registered`: a waiter under the token of an owner is the waiter of the owner that has the slot.
-/

namespace BuckyP2p.Tunnel

open Lib

inductive OwnerOp
  | install (remoteId : P2pId) (seq : Sequence) (initiatorLocal : Bool)
    (expectedIncomingReverse : Option Bool) (tunnelId : TunnelId) (senders : Nat)
    (incomingWaiter : Option Nat)
  | attach (remoteId : P2pId) (seq : Sequence) (tunnelId : TunnelId) (token task : Nat)
  | complete (remoteId : P2pId) (seq : Sequence) (tunnelId : TunnelId) (token : Nat)
    (completion : RendezvousWinnerCompletion)
  | cancel (remoteId : P2pId) (seq : Sequence) (tunnelId : TunnelId) (token : Nat)
  | addIncomingWaiter (remoteId : P2pId) (tunnelId : TunnelId) (expectedReverse : Bool)
    (waiter : Nat)
  | removeIncomingWaiter (remoteId : P2pId) (tunnelId : TunnelId) (expectedReverse : Bool)
    (token : Nat)
  | takeIncomingWaiter (remoteId : P2pId) (tunnelId : TunnelId) (expectedReverse : Bool)
  | dropManager
  deriving DecidableEq, Repr

structure OwnerSystem where
  localId : P2pId
  state : ManagerState
  /-- The number of tokens that were made. -/
  tokens : Nat
  /-- The tokens of rendezvous owners. -/
  ownerTokens : List Nat
  /-- The number of senders that were handed to an install that returned `Ok`. -/
  handed : Nat
  effects : List OwnerEffect

namespace OwnerSystem

def new (localId : P2pId) : OwnerSystem := ⟨localId, .new, 0, [], 0, []⟩

/-- The owner that the next install is given. -/
def nextOwner (s : OwnerSystem) (seq : Sequence) (initiatorLocal : Bool)
    (expectedIncomingReverse : Option Bool) (tunnelId : TunnelId) (senders : Nat) :
    RendezvousAttemptOwner where
  seq := seq
  initiatorLocal := initiatorLocal
  task := none
  expectedIncomingReverse := expectedIncomingReverse
  tunnelId := tunnelId
  winnerCompletions := List.range' s.handed senders
  token := s.tokens

def does (s : OwnerSystem) (r : ManagerState × List OwnerEffect) : OwnerSystem :=
  { s with state := r.1, effects := s.effects ++ r.2 }

def step (s : OwnerSystem) : OwnerOp → OwnerSystem
  | .install remoteId seq initiatorLocal expectedIncomingReverse tunnelId senders waiter =>
    let r := s.state.installRendezvousOwner s.localId remoteId
      (s.nextOwner seq initiatorLocal expectedIncomingReverse tunnelId senders) waiter
    { s.does r.2 with
      tokens := s.tokens + 1
      ownerTokens := s.tokens :: s.ownerTokens
      handed := match r.1 with
        | .ok _ => s.handed + senders
        | .error _ => s.handed }
  | .attach remoteId seq tunnelId token task =>
    s.does (s.state.attachRendezvousTask remoteId seq tunnelId token task).2
  | .complete remoteId seq tunnelId token completion =>
    s.does (s.state.completeRendezvousOwner remoteId seq tunnelId token completion)
  | .cancel remoteId seq tunnelId token =>
    s.does (s.state.cancelRendezvousOwner remoteId seq tunnelId token)
  | .addIncomingWaiter remoteId tunnelId expectedReverse waiter =>
    { s with
      state := s.state.addIncomingWaiter remoteId tunnelId expectedReverse s.tokens waiter
      tokens := s.tokens + 1 }
  | .removeIncomingWaiter remoteId tunnelId expectedReverse token =>
    { s with state := s.state.removeIncomingWaiter remoteId tunnelId expectedReverse token }
  | .takeIncomingWaiter remoteId tunnelId expectedReverse =>
    { s with state := (s.state.takeIncomingWaiter remoteId tunnelId expectedReverse).1 }
  | .dropManager => s.does s.state.dropOwners

end OwnerSystem

/-! ## Who holds the senders -/

namespace ManagerState

/-- The senders that the owners hold. -/
def held (st : ManagerState) : List Nat := st.rendezvousAttempts.collect (·.winnerCompletions)

end ManagerState

def OwnerEffect.sender? : OwnerEffect → Option Nat
  | .completed sender _ => some sender
  | _ => none

/-- The senders that got a completion. -/
def sentTo (effects : List OwnerEffect) : List Nat := effects.filterMap OwnerEffect.sender?

/-- The operation is given `new` senders, and every sender it has is held or gets a completion. -/
def Balances (st st' : ManagerState) (effects : List OwnerEffect) (new : List Nat) : Prop :=
  (st'.held ++ sentTo effects).Perm (st.held ++ new)

section Senders

variable {st : ManagerState} {remoteId : P2pId}

theorem sentTo_completed (senders : List Nat) (completion : RendezvousWinnerCompletion) :
    sentTo (senders.map fun sender => .completed sender completion) = senders := by
  induction senders with
  | nil => rfl
  | cons w senders ih =>
    simp only [sentTo, List.map_cons, List.filterMap_cons, OwnerEffect.sender?] at ih ⊢
    rw [ih]

theorem sentTo_append (xs ys : List OwnerEffect) : sentTo (xs ++ ys) = sentTo xs ++ sentTo ys := by
  simp [sentTo]

theorem sentTo_abort (owner : RendezvousAttemptOwner) :
    sentTo (st.abortRendezvousOwner remoteId owner).2 = owner.winnerCompletions := by
  have htask : sentTo (.cancelled owner.token :: owner.task.toList.map .taskAborted) = [] := by
    cases owner.task with
    | none => rfl
    | some task => rfl
  unfold ManagerState.abortRendezvousOwner
  rw [sentTo_append, htask, sentTo_completed]
  rfl

theorem balances_same {st' : ManagerState} {effects : List OwnerEffect}
    (h : st'.rendezvousAttempts = st.rendezvousAttempts) (hsent : sentTo effects = []) :
    Balances st st' effects [] := by
  unfold Balances ManagerState.held
  rw [h, hsent]

/-- A new owner takes the slot of a peer. -/
theorem balances_insert {st' : ManagerState} {effects : List OwnerEffect} {new : List Nat}
    {existing owner : RendezvousAttemptOwner}
    (hslot : st.rendezvousAttempts.lookup remoteId = some existing)
    (h : st'.rendezvousAttempts = st.rendezvousAttempts.insert remoteId owner)
    (hsenders : (owner.winnerCompletions ++ sentTo effects).Perm
      (existing.winnerCompletions ++ new)) :
    Balances st st' effects new := by
  have hins : (existing.winnerCompletions ++ Table.collect (fun o => o.winnerCompletions)
      (st.rendezvousAttempts.insert remoteId owner)).Perm _ :=
    Table.collect_insert (f := fun o : RendezvousAttemptOwner => o.winnerCompletions) hslot
  rw [← h] at hins
  unfold Balances ManagerState.held
  rw [List.perm_iff_count] at hins hsenders ⊢
  intro w
  have hw := hins w
  have hw' := hsenders w
  simp only [List.count_append] at hw hw' ⊢
  omega

theorem balances_install (st : ManagerState) (localId remoteId : P2pId) (owner : RendezvousAttemptOwner) (waiter : Option Nat) :
    Balances st (st.installRendezvousOwner localId remoteId owner waiter).2.1
      (st.installRendezvousOwner localId remoteId owner waiter).2.2
      (match (st.installRendezvousOwner localId remoteId owner waiter).1 with
        | .ok _ => owner.winnerCompletions
        | .error _ => []) := by
  unfold ManagerState.installRendezvousOwner
  cases hslot : st.rendezvousAttempts.lookup remoteId with
  | none =>
    unfold Balances ManagerState.held
    dsimp only
    rw [ManagerState.publishRendezvousWaiter_attempts, Table.collect_insert_new owner hslot]
    simpa [sentTo] using List.perm_append_comm
  | some existing =>
    dsimp only
    split_ifs with hsame hwins hyields
    · exact balances_same rfl rfl
    · refine balances_insert hslot (ManagerState.displace_attempts ..) ?_
      unfold ManagerState.displace ManagerState.winnerOf
      by_cases hgives : ManagerState.yieldsTo existing owner = true
      · have hmark : sentTo [.yielded existing.token] = [] := rfl
        simp only [hgives, if_true, sentTo_append, sentTo_abort, hmark, List.append_nil]
        exact List.perm_append_comm
      · simp only [hgives, sentTo_append, sentTo_abort]
        exact List.perm_append_comm
    · refine balances_insert hslot rfl ?_
      have hmark : sentTo [.yielded owner.token, .cancelled owner.token] = [] := rfl
      rw [hmark, List.append_nil]
      exact .refl _
    · exact balances_same rfl rfl

theorem takeOwner_some {seq : Sequence} {tunnelId : TunnelId} {token : Nat}
    {owner : RendezvousAttemptOwner} {st' : ManagerState}
    (h : st.takeOwner remoteId seq tunnelId token = some (owner, st')) :
    st.rendezvousAttempts.lookup remoteId = some owner ∧ owner.token = token ∧
      st' = ({ st with rendezvousAttempts := st.rendezvousAttempts.erase remoteId } :
        ManagerState).removeOwnerWaiter remoteId owner := by
  unfold ManagerState.takeOwner at h
  cases hslot : st.rendezvousAttempts.lookup remoteId with
  | none =>
    rw [hslot] at h
    cases h
  | some existing =>
    rw [hslot] at h
    dsimp only at h
    split_ifs at h with hnamed
    simp only [Bool.and_eq_true, decide_eq_true_eq] at hnamed
    obtain ⟨rfl, rfl⟩ := Prod.mk.inj (Option.some.inj h)
    exact ⟨rfl, hnamed.2, rfl⟩

/-- An owner that leaves its slot sends to everyone it holds. -/
theorem balances_take {seq : Sequence} {tunnelId : TunnelId} {token : Nat}
    {owner : RendezvousAttemptOwner} {taken st' : ManagerState} {effects : List OwnerEffect}
    (h : st.takeOwner remoteId seq tunnelId token = some (owner, taken))
    (hsame : st'.rendezvousAttempts = taken.rendezvousAttempts)
    (hsent : sentTo effects = owner.winnerCompletions) : Balances st st' effects [] := by
  obtain ⟨hslot, -, rfl⟩ := takeOwner_some h
  rw [ManagerState.removeOwnerWaiter_attempts] at hsame
  unfold Balances ManagerState.held
  rw [hsame, hsent, List.append_nil]
  exact List.perm_append_comm.trans (Table.collect_erase hslot).symm

end Senders

/-! ## Whose the waiters are -/

/-- The entry is the waiter of the owner, at its place in the table. -/
structure IsWaiterOf (remoteId : P2pId) (owner : RendezvousAttemptOwner) (key : IncomingWaitKey)
    (entry : IncomingWaiterEntry) : Prop where
  remote : key.1 = remoteId
  tunnel : key.2.1 = owner.tunnelId
  reverse : owner.expectedIncomingReverse = some key.2.2
  token : entry.token = owner.token

/-- What an owner keeps while it has the slot. -/
structure SameOwner (owner owner' : RendezvousAttemptOwner) : Prop where
  tunnelId : owner'.tunnelId = owner.tunnelId
  reverse : owner'.expectedIncomingReverse = owner.expectedIncomingReverse
  token : owner'.token = owner.token

theorem IsWaiterOf.same {remoteId : P2pId} {owner owner' : RendezvousAttemptOwner}
    {key : IncomingWaitKey} {entry : IncomingWaiterEntry} (h : IsWaiterOf remoteId owner key entry)
    (hsame : SameOwner owner owner') : IsWaiterOf remoteId owner' key entry :=
  ⟨h.remote, h.tunnel.trans hsame.tunnelId.symm, hsame.reverse.trans h.reverse,
    h.token.trans hsame.token.symm⟩

section Waiters

variable {st : ManagerState} {remoteId : P2pId} {key : IncomingWaitKey}
  {entry : IncomingWaiterEntry}

theorem removeIncomingWaiter_lookup {tunnelId : TunnelId} {rev : Bool} {token : Nat}
    (h : (st.removeIncomingWaiter remoteId tunnelId rev token).pendingReverseWaiters.lookup key =
      some entry) :
    st.pendingReverseWaiters.lookup key = some entry ∧
      ¬ (key = (remoteId, tunnelId, rev) ∧ entry.token = token) := by
  unfold ManagerState.removeIncomingWaiter at h
  split_ifs at h with hthere
  · dsimp only at h
    obtain ⟨hkey, hentry⟩ := Table.lookup_erase_some.mp h
    exact ⟨hentry, fun hboth => hkey hboth.1⟩
  · refine ⟨h, fun ⟨hkey, htoken⟩ => hthere ?_⟩
    rw [← hkey, h]
    simpa using htoken

theorem removeOwnerWaiter_lookup {owner : RendezvousAttemptOwner}
    (h : (st.removeOwnerWaiter remoteId owner).pendingReverseWaiters.lookup key = some entry) :
    st.pendingReverseWaiters.lookup key = some entry ∧ ¬ IsWaiterOf remoteId owner key entry := by
  unfold ManagerState.removeOwnerWaiter at h
  cases hrev : owner.expectedIncomingReverse with
  | none =>
    rw [hrev] at h
    refine ⟨h, fun hwaits => ?_⟩
    have hreverse := hwaits.reverse
    rw [hrev] at hreverse
    cases hreverse
  | some rev =>
    rw [hrev] at h
    obtain ⟨hbefore, hnot⟩ := removeIncomingWaiter_lookup h
    refine ⟨hbefore, fun hwaits => hnot ⟨?_, hwaits.token⟩⟩
    have hreverse : rev = key.2.2 := Option.some.inj (hrev.symm.trans hwaits.reverse)
    obtain ⟨r, t, v⟩ := key
    rw [hwaits.remote.symm, hwaits.tunnel.symm, hreverse]

theorem publishRendezvousWaiter_lookup {owner : RendezvousAttemptOwner} {waiter : Option Nat}
    (h : (st.publishRendezvousWaiter remoteId owner waiter).pendingReverseWaiters.lookup key =
      some entry) :
    IsWaiterOf remoteId owner key entry ∨ st.pendingReverseWaiters.lookup key = some entry := by
  unfold ManagerState.publishRendezvousWaiter at h
  split at h
  · next rev w hrev =>
    unfold ManagerState.addIncomingWaiter at h
    dsimp only at h
    rcases Table.lookup_insert_some.mp h with ⟨rfl, rfl⟩ | ⟨-, hold⟩
    · exact .inl ⟨rfl, rfl, hrev, rfl⟩
    · exact .inr hold
  · exact .inr h

/-- A waiter under one of these tokens is that of the owner that has the slot. -/
def Registered (tokens : List Nat) (st : ManagerState) : Prop :=
  ∀ key entry, st.pendingReverseWaiters.lookup key = some entry → entry.token ∈ tokens →
    ∃ owner, st.rendezvousAttempts.lookup key.1 = some owner ∧ IsWaiterOf key.1 owner key entry

/-- Waiters go, and owners keep their slots. -/
theorem Registered.keep {tokens : List Nat} {st' : ManagerState} (h : Registered tokens st)
    (hwaiters : ∀ key entry, st'.pendingReverseWaiters.lookup key = some entry →
      entry.token ∈ tokens → st.pendingReverseWaiters.lookup key = some entry)
    (howners : ∀ r owner, st.rendezvousAttempts.lookup r = some owner →
      ∃ owner', st'.rendezvousAttempts.lookup r = some owner' ∧ SameOwner owner owner') :
    Registered tokens st' := by
  intro key entry hentry htoken
  obtain ⟨owner, howner, hwaits⟩ := h key entry (hwaiters key entry hentry htoken) htoken
  obtain ⟨owner', howner', hsame⟩ := howners key.1 owner howner
  exact ⟨owner', howner', hwaits.same hsame⟩

/-- An owner leaves its slot with its waiter. -/
theorem Registered.leave {tokens : List Nat} {st' : ManagerState} {owner : RendezvousAttemptOwner}
    (h : Registered tokens st) (hslot : st.rendezvousAttempts.lookup remoteId = some owner)
    (hattempts : st'.rendezvousAttempts = st.rendezvousAttempts.erase remoteId)
    (hwaiters : ∀ key entry, st'.pendingReverseWaiters.lookup key = some entry →
      st.pendingReverseWaiters.lookup key = some entry ∧ ¬ IsWaiterOf remoteId owner key entry) :
    Registered tokens st' := by
  intro key entry hentry htoken
  obtain ⟨hbefore, hnot⟩ := hwaiters key entry hentry
  obtain ⟨owner', howner', hwaits⟩ := h key entry hbefore htoken
  by_cases hkey : key.1 = remoteId
  · rw [hkey] at howner' hwaits
    obtain rfl : owner = owner' := Option.some.inj (hslot.symm.trans howner')
    exact absurd hwaits hnot
  · refine ⟨owner', ?_, hwaits⟩
    rw [hattempts, AList.lookup_erase_ne hkey]
    exact howner'

/-- An owner with a new token takes a slot from which a previous owner has left with its waiter. -/
theorem Registered.enter {tokens : List Nat} {st' : ManagerState} {owner : RendezvousAttemptOwner}
    (h : Registered tokens st)
    (hattempts : st'.rendezvousAttempts = st.rendezvousAttempts.insert remoteId owner)
    (hwaiters : ∀ key entry, st'.pendingReverseWaiters.lookup key = some entry →
      IsWaiterOf remoteId owner key entry ∨
      (st.pendingReverseWaiters.lookup key = some entry ∧
        ∀ existing, st.rendezvousAttempts.lookup remoteId = some existing →
          ¬ IsWaiterOf remoteId existing key entry))
    (hfresh : ∀ key entry, st.pendingReverseWaiters.lookup key = some entry →
      entry.token ≠ owner.token) :
    Registered (owner.token :: tokens) st' := by
  intro key entry hentry htoken
  rcases hwaiters key entry hentry with hnew | ⟨hbefore, hnot⟩
  · refine ⟨owner, ?_, ⟨rfl, hnew.tunnel, hnew.reverse, hnew.token⟩⟩
    rw [hattempts, hnew.remote]
    exact AList.lookup_insert _
  · have hold : entry.token ∈ tokens :=
      (List.mem_cons.mp htoken).resolve_left (hfresh key entry hbefore)
    obtain ⟨existing, hexisting, hwaits⟩ := h key entry hbefore hold
    by_cases hkey : key.1 = remoteId
    · rw [hkey] at hexisting hwaits
      exact absurd hwaits (hnot existing hexisting)
    · refine ⟨existing, ?_, hwaits⟩
      rw [hattempts, AList.lookup_insert_ne hkey]
      exact hexisting

/-- A token that no waiter has. -/
theorem Registered.more {tokens : List Nat} {token : Nat} (h : Registered tokens st)
    (hfresh : ∀ key entry, st.pendingReverseWaiters.lookup key = some entry →
      entry.token ≠ token) : Registered (token :: tokens) st := by
  intro key entry hentry htoken
  exact h key entry hentry ((List.mem_cons.mp htoken).resolve_left (hfresh key entry hentry))

/-- One owner is put into its slot again, with other senders or another task. -/
theorem Registered.update {tokens : List Nat} {owner owner' : RendezvousAttemptOwner}
    (h : Registered tokens st) (hslot : st.rendezvousAttempts.lookup remoteId = some owner)
    (hsame : SameOwner owner owner') :
    Registered tokens
      { st with rendezvousAttempts := st.rendezvousAttempts.insert remoteId owner' } := by
  refine h.keep (fun _ _ hentry _ => hentry) fun r existing hexisting => ?_
  by_cases hr : r = remoteId
  · subst hr
    obtain rfl : owner = existing := Option.some.inj (hslot.symm.trans hexisting)
    exact ⟨owner', AList.lookup_insert _, hsame⟩
  · exact ⟨existing, (AList.lookup_insert_ne hr).trans hexisting, rfl, rfl, rfl⟩

theorem winnerOf_same (existing owner : RendezvousAttemptOwner) :
    SameOwner owner (ManagerState.winnerOf existing owner) := by
  unfold ManagerState.winnerOf
  split_ifs with h
  · exact ⟨rfl, rfl, rfl⟩
  · exact ⟨rfl, rfl, rfl⟩

theorem displace_lookup {existing owner : RendezvousAttemptOwner} {waiter : Option Nat}
    (h : (st.displace remoteId existing owner waiter).1.pendingReverseWaiters.lookup key =
      some entry) :
    IsWaiterOf remoteId (ManagerState.winnerOf existing owner) key entry ∨
      (st.pendingReverseWaiters.lookup key = some entry ∧
        ¬ IsWaiterOf remoteId existing key entry) := by
  unfold ManagerState.displace at h
  obtain ⟨hpublished, -⟩ := removeOwnerWaiter_lookup h
  rcases publishRendezvousWaiter_lookup hpublished with hnew | hkept
  · exact .inl hnew
  · obtain ⟨hbefore, hnot⟩ := removeOwnerWaiter_lookup hkept
    refine .inr ⟨hbefore, fun hwaits => hnot ?_⟩
    split_ifs with hgives
    · exact hwaits.same ⟨rfl, rfl, rfl⟩
    · exact hwaits

theorem registered_install {tokens : List Nat} (h : Registered tokens st) (localId : P2pId)
    (owner : RendezvousAttemptOwner) (waiter : Option Nat)
    (hfresh : ∀ key entry, st.pendingReverseWaiters.lookup key = some entry →
      entry.token ≠ owner.token) :
    Registered (owner.token :: tokens)
      (st.installRendezvousOwner localId remoteId owner waiter).2.1 := by
  unfold ManagerState.installRendezvousOwner
  cases hslot : st.rendezvousAttempts.lookup remoteId with
  | none =>
    dsimp only
    have hattempts : (st.publishRendezvousWaiter remoteId owner
        waiter).rendezvousAttempts.insert remoteId owner =
        st.rendezvousAttempts.insert remoteId owner := by
      rw [ManagerState.publishRendezvousWaiter_attempts]
    refine h.enter hattempts (fun key entry hentry => ?_) hfresh
    · rcases publishRendezvousWaiter_lookup hentry with hnew | hbefore
      · exact .inl hnew
      · refine .inr ⟨hbefore, fun existing hexisting => ?_⟩
        rw [hslot] at hexisting
        cases hexisting
  | some existing =>
    dsimp only
    split_ifs with hsame hwins hyields
    · exact h.more hfresh
    · have hwinner := winnerOf_same existing owner
      rw [← hwinner.token] at hfresh ⊢
      refine h.enter (ManagerState.displace_attempts st remoteId existing owner waiter)
        (fun key entry hentry => ?_) hfresh
      rcases displace_lookup hentry with hnew | ⟨hbefore, hnot⟩
      · exact .inl hnew
      · refine .inr ⟨hbefore, fun existing' hexisting' => ?_⟩
        obtain rfl : existing = existing' := Option.some.inj (hslot.symm.trans hexisting')
        exact hnot
    · refine (h.update hslot ?_).more hfresh
      exact ⟨rfl, rfl, rfl⟩
    · exact h.more hfresh

/-- Every waiter of the state after an install was there before or is under the new token. -/
theorem install_tokens {localId : P2pId} {owner : RendezvousAttemptOwner} {waiter : Option Nat}
    (h : (st.installRendezvousOwner localId remoteId owner waiter).2.1.pendingReverseWaiters.lookup
      key = some entry) :
    entry.token = owner.token ∨ st.pendingReverseWaiters.lookup key = some entry := by
  unfold ManagerState.installRendezvousOwner at h
  cases hslot : st.rendezvousAttempts.lookup remoteId with
  | none =>
    rw [hslot] at h
    exact (publishRendezvousWaiter_lookup h).imp_left IsWaiterOf.token
  | some existing =>
    rw [hslot] at h
    dsimp only at h
    split_ifs at h with hsame hwins hyields
    · exact .inr h
    · rcases displace_lookup h with hnew | ⟨hbefore, -⟩
      · exact .inl (hnew.token.trans (winnerOf_same existing owner).token)
      · exact .inr hbefore
    · exact .inr h
    · exact .inr h

/-- What the loop over the owners of a dropped manager does. -/
theorem drop_loop (owners : List (Sigma fun _ : P2pId => RendezvousAttemptOwner))
    (r : ManagerState × List OwnerEffect) :
    let after := owners.foldl (fun (r : ManagerState × List OwnerEffect) e =>
      let (st, effects) := r.1.abortRendezvousOwner e.1 e.2
      (st, r.2 ++ effects)) r
    after.1.rendezvousAttempts = r.1.rendezvousAttempts ∧
      sentTo after.2 = sentTo r.2 ++ owners.flatMap (fun e => e.2.winnerCompletions) ∧
      ∀ key entry, after.1.pendingReverseWaiters.lookup key = some entry →
        r.1.pendingReverseWaiters.lookup key = some entry ∧
          ∀ e ∈ owners, ¬ IsWaiterOf e.1 e.2 key entry := by
  induction owners generalizing r with
  | nil => simp
  | cons e owners ih =>
    obtain ⟨hattempts, hsent, hwaiters⟩ := ih ((r.1.abortRendezvousOwner e.1 e.2).1,
      r.2 ++ (r.1.abortRendezvousOwner e.1 e.2).2)
    refine ⟨hattempts.trans (ManagerState.abortRendezvousOwner_attempts ..), ?_, ?_⟩
    · rw [List.foldl_cons, hsent, sentTo_append, sentTo_abort, List.flatMap_cons, List.append_assoc]
    · intro key entry hentry
      obtain ⟨hmiddle, hothers⟩ := hwaiters key entry hentry
      obtain ⟨hbefore, hnot⟩ := removeOwnerWaiter_lookup hmiddle
      refine ⟨hbefore, fun e' he' => ?_⟩
      rcases List.mem_cons.mp he' with rfl | hlater
      · exact hnot
      · exact hothers e' hlater

end Waiters

/-! ## Runs -/

structure Books (s : OwnerSystem) : Prop where
  balanced : (s.state.held ++ sentTo s.effects).Perm (List.range s.handed)
  registered : Registered s.ownerTokens s.state
  waiterTokens : ∀ key entry, s.state.pendingReverseWaiters.lookup key = some entry →
    entry.token < s.tokens
  ownerTokens : ∀ token ∈ s.ownerTokens, token < s.tokens

namespace Books

variable {s : OwnerSystem}

theorem new (localId : P2pId) : Books (.new localId) where
  balanced := .refl _
  registered key entry h := by cases h
  waiterTokens key entry h := by cases h
  ownerTokens token h := by cases h

/-- The balance after an operation that is given the next `n` senders. -/
theorem balanced_after (h : Books s) {st' : ManagerState} {effects : List OwnerEffect} {n : Nat}
    (hbalances : Balances s.state st' effects (List.range' s.handed n)) :
    (st'.held ++ sentTo (s.effects ++ effects)).Perm (List.range (s.handed + n)) := by
  have hrange : List.range (s.handed + n) = List.range s.handed ++ List.range' s.handed n := by
    have happend := List.range'_append_1 (s := 0) (m := s.handed) (n := n)
    rw [Nat.zero_add] at happend
    rw [List.range_eq_range', List.range_eq_range', happend]
  have hold := h.balanced
  unfold Balances at hbalances
  rw [hrange, sentTo_append]
  rw [List.perm_iff_count] at hold hbalances ⊢
  intro w
  have h₁ := hold w
  have h₂ := hbalances w
  simp only [List.count_append] at h₁ h₂ ⊢
  omega

/-- An operation without new senders or tokens. -/
theorem does (h : Books s) {r : ManagerState × List OwnerEffect}
    (hbalances : Balances s.state r.1 r.2 []) (hregistered : Registered s.ownerTokens r.1)
    (hwaiters : ∀ key entry, r.1.pendingReverseWaiters.lookup key = some entry →
      s.state.pendingReverseWaiters.lookup key = some entry) : Books (s.does r) where
  balanced := h.balanced_after (n := 0) hbalances
  registered := hregistered
  waiterTokens key entry hentry := h.waiterTokens key entry (hwaiters key entry hentry)
  ownerTokens := h.ownerTokens

theorem install (h : Books s) (remoteId : P2pId) (seq : Sequence) (initiatorLocal : Bool)
    (rev : Option Bool) (tunnelId : TunnelId) (senders : Nat) (waiter : Option Nat) :
    Books (s.step (.install remoteId seq initiatorLocal rev tunnelId senders waiter)) := by
  have hfresh : ∀ key entry, s.state.pendingReverseWaiters.lookup key = some entry →
      entry.token ≠ s.tokens := by
    intro key entry hentry heq
    have hlt := h.waiterTokens key entry hentry
    omega
  constructor
  · have hbalances := balances_install s.state s.localId remoteId
      (s.nextOwner seq initiatorLocal rev tunnelId senders) waiter
    unfold OwnerSystem.step OwnerSystem.does
    dsimp only
    cases hresult : (s.state.installRendezvousOwner s.localId remoteId
        (s.nextOwner seq initiatorLocal rev tunnelId senders) waiter).1 with
    | ok u =>
      rw [hresult] at hbalances
      exact h.balanced_after hbalances
    | error e =>
      rw [hresult] at hbalances
      exact h.balanced_after (n := 0) hbalances
  · exact registered_install h.registered s.localId
      (s.nextOwner seq initiatorLocal rev tunnelId senders) waiter hfresh
  · intro key entry hentry
    show entry.token < s.tokens + 1
    rcases install_tokens hentry with hnew | hbefore
    · have hnew' : entry.token = s.tokens := hnew
      omega
    · have hlt := h.waiterTokens key entry hbefore
      omega
  · intro token hmem
    show token < s.tokens + 1
    rcases List.mem_cons.mp hmem with rfl | hold
    · omega
    · have hlt := h.ownerTokens token hold
      omega

theorem attach (h : Books s) (remoteId : P2pId) (seq : Sequence) (tunnelId : TunnelId)
    (token task : Nat) : Books (s.step (.attach remoteId seq tunnelId token task)) := by
  show Books (s.does _)
  unfold ManagerState.attachRendezvousTask
  cases hslot : s.state.rendezvousAttempts.lookup remoteId with
  | none => exact h.does (balances_same rfl rfl) h.registered fun _ _ hentry => hentry
  | some owner =>
    dsimp only
    split_ifs with hnamed
    · refine h.does ?_ (h.registered.update hslot ⟨rfl, rfl, rfl⟩) fun _ _ hentry => hentry
      refine balances_insert hslot rfl ?_
      have hstart : sentTo [.started task] = [] := rfl
      rw [hstart]
    · exact h.does (balances_same rfl rfl) h.registered fun _ _ hentry => hentry

/-- An owner leaves its slot; everyone who waits for it is told. -/
theorem take (h : Books s) {remoteId : P2pId} {seq : Sequence} {tunnelId : TunnelId} {token : Nat}
    {owner : RendezvousAttemptOwner} {taken : ManagerState}
    (htake : s.state.takeOwner remoteId seq tunnelId token = some (owner, taken))
    {r : ManagerState × List OwnerEffect}
    (hattempts : r.1.rendezvousAttempts = taken.rendezvousAttempts)
    (hwaiters : ∀ key entry, r.1.pendingReverseWaiters.lookup key = some entry →
      taken.pendingReverseWaiters.lookup key = some entry)
    (hsent : sentTo r.2 = owner.winnerCompletions) : Books (s.does r) := by
  obtain ⟨hslot, -, rfl⟩ := takeOwner_some htake
  have hless : ∀ key entry, r.1.pendingReverseWaiters.lookup key = some entry →
      s.state.pendingReverseWaiters.lookup key = some entry ∧
        ¬ IsWaiterOf remoteId owner key entry := by
    intro key entry hentry
    have hbefore := removeOwnerWaiter_lookup (hwaiters key entry hentry)
    exact hbefore
  refine h.does (balances_take htake hattempts hsent) ?_ fun key entry hentry =>
    (hless key entry hentry).1
  refine h.registered.leave hslot ?_ hless
  rw [hattempts, ManagerState.removeOwnerWaiter_attempts]

theorem complete (h : Books s) (remoteId : P2pId) (seq : Sequence) (tunnelId : TunnelId)
    (token : Nat) (completion : RendezvousWinnerCompletion) :
    Books (s.step (.complete remoteId seq tunnelId token completion)) := by
  show Books (s.does _)
  unfold ManagerState.completeRendezvousOwner
  cases htake : s.state.takeOwner remoteId seq tunnelId token with
  | none => exact h.does (balances_same rfl rfl) h.registered fun _ _ hentry => hentry
  | some pair =>
    obtain ⟨owner, taken⟩ := pair
    exact h.take htake rfl (fun _ _ hentry => hentry) (sentTo_completed ..)

theorem cancel (h : Books s) (remoteId : P2pId) (seq : Sequence) (tunnelId : TunnelId)
    (token : Nat) : Books (s.step (.cancel remoteId seq tunnelId token)) := by
  show Books (s.does _)
  unfold ManagerState.cancelRendezvousOwner
  cases htake : s.state.takeOwner remoteId seq tunnelId token with
  | none => exact h.does (balances_same rfl rfl) h.registered fun _ _ hentry => hentry
  | some pair =>
    obtain ⟨owner, taken⟩ := pair
    exact h.take htake (ManagerState.abortRendezvousOwner_attempts ..)
      (fun _ _ hentry => (removeOwnerWaiter_lookup hentry).1) (sentTo_abort ..)

theorem dropManager (h : Books s) : Books (s.step .dropManager) := by
  obtain ⟨hattempts, hsent, hwaiters⟩ := drop_loop s.state.rendezvousAttempts.entries
    ({ s.state with rendezvousAttempts := ∅ }, [])
  refine h.does ?_ (fun key entry hentry htoken => ?_) fun key entry hentry =>
    (hwaiters key entry hentry).1
  · unfold Balances ManagerState.held
    rw [ManagerState.dropOwners, hattempts, hsent, List.append_nil]
    exact .refl _
  · obtain ⟨hbefore, hnone⟩ := hwaiters key entry hentry
    obtain ⟨owner, howner, hwaits⟩ := h.registered key entry hbefore htoken
    exact absurd hwaits (hnone ⟨key.1, owner⟩ (Table.mem_entries_iff.mpr howner))

theorem step (h : Books s) (op : OwnerOp) : Books (s.step op) := by
  cases op with
  | install remoteId seq initiatorLocal rev tunnelId senders waiter =>
    exact h.install remoteId seq initiatorLocal rev tunnelId senders waiter
  | attach remoteId seq tunnelId token task => exact h.attach remoteId seq tunnelId token task
  | complete remoteId seq tunnelId token completion =>
    exact h.complete remoteId seq tunnelId token completion
  | cancel remoteId seq tunnelId token => exact h.cancel remoteId seq tunnelId token
  | addIncomingWaiter remoteId tunnelId rev waiter =>
    have hlookup : ∀ key entry, (s.state.addIncomingWaiter remoteId tunnelId rev s.tokens
        waiter).pendingReverseWaiters.lookup key = some entry →
        entry.token = s.tokens ∨ s.state.pendingReverseWaiters.lookup key = some entry := by
      intro key entry hentry
      rcases Table.lookup_insert_some.mp hentry with ⟨-, rfl⟩ | ⟨-, hold⟩
      · exact .inl rfl
      · exact .inr hold
    refine ⟨h.balanced, ?_, fun key entry hentry => ?_, fun token hmem => ?_⟩
    · refine h.registered.keep (fun key entry hentry hmem => ?_)
        fun r owner howner => ⟨owner, howner, rfl, rfl, rfl⟩
      refine (hlookup key entry hentry).resolve_left fun heq => ?_
      have hlt := h.ownerTokens entry.token hmem
      omega
    · show entry.token < s.tokens + 1
      rcases hlookup key entry hentry with heq | hbefore
      · omega
      · have hlt := h.waiterTokens key entry hbefore
        omega
    · exact (h.ownerTokens token hmem).trans (Nat.lt_succ_self _)
  | removeIncomingWaiter remoteId tunnelId rev token =>
    have hbooks := h.does
      (r := (s.state.removeIncomingWaiter remoteId tunnelId rev token, []))
      (balances_same (ManagerState.removeIncomingWaiter_attempts ..) rfl)
      (h.registered.keep (fun _ _ hentry _ => (removeIncomingWaiter_lookup hentry).1)
        fun r owner howner => ⟨owner, by simpa using howner, rfl, rfl, rfl⟩)
      fun _ _ hentry => (removeIncomingWaiter_lookup hentry).1
    unfold OwnerSystem.does at hbooks
    rw [List.append_nil] at hbooks
    exact hbooks
  | takeIncomingWaiter remoteId tunnelId rev =>
    have hless : ∀ key entry, (s.state.takeIncomingWaiter remoteId tunnelId
        rev).1.pendingReverseWaiters.lookup key = some entry →
        s.state.pendingReverseWaiters.lookup key = some entry := by
      intro key entry hentry
      exact (Table.lookup_erase_some.mp hentry).2
    exact ⟨h.balanced, h.registered.keep (fun key entry hentry _ => hless key entry hentry)
      fun r owner howner => ⟨owner, howner, rfl, rfl, rfl⟩,
      fun key entry hentry => h.waiterTokens key entry (hless key entry hentry), h.ownerTokens⟩
  | dropManager => exact h.dropManager

theorem run (localId : P2pId) (ops : List OwnerOp) :
    Books (exec OwnerSystem.step (.new localId) ops) := by
  refine exec_inv_all (I := Books) ?_ (new localId) ops
  intro s op h
  exact h.step op

/-- A sender is with one owner, or it got its completion. -/
theorem sender (h : Books s) {w : Nat} (hw : w < s.handed) :
    (∃ remoteId owner, s.state.rendezvousAttempts.lookup remoteId = some owner ∧
      owner.winnerCompletions.count w = 1 ∧
      (∀ remoteId' owner', s.state.rendezvousAttempts.lookup remoteId' = some owner' →
        w ∈ owner'.winnerCompletions → remoteId' = remoteId) ∧
      (sentTo s.effects).count w = 0) ∨
    ((∀ remoteId owner, s.state.rendezvousAttempts.lookup remoteId = some owner →
        w ∉ owner.winnerCompletions) ∧
      (sentTo s.effects).count w = 1) := by
  have hcount := h.balanced.count_eq w
  have hone : (List.range s.handed).count w = 1 :=
    List.count_eq_one_of_mem List.nodup_range (List.mem_range.mpr hw)
  rw [hone, List.count_append] at hcount
  by_cases hheld : w ∈ s.state.held
  · obtain ⟨remoteId, owner, hslot, hmem⟩ := Table.mem_collect.mp hheld
    have hpos := List.count_pos_iff.mpr hheld
    have hle : s.state.held.count w ≤ 1 := by omega
    refine .inl ⟨remoteId, owner, hslot, ?_, fun remoteId' owner' hslot' hmem' => ?_, by omega⟩
    · have hsplit := (Table.collect_erase (f := fun o : RendezvousAttemptOwner =>
        o.winnerCompletions) hslot).count_eq w
      rw [List.count_append] at hsplit
      have hpos' := List.count_pos_iff.mpr hmem
      unfold ManagerState.held at hle
      omega
    · exact Table.eq_of_count_le_one hle hslot hmem hslot' hmem'
  · refine .inr ⟨fun remoteId owner hslot hmem => ?_, ?_⟩
    · exact hheld (Table.mem_collect.mpr ⟨remoteId, owner, hslot, hmem⟩)
    · rw [List.count_eq_zero_of_not_mem hheld] at hcount
      omega

end Books

/-! ## Stale tokens and starts -/

section Stale

variable {st : ManagerState} {remoteId : P2pId} {token : Nat}

/-- The owner that has the slot of the peer, if there is one, has another token. -/
def Stale (st : ManagerState) (remoteId : P2pId) (token : Nat) : Prop :=
  ∀ owner, st.rendezvousAttempts.lookup remoteId = some owner → owner.token ≠ token

theorem Stale.takeOwner (h : Stale st remoteId token) (seq : Sequence) (tunnelId : TunnelId) :
    st.takeOwner remoteId seq tunnelId token = none := by
  cases htake : st.takeOwner remoteId seq tunnelId token with
  | none => rfl
  | some pair =>
    obtain ⟨hslot, htoken, -⟩ := takeOwner_some htake
    exact absurd htoken (h pair.1 hslot)

theorem Stale.complete (h : Stale st remoteId token) (seq : Sequence) (tunnelId : TunnelId)
    (completion : RendezvousWinnerCompletion) :
    st.completeRendezvousOwner remoteId seq tunnelId token completion = (st, []) := by
  rw [ManagerState.completeRendezvousOwner, h.takeOwner]

theorem Stale.cancel (h : Stale st remoteId token) (seq : Sequence) (tunnelId : TunnelId) :
    st.cancelRendezvousOwner remoteId seq tunnelId token = (st, []) := by
  rw [ManagerState.cancelRendezvousOwner, h.takeOwner]

/-- Only the task that could not be attached is aborted. -/
theorem Stale.attach (h : Stale st remoteId token) (seq : Sequence) (tunnelId : TunnelId)
    (task : Nat) :
    st.attachRendezvousTask remoteId seq tunnelId token task = (false, st, [.taskAborted task]) := by
  unfold ManagerState.attachRendezvousTask
  cases hslot : st.rendezvousAttempts.lookup remoteId with
  | none => rfl
  | some owner => simp [h owner hslot]

theorem not_started_abort {task : Nat} (owner : RendezvousAttemptOwner) :
    .started task ∉ (st.abortRendezvousOwner remoteId owner).2 := by
  simp [ManagerState.abortRendezvousOwner]

theorem not_started_install {task : Nat} (localId : P2pId) (owner : RendezvousAttemptOwner)
    (waiter : Option Nat) :
    .started task ∉ (st.installRendezvousOwner localId remoteId owner waiter).2.2 := by
  unfold ManagerState.installRendezvousOwner
  cases hslot : st.rendezvousAttempts.lookup remoteId with
  | none => simp
  | some existing =>
    dsimp only
    split_ifs with hsame hwins hyields
    · simp
    · unfold ManagerState.displace
      intro hmem
      rcases List.mem_append.mp hmem with hmark | habort
      · split_ifs at hmark
        · simp at hmark
        · simp at hmark
      · exact not_started_abort _ habort
    · simp
    · simp

theorem not_started_drop {task : Nat}
    (owners : List (Sigma fun _ : P2pId => RendezvousAttemptOwner))
    (r : ManagerState × List OwnerEffect) (h : .started task ∉ r.2) :
    .started task ∉ (owners.foldl (fun (r : ManagerState × List OwnerEffect) e =>
      let (st, effects) := r.1.abortRendezvousOwner e.1 e.2
      (st, r.2 ++ effects)) r).2 := by
  induction owners generalizing r with
  | nil => exact h
  | cons e owners ih =>
    refine ih _ fun hmem => ?_
    rcases List.mem_append.mp hmem with hbefore | habort
    · exact h hbefore
    · exact not_started_abort _ habort

end Stale

/-- A task is started by the attach of it to the owner that has the slot. -/
theorem OwnerSystem.started {s : OwnerSystem} {op : OwnerOp} {new : List OwnerEffect} {task : Nat}
    (heffects : (s.step op).effects = s.effects ++ new) (hstarted : .started task ∈ new) :
    ∃ remoteId seq tunnelId owner, op = .attach remoteId seq tunnelId owner.token task ∧
      s.state.rendezvousAttempts.lookup remoteId = some owner ∧
      (s.step op).state.rendezvousAttempts.lookup remoteId =
        some { owner with task := some task } := by
  have hnothing : s.effects ≠ s.effects ++ new := by
    intro heq
    rw [List.self_eq_append_right.mp heq] at hstarted
    cases hstarted
  cases op with
  | install remoteId seq initiatorLocal rev tunnelId senders waiter =>
    rw [← List.append_cancel_left heffects] at hstarted
    exact absurd hstarted (not_started_install _ _ _)
  | attach remoteId seq tunnelId token task' =>
    rw [← List.append_cancel_left heffects, ManagerState.attachRendezvousTask] at hstarted
    cases hslot : s.state.rendezvousAttempts.lookup remoteId with
    | none => simp [hslot] at hstarted
    | some owner =>
      rw [hslot] at hstarted
      dsimp only at hstarted
      split_ifs at hstarted with hnamed
      · obtain rfl : task = task' := by simpa using hstarted
        refine ⟨remoteId, seq, tunnelId, owner, ?_, hslot, ?_⟩
        · simp only [Bool.and_eq_true, decide_eq_true_eq] at hnamed
          rw [hnamed.2]
        · show (s.state.attachRendezvousTask remoteId seq tunnelId token
            task).2.1.rendezvousAttempts.lookup remoteId = _
          unfold ManagerState.attachRendezvousTask
          rw [hslot]
          dsimp only
          rw [if_pos hnamed]
          exact AList.lookup_insert _
      · simp at hstarted
  | complete remoteId seq tunnelId token completion =>
    rw [← List.append_cancel_left heffects, ManagerState.completeRendezvousOwner] at hstarted
    cases htake : s.state.takeOwner remoteId seq tunnelId token with
    | none => simp [htake] at hstarted
    | some pair => simp [htake] at hstarted
  | cancel remoteId seq tunnelId token =>
    rw [← List.append_cancel_left heffects, ManagerState.cancelRendezvousOwner] at hstarted
    cases htake : s.state.takeOwner remoteId seq tunnelId token with
    | none => simp [htake] at hstarted
    | some pair =>
      rw [htake] at hstarted
      exact absurd hstarted (not_started_abort _)
  | addIncomingWaiter remoteId tunnelId rev waiter => exact absurd heffects hnothing
  | removeIncomingWaiter remoteId tunnelId rev token => exact absurd heffects hnothing
  | takeIncomingWaiter remoteId tunnelId rev => exact absurd heffects hnothing
  | dropManager =>
    rw [← List.append_cancel_left heffects] at hstarted
    exact absurd hstarted (not_started_drop _ _ (by simp))

/-- After any operations on owners and waiters: a sender that was handed over is with one owner or
got one completion; a waiter under an owner's token is that of the owner that has the slot; what is
done in the name of another token changes nothing; a task is started by the attach to its owner. -/
theorem owner_books_hold (localId : P2pId) (ops : List OwnerOp) :
    let s := exec OwnerSystem.step (.new localId) ops
    (∀ w < s.handed,
      (∃ remoteId owner, s.state.rendezvousAttempts.lookup remoteId = some owner ∧
        owner.winnerCompletions.count w = 1 ∧
        (∀ remoteId' owner', s.state.rendezvousAttempts.lookup remoteId' = some owner' →
          w ∈ owner'.winnerCompletions → remoteId' = remoteId) ∧
        (sentTo s.effects).count w = 0) ∨
      ((∀ remoteId owner, s.state.rendezvousAttempts.lookup remoteId = some owner →
          w ∉ owner.winnerCompletions) ∧
        (sentTo s.effects).count w = 1)) ∧
    (∀ key entry, s.state.pendingReverseWaiters.lookup key = some entry →
      entry.token ∈ s.ownerTokens →
        ∃ owner, s.state.rendezvousAttempts.lookup key.1 = some owner ∧
          IsWaiterOf key.1 owner key entry) ∧
    (∀ remoteId seq tunnelId token, Stale s.state remoteId token →
      (∀ completion, s.state.completeRendezvousOwner remoteId seq tunnelId token completion =
        (s.state, [])) ∧
      s.state.cancelRendezvousOwner remoteId seq tunnelId token = (s.state, []) ∧
      ∀ task, s.state.attachRendezvousTask remoteId seq tunnelId token task =
        (false, s.state, [.taskAborted task])) ∧
    ∀ op new task, (s.step op).effects = s.effects ++ new → .started task ∈ new →
      ∃ remoteId seq tunnelId owner, op = .attach remoteId seq tunnelId owner.token task ∧
        s.state.rendezvousAttempts.lookup remoteId = some owner ∧
        (s.step op).state.rendezvousAttempts.lookup remoteId =
          some { owner with task := some task } := by
  intro s
  have hbooks : Books s := Books.run localId ops
  refine ⟨fun w hw => hbooks.sender hw, hbooks.registered, ?_, ?_⟩
  · intro remoteId seq tunnelId token hstale
    exact ⟨hstale.complete seq tunnelId, hstale.cancel seq tunnelId, hstale.attach seq tunnelId⟩
  · intro op new task heffects hstarted
    exact OwnerSystem.started heffects hstarted

end BuckyP2p.Tunnel
