import BuckyP2p.Base
import BuckyP2p.Lib.Table

/-!
# BuckyP2p.Tunnel.Owners — rendezvous attempts of a `TunnelManager` (`tunnel/tunnel_manager.rs`)

For every remote peer a manager has at most one rendezvous attempt, the owner of the slot of that
peer.  An owner may expect an incoming tunnel; its waiter is then in the table of incoming waiters,
under the token of the owner.  `winner_completions` are the sending halves of the oneshot channels
of those who wait for the outcome.

Tokens, senders, waiters and tasks are named by numbers.  The `cancel` and `yielded` of an owner are
shared with whoever made the attempt; they are named by the owner's token.  Every operation returns
the state and what it does to these (`OwnerEffect`), in order.
-/

namespace BuckyP2p.Tunnel

open Lib

inductive RendezvousWinnerCompletion
  | success (tunnel : Nat)
  | failure (code : P2pErrorCode) (message : String)
  deriving DecidableEq, Repr

structure RendezvousAttemptOwner where
  seq : Sequence
  initiatorLocal : Bool
  task : Option Nat
  expectedIncomingReverse : Option Bool
  tunnelId : TunnelId
  winnerCompletions : List Nat
  token : Nat
  deriving DecidableEq, Repr

structure IncomingWaiterEntry where
  token : Nat
  waiter : Nat
  deriving DecidableEq, Repr

abbrev IncomingWaitKey : Type := P2pId × TunnelId × Bool

/-- The part of `ManagerState` that rendezvous attempts use. -/
structure ManagerState where
  rendezvousAttempts : Table P2pId RendezvousAttemptOwner
  pendingReverseWaiters : Table IncomingWaitKey IncomingWaiterEntry

inductive OwnerEffect
  /-- `owner.yielded` is set. -/
  | yielded (token : Nat)
  /-- `owner.cancel` is notified. -/
  | cancelled (token : Nat)
  | taskAborted (task : Nat)
  | completed (sender : Nat) (completion : RendezvousWinnerCompletion)
  /-- The `start` of a task is notified. -/
  | started (task : Nat)
  deriving DecidableEq, Repr

namespace ManagerState

def new : ManagerState := ⟨∅, ∅⟩

def addIncomingWaiter (st : ManagerState) (remoteId : P2pId) (tunnelId : TunnelId)
    (expectedReverse : Bool) (token waiter : Nat) : ManagerState :=
  { st with
    pendingReverseWaiters :=
      st.pendingReverseWaiters.insert (remoteId, tunnelId, expectedReverse) ⟨token, waiter⟩ }

def takeIncomingWaiter (st : ManagerState) (remoteId : P2pId) (tunnelId : TunnelId)
    (expectedReverse : Bool) : ManagerState × Option Nat :=
  ({ st with
      pendingReverseWaiters := st.pendingReverseWaiters.erase (remoteId, tunnelId, expectedReverse) },
    (st.pendingReverseWaiters.lookup (remoteId, tunnelId, expectedReverse)).map
      IncomingWaiterEntry.waiter)

def publishRendezvousWaiter (st : ManagerState) (remoteId : P2pId) (owner : RendezvousAttemptOwner)
    (waiter : Option Nat) : ManagerState :=
  match owner.expectedIncomingReverse, waiter with
  | some expectedReverse, some waiter =>
    st.addIncomingWaiter remoteId owner.tunnelId expectedReverse owner.token waiter
  | _, _ => st

def removeIncomingWaiter (st : ManagerState) (remoteId : P2pId) (tunnelId : TunnelId)
    (expectedReverse : Bool) (token : Nat) : ManagerState :=
  if (st.pendingReverseWaiters.lookup (remoteId, tunnelId, expectedReverse)).any
      fun entry => entry.token = token then
    { st with
      pendingReverseWaiters :=
        st.pendingReverseWaiters.erase (remoteId, tunnelId, expectedReverse) }
  else st

/-- The waiter of an owner is removed, if it expects an incoming tunnel. -/
def removeOwnerWaiter (st : ManagerState) (remoteId : P2pId) (owner : RendezvousAttemptOwner) :
    ManagerState :=
  match owner.expectedIncomingReverse with
  | some expectedReverse =>
    st.removeIncomingWaiter remoteId owner.tunnelId expectedReverse owner.token
  | none => st

def winnerCancelled : RendezvousWinnerCompletion :=
  .failure .userCanceled "rendezvous winner was cancelled"

def abortRendezvousOwner (st : ManagerState) (remoteId : P2pId) (owner : RendezvousAttemptOwner) :
    ManagerState × List OwnerEffect :=
  (st.removeOwnerWaiter remoteId owner,
    .cancelled owner.token :: owner.task.toList.map .taskAborted ++
      owner.winnerCompletions.map fun sender => .completed sender winnerCancelled)

def alreadyArmed : P2pError := ⟨.alreadyExists, "rendezvous attempt already armed"⟩

def collisionRejected : P2pError :=
  ⟨.conflict, "stable peer ordering rejected rendezvous collision"⟩

/-- The attempts of the peer with the smaller id win. -/
def newWins (localId remoteId : P2pId) (owner : RendezvousAttemptOwner) : Bool :=
  let localInitiatorWins : Bool := localId < remoteId
  if owner.initiatorLocal then localInitiatorWins else !localInitiatorWins

def sameAttempt (existing owner : RendezvousAttemptOwner) : Bool :=
  existing.initiatorLocal = owner.initiatorLocal && existing.seq = owner.seq &&
    existing.tunnelId = owner.tunnelId

/-- A local attempt gives up the slot to a remote one, which takes over who waits for it. -/
def yieldsTo (loser winner : RendezvousAttemptOwner) : Bool :=
  loser.initiatorLocal && !winner.initiatorLocal

def takesOver (winner loser : RendezvousAttemptOwner) : RendezvousAttemptOwner :=
  { winner with winnerCompletions := winner.winnerCompletions ++ loser.winnerCompletions }

/-- `install_rendezvous_owner` when the new attempt wins the slot of `existing`. -/
def displace (st : ManagerState) (remoteId : P2pId) (existing owner : RendezvousAttemptOwner)
    (incomingWaiter : Option Nat) : ManagerState × List OwnerEffect :=
  let yields := yieldsTo existing owner
  let owner := if yields then takesOver owner existing else owner
  let displaced := if yields then { existing with winnerCompletions := [] } else existing
  let st := st.removeOwnerWaiter remoteId displaced
  let st := st.publishRendezvousWaiter remoteId owner incomingWaiter
  let st := { st with rendezvousAttempts := st.rendezvousAttempts.insert remoteId owner }
  let (st, effects) := st.abortRendezvousOwner remoteId displaced
  (st, (if yields then [.yielded displaced.token] else []) ++ effects)

def installRendezvousOwner (st : ManagerState) (localId remoteId : P2pId)
    (owner : RendezvousAttemptOwner) (incomingWaiter : Option Nat) :
    P2pResult Unit × ManagerState × List OwnerEffect :=
  match st.rendezvousAttempts.lookup remoteId with
  | some existing =>
    if sameAttempt existing owner then (.error alreadyArmed, st, [])
    else if newWins localId remoteId owner then
      (.ok (), st.displace remoteId existing owner incomingWaiter)
    else if yieldsTo owner existing then
      (.ok (),
        { st with
          rendezvousAttempts := st.rendezvousAttempts.insert remoteId (takesOver existing owner) },
        [.yielded owner.token, .cancelled owner.token])
    else (.error collisionRejected, st, [])
  | none =>
    let st := st.publishRendezvousWaiter remoteId owner incomingWaiter
    (.ok (), { st with rendezvousAttempts := st.rendezvousAttempts.insert remoteId owner }, [])

/-- The owner that these name is the one that has the slot. -/
def isCurrent (st : ManagerState) (remoteId : P2pId) (seq : Sequence) (tunnelId : TunnelId)
    (token : Nat) : Bool :=
  (st.rendezvousAttempts.lookup remoteId).any fun owner =>
    owner.seq = seq && owner.tunnelId = tunnelId && owner.token = token

/-- `attach_rendezvous_task`, with whether the task was attached. -/
def attachRendezvousTask (st : ManagerState) (remoteId : P2pId) (seq : Sequence)
    (tunnelId : TunnelId) (token task : Nat) : Bool × ManagerState × List OwnerEffect :=
  match st.rendezvousAttempts.lookup remoteId with
  | some owner =>
    if owner.seq = seq && owner.tunnelId = tunnelId && owner.token = token then
      (true,
        { st with
          rendezvousAttempts := st.rendezvousAttempts.insert remoteId { owner with task := task } },
        [.started task])
    else (false, st, [.taskAborted task])
  | none => (false, st, [.taskAborted task])

/-- The owner that these name leaves its slot, with its waiter. -/
def takeOwner (st : ManagerState) (remoteId : P2pId) (seq : Sequence) (tunnelId : TunnelId)
    (token : Nat) : Option (RendezvousAttemptOwner × ManagerState) :=
  match st.rendezvousAttempts.lookup remoteId with
  | some owner =>
    if owner.seq = seq && owner.tunnelId = tunnelId && owner.token = token then
      some (owner, ({ st with rendezvousAttempts := st.rendezvousAttempts.erase remoteId } :
        ManagerState).removeOwnerWaiter remoteId owner)
    else none
  | none => none

def completeRendezvousOwner (st : ManagerState) (remoteId : P2pId) (seq : Sequence)
    (tunnelId : TunnelId) (token : Nat) (completion : RendezvousWinnerCompletion) :
    ManagerState × List OwnerEffect :=
  match st.takeOwner remoteId seq tunnelId token with
  | some (owner, st) => (st, owner.winnerCompletions.map fun sender => .completed sender completion)
  | none => (st, [])

def cancelRendezvousOwner (st : ManagerState) (remoteId : P2pId) (seq : Sequence)
    (tunnelId : TunnelId) (token : Nat) : ManagerState × List OwnerEffect :=
  match st.takeOwner remoteId seq tunnelId token with
  | some (owner, st) => st.abortRendezvousOwner remoteId owner
  | none => (st, [])

/-- `Drop for TunnelManager`, of the attempts. -/
def dropOwners (st : ManagerState) : ManagerState × List OwnerEffect :=
  st.rendezvousAttempts.entries.foldl (fun (r : ManagerState × List OwnerEffect) e =>
    let (st, effects) := r.1.abortRendezvousOwner e.1 e.2
    (st, r.2 ++ effects)) ({ st with rendezvousAttempts := ∅ }, [])

/-! ## The slots -/

section Slots

variable (st : ManagerState) (remoteId : P2pId)

@[simp] theorem removeIncomingWaiter_attempts (tunnelId : TunnelId) (rev : Bool) (token : Nat) :
    (st.removeIncomingWaiter remoteId tunnelId rev token).rendezvousAttempts =
      st.rendezvousAttempts := by
  unfold removeIncomingWaiter
  split_ifs with h
  · rfl
  · rfl

@[simp] theorem removeOwnerWaiter_attempts (owner : RendezvousAttemptOwner) :
    (st.removeOwnerWaiter remoteId owner).rendezvousAttempts = st.rendezvousAttempts := by
  unfold removeOwnerWaiter
  cases owner.expectedIncomingReverse with
  | none => rfl
  | some rev => exact removeIncomingWaiter_attempts ..

@[simp] theorem publishRendezvousWaiter_attempts (owner : RendezvousAttemptOwner)
    (waiter : Option Nat) :
    (st.publishRendezvousWaiter remoteId owner waiter).rendezvousAttempts =
      st.rendezvousAttempts := by
  unfold publishRendezvousWaiter
  split
  · rfl
  · rfl

@[simp] theorem abortRendezvousOwner_attempts (owner : RendezvousAttemptOwner) :
    (st.abortRendezvousOwner remoteId owner).1.rendezvousAttempts = st.rendezvousAttempts :=
  removeOwnerWaiter_attempts st remoteId owner

/-- The owner of the slot after a new attempt has won it. -/
def winnerOf (existing owner : RendezvousAttemptOwner) : RendezvousAttemptOwner :=
  if yieldsTo existing owner then takesOver owner existing else owner

theorem displace_attempts (existing owner : RendezvousAttemptOwner) (waiter : Option Nat) :
    (st.displace remoteId existing owner waiter).1.rendezvousAttempts =
      st.rendezvousAttempts.insert remoteId (winnerOf existing owner) := by
  unfold displace winnerOf
  simp

end Slots

end ManagerState

end BuckyP2p.Tunnel
