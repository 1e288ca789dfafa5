import BuckyP2p.Directory.ControlPlane

/-!
# BuckyP2p.Directory.Election — the lock regions of `OwnerElectionNode`

The election state and the messages of `election.rs`, and the node's operations, each one being
what the source does under one hold of its locks:

* `openElection`: the first region of `start_election`; it returns the captured term.
* `receiveVoteRequest`, `receiveHeartbeat`: the inbound handlers.
* `becomeLeader`, `stepDown`: the election-state region of the two; the control-plane region that
  follows is `noteLeader`.
* `requireLeader`, `remoteMembers`, `quorumSize`: what the senders read.

How `start_election`, `send_heartbeat`, `replicate_and_commit` and the handlers string these
together over their awaits is `BuckyP2p.Directory.Calls`.
-/

namespace BuckyP2p.Directory

inductive OwnerElectionRole
  | follower | candidate | leader
  deriving DecidableEq, Repr

structure OwnerVoteRequest where
  term : U64
  candidateId : P2pId
  deriving DecidableEq, Repr

structure OwnerVoteResponse where
  term : U64
  voteGranted : Bool
  leaderId : Option P2pId
  deriving DecidableEq, Repr

structure OwnerHeartbeatRequest where
  term : U64
  leaderId : P2pId
  committedIndex : Nat
  deriving DecidableEq, Repr

structure OwnerHeartbeatResponse where
  term : U64
  accepted : Bool
  leaderId : Option P2pId
  deriving DecidableEq, Repr

structure OwnerSessionReplication where
  term : U64
  leaderId : P2pId
  entry : OwnerSessionEntry
  now : Timestamp
  committed : Bool
  deriving DecidableEq, Repr

structure OwnerSessionReplicationResponse where
  term : U64
  accepted : Bool
  committedIndex : Nat
  leaderId : Option P2pId
  deriving DecidableEq, Repr

structure OwnerSessionForward where
  entry : OwnerSessionEntry
  now : Timestamp
  deriving DecidableEq, Repr

structure OwnerSessionForwardResponse where
  term : U64
  accepted : Bool
  committedIndex : Nat
  leaderId : Option P2pId
  deriving DecidableEq, Repr

structure OwnerElectionState where
  role : OwnerElectionRole
  currentTerm : U64
  votedFor : Option P2pId
  leaderId : Option P2pId
  lastHeartbeatAt : Timestamp
  deriving DecidableEq, Repr

structure OwnerElectionNode where
  localOwnerId : P2pId
  membership : OwnerMembership
  controlPlane : OwnerControlPlane
  state : OwnerElectionState

namespace OwnerElectionNode

def new (localOwnerId : P2pId) (membership : OwnerMembership) (controlPlane : OwnerControlPlane)
    (now : Timestamp) : OwnerElectionNode where
  localOwnerId := localOwnerId
  membership := membership
  controlPlane := controlPlane
  state :=
    if membership.members.length = 1 ∧ membership.isMember localOwnerId then
      { role := .leader, currentTerm := 1, votedFor := some localOwnerId,
        leaderId := some localOwnerId, lastHeartbeatAt := now }
    else
      { role := .follower, currentTerm := 0, votedFor := none, leaderId := none,
        lastHeartbeatAt := now }

/-- Only the single member starts as leader, in term 1. -/
theorem new_leader {id : P2pId} {m : OwnerMembership} {cp : OwnerControlPlane} {now : Timestamp}
    (h : (new id m cp now).state.role = .leader) :
    m.members.length = 1 ∧ id ∈ m.members ∧ (new id m cp now).state.currentTerm = 1 := by
  unfold new at h ⊢
  dsimp only at h ⊢
  by_cases h1 : m.members.length = 1 ∧ m.isMember id = true
  · rw [if_pos h1]
    exact ⟨h1.1, (m.isMember_iff id).mp h1.2, rfl⟩
  · rw [if_neg h1] at h
    cases h

def withControlPlane (localOwnerId : P2pId) (membership : OwnerMembership) (now : Timestamp) :
    OwnerElectionNode :=
  new localOwnerId membership (OwnerControlPlane.new membership) now

def remoteMembers (n : OwnerElectionNode) : List P2pId :=
  n.membership.members.filter (· ≠ n.localOwnerId)

def quorumSize (n : OwnerElectionNode) : Nat := n.membership.quorumSize

/-- `15 s` in microseconds. -/
def heartbeatTimeout : U64 := 15000000

/-- The test with which `tick` decides to call `start_election`. -/
def shouldElect (n : OwnerElectionNode) (now : Timestamp) : Bool :=
  n.state.role ≠ .leader ∧ heartbeatTimeout.val < now.val - n.state.lastHeartbeatAt.val

/-- The term that `start_election` moves to. -/
def nextTerm (n : OwnerElectionNode) : U64 := max (saturatingAdd n.state.currentTerm 1) 1

/-- First region of `start_election`; the captured term is `nextTerm`. -/
def openElection (n : OwnerElectionNode) (now : Timestamp) : OwnerElectionNode :=
  { n with state :=
    { role := .candidate, currentTerm := n.nextTerm, votedFor := some n.localOwnerId,
      leaderId := none, lastHeartbeatAt := now } }

def voteResponse (n : OwnerElectionNode) (granted : Bool) : OwnerVoteResponse :=
  ⟨n.state.currentTerm, granted, n.state.leaderId⟩

/-- A vote request of a higher term makes the node a follower of that term without a vote. -/
def adoptTerm (s : OwnerElectionState) (term : U64) : OwnerElectionState :=
  if s.currentTerm < term then
    { s with currentTerm := term, role := .follower, votedFor := none, leaderId := none }
  else s

def receiveVoteRequest (n : OwnerElectionNode) (remote : P2pId) (request : OwnerVoteRequest)
    (now : Timestamp) : OwnerElectionNode × OwnerVoteResponse :=
  if !n.membership.isMember remote || remote ≠ request.candidateId then (n, n.voteResponse false)
  else if request.term < n.state.currentTerm then (n, n.voteResponse false)
  else
    let s := adoptTerm n.state request.term
    if s.votedFor.all (· = request.candidateId) then
      let n' := { n with state :=
        { s with votedFor := some request.candidateId, lastHeartbeatAt := now } }
      (n', n'.voteResponse true)
    else
      let n' := { n with state := s }
      (n', n'.voteResponse false)

/-- `control_plane.set_known_leader`, with the error dropped. -/
def noteLeader (n : OwnerElectionNode) (leaderId : P2pId) (term : U64) : OwnerElectionNode :=
  match n.controlPlane.setKnownLeader n.membership leaderId term with
  | .ok cp => { n with controlPlane := cp }
  | .error _ => n

def heartbeatResponse (n : OwnerElectionNode) (accepted : Bool) : OwnerHeartbeatResponse :=
  ⟨n.state.currentTerm, accepted, n.state.leaderId⟩

def receiveHeartbeat (n : OwnerElectionNode) (remote : P2pId) (request : OwnerHeartbeatRequest)
    (now : Timestamp) : OwnerElectionNode × OwnerHeartbeatResponse :=
  if !n.membership.isMember remote || remote ≠ request.leaderId then
    (n, n.heartbeatResponse false)
  else if request.term < n.state.currentTerm then (n, n.heartbeatResponse false)
  else
    let n' := { n with state :=
      { role := .follower, currentTerm := request.term, votedFor := none,
        leaderId := some request.leaderId, lastHeartbeatAt := now } }
    let n'' := n'.noteLeader request.leaderId request.term
    (n'', n''.heartbeatResponse true)

/-- Election-state region of `become_leader`. -/
def becomeLeader (n : OwnerElectionNode) (term : U64) (now : Timestamp) : OwnerElectionNode :=
  { n with state :=
    { role := .leader, currentTerm := term, votedFor := some n.localOwnerId,
      leaderId := some n.localOwnerId, lastHeartbeatAt := now } }

/-- Election-state region of `step_down`. -/
def stepDown (n : OwnerElectionNode) (term : U64) (leaderId : Option P2pId) (now : Timestamp) :
    OwnerElectionNode :=
  { n with state :=
    { role := .follower, currentTerm := max n.state.currentTerm term, votedFor := none,
      leaderId := leaderId, lastHeartbeatAt := now } }

def requireLeader (n : OwnerElectionNode) : P2pResult (U64 × P2pId) :=
  if n.state.role = .leader then .ok (n.state.currentTerm, n.localOwnerId)
  else .error ⟨.permissionDenied, "local ownerSN is not leader"⟩

/-! ### What the regions leave alone -/

section Frame

variable (n : OwnerElectionNode)

@[simp] theorem noteLeader_state (l : P2pId) (t : U64) : (n.noteLeader l t).state = n.state := by
  unfold noteLeader; split <;> rfl

@[simp] theorem noteLeader_localOwnerId (l : P2pId) (t : U64) :
    (n.noteLeader l t).localOwnerId = n.localOwnerId := by
  unfold noteLeader; split <;> rfl

@[simp] theorem noteLeader_membership (l : P2pId) (t : U64) :
    (n.noteLeader l t).membership = n.membership := by
  unfold noteLeader; split <;> rfl

@[simp] theorem noteLeader_log (l : P2pId) (t : U64) :
    (n.noteLeader l t).controlPlane.log = n.controlPlane.log := by
  unfold noteLeader
  split
  · rename_i cp h; exact (OwnerControlPlane.setKnownLeader_log h).1
  · rfl

@[simp] theorem noteLeader_committedIndex (l : P2pId) (t : U64) :
    (n.noteLeader l t).controlPlane.committedIndex = n.controlPlane.committedIndex := by
  unfold noteLeader
  split
  · rename_i cp h; exact (OwnerControlPlane.setKnownLeader_log h).2
  · rfl

end Frame

/-- When `receive_vote_request` grants: the sender is the candidate, a member, of a term not below
the node's, and no vote for another candidate is recorded in that term. -/
def Grants (n : OwnerElectionNode) (remote : P2pId) (request : OwnerVoteRequest) : Prop :=
  remote ∈ n.membership.members ∧ remote = request.candidateId ∧
    n.state.currentTerm ≤ request.term ∧
    (n.state.currentTerm = request.term →
      n.state.votedFor = none ∨ n.state.votedFor = some request.candidateId)

instance (n : OwnerElectionNode) (remote : P2pId) (request : OwnerVoteRequest) :
    Decidable (n.Grants remote request) := by unfold Grants; infer_instance

/-- When `receive_heartbeat` accepts. -/
def Accepts (n : OwnerElectionNode) (remote leaderId : P2pId) (term : U64) : Prop :=
  remote ∈ n.membership.members ∧ remote = leaderId ∧ n.state.currentTerm ≤ term

instance (n : OwnerElectionNode) (remote leaderId : P2pId) (term : U64) :
    Decidable (n.Accepts remote leaderId term) := by unfold Accepts; infer_instance

/-! ### The handlers by their conditions -/

section Handlers

variable {n : OwnerElectionNode} {remote : P2pId}

/-- The guard of the handlers: the sender is no member, or is not the owner the message names. -/
theorem guard_iff (id : P2pId) :
    (!n.membership.isMember remote || decide (remote ≠ id)) = true ↔
      ¬ (remote ∈ n.membership.members ∧ remote = id) := by
  rw [Bool.or_eq_true, Bool.not_eq_true', ← Bool.not_eq_true, OwnerMembership.isMember_iff,
    decide_eq_true_eq, ne_eq, not_and_or]

/-- The node after it granted `request`. -/
def granted (n : OwnerElectionNode) (request : OwnerVoteRequest) (now : Timestamp) :
    OwnerElectionNode :=
  { n with state :=
    { adoptTerm n.state request.term with
      votedFor := some request.candidateId, lastHeartbeatAt := now } }

theorem adoptTerm_currentTerm {s : OwnerElectionState} {t : U64} (h : s.currentTerm ≤ t) :
    (adoptTerm s t).currentTerm = t := by
  unfold adoptTerm
  split_ifs with hlt
  · rfl
  · exact le_antisymm h (not_lt.mp hlt)

theorem adoptTerm_self (s : OwnerElectionState) {t : U64} (h : s.currentTerm = t) :
    adoptTerm s t = s := if_neg (not_lt.mpr h.ge)

theorem receiveVoteRequest_grants {request : OwnerVoteRequest} (now : Timestamp)
    (h : n.Grants remote request) :
    n.receiveVoteRequest remote request now =
      (n.granted request now, (n.granted request now).voteResponse true) := by
  obtain ⟨hm, hr, ht, hv⟩ := h
  have hvote : (adoptTerm n.state request.term).votedFor.all (· = request.candidateId) = true := by
    rcases ht.lt_or_eq with hlt | heq
    · simp [adoptTerm, hlt]
    · rw [adoptTerm_self _ heq]
      rcases hv heq with hnone | hsome
      · simp [hnone]
      · simp [hsome]
  unfold receiveVoteRequest
  rw [if_neg (mt (guard_iff _).mp (not_not.mpr ⟨hm, hr⟩)), if_neg (not_lt.mpr ht)]
  exact if_pos hvote

/-- A request that is not granted changes nothing: the term is only taken over together with a
vote. -/
theorem receiveVoteRequest_denies {request : OwnerVoteRequest} (now : Timestamp)
    (h : ¬ n.Grants remote request) :
    n.receiveVoteRequest remote request now = (n, n.voteResponse false) := by
  unfold receiveVoteRequest
  by_cases hg : remote ∈ n.membership.members ∧ remote = request.candidateId
  · rw [if_neg (mt (guard_iff _).mp (not_not.mpr hg))]
    by_cases hlt : request.term < n.state.currentTerm
    · rw [if_pos hlt]
    · have heq : n.state.currentTerm = request.term := by
        by_contra hne
        exact h ⟨hg.1, hg.2, not_lt.mp hlt, fun he => absurd he hne⟩
      have hvote : ¬ n.state.votedFor.all (· = request.candidateId) = true := by
        intro hv
        refine h ⟨hg.1, hg.2, heq.le, fun _ => ?_⟩
        cases hvf : n.state.votedFor with
        | none => exact .inl rfl
        | some v =>
          rw [hvf] at hv
          exact .inr (by simpa using hv)
      rw [if_neg hlt]
      dsimp only
      rw [adoptTerm_self _ heq, if_neg hvote]
  · rw [if_pos ((guard_iff _).mpr hg)]

/-- The node after it accepted a heartbeat of `leaderId` in `term`. -/
def follow (n : OwnerElectionNode) (leaderId : P2pId) (term : U64) (now : Timestamp) :
    OwnerElectionNode :=
  { n with state :=
    { role := .follower, currentTerm := term, votedFor := none, leaderId := some leaderId,
      lastHeartbeatAt := now } }.noteLeader leaderId term

theorem follow_state (n : OwnerElectionNode) (leaderId : P2pId) (term : U64) (now : Timestamp) :
    (n.follow leaderId term now).state =
      ⟨.follower, term, none, some leaderId, now⟩ := noteLeader_state ..

theorem receiveHeartbeat_accepts {request : OwnerHeartbeatRequest} (now : Timestamp)
    (h : n.Accepts remote request.leaderId request.term) :
    n.receiveHeartbeat remote request now =
      (n.follow request.leaderId request.term now,
        (n.follow request.leaderId request.term now).heartbeatResponse true) := by
  obtain ⟨hm, hr, ht⟩ := h
  unfold receiveHeartbeat
  rw [if_neg (mt (guard_iff _).mp (not_not.mpr ⟨hm, hr⟩)), if_neg (not_lt.mpr ht)]
  rfl

theorem receiveHeartbeat_rejects {request : OwnerHeartbeatRequest} (now : Timestamp)
    (h : ¬ n.Accepts remote request.leaderId request.term) :
    n.receiveHeartbeat remote request now = (n, n.heartbeatResponse false) := by
  unfold receiveHeartbeat
  by_cases hg : remote ∈ n.membership.members ∧ remote = request.leaderId
  · have hlt : request.term < n.state.currentTerm :=
      not_le.mp fun hle => h ⟨hg.1, hg.2, hle⟩
    rw [if_neg (mt (guard_iff _).mp (not_not.mpr hg)), if_pos hlt]
  · rw [if_pos ((guard_iff _).mpr hg)]

end Handlers

end OwnerElectionNode

end BuckyP2p.Directory
