import BuckyP2p.Directory.Calls

/-!
# BuckyP2p.Directory.Pieces — what the pieces of the calls can do

Facts about every piece of every call, for the proofs about one host and about the cluster:

* `Keeps`: no piece changes the node's id or its membership; the session pieces leave the whole
  election state alone, except for a `step_down`.
* `Effect.NoVote`: only `start_election` and `receive_vote_request` take part in an election.
* `Effect.Serves`: a piece answers only the request that its call serves.
* `Host.Piece`, `Host.step_cases`: the steps of a host, one case for each kind of input.
-/

namespace BuckyP2p.Directory

namespace OwnerElectionNode

variable (n : OwnerElectionNode)

/-! ### What the pieces leave alone -/

/-- The effect changes neither the node's id nor its membership. -/
def Keeps (e : Effect) : Prop :=
  e.node.localOwnerId = n.localOwnerId ∧ e.node.membership = n.membership

section Frame

variable {n}

theorem askVote_keeps (now : Timestamp) (term highest : U64) (votes : Nat) (l : List P2pId) :
    n.Keeps (n.askVote now term highest votes l) := by
  cases l with
  | nil => unfold askVote; split_ifs <;> exact ⟨rfl, rfl⟩
  | cons m rest => exact ⟨rfl, rfl⟩

theorem returnOk_node (ticket : Ticket) (index : Nat) : (n.returnOk ticket index).node = n := by
  unfold returnOk
  split <;> rfl

theorem returnErr_node (ticket : Option Ticket) : (n.returnErr ticket).node = n := by
  unfold returnErr
  split <;> rfl

theorem askHeartbeat_node (now : Timestamp) (request : OwnerHeartbeatRequest) (accepted : Nat)
    (l : List P2pId) : (n.askHeartbeat now request accepted l).node = n := by
  cases l <;> rfl

theorem sendHeartbeat_node (now : Timestamp) : (n.sendHeartbeat now).node = n := by
  unfold sendHeartbeat
  split
  · exact askHeartbeat_node ..
  · rfl

theorem askReplicate_node (job : Job) (accepted : Nat) (l : List P2pId) :
    (n.askReplicate job accepted l).node = n := by
  cases l with
  | nil =>
    unfold askReplicate
    split_ifs
    · exact returnErr_node _
    · rfl
  | cons m rest => rfl

theorem askPublish_node (job : Job) (index : Nat) (l : List P2pId) :
    (n.askPublish job index l).node = n := by
  cases l with
  | nil => exact returnOk_node ..
  | cons m rest => rfl

theorem replicateAndCommit_node (call : Nat) (ticket : Ticket) :
    (n.replicateAndCommit call ticket).node = n := by
  unfold replicateAndCommit
  split
  · exact askReplicate_node ..
  · exact returnErr_node _

theorem commitOrForwardSession_node (call : Nat) (ticket : Ticket) :
    (n.commitOrForwardSession call ticket).node = n := by
  unfold commitOrForwardSession
  split
  · exact replicateAndCommit_node ..
  · split
    · exact returnErr_node _
    · rfl

theorem receiveSessionForward_node (call : Nat) (remote : P2pId) (req : ReqId)
    (request : OwnerSessionForward) :
    (n.receiveSessionForward call remote req request).node = n := by
  unfold receiveSessionForward
  dsimp only
  split
  · exact returnErr_node _
  · exact commitOrForwardSession_node ..

theorem stepDownAndFail_node (term : U64) (leaderId : Option P2pId) (now : Timestamp)
    (ticket : Option Ticket) :
    (n.stepDownAndFail term leaderId now ticket).node = n.stepDown term leaderId now := by
  cases leaderId with
  | none => exact returnErr_node _
  | some l => rfl

/-- A control-plane region leaves the election state, the id and the membership alone. -/
theorem commitJob_state (call : Nat) (job : Job) :
    (n.commitJob call job).node.state = n.state ∧ n.Keeps (n.commitJob call job) := by
  unfold commitJob
  split
  · simp [Keeps, askPublish_node]
  · simp [Keeps, returnErr_node]

theorem answerReplication_state (remote : P2pId) (req : ReqId)
    (request : OwnerSessionReplication) :
    (n.answerReplication remote req request).node.state = n.state ∧
      n.Keeps (n.answerReplication remote req request) := by
  unfold answerReplication
  split
  · exact ⟨rfl, rfl, rfl⟩
  · split <;> exact ⟨rfl, rfl, rfl⟩

theorem resumed_state (call : Nat) (c : Call) :
    (n.resumed call c).node.state = n.state ∧ n.Keeps (n.resumed call c) := by
  unfold resumed
  split
  · split
    · simp [Keeps, sendHeartbeat_node]
    · exact ⟨rfl, rfl, rfl⟩
  · exact commitJob_state ..
  · simp [Keeps, returnErr_node]
  · exact answerReplication_state ..
  · exact ⟨rfl, rfl, rfl⟩

theorem receiveSessionReplication_accepts {remote : P2pId} (req : ReqId)
    {request : OwnerSessionReplication} (now : Timestamp)
    (h : n.Accepts remote request.leaderId request.term) :
    n.receiveSessionReplication remote req request now =
      { node := n.follow request.leaderId request.term now
        call := some (.replicated remote req request) } := by
  unfold receiveSessionReplication
  rw [if_neg (mt (guard_iff _).mp (not_not.mpr ⟨h.1, h.2.1⟩))]
  dsimp only
  rw [receiveHeartbeat_accepts now h]
  rfl

theorem receiveSessionReplication_rejects {remote : P2pId} (req : ReqId)
    {request : OwnerSessionReplication} (now : Timestamp)
    (h : ¬ n.Accepts remote request.leaderId request.term) :
    n.receiveSessionReplication remote req request now =
      { node := n
        reply := some (remote, req,
          .replicate (n.replicationResponse false n.controlPlane.committedIndex)) } := by
  unfold receiveSessionReplication
  by_cases hg : remote ∈ n.membership.members ∧ remote = request.leaderId
  · rw [if_neg (mt (guard_iff _).mp (not_not.mpr hg))]
    dsimp only
    rw [receiveHeartbeat_rejects now h]
    rfl
  · rw [if_pos ((guard_iff _).mpr hg)]

theorem receiveHeartbeat_keeps (remote : P2pId) (request : OwnerHeartbeatRequest)
    (now : Timestamp) :
    (n.receiveHeartbeat remote request now).1.localOwnerId = n.localOwnerId ∧
      (n.receiveHeartbeat remote request now).1.membership = n.membership := by
  by_cases h : n.Accepts remote request.leaderId request.term
  · rw [receiveHeartbeat_accepts now h]
    simp [follow]
  · rw [receiveHeartbeat_rejects now h]
    exact ⟨rfl, rfl⟩

theorem receiveVoteRequest_keeps (remote : P2pId) (request : OwnerVoteRequest)
    (now : Timestamp) :
    (n.receiveVoteRequest remote request now).1.localOwnerId = n.localOwnerId ∧
      (n.receiveVoteRequest remote request now).1.membership = n.membership := by
  by_cases h : n.Grants remote request
  · rw [receiveVoteRequest_grants now h]
    exact ⟨rfl, rfl⟩
  · rw [receiveVoteRequest_denies now h]
    exact ⟨rfl, rfl⟩

theorem failed_keeps (c : Call) : n.Keeps (n.failed c) := by
  cases c <;>
    simp [failed, Keeps, askHeartbeat_node, askReplicate_node, askPublish_node, returnErr_node]
  exact askVote_keeps ..

theorem answered_keeps (call : Nat) (c : Call) (r : Response) :
    n.Keeps (n.answered call c r) := by
  unfold answered
  split
  · split_ifs <;> first
      | exact askVote_keeps ..
      | simp [Keeps, stepDownAndFail_node, stepDown]
  · split_ifs <;> simp [Keeps, stepDownAndFail_node, stepDown, askHeartbeat_node]
  · split_ifs <;> simp [Keeps, stepDownAndFail_node, stepDown, askReplicate_node]
  · simp [Keeps, askPublish_node]
  · split_ifs <;> simp [Keeps, returnOk_node, returnErr_node]
  · exact failed_keeps _

end Frame

end OwnerElectionNode

/-! ### Pieces that take no part in an election -/

def Call.isElection : Call → Bool
  | .election .. => true
  | _ => false

def Response.isVote : Response → Bool
  | .vote _ => true
  | _ => false

def Event.isVote : Event → Bool
  | .voted .. | .led .. => true
  | _ => false

/-- The term and leader of an answer that the call steps down for: its term is above the one the
call captured. -/
def Call.outrankedBy : Call → Response → Option (U64 × Option P2pId)
  | .election _ term _ _ _ _, .vote r => if term < r.term then some (r.term, r.leaderId) else none
  | .heartbeat _ request _ _ _, .heartbeat r =>
    if request.term < r.term then some (r.term, r.leaderId) else none
  | .replicate job _ _ _, .replicate r =>
    if job.term < r.term then some (r.term, r.leaderId) else none
  | _, _ => none

/-- The effect leaves no election behind, answers no vote request and records no election event. -/
structure Effect.NoVote (e : Effect) : Prop where
  call : ∀ c ∈ e.call, c.isElection = false
  reply : ∀ p ∈ e.reply, p.2.2.isVote = false
  events : ∀ ev ∈ e.events, ev.isVote = false

namespace OwnerElectionNode

section NoVote

variable {n : OwnerElectionNode}

theorem noVote_node (n : OwnerElectionNode) : Effect.NoVote { node := n } := by
  constructor <;> simp

/-- More events that are not of an election. -/
theorem noVote_event {e : Effect} {ev : Event} (h : e.NoVote) (hev : ev.isVote = false) :
    Effect.NoVote { e with events := ev :: e.events } where
  call := h.call
  reply := h.reply
  events := by simpa [hev] using h.events

theorem noVote_call {c : Call} (hc : c.isElection = false) :
    Effect.NoVote { node := n, call := some c } := by
  constructor <;> simp [hc]

theorem noVote_returnOk (ticket : Ticket) (index : Nat) : (n.returnOk ticket index).NoVote := by
  unfold returnOk
  split <;> constructor <;> simp [Event.isVote, Response.isVote]

theorem noVote_returnErr (ticket : Option Ticket) : (n.returnErr ticket).NoVote := by
  unfold returnErr
  split <;> constructor <;> simp [Response.isVote]

theorem noVote_askHeartbeat (now : Timestamp) (request : OwnerHeartbeatRequest) (accepted : Nat)
    (l : List P2pId) : (n.askHeartbeat now request accepted l).NoVote := by
  cases l with
  | nil => exact noVote_node n
  | cons m rest => exact noVote_call rfl

theorem noVote_sendHeartbeat (now : Timestamp) : (n.sendHeartbeat now).NoVote := by
  unfold sendHeartbeat
  split
  · exact noVote_askHeartbeat ..
  · exact noVote_node n

theorem noVote_askReplicate (job : Job) (accepted : Nat) (l : List P2pId) :
    (n.askReplicate job accepted l).NoVote := by
  cases l with
  | nil =>
    unfold askReplicate
    split_ifs
    · exact noVote_returnErr _
    · exact noVote_call rfl
  | cons m rest => exact noVote_call rfl

theorem noVote_askPublish (job : Job) (index : Nat) (l : List P2pId) :
    (n.askPublish job index l).NoVote := by
  cases l with
  | nil => exact noVote_returnOk ..
  | cons m rest => exact noVote_call rfl

theorem noVote_commitOrForwardSession (call : Nat) (ticket : Ticket) :
    (n.commitOrForwardSession call ticket).NoVote := by
  unfold commitOrForwardSession replicateAndCommit
  split
  · split
    · exact noVote_event (noVote_askReplicate ..) rfl
    · exact noVote_returnErr _
  · split
    · exact noVote_returnErr _
    · exact noVote_call rfl

theorem noVote_receiveSessionForward (call : Nat) (remote : P2pId) (req : ReqId)
    (request : OwnerSessionForward) :
    (n.receiveSessionForward call remote req request).NoVote := by
  unfold receiveSessionForward
  dsimp only
  split
  · exact noVote_returnErr _
  · exact noVote_commitOrForwardSession ..

theorem noVote_stepDownAndFail (term : U64) (leaderId : Option P2pId) (now : Timestamp)
    (ticket : Option Ticket) : (n.stepDownAndFail term leaderId now ticket).NoVote := by
  cases leaderId with
  | none => exact noVote_returnErr _
  | some l => exact noVote_call rfl

theorem noVote_serveHeartbeat (remote : P2pId) (req : ReqId) (request : OwnerHeartbeatRequest)
    (now : Timestamp) : (n.serveHeartbeat remote req request now).NoVote := by
  constructor <;> simp [serveHeartbeat, Response.isVote]

theorem noVote_receiveSessionReplication (remote : P2pId) (req : ReqId)
    (request : OwnerSessionReplication) (now : Timestamp) :
    (n.receiveSessionReplication remote req request now).NoVote := by
  unfold receiveSessionReplication
  simp only
  split_ifs <;> constructor <;> simp [Response.isVote, Call.isElection]

theorem noVote_resumed (call : Nat) {c : Call} (hc : c.isElection = false) :
    (n.resumed call c).NoVote := by
  unfold resumed
  split
  · split
    · exact noVote_sendHeartbeat _
    · exact noVote_node n
  · unfold commitJob
    split
    · exact noVote_event (noVote_askPublish ..) rfl
    · exact noVote_returnErr _
  · exact noVote_returnErr _
  · unfold answerReplication
    split
    · constructor <;> simp [Response.isVote]
    · split <;> constructor <;> simp [Response.isVote, Event.isVote]
  · exact noVote_call hc

theorem noVote_failed {c : Call} (hc : c.isElection = false) : (n.failed c).NoVote := by
  unfold failed
  split
  · cases hc
  · exact noVote_askHeartbeat ..
  · exact noVote_askReplicate ..
  · exact noVote_askPublish ..
  · exact noVote_returnErr _
  · exact noVote_call hc

theorem noVote_answered (call : Nat) {c : Call} (hc : c.isElection = false) (r : Response) :
    (n.answered call c r).NoVote := by
  unfold answered
  split
  · cases hc
  · split_ifs
    · exact noVote_stepDownAndFail ..
    · exact noVote_askHeartbeat ..
    · exact noVote_askHeartbeat ..
  · split_ifs
    · exact noVote_stepDownAndFail ..
    · exact noVote_event (noVote_askReplicate ..) rfl
    · exact noVote_askReplicate ..
  · exact noVote_askPublish ..
  · split_ifs
    · exact noVote_returnOk ..
    · exact noVote_returnErr _
  · exact noVote_failed hc

end NoVote

/-! ### Answers -/

section Answers

variable {n : OwnerElectionNode}

theorem failed_state {c : Call} (hc : c.isElection = false) :
    (n.failed c).node.state = n.state := by
  cases c <;> first
    | trivial
    | simp [failed, askHeartbeat_node, askReplicate_node, askPublish_node, returnErr_node]

theorem answered_outranked (n : OwnerElectionNode) (call : Nat) {c : Call} {r : Response} {t : U64} {l : Option P2pId}
    (h : c.outrankedBy r = some (t, l)) :
    ∃ now ticket, n.answered call c r = n.stepDownAndFail t l now ticket := by
  unfold Call.outrankedBy at h
  split at h
  all_goals first
    | (split_ifs at h with hlt; cases h; exact ⟨_, _, if_pos hlt⟩)
    | cases h

/-- An answer of a term that the call does not step down for. -/
theorem answered_state {call : Nat} {c : Call} {r : Response} (h : c.outrankedBy r = none)
    (hc : c.isElection = false) : (n.answered call c r).node.state = n.state := by
  have hfail := failed_state (n := n) hc
  cases c <;> cases r <;> first
    | exact hfail
    | trivial
    | skip
  case heartbeat.heartbeat =>
    have hlt := (ite_eq_right_iff.mp h).mt (by simp)
    rw [answered, if_neg hlt, askHeartbeat_node]
  case replicate.replicate =>
    have hlt := (ite_eq_right_iff.mp h).mt (by simp)
    rw [answered, if_neg hlt]
    split_ifs <;> simp [askReplicate_node]
  case forward.forward =>
    rw [answered]
    split_ifs <;> simp [returnOk_node, returnErr_node]

/-- An election goes on with at most one more vote. -/
theorem answered_election (n : OwnerElectionNode) (call : Nat) {now : Timestamp} {term highest : U64} {votes : Nat}
    {m : P2pId} {rest : List P2pId} {r : Response}
    (h : (Call.election now term highest votes m rest).outrankedBy r = none) :
    ∃ highest' votes', n.answered call (.election now term highest votes m rest) r =
        n.askVote now term highest' votes' rest ∧
      votes' ≤ votes + 1 ∧ (highest = term → highest' = term) := by
  cases r with
  | vote r =>
    have hlt : ¬ term < r.term := (ite_eq_right_iff.mp h).mt (by simp)
    refine ⟨max highest r.term, if r.voteGranted then votes + 1 else votes, if_neg hlt, ?_, ?_⟩
    · split_ifs <;> omega
    · rintro rfl
      exact max_eq_left (not_lt.mp hlt)
  | heartbeat r => exact ⟨highest, votes, rfl, by omega, id⟩
  | replicate r => exact ⟨highest, votes, rfl, by omega, id⟩
  | forward r => exact ⟨highest, votes, rfl, by omega, id⟩

/-- The loop of `start_election` records the term when it makes the node leader. -/
theorem askVote_leader {now : Timestamp} {term highest : U64} {votes : Nat} {l : List P2pId}
    (h : (n.askVote now term highest votes l).node.state.role = .leader) :
    (n.askVote now term highest votes l).node.state = n.state ∨
      .led (n.askVote now term highest votes l).node.state.currentTerm ∈
        (n.askVote now term highest votes l).events := by
  cases l with
  | cons m rest => exact .inl rfl
  | nil =>
    unfold askVote at h ⊢
    dsimp only at h ⊢
    split_ifs at h ⊢ with hq
    · exact .inr (List.mem_singleton.mpr rfl)
    · cases h

end Answers

end OwnerElectionNode

/-! ### Which request a piece serves -/

def Ticket.serves (t : Ticket) : Option (P2pId × ReqId × Request) :=
  match t.client with
  | .caller => none
  | .remote id req => some (id, req, .forward ⟨t.entry, t.now⟩)

/-- The request of another owner that the call will answer. -/
def Call.serves : Call → Option (P2pId × ReqId × Request)
  | .replicate job _ _ _ => job.serves
  | .commit job => job.serves
  | .publish job _ _ _ => job.serves
  | .forward ticket _ => ticket.serves
  | .steppedDown _ _ ticket => ticket.bind Ticket.serves
  | .replicated remote req request => some (remote, req, .replicate request)
  | _ => none

/-- The effect answers only the request `x`, now or later. -/
structure Effect.Serves (x : Option (P2pId × ReqId × Request)) (e : Effect) : Prop where
  call : ∀ c ∈ e.call, c.serves = none ∨ c.serves = x
  reply : ∀ p ∈ e.reply, ∃ b, x = some (p.1, p.2.1, b)

namespace OwnerElectionNode

section Serves

variable {n : OwnerElectionNode}

theorem serves_call {c : Call} {x : Option (P2pId × ReqId × Request)}
    (hc : c.serves = none ∨ c.serves = x) : Effect.Serves x { node := n, call := some c } where
  call c' h := by cases h; exact hc
  reply p h := by cases h

theorem serves_node (x : Option (P2pId × ReqId × Request)) : Effect.Serves x { node := n } := by
  constructor <;> simp

theorem serves_events {e : Effect} {x : Option (P2pId × ReqId × Request)} (h : e.Serves x)
    (evs : List Event) : Effect.Serves x { e with events := evs } := ⟨h.call, h.reply⟩

theorem serves_returnOk (ticket : Ticket) (index : Nat) :
    (n.returnOk ticket index).Serves ticket.serves := by
  cases hcl : ticket.client <;> constructor <;> simp [returnOk, Ticket.serves, hcl]

theorem serves_returnErr (ticket : Option Ticket) {x : Option (P2pId × ReqId × Request)}
    (hx : ticket.bind Ticket.serves = x) : (n.returnErr ticket).Serves x := by
  subst hx
  unfold returnErr
  split
  · rename_i id req h
    obtain ⟨t, rfl, ht⟩ := Option.map_eq_some_iff.mp h
    constructor <;> simp [Ticket.serves, ht]
  · exact serves_node _

theorem serves_askVote (now : Timestamp) (term highest : U64) (votes : Nat) (l : List P2pId)
    (x : Option (P2pId × ReqId × Request)) : (n.askVote now term highest votes l).Serves x := by
  cases l with
  | nil =>
    unfold askVote
    dsimp only
    split_ifs
    · exact serves_events (serves_call (.inl rfl)) _
    · exact serves_node _
  | cons m rest => exact serves_call (.inl rfl)

theorem serves_askHeartbeat (now : Timestamp) (request : OwnerHeartbeatRequest) (accepted : Nat)
    (l : List P2pId) (x : Option (P2pId × ReqId × Request)) :
    (n.askHeartbeat now request accepted l).Serves x := by
  cases l with
  | nil => exact serves_node _
  | cons m rest => exact serves_call (.inl rfl)

theorem serves_sendHeartbeat (now : Timestamp) (x : Option (P2pId × ReqId × Request)) :
    (n.sendHeartbeat now).Serves x := by
  unfold sendHeartbeat
  split
  · exact serves_askHeartbeat ..
  · exact serves_node _

theorem serves_askReplicate (job : Job) (accepted : Nat) (l : List P2pId) :
    (n.askReplicate job accepted l).Serves job.serves := by
  cases l with
  | nil =>
    unfold askReplicate
    dsimp only
    split_ifs
    · exact serves_returnErr _ rfl
    · exact serves_call (.inr rfl)
  | cons m rest => exact serves_call (.inr rfl)

theorem serves_askPublish (job : Job) (index : Nat) (l : List P2pId) :
    (n.askPublish job index l).Serves job.serves := by
  cases l with
  | nil => exact serves_returnOk ..
  | cons m rest => exact serves_call (.inr rfl)

theorem serves_commitOrForwardSession (call : Nat) (ticket : Ticket) :
    (n.commitOrForwardSession call ticket).Serves ticket.serves := by
  unfold commitOrForwardSession replicateAndCommit
  split
  · split
    · exact serves_events (serves_askReplicate ⟨ticket, _, _⟩ _ _) _
    · exact serves_returnErr _ rfl
  · split
    · exact serves_returnErr _ rfl
    · exact serves_call (.inr rfl)

theorem serves_stepDownAndFail (term : U64) (leaderId : Option P2pId) (now : Timestamp)
    (ticket : Option Ticket) {x : Option (P2pId × ReqId × Request)}
    (hx : ticket.bind Ticket.serves = x) :
    (n.stepDownAndFail term leaderId now ticket).Serves x := by
  cases leaderId with
  | none => exact serves_returnErr _ hx
  | some l => exact serves_call (.inr hx)

theorem serves_receiveSessionReplication (remote : P2pId) (req : ReqId)
    (request : OwnerSessionReplication) (now : Timestamp) :
    (n.receiveSessionReplication remote req request now).Serves
      (some (remote, req, .replicate request)) := by
  by_cases h : n.Accepts remote request.leaderId request.term
  · rw [receiveSessionReplication_accepts req now h]
    exact serves_call (.inr rfl)
  · rw [receiveSessionReplication_rejects req now h]
    constructor <;> simp

theorem serves_failed (c : Call) : (n.failed c).Serves c.serves := by
  unfold failed
  split
  · exact serves_askVote ..
  · exact serves_askHeartbeat ..
  · exact serves_askReplicate ..
  · exact serves_askPublish ..
  · exact serves_returnErr _ rfl
  · exact serves_call (.inr rfl)

theorem serves_answered (call : Nat) (c : Call) (r : Response) :
    (n.answered call c r).Serves c.serves := by
  unfold answered
  split
  · split_ifs
    · exact serves_stepDownAndFail _ _ _ _ rfl
    · exact serves_askVote ..
    · exact serves_askVote ..
  · split_ifs
    · exact serves_stepDownAndFail _ _ _ _ rfl
    · exact serves_askHeartbeat ..
    · exact serves_askHeartbeat ..
  · split_ifs
    · exact serves_stepDownAndFail _ _ _ _ rfl
    · exact serves_events (serves_askReplicate ..) _
    · exact serves_askReplicate ..
  · exact serves_askPublish ..
  · split_ifs
    · exact serves_returnOk ..
    · exact serves_returnErr _ rfl
  · exact serves_failed _

theorem serves_resumed (call : Nat) (c : Call) : (n.resumed call c).Serves c.serves := by
  unfold resumed
  split
  · split
    · exact serves_sendHeartbeat ..
    · exact serves_node _
  · unfold commitJob
    split
    · exact serves_events (serves_askPublish ..) _
    · exact serves_returnErr _ rfl
  · exact serves_returnErr _ rfl
  · unfold answerReplication
    split
    · constructor <;> simp [Call.serves]
    · split <;> constructor <;> simp [Call.serves]
  · exact serves_call (.inr rfl)

end Serves

end OwnerElectionNode

/-! ## Steps of a host -/

/-- The owner that a request names as its sender. -/
def Request.names : Request → Option P2pId
  | .vote r => some r.candidateId
  | .heartbeat r => some r.leaderId
  | .replicate r => some r.leaderId
  | .forward _ => none

namespace Host

/-- `piece`, one case for each kind of input. -/
inductive Piece (h : Host) : Input → Nat → Nat → Effect → Prop
  | startElection (now : Timestamp) :
    Piece h (.startElection now) h.next 0 (h.node.startElection now)
  | sendHeartbeat (now : Timestamp) :
    Piece h (.sendHeartbeat now) h.next 0 (h.node.sendHeartbeat now)
  | submit (entry : OwnerSessionEntry) (now : Timestamp) :
    Piece h (.submit entry now) h.next 0 (h.node.submit h.next entry now)
  | vote (remote : P2pId) (req : ReqId) (request : OwnerVoteRequest) (now : Timestamp) :
    Piece h (.recv remote req (.vote request) now) h.next 0
      (h.node.serveVote remote req request now)
  | heartbeat (remote : P2pId) (req : ReqId) (request : OwnerHeartbeatRequest) (now : Timestamp) :
    Piece h (.recv remote req (.heartbeat request) now) h.next 0
      (h.node.serveHeartbeat remote req request now)
  | replicate (remote : P2pId) (req : ReqId) (request : OwnerSessionReplication)
      (now : Timestamp) :
    Piece h (.recv remote req (.replicate request) now) h.next 0
      (h.node.receiveSessionReplication remote req request now)
  | forward (remote : P2pId) (req : ReqId) (request : OwnerSessionForward) (now : Timestamp) :
    Piece h (.recv remote req (.forward request) now) h.next 0
      (h.node.receiveSessionForward h.next remote req request)
  | answer (remote : P2pId) (req : ReqId) (response : Response) (c : Call)
      (hc : h.calls req.call = some (c, req.seq)) (ha : c.awaits = some remote) :
    Piece h (.answer remote req response) req.call req.seq (h.node.answered req.call c response)
  | fail (req : ReqId) (c : Call) (hc : h.calls req.call = some (c, req.seq))
      (ha : c.awaits.isSome = true) :
    Piece h (.fail req) req.call req.seq (h.node.failed c)
  | resume (k s : Nat) (c : Call) (hc : h.calls k = some (c, s)) (ha : c.awaits = none) :
    Piece h (.resume k) k s (h.node.resumed k c)

theorem piece_some {h : Host} {i : Input} {k s : Nat} {e : Effect}
    (hp : h.piece i = some (k, s, e)) : Piece h i k s e := by
  cases i with
  | startElection now => cases hp; exact .startElection now
  | sendHeartbeat now => cases hp; exact .sendHeartbeat now
  | submit entry now => cases hp; exact .submit entry now
  | recv remote req request now =>
    cases request with
    | vote r => cases hp; exact .vote remote req r now
    | heartbeat r => cases hp; exact .heartbeat remote req r now
    | replicate r => cases hp; exact .replicate remote req r now
    | forward r => cases hp; exact .forward remote req r now
  | answer remote req response =>
    simp only [piece] at hp
    split at hp
    · rename_i c s' hc
      split_ifs at hp with hm
      cases hp
      obtain ⟨rfl, ha⟩ := hm
      exact .answer remote req response c hc ha
    · cases hp
  | fail req =>
    simp only [piece] at hp
    split at hp
    · rename_i c s' hc
      split_ifs at hp with hm
      cases hp
      obtain ⟨rfl, ha⟩ := hm
      exact .fail req c hc ha
    · cases hp
  | resume call =>
    simp only [piece] at hp
    split at hp
    · rename_i c s' hc
      split_ifs at hp with ha
      cases hp
      exact .resume _ _ c hc ha
    · cases hp

/-- No piece changes the node's id or its membership. -/
theorem Piece.keeps {h : Host} {i : Input} {k s : Nat} {e : Effect} (hp : Piece h i k s e) :
    h.node.Keeps e := by
  cases hp with
  | startElection now => exact OwnerElectionNode.askVote_keeps (n := h.node.openElection now) ..
  | sendHeartbeat now =>
    rw [OwnerElectionNode.Keeps, OwnerElectionNode.sendHeartbeat_node]
    exact ⟨rfl, rfl⟩
  | submit entry now =>
    rw [OwnerElectionNode.Keeps, OwnerElectionNode.submit,
      OwnerElectionNode.commitOrForwardSession_node]
    exact ⟨rfl, rfl⟩
  | vote remote req request now => exact OwnerElectionNode.receiveVoteRequest_keeps ..
  | heartbeat remote req request now => exact OwnerElectionNode.receiveHeartbeat_keeps ..
  | replicate remote req request now =>
    by_cases ha : h.node.Accepts remote request.leaderId request.term
    · rw [OwnerElectionNode.receiveSessionReplication_accepts req now ha]
      simp [OwnerElectionNode.Keeps, OwnerElectionNode.follow]
    · rw [OwnerElectionNode.receiveSessionReplication_rejects req now ha]
      exact ⟨rfl, rfl⟩
  | forward remote req request now =>
    rw [OwnerElectionNode.Keeps, OwnerElectionNode.receiveSessionForward_node]
    exact ⟨rfl, rfl⟩
  | answer remote req response c hc ha => exact OwnerElectionNode.answered_keeps ..
  | fail req c hc ha => exact OwnerElectionNode.failed_keeps c
  | resume k s c hc ha => exact (OwnerElectionNode.resumed_state k c).2

/-- The request of another owner that an input, or the call it goes on with, is about. -/
def serving (h : Host) : Input → Option (P2pId × ReqId × Request)
  | .recv remote req request _ => some (remote, req, request)
  | .answer _ req _ => (h.calls req.call).bind fun p => p.1.serves
  | .fail req => (h.calls req.call).bind fun p => p.1.serves
  | .resume k => (h.calls k).bind fun p => p.1.serves
  | _ => none

theorem Piece.serves {h : Host} {i : Input} {k s : Nat} {e : Effect} (hp : Piece h i k s e) :
    e.Serves (h.serving i) := by
  cases hp with
  | startElection now =>
    exact OwnerElectionNode.serves_events (OwnerElectionNode.serves_askVote ..) _
  | sendHeartbeat now => exact OwnerElectionNode.serves_sendHeartbeat ..
  | submit entry now =>
    exact OwnerElectionNode.serves_events
      (OwnerElectionNode.serves_commitOrForwardSession _ ⟨.caller, entry, now⟩) _
  | vote remote req request now =>
    constructor <;> simp [OwnerElectionNode.serveVote, serving]
  | heartbeat remote req request now =>
    constructor <;> simp [OwnerElectionNode.serveHeartbeat, serving]
  | replicate remote req request now =>
    exact OwnerElectionNode.serves_receiveSessionReplication ..
  | forward remote req request now =>
    unfold OwnerElectionNode.receiveSessionForward
    dsimp only
    split_ifs
    · exact OwnerElectionNode.serves_returnErr _ rfl
    · exact OwnerElectionNode.serves_commitOrForwardSession _ ⟨.remote remote req, _, _⟩
  | answer remote req response c hc ha =>
    rw [serving, hc]
    exact OwnerElectionNode.serves_answered ..
  | fail req c hc ha =>
    rw [serving, hc]
    exact OwnerElectionNode.serves_failed c
  | resume k s c hc ha =>
    rw [serving, hc]
    exact OwnerElectionNode.serves_resumed k c

/-- A piece is of a new call or of a suspended one. -/
theorem Piece.place {h : Host} {i : Input} {k s : Nat} {e : Effect} (hp : Piece h i k s e) :
    (k = h.next ∧ s = 0) ∨ ∃ c, h.calls k = some (c, s) := by
  cases hp with
  | answer remote req response c hc ha => exact .inr ⟨c, hc⟩
  | fail req c hc ha => exact .inr ⟨c, hc⟩
  | resume k s c hc ha => exact .inr ⟨c, hc⟩
  | _ => exact .inl ⟨rfl, rfl⟩

/-- **Guards.**  A request from outside the membership, or one that names an owner other than its
authenticated sender, changes no state, leaves no call behind and is not recorded. -/
theorem Piece.ignores {h : Host} {remote : P2pId} {req : ReqId} {request : Request}
    {now : Timestamp} {k s : Nat} {e : Effect}
    (hp : Piece h (.recv remote req request now) k s e)
    (hg : remote ∉ h.node.membership.members ∨ ∃ id ∈ request.names, id ≠ remote) :
    e.node = h.node ∧ e.call = none ∧ e.events = [] := by
  have hguard : ∀ id ∈ request.names, ¬ (remote ∈ h.node.membership.members ∧ remote = id) := by
    rintro id hid ⟨hm, rfl⟩
    rcases hg with hg | ⟨id, hid', hne⟩
    · exact hg hm
    · exact hne (Option.some.inj (hid'.symm.trans hid))
  cases hp with
  | vote remote req request now =>
    have hno : ¬ h.node.Grants remote request := fun hgr => hguard _ rfl ⟨hgr.1, hgr.2.1⟩
    unfold OwnerElectionNode.serveVote
    rw [OwnerElectionNode.receiveVoteRequest_denies now hno]
    exact ⟨rfl, rfl, rfl⟩
  | heartbeat remote req request now =>
    have hno : ¬ h.node.Accepts remote request.leaderId request.term :=
      fun ha => hguard _ rfl ⟨ha.1, ha.2.1⟩
    unfold OwnerElectionNode.serveHeartbeat
    rw [OwnerElectionNode.receiveHeartbeat_rejects now hno]
    exact ⟨rfl, rfl, rfl⟩
  | replicate remote req request now =>
    have hno : ¬ h.node.Accepts remote request.leaderId request.term :=
      fun ha => hguard _ rfl ⟨ha.1, ha.2.1⟩
    rw [OwnerElectionNode.receiveSessionReplication_rejects req now hno]
    exact ⟨rfl, rfl, rfl⟩
  | forward remote req request now =>
    rcases hg with hg | ⟨id, hid, -⟩
    · unfold OwnerElectionNode.receiveSessionForward
      dsimp only
      rw [if_pos (by simpa [← Bool.not_eq_true] using hg)]
      exact ⟨rfl, rfl, rfl⟩
    · cases hid

/-- A node that leads after a piece led that term before, or the piece records the term. -/
theorem Piece.leader {h : Host} {i : Input} {k s : Nat} {e : Effect} (hp : Piece h i k s e)
    (hl : e.node.state.role = .leader) :
    (h.node.state.role = .leader ∧ h.node.state.currentTerm = e.node.state.currentTerm) ∨
      .led e.node.state.currentTerm ∈ e.events := by
  have hsame : e.node.state = h.node.state →
      h.node.state.role = .leader ∧ h.node.state.currentTerm = e.node.state.currentTerm :=
    fun heq => ⟨heq ▸ hl, by rw [heq]⟩
  cases hp with
  | startElection now =>
    rcases OwnerElectionNode.askVote_leader hl with heq | hled
    · rw [OwnerElectionNode.startElection, heq] at hl
      cases hl
    · exact .inr (List.mem_cons_of_mem _ hled)
  | sendHeartbeat now => exact .inl (hsame (by rw [OwnerElectionNode.sendHeartbeat_node]))
  | submit entry now =>
    refine .inl (hsame ?_)
    rw [OwnerElectionNode.submit, OwnerElectionNode.commitOrForwardSession_node]
  | vote remote req request now =>
    unfold OwnerElectionNode.serveVote at hl hsame ⊢
    by_cases hg : h.node.Grants remote request
    · rw [OwnerElectionNode.receiveVoteRequest_grants now hg] at hl hsame ⊢
      -- a vote in a higher term makes the node a follower
      rcases hg.2.2.1.lt_or_eq with hlt | heq
      · simp [OwnerElectionNode.granted, OwnerElectionNode.adoptTerm, hlt] at hl
      · simp only [OwnerElectionNode.granted, OwnerElectionNode.adoptTerm_self _ heq] at hl ⊢
        exact .inl ⟨hl, trivial⟩
    · rw [OwnerElectionNode.receiveVoteRequest_denies now hg] at hl hsame ⊢
      exact .inl (hsame rfl)
  | heartbeat remote req request now =>
    unfold OwnerElectionNode.serveHeartbeat at hl hsame ⊢
    by_cases ha : h.node.Accepts remote request.leaderId request.term
    · rw [OwnerElectionNode.receiveHeartbeat_accepts now ha] at hl
      simp only [OwnerElectionNode.follow_state] at hl
      cases hl
    · rw [OwnerElectionNode.receiveHeartbeat_rejects now ha] at hsame ⊢
      exact .inl (hsame rfl)
  | replicate remote req request now =>
    by_cases ha : h.node.Accepts remote request.leaderId request.term
    · rw [OwnerElectionNode.receiveSessionReplication_accepts req now ha] at hl
      simp only [OwnerElectionNode.follow_state] at hl
      cases hl
    · rw [OwnerElectionNode.receiveSessionReplication_rejects req now ha] at hsame ⊢
      exact .inl (hsame rfl)
  | forward remote req request now =>
    exact .inl (hsame (by rw [OwnerElectionNode.receiveSessionForward_node]))
  | answer remote req response c hc ha =>
    cases ho : c.outrankedBy response with
    | some p =>
      obtain ⟨now, ticket, heq⟩ :=
        OwnerElectionNode.answered_outranked h.node req.call ho
      rw [heq, OwnerElectionNode.stepDownAndFail_node] at hl
      cases hl
    | none =>
      cases hel : c.isElection with
      | false => exact .inl (hsame (OwnerElectionNode.answered_state ho hel))
      | true =>
        cases c with
        | election now term highest votes m rest =>
          obtain ⟨highest', votes', heq, -⟩ :=
            OwnerElectionNode.answered_election h.node req.call ho
          rw [heq] at hl hsame ⊢
          exact (OwnerElectionNode.askVote_leader hl).imp_left hsame
        | _ => cases hel
  | fail req c hc ha =>
    cases hel : c.isElection with
    | false => exact .inl (hsame (OwnerElectionNode.failed_state hel))
    | true =>
      cases c with
      | election now term highest votes m rest =>
        exact (OwnerElectionNode.askVote_leader hl).imp_left hsame
      | _ => cases hel
  | resume k s c hc ha => exact .inl (hsame (OwnerElectionNode.resumed_state k c).1)

@[simp] theorem perform_next (h : Host) (k s : Nat) (e : Effect) :
    (h.perform k s e).1.next = max h.next (k + 1) := rfl

/-- The calls of a host after a piece. -/
theorem perform_calls {h : Host} {k s : Nat} {e : Effect} {k' s' : Nat} {cl : Call}
    (hc : (h.perform k s e).1.calls k' = some (cl, s')) :
    (k' = k ∧ s' = s + 1 ∧ cl ∈ e.call) ∨ (k' ≠ k ∧ h.calls k' = some (cl, s')) := by
  have hupd : Function.update h.calls k (e.call.map (·, s + 1)) k' = some (cl, s') := hc
  by_cases hk : k' = k
  · subst hk
    rw [Function.update_self] at hupd
    obtain ⟨cl', hcl, heq⟩ := Option.map_eq_some_iff.mp hupd
    cases heq
    exact .inl ⟨rfl, rfl, hcl⟩
  · rw [Function.update_of_ne hk] at hupd
    exact .inr ⟨hk, hupd⟩

/-- **What a step can do**: nothing, or one piece of a call. -/
theorem step_cases (h : Host) (i : Input) :
    h.step i = (h, {}) ∨ ∃ k s e, Piece h i k s e ∧ h.step i = h.perform k s e := by
  unfold step
  split
  · rename_i k s e hp
    exact .inr ⟨k, s, e, piece_some hp, rfl⟩
  · exact .inl rfl

end Host

end BuckyP2p.Directory
