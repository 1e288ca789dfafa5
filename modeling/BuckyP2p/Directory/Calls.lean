import BuckyP2p.Directory.Election

/-!
# BuckyP2p.Directory.Calls — the async calls of an `OwnerElectionNode`

A `Host` is a node together with its suspended calls.  A call of `election.rs` is cut at every
await and between the lock regions that write the election state and the control plane; `Call`
says where it stands and what it will do next.  `Host.step` runs one such piece:

* new calls: `start_election`, `send_heartbeat`, `commit_or_forward_session` of a local caller;
* the handlers `receive_vote_request`, `receive_heartbeat`, `receive_session_replication` and
  `receive_session_forward` (the last two leave a call behind);
* the answer to, or the failure of, the request a call waits for (`answered`, `failed`), and the
  next region of a call that waits for nothing (`resumed`).

What the environment does is in `Input`, so the host is an open system.  A call that comes to wait
for an owner sends its `Call.request`; the request is named by the call and its number within the
call, which is how the transport pairs answers with requests.  `Event` records what the node did
(votes, terms led, acknowledgements, appends, results).
-/

namespace BuckyP2p.Directory

/-- The `seq`-th request of the call `call` of a host. -/
structure ReqId where
  call : Nat
  seq : Nat
  deriving DecidableEq, Repr

inductive Request
  | vote (r : OwnerVoteRequest)
  | heartbeat (r : OwnerHeartbeatRequest)
  | replicate (r : OwnerSessionReplication)
  | forward (r : OwnerSessionForward)
  deriving DecidableEq, Repr

inductive Response
  | vote (r : OwnerVoteResponse)
  | heartbeat (r : OwnerHeartbeatResponse)
  | replicate (r : OwnerSessionReplicationResponse)
  | forward (r : OwnerSessionForwardResponse)
  deriving DecidableEq, Repr

/-- Who gets the result of `commit_or_forward_session`: a local caller, or the owner whose
`forward_session` this node is serving. -/
inductive Client
  | caller
  | remote (id : P2pId) (req : ReqId)
  deriving DecidableEq, Repr

/-- One `commit_or_forward_session`: its arguments and its client. -/
structure Ticket where
  client : Client
  entry : OwnerSessionEntry
  now : Timestamp
  deriving DecidableEq, Repr

/-- A `replicate_and_commit` after `require_leader`. -/
structure Job extends Ticket where
  term : U64
  leaderId : P2pId
  deriving DecidableEq, Repr

inductive Call
  /-- `start_election`, waiting for the vote of `member`. -/
  | election (now : Timestamp) (term highest : U64) (votes : Nat) (member : P2pId)
      (rest : List P2pId)
  /-- `start_election`, after the state region of `become_leader`. -/
  | elected (now : Timestamp) (term : U64)
  /-- `send_heartbeat`, waiting for `member`. -/
  | heartbeat (now : Timestamp) (request : OwnerHeartbeatRequest) (accepted : Nat)
      (member : P2pId) (rest : List P2pId)
  /-- First round of `replicate_and_commit`, waiting for `member`. -/
  | replicate (job : Job) (accepted : Nat) (member : P2pId) (rest : List P2pId)
  /-- `replicate_and_commit` with its quorum, before `apply_committed_session_entry`. -/
  | commit (job : Job)
  /-- Second round of `replicate_and_commit`, waiting for `member`. -/
  | publish (job : Job) (index : Nat) (member : P2pId) (rest : List P2pId)
  /-- `commit_or_forward_session`, waiting for the leader's answer. -/
  | forward (ticket : Ticket) (leaderId : P2pId)
  /-- After the state region of `step_down`; the call then fails. -/
  | steppedDown (term : U64) (leaderId : P2pId) (ticket : Option Ticket)
  /-- `receive_session_replication`, after its `receive_heartbeat` accepted. -/
  | replicated (remote : P2pId) (req : ReqId) (request : OwnerSessionReplication)
  deriving DecidableEq, Repr

def Job.replication (job : Job) (committed : Bool) : Request :=
  .replicate ⟨job.term, job.leaderId, job.entry, job.now, committed⟩

/-- The request that a call of the owner `self` waits for, and the owner it was sent to. -/
def Call.request (self : P2pId) : Call → Option (P2pId × Request)
  | .election _ term _ _ member _ => some (member, .vote ⟨term, self⟩)
  | .heartbeat _ request _ member _ => some (member, .heartbeat request)
  | .replicate job _ member _ => some (member, job.replication false)
  | .publish job _ member _ => some (member, job.replication true)
  | .forward ticket leaderId => some (leaderId, .forward ⟨ticket.entry, ticket.now⟩)
  | _ => none

/-- The owner whose answer a call waits for. -/
def Call.awaits (c : Call) : Option P2pId := (c.request []).map (·.1)

inductive Event
  | voted (term : U64) (candidate : P2pId)
  | led (term : U64)
  | submitted (entry : OwnerSessionEntry)
  | proposed (call : Nat) (term : U64) (entry : OwnerSessionEntry)
  | acked (call : Nat) (member : P2pId) (term : U64)
  | committed (call : Nat) (entry : OwnerSessionEntry) (index : Nat)
  | applied (leader : P2pId) (req : ReqId) (entry : OwnerSessionEntry)
  | returned (entry : OwnerSessionEntry) (index : Nat)
  deriving DecidableEq, Repr

/-- What one piece of a call does: the node after it, how the call goes on, the answer it gives,
and the events to record. -/
structure Effect where
  node : OwnerElectionNode
  call : Option Call := none
  reply : Option (P2pId × ReqId × Response) := none
  events : List Event := []

namespace OwnerElectionNode

variable (n : OwnerElectionNode)

/-! ### `start_election` -/

/-- The loop of `start_election` from the members still to ask, and its closing test. -/
def askVote (now : Timestamp) (term highest : U64) (votes : Nat) : List P2pId → Effect
  | m :: rest => { node := n, call := some (.election now term highest votes m rest) }
  | [] =>
    if n.quorumSize ≤ votes then
      { node := n.becomeLeader term now, call := some (.elected now term), events := [.led term] }
    else { node := n.stepDown highest none now }

def startElection (now : Timestamp) : Effect :=
  let e := (n.openElection now).askVote now n.nextTerm n.nextTerm 1 n.remoteMembers
  { e with events := .voted n.nextTerm n.localOwnerId :: e.events }

/-! ### `commit_or_forward_session`: results -/

def forwardResponse (accepted : Bool) (index : Nat) : OwnerSessionForwardResponse :=
  ⟨n.state.currentTerm, accepted, index, n.state.leaderId⟩

/-- The call returns `Ok(index)`. -/
def returnOk (ticket : Ticket) (index : Nat) : Effect :=
  match ticket.client with
  | .caller => { node := n, events := [.returned ticket.entry index] }
  | .remote id req =>
    { node := n, reply := some (id, req, .forward (n.forwardResponse true index)),
      events := [.returned ticket.entry index] }

/-- The call returns an error. -/
def returnErr (ticket : Option Ticket) : Effect :=
  match ticket.map Ticket.client with
  | some (.remote id req) =>
    { node := n,
      reply := some (id, req, .forward (n.forwardResponse false n.controlPlane.committedIndex)) }
  | _ => { node := n }

/-- `step_down`, after which the call fails; the control-plane region follows when the answer named
a leader. -/
def stepDownAndFail (term : U64) (leaderId : Option P2pId) (now : Timestamp)
    (ticket : Option Ticket) : Effect :=
  match leaderId with
  | some l => { node := n.stepDown term leaderId now, call := some (.steppedDown term l ticket) }
  | none => (n.stepDown term leaderId now).returnErr ticket

/-! ### `send_heartbeat` -/

def askHeartbeat (now : Timestamp) (request : OwnerHeartbeatRequest) (accepted : Nat) :
    List P2pId → Effect
  | m :: rest => { node := n, call := some (.heartbeat now request accepted m rest) }
  | [] => { node := n }

def sendHeartbeat (now : Timestamp) : Effect :=
  match n.requireLeader with
  | .ok (term, leaderId) =>
    n.askHeartbeat now ⟨term, leaderId, n.controlPlane.committedIndex⟩ 1 n.remoteMembers
  | .error _ => { node := n }

/-! ### `replicate_and_commit` -/

/-- First round, and the quorum test after it. -/
def askReplicate (job : Job) (accepted : Nat) : List P2pId → Effect
  | m :: rest => { node := n, call := some (.replicate job accepted m rest) }
  | [] =>
    if accepted < n.quorumSize then n.returnErr (some job.toTicket)
    else { node := n, call := some (.commit job) }

/-- Second round; its answers are not looked at. -/
def askPublish (job : Job) (index : Nat) : List P2pId → Effect
  | m :: rest => { node := n, call := some (.publish job index m rest) }
  | [] => n.returnOk job.toTicket index

def replicateAndCommit (call : Nat) (ticket : Ticket) : Effect :=
  match n.requireLeader with
  | .ok (term, leaderId) =>
    let e := n.askReplicate ⟨ticket, term, leaderId⟩ 1 n.remoteMembers
    { e with events := .proposed call term ticket.entry :: e.events }
  | .error _ => n.returnErr (some ticket)

/-- The leader's own `apply_committed_session_entry`, then the second round. -/
def commitJob (call : Nat) (job : Job) : Effect :=
  match n.controlPlane.applyCommittedSessionEntry n.membership job.leaderId job.term job.entry
      job.now with
  | .ok (cp, index) =>
    let n' := { n with controlPlane := cp }
    let e := n'.askPublish job index n'.remoteMembers
    { e with events := .committed call job.entry index :: e.events }
  | .error _ => n.returnErr (some job.toTicket)

def commitOrForwardSession (call : Nat) (ticket : Ticket) : Effect :=
  if n.state.role = .leader then n.replicateAndCommit call ticket
  else match n.state.leaderId with
    | none => n.returnErr (some ticket)
    | some l => { node := n, call := some (.forward ticket l) }

/-- `commit_or_forward_session` of a local caller (`renew_serving_session`,
`revoke_serving_session`). -/
def submit (call : Nat) (entry : OwnerSessionEntry) (now : Timestamp) : Effect :=
  let e := n.commitOrForwardSession call ⟨.caller, entry, now⟩
  { e with events := .submitted entry :: e.events }

/-! ### Handlers -/

def serveVote (remote : P2pId) (req : ReqId) (request : OwnerVoteRequest) (now : Timestamp) :
    Effect :=
  let r := n.receiveVoteRequest remote request now
  { node := r.1
    reply := some (remote, req, .vote r.2)
    events := if r.2.voteGranted then [.voted request.term request.candidateId] else [] }

def serveHeartbeat (remote : P2pId) (req : ReqId) (request : OwnerHeartbeatRequest)
    (now : Timestamp) : Effect :=
  let r := n.receiveHeartbeat remote request now
  { node := r.1, reply := some (remote, req, .heartbeat r.2) }

def receiveSessionForward (call : Nat) (remote : P2pId) (req : ReqId)
    (request : OwnerSessionForward) : Effect :=
  let ticket := ⟨.remote remote req, request.entry, request.now⟩
  if !n.membership.isMember remote then n.returnErr (some ticket)
  else n.commitOrForwardSession call ticket

def replicationResponse (accepted : Bool) (index : Nat) : OwnerSessionReplicationResponse :=
  ⟨n.state.currentTerm, accepted, index, n.state.leaderId⟩

/-- First region of `receive_session_replication`. -/
def receiveSessionReplication (remote : P2pId) (req : ReqId) (request : OwnerSessionReplication)
    (now : Timestamp) : Effect :=
  if !n.membership.isMember remote || remote ≠ request.leaderId then
    { node := n
      reply := some (remote, req,
        .replicate (n.replicationResponse false n.controlPlane.committedIndex)) }
  else
    let r := n.receiveHeartbeat remote
      ⟨request.term, request.leaderId, n.controlPlane.committedIndex⟩ now
    if r.2.accepted then { node := r.1, call := some (.replicated remote req request) }
    else
      { node := r.1
        reply := some (remote, req,
          .replicate ⟨r.2.term, false, r.1.controlPlane.committedIndex, r.2.leaderId⟩) }

/-- The rest of `receive_session_replication`: an uncommitted entry is only acknowledged. -/
def answerReplication (remote : P2pId) (req : ReqId) (request : OwnerSessionReplication) :
    Effect :=
  if !request.committed then
    { node := n
      reply := some (remote, req,
        .replicate (n.replicationResponse true n.controlPlane.committedIndex)) }
  else
    match n.controlPlane.applyCommittedSessionEntry n.membership request.leaderId request.term
        request.entry request.now with
    | .ok (cp, index) =>
      { node := { n with controlPlane := cp }
        reply := some (remote, req, .replicate (n.replicationResponse true index))
        events := [.applied remote req request.entry] }
    | .error _ =>
      { node := n
        reply := some (remote, req,
          .replicate (n.replicationResponse false n.controlPlane.committedIndex)) }

/-! ### Going on with a call -/

/-- The request that `c` waits for fails. -/
def failed (c : Call) : Effect :=
  match c with
  | .election now term highest votes _ rest => n.askVote now term highest votes rest
  | .heartbeat now request accepted _ rest => n.askHeartbeat now request accepted rest
  | .replicate job accepted _ rest => n.askReplicate job accepted rest
  | .publish job index _ rest => n.askPublish job index rest
  | .forward ticket _ => n.returnErr (some ticket)
  | c => { node := n, call := some c }

/-- The answer `r` arrives for the request that `c` waits for.  An answer of another kind does not
decode, so the request fails. -/
def answered (call : Nat) (c : Call) (r : Response) : Effect :=
  match c, r with
  | .election now term highest votes _ rest, .vote r =>
    if term < r.term then n.stepDownAndFail r.term r.leaderId now none
    else n.askVote now term (max highest r.term) (if r.voteGranted then votes + 1 else votes) rest
  | .heartbeat now request accepted _ rest, .heartbeat r =>
    if request.term < r.term then n.stepDownAndFail r.term r.leaderId now none
    else n.askHeartbeat now request (if r.accepted then accepted + 1 else accepted) rest
  | .replicate job accepted member rest, .replicate r =>
    if job.term < r.term then n.stepDownAndFail r.term r.leaderId job.now (some job.toTicket)
    else if r.accepted then
      let e := n.askReplicate job (accepted + 1) rest
      { e with events := .acked call member r.term :: e.events }
    else n.askReplicate job accepted rest
  | .publish job index _ rest, .replicate _ => n.askPublish job index rest
  | .forward ticket _, .forward r =>
    if r.accepted then n.returnOk ticket r.committedIndex else n.returnErr (some ticket)
  | c, _ => n.failed c

/-- The next region of a call that waits for nothing. -/
def resumed (call : Nat) (c : Call) : Effect :=
  match c with
  | .elected now term =>
    match n.controlPlane.setKnownLeader n.membership n.localOwnerId term with
    | .ok cp => { n with controlPlane := cp }.sendHeartbeat now
    | .error _ => { node := n }
  | .commit job => n.commitJob call job
  | .steppedDown term leaderId ticket => (n.noteLeader leaderId term).returnErr ticket
  | .replicated remote req request => n.answerReplication remote req request
  | c => { node := n, call := some c }

end OwnerElectionNode

/-! ## Hosts -/

structure Host where
  node : OwnerElectionNode
  /-- The suspended calls, each with the number of its latest request. -/
  calls : Nat → Option (Call × Nat)
  next : Nat

inductive Input
  | startElection (now : Timestamp)
  | sendHeartbeat (now : Timestamp)
  | submit (entry : OwnerSessionEntry) (now : Timestamp)
  | recv (remote : P2pId) (req : ReqId) (request : Request) (now : Timestamp)
  | answer (remote : P2pId) (req : ReqId) (response : Response)
  | fail (req : ReqId)
  | resume (call : Nat)
  deriving DecidableEq, Repr

inductive Output
  | request (dst : P2pId) (req : ReqId) (body : Request)
  | response (dst : P2pId) (req : ReqId) (body : Response)
  deriving DecidableEq, Repr

/-- What a step of a host gives out. -/
structure Emission where
  outputs : List Output := []
  events : List Event := []

namespace Host

def init (n : OwnerElectionNode) : Host := ⟨n, fun _ => none, 0⟩

/-- Carry out an effect of the call `k` whose latest request has number `s`. -/
def perform (h : Host) (k s : Nat) (e : Effect) : Host × Emission :=
  let request := e.call.bind (Call.request h.node.localOwnerId)
  ({ node := e.node
     calls := Function.update h.calls k (e.call.map (·, s + 1))
     next := max h.next (k + 1) },
   { outputs :=
      (request.map fun p => Output.request p.1 ⟨k, s + 1⟩ p.2).toList ++
        (e.reply.map fun p => Output.response p.1 p.2.1 p.2.2).toList
     events := e.events })

/-- The piece of a call that an input runs: the call, the number of its latest request, and the
effect.  A new call has the number `next`; an answer or a failure counts only for the latest
request of a call that still waits. -/
def piece (h : Host) : Input → Option (Nat × Nat × Effect)
  | .startElection now => some (h.next, 0, h.node.startElection now)
  | .sendHeartbeat now => some (h.next, 0, h.node.sendHeartbeat now)
  | .submit entry now => some (h.next, 0, h.node.submit h.next entry now)
  | .recv remote req (.vote request) now =>
    some (h.next, 0, h.node.serveVote remote req request now)
  | .recv remote req (.heartbeat request) now =>
    some (h.next, 0, h.node.serveHeartbeat remote req request now)
  | .recv remote req (.replicate request) now =>
    some (h.next, 0, h.node.receiveSessionReplication remote req request now)
  | .recv remote req (.forward request) _ =>
    some (h.next, 0, h.node.receiveSessionForward h.next remote req request)
  | .answer remote req response =>
    match h.calls req.call with
    | some (c, s) =>
      if s = req.seq ∧ c.awaits = some remote then
        some (req.call, s, h.node.answered req.call c response)
      else none
    | none => none
  | .fail req =>
    match h.calls req.call with
    | some (c, s) =>
      if s = req.seq ∧ c.awaits.isSome then some (req.call, s, h.node.failed c) else none
    | none => none
  | .resume call =>
    match h.calls call with
    | some (c, s) => if c.awaits = none then some (call, s, h.node.resumed call c) else none
    | none => none

def step (h : Host) (i : Input) : Host × Emission :=
  match h.piece i with
  | some (k, s, e) => h.perform k s e
  | none => (h, {})

/-- The host after an input. -/
def after (h : Host) (i : Input) : Host := (h.step i).1

end Host

end BuckyP2p.Directory
