import BuckyP2p.Directory.Terms

/-!
# BuckyP2p.Directory.KnownLeader — the leader that the control plane of a node names

The leader is stored twice.  `receive_heartbeat` writes both under the lock of the election state;
`become_leader` and `step_down` write the control plane in a region of its own, and
`replicate_and_commit` and `receive_session_replication` write it once more with the term and the
leader that they hold since before.

* `writes`: what an input writes to the control plane.
* `InOrder`: a call that writes has not been overtaken.  Along runs of such inputs the control
  plane follows the election state (`control_plane_follows`).
-/

namespace BuckyP2p.Directory

open Lib

/-- The call has written the election state and not the control plane. -/
def Call.between : Call → Bool
  | .elected .. | .steppedDown .. => true
  | _ => false

/-- The leader and the term that the call of the owner `self` writes next. -/
def Call.writes (self : P2pId) : Call → Option (P2pId × U64)
  | .elected _ term => some (self, term)
  | .commit job => some (job.leaderId, job.term)
  | .steppedDown term leaderId _ => some (leaderId, term)
  | .replicated _ _ request =>
    if request.committed then some (request.leaderId, request.term) else none
  | _ => none

/-- The term of an election that is won with this answer, or without one. -/
def Call.wins (quorum : Nat) : Call → Option Response → Option U64
  | .election _ term _ votes _ [], some (.vote r) =>
    if r.term ≤ term ∧ quorum ≤ (if r.voteGranted then votes + 1 else votes) then some term
    else none
  | .election _ term _ votes _ [], _ => if quorum ≤ votes then some term else none
  | _, _ => none

/-- A call goes on by itself. -/
def Input.resumes : Input → Bool
  | .resume _ => true
  | _ => false

namespace Host

def writes (h : Host) : Input → Option (P2pId × U64)
  | .recv remote _ (.heartbeat r) _ =>
    if h.node.Accepts remote r.leaderId r.term then some (r.leaderId, r.term) else none
  | .recv remote _ (.replicate r) _ =>
    if h.node.Accepts remote r.leaderId r.term then some (r.leaderId, r.term) else none
  | .resume k => (h.calls k).bind fun p => p.1.writes h.node.localOwnerId
  | _ => none

def wins (h : Host) : Input → Option U64
  | .answer _ req response =>
    (h.calls req.call).bind fun p => p.1.wins h.node.quorumSize (some response)
  | .fail req => (h.calls req.call).bind fun p => p.1.wins h.node.quorumSize none
  | _ => none

/-- No election is won in a term that the node has left, and a call that goes on to write the
control plane finds the node in its term and under its leader. -/
structure InOrder (h : Host) (i : Input) : Prop where
  wins : ∀ t ∈ h.wins i, h.node.state.currentTerm ≤ t
  positive : ∀ w ∈ h.writes i, 0 < w.2
  current : i.resumes = true → ∀ w ∈ h.writes i,
    w.1 ∈ h.node.membership.members ∧ h.node.state.leaderId = some w.1 ∧
      h.node.state.currentTerm = w.2

instance (h : Host) (i : Input) : Decidable (h.InOrder i) :=
  -- not by trying all terms
  have : Decidable (∀ t ∈ h.wins i, h.node.state.currentTerm ≤ t) := Option.decidableForallMem _
  decidable_of_iff ((∀ t ∈ h.wins i, h.node.state.currentTerm ≤ t) ∧ (∀ w ∈ h.writes i, 0 < w.2) ∧
    (i.resumes = true → ∀ w ∈ h.writes i, w.1 ∈ h.node.membership.members ∧
      h.node.state.leaderId = some w.1 ∧ h.node.state.currentTerm = w.2))
    ⟨fun hall => ⟨hall.1, hall.2.1, hall.2.2⟩, fun hi => ⟨hi.wins, hi.positive, hi.current⟩⟩

/-- No call is between its two regions. -/
def Settled (h : Host) : Prop := ∀ k c s, h.calls k = some (c, s) → c.between = false

/-- The control plane names the leader of the election state. -/
def Follows (h : Host) : Prop :=
  h.Settled → ∀ x, h.node.state.leaderId = some x → h.node.controlPlane.leaderId = some x

/-- The step leaves the leader of the control plane, or writes one of no smaller term. -/
def NotOlder (h : Host) (i : Input) : Prop :=
  (h.writes i = none ∧
    (h.after i).node.controlPlane.leaderId = h.node.controlPlane.leaderId ∧
    (h.after i).node.controlPlane.currentTerm = h.node.controlPlane.currentTerm) ∨
  ∃ l t, h.writes i = some (l, t) ∧ h.node.controlPlane.currentTerm ≤ t ∧
    (h.after i).node.controlPlane.leaderId = some l ∧
    (h.after i).node.controlPlane.currentTerm = t

end Host

/-! ## One piece -/

/-- What a piece may do to the two leaders, by what it writes. -/
inductive Changes (n : OwnerElectionNode) : Option (P2pId × U64) → Effect → Prop
  /-- No new leader. -/
  | quiet {e : Effect} (hleader : ∀ x, e.node.state.leaderId = some x → n.state.leaderId = some x)
      (hterm : n.state.currentTerm ≤ e.node.state.currentTerm)
      (hplane : e.node.controlPlane = n.controlPlane)
      (hcall : ∀ c ∈ e.call, c.between = false) : Changes n none e
  /-- The first region of `become_leader` or `step_down`. -/
  | entered {e : Effect} {c : Call} (hterm : n.state.currentTerm ≤ e.node.state.currentTerm)
      (hplane : e.node.controlPlane = n.controlPlane) (hcall : e.call = some c)
      (hbetween : c.between = true) : Changes n none e
  /-- The leader of the election state is written. -/
  | told {e : Effect} {l : P2pId} {t : U64} (hleader : e.node.state.leaderId = some l)
      (hterm : e.node.state.currentTerm = t) (hle : n.state.currentTerm ≤ t)
      (hknown : e.node.controlPlane.leaderId = some l)
      (hplane : e.node.controlPlane.currentTerm = max n.controlPlane.currentTerm t)
      (hcall : ∀ c ∈ e.call, c.between = false) : Changes n (some (l, t)) e

namespace OwnerElectionNode

variable {n : OwnerElectionNode}

theorem noteLeader_told {l : P2pId} (hl : l ∈ n.membership.members) (t : U64) :
    (n.noteLeader l t).controlPlane.leaderId = some l ∧
      (n.noteLeader l t).controlPlane.currentTerm = max n.controlPlane.currentTerm t := by
  unfold noteLeader OwnerControlPlane.setKnownLeader
  rw [if_pos ((n.membership.isMember_iff l).mpr hl)]
  exact ⟨rfl, rfl⟩

theorem follow_told {l : P2pId} (hl : l ∈ n.membership.members) (t : U64) (now : Timestamp) :
    (n.follow l t now).controlPlane.leaderId = some l ∧
      (n.follow l t now).controlPlane.currentTerm = max n.controlPlane.currentTerm t :=
  noteLeader_told (n := { n with state := ⟨.follower, t, none, some l, now⟩ }) hl t

/-- A piece that leaves the node alone. -/
theorem changes_same {e : Effect} (hnode : e.node = n) (hcall : ∀ c ∈ e.call, c.between = false) :
    Changes n none e := by
  refine .quiet ?_ ?_ ?_ hcall
  · rw [hnode]
    exact fun _ hx => hx
  · rw [hnode]
  · rw [hnode]

theorem returnOk_call (ticket : Ticket) (index : Nat) : (n.returnOk ticket index).call = none := by
  unfold returnOk
  split <;> rfl

theorem returnErr_call (ticket : Option Ticket) : (n.returnErr ticket).call = none := by
  unfold returnErr
  split <;> rfl

theorem askHeartbeat_between (now : Timestamp) (request : OwnerHeartbeatRequest) (accepted : Nat)
    (l : List P2pId) : ∀ c ∈ (n.askHeartbeat now request accepted l).call, c.between = false := by
  cases l with
  | nil => rintro c ⟨⟩
  | cons m rest => rintro c ⟨⟩; rfl

theorem sendHeartbeat_between (now : Timestamp) :
    ∀ c ∈ (n.sendHeartbeat now).call, c.between = false := by
  unfold sendHeartbeat
  split
  · exact askHeartbeat_between _ _ _ _
  · rintro c ⟨⟩

theorem askReplicate_between (job : Job) (accepted : Nat) (l : List P2pId) :
    ∀ c ∈ (n.askReplicate job accepted l).call, c.between = false := by
  cases l with
  | nil =>
    unfold askReplicate
    dsimp only
    split_ifs
    · rw [returnErr_call]
      rintro c ⟨⟩
    · rintro c ⟨⟩
      rfl
  | cons m rest => rintro c ⟨⟩; rfl

theorem askPublish_between (job : Job) (index : Nat) (l : List P2pId) :
    ∀ c ∈ (n.askPublish job index l).call, c.between = false := by
  cases l with
  | nil =>
    rw [askPublish, returnOk_call]
    rintro c ⟨⟩
  | cons m rest => rintro c ⟨⟩; rfl

theorem commitOrForwardSession_between (call : Nat) (ticket : Ticket) :
    ∀ c ∈ (n.commitOrForwardSession call ticket).call, c.between = false := by
  unfold commitOrForwardSession replicateAndCommit
  split
  · split
    · exact askReplicate_between _ _ _
    · rw [returnErr_call]
      rintro c ⟨⟩
  · split
    · rw [returnErr_call]
      rintro c ⟨⟩
    · rintro c ⟨⟩
      rfl

theorem changes_askHeartbeat (now : Timestamp) (request : OwnerHeartbeatRequest) (accepted : Nat)
    (l : List P2pId) : Changes n none (n.askHeartbeat now request accepted l) :=
  changes_same (askHeartbeat_node ..) (askHeartbeat_between now request accepted l)

theorem changes_askReplicate (job : Job) (accepted : Nat) (l : List P2pId) :
    Changes n none (n.askReplicate job accepted l) :=
  changes_same (askReplicate_node ..) (askReplicate_between job accepted l)

theorem changes_askPublish (job : Job) (index : Nat) (l : List P2pId) :
    Changes n none (n.askPublish job index l) :=
  changes_same (askPublish_node ..) (askPublish_between job index l)

theorem changes_returnOk (ticket : Ticket) (index : Nat) :
    Changes n none (n.returnOk ticket index) :=
  changes_same (returnOk_node ..) (by rw [returnOk_call]; rintro c ⟨⟩)

theorem changes_returnErr (ticket : Option Ticket) : Changes n none (n.returnErr ticket) :=
  changes_same (returnErr_node _) (by rw [returnErr_call]; rintro c ⟨⟩)

/-- With a leader in the answer the control plane is still to be written. -/
theorem changes_stepDownAndFail (t : U64) (l : Option P2pId) (now : Timestamp)
    (ticket : Option Ticket) : Changes n none (n.stepDownAndFail t l now ticket) := by
  have hterm : n.state.currentTerm ≤ (n.stepDownAndFail t l now ticket).node.state.currentTerm := by
    rw [stepDownAndFail_node]
    exact le_max_left _ _
  have hplane : (n.stepDownAndFail t l now ticket).node.controlPlane = n.controlPlane := by
    rw [stepDownAndFail_node]
    rfl
  cases l with
  | some l => exact .entered hterm hplane rfl rfl
  | none =>
    refine .quiet ?_ hterm hplane ?_
    · rw [stepDownAndFail_node]
      rintro x ⟨⟩
    · intro c hc
      have hnone : (n.stepDownAndFail t none now ticket).call = none := returnErr_call _
      rw [hnone] at hc
      cases hc

/-- The loop of `start_election`: an election that is won is not below the node's term. -/
theorem changes_askVote {now : Timestamp} {term highest : U64} {votes : Nat} (l : List P2pId)
    (hwins : l = [] → n.quorumSize ≤ votes → n.state.currentTerm ≤ term) :
    Changes n none (n.askVote now term highest votes l) := by
  cases l with
  | cons m rest => exact changes_same rfl (by rintro c ⟨⟩; rfl)
  | nil =>
    unfold askVote
    dsimp only
    split_ifs with hquorum
    · exact .entered (hwins rfl hquorum) rfl rfl rfl
    · refine .quiet ?_ (le_max_left _ _) rfl (by rintro c ⟨⟩)
      rintro x ⟨⟩

/-- A region that writes the leader of the election state. -/
theorem changes_told {e : Effect} {l : P2pId} {t : U64} (hstate : e.node.state = n.state)
    (hleader : n.state.leaderId = some l) (hterm : n.state.currentTerm = t)
    (hknown : e.node.controlPlane.leaderId = some l)
    (hplane : e.node.controlPlane.currentTerm = max n.controlPlane.currentTerm t)
    (hcall : ∀ c ∈ e.call, c.between = false) : Changes n (some (l, t)) e := by
  refine .told ?_ ?_ hterm.le hknown hplane hcall
  · rw [hstate, hleader]
  · rw [hstate, hterm]

/-- `receive_heartbeat`, by itself or in `receive_session_replication`. -/
theorem changes_follow {e : Effect} {l : P2pId} {t : U64} {now : Timestamp}
    (hnode : e.node = n.follow l t now) (hl : l ∈ n.membership.members)
    (hle : n.state.currentTerm ≤ t) (hcall : ∀ c ∈ e.call, c.between = false) :
    Changes n (some (l, t)) e := by
  obtain ⟨hknown, hplane⟩ := follow_told hl t now
  refine .told ?_ ?_ hle ?_ ?_ hcall
  · rw [hnode, follow_state]
  · rw [hnode, follow_state]
  · rw [hnode, hknown]
  · rw [hnode, hplane]

theorem applyCommitted_told {l : P2pId} (hl : l ∈ n.membership.members) (t : U64)
    (entry : OwnerSessionEntry) (now : Timestamp) : ∃ cp index,
    n.controlPlane.applyCommittedSessionEntry n.membership l t entry now = .ok (cp, index) ∧
      cp.leaderId = some l ∧ cp.currentTerm = max n.controlPlane.currentTerm t := by
  unfold OwnerControlPlane.applyCommittedSessionEntry
  rw [if_pos ((n.membership.isMember_iff l).mpr hl)]
  exact ⟨_, _, rfl, rfl, rfl⟩

/-- The next region of a call that is not overtaken. -/
theorem changes_resumed (call : Nat) {c : Call} {l : P2pId} {t : U64}
    (hwrites : c.writes n.localOwnerId = some (l, t)) (hl : l ∈ n.membership.members)
    (hleader : n.state.leaderId = some l) (hterm : n.state.currentTerm = t) :
    Changes n (some (l, t)) (n.resumed call c) := by
  have hstate : (n.resumed call c).node.state = n.state := (resumed_state call c).1
  cases c with
  | elected now term =>
    cases hwrites
    have hset : n.controlPlane.setKnownLeader n.membership n.localOwnerId t =
        .ok { n.controlPlane with
          currentTerm := max n.controlPlane.currentTerm t, leaderId := some n.localOwnerId } :=
      if_pos ((n.membership.isMember_iff _).mpr hl)
    have hresumed : n.resumed call (.elected now t) =
        OwnerElectionNode.sendHeartbeat { n with controlPlane := { n.controlPlane with
          currentTerm := max n.controlPlane.currentTerm t
          leaderId := some n.localOwnerId } } now := by
      unfold resumed
      dsimp only
      rw [hset]
    rw [hresumed] at hstate ⊢
    refine changes_told hstate hleader hterm ?_ ?_ (sendHeartbeat_between now)
    · rw [sendHeartbeat_node]
    · rw [sendHeartbeat_node]
  | commit job =>
    cases hwrites
    obtain ⟨cp, index, happly, hknown, hplane⟩ := applyCommitted_told hl job.term job.entry job.now
    have hresumed : n.resumed call (.commit job) =
        { OwnerElectionNode.askPublish { n with controlPlane := cp } job index n.remoteMembers with
          events := .committed call job.entry index ::
            (OwnerElectionNode.askPublish { n with controlPlane := cp } job index
              n.remoteMembers).events } := by
      show n.commitJob call job = _
      unfold commitJob
      rw [happly]
      rfl
    rw [hresumed] at hstate ⊢
    refine changes_told hstate hleader hterm ?_ ?_ (askPublish_between job index _)
    · dsimp only
      rw [askPublish_node]
      exact hknown
    · dsimp only
      rw [askPublish_node]
      exact hplane
  | steppedDown term leaderId ticket =>
    cases hwrites
    obtain ⟨hknown, hplane⟩ := noteLeader_told hl t
    have hresumed : n.resumed call (.steppedDown t l ticket) =
        (n.noteLeader l t).returnErr ticket := rfl
    rw [hresumed] at hstate ⊢
    refine changes_told hstate hleader hterm ?_ ?_ (by rw [returnErr_call]; rintro c ⟨⟩)
    · rw [returnErr_node, hknown]
    · rw [returnErr_node, hplane]
  | replicated remote req request =>
    obtain ⟨hcommitted, heq⟩ := Option.ite_none_right_eq_some.mp hwrites
    cases heq
    obtain ⟨cp, index, happly, hknown, hplane⟩ :=
      applyCommitted_told hl request.term request.entry request.now
    have hresumed : n.resumed call (.replicated remote req request) =
        { node := { n with controlPlane := cp }
          reply := some (remote, req, .replicate (n.replicationResponse true index))
          events := [.applied remote req request.entry] } := by
      show n.answerReplication remote req request = _
      unfold answerReplication
      rw [if_neg (by simp [hcommitted]), happly]
    rw [hresumed] at hstate ⊢
    exact changes_told hstate hleader hterm hknown hplane (by rintro c ⟨⟩)
  | election | heartbeat | replicate | publish | forward => cases hwrites

/-- The next region of a call that writes nothing: an entry that is not committed. -/
theorem changes_resumed_none (call : Nat) {c : Call} (hc : c.awaits = none)
    (hwrites : c.writes n.localOwnerId = none) : Changes n none (n.resumed call c) := by
  cases c with
  | replicated remote req request =>
    have hcommitted : request.committed = false := by
      by_contra hne
      rw [Call.writes, if_pos (by simpa using hne)] at hwrites
      cases hwrites
    have hresumed : n.resumed call (.replicated remote req request) =
        { node := n
          reply := some (remote, req,
            .replicate (n.replicationResponse true n.controlPlane.committedIndex)) } := by
      show n.answerReplication remote req request = _
      unfold answerReplication
      rw [if_pos (by simp [hcommitted])]
    rw [hresumed]
    exact changes_same rfl (by rintro c ⟨⟩)
  | elected | commit | steppedDown => cases hwrites
  | election | heartbeat | replicate | publish | forward => cases hc

/-- The request fails that the call waits for. -/
theorem changes_failed {c : Call}
    (hwins : ∀ t ∈ c.wins n.quorumSize none, n.state.currentTerm ≤ t) (hc : c.between = false) :
    Changes n none (n.failed c) := by
  cases c with
  | election now term highest votes m rest =>
    refine changes_askVote rest ?_
    rintro rfl hquorum
    exact hwins term (if_pos hquorum)
  | heartbeat now request accepted m rest => exact changes_askHeartbeat ..
  | replicate job accepted m rest => exact changes_askReplicate ..
  | publish job index m rest => exact changes_askPublish ..
  | forward ticket leaderId => exact changes_returnErr _
  | commit | replicated => exact changes_same rfl (by rintro c ⟨⟩; rfl)
  | elected | steppedDown => cases hc

theorem changes_answered (call : Nat) {c : Call} {r : Response}
    (hwins : ∀ t ∈ c.wins n.quorumSize (some r), n.state.currentTerm ≤ t)
    (hc : c.between = false) : Changes n none (n.answered call c r) := by
  cases ho : c.outrankedBy r with
  | some p =>
    obtain ⟨now, ticket, heq⟩ := answered_outranked n call (t := p.1) (l := p.2) ho
    rw [heq]
    exact changes_stepDownAndFail ..
  | none =>
    cases c with
    | election now term highest votes m rest =>
      cases r with
      | vote r =>
        have hlt : ¬ term < r.term := (ite_eq_right_iff.mp ho).mt (by simp)
        have hanswered : n.answered call (.election now term highest votes m rest) (.vote r) =
            n.askVote now term (max highest r.term) (if r.voteGranted then votes + 1 else votes)
              rest := if_neg hlt
        rw [hanswered]
        refine changes_askVote rest ?_
        rintro rfl hquorum
        exact hwins term (if_pos ⟨not_lt.mp hlt, hquorum⟩)
      | heartbeat | replicate | forward =>
        refine changes_failed (c := .election now term highest votes m rest) ?_ rfl
        intro t ht
        refine hwins t ?_
        cases rest with
        | nil => exact ht
        | cons => exact ht
    | heartbeat now request accepted m rest =>
      cases r with
      | heartbeat r =>
        have hlt : ¬ request.term < r.term := (ite_eq_right_iff.mp ho).mt (by simp)
        rw [answered, if_neg hlt]
        exact changes_askHeartbeat ..
      | vote | replicate | forward => exact changes_askHeartbeat ..
    | replicate job accepted m rest =>
      cases r with
      | replicate r =>
        have hlt : ¬ job.term < r.term := (ite_eq_right_iff.mp ho).mt (by simp)
        rw [answered, if_neg hlt]
        split_ifs
        · exact changes_same (askReplicate_node ..) (askReplicate_between job _ rest)
        · exact changes_askReplicate ..
      | vote | heartbeat | forward => exact changes_askReplicate ..
    | publish job index m rest =>
      cases r with
      | vote | heartbeat | replicate | forward => exact changes_askPublish ..
    | forward ticket leaderId =>
      cases r with
      | forward r =>
        rw [answered]
        split_ifs
        · exact changes_returnOk ..
        · exact changes_returnErr _
      | vote | heartbeat | replicate => exact changes_returnErr _
    | commit | replicated => exact changes_same rfl (by rintro c ⟨⟩; rfl)
    | elected | steppedDown => cases hc

end OwnerElectionNode

/-! ## One step -/

theorem Call.between_eq_false {c : Call} (ha : c.awaits.isSome = true) : c.between = false := by
  cases c with
  | elected | steppedDown => cases ha
  | election | heartbeat | replicate | commit | publish | forward | replicated => rfl

namespace Host

open OwnerElectionNode

variable {h : Host} {i : Input}

theorem Piece.changes {k s : Nat} {e : Effect} (hp : Piece h i k s e) (hi : h.InOrder i) :
    Changes h.node (h.writes i) e := by
  cases hp with
  | startElection now =>
    have hasked : Changes (h.node.openElection now) none ((h.node.openElection now).askVote now
        h.node.nextTerm h.node.nextTerm 1 h.node.remoteMembers) :=
      changes_askVote h.node.remoteMembers fun _ _ => le_rfl
    have hle : h.node.state.currentTerm ≤ (h.node.openElection now).state.currentTerm :=
      le_nextTerm h.node
    cases hasked with
    | quiet hleader hterm hplane hcall =>
      refine .quiet (fun x hx => ?_) (hle.trans hterm) hplane hcall
      cases hleader x hx
    | entered hterm hplane hcall hbetween => exact .entered (hle.trans hterm) hplane hcall hbetween
  | sendHeartbeat now => exact changes_same (sendHeartbeat_node now) (sendHeartbeat_between now)
  | submit entry now =>
    exact changes_same (commitOrForwardSession_node ..)
      (commitOrForwardSession_between h.next ⟨.caller, entry, now⟩)
  | vote remote req request now =>
    unfold serveVote
    by_cases hg : h.node.Grants remote request
    · rw [receiveVoteRequest_grants now hg]
      refine .quiet ?_ ?_ rfl (by rintro c ⟨⟩)
      · intro x hx
        have hadopted : (adoptTerm h.node.state request.term).leaderId = some x := hx
        unfold adoptTerm at hadopted
        split_ifs at hadopted
        exact hadopted
      · exact hg.2.2.1.trans (adoptTerm_currentTerm hg.2.2.1).ge
    · rw [receiveVoteRequest_denies now hg]
      exact changes_same rfl (by rintro c ⟨⟩)
  | heartbeat remote req request now =>
    unfold serveHeartbeat
    by_cases ha : h.node.Accepts remote request.leaderId request.term
    · have hw : h.writes (.recv remote req (.heartbeat request) now) =
          some (request.leaderId, request.term) := if_pos ha
      rw [receiveHeartbeat_accepts now ha, hw]
      exact changes_follow rfl (ha.2.1 ▸ ha.1) ha.2.2 (by rintro c ⟨⟩)
    · have hw : h.writes (.recv remote req (.heartbeat request) now) = none := if_neg ha
      rw [receiveHeartbeat_rejects now ha, hw]
      exact changes_same rfl (by rintro c ⟨⟩)
  | replicate remote req request now =>
    by_cases ha : h.node.Accepts remote request.leaderId request.term
    · have hw : h.writes (.recv remote req (.replicate request) now) =
          some (request.leaderId, request.term) := if_pos ha
      rw [receiveSessionReplication_accepts req now ha, hw]
      exact changes_follow rfl (ha.2.1 ▸ ha.1) ha.2.2 (by rintro c ⟨⟩; rfl)
    · have hw : h.writes (.recv remote req (.replicate request) now) = none := if_neg ha
      rw [receiveSessionReplication_rejects req now ha, hw]
      exact changes_same rfl (by rintro c ⟨⟩)
  | forward remote req request now =>
    refine changes_same (receiveSessionForward_node ..) ?_
    unfold receiveSessionForward
    dsimp only
    split_ifs
    · rw [returnErr_call]
      rintro c ⟨⟩
    · exact commitOrForwardSession_between _ _
  | answer remote req response c hc ha =>
    refine changes_answered req.call (fun t ht => hi.wins t ?_) (Call.between_eq_false ?_)
    · rw [wins, hc]
      exact ht
    · rw [ha]
      rfl
  | fail req c hc ha =>
    refine changes_failed (fun t ht => hi.wins t ?_) (Call.between_eq_false ha)
    rw [wins, hc]
    exact ht
  | resume k s c hc ha =>
    have hcall : h.writes (.resume k) = c.writes h.node.localOwnerId := by
      rw [writes, hc]
      rfl
    cases hw : c.writes h.node.localOwnerId with
    | none =>
      rw [hcall, hw]
      exact changes_resumed_none k ha hw
    | some w =>
      obtain ⟨hl, hleader, hterm⟩ := hi.current rfl w (by rw [hcall, hw]; rfl)
      rw [hcall, hw]
      exact changes_resumed k hw hl hleader hterm

/-- A call that leaves its place between the two regions writes. -/
theorem Piece.left {k s : Nat} {e : Effect} (hp : Piece h i k s e)
    (hfresh : ∀ k, h.next ≤ k → h.calls k = none) (hw : h.writes i = none) {c : Call} {s' : Nat}
    (hc : h.calls k = some (c, s')) : c.between = false := by
  cases hp with
  | answer remote req response c' hc' ha =>
    rw [hc'] at hc
    cases hc
    refine Call.between_eq_false ?_
    rw [ha]
    rfl
  | fail req c' hc' ha =>
    rw [hc'] at hc
    cases hc
    exact Call.between_eq_false ha
  | resume k s c' hc' ha =>
    rw [hc'] at hc
    cases hc
    rw [writes, hc'] at hw
    cases c with
    | elected | steppedDown => cases hw
    | election | heartbeat | replicate | commit | publish | forward | replicated => rfl
  | startElection | sendHeartbeat | submit | vote | heartbeat | replicate | forward =>
    rw [hfresh h.next le_rfl] at hc
    cases hc

/-- Numbers that are not used yet have no call. -/
def Fresh (h : Host) : Prop := ∀ k, h.next ≤ k → h.calls k = none

theorem Fresh.after (hfresh : Fresh h) (i : Input) : Fresh (h.after i) := by
  rcases h.step_cases i with hstep | ⟨k, s, e, -, hstep⟩
  · rw [Host.after, hstep]
    exact hfresh
  · obtain ⟨-, hcalls⟩ := after_of_piece hstep
    have hnext : (h.after i).next = max h.next (k + 1) := by
      rw [Host.after, hstep]
      rfl
    intro k' hk'
    rw [hnext] at hk'
    rw [hcalls, Function.update_of_ne (by omega)]
    exact hfresh k' (by omega)

/-- What holds along a run of inputs in order. -/
structure Led (h : Host) : Prop where
  fresh : h.Fresh
  follows : h.Follows
  term : h.node.controlPlane.currentTerm ≤ max h.node.state.currentTerm 1

/-- Only a call that waits for nothing writes. -/
theorem writes_of_piece_none (hp : h.piece i = none) : h.writes i = none := by
  cases i with
  | recv remote req request now =>
    cases request with
    | vote | heartbeat | replicate | forward => cases hp
  | resume k =>
    unfold writes
    unfold piece at hp
    dsimp only at hp ⊢
    cases hc : h.calls k with
    | none => rfl
    | some p =>
      obtain ⟨c, s⟩ := p
      rw [hc] at hp
      dsimp only at hp
      split_ifs at hp with ha
      cases c with
      | election | heartbeat | replicate | publish | forward => rfl
      | elected | commit | steppedDown | replicated => exact absurd rfl ha
  | startElection | sendHeartbeat | submit | answer | fail => rfl

theorem Led.step (hled : Led h) (hi : h.InOrder i) : Led (h.after i) ∧ h.NotOlder i := by
  cases hpiece : h.piece i with
  | none =>
    have hsame : h.after i = h := by
      unfold after Host.step
      rw [hpiece]
    exact ⟨hsame.symm ▸ hled, .inl ⟨writes_of_piece_none hpiece, by rw [hsame], by rw [hsame]⟩⟩
  | some p =>
    obtain ⟨k, s, e⟩ := p
    have hp := piece_some hpiece
    have hstep : h.step i = h.perform k s e := by
      unfold Host.step
      rw [hpiece]
    obtain ⟨hnode, hcalls⟩ := after_of_piece hstep
    have hfresh : Fresh (h.after i) := hled.fresh.after i
    have hleft := hp.left hled.fresh
    generalize hwrites : h.writes i = w at hleft
    have hchanges : Changes h.node w e := hwrites ▸ hp.changes hi
    cases hchanges with
    | quiet hleader hterm hplane hcall =>
      refine ⟨⟨hfresh, fun hsettled x hx => ?_, ?_⟩, .inl ⟨hwrites, ?_, ?_⟩⟩
      · rw [hnode] at hx ⊢
        rw [hplane]
        refine hled.follows (fun k' c s' hc => ?_) x (hleader x hx)
        by_cases hk : k' = k
        · rw [hk] at hc
          exact hleft rfl hc
        · refine hsettled k' c s' ?_
          rw [hcalls, Function.update_of_ne hk]
          exact hc
      · rw [hnode, hplane]
        exact hled.term.trans (max_le_max hterm le_rfl)
      · rw [hnode, hplane]
      · rw [hnode, hplane]
    | @entered _ c hterm hplane hcall hbetween =>
      refine ⟨⟨hfresh, fun hsettled => ?_, ?_⟩, .inl ⟨hwrites, ?_, ?_⟩⟩
      · have hentered : (h.after i).calls k = some (c, s + 1) := by
          rw [hcalls, Function.update_self, hcall]
          rfl
        rw [hsettled k _ _ hentered] at hbetween
        cases hbetween
      · rw [hnode, hplane]
        exact hled.term.trans (max_le_max hterm le_rfl)
      · rw [hnode, hplane]
      · rw [hnode, hplane]
    | @told _ l t hleader hterm hle hknown hplane hcall =>
      have hpos : 1 ≤ t := Fin.add_one_le_of_lt (hi.positive (l, t) hwrites)
      have hbound : h.node.controlPlane.currentTerm ≤ t :=
        hled.term.trans (max_le hle hpos)
      rw [max_eq_right hbound] at hplane
      refine ⟨⟨hfresh, fun _ x hx => ?_, ?_⟩, .inr ⟨l, t, hwrites, hbound, ?_, ?_⟩⟩
      · rw [hnode, hleader] at hx
        rw [hnode, hknown, hx]
      · rw [hnode, hplane, hterm]
        exact le_max_left _ _
      · rw [hnode, hknown]
      · rw [hnode, hplane]

/-! ## Runs -/

theorem led_init (id : P2pId) (m : OwnerMembership) (now : Timestamp) :
    Led (init (.withControlPlane id m now)) := by
  refine ⟨fun _ _ => rfl, fun _ x hx => ?_, ?_⟩
  · have hsingle : m.members.length = 1 ∧ m.isMember id = true := by
      by_contra hno
      unfold init OwnerElectionNode.withControlPlane OwnerElectionNode.new at hx
      dsimp only at hx
      rw [if_neg hno] at hx
      cases hx
    have hleader : x = id := by
      unfold init OwnerElectionNode.withControlPlane OwnerElectionNode.new at hx
      dsimp only at hx
      rw [if_pos hsingle] at hx
      exact (Option.some.inj hx).symm
    obtain ⟨first, hfirst⟩ := List.length_eq_one_iff.mp hsingle.1
    have hid : id ∈ m.members := (m.isMember_iff id).mp hsingle.2
    rw [hfirst, List.mem_singleton] at hid
    show m.members.head? = some x
    rw [hfirst, hleader, hid]
    rfl
  · show (if m.members.head?.isSome then (1 : U64) else 0) ≤ _
    split_ifs
    · exact le_max_right _ _
    · exact le_trans (Fin.zero_le _) (le_max_right _ _)

/-- Along every run in which no call is overtaken before it writes, the control plane names the
leader of the election state whenever no call is between the two, and no step writes the leader of
a smaller term. -/
theorem control_plane_follows (id : P2pId) (m : OwnerMembership) (now : Timestamp)
    (is : List Input)
    (hrun : Along after InOrder (init (.withControlPlane id m now)) is) :
    (∀ pre, pre <+: is → (exec after (init (.withControlPlane id m now)) pre).Follows) ∧
      Along after NotOlder (init (.withControlPlane id m now)) is := by
  refine ⟨?_, along_of_inv (fun h i hled hi => (hled.step hi).1)
    (fun h i hled hi => (hled.step hi).2) (led_init id m now) hrun⟩
  rintro pre ⟨post, rfl⟩
  have hled : Led (exec after (init (.withControlPlane id m now)) pre) :=
    exec_inv (fun h i hled hi => (hled.step hi).1) (led_init id m now) (along_append.mp hrun).1
  exact hled.follows

/-- An election of `[1]` that `[2]` votes for and `[3]` does not answer. -/
def elect : List Input :=
  [.startElection 0, .answer [2] ⟨0, 1⟩ (.vote ⟨1, true, none⟩), .fail ⟨0, 2⟩, .resume 0]

theorem control_plane_follows_elect :
    Along after InOrder (init (.withControlPlane [1] .trio 0)) elect ∧
      (exec after (init (.withControlPlane [1] .trio 0)) elect).Follows := by
  have hrun : Along after InOrder (init (.withControlPlane [1] .trio 0)) elect := by decide +kernel
  exact ⟨hrun, (control_plane_follows [1] .trio 0 elect hrun).1 elect List.prefix_rfl⟩

/-- `[1]` hears of the leader `[2]` of term 2 while it waits for the answers to an entry of term 1,
which still make a quorum. -/
def overtaken : List Input :=
  elect ++ [.submit (.revokeServingSession [7]) 1, .recv [2] ⟨0, 0⟩ (.heartbeat ⟨2, [2], 0⟩) 2,
    .answer [2] ⟨1, 1⟩ (.replicate ⟨1, true, 0, some [1]⟩), .fail ⟨1, 2⟩, .resume 1]

/-- The entry makes `[1]` the leader of the control plane again. -/
theorem overtaken_names_older :
    ∃ h, h = exec after (init (.withControlPlane [1] .trio 0)) overtaken ∧ ¬ h.Follows ∧
      ¬ Along after NotOlder (init (.withControlPlane [1] .trio 0)) overtaken := by
  refine ⟨_, rfl, fun hfollows => ?_, fun hrun => ?_⟩
  · have hsettled : (exec after (init (.withControlPlane [1] .trio 0)) overtaken).Settled := by
      rintro (_ | _ | _ | k) c s hc
      · cases hc
        rfl
      · cases hc
        rfl
      · cases hc
      · have hfresh : Fresh (exec after (init (.withControlPlane [1] .trio 0)) overtaken) :=
          exec_inv_all (I := Fresh) (fun h i hfresh => hfresh.after i) (fun _ _ => rfl) overtaken
        have hnext : (exec after (init (.withControlPlane [1] .trio 0)) overtaken).next = 3 := rfl
        rw [hfresh (k + 3) (by rw [hnext]; omega)] at hc
        cases hc
    have hnames := hfollows hsettled [2] (by decide +kernel)
    exact absurd hnames (by decide +kernel)
  · rcases hrun.2.2.2.2.2.2.2.2.1 with ⟨hnone, -⟩ | ⟨l, t, hwrites, hle, -, hterm⟩
    · exact absurd hnone (by decide +kernel)
    · have hwritten : (exec after (init (.withControlPlane [1] .trio 0))
          (overtaken.take 8)).writes (.resume 1) = some ([1], 1) := by decide +kernel
      cases hwritten.symm.trans hwrites
      exact absurd hle (by decide +kernel)

end Host

end BuckyP2p.Directory
