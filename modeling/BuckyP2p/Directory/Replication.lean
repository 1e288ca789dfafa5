import BuckyP2p.Directory.Commits

/-!
# BuckyP2p.Directory.Replication — what the second round achieves

The first round stores nothing, and `replicate_and_commit` does not look at the answers of the second
one; a published entry carries no index, and a follower appends it wherever its log ends.  So a
committed entry may be held by the leader alone, and the logs of two members may differ.

* `Logs`: the two pieces that append to a log, and that nothing else touches it.
* `Confirmed`: when a call returns, enough members have acknowledged its second round.  Along such
  runs every returned entry is held by a quorum (`commit_durable`); `commit_lost` is a run in which
  only the leader holds it.
* `InOrder`: followers append a published entry at the index the leader gave it, and a leader commits
  only with the longest log.  Along such runs the logs agree (`logs_agree`); `logs_differ` is a run
  in which two logs differ at an index both have committed.
-/

namespace BuckyP2p.Directory

open Lib

/-- The entry that an event appends to the node's log. -/
def Event.appended : Event → Option OwnerSessionEntry
  | .committed _ e _ => some e
  | .applied _ _ e => some e
  | _ => none

/-! ## The pieces that append -/

section Logs

/-- The effect does not touch the log. -/
structure Effect.Quiet (n : OwnerElectionNode) (e : Effect) : Prop where
  log : e.node.controlPlane.log = n.controlPlane.log
  index : e.node.controlPlane.committedIndex = n.controlPlane.committedIndex
  events : ∀ ev ∈ e.events, ev.appended = none

/-- The effect appends `entry` and records this as `ev`. -/
structure Effect.Appends (n : OwnerElectionNode) (e : Effect) (entry : OwnerSessionEntry)
    (ev : Event) : Prop where
  log : e.node.controlPlane.log = n.controlPlane.log ++ [entry]
  index : e.node.controlPlane.committedIndex = n.controlPlane.log.length + 1
  appended : ev.appended = some entry
  mem : ev ∈ e.events
  only : ∀ ev' ∈ e.events, ev'.appended ≠ none → ev' = ev

/-- What a piece of the call `k` does to the log. -/
inductive Logs (h : Host) (i : Input) (k s : Nat) (e : Effect) : Prop
  | quiet (hq : e.Quiet h.node)
  | commit (job : Job) (hi : i = .resume k) (hc : h.calls k = some (.commit job, s))
      (ha : e.Appends h.node job.entry
        (.committed k job.entry (h.node.controlPlane.log.length + 1)))
  | apply (remote : P2pId) (req : ReqId) (r : OwnerSessionReplication) (hi : i = .resume k)
      (hc : h.calls k = some (.replicated remote req r, s)) (hr : r.committed = true)
      (ha : e.Appends h.node r.entry (.applied remote req r.entry))

variable {n : OwnerElectionNode}

namespace OwnerElectionNode

theorem quiet_of_events {e : Effect} (hn : e.node = n) (he : ∀ ev ∈ e.events, ev.appended = none) :
    e.Quiet n := ⟨by rw [hn], by rw [hn], he⟩

theorem quiet_event {e : Effect} {ev : Event} (h : e.Quiet n) (hev : ev.appended = none) :
    Effect.Quiet n { e with events := ev :: e.events } where
  log := h.log
  index := h.index
  events := by simpa [hev] using h.events

theorem returnOk_events (ticket : Ticket) (index : Nat) :
    (n.returnOk ticket index).events = [.returned ticket.entry index] := by
  unfold returnOk
  split <;> rfl

theorem returnErr_events (ticket : Option Ticket) : (n.returnErr ticket).events = [] := by
  unfold returnErr
  split <;> rfl

theorem quiet_returnOk (ticket : Ticket) (index : Nat) : (n.returnOk ticket index).Quiet n :=
  quiet_of_events (returnOk_node ..) (by rw [returnOk_events]; simp [Event.appended])

theorem quiet_returnErr (ticket : Option Ticket) : (n.returnErr ticket).Quiet n :=
  quiet_of_events (returnErr_node _) (by rw [returnErr_events]; simp)

theorem quiet_askVote (now : Timestamp) (term highest : U64) (votes : Nat) (l : List P2pId) :
    (n.askVote now term highest votes l).Quiet n := by
  cases l with
  | cons x rest => exact ⟨rfl, rfl, by simp [askVote]⟩
  | nil =>
    unfold askVote
    dsimp only
    split_ifs
    · exact ⟨rfl, rfl, by simp [Event.appended]⟩
    · exact ⟨rfl, rfl, by simp⟩

theorem quiet_stepDownAndFail (term : U64) (l : Option P2pId) (now : Timestamp)
    (ticket : Option Ticket) : (n.stepDownAndFail term l now ticket).Quiet n := by
  have hq := quiet_returnErr (n := n.stepDown term l now) ticket
  cases l with
  | none => exact ⟨hq.log, hq.index, hq.events⟩
  | some l => exact ⟨rfl, rfl, by simp [stepDownAndFail]⟩

theorem quiet_askHeartbeat (now : Timestamp) (request : OwnerHeartbeatRequest) (accepted : Nat)
    (l : List P2pId) : (n.askHeartbeat now request accepted l).Quiet n :=
  quiet_of_events (askHeartbeat_node ..) (by cases l <;> simp [askHeartbeat])

theorem quiet_sendHeartbeat (now : Timestamp) : (n.sendHeartbeat now).Quiet n := by
  unfold sendHeartbeat
  split
  · exact quiet_askHeartbeat ..
  · exact quiet_of_events rfl (by simp)

theorem quiet_askReplicate (job : Job) (accepted : Nat) (l : List P2pId) :
    (n.askReplicate job accepted l).Quiet n := by
  cases l with
  | cons x rest => exact quiet_of_events rfl (by simp [askReplicate])
  | nil =>
    unfold askReplicate
    dsimp only
    split_ifs
    · exact quiet_returnErr _
    · exact quiet_of_events rfl (by simp)

theorem quiet_askPublish (job : Job) (index : Nat) (l : List P2pId) :
    (n.askPublish job index l).Quiet n := by
  cases l with
  | cons x rest => exact quiet_of_events rfl (by simp [askPublish])
  | nil => exact quiet_returnOk ..

theorem quiet_commitOrForwardSession (call : Nat) (ticket : Ticket) :
    (n.commitOrForwardSession call ticket).Quiet n := by
  unfold commitOrForwardSession replicateAndCommit
  split
  · split
    · exact quiet_event (quiet_askReplicate ..) rfl
    · exact quiet_returnErr _
  · split
    · exact quiet_returnErr _
    · exact quiet_of_events rfl (by simp)

theorem quiet_failed (c : Call) : (n.failed c).Quiet n := by
  unfold failed
  split
  · exact quiet_askVote ..
  · exact quiet_askHeartbeat ..
  · exact quiet_askReplicate ..
  · exact quiet_askPublish ..
  · exact quiet_returnErr _
  · exact quiet_of_events rfl (by simp)

theorem quiet_answered (call : Nat) (c : Call) (r : Response) :
    (n.answered call c r).Quiet n := by
  unfold answered
  split
  · split_ifs
    · exact quiet_stepDownAndFail ..
    · exact quiet_askVote ..
    · exact quiet_askVote ..
  · split_ifs
    · exact quiet_stepDownAndFail ..
    · exact quiet_askHeartbeat ..
    · exact quiet_askHeartbeat ..
  · split_ifs
    · exact quiet_stepDownAndFail ..
    · exact quiet_event (quiet_askReplicate ..) rfl
    · exact quiet_askReplicate ..
  · exact quiet_askPublish ..
  · split_ifs
    · exact quiet_returnOk ..
    · exact quiet_returnErr _
  · exact quiet_failed _

/-- The leader's append, in front of a piece that leaves the log alone. -/
theorem commitJob_logs (call : Nat) (job : Job) :
    (n.commitJob call job).Quiet n ∨ (n.commitJob call job).Appends n job.entry
      (.committed call job.entry (n.controlPlane.log.length + 1)) := by
  unfold commitJob
  cases happ : n.controlPlane.applyCommittedSessionEntry n.membership job.leaderId job.term
      job.entry job.now with
  | ok p =>
    obtain ⟨cp, index⟩ := p
    obtain ⟨-, hlog, hidx, rfl⟩ := OwnerControlPlane.applyCommittedSessionEntry_log happ
    have hq := quiet_askPublish (n := { n with controlPlane := cp }) job
      (n.controlPlane.log.length + 1) ({ n with controlPlane := cp } : OwnerElectionNode).remoteMembers
    refine .inr ⟨?_, ?_, rfl, List.mem_cons_self, ?_⟩
    · exact hq.log.trans hlog
    · exact hq.index.trans hidx
    · intro ev hev hne
      rcases List.mem_cons.mp hev with h | h
      · exact h
      · exact absurd (hq.events ev h) hne
  | error err => exact .inl (quiet_returnErr _)

theorem answerReplication_logs (remote : P2pId) (req : ReqId) (r : OwnerSessionReplication) :
    (n.answerReplication remote req r).Quiet n ∨ (r.committed = true ∧
      (n.answerReplication remote req r).Appends n r.entry (.applied remote req r.entry)) := by
  unfold answerReplication
  by_cases hc : r.committed = true
  · simp only [hc, Bool.not_true, Bool.false_eq_true, if_false]
    cases happ : n.controlPlane.applyCommittedSessionEntry n.membership r.leaderId r.term r.entry
        r.now with
    | ok p =>
      obtain ⟨cp, index⟩ := p
      obtain ⟨-, hlog, hidx, -⟩ := OwnerControlPlane.applyCommittedSessionEntry_log happ
      refine .inr ⟨trivial, hlog, hidx, rfl, List.mem_cons_self, ?_⟩
      intro ev hev _
      exact List.mem_singleton.mp hev
    | error err => exact .inl (quiet_of_events rfl (by simp))
  · simp only [hc]
    exact .inl (quiet_of_events rfl (by simp))

end OwnerElectionNode

open OwnerElectionNode in
/-- **Only two pieces append to a log**: the leader's commit and a follower's apply. -/
theorem Host.Piece.logs {h : Host} {i : Input} {k s : Nat} {e : Effect}
    (hp : Host.Piece h i k s e) : Logs h i k s e := by
  have hfollow : ∀ l term now call, Effect.Quiet h.node
      { node := h.node.follow l term now, call := call } := fun l term now call =>
    ⟨noteLeader_log .., noteLeader_committedIndex .., by simp⟩
  cases hp with
  | startElection now =>
    have hq := quiet_askVote (n := h.node.openElection now) now h.node.nextTerm h.node.nextTerm 1
      h.node.remoteMembers
    exact .quiet (quiet_event ⟨hq.log, hq.index, hq.events⟩ rfl)
  | sendHeartbeat now => exact .quiet (quiet_sendHeartbeat now)
  | submit entry now => exact .quiet (quiet_event (quiet_commitOrForwardSession ..) rfl)
  | vote remote req request now =>
    unfold serveVote
    by_cases hg : h.node.Grants remote request
    · rw [receiveVoteRequest_grants now hg]
      exact .quiet ⟨rfl, rfl, by simp [voteResponse, Event.appended]⟩
    · rw [receiveVoteRequest_denies now hg]
      exact .quiet ⟨rfl, rfl, by simp [voteResponse]⟩
  | heartbeat remote req request now =>
    unfold serveHeartbeat
    by_cases ha : h.node.Accepts remote request.leaderId request.term
    · rw [receiveHeartbeat_accepts now ha]
      exact .quiet ⟨(hfollow _ _ _ none).log, (hfollow _ _ _ none).index, by simp⟩
    · rw [receiveHeartbeat_rejects now ha]
      exact .quiet ⟨rfl, rfl, by simp⟩
  | replicate remote req request now =>
    by_cases ha : h.node.Accepts remote request.leaderId request.term
    · rw [receiveSessionReplication_accepts req now ha]
      exact .quiet (hfollow ..)
    · rw [receiveSessionReplication_rejects req now ha]
      exact .quiet (quiet_of_events rfl (by simp))
  | forward remote req request now =>
    unfold receiveSessionForward
    dsimp only
    split_ifs
    · exact .quiet (quiet_returnErr _)
    · exact .quiet (quiet_commitOrForwardSession ..)
  | answer remote req response c hc ha => exact .quiet (quiet_answered ..)
  | fail req c hc ha => exact .quiet (quiet_failed c)
  | resume k s c hc ha =>
    cases c with
    | elected now term =>
      simp only [resumed]
      split
      · rename_i cp hcp
        have hlog := OwnerControlPlane.setKnownLeader_log hcp
        have hq := quiet_sendHeartbeat (n := { h.node with controlPlane := cp }) now
        exact .quiet ⟨hq.log.trans hlog.1, hq.index.trans hlog.2, hq.events⟩
      · exact .quiet (quiet_of_events rfl (by simp))
    | commit job =>
      rcases commitJob_logs (n := h.node) k job with hq | happ
      · exact .quiet hq
      · exact .commit job rfl hc happ
    | steppedDown term l ticket =>
      have hq := quiet_returnErr (n := h.node.noteLeader l term) ticket
      exact .quiet ⟨hq.log.trans (noteLeader_log ..), hq.index.trans (noteLeader_committedIndex ..),
        hq.events⟩
    | replicated remote req r =>
      rcases answerReplication_logs (n := h.node) remote req r with hq | ⟨hr, happ⟩
      · exact .quiet hq
      · exact .apply remote req r rfl hc hr happ
    | _ => cases ha

end Logs

/-! ## Entries that were recorded are in the logs -/

section Stored

variable {m : OwnerMembership} {c : Cluster}

/-- What a node recorded to have appended is in its log. -/
def Stored (c : Cluster) : Prop :=
  ∀ id ev e, (id, ev) ∈ c.trace.history → ev.appended = some e →
    e ∈ (c.hosts id).node.controlPlane.log

theorem stored_step (hw : Wired m c) (hs : Stored c) (a : Action) : Stored (c.step m a) := by
  rcases c.step_cases m a hw.owner with heq | ⟨id, i, k, s, e, -, -, -, hp, heq⟩
  · rwa [heq]
  rw [heq]
  have hlog := hp.logs
  intro x ev entry hev happ
  dsimp only
  have hgrow : ∀ y ∈ (c.hosts id).node.controlPlane.log, y ∈ e.node.controlPlane.log := by
    intro y hy
    cases hlog with
    | quiet hq => rwa [hq.log]
    | commit job hi hc ha => rw [ha.log]; exact List.mem_append_left _ hy
    | apply remote req r hi hc hr ha => rw [ha.log]; exact List.mem_append_left _ hy
  rcases Trace.mem_after_history.mp hev with hev | ⟨ev', hev', hx⟩
  · have hold := hs x ev entry hev happ
    by_cases hx : x = id
    · subst hx
      rw [Function.update_self]
      exact hgrow _ hold
    · rwa [Function.update_of_ne hx]
  · cases hx
    rw [Function.update_self]
    have hne : ev.appended ≠ none := by rw [happ]; simp
    cases hlog with
    | quiet hq => exact absurd (hq.events ev hev') hne
    | commit job hi hc ha =>
      rw [ha.only ev hev' hne, ha.appended] at happ
      cases happ
      exact ha.log ▸ List.mem_append_right _ List.mem_cons_self
    | apply remote req r hi hc hr ha =>
      rw [ha.only ev hev' hne, ha.appended] at happ
      cases happ
      exact ha.log ▸ List.mem_append_right _ List.mem_cons_self

end Stored

/-! ## Durability -/

def Body.accepts : Body → Bool
  | .response (.replicate r) => r.accepted
  | _ => false

namespace Cluster

/-- `a` has acknowledged a request of the second round of the call `k` of `id`. -/
def Acknowledged (c : Cluster) (id : P2pId) (k : Nat) (job : Job) (a : P2pId) : Prop :=
  ∃ p ∈ c.trace.sent, p.src = id ∧ p.dst = a ∧ p.req.call = k ∧
    p.body = .request (job.replication true) ∧
    ∃ q ∈ c.trace.sent, q.src = a ∧ q.dst = id ∧ q.req = p.req ∧ q.body.accepts = true

instance (c : Cluster) (id : P2pId) (k : Nat) (job : Job) (a : P2pId) :
    Decidable (c.Acknowledged id k job a) := by unfold Acknowledged; infer_instance

/-- The job whose second round is over with this input of `id`: `replicate_and_commit` returns. -/
def finishes (h : Host) : Input → Option (Nat × Job)
  | .answer remote req _ =>
    match h.calls req.call with
    | some (.publish job _ member [], s) =>
      if s = req.seq ∧ member = remote then some (req.call, job) else none
    | _ => none
  | .fail req =>
    match h.calls req.call with
    | some (.publish job _ _ [], s) => if s = req.seq then some (req.call, job) else none
    | _ => none
  | _ => none

/-- When the action ends a `replicate_and_commit`, enough members have acknowledged its second round
to reach the quorum with the leader. -/
def Confirmed (m : OwnerMembership) (c : Cluster) (a : Action) : Prop :=
  ∀ x ∈ c.target m a, ∀ y ∈ finishes (c.hosts x.1) x.2,
    m.quorumSize ≤
      (m.members.filter fun b => b ≠ x.1 ∧ c.Acknowledged x.1 y.1 y.2 b).length + 1

instance (m : OwnerMembership) (c : Cluster) (a : Action) : Decidable (c.Confirmed m a) := by
  unfold Confirmed; infer_instance

/-- The members that hold `e` in their logs. -/
def holders (m : OwnerMembership) (c : Cluster) (e : OwnerSessionEntry) : List P2pId :=
  m.members.filter fun id => e ∈ (c.hosts id).node.controlPlane.log

end Cluster

section Durability

/-- A quorum of members recorded that they appended `e`. -/
def Durable (m : OwnerMembership) (t : Trace) (e : OwnerSessionEntry) : Prop :=
  ∃ s : Finset P2pId, s ⊆ m.members.toFinset ∧ m.quorumSize ≤ s.card ∧
    ∀ x ∈ s, ∃ ev, (x, ev) ∈ t.history ∧ ev.appended = some e

/-- The assertion: what was returned, to a caller or over a forward, is durable. -/
def returns (m : OwnerMembership) : Spec where
  node _ _ _ := True
  call _ _ _ _ := True
  packet t p :=
    match p.body with
    | .response (.forward r) => p.dst ∈ m.members → r.accepted = true →
      ∃ rq, ⟨p.dst, p.src, p.req, .request (.forward rq)⟩ ∈ t.sent ∧ Durable m t rq.entry
    | _ => True
  event t _ ev :=
    match ev with
    | .returned e _ => Durable m t e
    | _ => True

variable {m : OwnerMembership} {t t' : Trace} {id : P2pId} {k s : Nat}

theorem Durable.mono {e : OwnerSessionEntry} (hle : t.Le t') (h : Durable m t e) :
    Durable m t' e := by
  obtain ⟨s, hs, hq, hev⟩ := h
  refine ⟨s, hs, hq, fun x hx => ?_⟩
  obtain ⟨ev, hmem, happ⟩ := hev x hx
  exact ⟨ev, hle.2 hmem, happ⟩

theorem returns_mono (m : OwnerMembership) : (returns m).Mono where
  node _ _ _ _ := trivial
  call _ _ _ _ _ := trivial
  packet {t t'} hle p h := by
    obtain ⟨src, dst, req, body⟩ := p
    cases body with
    | request r => trivial
    | response r =>
      cases r with
      | forward r =>
        intro hd ha
        obtain ⟨rq, hsent, hdur⟩ := h hd ha
        exact ⟨rq, hle.1 hsent, hdur.mono hle⟩
      | _ => trivial
  event {t t'} hle id ev h := by
    cases ev with
    | returned e index => exact Durable.mono hle h
    | _ => trivial

/-- The effect returns `Ok` to nobody. -/
structure Effect.NoReturn (e : Effect) : Prop where
  reply : ∀ dst req r, (dst, req, r) ∈ e.reply → ∀ f, r = .forward f → f.accepted = false
  events : ∀ entry index, .returned entry index ∉ e.events

theorem returns_ok_of_noReturn {e : Effect} (h : e.NoReturn) : (returns m).Ok t id k s e where
  node := trivial
  call _ _ := trivial
  request _ _ _ _ _ := trivial
  reply dst req r hr := by
    cases r with
    | forward f =>
      intro _ ha
      rw [h.reply dst req _ hr f rfl] at ha
      cases ha
    | _ => trivial
  event ev hev := by
    cases ev with
    | returned entry index => exact absurd hev (h.events entry index)
    | _ => trivial

/-- A call that returns `Ok` owes a durable entry. -/
theorem returns_ok_returnOk {n : OwnerElectionNode} {ticket : Ticket} {index : Nat}
    (hd : Durable m t ticket.entry)
    (hs : ∀ remote req r, ticket.serves = some (remote, req, r) →
      ⟨remote, id, req, .request r⟩ ∈ t.sent) :
    (returns m).Ok t id k s (n.returnOk ticket index) := by
  refine ⟨trivial, fun _ _ => trivial, fun _ _ _ _ _ => trivial, ?_, ?_⟩
  · intro dst req r hr
    cases hcl : ticket.client with
    | caller => simp [OwnerElectionNode.returnOk, hcl] at hr
    | remote remote' req' =>
      simp only [OwnerElectionNode.returnOk, hcl, Option.mem_def, Option.some.injEq,
        Prod.mk.injEq] at hr
      obtain ⟨rfl, rfl, rfl⟩ := hr
      refine fun _ _ => ⟨⟨ticket.entry, ticket.now⟩, hs _ _ _ ?_, hd⟩
      simp [Ticket.serves, hcl]
  · intro ev hev
    rw [OwnerElectionNode.returnOk_events] at hev
    cases List.mem_singleton.mp hev
    exact hd

section NoReturn

open OwnerElectionNode

variable {n : OwnerElectionNode}

theorem noReturn_silent {e : Effect} (hr : e.reply = none)
    (hev : ∀ entry index, .returned entry index ∉ e.events) : e.NoReturn where
  reply _ _ _ h := by
    rw [hr] at h
    cases h
  events := hev

theorem noReturn_event {e : Effect} {ev : Event} (h : e.NoReturn)
    (hev : ∀ entry index, ev ≠ .returned entry index) :
    Effect.NoReturn { e with events := ev :: e.events } where
  reply := h.reply
  events entry index hmem := by
    rcases List.mem_cons.mp hmem with heq | hmem
    · exact hev entry index heq.symm
    · exact h.events entry index hmem

theorem noReturn_returnErr (ticket : Option Ticket) : (n.returnErr ticket).NoReturn := by
  refine ⟨?_, by simp [returnErr_events]⟩
  intro dst req r hr f hf
  unfold returnErr at hr
  split at hr
  · cases hr
    cases hf
    rfl
  · cases hr

theorem noReturn_askVote (now : Timestamp) (term highest : U64) (votes : Nat) (l : List P2pId) :
    (n.askVote now term highest votes l).NoReturn := by
  cases l with
  | cons x rest => exact noReturn_silent rfl (by simp [askVote])
  | nil =>
    unfold askVote
    dsimp only
    split_ifs
    · exact noReturn_silent rfl (by simp)
    · exact noReturn_silent rfl (by simp)

theorem noReturn_stepDownAndFail (term : U64) (l : Option P2pId) (now : Timestamp)
    (ticket : Option Ticket) : (n.stepDownAndFail term l now ticket).NoReturn := by
  cases l with
  | none => exact noReturn_returnErr _
  | some l => exact noReturn_silent rfl (by simp [stepDownAndFail])

theorem noReturn_askHeartbeat (now : Timestamp) (request : OwnerHeartbeatRequest) (accepted : Nat)
    (l : List P2pId) : (n.askHeartbeat now request accepted l).NoReturn := by
  cases l with
  | cons x rest => exact noReturn_silent rfl (by simp [askHeartbeat])
  | nil => exact noReturn_silent rfl (by simp [askHeartbeat])

theorem noReturn_sendHeartbeat (now : Timestamp) : (n.sendHeartbeat now).NoReturn := by
  unfold sendHeartbeat
  split
  · exact noReturn_askHeartbeat ..
  · exact noReturn_silent rfl (by simp)

theorem noReturn_askReplicate (job : Job) (accepted : Nat) (l : List P2pId) :
    (n.askReplicate job accepted l).NoReturn := by
  cases l with
  | cons x rest => exact noReturn_silent rfl (by simp [askReplicate])
  | nil =>
    unfold askReplicate
    dsimp only
    split_ifs
    · exact noReturn_returnErr _
    · exact noReturn_silent rfl (by simp)

theorem noReturn_commitOrForwardSession (call : Nat) (ticket : Ticket) :
    (n.commitOrForwardSession call ticket).NoReturn := by
  unfold commitOrForwardSession replicateAndCommit
  split
  · split
    · exact noReturn_event (noReturn_askReplicate ..) (by simp)
    · exact noReturn_returnErr _
  · split
    · exact noReturn_returnErr _
    · exact noReturn_silent rfl (by simp)

theorem noReturn_reply {n' : OwnerElectionNode} {dst : P2pId} {req : ReqId} {r : Response}
    {evs : List Event} (hr : ∀ f, r ≠ .forward f)
    (hev : ∀ entry index, .returned entry index ∉ evs) :
    Effect.NoReturn { node := n', reply := some (dst, req, r), events := evs } where
  reply _ _ r' h f hf := by
    cases h
    exact absurd hf (hr f)
  events := hev

theorem noReturn_answerReplication (remote : P2pId) (req : ReqId) (r : OwnerSessionReplication) :
    (n.answerReplication remote req r).NoReturn := by
  unfold answerReplication
  split
  · exact noReturn_reply (by simp) (by simp)
  · split <;> exact noReturn_reply (by simp) (by simp)

end NoReturn

/-- Members that acknowledged the second round hold the entry, so a confirmed job is durable. -/
theorem durable_of_acknowledged {c : Cluster} (hw : Wired m c) (hI : (commits m).Inv c)
    (hid : id ∈ m.members) {job : Job} {index : Nat}
    (hcom : (id, .committed k job.entry index) ∈ c.trace.history)
    (hq : m.quorumSize ≤
      (m.members.filter fun b => b ≠ id ∧ c.Acknowledged id k job b).length + 1) :
    Durable m c.trace job.entry := by
  set l := m.members.filter fun b => b ≠ id ∧ c.Acknowledged id k job b with hl
  have hmem : ∀ b ∈ l, b ∈ m.members ∧ b ≠ id ∧ c.Acknowledged id k job b := by
    intro b hb
    have h := List.mem_filter.mp (hl ▸ hb)
    exact ⟨h.1, by simpa using h.2⟩
  have hnd : l.Nodup := m.nodup.filter _
  have hnot : id ∉ l.toFinset := fun h => (hmem id (List.mem_toFinset.mp h)).2.1 rfl
  refine ⟨insert id l.toFinset, ?_, ?_, ?_⟩
  · refine Finset.insert_subset (List.mem_toFinset.mpr hid) fun b hb => ?_
    exact List.mem_toFinset.mpr (hmem b (List.mem_toFinset.mp hb)).1
  · rw [Finset.card_insert_of_notMem hnot, List.toFinset_card_of_nodup hnd]
    exact hq
  · intro x hx
    rcases Finset.mem_insert.mp hx with rfl | hx
    · exact ⟨_, hcom, rfl⟩
    -- the acknowledgement answers a published entry, which its sender has appended
    obtain ⟨-, -, ⟨src, dst, ⟨call, seq⟩, body⟩, hp, rfl, rfl, rfl, rfl, q, hq', hsrc, hdst, hreq,
      hacc⟩ := hmem x (List.mem_toFinset.mp hx)
    obtain ⟨qsrc, qdst, qreq, qbody⟩ := q
    cases hsrc
    cases hdst
    cases hreq
    cases qbody with
    | request r => cases hacc
    | response r =>
      cases r with
      | replicate r =>
        obtain ⟨rq, hsent, happ⟩ := hI.packet _ hq' hid hacc
        cases (hw.unique _ _ _ _ _ _ hp hsent).2
        exact ⟨_, happ rfl, rfl⟩
      | _ => cases hacc

/-- A member without remote members is the whole membership. -/
theorem quorumSize_of_alone {n : OwnerElectionNode} (hm : n.membership = m)
    (ho : n.localOwnerId = id) (hid : id ∈ m.members) (hr : n.remoteMembers = []) :
    m.quorumSize = 1 := by
  have hall : ∀ x ∈ m.members, x = id := by
    intro x hx
    have h := List.filter_eq_nil_iff.mp hr x (hm ▸ hx)
    simpa [ho] using h
  have hlen : m.members.length ≤ 1 := by
    have hsub : m.members.toFinset ⊆ {id} := fun x hx =>
      Finset.mem_singleton.mpr (hall x (List.mem_toFinset.mp hx))
    calc m.members.length = m.members.toFinset.card :=
          (List.toFinset_card_of_nodup m.nodup).symm
      _ ≤ ({id} : Finset P2pId).card := Finset.card_le_card hsub
      _ = 1 := Finset.card_singleton id
  have hpos : 0 < m.members.length := List.length_pos_of_mem hid
  rw [OwnerMembership.quorumSize]
  omega

/-- The second round: nothing is returned while members are left to be told. -/
theorem returns_ok_askPublish {n : OwnerElectionNode} {job : Job} {index : Nat} {l : List P2pId}
    (hd : l = [] → Durable m t job.entry)
    (hs : ∀ remote req r, job.serves = some (remote, req, r) →
      ⟨remote, id, req, .request r⟩ ∈ t.sent) :
    (returns m).Ok t id k s (n.askPublish job index l) := by
  cases l with
  | cons x rest =>
    exact returns_ok_of_noReturn
      (noReturn_silent rfl (by simp [OwnerElectionNode.askPublish]))
  | nil => exact returns_ok_returnOk (hd rfl) hs

/-- A leader that is alone holds what it commits, and its own log is the quorum. -/
theorem returns_ok_commitJob {n : OwnerElectionNode} {job : Job} (hm : n.membership = m)
    (ho : n.localOwnerId = id) (hid : id ∈ m.members)
    (hev : ∀ ev ∈ (n.commitJob k job).events, (id, ev) ∈ t.history)
    (hs : ∀ remote req r, job.serves = some (remote, req, r) →
      ⟨remote, id, req, .request r⟩ ∈ t.sent) :
    (returns m).Ok t id k s (n.commitJob k job) := by
  unfold OwnerElectionNode.commitJob at hev ⊢
  cases happ : n.controlPlane.applyCommittedSessionEntry n.membership job.leaderId job.term
      job.entry job.now with
  | ok p =>
    obtain ⟨cp, index⟩ := p
    simp only [happ] at hev ⊢
    refine Spec.Ok.event_cons (returns_ok_askPublish (fun hnil => ?_) hs) trivial
    refine ⟨{id}, ?_, ?_, ?_⟩
    · exact Finset.singleton_subset_iff.mpr (List.mem_toFinset.mpr hid)
    · rw [quorumSize_of_alone (n := n) hm ho hid hnil, Finset.card_singleton]
    · intro x hx
      rw [Finset.mem_singleton.mp hx]
      exact ⟨_, hev _ List.mem_cons_self, rfl⟩
  | error err => exact returns_ok_of_noReturn (noReturn_returnErr _)

/-- Every piece of a confirmed action returns only durable entries. -/
theorem returns_ok {c : Cluster} (hw : Wired m c) (hC : (commits m).Inv c)
    (hR : (returns m).Inv c) {a : Action} {i : Input} {e : Effect}
    (ht : c.target m a = some (id, i)) (hid : id ∈ m.members) (ha : Arises m c.trace id i)
    (hp : Host.Piece (c.hosts id) i k s e) (hcf : c.Confirmed m a) :
    (returns m).Ok (c.trace.after id k s e) id k s e := by
  have hle : c.trace.Le (c.trace.after id k s e) := Trace.le_after
  have hserves : ∀ k' cl s', (c.hosts id).calls k' = some (cl, s') → ∀ remote req r,
      cl.serves = some (remote, req, r) →
      ⟨remote, id, req, .request r⟩ ∈ (c.trace.after id k s e).sent :=
    fun k' cl s' hc remote req r hr => hle.1 (hw.serves _ _ _ _ hc _ _ _ hr)
  cases hp with
  | startElection now =>
    exact returns_ok_of_noReturn (noReturn_event (noReturn_askVote ..) (by simp))
  | sendHeartbeat now => exact returns_ok_of_noReturn (noReturn_sendHeartbeat now)
  | submit entry now =>
    exact returns_ok_of_noReturn (noReturn_event (noReturn_commitOrForwardSession ..) (by simp))
  | vote remote req request now =>
    refine returns_ok_of_noReturn (noReturn_reply (by simp) ?_)
    intro entry index h
    split_ifs at h
    · cases List.mem_singleton.mp h
    · cases h
  | heartbeat remote req request now =>
    exact returns_ok_of_noReturn (noReturn_reply (by simp) (by simp))
  | replicate remote req request now =>
    by_cases hacc : (c.hosts id).node.Accepts remote request.leaderId request.term
    · rw [OwnerElectionNode.receiveSessionReplication_accepts req now hacc]
      exact returns_ok_of_noReturn (noReturn_silent rfl (by simp))
    · rw [OwnerElectionNode.receiveSessionReplication_rejects req now hacc]
      exact returns_ok_of_noReturn (noReturn_reply (by simp) (by simp))
  | forward remote req request now =>
    refine returns_ok_of_noReturn ?_
    unfold OwnerElectionNode.receiveSessionForward
    dsimp only
    split_ifs
    · exact noReturn_returnErr _
    · exact noReturn_commitOrForwardSession ..
  | answer remote req response cl hc haw =>
    cases cl with
    | election now term highest votes member rest =>
      refine returns_ok_of_noReturn ?_
      cases response with
      | vote r =>
        simp only [OwnerElectionNode.answered]
        split_ifs
        · exact noReturn_stepDownAndFail ..
        · exact noReturn_askVote ..
        · exact noReturn_askVote ..
      | _ => exact noReturn_askVote ..
    | heartbeat now request accepted member rest =>
      refine returns_ok_of_noReturn ?_
      cases response with
      | heartbeat r =>
        simp only [OwnerElectionNode.answered]
        split_ifs
        · exact noReturn_stepDownAndFail ..
        · exact noReturn_askHeartbeat ..
        · exact noReturn_askHeartbeat ..
      | _ => exact noReturn_askHeartbeat ..
    | replicate job accepted member rest =>
      refine returns_ok_of_noReturn ?_
      cases response with
      | replicate r =>
        simp only [OwnerElectionNode.answered]
        split_ifs
        · exact noReturn_stepDownAndFail ..
        · exact noReturn_event (noReturn_askReplicate ..) (by simp)
        · exact noReturn_askReplicate ..
      | _ => exact noReturn_askReplicate ..
    | publish job index member rest =>
      have heq : (c.hosts id).node.answered req.call (.publish job index member rest) response =
          (c.hosts id).node.askPublish job index rest := by
        cases response <;> rfl
      rw [heq] at hle hserves ⊢
      refine returns_ok_askPublish (fun hnil => ?_) (hserves _ _ _ hc)
      subst hnil
      cases haw
      refine Durable.mono hle (durable_of_acknowledged hw hC hid (hC.call _ _ _ _ hc).2 ?_)
      refine hcf _ ht (req.call, job) ?_
      simp [Cluster.finishes, hc]
    | forward ticket l =>
      cases response with
      | forward r =>
        simp only [OwnerElectionNode.answered] at hle hserves ⊢
        split_ifs at hle hserves ⊢ with hacc
        · refine returns_ok_returnOk ?_ (hserves _ _ _ hc)
          cases haw
          obtain ⟨rq, hsent, hdur⟩ := hR.packet _ ha hid hacc
          have hreq := hw.answers hc rfl hsent
          cases hreq
          exact hdur.mono hle
        · exact returns_ok_of_noReturn (noReturn_returnErr _)
      | _ => exact returns_ok_of_noReturn (noReturn_returnErr _)
    | _ => cases haw
  | fail req cl hc haw =>
    cases cl with
    | election now term highest votes member rest =>
      exact returns_ok_of_noReturn (noReturn_askVote ..)
    | heartbeat now request accepted member rest =>
      exact returns_ok_of_noReturn (noReturn_askHeartbeat ..)
    | replicate job accepted member rest =>
      exact returns_ok_of_noReturn (noReturn_askReplicate ..)
    | publish job index member rest =>
      refine returns_ok_askPublish (fun hnil => ?_) (hserves _ _ _ hc)
      subst hnil
      refine Durable.mono hle (durable_of_acknowledged hw hC hid (hC.call _ _ _ _ hc).2 ?_)
      refine hcf _ ht (req.call, job) ?_
      simp [Cluster.finishes, hc]
    | forward ticket l => exact returns_ok_of_noReturn (noReturn_returnErr _)
    | _ => cases haw
  | resume k s cl hc haw =>
    cases cl with
    | elected now term =>
      simp only [OwnerElectionNode.resumed]
      split
      · exact returns_ok_of_noReturn (noReturn_sendHeartbeat _)
      · exact returns_ok_of_noReturn (noReturn_silent rfl (by simp))
    | commit job =>
      exact returns_ok_commitJob (hw.membership id) (hw.owner id) hid
        (fun ev hev => Trace.mem_after_history.mpr (.inr ⟨ev, hev, rfl⟩)) (hserves _ _ _ hc)
    | steppedDown term l ticket => exact returns_ok_of_noReturn (noReturn_returnErr _)
    | replicated remote req r => exact returns_ok_of_noReturn (noReturn_answerReplication ..)
    | _ => cases haw

/-- The invariant of durability. -/
structure Replicating (m : OwnerMembership) (c : Cluster) : Prop where
  wired : Wired m c
  commits : (commits m).Inv c
  returns : (returns m).Inv c
  stored : Stored c

theorem Replicating.step {c : Cluster} (h : Replicating m c) {a : Action}
    (hcf : c.Confirmed m a) : Replicating m (c.step m a) where
  wired := h.wired.step a
  commits := commits_step h.wired h.commits a
  returns := Spec.inv_step (returns_mono m) h.wired h.returns a
    fun _ _ _ _ _ ht hid ha hp => returns_ok h.wired h.commits h.returns ht hid ha hp hcf
  stored := stored_step h.wired h.stored a

theorem boot_history {nows : P2pId → Timestamp} {x : P2pId} {ev : Event}
    (h : (x, ev) ∈ (Cluster.boot m nows).trace.history) : ev.isVote = true := by
  obtain ⟨y, -, hev⟩ := List.mem_flatMap.mp h
  split_ifs at hev
  · simp only [List.mem_cons, Prod.mk.injEq, List.not_mem_nil, or_false] at hev
    rcases hev with ⟨-, rfl⟩ | ⟨-, rfl⟩ <;> rfl
  · cases hev

theorem Replicating.boot (m : OwnerMembership) (nows : P2pId → Timestamp) :
    Replicating m (.boot m nows) where
  wired := .init m _ nows
  commits := commits_boot m nows
  returns :=
    { node := fun _ => trivial
      call := fun _ _ _ _ h => by cases h
      packet := fun _ h => by cases h
      event := fun id ev h => by
        have hv := boot_history h
        cases ev <;> trivial }
  stored := by
    intro x ev e h happ
    have hv := boot_history h
    cases ev <;> first
      | (cases hv; done)
      | cases happ

/-- **Commit durability.**  In every run in which `replicate_and_commit` ends only after enough
members acknowledged its second round, every entry for which it, or `commit_or_forward_session`
over any chain of forwards, returned `Ok` is in the logs of a quorum of members. -/
theorem commit_durable (m : OwnerMembership) (nows : P2pId → Timestamp) (as : List Action)
    (hcf : Along (Cluster.step m) (Cluster.Confirmed m) (.boot m nows) as)
    (id : P2pId) (e : OwnerSessionEntry) (index : Nat)
    (hret : (id, .returned e index) ∈
      (exec (Cluster.step m) (.boot m nows) as).trace.history) :
    m.quorumSize ≤ ((exec (Cluster.step m) (.boot m nows) as).holders m e).length := by
  have h := exec_inv (I := Replicating m) (fun c a h hC => h.step hC) (Replicating.boot m nows) hcf
  obtain ⟨s, hs, hq, hev⟩ := h.returns.event _ _ hret
  have hsub : s ⊆ ((exec (Cluster.step m) (.boot m nows) as).holders m e).toFinset := by
    intro x hx
    obtain ⟨ev, hmem, happ⟩ := hev x hx
    refine List.mem_toFinset.mpr (List.mem_filter.mpr ⟨List.mem_toFinset.mp (hs hx), ?_⟩)
    simpa using h.stored x ev e hmem happ
  calc m.quorumSize ≤ s.card := hq
    _ ≤ ((exec (Cluster.step m) (.boot m nows) as).holders m e).toFinset.card :=
      Finset.card_le_card hsub
    _ ≤ ((exec (Cluster.step m) (.boot m nows) as).holders m e).length :=
      List.toFinset_card_le _

/-- `[2]` applies the entry and acknowledges the second round before `[1]` returns. -/
def published : List Action :=
  committed ++ [.deliver 6 0, .resume [2] 2, .deliver 7 0, .fail [1] ⟨1, 5⟩]

theorem commit_durable_published :
    OwnerMembership.trio.quorumSize ≤ ((exec (Cluster.step .trio) (.boot .trio fun _ => 0)
      published).holders .trio (.revokeServingSession [9])).length :=
  commit_durable .trio (fun _ => 0) published (by decide +kernel) [1] (.revokeServingSession [9]) 1
    (by decide +kernel)

/-- Both requests of the second round are lost. -/
def unpublished : List Action := committed ++ [.fail [1] ⟨1, 4⟩, .fail [1] ⟨1, 5⟩]

/-- **A committed entry may be held by the leader alone**: the second round is lost, and the call
returns `Ok`. -/
theorem commit_lost :
    ¬ ∀ (m : OwnerMembership) (nows : P2pId → Timestamp) (as : List Action) (id : P2pId)
      (e : OwnerSessionEntry) (index : Nat),
      (id, .returned e index) ∈ (exec (Cluster.step m) (.boot m nows) as).trace.history →
      m.quorumSize ≤ ((exec (Cluster.step m) (.boot m nows) as).holders m e).length := by
  intro h
  have hq := h .trio (fun _ => 0) unpublished [1] (.revokeServingSession [9]) 1 (by decide +kernel)
  exact absurd hq (by decide +kernel)

end Durability

/-! ## Agreement of the logs -/

/-- The call, entry and index of a leader's append. -/
def Event.commit : Event → Option (Nat × OwnerSessionEntry × Nat)
  | .committed k e i => some (k, e, i)
  | _ => none

namespace Cluster

/-- The call that an input resumes. -/
def resumes (h : Host) : Input → Option Call
  | .resume k => (h.calls k).map (·.1)
  | _ => none

/-- A leader commits with a log that no member's exceeds; a follower appends a published entry as
the entry of the index at which the leader appended it. -/
def AppendsInOrder (m : OwnerMembership) (c : Cluster) (id : P2pId) : Call → Prop
  | .commit _ => ∀ x ∈ m.members, (c.hosts x).node.controlPlane.log.length ≤
      (c.hosts id).node.controlPlane.log.length
  | .replicated remote req r => r.committed = true → ∀ ev ∈ c.trace.history, ev.1 = remote →
      ∀ y ∈ ev.2.commit, y.1 = req.call →
        y.2.2 = (c.hosts id).node.controlPlane.log.length + 1
  | _ => True

instance (m : OwnerMembership) (c : Cluster) (id : P2pId) :
    (cl : Call) → Decidable (c.AppendsInOrder m id cl)
  | .commit _ => by unfold AppendsInOrder; infer_instance
  | .replicated _ _ _ => by unfold AppendsInOrder; infer_instance
  | .election .. | .elected .. | .heartbeat .. | .replicate .. | .publish .. | .forward ..
  | .steppedDown .. => isTrue trivial

def InOrder (m : OwnerMembership) (c : Cluster) (a : Action) : Prop :=
  ∀ x ∈ c.target m a, ∀ cl ∈ resumes (c.hosts x.1) x.2, c.AppendsInOrder m x.1 cl

instance (m : OwnerMembership) (c : Cluster) (a : Action) : Decidable (c.InOrder m a) := by
  unfold InOrder; infer_instance

end Cluster

section Agreement

variable {m : OwnerMembership} {c : Cluster}

/-- The members' logs are initial parts of one of them, `g`, which has every entry at the index at
which a leader appended it. -/
structure Agreed (m : OwnerMembership) (c : Cluster) (g : List OwnerSessionEntry) : Prop where
  part : ∀ x ∈ m.members, (c.hosts x).node.controlPlane.log <+: g
  whole : ∃ x ∈ m.members, (c.hosts x).node.controlPlane.log = g
  commits : ∀ x k e i, (x, .committed k e i) ∈ c.trace.history → ∃ j, i = j + 1 ∧ g[j]? = some e
  index : ∀ x, (c.hosts x).node.controlPlane.committedIndex =
    (c.hosts x).node.controlPlane.log.length

theorem Agreed.longest {g : List OwnerSessionEntry} (h : Agreed m c g) {id : P2pId}
    (hid : id ∈ m.members)
    (hmax : ∀ x ∈ m.members, (c.hosts x).node.controlPlane.log.length ≤
      (c.hosts id).node.controlPlane.log.length) : (c.hosts id).node.controlPlane.log = g := by
  obtain ⟨x, hx, rfl⟩ := h.whole
  exact (h.part id hid).eq_of_length_le (hmax x hx)

theorem prefix_concat {α : Type*} {l g : List α} {e : α} (h : l <+: g)
    (he : g[l.length]? = some e) : l ++ [e] <+: g := by
  obtain ⟨r, rfl⟩ := h
  cases r with
  | nil => simp at he
  | cons y r =>
    rw [List.getElem?_append_right le_rfl, Nat.sub_self, List.getElem?_cons_zero] at he
    cases he
    exact ⟨r, by simp⟩

theorem agreed_step (hw : Wired m c) (hC : (commits m).Inv c) {g : List OwnerSessionEntry}
    (hg : Agreed m c g) {a : Action} (ho : c.InOrder m a) :
    ∃ g', Agreed m (c.step m a) g' := by
  rcases c.step_cases m a hw.owner with heq | ⟨id, i, k, s, e, ht, hid, -, hp, heq⟩
  · rw [heq]
    exact ⟨g, hg⟩
  rw [heq]
  -- what is left to say once the new log of `id` and the events of the piece are known
  have hrest : ∀ g', (∀ x ∈ m.members, x ≠ id → (c.hosts x).node.controlPlane.log <+: g') →
      e.node.controlPlane.log <+: g' →
      (e.node.controlPlane.log = g' ∨
        ∃ x ∈ m.members, x ≠ id ∧ (c.hosts x).node.controlPlane.log = g') →
      (∀ x k e i, (x, .committed k e i) ∈ c.trace.history → ∃ j, i = j + 1 ∧ g'[j]? = some e) →
      (∀ k' e' i', .committed k' e' i' ∈ e.events → ∃ j, i' = j + 1 ∧ g'[j]? = some e') →
      e.node.controlPlane.committedIndex = e.node.controlPlane.log.length →
      Agreed m ⟨Function.update c.hosts id ((c.hosts id).perform k s e).1,
        c.trace.after id k s e⟩ g' := by
    intro g' hothers hown hwhole hold hnew hidx
    refine ⟨?_, ?_, ?_, ?_⟩
    · exact (Function.forall_update_iff c.hosts fun x h => x ∈ m.members →
        h.node.controlPlane.log <+: g').mpr ⟨fun _ => hown, fun x hx hm => hothers x hm hx⟩
    · rcases hwhole with h | ⟨x, hx, hne, h⟩
      · exact ⟨id, hid, by dsimp only; rwa [Function.update_self]⟩
      · exact ⟨x, hx, by dsimp only; rwa [Function.update_of_ne hne]⟩
    · intro x k' e' i' hev
      rcases Trace.mem_after_history.mp hev with hev | ⟨ev, hev, hx⟩
      · exact hold x k' e' i' hev
      · cases hx
        exact hnew k' e' i' hev
    · exact (Function.forall_update_iff c.hosts fun _ h => h.node.controlPlane.committedIndex =
        h.node.controlPlane.log.length).mpr ⟨hidx, fun x _ => hg.index x⟩
  cases hp.logs with
  | quiet hq =>
    refine ⟨g, hrest g (fun x hx _ => hg.part x hx) (hq.log ▸ hg.part id hid) ?_ hg.commits ?_ ?_⟩
    · obtain ⟨x, hx, h⟩ := hg.whole
      by_cases hxid : x = id
      · subst hxid
        exact .inl (hq.log.trans h)
      · exact .inr ⟨x, hx, hxid, h⟩
    · intro k' e' i' hev
      cases hq.events _ hev
    · rw [hq.index, hq.log, hg.index]
  | commit job hi hc happ =>
    subst hi
    have hlog := hg.longest hid (ho _ ht (.commit job) (by simp [Cluster.resumes, hc]))
    have hext : g <+: g ++ [job.entry] := List.prefix_append ..
    refine ⟨g ++ [job.entry], hrest _ (fun x hx _ => (hg.part x hx).trans hext) ?_ (.inl ?_) ?_ ?_ ?_⟩
    · rw [happ.log, hlog]
    · rw [happ.log, hlog]
    · intro x k' e' i' hev
      obtain ⟨j, hj, hgj⟩ := hg.commits x k' e' i' hev
      have hlt : j < g.length := (List.getElem?_eq_some_iff.mp hgj).1
      exact ⟨j, hj, by rw [List.getElem?_append_left hlt, hgj]⟩
    · intro k' e' i' hev
      cases happ.only _ hev (by simp [Event.appended])
      refine ⟨_, rfl, ?_⟩
      rw [hlog, List.getElem?_append_right le_rfl, Nat.sub_self, List.getElem?_cons_zero]
    · rw [happ.index, happ.log, List.length_append, List.length_singleton]
  | apply remote req r hi hc hr happ =>
    subst hi
    -- the entry was published, and its index in the leader's log is the next one here
    obtain ⟨-, index, hev⟩ := hC.call _ _ _ _ hc hr
    have hidx : index = (c.hosts id).node.controlPlane.log.length + 1 :=
      ho _ ht (.replicated remote req r) (by simp [Cluster.resumes, hc]) hr _ hev rfl _ rfl rfl
    obtain ⟨j, hj, hgj⟩ := hg.commits _ _ _ _ hev
    have hnext : g[(c.hosts id).node.controlPlane.log.length]? = some r.entry := by
      rwa [show (c.hosts id).node.controlPlane.log.length = j by omega]
    refine ⟨g, hrest g (fun x hx _ => hg.part x hx) ?_ (.inr ?_) hg.commits ?_ ?_⟩
    · rw [happ.log]
      exact prefix_concat (hg.part id hid) hnext
    · obtain ⟨x, hx, h⟩ := hg.whole
      refine ⟨x, hx, ?_, h⟩
      rintro rfl
      rw [h] at hnext
      simp at hnext
    · intro k' e' i' hev'
      cases happ.only _ hev' (by simp [Event.appended])
    · rw [happ.index, happ.log, List.length_append, List.length_singleton]

theorem agreed_boot (m : OwnerMembership) (nows : P2pId → Timestamp) :
    Agreed m (.boot m nows) [] where
  part _ _ := List.prefix_refl _
  whole := by
    obtain ⟨x, hx⟩ := List.exists_mem_of_ne_nil _ m.ne_nil
    exact ⟨x, hx, rfl⟩
  commits _ _ _ _ h := by cases boot_history h
  index _ := rfl

/-- **Committed-log agreement.**  In every run in which followers append published entries at the
leader's index and leaders commit with the longest log, the logs of two members hold the same entry
at every position that both have committed. -/
theorem logs_agree (m : OwnerMembership) (nows : P2pId → Timestamp) (as : List Action)
    (ho : Along (Cluster.step m) (Cluster.InOrder m) (.boot m nows) as)
    (a b : P2pId) (ha : a ∈ m.members) (hb : b ∈ m.members) (i : Nat)
    (hia : i < ((exec (Cluster.step m) (.boot m nows) as).hosts a).node.controlPlane.committedIndex)
    (hib : i < ((exec (Cluster.step m) (.boot m nows) as).hosts b).node.controlPlane.committedIndex) :
    ∃ e, ((exec (Cluster.step m) (.boot m nows) as).hosts a).node.controlPlane.log[i]? = some e ∧
      ((exec (Cluster.step m) (.boot m nows) as).hosts b).node.controlPlane.log[i]? = some e := by
  have hboot : Wired m (.boot m nows) ∧ (commits m).Inv (.boot m nows) ∧
      ∃ g, Agreed m (.boot m nows) g :=
    ⟨.init m _ nows, commits_boot m nows, [], agreed_boot m nows⟩
  obtain ⟨-, -, g, hg⟩ := exec_inv
    (I := fun c => Wired m c ∧ (commits m).Inv c ∧ ∃ g, Agreed m c g)
    (fun c a ⟨hw, hC, g, hg⟩ hO => ⟨hw.step a, commits_step hw hC a, agreed_step hw hC hg hO⟩)
    hboot ho
  rw [hg.index] at hia hib
  refine ⟨_, List.getElem?_eq_getElem hia, ?_⟩
  rw [List.getElem?_eq_getElem hib, (hg.part a ha).getElem hia, (hg.part b hb).getElem hib]

/-- `[2]` holds the entry at the index at which `[1]` committed it. -/
theorem logs_agree_published :
    ∃ e, ((exec (Cluster.step .trio) (.boot .trio fun _ => 0) published).hosts
        [1]).node.controlPlane.log[0]? = some e ∧
      ((exec (Cluster.step .trio) (.boot .trio fun _ => 0) published).hosts
        [2]).node.controlPlane.log[0]? = some e :=
  logs_agree .trio (fun _ => 0) published (by decide +kernel) [1] [2] (by decide) (by decide) 0
    (by decide +kernel) (by decide +kernel)

/-- The second round of the first entry does not reach `[2]`, that of a second entry does. -/
def skipped : List Action :=
  unpublished ++ [.submit [1] (.revokeServingSession [8]) 0, .deliver 8 0, .resume [2] 2,
    .deliver 9 0, .fail [1] ⟨2, 2⟩, .resume [1] 2, .deliver 11 0, .resume [2] 3]

/-- **Two members may differ at an index that both have committed.** -/
theorem logs_differ :
    ¬ ∀ (m : OwnerMembership) (nows : P2pId → Timestamp) (as : List Action) (a b : P2pId),
      a ∈ m.members → b ∈ m.members → ∀ i : Nat,
      i < ((exec (Cluster.step m) (.boot m nows) as).hosts a).node.controlPlane.committedIndex →
      i < ((exec (Cluster.step m) (.boot m nows) as).hosts b).node.controlPlane.committedIndex →
      ∃ e, ((exec (Cluster.step m) (.boot m nows) as).hosts a).node.controlPlane.log[i]? = some e ∧
        ((exec (Cluster.step m) (.boot m nows) as).hosts b).node.controlPlane.log[i]? = some e := by
  intro h
  obtain ⟨e, ha, hb⟩ := h .trio (fun _ => 0) skipped [1] [2] (by decide +kernel) (by decide +kernel) 0 (by decide +kernel)
    (by decide +kernel)
  exact absurd (ha.trans hb.symm) (by decide +kernel)

end Agreement

end BuckyP2p.Directory
