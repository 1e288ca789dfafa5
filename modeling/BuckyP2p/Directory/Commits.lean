import Mathlib.Data.Finset.Card
import BuckyP2p.Directory.Cluster

/-!
# BuckyP2p.Directory.Commits — where the entries of the logs come from

`commit_or_forward_session` carries an entry over any number of forwards to a leader, which asks for
acknowledgements (first round), appends the entry to its own log and publishes it (second round); a
follower appends what is published to it.

* `commits`: the assertion that follows an entry through calls and packets.
* `Chosen`: a leader collected acknowledgements of the first round from a quorum.
* `commit_valid`: every entry of every log was submitted to a member and chosen, and requests from
  outside, or under another owner's name, change nothing.
-/

namespace BuckyP2p.Directory

open Lib

/-- A caller submitted `e` to some member. -/
def Submitted (m : OwnerMembership) (t : Trace) (e : OwnerSessionEntry) : Prop :=
  ∃ id ∈ m.members, (id, .submitted e) ∈ t.history

/-- The leader `l` of `term` got an acknowledgement of the first round for `e` from `a`, of a term
that is not above its own. -/
def Accepted (t : Trace) (l : P2pId) (call : Nat) (term : U64) (e : OwnerSessionEntry)
    (a : P2pId) : Prop :=
  ∃ seq now r, ⟨l, a, ⟨call, seq⟩, .request (.replicate ⟨term, l, e, now, false⟩)⟩ ∈ t.sent ∧
    ⟨a, l, ⟨call, seq⟩, .response (.replicate r)⟩ ∈ t.sent ∧ r.accepted = true ∧ r.term ≤ term ∧
    (l, .acked call a r.term) ∈ t.history

/-- A leader of some term proposed `e` in that term and collected acknowledgements from enough
other members to reach the quorum with itself. -/
def Chosen (m : OwnerMembership) (t : Trace) (e : OwnerSessionEntry) : Prop :=
  ∃ l ∈ m.members, ∃ call term, (l, .led term) ∈ t.history ∧
    (l, .proposed call term e) ∈ t.history ∧
    ∃ s : Finset P2pId, s ⊆ m.members.toFinset.erase l ∧ m.quorumSize ≤ s.card + 1 ∧
      ∀ a ∈ s, Accepted t l call term e a

section Assertion

/-- The job was proposed by the leader of its term, for a submitted entry. -/
structure Proposal (m : OwnerMembership) (t : Trace) (id : P2pId) (k : Nat) (job : Job) :
    Prop where
  leader : job.leaderId = id
  led : (id, .led job.term) ∈ t.history
  proposed : (id, .proposed k job.term job.entry) ∈ t.history
  submitted : Submitted m t job.entry

/-- The first round of a job that has still to ask `l`. -/
structure Polling (m : OwnerMembership) (t : Trace) (id : P2pId) (k : Nat) (job : Job)
    (accepted : Nat) (l : List P2pId) : Prop where
  nodup : l.Nodup
  subset : ∀ x ∈ l, x ∈ m.members.toFinset.erase id
  ackers : ∃ s : Finset P2pId, s ⊆ m.members.toFinset.erase id ∧ accepted ≤ s.card + 1 ∧
    (∀ a ∈ s, Accepted t id k job.term job.entry a) ∧ ∀ x ∈ l, x ∉ s

/-- The request `req` of `src` publishes `e`, which was chosen and which `src` has appended. -/
def Published (m : OwnerMembership) (t : Trace) (src : P2pId) (call : Nat)
    (e : OwnerSessionEntry) : Prop :=
  (Submitted m t e ∧ Chosen m t e) ∧ ∃ index, (src, .committed call e index) ∈ t.history

def commits (m : OwnerMembership) : Spec where
  node t _ n := ∀ e ∈ n.controlPlane.log, Submitted m t e ∧ Chosen m t e
  call t id k c :=
    match c with
    | .replicate job accepted member rest =>
      Proposal m t id k job ∧ Polling m t id k job accepted (member :: rest)
    | .commit job => Proposal m t id k job ∧ Chosen m t job.entry
    | .publish job index _ _ =>
      Published m t id k job.entry ∧ (id, .committed k job.entry index) ∈ t.history
    | .forward ticket _ => Submitted m t ticket.entry
    | .replicated remote req r => r.committed = true → Published m t remote req.call r.entry
    | _ => True
  packet t p :=
    match p.body with
    | .request (.replicate r) => r.committed = true → Published m t p.src p.req.call r.entry
    | .request (.forward r) => Submitted m t r.entry
    | .response (.replicate r) => p.dst ∈ m.members → r.accepted = true →
      ∃ rq, ⟨p.dst, p.src, p.req, .request (.replicate rq)⟩ ∈ t.sent ∧
        (rq.committed = true → (p.src, .applied p.dst p.req rq.entry) ∈ t.history)
    | _ => True
  event _ _ _ := True

variable {m : OwnerMembership} {t t' : Trace} {id : P2pId} {k s : Nat}

theorem Submitted.mono {e : OwnerSessionEntry} (hle : t.Le t') (h : Submitted m t e) :
    Submitted m t' e := by
  obtain ⟨x, hx, hev⟩ := h
  exact ⟨x, hx, hle.2 hev⟩

theorem Accepted.mono {l a : P2pId} {call : Nat} {term : U64} {e : OwnerSessionEntry}
    (hle : t.Le t') (h : Accepted t l call term e a) : Accepted t' l call term e a := by
  obtain ⟨seq, now, r, h1, h2, h3, h4, h5⟩ := h
  exact ⟨seq, now, r, hle.1 h1, hle.1 h2, h3, h4, hle.2 h5⟩

theorem Chosen.mono {e : OwnerSessionEntry} (hle : t.Le t') (h : Chosen m t e) :
    Chosen m t' e := by
  obtain ⟨l, hl, call, term, hled, hprop, s, hs, hq, ha⟩ := h
  exact ⟨l, hl, call, term, hle.2 hled, hle.2 hprop, s, hs, hq, fun a h => (ha a h).mono hle⟩

theorem Proposal.mono {job : Job} (hle : t.Le t') (h : Proposal m t id k job) :
    Proposal m t' id k job :=
  ⟨h.leader, hle.2 h.led, hle.2 h.proposed, h.submitted.mono hle⟩

theorem Polling.mono {job : Job} {n : Nat} {l : List P2pId} (hle : t.Le t')
    (h : Polling m t id k job n l) : Polling m t' id k job n l := by
  obtain ⟨s, hs, hn, ha, hl⟩ := h.ackers
  exact ⟨h.nodup, h.subset, s, hs, hn, fun a h => (ha a h).mono hle, hl⟩

theorem Published.mono {src : P2pId} {call : Nat} {e : OwnerSessionEntry} (hle : t.Le t')
    (h : Published m t src call e) : Published m t' src call e := by
  obtain ⟨⟨hsub, hch⟩, index, hev⟩ := h
  exact ⟨⟨hsub.mono hle, hch.mono hle⟩, index, hle.2 hev⟩

theorem commits_mono (m : OwnerMembership) : (commits m).Mono where
  node hle _ _ h e he := ⟨(h e he).1.mono hle, (h e he).2.mono hle⟩
  call {t t'} hle id k c h := by
    cases c with
    | replicate job accepted member rest => exact ⟨h.1.mono hle, h.2.mono hle⟩
    | commit job => exact ⟨h.1.mono hle, h.2.mono hle⟩
    | publish job index member rest => exact ⟨h.1.mono hle, hle.2 h.2⟩
    | forward ticket l => exact Submitted.mono hle h
    | replicated remote req r => exact fun hc => (h hc).mono hle
    | _ => trivial
  packet {t t'} hle p h := by
    obtain ⟨src, dst, req, body⟩ := p
    cases body with
    | request r =>
      cases r with
      | replicate r => exact fun hc => (h hc).mono hle
      | forward r => exact Submitted.mono hle h
      | _ => trivial
    | response r =>
      cases r with
      | replicate r =>
        intro hd ha
        obtain ⟨rq, hsent, happ⟩ := h hd ha
        exact ⟨rq, hle.1 hsent, fun hc => hle.2 (happ hc)⟩
      | _ => trivial
  event _ _ _ _ := trivial

end Assertion

/-! ## What the pieces owe -/

section Pieces

open OwnerElectionNode

variable {m : OwnerMembership} {t : Trace} {id : P2pId} {k s : Nat} {n : OwnerElectionNode}

theorem commits_ok_call {c : Call} (hn : (commits m).node t id n) (hc : (commits m).call t id k c)
    (hr : ∀ dst r, c.request id = some (dst, r) →
      (commits m).packet t ⟨id, dst, ⟨k, s + 1⟩, .request r⟩) :
    (commits m).Ok t id k s { node := n, call := some c } where
  node := hn
  call c' h := by cases h; exact hc
  request c' h dst r hreq := by cases h; exact hr dst r hreq
  reply _ _ _ h := by cases h
  event _ h := by cases h

theorem commits_ok_node (hn : (commits m).node t id n) :
    (commits m).Ok t id k s { node := n } := by
  refine ⟨hn, ?_, ?_, ?_, ?_⟩ <;> intros <;> contradiction

theorem commits_ok_events {e : Effect} (h : (commits m).Ok t id k s e) (evs : List Event) :
    (commits m).Ok t id k s { e with events := evs } :=
  ⟨h.node, h.call, h.request, h.reply, fun _ _ => trivial⟩

/-- An answer that acknowledges nothing. -/
theorem commits_ok_reply {dst : P2pId} {req : ReqId} {r : Response} {evs : List Event}
    (hn : (commits m).node t id n)
    (hr : (commits m).packet t ⟨id, dst, req, .response r⟩) :
    (commits m).Ok t id k s { node := n, reply := some (dst, req, r), events := evs } where
  node := hn
  call _ h := by cases h
  request _ h := by cases h
  reply _ _ _ h := by cases h; exact hr
  event _ _ := trivial

theorem commits_ok_returnOk (ticket : Ticket) (index : Nat) (hn : (commits m).node t id n) :
    (commits m).Ok t id k s (n.returnOk ticket index) := by
  unfold returnOk
  split
  · exact commits_ok_events (commits_ok_node hn) _
  · exact commits_ok_reply hn trivial

theorem commits_ok_returnErr (ticket : Option Ticket) (hn : (commits m).node t id n) :
    (commits m).Ok t id k s (n.returnErr ticket) := by
  unfold returnErr
  split
  · exact commits_ok_reply hn trivial
  · exact commits_ok_node hn

theorem commits_ok_stepDownAndFail (term : U64) (l : Option P2pId) (now : Timestamp)
    (ticket : Option Ticket) (hn : (commits m).node t id n) :
    (commits m).Ok t id k s (n.stepDownAndFail term l now ticket) := by
  cases l with
  | none => exact commits_ok_returnErr _ hn
  | some l => exact commits_ok_call hn trivial fun _ _ h => by cases h

theorem commits_ok_askVote (now : Timestamp) (term highest : U64) (votes : Nat) (l : List P2pId)
    (hn : (commits m).node t id n) :
    (commits m).Ok t id k s (n.askVote now term highest votes l) := by
  cases l with
  | cons x rest => exact commits_ok_call hn trivial fun _ _ h => by cases h; trivial
  | nil =>
    unfold askVote
    dsimp only
    split_ifs
    · exact commits_ok_events
        (e := { node := n.becomeLeader term now, call := some (.elected now term) })
        (commits_ok_call hn trivial fun _ _ h => by cases h) _
    · exact commits_ok_node hn

theorem commits_ok_askHeartbeat (now : Timestamp) (request : OwnerHeartbeatRequest)
    (accepted : Nat) (l : List P2pId) (hn : (commits m).node t id n) :
    (commits m).Ok t id k s (n.askHeartbeat now request accepted l) := by
  cases l with
  | cons x rest => exact commits_ok_call hn trivial fun _ _ h => by cases h; trivial
  | nil => exact commits_ok_node hn

theorem commits_ok_sendHeartbeat (now : Timestamp) (hn : (commits m).node t id n) :
    (commits m).Ok t id k s (n.sendHeartbeat now) := by
  unfold sendHeartbeat
  split
  · exact commits_ok_askHeartbeat _ _ _ _ hn
  · exact commits_ok_node hn

/-- The end of a first round that reached the quorum. -/
theorem Polling.chosen {job : Job} {accepted : Nat} (hid : id ∈ m.members)
    (hprop : Proposal m t id k job) (hpoll : Polling m t id k job accepted [])
    (hq : m.quorumSize ≤ accepted) : Chosen m t job.entry := by
  obtain ⟨s, hs, hn, ha, -⟩ := hpoll.ackers
  exact ⟨id, hid, k, job.term, hprop.led, hprop.proposed, s, hs, hq.trans hn, ha⟩

theorem commits_ok_askReplicate {job : Job} {accepted : Nat} {l : List P2pId}
    (hn : (commits m).node t id n) (hm : n.membership = m) (hid : id ∈ m.members)
    (hprop : Proposal m t id k job) (hpoll : Polling m t id k job accepted l) :
    (commits m).Ok t id k s (n.askReplicate job accepted l) := by
  cases l with
  | cons x rest =>
    refine commits_ok_call hn ⟨hprop, hpoll⟩ fun dst r h => ?_
    cases h
    -- a request of the first round publishes nothing
    exact fun hc => by cases hc
  | nil =>
    unfold askReplicate
    dsimp only
    split_ifs with hq
    · exact commits_ok_returnErr _ hn
    · refine commits_ok_call hn ⟨hprop, hpoll.chosen hid hprop ?_⟩ fun _ _ h => by cases h
      rw [← hm]
      exact not_lt.mp hq

theorem commits_ok_askPublish {job : Job} {index : Nat} {l : List P2pId}
    (hn : (commits m).node t id n) (hpub : Published m t id k job.entry)
    (hev : (id, .committed k job.entry index) ∈ t.history) :
    (commits m).Ok t id k s (n.askPublish job index l) := by
  cases l with
  | cons x rest =>
    refine commits_ok_call hn ⟨hpub, hev⟩ fun dst r h => ?_
    cases h
    exact fun _ => hpub
  | nil => exact commits_ok_returnOk _ _ hn

/-- One answer to a first round: an acknowledgement is one more member, which is not asked again. -/
theorem Polling.answered {job : Job} {n : Nat} {x : P2pId} {rest : List P2pId}
    (hpoll : Polling m t id k job n (x :: rest)) (accepted : Bool)
    (ha : accepted = true → Accepted t id k job.term job.entry x) :
    Polling m t id k job (if accepted then n + 1 else n) rest := by
  obtain ⟨s, hs, hn, hacc, hl⟩ := hpoll.ackers
  have hnd := List.nodup_cons.mp hpoll.nodup
  have hsub := fun y hy => hpoll.subset y (List.mem_cons_of_mem x hy)
  by_cases hgr : accepted = true
  · have hx : x ∉ s := hl x List.mem_cons_self
    refine ⟨hnd.2, hsub, insert x s, ?_, ?_, ?_, ?_⟩
    · exact Finset.insert_subset (hpoll.subset x List.mem_cons_self) hs
    · rw [if_pos hgr, Finset.card_insert_of_notMem hx]
      omega
    · intro y hy
      rcases Finset.mem_insert.mp hy with rfl | hy
      · exact ha hgr
      · exact hacc y hy
    · intro y hy hys
      rcases Finset.mem_insert.mp hys with rfl | hys
      · exact hnd.1 hy
      · exact hl y (List.mem_cons_of_mem _ hy) hys
  · rw [if_neg hgr]
    exact ⟨hnd.2, hsub, s, hs, hn, hacc, fun y hy => hl y (List.mem_cons_of_mem _ hy)⟩

/-- An answer of the first round that the call does not step down for. -/
theorem commits_ok_acked {job : Job} {accepted seq : Nat} {x : P2pId} {rest : List P2pId}
    {r : OwnerSessionReplicationResponse} (hn : (commits m).node t id n) (hm : n.membership = m)
    (hid : id ∈ m.members) (hprop : Proposal m t id k job)
    (hpoll : Polling m t id k job accepted (x :: rest)) (hlt : ¬ job.term < r.term)
    (hreq : ⟨id, x, ⟨k, seq⟩, .request (.replicate ⟨job.term, id, job.entry, job.now, false⟩)⟩ ∈
      t.sent)
    (hresp : ⟨x, id, ⟨k, seq⟩, .response (.replicate r)⟩ ∈ t.sent)
    (hev : ∀ ev ∈ (n.answered k (.replicate job accepted x rest) (.replicate r)).events,
      (id, ev) ∈ t.history) :
    (commits m).Ok t id k s (n.answered k (.replicate job accepted x rest) (.replicate r)) := by
  simp only [answered, if_neg hlt] at hev ⊢
  by_cases hacc : r.accepted = true
  · simp only [hacc, if_true] at hev ⊢
    have hack : Accepted t id k job.term job.entry x :=
      ⟨seq, job.now, r, hreq, hresp, hacc, not_lt.mp hlt, hev _ List.mem_cons_self⟩
    have hpoll' := hpoll.answered true fun _ => hack
    exact commits_ok_events (commits_ok_askReplicate hn hm hid hprop hpoll') _
  · simp only [hacc]
    exact commits_ok_askReplicate hn hm hid hprop (hpoll.answered false (by simp))

theorem polling_open {job : Job} (hm : n.membership = m) (ho : n.localOwnerId = id) :
    Polling m t id k job 1 n.remoteMembers := by
  refine ⟨n.membership.nodup.filter _, ?_, ∅, Finset.empty_subset _, le_rfl, ?_, ?_⟩
  · intro x hx
    have hmem := List.mem_filter.mp hx
    rw [hm, ho] at hmem
    exact Finset.mem_erase.mpr ⟨by simpa using hmem.2, List.mem_toFinset.mpr hmem.1⟩
  · intro a ha
    cases ha
  · intro x _ hx
    cases hx

/-- A leader proposes a submitted entry, any other node passes it on. -/
theorem commits_ok_commitOrForwardSession {ticket : Ticket} (hn : (commits m).node t id n)
    (hm : n.membership = m) (ho : n.localOwnerId = id) (hid : id ∈ m.members)
    (hled : n.state.role = .leader → (id, .led n.state.currentTerm) ∈ t.history)
    (hsub : Submitted m t ticket.entry)
    (hev : ∀ ev ∈ (n.commitOrForwardSession k ticket).events, (id, ev) ∈ t.history) :
    (commits m).Ok t id k s (n.commitOrForwardSession k ticket) := by
  unfold commitOrForwardSession replicateAndCommit requireLeader at hev ⊢
  by_cases hl : n.state.role = .leader
  · simp only [hl, if_true] at hev ⊢
    refine commits_ok_events (commits_ok_askReplicate hn hm hid ?_ (polling_open hm ho)) _
    exact ⟨ho, hled hl, hev _ List.mem_cons_self, hsub⟩
  · simp only [hl, if_false] at hev ⊢
    split
    · exact commits_ok_returnErr _ hn
    · exact commits_ok_call hn hsub fun _ _ h => by cases h; exact hsub

/-- The control plane of a follower after a heartbeat has the log it had. -/
theorem commits_node_follow {l : P2pId} {term : U64} {now : Timestamp}
    (hn : (commits m).node t id n) : (commits m).node t id (n.follow l term now) := by
  intro e he
  rw [follow, noteLeader_log] at he
  exact hn e he

theorem commits_ok_failed {c : Call} (hn : (commits m).node t id n) (hm : n.membership = m)
    (hid : id ∈ m.members) (hc : (commits m).call t id k c) (haw : c.awaits.isSome = true) :
    (commits m).Ok t id k s (n.failed c) := by
  cases c with
  | election now term highest votes member rest => exact commits_ok_askVote _ _ _ _ _ hn
  | heartbeat now request accepted member rest => exact commits_ok_askHeartbeat _ _ _ _ hn
  | replicate job accepted member rest =>
    exact commits_ok_askReplicate hn hm hid hc.1 (hc.2.answered false (by simp))
  | publish job index member rest => exact commits_ok_askPublish hn hc.1 hc.2
  | forward ticket l => exact commits_ok_returnErr _ hn
  | _ => cases haw

/-- The second round begins with the leader's own append. -/
theorem commits_ok_commitJob {job : Job} (hn : (commits m).node t id n)
    (hprop : Proposal m t id k job) (hch : Chosen m t job.entry)
    (hev : ∀ ev ∈ (n.commitJob k job).events, (id, ev) ∈ t.history) :
    (commits m).Ok t id k s (n.commitJob k job) := by
  unfold commitJob at hev ⊢
  cases happ : n.controlPlane.applyCommittedSessionEntry n.membership job.leaderId job.term
      job.entry job.now with
  | ok p =>
    obtain ⟨cp, index⟩ := p
    simp only [happ] at hev ⊢
    obtain ⟨-, hlog, -, -⟩ := OwnerControlPlane.applyCommittedSessionEntry_log happ
    have hcom := hev _ List.mem_cons_self
    have hnode : (commits m).node t id { n with controlPlane := cp } := by
      intro e he
      simp only [hlog] at he
      rcases List.mem_append.mp he with he | he
      · exact hn e he
      · rw [List.mem_singleton.mp he]
        exact ⟨hprop.submitted, hch⟩
    exact commits_ok_events
      (commits_ok_askPublish hnode ⟨⟨hprop.submitted, hch⟩, index, hcom⟩ hcom) _
  | error err => exact commits_ok_returnErr _ hn

/-- A follower appends what was published, and acknowledges the request that it serves. -/
theorem commits_ok_answerReplication {remote : P2pId} {req : ReqId} {r : OwnerSessionReplication}
    (hn : (commits m).node t id n)
    (hpub : r.committed = true → Published m t remote req.call r.entry)
    (hsent : ⟨remote, id, req, .request (.replicate r)⟩ ∈ t.sent)
    (hev : ∀ ev ∈ (n.answerReplication remote req r).events, (id, ev) ∈ t.history) :
    (commits m).Ok t id k s (n.answerReplication remote req r) := by
  unfold answerReplication at hev ⊢
  by_cases hc : r.committed = true
  · simp only [hc, Bool.not_true, Bool.false_eq_true, if_false] at hev ⊢
    cases happ : n.controlPlane.applyCommittedSessionEntry n.membership r.leaderId r.term r.entry
        r.now with
    | ok p =>
      obtain ⟨cp, index⟩ := p
      simp only [happ] at hev ⊢
      obtain ⟨-, hlog, -, -⟩ := OwnerControlPlane.applyCommittedSessionEntry_log happ
      refine commits_ok_reply ?_ fun _ _ => ⟨r, hsent, fun _ => hev _ List.mem_cons_self⟩
      intro e he
      simp only [hlog] at he
      rcases List.mem_append.mp he with he | he
      · exact hn e he
      · rw [List.mem_singleton.mp he]
        exact (hpub hc).1
    | error err => exact commits_ok_reply hn fun _ h => by cases h
  · simp only [hc]
    exact commits_ok_reply hn fun _ _ => ⟨r, hsent, fun h => absurd h hc⟩

/-- Every piece keeps the assertion. -/
theorem commits_ok {c : Cluster} (hw : Wired m c) (hI : (commits m).Inv c) {i : Input}
    {e : Effect} (hid : id ∈ m.members) (ha : Arises m c.trace id i)
    (hp : Host.Piece (c.hosts id) i k s e) :
    (commits m).Ok (c.trace.after id k s e) id k s e := by
  have hle : c.trace.Le (c.trace.after id k s e) := Trace.le_after
  have hn := (commits_mono m).node hle (hI.node id)
  have hm := hw.membership id
  have ho := hw.owner id
  have hled : (c.hosts id).node.state.role = .leader →
      (id, .led (c.hosts id).node.state.currentTerm) ∈ (c.trace.after id k s e).history :=
    fun h => hle.2 (hw.led id h)
  have hev : ∀ ev ∈ e.events, (id, ev) ∈ (c.trace.after id k s e).history :=
    fun ev h => Trace.mem_after_history.mpr (.inr ⟨ev, h, rfl⟩)
  cases hp with
  | startElection now =>
    exact commits_ok_events
      (commits_ok_askVote (n := (c.hosts id).node.openElection now) _ _ _ _ _ hn) _
  | sendHeartbeat now => exact commits_ok_sendHeartbeat now hn
  | submit entry now =>
    refine commits_ok_events (commits_ok_commitOrForwardSession hn hm ho hid hled ?_ ?_) _
    · exact ⟨id, hid, hev _ List.mem_cons_self⟩
    · exact fun ev h => hev ev (List.mem_cons_of_mem _ h)
  | vote remote req request now =>
    refine commits_ok_reply ?_ trivial
    by_cases hg : (c.hosts id).node.Grants remote request
    · rw [receiveVoteRequest_grants now hg]
      exact hn
    · rw [receiveVoteRequest_denies now hg]
      exact hn
  | heartbeat remote req request now =>
    refine commits_ok_reply ?_ trivial
    by_cases hacc : (c.hosts id).node.Accepts remote request.leaderId request.term
    · rw [receiveHeartbeat_accepts now hacc]
      exact commits_node_follow hn
    · rw [receiveHeartbeat_rejects now hacc]
      exact hn
  | replicate remote req request now =>
    by_cases hacc : (c.hosts id).node.Accepts remote request.leaderId request.term
    · rw [receiveSessionReplication_accepts req now hacc] at hn hle ⊢
      refine commits_ok_call (commits_node_follow hn) (fun hc => ?_) fun _ _ h => by cases h
      have hsent := ha.resolve_right (not_not.mpr (hm ▸ hacc.1))
      exact Published.mono hle (hI.packet _ hsent hc)
    · rw [receiveSessionReplication_rejects req now hacc] at hn hle ⊢
      exact commits_ok_reply hn fun _ h => by cases h
  | forward remote req request now =>
    unfold receiveSessionForward at hn hle hled hev ⊢
    dsimp only at hn hle hled hev ⊢
    split_ifs at hn hle hled hev ⊢ with hmem
    · exact commits_ok_returnErr _ hn
    · refine commits_ok_commitOrForwardSession hn hm ho hid hled ?_ hev
      have hrem : remote ∈ m.members := by
        rw [hm] at hmem
        simpa using hmem
      exact Submitted.mono hle (hI.packet _ (ha.resolve_right (not_not.mpr hrem)))
  | answer remote req response cl hc haw =>
    have hcl : (commits m).call (c.trace.after id req.call req.seq _) id req.call cl :=
      (commits_mono m).call hle (hI.call _ _ _ _ hc)
    cases ho' : cl.outrankedBy response with
    | some p =>
      obtain ⟨now', ticket, heq⟩ :=
        answered_outranked (c.hosts id).node req.call ho'
      rw [heq] at hn ⊢
      exact commits_ok_stepDownAndFail _ _ _ _ hn
    | none =>
      have hfail := commits_ok_failed (s := req.seq) hn hm hid hcl (by rw [haw]; rfl)
      cases cl with
      | election now term highest votes member rest =>
        obtain ⟨highest', votes', heq, -⟩ :=
          answered_election (c.hosts id).node req.call ho'
        rw [heq] at hn ⊢
        exact commits_ok_askVote _ _ _ _ _ hn
      | heartbeat now request accepted member rest =>
        cases response with
        | heartbeat r =>
          have hlt : ¬ request.term < r.term := (ite_eq_right_iff.mp ho').mt (by simp)
          simp only [answered, if_neg hlt] at hn ⊢
          exact commits_ok_askHeartbeat _ _ _ _ hn
        | _ => exact hfail
      | replicate job accepted member rest =>
        cases response with
        | replicate r =>
          cases haw
          refine commits_ok_acked hn hm hid hcl.1 hcl.2 ((ite_eq_right_iff.mp ho').mt (by simp)) ?_
            (hle.1 ha) hev
          have hasked := hw.asked _ _ _ _ hc _ _ rfl
          rw [Job.replication, hcl.1.leader] at hasked
          exact hle.1 hasked
        | _ => exact hfail
      | publish job index member rest =>
        cases response with
        | replicate r => exact commits_ok_askPublish hn hcl.1 hcl.2
        | _ => exact hfail
      | forward ticket l =>
        cases response with
        | forward r =>
          simp only [answered] at hn ⊢
          split_ifs at hn ⊢
          · exact commits_ok_returnOk _ _ hn
          · exact commits_ok_returnErr _ hn
        | _ => exact hfail
      | _ => cases haw
  | fail req cl hc haw =>
    exact commits_ok_failed hn hm hid ((commits_mono m).call hle (hI.call _ _ _ _ hc)) haw
  | resume k s cl hc haw =>
    have hcl := (commits_mono m).call hle (hI.call _ _ _ _ hc)
    cases cl with
    | elected now term =>
      simp only [resumed] at hn ⊢
      split at hn
      · rename_i cp hcp
        refine commits_ok_sendHeartbeat now ?_
        intro e he
        exact hn e (by rwa [← (OwnerControlPlane.setKnownLeader_log hcp).1])
      · exact commits_ok_node hn
    | commit job => exact commits_ok_commitJob hn hcl.1 hcl.2 hev
    | steppedDown term l ticket =>
      refine commits_ok_returnErr _ fun e he => hn e ?_
      rwa [noteLeader_log] at he
    | replicated remote req r =>
      exact commits_ok_answerReplication hn hcl (hle.1 (hw.serves _ _ _ _ hc _ _ _ rfl)) hev
    | _ => cases haw

end Pieces

/-! ## Validity -/

section Validity

variable {m : OwnerMembership} {c : Cluster}

theorem commits_step (hw : Wired m c) (hI : (commits m).Inv c) (a : Action) :
    (commits m).Inv (c.step m a) :=
  Spec.inv_step (commits_mono m) hw hI a fun _ _ _ _ _ _ hid ha hp => commits_ok hw hI hid ha hp

theorem commits_boot (m : OwnerMembership) (nows : P2pId → Timestamp) :
    (commits m).Inv (.boot m nows) where
  node _ _ h := by cases h
  call _ _ _ _ h := by cases h
  packet _ h := by cases h
  event _ _ _ := trivial

/-- The transport invariant and the assertion hold after every run. -/
theorem commits_exec (m : OwnerMembership) (nows : P2pId → Timestamp) (as : List Action) :
    Wired m (exec (Cluster.step m) (.boot m nows) as) ∧
      (commits m).Inv (exec (Cluster.step m) (.boot m nows) as) :=
  exec_inv_all (I := fun c => Wired m c ∧ (commits m).Inv c)
    (fun _ a h => ⟨h.1.step a, commits_step h.1 h.2 a⟩)
    ⟨Wired.init m _ nows, commits_boot m nows⟩ as

/-- A request that fails the guards of the handlers changes no state and starts no call. -/
theorem after_ignored {h : Host} {remote : P2pId} {req : ReqId} {request : Request}
    (now : Timestamp)
    (hg : remote ∉ h.node.membership.members ∨ ∃ id ∈ request.names, id ≠ remote) :
    (h.after (.recv remote req request now)).node = h.node ∧
      ∀ k p, (h.after (.recv remote req request now)).calls k = some p → h.calls k = some p := by
  rcases h.step_cases (.recv remote req request now) with hs | ⟨k, s, e, hp, hs⟩
  · rw [Host.after, hs]
    exact ⟨rfl, fun _ _ h => h⟩
  · obtain ⟨hn, hc, -⟩ := hp.ignores hg
    rw [Host.after, hs]
    refine ⟨hn, ?_⟩
    rintro k' ⟨cl, s'⟩ hcl
    rcases Host.perform_calls hcl with ⟨-, -, h⟩ | ⟨-, h⟩
    · rw [hc] at h
      cases h
    · exact h

/-- **Commit validity.**  After every run, an entry of a log was submitted to a member, and a leader
of some term collected acknowledgements of its first round for it, of terms not above its own, from
enough members to reach the quorum with itself.  In every state, a request from outside the
membership or under another owner's name changes neither the election state nor the control
plane, now or later. -/
theorem commit_valid (m : OwnerMembership) (nows : P2pId → Timestamp) (as : List Action) :
    (∀ id, ∀ e ∈ ((exec (Cluster.step m) (.boot m nows) as).hosts id).node.controlPlane.log,
      Submitted m (exec (Cluster.step m) (.boot m nows) as).trace e ∧
        Chosen m (exec (Cluster.step m) (.boot m nows) as).trace e) ∧
      ∀ (h : Host) (remote : P2pId) (req : ReqId) (request : Request) (now : Timestamp),
        (remote ∉ h.node.membership.members ∨ ∃ id ∈ request.names, id ≠ remote) →
        (h.after (.recv remote req request now)).node = h.node ∧
          ∀ k p, (h.after (.recv remote req request now)).calls k = some p →
            h.calls k = some p :=
  ⟨(commits_exec m nows as).2.node, fun _ _ _ _ now hg => after_ignored now hg⟩

/-- `[1]` wins term 1 with the vote of `[2]`. -/
def elected : List Action :=
  [.startElection [1] 0, .deliver 0 0, .deliver 1 0, .fail [1] ⟨0, 2⟩]

/-- `[1]` then commits the revocation of `[9]` with the acknowledgement of `[2]`. -/
def committed : List Action :=
  elected ++ [.submit [1] (.revokeServingSession [9]) 0, .deliver 3 0, .resume [2] 1, .deliver 4 0,
    .fail [1] ⟨1, 2⟩, .resume [1] 1]

/-- The entry in the log of `[1]` was submitted and chosen. -/
theorem commit_valid_trio :
    Submitted .trio (exec (Cluster.step .trio) (.boot .trio fun _ => 0) committed).trace
        (.revokeServingSession [9]) ∧
      Chosen .trio (exec (Cluster.step .trio) (.boot .trio fun _ => 0) committed).trace
        (.revokeServingSession [9]) :=
  (commit_valid .trio (fun _ => 0) committed).1 [1] (.revokeServingSession [9]) (by decide)

end Validity

end BuckyP2p.Directory
