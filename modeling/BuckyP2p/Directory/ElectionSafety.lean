import Mathlib.Data.Finset.Card
import BuckyP2p.Directory.Cluster

/-!
# BuckyP2p.Directory.ElectionSafety — at most one leader in a term

A node records its vote in `voted_for`, but an accepted heartbeat of the same term, `step_down` and
`become_leader` overwrite that field, so the node can vote again in a term in which it voted
before.  This is the only way to a second leader.

* `votes`: every term that was led has a quorum of members that voted for its leader in it.
* `SingleVote`: no node votes for two candidates in one term.
* `leader_unique`: along such runs a term has at most one leader; `two_leaders` is a run with two.
-/

namespace BuckyP2p.Directory

open Lib

/-- The term and candidate of a vote. -/
def Event.vote : Event → Option (U64 × P2pId)
  | .voted t x => some (t, x)
  | _ => none

namespace Cluster

/-- The node `id` is leader of term `t`. -/
def Leads (c : Cluster) (id : P2pId) (t : U64) : Prop :=
  (c.hosts id).node.state.role = .leader ∧ (c.hosts id).node.state.currentTerm = t

instance (c : Cluster) (id : P2pId) (t : U64) : Decidable (c.Leads id t) := by
  unfold Leads; infer_instance

/-- The vote that an action makes a member cast, as voter, term and candidate: for itself as it
opens an election, or for another as it grants a request. -/
def cast (m : OwnerMembership) (c : Cluster) (a : Action) : Option (P2pId × U64 × P2pId) :=
  match c.target m a with
  | some (id, .startElection _) =>
    if m.isMember id then some (id, (c.hosts id).node.nextTerm, id) else none
  | some (id, .recv remote _ (.vote r) _) =>
    if m.isMember id ∧ (c.hosts id).node.Grants remote r then some (id, r.term, r.candidateId)
    else none
  | _ => none

/-- No node votes for a candidate in a term in which it has voted for another one. -/
def SingleVote (m : OwnerMembership) (c : Cluster) (a : Action) : Prop :=
  ∀ v ∈ c.cast m a, ∀ x ∈ c.trace.history, x.1 = v.1 →
    ∀ w ∈ x.2.vote, w.1 = v.2.1 → w.2 = v.2.2

instance (m : OwnerMembership) (c : Cluster) (a : Action) : Decidable (c.SingleVote m a) := by
  unfold SingleVote; infer_instance

end Cluster

/-! ## Votes behind every leader -/

section Votes

/-- An election of `id` that has still to ask `l`: its votes were cast, by members it need not ask
any more. -/
structure Electing (m : OwnerMembership) (t : Trace) (id : P2pId) (term : U64) (votes : Nat)
    (l : List P2pId) : Prop where
  nodup : l.Nodup
  subset : ∀ x ∈ l, x ∈ m.members
  voters : ∃ s : Finset P2pId, s ⊆ m.members.toFinset ∧ votes ≤ s.card ∧
    (∀ v ∈ s, (v, .voted term id) ∈ t.history) ∧ ∀ x ∈ l, x ∉ s

/-- A quorum of members voted for `id` in `term`. -/
def Elected (m : OwnerMembership) (t : Trace) (id : P2pId) (term : U64) : Prop :=
  ∃ s : Finset P2pId, s ⊆ m.members.toFinset ∧ m.quorumSize ≤ s.card ∧
    ∀ v ∈ s, (v, .voted term id) ∈ t.history

/-- The assertion: elections count votes that were cast, a granted request was voted for, and a term
that was led was won. -/
def votes (m : OwnerMembership) : Spec where
  node _ _ _ := True
  call t id _ c :=
    match c with
    | .election _ term _ votes member rest => Electing m t id term votes (member :: rest)
    | _ => True
  packet t p :=
    match p.body with
    | .response (.vote r) => p.dst ∈ m.members → r.voteGranted = true →
      ∃ term, ⟨p.dst, p.src, p.req, .request (.vote ⟨term, p.dst⟩)⟩ ∈ t.sent ∧
        (p.src, .voted term p.dst) ∈ t.history
    | _ => True
  event t id ev :=
    match ev with
    | .led term => Elected m t id term
    | _ => True

variable {m : OwnerMembership} {t t' : Trace} {id : P2pId}

theorem Electing.mono {term : U64} {n : Nat} {l : List P2pId} (h : t.Le t')
    (he : Electing m t id term n l) : Electing m t' id term n l := by
  obtain ⟨s, hs, hn, hv, hl⟩ := he.voters
  exact ⟨he.nodup, he.subset, s, hs, hn, fun v hvs => h.2 (hv v hvs), hl⟩

theorem votes_mono (m : OwnerMembership) : (votes m).Mono where
  node _ _ _ _ := trivial
  call {t t'} h id k c hc := by
    cases c with
    | election now term highest n member rest => exact Electing.mono h hc
    | _ => trivial
  packet {t t'} h p hp := by
    obtain ⟨src, dst, req, body⟩ := p
    cases body with
    | request r => trivial
    | response r =>
      cases r with
      | vote r =>
        intro hd hg
        obtain ⟨term, hsent, hvote⟩ := hp hd hg
        exact ⟨term, h.1 hsent, h.2 hvote⟩
      | _ => trivial
  event {t t'} h id ev hev := by
    cases ev with
    | led term =>
      obtain ⟨s, hs, hq, hv⟩ := hev
      exact ⟨s, hs, hq, fun v hvs => h.2 (hv v hvs)⟩
    | _ => trivial

/-- Pieces that take no part in an election owe nothing. -/
theorem votes_ok_of_noVote {k s : Nat} {e : Effect} (hv : e.NoVote) : (votes m).Ok t id k s e where
  node := trivial
  call c hc := by
    have := hv.call c hc
    cases c <;> trivial
  request c hc dst r hr := trivial
  reply dst req r hr := by
    have := hv.reply _ hr
    cases r <;> trivial
  event ev hev := by
    have := hv.events ev hev
    cases ev <;> trivial

/-- The next request of an election, or its end. -/
theorem votes_ok_askVote {n : OwnerElectionNode} {k s : Nat} {now : Timestamp}
    {term highest : U64} {v : Nat} {l : List P2pId} (hm : n.membership = m)
    (he : Electing m t id term v l) :
    (votes m).Ok t id k s (n.askVote now term highest v l) := by
  cases l with
  | cons x rest =>
    refine ⟨trivial, ?_, fun _ _ _ _ _ => trivial, ?_, ?_⟩
    · intro c hc
      cases hc
      exact he
    · intro dst req r h
      cases h
    · intro ev h
      cases h
  | nil =>
    unfold OwnerElectionNode.askVote
    dsimp only
    split_ifs with hq
    · refine ⟨trivial, ?_, fun _ _ _ _ _ => trivial, ?_, ?_⟩
      · intro c hc
        cases hc
        trivial
      · intro dst req r h
        cases h
      · intro ev h
        cases List.mem_singleton.mp h
        obtain ⟨s, hs, hn, hv, -⟩ := he.voters
        rw [OwnerElectionNode.quorumSize, hm] at hq
        exact ⟨s, hs, hq.trans hn, hv⟩
    · exact votes_ok_of_noVote (OwnerElectionNode.noVote_node _)

/-- One answer to an election of `id`: a granted vote is one more member, which is not asked
again. -/
theorem Electing.answered {term : U64} {v : Nat} {x : P2pId} {rest : List P2pId}
    (he : Electing m t id term v (x :: rest)) (granted : Bool)
    (hg : granted = true → (x, .voted term id) ∈ t.history) :
    Electing m t id term (if granted then v + 1 else v) rest := by
  obtain ⟨s, hs, hn, hv, hl⟩ := he.voters
  have hnd := List.nodup_cons.mp he.nodup
  have hsub : ∀ y ∈ rest, y ∈ m.members := fun y hy => he.subset y (List.mem_cons_of_mem _ hy)
  by_cases hgr : granted = true
  · have hx : x ∉ s := hl x List.mem_cons_self
    refine ⟨hnd.2, hsub, insert x s, ?_, ?_, ?_, ?_⟩
    · exact Finset.insert_subset (List.mem_toFinset.mpr (he.subset x List.mem_cons_self)) hs
    · rw [if_pos hgr, Finset.card_insert_of_notMem hx]
      omega
    · intro y hy
      rcases Finset.mem_insert.mp hy with rfl | hy
      · exact hg hgr
      · exact hv y hy
    · intro y hy hys
      rcases Finset.mem_insert.mp hys with rfl | hys
      · exact hnd.1 hy
      · exact hl y (List.mem_cons_of_mem _ hy) hys
  · rw [if_neg hgr]
    exact ⟨hnd.2, hsub, s, hs, hn, hv, fun y hy => hl y (List.mem_cons_of_mem _ hy)⟩

/-- A new election has the candidate's own vote. -/
theorem electing_open {n : OwnerElectionNode} {term : U64} (hm : n.membership = m)
    (ho : n.localOwnerId = id) (hid : id ∈ m.members) (hv : (id, .voted term id) ∈ t.history) :
    Electing m t id term 1 n.remoteMembers := by
  have hmem : ∀ x ∈ n.remoteMembers, x ∈ m.members ∧ x ≠ id := by
    intro x hx
    have := List.mem_filter.mp hx
    rw [hm, ho] at this
    exact ⟨this.1, by simpa using this.2⟩
  refine ⟨?_, fun x hx => (hmem x hx).1, {id}, ?_, ?_, ?_, ?_⟩
  · exact n.membership.nodup.filter _
  · exact Finset.singleton_subset_iff.mpr (List.mem_toFinset.mpr hid)
  · exact (Finset.card_singleton id).ge
  · intro v hv'
    rw [Finset.mem_singleton.mp hv']
    exact hv
  · intro x hx hxs
    exact (hmem x hx).2 (Finset.mem_singleton.mp hxs)

/-- Every piece keeps the votes. -/
theorem votes_ok {c : Cluster} (hw : Wired m c) (hI : (votes m).Inv c) {i : Input} {k s : Nat}
    {e : Effect} (hid : id ∈ m.members) (ha : Arises m c.trace id i)
    (hp : Host.Piece (c.hosts id) i k s e) :
    (votes m).Ok (c.trace.after id k s e) id k s e := by
  cases hp with
  | startElection now =>
    have ho := hw.owner id
    have hm := hw.membership id
    refine Spec.Ok.event_cons (votes_ok_askVote hm ?_) trivial
    refine electing_open hm ho hid (Trace.mem_after_history.mpr (.inr ⟨_, List.mem_cons_self, ?_⟩))
    rw [ho]
  | sendHeartbeat now => exact votes_ok_of_noVote (OwnerElectionNode.noVote_sendHeartbeat now)
  | submit entry now =>
    exact votes_ok_of_noVote (OwnerElectionNode.noVote_event
      (OwnerElectionNode.noVote_commitOrForwardSession ..) rfl)
  | vote remote req request now =>
    refine ⟨trivial, ?_, fun _ _ _ _ _ => trivial, ?_, ?_⟩
    · intro cl hcl
      cases hcl
    · intro dst req' r hr
      cases hr
      intro hd hg
      by_cases hgr : (c.hosts id).node.Grants remote request
      · have hcand : remote = request.candidateId := hgr.2.1
        refine ⟨request.term, ?_, ?_⟩
        · refine Trace.mem_after_sent.mpr (.inl ?_)
          have hsent := ha.resolve_right (not_not.mpr hd)
          rwa [show request = ⟨request.term, remote⟩ by rw [hcand]] at hsent
        · refine Trace.mem_after_history.mpr (.inr ⟨.voted request.term request.candidateId, ?_, ?_⟩)
          · simp only [OwnerElectionNode.serveVote, hg, if_true, List.mem_singleton]
          · rw [hcand]
      · rw [OwnerElectionNode.receiveVoteRequest_denies now hgr] at hg
        cases hg
    · intro ev hev
      simp only [OwnerElectionNode.serveVote] at hev
      split_ifs at hev with hg
      · cases List.mem_singleton.mp hev
        trivial
      · cases hev
  | heartbeat remote req request now =>
    exact votes_ok_of_noVote (OwnerElectionNode.noVote_serveHeartbeat ..)
  | replicate remote req request now =>
    exact votes_ok_of_noVote (OwnerElectionNode.noVote_receiveSessionReplication ..)
  | forward remote req request now =>
    exact votes_ok_of_noVote (OwnerElectionNode.noVote_receiveSessionForward ..)
  | answer remote req response cl hc haw =>
    cases cl with
    | election now term highest v x rest =>
      have he : Electing m c.trace id term v (x :: rest) := hI.call _ _ _ _ hc
      cases haw
      cases ho : (Call.election now term highest v x rest).outrankedBy response with
      | some p =>
        obtain ⟨now', ticket, heq⟩ := OwnerElectionNode.answered_outranked
          (c.hosts id).node req.call ho
        rw [heq]
        exact votes_ok_of_noVote (OwnerElectionNode.noVote_stepDownAndFail ..)
      | none =>
        have hm := hw.membership id
        cases response with
        | vote r =>
          have hlt : ¬ term < r.term := (ite_eq_right_iff.mp ho).mt (by simp)
          simp only [OwnerElectionNode.answered, if_neg hlt]
          refine votes_ok_askVote hm (Electing.mono Trace.le_after (he.answered _ fun hg => ?_))
          -- the granted answer belongs to this election, so it is a vote in its term
          obtain ⟨term', hsent, hvote⟩ := hI.packet _ ha hid hg
          have hreq := hw.answers hc rfl hsent
          cases hreq
          exact hvote
        | _ =>
          exact votes_ok_askVote hm (Electing.mono Trace.le_after
            (he.answered false (by simp)))
    | _ => exact votes_ok_of_noVote (OwnerElectionNode.noVote_answered _ rfl _)
  | fail req cl hc haw =>
    cases cl with
    | election now term highest v x rest =>
      have he : Electing m c.trace id term v (x :: rest) := hI.call _ _ _ _ hc
      exact votes_ok_askVote (hw.membership id) (Electing.mono Trace.le_after
        (he.answered false (by simp)))
    | _ => exact votes_ok_of_noVote (OwnerElectionNode.noVote_failed rfl)
  | resume k s cl hc haw =>
    refine votes_ok_of_noVote (OwnerElectionNode.noVote_resumed _ ?_)
    cases cl <;> first | rfl | cases haw

/-- A single member starts as the leader that it voted for. -/
theorem votes_init (m : OwnerMembership) (cps : P2pId → OwnerControlPlane)
    (nows : P2pId → Timestamp) : (votes m).Inv (.init m cps nows) where
  node _ := trivial
  call _ _ _ _ h := by cases h
  packet _ h := by cases h
  event id ev h := by
    obtain ⟨x, hx, hev⟩ := List.mem_flatMap.mp h
    split_ifs at hev with hone
    · simp only [List.mem_cons, Prod.mk.injEq, List.not_mem_nil, or_false] at hev
      rcases hev with ⟨rfl, rfl⟩ | ⟨rfl, rfl⟩
      · trivial
      · refine ⟨{id}, Finset.singleton_subset_iff.mpr (List.mem_toFinset.mpr hx), ?_, ?_⟩
        · rw [OwnerMembership.quorumSize, hone, Finset.card_singleton]
        · intro v hv
          rw [Finset.mem_singleton.mp hv]
          refine List.mem_flatMap.mpr ⟨id, hx, ?_⟩
          rw [if_pos hone]
          exact List.mem_cons_self
    · cases hev

end Votes

/-! ## One vote, one leader -/

section Safety

variable {m : OwnerMembership} {c : Cluster}

/-- No node has voted for two candidates in one term. -/
def OneVote (t : Trace) : Prop :=
  ∀ v term a b, (v, .voted term a) ∈ t.history → (v, .voted term b) ∈ t.history → a = b

/-- **Quorums meet**, so single votes elect a single leader. -/
theorem Elected.unique {t : Trace} {a b : P2pId} {term : U64} (h1 : OneVote t)
    (ha : Elected m t a term) (hb : Elected m t b term) : a = b := by
  obtain ⟨sa, hsa, hqa, hva⟩ := ha
  obtain ⟨sb, hsb, hqb, hvb⟩ := hb
  have hcard : m.members.toFinset.card = m.members.length :=
    List.toFinset_card_of_nodup m.nodup
  have hlt : m.members.toFinset.card < sa.card + sb.card := by
    rw [OwnerMembership.quorumSize] at hqa hqb
    omega
  obtain ⟨v, hv⟩ := Finset.inter_nonempty_of_card_lt_card_add_card hsa hsb hlt
  have hv' := Finset.mem_inter.mp hv
  exact h1 v term a b (hva v hv'.1) (hvb v hv'.2)

theorem askVote_voted {n : OwnerElectionNode} {now : Timestamp} {term highest : U64} {v : Nat}
    {l : List P2pId} {t : U64} {x : P2pId} :
    .voted t x ∉ (n.askVote now term highest v l).events := by
  cases l with
  | cons y rest => exact List.not_mem_nil
  | nil =>
    unfold OwnerElectionNode.askVote
    dsimp only
    split_ifs
    · simp
    · exact List.not_mem_nil

/-- The vote that a piece records is the vote that its action casts. -/
theorem cast_of_voted (hw : Wired m c) {a : Action} {id : P2pId} {i : Input} {k s : Nat}
    {e : Effect} (ht : c.target m a = some (id, i)) (hid : id ∈ m.members)
    (hp : Host.Piece (c.hosts id) i k s e) {t : U64} {x : P2pId} (hv : .voted t x ∈ e.events) :
    c.cast m a = some (id, t, x) := by
  have hmem := (m.isMember_iff id).mpr hid
  have hno : ¬ e.NoVote := fun h => by cases h.events _ hv
  cases hp with
  | startElection now =>
    rcases List.mem_cons.mp hv with heq | hv
    · cases heq
      simp [Cluster.cast, ht, hid, hw.owner id]
    · exact absurd hv askVote_voted
  | vote remote req request now =>
    simp only [OwnerElectionNode.serveVote] at hv
    split_ifs at hv with hg
    · cases List.mem_singleton.mp hv
      have hgr : (c.hosts id).node.Grants remote request := by
        by_contra hgr
        rw [OwnerElectionNode.receiveVoteRequest_denies now hgr] at hg
        cases hg
      simp only [Cluster.cast, ht]
      rw [if_pos ⟨hmem, hgr⟩]
    · cases hv
  | sendHeartbeat now => exact absurd (OwnerElectionNode.noVote_sendHeartbeat now) hno
  | submit entry now =>
    exact absurd (OwnerElectionNode.noVote_event
      (OwnerElectionNode.noVote_commitOrForwardSession ..) rfl) hno
  | heartbeat remote req request now =>
    exact absurd (OwnerElectionNode.noVote_serveHeartbeat ..) hno
  | replicate remote req request now =>
    exact absurd (OwnerElectionNode.noVote_receiveSessionReplication ..) hno
  | forward remote req request now =>
    exact absurd (OwnerElectionNode.noVote_receiveSessionForward ..) hno
  | answer remote req response cl hc haw =>
    cases cl with
    | election now term highest votes y rest =>
      cases ho : (Call.election now term highest votes y rest).outrankedBy response with
      | some p =>
        obtain ⟨now', ticket, heq⟩ := OwnerElectionNode.answered_outranked
          (c.hosts id).node req.call ho
        rw [heq] at hno
        exact absurd (OwnerElectionNode.noVote_stepDownAndFail ..) hno
      | none =>
        obtain ⟨highest', votes', heq, -⟩ := OwnerElectionNode.answered_election
          (c.hosts id).node req.call ho
        rw [heq] at hv
        exact absurd hv askVote_voted
    | _ => exact absurd (OwnerElectionNode.noVote_answered _ rfl _) hno
  | fail req cl hc haw =>
    cases cl with
    | election now term highest votes y rest => exact absurd hv askVote_voted
    | _ => exact absurd (OwnerElectionNode.noVote_failed rfl) hno
  | resume k s cl hc haw =>
    refine absurd (OwnerElectionNode.noVote_resumed _ ?_) hno
    cases cl <;> first | rfl | cases haw

theorem oneVote_step (hw : Wired m c) (h1 : OneVote c.trace) {a : Action}
    (hs : c.SingleVote m a) : OneVote (c.step m a).trace := by
  rcases c.step_cases m a hw.owner with heq | ⟨id, i, k, s, e, ht, hid, -, hp, heq⟩
  · rwa [heq]
  rw [heq]
  have hnew : ∀ term x y, .voted term x ∈ e.events → (id, .voted term y) ∈ c.trace.history →
      y = x := fun term x y hx hy =>
    hs _ (cast_of_voted hw ht hid hp hx) _ hy rfl _ rfl rfl
  intro v term x y hx hy
  rcases Trace.mem_after_history.mp hx with hx | ⟨ev, hev, hx⟩ <;>
    rcases Trace.mem_after_history.mp hy with hy | ⟨ev', hev', hy⟩
  · exact h1 v term x y hx hy
  · cases hy
    exact hnew term y x hev' hx
  · cases hx
    exact (hnew term x y hev hy).symm
  · cases hx
    cases hy
    cases (cast_of_voted hw ht hid hp hev).symm.trans (cast_of_voted hw ht hid hp hev')
    rfl

/-- The invariant of election safety. -/
structure Safe (m : OwnerMembership) (c : Cluster) : Prop where
  wired : Wired m c
  votes : (votes m).Inv c
  oneVote : OneVote c.trace

theorem Safe.step (h : Safe m c) {a : Action} (hs : c.SingleVote m a) : Safe m (c.step m a) where
  wired := h.wired.step a
  votes := Spec.inv_step (votes_mono m) h.wired h.votes a
    fun _ _ _ _ _ _ hid ha hp => votes_ok h.wired h.votes hid ha hp
  oneVote := oneVote_step h.wired h.oneVote hs

theorem Safe.init (m : OwnerMembership) (cps : P2pId → OwnerControlPlane)
    (nows : P2pId → Timestamp) : Safe m (.init m cps nows) where
  wired := .init m cps nows
  votes := votes_init m cps nows
  oneVote := by
    intro v term a b ha hb
    obtain ⟨x, -, ha⟩ := List.mem_flatMap.mp ha
    obtain ⟨y, -, hb⟩ := List.mem_flatMap.mp hb
    split_ifs at ha hb with hone
    · simp only [List.mem_cons, Prod.mk.injEq, Event.voted.injEq, reduceCtorEq, and_false,
        List.not_mem_nil, or_false] at ha hb
      rw [ha.2.2, hb.2.2, ← ha.1, ← hb.1]
    · cases ha

/-- **Election safety.**  In every run in which no node votes for two candidates in one term, two
nodes that are leader of the same term, at any two moments of the run, are one node. -/
theorem leader_unique (m : OwnerMembership) (cps : P2pId → OwnerControlPlane)
    (nows : P2pId → Timestamp) (as : List Action)
    (hs : Along (Cluster.step m) (Cluster.SingleVote m) (.init m cps nows) as)
    {p q : List Action} (hp : p <+: as) (hq : q <+: as) {a b : P2pId} {t : U64}
    (ha : (exec (Cluster.step m) (.init m cps nows) p).Leads a t)
    (hb : (exec (Cluster.step m) (.init m cps nows) q).Leads b t) : a = b := by
  have hsafe := exec_inv (I := Safe m) (fun c a h hC => h.step hC) (Safe.init m cps nows) hs
  have hled : ∀ r x, r <+: as → (exec (Cluster.step m) (.init m cps nows) r).Leads x t →
      (x, .led t) ∈ (exec (Cluster.step m) (.init m cps nows) as).trace.history := by
    rintro r x ⟨r', rfl⟩ ⟨hrole, hterm⟩
    have hw := (Wired.init m cps nows).exec r
    have hev := hw.led x hrole
    rw [hterm] at hev
    rw [exec_append]
    exact (hw.le_exec r').2 hev
  exact Elected.unique hsafe.oneVote (hsafe.votes.event _ _ (hled p a hp ha))
    (hsafe.votes.event _ _ (hled q b hq hb))

/-- An election that is won with one vote: nobody else leads its term. -/
theorem leader_unique_won :
    ¬ (exec (Cluster.step .trio) (.init .trio (fun _ => .new .trio) fun _ => 0)
      [.startElection [1] 0, .deliver 0 0, .deliver 1 0, .fail [1] ⟨0, 2⟩]).Leads [3] 1 := by
  intro h
  have heq := leader_unique .trio (fun _ => .new .trio) (fun _ => 0)
    [.startElection [1] 0, .deliver 0 0, .deliver 1 0, .fail [1] ⟨0, 2⟩] (by decide)
    (List.prefix_refl _) (List.prefix_refl _) (a := [1]) (by decide) h
  exact absurd heq (by decide)

/-- `[2]` votes for `[1]` in term 1, forgets the vote with the heartbeat of the new leader, and then
grants the request of `[3]` that was still under way. -/
def forgottenVote : List Action :=
  [.startElection [1] 0, .startElection [3] 0, .deliver 1 0, .deliver 2 0, .deliver 0 0,
    .deliver 4 0, .fail [1] ⟨0, 2⟩, .resume [1] 0, .deliver 6 0, .deliver 3 0, .deliver 8 0]

/-- **Two leaders of one term.** -/
theorem two_leaders :
    ¬ ∀ (m : OwnerMembership) (cps : P2pId → OwnerControlPlane) (nows : P2pId → Timestamp)
      (as p q : List Action) (a b : P2pId) (t : U64), p <+: as → q <+: as →
      (exec (Cluster.step m) (.init m cps nows) p).Leads a t →
      (exec (Cluster.step m) (.init m cps nows) q).Leads b t → a = b := by
  intro h
  have heq := h .trio (fun _ => .new .trio) (fun _ => 0) forgottenVote forgottenVote forgottenVote
    [1] [3] 1 (List.prefix_refl _) (List.prefix_refl _) (by decide) (by decide)
  exact absurd heq (by decide)

end Safety

end BuckyP2p.Directory
