import Mathlib.Order.MinMax
import BuckyP2p.Lib.Runs
import BuckyP2p.Directory.Pieces

/-!
# BuckyP2p.Directory.Terms — terms and late answers of one node

One host in an arbitrary environment.  `start_election`, `send_heartbeat` and
`replicate_and_commit` capture the node's term before their first await and compare every answer
with that term, and `become_leader` and `step_down` write their arguments without looking at the
state again.  So a call that was overtaken while it waited still writes.

* `Overtakes`: an input raises the term while another election of the node can still win.  Along
  runs without such inputs the term never falls and an election is won in its own term
  (`terms_monotone`); `term_falls` is a run in which it falls.
* `Harmless`: what the node's answer handling needs for a late answer not to touch leadership.  It
  is exactly the condition (`late_answers`).
-/

namespace BuckyP2p.Directory

open Lib

/-- The election is still short of its closing test by enough members to reach the quorum. -/
def Call.canWin (quorum : Nat) : Call → Bool
  | .election _ _ _ votes _ rest => quorum ≤ votes + 1 + rest.length
  | _ => false

/-- The term of an answer of the kind that the call waits for. -/
def Call.decodes : Call → Response → Option U64
  | .election .., .vote r => some r.term
  | .heartbeat .., .heartbeat r => some r.term
  | .replicate .., .replicate r => some r.term
  | .publish .., .replicate r => some r.term
  | .forward .., .forward r => some r.term
  | _, _ => none

namespace Host

/-- The inputs that raise the node's term. -/
def Raises (h : Host) : Input → Prop
  | .startElection _ => h.node.state.currentTerm < u64Max
  | .recv remote _ (.vote r) _ =>
    h.node.Accepts remote r.candidateId r.term ∧ h.node.state.currentTerm < r.term
  | .recv remote _ (.heartbeat r) _ =>
    h.node.Accepts remote r.leaderId r.term ∧ h.node.state.currentTerm < r.term
  | .recv remote _ (.replicate r) _ =>
    h.node.Accepts remote r.leaderId r.term ∧ h.node.state.currentTerm < r.term
  | .answer remote req response =>
    ∃ c, h.calls req.call = some (c, req.seq) ∧ c.awaits = some remote ∧
      ∃ t l, c.outrankedBy response = some (t, l) ∧ h.node.state.currentTerm < t
  | _ => False

/-- The input raises the term while an election other than the one it answers can still win. -/
def Overtakes (h : Host) (i : Input) : Prop :=
  h.Raises i ∧ ∃ k c s, h.calls k = some (c, s) ∧ c.canWin h.node.quorumSize = true ∧
    ∀ remote req response, i = .answer remote req response → req.call ≠ k

/-- The node when the closing test of `start_election` runs: a new election without remote members
is closed in the step that opens it. -/
def closing (h : Host) : Input → OwnerElectionNode
  | .startElection now => h.node.openElection now
  | _ => h.node

/-- One step does not lower the term, and an election that the step wins is won in its own term. -/
def TermsKept (h : Host) (i : Input) : Prop :=
  h.node.state.currentTerm ≤ (h.after i).node.state.currentTerm ∧
    ∀ t, Event.led t ∈ (h.step i).2.events → (h.closing i).state.currentTerm = t

end Host

/-! ## Terms -/

section Terms

/-- A suspended election has not seen a higher term, the node has not fallen below its term, and
it either is of the node's term or has lost already. -/
def Call.Current (n : OwnerElectionNode) : Call → Prop
  | .election _ term highest votes _ rest =>
    highest = term ∧ term ≤ n.state.currentTerm ∧
      (n.state.currentTerm = term ∨ votes + 1 + rest.length < n.quorumSize)
  | _ => True

/-- What a piece may do to the term, to its own election and to leadership. -/
structure TermSafe (n closing : OwnerElectionNode) (raises : Prop) (e : Effect) : Prop where
  le : n.state.currentTerm ≤ e.node.state.currentTerm
  raises : n.state.currentTerm < e.node.state.currentTerm → raises
  call : ∀ c, e.call = some c → c.Current e.node
  led : ∀ t, Event.led t ∈ e.events → closing.state.currentTerm = t

namespace OwnerElectionNode

variable {n : OwnerElectionNode}

theorem nextTerm_val (n : OwnerElectionNode) :
    n.nextTerm.val = max (min (n.state.currentTerm.val + 1) (2 ^ 64 - 1)) 1 := by
  rfl

theorem le_nextTerm (n : OwnerElectionNode) : n.state.currentTerm ≤ n.nextTerm := by
  rw [Fin.le_def, nextTerm_val]
  have := n.state.currentTerm.isLt
  omega

theorem lt_max_of_lt_nextTerm (h : n.state.currentTerm < n.nextTerm) :
    n.state.currentTerm < u64Max := by
  rw [Fin.lt_def, nextTerm_val] at h
  show n.state.currentTerm.val < 2 ^ 64 - 1
  omega

/-- Pieces that leave the election state alone and take no part in an election. -/
theorem termSafe_of_state {closing : OwnerElectionNode} {raises : Prop} {e : Effect}
    (hs : e.node.state = n.state) (hv : e.NoVote) : TermSafe n closing raises e where
  le := by rw [hs]
  raises h := by rw [hs] at h; exact absurd h (lt_irrefl _)
  call c h := by
    have hw := hv.call c h
    cases c <;> trivial
  led t h := by cases hv.events _ h

/-- A `step_down` raises the term to that of the answer. -/
theorem termSafe_stepDown {closing : OwnerElectionNode} {raises : Prop} {t : U64}
    (l : Option P2pId) (now : Timestamp) (ticket : Option Ticket)
    (hr : n.state.currentTerm < t → raises) :
    TermSafe n closing raises (n.stepDownAndFail t l now ticket) where
  le := by rw [stepDownAndFail_node]; exact le_max_left _ _
  raises h := by
    rw [stepDownAndFail_node] at h
    exact hr ((lt_max_iff.mp h).resolve_left (lt_irrefl _))
  call c h := by
    have hw := (noVote_stepDownAndFail t l now ticket).call c h
    cases c <;> trivial
  led u h := by cases (noVote_stepDownAndFail t l now ticket).events _ h

/-- The loop of `start_election`, for an election that is of the node's term or has lost. -/
theorem termSafe_askVote {raises : Prop} {now : Timestamp} {term highest : U64} {votes : Nat}
    (l : List P2pId) (hh : highest = term) (ht : term ≤ n.state.currentTerm)
    (hq : n.state.currentTerm = term ∨ votes + l.length < n.quorumSize) :
    TermSafe n n raises (n.askVote now term highest votes l) := by
  subst hh
  cases l with
  | cons m rest =>
    have hcall : Call.Current n (.election now highest highest votes m rest) := by
      refine ⟨rfl, ht, hq.imp_right fun h => ?_⟩
      rw [List.length_cons] at h
      omega
    refine ⟨le_rfl, fun h => absurd h (lt_irrefl _), ?_, ?_⟩
    · intro c hc
      cases hc
      exact hcall
    · intro t h
      cases h
  | nil =>
    unfold askVote
    dsimp only
    split_ifs with hw
    · -- the quorum is there, so the election was not overtaken
      have hcur : n.state.currentTerm = highest := by
        refine hq.resolve_right fun h => ?_
        rw [List.length_nil] at h
        omega
      refine ⟨hcur.le, ?_, ?_, ?_⟩
      · intro h
        exact absurd h (not_lt.mpr ht)
      · intro c hc
        cases hc
        trivial
      · intro t h
        simp only [List.mem_singleton, Event.led.injEq] at h
        rw [h, hcur]
    · refine ⟨le_max_left _ _, ?_, ?_, ?_⟩
      · intro h
        exact absurd h (not_lt.mpr (max_le le_rfl ht))
      · intro c hc
        cases hc
      · intro t h
        cases h

/-- A handler that takes over a term that is not below the node's. -/
theorem termSafe_adopt {closing : OwnerElectionNode} {raises : Prop} {e : Effect} {t : U64}
    (ht : n.state.currentTerm ≤ t) (he : e.node.state.currentTerm = t)
    (hr : n.state.currentTerm < t → raises) (hc : ∀ c, e.call = some c → c.isElection = false)
    (hl : ∀ u, Event.led u ∉ e.events) : TermSafe n closing raises e where
  le := he ▸ ht
  raises h := hr (he ▸ h)
  call c h := by
    have hw := hc c h
    cases c <;> trivial
  led u h := absurd h (hl u)

end OwnerElectionNode

/-- An election that is overtaken by no other input stays current. -/
theorem Call.Current.mono {n n' : OwnerElectionNode} {c : Call} (hc : c.Current n)
    (hm : n'.membership = n.membership) (hle : n.state.currentTerm ≤ n'.state.currentTerm)
    (hlt : n.state.currentTerm < n'.state.currentTerm → c.canWin n.quorumSize = false) :
    c.Current n' := by
  have hqs : n'.quorumSize = n.quorumSize := by rw [OwnerElectionNode.quorumSize, hm, OwnerElectionNode.quorumSize]
  cases c with
  | election now term highest votes m rest =>
    obtain ⟨hh, ht, hq⟩ := hc
    refine ⟨hh, ht.trans hle, ?_⟩
    rw [hqs]
    rcases hle.lt_or_eq with h | h
    · refine .inr ?_
      simpa [Call.canWin] using hlt h
    · exact hq.imp_left fun h' => h.symm.trans h'
  | _ => trivial

namespace Host

open OwnerElectionNode

/-- Every suspended election is current. -/
def ElectionsCurrent (h : Host) : Prop := ∀ k c s, h.calls k = some (c, s) → c.Current h.node

/-- **One piece**, from a state in which every election is current. -/
theorem Piece.termSafe {h : Host} {i : Input} {k s : Nat} {e : Effect} (hp : Piece h i k s e)
    (hI : h.ElectionsCurrent) : TermSafe h.node (h.closing i) (h.Raises i) e := by
  cases hp with
  | startElection now =>
    have hask : TermSafe (h.node.openElection now) (h.node.openElection now) False
        ((h.node.openElection now).askVote now h.node.nextTerm h.node.nextTerm 1
          h.node.remoteMembers) :=
      termSafe_askVote h.node.remoteMembers rfl le_rfl (.inl rfl)
    refine ⟨(le_nextTerm h.node).trans hask.le, ?_, hask.call, ?_⟩
    · intro hlt
      by_contra hmax
      have heq : h.node.nextTerm = h.node.state.currentTerm := by
        by_contra hne
        exact hmax (lt_max_of_lt_nextTerm
          (lt_of_le_of_ne (le_nextTerm h.node) (Ne.symm hne)))
      exact hask.raises (lt_of_eq_of_lt heq hlt)
    · intro t ht
      simp only [OwnerElectionNode.startElection, List.mem_cons, reduceCtorEq, false_or] at ht
      exact hask.led t ht
  | sendHeartbeat now =>
    exact termSafe_of_state
      (by rw [sendHeartbeat_node]) (noVote_sendHeartbeat now)
  | submit entry now =>
    refine termSafe_of_state ?_
      (noVote_event (noVote_commitOrForwardSession ..) rfl)
    rw [OwnerElectionNode.submit, commitOrForwardSession_node]
  | vote remote req request now =>
    unfold serveVote
    by_cases hg : h.node.Grants remote request
    · rw [receiveVoteRequest_grants now hg]
      exact termSafe_adopt hg.2.2.1
        (adoptTerm_currentTerm hg.2.2.1)
        (fun hlt => ⟨⟨hg.1, hg.2.1, hlt.le⟩, hlt⟩) (by simp)
        (by simp [voteResponse])
    · rw [receiveVoteRequest_denies now hg]
      exact termSafe_adopt le_rfl rfl (fun hlt => absurd hlt (lt_irrefl _))
        (by simp) (by simp [voteResponse])
  | heartbeat remote req request now =>
    unfold serveHeartbeat
    by_cases ha : h.node.Accepts remote request.leaderId request.term
    · rw [receiveHeartbeat_accepts now ha]
      exact termSafe_adopt ha.2.2 (by simp [follow_state])
        (fun hlt => ⟨ha, hlt⟩) (by simp) (by simp)
    · rw [receiveHeartbeat_rejects now ha]
      exact termSafe_adopt le_rfl rfl (fun hlt => absurd hlt (lt_irrefl _))
        (by simp) (by simp)
  | replicate remote req request now =>
    by_cases ha : h.node.Accepts remote request.leaderId request.term
    · rw [receiveSessionReplication_accepts req now ha]
      exact termSafe_adopt ha.2.2 (by simp [follow_state])
        (fun hlt => ⟨ha, hlt⟩) (by simp [Call.isElection]) (by simp)
    · rw [receiveSessionReplication_rejects req now ha]
      exact termSafe_adopt le_rfl rfl (fun hlt => absurd hlt (lt_irrefl _))
        (by simp) (by simp)
  | forward remote req request now =>
    exact termSafe_of_state
      (by rw [receiveSessionForward_node])
      (noVote_receiveSessionForward ..)
  | answer remote req response c hc ha =>
    cases ho : c.outrankedBy response with
    | some p =>
      obtain ⟨t, l⟩ := p
      obtain ⟨now, ticket, heq⟩ :=
        answered_outranked h.node req.call ho
      rw [heq]
      exact termSafe_stepDown l now ticket
        fun hlt => ⟨c, hc, ha, t, l, ho, hlt⟩
    | none =>
      cases hel : c.isElection with
      | false =>
        exact termSafe_of_state (answered_state ho hel)
          (noVote_answered _ hel _)
      | true =>
        cases c with
        | election now term highest votes m rest =>
          obtain ⟨hh, ht, hq⟩ := hI _ _ _ hc
          obtain ⟨highest', votes', heq, hv, hh'⟩ :=
            answered_election h.node req.call ho
          rw [heq]
          exact termSafe_askVote rest (hh' hh) ht
            (hq.imp_right fun hlt => by omega)
        | _ => cases hel
  | fail req c hc ha =>
    cases hel : c.isElection with
    | false =>
      exact termSafe_of_state (failed_state hel) (noVote_failed hel)
    | true =>
      cases c with
      | election now term highest votes m rest =>
        obtain ⟨hh, ht, hq⟩ := hI _ _ _ hc
        exact termSafe_askVote rest hh ht (hq.imp_right fun hlt => by omega)
      | _ => cases hel
  | resume k s c hc ha =>
    have hel : c.isElection = false := by
      cases c <;> first | rfl | cases ha
    exact termSafe_of_state (resumed_state _ c).1
      (noVote_resumed _ hel)

theorem after_of_piece {h : Host} {i : Input} {k s : Nat} {e : Effect}
    (hs : h.step i = h.perform k s e) :
    (h.after i).node = e.node ∧
      (h.after i).calls = Function.update h.calls k (e.call.map (·, s + 1)) := by
  rw [after, hs]
  exact ⟨rfl, rfl⟩

/-- **One step** that overtakes no election. -/
theorem step_terms {h : Host} {i : Input} (hI : h.ElectionsCurrent) (hno : ¬ h.Overtakes i) :
    h.TermsKept i ∧ (h.after i).ElectionsCurrent := by
  rcases h.step_cases i with hs | ⟨k, s, e, hp, hs⟩
  · have ha : h.after i = h := by rw [after, hs]
    refine ⟨⟨by rw [ha], ?_⟩, by rwa [ha]⟩
    intro t ht
    rw [hs] at ht
    cases ht
  · obtain ⟨hn, hcalls⟩ := after_of_piece hs
    have hsafe := hp.termSafe hI
    refine ⟨⟨by rw [hn]; exact hsafe.le, ?_⟩, ?_⟩
    · intro t ht
      rw [hs] at ht
      exact hsafe.led t ht
    · intro k' c s' hc
      rw [hn]
      rw [hcalls] at hc
      by_cases hk : k' = k
      · subst hk
        rw [Function.update_self] at hc
        obtain ⟨c', hc', heq⟩ := Option.map_eq_some_iff.mp hc
        cases heq
        exact hsafe.call c hc'
      · rw [Function.update_of_ne hk] at hc
        refine (hI k' c s' hc).mono hp.keeps.2 hsafe.le fun hlt => ?_
        by_contra hw
        refine hno ⟨hsafe.raises hlt, k', c, s', hc, by simpa using hw, ?_⟩
        -- the answered call is the one whose piece this is
        rintro remote req response rfl hreq
        cases hp
        exact hk hreq.symm

/-- **Terms of one node.**  From a new node, in any environment: as long as no input raises the
term while another election of the node can still win, the term never falls, and an election makes
the node leader only in the node's current term. -/
theorem terms_monotone (id : P2pId) (m : OwnerMembership) (cp : OwnerControlPlane)
    (now : Timestamp) (is : List Input)
    (hno : Along after (fun h i => ¬ h.Overtakes i) (init (.new id m cp now)) is) :
    Along after TermsKept (init (.new id m cp now)) is := by
  refine along_of_inv (I := ElectionsCurrent) (fun h i hI hC => (step_terms hI hC).2)
    (fun h i hI hC => (step_terms hI hC).1) ?_ hno
  intro k c s hc
  cases hc

/-- An election of three owners that is won with the first answer. -/
theorem terms_monotone_won :
    Along after TermsKept (init (.new [1] .trio (.new .trio) 0))
      [.startElection 0, .answer [2] ⟨0, 1⟩ (.vote ⟨1, true, none⟩),
        .answer [3] ⟨0, 2⟩ (.vote ⟨1, false, none⟩)] := by
  refine terms_monotone [1] .trio _ 0 _ ⟨?_, ?_, ?_, trivial⟩
  · rintro ⟨-, k, c, s, hc, -⟩
    cases hc
  · rintro ⟨⟨c, hc, -, t, l, ho, -⟩, -⟩
    cases hc
    cases ho
  · rintro ⟨⟨c, hc, -, t, l, ho, -⟩, -⟩
    cases hc
    cases ho

/-- **The term can fall.**  While an election of term 1 waits, a heartbeat of term 5 arrives; the
election then closes with its quorum and `become_leader` writes the captured term. -/
theorem term_falls :
    ¬ ∀ (id : P2pId) (m : OwnerMembership) (cp : OwnerControlPlane) (now : Timestamp)
      (is : List Input), Along after TermsKept (init (.new id m cp now)) is := by
  intro h
  have hrun := h [1] .trio (.new .trio) 0
    [.startElection 0, .recv [3] ⟨0, 0⟩ (.heartbeat ⟨5, [3], 0⟩) 0,
      .answer [2] ⟨0, 1⟩ (.vote ⟨1, true, none⟩), .answer [3] ⟨0, 2⟩ (.vote ⟨1, false, none⟩)]
  exact absurd hrun.2.2.2.1.1 (by decide)

end Host

end Terms

/-! ## Late answers -/

section LateAnswers

/-- `n` to `n'` is harmless for an answer of term `t`: a leader whose term is not below `t` stays
leader of its term, a follower whose term is above `t` keeps its leader. -/
def Undisturbed (n n' : OwnerElectionState) (t : U64) : Prop :=
  (n.role = .leader → t ≤ n.currentTerm → n'.role = .leader ∧ n'.currentTerm = n.currentTerm) ∧
    (n.role = .follower → t < n.currentTerm → n'.leaderId = n.leaderId)

/-- The condition on one answer.  An answer above the term that the call captured must be above the
node's own term too, or name the leader that a follower already has.  An answer that closes an
election must win it in the term that the node leads; for a follower the leader that is written,
its own id after a win and none after a loss, must be the one it already has. -/
def OwnerElectionNode.Harmless (n : OwnerElectionNode) (c : Call) (r : Response) : Prop :=
  match c.outrankedBy r with
  | some (t, l) =>
    (n.state.role = .leader → n.state.currentTerm < t) ∧
      (n.state.role = .follower → t < n.state.currentTerm → l = n.state.leaderId)
  | none =>
    match c, r with
    | .election _ term _ votes _ [], .vote r =>
      if n.quorumSize ≤ (if r.voteGranted then votes + 1 else votes) then
        (n.state.role = .leader → r.term ≤ n.state.currentTerm → term = n.state.currentTerm) ∧
          (n.state.role = .follower → r.term < n.state.currentTerm →
            n.state.leaderId = some n.localOwnerId)
      else
        (n.state.role = .leader → n.state.currentTerm < r.term) ∧
          (n.state.role = .follower → r.term < n.state.currentTerm → n.state.leaderId = none)
    | _, _ => True

theorem undisturbed_refl (s : OwnerElectionState) (t : U64) : Undisturbed s s t :=
  ⟨fun h _ => ⟨h, rfl⟩, fun _ _ => rfl⟩

/-- A `step_down` is harmless exactly when the node does not lead a term that the answer is not
above, and a follower is given the leader it has. -/
theorem undisturbed_stepDown (n : OwnerElectionNode) (u t : U64) (l : Option P2pId)
    (now : Timestamp) :
    Undisturbed n.state (n.stepDown u l now).state t ↔
      (n.state.role = .leader → n.state.currentTerm < t) ∧
        (n.state.role = .follower → t < n.state.currentTerm → l = n.state.leaderId) := by
  refine and_congr ⟨fun h hr => ?_, fun h hr ht => ?_⟩ Iff.rfl
  · by_contra hlt
    cases (h hr (not_lt.mp hlt)).1
  · exact absurd ht (not_le.mpr (h hr))

theorem undisturbed_becomeLeader (n : OwnerElectionNode) (u t : U64) (now : Timestamp) :
    Undisturbed n.state (n.becomeLeader u now).state t ↔
      (n.state.role = .leader → t ≤ n.state.currentTerm → u = n.state.currentTerm) ∧
        (n.state.role = .follower → t < n.state.currentTerm →
          n.state.leaderId = some n.localOwnerId) := by
  refine and_congr ⟨fun h hr ht => (h hr ht).2, fun h hr ht => ⟨rfl, h hr ht⟩⟩ ?_
  exact forall_congr' fun _ => forall_congr' fun _ => eq_comm

/-- **One answer** leaves leadership alone exactly when it is `Harmless`. -/
theorem OwnerElectionNode.undisturbed_answered (n : OwnerElectionNode) (call : Nat) {c : Call}
    {r : Response} {t : U64} (ht : c.decodes r = some t) :
    Undisturbed n.state (n.answered call c r).node.state t ↔ n.Harmless c r := by
  unfold Harmless
  cases ho : c.outrankedBy r with
  | some p =>
    obtain ⟨u, l⟩ := p
    obtain ⟨now, ticket, heq⟩ := answered_outranked n call ho
    have htu : t = u := by
      unfold Call.outrankedBy at ho
      split at ho
      all_goals first
        | (split_ifs at ho; cases ho; exact (Option.some.inj ht).symm)
        | cases ho
    rw [heq, stepDownAndFail_node, undisturbed_stepDown, htu]
  | none =>
    cases hel : c.isElection with
    | false =>
      rw [answered_state ho hel]
      refine ⟨fun _ => ?_, fun _ => undisturbed_refl _ _⟩
      cases c <;> trivial
    | true =>
      cases c with
      | election now term highest votes m rest =>
        cases r with
        | vote r =>
          cases ht
          have hlt : ¬ term < r.term := (ite_eq_right_iff.mp ho).mt (by simp)
          rw [answered, if_neg hlt]
          cases rest with
          | cons m' rest => exact iff_of_true (undisturbed_refl _ _) trivial
          | nil =>
            unfold askVote
            dsimp only
            split_ifs with hg hq hq
            all_goals first
              | exact undisturbed_becomeLeader ..
              | (rw [undisturbed_stepDown]
                 exact and_congr Iff.rfl (forall_congr' fun _ => forall_congr' fun _ => eq_comm))
        | _ => cases ht
      | _ => cases hel

namespace Host

/-- Property of one step: the answer it processes leaves leadership alone. -/
def KeepsLeadership (h : Host) (i : Input) : Prop :=
  ∀ remote req response c t, i = .answer remote req response →
    h.calls req.call = some (c, req.seq) → c.awaits = some remote →
    c.decodes response = some t → Undisturbed h.node.state (h.after i).node.state t

/-- Condition on one step: the answer it processes is `Harmless`. -/
def HarmlessAnswer (h : Host) (i : Input) : Prop :=
  ∀ remote req response c t, i = .answer remote req response →
    h.calls req.call = some (c, req.seq) → c.awaits = some remote →
    c.decodes response = some t → h.node.Harmless c response

theorem after_answer {h : Host} {remote : P2pId} {req : ReqId} {response : Response} {c : Call}
    (hc : h.calls req.call = some (c, req.seq)) (ha : c.awaits = some remote) :
    (h.after (.answer remote req response)).node = (h.node.answered req.call c response).node := by
  simp only [after, step, piece, hc, ha, and_self, if_true]
  rfl

theorem keepsLeadership_iff (h : Host) (i : Input) :
    h.KeepsLeadership i ↔ h.HarmlessAnswer i := by
  constructor
  · rintro hk remote req response c t rfl hc ha ht
    rw [← h.node.undisturbed_answered req.call ht, ← after_answer hc ha]
    exact hk remote req response c t rfl hc ha ht
  · rintro hh remote req response c t rfl hc ha ht
    rw [after_answer hc ha, h.node.undisturbed_answered req.call ht]
    exact hh remote req response c t rfl hc ha ht

/-- **Late answers.**  Along a run of a node, in any environment, every answer leaves leadership
alone exactly when every answer is harmless in the state in which it is processed. -/
theorem late_answers (id : P2pId) (m : OwnerMembership) (cp : OwnerControlPlane)
    (now : Timestamp) (is : List Input) :
    Along after KeepsLeadership (init (.new id m cp now)) is ↔
      Along after HarmlessAnswer (init (.new id m cp now)) is :=
  ⟨Along.mono fun h i => (keepsLeadership_iff h i).mp,
    Along.mono fun h i => (keepsLeadership_iff h i).mpr⟩

/-- **A late answer can depose a leader.**  An election of term 1 still waits when the node wins
term 2; the answer to the old request carries term 2, which is above the captured term. -/
theorem late_answer_deposes :
    ¬ ∀ (id : P2pId) (m : OwnerMembership) (cp : OwnerControlPlane) (now : Timestamp)
      (is : List Input), Along after KeepsLeadership (init (.new id m cp now)) is := by
  intro h
  have hrun := h [1] .trio (.new .trio) 0
    [.startElection 0, .startElection 0, .answer [2] ⟨1, 1⟩ (.vote ⟨2, true, none⟩),
      .fail ⟨1, 2⟩, .answer [2] ⟨0, 1⟩ (.vote ⟨2, false, none⟩)]
  have hlate := hrun.2.2.2.2.1 [2] ⟨0, 1⟩ _ _ 2 rfl rfl rfl rfl
  exact absurd (hlate.1 (by decide) (by decide)).1 (by decide)

end Host

end LateAnswers

end BuckyP2p.Directory
