import BuckyP2p.Tcp.Entry

/-!
# BuckyP2p.Tcp.ClaimReplay — the same request again

`process_claim_req` records what it answers, and looks at the record before it looks at the state.
Between the two copies of a request the entry may be bound, drained, claimed or retired, and any
other commands may come; only another request for the connection would replace the record.

* `Answering`: while the request is processed for the first time.
* `Kept`: from the first answer on.
-/

namespace BuckyP2p.Tcp

open Lib

/-- A request that matches a record is the one that the record was made for. -/
theorem eq_record_of_matches {req : ClaimConnReq} {record : RecentClaimRecord}
    (h : claimRecordMatches req record = true) : record = req.record record.response := by
  obtain ⟨channelId, leaseSeq, claimNonce, kind, purpose, response⟩ := record
  simp only [claimRecordMatches, Bool.and_eq_true, decide_eq_true_eq] at h
  obtain ⟨⟨⟨⟨rfl, rfl⟩, rfl⟩, rfl⟩, rfl⟩ := h
  rfl

theorem record_matches (req : ClaimConnReq) (response : RecentClaimResponse) :
    claimRecordMatches req (req.record response) = true := by
  simp [claimRecordMatches, ClaimConnReq.record]

/-- No request but `r` is on its way to a record. -/
def Loop.Leaves (r : ClaimConnReq) : Loop → Prop
  | .deciding req => req = r
  | .checking _ _ | .reserving _ _ | .taking _ _ | .binding _ _ | .recording _ _ => False
  | _ => True

theorem Loop.leaves_of_aside {r : ClaimConnReq} {l : Loop} (h : l.aside = true) : l.Leaves r := by
  cases l with
  | deciding | checking | reserving | taking | binding | recording =>
    exact absurd h Bool.false_ne_true
  | _ => trivial

namespace TcpTunnel

/-- Only the state decides whether a target must be checked, and then nothing is replayed. -/
theorem decisionOnState_ne_replay (x : TcpTunnel) (req : ClaimConnReq)
    (response : RecentClaimResponse) :
    x.decisionOnState req ≠ .ready (.replay response) ∧
      x.decisionOnState req ≠ .checkThen (.replay response) := by
  unfold decisionOnState
  split
  · simp
  · split
    · simp
    · simp
  · split
    · simp
    · simp
  · split
    · simp
    · split
      · simp
      · simp
  · simp
  · simp

/-- What is replayed is the answer in the record. -/
theorem recentClaim_of_replay {x : TcpTunnel} {req : ClaimConnReq} {response : RecentClaimResponse}
    (h : x.decisionPlan req = .ready (.replay response)) :
    x.recentClaim = some (req.record response) := by
  unfold decisionPlan at h
  split at h
  · next record hrecent =>
    split at h
    · split at h
      · next hmatch =>
        have hresponse : record.response = response := by simpa using h
        rw [hrecent, ← hresponse]
        exact congrArg some (eq_record_of_matches hmatch)
      · simp at h
    · exact absurd h (x.decisionOnState_ne_replay req response).1
  · exact absurd h (x.decisionOnState_ne_replay req response).1

theorem checkThen_ne_replay {x : TcpTunnel} {req : ClaimConnReq} {d : ClaimDecision}
    (h : x.decisionPlan req = .checkThen d) (response : RecentClaimResponse) :
    d ≠ .replay response := by
  rintro rfl
  exact (x.decisionOnState_ne_replay req response).2 (decisionOnState_of_checkThen h)

/-- The record is looked at before the state. -/
theorem decisionPlan_of_recent {x : TcpTunnel} {req : ClaimConnReq} {response : RecentClaimResponse}
    (h : x.recentClaim = some (req.record response)) :
    x.decisionPlan req = .ready (.replay response) := by
  have hseq : (req.record response).leaseSeq = req.leaseSeq := rfl
  unfold decisionPlan
  rw [h]
  simp only [hseq, if_true, record_matches]
  rfl

/-! ## The first copy -/

/-- `r` is processed, or was, since the loop was last ready. -/
def Answering (r : ClaimConnReq) (x : TcpTunnel) : Prop :=
  match x.loop with
  | .ready => False
  | .deciding req | .reserving req _ | .taking req _ | .binding req _ => req = r
  | .checking req d => req = r ∧ ∀ response, d ≠ .replay response
  | .recording record p =>
    ∃ response, record = r.record response ∧ p.response = claimResponseCmd r response
  | .processed p =>
    ∃ response, x.recentClaim = some (r.record response) ∧
      p.response = claimResponseCmd r response
  | _ => True

variable {r : ClaimConnReq} {x x' : TcpTunnel} {e : ClaimEvent}

/-- `Answering` reads the loop and the record only. -/
theorem Answering.of_eq (h : x.Answering r) (hrecent : x'.recentClaim = x.recentClaim)
    (hloop : x'.loop = x.loop) : x'.Answering r := by
  unfold Answering at *
  rw [hloop, hrecent]
  exact h

theorem answering_of_aside (hloop : x.loop.aside = true) (hready : x.loop ≠ .ready) :
    x.Answering r := by
  unfold Answering
  cases hl : x.loop with
  | ready => exact absurd hl hready
  | deciding | checking | reserving | taking | binding | recording | processed | acked
  | confirming =>
    rw [hl] at hloop
    exact absurd hloop Bool.false_ne_true
  | _ => trivial

theorem answering_refuse {result : ClaimConnAckResult} {localChannelId : Option TcpChannelId}
    (h : x.loop = refuse r result localChannelId) : x.Answering r := by
  simp only [Answering, h, refuse]
  exact ⟨_, rfl, rfl⟩

/-- A decision that is no replay is on its way to a record. -/
theorem answering_onDecision {d : ClaimDecision} (h : x.loop = onDecision r d)
    (hd : ∀ response, d = .replay response → x.recentClaim = some (r.record response)) :
    x.Answering r := by
  cases d with
  | replay response =>
    simp only [Answering, h, onDecision]
    exact ⟨response, hd response rfl, rfl⟩
  | accept => simp only [Answering, h, onDecision]
  | err result => exact answering_refuse h
  | conflictWin => exact answering_refuse h
  | conflictLose localChannelId => simp only [Answering, h, onDecision]

theorem Answering.heads (h : x.Answering r) (hrecent : x'.recentClaim = x.recentClaim)
    (hl : x.Heads x'.loop) (hready : x'.loop ≠ .ready) : x'.Answering r := by
  generalize hloop' : x'.loop = l at hl
  cases hl with
  | stay => exact h.of_eq hrecent hloop'
  | aside haside => exact answering_of_aside (hloop' ▸ haside) hready
  | decide hx => simp only [Answering, hx] at h
  | unknown hx => simp only [Answering, hx] at h
  | decided hx hplan =>
    simp only [Answering, hx] at h
    subst h
    refine answering_onDecision hloop' ?_
    rintro response rfl
    rw [hrecent]
    exact recentClaim_of_replay hplan
  | check hx hplan =>
    simp only [Answering, hx] at h
    simp only [Answering, hloop']
    exact ⟨h, checkThen_ne_replay hplan⟩
  | checked hx =>
    simp only [Answering, hx] at h
    obtain ⟨rfl, hd⟩ := h
    exact answering_onDecision hloop' fun response heq => absurd heq (hd response)
  | unchecked hx reason =>
    simp only [Answering, hx] at h
    obtain ⟨rfl, _⟩ := h
    exact answering_refuse hloop'
  | reserved hx =>
    simp only [Answering, hx] at h
    simpa only [Answering, hloop'] using h
  | unreserved hx reason =>
    simp only [Answering, hx] at h
    subst h
    exact answering_refuse hloop'
  | taken hx =>
    simp only [Answering, hx] at h
    simpa only [Answering, hloop'] using h
  | acked hclaim => simp only [Answering, hloop']
  | confirming hx => simp only [Answering, hloop']

theorem Answering.advance (h : x.Answering r) (hx : Advance x x' e) (hready : x'.loop ≠ .ready) :
    x'.Answering r := by
  cases hx with
  | drift _ _ hrecent hloop => exact h.heads hrecent hloop hready
  | claim _ hx' =>
    subst hx'
    exact h.of_eq rfl rfl
  | reset _ hx' =>
    subst hx'
    exact h.of_eq rfl rfl
  | fail _ hx' =>
    subst hx'
    exact answering_of_aside rfl hready
  | bind hloop hx' =>
    subst hx'
    simp only [Answering, hloop] at h
    subst h
    exact ⟨.ack, rfl, rfl⟩
  | confirm _ hx' =>
    subst hx'
    exact answering_of_aside rfl hready
  | record hloop hx' =>
    subst hx'
    simp only [Answering, hloop] at h
    obtain ⟨response, rfl, hresponse⟩ := h
    exact ⟨response, rfl, hresponse⟩

theorem Answering.next (h : x.Answering r) {i : EntryEvent} (hready : (x.next i).loop ≠ .ready) :
    (x.next i).Answering r := by
  cases i with
  | own e => exact h.advance (x.act_advance x e) hready
  | receive cmd => exact h.of_eq rfl rfl

/-! ## From the answer on -/

/-- If a request for the connection is processed next, it is `r`. -/
def onlyRequest (r : ClaimConnReq) (x : TcpTunnel) (i : EntryEvent) : Bool :=
  match (x.next i).loop with
  | .deciding req => req = r
  | _ => true

/-- The answer to `r` is recorded, and no other request is on its way to a record. -/
structure Kept (r : ClaimConnReq) (response : RecentClaimResponse) (x : TcpTunnel) : Prop where
  recent : x.recentClaim = some (r.record response)
  loop : x.loop.Leaves r

variable {response : RecentClaimResponse}

theorem Kept.of_aside (hrecent : x.recentClaim = some (r.record response))
    (hloop : x.loop.aside = true) : x.Kept r response where
  recent := hrecent
  loop := Loop.leaves_of_aside hloop

theorem Kept.of_eq (h : x.Kept r response) (hrecent : x'.recentClaim = x.recentClaim)
    (hloop : x'.loop = x.loop) : x'.Kept r response where
  recent := hrecent.trans h.recent
  loop := hloop ▸ h.loop

theorem Kept.heads (h : x.Kept r response) (hrecent : x'.recentClaim = x.recentClaim)
    (hl : x.Heads x'.loop) (honly : ∀ req, x'.loop = .deciding req → req = r) :
    x'.Kept r response := by
  have hx := h.loop
  generalize hloop' : x'.loop = l at hl
  have hkeep (hl : l.Leaves r) : x'.Kept r response := ⟨hrecent.trans h.recent, hloop' ▸ hl⟩
  cases hl with
  | stay => exact h.of_eq hrecent hloop'
  | aside haside => exact .of_aside (hrecent.trans h.recent) (hloop' ▸ haside)
  | decide _ req => exact hkeep (honly req hloop')
  | unknown => exact hkeep trivial
  | decided hloop hplan =>
    rw [hloop] at hx
    subst hx
    rw [decisionPlan_of_recent h.recent] at hplan
    injection hplan with hd
    subst hd
    exact hkeep trivial
  | check hloop hplan =>
    rw [hloop] at hx
    subst hx
    rw [decisionPlan_of_recent h.recent] at hplan
    simp at hplan
  | checked hloop => rw [hloop] at hx; exact hx.elim
  | unchecked hloop => rw [hloop] at hx; exact hx.elim
  | reserved hloop => rw [hloop] at hx; exact hx.elim
  | unreserved hloop => rw [hloop] at hx; exact hx.elim
  | taken hloop => rw [hloop] at hx; exact hx.elim
  | acked => exact hkeep trivial
  | confirming => exact hkeep trivial

theorem Kept.advance (h : x.Kept r response) (hx : Advance x x' e)
    (honly : ∀ req, x'.loop = .deciding req → req = r) : x'.Kept r response := by
  have hloop := h.loop
  cases hx with
  | drift _ _ hrecent hloop' => exact h.heads hrecent hloop' honly
  | claim _ hx' =>
    subst hx'
    exact h.of_eq rfl rfl
  | reset _ hx' =>
    subst hx'
    exact h.of_eq rfl rfl
  | fail _ hx' =>
    subst hx'
    exact .of_aside h.recent rfl
  | bind hbinding =>
    rw [hbinding] at hloop
    exact hloop.elim
  | confirm _ hx' =>
    subst hx'
    exact .of_aside h.recent rfl
  | record hrecording =>
    rw [hrecording] at hloop
    exact hloop.elim

theorem Kept.next (h : x.Kept r response) {i : EntryEvent} (hi : onlyRequest r x i = true) :
    (x.next i).Kept r response := by
  cases i with
  | own e =>
    refine h.advance (x.act_advance x e) fun req hreq => ?_
    have hloop : (x.next (.own e)).loop = .deciding req := hreq
    simpa [onlyRequest, hloop] using hi
  | receive cmd => exact h.of_eq rfl rfl

/-- A request that was answered is answered the same way whenever it comes again; only the loop
notices.  `first` is the run from the first copy to its answer, `later` from there to the second
copy, with no other request for the connection between them. -/
theorem claim_replayed (x : TcpTunnel) (r : ClaimConnReq) (p : ClaimReqProcessing)
    (first later : List EntryEvent) (hfirst : x.loop = .deciding r)
    (hanswering : Along next (fun y i => (y.next i).loop ≠ .ready) x first)
    (hanswer : (exec next x first).loop = .processed p)
    (honly : Along next (fun y i => onlyRequest r y i = true) (exec next x first) later)
    (hagain : (exec next (exec next x first) later).loop = .deciding r) :
    let y := exec next (exec next x first) later
    y.next (.own .go) = { y with loop := .processed ⟨p.response, none, none⟩ } ∧
      ∀ ok, (y.next (.own .go)).next (.own (.enqueued ok)) =
        { y with loop := .replying p.response } := by
  have hstart : x.Answering r := by simp only [Answering, hfirst]
  have hanswered : (exec next x first).Answering r :=
    exec_inv (fun _ _ h hready => h.next hready) hstart hanswering
  simp only [Answering, hanswer] at hanswered
  obtain ⟨response, hrecent, hresponse⟩ := hanswered
  have hkept : (exec next x first).Kept r response := ⟨hrecent, by rw [hanswer]; trivial⟩
  have hlater : (exec next (exec next x first) later).Kept r response :=
    exec_inv (fun _ _ h hi => h.next hi) hkept honly
  generalize exec next (exec next x first) later = y at hagain hlater
  have hgo : y.next (.own .go) = { y with loop := .processed ⟨p.response, none, none⟩ } := by
    show y.go = _
    simp only [go, hagain, decisionPlan_of_recent hlater.recent, onDecision, hresponse]
  refine ⟨hgo, fun ok => ?_⟩
  rw [hgo]
  rfl

/-- The first claim of a new connection is accepted; when its copy comes, the entry is retired. -/
theorem claim_replayed_retired :
    let r : ClaimConnReq := ⟨5, .stream, [7], 9, 1, 11⟩
    let received : List EntryEvent := [.receive (.claimConnReq r), .own (.deliver true)]
    let first : List EntryEvent := [.own .go, .own (.checked none), .own (.reserved none), .own .go,
      .own .go, .own .go]
    let later : List EntryEvent := [.own (.enqueued true), .own (.reply true), .own .abandon,
      .receive (.claimConnReq r), .own (.deliver true)]
    let y := exec next (exec next (exec next (.new [1] [2] 9 false) received) first) later
    y.state = .retired ∧
      y.next (.own .go) = { y with loop := .processed ⟨claimResponseCmd r .ack, none, none⟩ } ∧
      ∀ ok, (y.next (.own .go)).next (.own (.enqueued ok)) =
        { y with loop := .replying (claimResponseCmd r .ack) } := by
  intro r received first later y
  have h := claim_replayed (exec next (.new [1] [2] 9 false) received) r
    ⟨claimResponseCmd r .ack, some 0, none⟩ first later (by decide +kernel) (by decide +kernel)
    (by decide +kernel) (by decide +kernel) (by decide +kernel)
  exact ⟨by decide +kernel, h⟩

end TcpTunnel

end BuckyP2p.Tcp
