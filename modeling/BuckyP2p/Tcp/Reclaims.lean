import BuckyP2p.Tcp.Agreement

/-!
# BuckyP2p.Tcp.Reclaims — a claim after claims that were rejected

An end whose claim was rejected goes back to `Idle` (or `FirstClaimPending`), and its next claim is
for the same `lease_seq`.  The other end keeps the last request that it has answered in
`recent_claim`, and takes every other request for that `lease_seq` for a contradiction.

* `exchange`: a claim from `claim_entry` to the answer, with nothing else at work.  The other end
  first handles what it has got before the request.
* `Receptive`: the end has no record for the `lease_seq`, and its entry is there.
* `claim_granted_iff`: in every reachable state a new claim is granted if and only if the other end
  is receptive.
-/

namespace BuckyP2p.Tcp

open Lib

/-- The channel of the claim of the other end that the loop is at work on. -/
def Loop.channel : Loop → Option TcpChannelId
  | .deciding req | .checking req _ | .reserving req _ | .taking req _ | .binding req _ =>
    some req.channelId
  | .recording record _ => some record.channelId
  | _ => none

/-- The channel that `claim_entry` is called for. -/
def ClaimEvent.channel : ClaimEvent → Option TcpChannelId
  | .claim _ _ channelId _ => some channelId
  | _ => none

/-- The loop is not at work on a claim of the other end, and does not bind the entry. -/
def Loop.unclaimed : Loop → Bool
  | .ready | .waited _ | .found _ | .telling _ | .handling _ _ => true
  | _ => false

namespace TcpTunnel

variable {x x' y : TcpTunnel}

/-! ## What no step changes -/

/-- The connection of an entry, and whether the first claim is made at this end. -/
def place (x : TcpTunnel) : TcpConnId × Bool := (x.connId, x.firstClaimLocal)

theorem claimEntry_place (x : TcpTunnel) (kind : TcpChannelKind) (purpose : TunnelPurpose)
    (channelId : TcpChannelId) (claimNonce : U64) :
    (x.claimEntry kind purpose channelId claimNonce).place = x.place := by
  unfold claimEntry
  split
  · split
    · rfl
    · rfl
  · rfl
  · rfl

theorem runLease_place (x : TcpTunnel) (i : Nat) (lease : LeaseContext) (t : Todo) :
    (x.runLease i lease t).place = x.place := by
  cases t with
  | markDraining =>
    simp only [runLease]
    split
    · rfl
    · rfl
  | settle =>
    simp only [runLease]
    split
    · rfl
    · rfl
    · rfl
  | _ => rfl

theorem runChore_place (x : TcpTunnel) (chore : Chore) : (x.runChore chore).place = x.place := by
  cases chore with
  | lease i t =>
    simp only [runChore]
    split
    · exact runLease_place ..
    · rfl
  | _ => rfl

theorem useLease_place (x : TcpTunnel) (i : Nat) (lease : LeaseContext) (e : LeaseEvent) :
    (x.useLease i lease e).place = x.place := by
  cases e with
  | observe =>
    simp only [useLease]
    split
    · rfl
    · split
      · rfl
      · rfl
  | fail => exact runLease_place ..
  | dropRead => rfl
  | dropWrite => rfl
  | check => rfl
  | _ =>
    simp only [useLease]
    split
    · rfl
    · rfl

theorem close_place (x : TcpTunnel) : x.close.place = x.place := by
  unfold close
  split
  · rfl
  · dsimp only
    split
    · rfl
    · split
      · split
        · rfl
        · rfl
      · split
        · rfl
        · rfl
      all_goals rfl

theorem keepDrain_place (x : TcpTunnel) (cmd : DrainCmd) : (x.keepDrain cmd).place = x.place := by
  cases cmd with
  | writeFin fin =>
    simp only [keepDrain, keepWriteFin]
    split
    · rfl
    · split
      · split
        · rfl
        · rfl
      · rfl
  | readDone done =>
    simp only [keepDrain, keepReadDone]
    split
    · rfl
    · split
      · split
        · rfl
        · rfl
      · rfl

theorem arrive_place (x : TcpTunnel) (cmd : DrainCmd) : (x.arrive cmd).place = x.place := by
  have hlater : (if cmd.leaseSeq.gt x.committedLeaseSeq then x.retirePlainEntry else x).place =
      x.place := by
    split
    · rfl
    · rfl
  unfold arrive
  split
  · rfl
  · split
    · exact hlater
    · exact hlater
    · exact hlater
    · split
      · split
        · rfl
        · exact x.keepDrain_place cmd
      · rfl
    · rfl
    · rfl

theorem deliver_place (x : TcpTunnel) (active : Bool) : (x.deliver active).place = x.place := by
  unfold deliver
  split
  · dsimp only
    split
    · rfl
    · split
      · rfl
      · rfl
  · dsimp only
    split
    · rfl
    · rfl
  · exact arrive_place ..
  · rfl

theorem handle_place (x : TcpTunnel) (i : Nat) (cmd : DrainCmd) :
    (x.handle i cmd).place = x.place := by
  unfold handle
  dsimp only
  split
  · cases cmd with
    | writeFin fin => rfl
    | readDone done => rfl
  · rfl

theorem go_place (x : TcpTunnel) : x.go.place = x.place := by
  unfold go
  split
  case h_11 => exact handle_place ..
  case h_1 => split <;> rfl
  case h_2 => split <;> rfl
  case h_5 => split <;> rfl
  case h_6 => split <;> rfl
  case h_8 => split <;> rfl
  all_goals rfl

/-- A step at an end keeps what the entry is. -/
theorem act_place (x y : TcpTunnel) (e : ClaimEvent) : (x.act y e).1.place = x.place := by
  cases e with
  | claim kind purpose channelId nonce => exact claimEntry_place ..
  | deliver active => exact deliver_place ..
  | go => exact go_place x
  | close => exact close_place x
  | abandon => rfl
  | forget channelId => rfl
  | lease i e =>
    simp only [act]
    split
    · exact useLease_place ..
    · rfl
  | run i =>
    simp only [act]
    split
    · exact runChore_place ..
    · rfl
  | register i =>
    simp only [act, registerClaim]
    split
    · rfl
    · rfl
  | reset i =>
    simp only [act, resetClaim]
    split
    · rfl
    · rfl
  | sendClaim i ok =>
    simp only [act, sendClaim]
    split
    · cases ok with
      | true => rfl
      | false => rfl
    · rfl
  | sendDrain i ok =>
    simp only [act, sendDrain]
    split
    · cases ok with
      | true => rfl
      | false => rfl
    · rfl
  | checked answer =>
    simp only [act, checked]
    split
    · rfl
    · rfl
    · rfl
  | reserved answer =>
    simp only [act, reserved]
    split
    · rfl
    · rfl
    · rfl
  | enqueued ok =>
    simp only [act, enqueued]
    split
    · split
      · split
        · rfl
        · rfl
      · split
        · rfl
        · rfl
    · rfl
  | reply ok =>
    simp only [act, reply]
    split
    · cases ok with
      | true => rfl
      | false => rfl
    · rfl

/-! ## Channel ids that were not used -/

/-- No request is for the channel. -/
structure Unseen (channelId : TcpChannelId) (x : TcpTunnel) : Prop where
  recent : ∀ record, x.recentClaim = some record → record.channelId ≠ channelId
  loop : x.loop.channel ≠ some channelId
  inbox : ∀ req, .claimConnReq req ∈ x.inbox → req.channelId ≠ channelId
  opening : ∀ req ∈ x.opening, req.channelId ≠ channelId
  sending : ∀ req ∈ x.sending, req.channelId ≠ channelId

namespace Unseen

variable {channelId : TcpChannelId}

theorem new (localId remoteId : P2pId) (connId : TcpConnId) (first : Bool) :
    Unseen channelId (.new localId remoteId connId first) where
  recent _ h := by cases h
  loop h := by cases h
  inbox _ h := by cases h
  opening _ h := by cases h
  sending _ h := by cases h

/-- A step that is not one of a claim. -/
theorem calm (h : Unseen channelId x) (hcalm : Calm x x') : Unseen channelId x' where
  recent record hrecord := by
    rw [hcalm.recent] at hrecord
    exact h.recent record hrecord
  loop := by
    rw [hcalm.loop]
    exact h.loop
  inbox := by
    rw [hcalm.inbox]
    exact h.inbox
  opening := by
    rw [hcalm.opening]
    exact h.opening
  sending := by
    rw [hcalm.sending]
    exact h.sending

/-- The loop goes on with the same request, or is done with it. -/
theorem goes (h : Unseen channelId x) {l : Loop} (hl : l.channel = none ∨
    l.channel = x.loop.channel) : Unseen channelId { x with loop := l } := by
  refine { h with loop := ?_ }
  rcases hl with hnone | hsame
  · show l.channel ≠ _
    rw [hnone]
    exact nofun
  · show l.channel ≠ _
    rw [hsame]
    exact h.loop

/-- A command that was sent to the end. -/
theorem receives (h : Unseen channelId x) {cmd : TcpControlCmd}
    (hcmd : ∀ req, cmd = .claimConnReq req → req.channelId ≠ channelId) :
    Unseen channelId { x with inbox := x.inbox ++ [cmd] } := by
  refine { h with inbox := fun req hmem => ?_ }
  rcases List.mem_append.mp hmem with hbefore | hnew
  · exact h.inbox req hbefore
  · exact hcmd req (List.mem_singleton.mp hnew).symm

/-- A command that the end has read. -/
theorem reads (h : Unseen channelId x) {cmd : TcpControlCmd} {rest : List TcpControlCmd}
    (hinbox : x.inbox = cmd :: rest) : Unseen channelId { x with inbox := rest } := by
  refine { h with inbox := fun req hmem => h.inbox req ?_ }
  rw [hinbox]
  exact List.mem_cons_of_mem _ hmem

theorem arrive (h : Unseen channelId x) (cmd : DrainCmd) : Unseen channelId (x.arrive cmd) := by
  have hlater :
      Unseen channelId (if cmd.leaseSeq.gt x.committedLeaseSeq then x.retirePlainEntry else x) := by
    split_ifs with hlt
    · exact h.calm x.retirePlainEntry_calm
    · exact h
  unfold TcpTunnel.arrive
  split
  · exact h.goes (.inl rfl)
  · split
    · exact hlater
    · exact hlater
    · exact hlater
    · split_ifs with hseq hchannel
      · exact h.calm x.retirePlainEntry_calm
      · exact h.calm (x.keepDrain_calm cmd)
      · exact h
    · exact h.goes (.inl rfl)
    · exact h.goes (.inl rfl)

theorem deliver (h : Unseen channelId x) (active : Bool) : Unseen channelId (x.deliver active) := by
  unfold TcpTunnel.deliver
  split
  · next req rest hready hinbox =>
    have hrest := h.reads hinbox
    have hreq : req.channelId ≠ channelId := by
      refine h.inbox req ?_
      rw [hinbox]
      exact List.mem_cons_self ..
    dsimp only
    split_ifs with hclosed hentry
    · exact hrest.goes (.inl rfl)
    · refine { hrest with loop := ?_ }
      intro heq
      exact hreq (Option.some.inj heq)
    · exact hrest.goes (.inl rfl)
  · next ack rest hready hinbox =>
    dsimp only
    split_ifs with hwaiter
    · exact (h.reads hinbox).goes (.inl rfl)
    · exact h.reads hinbox
  · next cmd rest hready hinbox => exact (h.reads hinbox).arrive cmd
  · exact h

theorem onDecision_channel (req : ClaimConnReq) (decision : ClaimDecision) :
    (onDecision req decision).channel = none ∨
      (onDecision req decision).channel = some req.channelId := by
  cases decision with
  | replay response => exact .inl rfl
  | _ => exact .inr rfl

/-- The request that the loop is at work on. -/
theorem goes_on (h : Unseen channelId x) {req : ClaimConnReq}
    (hloop : x.loop.channel = some req.channelId) (decision : ClaimDecision) :
    Unseen channelId { x with loop := onDecision req decision } := by
  refine h.goes ?_
  rw [hloop]
  exact onDecision_channel req decision

theorem go (h : Unseen channelId x) : Unseen channelId x.go := by
  unfold TcpTunnel.go
  split
  · next req hloop =>
    split
    · exact h.goes_on (by rw [hloop]; rfl) _
    · exact h.goes (.inr (by rw [hloop]; rfl))
  · next req localChannelId hloop =>
    split_ifs with hstream
    · exact { h.goes (l := .binding req localChannelId) (.inr (by rw [hloop]; rfl)) with }
    · exact h.goes (.inl rfl)
  · next req localChannelId hloop =>
    have hgoes := h.goes (l := .recording (req.record .ack)
      ⟨claimResponseCmd req .ack, some x.leases.length, localChannelId⟩) (.inr (by rw [hloop]; rfl))
    exact { hgoes with }
  · next record processing hloop =>
    refine { h.goes (l := .processed processing) (.inl rfl) with recent := ?_ }
    intro r hr
    obtain rfl : record = r := Option.some.inj hr
    intro heq
    refine h.loop ?_
    rw [hloop, ← heq]
    rfl
  · split_ifs with hentry
    · exact h.goes (.inl rfl)
    · exact h.goes (.inl rfl)
  · split
    · refine h.goes (.inl ?_)
      split_ifs with hok
      · rfl
      · rfl
    · exact h.goes (.inl rfl)
  · exact { h.goes (l := .telling _) (.inl rfl) with }
  · split_ifs with hstream
    · exact { h.goes (l := .confirming _) (.inl rfl) with }
    · exact h.goes (.inl rfl)
  · exact { h.goes (l := .telling _) (.inl rfl) with }
  · exact { h.goes (l := .ready) (.inl rfl) with }
  · exact (h.goes (l := .ready) (.inl rfl)).calm (x.handle_calm ..)
  · exact h

theorem claimEntry (h : Unseen channelId x) (kind : TcpChannelKind) (purpose : TunnelPurpose)
    {id : TcpChannelId} (hid : id ≠ channelId) (claimNonce : U64) :
    Unseen channelId (x.claimEntry kind purpose id claimNonce) := by
  have hstart : ∀ c : ClaimingState, c.channelId = id → Unseen channelId (x.startClaim c) := by
    intro c hc
    refine { h with opening := fun req hmem => ?_ }
    rcases List.mem_append.mp hmem with hbefore | hnew
    · exact h.opening req hbefore
    · rw [List.mem_singleton.mp hnew]
      intro heq
      exact hid (hc.symm.trans heq)
  unfold TcpTunnel.claimEntry
  split
  · split_ifs with hfirst
    · exact hstart _ rfl
    · exact h
  · exact hstart _ rfl
  · exact h

theorem registerClaim (h : Unseen channelId x) (i : Nat) : Unseen channelId (x.registerClaim i) := by
  unfold TcpTunnel.registerClaim
  split
  · next req hi =>
    refine { h with
      opening := fun r hmem => h.opening r (List.mem_of_mem_eraseIdx hmem)
      sending := fun r hmem => ?_ }
    rcases List.mem_append.mp hmem with hbefore | hnew
    · exact h.sending r hbefore
    · rw [List.mem_singleton.mp hnew]
      exact h.opening req (List.mem_of_getElem? hi)
  · exact h

theorem sendClaim (h : Unseen channelId x) (hy : Unseen channelId y) (i : Nat) (ok : Bool) :
    Unseen channelId (x.sendClaim y i ok).1 ∧ Unseen channelId (x.sendClaim y i ok).2 := by
  unfold TcpTunnel.sendClaim
  split
  · next req hi =>
    have hrest : Unseen channelId { x with sending := x.sending.eraseIdx i } :=
      { h with sending := fun r hmem => h.sending r (List.mem_of_mem_eraseIdx hmem) }
    cases ok with
    | true =>
      refine ⟨hrest, hy.receives fun r heq => ?_⟩
      obtain rfl : req = r := TcpControlCmd.claimConnReq.inj heq
      exact h.sending req (List.mem_of_getElem? hi)
    | false => exact ⟨{ hrest with }, hy⟩
  · exact ⟨h, hy⟩

theorem checked (h : Unseen channelId x) (answer : Option AcceptRefusal) :
    Unseen channelId (x.checked answer) := by
  unfold TcpTunnel.checked
  split
  · next hloop => exact h.goes_on (by rw [hloop]; rfl) _
  · next hloop => exact h.goes (.inr (by rw [hloop]; rfl))
  · exact h

theorem reserved (h : Unseen channelId x) (answer : Option AcceptRefusal) :
    Unseen channelId (x.reserved answer) := by
  unfold TcpTunnel.reserved
  split
  · next hloop => exact h.goes (.inr (by rw [hloop]; rfl))
  · next hloop => exact h.goes (.inr (by rw [hloop]; rfl))
  · exact h

theorem enqueued (h : Unseen channelId x) (ok : Bool) : Unseen channelId (x.enqueued ok) := by
  unfold TcpTunnel.enqueued
  split
  · next p hloop =>
    cases p.localConflictChannel with
    | some id =>
      have hforget : Unseen channelId { x with pendingClaims := x.pendingClaims.erase id } :=
        { h with }
      dsimp only
      split_ifs with hlost
      · exact hforget.goes (.inl rfl)
      · exact hforget.goes (.inl rfl)
    | none =>
      dsimp only
      split_ifs with hlost
      · exact h.goes (.inl rfl)
      · exact h.goes (.inl rfl)
  · exact h

theorem reply (h : Unseen channelId x) (hy : Unseen channelId y) (ok : Bool) :
    Unseen channelId (x.reply y ok).1 ∧ Unseen channelId (x.reply y ok).2 := by
  unfold TcpTunnel.reply
  split
  · cases ok with
    | true => exact ⟨h.goes (.inl rfl), hy.receives nofun⟩
    | false => exact ⟨h.goes (.inl rfl), hy⟩
  · exact ⟨h, hy⟩

theorem sendDrain (h : Unseen channelId x) (hy : Unseen channelId y) (i : Nat) (ok : Bool) :
    Unseen channelId (x.sendDrain y i ok).1 ∧ Unseen channelId (x.sendDrain y i ok).2 := by
  unfold TcpTunnel.sendDrain
  split
  · cases ok with
    | true => exact ⟨{ h with }, hy.receives nofun⟩
    | false => exact ⟨{ h with }, hy⟩
  · exact ⟨h, hy⟩

/-- A step that does not claim with the channel id. -/
theorem act (h : Unseen channelId x) (hy : Unseen channelId y) {e : ClaimEvent}
    (he : e.channel ≠ some channelId) :
    Unseen channelId (x.act y e).1 ∧ Unseen channelId (x.act y e).2 := by
  cases e with
  | claim kind purpose id nonce =>
    refine ⟨h.claimEntry kind purpose (fun heq => he ?_) nonce, hy⟩
    exact congrArg some heq
  | register i => exact ⟨h.registerClaim i, hy⟩
  | sendClaim i ok => exact h.sendClaim hy i ok
  | reset i =>
    refine ⟨?_, hy⟩
    simp only [TcpTunnel.act, resetClaim]
    split
    · exact { h with }
    · exact h
  | forget id => exact ⟨{ h with }, hy⟩
  | deliver active => exact ⟨h.deliver active, hy⟩
  | go => exact ⟨h.go, hy⟩
  | checked answer => exact ⟨h.checked answer, hy⟩
  | reserved answer => exact ⟨h.reserved answer, hy⟩
  | enqueued ok => exact ⟨h.enqueued ok, hy⟩
  | reply ok => exact h.reply hy ok
  | lease i e =>
    simp only [TcpTunnel.act]
    split
    · next hi => exact ⟨h.calm (useLease_calm hi e), hy⟩
    · exact ⟨h, hy⟩
  | run i =>
    simp only [TcpTunnel.act]
    split
    · have hrest : Unseen channelId { x with todo := x.todo.eraseIdx i } := { h with }
      exact ⟨hrest.calm (runChore_calm ..), hy⟩
    · exact ⟨h, hy⟩
  | sendDrain i ok => exact h.sendDrain hy i ok
  | abandon => exact ⟨h.calm x.retirePlainEntry_calm, hy⟩
  | close => exact ⟨h.calm x.close_calm, hy⟩

end Unseen

/-! ## The loop of the other end -/

/-- One step at the first of two ends. -/
def acts (s : TcpTunnel × TcpTunnel) (e : ClaimEvent) : TcpTunnel × TcpTunnel := s.1.act s.2 e

/-- The rest of what the loop is at work on; every target and every slot is there. -/
def finishes : List ClaimEvent :=
  [.go, .checked none, .reserved none, .go, .go, .go, .enqueued true, .reply true]

/-- The loop reads the next command and handles it. -/
def serves : List ClaimEvent := .deliver true :: finishes

/-- The entry is not claimed at this end, and not bound. -/
def Resting (x : TcpTunnel) : Prop := x.state.status = .free ∨ x.state = .retired

theorem Resting.claimOf (h : x.Resting) (ack : ClaimConnAck) : x.claimOf ack = none := by
  unfold TcpTunnel.claimOf
  split
  · next c hs =>
    rcases h with hfree | hretired
    · rw [hs] at hfree
      cases hfree
    · rw [hs] at hretired
      cases hretired
  · rfl

/-- The loop has handled a command, and nothing that a request depends on has changed. -/
structure Served (x x' : TcpTunnel) : Prop where
  loop : x'.loop = .ready
  place : x'.place = x.place
  state : x'.state = x.state
  committed : x'.committedLeaseSeq = x.committedLeaseSeq
  recent : x'.recentClaim = x.recentClaim
  registered : x'.registered = x.registered
  stream : x'.stream = x.stream

/-- A loop that waits for a command, or has ended, has nothing to finish. -/
theorem act_finishes (hloop : x.loop = .ready ∨ x.loop = .stopped) {e : ClaimEvent}
    (he : e ∈ finishes) : x.act y e = (x, y) := by
  have hcases : e = .go ∨ e = .checked none ∨ e = .reserved none ∨ e = .enqueued true ∨
      e = .reply true := by
    simp only [finishes, List.mem_cons, List.not_mem_nil, or_false] at he
    tauto
  rcases hloop with hloop | hloop
  · rcases hcases with rfl | rfl | rfl | rfl | rfl
    · simp only [act, go, hloop]
    · simp only [act, checked, hloop]
    · simp only [act, reserved, hloop]
    · simp only [act, enqueued, hloop]
    · simp only [act, reply, hloop]
  · rcases hcases with rfl | rfl | rfl | rfl | rfl
    · simp only [act, go, hloop]
    · simp only [act, checked, hloop]
    · simp only [act, reserved, hloop]
    · simp only [act, enqueued, hloop]
    · simp only [act, reply, hloop]

theorem exec_finishes (hloop : x.loop = .ready ∨ x.loop = .stopped) {es : List ClaimEvent}
    (hes : es ⊆ finishes) : exec acts (x, y) es = (x, y) := by
  induction es with
  | nil => rfl
  | cons e es ih =>
    have hhead : acts (x, y) e = (x, y) := act_finishes hloop (hes (List.mem_cons_self ..))
    rw [exec_cons, hhead]
    exact ih fun e he => hes (List.mem_cons_of_mem _ he)

theorem served_telling {channelId : TcpChannelId} (hloop : x.loop = .telling channelId) :
    ∃ x', exec acts (x, y) finishes = (x', y) ∧ Served x x' ∧ x'.inbox = x.inbox := by
  let x' : TcpTunnel :=
    { x with pendingClaims := x.pendingClaims.erase channelId, loop := .ready }
  have hgo : acts (x, y) .go = (x', y) := by simp only [acts, act, go, hloop, x']
  refine ⟨x', ?_, ⟨rfl, rfl, rfl, rfl, rfl, rfl, rfl⟩, rfl⟩
  rw [finishes, exec_cons, hgo]
  exact exec_finishes (.inl rfl) (by decide)

theorem served_handling {i : Nat} {cmd : DrainCmd} (hloop : x.loop = .handling i cmd) :
    ∃ x', exec acts (x, y) finishes = (x', y) ∧ Served x x' ∧ x'.inbox = x.inbox := by
  have hgo : acts (x, y) .go = (x.handle i cmd, y) := by simp only [acts, act, go, hloop]
  have hserved : Served x (x.handle i cmd) ∧ (x.handle i cmd).inbox = x.inbox := by
    unfold handle
    dsimp only
    split
    · cases cmd with
      | writeFin fin => exact ⟨⟨rfl, rfl, rfl, rfl, rfl, rfl, rfl⟩, rfl⟩
      | readDone done => exact ⟨⟨rfl, rfl, rfl, rfl, rfl, rfl, rfl⟩, rfl⟩
    · exact ⟨⟨rfl, rfl, rfl, rfl, rfl, rfl, rfl⟩, rfl⟩
  refine ⟨x.handle i cmd, ?_, hserved⟩
  rw [finishes, exec_cons, hgo]
  exact exec_finishes (.inl hserved.1.loop) (by decide)

/-- An answer that comes when the entry is not claimed has no effect. -/
theorem served_found (hrest : x.Resting) {ack : ClaimConnAck} (hloop : x.loop = .found ack) :
    ∃ x', exec acts (x, y) finishes = (x', y) ∧ Served x x' ∧ x'.inbox = x.inbox := by
  have hgo : acts (x, y) .go = ({ x with loop := .ready }, y) := by
    simp only [acts, act, go, hloop, hrest.claimOf ack]
  refine ⟨{ x with loop := .ready }, ?_, ⟨rfl, rfl, rfl, rfl, rfl, rfl, rfl⟩, rfl⟩
  rw [finishes, exec_cons, hgo]
  exact exec_finishes (.inl rfl) (by decide)

theorem served_waited (hrest : x.Resting) {ack : ClaimConnAck} (hloop : x.loop = .waited ack) :
    ∃ x', exec acts (x, y) finishes = (x', y) ∧ Served x x' ∧ x'.inbox = x.inbox := by
  by_cases hentry : x.getEntry ack.connId = true
  · have hgo : acts (x, y) .go = ({ x with loop := .found ack }, y) := by
      simp only [acts, act, go, hloop, hentry, if_true]
    have hready : exec acts ({ x with loop := .found ack }, y) [.checked none, .reserved none, .go] =
        ({ x with loop := .ready }, y) := by
      have hnone : claimOf { x with loop := .found ack } ack = none := hrest.claimOf ack
      simp only [exec_cons, exec_nil, acts, act, checked, reserved, go, hnone]
    refine ⟨{ x with loop := .ready }, ?_, ⟨rfl, rfl, rfl, rfl, rfl, rfl, rfl⟩, rfl⟩
    rw [finishes, exec_cons, hgo]
    refine (exec_append acts _ [.checked none, .reserved none, .go] _).trans ?_
    rw [hready]
    exact exec_finishes (.inl rfl) (by decide)
  · have hgo : acts (x, y) .go = ({ x with loop := .telling ack.channelId }, y) := by
      simp only [acts, act, go, hloop, hentry, if_false, Bool.false_eq_true]
    let x' : TcpTunnel :=
      { x with pendingClaims := x.pendingClaims.erase ack.channelId, loop := .ready }
    have hready : exec acts ({ x with loop := .telling ack.channelId }, y)
        [.checked none, .reserved none, .go] = (x', y) := by
      simp only [exec_cons, exec_nil, acts, act, checked, reserved, go, x']
    refine ⟨x', ?_, ⟨rfl, rfl, rfl, rfl, rfl, rfl, rfl⟩, rfl⟩
    rw [finishes, exec_cons, hgo]
    refine (exec_append acts _ [.checked none, .reserved none, .go] _).trans ?_
    rw [hready]
    exact exec_finishes (.inl rfl) (by decide)

/-- What the loop is at work on, when it is not a claim, leaves the entry as it is. -/
theorem served_unclaimed (hrest : x.Resting) (hloop : x.loop.unclaimed = true) :
    ∃ x', exec acts (x, y) finishes = (x', y) ∧ Served x x' ∧ x'.inbox = x.inbox := by
  cases h : x.loop with
  | ready =>
    refine ⟨x, exec_finishes (.inl h) (List.Subset.refl _), ?_, rfl⟩
    exact ⟨h, rfl, rfl, rfl, rfl, rfl, rfl⟩
  | waited ack => exact served_waited hrest h
  | found ack => exact served_found hrest h
  | telling channelId => exact served_telling h
  | handling i cmd => exact served_handling h
  | _ =>
    rw [h] at hloop
    cases hloop

/-- A command that leaves the entry as it is, when the entry is not claimed: one for a lease finds
the connection in the table, and is not for a later lease. -/
def readable (x : TcpTunnel) : TcpControlCmd → Bool
  | .drain cmd => x.getEntry cmd.connId && !cmd.leaseSeq.gt x.committedLeaseSeq
  | _ => true

theorem Served.readable (h : Served x x') (cmd : TcpControlCmd) :
    x'.readable cmd = x.readable cmd := by
  have hconn : x'.connId = x.connId := congrArg Prod.fst h.place
  cases cmd with
  | drain cmd => simp only [TcpTunnel.readable, getEntry, h.registered, hconn, h.committed]
  | _ => rfl

/-- A command for a lease, when the entry is not claimed. -/
theorem Resting.arrive (h : x.Resting) {cmd : DrainCmd} (hentry : x.getEntry cmd.connId = true) :
    x.arrive cmd = if cmd.leaseSeq.gt x.committedLeaseSeq then x.retirePlainEntry else x := by
  unfold TcpTunnel.arrive
  rw [hentry, Bool.not_true, if_neg Bool.false_ne_true]
  rcases h with hfree | hretired
  · cases hs : x.state with
    | firstClaimPending => rfl
    | idle => rfl
    | retired => rfl
    | _ =>
      rw [hs] at hfree
      cases hfree
  · rw [hretired]

theorem arrive_missing {cmd : DrainCmd} (hentry : x.getEntry cmd.connId = false) :
    x.arrive cmd = { x with loop := .stopped } := by
  unfold arrive
  rw [hentry, Bool.not_false, if_pos rfl]

theorem acts_drain (hloop : x.loop = .ready) {cmd : DrainCmd} {rest : List TcpControlCmd}
    (hinbox : x.inbox = .drain cmd :: rest) :
    acts (x, y) (.deliver true) = (arrive { x with inbox := rest } cmd, y) := by
  simp only [acts, act, deliver, hloop, hinbox]

/-- The loop reads a command that is not a request. -/
theorem serves_readable (hrest : x.Resting) (hloop : x.loop = .ready) {cmd : TcpControlCmd}
    {rest : List TcpControlCmd} (hinbox : x.inbox = cmd :: rest) (hclaim : cmd.claim = none)
    (hread : x.readable cmd = true) :
    ∃ x', exec acts (x, y) serves = (x', y) ∧ Served x x' ∧ x'.inbox = rest := by
  have hfinish : ∀ l : Loop, l.unclaimed = true →
      acts (x, y) (.deliver true) = ({ x with inbox := rest, loop := l }, y) →
      ∃ x', exec acts (x, y) serves = (x', y) ∧ Served x x' ∧ x'.inbox = rest := by
    intro l hl hdeliver
    have hrest₁ : Resting { x with inbox := rest, loop := l } := hrest
    obtain ⟨x', hexec, hserved, hinbox'⟩ := served_unclaimed (y := y) hrest₁ hl
    refine ⟨x', ?_, { hserved with }, hinbox'⟩
    rw [serves, exec_cons, hdeliver]
    exact hexec
  cases cmd with
  | claimConnReq req => cases hclaim
  | claimConnAck ack =>
    by_cases hwaiter : ack.channelId ∈ x.pendingClaims
    · refine hfinish (.waited ack) rfl ?_
      simp only [acts, act, deliver, hloop, hinbox, hwaiter, if_true]
    · refine hfinish .ready rfl ?_
      simp only [acts, act, deliver, hloop, hinbox, hwaiter, if_false]
  | drain cmd =>
    obtain ⟨hentry, hseq⟩ := Bool.and_eq_true_iff.mp hread
    have hnot : ¬ cmd.leaseSeq.gt x.committedLeaseSeq = true := by simpa using hseq
    have hrest₁ : Resting { x with inbox := rest } := hrest
    have hsame : arrive { x with inbox := rest } cmd = { x with inbox := rest } :=
      (hrest₁.arrive hentry).trans (if_neg hnot)
    refine hfinish .ready rfl ?_
    rw [acts_drain hloop hinbox, hsame, ← hloop]

/-- A command for a lease that is not there, or is still to come: the loop ends, or the entry is
retired. -/
theorem serves_unreadable (hrest : x.Resting) (hloop : x.loop = .ready) {cmd : TcpControlCmd}
    {rest : List TcpControlCmd} (hinbox : x.inbox = cmd :: rest)
    (hread : x.readable cmd = false) :
    ∃ x', exec acts (x, y) serves = (x', y) ∧ (x'.loop = .stopped ∨
      x'.loop = .ready ∧ x'.state = .retired ∧ x'.place = x.place ∧
        x'.recentClaim = x.recentClaim ∧ x'.inbox = rest) := by
  cases cmd with
  | claimConnReq req => cases hread
  | claimConnAck ack => cases hread
  | drain cmd =>
    have hrest₁ : Resting { x with inbox := rest } := hrest
    cases hentry : x.getEntry cmd.connId with
    | true =>
      have hlt : cmd.leaseSeq.gt x.committedLeaseSeq = true := by
        have hseq : (x.getEntry cmd.connId && !cmd.leaseSeq.gt x.committedLeaseSeq) = false := hread
        rwa [hentry, Bool.true_and, Bool.not_eq_false'] at hseq
      have hretire : arrive { x with inbox := rest } cmd = retirePlainEntry { x with inbox := rest } :=
        (hrest₁.arrive hentry).trans (if_pos hlt)
      refine ⟨retirePlainEntry { x with inbox := rest }, ?_, .inr ⟨hloop, rfl, rfl, rfl, rfl⟩⟩
      rw [serves, exec_cons, acts_drain hloop hinbox, hretire]
      refine exec_finishes ?_ (List.Subset.refl _)
      exact .inl hloop
    | false =>
      have hstop : arrive { x with inbox := rest } cmd =
          { x with inbox := rest, loop := .stopped } := arrive_missing hentry
      refine ⟨{ x with inbox := rest, loop := .stopped }, ?_, .inl rfl⟩
      rw [serves, exec_cons, acts_drain hloop hinbox, hstop]
      exact exec_finishes (.inr rfl) (List.Subset.refl _)

/-! ### The request -/

/-- The entry is there for a claim with this number. -/
def Expects (x : TcpTunnel) (leaseSeq : TcpLeaseSeq) : Prop :=
  x.state = .idle ∧ leaseSeq = nextLeaseSeq x.committedLeaseSeq ∨
    x.state = .firstClaimPending ∧ x.firstClaimLocal = false ∧ leaseSeq = 1

theorem Expects.decisionOnState {req : ClaimConnReq} (h : x.Expects req.leaseSeq) :
    x.decisionOnState req = .checkThen .accept := by
  rcases h with ⟨hs, hseq⟩ | ⟨hs, hfirst, hseq⟩
  · simp only [TcpTunnel.decisionOnState, hs, hseq, ne_eq, not_true_eq_false, if_false]
  · simp only [TcpTunnel.decisionOnState, hs, validateRemoteFirstClaim, hfirst, hseq, ne_eq,
      not_true_eq_false, if_false, Bool.false_eq_true]

/-- A request that was handled is answered, whatever comes before. -/
theorem answers_processed {processing : ClaimReqProcessing} (hloop : x.loop = .processed processing)
    (es : List ClaimEvent) (hes : es ⊆ [.go, .checked none, .reserved none]) :
    (exec acts (x, y) (es ++ [.enqueued true, .reply true])).2.inbox =
      y.inbox ++ [TcpControlCmd.claimConnAck processing.response] := by
  induction es with
  | nil =>
    have henqueued : (x.enqueued true).loop = .replying processing.response := by
      simp only [enqueued, hloop, Bool.not_true, Bool.and_false, Bool.false_eq_true, if_false]
    show ((x.enqueued true).reply y true).2.inbox = _
    simp only [reply, henqueued, if_true]
  | cons e es ih =>
    have hcases : e = .go ∨ e = .checked none ∨ e = .reserved none := by
      simpa using hes (List.mem_cons_self ..)
    have hsame : acts (x, y) e = (x, y) := by
      rcases hcases with rfl | rfl | rfl
      · simp only [acts, act, go, hloop]
      · simp only [acts, act, checked, hloop]
      · simp only [acts, act, reserved, hloop]
    rw [List.cons_append, exec_cons, hsame]
    exact ih fun e he => hes (List.mem_cons_of_mem _ he)

/-- The answer to a request that was decided on. -/
theorem answers_recording {record : RecentClaimRecord} {processing : ClaimReqProcessing}
    (hloop : x.loop = .recording record processing) :
    (exec acts (x, y) [.checked none, .reserved none, .go, .go, .go, .enqueued true,
      .reply true]).2.inbox = y.inbox ++ [TcpControlCmd.claimConnAck processing.response] := by
  have hchecked : acts (x, y) (.checked none) = (x, y) := by simp only [acts, act, checked, hloop]
  have hreserved : acts (x, y) (.reserved none) = (x, y) := by
    simp only [acts, act, reserved, hloop]
  have hgo : acts (x, y) .go =
      ({ x with recentClaim := some record, loop := .processed processing }, y) := by
    simp only [acts, act, go, hloop]
  rw [exec_cons, hchecked, exec_cons, hreserved, exec_cons, hgo]
  exact answers_processed rfl [.go, .go] (by decide)

/-- A request that passes the checks is bound and granted, if the entry has its stream. -/
theorem grants_checking {req : ClaimConnReq} (hloop : x.loop = .checking req .accept) :
    (exec acts (x, y) [.checked none, .reserved none, .go, .go, .go, .enqueued true,
      .reply true]).2.inbox =
      if x.stream then y.inbox ++ [TcpControlCmd.claimConnAck (claimResponseCmd req .ack)]
      else y.inbox := by
  have hchecked : acts (x, y) (.checked none) = ({ x with loop := .reserving req none }, y) := by
    simp only [acts, act, checked, hloop]
    rfl
  have hreserved : acts ({ x with loop := .reserving req none }, y) (.reserved none) =
      ({ x with loop := .taking req none }, y) := rfl
  rw [exec_cons, hchecked, exec_cons, hreserved]
  split_ifs with hstream
  · have htake : acts ({ x with loop := .taking req none }, y) .go =
        ({ x with stream := false, loop := .binding req none }, y) := by
      simp only [acts, act, go, hstream, if_true]
    let x₁ : TcpTunnel := { x with stream := false, loop := .binding req none }
    let processing : ClaimReqProcessing := ⟨claimResponseCmd req .ack, some x₁.leases.length, none⟩
    let x₂ : TcpTunnel :=
      { x₁.bindRequest req none with
        recentClaim := some (req.record .ack)
        loop := .processed processing }
    have hbound : exec acts (x₁, y) [.go, .go] = (x₂, y) := rfl
    rw [exec_cons, htake]
    refine (congrArg (fun s => s.2.inbox) (exec_append acts (x₁, y) [.go, .go] _)).trans ?_
    rw [hbound]
    exact answers_processed (show x₂.loop = .processed processing from rfl) [] (by decide)
  · have htake : acts ({ x with loop := .taking req none }, y) .go =
        ({ x with loop := .stopped }, y) := by
      simp only [acts, act, go, hstream, Bool.false_eq_true, if_false]
    rw [exec_cons, htake, exec_finishes (.inr rfl) (by decide)]

/-- The answer that grants a request. -/
def grant (req : ClaimConnReq) : TcpControlCmd := .claimConnAck (claimResponseCmd req .ack)

theorem refusal_ne_grant (req : ClaimConnReq) (inbox : List TcpControlCmd)
    {result : ClaimConnAckResult} (h : result ≠ .success) :
    inbox ++ [TcpControlCmd.claimConnAck (claimResponseCmd req (.err result))] ≠
      inbox ++ [grant req] := by
  intro heq
  have hcmd := List.singleton_inj.mp (List.append_cancel_left heq)
  exact h (congrArg ClaimConnAck.result (TcpControlCmd.claimConnAck.inj hcmd))

theorem refuses_deciding {req : ClaimConnReq} (hloop : x.loop = .deciding req)
    {result : ClaimConnAckResult} (hplan : x.decisionPlan req = .ready (.err result)) :
    (exec acts (x, y) finishes).2.inbox =
      y.inbox ++ [TcpControlCmd.claimConnAck (claimResponseCmd req (.err result))] := by
  have hgo : acts (x, y) .go = ({ x with loop := refuse req result none }, y) := by
    simp only [acts, act, go, hloop, hplan]
    rfl
  rw [finishes, exec_cons, hgo]
  have hrefuse : loop { x with loop := refuse req result none } = .recording (req.record (.err result))
      ⟨claimResponseCmd req (.err result), none, none⟩ := rfl
  exact answers_recording hrefuse

theorem grants_deciding {req : ClaimConnReq} (hloop : x.loop = .deciding req)
    (hplan : x.decisionPlan req = .checkThen .accept) :
    (exec acts (x, y) finishes).2.inbox =
      if x.stream then y.inbox ++ [grant req] else y.inbox := by
  have hgo : acts (x, y) .go = ({ x with loop := .checking req .accept }, y) := by
    simp only [acts, act, go, hloop, hplan]
  rw [finishes, exec_cons, hgo]
  exact grants_checking rfl

/-- A request for a channel that the record is not of. -/
theorem decisionPlan_fresh {req : ClaimConnReq}
    (hfresh : ∀ record, x.recentClaim = some record → record.channelId ≠ req.channelId) :
    ((∃ record, x.recentClaim = some record ∧ record.leaseSeq = req.leaseSeq) ∧
      x.decisionPlan req = .ready (.err .protocolError)) ∨
    ((∀ record, x.recentClaim = some record → record.leaseSeq ≠ req.leaseSeq) ∧
      x.decisionPlan req = x.decisionOnState req) := by
  unfold decisionPlan
  cases hrecent : x.recentClaim with
  | none => exact .inr ⟨nofun, rfl⟩
  | some record =>
    have hother : ∀ r, some record = some r → r = record := fun r heq => (Option.some.inj heq).symm
    by_cases hseq : record.leaseSeq = req.leaseSeq
    · have hmatch : claimRecordMatches req record = false := by
        have hne : ¬ req.channelId = record.channelId := fun heq => hfresh record hrecent heq.symm
        simp only [claimRecordMatches, hne, decide_false, Bool.false_and]
      refine .inl ⟨⟨record, rfl, hseq⟩, ?_⟩
      simp only [hseq, if_true, hmatch, Bool.false_eq_true, if_false]
    · refine .inr ⟨fun r hr => ?_, ?_⟩
      · rw [hother r hr]
        exact hseq
      · simp only [hseq, if_false]

theorem acts_request (hloop : x.loop = .ready) {req : ClaimConnReq} {rest : List TcpControlCmd}
    (hinbox : x.inbox = .claimConnReq req :: rest) :
    acts (x, y) (.deliver true) =
      (if x.getEntry req.connId then { x with inbox := rest, loop := .deciding req }
      else { x with
        inbox := rest
        loop := .processed ⟨claimResponseCmd req (.err .protocolError), none, none⟩ }, y) := by
  simp only [acts, act, deliver, hloop, hinbox, Bool.not_true, Bool.false_eq_true, if_false]
  rfl

/-- **The request.**  It is granted if and only if the entry is in the table, not retired, has its
stream, and there is no record for its number. -/
theorem serves_request {req : ClaimConnReq} (hloop : x.loop = .ready)
    (hinbox : x.inbox = [.claimConnReq req]) (hconn : x.connId = req.connId)
    (hstate : x.state = .retired ∨ x.Expects req.leaseSeq)
    (hfresh : ∀ record, x.recentClaim = some record → record.channelId ≠ req.channelId) :
    (exec acts (x, y) serves).2.inbox = y.inbox ++ [grant req] ↔
      x.state ≠ .retired ∧ x.registered = true ∧ x.stream = true ∧
        ∀ record, x.recentClaim = some record → record.leaseSeq ≠ req.leaseSeq := by
  have hentry : x.getEntry req.connId = x.registered := by
    rw [getEntry, ← hconn, decide_eq_true rfl, Bool.and_true]
  cases hregistered : x.registered with
  | false =>
    rw [hregistered] at hentry
    have hdeliver : acts (x, y) (.deliver true) = ({ x with
        inbox := []
        loop := .processed ⟨claimResponseCmd req (.err .protocolError), none, none⟩ }, y) := by
      rw [acts_request hloop hinbox, hentry, if_neg Bool.false_ne_true]
    rw [serves, exec_cons, hdeliver]
    refine iff_of_false ?_ fun h => Bool.false_ne_true h.2.1
    intro hgrant
    have hanswer := answers_processed (y := y) (x := { x with
        inbox := []
        loop := .processed ⟨claimResponseCmd req (.err .protocolError), none, none⟩ }) rfl
      [.go, .checked none, .reserved none, .go, .go, .go] (by decide)
    refine refusal_ne_grant req y.inbox ?_ (hanswer.symm.trans hgrant)
    exact nofun
  | true =>
    rw [hregistered] at hentry
    let x₁ : TcpTunnel := { x with inbox := [], loop := .deciding req }
    have hdeliver : acts (x, y) (.deliver true) = (x₁, y) := by
      rw [acts_request hloop hinbox, hentry, if_pos rfl]
    rw [serves, exec_cons, hdeliver]
    rcases decisionPlan_fresh hfresh with ⟨⟨record, hrecord, hseq⟩, hplan⟩ | ⟨hnone, hplan⟩
    · refine iff_of_false ?_ fun h => h.2.2.2 record hrecord hseq
      rw [refuses_deciding (x := x₁) rfl hplan]
      refine refusal_ne_grant req y.inbox ?_
      exact nofun
    · rcases hstate with hretired | hexpects
      · have hretire : x₁.decisionPlan req = .ready (.err .retired) := by
          refine hplan.trans ?_
          simp only [decisionOnState, hretired]
        refine iff_of_false ?_ fun h => h.1 hretired
        rw [refuses_deciding (x := x₁) rfl hretire]
        refine refusal_ne_grant req y.inbox ?_
        exact nofun
      · have haccept : x₁.decisionPlan req = .checkThen .accept :=
          hplan.trans hexpects.decisionOnState
        have hne : x.state ≠ .retired := by
          rcases hexpects with ⟨hs, -⟩ | ⟨hs, -⟩
          · rw [hs]
            exact nofun
          · rw [hs]
            exact nofun
        rw [grants_deciding (x := x₁) rfl haccept]
        show (if x.stream then y.inbox ++ [grant req] else y.inbox) = _ ↔ _
        cases hstream : x.stream with
        | true => exact iff_of_true rfl ⟨hne, rfl, rfl, hnone⟩
        | false =>
          refine iff_of_false ?_ fun h => Bool.false_ne_true h.2.2.1
          rw [if_neg Bool.false_ne_true]
          simp

theorem Expects.resting {leaseSeq : TcpLeaseSeq} (h : x.Expects leaseSeq) : x.Resting := by
  rcases h with ⟨hs, -⟩ | ⟨hs, -⟩
  · exact .inl (by rw [hs]; rfl)
  · exact .inl (by rw [hs]; rfl)

theorem Served.expects (h : Served x x') {leaseSeq : TcpLeaseSeq} (hx : x.Expects leaseSeq) :
    x'.Expects leaseSeq := by
  have hfirst : x'.firstClaimLocal = x.firstClaimLocal := congrArg Prod.snd h.place
  unfold Expects at hx ⊢
  rw [h.state, h.committed, hfirst]
  exact hx

/-- The loop handles commands, one after the other. -/
def rounds (n : Nat) : List ClaimEvent := (List.replicate n serves).flatten

theorem rounds_zero : rounds 0 = [] := rfl

theorem rounds_succ (n : Nat) : rounds (n + 1) = serves ++ rounds n := by
  rw [rounds, List.replicate_succ, List.flatten_cons]
  rfl

/-- A loop that has ended answers nothing. -/
theorem rounds_stopped (hloop : x.loop = .stopped) (n : Nat) :
    exec acts (x, y) (rounds n) = (x, y) := by
  induction n with
  | zero => rfl
  | succ n ih =>
    have hdeliver : acts (x, y) (.deliver true) = (x, y) := by
      simp only [acts, act, deliver, hloop]
    rw [rounds_succ, exec_append, serves, exec_cons, hdeliver,
      exec_finishes (.inr hloop) (List.Subset.refl _)]
    exact ih

/-- A request after commands that are not requests. -/
theorem rounds_request {req : ClaimConnReq} (cmds : List TcpControlCmd) (hloop : x.loop = .ready)
    (hinbox : x.inbox = cmds ++ [TcpControlCmd.claimConnReq req])
    (hclaims : ∀ cmd ∈ cmds, cmd.claim = none)
    (hconn : x.connId = req.connId) (hstate : x.state = .retired ∨ x.Expects req.leaseSeq)
    (hfresh : ∀ record, x.recentClaim = some record → record.channelId ≠ req.channelId) :
    (exec acts (x, y) (rounds (cmds.length + 1))).2.inbox = y.inbox ++ [grant req] ↔
      (x.state ≠ .retired ∧ x.registered = true ∧ x.stream = true ∧
        ∀ record, x.recentClaim = some record → record.leaseSeq ≠ req.leaseSeq) ∧
      ∀ cmd ∈ cmds, x.readable cmd = true := by
  induction cmds generalizing x with
  | nil =>
    rw [List.length_nil, rounds_succ, exec_append, rounds_zero, exec_nil]
    refine (serves_request hloop hinbox hconn hstate hfresh).trans ?_
    exact (and_iff_left fun cmd hmem => absurd hmem List.not_mem_nil).symm
  | cons cmd cmds ih =>
    have hrest : x.Resting := hstate.elim .inr Expects.resting
    have hclaims' : ∀ c ∈ cmds, c.claim = none := fun c hc => hclaims c (List.mem_cons_of_mem _ hc)
    rw [List.length_cons, rounds_succ, exec_append]
    cases hread : x.readable cmd with
    | true =>
      obtain ⟨x', hexec, hserved, hinbox'⟩ := serves_readable (y := y) hrest hloop hinbox
        (hclaims cmd (List.mem_cons_self ..)) hread
      have hconn' : x'.connId = req.connId := (congrArg Prod.fst hserved.place).trans hconn
      have hstate' : x'.state = .retired ∨ x'.Expects req.leaseSeq :=
        hstate.imp hserved.state.trans hserved.expects
      have hfresh' : ∀ record, x'.recentClaim = some record → record.channelId ≠ req.channelId := by
        rw [hserved.recent]
        exact hfresh
      rw [hexec, ih hserved.loop hinbox' hclaims' hconn' hstate' hfresh', hserved.state,
        hserved.registered, hserved.stream, hserved.recent, List.forall_mem_cons]
      simp only [hserved.readable, hread, true_and]
    | false =>
      refine iff_of_false ?_ fun h => ?_
      · obtain ⟨x', hexec, hstop | ⟨hready, hretired, hplace, hrecent, hinbox'⟩⟩ :=
          serves_unreadable (y := y) hrest hloop hinbox hread
        · rw [hexec, rounds_stopped hstop]
          simp
        · have hconn' : x'.connId = req.connId := (congrArg Prod.fst hplace).trans hconn
          have hfresh' :
              ∀ record, x'.recentClaim = some record → record.channelId ≠ req.channelId := by
            rw [hrecent]
            exact hfresh
          rw [hexec, ih hready hinbox' hclaims' hconn' (.inl hretired) hfresh']
          exact fun h => h.1.1 hretired
      · have hhead := h.2 cmd (List.mem_cons_self ..)
        rw [hread] at hhead
        exact Bool.false_ne_true hhead

/-! ### The claim -/

/-- The number that `claim_entry` gives to the next claim. -/
def claimSeq (x : TcpTunnel) : TcpLeaseSeq :=
  match x.state with
  | .firstClaimPending => 1
  | _ => nextLeaseSeq x.committedLeaseSeq

/-- The entry is idle at both ends, or waits at both ends for the first claim, which is for `x` to
make; the ends agree on the last lease. -/
def Claimable (x y : TcpTunnel) : Prop :=
  x.committedLeaseSeq = y.committedLeaseSeq ∧
    (x.state = .idle ∧ y.state = .idle ∨
      x.state = .firstClaimPending ∧ y.state = .firstClaimPending ∧ x.firstClaimLocal = true)

instance (x y : TcpTunnel) : Decidable (x.Claimable y) :=
  inferInstanceAs (Decidable (x.committedLeaseSeq = y.committedLeaseSeq ∧
    (x.state = .idle ∧ y.state = .idle ∨
      x.state = .firstClaimPending ∧ y.state = .firstClaimPending ∧ x.firstClaimLocal = true)))

/-- `claim_entry`, up to its request. -/
def asking (x : TcpTunnel) (kind : TcpChannelKind) (purpose : TunnelPurpose)
    (channelId : TcpChannelId) (claimNonce : U64) : List ClaimEvent :=
  [.claim kind purpose channelId claimNonce, .register x.opening.length,
    .sendClaim x.sending.length true]

theorem exec_asking (h : x.Claimable y) (kind : TcpChannelKind) (purpose : TunnelPurpose)
    (channelId : TcpChannelId) (claimNonce : U64) :
    ∃ x', exec acts (x, y) (x.asking kind purpose channelId claimNonce) = (x', { y with
        inbox := y.inbox ++
          [.claimConnReq ⟨channelId, kind, purpose, x.connId, x.claimSeq, claimNonce⟩] }) ∧
      x'.inbox = x.inbox := by
  let c : ClaimingState := ⟨x.claimSeq, channelId, claimNonce, kind, purpose⟩
  have hclaim : x.claimEntry kind purpose channelId claimNonce = x.startClaim c := by
    rcases h.2 with ⟨hs, -⟩ | ⟨hs, -, hfirst⟩
    · simp only [claimEntry, hs, c, claimSeq]
    · simp only [claimEntry, hs, hfirst, if_true, c, claimSeq]
  have hopening : (x.startClaim c).opening[x.opening.length]? = some (c.request x.connId) := by
    show (x.opening ++ [c.request x.connId])[x.opening.length]? = _
    exact List.getElem?_concat_length
  let x₁ : TcpTunnel :=
    { x.startClaim c with
      opening := (x.startClaim c).opening.eraseIdx x.opening.length
      sending := x.sending ++ [c.request x.connId]
      pendingClaims := x.pendingClaims.insert channelId }
  have hregister : (x.startClaim c).registerClaim x.opening.length = x₁ := by
    simp only [registerClaim, hopening]
    rfl
  have hsending : x₁.sending[x.sending.length]? = some (c.request x.connId) := by
    show (x.sending ++ [c.request x.connId])[x.sending.length]? = _
    exact List.getElem?_concat_length
  refine ⟨{ x₁ with sending := x₁.sending.eraseIdx x.sending.length }, ?_, rfl⟩
  show ((x.claimEntry kind purpose channelId claimNonce).registerClaim x.opening.length).sendClaim y
    x.sending.length true = _
  rw [hclaim, hregister, sendClaim, hsending]
  rfl

theorem Claimable.expects (h : x.Claimable y)
    (hfirst : x.firstClaimLocal = true → y.firstClaimLocal = false) : y.Expects x.claimSeq := by
  obtain ⟨hcommitted, ⟨hx, hy⟩ | ⟨hx, hy, hlocal⟩⟩ := h
  · refine .inl ⟨hy, ?_⟩
    simp only [claimSeq, hx, hcommitted]
  · refine .inr ⟨hy, hfirst hlocal, ?_⟩
    simp only [claimSeq, hx]

/-- No other claim is at work at the end that is asked: its loop is not handling one, and none is
waiting to be read. -/
def Uncontested (x : TcpTunnel) : Prop :=
  x.loop.unclaimed = true ∧ ∀ cmd ∈ x.inbox, cmd.claim = none

instance (x : TcpTunnel) : Decidable x.Uncontested :=
  inferInstanceAs (Decidable (x.loop.unclaimed = true ∧ ∀ cmd ∈ x.inbox, cmd.claim = none))

/-- The end has no record for the number, and its entry is there: it is in the table with its
stream, and no command that is waiting will retire it. -/
def Receptive (x : TcpTunnel) (leaseSeq : TcpLeaseSeq) : Prop :=
  (∀ record, x.recentClaim = some record → record.leaseSeq ≠ leaseSeq) ∧
    x.registered = true ∧ x.stream = true ∧ ∀ cmd ∈ x.inbox, x.readable cmd = true

/-- What the end that is asked does: it finishes what it is at work on, then handles the commands
that it has got, and the request. -/
def answering (x : TcpTunnel) : List ClaimEvent := finishes ++ rounds (x.inbox.length + 1)

/-- A claim that is asked for when no other one is at work. -/
theorem answering_iff (req : ClaimConnReq) (hfree : x.Uncontested) (hconn : x.connId = req.connId)
    (hexpects : x.Expects req.leaseSeq)
    (hfresh : ∀ record, x.recentClaim = some record → record.channelId ≠ req.channelId) :
    (exec acts ({ x with inbox := x.inbox ++ [.claimConnReq req] }, y) x.answering).2.inbox =
      y.inbox ++ [grant req] ↔ x.Receptive req.leaseSeq := by
  let x₁ : TcpTunnel := { x with inbox := x.inbox ++ [TcpControlCmd.claimConnReq req] }
  have hrest : x₁.Resting := hexpects.resting
  obtain ⟨x', hexec, hserved, hinbox⟩ := served_unclaimed (y := y) hrest hfree.1
  have hconn' : x'.connId = req.connId := (congrArg Prod.fst hserved.place).trans hconn
  have hexpects' : x'.Expects req.leaseSeq := hserved.expects (x := x₁) hexpects
  have hfresh' : ∀ record, x'.recentClaim = some record → record.channelId ≠ req.channelId := by
    rw [hserved.recent]
    exact hfresh
  have hne : x'.state ≠ .retired := by
    rcases hexpects' with ⟨hs, -⟩ | ⟨hs, -⟩
    · rw [hs]
      exact nofun
    · rw [hs]
      exact nofun
  have hreadable : ∀ cmd, x'.readable cmd = x.readable cmd := hserved.readable
  rw [answering, exec_append, hexec, rounds_request x.inbox hserved.loop hinbox hfree.2 hconn'
    (.inr hexpects') hfresh', hserved.recent, hserved.registered, hserved.stream]
  simp only [hreadable]
  exact ⟨fun h => ⟨h.1.2.2.2, h.1.2.1, h.1.2.2.1, h.2⟩,
    fun h => ⟨⟨hne, h.2.1, h.2.2.1, h.1⟩, h.2.2.2⟩⟩

end TcpTunnel

namespace Link

open TcpTunnel

theorem tunnel_step (s : Link) (p : TunnelForm) (e : ClaimEvent) :
    ((s.step (p, e)).tunnel p, (s.step (p, e)).tunnel p.other) =
      acts (s.tunnel p, s.tunnel p.other) e := by
  cases p with
  | active => rfl
  | passive => rfl

/-- Steps at one end. -/
theorem exec_at (s : Link) (p : TunnelForm) (es : List ClaimEvent) :
    ((exec step s (es.map (Prod.mk p))).tunnel p, (exec step s (es.map (Prod.mk p))).tunnel p.other) =
      exec acts (s.tunnel p, s.tunnel p.other) es := by
  induction es generalizing s with
  | nil => rfl
  | cons e es ih =>
    rw [List.map_cons, exec_cons, exec_cons, ← tunnel_step]
    exact ih (s.step (p, e))

/-- What holds at both ends, when steps at one end keep it. -/
theorem ends_step {I : TunnelForm → TcpTunnel → Prop} {s : Link} {p : TunnelForm} {e : ClaimEvent}
    (hown : I p (acts (s.tunnel p, s.tunnel p.other) e).1)
    (hother : I p.other (acts (s.tunnel p, s.tunnel p.other) e).2) (q : TunnelForm) :
    I q ((s.step (p, e)).tunnel q) := by
  rw [← tunnel_step] at hown hother
  cases p with
  | active =>
    cases q with
    | active => exact hown
    | passive => exact hother
  | passive =>
    cases q with
    | active => exact hother
    | passive => exact hown

/-- The ends know one connection, and which of them makes the first claim. -/
theorem place_exec (activeId passiveId : P2pId) (connId : TcpConnId) (first p : TunnelForm)
    (events : List (TunnelForm × ClaimEvent)) :
    ((exec step (.start activeId passiveId connId first) events).tunnel p).place =
      (connId, decide (first = p)) := by
  have hstep : ∀ (s : Link) (i : TunnelForm × ClaimEvent),
      (∀ p, (s.tunnel p).place = (connId, decide (first = p))) →
      ∀ p, ((s.step i).tunnel p).place = (connId, decide (first = p)) := by
    intro s i h
    obtain ⟨inbox, hinbox⟩ := act_other (s.tunnel i.1) (s.tunnel i.1.other) i.2
    refine ends_step (I := fun p x => x.place = (connId, decide (first = p))) ?_ ?_
    · exact (act_place ..).trans (h i.1)
    · show (act (s.tunnel i.1) (s.tunnel i.1.other) i.2).2.place = _
      rw [hinbox]
      exact h i.1.other
  refine exec_inv_all hstep ?_ events p
  intro p
  cases p with
  | active => rfl
  | passive => rfl

/-- A channel id that no claim was made with is not known to an end. -/
theorem unseen_exec (activeId passiveId : P2pId) (connId : TcpConnId) (first p : TunnelForm)
    {channelId : TcpChannelId} {events : List (TunnelForm × ClaimEvent)}
    (hfresh : ∀ i ∈ events, i.2.channel ≠ some channelId) :
    ((exec step (.start activeId passiveId connId first) events).tunnel p).Unseen channelId := by
  have hrun : ∀ (s : Link) (events : List (TunnelForm × ClaimEvent)),
      (∀ i ∈ events, i.2.channel ≠ some channelId) →
      (∀ p, (s.tunnel p).Unseen channelId) →
      ∀ p, ((exec step s events).tunnel p).Unseen channelId := by
    intro s events
    induction events generalizing s with
    | nil => exact fun _ h => h
    | cons i events ih =>
      intro hevents h
      have hact := (h i.1).act (h i.1.other) (hevents i (List.mem_cons_self ..))
      refine ih (s.step i) (fun j hj => hevents j (List.mem_cons_of_mem _ hj)) ?_
      exact ends_step (I := fun _ x => x.Unseen channelId) hact.1 hact.2
  refine hrun _ events hfresh (fun p => ?_) p
  cases p with
  | active => exact .new ..
  | passive => exact .new ..

/-- A claim, from `claim_entry` to its answer. -/
def exchange (s : Link) (p : TunnelForm) (kind : TcpChannelKind) (purpose : TunnelPurpose)
    (channelId : TcpChannelId) (claimNonce : U64) : List (TunnelForm × ClaimEvent) :=
  ((s.tunnel p).asking kind purpose channelId claimNonce).map (Prod.mk p) ++
    (s.tunnel p.other).answering.map (Prod.mk p.other)

theorem other_other (p : TunnelForm) : p.other.other = p := by
  cases p with
  | active => rfl
  | passive => rfl

/-- **A rejected claim poisons the connection.**  In every reachable state in which the entry may be
claimed and no other claim is at work, a new claim is granted if and only if the other end is
receptive: it has no record for the number of the claim. -/
theorem claim_granted_iff (activeId passiveId : P2pId) (connId : TcpConnId) (first p : TunnelForm)
    (before : List (TunnelForm × ClaimEvent)) (kind : TcpChannelKind) (purpose : TunnelPurpose)
    (channelId : TcpChannelId) (claimNonce : U64) (s : Link)
    (hs : exec step (.start activeId passiveId connId first) before = s)
    (hfresh : ∀ i ∈ before, i.2.channel ≠ some channelId)
    (hclaimable : (s.tunnel p).Claimable (s.tunnel p.other))
    (hfree : (s.tunnel p.other).Uncontested) :
    ((exec step s (s.exchange p kind purpose channelId claimNonce)).tunnel p).inbox =
        (s.tunnel p).inbox ++
          [.claimConnAck ⟨channelId, connId, (s.tunnel p).claimSeq, .success⟩] ↔
      (s.tunnel p.other).Receptive (s.tunnel p).claimSeq := by
  have hplace := fun q => place_exec activeId passiveId connId first q before
  have hunseen := unseen_exec activeId passiveId connId first p.other hfresh
  rw [hs] at hplace hunseen
  have hconn : ∀ q, (s.tunnel q).connId = connId := fun q => congrArg Prod.fst (hplace q)
  have hlocal : ∀ q, (s.tunnel q).firstClaimLocal = decide (first = q) :=
    fun q => congrArg Prod.snd (hplace q)
  have hfirst : (s.tunnel p).firstClaimLocal = true → (s.tunnel p.other).firstClaimLocal = false := by
    rw [hlocal, hlocal]
    intro heq
    obtain rfl : first = p := of_decide_eq_true heq
    cases first with
    | active => rfl
    | passive => rfl
  let req : ClaimConnReq := ⟨channelId, kind, purpose, connId, (s.tunnel p).claimSeq, claimNonce⟩
  obtain ⟨x', hasking, hinbox⟩ := exec_asking hclaimable kind purpose channelId claimNonce
  rw [hconn p] at hasking
  have hexpects : (s.tunnel p.other).Expects req.leaseSeq := hclaimable.expects hfirst
  have hiff := answering_iff (y := x') req hfree (hconn p.other) hexpects hunseen.recent
  -- the claim at `p`, then the loop of the other end
  let t := exec step s (((s.tunnel p).asking kind purpose channelId claimNonce).map (Prod.mk p))
  obtain ⟨hclaimer, hasked⟩ := Prod.mk.inj ((exec_at s p _).trans hasking)
  have hanswer := exec_at t p.other (s.tunnel p.other).answering
  rw [other_other, hclaimer, hasked] at hanswer
  have hend := congrArg (fun r => r.2.inbox) hanswer
  dsimp only at hend
  rw [exchange, exec_append]
  show ((exec step t _).tunnel p).inbox = _ ↔ _
  rw [hend, ← hinbox]
  exact hiff

/-- The first lease has ended at both ends. -/
def ended : List (TunnelForm × ClaimEvent) :=
  opens ++ drops .active ++ drops .passive ++ drains .active ++ drains .passive ++
    settles .active ++ settles .passive

/-- The state after the first lease. -/
def afterLease : Link := exec step (.start [1] [2] 7 .active) ended

/-- After the first lease the active end claims the connection again. -/
theorem claim_granted_after_lease :
    ((exec step afterLease (afterLease.exchange .active .stream [4] 2 6)).tunnel .active).inbox =
        (afterLease.tunnel .active).inbox ++
          [.claimConnAck ⟨2, 7, (afterLease.tunnel .active).claimSeq, .success⟩] ∧
      (afterLease.tunnel .active).claimSeq = 2 := by
  have hgranted := claim_granted_iff [1] [2] 7 .active .active ended .stream [4] 2 6 afterLease rfl
    (by decide) (by decide +kernel) (by decide +kernel)
  refine ⟨hgranted.mpr ⟨?_, ?_, ?_, ?_⟩, by decide +kernel⟩
  · have hrecord : (afterLease.tunnel .passive).recentClaim =
        some ⟨1, 1, 5, .stream, [3], .ack⟩ := by decide +kernel
    have hseq : (afterLease.tunnel .active).claimSeq ≠ 1 := by decide +kernel
    intro record heq
    rw [show TunnelForm.active.other = .passive from rfl, hrecord] at heq
    obtain rfl := Option.some.inj heq
    exact hseq.symm
  · decide +kernel
  · decide +kernel
  · decide +kernel

/-- The passive end rejects the claim of the active end, which goes back to `FirstClaimPending`. -/
def rejected : List (TunnelForm × ClaimEvent) :=
  asks .active 1 5 ++ decides .passive ++
    [(.passive, .checked (some .vportNotFound)), (.passive, .go), (.passive, .enqueued true),
      (.passive, .reply true)] ++ confirms .active

/-- After a claim that was rejected with `VportNotFound`, the next one is answered with
`ProtocolError`, although the entry may be claimed and its target is there. -/
theorem claim_poisoned :
    (∀ i ∈ rejected, i.2.channel ≠ some 2) ∧
    (exec step (.start [1] [2] 7 .active) rejected).active.Claimable
      (exec step (.start [1] [2] 7 .active) rejected).passive ∧
    (exec step (.start [1] [2] 7 .active) rejected).passive.Uncontested ∧
    (exec step (.start [1] [2] 7 .active) rejected).active.inbox = [] ∧
    (exec step (exec step (.start [1] [2] 7 .active) rejected)
      ((exec step (.start [1] [2] 7 .active) rejected).exchange .active .stream [4] 2
        6)).active.inbox = [.claimConnAck ⟨2, 7, 1, .protocolError⟩] := by
  refine ⟨by decide, by decide +kernel, by decide +kernel, ?_, ?_⟩
  · decide +kernel
  · decide +kernel

end Link

end BuckyP2p.Tcp
