import BuckyP2p.Tcp.Agreement

/-!
# BuckyP2p.Tcp.Entry — one entry of `data_conns`, whose peer may send anything

`Link` has two ends that keep to the protocol.  Here one end takes its steps in any order, and any
commands may come in between.  `Advance` says once what a step can do to the entry: to its state, the
committed sequence and the recent claim, and where the control loop goes.
-/

namespace BuckyP2p.Tcp

open Lib

/-- A step of an end, or a command that comes to it. -/
inductive EntryEvent
  | own (e : ClaimEvent)
  | receive (cmd : TcpControlCmd)

/-- The loop is not about to answer or to bind a claim. -/
def Loop.aside : Loop → Bool
  | .ready | .replying _ | .waited _ | .found _ | .failing _ | .telling _ | .handling _ _
  | .stopped => true
  | _ => false

namespace TcpTunnel

/-- What the end sends to its peer is not looked at. -/
def next (x : TcpTunnel) : EntryEvent → TcpTunnel
  | .own e => (x.act x e).1
  | .receive cmd => { x with inbox := x.inbox ++ [cmd] }

/-- Where the loop goes while it leaves the entry alone. -/
inductive Heads (x : TcpTunnel) : Loop → Prop
  | stay : Heads x x.loop
  | aside {l : Loop} (h : l.aside = true) : Heads x l
  | decide (hready : x.loop = .ready) (req : ClaimConnReq) : Heads x (.deciding req)
  | unknown (hready : x.loop = .ready) (req : ClaimConnReq) :
    Heads x (.processed ⟨claimResponseCmd req (.err .protocolError), none, none⟩)
  | decided {req : ClaimConnReq} {d : ClaimDecision} (hloop : x.loop = .deciding req)
    (hplan : x.decisionPlan req = .ready d) : Heads x (onDecision req d)
  | check {req : ClaimConnReq} {d : ClaimDecision} (hloop : x.loop = .deciding req)
    (hplan : x.decisionPlan req = .checkThen d) : Heads x (.checking req d)
  | checked {req : ClaimConnReq} {d : ClaimDecision} (hloop : x.loop = .checking req d) :
    Heads x (onDecision req d)
  | unchecked {req : ClaimConnReq} {d : ClaimDecision} (hloop : x.loop = .checking req d)
    (reason : AcceptRefusal) : Heads x (refuse req reason.result none)
  | reserved {req : ClaimConnReq} {localChannelId : Option TcpChannelId}
    (hloop : x.loop = .reserving req localChannelId) : Heads x (.taking req localChannelId)
  | unreserved {req : ClaimConnReq} {localChannelId : Option TcpChannelId}
    (hloop : x.loop = .reserving req localChannelId) (reason : AcceptRefusal) :
    Heads x (refuse req reason.result localChannelId)
  | taken {req : ClaimConnReq} {localChannelId : Option TcpChannelId}
    (hloop : x.loop = .taking req localChannelId) : Heads x (.binding req localChannelId)
  | acked {ack : ClaimConnAck} {c : ClaimingState} (hclaim : x.claimOf ack = some c) :
    Heads x (.acked c)
  | confirming {c : ClaimingState} (hloop : x.loop = .acked c) : Heads x (.confirming c)

/-- What a step of an end can do to its entry. -/
inductive Advance (x x' : TcpTunnel) : ClaimEvent → Prop
  /-- Nothing is claimed: a lease ends, something fails, or the loop goes on. -/
  | drift {e : ClaimEvent} (hstate : Drifts x.state x'.state)
    (hcommitted : x'.committedLeaseSeq = x.committedLeaseSeq)
    (hrecent : x'.recentClaim = x.recentClaim) (hloop : x.Heads x'.loop) : Advance x x' e
  | claim {e : ClaimEvent} {c : ClaimingState}
    (hfree : x.state = .firstClaimPending ∧ c.leaseSeq = 1 ∨
      x.state = .idle ∧ c.leaseSeq = nextLeaseSeq x.committedLeaseSeq)
    (h : x' = x.startClaim c) : Advance x x' e
  | reset {i : Nat} (hi : (x.resetting[i]?).isSome = true)
    (h : x' = { x with resetting := x.resetting.eraseIdx i, state := x.unclaimed }) :
    Advance x x' (.reset i)
  | fail {ack : ClaimConnAck} (hloop : x.loop = .failing ack)
    (h : x' = { x with state := x.failClaim ack.result, loop := .telling ack.channelId }) :
    Advance x x' .go
  | bind {req : ClaimConnReq} {localChannelId : Option TcpChannelId}
    (hloop : x.loop = .binding req localChannelId) (h : x' = x.bindRequest req localChannelId) :
    Advance x x' .go
  | confirm {c : ClaimingState} (hloop : x.loop = .confirming c)
    (h : x' = { x.bindEntryToLease c.channelId c.leaseSeq c.kind c.purpose true with
      loop := .telling c.channelId }) : Advance x x' .go
  | record {record : RecentClaimRecord} {p : ClaimReqProcessing}
    (hloop : x.loop = .recording record p)
    (h : x' = { x with recentClaim := some record, loop := .processed p }) : Advance x x' .go

variable {x x' : TcpTunnel} {e : ClaimEvent}

theorem Calm.advance (h : Calm x x') : Advance x x' e :=
  .drift h.state h.committed h.recent (h.loop ▸ .stay)

/-- A step of which only the loop goes on. -/
theorem Advance.heads {l : Loop} (hstate : x'.state = x.state)
    (hcommitted : x'.committedLeaseSeq = x.committedLeaseSeq)
    (hrecent : x'.recentClaim = x.recentClaim) (hloop : x'.loop = l) (hl : x.Heads l) :
    Advance x x' e :=
  .drift (hstate ▸ .same) hcommitted hrecent (hloop ▸ hl)

/-- What a command for a lease does before the lease is locked. -/
structure Arrives (x x' : TcpTunnel) : Prop where
  state : Drifts x.state x'.state
  committed : x'.committedLeaseSeq = x.committedLeaseSeq
  recent : x'.recentClaim = x.recentClaim
  loop : x'.loop = x.loop ∨ x'.loop.aside = true

theorem Calm.arrives (h : Calm x x') : Arrives x x' := ⟨h.state, h.committed, h.recent, .inl h.loop⟩

theorem arrive_arrives (x : TcpTunnel) (cmd : DrainCmd) : Arrives x (x.arrive cmd) := by
  have hlate : Arrives x (if cmd.leaseSeq.gt x.committedLeaseSeq then x.retirePlainEntry else x) := by
    split
    · exact x.retirePlainEntry_calm.arrives
    · exact (Calm.refl x).arrives
  unfold arrive
  split
  · exact ⟨.same, rfl, rfl, .inr rfl⟩
  · split
    · exact hlate
    · exact hlate
    · exact hlate
    · split
      · split
        · exact x.retirePlainEntry_calm.arrives
        · exact (x.keepDrain_calm cmd).arrives
      · exact (Calm.refl x).arrives
    · exact ⟨.same, rfl, rfl, .inr rfl⟩
    · exact ⟨.same, rfl, rfl, .inr rfl⟩

theorem deliver_advance (x : TcpTunnel) (active : Bool) :
    Advance x (x.deliver active) (.deliver active) := by
  unfold deliver
  split
  · next req rest hready _ =>
    dsimp only
    split
    · exact .heads rfl rfl rfl rfl (.aside rfl)
    · split
      · exact .heads rfl rfl rfl rfl (.decide hready req)
      · exact .heads rfl rfl rfl rfl (.unknown hready req)
  · next ack rest hready _ =>
    dsimp only
    split
    · exact .heads rfl rfl rfl rfl (.aside rfl)
    · exact .heads rfl rfl rfl rfl .stay
  · next cmd rest _ _ =>
    have h := arrive_arrives { x with inbox := rest } cmd
    refine .drift h.state h.committed h.recent ?_
    rcases h.loop with hstay | haside
    · rw [hstay]
      exact Heads.stay (x := x)
    · exact .aside haside
  · exact (Calm.refl x).advance

theorem go_advance (x : TcpTunnel) : Advance x x.go .go := by
  unfold go
  split
  · next req hloop =>
    split
    · next d hplan => exact .heads rfl rfl rfl rfl (.decided hloop hplan)
    · next d hplan => exact .heads rfl rfl rfl rfl (.check hloop hplan)
  · next req localChannelId hloop =>
    split
    · exact .heads rfl rfl rfl rfl (.taken hloop)
    · exact .heads rfl rfl rfl rfl (.aside rfl)
  · next req localChannelId hloop => exact .bind hloop rfl
  · next record p hloop => exact .record hloop rfl
  · split
    · exact .heads rfl rfl rfl rfl (.aside rfl)
    · exact .heads rfl rfl rfl rfl (.aside rfl)
  · split
    · next ack _ _ c hclaim =>
      by_cases hsuccess : ack.result = .success
      · exact .heads rfl rfl rfl (if_pos hsuccess) (.acked hclaim)
      · exact .heads rfl rfl rfl (if_neg hsuccess) (.aside rfl)
    · exact .heads rfl rfl rfl rfl (.aside rfl)
  · next ack hloop => exact .fail hloop rfl
  · next c hloop =>
    split
    · exact .heads rfl rfl rfl rfl (.confirming hloop)
    · exact .heads rfl rfl rfl rfl (.aside rfl)
  · next c hloop => exact .confirm hloop rfl
  · exact .heads rfl rfl rfl rfl (.aside rfl)
  · next i cmd hloop =>
    have hcalm := x.handle_calm i cmd
    exact .drift hcalm.state hcalm.committed hcalm.recent (hcalm.loop ▸ .aside rfl)
  · exact (Calm.refl x).advance

theorem act_advance (x y : TcpTunnel) (e : ClaimEvent) : Advance x (x.act y e).1 e := by
  cases e with
  | claim kind purpose channelId nonce =>
    simp only [act, claimEntry]
    split
    · next hs =>
      split
      · exact .claim (.inl ⟨hs, rfl⟩) rfl
      · exact (Calm.refl x).advance
    · next hs => exact .claim (.inr ⟨hs, rfl⟩) rfl
    · exact (Calm.refl x).advance
  | register i =>
    simp only [act, registerClaim]
    split
    · exact .heads rfl rfl rfl rfl .stay
    · exact (Calm.refl x).advance
  | sendClaim i ok =>
    simp only [act, sendClaim]
    split
    · cases ok with
      | true => exact .heads rfl rfl rfl rfl .stay
      | false => exact .heads rfl rfl rfl rfl .stay
    · exact (Calm.refl x).advance
  | reset i =>
    simp only [act, resetClaim]
    split
    · next hi => exact .reset (by rw [hi]; rfl) rfl
    · exact (Calm.refl x).advance
  | forget channelId => exact .heads rfl rfl rfl rfl .stay
  | deliver active => exact deliver_advance x active
  | go => exact go_advance x
  | checked answer =>
    simp only [act, checked]
    split
    · next hloop => exact .heads rfl rfl rfl rfl (.checked hloop)
    · next reason hloop => exact .heads rfl rfl rfl rfl (.unchecked hloop reason)
    · exact (Calm.refl x).advance
  | reserved answer =>
    simp only [act, reserved]
    split
    · next hloop => exact .heads rfl rfl rfl rfl (.reserved hloop)
    · next reason hloop => exact .heads rfl rfl rfl rfl (.unreserved hloop reason)
    · exact (Calm.refl x).advance
  | enqueued ok =>
    simp only [act, enqueued]
    split
    · next p hloop =>
      cases p.localConflictChannel with
      | none =>
        dsimp only
        split
        · exact .heads rfl rfl rfl rfl (.aside rfl)
        · exact .heads rfl rfl rfl rfl (.aside rfl)
      | some channelId =>
        dsimp only
        split
        · exact .heads rfl rfl rfl rfl (.aside rfl)
        · exact .heads rfl rfl rfl rfl (.aside rfl)
    · exact (Calm.refl x).advance
  | reply ok =>
    simp only [act, reply]
    split
    · cases ok with
      | true => exact .heads rfl rfl rfl rfl (.aside rfl)
      | false => exact .heads rfl rfl rfl rfl (.aside rfl)
    · exact (Calm.refl x).advance
  | lease i e =>
    simp only [act]
    split
    · next hi => exact (useLease_calm hi e).advance
    · exact (Calm.refl x).advance
  | run i =>
    simp only [act]
    split
    · next chore hi =>
      exact Calm.advance { runChore_calm { x with todo := x.todo.eraseIdx i } chore with }
    · exact (Calm.refl x).advance
  | sendDrain i ok =>
    simp only [act, sendDrain]
    split
    · cases ok with
      | true => exact .heads rfl rfl rfl rfl .stay
      | false => exact .heads rfl rfl rfl rfl .stay
    · exact (Calm.refl x).advance
  | abandon => exact x.retirePlainEntry_calm.advance
  | close => exact x.close_calm.advance

/-- A target is checked only where there is no record for the lease. -/
theorem decisionOnState_of_checkThen {req : ClaimConnReq} {d : ClaimDecision}
    (h : x.decisionPlan req = .checkThen d) : x.decisionOnState req = .checkThen d := by
  unfold decisionPlan at h
  split at h
  · split_ifs at h
    exact h
  · exact h

/-! ## The ends of a link -/

end TcpTunnel

end BuckyP2p.Tcp
