import BuckyP2p.Tcp.Agreement

/-!
# BuckyP2p.Tcp.Failures — a data connection that fails, and the control loops

`control_recv_loop` ends, and with it the tunnel, when the handler of a command returns an error.
While the control connection is healthy there are two such places.

* `handle_write_fin` and `handle_read_done` refuse a command for a connection that is not in the
  table, although an end that retires a connection removes it while commands for it are on their
  way.
* `bind_entry_to_lease` takes the stream of the entry; a connection that was retired after
  `process_claim_req` or `handle_claim_ack` has looked at it has none.

`Streams` is what keeps the stream of every other entry in its place.
-/

namespace BuckyP2p.Tcp

open Lib

/-- The loop is about to bind the entry, or to take its claim back. -/
def Loop.touches : Loop → Bool
  | .taking _ _ | .binding _ _ | .failing _ | .acked _ | .confirming _ => true
  | _ => false

/-- The loop has looked at the entry, and has not bound it yet. -/
def Loop.looked : Loop → Bool
  | .checking _ _ | .reserving _ _ => true
  | l => l.touches

/-- The loop has taken the stream of the entry. -/
def Loop.hasStream : Loop → Bool
  | .binding _ _ | .confirming _ => true
  | _ => false

/-- The control connections are healthy: commands are sent, and the tunnel is neither closed nor
retired. -/
def ClaimEvent.healthy : ClaimEvent → Bool
  | .sendClaim _ ok => ok
  | .deliver active => active
  | .enqueued ok => ok
  | .reply ok => ok
  | .sendDrain _ ok => ok
  | .close => false
  | _ => true

namespace TcpTunnel

variable {x x' y : TcpTunnel}

/-- A command for a lease finds the connection in the table, and the entry is not retired when the
loop binds it or takes its claim back. -/
def findsEntry (x : TcpTunnel) : ClaimEvent → Bool
  | .deliver _ =>
    match x.loop, x.inbox with
    | .ready, .drain cmd :: _ => x.getEntry cmd.connId
    | _, _ => true
  | .go => !x.loop.touches || x.state ≠ .retired
  | _ => true

/-- The entry is neither bound nor retired. -/
def Unbound (x : TcpTunnel) : Prop := x.state.status ≠ .held ∧ x.state.status ≠ .retired

theorem unbound_of_free (h : x.state.status = .free) : x.Unbound := by
  unfold Unbound
  rw [h]
  exact ⟨nofun, nofun⟩

/-- Nothing but a claim brings a retired entry back. -/
theorem Drifts.of_retired {s' : DataConnEntryState Nat} (h : Drifts .retired s') :
    s' = .retired := by
  cases h with
  | same => rfl
  | retired => rfl
  | held hs _ => cases hs
  | idle hs => cases hs

structure Streams (x : TcpTunnel) : Prop where
  resetting : x.resetting = []
  stream : x.Unbound → x.loop.hasStream = false → x.stream = true
  dropStream : x.state ≠ .retired → .dropStream ∉ x.todo
  looked : x.loop.looked = true → x.state.status ≠ .held
  running : x.loop ≠ .stopped

namespace Streams

theorem new (localId remoteId : P2pId) (connId : TcpConnId) (first : Bool) :
    Streams (.new localId remoteId connId first) where
  resetting := rfl
  stream _ _ := rfl
  dropStream _ := List.not_mem_nil
  looked h := by cases h
  running h := by cases h

/-- What is sent to an end does not matter. -/
theorem inbox (h : Streams x) (inbox : List TcpControlCmd) : Streams { x with inbox := inbox } :=
  ⟨h.resetting, h.stream, h.dropStream, h.looked, h.running⟩

/-- A step that is not one of a claim. -/
theorem calm (h : Streams x) (hcalm : Calm x x') (hstream : x.stream = true → x'.stream = true)
    (hsettled : x.state.status = .held → x'.Unbound → x'.stream = true)
    (hdrop : .dropStream ∈ x'.todo → .dropStream ∈ x.todo ∨ x'.state = .retired) : Streams x' where
  resetting := hcalm.resetting.trans h.resetting
  stream hunbound hloop := by
    rw [hcalm.loop] at hloop
    by_cases hheld : x.state.status = .held
    · exact hsettled hheld hunbound
    · refine hstream (h.stream ⟨hheld, fun hretired => hunbound.2 ?_⟩ hloop)
      have hdrift := hcalm.state
      rw [DataConnEntryState.eq_retired hretired] at hdrift
      rw [hdrift.of_retired]
      rfl
  dropStream hnot hmem := by
    rcases hdrop hmem with hbefore | hretired
    · refine h.dropStream (fun hretired => hnot ?_) hbefore
      have hdrift := hcalm.state
      rw [hretired] at hdrift
      exact hdrift.of_retired
    · exact hnot hretired
  looked hlooked hheld := by
    rw [hcalm.loop] at hlooked
    have hbefore := h.looked hlooked
    have hdrift := hcalm.state
    generalize x'.state = s' at hdrift hheld
    cases hdrift with
    | same => exact hbefore hheld
    | retired => cases hheld
    | held hs _ => exact hbefore hs
    | idle _ => cases hheld
  running := by
    rw [hcalm.loop]
    exact h.running

/-- A region of a lease. -/
theorem region (h : Streams x) {i : Nat} {lease : LeaseContext} (hi : x.leases[i]? = some lease)
    {r : LeaseContext × List Todo} (hr : r.1.entry = lease.entry) : Streams (x.region i r) := by
  refine h.calm (region_calm hi hr) (fun hs => hs) (fun hheld hunbound => ?_) fun hmem => ?_
  · exact absurd hheld hunbound.1
  · rcases List.mem_append.mp hmem with hbefore | hnew
    · exact .inl hbefore
    · obtain ⟨todo, -, heq⟩ := List.mem_map.mp hnew
      cases heq

theorem retirePlainEntry (h : Streams x) : Streams x.retirePlainEntry := by
  refine h.calm x.retirePlainEntry_calm (fun hs => hs) (fun _ hunbound => ?_) fun _ => .inr rfl
  exact absurd rfl hunbound.2

/-- A step that changes neither the entry nor what is to be done. -/
theorem same (h : Streams x) (hcalm : Calm x x') (hstate : x'.state = x.state)
    (hstream : x'.stream = x.stream) (htodo : ∀ chore ∈ x'.todo, chore ∈ x.todo ∨
      chore ≠ .dropStream) : Streams x' := by
  refine h.calm hcalm (fun hs => hstream.trans hs) (fun hheld hunbound => ?_) fun hmem => ?_
  · rw [← hstate] at hheld
    exact absurd hheld hunbound.1
  · exact .inl ((htodo _ hmem).resolve_right fun hne => hne rfl)

theorem runLease (h : Streams x) {i : Nat} {lease : LeaseContext} (hi : x.leases[i]? = some lease)
    (t : Todo) : Streams (x.runLease i lease t) := by
  have hcalm := runLease_calm hi t
  cases t with
  | sendWriteFin => exact { h.region hi lease.sendWriteFin_intact.entry with }
  | sendReadDone => exact { h.region hi lease.sendReadDone_intact.entry with }
  | markDraining =>
    refine h.calm hcalm (fun hs => ?_) (fun hheld hunbound => ?_) fun hmem => .inl ?_
    · simp only [TcpTunnel.runLease]
      split
      · exact hs
      · exact hs
    · refine absurd ?_ hunbound.1
      simp only [TcpTunnel.runLease]
      split
      · rfl
      · exact hheld
    · simp only [TcpTunnel.runLease] at hmem
      split at hmem
      · exact hmem
      · exact hmem
  | retire =>
    have hregion := h.region hi lease.retireLease_intact.entry
    refine hregion.same ?_ rfl rfl fun chore hmem => ?_
    · exact { Calm.refl (x.region i lease.retireLease) with }
    · simp only [TcpTunnel.runLease] at hmem
      rcases List.mem_append.mp hmem with hbefore | hnew
      · exact .inl hbefore
      · refine .inr fun heq => ?_
        subst heq
        split_ifs at hnew with hretired
        · cases hnew
        · simp at hnew
  | markRetired =>
    exact h.calm hcalm (fun hs => hs) (fun _ hunbound => absurd rfl hunbound.2) fun _ => .inr rfl
  | finalize => exact h.region hi lease.maybeFinalizeLease_intact.entry
  | settle =>
    have hstream : (x.runLease i lease .settle).stream = true := by
      simp only [TcpTunnel.runLease]
      split
      · rfl
      · rfl
      · rfl
    refine h.calm hcalm (fun _ => hstream) (fun _ _ => hstream) fun hmem => .inl ?_
    simp only [TcpTunnel.runLease] at hmem
    split at hmem
    · exact hmem
    · exact hmem
    · exact hmem

/-- A chore that was waiting is run; the stream is dropped only after the entry was retired. -/
theorem run (h : Streams x) (i : Nat) : Streams (x.act y (.run i)).1 := by
  simp only [act]
  cases hi : x.todo[i]? with
  | none => exact h
  | some chore =>
    have hmem : chore ∈ x.todo := List.mem_of_getElem? hi
    have hrest : Streams { x with todo := x.todo.eraseIdx i } := by
      refine h.same ?_ rfl rfl fun c hc => .inl (List.mem_of_mem_eraseIdx hc)
      exact { Calm.refl x with }
    cases chore with
    | lease j t =>
      simp only [runChore]
      split
      · next hj => exact hrest.runLease hj t
      · exact hrest
    | dropStream =>
      have hretired : x.state = .retired := by
        by_contra hne
        exact h.dropStream hne hmem
      refine ⟨h.resetting, fun hunbound _ => absurd ?_ hunbound.2, fun hne => absurd hretired hne,
        h.looked, h.running⟩
      show x.state.status = .retired
      rw [hretired]
      rfl
    | clearPendingDrainsForConn => exact { hrest with }
    | clearPendingDrainForEntry leaseSeq => exact { hrest with }
    | removeEntry => exact { hrest with }
    | sendPendingClaimResult channelId => exact { hrest with }

theorem useLease (h : Streams x) {i : Nat} {lease : LeaseContext} (hi : x.leases[i]? = some lease)
    (e : LeaseEvent) : Streams (x.useLease i lease e) := by
  cases e with
  | write n =>
    simp only [TcpTunnel.useLease]
    split_ifs with hdone
    · exact h
    · exact h.region hi rfl
  | read n eof =>
    simp only [TcpTunnel.useLease]
    split_ifs with hdone
    · exact h
    · exact h.region hi (lease.afterRead_intact n eof).entry
  | dropRead => exact h.region hi lease.releaseReadHalf_later.entry
  | dropWrite => exact h.region hi lease.releaseWriteHalf_later.entry
  | observe =>
    simp only [TcpTunnel.useLease]
    split_ifs with hdone
    · exact h
    · split
      · next lease' todo heq =>
        exact { h.region hi (r := (lease', todo)) (LeaseContext.observeStart_intact heq).entry with }
      · exact h.region hi rfl
  | observed result =>
    simp only [TcpTunnel.useLease]
    split_ifs with hobserving
    · exact { h.region hi (lease.observeEnd_intact result).entry with }
    · exact h
  | check => exact h.region hi lease.maybeFinalizeLease_intact.entry
  | fail => exact h.runLease hi .retire

/-- The loop goes on, and has not taken the stream. -/
theorem goes (h : Streams x) {l : Loop} (hfrom : x.loop.hasStream = false) (hl : l ≠ .stopped)
    (hlooked : l.looked = true → x.state.status ≠ .held) : Streams { x with loop := l } :=
  ⟨h.resetting, fun hunbound _ => h.stream hunbound hfrom, h.dropStream, hlooked, hl⟩

theorem keepWriteFin (h : Streams x) (fin : WriteFin) : Streams (x.keepWriteFin fin) := by
  unfold TcpTunnel.keepWriteFin
  split
  · exact h.retirePlainEntry
  · dsimp only
    split
    · split_ifs with hother
      · exact retirePlainEntry { h with }
      · exact { h with }
    · exact { h with }

theorem keepReadDone (h : Streams x) (done : ReadDone) : Streams (x.keepReadDone done) := by
  unfold TcpTunnel.keepReadDone
  split
  · exact h.retirePlainEntry
  · dsimp only
    split
    · split_ifs with hother
      · exact retirePlainEntry { h with }
      · exact { h with }
    · exact { h with }

/-- A command for a lease of a connection that is in the table. -/
theorem arrive (h : Streams x) (hready : x.loop = .ready) {cmd : DrainCmd}
    (hentry : x.getEntry cmd.connId = true) : Streams (x.arrive cmd) := by
  have hhandling : ∀ i, Streams { x with loop := .handling i cmd } := by
    intro i
    refine h.goes ?_ Loop.noConfusion fun hlooked => by cases hlooked
    rw [hready]
    rfl
  have hlater : Streams (if cmd.leaseSeq.gt x.committedLeaseSeq then x.retirePlainEntry else x) := by
    split_ifs with hlt
    · exact h.retirePlainEntry
    · exact h
  unfold TcpTunnel.arrive
  rw [hentry, Bool.not_true, if_neg Bool.false_ne_true]
  split
  · exact hlater
  · exact hlater
  · exact hlater
  · split_ifs with hseq hchannel
    · exact h.retirePlainEntry
    · cases cmd with
      | writeFin fin => exact h.keepWriteFin fin
      | readDone done => exact h.keepReadDone done
    · exact h
  · exact hhandling _
  · exact hhandling _

theorem handle (h : Streams x) (i : Nat) (cmd : DrainCmd) (hloop : x.loop = .handling i cmd) :
    Streams (x.handle i cmd) := by
  have hready : Streams { x with loop := .ready } := by
    refine h.goes ?_ Loop.noConfusion fun hlooked => by cases hlooked
    rw [hloop]
    rfl
  unfold TcpTunnel.handle
  dsimp only
  split
  · next lease hi =>
    cases cmd with
    | writeFin fin => exact hready.region hi (lease.handleWriteFin_intact fin).entry
    | readDone done => exact hready.region hi (lease.handleReadDone_intact done).entry
  · exact hready

theorem deliver (h : Streams x) (hentry : x.findsEntry (.deliver true) = true) :
    Streams (x.deliver true) := by
  unfold TcpTunnel.deliver
  split
  · next req rest hready hinbox =>
    have hfrom : x.loop.hasStream = false := by
      rw [hready]
      rfl
    rw [Bool.not_true, if_neg Bool.false_ne_true]
    split_ifs with hknown
    · exact (h.inbox rest).goes hfrom Loop.noConfusion fun hlooked => by cases hlooked
    · exact (h.inbox rest).goes hfrom Loop.noConfusion fun hlooked => by cases hlooked
  · next ack rest hready hinbox =>
    have hfrom : x.loop.hasStream = false := by
      rw [hready]
      rfl
    dsimp only
    split_ifs with hwaiter
    · exact (h.inbox rest).goes hfrom Loop.noConfusion fun hlooked => by cases hlooked
    · exact h.inbox rest
  · next cmd rest hready hinbox =>
    unfold findsEntry at hentry
    rw [hready, hinbox] at hentry
    exact (h.inbox rest).arrive hready hentry
  · exact h

theorem claimEntry (h : Streams x) (kind : TcpChannelKind) (purpose : TunnelPurpose)
    (channelId : TcpChannelId) (claimNonce : U64) :
    Streams (x.claimEntry kind purpose channelId claimNonce) := by
  have hstart : ∀ c, x.Unbound → Streams (x.startClaim c) := by
    intro c hunbound
    refine ⟨h.resetting, fun _ hloop => h.stream hunbound hloop, fun _ => h.dropStream ?_,
      fun _ => nofun, h.running⟩
    intro hretired
    refine hunbound.2 ?_
    rw [hretired]
    rfl
  unfold TcpTunnel.claimEntry
  split
  · next hs =>
    split_ifs with hfirst
    · exact hstart _ (unbound_of_free (by rw [hs]; rfl))
    · exact h
  · next hs => exact hstart _ (unbound_of_free (by rw [hs]; rfl))
  · exact h

/-- An entry that the loop has looked at, and that was not retired since, has its stream. -/
theorem taken (h : Streams x) (hlooked : x.loop.looked = true) (hfrom : x.loop.hasStream = false)
    (hnot : x.state ≠ .retired) : x.stream = true := by
  refine h.stream ⟨h.looked hlooked, fun hretired => ?_⟩ hfrom
  exact hnot (DataConnEntryState.eq_retired hretired)

/-- The entry is bound, when it was not retired. -/
theorem bind (h : Streams x) (hnot : x.state ≠ .retired) (channelId : TcpChannelId)
    (leaseSeq : TcpLeaseSeq) (kind : TcpChannelKind) (purpose : TunnelPurpose)
    (localInitiator : Bool) {l : Loop} (hl : l ≠ .stopped) (hlooked : l.looked = false) :
    Streams { x.bindEntryToLease channelId leaseSeq kind purpose localInitiator with loop := l } := by
  refine ⟨h.resetting, fun hunbound _ => absurd rfl hunbound.1, fun _ hmem => ?_, fun hlooked' => ?_,
    hl⟩
  · rcases List.mem_append.mp hmem with hbefore | hnew
    · exact h.dropStream hnot hbefore
    · obtain ⟨todo, -, heq⟩ := List.mem_map.mp hnew
      cases heq
  · rw [hlooked] at hlooked'
    cases hlooked'

/-- The target is checked only for a request to an entry that is not bound. -/
theorem decisionOnState_cases (x : TcpTunnel) (req : ClaimConnReq) :
    (∃ result, x.decisionOnState req = .ready (.err result)) ∨
      ∃ decision, x.decisionOnState req = .checkThen decision ∧ x.state.status ≠ .held := by
  unfold decisionOnState
  split
  · exact .inl ⟨_, rfl⟩
  · next hs =>
    split
    · exact .inr ⟨_, rfl, by rw [hs]; exact nofun⟩
    · exact .inl ⟨_, rfl⟩
  · next hs =>
    split_ifs with hseq
    · exact .inl ⟨_, rfl⟩
    · exact .inr ⟨_, rfl, by rw [hs]; exact nofun⟩
  · next c hs =>
    split_ifs with hseq hwins
    · exact .inl ⟨_, rfl⟩
    · exact .inr ⟨_, rfl, by rw [hs]; exact nofun⟩
    · exact .inr ⟨_, rfl, by rw [hs]; exact nofun⟩
  · exact .inl ⟨_, rfl⟩
  · exact .inl ⟨_, rfl⟩

theorem decisionPlan_cases (x : TcpTunnel) (req : ClaimConnReq) :
    (∃ response, x.decisionPlan req = .ready (.replay response)) ∨
      (∃ result, x.decisionPlan req = .ready (.err result)) ∨
      ∃ decision, x.decisionPlan req = .checkThen decision ∧ x.state.status ≠ .held := by
  unfold decisionPlan
  split
  · split_ifs with hseq hmatch
    · exact .inl ⟨_, rfl⟩
    · exact .inr (.inl ⟨_, rfl⟩)
    · exact .inr (decisionOnState_cases x req)
  · exact .inr (decisionOnState_cases x req)

/-- A claim that was refused is taken back. -/
theorem failClaim_eq (h : x.state.status ≠ .held) (result : ClaimConnAckResult) :
    x.failClaim result = x.unclaimed := by
  unfold failClaim
  split_ifs with hlost
  · split
    · next hs =>
      rw [hs] at h
      exact absurd rfl h
    · next hs =>
      rw [hs] at h
      exact absurd rfl h
    · rfl
  · rfl

theorem go (h : Streams x) (hfinds : x.findsEntry .go = true) : Streams x.go := by
  have hnot : x.loop.touches = true → x.state ≠ .retired := by
    intro htouches
    unfold findsEntry at hfinds
    simpa [htouches] using hfinds
  unfold TcpTunnel.go
  split
  · next req hloop =>
    have hfrom : x.loop.hasStream = false := by
      rw [hloop]
      rfl
    rcases decisionPlan_cases x req with ⟨_, hplan⟩ | ⟨_, hplan⟩ | ⟨_, hplan, hheld⟩
    · rw [hplan]
      exact h.goes hfrom nofun nofun
    · rw [hplan]
      exact h.goes hfrom nofun nofun
    · rw [hplan]
      exact h.goes hfrom nofun fun _ => hheld
  · next req localChannelId hloop =>
    have hstream := h.taken (by rw [hloop]; rfl) (by rw [hloop]; rfl) (hnot (by rw [hloop]; rfl))
    rw [if_pos hstream]
    exact ⟨h.resetting, nofun, h.dropStream, fun _ => h.looked (by rw [hloop]; rfl), nofun⟩
  · next req localChannelId hloop =>
    exact h.bind (hnot (by rw [hloop]; rfl)) _ _ _ _ _ nofun rfl
  · next record processing hloop =>
    have hfrom : x.loop.hasStream = false := by
      rw [hloop]
      rfl
    exact { h.goes hfrom (l := .processed processing) nofun nofun with }
  · next ack hloop =>
    have hfrom : x.loop.hasStream = false := by
      rw [hloop]
      rfl
    split_ifs with hknown
    · exact h.goes hfrom nofun nofun
    · exact h.goes hfrom nofun nofun
  · next ack hloop =>
    have hfrom : x.loop.hasStream = false := by
      rw [hloop]
      rfl
    split
    · next c hclaim =>
      obtain ⟨hstate, -⟩ := claimOf_some hclaim
      have hheld : x.state.status ≠ .held := by
        rw [hstate]
        exact nofun
      split_ifs with hsuccess
      · exact h.goes hfrom nofun fun _ => hheld
      · exact h.goes hfrom nofun fun _ => hheld
    · exact h.goes hfrom nofun nofun
  · next ack hloop =>
    have hlooked : x.loop.looked = true := by
      rw [hloop]
      rfl
    have hretired := hnot (by rw [hloop]; rfl)
    have hstream := h.taken hlooked (by rw [hloop]; rfl) hretired
    rw [failClaim_eq (h.looked hlooked) ack.result]
    exact ⟨h.resetting, fun _ _ => hstream, fun _ => h.dropStream hretired, nofun, nofun⟩
  · next c hloop =>
    have hstream := h.taken (by rw [hloop]; rfl) (by rw [hloop]; rfl) (hnot (by rw [hloop]; rfl))
    rw [if_pos hstream]
    exact ⟨h.resetting, nofun, h.dropStream, fun _ => h.looked (by rw [hloop]; rfl), nofun⟩
  · next c hloop =>
    exact h.bind (hnot (by rw [hloop]; rfl)) _ _ _ _ _ nofun rfl
  · next channelId hloop =>
    have hfrom : x.loop.hasStream = false := by
      rw [hloop]
      rfl
    exact { h.goes hfrom (l := .ready) nofun nofun with }
  · next i cmd hloop => exact h.handle i cmd hloop
  · exact h

theorem checked (h : Streams x) (answer : Option AcceptRefusal) : Streams (x.checked answer) := by
  unfold TcpTunnel.checked
  split
  · next req decision hloop =>
    have hfrom : x.loop.hasStream = false := by
      rw [hloop]
      rfl
    have hheld := h.looked (by rw [hloop]; rfl)
    cases decision with
    | replay response => exact h.goes hfrom nofun nofun
    | accept => exact h.goes hfrom nofun fun _ => hheld
    | err result => exact h.goes hfrom nofun nofun
    | conflictWin => exact h.goes hfrom nofun nofun
    | conflictLose localChannelId => exact h.goes hfrom nofun fun _ => hheld
  · next req decision reason hloop =>
    refine h.goes ?_ nofun nofun
    rw [hloop]
    rfl
  · exact h

theorem reserved (h : Streams x) (answer : Option AcceptRefusal) :
    Streams (x.reserved answer) := by
  unfold TcpTunnel.reserved
  split
  · next req localChannelId hloop =>
    have hheld := h.looked (by rw [hloop]; rfl)
    refine h.goes ?_ nofun fun _ => hheld
    rw [hloop]
    rfl
  · next req localChannelId reason hloop =>
    refine h.goes ?_ nofun nofun
    rw [hloop]
    rfl
  · exact h

theorem enqueued (h : Streams x) : Streams (x.enqueued true) := by
  unfold TcpTunnel.enqueued
  split
  · next p hloop =>
    have hfrom : x.loop.hasStream = false := by
      rw [hloop]
      rfl
    rw [Bool.not_true, Bool.and_false, if_neg Bool.false_ne_true]
    split
    · exact { h.goes hfrom (l := .replying p.response) nofun nofun with }
    · exact h.goes hfrom nofun nofun
  · exact h

theorem reply (h : Streams x) : Streams (x.reply y true).1 := by
  unfold TcpTunnel.reply
  split
  · next ack hloop =>
    refine h.goes ?_ nofun nofun
    rw [hloop]
    rfl
  · exact h

/-- Every step of a healthy end that finds its entry. -/
theorem act (h : Streams x) {e : ClaimEvent} (hhealthy : e.healthy = true)
    (hfinds : x.findsEntry e = true) : Streams (x.act y e).1 := by
  cases e with
  | claim kind purpose channelId nonce => exact h.claimEntry kind purpose channelId nonce
  | register i =>
    simp only [TcpTunnel.act, registerClaim]
    split
    · exact { h with }
    · exact h
  | sendClaim i ok =>
    obtain rfl : ok = true := hhealthy
    simp only [TcpTunnel.act, sendClaim]
    split
    · exact { h with }
    · exact h
  | reset i =>
    have hnone : x.resetting[i]? = none := by
      rw [h.resetting]
      rfl
    simp only [TcpTunnel.act, resetClaim, hnone]
    exact h
  | forget channelId => exact { h with }
  | deliver active =>
    obtain rfl : active = true := hhealthy
    exact h.deliver hfinds
  | go => exact h.go hfinds
  | checked answer => exact h.checked answer
  | reserved answer => exact h.reserved answer
  | enqueued ok =>
    obtain rfl : ok = true := hhealthy
    exact h.enqueued
  | reply ok =>
    obtain rfl : ok = true := hhealthy
    exact h.reply
  | lease i e =>
    simp only [TcpTunnel.act]
    split
    · next hi => exact h.useLease hi e
    · exact h
  | run i => exact h.run i
  | sendDrain i ok =>
    obtain rfl : ok = true := hhealthy
    simp only [TcpTunnel.act, sendDrain]
    split
    · rw [if_pos trivial]
      refine h.same ?_ rfl rfl fun chore hmem => ?_
      · exact { Calm.refl x with }
      · rcases List.mem_append.mp hmem with hbefore | hnew
        · exact .inl hbefore
        · refine .inr fun heq => ?_
          rw [heq, List.mem_singleton] at hnew
          cases hnew
    · exact h
  | abandon => exact h.retirePlainEntry
  | close => cases hhealthy

end Streams

end TcpTunnel

namespace Link

theorem streams_step {s : Link} (h : s.active.Streams ∧ s.passive.Streams)
    {i : TunnelForm × ClaimEvent} (hhealthy : i.2.healthy = true)
    (hfinds : (s.tunnel i.1).findsEntry i.2 = true) :
    (s.step i).active.Streams ∧ (s.step i).passive.Streams := by
  obtain ⟨p, e⟩ := i
  cases p with
  | active =>
    obtain ⟨inbox, hother⟩ := s.active.act_other s.passive e
    refine ⟨h.1.act hhealthy hfinds, ?_⟩
    show (s.active.act s.passive e).2.Streams
    rw [hother]
    exact h.2.inbox inbox
  | passive =>
    obtain ⟨inbox, hother⟩ := s.passive.act_other s.active e
    refine ⟨?_, h.2.act hhealthy hfinds⟩
    show (s.passive.act s.active e).2.Streams
    rw [hother]
    exact h.1.inbox inbox

/-- **A failed data connection stays local.**  In every run with healthy control connections in which
a command for a lease finds its connection in the table, and the entry is not retired when the loop
binds it or takes its claim back, no loop ends. -/
theorem loops_run (activeId passiveId : P2pId) (connId : TcpConnId) (first : TunnelForm)
    (events : List (TunnelForm × ClaimEvent))
    (hhealthy : ∀ i ∈ events, i.2.healthy = true)
    (hfinds : Along step (fun s i => (s.tunnel i.1).findsEntry i.2 = true)
      (.start activeId passiveId connId first) events) :
    (exec step (.start activeId passiveId connId first) events).active.loop ≠ .stopped ∧
      (exec step (.start activeId passiveId connId first) events).passive.loop ≠ .stopped := by
  have hstreams : ∀ (s : Link) (events : List (TunnelForm × ClaimEvent)),
      s.active.Streams ∧ s.passive.Streams → (∀ i ∈ events, i.2.healthy = true) →
      Along step (fun s i => (s.tunnel i.1).findsEntry i.2 = true) s events →
      (exec step s events).active.Streams ∧ (exec step s events).passive.Streams := by
    intro s events
    induction events generalizing s with
    | nil => exact fun h _ _ => h
    | cons i events ih =>
      intro h hall hrun
      refine ih (s.step i) ?_ (fun j hj => hall j (List.mem_cons_of_mem _ hj)) hrun.2
      exact streams_step h (hall i (List.mem_cons_self ..)) hrun.1
  obtain ⟨hactive, hpassive⟩ := hstreams _ events
    ⟨TcpTunnel.Streams.new _ _ _ _, TcpTunnel.Streams.new _ _ _ _⟩ hhealthy hfinds
  exact ⟨hactive.running, hpassive.running⟩

/-- The lease of the active end fails, and its connection is taken out of the table. -/
def breaks : List (TunnelForm × ClaimEvent) :=
  [(.active, .lease 0 .fail), (.active, .run 0), (.active, .run 0), (.active, .run 0),
    (.active, .run 0)]

/-- A lease that is bound, let go and drained at both ends. -/
theorem loops_run_lease :
    (exec step (.start [1] [2] 7 .active)
      (opens ++ drops .active ++ drops .passive ++ drains .active)).active.loop ≠ .stopped ∧
    (exec step (.start [1] [2] 7 .active)
      (opens ++ drops .active ++ drops .passive ++ drains .active)).passive.loop ≠ .stopped :=
  loops_run [1] [2] 7 .active _ (by decide) (by decide +kernel)

/-- The passive end lets the lease go, and its `WriteFin` comes to an end whose read has failed: the
loop ends although the control connection is healthy. -/
theorem loop_stopped_by_failure :
    (∀ i ∈ opens ++ breaks ++ drops .passive ++ [(.active, .deliver true)],
      i.2.healthy = true) ∧
    (exec step (.start [1] [2] 7 .active) (opens ++ breaks ++ drops .passive)).active.loop =
      .ready ∧
    (exec step (.start [1] [2] 7 .active)
      (opens ++ breaks ++ drops .passive ++ [(.active, .deliver true)])).active.loop =
      .stopped := by
  refine ⟨by decide, ?_, ?_⟩
  · decide +kernel
  · decide +kernel

end Link

end BuckyP2p.Tcp
