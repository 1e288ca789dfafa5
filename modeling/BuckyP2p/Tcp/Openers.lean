import BuckyP2p.Lib.Lists
import BuckyP2p.Lib.Table
import BuckyP2p.Tcp.Claim

/-!
# BuckyP2p.Tcp.Openers — calls of `open_channel` at one end of a tunnel

The calls share `data_conns` and `pending_claims`.  A call looks for an entry that can be claimed,
makes a connection if there is none, and claims the entry; each of these takes locks of its own, and
other calls run in between.  A step is one lock region, the end of an await, or a send.

* `find_claimable_entry` copies the entries, in some order, and looks at them one after another.
* A connection that was made for a call, by this end or by the peer, is in `data_conns` before the
  call goes on.
* An `awaiting` call carries how far the answer to its request has come.  The answers of several
  calls are handled beside each other, which is more than the one `control_recv_loop` does.
* Timers do not run out, and nothing but these calls touches the connections.
-/

namespace BuckyP2p.Tcp

open Lib

def claimResultToError : ClaimConnAckResult → P2pErrorCode
  | .success => .ok
  | .conflictLost => .conflict
  | .retired => .interrupted
  | .vportNotFound => .portNotListen
  | .leaseMismatch | .notIdle | .protocolError | .listenerClosed | .acceptQueueFull => .reject

def resultText : ClaimConnAckResult → String
  | .success => "Success"
  | .vportNotFound => "VportNotFound"
  | .listenerClosed => "ListenerClosed"
  | .notIdle => "NotIdle"
  | .leaseMismatch => "LeaseMismatch"
  | .conflictLost => "ConflictLost"
  | .retired => "Retired"
  | .protocolError => "ProtocolError"
  | .acceptQueueFull => "AcceptQueueFull"

def claimResultToP2pError (result : ClaimConnAckResult) : P2pError :=
  ⟨claimResultToError result, "claim rejected: " ++ resultText result⟩

/-- An entry of `data_conns`. -/
structure DataConnEntry where
  firstClaimLocal : Bool
  committedLeaseSeq : TcpLeaseSeq
  state : DataConnEntryState LeaseContext
  deriving DecidableEq

namespace DataConnEntry

/-- The entry of a connection that was made for a call. -/
def new : DataConnEntry := ⟨true, 0, .firstClaimPending⟩

/-- The lease that a claim of the entry is for; `none` if it cannot be claimed. -/
def claimableSeq (x : DataConnEntry) : Option TcpLeaseSeq :=
  match x.state with
  | .firstClaimPending => if x.firstClaimLocal then some 1 else none
  | .idle => some (nextLeaseSeq x.committedLeaseSeq)
  | _ => none

/-- The state of an entry whose claim has failed. -/
def unclaimed (x : DataConnEntry) : DataConnEntryState LeaseContext :=
  if x.firstClaimLocal && x.committedLeaseSeq = 0 then .firstClaimPending else .idle

/-- The entry's claim, if it is the one that `ack` answers. -/
def claimOf (x : DataConnEntry) (ack : ClaimConnAck) : Option ClaimingState :=
  match x.state with
  | .claiming c =>
    if c.channelId = ack.channelId ∧ c.leaseSeq = ack.leaseSeq then some c else none
  | _ => none

/-- The entry after a claim that was refused. -/
def failClaim (x : DataConnEntry) (result : ClaimConnAckResult) : DataConnEntryState LeaseContext :=
  if result = .conflictLost then
    match x.state with
    | .bound lease => .bound lease
    | .draining lease => .draining lease
    | _ => x.unclaimed
  else x.unclaimed

/-- `bind_entry_to_lease`. -/
def bind (x : DataConnEntry) (connId : TcpConnId) (c : ClaimingState) : DataConnEntry :=
  { x with
    committedLeaseSeq := c.leaseSeq
    state := .bound (.new connId c.leaseSeq c.channelId c.kind c.purpose true) }

end DataConnEntry

/-- How far the answer to a request has come, in `handle_claim_ack`. -/
inductive Answering
  | sent
  | waited (ack : ClaimConnAck)
  | found (ack : ClaimConnAck)
  | failing (ack : ClaimConnAck)
  | confirming (claiming : ClaimingState)
  | telling (result : P2pResult LeaseContext)
  | handled
  deriving DecidableEq

/-- Where a call of `open_channel` stands; in `claim_entry` from `claiming` on. -/
inductive OpenerPhase
  | searching
  | scanning (left : List TcpConnId)
  | creating
  | claiming (connId : TcpConnId)
  | registering (req : ClaimConnReq)
  | sending (req : ClaimConnReq)
  | unsent (req : ClaimConnReq) (err : P2pError)
  | awaiting (req : ClaimConnReq) (answering : Answering)
  | done (result : P2pResult LeaseContext)
  deriving DecidableEq

/-- `rounds` counts the turns of the loop; `mailbox` is what was sent to the call. -/
structure Opener where
  kind : TcpChannelKind
  purpose : TunnelPurpose
  rounds : Nat
  skippedConnIds : List TcpConnId
  lastConflict : Option P2pError
  phase : OpenerPhase
  mailbox : Option (P2pResult LeaseContext)
  deriving DecidableEq

structure Openings where
  dataConns : Table TcpConnId DataConnEntry
  pendingClaims : Table TcpChannelId Nat
  openers : List Opener

/-- What happens next; `k` is the number of a call. -/
inductive OpenerEvent
  | search (k : Nat) (order : List TcpConnId)
  | scan (k : Nat)
  | create (k : Nat) (result : P2pResult TcpConnId)
  | claim (k : Nat) (channelId : TcpChannelId) (claimNonce : U64)
  | register (k : Nat)
  | send (k : Nat) (failure : Option P2pError)
  | reset (k : Nat)
  | answer (k : Nat) (result : ClaimConnAckResult)
  | handle (k : Nat)
  | resume (k : Nat)
  | waiterDropped (k : Nat)
  deriving DecidableEq

namespace Openings

def start (dataConns : Table TcpConnId DataConnEntry)
    (calls : List (TcpChannelKind × TunnelPurpose)) : Openings where
  dataConns := dataConns
  pendingClaims := ∅
  openers := calls.map fun call => ⟨call.1, call.2, 0, [], none, .searching, none⟩

def setPhase (s : Openings) (k : Nat) (phase : OpenerPhase) : Openings :=
  { s with openers := s.openers.modify k fun o => { o with phase } }

def setEntry (s : Openings) (connId : TcpConnId) (x : DataConnEntry) : Openings :=
  { s with dataConns := s.dataConns.insert connId x }

/-- The start of a turn of the loop, and the copy of the entries. -/
def search (s : Openings) (k : Nat) (o : Opener) (order : List TcpConnId) : Openings :=
  match o.phase with
  | .searching =>
    if 4 ≤ o.rounds then
      s.setPhase k (.done (.error (o.lastConflict.getD
        ⟨.errorState, "no claimable data connection"⟩)))
    else if order.isPerm s.dataConns.keys then s.setPhase k (.scanning order)
    else s
  | _ => s

/-- The connection that `find_claimable_entry` returns after its next look. -/
def choice (s : Openings) (o : Opener) : Option TcpConnId :=
  match o.phase with
  | .scanning (connId :: _) =>
    if connId ∈ o.skippedConnIds then none
    else if ((s.dataConns.lookup connId).bind DataConnEntry.claimableSeq).isSome then some connId
    else none
  | _ => none

def scan (s : Openings) (k : Nat) (o : Opener) : Openings :=
  match o.phase with
  | .scanning [] => s.setPhase k .creating
  | .scanning (_ :: rest) =>
    match s.choice o with
    | some connId => s.setPhase k (.claiming connId)
    | none => s.setPhase k (.scanning rest)
  | _ => s

/-- `create_data_connection_for_channel`, with `register_entry` at its end. -/
def create (s : Openings) (k : Nat) (o : Opener) (result : P2pResult TcpConnId) : Openings :=
  match o.phase, result with
  | .creating, .ok connId =>
    match s.dataConns.lookup connId with
    | none => (s.setEntry connId .new).setPhase k (.claiming connId)
    | some _ =>
      s.setPhase k (.done (.error ⟨.conflict, "tcp data conn id already registered"⟩))
  | .creating, .error err => s.setPhase k (.done (.error err))
  | _, _ => s

/-- The first region of `claim_entry`. -/
def claim (s : Openings) (k : Nat) (o : Opener) (channelId : TcpChannelId) (claimNonce : U64) :
    Openings :=
  match o.phase with
  | .claiming connId =>
    match s.dataConns.lookup connId with
    | none => s
    | some x =>
      match x.claimableSeq with
      | some leaseSeq =>
        let c : ClaimingState := ⟨leaseSeq, channelId, claimNonce, o.kind, o.purpose⟩
        (s.setEntry connId { x with state := .claiming c }).setPhase k (.registering (c.request connId))
      | none => s.setPhase k (.done (.error ⟨.errorState, "connection not claimable"⟩))
  | _ => s

def register (s : Openings) (k : Nat) (o : Opener) : Openings :=
  match o.phase with
  | .registering req =>
    { s.setPhase k (.sending req) with pendingClaims := s.pendingClaims.insert req.channelId k }
  | _ => s

/-- The request is sent, or its waiter removed. -/
def send (s : Openings) (k : Nat) (o : Opener) (failure : Option P2pError) : Openings :=
  match o.phase with
  | .sending req =>
    match failure with
    | none => s.setPhase k (.awaiting req .sent)
    | some err =>
      { s.setPhase k (.unsent req err) with pendingClaims := s.pendingClaims.erase req.channelId }
  | _ => s

/-- After a failed send the entry is reset, and the call returns. -/
def reset (s : Openings) (k : Nat) (o : Opener) : Openings :=
  match o.phase with
  | .unsent req err =>
    match s.dataConns.lookup req.connId with
    | some x =>
      (s.setEntry req.connId { x with state := x.unclaimed }).setPhase k (.done (.error err))
    | none => s.setPhase k (.done (.error err))
  | _ => s

/-- The peer has answered, and the loop looks for the waiter. -/
def answer (s : Openings) (k : Nat) (o : Opener) (result : ClaimConnAckResult) : Openings :=
  match o.phase with
  | .awaiting req .sent =>
    if (s.pendingClaims.lookup req.channelId).isSome then
      s.setPhase k (.awaiting req (.waited ⟨req.channelId, req.connId, req.leaseSeq, result⟩))
    else s.setPhase k (.awaiting req .handled)
  | _ => s

/-- `send_pending_claim_result`. -/
def tell (s : Openings) (channelId : TcpChannelId) (result : P2pResult LeaseContext) : Openings :=
  match s.pendingClaims.lookup channelId with
  | some k =>
    { s with
      pendingClaims := s.pendingClaims.erase channelId
      openers := s.openers.modify k fun o => { o with mailbox := some result } }
  | none => s

/-- The next region of `handle_claim_ack`. -/
def handle (s : Openings) (k : Nat) (o : Opener) : Openings :=
  match o.phase with
  | .awaiting req (.waited ack) =>
    if (s.dataConns.lookup ack.connId).isSome then s.setPhase k (.awaiting req (.found ack))
    else
      s.setPhase k (.awaiting req (.telling (.error ⟨.notFound, "claim ack conn not found"⟩)))
  | .awaiting req (.found ack) =>
    match (s.dataConns.lookup ack.connId).bind (·.claimOf ack) with
    | some c =>
      s.setPhase k (.awaiting req (if ack.result = .success then .confirming c else .failing ack))
    | none => s.setPhase k (.awaiting req .handled)
  | .awaiting req (.failing ack) =>
    let s' := s.setPhase k (.awaiting req (.telling (.error (claimResultToP2pError ack.result))))
    match s.dataConns.lookup ack.connId with
    | some x => s'.setEntry ack.connId { x with state := x.failClaim ack.result }
    | none => s'
  | .awaiting req (.confirming c) =>
    match s.dataConns.lookup req.connId with
    | some x =>
      (s.setEntry req.connId (x.bind req.connId c)).setPhase k (.awaiting req
        (.telling (.ok (.new req.connId c.leaseSeq c.channelId c.kind c.purpose true))))
    | none => s
  | .awaiting req (.telling result) => (s.setPhase k (.awaiting req .handled)).tell req.channelId result
  | _ => s

/-- The call reads its result: a conflict starts another turn of the loop. -/
def resume (s : Openings) (k : Nat) (o : Opener) : Openings :=
  match o.phase, o.mailbox with
  | .awaiting _ _, some (.ok lease) => s.setPhase k (.done (.ok lease))
  | .awaiting req _, some (.error err) =>
    if err.code = .conflict then
      { s with
        openers := s.openers.modify k fun o =>
          { o with
            rounds := o.rounds + 1
            skippedConnIds := o.skippedConnIds ++ [req.connId]
            lastConflict := some err
            phase := .searching
            mailbox := none } }
    else s.setPhase k (.done (.error err))
  | _, _ => s

/-- Nobody can send to the call any more. -/
def waiterDropped (s : Openings) (k : Nat) (o : Opener) : Openings :=
  match o.phase, o.mailbox with
  | .awaiting req _, none =>
    if s.pendingClaims.lookup req.channelId = some k then s
    else s.setPhase k (.done (.error ⟨.interrupted, "claim waiter dropped"⟩))
  | _, _ => s

/-- A step of the call `k`, if there is one. -/
def onCall (s : Openings) (k : Nat) (f : Opener → Openings) : Openings :=
  match s.openers[k]? with
  | some o => f o
  | none => s

def step (s : Openings) : OpenerEvent → Openings
  | .search k order => s.onCall k (s.search k · order)
  | .scan k => s.onCall k (s.scan k)
  | .create k result => s.onCall k (s.create k · result)
  | .claim k channelId claimNonce => s.onCall k (s.claim k · channelId claimNonce)
  | .register k => s.onCall k (s.register k)
  | .send k failure => s.onCall k (s.send k · failure)
  | .reset k => s.onCall k (s.reset k)
  | .answer k result => s.onCall k (s.answer k · result)
  | .handle k => s.onCall k (s.handle k)
  | .resume k => s.onCall k (s.resume k)
  | .waiterDropped k => s.onCall k (s.waiterDropped k)

end Openings

/-! ### Who holds what -/

namespace Opener

/-- The connection that the call has chosen, claims or has got. -/
def holds (o : Opener) : Option TcpConnId :=
  match o.phase with
  | .claiming connId => some connId
  | .registering req | .sending req | .unsent req _ | .awaiting req _ => some req.connId
  | .done (.ok lease) => some lease.connId
  | _ => none

/-- The channel id under which the call waits for an answer, or is about to. -/
def channel (o : Opener) : Option TcpChannelId :=
  match o.phase with
  | .registering req | .sending req => some req.channelId
  | .awaiting req _ => if o.mailbox.isNone then some req.channelId else none
  | _ => none

end Opener

namespace Openings

variable {s s' : Openings} {k : Nat} {o o' : Opener}

/-- The entry is claimed with this request. -/
def Claimed (s : Openings) (req : ClaimConnReq) : Prop :=
  ∃ x, s.dataConns.lookup req.connId = some x ∧ x.state = .claiming req.claiming

/-- The entry is bound to this lease. -/
def BoundTo (s : Openings) (connId : TcpConnId) (lease : LeaseContext) : Prop :=
  lease.connId = connId ∧ ∃ x, s.dataConns.lookup connId = some x ∧ x.state = .bound lease

/-- The peer accepts, and the answer finds the claim. -/
def Answers (s : Openings) (req : ClaimConnReq) : Answering → Prop
  | .sent => s.Claimed req
  | .waited ack | .found ack =>
    ack = ⟨req.channelId, req.connId, req.leaseSeq, .success⟩ ∧ s.Claimed req
  | .confirming c => c = req.claiming ∧ s.Claimed req
  | .telling result => ∃ lease, result = .ok lease ∧ s.BoundTo req.connId lease
  | .failing _ | .handled => False

/-- The call `k` fits the state of the connection that it holds. -/
def Fits (s : Openings) (k : Nat) (o : Opener) : Prop :=
  match o.phase with
  | .searching => o.rounds = 0 ∧ o.mailbox = none
  | .scanning _ | .creating => o.mailbox = none
  | .claiming connId =>
    o.mailbox = none ∧ ∃ x, s.dataConns.lookup connId = some x ∧ x.claimableSeq.isSome = true
  | .registering req => o.mailbox = none ∧ s.Claimed req
  | .sending req => o.mailbox = none ∧ s.Claimed req ∧ s.pendingClaims.lookup req.channelId = some k
  | .unsent _ _ => False
  | .awaiting req answering =>
    (o.mailbox = none ∧ s.pendingClaims.lookup req.channelId = some k ∧ s.Answers req answering) ∨
      (answering = .handled ∧ ∃ lease, o.mailbox = some (.ok lease) ∧ s.BoundTo req.connId lease)
  | .done result => ∃ lease, result = .ok lease ∧ s.BoundTo lease.connId lease

structure Inv (s : Openings) : Prop where
  fits : ∀ (k : Nat) (o : Opener), s.openers[k]? = some o → s.Fits k o
  holds : ∀ (i j : Nat) (x y : Opener) (c : TcpConnId), s.openers[i]? = some x → s.openers[j]? = some y →
    x.holds = some c → y.holds = some c → i = j
  channels : ∀ (i j : Nat) (x y : Opener) (c : TcpChannelId), s.openers[i]? = some x → s.openers[j]? = some y →
    x.channel = some c → y.channel = some c → i = j

theorem start_inv (dataConns : Table TcpConnId DataConnEntry)
    (calls : List (TcpChannelKind × TunnelPurpose)) : Inv (start dataConns calls) := by
  have hphase : ∀ (k : Nat) (o : Opener), (start dataConns calls).openers[k]? = some o →
      o.phase = .searching ∧ o.rounds = 0 ∧ o.mailbox = none := by
    intro k o hk
    rw [start, List.getElem?_map] at hk
    obtain ⟨call, -, rfl⟩ := Option.map_eq_some_iff.mp hk
    exact ⟨rfl, rfl, rfl⟩
  refine ⟨?_, ?_, ?_⟩
  · intro k o hk
    obtain ⟨hsearch, hrest⟩ := hphase k o hk
    rw [Fits, hsearch]
    exact hrest
  · intro i j x y c hi _ hx _
    simp [Opener.holds, (hphase i x hi).1] at hx
  · intro i j x y c hi _ hx _
    simp [Opener.channel, (hphase i x hi).1] at hx

/-! ### One call moves -/

/-- Where a call stands depends on the connection that it holds and on its channel. -/
theorem Claimed.congr {req : ClaimConnReq} (h : s.Claimed req)
    (hconn : s'.dataConns.lookup req.connId = s.dataConns.lookup req.connId) : s'.Claimed req := by
  obtain ⟨x, hx, hstate⟩ := h
  exact ⟨x, hconn.trans hx, hstate⟩

theorem BoundTo.congr {c : TcpConnId} {lease : LeaseContext} (h : s.BoundTo c lease)
    (hconn : s'.dataConns.lookup c = s.dataConns.lookup c) : s'.BoundTo c lease := by
  obtain ⟨hid, x, hx, hstate⟩ := h
  exact ⟨hid, x, hconn.trans hx, hstate⟩

theorem Answers.congr {req : ClaimConnReq} {a : Answering} (h : s.Answers req a)
    (hconn : s'.dataConns.lookup req.connId = s.dataConns.lookup req.connId) : s'.Answers req a := by
  cases a with
  | sent => exact Claimed.congr h hconn
  | waited ack => exact ⟨h.1, h.2.congr hconn⟩
  | found ack => exact ⟨h.1, h.2.congr hconn⟩
  | failing ack => exact h
  | confirming c => exact ⟨h.1, h.2.congr hconn⟩
  | telling result =>
    obtain ⟨lease, hres, hbound⟩ := h
    exact ⟨lease, hres, hbound.congr hconn⟩
  | handled => exact h

theorem Fits.congr (h : s.Fits k o)
    (hconns : ∀ c, o.holds = some c → s'.dataConns.lookup c = s.dataConns.lookup c)
    (hpending : ∀ c, o.channel = some c → s'.pendingClaims.lookup c = s.pendingClaims.lookup c) :
    s'.Fits k o := by
  unfold Fits at h ⊢
  cases hphase : o.phase with
  | searching | scanning left | creating => simpa only [hphase] using h
  | claiming connId =>
    simp only [hphase] at h ⊢
    rw [hconns connId (by simp [Opener.holds, hphase])]
    exact h
  | registering req =>
    simp only [hphase] at h ⊢
    exact ⟨h.1, h.2.congr (hconns _ (by simp [Opener.holds, hphase]))⟩
  | sending req =>
    simp only [hphase] at h ⊢
    refine ⟨h.1, h.2.1.congr (hconns _ (by simp [Opener.holds, hphase])), ?_⟩
    rw [hpending _ (by simp [Opener.channel, hphase])]
    exact h.2.2
  | unsent req err => simp only [hphase] at h
  | awaiting req answering =>
    simp only [hphase] at h ⊢
    have hconn := hconns req.connId (by simp [Opener.holds, hphase])
    rcases h with ⟨hmail, hwait, hans⟩ | ⟨hhandled, lease, hmail, hbound⟩
    · refine .inl ⟨hmail, ?_, hans.congr hconn⟩
      rw [hpending _ (by simp [Opener.channel, hphase, hmail])]
      exact hwait
    · exact .inr ⟨hhandled, lease, hmail, hbound.congr hconn⟩
  | done result =>
    simp only [hphase] at h ⊢
    obtain ⟨lease, rfl, hbound⟩ := h
    exact ⟨lease, rfl, hbound.congr (hconns _ (by simp [Opener.holds, hphase]))⟩

/-- A connection that is held is there. -/
theorem Fits.held (h : s.Fits k o) {c : TcpConnId} (hc : o.holds = some c) :
    (s.dataConns.lookup c).isSome = true := by
  unfold Fits at h
  unfold Opener.holds at hc
  cases hphase : o.phase with
  | searching | scanning left | creating =>
    simp only [hphase] at hc
    cases hc
  | claiming connId =>
    simp only [hphase, Option.some.injEq] at h hc
    obtain ⟨-, x, hx, -⟩ := h
    rw [← hc, hx]
    rfl
  | registering req =>
    simp only [hphase, Option.some.injEq] at h hc
    obtain ⟨-, x, hx, -⟩ := h
    rw [← hc, hx]
    rfl
  | sending req =>
    simp only [hphase, Option.some.injEq] at h hc
    obtain ⟨-, ⟨x, hx, -⟩, -⟩ := h
    rw [← hc, hx]
    rfl
  | unsent req err => simp only [hphase] at h
  | awaiting req answering =>
    simp only [hphase, Option.some.injEq] at h hc
    have hlook : ∃ x, s.dataConns.lookup req.connId = some x := by
      rcases h with ⟨-, -, hans⟩ | ⟨-, lease, -, -, x, hx, -⟩
      · cases answering with
        | sent => obtain ⟨x, hx, -⟩ := hans; exact ⟨x, hx⟩
        | waited ack | found ack | confirming c => obtain ⟨-, x, hx, -⟩ := hans; exact ⟨x, hx⟩
        | telling result => obtain ⟨lease, -, -, x, hx, -⟩ := hans; exact ⟨x, hx⟩
        | failing ack | handled => exact hans.elim
      · exact ⟨x, hx⟩
    obtain ⟨x, hx⟩ := hlook
    rw [← hc, hx]
    rfl
  | done result =>
    simp only [hphase] at h
    obtain ⟨lease, rfl, -, x, hx, -⟩ := h
    simp only [hphase, Option.some.injEq] at hc
    rw [← hc, hx]
    rfl

/-- The call `k` goes from `o` to `o'`; it changes only the connection that it holds, or a new one,
and only the waiter of its own channel. -/
structure Move (s s' : Openings) (k : Nat) (o o' : Opener) : Prop where
  before : s.openers[k]? = some o
  after : s'.openers[k]? = some o'
  others : ∀ j, j ≠ k → s'.openers[j]? = s.openers[j]?
  conns : ∀ c, s'.dataConns.lookup c = s.dataConns.lookup c ∨ o.holds = some c ∨
    s.dataConns.lookup c = none
  pending : ∀ c, s'.pendingClaims.lookup c = s.pendingClaims.lookup c ∨ o.channel = some c

theorem setPhase_move (hk : s.openers[k]? = some o) (phase : OpenerPhase) :
    Move s (s.setPhase k phase) k o { o with phase } := by
  refine ⟨hk, by simp [setPhase, hk], ?_, fun _ => .inl rfl, fun _ => .inl rfl⟩
  intro j hj
  simp [setPhase, hj.symm]

/-- A region that changes the entry of the connection that the call holds, or makes one. -/
theorem setEntry_move (hk : s.openers[k]? = some o) {c : TcpConnId}
    (hc : o.holds = some c ∨ s.dataConns.lookup c = none) (x : DataConnEntry) (phase : OpenerPhase) :
    Move s ((s.setEntry c x).setPhase k phase) k o { o with phase } := by
  refine ⟨hk, by simp [setPhase, setEntry, hk], ?_, ?_, fun _ => .inl rfl⟩
  · intro j hj
    simp [setPhase, setEntry, hj.symm]
  · intro c'
    by_cases heq : c' = c
    · rw [heq]
      exact .inr hc
    · exact .inl (AList.lookup_insert_ne heq)

/-- Another call is where it was. -/
theorem Move.other_fits (hmove : Move s s' k o o') (h : Inv s) {j : Nat} {x : Opener} (hj : j ≠ k)
    (hx : s.openers[j]? = some x) : s'.Fits j x := by
  refine (h.fits j x hx).congr ?_ ?_
  · intro c hc
    rcases hmove.conns c with hsame | hheld | hnone
    · exact hsame
    · exact absurd (h.holds j k x o c hx hmove.before hc hheld) hj
    · have hthere := (h.fits j x hx).held hc
      rw [hnone] at hthere
      cases hthere
  · intro c hc
    rcases hmove.pending c with hsame | hheld
    · exact hsame
    · exact absurd (h.channels j k x o c hx hmove.before hc hheld) hj

/-- **One call moves**: it has to fit at its new place, and to hold nothing that another call holds. -/
theorem Inv.move (h : Inv s) (hmove : Move s s' k o o') (hfits : s'.Fits k o')
    (hholds : ∀ c, o'.holds = some c → o.holds = some c ∨
      ∀ (j : Nat) (x : Opener), s.openers[j]? = some x → x.holds ≠ some c)
    (hchannel : ∀ c, o'.channel = some c → o.channel = some c ∨
      ∀ (j : Nat) (x : Opener), s.openers[j]? = some x → x.channel ≠ some c) : Inv s' := by
  have hcases : ∀ (i : Nat) (x : Opener), s'.openers[i]? = some x →
      (i = k ∧ x = o') ∨ (i ≠ k ∧ s.openers[i]? = some x) := by
    intro i x hx
    by_cases heq : i = k
    · subst heq
      rw [hmove.after] at hx
      exact .inl ⟨rfl, (Option.some.inj hx).symm⟩
    · exact .inr ⟨heq, (hmove.others i heq).symm.trans hx⟩
  refine ⟨?_, ?_, ?_⟩
  · intro i x hx
    rcases hcases i x hx with ⟨rfl, rfl⟩ | ⟨hne, hold⟩
    · exact hfits
    · exact hmove.other_fits h hne hold
  · intro i j x y c hx hy hxc hyc
    rcases hcases i x hx with ⟨rfl, rfl⟩ | ⟨hi, hx'⟩
    · rcases hcases j y hy with ⟨rfl, rfl⟩ | ⟨hj, hy'⟩
      · rfl
      · rcases hholds c hxc with hold | hfree
        · exact h.holds i j o y c hmove.before hy' hold hyc
        · exact absurd hyc (hfree j y hy')
    · rcases hcases j y hy with ⟨rfl, rfl⟩ | ⟨hj, hy'⟩
      · rcases hholds c hyc with hold | hfree
        · exact h.holds i j x o c hx' hmove.before hxc hold
        · exact absurd hxc (hfree i x hx')
      · exact h.holds i j x y c hx' hy' hxc hyc
  · intro i j x y c hx hy hxc hyc
    rcases hcases i x hx with ⟨rfl, rfl⟩ | ⟨hi, hx'⟩
    · rcases hcases j y hy with ⟨rfl, rfl⟩ | ⟨hj, hy'⟩
      · rfl
      · rcases hchannel c hxc with hold | hfree
        · exact h.channels i j o y c hmove.before hy' hold hyc
        · exact absurd hyc (hfree j y hy')
    · rcases hcases j y hy with ⟨rfl, rfl⟩ | ⟨hj, hy'⟩
      · rcases hchannel c hyc with hold | hfree
        · exact h.channels i j x o c hx' hmove.before hxc hold
        · exact absurd hxc (hfree i x hx')
      · exact h.channels i j x y c hx' hy' hxc hyc

/-! ### The steps -/

/-- The connection attempts succeed, the requests reach the peer, and it accepts them. -/
def Willing (s : Openings) : OpenerEvent → Prop
  | .create _ result => ∃ connId, result = .ok connId ∧ s.dataConns.lookup connId = none
  | .send _ failure => failure = none
  | .answer _ result => result = .success
  | _ => True

/-- A call chooses a connection that no other call has chosen and not claimed yet, and draws a channel
id that no other call is waiting with. -/
def Exclusive (s : Openings) : OpenerEvent → Prop
  | .scan k =>
    match (s.openers[k]?).bind s.choice with
    | some connId => ∀ o ∈ s.openers, o.phase ≠ .claiming connId
    | none => True
  | .claim _ channelId _ => ∀ o ∈ s.openers, o.channel ≠ some channelId
  | _ => True

theorem Inv.search (h : Inv s) (hk : s.openers[k]? = some o) (order : List TcpConnId) :
    Inv (s.search k o order) := by
  unfold Openings.search
  split
  case h_2 => exact h
  case h_1 hphase =>
    have hfits := h.fits k o hk
    simp only [Fits, hphase] at hfits
    rw [if_neg (by omega)]
    split
    · refine h.move (setPhase_move hk (.scanning order)) hfits.2 ?_ ?_
      · simp [Opener.holds]
      · simp [Opener.channel]
    · exact h

theorem Claimed.not_claimable {req : ClaimConnReq} (h : s.Claimed req) :
    (s.dataConns.lookup req.connId).bind DataConnEntry.claimableSeq = none := by
  obtain ⟨x, hx, hstate⟩ := h
  simp [hx, DataConnEntry.claimableSeq, hstate]

theorem BoundTo.not_claimable {c : TcpConnId} {lease : LeaseContext} (h : s.BoundTo c lease) :
    (s.dataConns.lookup c).bind DataConnEntry.claimableSeq = none := by
  obtain ⟨-, x, hx, hstate⟩ := h
  simp [hx, DataConnEntry.claimableSeq, hstate]

/-- Who holds a connection that can be claimed has chosen it and not claimed it yet. -/
theorem Fits.chosen (h : s.Fits k o) {c : TcpConnId} (hc : o.holds = some c)
    (hclaim : ((s.dataConns.lookup c).bind DataConnEntry.claimableSeq).isSome = true) :
    o.phase = .claiming c := by
  have hnot : (s.dataConns.lookup c).bind DataConnEntry.claimableSeq ≠ none := by
    intro hnone
    rw [hnone] at hclaim
    cases hclaim
  unfold Fits at h
  unfold Opener.holds at hc
  cases hphase : o.phase with
  | searching | scanning left | creating =>
    simp only [hphase] at hc
    cases hc
  | claiming connId =>
    simp only [hphase, Option.some.injEq] at hc
    rw [hc]
  | registering req =>
    simp only [hphase, Option.some.injEq] at h hc
    exact absurd (hc ▸ h.2.not_claimable) hnot
  | sending req =>
    simp only [hphase, Option.some.injEq] at h hc
    exact absurd (hc ▸ h.2.1.not_claimable) hnot
  | unsent req err => simp only [hphase] at h
  | awaiting req answering =>
    simp only [hphase, Option.some.injEq] at h hc
    rcases h with ⟨-, -, hans⟩ | ⟨-, lease, -, hbound⟩
    · cases answering with
      | sent => exact absurd (hc ▸ Claimed.not_claimable hans) hnot
      | waited ack | found ack | confirming c => exact absurd (hc ▸ hans.2.not_claimable) hnot
      | telling result =>
        obtain ⟨lease, -, hbound⟩ := hans
        exact absurd (hc ▸ hbound.not_claimable) hnot
      | failing ack | handled => exact hans.elim
    · exact absurd (hc ▸ hbound.not_claimable) hnot
  | done result =>
    simp only [hphase] at h
    obtain ⟨lease, rfl, hbound⟩ := h
    simp only [hphase, Option.some.injEq] at hc
    exact absurd (hc ▸ hbound.not_claimable) hnot

theorem choice_spec {c : TcpConnId} (h : s.choice o = some c) :
    ((s.dataConns.lookup c).bind DataConnEntry.claimableSeq).isSome = true := by
  unfold choice at h
  split at h
  case h_2 => cases h
  case h_1 connId rest hphase =>
    split_ifs at h with hskip hclaim
    cases h
    exact hclaim

theorem Inv.scan (h : Inv s) (hk : s.openers[k]? = some o) (hok : s.Exclusive (.scan k)) :
    Inv (s.scan k o) := by
  have hfits := h.fits k o hk
  unfold Openings.scan
  split
  case h_3 => exact h
  case h_1 hphase =>
    simp only [Fits, hphase] at hfits
    refine h.move (setPhase_move hk .creating) hfits ?_ ?_
    · simp [Opener.holds]
    · simp [Opener.channel]
  case h_2 first rest hphase =>
    simp only [Fits, hphase] at hfits
    split
    case h_2 =>
      refine h.move (setPhase_move hk (.scanning rest)) hfits ?_ ?_
      · simp [Opener.holds]
      · simp [Opener.channel]
    case h_1 c hchoice =>
      have hclaim := choice_spec hchoice
      simp only [Exclusive, hk, Option.bind_some, hchoice] at hok
      obtain ⟨leaseSeq, hseq⟩ := Option.isSome_iff_exists.mp hclaim
      obtain ⟨x, hx, hxseq⟩ := Option.bind_eq_some_iff.mp hseq
      refine h.move (setPhase_move hk (.claiming c)) ⟨hfits, x, hx, by rw [hxseq]; rfl⟩ ?_ ?_
      · intro c' hc'
        obtain rfl : c = c' := by simpa [Opener.holds] using hc'
        -- nobody else holds a connection that can be claimed without having chosen it
        refine .inr fun j y hy hyc => ?_
        exact hok y (List.mem_of_getElem? hy) ((h.fits j y hy).chosen hyc hclaim)
      · simp [Opener.channel]

theorem Inv.create (h : Inv s) (hk : s.openers[k]? = some o) {c : TcpConnId}
    (hnew : s.dataConns.lookup c = none) : Inv (s.create k o (.ok c)) := by
  have hfits := h.fits k o hk
  unfold Openings.create
  split
  case h_1 connId hphase hres =>
    cases hres
    simp only [Fits, hphase] at hfits
    rw [hnew]
    refine h.move (setEntry_move hk (.inr hnew) .new (.claiming c))
      ⟨hfits, .new, AList.lookup_insert _, rfl⟩ ?_ ?_
    · intro c' hc'
      obtain rfl : c = c' := by simpa [Opener.holds] using hc'
      refine .inr fun j y hy hyc => ?_
      have hthere := (h.fits j y hy).held hyc
      rw [hnew] at hthere
      cases hthere
    · simp [Opener.channel]
  case h_2 hres => cases hres
  case h_3 => exact h

/-- The region that claims the entry finds it as it was chosen. -/
theorem Inv.claim (h : Inv s) (hk : s.openers[k]? = some o) {channelId : TcpChannelId}
    {claimNonce : U64} (hok : s.Exclusive (.claim k channelId claimNonce)) :
    Inv (s.claim k o channelId claimNonce) := by
  have hfits := h.fits k o hk
  unfold Openings.claim
  split
  case h_2 => exact h
  case h_1 c hphase =>
    simp only [Fits, hphase] at hfits
    obtain ⟨hmail, x, hx, hclaim⟩ := hfits
    obtain ⟨leaseSeq, hseq⟩ := Option.isSome_iff_exists.mp hclaim
    simp only [hx, hseq]
    have hheld : o.holds = some c := by simp [Opener.holds, hphase]
    refine h.move (setEntry_move hk (.inl hheld) _ _) ⟨hmail, _, AList.lookup_insert _, rfl⟩ ?_ ?_
    · intro c' hc'
      obtain rfl : c = c' := by simpa [Opener.holds, ClaimingState.request] using hc'
      exact .inl hheld
    · intro ch hch
      obtain rfl : channelId = ch := by simpa [Opener.channel, ClaimingState.request] using hch
      exact .inr fun j y hy => hok y (List.mem_of_getElem? hy)

theorem register_move (hk : s.openers[k]? = some o) {req : ClaimConnReq}
    (hphase : o.phase = .registering req) :
    Move s { s.setPhase k (.sending req) with
        pendingClaims := s.pendingClaims.insert req.channelId k } k o
      { o with phase := .sending req } := by
  have hset := setPhase_move hk (.sending req)
  refine ⟨hk, hset.after, hset.others, hset.conns, ?_⟩
  intro c
  by_cases heq : c = req.channelId
  · rw [heq]
    exact .inr (by simp [Opener.channel, hphase])
  · exact .inl (AList.lookup_insert_ne heq)

theorem Inv.register (h : Inv s) (hk : s.openers[k]? = some o) : Inv (s.register k o) := by
  have hfits := h.fits k o hk
  unfold Openings.register
  split
  case h_2 => exact h
  case h_1 req hphase =>
    simp only [Fits, hphase] at hfits
    refine h.move (register_move hk hphase) ⟨hfits.1, hfits.2, AList.lookup_insert _⟩ ?_ ?_
    · exact fun c hc => .inl (by simpa [Opener.holds, hphase] using hc)
    · exact fun c hc => .inl (by simpa [Opener.channel, hphase] using hc)

theorem Inv.send (h : Inv s) (hk : s.openers[k]? = some o) : Inv (s.send k o none) := by
  have hfits := h.fits k o hk
  unfold Openings.send
  split
  case h_2 => exact h
  case h_1 req hphase =>
    simp only [Fits, hphase] at hfits
    obtain ⟨hmail, hclaimed, hwait⟩ := hfits
    refine h.move (setPhase_move hk (.awaiting req .sent)) (.inl ⟨hmail, hwait, hclaimed⟩) ?_ ?_
    · exact fun c hc => .inl (by simpa [Opener.holds, hphase] using hc)
    · exact fun c hc => .inl (by simpa [Opener.channel, hphase, hmail] using hc)

theorem Inv.reset (h : Inv s) (hk : s.openers[k]? = some o) : Inv (s.reset k o) := by
  have hfits := h.fits k o hk
  unfold Openings.reset
  split
  case h_2 => exact h
  case h_1 req err hphase => simp only [Fits, hphase] at hfits

/-- The answer to a request goes on, and the call still waits. -/
theorem Inv.goesOn (h : Inv s) {req : ClaimConnReq} {a b : Answering}
    (hphase : o.phase = .awaiting req a) (hmove : Move s s' k o { o with phase := .awaiting req b })
    (hmail : o.mailbox = none) (hwait : s'.pendingClaims.lookup req.channelId = some k)
    (hans : s'.Answers req b) : Inv s' := by
  refine h.move hmove (.inl ⟨hmail, hwait, hans⟩) ?_ ?_
  · exact fun c hc => .inl (by simpa [Opener.holds, hphase] using hc)
  · exact fun c hc => .inl (by simpa [Opener.channel, hphase, hmail] using hc)

theorem Inv.answer (h : Inv s) (hk : s.openers[k]? = some o) : Inv (s.answer k o .success) := by
  have hfits := h.fits k o hk
  unfold Openings.answer
  split
  case h_2 => exact h
  case h_1 req hphase =>
    simp only [Fits, hphase] at hfits
    rcases hfits with ⟨hmail, hwait, hclaimed⟩ | ⟨hhandled, -⟩
    · rw [if_pos (by rw [hwait]; rfl)]
      exact h.goesOn hphase (setPhase_move hk _) hmail hwait ⟨rfl, hclaimed⟩
    · cases hhandled

/-- The claim of the call is the one that its answer is for. -/
theorem Claimed.claimOf {req : ClaimConnReq} (h : s.Claimed req) (result : ClaimConnAckResult) :
    (s.dataConns.lookup req.connId).bind
      (·.claimOf ⟨req.channelId, req.connId, req.leaseSeq, result⟩) = some req.claiming := by
  obtain ⟨x, hx, hstate⟩ := h
  simp [hx, DataConnEntry.claimOf, hstate, ClaimConnReq.claiming]

/-- The result is sent to the call that waits under the channel of the request. -/
theorem Inv.tell (h : Inv s) (hk : s.openers[k]? = some o) {req : ClaimConnReq}
    {lease : LeaseContext} (hphase : o.phase = .awaiting req (.telling (.ok lease)))
    (hmail : o.mailbox = none) (hwait : s.pendingClaims.lookup req.channelId = some k)
    (hbound : s.BoundTo req.connId lease) :
    Inv ((s.setPhase k (.awaiting req .handled)).tell req.channelId (.ok lease)) := by
  have htell : (s.setPhase k (.awaiting req .handled)).tell req.channelId (.ok lease) =
      { s with
        pendingClaims := s.pendingClaims.erase req.channelId
        openers := (s.openers.modify k fun o => { o with phase := .awaiting req .handled }).modify k
          fun o => { o with mailbox := some (.ok lease) } } := by
    simp only [Openings.tell, setPhase, hwait]
  rw [htell]
  have hmove : Move s
      { s with
        pendingClaims := s.pendingClaims.erase req.channelId
        openers := (s.openers.modify k fun o => { o with phase := .awaiting req .handled }).modify k
          fun o => { o with mailbox := some (.ok lease) } } k o
      { o with phase := .awaiting req .handled, mailbox := some (.ok lease) } := by
    refine ⟨hk, by simp [hk], ?_, fun _ => .inl rfl, ?_⟩
    · intro j hj
      simp [hj.symm]
    · intro c
      by_cases heq : c = req.channelId
      · rw [heq]
        exact .inr (by simp [Opener.channel, hphase, hmail])
      · exact .inl (AList.lookup_erase_ne heq)
  refine h.move hmove (.inr ⟨rfl, lease, rfl, hbound⟩) ?_ ?_
  · exact fun c hc => .inl (by simpa [Opener.holds, hphase] using hc)
  · simp [Opener.channel]

theorem Inv.handle (h : Inv s) (hk : s.openers[k]? = some o) : Inv (s.handle k o) := by
  have hfits := h.fits k o hk
  unfold Openings.handle
  split
  case h_1 req ack hphase =>
    simp only [Fits, hphase] at hfits
    rcases hfits with ⟨hmail, hwait, rfl, hclaimed⟩ | ⟨hhandled, -⟩
    · have hthere : (s.dataConns.lookup req.connId).isSome = true := by
        obtain ⟨x, hx, -⟩ := hclaimed
        rw [hx]
        rfl
      rw [if_pos hthere]
      exact h.goesOn hphase (setPhase_move hk _) hmail hwait ⟨rfl, hclaimed⟩
    · cases hhandled
  case h_2 req ack hphase =>
    simp only [Fits, hphase] at hfits
    rcases hfits with ⟨hmail, hwait, rfl, hclaimed⟩ | ⟨hhandled, -⟩
    · simp only [hclaimed.claimOf, if_true]
      exact h.goesOn hphase (setPhase_move hk _) hmail hwait ⟨rfl, hclaimed⟩
    · cases hhandled
  case h_3 req ack hphase =>
    simp only [Fits, hphase] at hfits
    rcases hfits with ⟨-, -, hno⟩ | ⟨hhandled, -⟩
    · exact hno.elim
    · cases hhandled
  case h_4 req c hphase =>
    simp only [Fits, hphase] at hfits
    rcases hfits with ⟨hmail, hwait, rfl, x, hx, hstate⟩ | ⟨hhandled, -⟩
    · simp only [hx]
      have hheld : o.holds = some req.connId := by simp [Opener.holds, hphase]
      exact h.goesOn hphase (setEntry_move hk (.inl hheld) _ _) hmail hwait
        ⟨_, rfl, rfl, _, AList.lookup_insert _, rfl⟩
    · cases hhandled
  case h_5 req result hphase =>
    simp only [Fits, hphase] at hfits
    rcases hfits with ⟨hmail, hwait, lease, rfl, hbound⟩ | ⟨hhandled, -⟩
    · exact h.tell hk hphase hmail hwait hbound
    · cases hhandled
  case h_6 => exact h

theorem Inv.resume (h : Inv s) (hk : s.openers[k]? = some o) : Inv (s.resume k o) := by
  have hfits := h.fits k o hk
  unfold Openings.resume
  split
  case h_1 req answering lease hphase hmail =>
    simp only [Fits, hphase, hmail] at hfits
    rcases hfits with ⟨hnone, -⟩ | ⟨-, lease', hlease, hbound⟩
    · cases hnone
    · cases hlease
      have hid : lease.connId = req.connId := hbound.1
      refine h.move (setPhase_move hk _) ⟨lease, rfl, hid ▸ hbound⟩ ?_ ?_
      · intro c hc
        have hc' : lease.connId = c := by simpa [Opener.holds] using hc
        exact .inl (by simp [Opener.holds, hphase, ← hc', hid])
      · simp [Opener.channel]
  case h_2 req answering err hphase hmail =>
    simp only [Fits, hphase, hmail] at hfits
    rcases hfits with ⟨hnone, -⟩ | ⟨-, lease', hlease, -⟩
    · cases hnone
    · cases hlease
  case h_3 => exact h

theorem waiterDropped_eq (h : Inv s) (hk : s.openers[k]? = some o) : s.waiterDropped k o = s := by
  have hfits := h.fits k o hk
  unfold Openings.waiterDropped
  split
  case h_1 req answering hphase hmail =>
    simp only [Fits, hphase, hmail] at hfits
    rcases hfits with ⟨-, hwait, -⟩ | ⟨-, lease', hlease, -⟩
    · rw [if_pos hwait]
    · cases hlease
  case h_2 => rfl

theorem Inv.waiterDropped (h : Inv s) (hk : s.openers[k]? = some o) : Inv (s.waiterDropped k o) := by
  rw [waiterDropped_eq h hk]
  exact h

theorem Inv.onCall (h : Inv s) {f : Opener → Openings}
    (hf : ∀ o, s.openers[k]? = some o → Inv (f o)) : Inv (s.onCall k f) := by
  unfold Openings.onCall
  split
  case h_1 o hk => exact hf o hk
  case h_2 => exact h

theorem Inv.step (h : Inv s) (e : OpenerEvent) (hwilling : s.Willing e) (hok : s.Exclusive e) :
    Inv (s.step e) := by
  cases e with
  | search k order => exact h.onCall fun o hk => h.search hk order
  | scan k => exact h.onCall fun o hk => h.scan hk hok
  | create k result =>
    obtain ⟨c, rfl, hnew⟩ := hwilling
    exact h.onCall fun o hk => h.create hk hnew
  | claim k channelId claimNonce => exact h.onCall fun o hk => h.claim hk hok
  | register k => exact h.onCall fun o hk => h.register hk
  | send k failure =>
    cases hwilling
    exact h.onCall fun o hk => h.send hk
  | reset k => exact h.onCall fun o hk => h.reset hk
  | answer k result =>
    cases hwilling
    exact h.onCall fun o hk => h.answer hk
  | handle k => exact h.onCall fun o hk => h.handle hk
  | resume k => exact h.onCall fun o hk => h.resume hk
  | waiterDropped k => exact h.onCall fun o hk => h.waiterDropped hk

end Openings

/-! ### Every call returns -/

/-- How many regions an answer still takes. -/
def Answering.work : Answering → Nat
  | .sent => 6
  | .waited _ => 5
  | .found _ => 4
  | .failing _ | .confirming _ => 3
  | .telling _ => 2
  | .handled => 1

namespace Opener

/-- The call may still make a connection. -/
def early (o : Opener) : Bool :=
  match o.phase with
  | .searching | .scanning _ | .creating => true
  | _ => false

/-- How many steps the call still takes, if there are never more than `room` connections. -/
def work (room : Nat) (o : Opener) : Nat :=
  match o.phase with
  | .searching => room + 12
  | .scanning left => left.length + 11
  | .creating => 10
  | .claiming _ => 9
  | .registering _ => 8
  | .sending _ => 7
  | .unsent _ _ => 1
  | .awaiting _ answering => answering.work
  | .done _ => 0

theorem work_mono {m n : Nat} (h : m ≤ n) (o : Opener) : o.work m ≤ o.work n := by
  unfold work
  split <;> omega

end Opener

namespace Openings

variable {s s' : Openings} {k : Nat} {o : Opener}

/-- A bound on the number of connections that there will be. -/
def room (s : Openings) : Nat := s.dataConns.entries.length + s.openers.countP Opener.early

def work (s : Openings) : Nat := (s.openers.map (Opener.work s.room)).sum

/-- A step that changes one call, to one with less work, and leaves no more room. -/
theorem work_lt {change : Opener → Opener} (hk : s.openers[k]? = some o)
    (hopeners : s'.openers = s.openers.modify k change)
    (hconns : s'.dataConns.entries.length + (if (change o).early then 1 else 0) ≤
      s.dataConns.entries.length + if o.early then 1 else 0)
    (hlt : (change o).work s.room < o.work s.room) : s'.work < s.work := by
  have hcount := countP_modify Opener.early change hk
  have hroom : s'.room ≤ s.room := by
    unfold room
    rw [hopeners]
    omega
  rw [work, work, hopeners]
  refine sum_lt_of_modify (fun x => Opener.work_mono hroom x) ?_ hk
  exact lt_of_le_of_lt (Opener.work_mono hroom _) hlt

/-- A step that only takes the call to another place. -/
theorem setPhase_work (hk : s.openers[k]? = some o) {phase : OpenerPhase}
    (hearly : Opener.early { o with phase } = true → o.early = true)
    (hlt : Opener.work s.room { o with phase } < o.work s.room) :
    (s.setPhase k phase).work < s.work := by
  refine work_lt hk rfl ?_ hlt
  simp only [setPhase]
  split_ifs with hnew hold
  · exact Nat.le_refl _
  · exact absurd (hearly hnew) hold
  · omega
  · exact Nat.le_refl _

/-- A step that also writes to a connection that is there. -/
theorem setEntry_work (hk : s.openers[k]? = some o) {c : TcpConnId} {x : DataConnEntry}
    {phase : OpenerPhase} (hc : (s.dataConns.lookup c).isSome = true)
    (hearly : Opener.early { o with phase } = true → o.early = true)
    (hlt : Opener.work s.room { o with phase } < o.work s.room) :
    ((s.setEntry c x).setPhase k phase).work < s.work := by
  have hlen := Table.length_insert_of_isSome x hc
  refine work_lt hk rfl ?_ hlt
  simp only [setPhase, setEntry, hlen]
  split_ifs with hnew hold
  · exact Nat.le_refl _
  · exact absurd (hearly hnew) hold
  · omega
  · exact Nat.le_refl _

/-- The copy of the entries is no longer than the room there is. -/
theorem search_work (h : Inv s) (hk : s.openers[k]? = some o) (order : List TcpConnId) :
    s.search k o order = s ∨ (s.search k o order).work < s.work := by
  unfold Openings.search
  split
  case h_2 => exact .inl rfl
  case h_1 hphase =>
    have hfits := h.fits k o hk
    simp only [Fits, hphase] at hfits
    rw [if_neg (by omega)]
    split
    case isTrue hperm =>
      have hlen : order.length = s.dataConns.entries.length := by
        rw [(List.isPerm_iff.mp hperm).length_eq, Table.length_keys]
      refine .inr (setPhase_work hk (fun _ => by simp [Opener.early, hphase]) ?_)
      simp only [Opener.work, hphase, room]
      omega
    case isFalse => exact .inl rfl

theorem scan_work (hk : s.openers[k]? = some o) : s.scan k o = s ∨ (s.scan k o).work < s.work := by
  unfold Openings.scan
  split
  case h_1 hphase =>
    refine .inr (setPhase_work hk (fun _ => by simp [Opener.early, hphase]) ?_)
    simp only [Opener.work, hphase, List.length_nil]
    omega
  case h_2 first rest hphase =>
    right
    split
    case h_1 c hchoice =>
      refine setPhase_work hk (fun _ => by simp [Opener.early, hphase]) ?_
      simp only [Opener.work, hphase]
      omega
    case h_2 =>
      refine setPhase_work hk (fun _ => by simp [Opener.early, hphase]) ?_
      simp only [Opener.work, hphase, List.length_cons]
      omega
  case h_3 => exact .inl rfl

/-- A new connection takes the room of the call that makes it. -/
theorem create_work (hk : s.openers[k]? = some o) {c : TcpConnId}
    (hnew : s.dataConns.lookup c = none) :
    s.create k o (.ok c) = s ∨ (s.create k o (.ok c)).work < s.work := by
  unfold Openings.create
  split
  case h_1 connId hphase hres =>
    cases hres
    rw [hnew]
    refine .inr (work_lt hk rfl ?_ ?_)
    · have hlen := Table.length_insert_of_none DataConnEntry.new hnew
      simp only [setPhase, setEntry, hlen, Opener.early, hphase]
      simp
    · simp only [Opener.work, hphase]
      omega
  case h_2 hres => cases hres
  case h_3 => exact .inl rfl

theorem claim_work (h : Inv s) (hk : s.openers[k]? = some o) (channelId : TcpChannelId)
    (claimNonce : U64) :
    s.claim k o channelId claimNonce = s ∨ (s.claim k o channelId claimNonce).work < s.work := by
  have hfits := h.fits k o hk
  unfold Openings.claim
  split
  case h_2 => exact .inl rfl
  case h_1 c hphase =>
    simp only [Fits, hphase] at hfits
    obtain ⟨-, x, hx, hclaim⟩ := hfits
    obtain ⟨leaseSeq, hseq⟩ := Option.isSome_iff_exists.mp hclaim
    simp only [hx, hseq]
    refine .inr (setEntry_work hk (by rw [hx]; rfl) (by simp [Opener.early]) ?_)
    simp only [Opener.work, hphase]
    omega

theorem register_work (hk : s.openers[k]? = some o) :
    s.register k o = s ∨ (s.register k o).work < s.work := by
  unfold Openings.register
  split
  case h_2 => exact .inl rfl
  case h_1 req hphase =>
    have hset : (s.setPhase k (.sending req)).work < s.work := by
      refine setPhase_work hk (by simp [Opener.early]) ?_
      simp only [Opener.work, hphase]
      omega
    exact .inr hset

theorem send_work (hk : s.openers[k]? = some o) :
    s.send k o none = s ∨ (s.send k o none).work < s.work := by
  unfold Openings.send
  split
  case h_2 => exact .inl rfl
  case h_1 req hphase =>
    refine .inr (setPhase_work hk (by simp [Opener.early]) ?_)
    simp only [Opener.work, hphase, Answering.work]
    omega

/-- The answer to a request goes on. -/
theorem goesOn_work (hk : s.openers[k]? = some o) {req : ClaimConnReq} {a b : Answering}
    (hphase : o.phase = .awaiting req a) (hlt : b.work < a.work) :
    (s.setPhase k (.awaiting req b)).work < s.work := by
  refine setPhase_work hk (by simp [Opener.early]) ?_
  simpa only [Opener.work, hphase] using hlt

theorem answer_work (hk : s.openers[k]? = some o) (result : ClaimConnAckResult) :
    s.answer k o result = s ∨ (s.answer k o result).work < s.work := by
  unfold Openings.answer
  split
  case h_2 => exact .inl rfl
  case h_1 req hphase =>
    right
    split
    · exact goesOn_work hk hphase (by simp [Answering.work])
    · exact goesOn_work hk hphase (by simp [Answering.work])

theorem tell_work (s : Openings) (channelId : TcpChannelId) (result : P2pResult LeaseContext) :
    (s.tell channelId result).work = s.work := by
  unfold tell
  split
  case h_2 => rfl
  case h_1 k hk =>
    have hearly := map_modify_of_eq Opener.early (fun o => { o with mailbox := some result })
      (fun _ => rfl) s.openers k
    have hwork := map_modify_of_eq (Opener.work s.room) (fun o => { o with mailbox := some result })
      (fun _ => rfl) s.openers k
    have hcount := congrArg (List.countP id) hearly
    rw [List.countP_map, List.countP_map] at hcount
    have hroom : (s.openers.modify k fun o => { o with mailbox := some result }).countP Opener.early =
        s.openers.countP Opener.early := hcount
    simp only [work, room, hroom]
    exact congrArg List.sum hwork

theorem handle_work (h : Inv s) (hk : s.openers[k]? = some o) :
    s.handle k o = s ∨ (s.handle k o).work < s.work := by
  have hfits := h.fits k o hk
  unfold Openings.handle
  split
  case h_1 req ack hphase =>
    right
    split
    · exact goesOn_work hk hphase (by simp [Answering.work])
    · exact goesOn_work hk hphase (by simp [Answering.work])
  case h_2 req ack hphase =>
    right
    split
    · exact goesOn_work hk hphase (by split <;> simp [Answering.work])
    · exact goesOn_work hk hphase (by simp [Answering.work])
  case h_3 req ack hphase =>
    simp only [Fits, hphase] at hfits
    rcases hfits with ⟨-, -, hno⟩ | ⟨hhandled, -⟩
    · exact hno.elim
    · cases hhandled
  case h_4 req c hphase =>
    split
    case h_1 x hx =>
      refine .inr (setEntry_work hk (by rw [hx]; rfl) (by simp [Opener.early]) ?_)
      simp [Opener.work, hphase, Answering.work]
    case h_2 => exact .inl rfl
  case h_5 req result hphase =>
    right
    rw [tell_work]
    exact goesOn_work hk hphase (by simp [Answering.work])
  case h_6 => exact .inl rfl

theorem resume_work (h : Inv s) (hk : s.openers[k]? = some o) :
    s.resume k o = s ∨ (s.resume k o).work < s.work := by
  have hfits := h.fits k o hk
  unfold Openings.resume
  split
  case h_1 req answering lease hphase hmail =>
    refine .inr (setPhase_work hk (by simp [Opener.early]) ?_)
    cases answering <;> simp [Opener.work, hphase, Answering.work]
  case h_2 req answering err hphase hmail =>
    simp only [Fits, hphase, hmail] at hfits
    rcases hfits with ⟨hnone, -⟩ | ⟨-, lease', hlease, -⟩
    · cases hnone
    · cases hlease
  case h_3 => exact .inl rfl

theorem reset_eq (h : Inv s) (hk : s.openers[k]? = some o) : s.reset k o = s := by
  have hfits := h.fits k o hk
  unfold Openings.reset
  split
  case h_1 req err hphase => simp only [Fits, hphase] at hfits
  case h_2 => rfl

theorem onCall_work {f : Opener → Openings}
    (hf : ∀ o, s.openers[k]? = some o → f o = s ∨ (f o).work < s.work) :
    s.onCall k f = s ∨ (s.onCall k f).work < s.work := by
  unfold Openings.onCall
  split
  case h_1 o hk => exact hf o hk
  case h_2 => exact .inl rfl

/-- Every step that does something leaves less to do. -/
theorem step_work (h : Inv s) (e : OpenerEvent) (hwilling : s.Willing e) :
    s.step e = s ∨ (s.step e).work < s.work := by
  cases e with
  | search k order => exact onCall_work fun o hk => search_work h hk order
  | scan k => exact onCall_work fun o hk => scan_work hk
  | create k result =>
    obtain ⟨c, rfl, hnew⟩ := hwilling
    exact onCall_work fun o hk => create_work hk hnew
  | claim k channelId claimNonce => exact onCall_work fun o hk => claim_work h hk channelId claimNonce
  | register k => exact onCall_work fun o hk => register_work hk
  | send k failure =>
    cases hwilling
    exact onCall_work fun o hk => send_work hk
  | reset k => exact onCall_work fun o hk => .inl (reset_eq h hk)
  | answer k result => exact onCall_work fun o hk => answer_work hk result
  | handle k => exact onCall_work fun o hk => handle_work h hk
  | resume k => exact onCall_work fun o hk => resume_work h hk
  | waiterDropped k => exact onCall_work fun o hk => .inl (waiterDropped_eq h hk)

/-- The call `k` can take its next step. -/
theorem Move.ne {o' : Opener} (hmove : Move s s' k o o') (hne : o'.phase ≠ o.phase) : s' ≠ s := by
  rintro rfl
  have hsame := hmove.before.symm.trans hmove.after
  cases hsame
  exact hne rfl

theorem step_ne_of_search (h : Inv s) (hk : s.openers[k]? = some o) (hphase : o.phase = .searching) :
    s.step (.search k s.dataConns.keys) ≠ s := by
  have hfits := h.fits k o hk
  simp only [Fits, hphase] at hfits
  have hstep : s.step (.search k s.dataConns.keys) = s.setPhase k (.scanning s.dataConns.keys) := by
    simp only [step, onCall, hk, Openings.search, hphase]
    rw [if_neg (by omega), if_pos (List.isPerm_iff.mpr (List.Perm.refl _))]
  rw [hstep]
  exact (setPhase_move hk _).ne (by simp [hphase])

theorem step_ne_of_claiming (h : Inv s) (hk : s.openers[k]? = some o) {c : TcpConnId}
    (hphase : o.phase = .claiming c) (channelId : TcpChannelId) (claimNonce : U64) :
    s.step (.claim k channelId claimNonce) ≠ s := by
  have hfits := h.fits k o hk
  simp only [Fits, hphase] at hfits
  obtain ⟨-, x, hx, hclaim⟩ := hfits
  obtain ⟨leaseSeq, hseq⟩ := Option.isSome_iff_exists.mp hclaim
  simp only [step, onCall, hk, Openings.claim, hphase, hx, hseq]
  exact (setEntry_move hk (.inl (by simp [Opener.holds, hphase])) _ _).ne (by simp [hphase])

/-- Somebody can go on if `k` is at an entry: if it can be claimed and another call has chosen it,
that one claims it first. -/
theorem exists_step_of_scanning (h : Inv s) (hk : s.openers[k]? = some o) {left : List TcpConnId}
    (hphase : o.phase = .scanning left) {channelId : TcpChannelId}
    (hfree : ∀ o ∈ s.openers, o.channel ≠ some channelId) :
    ∃ e, s.Willing e ∧ s.Exclusive e ∧ s.step e ≠ s := by
  cases hchoice : s.choice o with
  | none =>
    refine ⟨.scan k, trivial, by simp [Exclusive, hk, hchoice], ?_⟩
    simp only [step, onCall, hk, Openings.scan, hphase]
    cases left with
    | nil => exact (setPhase_move hk _).ne (by simp [hphase])
    | cons first rest =>
      simp only [hchoice]
      exact (setPhase_move hk _).ne (by simp [hphase])
  | some c =>
    by_cases hother : ∃ o ∈ s.openers, o.phase = .claiming c
    · obtain ⟨y, hy, hyphase⟩ := hother
      obtain ⟨j, hj⟩ := List.mem_iff_getElem?.mp hy
      exact ⟨.claim j channelId 0, trivial, hfree, step_ne_of_claiming h hj hyphase _ _⟩
    · refine ⟨.scan k, trivial, ?_, ?_⟩
      · simp only [Exclusive, hk, Option.bind_some, hchoice]
        intro y hy hyphase
        exact hother ⟨y, hy, hyphase⟩
      · simp only [step, onCall, hk, Openings.scan, hphase]
        cases left with
        | nil => simp [choice, hphase] at hchoice
        | cons first rest =>
          simp only [hchoice]
          exact (setPhase_move hk _).ne (by simp [hphase])

/-- The answer to a request that was sent goes on until the call has its result. -/
theorem exists_step_of_awaiting (h : Inv s) (hk : s.openers[k]? = some o) {req : ClaimConnReq}
    {answering : Answering} (hphase : o.phase = .awaiting req answering) :
    ∃ e, s.Willing e ∧ s.Exclusive e ∧ s.step e ≠ s := by
  have hfits := h.fits k o hk
  simp only [Fits, hphase] at hfits
  rcases hfits with ⟨hmail, hwait, hans⟩ | ⟨rfl, lease, hmail, hbound⟩
  · cases answering with
    | sent =>
      refine ⟨.answer k .success, rfl, trivial, ?_⟩
      simp only [step, onCall, hk, Openings.answer, hphase, hwait, Option.isSome_some, if_true]
      exact (setPhase_move hk _).ne (by simp [hphase])
    | waited ack =>
      obtain ⟨rfl, x, hx, -⟩ := hans
      refine ⟨.handle k, trivial, trivial, ?_⟩
      simp only [step, onCall, hk, Openings.handle, hphase, hx, Option.isSome_some, if_true]
      exact (setPhase_move hk _).ne (by simp [hphase])
    | found ack =>
      obtain ⟨rfl, hclaimed⟩ := hans
      refine ⟨.handle k, trivial, trivial, ?_⟩
      simp only [step, onCall, hk, Openings.handle, hphase, hclaimed.claimOf, if_true]
      exact (setPhase_move hk _).ne (by simp [hphase])
    | failing ack => exact hans.elim
    | confirming c =>
      obtain ⟨rfl, x, hx, -⟩ := hans
      refine ⟨.handle k, trivial, trivial, ?_⟩
      simp only [step, onCall, hk, Openings.handle, hphase, hx]
      exact (setEntry_move hk (.inl (by simp [Opener.holds, hphase])) _ _).ne (by simp [hphase])
    | telling result =>
      refine ⟨.handle k, trivial, trivial, ?_⟩
      simp only [step, onCall, hk, Openings.handle, hphase]
      intro hsame
      have hless := goesOn_work hk hphase (b := .handled) (by simp [Answering.work])
      rw [← tell_work _ req.channelId result, hsame] at hless
      exact Nat.lt_irrefl _ hless
    | handled => exact hans.elim
  · refine ⟨.resume k, trivial, trivial, ?_⟩
    simp only [step, onCall, hk, Openings.resume, hphase, hmail]
    exact (setPhase_move hk _).ne (by simp [hphase])

/-- **Progress**: while a call has not returned, some call can take a step. -/
theorem exists_step (h : Inv s) (hk : s.openers[k]? = some o) (hbusy : ∀ result, o.phase ≠ .done result)
    {connId : TcpConnId} (hnew : s.dataConns.lookup connId = none) {channelId : TcpChannelId}
    (hfree : ∀ o ∈ s.openers, o.channel ≠ some channelId) :
    ∃ e, s.Willing e ∧ s.Exclusive e ∧ s.step e ≠ s := by
  have hfits := h.fits k o hk
  cases hphase : o.phase with
  | searching => exact ⟨.search k s.dataConns.keys, trivial, trivial, step_ne_of_search h hk hphase⟩
  | scanning left => exact exists_step_of_scanning h hk hphase hfree
  | creating =>
    refine ⟨.create k (.ok connId), ⟨connId, rfl, hnew⟩, trivial, ?_⟩
    simp only [step, onCall, hk, Openings.create, hphase, hnew]
    exact (setEntry_move hk (.inr hnew) _ _).ne (by simp [hphase])
  | claiming c => exact ⟨.claim k channelId 0, trivial, hfree, step_ne_of_claiming h hk hphase _ _⟩
  | registering req =>
    refine ⟨.register k, trivial, trivial, ?_⟩
    simp only [step, onCall, hk, Openings.register, hphase]
    exact (register_move hk hphase).ne (by simp [hphase])
  | sending req =>
    refine ⟨.send k none, rfl, trivial, ?_⟩
    simp only [step, onCall, hk, Openings.send, hphase]
    exact (setPhase_move hk _).ne (by simp [hphase])
  | unsent req err => simp only [Fits, hphase] at hfits
  | awaiting req answering => exact exists_step_of_awaiting h hk hphase
  | done result => exact absurd hphase (hbusy result)

instance (s : Openings) (e : OpenerEvent) : Decidable (s.Willing e) :=
  match e with
  | .create _ (.ok connId) =>
    decidable_of_iff (s.dataConns.lookup connId = none)
      ⟨fun h => ⟨connId, rfl, h⟩, fun ⟨_, heq, h⟩ => by cases heq; exact h⟩
  | .create _ (.error _) => isFalse fun ⟨_, heq, _⟩ => by cases heq
  | .send _ failure => inferInstanceAs (Decidable (failure = none))
  | .answer _ result => inferInstanceAs (Decidable (result = .success))
  | .search .. | .scan _ | .claim .. | .register _ | .reset _ | .handle _ | .resume _
  | .waiterDropped _ => isTrue trivial

instance (s : Openings) (e : OpenerEvent) : Decidable (s.Exclusive e) :=
  match e with
  | .scan k =>
    match hchoice : (s.openers[k]?).bind s.choice with
    | some connId =>
      decidable_of_iff (∀ o ∈ s.openers, o.phase ≠ .claiming connId) (by simp [Exclusive, hchoice])
    | none => isTrue (by simp [Exclusive, hchoice])
  | .claim _ channelId _ =>
    inferInstanceAs (Decidable (∀ o ∈ s.openers, o.channel ≠ some channelId))
  | .search .. | .create .. | .register _ | .send .. | .reset _ | .answer .. | .handle _ | .resume _
  | .waiterDropped _ => isTrue trivial

/-- **Concurrent calls of `open_channel` succeed**: a call that has returned has a lease, and no two
calls have the same lease of a connection.  They do return: each step that does something leaves less
to do, and while a call has not returned some step does something. -/
theorem concurrent_opens_succeed (dataConns : Table TcpConnId DataConnEntry)
    (calls : List (TcpChannelKind × TunnelPurpose)) (events : List OpenerEvent)
    (h : Along step (fun s e => s.Willing e ∧ s.Exclusive e) (start dataConns calls) events) :
    let s := exec step (start dataConns calls) events
    (∀ (k : Nat) (o : Opener) (result : P2pResult LeaseContext), s.openers[k]? = some o →
      o.phase = .done result → ∃ lease, result = .ok lease) ∧
    (∀ (i j : Nat) (x y : Opener) (a b : LeaseContext), s.openers[i]? = some x →
      s.openers[j]? = some y → x.phase = .done (.ok a) → y.phase = .done (.ok b) →
      (a.connId, a.leaseSeq) = (b.connId, b.leaseSeq) → i = j) ∧
    (∀ e, s.Willing e → s.step e = s ∨ (s.step e).work < s.work) ∧
    (∀ (k : Nat) (o : Opener), s.openers[k]? = some o → (∀ result, o.phase ≠ .done result) →
      (∃ connId, s.dataConns.lookup connId = none) →
      (∃ channelId, ∀ o ∈ s.openers, o.channel ≠ some channelId) →
      ∃ e, s.Willing e ∧ s.Exclusive e ∧ s.step e ≠ s) := by
  intro s
  have hinv : Inv s := exec_inv (fun s e hs he => hs.step e he.1 he.2) (start_inv dataConns calls) h
  refine ⟨?_, ?_, fun e he => step_work hinv e he, ?_⟩
  · intro k o result hk hphase
    have hfits := hinv.fits k o hk
    simp only [Fits, hphase] at hfits
    obtain ⟨lease, hres, -⟩ := hfits
    exact ⟨lease, hres⟩
  · intro i j x y a b hi hj hx hy hsame
    refine hinv.holds i j x y a.connId hi hj (by simp [Opener.holds, hx]) ?_
    have hconn : a.connId = b.connId := congrArg Prod.fst hsame
    simp [Opener.holds, hy, hconn]
  · rintro k o hk hbusy ⟨connId, hnew⟩ ⟨channelId, hfree⟩
    exact exists_step hinv hk hbusy hnew hfree

/-- One connection is idle.  The first call takes it while the second one looks around, and the second
one makes a connection of its own. -/
theorem concurrent_opens_succeed_for_two :
    let dataConns : Table TcpConnId DataConnEntry := (∅ : Table _ _).insert 5 ⟨true, 3, .idle⟩
    let calls : List (TcpChannelKind × TunnelPurpose) := [(.stream, [1]), (.datagram, [2])]
    let events : List OpenerEvent :=
      [.search 0 [5], .search 1 [5], .scan 0, .claim 0 21 7, .scan 1, .register 0, .send 0 none,
        .scan 1, .create 1 (.ok 9), .answer 0 .success, .handle 0, .claim 1 22 8, .handle 0,
        .register 1, .handle 0, .handle 0, .send 1 none, .resume 0, .answer 1 .success, .handle 1,
        .handle 1, .handle 1, .handle 1, .resume 1]
    let s := exec step (start dataConns calls) events
    s.openers.map Opener.holds = [some 5, some 9] ∧
    ∀ (k : Nat) (o : Opener) (result : P2pResult LeaseContext), s.openers[k]? = some o →
      o.phase = .done result → ∃ lease, result = .ok lease :=
  ⟨by decide +kernel, (concurrent_opens_succeed _ _ _ (by decide +kernel)).1⟩

/-- The first call makes a connection; before it goes on to claim it, the second call finds it and
claims it, and the first one fails. -/
theorem created_connection_taken :
    let events : List OpenerEvent :=
      [.search 0 [], .scan 0, .create 0 (.ok 9), .search 1 [9], .scan 1, .claim 1 21 7, .claim 0 22 8]
    let start := start ∅ [(.stream, [1]), (.stream, [1])]
    Along step Willing start events ∧
    (exec step start events).openers[0]?.map Opener.phase =
      some (.done (.error ⟨.errorState, "connection not claimable"⟩)) := by
  decide +kernel

end Openings

end BuckyP2p.Tcp
