import BuckyP2p.Tcp.Correlation
import BuckyP2p.Tcp.Openers
import BuckyP2p.Tcp.Protocol

/-!
# BuckyP2p.Tcp.ReverseOpen — data connections that the other end makes on request

One end of a tunnel: the calls of `request_remote_data_connection` with `pending_open_requests`, the
connections that come (`on_incoming_data_connection`), the answers to the requests
(`handle_open_data_conn_resp`) and `close_local`, beside other calls of `open_channel` that look for
an entry and claim it.  A step is one lock region, the end of an await, or a send.

* `duties` is what a region leaves to be done after it: an entry that is to be retired, a result
  that is to be sent.  They are done in any order, which is more than the code does.
* What happens to an entry that was claimed, handed over or not made for a request is not modelled;
  it changes in any way (`proceed`).
* `handed` counts how often `request_remote_data_connection` returned the entry.  `staged` and
  `claimed` are not in the code: the entry was staged for its request, and somebody claimed it.
* `next_local_request_id` does not give an id out again.
* `debug` is how `{:?}` prints an error.
-/

namespace BuckyP2p.Tcp

open Lib

/-- A data connection and its entry. -/
structure DataArrival where
  role : TcpConnectionRole
  helloConnId : Option TcpConnId
  openRequestId : Option TcpRequestId
  phase : IncomingPhase
  entry : DataConnEntry
  handed : Nat
  staged : Bool
  claimed : Bool

namespace DataArrival

def connId (a : DataArrival) : TcpConnId := a.helloConnId.getD 0

/-- A connection whose hello was read. -/
def new (role : TcpConnectionRole) (connId : Option TcpConnId)
    (openRequestId : Option TcpRequestId) : DataArrival where
  role := role
  helloConnId := connId
  openRequestId := openRequestId
  phase := .arrived
  entry := ⟨openRequestId.isSome, 0, .firstClaimPending⟩
  handed := 0
  staged := false
  claimed := false

/-- A connection that this end made; it is registered. -/
def created (connId : TcpConnId) (firstClaimLocal : Bool) : DataArrival where
  role := .data
  helloConnId := some connId
  openRequestId := none
  phase := .registered (.ok ())
  entry := ⟨firstClaimLocal, 0, .firstClaimPending⟩
  handed := 0
  staged := false
  claimed := false

def retire (a : DataArrival) : DataArrival := { a with entry := { a.entry with state := .retired } }

/-- What `close_local` does with an entry of `data_conns`. -/
def shut (a : DataArrival) : DataArrival :=
  match a.entry.state with
  | .bound _ | .draining _ => a
  | _ => a.retire

end DataArrival

/-- Where a call of `request_remote_data_connection` stands.  It is `cancelling` when its future was
dropped before the guard has run. -/
inductive RequestPhase
  | sending
  | waiting
  | received (k : Nat)
  | ending (err : P2pError)
  | cancelling
  | done (result : P2pResult Nat)
  | gone
  deriving DecidableEq

/-- `opener` is the call of `open_channel` that it is made for; `mailbox` is what was sent to it. -/
structure RequestTask where
  opener : Nat
  phase : RequestPhase
  mailbox : Option (P2pResult Nat)
  deriving DecidableEq

/-- The receiver of the oneshot channel is there. -/
def RequestTask.listens (t : RequestTask) : Bool :=
  match t.phase with
  | .sending | .waiting => true
  | _ => false

inductive Duty
  /-- `retire_plain_entry` for a request that is over. -/
  | retire (k : Nat)
  /-- `remove_entry_if_same`, at its end. -/
  | remove (k : Nat)
  | deliver (requestId : TcpRequestId) (k : Nat)
  | tell (requestId : TcpRequestId) (err : P2pError)
  /-- `cancel_pending_open_request`. -/
  | cancel (requestId : TcpRequestId)
  /-- `fail_pending_open_request`. -/
  | fail (requestId : TcpRequestId) (err : P2pError)
  /-- `close_local`, for an entry of `data_conns`. -/
  | shut (k : Nat)
  deriving DecidableEq

/-- The connections and the calls of `open_channel` have numbers.  `copies` is what a call has copied
from `data_conns`, `openers` the entry that it has found, or was handed. -/
structure ReverseOpens where
  closed : Bool
  arrivals : Nat → Option DataArrival
  dataConns : Table TcpConnId Nat
  pendingOpenRequests : Table TcpRequestId PendingOpenRequest
  requests : TcpRequestId → Option RequestTask
  copies : Nat → List Nat
  openers : Nat → Option Nat
  duties : List Duty

inductive ReverseEvent
  | request (requestId : TcpRequestId) (opener : Nat)
  | sent (requestId : TcpRequestId) (failure : Option P2pError)
  | receive (requestId : TcpRequestId)
  | expire (requestId : TcpRequestId)
  | waiterDropped (requestId : TcpRequestId)
  | drop (requestId : TcpRequestId)
  | cleanup (requestId : TcpRequestId)
  | consume (requestId : TcpRequestId)
  | response (requestId : TcpRequestId) (result : Protocol.OpenDataConnRespResult)
      (connId : Option TcpConnId)
  | arrive (k : Nat) (role : TcpConnectionRole) (connId : Option TcpConnId)
      (openRequestId : Option TcpRequestId)
  | accept (k : Nat)
  | stage (k : Nat)
  | write (k : Nat) (failure : Option P2pError)
  | enter (k : Nat)
  | create (k : Nat) (connId : TcpConnId) (firstClaimLocal : Bool)
  | search (opener : Nat)
  | find (opener k : Nat)
  | claim (opener : Nat) (claiming : ClaimingState)
  | proceed (k : Nat) (entry : DataConnEntry)
  | close (reason : P2pErrorCode)
  | duty (i : Nat)

/-- `open_data_resp_error`. -/
def openDataRespError : Protocol.OpenDataConnRespResult → P2pError
  | .success => ⟨.invalidData, "invalid successful reverse data response"⟩
  | .connectFailed => ⟨.connectFailed, "peer failed to create reverse data connection"⟩
  | .protocolError => ⟨.invalidData, "peer rejected reverse data connection protocol"⟩
  | .internalError => ⟨.internalError, "peer failed to register reverse data connection"⟩

namespace ReverseOpens

def start : ReverseOpens :=
  ⟨false, fun _ => none, ∅, ∅, fun _ => none, fun _ => [], fun _ => none, []⟩

variable (s : ReverseOpens)

def setArrival (k : Nat) (a : DataArrival) : ReverseOpens :=
  { s with arrivals := Function.update s.arrivals k (some a) }

def setRequest (requestId : TcpRequestId) (t : RequestTask) : ReverseOpens :=
  { s with requests := Function.update s.requests requestId (some t) }

def setPending (requestId : TcpRequestId) (p : PendingOpenRequest) : ReverseOpens :=
  { s with pendingOpenRequests := s.pendingOpenRequests.insert requestId p }

/-- The request is removed; its staged entry is to be retired, and then `after` is done. -/
def endPending (requestId : TcpRequestId) (after : PendingOpenRequest → List Duty) : ReverseOpens :=
  match s.pendingOpenRequests.lookup requestId with
  | some p =>
    { s with
      pendingOpenRequests := s.pendingOpenRequests.erase requestId
      duties := s.duties ++ (p.stagedEntry.map Duty.retire).toList ++ after p }
  | none => s

/-- `fail_pending_open_request`. -/
def fail (requestId : TcpRequestId) (err : P2pError) : ReverseOpens :=
  s.endPending requestId fun p => if p.sender then [.tell requestId err] else []

/-- `cancel_pending_open_request`. -/
def cancel (requestId : TcpRequestId) : ReverseOpens := s.endPending requestId fun _ => []

/-! ### `request_remote_data_connection` -/

def request (requestId : TcpRequestId) (opener : Nat) : ReverseOpens :=
  match s.requests requestId with
  | some _ => s
  | none => (s.setRequest requestId ⟨opener, .sending, none⟩).setPending requestId ⟨true, none, .new⟩

/-- What the call does next, where it has to wait for nothing. -/
def sent (requestId : TcpRequestId) (t : RequestTask) (failure : Option P2pError) : ReverseOpens :=
  match t.phase, failure with
  | .sending, none => s.setRequest requestId { t with phase := .waiting }
  | .sending, some err => s.setRequest requestId { t with phase := .ending err }
  | _, _ => s

def receive (requestId : TcpRequestId) (t : RequestTask) : ReverseOpens :=
  match t.phase, t.mailbox with
  | .waiting, some (.ok k) => s.setRequest requestId { t with phase := .received k }
  | .waiting, some (.error err) => s.setRequest requestId { t with phase := .done (.error err) }
  | _, _ => s

def expire (requestId : TcpRequestId) (t : RequestTask) : ReverseOpens :=
  match t.phase, t.mailbox with
  | .waiting, none =>
    s.setRequest requestId
      { t with phase := .ending ⟨.timeout, "wait reverse data connection timeout"⟩ }
  | _, _ => s

/-- The sender is in the request, or was taken out to be used. -/
def sends (requestId : TcpRequestId) : Bool :=
  (s.pendingOpenRequests.lookup requestId).any PendingOpenRequest.sender ||
    s.duties.any fun
      | .deliver id _ | .tell id _ => id = requestId
      | _ => false

def waiterDropped (requestId : TcpRequestId) (t : RequestTask) : ReverseOpens :=
  match t.phase, t.mailbox with
  | .waiting, none =>
    if s.sends requestId then s
    else s.setRequest requestId
      { t with phase := .ending ⟨.interrupted, "reverse data connection waiter dropped"⟩ }
  | _, _ => s

/-- The future is dropped at one of its awaits. -/
def drop (requestId : TcpRequestId) (t : RequestTask) : ReverseOpens :=
  if t.listens then s.setRequest requestId { t with phase := .cancelling } else s

/-- The call, or its guard, removes the request and retires its entry. -/
def cleanup (requestId : TcpRequestId) (t : RequestTask) : ReverseOpens :=
  match t.phase with
  | .ending err => (s.cancel requestId).setRequest requestId { t with phase := .done (.error err) }
  | .cancelling => (s.cancel requestId).setRequest requestId { t with phase := .gone }
  | _ => s

/-- `consume_completed_pending_open_request` takes the request. -/
def canConsume (requestId : TcpRequestId) (k : Nat) (a : DataArrival) : Bool :=
  match s.pendingOpenRequests.lookup requestId with
  | some p =>
    !p.sender && (p.correlation.completedConnId = some a.connId && p.stagedEntry = some k)
  | none => false

/-- The entry is handed over, or retired. -/
def consume (requestId : TcpRequestId) (t : RequestTask) : ReverseOpens :=
  match t.phase with
  | .received k =>
    match s.arrivals k with
    | some a =>
      if s.canConsume requestId k a then
        let s' := (s.setRequest requestId { t with phase := .done (.ok k) }).setArrival k
          { a with handed := a.handed + 1 }
        { s' with
          pendingOpenRequests := s.pendingOpenRequests.erase requestId
          openers := Function.update s.openers t.opener (some k) }
      else
        let s' := s.setRequest requestId { t with
          phase := .done (.error
            ⟨.interrupted, "reverse data connection ownership lost before consumption"⟩) }
        { s' with duties := s.duties ++ [.retire k] }
    | none => s
  | _ => s

/-! ### `handle_open_data_conn_resp` -/

/-- The lock region of an answer that names a connection. -/
def answered (requestId : TcpRequestId) (connId : TcpConnId) : ReverseOpens :=
  match s.pendingOpenRequests.lookup requestId with
  | none => s
  | some p =>
    let (correlation, outcome) := p.correlation.apply (.successResponse connId)
    let s' := s.setPending requestId { p with correlation }
    match outcome with
    | .wait | .idempotent => s'
    | .complete _ =>
      let s'' := s.setPending requestId { p with correlation, sender := false }
      match p.sender, p.stagedEntry with
      | true, some k => { s'' with duties := s.duties ++ [.deliver requestId k] }
      | _, _ =>
        s''.fail requestId
          ⟨.errorState, "reverse data response completed without request owner or entry"⟩
    | .reject err => s'.fail requestId (correlationError err)
    | .terminal =>
      s'.fail requestId ⟨.invalidData, "unexpected terminal reverse data response transition"⟩

def response (requestId : TcpRequestId) (result : Protocol.OpenDataConnRespResult)
    (connId : Option TcpConnId) : ReverseOpens :=
  match result, connId with
  | .success, some connId => s.answered requestId connId
  -- `Success` without a connection, and a failure with one, are protocol errors
  | .success, none | _, some _ => s
  | result, none => s.fail requestId (openDataRespError result)

/-! ### `on_incoming_data_connection` -/

def arrive (k : Nat) (role : TcpConnectionRole) (connId : Option TcpConnId)
    (openRequestId : Option TcpRequestId) : ReverseOpens :=
  match s.arrivals k with
  | some _ => s
  | none => s.setArrival k (.new role connId openRequestId)

def accept (k : Nat) (a : DataArrival) : ReverseOpens :=
  match a.phase with
  | .arrived =>
    s.setArrival k { a with
      phase :=
        match a.role, a.helloConnId with
        | .data, some connId =>
          if (s.dataConns.lookup connId).isSome then
            .refusing .connIdConflict ⟨.conflict, "conn_id conflict"⟩
          else match a.openRequestId with
            | none => .writing
            | some requestId => .staging requestId
        | _, _ => .refusing .protocolError ⟨.invalidParam, "invalid data hello"⟩ }
  | _ => s

/-- `on_incoming_data_connection` goes on in the phase; the request is to end. -/
def failing (k : Nat) (a : DataArrival) (phase : IncomingPhase) (requestId : TcpRequestId)
    (err : P2pError) : ReverseOpens :=
  { s.setArrival k { a with phase } with duties := s.duties ++ [.fail requestId err] }

/-- The connection is not staged. -/
def refuse (debug : P2pError → String) (k : Nat) (a : DataArrival) (requestId : TcpRequestId)
    (err : P2pError) : ReverseOpens :=
  s.failing k a (.refusing .protocolError err) requestId
    ⟨err.code, "reverse data connection staging failed: " ++ debug err⟩

def stage (debug : P2pError → String) (k : Nat) (a : DataArrival) : ReverseOpens :=
  match a.phase, a.openRequestId with
  | .staging _, some requestId =>
    match s.pendingOpenRequests.lookup requestId with
    | none =>
      s.setArrival k { a with
        phase := .refusing .internalError
          ⟨.notFound, "late reverse data connection request not found"⟩ }
    | some p =>
      let (correlation, outcome) := p.correlation.apply (.arrival a.connId)
      let s' := s.setPending requestId { p with correlation }
      match outcome with
      | .wait =>
        (s.setPending requestId { p with correlation, stagedEntry := some k }).setArrival k
          { a with phase := .writing, staged := true }
      | .reject err => s'.refuse debug k a requestId (correlationError err)
      | .idempotent =>
        s'.refuse debug k a requestId ⟨.alreadyExists, "duplicate reverse data connection arrival"⟩
      | .complete _ | .terminal =>
        s'.refuse debug k a requestId ⟨.errorState, "unexpected reverse data arrival transition"⟩
  | _, _ => s

/-- `DataConnReady` is written, or the connection has failed. -/
def write (debug : P2pError → String) (k : Nat) (a : DataArrival) (failure : Option P2pError) :
    ReverseOpens :=
  match a.phase, failure with
  | .refusing _ err, none => s.setArrival k { a with phase := .failed err }
  | .refusing _ _, some err => s.setArrival k { a with phase := .failed err }
  | .writing, none => s.setArrival k { a with phase := .ready }
  | .writing, some err =>
    match a.openRequestId with
    | some requestId =>
      s.failing k a (.failed err) requestId
        ⟨err.code, "send reverse data ready failed: " ++ debug err⟩
    | none => s.setArrival k { a with phase := .failed err }
  | _, _ => s

def registrationFailed : P2pError := ⟨.interrupted, "reverse data local registration failed"⟩

/-- The registration has failed. -/
def unregistered (k : Nat) (a : DataArrival) (requestId : TcpRequestId) (err : P2pError) :
    ReverseOpens :=
  s.failing k a (.failed registrationFailed) requestId err

/-- The last region: `register_entry`, or the registration for a request. -/
def enter (k : Nat) (a : DataArrival) : ReverseOpens :=
  match a.phase with
  | .ready =>
    let inserted : Table TcpConnId Nat := s.dataConns.insert a.connId k
    match a.openRequestId with
    | none =>
      if (s.dataConns.lookup a.connId).isSome then
        s.setArrival k { a with
          phase := .failed ⟨.conflict, "tcp data conn id already registered"⟩ }
      else
        { s.setArrival k { a with phase := .registered (.ok ()) } with dataConns := inserted }
    | some requestId =>
      match s.pendingOpenRequests.lookup requestId with
      | none =>
        s.unregistered k a requestId
          ⟨.interrupted, "reverse data request completed before local registration"⟩
      | some p =>
        if p.stagedEntry ≠ some k then
          s.unregistered k a requestId
            ⟨.interrupted, "reverse data request completed before local registration"⟩
        else if (s.dataConns.lookup a.connId).isSome then
          s.unregistered k a requestId
            ⟨.conflict, "reverse data conn_id registered concurrently"⟩
        else
          let (correlation, outcome) := p.correlation.apply (.arrivalRegistered a.connId)
          let s' := { s.setPending requestId { p with correlation } with dataConns := inserted }
          match outcome with
          | .wait | .idempotent => s'.setArrival k { a with phase := .registered (.ok ()) }
          | .complete _ =>
            let s'' := { s.setPending requestId { p with correlation, sender := false } with
              dataConns := inserted }
            if p.sender then
              { s''.setArrival k { a with phase := .registered (.ok ()) } with
                duties := s.duties ++ [.deliver requestId k] }
            else
              s''.unregistered k a requestId
                ⟨.errorState, "reverse data registration completed without request owner"⟩
          | .reject err => s'.unregistered k a requestId (correlationError err)
          | .terminal =>
            s'.unregistered k a requestId
              ⟨.errorState, "unexpected terminal reverse data registration transition"⟩
  | _ => s

/-! ### Other connections and other calls -/

/-- `register_entry` of a connection that this end made. -/
def create (k : Nat) (connId : TcpConnId) (firstClaimLocal : Bool) : ReverseOpens :=
  match s.arrivals k, s.dataConns.lookup connId with
  | none, none =>
    { s.setArrival k (.created connId firstClaimLocal) with
      dataConns := s.dataConns.insert connId k }
  | _, _ => s

/-- `find_claimable_entry` copies the entries. -/
def search (opener : Nat) : ReverseOpens :=
  { s with copies := Function.update s.copies opener (s.dataConns.entries.map fun x => x.2) }

/-- `find_claimable_entry` returns an entry. -/
def find (opener k : Nat) (a : DataArrival) : ReverseOpens :=
  if k ∈ s.copies opener ∧ a.entry.claimableSeq.isSome then
    { s with openers := Function.update s.openers opener (some k) }
  else s

/-- The first region of `claim_entry`. -/
def claim (opener : Nat) (c : ClaimingState) (k : Nat) (a : DataArrival) : ReverseOpens :=
  let s' := { s with openers := Function.update s.openers opener none }
  match a.entry.claimableSeq with
  | some leaseSeq =>
    s'.setArrival k { a with
      entry := { a.entry with state := .claiming { c with leaseSeq := leaseSeq } }
      claimed := true }
  | none => s'

/-- Claims, leases and their ends, and the timer of the first claim. -/
def proceed (k : Nat) (a : DataArrival) (entry : DataConnEntry) : ReverseOpens :=
  if a.claimed ∨ a.openRequestId = none ∨ 0 < a.handed then
    { s.setArrival k { a with entry } with
      duties := s.duties ++ if entry.state = .retired then [.remove k] else [] }
  else s

/-- `close_local`. -/
def close (reason : P2pErrorCode) : ReverseOpens :=
  if s.closed then s
  else
    { s with
      closed := true
      pendingOpenRequests := ∅
      duties := s.duties ++
        (s.pendingOpenRequests.entries.flatMap fun x =>
          (x.2.stagedEntry.map Duty.retire).toList ++
            if x.2.sender then [.tell x.1 ⟨reason, "tunnel closed"⟩] else []) ++
        s.dataConns.entries.map fun x => .shut x.2 }

/-- A result is sent to a call of `request_remote_data_connection`. -/
def send (requestId : TcpRequestId) (result : P2pResult Nat) : Option ReverseOpens :=
  match s.requests requestId with
  | some t => if t.listens then some (s.setRequest requestId { t with mailbox := some result }) else none
  | none => none

def perform : Duty → ReverseOpens
  | .retire k =>
    match s.arrivals k with
    | some a => { s.setArrival k a.retire with duties := s.duties ++ [.remove k] }
    | none => s
  | .remove k =>
    match s.arrivals k with
    | some a =>
      if s.dataConns.lookup a.connId = some k then { s with dataConns := s.dataConns.erase a.connId }
      else s
    | none => s
  | .deliver requestId k =>
    (s.send requestId (.ok k)).getD { s with duties := s.duties ++ [.cancel requestId] }
  | .tell requestId err => (s.send requestId (.error err)).getD s
  | .cancel requestId => s.cancel requestId
  | .fail requestId err => s.fail requestId err
  | .shut k =>
    match s.arrivals k with
    | some a => s.setArrival k a.shut
    | none => s

/-- What was to be done is done. -/
def strike (i : Nat) : ReverseOpens := { s with duties := s.duties.eraseIdx i }

/-- A step of a call of `request_remote_data_connection`, if there is one. -/
def onRequest (requestId : TcpRequestId) (f : RequestTask → ReverseOpens) : ReverseOpens :=
  match s.requests requestId with
  | some t => f t
  | none => s

/-- A step of a connection, if there is one. -/
def onArrival (k : Nat) (f : DataArrival → ReverseOpens) : ReverseOpens :=
  match s.arrivals k with
  | some a => f a
  | none => s

def step (debug : P2pError → String) (s : ReverseOpens) : ReverseEvent → ReverseOpens
  | .request requestId opener => s.request requestId opener
  | .sent requestId failure => s.onRequest requestId (s.sent requestId · failure)
  | .receive requestId => s.onRequest requestId (s.receive requestId)
  | .expire requestId => s.onRequest requestId (s.expire requestId)
  | .waiterDropped requestId => s.onRequest requestId (s.waiterDropped requestId)
  | .drop requestId => s.onRequest requestId (s.drop requestId)
  | .cleanup requestId => s.onRequest requestId (s.cleanup requestId)
  | .consume requestId => s.onRequest requestId (s.consume requestId)
  | .response requestId result connId => s.response requestId result connId
  | .arrive k role connId openRequestId => s.arrive k role connId openRequestId
  | .accept k => s.onArrival k (s.accept k)
  | .stage k => s.onArrival k (s.stage debug k)
  | .write k failure => s.onArrival k (s.write debug k · failure)
  | .enter k => s.onArrival k (s.enter k)
  | .create k connId firstClaimLocal => s.create k connId firstClaimLocal
  | .search opener => s.search opener
  | .find opener k => s.onArrival k (s.find opener k)
  | .claim opener c =>
    match s.openers opener with
    | some k => s.onArrival k (s.claim opener c k)
    | none => s
  | .proceed k entry => s.onArrival k (s.proceed k · entry)
  | .close reason => s.close reason
  | .duty i =>
    match s.duties[i]? with
    | some d => (s.perform d).strike i
    | none => s

/-! ## What is claimed of a state -/

/-- The entry is staged for the request, which is not over. -/
def Holds (requestId : TcpRequestId) (k : Nat) : Prop :=
  ∃ p, s.pendingOpenRequests.lookup requestId = some p ∧ p.stagedEntry = some k

end ReverseOpens

/-- Nobody has a claim or a lease of the entry. -/
def DataArrival.Untouched (a : DataArrival) : Prop :=
  a.entry.state = .firstClaimPending ∨ a.entry.state = .retired

/-- What stays of a connection. -/
structure DataArrival.Keeps (a a' : DataArrival) : Prop where
  connId : a'.connId = a.connId
  openRequestId : a'.openRequestId = a.openRequestId
  handed : a'.handed = a.handed
  staged : a.staged = true → a'.staged = true

theorem DataArrival.Keeps.refl (a : DataArrival) : a.Keeps a := ⟨rfl, rfl, rfl, id⟩

/-- What a region may do with a connection. -/
structure DataArrival.Follows (a a' : DataArrival) : Prop where
  connId : a'.connId = a.connId
  openRequestId : a'.openRequestId = a.openRequestId
  handed : a'.handed = a.handed
  staged : a'.staged = a.staged
  untouched : a.openRequestId.isSome = true → a.handed = 0 → a.claimed = false → a.Untouched →
    a'.claimed = false ∧ a'.Untouched ∧ (a.entry.state = .retired → a'.entry.state = .retired)

theorem DataArrival.Follows.keeps {a a' : DataArrival} (h : a.Follows a') : a.Keeps a' :=
  ⟨h.connId, h.openRequestId, h.handed, h.staged.trans⟩

theorem DataArrival.follows_phase (a : DataArrival) (phase : IncomingPhase) : a.Follows { a with phase } :=
  ⟨rfl, rfl, rfl, rfl, fun _ _ hclaimed hstate => ⟨hclaimed, hstate, id⟩⟩

theorem DataArrival.follows_retire (a : DataArrival) : a.Follows a.retire :=
  ⟨rfl, rfl, rfl, rfl, fun _ _ hclaimed _ => ⟨hclaimed, .inr rfl, fun _ => rfl⟩⟩

theorem DataArrival.follows_shut (a : DataArrival) : a.Follows a.shut := by
  unfold DataArrival.shut
  split
  · exact ⟨rfl, rfl, rfl, rfl, fun _ _ hclaimed hstate => ⟨hclaimed, hstate, id⟩⟩
  · exact ⟨rfl, rfl, rfl, rfl, fun _ _ hclaimed hstate => ⟨hclaimed, hstate, id⟩⟩
  · exact a.follows_retire

/-- The call has returned, or its guard has run. -/
def RequestPhase.isOver : RequestPhase → Bool
  | .done _ | .gone => true
  | _ => false

/-- A call that can be told of an entry is not over. -/
theorem RequestTask.open_of_listens {t : RequestTask} (h : t.listens = true) :
    t.phase.isOver = false ∧ ∀ k, t.phase ≠ .received k := by
  unfold RequestTask.listens at h
  split at h
  · next hphase => simp [hphase, RequestPhase.isOver]
  · next hphase => simp [hphase, RequestPhase.isOver]
  · cases h

theorem RequestPhase.ne_done {phase : RequestPhase} (h : phase.isOver = false)
    (result : P2pResult Nat) : phase ≠ .done result := by
  rintro rfl
  cases h

namespace ReverseOpens

/-- A connection that names a request is handed to that request once, or retired and not in
`data_conns` when the request is over and what that leaves to do is done, and the request is over
when its call is; the request returns no other; nobody claims it before; and what is to be retired
for a request has no lease. -/
structure Owned (s : ReverseOpens) : Prop where
  once : ∀ k a requestId, s.arrivals k = some a → a.openRequestId = some requestId →
    a.handed ≤ 1 ∧ (a.handed = 1 → ∃ t, s.requests requestId = some t ∧ t.phase = .done (.ok k))
  returned : ∀ requestId t k, s.requests requestId = some t → t.phase = .done (.ok k) →
    ∃ a, s.arrivals k = some a ∧ a.openRequestId = some requestId ∧ a.handed = 1
  settled : ∀ k a requestId, s.arrivals k = some a → a.openRequestId = some requestId →
    a.handed = 0 → ¬ s.Holds requestId k → .retire k ∉ s.duties → .remove k ∉ s.duties →
      s.dataConns.lookup a.connId ≠ some k ∧ (a.staged = true → a.entry.state = .retired)
  held : ∀ requestId k, s.Holds requestId k →
    ∃ t, s.requests requestId = some t ∧ t.phase.isOver = false
  unclaimed : ∀ k a requestId, s.arrivals k = some a → a.openRequestId = some requestId →
    a.handed = 0 → a.claimed = false ∧ a.Untouched
  unleased : ∀ k a, .retire k ∈ s.duties → s.arrivals k = some a → a.Untouched

/-- No call claims an entry of a request that has not handed it over. -/
def Waits (s : ReverseOpens) : ReverseEvent → Prop
  | .claim opener _ => ∀ k a requestId, s.openers opener = some k → s.arrivals k = some a →
    a.openRequestId = some requestId → a.entry.claimableSeq.isSome = true → 0 < a.handed
  | _ => True

/-! ## The invariant -/

/-- The connection is for the request, which has completed with it or is over. -/
def Completed (s : ReverseOpens) (requestId : TcpRequestId) (k : Nat) : Prop :=
  (∃ t, s.requests requestId = some t) ∧
    ∃ a, s.arrivals k = some a ∧ a.openRequestId = some requestId ∧
      ∀ p, s.pendingOpenRequests.lookup requestId = some p → p.sender = false ∧
        p.stagedEntry = some k ∧ p.correlation.terminal = true ∧
          p.correlation.completedConnId = some a.connId

structure Inv (s : ReverseOpens) : Prop where
  tasks : ∀ r p, s.pendingOpenRequests.lookup r = some p →
    ∃ t, s.requests r = some t ∧ t.phase.isOver = false
  reached : ∀ r p, s.pendingOpenRequests.lookup r = some p →
    ∃ events, p.correlation = ReverseOpenCorrelation.run .new events
  staged : ∀ r p k, s.pendingOpenRequests.lookup r = some p → p.stagedEntry = some k →
    ∃ a, s.arrivals k = some a ∧ a.openRequestId = some r ∧ a.staged = true ∧ a.handed = 0 ∧
      p.correlation.arrivalConnId = some a.connId
  told : ∀ r t k, s.requests r = some t → t.mailbox = some (.ok k) ∨ t.phase = .received k →
    s.Completed r k
  delivered : ∀ r k, .deliver r k ∈ s.duties → s.Completed r k
  failed : ∀ r t err, s.requests r = some t → t.mailbox = some (.error err) →
    s.pendingOpenRequests.lookup r = none
  telling : ∀ r err, .tell r err ∈ s.duties →
    s.pendingOpenRequests.lookup r = none ∧ ∃ t, s.requests r = some t
  handed : ∀ k a, s.arrivals k = some a → 0 < a.handed → a.handed = 1 ∧
    ∃ r t, a.openRequestId = some r ∧ s.requests r = some t ∧ t.phase = .done (.ok k)
  returned : ∀ r t k, s.requests r = some t → t.phase = .done (.ok k) →
    ∃ a, s.arrivals k = some a ∧ a.openRequestId = some r ∧ a.handed = 1
  present : ∀ c k, s.dataConns.lookup c = some k → ∃ a, s.arrivals k = some a ∧ a.connId = c ∧
    ∀ r, a.openRequestId = some r → a.handed = 0 →
      s.Holds r k ∨ .retire k ∈ s.duties ∨ .remove k ∈ s.duties
  retired : ∀ k a r, s.arrivals k = some a → a.openRequestId = some r → a.handed = 0 →
    a.staged = true → s.Holds r k ∨ .retire k ∈ s.duties ∨ a.entry.state = .retired
  untouched : ∀ k a r, s.arrivals k = some a → a.openRequestId = some r → a.handed = 0 →
    a.claimed = false ∧ a.Untouched
  retiring : ∀ k, .retire k ∈ s.duties → ∃ a r t, s.arrivals k = some a ∧
    a.openRequestId = some r ∧ a.handed = 0 ∧ s.requests r = some t ∧
      s.pendingOpenRequests.lookup r = none

theorem inv_start : Inv start := by
  refine ⟨?_, ?_, ?_, ?_, ?_, ?_, ?_, ?_, ?_, ?_, ?_, ?_, ?_⟩
  all_goals
    intros
    contradiction

theorem Inv.owned {s : ReverseOpens} (h : Inv s) : Owned s := by
  refine ⟨fun k a r ha hr => ?_, h.returned, fun k a r ha hr hzero hholds hretire hremove => ⟨?_, ?_⟩,
    fun r k hheld => ?_, h.untouched, fun k a hk ha => ?_⟩
  · rcases Nat.eq_zero_or_pos a.handed with hzero | hpos
    · exact ⟨by omega, fun hone => by omega⟩
    · obtain ⟨hone, r', t, hr', ht, hdone⟩ := h.handed k a ha hpos
      cases hr.symm.trans hr'
      exact ⟨hone.le, fun _ => ⟨t, ht, hdone⟩⟩
  · intro hpresent
    obtain ⟨a', ha', -, hwhere⟩ := h.present _ _ hpresent
    cases ha.symm.trans ha'
    rcases hwhere r hr hzero with hheld | hmem | hmem
    · exact hholds hheld
    · exact hretire hmem
    · exact hremove hmem
  · intro hstaged
    rcases h.retired k a r ha hr hzero hstaged with hheld | hmem | hstate
    · exact absurd hheld hholds
    · exact absurd hmem hretire
    · exact hstate
  · obtain ⟨p, hp, -⟩ := hheld
    exact h.tasks r p hp
  · obtain ⟨a', r, -, ha', hr, hzero, -⟩ := h.retiring k hk
    cases ha.symm.trans ha'
    exact (h.untouched k a r ha hr hzero).2

/-! ### What each kind of change keeps -/

variable {s : ReverseOpens} {k : Nat} {a a' : DataArrival} {requestId : TcpRequestId}
  {connId : TcpConnId}

@[simp] theorem setArrival_self : (s.setArrival k a).arrivals k = some a := by
  simp [setArrival]

theorem setArrival_ne {k' : Nat} (h : k' ≠ k) : (s.setArrival k a).arrivals k' = s.arrivals k' := by
  simp [setArrival, h]

theorem setArrival_some {k' : Nat} (hk' : (s.setArrival k a').arrivals k' = some a) :
    k' = k ∧ a = a' ∨ k' ≠ k ∧ s.arrivals k' = some a := by
  by_cases heq : k' = k
  · subst heq
    rw [setArrival_self] at hk'
    exact .inl ⟨rfl, (Option.some.inj hk').symm⟩
  · exact .inr ⟨heq, (setArrival_ne heq).symm.trans hk'⟩

/-- What was at a number is kept by what is there now. -/
theorem keeps_setArrival (ha : s.arrivals k = some a) (hkeeps : a.Keeps a') {k' : Nat} {b : DataArrival}
    (hb : s.arrivals k' = some b) : ∃ b', (s.setArrival k a').arrivals k' = some b' ∧ b.Keeps b' := by
  by_cases hk' : k' = k
  · subst hk'
    cases ha.symm.trans hb
    exact ⟨a', setArrival_self, hkeeps⟩
  · exact ⟨b, (setArrival_ne hk').trans hb, .refl b⟩

theorem Completed.setArrival {r : TcpRequestId} {k' : Nat} (h : s.Completed r k')
    (ha : s.arrivals k = some a) (hr : a'.openRequestId = a.openRequestId)
    (hconn : a'.connId = a.connId) : (s.setArrival k a').Completed r k' := by
  obtain ⟨htask, b, hb, hbr, hbp⟩ := h
  by_cases hk' : k' = k
  · subst hk'
    cases ha.symm.trans hb
    exact ⟨htask, a', setArrival_self, hr.trans hbr, hconn ▸ hbp⟩
  · exact ⟨htask, b, (setArrival_ne hk').trans hb, hbr, hbp⟩

/-- Requests that are over do not matter. -/
theorem Completed.mono {pending : Table TcpRequestId PendingOpenRequest} {r : TcpRequestId}
    (h : s.Completed r k)
    (hsub : ∀ r p, pending.lookup r = some p → s.pendingOpenRequests.lookup r = some p) :
    Completed { s with pendingOpenRequests := pending } r k := by
  obtain ⟨htask, a, ha, har, hp⟩ := h
  exact ⟨htask, a, ha, har, fun p hnow => hp p (hsub r p hnow)⟩

/-- A request that is over stays so. -/
theorem setPending_none {p p' : PendingOpenRequest} {r : TcpRequestId}
    (hp : s.pendingOpenRequests.lookup requestId = some p)
    (hr : s.pendingOpenRequests.lookup r = none) :
    (s.setPending requestId p').pendingOpenRequests.lookup r = none := by
  refine (AList.lookup_insert_ne ?_).trans hr
  rintro rfl
  cases hp.symm.trans hr

theorem Holds.setPending {p p' : PendingOpenRequest} {r : TcpRequestId} (h : s.Holds r k)
    (hp : s.pendingOpenRequests.lookup requestId = some p)
    (hkeep : p.stagedEntry = some k → p'.stagedEntry = some k) :
    (s.setPending requestId p').Holds r k := by
  obtain ⟨q, hq, hk⟩ := h
  by_cases hr : r = requestId
  · subst hr
    cases hp.symm.trans hq
    exact ⟨p', AList.lookup_insert _, hkeep hk⟩
  · exact ⟨q, (AList.lookup_insert_ne hr).trans hq, hk⟩

@[simp] theorem setRequest_self {t : RequestTask} :
    (s.setRequest requestId t).requests requestId = some t := by
  simp [setRequest]

theorem setRequest_ne {t : RequestTask} {r : TcpRequestId} (h : r ≠ requestId) :
    (s.setRequest requestId t).requests r = s.requests r := by
  simp [setRequest, h]

theorem setRequest_some {t u : RequestTask} {r : TcpRequestId}
    (hu : (s.setRequest requestId t).requests r = some u) :
    r = requestId ∧ u = t ∨ r ≠ requestId ∧ s.requests r = some u := by
  by_cases heq : r = requestId
  · subst heq
    rw [setRequest_self] at hu
    exact .inl ⟨rfl, (Option.some.inj hu).symm⟩
  · exact .inr ⟨heq, (setRequest_ne heq).symm.trans hu⟩

theorem exists_setRequest {t : RequestTask} {r : TcpRequestId} (h : ∃ u, s.requests r = some u) :
    ∃ u, (s.setRequest requestId t).requests r = some u := by
  obtain ⟨u, hu⟩ := h
  by_cases hr : r = requestId
  · exact ⟨t, hr ▸ setRequest_self⟩
  · exact ⟨u, (setRequest_ne hr).trans hu⟩

theorem Completed.setRequest {r : TcpRequestId} (h : s.Completed r k) (t : RequestTask) :
    (s.setRequest requestId t).Completed r k := ⟨exists_setRequest h.1, h.2⟩

theorem Inv.other (h : Inv s) (closed : Bool) (copies : Nat → List Nat)
    (openers : Nat → Option Nat) : Inv { s with closed, copies, openers } :=
  ⟨h.tasks, h.reached, h.staged, h.told, h.delivered, h.failed, h.telling, h.handed, h.returned,
    h.present, h.retired, h.untouched, h.retiring⟩

/-- Another value for a call of `request_remote_data_connection` that is not over. -/
theorem Inv.setRequest {t t' : RequestTask} (h : Inv s) (ht : s.requests requestId = some t)
    (hopen : t.phase.isOver = false)
    (hover : t'.phase.isOver = true → s.pendingOpenRequests.lookup requestId = none)
    (htold : ∀ k, t'.mailbox = some (.ok k) ∨ t'.phase = .received k → s.Completed requestId k)
    (hfailed : ∀ err, t'.mailbox = some (.error err) →
      s.pendingOpenRequests.lookup requestId = none)
    (hfails : ∀ k, t'.phase ≠ .done (.ok k)) : Inv (s.setRequest requestId t') := by
  refine ⟨fun r p hp => ?_, h.reached, h.staged, fun r u k hu htell => .setRequest ?_ t',
    fun r k hmem => (h.delivered r k hmem).setRequest t', fun r u err hu hmail => ?_,
    fun r err hmem => (h.telling r err hmem).imp id exists_setRequest, fun k a ha hpos => ?_,
    fun r u k hu hdone => ?_, h.present, h.retired, h.untouched, fun k hk => ?_⟩
  · obtain ⟨u, hu, hphase⟩ := h.tasks r p hp
    by_cases hr : r = requestId
    · subst hr
      refine ⟨t', setRequest_self, Bool.eq_false_iff.mpr fun hdone => ?_⟩
      cases hp.symm.trans (hover hdone)
    · exact ⟨u, (setRequest_ne hr).trans hu, hphase⟩
  · rcases setRequest_some hu with ⟨rfl, rfl⟩ | ⟨-, hu⟩
    · exact htold k htell
    · exact h.told r u k hu htell
  · rcases setRequest_some hu with ⟨rfl, rfl⟩ | ⟨-, hu⟩
    · exact hfailed err hmail
    · exact h.failed r u err hu hmail
  · obtain ⟨hone, r, u, har, hu, hdone⟩ := h.handed k a ha hpos
    have hr : r ≠ requestId := by
      rintro rfl
      cases ht.symm.trans hu
      exact RequestPhase.ne_done hopen _ hdone
    exact ⟨hone, r, u, har, (setRequest_ne hr).trans hu, hdone⟩
  · rcases setRequest_some hu with ⟨-, rfl⟩ | ⟨-, hu⟩
    · exact absurd hdone (hfails k)
    · exact h.returned r u k hu hdone
  · obtain ⟨a, r, u, ha, har, hzero, hu, hgone⟩ := h.retiring k hk
    obtain ⟨u', hu'⟩ := exists_setRequest ⟨u, hu⟩
    exact ⟨a, r, u', ha, har, hzero, hu', hgone⟩

theorem Inv.setArrival (h : Inv s) (ha : s.arrivals k = some a) (hfollows : a.Follows a') :
    Inv (s.setArrival k a') := by
  have hnow : ∀ {k' b}, s.arrivals k' = some b →
      ∃ b', (s.setArrival k a').arrivals k' = some b' ∧ b.Keeps b' := fun hb =>
    keeps_setArrival ha hfollows.keeps hb
  refine ⟨h.tasks, h.reached, fun r p k' hp hk' => ?_,
    fun r t k' ht htell => (h.told r t k' ht htell).setArrival ha hfollows.openRequestId hfollows.connId,
    fun r k' hmem => (h.delivered r k' hmem).setArrival ha hfollows.openRequestId hfollows.connId,
    h.failed, h.telling, fun k' b hb hpos => ?_, fun r t k' ht hdone => ?_, fun c k' hc => ?_,
    fun k' b r hb hr hzero hstaged => ?_, fun k' b r hb hr hzero => ?_, fun k' hmem => ?_⟩
  · obtain ⟨b, hb, hbr, hbs, hzero, hconn⟩ := h.staged r p k' hp hk'
    obtain ⟨b', hb', hkept⟩ := hnow hb
    exact ⟨b', hb', hkept.openRequestId.trans hbr, hkept.staged hbs, hkept.handed.trans hzero,
      hkept.connId ▸ hconn⟩
  · rcases setArrival_some hb with ⟨rfl, rfl⟩ | ⟨-, hb⟩
    · rw [hfollows.handed] at hpos
      obtain ⟨hone, r, t, har, hrest⟩ := h.handed k' a ha hpos
      exact ⟨hfollows.handed.trans hone, r, t, hfollows.openRequestId.trans har, hrest⟩
    · exact h.handed k' b hb hpos
  · obtain ⟨b, hb, hbr, hone⟩ := h.returned r t k' ht hdone
    obtain ⟨b', hb', hkept⟩ := hnow hb
    exact ⟨b', hb', hkept.openRequestId.trans hbr, hkept.handed.trans hone⟩
  · obtain ⟨b, hb, hbc, hwhere⟩ := h.present c k' hc
    obtain ⟨b', hb', hkept⟩ := hnow hb
    refine ⟨b', hb', hkept.connId.trans hbc, fun r hr hzero => ?_⟩
    exact hwhere r (hkept.openRequestId.symm.trans hr) (hkept.handed.symm.trans hzero)
  · rcases setArrival_some hb with ⟨rfl, rfl⟩ | ⟨-, hb⟩
    · rw [hfollows.openRequestId] at hr
      rw [hfollows.handed] at hzero
      rw [hfollows.staged] at hstaged
      obtain ⟨hclaimed, htouched⟩ := h.untouched k' a r ha hr hzero
      have hkept := (hfollows.untouched (by rw [hr]; rfl) hzero hclaimed htouched).2.2
      exact (h.retired k' a r ha hr hzero hstaged).imp id (Or.imp id hkept)
    · exact h.retired k' b r hb hr hzero hstaged
  · rcases setArrival_some hb with ⟨rfl, rfl⟩ | ⟨-, hb⟩
    · rw [hfollows.openRequestId] at hr
      rw [hfollows.handed] at hzero
      obtain ⟨hclaimed, htouched⟩ := h.untouched k' a r ha hr hzero
      obtain ⟨hclaimed', htouched', -⟩ :=
        hfollows.untouched (by rw [hr]; rfl) hzero hclaimed htouched
      exact ⟨hclaimed', htouched'⟩
    · exact h.untouched k' b r hb hr hzero
  · obtain ⟨b, r, t, hb, hbr, hzero, hrest⟩ := h.retiring k' hmem
    obtain ⟨b', hb', hkept⟩ := hnow hb
    exact ⟨b', r, t, hb', hkept.openRequestId.trans hbr, hkept.handed.trans hzero, hrest⟩

/-- More is to be done, but nobody is told of a failure. -/
theorem Inv.addDuties (h : Inv s) (ds : List Duty)
    (hdeliver : ∀ r k, .deliver r k ∈ ds → s.Completed r k) (htell : ∀ r err, .tell r err ∉ ds)
    (hretire : ∀ k, .retire k ∈ ds → ∃ a r t, s.arrivals k = some a ∧ a.openRequestId = some r ∧
      a.handed = 0 ∧ s.requests r = some t ∧ s.pendingOpenRequests.lookup r = none) :
    Inv { s with duties := s.duties ++ ds } := by
  have hmore : ∀ d, d ∈ s.duties → d ∈ s.duties ++ ds := fun d hd => List.mem_append_left ds hd
  refine ⟨h.tasks, h.reached, h.staged, h.told, fun r k hmem => ?_, h.failed,
    fun r err hmem => ?_, h.handed, h.returned, fun c k hc => ?_,
    fun k a r ha hr hzero hstaged => ?_, h.untouched, fun k hmem => ?_⟩
  · exact (List.mem_append.mp hmem).elim (h.delivered r k) (hdeliver r k)
  · exact (List.mem_append.mp hmem).elim (h.telling r err) fun hin => absurd hin (htell r err)
  · obtain ⟨a, ha, hac, hwhere⟩ := h.present c k hc
    refine ⟨a, ha, hac, fun r hr hzero => ?_⟩
    exact (hwhere r hr hzero).imp id (Or.imp (hmore _) (hmore _))
  · exact (h.retired k a r ha hr hzero hstaged).imp id (Or.imp (hmore _) id)
  · exact (List.mem_append.mp hmem).elim (h.retiring k) (hretire k)

/-- The request has completed, and this stays so. -/
theorem Completed.setPending {p p' : PendingOpenRequest} {r : TcpRequestId}
    (h : s.Completed r k) (hp : s.pendingOpenRequests.lookup requestId = some p)
    (hkeep : p.sender = false → p.correlation.terminal = true → p.stagedEntry.isSome = true →
      p'.sender = false ∧ p'.stagedEntry = p.stagedEntry ∧ p'.correlation = p.correlation) :
    (s.setPending requestId p').Completed r k := by
  obtain ⟨htask, a, ha, har, hcompleted⟩ := h
  refine ⟨htask, a, ha, har, fun q hq => ?_⟩
  rcases Table.lookup_insert_some.mp hq with ⟨rfl, rfl⟩ | ⟨-, hq⟩
  · obtain ⟨hsender, hk, hterminal, hconn⟩ := hcompleted p hp
    obtain ⟨hsender', hk', hsame⟩ := hkeep hsender hterminal (by rw [hk]; rfl)
    rw [hk', hsame]
    exact ⟨hsender', hk, hterminal, hconn⟩
  · exact hcompleted q hq

/-- Another value for a request; the staged entry stays. -/
theorem Inv.setPending {p p' : PendingOpenRequest} (h : Inv s)
    (hp : s.pendingOpenRequests.lookup requestId = some p) (hkeep : p'.stagedEntry = p.stagedEntry)
    (hreached : ∃ events, p'.correlation = ReverseOpenCorrelation.run .new events)
    (hconn : ∀ c, p.correlation.arrivalConnId = some c → p'.correlation.arrivalConnId = some c)
    (hended : p.sender = false → p.correlation.terminal = true →
      p'.sender = false ∧ p'.correlation = p.correlation) :
    Inv (s.setPending requestId p') := by
  have hholds : ∀ {r k}, s.Holds r k → (s.setPending requestId p').Holds r k := fun hheld =>
    hheld.setPending hp hkeep.trans
  have hcompleted : ∀ {r k}, s.Completed r k → (s.setPending requestId p').Completed r k :=
    fun hk => hk.setPending hp fun hsender hterminal _ =>
      ⟨(hended hsender hterminal).1, hkeep, (hended hsender hterminal).2⟩
  refine ⟨fun r q hq => ?_, fun r q hq => ?_, fun r q k hq hk => ?_,
    fun r t k ht htell => hcompleted (h.told r t k ht htell),
    fun r k hmem => hcompleted (h.delivered r k hmem),
    fun r t err ht hmail => setPending_none hp (h.failed r t err ht hmail),
    fun r err hmem => (h.telling r err hmem).imp (setPending_none hp) id, h.handed, h.returned,
    fun c k hc => ?_, fun k a r ha hr hzero hstaged => ?_, h.untouched, fun k hk => ?_⟩
  · rcases Table.lookup_insert_some.mp hq with ⟨rfl, -⟩ | ⟨-, hq⟩
    · exact h.tasks r p hp
    · exact h.tasks r q hq
  · rcases Table.lookup_insert_some.mp hq with ⟨-, rfl⟩ | ⟨-, hq⟩
    · exact hreached
    · exact h.reached r q hq
  · rcases Table.lookup_insert_some.mp hq with ⟨rfl, rfl⟩ | ⟨-, hq⟩
    · obtain ⟨a, ha, har, hstaged, hzero, harrived⟩ := h.staged r p k hp (hkeep.symm.trans hk)
      exact ⟨a, ha, har, hstaged, hzero, hconn _ harrived⟩
    · exact h.staged r q k hq hk
  · obtain ⟨a, ha, hac, hwhere⟩ := h.present c k hc
    exact ⟨a, ha, hac, fun r hr hzero => (hwhere r hr hzero).imp hholds id⟩
  · exact (h.retired k a r ha hr hzero hstaged).imp hholds id
  · obtain ⟨a, r, t, ha, har, hzero, ht, hgone⟩ := h.retiring k hk
    exact ⟨a, r, t, ha, har, hzero, ht, setPending_none hp hgone⟩

/-- Some requests are over; what was staged for them is to be retired. -/
theorem Inv.endRequests (h : Inv s) {pending : Table TcpRequestId PendingOpenRequest}
    {ds : List Duty} (hsub : ∀ r p, pending.lookup r = some p → s.pendingOpenRequests.lookup r = some p)
    (hover : ∀ r p, s.pendingOpenRequests.lookup r = some p → pending.lookup r = none →
      ∀ k, p.stagedEntry = some k → .retire k ∈ ds)
    (hdeliver : ∀ r k, .deliver r k ∉ ds)
    (htell : ∀ r err, .tell r err ∈ ds →
      (∃ p, s.pendingOpenRequests.lookup r = some p) ∧ pending.lookup r = none)
    (hretire : ∀ k, .retire k ∈ ds → ∃ r p, s.pendingOpenRequests.lookup r = some p ∧
      p.stagedEntry = some k ∧ pending.lookup r = none) :
    Inv { s with pendingOpenRequests := pending, duties := s.duties ++ ds } := by
  have hmore : ∀ d, d ∈ s.duties → d ∈ s.duties ++ ds := fun d hd => List.mem_append_left ds hd
  have hnone : ∀ r, s.pendingOpenRequests.lookup r = none → pending.lookup r = none := by
    intro r hr
    refine Option.eq_none_iff_forall_not_mem.mpr fun p hp => ?_
    cases hr.symm.trans (hsub r p hp)
  -- an entry is staged still, or is to be retired
  have hholds : ∀ r k, s.Holds r k →
      (∃ p, pending.lookup r = some p ∧ p.stagedEntry = some k) ∨ .retire k ∈ s.duties ++ ds := by
    rintro r k ⟨p, hp, hk⟩
    cases hr : pending.lookup r with
    | none => exact .inr (List.mem_append_right _ (hover r p hp hr k hk))
    | some q =>
      cases hp.symm.trans (hsub r q hr)
      exact .inl ⟨p, rfl, hk⟩
  refine ⟨fun r p hp => h.tasks r p (hsub r p hp), fun r p hp => h.reached r p (hsub r p hp),
    fun r p k hp => h.staged r p k (hsub r p hp),
    fun r t k ht htold => (h.told r t k ht htold).mono hsub, fun r k hmem => ?_,
    fun r t err ht hmail => hnone r (h.failed r t err ht hmail), fun r err hmem => ?_, h.handed,
    h.returned, fun c k hc => ?_,
    fun k a r ha hr hzero hstaged => ?_, h.untouched, fun k hmem => ?_⟩
  · rcases List.mem_append.mp hmem with hmem | hmem
    · exact (h.delivered r k hmem).mono hsub
    · exact absurd hmem (hdeliver r k)
  · rcases List.mem_append.mp hmem with hmem | hmem
    · exact (h.telling r err hmem).imp (hnone r) id
    · obtain ⟨⟨p, hp⟩, hgone⟩ := htell r err hmem
      obtain ⟨t, ht, -⟩ := h.tasks r p hp
      exact ⟨hgone, t, ht⟩
  · obtain ⟨a, ha, hac, hwhere⟩ := h.present c k hc
    refine ⟨a, ha, hac, fun r hr hzero => ?_⟩
    rcases hwhere r hr hzero with hheld | hmem | hmem
    · exact (hholds r k hheld).imp id .inl
    · exact .inr (.inl (hmore _ hmem))
    · exact .inr (.inr (hmore _ hmem))
  · rcases h.retired k a r ha hr hzero hstaged with hheld | hmem | hstate
    · exact (hholds r k hheld).imp id .inl
    · exact .inr (.inl (hmore _ hmem))
    · exact .inr (.inr hstate)
  · rcases List.mem_append.mp hmem with hmem | hmem
    · obtain ⟨a, r, t, ha, har, hzero, ht, hgone⟩ := h.retiring k hmem
      exact ⟨a, r, t, ha, har, hzero, ht, hnone r hgone⟩
    · obtain ⟨r, p, hp, hk, hgone⟩ := hretire k hmem
      obtain ⟨a, ha, har, -, hzero, -⟩ := h.staged r p k hp hk
      obtain ⟨t, ht, -⟩ := h.tasks r p hp
      exact ⟨a, r, t, ha, har, hzero, ht, hgone⟩

/-- An entry is registered that is staged, or is not for a request. -/
theorem Inv.insertEntry (h : Inv s) (ha : s.arrivals k = some a) (hconn : a.connId = connId)
    (hheld : ∀ r, a.openRequestId = some r → s.Holds r k) :
    Inv { s with dataConns := s.dataConns.insert connId k } := by
  refine ⟨h.tasks, h.reached, h.staged, h.told, h.delivered, h.failed, h.telling, h.handed,
    h.returned, fun c k' hc => ?_, h.retired, h.untouched, h.retiring⟩
  rcases Table.lookup_insert_some.mp hc with ⟨rfl, rfl⟩ | ⟨-, hc⟩
  · exact ⟨a, ha, hconn, fun r hr _ => .inl (hheld r hr)⟩
  · exact h.present c k' hc

theorem Inv.eraseEntry (h : Inv s) (connId : TcpConnId) :
    Inv { s with dataConns := s.dataConns.erase connId } :=
  ⟨h.tasks, h.reached, h.staged, h.told, h.delivered, h.failed, h.telling, h.handed, h.returned,
    fun c k hc => h.present c k (Table.lookup_erase_some.mp hc).2, h.retired, h.untouched, h.retiring⟩

/-- A connection that is not staged. -/
theorem Inv.newArrival (h : Inv s) (hnew : s.arrivals k = none) (hzero : a.handed = 0)
    (hstaged : a.staged = false) (hclaimed : a.claimed = false) (hstate : a.Untouched) :
    Inv (s.setArrival k a) := by
  have hkept : ∀ {k' b}, s.arrivals k' = some b → (s.setArrival k a).arrivals k' = some b := by
    intro k' b hb
    refine (setArrival_ne ?_).trans hb
    rintro rfl
    cases hnew.symm.trans hb
  have hcompleted : ∀ {r k'}, s.Completed r k' → (s.setArrival k a).Completed r k' := fun hk' =>
    ⟨hk'.1, hk'.2.imp fun b hb => ⟨hkept hb.1, hb.2⟩⟩
  refine ⟨h.tasks, h.reached, fun r p k' hp hk' => ?_,
    fun r t k' ht htell => hcompleted (h.told r t k' ht htell),
    fun r k' hmem => hcompleted (h.delivered r k' hmem), h.failed, h.telling, fun k' b hb hpos => ?_,
    fun r t k' ht hdone => (h.returned r t k' ht hdone).imp fun b hb => ⟨hkept hb.1, hb.2⟩,
    fun c k' hc => ?_, fun k' b r hb hr hbzero hbstaged => ?_, fun k' b r hb hr hbzero => ?_,
    fun k' hmem => ?_⟩
  · exact (h.staged r p k' hp hk').imp fun b hb => ⟨hkept hb.1, hb.2⟩
  · rcases setArrival_some hb with ⟨-, rfl⟩ | ⟨-, hb⟩
    · omega
    · exact h.handed k' b hb hpos
  · exact (h.present c k' hc).imp fun b hb => ⟨hkept hb.1, hb.2⟩
  · rcases setArrival_some hb with ⟨-, rfl⟩ | ⟨-, hb⟩
    · cases hstaged.symm.trans hbstaged
    · exact h.retired k' b r hb hr hbzero hbstaged
  · rcases setArrival_some hb with ⟨-, rfl⟩ | ⟨-, hb⟩
    · exact ⟨hclaimed, hstate⟩
    · exact h.untouched k' b r hb hr hbzero
  · obtain ⟨b, r, t, hb, hrest⟩ := h.retiring k' hmem
    exact ⟨b, r, t, hkept hb, hrest⟩

/-- What was to be done is struck off when it is done. -/
theorem Inv.strike {i : Nat} {d : Duty} (h : Inv s) (hd : s.duties[i]? = some d)
    (hretire : ∀ k, d = .retire k →
      .remove k ∈ s.duties ∧ ∀ a, s.arrivals k = some a → a.entry.state = .retired)
    (hremove : ∀ k, d = .remove k → ∀ c, s.dataConns.lookup c ≠ some k) : Inv (s.strike i) := by
  have hless : ∀ {x}, x ∈ s.duties.eraseIdx i → x ∈ s.duties := fun hx =>
    List.mem_of_mem_eraseIdx hx
  have hleft : ∀ {x}, x ∈ s.duties → x ∈ s.duties.eraseIdx i ∨ x = d := by
    intro x hx
    obtain ⟨j, hj, rfl⟩ := List.mem_iff_getElem.mp hx
    by_cases hij : j = i
    · subst hij
      exact .inr (Option.some.inj ((List.getElem?_eq_getElem hj).symm.trans hd))
    · exact .inl (List.mem_eraseIdx_iff_getElem.mpr ⟨j, hj, hij, rfl⟩)
  refine ⟨h.tasks, h.reached, h.staged, h.told, fun r k hmem => h.delivered r k (hless hmem),
    h.failed, fun r err hmem => h.telling r err (hless hmem), h.handed, h.returned,
    fun c k hc => ?_, fun k a r ha hr hzero hstaged => ?_, h.untouched,
    fun k hmem => h.retiring k (hless hmem)⟩
  · obtain ⟨a, ha, hac, hwhere⟩ := h.present c k hc
    have hnot : .remove k ≠ d := fun heq => hremove k heq.symm c hc
    refine ⟨a, ha, hac, fun r hr hzero => ?_⟩
    rcases hwhere r hr hzero with hheld | hmem | hmem
    · exact .inl hheld
    · rcases hleft hmem with hmem | heq
      · exact .inr (.inl hmem)
      · exact .inr (.inr ((hleft (hretire k heq.symm).1).resolve_right hnot))
    · exact .inr (.inr ((hleft hmem).resolve_right hnot))
  · rcases h.retired k a r ha hr hzero hstaged with hheld | hmem | hstate
    · exact .inl hheld
    · rcases hleft hmem with hmem | heq
      · exact .inr (.inl hmem)
      · exact .inr (.inr ((hretire k heq.symm).2 a ha))
    · exact .inr (.inr hstate)

/-! ### What each operation keeps -/

variable {p : PendingOpenRequest} {t : RequestTask}

/-- What the end of a request leaves to be done. -/
theorem mem_ending {ds : List Duty} (hds : ∀ d ∈ ds, ∃ err, d = .tell requestId err) (k : Nat) :
    .retire k ∈ (p.stagedEntry.map Duty.retire).toList ++ ds ↔ p.stagedEntry = some k := by
  rw [List.mem_append, Option.mem_toList, Option.map_eq_some_iff]
  constructor
  · rintro (⟨k', hk', heq⟩ | hk)
    · cases heq
      exact hk'
    · obtain ⟨err, heq⟩ := hds _ hk
      cases heq
  · exact fun hk => .inl ⟨k, hk, rfl⟩

/-- Nothing is delivered at the end of a request, and only its own call is told of it. -/
theorem ending_cases {ds : List Duty} (hds : ∀ d ∈ ds, ∃ err, d = .tell requestId err) {d : Duty}
    (hd : d ∈ (p.stagedEntry.map Duty.retire).toList ++ ds) :
    (∃ k, d = .retire k) ∨ ∃ err, d = .tell requestId err := by
  rcases List.mem_append.mp hd with hmem | hmem
  · obtain ⟨k, -, heq⟩ := Option.map_eq_some_iff.mp (Option.mem_toList.mp hmem)
    exact .inl ⟨k, heq.symm⟩
  · exact .inr (hds d hmem)

/-- A sender that is left is told of the end. -/
theorem mem_tell {b : Bool} {err : P2pError} :
    ∀ d ∈ if b then [Duty.tell requestId err] else [], ∃ err, d = .tell requestId err := by
  intro d hd
  cases b with
  | true => exact ⟨err, List.mem_singleton.mp hd⟩
  | false => cases hd

theorem Inv.endPending (h : Inv s) (requestId : TcpRequestId) {after : PendingOpenRequest → List Duty}
    (hafter : ∀ p, ∀ d ∈ after p, ∃ err, d = .tell requestId err) :
    Inv (s.endPending requestId after) := by
  unfold ReverseOpens.endPending
  cases hp : s.pendingOpenRequests.lookup requestId with
  | none => exact h
  | some p =>
    simp only [List.append_assoc]
    refine h.endRequests (fun r q hq => (Table.lookup_erase_some.mp hq).2) ?_ ?_ ?_ ?_
    · intro r q hq hnone k hk
      by_cases hr : r = requestId
      · subst hr
        cases hp.symm.trans hq
        exact (mem_ending (hafter p) k).mpr hk
      · cases hnone.symm.trans (Table.lookup_erase_some.mpr ⟨hr, hq⟩)
    · intro r k hmem
      rcases ending_cases (hafter p) hmem with ⟨k', heq⟩ | ⟨err, heq⟩ <;> cases heq
    · intro r err hmem
      rcases ending_cases (hafter p) hmem with ⟨k, heq⟩ | ⟨err', heq⟩
      · cases heq
      · cases heq
        exact ⟨⟨p, hp⟩, AList.lookup_erase _ _⟩
    · intro k hk
      exact ⟨requestId, p, hp, (mem_ending (hafter p) k).mp hk, AList.lookup_erase _ _⟩

theorem Inv.fail (h : Inv s) (requestId : TcpRequestId) (err : P2pError) :
    Inv (s.fail requestId err) := h.endPending requestId fun _ => mem_tell

theorem Inv.cancel (h : Inv s) (requestId : TcpRequestId) : Inv (s.cancel requestId) :=
  h.endPending requestId fun _ _ hd => absurd hd List.not_mem_nil

/-- A call of `request_remote_data_connection` is still the one it was. -/
theorem cancel_requests (s : ReverseOpens) (requestId : TcpRequestId) :
    (s.cancel requestId).requests = s.requests := by
  unfold cancel ReverseOpens.endPending
  cases s.pendingOpenRequests.lookup requestId with
  | none => rfl
  | some p => rfl

theorem cancel_lookup (s : ReverseOpens) (requestId : TcpRequestId) :
    (s.cancel requestId).pendingOpenRequests.lookup requestId = none := by
  unfold cancel ReverseOpens.endPending
  cases hp : s.pendingOpenRequests.lookup requestId with
  | none => exact hp
  | some p => exact AList.lookup_erase _ _

theorem Inv.request (h : Inv s) (requestId : TcpRequestId) (opener : Nat) :
    Inv (s.request requestId opener) := by
  unfold ReverseOpens.request
  cases hnew : s.requests requestId with
  | some t => exact h
  | none =>
    have hold : ∀ {r t}, s.requests r = some t → r ≠ requestId := by
      rintro r t ht rfl
      cases hnew.symm.trans ht
    have hkept : ∀ {r t u}, s.requests r = some t →
        (s.setRequest requestId u).requests r = some t := fun ht =>
      (setRequest_ne (hold ht)).trans ht
    have hgone : ∀ {r t q}, s.requests r = some t → s.pendingOpenRequests.lookup r = none →
        (s.pendingOpenRequests.insert requestId q).lookup r = none := fun ht hr =>
      (AList.lookup_insert_ne (hold ht)).trans hr
    have hcompleted : ∀ {r k u q}, s.Completed r k →
        ((s.setRequest requestId u).setPending requestId q).Completed r k := by
      rintro r k u q ⟨⟨t, ht⟩, a, ha, har, hp⟩
      exact ⟨⟨t, hkept ht⟩, a, ha, har, fun p hnow =>
        hp p ((AList.lookup_insert_ne (hold ht)).symm.trans hnow)⟩
    have hholds : ∀ {r k q}, s.Holds r k →
        ∃ q', (s.pendingOpenRequests.insert requestId q).lookup r = some q' ∧
          q'.stagedEntry = some k := by
      rintro r k q ⟨p, hp, hk⟩
      obtain ⟨t, ht, -⟩ := h.tasks r p hp
      exact ⟨p, (AList.lookup_insert_ne (hold ht)).trans hp, hk⟩
    refine ⟨fun r p hp => ?_, fun r p hp => ?_, fun r p k hp hk => ?_,
      fun r t k ht htell => ?_, fun r k hmem => hcompleted (h.delivered r k hmem),
      fun r t err ht hmail => ?_, fun r err hmem => ?_, fun k a ha hpos => ?_,
      fun r t k ht hdone => ?_, fun c k hc => ?_, fun k a r ha hr hzero hstaged => ?_, h.untouched,
      fun k hk => ?_⟩
    · rcases Table.lookup_insert_some.mp hp with ⟨rfl, -⟩ | ⟨-, hp⟩
      · exact ⟨_, setRequest_self, rfl⟩
      · exact (h.tasks r p hp).imp fun t ht => ⟨hkept ht.1, ht.2⟩
    · rcases Table.lookup_insert_some.mp hp with ⟨-, rfl⟩ | ⟨-, hp⟩
      · exact ⟨[], rfl⟩
      · exact h.reached r p hp
    · rcases Table.lookup_insert_some.mp hp with ⟨-, rfl⟩ | ⟨-, hp⟩
      · cases hk
      · exact h.staged r p k hp hk
    · rcases setRequest_some ht with ⟨-, rfl⟩ | ⟨-, ht⟩
      · rcases htell with htell | htell <;> cases htell
      · exact hcompleted (h.told r t k ht htell)
    · rcases setRequest_some ht with ⟨-, rfl⟩ | ⟨-, ht⟩
      · cases hmail
      · exact hgone ht (h.failed r t err ht hmail)
    · obtain ⟨hr, t, ht⟩ := h.telling r err hmem
      exact ⟨hgone ht hr, t, hkept ht⟩
    · obtain ⟨hone, r, t, har, ht, hdone⟩ := h.handed k a ha hpos
      exact ⟨hone, r, t, har, hkept ht, hdone⟩
    · rcases setRequest_some ht with ⟨-, rfl⟩ | ⟨-, ht⟩
      · cases hdone
      · exact h.returned r t k ht hdone
    · obtain ⟨a, ha, hac, hwhere⟩ := h.present c k hc
      exact ⟨a, ha, hac, fun r hr hzero => (hwhere r hr hzero).imp hholds id⟩
    · exact (h.retired k a r ha hr hzero hstaged).imp hholds id
    · obtain ⟨a, r, t, ha, har, hzero, ht, hover⟩ := h.retiring k hk
      exact ⟨a, r, t, ha, har, hzero, hkept ht, hgone ht hover⟩

/-- A call that goes on. -/
theorem Inv.goOn {phase : RequestPhase} (h : Inv s) (ht : s.requests requestId = some t)
    (hopen : t.phase.isOver = false) (hgoes : phase.isOver = false)
    (hphase : ∀ k, phase = .received k → t.mailbox = some (.ok k)) :
    Inv (s.setRequest requestId { t with phase }) := by
  refine h.setRequest ht hopen (fun hover => ?_) (fun k htell => h.told requestId t k ht (.inl ?_))
    (fun err hmail => h.failed requestId t err ht hmail) fun k => RequestPhase.ne_done hgoes (.ok k)
  · cases hgoes.symm.trans hover
  · exact htell.elim id (hphase k)

/-- A call that is over, without an entry; so is its request. -/
theorem Inv.finish {phase : RequestPhase} (h : Inv s) (ht : s.requests requestId = some t)
    (hopen : t.phase.isOver = false) (hgone : s.pendingOpenRequests.lookup requestId = none)
    (hover : phase.isOver = true) (hfails : ∀ k, phase ≠ .done (.ok k)) :
    Inv (s.setRequest requestId { t with phase }) := by
  refine h.setRequest ht hopen (fun _ => hgone) (fun k htell => h.told requestId t k ht (.inl ?_))
    (fun _ _ => hgone) hfails
  refine htell.resolve_right fun hreceived => ?_
  cases hreceived
  cases hover

theorem Inv.sent (h : Inv s) (ht : s.requests requestId = some t) (failure : Option P2pError) :
    Inv (s.sent requestId t failure) := by
  unfold ReverseOpens.sent
  split
  · next hphase => exact h.goOn ht (by rw [hphase]; rfl) rfl (by simp)
  · next hphase => exact h.goOn ht (by rw [hphase]; rfl) rfl (by simp)
  · exact h

theorem Inv.receive (h : Inv s) (ht : s.requests requestId = some t) :
    Inv (s.receive requestId t) := by
  unfold ReverseOpens.receive
  split
  · next k hphase hmail =>
    refine h.goOn ht (by rw [hphase]; rfl) rfl fun k' hk' => ?_
    cases hk'
    exact hmail
  · next err hphase hmail =>
    have hgone := h.failed requestId t err ht hmail
    exact h.finish ht (by rw [hphase]; rfl) hgone rfl (by simp)
  · exact h

theorem Inv.expire (h : Inv s) (ht : s.requests requestId = some t) :
    Inv (s.expire requestId t) := by
  unfold ReverseOpens.expire
  split
  · next hphase _ => exact h.goOn ht (by rw [hphase]; rfl) rfl (by simp)
  · exact h

theorem Inv.waiterDropped (h : Inv s) (ht : s.requests requestId = some t) :
    Inv (s.waiterDropped requestId t) := by
  unfold ReverseOpens.waiterDropped
  split
  · next hphase _ =>
    split
    · exact h
    · exact h.goOn ht (by rw [hphase]; rfl) rfl (by simp)
  · exact h

theorem Inv.drop (h : Inv s) (ht : s.requests requestId = some t) :
    Inv (s.drop requestId t) := by
  unfold ReverseOpens.drop
  by_cases hlistens : t.listens = true
  · rw [if_pos hlistens]
    exact h.goOn ht (RequestTask.open_of_listens hlistens).1 rfl (by simp)
  · rw [if_neg hlistens]
    exact h

theorem Inv.cleanup (h : Inv s) (ht : s.requests requestId = some t) :
    Inv (s.cleanup requestId t) := by
  have ht' : (s.cancel requestId).requests requestId = some t := by rw [cancel_requests, ht]
  have hgone := cancel_lookup s requestId
  unfold ReverseOpens.cleanup
  split
  · next hphase => exact (h.cancel requestId).finish ht' (by rw [hphase]; rfl) hgone rfl (by simp)
  · next hphase => exact (h.cancel requestId).finish ht' (by rw [hphase]; rfl) hgone rfl (by simp)
  · exact h

theorem Inv.send {s' : ReverseOpens} {result : P2pResult Nat} (h : Inv s)
    (hcompleted : ∀ k, result = .ok k → s.Completed requestId k)
    (hfailed : ∀ err, result = .error err → s.pendingOpenRequests.lookup requestId = none)
    (hs : s.send requestId result = some s') : Inv s' := by
  unfold ReverseOpens.send at hs
  split at hs
  · next t ht =>
    by_cases hlistens : t.listens = true
    · rw [if_pos hlistens] at hs
      cases hs
      obtain ⟨hopen, hwait⟩ := RequestTask.open_of_listens hlistens
      refine h.setRequest ht hopen (fun hover => ?_) (fun k htell => ?_) (fun err hmail => ?_)
        fun k => RequestPhase.ne_done hopen (.ok k)
      · cases hopen.symm.trans hover
      · rcases htell with htell | htell
        · exact hcompleted k (Option.some.inj htell)
        · exact absurd htell (hwait k)
      · exact hfailed err (Option.some.inj hmail)
    · rw [if_neg hlistens] at hs
      cases hs
  · cases hs

/-- `consume_completed_pending_open_request` finds the entry staged. -/
theorem canConsume_cases (hcan : s.canConsume requestId k a = true) :
    ∃ p, s.pendingOpenRequests.lookup requestId = some p ∧ p.stagedEntry = some k := by
  unfold canConsume at hcan
  cases hp : s.pendingOpenRequests.lookup requestId with
  | none =>
    rw [hp] at hcan
    cases hcan
  | some p =>
    rw [hp] at hcan
    simp only [Bool.and_eq_true, decide_eq_true_eq] at hcan
    exact ⟨p, rfl, hcan.2.2⟩

/-- It takes what the request has completed with, unless the request is over. -/
theorem Completed.lookup_none (h : s.Completed requestId k) (ha : s.arrivals k = some a)
    (hcan : s.canConsume requestId k a ≠ true) : s.pendingOpenRequests.lookup requestId = none := by
  obtain ⟨-, b, hb, -, hcompleted⟩ := h
  cases ha.symm.trans hb
  refine Option.eq_none_iff_forall_not_mem.mpr fun p hp => hcan ?_
  obtain ⟨hsender, hk, -, hconn⟩ := hcompleted p hp
  have hlookup : s.pendingOpenRequests.lookup requestId = some p := hp
  simp [canConsume, hlookup, hsender, hk, hconn]

/-- The request is over, and its entry is handed over. -/
theorem Inv.handOver (h : Inv s) (ht : s.requests requestId = some t)
    (hphase : t.phase = .received k) (ha : s.arrivals k = some a)
    (hp : s.pendingOpenRequests.lookup requestId = some p) (hk : p.stagedEntry = some k) :
    Inv { (s.setRequest requestId { t with phase := .done (.ok k) }).setArrival k
        { a with handed := a.handed + 1 } with
      pendingOpenRequests := s.pendingOpenRequests.erase requestId } := by
  obtain ⟨a', ha', har, -, hzero, -⟩ := h.staged requestId p k hp hk
  cases ha.symm.trans ha'
  -- what else is for a request is for another one, or is not staged
  have hholds : ∀ {r k'}, k' ≠ k → s.Holds r k' → ∃ q,
      (s.pendingOpenRequests.erase requestId).lookup r = some q ∧ q.stagedEntry = some k' := by
    rintro r k' hne ⟨q, hq, hk'⟩
    refine ⟨q, Table.lookup_erase_some.mpr ⟨?_, hq⟩, hk'⟩
    rintro rfl
    cases hp.symm.trans hq
    exact hne (Option.some.inj (hk'.symm.trans hk))
  have hnone : ∀ {r}, s.pendingOpenRequests.lookup r = none ∨ r = requestId →
      (s.pendingOpenRequests.erase requestId).lookup r = none := by
    rintro r (hr | rfl)
    · refine Option.eq_none_iff_forall_not_mem.mpr fun q hq => ?_
      cases hr.symm.trans (Table.lookup_erase_some.mp hq).2
    · exact AList.lookup_erase _ _
  have hother : ∀ {r k' b}, r ≠ requestId → s.arrivals k' = some b → b.openRequestId = some r →
      (s.setArrival k { a with handed := a.handed + 1 }).arrivals k' = some b := by
    intro r k' b hr hb hbr
    refine (setArrival_ne ?_).trans hb
    rintro rfl
    cases ha.symm.trans hb
    exact hr (Option.some.inj (hbr.symm.trans har))
  have hcompleted : ∀ {r k'}, s.Completed r k' →
      Completed { (s.setRequest requestId { t with phase := .done (.ok k) }).setArrival k
          { a with handed := a.handed + 1 } with
        pendingOpenRequests := s.pendingOpenRequests.erase requestId } r k' := by
    intro r k' hk'
    have hset : ((s.setRequest requestId { t with phase := .done (.ok k) }).setArrival k
        { a with handed := a.handed + 1 }).Completed r k' := (hk'.setRequest _).setArrival ha rfl rfl
    exact hset.mono fun r q hq => (Table.lookup_erase_some.mp hq).2
  refine ⟨fun r q hq => ?_, fun r q hq => h.reached r q (Table.lookup_erase_some.mp hq).2,
    fun r q k' hq hk' => ?_, fun r u k' hu htell => hcompleted ?_,
    fun r k' hmem => hcompleted (h.delivered r k' hmem), fun r u err hu hmail => hnone ?_,
    fun r err hmem => (h.telling r err hmem).imp (fun hr => hnone (.inl hr)) exists_setRequest,
    fun k' b hb hpos => ?_, fun r u k' hu hdone => ?_, fun c k' hc => ?_,
    fun k' b r hb hr hbzero hbstaged => ?_, fun k' b r hb hr hbzero => ?_, fun k' hmem => ?_⟩
  · obtain ⟨hr, hq⟩ := Table.lookup_erase_some.mp hq
    exact (h.tasks r q hq).imp fun u hu => ⟨(setRequest_ne hr).trans hu.1, hu.2⟩
  · obtain ⟨hr, hq⟩ := Table.lookup_erase_some.mp hq
    obtain ⟨b, hb, hbr, hrest⟩ := h.staged r q k' hq hk'
    exact ⟨b, hother hr hb hbr, hbr, hrest⟩
  · rcases setRequest_some hu with ⟨rfl, rfl⟩ | ⟨-, hu⟩
    · rcases htell with htell | htell
      · exact h.told r t k' ht (.inl htell)
      · cases htell
    · exact h.told r u k' hu htell
  · rcases setRequest_some hu with ⟨rfl, -⟩ | ⟨-, hu⟩
    · exact .inr rfl
    · exact .inl (h.failed r u err hu hmail)
  · rcases setArrival_some hb with ⟨rfl, rfl⟩ | ⟨-, hb⟩
    · exact ⟨congrArg (· + 1) hzero, requestId, _, har, setRequest_self, rfl⟩
    · obtain ⟨hone, r, u, hbr, hu, hdone⟩ := h.handed k' b hb hpos
      have hr : r ≠ requestId := by
        rintro rfl
        cases ht.symm.trans hu
        cases hphase.symm.trans hdone
      exact ⟨hone, r, u, hbr, (setRequest_ne hr).trans hu, hdone⟩
  · rcases setRequest_some hu with ⟨rfl, rfl⟩ | ⟨hr, hu⟩
    · cases hdone
      exact ⟨_, setArrival_self, har, congrArg (· + 1) hzero⟩
    · obtain ⟨b, hb, hbr, hone⟩ := h.returned r u k' hu hdone
      exact ⟨b, hother hr hb hbr, hbr, hone⟩
  · obtain ⟨b, hb, hbc, hwhere⟩ := h.present c k' hc
    by_cases hk' : k' = k
    · subst hk'
      cases ha.symm.trans hb
      refine ⟨_, setArrival_self, hbc, fun r _ hnow => ?_⟩
      cases hnow
    · exact ⟨b, (setArrival_ne hk').trans hb, hbc, fun r hr hbzero =>
        (hwhere r hr hbzero).imp (hholds hk') id⟩
  · rcases setArrival_some hb with ⟨-, rfl⟩ | ⟨hk', hb⟩
    · cases hbzero
    · exact (h.retired k' b r hb hr hbzero hbstaged).imp (hholds hk') id
  · rcases setArrival_some hb with ⟨-, rfl⟩ | ⟨-, hb⟩
    · cases hbzero
    · exact h.untouched k' b r hb hr hbzero
  · obtain ⟨b, r, u, hb, hbr, hbzero, hu, hover⟩ := h.retiring k' hmem
    have hr : r ≠ requestId := by
      rintro rfl
      cases hp.symm.trans hover
    exact ⟨b, r, u, hother hr hb hbr, hbr, hbzero, (setRequest_ne hr).trans hu, hnone (.inl hover)⟩

theorem Inv.consume (h : Inv s) (ht : s.requests requestId = some t) :
    Inv (s.consume requestId t) := by
  unfold ReverseOpens.consume
  split
  · next k hphase =>
    split
    · next a ha =>
      by_cases hcan : s.canConsume requestId k a = true
      · rw [if_pos hcan]
        obtain ⟨p, hp, hk⟩ := canConsume_cases hcan
        exact (h.handOver ht hphase ha hp hk).other s.closed s.copies _
      · rw [if_neg hcan]
        have hcompleted := h.told requestId t k ht (.inr hphase)
        have hgone := hcompleted.lookup_none ha hcan
        obtain ⟨-, b, hb, har, -⟩ := hcompleted
        cases ha.symm.trans hb
        have hzero : a.handed = 0 := by
          by_contra hpos
          obtain ⟨-, r, u, har', hu, hdone⟩ := h.handed k a ha (Nat.pos_of_ne_zero hpos)
          cases har.symm.trans har'
          cases ht.symm.trans hu
          cases hphase.symm.trans hdone
        refine (h.finish ht (by rw [hphase]; rfl) hgone rfl (by simp)).addDuties [.retire k]
          (by simp) (by simp) ?_
        intro k' hk'
        cases List.mem_singleton.mp hk'
        exact ⟨a, requestId, _, ha, har, hzero, setRequest_self, hgone⟩
    · exact h
  · exact h

/-- The correlation does not forget a connection that has come. -/
theorem apply_arrivalConnId (r : ReverseOpenCorrelation) (e : ReverseOpenCorrelationEvent)
    (h : r.arrivalConnId = some connId) : (r.apply e).1.arrivalConnId = some connId := by
  cases hterminal : r.terminal with
  | true => rwa [(ReverseOpenCorrelation.apply_of_terminal hterminal e).1]
  | false =>
    have htakes := ReverseOpenCorrelation.apply_takes hterminal e
    generalize (r.apply e).1 = r', (r.apply e).2 = outcome at htakes
    cases htakes with
    | arrives hfirst => cases h.symm.trans hfirst
    | _ => exact h

/-- It completes with the connection that has come. -/
theorem arrivalConnId_of_complete {events : List ReverseOpenCorrelationEvent}
    {e : ReverseOpenCorrelationEvent}
    (h : ((ReverseOpenCorrelation.run .new events).apply e).2 = .complete connId) :
    (ReverseOpenCorrelation.run .new events).arrivalConnId = some connId := by
  have hopen : (ReverseOpenCorrelation.run .new events).terminal = false := by
    by_contra hend
    rw [Bool.not_eq_false] at hend
    exact (ReverseOpenCorrelation.apply_of_terminal hend e).2 connId h
  have hcompletes := ReverseOpenCorrelation.apply_complete_iff.mp h
  exact ((ReverseOpenCorrelation.tracks_run hopen).arrived connId).mpr hcompletes.arrived

/-- It waits for more after the first connection only. -/
theorem arrivalConnId_of_wait {r : ReverseOpenCorrelation}
    (h : (r.apply (.arrival connId)).2 = .wait) :
    r.arrivalConnId = none ∧ (r.apply (.arrival connId)).1.arrivalConnId = some connId := by
  unfold ReverseOpenCorrelation.apply at h ⊢
  by_cases hterminal : r.terminal = true
  · rw [if_pos hterminal] at h
    cases h
  rw [if_neg hterminal] at h ⊢
  cases hrecorded : r.arrivalConnId with
  | some recorded =>
    simp only [hrecorded] at h
    cases h
  | none =>
    simp only [hrecorded] at h ⊢
    by_cases hother : r.responseConnId.any (· ≠ connId) = true
    · rw [if_pos hother] at h
      cases h
    · rw [if_neg hother]
      exact ⟨trivial, rfl⟩

/-- An event of the request. -/
theorem Inv.correlate (h : Inv s) (hp : s.pendingOpenRequests.lookup requestId = some p)
    (e : ReverseOpenCorrelationEvent) (sender : Bool) (hsender : p.sender = false → sender = false) :
    Inv (s.setPending requestId { p with correlation := (p.correlation.apply e).1, sender }) := by
  obtain ⟨events, hreached⟩ := h.reached requestId p hp
  refine h.setPending hp rfl ⟨events ++ [e], ?_⟩ (fun c => apply_arrivalConnId p.correlation e)
    fun hnone hterminal => ⟨hsender hnone, (ReverseOpenCorrelation.apply_of_terminal hterminal e).1⟩
  rw [ReverseOpenCorrelation.run_concat, ← hreached]

/-- The last event of the request, with the entry that is staged for it. -/
theorem Inv.completed (h : Inv s) (hp : s.pendingOpenRequests.lookup requestId = some p)
    (hk : p.stagedEntry = some k) {e : ReverseOpenCorrelationEvent}
    (hcomplete : (p.correlation.apply e).2 = .complete connId) :
    (s.setPending requestId
      { p with correlation := (p.correlation.apply e).1, sender := false }).Completed requestId k := by
  obtain ⟨t, ht, -⟩ := h.tasks requestId p hp
  obtain ⟨a, ha, har, -, -, harrived⟩ := h.staged requestId p k hp hk
  obtain ⟨events, hreached⟩ := h.reached requestId p hp
  have hconn : p.correlation.arrivalConnId = some connId := by
    rw [hreached] at hcomplete ⊢
    exact arrivalConnId_of_complete hcomplete
  obtain ⟨hterminal, hcompleted⟩ := ReverseOpenCorrelation.completed_of_complete hcomplete
  refine ⟨⟨t, ht⟩, a, ha, har, fun q hq => ?_⟩
  cases (AList.lookup_insert _).symm.trans hq
  exact ⟨rfl, hk, hterminal, by rw [hcompleted, ← hconn, harrived]⟩

theorem Inv.answered (h : Inv s) (requestId : TcpRequestId) (connId : TcpConnId) :
    Inv (s.answered requestId connId) := by
  unfold ReverseOpens.answered
  cases hp : s.pendingOpenRequests.lookup requestId with
  | none => exact h
  | some p =>
    have hsame := h.correlate hp (.successResponse connId) p.sender id
    have hused := h.correlate hp (.successResponse connId) false fun _ => rfl
    dsimp only
    split
    · exact hsame
    · exact hsame
    · next hcomplete =>
      split
      · next k _ hk =>
        refine hused.addDuties [.deliver requestId k] (fun r k' hmem => ?_) (by simp) (by simp)
        cases List.mem_singleton.mp hmem
        exact h.completed hp hk hcomplete
      · exact hused.fail requestId _
    · exact hsame.fail requestId _
    · exact hsame.fail requestId _

theorem Inv.response (h : Inv s) (requestId : TcpRequestId) (result : Protocol.OpenDataConnRespResult)
    (connId : Option TcpConnId) : Inv (s.response requestId result connId) := by
  unfold ReverseOpens.response
  split
  · exact h.answered requestId _
  · exact h
  · exact h
  · exact h.fail requestId _

theorem Inv.arrive (h : Inv s) (k : Nat) (role : TcpConnectionRole) (connId : Option TcpConnId)
    (openRequestId : Option TcpRequestId) : Inv (s.arrive k role connId openRequestId) := by
  unfold ReverseOpens.arrive
  cases hnew : s.arrivals k with
  | some a => exact h
  | none => exact h.newArrival hnew rfl rfl rfl (.inl rfl)

theorem Inv.accept (h : Inv s) (ha : s.arrivals k = some a) : Inv (s.accept k a) := by
  unfold ReverseOpens.accept
  split
  · exact h.setArrival ha (a.follows_phase _)
  · exact h

theorem Inv.failing (h : Inv s) (ha : s.arrivals k = some a) (phase : IncomingPhase)
    (requestId : TcpRequestId) (err : P2pError) : Inv (s.failing k a phase requestId err) :=
  (h.setArrival ha (a.follows_phase phase)).addDuties _ (by simp) (by simp) (by simp)

/-- The entry is staged for the request that it names. -/
theorem Inv.stageEntry (h : Inv s) (ha : s.arrivals k = some a)
    (hr : a.openRequestId = some requestId)
    (hp : s.pendingOpenRequests.lookup requestId = some p) (hnone : p.stagedEntry = none)
    {correlation : ReverseOpenCorrelation}
    (hreached : ∃ events, correlation = ReverseOpenCorrelation.run .new events)
    (harrived : correlation.arrivalConnId = some a.connId) :
    Inv ((s.setPending requestId { p with correlation, stagedEntry := some k }).setArrival k
      { a with phase := .writing, staged := true }) := by
  have hzero : a.handed = 0 := by
    by_contra hpos
    obtain ⟨-, r, t, har, ht, hdone⟩ := h.handed k a ha (Nat.pos_of_ne_zero hpos)
    cases hr.symm.trans har
    obtain ⟨u, hu, hopen⟩ := h.tasks requestId p hp
    cases ht.symm.trans hu
    exact RequestPhase.ne_done hopen _ hdone
  have hkeeps : a.Keeps { a with phase := .writing, staged := true } :=
    ⟨rfl, rfl, rfl, fun _ => rfl⟩
  -- nothing was staged for the request before
  have hholds : ∀ {r k'}, s.Holds r k' →
      (s.setPending requestId { p with correlation, stagedEntry := some k }).Holds r k' :=
    fun hheld => hheld.setPending hp fun hk' => by cases hnone.symm.trans hk'
  have hcompleted : ∀ {r k'}, s.Completed r k' →
      ((s.setPending requestId { p with correlation, stagedEntry := some k }).setArrival k
        { a with phase := .writing, staged := true }).Completed r k' := fun hk' =>
    (hk'.setPending hp fun _ _ hsome => by
      rw [hnone] at hsome
      cases hsome).setArrival ha rfl rfl
  refine ⟨fun r q hq => ?_, fun r q hq => ?_, fun r q k' hq hk' => ?_,
    fun r t k' ht htell => hcompleted (h.told r t k' ht htell),
    fun r k' hmem => hcompleted (h.delivered r k' hmem),
    fun r t err ht hmail => setPending_none hp (h.failed r t err ht hmail),
    fun r err hmem => (h.telling r err hmem).imp (setPending_none hp) id,
    fun k' b hb hpos => ?_,
    fun r t k' ht hdone => ?_, fun c k' hc => ?_, fun k' b r hb hbr hbzero hbstaged => ?_,
    fun k' b r hb hbr hbzero => ?_, fun k' hmem => ?_⟩
  · rcases Table.lookup_insert_some.mp hq with ⟨rfl, -⟩ | ⟨-, hq⟩
    · exact h.tasks r p hp
    · exact h.tasks r q hq
  · rcases Table.lookup_insert_some.mp hq with ⟨-, rfl⟩ | ⟨-, hq⟩
    · exact hreached
    · exact h.reached r q hq
  · rcases Table.lookup_insert_some.mp hq with ⟨rfl, rfl⟩ | ⟨-, hq⟩
    · cases hk'
      exact ⟨_, setArrival_self, hr, rfl, hzero, harrived⟩
    · obtain ⟨b, hb, hbr, hbs, hbzero, hbconn⟩ := h.staged r q k' hq hk'
      obtain ⟨b', hb', hkept⟩ := keeps_setArrival ha hkeeps hb
      exact ⟨b', hb', hkept.openRequestId.trans hbr, hkept.staged hbs, hkept.handed.trans hbzero,
        hkept.connId ▸ hbconn⟩
  · rcases setArrival_some hb with ⟨-, rfl⟩ | ⟨-, hb⟩
    · exact absurd hzero hpos.ne'
    · exact h.handed k' b hb hpos
  · obtain ⟨b, hb, hbr, hone⟩ := h.returned r t k' ht hdone
    obtain ⟨b', hb', hkept⟩ := keeps_setArrival ha hkeeps hb
    exact ⟨b', hb', hkept.openRequestId.trans hbr, hkept.handed.trans hone⟩
  · obtain ⟨b, hb, hbc, hwhere⟩ := h.present c k' hc
    obtain ⟨b', hb', hkept⟩ := keeps_setArrival ha hkeeps hb
    refine ⟨b', hb', hkept.connId.trans hbc, fun r hbr hbzero => ?_⟩
    exact (hwhere r (hkept.openRequestId.symm.trans hbr)
      (hkept.handed.symm.trans hbzero)).imp hholds id
  · rcases setArrival_some hb with ⟨rfl, rfl⟩ | ⟨-, hb⟩
    · cases hr.symm.trans hbr
      exact .inl ⟨_, AList.lookup_insert _, rfl⟩
    · exact (h.retired k' b r hb hbr hbzero hbstaged).imp hholds id
  · rcases setArrival_some hb with ⟨rfl, rfl⟩ | ⟨-, hb⟩
    · exact h.untouched k' a r ha hbr hbzero
    · exact h.untouched k' b r hb hbr hbzero
  · obtain ⟨b, r, t, hb, hbr, hbzero, ht, hgone⟩ := h.retiring k' hmem
    obtain ⟨b', hb', hkept⟩ := keeps_setArrival ha hkeeps hb
    exact ⟨b', r, t, hb', hkept.openRequestId.trans hbr, hkept.handed.trans hbzero, ht,
      setPending_none hp hgone⟩

/-- An event of the connection: it is staged, or refused. -/
theorem Inv.stage (h : Inv s) (debug : P2pError → String) (ha : s.arrivals k = some a) :
    Inv (s.stage debug k a) := by
  unfold ReverseOpens.stage
  split
  · next requestId _ hr =>
    cases hp : s.pendingOpenRequests.lookup requestId with
    | none => exact h.setArrival ha (a.follows_phase _)
    | some p =>
      have hsame := h.correlate hp (.arrival a.connId) p.sender id
      dsimp only
      split
      · next hwait =>
        obtain ⟨hfirst, hrecord⟩ := arrivalConnId_of_wait hwait
        have hnone : p.stagedEntry = none := by
          refine Option.eq_none_iff_forall_not_mem.mpr fun k' hk' => ?_
          obtain ⟨b, -, -, -, -, hconn⟩ := h.staged requestId p k' hp hk'
          cases hfirst.symm.trans hconn
        obtain ⟨events, hreached⟩ := h.reached requestId p hp
        refine h.stageEntry ha hr hp hnone
          ⟨events ++ [ReverseOpenCorrelationEvent.arrival a.connId], ?_⟩ hrecord
        rw [ReverseOpenCorrelation.run_concat, ← hreached]
      · exact hsame.failing ha _ requestId _
      · exact hsame.failing ha _ requestId _
      · exact hsame.failing ha _ requestId _
      · exact hsame.failing ha _ requestId _
  · exact h

theorem Inv.write (h : Inv s) (debug : P2pError → String) (ha : s.arrivals k = some a)
    (failure : Option P2pError) : Inv (s.write debug k a failure) := by
  have hphase := fun phase => h.setArrival ha (a.follows_phase phase)
  unfold ReverseOpens.write
  split
  · exact hphase _
  · exact hphase _
  · exact hphase _
  · split
    · exact h.failing ha _ _ _
    · exact hphase _
  · exact h

/-- The end of `on_incoming_data_connection`. -/
theorem Inv.enter (h : Inv s) (ha : s.arrivals k = some a) : Inv (s.enter k a) := by
  have hphase := fun phase => h.setArrival ha (a.follows_phase phase)
  unfold ReverseOpens.enter
  split
  · dsimp only
    split
    · next hr =>
      split
      · exact hphase _
      · exact (hphase _).insertEntry setArrival_self rfl (fun r har => by cases hr.symm.trans har)
    · next requestId hr =>
      cases hp : s.pendingOpenRequests.lookup requestId with
      | none => exact h.failing ha _ requestId _
      | some p =>
        dsimp only
        split
        · exact h.failing ha _ requestId _
        · next hstaged =>
          split
          · exact h.failing ha _ requestId _
          · have hheld : ∀ r, a.openRequestId = some r → s.Holds r k := by
              intro r har
              cases hr.symm.trans har
              exact ⟨p, hp, not_not.mp hstaged⟩
            have hin := h.insertEntry ha rfl hheld
            have hsame := hin.correlate hp (.arrivalRegistered a.connId) p.sender id
            have hused := hin.correlate hp (.arrivalRegistered a.connId) false fun _ => rfl
            have hphased := a.follows_phase (.registered (.ok ()))
            split
            · exact hsame.setArrival ha hphased
            · exact hsame.setArrival ha hphased
            · next hcomplete =>
              split
              · refine (hused.setArrival ha hphased).addDuties [.deliver requestId k]
                  (fun r k' hmem => ?_) (by simp) (by simp)
                cases List.mem_singleton.mp hmem
                exact (hin.completed hp (not_not.mp hstaged) hcomplete).setArrival ha rfl rfl
              · exact hused.failing ha _ requestId _
            · exact hsame.failing ha _ requestId _
            · exact hsame.failing ha _ requestId _
  · exact h

theorem Inv.create (h : Inv s) (k : Nat) (connId : TcpConnId) (firstClaimLocal : Bool) :
    Inv (s.create k connId firstClaimLocal) := by
  unfold ReverseOpens.create
  split
  · next hnew _ =>
    have hin := h.newArrival (a := .created connId firstClaimLocal) hnew rfl rfl rfl (.inl rfl)
    exact hin.insertEntry setArrival_self rfl fun r hr => by cases hr
  · exact h

theorem Inv.find (h : Inv s) (opener : Nat) (k : Nat) (a : DataArrival) : Inv (s.find opener k a) := by
  unfold ReverseOpens.find
  split
  · exact h.other s.closed s.copies _
  · exact h

/-- The entry is not for a request, or its request has handed it over. -/
theorem Inv.claim (h : Inv s) (opener : Nat) (c : ClaimingState) (ha : s.arrivals k = some a)
    (hwaits : ∀ r, a.openRequestId = some r → a.entry.claimableSeq.isSome = true → 0 < a.handed) :
    Inv (s.claim opener c k a) := by
  have hother := h.other s.closed s.copies (Function.update s.openers opener none)
  unfold ReverseOpens.claim
  cases hseq : a.entry.claimableSeq with
  | none => exact hother
  | some leaseSeq =>
    refine hother.setArrival ha ⟨rfl, rfl, rfl, rfl, fun hsome hzero => ?_⟩
    obtain ⟨r, hr⟩ := Option.isSome_iff_exists.mp hsome
    exact absurd hzero (hwaits r hr (by rw [hseq]; rfl)).ne'

theorem Inv.proceed (h : Inv s) (ha : s.arrivals k = some a) (entry : DataConnEntry) :
    Inv (s.proceed k a entry) := by
  unfold ReverseOpens.proceed
  split
  · next hother =>
    have hin : Inv (s.setArrival k { a with entry }) := by
      refine h.setArrival ha ⟨rfl, rfl, rfl, rfl, fun hsome hzero hclaimed => ?_⟩
      rcases hother with hyes | hnone | hpos
      · cases hclaimed.symm.trans hyes
      · rw [hnone] at hsome
        cases hsome
      · omega
    refine hin.addDuties _ (fun r k' hmem => ?_) (fun r err hmem => ?_) (fun k' hmem => ?_)
    all_goals
      split at hmem
      · cases List.mem_singleton.mp hmem
      · cases hmem
  · exact h

theorem Inv.close (h : Inv s) (reason : P2pErrorCode) : Inv (s.close reason) := by
  unfold ReverseOpens.close
  split
  · exact h
  · have hended : Inv { s with
        pendingOpenRequests := ∅
        duties := s.duties ++ s.pendingOpenRequests.entries.flatMap fun x =>
          (x.2.stagedEntry.map Duty.retire).toList ++
            if x.2.sender then [.tell x.1 ⟨reason, "tunnel closed"⟩] else [] } := by
      refine h.endRequests (fun r p hp => by cases hp) ?_ ?_ ?_ ?_
      · intro r p hp _ k hk
        exact List.mem_flatMap.mpr
          ⟨⟨r, p⟩, Table.mem_entries_iff.mpr hp, (mem_ending mem_tell k).mpr hk⟩
      · intro r k hmem
        obtain ⟨x, -, hx⟩ := List.mem_flatMap.mp hmem
        rcases ending_cases mem_tell hx with ⟨k', heq⟩ | ⟨err, heq⟩ <;> cases heq
      · intro r err hmem
        obtain ⟨⟨r', p⟩, hp, hx⟩ := List.mem_flatMap.mp hmem
        rcases ending_cases mem_tell hx with ⟨k, heq⟩ | ⟨err', heq⟩
        · cases heq
        · cases heq
          exact ⟨⟨p, Table.mem_entries_iff.mp hp⟩, rfl⟩
      · intro k hmem
        obtain ⟨⟨r, p⟩, hp, hk⟩ := List.mem_flatMap.mp hmem
        exact ⟨r, p, Table.mem_entries_iff.mp hp, (mem_ending mem_tell k).mp hk, rfl⟩
    exact (hended.addDuties _ (by simp) (by simp) (by simp)).other true s.copies s.openers

/-- New duties come after the old ones. -/
theorem endPending_duties (s : ReverseOpens) (requestId : TcpRequestId)
    (after : PendingOpenRequest → List Duty) : s.duties <+: (s.endPending requestId after).duties := by
  unfold ReverseOpens.endPending
  cases s.pendingOpenRequests.lookup requestId with
  | none => exact List.prefix_rfl
  | some p =>
    simp only [List.append_assoc]
    exact List.prefix_append ..

theorem send_duties {s' : ReverseOpens} {result : P2pResult Nat}
    (hs : s.send requestId result = some s') : s'.duties = s.duties := by
  unfold ReverseOpens.send at hs
  split at hs
  · split at hs
    · cases hs
      rfl
    · cases hs
  · cases hs

theorem perform_duties (s : ReverseOpens) (d : Duty) : s.duties <+: (s.perform d).duties := by
  cases d with
  | retire k =>
    rw [perform]
    split
    · exact List.prefix_append ..
    · exact List.prefix_rfl
  | remove k =>
    rw [perform]
    split
    · split
      · exact List.prefix_rfl
      · exact List.prefix_rfl
    · exact List.prefix_rfl
  | deliver requestId k =>
    cases hs : s.send requestId (.ok k) with
    | some s' => simp [perform, hs, send_duties hs]
    | none => simp [perform, hs]
  | tell requestId err =>
    cases hs : s.send requestId (.error err) with
    | some s' => simp [perform, hs, send_duties hs]
    | none => simp [perform, hs]
  | cancel requestId => exact endPending_duties ..
  | fail requestId err => exact endPending_duties ..
  | shut k =>
    rw [perform]
    split
    · exact List.prefix_rfl
    · exact List.prefix_rfl

theorem Inv.perform {d : Duty} (h : Inv s) (hd : d ∈ s.duties) : Inv (s.perform d) := by
  cases d with
  | retire k =>
    rw [ReverseOpens.perform]
    split
    · next a ha => exact (h.setArrival ha a.follows_retire).addDuties _ (by simp) (by simp) (by simp)
    · exact h
  | remove k =>
    rw [ReverseOpens.perform]
    split
    · split
      · exact h.eraseEntry _
      · exact h
    · exact h
  | deliver requestId k =>
    rw [ReverseOpens.perform]
    cases hs : s.send requestId (.ok k) with
    | some s' =>
      refine h.send (fun k' hk' => ?_) (fun err herr => by cases herr) hs
      cases hk'
      exact h.delivered requestId k hd
    | none => exact h.addDuties _ (by simp) (by simp) (by simp)
  | tell requestId err =>
    rw [ReverseOpens.perform]
    cases hs : s.send requestId (.error err) with
    | some s' =>
      exact h.send (fun k' hk' => by cases hk') (fun _ _ => (h.telling requestId err hd).1) hs
    | none => exact h
  | cancel requestId => exact h.cancel requestId
  | fail requestId err => exact h.fail requestId err
  | shut k =>
    rw [ReverseOpens.perform]
    split
    · next a ha => exact h.setArrival ha a.follows_shut
    · exact h

/-- What is to be done is done, and then it is struck off. -/
theorem Inv.duty {i : Nat} {d : Duty} (h : Inv s) (hd : s.duties[i]? = some d) :
    Inv ((s.perform d).strike i) := by
  have hi : (s.perform d).duties[i]? = some d := by
    obtain ⟨ds, hds⟩ := perform_duties s d
    obtain ⟨hlt, -⟩ := List.getElem?_eq_some_iff.mp hd
    rw [← hds, List.getElem?_append_left hlt, hd]
  refine (h.perform (List.mem_of_getElem? hd)).strike hi ?_ ?_
  · rintro k rfl
    obtain ⟨a, -, -, ha, -⟩ := h.retiring k (List.mem_of_getElem? hd)
    simp only [ReverseOpens.perform, ha]
    refine ⟨List.mem_append_right _ (List.mem_singleton_self _), fun b hb => ?_⟩
    cases setArrival_self.symm.trans hb
    rfl
  · rintro k rfl c hc
    have hlookup : s.dataConns.lookup c = some k := by
      rw [ReverseOpens.perform] at hc
      split at hc
      · split at hc
        · exact (Table.lookup_erase_some.mp hc).2
        · exact hc
      · exact hc
    obtain ⟨a, ha, rfl, -⟩ := h.present c k hlookup
    simp only [ReverseOpens.perform, ha, if_pos hlookup] at hc
    exact (Table.lookup_erase_some.mp hc).1 rfl

theorem Inv.onRequest {f : RequestTask → ReverseOpens} (h : Inv s)
    (hf : ∀ t, s.requests requestId = some t → Inv (f t)) : Inv (s.onRequest requestId f) := by
  unfold ReverseOpens.onRequest
  cases ht : s.requests requestId with
  | none => exact h
  | some t => exact hf t ht

theorem Inv.onArrival {f : DataArrival → ReverseOpens} (h : Inv s)
    (hf : ∀ a, s.arrivals k = some a → Inv (f a)) : Inv (s.onArrival k f) := by
  unfold ReverseOpens.onArrival
  cases ha : s.arrivals k with
  | none => exact h
  | some a => exact hf a ha

theorem Inv.step {ev : ReverseEvent} (h : Inv s) (debug : P2pError → String) (hwaits : s.Waits ev) :
    Inv (s.step debug ev) := by
  cases ev with
  | request requestId opener => exact h.request requestId opener
  | sent requestId failure => exact h.onRequest fun t ht => h.sent ht failure
  | receive requestId => exact h.onRequest fun t ht => h.receive ht
  | expire requestId => exact h.onRequest fun t ht => h.expire ht
  | waiterDropped requestId => exact h.onRequest fun t ht => h.waiterDropped ht
  | drop requestId => exact h.onRequest fun t ht => h.drop ht
  | cleanup requestId => exact h.onRequest fun t ht => h.cleanup ht
  | consume requestId => exact h.onRequest fun t ht => h.consume ht
  | response requestId result connId => exact h.response requestId result connId
  | arrive k role connId openRequestId => exact h.arrive k role connId openRequestId
  | accept k => exact h.onArrival fun a ha => h.accept ha
  | stage k => exact h.onArrival fun a ha => h.stage debug ha
  | write k failure => exact h.onArrival fun a ha => h.write debug ha failure
  | enter k => exact h.onArrival fun a ha => h.enter ha
  | create k connId firstClaimLocal => exact h.create k connId firstClaimLocal
  | search opener => exact h.other s.closed _ s.openers
  | find opener k => exact h.onArrival fun a _ => h.find opener k a
  | claim opener c =>
    simp only [ReverseOpens.step]
    cases hfound : s.openers opener with
    | none => exact h
    | some k => exact h.onArrival fun a ha => h.claim opener c ha fun r => hwaits k a r hfound ha
  | proceed k entry => exact h.onArrival fun a ha => h.proceed ha entry
  | close reason => exact h.close reason
  | duty i =>
    simp only [ReverseOpens.step]
    cases hd : s.duties[i]? with
    | none => exact h
    | some d => exact h.duty hd

/-- A call claims an entry that is not its own. -/
theorem not_owned_of_claim {ev : ReverseEvent} (debug : P2pError → String) (hev : ¬ s.Waits ev) :
    ¬ (s.step debug ev).Owned := by
  cases ev with
  | claim opener c =>
    intro howned
    simp only [Waits, not_forall] at hev
    obtain ⟨k, a, requestId, hfound, ha, hr, hsome, hzero⟩ := hev
    obtain ⟨leaseSeq, hseq⟩ := Option.isSome_iff_exists.mp hsome
    have hclaimed := howned.unclaimed k { a with
      entry := { a.entry with state := .claiming { c with leaseSeq } }
      claimed := true } requestId (by simp [step, hfound, onArrival, ha, claim, hseq]) hr
      (Nat.eq_zero_of_not_pos hzero)
    cases hclaimed.1
  | _ => exact absurd trivial hev

/-- **Reverse opening.**  In every run the connections that come for requests are handed over once or
retired, and no other call has a part in one before, exactly if no call claims such a connection
before its request has got it. -/
theorem reverse_opens_owned (debug : P2pError → String) (evs : List ReverseEvent) :
    Along (step debug) Waits start evs ↔ ∀ pre, pre <+: evs → Owned (exec (step debug) start pre) :=
  along_iff (fun _ _ h hwaits => h.step debug hwaits) (fun _ h => h.owned)
    (fun _ _ _ hev => not_owned_of_claim debug hev) inv_start evs

/-- The connection 0 comes for the request 1 and is registered before the answer; another call of
`open_channel` finds it, claims it and gets a lease, and then the request times out. -/
def overtaken : List ReverseEvent :=
  [.request 1 0, .sent 1 none, .arrive 0 .data (some 5) (some 1), .accept 0, .stage 0,
    .write 0 none, .enter 0, .search 7, .find 7 0, .claim 7 ⟨0, 3, 9, .stream, []⟩,
    .proceed 0 ⟨true, 1, .bound (.new 5 1 3 .stream [] true)⟩, .expire 1, .cleanup 1]

/-- What is to be retired for the request has the lease of the other call. -/
theorem overtaken_not_owned :
    let s := exec (step fun _ => "") start overtaken
    .retire 0 ∈ s.duties ∧
      (s.arrivals 0).map (fun a => (a.openRequestId, a.handed, a.claimed, a.entry.state)) =
        some (some 1, 0, true, .bound (.new 5 1 3 .stream [] true)) ∧
      ¬ s.Owned := by
  refine ⟨by decide, by decide, fun howned => ?_⟩
  have hclaimed := howned.unclaimed 0 _ 1 rfl rfl rfl
  cases hclaimed.1

end ReverseOpens

end BuckyP2p.Tcp
