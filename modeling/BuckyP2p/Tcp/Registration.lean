import BuckyP2p.Lib.Table
import BuckyP2p.Tcp.Claim

/-!
# BuckyP2p.Tcp.Registration — how a data connection gets into the tables of both ends

One end makes a connection (`create_data_connection`): it sends a hello, reads `DataConnReady` and
registers its entry.  The other end (`on_incoming_data_connection`) answers the hello and registers
its own.  Each end has a loop beside these tasks that answers the claims of the other end.

* `connections` are all the connections that were ever made, by either end.  Each has a `Link`, its
  entries at the two ends with all that is done with them; an entry is in `data_conns` if its end of
  the `Link` is `registered`.
* A connection is for a request of the other end if its hello has `open_request_id`.  Then the other
  end makes the first claim.
* `retired` records that the end that accepted the connection has retired its entry.
* The commands for different connections do not wait for each other, which is more than the one
  control connection does.
-/

namespace BuckyP2p.Tcp

open Lib

abbrev TcpRequestId : Type := TunnelId

abbrev TunnelCandidateId : Type := TunnelId

inductive DataConnReadyResult
  | success | tunnelNotFound | connIdConflict | protocolError | internalError
  deriving DecidableEq, Repr

/-- How `{:?}` prints a result. -/
def DataConnReadyResult.text : DataConnReadyResult → String
  | .success => "Success"
  | .tunnelNotFound => "TunnelNotFound"
  | .connIdConflict => "ConnIdConflict"
  | .protocolError => "ProtocolError"
  | .internalError => "InternalError"

structure DataConnReady where
  connId : TcpConnId
  candidateId : TunnelCandidateId
  result : DataConnReadyResult
  deriving DecidableEq, Repr

inductive TcpConnectionRole
  | control | data
  deriving DecidableEq, Repr

structure TcpConnectionHello where
  role : TcpConnectionRole
  candidateId : TunnelCandidateId
  connId : Option TcpConnId
  openRequestId : Option TcpRequestId
  deriving DecidableEq, Repr

/-! ### Requests for a connection -/

inductive ReverseOpenCorrelationEvent
  | arrival (connId : TcpConnId)
  | arrivalRegistered (connId : TcpConnId)
  | successResponse (connId : TcpConnId)
  | failure
  | terminalCleanup
  deriving DecidableEq, Repr

inductive ReverseOpenCorrelationError
  | duplicateArrival | connIdMismatch | arrivalNotStaged | terminal
  deriving DecidableEq, Repr

inductive ReverseOpenCorrelationOutcome
  | wait
  | complete (connId : TcpConnId)
  | idempotent
  | terminal
  | reject (err : ReverseOpenCorrelationError)
  deriving DecidableEq, Repr

structure ReverseOpenCorrelation where
  arrivalConnId : Option TcpConnId
  responseConnId : Option TcpConnId
  arrivalRegistered : Bool
  terminal : Bool
  completedConnId : Option TcpConnId
  deriving DecidableEq, Repr

namespace ReverseOpenCorrelation

def new : ReverseOpenCorrelation := ⟨none, none, false, false, none⟩

def complete (r : ReverseOpenCorrelation) (connId : TcpConnId) :
    ReverseOpenCorrelation × ReverseOpenCorrelationOutcome :=
  ({ r with terminal := true, completedConnId := some connId }, .complete connId)

def reject (r : ReverseOpenCorrelation) (err : ReverseOpenCorrelationError) :
    ReverseOpenCorrelation × ReverseOpenCorrelationOutcome :=
  ({ r with terminal := true }, .reject err)

/-- An event that comes after the end. -/
def applyTerminal (r : ReverseOpenCorrelation) :
    ReverseOpenCorrelationEvent → ReverseOpenCorrelation × ReverseOpenCorrelationOutcome
  | .successResponse connId =>
    if r.completedConnId = some connId then (r, .idempotent)
    else if r.completedConnId.isSome then (r, .reject .connIdMismatch)
    else (r, .reject .terminal)
  | _ => (r, .reject .terminal)

def apply (r : ReverseOpenCorrelation) (event : ReverseOpenCorrelationEvent) :
    ReverseOpenCorrelation × ReverseOpenCorrelationOutcome :=
  if r.terminal then r.applyTerminal event
  else match event with
    | .arrival connId =>
      match r.arrivalConnId with
      | some recorded => r.reject (if recorded = connId then .duplicateArrival else .connIdMismatch)
      | none =>
        if r.responseConnId.any (· ≠ connId) then r.reject .connIdMismatch
        else ({ r with arrivalConnId := some connId }, .wait)
    | .arrivalRegistered connId =>
      if r.arrivalConnId ≠ some connId then
        r.reject (if r.arrivalConnId.isSome then .connIdMismatch else .arrivalNotStaged)
      else if r.arrivalRegistered then (r, .idempotent)
      else if r.responseConnId = some connId then
        { r with arrivalRegistered := true }.complete connId
      else ({ r with arrivalRegistered := true }, .wait)
    | .successResponse connId =>
      match r.responseConnId with
      | some recorded =>
        if recorded ≠ connId then r.reject .connIdMismatch
        else if r.arrivalRegistered then r.complete connId
        else (r, .idempotent)
      | none =>
        if r.arrivalConnId.any (· ≠ connId) then r.reject .connIdMismatch
        else if r.arrivalRegistered then { r with responseConnId := some connId }.complete connId
        else ({ r with responseConnId := some connId }, .wait)
    | .failure | .terminalCleanup => ({ r with terminal := true }, .terminal)

end ReverseOpenCorrelation

def correlationError : ReverseOpenCorrelationError → P2pError
  | .duplicateArrival => ⟨.alreadyExists, "duplicate reverse data connection"⟩
  | .connIdMismatch => ⟨.invalidData, "reverse data connection correlation conn_id mismatch"⟩
  | .arrivalNotStaged => ⟨.errorState, "reverse data connection arrival not staged"⟩
  | .terminal => ⟨.interrupted, "reverse data connection correlation already terminal"⟩

/-- `sender` says that the request has not been told of its end; `stagedEntry` is the number of a
connection. -/
structure PendingOpenRequest where
  sender : Bool
  stagedEntry : Option Nat
  correlation : ReverseOpenCorrelation
  deriving DecidableEq, Repr

/-! ### Connections -/

/-- Where `create_data_connection` stands. -/
inductive CreatePhase
  | reading
  | checking
  | registering
  | registered
  | failed (err : P2pError)
  deriving DecidableEq

/-- Where `on_incoming_data_connection` stands; at `ready` it has written `Success`. -/
inductive IncomingPhase
  | arrived
  | refusing (result : DataConnReadyResult) (err : P2pError)
  | staging (requestId : TcpRequestId)
  | writing
  | ready
  | registered (result : P2pResult Unit)
  | failed (err : P2pError)
  deriving DecidableEq

def IncomingPhase.isRegistered : IncomingPhase → Bool
  | .registered _ => true
  | _ => false

/-- `frames` are on their way to the creator. -/
structure DataConnection where
  creator : TunnelForm
  connId : TcpConnId
  hello : TcpConnectionHello
  creating : CreatePhase
  incoming : IncomingPhase
  frames : List DataConnReady
  link : Link
  retired : Bool

/-- The link with another end. -/
def Link.set (l : Link) (x : TcpTunnel) : TunnelForm → Link
  | .active => { l with active := x }
  | .passive => { l with passive := x }

namespace DataConnection

/-- The entry at the end that made the connection. -/
def near (c : DataConnection) : TcpTunnel := c.link.tunnel c.creator

/-- The entry at the end that accepted it. -/
def far (c : DataConnection) : TcpTunnel := c.link.tunnel c.creator.other

/-- The entry is, or was, in the table of this end. -/
def entered (c : DataConnection) (form : TunnelForm) : Bool :=
  if form = c.creator then c.creating = .registered else c.incoming.isRegistered

/-- Only an entry that was registered is claimed or retired. -/
def allows (c : DataConnection) (form : TunnelForm) : ClaimEvent → Bool
  | .claim .. | .abandon => c.entered form
  | _ => true

def claims (c : DataConnection) (form : TunnelForm) (e : ClaimEvent) : DataConnection :=
  if c.allows form e then
    let link := c.link.step (form, e)
    { c with link, retired := c.retired || (link.tunnel c.creator.other).state = .retired }
  else c

end DataConnection

/-- A tunnel with its two ends. -/
structure Registry where
  candidateId : TunnelCandidateId
  activeId : P2pId
  passiveId : P2pId
  connections : List DataConnection
  pendingOpenRequests : TunnelForm → Table TcpRequestId PendingOpenRequest

/-- What happens next; `k` is the number of a connection. -/
inductive RegistryEvent
  | create (form : TunnelForm) (connId : TcpConnId) (openRequestId : Option TcpRequestId)
  | request (form : TunnelForm) (requestId : TcpRequestId)
  | response (form : TunnelForm) (requestId : TcpRequestId) (connId : TcpConnId)
  | consume (form : TunnelForm) (requestId : TcpRequestId)
  | endRequest (form : TunnelForm) (requestId : TcpRequestId)
  | accept (k : Nat)
  | stage (k : Nat)
  | write (k : Nat) (failure : Option P2pError)
  | enter (k : Nat)
  | read (k : Nat)
  | expire (k : Nat)
  | recheck (k : Nat)
  | register (k : Nat)
  | claims (k : Nat) (form : TunnelForm) (e : ClaimEvent)

namespace Registry

def start (candidateId : TunnelCandidateId) (activeId passiveId : P2pId) : Registry :=
  ⟨candidateId, activeId, passiveId, [], fun _ => ∅⟩

/-- The table of this end has an entry for the id. -/
def occupied (s : Registry) (form : TunnelForm) (connId : TcpConnId) : Bool :=
  s.connections.any fun c => (c.link.tunnel form).getEntry connId

def setConnection (s : Registry) (k : Nat) (c : DataConnection) : Registry :=
  { s with connections := s.connections.set k c }

def setPending (s : Registry) (form : TunnelForm) (t : Table TcpRequestId PendingOpenRequest) :
    Registry :=
  { s with pendingOpenRequests := Function.update s.pendingOpenRequests form t }

/-- The entries of a new connection, which are not registered yet. -/
def newLink (s : Registry) (connId : TcpConnId) (first : TunnelForm) : Link where
  active := { TcpTunnel.new s.activeId s.passiveId connId (first = .active) with registered := false }
  passive :=
    { TcpTunnel.new s.passiveId s.activeId connId (first = .passive) with registered := false }

/-- A connection whose hello was sent. -/
def newConnection (s : Registry) (form : TunnelForm) (connId : TcpConnId)
    (openRequestId : Option TcpRequestId) : DataConnection where
  creator := form
  connId := connId
  hello := ⟨.data, s.candidateId, some connId, openRequestId⟩
  creating := .reading
  incoming := .arrived
  frames := []
  link := s.newLink connId (if openRequestId.isNone then form else form.other)
  retired := false

/-- `open_data_connection` has succeeded. -/
def create (s : Registry) (form : TunnelForm) (connId : TcpConnId)
    (openRequestId : Option TcpRequestId) : Registry :=
  { s with connections := s.connections ++ [s.newConnection form connId openRequestId] }

/-! ### Requests -/

def request (s : Registry) (form : TunnelForm) (requestId : TcpRequestId) : Registry :=
  s.setPending form ((s.pendingOpenRequests form).insert requestId ⟨true, none, .new⟩)

/-- `OpenDataConnResp` comes. -/
def response (s : Registry) (form : TunnelForm) (requestId : TcpRequestId) (connId : TcpConnId) :
    Registry :=
  match (s.pendingOpenRequests form).lookup requestId with
  | some pending =>
    let (correlation, outcome) := pending.correlation.apply (.successResponse connId)
    let sender := match outcome with
      | .complete _ => false
      | _ => pending.sender
    s.setPending form ((s.pendingOpenRequests form).insert requestId
      { pending with correlation, sender })
  | none => s

/-- `consume_completed_pending_open_request`. -/
def consume (s : Registry) (form : TunnelForm) (requestId : TcpRequestId) : Registry :=
  s.setPending form ((s.pendingOpenRequests form).erase requestId)

/-- `fail_pending_open_request` and `cancel_pending_open_request`. -/
def endRequest (s : Registry) (form : TunnelForm) (requestId : TcpRequestId) : Registry :=
  let s' := s.setPending form ((s.pendingOpenRequests form).erase requestId)
  match ((s.pendingOpenRequests form).lookup requestId).bind PendingOpenRequest.stagedEntry with
  | some k =>
    match s.connections[k]? with
    | some c =>
      s'.setConnection k
        { c with link := c.link.set c.far.retirePlainEntry c.creator.other, retired := true }
    | none => s'
  | none => s'

/-! ### `on_incoming_data_connection` -/

/-- Up to the first write, or to the lock of the requests. -/
def accept (s : Registry) (k : Nat) (c : DataConnection) : Registry :=
  match c.incoming with
  | .arrived =>
    s.setConnection k { c with
      incoming :=
        match c.hello.role, c.hello.connId with
        | .data, some connId =>
          if s.occupied c.creator.other connId then
            .refusing .connIdConflict ⟨.conflict, "conn_id conflict"⟩
          else match c.hello.openRequestId with
            | none => .writing
            | some requestId => .staging requestId
        | _, _ => .refusing .protocolError ⟨.invalidParam, "invalid data hello"⟩ }
  | _ => s

/-- The connection is staged for its request.  If it cannot be, the request ends with `endRequest`. -/
def stage (s : Registry) (k : Nat) (c : DataConnection) : Registry :=
  match c.incoming with
  | .staging requestId =>
    let table := s.pendingOpenRequests c.creator.other
    match table.lookup requestId with
    | none =>
      s.setConnection k { c with
        incoming := .refusing .internalError
          ⟨.notFound, "late reverse data connection request not found"⟩ }
    | some pending =>
      let (correlation, outcome) := pending.correlation.apply (.arrival c.connId)
      let refused (err : P2pError) : Registry :=
        (s.setPending c.creator.other (table.insert requestId { pending with correlation })).setConnection
          k { c with incoming := .refusing .protocolError err }
      match outcome with
      | .wait =>
        (s.setPending c.creator.other (table.insert requestId
          { pending with correlation, stagedEntry := some k })).setConnection
          k { c with incoming := .writing }
      | .reject err => refused (correlationError err)
      | .idempotent => refused ⟨.alreadyExists, "duplicate reverse data connection arrival"⟩
      | .complete _ | .terminal =>
        refused ⟨.errorState, "unexpected reverse data arrival transition"⟩
  | _ => s

/-- `DataConnReady` is written, or the connection has failed. -/
def write (s : Registry) (k : Nat) (c : DataConnection) (failure : Option P2pError) : Registry :=
  match c.incoming, failure with
  | .refusing result err, none =>
    s.setConnection k { c with
      frames := c.frames ++ [⟨c.hello.connId.getD 0, c.hello.candidateId, result⟩]
      incoming := .failed err }
  | .writing, none =>
    s.setConnection k { c with
      frames := c.frames ++ [⟨c.connId, c.hello.candidateId, .success⟩]
      incoming := .ready }
  | .refusing _ _, some err | .writing, some err => s.setConnection k { c with incoming := .failed err }
  | _, _ => s

/-- The entry is put into the table of the end that accepted the connection. -/
def insertFar (c : DataConnection) (result : P2pResult Unit) : DataConnection :=
  { c with
    link := c.link.set { c.far with registered := true } c.creator.other
    incoming := .registered result }

/-- What a connection that was made for a request is told when it is registered. -/
def enterResult (pending : PendingOpenRequest) : ReverseOpenCorrelationOutcome → P2pResult Unit
  | .wait | .idempotent => .ok ()
  | .complete _ =>
    if pending.sender then .ok ()
    else .error ⟨.interrupted, "reverse data local registration failed"⟩
  | .reject _ | .terminal => .error ⟨.interrupted, "reverse data local registration failed"⟩

/-- The last region: `register_entry`, or the registration for a request. -/
def enter (s : Registry) (k : Nat) (c : DataConnection) : Registry :=
  match c.incoming with
  | .ready =>
    match c.hello.openRequestId with
    | none =>
      if s.occupied c.creator.other c.connId then
        s.setConnection k { c with
          incoming := .failed ⟨.conflict, "tcp data conn id already registered"⟩ }
      else s.setConnection k (insertFar c (.ok ()))
    | some requestId =>
      let table := s.pendingOpenRequests c.creator.other
      let failed := s.setConnection k { c with
        incoming := .failed ⟨.interrupted, "reverse data local registration failed"⟩ }
      match table.lookup requestId with
      | none => failed
      | some pending =>
        if pending.stagedEntry ≠ some k then failed
        else if s.occupied c.creator.other c.connId then failed
        else
          let (correlation, outcome) := pending.correlation.apply (.arrivalRegistered c.connId)
          let sender := match outcome with
            | .complete _ => false
            | _ => pending.sender
          (s.setPending c.creator.other (table.insert requestId
            { pending with correlation, sender })).setConnection
            k (insertFar c (enterResult pending outcome))
  | _ => s

/-! ### `create_data_connection` -/

def read (s : Registry) (k : Nat) (c : DataConnection) : Registry :=
  match c.creating, c.frames with
  | .reading, ready :: frames =>
    s.setConnection k { c with
      frames
      creating :=
        if ready.connId ≠ c.connId ∨ ready.candidateId ≠ s.candidateId then
          .failed ⟨.invalidData, "data ready tunnel candidate mismatch"⟩
        else if ready.result ≠ .success then
          .failed ⟨.reject, "data conn ready failed: " ++ ready.result.text⟩
        else .checking }
  | _, _ => s

def expire (s : Registry) (k : Nat) (c : DataConnection) : Registry :=
  match c.creating with
  | .reading =>
    s.setConnection k { c with creating := .failed ⟨.timeout, "wait data conn ready timeout"⟩ }
  | _ => s

/-- There must be nothing more to read. -/
def recheck (s : Registry) (k : Nat) (c : DataConnection) : Registry :=
  match c.creating, c.frames with
  | .checking, [] => s.setConnection k { c with creating := .registering }
  | .checking, _ :: _ =>
    s.setConnection k { c with creating := .failed ⟨.invalidData, "duplicate data conn ready"⟩ }
  | _, _ => s

def register (s : Registry) (k : Nat) (c : DataConnection) : Registry :=
  match c.creating with
  | .registering =>
    if s.occupied c.creator c.connId then
      s.setConnection k { c with
        creating := .failed ⟨.conflict, "tcp data conn id already registered"⟩ }
    else
      s.setConnection k { c with
        link := c.link.set { c.near with registered := true } c.creator
        creating := .registered }
  | _ => s

/-- A step of the connection `k`, if there is one. -/
def onConnection (s : Registry) (k : Nat) (f : DataConnection → Registry) : Registry :=
  match s.connections[k]? with
  | some c => f c
  | none => s

def step (s : Registry) : RegistryEvent → Registry
  | .create form connId openRequestId => s.create form connId openRequestId
  | .request form requestId => s.request form requestId
  | .response form requestId connId => s.response form requestId connId
  | .consume form requestId => s.consume form requestId
  | .endRequest form requestId => s.endRequest form requestId
  | .accept k => s.onConnection k (s.accept k)
  | .stage k => s.onConnection k (s.stage k)
  | .write k failure => s.onConnection k (s.write k · failure)
  | .enter k => s.onConnection k (s.enter k)
  | .read k => s.onConnection k (s.read k)
  | .expire k => s.onConnection k (s.expire k)
  | .recheck k => s.onConnection k (s.recheck k)
  | .register k => s.onConnection k (s.register k)
  | .claims k form e => s.onConnection k fun c => s.setConnection k (c.claims form e)

end Registry

/-! ### What a step of one end keeps -/

namespace TcpTunnel

variable {x x' y : TcpTunnel}

/-- A step of an end: its requests are for its own connection, it reads from its inbox, and it takes
the entry out of the table only after it has retired it. -/
structure Retains (x x' : TcpTunnel) : Prop where
  ids : (x'.connId, x'.firstClaimLocal) = (x.connId, x.firstClaimLocal)
  requests : ∀ req ∈ x'.opening ++ x'.sending, req ∈ x.opening ++ x.sending ∨ req.connId = x.connId
  inbox : x'.inbox ⊆ x.inbox
  removes : .removeEntry ∈ x'.todo → .removeEntry ∈ x.todo ∨ x'.state = .retired
  registered : x'.registered = x.registered ∨ (x'.registered = false ∧ .removeEntry ∈ x.todo)

namespace Retains

theorem same (hsame : (x'.connId, x'.firstClaimLocal, x'.opening, x'.sending, x'.registered) =
      (x.connId, x.firstClaimLocal, x.opening, x.sending, x.registered)) (hinbox : x'.inbox ⊆ x.inbox)
    (htodo : .removeEntry ∈ x'.todo → .removeEntry ∈ x.todo ∨ x'.state = .retired) : Retains x x' := by
  obtain ⟨hid, hfirst, hopening, hsending, hregistered⟩ : x'.connId = x.connId ∧
      x'.firstClaimLocal = x.firstClaimLocal ∧ x'.opening = x.opening ∧ x'.sending = x.sending ∧
      x'.registered = x.registered := by
    simpa using hsame
  refine ⟨by rw [hid, hfirst], ?_, hinbox, htodo, .inl hregistered⟩
  rw [hopening, hsending]
  exact fun req hreq => .inl hreq

theorem refl (x : TcpTunnel) : Retains x x := .same rfl (List.Subset.refl _) .inl

theorem region (i : Nat) (r : LeaseContext × List Todo) : Retains x (x.region i r) := by
  refine .same rfl (List.Subset.refl _) fun hmem => .inl ?_
  have happ : Chore.removeEntry ∈ x.todo ++ r.2.map (Chore.lease i) := hmem
  simpa using happ

theorem retirePlainEntry (x : TcpTunnel) : Retains x x.retirePlainEntry :=
  .same rfl (List.Subset.refl _) fun _ => .inr rfl

theorem claimEntry (kind : TcpChannelKind) (purpose : TunnelPurpose) (channelId : TcpChannelId)
    (claimNonce : U64) : Retains x (x.claimEntry kind purpose channelId claimNonce) := by
  have hstart : ∀ c, Retains x (x.startClaim c) := by
    intro c
    refine ⟨rfl, ?_, List.Subset.refl _, .inl, .inl rfl⟩
    intro req hreq
    have hmem : req ∈ (x.opening ++ [c.request x.connId]) ++ x.sending := hreq
    simp only [List.mem_append, List.mem_singleton] at hmem ⊢
    rcases hmem with (hold | rfl) | hold
    · exact .inl (.inl hold)
    · exact .inr rfl
    · exact .inl (.inr hold)
  unfold TcpTunnel.claimEntry
  split
  · split
    · exact hstart _
    · exact refl x
  · exact hstart _
  · exact refl x

theorem registerClaim (i : Nat) : Retains x (x.registerClaim i) := by
  unfold TcpTunnel.registerClaim
  split
  case h_2 => exact refl x
  case h_1 req hi =>
    refine ⟨rfl, ?_, List.Subset.refl _, .inl, .inl rfl⟩
    intro r hr
    have hmem : r ∈ x.opening.eraseIdx i ++ (x.sending ++ [req]) := hr
    simp only [List.mem_append, List.mem_singleton] at hmem ⊢
    rcases hmem with hold | hold | rfl
    · exact .inl (.inl (List.mem_of_mem_eraseIdx hold))
    · exact .inl (.inr hold)
    · exact .inl (.inl (List.mem_of_getElem? hi))

theorem runLease (i : Nat) (lease : LeaseContext) (todo : Todo) :
    Retains x (x.runLease i lease todo) := by
  cases todo with
  | sendWriteFin =>
    refine .same rfl (List.Subset.refl _) fun hmem => ?_
    exact (region i (lease.sendWriteFin.1, lease.sendWriteFin.2.1)).removes hmem
  | sendReadDone =>
    refine .same rfl (List.Subset.refl _) fun hmem => ?_
    exact (region i (lease.sendReadDone.1, lease.sendReadDone.2.1)).removes hmem
  | markDraining =>
    simp only [TcpTunnel.runLease]
    split
    · exact .same rfl (List.Subset.refl _) .inl
    · exact refl x
  | retire =>
    refine .same rfl (List.Subset.refl _) fun hmem => ?_
    rcases List.mem_append.mp hmem with hold | htell
    · exact (region i lease.retireLease).removes hold
    · split at htell <;> simp at htell
  | markRetired => exact .same rfl (List.Subset.refl _) fun _ => .inr rfl
  | finalize => exact region i _
  | settle =>
    simp only [TcpTunnel.runLease]
    split
    · exact .same rfl (List.Subset.refl _) .inl
    · exact .same rfl (List.Subset.refl _) .inl
    · exact .same rfl (List.Subset.refl _) .inl

theorem useLease (i : Nat) (lease : LeaseContext) (e : LeaseEvent) :
    Retains x (x.useLease i lease e) := by
  cases e with
  | write n =>
    simp only [TcpTunnel.useLease]
    split
    · exact refl x
    · exact region i _
  | read n eof =>
    simp only [TcpTunnel.useLease]
    split
    · exact refl x
    · exact region i _
  | dropRead => exact region i _
  | dropWrite => exact region i _
  | observe =>
    simp only [TcpTunnel.useLease]
    split
    · exact refl x
    · split
      case h_1 lease' todo _ =>
        exact .same rfl (List.Subset.refl _) (region i (lease', todo)).removes
      case h_2 todo _ => exact region i _
  | observed result =>
    simp only [TcpTunnel.useLease]
    split
    · exact .same rfl (List.Subset.refl _) (region i (lease.observeEnd result)).removes
    · exact refl x
  | check => exact region i _
  | fail => exact runLease i lease .retire

/-- A chore is taken off the list and run. -/
theorem run {k : Nat} {chore : Chore} (hk : x.todo[k]? = some chore) :
    Retains x ({ x with todo := x.todo.eraseIdx k }.runChore chore) := by
  have herase : ∀ {z : TcpTunnel}, Retains { x with todo := x.todo.eraseIdx k } z → Retains x z := by
    intro z hz
    refine ⟨hz.ids, hz.requests, hz.inbox, fun hmem => ?_, hz.registered.imp_right ?_⟩
    · exact (hz.removes hmem).imp_left List.mem_of_mem_eraseIdx
    · exact fun hgone => ⟨hgone.1, List.mem_of_mem_eraseIdx hgone.2⟩
  cases chore with
  | lease i todo =>
    simp only [TcpTunnel.runChore]
    split
    · exact herase (runLease _ _ _)
    · exact herase (refl _)
  | dropStream => exact herase (.same rfl (List.Subset.refl _) .inl)
  | clearPendingDrainsForConn => exact herase (.same rfl (List.Subset.refl _) .inl)
  | clearPendingDrainForEntry leaseSeq => exact herase (.same rfl (List.Subset.refl _) .inl)
  | removeEntry =>
    refine ⟨rfl, fun req hreq => .inl hreq, List.Subset.refl _, fun hmem => ?_, ?_⟩
    · exact .inl (List.mem_of_mem_eraseIdx hmem)
    · exact .inr ⟨rfl, List.mem_of_getElem? hk⟩
  | sendPendingClaimResult channelId => exact herase (.same rfl (List.Subset.refl _) .inl)

theorem close (x : TcpTunnel) : Retains x x.close := by
  unfold TcpTunnel.close
  split
  · exact refl x
  · dsimp only
    split
    · exact .same rfl (List.Subset.refl _) .inl
    · split
      · split
        case h_1 =>
          refine .same rfl (List.Subset.refl _) fun hmem => ?_
          exact (region _ _).removes hmem
        case h_2 => exact .same rfl (List.Subset.refl _) .inl
      · split
        case h_1 =>
          refine .same rfl (List.Subset.refl _) fun hmem => ?_
          exact (region _ _).removes hmem
        case h_2 => exact .same rfl (List.Subset.refl _) .inl
      all_goals exact .same rfl (List.Subset.refl _) .inl

theorem keepDrain (cmd : DrainCmd) : Retains x (x.keepDrain cmd) := by
  have hretire : ∀ {z : TcpTunnel}, (z.connId, z.firstClaimLocal, z.opening, z.sending, z.registered) =
      (x.connId, x.firstClaimLocal, x.opening, x.sending, x.registered) → z.inbox = x.inbox →
      Retains x z.retirePlainEntry := by
    intro z hz hinbox
    exact .same hz (hinbox ▸ List.Subset.refl _) fun _ => .inr rfl
  cases cmd with
  | writeFin fin =>
    simp only [TcpTunnel.keepDrain, keepWriteFin]
    split
    · exact hretire rfl rfl
    · split
      · split
        · exact hretire rfl rfl
        · exact .same rfl (List.Subset.refl _) .inl
      · exact .same rfl (List.Subset.refl _) .inl
  | readDone done =>
    simp only [TcpTunnel.keepDrain, keepReadDone]
    split
    · exact hretire rfl rfl
    · split
      · split
        · exact hretire rfl rfl
        · exact .same rfl (List.Subset.refl _) .inl
      · exact .same rfl (List.Subset.refl _) .inl

theorem arrive (cmd : DrainCmd) : Retains x (x.arrive cmd) := by
  unfold TcpTunnel.arrive
  split
  · exact .same rfl (List.Subset.refl _) .inl
  · split
    case h_4 =>
      split
      · split
        · exact retirePlainEntry x
        · exact keepDrain cmd
      · exact refl x
    case h_5 | h_6 => exact .same rfl (List.Subset.refl _) .inl
    all_goals
      split
      · exact retirePlainEntry x
      · exact refl x

theorem deliver (active : Bool) : Retains x (x.deliver active) := by
  unfold TcpTunnel.deliver
  split
  case h_1 req rest _ hinbox =>
    have hrest : rest ⊆ x.inbox := hinbox ▸ List.subset_cons_self _ _
    dsimp only
    split_ifs
    all_goals exact .same rfl hrest .inl
  case h_2 ack rest _ hinbox =>
    have hrest : rest ⊆ x.inbox := hinbox ▸ List.subset_cons_self _ _
    dsimp only
    split_ifs
    all_goals exact .same rfl hrest .inl
  case h_3 cmd rest _ hinbox =>
    have hrest : rest ⊆ x.inbox := hinbox ▸ List.subset_cons_self _ _
    obtain ⟨hids, hrequests, hin, hremoves, hregistered⟩ := arrive (x := { x with inbox := rest }) cmd
    exact ⟨hids, hrequests, fun c hc => hrest (hin hc), hremoves, hregistered⟩
  case h_4 => exact refl x

/-- An entry is bound, and the loop goes on. -/
theorem bindEntryToLease (channelId : TcpChannelId) (leaseSeq : TcpLeaseSeq) (kind : TcpChannelKind)
    (purpose : TunnelPurpose) (localInitiator : Bool) (loop : Loop) :
    Retains x { x.bindEntryToLease channelId leaseSeq kind purpose localInitiator with loop } := by
  refine .same rfl (List.Subset.refl _) fun hmem => .inl ?_
  simpa [TcpTunnel.bindEntryToLease] using hmem

theorem go (x : TcpTunnel) : Retains x x.go := by
  unfold TcpTunnel.go
  split
  case h_1 req _ =>
    split
    · exact .same rfl (List.Subset.refl _) .inl
    · exact .same rfl (List.Subset.refl _) .inl
  case h_2 | h_5 | h_8 =>
    split
    · exact .same rfl (List.Subset.refl _) .inl
    · exact .same rfl (List.Subset.refl _) .inl
  case h_3 req localChannelId _ => exact bindEntryToLease ..
  case h_4 | h_7 | h_10 => exact .same rfl (List.Subset.refl _) .inl
  case h_6 =>
    split
    · exact .same rfl (List.Subset.refl _) .inl
    · exact .same rfl (List.Subset.refl _) .inl
  case h_9 c _ => exact bindEntryToLease ..
  case h_11 i cmd _ =>
    unfold TcpTunnel.handle
    dsimp only
    split
    · split
      · refine .same rfl (List.Subset.refl _) fun hmem => ?_
        exact (region i _).removes hmem
      · refine .same rfl (List.Subset.refl _) fun hmem => ?_
        exact (region i _).removes hmem
    · exact .same rfl (List.Subset.refl _) .inl
  case h_12 => exact refl x

theorem checked (answer : Option AcceptRefusal) : Retains x (x.checked answer) := by
  unfold TcpTunnel.checked
  split
  all_goals exact .same rfl (List.Subset.refl _) .inl

theorem reserved (answer : Option AcceptRefusal) : Retains x (x.reserved answer) := by
  unfold TcpTunnel.reserved
  split
  all_goals exact .same rfl (List.Subset.refl _) .inl

theorem enqueued (ok : Bool) : Retains x (x.enqueued ok) := by
  unfold TcpTunnel.enqueued
  split
  case h_2 => exact refl x
  case h_1 p _ =>
    cases p.localConflictChannel with
    | none =>
      dsimp only
      split_ifs
      all_goals exact .same rfl (List.Subset.refl _) .inl
    | some channelId =>
      dsimp only
      split_ifs
      all_goals exact .same rfl (List.Subset.refl _) .inl

end Retains

/-- What a step of one end does to the other: it may send to it, and the requests it sends were
waiting to be sent. -/
def Sends (x y y' : TcpTunnel) : Prop :=
  ∃ cmds, y' = { y with inbox := y.inbox ++ cmds } ∧
    ∀ req, .claimConnReq req ∈ cmds → req ∈ x.sending

theorem Sends.none (x y : TcpTunnel) : Sends x y y :=
  ⟨[], by rw [List.append_nil], fun _ h => absurd h List.not_mem_nil⟩

theorem sendClaim_retains (x y : TcpTunnel) (i : Nat) (ok : Bool) :
    Retains x (x.sendClaim y i ok).1 ∧ Sends x y (x.sendClaim y i ok).2 := by
  unfold sendClaim
  split
  case h_2 => exact ⟨.refl x, .none x y⟩
  case h_1 req hi =>
    have herase : ∀ r ∈ x.opening ++ x.sending.eraseIdx i, r ∈ x.opening ++ x.sending := by
      intro r hr
      rcases List.mem_append.mp hr with hold | hold
      · exact List.mem_append_left _ hold
      · exact List.mem_append_right _ (List.mem_of_mem_eraseIdx hold)
    dsimp only
    split
    · refine ⟨⟨rfl, fun r hr => .inl (herase r hr), List.Subset.refl _, .inl, .inl rfl⟩, _, rfl, ?_⟩
      intro r hr
      obtain rfl : r = req := by simpa using hr
      exact List.mem_of_getElem? hi
    · exact ⟨⟨rfl, fun r hr => .inl (herase r hr), List.Subset.refl _, .inl, .inl rfl⟩, .none x y⟩

theorem sendDrain_retains (x y : TcpTunnel) (j : Nat) (ok : Bool) :
    Retains x (x.sendDrain y j ok).1 ∧ Sends x y (x.sendDrain y j ok).2 := by
  unfold sendDrain
  split
  case h_2 => exact ⟨.refl x, .none x y⟩
  case h_1 i cmd hj =>
    dsimp only
    split
    · refine ⟨.same rfl (List.Subset.refl _) fun hmem => .inl (by simpa using hmem), _, rfl, ?_⟩
      intro r hr
      simp at hr
    · exact ⟨.same rfl (List.Subset.refl _) fun hmem => .inl (by simpa using hmem), .none x y⟩

theorem reply_retains (x y : TcpTunnel) (ok : Bool) :
    Retains x (x.reply y ok).1 ∧ Sends x y (x.reply y ok).2 := by
  unfold reply
  split
  case h_2 => exact ⟨.refl x, .none x y⟩
  case h_1 ack _ =>
    split
    · refine ⟨.same rfl (List.Subset.refl _) .inl, _, rfl, ?_⟩
      intro r hr
      simp at hr
    · exact ⟨.same rfl (List.Subset.refl _) .inl, .none x y⟩

theorem act_retains (x y : TcpTunnel) (e : ClaimEvent) :
    Retains x (x.act y e).1 ∧ Sends x y (x.act y e).2 := by
  cases e with
  | claim kind purpose channelId claimNonce => exact ⟨.claimEntry .., .none x y⟩
  | register i => exact ⟨.registerClaim i, .none x y⟩
  | sendClaim i ok => exact sendClaim_retains x y i ok
  | reset i =>
    refine ⟨?_, .none x y⟩
    simp only [act, resetClaim]
    split
    · exact .same rfl (List.Subset.refl _) .inl
    · exact .refl x
  | forget channelId => exact ⟨.same rfl (List.Subset.refl _) .inl, .none x y⟩
  | deliver active => exact ⟨.deliver active, .none x y⟩
  | go => exact ⟨.go x, .none x y⟩
  | checked answer => exact ⟨.checked answer, .none x y⟩
  | reserved answer => exact ⟨.reserved answer, .none x y⟩
  | enqueued ok => exact ⟨.enqueued ok, .none x y⟩
  | reply ok => exact reply_retains x y ok
  | lease i e =>
    simp only [act]
    split
    · exact ⟨.useLease .., .none x y⟩
    · exact ⟨.refl x, .none x y⟩
  | run i =>
    simp only [act]
    split
    case h_1 chore hi => exact ⟨.run hi, .none x y⟩
    case h_2 => exact ⟨.refl x, .none x y⟩
  | sendDrain i ok => exact sendDrain_retains x y i ok
  | abandon => exact ⟨.retirePlainEntry x, .none x y⟩
  | close => exact ⟨.close x, .none x y⟩

/-- Nothing has been done with the entry, but it may have been retired. -/
structure Untouched (x : TcpTunnel) : Prop where
  requests : x.opening = [] ∧ x.sending = [] ∧ x.resetting = []
  leases : x.leases = [] ∧ x.outbox = []
  loop : x.loop = .ready ∧ x.inbox = []
  state : x.state = .firstClaimPending ∨ x.state = .retired
  todo : ∀ i t, Chore.lease i t ∉ x.todo

theorem Untouched.congr (h : Untouched x) (hrequests : (x'.opening, x'.sending, x'.resetting) =
      (x.opening, x.sending, x.resetting)) (hleases : (x'.leases, x'.outbox) = (x.leases, x.outbox))
    (hloop : (x'.loop, x'.inbox) = (x.loop, x.inbox)) (hstate : x'.state = x.state ∨ x'.state = .retired)
    (htodo : ∀ i t, Chore.lease i t ∈ x'.todo → Chore.lease i t ∈ x.todo) : Untouched x' := by
  obtain ⟨⟨h1, h2, h3⟩, ⟨h4, h5⟩, ⟨h6, h7⟩, hold, hchores⟩ := h
  rw [h1, h2, h3] at hrequests
  rw [h4, h5] at hleases
  rw [h6, h7] at hloop
  refine ⟨by simpa using hrequests, by simpa using hleases, by simpa using hloop, ?_, ?_⟩
  · rcases hstate with heq | hret
    · exact heq ▸ hold
    · exact .inr hret
  · exact fun i t hmem => hchores i t (htodo i t hmem)

theorem Untouched.retirePlainEntry (h : Untouched x) : Untouched x.retirePlainEntry := by
  refine h.congr rfl rfl rfl (.inr rfl) ?_
  intro i t hmem
  unfold TcpTunnel.retirePlainEntry at hmem
  rcases h.state with hs | hs
  · simpa [hs] using hmem
  · simpa [hs] using hmem

theorem Untouched.close (h : Untouched x) : Untouched x.close := by
  unfold TcpTunnel.close
  split
  · exact h
  · dsimp only
    split
    · exact h.congr rfl rfl rfl (.inl rfl) fun _ _ hmem => hmem
    · rcases h.state with hs | hs
      · simp only [hs]
        exact h.congr rfl rfl rfl (.inr rfl) fun _ _ hmem => hmem
      · simp only [hs]
        exact h.congr rfl rfl rfl (.inl hs.symm) fun _ _ hmem => hmem

/-- A chore of an untouched end is the rest of a retirement. -/
theorem Untouched.run (h : Untouched x) {k : Nat} {chore : Chore} (hk : x.todo[k]? = some chore) :
    Untouched ({ x with todo := x.todo.eraseIdx k }.runChore chore) := by
  have hmem := List.mem_of_getElem? hk
  cases chore with
  | lease i todo => exact absurd hmem (h.todo i todo)
  | dropStream | clearPendingDrainsForConn | clearPendingDrainForEntry leaseSeq | removeEntry
  | sendPendingClaimResult channelId =>
    exact h.congr rfl rfl rfl (.inl rfl) fun _ _ hold => List.mem_of_mem_eraseIdx hold

/-- An untouched end that cannot make the first claim stays so, and so does the other end. -/
theorem Untouched.act (hx : Untouched x) (hy : Untouched y) {e : ClaimEvent}
    (hclaim : ∀ kind purpose channelId claimNonce, e = .claim kind purpose channelId claimNonce →
      x.firstClaimLocal = false) : Untouched (x.act y e).1 ∧ Untouched (x.act y e).2 := by
  obtain ⟨hopening, hsending, hresetting⟩ := hx.requests
  obtain ⟨hleases, houtbox⟩ := hx.leases
  obtain ⟨hloop, hinbox⟩ := hx.loop
  cases e with
  | claim kind purpose channelId claimNonce =>
    have hfirst := hclaim _ _ _ _ rfl
    have hsame : x.claimEntry kind purpose channelId claimNonce = x := by
      rcases hx.state with hs | hs
      · simp [claimEntry, hs, hfirst]
      · simp [claimEntry, hs]
    simp only [TcpTunnel.act, hsame]
    exact ⟨hx, hy⟩
  | register i => simpa [TcpTunnel.act, registerClaim, hopening] using ⟨hx, hy⟩
  | sendClaim i ok => simpa [TcpTunnel.act, sendClaim, hsending] using ⟨hx, hy⟩
  | reset i => simpa [TcpTunnel.act, resetClaim, hresetting] using ⟨hx, hy⟩
  | forget channelId =>
    exact ⟨hx.congr rfl rfl rfl (.inl rfl) fun _ _ hmem => hmem, hy⟩
  | deliver active => simpa [TcpTunnel.act, TcpTunnel.deliver, hloop, hinbox] using ⟨hx, hy⟩
  | go => simpa [TcpTunnel.act, TcpTunnel.go, hloop] using ⟨hx, hy⟩
  | checked answer => simpa [TcpTunnel.act, TcpTunnel.checked, hloop] using ⟨hx, hy⟩
  | reserved answer => simpa [TcpTunnel.act, TcpTunnel.reserved, hloop] using ⟨hx, hy⟩
  | enqueued ok => simpa [TcpTunnel.act, TcpTunnel.enqueued, hloop] using ⟨hx, hy⟩
  | reply ok => simpa [TcpTunnel.act, TcpTunnel.reply, hloop] using ⟨hx, hy⟩
  | lease i e => simpa [TcpTunnel.act, hleases] using ⟨hx, hy⟩
  | run i =>
    simp only [TcpTunnel.act]
    split
    case h_1 chore hi => exact ⟨hx.run hi, hy⟩
    case h_2 => exact ⟨hx, hy⟩
  | sendDrain i ok => simpa [TcpTunnel.act, sendDrain, houtbox] using ⟨hx, hy⟩
  | abandon => exact ⟨hx.retirePlainEntry, hy⟩
  | close => exact ⟨hx.close, hy⟩

end TcpTunnel

/-! ### The condition, and what it is for -/

/-- The claim that the loop reads next. -/
def TcpTunnel.nextClaim (x : TcpTunnel) : Option ClaimConnReq :=
  match x.loop, x.inbox with
  | .ready, .claimConnReq req :: _ => some req
  | _, _ => none

namespace DataConnection

/-- The task of the accepting end has written `Success`, and not registered its entry yet. -/
def between (c : DataConnection) : Bool := c.hello.openRequestId.isNone && c.incoming = .ready

/-- The accepting end does not look for the entry of a claim while its task stands in between. -/
def waits (c : DataConnection) (form : TunnelForm) : ClaimEvent → Bool
  | .deliver _ => !(form = c.creator.other && c.far.nextClaim.isSome && c.between)
  | _ => true

/-- The accepting end finds the entry of a claim, or it has retired it. -/
def known (c : DataConnection) (form : TunnelForm) : ClaimEvent → Bool
  | .deliver _ =>
    form = c.creator || c.far.nextClaim.all fun req => c.far.getEntry req.connId || c.retired
  | _ => true

end DataConnection

namespace Registry

/-- Ids are not drawn twice, and claims wait for the registration. -/
def waits (s : Registry) : RegistryEvent → Bool
  | .create _ connId _ => s.connections.all (·.connId ≠ connId)
  | .claims k form e => (s.connections[k]?).all (·.waits form e)
  | _ => true

def known (s : Registry) : RegistryEvent → Bool
  | .claims k form e => (s.connections[k]?).all (·.known form e)
  | _ => true

end Registry

/-! ### The invariant of a connection -/

@[simp] theorem TunnelForm.other_other (f : TunnelForm) : f.other.other = f := by cases f <;> rfl

@[simp] theorem TunnelForm.other_ne (f : TunnelForm) : f.other ≠ f := by cases f <;> decide

theorem TunnelForm.eq_or_eq_other (f g : TunnelForm) : f = g ∨ f = g.other := by
  cases f <;> cases g <;> decide

namespace Link

@[simp] theorem tunnel_set (l : Link) (x : TcpTunnel) (f : TunnelForm) : (l.set x f).tunnel f = x := by
  cases f <;> rfl

@[simp] theorem tunnel_set_other (l : Link) (x : TcpTunnel) (f : TunnelForm) :
    (l.set x f.other).tunnel f = l.tunnel f := by
  cases f <;> rfl

@[simp] theorem tunnel_other_set (l : Link) (x : TcpTunnel) (f : TunnelForm) :
    (l.set x f).tunnel f.other = l.tunnel f.other := by
  cases f <;> rfl

theorem tunnel_act (l : Link) (f : TunnelForm) (e : ClaimEvent) :
    (l.step (f, e)).tunnel f = ((l.tunnel f).act (l.tunnel f.other) e).1 ∧
      (l.step (f, e)).tunnel f.other = ((l.tunnel f).act (l.tunnel f.other) e).2 := by
  cases f with
  | active => exact ⟨rfl, rfl⟩
  | passive => exact ⟨rfl, rfl⟩

end Link

/-- The creator has read `Success`. -/
def CreatePhase.told : CreatePhase → Bool
  | .checking | .registering | .registered => true
  | _ => false

namespace IncomingPhase

/-- The task of the accepting end has not written `Success` yet. -/
def isEarly : IncomingPhase → Bool
  | .ready | .registered _ => false
  | _ => true

/-- A phase before the registration; what refuses the connection is not `Success`. -/
def isOpen : IncomingPhase → Bool
  | .registered _ => false
  | .refusing result _ => result ≠ .success
  | _ => true

variable {phase : IncomingPhase}

theorem not_registered_of_isEarly (h : phase.isEarly = true) : phase.isRegistered = false := by
  cases phase with
  | registered result => cases h
  | _ => rfl

theorem ne_ready_of_isEarly (h : phase.isEarly = true) : phase ≠ .ready := by
  rintro rfl
  cases h

theorem not_registered_of_isOpen (h : phase.isOpen = true) : phase.isRegistered = false := by
  cases phase with
  | registered result => cases h
  | _ => rfl

theorem not_success_of_isOpen (h : phase.isOpen = true) (result : DataConnReadyResult)
    (err : P2pError) (hphase : phase = .refusing result err) : result ≠ .success := by
  rw [hphase] at h
  exact of_decide_eq_true h

end IncomingPhase

namespace DataConnection

variable {c : DataConnection}

structure Sound (c : DataConnection) : Prop where
  hello : c.hello.connId = some c.connId
  ids : c.near.connId = c.connId ∧ c.far.connId = c.connId
  first : c.near.firstClaimLocal = c.hello.openRequestId.isNone
  requests : ∀ req ∈ c.near.opening ++ c.near.sending, req.connId = c.connId
  inbox : ∀ req, .claimConnReq req ∈ c.far.inbox → req.connId = c.connId
  removes : .removeEntry ∈ c.far.todo → c.retired = true
  entered : c.incoming.isRegistered = true → c.far.registered = true ∨ c.retired = true
  absent : c.incoming.isRegistered = false → c.far.registered = false
  refuses : ∀ result err, c.incoming = .refusing result err → result ≠ .success
  told : (∃ ready ∈ c.frames, ready.result = .success) ∨ c.creating.told = true →
    c.hello.openRequestId = none → c.incoming = .ready ∨ c.incoming.isRegistered = true
  untouched : c.incoming.isRegistered = false →
    (c.between = true ∧ c.creating = .registered) ∨ (c.near.Untouched ∧ c.far.Untouched)

theorem between_iff : c.between = true ↔ c.hello.openRequestId = none ∧ c.incoming = .ready := by
  simp [between]

/-- The task of the accepting end goes on. -/
theorem Sound.goesOn (h : Sound c) {old phase : IncomingPhase} (hold : c.incoming = old)
    (hearly : old.isEarly = true) (hopen : phase.isOpen = true) :
    Sound { c with incoming := phase } where
  hello := h.hello
  ids := h.ids
  first := h.first
  requests := h.requests
  inbox := h.inbox
  removes := h.removes
  entered hentered := by
    rw [IncomingPhase.not_registered_of_isOpen hopen] at hentered
    cases hentered
  absent _ := h.absent (hold ▸ IncomingPhase.not_registered_of_isEarly hearly)
  refuses := IncomingPhase.not_success_of_isOpen hopen
  told htold hplain := by
    rcases h.told htold hplain with heq | heq
    · rw [hold] at heq
      exact absurd heq (IncomingPhase.ne_ready_of_isEarly hearly)
    · rw [hold, IncomingPhase.not_registered_of_isEarly hearly] at heq
      cases heq
  untouched _ := by
    rcases h.untouched (hold ▸ IncomingPhase.not_registered_of_isEarly hearly) with
      ⟨hbetween, -⟩ | huntouched
    · have hready := (between_iff.mp hbetween).2
      rw [hold] at hready
      exact absurd hready (IncomingPhase.ne_ready_of_isEarly hearly)
    · exact .inr huntouched

/-- A frame that refuses the connection is written. -/
theorem Sound.refuse (h : Sound c) {result : DataConnReadyResult} {err : P2pError}
    (hphase : c.incoming = .refusing result err) (connId : TcpConnId) (candidateId : TunnelCandidateId) :
    Sound { c with
      frames := c.frames ++ [⟨connId, candidateId, result⟩]
      incoming := .failed err } := by
  have hgoes : Sound { c with incoming := .failed err } := h.goesOn hphase rfl rfl
  refine { hgoes with told := ?_ }
  rintro (⟨ready, hmem, hsuccess⟩ | htold) hplain
  · rcases List.mem_append.mp hmem with hold | hnew
    · exact hgoes.told (.inl ⟨ready, hold, hsuccess⟩) hplain
    · obtain rfl := List.mem_singleton.mp hnew
      exact absurd hsuccess (h.refuses result err hphase)
  · exact hgoes.told (.inr htold) hplain

/-- `Success` is written. -/
theorem Sound.ready (h : Sound c) (hphase : c.incoming = .writing) (ready : DataConnReady) :
    Sound { c with frames := c.frames ++ [ready], incoming := .ready } := by
  have hgoes : Sound { c with incoming := .ready } := h.goesOn hphase rfl rfl
  exact { hgoes with told := fun _ _ => .inl rfl }

/-- The entry is registered at the accepting end. -/
theorem Sound.insertFar (h : Sound c) (result : P2pResult Unit) :
    Sound (Registry.insertFar c result) where
  hello := h.hello
  ids := by
    have hids := h.ids
    simp only [near, far, Registry.insertFar, Link.tunnel_set, Link.tunnel_set_other] at hids ⊢
    exact hids
  first := by
    have hfirst := h.first
    simp only [near, far, Registry.insertFar, Link.tunnel_set_other] at hfirst ⊢
    exact hfirst
  requests := by
    have hrequests := h.requests
    simp only [near, far, Registry.insertFar, Link.tunnel_set_other] at hrequests ⊢
    exact hrequests
  inbox := by
    have hinbox := h.inbox
    simp only [far, Registry.insertFar, Link.tunnel_set] at hinbox ⊢
    exact hinbox
  removes := by
    have hremoves := h.removes
    simp only [far, Registry.insertFar, Link.tunnel_set] at hremoves ⊢
    exact hremoves
  entered _ := .inl (by simp [far, Registry.insertFar])
  absent hnot := by cases hnot
  refuses _ _ heq := by cases heq
  told _ _ := .inr rfl
  untouched hnot := by cases hnot

/-- A connection that was made for a request is not registered. -/
theorem Sound.dropped (h : Sound c) (hrequest : c.hello.openRequestId ≠ none)
    (hreg : c.incoming.isRegistered = false) (err : P2pError) :
    Sound { c with incoming := .failed err } where
  hello := h.hello
  ids := h.ids
  first := h.first
  requests := h.requests
  inbox := h.inbox
  removes := h.removes
  entered hentered := by cases hentered
  absent _ := h.absent hreg
  refuses := IncomingPhase.not_success_of_isOpen rfl
  told _ hplain := absurd hplain hrequest
  untouched _ := by
    rcases h.untouched hreg with ⟨hbetween, -⟩ | huntouched
    · exact absurd (between_iff.mp hbetween).1 hrequest
    · exact .inr huntouched

/-- The creator goes on, up to its registration. -/
theorem Sound.creates (h : Sound c) (hold : c.creating ≠ .registered) {phase : CreatePhase}
    {frames : List DataConnReady} (hframes : frames ⊆ c.frames)
    (htold : phase.told = true →
      (∃ ready ∈ c.frames, ready.result = .success) ∨ c.creating.told = true) :
    Sound { c with creating := phase, frames } where
  hello := h.hello
  ids := h.ids
  first := h.first
  requests := h.requests
  inbox := h.inbox
  removes := h.removes
  entered := h.entered
  absent := h.absent
  refuses := h.refuses
  told hnew hplain := by
    refine h.told ?_ hplain
    rcases hnew with ⟨ready, hmem, hsuccess⟩ | hphase
    · exact .inl ⟨ready, hframes hmem, hsuccess⟩
    · exact htold hphase
  untouched hreg := by
    rcases h.untouched hreg with ⟨-, hregistered⟩ | huntouched
    · exact absurd hregistered hold
    · exact .inr huntouched

/-- The entry is registered at the end of the creator. -/
theorem Sound.register (h : Sound c) (hphase : c.creating = .registering) :
    Sound { c with
      link := c.link.set { c.near with registered := true } c.creator
      creating := .registered } := by
  have htold := h.told (.inr (by rw [hphase]; rfl))
  constructor
  case hello => exact h.hello
  case ids =>
    simp only [near, far, Link.tunnel_set, Link.tunnel_other_set]
    exact h.ids
  case first =>
    simp only [near, Link.tunnel_set]
    exact h.first
  case requests =>
    simp only [near, Link.tunnel_set]
    exact h.requests
  case inbox =>
    simp only [far, Link.tunnel_other_set]
    exact h.inbox
  case removes =>
    simp only [far, Link.tunnel_other_set]
    exact h.removes
  case entered =>
    simp only [far, Link.tunnel_other_set]
    exact h.entered
  case absent =>
    simp only [far, Link.tunnel_other_set]
    exact h.absent
  case refuses => exact h.refuses
  case told => exact fun _ => htold
  case untouched =>
    intro hreg
    rcases h.untouched hreg with ⟨-, hregistered⟩ | ⟨hnear, hfaru⟩
    · rw [hphase] at hregistered
      cases hregistered
    · by_cases hplain : c.hello.openRequestId = none
      · rcases htold hplain with hready | hentered
        · exact .inl ⟨between_iff.mpr ⟨hplain, hready⟩, rfl⟩
        · rw [hreg] at hentered
          cases hentered
      · refine .inr ?_
        simp only [near, far, Link.tunnel_set, Link.tunnel_other_set]
        exact ⟨hnear.congr rfl rfl rfl (.inl rfl) fun _ _ hmem => hmem, hfaru⟩

/-- The request ends, and takes the entry at the accepting end with it. -/
theorem Sound.requestEnds (h : Sound c) :
    Sound { c with link := c.link.set c.far.retirePlainEntry c.creator.other, retired := true } := by
  constructor
  case hello => exact h.hello
  case ids =>
    simp only [near, far, Link.tunnel_set, Link.tunnel_set_other]
    exact h.ids
  case first =>
    simp only [near, Link.tunnel_set_other]
    exact h.first
  case requests =>
    simp only [near, Link.tunnel_set_other]
    exact h.requests
  case inbox =>
    simp only [far, Link.tunnel_set]
    exact h.inbox
  case removes => exact fun _ => rfl
  case entered => exact fun _ => .inr rfl
  case absent =>
    simp only [far, Link.tunnel_set]
    exact h.absent
  case refuses => exact h.refuses
  case told => exact h.told
  case untouched =>
    intro hreg
    rcases h.untouched hreg with hbetween | ⟨hnearu, hfar⟩
    · exact .inl hbetween
    · refine .inr ?_
      simp only [near, far, Link.tunnel_set, Link.tunnel_set_other]
      exact ⟨hnearu, hfar.retirePlainEntry⟩

/-- A step of the creator's end. -/
theorem Sound.near_acts (h : Sound c) {e : ClaimEvent} (hallows : c.allows c.creator e = true) :
    Sound { c with
      link := c.link.step (c.creator, e)
      retired := c.retired ||
        ((c.link.step (c.creator, e)).tunnel c.creator.other).state = .retired } := by
  obtain ⟨hnear, hfar⟩ := Link.tunnel_act c.link c.creator e
  obtain ⟨hkeeps, cmds, hsends, hasked⟩ := TcpTunnel.act_retains c.near c.far e
  have hnear' : (c.link.step (c.creator, e)).tunnel c.creator = (c.near.act c.far e).1 := hnear
  have hfar' : (c.link.step (c.creator, e)).tunnel c.creator.other =
      { c.far with inbox := c.far.inbox ++ cmds } := hfar.trans hsends
  obtain ⟨hid, hfirst⟩ := Prod.mk.inj hkeeps.ids
  constructor
  case hello => exact h.hello
  case ids =>
    simp only [near, far, hnear', hfar']
    exact ⟨hid.trans h.ids.1, h.ids.2⟩
  case first =>
    simp only [near, hnear']
    exact hfirst.trans h.first
  case requests =>
    simp only [near, hnear']
    intro req hreq
    rcases hkeeps.requests req hreq with hold | hnew
    · exact h.requests req hold
    · exact hnew.trans h.ids.1
  case inbox =>
    simp only [far, hfar']
    intro req hreq
    rcases List.mem_append.mp hreq with hold | hnew
    · exact h.inbox req hold
    · exact h.requests req (List.mem_append_right _ (hasked req hnew))
  case removes =>
    simp only [far, hfar']
    intro hmem
    simp [h.removes hmem]
  case entered =>
    simp only [far, hfar']
    intro hreg
    rcases h.entered hreg with hthere | hretired
    · exact .inl hthere
    · exact .inr (by simp [hretired])
  case absent =>
    simp only [far, hfar']
    exact h.absent
  case refuses => exact h.refuses
  case told => exact h.told
  case untouched =>
    intro hreg
    rcases h.untouched hreg with hbetween | ⟨hnearu, hfaru⟩
    · exact .inl hbetween
    · by_cases hcreated : c.hello.openRequestId = none ∧ c.creating = .registered
      · obtain ⟨hplain, hcreating⟩ := hcreated
        rcases h.told (.inr (by rw [hcreating]; rfl)) hplain with hready | hentered
        · exact .inl ⟨between_iff.mpr ⟨hplain, hready⟩, hcreating⟩
        · rw [hreg] at hentered
          cases hentered
      · refine .inr ?_
        -- the creator makes the first claim only where it is its own, and only on its entry
        have hclaim : ∀ kind purpose channelId claimNonce,
            e = .claim kind purpose channelId claimNonce → c.near.firstClaimLocal = false := by
          rintro kind purpose channelId claimNonce rfl
          have hcreating : c.creating = .registered := by simpa [allows, DataConnection.entered] using hallows
          rw [h.first]
          by_contra hnone
          exact hcreated ⟨by simpa using hnone, hcreating⟩
        obtain ⟨hnearu', hfaru'⟩ := hnearu.act hfaru hclaim
        simp only [near, far, hnear', hfar]
        exact ⟨hnearu', hfaru'⟩

/-- A step of the accepting end. -/
theorem Sound.far_acts (h : Sound c) {e : ClaimEvent} (hallows : c.allows c.creator.other e = true) :
    Sound { c with
      link := c.link.step (c.creator.other, e)
      retired := c.retired ||
        ((c.link.step (c.creator.other, e)).tunnel c.creator.other).state = .retired } := by
  obtain ⟨hfar, hnear⟩ := Link.tunnel_act c.link c.creator.other e
  rw [TunnelForm.other_other] at hfar hnear
  obtain ⟨hkeeps, cmds, hsends, -⟩ := TcpTunnel.act_retains c.far c.near e
  have hfar' : (c.link.step (c.creator.other, e)).tunnel c.creator.other = (c.far.act c.near e).1 := hfar
  have hnear' : (c.link.step (c.creator.other, e)).tunnel c.creator =
      { c.near with inbox := c.near.inbox ++ cmds } := hnear.trans hsends
  obtain ⟨hid, -⟩ := Prod.mk.inj hkeeps.ids
  constructor
  case hello => exact h.hello
  case ids =>
    simp only [near, far, hnear', hfar']
    exact ⟨h.ids.1, hid.trans h.ids.2⟩
  case first =>
    simp only [near, hnear']
    exact h.first
  case requests =>
    simp only [near, hnear']
    exact h.requests
  case inbox =>
    simp only [far, hfar']
    exact fun req hreq => h.inbox req (hkeeps.inbox hreq)
  case removes =>
    simp only [far, hfar']
    intro hmem
    rcases hkeeps.removes hmem with hold | hretired
    · simp [h.removes hold]
    · exact Bool.or_eq_true_iff.mpr (.inr (decide_eq_true hretired))
  case entered =>
    simp only [far, hfar']
    intro hreg
    rcases hkeeps.registered with hsame | ⟨-, hmem⟩
    · rcases h.entered hreg with hthere | hretired
      · exact .inl (hsame.trans hthere)
      · exact .inr (by simp [hretired])
    · exact .inr (by simp [h.removes hmem])
  case absent =>
    simp only [far, hfar']
    intro hreg
    rcases hkeeps.registered with hsame | ⟨hgone, -⟩
    · exact hsame.trans (h.absent hreg)
    · exact hgone
  case refuses => exact h.refuses
  case told => exact h.told
  case untouched =>
    intro hreg
    rcases h.untouched hreg with hbetween | ⟨hnearu, hfaru⟩
    · exact .inl hbetween
    · have hclaim : ∀ kind purpose channelId claimNonce,
          e = .claim kind purpose channelId claimNonce → c.far.firstClaimLocal = false := by
        rintro kind purpose channelId claimNonce rfl
        have hentered : c.incoming.isRegistered = true := by
          simpa [allows, DataConnection.entered] using hallows
        rw [show c.incoming.isRegistered = false from hreg] at hentered
        cases hentered
      obtain ⟨hfaru', hnearu'⟩ := hfaru.act hnearu hclaim
      refine .inr ?_
      simp only [near, far, hnear, hfar']
      exact ⟨hnearu', hfaru'⟩

theorem Sound.claims (h : Sound c) (form : TunnelForm) (e : ClaimEvent) : Sound (c.claims form e) := by
  unfold DataConnection.claims
  split
  case isFalse => exact h
  case isTrue hallows =>
    rcases form.eq_or_eq_other c.creator with rfl | rfl
    · exact h.near_acts hallows
    · exact h.far_acts hallows

/-- **The barrier**: when the accepting end looks for the entry of a claim, and its task does not stand
in between, the entry is there or was retired. -/
theorem Sound.known (h : Sound c) {form : TunnelForm} {e : ClaimEvent}
    (hwaits : c.waits form e = true) : c.known form e = true := by
  cases e with
  | deliver active =>
    by_cases hform : form = c.creator
    · simp [DataConnection.known, hform]
    · have hother : form = c.creator.other := (form.eq_or_eq_other c.creator).resolve_left hform
      cases hnext : c.far.nextClaim with
      | none => simp [DataConnection.known, hnext]
      | some req =>
        have hmem : .claimConnReq req ∈ c.far.inbox := by
          unfold TcpTunnel.nextClaim at hnext
          split at hnext
          case h_1 r rest _ hinbox =>
            cases hnext
            rw [hinbox]
            exact List.mem_cons_self
          case h_2 => cases hnext
        have hid : req.connId = c.far.connId := (h.inbox req hmem).trans h.ids.2.symm
        have hreg : c.incoming.isRegistered = true := by
          by_contra hnot
          rcases h.untouched (by simpa using hnot) with ⟨hbetween, -⟩ | ⟨-, hfar⟩
          · simp [waits, hother, hnext, hbetween] at hwaits
          · rw [hfar.loop.2] at hmem
            cases hmem
        rcases h.entered hreg with hthere | hretired
        · simp [DataConnection.known, hnext, TcpTunnel.getEntry, hthere, hid]
        · simp [DataConnection.known, hretired]
  | _ => rfl

end DataConnection

/-! ### All connections -/

namespace Registry

variable {s : Registry} {k : Nat} {c c' : DataConnection}

structure Inv (s : Registry) : Prop where
  sound : ∀ (k : Nat) (c : DataConnection), s.connections[k]? = some c → c.Sound
  distinct : ∀ (i j : Nat) (c d : DataConnection), s.connections[i]? = some c →
    s.connections[j]? = some d → c.connId = d.connId → i = j

theorem Inv.set (h : Inv s) (hk : s.connections[k]? = some c) (hid : c'.connId = c.connId)
    (hsound : c'.Sound) : Inv (s.setConnection k c') := by
  have hcases : ∀ (i : Nat) (d : DataConnection), (s.setConnection k c').connections[i]? = some d →
      d.Sound ∧ ∃ d', s.connections[i]? = some d' ∧ d.connId = d'.connId := by
    intro i d hd
    have hset : (s.connections.set k c')[i]? = some d := hd
    rw [List.getElem?_set] at hset
    split_ifs at hset with heq hlt
    · cases hset
      subst heq
      exact ⟨hsound, c, hk, hid⟩
    · exact ⟨h.sound i d hset, d, hset, rfl⟩
  refine ⟨fun i d hd => (hcases i d hd).1, ?_⟩
  intro i j d e hd he heq
  obtain ⟨-, d', hd', hdid⟩ := hcases i d hd
  obtain ⟨-, e', he', heid⟩ := hcases j e he
  exact h.distinct i j d' e' hd' he' (hdid.symm.trans (heq.trans heid))

/-- Under its own id nobody else is registered. -/
theorem Inv.not_occupied (h : Inv s) (hk : s.connections[k]? = some c)
    (hreg : c.incoming.isRegistered = false) : s.occupied c.creator.other c.connId = false := by
  unfold occupied
  rw [List.any_eq_false]
  intro d hd hentry
  obtain ⟨j, hj⟩ := List.mem_iff_getElem?.mp hd
  have hids : (d.link.tunnel c.creator.other).connId = d.connId := by
    rcases c.creator.other.eq_or_eq_other d.creator with heq | heq
    · rw [heq]
      exact (h.sound j d hj).ids.1
    · rw [heq]
      exact (h.sound j d hj).ids.2
  simp only [TcpTunnel.getEntry, hids, Bool.and_eq_true, decide_eq_true_eq] at hentry
  obtain rfl := h.distinct k j c d hk hj hentry.2
  obtain rfl : c = d := Option.some.inj (hk.symm.trans hj)
  have hfar : c.far.registered = true := hentry.1
  rw [(h.sound k c hk).absent hreg] at hfar
  cases hfar

theorem newConnection_sound (s : Registry) (form : TunnelForm) (connId : TcpConnId)
    (openRequestId : Option TcpRequestId) : (s.newConnection form connId openRequestId).Sound := by
  have huntouched : ∀ f, ((s.newLink connId
      (if openRequestId.isNone then form else form.other)).tunnel f).Untouched := by
    intro f
    cases f with
    | active => exact ⟨⟨rfl, rfl, rfl⟩, ⟨rfl, rfl⟩, ⟨rfl, rfl⟩, .inl rfl, fun _ _ => List.not_mem_nil⟩
    | passive => exact ⟨⟨rfl, rfl, rfl⟩, ⟨rfl, rfl⟩, ⟨rfl, rfl⟩, .inl rfl, fun _ _ => List.not_mem_nil⟩
  constructor
  case hello => rfl
  case ids => cases form <;> exact ⟨rfl, rfl⟩
  case first => cases form <;> cases openRequestId <;> rfl
  case requests =>
    cases form with
    | active => exact fun _ hmem => absurd hmem List.not_mem_nil
    | passive => exact fun _ hmem => absurd hmem List.not_mem_nil
  case inbox =>
    cases form with
    | active => exact fun _ hmem => absurd hmem List.not_mem_nil
    | passive => exact fun _ hmem => absurd hmem List.not_mem_nil
  case removes =>
    cases form with
    | active => exact fun hmem => absurd hmem List.not_mem_nil
    | passive => exact fun hmem => absurd hmem List.not_mem_nil
  case entered => exact nofun
  case absent => cases form <;> exact fun _ => rfl
  case refuses => exact IncomingPhase.not_success_of_isOpen rfl
  case told =>
    rintro (⟨ready, hmem, -⟩ | htold) -
    · cases hmem
    · cases htold
  case untouched => exact fun _ => .inr ⟨huntouched _, huntouched _⟩

theorem Inv.create (h : Inv s) (form : TunnelForm) (connId : TcpConnId)
    (openRequestId : Option TcpRequestId) (hnew : ∀ c ∈ s.connections, c.connId ≠ connId) :
    Inv (s.create form connId openRequestId) := by
  have hcases : ∀ (i : Nat) (d : DataConnection),
      (s.create form connId openRequestId).connections[i]? = some d →
      s.connections[i]? = some d ∨ (i = s.connections.length ∧ d.connId = connId ∧ d.Sound) := by
    intro i d hd
    rw [Registry.create, List.getElem?_append] at hd
    split_ifs at hd with hlt
    · exact .inl hd
    · have hidx : i - s.connections.length = 0 := by
        by_contra hne
        rw [List.getElem?_eq_none (by simp; omega)] at hd
        cases hd
      rw [hidx] at hd
      cases hd
      exact .inr ⟨by omega, rfl, newConnection_sound s form connId openRequestId⟩
  refine ⟨?_, ?_⟩
  · intro i d hd
    rcases hcases i d hd with hold | ⟨-, -, hsound⟩
    · exact h.sound i d hold
    · exact hsound
  · intro i j d e hd he heq
    rcases hcases i d hd with hdold | ⟨hi, hdid, -⟩
    · rcases hcases j e he with heold | ⟨hj, heid, -⟩
      · exact h.distinct i j d e hdold heold heq
      · exact absurd (heq.trans heid) (hnew d (List.mem_of_getElem? hdold))
    · rcases hcases j e he with heold | ⟨hj, heid, -⟩
      · exact absurd (heq.symm.trans hdid) (hnew e (List.mem_of_getElem? heold))
      · rw [hi, hj]

theorem Inv.endRequest (h : Inv s) (form : TunnelForm) (requestId : TcpRequestId) :
    Inv (s.endRequest form requestId) := by
  have hpending : ∀ t, Inv (s.setPending form t) := fun t => ⟨h.sound, h.distinct⟩
  unfold Registry.endRequest
  dsimp only
  split
  · split
    case h_1 c hk => exact (hpending _).set hk rfl (h.sound _ c hk).requestEnds
    case h_2 => exact hpending _
  · exact hpending _

theorem Inv.accept (h : Inv s) (hk : s.connections[k]? = some c) : Inv (s.accept k c) := by
  have hsound := h.sound k c hk
  unfold Registry.accept
  split
  case h_2 => exact h
  case h_1 hphase =>
    refine h.set hk rfl ?_
    split
    · split
      · exact hsound.goesOn hphase rfl rfl
      · split
        · exact hsound.goesOn hphase rfl rfl
        · exact hsound.goesOn hphase rfl rfl
    · exact hsound.goesOn hphase rfl rfl

theorem Inv.stage (h : Inv s) (hk : s.connections[k]? = some c) : Inv (s.stage k c) := by
  have hsound := h.sound k c hk
  have hpending : ∀ t, Inv (s.setPending c.creator.other t) := fun t => ⟨h.sound, h.distinct⟩
  unfold Registry.stage
  split
  case h_2 => exact h
  case h_1 requestId hphase =>
    have hrefuse : ∀ (result : DataConnReadyResult) (err : P2pError), result ≠ .success →
        DataConnection.Sound { c with incoming := .refusing result err } := by
      intro result err hne
      exact hsound.goesOn hphase rfl (decide_eq_true hne)
    dsimp only
    split
    · exact h.set hk rfl (hrefuse _ _ nofun)
    · split
      · refine (hpending _).set hk rfl ?_
        exact hsound.goesOn hphase rfl rfl
      all_goals exact (hpending _).set hk rfl (hrefuse _ _ nofun)

theorem Inv.write (h : Inv s) (hk : s.connections[k]? = some c) (failure : Option P2pError) :
    Inv (s.write k c failure) := by
  have hsound := h.sound k c hk
  unfold Registry.write
  split
  case h_1 result err hphase => exact h.set hk rfl (hsound.refuse hphase _ _)
  case h_2 hphase => exact h.set hk rfl (hsound.ready hphase _)
  case h_3 _ _ err hphase =>
    exact h.set hk rfl (hsound.goesOn hphase rfl rfl)
  case h_4 err hphase =>
    exact h.set hk rfl (hsound.goesOn hphase rfl rfl)
  case h_5 => exact h

/-- The accepting end registers its entry; for a connection that was not made for a request nothing
can be in the way. -/
theorem Inv.enter (h : Inv s) (hk : s.connections[k]? = some c) : Inv (s.enter k c) := by
  have hsound := h.sound k c hk
  have hpending : ∀ t, Inv (s.setPending c.creator.other t) := fun t => ⟨h.sound, h.distinct⟩
  unfold Registry.enter
  split
  case h_2 => exact h
  case h_1 hphase =>
    have hreg : c.incoming.isRegistered = false := by rw [hphase]; rfl
    split
    case h_1 hplain =>
      rw [h.not_occupied hk hreg]
      exact h.set hk rfl (hsound.insertFar _)
    case h_2 requestId hrequest =>
      have hdropped : ∀ err, Inv (s.setConnection k { c with incoming := .failed err }) := by
        intro err
        exact h.set hk rfl (hsound.dropped (by rw [hrequest]; nofun) hreg err)
      dsimp only
      split
      · exact hdropped _
      · split_ifs
        · exact hdropped _
        · exact hdropped _
        · exact (hpending _).set hk rfl (hsound.insertFar _)

theorem Inv.read (h : Inv s) (hk : s.connections[k]? = some c) : Inv (s.read k c) := by
  have hsound := h.sound k c hk
  unfold Registry.read
  split
  case h_2 => exact h
  case h_1 ready frames hphase hframes =>
    refine h.set hk rfl (hsound.creates (by rw [hphase]; nofun) ?_ ?_)
    · rw [hframes]
      exact List.subset_cons_self _ _
    · intro htold
      split_ifs at htold with hid hresult
      · cases htold
      · cases htold
      · refine .inl ⟨ready, by rw [hframes]; exact List.mem_cons_self, ?_⟩
        simpa using hresult

theorem Inv.expire (h : Inv s) (hk : s.connections[k]? = some c) : Inv (s.expire k c) := by
  unfold Registry.expire
  split
  case h_2 => exact h
  case h_1 hphase =>
    refine h.set hk rfl ?_
    exact (h.sound k c hk).creates (by rw [hphase]; nofun) (List.Subset.refl _) nofun

theorem Inv.recheck (h : Inv s) (hk : s.connections[k]? = some c) : Inv (s.recheck k c) := by
  have hsound := h.sound k c hk
  unfold Registry.recheck
  split
  case h_1 hphase _ =>
    refine h.set hk rfl (hsound.creates (by rw [hphase]; nofun) (List.Subset.refl _) fun _ => .inr ?_)
    rw [hphase]
    rfl
  case h_2 hphase _ =>
    exact h.set hk rfl (hsound.creates (by rw [hphase]; nofun) (List.Subset.refl _) nofun)
  case h_3 => exact h

theorem Inv.register (h : Inv s) (hk : s.connections[k]? = some c) : Inv (s.register k c) := by
  have hsound := h.sound k c hk
  unfold Registry.register
  split
  case h_2 => exact h
  case h_1 hphase =>
    split
    · exact h.set hk rfl (hsound.creates (by rw [hphase]; nofun) (List.Subset.refl _) nofun)
    · exact h.set hk rfl (hsound.register hphase)

theorem Inv.onConnection (h : Inv s) {f : DataConnection → Registry}
    (hf : ∀ c, s.connections[k]? = some c → Inv (f c)) : Inv (s.onConnection k f) := by
  unfold Registry.onConnection
  split
  case h_1 c hk => exact hf c hk
  case h_2 => exact h

theorem Inv.step (h : Inv s) (e : RegistryEvent) (hwaits : s.waits e = true) : Inv (s.step e) := by
  cases e with
  | create form connId openRequestId =>
    refine h.create form connId openRequestId ?_
    simpa [Registry.waits] using hwaits
  | request form requestId => exact ⟨h.sound, h.distinct⟩
  | response form requestId connId =>
    simp only [Registry.step, Registry.response]
    split
    · exact ⟨h.sound, h.distinct⟩
    · exact h
  | consume form requestId => exact ⟨h.sound, h.distinct⟩
  | endRequest form requestId => exact h.endRequest form requestId
  | accept k => exact h.onConnection fun c hk => h.accept hk
  | stage k => exact h.onConnection fun c hk => h.stage hk
  | write k failure => exact h.onConnection fun c hk => h.write hk failure
  | enter k => exact h.onConnection fun c hk => h.enter hk
  | read k => exact h.onConnection fun c hk => h.read hk
  | expire k => exact h.onConnection fun c hk => h.expire hk
  | recheck k => exact h.onConnection fun c hk => h.recheck hk
  | register k => exact h.onConnection fun c hk => h.register hk
  | claims k form e =>
    refine h.onConnection fun c hk => h.set hk ?_ ((h.sound k c hk).claims form e)
    unfold DataConnection.claims
    split <;> rfl

/-- **`DataConnReady(Success)` is a registration barrier**, where claims wait for the registration: a
claim of the end that made a connection finds the entry of the other end, unless that has retired
it. -/
theorem claim_after_ready_known (candidateId : TunnelCandidateId) (activeId passiveId : P2pId)
    (events : List RegistryEvent)
    (h : Along step (fun s e => s.waits e = true) (start candidateId activeId passiveId) events) :
    Along step (fun s e => s.known e = true) (start candidateId activeId passiveId) events := by
  refine along_of_inv (I := Inv) (fun s e hs he => hs.step e he) (fun s e hs he => ?_) ?_ h
  · cases e with
    | claims k form e =>
      simp only [Registry.known, Registry.waits, Option.all_eq_true] at he ⊢
      intro c hk
      exact (hs.sound k c hk).known (he c hk)
    | _ => rfl
  · refine ⟨fun k c hk => ?_, fun i j c d hi => ?_⟩
    · cases hk
    · cases hi

/-- The claim is on its way while the other end registers its entry. -/
theorem claim_after_ready_known_once_registered :
    let start := start 1 [0] [1]
    let events : List RegistryEvent :=
      [.create .active 5 none, .accept 0, .write 0 none, .read 0, .recheck 0, .register 0,
        .claims 0 .active (.claim .stream [1] 7 9), .claims 0 .active (.register 0),
        .claims 0 .active (.sendClaim 0 true), .enter 0, .claims 0 .passive (.deliver true)]
    (exec step start events).connections.map (fun c => (c.far.loop, c.retired)) =
      [(.deciding ⟨7, .stream, [1], 5, 1, 9⟩, false)] ∧
    Along step (fun s e => s.known e = true) start events :=
  ⟨by decide +kernel, claim_after_ready_known 1 [0] [1] _ (by decide +kernel)⟩

/-- The claim comes before the other end has registered its entry, and is answered as one for an
unknown connection. -/
theorem claim_before_registration :
    let events : List RegistryEvent :=
      [.create .active 5 none, .accept 0, .write 0 none, .read 0, .recheck 0, .register 0,
        .claims 0 .active (.claim .stream [1] 7 9), .claims 0 .active (.register 0),
        .claims 0 .active (.sendClaim 0 true), .claims 0 .passive (.deliver true)]
    (exec step (start 1 [0] [1]) events).connections.map
        (fun c => (c.far.loop, c.incoming, c.retired)) =
      [(.processed ⟨⟨7, 5, 1, .protocolError⟩, none, none⟩, .ready, false)] ∧
    ¬ Along step (fun s e => s.known e = true) (start 1 [0] [1]) events := by
  decide +kernel

end Registry

end BuckyP2p.Tcp
