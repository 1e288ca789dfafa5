import BuckyP2p.Lib.Table
import BuckyP2p.Rendezvous.Message

/-!
# BuckyP2p.Rendezvous.State — the rendezvous table of `rendezvous_state.rs`

The operations of `RendezvousState`.  A waiter is the sending half of a oneshot channel; it is named
by a number, `begin` being given the number of the channel it may create.  Every operation returns
its result, the state and the outcomes it sent.
-/

namespace BuckyP2p.Rendezvous

open Lib

def maxLiveAttempts : Nat := 256

def maxLiveAttemptsPerPair : Nat := 8

def maxRequestsPerInitiatorWindow : Nat := 32

def maxInflightWaitersPerAttempt : Nat := 8

/-- `60 s` in microseconds. -/
def rateWindow : Timestamp := 60000000

/-- `30 s` in microseconds. -/
def maxRequestLifetime : Timestamp := 30000000

structure RendezvousKey where
  initiator : P2pId
  seq : Sequence
  tunnelId : TunnelId
  deriving DecidableEq, Repr

def RendezvousKey.new (initiator : P2pId) (request : SnTunnelRendezvous) : RendezvousKey :=
  ⟨initiator, request.seq, request.tunnelId⟩

structure RendezvousEntry where
  request : SnTunnelRendezvous
  expiresAt : Timestamp
  response : Option SnTunnelRendezvousResp
  waiters : List Nat
  deriving DecidableEq

abbrev Outcome : Type := P2pResult SnTunnelRendezvousResp

inductive RendezvousBegin
  | new
  | cached (response : SnTunnelRendezvousResp)
  | inFlight (waiter : Nat)
  deriving DecidableEq, Repr

structure RendezvousState where
  entries : Table RendezvousKey RendezvousEntry
  rateWindows : Table P2pId (List Timestamp)

/-- What an operation gives: its result, the state after it, and the outcomes it sent. -/
structure Done (α : Type) where
  result : α
  state : RendezvousState
  sends : List (Nat × Outcome) := []

/-- `for waiter in entry.waiters.drain(..)`: every waiter gets `o`. -/
def RendezvousEntry.drain (o : Outcome) (e : RendezvousEntry) : List (Nat × Outcome) :=
  e.waiters.map (·, o)

def RendezvousEntry.live (now : Timestamp) (e : RendezvousEntry) : Bool := now < e.expiresAt

namespace RendezvousState

def new : RendezvousState := ⟨∅, ∅⟩

def stale (now t : Timestamp) : Bool := saturatingAdd t rateWindow < now

def expired : P2pError := ⟨.expired, "rendezvous request expired"⟩

def cleanup (s : RendezvousState) (now : Timestamp) : Done Unit where
  result := ()
  state :=
    { entries := s.entries.retain fun _ e => e.live now
      rateWindows :=
        (s.rateWindows.mapValues fun ts => ts.dropWhile (stale now)).retain fun _ ts => !ts.isEmpty }
  sends := (s.entries.retain fun _ e => !e.live now).collect (·.drain (.error expired))

/-- The live attempts of an initiator to one peer. -/
def pairAttempts (s : RendezvousState) (initiator toPeerId : P2pId) : Nat :=
  (s.entries.entries.filter fun x =>
    x.1.initiator = initiator ∧ x.2.request.toPeerId = toPeerId).length

/-- The end of `begin` for a key without an entry. -/
def create (s : RendezvousState) (initiator : P2pId) (request : SnTunnelRendezvous)
    (now : Timestamp) : Done (P2pResult RendezvousBegin) :=
  if maxLiveAttempts ≤ s.entries.entries.length ∨
      maxLiveAttemptsPerPair ≤ s.pairAttempts initiator request.toPeerId then
    { result := .error ⟨.outOfLimit, "rendezvous live-attempt limit exceeded"⟩, state := s }
  else
    let timestamps := ((s.rateWindows.lookup initiator).getD []).dropWhile (stale now)
    if maxRequestsPerInitiatorWindow ≤ timestamps.length then
      { result := .error ⟨.outOfLimit, "rendezvous request rate limit exceeded"⟩
        state := { s with rateWindows := s.rateWindows.insert initiator timestamps } }
    else
      { result := .ok .new
        state :=
          { entries := s.entries.insert (.new initiator request)
              { request := request
                expiresAt := saturatingAdd now maxRequestLifetime
                response := none
                waiters := [] }
            rateWindows := s.rateWindows.insert initiator (timestamps ++ [now]) } }

/-- The end of `begin` for a key with an entry. -/
def join (s : RendezvousState) (key : RendezvousKey) (entry : RendezvousEntry)
    (request : SnTunnelRendezvous) (waiter : Nat) : Done (P2pResult RendezvousBegin) :=
  if !entry.request.eq request then
    { result := .error
        ⟨.conflict, "rendezvous sequence and tunnel id reused with different request"⟩
      state := s }
  else match entry.response with
    | some response => { result := .ok (.cached response), state := s }
    | none =>
      if maxInflightWaitersPerAttempt ≤ entry.waiters.length then
        { result := .error ⟨.outOfLimit, "rendezvous duplicate waiter limit exceeded"⟩, state := s }
      else
        { result := .ok (.inFlight waiter)
          state := { s with
            entries := s.entries.insert key
              { entry with waiters := entry.waiters ++ [waiter] } } }

def begin (s : RendezvousState) (initiator : P2pId) (request : SnTunnelRendezvous)
    (now : Timestamp) (waiter : Nat) : Done (P2pResult RendezvousBegin) :=
  let c := s.cleanup now
  let key := RendezvousKey.new initiator request
  let d := match c.state.entries.lookup key with
    | some entry => c.state.join key entry request waiter
    | none => c.state.create initiator request now
  { d with sends := c.sends ++ d.sends }

def responseExpired : P2pError := ⟨.expired, "rendezvous response arrived after request expiry"⟩

/-- `cache_response`; it does not run `cleanup`. -/
def cacheResponse (s : RendezvousState) (initiator : P2pId) (request : SnTunnelRendezvous)
    (response : SnTunnelRendezvousResp) (now : Timestamp) : Done (P2pResult Unit) :=
  let key := RendezvousKey.new initiator request
  match s.entries.lookup key with
  | none => { result := .error ⟨.notFound, "rendezvous request state not found"⟩, state := s }
  | some entry =>
    if entry.expiresAt ≤ now then
      { result := .error responseExpired
        state := { s with entries := s.entries.erase key }
        sends := entry.drain (.error responseExpired) }
    else if !entry.request.eq request then
      { result := .error ⟨.conflict, "rendezvous response request snapshot mismatch"⟩, state := s }
    else match response.validate request.seq request.needPredictEndpoint with
      | .error e => { result := .error e, state := s }
      | .ok () =>
        let cached := if request.needPredictEndpoint then .failure request.seq else response
        { result := .ok ()
          state := { s with
            entries := s.entries.insert key { entry with response := some cached, waiters := [] } }
          sends := entry.drain (.ok response) }

def failedBeforeResponse : P2pError :=
  ⟨.networkError, "rendezvous request failed before a response was available"⟩

/-- `fail_unanswered`; an entry of another request, or an answered one, is put back. -/
def failUnanswered (s : RendezvousState) (initiator : P2pId) (request : SnTunnelRendezvous) :
    Done Unit :=
  let key := RendezvousKey.new initiator request
  match s.entries.lookup key with
  | none => { result := (), state := s }
  | some entry =>
    if !entry.request.eq request || entry.response.isSome then { result := (), state := s }
    else
      { result := ()
        state := { s with entries := s.entries.erase key }
        sends := entry.drain (.error failedBeforeResponse) }

def disconnected : P2pError := ⟨.userCanceled, "rendezvous peer disconnected"⟩

/-- The entries that `remove_peer` keeps. -/
def keeps (peerId : P2pId) (key : RendezvousKey) (e : RendezvousEntry) : Bool :=
  key.initiator ≠ peerId ∧ e.request.toPeerId ≠ peerId

def removePeer (s : RendezvousState) (peerId : P2pId) : Done Unit where
  result := ()
  state :=
    { entries := s.entries.retain (keeps peerId)
      rateWindows := s.rateWindows.erase peerId }
  sends := (s.entries.retain fun k e => !keeps peerId k e).collect (·.drain (.error disconnected))

end RendezvousState

end BuckyP2p.Rendezvous
