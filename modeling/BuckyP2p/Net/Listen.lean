import BuckyP2p.Rendezvous.EndpointCodec
import BuckyP2p.Sn.PeerManager

/-!
# BuckyP2p.Net.Listen — starting the listeners (`networks/net_manager.rs`)

`listen` goes through the endpoints from first to last.  A mapped-WAN endpoint takes the endpoint
behind it as its local half, and its network is asked for a listener of that half which gives the
mapped one as its outer address; every other endpoint is listened on by itself.

What a network says to a call is not determined here: `binds k` is the outcome of the `k`-th call,
with the endpoint that was bound.  A network keeps a listener only if its start succeeds.
-/

namespace BuckyP2p

open Lib
open Endpoint (display)

namespace SocketAddr

def isIpv4 : SocketAddr → Bool
  | .v4 .. => true
  | .v6 .. => false

end SocketAddr

namespace Endpoint

def isMappedWan (e : Endpoint) : Bool := e.area = .mapped

def isSameIpVersion (e other : Endpoint) : Bool := e.addr.isIpv4 = other.addr.isIpv4

theorem isMappedWan_eq_false {e : Endpoint} (h : e.isStaticWan = false) : e.isMappedWan = false := by
  simp only [isStaticWan, Bool.or_eq_false_iff] at h
  exact h.2

end Endpoint

namespace Net

/-- `Vec<(Endpoint, u16)>`. -/
abbrev PortMapping : Type := List (Endpoint × U16)

/-- A listener that runs, with what it was started with. -/
structure Listener where
  localEp : Endpoint
  out : Option Endpoint
  mappingPort : Option U16
  boundLocal : Endpoint
  deriving DecidableEq

structure TunnelListenerInfo where
  localEp : Endpoint
  mappingPort : Option U16
  deriving DecidableEq

def Listener.info (l : Listener) : TunnelListenerInfo := ⟨l.boundLocal, l.mappingPort⟩

/-- A network is the list of its listeners. -/
structure NetManager where
  tunnelNetworks : Table Protocol (List Listener)
  listenerMeta : Table Protocol (List TunnelListenerInfo)
  isListening : Bool

def takeMappingPort (portMapping : PortMapping) (src : Endpoint) : Option U16 × PortMapping :=
  match portMapping.findIdx? fun x => x.1.eq src with
  | some index => ((portMapping[index]?).map Prod.snd, portMapping.eraseIdx index)
  | none => (none, portMapping)

section Listen

variable (toText : SocketAddr → List Char)

def text (e : Endpoint) : String := String.ofList (display toText e)

/-- The local endpoint to listen on and the outer one. -/
abbrev EpPair : Type := Endpoint × Option Endpoint

/-- A mapped-WAN endpoint with the one behind it. -/
def mappedPair (ep localEp : Endpoint) : P2pResult EpPair :=
  if !(localEp.isSameIpVersion ep && localEp.protocol = ep.protocol && !localEp.isStaticWan) then
    .error ⟨.invalidParam, "mapped wan endpoint " ++ text toText ep ++ " has invalid local endpoint " ++
      text toText localEp⟩
  else .ok (localEp, some ep)

/-- What each turn of the loop takes off the list: the endpoint it is at, and its pair. -/
def epPairs : List Endpoint → List (Endpoint × P2pResult EpPair)
  | [] => []
  | [ep] =>
    if ep.isMappedWan then
      [(ep, .error ⟨.invalidParam,
        "mapped wan endpoint " ++ text toText ep ++ " has no local endpoint"⟩)]
    else [(ep, .ok (ep, none))]
  | ep :: localEp :: rest =>
    if ep.isMappedWan then (ep, mappedPair toText ep localEp) :: epPairs rest
    else (ep, .ok (ep, none)) :: epPairs (localEp :: rest)

namespace NetManager

/-- The network has started the listener. -/
def started (m : NetManager) (listeners : List Listener) (l : Listener) : NetManager :=
  { m with tunnelNetworks := m.tunnelNetworks.insert l.localEp.protocol (listeners ++ [l]) }

/-- The loop, from the `k`-th call of a network on. -/
def listenPairs (binds : Nat → P2pResult Endpoint) :
    List (Endpoint × P2pResult EpPair) → PortMapping → Nat → NetManager → NetManager × P2pResult Unit
  | [], _, _, m => (m, .ok ())
  | (_, .error err) :: _, _, _, m => (m, .error err)
  | (ep, .ok (localEp, out)) :: rest, portMapping, k, m =>
    let (mappingPort, portMapping) := takeMappingPort portMapping ep
    match m.tunnelNetworks.lookup localEp.protocol with
    | none => (m, .error ⟨.notFound, "network not found: " ++ text toText localEp⟩)
    | some listeners =>
      match binds k with
      | .error err => (m, .error err)
      | .ok bound =>
        listenPairs binds rest portMapping (k + 1)
          (m.started listeners ⟨localEp, out, mappingPort, bound⟩)

def refreshListenerMeta (m : NetManager) : NetManager :=
  { m with listenerMeta := Table.mapValues (List.map Listener.info) m.tunnelNetworks }

def listen (binds : Nat → P2pResult Endpoint) (m : NetManager) (endpoints : List Endpoint)
    (portMapping : Option PortMapping) : NetManager × P2pResult Unit :=
  if m.isListening then (m.refreshListenerMeta, .ok ())
  else if endpoints.length = 0 then (m, .error ⟨.invalidParam, "no endpoint"⟩)
  else
    match m.listenPairs toText binds (epPairs toText endpoints) (portMapping.getD []) 0 with
    | (m, .error err) => (m, .error err)
    | (m, .ok ()) => ({ m.refreshListenerMeta with isListening := true }, .ok ())

end NetManager

/-! ### What is to be started -/

/-- Each endpoint of the list, given the one before it: a mapped-WAN endpoint is the outer address of
the one behind it, which there has to be; the endpoint behind a mapped one is not listened on by
itself. -/
def toStart : List Endpoint → Option Endpoint → Option (List EpPair)
  | [], _ => some []
  | ep :: rest, prev =>
    (toStart rest (some ep)).bind fun later =>
      if ep.isMappedWan then rest.head?.map fun next => (next, some ep) :: later
      else if prev.any Endpoint.isMappedWan then some later
      else some ((ep, none) :: later)

theorem toStart_of_not_mapped {prev : Option Endpoint} (h : prev.any Endpoint.isMappedWan = false)
    (endpoints : List Endpoint) : toStart endpoints prev = toStart endpoints none := by
  cases endpoints with
  | nil => rfl
  | cons ep rest => simp [toStart, h]

theorem mappedPair_ok {ep localEp : Endpoint} {pair : EpPair}
    (h : mappedPair toText ep localEp = .ok pair) :
    pair = (localEp, some ep) ∧ localEp.isMappedWan = false := by
  unfold mappedPair at h
  split at h
  · cases h
  · next hfits =>
    cases h
    simp only [Bool.not_eq_true', Bool.not_eq_false, Bool.and_eq_true] at hfits
    exact ⟨rfl, Endpoint.isMappedWan_eq_false hfits.2⟩

/-- Where every turn of the loop has its pair, the pairs are what is to be started. -/
theorem toStart_eq_pairs (endpoints : List Endpoint)
    (h : ∀ x ∈ epPairs toText endpoints, ∃ pair, x.2 = .ok pair) :
    toStart endpoints none = some ((epPairs toText endpoints).filterMap (·.2.toOption)) := by
  induction endpoints using epPairs.induct with
  | case1 => rfl
  | case2 ep hmapped => simp [epPairs, hmapped] at h
  | case3 ep hmapped => simp [epPairs, toStart, hmapped, Except.toOption]
  | case4 ep localEp rest hmapped ih =>
    simp only [epPairs, if_pos hmapped, List.forall_mem_cons] at h ⊢
    obtain ⟨⟨pair, hpair⟩, hrest⟩ := h
    obtain ⟨rfl, hlocal⟩ := mappedPair_ok toText hpair
    have hskip : toStart (localEp :: rest) (some ep) = toStart rest none := by
      rw [toStart, toStart_of_not_mapped (by simpa using hlocal)]
      simp [hlocal, hmapped]
    rw [toStart, hskip, ih hrest]
    simp [hmapped, hpair, Except.toOption]
  | case5 ep localEp rest hmapped ih =>
    simp only [epPairs, if_neg hmapped, List.forall_mem_cons] at h ⊢
    rw [toStart, toStart_of_not_mapped (by simpa using hmapped), ih h.2]
    simp [hmapped, Except.toOption]

namespace NetManager

def listeners (m : NetManager) (protocol : Protocol) : List Listener :=
  (m.tunnelNetworks.lookup protocol).getD []

/-- What `listen` is for: on success the endpoints are started, each as it is to be; on an error no
network has a listener that it did not have before. -/
def AllOrNothing (m : NetManager) (endpoints : List Endpoint) (r : NetManager × P2pResult Unit) :
    Prop :=
  match r.2 with
  | .ok () => ∃ pairs, toStart endpoints none = some pairs ∧ ∀ protocol, ∃ new,
      r.1.listeners protocol = m.listeners protocol ++ new ∧
        new.map (fun l => (l.localEp, l.out)) = pairs.filter fun pair => pair.1.protocol = protocol
  | .error _ => ∀ protocol, r.1.listeners protocol = m.listeners protocol

/-- The turn with this pair, whose start would be the `k`-th, ends the loop. -/
def Fails (m : NetManager) (binds : Nat → P2pResult Endpoint) (k : Nat) (pair : P2pResult EpPair) :
    Prop :=
  match pair with
  | .error _ => True
  | .ok (localEp, _) =>
    m.tunnelNetworks.lookup localEp.protocol = none ∨ ∃ err, binds k = .error err

variable {toText} {binds : Nat → P2pResult Endpoint} {m : NetManager}

theorem listeners_started {listeners : List Listener} {l : Listener}
    (h : m.tunnelNetworks.lookup l.localEp.protocol = some listeners) (protocol : Protocol) :
    (m.started listeners l).listeners protocol =
      m.listeners protocol ++ if l.localEp.protocol = protocol then [l] else [] := by
  by_cases hp : l.localEp.protocol = protocol
  · subst hp
    simp [NetManager.listeners, started, h]
  · simp [NetManager.listeners, started, AList.lookup_insert_ne (Ne.symm hp), hp]

theorem fails_started {listeners : List Listener} {l : Listener}
    (h : m.tunnelNetworks.lookup l.localEp.protocol = some listeners) (k : Nat)
    (pair : P2pResult EpPair) : Fails (m.started listeners l) binds k pair ↔ Fails m binds k pair := by
  cases pair with
  | error err => rfl
  | ok pair =>
    simp only [Fails]
    by_cases hp : pair.1.protocol = l.localEp.protocol
    · rw [hp, h]
      simp [started]
    · simp [started, AList.lookup_insert_ne hp]

variable (toText) in
/-- A turn that fails leaves all as it is. -/
theorem listenPairs_of_fails (ep : Endpoint) {pair : P2pResult EpPair} {k : Nat}
    (h : Fails m binds k pair) (rest : List (Endpoint × P2pResult EpPair))
    (portMapping : PortMapping) :
    ∃ err, m.listenPairs toText binds ((ep, pair) :: rest) portMapping k = (m, .error err) := by
  cases pair with
  | error err => exact ⟨err, rfl⟩
  | ok pair =>
    obtain ⟨localEp, out⟩ := pair
    cases hnetwork : m.tunnelNetworks.lookup localEp.protocol with
    | none =>
      exact ⟨⟨.notFound, "network not found: " ++ text toText localEp⟩, by
        simp only [listenPairs, hnetwork]⟩
    | some listeners =>
      rcases h with hnone | ⟨err, hbind⟩
      · rw [hnetwork] at hnone
        cases hnone
      · exact ⟨err, by simp only [listenPairs, hnetwork, hbind]⟩

variable (toText) in
/-- Another turn starts its listener, and the loop goes on. -/
theorem listenPairs_of_not_fails (ep : Endpoint) {pair : P2pResult EpPair} {k : Nat}
    (h : ¬ Fails m binds k pair) (rest : List (Endpoint × P2pResult EpPair))
    (portMapping : PortMapping) :
    ∃ (l : Listener) (listeners : List Listener) (portMapping' : PortMapping),
      pair = .ok (l.localEp, l.out) ∧
      m.tunnelNetworks.lookup l.localEp.protocol = some listeners ∧
      m.listenPairs toText binds ((ep, pair) :: rest) portMapping k =
        (m.started listeners l).listenPairs toText binds rest portMapping' (k + 1) := by
  cases pair with
  | error err => exact absurd trivial h
  | ok pair =>
    obtain ⟨localEp, out⟩ := pair
    simp only [Fails, not_or, not_exists] at h
    obtain ⟨listeners, hlisteners⟩ := Option.ne_none_iff_exists'.mp h.1
    cases hbind : binds k with
    | error err => exact absurd hbind (h.2 err)
    | ok bound =>
      exact ⟨⟨localEp, out, (takeMappingPort portMapping ep).1, bound⟩, listeners,
        (takeMappingPort portMapping ep).2, rfl, hlisteners, by
          simp only [listenPairs, hlisteners, hbind]⟩

variable (toText) in
/-- Where no turn fails, everything is started in order. -/
theorem listenPairs_ok {pairs : List (Endpoint × P2pResult EpPair)} {k : Nat}
    (h : ∀ j x, pairs[j]? = some x → ¬ Fails m binds (k + j) x.2) (portMapping : PortMapping) :
    ∃ m', m.listenPairs toText binds pairs portMapping k = (m', .ok ()) ∧
      (∀ x ∈ pairs, ∃ pair, x.2 = .ok pair) ∧ ∀ protocol, ∃ new,
        m'.listeners protocol = m.listeners protocol ++ new ∧
          new.map (fun l => (l.localEp, l.out)) =
            (pairs.filterMap (·.2.toOption)).filter fun pair => pair.1.protocol = protocol := by
  induction pairs generalizing m k portMapping with
  | nil => exact ⟨m, rfl, by simp, fun _ => ⟨[], by simp, rfl⟩⟩
  | cons x rest ih =>
    obtain ⟨ep, pair⟩ := x
    obtain ⟨l, listeners, portMapping', rfl, hlisteners, hstep⟩ :=
      listenPairs_of_not_fails toText ep (h 0 _ rfl) rest portMapping
    have hrest : ∀ j x, rest[j]? = some x →
        ¬ Fails (m.started listeners l) binds (k + 1 + j) x.2 := fun j x hx => by
      rw [fails_started hlisteners, Nat.add_right_comm]
      exact h (j + 1) x hx
    obtain ⟨m', hrun, hpairs, hnew⟩ := ih hrest portMapping'
    refine ⟨m', hstep.trans hrun, List.forall_mem_cons.mpr ⟨⟨_, rfl⟩, hpairs⟩, fun protocol => ?_⟩
    obtain ⟨new, hlater, hmap⟩ := hnew protocol
    refine ⟨(if l.localEp.protocol = protocol then [l] else []) ++ new, ?_, ?_⟩
    · rw [hlater, listeners_started hlisteners, List.append_assoc]
    · rw [List.map_append, hmap]
      by_cases hp : l.localEp.protocol = protocol <;> simp [Except.toOption, hp]

variable (toText) in
/-- Where a turn fails, the listeners that were started before stay. -/
theorem listenPairs_error {pairs : List (Endpoint × P2pResult EpPair)} {k j : Nat}
    {x : Endpoint × P2pResult EpPair} (hx : pairs[j]? = some x) (h : Fails m binds (k + j) x.2)
    (portMapping : PortMapping) :
    ∃ m' err, m.listenPairs toText binds pairs portMapping k = (m', .error err) ∧
      ∀ protocol, m.listeners protocol <+: m'.listeners protocol := by
  induction pairs generalizing m k j portMapping with
  | nil => cases hx
  | cons y rest ih =>
    obtain ⟨ep, pair⟩ := y
    by_cases hfails : Fails m binds k pair
    · obtain ⟨err, herr⟩ := listenPairs_of_fails toText ep hfails rest portMapping
      exact ⟨m, err, herr, fun _ => List.prefix_rfl⟩
    · obtain ⟨l, listeners, portMapping', rfl, hlisteners, hstep⟩ :=
        listenPairs_of_not_fails toText ep hfails rest portMapping
      cases j with
      | zero =>
        cases hx
        exact absurd h hfails
      | succ j =>
        have hlater : Fails (m.started listeners l) binds (k + 1 + j) x.2 := by
          rw [fails_started hlisteners, Nat.add_right_comm]
          exact h
        obtain ⟨m', err, hrun, hkept⟩ := ih hx hlater portMapping'
        refine ⟨m', err, hstep.trans hrun, fun protocol => ?_⟩
        refine List.IsPrefix.trans ?_ (hkept protocol)
        rw [listeners_started hlisteners]
        exact List.prefix_append ..

/-- Where the first turn starts its listener and a later one fails, that listener is left. -/
theorem listenPairs_leaves {y : Endpoint × P2pResult EpPair}
    {rest : List (Endpoint × P2pResult EpPair)} {k j : Nat} {x : Endpoint × P2pResult EpPair}
    (hx : (y :: rest)[j]? = some x) (h : Fails m binds (k + j) x.2) (hfirst : ¬ Fails m binds k y.2)
    (portMapping : PortMapping) :
    ∃ m' err protocol, m.listenPairs toText binds (y :: rest) portMapping k = (m', .error err) ∧
      m'.listeners protocol ≠ m.listeners protocol := by
  obtain ⟨ep, pair⟩ := y
  obtain ⟨l, listeners, portMapping', rfl, hlisteners, hstep⟩ :=
    listenPairs_of_not_fails toText ep hfirst rest portMapping
  cases j with
  | zero =>
    cases hx
    exact absurd h hfirst
  | succ j =>
    have hlater : Fails (m.started listeners l) binds (k + 1 + j) x.2 := by
      rw [fails_started hlisteners, Nat.add_right_comm]
      exact h
    obtain ⟨m', err, hrun, hkept⟩ := listenPairs_error toText (j := j) hx hlater portMapping'
    refine ⟨m', err, l.localEp.protocol, hstep.trans hrun, fun hsame => ?_⟩
    have hlength := (hkept l.localEp.protocol).length_le
    rw [hsame, listeners_started hlisteners, if_pos rfl, List.length_append] at hlength
    exact absurd hlength (Nat.not_succ_le_self _)

/-- The manager listens already and nothing is to be started; or it does not, and no turn of the loop
fails but the first. -/
def Restorable (toText : SocketAddr → List Char) (binds : Nat → P2pResult Endpoint) (m : NetManager)
    (endpoints : List Endpoint) : Prop :=
  if m.isListening then endpoints = []
  else
    ∀ j x, (epPairs toText endpoints)[j]? = some x → Fails m binds j x.2 →
      ∀ y, (epPairs toText endpoints)[0]? = some y → Fails m binds 0 y.2

theorem toStart_ne_nil {endpoints : List Endpoint} (h : endpoints ≠ []) :
    toStart endpoints none ≠ some [] := by
  cases endpoints with
  | nil => exact absurd rfl h
  | cons ep rest =>
    intro hnil
    obtain ⟨later, -, hhead⟩ := Option.bind_eq_some_iff.mp hnil
    by_cases hmapped : ep.isMappedWan
    · rw [if_pos hmapped] at hhead
      obtain ⟨next, -, hcons⟩ := Option.map_eq_some_iff.mp hhead
      cases hcons
    · simp [hmapped] at hhead

/-- An early return starts nothing. -/
theorem allOrNothing_listening {endpoints : List Endpoint} :
    AllOrNothing m endpoints (m.refreshListenerMeta, .ok ()) ↔ endpoints = [] := by
  constructor
  · rintro ⟨pairs, hpairs, hnew⟩
    by_contra hne
    have hnil : pairs = [] := by
      refine List.eq_nil_iff_forall_not_mem.mpr fun pair hpair => ?_
      obtain ⟨new, hlisteners, hmap⟩ := hnew pair.1.protocol
      have hempty : new = [] := List.self_eq_append_right.mp hlisteners
      rw [hempty, List.map_nil, eq_comm, List.filter_eq_nil_iff] at hmap
      exact hmap pair hpair (by simp)
    exact toStart_ne_nil hne (hnil ▸ hpairs)
  · rintro rfl
    exact ⟨[], rfl, fun _ => ⟨[], (List.append_nil _).symm, rfl⟩⟩

/-- **All or nothing.**  For every list of endpoints, port mapping and outcome of the binds, and in
every state of the manager, `listen` is all or nothing exactly if no turn of its loop fails after
another one has started its listener, or the manager listens already and the list is empty. -/
theorem allOrNothing_iff (toText : SocketAddr → List Char) (binds : Nat → P2pResult Endpoint)
    (m : NetManager) (endpoints : List Endpoint) (portMapping : Option PortMapping) :
    AllOrNothing m endpoints (m.listen toText binds endpoints portMapping) ↔
      Restorable toText binds m endpoints := by
  unfold listen Restorable
  by_cases hlistening : m.isListening
  · rw [if_pos hlistening, if_pos hlistening]
    exact allOrNothing_listening
  rw [if_neg hlistening, if_neg hlistening]
  by_cases hnil : endpoints.length = 0
  · rw [if_pos hnil, List.length_eq_zero_iff.mp hnil]
    simp [AllOrNothing, epPairs]
  rw [if_neg hnil]
  by_cases hall : ∀ j x, (epPairs toText endpoints)[j]? = some x → ¬ Fails m binds (0 + j) x.2
  · obtain ⟨m', hrun, hpairs, hnew⟩ :=
      listenPairs_ok toText hall (portMapping.getD [])
    rw [hrun]
    refine iff_of_true ⟨_, toStart_eq_pairs toText endpoints hpairs, hnew⟩ fun j x hx hfails => ?_
    exact absurd hfails (Nat.zero_add j ▸ hall j x hx)
  simp only [not_forall, not_not] at hall
  obtain ⟨j, x, hx, hfails⟩ := hall
  have hfails' : Fails m binds j x.2 := Nat.zero_add j ▸ hfails
  cases hpairs : epPairs toText endpoints with
  | nil => simp [hpairs] at hx
  | cons y rest =>
    by_cases hfirst : Fails m binds 0 y.2
    · obtain ⟨err, herr⟩ :=
        listenPairs_of_fails toText y.1 hfirst rest (portMapping.getD [])
      rw [herr]
      refine iff_of_true (fun _ => rfl) fun _ _ _ _ z hz => ?_
      cases hz
      exact hfirst
    · obtain ⟨m', err, protocol, herr, hleft⟩ :=
        listenPairs_leaves (hpairs ▸ hx) hfails hfirst (portMapping.getD [])
      rw [herr]
      exact iff_of_false (fun hsame => hleft (hsame protocol)) fun hclean =>
        hfirst (hclean j x (hpairs ▸ hx) hfails' y rfl)

/-- TCP on 127.0.0.1. -/
def loopback (port : U16) : Endpoint := ⟨.lan, .tcp, .v4 ⟨127, 0, 0, 1⟩ port⟩

/-- A manager with a TCP network, before `listen`. -/
def tcpOnly : NetManager := ⟨(∅ : Table Protocol (List Listener)).insert .tcp [], ∅, false⟩

/-- The second port is in use. -/
def secondInUse (k : Nat) : P2pResult Endpoint :=
  if k = 0 then .ok (loopback 8001) else .error ⟨.alreadyExists, "bind tcp listener error"⟩

theorem secondInUse_leaves_first :
    let r := tcpOnly.listen (fun _ => []) secondInUse [loopback 8001, loopback 8002] none
    r.2 = .error ⟨.alreadyExists, "bind tcp listener error"⟩ ∧
      r.1.listeners .tcp = [⟨loopback 8001, none, none, loopback 8001⟩] ∧
      r.1.isListening = false ∧
      ¬ AllOrNothing tcpOnly [loopback 8001, loopback 8002] r := by
  refine ⟨rfl, rfl, rfl, fun hsame => ?_⟩
  cases hsame .tcp

end NetManager

end Listen

end Net

end BuckyP2p
