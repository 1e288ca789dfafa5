import BuckyP2p.Lib.Lists
import BuckyP2p.Tcp.Routing
import BuckyP2p.Tls.Connections

/-!
# BuckyP2p.Tcp.Identity — data connections and the ids of their tunnels (`tcp/`)

The tunnels of one node, with all its local identities.  A control connection makes a tunnel of its
own ids, which is registered under them; an incoming data connection is routed by its ids and by
what its hello says, an outgoing one is of the tunnel that connects.  `dataConns` are the data
connections that were handed to a tunnel.

The resolver of an accepted connection, the listener's endpoint, and what a peer sends are inputs;
the resolver may be another one for the next connection.
-/

namespace BuckyP2p.Tcp.Identity

open Lib Tls
open Routing (TunnelKey TcpIncomingControlDecision validateControlHello)

structure TcpTunnelConnector where
  localIdentity : P2pIdentity
  localEp : Endpoint
  remoteEp : Endpoint
  remoteId : P2pId
  remoteName : Option Name
  tunnelId : TunnelId
  candidateId : TunnelCandidateId

/-- `held` says that there is a strong reference to the tunnel. -/
structure TcpTunnel where
  tunnelId : TunnelId
  candidateId : TunnelCandidateId
  localId : P2pId
  remoteId : P2pId
  connector : TcpTunnelConnector
  closed : Bool
  held : Bool

def TcpTunnel.new (control : TcpTlsConnection) (connector : TcpTunnelConnector) (tunnelId : TunnelId)
    (candidateId : TunnelCandidateId) : TcpTunnel :=
  ⟨tunnelId, candidateId, control.localId, control.remoteId, connector, false, true⟩

def TcpTunnel.key (x : TcpTunnel) : TunnelKey := ⟨x.localId, x.remoteId, x.tunnelId, x.candidateId⟩

inductive Event (Peer : Type*)
  /-- `open_tunnel_inner`; `ready` says that the ready frame fits and is `Success`. -/
  | openTunnel (localIdentity : P2pIdentity) (remoteEp : Endpoint) (remoteId : P2pId)
      (remoteName : Option Name) (tunnelId : TunnelId) (candidateId : TunnelCandidateId)
      (dial : Dial Peer) (ready : Bool)
  /-- `handle_accepted_stream`; `readyWritten` says that a ready frame can be written. -/
  | accepted (resolver : TlsServerCertResolver) (listenerEp : Endpoint) (x : Arrival Peer)
      (readyWritten : Bool)
  /-- The tunnel `t` was offered and accepted. -/
  | register (t : Nat)
  /-- `create_data_connection` of the tunnel `t`. -/
  | openData (t : Nat) (dial : Dial Peer) (ready : Bool)
  | close (t : Nat)
  | release (t : Nat)
  | cleanupStale

structure Node where
  tunnels : List TcpTunnel
  byTunnel : Table TunnelKey Nat
  dataConns : List (Nat × TcpTlsConnection)

namespace Node

def init : Node := ⟨[], ∅, []⟩

def isOpen (s : Node) (t : Nat) : Bool :=
  match s.tunnels[t]? with
  | some x => x.held && !x.closed
  | none => false

/-- `find_tunnel`, with the table after it. -/
def findTunnel (s : Node) (key : TunnelKey) : Option Nat × Table TunnelKey Nat :=
  match s.byTunnel.lookup key with
  | some t => if s.isOpen t then (some t, s.byTunnel) else (none, s.byTunnel.erase key)
  | none => (none, s.byTunnel)

def register (s : Node) (t : Nat) (x : TcpTunnel) : Node :=
  { s with byTunnel := s.byTunnel.insert x.key t }

/-- `on_control_connection` and `accept_control_connection`. -/
def onControlConnection (s : Node) (resolver : TlsServerCertResolver) (listenerEp : Endpoint)
    (conn : TcpTlsConnection) (tunnelId : TunnelId) (hello : TcpConnectionHello)
    (readyWritten : Bool) : Node :=
  match resolver.getServerIdentity conn.localName with
  | none => s
  | some localIdentity =>
    if validateControlHello hello = .accept ∧ readyWritten then
      { s with tunnels := s.tunnels ++ [.new conn ⟨localIdentity, listenerEp, conn.remoteEp,
        conn.remoteId, some conn.remoteName, tunnelId, hello.candidateId⟩ tunnelId
        hello.candidateId] }
    else s

/-- `on_data_connection`. -/
def onDataConnection (s : Node) (conn : TcpTlsConnection) (tunnelId : TunnelId)
    (hello : TcpConnectionHello) : Node :=
  let (found, byTunnel) := s.findTunnel ⟨conn.localId, conn.remoteId, tunnelId, hello.candidateId⟩
  match found with
  | some t => { s with byTunnel := byTunnel, dataConns := s.dataConns ++ [(t, conn)] }
  | none => { s with byTunnel := byTunnel }

variable {Peer : Type*}

def step (env : Env Peer) (s : Node) : Event Peer → Node
  | .openTunnel localIdentity remoteEp remoteId remoteName tunnelId candidateId dial ready =>
    match env.connectWithOptionalLocal localIdentity remoteEp remoteId remoteName dial with
    | some (.ok conn) =>
      if ready then
        let x := TcpTunnel.new conn ⟨localIdentity, conn.localEp, remoteEp, conn.remoteId,
          some conn.remoteName, tunnelId, candidateId⟩ tunnelId candidateId
        { s with tunnels := s.tunnels ++ [x] }.register s.tunnels.length x
      else s
    | _ => s
  | .accepted resolver listenerEp x readyWritten =>
    match env.acceptConnection resolver x with
    | .ok (conn, tunnelId, hello) =>
      match hello.role with
      | .control => s.onControlConnection resolver listenerEp conn tunnelId hello readyWritten
      | .data => s.onDataConnection conn tunnelId hello
    | .error _ => s
  | .register t =>
    match s.tunnels[t]? with
    | some x => if x.closed then s else s.register t x
    | none => s
  | .openData t dial ready =>
    match s.tunnels[t]? with
    | some x =>
      match env.connectWithOptionalLocal x.connector.localIdentity x.connector.remoteEp
        x.connector.remoteId x.connector.remoteName dial with
      | some (.ok conn) => if ready then { s with dataConns := s.dataConns ++ [(t, conn)] } else s
      | _ => s
    | none => s
  | .close t => { s with tunnels := s.tunnels.modify t fun x => { x with closed := true } }
  | .release t => { s with tunnels := s.tunnels.modify t fun x => { x with held := false } }
  | .cleanupStale => { s with byTunnel := s.byTunnel.retain fun _ t => s.isOpen t }

/-- The ids of the tunnel `t`. -/
def ids? (s : Node) (t : Nat) : Option (P2pId × P2pId) :=
  s.tunnels[t]?.map fun x => (x.localId, x.remoteId)

/-- What a tunnel is known by is its own: the identity it connects with, the key it is found under,
and the data connections it has. -/
structure Bound (env : Env Peer) (s : Node) : Prop where
  connector : ∀ x ∈ s.tunnels,
    x.connector.localIdentity.getId = x.localId ∧ x.connector.remoteId = x.remoteId
  byTunnel : ∀ key t, s.byTunnel.lookup key = some t → s.ids? t = some (key.localId, key.remoteId)
  dataConns : ∀ t conn, (t, conn) ∈ s.dataConns →
    conn.Authentic env.certFactory ∧ s.ids? t = some (conn.localId, conn.remoteId)

variable {env : Env Peer} {s : Node}

theorem bound_init : init.Bound env where
  connector x hx := by cases hx
  byTunnel key t h := by cases h
  dataConns t conn h := by cases h

theorem ids?_push {t : Nat} {ids : P2pId × P2pId} (h : s.ids? t = some ids) (x : TcpTunnel) :
    ids? { s with tunnels := s.tunnels ++ [x] } t = some ids := by
  obtain ⟨y, hy, rfl⟩ := Option.map_eq_some_iff.mp h
  rw [ids?, getElem?_append_of_eq_some hy]
  rfl

theorem Bound.push (h : s.Bound env) {x : TcpTunnel}
    (hx : x.connector.localIdentity.getId = x.localId ∧ x.connector.remoteId = x.remoteId) :
    { s with tunnels := s.tunnels ++ [x] }.Bound env where
  connector y hy := by
    rcases List.mem_append.mp hy with hy | hy
    · exact h.connector y hy
    · cases List.mem_singleton.mp hy
      exact hx
  byTunnel key t hkey := ids?_push (h.byTunnel key t hkey) x
  dataConns t conn hconn := ⟨(h.dataConns t conn hconn).1, ids?_push (h.dataConns t conn hconn).2 x⟩

theorem Bound.register (h : s.Bound env) {t : Nat} {x : TcpTunnel} (hx : s.tunnels[t]? = some x) :
    (s.register t x).Bound env where
  connector := h.connector
  byTunnel key t' hkey := by
    by_cases hk : key = x.key
    · subst hk
      cases (AList.lookup_insert _).symm.trans hkey
      show s.tunnels[t]?.map _ = _
      rw [hx]
      rfl
    · exact h.byTunnel key t' ((AList.lookup_insert_ne hk).symm.trans hkey)
  dataConns := h.dataConns

/-- The table has lost some of its entries. -/
theorem Bound.forget (h : s.Bound env) {byTunnel : Table TunnelKey Nat}
    (hsub : ∀ key t, byTunnel.lookup key = some t → s.byTunnel.lookup key = some t) :
    { s with byTunnel := byTunnel }.Bound env where
  connector := h.connector
  byTunnel key t hkey := h.byTunnel key t (hsub key t hkey)
  dataConns := h.dataConns

/-- A tunnel changes in nothing that it is known by. -/
theorem Bound.modify (h : s.Bound env) (t : Nat) {change : TcpTunnel → TcpTunnel}
    (hchange : ∀ x, (change x).localId = x.localId ∧ (change x).remoteId = x.remoteId ∧
      (change x).connector = x.connector) :
    { s with tunnels := s.tunnels.modify t change }.Bound env := by
  have hids : ∀ t', ids? { s with tunnels := s.tunnels.modify t change } t' = s.ids? t' := by
    intro t'
    have hmap := map_modify_of_eq (fun x : TcpTunnel => (x.localId, x.remoteId)) change
      (fun x => by rw [(hchange x).1, (hchange x).2.1]) s.tunnels t
    rw [ids?, ids?, ← List.getElem?_map, ← List.getElem?_map, hmap]
  refine ⟨?_, ?_, ?_⟩
  · intro x hx
    obtain ⟨i, hi⟩ := List.mem_iff_getElem?.mp hx
    by_cases heq : i = t
    · subst heq
      rw [List.getElem?_modify_eq] at hi
      obtain ⟨y, hy, rfl⟩ := Option.map_eq_some_iff.mp hi
      rw [(hchange y).1, (hchange y).2.1, (hchange y).2.2]
      exact h.connector y (List.mem_of_getElem? hy)
    · rw [getElem?_modify_of_ne heq] at hi
      exact h.connector x (List.mem_of_getElem? hi)
  · intro key t' hkey
    rw [hids]
    exact h.byTunnel key t' hkey
  · intro t' conn hconn
    rw [hids]
    exact h.dataConns t' conn hconn

/-- A connection is handed to a tunnel of its own ids. -/
theorem Bound.hand (h : s.Bound env) {t : Nat} {conn : TcpTlsConnection}
    (hauth : conn.Authentic env.certFactory) (hids : s.ids? t = some (conn.localId, conn.remoteId)) :
    { s with dataConns := s.dataConns ++ [(t, conn)] }.Bound env where
  connector := h.connector
  byTunnel := h.byTunnel
  dataConns t' conn' hconn := by
    rcases List.mem_append.mp hconn with hconn | hconn
    · exact h.dataConns t' conn' hconn
    · cases List.mem_singleton.mp hconn
      exact ⟨hauth, hids⟩

theorem findTunnel_table (key key' : TunnelKey) (t : Nat)
    (h : (s.findTunnel key).2.lookup key' = some t) : s.byTunnel.lookup key' = some t := by
  unfold findTunnel at h
  cases hkey : s.byTunnel.lookup key with
  | none => simpa [hkey] using h
  | some t' =>
    simp only [hkey] at h
    split_ifs at h
    · exact h
    · by_cases hk : key' = key
      · subst hk
        rw [AList.lookup_erase] at h
        cases h
      · rwa [AList.lookup_erase_ne hk] at h

theorem findTunnel_found {key : TunnelKey} {t : Nat} (h : (s.findTunnel key).1 = some t) :
    s.byTunnel.lookup key = some t := by
  unfold findTunnel at h
  cases hkey : s.byTunnel.lookup key with
  | none => simp [hkey] at h
  | some t' =>
    simp only [hkey] at h
    split_ifs at h
    · exact h

/-- A data connection gets to the tunnel that is registered under its own ids. -/
theorem Bound.onDataConnection (h : s.Bound env) {conn : TcpTlsConnection}
    (hauth : conn.Authentic env.certFactory) (tunnelId : TunnelId) (hello : TcpConnectionHello) :
    (s.onDataConnection conn tunnelId hello).Bound env := by
  have htable := findTunnel_table (s := s) ⟨conn.localId, conn.remoteId, tunnelId, hello.candidateId⟩
  unfold Node.onDataConnection
  dsimp only
  split
  · rename_i t ht
    have hids := h.byTunnel _ t (findTunnel_found ht)
    exact (h.forget htable).hand hauth hids
  · exact h.forget htable

/-- A tunnel of an accepted control connection connects as the identity that was asked for. -/
theorem Bound.onControlConnection (h : s.Bound env) {resolver : TlsServerCertResolver}
    {conn : TcpTlsConnection} {localCert : P2pIdentity}
    (hlocal : resolver.getServerIdentity conn.localName = some localCert)
    (hid : conn.localId = localCert.getId) (listenerEp : Endpoint) (tunnelId : TunnelId)
    (hello : TcpConnectionHello) (readyWritten : Bool) :
    (s.onControlConnection resolver listenerEp conn tunnelId hello readyWritten).Bound env := by
  simp only [Node.onControlConnection, hlocal]
  split_ifs
  · exact h.push ⟨hid.symm, rfl⟩
  · exact h

theorem Bound.step (htls : env.tls.Verifies) (h : s.Bound env) (ev : Event Peer) :
    (s.step env ev).Bound env := by
  cases ev with
  | openTunnel localIdentity remoteEp remoteId remoteName tunnelId candidateId dial ready =>
    simp only [Node.step]
    split
    · rename_i conn hconn
      obtain ⟨-, -, hlocal, -⟩ := Env.connect_ok htls hconn
      split_ifs
      · exact (h.push ⟨hlocal.symm, rfl⟩).register (by simp)
      · exact h
    · exact h
  | accepted resolver listenerEp x readyWritten =>
    simp only [Node.step]
    split
    · rename_i conn tunnelId hello hconn
      obtain ⟨-, hauth, -, localCert, -, hlocal, hid⟩ := Env.accept_ok htls hconn
      split
      · exact h.onControlConnection hlocal hid listenerEp tunnelId hello readyWritten
      · exact h.onDataConnection hauth tunnelId hello
    · exact h
  | register t =>
    simp only [Node.step]
    split
    · rename_i x hx
      split_ifs
      · exact h
      · exact h.register hx
    · exact h
  | openData t dial ready =>
    simp only [Node.step]
    split
    · rename_i x hx
      split
      · rename_i conn hconn
        obtain ⟨-, hauth, hlocal, hremote⟩ := Env.connect_ok htls hconn
        obtain ⟨hown, hpeer⟩ := h.connector x (List.mem_of_getElem? hx)
        split_ifs
        · refine h.hand hauth ?_
          rw [ids?, hx, hlocal, hremote, hown, hpeer]
          rfl
        · exact h
      · exact h
    · exact h
  | close t => exact h.modify t fun _ => ⟨rfl, rfl, rfl⟩
  | release t => exact h.modify t fun _ => ⟨rfl, rfl, rfl⟩
  | cleanupStale => exact h.forget fun key t hkey => (Table.lookup_retain.mp hkey).1

/-- The ids of the connections of either side are those that their peers have proved, a connect gets
the id that it asked for, and in every run the data connections of a tunnel are of its ids. -/
theorem identity_bound (env : Env Peer) (htls : env.tls.Verifies) :
    (∀ localIdentity remoteEp remoteId remoteName dial conn,
      env.connectWithOptionalLocal localIdentity remoteEp remoteId remoteName dial = some (.ok conn) →
        (∃ config serverName, env.tls.connect config serverName dial.peer = some conn.stream) ∧
          conn.Authentic env.certFactory ∧ conn.remoteId = remoteId) ∧
    (∀ localIdentity remoteId remoteName peer session,
      env.connectWithEp localIdentity remoteId remoteName peer = .ok session →
        Proves env.certFactory session remoteId) ∧
    (∀ resolver x conn hello, env.acceptConnection resolver x = .ok (conn, hello) →
      env.tls.accept ⟨⟨env.certFactory⟩, resolver⟩ x.peer = some conn.stream ∧
        conn.Authentic env.certFactory) ∧
    (∀ resolver x tunnel, env.acceptQuic resolver x = .ok tunnel →
      env.tls.accept ⟨⟨env.certFactory⟩, resolver⟩ x.peer = some tunnel.socket ∧
        Proves env.certFactory tunnel.socket tunnel.remoteId) ∧
    ∀ (evs : List (Event Peer)) t conn, (t, conn) ∈ (exec (step env) init evs).dataConns →
      conn.Authentic env.certFactory ∧
        ∃ x, (exec (step env) init evs).tunnels[t]? = some x ∧ x.localId = conn.localId ∧
          x.remoteId = conn.remoteId := by
  refine ⟨?_, ?_, ?_, ?_, ?_⟩
  · intro localIdentity remoteEp remoteId remoteName dial conn h
    obtain ⟨hstream, hauth, -, hremote⟩ := Env.connect_ok htls h
    exact ⟨hstream, hauth, hremote⟩
  · intro localIdentity remoteId remoteName peer session h
    exact (Env.connectWithEp_ok htls h).2
  · intro resolver x conn hello h
    obtain ⟨hstream, hauth, -⟩ := Env.accept_ok htls h
    exact ⟨hstream, hauth⟩
  · intro resolver x tunnel h
    obtain ⟨hstream, hproves, -⟩ := Env.acceptQuic_ok htls h
    exact ⟨hstream, hproves⟩
  · intro evs t conn hconn
    have hbound := exec_inv_all (I := fun s : Node => s.Bound env) (fun _ ev h => h.step htls ev)
      bound_init evs
    obtain ⟨hauth, hids⟩ := hbound.dataConns t conn hconn
    obtain ⟨x, hx, heq⟩ := Option.map_eq_some_iff.mp hids
    exact ⟨hauth, x, hx, (Prod.mk.inj heq).1, (Prod.mk.inj heq).2⟩

/-- A certificate is its id, and a signature the id with what is signed. -/
def plainCerts : P2pIdentityCertFactory := fun encoded =>
  .ok ⟨encoded, ['p'], .ed25519, fun message sign => sign = encoded ++ message, fun _ => true⟩

def plain : Env TlsSession := ⟨verifying, plainCerts, fun _ => ['p']⟩

/-- The peer `id` asks for `a`. -/
def shown (id : P2pId) : TlsSession :=
  ⟨some [id], some ['a'], [5], ⟨.ed25519, id ++ [5]⟩⟩

def here : TlsServerCertResolver := fun name =>
  if name = ['a'] then some ⟨[1], ['a'], .ok [1], .ok [1]⟩ else none

def port : Endpoint := ⟨.lan, .tcp, .v4 ⟨127, 0, 0, 1⟩ 80⟩

/-- What `id` sends: the hello of a connection of the tunnel 3. -/
def arrival (id : P2pId) (hello : TcpConnectionHello) : Arrival TlsSession :=
  ⟨port, port, shown id, some (3, hello)⟩

/-- The peer 7 has a tunnel; then 9 and 7 have a data connection that names it. -/
def visits : List (Event TlsSession) :=
  [.accepted here port (arrival [7] ⟨.control, 4, none, none⟩) true, .register 0,
    .accepted here port (arrival [9] ⟨.data, 4, some 1, none⟩) true,
    .accepted here port (arrival [7] ⟨.data, 4, some 1, none⟩) true]

theorem visits_bound :
    ((exec (step plain) init visits).dataConns.map fun d => (d.1, d.2.remoteId)) = [(0, [7])] ∧
      ∀ t conn, (t, conn) ∈ (exec (step plain) init visits).dataConns →
        conn.Authentic plainCerts ∧
          ∃ x, (exec (step plain) init visits).tunnels[t]? = some x ∧ x.localId = conn.localId ∧
            x.remoteId = conn.remoteId :=
  ⟨by decide +kernel, (identity_bound plain verifying_verifies).2.2.2.2 visits⟩

end Node

end BuckyP2p.Tcp.Identity
