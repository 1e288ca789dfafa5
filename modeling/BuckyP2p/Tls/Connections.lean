import BuckyP2p.Rendezvous.Message
import BuckyP2p.Tcp.Registration
import BuckyP2p.Tls.Verifiers
import BuckyP2p.Tunnel.Manager

/-!
# BuckyP2p.Tls.Connections — the ids of a connection (`tcp/connection.rs`, `quic/listener.rs`)

`connect_with_optional_local`, `accept_connection`, and the connections of a `QuicTunnelListener`.
A connecting side knows whom it wants, unless the id is the default one; an accepting side takes the
id of the certificate, and its own from the name that the peer asked for.

What the wire does to one connection is an input: who answers, whether a socket is made, what is
read.  The texts of errors are left out.
-/

namespace BuckyP2p.Tls

open Tcp (TcpConnectionHello)
open Tunnel (isDefault)

/-- What stands around the connections of a node. -/
structure Env (Peer : Type*) where
  tls : Rustls Peer
  certFactory : P2pIdentityCertFactory
  /-- `Display for P2pId`. -/
  toBase36 : P2pId → Name

structure TcpTlsConnection where
  stream : TlsSession
  localEp : Endpoint
  remoteEp : Endpoint
  localId : P2pId
  localName : Name
  remoteId : P2pId
  remoteName : Name

/-- The peer of the connection showed a certificate of its remote id, and holds the key. -/
def TcpTlsConnection.Authentic (certFactory : P2pIdentityCertFactory) (conn : TcpTlsConnection) :
    Prop :=
  Proves certFactory conn.stream conn.remoteId

/-- One connect: the local address of its socket, who answers, and whether the hello is written. -/
structure Dial (Peer : Type*) where
  socket : Except P2pErrorCode Endpoint
  peer : Peer
  helloWritten : Bool

/-- One accepted socket, and the hello that is read from it. -/
structure Arrival (Peer : Type*) where
  localEp : Endpoint
  remoteEp : Endpoint
  peer : Peer
  hello : Option (TunnelId × TcpConnectionHello)

/-- One incoming connection of QUIC; `added` is what the certificate cache says, and `accepted`
whether the hellos of the tunnel are exchanged. -/
structure QuicArrival (Peer : Type*) where
  localEp : Endpoint
  remoteEp : Endpoint
  peer : Peer
  added : Except P2pErrorCode Unit
  accepted : Except P2pErrorCode TunnelId

structure QuicTunnelIds where
  socket : TlsSession
  tunnelId : TunnelId
  localId : P2pId
  remoteId : P2pId
  localEp : Endpoint
  remoteEp : Endpoint

namespace Env

variable {Peer : Type*} (env : Env Peer)

def buildClientConfig (localIdentity : P2pIdentity) (remoteId : P2pId) :
    Except P2pErrorCode ClientConfig := do
  let cert ← localIdentity.getEncodedCert
  let key ← localIdentity.getEncodedIdentity
  if env.tls.clientAuth cert key then .ok ⟨⟨env.certFactory, remoteId⟩, cert, key⟩
  else .error .tlsError

/-- What `cert[0]` of the peer is made into. -/
def remoteDevice (session : TlsSession) : Except P2pErrorCode P2pIdentityCert :=
  match session.peerCertificates with
  | none | some [] => .error .certError
  | some (cert :: _) => env.certFactory cert

/-- The name and the ids of a connection that is established. -/
def connected (localIdentity : P2pIdentity) (localEp remoteEp : Endpoint) (remoteId : P2pId)
    (remoteName : Name) (session : TlsSession) : Except P2pErrorCode TcpTlsConnection := do
  let (remoteId, remoteName) ←
    if isDefault remoteId then do
      let device ← env.remoteDevice session
      pure (device.getId, device.getName)
    else pure (remoteId, remoteName)
  .ok ⟨session, localEp, remoteEp, localIdentity.getId, localIdentity.getName, remoteId, remoteName⟩

/-- `none`: the server name is not one, and its `unwrap` panics. -/
def connectWithOptionalLocal (localIdentity : P2pIdentity) (remoteEp : Endpoint) (remoteId : P2pId)
    (remoteName : Option Name) (dial : Dial Peer) : Option (Except P2pErrorCode TcpTlsConnection) :=
  match env.buildClientConfig localIdentity remoteId, dial.socket with
  | .error e, _ | .ok _, .error e => some (.error e)
  | .ok config, .ok localEp =>
    let name := remoteName.getD (env.toBase36 remoteId)
    let serverName := validateServerName env.tls.isServerName name
    if env.tls.isServerName serverName then
      match env.tls.connect config serverName dial.peer with
      | none => some (.error .connectFailed)
      | some session =>
        if dial.helloWritten then
          some (env.connected localIdentity localEp remoteEp remoteId name session)
        else some (.error .failed)
    else none

def acceptConnection (resolver : TlsServerCertResolver) (x : Arrival Peer) :
    Except P2pErrorCode (TcpTlsConnection × TunnelId × TcpConnectionHello) :=
  match env.tls.accept ⟨⟨env.certFactory⟩, resolver⟩ x.peer with
  | none => .error .connectFailed
  | some session =>
    match x.hello, session.peerCertificates, session.serverName with
    | none, _, _ => .error .failed
    | some _, none, _ | some _, some [], _ | some _, some (_ :: _), none => .error .certError
    | some hello, some (cert :: _), some serverName =>
      let serverName := parseServerName serverName
      match resolver.getServerIdentity serverName with
      | none => .error .certError
      | some localCert => do
        let remoteDevice ← env.certFactory cert
        .ok (⟨session, x.localEp, x.remoteEp, localCert.getId, serverName, remoteDevice.getId,
          remoteDevice.getName⟩, hello)

/-- `connect_with_ep`. -/
def connectWithEp (localIdentity : P2pIdentity) (remoteId : P2pId) (remoteName : Option Name)
    (peer : Peer) : Except P2pErrorCode TlsSession := do
  let config ← env.buildClientConfig localIdentity remoteId
  let serverName := validateServerName env.tls.isServerName (remoteName.getD (env.toBase36 remoteId))
  if env.tls.isServerName serverName then
    match env.tls.connect config serverName peer with
    | none => .error .connectFailed
    | some session => .ok session
  else .error .connectFailed

/-- `QuicTunnelListener::accept_connection`. -/
def acceptQuic (resolver : TlsServerCertResolver) (x : QuicArrival Peer) :
    Except P2pErrorCode QuicTunnelIds :=
  match env.tls.accept ⟨⟨env.certFactory⟩, resolver⟩ x.peer with
  | none => .error .quicError
  | some session =>
    match session.serverName, session.peerCertificates with
    | none, _ => .error .tlsError
    | some _, none | some _, some [] => .error .certError
    | some serverName, some (cert :: _) =>
      match resolver.getServerIdentity (parseServerName serverName) with
      | none => .error .certError
      | some localIdentity => do
        let remoteIdentity ← env.certFactory cert
        x.added
        let tunnelId ← x.accepted
        .ok ⟨session, tunnelId, localIdentity.getId, remoteIdentity.getId, x.localEp, x.remoteEp⟩

variable {env}

theorem buildClientConfig_ok {localIdentity : P2pIdentity} {remoteId : P2pId} {config : ClientConfig}
    (h : env.buildClientConfig localIdentity remoteId = .ok config) :
    config.verifier = ⟨env.certFactory, remoteId⟩ := by
  unfold buildClientConfig at h
  cases hcert : localIdentity.getEncodedCert with
  | error e => simp [hcert, bind, Except.bind] at h
  | ok cert =>
    cases hkey : localIdentity.getEncodedIdentity with
    | error e => simp [hcert, hkey, bind, Except.bind] at h
    | ok key =>
      simp only [hcert, hkey, bind, Except.bind] at h
      split_ifs at h
      cases h
      rfl

/-- Where a session proves the id that was asked for, the connection has it, whether the id was the
default one or not. -/
theorem connected_ok {localIdentity : P2pIdentity} {localEp remoteEp : Endpoint} {remoteId : P2pId}
    {remoteName : Name} {session : TlsSession} {conn : TcpTlsConnection}
    (hproves : Proves env.certFactory session remoteId)
    (h : env.connected localIdentity localEp remoteEp remoteId remoteName session = .ok conn) :
    conn.stream = session ∧ conn.localId = localIdentity.getId ∧ conn.remoteId = remoteId := by
  unfold connected at h
  cases hdefault : isDefault remoteId with
  | false =>
    simp only [hdefault, bind, Except.bind, pure, Except.pure] at h
    cases h
    exact ⟨rfl, rfl, rfl⟩
  | true =>
    obtain ⟨encoded, rest, cert, hcert, hmade, hid, -⟩ := hproves
    have hdevice : env.remoteDevice session = .ok cert := by
      simp only [remoteDevice, hcert]
      exact hmade
    simp only [hdefault, hdevice, bind, Except.bind, pure, Except.pure] at h
    cases h
    exact ⟨rfl, rfl, hid⟩

/-- The connection is the session of a handshake for the id that was asked for. -/
theorem connect_ok (htls : env.tls.Verifies) {localIdentity : P2pIdentity} {remoteEp : Endpoint}
    {remoteId : P2pId} {remoteName : Option Name} {dial : Dial Peer} {conn : TcpTlsConnection}
    (h : env.connectWithOptionalLocal localIdentity remoteEp remoteId remoteName dial =
      some (.ok conn)) :
    (∃ config serverName, env.tls.connect config serverName dial.peer = some conn.stream) ∧
      conn.Authentic env.certFactory ∧ conn.localId = localIdentity.getId ∧
      conn.remoteId = remoteId := by
  unfold connectWithOptionalLocal at h
  cases hconfig : env.buildClientConfig localIdentity remoteId with
  | error e => simp [hconfig] at h
  | ok config =>
    cases hsocket : dial.socket with
    | error e => simp [hconfig, hsocket] at h
    | ok localEp =>
      simp only [hconfig, hsocket] at h
      split at h
      · rename_i hname
        split at h
        · cases h
        · rename_i session hsession
          have hproves := htls.connect_proves hsession
          rw [buildClientConfig_ok hconfig] at hproves
          split at h
          · obtain ⟨hstream, hlocal, hremote⟩ := connected_ok hproves (Option.some.inj h)
            refine ⟨⟨config, _, hstream ▸ hsession⟩, ?_, hlocal, hremote⟩
            rw [TcpTlsConnection.Authentic, hstream, hremote]
            exact hproves
          · cases h
      · cases h

theorem connectWithEp_ok (htls : env.tls.Verifies) {localIdentity : P2pIdentity} {remoteId : P2pId}
    {remoteName : Option Name} {peer : Peer} {session : TlsSession}
    (h : env.connectWithEp localIdentity remoteId remoteName peer = .ok session) :
    (∃ config serverName, env.tls.connect config serverName peer = some session) ∧
      Proves env.certFactory session remoteId := by
  unfold connectWithEp at h
  cases hconfig : env.buildClientConfig localIdentity remoteId with
  | error e => simp [hconfig, bind, Except.bind] at h
  | ok config =>
    simp only [hconfig, bind, Except.bind] at h
    split at h
    · split at h
      · cases h
      · rename_i session' hsession
        cases h
        have hproves := htls.connect_proves hsession
        rw [buildClientConfig_ok hconfig] at hproves
        exact ⟨⟨config, _, hsession⟩, hproves⟩
    · cases h

theorem accept_ok (htls : env.tls.Verifies) {resolver : TlsServerCertResolver} {x : Arrival Peer}
    {conn : TcpTlsConnection} {hello : TunnelId × TcpConnectionHello}
    (h : env.acceptConnection resolver x = .ok (conn, hello)) :
    env.tls.accept ⟨⟨env.certFactory⟩, resolver⟩ x.peer = some conn.stream ∧
      conn.Authentic env.certFactory ∧ x.hello = some hello ∧
      ∃ localCert, resolver.resolve conn.stream.serverName = some localCert ∧
        resolver.getServerIdentity conn.localName = some localCert ∧ conn.localId = localCert.getId := by
  unfold acceptConnection at h
  cases hsession : env.tls.accept ⟨⟨env.certFactory⟩, resolver⟩ x.peer with
  | none => simp [hsession] at h
  | some session =>
    obtain ⟨_, encoded, rest, cert, hcert, hmade, -, hscheme, hverify⟩ :=
      htls.accept_proves hsession
    replace hmade : env.certFactory encoded = .ok cert := hmade
    cases hhello : x.hello with
    | none => simp [hsession, hhello] at h
    | some hello' =>
      cases hname : session.serverName with
      | none => simp [hsession, hhello, hcert, hname] at h
      | some serverName =>
        simp only [hsession, hhello, hcert, hname] at h
        cases hlocal : resolver.getServerIdentity (parseServerName serverName) with
        | none => simp [hlocal] at h
        | some localCert =>
          simp only [hlocal, hmade, bind, Except.bind] at h
          cases h
          refine ⟨rfl, ⟨encoded, rest, cert, hcert, hmade, rfl, hscheme, hverify⟩, rfl, localCert, ?_,
            hlocal, rfl⟩
          rw [TlsServerCertResolver.resolve, hname]
          exact hlocal

theorem acceptQuic_ok (htls : env.tls.Verifies) {resolver : TlsServerCertResolver}
    {x : QuicArrival Peer} {tunnel : QuicTunnelIds} (h : env.acceptQuic resolver x = .ok tunnel) :
    env.tls.accept ⟨⟨env.certFactory⟩, resolver⟩ x.peer = some tunnel.socket ∧
      Proves env.certFactory tunnel.socket tunnel.remoteId ∧
      ∃ localIdentity, resolver.resolve tunnel.socket.serverName = some localIdentity ∧
        tunnel.localId = localIdentity.getId := by
  unfold acceptQuic at h
  cases hsession : env.tls.accept ⟨⟨env.certFactory⟩, resolver⟩ x.peer with
  | none => simp [hsession] at h
  | some session =>
    obtain ⟨_, encoded, rest, cert, hcert, hmade, -, hscheme, hverify⟩ :=
      htls.accept_proves hsession
    replace hmade : env.certFactory encoded = .ok cert := hmade
    cases hname : session.serverName with
    | none => simp [hsession, hname] at h
    | some serverName =>
      simp only [hsession, hcert, hname] at h
      cases hlocal : resolver.getServerIdentity (parseServerName serverName) with
      | none => simp [hlocal] at h
      | some localIdentity =>
        cases hadded : x.added with
        | error e => simp [hlocal, hmade, hadded, bind, Except.bind] at h
        | ok u =>
          cases haccepted : x.accepted with
          | error e => simp [hlocal, hmade, hadded, haccepted, bind, Except.bind] at h
          | ok tunnelId =>
            simp only [hlocal, hmade, hadded, haccepted, bind, Except.bind] at h
            cases h
            refine ⟨rfl, ⟨encoded, rest, cert, hcert, hmade, rfl, hscheme, hverify⟩, localIdentity, ?_,
              rfl⟩
            rw [TlsServerCertResolver.resolve, hname]
            exact hlocal

end Env

end BuckyP2p.Tls
