import BuckyP2p.Base

/-!
# BuckyP2p.Tls.Verifiers — whom a TLS session is with (`tls/`, `networks/mod.rs`)

A certificate is what the certificate factory makes of its encoded form.  `TlsServerCertVerifier`
and `TlsClientCertVerifier` are what the code gives to rustls, for TLS 1.3 only; rustls itself is a
parameter, and `Rustls.Verifies` is what it does with them.

`Proves certFactory session id`: the peer of the session showed a certificate of `id` and holds its
key.  A session of either side proves the id of certificate 0 (`Verifies.accept_proves`), and that of
a client proves the id the verifier was made for (`Verifies.connect_proves`).
-/

namespace BuckyP2p.Tls

abbrev Bytes : Type := List U8

/-- An encoded certificate. -/
abbrev EncodedP2pIdentityCert : Type := Bytes

abbrev Name : Type := List Char

inductive P2pIdentitySignType
  | rsa | ed25519
  deriving DecidableEq

/-- `rustls::SignatureScheme`, with its code where the code of this crate names none. -/
inductive SignatureScheme
  | rsaPssSha256 | ed25519
  | other (code : U16)
  deriving DecidableEq

def signatureSchemeForSignType : P2pIdentitySignType → SignatureScheme
  | .rsa => .rsaPssSha256
  | .ed25519 => .ed25519

structure P2pIdentityCert where
  getId : P2pId
  getName : Name
  signType : P2pIdentitySignType
  verify : Bytes → Bytes → Bool
  verifyCert : Name → Bool

abbrev P2pIdentityCertFactory : Type := EncodedP2pIdentityCert → Except P2pErrorCode P2pIdentityCert

/-- `get_identity_cert` and `get_encoded_cert` are one field. -/
structure P2pIdentity where
  getId : P2pId
  getName : Name
  getEncodedCert : Except P2pErrorCode EncodedP2pIdentityCert
  getEncodedIdentity : Except P2pErrorCode Bytes

structure DigitallySignedStruct where
  scheme : SignatureScheme
  signature : Bytes
  deriving DecidableEq

/-- `rustls::Error`. -/
inductive Error
  | invalidCertificateBadEncoding
  | general (msg : String)
  deriving DecidableEq

structure TlsServerCertVerifier where
  certFactory : P2pIdentityCertFactory
  serverId : P2pId

namespace TlsServerCertVerifier

def verifyServerCert (v : TlsServerCertVerifier) (endEntity : EncodedP2pIdentityCert)
    (serverName : Name) : Except Error Unit :=
  match v.certFactory endEntity with
  | .error _ => .error .invalidCertificateBadEncoding
  | .ok cert =>
    if cert.verifyCert serverName && decide (cert.getId = v.serverId) then .ok ()
    else .error (.general "Invalid server name")

def verifyTls13Signature (v : TlsServerCertVerifier) (message : Bytes) (cert : EncodedP2pIdentityCert)
    (dss : DigitallySignedStruct) : Except Error Unit :=
  match v.certFactory cert with
  | .error _ => .error .invalidCertificateBadEncoding
  | .ok cert =>
    if dss.scheme ≠ signatureSchemeForSignType cert.signType then
      .error (.general "Invalid signature scheme")
    else if cert.verify message dss.signature && decide (cert.getId = v.serverId) then .ok ()
    else .error (.general "Invalid signature")

end TlsServerCertVerifier

structure TlsClientCertVerifier where
  certFactory : P2pIdentityCertFactory

namespace TlsClientCertVerifier

def verifyClientCert (v : TlsClientCertVerifier) (endEntity : EncodedP2pIdentityCert) :
    Except Error Unit :=
  match v.certFactory endEntity with
  | .error _ => .error (.general "Invalid certificate")
  | .ok cert =>
    if cert.verifyCert cert.getName then .ok () else .error (.general "Invalid signature")

def verifyTls13Signature (v : TlsClientCertVerifier) (message : Bytes) (cert : EncodedP2pIdentityCert)
    (dss : DigitallySignedStruct) : Except Error Unit :=
  match v.certFactory cert with
  | .error _ => .error (.general "Invalid certificate")
  | .ok cert =>
    if dss.scheme ≠ signatureSchemeForSignType cert.signType then
      .error (.general "Invalid signature scheme")
    else if cert.verify message dss.signature then .ok ()
    else .error (.general "Invalid signature")

end TlsClientCertVerifier

/-! ### Server names -/

/-- `trim_start_matches` of a pattern that is not empty. -/
def trimStartMatches (pattern : Name) (name : Name) : Name :=
  if pattern ≠ [] ∧ pattern <+: name then trimStartMatches pattern (name.drop pattern.length) else name
termination_by name.length
decreasing_by
  have hpattern : 0 < pattern.length := List.length_pos_iff.mpr (by tauto)
  have hle : pattern.length ≤ name.length := List.IsPrefix.length_le (by tauto)
  rw [List.length_drop]
  omega

def trimEndMatches (pattern : Name) (name : Name) : Name :=
  (trimStartMatches pattern.reverse name.reverse).reverse

def namePrefix : Name := ['p', '2', 'p', '.']

def nameSuffix : Name := ['.', 'c', 'o', 'm']

/-- `isServerName` says what `ServerName::try_from` accepts. -/
def validateServerName (isServerName : Name → Bool) (serverName : Name) : Name :=
  if isServerName serverName then serverName else namePrefix ++ serverName ++ nameSuffix

def parseServerName (serverName : Name) : Name :=
  if namePrefix <+: serverName ∧ nameSuffix <:+ serverName then
    trimEndMatches nameSuffix (trimStartMatches namePrefix serverName)
  else serverName

/-- The identities of a `TlsServerCertResolver`, by the names that it knows them by. -/
abbrev TlsServerCertResolver : Type := Name → Option P2pIdentity

def TlsServerCertResolver.getServerIdentity (r : TlsServerCertResolver) (name : Name) :
    Option P2pIdentity := r name

/-- The identity that is shown to a client that asks for `serverName`. -/
def TlsServerCertResolver.resolve (r : TlsServerCertResolver) (serverName : Option Name) :
    Option P2pIdentity :=
  serverName.bind fun name => r (parseServerName name)

/-! ### Sessions -/

structure ClientConfig where
  verifier : TlsServerCertVerifier
  cert : EncodedP2pIdentityCert
  key : Bytes

structure ServerConfig where
  verifier : TlsClientCertVerifier
  resolver : TlsServerCertResolver

/-- A session after its handshake: what the peer showed, and what it signed. -/
structure TlsSession where
  peerCertificates : Option (List EncodedP2pIdentityCert)
  serverName : Option Name
  transcript : Bytes
  certificateVerify : DigitallySignedStruct
  deriving DecidableEq

/-- rustls, with all that the peer may do in `Peer`. -/
structure Rustls (Peer : Type*) where
  isServerName : Name → Bool
  /-- `with_client_auth_cert` takes the certificate and the key. -/
  clientAuth : EncodedP2pIdentityCert → Bytes → Bool
  connect : ClientConfig → Name → Peer → Option TlsSession
  accept : ServerConfig → Peer → Option TlsSession

variable {Peer : Type*}

/-- A session is made only when the verifiers have taken certificate 0 and the signature. -/
structure Rustls.Verifies (tls : Rustls Peer) : Prop where
  connect : ∀ config name peer session, tls.connect config name peer = some session →
    ∃ cert rest, session.peerCertificates = some (cert :: rest) ∧
      config.verifier.verifyServerCert cert name = .ok () ∧
      config.verifier.verifyTls13Signature session.transcript cert session.certificateVerify = .ok ()
  accept : ∀ config peer session, tls.accept config peer = some session →
    ∃ cert rest, session.peerCertificates = some (cert :: rest) ∧
      config.verifier.verifyClientCert cert = .ok () ∧
      config.verifier.verifyTls13Signature session.transcript cert session.certificateVerify = .ok ()

/-- `id` is the id of certificate 0 of the session, and the peer signed the handshake with its key. -/
def Proves (certFactory : P2pIdentityCertFactory) (session : TlsSession) (id : P2pId) : Prop :=
  ∃ encoded rest cert, session.peerCertificates = some (encoded :: rest) ∧
    certFactory encoded = .ok cert ∧ cert.getId = id ∧
    session.certificateVerify.scheme = signatureSchemeForSignType cert.signType ∧
    cert.verify session.transcript session.certificateVerify.signature = true

theorem TlsServerCertVerifier.verifyTls13Signature_ok {v : TlsServerCertVerifier} {message : Bytes}
    {encoded : EncodedP2pIdentityCert} {dss : DigitallySignedStruct}
    (h : v.verifyTls13Signature message encoded dss = .ok ()) :
    ∃ cert, v.certFactory encoded = .ok cert ∧ dss.scheme = signatureSchemeForSignType cert.signType ∧
      cert.verify message dss.signature = true ∧ cert.getId = v.serverId := by
  unfold verifyTls13Signature at h
  cases hc : v.certFactory encoded with
  | error e => simp [hc] at h
  | ok cert =>
    simp only [hc, Bool.and_eq_true, decide_eq_true_eq, ne_eq, ite_not] at h
    split_ifs at h with hscheme hok
    exact ⟨cert, rfl, hscheme, hok⟩

theorem TlsClientCertVerifier.verifyTls13Signature_ok {v : TlsClientCertVerifier} {message : Bytes}
    {encoded : EncodedP2pIdentityCert} {dss : DigitallySignedStruct}
    (h : v.verifyTls13Signature message encoded dss = .ok ()) :
    ∃ cert, v.certFactory encoded = .ok cert ∧ dss.scheme = signatureSchemeForSignType cert.signType ∧
      cert.verify message dss.signature = true := by
  unfold verifyTls13Signature at h
  cases hc : v.certFactory encoded with
  | error e => simp [hc] at h
  | ok cert =>
    simp only [hc, ne_eq, ite_not] at h
    split_ifs at h with hscheme hok
    exact ⟨cert, rfl, hscheme, hok⟩

/-- A client has the peer that its verifier was made for. -/
theorem Rustls.Verifies.connect_proves {tls : Rustls Peer} (h : tls.Verifies) {config : ClientConfig}
    {name : Name} {peer : Peer} {session : TlsSession}
    (hsession : tls.connect config name peer = some session) :
    Proves config.verifier.certFactory session config.verifier.serverId := by
  obtain ⟨encoded, rest, hcert, -, hsigned⟩ := h.connect config name peer session hsession
  obtain ⟨cert, hmade, hscheme, hverify, hid⟩ :=
    TlsServerCertVerifier.verifyTls13Signature_ok hsigned
  exact ⟨encoded, rest, cert, hcert, hmade, hid, hscheme, hverify⟩

/-- A server has some peer: the one whose certificate is 0. -/
theorem Rustls.Verifies.accept_proves {tls : Rustls Peer} (h : tls.Verifies) {config : ServerConfig}
    {peer : Peer} {session : TlsSession} (hsession : tls.accept config peer = some session) :
    ∃ id, Proves config.verifier.certFactory session id := by
  obtain ⟨encoded, rest, hcert, -, hsigned⟩ := h.accept config peer session hsession
  obtain ⟨cert, hmade, hscheme, hverify⟩ := TlsClientCertVerifier.verifyTls13Signature_ok hsigned
  exact ⟨cert.getId, encoded, rest, cert, hcert, hmade, rfl, hscheme, hverify⟩

/-- A session of the peer that shows and signs what `peer` says, where the verifiers take it. -/
def verifying : Rustls TlsSession where
  isServerName name := !name.isEmpty
  clientAuth _ _ := true
  connect config name peer :=
    match peer.peerCertificates with
    | some (cert :: _) =>
      if config.verifier.verifyServerCert cert name = .ok () ∧
          config.verifier.verifyTls13Signature peer.transcript cert peer.certificateVerify = .ok () then
        some peer
      else none
    | _ => none
  accept config peer :=
    match peer.peerCertificates with
    | some (cert :: _) =>
      if config.verifier.verifyClientCert cert = .ok () ∧
          config.verifier.verifyTls13Signature peer.transcript cert peer.certificateVerify = .ok () then
        some peer
      else none
    | _ => none

theorem verifying_verifies : verifying.Verifies where
  connect config name peer session h := by
    simp only [verifying] at h
    split at h
    · rename_i cert rest hcert
      split_ifs at h with hok
      cases h
      exact ⟨cert, rest, hcert, hok⟩
    · cases h
  accept config peer session h := by
    simp only [verifying] at h
    split at h
    · rename_i cert rest hcert
      split_ifs at h with hok
      cases h
      exact ⟨cert, rest, hcert, hok⟩
    · cases h

end BuckyP2p.Tls
