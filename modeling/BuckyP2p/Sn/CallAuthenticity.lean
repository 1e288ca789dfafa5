import BuckyP2p.Sn.Call

/-!
# BuckyP2p.Sn.CallAuthenticity — whose certificate a call carries

The client of a call is authenticated and its certificate is checked, but the call names the caller
once more, in `from_peer_id`, and that name is what the cached certificate and the de-duplication
entry are taken from.  `spoofed` says exactly when this goes wrong.
-/

namespace BuckyP2p.Sn

open Lib

namespace SnService

variable (svc : SnService)

/-- The encoded certificate is one with this id. -/
def CertOf (id : P2pId) (encoded : EncodedP2pIdentityCert) : Prop :=
  ∃ cert, svc.certFactory encoded = .ok cert ∧ cert.getId = id

/-- A certificate that the factory has read is written so that it is read with the same id. -/
def Faithful : Prop :=
  ∀ encoded cert again, svc.certFactory encoded = .ok cert → cert.getEncodedCert = .ok again →
    svc.CertOf cert.getId again

/-- The peer managers that a service comes to: reports with a certificate of the authenticated
peer, profiles, and peers that leave. -/
inductive Reached : PeerManager → Prop
  | empty : Reached ∅
  | report {m : PeerManager} (h : Reached m) (id : P2pId) (encoded : EncodedP2pIdentityCert)
    (ctx : SnConnectionValidateContext) (device : P2pIdentityCert) (protocolVersion : U8)
    (mapPorts : List (Protocol × U16)) (localEps : List Endpoint)
    (hctx : svc.validateContextFromCert id encoded = .ok ctx)
    (hdevice : svc.certFactory encoded = .ok device) :
    Reached (m.addOrUpdatePeer id (some device) protocolVersion mapPorts localEps)
  | profile {m : PeerManager} (h : Reached m) (id : P2pId) (profile : NatProfile) :
    Reached (m.setNetProfile id profile)
  | remove {m : PeerManager} (h : Reached m) (id : P2pId) : Reached (m.removePeer id)

/-- The peer managers that a call sees are ones that the service comes to. -/
structure CallViews.Reached (views : CallViews) : Prop where
  atCert : svc.Reached views.atCert
  atFrom : svc.Reached views.atFrom
  atTo : svc.Reached views.atTo
  atDesc : svc.Reached views.atDesc

variable {svc}

theorem validateContextFromCert_ok {id : P2pId} {encoded : EncodedP2pIdentityCert}
    {ctx : SnConnectionValidateContext} (h : svc.validateContextFromCert id encoded = .ok ctx) :
    svc.CertOf id encoded := by
  unfold validateContextFromCert at h
  cases hcert : svc.certFactory encoded with
  | error e =>
    rw [hcert] at h
    cases h
  | ok cert =>
    rw [hcert] at h
    dsimp only at h
    split_ifs at h with hid
    exact ⟨cert, hcert, not_not.mp hid⟩

/-- Every peer is cached with a certificate of its own. -/
theorem Reached.cert {m : PeerManager} (h : svc.Reached m) {id : P2pId} {info : CachedPeerInfo}
    (hinfo : m.lookup id = some info) :
    ∃ encoded, svc.certFactory encoded = .ok info.desc ∧ info.desc.getId = id := by
  induction h generalizing id info with
  | empty => cases hinfo
  | @report m _ p encoded ctx device version mapPorts localEps hctx hdevice ih =>
    by_cases hp : id = p
    · subst hp
      obtain ⟨cert, hcert, hid⟩ := validateContextFromCert_ok hctx
      obtain rfl : cert = device := Except.ok.inj (hcert.symm.trans hdevice)
      have hdesc : info.desc = cert := by
        unfold PeerManager.addOrUpdatePeer at hinfo
        cases hm : m.lookup id with
        | none =>
          simp only [hm, AList.lookup_insert, Option.some.injEq] at hinfo
          rw [← hinfo]
          rfl
        | some peer =>
          simp only [hm, AList.lookup_insert, Option.some.injEq] at hinfo
          rw [← hinfo]
          rfl
      rw [hdesc]
      exact ⟨encoded, hcert, hid⟩
    · refine ih ?_
      unfold PeerManager.addOrUpdatePeer at hinfo
      cases hm : m.lookup p with
      | none =>
        simp only [hm, AList.lookup_insert_ne hp] at hinfo
        exact hinfo
      | some peer =>
        simp only [hm, AList.lookup_insert_ne hp] at hinfo
        exact hinfo
  | @profile m _ p profile ih =>
    unfold PeerManager.setNetProfile at hinfo
    cases hm : m.lookup p with
    | none =>
      rw [hm] at hinfo
      exact ih hinfo
    | some peer =>
      rw [hm] at hinfo
      dsimp only at hinfo
      by_cases hp : id = p
      · subst hp
        rw [AList.lookup_insert, Option.some.injEq] at hinfo
        rw [← hinfo]
        show ∃ encoded, svc.certFactory encoded = .ok peer.desc ∧ peer.desc.getId = id
        exact ih hm
      · rw [AList.lookup_insert_ne hp] at hinfo
        exact ih hinfo
  | @remove m _ p ih =>
    unfold PeerManager.removePeer at hinfo
    by_cases hp : id = p
    · subst hp
      rw [AList.lookup_erase] at hinfo
      cases hinfo
    · rw [AList.lookup_erase_ne hp] at hinfo
      exact ih hinfo

/-! ## The checks at the beginning -/

/-- A call that is admitted with a certificate has one of the client. -/
theorem checkClient_cert {peers : PeerManager} {answers : CallAnswers} {c : P2pId}
    {info : EncodedP2pIdentityCert} (h : svc.checkClient peers answers c (some info) = .ok ()) :
    svc.CertOf c info := by
  have hctx : ∃ ctx, svc.validateContextFromCert c info = .ok ctx := by
    cases hctx : svc.validateContextFromCert c info with
    | ok ctx => exact ⟨ctx, rfl⟩
    | error e =>
      simp only [checkClient, clientCertFromRequestOrCache, bind, Except.bind, hctx] at h
      cases h
  obtain ⟨ctx, hctx⟩ := hctx
  exact validateContextFromCert_ok hctx

/-! ## What is sent -/

variable {stub : CallStub} {answers : CallAnswers} {call : SnCall}

theorem deliver_called {peers : PeerManager} {localSnId target : P2pId} {m : SnCalled}
    (h : .called target m ∈ (svc.deliverCalledToLocalPeer peers stub answers call localSnId).effects) :
    ∃ info desc, call.peerInfo = some info ∧ svc.certFactory info = .ok desc ∧
      desc.getEncodedCert = .ok m.peerInfo := by
  unfold deliverCalledToLocalPeer at h
  cases hto : peers.findPeer call.toPeerId with
  | none => simp [hto] at h
  | some toPeer =>
    cases hinfo : call.peerInfo with
    | none => simp [hto, hinfo] at h
    | some info =>
      cases hdesc : svc.certFactory info with
      | error e => simp [hto, hinfo, hdesc] at h
      | ok desc =>
        refine ⟨info, desc, rfl, hdesc, ?_⟩
        simp only [hto, hinfo, hdesc] at h
        split_ifs at h with hsend
        · cases henc : desc.getEncodedCert with
          | error e => simp [henc] at h
          | ok peerInfo =>
            simp only [henc] at h
            cases hvec : answers.encode (SnCalled.ofCall call answers.calledSeq localSnId peerInfo) with
            | error e => simp [hvec] at h
            | ok bytes =>
              simp only [hvec] at h
              obtain ⟨-, rfl⟩ : target = call.toPeerId ∧
                  m = SnCalled.ofCall call answers.calledSeq localSnId peerInfo := by
                simpa using h
              rfl
        · simp at h

theorem relayed_call {localSnId : P2pId} {leases : List P2pId} {e : CallEffect}
    (h : e ∈ (relayCallToServingSn answers localSnId call leases).1) :
    ∃ servingSnId, e = .relayed servingSnId call := by
  induction leases with
  | nil => cases h
  | cons servingSnId leases ih =>
    unfold relayCallToServingSn at h
    split_ifs at h with hlocal
    · exact ih h
    · cases hinter : answers.interSn with
      | none =>
        simp only [hinter] at h
        exact ih h
      | some relay =>
        simp only [hinter] at h
        rcases List.mem_cons.mp h with rfl | hrest
        · exact ⟨servingSnId, rfl⟩
        · cases hrelay : relay servingSnId with
          | error e =>
            simp only [hrelay] at hrest
            exact ih hrest
          | ok outcome =>
            simp only [hrelay] at hrest
            split_ifs at hrest with haccepted
            · cases hrest
            · exact ih hrest

theorem callLocalPeer_effects (stub : CallStub) (answers : CallAnswers) (call : SnCall)
    (localId : P2pId) (fromPeer toPeer : CachedPeerInfo) (desc : P2pIdentityCert) :
    (callLocalPeer stub answers localId fromPeer toPeer desc call).effects =
      [.stubInserted call.fromPeerId call.tunnelId
        (stub.lookup (call.fromPeerId, call.tunnelId)).isNone] ∨
    ∃ m, (callLocalPeer stub answers localId fromPeer toPeer desc call).effects =
      [.stubInserted call.fromPeerId call.tunnelId true, .called call.toPeerId m] ∧
      (stub.lookup (call.fromPeerId, call.tunnelId)).isNone = true ∧
      desc.getEncodedCert = .ok m.peerInfo := by
  unfold callLocalPeer CallStub.insert
  dsimp only
  split_ifs with hsend
  · rw [Bool.and_eq_true] at hsend
    cases henc : desc.getEncodedCert with
    | error e => exact .inl rfl
    | ok peerInfo =>
      dsimp only
      split
      · exact .inl rfl
      · have hsent : ∀ m : SnCalled, m.peerInfo = peerInfo →
            [CallEffect.stubInserted call.fromPeerId call.tunnelId
              (stub.lookup (call.fromPeerId, call.tunnelId)).isNone] ++
              [CallEffect.called call.toPeerId m] =
            [.stubInserted call.fromPeerId call.tunnelId true, .called call.toPeerId m] ∧
            (stub.lookup (call.fromPeerId, call.tunnelId)).isNone = true ∧
            Except.ok peerInfo = (Except.ok m.peerInfo : P2pResult _) := by
          intro m hm
          rw [hsend.1, hm]
          exact ⟨rfl, rfl, rfl⟩
        exact .inr ⟨_, hsent _ rfl⟩
  · exact .inl rfl

/-! ## Authentic calls -/

variable (svc)

/-- Every `SnCalled` that comes of the call, here or at an SN that it is relayed to, has a
certificate of `c`, and the de-duplication entry that the call creates is one of `c`. -/
structure Authentic (c : P2pId) (effects : List CallEffect) : Prop where
  called : ∀ target m, .called target m ∈ effects → svc.CertOf c m.peerInfo
  relayed : ∀ servingSnId call, .relayed servingSnId call ∈ effects →
    ∀ (other : SnService) (peers : PeerManager) (stub : CallStub) (answers : CallAnswers)
      (localSnId target : P2pId) (m : SnCalled), other.certFactory = svc.certFactory →
      .called target m ∈ (other.deliverCalledToLocalPeer peers stub answers call localSnId).effects →
      svc.CertOf c m.peerInfo
  stubs : ∀ remote seq, .stubInserted remote seq true ∈ effects → remote = c

/-- An admitted call in the name of another peer, both it and the target being known here, and not
seen before. -/
def Spoofed (views : CallViews) (stub : CallStub) (answers : CallAnswers) (c : P2pId)
    (call : SnCall) : Prop :=
  svc.checkClient views.atCert answers c call.peerInfo = .ok () ∧ call.fromPeerId ≠ c ∧
    (views.atFrom.findPeer call.fromPeerId).isSome = true ∧
    (views.atTo.findPeer call.toPeerId).isSome = true ∧
    (call.peerInfo.isSome = true ∨ (views.atDesc.findPeer call.fromPeerId).isSome = true) ∧
    (stub.lookup (call.fromPeerId, call.tunnelId)).isNone = true

variable {svc}

theorem authentic_nil (c : P2pId) : svc.Authentic c [] where
  called _ _ h := by cases h
  relayed _ _ h := by cases h
  stubs _ _ h := by cases h

/-- A call is relayed with the certificate that was checked, or without one. -/
theorem authentic_relayed (hfaithful : svc.Faithful) {peers : PeerManager} {c localSnId : P2pId}
    (hchecked : svc.checkClient peers answers c call.peerInfo = .ok ()) {leases : List P2pId} :
    svc.Authentic c (relayCallToServingSn answers localSnId call leases).1 where
  called target m h := by
    obtain ⟨servingSnId, heq⟩ := relayed_call h
    cases heq
  stubs remote seq h := by
    obtain ⟨servingSnId, heq⟩ := relayed_call h
    cases heq
  relayed servingSnId call' h other peers' stub' answers' localSnId' target m hsame hcalled := by
    obtain ⟨_, heq⟩ := relayed_call h
    cases heq
    obtain ⟨info, desc, hinfo, hdesc, henc⟩ := deliver_called hcalled
    rw [hinfo] at hchecked
    rw [hsame] at hdesc
    obtain ⟨cert, hcert, rfl⟩ := checkClient_cert hchecked
    obtain rfl : cert = desc := Except.ok.inj (hcert.symm.trans hdesc)
    exact hfaithful info cert m.peerInfo hdesc henc

/-- The certificate that a call of the client itself is sent with is the client's. -/
theorem fromPeerDesc_cert {views : CallViews} (hviews : CallViews.Reached svc views) {c : P2pId}
    (hchecked : svc.checkClient views.atCert answers c call.peerInfo = .ok ()) (hfrom : call.fromPeerId = c)
    {desc : P2pIdentityCert} (h : svc.fromPeerDesc views.atDesc call = .ok (some desc)) :
    ∃ encoded, svc.certFactory encoded = .ok desc ∧ desc.getId = c := by
  unfold fromPeerDesc at h
  cases hinfo : call.peerInfo with
  | none =>
    simp only [hinfo, Except.ok.injEq, Option.map_eq_some_iff] at h
    obtain ⟨peer, hpeer, rfl⟩ := h
    rw [hfrom] at hpeer
    exact hviews.atDesc.cert hpeer
  | some info =>
    rw [hinfo] at hchecked
    obtain ⟨cert, hcert, rfl⟩ := checkClient_cert hchecked
    simp only [hinfo, hcert, Except.ok.injEq, Option.some.injEq] at h
    exact ⟨info, by rw [← h]; exact hcert, by rw [← h]⟩

/-- A certificate that was checked can be read again. -/
theorem fromPeerDesc_ne_error {peers : PeerManager} {views : CallViews} {c : P2pId}
    (hchecked : svc.checkClient views.atCert answers c call.peerInfo = .ok ()) (u : Unit) :
    svc.fromPeerDesc peers call ≠ .error u := by
  intro h
  unfold fromPeerDesc at h
  cases hinfo : call.peerInfo with
  | none => simp [hinfo] at h
  | some info =>
    rw [hinfo] at hchecked
    obtain ⟨cert, hcert, -⟩ := checkClient_cert hchecked
    simp [hinfo, hcert] at h

/-- The caller's certificate comes with the call, or from its entry. -/
theorem fromPeerDesc_isSome {peers : PeerManager} {desc : Option P2pIdentityCert}
    (h : svc.fromPeerDesc peers call = .ok desc) :
    desc.isSome = true ↔
      call.peerInfo.isSome = true ∨ (peers.findPeer call.fromPeerId).isSome = true := by
  unfold fromPeerDesc at h
  cases hinfo : call.peerInfo with
  | none =>
    simp only [hinfo, Except.ok.injEq] at h
    rw [← h]
    simp
  | some info =>
    cases hcert : svc.certFactory info with
    | ok cert =>
      simp only [hinfo, hcert, Except.ok.injEq] at h
      rw [← h]
      simp
    | error e => simp [hinfo, hcert] at h

theorem authentic_callLocalPeer (hfaithful : svc.Faithful) {c localId : P2pId}
    {fromPeer toPeer : CachedPeerInfo} {desc : P2pIdentityCert} {encoded : EncodedP2pIdentityCert}
    (hfrom : call.fromPeerId = c) (hdesc : svc.certFactory encoded = .ok desc)
    (hid : desc.getId = c) :
    svc.Authentic c (callLocalPeer stub answers localId fromPeer toPeer desc call).effects := by
  rcases callLocalPeer_effects stub answers call localId fromPeer toPeer desc with
    heff | ⟨m, heff, -, henc⟩
  · rw [heff]
    refine ⟨?_, ?_, ?_⟩
    · simp
    · simp
    · intro remote seq h
      simp only [List.mem_singleton, CallEffect.stubInserted.injEq] at h
      rw [h.1, hfrom]
  · rw [heff]
    refine ⟨?_, ?_, ?_⟩
    · intro target m' h
      obtain ⟨-, rfl⟩ : target = call.toPeerId ∧ m' = m := by simpa using h
      rw [← hid]
      exact hfaithful encoded desc m'.peerInfo hdesc henc
    · simp
    · intro remote seq h
      obtain ⟨rfl, -⟩ : remote = call.fromPeerId ∧ seq = call.tunnelId := by simpa using h
      exact hfrom

theorem not_authentic_of_stub {c remote : P2pId} {seq : TunnelId} {effects : List CallEffect}
    (h : .stubInserted remote seq true ∈ effects) (hne : remote ≠ c) : ¬ svc.Authentic c effects :=
  fun hauth => hne (hauth.stubs remote seq h)

/-- The first thing done for a target that is served here is the de-duplication entry. -/
theorem stubInserted_mem {localId : P2pId} {fromPeer toPeer : CachedPeerInfo}
    {desc : P2pIdentityCert}
    (hnew : (stub.lookup (call.fromPeerId, call.tunnelId)).isNone = true) :
    .stubInserted call.fromPeerId call.tunnelId true ∈
      (callLocalPeer stub answers localId fromPeer toPeer desc call).effects := by
  rcases callLocalPeer_effects stub answers call localId fromPeer toPeer desc with
    heff | ⟨m, heff, -, -⟩
  · rw [heff, hnew]
    exact List.mem_singleton_self _
  · rw [heff]
    exact List.mem_cons_self ..

/-- A call that was seen before leaves nothing but the entry that was there. -/
theorem authentic_seen {c localId : P2pId} {fromPeer toPeer : CachedPeerInfo}
    {desc : P2pIdentityCert}
    (hseen : (stub.lookup (call.fromPeerId, call.tunnelId)).isNone ≠ true) :
    svc.Authentic c (callLocalPeer stub answers localId fromPeer toPeer desc call).effects := by
  rcases callLocalPeer_effects stub answers call localId fromPeer toPeer desc with
    heff | ⟨m, -, hnew, -⟩
  · rw [heff, Bool.eq_false_iff.mpr hseen]
    refine ⟨?_, ?_, ?_⟩ <;> simp
  · exact absurd hnew hseen

/-- For every state and every call: what comes of the call is the client's, unless the call is made
in the name of another peer. -/
theorem handleCall_authentic_iff (svc : SnService) (hfaithful : svc.Faithful) (views : CallViews)
    (hviews : CallViews.Reached svc views) (stub : CallStub) (answers : CallAnswers)
    (localId c : P2pId) (call : SnCall) :
    svc.Authentic c (svc.handleCall views stub answers localId c call).effects ↔
      ¬ svc.Spoofed views stub answers c call := by
  unfold handleCall
  cases hchecked : svc.checkClient views.atCert answers c call.peerInfo with
  | error e =>
    refine iff_of_true (authentic_nil c) fun hspoof => ?_
    rw [hspoof.1] at hchecked
    cases hchecked
  | ok u =>
    cases hfrom : views.atFrom.findPeer call.fromPeerId with
    | none =>
      refine iff_of_true (authentic_nil c) fun hspoof => ?_
      have hknown := hspoof.2.2.1
      rw [hfrom] at hknown
      cases hknown
    | some fromPeer =>
      cases hto : views.atTo.findPeer call.toPeerId with
      | none =>
        refine iff_of_true (authentic_relayed hfaithful hchecked) fun hspoof => ?_
        have hknown := hspoof.2.2.2.1
        rw [hto] at hknown
        cases hknown
      | some toPeer =>
        dsimp only
        cases hdesc : svc.fromPeerDesc views.atDesc call with
        | error u => exact absurd hdesc (fromPeerDesc_ne_error hchecked u)
        | ok desc =>
          have hthere := fromPeerDesc_isSome hdesc
          cases desc with
          | none =>
            refine iff_of_true (authentic_nil c) fun hspoof => ?_
            cases hthere.mpr hspoof.2.2.2.2.1
          | some desc =>
            dsimp only
            by_cases hself : call.fromPeerId = c
            · obtain ⟨encoded, hcert, hid⟩ := fromPeerDesc_cert hviews hchecked hself hdesc
              exact iff_of_true (authentic_callLocalPeer hfaithful hself hcert hid)
                fun hspoof => hspoof.2.1 hself
            · by_cases hnew : (stub.lookup (call.fromPeerId, call.tunnelId)).isNone = true
              · exact iff_of_false (not_authentic_of_stub (stubInserted_mem hnew) hself)
                  (not_not.mpr ⟨hchecked, hself, by rw [hfrom]; rfl, by rw [hto]; rfl,
                    hthere.mp rfl, hnew⟩)
              · exact iff_of_true (authentic_seen hnew) fun hspoof => hnew hspoof.2.2.2.2.2

/-! ## Calls of peer `[7]` -/

/-- Certificates that are the bytes of their id. -/
def plainService : SnService := ⟨fun bytes => .ok ⟨bytes, .ok bytes, []⟩, fun _ => "", some [1]⟩

theorem plainService_faithful : plainService.Faithful := by
  intro encoded cert again hcert henc
  cases hcert
  cases henc
  exact ⟨_, rfl, rfl⟩

/-- A peer reports itself. -/
def withPeer (m : PeerManager) (id : P2pId) : PeerManager :=
  m.addOrUpdatePeer id (some ⟨id, .ok id, []⟩) 0 [] []

theorem withPeer_reached {m : PeerManager} (h : plainService.Reached m) (id : P2pId) :
    plainService.Reached (withPeer m id) := by
  refine .report h id id ⟨id, id⟩ ⟨id, .ok id, []⟩ 0 [] [] ?_ rfl
  simp [validateContextFromCert, plainService]

/-- Peers `[5]`, `[6]` and `[7]` are known. -/
def threePeers : PeerManager := withPeer (withPeer (withPeer ∅ [5]) [6]) [7]

def threeViews : CallViews := ⟨threePeers, threePeers, threePeers, threePeers⟩

theorem threeViews_reached : CallViews.Reached plainService threeViews := by
  have h : plainService.Reached threePeers :=
    withPeer_reached (withPeer_reached (withPeer_reached .empty [5]) [6]) [7]
  exact ⟨h, h, h, h⟩

def callAnswers : CallAnswers where
  validate _ := .ok .accept
  observedEp := []
  calledSeq := 1
  encode _ := .ok []
  send := .ok ()
  leases := []
  interSn := none
  now := 10

/-- A call of peer `[6]` without a certificate, in the name of `caller`. -/
def callSix (caller : P2pId) : SnCall :=
  ⟨0, 0, 1, 3, [1], [6], caller, none, none, none, 10, .stream, [], true, none⟩

theorem handleCall_authentic_iff_self :
    ¬ plainService.Spoofed threeViews ∅ callAnswers [7] (callSix [7]) ∧
    plainService.Authentic [7]
      (plainService.handleCall threeViews ∅ callAnswers [1] [7] (callSix [7])).effects := by
  have hself : ¬ plainService.Spoofed threeViews ∅ callAnswers [7] (callSix [7]) :=
    fun hspoof => hspoof.2.1 rfl
  exact ⟨hself, (handleCall_authentic_iff plainService plainService_faithful threeViews
    threeViews_reached ∅ callAnswers [1] [7] (callSix [7])).mpr hself⟩

/-- Peer `[7]` calls in the name of `[5]`: the target is sent the certificate of `[5]`. -/
theorem call_in_other_name :
    (plainService.handleCall threeViews ∅ callAnswers [1] [7] (callSix [5])).effects =
      [.stubInserted [5] 3 true, .called [6] (SnCalled.ofCall (callSix [5]) 1 [1] [5])] ∧
    ¬ plainService.Authentic [7]
      (plainService.handleCall threeViews ∅ callAnswers [1] [7] (callSix [5])).effects := by
  have heffects : (plainService.handleCall threeViews ∅ callAnswers [1] [7] (callSix [5])).effects =
      [.stubInserted [5] 3 true, .called [6] (SnCalled.ofCall (callSix [5]) 1 [1] [5])] := by
    decide +kernel
  refine ⟨heffects, fun hauth => ?_⟩
  have hname := hauth.stubs [5] 3 (by rw [heffects]; exact List.mem_cons_self ..)
  exact absurd hname (by decide)

end SnService

end BuckyP2p.Sn
