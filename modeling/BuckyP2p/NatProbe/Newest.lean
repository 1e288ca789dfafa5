import BuckyP2p.NatProbe.Directives
import BuckyP2p.NatProbe.Profiles

/-!
# BuckyP2p.NatProbe.Newest — which of two measurements is kept

A stored profile comes from a client's report or from the result of a directive.  Only the first
path compares the times of measurement, so the newest one wins exactly in the runs in which results
come in order (`newest_wins_iff`).
-/

namespace BuckyP2p.NatProbe

open Lib

/-- The time that an operation is given. -/
def ProbeOp.now : ProbeOp → Option Timestamp
  | .capableReport _ _ _ _ _ now | .reportedProfile _ _ _ _ now | .control _ _ _ now
  | .expireDue now => some now
  | _ => none

/-- A fresh profile that the operation replaces by a known one is not the newer one. -/
def NewestWins (s : NatProbeScheduler) (op : ProbeOp) : Prop :=
  ∀ now p old profile, op.now = some now → s.stored p = some old → old.isFresh now = true →
    (s.step op).stored p = some profile → profile.observation ≠ .unknown →
    old.observedAt ≤ profile.observedAt

/-- The result that the operation brings, if it is accepted; `controlSupported` is what the report
says. -/
def NatProbeScheduler.delivery (s : NatProbeScheduler) : ProbeOp → Option (P2pId × NatProbeResult)
  | .capableReport p tunnelId remote version (some result) now =>
    match s.peers.lookup p with
    | some st =>
      if remote.isUdp && isAuthoritativeReport st tunnelId remote &&
          st.remoteEndpoint.addr = remote.addr &&
          (s.rejection p { st with controlSupported := version = some natProbeControlVersion }
            result now).isNone then some (p, result)
      else none
    | none => none
  | _ => none

/-- A known result that is accepted is not older than the fresh profile of its peer. -/
def InOrder (s : NatProbeScheduler) (op : ProbeOp) : Prop :=
  ∀ now p result old, op.now = some now → s.delivery op = some (p, result) →
    result.profile.observation ≠ .unknown → s.stored p = some old → old.isFresh now = true →
    old.observedAt ≤ result.profile.observedAt

/-! ## Profiles that stay or go -/

/-- No stored profile is replaced by another one. -/
def Drops (s s' : NatProbeScheduler) : Prop :=
  ∀ q, s'.stored q = none ∨ s'.stored q = s.stored q

namespace Drops

variable {s s' s'' : NatProbeScheduler} {p : P2pId}

theorem refl (s : NatProbeScheduler) : Drops s s := fun _ => .inr rfl

theorem trans (h : Drops s s') (h' : Drops s' s'') : Drops s s'' := by
  intro q
  rcases h' q with hnone | hsame
  · exact .inl hnone
  · rw [hsame]
    exact h q

theorem of_tells {u : Option (Option NatProfile)} (h : Tells s s' p u)
    (hu : u = none ∨ u = some none ∨ u = some (s.stored p)) : Drops s s' := by
  intro q
  by_cases hq : q = p
  · subst hq
    rw [h.told]
    rcases hu with rfl | rfl | rfl
    · exact .inr rfl
    · exact .inl rfl
    · exact .inr rfl
  · exact .inr (h.others q hq)

end Drops

section Operations

variable (s : NatProbeScheduler) (p : P2pId)

theorem register_drops (tunnelId : CmdTunnelId) (remote : Endpoint) (control : Bool)
    (now : Timestamp) : Drops s (s.register p tunnelId remote control now).1 :=
  .of_tells (p := p) (.of_insert rfl rfl) (.inr (.inr rfl))

theorem observeCapability_drops (control : Bool) : Drops s (s.observeCapability p control).1 := by
  refine .of_tells (observeCapability_tells s p control) ?_
  unfold NatProbeScheduler.observeCapability
  cases s.peers.lookup p with
  | none => exact .inl rfl
  | some st =>
    dsimp only
    split_ifs
    · exact .inr (.inl rfl)
    · exact .inl rfl

theorem observeIneligibleReport_drops (tunnelId : CmdTunnelId) :
    Drops s (s.observeIneligibleReport p tunnelId).1 := by
  refine .of_tells (observeIneligibleReport_tells s p tunnelId) ?_
  unfold NatProbeScheduler.observeIneligibleReport
  cases s.peers.lookup p with
  | none => exact .inl rfl
  | some st =>
    dsimp only
    split_ifs
    · exact .inr (.inl rfl)
    · exact .inl rfl

theorem finishExpired_drops (now : Timestamp) (t : ProbeTransition) :
    Drops s (s.finishExpired p now t).1 := by
  unfold NatProbeScheduler.finishExpired
  cases s.peers.lookup p with
  | none => exact .refl s
  | some st =>
    dsimp only
    cases st.inFlight with
    | none => exact .refl s
    | some probe =>
      dsimp only
      split_ifs
      · exact .of_tells (p := p) (.of_insert rfl rfl) (.inr (.inl rfl))
      · exact .refl s

theorem issueIfDue_drops (now : Timestamp) : Drops s (s.issueIfDue p now).1 :=
  .of_tells (issueIfDue_tells s p now) (.inl rfl)

variable {s p}

theorem prepareReport_drops {tunnelId : CmdTunnelId} {remote : Endpoint} {version : Option U8}
    {now : Timestamp} {m : NatProbeScheduler} {t : ProbeTransition}
    (h : s.prepareReport p tunnelId remote version now = some (m, t)) : Drops s m := by
  unfold NatProbeScheduler.prepareReport at h
  split_ifs at h with hignored hreg
  · obtain ⟨rfl, -⟩ := Prod.mk.inj (Option.some.inj h)
    exact (register_drops s p _ _ _ _).trans (finishExpired_drops _ _ _ _)
  · obtain ⟨rfl, -⟩ := Prod.mk.inj (Option.some.inj h)
    exact (observeCapability_drops s p _).trans (finishExpired_drops _ _ _ _)

variable (s p)

theorem observeControl_drops (tunnelId : CmdTunnelId) (remote : Endpoint) (now : Timestamp) :
    Drops s (s.observeControl p tunnelId remote now).1 := by
  unfold NatProbeScheduler.observeControl
  split_ifs with hudp hignored hreg
  · exact observeIneligibleReport_drops s p tunnelId
  · exact .refl s
  · exact (register_drops s p _ _ _ _).trans (finishExpired_drops _ _ _ _)
  · exact finishExpired_drops s p now {}

theorem expireDue_drops (now : Timestamp) : Drops s (s.expireDue now).1 := by
  intro q
  rcases expireDue_stored s now q with ⟨-, -, hnone⟩ | ⟨-, hsame⟩
  · exact .inl hnone
  · exact .inr hsame

end Operations

/-! ## The result of a directive -/

section Delivery

variable {s m : NatProbeScheduler} {p : P2pId} {st : PeerProbeState} {result : NatProbeResult}
  {now : Timestamp}

theorem rejection_congr (hsn : m.snPeerId = s.snPeerId) :
    m.rejection p st result now = s.rejection p st result now := by
  unfold NatProbeScheduler.rejection
  rw [hsn]

theorem rejection_of_idle (hidle : st.inFlight = none) : s.rejection p st result now ≠ none := by
  intro hrej
  obtain ⟨probe, hin, -⟩ := rejection_eq_none hrej
  rw [hidle] at hin
  cases hin

/-- Without a probe that is past its deadline nothing happens. -/
theorem finishExpired_eq (t : ProbeTransition) (hst : s.peers.lookup p = some st)
    (hlive : ∀ probe, st.inFlight = some probe → now ≤ probe.expiresAt) :
    s.finishExpired p now t = (s, t) := by
  unfold NatProbeScheduler.finishExpired
  rw [hst]
  dsimp only
  cases hin : st.inFlight with
  | none => rfl
  | some probe => exact if_neg (not_lt.mpr (hlive probe hin))

/-- After the deadline no probe is in flight. -/
theorem finishExpired_accepts {t : ProbeTransition} {st' : PeerProbeState}
    (hst : s.peers.lookup p = some st)
    (hst' : (s.finishExpired p now t).1.peers.lookup p = some st')
    (hrej : (s.finishExpired p now t).1.rejection p st' result now = none) :
    s.finishExpired p now t = (s, t) := by
  by_cases hlive : ∀ probe, st.inFlight = some probe → now ≤ probe.expiresAt
  · exact finishExpired_eq t hst hlive
  · push Not at hlive
    obtain ⟨probe, hin, hexp⟩ := hlive
    unfold NatProbeScheduler.finishExpired at hst' hrej
    rw [hst] at hst' hrej
    dsimp only at hst' hrej
    rw [hin] at hst' hrej
    dsimp only at hst' hrej
    rw [if_pos hexp] at hst' hrej
    rw [AList.lookup_insert, Option.some.injEq] at hst'
    subst hst'
    exact absurd hrej (rejection_of_idle rfl)

variable {tunnelId : CmdTunnelId} {remote : Endpoint} {version : Option U8} {t : ProbeTransition}

/-- The two ways in which a report is prepared. -/
theorem prepareReport_cases {r : NatProbeScheduler × ProbeTransition}
    (h : s.prepareReport p tunnelId remote version now = some r) :
    remote.isUdp = true ∧ s.ignores p tunnelId remote = false ∧
      ((s.needsRegistration p remote = true ∧
        r = (s.register p tunnelId remote (version = some natProbeControlVersion) now).1.finishExpired
          p now (s.register p tunnelId remote (version = some natProbeControlVersion) now).2) ∨
      (s.needsRegistration p remote = false ∧
        r = (s.observeCapability p (version = some natProbeControlVersion)).1.finishExpired p now
          (s.observeCapability p (version = some natProbeControlVersion)).2)) := by
  unfold NatProbeScheduler.prepareReport at h
  by_cases hignored : (!remote.isUdp || s.ignores p tunnelId remote) = true
  · rw [if_pos hignored] at h
    cases h
  · rw [if_neg hignored] at h
    simp only [Bool.or_eq_true, not_or, Bool.not_eq_true', Bool.not_eq_false,
      Bool.not_eq_true] at hignored
    refine ⟨hignored.1, hignored.2, ?_⟩
    cases hreg : s.needsRegistration p remote with
    | true =>
      rw [hreg] at h
      exact .inl ⟨rfl, (Option.some.inj h).symm⟩
    | false =>
      rw [hreg] at h
      exact .inr ⟨rfl, (Option.some.inj h).symm⟩

/-- A report of a peer whose registration stands. -/
theorem prepareReport_registered (hst : s.peers.lookup p = some st) (hudp : remote.isUdp = true)
    (hauth : NatProbeScheduler.isAuthoritativeReport st tunnelId remote = true)
    (haddr : st.remoteEndpoint.addr = remote.addr) :
    s.prepareReport p tunnelId remote version now =
      some ((s.observeCapability p (version = some natProbeControlVersion)).1.finishExpired p now
        (s.observeCapability p (version = some natProbeControlVersion)).2) := by
  have hheard : s.ignores p tunnelId remote = false := by
    simp [NatProbeScheduler.ignores, hst, hauth]
  have hknown : s.needsRegistration p remote = false := by
    simp [NatProbeScheduler.needsRegistration, hst, haddr]
  unfold NatProbeScheduler.prepareReport
  rw [hheard, hknown, hudp]
  rfl

/-- A new registration has no probe in flight, and so accepts no result. -/
theorem register_accepts {control : Bool} {st' : PeerProbeState}
    (hst' : ((s.register p tunnelId remote control now).1.finishExpired p now
      (s.register p tunnelId remote control now).2).1.peers.lookup p = some st') :
    m.rejection p st' result now ≠ none := by
  have hlookup : ∃ st, (s.register p tunnelId remote control now).1.peers.lookup p = some st ∧
      st.inFlight = none := ⟨_, AList.lookup_insert .., rfl⟩
  obtain ⟨st, hst, hidle⟩ := hlookup
  rw [finishExpired_eq _ hst fun probe hin => by rw [hidle] at hin; cases hin] at hst'
  obtain rfl := Option.some.inj (hst.symm.trans hst')
  exact rejection_of_idle hidle

/-- What a report does to a registration that stands: it ends its capability, or notes it. -/
theorem observeCapability_lookup (hst : s.peers.lookup p = some st) (control : Bool) :
    (∃ st', (s.observeCapability p control).1.peers.lookup p = some st' ∧ st'.inFlight = none) ∨
    (s.observeCapability p control).1.snPeerId = s.snPeerId ∧
      (s.observeCapability p control).1.peers.lookup p =
        some { st with controlSupported := control } := by
  unfold NatProbeScheduler.observeCapability
  rw [hst]
  dsimp only
  split_ifs with hlost
  · exact .inl ⟨_, AList.lookup_insert .., rfl⟩
  · exact .inr ⟨rfl, AList.lookup_insert ..⟩

/-- A report that does not end the capability. -/
theorem observeCapability_eq {control : Bool} (hst : s.peers.lookup p = some st)
    (hkept : (st.controlSupported && !control) = false) :
    s.observeCapability p control =
      ({ s with peers := s.peers.insert p { st with controlSupported := control } }, {}) := by
  unfold NatProbeScheduler.observeCapability
  rw [hst]
  exact if_neg (by rw [hkept]; exact Bool.false_ne_true)

/-- What is accepted after the first half of a report is what the report delivers. -/
theorem delivery_of_accepts {st' : PeerProbeState}
    (hprep : s.prepareReport p tunnelId remote version now = some (m, t))
    (hst' : m.peers.lookup p = some st') (hrej : m.rejection p st' result now = none) :
    s.delivery (.capableReport p tunnelId remote version (some result) now) = some (p, result) := by
  obtain ⟨hudp, hheard, ⟨-, hr⟩ | ⟨hknown, hr⟩⟩ := prepareReport_cases hprep
  · have hm := congrArg Prod.fst hr
    dsimp only at hm
    rw [hm] at hst'
    exact absurd hrej (register_accepts hst')
  · obtain ⟨st, hst, haddr⟩ : ∃ st, s.peers.lookup p = some st ∧
        st.remoteEndpoint.addr = remote.addr := by
      unfold NatProbeScheduler.needsRegistration at hknown
      cases hst : s.peers.lookup p with
      | none =>
        rw [hst] at hknown
        cases hknown
      | some st =>
        rw [hst] at hknown
        exact ⟨st, rfl, by simpa using hknown⟩
    have hauth : NatProbeScheduler.isAuthoritativeReport st tunnelId remote = true := by
      simpa [NatProbeScheduler.ignores, hst] using hheard
    have hkept : s.rejection p
        { st with controlSupported := version = some natProbeControlVersion } result now = none := by
      have hm := congrArg Prod.fst hr
      dsimp only at hm
      rw [hm] at hst' hrej
      rcases observeCapability_lookup hst (version = some natProbeControlVersion) with
        ⟨st₁, hst₁, hidle⟩ | ⟨hsn, hst₁⟩
      · have hsame := finishExpired_accepts hst₁ hst' hrej
        rw [hsame] at hst' hrej
        obtain rfl := Option.some.inj (hst₁.symm.trans hst')
        exact absurd hrej (rejection_of_idle hidle)
      · have hsame := finishExpired_accepts hst₁ hst' hrej
        rw [hsame] at hst' hrej
        obtain rfl := Option.some.inj (hst₁.symm.trans hst')
        rwa [rejection_congr hsn] at hrej
    simp only [NatProbeScheduler.delivery, hst]
    rw [if_pos]
    simp only [hudp, hauth, haddr, hkept, decide_true, Option.isNone_none, Bool.and_self]

/-- What a report delivers is accepted after its first half. -/
theorem accepts_of_delivery {op : ProbeOp} {q : P2pId} (h : s.delivery op = some (q, result)) :
    ∃ tunnelId remote version now m t st',
      op = .capableReport q tunnelId remote version (some result) now ∧
      s.prepareReport q tunnelId remote version now = some (m, t) ∧
      m.peers.lookup q = some st' ∧ m.rejection q st' result now = none := by
  unfold NatProbeScheduler.delivery at h
  split at h
  · next p tunnelId remote version result' now =>
    split at h
    · next st hst =>
      split_ifs at h with hgood
      obtain ⟨rfl, rfl⟩ := Prod.mk.inj (Option.some.inj h)
      simp only [Bool.and_eq_true, decide_eq_true_eq, Option.isNone_iff_eq_none] at hgood
      obtain ⟨⟨⟨hudp, hauth⟩, haddr⟩, hrej⟩ := hgood
      have hcontrol : version = some natProbeControlVersion := by
        unfold NatProbeScheduler.rejection at hrej
        obtain ⟨hsupported, -⟩ := passed hrej
        simpa using hsupported
      have hobserve := observeCapability_eq (s := s) (p := p) hst
        (show (st.controlSupported && !decide (version = some natProbeControlVersion)) = false by
          simp [hcontrol])
      obtain ⟨probe, hin, -, -, -, -, -, hexp⟩ := rejection_eq_none hrej
      have hprep : s.prepareReport p tunnelId remote version now = _ :=
        prepareReport_registered hst hudp hauth haddr
      rw [hobserve, finishExpired_eq {} (AList.lookup_insert ..) fun probe' hin' => by
        rw [hin] at hin'
        rwa [← Option.some.inj hin']] at hprep
      exact ⟨tunnelId, remote, version, now, _, _, _, rfl, hprep, AList.lookup_insert ..,
        (rejection_congr rfl).trans hrej⟩
    · cases h
  · cases h

end Delivery

/-! ## Where a stored profile comes from -/

section Steps

variable {s : NatProbeScheduler} {op : ProbeOp}

/-- An accepted result is what is stored. -/
theorem acceptResult_stored {m : NatProbeScheduler} {p : P2pId} {st : PeerProbeState}
    {result : NatProbeResult} {now : Timestamp} (t : ProbeTransition)
    (hst : m.peers.lookup p = some st) (hrej : m.rejection p st result now = none) (q : P2pId) :
    (m.acceptResult p result now t).1.stored q =
      if q = p then
        if result.profile.observation = .unknown then none
        else some { result.profile with validUntil := saturatingAdd now natProbePeriod }
      else m.stored q := by
  unfold NatProbeScheduler.acceptResult NatProbeScheduler.stored
  rw [hst]
  dsimp only
  rw [hrej]
  dsimp only
  by_cases hq : q = p
  · rw [if_pos hq, hq, AList.lookup_insert]
    rfl
  · rw [if_neg hq, AList.lookup_insert_ne hq]

/-- The profile that a delivered result leaves behind. -/
theorem stored_of_delivery {p : P2pId} {result : NatProbeResult} {now : Timestamp}
    (h : s.delivery op = some (p, result)) (hnow : op.now = some now) :
    (s.step op).stored p =
      if result.profile.observation = .unknown then none
      else some { result.profile with validUntil := saturatingAdd now natProbePeriod } := by
  obtain ⟨tunnelId, remote, version, now', m, t, st', rfl, hprep, hst', hrej⟩ := accepts_of_delivery h
  obtain rfl := Option.some.inj hnow
  have hissue := (issueIfDue_tells (m.acceptResult p result now' t).1 p now').told
  show (s.observeCapableReport p tunnelId remote version (some result) now').1.stored p = _
  unfold NatProbeScheduler.observeCapableReport
  rw [hprep]
  exact hissue.trans ((acceptResult_stored t hst' hrej p).trans (if_pos rfl))

/-- A report that delivers no result stores nothing new. -/
theorem observeCapableReport_stored (s : NatProbeScheduler) (p : P2pId) (tunnelId : CmdTunnelId)
    (remote : Endpoint) (version : Option U8) (result : Option NatProbeResult) (now : Timestamp)
    (q : P2pId) :
    (s.observeCapableReport p tunnelId remote version result now).1.stored q = none ∨
    (s.observeCapableReport p tunnelId remote version result now).1.stored q = s.stored q ∨
    ∃ r, s.delivery (.capableReport p tunnelId remote version result now) = some (q, r) := by
  unfold NatProbeScheduler.observeCapableReport
  cases hprep : s.prepareReport p tunnelId remote version now with
  | none =>
    dsimp only
    split_ifs
    · exact (observeIneligibleReport_drops s p tunnelId q).imp_right .inl
    · exact .inr (.inl rfl)
  | some r =>
    obtain ⟨m, t⟩ := r
    have hm := prepareReport_drops hprep
    cases result with
    | none => exact ((hm.trans (issueIfDue_drops m p now)) q).imp_right .inl
    | some result =>
      by_cases hsame : (m.acceptResult p result now t).1.peers.lookup q = m.peers.lookup q
      · have hdrops : (m.acceptResult p result now t).1.stored q = m.stored q := by
          rw [NatProbeScheduler.stored, hsame]
          rfl
        have hissue := issueIfDue_drops (m.acceptResult p result now t).1 p now q
        rw [hdrops] at hissue
        rcases hissue with hnone | hkept
        · exact .inl hnone
        · exact ((hm q).imp hkept.trans hkept.trans).imp_right .inl
      · obtain ⟨rfl, st', hst', hrej⟩ := acceptResult_changes hsame
        exact .inr (.inr ⟨result, delivery_of_accepts hprep hst' hrej⟩)

/-- A report of the client is not older than the fresh profile that it replaces. -/
theorem observeReportedProfile_stored (s : NatProbeScheduler) (p : P2pId) (tunnelId : CmdTunnelId)
    (remote : Endpoint) (profile : NatProfile) (now : Timestamp) (q : P2pId) :
    (s.observeReportedProfile p tunnelId remote profile now).1.stored q = s.stored q ∨
    ((s.observeReportedProfile p tunnelId remote profile now).1.stored q = some profile ∧
      ∀ old, s.stored q = some old → old.isFresh now = true →
        old.observedAt ≤ profile.observedAt) := by
  unfold NatProbeScheduler.observeReportedProfile
  cases hst : s.peers.lookup p with
  | none => exact .inl rfl
  | some st =>
    dsimp only
    split_ifs with hbad holder
    · exact .inl rfl
    · exact .inl rfl
    · by_cases hq : q = p
      · subst hq
        refine .inr ⟨by simp [NatProbeScheduler.stored, AList.lookup_insert], ?_⟩
        intro old hold hfresh
        have hprofile : st.profile = some old := by
          rwa [NatProbeScheduler.stored, hst, Option.bind_some] at hold
        rw [hprofile] at holder
        simpa [hfresh] using holder
      · refine .inl ?_
        rw [NatProbeScheduler.stored, AList.lookup_insert_ne hq]
        rfl

/-- Where the stored profile of a peer comes from. -/
theorem stored_step (s : NatProbeScheduler) (op : ProbeOp) {now : Timestamp}
    (hnow : op.now = some now) (q : P2pId) :
    (s.step op).stored q = none ∨ (s.step op).stored q = s.stored q ∨
    (∃ profile, (s.step op).stored q = some profile ∧
      ∀ old, s.stored q = some old → old.isFresh now = true →
        old.observedAt ≤ profile.observedAt) ∨
    ∃ result, s.delivery op = some (q, result) := by
  cases op with
  | capableReport p tunnelId remote version result now' =>
    rcases observeCapableReport_stored s p tunnelId remote version result now' q with
      hnone | hsame | hdelivery
    · exact .inl hnone
    · exact .inr (.inl hsame)
    · exact .inr (.inr (.inr hdelivery))
  | reportedProfile p tunnelId remote profile now' =>
    obtain rfl := Option.some.inj hnow
    rcases observeReportedProfile_stored s p tunnelId remote profile now' q with hsame | hnew
    · exact .inr (.inl hsame)
    · exact .inr (.inr (.inl ⟨profile, hnew⟩))
  | control p tunnelId remote now' =>
    exact (observeControl_drops s p tunnelId remote now' q).imp_right .inl
  | expireDue now' => exact (expireDue_drops s now' q).imp_right .inl
  | setPorts ports => cases hnow
  | setSnPeerId snPeerId => cases hnow
  | removePeer p => cases hnow
  | removePeerIfAuthority p tunnelId generation => cases hnow

/-- One operation keeps the newest measurement exactly if the result that it delivers is in order. -/
theorem newestWins_iff (s : NatProbeScheduler) (op : ProbeOp) : NewestWins s op ↔ InOrder s op := by
  constructor
  · intro hwins now p result old hnow hdelivery hknown hold hfresh
    have hstored := (stored_of_delivery hdelivery hnow).trans (if_neg hknown)
    generalize hprofile : ({ result.profile with
      validUntil := saturatingAdd now natProbePeriod } : NatProfile) = profile at hstored
    have hobserved : profile.observation = result.profile.observation := by rw [← hprofile]
    have hat : profile.observedAt = result.profile.observedAt := by rw [← hprofile]
    rw [← hat]
    exact hwins now p old profile hnow hold hfresh hstored (hobserved ▸ hknown)
  · intro horder now p old profile hnow hold hfresh hstored hknown
    rcases stored_step s op hnow p with hnone | hsame | ⟨new, hnew, hle⟩ | ⟨result, hdelivery⟩
    · rw [hnone] at hstored
      cases hstored
    · rw [hsame, hold] at hstored
      exact (congrArg NatProfile.observedAt (Option.some.inj hstored)).le
    · obtain rfl := Option.some.inj (hnew.symm.trans hstored)
      exact hle old hold hfresh
    · have hafter := (stored_of_delivery hdelivery hnow).symm.trans hstored
      split_ifs at hafter with hunknown
      obtain rfl := Option.some.inj hafter
      exact horder now p result old hnow hdelivery hunknown hold hfresh

end Steps

/-- In a run of the scheduler the newest measurement wins at every operation if and only if every
known result that is accepted is at least as new as the fresh profile of its peer. -/
theorem newest_wins_iff (sn : P2pId) (ops : List ProbeOp) :
    Along NatProbeScheduler.step NewestWins (.new sn) ops ↔
      Along NatProbeScheduler.step InOrder (.new sn) ops :=
  ⟨Along.mono fun s op => (newestWins_iff s op).mp, Along.mono fun s op => (newestWins_iff s op).mpr⟩

/-- The client measures for a directive, then on its own, and reports the second measurement
first. -/
def outOfOrder : List ProbeOp :=
  oneDirective ++
    [.reportedProfile [9] 1 reporter ⟨1, .nonSymmetricLike, 15, 90, none⟩ 16,
      .capableReport [9] 1 reporter (some 1) (some oneAnswer) 20]

theorem older_result_wins :
    ¬ Along NatProbeScheduler.step NewestWins (.new [1]) outOfOrder := by
  intro hwins
  obtain ⟨-, -, -, hlast, -⟩ := hwins
  have hrun : ((exec NatProbeScheduler.step (.new [1]) (outOfOrder.take 3)).stored [9],
      (exec NatProbeScheduler.step (.new [1]) outOfOrder).stored [9]) =
      (some ⟨1, .nonSymmetricLike, 15, 90, none⟩, some ⟨1, .symmetricLike, 12, 7200000020, none⟩) := by
    decide +kernel
  obtain ⟨hbefore, hafter⟩ := Prod.mk.inj hrun
  exact absurd (hlast 20 [9] _ _ rfl hbefore (by decide) hafter (by decide)) (by decide)

end BuckyP2p.NatProbe
