import BuckyP2p.NatProbe.Scheduler

/-!
# BuckyP2p.NatProbe.Profiles — what a transition says about the stored profile

An operation that is about one peer changes the stored profile of that peer only, and the transition
that it returns tells the change: `profile_update` is what is stored afterwards, or nothing if that
has not changed (`Tells`).
-/

namespace BuckyP2p.NatProbe

open Lib

namespace NatProbeScheduler

/-- The profile that the scheduler stores for a peer. -/
def stored (s : NatProbeScheduler) (p : P2pId) : Option NatProfile :=
  (s.peers.lookup p).bind PeerProbeState.profile

/-- The scheduler's region of `handle_report_sn`. -/
def report (s : NatProbeScheduler) (localId peerId : P2pId) (tunnelId : CmdTunnelId)
    (observedTunnel : Option Endpoint) (controlVersion : Option U8) (result : Option NatProbeResult)
    (netProfile : Option NatProfile) (now : Timestamp) :
    NatProbeScheduler × Option ProbeTransition :=
  match observedTunnel with
  | some observed =>
    let (s, transition) := (s.setSnPeerId localId).observeCapableReport peerId tunnelId observed
      controlVersion result now
    match netProfile with
    | some profile =>
      let (s, told) := s.observeReportedProfile peerId tunnelId observed profile now
      (s, some (if told.profileUpdate.isSome then
        { transition with profileUpdate := told.profileUpdate } else transition))
    | none => (s, some transition)
  | none => (s, none)

/-- The scheduler's region of `observe_nat_probe_control`. -/
def control (s : NatProbeScheduler) (localId peerId : P2pId) (tunnelId : CmdTunnelId)
    (remoteEndpoint : Endpoint) (now : Timestamp) : NatProbeScheduler × ProbeTransition :=
  (s.setSnPeerId localId).observeControl peerId tunnelId remoteEndpoint now

/-- The ports that `set_ports` puts into effect. -/
def effectivePorts (ports : List U16) : List U16 :=
  if validPorts (ports.insertionSort (· ≤ ·)) then ports.insertionSort (· ≤ ·) else []

/-- The peer's probe is in flight and past its deadline. -/
def isExpired (s : NatProbeScheduler) (p : P2pId) (now : Timestamp) : Bool :=
  ((s.peers.lookup p).bind PeerProbeState.inFlight).any fun probe => probe.expiresAt < now

end NatProbeScheduler

/-- From `s` to `s'` the stored profile of `p` alone changes, and `update` is the change. -/
structure Tells (s s' : NatProbeScheduler) (p : P2pId) (update : Option (Option NatProfile)) :
    Prop where
  others : ∀ q, q ≠ p → s'.stored q = s.stored q
  told : s'.stored p = update.getD (s.stored p)

namespace Tells

variable {s s' s'' : NatProbeScheduler} {p : P2pId}

theorem refl (s : NatProbeScheduler) (p : P2pId) : Tells s s p none := ⟨fun _ _ => rfl, rfl⟩

theorem trans {u u' : Option (Option NatProfile)} (h : Tells s s' p u) (h' : Tells s' s'' p u') :
    Tells s s'' p (u'.or u) := by
  refine ⟨fun q hq => (h'.others q hq).trans (h.others q hq), ?_⟩
  rw [h'.told, h.told]
  cases u' <;> rfl

theorem of_insert {st : PeerProbeState} {u : Option NatProfile}
    (h : s'.peers = s.peers.insert p st) (hu : st.profile = u) : Tells s s' p (some u) := by
  refine ⟨fun q hq => ?_, ?_⟩
  · rw [NatProbeScheduler.stored, h, AList.lookup_insert_ne hq]
    rfl
  · rw [NatProbeScheduler.stored, h, AList.lookup_insert]
    exact hu

theorem of_keep {st st' : PeerProbeState} (hst : s.peers.lookup p = some st)
    (h : s'.peers = s.peers.insert p st') (hsame : st'.profile = st.profile) :
    Tells s s' p none := by
  have hins := of_insert h hsame
  refine ⟨hins.others, hins.told.trans ?_⟩
  rw [NatProbeScheduler.stored, hst]
  rfl

theorem of_erase (h : s'.peers = s.peers.erase p) : Tells s s' p (some none) := by
  refine ⟨fun q hq => ?_, ?_⟩
  · rw [NatProbeScheduler.stored, h, AList.lookup_erase_ne hq]
    rfl
  · rw [NatProbeScheduler.stored, h, AList.lookup_erase]
    rfl

end Tells

section Operations

variable (s : NatProbeScheduler) (p : P2pId)

theorem register_tells (tunnelId : CmdTunnelId) (remote : Endpoint) (control : Bool)
    (now : Timestamp) :
    Tells s (s.register p tunnelId remote control now).1 p
      (s.register p tunnelId remote control now).2.profileUpdate := by
  have hins : Tells s (s.register p tunnelId remote control now).1 p (some (s.stored p)) :=
    .of_insert rfl rfl
  refine ⟨hins.others, hins.told.trans ?_⟩
  unfold NatProbeScheduler.register NatProbeScheduler.stored
  cases s.peers.lookup p with
  | none => rfl
  | some st => rfl

theorem observeCapability_tells (control : Bool) :
    Tells s (s.observeCapability p control).1 p (s.observeCapability p control).2.profileUpdate := by
  unfold NatProbeScheduler.observeCapability
  cases hst : s.peers.lookup p with
  | none => exact .refl s p
  | some st =>
    dsimp only
    split_ifs with hlost
    · exact .of_insert rfl rfl
    · exact .of_keep hst rfl rfl

theorem observeIneligibleReport_tells (tunnelId : CmdTunnelId) :
    Tells s (s.observeIneligibleReport p tunnelId).1 p
      (s.observeIneligibleReport p tunnelId).2.profileUpdate := by
  unfold NatProbeScheduler.observeIneligibleReport
  cases s.peers.lookup p with
  | none => exact .refl s p
  | some st =>
    dsimp only
    split_ifs with htunnel
    · exact .of_erase rfl
    · exact .refl s p

/-- `finish_expired` and `accept_result` add their change to the transition they are given. -/
theorem finishExpired_tells (now : Timestamp) (t : ProbeTransition) :
    ∃ u, Tells s (s.finishExpired p now t).1 p u ∧
      (s.finishExpired p now t).2.profileUpdate = u.or t.profileUpdate := by
  unfold NatProbeScheduler.finishExpired
  cases s.peers.lookup p with
  | none => exact ⟨none, .refl s p, rfl⟩
  | some st =>
    dsimp only
    cases st.inFlight with
    | none => exact ⟨none, .refl s p, rfl⟩
    | some probe =>
      dsimp only
      split_ifs with hexp
      · exact ⟨some none, .of_insert rfl rfl, rfl⟩
      · exact ⟨none, .refl s p, rfl⟩

theorem acceptResult_tells (result : NatProbeResult) (now : Timestamp) (t : ProbeTransition) :
    ∃ u, Tells s (s.acceptResult p result now t).1 p u ∧
      (s.acceptResult p result now t).2.profileUpdate = u.or t.profileUpdate := by
  unfold NatProbeScheduler.acceptResult
  cases s.peers.lookup p with
  | none => exact ⟨none, .refl s p, rfl⟩
  | some st =>
    dsimp only
    cases s.rejection p st result now with
    | some reason => exact ⟨none, .refl s p, rfl⟩
    | none => exact ⟨some _, .of_insert rfl rfl, rfl⟩

theorem issueIfDue_tells (now : Timestamp) : Tells s (s.issueIfDue p now).1 p none := by
  unfold NatProbeScheduler.issueIfDue
  cases hst : s.peers.lookup p with
  | none => exact .refl s p
  | some st =>
    dsimp only
    split_ifs with hpend hsup
    · exact .refl s p
    · exact .refl s p
    · exact .of_keep hst rfl rfl

theorem observeReportedProfile_tells (tunnelId : CmdTunnelId) (remote : Endpoint)
    (profile : NatProfile) (now : Timestamp) :
    Tells s (s.observeReportedProfile p tunnelId remote profile now).1 p
      (s.observeReportedProfile p tunnelId remote profile now).2.profileUpdate := by
  unfold NatProbeScheduler.observeReportedProfile
  cases s.peers.lookup p with
  | none => exact .refl s p
  | some st =>
    dsimp only
    split_ifs with hbad hold
    · exact .refl s p
    · exact .refl s p
    · exact .of_insert rfl rfl

variable {s p}

theorem prepareReport_tells {tunnelId : CmdTunnelId} {remote : Endpoint} {version : Option U8}
    {now : Timestamp} {m : NatProbeScheduler} {t : ProbeTransition}
    (h : s.prepareReport p tunnelId remote version now = some (m, t)) :
    Tells s m p t.profileUpdate := by
  -- the first half of the report, and then the deadline
  have hthen : ∀ {r : NatProbeScheduler × ProbeTransition}, Tells s r.1 p r.2.profileUpdate →
      some (r.1.finishExpired p now r.2) = some (m, t) → Tells s m p t.profileUpdate := by
    intro r hr heq
    obtain ⟨u, hu, hupdate⟩ := finishExpired_tells r.1 p now r.2
    have hpair := Option.some.inj heq
    rw [hpair] at hu hupdate
    rw [hupdate]
    exact hr.trans hu
  unfold NatProbeScheduler.prepareReport at h
  split_ifs at h with hignored hreg
  · exact hthen (register_tells s p ..) h
  · exact hthen (observeCapability_tells s p _) h

variable (s p)

theorem observeCapableReport_tells (tunnelId : CmdTunnelId) (remote : Endpoint)
    (version : Option U8) (result : Option NatProbeResult) (now : Timestamp) :
    Tells s (s.observeCapableReport p tunnelId remote version result now).1 p
      (s.observeCapableReport p tunnelId remote version result now).2.profileUpdate := by
  unfold NatProbeScheduler.observeCapableReport
  split
  · next m t hprep =>
    have hm := prepareReport_tells hprep
    cases result with
    | none => exact hm.trans (issueIfDue_tells m p now)
    | some result =>
      obtain ⟨u, hu, hupdate⟩ := acceptResult_tells m p result now t
      have hboth := (hm.trans hu).trans (issueIfDue_tells _ p now)
      rw [← hupdate] at hboth
      exact hboth
  · split_ifs with hudp
    · exact observeIneligibleReport_tells s p tunnelId
    · exact .refl s p

theorem observeControl_tells (tunnelId : CmdTunnelId) (remote : Endpoint) (now : Timestamp) :
    Tells s (s.observeControl p tunnelId remote now).1 p
      (s.observeControl p tunnelId remote now).2.profileUpdate := by
  unfold NatProbeScheduler.observeControl
  split_ifs with hudp hignored hreg
  · exact observeIneligibleReport_tells s p tunnelId
  · exact .refl s p
  · obtain ⟨u, hu, hupdate⟩ := finishExpired_tells (s.register p tunnelId remote _ now).1 p now
      (s.register p tunnelId remote _ now).2
    dsimp only
    rw [hupdate]
    exact (register_tells s p ..).trans hu
  · obtain ⟨u, hu, hupdate⟩ := finishExpired_tells s p now {}
    dsimp only
    rw [hupdate]
    exact (Tells.refl s p).trans hu

end Operations

/-! ## The regions of the service -/

section Regions

variable (s : NatProbeScheduler)

theorem stored_setSnPeerId (id q : P2pId) :
    (s.setSnPeerId id).stored q = if s.snPeerId = id then s.stored q else none := by
  unfold NatProbeScheduler.setSnPeerId
  split_ifs with h
  · rfl
  · rfl

theorem report_tells (localId p : P2pId) (tunnelId : CmdTunnelId) (observed : Endpoint)
    (version : Option U8) (result : Option NatProbeResult) (profile : Option NatProfile)
    (now : Timestamp) :
    ∃ t, (s.report localId p tunnelId (some observed) version result profile now).2 = some t ∧
      Tells (s.setSnPeerId localId)
        (s.report localId p tunnelId (some observed) version result profile now).1 p
        t.profileUpdate := by
  have hcapable := observeCapableReport_tells (s.setSnPeerId localId) p tunnelId observed version
    result now
  unfold NatProbeScheduler.report
  cases profile with
  | none => exact ⟨_, rfl, hcapable⟩
  | some profile =>
    have htold := observeReportedProfile_tells
      ((s.setSnPeerId localId).observeCapableReport p tunnelId observed version result now).1 p
      tunnelId observed profile now
    refine ⟨_, rfl, ?_⟩
    have hboth := hcapable.trans htold
    dsimp only
    split_ifs with hsome
    · obtain ⟨u, hu⟩ := Option.isSome_iff_exists.mp hsome
      rw [hu] at hboth ⊢
      exact hboth
    · rw [Option.not_isSome_iff_eq_none.mp hsome] at hboth
      exact hboth

theorem setPorts_stored (ports : List U16) :
    (NatProbeScheduler.effectivePorts ports = s.ports ∧ s.setPorts ports = (s, [])) ∨
    (NatProbeScheduler.effectivePorts ports ≠ s.ports ∧ (s.setPorts ports).2 = s.peers.keys ∧
      ∀ q, (s.setPorts ports).1.stored q = none) := by
  unfold NatProbeScheduler.setPorts
  dsimp only
  rw [← NatProbeScheduler.effectivePorts]
  by_cases hsame : NatProbeScheduler.effectivePorts ports = s.ports
  · rw [if_pos hsame]
    exact .inl ⟨hsame, rfl⟩
  · rw [if_neg hsame]
    refine .inr ⟨hsame, rfl, fun q => ?_⟩
    rw [NatProbeScheduler.stored]
    dsimp only
    cases hq : AList.lookup q (Table.mapValues _ s.peers) with
    | none => rfl
    | some st' =>
      obtain ⟨st, -, rfl⟩ := Table.lookup_mapValues.mp hq
      rfl

theorem removePeer_stored (p q : P2pId) :
    (s.removePeer p).1.stored q = if q = p then none else s.stored q := by
  unfold NatProbeScheduler.removePeer
  by_cases hsome : (s.peers.lookup p).isSome = true
  · rw [if_pos hsome]
    have htells : Tells s
        { s with peers := s.peers.erase p, log := s.log ++ [.authorityRemoved p] } p (some none) :=
      .of_erase rfl
    split_ifs with hqp
    · rw [hqp]
      exact htells.told
    · exact htells.others q hqp
  · rw [if_neg hsome]
    split_ifs with hqp
    · rw [hqp, NatProbeScheduler.stored, Option.not_isSome_iff_eq_none.mp hsome]
      rfl
    · rfl

/-- What one peer's deadline does to the peers. -/
theorem finishExpired_stored (p : P2pId) (now : Timestamp) :
    (s.isExpired p now = true ∧ (s.finishExpired p now {}).2.profileUpdate = some none ∧
      (s.finishExpired p now {}).1.stored p = none ∧
      (s.finishExpired p now {}).1.isExpired p now = false ∧
      ∀ q, q ≠ p → (s.finishExpired p now {}).1.peers.lookup q = s.peers.lookup q) ∨
    (s.isExpired p now = false ∧ s.finishExpired p now {} = (s, {})) := by
  unfold NatProbeScheduler.finishExpired NatProbeScheduler.isExpired
  cases hst : s.peers.lookup p with
  | none => exact .inr ⟨rfl, rfl⟩
  | some st =>
    dsimp only
    cases hin : st.inFlight with
    | none => exact .inr ⟨by simp [hin], rfl⟩
    | some probe =>
      dsimp only
      by_cases hexp : probe.expiresAt < now
      · rw [if_pos hexp]
        refine .inl ⟨by simp [hin, hexp], rfl, ?_, ?_, fun q hq => AList.lookup_insert_ne hq⟩
        · simp [NatProbeScheduler.stored, AList.lookup_insert]
        · simp [AList.lookup_insert]
      · rw [if_neg hexp]
        exact .inr ⟨by simp [hin, hexp], rfl⟩

/-- `expire_due` drops the profiles of the peers that it returns, which are those past their
deadline, and keeps the others. -/
theorem expireDue_stored (now : Timestamp) (q : P2pId) :
    (q ∈ (s.expireDue now).2 ∧ s.isExpired q now = true ∧ (s.expireDue now).1.stored q = none) ∨
    (q ∉ (s.expireDue now).2 ∧ (s.expireDue now).1.stored q = s.stored q) := by
  -- what holds of the scheduler and the list in the middle of the loop
  let Amid (r : NatProbeScheduler × List P2pId) : Prop := ∀ q,
    (q ∈ r.2 ∧ s.isExpired q now = true ∧ r.1.stored q = none ∧ r.1.isExpired q now = false) ∨
    (q ∉ r.2 ∧ r.1.peers.lookup q = s.peers.lookup q)
  have hfold : ∀ (keys : List P2pId) (r : NatProbeScheduler × List P2pId), Amid r →
      Amid (keys.foldl (fun (r : NatProbeScheduler × List P2pId) peerId =>
        let (s, transition) := r.1.finishExpired peerId now {}
        (s, if transition.profileUpdate.isSome then r.2 ++ [peerId] else r.2)) r) := by
    intro keys
    induction keys with
    | nil => intro r hr; exact hr
    | cons p keys ih =>
      intro r hr
      refine ih _ ?_
      rcases finishExpired_stored r.1 p now with ⟨hexp, hupd, hnone, hdone, hothers⟩ | ⟨-, hsame⟩
      · intro q'
        dsimp only
        rw [hupd]
        by_cases hq : q' = p
        · subst hq
          refine .inl ⟨by simp, ?_, hnone, hdone⟩
          rcases hr q' with ⟨-, -, -, hnot⟩ | ⟨-, hlookup⟩
          · rw [hnot] at hexp
            cases hexp
          · rw [NatProbeScheduler.isExpired, hlookup] at hexp
            exact hexp
        · rcases hr q' with ⟨hmem, hs, hst, hnot⟩ | ⟨hmem, hlookup⟩
          · refine .inl ⟨by simp [hmem], hs, ?_, ?_⟩
            · rw [NatProbeScheduler.stored, hothers q' hq]
              exact hst
            · rw [NatProbeScheduler.isExpired, hothers q' hq]
              exact hnot
          · exact .inr ⟨by simp [hmem, hq], (hothers q' hq).trans hlookup⟩
      · beta_reduce
        rw [hsame]
        exact hr
  have hend : Amid (s.expireDue now) := hfold s.peers.keys (s, []) fun q' => .inr ⟨by simp, rfl⟩
  rcases hend q with ⟨hmem, hexp, hnone, -⟩ | ⟨hmem, hlookup⟩
  · exact .inl ⟨hmem, hexp, hnone⟩
  · refine .inr ⟨hmem, ?_⟩
    rw [NatProbeScheduler.stored, hlookup]
    rfl

end Regions

end BuckyP2p.NatProbe
