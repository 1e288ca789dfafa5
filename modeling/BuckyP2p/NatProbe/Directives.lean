import BuckyP2p.NatProbe.Scheduler
import Mathlib.Logic.Relation

/-!
# BuckyP2p.NatProbe.Directives — a result is accepted for the live directive only

`Move` says what the lock regions of the scheduler can do to it; every operation is a sequence of
moves (`step_moves`), so an invariant is proved once for every move.  `Tracked` follows the probe in
flight back to the line of the log that issued its directive; `Numbered` counts registrations, which
are what keeps two directives for one registration apart.
-/

namespace BuckyP2p.NatProbe

open Lib Relation

/-! ## What one region does -/

/-- The event ends the time in which a directive for the peer may be answered. -/
def ProbeEvent.supersedes (p : P2pId) : ProbeEvent → Bool
  | .configChanged | .snIdentityChanged => true
  | .authorityEstablished q _ | .authorityRemoved q | .capabilityLost q | .resultAccepted q _ => q = p
  | .directiveTimeout _ | .directiveIssued _ => false

/-- The event is one about the registration of the peer that lets it stand. -/
def ProbeEvent.amends (p : P2pId) : ProbeEvent → Bool
  | .capabilityLost q | .directiveTimeout q | .resultAccepted q _ => q = p
  | _ => false

/-- The registration, its settings and what it waits for, after an event that lets it stand. -/
structure Amended (st st' : PeerProbeState) (events : List ProbeEvent) : Prop where
  registration : st'.registrationGeneration = st.registrationGeneration
  config : st'.configGeneration = st.configGeneration
  inFlight : st'.inFlight = none ∨ events = [] ∧ st'.inFlight = st.inFlight
  pending : st'.pendingTrigger = none ∨ st'.pendingTrigger = st.pendingTrigger
  control : st.controlSupported = true → st'.controlSupported = false →
    ∃ p, .capabilityLost p ∈ events

/-- What a region of one of the operations does to the scheduler. -/
inductive Move (s : NatProbeScheduler) : NatProbeScheduler → Prop
  | establish (p : P2pId) (st : PeerProbeState)
    (hreg : st.registrationGeneration = s.nextRegistrationGeneration)
    (hcfg : st.configGeneration = s.configGeneration) (hin : st.inFlight = none) :
    Move s { s with
      nextRegistrationGeneration := nextGeneration s.nextRegistrationGeneration
      peers := s.peers.insert p st
      log := s.log ++ [.authorityEstablished p st.registrationGeneration] }
  | amend (p : P2pId) (st st' : PeerProbeState) (events : List ProbeEvent)
    (hst : s.peers.lookup p = some st) (hst' : Amended st st' events)
    (hev : ∀ e ∈ events, e.amends p = true) :
    Move s { s with peers := s.peers.insert p st', log := s.log ++ events }
  | issue (p : P2pId) (st : PeerProbeState) (d : NatProbeDirective)
    (hst : s.peers.lookup p = some st) (hpend : st.pendingTrigger ≠ none)
    (hports : s.ports ≠ []) (hin : st.inFlight = none)
    (hcount : s.inFlightCount < maxConcurrentNatProbes)
    (hd : d = ⟨natProbeControlVersion, s.snPeerId, p, st.registrationGeneration, s.nextRequestId,
      st.configGeneration, d.expiresAt, s.ports⟩) :
    Move s { s with
      nextRequestId := nextGeneration s.nextRequestId
      peers := s.peers.insert p
        { st with inFlight := some ⟨d.requestId, d.expiresAt⟩, pendingTrigger := none }
      log := s.log ++ [.directiveIssued d] }
  | remove (p : P2pId) (hst : (s.peers.lookup p).isSome) :
    Move s { s with peers := s.peers.erase p, log := s.log ++ [.authorityRemoved p] }
  | configure (ports : List U16) (hports : ports ≠ s.ports) :
    Move s { s with
      ports := ports
      configGeneration := nextGeneration s.configGeneration
      peers := s.peers.mapValues fun st =>
        { st with
          configGeneration := nextGeneration s.configGeneration
          inFlight := none
          profile := none }
      log := s.log ++ [.configChanged] }
  | rename (snPeerId : P2pId) (hid : s.snPeerId ≠ snPeerId) :
    Move s { s with snPeerId := snPeerId, peers := ∅, log := s.log ++ [.snIdentityChanged] }

abbrev Moves : NatProbeScheduler → NatProbeScheduler → Prop := ReflTransGen Move

theorem Moves.nil (s : NatProbeScheduler) : Moves s s := .refl

theorem Move.moves {s s' : NatProbeScheduler} (h : Move s s') : Moves s s' := .single h

section Operations

variable (s : NatProbeScheduler) (p : P2pId)

theorem register_move (tunnelId : CmdTunnelId) (remote : Endpoint) (control : Bool)
    (now : Timestamp) : Move s (s.register p tunnelId remote control now).1 :=
  .establish p _ rfl rfl rfl

theorem observeCapability_moves (control : Bool) : Moves s (s.observeCapability p control).1 := by
  unfold NatProbeScheduler.observeCapability
  cases hst : s.peers.lookup p with
  | none => exact .nil s
  | some st =>
    dsimp only
    split_ifs with hlost
    · refine Move.moves (.amend p st _ [.capabilityLost p] hst
        ⟨rfl, rfl, .inl rfl, .inr rfl, fun _ _ => ⟨p, List.mem_singleton_self _⟩⟩ ?_)
      simp [ProbeEvent.amends]
    · have hkept : st.controlSupported = true → control = false → False := by
        intro hsupported hno
        exact hlost (by rw [hsupported, hno]; rfl)
      have hmove := Move.amend (s := s) p st { st with controlSupported := control } [] hst
        ⟨rfl, rfl, .inr ⟨rfl, rfl⟩, .inr rfl, fun hc hc' => (hkept hc hc').elim⟩ (by simp)
      rw [List.append_nil] at hmove
      exact hmove.moves

theorem observeIneligibleReport_moves (tunnelId : CmdTunnelId) :
    Moves s (s.observeIneligibleReport p tunnelId).1 := by
  unfold NatProbeScheduler.observeIneligibleReport
  cases hst : s.peers.lookup p with
  | none => exact .nil s
  | some st =>
    dsimp only
    split_ifs with htunnel
    · exact (Move.remove p (by rw [hst]; rfl)).moves
    · exact .nil s

theorem finishExpired_moves (now : Timestamp) (t : ProbeTransition) :
    Moves s (s.finishExpired p now t).1 := by
  unfold NatProbeScheduler.finishExpired
  cases hst : s.peers.lookup p with
  | none => exact .nil s
  | some st =>
    dsimp only
    cases hin : st.inFlight with
    | none => exact .nil s
    | some probe =>
      dsimp only
      split_ifs with hexp
      · refine Move.moves (.amend p st _ [.directiveTimeout p] hst
          ⟨rfl, rfl, .inl rfl, .inl rfl, fun hc hc' => absurd hc (hc' ▸ Bool.false_ne_true)⟩ ?_)
        simp [ProbeEvent.amends]
      · exact .nil s

theorem acceptResult_moves (result : NatProbeResult) (now : Timestamp) (t : ProbeTransition) :
    Moves s (s.acceptResult p result now t).1 := by
  unfold NatProbeScheduler.acceptResult
  cases hst : s.peers.lookup p with
  | none => exact .nil s
  | some st =>
    dsimp only
    cases s.rejection p st result now with
    | some reason => exact .nil s
    | none =>
      refine Move.moves (.amend p st _ [.resultAccepted p result] hst
        ⟨rfl, rfl, .inl rfl, .inl rfl, fun hc hc' => absurd hc (hc' ▸ Bool.false_ne_true)⟩ ?_)
      simp [ProbeEvent.amends]

theorem issueIfDue_moves (now : Timestamp) : Moves s (s.issueIfDue p now).1 := by
  unfold NatProbeScheduler.issueIfDue
  cases hst : s.peers.lookup p with
  | none => exact .nil s
  | some st =>
    dsimp only
    split_ifs with hpend hsup
    · exact .nil s
    · exact .nil s
    · simp only [Bool.or_eq_true, decide_eq_true_eq, Bool.not_eq_true', not_or, not_le,
        Bool.not_eq_false, Bool.not_eq_true, Option.isSome_eq_false_iff,
        Option.isNone_iff_eq_none] at hsup
      obtain ⟨⟨⟨hports, -⟩, hin⟩, hcount⟩ := hsup
      exact Move.moves (.issue p st
        ⟨natProbeControlVersion, s.snPeerId, p, st.registrationGeneration, s.nextRequestId,
          st.configGeneration, saturatingAdd now natProbeDirectiveTimeout, s.ports⟩
        hst hpend hports hin hcount rfl)

theorem observeReportedProfile_moves (tunnelId : CmdTunnelId) (remote : Endpoint)
    (profile : NatProfile) (now : Timestamp) :
    Moves s (s.observeReportedProfile p tunnelId remote profile now).1 := by
  unfold NatProbeScheduler.observeReportedProfile
  cases hst : s.peers.lookup p with
  | none => exact .nil s
  | some st =>
    dsimp only
    split_ifs with hbad hold
    · exact .nil s
    · exact .nil s
    · have hmove := Move.amend (s := s) p st
        { st with profile := some profile, nextPeriodicAt := saturatingAdd now natProbePeriod } []
        hst ⟨rfl, rfl, .inr ⟨rfl, rfl⟩, .inr rfl, fun hc hc' => absurd hc (hc' ▸ Bool.false_ne_true)⟩
        (by simp)
      rw [List.append_nil] at hmove
      exact hmove.moves

theorem removePeer_moves : Moves s (s.removePeer p).1 := by
  unfold NatProbeScheduler.removePeer
  split_ifs with hst
  · exact (Move.remove p hst).moves
  · exact .nil s

theorem setPorts_moves (ports : List U16) : Moves s (s.setPorts ports).1 := by
  unfold NatProbeScheduler.setPorts
  dsimp only
  generalize hports : (if NatProbeScheduler.validPorts (ports.insertionSort (· ≤ ·)) then
    ports.insertionSort (· ≤ ·) else []) = effective
  by_cases hsame : effective = s.ports
  · simp only [if_pos hsame, Moves.nil]
  · rw [if_neg hsame]
    exact (Move.configure effective hsame).moves

theorem setSnPeerId_moves (snPeerId : P2pId) : Moves s (s.setSnPeerId snPeerId) := by
  unfold NatProbeScheduler.setSnPeerId
  split_ifs with hsame
  · exact .nil s
  · exact (Move.rename snPeerId hsame).moves

theorem expireDue_moves (now : Timestamp) : Moves s (s.expireDue now).1 := by
  have hfold : ∀ (keys : List P2pId) (r : NatProbeScheduler × List P2pId), Moves s r.1 →
      Moves s (keys.foldl (fun (r : NatProbeScheduler × List P2pId) peerId =>
        let t := r.1.finishExpired peerId now {}
        (t.1, if t.2.profileUpdate.isSome then r.2 ++ [peerId] else r.2)) r).1 := by
    intro keys
    induction keys with
    | nil => intro r hr; exact hr
    | cons q keys ih => intro r hr; exact ih _ (hr.trans (finishExpired_moves r.1 q now {}))
  exact hfold s.peers.keys (s, []) (.nil s)

variable {s p}

theorem prepareReport_moves {tunnelId : CmdTunnelId} {remote : Endpoint} {version : Option U8}
    {now : Timestamp} {m : NatProbeScheduler} {t : ProbeTransition}
    (h : s.prepareReport p tunnelId remote version now = some (m, t)) : Moves s m := by
  unfold NatProbeScheduler.prepareReport at h
  split_ifs at h with hignored hreg
  · obtain ⟨rfl, -⟩ := Prod.mk.inj (Option.some.inj h)
    exact (register_move s p ..).moves.trans (finishExpired_moves ..)
  · obtain ⟨rfl, -⟩ := Prod.mk.inj (Option.some.inj h)
    exact (observeCapability_moves s p _).trans (finishExpired_moves ..)

end Operations

/-- Every operation is a sequence of moves. -/
theorem step_moves (s : NatProbeScheduler) (op : ProbeOp) : Moves s (s.step op) := by
  cases op with
  | capableReport p tunnelId remote version result now =>
    show Moves s (s.observeCapableReport p tunnelId remote version result now).1
    unfold NatProbeScheduler.observeCapableReport
    split
    · next m t hprep =>
      have hm := prepareReport_moves hprep
      cases result with
      | none => exact hm.trans (issueIfDue_moves m p now)
      | some result =>
        have haccept := acceptResult_moves m p result now t
        exact (hm.trans haccept).trans (issueIfDue_moves _ p now)
    · split_ifs with hudp
      · exact observeIneligibleReport_moves s p tunnelId
      · exact .nil s
  | reportedProfile p tunnelId remote profile now =>
    exact observeReportedProfile_moves s p tunnelId remote profile now
  | control p tunnelId remote now =>
    show Moves s (s.observeControl p tunnelId remote now).1
    unfold NatProbeScheduler.observeControl
    split_ifs with hudp hignored hreg
    · exact observeIneligibleReport_moves s p tunnelId
    · exact .nil s
    · exact (register_move s p ..).moves.trans (finishExpired_moves ..)
    · exact finishExpired_moves s p now {}
  | setPorts ports => exact setPorts_moves s ports
  | setSnPeerId snPeerId => exact setSnPeerId_moves s snPeerId
  | expireDue now => exact expireDue_moves s now
  | removePeer p => exact removePeer_moves s p
  | removePeerIfAuthority p tunnelId generation =>
    show Moves s (s.removePeerIfAuthority p tunnelId generation).1
    unfold NatProbeScheduler.removePeerIfAuthority
    split_ifs with hauth
    · exact removePeer_moves s p
    · exact .nil s

theorem exec_moves (s : NatProbeScheduler) (ops : List ProbeOp) :
    Moves s (exec NatProbeScheduler.step s ops) := by
  induction ops generalizing s with
  | nil => exact .nil s
  | cons op ops ih => exact (step_moves s op).trans (ih _)

theorem Moves.inv {I : NatProbeScheduler → Prop} (hmove : ∀ s s', I s → Move s s' → I s')
    {s s' : NatProbeScheduler} (h : Moves s s') (hI : I s) : I s' := by
  induction h with
  | refl => exact hI
  | tail _ hstep ih => exact hmove _ _ ih hstep

/-! ## The directive behind a probe in flight -/

/-- The directive was issued, and nothing has superseded it for the peer. -/
def Live (log : List ProbeEvent) (p : P2pId) (d : NatProbeDirective) : Prop :=
  ∃ pre post, log = pre ++ .directiveIssued d :: post ∧ ∀ e ∈ post, e.supersedes p = false

theorem Live.append {log : List ProbeEvent} {p : P2pId} {d : NatProbeDirective} (h : Live log p d)
    {events : List ProbeEvent} (hev : ∀ e ∈ events, e.supersedes p = false) :
    Live (log ++ events) p d := by
  obtain ⟨pre, post, rfl, hpost⟩ := h
  refine ⟨pre, post ++ events, by simp, ?_⟩
  intro e he
  rcases List.mem_append.mp he with he | he
  · exact hpost e he
  · exact hev e he

/-- The SN is the same one with the same ports, and the peer's registration stands with its
configuration and has not lost its control capability. -/
structure Undisturbed (p : P2pId) (s s' : NatProbeScheduler) : Prop where
  sn : s'.snPeerId = s.snPeerId
  ports : s'.ports = s.ports
  registration : ∀ st, s.peers.lookup p = some st → ∃ st', s'.peers.lookup p = some st' ∧
    st'.registrationGeneration = st.registrationGeneration ∧
    st'.configGeneration = st.configGeneration ∧
    (st.controlSupported = true → st'.controlSupported = true)

theorem Undisturbed.refl (p : P2pId) (s : NatProbeScheduler) : Undisturbed p s s :=
  ⟨rfl, rfl, fun st hst => ⟨st, hst, rfl, rfl, id⟩⟩

theorem Undisturbed.trans {p : P2pId} {s s' s'' : NatProbeScheduler} (h : Undisturbed p s s')
    (h' : Undisturbed p s' s'') : Undisturbed p s s'' := by
  refine ⟨h'.sn.trans h.sn, h'.ports.trans h.ports, ?_⟩
  intro st hst
  obtain ⟨st', hst', hreg, hcfg, hctl⟩ := h.registration st hst
  obtain ⟨st'', hst'', hreg', hcfg', hctl'⟩ := h'.registration st' hst'
  exact ⟨st'', hst'', hreg'.trans hreg, hcfg'.trans hcfg, hctl' ∘ hctl⟩

theorem undisturbed_at {p : P2pId} {s s' : NatProbeScheduler} (hsn : s'.snPeerId = s.snPeerId)
    (hports : s'.ports = s.ports) (hsame : s'.peers.lookup p = s.peers.lookup p) :
    Undisturbed p s s' :=
  ⟨hsn, hports, fun st hst => ⟨st, hsame.trans hst, rfl, rfl, id⟩⟩

/-- Nothing happens to a peer's registration that the log does not show. -/
theorem move_logged (p : P2pId) {s s' : NatProbeScheduler} (h : Move s s') :
    ∃ events, s'.log = s.log ++ events ∧
      ((∀ e ∈ events, e.supersedes p = false) → Undisturbed p s s') := by
  cases h with
  | establish q st₀ hreg hcfg hnone =>
    refine ⟨_, rfl, fun hev => undisturbed_at rfl rfl (AList.lookup_insert_ne ?_)⟩
    rintro rfl
    simp [ProbeEvent.supersedes] at hev
  | amend q st₀ st₁ events hst₀ hst₁ hev =>
    refine ⟨events, rfl, fun hquiet => ?_⟩
    by_cases hpq : p = q
    · subst hpq
      refine ⟨rfl, rfl, fun st hst => ⟨st₁, AList.lookup_insert _, ?_⟩⟩
      obtain rfl : st₀ = st := Option.some.inj (hst₀.symm.trans hst)
      refine ⟨hst₁.registration, hst₁.config, fun hc => ?_⟩
      by_contra hc'
      obtain ⟨r, hr⟩ := hst₁.control hc (Bool.eq_false_iff.mpr hc')
      have hrp : r = p := by simpa [ProbeEvent.amends] using hev _ hr
      have hsup := hquiet _ hr
      rw [hrp] at hsup
      simp [ProbeEvent.supersedes] at hsup
    · exact undisturbed_at rfl rfl (AList.lookup_insert_ne hpq)
  | issue q st₀ d hst₀ hpend hports hnone hcount hd =>
    refine ⟨_, rfl, fun _ => ?_⟩
    by_cases hpq : p = q
    · subst hpq
      refine ⟨rfl, rfl, fun st hst => ⟨_, AList.lookup_insert _, ?_⟩⟩
      obtain rfl : st₀ = st := Option.some.inj (hst₀.symm.trans hst)
      exact ⟨rfl, rfl, id⟩
    · exact undisturbed_at rfl rfl (AList.lookup_insert_ne hpq)
  | remove q hsome =>
    refine ⟨_, rfl, fun hev => undisturbed_at rfl rfl (AList.lookup_erase_ne ?_)⟩
    rintro rfl
    simp [ProbeEvent.supersedes] at hev
  | configure ports hports =>
    exact ⟨_, rfl, fun hev => absurd (hev _ (List.mem_singleton_self _)) Bool.true_eq_false.mp⟩
  | rename sn hid =>
    exact ⟨_, rfl, fun hev => absurd (hev _ (List.mem_singleton_self _)) Bool.true_eq_false.mp⟩

/-- What a run does to the registration of a peer, the ports or the SN id is in its log. -/
theorem moves_logged (p : P2pId) {s s' : NatProbeScheduler} (h : Moves s s') :
    ∃ events, s'.log = s.log ++ events ∧
      ((∀ e ∈ events, e.supersedes p = false) → Undisturbed p s s') := by
  induction h with
  | refl => exact ⟨[], (List.append_nil _).symm, fun _ => .refl p s⟩
  | tail _ hmove ih =>
    obtain ⟨events, hlog, hcalm⟩ := ih
    obtain ⟨more, hlog', hcalm'⟩ := move_logged p hmove
    refine ⟨events ++ more, by rw [hlog', hlog, List.append_assoc], fun hev => ?_⟩
    have hfirst := hcalm fun e he => hev e (List.mem_append_left _ he)
    exact hfirst.trans (hcalm' fun e he => hev e (List.mem_append_right _ he))

theorem ProbeEvent.amends_other {p q : P2pId} {e : ProbeEvent} (h : e.amends q = true)
    (hpq : p ≠ q) : e.supersedes p = false := by
  have hqp : q ≠ p := hpq.symm
  cases e <;> simp_all [ProbeEvent.amends, ProbeEvent.supersedes]

/-- The directive is the one that the probe in flight of the peer belongs to. -/
structure Asks (s : NatProbeScheduler) (p : P2pId) (st : PeerProbeState) (probe : InFlightProbe)
    (d : NatProbeDirective) : Prop where
  peer : d.peerId = p
  sn : d.snPeerId = s.snPeerId
  registration : d.registrationGeneration = st.registrationGeneration
  config : d.probeConfigGeneration = st.configGeneration
  request : d.requestId = probe.requestId
  deadline : d.expiresAt = probe.expiresAt
  live : Live s.log p d

/-- Behind every probe in flight is a live directive. -/
def Tracked (s : NatProbeScheduler) : Prop :=
  ∀ p st probe, s.peers.lookup p = some st → st.inFlight = some probe → ∃ d, Asks s p st probe d

theorem tracked_new (sn : P2pId) : Tracked (.new sn) := by
  intro p st probe hst
  cases hst

theorem Asks.keep {s s' : NatProbeScheduler} {p : P2pId} {st st' : PeerProbeState}
    {probe : InFlightProbe} {d : NatProbeDirective} (h : Asks s p st probe d)
    (hsn : s'.snPeerId = s.snPeerId) (hreg : st'.registrationGeneration = st.registrationGeneration)
    (hcfg : st'.configGeneration = st.configGeneration) (hlive : Live s'.log p d) :
    Asks s' p st' probe d where
  peer := h.peer
  sn := h.sn.trans hsn.symm
  registration := h.registration.trans hreg.symm
  config := h.config.trans hcfg.symm
  request := h.request
  deadline := h.deadline
  live := hlive

theorem tracked_move {s s' : NatProbeScheduler} (hs : Tracked s) (h : Move s s') : Tracked s' := by
  intro p st probe hst hin
  cases h with
  | establish q st₀ hreg hcfg hnone =>
    rcases Table.lookup_insert_some.mp hst with ⟨rfl, rfl⟩ | ⟨hpq, hst⟩
    · rw [hnone] at hin
      cases hin
    · obtain ⟨d, hd⟩ := hs p st probe hst hin
      refine ⟨d, hd.keep rfl rfl rfl (hd.live.append ?_)⟩
      simp [ProbeEvent.supersedes, Ne.symm hpq]
  | amend q st₀ st₁ events hst₀ hst₁ hev =>
    rcases Table.lookup_insert_some.mp hst with ⟨rfl, rfl⟩ | ⟨hpq, hst⟩
    · rcases hst₁.inFlight with hnone | ⟨rfl, hsame⟩
      · rw [hnone] at hin
        cases hin
      · obtain ⟨d, hd⟩ := hs p st₀ probe hst₀ (hsame ▸ hin)
        refine ⟨d, hd.keep rfl hst₁.registration hst₁.config (hd.live.append ?_)⟩
        simp
    · obtain ⟨d, hd⟩ := hs p st probe hst hin
      refine ⟨d, hd.keep rfl rfl rfl (hd.live.append ?_)⟩
      exact fun e he => ProbeEvent.amends_other (hev e he) hpq
  | issue q st₀ d hst₀ hpend hports hnone hcount hd =>
    rcases Table.lookup_insert_some.mp hst with ⟨rfl, rfl⟩ | ⟨hpq, hst⟩
    · cases hin
      refine ⟨d, ?_⟩
      have hlive : Live (s.log ++ [.directiveIssued d]) p d := ⟨s.log, [], by simp, by simp⟩
      rw [hd] at hlive ⊢
      exact ⟨rfl, rfl, rfl, rfl, rfl, rfl, hlive⟩
    · obtain ⟨d', hd'⟩ := hs p st probe hst hin
      refine ⟨d', hd'.keep rfl rfl rfl (hd'.live.append ?_)⟩
      simp [ProbeEvent.supersedes]
  | remove q hsome =>
    obtain ⟨hpq, hold⟩ := Table.lookup_erase_some.mp hst
    obtain ⟨d, hd⟩ := hs p st probe hold hin
    refine ⟨d, hd.keep rfl rfl rfl (hd.live.append ?_)⟩
    simp [ProbeEvent.supersedes, Ne.symm hpq]
  | configure ports hports =>
    obtain ⟨st₀, -, rfl⟩ := Table.lookup_mapValues.mp hst
    cases hin
  | rename sn hid => cases hst

/-! ## Registrations are numbered -/

def ProbeEvent.establishes : ProbeEvent → Bool
  | .authorityEstablished .. => true
  | _ => false

def ProbeEvent.directive? : ProbeEvent → Option NatProbeDirective
  | .directiveIssued d => some d
  | _ => none

/-- The number of registrations that were made. -/
def NatProbeScheduler.registrations (s : NatProbeScheduler) : Nat :=
  s.log.countP ProbeEvent.establishes

/-- The directives that `issue_if_due` returned, oldest first. -/
def NatProbeScheduler.issued (s : NatProbeScheduler) : List NatProbeDirective :=
  s.log.filterMap ProbeEvent.directive?

/-- What a directive is issued for. -/
def NatProbeDirective.registration (d : NatProbeDirective) : P2pId × U64 :=
  (d.peerId, d.registrationGeneration)

/-- Generations are used in order, and a registration that waits for its directive has none yet. -/
structure Numbered (s : NatProbeScheduler) : Prop where
  next : s.registrations + 1 < 2 ^ 64 → s.nextRegistrationGeneration.val = s.registrations + 1
  used : ∀ d ∈ s.issued, d.registrationGeneration.val ≤ s.registrations
  registered : ∀ p st, s.peers.lookup p = some st → st.registrationGeneration.val ≤ s.registrations
  waiting : ∀ p st, s.peers.lookup p = some st → st.pendingTrigger ≠ none →
    ∀ d ∈ s.issued, d.registration ≠ (p, st.registrationGeneration)
  once : (s.issued.map NatProbeDirective.registration).Nodup

theorem numbered_new (sn : P2pId) : Numbered (.new sn) where
  next _ := rfl
  used d hd := by cases hd
  registered p st hst := by cases hst
  waiting p st hst := by cases hst
  once := .nil

/-- The event is neither a registration nor a directive. -/
def ProbeEvent.quiet (e : ProbeEvent) : Bool := !e.establishes && e.directive?.isNone

theorem ProbeEvent.quiet_of_amends {p : P2pId} {e : ProbeEvent} (h : e.amends p = true) :
    e.quiet = true := by
  cases e <;> first | rfl | simp [ProbeEvent.amends] at h

section Log

variable {s s' : NatProbeScheduler} {events : List ProbeEvent}

theorem registrations_append (h : s'.log = s.log ++ events) :
    s'.registrations = s.registrations + events.countP ProbeEvent.establishes := by
  unfold NatProbeScheduler.registrations
  rw [h, List.countP_append]

theorem issued_append (h : s'.log = s.log ++ events) :
    s'.issued = s.issued ++ events.filterMap ProbeEvent.directive? := by
  unfold NatProbeScheduler.issued
  rw [h, List.filterMap_append]

theorem registrations_quiet (h : s'.log = s.log ++ events) (hev : ∀ e ∈ events, e.quiet = true) :
    s'.registrations = s.registrations := by
  rw [registrations_append h, List.countP_eq_zero.mpr, Nat.add_zero]
  intro e he hest
  have hquiet := hev e he
  rw [ProbeEvent.quiet, hest] at hquiet
  cases hquiet

theorem issued_quiet (h : s'.log = s.log ++ events) (hev : ∀ e ∈ events, e.quiet = true) :
    s'.issued = s.issued := by
  rw [issued_append h, List.filterMap_eq_nil_iff.mpr, List.append_nil]
  intro e he
  have hquiet := hev e he
  rw [ProbeEvent.quiet, Bool.and_eq_true, Option.isNone_iff_eq_none] at hquiet
  exact hquiet.2

/-- What a move keeps that neither registers a peer nor issues a directive. -/
theorem Numbered.keep (hs : Numbered s) (hlog : s'.log = s.log ++ events)
    (hev : ∀ e ∈ events, e.quiet = true)
    (hnext : s'.nextRegistrationGeneration = s.nextRegistrationGeneration)
    (hpeers : ∀ p st', s'.peers.lookup p = some st' → ∃ st, s.peers.lookup p = some st ∧
      st'.registrationGeneration = st.registrationGeneration ∧
      (st'.pendingTrigger = none ∨ st'.pendingTrigger = st.pendingTrigger)) : Numbered s' := by
  have hregs := registrations_quiet hlog hev
  have hissued := issued_quiet hlog hev
  constructor
  · intro hlt
    rw [hnext, hregs]
    exact hs.next (hregs ▸ hlt)
  · rw [hissued, hregs]
    exact hs.used
  · intro p st' hst'
    obtain ⟨st, hst, hreg, -⟩ := hpeers p st' hst'
    rw [hreg, hregs]
    exact hs.registered p st hst
  · intro p st' hst' hpend
    obtain ⟨st, hst, hreg, hnone | hsame⟩ := hpeers p st' hst'
    · exact absurd hnone hpend
    · rw [hissued, hreg]
      exact hs.waiting p st hst (hsame ▸ hpend)
  · rw [hissued]
    exact hs.once

end Log

theorem nextGeneration_val {g : U64} (h : g.val + 1 < 2 ^ 64) :
    (nextGeneration g).val = g.val + 1 := by
  have hsucc : (g + 1).val = g.val + 1 := by
    show (g.val + 1) % 2 ^ 64 = g.val + 1
    exact Nat.mod_eq_of_lt h
  have hle : (1 : U64) ≤ g + 1 := by
    rw [Fin.le_def, hsucc]
    exact Nat.le_add_left 1 g.val
  rw [nextGeneration, max_eq_left hle, hsucc]

/-- A new registration has a generation that no directive was issued for. -/
theorem Numbered.establish {s s' : NatProbeScheduler} (hs : Numbered s) {q : P2pId}
    {st₀ : PeerProbeState} (hreg : st₀.registrationGeneration = s.nextRegistrationGeneration)
    (hnext : s'.nextRegistrationGeneration = nextGeneration s.nextRegistrationGeneration)
    (hpeers : s'.peers = s.peers.insert q st₀)
    (hlog : s'.log = s.log ++ [.authorityEstablished q st₀.registrationGeneration])
    (hlt : s'.registrations < 2 ^ 64) : Numbered s' := by
  have hregs : s'.registrations = s.registrations + 1 := registrations_append hlog
  have hissued : s'.issued = s.issued := by
    rw [issued_append hlog]
    exact List.append_nil _
  have hval : st₀.registrationGeneration.val = s.registrations + 1 := by
    rw [hreg]
    exact hs.next (by omega)
  constructor
  · intro hlt'
    rw [hnext, nextGeneration_val (by rw [← hreg, hval]; omega), ← hreg, hval, hregs]
  · intro d hd
    have hused := hs.used d (hissued ▸ hd)
    omega
  · intro p st hst
    rw [hpeers] at hst
    rcases Table.lookup_insert_some.mp hst with ⟨rfl, rfl⟩ | ⟨hpq, hst⟩
    · omega
    · have hold := hs.registered p st hst
      omega
  · intro p st hst hpend d hd heq
    rw [hissued] at hd
    rw [hpeers] at hst
    rcases Table.lookup_insert_some.mp hst with ⟨rfl, rfl⟩ | ⟨hpq, hst⟩
    · have hgen : d.registrationGeneration = st₀.registrationGeneration := congrArg Prod.snd heq
      have hused := hs.used d hd
      rw [hgen] at hused
      omega
    · exact hs.waiting p st hst hpend d hd heq
  · rw [hissued]
    exact hs.once

/-- The directive of a registration that waited for one is its first. -/
theorem Numbered.issue {s s' : NatProbeScheduler} (hs : Numbered s) {q : P2pId}
    {st₀ st₁ : PeerProbeState} {d : NatProbeDirective} (hst₀ : s.peers.lookup q = some st₀)
    (hpend : st₀.pendingTrigger ≠ none) (hd : d.registration = (q, st₀.registrationGeneration))
    (hnext : s'.nextRegistrationGeneration = s.nextRegistrationGeneration)
    (hpeers : s'.peers = s.peers.insert q st₁)
    (hreg : st₁.registrationGeneration = st₀.registrationGeneration)
    (hnone : st₁.pendingTrigger = none) (hlog : s'.log = s.log ++ [.directiveIssued d]) :
    Numbered s' := by
  have hregs : s'.registrations = s.registrations := registrations_append hlog
  have hissued : s'.issued = s.issued ++ [d] := issued_append hlog
  have hgen : d.registrationGeneration = st₀.registrationGeneration := congrArg Prod.snd hd
  have hpeer : d.peerId = q := congrArg Prod.fst hd
  constructor
  · rw [hnext, hregs]
    exact hs.next
  · intro d' hd'
    rw [hissued, List.mem_append, List.mem_singleton] at hd'
    rw [hregs]
    rcases hd' with hold | rfl
    · exact hs.used d' hold
    · rw [hgen]
      exact hs.registered q st₀ hst₀
  · intro p st hst
    rw [hpeers] at hst
    rw [hregs]
    rcases Table.lookup_insert_some.mp hst with ⟨rfl, rfl⟩ | ⟨hpq, hst⟩
    · rw [hreg]
      exact hs.registered p st₀ hst₀
    · exact hs.registered p st hst
  · intro p st hst hwaits d' hd' heq
    rw [hpeers] at hst
    rcases Table.lookup_insert_some.mp hst with ⟨rfl, rfl⟩ | ⟨hpq, hst⟩
    · exact hwaits hnone
    · rw [hissued, List.mem_append, List.mem_singleton] at hd'
      rcases hd' with hold | rfl
      · exact hs.waiting p st hst hwaits d' hold heq
      · have hp : d'.peerId = p := congrArg Prod.fst heq
        exact hpq (hp.symm.trans hpeer)
  · rw [hissued, List.map_append, List.map_singleton, List.nodup_append]
    refine ⟨hs.once, List.nodup_singleton _, ?_⟩
    intro r hr r' hr' heq
    obtain ⟨d', hd', rfl⟩ := List.mem_map.mp hr
    rw [List.mem_singleton] at hr'
    rw [hr', hd] at heq
    exact hs.waiting q st₀ hst₀ hpend d' hd' heq

theorem numbered_move {s s' : NatProbeScheduler} (hs : Numbered s) (h : Move s s')
    (hlt : s'.registrations < 2 ^ 64) : Numbered s' := by
  cases h with
  | establish q st₀ hreg hcfg hnone =>
    exact hs.establish hreg rfl rfl rfl hlt
  | amend q st₀ st₁ events hst₀ hst₁ hev =>
    refine hs.keep rfl (fun e he => ProbeEvent.quiet_of_amends (hev e he)) rfl ?_
    intro p st' hst'
    rcases Table.lookup_insert_some.mp hst' with ⟨rfl, rfl⟩ | ⟨hpq, hst'⟩
    · exact ⟨st₀, hst₀, hst₁.registration, hst₁.pending⟩
    · exact ⟨st', hst', rfl, .inr rfl⟩
  | issue q st₀ d hst₀ hpend hports hnone hcount hd =>
    refine hs.issue hst₀ hpend ?_ rfl rfl rfl rfl rfl
    rw [hd]
    rfl
  | remove q hsome =>
    refine hs.keep rfl (by simp [ProbeEvent.quiet, ProbeEvent.establishes, ProbeEvent.directive?])
      rfl ?_
    intro p st' hst'
    exact ⟨st', (Table.lookup_erase_some.mp hst').2, rfl, .inr rfl⟩
  | configure ports hports =>
    refine hs.keep rfl (by simp [ProbeEvent.quiet, ProbeEvent.establishes, ProbeEvent.directive?])
      rfl ?_
    intro p st' hst'
    obtain ⟨st, hst, rfl⟩ := Table.lookup_mapValues.mp hst'
    exact ⟨st, hst, rfl, .inr rfl⟩
  | rename sn hid =>
    refine hs.keep rfl (by simp [ProbeEvent.quiet, ProbeEvent.establishes, ProbeEvent.directive?])
      rfl ?_
    intro p st' hst'
    cases hst'

theorem registrations_move {s s' : NatProbeScheduler} (h : Move s s') :
    s.registrations ≤ s'.registrations := by
  cases h <;> exact (Nat.le_add_right _ _).trans (registrations_append rfl).ge

theorem numbered_moves {s s' : NatProbeScheduler} (h : Moves s s') (hs : Numbered s)
    (hlt : s'.registrations < 2 ^ 64) : Numbered s' := by
  induction h with
  | refl => exact hs
  | tail _ hmove ih =>
    exact numbered_move (ih ((registrations_move hmove).trans_lt hlt)) hmove hlt

/-! ## Results -/

/-- A check that is passed. -/
theorem passed {c : Prop} [Decidable c] {reason : NatProbeResultRejectReason}
    {rest : Option NatProbeResultRejectReason} (h : (if c then some reason else rest) = none) :
    ¬ c ∧ rest = none := by
  by_cases hc : c
  · rw [if_pos hc] at h
    cases h
  · rw [if_neg hc] at h
    exact ⟨hc, h⟩

/-- A result that is accepted answers the probe in flight. -/
theorem rejection_eq_none {s : NatProbeScheduler} {p : P2pId} {st : PeerProbeState}
    {result : NatProbeResult} {now : Timestamp} (h : s.rejection p st result now = none) :
    ∃ probe, st.inFlight = some probe ∧ result.snPeerId = s.snPeerId ∧ result.peerId = p ∧
      result.registrationGeneration = st.registrationGeneration ∧
      result.probeConfigGeneration = st.configGeneration ∧ result.requestId = probe.requestId ∧
      now ≤ probe.expiresAt := by
  unfold NatProbeScheduler.rejection at h
  obtain ⟨-, h⟩ := passed h
  obtain ⟨-, h⟩ := passed h
  obtain ⟨-, h⟩ := passed h
  obtain ⟨hsn, h⟩ := passed h
  obtain ⟨hpeer, h⟩ := passed h
  obtain ⟨hreg, h⟩ := passed h
  obtain ⟨hcfg, h⟩ := passed h
  cases hin : st.inFlight with
  | none =>
    rw [hin] at h
    cases h
  | some probe =>
    rw [hin] at h
    obtain ⟨hreq, h⟩ := passed h
    obtain ⟨hexp, -⟩ := passed h
    exact ⟨probe, rfl, not_not.mp hsn, not_not.mp hpeer, not_not.mp hreg, not_not.mp hcfg,
      (not_not.mp hreq).symm, not_lt.mp hexp⟩

/-- A peer's state that `accept_result` changes is that of a peer whose result is not rejected. -/
theorem acceptResult_changes {s : NatProbeScheduler} {p q : P2pId} {result : NatProbeResult}
    {now : Timestamp} {t : ProbeTransition}
    (h : (s.acceptResult p result now t).1.peers.lookup q ≠ s.peers.lookup q) :
    q = p ∧ ∃ st, s.peers.lookup p = some st ∧ s.rejection p st result now = none := by
  unfold NatProbeScheduler.acceptResult at h
  cases hst : s.peers.lookup p with
  | none =>
    rw [hst] at h
    exact absurd rfl h
  | some st =>
    rw [hst] at h
    dsimp only at h
    cases hrej : s.rejection p st result now with
    | some reason =>
      rw [hrej] at h
      exact absurd rfl h
    | none =>
      rw [hrej] at h
      refine ⟨?_, st, rfl, hrej⟩
      by_contra hqp
      exact h (AList.lookup_insert_ne hqp)

theorem tracked_moves {s s' : NatProbeScheduler} (h : Moves s s') (hs : Tracked s) : Tracked s' :=
  h.inv (fun _ _ => tracked_move) hs

/-- In every run, `accept_result` changes a peer's state for the answer to a live directive only,
and every registration gets at most one directive. -/
theorem results_answer_live_directives (sn : P2pId) (ops : List ProbeOp)
    (hlt : (exec NatProbeScheduler.step (.new sn) ops).registrations < 2 ^ 64) :
    (∀ p tunnelId remote version result now m t q,
      (exec NatProbeScheduler.step (.new sn) ops).prepareReport p tunnelId remote version now =
        some (m, t) →
      (m.acceptResult p result now t).1.peers.lookup q ≠ m.peers.lookup q →
      q = p ∧ ∃ d, Live m.log p d ∧ d.peerId = p ∧ result.snPeerId = d.snPeerId ∧
        result.peerId = d.peerId ∧ result.registrationGeneration = d.registrationGeneration ∧
        result.probeConfigGeneration = d.probeConfigGeneration ∧ result.requestId = d.requestId ∧
        now ≤ d.expiresAt) ∧
    ((exec NatProbeScheduler.step (.new sn) ops).issued.map NatProbeDirective.registration).Nodup := by
  have hmoves := exec_moves (.new sn) ops
  refine ⟨?_, (numbered_moves hmoves (numbered_new sn) hlt).once⟩
  intro p tunnelId remote version result now m t q hprep hchange
  obtain ⟨rfl, st, hst, hrej⟩ := acceptResult_changes hchange
  obtain ⟨probe, hin, hsn, hpeer, hreg, hcfg, hreq, hexp⟩ := rejection_eq_none hrej
  have htracked := tracked_moves (hmoves.trans (prepareReport_moves hprep)) (tracked_new sn)
  obtain ⟨d, hd⟩ := htracked q st probe hst hin
  exact ⟨rfl, d, hd.live, hd.peer, hsn.trans hd.sn.symm, hpeer.trans hd.peer.symm,
    hreg.trans hd.registration.symm, hcfg.trans hd.config.symm, hreq.trans hd.request.symm,
    hexp.trans_eq hd.deadline.symm⟩

/-- The endpoint that a peer reports from. -/
def reporter : Endpoint := ⟨.wan, .quic, .v4 ⟨1, 2, 3, 4⟩ 5⟩

/-- One peer registers and gets a directive. -/
def oneDirective : List ProbeOp :=
  [.setPorts [100, 200], .capableReport [9] 1 reporter (some 1) none 10]

/-- The answer to the directive. -/
def oneAnswer : NatProbeResult := ⟨1, [1], [9], 1, 1, 2, ⟨1, .symmetricLike, 12, 90, none⟩⟩

theorem results_answer_live_directives_once :
    (exec NatProbeScheduler.step (.new [1]) oneDirective).registrations < 2 ^ 64 ∧
    ∃ m t, (exec NatProbeScheduler.step (.new [1]) oneDirective).prepareReport [9] 1 reporter
      (some 1) 20 = some (m, t) ∧
      (m.acceptResult [9] oneAnswer 20 t).1.peers.lookup [9] ≠ m.peers.lookup [9] ∧
      ∃ d, Live m.log [9] d ∧ oneAnswer.requestId = d.requestId := by
  have hlt : (exec NatProbeScheduler.step (.new [1]) oneDirective).registrations < 2 ^ 64 := by
    decide +kernel
  have hrun : ((exec NatProbeScheduler.step (.new [1]) oneDirective).prepareReport [9] 1 reporter
      (some 1) 20).any (fun r => decide
        ((r.1.acceptResult [9] oneAnswer 20 r.2).1.peers.lookup [9] ≠ r.1.peers.lookup [9])) =
      true := by
    decide +kernel
  obtain ⟨⟨m, t⟩, hprep, hchange⟩ := (Option.any_eq_true _ _).mp hrun
  have hchanged := of_decide_eq_true hchange
  obtain ⟨-, d, hlive, -, -, -, -, -, hreq, -⟩ :=
    (results_answer_live_directives [1] oneDirective hlt).1 _ _ _ _ _ _ _ _ _ hprep hchanged
  exact ⟨hlt, m, t, hprep, hchanged, d, hlive, hreq⟩

end BuckyP2p.NatProbe
