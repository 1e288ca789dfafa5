import BuckyP2p.Lib.Numbering
import BuckyP2p.NatProbe.Directives

/-!
# BuckyP2p.NatProbe.Bounds — what holds of the scheduler after any operations

* `Paced`: the probes in flight are bounded, a peer waits for a directive or has one, and every peer
  has the settings in effect.
* `Apart`: registrations and directives have numbers of their own until a counter wraps around.
* `Controlled`: the ports are ones that may be probed, and a probe is in flight at a peer only if
  it can be controlled.

The first two are kept by every move; the last one is a matter of what the operations check.
-/

namespace BuckyP2p.NatProbe

open Lib

/-! ## Probes in flight -/

structure Paced (s : NatProbeScheduler) : Prop where
  count : s.inFlightCount ≤ maxConcurrentNatProbes
  waiting : ∀ p st, s.peers.lookup p = some st → st.inFlight = none ∨ st.pendingTrigger = none
  config : ∀ p st, s.peers.lookup p = some st → st.configGeneration = s.configGeneration

theorem paced_new (sn : P2pId) : Paced (.new sn) where
  count := Nat.zero_le _
  waiting p st hst := by cases hst
  config p st hst := by cases hst

/-- A peer with a probe in flight, as `inFlightCount` counts it. -/
def probing (_ : P2pId) (st : PeerProbeState) : Bool := st.inFlight.isSome

theorem inFlightCount_eq (s : NatProbeScheduler) :
    s.inFlightCount = Table.count probing s.peers := rfl

/-- One peer has a new record. -/
theorem Paced.insert {s s' : NatProbeScheduler} (hs : Paced s) {p : P2pId} {st : PeerProbeState}
    (hpeers : s'.peers = s.peers.insert p st) (hcfg : s'.configGeneration = s.configGeneration)
    (hcount : Table.count probing (s.peers.insert p st) ≤ maxConcurrentNatProbes)
    (hwait : st.inFlight = none ∨ st.pendingTrigger = none)
    (hst : st.configGeneration = s.configGeneration) : Paced s' := by
  constructor
  · rw [inFlightCount_eq, hpeers]
    exact hcount
  · intro q st' hst'
    rw [hpeers] at hst'
    rcases Table.lookup_insert_some.mp hst' with ⟨rfl, rfl⟩ | ⟨-, hold⟩
    · exact hwait
    · exact hs.waiting q st' hold
  · intro q st' hst'
    rw [hpeers] at hst'
    rw [hcfg]
    rcases Table.lookup_insert_some.mp hst' with ⟨rfl, rfl⟩ | ⟨-, hold⟩
    · exact hst
    · exact hs.config q st' hold

theorem paced_move {s s' : NatProbeScheduler} (hs : Paced s) (h : Move s s') : Paced s' := by
  cases h with
  | establish p st hreg hcfg hnone =>
    refine hs.insert rfl rfl ?_ (.inl hnone) hcfg
    refine (Table.count_insert_le probing s.peers p st).trans ?_
    have hidle : ¬ probing p st = true := by simp [probing, hnone]
    rw [if_neg hidle]
    exact hs.count
  | amend p st st' events hst hst' hev =>
    refine hs.insert rfl rfl ?_ ?_ (hst'.config.trans (hs.config p st hst))
    · refine (Table.count_insert_le_of_imp (p := probing) hst fun hprobing => ?_).trans hs.count
      rcases hst'.inFlight with hnone | ⟨-, hsame⟩
      · simp [probing, hnone] at hprobing
      · simpa [probing, hsame] using hprobing
    · rcases hst'.inFlight with hnone | ⟨-, hsame⟩
      · exact .inl hnone
      · rcases hst'.pending with hnone | hpend
        · exact .inr hnone
        · rw [hsame, hpend]
          exact hs.waiting p st hst
  | issue p st d hst hpend hports hnone hcount hd =>
    refine hs.insert rfl rfl ?_ (.inr rfl) (hs.config p st hst)
    refine (Table.count_insert_le probing s.peers p _).trans ?_
    split_ifs
    · exact hcount
    · exact hs.count
  | remove p hsome =>
    refine ⟨(Table.count_erase_le probing s.peers p).trans hs.count, ?_, ?_⟩
    · intro q st hst
      exact hs.waiting q st (Table.lookup_erase_some.mp hst).2
    · intro q st hst
      exact hs.config q st (Table.lookup_erase_some.mp hst).2
  | configure ports hports =>
    refine ⟨?_, ?_, ?_⟩
    · rw [inFlightCount_eq, Table.count_mapValues]
      exact (List.countP_eq_zero.mpr fun _ _ => by simp [probing]).trans_le (Nat.zero_le _)
    · intro p st' hst'
      obtain ⟨st, -, rfl⟩ := Table.lookup_mapValues.mp hst'
      exact .inl rfl
    · intro p st' hst'
      obtain ⟨st, -, rfl⟩ := Table.lookup_mapValues.mp hst'
      rfl
  | rename sn hid =>
    refine ⟨List.countP_nil.trans_le (Nat.zero_le _), ?_, ?_⟩
    · intro p st hst
      cases hst
    · intro p st hst
      cases hst

/-! ## Numbers -/

/-- The number of a registration. -/
def registrationNumber (st : PeerProbeState) : Option Nat := some st.registrationGeneration.val

/-- The number of the directive in flight. -/
def requestNumber (st : PeerProbeState) : Option Nat :=
  st.inFlight.map fun probe => probe.requestId.val

/-- As long as a counter has not wrapped around, it is past all the numbers that it gave out. -/
structure Apart (s : NatProbeScheduler) : Prop where
  registrations : s.registrations + 1 < 2 ^ 64 →
    s.nextRegistrationGeneration.val = s.registrations + 1 ∧
      Numbering registrationNumber s.peers (s.registrations + 1)
  requests : s.issued.length + 1 < 2 ^ 64 →
    s.nextRequestId.val = s.issued.length + 1 ∧
      Numbering requestNumber s.peers (s.issued.length + 1)

theorem apart_new (sn : P2pId) : Apart (.new sn) where
  registrations _ := ⟨rfl, .empty _ _⟩
  requests _ := ⟨rfl, .empty _ _⟩

/-- A move that gives out no number. -/
theorem Apart.keep {s s' : NatProbeScheduler} (hs : Apart s) {events : List ProbeEvent}
    (hlog : s'.log = s.log ++ events) (hev : ∀ e ∈ events, e.quiet = true)
    (hreg : s'.nextRegistrationGeneration = s.nextRegistrationGeneration)
    (hreq : s'.nextRequestId = s.nextRequestId)
    (hpeers : ∀ num bound, (num = registrationNumber ∨ num = requestNumber) →
      Numbering num s.peers bound → Numbering num s'.peers bound) : Apart s' := by
  constructor
  · rw [registrations_quiet hlog hev, hreg]
    intro hlt
    obtain ⟨hnext, hnum⟩ := hs.registrations hlt
    exact ⟨hnext, hpeers _ _ (.inl rfl) hnum⟩
  · rw [issued_quiet hlog hev, hreq]
    intro hlt
    obtain ⟨hnext, hnum⟩ := hs.requests hlt
    exact ⟨hnext, hpeers _ _ (.inr rfl) hnum⟩

section Moves

variable {s s' : NatProbeScheduler} {p : P2pId} {st : PeerProbeState}

/-- A new registration, which has no probe in flight. -/
theorem Apart.establish (hs : Apart s)
    (hreg : st.registrationGeneration = s.nextRegistrationGeneration) (hnone : st.inFlight = none)
    (hnext' : s'.nextRegistrationGeneration = nextGeneration s.nextRegistrationGeneration)
    (hreq : s'.nextRequestId = s.nextRequestId) (hpeers : s'.peers = s.peers.insert p st)
    (hlog : s'.log = s.log ++ [.authorityEstablished p st.registrationGeneration]) : Apart s' := by
  have hregs : s'.registrations = s.registrations + 1 := registrations_append hlog
  have hissued : s'.issued = s.issued := by
    rw [issued_append hlog]
    exact List.append_nil _
  constructor
  · rw [hregs, hpeers, hnext']
    intro hlt
    obtain ⟨hnext, hnum⟩ := hs.registrations (Nat.lt_of_succ_lt hlt)
    refine ⟨?_, hnum.insert_new p ?_⟩
    · rw [nextGeneration_val (hnext ▸ hlt), hnext]
    · rw [registrationNumber, hreg, hnext]
  · rw [hissued, hpeers, hreq]
    intro hlt
    obtain ⟨hnext, hnum⟩ := hs.requests hlt
    exact ⟨hnext, hnum.insert_old p (.inl (by rw [requestNumber, hnone]; rfl))⟩

/-- A directive is issued to a registered peer. -/
theorem Apart.issue (hs : Apart s) {st' : PeerProbeState} {d : NatProbeDirective}
    (hst : s.peers.lookup p = some st) (hpeers : s'.peers = s.peers.insert p st')
    (hsame : st'.registrationGeneration = st.registrationGeneration)
    (hflight : st'.inFlight = some ⟨s.nextRequestId, d.expiresAt⟩)
    (hreg : s'.nextRegistrationGeneration = s.nextRegistrationGeneration)
    (hnext' : s'.nextRequestId = nextGeneration s.nextRequestId)
    (hlog : s'.log = s.log ++ [.directiveIssued d]) : Apart s' := by
  have hregs : s'.registrations = s.registrations := registrations_append hlog
  have hissued : s'.issued.length = s.issued.length + 1 := by
    rw [issued_append hlog]
    exact List.length_append
  constructor
  · rw [hregs, hpeers, hreg]
    intro hlt
    obtain ⟨hnext, hnum⟩ := hs.registrations hlt
    exact ⟨hnext, hnum.insert_old p (.inr ⟨st, hst, by rw [registrationNumber, hsame]; rfl⟩)⟩
  · rw [hissued, hpeers, hnext']
    intro hlt
    obtain ⟨hnext, hnum⟩ := hs.requests (Nat.lt_of_succ_lt hlt)
    refine ⟨?_, hnum.insert_new p ?_⟩
    · rw [nextGeneration_val (hnext ▸ hlt), hnext]
    · rw [requestNumber, hflight, Option.map_some, hnext]

end Moves

theorem apart_move {s s' : NatProbeScheduler} (hs : Apart s) (h : Move s s') : Apart s' := by
  cases h with
  | establish p st hreg hcfg hnone => exact hs.establish hreg hnone rfl rfl rfl rfl
  | amend p st st' events hst hst' hev =>
    refine hs.keep rfl (fun e he => ProbeEvent.quiet_of_amends (hev e he)) rfl rfl ?_
    rintro num bound (rfl | rfl) hnum
    · refine hnum.insert_old p (.inr ⟨st, hst, ?_⟩)
      rw [registrationNumber, hst'.registration]
      rfl
    · refine hnum.insert_old p ?_
      rcases hst'.inFlight with hnone | ⟨-, hsame⟩
      · exact .inl (by rw [requestNumber, hnone]; rfl)
      · exact .inr ⟨st, hst, by rw [requestNumber, hsame]; rfl⟩
  | issue p st d hst hpend hports hnone hcount hd =>
    have hid : d.requestId = s.nextRequestId := by rw [hd]
    exact hs.issue (d := d) hst rfl rfl (by rw [hid]) rfl rfl rfl
  | remove p hsome =>
    refine hs.keep rfl (by simp [ProbeEvent.quiet, ProbeEvent.establishes, ProbeEvent.directive?])
      rfl rfl fun num bound _ hnum => hnum.erase p
  | configure ports hports =>
    refine hs.keep rfl (by simp [ProbeEvent.quiet, ProbeEvent.establishes, ProbeEvent.directive?])
      rfl rfl ?_
    intro num bound hkind hnum
    have hreset := hnum.mapValues fun st => { st with
      configGeneration := nextGeneration s.configGeneration
      inFlight := none
      profile := none }
    refine hreset fun st => ?_
    rcases hkind with rfl | rfl
    · exact .inr rfl
    · exact .inl rfl
  | rename sn hid =>
    exact hs.keep rfl (by simp [ProbeEvent.quiet, ProbeEvent.establishes, ProbeEvent.directive?])
      rfl rfl fun num bound _ _ => .empty num bound

/-! ## Ports and control -/

/-- Ports in ascending order, as many as a directive may name. -/
structure ProbePorts (ports : List U16) : Prop where
  ascending : ports.Pairwise (· < ·)
  enough : 2 ≤ ports.length
  limited : ports.length ≤ maxNatProbeEndpoints
  nonzero : ∀ port ∈ ports, port ≠ 0

/-- What is sorted and has no two equal neighbours ascends. -/
theorem ascending_of_neighbours {ports : List U16} (hsorted : ports.Pairwise (· ≤ ·))
    (hnext : ∀ w ∈ ports.zip ports.tail, w.1 ≠ w.2) : ports.Pairwise (· < ·) := by
  induction ports with
  | nil => exact .nil
  | cons a ports ih =>
    obtain ⟨hle, hsorted⟩ := List.pairwise_cons.mp hsorted
    cases ports with
    | nil => exact List.pairwise_singleton ..
    | cons b ports =>
      have hrest := ih hsorted fun w hw => hnext w (List.mem_cons_of_mem _ hw)
      have hab : a < b := lt_of_le_of_ne (hle b (.head _)) (hnext (a, b) (.head _))
      refine List.pairwise_cons.mpr ⟨fun c hc => ?_, hrest⟩
      rcases List.mem_cons.mp hc with rfl | hc
      · exact hab
      · exact hab.trans ((List.pairwise_cons.mp hrest).1 c hc)

theorem probePorts_of_valid {ports : List U16} (hsorted : ports.Pairwise (· ≤ ·))
    (h : NatProbeScheduler.validPorts ports = true) : ProbePorts ports := by
  simp only [NatProbeScheduler.validPorts, Bool.and_eq_true, decide_eq_true_eq, List.all_eq_true]
    at h
  obtain ⟨⟨⟨henough, hlimited⟩, hnonzero⟩, hnext⟩ := h
  exact ⟨ascending_of_neighbours hsorted hnext, henough, hlimited, hnonzero⟩

structure Controlled (s : NatProbeScheduler) : Prop where
  ports : s.ports = [] ∨ ProbePorts s.ports
  control : ∀ p st, s.peers.lookup p = some st → st.controlSupported = false → st.inFlight = none

namespace Controlled

variable {s s' : NatProbeScheduler}

theorem insert (hs : Controlled s) {p : P2pId} {st : PeerProbeState} (hports : s'.ports = s.ports)
    (hpeers : s'.peers = s.peers.insert p st)
    (hst : st.controlSupported = false → st.inFlight = none) : Controlled s' := by
  refine ⟨hports ▸ hs.ports, fun q st' hst' => ?_⟩
  rw [hpeers] at hst'
  rcases Table.lookup_insert_some.mp hst' with ⟨rfl, rfl⟩ | ⟨-, hold⟩
  · exact hst
  · exact hs.control q st' hold

theorem erase (hs : Controlled s) {p : P2pId} (hports : s'.ports = s.ports)
    (hpeers : s'.peers = s.peers.erase p) : Controlled s' := by
  refine ⟨hports ▸ hs.ports, fun q st hst => ?_⟩
  rw [hpeers] at hst
  exact hs.control q st (Table.lookup_erase_some.mp hst).2

variable (hs : Controlled s) (p : P2pId)
include hs

theorem register (tunnelId : CmdTunnelId) (remote : Endpoint) (control : Bool) (now : Timestamp) :
    Controlled (s.register p tunnelId remote control now).1 :=
  hs.insert rfl rfl fun _ => rfl

theorem observeCapability (control : Bool) : Controlled (s.observeCapability p control).1 := by
  unfold NatProbeScheduler.observeCapability
  cases hst : s.peers.lookup p with
  | none => exact hs
  | some st =>
    dsimp only
    split_ifs with hlost
    · exact hs.insert rfl rfl fun _ => rfl
    · refine hs.insert rfl rfl fun hno => hs.control p st hst ?_
      cases hsupported : st.controlSupported with
      | false => rfl
      | true =>
        have hno : control = false := hno
        rw [hsupported, hno] at hlost
        exact absurd rfl hlost

theorem observeIneligibleReport (tunnelId : CmdTunnelId) :
    Controlled (s.observeIneligibleReport p tunnelId).1 := by
  unfold NatProbeScheduler.observeIneligibleReport
  cases s.peers.lookup p with
  | none => exact hs
  | some st =>
    dsimp only
    split_ifs with htunnel
    · exact hs.erase rfl rfl
    · exact hs

theorem finishExpired (now : Timestamp) (t : ProbeTransition) :
    Controlled (s.finishExpired p now t).1 := by
  unfold NatProbeScheduler.finishExpired
  cases s.peers.lookup p with
  | none => exact hs
  | some st =>
    dsimp only
    cases st.inFlight with
    | none => exact hs
    | some probe =>
      dsimp only
      split_ifs with hexp
      · exact hs.insert rfl rfl fun _ => rfl
      · exact hs

theorem acceptResult (result : NatProbeResult) (now : Timestamp) (t : ProbeTransition) :
    Controlled (s.acceptResult p result now t).1 := by
  unfold NatProbeScheduler.acceptResult
  cases s.peers.lookup p with
  | none => exact hs
  | some st =>
    dsimp only
    cases s.rejection p st result now with
    | some reason => exact hs
    | none => exact hs.insert rfl rfl fun _ => rfl

/-- A directive is issued only to a peer that can be controlled. -/
theorem issueIfDue (now : Timestamp) : Controlled (s.issueIfDue p now).1 := by
  unfold NatProbeScheduler.issueIfDue
  cases s.peers.lookup p with
  | none => exact hs
  | some st =>
    dsimp only
    split_ifs with hpend hsup
    · exact hs
    · exact hs
    · refine hs.insert rfl rfl fun hno => absurd ?_ hsup
      have hno : st.controlSupported = false := hno
      simp [hno]

theorem observeReportedProfile (tunnelId : CmdTunnelId) (remote : Endpoint) (profile : NatProfile)
    (now : Timestamp) : Controlled (s.observeReportedProfile p tunnelId remote profile now).1 := by
  unfold NatProbeScheduler.observeReportedProfile
  cases hst : s.peers.lookup p with
  | none => exact hs
  | some st =>
    dsimp only
    split_ifs with hbad hold
    · exact hs
    · exact hs
    · exact hs.insert rfl rfl (hs.control p st hst)

theorem removePeer : Controlled (s.removePeer p).1 := by
  unfold NatProbeScheduler.removePeer
  split_ifs with hsome
  · exact hs.erase rfl rfl
  · exact hs

omit p in
theorem setPorts (ports : List U16) : Controlled (s.setPorts ports).1 := by
  have heffective : (if NatProbeScheduler.validPorts (ports.insertionSort (· ≤ ·)) = true then
      ports.insertionSort (· ≤ ·) else []) = [] ∨
      ProbePorts (if NatProbeScheduler.validPorts (ports.insertionSort (· ≤ ·)) = true then
        ports.insertionSort (· ≤ ·) else []) := by
    split_ifs with hvalid
    · exact .inr (probePorts_of_valid (List.pairwise_insertionSort _ _) hvalid)
    · exact .inl rfl
  unfold NatProbeScheduler.setPorts
  dsimp only
  split_ifs with hvalid hsame hsame
  · exact hs
  · rw [if_pos hvalid] at heffective
    refine ⟨heffective, fun p st' hst' _ => ?_⟩
    obtain ⟨st, -, rfl⟩ := Table.lookup_mapValues.mp hst'
    rfl
  · exact hs
  · rw [if_neg hvalid] at heffective
    refine ⟨heffective, fun p st' hst' _ => ?_⟩
    obtain ⟨st, -, rfl⟩ := Table.lookup_mapValues.mp hst'
    rfl

omit p in
theorem setSnPeerId (snPeerId : P2pId) : Controlled (s.setSnPeerId snPeerId) := by
  unfold NatProbeScheduler.setSnPeerId
  split_ifs with hsame
  · exact hs
  · refine ⟨hs.ports, fun p st hst => ?_⟩
    cases hst

omit p in
theorem expireDue (now : Timestamp) : Controlled (s.expireDue now).1 := by
  have hfold : ∀ (keys : List P2pId) (r : NatProbeScheduler × List P2pId), Controlled r.1 →
      Controlled (keys.foldl (fun (r : NatProbeScheduler × List P2pId) peerId =>
        let t := r.1.finishExpired peerId now {}
        (t.1, if t.2.profileUpdate.isSome then r.2 ++ [peerId] else r.2)) r).1 := by
    intro keys
    induction keys with
    | nil => intro r hr; exact hr
    | cons q keys ih => intro r hr; exact ih _ (hr.finishExpired q now {})
  exact hfold s.peers.keys (s, []) hs

theorem prepareReport {tunnelId : CmdTunnelId} {remote : Endpoint} {version : Option U8}
    {now : Timestamp} {m : NatProbeScheduler} {t : ProbeTransition}
    (h : s.prepareReport p tunnelId remote version now = some (m, t)) : Controlled m := by
  unfold NatProbeScheduler.prepareReport at h
  split_ifs at h with hignored hreg
  · obtain ⟨rfl, -⟩ := Prod.mk.inj (Option.some.inj h)
    exact (hs.register p ..).finishExpired p now _
  · obtain ⟨rfl, -⟩ := Prod.mk.inj (Option.some.inj h)
    exact (hs.observeCapability p _).finishExpired p now _

omit p in
theorem step (op : ProbeOp) : Controlled (s.step op) := by
  cases op with
  | capableReport p tunnelId remote version result now =>
    show Controlled (s.observeCapableReport p tunnelId remote version result now).1
    unfold NatProbeScheduler.observeCapableReport
    split
    · next m t hprep =>
      have hm := hs.prepareReport p hprep
      cases result with
      | none => exact hm.issueIfDue p now
      | some result => exact (hm.acceptResult p result now t).issueIfDue p now
    · split_ifs with hudp
      · exact hs.observeIneligibleReport p tunnelId
      · exact hs
  | reportedProfile p tunnelId remote profile now =>
    exact hs.observeReportedProfile p tunnelId remote profile now
  | control p tunnelId remote now =>
    show Controlled (s.observeControl p tunnelId remote now).1
    unfold NatProbeScheduler.observeControl
    split_ifs with hudp hignored hreg
    · exact hs.observeIneligibleReport p tunnelId
    · exact hs
    · exact (hs.register p ..).finishExpired p now _
    · exact hs.finishExpired p now _
  | setPorts ports => exact hs.setPorts ports
  | setSnPeerId snPeerId => exact hs.setSnPeerId snPeerId
  | expireDue now => exact hs.expireDue now
  | removePeer p => exact hs.removePeer p
  | removePeerIfAuthority p tunnelId generation =>
    show Controlled (s.removePeerIfAuthority p tunnelId generation).1
    unfold NatProbeScheduler.removePeerIfAuthority
    split_ifs with hauth
    · exact hs.removePeer p
    · exact hs

end Controlled

theorem controlled_new (sn : P2pId) : Controlled (.new sn) where
  ports := .inl rfl
  control p st hst := by cases hst

/-! ## All together -/

/-- The invariants of the scheduler.  The numbers are apart while `next_registration_generation`,
or `next_request_id`, has not wrapped around. -/
structure Scheduled (s : NatProbeScheduler) : Prop where
  count : s.inFlightCount ≤ maxConcurrentNatProbes
  waiting : ∀ p st, s.peers.lookup p = some st → st.inFlight = none ∨ st.pendingTrigger = none
  config : ∀ p st, s.peers.lookup p = some st → st.configGeneration = s.configGeneration
  registrations : s.registrations + 1 < 2 ^ 64 →
    (∀ p st, s.peers.lookup p = some st →
      st.registrationGeneration < s.nextRegistrationGeneration) ∧
    ∀ p q st st', p ≠ q → s.peers.lookup p = some st → s.peers.lookup q = some st' →
      st.registrationGeneration ≠ st'.registrationGeneration
  requests : s.issued.length + 1 < 2 ^ 64 →
    (∀ p st probe, s.peers.lookup p = some st → st.inFlight = some probe →
      probe.requestId < s.nextRequestId) ∧
    ∀ p q st st' probe probe', p ≠ q → s.peers.lookup p = some st → s.peers.lookup q = some st' →
      st.inFlight = some probe → st'.inFlight = some probe' → probe.requestId ≠ probe'.requestId
  ports : s.ports = [] ∨ ProbePorts s.ports
  control : ∀ p st, s.peers.lookup p = some st → st.controlSupported = false → st.inFlight = none

theorem Scheduled.of_parts {s : NatProbeScheduler} (hpaced : Paced s) (hapart : Apart s)
    (hcontrolled : Controlled s) : Scheduled s where
  count := hpaced.count
  waiting := hpaced.waiting
  config := hpaced.config
  registrations hlt := by
    obtain ⟨hnext, hnum⟩ := hapart.registrations hlt
    refine ⟨fun p st hst => ?_, fun p q st st' hpq hst hst' heq => ?_⟩
    · rw [Fin.lt_def, hnext]
      exact hnum.below p st _ hst rfl
    · exact hpq (hnum.apart p q st st' _ hst hst' rfl (congrArg (fun g : U64 => some g.val) heq.symm))
  requests hlt := by
    obtain ⟨hnext, hnum⟩ := hapart.requests hlt
    have hnumber : ∀ {st : PeerProbeState} {probe : InFlightProbe}, st.inFlight = some probe →
        requestNumber st = some probe.requestId.val := by
      intro st probe hin
      rw [requestNumber, hin]
      rfl
    refine ⟨fun p st probe hst hin => ?_, fun p q st st' probe probe' hpq hst hst' hin hin' heq => ?_⟩
    · rw [Fin.lt_def, hnext]
      exact hnum.below p st _ hst (hnumber hin)
    · refine hpq (hnum.apart p q st st' _ hst hst' (hnumber hin) ?_)
      rw [hnumber hin', heq]
  ports := hcontrolled.ports
  control := hcontrolled.control

/-- The invariants hold after every sequence of operations. -/
theorem scheduled_exec (sn : P2pId) (ops : List ProbeOp) :
    Scheduled (exec NatProbeScheduler.step (.new sn) ops) := by
  have hmoves := exec_moves (.new sn) ops
  have hcontrolled : Controlled (exec NatProbeScheduler.step (.new sn) ops) :=
    exec_inv_all (fun s op hs => hs.step op) (controlled_new sn) ops
  exact .of_parts (hmoves.inv (fun _ _ hs h => paced_move hs h) (paced_new sn))
    (hmoves.inv (fun _ _ hs h => apart_move hs h) (apart_new sn)) hcontrolled

end BuckyP2p.NatProbe
