import BuckyP2p.Sn.PingLoop
import Mathlib.Data.List.Induction
import Mathlib.Data.Prod.Lex
import Mathlib.Order.Fin.Basic

/-!
# BuckyP2p.Sn.ProbeSafety — what an SN can make its client probe

The responses of an SN decide what is in `World`, and nothing is assumed of them.  `Epoch` is what
the log says of an SN since it was last published or removed, `Justified` is what each event of the
log owes to those before it, and `Inv` ties the list to the log: the mark that an entry keeps is not
before any directive executed since the SN was published.
-/

namespace BuckyP2p.Sn

open Lib NatProbe SNClientService

/-- `registration_generation` and `request_id`, in their lexicographic order. -/
def mark (generation requestId : U64) : U64 ×ₗ U64 := toLex (generation, requestId)

def directiveMark (d : NatProbeDirective) : U64 ×ₗ U64 := mark d.registrationGeneration d.requestId

def ActiveSN.mark (a : ActiveSN) : U64 ×ₗ U64 :=
  Sn.mark a.natProbeRegistrationGeneration a.lastNatProbeRequestId

/-- The endpoints have the address and the protocol of the SN, and 2 to
`MAX_NAT_PROBE_ENDPOINTS` ports that are not zero and differ. -/
structure ProbesOf (snEndpoint : Endpoint) (endpoints : List Endpoint) : Prop where
  address : ∀ e ∈ endpoints, ∃ ip port, snEndpoint.addr.ip = .v4 ip ∧ port ≠ 0 ∧
    e = ⟨.wan, snEndpoint.protocol, .v4 ip port⟩
  distinct : (endpoints.map (·.addr.port)).Nodup
  many : 2 ≤ endpoints.length
  few : endpoints.length ≤ maxNatProbeEndpoints

/-! ## What the checks let through -/

theorem validatePortsFrom_ok {unique ports : List U16} (h : validatePortsFrom unique ports = .ok ()) :
    (∀ port ∈ ports, port ≠ 0 ∧ port ∉ unique) ∧ ports.Nodup := by
  induction ports generalizing unique with
  | nil => exact ⟨List.forall_mem_nil _, List.nodup_nil⟩
  | cons port rest ih =>
    unfold validatePortsFrom at h
    split_ifs at h with hzero hseen
    obtain ⟨hrest, hnodup⟩ := ih h
    refine ⟨List.forall_mem_cons.mpr ⟨⟨hzero, hseen⟩, fun p hp => ?_⟩, ?_⟩
    · exact ⟨(hrest p hp).1, fun hmem => (hrest p hp).2 (List.mem_cons_of_mem _ hmem)⟩
    · exact List.nodup_cons.mpr ⟨fun hmem => (hrest port hmem).2 List.mem_cons_self, hnodup⟩

theorem validateNatProbeTarget_ok {protocol : Protocol} {snEndpoint : Endpoint} {ip : Ipv4Addr}
    (h : validateNatProbeTarget protocol snEndpoint = .ok ip) :
    snEndpoint.protocol = protocol ∧ snEndpoint.addr.ip = .v4 ip := by
  unfold validateNatProbeTarget at h
  split_ifs at h with htcp hprotocol
  refine ⟨not_not.mp hprotocol, ?_⟩
  split at h
  · cases h
  case h_2 ip' hip =>
    split_ifs at h
    cases h
    exact hip

theorem buildNatProbeEndpoints_ok {protocol : Protocol} {snEndpoint : Endpoint} {ports : List U16}
    {endpoints : List Endpoint}
    (h : buildNatProbeEndpoints protocol snEndpoint ports = .ok endpoints) :
    ProbesOf snEndpoint endpoints := by
  unfold buildNatProbeEndpoints at h
  cases htarget : validateNatProbeTarget protocol snEndpoint with
  | error reason =>
    rw [htarget] at h
    cases h
  | ok ip =>
    cases hports : validateNatProbePorts ports with
    | error reason =>
      simp only [htarget, hports] at h
      cases h
    | ok _ =>
      simp only [htarget, hports] at h
      cases h
      obtain ⟨rfl, hip⟩ := validateNatProbeTarget_ok htarget
      unfold validateNatProbePorts at hports
      split_ifs at hports with hcount
      obtain ⟨hzero, hnodup⟩ := validatePortsFrom_ok hports
      rw [not_or, not_lt, not_lt] at hcount
      refine ⟨fun e he => ?_, ?_, ?_, ?_⟩
      · obtain ⟨port, hport, rfl⟩ := List.mem_map.mp he
        exact ⟨ip, port, hip, (hzero port hport).1, rfl⟩
      · rw [List.map_map]
        exact (List.map_id ports).symm ▸ hnodup
      · rw [List.length_map]
        exact hcount.1
      · rw [List.length_map]
        exact hcount.2

theorem endpointsOrNone_probes (protocol : Protocol) (snEndpoint : Endpoint) (ports : List U16) :
    endpointsOrNone protocol snEndpoint ports = [] ∨
      ProbesOf snEndpoint (endpointsOrNone protocol snEndpoint ports) := by
  unfold endpointsOrNone
  split
  · exact .inl rfl
  · exact .inr (buildNatProbeEndpoints_ok (by assumption))

theorem validateProbeDirective_ok {activeSnId localPeerId : P2pId} {protocol : Protocol}
    {snEndpoint : Endpoint} {generation requestId : U64} {now : Timestamp} {d : NatProbeDirective}
    {endpoints : List Endpoint}
    (h : validateProbeDirective activeSnId localPeerId protocol snEndpoint generation requestId now
      d = .ok endpoints) :
    d.snPeerId = activeSnId ∧ d.peerId = localPeerId ∧ now ≤ d.expiresAt ∧
      mark generation requestId < directiveMark d ∧ ProbesOf snEndpoint endpoints := by
  unfold validateProbeDirective at h
  dsimp only at h
  split_ifs at h with htcp hversion hsn hpeer hexpired hreplayed
  refine ⟨not_not.mp hsn, not_not.mp hpeer, not_lt.mp hexpired, ?_, buildNatProbeEndpoints_ok h⟩
  simp only [Bool.or_eq_true, Bool.and_eq_true, decide_eq_true_eq, not_or, not_lt, not_and,
    not_le] at hreplayed
  rw [directiveMark, mark, mark, Prod.Lex.toLex_lt_toLex]
  rcases hreplayed.1.lt_or_eq with hlt | heq
  · exact .inl hlt
  · exact .inr ⟨heq, hreplayed.2 heq.symm⟩

/-! ## The epochs of an SN in the log -/

/-- The entry with which an SN was published, while it is not removed, and what was executed for it
since. -/
structure Epoch where
  active : Option ActiveSN
  executed : List NatProbeDirective

def Epoch.none : Epoch := ⟨.none, []⟩

def Epoch.step (id : P2pId) (ep : Epoch) : PingEvent → Epoch
  | .published a => if a.snPeerId = id then ⟨some a, []⟩ else ep
  | .removed other => if other = id then .none else ep
  | .executed other d _ _ => if other = id then ⟨ep.active, ep.executed ++ [d]⟩ else ep
  | .attempted .. | .probed .. | .stored .. => ep

def epoch (id : P2pId) (log : List PingEvent) : Epoch := log.foldl (Epoch.step id) .none

theorem epoch_concat (id : P2pId) (log : List PingEvent) (e : PingEvent) :
    epoch id (log ++ [e]) = (epoch id log).step id e := by
  rw [epoch, List.foldl_append]
  rfl

theorem Epoch.step_published (ep : Epoch) (a : ActiveSN) :
    ep.step a.snPeerId (.published a) = ⟨some a, []⟩ := if_pos rfl

theorem Epoch.step_removed (id : P2pId) (ep : Epoch) : ep.step id (.removed id) = .none := if_pos rfl

theorem Epoch.step_executed (id : P2pId) (ep : Epoch) (d : NatProbeDirective) (now : Timestamp)
    (endpoints : List Endpoint) :
    ep.step id (.executed id d now endpoints) = ⟨ep.active, ep.executed ++ [d]⟩ := if_pos rfl

theorem Epoch.step_of_ne {id : P2pId} {ep : Epoch} {e : PingEvent} (h : e.snPeerId ≠ id) :
    ep.step id e = ep := by
  cases e with
  | attempted | probed | stored => rfl
  | published a => exact if_neg h
  | removed other => exact if_neg h
  | executed other => exact if_neg h

/-! ## What an event owes to those before it -/

/-- `certs` are the SNs that the lists had. -/
def Justified (w : World) (certs : List P2pSn) (older : List PingEvent) : PingEvent → Prop
  | .published a => (epoch a.snPeerId older).active = none ∧
      (a.natProbeEndpoints = [] ∨ ProbesOf a.snEndpoint a.natProbeEndpoints) ∧
      ∃ sn ∈ certs, sn.id = a.snPeerId ∧ a.snEndpoint ∈ sn.endpoints
  | .executed id d now endpoints =>
      (∀ d' ∈ (epoch id older).executed, directiveMark d' < directiveMark d) ∧
      d.snPeerId = id ∧ d.peerId = w.localId ∧ now ≤ d.expiresAt ∧
      ∃ a, (epoch id older).active = some a ∧ ProbesOf a.snEndpoint endpoints
  | .probed id endpoints | .stored id endpoints =>
      ∃ a, (epoch id older).active = some a ∧ (endpoints = [] ∨ ProbesOf a.snEndpoint endpoints)
  | .attempted .. | .removed _ => True

def AllJustified (w : World) (certs : List P2pSn) (log : List PingEvent) : Prop :=
  ∀ older e newer, log = older ++ e :: newer → Justified w certs older e

theorem AllJustified.nil (w : World) (certs : List P2pSn) : AllJustified w certs [] := by
  intro older e newer h
  simp at h

theorem AllJustified.concat {w : World} {certs : List P2pSn} {log : List PingEvent} {e : PingEvent}
    (h : AllJustified w certs log) (he : Justified w certs log e) :
    AllJustified w certs (log ++ [e]) := by
  intro older e' newer heq
  obtain rfl | ⟨newer, last, rfl⟩ := List.eq_nil_or_concat' newer
  · obtain ⟨rfl, hlast⟩ := List.append_inj' heq rfl
    cases List.singleton_inj.mp hlast
    exact he
  · rw [← List.cons_append, ← List.append_assoc] at heq
    obtain ⟨heq, -⟩ := List.append_inj' heq rfl
    exact h older e' newer heq

/-- What is executed for an SN in one epoch is in strictly increasing order, at every moment. -/
theorem AllJustified.increasing {w : World} {certs : List P2pSn} {log : List PingEvent}
    (h : AllJustified w certs log) (id : P2pId) :
    (epoch id log).executed.Pairwise fun d d' => directiveMark d < directiveMark d' := by
  induction log using List.reverseRecOn with
  | nil => exact .nil
  | append_singleton log e ih =>
    have hlog : AllJustified w certs log := fun older e' newer heq =>
      h older e' (newer ++ [e]) (by rw [heq]; simp)
    have he : Justified w certs log e := h log e [] rfl
    rw [epoch_concat]
    by_cases hid : e.snPeerId = id
    · cases e with
      | attempted | probed | stored => exact ih hlog
      | published a =>
        obtain rfl : a.snPeerId = id := hid
        rw [Epoch.step_published]
        exact .nil
      | removed other =>
        obtain rfl : other = id := hid
        rw [Epoch.step_removed]
        exact .nil
      | executed other d now endpoints =>
        obtain rfl : other = id := hid
        rw [Epoch.step_executed]
        exact List.pairwise_append.mpr ⟨ih hlog, List.pairwise_singleton .., fun d' hd' d'' hd'' =>
          List.mem_singleton.mp hd'' ▸ he.1 d' hd'⟩
    · rw [Epoch.step_of_ne hid]
      exact ih hlog

/-! ## The invariant -/

/-- The entry is that of the epoch. -/
structure Sound (ep : Epoch) (a : ActiveSN) : Prop where
  active : ∃ p, ep.active = some p ∧ p.snEndpoint = a.snEndpoint
  protocol : a.protocol = a.snEndpoint.protocol
  endpoints : a.natProbeEndpoints = [] ∨ ProbesOf a.snEndpoint a.natProbeEndpoints
  marked : ∀ d ∈ ep.executed, directiveMark d ≤ a.mark

def Agrees (ep : Epoch) : Option ActiveSN → Prop
  | none => ep = .none
  | some a => Sound ep a

structure Inv (w : World) (certs : List P2pSn) (s : SNClientService) : Prop where
  nodup : (s.state.activeSnList.map (·.snPeerId)).Nodup
  agrees : ∀ id, Agrees (epoch id s.log) (s.entry id)
  justified : AllJustified w certs s.log

section Operations

variable {w : World} {certs : List P2pSn} {s t : SNClientService} {id : P2pId}

theorem Inv.of_same (h : Inv w certs s) (hlog : t.log = s.log)
    (hlist : t.state.activeSnList = s.state.activeSnList) : Inv w certs t := by
  refine ⟨hlist ▸ h.nodup, fun id => ?_, hlog ▸ h.justified⟩
  rw [hlog, entry, hlist]
  exact h.agrees id

theorem Inv.next (h : Inv w certs s) : Inv w certs s.next := h.of_same rfl rfl

theorem Inv.setFailures (h : Inv w certs s) (failures : Table P2pId U32) :
    Inv w certs (s.setFailures failures) := h.of_same rfl rfl

/-- An event that does not end or begin an epoch, and executes nothing. -/
theorem Inv.record (h : Inv w certs s) (e : PingEvent) (he : Justified w certs s.log e)
    (hquiet : ∀ id ep, Epoch.step id ep e = ep) : Inv w certs (s.record e) := by
  refine ⟨h.nodup, fun id => ?_, h.justified.concat he⟩
  show Agrees (epoch id (s.log ++ [e])) (s.entry id)
  rw [epoch_concat, hquiet]
  exact h.agrees id

theorem updateActiveSn_ids {update : ActiveSN → ActiveSN}
    (hid : ∀ a, (update a).snPeerId = a.snPeerId) (l : List ActiveSN) :
    (updateActiveSn id update l).1.map (·.snPeerId) = l.map (·.snPeerId) := by
  induction l with
  | nil => rfl
  | cons a rest ih =>
    unfold updateActiveSn
    split_ifs
    · simp [hid]
    · simp [ih]

theorem entry_update (id : P2pId) (update : ActiveSN → ActiveSN) (hid : ∀ a, (update a).snPeerId = a.snPeerId) :
    (s.updateActive id update).1.entry id = (s.entry id).map update :=
  updateActiveSn_find_self hid _

theorem Inv.update (h : Inv w certs s) (update : ActiveSN → ActiveSN)
    (hid : ∀ a, (update a).snPeerId = a.snPeerId)
    (hsound : ∀ a, s.entry id = some a → Sound (epoch id s.log) (update a)) :
    Inv w certs (s.updateActive id update).1 := by
  refine ⟨(updateActiveSn_ids hid _).symm ▸ h.nodup, fun other => ?_, h.justified⟩
  show Agrees (epoch other s.log) _
  by_cases hother : other = id
  · subst hother
    rw [entry_update _ update hid]
    have hagrees := h.agrees other
    cases hentry : s.entry other with
    | none => rwa [hentry] at hagrees
    | some a => exact hsound a hentry
  · rw [(about_update update hid).entry other hother]
    exact h.agrees other

/-- The entry is updated in other fields. -/
theorem Sound.of_same {ep : Epoch} {a b : ActiveSN} (h : Sound ep a)
    (hendpoint : b.snEndpoint = a.snEndpoint) (hprotocol : b.protocol = a.protocol)
    (hendpoints : b.natProbeEndpoints = a.natProbeEndpoints)
    (hgeneration : b.natProbeRegistrationGeneration = a.natProbeRegistrationGeneration)
    (hrequest : b.lastNatProbeRequestId = a.lastNatProbeRequestId) : Sound ep b := by
  refine ⟨?_, ?_, ?_, ?_⟩
  · rw [hendpoint]
    exact h.active
  · rw [hprotocol, hendpoint]
    exact h.protocol
  · rw [hendpoints, hendpoint]
    exact h.endpoints
  · rw [ActiveSN.mark, hgeneration, hrequest]
    exact h.marked

theorem Inv.sound (h : Inv w certs s) {a : ActiveSN} (hentry : s.entry id = some a) :
    Sound (epoch id s.log) a := by
  have hagrees := h.agrees id
  rwa [hentry] at hagrees

theorem entry_remove : (s.removeActiveSn id).entry id = none := by
  refine List.find?_eq_none.mpr fun a ha => ?_
  simpa using (List.mem_filter.mp ha).2

theorem Inv.remove (h : Inv w certs s) (id : P2pId) : Inv w certs (s.removeActiveSn id) := by
  refine ⟨h.nodup.sublist (List.filter_sublist.map _), fun other => ?_, h.justified.concat trivial⟩
  show Agrees (epoch other (s.log ++ [PingEvent.removed id])) _
  rw [epoch_concat]
  by_cases hother : other = id
  · subst hother
    rw [entry_remove, Epoch.step_removed]
    rfl
  · rw [Epoch.step_of_ne (Ne.symm hother), (about_remove id s).entry other hother]
    exact h.agrees other

theorem Inv.publish (h : Inv w certs s) {a : ActiveSN} (hentry : s.entry a.snPeerId = none)
    (hprotocol : a.protocol = a.snEndpoint.protocol)
    (hendpoints : a.natProbeEndpoints = [] ∨ ProbesOf a.snEndpoint a.natProbeEndpoints)
    (hcert : ∃ sn ∈ certs, sn.id = a.snPeerId ∧ a.snEndpoint ∈ sn.endpoints) :
    Inv w certs (s.publish a) ∧ (s.publish a).entry a.snPeerId = some a ∧
      epoch a.snPeerId (s.publish a).log = ⟨some a, []⟩ := by
  have hnone : ∀ b ∈ s.state.activeSnList, b.snPeerId ≠ a.snPeerId := by
    simpa [entry] using hentry
  have hpublish : s.publish a = (s.setActive (s.state.activeSnList ++ [a])).record (.published a) := by
    unfold SNClientService.publish publishActiveSn
    rw [if_neg (by simpa using hnone)]
    rfl
  have hagrees : epoch a.snPeerId s.log = .none := by
    have hagrees := h.agrees a.snPeerId
    rwa [hentry] at hagrees
  have hself : (s.publish a).entry a.snPeerId = some a := by
    rw [hpublish]
    show (s.state.activeSnList ++ [a]).find? _ = some a
    rw [List.find?_append, show s.state.activeSnList.find? _ = none from hentry]
    simp
  have hepoch : epoch a.snPeerId (s.publish a).log = ⟨some a, []⟩ := by
    rw [hpublish]
    show epoch a.snPeerId (s.log ++ [PingEvent.published a]) = _
    rw [epoch_concat, Epoch.step_published]
  refine ⟨⟨?_, fun other => ?_, ?_⟩, hself, hepoch⟩
  · rw [hpublish]
    show ((s.state.activeSnList ++ [a]).map (·.snPeerId)).Nodup
    rw [List.map_append, List.map_singleton]
    refine h.nodup.append (List.nodup_singleton _) (List.disjoint_singleton.mpr fun hmem => ?_)
    obtain ⟨b, hb, heq⟩ := List.mem_map.mp hmem
    exact hnone b hb heq
  · by_cases hother : other = a.snPeerId
    · subst hother
      rw [hself, hepoch]
      exact ⟨⟨a, rfl, rfl⟩, hprotocol, hendpoints, List.forall_mem_nil _⟩
    · rw [(about_publish a).entry other hother, hpublish]
      show Agrees (epoch other (s.log ++ [PingEvent.published a])) _
      rw [epoch_concat, Epoch.step_of_ne (Ne.symm hother)]
      exact h.agrees other
  · rw [hpublish]
    refine h.justified.concat ⟨?_, hendpoints, hcert⟩
    rw [show epoch a.snPeerId _ = .none from hagrees]
    rfl

theorem Inv.failure (h : Inv w certs s) (id : P2pId) :
    Inv w certs (s.recordReportStreamFailure w id) := by
  unfold recordReportStreamFailure
  dsimp only
  split_ifs
  · exact (h.setFailures _).remove id
  · refine Inv.next (Inv.update (h.setFailures _) _ (fun _ => rfl) fun a ha => ?_)
    exact (Inv.sound (h.setFailures _) ha).of_same rfl rfl rfl rfl rfl

theorem Inv.report (h : Inv w certs s) (classification : SnTunnelClassification) (id : P2pId)
    (netProfile : Option NatProfile) (result : Option NatProbeResult) :
    Inv w certs (s.report w classification id netProfile result).1 := by
  have hasked := (h.record (.attempted id classification netProfile result) trivial
    fun _ _ => rfl).next
  unfold SNClientService.report
  cases w.reports s.turn with
  | noStream => exact hasked.failure id
  | noResponse => exact hasked.setFailures _
  | response resp => exact hasked.setFailures _

/-- A report that is answered changes no entry. -/
theorem report_entry {classification : SnTunnelClassification} {netProfile : Option NatProfile}
    {result : Option NatProbeResult} {resp : ReportSnResp}
    (h : (s.report w classification id netProfile result).2 = some resp) (other : P2pId) :
    (s.report w classification id netProfile result).1.entry other = s.entry other := by
  unfold SNClientService.report at h ⊢
  cases hreport : w.reports s.turn with
  | noStream | noResponse =>
    rw [hreport] at h
    cases h
  | response resp => rfl

/-- No report adds an entry. -/
theorem report_entry_none (classification : SnTunnelClassification) (netProfile : Option NatProfile)
    (result : Option NatProbeResult) (h : s.entry id = none) :
    (s.report w classification id netProfile result).1.entry id = none := by
  unfold SNClientService.report
  cases w.reports s.turn with
  | noStream =>
    unfold recordReportStreamFailure
    dsimp only
    split_ifs
    · exact entry_remove
    · refine Eq.trans (entry_update (s := SNClientService.setFailures _ _) id _ fun _ => rfl) ?_
      exact congrArg (Option.map _) h
  | noResponse => exact h
  | response resp => exact h

theorem Inv.probe (h : Inv w certs s) {a : ActiveSN} (hentry : s.entry id = some a)
    (endpoints : List Endpoint) (hprobes : endpoints = [] ∨ ProbesOf a.snEndpoint endpoints)
    (signer : Option Tls.P2pIdentityCert) : Inv w certs (s.probe w id endpoints signer).1 := by
  cases signer with
  | none => exact h
  | some _ =>
    obtain ⟨p, hactive, hendpoint⟩ := (h.sound hentry).active
    exact (h.record (.probed id endpoints) ⟨p, hactive, hendpoint ▸ hprobes⟩ fun _ _ => rfl).next

theorem probe_state (endpoints : List Endpoint) (signer : Option Tls.P2pIdentityCert) :
    (s.probe w id endpoints signer).1.state = s.state := by
  cases signer <;> rfl

theorem applyCompletedProbe_log (mark : Option (U64 × U64)) (profile : NatProfile) :
    (s.applyCompletedProbe w id mark profile).log = s.log := rfl

theorem applyCompletedProbe_list (mark : Option (U64 × U64)) (profile : NatProfile) :
    (s.applyCompletedProbe w id mark profile).state.activeSnList =
      (updateActiveSn id (completed mark profile (w.clock s.turn)) s.state.activeSnList).1 := rfl

theorem probe_entry (endpoints : List Endpoint) (signer : Option Tls.P2pIdentityCert) (other : P2pId) :
    (s.probe w id endpoints signer).1.entry other = s.entry other := by
  cases signer <;> rfl

/-- A local probe leaves the mark. -/
theorem Inv.apply_none (h : Inv w certs s) (id : P2pId) (profile : NatProfile) :
    Inv w certs (s.applyCompletedProbe w id none profile) := by
  refine Inv.next (h.update _ (fun _ => rfl) fun _ ha => ?_)
  exact (h.sound ha).of_same rfl rfl rfl rfl rfl

theorem updateActiveSn_found (id : P2pId) (update : ActiveSN → ActiveSN) (l : List ActiveSN) :
    (updateActiveSn id update l).2 = (l.find? (·.snPeerId = id)).isSome := by
  induction l with
  | nil => rfl
  | cons a rest ih =>
    unfold updateActiveSn
    by_cases ha : a.snPeerId = id
    · simp [ha]
    · simpa [ha] using ih

theorem Inv.store (h : Inv w certs s) {protocol : Protocol} {snEndpoint : Endpoint}
    (hendpoint : ∀ a, s.entry id = some a → a.snEndpoint = snEndpoint) (resp : ReportSnResp) :
    Inv w certs (s.store w id protocol snEndpoint resp) := by
  have hprobes := endpointsOrNone_probes protocol snEndpoint resp.natProbePorts
  unfold SNClientService.store
  dsimp only
  generalize hupdate : (fun current : ActiveSN => { current with
    natProbeEndpoints := endpointsOrNone protocol snEndpoint resp.natProbePorts
    natProbeSigner := validateNatProbeSigner w id resp.peerInfo
    wanEpList := resp.endPointArray }) = update
  have hid : ∀ a, (update a).snPeerId = a.snPeerId := fun a => by rw [← hupdate]
  have hstored : Inv w certs (s.updateActive id update).1 := by
    refine h.update update hid fun a ha => ?_
    have hsound := h.sound ha
    rw [← hupdate]
    exact ⟨hsound.active, hsound.protocol, (hendpoint a ha).symm ▸ hprobes, hsound.marked⟩
  split_ifs with hfound
  · refine hstored.record (.stored id _) ?_ fun _ _ => rfl
    obtain ⟨a, ha⟩ := Option.isSome_iff_exists.mp
      ((updateActiveSn_found id update s.state.activeSnList).symm.trans hfound)
    obtain ⟨p, hactive, heq⟩ := (h.sound ha).active
    exact ⟨p, hactive, heq.trans (hendpoint a ha) ▸ hprobes⟩
  · exact hstored

/-- A directive is executed of which the entry has the mark already. -/
theorem Inv.record_executed (h : Inv w certs s) {a : ActiveSN} (hentry : s.entry id = some a)
    {d : NatProbeDirective} {now : Timestamp} {endpoints : List Endpoint}
    (he : Justified w certs s.log (.executed id d now endpoints)) (hmark : directiveMark d ≤ a.mark) :
    Inv w certs (s.record (.executed id d now endpoints)) := by
  refine ⟨h.nodup, fun other => ?_, h.justified.concat he⟩
  show Agrees (epoch other (s.log ++ [PingEvent.executed id d now endpoints])) (s.entry other)
  rw [epoch_concat]
  by_cases hother : other = id
  · subst hother
    have hsound := h.sound hentry
    rw [Epoch.step_executed, hentry]
    exact ⟨hsound.active, hsound.protocol, hsound.endpoints, List.forall_mem_append.mpr
      ⟨hsound.marked, List.forall_mem_singleton.mpr hmark⟩⟩
  · rw [Epoch.step_of_ne (Ne.symm hother)]
    exact h.agrees other

section Executed

variable {a : ActiveSN} {protocol : Protocol} {snEndpoint : Endpoint} {generation requestId : U64}
  {signer : Option Tls.P2pIdentityCert} {directive : Option NatProbeDirective}

theorem Inv.execute_none (h : Inv w certs s)
    (hnone : (s.executeProbeDirective w id protocol snEndpoint generation requestId signer
      directive).2 = none) :
    Inv w certs (s.executeProbeDirective w id protocol snEndpoint generation requestId signer
        directive).1 ∧
      (s.executeProbeDirective w id protocol snEndpoint generation requestId signer
        directive).1.state = s.state := by
  unfold executeProbeDirective at hnone ⊢
  cases directive with
  | none => exact ⟨h, rfl⟩
  | some d =>
    dsimp only at hnone ⊢
    split at hnone
    · exact ⟨h.next, rfl⟩
    · cases hnone

/-- Noting the mark of a directive before its probe, and not after it, comes to the same list. -/
theorem Inv.executed_noted (h : Inv w certs s) (hentry : s.entry id = some a)
    (hendpoint : a.snEndpoint = snEndpoint) (hmark : a.mark = mark generation requestId)
    {d : NatProbeDirective} {now : Timestamp} {endpoints : List Endpoint}
    (hvalid : d.snPeerId = id ∧ d.peerId = w.localId ∧ now ≤ d.expiresAt ∧
      mark generation requestId < directiveMark d ∧ ProbesOf snEndpoint endpoints)
    (signer : Option Tls.P2pIdentityCert) (profile : NatProfile) :
    Inv w certs ((((s.next.record (.executed id d now endpoints)).probe w id endpoints
      signer).1).applyCompletedProbe w id (some (d.registrationGeneration, d.requestId)) profile) := by
  obtain ⟨hsn, hpeer, hlive, hlater, hprobes⟩ := hvalid
  obtain ⟨p, hactive, hp⟩ := (h.sound hentry).active
  generalize hturn : w.clock (((s.next.record (.executed id d now endpoints)).probe w id endpoints
    signer).1).turn = noted
  have hbefore : ∀ d' ∈ (epoch id s.log).executed, directiveMark d' < directiveMark d :=
    fun d' hd' => ((h.sound hentry).marked d' hd').trans_lt (hmark.trans_lt hlater)
  have hnoted : Inv w certs (s.updateActive id
      (completed (some (d.registrationGeneration, d.requestId)) profile noted)).1 := by
    refine h.update _ (fun _ => rfl) fun b hb => ?_
    have hsound := h.sound hb
    exact ⟨hsound.active, hsound.protocol, hsound.endpoints, fun d' hd' => (hbefore d' hd').le⟩
  have hentry' := (entry_update (s := s) id
    (completed (some (d.registrationGeneration, d.requestId)) profile noted) fun _ => rfl).trans
      (congrArg _ hentry)
  have hjustified : Justified w certs s.log (.executed id d now endpoints) :=
    ⟨hbefore, hsn, hpeer, hlive, p, hactive, (hp.trans hendpoint) ▸ hprobes⟩
  have hexecuted := hnoted.record_executed hentry' hjustified le_rfl
  have hprobed := hexecuted.probe hentry' endpoints (.inr (hendpoint ▸ hprobes)) signer
  refine hprobed.of_same ?_ ?_
  · rw [applyCompletedProbe_log]
    cases signer <;> rfl
  · rw [applyCompletedProbe_list, hturn, probe_state, probe_state]
    rfl

/-- An accepted directive is executed and noted. -/
theorem Inv.executed (h : Inv w certs s) (hentry : s.entry id = some a)
    (hendpoint : a.snEndpoint = snEndpoint) (hmark : a.mark = mark generation requestId)
    {result : NatProbeResult}
    (hresult : (s.executeProbeDirective w id protocol snEndpoint generation requestId signer
      directive).2 = some result) :
    Inv w certs ((s.executeProbeDirective w id protocol snEndpoint generation requestId signer
      directive).1.applyCompletedProbe w id
        (some (result.registrationGeneration, result.requestId)) result.profile) := by
  unfold executeProbeDirective at hresult ⊢
  cases directive with
  | none => cases hresult
  | some d =>
    dsimp only at hresult ⊢
    split at hresult
    · cases hresult
    case h_2 endpoints hvalid =>
      obtain ⟨hsn, hpeer, hlive, hlater, hprobes⟩ := validateProbeDirective_ok hvalid
      cases hresult
      exact h.executed_noted hentry hendpoint hmark ⟨hsn, hpeer, hlive, hlater, hprobes⟩ _ _

end Executed

/-! ## The two branches -/

/-- An entry that is still there has the endpoint that it had. -/
structure EndpointKept (id : P2pId) (s t : SNClientService) : Prop where
  kept : ∀ b, t.entry id = some b → ∃ a, s.entry id = some a ∧ b.snEndpoint = a.snEndpoint

theorem EndpointKept.of_eq (h : t.entry id = s.entry id) : EndpointKept id s t :=
  ⟨fun b hb => ⟨b, h ▸ hb, rfl⟩⟩

theorem EndpointKept.trans {u : SNClientService} (h : EndpointKept id s t)
    (h' : EndpointKept id t u) : EndpointKept id s u := by
  refine ⟨fun c hc => ?_⟩
  obtain ⟨b, hb, heq⟩ := h'.kept c hc
  obtain ⟨a, ha, heq'⟩ := h.kept b hb
  exact ⟨a, ha, heq.trans heq'⟩

theorem EndpointKept.next (id : P2pId) (s : SNClientService) : EndpointKept id s s.next := .of_eq rfl

theorem EndpointKept.setFailures (failures : Table P2pId U32) :
    EndpointKept id s (s.setFailures failures) := .of_eq rfl

theorem EndpointKept.record (e : PingEvent) : EndpointKept id s (s.record e) := .of_eq rfl

theorem EndpointKept.update (update : ActiveSN → ActiveSN)
    (hid : ∀ a, (update a).snPeerId = a.snPeerId)
    (hendpoint : ∀ a, (update a).snEndpoint = a.snEndpoint) :
    EndpointKept id s (s.updateActive id update).1 := by
  refine ⟨fun b hb => ?_⟩
  rw [entry_update _ update hid] at hb
  obtain ⟨a, ha, rfl⟩ := Option.map_eq_some_iff.mp hb
  exact ⟨a, ha, hendpoint a⟩

theorem EndpointKept.apply (mark : Option (U64 × U64)) (profile : NatProfile) :
    EndpointKept id s (s.applyCompletedProbe w id mark profile) := by
  refine EndpointKept.trans (.update (completed mark profile _) (fun a => ?_) fun a => ?_) (.next ..)
  · cases mark <;> rfl
  · cases mark <;> rfl

theorem EndpointKept.failure : EndpointKept id s (s.recordReportStreamFailure w id) := by
  unfold recordReportStreamFailure
  dsimp only
  split_ifs
  · exact ⟨fun b hb => by cases entry_remove.symm.trans hb⟩
  · refine EndpointKept.trans ?_ (.next ..)
    exact .trans (.setFailures _) (.update _ (fun _ => rfl) fun _ => rfl)

theorem EndpointKept.report (classification : SnTunnelClassification)
    (netProfile : Option NatProfile) (result : Option NatProbeResult) :
    EndpointKept id s (s.report w classification id netProfile result).1 := by
  have hasked : EndpointKept id s (s.record (.attempted id classification netProfile result)).next :=
    (EndpointKept.record _).trans (.next ..)
  unfold SNClientService.report
  cases w.reports s.turn with
  | noStream => exact hasked.trans .failure
  | noResponse => exact hasked.trans (.setFailures _)
  | response resp => exact hasked.trans (.setFailures _)

theorem execute_state (protocol : Protocol) (snEndpoint : Endpoint) (generation requestId : U64)
    (signer : Option Tls.P2pIdentityCert) (directive : Option NatProbeDirective) :
    (s.executeProbeDirective w id protocol snEndpoint generation requestId signer
      directive).1.state = s.state := by
  unfold executeProbeDirective
  cases directive with
  | none => rfl
  | some d =>
    dsimp only
    split
    · rfl
    · exact probe_state ..

theorem entry_execute (protocol : Protocol) (snEndpoint : Endpoint) (generation requestId : U64)
    (signer : Option Tls.P2pIdentityCert) (directive : Option NatProbeDirective) (other : P2pId) :
    (s.executeProbeDirective w id protocol snEndpoint generation requestId signer
      directive).1.entry other = s.entry other := by
  rw [SNClientService.entry, execute_state, SNClientService.entry]

theorem Inv.refreshed (h : Inv w certs s) {a b : ActiveSN} (hentry : s.entry a.snPeerId = some b)
    (hendpoint : b.snEndpoint = a.snEndpoint) (hmark : b.mark = a.mark) (resp : ReportSnResp) :
    Inv w certs (s.refreshed w a resp) := by
  unfold SNClientService.refreshed
  dsimp only
  have hkept : EndpointKept a.snPeerId s (s.executeProbeDirective w a.snPeerId a.protocol a.snEndpoint
      a.natProbeRegistrationGeneration a.lastNatProbeRequestId
      (validateNatProbeSigner w a.snPeerId resp.peerInfo) resp.natProbeDirective).1 :=
    .of_eq (entry_execute ..)
  split
  case h_1 hnone =>
    refine (h.execute_none hnone).1.store (fun c hc => ?_) resp
    rw [entry_execute, hentry] at hc
    cases hc
    exact hendpoint
  case h_2 result hresult =>
    refine Inv.store (Inv.report (h.executed hentry hendpoint hmark hresult) ..) (fun c hc => ?_) _
    obtain ⟨b', hb', heq⟩ := (hkept.trans ((EndpointKept.apply ..).trans (.report ..))).kept c hc
    cases hentry.symm.trans hb'
    exact heq.trans hendpoint

theorem entry_apply (id : P2pId) (mark : Option (U64 × U64)) (profile : NatProfile) :
    (s.applyCompletedProbe w id mark profile).entry id =
      (s.entry id).map (completed mark profile (w.clock s.turn)) :=
  entry_update _ _ fun _ => by cases mark <;> rfl

theorem completed_snEndpoint (mark : Option (U64 × U64)) (profile : NatProfile) (now : Timestamp)
    (a : ActiveSN) : (completed mark profile now a).snEndpoint = a.snEndpoint := by
  unfold completed
  cases mark <;> rfl

theorem completed_none_mark (profile : NatProfile) (now : Timestamp) (a : ActiveSN) :
    (completed none profile now a).mark = a.mark := by
  unfold ActiveSN.mark
  rfl

/-- The entry of the SN is as it was when `a` was copied from it. -/
structure Snapshot (s : SNClientService) (a : ActiveSN) : Prop where
  entry : ∃ b, s.entry a.snPeerId = some b ∧ b.snEndpoint = a.snEndpoint ∧ b.mark = a.mark
  endpoints : a.natProbeEndpoints = [] ∨ ProbesOf a.snEndpoint a.natProbeEndpoints

theorem Snapshot.of_entry {a : ActiveSN} (h : Snapshot s a)
    (heq : t.entry a.snPeerId = s.entry a.snPeerId) : Snapshot t a :=
  ⟨heq ▸ h.entry, h.endpoints⟩

theorem Inv.probeLocalIfDue (h : Inv w certs s) {a : ActiveSN} (hsnap : Snapshot s a) :
    Inv w certs (s.probeLocalIfDue w a).1 ∧ Snapshot (s.probeLocalIfDue w a).1 a := by
  unfold SNClientService.probeLocalIfDue
  split_ifs
  · exact ⟨h.next, hsnap.of_entry rfl⟩
  · dsimp only
    obtain ⟨b, hb, hendpoint, hmark⟩ := hsnap.entry
    have hnext : s.next.entry a.snPeerId = some b := hb
    have hprobed := h.next.probe hnext a.natProbeEndpoints (hendpoint ▸ hsnap.endpoints)
      a.natProbeSigner
    refine ⟨hprobed.apply_none .., ⟨?_, hsnap.endpoints⟩⟩
    have hentry := entry_apply (w := w) (s := (s.next.probe w a.snPeerId a.natProbeEndpoints
      a.natProbeSigner).1) a.snPeerId none (s.next.probe w a.snPeerId a.natProbeEndpoints
        a.natProbeSigner).2
    rw [probe_entry, hnext] at hentry
    exact ⟨_, hentry, (completed_snEndpoint ..).trans hendpoint,
      (completed_none_mark ..).trans hmark⟩

theorem Inv.refresh (h : Inv w certs s) {a : ActiveSN} (hsnap : Snapshot s a) :
    Inv w certs (s.refresh w a) := by
  unfold SNClientService.refresh
  dsimp only
  obtain ⟨hprobed, hsnap⟩ := h.probeLocalIfDue hsnap
  split
  · exact hprobed.report ..
  case h_2 resp hresp =>
    obtain ⟨b, hb, hendpoint, hmark⟩ := hsnap.entry
    exact (hprobed.report ..).refreshed ((report_entry hresp _).trans hb) hendpoint hmark resp

theorem Inv.refreshAll (h : Inv w certs s) {due : List ActiveSN}
    (hnodup : (due.map (·.snPeerId)).Nodup) (hsnap : ∀ a ∈ due, Snapshot s a) :
    Inv w certs (due.foldl (SNClientService.refresh w) s) := by
  induction due generalizing s with
  | nil => exact h
  | cons a rest ih =>
    rw [List.map_cons, List.nodup_cons] at hnodup
    obtain ⟨ha, hrest⟩ := List.forall_mem_cons.mp hsnap
    refine ih (h.refresh ha) hnodup.2 fun b hb => (hrest b hb).of_entry ?_
    exact (about_refresh a).entry _ fun heq =>
      hnodup.1 (heq ▸ List.mem_map_of_mem (f := (·.snPeerId)) hb)

theorem Inv.probeFirst (h : Inv w certs s) {a : ActiveSN} (hentry : s.entry id = some a)
    (resp : ReportSnResp) : Inv w certs (s.probeFirst w id a.snEndpoint resp) := by
  unfold SNClientService.probeFirst
  dsimp only
  exact (h.probe hentry _ (endpointsOrNone_probes ..) _).apply_none ..

theorem Inv.registered (h : Inv w certs s) {sn : P2pSn} (hsn : sn ∈ certs)
    (hentry : s.entry sn.id = none) {classification : SnTunnelClassification}
    (hendpoint : classification.remoteEp ∈ sn.endpoints) (resp : ReportSnResp) :
    Inv w certs (s.registered w sn classification resp) := by
  unfold SNClientService.registered
  dsimp only
  have hpublish := h.next.next.publish (a := s.newActiveSn w sn classification.remoteEp resp)
    hentry rfl (endpointsOrNone_probes ..) ⟨sn, hsn, rfl, hendpoint⟩
  obtain ⟨hpublished, hactive, -⟩ := hpublish
  split
  case h_1 hnone =>
    exact (hpublished.execute_none hnone).1.probeFirst ((entry_execute ..).trans hactive) resp
  case h_2 result hresult =>
    have hexecuted := hpublished.executed hactive rfl rfl hresult
    split
    · exact hexecuted.report ..
    · refine Inv.store (hexecuted.report ..) (fun c hc => ?_) _
      obtain ⟨b, hb, heq⟩ := ((EndpointKept.of_eq (entry_execute ..)).trans
        ((EndpointKept.apply ..).trans (.report ..))).kept c hc
      cases hactive.symm.trans hb
      exact heq

theorem Inv.register (h : Inv w certs s) {sn : P2pSn} (hsn : sn ∈ certs)
    (hentry : s.entry sn.id = none) {classifications : List SnTunnelClassification}
    (hendpoints : ∀ c ∈ classifications, c.remoteEp ∈ sn.endpoints) :
    Inv w certs (register w sn s classifications) := by
  induction classifications generalizing s with
  | nil => exact h
  | cons classification rest ih =>
    unfold SNClientService.register
    dsimp only
    obtain ⟨hfirst, hrest⟩ := List.forall_mem_cons.mp hendpoints
    have hreported := h.report (w := w) classification sn.id none none
    have hnone := report_entry_none (w := w) classification none none hentry
    split
    · exact ih hreported hnone hrest
    · exact hreported.registered hsn hnone hfirst _

theorem mem_classifications {sn : P2pSn} {candidates : List (Protocol × List (Option Endpoint))}
    {c : SnTunnelClassification} (h : c ∈ sn.classifications candidates) :
    c.remoteEp ∈ sn.endpoints := by
  simp only [P2pSn.classifications, List.mem_flatMap, List.mem_map, List.mem_filter] at h
  obtain ⟨⟨protocol, localEps⟩, -, snEp, ⟨hsnEp, -⟩, localEp, -, rfl⟩ := h
  exact hsnEp

theorem Inv.registerAll (h : Inv w certs s) (it : Iteration) {snList : List P2pSn}
    (hcerts : ∀ sn ∈ snList, sn ∈ certs) (hnodup : (snList.map (·.id)).Nodup)
    (hnone : ∀ sn ∈ snList, s.entry sn.id = none) :
    Inv w certs (snList.foldl
      (fun s sn => SNClientService.register w sn s (sn.classifications it.candidates)) s) := by
  induction snList generalizing s with
  | nil => exact h
  | cons sn rest ih =>
    rw [List.map_cons, List.nodup_cons] at hnodup
    obtain ⟨hsn, hrest⟩ := List.forall_mem_cons.mp hcerts
    obtain ⟨hentry, hentries⟩ := List.forall_mem_cons.mp hnone
    refine ih (h.register hsn hentry fun _ => mem_classifications) hrest hnodup.2 fun sn' hsn' => ?_
    refine ((about_register sn _).entry _ fun heq => ?_).trans (hentries sn' hsn')
    exact hnodup.1 (heq ▸ List.mem_map_of_mem (f := (·.id)) hsn')

theorem Inv.entry_of_mem (h : Inv w certs s) {a : ActiveSN} (ha : a ∈ s.state.activeSnList) :
    s.entry a.snPeerId = some a := by
  have hsome : (s.entry a.snPeerId).isSome := List.find?_isSome.mpr ⟨a, ha, by simp⟩
  obtain ⟨b, hb⟩ := Option.isSome_iff_exists.mp hsome
  have hid : b.snPeerId = a.snPeerId := by simpa using List.find?_some hb
  rw [hb, List.inj_on_of_nodup_map h.nodup (List.mem_of_find?_eq_some hb) ha hid]

/-- Those that are due are marked as reported now. -/
theorem Inv.collectDue (h : Inv w certs s) (force : Bool) (now : U64) :
    Inv w certs (s.setActive (collectDueActiveSns s.state.activeSnList force now).1) := by
  refine ⟨(collectDueActiveSns_ids ..).symm ▸ h.nodup, fun id => ?_, h.justified⟩
  have hentry : (s.setActive (collectDueActiveSns s.state.activeSnList force now).1).entry id =
      (s.entry id).map fun a => if activeSnDueReport force a.latestTime now then
        { a with latestTime := now } else a := by
    unfold SNClientService.entry collectDueActiveSns
    show List.find? _ ((s.state.activeSnList.map _).map _) = _
    rw [List.map_map, List.find?_map]
    congr 1
    · funext a
      simp only [Function.comp_apply]
      split_ifs <;> rfl
    · refine congrArg (List.find? · _) (funext fun a => ?_)
      simp only [Function.comp_apply]
      split_ifs <;> rfl
  have hagrees := h.agrees id
  rw [hentry]
  show Agrees (epoch id s.log) _
  cases ha : s.entry id with
  | none => rwa [ha] at hagrees
  | some a =>
    rw [ha] at hagrees
    show Sound _ (ite _ _ _)
    split_ifs
    · exact Sound.of_same hagrees rfl rfl rfl rfl rfl
    · exact hagrees

theorem Inv.pingProc (h : Inv w certs s) {it : Iteration} (hcerts : ∀ sn ∈ it.snList, sn ∈ certs)
    (hnodup : (it.snList.map (·.id)).Nodup) : Inv w certs (s.pingProc w it) := by
  have hbegun : Inv w certs s.beginIteration.1 := h.of_same rfl rfl
  by_cases hnil : s.state.activeSnList = []
  · rw [pingProc_registers it hnil]
    refine hbegun.registerAll it hcerts hnodup fun sn _ => ?_
    show s.state.activeSnList.find? _ = none
    rw [hnil, List.find?_nil]
  · unfold SNClientService.pingProc
    dsimp only
    rw [if_pos (by simpa [beginIteration] using List.length_pos_of_ne_nil hnil)]
    have hdue := (hbegun.collectDue s.state.firstReportPending (w.clock s.turn)).next
    have hsub := collectDueActiveSns_sublist s.state.activeSnList s.state.firstReportPending
      (w.clock s.turn)
    refine hdue.refreshAll (hdue.nodup.sublist (hsub.map _)) fun a ha => ?_
    have hentry := hdue.entry_of_mem (hsub.subset ha)
    exact ⟨⟨a, hentry, rfl, rfl⟩, (hdue.sound hentry).endpoints⟩

end Operations

theorem Inv.start (w : World) (certs : List P2pSn) (latestSnInterval : U64) :
    Inv w certs (start latestSnInterval) := ⟨List.nodup_nil, fun _ => rfl, .nil w certs⟩

/-- **An SN can make its client probe the SN only, and no directive twice.**  What the SNs answer and
which reports fail is arbitrary. -/
theorem directives_safe (w : World) (latestSnInterval : U64) (iterations : List Iteration)
    (hdistinct : ∀ it ∈ iterations, (it.snList.map (·.id)).Nodup) :
    let s := exec (pingProc w) (start latestSnInterval) iterations
    (∀ id log, log <+: s.log → (epoch id log).executed.Pairwise
      fun d d' => directiveMark d < directiveMark d') ∧
    AllJustified w (iterations.flatMap (·.snList)) s.log ∧
    ∀ a ∈ s.state.activeSnList,
      a.natProbeEndpoints = [] ∨ ProbesOf a.snEndpoint a.natProbeEndpoints := by
  have hinv : Inv w (iterations.flatMap (·.snList))
      (exec (pingProc w) (start latestSnInterval) iterations) := by
    refine exec_inv (I := Inv w (iterations.flatMap (·.snList)))
      (fun _ it h hit => Inv.pingProc h (fun sn hsn => ?_) (hdistinct it hit))
      (Inv.start ..) (along_of_forall _ fun it hit => hit)
    exact List.mem_flatMap.mpr ⟨it, hit, hsn⟩
  refine ⟨fun id log hprefix => ?_, hinv.justified, fun a ha => ?_⟩
  · obtain ⟨newer, heq⟩ := hprefix
    have hlog : AllJustified w (iterations.flatMap (·.snList)) log := fun older e later h =>
      hinv.justified older e (later ++ newer) (by rw [← heq, h]; simp)
    exact hlog.increasing id
  · exact (hinv.sound (hinv.entry_of_mem ha)).endpoints

/-- One SN, which sends the same directive with every response. -/
def repeating : World where
  localId := [9]
  certFactory := fun _ => .ok ⟨[1], [], .ed25519, fun _ _ => true, fun _ => true⟩
  reports := fun _ => .response ⟨0, [1], 0, some [], [], none, [1001, 1002],
    some ⟨natProbeControlVersion, [1], [9], 1, 1, 1, u64Max, [1001, 1002]⟩⟩
  profiles := fun _ => none
  clock := fun turn => Fin.ofNat _ (turn * 1000000000)

/-- Its directive is executed in the first iteration, and not in the second. -/
theorem directives_safe_repeating :
    let it : Iteration := ⟨[⟨[1], [⟨.wan, .quic, .v4 ⟨1, 1, 1, 1⟩ 1000⟩]⟩], [], [.quic]⟩
    let s := exec (pingProc repeating) (start 0) [it, it]
    (epoch [1] s.log).executed.length = 1 ∧ s.state.activeSnList.length = 1 ∧
      (∀ id log, log <+: s.log → (epoch id log).executed.Pairwise
        fun d d' => directiveMark d < directiveMark d') ∧
      AllJustified repeating [⟨[1], [⟨.wan, .quic, .v4 ⟨1, 1, 1, 1⟩ 1000⟩]⟩,
        ⟨[1], [⟨.wan, .quic, .v4 ⟨1, 1, 1, 1⟩ 1000⟩]⟩] s.log ∧
      ∀ a ∈ s.state.activeSnList,
        a.natProbeEndpoints = [] ∨ ProbesOf a.snEndpoint a.natProbeEndpoints :=
  ⟨by decide +kernel, by decide +kernel,
    directives_safe repeating 0 [⟨[⟨[1], [⟨.wan, .quic, .v4 ⟨1, 1, 1, 1⟩ 1000⟩]⟩], [], [.quic]⟩,
      ⟨[⟨[1], [⟨.wan, .quic, .v4 ⟨1, 1, 1, 1⟩ 1000⟩]⟩], [], [.quic]⟩] (by decide)⟩

end BuckyP2p.Sn
