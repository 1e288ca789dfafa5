import BuckyP2p.NatProbe.Profiles
import BuckyP2p.Sn.PeerManager

/-!
# BuckyP2p.Sn.Publication — publishing the profiles of the scheduler (`sn/service/service.rs`)

The tasks of an `SnService` that touch the NAT probe scheduler or the published profiles, cut where
they release the scheduler's lock or the lock of the peer manager.  A report computes its transition
in one region and publishes it in a later one; until then the transition is in `waiting`.  The
regions of all tasks are interleaved in any order: `ProbeTask` does not say which region follows
which in a task, so every interleaving of the service's tasks is among the runs.
-/

namespace BuckyP2p.Sn

open Lib NatProbe

structure ProbeService where
  scheduler : NatProbeScheduler
  peerMgr : PeerManager
  waiting : List (P2pId × ProbeTransition)

/-- A region of one of the tasks. -/
inductive ProbeTask
  /-- `handle_report_sn`, the peer is added. -/
  | addOrUpdatePeer (peerId : P2pId) (device : Option P2pIdentityCert) (protocolVersion : U8)
    (mapPorts : List (Protocol × U16)) (localEps : List Endpoint)
  /-- `handle_report_sn`, the scheduler computes a transition. -/
  | reportSn (localId peerId : P2pId) (tunnelId : CmdTunnelId) (observedTunnel : Option Endpoint)
    (controlVersion : Option U8) (result : Option NatProbeResult) (netProfile : Option NatProfile)
    (now : Timestamp)
  /-- `observe_nat_probe_control`, the scheduler computes a transition. -/
  | observeNatProbeControl (localId peerId : P2pId) (tunnelId : CmdTunnelId)
    (remoteEndpoint : Endpoint) (now : Timestamp)
  /-- `apply_nat_probe_transition` of the transition at this place among those that wait. -/
  | applyNatProbeTransition (i : Nat)
  | setNatProbePorts (ports : List U16)
  /-- `finish_nat_probe_authority_reconcile` without the authority's path, also in
  `maintain_nat_probe_state`. -/
  | finishNatProbeAuthorityReconcile (peerId : P2pId) (authorityTunnel : CmdTunnelId)
    (registrationGeneration : U64)
  /-- The last region of `maintain_nat_probe_state`. -/
  | expireDue (now : Timestamp)
  /-- `on_peer_disconnected`, at the scheduler. -/
  | disconnect (peerId : P2pId)
  /-- `on_peer_disconnected`, at the peer manager. -/
  | removePeer (peerId : P2pId)

namespace ProbeService

def new (snPeerId : P2pId) : ProbeService := ⟨.new snPeerId, ∅, []⟩

def publish (m : PeerManager) (peerId : P2pId) (transition : ProbeTransition) : PeerManager :=
  match transition.profileUpdate with
  | some (some profile) => m.setNetProfile peerId profile
  | some none => m.invalidateNetProfile peerId
  | none => m

def step (s : ProbeService) : ProbeTask → ProbeService
  | .addOrUpdatePeer peerId device protocolVersion mapPorts localEps =>
    { s with
      peerMgr := s.peerMgr.addOrUpdatePeer peerId device protocolVersion mapPorts localEps }
  | .reportSn localId peerId tunnelId observedTunnel controlVersion result netProfile now =>
    let (scheduler, transition) := s.scheduler.report localId peerId tunnelId observedTunnel
      controlVersion result netProfile now
    { s with
      scheduler := scheduler
      waiting := s.waiting ++ transition.toList.map fun t => (peerId, t) }
  | .observeNatProbeControl localId peerId tunnelId remoteEndpoint now =>
    let (scheduler, transition) := s.scheduler.control localId peerId tunnelId remoteEndpoint now
    { s with scheduler := scheduler, waiting := s.waiting ++ [(peerId, transition)] }
  | .applyNatProbeTransition i =>
    match s.waiting[i]? with
    | some (peerId, transition) =>
      { s with peerMgr := publish s.peerMgr peerId transition, waiting := s.waiting.eraseIdx i }
    | none => s
  | .setNatProbePorts ports =>
    let (scheduler, affected) := s.scheduler.setPorts ports
    { s with
      scheduler := scheduler
      peerMgr := affected.foldl PeerManager.invalidateNetProfile s.peerMgr }
  | .finishNatProbeAuthorityReconcile peerId authorityTunnel registrationGeneration =>
    let (scheduler, removed) := s.scheduler.removePeerIfAuthority peerId authorityTunnel
      registrationGeneration
    { s with
      scheduler := scheduler
      peerMgr := if removed then s.peerMgr.invalidateNetProfile peerId else s.peerMgr }
  | .expireDue now =>
    let (scheduler, invalidated) := s.scheduler.expireDue now
    { s with
      scheduler := scheduler
      peerMgr := invalidated.foldl PeerManager.invalidateNetProfile s.peerMgr }
  | .disconnect peerId => { s with scheduler := (s.scheduler.removePeer peerId).1 }
  | .removePeer peerId => { s with peerMgr := s.peerMgr.removePeer peerId }

/-- Every peer that is known has the profile published that the scheduler stores. -/
def Published (s : ProbeService) : Prop :=
  ∀ p profile, s.peerMgr.netProfile p = some profile →
    profile = (s.scheduler.stored p).getD .unknown

/-! ## When the profiles are published in order -/

/-- The profile updates of a peer that wait, oldest first. -/
def updates (waiting : List (P2pId × ProbeTransition)) (p : P2pId) : List (Option NatProfile) :=
  waiting.filterMap fun w => if w.1 = p then w.2.profileUpdate else none

/-- No profile is stored for the peer, or none of it is published or about to be. -/
def Free (s : ProbeService) (p : P2pId) : Prop :=
  s.scheduler.stored p = none ∨ (s.peerMgr.netProfile p = none ∧ updates s.waiting p = [])

/-- A profile of the peer may be dropped and its publication withdrawn at once. -/
def Settled (s : ProbeService) (p : P2pId) : Prop :=
  s.scheduler.stored p = none ∨ updates s.waiting p = []

/-- The region does not get in the way of a transition that was computed before it, nor leaves
something published that the scheduler has dropped. -/
def InOrder (s : ProbeService) : ProbeTask → Prop
  | .addOrUpdatePeer p .. =>
    s.peerMgr.netProfile p = none → s.scheduler.stored p = none ∨ updates s.waiting p ≠ []
  | .reportSn localId _ _ observedTunnel .. =>
    observedTunnel.isSome → s.scheduler.snPeerId ≠ localId → ∀ q, s.Free q
  | .observeNatProbeControl localId .. => s.scheduler.snPeerId ≠ localId → ∀ q, s.Free q
  | .applyNatProbeTransition i =>
    ∀ w, s.waiting[i]? = some w → w.2.profileUpdate.isSome → updates (s.waiting.take i) w.1 = []
  | .setNatProbePorts ports =>
    NatProbeScheduler.effectivePorts ports ≠ s.scheduler.ports → ∀ q, s.Settled q
  | .finishNatProbeAuthorityReconcile p tunnelId generation =>
    s.scheduler.authorityRegistration p = some (tunnelId, generation) → s.Settled p
  | .expireDue now => ∀ q, s.scheduler.isExpired q now = true → s.Settled q
  | .disconnect p => s.Free p
  | .removePeer _ => True

/-! ## The updates that wait -/

section Updates

variable {waiting pre post : List (P2pId × ProbeTransition)} {p : P2pId}

theorem updates_append : updates (pre ++ post) p = updates pre p ++ updates post p := by
  simp [updates]

theorem updates_one (q : P2pId) (t : ProbeTransition) :
    updates [(q, t)] p = if q = p then t.profileUpdate.toList else [] := by
  unfold updates
  by_cases h : q = p
  · cases hu : t.profileUpdate <;> simp [h, hu]
  · simp [h]

/-- The transition at a place and what is left without it. -/
theorem getElem?_cut {i : Nat} {w : P2pId × ProbeTransition} (h : waiting[i]? = some w) :
    ∃ post, waiting = waiting.take i ++ w :: post ∧
      waiting.eraseIdx i = waiting.take i ++ post := by
  obtain ⟨hlt, hget⟩ := List.getElem?_eq_some_iff.mp h
  refine ⟨waiting.drop (i + 1), ?_, List.eraseIdx_eq_take_drop_succ ..⟩
  rw [← hget, ← List.drop_eq_getElem_cons hlt, List.take_append_drop]

end Updates

/-! ## Publication -/

theorem netProfile_invalidate_all (m : PeerManager) (ids : List P2pId) (p : P2pId) :
    (ids.foldl PeerManager.invalidateNetProfile m).netProfile p =
      if p ∈ ids then (m.netProfile p).map (fun _ => .unknown) else m.netProfile p := by
  induction ids generalizing m with
  | nil => simp
  | cons id ids ih =>
    rw [List.foldl_cons, ih, PeerManager.invalidateNetProfile, PeerManager.netProfile_setNetProfile]
    by_cases hid : p = id
    · subst hid
      by_cases hmem : p ∈ ids
      · rw [if_pos rfl, if_pos hmem, if_pos (List.mem_cons_self ..), Option.map_map]
        rfl
      · rw [if_pos rfl, if_neg hmem, if_pos (List.mem_cons_self ..)]
    · simp [hid]

theorem netProfile_publish (m : PeerManager) (id : P2pId) (t : ProbeTransition) (p : P2pId) :
    (publish m id t).netProfile p =
      if p = id then t.profileUpdate.elim (m.netProfile p)
        (fun u => (m.netProfile p).map fun _ => u.getD .unknown)
      else m.netProfile p := by
  unfold publish
  cases t.profileUpdate with
  | none => simp
  | some u =>
    cases u with
    | none =>
      simp only [PeerManager.invalidateNetProfile, PeerManager.netProfile_setNetProfile]
      rfl
    | some profile =>
      simp only [PeerManager.netProfile_setNetProfile]
      rfl

/-- The last update of a peer that waits is what is stored for it; without one, what is stored is
published. -/
def Follows (s : ProbeService) (p : P2pId) : Prop :=
  match (updates s.waiting p).getLast? with
  | some u => s.scheduler.stored p = u
  | none => ∀ profile, s.peerMgr.netProfile p = some profile →
      profile = (s.scheduler.stored p).getD .unknown

theorem follows_waiting {s : ProbeService} {p : P2pId} {us : List (Option NatProfile)}
    {u : Option NatProfile} (h : updates s.waiting p = us ++ [u]) :
    s.Follows p ↔ s.scheduler.stored p = u := by
  rw [Follows, h, List.getLast?_concat]

theorem follows_idle {s : ProbeService} {p : P2pId} (h : updates s.waiting p = []) :
    s.Follows p ↔ ∀ profile, s.peerMgr.netProfile p = some profile →
      profile = (s.scheduler.stored p).getD .unknown := by
  rw [Follows, h]
  rfl

/-- A region that touches neither what is stored of a peer, nor its updates, nor its publication. -/
theorem Follows.keep {s s' : ProbeService} {p : P2pId} (h : s.Follows p)
    (hupdates : updates s'.waiting p = updates s.waiting p)
    (hstored : s'.scheduler.stored p = s.scheduler.stored p)
    (hpublished : s'.peerMgr.netProfile p = s.peerMgr.netProfile p) : s'.Follows p := by
  rw [Follows, hupdates, hstored, hpublished]
  exact h

/-- A region that publishes something for a peer while no update of it waits. -/
theorem Follows.republish {s s' : ProbeService} {p : P2pId} (h : s.Follows p)
    (hupdates : updates s'.waiting p = updates s.waiting p)
    (hstored : s'.scheduler.stored p = s.scheduler.stored p)
    (hidle : updates s.waiting p = [] → ∀ profile, s'.peerMgr.netProfile p = some profile →
      profile = (s.scheduler.stored p).getD .unknown) : s'.Follows p := by
  rcases List.eq_nil_or_concat (updates s.waiting p) with hnil | ⟨us, u, hconcat⟩
  · rw [follows_idle (hupdates.trans hnil), hstored]
    exact hidle hnil
  · rw [List.concat_eq_append] at hconcat
    rw [follows_waiting (hupdates.trans hconcat), hstored]
    exact (follows_waiting hconcat).mp h

/-- A region that drops what is stored of a peer and publishes that. -/
theorem Follows.withdraw {s s' : ProbeService} {p : P2pId} (h : s.Follows p) (hs : s.Settled p)
    (hupdates : updates s'.waiting p = updates s.waiting p)
    (hstored : s'.scheduler.stored p = none)
    (hpublished : ∀ profile, s'.peerMgr.netProfile p = some profile → profile = .unknown) :
    s'.Follows p := by
  rcases List.eq_nil_or_concat (updates s.waiting p) with hnil | ⟨us, u, hconcat⟩
  · rw [follows_idle (hupdates.trans hnil), hstored]
    exact hpublished
  · rw [List.concat_eq_append] at hconcat
    rw [follows_waiting (hupdates.trans hconcat), hstored]
    rcases hs with hnone | hempty
    · rw [← (follows_waiting hconcat).mp h, hnone]
    · rw [hempty] at hconcat
      simp at hconcat

/-- A region that drops what is stored of a peer and publishes nothing. -/
theorem Follows.drop {s s' : ProbeService} {p : P2pId} (h : s.Follows p) (hs : s.Free p)
    (hupdates : updates s'.waiting p = updates s.waiting p)
    (hstored : s'.scheduler.stored p = none)
    (hpublished : s'.peerMgr.netProfile p = s.peerMgr.netProfile p) : s'.Follows p := by
  rcases hs with hnone | ⟨hunknown, hidle⟩
  · exact h.keep hupdates (hstored.trans hnone.symm) hpublished
  · rw [follows_idle (hupdates.trans hidle), hpublished, hunknown]
    intro profile hprofile
    cases hprofile

/-- A region that computes a transition for a peer. -/
theorem Follows.tell {s s' : ProbeService} {p q : P2pId} {t : ProbeTransition} (h : s.Follows p)
    (htells : Tells s.scheduler s'.scheduler q t.profileUpdate)
    (hwaiting : s'.waiting = s.waiting ++ [(q, t)])
    (hpublished : s'.peerMgr = s.peerMgr) : s'.Follows p := by
  have hupdates : updates s'.waiting p = updates s.waiting p ++ updates [(q, t)] p := by
    rw [hwaiting, updates_append]
  rw [updates_one] at hupdates
  by_cases hqp : q = p
  · subst hqp
    rw [if_pos rfl] at hupdates
    have htold := htells.told
    cases hu : t.profileUpdate with
    | none =>
      rw [hu] at hupdates htold
      refine h.keep (hupdates.trans (List.append_nil _)) htold ?_
      rw [hpublished]
    | some u =>
      rw [hu] at hupdates htold
      exact (follows_waiting hupdates).mpr htold
  · rw [if_neg hqp, List.append_nil] at hupdates
    refine h.keep hupdates (htells.others p (Ne.symm hqp)) ?_
    rw [hpublished]

/-- The SN's id is set before the scheduler computes; unless it changes nothing happens. -/
theorem Follows.named {s : ProbeService} {p : P2pId} (h : s.Follows p) (localId : P2pId)
    (hs : s.scheduler.snPeerId ≠ localId → s.Free p) :
    ({ s with scheduler := s.scheduler.setSnPeerId localId } : ProbeService).Follows p := by
  have hstored := stored_setSnPeerId s.scheduler localId p
  by_cases hid : s.scheduler.snPeerId = localId
  · rw [if_pos hid] at hstored
    exact h.keep rfl hstored rfl
  · rw [if_neg hid] at hstored
    exact h.drop (hs hid) rfl hstored rfl

theorem Follows.apply {s : ProbeService} {p : P2pId} (h : s.Follows p) (i : Nat)
    (horder : s.InOrder (.applyNatProbeTransition i)) :
    (s.step (.applyNatProbeTransition i)).Follows p := by
  cases hget : s.waiting[i]? with
  | none =>
    have hstep : s.step (.applyNatProbeTransition i) = s := by simp only [step, hget]
    rw [hstep]
    exact h
  | some w =>
    obtain ⟨q, t⟩ := w
    have hstep : s.step (.applyNatProbeTransition i) =
        { s with peerMgr := publish s.peerMgr q t, waiting := s.waiting.eraseIdx i } := by
      simp only [step, hget]
    rw [hstep]
    obtain ⟨post, hcut, herase⟩ := getElem?_cut hget
    have hbefore : updates s.waiting p =
        updates (s.waiting.take i) p ++ (updates [(q, t)] p ++ updates post p) := by
      conv_lhs => rw [hcut]
      rw [updates_append, ← List.singleton_append, updates_append]
    have hafter : updates (s.waiting.eraseIdx i) p =
        updates (s.waiting.take i) p ++ updates post p := by
      rw [herase, updates_append]
    have hpublished := netProfile_publish s.peerMgr q t p
    rw [updates_one] at hbefore
    by_cases hqp : p = q
    · subst hqp
      rw [if_pos rfl] at hbefore hpublished
      cases hu : t.profileUpdate with
      | none =>
        rw [hu] at hbefore hpublished
        exact h.keep (hafter.trans hbefore.symm) rfl hpublished
      | some u =>
        rw [hu] at hbefore hpublished
        have hfirst : updates (s.waiting.take i) p = [] := horder _ hget (by rw [hu]; rfl)
        rw [hfirst, List.nil_append] at hbefore hafter
        rcases List.eq_nil_or_concat (updates post p) with hnil | ⟨us, v, hconcat⟩
        · -- the only update that waited is published
          have hlast : updates s.waiting p = [] ++ [u] := by rw [hbefore, hnil]; rfl
          have hstored := (follows_waiting hlast).mp h
          refine (follows_idle (hafter.trans hnil)).mpr fun profile hprofile => ?_
          rw [hpublished, Option.elim_some, Option.map_eq_some_iff] at hprofile
          obtain ⟨-, -, rfl⟩ := hprofile
          rw [hstored]
        · -- a later one still waits
          rw [List.concat_eq_append] at hconcat
          have hlast : updates s.waiting p = (u :: us) ++ [v] := by rw [hbefore, hconcat]; rfl
          exact (follows_waiting (hafter.trans hconcat)).mpr ((follows_waiting hlast).mp h)
    · rw [if_neg (Ne.symm hqp)] at hbefore
      rw [if_neg hqp] at hpublished
      exact h.keep (hafter.trans hbefore.symm) rfl hpublished

theorem Follows.invalidated {s s' : ProbeService} {p : P2pId} (h : s.Follows p)
    (ids : List P2pId) (hwaiting : s'.waiting = s.waiting)
    (hpublished : s'.peerMgr = ids.foldl PeerManager.invalidateNetProfile s.peerMgr)
    (hmem : p ∈ ids → s.Settled p ∧ s'.scheduler.stored p = none)
    (hnot : p ∉ ids → s'.scheduler.stored p = s.scheduler.stored p) : s'.Follows p := by
  have hprofile := netProfile_invalidate_all s.peerMgr ids p
  rw [← hpublished] at hprofile
  by_cases hp : p ∈ ids
  · rw [if_pos hp] at hprofile
    refine h.withdraw (hmem hp).1 (by rw [hwaiting]) (hmem hp).2 fun profile heq => ?_
    rw [hprofile, Option.map_eq_some_iff] at heq
    obtain ⟨-, -, rfl⟩ := heq
    rfl
  · rw [if_neg hp] at hprofile
    exact h.keep (by rw [hwaiting]) (hnot hp) hprofile

/-- A peer is added or updated: its profile is taken as it is, and a new peer has none. -/
theorem Follows.added {s : ProbeService} {p : P2pId} (h : s.Follows p) (id : P2pId)
    (device : Option P2pIdentityCert) (version : U8) (mapPorts : List (Protocol × U16))
    (localEps : List Endpoint)
    (horder : s.InOrder (.addOrUpdatePeer id device version mapPorts localEps)) :
    (s.step (.addOrUpdatePeer id device version mapPorts localEps)).Follows p := by
  have hpublished := PeerManager.netProfile_addOrUpdatePeer s.peerMgr id device version mapPorts
    localEps p
  by_cases hnew : p = id ∧ s.peerMgr.netProfile p = none
  · rw [if_pos hnew] at hpublished
    obtain ⟨rfl, hnone⟩ := hnew
    refine h.republish rfl rfl fun hidle profile hprofile => ?_
    have hstored : s.scheduler.stored p = none := (horder hnone).resolve_right (absurd hidle)
    rw [step, hpublished, Option.map_eq_some_iff] at hprofile
    obtain ⟨-, -, rfl⟩ := hprofile
    rw [hstored]
    rfl
  · rw [if_neg hnew] at hpublished
    exact h.keep rfl rfl hpublished

/-- New ports: every peer of the scheduler is invalidated. -/
theorem Follows.ports {s : ProbeService} {p : P2pId} (h : s.Follows p) (ports : List U16)
    (horder : s.InOrder (.setNatProbePorts ports)) :
    (s.step (.setNatProbePorts ports)).Follows p := by
  rcases setPorts_stored s.scheduler ports with ⟨-, hsame⟩ | ⟨hports, hkeys, hnone⟩
  · have hstep : s.step (.setNatProbePorts ports) = s := by simp only [step, hsame]; rfl
    rw [hstep]
    exact h
  · refine h.invalidated (s.scheduler.setPorts ports).2 rfl rfl
      (fun _ => ⟨horder hports p, hnone p⟩) fun hp => ?_
    rw [hkeys] at hp
    have hlookup : s.scheduler.peers.lookup p = none :=
      AList.lookup_eq_none.mpr fun hmem => hp (AList.mem_keys.mp hmem)
    have hstored : s.scheduler.stored p = none := by
      rw [NatProbeScheduler.stored, hlookup]
      rfl
    exact (hnone p).trans hstored.symm

/-- The peer of an authority that is gone is removed and invalidated. -/
theorem Follows.reconciled {s : ProbeService} {p : P2pId} (h : s.Follows p) (id : P2pId)
    (tunnelId : CmdTunnelId) (generation : U64)
    (horder : s.InOrder (.finishNatProbeAuthorityReconcile id tunnelId generation)) :
    (s.step (.finishNatProbeAuthorityReconcile id tunnelId generation)).Follows p := by
  by_cases hauth : s.scheduler.authorityRegistration id = some (tunnelId, generation)
  · have hsome : (s.scheduler.peers.lookup id).isSome = true := by
      rw [NatProbeScheduler.authorityRegistration, Option.map_eq_some_iff] at hauth
      obtain ⟨st, hst, -⟩ := hauth
      rw [hst]
      rfl
    have hstep : s.step (.finishNatProbeAuthorityReconcile id tunnelId generation) =
        { s with
          scheduler := (s.scheduler.removePeer id).1
          peerMgr := [id].foldl PeerManager.invalidateNetProfile s.peerMgr } := by
      simp only [step, NatProbeScheduler.removePeerIfAuthority, if_pos hauth,
        NatProbeScheduler.removePeer, if_pos hsome]
      rfl
    rw [hstep]
    have hstored := removePeer_stored s.scheduler id p
    refine h.invalidated [id] rfl rfl (fun hp => ?_) fun hp => ?_
    · obtain rfl := List.mem_singleton.mp hp
      rw [if_pos rfl] at hstored
      exact ⟨horder hauth, hstored⟩
    · rw [if_neg fun heq => hp (List.mem_singleton.mpr heq)] at hstored
      exact hstored
  · have hstep : s.step (.finishNatProbeAuthorityReconcile id tunnelId generation) = s := by
      simp only [step, NatProbeScheduler.removePeerIfAuthority, if_neg hauth]
      rfl
    rw [hstep]
    exact h

theorem follows_step (s : ProbeService) (task : ProbeTask) (h : ∀ p, s.Follows p)
    (horder : s.InOrder task) (p : P2pId) : (s.step task).Follows p := by
  cases task with
  | addOrUpdatePeer id device version mapPorts localEps => exact (h p).added _ _ _ _ _ horder
  | reportSn localId id tunnelId observed version result profile now =>
    cases observed with
    | none => exact (h p).keep (by simp [step, NatProbeScheduler.report]) rfl rfl
    | some observed =>
      obtain ⟨t, ht, htells⟩ := report_tells s.scheduler localId id tunnelId observed version
        result profile now
      refine ((h p).named localId fun hid => horder rfl hid p).tell htells ?_ rfl
      simp only [step, ht]
      rfl
  | observeNatProbeControl localId id tunnelId remote now =>
    exact ((h p).named localId fun hid => horder hid p).tell
      (observeControl_tells (s.scheduler.setSnPeerId localId) id tunnelId remote now) rfl rfl
  | applyNatProbeTransition i => exact (h p).apply i horder
  | setNatProbePorts ports => exact (h p).ports ports horder
  | finishNatProbeAuthorityReconcile id tunnelId generation =>
    exact (h p).reconciled id tunnelId generation horder
  | expireDue now =>
    refine (h p).invalidated (s.scheduler.expireDue now).2 rfl rfl (fun hp => ?_) fun hp => ?_
    · rcases expireDue_stored s.scheduler now p with ⟨-, hexp, hnone⟩ | ⟨hnot, -⟩
      · exact ⟨horder p hexp, hnone⟩
      · exact absurd hp hnot
    · rcases expireDue_stored s.scheduler now p with ⟨hmem, -, -⟩ | ⟨-, hsame⟩
      · exact absurd hmem hp
      · exact hsame
  | disconnect id =>
    have hstored := removePeer_stored s.scheduler id p
    by_cases hid : p = id
    · subst hid
      rw [if_pos rfl] at hstored
      exact (h p).drop horder rfl hstored rfl
    · rw [if_neg hid] at hstored
      exact (h p).keep rfl hstored rfl
  | removePeer id =>
    have hpublished := PeerManager.netProfile_removePeer s.peerMgr id p
    by_cases hid : p = id
    · rw [if_pos hid] at hpublished
      refine (h p).republish rfl rfl fun _ profile hprofile => ?_
      rw [step, hpublished] at hprofile
      cases hprofile
    · rw [if_neg hid] at hpublished
      exact (h p).keep rfl rfl hpublished

/-- In every run whose regions are in order, the profiles that are published are those that the
scheduler stores whenever no transition waits. -/
theorem published_follows_stored (sn : P2pId) (tasks : List ProbeTask)
    (horder : Along step InOrder (new sn) tasks)
    (hidle : (exec step (new sn) tasks).waiting = []) : (exec step (new sn) tasks).Published := by
  have hstart : ∀ p, (new sn).Follows p := by
    intro p profile hprofile
    cases hprofile
  have hend := exec_inv (I := fun s => ∀ p, s.Follows p) (fun s task h hC => follows_step s task h hC)
    hstart horder
  intro p
  refine (follows_idle ?_).mp (hend p)
  rw [hidle]
  rfl

/-! ## Runs -/

def addNine : ProbeTask := .addOrUpdatePeer [9] (some ⟨[9], .ok [9], []⟩) 0 [] []

def profileAt (observedAt : Timestamp) : NatProfile := ⟨1, .symmetricLike, observedAt, 90, none⟩

/-- A report of peer `[9]` with a profile of its own, up to the transition. -/
def reportNine (observedAt now : Timestamp) : ProbeTask :=
  .reportSn [1] [9] 1 (some ⟨.wan, .quic, .v4 ⟨1, 2, 3, 4⟩ 5⟩) (some 1) none
    (some (profileAt observedAt)) now

/-- One report. -/
def reported : List ProbeTask := [addNine, reportNine 5 10, .applyNatProbeTransition 0]

theorem published_follows_stored_reported :
    Along step InOrder (new [1]) reported ∧ (exec step (new [1]) reported).waiting = [] ∧
      (exec step (new [1]) reported).Published := by
  have horder : Along step InOrder (new [1]) reported := by
    refine ⟨fun _ => .inl rfl, fun _ hid => absurd rfl hid, ?_, trivial⟩
    intro w _ _
    rfl
  have hidle : (exec step (new [1]) reported).waiting = [] := by decide +kernel
  exact ⟨horder, hidle, published_follows_stored [1] reported horder hidle⟩

/-- Two reports of one peer, on two streams; the transition of the second is applied first. -/
def overtaken : List ProbeTask :=
  [addNine, reportNine 5 10, addNine, reportNine 8 11, .applyNatProbeTransition 1,
    .applyNatProbeTransition 0]

theorem overtaken_report :
    (exec step (new [1]) overtaken).waiting = [] ∧ ¬ (exec step (new [1]) overtaken).Published := by
  refine ⟨by decide +kernel, fun h => ?_⟩
  have hpublished : (exec step (new [1]) overtaken).peerMgr.netProfile [9] = some (profileAt 5) := by
    decide +kernel
  have hstored : (exec step (new [1]) overtaken).scheduler.stored [9] = some (profileAt 8) := by
    decide +kernel
  have heq := h [9] _ hpublished
  rw [hstored] at heq
  exact absurd heq (by decide)

end ProbeService

end BuckyP2p.Sn
