import BuckyP2p.Tunnel.Upgrades

/-!
# BuckyP2p.Tunnel.Storage — what a manager does with the tunnels that it stores

A tunnel that was registered stays among the tunnels of its peer until it is closed, or until it is
down and the manager looks at the tunnels of that peer (`prunesClosed` says that these were closed).
`KeepsStored` is what an operation does to the tunnels that are followed; there is one lemma for each
operation on the manager.
-/

namespace BuckyP2p.Tunnel

open Lib

namespace TunnelManager

def entriesOf (m : TunnelManager) (remoteId : P2pId) : List TunnelEntry :=
  (m.tunnels.lookup remoteId).getD []

/-- The tunnel is one of the tunnels of its peer. -/
def Stored (m : TunnelManager) (remoteId : P2pId) (handle : Nat) : Prop :=
  ∃ entry ∈ m.entriesOf remoteId, entry.tunnel.handle = handle

/-- The tunnel is stored or was closed. -/
def Safe (m : TunnelManager) (tunnel : TunnelRef) : Prop :=
  m.Stored tunnel.remoteId tunnel.handle ∨ tunnel.handle ∈ m.closed

instance (m : TunnelManager) (tunnel : TunnelRef) : Decidable (m.Safe tunnel) :=
  inferInstanceAs (Decidable ((∃ entry ∈ m.entriesOf tunnel.remoteId,
    entry.tunnel.handle = tunnel.handle) ∨ tunnel.handle ∈ m.closed))

/-- No tunnel of the peer among `handles` is down without having been closed. -/
def prunesClosed (m : TunnelManager) (handles : List Nat) (remoteId : P2pId) : Bool :=
  (m.entriesOf remoteId).all fun entry => entry.tunnel.handle ∉ handles ||
    m.isTunnelAvailable entry.tunnel || entry.tunnel.handle ∈ m.closed

section Entries

variable (m : TunnelManager)

theorem setEntries_entriesOf (remoteId r : P2pId) (entries : List TunnelEntry) :
    (m.setEntries remoteId entries).entriesOf r =
      if r = remoteId then entries else m.entriesOf r := by
  unfold setEntries entriesOf
  dsimp only
  by_cases hr : r = remoteId
  · subst hr
    rw [if_pos rfl]
    split_ifs with hempty
    · rw [AList.lookup_erase, List.isEmpty_iff.mp hempty]
      rfl
    · rw [AList.lookup_insert]
      rfl
  · rw [if_neg hr]
    split_ifs with hempty
    · rw [AList.lookup_erase_ne hr]
    · rw [AList.lookup_insert_ne hr]

theorem reconcile_tunnels (now : Nat) (remoteId : P2pId) (entries : Option (List TunnelEntry)) :
    (m.reconcileProxyUpgradeState now remoteId entries).1.tunnels = m.tunnels ∧
      (m.reconcileProxyUpgradeState now remoteId entries).1.closed = m.closed := by
  unfold reconcileProxyUpgradeState
  cases entries with
  | none => exact ⟨rfl, rfl⟩
  | some entries =>
    dsimp only
    split_ifs with hgone hnew
    · exact ⟨rfl, rfl⟩
    · exact ⟨rfl, rfl⟩
    · exact ⟨rfl, rfl⟩

theorem registerUpgrade_tunnels (now : Nat) (tunnel : TunnelRef) (entries : List TunnelEntry)
    (closing₂ closing₃ : List Nat) :
    (m.registerUpgrade now tunnel entries closing₂ closing₃).tunnels = m.tunnels ∧
      (m.registerUpgrade now tunnel entries closing₂ closing₃).closed = m.closed := by
  unfold registerUpgrade
  dsimp only
  split_ifs with hother hproxy
  · exact ⟨rfl, rfl⟩
  · exact ⟨rfl, rfl⟩
  · exact reconcile_tunnels ..

theorem closeAll_tunnels (tunnels : List TunnelRef) :
    (m.closeAll tunnels).tunnels = m.tunnels ∧
      ∀ handle, handle ∈ (m.closeAll tunnels).closed ↔
        handle ∈ m.closed ∨ handle ∈ tunnels.map TunnelRef.handle := by
  unfold closeAll
  induction tunnels generalizing m with
  | nil => simp
  | cons tunnel tunnels ih =>
    obtain ⟨htunnels, hclosed⟩ := ih (m.closeTunnel tunnel)
    refine ⟨htunnels, fun handle => ?_⟩
    rw [List.foldl_cons, hclosed]
    simp only [closeTunnel, List.mem_cons, List.map_cons]
    tauto

theorem publishEntry_tunnels (now : Nat) (tunnel : TunnelRef) (entries : List TunnelEntry) :
    (publishEntry now tunnel entries).map TunnelEntry.tunnel =
      entries.map TunnelEntry.tunnel := by
  induction entries with
  | nil => rfl
  | cons entry entries ih =>
    unfold publishEntry
    split_ifs with hcandidate
    · rfl
    · rw [List.map_cons, List.map_cons, ih]

end Entries

end TunnelManager

namespace TunnelManager

/-- A tunnel that was offered for registration is stored, or closed as a duplicate of another. -/
theorem registerTunnel_safe {m : TunnelManager} {tunnel : TunnelRef}
    (hdefault : isDefault tunnel.remoteId = false) (now : Nat)
    (closing₁ closing₂ closing₃ : List Nat) :
    (m.registerTunnel now tunnel closing₁ closing₂ closing₃).2.Safe tunnel := by
  unfold registerTunnel
  rw [hdefault, if_neg Bool.false_ne_true]
  dsimp only
  split
  · next entry hfind =>
    dsimp only
    split_ifs with hsame
    · refine .inl ⟨entry, ?_, hsame⟩
      unfold entriesOf
      rw [(reconcile_tunnels ..).1]
      show entry ∈ (m.setEntries tunnel.remoteId _).entriesOf tunnel.remoteId
      rw [setEntries_entriesOf, if_pos rfl]
      exact List.mem_of_find?_eq_some hfind
    · exact .inr (List.mem_cons_self ..)
  · refine .inl ⟨⟨tunnel, now, false⟩, ?_, rfl⟩
    unfold entriesOf
    rw [(registerUpgrade_tunnels ..).1]
    show _ ∈ (m.setEntries tunnel.remoteId _).entriesOf tunnel.remoteId
    rw [setEntries_entriesOf, if_pos rfl]
    exact List.mem_append_right _ (List.mem_singleton_self _)

theorem registerTunnel_ok {m : TunnelManager} {now : Nat} {tunnel tunnel' : TunnelRef}
    {closing₁ closing₂ closing₃ : List Nat}
    (h : (m.registerTunnel now tunnel closing₁ closing₂ closing₃).1 = .ok tunnel') :
    tunnel' = tunnel := by
  unfold registerTunnel at h
  split_ifs at h with hdefault
  · exact (Except.ok.inj h).symm
  · dsimp only at h
    split at h
    · cases h
    · exact (Except.ok.inj h).symm

theorem publishRegisteredTunnel_vacant {m : TunnelManager} {tunnel : TunnelRef}
    (h : m.entriesOf tunnel.remoteId = []) (now : Nat) :
    (m.publishRegisteredTunnel now tunnel).1 = .error publishUnregistered := by
  have hentries : (m.tunnels.lookup tunnel.remoteId).getD [] = [] := h
  unfold publishRegisteredTunnel
  rw [hentries]
  rfl

end TunnelManager

/-! ## What operations do to the tunnels of the manager -/

/-- The tunnels among `handles` that were stored are stored or closed. -/
structure KeepsStored (handles : List Nat) (m m' : TunnelManager) : Prop where
  stored : ∀ remoteId, ∀ handle ∈ handles, m.Stored remoteId handle →
    m'.Stored remoteId handle ∨ handle ∈ m'.closed
  closed : ∀ handle ∈ m.closed, handle ∈ m'.closed
  /-- Nothing is stored for the default id. -/
  vacant : ∀ remoteId, isDefault remoteId = true → m.entriesOf remoteId = [] →
    m'.entriesOf remoteId = []

namespace KeepsStored

variable {handles : List Nat} {m m' m'' : TunnelManager}

theorem of_eq (htunnels : m'.tunnels = m.tunnels) (hclosed : m'.closed = m.closed) :
    KeepsStored handles m m' := by
  have hentries : ∀ remoteId, m'.entriesOf remoteId = m.entriesOf remoteId := by
    intro remoteId
    unfold TunnelManager.entriesOf
    rw [htunnels]
  refine ⟨fun remoteId handle _ hstored => .inl ?_, fun handle h => ?_, fun remoteId _ h => ?_⟩
  · unfold TunnelManager.Stored
    rw [hentries]
    exact hstored
  · rw [hclosed]
    exact h
  · rw [hentries]
    exact h

theorem trans (h : KeepsStored handles m m') (h' : KeepsStored handles m' m'') : KeepsStored handles m m'' where
  stored remoteId handle hmem hstored := by
    rcases h.stored remoteId handle hmem hstored with hkept | hclosed
    · exact h'.stored remoteId handle hmem hkept
    · exact .inr (h'.closed handle hclosed)
  closed handle hclosed := h'.closed handle (h.closed handle hclosed)
  vacant remoteId hdefault hnone := h'.vacant remoteId hdefault (h.vacant remoteId hdefault hnone)

theorem reconcile (now : Nat) (remoteId : P2pId) (entries : Option (List TunnelEntry)) :
    KeepsStored handles m (m.reconcileProxyUpgradeState now remoteId entries).1 :=
  of_eq (m.reconcile_tunnels now remoteId entries).1 (m.reconcile_tunnels now remoteId entries).2

theorem goDown (tunnels : List Nat) : KeepsStored handles m (m.goDown tunnels) := of_eq rfl rfl

/-- The tunnels of one peer are replaced; those that go were closed. -/
theorem setEntries {remoteId : P2pId} {entries : List TunnelEntry}
    (hgone : ∀ entry ∈ m.entriesOf remoteId, entry.tunnel.handle ∈ handles →
      (∃ entry' ∈ entries, entry'.tunnel.handle = entry.tunnel.handle) ∨
        entry.tunnel.handle ∈ m.closed)
    (hvacant : isDefault remoteId = true → m.entriesOf remoteId = [] → entries = []) :
    KeepsStored handles m (m.setEntries remoteId entries) where
  stored r handle hmem hstored := by
    by_cases hr : r = remoteId
    · subst hr
      obtain ⟨entry, hentry, rfl⟩ := hstored
      rcases hgone entry hentry hmem with ⟨entry', hentry', hsame⟩ | hclosed
      · refine .inl ⟨entry', ?_, hsame⟩
        rw [TunnelManager.setEntries_entriesOf, if_pos rfl]
        exact hentry'
      · exact .inr hclosed
    · refine .inl ?_
      unfold TunnelManager.Stored
      rw [TunnelManager.setEntries_entriesOf, if_neg hr]
      exact hstored
  closed handle hclosed := hclosed
  vacant r hdefault hnone := by
    rw [TunnelManager.setEntries_entriesOf]
    split_ifs with hr
    · subst hr
      exact hvacant hdefault hnone
    · exact hnone

/-- The tunnels of a peer that are down are forgotten. -/
theorem prune {remoteId : P2pId} (h : m.prunesClosed handles remoteId = true) :
    KeepsStored handles m (m.setEntries remoteId (m.available (m.entriesOf remoteId))) := by
  refine setEntries (fun entry hentry hmem => ?_) fun _ hnone => ?_
  · have hpruned := List.all_eq_true.mp h entry hentry
    simp only [hmem, not_true_eq_false, decide_false, Bool.false_or, Bool.or_eq_true,
      decide_eq_true_eq] at hpruned
    rcases hpruned with hup | hclosed
    · exact .inl ⟨entry, List.mem_filter.mpr ⟨hentry, hup⟩, rfl⟩
    · exact .inr hclosed
  · rw [hnone]
    rfl

theorem closeTunnel (tunnel : TunnelRef) : KeepsStored handles m (m.closeTunnel tunnel) :=
  ⟨fun _ _ _ hstored => .inl hstored, fun _ hclosed => List.mem_cons_of_mem _ hclosed,
    fun _ _ hnone => hnone⟩

theorem closeAll (tunnels : List TunnelRef) : KeepsStored handles m (m.closeAll tunnels) := by
  obtain ⟨htunnels, hclosed⟩ := m.closeAll_tunnels tunnels
  refine ⟨fun remoteId handle _ hstored => .inl ?_, fun handle h => (hclosed handle).mpr (.inl h),
    fun remoteId _ hnone => ?_⟩
  · unfold TunnelManager.Stored TunnelManager.entriesOf
    rw [htunnels]
    exact hstored
  · unfold TunnelManager.entriesOf
    rw [htunnels]
    exact hnone

/-- The entries of a peer are pruned, tunnels go down, and its upgrade state is reconciled. -/
theorem pruneAndReconcile {remoteId : P2pId} (h : m.prunesClosed handles remoteId = true)
    (now : Nat) (closing : List Nat) (entries : Option (List TunnelEntry)) :
    KeepsStored handles m (((m.setEntries remoteId (m.available (m.entriesOf remoteId))).goDown
      closing).reconcileProxyUpgradeState now remoteId entries).1 :=
  (prune h).trans ((goDown closing).trans (reconcile now remoteId entries))

theorem pruneFound {remoteId : P2pId} (h : m.prunesClosed handles remoteId = true) (now : Nat)
    (closing : List Nat) {entries : List TunnelEntry}
    (hentries : m.tunnels.lookup remoteId = some entries) (left : Option (List TunnelEntry)) :
    KeepsStored handles m (((m.setEntries remoteId (m.available entries)).goDown
      closing).reconcileProxyUpgradeState now remoteId left).1 := by
  have hof : m.entriesOf remoteId = entries := by
    unfold TunnelManager.entriesOf
    rw [hentries]
    rfl
  have hprune := pruneAndReconcile h now closing left
  rw [hof] at hprune
  exact hprune

theorem getTunnelWithFilter {remoteId : P2pId} (h : m.prunesClosed handles remoteId = true)
    (now : Nat) (filter : TunnelEntry → Bool) (fallback : Bool) (closing : List Nat) :
    KeepsStored handles m (m.getTunnelWithFilter now remoteId filter fallback closing).2 := by
  unfold TunnelManager.getTunnelWithFilter
  dsimp only
  cases hentries : m.tunnels.lookup remoteId with
  | none => exact (goDown closing).trans (reconcile _ _ _)
  | some entries => exact pruneFound h now closing hentries _

theorem hasAvailableTunnelId {remoteId : P2pId} (h : m.prunesClosed handles remoteId = true)
    (now : Nat) (tunnelId : TunnelId) (closing : List Nat) :
    KeepsStored handles m (m.hasAvailableTunnelId now remoteId tunnelId closing).2 := by
  unfold TunnelManager.hasAvailableTunnelId
  dsimp only
  cases hentries : m.tunnels.lookup remoteId with
  | none => exact (goDown closing).trans (reconcile _ _ _)
  | some entries => exact pruneFound h now closing hentries _

theorem registerTunnel {tunnel : TunnelRef} (h : m.prunesClosed handles tunnel.remoteId = true)
    (now : Nat) (closing₁ closing₂ closing₃ : List Nat) :
    KeepsStored handles m (m.registerTunnel now tunnel closing₁ closing₂ closing₃).2 := by
  unfold TunnelManager.registerTunnel
  split_ifs with hdefault
  · exact of_eq rfl rfl
  · dsimp only
    split
    · dsimp only
      split_ifs with hsame
      · exact pruneAndReconcile h now closing₁ _
      · exact (pruneAndReconcile h now closing₁ _).trans (closeTunnel tunnel)
    · have hstored : KeepsStored handles m (m.setEntries tunnel.remoteId
          (m.available (m.entriesOf tunnel.remoteId) ++ [⟨tunnel, now, false⟩])) := by
        refine setEntries (fun entry hentry hmem => ?_) fun hdefault' _ => absurd hdefault' hdefault
        rcases (prune h).stored tunnel.remoteId entry.tunnel.handle hmem ⟨entry, hentry, rfl⟩ with
          ⟨entry', hentry', hsame⟩ | hclosed
        · rw [TunnelManager.setEntries_entriesOf, if_pos rfl] at hentry'
          exact .inl ⟨entry', List.mem_append_left _ hentry', hsame⟩
        · exact .inr hclosed
      have hupgrade := TunnelManager.registerUpgrade_tunnels
        ((m.setEntries tunnel.remoteId (m.available (m.entriesOf tunnel.remoteId) ++
          [⟨tunnel, now, false⟩])).goDown closing₁) now tunnel
        (m.available (m.entriesOf tunnel.remoteId) ++ [⟨tunnel, now, false⟩]) closing₂ closing₃
      exact hstored.trans (of_eq hupgrade.1 hupgrade.2)

theorem publishRegisteredTunnel (now : Nat) (tunnel : TunnelRef) :
    KeepsStored handles m (m.publishRegisteredTunnel now tunnel).2 := by
  unfold TunnelManager.publishRegisteredTunnel
  dsimp only
  split
  · split_ifs with hpublished
    · exact of_eq rfl rfl
    · refine setEntries (fun entry hentry _ => .inl ?_) fun _ hnone => ?_
      · have hmem : entry.tunnel ∈
            (TunnelManager.publishEntry now tunnel (m.entriesOf tunnel.remoteId)).map
              TunnelEntry.tunnel := by
          rw [TunnelManager.publishEntry_tunnels]
          exact List.mem_map_of_mem hentry
        obtain ⟨entry', hentry', hsame⟩ := List.mem_map.mp hmem
        exact ⟨entry', hentry', by rw [hsame]⟩
      · show TunnelManager.publishEntry now tunnel (m.entriesOf tunnel.remoteId) = []
        rw [hnone]
        rfl
  · exact of_eq rfl rfl

/-- The tunnels of one peer are replaced, and those that go are closed. -/
theorem replaceAndClose {remoteId : P2pId} {entries : List TunnelEntry} {tunnels : List TunnelRef}
    (htunnels : m'.tunnels = (m.setEntries remoteId entries).tunnels)
    (hclosed : ∀ handle ∈ m.closed, handle ∈ m'.closed)
    (hgone : ∀ entry ∈ m.entriesOf remoteId, (∃ entry' ∈ entries,
      entry'.tunnel.handle = entry.tunnel.handle) ∨ entry.tunnel ∈ tunnels)
    (hvacant : m.entriesOf remoteId = [] → entries = []) :
    KeepsStored handles m (m'.closeAll tunnels) := by
  obtain ⟨hsame, hall⟩ := m'.closeAll_tunnels tunnels
  have hentries : ∀ r, (m'.closeAll tunnels).entriesOf r =
      if r = remoteId then entries else m.entriesOf r := by
    intro r
    rw [← TunnelManager.setEntries_entriesOf]
    unfold TunnelManager.entriesOf
    rw [hsame, htunnels]
  refine ⟨fun r handle _ hstored => ?_, fun handle h => (hall handle).mpr (.inl (hclosed handle h)),
    fun r _ hnone => ?_⟩
  · unfold TunnelManager.Stored
    rw [hentries]
    split_ifs with hr
    · subst hr
      obtain ⟨entry, hentry, rfl⟩ := hstored
      rcases hgone entry hentry with hkept | hmem
      · exact .inl hkept
      · exact .inr ((hall _).mpr (.inr (List.mem_map_of_mem hmem)))
    · exact .inl hstored
  · rw [hentries]
    split_ifs with hr
    · exact hvacant (hr ▸ hnone)
    · exact hnone

theorem finalizeProxyUpgradeSuccess (now : Nat) (remoteId : P2pId) (tunnel : TunnelRef)
    (closing : List Nat) :
    KeepsStored handles m (m.finalizeProxyUpgradeSuccess now remoteId tunnel closing).2 := by
  unfold TunnelManager.finalizeProxyUpgradeSuccess
  dsimp only
  split_ifs with hproxy hlive
  · exact of_eq rfl rfl
  · refine replaceAndClose rfl (fun _ h => h) (fun entry hentry => ?_) fun hnone => ?_
    · cases hform : TunnelManager.isProxy entry with
      | true =>
        exact .inr (List.mem_map_of_mem (List.mem_filter.mpr ⟨hentry, hform⟩))
      | false =>
        exact .inl ⟨entry, List.mem_filter.mpr ⟨hentry, by rw [hform]; rfl⟩, rfl⟩
    · show (m.entriesOf remoteId).filter _ = []
      rw [hnone]
      rfl
  · exact (goDown closing).trans (reconcile _ _ _)

theorem cleanupRemote_entriesOf (now : Nat) (idle : List Nat) (closing : P2pId → List Nat)
    (r : TunnelManager × List TunnelRef) (e : Sigma fun _ : P2pId => List TunnelEntry)
    (remoteId : P2pId) :
    (TunnelManager.cleanupRemote now idle closing r e).1.entriesOf remoteId =
      if remoteId = e.1 then
        (r.1.available e.2).filter fun entry => entry.tunnel.handle ∉ idle
      else r.1.entriesOf remoteId := by
  rw [← TunnelManager.setEntries_entriesOf]
  unfold TunnelManager.cleanupRemote TunnelManager.entriesOf
  dsimp only
  rw [(TunnelManager.reconcile_tunnels _ _ _ _).1]
  rfl

/-- What the loop over the peers does: a tunnel that leaves the table is among those to be closed. -/
theorem cleanup_loop (now : Nat) (idle : List Nat) (closing : P2pId → List Nat)
    (entries : List (Sigma fun _ : P2pId => List TunnelEntry)) (hkeys : entries.NodupKeys)
    (r : TunnelManager × List TunnelRef) (hof : ∀ e ∈ entries, r.1.entriesOf e.1 = e.2) :
    let after := entries.foldl (TunnelManager.cleanupRemote now idle closing) r
    after.1.closed = r.1.closed ∧
    (∀ remoteId handle, r.1.Stored remoteId handle ∨ handle ∈ r.2.map TunnelRef.handle →
      after.1.Stored remoteId handle ∨ handle ∈ after.2.map TunnelRef.handle) ∧
    ∀ remoteId, r.1.entriesOf remoteId = [] → after.1.entriesOf remoteId = [] := by
  induction entries generalizing r with
  | nil => exact ⟨rfl, fun _ _ h => h, fun _ h => h⟩
  | cons e entries ih =>
    rw [List.nodupKeys_cons] at hkeys
    obtain ⟨hfresh, hkeys⟩ := hkeys
    have hofE := hof e (List.mem_cons_self ..)
    obtain ⟨hclosed, hstored, hvacant⟩ := ih hkeys
      (TunnelManager.cleanupRemote now idle closing r e) (fun e' he' => by
        have hne : e'.1 ≠ e.1 := fun heq => hfresh (heq ▸ List.mem_map_of_mem he')
        rw [cleanupRemote_entriesOf, if_neg hne]
        exact hof e' (List.mem_cons_of_mem _ he'))
    refine ⟨hclosed.trans (TunnelManager.reconcile_tunnels ..).2, fun remoteId handle h => ?_,
      fun remoteId hnone => ?_⟩
    · refine hstored remoteId handle ?_
      rcases h with ⟨entry, hentry, rfl⟩ | hremoved
      · by_cases hr : remoteId = e.1
        · subst hr
          rw [hofE] at hentry
          by_cases hkept : r.1.isTunnelAvailable entry.tunnel = true ∧ entry.tunnel.handle ∉ idle
          · refine .inl ⟨entry, ?_, rfl⟩
            rw [cleanupRemote_entriesOf, if_pos rfl]
            refine List.mem_filter.mpr ⟨List.mem_filter.mpr ⟨hentry, hkept.1⟩, ?_⟩
            simpa using hkept.2
          · refine .inr (List.mem_map_of_mem (List.mem_append_right _ (List.mem_map_of_mem ?_)))
            refine List.mem_filter.mpr ⟨hentry, ?_⟩
            rw [not_and_or, Bool.not_eq_true, not_not] at hkept
            simpa using hkept
        · refine .inl ⟨entry, ?_, rfl⟩
          rw [cleanupRemote_entriesOf, if_neg hr]
          exact hentry
      · refine .inr ?_
        unfold TunnelManager.cleanupRemote
        rw [List.map_append]
        exact List.mem_append_left _ hremoved
    · refine hvacant remoteId ?_
      rw [cleanupRemote_entriesOf]
      split_ifs with hr
      · rw [← hofE, ← hr, hnone]
        rfl
      · exact hnone

theorem cleanupClosedTunnels (now : Nat) (idle : List Nat) (closing : P2pId → List Nat) :
    KeepsStored handles m (m.cleanupClosedTunnels now idle closing) := by
  obtain ⟨hclosed, hstored, hvacant⟩ := cleanup_loop now idle closing m.tunnels.entries
    m.tunnels.nodupKeys (m, []) (fun e he => by
      unfold TunnelManager.entriesOf
      rw [Table.mem_entries_iff.mp he]
      rfl)
  unfold TunnelManager.cleanupClosedTunnels
  obtain ⟨htunnels, hall⟩ := TunnelManager.closeAll_tunnels
    (m.tunnels.entries.foldl (TunnelManager.cleanupRemote now idle closing) (m, [])).1
    (m.tunnels.entries.foldl (TunnelManager.cleanupRemote now idle closing) (m, [])).2
  refine ⟨fun remoteId handle _ h => ?_, fun handle h => (hall handle).mpr (.inl ?_),
    fun remoteId _ hnone => ?_⟩
  · rcases hstored remoteId handle (.inl h) with hkept | hremoved
    · refine .inl ?_
      unfold TunnelManager.Stored TunnelManager.entriesOf
      rw [htunnels]
      exact hkept
    · exact .inr ((hall handle).mpr (.inr hremoved))
  · rw [hclosed]
    exact h
  · unfold TunnelManager.entriesOf
    rw [htunnels]
    exact hvacant remoteId hnone

end KeepsStored

namespace UpgradeSystem

/-- The operation makes the manager forget no tunnel among `handles` that is down and was not
closed. -/
def prunesClosed (s : UpgradeSystem) (handles : List Nat) : UpgradeOp → Bool
  | .register _ tunnel _ _ _ => s.manager.prunesClosed handles tunnel.remoteId
  | .getTunnel _ remoteId _ => s.manager.prunesClosed handles remoteId
  | .getNonProxyTunnel _ remoteId _ => s.manager.prunesClosed handles remoteId
  | .hasAvailableTunnelId _ remoteId _ _ => s.manager.prunesClosed handles remoteId
  | .attempt attempt (.look _ _) => s.manager.prunesClosed handles attempt.remoteId
  | _ => true

theorem keeps_attemptStep {s : UpgradeSystem} {handles : List Nat} {attempt : Attempt}
    {step : AttemptStep} (h : s.prunesClosed handles (.attempt attempt step) = true) :
    KeepsStored handles s.manager (s.attemptStep attempt step).manager := by
  unfold attemptStep
  split
  · split_ifs with hcurrent
    · exact .of_eq rfl rfl
    · exact .of_eq rfl rfl
  · dsimp only
    split
    · exact KeepsStored.getTunnelWithFilter h _ _ _ _
    · exact KeepsStored.getTunnelWithFilter h _ _ _ _
  · exact .of_eq rfl rfl
  · unfold TunnelManager.onProxyUpgradeFailedGeneration
    split
    · exact .of_eq rfl rfl
    · split_ifs with hother
      · exact .of_eq rfl rfl
      · exact .of_eq rfl rfl
  · exact KeepsStored.finalizeProxyUpgradeSuccess _ _ _ _
  · exact .of_eq rfl rfl

theorem keeps_step {s : UpgradeSystem} {handles : List Nat} {op : UpgradeOp}
    (h : s.prunesClosed handles op = true) : KeepsStored handles s.manager (s.step op).manager := by
  cases op with
  | register now tunnel closing₁ closing₂ closing₃ => exact KeepsStored.registerTunnel h _ _ _ _
  | publish now tunnel => exact KeepsStored.publishRegisteredTunnel _ _
  | getTunnel now remoteId closing => exact KeepsStored.getTunnelWithFilter h _ _ _ _
  | getNonProxyTunnel now remoteId closing => exact KeepsStored.getTunnelWithFilter h _ _ _ _
  | hasAvailableTunnelId now remoteId tunnelId closing => exact KeepsStored.hasAvailableTunnelId h _ _ _
  | cleanup now idle closing => exact KeepsStored.cleanupClosedTunnels _ _ _
  | goDown tunnels => exact .of_eq rfl rfl
  | comeUp tunnels => exact .of_eq rfl rfl
  | use now handle => exact .of_eq rfl rfl
  | process now => exact .of_eq rfl rfl
  | attempt attempt step =>
    unfold UpgradeSystem.step
    dsimp only
    split_ifs with hmem
    · exact keeps_attemptStep h
    · exact .of_eq rfl rfl

end UpgradeSystem

end BuckyP2p.Tunnel
