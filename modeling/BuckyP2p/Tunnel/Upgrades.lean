import BuckyP2p.Lib.Runs
import BuckyP2p.Tunnel.Manager

/-!
# BuckyP2p.Tunnel.Upgrades — attempts to replace a proxy by another tunnel

`process_proxy_upgrade_attempts` marks the peers whose upgrade is due and spawns an attempt for each.
An attempt (`attempt_proxy_upgrade_generation`) runs beside everything else; what it does on the
manager between two awaits is one step.  The mark is taken back when the attempt fails.

An attempt that returns a tunnel which is no longer live takes the mark back only through what
`reconcile_proxy_upgrade_state` does, and that keeps the state of a peer that has proxies
(`Rejects`).
-/

namespace BuckyP2p.Tunnel

open Lib

/-- Where an attempt is. -/
inductive AttemptPhase
  /-- Spawned. -/
  | begins
  /-- In `try_upgrade_proxy_tunnel`, before the look at the tunnels there are. -/
  | looks
  /-- A direct or a reverse tunnel is being opened. -/
  | opening
  /-- `try_upgrade_proxy_tunnel` has returned a tunnel. -/
  | opened (tunnel : TunnelRef)
  deriving DecidableEq, Repr

/-- What an attempt does between two awaits. -/
inductive AttemptStep
  /-- Its generation is compared with that of the peer. -/
  | check
  | look (now : Nat) (closing : List Nat)
  /-- The tunnel was opened, or not. -/
  | result (now : Nat) (result : P2pResult TunnelRef)
  | finalize (now : Nat) (closing : List Nat)

structure Attempt where
  remoteId : P2pId
  generation : Nat
  phase : AttemptPhase
  deriving DecidableEq, Repr

inductive UpgradeOp
  | register (now : Nat) (tunnel : TunnelRef) (closing₁ closing₂ closing₃ : List Nat)
  | publish (now : Nat) (tunnel : TunnelRef)
  | getTunnel (now : Nat) (remoteId : P2pId) (closing : List Nat)
  | getNonProxyTunnel (now : Nat) (remoteId : P2pId) (closing : List Nat)
  | hasAvailableTunnelId (now : Nat) (remoteId : P2pId) (tunnelId : TunnelId) (closing : List Nat)
  | cleanup (now : Nat) (idle : List Nat) (closing : P2pId → List Nat)
  | goDown (tunnels : List Nat)
  | comeUp (tunnels : List Nat)
  | use (now handle : Nat)
  /-- `process_proxy_upgrade_attempts`. -/
  | process (now : Nat)
  | attempt (attempt : Attempt) (step : AttemptStep)

structure UpgradeSystem where
  manager : TunnelManager
  attempts : List Attempt

namespace UpgradeSystem

def new (proxyUpgradeInitialInterval : Nat) : UpgradeSystem :=
  ⟨.new proxyUpgradeInitialInterval, []⟩

/-- The attempt goes on in another phase. -/
def goesOn (s : UpgradeSystem) (attempt : Attempt) (phase : AttemptPhase) : UpgradeSystem :=
  { s with attempts := { attempt with phase := phase } :: s.attempts.erase attempt }

def ends (s : UpgradeSystem) (attempt : Attempt) : UpgradeSystem :=
  { s with attempts := s.attempts.erase attempt }

def withManager (s : UpgradeSystem) (manager : TunnelManager) : UpgradeSystem :=
  { s with manager := manager }

/-- The upgrade state of the peer is the one for which the attempt was spawned. -/
def isCurrent (s : UpgradeSystem) (attempt : Attempt) : Bool :=
  (s.manager.proxyUpgradeStates.lookup attempt.remoteId).any
    fun upgrade => upgrade.generation = attempt.generation

/-- `attempt_proxy_upgrade_generation`.  Whatever opens a tunnel registers and publishes it with
operations of its own. -/
def attemptStep (s : UpgradeSystem) (attempt : Attempt) (step : AttemptStep) : UpgradeSystem :=
  match attempt.phase, step with
  | .begins, .check => if s.isCurrent attempt then s.goesOn attempt .looks else s.ends attempt
  | .looks, .look now closing =>
    let r := s.manager.getNonProxyTunnel now attempt.remoteId closing
    match r.1 with
    | some tunnel => (s.withManager r.2).goesOn attempt (.opened tunnel)
    | none => (s.withManager r.2).goesOn attempt .opening
  | .opening, .result _ (.ok tunnel) => s.goesOn attempt (.opened tunnel)
  | .opening, .result now (.error _) =>
    (s.withManager (s.manager.onProxyUpgradeFailedGeneration now attempt.remoteId
      attempt.generation).2).ends attempt
  | .opened tunnel, .finalize now closing =>
    (s.withManager (s.manager.finalizeProxyUpgradeSuccess now attempt.remoteId tunnel
      closing).2).ends attempt
  | _, _ => s

def step (s : UpgradeSystem) : UpgradeOp → UpgradeSystem
  | .register now tunnel closing₁ closing₂ closing₃ =>
    s.withManager (s.manager.registerTunnel now tunnel closing₁ closing₂ closing₃).2
  | .publish now tunnel => s.withManager (s.manager.publishRegisteredTunnel now tunnel).2
  | .getTunnel now remoteId closing => s.withManager (s.manager.getTunnel now remoteId closing).2
  | .getNonProxyTunnel now remoteId closing =>
    s.withManager (s.manager.getNonProxyTunnel now remoteId closing).2
  | .hasAvailableTunnelId now remoteId tunnelId closing =>
    s.withManager (s.manager.hasAvailableTunnelId now remoteId tunnelId closing).2
  | .cleanup now idle closing => s.withManager (s.manager.cleanupClosedTunnels now idle closing)
  | .goDown tunnels => s.withManager (s.manager.goDown tunnels)
  | .comeUp tunnels => s.withManager (s.manager.comeUp tunnels)
  | .use now handle =>
    s.withManager { s.manager with activity := s.manager.activity.insert handle now }
  | .process now =>
    let r := s.manager.collectDueProxyUpgrades now
    { manager := r.1, attempts := r.2.map (fun due => ⟨due.1, due.2, .begins⟩) ++ s.attempts }
  | .attempt attempt step => if attempt ∈ s.attempts then s.attemptStep attempt step else s

end UpgradeSystem

/-! ## Marks -/

/-- Every upgrade that is in progress was so before. -/
def NoNewMarks (m m' : TunnelManager) : Prop :=
  ∀ remoteId upgrade, m'.proxyUpgradeStates.lookup remoteId = some upgrade →
    upgrade.inProgress = true → m.proxyUpgradeStates.lookup remoteId = some upgrade

namespace NoNewMarks

variable {m m' m'' : TunnelManager}

theorem of_eq (h : m'.proxyUpgradeStates = m.proxyUpgradeStates) : NoNewMarks m m' := by
  intro remoteId upgrade hupgrade _
  rw [← h]
  exact hupgrade

theorem trans (h : NoNewMarks m m') (h' : NoNewMarks m' m'') : NoNewMarks m m'' := by
  intro remoteId upgrade hupgrade hmarked
  exact h remoteId upgrade (h' remoteId upgrade hupgrade hmarked) hmarked

theorem removeProxyUpgrade (remoteId : P2pId) : NoNewMarks m (m.removeProxyUpgrade remoteId) := by
  intro r upgrade hupgrade _
  unfold TunnelManager.removeProxyUpgrade at hupgrade
  dsimp only at hupgrade
  exact (Table.lookup_erase_some.mp hupgrade).2

theorem closeTunnel (tunnel : TunnelRef) : NoNewMarks m (m.closeTunnel tunnel) := of_eq rfl

/-- A value that is not in progress is put in. -/
theorem insert {remoteId : P2pId} {upgrade : ProxyUpgradeState} (hidle : upgrade.inProgress = false)
    (h : m'.proxyUpgradeStates = m.proxyUpgradeStates.insert remoteId upgrade) :
    NoNewMarks m m' := by
  intro r upgrade' hupgrade hmarked
  rw [h] at hupgrade
  rcases Table.lookup_insert_some.mp hupgrade with ⟨-, rfl⟩ | ⟨-, hold⟩
  · rw [hidle] at hmarked
    cases hmarked
  · exact hold

theorem reconcile (now : Nat) (remoteId : P2pId) (entries : Option (List TunnelEntry)) :
    NoNewMarks m (m.reconcileProxyUpgradeState now remoteId entries).1 := by
  unfold TunnelManager.reconcileProxyUpgradeState
  cases entries with
  | none => exact removeProxyUpgrade remoteId
  | some entries =>
    dsimp only
    split_ifs with hgone hnew
    · exact removeProxyUpgrade remoteId
    · exact insert rfl rfl
    · exact of_eq rfl

theorem getTunnelWithFilter (now : Nat) (remoteId : P2pId) (filter : TunnelEntry → Bool)
    (fallback : Bool) (closing : List Nat) :
    NoNewMarks m (m.getTunnelWithFilter now remoteId filter fallback closing).2 := by
  unfold TunnelManager.getTunnelWithFilter
  dsimp only
  refine trans ?_ (reconcile _ _ _)
  cases m.tunnels.lookup remoteId with
  | none => exact of_eq rfl
  | some entries => exact of_eq rfl

theorem hasAvailableTunnelId (now : Nat) (remoteId : P2pId) (tunnelId : TunnelId)
    (closing : List Nat) :
    NoNewMarks m (m.hasAvailableTunnelId now remoteId tunnelId closing).2 := by
  unfold TunnelManager.hasAvailableTunnelId
  dsimp only
  refine trans ?_ (reconcile _ _ _)
  cases m.tunnels.lookup remoteId with
  | none => exact of_eq rfl
  | some entries => exact of_eq rfl

theorem registerUpgrade (now : Nat) (tunnel : TunnelRef) (entries : List TunnelEntry)
    (closing₂ closing₃ : List Nat) :
    NoNewMarks m (m.registerUpgrade now tunnel entries closing₂ closing₃) := by
  unfold TunnelManager.registerUpgrade
  dsimp only
  split_ifs with hother hproxy
  · exact removeProxyUpgrade _
  · exact insert rfl rfl
  · exact (of_eq rfl).trans (reconcile _ _ _)

theorem registerTunnel (now : Nat) (tunnel : TunnelRef) (closing₁ closing₂ closing₃ : List Nat) :
    NoNewMarks m (m.registerTunnel now tunnel closing₁ closing₂ closing₃).2 := by
  unfold TunnelManager.registerTunnel
  split_ifs with hdefault
  · exact of_eq rfl
  · dsimp only
    split
    · dsimp only
      split_ifs with hsame
      · exact (of_eq rfl).trans (reconcile _ _ _)
      · refine trans ?_ (closeTunnel tunnel)
        exact (of_eq rfl).trans (reconcile _ _ _)
    · exact (of_eq rfl).trans (registerUpgrade _ _ _ _ _)

theorem publishRegisteredTunnel (now : Nat) (tunnel : TunnelRef) :
    NoNewMarks m (m.publishRegisteredTunnel now tunnel).2 := by
  unfold TunnelManager.publishRegisteredTunnel
  dsimp only
  split
  · split_ifs with hpublished
    · exact of_eq rfl
    · exact of_eq rfl
  · exact of_eq rfl

theorem closeAll (tunnels : List TunnelRef) : NoNewMarks m (m.closeAll tunnels) := by
  unfold TunnelManager.closeAll
  induction tunnels generalizing m with
  | nil => exact of_eq rfl
  | cons tunnel tunnels ih => exact (closeTunnel tunnel).trans ih

theorem cleanupClosedTunnels (now : Nat) (idle : List Nat) (closing : P2pId → List Nat) :
    NoNewMarks m (m.cleanupClosedTunnels now idle closing) := by
  have hloop : ∀ (entries : List (Sigma fun _ : P2pId => List TunnelEntry))
      (r : TunnelManager × List TunnelRef),
      NoNewMarks r.1 (entries.foldl (TunnelManager.cleanupRemote now idle closing) r).1 := by
    intro entries
    induction entries with
    | nil => exact fun r => of_eq rfl
    | cons e entries ih =>
      intro r
      have hone : NoNewMarks r.1 (TunnelManager.cleanupRemote now idle closing r e).1 :=
        (of_eq rfl).trans (reconcile _ _ _)
      exact hone.trans (ih _)
  exact (hloop m.tunnels.entries (m, [])).trans (closeAll _)

theorem finalizeProxyUpgradeSuccess (now : Nat) (remoteId : P2pId) (tunnel : TunnelRef)
    (closing : List Nat) :
    NoNewMarks m (m.finalizeProxyUpgradeSuccess now remoteId tunnel closing).2 := by
  unfold TunnelManager.finalizeProxyUpgradeSuccess
  dsimp only
  split_ifs with hproxy hlive
  · exact of_eq rfl
  · exact (of_eq rfl).trans ((removeProxyUpgrade remoteId).trans (closeAll _))
  · exact (of_eq rfl).trans (reconcile _ _ _)

end NoNewMarks

/-! ## Runs -/

namespace TunnelManager

/-- The peer has tunnels that are available, and they are proxies. -/
def hasOnlyProxies (m : TunnelManager) (remoteId : P2pId) : Bool :=
  let available := m.available ((m.tunnels.lookup remoteId).getD [])
  !available.isEmpty && available.all isProxy

/-- A tunnel with which an upgrade is over: one that is live, or one that no longer is while the
peer has no tunnel left or has another that is not a proxy. -/
def isFinal (m : TunnelManager) (remoteId : P2pId) (tunnel : TunnelRef) (closing : List Nat) :
    Bool :=
  tunnel.form ≠ .proxy &&
    (m.returnedIsLive remoteId tunnel || !(m.goDown closing).hasOnlyProxies remoteId)

variable {m : TunnelManager} {remoteId : P2pId}

theorem removeProxyUpgrade_lookup :
    (m.removeProxyUpgrade remoteId).proxyUpgradeStates.lookup remoteId = none :=
  AList.lookup_erase _ _

theorem closeAll_states (tunnels : List TunnelRef) :
    (m.closeAll tunnels).proxyUpgradeStates = m.proxyUpgradeStates := by
  unfold closeAll
  induction tunnels generalizing m with
  | nil => rfl
  | cons tunnel tunnels ih => exact ih

theorem reconcile_lookup {now : Nat}
    (h : m.hasOnlyProxies remoteId = false) :
    (m.reconcileProxyUpgradeState now remoteId (m.tunnels.lookup
      remoteId)).1.proxyUpgradeStates.lookup remoteId = none := by
  unfold reconcileProxyUpgradeState
  cases hentries : m.tunnels.lookup remoteId with
  | none => exact removeProxyUpgrade_lookup
  | some entries =>
    unfold hasOnlyProxies at h
    dsimp only at h
    rw [hentries, Option.getD_some] at h
    have hgone : ((m.available entries).isEmpty || (m.available entries).any (!isProxy ·)) = true := by
      cases hempty : (m.available entries).isEmpty with
      | true => rfl
      | false =>
        rw [hempty, Bool.not_false, Bool.true_and] at h
        rw [Bool.false_or, List.any_eq_not_all_not]
        simpa using h
    dsimp only
    rw [if_pos hgone]
    exact removeProxyUpgrade_lookup

/-- An upgrade that is over leaves no state. -/
theorem finalize_lookup {now : Nat} {tunnel : TunnelRef} {closing : List Nat}
    (h : m.isFinal remoteId tunnel closing = true) :
    (m.finalizeProxyUpgradeSuccess now remoteId tunnel closing).2.proxyUpgradeStates.lookup
      remoteId = none := by
  unfold isFinal at h
  rw [Bool.and_eq_true, decide_eq_true_eq, Bool.or_eq_true, Bool.not_eq_true'] at h
  obtain ⟨hform, hlive | hothers⟩ := h
  · unfold finalizeProxyUpgradeSuccess
    rw [if_neg hform, if_pos hlive]
    dsimp only
    rw [closeAll_states]
    exact removeProxyUpgrade_lookup
  · unfold finalizeProxyUpgradeSuccess
    rw [if_neg hform]
    split_ifs with hlive
    · dsimp only
      rw [closeAll_states]
      exact removeProxyUpgrade_lookup
    · exact reconcile_lookup hothers

end TunnelManager

namespace UpgradeSystem

/-- Every upgrade in progress has an attempt. -/
def Tended (s : UpgradeSystem) : Prop :=
  ∀ remoteId upgrade, s.manager.proxyUpgradeStates.lookup remoteId = some upgrade →
    upgrade.inProgress = true →
      ∃ attempt ∈ s.attempts, attempt.remoteId = remoteId ∧ attempt.generation = upgrade.generation

/-- An attempt whose upgrade is still that of the peer ends with a tunnel with which it is over. -/
def endsWell (s : UpgradeSystem) : UpgradeOp → Bool
  | .attempt attempt (.finalize _ closing) =>
    match attempt.phase with
    | .opened tunnel => !decide (attempt ∈ s.attempts) || !s.isCurrent attempt ||
      s.manager.isFinal attempt.remoteId tunnel closing
    | _ => true
  | _ => true

namespace Tended

variable {s : UpgradeSystem}

theorem new (initialInterval : Nat) : Tended (.new initialInterval) := by
  intro remoteId upgrade hupgrade
  cases hupgrade

theorem withManager (h : Tended s) {m : TunnelManager} (hmarks : NoNewMarks s.manager m) :
    Tended (s.withManager m) := by
  intro remoteId upgrade hupgrade hmarked
  exact h remoteId upgrade (hmarks remoteId upgrade hupgrade hmarked) hmarked

theorem goesOn (h : Tended s) (attempt : Attempt) (phase : AttemptPhase) :
    Tended (s.goesOn attempt phase) := by
  intro remoteId upgrade hupgrade hmarked
  obtain ⟨a, hmem, hremote, hgeneration⟩ := h remoteId upgrade hupgrade hmarked
  by_cases ha : a = attempt
  · subst ha
    exact ⟨{ a with phase := phase }, List.mem_cons_self, hremote, hgeneration⟩
  · exact ⟨a, List.mem_cons_of_mem _ ((List.mem_erase_of_ne ha).mpr hmem), hremote, hgeneration⟩

/-- An attempt ends when its upgrade is not in progress. -/
theorem ends (h : Tended s) (attempt : Attempt)
    (hover : ∀ upgrade, s.manager.proxyUpgradeStates.lookup attempt.remoteId = some upgrade →
      upgrade.generation = attempt.generation → upgrade.inProgress = false) :
    Tended (s.ends attempt) := by
  intro remoteId upgrade hupgrade hmarked
  obtain ⟨a, hmem, hremote, hgeneration⟩ := h remoteId upgrade hupgrade hmarked
  by_cases ha : a = attempt
  · subst ha
    rw [← hremote] at hupgrade
    have hidle := hover upgrade hupgrade hgeneration.symm
    rw [hidle] at hmarked
    cases hmarked
  · exact ⟨a, (List.mem_erase_of_ne ha).mpr hmem, hremote, hgeneration⟩

theorem process (h : Tended s) (now : Nat) : Tended (s.step (.process now)) := by
  intro remoteId upgrade hupgrade hmarked
  obtain ⟨before, hbefore, hafter⟩ := Table.lookup_mapValues.mp hupgrade
  split_ifs at hafter with hdue
  · refine ⟨⟨remoteId, before.generation, .begins⟩, ?_, rfl, by rw [← hafter]⟩
    refine List.mem_append_left _ (List.mem_map.mpr ⟨(remoteId, before.generation), ?_, rfl⟩)
    refine List.mem_map.mpr ⟨⟨remoteId, before⟩, ?_, rfl⟩
    exact List.mem_filter.mpr ⟨Table.mem_entries_iff.mpr hbefore, hdue⟩
  · subst hafter
    obtain ⟨a, hmem, hfor⟩ := h remoteId before hbefore hmarked
    exact ⟨a, List.mem_append_right _ hmem, hfor⟩

theorem failed (h : Tended s) (attempt : Attempt) (now : Nat) :
    Tended ((s.withManager (s.manager.onProxyUpgradeFailedGeneration now attempt.remoteId
      attempt.generation).2).ends attempt) := by
  unfold TunnelManager.onProxyUpgradeFailedGeneration
  cases hupgrade : s.manager.proxyUpgradeStates.lookup attempt.remoteId with
  | none =>
    refine (h.withManager (.of_eq rfl)).ends attempt fun upgrade hsome => ?_
    have hsome' : s.manager.proxyUpgradeStates.lookup attempt.remoteId = some upgrade := hsome
    rw [hupgrade] at hsome'
    cases hsome'
  | some before =>
    dsimp only
    split_ifs with hother
    · refine (h.withManager (.of_eq rfl)).ends attempt fun upgrade hsome hgeneration => ?_
      obtain rfl : before = upgrade := Option.some.inj (hupgrade.symm.trans hsome)
      exact absurd hgeneration hother
    · refine (h.withManager (.insert ?_ rfl)).ends attempt fun upgrade hsome _ => ?_
      · exact ProxyUpgradeState.advanceRetry_inProgress ..
      · have hinserted : some _ = some upgrade := (AList.lookup_insert _).symm.trans hsome
        rw [← Option.some.inj hinserted]
        exact ProxyUpgradeState.advanceRetry_inProgress ..

theorem finalized (h : Tended s) {attempt : Attempt} {tunnel : TunnelRef} {now : Nat}
    {closing : List Nat} (hwell : s.isCurrent attempt = false ∨
      s.manager.isFinal attempt.remoteId tunnel closing = true) :
    Tended ((s.withManager (s.manager.finalizeProxyUpgradeSuccess now attempt.remoteId tunnel
      closing).2).ends attempt) := by
  have hmarks : NoNewMarks s.manager
      (s.manager.finalizeProxyUpgradeSuccess now attempt.remoteId tunnel closing).2 :=
    NoNewMarks.finalizeProxyUpgradeSuccess _ _ _ _
  refine (h.withManager hmarks).ends attempt fun upgrade hsome hgeneration => ?_
  rcases hwell with hother | hfinal
  · by_contra hmarked
    have hbefore := hmarks attempt.remoteId upgrade hsome (by simpa using hmarked)
    unfold isCurrent at hother
    rw [hbefore] at hother
    simp [hgeneration] at hother
  · cases (TunnelManager.finalize_lookup hfinal).symm.trans hsome

theorem attemptStep (h : Tended s) {attempt : Attempt} {step : AttemptStep}
    (hmem : attempt ∈ s.attempts) (hwell : s.endsWell (.attempt attempt step) = true) :
    Tended (s.attemptStep attempt step) := by
  unfold UpgradeSystem.attemptStep
  split
  · -- the comparison of the generations
    split_ifs with hcurrent
    · exact h.goesOn attempt .looks
    · refine h.ends attempt fun upgrade hupgrade hgeneration => ?_
      unfold isCurrent at hcurrent
      rw [hupgrade] at hcurrent
      simp [hgeneration] at hcurrent
  · next now closing hphase =>
    have hlook := h.withManager
      (NoNewMarks.getTunnelWithFilter now attempt.remoteId (!TunnelManager.isProxy ·) false closing)
    dsimp only
    split
    · exact hlook.goesOn attempt _
    · exact hlook.goesOn attempt _
  · exact h.goesOn attempt _
  · exact h.failed attempt _
  · next tunnel now closing hphase =>
    refine h.finalized ?_
    unfold endsWell at hwell
    simpa [hphase, hmem] using hwell
  · exact h

theorem step (h : Tended s) (op : UpgradeOp) (hwell : s.endsWell op = true) :
    Tended (s.step op) := by
  cases op with
  | register now tunnel closing₁ closing₂ closing₃ =>
    exact h.withManager (NoNewMarks.registerTunnel now tunnel closing₁ closing₂ closing₃)
  | publish now tunnel => exact h.withManager (NoNewMarks.publishRegisteredTunnel now tunnel)
  | getTunnel now remoteId closing =>
    exact h.withManager (NoNewMarks.getTunnelWithFilter now remoteId _ _ closing)
  | getNonProxyTunnel now remoteId closing =>
    exact h.withManager (NoNewMarks.getTunnelWithFilter now remoteId _ _ closing)
  | hasAvailableTunnelId now remoteId tunnelId closing =>
    exact h.withManager (NoNewMarks.hasAvailableTunnelId now remoteId tunnelId closing)
  | cleanup now idle closing =>
    exact h.withManager (NoNewMarks.cleanupClosedTunnels now idle closing)
  | goDown tunnels => exact h.withManager (.of_eq rfl)
  | comeUp tunnels => exact h.withManager (.of_eq rfl)
  | use now handle => exact h.withManager (.of_eq rfl)
  | process now => exact h.process now
  | attempt attempt step =>
    unfold UpgradeSystem.step
    dsimp only
    split_ifs with hmem
    · exact h.attemptStep hmem hwell
    · exact h

end Tended

/-- In every run in which no attempt ends with a tunnel that is no longer live while its peer has
proxies only, every upgrade that is in progress has an attempt of its generation. -/
theorem upgrades_tended (initialInterval : Nat) (ops : List UpgradeOp)
    (hwell : Along step (fun s op => s.endsWell op = true) (.new initialInterval) ops) :
    Tended (exec step (.new initialInterval) ops) :=
  exec_inv (I := Tended) (fun _ op h hop => h.step op hop) (Tended.new initialInterval) hwell

/-! ## A tunnel that closes before it is registered -/

def proxyTunnel : TunnelRef := ⟨0, [1], 1, 1, .proxy, false⟩

def directTunnel : TunnelRef := ⟨1, [1], 2, 2, .active, false⟩

/-- A peer is reached through a proxy; an attempt opens a direct tunnel to it, which is registered
after `goesDown` have gone down. -/
def upgradeRun (goesDown : List Nat) : List UpgradeOp :=
  [.register 0 proxyTunnel [] [] [], .publish 0 proxyTunnel, .process 20000,
    .attempt ⟨[1], 1, .begins⟩ .check, .attempt ⟨[1], 1, .looks⟩ (.look 20000 []),
    .goDown goesDown, .register 20100 directTunnel [] [] [], .publish 20100 directTunnel,
    .attempt ⟨[1], 1, .opening⟩ (.result 20100 (.ok directTunnel)),
    .attempt ⟨[1], 1, .opened directTunnel⟩ (.finalize 20100 [])]

theorem upgrades_tended_direct :
    Along step (fun s op => s.endsWell op = true) (.new 300000) (upgradeRun []) ∧
      Tended (exec step (.new 300000) (upgradeRun [])) :=
  ⟨by decide +kernel, upgrades_tended 300000 (upgradeRun []) (by decide +kernel)⟩

/-- The direct tunnel has gone down: the attempt is over, the upgrade stays marked. -/
theorem upgrade_stranded :
    (exec step (.new 300000) (upgradeRun [1])).manager.hasOnlyProxies [1] = true ∧
      ¬ Tended (exec step (.new 300000) (upgradeRun [1])) := by
  refine ⟨by decide +kernel, fun htended => ?_⟩
  have hmarked : (exec step (.new 300000) (upgradeRun [1])).manager.proxyUpgradeStates.lookup [1] =
      some ⟨1, 15000, 15000, 0, true⟩ := by decide +kernel
  have hnone : (exec step (.new 300000) (upgradeRun [1])).attempts = [] := by decide +kernel
  obtain ⟨attempt, hmem, -⟩ := htended [1] _ hmarked rfl
  rw [hnone] at hmem
  cases hmem

end UpgradeSystem

end BuckyP2p.Tunnel
