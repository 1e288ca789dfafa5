import BuckyP2p.Tcp.Entry
import BuckyP2p.Tcp.Failures

/-!
# BuckyP2p.Tcp.Absorbing — a retired entry, and the numbers of its leases

By the design a connection that is retired never returns to another state.  Most regions look at the
state under the lock under which they assign it; `blind` names those that do not:

* the reset of `claim_entry` after the send failed;
* the second region of `handle_claim_ack` for a claim that was refused;
* `bind_entry_to_lease`, some regions after the state was looked at.

On a retired entry each of them leads out of `Retired`, and nothing else does.  The committed sequence
is not harmed: only the loop writes it, so the number that a claim or a request was found to have
is still the next one when it is bound (`Counted`).
-/

namespace BuckyP2p.Tcp

open Lib

/-- What the loop is about to bind is the lease `seq`. -/
def Loop.Binds (seq : TcpLeaseSeq) : Loop → Prop
  | .checking req _ | .reserving req _ | .taking req _ | .binding req _ => req.leaseSeq = seq
  | .acked c | .confirming c => c.leaseSeq = seq
  | _ => True

theorem Loop.binds_of_aside {seq : TcpLeaseSeq} {l : Loop} (h : l.aside = true) : l.Binds seq := by
  cases l with
  | checking | reserving | taking | binding | acked | confirming =>
    exact absurd h Bool.false_ne_true
  | _ => trivial

/-- The loop assigns the state of the entry next, without a look at it. -/
def Loop.assigns : Loop → Bool
  | .failing _ | .binding _ _ | .confirming _ => true
  | _ => false

namespace TcpTunnel

/-- The step assigns the state of the entry without a look at it. -/
def blind (x : TcpTunnel) : EntryEvent → Bool
  | .own (.reset i) => (x.resetting[i]?).isSome
  | .own .go => x.loop.assigns
  | _ => false

variable {x x' : TcpTunnel} {e : ClaimEvent}

/-! ## The state -/

theorem failClaim_ne_retired (hs : x.state = .retired) (result : ClaimConnAckResult) :
    x.failClaim result ≠ .retired := by
  have hne : x.unclaimed ≠ .retired := by
    intro h
    have hstatus := x.unclaimed_status
    rw [h] at hstatus
    cases hstatus
  have hfail : x.failClaim result = x.unclaimed :=
    Streams.failClaim_eq (by rw [hs]; exact nofun) result
  rw [hfail]
  exact hne

/-- Each of the three leads out of `Retired`. -/
theorem blind_leaves (hs : x.state = .retired) {i : EntryEvent} (hi : x.blind i = true) :
    (x.next i).state ≠ .retired := by
  cases i with
  | receive cmd => exact absurd hi Bool.false_ne_true
  | own e =>
    cases e with
    | reset i =>
      obtain ⟨req, hreq⟩ := Option.isSome_iff_exists.mp hi
      have hreset : (x.resetClaim i).state = x.unclaimed := by simp only [resetClaim, hreq]
      have hfail : x.failClaim .retired = x.unclaimed := if_neg (by simp)
      show (x.resetClaim i).state ≠ .retired
      rw [hreset, ← hfail]
      exact failClaim_ne_retired hs .retired
    | go =>
      have hassigns : x.loop.assigns = true := hi
      show x.go.state ≠ .retired
      cases hloop : x.loop with
      | failing ack =>
        simp only [go, hloop]
        exact failClaim_ne_retired hs ack.result
      | binding req localChannelId => simp [go, hloop, bindRequest, bindEntryToLease]
      | confirming c => simp [go, hloop, bindEntryToLease]
      | _ =>
        rw [hloop] at hassigns
        exact absurd hassigns Bool.false_ne_true
    | _ => exact absurd hi Bool.false_ne_true

/-- Nothing else does. -/
theorem Advance.retired (h : Advance x x' e) (hs : x.state = .retired)
    (he : x.blind (.own e) = false) : x'.state = .retired := by
  cases h with
  | drift hstate => exact Drifts.of_retired (hs ▸ hstate)
  | claim hfree =>
    rw [hs] at hfree
    simp at hfree
  | reset hi => exact absurd (hi.symm.trans he) Bool.true_eq_false.mp
  | fail hloop => simp [blind, hloop, Loop.assigns] at he
  | bind hloop => simp [blind, hloop, Loop.assigns] at he
  | confirm hloop => simp [blind, hloop, Loop.assigns] at he
  | record _ hx' =>
    subst hx'
    exact hs

theorem next_retired_iff (hs : x.state = .retired) (i : EntryEvent) :
    (x.next i).state = .retired ↔ ¬ x.blind i = true := by
  refine ⟨fun h hi => blind_leaves hs hi h, fun hi => ?_⟩
  cases i with
  | own e => exact (x.act_advance x e).retired hs (Bool.eq_false_of_not_eq_true hi)
  | receive cmd => exact hs

/-! ## The committed sequence -/

/-- Whoever is about to be bound has the number after the committed one. -/
structure Counted (x : TcpTunnel) : Prop where
  first : x.state = .firstClaimPending → x.committedLeaseSeq = 0
  claiming : ∀ c, x.state = .claiming c → c.leaseSeq = nextLeaseSeq x.committedLeaseSeq
  loop : x.loop.Binds (nextLeaseSeq x.committedLeaseSeq)

/-- The target is checked for the next lease only. -/
theorem Counted.checkThen (h : x.Counted) {req : ClaimConnReq} {d : ClaimDecision}
    (hplan : x.decisionPlan req = .checkThen d) :
    req.leaseSeq = nextLeaseSeq x.committedLeaseSeq := by
  have hstate := decisionOnState_of_checkThen hplan
  unfold decisionOnState at hstate
  split at hstate
  · simp at hstate
  · next hs =>
    have hone : req.leaseSeq = 1 := by
      by_contra hne
      simp [validateRemoteFirstClaim, hne] at hstate
    rw [hone, h.first hs]
    rfl
  · split_ifs at hstate with hseq
    exact not_not.mp hseq
  · next c hs =>
    split_ifs at hstate with hseq
    · exact (not_not.mp hseq).trans (h.claiming c hs)
    · exact (not_not.mp hseq).trans (h.claiming c hs)
  · simp at hstate
  · simp at hstate

theorem onDecision_binds {req : ClaimConnReq} {seq : TcpLeaseSeq} (hseq : req.leaseSeq = seq)
    (d : ClaimDecision) : (onDecision req d).Binds seq := by
  cases d with
  | accept => exact hseq
  | conflictLose localChannelId => exact hseq
  | replay response => trivial
  | err result => trivial
  | conflictWin => trivial

theorem Counted.heads (h : x.Counted) {l : Loop} (hl : x.Heads l) :
    l.Binds (nextLeaseSeq x.committedLeaseSeq) := by
  have hx := h.loop
  cases hl with
  | stay => exact hx
  | aside haside => exact Loop.binds_of_aside haside
  | decide => trivial
  | unknown => trivial
  | @decided req d _ hplan =>
    -- without a check the answer is in the record, or an error
    rcases Streams.decisionPlan_cases x req with ⟨response, heq⟩ | ⟨result, heq⟩ | ⟨d', heq, -⟩
    · obtain rfl : .replay response = d := by simpa [heq] using hplan
      trivial
    · obtain rfl : .err result = d := by simpa [heq] using hplan
      trivial
    · simp [heq] at hplan
  | check _ hplan => exact h.checkThen hplan
  | @checked req d hloop =>
    rw [hloop] at hx
    exact onDecision_binds hx d
  | unchecked => trivial
  | reserved hloop =>
    rw [hloop] at hx
    exact hx
  | unreserved => trivial
  | taken hloop =>
    rw [hloop] at hx
    exact hx
  | @acked ack c hclaim => exact h.claiming c (claimOf_some hclaim).1
  | confirming hloop =>
    rw [hloop] at hx
    exact hx

theorem Counted.drift (h : x.Counted) (hstate : Drifts x.state x'.state)
    (hcommitted : x'.committedLeaseSeq = x.committedLeaseSeq) (hloop : x.Heads x'.loop) :
    x'.Counted := by
  refine ⟨fun hs => ?_, fun c hs => ?_, hcommitted ▸ h.heads hloop⟩
  · rw [hcommitted]
    exact h.first (hs ▸ hstate).of_first
  · rw [hcommitted]
    exact h.claiming c (hs ▸ hstate).of_claiming

/-- A claim that was refused is taken back, or the entry was bound meanwhile. -/
theorem failClaim_outcome (x : TcpTunnel) (result : ClaimConnAckResult) :
    x.failClaim result = x.unclaimed ∨ (x.failClaim result).status = .held := by
  unfold failClaim
  split_ifs
  · split
    · exact .inr rfl
    · exact .inr rfl
    · exact .inl rfl
  · exact .inl rfl

theorem Counted.advance (h : x.Counted) (hx : Advance x x' e) : x'.Counted := by
  cases hx with
  | drift hstate hcommitted _ hloop => exact h.drift hstate hcommitted hloop
  | @claim _ c hfree hx' =>
    subst hx'
    refine ⟨nofun, fun c' hc' => ?_, h.loop⟩
    obtain rfl : c = c' := DataConnEntryState.claiming.inj hc'
    rcases hfree with ⟨hs, hseq⟩ | ⟨-, hseq⟩
    · have hzero : (x.startClaim c).committedLeaseSeq = 0 := h.first hs
      rw [hzero, hseq]
      rfl
    · exact hseq
  | reset _ hx' =>
    subst hx'
    exact ⟨unclaimed_first, fun c hc => absurd hc (x.unclaimed_ne_claiming c), h.loop⟩
  | @fail ack _ hx' =>
    subst hx'
    refine ⟨fun hs => ?_, fun c hs => ?_, trivial⟩
    · rcases x.failClaim_outcome ack.result with heq | heq
      · exact unclaimed_first (heq.symm.trans hs)
      · rw [show x.failClaim ack.result = .firstClaimPending from hs] at heq
        cases heq
    · rcases x.failClaim_outcome ack.result with heq | heq
      · exact absurd (heq.symm.trans hs) (x.unclaimed_ne_claiming c)
      · rw [show x.failClaim ack.result = .claiming c from hs] at heq
        cases heq
  | bind _ hx' =>
    subst hx'
    exact ⟨nofun, nofun, trivial⟩
  | confirm _ hx' =>
    subst hx'
    exact ⟨nofun, nofun, trivial⟩
  | record _ hx' =>
    subst hx'
    exact ⟨h.first, h.claiming, trivial⟩

theorem Counted.next (h : x.Counted) (i : EntryEvent) : (x.next i).Counted := by
  cases i with
  | own e => exact h.advance (x.act_advance x e)
  | receive cmd => exact ⟨h.first, h.claiming, h.loop⟩

/-- The committed sequence stays, or goes on to the next number. -/
def CountsOn (x : TcpTunnel) (i : EntryEvent) : Prop :=
  (x.next i).committedLeaseSeq = x.committedLeaseSeq ∨
    (x.next i).committedLeaseSeq = nextLeaseSeq x.committedLeaseSeq

theorem Counted.countsOn (h : x.Counted) (i : EntryEvent) : x.CountsOn i := by
  cases i with
  | receive cmd => exact .inl rfl
  | own e =>
    have hx := h.loop
    have hstep := x.act_advance x e
    unfold CountsOn
    show (x.act x e).1.committedLeaseSeq = _ ∨ (x.act x e).1.committedLeaseSeq = _
    cases hstep with
    | drift _ hcommitted => exact .inl hcommitted
    | claim _ hx' => exact .inl (by rw [hx']; rfl)
    | reset _ hx' => exact .inl (by rw [hx'])
    | fail _ hx' => exact .inl (by rw [hx'])
    | bind hloop hx' =>
      rw [hloop] at hx
      exact .inr (by rw [hx']; exact hx)
    | confirm hloop hx' =>
      rw [hloop] at hx
      exact .inr (by rw [hx']; exact hx)
    | record _ hx' => exact .inl (by rw [hx'])

theorem new_counted (localId remoteId : P2pId) (connId : TcpConnId) (first : Bool) :
    (TcpTunnel.new localId remoteId connId first).Counted :=
  ⟨fun _ => rfl, nofun, trivial⟩

/-- An entry stays retired in a run if and only if no blind region runs while it is retired; the
numbers of the leases count on in every run. -/
theorem retired_absorbing_iff (localId remoteId : P2pId) (connId : TcpConnId) (first : Bool)
    (es : List EntryEvent) :
    let x := TcpTunnel.new localId remoteId connId first
    (Absorbs next (fun y => y.state = .retired) x es ∧ Along next CountsOn x es) ↔
      Along next (fun y i => y.state = .retired → ¬ y.blind i = true) x es := by
  intro x
  have hcounts : Along next CountsOn x es :=
    along_of_inv (C := fun _ _ => True) (fun _ i h _ => h.next i) (fun _ i h _ => h.countsOn i)
      (new_counted localId remoteId connId first) (along_true x es)
  rw [absorbs_iff]
  refine ⟨fun h => h.1.mono fun y i hy hs => ?_, fun h => ⟨h.mono fun y i hy hs => ?_, hcounts⟩⟩
  · exact (next_retired_iff hs i).mp (hy hs)
  · exact (next_retired_iff hs i).mpr (hy hs)

/-- The tunnel closes while a claim is being sent, and the send fails: the entry that `close_local`
has retired is there for a first claim again. -/
theorem retired_claimed_again :
    let run : List EntryEvent := [.own (.claim .stream [7] 5 11), .own (.register 0),
      .own (.sendClaim 0 false), .own .close, .own (.reset 0)]
    ¬ Absorbs next (fun y => y.state = .retired) (.new [1] [2] 9 true) run := by
  intro run h
  have hretired : (exec next (.new [1] [2] 9 true) (run.take 4)).state = .retired := by
    decide +kernel
  have hagain := h (run.take 4) [.own (.reset 0)] (List.prefix_refl run) hretired
  have hfirst : (exec next (.new [1] [2] 9 true) run).state = .firstClaimPending := by
    decide +kernel
  rw [show run.take 4 ++ [.own (.reset 0)] = run from rfl, hfirst] at hagain
  cases hagain

end TcpTunnel

end BuckyP2p.Tcp
