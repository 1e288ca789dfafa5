import BuckyP2p.Tcp.Claim
import BuckyP2p.Tcp.Regions

/-!
# BuckyP2p.Tcp.Endings — a lease that is let go comes to its end

`close_local` retires the connection of a lease whose halves are both released, and marks any other
lease `no_reuse`, so that the release of its last half retires it.  In both cases the end is a region
that a call has still to run: the lease is `Due`.

* `Ends`: an entry that is bound to a lease is in the table, and nobody is about to remove it; when
  the tunnel is closed the lease is `no_reuse`; and a `no_reuse` lease with both halves released is
  `Due`.
* `endsLeases`: what a step must meet for that.
-/

namespace BuckyP2p.Tcp

open Lib

namespace LeaseContext

/-- Nothing is left of the lease but its end. -/
def due (c : LeaseContext) : Bool :=
  c.readReleased && c.writeReleased && c.noReuse && !c.retired

/-- A region of the lease: `no_reuse` stays, and what ends a lease that gets due follows. -/
structure Leads (c : LeaseContext) (r : LeaseContext × List Todo) : Prop where
  noReuse : r.1.noReuse = c.noReuse
  due : r.1.due = true → c.due = true ∨ .finalize ∈ r.2 ∨ .retire ∈ r.2

theorem Intact.leads {c c' : LeaseContext} (h : c.Intact c') (todo : List Todo) :
    c.Leads (c', todo) where
  noReuse := h.noReuse
  due hdue := by
    simp only [due, Bool.and_eq_true, Bool.not_eq_true'] at hdue
    obtain ⟨⟨⟨hread, hwrite⟩, hreuse⟩, hretired⟩ := hdue
    have hbefore : c.retired = false := by
      cases hc : c.retired with
      | true =>
        rw [h.retired hc] at hretired
        cases hretired
      | false => rfl
    refine .inl ?_
    rw [LeaseContext.due, ← h.readReleased, ← h.writeReleased, ← h.noReuse, hread, hwrite, hreuse,
      hbefore]
    rfl

theorem releaseReadHalf_leads (c : LeaseContext) : c.Leads c.releaseReadHalf := by
  unfold releaseReadHalf
  split
  · exact (Intact.refl c).leads _
  · dsimp only
    repeat' split
    all_goals exact ⟨rfl, fun _ => .inr (.inl (by simp))⟩

theorem releaseWriteHalf_leads (c : LeaseContext) : c.Leads c.releaseWriteHalf := by
  unfold releaseWriteHalf
  split
  · exact (Intact.refl c).leads _
  · dsimp only
    split
    all_goals exact ⟨rfl, fun _ => .inr (.inl (by simp))⟩

/-- A lease that is due is not ready to be used again. -/
theorem readyForIdle_of_due {c : LeaseContext} (h : c.due = true) : c.readyForIdle = false := by
  simp only [due, Bool.and_eq_true] at h
  rw [readyForIdle, h.1.2]
  simp

theorem readyForClose_of_due {c : LeaseContext} (h : c.due = true) : c.readyForClose = true := by
  simp only [due, Bool.and_eq_true] at h
  rw [readyForClose, h.1.1.1, h.1.1.2, h.1.2]
  simp

/-- The end of a lease that is due. -/
theorem maybeFinalizeLease_of_due {c : LeaseContext} (h : c.due = true) :
    c.maybeFinalizeLease =
      ({ c with retired := true, read := false, write := false }, [.markRetired]) := by
  rw [maybeFinalizeLease, readyForIdle_of_due h, readyForClose_of_due h]
  rfl

/-- `maybe_finalize_lease` leaves no lease due. -/
theorem maybeFinalizeLease_due (c : LeaseContext) : c.maybeFinalizeLease.1.due = false := by
  cases hdue : c.due with
  | true =>
    rw [maybeFinalizeLease_of_due hdue]
    simp [due]
  | false =>
    unfold maybeFinalizeLease
    split_ifs
    · exact hdue
    · exact hdue
    · simp [due]
    · exact hdue

/-- `retire_lease_arc` leaves no lease due. -/
theorem retireLease_due (c : LeaseContext) : c.retireLease.1.due = false := by
  unfold retireLease
  split_ifs with hretired
  · rw [due, hretired]
    simp
  · simp [due]

end LeaseContext

namespace TcpTunnel

variable {x x' y : TcpTunnel}

/-- The entry is bound to the lease. -/
def Holds (x : TcpTunnel) (i : Nat) : Prop := x.state = .bound i ∨ x.state = .draining i

theorem Holds.unique {i j : Nat} (hi : x.Holds i) (hj : x.Holds j) : i = j := by
  rcases hi with hi | hi
  · rcases hj with hj | hj
    · exact DataConnEntryState.bound.inj (hi.symm.trans hj)
    · cases hi.symm.trans hj
  · rcases hj with hj | hj
    · cases hi.symm.trans hj
    · exact DataConnEntryState.draining.inj (hi.symm.trans hj)

/-- A region that ends the lease has still to be run. -/
def Due (x : TcpTunnel) (i : Nat) : Prop :=
  .lease i .finalize ∈ x.todo ∨ .lease i .retire ∈ x.todo

theorem Due.mono {i : Nat} (h : x.Due i) (htodo : x.todo ⊆ x'.todo) : x'.Due i :=
  h.imp (fun hf => htodo hf) fun hr => htodo hr

/-- The entry is in the table of an open tunnel, and nobody is about to remove it. -/
def attached (x : TcpTunnel) : Bool := !x.closed && x.registered && Chore.removeEntry ∉ x.todo

/-- The loop binds an entry only while it is in the table of an open tunnel, and an entry is marked
`Draining` for its own lease. -/
def endsLeases (x : TcpTunnel) : ClaimEvent → Bool
  | .go =>
    match x.loop with
    | .confirming _ | .binding _ _ => x.attached
    | _ => true
  | .run k =>
    match x.todo[k]?, x.state with
    | some (.lease i .markDraining), .bound j => i = j
    | _, _ => true
  | _ => true

structure Ends (x : TcpTunnel) : Prop where
  registered : ∀ i, x.Holds i → x.registered = true ∧ .removeEntry ∉ x.todo
  closed : x.closed = true → ∀ i lease, x.Holds i → x.leases[i]? = some lease → lease.noReuse = true
  due : ∀ i lease, x.leases[i]? = some lease → lease.due = true → x.Due i

theorem Ends.new (localId remoteId : P2pId) (connId : TcpConnId) (first : Bool) :
    Ends (.new localId remoteId connId first) where
  registered i h := by
    rcases h with h | h
    · cases h
    · cases h
  closed h := by cases h
  due i lease hi := by cases hi

/-- A step that binds no lease and does not close the tunnel. -/
structure Goes (x x' : TcpTunnel) : Prop where
  holds : ∀ i, x'.Holds i → x.Holds i
  registered : ∀ i, x'.Holds i → x.registered = true → .removeEntry ∉ x.todo →
    x'.registered = true ∧ .removeEntry ∉ x'.todo
  closed : x'.closed = x.closed
  noReuse : ∀ (i : Nat) (lease' : LeaseContext), x'.leases[i]? = some lease' →
    ∃ lease, x.leases[i]? = some lease ∧ lease'.noReuse = lease.noReuse
  due : ∀ (i : Nat) (lease' : LeaseContext), x'.leases[i]? = some lease' → lease'.due = true →
    x'.Due i ∨ ∃ lease, x.leases[i]? = some lease ∧ lease.due = true ∧ (x.Due i → x'.Due i)

theorem Ends.goes (h : Ends x) (hgoes : Goes x x') : Ends x' where
  registered i hi := by
    obtain ⟨hregistered, htodo⟩ := h.registered i (hgoes.holds i hi)
    exact hgoes.registered i hi hregistered htodo
  closed hclosed i lease' hi hlease' := by
    obtain ⟨lease, hlease, heq⟩ := hgoes.noReuse i lease' hlease'
    rw [heq]
    exact h.closed (hgoes.closed ▸ hclosed) i lease (hgoes.holds i hi) hlease
  due i lease' hlease' hdue := by
    rcases hgoes.due i lease' hlease' hdue with hend | ⟨lease, hlease, hold, hend⟩
    · exact hend
    · exact hend (h.due i lease hlease hold)

namespace Goes

/-- A step that changes no lease, and leaves what has still to be run. -/
theorem same (hholds : ∀ i, x'.Holds i → x.Holds i) (hleases : x'.leases = x.leases)
    (hclosed : x'.closed = x.closed) (hregistered : x'.registered = x.registered)
    (htodo : x.todo ⊆ x'.todo)
    (hremove : ∀ i, x'.Holds i → .removeEntry ∈ x'.todo → .removeEntry ∈ x.todo) : Goes x x' where
  holds := hholds
  registered i hi hreg hnot := ⟨hregistered.trans hreg, fun hmem => hnot (hremove i hi hmem)⟩
  closed := hclosed
  noReuse _ lease hi := ⟨lease, hleases ▸ hi, rfl⟩
  due _ lease hi hdue := .inr ⟨lease, hleases ▸ hi, hdue, fun h => h.mono htodo⟩

theorem refl (x : TcpTunnel) : Goes x x :=
  .same (fun _ h => h) rfl rfl rfl (fun _ h => h) fun _ _ h => h

/-- A step after which the entry is bound to no lease. -/
theorem unheld (hstate : ∀ i, ¬ x'.Holds i) (hleases : x'.leases = x.leases)
    (hclosed : x'.closed = x.closed) (htodo : x.todo ⊆ x'.todo) : Goes x x' where
  holds i h := absurd h (hstate i)
  registered i h := absurd h (hstate i)
  closed := hclosed
  noReuse _ lease hi := ⟨lease, hleases ▸ hi, rfl⟩
  due _ lease hi hdue := .inr ⟨lease, hleases ▸ hi, hdue, fun h => h.mono htodo⟩

theorem unclaimed_unheld (x : TcpTunnel) (i : Nat) :
    x.unclaimed ≠ .bound i ∧ x.unclaimed ≠ .draining i := by
  unfold unclaimed
  split <;> exact ⟨nofun, nofun⟩

theorem unclaimed (hstate : x'.state = x.unclaimed) (hleases : x'.leases = x.leases)
    (hclosed : x'.closed = x.closed) (htodo : x.todo ⊆ x'.todo) : Goes x x' := by
  refine .unheld (fun i h => ?_) hleases hclosed htodo
  rw [Holds, hstate] at h
  exact h.elim (unclaimed_unheld x i).1 (unclaimed_unheld x i).2

/-- A step that only adds regions of a lease to what has still to be run. -/
theorem append {todo : List Chore} (hnot : .removeEntry ∉ todo) :
    Goes x { x with todo := x.todo ++ todo } := by
  refine .same (fun _ h => h) rfl rfl rfl (List.subset_append_left ..) fun _ _ hmem => ?_
  exact (List.mem_append.mp hmem).resolve_right hnot

theorem retirePlainEntry (x : TcpTunnel) : Goes x x.retirePlainEntry := by
  refine .unheld (fun i h => ?_) rfl rfl fun chore hmem => ?_
  · rcases h with h | h
    · cases h
    · cases h
  · show chore ∈ (x.todo ++ _) ++ _
    exact List.mem_append_left _ (List.mem_append_left _ hmem)

theorem removeEntry_region {i : Nat} {r : LeaseContext × List Todo} :
    Chore.removeEntry ∈ (x.region i r).todo ↔ .removeEntry ∈ x.todo := by
  show Chore.removeEntry ∈ x.todo ++ r.2.map (Chore.lease i) ↔ _
  simp

theorem region_lease {i j : Nat} {r : LeaseContext × List Todo} {lease : LeaseContext}
    (h : (x.region i r).leases[j]? = some lease) :
    j = i ∧ lease = r.1 ∨ j ≠ i ∧ x.leases[j]? = some lease := by
  have hset : (x.leases.set i r.1)[j]? = some lease := h
  rw [List.getElem?_set] at hset
  split_ifs at hset with hij
  · exact .inl ⟨hij.symm, (Option.some.inj hset).symm⟩
  · exact .inr ⟨Ne.symm hij, hset⟩

theorem region_due {i : Nat} {r : LeaseContext × List Todo}
    (h : .finalize ∈ r.2 ∨ .retire ∈ r.2) : (x.region i r).Due i := by
  rcases h with h | h
  · exact .inl (List.mem_append_right _ (List.mem_map_of_mem h))
  · exact .inr (List.mem_append_right _ (List.mem_map_of_mem h))

/-- A region of a lease. -/
theorem region {i : Nat} {lease : LeaseContext} (hi : x.leases[i]? = some lease)
    {r : LeaseContext × List Todo} (hleads : lease.Leads r) : Goes x (x.region i r) where
  holds _ h := h
  registered _ _ hreg hnot := ⟨hreg, fun hmem => hnot (removeEntry_region.mp hmem)⟩
  closed := rfl
  noReuse j lease' hj := by
    rcases region_lease hj with ⟨rfl, rfl⟩ | ⟨-, hold⟩
    · exact ⟨lease, hi, hleads.noReuse⟩
    · exact ⟨lease', hold, rfl⟩
  due j lease' hj hdue := by
    have hmono : x.Due j → (x.region i r).Due j := fun h => h.mono (List.subset_append_left ..)
    rcases region_lease hj with ⟨rfl, rfl⟩ | ⟨-, hold⟩
    · rcases hleads.due hdue with hold | hend
      · exact .inr ⟨lease, hi, hold, hmono⟩
      · exact .inl (region_due hend)
    · exact .inr ⟨lease', hold, hdue, hmono⟩

/-- A region that is run is no longer to be run. -/
theorem erase_due {k i : Nat} {chore : Chore} (hk : x.todo[k]? = some chore)
    (hfinalize : chore ≠ .lease i .finalize) (hretire : chore ≠ .lease i .retire) (h : x.Due i) :
    Due { x with todo := x.todo.eraseIdx k } i := by
  have hother : ∀ {c : Chore}, chore ≠ c → c ∈ x.todo → c ∈ x.todo.eraseIdx k := by
    intro c hne hmem
    obtain ⟨l, hl⟩ := List.mem_iff_getElem?.mp hmem
    refine List.mem_eraseIdx_iff_getElem?.mpr ⟨l, fun hlk => hne ?_, hl⟩
    rw [hlk, hk] at hl
    exact Option.some.inj hl
  exact h.imp (hother hfinalize) (hother hretire)

/-- A region that ends no lease is about to be run. -/
theorem erase {k : Nat} {chore : Chore} (hk : x.todo[k]? = some chore)
    (hne : ∀ i lease, x.leases[i]? = some lease →
      chore ≠ .lease i .finalize ∧ chore ≠ .lease i .retire) :
    Goes x { x with todo := x.todo.eraseIdx k } where
  holds _ h := h
  registered _ _ hreg hnot := ⟨hreg, fun hmem => hnot (List.mem_of_mem_eraseIdx hmem)⟩
  closed := rfl
  noReuse _ lease hi := ⟨lease, hi, rfl⟩
  due i lease hi hdue :=
    .inr ⟨lease, hi, hdue, erase_due hk (hne i lease hi).1 (hne i lease hi).2⟩

/-- The region that ends a lease is run, and the lease is not due any more. -/
theorem ended {k i : Nat} {t : Todo} {lease : LeaseContext} (hk : x.todo[k]? = some (.lease i t))
    (hi : x.leases[i]? = some lease) {r : LeaseContext × List Todo}
    (hreuse : r.1.noReuse = lease.noReuse) (hdue : r.1.due = false) :
    Goes x ({ x with todo := x.todo.eraseIdx k }.region i r) where
  holds _ h := h
  registered _ _ hreg hnot :=
    ⟨hreg, fun hmem => hnot (List.mem_of_mem_eraseIdx (removeEntry_region.mp hmem))⟩
  closed := rfl
  noReuse j lease' hj := by
    rcases region_lease hj with ⟨rfl, rfl⟩ | ⟨-, hold⟩
    · exact ⟨lease, hi, hreuse⟩
    · exact ⟨lease', hold, rfl⟩
  due j lease' hj hdue' := by
    rcases region_lease hj with ⟨rfl, rfl⟩ | ⟨hne, hold⟩
    · rw [hdue] at hdue'
      cases hdue'
    · have hother : ∀ u, Chore.lease i t ≠ .lease j u := by
        intro u heq
        exact hne (Chore.lease.inj heq).1.symm
      refine .inr ⟨lease', hold, hdue', fun h => ?_⟩
      exact (erase_due hk (hother _) (hother _) h).mono (List.subset_append_left ..)

theorem trans {x'' : TcpTunnel} (h : Goes x x') (h' : Goes x' x'') : Goes x x'' where
  holds i hi := h.holds i (h'.holds i hi)
  registered i hi hreg hnot := by
    obtain ⟨hreg', hnot'⟩ := h.registered i (h'.holds i hi) hreg hnot
    exact h'.registered i hi hreg' hnot'
  closed := h'.closed.trans h.closed
  noReuse i lease'' hi := by
    obtain ⟨lease', hi', heq'⟩ := h'.noReuse i lease'' hi
    obtain ⟨lease, hi, heq⟩ := h.noReuse i lease' hi'
    exact ⟨lease, hi, heq'.trans heq⟩
  due i lease'' hi hdue := by
    rcases h'.due i lease'' hi hdue with hend | ⟨lease', hi', hdue', hend'⟩
    · exact .inl hend
    · rcases h.due i lease' hi' hdue' with hend | ⟨lease, hi, hold, hend⟩
      · exact .inl (hend' hend)
      · exact .inr ⟨lease, hi, hold, fun hx => hend' (hend hx)⟩

/-- A region of a lease that does not end it. -/
theorem runLease {k i : Nat} {t : Todo} {lease : LeaseContext}
    (hk : x.todo[k]? = some (.lease i t)) (hi : x.leases[i]? = some lease)
    (hends : x.endsLeases (.run k) = true) :
    Goes x ({ x with todo := x.todo.eraseIdx k }.runLease i lease t) := by
  cases t with
  | sendWriteFin =>
    have herase : Goes x { x with todo := x.todo.eraseIdx k } :=
      erase hk fun _ _ _ => ⟨nofun, nofun⟩
    have hregion := region (x := { x with todo := x.todo.eraseIdx k }) hi (lease.sendWriteFin_intact.leads lease.sendWriteFin.2.1)
    exact { herase.trans hregion with }
  | sendReadDone =>
    have herase : Goes x { x with todo := x.todo.eraseIdx k } :=
      erase hk fun _ _ _ => ⟨nofun, nofun⟩
    have hregion := region (x := { x with todo := x.todo.eraseIdx k }) hi (lease.sendReadDone_intact.leads lease.sendReadDone.2.1)
    exact { herase.trans hregion with }
  | markDraining =>
    have herase : Goes x { x with todo := x.todo.eraseIdx k } :=
      erase hk fun _ _ _ => ⟨nofun, nofun⟩
    simp only [TcpTunnel.runLease]
    split
    · next j hstate =>
      have hij : i = j := by
        simp only [endsLeases, hk, show x.state = .bound j from hstate, decide_eq_true_eq] at hends
        exact hends
      refine herase.trans (.same (fun i' h => ?_) rfl rfl rfl (fun _ h => h) fun _ _ h => h)
      rcases h with h | h
      · cases h
      · obtain rfl : i = i' := DataConnEntryState.draining.inj h
        rw [hij]
        exact .inl hstate
    · exact herase
  | retire =>
    have hended := ended hk hi (r := lease.retireLease) lease.retireLease_intact.noReuse lease.retireLease_due
    simp only [TcpTunnel.runLease]
    refine hended.trans (append ?_)
    split <;> simp
  | markRetired =>
    have herase : Goes x { x with todo := x.todo.eraseIdx k } :=
      erase hk fun _ _ _ => ⟨nofun, nofun⟩
    refine herase.trans (.unheld (fun i' h => ?_) rfl rfl (List.subset_append_left ..))
    rcases h with h | h
    · cases h
    · cases h
  | finalize => exact ended hk hi lease.maybeFinalizeLease_intact.noReuse lease.maybeFinalizeLease_due
  | settle =>
    have herase : Goes x { x with todo := x.todo.eraseIdx k } :=
      erase hk fun _ _ _ => ⟨nofun, nofun⟩
    have hidle : Goes x
        { x with todo := x.todo.eraseIdx k, stream := true, state := .idle } := by
      refine herase.trans (.unheld (fun i' h => ?_) rfl rfl fun _ h => h)
      rcases h with h | h
      · cases h
      · cases h
    simp only [TcpTunnel.runLease]
    split
    · exact hidle
    · exact hidle
    · exact { herase with }

theorem run (x y : TcpTunnel) (k : Nat) (hends : x.endsLeases (.run k) = true) :
    Goes x (x.act y (.run k)).1 := by
  simp only [act]
  cases hk : x.todo[k]? with
  | none => exact refl x
  | some chore =>
    have herase : (∀ i t, chore ≠ .lease i t) → Goes x { x with todo := x.todo.eraseIdx k } :=
      fun hne => erase hk fun i _ _ => ⟨hne i _, hne i _⟩
    cases chore with
    | lease i t =>
      simp only [TcpTunnel.runChore]
      split
      · next lease hi => exact runLease hk hi hends
      · next hnone =>
        refine erase hk fun j lease hj => ?_
        have hij : i ≠ j := by
          rintro rfl
          cases hj.symm.trans hnone
        exact ⟨fun h => hij (Chore.lease.inj h).1, fun h => hij (Chore.lease.inj h).1⟩
    | dropStream => exact { herase nofun with }
    | clearPendingDrainsForConn => exact { herase nofun with }
    | clearPendingDrainForEntry leaseSeq => exact { herase nofun with }
    | removeEntry =>
      exact { herase nofun with
        registered := fun _ _ _ hnot => absurd (List.mem_of_getElem? hk) hnot }
    | sendPendingClaimResult channelId => exact { herase nofun with }

theorem useLease {i : Nat} {lease : LeaseContext} (hi : x.leases[i]? = some lease)
    (e : LeaseEvent) : Goes x (x.useLease i lease e) := by
  cases e with
  | write n =>
    simp only [TcpTunnel.useLease]
    split
    · exact refl x
    · have hwrite : lease.Intact { lease with txBytes := lease.txBytes + wrap n } :=
        { LeaseContext.Intact.refl lease with }
      exact region hi (hwrite.leads [])
  | read n eof =>
    simp only [TcpTunnel.useLease]
    split
    · exact refl x
    · exact region hi ((lease.afterRead_intact n eof).leads _)
  | dropRead => exact region hi lease.releaseReadHalf_leads
  | dropWrite => exact region hi lease.releaseWriteHalf_leads
  | observe =>
    simp only [TcpTunnel.useLease]
    split
    · exact refl x
    · split
      · next lease' todo heq =>
        exact { region hi (r := (lease', todo)) ((LeaseContext.observeStart_intact heq).leads todo) with }
      · exact region hi ((LeaseContext.Intact.refl lease).leads _)
  | observed result =>
    simp only [TcpTunnel.useLease]
    split
    · exact { region hi ((lease.observeEnd_intact result).leads _) with }
    · exact refl x
  | check =>
    refine region hi ⟨lease.maybeFinalizeLease_intact.noReuse, fun h => ?_⟩
    rw [lease.maybeFinalizeLease_due] at h
    cases h
  | fail =>
    have hregion : Goes x (x.region i lease.retireLease) := by
      refine region hi ⟨lease.retireLease_intact.noReuse, fun h => ?_⟩
      rw [lease.retireLease_due] at h
      cases h
    simp only [TcpTunnel.useLease, TcpTunnel.runLease]
    refine hregion.trans (append ?_)
    split <;> simp

theorem claimEntry (x : TcpTunnel) (kind : TcpChannelKind) (purpose : TunnelPurpose)
    (channelId : TcpChannelId) (claimNonce : U64) :
    Goes x (x.claimEntry kind purpose channelId claimNonce) := by
  have hstart : ∀ c, Goes x (x.startClaim c) := by
    intro c
    refine .unheld (fun i h => ?_) rfl rfl fun _ h => h
    rcases h with h | h
    · cases h
    · cases h
  unfold TcpTunnel.claimEntry
  split
  · split
    · exact hstart _
    · exact refl x
  · exact hstart _
  · exact refl x

theorem registerClaim (x : TcpTunnel) (k : Nat) : Goes x (x.registerClaim k) := by
  unfold TcpTunnel.registerClaim
  split
  · exact { refl x with }
  · exact refl x

theorem sendClaim (x y : TcpTunnel) (k : Nat) (ok : Bool) : Goes x (x.sendClaim y k ok).1 := by
  unfold TcpTunnel.sendClaim
  split
  · cases ok with
    | true => exact { refl x with }
    | false => exact { refl x with }
  · exact refl x

theorem resetClaim (x : TcpTunnel) (k : Nat) : Goes x (x.resetClaim k) := by
  unfold TcpTunnel.resetClaim
  split
  · exact .unclaimed rfl rfl rfl fun _ h => h
  · exact refl x

theorem sendDrain (x y : TcpTunnel) (k : Nat) (ok : Bool) : Goes x (x.sendDrain y k ok).1 := by
  unfold TcpTunnel.sendDrain
  split
  · next i _ _ =>
    cases ok with
    | true =>
      have happend : Goes x { x with todo := x.todo ++ [.lease i .finalize] } := append (by simp)
      exact { happend with }
    | false =>
      have happend : Goes x { x with todo := x.todo ++ [.lease i .retire] } := append (by simp)
      exact { happend with }
  · exact refl x

theorem keepDrain (x : TcpTunnel) (cmd : DrainCmd) : Goes x (x.keepDrain cmd) := by
  cases cmd with
  | writeFin fin =>
    simp only [TcpTunnel.keepDrain, keepWriteFin]
    split
    · exact retirePlainEntry x
    · next facts _ =>
      let x₁ := { x with pendingDrains := Function.update x.pendingDrains fin.leaseSeq facts }
      split
      · split
        · exact { retirePlainEntry x₁ with }
        · exact { refl x with }
      · exact { refl x with }
  | readDone done =>
    simp only [TcpTunnel.keepDrain, keepReadDone]
    split
    · exact retirePlainEntry x
    · next facts _ =>
      let x₁ := { x with pendingDrains := Function.update x.pendingDrains done.leaseSeq facts }
      split
      · split
        · exact { retirePlainEntry x₁ with }
        · exact { refl x with }
      · exact { refl x with }

theorem arrive (x : TcpTunnel) (cmd : DrainCmd) : Goes x (x.arrive cmd) := by
  have hlater : Goes x (if cmd.leaseSeq.gt x.committedLeaseSeq then x.retirePlainEntry else x) := by
    split
    · exact retirePlainEntry x
    · exact refl x
  unfold TcpTunnel.arrive
  split
  · exact { refl x with }
  · split
    · exact hlater
    · exact hlater
    · exact hlater
    · split
      · split
        · exact retirePlainEntry x
        · exact keepDrain x cmd
      · exact refl x
    · exact { refl x with }
    · exact { refl x with }

theorem deliver (x : TcpTunnel) (active : Bool) : Goes x (x.deliver active) := by
  unfold TcpTunnel.deliver
  split
  · dsimp only
    split
    · exact { refl x with }
    · split
      · exact { refl x with }
      · exact { refl x with }
  · dsimp only
    split
    · exact { refl x with }
    · exact { refl x with }
  · next cmd rest _ _ => exact { arrive { x with inbox := rest } cmd with }
  · exact refl x

theorem handle (x : TcpTunnel) (i : Nat) (cmd : DrainCmd) : Goes x (x.handle i cmd) := by
  have hready : Goes x { x with loop := .ready } := { refl x with }
  cases cmd with
  | writeFin fin =>
    simp only [TcpTunnel.handle]
    split
    · next lease hi =>
      exact hready.trans (region (x := { x with loop := .ready }) hi ((lease.handleWriteFin_intact fin).leads _))
    · exact hready
  | readDone done =>
    simp only [TcpTunnel.handle]
    split
    · next lease hi =>
      exact hready.trans (region (x := { x with loop := .ready }) hi ((lease.handleReadDone_intact done).leads _))
    · exact hready

theorem failClaim_holds (x : TcpTunnel) (result : ClaimConnAckResult) (i : Nat)
    (h : x.failClaim result = .bound i ∨ x.failClaim result = .draining i) : x.Holds i := by
  have hunclaimed : ¬ (x.unclaimed = .bound i ∨ x.unclaimed = .draining i) := by
    rintro (h | h)
    · exact (unclaimed_unheld x i).1 h
    · exact (unclaimed_unheld x i).2 h
  unfold failClaim at h
  split at h
  · split at h
    · next j hstate =>
      rw [Holds, hstate]
      exact h
    · next j hstate =>
      rw [Holds, hstate]
      exact h
    · exact absurd h hunclaimed
  · exact absurd h hunclaimed

/-- A step of the loop that binds no lease. -/
theorem go (x : TcpTunnel) (hbinding : ∀ req id, x.loop ≠ .binding req id)
    (hconfirming : ∀ c, x.loop ≠ .confirming c) : Goes x x.go := by
  unfold TcpTunnel.go
  split
  · split
    · exact { refl x with }
    · exact { refl x with }
  · split
    · exact { refl x with }
    · exact { refl x with }
  · next req id hloop => exact absurd hloop (hbinding req id)
  · exact { refl x with }
  · split
    · exact { refl x with }
    · exact { refl x with }
  · split
    · exact { refl x with }
    · exact { refl x with }
  · next ack _ =>
    exact .same (fun i h => failClaim_holds x ack.result i h) rfl rfl rfl (fun _ h => h)
      fun _ _ h => h
  · split
    · exact { refl x with }
    · exact { refl x with }
  · next c hloop => exact absurd hloop (hconfirming c)
  · exact { refl x with }
  · next i cmd _ => exact handle x i cmd
  · exact refl x

theorem checked (x : TcpTunnel) (answer : Option AcceptRefusal) : Goes x (x.checked answer) := by
  unfold TcpTunnel.checked
  split
  · exact { refl x with }
  · exact { refl x with }
  · exact refl x

theorem reserved (x : TcpTunnel) (answer : Option AcceptRefusal) : Goes x (x.reserved answer) := by
  unfold TcpTunnel.reserved
  split
  · exact { refl x with }
  · exact { refl x with }
  · exact refl x

theorem enqueued (x : TcpTunnel) (ok : Bool) : Goes x (x.enqueued ok) := by
  unfold TcpTunnel.enqueued
  split
  · dsimp only
    split
    · split
      · exact { refl x with }
      · exact { refl x with }
    · split
      · exact { refl x with }
      · exact { refl x with }
  · exact refl x

theorem reply (x y : TcpTunnel) (ok : Bool) : Goes x (x.reply y ok).1 := by
  unfold TcpTunnel.reply
  split
  · cases ok with
    | true => exact { refl x with }
    | false => exact { refl x with }
  · exact refl x

end Goes

/-- The entry is bound, in the table of an open tunnel. -/
theorem Ends.bindEntryToLease (h : Ends x) (hattached : x.attached = true)
    (channelId : TcpChannelId) (leaseSeq : TcpLeaseSeq) (kind : TcpChannelKind)
    (purpose : TunnelPurpose) (localInitiator : Bool) :
    Ends (x.bindEntryToLease channelId leaseSeq kind purpose localInitiator) := by
  simp only [attached, Bool.and_eq_true, Bool.not_eq_true', decide_eq_true_eq] at hattached
  obtain ⟨⟨hopen, hregistered⟩, hnot⟩ := hattached
  refine ⟨fun i _ => ⟨hregistered, fun hmem => ?_⟩, fun hclosed => ?_, fun i lease hi hdue => ?_⟩
  · rcases List.mem_append.mp hmem with hold | hnew
    · exact hnot hold
    · simp at hnew
  · cases hopen.symm.trans hclosed
  · let fresh := LeaseContext.new x.connId leaseSeq channelId kind purpose localInitiator
    let bound := (fresh.absorb x.pendingFin x.pendingReadDone (x.pendingDrains leaseSeq)).1
    have hnew : bound.noReuse = false := (fresh.absorb_intact _ _ _).noReuse
    have hleases : (x.leases ++ [bound])[i]? = some lease := hi
    have hdue' : x.Due i := by
      rcases Nat.lt_or_ge i x.leases.length with hlt | hge
      · rw [List.getElem?_append_left hlt] at hleases
        exact h.due i lease hleases hdue
      · rw [List.getElem?_append_right hge] at hleases
        obtain rfl : bound = lease := by
          have hmem := List.mem_of_getElem? hleases
          exact (List.mem_singleton.mp hmem).symm
        simp [LeaseContext.due, hnew] at hdue
    exact hdue'.mono (List.subset_append_left ..)

/-- A lease whose tunnel is closed is not used again, and if its halves are released it is retired. -/
theorem Ends.closes (h : Ends x) {i : Nat} {lease : LeaseContext} (hholds : x.Holds i)
    (hi : x.leases[i]? = some lease) {todo : List Todo}
    (htodo : LeaseContext.readyForClose { lease with noReuse := true } = true → .retire ∈ todo) :
    Ends ({ x with
      closed := true, pendingDrains := fun _ => ⟨none, none⟩, pendingClaims := [] }.region i
        ({ lease with noReuse := true }, todo)) := by
  refine ⟨fun j hj => ?_, fun _ j lease' hj hj' => ?_, fun j lease' hj hdue => ?_⟩
  · obtain ⟨hreg, hnot⟩ := h.registered j hj
    exact ⟨hreg, fun hmem => hnot (Goes.removeEntry_region.mp hmem)⟩
  · have hij : j = i := Holds.unique (x := x) hj hholds
    rcases Goes.region_lease hj' with ⟨-, rfl⟩ | ⟨hne, -⟩
    · rfl
    · exact absurd hij hne
  · rcases Goes.region_lease hj with ⟨rfl, rfl⟩ | ⟨-, hold⟩
    · exact Goes.region_due (.inr (htodo (LeaseContext.readyForClose_of_due hdue)))
    · exact (h.due j lease' hold hdue).mono (List.subset_append_left ..)

theorem Ends.close (h : Ends x) : Ends x.close := by
  -- an entry that is not bound to a lease that is there
  have hfree : ∀ {x' : TcpTunnel}, (∀ i lease, x'.Holds i → x'.leases[i]? = some lease → False) →
      (∀ i, x'.Holds i → x.Holds i) → x'.registered = x.registered → x'.todo = x.todo →
      x'.leases = x.leases → Ends x' := by
    intro x' hnone hholds hregistered htodo hleases
    refine ⟨fun i hi => ?_, fun _ i lease hi hlease => (hnone i lease hi hlease).elim,
      fun i lease hi hdue => ?_⟩
    · rw [hregistered, htodo]
      exact h.registered i (hholds i hi)
    · rw [hleases] at hi
      exact (h.due i lease hi hdue).mono (by rw [htodo]; exact fun _ hmem => hmem)
  have hretired : ∀ {x' : TcpTunnel}, x'.state = .retired → x'.registered = x.registered →
      x'.todo = x.todo → x'.leases = x.leases → Ends x' := by
    intro x' hstate
    have hnot : ∀ i, ¬ x'.Holds i := by
      intro i hi
      rw [Holds, hstate] at hi
      rcases hi with hi | hi
      · cases hi
      · cases hi
    exact hfree (fun i _ hi _ => hnot i hi) fun i hi => absurd hi (hnot i)
  -- the lease of the entry is not there
  have hgone : ∀ {i : Nat}, x.Holds i → x.leases[i]? = none →
      Ends { x with
        closed := true, pendingDrains := fun _ => ⟨none, none⟩, pendingClaims := [] } := by
    intro i hi hnone
    refine hfree (fun j lease hj hlease => ?_) (fun _ hj => hj) rfl rfl rfl
    obtain rfl : i = j := Holds.unique (x := x) hi hj
    cases hnone.symm.trans hlease
  unfold TcpTunnel.close
  split
  · exact h
  · dsimp only
    split
    · next hreg =>
      refine hfree (fun i lease hi _ => ?_) (fun _ hi => hi) rfl rfl rfl
      rw [(h.registered i hi).1] at hreg
      cases hreg
    · split
      · next i hstate =>
        split
        · next lease hi => exact h.closes (.inl hstate) hi fun hready => by simp [hready]
        · next hnone => exact hgone (.inl hstate) hnone
      · next i hstate =>
        split
        · next lease hi => exact h.closes (.inr hstate) hi fun hready => by simp [hready]
        · next hnone => exact hgone (.inr hstate) hnone
      · exact hretired rfl rfl rfl rfl
      · exact hretired rfl rfl rfl rfl
      · exact hretired rfl rfl rfl rfl
      · next hstate => exact hretired hstate rfl rfl rfl

/-- **One step.** -/
theorem Ends.act (h : Ends x) (y : TcpTunnel) {e : ClaimEvent} (hends : x.endsLeases e = true) :
    Ends (x.act y e).1 := by
  cases e with
  | claim kind purpose channelId nonce => exact h.goes (.claimEntry ..)
  | register k => exact h.goes (.registerClaim ..)
  | sendClaim k ok => exact h.goes (.sendClaim ..)
  | reset k => exact h.goes (.resetClaim ..)
  | forget channelId => exact h.goes { Goes.refl x with }
  | deliver active => exact h.goes (.deliver ..)
  | go =>
    cases hloop : x.loop with
    | binding req localChannelId =>
      simp only [endsLeases, hloop] at hends
      simp only [TcpTunnel.act, TcpTunnel.go, hloop, bindRequest]
      exact { h.bindEntryToLease hends .. with }
    | confirming c =>
      simp only [endsLeases, hloop] at hends
      simp only [TcpTunnel.act, TcpTunnel.go, hloop]
      exact { h.bindEntryToLease hends .. with }
    | _ =>
      refine h.goes (.go x ?_ ?_)
      · rw [hloop]
        exact nofun
      · rw [hloop]
        exact nofun
  | checked answer => exact h.goes (.checked ..)
  | reserved answer => exact h.goes (.reserved ..)
  | enqueued ok => exact h.goes (.enqueued ..)
  | reply ok => exact h.goes (.reply ..)
  | lease i e =>
    simp only [TcpTunnel.act]
    split
    · next lease hi => exact h.goes (.useLease hi e)
    · exact h
  | run k => exact h.goes (.run x y k hends)
  | sendDrain k ok => exact h.goes (.sendDrain ..)
  | abandon => exact h.goes (.retirePlainEntry x)
  | close => exact h.close

end TcpTunnel

end BuckyP2p.Tcp
