import BuckyP2p.Tcp.Drain

/-!
# BuckyP2p.Tcp.Boundary — no byte crosses the boundary of a lease

* `Quiet`: what a region of the lease keeps when it neither counts bytes nor announces an end.
* `Flow x y`: the direction from `x` to `y`.  What was written is what was consumed and what is in
  flight; a total that was announced is the final one; the reader says that it is done only when
  nothing is in flight any more.
* `no_byte_crosses`: an entry is idle again only when both directions are empty and all bytes were
  consumed.
-/

namespace BuckyP2p.Tcp

open Lib

/-! ## The regions of the lease -/

namespace LeaseContext

/-- A region that counts `n` bytes as read, and announces nothing. -/
structure Counts (c c' : LeaseContext) (n : Nat) : Prop where
  tx : c'.txBytes = c.txBytes
  rx : c'.retired = false → c'.rxBytes = c.rxBytes + wrap n
  final : c'.peerFinalTxBytes = c.peerFinalTxBytes
  held : c'.pendingPeerReadDoneFinalRxBytes = c.pendingPeerReadDoneFinalRxBytes
  finSent : c'.localWriteFinSent = c.localWriteFinSent
  doneSent : c'.localReadDoneSent = c.localReadDoneSent
  done : c'.peerReadDoneReceived = c.peerReadDoneReceived
  released : c.writeReleased = true → c'.writeReleased = true
  retired : c.retired = true → c'.retired = true

theorem add_wrap_zero (v : U64) : v = v + wrap 0 := by simp [wrap]

theorem Counts.refl (c : LeaseContext) : Counts c c 0 :=
  ⟨rfl, fun _ => add_wrap_zero _, rfl, rfl, rfl, rfl, rfl, id, id⟩

/-- The lease can be given back: this end has read everything, and the other end said so too. -/
def Settled (c : LeaseContext) : Prop :=
  c.localReadDoneSent = true ∧ c.peerReadDoneReceived = true

/-- The regions that follow may be run: `WriteFin` is sent after the writer is gone, and the entry
becomes idle after the lease is settled. -/
def Warrants (c : LeaseContext) (todo : List Todo) : Prop :=
  (.sendWriteFin ∈ todo → c.writeReleased = true) ∧ (.settle ∈ todo → c.Settled)

/-- The result of a region of the lease `c` that counts `n` bytes. -/
def Region (c : LeaseContext) (n : Nat) (r : LeaseContext × List Todo) : Prop :=
  Counts c r.1 n ∧ r.1.Warrants r.2

/-- Regions that need no warrant. -/
theorem Counts.region {c c' : LeaseContext} {n : Nat} (h : Counts c c' n) {todo : List Todo}
    (hplain : .sendWriteFin ∉ todo ∧ .settle ∉ todo) : Region c n (c', todo) :=
  ⟨h, fun hm => absurd hm hplain.1, fun hm => absurd hm hplain.2⟩

theorem releaseReadHalf_spec (c : LeaseContext) : Region c 0 c.releaseReadHalf := by
  have hreleased : Counts c { c with readReleased := true } 0 :=
    ⟨rfl, fun _ => add_wrap_zero _, rfl, rfl, rfl, rfl, rfl, id, id⟩
  unfold releaseReadHalf
  dsimp only
  split_ifs
  · exact (Counts.refl c).region (by decide)
  · exact hreleased.region (by decide)
  · exact hreleased.region (by decide)
  · exact hreleased.region (by decide)
  · exact hreleased.region (by decide)

theorem releaseWriteHalf_spec (c : LeaseContext) : Region c 0 c.releaseWriteHalf := by
  have hreleased : Counts c { c with writeReleased := true } 0 :=
    ⟨rfl, fun _ => add_wrap_zero _, rfl, rfl, rfl, rfl, rfl, fun _ => rfl, id⟩
  unfold releaseWriteHalf
  dsimp only
  split_ifs
  · exact (Counts.refl c).region (by decide)
  · exact hreleased.region (by decide)
  · exact ⟨hreleased, fun _ => rfl, by simp⟩

/-- A lease without its halves. -/
theorem counts_bare (c : LeaseContext) :
    Counts c { c with retired := true, read := false, write := false } 0 :=
  ⟨rfl, fun _ => add_wrap_zero _, rfl, rfl, rfl, rfl, rfl, id, fun _ => rfl⟩

theorem maybeFinalizeLease_spec (c : LeaseContext) : Region c 0 c.maybeFinalizeLease := by
  unfold maybeFinalizeLease
  split_ifs with hidle hhalf hclose
  · exact (Counts.refl c).region (by decide)
  · simp only [readyForIdle, Bool.and_eq_true] at hidle
    have hsettled : c.Settled := ⟨hidle.1.1.1.1.1.2, hidle.1.1.1.1.2⟩
    exact ⟨⟨rfl, fun _ => add_wrap_zero _, rfl, rfl, rfl, rfl, rfl, id, id⟩, by simp,
      fun _ => hsettled⟩
  · exact (counts_bare c).region (by decide)
  · exact (Counts.refl c).region (by decide)

theorem retireLease_spec (c : LeaseContext) : Region c 0 c.retireLease := by
  unfold retireLease
  split_ifs
  · exact (Counts.refl c).region (by decide)
  · exact (counts_bare c).region (by decide)

/-- Counting what the application read. -/
theorem afterRead_spec (c : LeaseContext) (n : Nat) (eof : Bool) :
    Region c n (c.afterRead n eof) := by
  have hstays : c.retired = true ∨ n = 0 → Counts c c n := by
    rintro (hret | rfl)
    · refine ⟨rfl, fun h => ?_, rfl, rfl, rfl, rfl, rfl, id, id⟩
      rw [hret] at h
      cases h
    · exact .refl c
  have hcounted : Counts c { c with rxBytes := c.rxBytes + wrap n } n :=
    ⟨rfl, fun _ => rfl, rfl, rfl, rfl, rfl, rfl, id, id⟩
  unfold afterRead
  dsimp only
  by_cases hret : c.retired = true
  · rw [if_pos hret]
    exact (hstays (.inl hret)).region (by decide)
  rw [if_neg hret]
  by_cases hn : 0 < n
  · rw [if_pos hn]
    split
    · exact hcounted.region (by decide)
    · split
      · split_ifs
        · exact hcounted.region (by decide)
        · exact hcounted.region (by decide)
        · exact hcounted.region (by decide)
      · exact hcounted.region (by decide)
  · rw [if_neg hn]
    have hzero : n = 0 := by omega
    split_ifs
    · exact (hstays (.inr hzero)).region (by decide)
    · exact (hstays (.inr hzero)).region (by decide)

/-- The observer takes the read half. -/
theorem observeStart_spec {c c' : LeaseContext} {todo : List Todo}
    (h : c.observeStart = (some c', todo)) : Region c 0 (c', todo) := by
  have htaken : Counts c { c with read := false } 0 :=
    ⟨rfl, fun _ => add_wrap_zero _, rfl, rfl, rfl, rfl, rfl, id, id⟩
  unfold observeStart at h
  split_ifs at h
  · cases h
  · cases h
    exact htaken.region (by decide)
  · cases h

theorem observeStart_none {c : LeaseContext} {todo : List Todo}
    (h : c.observeStart = (none, todo)) : Region c 0 (c, todo) := by
  unfold observeStart at h
  split_ifs at h
  · cases h
    exact (Counts.refl c).region (by decide)
  · cases h
  · cases h
    exact (Counts.refl c).region (by decide)

/-- The observer puts the read half back and counts what it read. -/
theorem observeEnd_spec (c : LeaseContext) (result : ObservedRead) :
    Region c result.bytes (c.observeEnd result) := by
  have hcounted : Counts c { c with read := true, rxBytes := c.rxBytes + wrap result.bytes }
      result.bytes := ⟨rfl, fun _ => rfl, rfl, rfl, rfl, rfl, rfl, id, id⟩
  unfold observeEnd
  dsimp only
  by_cases hret : c.retired = true
  · have hback : Counts c { c with read := true } result.bytes := by
      refine ⟨rfl, fun h => ?_, rfl, rfl, rfl, rfl, rfl, id, id⟩
      rw [hret] at h
      cases h
    rw [if_pos hret]
    exact hback.region (by decide)
  rw [if_neg hret]
  split
  · exact hcounted.region (by decide)
  · split
    · exact hcounted.region (by decide)
    · split
      · split_ifs
        · exact hcounted.region (by decide)
        · exact hcounted.region (by decide)
        · exact hcounted.region (by decide)
      · split_ifs
        · exact hcounted.region (by decide)
        · exact hcounted.region (by decide)

/-- A region that learns of the other end: totals in `fins`, and `ReadDone` only if `done`. -/
structure Learns (c c' : LeaseContext) (fins : U64 → Prop) (done : Prop) : Prop where
  tx : c'.txBytes = c.txBytes
  rx : c'.rxBytes = c.rxBytes
  final : ∀ v, c'.peerFinalTxBytes = some v → c.peerFinalTxBytes = some v ∨ fins v
  held : c'.pendingPeerReadDoneFinalRxBytes.isSome →
    c.pendingPeerReadDoneFinalRxBytes.isSome ∨ done
  finSent : c'.localWriteFinSent = c.localWriteFinSent
  doneSent : c'.localReadDoneSent = c.localReadDoneSent
  done : c'.peerReadDoneReceived = true → c.peerReadDoneReceived = true ∨ done
  kept : c.peerReadDoneReceived = true → c'.peerReadDoneReceived = true
  released : c'.writeReleased = c.writeReleased
  retired : c'.retired = c.retired

theorem Learns.refl (c : LeaseContext) (fins : U64 → Prop) (done : Prop) : Learns c c fins done :=
  ⟨rfl, rfl, fun _ h => .inl h, .inl, rfl, rfl, .inl, id, rfl, rfl⟩

theorem Learns.trans {c c' c'' : LeaseContext} {fins : U64 → Prop} {done : Prop}
    (h : Learns c c' fins done) (h' : Learns c' c'' fins done) : Learns c c'' fins done where
  tx := h'.tx.trans h.tx
  rx := h'.rx.trans h.rx
  final v hv := (h'.final v hv).elim (h.final v) .inr
  held hv := (h'.held hv).elim h.held .inr
  finSent := h'.finSent.trans h.finSent
  doneSent := h'.doneSent.trans h.doneSent
  done hv := (h'.done hv).elim h.done .inr
  kept hv := h'.kept (h.kept hv)
  released := h'.released.trans h.released
  retired := h'.retired.trans h.retired

theorem receiveWriteFin_learns (c : LeaseContext) {v : U64} {fins : U64 → Prop} {done : Prop}
    (hv : fins v) : Learns c (c.receiveWriteFin v).1 fins done := by
  have hset : Learns c { c with peerWriteFinReceived := true, peerFinalTxBytes := some v } fins
      done := by
    refine ⟨rfl, rfl, fun w hw => .inr ?_, .inl, rfl, rfl, .inl, id, rfl, rfl⟩
    cases hw
    exact hv
  unfold receiveWriteFin
  dsimp only
  split_ifs
  · exact hset
  · exact hset

theorem holdReadDone_learns (c : LeaseContext) (v : U64) {fins : U64 → Prop} {done : Prop}
    (hdone : done) : Learns c { c with pendingPeerReadDoneFinalRxBytes := some v } fins done :=
  ⟨rfl, rfl, fun _ h => .inl h, fun _ => .inr hdone, rfl, rfl, .inl, id, rfl, rfl⟩

theorem handleWriteFin_spec (c : LeaseContext) (fin : WriteFin) :
    Learns c (c.handleWriteFin fin).1 (· = fin.finalTxBytes) False ∧
      .sendWriteFin ∉ (c.handleWriteFin fin).2 ∧ .settle ∉ (c.handleWriteFin fin).2 := by
  have hrefl := Learns.refl c (· = fin.finalTxBytes) False
  have hset : Learns c (c.receiveWriteFin fin.finalTxBytes).1 (· = fin.finalTxBytes) False :=
    c.receiveWriteFin_learns rfl
  unfold handleWriteFin
  split_ifs
  · exact ⟨hrefl, by simp⟩
  · exact ⟨hrefl, by simp⟩
  · exact ⟨hrefl, by simp⟩
  · exact ⟨hrefl, by simp⟩
  · exact ⟨hrefl, by simp⟩
  · dsimp only
    split_ifs
    · exact ⟨hset, by simp⟩
    · exact ⟨hset, by simp⟩
    · exact ⟨hset, by simp⟩

theorem handleReadDone_spec (c : LeaseContext) (done : ReadDone) :
    Learns c (c.handleReadDone done).1 (fun _ => False) True ∧
      .sendWriteFin ∉ (c.handleReadDone done).2 ∧ .settle ∉ (c.handleReadDone done).2 := by
  have hrefl := Learns.refl c (fun _ => False) True
  have hdone : Learns c { c with peerReadDoneReceived := true } (fun _ => False) True :=
    ⟨rfl, rfl, fun _ h => .inl h, .inl, rfl, rfl, fun _ => .inr trivial, fun _ => rfl, rfl, rfl⟩
  unfold handleReadDone
  split_ifs
  · exact ⟨hrefl, by simp⟩
  · exact ⟨hrefl, by simp⟩
  · exact ⟨hrefl, by simp⟩
  · split
    · split_ifs
      · exact ⟨hrefl, by simp⟩
      · exact ⟨hrefl, by simp⟩
    · exact ⟨c.holdReadDone_learns _ trivial, by simp⟩
  · exact ⟨hrefl, by simp⟩
  · exact ⟨hdone, by simp⟩

/-- Commands that came early are learned when the lease is bound. -/
theorem absorb_learns (c : LeaseContext) (pendingFin : Option WriteFin)
    (pendingReadDone : Option ReadDone) (pendingDrain : PendingDrainFacts) {fins : U64 → Prop}
    {done : Prop} (hfin : ∀ fin, pendingFin = some fin → fins fin.finalTxBytes)
    (hdone : pendingReadDone.isSome → done)
    (hfin' : ∀ fin, pendingDrain.writeFin = some fin → fins fin.finalTxBytes)
    (hdone' : pendingDrain.readDone.isSome → done) :
    Learns c (c.absorb pendingFin pendingReadDone pendingDrain).1 fins done := by
  have hA : ∀ c : LeaseContext, Learns c (c.absorbFin pendingFin).1 fins done := by
    intro c
    unfold absorbFin
    split
    · split_ifs
      · exact c.receiveWriteFin_learns (hfin _ rfl)
      · exact .refl ..
    · exact .refl ..
  have hB : ∀ c : LeaseContext, Learns c (c.absorbDone pendingReadDone).1 fins done := by
    intro c
    unfold absorbDone
    split
    · split_ifs
      · exact c.holdReadDone_learns _ (hdone rfl)
      · exact .refl ..
    · exact .refl ..
  have hD : ∀ c : LeaseContext, Learns c (c.absorbDrainFin pendingDrain.writeFin).1 fins done := by
    intro c
    unfold absorbDrainFin
    split
    · rename_i fin heq
      split_ifs
      · exact .refl ..
      · exact c.receiveWriteFin_learns (hfin' fin heq)
    · exact .refl ..
  have hE : ∀ c : LeaseContext, Learns c (c.absorbDrainDone pendingDrain.readDone).1 fins done := by
    intro c
    unfold absorbDrainDone
    split
    · rename_i d heq
      split_ifs
      · exact .refl ..
      · exact c.holdReadDone_learns _ (hdone' (by simp [heq]))
    · exact .refl ..
  exact (((hA c).trans (hB _)).trans (hD _)).trans (hE _)

end LeaseContext

/-! ## What is known of the other end -/

namespace Side

/-- A total of a `WriteFin` that is on its way to `x` or was received. -/
inductive Final (x : Side) (v : U64) : Prop
  | inbox (fin : WriteFin) (h : .writeFin fin ∈ x.inbox) (hv : fin.finalTxBytes = v)
  | handling (fin : WriteFin) (h : x.handling = some (.writeFin fin)) (hv : fin.finalTxBytes = v)
  | pending (fin : WriteFin) (h : x.pendingFin = some fin) (hv : fin.finalTxBytes = v)
  | early (fin : WriteFin) (h : x.pendingDrain.writeFin = some fin) (hv : fin.finalTxBytes = v)
  | lease (h : x.lease.peerFinalTxBytes = some v)

/-- A `ReadDone` is on its way to `x` or was received. -/
inductive Done (x : Side) : Prop
  | inbox (done : ReadDone) (h : .readDone done ∈ x.inbox)
  | handling (done : ReadDone) (h : x.handling = some (.readDone done))
  | pending (h : x.pendingReadDone.isSome)
  | early (h : x.pendingDrain.readDone.isSome)
  | held (h : x.lease.pendingPeerReadDoneFinalRxBytes.isSome)
  | lease (h : x.lease.peerReadDoneReceived = true)

theorem Final.same {x' : Side} {v : U64} (h : x'.Final v) (x : Side) (hi : x'.inbox = x.inbox)
    (hh : x'.handling = x.handling) (hp : x'.pendingFin = x.pendingFin)
    (hd : x'.pendingDrain = x.pendingDrain)
    (hl : x'.lease.peerFinalTxBytes = x.lease.peerFinalTxBytes) : x.Final v := by
  rcases h with ⟨f, hm, hv⟩ | ⟨f, hm, hv⟩ | ⟨f, hm, hv⟩ | ⟨f, hm, hv⟩ | hm
  · exact .inbox f (hi ▸ hm) hv
  · exact .handling f (hh ▸ hm) hv
  · exact .pending f (hp ▸ hm) hv
  · exact .early f (hd ▸ hm) hv
  · exact .lease (hl ▸ hm)

theorem Done.same {x' : Side} (h : x'.Done) (x : Side) (hi : x'.inbox = x.inbox)
    (hh : x'.handling = x.handling) (hp : x'.pendingReadDone = x.pendingReadDone)
    (hd : x'.pendingDrain = x.pendingDrain)
    (hheld : x'.lease.pendingPeerReadDoneFinalRxBytes = x.lease.pendingPeerReadDoneFinalRxBytes)
    (hl : x'.lease.peerReadDoneReceived = x.lease.peerReadDoneReceived) : x.Done := by
  rcases h with ⟨d, hm⟩ | ⟨d, hm⟩ | hm | hm | hm | hm
  · exact .inbox d (hi ▸ hm)
  · exact .handling d (hh ▸ hm)
  · exact .pending (hp ▸ hm)
  · exact .early (hd ▸ hm)
  · exact .held (hheld ▸ hm)
  · exact .lease (hl ▸ hm)

/-- What an end has to keep by itself. -/
structure Sound (x : Side) : Prop where
  warrants : x.lease.Warrants x.todo
  idle : x.state = .idle → x.lease.Settled
  claiming : ∀ c, x.state = .claiming c → x.opened = false
  closed : x.opened = false → (∃ c, x.state = .claiming c) ∨ x.state = .retired
  unused : x.opened = false → x.lease.txBytes = 0 ∧ x.lease.rxBytes = 0 ∧
    x.lease.localWriteFinSent = false ∧ x.lease.localReadDoneSent = false ∧
    x.lease.peerReadDoneReceived = false ∧ x.lease.writeReleased = false ∧
    x.lease.retired = false ∧ x.reading = none ∧ x.todo = []
  frozen : x.lease.localWriteFinSent = true → x.lease.writeReleased = true

/-- As a writer, `x` writes nothing and announces nothing. -/
structure Still (x x' : Side) : Prop where
  written : x'.written = x.written
  tx : x'.lease.txBytes = x.lease.txBytes
  finSent : x'.lease.localWriteFinSent = x.lease.localWriteFinSent
  done : x'.Done → x.Done
  outbox : ∀ fin, .writeFin fin ∈ x'.outbox → .writeFin fin ∈ x.outbox

/-- As a reader, `x` announces nothing; it may take bytes from the stream and count them. -/
structure Takes (x x' : Side) : Prop where
  data : ∃ d, x.incoming = d ++ x'.incoming ∧ x'.consumed = x.consumed ++ d ∧
    (x'.lease.retired = false → x'.lease.rxBytes + wrap x'.uncounted.length =
      x.lease.rxBytes + wrap x.uncounted.length + wrap d.length)
  space : x'.incoming.length + x'.uncounted.length ≤ x.incoming.length + x.uncounted.length
  doneSent : x'.lease.localReadDoneSent = x.lease.localReadDoneSent
  retired : x.lease.retired = true → x'.lease.retired = true
  final : ∀ v, x'.Final v → x.Final v
  outbox : ∀ done, .readDone done ∈ x'.outbox → .readDone done ∈ x.outbox

end Side

/-- The direction from `x` to `y`. -/
structure Flow (x y : Side) : Prop where
  stream : x.written = y.consumed ++ y.incoming
  tx : x.lease.txBytes = wrap x.written.length
  rx : y.lease.retired = false →
    y.lease.rxBytes + wrap y.uncounted.length = wrap y.consumed.length
  space : y.incoming.length + y.uncounted.length < 2 ^ 64
  final : ∀ v, y.Final v → x.lease.localWriteFinSent = true ∧ v = x.lease.txBytes
  sentFinal : ∀ fin, .writeFin fin ∈ x.outbox →
    x.lease.localWriteFinSent = true ∧ fin.finalTxBytes = x.lease.txBytes
  drained : y.lease.localReadDoneSent = true →
    x.lease.localWriteFinSent = true ∧ y.incoming = [] ∧ y.uncounted = []
  done : x.Done → y.lease.localReadDoneSent = true
  sentDone : ∀ done, .readDone done ∈ y.outbox → y.lease.localReadDoneSent = true

namespace Flow

variable {x x' y y' : Side}

/-- The writer does something else. -/
theorem still (h : Flow x y) (hw : x.Still x') : Flow x' y where
  stream := hw.written.trans h.stream
  tx := by rw [hw.tx, hw.written, h.tx]
  rx := h.rx
  space := h.space
  final v hv := by
    rw [hw.finSent, hw.tx]
    exact h.final v hv
  sentFinal fin hm := by
    rw [hw.finSent, hw.tx]
    exact h.sentFinal fin (hw.outbox fin hm)
  drained hd := by
    rw [hw.finSent]
    exact h.drained hd
  done hd := h.done (hw.done hd)
  sentDone := h.sentDone

/-- The reader takes bytes, or does something else. -/
theorem takes (h : Flow x y) (hr : y.Takes y') : Flow x y' := by
  obtain ⟨d, hin, hout, hrx⟩ := hr.data
  have hspace := hr.space
  refine ⟨?_, h.tx, ?_, lt_of_le_of_lt hspace h.space, ?_, h.sentFinal, ?_, ?_, ?_⟩
  · rw [h.stream, hin, hout, List.append_assoc]
  · intro hret
    have hold : y.lease.retired = false := by
      by_contra hne
      rw [hr.retired (by simpa using hne)] at hret
      cases hret
    rw [hrx hret, h.rx hold, wrap_add, hout, List.length_append]
  · intro v hv
    exact h.final v (hr.final v hv)
  · intro hd
    rw [hr.doneSent] at hd
    obtain ⟨hfin, hempty, hnone⟩ := h.drained hd
    rw [hempty, hnone, List.length_nil] at hspace
    have hin' : y'.incoming = [] := List.eq_nil_of_length_eq_zero (by omega)
    have hun' : y'.uncounted = [] := List.eq_nil_of_length_eq_zero (by omega)
    exact ⟨hfin, hin', hun'⟩
  · intro hd
    rw [hr.doneSent]
    exact h.done hd
  · intro done hm
    rw [hr.doneSent]
    exact h.sentDone done (hr.outbox done hm)

/-- **The reader says that it is done only when nothing is in flight.** -/
theorem drained_of_final (h : Flow x y) (hret : y.lease.retired = false)
    (hfinal : y.lease.peerFinalTxBytes = some y.lease.rxBytes) :
    x.lease.localWriteFinSent = true ∧ y.incoming = [] ∧ y.uncounted = [] := by
  obtain ⟨hsent, htx⟩ := h.final _ (.lease hfinal)
  have hrx := h.rx hret
  rw [htx, h.tx, h.stream, List.length_append, wrap_add, Nat.add_assoc] at hrx
  have hzero := eq_of_wrap hrx.symm h.space
  exact ⟨hsent, List.eq_nil_of_length_eq_zero (by omega),
    List.eq_nil_of_length_eq_zero (by omega)⟩

end Flow

/-! ## The steps -/

/-- The invariant of the two ends. -/
structure Paired (x y : Side) : Prop where
  left : x.Sound
  right : y.Sound
  out : Flow x y
  back : Flow y x

theorem Paired.symm {x y : Side} (h : Paired x y) : Paired y x := ⟨h.right, h.left, h.back, h.out⟩

/-- A step of one end that announces nothing. -/
theorem Paired.calm {x x' y : Side} (h : Paired x y) (hs : x'.Sound) (hw : x.Still x')
    (hr : x.Takes x') : Paired x' y := ⟨hs, h.right, h.out.still hw, h.back.takes hr⟩

namespace Side

variable {x x' : Side}

theorem Settled.mono {c c' : LeaseContext} (h : c.Settled)
    (hsent : c'.localReadDoneSent = c.localReadDoneSent)
    (hkept : c.peerReadDoneReceived = true → c'.peerReadDoneReceived = true) : c'.Settled :=
  ⟨hsent.trans h.1, hkept h.2⟩

/-- A region of the lease. -/
theorem Sound.update (hs : x.Sound) (ho : x.opened = true) {r : LeaseContext × List Todo}
    (hsent : r.1.localWriteFinSent = x.lease.localWriteFinSent)
    (hrel : x.lease.writeReleased = true → r.1.writeReleased = true)
    (hmono : x.lease.Settled → r.1.Settled) (hw : r.1.Warrants r.2) : (x.region r).Sound := by
  have hopen : ∀ {P : Prop}, (x.region r).opened = false → P := by
    intro P hclosed
    rw [show x.opened = false from hclosed] at ho
    cases ho
  refine ⟨⟨?_, ?_⟩, fun hi => hmono (hs.idle hi), hs.claiming, hopen, hopen, ?_⟩
  · intro hm
    rcases List.mem_append.mp hm with hold | hnew
    · exact hrel (hs.warrants.1 hold)
    · exact hw.1 hnew
  · intro hm
    rcases List.mem_append.mp hm with hold | hnew
    · exact hmono (hs.warrants.2 hold)
    · exact hw.2 hnew
  · intro hfin
    exact hrel (hs.frozen (hsent.symm.trans hfin))

theorem Sound.counts (hs : x.Sound) (ho : x.opened = true) {n : Nat}
    {r : LeaseContext × List Todo} (h : x.lease.Region n r) : (x.region r).Sound :=
  hs.update ho h.1.finSent h.1.released
    (fun hset => Settled.mono hset h.1.doneSent fun hd => h.1.done.trans hd) h.2

theorem Sound.learns (hs : x.Sound) (ho : x.opened = true) {r : LeaseContext × List Todo}
    {fins : U64 → Prop} {done : Prop} (h : x.lease.Learns r.1 fins done)
    (hplain : .sendWriteFin ∉ r.2 ∧ .settle ∉ r.2) : (x.region r).Sound :=
  hs.update ho h.finSent (fun hrel => h.released.trans hrel)
    (fun hset => Settled.mono hset h.doneSent h.kept)
    ⟨fun hm => absurd hm hplain.1, fun hm => absurd hm hplain.2⟩

theorem mem_bindTodo {early auto retire send : Bool} :
    .sendWriteFin ∈ bindTodo early auto retire send ↔ auto = true := by
  cases early <;> cases auto <;> cases retire <;> cases send <;> decide

theorem settle_not_mem_bindTodo {early auto retire send : Bool} :
    .settle ∉ bindTodo early auto retire send := by
  cases early <;> cases auto <;> cases retire <;> cases send <;> decide

/-- An end that has a lease may be reading anything. -/
theorem Sound.reading (hs : x.Sound) (ho : x.opened = true) (reading : Option (List U8))
    (incoming consumed : List U8) :
    ({ x with reading := reading, incoming := incoming, consumed := consumed } : Side).Sound := by
  refine ⟨hs.warrants, hs.idle, hs.claiming, hs.closed, fun hclosed => ?_, hs.frozen⟩
  rw [show x.opened = false from hclosed] at ho
  cases ho

/-- The commands that wait or are on their way are the same, or some are forgotten. -/
structure Framed (x x' : Side) : Prop where
  written : x'.written = x.written
  inbox : x'.inbox = x.inbox
  handling : x'.handling = x.handling
  pendingFin : x'.pendingFin = x.pendingFin
  pendingReadDone : x'.pendingReadDone = x.pendingReadDone
  pendingDrain : x'.pendingDrain = x.pendingDrain ∨ x'.pendingDrain = ⟨none, none⟩
  outbox : x'.outbox = x.outbox

theorem Framed.still (hf : Framed x x') {n : Nat} (hc : x.lease.Counts x'.lease n) :
    x.Still x' where
  written := hf.written
  tx := hc.tx
  finSent := hc.finSent
  outbox fin hm := hf.outbox ▸ hm
  done hd := by
    rcases hd with ⟨d, hm⟩ | ⟨d, hh⟩ | hp | he | hheld | hl
    · exact .inbox d (hf.inbox ▸ hm)
    · exact .handling d (hf.handling ▸ hh)
    · exact .pending (hf.pendingReadDone ▸ hp)
    · rcases hf.pendingDrain with heq | heq
      · exact .early (heq ▸ he)
      · rw [heq] at he
        cases he
    · exact .held (hc.held ▸ hheld)
    · exact .lease (hc.done ▸ hl)

theorem Framed.takes (hf : Framed x x') {n : Nat} (hc : x.lease.Counts x'.lease n) {d : List U8}
    (hin : x.incoming = d ++ x'.incoming) (hout : x'.consumed = x.consumed ++ d)
    (hlen : x'.uncounted.length + n = x.uncounted.length + d.length) : x.Takes x' where
  data := by
    refine ⟨d, hin, hout, fun hret => ?_⟩
    rw [hc.rx hret, add_wrap_add, add_wrap_add, Nat.add_comm n, hlen]
  space := by
    rw [hin, List.length_append]
    omega
  doneSent := hc.doneSent
  retired := hc.retired
  outbox done hm := hf.outbox ▸ hm
  final v hv := by
    rcases hv with ⟨f, hm, hv⟩ | ⟨f, hh, hv⟩ | ⟨f, hp, hv⟩ | ⟨f, he, hv⟩ | hl
    · exact .inbox f (hf.inbox ▸ hm) hv
    · exact .handling f (hf.handling ▸ hh) hv
    · exact .pending f (hf.pendingFin ▸ hp) hv
    · rcases hf.pendingDrain with heq | heq
      · exact .early f (heq ▸ he) hv
      · rw [heq] at he
        cases he
    · exact .lease (hc.final ▸ hl)

/-- Nothing is taken from the stream. -/
theorem Framed.takes_nothing (hf : Framed x x') {n : Nat} (hc : x.lease.Counts x'.lease n)
    (hin : x'.incoming = x.incoming) (hout : x'.consumed = x.consumed)
    (hlen : x'.uncounted.length + n = x.uncounted.length) : x.Takes x' :=
  hf.takes hc (d := []) (by simp [hin]) (by simp [hout]) (by simpa using hlen)

end Side

namespace Paired

variable {x y : Side}

open Side

/-- A region of the lease that counts nothing. -/
theorem region (h : Paired x y) (ho : x.opened = true) {r : LeaseContext × List Todo}
    (hr : x.lease.Region 0 r) : Paired (x.region r) y := by
  have hf : Framed x (x.region r) := ⟨rfl, rfl, rfl, rfl, rfl, .inl rfl, rfl⟩
  exact h.calm (h.left.counts ho hr) (hf.still hr.1) (hf.takes_nothing hr.1 rfl rfl rfl)

/-- A region that only leaves something to do. -/
theorem later (h : Paired x y) (ho : x.opened = true) (todo : List Todo)
    (hplain : .sendWriteFin ∉ todo ∧ .settle ∉ todo) : Paired (x.region (x.lease, todo)) y :=
  h.region ho ((LeaseContext.Counts.refl _).region hplain)

/-- The state of the entry changes, but not to `Idle` or `Claiming`. -/
theorem entry (h : Paired x y) {state : DataConnEntryState Unit} {pendingDrain : PendingDrainFacts}
    (hidle : state = .idle → x.lease.Settled) (hclaim : ∀ c, state ≠ .claiming c)
    (hclosed : x.opened = false → state = .retired)
    (hdrain : pendingDrain = x.pendingDrain ∨ pendingDrain = ⟨none, none⟩) :
    Paired { x with state := state, pendingDrain := pendingDrain } y := by
  have hf : Framed x { x with state := state, pendingDrain := pendingDrain } :=
    ⟨rfl, rfl, rfl, rfl, rfl, hdrain, rfl⟩
  have hc := LeaseContext.Counts.refl x.lease
  refine h.calm ?_ (hf.still hc) (hf.takes_nothing hc rfl rfl rfl)
  exact ⟨h.left.warrants, hidle, fun c hs => absurd hs (hclaim c),
    fun ho => .inr (hclosed ho), h.left.unused, h.left.frozen⟩

theorem retirePlainEntry (h : Paired x y) : Paired x.retirePlainEntry y :=
  h.entry (by simp) (by simp) (fun _ => rfl) (.inr rfl)

/-- Nobody reads. -/
theorem uncounted_eq_nil {b : Bool} (h : ¬ (b || x.reading.isSome) = true) : x.uncounted = [] := by
  simp only [Bool.or_eq_true, not_or, Bool.not_eq_true, Option.isSome_eq_false_iff,
    Option.isNone_iff_eq_none] at h
  rw [Side.uncounted, h.2]
  rfl

/-- `poll_read`. -/
theorem pollRead (h : Paired x y) (ho : x.opened = true) (n : Nat) : Paired (x.pollRead n) y := by
  unfold Side.pollRead
  split_ifs with hbusy hread
  · exact h
  · exact h.later ho [.retire] (by decide)
  · have hidle := uncounted_eq_nil hbusy
    have hc := LeaseContext.Counts.refl x.lease
    refine h.calm ?_ (Framed.still ⟨rfl, rfl, rfl, rfl, rfl, .inl rfl, rfl⟩ hc)
      (Framed.takes ⟨rfl, rfl, rfl, rfl, rfl, .inl rfl, rfl⟩ hc (List.take_append_drop n _).symm
        rfl ?_)
    · exact h.left.reading ho _ _ _
    · rw [hidle]
      simp [Side.uncounted]

/-- `after_read`. -/
theorem counted (h : Paired x y) (ho : x.opened = true) : Paired x.counted y := by
  unfold Side.counted
  split_ifs
  · exact h
  · split
    · rename_i data hdata
      have hr := x.lease.afterRead_spec data.length data.isEmpty
      have hf : Framed x ({ x with reading := none }.region
          (x.lease.afterRead data.length data.isEmpty)) :=
        ⟨rfl, rfl, rfl, rfl, rfl, .inl rfl, rfl⟩
      have hidle : ({ x with reading := none } : Side).Sound := h.left.reading ho none _ _
      refine h.calm (hidle.counts ho hr) (hf.still hr.1) (hf.takes_nothing hr.1 rfl rfl ?_)
      rw [Side.uncounted, Side.uncounted, hdata]
      simp [Side.region]
    · exact h

/-- The observer takes the read half. -/
theorem observe (h : Paired x y) (ho : x.opened = true) : Paired x.observe y := by
  unfold Side.observe
  split_ifs with hbusy
  · exact h
  · have hidle := uncounted_eq_nil hbusy
    split
    · rename_i lease todo heq
      have hr := LeaseContext.observeStart_spec heq
      have hf : Framed x { x.region (lease, todo) with reading := some [] } :=
        ⟨rfl, rfl, rfl, rfl, rfl, .inl rfl, rfl⟩
      refine h.calm ?_ (hf.still hr.1) (hf.takes_nothing hr.1 rfl rfl ?_)
      · exact (h.left.counts ho hr).reading ho _ _ _
      · rw [hidle]
        rfl
    · rename_i todo heq
      exact h.region ho (LeaseContext.observeStart_none heq)

/-- The observer counts what it read. -/
theorem observed (h : Paired x y) (ho : x.opened = true) (result : ObservedRead) :
    Paired (x.observed result) y := by
  unfold Side.observed
  split_ifs
  · exact h
  · split
    · rename_i n hreading
      have hbytes : (if (x.incoming.take n).isEmpty then ObservedRead.eof
          else .data (x.incoming.take n).length).bytes = (x.incoming.take n).length := by
        cases x.incoming.take n with
        | nil => rfl
        | cons b bs => rfl
      have hr := x.lease.observeEnd_spec (if (x.incoming.take n).isEmpty then .eof
        else .data (x.incoming.take n).length)
      refine h.calm ((h.left.reading ho none _ _).counts ho hr)
        (Framed.still ⟨rfl, rfl, rfl, rfl, rfl, .inl rfl, rfl⟩ hr.1)
        (Framed.takes ⟨rfl, rfl, rfl, rfl, rfl, .inl rfl, rfl⟩ hr.1
          (List.take_append_drop n _).symm rfl ?_)
      rw [hbytes]
      simp [Side.uncounted, Side.region, hreading]
    · rename_i other _ _ hreading hdata
      have hr := x.lease.observeEnd_spec other
      have hbytes : other.bytes = 0 := by
        cases other with
        | data n => exact absurd rfl (hdata n)
        | eof => rfl
        | failed => rfl
        | timeout => rfl
      refine h.calm ((h.left.reading ho none _ _).counts ho hr)
        (Framed.still ⟨rfl, rfl, rfl, rfl, rfl, .inl rfl, rfl⟩ hr.1)
        (Framed.takes_nothing ⟨rfl, rfl, rfl, rfl, rfl, .inl rfl, rfl⟩ hr.1 rfl rfl ?_)
      rw [hbytes]
      simp [Side.uncounted, Side.region, hreading]
    · exact h

/-- A step after which an end knows nothing new. -/
theorem known (h : Paired x y) {x' : Side} (hs : x'.Sound)
    (htx : x'.lease.txBytes = x.lease.txBytes) (hrx : x'.lease.rxBytes = x.lease.rxBytes)
    (hfin : x'.lease.localWriteFinSent = x.lease.localWriteFinSent)
    (hsent : x'.lease.localReadDoneSent = x.lease.localReadDoneSent)
    (hret : x'.lease.retired = x.lease.retired) (hin : x'.incoming = x.incoming)
    (hout : x'.consumed = x.consumed) (hread : x'.reading = x.reading)
    (hwritten : x'.written = x.written) (hbox : x'.outbox = x.outbox)
    (hfinal : ∀ v, x'.Final v → x.Final v) (hdone : x'.Done → x.Done) : Paired x' y := by
  have hun : x'.uncounted = x.uncounted := by rw [Side.uncounted, hread, Side.uncounted]
  refine h.calm hs ⟨hwritten, htx, hfin, hdone, fun fin hm => hbox ▸ hm⟩
    ⟨⟨[], by simp [hin], by simp [hout], fun _ => ?_⟩, ?_, hsent, fun hr => hret.trans hr, hfinal,
      fun d hm => hbox ▸ hm⟩
  · rw [hrx, hun, List.length_nil, ← LeaseContext.add_wrap_zero]
  · rw [hin, hun]

/-- The regions of the handlers that follow the lookup of the lease. -/
theorem handle (h : Paired x y) (ho : x.opened = true) : Paired x.handle y := by
  have hfree : ({ x with handling := none } : Side).Sound :=
    ⟨h.left.warrants, h.left.idle, h.left.claiming, h.left.closed, h.left.unused, h.left.frozen⟩
  unfold Side.handle
  split
  · rename_i fin hfin
    obtain ⟨hl, hplain⟩ := x.lease.handleWriteFin_spec fin
    refine h.known (hfree.learns ho hl hplain) hl.tx hl.rx hl.finSent hl.doneSent hl.retired rfl rfl
      rfl rfl rfl ?_ ?_
    · rintro v (⟨f, hm, hv⟩ | ⟨f, hh, hv⟩ | ⟨f, hp, hv⟩ | ⟨f, he, hv⟩ | hlease)
      · exact .inbox f hm hv
      · cases hh
      · exact .pending f hp hv
      · exact .early f he hv
      · exact (hl.final v hlease).elim .lease fun hv => .handling fin hfin hv.symm
    · rintro (⟨d, hm⟩ | ⟨d, hh⟩ | hp | he | hheld | hrec)
      · exact .inbox d hm
      · cases hh
      · exact .pending hp
      · exact .early he
      · exact (hl.held hheld).elim .held False.elim
      · exact (hl.done hrec).elim .lease False.elim
  · rename_i done hdone
    obtain ⟨hl, hplain⟩ := x.lease.handleReadDone_spec done
    refine h.known (hfree.learns ho hl hplain) hl.tx hl.rx hl.finSent hl.doneSent hl.retired rfl rfl
      rfl rfl rfl ?_ fun _ => .handling done hdone
    rintro v (⟨f, hm, hv⟩ | ⟨f, hh, hv⟩ | ⟨f, hp, hv⟩ | ⟨f, he, hv⟩ | hlease)
    · exact .inbox f hm hv
    · cases hh
    · exact .pending f hp hv
    · exact .early f he hv
    · exact (hl.final v hlease).elim .lease False.elim
  · exact h

/-- The initiator binds the lease. -/
theorem bind (h : Paired x y) : Paired x.bind y := by
  unfold Side.bind
  split
  · rename_i c hclaim
    dsimp only
    have hclosed := h.left.claiming c hclaim
    obtain ⟨htx, hrx, hfin, hsent, hrec, hrel, hret, -, htodo⟩ := h.left.unused hclosed
    have hfresh : x.lease.Learns
        (.new x.lease.connId c.leaseSeq c.channelId c.kind c.purpose true) x.Final x.Done := by
      refine ⟨htx.symm, hrx.symm, fun v hv => ?_, fun hv => ?_, hfin.symm, hsent.symm, fun hv => ?_,
        fun hv => ?_, ?_, hret.symm⟩
      · cases hv
      · cases hv
      · cases hv
      · rw [hrec] at hv
        cases hv
      · rw [hrel]
        simp [LeaseContext.new]
    have hl := hfresh.trans (LeaseContext.absorb_learns _ x.pendingFin x.pendingReadDone
      x.pendingDrain (fun fin hf => .pending fin hf rfl) .pending
      (fun fin hf => .early fin hf rfl) .early)
    refine h.known ?_ hl.tx hl.rx hl.finSent hl.doneSent hl.retired rfl rfl rfl rfl rfl ?_ ?_
    · refine ⟨⟨fun hm => ?_, fun hm => ?_⟩, by simp, by simp, by simp, by simp, fun hm => ?_⟩
      · rw [htodo, List.nil_append, mem_bindTodo] at hm
        simp [LeaseContext.autoWriteFinZero, LeaseContext.new] at hm
      · rw [htodo, List.nil_append] at hm
        exact absurd hm settle_not_mem_bindTodo
      · rw [hl.finSent, hfin] at hm
        cases hm
    · rintro v (⟨f, hm, hv⟩ | ⟨f, hh, hv⟩ | ⟨f, hp, hv⟩ | ⟨f, he, hv⟩ | hlease)
      · exact .inbox f hm hv
      · exact .handling f hh hv
      · cases hp
      · cases he
      · exact (hl.final v hlease).elim .lease id
    · rintro (⟨d, hm⟩ | ⟨d, hh⟩ | hp | he | hheld | hlease)
      · exact .inbox d hm
      · exact .handling d hh
      · cases hp
      · cases he
      · exact (hl.held hheld).elim .held id
      · exact (hl.done hlease).elim .lease id
  · exact h

end Paired

/-! ## Commands that arrive -/

namespace Side

/-- What the arrival of `cmd` can change. -/
structure Keeps (cmd : DrainCmd) (x x' : Side) : Prop where
  state : x'.state = x.state ∨ x'.state = .retired
  pendingFin : ∀ f, x'.pendingFin = some f → x.pendingFin = some f ∨ cmd = .writeFin f
  pendingReadDone : x'.pendingReadDone.isSome → x.pendingReadDone.isSome ∨ ∃ d, cmd = .readDone d
  drainFin : ∀ f, x'.pendingDrain.writeFin = some f →
    x.pendingDrain.writeFin = some f ∨ cmd = .writeFin f
  drainDone : x'.pendingDrain.readDone.isSome →
    x.pendingDrain.readDone.isSome ∨ ∃ d, cmd = .readDone d
  handling : ∀ c, x'.handling = some c → x.handling = some c ∨ c = cmd
  rest : x'.opened = x.opened ∧ x'.lease = x.lease ∧ x'.todo = x.todo ∧ x'.outbox = x.outbox ∧
    x'.reading = x.reading ∧ x'.inbox = x.inbox ∧ x'.incoming = x.incoming ∧
    x'.written = x.written ∧ x'.consumed = x.consumed

variable {x : Side} {cmd : DrainCmd}

theorem Keeps.refl (cmd : DrainCmd) (x : Side) : x.Keeps cmd x :=
  ⟨.inl rfl, fun _ => .inl, .inl, fun _ => .inl, .inl, fun _ => .inl, rfl, rfl, rfl, rfl, rfl, rfl,
    rfl, rfl, rfl⟩

theorem retirePlainEntry_keeps (cmd : DrainCmd) (x : Side) : x.Keeps cmd x.retirePlainEntry where
  state := .inr rfl
  pendingFin _ := .inl
  pendingReadDone := .inl
  drainFin _ h := by cases h
  drainDone h := by cases h
  handling _ := .inl
  rest := ⟨rfl, rfl, rfl, rfl, rfl, rfl, rfl, rfl, rfl⟩

theorem Keeps.trans {x' x'' : Side} (h : x.Keeps cmd x') (h' : x'.Keeps cmd x'') :
    x.Keeps cmd x'' := by
  obtain ⟨h1, h2, h3, h4, h5, h6, h7, h8, h9⟩ := h.rest
  obtain ⟨g1, g2, g3, g4, g5, g6, g7, g8, g9⟩ := h'.rest
  refine ⟨?_, fun f hf => ?_, fun hf => ?_, fun f hf => ?_, fun hf => ?_, fun c hc => ?_,
    g1.trans h1, g2.trans h2, g3.trans h3, g4.trans h4, g5.trans h5, g6.trans h6, g7.trans h7,
    g8.trans h8, g9.trans h9⟩
  · rcases h'.state with hs | hs
    · rw [hs]
      exact h.state
    · exact .inr hs
  · exact (h'.pendingFin f hf).elim (h.pendingFin f) .inr
  · exact (h'.pendingReadDone hf).elim h.pendingReadDone .inr
  · exact (h'.drainFin f hf).elim (h.drainFin f) .inr
  · exact (h'.drainDone hf).elim h.drainDone .inr
  · exact (h'.handling c hc).elim (h.handling c) .inr

theorem keepFin_keeps (x : Side) (fin : WriteFin) : x.Keeps (.writeFin fin) (x.keepFin fin) := by
  unfold keepFin
  split
  · split_ifs
    · exact retirePlainEntry_keeps _ x
    · exact .refl _ x
  · refine ⟨.inl rfl, fun f hf => .inr ?_, .inl, fun _ => .inl, .inl, fun _ => .inl, rfl, rfl, rfl,
      rfl, rfl, rfl, rfl, rfl, rfl⟩
    cases hf
    rfl

theorem keepWriteFin_keeps (x : Side) (fin : WriteFin) :
    x.Keeps (.writeFin fin) (x.keepWriteFin fin) := by
  unfold keepWriteFin
  split
  · split_ifs
    · exact retirePlainEntry_keeps _ x
    · exact x.keepFin_keeps fin
  · have hfirst : x.Keeps (.writeFin fin)
        { x with pendingDrain := { x.pendingDrain with writeFin := some fin } } := by
      refine ⟨.inl rfl, fun _ => .inl, .inl, fun f hf => .inr ?_, .inl, fun _ => .inl, rfl, rfl, rfl,
        rfl, rfl, rfl, rfl, rfl, rfl⟩
      cases hf
      rfl
    exact hfirst.trans (keepFin_keeps _ fin)

theorem keepDone_keeps (x : Side) (done : ReadDone) :
    x.Keeps (.readDone done) (x.keepDone done) := by
  unfold keepDone
  split
  · split_ifs
    · exact retirePlainEntry_keeps _ x
    · exact .refl _ x
  · exact ⟨.inl rfl, fun _ => .inl, fun _ => .inr ⟨done, rfl⟩, fun _ => .inl, .inl, fun _ => .inl,
      rfl, rfl, rfl, rfl, rfl, rfl, rfl, rfl, rfl⟩

theorem keepReadDone_keeps (x : Side) (done : ReadDone) :
    x.Keeps (.readDone done) (x.keepReadDone done) := by
  unfold keepReadDone
  split
  · split_ifs
    · exact retirePlainEntry_keeps _ x
    · exact x.keepDone_keeps done
  · have hfirst : x.Keeps (.readDone done)
        { x with pendingDrain := { x.pendingDrain with readDone := some done } } :=
      ⟨.inl rfl, fun _ => .inl, .inl, fun _ => .inl, fun _ => .inr ⟨done, rfl⟩, fun _ => .inl, rfl,
        rfl, rfl, rfl, rfl, rfl, rfl, rfl, rfl⟩
    exact hfirst.trans (keepDone_keeps _ done)

theorem arrive_keeps (x : Side) (cmd : DrainCmd) : x.Keeps cmd (x.arrive cmd) := by
  have hhanded : x.Keeps cmd { x with handling := some cmd } := by
    refine ⟨.inl rfl, fun _ => .inl, .inl, fun _ => .inl, .inl, fun c hc => .inr ?_, rfl, rfl, rfl,
      rfl, rfl, rfl, rfl, rfl, rfl⟩
    cases hc
    rfl
  have hstale : ∀ seq : TcpLeaseSeq,
      x.Keeps cmd (if seq.gt x.committedLeaseSeq then x.retirePlainEntry else x) := by
    intro seq
    split_ifs
    · exact retirePlainEntry_keeps cmd x
    · exact .refl cmd x
  unfold arrive
  dsimp only
  split
  · exact hstale _
  · exact hstale _
  · exact hstale _
  · split_ifs
    · exact retirePlainEntry_keeps cmd x
    · cases cmd with
      | writeFin fin => exact x.keepWriteFin_keeps fin
      | readDone done => exact x.keepReadDone_keeps done
    · exact .refl cmd x
  · exact hhanded
  · exact hhanded

end Side

namespace Paired

variable {x y : Side}

open Side

/-- A command arrives: it is kept for the lease, handed to its handler, or retires the entry. -/
theorem arrive (h : Paired x y) {cmd : DrainCmd} {rest : List DrainCmd}
    (hbox : x.inbox = cmd :: rest) : Paired ({ x with inbox := rest }.arrive cmd) y := by
  obtain ⟨hstate, hfin, hdone, hdrainFin, hdrainDone, hhandling, hopened, hlease, htodo, houtbox,
    hreading, hinbox, hincoming, hwritten, hconsumed⟩ :=
    arrive_keeps { x with inbox := rest } cmd
  have hmem : cmd ∈ x.inbox := by rw [hbox]; exact List.mem_cons_self
  have hrest : ∀ c ∈ rest, c ∈ x.inbox := by
    intro c hc
    rw [hbox]
    exact List.mem_cons_of_mem _ hc
  have hs := h.left
  refine h.known ⟨?_, fun hi => ?_, fun c hc => ?_, fun hc => ?_, fun hc => ?_, ?_⟩
    (congrArg _ hlease) (congrArg _ hlease) (congrArg _ hlease) (congrArg _ hlease)
    (congrArg _ hlease) hincoming hconsumed hreading hwritten houtbox ?_ ?_
  · rw [hlease, htodo]
    exact hs.warrants
  · rw [hlease]
    rcases hstate with heq | heq
    · exact hs.idle (heq.symm.trans hi)
    · rw [heq] at hi
      cases hi
  · rw [hopened]
    rcases hstate with heq | heq
    · exact hs.claiming c (heq.symm.trans hc)
    · rw [heq] at hc
      cases hc
  · rw [hopened] at hc
    rcases hstate with heq | heq
    · rw [heq]
      exact hs.closed hc
    · exact .inr heq
  · rw [hopened] at hc
    rw [hlease, hreading, htodo]
    exact hs.unused hc
  · rw [hlease]
    exact hs.frozen
  · rintro v (⟨f, hm, hv⟩ | ⟨f, hh, hv⟩ | ⟨f, hp, hv⟩ | ⟨f, he, hv⟩ | hl)
    · rw [hinbox] at hm
      exact .inbox f (hrest _ hm) hv
    · rcases hhandling _ hh with hold | rfl
      · exact .handling f hold hv
      · exact .inbox f hmem hv
    · rcases hfin f hp with hold | rfl
      · exact .pending f hold hv
      · exact .inbox f hmem hv
    · rcases hdrainFin f he with hold | rfl
      · exact .early f hold hv
      · exact .inbox f hmem hv
    · rw [hlease] at hl
      exact .lease hl
  · rintro (⟨d, hm⟩ | ⟨d, hh⟩ | hp | he | hheld | hl)
    · rw [hinbox] at hm
      exact .inbox d (hrest _ hm)
    · rcases hhandling _ hh with hold | rfl
      · exact .handling d hold
      · exact .inbox d hmem
    · rcases hdone hp with hold | ⟨d, rfl⟩
      · exact .pending hold
      · exact .inbox d hmem
    · rcases hdrainDone he with hold | ⟨d, rfl⟩
      · exact .early hold
      · exact .inbox d hmem
    · rw [hlease] at hheld
      exact .held hheld
    · rw [hlease] at hl
      exact .lease hl

end Paired

/-! ## Announcements -/

namespace LeaseContext

/-- What `spawn_send_write_fin` does to the lease. -/
structure SendsFin (c : LeaseContext) (r : LeaseContext × List Todo × Option WriteFin) : Prop where
  tx : r.1.txBytes = c.txBytes
  rx : r.1.rxBytes = c.rxBytes
  final : r.1.peerFinalTxBytes = c.peerFinalTxBytes
  doneSent : r.1.localReadDoneSent = c.localReadDoneSent
  released : r.1.writeReleased = c.writeReleased
  retired : r.1.retired = c.retired
  finSent : c.localWriteFinSent = true → r.1.localWriteFinSent = true
  held : r.1.pendingPeerReadDoneFinalRxBytes.isSome → c.pendingPeerReadDoneFinalRxBytes.isSome
  done : r.1.peerReadDoneReceived = true →
    c.peerReadDoneReceived = true ∨ c.pendingPeerReadDoneFinalRxBytes.isSome
  kept : c.peerReadDoneReceived = true → r.1.peerReadDoneReceived = true
  plain : .sendWriteFin ∉ r.2.1 ∧ .settle ∉ r.2.1
  cmd : ∀ fin, r.2.2 = some fin → r.1.localWriteFinSent = true ∧ fin.finalTxBytes = c.txBytes

theorem sendWriteFin_spec (c : LeaseContext) : SendsFin c c.sendWriteFin := by
  unfold sendWriteFin
  dsimp only
  split_ifs
  · exact ⟨rfl, rfl, rfl, rfl, rfl, rfl, id, id, .inl, id, by simp, by simp⟩
  · split
    · exact ⟨rfl, rfl, rfl, rfl, rfl, rfl, fun _ => rfl, id, .inl, id, by simp,
        by rintro fin ⟨⟩; exact ⟨rfl, rfl⟩⟩
    · rename_i v hheld
      have hsome : c.pendingPeerReadDoneFinalRxBytes.isSome := by rw [hheld]; rfl
      split_ifs
      · exact ⟨rfl, rfl, rfl, rfl, rfl, rfl, fun _ => rfl, fun _ => hsome, fun _ => .inr hsome,
          fun _ => rfl, by simp, by rintro fin ⟨⟩; exact ⟨rfl, rfl⟩⟩
      · exact ⟨rfl, rfl, rfl, rfl, rfl, rfl, fun _ => rfl, fun _ => hsome, .inl, id, by simp,
          by simp⟩

end LeaseContext

namespace Paired

variable {x y : Side}

open Side

/-- `spawn_send_write_fin`, after the writer is gone. -/
theorem sendWriteFin (h : Paired x y) (ho : x.opened = true) (hrel : x.lease.writeReleased = true) :
    Paired (x.run .sendWriteFin) y := by
  have hspec := x.lease.sendWriteFin_spec
  generalize hr : x.lease.sendWriteFin = r at hspec
  have hrun : x.run .sendWriteFin = { x.region (r.1, r.2.1) with
      outbox := x.outbox ++ (r.2.2.map DrainCmd.writeFin).toList } := by
    rw [Side.run, hr]
  rw [hrun]
  have hsent : ∀ fin, .writeFin fin ∈ x.outbox ++ (r.2.2.map DrainCmd.writeFin).toList →
      .writeFin fin ∈ x.outbox ∨ r.2.2 = some fin := by
    intro fin hm
    simpa using hm
  have hopen : ∀ {P : Prop}, x.opened = false → P := by
    intro P hclosed
    rw [ho] at hclosed
    cases hclosed
  have hmono : x.lease.Settled → r.1.Settled := fun hset =>
    Settled.mono hset hspec.doneSent hspec.kept
  refine ⟨⟨⟨?_, ?_⟩, fun hi => hmono (h.left.idle hi), h.left.claiming, hopen, hopen, ?_⟩, h.right,
    ⟨h.out.stream, ?_, h.out.rx, h.out.space, ?_, ?_, ?_, ?_, h.out.sentDone⟩,
    h.back.takes ⟨⟨[], rfl, (List.append_nil _).symm, ?_⟩, le_rfl, hspec.doneSent, ?_, ?_, ?_⟩⟩
  · intro _
    exact hspec.released.trans hrel
  · intro hm
    rcases List.mem_append.mp hm with hold | hnew
    · exact hmono (h.left.warrants.2 hold)
    · exact absurd hnew hspec.plain.2
  · intro _
    exact hspec.released.trans hrel
  · exact hspec.tx.trans h.out.tx
  · intro v hv
    obtain ⟨hfin, heq⟩ := h.out.final v hv
    exact ⟨hspec.finSent hfin, heq.trans hspec.tx.symm⟩
  · intro fin hm
    rcases hsent fin hm with hold | hnew
    · obtain ⟨hfin, heq⟩ := h.out.sentFinal fin hold
      exact ⟨hspec.finSent hfin, heq.trans hspec.tx.symm⟩
    · obtain ⟨hfin, heq⟩ := hspec.cmd fin hnew
      exact ⟨hfin, heq.trans hspec.tx.symm⟩
  · intro hd
    obtain ⟨hfin, hempty⟩ := h.out.drained hd
    exact ⟨hspec.finSent hfin, hempty⟩
  · rintro (⟨d, hm⟩ | ⟨d, hh⟩ | hp | he | hheld | hl)
    · exact h.out.done (.inbox d hm)
    · exact h.out.done (.handling d hh)
    · exact h.out.done (.pending hp)
    · exact h.out.done (.early he)
    · exact h.out.done (.held (hspec.held hheld))
    · exact h.out.done ((hspec.done hl).elim .lease .held)
  · intro _
    exact (congrArg (· + wrap x.uncounted.length) hspec.rx).trans (LeaseContext.add_wrap_zero _)
  · intro hret
    exact hspec.retired.trans hret
  · intro v hv
    exact hv.same x rfl rfl rfl rfl hspec.final
  · intro d hm
    simpa using hm

/-- `spawn_send_read_done`: nothing is in flight when it says so. -/
theorem sendReadDone (h : Paired x y) (ho : x.opened = true) : Paired (x.run .sendReadDone) y := by
  rw [Side.run, LeaseContext.sendReadDone]
  dsimp only
  by_cases hcan : (!x.lease.canSendReadDone || x.lease.retired) = true
  · rw [if_pos hcan]
    have hsame : Paired (x.region (x.lease, [])) y := h.later ho [] (by decide)
    simpa [Side.region] using hsame
  · rw [if_neg hcan]
    simp only [Bool.or_eq_true, Bool.not_eq_true', not_or, Bool.not_eq_false,
      Bool.not_eq_true] at hcan
    have hfinal : x.lease.peerFinalTxBytes = some x.lease.rxBytes := by
      have := hcan.1
      simp only [LeaseContext.canSendReadDone, Bool.and_eq_true, decide_eq_true_eq] at this
      exact this.1.2
    have hdrained := h.back.drained_of_final hcan.2 hfinal
    have hopen : ∀ {P : Prop}, x.opened = false → P := by
      intro P hclosed
      rw [ho] at hclosed
      cases hclosed
    have hmono : x.lease.Settled → LeaseContext.Settled { x.lease with localReadDoneSent := true } :=
      fun hset => ⟨rfl, hset.2⟩
    refine ⟨⟨⟨?_, ?_⟩, fun hi => hmono (h.left.idle hi), h.left.claiming, hopen, hopen,
      h.left.frozen⟩, h.right, h.out.still ⟨rfl, rfl, rfl, ?_, ?_⟩,
      ⟨h.back.stream, h.back.tx, h.back.rx, h.back.space, ?_, h.back.sentFinal, fun _ => hdrained,
        fun _ => rfl, fun _ _ => rfl⟩⟩
    · intro hm
      rcases List.mem_append.mp hm with hold | hnew
      · exact h.left.warrants.1 hold
      · simp at hnew
    · intro hm
      rcases List.mem_append.mp hm with hold | hnew
      · exact hmono (h.left.warrants.2 hold)
      · simp at hnew
    · intro hd
      exact hd.same x rfl rfl rfl rfl rfl rfl
    · intro fin hm
      simpa using hm
    · intro v hv
      exact h.back.final v (hv.same x rfl rfl rfl rfl rfl)

/-- `poll_write`: the writer is there, so it has announced nothing. -/
theorem pollWrite (h : Paired x y) (ho : x.opened = true) (data : List U8) :
    Paired (Side.pollWrite x y data).1 (Side.pollWrite x y data).2 := by
  unfold Side.pollWrite
  by_cases hrel : x.lease.writeReleased = true
  · rw [if_pos hrel]
    exact h
  rw [if_neg hrel]
  by_cases hhalf : (!x.lease.write) = true
  · rw [if_pos hhalf]
    exact h.later ho [.retire] (by decide)
  rw [if_neg hhalf]
  by_cases hfull : 2 ^ 64 ≤ y.incoming.length + y.uncounted.length + data.length
  · rw [if_pos hfull]
    exact h
  rw [if_neg hfull]
  have hnever : ∀ {P : Prop}, x.lease.localWriteFinSent = true → P := by
    intro P hsent
    exact absurd (h.left.frozen hsent) hrel
  have hopen : ∀ {P : Prop}, x.opened = false → P := by
    intro P hclosed
    rw [ho] at hclosed
    cases hclosed
  refine ⟨⟨h.left.warrants, h.left.idle, h.left.claiming, hopen, hopen, h.left.frozen⟩,
    ⟨h.right.warrants, h.right.idle, h.right.claiming, h.right.closed, h.right.unused,
      h.right.frozen⟩,
    ⟨?_, ?_, h.out.rx, ?_, ?_, ?_, ?_, ?_, h.out.sentDone⟩,
    ⟨h.back.stream, h.back.tx, h.back.rx, h.back.space,
      fun v hv => h.back.final v (hv.same x rfl rfl rfl rfl rfl), h.back.sentFinal, h.back.drained,
      fun hd => h.back.done (hd.same y rfl rfl rfl rfl rfl rfl), h.back.sentDone⟩⟩
  · show x.written ++ data = y.consumed ++ (y.incoming ++ data)
    rw [h.out.stream, List.append_assoc]
  · show x.lease.txBytes + wrap data.length = wrap (x.written ++ data).length
    rw [h.out.tx, wrap_add, List.length_append]
  · show (y.incoming ++ data).length + y.uncounted.length < 2 ^ 64
    rw [List.length_append]
    omega
  · intro v hv
    exact hnever (h.out.final v (hv.same y rfl rfl rfl rfl rfl)).1
  · intro fin hm
    exact hnever (h.out.sentFinal fin hm).1
  · intro hd
    exact hnever (h.out.drained hd).1
  · intro hd
    exact h.out.done (hd.same x rfl rfl rfl rfl rfl rfl)

/-- A spawned task sends its command. -/
theorem send (h : Paired x y) (ho : x.opened = true) {i : Nat} {cmd : DrainCmd}
    (hcmd : x.outbox[i]? = some cmd) (todo : List Todo)
    (hplain : .sendWriteFin ∉ todo ∧ .settle ∉ todo) (inbox : List DrainCmd)
    (hinbox : inbox = y.inbox ∨ inbox = y.inbox ++ [cmd]) :
    Paired ({ x with outbox := x.outbox.eraseIdx i }.region (x.lease, todo))
      { y with inbox := inbox } := by
  have hmem : cmd ∈ x.outbox := List.mem_of_getElem? hcmd
  have hless : ∀ c ∈ x.outbox.eraseIdx i, c ∈ x.outbox := fun c hc => List.mem_of_mem_eraseIdx hc
  have harrived : ∀ c ∈ inbox, c ∈ y.inbox ∨ c = cmd := by
    intro c hc
    rcases hinbox with rfl | rfl
    · exact .inl hc
    · simpa using hc
  have hsound : ({ x with outbox := x.outbox.eraseIdx i } : Side).Sound :=
    ⟨h.left.warrants, h.left.idle, h.left.claiming, h.left.closed, h.left.unused, h.left.frozen⟩
  refine ⟨hsound.counts ho ((LeaseContext.Counts.refl _).region hplain),
    ⟨h.right.warrants, h.right.idle, h.right.claiming, h.right.closed, h.right.unused,
      h.right.frozen⟩,
    ⟨h.out.stream, h.out.tx, h.out.rx, h.out.space, ?_, ?_, h.out.drained, ?_, h.out.sentDone⟩,
    ⟨h.back.stream, h.back.tx, h.back.rx, h.back.space, ?_, h.back.sentFinal, h.back.drained, ?_,
      ?_⟩⟩
  · rintro v (⟨f, hm, hv⟩ | ⟨f, hh, hv⟩ | ⟨f, hp, hv⟩ | ⟨f, he, hv⟩ | hl)
    · rcases harrived _ hm with hold | rfl
      · exact h.out.final v (.inbox f hold hv)
      · obtain ⟨hsent, heq⟩ := h.out.sentFinal f hmem
        exact ⟨hsent, hv.symm.trans heq⟩
    · exact h.out.final v (.handling f hh hv)
    · exact h.out.final v (.pending f hp hv)
    · exact h.out.final v (.early f he hv)
    · exact h.out.final v (.lease hl)
  · intro fin hm
    exact h.out.sentFinal fin (hless _ hm)
  · intro hd
    exact h.out.done (hd.same x rfl rfl rfl rfl rfl rfl)
  · intro v hv
    exact h.back.final v (hv.same x rfl rfl rfl rfl rfl)
  · rintro (⟨d, hm⟩ | ⟨d, hh⟩ | hp | he | hheld | hl)
    · rcases harrived _ hm with hold | rfl
      · exact h.back.done (.inbox d hold)
      · exact h.back.sentDone d hmem
    · exact h.back.done (.handling d hh)
    · exact h.back.done (.pending hp)
    · exact h.back.done (.early he)
    · exact h.back.done (.held hheld)
    · exact h.back.done (.lease hl)
  · intro d hm
    exact h.back.sentDone d (hless _ hm)

/-- A region that was left to do. -/
theorem run (h : Paired x y) (ho : x.opened = true) {i : Nat} {t : Todo}
    (ht : x.todo[i]? = some t) : Paired ({ x with todo := x.todo.eraseIdx i }.run t) y := by
  have hmem : t ∈ x.todo := List.mem_of_getElem? ht
  have hless : Paired { x with todo := x.todo.eraseIdx i } y := by
    refine h.known ⟨⟨fun hm => ?_, fun hm => ?_⟩, h.left.idle, h.left.claiming, h.left.closed,
      fun hc => ?_, h.left.frozen⟩ rfl rfl rfl rfl rfl rfl rfl rfl rfl rfl
      (fun _ hv => hv.same x rfl rfl rfl rfl rfl) fun hd => hd.same x rfl rfl rfl rfl rfl rfl
    · exact h.left.warrants.1 (List.mem_of_mem_eraseIdx hm)
    · exact h.left.warrants.2 (List.mem_of_mem_eraseIdx hm)
    · rw [show x.opened = false from hc] at ho
      cases ho
  have hopen : ∀ {P : Prop}, x.opened = false → P := by
    intro P hclosed
    rw [ho] at hclosed
    cases hclosed
  cases t with
  | sendWriteFin => exact hless.sendWriteFin ho (h.left.warrants.1 hmem)
  | sendReadDone => exact hless.sendReadDone ho
  | markDraining =>
    have hsame : ∀ state : DataConnEntryState Unit,
        (state.markDraining = .idle → state = .idle) ∧
          ∀ c, state.markDraining = .claiming c → state = .claiming c := by
      rintro (_ | _ | c | _ | _ | _) <;> simp [DataConnEntryState.markDraining]
    refine hless.entry (fun hi => ?_) (fun c hc => ?_) hopen (.inl rfl)
    · exact h.left.idle ((hsame x.state).1 hi)
    · exact hopen (h.left.claiming c ((hsame x.state).2 c hc))
  | retire => exact hless.region ho (LeaseContext.retireLease_spec _)
  | markRetired => exact hless.entry (by simp) (by simp) (fun _ => rfl) (.inr rfl)
  | finalize => exact hless.region ho (LeaseContext.maybeFinalizeLease_spec _)
  | settle =>
    have hidle : Paired { x with todo := x.todo.eraseIdx i, state := .idle } y :=
      hless.entry (fun _ => h.left.warrants.2 hmem) (by simp) hopen (.inl rfl)
    rw [Side.run]
    dsimp only
    split
    · exact hidle
    · exact hidle
    · exact hless

/-- `close_local`. -/
theorem close (h : Paired x y) : Paired x.close y := by
  have hforget : Paired { x with pendingDrain := ⟨none, none⟩ } y := by
    have hf : Framed x { x with pendingDrain := ⟨none, none⟩ } :=
      ⟨rfl, rfl, rfl, rfl, rfl, .inr rfl, rfl⟩
    have hc := LeaseContext.Counts.refl x.lease
    exact h.calm ⟨h.left.warrants, h.left.idle, h.left.claiming, h.left.closed, h.left.unused,
      h.left.frozen⟩ (hf.still hc) (hf.takes_nothing hc rfl rfl rfl)
  have hretired : Paired { x with pendingDrain := ⟨none, none⟩, state := .retired } y :=
    h.entry (by simp) (by simp) (fun _ => rfl) (.inr rfl)
  have hlease : (∀ c, x.state ≠ .claiming c) → x.state ≠ .retired →
      Paired ({ x with pendingDrain := ⟨none, none⟩ }.region ({ x.lease with noReuse := true },
        if LeaseContext.readyForClose { x.lease with noReuse := true } then [.retire] else [])) y := by
    intro hclaim hret
    have ho : x.opened = true := by
      by_contra hne
      rcases h.left.closed (by simpa using hne) with ⟨c, hc⟩ | hr
      · exact hclaim c hc
      · exact hret hr
    have hc : x.lease.Counts { x.lease with noReuse := true } 0 :=
      ⟨rfl, fun _ => LeaseContext.add_wrap_zero _, rfl, rfl, rfl, rfl, rfl, id, id⟩
    refine hforget.region ho (hc.region ?_)
    split_ifs <;> decide
  unfold Side.close
  dsimp only
  split
  · rename_i hs
    exact hlease (by simp [hs]) (by simp [hs])
  · rename_i hs
    exact hlease (by simp [hs]) (by simp [hs])
  · exact hretired
  · exact hretired
  · exact hretired
  · exact hforget

/-- **One step.** -/
theorem work (h : Paired x y) (ho : x.opened = true) (e : Event) :
    Paired (Side.work x y e).1 (Side.work x y e).2 := by
  cases e with
  | write data => exact h.pollWrite ho data
  | read n => exact h.pollRead ho n
  | counted => exact h.counted ho
  | readFails => exact h.later ho [.retire] (by decide)
  | dropRead =>
    rw [Side.work]
    split_ifs
    · exact h
    · exact h.region ho x.lease.releaseReadHalf_spec
  | dropWrite => exact h.region ho x.lease.releaseWriteHalf_spec
  | observe => exact h.observe ho
  | observed result => exact h.observed ho result
  | handle => exact h.handle ho
  | run i =>
    rw [Side.work]
    split
    · rename_i t ht
      exact h.run ho ht
    · exact h
  | send i ok =>
    rw [Side.work]
    split
    · rename_i cmd hcmd
      dsimp only
      split_ifs
      · exact h.send ho hcmd [.finalize] (by decide) _ (.inr rfl)
      · exact h.send ho hcmd [.retire] (by decide) _ (.inl rfl)
    · exact h
  | check => exact h.region ho x.lease.maybeFinalizeLease_spec
  | fail => exact h.region ho x.lease.retireLease_spec
  | bind => exact h
  | deliver => exact h
  | abandon => exact h
  | close => exact h

theorem act (h : Paired x y) (e : Event) : Paired (Side.act x y e).1 (Side.act x y e).2 := by
  have hwork : Paired (if x.opened then Side.work x y e else (x, y)).1
      (if x.opened then Side.work x y e else (x, y)).2 := by
    split_ifs with ho
    · exact h.work ho e
    · exact h
  cases e with
  | bind => exact h.bind
  | deliver =>
    rw [Side.act]
    split
    · rename_i hbox
      exact h.arrive hbox
    · exact h
  | abandon => exact h.retirePlainEntry
  | close => exact h.close
  | _ => exact hwork

end Paired

/-! ## The result -/

/-- The invariant of the system. -/
def Ends.Sane (s : Ends) : Prop := ∀ p, Paired (s p) (s p.other)

theorem Ends.sane_step {s : Ends} (h : s.Sane) (i : Party × Event) : (s.step i).Sane := by
  obtain ⟨p, e⟩ := i
  have hact := (h p).act e
  intro q
  cases p <;> cases q
  · exact hact
  · exact hact.symm
  · exact hact.symm
  · exact hact

theorem Ends.sane_start (connId : TcpConnId) (committed : TcpLeaseSeq) (c : ClaimingState) :
    (Ends.start connId committed c).Sane := by
  have hsound : ∀ p, (Ends.start connId committed c p).Sound := by
    rintro (_ | _)
    · exact ⟨⟨by simp [Ends.start], by simp [Ends.start]⟩, by simp [Ends.start],
        fun _ _ => rfl, fun _ => .inl ⟨c, rfl⟩,
        fun _ => ⟨rfl, rfl, rfl, rfl, rfl, by simp [Ends.start, LeaseContext.new], rfl, rfl, rfl⟩,
        by simp [Ends.start, LeaseContext.new]⟩
    · exact ⟨⟨fun hm => Side.mem_bindTodo.mp hm, fun hm => absurd hm Side.settle_not_mem_bindTodo⟩,
        by simp [Ends.start], by simp [Ends.start], by simp [Ends.start], by simp [Ends.start],
        by simp [Ends.start, LeaseContext.new]⟩
  have hflow : ∀ p, Flow (Ends.start connId committed c p) (Ends.start connId committed c p.other) := by
    intro p
    have hfinal : ∀ q v, ¬ (Ends.start connId committed c q).Final v := by
      rintro (_ | _) v (⟨f, hm, -⟩ | ⟨f, hm, -⟩ | ⟨f, hm, -⟩ | ⟨f, hm, -⟩ | hm) <;> cases hm
    have hdone : ∀ q, ¬ (Ends.start connId committed c q).Done := by
      rintro (_ | _) (⟨d, hm⟩ | ⟨d, hm⟩ | hm | hm | hm | hm) <;> cases hm
    cases p <;>
      exact ⟨rfl, rfl, fun _ => rfl, Nat.two_pow_pos 64, fun v hv => absurd hv (hfinal _ v),
        fun _ hm => (by cases hm), fun hm => (by cases hm), fun hd => absurd hd (hdone _),
        fun _ hm => (by cases hm)⟩
  intro p
  refine ⟨hsound p, hsound p.other, hflow p, ?_⟩
  have hback := hflow p.other
  cases p <;> exact hback

/-- **No byte crosses the boundary of a lease.**  Whatever the two ends do with a lease: when the
entry of an end is idle again, the other end has consumed all bytes that this end wrote, and this
end all that the other end wrote, and nothing is in flight in either direction. -/
theorem no_byte_crosses (connId : TcpConnId) (committed : TcpLeaseSeq) (c : ClaimingState)
    (is : List (Party × Event)) (p : Party)
    (hidle : (exec Ends.step (.start connId committed c) is p).state = .idle) :
    (exec Ends.step (.start connId committed c) is p).written =
        (exec Ends.step (.start connId committed c) is p.other).consumed ∧
      (exec Ends.step (.start connId committed c) is p).consumed =
        (exec Ends.step (.start connId committed c) is p.other).written ∧
      (exec Ends.step (.start connId committed c) is p).incoming = [] ∧
      (exec Ends.step (.start connId committed c) is p.other).incoming = [] := by
  have hsane : (exec Ends.step (.start connId committed c) is).Sane :=
    exec_inv_all (I := Ends.Sane) (fun _ i h => Ends.sane_step h i)
      (Ends.sane_start connId committed c) is
  generalize exec Ends.step (.start connId committed c) is = s at hsane hidle
  have h := hsane p
  obtain ⟨hread, hdone⟩ := h.left.idle hidle
  -- this end has read everything
  obtain ⟨-, hin, -⟩ := h.back.drained hread
  have hback := h.back.stream
  -- and so has the other one, whose `ReadDone` was received
  obtain ⟨-, hout, -⟩ := h.out.drained (h.out.done (.lease hdone))
  have hforth := h.out.stream
  rw [hin, List.append_nil] at hback
  rw [hout, List.append_nil] at hforth
  exact ⟨hforth, hback.symm, hin, hout⟩

/-- The initiator of a stream writes three bytes and the acceptor one; both let their halves go, and
the initiator comes to the end first. -/
def exchange : List (Party × Event) :=
  [(.initiator, .bind), (.initiator, .write [1, 2, 3]), (.acceptor, .write [7]),
    (.initiator, .dropWrite), (.initiator, .run 0), (.initiator, .send 0 true),
    (.acceptor, .deliver), (.acceptor, .handle), (.acceptor, .read 3), (.acceptor, .counted),
    (.acceptor, .dropWrite), (.acceptor, .dropRead), (.acceptor, .run 2), (.acceptor, .run 2),
    (.acceptor, .send 0 true), (.acceptor, .send 0 true), (.initiator, .deliver),
    (.initiator, .handle), (.initiator, .deliver), (.initiator, .handle), (.initiator, .read 1),
    (.initiator, .counted), (.initiator, .dropRead), (.initiator, .run 6), (.initiator, .run 0),
    (.initiator, .run 8)]

theorem no_byte_crosses_exchange :
    (exec Ends.step (.start 1 0 ⟨1, 5, 9, .stream, []⟩) exchange .initiator).state = .idle ∧
      (exec Ends.step (.start 1 0 ⟨1, 5, 9, .stream, []⟩) exchange .initiator).written = [1, 2, 3] ∧
      (exec Ends.step (.start 1 0 ⟨1, 5, 9, .stream, []⟩) exchange .initiator).written =
        (exec Ends.step (.start 1 0 ⟨1, 5, 9, .stream, []⟩) exchange .acceptor).consumed := by
  have hidle : (exec Ends.step (.start 1 0 ⟨1, 5, 9, .stream, []⟩) exchange .initiator).state =
      .idle := by decide +kernel
  exact ⟨hidle, by decide +kernel,
    (no_byte_crosses 1 0 ⟨1, 5, 9, .stream, []⟩ exchange .initiator hidle).1⟩

end BuckyP2p.Tcp
