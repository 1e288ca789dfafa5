import BuckyP2p.Tcp.Boundary

/-!
# BuckyP2p.Tcp.HalfClose — `poll_shutdown` on a lease

`TcpLeaseWrite::poll_shutdown` shuts the write direction of the data connection itself, for good, and
leaves no mark in the lease: what ends the lease is the reader at the other end, which retires it when
it sees the end of the stream.  A reader that has got all the announced bytes says so before it has
seen the end, and then both ends give the connection back with one direction shut.

`Shutdowns` are the two ends of `Tcp.Drain` with the directions that were shut down.
-/

namespace BuckyP2p.Tcp

open Lib

structure Shutdowns where
  ends : Ends
  shut : Party → Bool

inductive ShutdownEvent
  | act (p : Party) (e : Event)
  | shutdown (p : Party)
  | shutdownFails (p : Party)
  deriving DecidableEq

/-- A call on the write half that returns an error, while the handle exists. -/
def Side.writeFails (x : Side) : Side :=
  if x.opened && !x.lease.writeReleased then x.region (x.lease, [.retire]) else x

namespace Shutdowns

def start (connId : TcpConnId) (committed : TcpLeaseSeq) (c : ClaimingState) : Shutdowns :=
  ⟨.start connId committed c, fun _ => false⟩

/-- A write at the end `p` fails. -/
def writeFails (s : Shutdowns) (p : Party) : Shutdowns :=
  { s with ends := fun q => if q = p then (s.ends q).writeFails else s.ends q }

/-- A shutdown that returns `Ok` is final: no write of that end succeeds after it. -/
def step (s : Shutdowns) : ShutdownEvent → Shutdowns
  | .act p (.write data) =>
    if s.shut p then s.writeFails p else { s with ends := s.ends.step (p, .write data) }
  | .act p e => { s with ends := s.ends.step (p, e) }
  | .shutdown p =>
    let x := s.ends p
    if x.opened && !x.lease.writeReleased then
      if x.lease.write then { s with shut := fun q => if q = p then true else s.shut q }
      else s.writeFails p
    else s
  | .shutdownFails p => s.writeFails p

end Shutdowns

/-- The states in which an entry can be claimed, or a claim of the peer accepted. -/
def DataConnEntryState.Claimable {L : Type} (state : DataConnEntryState L) : Prop :=
  state = .idle ∨ state = .firstClaimPending

/-! ### What an end announces -/

namespace Side

variable {x x' y : Side}

/-- Nothing is said about the reading, unless the step `speaks`; and the entry does not go back to its
first state. -/
structure Mute (speaks : Prop) (x x' : Side) : Prop where
  doneSent : x'.lease.localReadDoneSent = x.lease.localReadDoneSent ∨ speaks
  first : x'.state = .firstClaimPending → x.state = .firstClaimPending

variable {speaks : Prop}

theorem Mute.refl (x : Side) : Mute speaks x x := ⟨.inl rfl, fun h => h⟩

theorem Mute.region {n : Nat} {r : LeaseContext × List Todo} (h : x.lease.Region n r) :
    Mute speaks x (x.region r) := ⟨.inl h.1.doneSent, fun h => h⟩

theorem Mute.later (x : Side) (todo : List Todo) : Mute speaks x (x.region (x.lease, todo)) :=
  ⟨.inl rfl, fun h => h⟩

theorem bind_mute (hx : x.Sound) : Mute speaks x x.bind := by
  unfold bind
  split
  case h_1 c hstate =>
    refine ⟨?_, by simp⟩
    have hfresh : LeaseContext.Learns
        (.new x.lease.connId c.leaseSeq c.channelId c.kind c.purpose true) _ (fun _ => True) True :=
      LeaseContext.absorb_learns _ x.pendingFin x.pendingReadDone x.pendingDrain
        (fun _ _ => trivial) (fun _ => trivial) (fun _ _ => trivial) fun _ => trivial
    have hunused : x.lease.localReadDoneSent = false :=
      (hx.unused (hx.claiming c hstate)).2.2.2.1
    exact .inl (hfresh.doneSent.trans hunused.symm)
  case h_2 => exact .refl x

theorem pollRead_mute (n : Nat) : Mute speaks x (x.pollRead n) := by
  unfold pollRead
  split_ifs <;> exact ⟨.inl rfl, fun h => h⟩

theorem counted_mute : Mute speaks x x.counted := by
  unfold counted
  split_ifs
  · exact .refl x
  · split
    case h_1 data hdata =>
      exact ⟨.inl (x.lease.afterRead_spec data.length data.isEmpty).1.doneSent, fun h => h⟩
    case h_2 => exact .refl x

theorem observe_mute : Mute speaks x x.observe := by
  unfold observe
  split_ifs
  · exact .refl x
  · split
    case h_1 lease todo heq => exact ⟨.inl (LeaseContext.observeStart_spec heq).1.doneSent, fun h => h⟩
    case h_2 todo heq => exact .later x todo

theorem observed_mute (result : ObservedRead) : Mute speaks x (x.observed result) := by
  unfold observed
  split_ifs
  · exact .refl x
  · split
    case h_1 n hreading =>
      exact ⟨.inl (x.lease.observeEnd_spec _).1.doneSent, fun h => h⟩
    case h_2 other _ _ _ _ => exact ⟨.inl (x.lease.observeEnd_spec other).1.doneSent, fun h => h⟩
    case h_3 => exact .refl x

theorem handle_mute : Mute speaks x x.handle := by
  unfold handle
  split
  case h_1 fin _ => exact ⟨.inl (x.lease.handleWriteFin_spec fin).1.doneSent, fun h => h⟩
  case h_2 done _ => exact ⟨.inl (x.lease.handleReadDone_spec done).1.doneSent, fun h => h⟩
  case h_3 => exact .refl x

theorem close_mute : Mute speaks x x.close := by
  unfold close
  dsimp only
  split
  all_goals first | exact ⟨.inl rfl, fun h => h⟩ | exact ⟨.inl rfl, by simp⟩

/-- The one region that announces `ReadDone` does so when all bytes are read and the lease is not
retired. -/
theorem run_mute (t : Todo) : Mute (t = .sendReadDone ∧ x.lease.canSendReadDone = true ∧
    x.lease.retired = false) x (x.run t) := by
  cases t with
  | sendWriteFin => exact ⟨.inl x.lease.sendWriteFin_spec.doneSent, fun h => h⟩
  | sendReadDone =>
    by_cases hno : (!x.lease.canSendReadDone || x.lease.retired) = true
    · refine ⟨.inl ?_, fun h => h⟩
      simp [run, LeaseContext.sendReadDone, hno, region]
    · refine ⟨.inr ⟨rfl, ?_⟩, fun h => h⟩
      simpa using hno
  | markDraining =>
    refine ⟨.inl rfl, ?_⟩
    simp only [run]
    cases x.state <;> simp [DataConnEntryState.markDraining]
  | retire => exact .region x.lease.retireLease_spec
  | markRetired => exact ⟨.inl rfl, by simp [run]⟩
  | finalize => exact .region x.lease.maybeFinalizeLease_spec
  | settle =>
    simp only [run]
    split
    · exact ⟨.inl rfl, by simp⟩
    · exact ⟨.inl rfl, by simp⟩
    · exact .refl x

/-- The next step of `x` announces `ReadDone`. -/
def Announces (x : Side) : Event → Prop
  | .run i => x.todo[i]? = some .sendReadDone ∧ x.lease.canSendReadDone = true ∧
    x.lease.retired = false
  | _ => False

theorem work_mute (e : Event) : Mute (x.Announces e) x (work x y e).1 := by
  cases e with
  | write data =>
    simp only [work, pollWrite]
    split_ifs <;> exact ⟨.inl rfl, fun h => h⟩
  | read n => exact pollRead_mute n
  | counted => exact counted_mute
  | readFails => exact .later x _
  | dropRead =>
    simp only [work]
    split_ifs
    · exact .refl x
    · exact .region x.lease.releaseReadHalf_spec
  | dropWrite => exact .region x.lease.releaseWriteHalf_spec
  | observe => exact observe_mute
  | observed result => exact observed_mute result
  | handle => exact handle_mute
  | run i =>
    simp only [work]
    split
    case h_1 t ht =>
      have hmute := run_mute (x := { x with todo := x.todo.eraseIdx i }) t
      refine ⟨hmute.doneSent.imp_right ?_, hmute.first⟩
      rintro ⟨rfl, hcan, hret⟩
      exact ⟨ht, hcan, hret⟩
    case h_2 => exact .refl x
  | send i ok =>
    simp only [work]
    split
    · split_ifs <;> exact ⟨.inl rfl, fun h => h⟩
    · exact .refl x
  | check => exact .region x.lease.maybeFinalizeLease_spec
  | fail => exact .region x.lease.retireLease_spec
  | bind | deliver | abandon | close => exact .refl x

theorem act_mute (hx : x.Sound) (e : Event) : Mute (x.Announces e) x (act x y e).1 := by
  have hwork : Mute (x.Announces e) x (if x.opened then work x y e else (x, y)).1 := by
    split_ifs
    · exact work_mute e
    · exact .refl x
  cases e with
  | bind => exact bind_mute hx
  | deliver =>
    simp only [act]
    split
    case h_1 cmd rest _ hbox =>
      have hk := arrive_keeps { x with inbox := rest } cmd
      refine ⟨.inl (by rw [hk.rest.2.1]), fun hfirst => ?_⟩
      rcases hk.state with hsame | hret
      · rw [← hsame]
        exact hfirst
      · rw [hret] at hfirst
        cases hfirst
    case h_2 => exact .refl x
  | abandon => exact ⟨.inl rfl, by simp [act, retirePlainEntry]⟩
  | close => exact close_mute
  | _ => exact hwork

/-- A step of one end leaves the lease and the state of the other one. -/
theorem act_other (x y : Side) (e : Event) : Mute False y (act x y e).2 := by
  have hwork : Mute False y (if x.opened then work x y e else (x, y)).2 := by
    split_ifs
    · cases e with
      | write data =>
        simp only [work, pollWrite]
        split_ifs <;> exact ⟨.inl rfl, fun h => h⟩
      | dropRead =>
        simp only [work]
        split_ifs <;> exact .refl y
      | run i =>
        simp only [work]
        split <;> exact .refl y
      | send i ok =>
        simp only [work]
        split
        · split_ifs <;> exact ⟨.inl rfl, fun h => h⟩
        · exact .refl y
      | _ => exact .refl y
    · exact .refl y
  cases e with
  | deliver =>
    simp only [act]
    split <;> exact .refl y
  | bind | abandon | close => exact .refl y
  | _ => exact hwork

end Side

/-! ### Runs -/

namespace Shutdowns

variable {s : Shutdowns}

/-- An end that reads a direction which was shut down has retired its lease, for example at the end
of the stream, before it would announce `ReadDone`. -/
def EndSeen (s : Shutdowns) : ShutdownEvent → Prop
  | .act q e => s.shut q.other = true → ¬ (s.ends q).Announces e
  | _ => True

structure Inv (s : Shutdowns) : Prop where
  sane : s.ends.Sane
  taken : ∀ p, (s.ends p).state ≠ .firstClaimPending
  unannounced : ∀ p, s.shut p = true → (s.ends p.other).lease.localReadDoneSent = false

theorem start_inv (connId : TcpConnId) (committed : TcpLeaseSeq) (c : ClaimingState) :
    Inv (start connId committed c) := by
  refine ⟨Ends.sane_start connId committed c, ?_, ?_⟩
  · rintro (_ | _) <;> simp [start, Ends.start]
  · intro p hshut
    cases hshut

theorem other_other (p : Party) : p.other.other = p := by cases p <;> rfl

/-- A step of the end `p`. -/
theorem Inv.turn (h : Inv s) {p : Party} {ends : Ends} {speaks : Prop} (hsane : ends.Sane)
    (hown : Side.Mute speaks (s.ends p) (ends p)) (hseen : s.shut p.other = true → ¬ speaks)
    (hother : Side.Mute False (s.ends p.other) (ends p.other)) : Inv { s with ends } := by
  have hcases : ∀ q, q = p ∨ q = p.other := by
    intro q
    cases p <;> cases q <;> simp [Party.other]
  refine ⟨hsane, ?_, ?_⟩
  · intro q hq
    rcases hcases q with rfl | rfl
    · exact h.taken q (hown.first hq)
    · exact h.taken p.other (hother.first hq)
  · intro q hq
    rcases hcases q with rfl | rfl
    · exact (hother.doneSent.resolve_right fun hno => hno).trans (h.unannounced q hq)
    · have hbefore := h.unannounced p.other hq
      rw [other_other] at hbefore ⊢
      exact (hown.doneSent.resolve_right (hseen hq)).trans hbefore

theorem Inv.act (h : Inv s) (p : Party) (e : Event)
    (hseen : s.shut p.other = true → ¬ (s.ends p).Announces e) :
    Inv { s with ends := s.ends.step (p, e) } := by
  have hself : s.ends.step (p, e) p = (Side.act (s.ends p) (s.ends p.other) e).1 := if_pos rfl
  have hother : s.ends.step (p, e) p.other = (Side.act (s.ends p) (s.ends p.other) e).2 :=
    if_neg (by cases p <;> simp [Party.other])
  refine h.turn (p := p) (Ends.sane_step h.sane (p, e)) ?_ hseen ?_
  · rw [hself]
    exact Side.act_mute (h.sane p).left e
  · rw [hother]
    exact Side.act_other ..

theorem Inv.writeFails (h : Inv s) (p : Party) : Inv (s.writeFails p) := by
  have hne : p.other ≠ p := by cases p <;> simp [Party.other]
  have hself : (s.writeFails p).ends p = (s.ends p).writeFails := if_pos rfl
  have hother : (s.writeFails p).ends p.other = s.ends p.other := if_neg hne
  have hpair : Paired ((s.writeFails p).ends p) ((s.writeFails p).ends p.other) := by
    rw [hself, hother, Side.writeFails]
    split_ifs with hopen
    · have ho : (s.ends p).opened = true := by
        rw [Bool.and_eq_true] at hopen
        exact hopen.1
      exact (h.sane p).later ho [.retire] (by decide)
    · exact h.sane p
  have hsane : (s.writeFails p).ends.Sane := by
    intro q
    have hcases : q = p ∨ q = p.other := by cases p <;> cases q <;> simp [Party.other]
    rcases hcases with rfl | rfl
    · exact hpair
    · rw [other_other]
      exact hpair.symm
  have hown : Side.Mute False (s.ends p) ((s.writeFails p).ends p) := by
    rw [hself, Side.writeFails]
    split_ifs
    · exact .later _ _
    · exact .refl _
  have hrest : Side.Mute False (s.ends p.other) ((s.writeFails p).ends p.other) := by
    rw [hother]
    exact .refl _
  exact h.turn hsane hown (fun _ hno => hno) hrest

/-- While the writer of `p` is there, the other end cannot have read all of it. -/
theorem Inv.shutdown (h : Inv s) {p : Party} (hwriter : (s.ends p).lease.writeReleased = false) :
    Inv { s with shut := fun q => if q = p then true else s.shut q } := by
  refine ⟨h.sane, h.taken, ?_⟩
  intro q hq
  by_cases heq : q = p
  · subst heq
    by_contra hdone
    have hsent := ((h.sane q).out.drained (by simpa using hdone)).1
    have hreleased := (h.sane q).left.frozen hsent
    rw [hwriter] at hreleased
    cases hreleased
  · exact h.unannounced q (by simpa [heq] using hq)

theorem Inv.step (h : Inv s) (e : ShutdownEvent) (hseen : s.EndSeen e) : Inv (s.step e) := by
  unfold Shutdowns.step
  split
  case h_1 p data =>
    split_ifs
    · exact h.writeFails p
    · exact h.act p _ hseen
  case h_2 p e _ => exact h.act p e hseen
  case h_3 p =>
    dsimp only
    split_ifs with hopen hwrite
    · rw [Bool.and_eq_true] at hopen
      exact h.shutdown (by simpa using hopen.2)
    · exact h.writeFails p
    · exact h
  case h_4 p => exact h.writeFails p

/-- **A direction that was shut down is not used again**, in a run in which the end that reads it has
its lease retired before it would announce that it has read everything: neither end of the
connection can be claimed any more. -/
theorem shut_connection_not_reused (connId : TcpConnId) (committed : TcpLeaseSeq) (c : ClaimingState)
    (events : List ShutdownEvent)
    (hseen : Along Shutdowns.step EndSeen (start connId committed c) events) (p q : Party)
    (hshut : (exec Shutdowns.step (start connId committed c) events).shut p = true) :
    ¬ ((exec Shutdowns.step (start connId committed c) events).ends q).state.Claimable := by
  have hinv : Inv (exec Shutdowns.step (start connId committed c) events) :=
    exec_inv (fun s e hs he => hs.step e he) (start_inv connId committed c) hseen
  generalize exec Shutdowns.step (start connId committed c) events = s at hinv hshut
  have hsilent := hinv.unannounced p hshut
  rintro (hidle | hfirst)
  · -- an end becomes idle after both ends have announced what they have read
    obtain ⟨hown, hpeer⟩ := (hinv.sane q).left.idle hidle
    have hboth : (s.ends p.other).lease.localReadDoneSent = true := by
      have hcases : q = p ∨ q = p.other := by cases p <;> cases q <;> simp [Party.other]
      rcases hcases with rfl | rfl
      · exact (hinv.sane q).out.done (.lease hpeer)
      · exact hown
    rw [hsilent] at hboth
    cases hboth
  · exact hinv.taken q hfirst

/-- The initiator writes three bytes and shuts its direction down; the reader of the acceptor sees the
end, and both let their halves go. -/
def readToTheEnd : List ShutdownEvent :=
  [.act .initiator .bind, .act .initiator (.write [1, 2, 3]), .shutdown .initiator,
    .act .acceptor (.read 3), .act .acceptor .counted, .act .acceptor (.read 3),
    .act .acceptor .counted, .act .acceptor (.run 0), .act .acceptor (.run 0),
    .act .initiator .dropWrite, .act .initiator .dropRead, .act .initiator (.run 0),
    .act .initiator (.send 0 true), .act .acceptor .deliver, .act .acceptor .dropRead,
    .act .acceptor .dropWrite]

instance (x : Side) (e : Event) : Decidable (x.Announces e) := by
  unfold Side.Announces
  split <;> infer_instance

instance (s : Shutdowns) (e : ShutdownEvent) : Decidable (s.EndSeen e) := by
  unfold EndSeen
  split <;> infer_instance

theorem shut_connection_not_reused_after_end :
    (exec Shutdowns.step (start 1 0 ⟨1, 5, 9, .stream, []⟩) readToTheEnd).shut .initiator = true ∧
      ¬ ((exec Shutdowns.step (start 1 0 ⟨1, 5, 9, .stream, []⟩) readToTheEnd).ends
        .initiator).state.Claimable := by
  have hshut : (exec Shutdowns.step (start 1 0 ⟨1, 5, 9, .stream, []⟩) readToTheEnd).shut
      .initiator = true := by decide +kernel
  exact ⟨hshut, shut_connection_not_reused 1 0 ⟨1, 5, 9, .stream, []⟩ readToTheEnd
    (by decide +kernel) .initiator .initiator hshut⟩

/-- The same with a reader that takes the three bytes and does not look for the end. -/
def readTheBytes : List ShutdownEvent :=
  [.act .initiator .bind, .act .initiator (.write [1, 2, 3]), .shutdown .initiator] ++
    ([(.acceptor, .write [7]), (.initiator, .dropWrite), (.initiator, .run 0),
      (.initiator, .send 0 true), (.acceptor, .deliver), (.acceptor, .handle), (.acceptor, .read 3),
      (.acceptor, .counted), (.acceptor, .dropWrite), (.acceptor, .dropRead), (.acceptor, .run 2),
      (.acceptor, .run 2), (.acceptor, .send 0 true), (.acceptor, .send 0 true),
      (.initiator, .deliver), (.initiator, .handle), (.initiator, .deliver), (.initiator, .handle),
      (.initiator, .read 1), (.initiator, .counted), (.initiator, .dropRead), (.initiator, .run 6),
      (.initiator, .run 0), (.initiator, .run 8)] : List (Party × Event)).map fun x => .act x.1 x.2

/-- The initiator has shut its direction down and its entry is idle. -/
theorem shut_connection_idle :
    (exec Shutdowns.step (start 1 0 ⟨1, 5, 9, .stream, []⟩) readTheBytes).shut .initiator = true ∧
      ((exec Shutdowns.step (start 1 0 ⟨1, 5, 9, .stream, []⟩) readTheBytes).ends
        .initiator).state = .idle := by
  decide +kernel

end Shutdowns

end BuckyP2p.Tcp
