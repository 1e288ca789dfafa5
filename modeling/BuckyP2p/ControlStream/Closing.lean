import BuckyP2p.ControlStream.Runtime

/-!
# BuckyP2p.ControlStream.Closing — what `close_all` reaches

`close_all` sets the flag, drains `streams`, and then drains `pending_opens`.  A call that has passed
the check of the flag may still put a stream into the map.  `Orderly` says that none does after the
drain, and that no region takes the stream of somebody else out of the map; then, when `close_all` is
over and the calls that ran beside it are, both maps are empty and every reader has been told.

* `Chan.Evolves`: what every access to a channel keeps, `Chan.Closed` among it.
* `Reached`: a channel that is closed, or that `streams` has, or that a call is about to put there.
* `Inv`: every channel that was given to a reader, or is promised to one, is reached.
-/

namespace BuckyP2p.ControlStream

open Lib
open Tcp (TunnelPurpose)

/-! ### A channel and its accesses -/

/-- What the region of `deliver` does with the sender. -/
theorem deliverInto_cases (tx : Channel InboundItem) (bytes : List U8) :
    deliverInto tx bytes = (tx.sendOrDrop queueFull, some .overflow) ∨
      (tx.receiverOpen = true ∧ controlStreamQueueTerminalReserve < tx.free ∧
        deliverInto tx bytes = ({ tx with sent := tx.sent ++ [.data bytes] }, none)) ∨
      (tx.receiverOpen = false ∧ deliverInto tx bytes = (tx, some .readerClosed)) := by
  by_cases hfree : tx.free ≤ controlStreamQueueTerminalReserve
  · left
    rw [deliverInto, if_pos hfree]
  · right
    by_cases hopen : tx.receiverOpen = true
    · refine .inl ⟨hopen, by omega, ?_⟩
      rw [deliverInto, if_neg hfree, Channel.trySend_eq_ok hopen (by omega)]
    · have hclosed : tx.receiverOpen = false := by simpa using hopen
      have hsend : tx.trySend (.data bytes) = .error .closed := by
        simp [Channel.trySend, hclosed]
      refine .inr ⟨hclosed, ?_⟩
      rw [deliverInto, if_neg hfree, hsend]

/-- A poll leaves the channel as it is or takes the first item. -/
theorem ControlStreamRead.pollRead_rx (r : ControlStreamRead) (sender : Bool) (n : Nat) :
    (r.pollRead sender n).1.rx = r.rx ∨ ∃ x rest, r.rx.queue = x :: rest ∧
      (r.pollRead sender n).1.rx = { r.rx with received := r.rx.received + 1 } := by
  by_cases hlt : r.pendingOffset < r.pending.length
  · left
    simp only [pollRead, if_pos hlt]
    split <;> rfl
  · cases hqueue : r.rx.queue with
    | nil =>
      left
      simp only [pollRead, if_neg hlt, Channel.recv_eq_none hqueue]
      split <;> rfl
    | cons x rest =>
      refine .inr ⟨x, rest, rfl, ?_⟩
      simp only [pollRead, if_neg hlt, Channel.recv_eq_some hqueue]
      cases x with
      | data bytes => dsimp only; split <;> rfl
      | fin => rfl
      | reset code msg => rfl

namespace Chan

/-- An item that ends the stream was sent to the reader. -/
def Told (ch : Chan) : Prop := ∃ item ∈ ch.read.rx.sent, ∃ e, Terminal item e

/-- The reader is gone, or it was told. -/
def Closed (ch : Chan) : Prop := ch.read.rx.receiverOpen = true → ch.Told

/-- There is a slot for the item that ends the stream until there is one in the channel. -/
structure Sound (ch : Chan) : Prop where
  received_le : ch.read.rx.received ≤ ch.read.rx.sent.length
  capacity : ch.read.rx.capacity = controlStreamQueueCapacity + controlStreamQueueTerminalReserve
  room : ch.read.rx.receiverOpen = true →
    ch.Told ∨ ch.read.rx.queue.length ≤ controlStreamQueueCapacity

/-- What an access to a channel keeps. -/
structure Evolves (ch ch' : Chan) : Prop where
  sound : ch.Sound → ch'.Sound
  closed : ch.Closed → ch'.Closed

theorem Evolves.refl (ch : Chan) : ch.Evolves ch := ⟨fun h => h, fun h => h⟩

theorem Evolves.trans {a b c : Chan} (hab : a.Evolves b) (hbc : b.Evolves c) : a.Evolves c :=
  ⟨fun h => hbc.sound (hab.sound h), fun h => hbc.closed (hab.closed h)⟩

variable {ch ch' : Chan} {item : InboundItem} {e : Ending}

theorem new_sound (id : StreamId) (origin : Origin) (registered removed : Bool) :
    Sound ⟨id, origin, .new inboundChannel, registered, removed⟩ :=
  ⟨Nat.le_refl 0, rfl, fun _ => .inr (Nat.zero_le _)⟩

/-- The same channel, marked. -/
theorem evolves_of_rx_eq (h : ch'.read.rx = ch.read.rx) : ch.Evolves ch' := by
  constructor
  · intro hsound
    refine ⟨?_, ?_, ?_⟩
    · rw [h]
      exact hsound.received_le
    · rw [h]
      exact hsound.capacity
    · unfold Told
      rw [h]
      exact hsound.room
  · intro hclosed
    unfold Closed Told
    rw [h]
    exact hclosed

theorem Told.of_sent (h : ch.Told) (hsub : ch.read.rx.sent ⊆ ch'.read.rx.sent) : ch'.Told := by
  obtain ⟨item, hmem, e, hterm⟩ := h
  exact ⟨item, hsub hmem, e, hterm⟩

/-- There is a slot, as long as the reader was not told. -/
theorem Sound.free_pos (h : ch.Sound) (hopen : ch.read.rx.receiverOpen = true) (hnot : ¬ ch.Told) :
    0 < ch.read.rx.free := by
  have hlen := (h.room hopen).resolve_left hnot
  rw [Channel.free, h.capacity]
  simp only [controlStreamQueueCapacity, controlStreamQueueTerminalReserve] at hlen ⊢
  omega

/-- An item is put into the channel: one that ends the stream, or one that leaves a slot. -/
theorem evolves_of_sent (hrx : ch'.read.rx = { ch.read.rx with sent := ch.read.rx.sent ++ [item] })
    (hroom : ch'.Told ∨ ch.read.rx.queue.length < controlStreamQueueCapacity) : ch.Evolves ch' := by
  have hsub : ch.read.rx.sent ⊆ ch'.read.rx.sent := by
    rw [hrx]
    exact List.subset_append_left ..
  constructor
  · intro hsound
    refine ⟨?_, ?_, ?_⟩
    · rw [hrx]
      have hle := hsound.received_le
      simp only [List.length_append, List.length_singleton]
      omega
    · rw [hrx]
      exact hsound.capacity
    · intro _
      refine hroom.imp_right fun hlt => ?_
      rw [hrx, Channel.queue_send hsound.received_le, List.length_append]
      exact hlt
  · intro hclosed hopen
    rw [hrx] at hopen
    exact (hclosed hopen).of_sent hsub

/-- An item that ends the stream is sent on the channel, if there is a reader and a slot. -/
theorem evolves_of_terminal (hterm : Terminal item e)
    (hrx : ch'.read.rx = ch.read.rx.sendOrDrop item) : ch.Evolves ch' := by
  obtain ⟨-, -, hsend⟩ | ⟨-, hsame⟩ := ch.read.rx.sendOrDrop_cases item
  · rw [hsend] at hrx
    refine evolves_of_sent hrx (.inl ⟨item, ?_, e, hterm⟩)
    rw [hrx]
    exact List.mem_append_right _ List.mem_cons_self
  · exact evolves_of_rx_eq (hrx.trans hsame)

/-- Then the channel is closed. -/
theorem Sound.closed_of_terminal (h : ch.Sound) (hterm : Terminal item e)
    (hrx : ch'.read.rx = ch.read.rx.sendOrDrop item) : ch'.Closed := by
  intro hopen
  obtain ⟨-, -, hsend⟩ | ⟨hfail, hsame⟩ := ch.read.rx.sendOrDrop_cases item
  · refine ⟨item, ?_, e, hterm⟩
    rw [hrx, hsend]
    exact List.mem_append_right _ List.mem_cons_self
  · rw [hrx, hsame] at hopen
    by_contra hnot
    have hnot' : ¬ ch.Told := by
      intro htold
      apply hnot
      refine htold.of_sent ?_
      rw [hrx, hsame]
      exact List.Subset.refl _
    have hfree := h.free_pos hopen hnot'
    rcases hfail with hclosed | hfull
    · rw [hclosed] at hopen
      cases hopen
    · omega

theorem evolves_terminate (hterm : Terminal item e) : ch.Evolves (ch.terminate item) :=
  evolves_of_terminal hterm rfl

theorem queueFull_terminal : Terminal queueFull .failed := .reset ..

theorem evolves_deliver (bytes : List U8) : ch.Evolves (ch.deliver bytes) := by
  obtain hover | ⟨-, hfree, hsent⟩ | ⟨-, hgone⟩ := deliverInto_cases ch.read.rx bytes
  · exact evolves_of_terminal queueFull_terminal (congrArg Prod.fst hover)
  · have hrx : (ch.deliver bytes).read.rx = _ := congrArg Prod.fst hsent
    constructor
    · intro hsound
      refine (evolves_of_sent hrx (.inr ?_)).sound hsound
      rw [Channel.free, hsound.capacity] at hfree
      omega
    · intro hclosed hopen
      rw [hrx] at hopen
      refine (hclosed hopen).of_sent ?_
      rw [hrx]
      exact List.subset_append_left ..
  · exact evolves_of_rx_eq (congrArg Prod.fst hgone)

/-- A delivery that fails closes the channel. -/
theorem Sound.closed_of_failure (h : ch.Sound) {bytes : List U8} {failure : DeliveryFailure}
    (hfail : (deliverInto ch.read.rx bytes).2 = some failure) : (ch.deliver bytes).Closed := by
  obtain hover | ⟨-, -, hsent⟩ | ⟨hclosed, hgone⟩ := deliverInto_cases ch.read.rx bytes
  · exact h.closed_of_terminal queueFull_terminal (congrArg Prod.fst hover)
  · rw [hsent] at hfail
    cases hfail
  · intro hopen
    have hrx : (ch.deliver bytes).read.rx = ch.read.rx := congrArg Prod.fst hgone
    rw [hrx, hclosed] at hopen
    cases hopen

theorem evolves_dropReceiver : ch.Evolves ch.dropReceiver := by
  constructor
  · intro hsound
    refine ⟨Nat.le_refl _, hsound.capacity, ?_⟩
    intro hopen
    cases hopen
  · intro _ hopen
    cases hopen

theorem dropReceiver_closed (ch : Chan) : ch.dropReceiver.Closed := by
  intro hopen
  cases hopen

theorem evolves_pollRead (n : Nat) : ch.Evolves (ch.pollRead n) := by
  obtain hsame | ⟨x, rest, hqueue, hrecv⟩ := ch.read.pollRead_rx true n
  · exact evolves_of_rx_eq hsame
  · have hrx : (ch.pollRead n).read.rx = _ := hrecv
    have htold : ch.Told → (ch.pollRead n).Told := by
      intro htold
      refine htold.of_sent ?_
      rw [hrx]
      exact List.Subset.refl _
    constructor
    · intro hsound
      refine ⟨?_, ?_, ?_⟩
      · rw [hrx]
        exact Channel.received_lt hqueue
      · rw [hrx]
        exact hsound.capacity
      · intro hopen
        rw [hrx] at hopen
        refine (hsound.room hopen).imp htold fun hle => ?_
        rw [hrx, Channel.queue_recv hqueue]
        rw [hqueue, List.length_cons] at hle
        omega
    · intro hclosed hopen
      rw [hrx] at hopen
      exact htold (hclosed hopen)

end Chan

/-- All the channels, after accesses to some of them and with new ones. -/
structure Evolve (xs ys : List Chan) : Prop where
  old : ∀ (c : Nat) (ch : Chan), xs[c]? = some ch → ∃ ch', ys[c]? = some ch' ∧ ch.Evolves ch'
  sound : (∀ ch ∈ xs, Chan.Sound ch) → ∀ ch ∈ ys, Chan.Sound ch

namespace Evolve

variable {xs ys zs : List Chan}

theorem refl (xs : List Chan) : Evolve xs xs := ⟨fun _ ch h => ⟨ch, h, .refl ch⟩, fun h => h⟩

theorem trans (hxy : Evolve xs ys) (hyz : Evolve ys zs) : Evolve xs zs := by
  refine ⟨?_, fun h => hyz.sound (hxy.sound h)⟩
  intro c ch hc
  obtain ⟨ch', hc', hev⟩ := hxy.old c ch hc
  obtain ⟨ch'', hc'', hev'⟩ := hyz.old c ch' hc'
  exact ⟨ch'', hc'', hev.trans hev'⟩

theorem modify {f : Chan → Chan} (h : ∀ ch : Chan, ch.Evolves (f ch)) (c : Nat) :
    Evolve xs (xs.modify c f) := by
  constructor
  · intro c' ch hc'
    rw [List.getElem?_modify, hc']
    by_cases heq : c = c'
    · exact ⟨f ch, by simp [heq], h ch⟩
    · exact ⟨ch, by simp [heq], .refl ch⟩
  · intro hsound ch hmem
    obtain ⟨c', hc'⟩ := List.mem_iff_getElem?.mp hmem
    rw [List.getElem?_modify] at hc'
    cases hold : xs[c']? with
    | none =>
      rw [hold] at hc'
      cases hc'
    | some old =>
      rw [hold] at hc'
      have hold' : old.Sound := hsound old (List.mem_of_getElem? hold)
      by_cases heq : c = c'
      · obtain rfl : f old = ch := by simpa [heq] using hc'
        exact (h old).sound hold'
      · obtain rfl : old = ch := by simpa [heq] using hc'
        exact hold'

theorem append {ch : Chan} (h : ch.Sound) : Evolve xs (xs ++ [ch]) := by
  constructor
  · intro c old hc
    have hlt : c < xs.length := (List.getElem?_eq_some_iff.mp hc).1
    exact ⟨old, by rw [List.getElem?_append_left hlt, hc], .refl old⟩
  · intro hsound x hx
    rcases List.mem_append.mp hx with hx | hx
    · exact hsound x hx
    · rw [List.mem_singleton] at hx
      rw [hx]
      exact h

theorem length_le (h : Evolve xs ys) : xs.length ≤ ys.length := by
  by_contra hlt
  have hlast : ys.length < xs.length := by omega
  obtain ⟨ch', hc', -⟩ := h.old ys.length _ (List.getElem?_eq_getElem hlast)
  have hnone : ys[ys.length]? = none := List.getElem?_eq_none (Nat.le_refl _)
  rw [hnone] at hc'
  cases hc'

end Evolve

/-! ### The calls and the channels -/

namespace OpenCall

/-- The channel that the call is given if its waiter gets a success. -/
def listens (call : OpenCall) : Option Nat :=
  match call.phase with
  | .sending _ c | .waiting _ c => some c
  | _ => none

theorem listens_eq_some {call : OpenCall} {c : Nat} (h : call.listens = some c) :
    ∃ id, call.phase = .sending id c ∨ call.phase = .waiting id c := by
  unfold listens at h
  split at h
  case h_1 id c' hphase =>
    cases h
    exact ⟨id, .inl hphase⟩
  case h_2 id c' hphase =>
    cases h
    exact ⟨id, .inr hphase⟩
  case h_3 => cases h

/-- The entry of `pending_opens` that the call has yet to clean up. -/
def awaits (call : OpenCall) : Option (StreamId × Nat) :=
  match call.phase with
  | .sending id c | .waiting id c | .leaving id c _ => some (id, c)
  | _ => none

/-- The channel that the call has been given, or will be unless it is dropped. -/
def granted (call : OpenCall) : Option Nat :=
  match call.phase with
  | .sending _ c | .waiting _ c => if call.waiter = some (.ok ()) then some c else none
  | .leaving _ c .ok => some c
  | .returned c .ok => c
  | _ => none

end OpenCall

namespace Runtime

def ClosedAt (r : Runtime) (c : Nat) : Prop := ∃ ch, r.chans[c]? = some ch ∧ ch.Closed

/-- The channel is closed, or `streams` has it, or a call is about to put it there. -/
def Reached (r : Runtime) (c : Nat) : Prop :=
  c < r.chans.length ∧
    (r.ClosedAt c ∨ (∃ id, r.streams.lookup id = some c) ∨ ∃ id, Handler.respInsert id c ∈ r.handlers)

/-- A pending open whose call, while it listens, listens for its channel. -/
def Backed (r : Runtime) (p : PendingOpen) : Prop :=
  p.inboundTx < r.chans.length ∧ ∃ call, r.opens[p.waiter]? = some call ∧
    (call.waiterRx = true → call.listens = some p.inboundTx)

/-- What a call of `on_data` relies on. -/
def Allowed (r : Runtime) : Handler → Prop
  | .openPrepare _ c _ _ => r.Reached c
  | .openRemove _ c => r.ClosedAt c
  | .respSend _ _ p => r.Backed p
  | _ => True

/-- What a call of `close_all` has done when it stands at this phase. -/
def Closes (r : Runtime) (phase : ClosePhase) : Prop :=
  (phase ≠ .swapping → r.closed = true) ∧
    (phase = .drainingPending ∨ phase = .clearingListener → r.drained = true)

structure Inv (r : Runtime) : Prop where
  sound : ∀ ch ∈ r.chans, Chan.Sound ch
  drained : r.drained = true → r.streams = ∅
  closers : ∀ phase reason, (phase, reason) ∈ r.closers → r.Closes phase
  closedAll : r.closedAll = true → r.closed = true ∧ r.drained = true
  accepted : ∀ c ∈ r.accepted, r.Reached c
  granted : ∀ call ∈ r.opens, ∀ c, OpenCall.granted call = some c → r.Reached c
  unsent : ∀ call ∈ r.opens, OpenCall.early call = true → call.waiter = none
  handlers : ∀ h ∈ r.handlers, r.Allowed h
  pending : ∀ id p, r.pendingOpens.lookup id = some p → r.Backed p ∧
    ∃ call, r.opens[p.waiter]? = some call ∧ call.awaits = some (id, p.inboundTx)

theorem new_inv (isInitiator : Bool) : Inv (new isInitiator) := by
  constructor
  case pending =>
    intro id p hp
    cases hp
  all_goals simp [new]

variable {r r' : Runtime} {c : Nat}

/-- What is relied on is still there after the step. -/
structure Keeps (r r' : Runtime) : Prop where
  closedAt : ∀ c, r.ClosedAt c → r'.ClosedAt c
  reached : ∀ c, r.Reached c → r'.Reached c
  backed : ∀ p, r.Backed p → r'.Backed p

theorem Keeps.allowed (hk : Keeps r r') {h : Handler} (hh : r.Allowed h) : r'.Allowed h := by
  cases h with
  | openPrepare id c index prepare => exact hk.reached c hh
  | openRemove id c => exact hk.closedAt c hh
  | respSend id result p => exact hk.backed p hh
  | _ => trivial

theorem ClosedAt.evolve (h : r.ClosedAt c) (hev : Evolve r.chans r'.chans) : r'.ClosedAt c := by
  obtain ⟨ch, hch, hclosed⟩ := h
  obtain ⟨ch', hch', hevolves⟩ := hev.old c ch hch
  exact ⟨ch', hch', hevolves.closed hclosed⟩

theorem ClosedAt.lt (h : r.ClosedAt c) : c < r.chans.length := by
  obtain ⟨ch, hch, -⟩ := h
  exact (List.getElem?_eq_some_iff.mp hch).1

theorem ClosedAt.reached (h : r.ClosedAt c) : r.Reached c := ⟨h.lt, .inl h⟩

/-- The fields that `Inv` speaks of. -/
def core (r : Runtime) : List Chan × Table StreamId Nat × Table StreamId PendingOpen ×
    List OpenCall × List Handler × List (ClosePhase × P2pError) × List Nat × Bool × Bool × Bool :=
  (r.chans, r.streams, r.pendingOpens, r.opens, r.handlers, r.closers, r.accepted, r.closed,
    r.drained, r.closedAll)

theorem Inv.congr (h : Inv r) (hcore : r'.core = r.core) : Inv r' := by
  obtain ⟨_, _, _, _, _, _, _, _, _, _, _, _, _, _, _, _, _, _⟩ := r
  obtain ⟨_, _, _, _, _, _, _, _, _, _, _, _, _, _, _, _, _, _⟩ := r'
  simp only [core, Prod.mk.injEq] at hcore
  obtain ⟨rfl, rfl, rfl, rfl, rfl, rfl, rfl, rfl, rfl, rfl⟩ := hcore
  exact ⟨h.sound, h.drained, h.closers, h.closedAll, h.accepted, h.granted, h.unsent, h.handlers,
    h.pending⟩

/-- Accesses to channels, new channels, and regions that move no stream. -/
theorem keeps_of_evolve (hev : Evolve r.chans r'.chans) (hstreams : r'.streams = r.streams)
    (hopens : r'.opens = r.opens)
    (hhandlers : ∀ id c, Handler.respInsert id c ∈ r.handlers →
      .respInsert id c ∈ r'.handlers ∨ ∃ id, r.streams.lookup id = some c) : Keeps r r' := by
  refine ⟨fun c hc => hc.evolve hev, ?_, ?_⟩
  · rintro c ⟨hlt, hclosed | hstream | ⟨id, hmem⟩⟩
    · exact (hclosed.evolve hev).reached
    · exact ⟨Nat.lt_of_lt_of_le hlt hev.length_le, .inr (.inl (hstreams ▸ hstream))⟩
    · refine ⟨Nat.lt_of_lt_of_le hlt hev.length_le, .inr ?_⟩
      rcases hhandlers id c hmem with hkept | hstream
      · exact .inr ⟨id, hkept⟩
      · exact .inl (hstreams ▸ hstream)
  · rintro p ⟨hlt, hcall⟩
    exact ⟨Nat.lt_of_lt_of_le hlt hev.length_le, hopens ▸ hcall⟩

theorem Inv.withChans (h : Inv r) {xs : List Chan} (hev : Evolve r.chans xs) :
    Inv { r with chans := xs } := by
  have hk : Keeps r { r with chans := xs } := keeps_of_evolve hev rfl rfl fun _ _ hmem => .inl hmem
  exact ⟨hev.sound h.sound, h.drained, h.closers, h.closedAll,
    fun c hc => hk.reached c (h.accepted c hc),
    fun call hcall c hc => hk.reached c (h.granted call hcall c hc), h.unsent,
    fun x hx => hk.allowed (h.handlers x hx),
    fun id p hp => (h.pending id p hp).imp_left (hk.backed p)⟩

/-- A call of `on_data` goes on, and none that is about to put a stream into the map is lost. -/
theorem Inv.withHandlers (h : Inv r) {hs : List Handler}
    (hnew : ∀ x ∈ hs, x ∈ r.handlers ∨ Allowed { r with handlers := hs } x)
    (hkeep : ∀ id c, Handler.respInsert id c ∈ r.handlers →
      .respInsert id c ∈ hs ∨ ∃ id, r.streams.lookup id = some c) :
    Inv { r with handlers := hs } := by
  have hk : Keeps r { r with handlers := hs } := keeps_of_evolve (.refl _) rfl rfl hkeep
  exact ⟨h.sound, h.drained, h.closers, h.closedAll,
    fun c hc => hk.reached c (h.accepted c hc),
    fun call hcall c hc => hk.reached c (h.granted call hcall c hc), h.unsent,
    fun x hx => (hnew x hx).elim (fun hold => hk.allowed (h.handlers x hold)) fun hx => hx,
    fun id p hp => (h.pending id p hp).imp_left (hk.backed p)⟩

theorem Inv.setHandler (h : Inv r) {i : Nat} {old : Handler} (new : Handler)
    (hi : r.handlers[i]? = some old)
    (hold : ∀ id c, old ≠ .respInsert id c) (hnew : (r.setHandler i new).Allowed new) :
    Inv (r.setHandler i new) := by
  refine h.withHandlers ?_ ?_
  · intro x hx
    rcases List.mem_or_eq_of_mem_set hx with hx | rfl
    · exact .inl hx
    · exact .inr hnew
  · intro id c hmem
    exact .inl <| mem_set_of_ne hi hmem fun heq => hold id c heq.symm

theorem Inv.endHandler (h : Inv r) {i : Nat} {old : Handler} (hi : r.handlers[i]? = some old)
    (hold : ∀ id c, old ≠ .respInsert id c) : Inv (r.endHandler i) := by
  refine h.withHandlers ?_ ?_
  · intro x hx
    exact .inl (List.mem_of_mem_eraseIdx hx)
  · intro id c hmem
    exact .inl <| mem_eraseIdx_of_ne hi hmem fun heq => hold id c heq.symm

/-- A region of a call of `open`. -/
theorem Inv.modifyOpen (h : Inv r) {k : Nat} {call : OpenCall} {f : OpenCall → OpenCall}
    (hk : r.opens[k]? = some call)
    (hgranted : ∀ c, (f call).granted = some c → call.granted = some c ∨ r.Reached c)
    (hunsent : (f call).early = true → call.early = true ∧ (f call).waiter = call.waiter)
    (hlistens : (f call).waiterRx = true → call.waiterRx = true ∧
      ∀ c, call.listens = some c → (f call).listens = some c)
    (hawaits : ∀ id p, r.pendingOpens.lookup id = some p → p.waiter = k →
      call.awaits = some (id, p.inboundTx) → (f call).awaits = some (id, p.inboundTx)) :
    Inv { r with opens := r.opens.modify k f } := by
  have hback : ∀ p, r.Backed p → Backed { r with opens := r.opens.modify k f } p := by
    rintro p ⟨hlt, call', hcall', hl⟩
    by_cases heq : k = p.waiter
    · obtain rfl : call = call' := by
        rw [← heq, hk] at hcall'
        exact Option.some.inj hcall'
      refine ⟨hlt, f call, by simp [← heq, hk], ?_⟩
      intro hrx
      obtain ⟨hrx', hkeep⟩ := hlistens hrx
      exact hkeep _ (hl hrx')
    · exact ⟨hlt, call', by simp [heq, hcall'], hl⟩
  have hkeeps : Keeps r { r with opens := r.opens.modify k f } :=
    ⟨fun c hc => hc, fun c hc => hc, hback⟩
  have hmod : ∀ x ∈ r.opens.modify k f, x = f call ∨ x ∈ r.opens := by
    intro x hx
    obtain ⟨j, hj⟩ := List.mem_iff_getElem?.mp hx
    rw [List.getElem?_modify] at hj
    by_cases heq : k = j
    · subst heq
      rw [hk] at hj
      obtain rfl : f call = x := by simpa using hj
      exact .inl rfl
    · have hj' : r.opens[j]? = some x := by simpa [heq] using hj
      exact .inr (List.mem_of_getElem? hj')
  refine ⟨h.sound, h.drained, h.closers, h.closedAll, h.accepted, ?_, ?_, ?_, ?_⟩
  · intro x hx c hc
    rcases hmod x hx with rfl | hold
    · rcases hgranted c hc with hold | hreached
      · exact h.granted call (List.mem_of_getElem? hk) c hold
      · exact hreached
    · exact h.granted x hold c hc
  · intro x hx hearly
    rcases hmod x hx with rfl | hold
    · obtain ⟨hcall, heq⟩ := hunsent hearly
      exact heq.trans (h.unsent call (List.mem_of_getElem? hk) hcall)
    · exact h.unsent x hold hearly
  · exact fun x hx => hkeeps.allowed (h.handlers x hx)
  · intro id p hp
    obtain ⟨hb, call', hcall', haw⟩ := h.pending id p hp
    refine ⟨hback p hb, ?_⟩
    by_cases heq : k = p.waiter
    · obtain rfl : call = call' := by
        rw [← heq, hk] at hcall'
        exact Option.some.inj hcall'
      exact ⟨f call, by simp [← heq, hk], hawaits id p hp heq.symm haw⟩
    · exact ⟨call', by simp [heq, hcall'], haw⟩

theorem Inv.newOpen (h : Inv r) (purpose : TunnelPurpose) :
    Inv { r with opens := r.opens ++ [⟨purpose, none, .checking, none, true⟩] } := by
  have hback : ∀ p, r.Backed p →
      Backed { r with opens := r.opens ++ [⟨purpose, none, .checking, none, true⟩] } p := by
    rintro p ⟨hlt, call, hcall, hl⟩
    have hbound : p.waiter < r.opens.length := (List.getElem?_eq_some_iff.mp hcall).1
    exact ⟨hlt, call, (List.getElem?_append_left hbound).trans hcall, hl⟩
  have hkeeps : Keeps r { r with opens := r.opens ++ [⟨purpose, none, .checking, none, true⟩] } :=
    ⟨fun c hc => hc, fun c hc => hc, hback⟩
  refine ⟨h.sound, h.drained, h.closers, h.closedAll, h.accepted, ?_, ?_, ?_, ?_⟩
  · intro x hx c hc
    rcases List.mem_append.mp hx with hx | hx
    · exact h.granted x hx c hc
    · obtain rfl := List.mem_singleton.mp hx
      cases hc
  · intro x hx hearly
    rcases List.mem_append.mp hx with hx | hx
    · exact h.unsent x hx hearly
    · obtain rfl := List.mem_singleton.mp hx
      rfl
  · exact fun x hx => hkeeps.allowed (h.handlers x hx)
  · intro id p hp
    obtain ⟨hb, call, hcall, haw⟩ := h.pending id p hp
    have hbound : p.waiter < r.opens.length := (List.getElem?_eq_some_iff.mp hcall).1
    exact ⟨hback p hb, call, (List.getElem?_append_left hbound).trans hcall, haw⟩

/-- Entries of `pending_opens` are taken out. -/
theorem Inv.lessPending (h : Inv r) {t : Table StreamId PendingOpen}
    (hsub : ∀ id p, t.lookup id = some p → r.pendingOpens.lookup id = some p) :
    Inv { r with pendingOpens := t } :=
  ⟨h.sound, h.drained, h.closers, h.closedAll, h.accepted, h.granted, h.unsent, h.handlers,
    fun id p hp => h.pending id p (hsub id p hp)⟩

/-- A stream is taken out of the map after its channel was closed. -/
theorem Inv.eraseStream (h : Inv r) (id : StreamId)
    (hclosed : ∀ c, r.streams.lookup id = some c → c < r.chans.length → r.ClosedAt c) :
    Inv { r with streams := r.streams.erase id } := by
  have hreached : ∀ c, r.Reached c → Reached { r with streams := r.streams.erase id } c := by
    rintro c ⟨hlt, hc | ⟨id', hid'⟩ | hins⟩
    · exact ⟨hlt, .inl hc⟩
    · by_cases heq : id' = id
      · rw [heq] at hid'
        exact ⟨hlt, .inl (hclosed c hid' hlt)⟩
      · exact ⟨hlt, .inr (.inl ⟨id', (AList.lookup_erase_ne heq).trans hid'⟩)⟩
    · exact ⟨hlt, .inr (.inr hins)⟩
  have hkeeps : Keeps r { r with streams := r.streams.erase id } :=
    ⟨fun c hc => hc, hreached, fun p hp => hp⟩
  refine ⟨h.sound, ?_, h.closers, h.closedAll, fun c hc => hreached c (h.accepted c hc),
    fun call hcall c hc => hreached c (h.granted call hcall c hc), h.unsent,
    fun x hx => hkeeps.allowed (h.handlers x hx), h.pending⟩
  intro hd
  change r.streams.erase id = ∅
  rw [h.drained hd]
  rfl

/-- A new stream in the map, before the drain. -/
theorem Inv.insertStream (h : Inv r) {id : StreamId} (hdrained : r.drained = false)
    (hnone : r.streams.lookup id = none) (c : Nat) :
    Inv { r with streams := r.streams.insert id c } := by
  have hreached : ∀ c', r.Reached c' → Reached { r with streams := r.streams.insert id c } c' := by
    rintro c' ⟨hlt, hc | ⟨id', hid'⟩ | hins⟩
    · exact ⟨hlt, .inl hc⟩
    · have hne : id' ≠ id := by
        rintro rfl
        rw [hnone] at hid'
        cases hid'
      exact ⟨hlt, .inr (.inl ⟨id', (AList.lookup_insert_ne hne).trans hid'⟩)⟩
    · exact ⟨hlt, .inr (.inr hins)⟩
  have hkeeps : Keeps r { r with streams := r.streams.insert id c } :=
    ⟨fun c hc => hc, hreached, fun p hp => hp⟩
  refine ⟨h.sound, ?_, h.closers, h.closedAll, fun c hc => hreached c (h.accepted c hc),
    fun call hcall c hc => hreached c (h.granted call hcall c hc), h.unsent,
    fun x hx => hkeeps.allowed (h.handlers x hx), h.pending⟩
  intro hd
  rw [hdrained] at hd
  cases hd

/-! ### `open` -/

/-- A region of a call of `open` before it has made its channel. -/
theorem Inv.modifyEarly (h : Inv r) {k : Nat} {call : OpenCall} {f : OpenCall → OpenCall}
    (hk : r.opens[k]? = some call) (hearly : call.early = true)
    (hgranted : (f call).granted = none) (hwaiter : (f call).waiter = call.waiter)
    (hrx : (f call).waiterRx = call.waiterRx) : Inv { r with opens := r.opens.modify k f } := by
  have hlistens : call.listens = none := by
    unfold OpenCall.early at hearly
    unfold OpenCall.listens
    split <;> simp_all
  have hawaits : call.awaits = none := by
    unfold OpenCall.early at hearly
    unfold OpenCall.awaits
    split <;> simp_all
  refine h.modifyOpen hk ?_ (fun _ => ⟨hearly, hwaiter⟩) ?_ ?_
  · intro c hc
    rw [hgranted] at hc
    cases hc
  · intro hrx'
    refine ⟨hrx ▸ hrx', ?_⟩
    intro c hc
    rw [hlistens] at hc
    cases hc
  · intro id p _ _ haw
    rw [hawaits] at haw
    cases haw

/-- The region that makes the channel and puts the call into `pending_opens`. -/
theorem Inv.insertPending (h : Inv r) {k : Nat} {call : OpenCall} {id : StreamId}
    (hk : r.opens[k]? = some call) (hphase : call.phase = .inserting id) :
    Inv (r.runOpen k) := by
  have hearly : call.early = true := by
    unfold OpenCall.early
    rw [hphase]
  have hwaiter := h.unsent call (List.mem_of_getElem? hk) hearly
  have hlistens : call.listens = none := by
    unfold OpenCall.listens
    rw [hphase]
  have hawaits : call.awaits = none := by
    unfold OpenCall.awaits
    rw [hphase]
  have hchan := h.withChans (.append (Chan.new_sound id (.opened k) false false))
  have hopen := hchan.modifyOpen (f := fun call => { call with phase := .sending id r.chans.length })
    hk (by simp [OpenCall.granted, hwaiter]) (by simp [OpenCall.early])
    (fun hrx => ⟨hrx, by simp [hlistens]⟩) (by simp [hawaits])
  have hrun : r.runOpen k = { r.setPhase k (.sending id r.chans.length) with
      chans := r.chans ++ [⟨id, .opened k, .new inboundChannel, false, false⟩]
      pendingOpens := r.pendingOpens.insert id ⟨call.purpose, r.chans.length, k⟩ } := by
    simp only [runOpen, hk, hphase]
  rw [hrun]
  refine ⟨hopen.sound, hopen.drained, hopen.closers, hopen.closedAll, hopen.accepted, hopen.granted,
    hopen.unsent, hopen.handlers, ?_⟩
  intro id' p hp
  by_cases heq : id' = id
  · subst heq
    obtain rfl : _ = p := by simpa using hp
    refine ⟨⟨by simp, { call with phase := .sending id' r.chans.length }, ?_, ?_⟩, ?_⟩
    · simp [setPhase, hk]
    · intro _
      rfl
    · exact ⟨{ call with phase := .sending id' r.chans.length }, by simp [setPhase, hk], rfl⟩
  · exact hopen.pending id' p ((AList.lookup_insert_ne heq).symm.trans hp)

/-- The region of `PendingOpenCleanup`. -/
theorem Inv.cleanup (h : Inv r) {k : Nat} {call : OpenCall} {id : StreamId} {c : Nat}
    {result : OpenEnd} (phase : OpenPhase) (hk : r.opens[k]? = some call)
    (hphase : call.phase = .leaving id c result)
    (hearly : OpenCall.early { call with phase } = false)
    (hgranted : ∀ c, OpenCall.granted { call with phase } = some c → call.granted = some c) :
    Inv { r.setPhase k phase with pendingOpens := r.pendingOpens.erase id } := by
  have hlistens : call.listens = none := by
    unfold OpenCall.listens
    rw [hphase]
  have hawaits : call.awaits = some (id, c) := by
    unfold OpenCall.awaits
    rw [hphase]
  have hless := h.lessPending (t := r.pendingOpens.erase id) fun id' p hp =>
    (Table.lookup_erase_some.mp hp).2
  refine hless.modifyOpen (f := fun call => { call with phase }) hk
    (fun c hc => .inl (hgranted c hc)) ?_ (fun hrx => ⟨hrx, by simp [hlistens]⟩) ?_
  · intro hnew
    rw [hearly] at hnew
    cases hnew
  · intro id' p hp _ haw
    -- the entry of this call was the one that is erased
    obtain ⟨rfl, -⟩ : id = id' ∧ c = p.inboundTx := by
      rw [hawaits] at haw
      simpa using haw
    rw [AList.lookup_erase] at hp
    cases hp

theorem Inv.runOpen (h : Inv r) (k : Nat) : Inv (r.runOpen k) := by
  cases hk : r.opens[k]? with
  | none => simpa only [Runtime.runOpen, hk] using h
  | some call =>
    cases hphase : call.phase with
    | checking =>
      have hearly : call.early = true := by simp [OpenCall.early, hphase]
      simp only [Runtime.runOpen, hk, hphase]
      split
      · exact h.modifyEarly hk hearly rfl rfl rfl
      · exact h.modifyEarly hk hearly rfl rfl rfl
    | allocating =>
      have hearly : call.early = true := by simp [OpenCall.early, hphase]
      simp only [Runtime.runOpen, hk, hphase]
      split
      · exact h.congr rfl
      · exact (h.modifyEarly hk hearly rfl rfl rfl).congr rfl
    | probingPending id =>
      have hearly : call.early = true := by simp [OpenCall.early, hphase]
      simp only [Runtime.runOpen, hk, hphase]
      refine h.modifyEarly hk hearly ?_ rfl rfl
      split <;> rfl
    | probingStreams id =>
      have hearly : call.early = true := by simp [OpenCall.early, hphase]
      simp only [Runtime.runOpen, hk, hphase]
      refine h.modifyEarly hk hearly ?_ rfl rfl
      split <;> rfl
    | inserting id => exact h.insertPending hk hphase
    | leaving id c result =>
      cases result with
      | ok =>
        simp only [Runtime.runOpen, hk, hphase]
        have hgranted : call.granted = some c := by simp [OpenCall.granted, hphase]
        exact (h.cleanup (.returned (some c) .ok) hk hphase rfl fun c' hc' =>
          hgranted.trans hc').congr rfl
      | err err =>
        simp only [Runtime.runOpen, hk, hphase]
        exact h.cleanup _ hk hphase rfl (by simp [OpenCall.granted])
      | cancelled =>
        simp only [Runtime.runOpen, hk, hphase]
        exact h.cleanup _ hk hphase rfl (by simp [OpenCall.granted])
    | dropping c result =>
      simp only [Runtime.runOpen, hk, hphase]
      have hgone := h.withChans (.modify (fun _ => Chan.evolves_dropReceiver) c)
      refine hgone.modifyOpen (f := fun call => { call with phase := .returned none result }) hk
        ?_ (by simp [OpenCall.early]) (fun hrx => ⟨hrx, by simp [OpenCall.listens, hphase]⟩)
        (by simp [OpenCall.awaits, hphase])
      intro c' hc'
      cases result <;> cases hc'
    | sending id c | waiting id c | returned c result =>
      simpa only [Runtime.runOpen, hk, hphase] using h

/-- The call of `open` stops waiting; with a result only if it was granted one. -/
theorem Inv.leave (h : Inv r) {k : Nat} {call : OpenCall} {id : StreamId} {c : Nat}
    (result : OpenEnd) (hk : r.opens[k]? = some call) (hawaits : call.awaits = some (id, c))
    (hresult : result = .ok → call.granted = some c) : Inv (r.leave k id c result) := by
  refine h.modifyOpen hk ?_ (by simp [OpenCall.early]) (by simp) ?_
  · intro c' hc'
    cases result with
    | ok => exact .inl ((hresult rfl).trans hc')
    | err err => cases hc'
    | cancelled => cases hc'
  · intro id' p _ _ haw
    rw [hawaits] at haw
    exact haw

theorem Inv.openSent (h : Inv r) (k : Nat) : Inv (r.openSent k) := by
  unfold Runtime.openSent
  split
  case h_2 => exact h
  case h_1 purpose id' id c waiter waiterRx hk =>
    refine (h.modifyOpen (f := fun call => { call with phase := .waiting id c }) hk ?_ ?_ ?_ ?_).congr rfl
    · exact fun c hc => .inl hc
    · simp [OpenCall.early]
    · exact fun hrx => ⟨hrx, fun c hc => hc⟩
    · exact fun id p _ _ haw => haw

/-- A new call of `close_all`. -/
theorem Inv.newCloser (h : Inv r) (reason : P2pError) :
    Inv { r with closers := r.closers ++ [(.swapping, reason)] } := by
  refine ⟨h.sound, h.drained, ?_, h.closedAll, h.accepted, h.granted, h.unsent, h.handlers, h.pending⟩
  intro phase reason' hmem
  rcases List.mem_append.mp hmem with hmem | hmem
  · exact h.closers phase reason' hmem
  · obtain ⟨rfl, -⟩ : phase = .swapping ∧ reason' = reason := by simpa using hmem
    simp [Closes]

theorem Inv.openSendFails (h : Inv r) (k : Nat) (err : P2pError) (closes : Bool) :
    Inv (r.openSendFails k err closes) := by
  unfold Runtime.openSendFails
  split
  case h_2 => exact h
  case h_1 purpose id' id c waiter waiterRx hk =>
    have hleave := h.leave (.err err) hk rfl (by simp)
    cases closes with
    | true => exact hleave.newCloser err
    | false => exact hleave.congr rfl

theorem Inv.openResumes (h : Inv r) (k : Nat) : Inv (r.openResumes k) := by
  unfold Runtime.openResumes
  split
  case h_1 purpose id' id c waiterRx hk => exact h.leave _ hk rfl fun _ => rfl
  case h_2 purpose id' id c err waiterRx hk => exact h.leave _ hk rfl (by simp)
  case h_3 => exact h

theorem Inv.openCanceled (h : Inv r) (k : Nat) : Inv (r.openCanceled k) := by
  unfold Runtime.openCanceled
  split
  case h_2 => exact h
  case h_1 purpose id' id c waiterRx hk =>
    split
    · exact h
    · exact h.leave _ hk rfl (by simp)

theorem Inv.openTimesOut (h : Inv r) (k : Nat) : Inv (r.openTimesOut k) := by
  unfold Runtime.openTimesOut
  split
  case h_2 => exact h
  case h_1 purpose id' id c waiter waiterRx hk => exact h.leave _ hk rfl (by simp)

theorem Inv.openDropped (h : Inv r) (k : Nat) : Inv (r.openDropped k) := by
  unfold Runtime.openDropped
  split
  case h_3 => exact h
  case h_1 purpose id' id c waiter waiterRx hk => exact h.leave _ hk rfl (by simp)
  case h_2 purpose id' id c waiter waiterRx hk => exact h.leave _ hk rfl (by simp)

/-- A result is sent to the waiter of a pending open. -/
theorem Inv.sendWaiter (h : Inv r) {p : PendingOpen} (result : P2pResult Unit) (hp : r.Backed p)
    (hok : result = .ok () → r.Reached p.inboundTx) : Inv (r.sendWaiter p.waiter result) := by
  obtain ⟨-, call, hcall, hl⟩ := hp
  cases hrx : call.waiterRx with
  | false =>
    refine h.modifyOpen hcall ?_ ?_ ?_ ?_
    · simp only [hrx, Bool.false_eq_true, if_false]
      exact fun c hc => .inl hc
    · simp [hrx]
    · simp [hrx]
    · simp [hrx]
  | true =>
    obtain ⟨id, hphase⟩ := OpenCall.listens_eq_some (hl hrx)
    have hgranted : ∀ c, OpenCall.granted { call with waiter := some result } = some c →
        r.Reached c := by
      intro c hc
      have hsome : (if some result = some (.ok ()) then some p.inboundTx else none) = some c := by
        rcases hphase with hphase | hphase <;> simpa only [OpenCall.granted, hphase] using hc
      split at hsome
      case isTrue hres =>
        cases hsome
        exact hok (Option.some.inj hres)
      case isFalse => cases hsome
    refine h.modifyOpen hcall ?_ ?_ ?_ ?_
    · intro c hc
      rw [if_pos hrx] at hc
      exact .inr (hgranted c hc)
    · rcases hphase with hphase | hphase <;> simp [hrx, OpenCall.early, hphase]
    · simp [hrx, OpenCall.listens]
    · simp [hrx, OpenCall.awaits]

/-! ### `on_data` -/

theorem Inv.accept (h : Inv r) {c : Nat} (hc : r.Reached c) :
    Inv { r with accepted := r.accepted ++ [c] } := by
  refine ⟨h.sound, h.drained, h.closers, h.closedAll, ?_, h.granted, h.unsent, h.handlers, h.pending⟩
  intro c' hc'
  rcases List.mem_append.mp hc' with hold | hnew
  · exact h.accepted c' hold
  · rw [List.mem_singleton] at hnew
    rw [hnew]
    exact hc

theorem closedAt_modify {f : Chan → Chan} (hlt : c < r.chans.length)
    (hf : ∀ ch ∈ r.chans, (f ch).Closed) : ClosedAt { r with chans := r.chans.modify c f } c := by
  have hc : r.chans[c]? = some r.chans[c] := List.getElem?_eq_getElem hlt
  refine ⟨f r.chans[c], ?_, hf _ (List.getElem_mem hlt)⟩
  simp [hc]

/-- The region that ends a stream. -/
theorem Inv.endStream (h : Inv r) {id : StreamId} {item : InboundItem} {e : Ending}
    (hterm : Terminal item e) (hc : r.streams.lookup id = some c) :
    Inv { r.terminate c item with streams := r.streams.erase id } := by
  refine (h.withChans (.modify (fun _ => Chan.evolves_terminate hterm) c)).eraseStream id ?_
  intro c' hc' hlt
  obtain rfl : c = c' := Option.some.inj (hc.symm.trans hc')
  rw [List.length_modify] at hlt
  exact closedAt_modify hlt fun ch hch => (h.sound ch hch).closed_of_terminal hterm rfl

theorem Inv.deliver (h : Inv r) {i : Nat} {id : StreamId} {bytes : List U8} {index : Nat}
    (hi : r.handlers[i]? = some (.delivering id bytes index)) : Inv (r.deliver i id bytes index) := by
  unfold Runtime.deliver
  split
  case h_1 => exact (h.endHandler hi (by simp)).congr rfl
  case h_2 c hc =>
    have hchans := h.withChans (.modify (fun _ => Chan.evolves_deliver bytes) c)
    split
    case h_1 => exact (hchans.endHandler hi (by simp)).congr rfl
    case h_2 failure hfail =>
      obtain ⟨ch, hch, hfail⟩ := Option.bind_eq_some_iff.mp hfail
      have hclosed : ClosedAt { r with chans := r.chans.modify c (Chan.deliver bytes) } c :=
        ⟨ch.deliver bytes, by simp [hch],
          (h.sound ch (List.mem_of_getElem? hch)).closed_of_failure hfail⟩
      have herase := hchans.eraseStream id fun c' hc' _ => by
        obtain rfl : c = c' := Option.some.inj (hc.symm.trans hc')
        exact hclosed
      exact herase.setHandler _ hi (by simp) trivial

theorem Inv.respond (h : Inv r) {i : Nat} {id : StreamId} {result : TunnelCommandResult}
    {pending : PendingOpen} (hi : r.handlers[i]? = some (.respSend id result pending)) :
    Inv (r.respond i id result pending) := by
  have hbacked : r.Backed pending := h.handlers _ (List.mem_of_getElem? hi)
  unfold Runtime.respond
  split
  · split
    · -- the call that is about to put the stream into the map makes the channel reached
      have hset := h.setHandler (.respInsert id pending.inboundTx) hi (by simp) trivial
      have hlt : i < r.handlers.length := (List.getElem?_eq_some_iff.mp hi).1
      refine hset.sendWaiter (p := pending) _ hbacked fun _ => ⟨hbacked.1, .inr (.inr ⟨id, ?_⟩)⟩
      exact List.mem_set hlt _
    · exact h.endHandler hi (by simp)
  · exact (h.endHandler hi (by simp)).sendWaiter (p := pending) _ hbacked (by simp)

/-- No stream is put into the map after `close_all` has drained it, or over another one, and a stream
that `prepare` has refused is taken out of the map only if it is there. -/
def Orderly (r : Runtime) : RuntimeEvent → Prop
  | .runHandler i _ =>
    match r.handlers[i]? with
    | some (.openInsert ..) => r.drained = false
    | some (.respInsert id _) => r.drained = false ∧ r.streams.lookup id = none
    | some (.openRemove id c) => r.streams.lookup id = none ∨ r.streams.lookup id = some c
    | _ => True
  | _ => True

theorem Inv.dispatch (h : Inv r) {i : Nat} {old : Handler} (hi : r.handlers[i]? = some old)
    (hold : ∀ id c, old ≠ .respInsert id c) (index : Nat) (frame : ControlStreamFrame) :
    Inv (r.dispatch i index frame) := by
  cases frame with
  | openStream id purpose =>
    simp only [Runtime.dispatch]
    split
    · exact h.setHandler _ hi hold trivial
    · exact h.setHandler _ hi hold trivial
  | openResp id result => exact h.setHandler _ hi hold trivial
  | data id bytes => exact h.setHandler _ hi hold trivial
  | fin id => exact h.setHandler _ hi hold trivial
  | reset id reason => exact h.setHandler _ hi hold trivial
  | window id credit => exact h.endHandler hi hold

/-- The region of `handle_open` that puts the stream into the map. -/
theorem Inv.openInsert (h : Inv r) {i : Nat} {id : StreamId} {index : Nat} {prepare : Bool}
    (hi : r.handlers[i]? = some (.openInsert id index prepare)) (hdrained : r.drained = false)
    (prepared : Option P2pError) : Inv (r.runHandler i prepared) := by
  simp only [Runtime.runHandler, hi]
  split
  · exact h.setHandler _ hi (by simp) trivial
  case isFalse hnone =>
    have hnone' : r.streams.lookup id = none := by simpa using hnone
    have hchan := h.withChans (.append (Chan.new_sound id (.accepted index) true false))
    have hstream := hchan.insertStream hdrained hnone' r.chans.length
    refine hstream.setHandler _ hi (by simp) ⟨?_, .inr (.inl ⟨id, ?_⟩)⟩
    · simp [Runtime.setHandler]
    · exact AList.lookup_insert _

/-- The region of `handle_open` in which the stream is given to the callback, or not. -/
theorem Inv.openPrepare (h : Inv r) {i : Nat} {id : StreamId} {index : Nat} {prepare : Bool}
    (hi : r.handlers[i]? = some (.openPrepare id c index prepare)) (prepared : Option P2pError) :
    Inv (r.runHandler i prepared) := by
  have hreached : r.Reached c := h.handlers _ (List.mem_of_getElem? hi)
  simp only [Runtime.runHandler, hi]
  split
  · have hchans := h.withChans (.modify (fun _ => Chan.evolves_dropReceiver) c)
    refine hchans.setHandler _ hi (by simp) ?_
    exact closedAt_modify (f := Chan.dropReceiver) hreached.1 fun ch _ => ch.dropReceiver_closed
  · have haccept := h.accept hreached
    exact (haccept.setHandler (.answering id .success) hi (by simp) trivial).congr rfl

theorem Inv.openRemove (h : Inv r) {i : Nat} {id : StreamId}
    (hi : r.handlers[i]? = some (.openRemove id c))
    (hown : r.streams.lookup id = none ∨ r.streams.lookup id = some c) (prepared : Option P2pError) :
    Inv (r.runHandler i prepared) := by
  have hclosed : r.ClosedAt c := h.handlers _ (List.mem_of_getElem? hi)
  simp only [Runtime.runHandler, hi]
  have herase := h.eraseStream id fun c' hc' _ => by
    rcases hown with hnone | hsome
    · rw [hnone] at hc'
      cases hc'
    · rw [hsome] at hc'
      cases hc'
      exact hclosed
  have hset := herase.setHandler (.answering id .retired) hi (by simp) trivial
  split
  · exact hset.withChans (.modify (f := Chan.remove) (fun _ => Chan.evolves_of_rx_eq rfl) _)
  · exact hset

/-- The region of `handle_open_resp` that puts the stream into the map. -/
theorem Inv.respInsert (h : Inv r) {i : Nat} {id : StreamId}
    (hi : r.handlers[i]? = some (.respInsert id c)) (hdrained : r.drained = false)
    (hnone : r.streams.lookup id = none) (prepared : Option P2pError) :
    Inv (r.runHandler i prepared) := by
  simp only [Runtime.runHandler, hi]
  have hchans := h.withChans (.modify (f := Chan.register) (fun _ => Chan.evolves_of_rx_eq rfl) c)
  refine (hchans.insertStream hdrained hnone c).withHandlers ?_ ?_
  · exact fun x hx => .inl (List.mem_of_mem_eraseIdx hx)
  · intro id' c' hmem
    by_cases heq : Handler.respInsert id' c' = .respInsert id c
    · -- this call goes, and the map has its channel
      obtain ⟨rfl, rfl⟩ := Handler.respInsert.inj heq
      exact .inr ⟨id', AList.lookup_insert _⟩
    · exact .inl (mem_eraseIdx_of_ne hi hmem heq)

theorem Inv.runHandler (h : Inv r) {i : Nat} {prepared : Option P2pError}
    (hok : r.Orderly (.runHandler i prepared)) : Inv (r.runHandler i prepared) := by
  cases hi : r.handlers[i]? with
  | none => simpa only [Runtime.runHandler, hi] using h
  | some x =>
    simp only [Orderly, hi] at hok
    cases x with
    | checking frame index =>
      simp only [Runtime.runHandler, hi]
      split
      · exact h.endHandler hi (by simp)
      · cases frame with
        | none => exact h.endHandler hi (by simp)
        | some frame => exact h.dispatch hi (by simp) index frame
    | openPending id purpose index =>
      simp only [Runtime.runHandler, hi]
      refine h.setHandler _ hi (by simp) ?_
      split <;> trivial
    | openStreams id purpose index =>
      simp only [Runtime.runHandler, hi]
      refine h.setHandler _ hi (by simp) ?_
      split <;> trivial
    | openListener id purpose index =>
      simp only [Runtime.runHandler, hi]
      refine h.setHandler _ hi (by simp) ?_
      split
      · trivial
      · split <;> trivial
    | openInsert id index prepare => exact h.openInsert hi hok prepared
    | openPrepare id c index prepare => exact h.openPrepare hi prepared
    | openRemove id c => exact h.openRemove hi hok prepared
    | respTake id result =>
      simp only [Runtime.runHandler, hi]
      split
      case h_1 => exact h.endHandler hi (by simp)
      case h_2 pending hpending =>
        have hset := h.setHandler (.respSend id result pending) hi (by simp)
          (h.pending id pending hpending).1
        exact hset.lessPending fun id' p hp => (Table.lookup_erase_some.mp hp).2
    | respSend id result pending =>
      simp only [Runtime.runHandler, hi]
      exact h.respond hi
    | respInsert id c => exact h.respInsert hi hok.1 hok.2 prepared
    | delivering id bytes index =>
      simp only [Runtime.runHandler, hi]
      exact h.deliver hi
    | finishing id index =>
      simp only [Runtime.runHandler, hi]
      split
      case h_1 => exact (h.endHandler hi (by simp)).congr rfl
      case h_2 c hc => exact ((h.endStream .fin hc).endHandler hi (by simp)).congr rfl
    | resetting id reason =>
      simp only [Runtime.runHandler, hi]
      split
      case h_1 => exact h.endHandler hi (by simp)
      case h_2 c hc =>
        exact ((h.endStream (.reset reason.code reason.msg) hc).endHandler hi (by simp)).congr rfl
    | answering id result | sendingReset id reason =>
      simpa only [Runtime.runHandler, hi] using h

theorem answer_ne {x : Handler} {frame : ControlStreamFrame} (h : answer x = some frame) :
    ∀ id c, x ≠ .respInsert id c := by
  rintro id c rfl
  cases h

theorem Inv.handlerSent (h : Inv r) (i : Nat) : Inv (r.handlerSent i) := by
  unfold Runtime.handlerSent
  split
  case h_2 => exact h
  case h_1 frame hframe =>
    obtain ⟨x, hi, hx⟩ := Option.bind_eq_some_iff.mp hframe
    exact (h.endHandler hi (answer_ne hx)).congr rfl

theorem Inv.handlerSendFails (h : Inv r) (i : Nat) (err : P2pError) :
    Inv (r.handlerSendFails i err) := by
  unfold Runtime.handlerSendFails
  split
  case h_2 => exact h
  case h_1 frame hframe =>
    obtain ⟨x, hi, hx⟩ := Option.bind_eq_some_iff.mp hframe
    exact (h.endHandler hi (answer_ne hx)).newCloser err

theorem Inv.onData (h : Inv r) (frame : Option ControlStreamFrame) (index : Nat) :
    Inv { r with handlers := r.handlers ++ [.checking frame index] } := by
  refine h.withHandlers ?_ fun id c hmem => .inl (List.mem_append_left _ hmem)
  intro x hx
  rcases List.mem_append.mp hx with hold | hnew
  · exact .inl hold
  · obtain rfl := List.mem_singleton.mp hnew
    exact .inr trivial

/-! ### `close_all` -/

/-- The drain of a list of channels closes each of them. -/
theorem evolve_drain {item : InboundItem} {e : Ending} (hterm : Terminal item e)
    (es : List (Sigma fun _ : StreamId => Nat)) (xs : List Chan) :
    Evolve xs (es.foldl (fun chans e => chans.modify e.2 (Chan.terminate item)) xs) := by
  induction es generalizing xs with
  | nil => exact .refl xs
  | cons e es ih =>
    exact (Evolve.modify (fun _ => Chan.evolves_terminate hterm) e.2).trans (ih _)

theorem closed_drain {item : InboundItem} {e : Ending} (hterm : Terminal item e)
    {es : List (Sigma fun _ : StreamId => Nat)} {xs : List Chan} (hsound : ∀ ch ∈ xs, Chan.Sound ch)
    {x : Sigma fun _ : StreamId => Nat} (hx : x ∈ es) (hlt : x.2 < xs.length) :
    ∃ ch, (es.foldl (fun chans e => chans.modify e.2 (Chan.terminate item)) xs)[x.2]? = some ch ∧
      ch.Closed := by
  induction es generalizing xs with
  | nil => cases hx
  | cons e es ih =>
    have hev : Evolve xs (xs.modify e.2 (Chan.terminate item)) :=
      .modify (fun _ => Chan.evolves_terminate hterm) e.2
    rcases List.mem_cons.mp hx with rfl | hrest
    · -- closed by the first, and kept so by the others
      have hc : xs[x.2]? = some xs[x.2] := List.getElem?_eq_getElem hlt
      have hfirst : (xs.modify x.2 (Chan.terminate item))[x.2]? = some (xs[x.2].terminate item) := by
        simp [hc]
      have hclosed : (xs[x.2].terminate item).Closed :=
        (hsound _ (List.getElem_mem hlt)).closed_of_terminal hterm rfl
      obtain ⟨ch, hch, hch'⟩ := (evolve_drain hterm es _).old _ _ hfirst
      exact ⟨ch, hch, hch'.closed hclosed⟩
    · exact ih (hev.sound hsound) hrest (Nat.lt_of_lt_of_le hlt hev.length_le)

/-- The region that drains `streams`, in a call of `close_all`. -/
theorem Inv.drainStreams (h : Inv r) (hclosed : r.closed = true) (reason : P2pError) :
    Inv (r.drainStreams reason) := by
  have hterm : Terminal (.reset reason.code reason.msg) .failed := .reset ..
  have hev := evolve_drain hterm r.streams.entries r.chans
  have hchans := h.withChans hev
  have hreached : ∀ c, r.Reached c → (r.drainStreams reason).Reached c := by
    rintro c ⟨hlt, hclosed | ⟨id, hid⟩ | hins⟩
    · have hclosed' : (r.drainStreams reason).ClosedAt c := hclosed.evolve hev
      exact hclosed'.reached
    · obtain ⟨ch, hch, hclosed⟩ := closed_drain hterm h.sound (Table.mem_entries_iff.mpr hid) hlt
      exact ClosedAt.reached ⟨ch, hch, hclosed⟩
    · exact ⟨Nat.lt_of_lt_of_le hlt hev.length_le, .inr (.inr hins)⟩
  have hkeeps : Keeps r (r.drainStreams reason) :=
    ⟨fun c hc => hc.evolve hev, hreached,
      fun p hp => ⟨Nat.lt_of_lt_of_le hp.1 hev.length_le, hp.2⟩⟩
  refine ⟨hchans.sound, fun _ => rfl, fun _ _ _ => ⟨fun _ => hclosed, fun _ => rfl⟩,
    fun _ => ⟨hclosed, rfl⟩, fun c hc => hreached c (h.accepted c hc),
    fun call hcall c hc => hreached c (h.granted call hcall c hc), h.unsent,
    fun x hx => hkeeps.allowed (h.handlers x hx), hchans.pending⟩

theorem Backed.sendWaiter {p : PendingOpen} (hp : r.Backed p) (q : PendingOpen)
    (result : P2pResult Unit) :
    (r.sendWaiter q.waiter result).Backed p := by
  obtain ⟨hlt, call, hcall, hl⟩ := hp
  by_cases heq : q.waiter = p.waiter
  · refine ⟨hlt, _, by simp [Runtime.sendWaiter, heq, hcall]; rfl, ?_⟩
    split <;> exact hl
  · exact ⟨hlt, call, by simp [Runtime.sendWaiter, heq, hcall], hl⟩

theorem Inv.drainPending (h : Inv r) (reason : P2pError) : Inv (r.drainPending reason) := by
  have hterm : Terminal (.reset reason.code reason.msg) .failed := .reset ..
  have hfold : ∀ (es : List (Sigma fun _ : StreamId => PendingOpen)) (r : Runtime), r.Inv →
      (∀ e ∈ es, r.Backed e.2) → Inv (es.foldl (fun r e =>
        (r.sendWaiter e.2.waiter (.error reason)).terminate e.2.inboundTx
          (.reset reason.code reason.msg)) r) := by
    intro es
    induction es with
    | nil => exact fun r hr _ => hr
    | cons e es ih =>
      intro r hr hbacked
      have hsent := hr.sendWaiter (.error reason) (hbacked e List.mem_cons_self) (by simp)
      have hev : Evolve r.chans
          (r.chans.modify e.2.inboundTx (Chan.terminate (.reset reason.code reason.msg))) :=
        .modify (fun _ => Chan.evolves_terminate hterm) _
      refine ih _ (hsent.withChans hev) fun e' he' => ?_
      have hb := (hbacked e' (List.mem_cons_of_mem _ he')).sendWaiter e.2 (.error reason)
      exact ⟨Nat.lt_of_lt_of_le hb.1 hev.length_le, hb.2⟩
  have hall := hfold r.pendingOpens.entries r h fun e he =>
    (h.pending e.1 e.2 (Table.mem_entries_iff.mp he)).1
  exact hall.lessPending (t := ∅) fun id p hp => by cases hp

theorem drainPending_marks (r : Runtime) (reason : P2pError) :
    (r.drainPending reason).closed = r.closed ∧ (r.drainPending reason).drained = r.drained := by
  have hfold : ∀ (es : List (Sigma fun _ : StreamId => PendingOpen)) (r : Runtime),
      (es.foldl (fun r e => (r.sendWaiter e.2.waiter (.error reason)).terminate e.2.inboundTx
        (.reset reason.code reason.msg)) r).closed = r.closed ∧
      (es.foldl (fun r e => (r.sendWaiter e.2.waiter (.error reason)).terminate e.2.inboundTx
        (.reset reason.code reason.msg)) r).drained = r.drained := by
    intro es
    induction es with
    | nil => exact fun r => ⟨rfl, rfl⟩
    | cons e es ih => exact fun r => ih _
  exact hfold r.pendingOpens.entries r

theorem Inv.withClosers (h : Inv r) {cs : List (ClosePhase × P2pError)}
    (hcs : ∀ phase reason, (phase, reason) ∈ cs → r.Closes phase) : Inv { r with closers := cs } :=
  ⟨h.sound, h.drained, hcs, h.closedAll, h.accepted, h.granted, h.unsent, h.handlers, h.pending⟩

/-- A call of `close_all` goes on. -/
theorem Inv.setCloser (h : Inv r) (i : Nat) (phase : ClosePhase) (reason : P2pError)
    (hphase : r.Closes phase) : Inv (r.setCloser i (phase, reason)) := by
  refine h.withClosers fun phase' reason' hmem => ?_
  rcases List.mem_or_eq_of_mem_set hmem with hold | heq
  · exact h.closers phase' reason' hold
  · cases heq
    exact hphase

theorem Inv.endCloser (h : Inv r) (i : Nat) : Inv { r with closers := r.closers.eraseIdx i } :=
  h.withClosers fun phase reason hmem => h.closers phase reason (List.mem_of_mem_eraseIdx hmem)

theorem Inv.setClosed (h : Inv r) : Inv { r with closed := true } :=
  ⟨h.sound, h.drained, fun phase reason hmem => ⟨fun _ => rfl, (h.closers phase reason hmem).2⟩,
    fun hall => ⟨rfl, (h.closedAll hall).2⟩, h.accepted, h.granted, h.unsent, h.handlers, h.pending⟩

theorem Inv.runCloser (h : Inv r) (i : Nat) : Inv (r.runCloser i) := by
  cases hi : r.closers[i]? with
  | none => simpa only [Runtime.runCloser, hi] using h
  | some x =>
    obtain ⟨phase, reason⟩ := x
    obtain ⟨hclosed, hdrained⟩ := h.closers phase reason (List.mem_of_getElem? hi)
    cases phase with
    | swapping =>
      simp only [Runtime.runCloser, hi]
      split
      · exact h.endCloser i
      · exact h.setClosed.setCloser i _ reason ⟨fun _ => rfl, by simp⟩
    | recording =>
      simp only [Runtime.runCloser, hi]
      have hset := h.setCloser i .drainingStreams reason
        ⟨fun _ => hclosed (by simp), by simp⟩
      exact hset.congr rfl
    | drainingStreams =>
      simp only [Runtime.runCloser, hi]
      exact (h.drainStreams (hclosed (by simp)) reason).setCloser i _ reason
        ⟨fun _ => hclosed (by simp), fun _ => rfl⟩
    | drainingPending =>
      simp only [Runtime.runCloser, hi]
      obtain ⟨hclosed', hdrained'⟩ := r.drainPending_marks reason
      exact (h.drainPending reason).setCloser i _ reason
        ⟨fun _ => hclosed'.trans (hclosed (by simp)), fun _ => hdrained'.trans (hdrained (by simp))⟩
    | clearingListener =>
      simp only [Runtime.runCloser, hi]
      have hend := h.endCloser i
      exact ⟨hend.sound, hend.drained, hend.closers,
        fun _ => ⟨hclosed (by simp), hdrained (by simp)⟩, hend.accepted, hend.granted, hend.unsent,
        hend.handlers, hend.pending⟩

/-! ### Runs -/

theorem Inv.step (h : Inv r) (e : RuntimeEvent) (hok : r.Orderly e) : Inv (r.step e) := by
  cases e with
  | listen listener =>
    unfold Runtime.step
    dsimp only
    split
    · exact h
    · exact h.congr rfl
  | openStream purpose => exact h.newOpen purpose
  | runOpen k => exact h.runOpen k
  | openSent k => exact h.openSent k
  | openSendFails k err closes => exact h.openSendFails k err closes
  | openResumes k => exact h.openResumes k
  | openCanceled k => exact h.openCanceled k
  | openTimesOut k => exact h.openTimesOut k
  | openDropped k => exact h.openDropped k
  | onData frame index => exact h.onData frame index
  | onOversized => exact h.newCloser _
  | runHandler i prepared => exact h.runHandler hok
  | handlerSent i => exact h.handlerSent i
  | handlerSendFails i err => exact h.handlerSendFails i err
  | closeAll reason => exact h.newCloser reason
  | runCloser i => exact h.runCloser i
  | writeData w bytes =>
    simp only [Runtime.step, Runtime.writeData]
    split
    · split
      · exact h
      · exact h.congr rfl
    · exact h
  | shutdown w =>
    simp only [Runtime.step, Runtime.shutdown]
    split
    · split
      · exact h
      · exact h.congr rfl
    · exact h
  | dropWrite w => exact h.congr rfl
  | pollRead c n =>
    simp only [Runtime.step, Runtime.pollRead]
    split
    · exact h.withChans (.modify (fun _ => Chan.evolves_pollRead n) c)
    · exact h
  | dropRead c =>
    simp only [Runtime.step, Runtime.dropRead]
    split
    · exact h.withChans (.modify (fun _ => Chan.evolves_dropReceiver) c)
    · exact h

/-- The calls that are running have not passed the check of the flag. -/
structure Settled (r : Runtime) : Prop where
  handlers : ∀ h ∈ r.handlers, ∃ frame index, h = .checking frame index
  closers : ∀ x ∈ r.closers, x.1 = .swapping
  opens : ∀ call ∈ r.opens, call.phase = .checking ∨ ∃ c result, call.phase = .returned c result

/-- Nothing waits: the maps are empty, and every reader that was handed out was told. -/
structure Over (r : Runtime) : Prop where
  streams : r.streams = ∅
  pendingOpens : r.pendingOpens = ∅
  told : ∀ c ch, r.handedOut c = true → r.chans[c]? = some ch → ch.read.rx.receiverOpen = true →
    ch.Told

theorem Reached.closedAt (h : r.Reached c) (hstreams : r.streams = ∅) (hsettled : r.Settled) :
    r.ClosedAt c := by
  obtain ⟨-, hclosed | ⟨id, hid⟩ | ⟨id, hmem⟩⟩ := h
  · exact hclosed
  · rw [hstreams] at hid
    cases hid
  · obtain ⟨frame, index, hcheck⟩ := hsettled.handlers _ hmem
    cases hcheck

theorem Inv.over (h : Inv r) (hsettled : r.Settled) (hall : r.closedAll = true) : r.Over := by
  have hstreams := h.drained (h.closedAll hall).2
  refine ⟨hstreams, ?_, ?_⟩
  · refine AList.ext (List.eq_nil_iff_forall_not_mem.mpr ?_)
    rintro ⟨id, p⟩ hmem
    obtain ⟨-, call, hcall, hawaits⟩ := h.pending id p (Table.mem_entries_iff.mp hmem)
    rcases hsettled.opens call (List.mem_of_getElem? hcall) with hphase | ⟨c, result, hphase⟩
    · simp [OpenCall.awaits, hphase] at hawaits
    · simp [OpenCall.awaits, hphase] at hawaits
  · intro c ch hout hc hopen
    have hreached : r.Reached c := by
      unfold handedOut at hout
      rcases Bool.or_eq_true_iff.mp hout with hacc | hret
      · exact h.accepted c (by simpa using hacc)
      · obtain ⟨call, hcall, hphase⟩ := List.any_eq_true.mp hret
        refine h.granted call hcall c ?_
        have hphase' : call.phase = .returned (some c) .ok := by simpa using hphase
        simp [OpenCall.granted, hphase']
    obtain ⟨ch', hch', hclosed⟩ := hreached.closedAt hstreams hsettled
    obtain rfl : ch = ch' := Option.some.inj (hc.symm.trans hch')
    exact hclosed hopen

/-- `close_all` has returned, and so have the calls that ran beside it. -/
structure Shut (r : Runtime) : Prop where
  closed : r.closed = true
  closedAll : r.closedAll = true
  settled : r.Settled

/-- In a shut runtime a call gets no further than the check of the flag. -/
theorem Shut.runOpen (h : r.Shut) (k : Nat) : (r.runOpen k).Shut := by
  cases hk : r.opens[k]? with
  | none => simpa only [Runtime.runOpen, hk] using h
  | some call =>
    rcases h.settled.opens call (List.mem_of_getElem? hk) with hphase | ⟨c, result, hphase⟩
    · simp only [Runtime.runOpen, hk, hphase, h.closed, if_true]
      refine ⟨h.closed, h.closedAll, h.settled.handlers, h.settled.closers, ?_⟩
      intro x hx
      obtain ⟨j, hj⟩ := List.mem_iff_getElem?.mp hx
      simp only [setPhase, List.getElem?_modify] at hj
      cases hold : r.opens[j]? with
      | none =>
        rw [hold] at hj
        cases hj
      | some old =>
        rw [hold] at hj
        by_cases heq : k = j
        · obtain rfl : _ = x := by simpa [heq] using hj
          exact .inr ⟨none, .err r.closeError, rfl⟩
        · obtain rfl : old = x := by simpa [heq] using hj
          exact h.settled.opens old (List.mem_of_getElem? hold)
    · simpa only [Runtime.runOpen, hk, hphase] using h

theorem Shut.runHandler (h : r.Shut) (i : Nat) (prepared : Option P2pError) :
    (r.runHandler i prepared).Shut := by
  cases hi : r.handlers[i]? with
  | none => simpa only [Runtime.runHandler, hi] using h
  | some x =>
    obtain ⟨frame, index, rfl⟩ := h.settled.handlers x (List.mem_of_getElem? hi)
    simp only [Runtime.runHandler, hi, h.closed, if_true]
    exact ⟨h.closed, h.closedAll, fun x hx => h.settled.handlers x (List.mem_of_mem_eraseIdx hx),
      h.settled.closers, h.settled.opens⟩

theorem Shut.runCloser (h : r.Shut) (i : Nat) : (r.runCloser i).Shut := by
  cases hi : r.closers[i]? with
  | none => simpa only [Runtime.runCloser, hi] using h
  | some x =>
    obtain ⟨phase, reason⟩ := x
    obtain rfl : phase = .swapping := h.settled.closers _ (List.mem_of_getElem? hi)
    simp only [Runtime.runCloser, hi, if_pos h.closed]
    exact ⟨h.closed, h.closedAll, h.settled.handlers,
      fun x hx => h.settled.closers x (List.mem_of_mem_eraseIdx hx), h.settled.opens⟩

/-- The calls of `open` that wait, of which a shut runtime has none. -/
theorem Shut.not_awaits (h : r.Shut) {k : Nat} {call : OpenCall} (hk : r.opens[k]? = some call) :
    call.awaits = none := by
  rcases h.settled.opens call (List.mem_of_getElem? hk) with hphase | ⟨c, result, hphase⟩
  · simp [OpenCall.awaits, hphase]
  · simp [OpenCall.awaits, hphase]

theorem Shut.not_answers (h : r.Shut) (i : Nat) : (r.handlers[i]?).bind answer = none := by
  cases hi : r.handlers[i]? with
  | none => rfl
  | some x =>
    obtain ⟨frame, index, rfl⟩ := h.settled.handlers x (List.mem_of_getElem? hi)
    rfl

theorem Shut.newCloser (h : r.Shut) (reason : P2pError) :
    Shut { r with closers := r.closers ++ [(.swapping, reason)] } := by
  refine ⟨h.closed, h.closedAll, h.settled.handlers, ?_, h.settled.opens⟩
  intro x hx
  rcases List.mem_append.mp hx with hold | hnew
  · exact h.settled.closers x hold
  · obtain rfl := List.mem_singleton.mp hnew
    rfl

theorem Shut.step (h : r.Shut) (e : RuntimeEvent) : (r.step e).Shut := by
  cases e with
  | listen listener =>
    simp only [Runtime.step, h.closed, if_true]
    exact h
  | openStream purpose =>
    refine ⟨h.closed, h.closedAll, h.settled.handlers, h.settled.closers, ?_⟩
    intro x hx
    rcases List.mem_append.mp hx with hold | hnew
    · exact h.settled.opens x hold
    · obtain rfl := List.mem_singleton.mp hnew
      exact .inl rfl
  | runOpen k => exact h.runOpen k
  | openSent k =>
    simp only [Runtime.step, Runtime.openSent]
    split
    case h_1 hk => cases h.not_awaits hk
    case h_2 => exact h
  | openSendFails k err closes =>
    simp only [Runtime.step, Runtime.openSendFails]
    split
    case h_1 hk => cases h.not_awaits hk
    case h_2 => exact h
  | openResumes k =>
    simp only [Runtime.step, Runtime.openResumes]
    split
    case h_1 hk => cases h.not_awaits hk
    case h_2 hk => cases h.not_awaits hk
    case h_3 => exact h
  | openCanceled k =>
    simp only [Runtime.step, Runtime.openCanceled]
    split
    case h_1 hk => cases h.not_awaits hk
    case h_2 => exact h
  | openTimesOut k =>
    simp only [Runtime.step, Runtime.openTimesOut]
    split
    case h_1 hk => cases h.not_awaits hk
    case h_2 => exact h
  | openDropped k =>
    simp only [Runtime.step, Runtime.openDropped]
    split
    case h_1 hk => cases h.not_awaits hk
    case h_2 hk => cases h.not_awaits hk
    case h_3 => exact h
  | onData frame index =>
    refine ⟨h.closed, h.closedAll, ?_, h.settled.closers, h.settled.opens⟩
    intro x hx
    rcases List.mem_append.mp hx with hold | hnew
    · exact h.settled.handlers x hold
    · exact ⟨frame, index, List.mem_singleton.mp hnew⟩
  | onOversized => exact h.newCloser _
  | runHandler i prepared => exact h.runHandler i prepared
  | handlerSent i =>
    simp only [Runtime.step, Runtime.handlerSent, h.not_answers]
    exact h
  | handlerSendFails i err =>
    simp only [Runtime.step, Runtime.handlerSendFails, h.not_answers]
    exact h
  | closeAll reason => exact h.newCloser reason
  | runCloser i => exact h.runCloser i
  | writeData w bytes =>
    simp only [Runtime.step, Runtime.writeData, h.closed, Bool.true_or, if_true]
    split <;> exact h
  | shutdown w =>
    simp only [Runtime.step, Runtime.shutdown, h.closed, if_true]
    split <;> exact h
  | dropWrite w => exact ⟨h.closed, h.closedAll, h.settled.handlers, h.settled.closers, h.settled.opens⟩
  | pollRead c n =>
    simp only [Runtime.step, Runtime.pollRead]
    split
    · exact ⟨h.closed, h.closedAll, h.settled.handlers, h.settled.closers, h.settled.opens⟩
    · exact h
  | dropRead c =>
    simp only [Runtime.step, Runtime.dropRead]
    split
    · exact ⟨h.closed, h.closedAll, h.settled.handlers, h.settled.closers, h.settled.opens⟩
    · exact h

/-- A shut runtime puts no stream into the map. -/
theorem Shut.orderly (h : r.Shut) (e : RuntimeEvent) : r.Orderly e := by
  unfold Orderly
  split
  case h_1 i prepared =>
    cases hi : r.handlers[i]? with
    | none => trivial
    | some x =>
      obtain ⟨frame, index, rfl⟩ := h.settled.handlers x (List.mem_of_getElem? hi)
      trivial
  case h_2 => trivial

/-- **`close_all` reaches every stream**, in a run in which no call puts a stream into the map after
the drain: when `close_all` and the calls that ran beside it have returned, and ever after, no
stream and no pending open is left, and every reader that was handed out has been told. -/
theorem closed_runtime_is_over (isInitiator : Bool) (events later : List RuntimeEvent)
    (horderly : Along Runtime.step Orderly (new isInitiator) events)
    (hall : (exec Runtime.step (new isInitiator) events).closedAll = true)
    (hsettled : (exec Runtime.step (new isInitiator) events).Settled) :
    (exec Runtime.step (new isInitiator) (events ++ later)).Over := by
  have hinv : Inv (exec Runtime.step (new isInitiator) events) :=
    exec_inv (fun r e hr he => hr.step e he) (new_inv isInitiator) horderly
  have hshut : Shut (exec Runtime.step (new isInitiator) events) :=
    ⟨(hinv.closedAll hall).1, hall, hsettled⟩
  have hstep : ∀ (r : Runtime) (e : RuntimeEvent), r.Inv ∧ r.Shut →
      (r.step e).Inv ∧ (r.step e).Shut :=
    fun r e hr => ⟨hr.1.step e (hr.2.orderly e), hr.2.step e⟩
  have hend := exec_inv_all hstep ⟨hinv, hshut⟩ later
  rw [exec_append]
  exact hend.1.over hend.2.settled hend.2.closedAll

instance (r : Runtime) (e : RuntimeEvent) : Decidable (r.Orderly e) := by
  unfold Orderly
  split
  · split <;> infer_instance
  · infer_instance

/-- A run in which all calls have returned is settled. -/
theorem settled_of_returned (hhandlers : r.handlers = []) (hclosers : r.closers = [])
    (hopens : ∀ call ∈ r.opens, ∃ c result, call.phase = .returned c result) : r.Settled := by
  refine ⟨?_, ?_, fun call hcall => .inr (hopens call hcall)⟩
  · simp [hhandlers]
  · simp [hclosers]

/-- A stream of the peer is accepted and one is opened; then the runtime is closed. -/
def closedAfterUse : List RuntimeEvent :=
  [.listen ⟨fun _ => true, false⟩, .onData (some (.openStream 2 [1])) 0] ++
    List.replicate 6 (.runHandler 0 none) ++ [.handlerSent 0, .openStream [1]] ++
    List.replicate 5 (.runOpen 0) ++ [.openSent 0, .onData (some (.openResp 1 .success)) 1] ++
    List.replicate 4 (.runHandler 0 none) ++
    [.openResumes 0, .runOpen 0, .closeAll ⟨.interrupted, "tunnel closed"⟩] ++
    List.replicate 5 (.runCloser 0)

theorem closed_runtime_is_over_after_use :
    (exec Runtime.step (new true) closedAfterUse).accepted = [0] ∧
    (exec Runtime.step (new true) (closedAfterUse ++ [.pollRead 0 8])).Over := by
  refine ⟨by decide +kernel, closed_runtime_is_over true closedAfterUse _ (by decide +kernel)
    (by decide +kernel) (settled_of_returned (by decide +kernel) (by decide +kernel) ?_)⟩
  have hopens : (exec Runtime.step (new true) closedAfterUse).opens.map OpenCall.phase =
      [.returned (some 1) .ok] := by decide +kernel
  intro call hcall
  have hphase := List.mem_map_of_mem (f := OpenCall.phase) hcall
  rw [hopens, List.mem_singleton] at hphase
  exact ⟨some 1, .ok, hphase⟩

/-- An `Open` frame is handled while the runtime is closed: its stream comes after the drain. -/
def openWhileClosing : List RuntimeEvent :=
  [.listen ⟨fun _ => true, false⟩, .onData (some (.openStream 2 [1])) 0] ++
    List.replicate 4 (.runHandler 0 none) ++ [.closeAll ⟨.interrupted, "tunnel closed"⟩] ++
    List.replicate 5 (.runCloser 0) ++ List.replicate 2 (.runHandler 0 none) ++ [.handlerSent 0]

/-- `close_all` and the handler have returned, and the stream that was given to the callback is still
there. -/
theorem stream_left_open : (exec Runtime.step (new true) openWhileClosing).closedAll = true ∧
    (exec Runtime.step (new true) openWhileClosing).handlers = [] ∧
    (exec Runtime.step (new true) openWhileClosing).closers = [] ∧
    (exec Runtime.step (new true) openWhileClosing).opens = [] ∧
    (exec Runtime.step (new true) openWhileClosing).handedOut 0 = true ∧
    ¬ (exec Runtime.step (new true) openWhileClosing).Over := by
  refine ⟨by decide +kernel, by decide +kernel, by decide +kernel, by decide +kernel,
    by decide +kernel, ?_⟩
  intro hover
  have hstream : (exec Runtime.step (new true) openWhileClosing).streams.lookup 2 = some 0 := by
    decide +kernel
  rw [hover.streams] at hstream
  cases hstream

end Runtime

end BuckyP2p.ControlStream
