import BuckyP2p.ControlStream.Frame
import BuckyP2p.Lib.Channel
import BuckyP2p.Lib.Runs

/-!
# BuckyP2p.ControlStream.Read — what the reader of a control stream receives

A stream that is in the map `streams` of its runtime has there the only sender of its inbound
channel.  Frames for the stream are put into the channel under the lock of the map, and the region
that puts a terminal item there takes the sender out of the map first, or with it; so what follows is
for another sender.  The channel has a slot more than it takes data items.

`Receiving` is one stream: whether it is registered, its channel, its reader, and, for the statement
of the results, the frames that were heard (`heard`, `ending`) and what the reader was given
(`outcomes`).
-/

namespace BuckyP2p.ControlStream

open Lib

inductive InboundItem
  | data (bytes : List U8)
  | fin
  | reset (code : P2pErrorCode) (msg : String)
  deriving DecidableEq, Repr

def InboundItem.bytes : InboundItem → List U8
  | .data bytes => bytes
  | _ => []

inductive DeliveryFailure
  | overflow | readerClosed
  deriving DecidableEq, Repr

/-- `inbound_channel`. -/
def inboundChannel : Channel InboundItem :=
  .new (controlStreamQueueCapacity + controlStreamQueueTerminalReserve)

def queueFull : InboundItem := .reset .outOfLimit "control stream inbound queue full"

/-- The region of `deliver` that has found the sender; a failure takes the sender out of the map. -/
def deliverInto (tx : Channel InboundItem) (bytes : List U8) :
    Channel InboundItem × Option DeliveryFailure :=
  if tx.free ≤ controlStreamQueueTerminalReserve then (tx.sendOrDrop queueFull, some .overflow)
  else
    match tx.trySend (.data bytes) with
    | .ok tx => (tx, none)
    | .error .full => (tx.sendOrDrop queueFull, some .overflow)
    | .error .closed => (tx, some .readerClosed)

structure ControlStreamRead where
  rx : Channel InboundItem
  pending : List U8
  pendingOffset : Nat
  deriving DecidableEq, Repr

/-- What a `poll_read` returns; `ok` with the bytes that it has put into the buffer. -/
inductive ReadOutcome
  | ok (bytes : List U8)
  | err (msg : String)
  | pending
  deriving DecidableEq, Repr

namespace ControlStreamRead

def new (rx : Channel InboundItem) : ControlStreamRead := ⟨rx, [], 0⟩

/-- `poll_read` with a buffer that has room for `remaining` bytes; `sender`: the channel has one. -/
def pollRead (r : ControlStreamRead) (sender : Bool) (remaining : Nat) :
    ControlStreamRead × ReadOutcome :=
  if r.pendingOffset < r.pending.length then
    let start := r.pendingOffset
    let len := min (r.pending.length - start) remaining
    let r' := { r with pendingOffset := start + len }
    let r' := if start + len = r.pending.length then { r' with pending := [], pendingOffset := 0 }
      else r'
    (r', .ok ((r.pending.drop start).take len))
  else
    match r.rx.recv with
    | some (.data bytes, rx) =>
      let len := min bytes.length remaining
      if len < bytes.length then (⟨rx, bytes, len⟩, .ok (bytes.take len))
      else ({ r with rx }, .ok (bytes.take len))
    | some (.fin, rx) => ({ r with rx }, .ok [])
    | some (.reset _ msg, rx) => ({ r with rx }, .err msg)
    | none => if sender then (r, .pending) else (r, .ok [])

end ControlStreamRead

/-- One stream: whether the map `streams` has its sender, and its reader. -/
structure Stream where
  registered : Bool
  read : ControlStreamRead
  deriving DecidableEq, Repr

namespace Stream

def new : Stream := ⟨true, .new inboundChannel⟩

/-- The sender is taken out of the map and a terminal item sent on it. -/
def terminate (s : Stream) (item : InboundItem) : Stream :=
  if s.registered then ⟨false, { s.read with rx := s.read.rx.sendOrDrop item }⟩ else s

def finishStream (s : Stream) : Stream := s.terminate .fin

def resetStream (s : Stream) (reason : P2pError) : Stream :=
  s.terminate (.reset reason.code reason.msg)

/-- What `close_all` does to a stream. -/
def closeAll (s : Stream) (reason : P2pError) : Stream :=
  s.terminate (.reset reason.code reason.msg)

def deliver (s : Stream) (bytes : List U8) : Stream :=
  if s.registered then
    let (rx, failure) := deliverInto s.read.rx bytes
    ⟨failure.isNone, { s.read with rx }⟩
  else s

end Stream

/-! ### Runs -/

/-- How a stream ends. -/
inductive Ending
  | fin
  | failed
  deriving DecidableEq, Repr

structure Receiving where
  stream : Stream
  heard : List U8
  ending : Option Ending
  outcomes : List ReadOutcome
  deriving DecidableEq, Repr

/-- A frame for the stream, `close_all` of its runtime, or a poll of the reader. -/
inductive InboundEvent
  | data (bytes : List U8)
  | fin
  | reset (reason : TunnelCommandResult)
  | closeAll (reason : P2pError)
  | pollRead (remaining : Nat)
  deriving DecidableEq, Repr

/-- Data frames are not empty, and neither are the buffers of the reader. -/
def InboundEvent.Proper : InboundEvent → Prop
  | .data bytes => bytes ≠ []
  | .pollRead remaining => 0 < remaining
  | _ => True

def ReadOutcome.bytes : ReadOutcome → List U8
  | .ok bytes => bytes
  | _ => []

def ReadOutcome.isError : ReadOutcome → Bool
  | .err _ => true
  | _ => false

namespace Receiving

def start : Receiving := ⟨.new, [], none, []⟩

/-- The bytes that the reader was given. -/
def readBytes (s : Receiving) : List U8 := s.outcomes.flatMap ReadOutcome.bytes

/-- The reader was given an error. -/
def told (s : Receiving) : Bool := s.outcomes.any ReadOutcome.isError

/-- The data items that the reader has not taken. -/
def unread (s : Receiving) : Nat :=
  (s.stream.read.rx.queue.filter fun | .data _ => true | _ => false).length

/-- What a frame with data adds to the record: it is heard until the stream ends, and one that finds
too many unread items ends the stream. -/
def hear (s : Receiving) (bytes : List U8) : List U8 × Option Ending :=
  if s.ending.isSome then (s.heard, s.ending)
  else if controlStreamQueueCapacity ≤ s.unread then (s.heard, some .failed)
  else (s.heard ++ bytes, none)

def step (s : Receiving) : InboundEvent → Receiving
  | .data bytes =>
    { s with stream := s.stream.deliver bytes, heard := (s.hear bytes).1, ending := (s.hear bytes).2 }
  | .fin => { s with stream := s.stream.finishStream, ending := s.ending.or (some .fin) }
  | .reset reason =>
    { s with
      stream := s.stream.resetStream (reason.intoP2pError "control stream reset")
      ending := s.ending.or (some .failed) }
  | .closeAll reason =>
    { s with stream := s.stream.closeAll reason, ending := s.ending.or (some .failed) }
  | .pollRead remaining =>
    let (read, outcome) := s.stream.read.pollRead s.stream.registered remaining
    { s with stream := { s.stream with read }, outcomes := s.outcomes ++ [outcome] }

end Receiving

/-! ### The reader -/

namespace ControlStreamRead

/-- What is left of the item that is being read. -/
def left (r : ControlStreamRead) : List U8 := r.pending.drop r.pendingOffset

variable {r : ControlStreamRead} {n : Nat} (sender : Bool)

/-- A poll gives bytes of the item that is being read. -/
theorem pollRead_left (hleft : r.left ≠ []) (hn : 0 < n) :
    ∃ bytes r', r.pollRead sender n = (r', .ok bytes) ∧ bytes ≠ [] ∧ bytes.length ≤ n ∧
      bytes ++ r'.left = r.left ∧ r'.rx = r.rx := by
  have hlt : r.pendingOffset < r.pending.length := by
    by_contra hge
    exact hleft (List.drop_eq_nil_of_le (by omega))
  have hpos : 0 < min (r.pending.length - r.pendingOffset) n := by omega
  simp only [pollRead, if_pos hlt]
  refine ⟨_, _, rfl, ?_, ?_, ?_, ?_⟩
  · intro hnil
    have hlen := congrArg List.length hnil
    simp only [List.length_take, List.length_drop, List.length_nil] at hlen
    omega
  · rw [List.length_take]
    omega
  · split
    case isTrue hall =>
      have htake : min (r.pending.length - r.pendingOffset) n = (r.pending.drop r.pendingOffset).length := by
        rw [List.length_drop]
        omega
      rw [htake, List.take_length]
      simp [left]
    case isFalse =>
      rw [left, left, ← List.drop_drop, List.take_append_drop]
  · split <;> rfl

/-- A poll gives bytes of the next data item. -/
theorem pollRead_data {bytes : List U8} {rest : List InboundItem} (hleft : r.left = [])
    (hqueue : r.rx.queue = .data bytes :: rest) (hbytes : bytes ≠ []) (hn : 0 < n) :
    ∃ taken r', r.pollRead sender n = (r', .ok taken) ∧ taken ≠ [] ∧ taken.length ≤ n ∧
      taken ++ r'.left = bytes ∧ r'.rx = { r.rx with received := r.rx.received + 1 } := by
  have hge : ¬ r.pendingOffset < r.pending.length := by
    rw [left, List.drop_eq_nil_iff] at hleft
    omega
  have hpos : 0 < bytes.length := List.length_pos_of_ne_nil hbytes
  have htaken : bytes.take (min bytes.length n) ≠ [] := by
    intro hnil
    have hlen := congrArg List.length hnil
    simp only [List.length_take, List.length_nil] at hlen
    omega
  have hlen : (bytes.take (min bytes.length n)).length ≤ n := by
    rw [List.length_take]
    omega
  simp only [pollRead, if_neg hge, Channel.recv_eq_some hqueue]
  split
  case isTrue => exact ⟨_, _, rfl, htaken, hlen, List.take_append_drop .., rfl⟩
  case isFalse hall =>
    refine ⟨_, _, rfl, htaken, hlen, ?_, rfl⟩
    have hnil : left { r with rx := { r.rx with received := r.rx.received + 1 } } = [] := hleft
    rw [hnil, List.append_nil, List.take_of_length_le (by omega)]

theorem pollRead_fin {rest : List InboundItem} (hleft : r.left = [])
    (hqueue : r.rx.queue = .fin :: rest) : r.pollRead sender n =
      ({ r with rx := { r.rx with received := r.rx.received + 1 } }, .ok []) := by
  have hge : ¬ r.pendingOffset < r.pending.length := by
    rw [left, List.drop_eq_nil_iff] at hleft
    omega
  simp only [pollRead, if_neg hge, Channel.recv_eq_some hqueue]

theorem pollRead_reset {code : P2pErrorCode} {msg : String} {rest : List InboundItem}
    (hleft : r.left = []) (hqueue : r.rx.queue = .reset code msg :: rest) : r.pollRead sender n =
      ({ r with rx := { r.rx with received := r.rx.received + 1 } }, .err msg) := by
  have hge : ¬ r.pendingOffset < r.pending.length := by
    rw [left, List.drop_eq_nil_iff] at hleft
    omega
  simp only [pollRead, if_neg hge, Channel.recv_eq_some hqueue]

theorem pollRead_empty (hleft : r.left = []) (hqueue : r.rx.queue = []) :
    r.pollRead sender n = (r, if sender then .pending else .ok []) := by
  have hge : ¬ r.pendingOffset < r.pending.length := by
    rw [left, List.drop_eq_nil_iff] at hleft
    omega
  simp only [pollRead, if_neg hge, Channel.recv_eq_none hqueue]
  split <;> rfl

end ControlStreamRead

/-! ### The invariant -/

/-- An item with data. -/
def InboundItem.IsData (item : InboundItem) : Prop := ∃ bytes, bytes ≠ [] ∧ item = .data bytes

/-- The items that end a stream, and how. -/
inductive Terminal : InboundItem → Ending → Prop
  | fin : Terminal .fin .fin
  | reset (code : P2pErrorCode) (msg : String) : Terminal (.reset code msg) .failed

theorem Terminal.bytes {item : InboundItem} {e : Ending} (h : Terminal item e) : item.bytes = [] := by
  cases h <;> rfl

/-- A channel whose receiver is the reader of a stream. -/
structure Inbound (rx : Channel InboundItem) : Prop where
  received_le : rx.received ≤ rx.sent.length
  capacity : rx.capacity = controlStreamQueueCapacity + controlStreamQueueTerminalReserve
  receiverOpen : rx.receiverOpen = true

namespace Receiving

variable {s : Receiving}

/-- The queue of the stream. -/
def queue (s : Receiving) : List InboundItem := s.stream.read.rx.queue

/-- A stream takes data, with a slot left for the terminal item; or the terminal item is the last one
in its queue; or the reader has taken it. -/
inductive Phase (s : Receiving) : Prop
  | flowing (hregistered : s.stream.registered = true) (hending : s.ending = none)
      (htold : s.told = false) (hdata : ∀ item ∈ s.queue, item.IsData)
      (hlen : s.queue.length ≤ controlStreamQueueCapacity)
  | ended (e : Ending) (items : List InboundItem) (last : InboundItem)
      (hregistered : s.stream.registered = false) (hending : s.ending = some e)
      (htold : s.told = false) (hqueue : s.queue = items ++ [last])
      (hdata : ∀ item ∈ items, item.IsData) (hlast : Terminal last e)
  | drained (e : Ending) (hregistered : s.stream.registered = false) (hending : s.ending = some e)
      (hqueue : s.queue = []) (hleft : s.stream.read.left = [])
      (htold : s.told = true ↔ e = .failed)

structure Inv (s : Receiving) : Prop where
  inbound : Inbound s.stream.read.rx
  balance : s.readBytes ++ (s.stream.read.left ++ s.queue.flatMap InboundItem.bytes) = s.heard
  phase : s.Phase

theorem start_inv : Inv start :=
  ⟨⟨Nat.le_refl 0, rfl, rfl⟩, rfl, .flowing rfl rfl rfl (by simp [start, Stream.new, queue,
    ControlStreamRead.new, inboundChannel, Channel.new, Channel.queue]) (by decide)⟩

/-- A stream that takes data has a slot for its terminal item. -/
theorem free_pos (hi : Inbound s.stream.read.rx)
    (hlen : s.queue.length ≤ controlStreamQueueCapacity) : 0 < s.stream.read.rx.free := by
  rw [Channel.free, hi.capacity]
  rw [queue] at hlen
  have hreserve : controlStreamQueueTerminalReserve = 1 := rfl
  omega

/-- In a queue of data items, all are counted as unread. -/
theorem unread_eq (hdata : ∀ item ∈ s.queue, item.IsData) : s.unread = s.queue.length := by
  have hall : s.queue.filter (fun | .data _ => true | _ => false) = s.queue := by
    apply List.filter_eq_self.mpr
    intro item hitem
    obtain ⟨bytes, -, rfl⟩ := hdata item hitem
    rfl
  rw [unread, ← queue, hall]

/-- The terminal item finds its slot, and is the last one. -/
theorem Inv.sendTerminal (h : s.Inv) {item : InboundItem} {e : Ending} (hitem : Terminal item e)
    (hending : s.ending = none) :
    Inv { s with
      stream := ⟨false, { s.stream.read with rx := s.stream.read.rx.sendOrDrop item }⟩
      ending := some e } := by
  cases h.phase with
  | ended e' items last hregistered hending' => rw [hending] at hending'; cases hending'
  | drained e' hregistered hending' => rw [hending] at hending'; cases hending'
  | flowing hregistered _ htold hdata hlen =>
    have hsend := Channel.sendOrDrop_eq (x := item) h.inbound.receiverOpen (free_pos h.inbound hlen)
    have hqueue : (s.stream.read.rx.sendOrDrop item).queue = s.queue ++ [item] := by
      rw [hsend]
      exact Channel.queue_send h.inbound.received_le
    refine ⟨?_, ?_, .ended e s.queue item rfl rfl htold hqueue hdata hitem⟩
    · rw [hsend]
      exact ⟨by simpa using Nat.le_succ_of_le h.inbound.received_le, h.inbound.capacity,
        h.inbound.receiverOpen⟩
    · have hbalance := h.balance
      simp only [queue, readBytes, ControlStreamRead.left] at hbalance hqueue ⊢
      rw [hqueue, List.flatMap_append, List.flatMap_singleton, hitem.bytes, List.append_nil]
      exact hbalance

/-- What ends a stream that is registered; one that has ended is not touched. -/
theorem Inv.terminate (h : s.Inv) {item : InboundItem} {e : Ending} (hitem : Terminal item e) :
    Inv { s with stream := s.stream.terminate item, ending := s.ending.or (some e) } := by
  unfold Stream.terminate
  cases h.phase with
  | flowing hregistered hending =>
    rw [if_pos hregistered, hending, Option.none_or]
    exact h.sendTerminal hitem hending
  | ended e' items last hregistered hending =>
    rw [if_neg (by simp [hregistered]), hending, Option.some_or, ← hending]
    exact h
  | drained e' hregistered hending =>
    rw [if_neg (by simp [hregistered]), hending, Option.some_or, ← hending]
    exact h

theorem step_data_ended {bytes : List U8} {e : Ending} (hregistered : s.stream.registered = false)
    (hending : s.ending = some e) : s.step (.data bytes) = s := by
  simp only [step, hear, hending, Option.isSome_some, if_true, Stream.deliver, hregistered,
    Bool.false_eq_true, if_false]
  rw [← hending]

/-- A data frame is put behind the others, or ends a stream with too many unread ones. -/
theorem Inv.data (h : s.Inv) {bytes : List U8} (hbytes : bytes ≠ []) :
    Inv (s.step (.data bytes)) := by
  cases h.phase with
  | ended e items last hregistered hending =>
    rw [step_data_ended hregistered hending]
    exact h
  | drained e hregistered hending =>
    rw [step_data_ended hregistered hending]
    exact h
  | flowing hregistered hending htold hdata hlen =>
    have hfree : s.stream.read.rx.free = controlStreamQueueCapacity +
        controlStreamQueueTerminalReserve - s.queue.length := by
      rw [Channel.free, h.inbound.capacity]
      rfl
    by_cases hfull : controlStreamQueueCapacity ≤ s.queue.length
    · have hover : s.stream.read.rx.free ≤ controlStreamQueueTerminalReserve := by omega
      have hstep : s.step (.data bytes) = { s with
          stream := ⟨false, { s.stream.read with rx := s.stream.read.rx.sendOrDrop queueFull }⟩
          ending := some .failed } := by
        simp [step, hear, Stream.deliver, deliverInto, hregistered, hending, hover, unread_eq hdata,
          hfull]
      rw [hstep]
      exact h.sendTerminal (.reset _ _) hending
    · have hroom : ¬ s.stream.read.rx.free ≤ controlStreamQueueTerminalReserve := by omega
      have hsend := Channel.trySend_eq_ok (x := InboundItem.data bytes) h.inbound.receiverOpen
        (free_pos h.inbound hlen)
      have hstep : s.step (.data bytes) = { s with
          stream := ⟨true, { s.stream.read with
            rx := { s.stream.read.rx with sent := s.stream.read.rx.sent ++ [.data bytes] } }⟩
          heard := s.heard ++ bytes } := by
        simp [step, hear, Stream.deliver, deliverInto, hregistered, hending, hroom, unread_eq hdata,
          hfull, hsend]
      rw [hstep]
      have hqueue : ({ s.stream.read.rx with sent := s.stream.read.rx.sent ++ [.data bytes] } :
          Channel InboundItem).queue = s.queue ++ [InboundItem.data bytes] :=
        Channel.queue_send h.inbound.received_le
      refine ⟨⟨?_, h.inbound.capacity, h.inbound.receiverOpen⟩, ?_, .flowing rfl hending htold ?_ ?_⟩
      · simpa using Nat.le_succ_of_le h.inbound.received_le
      · have hbalance := h.balance
        simp only [queue, readBytes, ControlStreamRead.left] at hbalance hqueue ⊢
        rw [hqueue, List.flatMap_append, List.flatMap_singleton, ← hbalance]
        simp [InboundItem.bytes]
      · intro item hitem
        have hitem' : item ∈ s.queue ++ [InboundItem.data bytes] := by
          rw [← hqueue]
          exact hitem
        rcases List.mem_append.mp hitem' with hold | hnew
        · exact hdata item hold
        · exact ⟨bytes, hbytes, List.mem_singleton.mp hnew⟩
      · have hlength : (s.queue ++ [InboundItem.data bytes]).length ≤ controlStreamQueueCapacity := by
          rw [List.length_append, List.length_singleton]
          omega
        rw [← hqueue] at hlength
        exact hlength

/-- What the reader has still to be given. -/
def rest (s : Receiving) : List U8 := s.heard.drop s.readBytes.length

theorem Inv.rest_eq (h : s.Inv) :
    s.rest = s.stream.read.left ++ s.queue.flatMap InboundItem.bytes := by
  rw [rest, ← h.balance, List.drop_left]

theorem Inv.readBytes_rest (h : s.Inv) : s.readBytes ++ s.rest = s.heard := by
  rw [h.rest_eq]
  exact h.balance

/-- What the poll returned. -/
def outcome (s : Receiving) (n : Nat) : ReadOutcome :=
  (s.stream.read.pollRead s.stream.registered n).2

/-- The reader after a poll. -/
def polled (s : Receiving) (n : Nat) : ControlStreamRead :=
  (s.stream.read.pollRead s.stream.registered n).1

theorem step_pollRead (n : Nat) : s.step (.pollRead n) = { s with
    stream := { s.stream with read := s.polled n }
    outcomes := s.outcomes ++ [s.outcome n] } := rfl

/-- What a poll returns, by what is left to read and how the stream has ended. -/
inductive PollSpec (s : Receiving) (n : Nat) : Prop
  | bytes (taken : List U8) (houtcome : s.outcome n = .ok taken) (hne : taken ≠ [])
      (hle : taken.length ≤ n) ( hprefix : taken <+: s.rest)
  | pending (houtcome : s.outcome n = .pending) (hrest : s.rest = []) (hending : s.ending = none)
  | error (msg : String) (houtcome : s.outcome n = .err msg) (hrest : s.rest = [])
      (hending : s.ending = some .failed) (htold : s.told = false)
  | clean (houtcome : s.outcome n = .ok []) (hrest : s.rest = [])
      (hending : s.ending = some .fin ∨ s.ending = some .failed ∧ s.told = true)

theorem readBytes_append (outcomes : List ReadOutcome) (o : ReadOutcome) :
    (outcomes ++ [o]).flatMap ReadOutcome.bytes = outcomes.flatMap ReadOutcome.bytes ++ o.bytes := by
  simp

/-- A poll that gives bytes takes them from what is left, or from the next item. -/
theorem Inv.takes (h : s.Inv) {n : Nat} {taken : List U8} {r' : ControlStreamRead}
    (hpoll : s.stream.read.pollRead s.stream.registered n = (r', .ok taken))
    (hbalance : taken ++ (r'.left ++ r'.rx.queue.flatMap InboundItem.bytes) =
      s.stream.read.left ++ s.queue.flatMap InboundItem.bytes) :
    (s.step (.pollRead n)).readBytes ++ ((s.step (.pollRead n)).stream.read.left ++
      (s.step (.pollRead n)).queue.flatMap InboundItem.bytes) = s.heard ∧
      (s.step (.pollRead n)).told = s.told ∧ taken <+: s.rest := by
  refine ⟨?_, ?_, ?_⟩
  · simp only [step_pollRead, readBytes, readBytes_append, queue, polled, outcome, hpoll]
    rw [← h.balance, ← hbalance, readBytes]
    simp [ReadOutcome.bytes]
  · simp [step_pollRead, told, outcome, hpoll, ReadOutcome.isError]
  · rw [h.rest_eq, ← hbalance]
    exact List.prefix_append ..

/-- The poll of a reader in the middle of an item. -/
theorem Inv.pollRead_left (h : s.Inv) {n : Nat} (hn : 0 < n) (hleft : s.stream.read.left ≠ []) :
    Inv (s.step (.pollRead n)) ∧ s.PollSpec n := by
  obtain ⟨taken, r', hpoll, hne, hle, hbytes, hrx⟩ :=
    ControlStreamRead.pollRead_left s.stream.registered hleft hn
  obtain ⟨hbalance, htold, hprefix⟩ := h.takes hpoll (by
    rw [hrx, ← List.append_assoc, hbytes]
    rfl)
  have hpolled : s.polled n = r' := congrArg Prod.fst hpoll
  have hqueue : (s.step (.pollRead n)).queue = s.queue := by
    rw [queue, step_pollRead, hpolled, hrx]
    rfl
  refine ⟨⟨?_, hbalance, ?_⟩, .bytes taken (congrArg Prod.snd hpoll) hne hle hprefix⟩
  · rw [step_pollRead, hpolled, hrx]
    exact h.inbound
  · cases h.phase with
    | flowing hregistered hending htold' hdata hlen =>
      exact .flowing hregistered hending (htold.trans htold') (hqueue ▸ hdata) (hqueue ▸ hlen)
    | ended e items last hregistered hending htold' hqueue' hdata hlast =>
      exact .ended e items last hregistered hending (htold.trans htold') (hqueue.trans hqueue') hdata
        hlast
    | drained e hregistered hending hqueue' hleft' => exact absurd hleft' hleft

/-- The poll of a reader that takes a data item. -/
theorem Inv.pollRead_data (h : s.Inv) {n : Nat} (hn : 0 < n) (hleft : s.stream.read.left = [])
    {item : InboundItem} {rest : List InboundItem} (hqueue : s.queue = item :: rest)
    (hitem : item.IsData) : Inv (s.step (.pollRead n)) ∧ s.PollSpec n := by
  obtain ⟨bytes, hbytes, rfl⟩ := hitem
  obtain ⟨taken, r', hpoll, hne, hle, htaken, hrx⟩ :=
    ControlStreamRead.pollRead_data s.stream.registered hleft hqueue hbytes hn
  have hrest : r'.rx.queue = rest := by
    rw [hrx]
    exact Channel.queue_recv hqueue
  obtain ⟨hbalance, htold, hprefix⟩ := h.takes hpoll (by
    rw [hrest, hleft, hqueue, ← List.append_assoc, htaken]
    rfl)
  have hpolled : s.polled n = r' := congrArg Prod.fst hpoll
  have hqueue' : (s.step (.pollRead n)).queue = rest := by
    rw [queue, step_pollRead, hpolled]
    exact hrest
  refine ⟨⟨?_, hbalance, ?_⟩, .bytes taken (congrArg Prod.snd hpoll) hne hle hprefix⟩
  · rw [step_pollRead, hpolled, hrx]
    exact ⟨Channel.received_lt hqueue, h.inbound.capacity, h.inbound.receiverOpen⟩
  · cases h.phase with
    | flowing hregistered hending htold' hdata hlen =>
      rw [hqueue] at hdata hlen
      refine .flowing hregistered hending (htold.trans htold') ?_ ?_
      · rw [hqueue']
        exact fun item hitem => hdata item (List.mem_cons_of_mem _ hitem)
      · rw [hqueue']
        exact Nat.le_of_succ_le hlen
    | ended e items last hregistered hending htold' hitems hdata hlast =>
      rw [hqueue] at hitems
      cases items with
      | nil =>
        cases hitems
        cases hlast
      | cons first items =>
        obtain ⟨rfl, htail⟩ := List.cons.inj hitems
        exact .ended e items last hregistered hending (htold.trans htold') (hqueue'.trans htail)
          (fun item hitem => hdata item (List.mem_cons_of_mem _ hitem)) hlast
    | drained e hregistered hending hempty =>
      rw [hqueue] at hempty
      cases hempty

/-- The poll of a reader that takes the terminal item. -/
theorem Inv.pollRead_last (h : s.Inv) {n : Nat} (hleft : s.stream.read.left = []) {e : Ending}
    {last : InboundItem} (hqueue : s.queue = [last]) (hlast : Terminal last e)
    (hregistered : s.stream.registered = false) (hending : s.ending = some e)
    (htold : s.told = false) : Inv (s.step (.pollRead n)) ∧ s.PollSpec n := by
  have hrest : s.rest = [] := by
    rw [h.rest_eq, hleft, hqueue, List.flatMap_singleton, hlast.bytes]
    rfl
  have hread : s.readBytes = s.heard := by
    rw [← h.readBytes_rest, hrest, List.append_nil]
  -- the reader after the poll has nothing left, whatever the item was
  have hdone : ∀ o : ReadOutcome, o.bytes = [] → (o.isError = true ↔ e = .failed) →
      s.stream.read.pollRead s.stream.registered n =
        ({ s.stream.read with rx := { s.stream.read.rx with
            received := s.stream.read.rx.received + 1 } }, o) → Inv (s.step (.pollRead n)) := by
    intro o hbytes herror hpoll
    have hempty : (s.step (.pollRead n)).queue = [] := by
      rw [queue, step_pollRead, polled, hpoll]
      exact Channel.queue_recv hqueue
    have hleft' : (s.step (.pollRead n)).stream.read.left = [] := by
      rw [step_pollRead, polled, hpoll]
      exact hleft
    refine ⟨?_, ?_, .drained e hregistered hending hempty hleft' ?_⟩
    · rw [step_pollRead, polled, hpoll]
      exact ⟨Channel.received_lt hqueue, h.inbound.capacity, h.inbound.receiverOpen⟩
    · rw [hempty, hleft', List.flatMap_nil, List.append_nil, List.append_nil, step_pollRead, readBytes,
        outcome, hpoll, readBytes_append, hbytes, List.append_nil]
      exact hread
    · rw [step_pollRead, told, outcome, hpoll, List.any_append]
      rw [told] at htold
      simpa [htold] using herror
  cases hlast with
  | fin =>
    have hpoll := ControlStreamRead.pollRead_fin s.stream.registered (n := n) hleft hqueue
    exact ⟨hdone (.ok []) rfl (by simp [ReadOutcome.isError]) hpoll,
      .clean (congrArg Prod.snd hpoll) hrest (.inl hending)⟩
  | reset code msg =>
    have hpoll := ControlStreamRead.pollRead_reset s.stream.registered (n := n) hleft hqueue
    exact ⟨hdone (.err msg) rfl (by simp [ReadOutcome.isError]) hpoll,
      .error msg (congrArg Prod.snd hpoll) hrest hending htold⟩

/-- The poll of a reader that finds nothing. -/
theorem Inv.pollRead_empty (h : s.Inv) {n : Nat} (hleft : s.stream.read.left = [])
    (hqueue : s.queue = []) : Inv (s.step (.pollRead n)) ∧ s.PollSpec n := by
  have hrest : s.rest = [] := by
    rw [h.rest_eq, hleft, hqueue]
    rfl
  have hpoll := ControlStreamRead.pollRead_empty s.stream.registered (n := n) hleft hqueue
  have hpolled : s.polled n = s.stream.read := congrArg Prod.fst hpoll
  have houtcome : s.outcome n = if s.stream.registered then .pending else .ok [] :=
    congrArg Prod.snd hpoll
  have hnoError : (s.outcome n).isError = false ∧ (s.outcome n).bytes = [] := by
    rw [houtcome]
    split <;> exact ⟨rfl, rfl⟩
  have htold : (s.step (.pollRead n)).told = s.told := by
    rw [step_pollRead, told, List.any_append]
    simp [hnoError.1, told]
  refine ⟨⟨?_, ?_, ?_⟩, ?_⟩
  · rw [step_pollRead, hpolled]
    exact h.inbound
  · have hbalance := h.balance
    rw [step_pollRead, readBytes, readBytes_append, hnoError.2, List.append_nil, queue, hpolled]
    exact hbalance
  · have hsame : (s.step (.pollRead n)).queue = s.queue ∧
        (s.step (.pollRead n)).stream.read.left = s.stream.read.left := by
      rw [queue, step_pollRead, hpolled]
      exact ⟨rfl, rfl⟩
    cases h.phase with
    | flowing hregistered hending htold' hdata hlen =>
      exact .flowing hregistered hending (htold.trans htold') (hsame.1 ▸ hdata) (hsame.1 ▸ hlen)
    | ended e items last hregistered hending htold' hqueue' hdata hlast =>
      exact .ended e items last hregistered hending (htold.trans htold') (hsame.1.trans hqueue') hdata
        hlast
    | drained e hregistered hending hqueue' hleft' htold' =>
      exact .drained e hregistered hending (hsame.1.trans hqueue') (hsame.2.trans hleft')
        (htold ▸ htold')
  · cases h.phase with
    | flowing hregistered hending =>
      rw [hregistered, if_pos rfl] at houtcome
      exact .pending houtcome hrest hending
    | ended e items last hregistered hending htold' hqueue' =>
      rw [hqueue] at hqueue'
      exact absurd hqueue'.symm (List.append_ne_nil_of_right_ne_nil _ (List.cons_ne_nil _ _))
    | drained e hregistered hending hqueue' hleft' htold' =>
      rw [hregistered, if_neg (by simp)] at houtcome
      refine .clean houtcome hrest ?_
      cases e with
      | fin => exact .inl hending
      | failed => exact .inr ⟨hending, htold'.mpr rfl⟩

/-- **A poll in any state of a run** keeps the invariant, and returns what is due. -/
theorem Inv.pollRead (h : s.Inv) {n : Nat} (hn : 0 < n) :
    Inv (s.step (.pollRead n)) ∧ s.PollSpec n := by
  by_cases hleft : s.stream.read.left = []
  case neg => exact h.pollRead_left hn hleft
  cases hqueue : s.queue with
  | nil => exact h.pollRead_empty hleft hqueue
  | cons item rest =>
    cases h.phase with
    | flowing hregistered hending htold hdata hlen =>
      exact h.pollRead_data hn hleft hqueue (hdata item (hqueue ▸ List.mem_cons_self))
    | drained e hregistered hending hempty =>
      rw [hqueue] at hempty
      cases hempty
    | ended e items last hregistered hending htold hitems hdata hlast =>
      cases items with
      | nil => exact h.pollRead_last hleft hitems hlast hregistered hending htold
      | cons first items =>
        rw [hqueue] at hitems
        obtain ⟨rfl, -⟩ := List.cons.inj hitems
        exact h.pollRead_data hn hleft hqueue (hdata item List.mem_cons_self)

/-- **Step lemma.** -/
theorem Inv.step (h : s.Inv) {event : InboundEvent} (hproper : event.Proper) :
    Inv (s.step event) := by
  cases event with
  | data bytes => exact h.data hproper
  | fin => exact h.terminate .fin
  | reset reason => exact h.terminate (.reset _ _)
  | closeAll reason => exact h.terminate (.reset _ _)
  | pollRead n => exact (h.pollRead hproper).1

theorem rest_step (n : Nat) :
    (s.step (.pollRead n)).rest = s.rest.drop (s.outcome n).bytes.length := by
  rw [rest, rest, List.drop_drop, step_pollRead, readBytes, readBytes_append, List.length_append]
  rfl

theorem told_step (n : Nat) :
    (s.step (.pollRead n)).told = (s.told || (s.outcome n).isError) := by
  simp [step_pollRead, told]

/-- The reader of a stream that has failed is given what is left and then the error, whatever the
sizes of its buffers are. -/
theorem Inv.polls (h : s.Inv) (hending : s.ending = some .failed) {sizes : List Nat}
    (hsizes : ∀ n ∈ sizes, 0 < n)
    (henough : s.rest.length < sizes.length ∨ s.told = true ∧ s.rest = []) :
    (exec Receiving.step s (sizes.map .pollRead)).told = true ∧
      (exec Receiving.step s (sizes.map .pollRead)).rest = [] ∧
      (exec Receiving.step s (sizes.map .pollRead)).heard = s.heard := by
  induction sizes generalizing s with
  | nil =>
    rcases henough with hlt | ⟨hsaid, hnil⟩
    · exact absurd hlt (Nat.not_lt_zero _)
    · exact ⟨hsaid, hnil, rfl⟩
  | cons n sizes ih =>
    obtain ⟨hinv, hspec⟩ := h.pollRead (hsizes n List.mem_cons_self)
    have hrest := rest_step (s := s) n
    have htold := told_step (s := s) n
    rw [List.map_cons, exec_cons]
    refine ih hinv hending (fun m hm => hsizes m (List.mem_cons_of_mem _ hm)) ?_
    cases hspec with
    | bytes taken houtcome hne hle hprefix =>
      have hpos : 0 < taken.length := List.length_pos_of_ne_nil hne
      have hlen := hprefix.length_le
      rw [houtcome, ReadOutcome.bytes] at hrest
      rcases henough with hlt | ⟨-, hnil⟩
      · left
        rw [hrest, List.length_drop]
        rw [List.length_cons] at hlt
        omega
      · rw [hnil, List.length_nil] at hlen
        omega
    | pending houtcome hnil hnone =>
      rw [hending] at hnone
      cases hnone
    | error msg houtcome hnil =>
      right
      rw [hrest, htold, houtcome, hnil, List.drop_nil]
      exact ⟨Bool.or_true _, rfl⟩
    | clean houtcome hnil hhow =>
      right
      rw [hrest, htold, houtcome, hnil, List.drop_nil]
      rcases hhow with hfin | ⟨-, hsaid⟩
      · rw [hending] at hfin
        cases hfin
      · exact ⟨by rw [hsaid, Bool.true_or], rfl⟩

theorem exec_inv_start {events : List InboundEvent} (hproper : ∀ event ∈ events, event.Proper) :
    Inv (exec Receiving.step start events) :=
  exec_inv (C := fun _ event => event.Proper) (fun _ _ hs hevent => hs.step hevent) start_inv
    (along_of_forall start hproper)

/-- **The receive side is lossless and ordered.**  Whatever frames arrive and however the reader polls,
what it was given is a prefix of the data that arrived before the stream ended; each poll returns the
next bytes, or `Pending` while the stream goes on, or, when all is read, the error of a stream that
has failed, once, or the clean end of one that has finished or whose error was given; and a stream
that has failed gives its reader everything and then the error. -/
theorem receives_in_order (events : List InboundEvent) (hproper : ∀ event ∈ events, event.Proper) :
    (exec step start events).readBytes <+: (exec step start events).heard ∧
    (∀ n, 0 < n → (exec step start events).PollSpec n) ∧
    ((exec step start events).ending = some .failed → ∀ sizes : List Nat, (∀ n ∈ sizes, 0 < n) →
      (exec step start events).rest.length < sizes.length →
      (exec step start (events ++ sizes.map .pollRead)).told = true ∧
      (exec step start (events ++ sizes.map .pollRead)).readBytes =
        (exec step start events).heard) := by
  have hinv := exec_inv_start hproper
  refine ⟨?_, fun n hn => (hinv.pollRead hn).2, fun hending sizes hsizes hlt => ?_⟩
  · rw [← hinv.readBytes_rest]
    exact List.prefix_append ..
  · obtain ⟨htold, hrest, hheard⟩ := hinv.polls hending hsizes (.inl hlt)
    rw [← exec_append] at htold hrest hheard
    refine ⟨htold, ?_⟩
    have hproper' : ∀ event ∈ events ++ sizes.map .pollRead, event.Proper := by
      intro event hevent
      rcases List.mem_append.mp hevent with hold | hpoll
      · exact hproper event hold
      · obtain ⟨n, hn, rfl⟩ := List.mem_map.mp hpoll
        exact hsizes n hn
    have hread := (exec_inv_start hproper').readBytes_rest
    rw [hrest, List.append_nil] at hread
    rw [hread, hheard]

/-- Two data frames, the second one read in parts, and a reset. -/
def resetAfterData : List InboundEvent :=
  [.data [1, 2], .pollRead 4, .data [3, 4, 5], .reset .interrupted, .pollRead 2]

theorem receives_in_order_reset :
    (exec step start (resetAfterData ++ [2, 2].map .pollRead)).readBytes = [1, 2, 3, 4, 5] ∧
      (exec step start (resetAfterData ++ [2, 2].map .pollRead)).told = true := by
  have h := receives_in_order resetAfterData (by simp [resetAfterData, InboundEvent.Proper])
  have hend := h.2.2 (by decide) [2, 2] (by decide) (by decide)
  exact ⟨hend.2.trans (by decide), hend.1⟩

/-- A reset, and two polls. -/
def resetAndPolls : List InboundEvent := [.reset .interrupted, .pollRead 1]

/-- After the error of a stream that was reset, the next poll returns `Ok` with no bytes, and no
`Fin` was received. -/
theorem clean_end_after_error :
    ¬ ∀ events : List InboundEvent, (∀ event ∈ events, event.Proper) → ∀ n, 0 < n →
      (exec step start events).outcome n = .ok [] → (exec step start events).ending = some .fin := by
  intro h
  have hclean := h resetAndPolls (by simp [resetAndPolls, InboundEvent.Proper]) 1 (by decide)
    (by decide)
  exact absurd hclean (by decide)

end Receiving

end BuckyP2p.ControlStream
