import BuckyP2p.Lib.Runs
import BuckyP2p.Tcp.Lease

/-!
# BuckyP2p.Tcp.Drain — one lease at its two ends

The two ends of a data connection during one lease.  The acceptor of the claim has bound the lease;
the initiator binds it when it handles the `ClaimConnAck`, and may get commands of the lease before
that.  Bytes go through one FIFO stream in each direction and `WriteFin` / `ReadDone` through one
FIFO control channel in each direction.

A step is one lock region at one end.  Regions that a call runs after its first one wait in `todo`
and run at any later time, in any order; commands that a spawned task will send wait in `outbox`.
Failed reads and writes, timers and the closing of the tunnel may come at any time.

`written` and `consumed` record the bytes that the end wrote and read.  Fewer than `2 ^ 64` bytes
are between a write and the count of its reader: a stream that holds more is not ready for writing.
-/

namespace BuckyP2p.Tcp

open Lib

inductive DrainCmd
  | writeFin (fin : WriteFin)
  | readDone (done : ReadDone)
  deriving DecidableEq, Repr

/-- One end.  `opened` says that the lease exists; before, `lease` is the one that will be made.
`handling` is the command whose handler has found the lease; `reading` holds the bytes that a read
took from the stream and has not counted. -/
structure Side where
  committedLeaseSeq : TcpLeaseSeq
  state : DataConnEntryState Unit
  pendingFin : Option WriteFin
  pendingReadDone : Option ReadDone
  pendingDrain : PendingDrainFacts
  opened : Bool
  lease : LeaseContext
  todo : List Todo
  outbox : List DrainCmd
  handling : Option DrainCmd
  reading : Option (List U8)
  inbox : List DrainCmd
  incoming : List U8
  written : List U8
  consumed : List U8
  deriving DecidableEq

namespace Side

/-- The result of a region of the lease. -/
def region (x : Side) (r : LeaseContext × List Todo) : Side :=
  { x with lease := r.1, todo := x.todo ++ r.2 }

def uncounted (x : Side) : List U8 := x.reading.getD []

/-- `retire_plain_entry`. -/
def retirePlainEntry (x : Side) : Side :=
  { x with state := .retired, pendingDrain := ⟨none, none⟩ }

/-- The end of `bind_entry_to_lease`. -/
def bindTodo (early autoWriteFinZero retire send : Bool) : List Todo :=
  (if early then [.markDraining] else []) ++ (if autoWriteFinZero then [.sendWriteFin] else []) ++
    (if retire then [.retire] else if send then [.sendReadDone] else [])

/-- `handle_claim_ack` with success: `bind_entry_to_lease` for the initiator. -/
def bind (x : Side) : Side :=
  match x.state with
  | .claiming c =>
    let fresh := LeaseContext.new x.lease.connId c.leaseSeq c.channelId c.kind c.purpose true
    let a := fresh.absorb x.pendingFin x.pendingReadDone x.pendingDrain
    let early := x.pendingFin.isSome || x.pendingReadDone.isSome ||
      x.pendingDrain.writeFin.isSome || x.pendingDrain.readDone.isSome
    { x with
      committedLeaseSeq := c.leaseSeq
      state := .bound ()
      pendingFin := none
      pendingReadDone := none
      pendingDrain := ⟨none, none⟩
      opened := true
      lease := a.1
      todo := x.todo ++ bindTodo early fresh.autoWriteFinZero a.2.1 a.2.2 }
  | _ => x

/-- The entry's own `pending_fin`. -/
def keepFin (x : Side) (fin : WriteFin) : Side :=
  match x.pendingFin with
  | some e =>
    if e.channelId ≠ fin.channelId ∨ e.finalTxBytes ≠ fin.finalTxBytes then x.retirePlainEntry
    else x
  | none => { x with pendingFin := some fin }

/-- `insert_pending_write_fin`, then the entry's own. -/
def keepWriteFin (x : Side) (fin : WriteFin) : Side :=
  match x.pendingDrain.writeFin with
  | some e =>
    if e.channelId ≠ fin.channelId ∨ e.finalTxBytes ≠ fin.finalTxBytes then x.retirePlainEntry
    else x.keepFin fin
  | none => { x with pendingDrain := { x.pendingDrain with writeFin := some fin } }.keepFin fin

/-- The entry's own `pending_read_done`. -/
def keepDone (x : Side) (done : ReadDone) : Side :=
  match x.pendingReadDone with
  | some e =>
    if e.channelId ≠ done.channelId ∨ e.finalRxBytes ≠ done.finalRxBytes then x.retirePlainEntry
    else x
  | none => { x with pendingReadDone := some done }

/-- `insert_pending_read_done`, then the entry's own. -/
def keepReadDone (x : Side) (done : ReadDone) : Side :=
  match x.pendingDrain.readDone with
  | some e =>
    if e.channelId ≠ done.channelId ∨ e.finalRxBytes ≠ done.finalRxBytes then x.retirePlainEntry
    else x.keepDone done
  | none => { x with pendingDrain := { x.pendingDrain with readDone := some done } }.keepDone done

/-- `handle_write_fin` and `handle_read_done` up to the lock of the lease. -/
def arrive (x : Side) (cmd : DrainCmd) : Side :=
  let (leaseSeq, channelId) := match cmd with
    | .writeFin fin => (fin.leaseSeq, fin.channelId)
    | .readDone done => (done.leaseSeq, done.channelId)
  match x.state with
  | .firstClaimPending | .idle | .retired =>
    if leaseSeq.gt x.committedLeaseSeq then x.retirePlainEntry else x
  | .claiming c =>
    if c.leaseSeq = leaseSeq then
      if c.channelId ≠ channelId then x.retirePlainEntry
      else match cmd with
        | .writeFin fin => x.keepWriteFin fin
        | .readDone done => x.keepReadDone done
    else x
  | .bound _ | .draining _ => { x with handling := some cmd }

/-- The rest of `handle_write_fin` and `handle_read_done`. -/
def handle (x : Side) : Side :=
  match x.handling with
  | some (.writeFin fin) => { x with handling := none }.region (x.lease.handleWriteFin fin)
  | some (.readDone done) => { x with handling := none }.region (x.lease.handleReadDone done)
  | none => x

/-- One region of `todo`. -/
def run (x : Side) : Todo → Side
  | .sendWriteFin =>
    let (lease, todo, cmd) := x.lease.sendWriteFin
    { x.region (lease, todo) with outbox := x.outbox ++ (cmd.map DrainCmd.writeFin).toList }
  | .sendReadDone =>
    let (lease, todo, cmd) := x.lease.sendReadDone
    { x.region (lease, todo) with outbox := x.outbox ++ (cmd.map DrainCmd.readDone).toList }
  | .markDraining => { x with state := x.state.markDraining }
  | .retire => x.region x.lease.retireLease
  | .markRetired => { x with state := .retired, pendingDrain := ⟨none, none⟩ }
  | .finalize => x.region x.lease.maybeFinalizeLease
  | .settle =>
    match x.state with
    | .bound _ | .draining _ => { x with state := .idle }
    | _ => x

/-- `close_local`, for the entry. -/
def close (x : Side) : Side :=
  let x := { x with pendingDrain := ⟨none, none⟩ }
  match x.state with
  | .bound _ | .draining _ =>
    let lease := { x.lease with noReuse := true }
    x.region (lease, if lease.readyForClose then [.retire] else [])
  | .claiming _ | .firstClaimPending | .idle => { x with state := .retired }
  | .retired => x

end Side

/-- What happens next at an end. -/
inductive Event
  | bind
  | write (data : List U8)
  | read (n : Nat)
  | counted
  | readFails
  | dropRead
  | dropWrite
  | observe
  | observed (result : ObservedRead)
  | deliver
  | handle
  | run (i : Nat)
  | send (i : Nat) (ok : Bool)
  | check
  | fail
  | abandon
  | close
  deriving DecidableEq

namespace Side

/-- `poll_write`: the bytes that the stream takes, while the handle exists. -/
def pollWrite (x y : Side) (data : List U8) : Side × Side :=
  if x.lease.writeReleased then (x, y)
  else if !x.lease.write then ({ x with todo := x.todo ++ [.retire] }, y)
  else if 2 ^ 64 ≤ y.incoming.length + y.uncounted.length + data.length then (x, y)
  else
    ({ x with
        lease := { x.lease with txBytes := x.lease.txBytes + wrap data.length }
        written := x.written ++ data },
      { y with incoming := y.incoming ++ data })

/-- `poll_read` up to `after_read`: `n` bytes, or those that are there. -/
def pollRead (x : Side) (n : Nat) : Side :=
  if x.lease.readReleased || x.reading.isSome then x
  else if !x.lease.read then { x with todo := x.todo ++ [.retire] }
  else
    { x with
      reading := some (x.incoming.take n)
      incoming := x.incoming.drop n
      consumed := x.consumed ++ x.incoming.take n }

/-- `after_read`. -/
def counted (x : Side) : Side :=
  if x.lease.hiddenZeroRead then x
  else match x.reading with
    | some data => { x with reading := none }.region (x.lease.afterRead data.length data.isEmpty)
    | none => x

/-- `spawn_hidden_zero_read_observer` up to its read. -/
def observe (x : Side) : Side :=
  if !x.lease.hiddenZeroRead || x.reading.isSome then x
  else match x.lease.observeStart with
    | (some lease, todo) => { x.region (lease, todo) with reading := some [] }
    | (none, todo) => x.region (x.lease, todo)

/-- The read of the observer, and the region that counts it. -/
def observed (x : Side) (result : ObservedRead) : Side :=
  if !x.lease.hiddenZeroRead then x
  else match x.reading, result with
    | some [], .data n =>
      let data := x.incoming.take n
      { x with
        reading := none
        incoming := x.incoming.drop n
        consumed := x.consumed ++ data }.region
        (x.lease.observeEnd (if data.isEmpty then .eof else .data data.length))
    | some [], result => { x with reading := none }.region (x.lease.observeEnd result)
    | _, _ => x

/-- One step of a lease that exists, at the end `x`, with `y` the other end. -/
def work (x y : Side) : Event → Side × Side
  | .write data => pollWrite x y data
  | .read n => (x.pollRead n, y)
  | .counted => (x.counted, y)
  | .readFails => (x.region (x.lease, [.retire]), y)
  | .dropRead => if x.reading.isSome then (x, y) else (x.region x.lease.releaseReadHalf, y)
  | .dropWrite => (x.region x.lease.releaseWriteHalf, y)
  | .observe => (x.observe, y)
  | .observed result => (x.observed result, y)
  | .handle => (x.handle, y)
  | .run i =>
    match x.todo[i]? with
    | some t => ({ x with todo := x.todo.eraseIdx i }.run t, y)
    | none => (x, y)
  | .send i ok =>
    match x.outbox[i]? with
    | some cmd =>
      let x := { x with outbox := x.outbox.eraseIdx i }
      if ok then (x.region (x.lease, [.finalize]), { y with inbox := y.inbox ++ [cmd] })
      else (x.region (x.lease, [.retire]), y)
    | none => (x, y)
  | .check => (x.region x.lease.maybeFinalizeLease, y)
  | .fail => (x.region x.lease.retireLease, y)
  | _ => (x, y)

/-- One step at the end `x`, with `y` the other end. -/
def act (x y : Side) : Event → Side × Side
  | .bind => (x.bind, y)
  | .deliver =>
    match x.handling, x.inbox with
    | none, cmd :: rest => ({ x with inbox := rest }.arrive cmd, y)
    | _, _ => (x, y)
  | .abandon => (x.retirePlainEntry, y)
  | .close => (x.close, y)
  | e => if x.opened then work x y e else (x, y)

end Side

/-- The two ends, by their part in the claim. -/
inductive Party
  | initiator | acceptor
  deriving DecidableEq, Repr

def Party.other : Party → Party
  | .initiator => .acceptor
  | .acceptor => .initiator

abbrev Ends : Type := Party → Side

def Ends.step (s : Ends) (i : Party × Event) : Ends :=
  let r := Side.act (s i.1) (s i.1.other) i.2
  fun p => if p = i.1 then r.1 else r.2

/-- The acceptor has bound the lease of the claim `c`, and its `ClaimConnAck` is on its way. -/
def Ends.start (connId : TcpConnId) (committed : TcpLeaseSeq) (c : ClaimingState) : Ends
  | .initiator =>
    { committedLeaseSeq := committed
      state := .claiming c
      pendingFin := none
      pendingReadDone := none
      pendingDrain := ⟨none, none⟩
      opened := false
      lease := .new connId c.leaseSeq c.channelId c.kind c.purpose true
      todo := []
      outbox := []
      handling := none
      reading := none
      inbox := []
      incoming := []
      written := []
      consumed := [] }
  | .acceptor =>
    let lease := LeaseContext.new connId c.leaseSeq c.channelId c.kind c.purpose false
    { committedLeaseSeq := c.leaseSeq
      state := .bound ()
      pendingFin := none
      pendingReadDone := none
      pendingDrain := ⟨none, none⟩
      opened := true
      lease := lease
      todo := Side.bindTodo false lease.autoWriteFinZero false false
      outbox := []
      handling := none
      reading := none
      inbox := []
      incoming := []
      written := []
      consumed := [] }

end BuckyP2p.Tcp
