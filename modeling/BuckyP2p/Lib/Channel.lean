import Mathlib.Data.List.Basic

/-!
# BuckyP2p.Lib.Channel — a bounded channel with one receiver

A channel is kept as the list of everything that was ever sent on it and the number of items that
were received: what is queued is the rest of the list, and a property of the queue is a property of
the history.  `trySend` fails only when the queue is full or the receiver is gone.
-/

namespace Lib

structure Channel (α : Type) where
  sent : List α
  received : Nat
  capacity : Nat
  receiverOpen : Bool
  deriving DecidableEq, Repr

inductive TrySendError
  | full | closed
  deriving DecidableEq, Repr

namespace Channel

variable {α : Type}

def new (capacity : Nat) : Channel α := ⟨[], 0, capacity, true⟩

def queue (c : Channel α) : List α := c.sent.drop c.received

/-- The number of free slots. -/
def free (c : Channel α) : Nat := c.capacity - c.queue.length

def trySend (c : Channel α) (x : α) : Except TrySendError (Channel α) :=
  if !c.receiverOpen then .error .closed
  else if c.free = 0 then .error .full
  else .ok { c with sent := c.sent ++ [x] }

/-- `let _ = tx.try_send(x)`. -/
def sendOrDrop (c : Channel α) (x : α) : Channel α :=
  match c.trySend x with
  | .ok c => c
  | .error _ => c

/-- The receiver takes the first item. -/
def recv (c : Channel α) : Option (α × Channel α) :=
  match c.queue with
  | x :: _ => some (x, { c with received := c.received + 1 })
  | [] => none

/-- The receiver is dropped, with what is queued. -/
def dropReceiver (c : Channel α) : Channel α :=
  { c with receiverOpen := false, received := c.sent.length }

variable {c : Channel α} {x : α}

theorem trySend_eq_ok (hopen : c.receiverOpen = true) (hfree : 0 < c.free) :
    c.trySend x = .ok { c with sent := c.sent ++ [x] } := by
  rw [trySend, hopen, if_neg (by simp), if_neg (by omega)]

theorem sendOrDrop_eq (hopen : c.receiverOpen = true) (hfree : 0 < c.free) :
    c.sendOrDrop x = { c with sent := c.sent ++ [x] } := by
  rw [sendOrDrop, trySend_eq_ok hopen hfree]

/-- An item is sent, or there is no reader or no slot for it and nothing changes. -/
theorem sendOrDrop_cases (c : Channel α) (x : α) :
    (c.receiverOpen = true ∧ 0 < c.free ∧ c.sendOrDrop x = { c with sent := c.sent ++ [x] }) ∨
      ((c.receiverOpen = false ∨ c.free = 0) ∧ c.sendOrDrop x = c) := by
  by_cases hopen : c.receiverOpen = true
  · by_cases hfree : c.free = 0
    · refine .inr ⟨.inr hfree, ?_⟩
      simp [sendOrDrop, trySend, hopen, hfree]
    · exact .inl ⟨hopen, by omega, sendOrDrop_eq hopen (by omega)⟩
  · have hclosed : c.receiverOpen = false := by simpa using hopen
    refine .inr ⟨.inl hclosed, ?_⟩
    simp [sendOrDrop, trySend, hclosed]

/-- What is sent is queued behind what is there. -/
theorem queue_send (hle : c.received ≤ c.sent.length) :
    ({ c with sent := c.sent ++ [x] } : Channel α).queue = c.queue ++ [x] := by
  rw [queue, queue, List.drop_append_of_le_length hle]

theorem recv_eq_none (h : c.queue = []) : c.recv = none := by
  rw [recv, h]

theorem recv_eq_some {rest : List α} (h : c.queue = x :: rest) :
    c.recv = some (x, { c with received := c.received + 1 }) := by
  rw [recv, h]

theorem queue_recv {rest : List α} (h : c.queue = x :: rest) :
    ({ c with received := c.received + 1 } : Channel α).queue = rest := by
  have hdrop : c.sent.drop (c.received + 1) = (c.sent.drop c.received).drop 1 := by
    rw [List.drop_drop]
  rw [queue] at h
  rw [queue, hdrop, h, List.drop_one, List.tail_cons]

theorem received_lt {rest : List α} (h : c.queue = x :: rest) : c.received < c.sent.length := by
  have hlen := congrArg List.length h
  rw [queue, List.length_drop, List.length_cons] at hlen
  omega

end Channel

end Lib
