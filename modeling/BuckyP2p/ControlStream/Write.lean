import BuckyP2p.ControlStream.Frame
import BuckyP2p.Lib.Runs

/-!
# BuckyP2p.ControlStream.Write — the write half of a control stream

`ControlStreamWrite` sends what is written as `Data` frames and a shutdown as a `Fin` frame.  The
sender of the tunnel returns a future for each payload; a poll of that future may return `Pending`
any number of times, and the frame is sent when it returns `Ok`.

* What the surroundings answer during one call is `Env`: the values that the loads of the runtime's
  `closed` flag return, in order, and what the futures return.
* `toVec` is the derived encoder of a frame.
* A future that is kept across calls is the frame that it sends.
* `Writing` is a write half together with what its callers were told and what was sent.

A call completes the frame that is pending, whichever call that is.  `poll_write` then reports the
length of that frame, and `poll_flush` and `poll_shutdown` report nothing: in the log these frames
are `carried`.
-/

namespace BuckyP2p.ControlStream

open Lib

inductive IoErrorKind
  | invalidData | invalidInput | brokenPipe | interrupted
  deriving DecidableEq, Repr

structure IoError where
  kind : IoErrorKind
  msg : String
  deriving DecidableEq, Repr

/-- `Poll<io::Result<T>>`. -/
inductive Poll (α : Type)
  | pending
  | ready (result : Except IoError α)
  deriving Repr

/-- What a poll of a future of the sender returns. -/
inductive SendPoll
  | pending
  | ok
  | err (err : P2pError)
  deriving DecidableEq, Repr

structure Env where
  closedAtEntry : Bool
  closedBeforeWrite : Bool
  write : SendPoll
  closedAfterWrite : Bool
  closedAfterPending : Bool
  shutdown : SendPoll
  closedAfterShutdown : Bool
  closeReason : Option String

/-- Nothing is closed, and every future completes at once. -/
def Env.calm : Env := ⟨false, false, .ok, false, false, .ok, false, none⟩

structure ControlStreamWrite where
  streamId : StreamId
  pendingWrite : Option ControlStreamFrame
  pendingWriteLen : Nat
  pendingShutdown : Option ControlStreamFrame
  closed : Bool
  deriving DecidableEq, Repr

namespace ControlStreamWrite

def new (streamId : StreamId) : ControlStreamWrite := ⟨streamId, none, 0, none, false⟩

def encodeFrame (toVec : ControlStreamFrame → Except String (List U8)) (frame : ControlStreamFrame) :
    Except IoError (List U8) :=
  match toVec frame with
  | .error err => .error ⟨.invalidData, err⟩
  | .ok payload =>
    if payload.length > maxControlDataFrameSize then
      .error ⟨.invalidInput, "control stream frame exceeds 64KiB"⟩
    else .ok payload

def closedError (env : Env) : IoError :=
  ⟨.brokenPipe, env.closeReason.getD "control stream closed"⟩

/-- The third component is what was sent. -/
def pollPendingWrite (w : ControlStreamWrite) (env : Env) :
    ControlStreamWrite × Poll Nat × List ControlStreamFrame :=
  if env.closedBeforeWrite then
    ({ w with pendingWrite := none, pendingWriteLen := 0, closed := true },
      .ready (.error (closedError env)), [])
  else
    match w.pendingWrite with
    | none => (w, .ready (.ok 0), [])
    | some send =>
      match env.write with
      | .ok =>
        let len := w.pendingWriteLen
        let w := { w with pendingWrite := none, pendingWriteLen := 0 }
        if env.closedAfterWrite then
          ({ w with closed := true }, .ready (.error (closedError env)), [send])
        else (w, .ready (.ok len), [send])
      | .err err =>
        ({ w with pendingWrite := none, pendingWriteLen := 0, closed := true },
          .ready (.error ⟨.brokenPipe, err.msg⟩), [])
      | .pending => (w, .pending, [])

variable (toVec : ControlStreamFrame → Except String (List U8))

def pollWrite (w : ControlStreamWrite) (src : List U8) (env : Env) :
    ControlStreamWrite × Poll Nat × List ControlStreamFrame :=
  if w.closed || env.closedAtEntry then
    ({ w with closed := true }, .ready (.error (closedError env)), [])
  else if w.pendingWrite.isSome then w.pollPendingWrite env
  else if src.isEmpty then (w, .ready (.ok 0), [])
  else
    let len := min src.length controlStreamWriteChunk
    let frame := ControlStreamFrame.data w.streamId (src.take len)
    match encodeFrame toVec frame with
    | .error err => (w, .ready (.error err), [])
    | .ok _ => { w with pendingWriteLen := len, pendingWrite := some frame }.pollPendingWrite env

/-- The part that `poll_flush` and `poll_shutdown` begin with; `none`: go on. -/
def drainPending (w : ControlStreamWrite) (env : Env) :
    ControlStreamWrite × Option (Poll Unit) × List ControlStreamFrame :=
  if w.pendingWrite.isSome then
    match w.pollPendingWrite env with
    | (w, .ready (.ok _), sent) => (w, none, sent)
    | (w, .ready (.error err), sent) => (w, some (.ready (.error err)), sent)
    | (w, .pending, sent) => (w, some .pending, sent)
  else (w, none, [])

def pollFlush (w : ControlStreamWrite) (env : Env) :
    ControlStreamWrite × Poll Unit × List ControlStreamFrame :=
  match w.drainPending env with
  | (w, some poll, sent) => (w, poll, sent)
  | (w, none, sent) =>
    if env.closedAfterPending then ({ w with closed := true }, .ready (.error (closedError env)), sent)
    else (w, .ready (.ok ()), sent)

/-- The poll of the future that sends the `Fin` frame. -/
def pollSendFin (w : ControlStreamWrite) (send : ControlStreamFrame) (env : Env) :
    ControlStreamWrite × Poll Unit × List ControlStreamFrame :=
  match env.shutdown with
  | .ok =>
    let w := { w with pendingShutdown := none, closed := true }
    if env.closedAfterShutdown then (w, .ready (.error (closedError env)), [send])
    else (w, .ready (.ok ()), [send])
  | .err err =>
    ({ w with pendingShutdown := none, closed := true }, .ready (.error ⟨.brokenPipe, err.msg⟩), [])
  | .pending => ({ w with pendingShutdown := some send }, .pending, [])

/-- The part of `poll_shutdown` behind the pending write. -/
def pollFin (w : ControlStreamWrite) (env : Env) :
    ControlStreamWrite × Poll Unit × List ControlStreamFrame :=
  if env.closedAfterPending then
    ({ w with pendingShutdown := none, closed := true }, .ready (.error (closedError env)), [])
  else if w.closed then (w, .ready (.ok ()), [])
  else
    match w.pendingShutdown with
    | some send => w.pollSendFin send env
    | none =>
      match encodeFrame toVec (.fin w.streamId) with
      | .error err => (w, .ready (.error err), [])
      | .ok _ => w.pollSendFin (.fin w.streamId) env

def pollShutdown (w : ControlStreamWrite) (env : Env) :
    ControlStreamWrite × Poll Unit × List ControlStreamFrame :=
  match w.drainPending env with
  | (w, some poll, sent) => (w, poll, sent)
  | (w, none, sent) =>
    let (w, poll, sent') := w.pollFin toVec env
    (w, poll, sent ++ sent')

end ControlStreamWrite

/-! ### Runs of calls -/

inductive Call
  | pollWrite (src : List U8) (env : Env)
  | pollFlush (env : Env)
  | pollShutdown (env : Env)

/-- What a call has made of bytes: `poll_write` with the buffer `src` has returned `n`, or a frame was
carried along by `poll_flush` or `poll_shutdown`. -/
inductive Outcome
  | acked (src : List U8) (n : Nat)
  | carried (bytes : List U8)
  deriving DecidableEq, Repr

namespace Outcome

/-- The prefix that is acknowledged. -/
def acknowledged : Outcome → List U8
  | .acked src n => src.take n
  | .carried _ => []

def bytes : Outcome → List U8
  | .acked src n => src.take n
  | .carried bytes => bytes

end Outcome

structure Writing where
  write : ControlStreamWrite
  log : List Outcome
  sent : List ControlStreamFrame
  failed : Bool
  deriving DecidableEq, Repr

def Poll.isError {α : Type} : Poll α → Bool
  | .ready (.error _) => true
  | _ => false

namespace Writing

def start (streamId : StreamId) : Writing := ⟨.new streamId, [], [], false⟩

/-- The frames with bytes among those that a flush or a shutdown has sent. -/
def carriedBy (sent : List ControlStreamFrame) : List Outcome :=
  sent.filterMap fun
    | .data _ bytes => some (.carried bytes)
    | _ => none

variable (toVec : ControlStreamFrame → Except String (List U8))

def step (s : Writing) : Call → Writing
  | .pollWrite src env =>
    let (write, poll, sent) := s.write.pollWrite toVec src env
    let acked := match poll with
      | .ready (.ok n) => [Outcome.acked src n]
      | _ => []
    ⟨write, s.log ++ acked, s.sent ++ sent, s.failed || poll.isError⟩
  | .pollFlush env =>
    let (write, poll, sent) := s.write.pollFlush env
    ⟨write, s.log ++ carriedBy sent, s.sent ++ sent, s.failed || poll.isError⟩
  | .pollShutdown env =>
    let (write, poll, sent) := s.write.pollShutdown toVec env
    ⟨write, s.log ++ carriedBy sent, s.sent ++ sent, s.failed || poll.isError⟩

/-- A write that is tried again while its frame is pending has a buffer that begins with the bytes of
the frame. -/
def Retries (s : Writing) : Call → Prop
  | .pollWrite src _ => ∀ frame, s.write.pendingWrite = some frame → frame.payload <+: src
  | _ => True

/-- What was sent is what the calls account for, and what is pending is a frame of the remembered
length. -/
structure Balanced (s : Writing) : Prop where
  pending : ∀ frame, s.write.pendingWrite = some frame →
    ∃ bytes, frame = .data s.write.streamId bytes ∧ s.write.pendingWriteLen = bytes.length
  shutdown : ∀ frame, s.write.pendingShutdown = some frame → frame = .fin s.write.streamId
  bounded : ∀ src n, Outcome.acked src n ∈ s.log → n ≤ src.length
  balanced : s.log.flatMap Outcome.bytes = s.sent.flatMap ControlStreamFrame.payload

end Writing

namespace ControlStreamWrite

/-- What a poll of the pending frame can do without an error: nothing, or it sends the frame. -/
theorem pollPendingWrite_spec {w : ControlStreamWrite} (env : Env) {frame : ControlStreamFrame}
    (hpending : w.pendingWrite = some frame) :
    (w.pollPendingWrite env).2.1.isError = true ∨
    w.pollPendingWrite env = (w, .pending, []) ∨
    w.pollPendingWrite env = ({ w with pendingWrite := none, pendingWriteLen := 0 },
      .ready (.ok w.pendingWriteLen), [frame]) := by
  unfold pollPendingWrite
  by_cases hclosed : env.closedBeforeWrite = true
  · left
    rw [if_pos hclosed]
    rfl
  rw [if_neg hclosed, hpending]
  cases env.write with
  | pending => exact .inr (.inl rfl)
  | err err => exact .inl rfl
  | ok =>
    by_cases hafter : env.closedAfterWrite = true
    · left
      simp only [hafter, if_true]
      rfl
    · right
      right
      simp only [hafter]
      rfl

/-- What `poll_write` can do without an error when no frame is pending. -/
theorem pollWrite_spec (toVec : ControlStreamFrame → Except String (List U8))
    {w : ControlStreamWrite} (src : List U8) (env : Env) (hnone : w.pendingWrite = none) :
    (w.pollWrite toVec src env).2.1.isError = true ∨
    (src = [] ∧ w.pollWrite toVec src env = (w, .ready (.ok 0), [])) ∨
    ∃ len, len ≤ src.length ∧ w.pollWrite toVec src env =
      { w with
        pendingWriteLen := len
        pendingWrite := some (.data w.streamId (src.take len)) }.pollPendingWrite env := by
  unfold pollWrite
  by_cases hclosed : (w.closed || env.closedAtEntry) = true
  · left
    rw [if_pos hclosed]
    rfl
  rw [if_neg hclosed, hnone]
  by_cases hempty : src.isEmpty = true
  · right
    left
    refine ⟨List.isEmpty_iff.mp hempty, ?_⟩
    simp [hempty]
  · simp only [Option.isSome_none, Bool.false_eq_true, if_false, hempty]
    cases encodeFrame toVec (.data w.streamId (src.take (min src.length controlStreamWriteChunk))) with
    | error err => exact .inl rfl
    | ok payload => exact .inr (.inr ⟨_, Nat.min_le_left _ _, rfl⟩)

/-- What the polls of a pending frame do before a flush or a shutdown goes on. -/
theorem drainPending_spec (w : ControlStreamWrite) (env : Env) :
    (∃ poll, (w.drainPending env).2.1 = some poll ∧ poll.isError = true) ∨
    (∃ frame, w.pendingWrite = some frame ∧ w.drainPending env = (w, some .pending, [])) ∨
    (w.pendingWrite = none ∧ w.drainPending env = (w, none, [])) ∨
    ∃ frame, w.pendingWrite = some frame ∧
      w.drainPending env = ({ w with pendingWrite := none, pendingWriteLen := 0 }, none, [frame]) := by
  unfold drainPending
  cases hpending : w.pendingWrite with
  | none => exact .inr (.inr (.inl ⟨rfl, rfl⟩))
  | some frame =>
    simp only [Option.isSome_some, if_true]
    rcases pollPendingWrite_spec env hpending with herr | hwait | hsent
    · left
      generalize w.pollPendingWrite env = r at herr
      obtain ⟨w', poll, sent⟩ := r
      cases poll with
      | pending => cases herr
      | ready result =>
        cases result with
        | ok n => cases herr
        | error err => exact ⟨_, rfl, rfl⟩
    · rw [hwait]
      exact .inr (.inl ⟨frame, rfl, rfl⟩)
    · rw [hsent]
      exact .inr (.inr (.inr ⟨frame, rfl, rfl⟩))

/-- What `poll_shutdown` does behind the pending write, without an error: it changes nothing that
concerns data. -/
structure FinSpec (w w' : ControlStreamWrite) (sent : List ControlStreamFrame) : Prop where
  streamId : w'.streamId = w.streamId
  pendingWrite : w'.pendingWrite = w.pendingWrite
  pendingWriteLen : w'.pendingWriteLen = w.pendingWriteLen
  shutdown : ∀ frame, w'.pendingShutdown = some frame → frame = .fin w.streamId
  sent : sent = [] ∨ sent = [.fin w.streamId]

theorem pollSendFin_spec (w : ControlStreamWrite) (env : Env) :
    (w.pollSendFin (.fin w.streamId) env).2.1.isError = true ∨
      FinSpec w (w.pollSendFin (.fin w.streamId) env).1
        (w.pollSendFin (.fin w.streamId) env).2.2 := by
  unfold pollSendFin
  cases env.shutdown with
  | err err => exact .inl rfl
  | pending =>
    right
    refine ⟨rfl, rfl, rfl, fun frame h => ?_, .inl rfl⟩
    exact (Option.some.inj h).symm
  | ok =>
    by_cases hafter : env.closedAfterShutdown = true
    · left
      simp only [hafter, if_true]
      rfl
    · right
      simp only [hafter]
      exact ⟨rfl, rfl, rfl, nofun, .inr rfl⟩

theorem pollFin_spec (toVec : ControlStreamFrame → Except String (List U8)) (w : ControlStreamWrite)
    (env : Env) (hfin : ∀ frame, w.pendingShutdown = some frame → frame = .fin w.streamId) :
    (w.pollFin toVec env).2.1.isError = true ∨
      FinSpec w (w.pollFin toVec env).1 (w.pollFin toVec env).2.2 := by
  unfold pollFin
  by_cases hclosed : env.closedAfterPending = true
  · left
    rw [if_pos hclosed]
    rfl
  rw [if_neg hclosed]
  by_cases hdone : w.closed = true
  · rw [if_pos hdone]
    exact .inr ⟨rfl, rfl, rfl, hfin, .inl rfl⟩
  rw [if_neg hdone]
  cases hpending : w.pendingShutdown with
  | some send =>
    rw [hfin send hpending]
    exact pollSendFin_spec w env
  | none =>
    dsimp only
    cases encodeFrame toVec (.fin w.streamId) with
    | error err => exact .inl rfl
    | ok payload => exact pollSendFin_spec w env

end ControlStreamWrite

namespace Writing

variable (toVec : ControlStreamFrame → Except String (List U8)) {s : Writing}

theorem start_balanced (streamId : StreamId) : Balanced (start streamId) :=
  ⟨nofun, nofun, nofun, rfl⟩

/-- A `poll_write` that ends without an error, given what it did with the pending frame. -/
theorem Balanced.pollPendingWrite {s : Writing} (hs : s.Balanced) {w : ControlStreamWrite}
    {src bytes : List U8} {env : Env} (hid : w.streamId = s.write.streamId)
    (hshutdown : w.pendingShutdown = s.write.pendingShutdown)
    (hpending : w.pendingWrite = some (.data w.streamId bytes))
    (hlen : w.pendingWriteLen = bytes.length) (hsrc : bytes <+: src)
    (hok : (w.pollPendingWrite env).2.1.isError = false) :
    Balanced ⟨(w.pollPendingWrite env).1, s.log ++ (match (w.pollPendingWrite env).2.1 with
      | .ready (.ok n) => [Outcome.acked src n]
      | _ => []), s.sent ++ (w.pollPendingWrite env).2.2, false⟩ := by
  rcases ControlStreamWrite.pollPendingWrite_spec env hpending with herr | hwait | hsent
  · rw [herr] at hok
    cases hok
  · rw [hwait]
    simp only [List.append_nil]
    refine ⟨fun frame h => ?_, ?_, hs.bounded, hs.balanced⟩
    · dsimp only at h
      rw [hpending] at h
      exact ⟨bytes, (Option.some.inj h).symm, hlen⟩
    · dsimp only
      rw [hshutdown, hid]
      exact hs.shutdown
  · rw [hsent]
    refine ⟨nofun, ?_, ?_, ?_⟩
    · dsimp only
      rw [hshutdown, hid]
      exact hs.shutdown
    · intro src' n hmem
      rcases List.mem_append.mp hmem with hold | hnew
      · exact hs.bounded src' n hold
      · simp only [List.mem_singleton, Outcome.acked.injEq] at hnew
        obtain ⟨rfl, rfl⟩ := hnew
        rw [hlen]
        exact hsrc.length_le
    · -- the bytes of the frame are the prefix that is acknowledged
      have hprefix : src.take bytes.length = bytes := (List.prefix_iff_eq_take.mp hsrc).symm
      simp only [List.flatMap_append, List.flatMap_cons, List.flatMap_nil, List.append_nil,
        hs.balanced, Outcome.bytes, ControlStreamFrame.payload, hlen, hprefix]

/-- A flush or a shutdown that completes the pending frame, or finds none. -/
theorem Balanced.drainPending (hs : s.Balanced) (env : Env)
    (hok : ∀ poll, (s.write.drainPending env).2.1 = some poll → poll.isError = false) :
    Balanced ⟨(s.write.drainPending env).1, s.log ++ carriedBy (s.write.drainPending env).2.2,
      s.sent ++ (s.write.drainPending env).2.2, false⟩ := by
  rcases s.write.drainPending_spec env with ⟨poll, hpoll, herr⟩ | ⟨frame, hpending, hwait⟩ |
    ⟨hnone, hgo⟩ | ⟨frame, hpending, hsent⟩
  · rw [hok poll hpoll] at herr
    cases herr
  · rw [hwait]
    simp only [carriedBy, List.filterMap_nil, List.append_nil]
    exact ⟨hs.pending, hs.shutdown, hs.bounded, hs.balanced⟩
  · rw [hgo]
    simp only [carriedBy, List.filterMap_nil, List.append_nil]
    exact ⟨hs.pending, hs.shutdown, hs.bounded, hs.balanced⟩
  · obtain ⟨bytes, rfl, -⟩ := hs.pending frame hpending
    rw [hsent]
    refine ⟨nofun, hs.shutdown, ?_, ?_⟩
    · intro src n hmem
      rcases List.mem_append.mp hmem with hold | hnew
      · exact hs.bounded src n hold
      · simp [carriedBy] at hnew
    · simp [carriedBy, hs.balanced, Outcome.bytes, ControlStreamFrame.payload]

theorem carriedBy_fin {sent : List ControlStreamFrame} {streamId : StreamId}
    (h : sent = [] ∨ sent = [.fin streamId]) :
    carriedBy sent = [] ∧ sent.flatMap ControlStreamFrame.payload = [] := by
  rcases h with rfl | rfl
  · exact ⟨rfl, rfl⟩
  · exact ⟨rfl, rfl⟩

/-- **Step lemma.**  A call without an error keeps the balance, if a write is only tried again with
the same bytes. -/
theorem step_balanced (hs : s.Balanced) {call : Call} (hretry : s.Retries call)
    (hfailed : s.failed = false) (hok : (s.step toVec call).failed = false) :
    (s.step toVec call).Balanced := by
  cases call with
  | pollWrite src env =>
    have herr : (s.write.pollWrite toVec src env).2.1.isError = false := by
      simpa only [step, hfailed, Bool.false_or] using hok
    simp only [step, hfailed, Bool.false_or, herr]
    cases hpending : s.write.pendingWrite with
    | some frame =>
      obtain ⟨bytes, rfl, hlen⟩ := hs.pending frame hpending
      by_cases hclosed : (s.write.closed || env.closedAtEntry) = true
      · rw [ControlStreamWrite.pollWrite, if_pos hclosed] at herr
        cases herr
      have hpoll : s.write.pollWrite toVec src env = s.write.pollPendingWrite env := by
        rw [ControlStreamWrite.pollWrite, if_neg hclosed, hpending, Option.isSome_some, if_pos rfl]
      rw [hpoll] at herr ⊢
      exact hs.pollPendingWrite rfl rfl hpending hlen (hretry _ hpending) herr
    | none =>
      rcases ControlStreamWrite.pollWrite_spec toVec src env hpending with
        h | ⟨rfl, h⟩ | ⟨len, hle, h⟩
      · rw [h] at herr
        cases herr
      · rw [h]
        simp only [List.append_nil]
        refine ⟨hs.pending, hs.shutdown, ?_, ?_⟩
        · intro src' n hmem
          rcases List.mem_append.mp hmem with hold | hnew
          · exact hs.bounded src' n hold
          · simp only [List.mem_singleton, Outcome.acked.injEq] at hnew
            obtain ⟨rfl, rfl⟩ := hnew
            exact Nat.le_refl 0
        · simp [hs.balanced, Outcome.bytes]
      · rw [h] at herr ⊢
        exact hs.pollPendingWrite (w := { s.write with
            pendingWriteLen := len
            pendingWrite := some (.data s.write.streamId (src.take len)) }) rfl rfl rfl
          (by rw [List.length_take, Nat.min_eq_left hle]) (List.take_prefix len src) herr
  | pollFlush env =>
    have herr : (s.write.pollFlush env).2.1.isError = false := by
      simpa only [step, hfailed, Bool.false_or] using hok
    simp only [step, hfailed, Bool.false_or, herr]
    have hdrain := hs.drainPending env
    unfold ControlStreamWrite.pollFlush at herr ⊢
    generalize s.write.drainPending env = r at herr hdrain
    obtain ⟨w, stop, sent⟩ := r
    cases stop with
    | some poll => exact hdrain (fun p hp => Option.some.inj hp ▸ herr)
    | none =>
      dsimp only at herr ⊢
      by_cases hclosed : env.closedAfterPending = true
      · rw [if_pos hclosed] at herr
        cases herr
      · rw [if_neg hclosed]
        exact hdrain nofun
  | pollShutdown env =>
    have herr : (s.write.pollShutdown toVec env).2.1.isError = false := by
      simpa only [step, hfailed, Bool.false_or] using hok
    simp only [step, hfailed, Bool.false_or, herr]
    have hdrain := hs.drainPending env
    unfold ControlStreamWrite.pollShutdown at herr ⊢
    generalize s.write.drainPending env = r at herr hdrain
    obtain ⟨w, stop, sent⟩ := r
    cases stop with
    | some poll => exact hdrain (fun p hp => Option.some.inj hp ▸ herr)
    | none =>
      dsimp only at herr ⊢
      have hw := hdrain nofun
      rcases w.pollFin_spec toVec env hw.shutdown with h | hfin
      · rw [h] at herr
        cases herr
      · obtain ⟨hcarried, hpayload⟩ := carriedBy_fin hfin.sent
        have hlog : carriedBy (sent ++ (w.pollFin toVec env).2.2) = carriedBy sent := by
          rw [carriedBy, List.filterMap_append]
          exact (congrArg _ hcarried).trans (List.append_nil _)
        rw [hlog]
        refine ⟨fun frame h => ?_, fun frame h => ?_, hw.bounded, ?_⟩
        · dsimp only at h ⊢
          rw [hfin.pendingWrite] at h
          rw [hfin.streamId, hfin.pendingWriteLen]
          exact hw.pending frame h
        · dsimp only at h ⊢
          rw [hfin.streamId]
          exact hfin.shutdown frame h
        · have hbalanced := hw.balanced
          simp only [List.flatMap_append, hpayload, List.append_nil] at hbalanced ⊢
          exact hbalanced

/-- A failure is remembered. -/
theorem failed_of_step {call : Call} (h : (s.step toVec call).failed = false) : s.failed = false := by
  cases call <;> exact (Bool.or_eq_false_iff.mp h).1

/-- **What a write half sends is what its calls account for.**  In every run without an error in which
a write is only tried again with a buffer that begins with the same bytes, `poll_write` acknowledges
no more than its buffer holds, and the payloads that were sent are the acknowledged prefixes and the
frames that a flush or a shutdown carried along, in the order of the calls. -/
theorem sent_eq_accounted (streamId : StreamId) (calls : List Call)
    (hretry : Along (step toVec) Retries (start streamId) calls)
    (hok : (exec (step toVec) (start streamId) calls).failed = false) :
    (∀ src n, Outcome.acked src n ∈ (exec (step toVec) (start streamId) calls).log → n ≤ src.length) ∧
    (exec (step toVec) (start streamId) calls).log.flatMap Outcome.bytes =
      (exec (step toVec) (start streamId) calls).sent.flatMap ControlStreamFrame.payload := by
  have hrun := exec_inv (I := fun s : Writing => s.failed = false → s.Balanced)
    (fun s call hs hC h => step_balanced toVec (hs (failed_of_step toVec h)) hC
      (failed_of_step toVec h) h) (fun _ => start_balanced streamId) hretry hok
  exact ⟨hrun.bounded, hrun.balanced⟩

/-- A write that has to wait, and is tried again with a longer buffer. -/
def retried : List Call :=
  [.pollWrite [1, 2, 3] { Env.calm with write := .pending }, .pollWrite [1, 2, 3, 4] Env.calm,
    .pollWrite [5] { Env.calm with write := .pending }, .pollFlush Env.calm]

theorem sent_eq_accounted_retried :
    (exec (step fun frame => .ok frame.payload) (start 1) retried).log.flatMap Outcome.bytes =
        [1, 2, 3, 5] ∧
      (exec (step fun frame => .ok frame.payload) (start 1) retried).sent.flatMap
        ControlStreamFrame.payload = [1, 2, 3, 5] := by
  have hretry : Along (step fun frame => .ok frame.payload) Retries (start 1) retried := by
    refine ⟨nofun, ?_, nofun, trivial, trivial⟩
    intro frame hframe
    cases hframe
    exact ⟨[4], rfl⟩
  have h := (sent_eq_accounted (fun frame => .ok frame.payload) 1 retried hretry (by decide)).2
  exact ⟨by decide, h ▸ by decide⟩

/-- A write that has to wait, and a shutdown. -/
def abandoned : List Call :=
  [.pollWrite [1, 2, 3] { Env.calm with write := .pending }, .pollShutdown Env.calm]

/-- A write that has to wait, and one of a single other byte. -/
def replaced : List Call :=
  [.pollWrite [1, 2, 3] { Env.calm with write := .pending }, .pollWrite [9] Env.calm]

/-- What is sent is not only what is acknowledged: a shutdown sends the frame that is pending first.
And a write with another buffer is told the length of the frame that was pending. -/
theorem sent_ne_acknowledged :
    (¬ ∀ (toVec : ControlStreamFrame → Except String (List U8)) (streamId : StreamId)
        (calls : List Call), (exec (step toVec) (start streamId) calls).failed = false →
      (∀ src n, Outcome.acked src n ∈ (exec (step toVec) (start streamId) calls).log →
        n ≤ src.length) ∧
      (exec (step toVec) (start streamId) calls).log.flatMap Outcome.acknowledged =
        (exec (step toVec) (start streamId) calls).sent.flatMap ControlStreamFrame.payload) ∧
    (exec (step fun frame => .ok frame.payload) (start 1) replaced).failed = false ∧
      Outcome.acked [9] 3 ∈ (exec (step fun frame => .ok frame.payload) (start 1) replaced).log := by
  refine ⟨fun h => ?_, by decide, by decide⟩
  have hsent := (h (fun frame => .ok frame.payload) 1 abandoned (by decide)).2
  exact absurd hsent (by decide)

end Writing

end BuckyP2p.ControlStream
