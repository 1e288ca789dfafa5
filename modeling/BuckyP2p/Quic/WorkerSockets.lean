import BuckyP2p.Lib.Runs
import BuckyP2p.NatProbe.Datagram

/-!
# BuckyP2p.Quic.WorkerSockets — the datagrams of the worker sockets (`quic/listener.rs`)

Every worker of a listener has its own socket, and `SfoQuicUdpSocket::poll_recv` takes from it.
The connection ids of a worker begin with its number; `poll_recv` asserts, modulo the number of
workers counted so far, that what it takes is for its own worker.

* A step is the start of a worker, the start of a poll, or one turn of the loop of `poll_recv`, so
  the workers interleave between any two datagrams.
* Datagrams are dispatched by the number of all workers: `Routed` says which worker gets one.
* What a response to a NAT probe does to its waiter is left out.
-/

namespace BuckyP2p.Quic.WorkerSockets

open Lib NatProbe

/-- `b"\x00#@$QUIC"`. -/
def udpPunchMagic : List U8 := [0, 35, 64, 36, 81, 85, 73, 67]

def maxAuxiliaryDatagramsPerPoll : Nat := 4

def isUdpPunchPayload (packet : List U8) : Bool := udpPunchMagic.isPrefixOf packet

/-- The first two bytes of the destination connection id.  `get` with a range is a slice that may
be missing. -/
def quicPacketWorkerIndexPrefix (packet : List U8) : Option Nat := do
  let first ← packet[0]?
  let dcid ←
    if first.val &&& 0x80 ≠ 0 then
      if first.val &&& 0x30 = 0x00 ∨ first.val &&& 0x30 = 0x10 then none
      else do
        let dcidLen ← packet[5]?
        if dcidLen.val = 0 then none else (slice packet 6 (6 + dcidLen.val)).toOption
    else (sliceFrom packet 1).toOption
  let high ← dcid[0]?
  let low ← dcid[1]?
  some (high.val <<< 8 ||| low.val)

def quicPacketWorkerIndex (packet : List U8) (workerCount : Nat) : Option Nat :=
  if workerCount = 0 then none
  else (quicPacketWorkerIndexPrefix packet).map (· % workerCount)

/-- The loop of `quic_packet_prefix`. -/
def copyBufs : List (List U8) → Nat → List U8
  | [], _ => []
  | buf :: bufs, remaining =>
    if remaining = 0 then []
    else
      let copyLen := min remaining buf.length
      buf.take copyLen ++ copyBufs bufs (remaining - copyLen)

def quicPacketPrefix (bufs : List (List U8)) (len : Nat) : List U8 :=
  match bufs.head? with
  | some first => if len ≤ first.length then first.take len else copyBufs bufs len
  | none => copyBufs bufs len

theorem copyBufs_eq (bufs : List (List U8)) (len : Nat) : copyBufs bufs len = bufs.flatten.take len := by
  induction bufs generalizing len with
  | nil => simp [copyBufs]
  | cons buf bufs ih =>
    rw [copyBufs, List.flatten_cons, List.take_append]
    split_ifs with hlen
    · simp [hlen]
    · have htake : buf.take (min len buf.length) = buf.take len := by
        rw [← List.take_take, List.take_length]
      have hrest : len - min len buf.length = len - buf.length := by omega
      simp only [ih, htake, hrest]

/-- The packet is what was received, however it is spread over the buffers. -/
theorem quicPacketPrefix_eq (bufs : List (List U8)) (len : Nat) :
    quicPacketPrefix bufs len = bufs.flatten.take len := by
  cases bufs with
  | nil => simp [quicPacketPrefix, copyBufs]
  | cons first bufs =>
    simp only [quicPacketPrefix, List.head?_cons]
    split_ifs with hlen
    · rw [List.flatten_cons, List.take_append_of_le_length hlen]
    · exact copyBufs_eq _ _

/-- `quinn::udp::RecvMeta`; `ecn` and `dst_ip` are `None`. -/
structure RecvMeta where
  addr : SocketAddr
  len : Nat
  stride : Nat

/-- What `poll_recv_from_vectored` has put into the buffers. -/
structure Received where
  bufs : List (List U8)
  len : Nat
  peerAddr : SocketAddr

def Received.packet (r : Received) : List U8 := quicPacketPrefix r.bufs r.len

inductive Socket
  /-- `run_worker_endpoint` has not counted the worker. -/
  | absent
  | idle
  /-- In the loop of `poll_recv`, with the auxiliary datagrams so far. -/
  | polling (auxiliaryDatagrams : Nat)
  | panicked
  deriving DecidableEq

/-- What the workers of one listener share, and their sockets.  `handed` is what the polls have
returned to the endpoints of the workers. -/
structure Workers where
  workerCount : Nat
  sockets : Nat → Socket
  handed : List (Nat × RecvMeta)

inductive Event
  | runWorkerEndpoint (workerId : Nat)
  | pollRecv (workerId : Nat)
  /-- The socket has a datagram. -/
  | ready (workerId : Nat) (received : Received)
  /-- The socket has none, or fails. -/
  | notReady (workerId : Nat)

/-- A packet with an index goes to the worker with that number. -/
def Routed (workers : Nat) (packet : List U8) (workerId : Nat) : Prop :=
  ∀ workerIndex, quicPacketWorkerIndexPrefix packet = some workerIndex → workerIndex % workers = workerId

instance (workers : Nat) (packet : List U8) (workerId : Nat) : Decidable (Routed workers packet workerId) :=
  match h : quicPacketWorkerIndexPrefix packet with
  | none => isTrue fun i hi => by rw [h] at hi; cases hi
  | some i => decidable_of_iff (i % workers = workerId)
    ⟨fun hi j hj => by rw [h] at hj; cases hj; exact hi, fun hr => hr i h⟩

namespace Workers

def new : Workers := ⟨0, fun _ => .absent, []⟩

def setSocket (s : Workers) (w : Nat) (socket : Socket) : Workers :=
  { s with sockets := Function.update s.sockets w socket }

/-- The poll returns a packet. -/
def hands (s : Workers) (w : Nat) (r : Received) : Workers :=
  { s.setSocket w .idle with handed := s.handed ++ [(w, ⟨r.peerAddr, r.len, r.len⟩)] }

/-- A datagram that is not for the endpoint; after some of them the poll yields. -/
def skips (s : Workers) (w auxiliaryDatagrams : Nat) : Workers :=
  s.setSocket w
    (if auxiliaryDatagrams + 1 = maxAuxiliaryDatagramsPerPoll then .idle
    else .polling (auxiliaryDatagrams + 1))

/-- The assertion, with what is loaded from `worker_count`. -/
def checks (s : Workers) (w : Nat) (r : Received) : Workers :=
  match quicPacketWorkerIndex r.packet s.workerCount with
  | some workerIndex => if workerIndex = w then s.hands w r else s.setSocket w .panicked
  | none => s.hands w r

/-- One turn of the loop of `poll_recv`. -/
def takes (s : Workers) (w auxiliaryDatagrams : Nat) (r : Received) : Workers :=
  match decodeResponseDatagram r.packet with
  | .error _ => s.setSocket w .panicked
  | .ok (some _) => s.skips w auxiliaryDatagrams
  | .ok none =>
    if isUdpPunchPayload r.packet then s.skips w auxiliaryDatagrams else s.checks w r

/-- A step of a listener with that many workers. -/
def step (workers : Nat) (s : Workers) : Event → Workers
  | .runWorkerEndpoint w =>
    if w < workers ∧ s.sockets w = .absent then
      { s.setSocket w .idle with workerCount := max s.workerCount (w + 1) }
    else s
  | .pollRecv w => if s.sockets w = .idle then s.setSocket w (.polling 0) else s
  | .ready w r =>
    match s.sockets w with
    | .polling auxiliaryDatagrams =>
      if Routed workers r.packet w then s.takes w auxiliaryDatagrams r else s
    | _ => s
  | .notReady w =>
    match s.sockets w with
    | .polling _ => s.setSocket w .idle
    | _ => s

/-- No socket has panicked, and those of the workers that have started are counted. -/
structure Sane (workers : Nat) (s : Workers) : Prop where
  counted : ∀ w, s.sockets w ≠ .absent → w < s.workerCount
  panicked : ∀ w, s.sockets w ≠ .panicked

end Workers

/-- The datagram passes the assertion of a worker that has it from the dispatcher. -/
def Event.Fits (workers : Nat) (s : Workers) : Event → Prop
  | .ready w r => ∀ auxiliaryDatagrams workerIndex, s.sockets w = .polling auxiliaryDatagrams →
      Routed workers r.packet w → decodeResponseDatagram r.packet = .ok none →
      isUdpPunchPayload r.packet = false → quicPacketWorkerIndexPrefix r.packet = some workerIndex →
      s.workerCount ∣ workers * (workerIndex / workers)
  | _ => True

/-- Where the counted workers are some of the workers, the two remainders agree when what is left
of the index is a multiple of their number. -/
theorem mod_eq_mod_iff {workers count i : Nat} (hw : i % workers < count) :
    i % count = i % workers ↔ count ∣ workers * (i / workers) := by
  have hsplit := Nat.div_add_mod i workers
  constructor
  · intro heq
    refine ⟨i / count, ?_⟩
    have hcount := Nat.div_add_mod i count
    omega
  · rintro ⟨k, hk⟩
    rw [hk] at hsplit
    calc i % count = (count * k + i % workers) % count := by rw [hsplit]
      _ = i % workers := by rw [Nat.mul_add_mod, Nat.mod_eq_of_lt hw]

namespace Workers

variable {workers : Nat} {s : Workers}

@[simp] theorem setSocket_self (s : Workers) (w : Nat) (socket : Socket) :
    (s.setSocket w socket).sockets w = socket := Function.update_self ..

theorem setSocket_ne (s : Workers) {w w' : Nat} (h : w' ≠ w) (socket : Socket) :
    (s.setSocket w socket).sockets w' = s.sockets w' := Function.update_of_ne h ..

theorem sane_new : Sane workers .new where
  counted w hw := absurd rfl hw
  panicked w := by rintro ⟨⟩

/-- A socket goes from one state to another in which it has not panicked. -/
theorem Sane.set (h : s.Sane workers) {w : Nat} (hw : w < s.workerCount) {socket : Socket}
    (hne : socket ≠ .panicked) {s' : Workers} (hcount : s'.workerCount = s.workerCount)
    (hsockets : s'.sockets = (s.setSocket w socket).sockets) : s'.Sane workers := by
  constructor
  · intro w' hw'
    rw [hcount]
    by_cases heq : w' = w
    · exact heq ▸ hw
    · rw [hsockets, setSocket_ne s heq] at hw'
      exact h.counted w' hw'
  · intro w'
    rw [hsockets]
    by_cases heq : w' = w
    · rw [heq, setSocket_self]
      exact hne
    · rw [setSocket_ne s heq]
      exact h.panicked w'

theorem Sane.skips (h : s.Sane workers) {w : Nat} (hw : w < s.workerCount) (n : Nat) :
    (s.skips w n).Sane workers := by
  unfold Workers.skips
  refine h.set hw ?_ rfl rfl
  split_ifs <;> simp

theorem Sane.hands (h : s.Sane workers) {w : Nat} (hw : w < s.workerCount) (r : Received) :
    (s.hands w r).Sane workers :=
  h.set hw (by simp) rfl rfl

/-- What `checks` does with a packet that the dispatcher gave to a counted worker. -/
theorem checks_eq {w : Nat} (hw : w < s.workerCount) {r : Received}
    (hrouted : Routed workers r.packet w) :
    s.checks w r = if ∀ i, quicPacketWorkerIndexPrefix r.packet = some i →
        s.workerCount ∣ workers * (i / workers)
      then s.hands w r else s.setSocket w .panicked := by
  have hpos : s.workerCount ≠ 0 := by omega
  unfold checks quicPacketWorkerIndex
  rw [if_neg hpos]
  cases hi : quicPacketWorkerIndexPrefix r.packet with
  | none => simp
  | some i =>
    have hiff : i % s.workerCount = w ↔ s.workerCount ∣ workers * (i / workers) := by
      have hmod := hrouted i hi
      rw [← hmod] at hw ⊢
      exact mod_eq_mod_iff hw
    simp [hiff]

/-- Decoding a datagram reads nothing outside of it. -/
theorem takes_cases (s : Workers) (w n : Nat) (r : Received) :
    s.takes w n r = s.skips w n ∨ (decodeResponseDatagram r.packet = .ok none ∧
      isUdpPunchPayload r.packet = false ∧ s.takes w n r = s.checks w r) := by
  obtain ⟨decoded, hdecoded⟩ := decodeResponseDatagram_checked r.packet
  unfold takes
  rw [hdecoded]
  cases decoded with
  | some response => exact .inl rfl
  | none =>
    by_cases hpunch : isUdpPunchPayload r.packet = true
    · exact .inl (if_pos hpunch)
    · exact .inr ⟨rfl, Bool.not_eq_true _ ▸ hpunch, if_neg hpunch⟩

theorem Sane.step (h : s.Sane workers) {ev : Event} (hfits : ev.Fits workers s) :
    (s.step workers ev).Sane workers := by
  cases ev with
  | runWorkerEndpoint w =>
    simp only [Workers.step]
    split_ifs with hw
    · constructor
      · intro w' hw'
        show w' < max s.workerCount (w + 1)
        by_cases heq : w' = w
        · omega
        · have hold := h.counted w' (by rwa [← setSocket_ne s heq .idle])
          omega
      · intro w'
        show (s.setSocket w .idle).sockets w' ≠ .panicked
        by_cases heq : w' = w
        · rw [heq, setSocket_self]
          simp
        · rw [setSocket_ne s heq]
          exact h.panicked w'
    · exact h
  | pollRecv w =>
    simp only [Workers.step]
    split_ifs with hw
    · exact h.set (h.counted w (by simp [hw])) (by simp) rfl rfl
    · exact h
  | ready w r =>
    simp only [Workers.step]
    split
    · rename_i n hw
      have hcounted := h.counted w (by simp [hw])
      split_ifs with hrouted
      · rcases s.takes_cases w n r with heq | ⟨hdecode, hpunch, heq⟩
        · rw [heq]
          exact h.skips hcounted n
        · rw [heq, checks_eq hcounted hrouted, if_pos fun i hi => hfits n i hw hrouted hdecode hpunch hi]
          exact h.hands hcounted r
      · exact h
    · exact h
  | notReady w =>
    simp only [Workers.step]
    split
    · rename_i n hw
      exact h.set (h.counted w (by simp [hw])) (by simp) rfl rfl
    · exact h

/-- A datagram that does not fit fails the assertion. -/
theorem Sane.panics (h : s.Sane workers) {ev : Event} (hfits : ¬ev.Fits workers s) :
    ∃ w, (s.step workers ev).sockets w = .panicked := by
  cases ev with
  | ready w r =>
    simp only [Event.Fits, not_forall] at hfits
    obtain ⟨n, i, hw, hrouted, hdecode, hpunch, hi, hdvd⟩ := hfits
    refine ⟨w, ?_⟩
    have hcounted := h.counted w (by simp [hw])
    have htakes : s.takes w n r = s.checks w r := by
      simp only [takes, hdecode, hpunch, Bool.false_eq_true, if_false]
    simp only [Workers.step, hw, if_pos hrouted]
    rw [htakes, checks_eq hcounted hrouted, if_neg fun hall => hdvd (hall i hi), setSocket_self]
  | _ => exact absurd trivial hfits

/-- No poll of a run panics, if and only if every datagram of the run fits when it is taken. -/
theorem never_panics_iff (workers : Nat) (evs : List Event) :
    Along (step workers) (fun s ev => ev.Fits workers s) .new evs ↔
      ∀ pre, pre <+: evs → ∀ w, (exec (step workers) .new pre).sockets w ≠ .panicked := by
  refine along_iff (I := Sane workers) (P := fun s => ∀ w, s.sockets w ≠ .panicked) ?_ ?_ ?_
    sane_new evs
  · exact fun s ev h hfits => h.step hfits
  · exact fun s h => h.panicked
  · intro s ev h hfits hall
    obtain ⟨w, hw⟩ := h.panics hfits
    exact hall w hw

/-- Of three workers two have started; a short packet with the index 3 goes to the first one, whose
assertion computes `3 % 2`. -/
def early : List Event :=
  [.runWorkerEndpoint 0, .runWorkerEndpoint 1, .pollRecv 0,
    .ready 0 ⟨[[0x40, 0, 3]], 3, .v4 ⟨192, 0, 2, 1⟩ 4433⟩]

theorem early_panics : ¬∀ (workers : Nat) (evs : List Event) (w : Nat),
    (exec (step workers) .new evs).sockets w ≠ .panicked := by
  intro hall
  exact hall 3 early 0 (by decide +kernel)

end Workers

end BuckyP2p.Quic.WorkerSockets
