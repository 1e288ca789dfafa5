import BuckyP2p.ControlStream.Runtime

/-!
# BuckyP2p.ControlStream.Link — two runtimes that send each other frames

Each end reads the frames of the other one after another, in the order in which they were sent, and
gives the next one to `on_data` when the call for the one before has returned.

* Nothing is lost on the way: no send fails, and nobody closes a runtime.  An `Open` frame may be too
  large to be sent.
* An end makes fewer than `2 ^ 31` calls of `open`.
* `ins` are the frames that an end has read; the number that a frame has in `on_data` is its place in
  this list.
* `accepted` and the write halves are with the user of the runtime from the moment when the callback
  gets them, which is before the `OpenResp` frame is sent.
-/

namespace BuckyP2p.ControlStream

open Lib
open Tcp (TunnelPurpose)

/-- What may happen if nothing fails and nobody closes the runtime. -/
def RuntimeEvent.reliable : RuntimeEvent → Bool
  | .openSendFails _ _ closes => !closes
  | .onData .. | .onOversized | .handlerSendFails .. | .closeAll _ | .runCloser _ => false
  | _ => true

structure Endpoint where
  runtime : Runtime
  ins : List ControlStreamFrame

inductive EndpointEvent
  | receive (frame : ControlStreamFrame)
  | act (e : RuntimeEvent)

namespace Endpoint

def new (isInitiator : Bool) : Endpoint := ⟨.new isInitiator, []⟩

/-- There is room for another call of `open`. -/
def admits (x : Endpoint) : RuntimeEvent → Bool
  | .openStream _ => x.runtime.opens.length + 1 < 2 ^ 31
  | e => e.reliable

def step (x : Endpoint) : EndpointEvent → Endpoint
  | .receive frame =>
    if x.runtime.handlers.isEmpty then
      ⟨x.runtime.step (.onData (some frame) x.ins.length), x.ins ++ [frame]⟩
    else x
  | .act e => if x.admits e then { x with runtime := x.runtime.step e } else x

end Endpoint

inductive Party
  | initiator | responder
  deriving DecidableEq, Repr

def Party.other : Party → Party
  | .initiator => .responder
  | .responder => .initiator

structure Link where
  initiator : Endpoint
  responder : Endpoint

inductive LinkEvent
  | receive
  | act (e : RuntimeEvent)

namespace Link

def start : Link := ⟨.new true, .new false⟩

def endpoint (s : Link) : Party → Endpoint
  | .initiator => s.initiator
  | .responder => s.responder

def set (s : Link) (x : Endpoint) : Party → Link
  | .initiator => { s with initiator := x }
  | .responder => { s with responder := x }

/-- The frame that the end reads next. -/
def next (s : Link) (p : Party) : Option ControlStreamFrame :=
  ((s.endpoint p.other).runtime.out[(s.endpoint p).ins.length]?).map Prod.fst

/-- What the end `p` does; `none` if there is nothing to read. -/
def event (s : Link) (p : Party) : LinkEvent → Option EndpointEvent
  | .receive => (s.next p).map .receive
  | .act e => some (.act e)

def step (s : Link) (i : Party × LinkEvent) : Link :=
  match s.event i.1 i.2 with
  | some e => s.set ((s.endpoint i.1).step e) i.1
  | none => s

@[simp] theorem endpoint_set (s : Link) (x : Endpoint) (p : Party) : (s.set x p).endpoint p = x := by
  cases p <;> rfl

@[simp] theorem endpoint_set_other (s : Link) (x : Endpoint) (p : Party) :
    (s.set x p).endpoint p.other = s.endpoint p.other := by
  cases p <;> rfl

end Link

/-! ### What an end knows of a stream -/

/-- What only `open` and `close_all` change. -/
def Runtime.fixed (r : Runtime) :
    List OpenCall × U32 × Nat × Bool × List (ClosePhase × P2pError) :=
  (r.opens, r.nextStreamId, r.localStreamIdParity, r.closed, r.closers)

namespace Endpoint

variable {x x' : Endpoint}

/-- The id that the call `k` has drawn. -/
def idOf (x : Endpoint) (k : Nat) : Option StreamId := (x.runtime.opens[k]?).bind OpenCall.id

/-- The call `k` has made its channel. -/
def Began (x : Endpoint) (k : Nat) : Prop :=
  ∃ call, x.runtime.opens[k]? = some call ∧ call.early = false

/-- The stream that the channel `c` is for. -/
def label (x : Endpoint) (c : Nat) : Option (StreamId × Origin) :=
  (x.runtime.chans[c]?).map fun ch => (ch.id, ch.origin)

/-- The stream that the write half `w` is for. -/
def half (x : Endpoint) (w : Nat) : Option (StreamId × Origin) :=
  (x.runtime.writes[w]?).map fun half => (half.id, half.origin)

/-- The frame with this number is an `Open` for the id. -/
def Asked (x : Endpoint) (n : Nat) (id : StreamId) : Prop :=
  ∃ purpose, x.ins[n]? = some (.openStream id purpose)

/-- A channel or a write half with this id comes from there. -/
def Belongs (x : Endpoint) (id : StreamId) : Origin → Prop
  | .opened k => x.idOf k = some id ∧ x.Began k
  | .accepted n => x.runtime.isPeerStreamId id = true ∧ x.Asked n id

/-- The frame with this number has data or the end of the stream. -/
def Carries (x : Endpoint) (j : Nat) (id : StreamId) : Prop :=
  ∃ f, x.ins[j]? = some f ∧ (f = .fin id ∨ ∃ bytes, f = .data id bytes)

def CallOk (x : Endpoint) (k : Nat) (call : OpenCall) : Prop :=
  match call.phase with
  | .checking | .allocating => call.id = none ∧ call.waiter = none ∧ call.waiterRx = true
  | .probingPending id | .probingStreams id | .inserting id => call.id = some id
  | .sending id c | .waiting id c | .leaving id c _ =>
    call.id = some id ∧ x.label c = some (id, .opened k)
  | .dropping _ _ | .returned none _ => True
  | .returned (some c) _ => ∃ id, call.id = some id ∧ x.label c = some (id, .opened k)

def PendingOk (x : Endpoint) (id : StreamId) (p : PendingOpen) : Prop :=
  x.label p.inboundTx = some (id, .opened p.waiter)

/-- The last frame that was read has this number. -/
def Last (x : Endpoint) (index : Nat) : Prop := index + 1 = x.ins.length

def HandlerOk (x : Endpoint) : Handler → Prop
  | .checking frame index => ∃ f, frame = some f ∧ x.ins[index]? = some f ∧ x.Last index
  | .openPending id _ index | .openStreams id _ index | .openListener id _ index
  | .openInsert id index _ => x.runtime.isPeerStreamId id = true ∧ x.Asked index id ∧ x.Last index
  | .openPrepare id c index _ =>
    x.Asked index id ∧ x.Last index ∧ x.label c = some (id, .accepted index)
  | .openRemove id _ | .answering id _ => ∃ n, x.Asked n id
  | .respTake id result => ∃ n : Nat, x.ins[n]? = some (.openResp id result)
  | .respSend id _ p => x.PendingOk id p
  | .respInsert id c => ∃ k, x.label c = some (id, .opened k)
  | .delivering id bytes index => x.ins[index]? = some (.data id bytes) ∧ x.Last index
  | .finishing id index => x.ins[index]? = some (.fin id) ∧ x.Last index
  | .resetting id _ => ∃ (n : Nat) (reason : TunnelCommandResult), x.ins[n]? = some (.reset id reason)
  | .sendingReset id _ => ∃ c origin, x.label c = some (id, origin)

/-- Who sends which frames. -/
def Sourced (x : Endpoint) : ControlStreamFrame × Source → Prop
  | (.openStream id _, source) => ∃ k, source = .call k ∧ x.idOf k = some id ∧ x.Began k
  | (.data id _, source) | (.fin id, source) =>
    ∃ w origin, source = .writer w ∧ x.half w = some (id, origin)
  | (.openResp id _, _) => ∃ n, x.Asked n id
  | (.reset id _, _) => ∃ c origin, x.label c = some (id, origin)
  | (.window _ _, _) => False

/-- Ids are drawn one after another; `2 ^ 31` of them fit into the counter. -/
def first (x : Endpoint) : Nat := 2 - x.runtime.localStreamIdParity

def drawn (x : Endpoint) : Nat := x.runtime.opens.countP (·.id.isSome)

structure Numbered (x : Endpoint) : Prop where
  parity : x.runtime.localStreamIdParity < 2
  next : x.runtime.nextStreamId.val = (x.first + 2 * x.drawn) % 2 ^ 32
  ids : ∀ k id, x.idOf k = some id → ∃ m, m < x.drawn ∧ id.val = x.first + 2 * m
  distinct : ∀ i j id, x.idOf i = some id → x.idOf j = some id → i = j
  room : x.runtime.opens.length < 2 ^ 31

/-- Everything that an end keeps for a stream is for that stream. -/
structure Typed (x : Endpoint) : Prop where
  numbered : x.Numbered
  calm : x.runtime.closed = false ∧ x.runtime.closers = []
  single : x.runtime.handlers.length ≤ 1
  calls : ∀ (k : Nat) (call : OpenCall), x.runtime.opens[k]? = some call → x.CallOk k call
  pending : ∀ id p, x.runtime.pendingOpens.lookup id = some p → x.PendingOk id p
  streams : ∀ id c, x.runtime.streams.lookup id = some c → ∃ origin, x.label c = some (id, origin)
  chans : ∀ c id origin, x.label c = some (id, origin) → x.Belongs id origin
  writes : ∀ w id origin, x.half w = some (id, origin) → x.Belongs id origin
  out : ∀ e ∈ x.runtime.out, x.Sourced e
  handlers : ∀ h ∈ x.runtime.handlers, x.HandlerOk h
  delivered : ∀ j c, (j, c) ∈ x.runtime.delivered → ∃ id origin, x.label c = some (id, origin) ∧
    x.Carries j id
  lost : ∀ j ∈ x.runtime.lost, ∃ id, x.Carries j id

/-! ### What is known stays known -/

/-- A step that reads no frame. -/
structure Grows (x x' : Endpoint) : Prop where
  ins : x'.ins = x.ins
  parity : x'.runtime.localStreamIdParity = x.runtime.localStreamIdParity
  idOf : ∀ k id, x.idOf k = some id → x'.idOf k = some id
  began : ∀ k, x.Began k → x'.Began k
  label : ∀ c l, x.label c = some l → x'.label c = some l
  half : ∀ w l, x.half w = some l → x'.half w = some l

theorem Belongs.mono {id : StreamId} {origin : Origin} (h : x.Belongs id origin) (hg : Grows x x') :
    x'.Belongs id origin := by
  cases origin with
  | opened k => exact ⟨hg.idOf k id h.1, hg.began k h.2⟩
  | accepted n =>
    obtain ⟨hpeer, hasked⟩ := h
    refine ⟨?_, ?_⟩
    · unfold Runtime.isPeerStreamId at hpeer ⊢
      rw [hg.parity]
      exact hpeer
    · unfold Asked at hasked ⊢
      rw [hg.ins]
      exact hasked

theorem Carries.mono {j : Nat} {id : StreamId} (h : x.Carries j id) (hg : Grows x x') :
    x'.Carries j id := by
  unfold Carries at h ⊢
  rw [hg.ins]
  exact h

theorem CallOk.mono {k : Nat} {call : OpenCall} (h : x.CallOk k call) (hg : Grows x x') :
    x'.CallOk k call := by
  unfold CallOk at h ⊢
  cases hphase : call.phase with
  | sending id c | waiting id c | leaving id c result =>
    simp only [hphase] at h ⊢
    exact ⟨h.1, hg.label c _ h.2⟩
  | returned chan result =>
    cases chan with
    | none => trivial
    | some c =>
      simp only [hphase] at h ⊢
      obtain ⟨id, hid, hlabel⟩ := h
      exact ⟨id, hid, hg.label c _ hlabel⟩
  | dropping c result => trivial
  | checking | allocating | probingPending id | probingStreams id | inserting id =>
    simpa only [hphase] using h

theorem HandlerOk.mono {h : Handler} (hok : x.HandlerOk h) (hg : Grows x x') : x'.HandlerOk h := by
  have hpeer : ∀ id, x.runtime.isPeerStreamId id = true → x'.runtime.isPeerStreamId id = true := by
    intro id hid
    unfold Runtime.isPeerStreamId at hid ⊢
    rw [hg.parity]
    exact hid
  cases h with
  | checking frame index => simpa only [HandlerOk, Last, hg.ins] using hok
  | openPending id purpose index | openStreams id purpose index | openListener id purpose index
  | openInsert id index prepare =>
    simp only [HandlerOk, Asked, Last, hg.ins] at hok ⊢
    exact ⟨hpeer id hok.1, hok.2⟩
  | openPrepare id c index prepare =>
    simp only [HandlerOk, Asked, Last, hg.ins] at hok ⊢
    exact ⟨hok.1, hok.2.1, hg.label c _ hok.2.2⟩
  | openRemove id c | answering id result => simpa only [HandlerOk, Asked, hg.ins] using hok
  | respTake id result => simpa only [HandlerOk, hg.ins] using hok
  | respSend id result p => exact hg.label _ _ hok
  | respInsert id c =>
    obtain ⟨k, hk⟩ := hok
    exact ⟨k, hg.label c _ hk⟩
  | delivering id bytes index | finishing id index => simpa only [HandlerOk, Last, hg.ins] using hok
  | resetting id reason => simpa only [HandlerOk, hg.ins] using hok
  | sendingReset id reason =>
    obtain ⟨c, origin, hc⟩ := hok
    exact ⟨c, origin, hg.label c _ hc⟩

theorem Sourced.mono {e : ControlStreamFrame × Source} (h : x.Sourced e) (hg : Grows x x') :
    x'.Sourced e := by
  obtain ⟨frame, source⟩ := e
  cases frame with
  | openStream id purpose =>
    obtain ⟨k, hsource, hid, hbegan⟩ := h
    exact ⟨k, hsource, hg.idOf k id hid, hg.began k hbegan⟩
  | data id bytes | fin id =>
    obtain ⟨w, origin, hsource, hw⟩ := h
    exact ⟨w, origin, hsource, hg.half w _ hw⟩
  | openResp id result => simpa only [Sourced, Asked, hg.ins] using h
  | reset id reason =>
    obtain ⟨c, origin, hc⟩ := h
    exact ⟨c, origin, hg.label c _ hc⟩
  | window id credit => exact h

/-- What a step leaves as it was, or makes in order. -/
theorem Typed.change (h : Typed x) (hg : Grows x x') (hnumbered : x'.Numbered)
    (hcalm : x'.runtime.closed = false ∧ x'.runtime.closers = [])
    (hsingle : x'.runtime.handlers.length ≤ 1)
    (hcalls : ∀ (k : Nat) (call : OpenCall), x'.runtime.opens[k]? = some call →
      x.runtime.opens[k]? = some call ∨ x'.CallOk k call)
    (hpending : ∀ id p, x'.runtime.pendingOpens.lookup id = some p →
      x.runtime.pendingOpens.lookup id = some p ∨ x'.PendingOk id p)
    (hstreams : ∀ id c, x'.runtime.streams.lookup id = some c →
      x.runtime.streams.lookup id = some c ∨ ∃ origin, x'.label c = some (id, origin))
    (hchans : ∀ c id origin, x'.label c = some (id, origin) →
      x.label c = some (id, origin) ∨ x'.Belongs id origin)
    (hwrites : ∀ w id origin, x'.half w = some (id, origin) →
      x.half w = some (id, origin) ∨ x'.Belongs id origin)
    (hout : ∀ e ∈ x'.runtime.out, e ∈ x.runtime.out ∨ x'.Sourced e)
    (hhandlers : ∀ k ∈ x'.runtime.handlers, k ∈ x.runtime.handlers ∨ x'.HandlerOk k)
    (hdelivered : ∀ j c, (j, c) ∈ x'.runtime.delivered → (j, c) ∈ x.runtime.delivered ∨
      ∃ id origin, x'.label c = some (id, origin) ∧ x'.Carries j id)
    (hlost : ∀ j ∈ x'.runtime.lost, j ∈ x.runtime.lost ∨ ∃ id, x'.Carries j id) : Typed x' where
  numbered := hnumbered
  calm := hcalm
  single := hsingle
  calls k call hk := (hcalls k call hk).elim (fun hold => (h.calls k call hold).mono hg) fun hnew => hnew
  pending id p hp := (hpending id p hp).elim (fun hold => hg.label _ _ (h.pending id p hold)) fun hnew => hnew
  streams id c hc := by
    rcases hstreams id c hc with hold | hnew
    · obtain ⟨origin, hlabel⟩ := h.streams id c hold
      exact ⟨origin, hg.label c _ hlabel⟩
    · exact hnew
  chans c id origin hc := (hchans c id origin hc).elim (fun hold => (h.chans c id origin hold).mono hg) fun hnew => hnew
  writes w id origin hw :=
    (hwrites w id origin hw).elim (fun hold => (h.writes w id origin hold).mono hg) fun hnew => hnew
  out e he := (hout e he).elim (fun hold => (h.out e hold).mono hg) fun hnew => hnew
  handlers k hk := (hhandlers k hk).elim (fun hold => (h.handlers k hold).mono hg) fun hnew => hnew
  delivered j c hj := by
    rcases hdelivered j c hj with hold | hnew
    · obtain ⟨id, origin, hlabel, hcarries⟩ := h.delivered j c hold
      exact ⟨id, origin, hg.label c _ hlabel, hcarries.mono hg⟩
    · exact hnew
  lost j hj := (hlost j hj).elim
    (fun hold => (h.lost j hold).imp fun _ hcarries => hcarries.mono hg) fun hnew => hnew

/-! ### The parts of a step -/

theorem idOf_congr (h : x'.runtime.opens.map OpenCall.id = x.runtime.opens.map OpenCall.id) (k : Nat) :
    x'.idOf k = x.idOf k := by
  have hk : ∀ y : Endpoint, y.idOf k = ((y.runtime.opens.map OpenCall.id)[k]?).bind id := by
    intro y
    rw [List.getElem?_map, idOf]
    cases y.runtime.opens[k]? <;> rfl
  rw [hk, hk, h]

theorem Numbered.congr (hn : Numbered x)
    (h : x'.runtime.opens.map OpenCall.id = x.runtime.opens.map OpenCall.id)
    (hnext : x'.runtime.nextStreamId = x.runtime.nextStreamId)
    (hparity : x'.runtime.localStreamIdParity = x.runtime.localStreamIdParity) : Numbered x' := by
  have hdrawn : x'.drawn = x.drawn := by
    have hcount := congrArg (List.countP Option.isSome) h
    rw [List.countP_map, List.countP_map] at hcount
    exact hcount
  have hfirst : x'.first = x.first := by rw [first, first, hparity]
  have hlen : x'.runtime.opens.length = x.runtime.opens.length := by
    simpa using congrArg List.length h
  refine ⟨by rw [hparity]; exact hn.parity, ?_, ?_, ?_, by rw [hlen]; exact hn.room⟩
  · rw [hnext, hfirst, hdrawn]
    exact hn.next
  · intro k id hid
    rw [idOf_congr h] at hid
    rw [hfirst, hdrawn]
    exact hn.ids k id hid
  · intro i j id hi hj
    rw [idOf_congr h] at hi hj
    exact hn.distinct i j id hi hj

/-- A step that starts and moves no call of `open`. -/
theorem Typed.region (h : Typed x) {r : Runtime} (hfixed : r.fixed = x.runtime.fixed)
    (hlabel : ∀ c l, x.label c = some l → label ⟨r, x.ins⟩ c = some l)
    (hhalf : ∀ w l, x.half w = some l → half ⟨r, x.ins⟩ w = some l)
    (hsingle : r.handlers.length ≤ 1)
    (hpending : ∀ id p, r.pendingOpens.lookup id = some p → x.runtime.pendingOpens.lookup id = some p)
    (hstreams : ∀ id c, r.streams.lookup id = some c →
      x.runtime.streams.lookup id = some c ∨ ∃ origin, label ⟨r, x.ins⟩ c = some (id, origin))
    (hchans : ∀ c id origin, label ⟨r, x.ins⟩ c = some (id, origin) →
      x.label c = some (id, origin) ∨ x.Belongs id origin)
    (hwrites : ∀ w id origin, half ⟨r, x.ins⟩ w = some (id, origin) →
      x.half w = some (id, origin) ∨ x.Belongs id origin)
    (hout : ∀ e ∈ r.out, e ∈ x.runtime.out ∨ x.Sourced e)
    (hhandlers : ∀ k ∈ r.handlers, k ∈ x.runtime.handlers ∨ HandlerOk ⟨r, x.ins⟩ k)
    (hdelivered : ∀ j c, (j, c) ∈ r.delivered → (j, c) ∈ x.runtime.delivered ∨
      ∃ id origin, x.label c = some (id, origin) ∧ x.Carries j id)
    (hlost : ∀ j ∈ r.lost, j ∈ x.runtime.lost ∨ ∃ id, x.Carries j id) : Typed ⟨r, x.ins⟩ := by
  simp only [Runtime.fixed, Prod.mk.injEq] at hfixed
  obtain ⟨hopens, hnext, hparity, hclosed, hclosers⟩ := hfixed
  have hg : Grows x ⟨r, x.ins⟩ := by
    refine ⟨rfl, hparity, ?_, ?_, hlabel, hhalf⟩
    · intro k id hid
      simpa only [idOf, hopens] using hid
    · intro k hk
      simpa only [Began, hopens] using hk
  refine h.change hg (h.numbered.congr (by rw [hopens]) hnext hparity)
    ⟨hclosed.trans h.calm.1, hclosers.trans h.calm.2⟩ hsingle ?_ ?_ hstreams ?_ ?_ ?_ hhandlers ?_ ?_
  · exact fun k call hk => .inl (hopens ▸ hk)
  · exact fun id p hp => .inl (hpending id p hp)
  · exact fun c id origin hc => (hchans c id origin hc).imp_right (·.mono hg)
  · exact fun w id origin hw => (hwrites w id origin hw).imp_right (·.mono hg)
  · exact fun e he => (hout e he).imp_right (·.mono hg)
  · intro j c hj
    refine (hdelivered j c hj).imp_right ?_
    rintro ⟨id, origin, hl, hcarries⟩
    exact ⟨id, origin, hlabel c _ hl, hcarries.mono hg⟩
  · exact fun j hj => (hlost j hj).imp_right fun hid => hid.imp fun _ hcarries => hcarries.mono hg

/-- The maps, the calls of `on_data` and the frames. -/
theorem Typed.keep (h : Typed x) {r : Runtime} (hfixed : r.fixed = x.runtime.fixed)
    (hchans : r.chans = x.runtime.chans) (hwrites : r.writes = x.runtime.writes)
    (hsingle : r.handlers.length ≤ 1)
    (hpending : ∀ id p, r.pendingOpens.lookup id = some p → x.runtime.pendingOpens.lookup id = some p)
    (hstreams : ∀ id c, r.streams.lookup id = some c →
      x.runtime.streams.lookup id = some c ∨ ∃ origin, x.label c = some (id, origin))
    (hout : ∀ e ∈ r.out, e ∈ x.runtime.out ∨ x.Sourced e)
    (hhandlers : ∀ k ∈ r.handlers, k ∈ x.runtime.handlers ∨ x.HandlerOk k)
    (hdelivered : ∀ j c, (j, c) ∈ r.delivered → (j, c) ∈ x.runtime.delivered ∨
      ∃ id origin, x.label c = some (id, origin) ∧ x.Carries j id)
    (hlost : ∀ j ∈ r.lost, j ∈ x.runtime.lost ∨ ∃ id, x.Carries j id) : Typed ⟨r, x.ins⟩ := by
  have hlabel : ∀ c, label ⟨r, x.ins⟩ c = x.label c := by
    intro c
    simp only [label, hchans]
  have hhalf : ∀ w, half ⟨r, x.ins⟩ w = x.half w := by
    intro w
    simp only [half, hwrites]
  have hg : Grows x ⟨r, x.ins⟩ := by
    simp only [Runtime.fixed, Prod.mk.injEq] at hfixed
    obtain ⟨hopens, -, hparity, -⟩ := hfixed
    refine ⟨rfl, hparity, ?_, ?_, fun c l hl => (hlabel c).trans hl, fun w l hl => (hhalf w).trans hl⟩
    · intro k id hid
      simpa only [idOf, hopens] using hid
    · intro k hk
      simpa only [Began, hopens] using hk
  refine h.region hfixed hg.label hg.half hsingle hpending ?_ ?_ ?_ hout ?_ hdelivered hlost
  · intro id c hc
    simp only [hlabel]
    exact hstreams id c hc
  · exact fun c id origin hc => .inl ((hlabel c).symm.trans hc)
  · exact fun w id origin hw => .inl ((hhalf w).symm.trans hw)
  · exact fun k hk => (hhandlers k hk).imp_right (·.mono hg)

/-! ### `on_data` and the maps -/

theorem Typed.setHandler (h : Typed x) (i : Nat) (task : Handler) (htask : x.HandlerOk task) :
    Typed ⟨x.runtime.setHandler i task, x.ins⟩ := by
  refine h.keep rfl rfl rfl ?_ (fun _ _ hp => hp) (fun _ _ hc => .inl hc) (fun _ he => .inl he) ?_
    (fun _ _ hd => .inl hd) fun _ hl => .inl hl
  · simpa [Runtime.setHandler] using h.single
  · intro k hk
    rcases List.mem_or_eq_of_mem_set hk with hold | rfl
    · exact .inl hold
    · exact .inr htask

theorem Typed.endHandler (h : Typed x) (i : Nat) : Typed ⟨x.runtime.endHandler i, x.ins⟩ := by
  refine h.keep rfl rfl rfl ?_ (fun _ _ hp => hp) (fun _ _ hc => .inl hc) (fun _ he => .inl he) ?_
    (fun _ _ hd => .inl hd) fun _ hl => .inl hl
  · have hle := List.length_eraseIdx_le x.runtime.handlers i
    have hone := h.single
    simp only [Runtime.endHandler]
    omega
  · exact fun k hk => .inl (List.mem_of_mem_eraseIdx hk)

theorem Typed.eraseStream (h : Typed x) (id : StreamId) :
    Typed ⟨{ x.runtime with streams := x.runtime.streams.erase id }, x.ins⟩ := by
  refine h.keep rfl rfl rfl h.single (fun _ _ hp => hp) ?_ (fun _ he => .inl he) (fun _ hk => .inl hk)
    (fun _ _ hd => .inl hd) fun _ hl => .inl hl
  intro id' c hc
  exact .inl (Table.lookup_erase_some.mp hc).2

theorem Typed.insertStream (h : Typed x) {id : StreamId} {c : Nat} {origin : Origin}
    (hlabel : x.label c = some (id, origin)) :
    Typed ⟨{ x.runtime with streams := x.runtime.streams.insert id c }, x.ins⟩ := by
  refine h.keep rfl rfl rfl h.single (fun _ _ hp => hp) ?_ (fun _ he => .inl he) (fun _ hk => .inl hk)
    (fun _ _ hd => .inl hd) fun _ hl => .inl hl
  intro id' c' hc
  rcases Table.lookup_insert_some.mp hc with ⟨rfl, rfl⟩ | ⟨hid, hc⟩
  · exact .inr ⟨origin, hlabel⟩
  · exact .inl hc

theorem Typed.erasePending (h : Typed x) (id : StreamId) :
    Typed ⟨{ x.runtime with pendingOpens := x.runtime.pendingOpens.erase id }, x.ins⟩ := by
  refine h.keep rfl rfl rfl h.single ?_ (fun _ _ hc => .inl hc) (fun _ he => .inl he)
    (fun _ hk => .inl hk) (fun _ _ hd => .inl hd) fun _ hl => .inl hl
  intro id' p hp
  exact (Table.lookup_erase_some.mp hp).2

theorem Typed.send (h : Typed x) {e : ControlStreamFrame × Source} (he : x.Sourced e) :
    Typed ⟨{ x.runtime with out := x.runtime.out ++ [e] }, x.ins⟩ := by
  refine h.keep rfl rfl rfl h.single (fun _ _ hp => hp) (fun _ _ hc => .inl hc) ?_
    (fun _ hk => .inl hk) (fun _ _ hd => .inl hd) fun _ hl => .inl hl
  intro e' he'
  rcases List.mem_append.mp he' with hold | hnew
  · exact .inl hold
  · obtain rfl := List.mem_singleton.mp hnew
    exact .inr he

theorem Typed.hand (h : Typed x) {j c : Nat} {id : StreamId} {origin : Origin}
    (hlabel : x.label c = some (id, origin)) (hcarries : x.Carries j id) :
    Typed ⟨{ x.runtime with delivered := x.runtime.delivered ++ [(j, c)] }, x.ins⟩ := by
  refine h.keep rfl rfl rfl h.single (fun _ _ hp => hp) (fun _ _ hc => .inl hc) (fun _ he => .inl he)
    (fun _ hk => .inl hk) ?_ fun _ hl => .inl hl
  intro j' c' hd
  rcases List.mem_append.mp hd with hold | hnew
  · exact .inl hold
  · cases List.mem_singleton.mp hnew
    exact .inr ⟨id, origin, hlabel, hcarries⟩

theorem Typed.lose (h : Typed x) {j : Nat} {id : StreamId} (hcarries : x.Carries j id) :
    Typed ⟨{ x.runtime with lost := x.runtime.lost ++ [j] }, x.ins⟩ := by
  refine h.keep rfl rfl rfl h.single (fun _ _ hp => hp) (fun _ _ hc => .inl hc) (fun _ he => .inl he)
    (fun _ hk => .inl hk) (fun _ _ hd => .inl hd) ?_
  intro j' hj
  rcases List.mem_append.mp hj with hold | hnew
  · exact .inl hold
  · obtain rfl := List.mem_singleton.mp hnew
    exact .inr ⟨id, hcarries⟩

theorem Typed.accept (h : Typed x) (c : Nat) :
    Typed ⟨{ x.runtime with accepted := x.runtime.accepted ++ [c] }, x.ins⟩ :=
  h.keep rfl rfl rfl h.single (fun _ _ hp => hp) (fun _ _ hc => .inl hc) (fun _ he => .inl he)
    (fun _ hk => .inl hk) (fun _ _ hd => .inl hd) fun _ hl => .inl hl

/-! ### Channels and write halves -/

theorem label_modify {r : Runtime} {f : Chan → Chan} (hf : ∀ ch, (f ch).id = ch.id ∧ (f ch).origin = ch.origin)
    (k c : Nat) (ins : List ControlStreamFrame) :
    label ⟨{ r with chans := r.chans.modify k f }, ins⟩ c = label ⟨r, ins⟩ c := by
  have hmap := congrArg (·[c]?) (map_modify_of_eq (fun ch : Chan => (ch.id, ch.origin)) f
    (fun ch => Prod.ext (hf ch).1 (hf ch).2) r.chans k)
  simpa only [label, List.getElem?_map] using hmap

theorem Typed.access (h : Typed x) {f : Chan → Chan}
    (hf : ∀ ch, (f ch).id = ch.id ∧ (f ch).origin = ch.origin) (c : Nat) :
    Typed ⟨{ x.runtime with chans := x.runtime.chans.modify c f }, x.ins⟩ := by
  have hlabel := fun c' => label_modify (r := x.runtime) hf c c' x.ins
  refine h.region rfl (fun c' l hl => (hlabel c').trans hl) (fun _ _ hw => hw) h.single
    (fun _ _ hp => hp) (fun _ _ hc => .inl hc) ?_ (fun _ _ _ hw => .inl hw) (fun _ he => .inl he)
    (fun _ hk => .inl hk) (fun _ _ hd => .inl hd) fun _ hl => .inl hl
  exact fun c' id origin hl => .inl ((hlabel c').symm.trans hl)

theorem label_push {ch : Chan} {c : Nat} {l : StreamId × Origin} (hl : x.label c = some l) :
    label ⟨{ x.runtime with chans := x.runtime.chans ++ [ch] }, x.ins⟩ c = some l := by
  obtain ⟨ch', hch, heq⟩ := Option.map_eq_some_iff.mp hl
  simp only [label, getElem?_append_of_eq_some hch, Option.map_some, heq]

theorem Typed.pushChan (h : Typed x) {ch : Chan} (hb : x.Belongs ch.id ch.origin) :
    Typed ⟨{ x.runtime with chans := x.runtime.chans ++ [ch] }, x.ins⟩ := by
  refine h.region rfl (fun c l hl => label_push hl) (fun _ _ hw => hw) h.single
    (fun _ _ hp => hp) (fun _ _ hc => .inl hc) ?_ (fun _ _ _ hw => .inl hw) (fun _ he => .inl he)
    (fun _ hk => .inl hk) (fun _ _ hd => .inl hd) fun _ hl => .inl hl
  intro c id origin hl
  obtain ⟨ch', hch, heq⟩ := Option.map_eq_some_iff.mp hl
  rcases getElem?_push_cases hch with hold | ⟨-, rfl⟩
  · exact .inl (by simp only [label, hold, Option.map_some, heq])
  · cases heq
    exact .inr hb

theorem Typed.setWrites (h : Typed x) {ws : List WriteHalf}
    (hmap : ws.map (fun half => (half.id, half.origin)) =
      x.runtime.writes.map fun half => (half.id, half.origin)) :
    Typed ⟨{ x.runtime with writes := ws }, x.ins⟩ := by
  have hhalf : ∀ w, half ⟨{ x.runtime with writes := ws }, x.ins⟩ w = x.half w := by
    intro w
    have hw := congrArg (·[w]?) hmap
    simpa only [half, List.getElem?_map] using hw
  refine h.region rfl (fun _ _ hl => hl) (fun w l hl => (hhalf w).trans hl) h.single
    (fun _ _ hp => hp) (fun _ _ hc => .inl hc) (fun _ _ _ hl => .inl hl) ?_ (fun _ he => .inl he)
    (fun _ hk => .inl hk) (fun _ _ hd => .inl hd) fun _ hl => .inl hl
  exact fun w id origin hl => .inl ((hhalf w).symm.trans hl)

theorem Typed.pushWrite (h : Typed x) (half : WriteHalf) (hb : x.Belongs half.id half.origin) :
    Typed ⟨{ x.runtime with writes := x.runtime.writes ++ [half] }, x.ins⟩ := by
  refine h.region rfl (fun _ _ hl => hl) ?_ h.single (fun _ _ hp => hp) (fun _ _ hc => .inl hc)
    (fun _ _ _ hl => .inl hl) ?_ (fun _ he => .inl he) (fun _ hk => .inl hk) (fun _ _ hd => .inl hd)
    fun _ hl => .inl hl
  · intro w l hl
    obtain ⟨half', hw, heq⟩ := Option.map_eq_some_iff.mp hl
    simp only [Endpoint.half, getElem?_append_of_eq_some hw, Option.map_some, heq]
  · intro w id origin hl
    obtain ⟨half', hw, heq⟩ := Option.map_eq_some_iff.mp hl
    rcases getElem?_push_cases hw with hold | ⟨-, rfl⟩
    · exact .inl (by simp only [Endpoint.half, hold, Option.map_some, heq])
    · cases heq
      exact .inr hb

/-! ### `open` -/

/-- A call that keeps its id moves on. -/
theorem grows_of_call {k : Nat} {call : OpenCall} {f : OpenCall → OpenCall}
    (hk : x.runtime.opens[k]? = some call) (hid : ∀ call, (f call).id = call.id)
    (hearly : call.early = false → (f call).early = false) :
    Grows x ⟨{ x.runtime with opens := x.runtime.opens.modify k f }, x.ins⟩ := by
  have hmap := map_modify_of_eq OpenCall.id f hid x.runtime.opens k
  refine ⟨rfl, rfl, ?_, ?_, fun _ _ hl => hl, fun _ _ hl => hl⟩
  · intro j id hj
    rw [idOf_congr hmap]
    exact hj
  · rintro j ⟨call', hj, hbegan⟩
    by_cases hjk : j = k
    · subst hjk
      obtain rfl := Option.some.inj (hj.symm.trans hk)
      exact ⟨f call', getElem?_modify_of_eq_some hk, hearly hbegan⟩
    · exact ⟨call', (getElem?_modify_of_ne hjk).trans hj, hbegan⟩

theorem Typed.call (h : Typed x) {k : Nat} {call : OpenCall} {f : OpenCall → OpenCall}
    (hk : x.runtime.opens[k]? = some call) (hid : ∀ call, (f call).id = call.id)
    (hearly : call.early = false → (f call).early = false) (hok : x.CallOk k (f call)) :
    Typed ⟨{ x.runtime with opens := x.runtime.opens.modify k f }, x.ins⟩ := by
  have hg := grows_of_call hk hid hearly
  have hmap := map_modify_of_eq OpenCall.id f hid x.runtime.opens k
  refine h.change hg (h.numbered.congr hmap rfl rfl) h.calm h.single ?_ (fun _ _ hp => .inl hp)
    (fun _ _ hc => .inl hc) (fun _ _ _ hl => .inl hl) (fun _ _ _ hl => .inl hl) (fun _ he => .inl he)
    (fun _ hk => .inl hk) (fun _ _ hd => .inl hd) fun _ hl => .inl hl
  intro j call' hj
  rcases getElem?_modify_cases hk hj with ⟨rfl, rfl⟩ | ⟨-, hold⟩
  · exact .inr (hok.mono hg)
  · exact .inl hold

/-- Something is sent to a call that has made its channel. -/
theorem Typed.sendWaiter (h : Typed x) {k : Nat} (hbegan : x.Began k) (result : P2pResult Unit) :
    Typed ⟨x.runtime.sendWaiter k result, x.ins⟩ := by
  obtain ⟨call, hk, hearly⟩ := hbegan
  have hok := h.calls k call hk
  obtain ⟨purpose, id, phase, waiter, rx⟩ := call
  refine h.call hk ?_ ?_ ?_
  · intro call
    split <;> rfl
  · split <;> exact fun hold => hold
  · -- the phases that read the waiter are those of a call that has no channel
    cases phase with
    | checking | allocating => cases hearly
    | returned chan result => cases chan <;> split <;> exact hok
    | _ => split <;> exact hok

theorem Typed.openStream (h : Typed x) (purpose : TunnelPurpose)
    (hroom : x.runtime.opens.length + 1 < 2 ^ 31) :
    Typed ⟨x.runtime.step (.openStream purpose), x.ins⟩ := by
  have hidOf : ∀ k, idOf ⟨x.runtime.step (.openStream purpose), x.ins⟩ k = x.idOf k := by
    intro k
    simp only [idOf, Runtime.step]
    rcases Nat.lt_trichotomy k x.runtime.opens.length with hlt | rfl | hgt
    · rw [List.getElem?_append_left hlt]
    · rw [List.getElem?_concat_length, List.getElem?_eq_none (Nat.le_refl _)]
      rfl
    · rw [List.getElem?_eq_none (by simp; omega), List.getElem?_eq_none (by omega)]
  have hdrawn : drawn ⟨x.runtime.step (.openStream purpose), x.ins⟩ = x.drawn := by
    simp [drawn, Runtime.step, List.countP_append]
  have hg : Grows x ⟨x.runtime.step (.openStream purpose), x.ins⟩ := by
    refine ⟨rfl, rfl, ?_, ?_, fun _ _ hl => hl, fun _ _ hl => hl⟩
    · exact fun k id hid => (hidOf k).trans hid
    · rintro k ⟨call, hk, hbegan⟩
      exact ⟨call, getElem?_append_of_eq_some hk, hbegan⟩
  have hnumbered : Numbered ⟨x.runtime.step (.openStream purpose), x.ins⟩ := by
    refine ⟨h.numbered.parity, ?_, ?_, ?_, ?_⟩
    · rw [hdrawn]
      exact h.numbered.next
    · intro k id hid
      rw [hdrawn]
      exact h.numbered.ids k id ((hidOf k).symm.trans hid)
    · intro i j id hi hj
      exact h.numbered.distinct i j id ((hidOf i).symm.trans hi) ((hidOf j).symm.trans hj)
    · simpa [Runtime.step] using hroom
  refine h.change hg hnumbered h.calm h.single ?_ (fun _ _ hp => .inl hp)
    (fun _ _ hc => .inl hc) (fun _ _ _ hl => .inl hl) (fun _ _ _ hl => .inl hl) (fun _ he => .inl he)
    (fun _ hk => .inl hk) (fun _ _ hd => .inl hd) fun _ hl => .inl hl
  intro k call hk
  rcases getElem?_push_cases hk with hold | ⟨-, rfl⟩
  · exact .inl hold
  · exact .inr ⟨rfl, rfl, rfl⟩

/-- The call `k` has drawn the next id. -/
def drawId (x : Endpoint) (k : Nat) : Endpoint :=
  ⟨{ x.runtime with
    nextStreamId := x.runtime.nextStreamId + 2
    opens := x.runtime.opens.modify k fun call =>
      { call with
        id := some x.runtime.nextStreamId
        phase := .probingPending x.runtime.nextStreamId } }, x.ins⟩

theorem idOf_drawId {k : Nat} {call : OpenCall} (hk : x.runtime.opens[k]? = some call) (j : Nat) :
    (x.drawId k).idOf j = if j = k then some x.runtime.nextStreamId else x.idOf j := by
  by_cases hj : j = k
  · subst hj
    simp only [idOf, drawId, getElem?_modify_of_eq_some hk, if_pos, Option.bind_some]
  · simp only [idOf, drawId, getElem?_modify_of_ne hj, if_neg hj]

/-- The counter has not come back to where it was. -/
theorem Numbered.next_val (h : Numbered x) {k : Nat} {call : OpenCall}
    (hk : x.runtime.opens[k]? = some call) (hid : call.id = none) :
    x.runtime.nextStreamId.val = x.first + 2 * x.drawn ∧ x.first + 2 * x.drawn + 2 ≤ 2 ^ 32 ∧
      0 < x.first := by
  have hlt : x.drawn < x.runtime.opens.length := by
    refine lt_of_le_of_ne List.countP_le_length fun heq => ?_
    have hsome := List.countP_eq_length.mp heq call (List.mem_of_getElem? hk)
    rw [hid] at hsome
    cases hsome
  have hroom := h.room
  have hparity := h.parity
  have hnext := h.next
  unfold first at hnext ⊢
  rw [Nat.mod_eq_of_lt (by omega)] at hnext
  exact ⟨hnext, by omega, by omega⟩

theorem Typed.allocate (h : Typed x) {k : Nat} {call : OpenCall}
    (hk : x.runtime.opens[k]? = some call) (hid : call.id = none) (hearly : call.early = true) :
    Typed (x.drawId k) := by
  have hidOf := idOf_drawId hk
  obtain ⟨hval, hbound, hfirst⟩ := h.numbered.next_val hk hid
  have hnone : x.idOf k = none := by rw [idOf, hk, Option.bind_some, hid]
  have hg : Grows x (x.drawId k) := by
    refine ⟨rfl, rfl, ?_, ?_, fun _ _ hl => hl, fun _ _ hl => hl⟩
    · intro j id hj
      have hjk : j ≠ k := by
        rintro rfl
        rw [hnone] at hj
        cases hj
      rw [hidOf, if_neg hjk]
      exact hj
    · rintro j ⟨call', hj, hbegan⟩
      have hjk : j ≠ k := by
        rintro rfl
        obtain rfl := Option.some.inj (hk.symm.trans hj)
        rw [hearly] at hbegan
        cases hbegan
      exact ⟨call', (getElem?_modify_of_ne hjk).trans hj, hbegan⟩
  have hdrawn : (x.drawId k).drawn = x.drawn + 1 := by
    have hcount := countP_modify (·.id.isSome) (fun call : OpenCall =>
      { call with
        id := some x.runtime.nextStreamId
        phase := .probingPending x.runtime.nextStreamId }) hk
    simpa [hid, drawn, drawId] using hcount
  refine h.change hg ⟨h.numbered.parity, ?_, ?_, ?_, ?_⟩ h.calm h.single ?_ (fun _ _ hp => .inl hp)
    (fun _ _ hc => .inl hc) (fun _ _ _ hl => .inl hl) (fun _ _ _ hl => .inl hl) (fun _ he => .inl he)
    (fun _ hk => .inl hk) (fun _ _ hd => .inl hd) fun _ hl => .inl hl
  · have hadd : (x.drawId k).runtime.nextStreamId.val =
        (x.runtime.nextStreamId.val + 2) % 2 ^ 32 := rfl
    rw [hdrawn, hadd, hval]
    rfl
  · intro j id hj
    rw [hidOf] at hj
    rw [hdrawn]
    split at hj
    · cases hj
      exact ⟨x.drawn, Nat.lt_succ_self _, hval⟩
    · obtain ⟨m, hm, hidm⟩ := h.numbered.ids j id hj
      exact ⟨m, Nat.lt_succ_of_lt hm, hidm⟩
  · intro i j id hi hj
    have hfresh : ∀ n, x.idOf n ≠ some x.runtime.nextStreamId := by
      intro n hn
      obtain ⟨m, hm, hidm⟩ := h.numbered.ids n _ hn
      omega
    rw [hidOf] at hi hj
    split at hi <;> split at hj
    · omega
    · cases hi
      exact absurd hj (hfresh j)
    · cases hj
      exact absurd hi (hfresh i)
    · exact h.numbered.distinct i j id hi hj
  · simpa [drawId] using h.numbered.room
  · intro j call' hj
    rcases getElem?_modify_cases hk hj with ⟨rfl, rfl⟩ | ⟨-, hold⟩
    · exact .inr rfl
    · exact .inl hold

/-- The call `k` has made its channel. -/
def addChan (x : Endpoint) (k : Nat) (id : StreamId) (ch : Chan) (purpose : TunnelPurpose) : Endpoint :=
  ⟨{ x.runtime.setPhase k (.sending id x.runtime.chans.length) with
    chans := x.runtime.chans ++ [ch]
    pendingOpens := x.runtime.pendingOpens.insert id ⟨purpose, x.runtime.chans.length, k⟩ }, x.ins⟩

theorem Typed.insert (h : Typed x) {k : Nat} {call : OpenCall} {id : StreamId}
    (hk : x.runtime.opens[k]? = some call) (hphase : call.phase = .inserting id)
    (ch : Chan) (hch : ch.id = id ∧ ch.origin = .opened k) (purpose : TunnelPurpose) :
    Typed (x.addChan k id ch purpose) := by
  have hid : call.id = some id := by
    have hok := h.calls k call hk
    simpa only [CallOk, hphase] using hok
  have hmap := map_modify_of_eq OpenCall.id
    (fun call => { call with phase := .sending id x.runtime.chans.length }) (fun _ => rfl)
    x.runtime.opens k
  have hgrow := grows_of_call (x := x)
    (f := fun call => { call with phase := .sending id x.runtime.chans.length }) hk (fun _ => rfl)
    fun _ => rfl
  have hg : Grows x (x.addChan k id ch purpose) :=
    ⟨rfl, rfl, hgrow.idOf, hgrow.began, fun _ _ hl => label_push hl, fun _ _ hl => hl⟩
  have hnew : (x.addChan k id ch purpose).label x.runtime.chans.length = some (id, .opened k) := by
    simp only [label, addChan, List.getElem?_concat_length, Option.map_some, hch]
  refine h.change hg (h.numbered.congr hmap rfl rfl) h.calm h.single ?_ ?_
    (fun _ _ hc => .inl hc) ?_ (fun _ _ _ hl => .inl hl) (fun _ he => .inl he)
    (fun _ hk => .inl hk) (fun _ _ hd => .inl hd) fun _ hl => .inl hl
  · intro j call' hj
    rcases getElem?_modify_cases hk hj with ⟨rfl, rfl⟩ | ⟨-, hold⟩
    · exact .inr ⟨hid, hnew⟩
    · exact .inl hold
  · intro id' p hp
    simp only [addChan] at hp
    rcases Table.lookup_insert_some.mp hp with ⟨rfl, rfl⟩ | ⟨heq, hp⟩
    · exact .inr hnew
    · exact .inl hp
  · intro c id' origin hl
    obtain ⟨ch', hc, heq⟩ := Option.map_eq_some_iff.mp hl
    rcases getElem?_push_cases hc with hold | ⟨-, rfl⟩
    · exact .inl (by simp only [label, hold, Option.map_some, heq])
    · rw [hch.1, hch.2] at heq
      cases heq
      refine .inr ⟨?_, ?_⟩
      · simp only [idOf, addChan, Runtime.setPhase, getElem?_modify_of_eq_some hk, Option.bind_some,
          hid]
      · exact ⟨_, getElem?_modify_of_eq_some hk, rfl⟩

theorem Numbered.own (h : Numbered x) {k : Nat} {id : StreamId} (hid : x.idOf k = some id) :
    x.runtime.isPeerStreamId id = false := by
  obtain ⟨m, -, hm⟩ := h.ids k id hid
  have hparity := h.parity
  have hval : id.val % 2 = x.runtime.localStreamIdParity := by
    unfold first at hm
    omega
  simp [Runtime.isPeerStreamId, hval]

/-- An id that a call has just drawn is in no map. -/
theorem Typed.fresh (h : Typed x) {k : Nat} {call : OpenCall} {id : StreamId}
    (hk : x.runtime.opens[k]? = some call) (hid : call.id = some id) (hearly : call.early = true) :
    x.runtime.pendingOpens.lookup id = none ∧ x.runtime.streams.lookup id = none := by
  have hidOf : x.idOf k = some id := by rw [idOf, hk, Option.bind_some, hid]
  have hnot : ∀ c origin, x.label c ≠ some (id, origin) := by
    intro c origin hc
    have hb := h.chans c id origin hc
    cases origin with
    | opened k' =>
      obtain ⟨hid', call', hk', hbegan⟩ := hb
      obtain rfl := h.numbered.distinct k' k id hid' hidOf
      obtain rfl := Option.some.inj (hk.symm.trans hk')
      rw [hearly] at hbegan
      cases hbegan
    | accepted n =>
      have hpeer := hb.1
      rw [h.numbered.own hidOf] at hpeer
      cases hpeer
  constructor
  · refine Option.eq_none_iff_forall_ne_some.mpr fun p hp => ?_
    exact hnot _ _ (h.pending id p hp)
  · refine Option.eq_none_iff_forall_ne_some.mpr fun c hc => ?_
    obtain ⟨origin, hlabel⟩ := h.streams id c hc
    exact hnot c origin hlabel

theorem Typed.setPhase (h : Typed x) {k : Nat} {call : OpenCall} (phase : OpenPhase)
    (hk : x.runtime.opens[k]? = some call)
    (hearly : call.early = false → ({ call with phase } : OpenCall).early = false)
    (hok : x.CallOk k { call with phase }) : Typed ⟨x.runtime.setPhase k phase, x.ins⟩ :=
  h.call hk (fun _ => rfl) hearly hok

theorem Typed.runOpen (h : Typed x) (k : Nat) : Typed ⟨x.runtime.runOpen k, x.ins⟩ := by
  unfold Runtime.runOpen
  cases hk : x.runtime.opens[k]? with
  | none => exact h
  | some call =>
    have hok := h.calls k call hk
    dsimp only
    cases hphase : call.phase with
    | checking =>
      simp only [CallOk, hphase] at hok
      simp only [h.calm.1, Bool.false_eq_true, if_false]
      exact h.setPhase _ hk (by simp [OpenCall.early, hphase]) hok
    | allocating =>
      simp only [CallOk, hphase] at hok
      have hne : x.runtime.nextStreamId ≠ 0 := by
        intro hzero
        obtain ⟨hval, -, hpos⟩ := h.numbered.next_val hk hok.1
        rw [hzero] at hval
        have : (0 : U32).val = 0 := rfl
        omega
      simp only [if_neg hne]
      exact h.allocate hk hok.1 (by simp [OpenCall.early, hphase])
    | probingPending id =>
      simp only [CallOk, hphase] at hok
      have hfresh := h.fresh hk hok (by simp [OpenCall.early, hphase])
      simp only [hfresh.1, Option.isSome_none, Bool.false_eq_true, if_false]
      exact h.setPhase _ hk (by simp [OpenCall.early, hphase]) hok
    | probingStreams id =>
      simp only [CallOk, hphase] at hok
      have hfresh := h.fresh hk hok (by simp [OpenCall.early, hphase])
      simp only [hfresh.2, Option.isSome_none, Bool.false_eq_true, if_false]
      exact h.setPhase _ hk (by simp [OpenCall.early, hphase]) hok
    | inserting id => exact h.insert hk hphase _ ⟨rfl, rfl⟩ call.purpose
    | sending id c | waiting id c | returned chan result => exact h
    | leaving id c result =>
      simp only [CallOk, hphase] at hok
      cases result with
      | ok =>
        have hmoved := (h.setPhase (.returned (some c) .ok) hk (fun _ => rfl)
          ⟨id, hok.1, hok.2⟩).erasePending id
        refine hmoved.pushWrite ⟨id, .opened k, .live⟩ ⟨?_, ?_⟩
        · simp only [idOf, Runtime.setPhase, getElem?_modify_of_eq_some hk, Option.bind_some, hok.1]
        · exact ⟨_, getElem?_modify_of_eq_some hk, rfl⟩
      | err e => exact (h.setPhase (.dropping c (.err e)) hk (fun _ => rfl) trivial).erasePending id
      | cancelled =>
        exact (h.setPhase (.dropping c .cancelled) hk (fun _ => rfl) trivial).erasePending id
    | dropping c result =>
      exact (h.setPhase (.returned none result) hk (fun _ => rfl) trivial).access
        (f := Chan.dropReceiver) (fun _ => ⟨rfl, rfl⟩) c

/-- The await of a call is over. -/
theorem Typed.leave (h : Typed x) {k : Nat} {call : OpenCall} {id : StreamId} {c : Nat}
    (hk : x.runtime.opens[k]? = some call)
    (hphase : call.phase = .sending id c ∨ call.phase = .waiting id c) (result : OpenEnd) :
    Typed ⟨x.runtime.leave k id c result, x.ins⟩ := by
  have hok : call.id = some id ∧ x.label c = some (id, .opened k) := by
    have hold := h.calls k call hk
    rcases hphase with hphase | hphase <;> simpa only [CallOk, hphase] using hold
  exact h.call hk (fun _ => rfl) (fun _ => rfl) hok

theorem Typed.openSent (h : Typed x) (k : Nat) : Typed ⟨x.runtime.openSent k, x.ins⟩ := by
  unfold Runtime.openSent
  split
  · rename_i purpose id' id c waiter rx hk
    have hok : id' = some id ∧ x.label c = some (id, .opened k) := h.calls k _ hk
    have hmoved := h.setPhase (.waiting id c) hk (fun _ => rfl) hok
    refine hmoved.send (e := (.openStream id purpose, .call k)) ⟨k, rfl, ?_, ?_⟩
    · simp only [idOf, Runtime.setPhase, getElem?_modify_of_eq_some hk, Option.bind_some, hok.1]
    · exact ⟨_, getElem?_modify_of_eq_some hk, rfl⟩
  · exact h

theorem Typed.openSendFails (h : Typed x) (k : Nat) (err : P2pError) :
    Typed ⟨x.runtime.openSendFails k err false, x.ins⟩ := by
  unfold Runtime.openSendFails
  split
  · rename_i hk
    exact h.leave hk (.inl rfl) (.err err)
  · exact h

theorem Typed.openResumes (h : Typed x) (k : Nat) : Typed ⟨x.runtime.openResumes k, x.ins⟩ := by
  unfold Runtime.openResumes
  split
  · rename_i hk
    exact h.leave hk (.inr rfl) .ok
  · rename_i err rx hk
    exact h.leave hk (.inr rfl) (.err err)
  · exact h

theorem Typed.openCanceled (h : Typed x) (k : Nat) : Typed ⟨x.runtime.openCanceled k, x.ins⟩ := by
  unfold Runtime.openCanceled
  split
  · rename_i hk
    split
    · exact h
    · exact h.leave hk (.inr rfl) _
  · exact h

theorem Typed.openTimesOut (h : Typed x) (k : Nat) : Typed ⟨x.runtime.openTimesOut k, x.ins⟩ := by
  unfold Runtime.openTimesOut
  split
  · rename_i hk
    exact h.leave hk (.inr rfl) _
  · exact h

theorem Typed.openDropped (h : Typed x) (k : Nat) : Typed ⟨x.runtime.openDropped k, x.ins⟩ := by
  unfold Runtime.openDropped
  split
  · rename_i hk
    exact h.leave hk (.inl rfl) .cancelled
  · rename_i hk
    exact h.leave hk (.inr rfl) .cancelled
  · exact h

/-! ### Whole regions -/

theorem Typed.dispatch (h : Typed x) (i : Nat) {index : Nat} {frame : ControlStreamFrame}
    (hframe : x.ins[index]? = some frame) (hlast : x.Last index) :
    Typed ⟨x.runtime.dispatch i index frame, x.ins⟩ := by
  cases frame with
  | openStream id purpose =>
    simp only [Runtime.dispatch]
    split
    · rename_i hpeer
      exact h.setHandler i (.openPending id purpose index) ⟨hpeer, ⟨purpose, hframe⟩, hlast⟩
    · exact h.setHandler i (.answering id .invalidParam) ⟨index, purpose, hframe⟩
  | openResp id result => exact h.setHandler i (.respTake id result) ⟨index, hframe⟩
  | data id bytes => exact h.setHandler i (.delivering id bytes index) ⟨hframe, hlast⟩
  | fin id => exact h.setHandler i (.finishing id index) ⟨hframe, hlast⟩
  | reset id reason =>
    exact h.setHandler i (.resetting id (reason.intoP2pError "control stream reset"))
      ⟨index, reason, hframe⟩
  | window id credit => exact h.endHandler i

theorem Typed.deliver (h : Typed x) (i : Nat) {id : StreamId} {bytes : List U8} {index : Nat}
    (hframe : x.ins[index]? = some (.data id bytes)) :
    Typed ⟨x.runtime.deliver i id bytes index, x.ins⟩ := by
  have hcarries : x.Carries index id := ⟨_, hframe, .inr ⟨bytes, rfl⟩⟩
  unfold Runtime.deliver
  cases hc : x.runtime.streams.lookup id with
  | none => exact (h.lose hcarries).endHandler i
  | some c =>
    obtain ⟨origin, hlabel⟩ := h.streams id c hc
    dsimp only
    split
    · exact ((h.hand hlabel hcarries).endHandler i).access (f := Chan.deliver bytes)
        (fun _ => ⟨rfl, rfl⟩) c
    · rename_i failure hfail
      exact ((h.setHandler i (.sendingReset id failure.reason) ⟨c, origin, hlabel⟩).eraseStream
        id).access (f := Chan.deliver bytes) (fun _ => ⟨rfl, rfl⟩) c

theorem Typed.respond (h : Typed x) (i : Nat) {id : StreamId} {pending : PendingOpen}
    (hok : x.PendingOk id pending) (result : TunnelCommandResult) :
    Typed ⟨x.runtime.respond i id result pending, x.ins⟩ := by
  have hbegan := (h.chans _ _ _ hok).2
  unfold Runtime.respond
  split
  · split
    · exact (h.sendWaiter hbegan (.ok ())).setHandler i
        (.respInsert id pending.inboundTx) ⟨pending.waiter, hok⟩
    · exact h.endHandler i
  · exact (h.sendWaiter hbegan _).endHandler i

/-- A call of `on_data` takes a new stream into the map. -/
theorem Typed.openInsert (h : Typed x) (i : Nat) {id : StreamId} {index : Nat}
    (hpeer : x.runtime.isPeerStreamId id = true) (hasked : x.Asked index id) (hlast : x.Last index)
    (prepare : Bool) {ch : Chan} (hch : ch.id = id ∧ ch.origin = .accepted index) :
    Typed ⟨{ x.runtime.setHandler i (.openPrepare id x.runtime.chans.length index prepare) with
      chans := x.runtime.chans ++ [ch]
      streams := x.runtime.streams.insert id x.runtime.chans.length }, x.ins⟩ := by
  have hb : x.Belongs ch.id ch.origin := by
    rw [hch.1, hch.2]
    exact ⟨hpeer, hasked⟩
  have hpushed := h.pushChan hb
  have hlabel : label ⟨{ x.runtime with chans := x.runtime.chans ++ [ch] }, x.ins⟩
      x.runtime.chans.length = some (id, .accepted index) := by
    simp only [label, List.getElem?_concat_length, Option.map_some, hch]
  exact (hpushed.insertStream hlabel).setHandler i
    (.openPrepare id x.runtime.chans.length index prepare) ⟨hasked, hlast, hlabel⟩

theorem Typed.runHandler (h : Typed x) (i : Nat) (prepared : Option P2pError) :
    Typed ⟨x.runtime.runHandler i prepared, x.ins⟩ := by
  unfold Runtime.runHandler
  cases hi : x.runtime.handlers[i]? with
  | none => exact h
  | some task =>
    have hok := h.handlers task (List.mem_of_getElem? hi)
    cases task with
    | checking frame index =>
      obtain ⟨f, rfl, hframe, hlast⟩ := hok
      simp only [h.calm.1, Bool.false_eq_true, if_false]
      exact h.dispatch i hframe hlast
    | openPending id purpose index =>
      dsimp only
      split
      · exact h.setHandler i (.answering id .conflictLost) ⟨index, hok.2.1⟩
      · exact h.setHandler i (.openStreams id purpose index) hok
    | openStreams id purpose index =>
      dsimp only
      split
      · exact h.setHandler i (.answering id .conflictLost) ⟨index, hok.2.1⟩
      · exact h.setHandler i (.openListener id purpose index) hok
    | openListener id purpose index =>
      dsimp only
      split
      · exact h.setHandler i (.answering id .listenerClosed) ⟨index, hok.2.1⟩
      · split
        · exact h.setHandler i (.openInsert id index _) hok
        · exact h.setHandler i (.answering id .portNotListen) ⟨index, hok.2.1⟩
    | openInsert id index prepare =>
      dsimp only
      split
      · exact h.setHandler i (.answering id .conflictLost) ⟨index, hok.2.1⟩
      · exact h.openInsert i hok.1 hok.2.1 hok.2.2 prepare ⟨rfl, rfl⟩
    | openPrepare id c index prepare =>
      dsimp only
      split
      · exact (h.setHandler i (.openRemove id c) ⟨index, hok.1⟩).access
          (f := Chan.dropReceiver) (fun _ => ⟨rfl, rfl⟩) c
      · have hb := h.chans c id _ hok.2.2
        exact ((h.pushWrite ⟨id, .accepted index, .live⟩ hb).setHandler i
          (.answering id .success) ⟨index, hok.1⟩).accept c
    | openRemove id c =>
      have hmoved := (h.setHandler i (.answering id .retired) hok).eraseStream id
      dsimp only
      split
      · exact hmoved.access (f := Chan.remove) (fun _ => ⟨rfl, rfl⟩) _
      · exact hmoved
    | respTake id result =>
      dsimp only
      split
      · exact h.endHandler i
      · rename_i pending hpending
        exact (h.setHandler i (.respSend id result pending)
          (h.pending id pending hpending)).erasePending id
    | respSend id result pending => exact h.respond i hok result
    | respInsert id c =>
      obtain ⟨k, hlabel⟩ := hok
      exact ((h.insertStream hlabel).endHandler i).access (f := Chan.register)
        (fun _ => ⟨rfl, rfl⟩) c
    | delivering id bytes index => exact h.deliver i hok.1
    | finishing id index =>
      have hcarries : x.Carries index id := ⟨_, hok.1, .inl rfl⟩
      dsimp only
      split
      · exact (h.lose hcarries).endHandler i
      · rename_i c hc
        obtain ⟨origin, hlabel⟩ := h.streams id c hc
        exact (((h.hand hlabel hcarries).endHandler i).access (f := Chan.terminate .fin)
          (fun _ => ⟨rfl, rfl⟩) c).eraseStream id
    | resetting id reason =>
      dsimp only
      split
      · exact h.endHandler i
      · exact ((h.endHandler i).access (f := Chan.terminate (.reset reason.code reason.msg))
          (fun _ => ⟨rfl, rfl⟩) _).eraseStream id
    | answering id result | sendingReset id reason => exact h

theorem Typed.handlerSent (h : Typed x) (i : Nat) : Typed ⟨x.runtime.handlerSent i, x.ins⟩ := by
  unfold Runtime.handlerSent
  cases hi : x.runtime.handlers[i]? with
  | none => exact h
  | some task =>
    have hok := h.handlers task (List.mem_of_getElem? hi)
    cases task with
    | answering id result => exact (h.send (e := (.openResp id result, .handler)) hok).endHandler i
    | sendingReset id reason => exact (h.send (e := (.reset id reason, .handler)) hok).endHandler i
    | _ => exact h

theorem Typed.writeData (h : Typed x) (w : Nat) (bytes : List U8) :
    Typed ⟨x.runtime.writeData w bytes, x.ins⟩ := by
  unfold Runtime.writeData
  split
  · rename_i id origin hw
    split
    · exact h
    · refine h.send (e := (.data id bytes, .writer w)) ⟨w, origin, rfl, ?_⟩
      simp only [half, hw, Option.map_some]
  · exact h

theorem Typed.shutdown (h : Typed x) (w : Nat) : Typed ⟨x.runtime.shutdown w, x.ins⟩ := by
  unfold Runtime.shutdown
  split
  · rename_i id origin hw
    split
    · exact h
    · have hhalf : x.half w = some (id, origin) := by simp only [half, hw, Option.map_some]
      exact (h.send (e := (.fin id, .writer w)) ⟨w, origin, rfl, hhalf⟩).setWrites
        (map_set_of_eq hw rfl)
  · exact h

theorem Typed.dropWrite (h : Typed x) (w : Nat) : Typed ⟨x.runtime.dropWrite w, x.ins⟩ :=
  h.setWrites (map_modify_of_eq _ (fun half : WriteHalf => { half with state := .dropped })
    (fun _ => rfl) _ w)

theorem Typed.pollRead (h : Typed x) (c n : Nat) : Typed ⟨x.runtime.pollRead c n, x.ins⟩ := by
  unfold Runtime.pollRead
  split
  · exact h.access (f := Chan.pollRead n) (fun _ => ⟨rfl, rfl⟩) c
  · exact h

theorem Typed.dropRead (h : Typed x) (c : Nat) : Typed ⟨x.runtime.dropRead c, x.ins⟩ := by
  unfold Runtime.dropRead
  split
  · exact h.access (f := Chan.dropReceiver) (fun _ => ⟨rfl, rfl⟩) c
  · exact h

theorem Typed.act (h : Typed x) {e : RuntimeEvent} (hadmits : x.admits e = true) :
    Typed ⟨x.runtime.step e, x.ins⟩ := by
  cases e with
  | listen listener =>
    have hopen : ¬ x.runtime.closed = true := by simp [h.calm.1]
    simp only [Runtime.step, if_neg hopen]
    exact h.keep rfl rfl rfl h.single (fun _ _ hp => hp) (fun _ _ hc => .inl hc) (fun _ he => .inl he)
      (fun _ hk => .inl hk) (fun _ _ hd => .inl hd) fun _ hl => .inl hl
  | openStream purpose => exact h.openStream purpose (by simpa [admits] using hadmits)
  | runOpen k => exact h.runOpen k
  | openSent k => exact h.openSent k
  | openSendFails k err closes =>
    cases closes with
    | false => exact h.openSendFails k err
    | true => cases hadmits
  | openResumes k => exact h.openResumes k
  | openCanceled k => exact h.openCanceled k
  | openTimesOut k => exact h.openTimesOut k
  | openDropped k => exact h.openDropped k
  | runHandler i prepared => exact h.runHandler i prepared
  | handlerSent i => exact h.handlerSent i
  | writeData w bytes => exact h.writeData w bytes
  | shutdown w => exact h.shutdown w
  | dropWrite w => exact h.dropWrite w
  | pollRead c n => exact h.pollRead c n
  | dropRead c => exact h.dropRead c
  | onData | onOversized | handlerSendFails | closeAll | runCloser => cases hadmits

/-- A frame is given to `on_data` when no call of it is under way. -/
theorem Typed.receive (h : Typed x) (hnone : x.runtime.handlers = []) (frame : ControlStreamFrame) :
    Typed ⟨x.runtime.step (.onData (some frame) x.ins.length), x.ins ++ [frame]⟩ := by
  have hasked : ∀ n id, x.Asked n id →
      Asked ⟨x.runtime.step (.onData (some frame) x.ins.length), x.ins ++ [frame]⟩ n id := by
    rintro n id ⟨purpose, hn⟩
    exact ⟨purpose, getElem?_append_of_eq_some hn⟩
  have hbelongs : ∀ id origin, x.Belongs id origin →
      Belongs ⟨x.runtime.step (.onData (some frame) x.ins.length), x.ins ++ [frame]⟩ id origin := by
    intro id origin hb
    cases origin with
    | opened k => exact hb
    | accepted n => exact ⟨hb.1, hasked n id hb.2⟩
  have hcarries : ∀ j id, x.Carries j id →
      Carries ⟨x.runtime.step (.onData (some frame) x.ins.length), x.ins ++ [frame]⟩ j id := by
    rintro j id ⟨f, hf, hkind⟩
    exact ⟨f, getElem?_append_of_eq_some hf, hkind⟩
  refine ⟨⟨h.numbered.parity, h.numbered.next, h.numbered.ids, h.numbered.distinct, h.numbered.room⟩,
    h.calm, ?_, h.calls, h.pending, h.streams, ?_, ?_, ?_, ?_, ?_, ?_⟩
  · simp [Runtime.step, hnone]
  · exact fun c id origin hc => hbelongs id origin (h.chans c id origin hc)
  · exact fun w id origin hw => hbelongs id origin (h.writes w id origin hw)
  · rintro ⟨f, source⟩ he
    have hold := h.out (f, source) he
    cases f with
    | openResp id result =>
      obtain ⟨n, hn⟩ := hold
      exact ⟨n, hasked n id hn⟩
    | _ => exact hold
  · intro task htask
    have hcheck : task = .checking (some frame) x.ins.length := by
      simpa [Runtime.step, hnone] using htask
    subst hcheck
    exact ⟨frame, rfl, List.getElem?_concat_length, by simp [Last]⟩
  · intro j c hj
    obtain ⟨id, origin, hlabel, hc⟩ := h.delivered j c hj
    exact ⟨id, origin, hlabel, hcarries j id hc⟩
  · intro j hj
    exact (h.lost j hj).imp fun id => hcarries j id

theorem typed_new (isInitiator : Bool) : Typed (.new isInitiator) := by
  have hfirst : (Endpoint.new isInitiator).runtime.nextStreamId.val =
      ((Endpoint.new isInitiator).first + 2 * (Endpoint.new isInitiator).drawn) % 2 ^ 32 := by
    cases isInitiator <;> rfl
  refine ⟨⟨?_, hfirst, ?_, ?_, ?_⟩, ⟨rfl, rfl⟩, Nat.zero_le 1, ?_, ?_, ?_, ?_, ?_, ?_, ?_, ?_, ?_⟩
  · cases isInitiator <;> decide
  · intro k id hid
    cases hid
  · intro i j id hi
    cases hi
  · exact Nat.two_pow_pos 31
  · intro k call hk
    cases hk
  · intro id p hp
    cases hp
  · intro id c hc
    cases hc
  · intro c id origin hc
    cases hc
  · intro w id origin hw
    cases hw
  · intro e he
    cases he
  · intro task htask
    cases htask
  · intro j c hj
    cases hj
  · intro j hj
    cases hj

theorem Typed.step (h : Typed x) (e : EndpointEvent) : Typed (x.step e) := by
  cases e with
  | receive frame =>
    simp only [Endpoint.step]
    split
    · rename_i hnone
      exact h.receive (List.isEmpty_iff.mp hnone) frame
    · exact h
  | act e =>
    simp only [Endpoint.step]
    split
    · rename_i hadmits
      exact h.act hadmits
    · exact h

end Endpoint

/-! ### Both ends -/

/-- What a step never takes back. -/
structure Runtime.Extends (r r' : Runtime) : Prop where
  parity : r'.localStreamIdParity = r.localStreamIdParity
  out : r.out <+: r'.out

namespace Runtime

variable {r r' : Runtime}

theorem Extends.refl (r : Runtime) : r.Extends r := ⟨rfl, List.prefix_rfl⟩

theorem Extends.of_eq (hparity : r'.localStreamIdParity = r.localStreamIdParity) (hout : r'.out = r.out) :
    r.Extends r' := ⟨hparity, hout ▸ List.prefix_rfl⟩

theorem extends_runOpen (r : Runtime) (k : Nat) : r.Extends (r.runOpen k) := by
  unfold runOpen
  split
  · exact .refl r
  · split
    · split <;> exact .of_eq rfl rfl
    · dsimp only
      split <;> exact .of_eq rfl rfl
    · exact .of_eq rfl rfl
    · exact .of_eq rfl rfl
    · exact .of_eq rfl rfl
    · split <;> exact .of_eq rfl rfl
    · exact .of_eq rfl rfl
    all_goals exact .refl r

theorem extends_dispatch (r : Runtime) (i index : Nat) (frame : ControlStreamFrame) :
    r.Extends (r.dispatch i index frame) := by
  cases frame with
  | openStream id purpose =>
    simp only [dispatch]
    split <;> exact .of_eq rfl rfl
  | _ => exact .of_eq rfl rfl

theorem extends_deliver (r : Runtime) (i : Nat) (id : StreamId) (bytes : List U8) (index : Nat) :
    r.Extends (r.deliver i id bytes index) := by
  unfold deliver
  split
  · exact .of_eq rfl rfl
  · split <;> exact .of_eq rfl rfl

theorem extends_respond (r : Runtime) (i : Nat) (id : StreamId) (result : TunnelCommandResult)
    (pending : PendingOpen) : r.Extends (r.respond i id result pending) := by
  unfold respond
  split
  · split <;> exact .of_eq rfl rfl
  · exact .of_eq rfl rfl

theorem extends_runHandler (r : Runtime) (i : Nat) (prepared : Option P2pError) :
    r.Extends (r.runHandler i prepared) := by
  unfold runHandler
  cases hi : r.handlers[i]? with
  | none => exact .refl r
  | some task =>
    cases task with
    | checking frame index =>
      dsimp only
      split
      · exact .of_eq rfl rfl
      · split
        · exact .of_eq rfl rfl
        · exact extends_dispatch r i index _
    | openInsert id index prepare | openPrepare id c index prepare | respTake id result
    | finishing id index | resetting id reason =>
      dsimp only
      split <;> exact .of_eq rfl rfl
    | respSend id result pending => exact extends_respond r i id result pending
    | delivering id bytes index => exact extends_deliver r i id bytes index
    | openPending | openStreams | openListener | openRemove | respInsert => exact .of_eq rfl rfl
    | answering | sendingReset => exact .refl r

theorem extends_step (r : Runtime) {e : RuntimeEvent} (he : e.reliable = true) : r.Extends (r.step e) := by
  cases e with
  | listen listener =>
    simp only [step]
    split <;> exact .of_eq rfl rfl
  | openStream purpose | dropWrite w => exact .of_eq rfl rfl
  | runOpen k => exact extends_runOpen r k
  | openSent k =>
    simp only [step, openSent]
    split
    · exact ⟨rfl, List.prefix_append ..⟩
    · exact .refl r
  | openSendFails k err closes =>
    simp only [step, openSendFails]
    split
    · exact .of_eq rfl rfl
    · exact .refl r
  | openResumes k =>
    simp only [step, openResumes]
    split <;> exact .of_eq rfl rfl
  | openCanceled k =>
    simp only [step, openCanceled]
    split
    · split <;> exact .of_eq rfl rfl
    · exact .refl r
  | openTimesOut k =>
    simp only [step, openTimesOut]
    split <;> exact .of_eq rfl rfl
  | openDropped k =>
    simp only [step, openDropped]
    split <;> exact .of_eq rfl rfl
  | runHandler i prepared => exact extends_runHandler r i prepared
  | handlerSent i =>
    simp only [step, handlerSent]
    split
    · exact ⟨rfl, List.prefix_append ..⟩
    · exact .refl r
  | writeData w bytes =>
    simp only [step, writeData]
    split
    · split
      · exact .refl r
      · exact ⟨rfl, List.prefix_append ..⟩
    · exact .refl r
  | shutdown w =>
    simp only [step, shutdown]
    split
    · split
      · exact .refl r
      · exact ⟨rfl, List.prefix_append ..⟩
    · exact .refl r
  | pollRead c n =>
    simp only [step, pollRead]
    split <;> exact .of_eq rfl rfl
  | dropRead c =>
    simp only [step, dropRead]
    split <;> exact .of_eq rfl rfl
  | onData | onOversized | handlerSendFails | closeAll | runCloser => cases he

end Runtime

theorem Endpoint.admits_reliable {x : Endpoint} {e : RuntimeEvent} (h : x.admits e = true) :
    e.reliable = true := by
  cases e with
  | openStream purpose => rfl
  | _ => exact h

theorem Endpoint.extends_step (x : Endpoint) (e : EndpointEvent) :
    x.runtime.Extends (x.step e).runtime := by
  cases e with
  | receive frame =>
    simp only [step]
    split <;> exact .of_eq rfl rfl
  | act e =>
    simp only [step]
    split
    · rename_i hadmits
      exact Runtime.extends_step x.runtime (admits_reliable hadmits)
    · exact .refl _

def Party.parity : Party → Nat
  | .initiator => 1
  | .responder => 0

namespace Link

variable {s : Link}

/-- An end has read what the other has sent, in order. -/
structure Wired (s : Link) : Prop where
  typed : ∀ p, (s.endpoint p).Typed
  parity : ∀ p, (s.endpoint p).runtime.localStreamIdParity = p.parity
  read : ∀ p, (s.endpoint p).ins <+: (s.endpoint p.other).runtime.out.map Prod.fst

theorem wired_start : Wired start := by
  refine ⟨?_, ?_, ?_⟩
  · intro p
    cases p <;> exact Endpoint.typed_new _
  · intro p
    cases p <;> rfl
  · intro p
    cases p <;> exact List.prefix_rfl

/-- The end that acts, and the other one. -/
theorem forall_party {P : Party → Prop} (p : Party) (hself : P p) (hother : P p.other) (q : Party) :
    P q := by
  cases p <;> cases q <;> assumption

theorem other_other (p : Party) : p.other.other = p := by
  cases p <;> rfl

/-- A frame that an end reads is the next one that the other has sent. -/
theorem Wired.next_prefix (h : Wired s) {p : Party} {frame : ControlStreamFrame}
    (hnext : s.next p = some frame) :
    (s.endpoint p).ins ++ [frame] <+: (s.endpoint p.other).runtime.out.map Prod.fst := by
  obtain ⟨rest, hrest⟩ := h.read p
  have hget : ((s.endpoint p.other).runtime.out.map Prod.fst)[(s.endpoint p).ins.length]? =
      some frame := by
    rw [List.getElem?_map]
    exact hnext
  rw [← hrest, List.getElem?_append_right (Nat.le_refl _), Nat.sub_self] at hget
  cases rest with
  | nil => cases hget
  | cons f rest =>
    obtain rfl : f = frame := by simpa using hget
    refine ⟨rest, ?_⟩
    rw [List.append_assoc]
    exact hrest

theorem Wired.step (h : Wired s) (i : Party × LinkEvent) : Wired (s.step i) := by
  obtain ⟨p, e⟩ := i
  unfold Link.step
  cases he : s.event p e with
  | none => exact h
  | some e' =>
    have hext := (s.endpoint p).extends_step e'
    refine ⟨forall_party p ?_ ?_, forall_party p ?_ ?_, forall_party p ?_ ?_⟩
    · rw [endpoint_set]
      exact (h.typed p).step e'
    · rw [endpoint_set_other]
      exact h.typed p.other
    · rw [endpoint_set, hext.parity]
      exact h.parity p
    · rw [endpoint_set_other]
      exact h.parity p.other
    · rw [endpoint_set, endpoint_set_other]
      cases e with
      | receive =>
        obtain ⟨frame, hnext, rfl⟩ := Option.map_eq_some_iff.mp he
        simp only [Endpoint.step]
        split
        · exact h.next_prefix hnext
        · exact h.read p
      | act e =>
        obtain rfl := Option.some.inj he
        simp only [Endpoint.step]
        split <;> exact h.read p
    · rw [other_other, endpoint_set, endpoint_set_other]
      have hread := h.read p.other
      rw [other_other] at hread
      exact hread.trans (hext.out.map Prod.fst)

theorem wired_exec (is : List (Party × LinkEvent)) : Wired (exec Link.step start is) :=
  exec_inv_all (fun _ i h => h.step i) wired_start is

/-! ### Streams do not mix -/

/-- A channel of the end `p` and a write half of the other end come from one `Open` frame and from
the call of `open` that has sent it. -/
def Paired (s : Link) (p : Party) (id : StreamId) : Origin → Origin → Prop
  | .opened k, .accepted n =>
    ∃ purpose, (s.endpoint p).runtime.out[n]? = some (.openStream id purpose, .call k)
  | .accepted n, .opened k =>
    ∃ purpose, (s.endpoint p.other).runtime.out[n]? = some (.openStream id purpose, .call k)
  | _, _ => False

theorem Wired.sent_of_read (h : Wired s) {p : Party} {j : Nat} {f : ControlStreamFrame}
    (hj : (s.endpoint p).ins[j]? = some f) :
    ∃ source, (s.endpoint p.other).runtime.out[j]? = some (f, source) := by
  obtain ⟨rest, hrest⟩ := h.read p
  have hget : ((s.endpoint p.other).runtime.out.map Prod.fst)[j]? = some f := by
    rw [← hrest]
    exact getElem?_append_of_eq_some hj
  rw [List.getElem?_map] at hget
  obtain ⟨⟨f', source⟩, hsent, rfl⟩ := Option.map_eq_some_iff.mp hget
  exact ⟨source, hsent⟩

/-- An `Open` frame that an end has read was sent by the call that has drawn the id. -/
theorem Wired.asked_by (h : Wired s) {p : Party} {n k : Nat} {id : StreamId}
    (hasked : (s.endpoint p.other).Asked n id) (hid : (s.endpoint p).idOf k = some id) :
    ∃ purpose, (s.endpoint p).runtime.out[n]? = some (.openStream id purpose, .call k) := by
  obtain ⟨purpose, hn⟩ := hasked
  obtain ⟨source, hsent⟩ := h.sent_of_read hn
  rw [other_other] at hsent
  obtain ⟨k', rfl, hid', -⟩ := (h.typed p).out _ (List.mem_of_getElem? hsent)
  obtain rfl := (h.typed p).numbered.distinct k' k id hid' hid
  exact ⟨purpose, hsent⟩

/-- An id is peer's at exactly one end. -/
theorem Wired.isPeer_other (h : Wired s) (p : Party) {id : StreamId} (hid : id ≠ 0) :
    (s.endpoint p.other).runtime.isPeerStreamId id = !(s.endpoint p).runtime.isPeerStreamId id := by
  have hp := h.parity p
  have hq := h.parity p.other
  unfold Runtime.isPeerStreamId
  rw [hp, hq]
  have hmod := Nat.mod_two_eq_zero_or_one id.val
  cases p <;> rcases hmod with hmod | hmod <;> simp [Party.other, Party.parity, hid, hmod]

theorem Wired.own_ne_zero (h : Wired s) {p : Party} {k : Nat} {id : StreamId}
    (hid : (s.endpoint p).idOf k = some id) : id ≠ 0 := by
  rintro rfl
  obtain ⟨m, -, hm⟩ := (h.typed p).numbered.ids k 0 hid
  have hparity := (h.typed p).numbered.parity
  have hzero : (0 : U32).val = 0 := rfl
  unfold Endpoint.first at hm
  omega

/-- What the two ends keep for one id comes from one `Open` frame. -/
theorem Wired.paired (h : Wired s) {p : Party} {id : StreamId} {origin origin' : Origin}
    (hchan : (s.endpoint p).Belongs id origin) (hhalf : (s.endpoint p.other).Belongs id origin') :
    s.Paired p id origin origin' := by
  have hpeer : id ≠ 0 → (s.endpoint p.other).runtime.isPeerStreamId id =
      !(s.endpoint p).runtime.isPeerStreamId id := h.isPeer_other p
  cases origin with
  | opened k =>
    have hown := (h.typed p).numbered.own hchan.1
    cases origin' with
    | opened k' =>
      have hother := (h.typed p.other).numbered.own hhalf.1
      rw [hpeer (h.own_ne_zero hchan.1), hown] at hother
      cases hother
    | accepted n => exact h.asked_by hhalf.2 hchan.1
  | accepted n =>
    have hne : id ≠ 0 := by
      rintro rfl
      cases hchan.1
    cases origin' with
    | opened k =>
      refine h.asked_by (p := p.other) ?_ hhalf.1
      rw [other_other]
      exact hchan.2
    | accepted n' =>
      have hother := hhalf.1
      rw [hpeer hne, hchan.1] at hother
      cases hother

/-- A frame with data or an end goes to the channel that belongs to the half that has sent it. -/
theorem Wired.delivered_paired (h : Wired s) {p : Party} {j c : Nat}
    (hdelivered : (j, c) ∈ (s.endpoint p).runtime.delivered) :
    ∃ id f w origin origin', (s.endpoint p.other).runtime.out[j]? = some (f, .writer w) ∧
      (f = .fin id ∨ ∃ bytes, f = .data id bytes) ∧
      (s.endpoint p).label c = some (id, origin) ∧
      (s.endpoint p.other).half w = some (id, origin') ∧ s.Paired p id origin origin' := by
  obtain ⟨id, origin, hlabel, f, hf, hkind⟩ := (h.typed p).delivered j c hdelivered
  obtain ⟨source, hsent⟩ := h.sent_of_read hf
  have hsourced := (h.typed p.other).out _ (List.mem_of_getElem? hsent)
  obtain ⟨w, origin', rfl, hw⟩ : ∃ w origin', source = .writer w ∧
      (s.endpoint p.other).half w = some (id, origin') := by
    rcases hkind with rfl | ⟨bytes, rfl⟩ <;> exact hsourced
  refine ⟨id, f, w, origin, origin', hsent, hkind, hlabel, hw, ?_⟩
  exact h.paired ((h.typed p).chans c id origin hlabel) ((h.typed p.other).writes w id origin' hw)

end Link

end BuckyP2p.ControlStream
