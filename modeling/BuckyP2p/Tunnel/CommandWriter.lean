import BuckyP2p.Lib.Framing
import BuckyP2p.Tcp.Protocol

/-!
# BuckyP2p.Tunnel.CommandWriter — senders on the control writer of a tunnel

`send_control` of `TcpTunnel` and `PnTunnel`, `send_command` of `QuicTunnel`, and the
`ControlDataSender` of each of them: all take the lock of the control writer, encode the command,
write its pieces with one `write_all` each, flush, and give the lock back.  `write_raw_frame` (TCP)
has the frame in one piece, `write_tunnel_command` (QUIC and PN) has header and body in two.
The tunnel is open and its writer is there; an encoding error writes nothing, whether it is met
before the lock or behind it.

The future of a sender may be dropped at every await, which gives the lock back.  If a part of the
frame has been written then, the next sender goes on behind it (`cut_breaks`); otherwise the stream
holds whole frames and a part of the one that is being written (`commands_whole`).
-/

namespace BuckyP2p.Tunnel.CommandWriter

open Lib Tcp.Protocol

/-! ## The frames -/

/-- What `write_raw_frame` writes. -/
def rawFrame (c : Codecs) (cmd : TcpControlCmd) : P2pResult (List (List U8)) := do
  return [← cmd.encodeWire c]

/-- What `write_tunnel_command` writes, of a command made by `TunnelCommand::new`. -/
def tunnelCommand {T : Type} (h : RawConvert TunnelCommandHeader) (b : TunnelCommandBody T)
    (body : T) : P2pResult (List (List U8)) := do
  let value ← TunnelCommand.new b body
  value.validate b
  let header ← rawCodecErr (h.toVec value.header)
  return [header, ← rawCodecErr (b.codec.toVec value.body)]

/-- A header and as many bytes as it says. -/
def Frame (h : RawConvert TunnelCommandHeader) (f : List U8) : Prop :=
  ∃ header headerBytes bytes, f = headerBytes ++ bytes ∧ h.toVec header = .ok headerBytes ∧
    header.dataLen.val = bytes.length

theorem frame_selfDelimiting {c : Codecs} {len : Nat} (hc : c.Sound len) :
    SelfDelimiting (Frame c.header) := by
  rintro f g t u ⟨hd, hb, body, rfl, hvec, hlen⟩ ⟨hd', hb', body', rfl, hvec', hlen'⟩ heq
  obtain ⟨bytes, hto, hn, hclone⟩ := hc.header hd
  rw [hvec] at hto
  cases hto
  obtain ⟨bytes', hto', hn', hclone'⟩ := hc.header hd'
  rw [hvec'] at hto'
  cases hto'
  rw [List.append_assoc, List.append_assoc] at heq
  obtain ⟨rfl, hrest⟩ := List.append_inj heq (hn.trans hn'.symm)
  rw [hclone] at hclone'
  cases hclone'
  obtain ⟨rfl, -⟩ := List.append_inj hrest (hlen.symm.trans hlen')
  rfl

theorem frame_ne_nil {c : Codecs} {len : Nat} (hc : c.Sound len) {f : List U8}
    (hf : Frame c.header f) : f ≠ [] := by
  rintro rfl
  obtain ⟨hd, hb, body, heq, hvec, -⟩ := hf
  obtain ⟨rfl, rfl⟩ := List.append_eq_nil_iff.mp heq.symm
  obtain ⟨bytes, hto, hn, -⟩ := hc.header hd
  rw [hvec] at hto
  cases hto
  -- no room to tell two headers apart
  obtain ⟨b₁, -, hn₁, h₁⟩ := hc.header ⟨0, 0, 0⟩
  obtain ⟨b₂, -, hn₂, h₂⟩ := hc.header ⟨1, 0, 0⟩
  obtain rfl : b₁ = b₂ := by
    rw [List.eq_nil_of_length_eq_zero (hn₁.trans hn.symm),
      List.eq_nil_of_length_eq_zero (hn₂.trans hn.symm)]
  rw [h₁] at h₂
  cases h₂

theorem asU32_val {n : Nat} (hn : n < 2 ^ 32) : (asU32 n).val = n := Nat.mod_eq_of_lt hn

/-- What is written for a command: the header with the length of the body, and the body. -/
theorem tunnelCommand_ok {T : Type} {h : RawConvert TunnelCommandHeader} {b : TunnelCommandBody T}
    {body : T} {pieces : List (List U8)} (hb : b.codec.RoundTrips)
    (henc : tunnelCommand h b body = .ok pieces) :
    ∃ headerBytes bytes, pieces = [headerBytes, bytes] ∧
      h.toVec ⟨tunnelCommandVersion, b.commandId, asU32 bytes.length⟩ = .ok headerBytes ∧
      b.codec.toVec body = .ok bytes ∧ b.codec.rawMeasure body = .ok bytes.length ∧
      b.codec.cloneFromSlice bytes = .ok body := by
  obtain ⟨value, hnew, henc⟩ := bind_eq_ok.mp henc
  obtain ⟨-, -, henc⟩ := bind_eq_ok.mp henc
  obtain ⟨headerBytes, hheader, henc⟩ := bind_eq_ok.mp henc
  obtain ⟨bytes, hbytes, henc⟩ := bind_eq_ok.mp henc
  cases henc
  obtain ⟨n, hn, hvalue⟩ := bind_eq_ok.mp hnew
  cases hvalue
  rw [rawCodecErr_eq_ok] at hheader hbytes hn
  obtain ⟨hmeasure, hclone⟩ := hb body bytes hbytes
  rw [hmeasure] at hn
  cases hn
  exact ⟨headerBytes, bytes, rfl, hheader, hbytes, hmeasure, hclone⟩

/-- The pieces of a command whose body takes less than 4 GiB make a frame. -/
theorem tunnelCommand_frame {T : Type} {h : RawConvert TunnelCommandHeader}
    {b : TunnelCommandBody T} {body : T} {pieces : List (List U8)} (hb : b.codec.RoundTrips)
    (henc : tunnelCommand h b body = .ok pieces)
    (hlen : ∀ n, b.codec.rawMeasure body = .ok n → n < 2 ^ 32) : Frame h pieces.flatten := by
  obtain ⟨headerBytes, bytes, rfl, hheader, -, hmeasure, -⟩ := tunnelCommand_ok hb henc
  exact ⟨_, headerBytes, bytes, by simp, hheader, asU32_val (hlen _ hmeasure)⟩

theorem encodeTunnelCommandBytes_frame {T : Type} {h : RawConvert TunnelCommandHeader}
    {b : TunnelCommandBody T} {body : T} {frame : List U8} (hb : b.codec.RoundTrips)
    (henc : encodeTunnelCommandBytes h b body = .ok frame)
    (hlen : ∀ n, b.codec.rawMeasure body = .ok n → n < 2 ^ 32) : Frame h frame := by
  obtain ⟨headerBytes, bytes, rfl, hvec, hmeasure, -⟩ := encodeTunnelCommandBytes_ok hb henc
  exact ⟨_, headerBytes, bytes, rfl, hvec, asU32_val (hlen _ hmeasure)⟩

theorem rawFrame_frame {c : Codecs} {len : Nat} (hc : c.Sound len) {cmd : TcpControlCmd}
    {pieces : List (List U8)} (henc : rawFrame c cmd = .ok pieces)
    (hlen : ∀ n, cmd.bodyLen c = .ok n → n < 2 ^ 32) : Frame c.header pieces.flatten := by
  obtain ⟨frame, hwire, hpieces⟩ := bind_eq_ok.mp henc
  cases hpieces
  rw [List.flatten_singleton]
  cases cmd with
  | ping cmd => exact encodeTunnelCommandBytes_frame hc.ping hwire hlen
  | pong cmd => exact encodeTunnelCommandBytes_frame hc.pong hwire hlen
  | openDataConnReq cmd => exact encodeTunnelCommandBytes_frame hc.openDataConnReq hwire hlen
  | openDataConnResp cmd => exact encodeTunnelCommandBytes_frame hc.openDataConnResp hwire hlen
  | claimConnReq cmd => exact encodeTunnelCommandBytes_frame hc.claimConnReq hwire hlen
  | claimConnAck cmd => exact encodeTunnelCommandBytes_frame hc.claimConnAck hwire hlen
  | writeFin cmd => exact encodeTunnelCommandBytes_frame hc.writeFin hwire hlen
  | readDone cmd => exact encodeTunnelCommandBytes_frame hc.readDone hwire hlen
  | data cmd => exact encodeTunnelCommandBytes_frame hc.data hwire hlen

/-- What a sender of one of the three tunnels writes, for a body of less than 4 GiB. -/
inductive Written (c : Codecs) : P2pResult (List (List U8)) → Prop
  | tcp (cmd : TcpControlCmd) (hlen : ∀ n, cmd.bodyLen c = .ok n → n < 2 ^ 32) :
    Written c (rawFrame c cmd)
  | command {T : Type} (b : TunnelCommandBody T) (body : T) (hb : b.codec.RoundTrips)
    (hlen : ∀ n, b.codec.rawMeasure body = .ok n → n < 2 ^ 32) :
    Written c (tunnelCommand c.header b body)

theorem Written.frame {c : Codecs} {len : Nat} (hc : c.Sound len)
    {pieces : List (List U8)} (h : Written c (.ok pieces)) : Frame c.header pieces.flatten := by
  generalize hp : (.ok pieces : P2pResult (List (List U8))) = ps at h
  cases h with
  | tcp cmd hlen => exact rawFrame_frame hc hp.symm hlen
  | command b body hb hlen => exact tunnelCommand_frame hb hp.symm hlen

/-! ## The senders -/

inductive Phase
  /-- Waits for the lock. -/
  | waiting
  /-- Has the lock; what is left of its pieces. -/
  | writing (left : List (List U8))
  | finished (result : P2pResult Unit)
  /-- Its future was dropped. -/
  | dropped
  deriving DecidableEq

structure Sender where
  pieces : P2pResult (List (List U8))
  phase : Phase
  deriving DecidableEq

inductive Event
  | call (pieces : P2pResult (List (List U8)))
  | lock (k : Nat)
  /-- A poll of the writer accepts `n` bytes of the piece that is being written. -/
  | poll (k n : Nat)
  /-- The writer returns an error. -/
  | fail (k : Nat)
  /-- Everything is written, and the flush returns. -/
  | flushed (k : Nat)
  | drop (k : Nat)
  deriving DecidableEq

structure Writer where
  /-- The bytes that were written to the control connection. -/
  wire : List U8
  holder : Option Nat
  senders : List Sender
  deriving DecidableEq

/-- `write_all` on a writer that accepts nothing. -/
def writeZero : P2pError := ⟨.ioError, "failed to write whole buffer"⟩

def writerFailed : P2pError := ⟨.ioError, "write failed"⟩

namespace Writer

def init : Writer := ⟨[], none, []⟩

def setPhase (s : Writer) (k : Nat) (x : Sender) (phase : Phase) : Writer :=
  { s with senders := s.senders.set k { x with phase := phase } }

/-- The sender `k` ends, and gives the lock back. -/
def leaves (s : Writer) (k : Nat) (x : Sender) (phase : Phase) : Writer :=
  { s.setPhase k x phase with holder := none }

/-- A step of the sender `k`, which is `x`. -/
def run (s : Writer) (k : Nat) (x : Sender) : Event → Writer
  | .call _ => s
  | .lock _ =>
    if x.phase = .waiting ∧ s.holder = none then
      match x.pieces with
      | .ok pieces => { s.setPhase k x (.writing pieces) with holder := some k }
      | .error e => s.setPhase k x (.finished (.error e))
    else s
  | .poll _ n =>
    match x.phase with
    | .writing left =>
      -- `write_all` of an empty piece does not poll
      match left.dropWhile List.isEmpty with
      | [] => s
      | piece :: rest =>
        if n = 0 then s.leaves k x (.finished (.error writeZero))
        else { s.setPhase k x (.writing (piece.drop n :: rest)) with wire := s.wire ++ piece.take n }
    | _ => s
  | .fail _ =>
    match x.phase with
    | .writing _ => s.leaves k x (.finished (.error writerFailed))
    | _ => s
  | .flushed _ =>
    match x.phase with
    | .writing left => if left.flatten = [] then s.leaves k x (.finished (.ok ())) else s
    | _ => s
  | .drop _ =>
    match x.phase with
    | .waiting => s.setPhase k x .dropped
    | .writing _ => s.leaves k x .dropped
    | _ => s

def step (s : Writer) (ev : Event) : Writer :=
  match ev with
  | .call pieces => { s with senders := s.senders ++ [⟨pieces, .waiting⟩] }
  | .lock k | .poll k _ | .fail k | .flushed k | .drop k =>
    match s.senders[k]? with
    | some x => s.run k x ev
    | none => s

end Writer

/-! ## What is on the wire -/

namespace Sender

/-- The sender has written `p`, a proper part of its frame, and has `left` to write. -/
def Amid (x : Sender) (p : List U8) (left : List (List U8)) : Prop :=
  x.phase = .writing left ∧ left.flatten ≠ [] ∧ x.pieces.map List.flatten = .ok (p ++ left.flatten)

/-- Whether the sender has written a part of its frame and not all of it. -/
def cut (x : Sender) : Bool :=
  match x.phase, x.pieces with
  | .writing left, .ok pieces =>
    0 < left.flatten.length ∧ left.flatten.length < pieces.flatten.length
  | _, _ => false

end Sender

namespace Writer

variable {s : Writer} {k : Nat} {x : Sender} {ev : Event}

/-- `f` is what some sender writes. -/
def Sends (s : Writer) (f : List U8) : Prop := ∃ x ∈ s.senders, x.pieces.map List.flatten = .ok f

/-- Whole frames, and a part of the frame that a sender with the lock is writing. -/
def Clean (s : Writer) : Prop :=
  ∃ (fs : List (List U8)) (p : List U8), s.wire = fs.flatten ++ p ∧ (∀ f ∈ fs, s.Sends f) ∧
    (p = [] ∨ ∃ (k : Nat) (x : Sender) (left : List (List U8)), s.holder = some k ∧
      s.senders[k]? = some x ∧ x.Amid p left)

/-- No sender ends while a part of its frame is written: it is not dropped, and the writer does not
fail. -/
def Uncut (s : Writer) : Event → Prop
  | .poll k n => n = 0 → ∀ x ∈ s.senders[k]?, x.cut = false
  | .fail k | .drop k => ∀ x ∈ s.senders[k]?, x.cut = false
  | _ => True

instance (s : Writer) (ev : Event) : Decidable (s.Uncut ev) := by
  unfold Uncut
  cases ev <;> infer_instance

/-- The sender with the lock has written `p` behind the frames `fs`; without a sender `p` is empty. -/
structure Steady (s : Writer) (fs : List (List U8)) (p : List U8) : Prop where
  wire : s.wire = fs.flatten ++ p
  frames : ∀ f ∈ fs, s.Sends f
  alone : ∀ (k : Nat) x left, s.senders[k]? = some x → x.phase = .writing left → s.holder = some k
  held : ∀ k, s.holder = some k → ∃ (x : Sender) (left : List (List U8)), s.senders[k]? = some x ∧
    x.phase = .writing left ∧ (x.Amid p left ∨ left.flatten = [] ∧ p = [])
  free : s.holder = none → p = []

variable {fs : List (List U8)} {p : List U8} {left : List (List U8)} {phase : Phase}

theorem Steady.clean (h : s.Steady fs p) : s.Clean := by
  refine ⟨fs, p, h.wire, h.frames, ?_⟩
  cases hh : s.holder with
  | none => exact .inl (h.free hh)
  | some k =>
    obtain ⟨x, left, hx, -, ham | ⟨-, hp⟩⟩ := h.held k hh
    · exact .inr ⟨k, x, left, rfl, hx, ham⟩
    · exact .inl hp

theorem cut_of_amid (h : x.Amid p left) : x.cut = true ↔ p ≠ [] := by
  obtain ⟨hphase, hleft, hpieces⟩ := h
  cases hx : x.pieces with
  | error e =>
    rw [hx] at hpieces
    cases hpieces
  | ok pieces =>
    rw [hx] at hpieces
    have hlen := congrArg List.length (Except.ok.inj hpieces)
    have hpos := List.length_pos_of_ne_nil hleft
    rw [List.length_append] at hlen
    simp only [Sender.cut, hphase, hx, decide_eq_true_eq]
    rw [← List.length_pos_iff]
    omega

/-- A sender that writes whole pieces has the lock, and what it has written is `p`. -/
theorem Steady.amid (h : s.Steady fs p) (hx : s.senders[k]? = some x)
    (hphase : x.phase = .writing left) : s.holder = some k ∧ (x.Amid p left ∨ left.flatten = [] ∧ p = []) := by
  have hh := h.alone k x left hx hphase
  obtain ⟨y, left', hy, hphase', ham⟩ := h.held k hh
  rw [hx] at hy
  cases hy
  rw [hphase] at hphase'
  cases hphase'
  exact ⟨hh, ham⟩

theorem Steady.uncut (h : s.Steady fs p) (hx : s.senders[k]? = some x)
    (hphase : x.phase = .writing left) (hcut : x.cut = false) : p = [] := by
  obtain ⟨-, ham | ⟨-, hp⟩⟩ := h.amid hx hphase
  · by_contra hp
    rw [(cut_of_amid ham).mpr hp] at hcut
    cases hcut
  · exact hp

theorem Steady.amid_of_cut (h : s.Steady fs p) (hx : s.senders[k]? = some x)
    (hphase : x.phase = .writing left) (hcut : x.cut = true) : x.Amid p left := by
  refine (h.amid hx hphase).2.resolve_right fun hnil => ?_
  simp only [Sender.cut, hphase] at hcut
  cases hpieces : x.pieces with
  | error e => simp [hpieces] at hcut
  | ok pieces => simp [hpieces, hnil.1] at hcut

theorem sends_set {f : List U8} (hx : s.senders[k]? = some x) {s' : Writer}
    (hs : s'.senders = s.senders.set k { x with phase := phase }) (h : s.Sends f) : s'.Sends f := by
  obtain ⟨y, hy, hf⟩ := h
  obtain ⟨j, hj⟩ := List.mem_iff_getElem?.mp hy
  by_cases hjk : j = k
  · rw [hjk, hx] at hj
    cases hj
    refine ⟨_, List.mem_of_getElem? (i := k) (a := { x with phase := phase }) ?_, hf⟩
    rw [hs, List.getElem?_set_self (List.getElem?_eq_some_iff.mp hx).1]
  · refine ⟨y, List.mem_of_getElem? (i := j) ?_, hf⟩
    rw [hs, List.getElem?_set_ne (Ne.symm hjk)]
    exact hj

/-- A sender ends at a boundary. -/
theorem Steady.leaves (h : s.Steady fs p) (hx : s.senders[k]? = some x)
    (hphase : x.phase = .writing left) (hp : p = []) (hend : ∀ l, phase ≠ .writing l) :
    (s.leaves k x phase).Steady fs p where
  wire := h.wire
  frames f hf := sends_set hx rfl (h.frames f hf)
  alone j y l hy hl := by
    rw [Writer.leaves, setPhase] at hy
    by_cases hj : j = k
    · rw [hj, List.getElem?_set_self (List.getElem?_eq_some_iff.mp hx).1] at hy
      cases hy
      exact absurd hl (hend l)
    · rw [List.getElem?_set_ne (Ne.symm hj)] at hy
      have hy := h.alone j y l hy hl
      rw [h.alone k x left hx hphase] at hy
      exact absurd (Option.some.inj hy).symm hj
  held j hj := by cases (show none = some j from hj)
  free _ := hp

/-- A sender without the lock ends. -/
theorem Steady.settles (h : s.Steady fs p) (hx : s.senders[k]? = some x)
    (hphase : x.phase = .waiting) (hend : ∀ l, phase ≠ .writing l) :
    (s.setPhase k x phase).Steady fs p where
  wire := h.wire
  frames f hf := sends_set hx rfl (h.frames f hf)
  alone j y l hy hl := by
    rw [setPhase] at hy
    by_cases hj : j = k
    · rw [hj, List.getElem?_set_self (List.getElem?_eq_some_iff.mp hx).1] at hy
      cases hy
      exact absurd hl (hend l)
    · rw [List.getElem?_set_ne (Ne.symm hj)] at hy
      exact h.alone j y l hy hl
  held j hj := by
    obtain ⟨y, l, hy, hl, ham⟩ := h.held j hj
    have hne : k ≠ j := by
      rintro rfl
      rw [hx] at hy
      cases hy
      rw [hphase] at hl
      cases hl
    exact ⟨y, l, (List.getElem?_set_ne hne).trans hy, hl, ham⟩
  free := h.free

theorem Steady.locks (h : s.Steady fs p) (hx : s.senders[k]? = some x) {pieces : List (List U8)}
    (hpieces : x.pieces = .ok pieces) (hfree : s.holder = none) :
    Steady { s.setPhase k x (.writing pieces) with holder := some k } fs p where
  wire := h.wire
  frames f hf := sends_set hx rfl (h.frames f hf)
  alone j y l hy hl := by
    by_cases hj : j = k
    · rw [hj]
    · dsimp only [setPhase] at hy
      rw [List.getElem?_set_ne (Ne.symm hj)] at hy
      cases hfree.symm.trans (h.alone j y l hy hl)
  held j hj := by
    obtain rfl : k = j := Option.some.inj hj
    have hp := h.free hfree
    refine ⟨_, pieces, List.getElem?_set_self (List.getElem?_eq_some_iff.mp hx).1, rfl, ?_⟩
    by_cases hnil : pieces.flatten = []
    · exact .inr ⟨hnil, hp⟩
    · refine .inl ⟨rfl, hnil, ?_⟩
      rw [hp, List.nil_append, hpieces]
      rfl
  free hj := by cases (show some k = none from hj)

theorem flatten_dropWhile (l : List (List U8)) : (l.dropWhile List.isEmpty).flatten = l.flatten := by
  induction l with
  | nil => rfl
  | cons a l ih =>
    cases a with
    | nil => exact ih
    | cons b a => rfl

/-- Bytes are accepted; with the last one the frame is whole. -/
theorem Steady.accepts (h : s.Steady fs p) (hx : s.senders[k]? = some x)
    (hphase : x.phase = .writing left) {piece : List U8} {rest : List (List U8)}
    (hleft : left.dropWhile List.isEmpty = piece :: rest) (n : Nat) :
    ∃ fs' p', Steady { s.setPhase k x (.writing (piece.drop n :: rest)) with
      wire := s.wire ++ piece.take n } fs' p' := by
  obtain ⟨hh, ham⟩ := h.amid hx hphase
  have hflat : left.flatten = piece.take n ++ (piece.drop n :: rest).flatten := by
    rw [← flatten_dropWhile, hleft, List.flatten_cons, List.flatten_cons, ← List.append_assoc,
      List.take_append_drop]
  have hpiece : piece ≠ [] := by
    have hne := List.head?_dropWhile_not List.isEmpty left
    rw [hleft] at hne
    simpa using hne
  have hnil : left.flatten ≠ [] := by
    rw [← flatten_dropWhile, hleft, List.flatten_cons]
    simp [hpiece]
  obtain ⟨-, -, hpieces⟩ := ham.resolve_right fun hr => hnil hr.1
  rw [hflat, ← List.append_assoc] at hpieces
  have halone : ∀ (j : Nat) y l, (s.senders.set k
      { x with phase := .writing (piece.drop n :: rest) })[j]? = some y → y.phase = .writing l →
      s.holder = some j := by
    intro j y l hy hl
    by_cases hj : j = k
    · rw [hj]
      exact hh
    · rw [List.getElem?_set_ne (Ne.symm hj)] at hy
      exact h.alone j y l hy hl
  have hset : (s.senders.set k { x with phase := .writing (piece.drop n :: rest) })[k]? =
      some { x with phase := .writing (piece.drop n :: rest) } :=
    List.getElem?_set_self (List.getElem?_eq_some_iff.mp hx).1
  by_cases hlast : (piece.drop n :: rest).flatten = []
  · rw [hlast, List.append_nil] at hpieces
    refine ⟨fs ++ [p ++ piece.take n], [], ?_, ?_, halone, ?_, ?_⟩
    · dsimp only
      rw [h.wire]
      simp
    · intro f hf
      rcases List.mem_append.mp hf with hf | hf
      · exact sends_set hx rfl (h.frames f hf)
      · rw [List.mem_singleton.mp hf]
        exact ⟨_, List.mem_of_getElem? hset, hpieces⟩
    · intro j hj
      obtain rfl : k = j := Option.some.inj (hh.symm.trans hj)
      exact ⟨_, _, hset, rfl, .inr ⟨hlast, rfl⟩⟩
    · intro hj
      cases hh.symm.trans hj
  · refine ⟨fs, p ++ piece.take n, ?_, fun f hf => sends_set hx rfl (h.frames f hf), halone, ?_, ?_⟩
    · dsimp only
      rw [h.wire, List.append_assoc]
    · intro j hj
      obtain rfl : k = j := Option.some.inj (hh.symm.trans hj)
      exact ⟨_, _, hset, rfl, .inl ⟨rfl, hlast, hpieces⟩⟩
    · intro hj
      cases hh.symm.trans hj

theorem Steady.run (h : s.Steady fs p) (hx : s.senders[k]? = some x)
    (hcut : (∃ j, ev = .poll j 0 ∨ ev = .fail j ∨ ev = .drop j) → x.cut = false) :
    ∃ fs' p', (s.run k x ev).Steady fs' p' := by
  cases ev with
  | call pieces => exact ⟨fs, p, h⟩
  | lock j =>
    simp only [Writer.run]
    split_ifs with hlock
    · obtain ⟨hphase, hfree⟩ := hlock
      cases hpieces : x.pieces with
      | ok pieces => exact ⟨fs, p, h.locks hx hpieces hfree⟩
      | error e => exact ⟨fs, p, h.settles hx hphase fun l => by simp⟩
    · exact ⟨fs, p, h⟩
  | poll j n =>
    simp only [Writer.run]
    split
    next left hphase =>
      split
      next => exact ⟨fs, p, h⟩
      next piece rest hleft =>
        split_ifs with hn
        · have hp := h.uncut hx hphase (hcut ⟨j, .inl (by rw [hn])⟩)
          exact ⟨fs, p, h.leaves hx hphase hp fun l => by simp⟩
        · exact h.accepts hx hphase hleft n
    next => exact ⟨fs, p, h⟩
  | fail j =>
    simp only [Writer.run]
    split
    next left hphase =>
      have hp := h.uncut hx hphase (hcut ⟨j, .inr (.inl rfl)⟩)
      exact ⟨fs, p, h.leaves hx hphase hp fun l => by simp⟩
    next => exact ⟨fs, p, h⟩
  | flushed j =>
    simp only [Writer.run]
    split
    next left hphase =>
      split_ifs with hnil
      · obtain ⟨-, ham | ⟨-, hp⟩⟩ := h.amid hx hphase
        · exact absurd hnil ham.2.1
        · exact ⟨fs, p, h.leaves hx hphase hp fun l => by simp⟩
      · exact ⟨fs, p, h⟩
    next => exact ⟨fs, p, h⟩
  | drop j =>
    simp only [Writer.run]
    split
    next hphase => exact ⟨fs, p, h.settles hx hphase fun l => by simp⟩
    next left hphase =>
      have hp := h.uncut hx hphase (hcut ⟨j, .inr (.inr rfl)⟩)
      exact ⟨fs, p, h.leaves hx hphase hp fun l => by simp⟩
    next => exact ⟨fs, p, h⟩

theorem Steady.call (h : s.Steady fs p) (pieces : P2pResult (List (List U8))) :
    (s.step (.call pieces)).Steady fs p where
  wire := h.wire
  frames f hf := by
    obtain ⟨x, hx, hxf⟩ := h.frames f hf
    exact ⟨x, List.mem_append_left _ hx, hxf⟩
  alone j y l hy hl := by
    rw [Writer.step, List.getElem?_append] at hy
    split_ifs at hy with hlt
    · exact h.alone j y l hy hl
    · rw [List.getElem?_singleton] at hy
      split_ifs at hy
      cases hy
      cases hl
  held j hj := by
    obtain ⟨y, l, hy, hl, ham⟩ := h.held j hj
    refine ⟨y, l, ?_, hl, ham⟩
    rw [Writer.step, List.getElem?_append_left (List.getElem?_eq_some_iff.mp hy).1]
    exact hy
  free := h.free

theorem Steady.step (h : s.Steady fs p) (huncut : s.Uncut ev) :
    ∃ fs' p', (s.step ev).Steady fs' p' := by
  have htask : ∀ k, (∀ x, s.senders[k]? = some x →
        (∃ j, ev = .poll j 0 ∨ ev = .fail j ∨ ev = .drop j) → x.cut = false) →
      ∃ fs' p', (match s.senders[k]? with | some x => s.run k x ev | none => s).Steady fs' p' := by
    intro k hcut
    cases hx : s.senders[k]? with
    | some x => exact h.run hx (hcut x hx)
    | none => exact ⟨fs, p, h⟩
  cases ev with
  | call pieces => exact ⟨fs, p, h.call pieces⟩
  | poll k n =>
    refine htask k fun x hx => ?_
    rintro ⟨j, heq | heq | heq⟩
    · cases heq
      exact huncut rfl x hx
    · cases heq
    · cases heq
  | fail k | drop k => exact htask k fun x hx _ => huncut x hx
  | lock k | flushed k =>
    refine htask k fun x hx => ?_
    rintro ⟨j, heq | heq | heq⟩ <;> cases heq

theorem steady_init : Steady .init [] [] where
  wire := rfl
  frames f hf := by cases hf
  alone k x left hx := by cases hx
  held k hk := by cases hk
  free _ := rfl

theorem steady_exec {evs : List Event} (h : Along step Uncut .init evs) :
    ∃ (fs : List (List U8)) (p : List U8), (exec step .init evs).Steady fs p := by
  refine exec_inv (I := fun s : Writer => ∃ (fs : List (List U8)) (p : List U8), s.Steady fs p)
    ?_ ⟨[], [], steady_init⟩ h
  rintro s ev ⟨fs, p, hI⟩ hC
  exact hI.step hC

/-- The senders are those that were called. -/
theorem pieces_step (s : Writer) (ev : Event) {P : P2pResult (List (List U8)) → Prop}
    (h : ∀ x ∈ s.senders, P x.pieces) (hev : ∀ pieces, ev = .call pieces → P pieces) :
    ∀ x ∈ (s.step ev).senders, P x.pieces := by
  have hset : ∀ k x phase, s.senders[k]? = some x →
      ∀ y ∈ s.senders.set k { x with phase := phase }, P y.pieces := by
    intro k x phase hx y hy
    rcases List.mem_or_eq_of_mem_set hy with hy | rfl
    · exact h y hy
    · exact h x (List.mem_of_getElem? hx)
  have hrun : ∀ k x, s.senders[k]? = some x → ∀ y ∈ (s.run k x ev).senders, P y.pieces := by
    intro k x hx
    cases ev <;> simp only [Writer.run, Writer.leaves, setPhase] <;> (repeat' split) <;>
      first
      | exact h
      | exact hset k x _ hx
  cases ev with
  | call pieces =>
    intro x hx
    rcases List.mem_append.mp hx with hx | hx
    · exact h x hx
    · rw [List.mem_singleton.mp hx]
      exact hev pieces rfl
  | lock k | poll k n | fail k | flushed k | drop k =>
    intro y hy
    simp only [Writer.step] at hy
    cases hx : s.senders[k]? with
    | some x =>
      rw [hx] at hy
      exact hrun k x hx y hy
    | none =>
      rw [hx] at hy
      exact h y hy

theorem pieces_exec {P : P2pResult (List (List U8)) → Prop} {evs : List Event}
    (h : ∀ pieces, .call pieces ∈ evs → P pieces) :
    ∀ x ∈ (exec step .init evs).senders, P x.pieces := by
  refine exec_inv (C := fun _ ev => ∀ pieces, ev = .call pieces → P pieces)
    (I := fun s : Writer => ∀ x ∈ s.senders, P x.pieces)
    (fun s ev hI hC => pieces_step s ev hI hC) (fun x hx => by cases hx) ?_
  exact along_of_forall _ fun ev hev pieces heq => h pieces (heq ▸ hev)

theorem Sends.frame {c : Codecs} {len : Nat} (hc : c.Sound len)
    (hw : ∀ x ∈ s.senders, Written c x.pieces) {f : List U8} (h : s.Sends f) : Frame c.header f := by
  obtain ⟨x, hx, hf⟩ := h
  have hwx := hw x hx
  cases hp : x.pieces with
  | error e =>
    rw [hp] at hf
    cases hf
  | ok pieces =>
    rw [hp] at hf hwx
    cases hf
    exact hwx.frame hc

/-- What is behind the whole frames is a proper part of a frame. -/
theorem Steady.part (h : s.Steady fs p) : p = [] ∨ ∃ r, r ≠ [] ∧ s.Sends (p ++ r) := by
  obtain hh | ⟨k, hh⟩ := Option.eq_none_or_eq_some s.holder
  · exact .inl (h.free hh)
  · obtain ⟨x, left, hx, -, ham | ⟨-, hp⟩⟩ := h.held k hh
    · exact .inr ⟨left.flatten, ham.2.1, x, List.mem_of_getElem? hx, ham.2.2⟩
    · exact .inl hp

/-- After every run in which no sender ends in the middle of its frame, the bytes on the control
connection are whole frames, followed by a part of the frame that a sender with the lock is writing;
and whoever cuts frames off their front cuts off those that were written. -/
theorem commands_whole {c : Codecs} {len : Nat} (hc : c.Sound len) (evs : List Event)
    (h : Along step Uncut .init evs) :
    (exec step .init evs).Clean ∧
    ((∀ pieces, .call pieces ∈ evs → Written c pieces) →
      ∃ (fs : List (List U8)) (p : List U8), (exec step .init evs).wire = fs.flatten ++ p ∧
        (∀ f ∈ fs, (exec step .init evs).Sends f) ∧
        ∀ gs : List (List U8), (∀ g ∈ gs, Frame c.header g) →
          gs.flatten <+: (exec step .init evs).wire → gs <+: fs) := by
  obtain ⟨fs, p, hsteady⟩ := steady_exec h
  refine ⟨hsteady.clean, fun hw => ⟨fs, p, hsteady.wire, hsteady.frames, fun gs hgs hpre => ?_⟩⟩
  have hwritten := pieces_exec hw
  have hF := frame_selfDelimiting hc
  rw [hsteady.wire] at hpre
  refine hF.prefix_frames (fun f hf => (hsteady.frames f hf).frame hc hwritten) hgs ?_ hpre
  intro g hg hgp
  obtain rfl | ⟨r, hr, hpr⟩ := hsteady.part
  · exact frame_ne_nil hc hg (List.prefix_nil.mp hgp)
  · exact hF.short (hpr.frame hc hwritten) hr hg hgp

/-- Against `Uncut`: a sender that ends in the middle of its frame leaves a stream behind which is
not clean. -/
theorem cut_breaks {c : Codecs} {len : Nat} (hc : c.Sound len) (h : s.Steady fs p)
    (hw : ∀ x ∈ s.senders, Written c x.pieces) (hcut : ¬s.Uncut ev) : ¬(s.step ev).Clean := by
  have hmid : ∀ k x left, s.senders[k]? = some x → x.phase = .writing left → x.cut = true →
      ∀ phase, ¬(s.leaves k x phase).Clean := by
    rintro k x left hx hphase hxcut phase ⟨gs, q, hwire, hgs, hq⟩
    have ham := h.amid_of_cut hx hphase hxcut
    have hp : p ≠ [] := (cut_of_amid ham).mp hxcut
    obtain rfl : q = [] := by
      rcases hq with hq | ⟨j, y, l, hj, -⟩
      · exact hq
      · cases (show none = some j from hj)
    obtain ⟨r, hr, hpr⟩ := h.part.resolve_left hp
    have hF := frame_selfDelimiting hc
    have hgs' : ∀ g ∈ gs, Frame c.header g := by
      intro g hg
      obtain ⟨y, hy, hyg⟩ := hgs g hg
      rcases List.mem_or_eq_of_mem_set hy with hy | rfl
      · exact Sends.frame hc hw ⟨y, hy, hyg⟩
      · exact Sends.frame hc hw ⟨x, List.mem_of_getElem? hx, hyg⟩
    refine hF.not_whole (fun f hf => (h.frames f hf).frame hc hw) hgs' (hpr.frame hc hw) hr hp ?_
    rw [← h.wire, ← List.append_nil gs.flatten]
    exact hwire
  have hphase : ∀ x : Sender, x.cut = true → ∃ left, x.phase = .writing left := by
    intro x hx
    unfold Sender.cut at hx
    split at hx
    next left pieces hphase _ => exact ⟨left, hphase⟩
    next => cases hx
  cases ev with
  | call pieces => exact absurd trivial hcut
  | lock k => exact absurd trivial hcut
  | flushed k => exact absurd trivial hcut
  | poll k n =>
    simp only [Uncut, Option.mem_def, not_forall, Bool.not_eq_false] at hcut
    obtain ⟨rfl, x, hx, hxcut⟩ := hcut
    obtain ⟨left, hwrite⟩ := hphase x hxcut
    have hnil := (h.amid_of_cut hx hwrite hxcut).2.1
    simp only [Writer.step, hx, Writer.run, hwrite]
    cases hleft : left.dropWhile List.isEmpty with
    | nil =>
      rw [← flatten_dropWhile, hleft] at hnil
      exact absurd rfl hnil
    | cons piece rest => exact hmid k x left hx hwrite hxcut _
  | fail k =>
    simp only [Uncut, Option.mem_def, not_forall, Bool.not_eq_false] at hcut
    obtain ⟨x, hx, hxcut⟩ := hcut
    obtain ⟨left, hwrite⟩ := hphase x hxcut
    simp only [Writer.step, hx, Writer.run, hwrite]
    exact hmid k x left hx hwrite hxcut _
  | drop k =>
    simp only [Uncut, Option.mem_def, not_forall, Bool.not_eq_false] at hcut
    obtain ⟨x, hx, hxcut⟩ := hcut
    obtain ⟨left, hwrite⟩ := hphase x hxcut
    simp only [Writer.step, hx, Writer.run, hwrite]
    exact hmid k x left hx hwrite hxcut _

/-- One byte of data, and a ping. -/
def data : P2pResult (List (List U8)) := rawFrame sampleCodecs (.data ⟨[5]⟩)

def ping : P2pResult (List (List U8)) := rawFrame sampleCodecs (.ping ⟨1, 2⟩)

theorem data_ping_written : Written sampleCodecs data ∧ Written sampleCodecs ping := by
  have hdata : TcpControlCmd.bodyLen sampleCodecs (.data ⟨[5]⟩) = .ok 5 := rfl
  have hping : TcpControlCmd.bodyLen sampleCodecs (.ping ⟨1, 2⟩) = .ok 16 := rfl
  constructor
  · refine .tcp _ fun n hn => ?_
    cases hdata.symm.trans hn
    decide
  · refine .tcp _ fun n hn => ?_
    cases hping.symm.trans hn
    decide

/-- The data is written in two polls; the ping is dropped before it has the lock. -/
def whole : List Event :=
  [.call data, .call ping, .lock 0, .poll 0 6, .drop 1, .poll 0 5, .flushed 0]

theorem commands_whole_sample :
    (exec step .init whole).Clean ∧
      ∃ (fs : List (List U8)) (p : List U8),
        [1, 11, 0, 0, 0, 5, 0, 0, 0, 1, 5] = fs.flatten ++ p ∧
          [[1, 11, 0, 0, 0, 5, 0, 0, 0, 1, 5]] <+: fs := by
  obtain ⟨hclean, hread⟩ := commands_whole sampleCodecs_sound whole (by decide +kernel)
  have hwire : (exec step .init whole).wire = [1, 11, 0, 0, 0, 5, 0, 0, 0, 1, 5] := by
    decide +kernel
  have hframe : Frame sampleCodecs.header [1, 11, 0, 0, 0, 5, 0, 0, 0, 1, 5] :=
    ⟨⟨1, 11, 5⟩, [1, 11, 0, 0, 0, 5], [0, 0, 0, 1, 5], rfl, rfl, rfl⟩
  obtain ⟨fs, p, hw, -, hcut⟩ := hread (by
    intro pieces hmem
    simp only [whole, List.mem_cons, Event.call.injEq, reduceCtorEq, List.not_mem_nil,
      or_false] at hmem
    rcases hmem with rfl | rfl
    · exact data_ping_written.1
    · exact data_ping_written.2)
  rw [hwire] at hw hcut
  exact ⟨hclean, fs, p, hw, hcut _ (by simpa using hframe) (by simp)⟩

/-- The data is dropped behind its header, and the ping goes on there. -/
def cutShort : List Event :=
  [.call data, .call ping, .lock 0, .poll 0 6, .drop 0, .lock 1, .poll 1 22, .flushed 1]

/-- After the drop the stream is not clean; the ping is sent, and the reader takes its first bytes
for the body of the data. -/
theorem commands_cut :
    ¬(exec step .init (cutShort.take 5)).Clean ∧
    (exec step .init cutShort).senders = [⟨data, .dropped⟩, ⟨ping, .finished (.ok ())⟩] ∧
    (exec step .init cutShort).wire = [1, 11, 0, 0, 0, 5] ++
      [1, 4, 0, 0, 0, 16, 0, 0, 0, 0, 0, 0, 0, 1, 0, 0, 0, 0, 0, 0, 0, 2] ∧
    TcpControlCmd.readFromWire sampleCodecs [(exec step .init cutShort).wire] =
      .error ⟨.rawCodecError, ""⟩ := by
  have hwire : (exec step .init cutShort).wire = [1, 11, 0, 0, 0, 5] ++
      [1, 4, 0, 0, 0, 16, 0, 0, 0, 0, 0, 0, 0, 1, 0, 0, 0, 0, 0, 0, 0, 2] := by
    decide +kernel
  refine ⟨?_, by decide +kernel, hwire, ?_⟩
  · obtain ⟨fs, p, hsteady⟩ := steady_exec
      (show Along step Uncut .init (cutShort.take 4) by decide +kernel)
    have hw := pieces_exec (P := Written sampleCodecs) (show ∀ pieces, .call pieces ∈ cutShort.take 4 → _ by
      intro pieces hmem
      simp only [cutShort, List.take_succ_cons, List.take_zero, List.mem_cons, Event.call.injEq,
        reduceCtorEq, List.not_mem_nil, or_false] at hmem
      rcases hmem with rfl | rfl
      · exact data_ping_written.1
      · exact data_ping_written.2)
    exact cut_breaks sampleCodecs_sound hsteady hw (show ¬Uncut _ (.drop 0) by decide +kernel)
  · rw [hwire]
    decide +kernel

end Writer

end BuckyP2p.Tunnel.CommandWriter
