import BuckyP2p.Lib.Claims
import BuckyP2p.Tcp.Claim
import BuckyP2p.Tcp.Regions
import Mathlib.Data.Multiset.Filter

/-!
# BuckyP2p.Tcp.Agreement — the leases of the two ends agree

* `Face`: what an end shows to the claims of both ends, `TcpTunnel.face` its value.
* `Face.half`: the party of `Lib.Claims` that two faces make up.
* `TcpTunnel.act_moves`: every step of the model is a move of `Lib.Claims`, provided that a request
  is bound only while it is not beaten (`mayBind`), a failed send resets only its own claim
  (`mayReset`), and the sequence does not wrap around.
* `leases_agree`: in such runs, leases with one sequence number are the two ends of one channel.
-/

namespace BuckyP2p.Tcp

open Lib Lib.Claims

/-! ## What a lease is for -/

structure LeaseKey where
  leaseSeq : TcpLeaseSeq
  channelId : TcpChannelId
  kind : TcpChannelKind
  purpose : TunnelPurpose
  deriving DecidableEq, Repr

def LeaseKey.round (k : LeaseKey) : ℕ := k.leaseSeq.val

def ClaimingState.key (c : ClaimingState) : LeaseKey := ⟨c.leaseSeq, c.channelId, c.kind, c.purpose⟩

namespace LeaseContext

/-- What the lease is for, and by whose claim. -/
def entry (c : LeaseContext) : LeaseKey × Bool :=
  (⟨c.leaseSeq, c.channelId, c.kind, c.purpose⟩, c.localInitiator)

theorem Later.entry {c c' : LeaseContext} (h : c.Later c') : c'.entry = c.entry := by
  rw [LeaseContext.entry, h.leaseSeq, h.channelId, h.kind, h.purpose, h.localInitiator]
  rfl

end LeaseContext

/-! ## Faces -/

/-- The number of an answer to a claim, and whether it grants it. -/
def ClaimConnAck.answer (ack : ClaimConnAck) : ℕ × Bool :=
  (ack.leaseSeq.val, ack.result = .success)

namespace TcpControlCmd

/-- The claim that a command asks for. -/
def claim : TcpControlCmd → Option ClaimingState
  | .claimConnReq req => some req.claiming
  | _ => none

/-- The answer that a command brings. -/
def answer : TcpControlCmd → Option (ℕ × Bool)
  | .claimConnAck ack => some ack.answer
  | _ => none

end TcpControlCmd

namespace Loop

/-- The claim of the other end that is not answered yet. -/
def claim : Loop → Option ClaimingState
  | .deciding req | .checking req _ | .reserving req _ | .taking req _ | .binding req _ =>
    some req.claiming
  | _ => none

/-- The answer to a claim of the other end. -/
def answer : Loop → Option (ℕ × Bool)
  | .recording _ p | .processed p => some p.response.answer
  | .replying ack => some ack.answer
  | _ => none

/-- The answer to a claim of this end. -/
def receipt : Loop → Option (ℕ × Bool)
  | .waited ack | .found ack | .failing ack => some ack.answer
  | .acked c | .confirming c => some (c.key.round, true)
  | _ => none

/-- The claim that the loop is about to bind the entry to. -/
def granted : Loop → Option ClaimingState
  | .acked c | .confirming c => some c
  | _ => none

end Loop

/-- What an end shows to the claims of both ends.  `sent` are its claims that the other end has not
got; `asked` and `answered` the claims of the other end that it has got; `received` the answers that
it has got. -/
@[ext] structure Face where
  localId : P2pId
  remoteId : P2pId
  round : ℕ
  status : Status ClaimingState
  log : List (LeaseKey × Bool)
  sent : Multiset ClaimingState
  asked : Multiset ClaimingState
  answered : Multiset (ℕ × Bool)
  received : Multiset (ℕ × Bool)
  confirming : Option ClaimingState

/-- The status of an entry. -/
def DataConnEntryState.status {L : Type} : DataConnEntryState L → Status ClaimingState
  | .firstClaimPending | .idle => .free
  | .claiming c => .claiming c
  | .bound _ | .draining _ => .held
  | .retired => .retired

theorem DataConnEntryState.eq_retired {L : Type} {s : DataConnEntryState L}
    (h : s.status = .retired) : s = .retired := by
  cases s with
  | retired => rfl
  | _ => cases h

theorem DataConnEntryState.eq_claiming {L : Type} {s : DataConnEntryState L} {c : ClaimingState}
    (h : s.status = .claiming c) : s = .claiming c := by
  cases s with
  | claiming c' =>
    cases h
    rfl
  | _ => cases h

/-- The claims of some requests. -/
def claims (l : List ClaimConnReq) : Multiset ClaimingState := ↑(l.map ClaimConnReq.claiming)

theorem claims_concat (l : List ClaimConnReq) (req : ClaimConnReq) :
    claims (l ++ [req]) = req.claiming ::ₘ claims l := by
  unfold claims
  rw [List.map_append]
  exact Multiset.coe_eq_coe.mpr (List.perm_append_singleton _ _)

theorem claims_eraseIdx {l : List ClaimConnReq} {i : Nat} {req : ClaimConnReq}
    (h : l[i]? = some req) : claims l = req.claiming ::ₘ claims (l.eraseIdx i) := by
  obtain ⟨hlt, rfl⟩ := List.getElem?_eq_some_iff.mp h
  exact Multiset.coe_eq_coe.mpr ((List.getElem_cons_eraseIdx_perm hlt).symm.map _)

def TcpTunnel.face (x : TcpTunnel) : Face where
  localId := x.localId
  remoteId := x.remoteId
  round := x.committedLeaseSeq.val
  status := x.state.status
  log := x.leases.map LeaseContext.entry
  sent := claims x.opening + claims x.sending + claims x.resetting
  asked := ↑(x.inbox.filterMap TcpControlCmd.claim) + ↑x.loop.claim.toList
  answered := ↑x.loop.answer.toList
  received := ↑(x.inbox.filterMap TcpControlCmd.answer) + ↑x.loop.receipt.toList
  confirming := x.loop.granted

/-- The answers of one kind. -/
def ofKind (b : Bool) (m : Multiset (ℕ × Bool)) : Multiset ℕ :=
  (m.filter fun a => a.2 = b).map Prod.fst

@[simp] theorem ofKind_add (b : Bool) (m n : Multiset (ℕ × Bool)) :
    ofKind b (m + n) = ofKind b m + ofKind b n := by
  simp [ofKind]

theorem ofKind_cons (b k : Bool) (n : ℕ) (m : Multiset (ℕ × Bool)) :
    ofKind k ((n, b) ::ₘ m) = if b = k then n ::ₘ ofKind k m else ofKind k m := by
  by_cases h : b = k
  · simp [ofKind, h]
  · simp [ofKind, h]

theorem mem_ofKind {b : Bool} {n : ℕ} {m : Multiset (ℕ × Bool)} (h : (n, b) ∈ m) :
    n ∈ ofKind b m := by
  simp only [ofKind, Multiset.mem_map, Multiset.mem_filter]
  exact ⟨(n, b), ⟨h, rfl⟩, rfl⟩

namespace Face

/-- The party that shows the face `f`, with `g` the face of the other one. -/
def half (f g : Face) : Half ClaimingState LeaseKey where
  round := f.round
  status := f.status
  log := f.log
  requests := f.sent + g.asked
  refused := ofKind false (f.received + g.answered)
  granted := ofKind true (f.received + g.answered)
  confirming := f.confirming

/-- The tie-break of an end, its own claim first. -/
def wins (f : Face) (c c' : ClaimingState) : Prop :=
  localSimultaneousClaimWins f.localId f.remoteId c.claimNonce c'.claimNonce = true

/-- The identities of the two ends. -/
def ids (f : Face) : P2pId × P2pId := (f.localId, f.remoteId)

/-- A move of either party. -/
def Moves (f g f' g' : Face) : Prop :=
  f'.ids = f.ids ∧ g'.ids = g.ids ∧
  (Move LeaseKey.round ClaimingState.key f.wins (f.half g) (g.half f) (f'.half g') (g'.half f') ∨
    Move LeaseKey.round ClaimingState.key g.wins (g.half f) (f.half g) (g'.half f') (f'.half g'))

variable {f f' g g' : Face} {c : ClaimingState} {n : ℕ}

theorem moves_stay (hf : f'.ids = f.ids) (hg : g'.ids = g.ids) (hx : f'.half g' = f.half g)
    (hy : g'.half f' = g.half f) : f.Moves g f' g' := by
  refine ⟨hf, hg, .inl ?_⟩
  rw [hx, hy]
  exact .stay

theorem moves_claim (hs : f.status = .free) (hc : c.key.round = f.round + 1) :
    f.Moves g { f with status := .claiming c, sent := c ::ₘ f.sent } g := by
  have heq : half { f with status := .claiming c, sent := c ::ₘ f.sent } g =
      { f.half g with status := .claiming c, requests := c ::ₘ (f.half g).requests } :=
    Half.ext rfl rfl rfl (Multiset.cons_add c f.sent g.asked) rfl rfl rfl
  refine ⟨rfl, rfl, .inl ?_⟩
  rw [heq]
  exact .claim hs hc

/-- A failed send of the claim `c`. -/
theorem moves_reset {rest : Multiset ClaimingState} (h : f.sent = c ::ₘ rest)
    (hret : f.status ≠ .retired) (hown : ∀ c', f.status = .claiming c' → c' = c) :
    f.Moves g { f with status := .free, sent := rest } g := by
  have hreq : (f.half g).requests = c ::ₘ (rest + g.asked) := by
    show f.sent + g.asked = _
    rw [h, Multiset.cons_add]
  exact ⟨rfl, rfl, .inl (.reset hreq hret hown)⟩

/-- The party has got a request of the other one, and is done with it. -/
theorem half_asked {rest : Multiset ClaimingState} (h : f.asked = c ::ₘ rest) :
    (g.half f).requests = c ::ₘ (g.sent + rest) := by
  show g.sent + f.asked = _
  rw [h, Multiset.add_cons]

theorem moves_drop {rest : Multiset ClaimingState} (h : f.asked = c ::ₘ rest) :
    f.Moves g { f with asked := rest } g :=
  ⟨rfl, rfl, .inr (.drop (half_asked h))⟩

/-- An answer of the kind `b`. -/
theorem half_answered (b : Bool) {rest : Multiset ClaimingState} (f' : Face)
    (hasked : f'.asked = rest) (hanswered : f'.answered = (n, b) ::ₘ f.answered) :
    g.half f' =
      { g.half f with
        requests := g.sent + rest
        refused := if b then (g.half f).refused else n ::ₘ (g.half f).refused
        granted := if b then n ::ₘ (g.half f).granted else (g.half f).granted } := by
  refine Half.ext rfl rfl rfl ?_ ?_ ?_ rfl
  · show g.sent + f'.asked = _
    rw [hasked]
  · show ofKind false (g.received + f'.answered) = _
    rw [hanswered, Multiset.add_cons, ofKind_cons]
    cases b <;> rfl
  · show ofKind true (g.received + f'.answered) = _
    rw [hanswered, Multiset.add_cons, ofKind_cons]
    cases b <;> rfl

theorem moves_refuse {rest : Multiset ClaimingState} (h : f.asked = c ::ₘ rest) :
    f.Moves g { f with asked := rest, answered := (c.key.round, false) ::ₘ f.answered } g := by
  refine ⟨rfl, rfl, .inl ?_⟩
  rw [half_answered false { f with asked := rest, answered := (c.key.round, false) ::ₘ f.answered }
    rfl rfl]
  exact .refuse (half_asked h)

theorem moves_replay {rest : Multiset ClaimingState} (h : f.asked = c ::ₘ rest)
    (hc : c.key.round ≤ f.round) :
    f.Moves g { f with asked := rest, answered := (c.key.round, true) ::ₘ f.answered } g := by
  refine ⟨rfl, rfl, .inl ?_⟩
  rw [half_answered true { f with asked := rest, answered := (c.key.round, true) ::ₘ f.answered }
    rfl rfl]
  exact .replay (half_asked h) hc

theorem moves_accept {rest : Multiset ClaimingState} (h : f.asked = c ::ₘ rest)
    (hc : c.key.round = f.round + 1) (hret : f.status ≠ .retired)
    (hwin : ∀ c', f.status = .claiming c' → ¬ f.wins c' c) (hconf : f.confirming = none) :
    f.Moves g
      { f with
        round := f.round + 1
        status := .held
        log := f.log ++ [(c.key, false)]
        asked := rest
        answered := (c.key.round, true) ::ₘ f.answered } g := by
  refine ⟨rfl, rfl, .inl ?_⟩
  rw [half_answered true { f with
    round := f.round + 1
    status := .held
    log := f.log ++ [(c.key, false)]
    asked := rest
    answered := (c.key.round, true) ::ₘ f.answered } rfl rfl]
  exact .accept (half_asked h) hc hret hwin hconf

/-- The answers on their way to an end, without one of the kind `b`. -/
theorem half_lost {b : Bool} {m rest : Multiset (ℕ × Bool)} (h : m = (n, b) ::ₘ rest)
    (m' : Multiset (ℕ × Bool)) :
    ofKind b (m + m') = n ::ₘ ofKind b (rest + m') ∧ ofKind (!b) (m + m') = ofKind (!b) (rest + m')
    := by
  rw [h, Multiset.cons_add, ofKind_cons, ofKind_cons]
  cases b
  · exact ⟨rfl, rfl⟩
  · exact ⟨rfl, rfl⟩

/-- An end drops an answer that it has got. -/
theorem moves_unheard {b : Bool} {rest : Multiset (ℕ × Bool)} (h : f.received = (n, b) ::ₘ rest)
    (hconf : b = false → f.confirming = none) :
    f.Moves g { f with received := rest, confirming := none } g := by
  obtain ⟨hkind, hother⟩ := half_lost h g.answered
  refine ⟨rfl, rfl, .inl ?_⟩
  cases b with
  | false =>
    have heq : half { f with received := rest, confirming := none } g =
        { f.half g with refused := ofKind false (rest + g.answered) } :=
      Half.ext rfl rfl rfl rfl rfl hother.symm (hconf rfl).symm
    rw [heq]
    exact .dropRefused hkind
  | true =>
    have heq : half { f with received := rest, confirming := none } g =
        { f.half g with granted := ofKind true (rest + g.answered), confirming := none } :=
      Half.ext rfl rfl rfl rfl hother.symm rfl rfl
    rw [heq]
    exact .dropGranted hkind (by simp)

/-- An end drops an answer that it was to send. -/
theorem moves_unsent {b : Bool} {rest : Multiset (ℕ × Bool)} (h : f.answered = (n, b) ::ₘ rest)
    (hconf : ∀ c, g.confirming = some c → (c.key.round, true) ∈ g.received) :
    f.Moves g { f with answered := rest } g := by
  obtain ⟨hkind, hother⟩ := half_lost h g.received
  rw [Multiset.add_comm f.answered, Multiset.add_comm rest] at hkind hother
  refine ⟨rfl, rfl, .inr ?_⟩
  cases b with
  | false =>
    have heq : g.half { f with answered := rest } =
        { g.half f with refused := ofKind false (g.received + rest) } :=
      Half.ext rfl rfl rfl rfl rfl hother.symm rfl
    rw [heq]
    exact .dropRefused hkind
  | true =>
    have heq : g.half { f with answered := rest } =
        { g.half f with granted := ofKind true (g.received + rest), confirming := g.confirming } :=
      Half.ext rfl rfl rfl rfl hother.symm rfl rfl
    rw [heq]
    refine .dropGranted hkind fun c hc => ⟨hc, ?_⟩
    rw [ofKind_add]
    exact Multiset.mem_add.mpr (.inl (mem_ofKind (hconf c hc)))

/-- The entry is reset because its claim was refused. -/
theorem moves_turn {rest : Multiset (ℕ × Bool)} (h : f.received = (f.round + 1, false) ::ₘ rest) :
    f.Moves g { f with status := .free, received := rest } g := by
  obtain ⟨hkind, hother⟩ := half_lost h g.answered
  have heq : half { f with status := .free, received := rest } g =
      { f.half g with status := .free, refused := ofKind false (rest + g.answered) } :=
    Half.ext rfl rfl rfl rfl rfl hother.symm rfl
  refine ⟨rfl, rfl, .inl ?_⟩
  rw [heq]
  exact .turn hkind

theorem moves_hear (hs : f.status = .claiming c) (hg : (c.key.round, true) ∈ f.received) :
    f.Moves g { f with confirming := some c } g := by
  refine ⟨rfl, rfl, .inl (.hear hs ?_)⟩
  show c.key.round ∈ ofKind true (f.received + g.answered)
  rw [ofKind_add]
  exact Multiset.mem_add.mpr (.inl (mem_ofKind hg))

theorem moves_confirm {rest : Multiset (ℕ × Bool)} (hconf : f.confirming = some c)
    (h : f.received = (c.key.round, true) ::ₘ rest) :
    f.Moves g
      { f with
        round := f.round + 1
        status := .held
        log := f.log ++ [(c.key, true)]
        received := rest
        confirming := none } g := by
  obtain ⟨hkind, hother⟩ := half_lost h g.answered
  have heq : half
      { f with
        round := f.round + 1
        status := .held
        log := f.log ++ [(c.key, true)]
        received := rest
        confirming := none } g =
      { f.half g with
        round := f.round + 1
        status := .held
        log := f.log ++ [(c.key, true)]
        granted := ofKind true (rest + g.answered)
        confirming := none } :=
    Half.ext rfl rfl rfl rfl hother.symm rfl rfl
  refine ⟨rfl, rfl, .inl ?_⟩
  rw [heq]
  exact .confirm hconf hkind

end Face

/-! ## The loop -/

namespace Loop

/-- The loop holds no claim and no answer. -/
def Empty (l : Loop) : Prop :=
  l.claim = none ∧ l.answer = none ∧ l.receipt = none ∧ l.granted = none

theorem claim_only {l : Loop} {c : ClaimingState} (h : l.claim = some c) :
    l.answer = none ∧ l.receipt = none ∧ l.granted = none := by
  cases l with
  | deciding | checking | reserving | taking | binding => exact ⟨rfl, rfl, rfl⟩
  | _ => cases h

theorem answer_only {l : Loop} {a : ℕ × Bool} (h : l.answer = some a) :
    l.claim = none ∧ l.receipt = none ∧ l.granted = none := by
  cases l with
  | recording | processed | replying => exact ⟨rfl, rfl, rfl⟩
  | _ => cases h

theorem receipt_only {l : Loop} {a : ℕ × Bool} (h : l.receipt = some a) :
    l.claim = none ∧ l.answer = none := by
  cases l with
  | waited | found | failing | acked | confirming => exact ⟨rfl, rfl⟩
  | _ => cases h

/-- The grant of the claim that the loop binds is in its hands. -/
theorem granted_receipt {l : Loop} {c : ClaimingState} (h : l.granted = some c) :
    l.receipt = some (c.key.round, true) := by
  cases l with
  | acked | confirming =>
    cases h
    rfl
  | _ => cases h

/-- The claim that a decision is about is for the next lease, if it may be accepted. -/
def Fits (committed : TcpLeaseSeq) : Loop → Prop
  | .checking req .accept | .checking req (.conflictLose _) | .reserving req _ | .taking req _
  | .binding req _ => req.leaseSeq.val = committed.val + 1
  | .checking _ .conflictWin => True
  | .checking _ _ => False
  | .recording record _ =>
    record.response.result = .success → record.leaseSeq.val ≤ committed.val
  | .failing ack => ack.answer = (committed.val + 1, false)
  | .acked c | .confirming c => c.leaseSeq.val = committed.val + 1
  | _ => True

end Loop

namespace TcpTunnel

/-- The claims that are waiting to be read. -/
def asks (x : TcpTunnel) : Multiset ClaimingState := ↑(x.inbox.filterMap TcpControlCmd.claim)

/-- The answers that are waiting to be read. -/
def acks (x : TcpTunnel) : Multiset (ℕ × Bool) := ↑(x.inbox.filterMap TcpControlCmd.answer)

variable {x y : TcpTunnel} {l : Loop} {c : ClaimingState} {n : ℕ} {b : Bool}

theorem face_asked (h : x.loop.claim = some c) : x.face.asked = c ::ₘ x.asks := by
  show x.asks + ↑x.loop.claim.toList = _
  rw [h]
  exact Multiset.add_comm x.asks {c}

theorem face_received {a : ℕ × Bool} (h : x.loop.receipt = some a) :
    x.face.received = a ::ₘ x.acks := by
  show x.acks + ↑x.loop.receipt.toList = _
  rw [h]
  exact Multiset.add_comm x.acks {a}

theorem face_answered {a : ℕ × Bool} (h : x.loop.answer = some a) : x.face.answered = a ::ₘ 0 := by
  show (↑x.loop.answer.toList : Multiset (ℕ × Bool)) = _
  rw [h]
  rfl

theorem confirming_received (h : x.face.confirming = some c) :
    (c.key.round, true) ∈ x.face.received := by
  rw [face_received (Loop.granted_receipt h)]
  exact Multiset.mem_cons_self _ _

/-- The loop goes on with what it holds. -/
theorem face_goes (hclaim : l.claim = x.loop.claim) (hanswer : l.answer = x.loop.answer)
    (hreceipt : l.receipt = x.loop.receipt) (hgranted : l.granted = x.loop.granted) :
    face { x with loop := l } = x.face := by
  refine Face.ext rfl rfl rfl rfl rfl rfl ?_ ?_ ?_ hgranted
  · show x.asks + ↑l.claim.toList = x.asks + ↑x.loop.claim.toList
    rw [hclaim]
  · show (↑l.answer.toList : Multiset (ℕ × Bool)) = ↑x.loop.answer.toList
    rw [hanswer]
  · show x.acks + ↑l.receipt.toList = x.acks + ↑x.loop.receipt.toList
    rw [hreceipt]

/-- The loop answers the claim that it holds. -/
theorem face_answers (h : x.loop.claim = some c) (hl : l.answer = some (n, b)) :
    face { x with loop := l } =
      { x.face with asked := x.asks, answered := (n, b) ::ₘ x.face.answered } := by
  obtain ⟨hanswer, hreceipt, hgranted⟩ := Loop.claim_only h
  obtain ⟨hclaim', hreceipt', hgranted'⟩ := Loop.answer_only hl
  refine Face.ext rfl rfl rfl rfl rfl rfl ?_ ?_ ?_ ?_
  · show x.asks + ↑l.claim.toList = x.asks
    rw [hclaim']
    exact Multiset.add_zero _
  · show (↑l.answer.toList : Multiset (ℕ × Bool)) = (n, b) ::ₘ ↑x.loop.answer.toList
    rw [hanswer, hl]
    rfl
  · show x.acks + ↑l.receipt.toList = x.acks + ↑x.loop.receipt.toList
    rw [hreceipt, hreceipt']
  · exact hgranted'.trans hgranted.symm

/-- The loop gives up what it holds. -/
theorem face_empty (hl : l.Empty) : face { x with loop := l } =
    { x.face with asked := x.asks, answered := 0, received := x.acks, confirming := none } := by
  obtain ⟨hclaim, hanswer, hreceipt, hgranted⟩ := hl
  refine Face.ext rfl rfl rfl rfl rfl rfl ?_ ?_ ?_ hgranted
  · show x.asks + ↑l.claim.toList = x.asks
    rw [hclaim]
    exact Multiset.add_zero _
  · show (↑l.answer.toList : Multiset (ℕ × Bool)) = 0
    rw [hanswer]
    rfl
  · show x.acks + ↑l.receipt.toList = x.acks
    rw [hreceipt]
    exact Multiset.add_zero _

theorem loop_goes (hclaim : l.claim = x.loop.claim) (hanswer : l.answer = x.loop.answer)
    (hreceipt : l.receipt = x.loop.receipt) (hgranted : l.granted = x.loop.granted) :
    x.face.Moves y.face (face { x with loop := l }) y.face := by
  rw [face_goes hclaim hanswer hreceipt hgranted]
  exact Face.moves_stay rfl rfl rfl rfl

theorem loop_refuses (h : x.loop.claim = some c) (hl : l.answer = some (c.key.round, false)) :
    x.face.Moves y.face (face { x with loop := l }) y.face := by
  rw [face_answers h hl]
  exact Face.moves_refuse (face_asked h)

theorem loop_replays (h : x.loop.claim = some c) (hl : l.answer = some (c.key.round, true))
    (hc : c.key.round ≤ x.committedLeaseSeq.val) :
    x.face.Moves y.face (face { x with loop := l }) y.face := by
  rw [face_answers h hl]
  exact Face.moves_replay (face_asked h) hc

theorem loop_drops_claim (h : x.loop.claim = some c) (hl : l.Empty) :
    x.face.Moves y.face (face { x with loop := l }) y.face := by
  obtain ⟨hanswer, hreceipt, hgranted⟩ := Loop.claim_only h
  have heq : face { x with loop := l } = { x.face with asked := x.asks } := by
    rw [face_empty hl]
    refine Face.ext rfl rfl rfl rfl rfl rfl rfl ?_ ?_ hgranted.symm
    · show 0 = (↑x.loop.answer.toList : Multiset (ℕ × Bool))
      rw [hanswer]
      rfl
    · show x.acks = x.acks + ↑x.loop.receipt.toList
      rw [hreceipt]
      exact (Multiset.add_zero _).symm
  rw [heq]
  exact Face.moves_drop (face_asked h)

theorem loop_drops_answer {a : ℕ × Bool} (h : x.loop.answer = some a) (hl : l.Empty) :
    x.face.Moves y.face (face { x with loop := l }) y.face := by
  obtain ⟨hclaim, hreceipt, hgranted⟩ := Loop.answer_only h
  have heq : face { x with loop := l } = { x.face with answered := 0 } := by
    rw [face_empty hl]
    refine Face.ext rfl rfl rfl rfl rfl rfl ?_ rfl ?_ hgranted.symm
    · show x.asks = x.asks + ↑x.loop.claim.toList
      rw [hclaim]
      exact (Multiset.add_zero _).symm
    · show x.acks = x.acks + ↑x.loop.receipt.toList
      rw [hreceipt]
      exact (Multiset.add_zero _).symm
  rw [heq]
  exact Face.moves_unsent (face_answered h) fun c hc => confirming_received hc

theorem loop_drops_receipt (h : x.loop.receipt = some (n, b)) (hl : l.Empty) :
    x.face.Moves y.face (face { x with loop := l }) y.face := by
  obtain ⟨hclaim, hanswer⟩ := Loop.receipt_only h
  have heq : face { x with loop := l } = { x.face with received := x.acks, confirming := none } := by
    rw [face_empty hl]
    refine Face.ext rfl rfl rfl rfl rfl rfl ?_ ?_ rfl rfl
    · show x.asks = x.asks + ↑x.loop.claim.toList
      rw [hclaim]
      exact (Multiset.add_zero _).symm
    · show 0 = (↑x.loop.answer.toList : Multiset (ℕ × Bool))
      rw [hanswer]
      rfl
  rw [heq]
  refine Face.moves_unheard (face_received h) fun hb => ?_
  -- a claim that is about to be bound was granted
  show x.loop.granted = none
  by_contra hsome
  obtain ⟨c, hc⟩ := Option.ne_none_iff_exists'.mp hsome
  have hreceipt := Loop.granted_receipt hc
  rw [h, hb] at hreceipt
  cases hreceipt

/-- What holds of one end by itself. -/
structure Local (x : TcpTunnel) : Prop where
  first : x.state = .firstClaimPending → x.committedLeaseSeq = 0
  claiming : ∀ c, x.state = .claiming c → c.leaseSeq.val = x.committedLeaseSeq.val + 1
  loop : x.loop.Fits x.committedLeaseSeq
  recent : ∀ record, x.recentClaim = some record → record.response.result = .success →
    record.leaseSeq.val ≤ x.committedLeaseSeq.val

/-- The loop goes on to `l`, and nothing else changes. -/
theorem Local.go (h : x.Local) (hl : l.Fits x.committedLeaseSeq) : Local { x with loop := l } :=
  ⟨h.first, h.claiming, hl, h.recent⟩

/-! ## Leases -/

/-- What the end of a lease, a failure or a timer does to the state of the entry. -/
inductive Drifts (s : DataConnEntryState Nat) : DataConnEntryState Nat → Prop
  | same : Drifts s s
  | retired : Drifts s .retired
  | held {s' : DataConnEntryState Nat} (h : s.status = .held) (h' : s'.status = .held) : Drifts s s'
  | idle (h : s.status = .held) : Drifts s .idle

theorem Drifts.of_first {s : DataConnEntryState Nat} (h : Drifts s .firstClaimPending) :
    s = .firstClaimPending := by
  cases h with
  | same => rfl
  | held _ h' => cases h'

theorem Drifts.of_claiming {s : DataConnEntryState Nat} {c : ClaimingState}
    (h : Drifts s (.claiming c)) : s = .claiming c := by
  cases h with
  | same => rfl
  | held _ h' => cases h'

/-- A step that is not one of a claim. -/
structure Calm (x x' : TcpTunnel) : Prop where
  localId : x'.localId = x.localId
  remoteId : x'.remoteId = x.remoteId
  committed : x'.committedLeaseSeq = x.committedLeaseSeq
  state : Drifts x.state x'.state
  recent : x'.recentClaim = x.recentClaim
  opening : x'.opening = x.opening
  sending : x'.sending = x.sending
  resetting : x'.resetting = x.resetting
  loop : x'.loop = x.loop
  inbox : x'.inbox = x.inbox
  leases : x'.leases.map LeaseContext.entry = x.leases.map LeaseContext.entry

variable {x' : TcpTunnel}

theorem Calm.face (h : Calm x x') : x'.face = { x.face with status := x'.state.status } := by
  refine Face.ext h.localId h.remoteId (congrArg Fin.val h.committed) rfl h.leases ?_ ?_ ?_ ?_ ?_
  · show claims x'.opening + claims x'.sending + claims x'.resetting = _
    rw [h.opening, h.sending, h.resetting]
    rfl
  · show (↑(x'.inbox.filterMap TcpControlCmd.claim) : Multiset ClaimingState) +
      ↑x'.loop.claim.toList = _
    rw [h.inbox, h.loop]
    rfl
  · show (↑x'.loop.answer.toList : Multiset (ℕ × Bool)) = _
    rw [h.loop]
    rfl
  · show (↑(x'.inbox.filterMap TcpControlCmd.answer) : Multiset (ℕ × Bool)) +
      ↑x'.loop.receipt.toList = _
    rw [h.inbox, h.loop]
    rfl
  · show x'.loop.granted = _
    rw [h.loop]
    rfl

theorem Calm.local (h : Calm x x') (hx : x.Local) : x'.Local := by
  refine ⟨?_, ?_, ?_, ?_⟩
  · intro hs
    rw [h.committed]
    exact hx.first (hs ▸ h.state).of_first
  · intro c hs
    rw [h.committed]
    exact hx.claiming c (hs ▸ h.state).of_claiming
  · rw [h.loop, h.committed]
    exact hx.loop
  · rw [h.recent, h.committed]
    exact hx.recent

theorem Calm.moves (h : Calm x x') : x.face.Moves y.face x'.face y.face := by
  have hface := h.face
  have hd := h.state
  generalize x'.state = s' at hd hface
  cases hd with
  | same =>
    rw [hface]
    exact Face.moves_stay rfl rfl rfl rfl
  | retired =>
    rw [hface]
    exact ⟨rfl, rfl, .inl .retire⟩
  | held hs hs' =>
    have heq : x'.face = x.face := by
      rw [hface, hs', ← hs]
      rfl
    rw [heq]
    exact Face.moves_stay rfl rfl rfl rfl
  | idle hs =>
    rw [hface]
    exact ⟨rfl, rfl, .inl (.settle hs)⟩

theorem Calm.refl (x : TcpTunnel) : Calm x x :=
  ⟨rfl, rfl, rfl, .same, rfl, rfl, rfl, rfl, rfl, rfl, rfl⟩

/-- A region of a lease keeps what the lease is for. -/
theorem region_calm {i : Nat} {lease : LeaseContext} (hi : x.leases[i]? = some lease)
    {r : LeaseContext × List Todo} (hr : r.1.entry = lease.entry) : Calm x (x.region i r) := by
  refine ⟨rfl, rfl, rfl, .same, rfl, rfl, rfl, rfl, rfl, rfl, ?_⟩
  show (x.leases.set i r.1).map LeaseContext.entry = _
  rw [List.map_set]
  apply List.ext_getElem?
  intro j
  rw [List.getElem?_set, List.getElem?_map]
  by_cases hij : i = j
  · subst hij
    obtain ⟨hlt, -⟩ := List.getElem?_eq_some_iff.mp hi
    rw [if_pos rfl, if_pos (by simpa using hlt), hi, hr]
    rfl
  · rw [if_neg hij]

theorem retirePlainEntry_calm (x : TcpTunnel) : Calm x x.retirePlainEntry :=
  ⟨rfl, rfl, rfl, .retired, rfl, rfl, rfl, rfl, rfl, rfl, rfl⟩

theorem runLease_calm {i : Nat} {lease : LeaseContext} (hi : x.leases[i]? = some lease) (t : Todo) :
    Calm x (x.runLease i lease t) := by
  cases t with
  | sendWriteFin => exact { region_calm hi lease.sendWriteFin_intact.entry with }
  | sendReadDone => exact { region_calm hi lease.sendReadDone_intact.entry with }
  | markDraining =>
    simp only [runLease]
    split
    · rename_i j hs
      exact { Calm.refl x with state := .held (by rw [hs]; rfl) rfl }
    · exact .refl x
  | retire => exact { region_calm hi lease.retireLease_intact.entry with }
  | markRetired => exact { Calm.refl x with state := .retired }
  | finalize => exact region_calm hi lease.maybeFinalizeLease_intact.entry
  | settle =>
    simp only [runLease]
    split
    · rename_i hs
      exact { Calm.refl x with state := .idle (by rw [hs]; rfl) }
    · rename_i hs
      exact { Calm.refl x with state := .idle (by rw [hs]; rfl) }
    · exact { Calm.refl x with }

theorem runChore_calm (x : TcpTunnel) (chore : Chore) : Calm x (x.runChore chore) := by
  cases chore with
  | lease i t =>
    simp only [runChore]
    split
    · rename_i lease hi
      exact runLease_calm hi t
    · exact .refl x
  | dropStream => exact { Calm.refl x with }
  | clearPendingDrainsForConn => exact { Calm.refl x with }
  | clearPendingDrainForEntry seq => exact { Calm.refl x with }
  | removeEntry => exact { Calm.refl x with }
  | sendPendingClaimResult channelId => exact { Calm.refl x with }

theorem useLease_calm {i : Nat} {lease : LeaseContext} (hi : x.leases[i]? = some lease)
    (e : LeaseEvent) : Calm x (x.useLease i lease e) := by
  cases e with
  | write n =>
    simp only [useLease]
    split
    · exact .refl x
    · exact region_calm hi rfl
  | read n eof =>
    simp only [useLease]
    split
    · exact .refl x
    · exact region_calm hi (lease.afterRead_intact n eof).entry
  | dropRead => exact region_calm hi lease.releaseReadHalf_later.entry
  | dropWrite => exact region_calm hi lease.releaseWriteHalf_later.entry
  | observe =>
    simp only [useLease]
    split
    · exact .refl x
    · split
      · rename_i lease' todo heq
        exact { region_calm hi (r := (lease', todo)) (LeaseContext.observeStart_intact heq).entry with }
      · exact region_calm hi rfl
  | observed result =>
    simp only [useLease]
    split
    · exact { region_calm hi (lease.observeEnd_intact result).entry with }
    · exact .refl x
  | check => exact region_calm hi lease.maybeFinalizeLease_intact.entry
  | fail => exact runLease_calm hi .retire

theorem close_calm (x : TcpTunnel) : Calm x x.close := by
  have hstate : ∀ (s : Bool), Calm x { x with
      closed := true, pendingDrains := fun _ => ⟨none, none⟩, pendingClaims := []
      state := .retired, stream := s } := fun _ => { Calm.refl x with state := .retired }
  unfold close
  split
  · exact .refl x
  · dsimp only
    split
    · exact { Calm.refl x with }
    · split
      · split
        · rename_i hi
          exact { region_calm (x := x) hi rfl with }
        · exact { Calm.refl x with }
      · split
        · rename_i hi
          exact { region_calm (x := x) hi rfl with }
        · exact { Calm.refl x with }
      · exact hstate false
      · exact hstate false
      · exact hstate false
      · exact { Calm.refl x with }

theorem handle_calm (x : TcpTunnel) (i : Nat) (cmd : DrainCmd) :
    Calm { x with loop := .ready } (x.handle i cmd) := by
  cases cmd with
  | writeFin fin =>
    simp only [handle]
    split
    · rename_i lease hi
      exact region_calm (x := { x with loop := .ready }) hi (lease.handleWriteFin_intact fin).entry
    · exact .refl _
  | readDone done =>
    simp only [handle]
    split
    · rename_i lease hi
      exact region_calm (x := { x with loop := .ready }) hi (lease.handleReadDone_intact done).entry
    · exact .refl _

theorem keepWriteFin_calm (x : TcpTunnel) (fin : WriteFin) : Calm x (x.keepWriteFin fin) := by
  unfold keepWriteFin
  split
  · exact x.retirePlainEntry_calm
  · dsimp only
    split
    · split
      · exact { x.retirePlainEntry_calm with }
      · exact { Calm.refl x with }
    · exact { Calm.refl x with }

theorem keepReadDone_calm (x : TcpTunnel) (done : ReadDone) : Calm x (x.keepReadDone done) := by
  unfold keepReadDone
  split
  · exact x.retirePlainEntry_calm
  · dsimp only
    split
    · split
      · exact { x.retirePlainEntry_calm with }
      · exact { Calm.refl x with }
    · exact { Calm.refl x with }

theorem keepDrain_calm (x : TcpTunnel) (cmd : DrainCmd) : Calm x (x.keepDrain cmd) := by
  cases cmd with
  | writeFin fin => exact x.keepWriteFin_calm fin
  | readDone done => exact x.keepReadDone_calm done

/-- The end of a step of an end: it stays sound by itself, and the step is a move. -/
def Steps (x y x' y' : TcpTunnel) : Prop := x'.Local ∧ x.face.Moves y.face x'.face y'.face

theorem Calm.steps (h : Calm x x') (hx : x.Local) : Steps x y x' y := ⟨h.local hx, h.moves⟩

/-- A loop without a claim goes on to where it has none. -/
theorem steps_empty (hx : x.Local) (hloop : x.loop.Empty) (hl : l.Empty)
    (hfits : l.Fits x.committedLeaseSeq) : Steps x y { x with loop := l } y := by
  refine ⟨hx.go hfits, loop_goes ?_ ?_ ?_ ?_⟩
  · rw [hl.1, hloop.1]
  · rw [hl.2.1, hloop.2.1]
  · rw [hl.2.2.1, hloop.2.2.1]
  · rw [hl.2.2.2, hloop.2.2.2]

/-- The loop goes on with the claim that it holds. -/
theorem steps_claim (hx : x.Local) (h : x.loop.claim = some c) (hl : l.claim = some c)
    (hfits : l.Fits x.committedLeaseSeq) : Steps x y { x with loop := l } y := by
  obtain ⟨hanswer, hreceipt, hgranted⟩ := Loop.claim_only h
  obtain ⟨hanswer', hreceipt', hgranted'⟩ := Loop.claim_only hl
  exact ⟨hx.go hfits, loop_goes (hl.trans h.symm) (hanswer'.trans hanswer.symm)
    (hreceipt'.trans hreceipt.symm) (hgranted'.trans hgranted.symm)⟩

/-- The loop goes on with the answer that it holds. -/
theorem face_holds_answer {a : ℕ × Bool} (h : x.loop.answer = some a) (hl : l.answer = some a) :
    face { x with loop := l } = x.face := by
  obtain ⟨hclaim, hreceipt, hgranted⟩ := Loop.answer_only h
  obtain ⟨hclaim', hreceipt', hgranted'⟩ := Loop.answer_only hl
  exact face_goes (hclaim'.trans hclaim.symm) (hl.trans h.symm) (hreceipt'.trans hreceipt.symm)
    (hgranted'.trans hgranted.symm)

/-- The loop goes on with the answer that it has got. -/
theorem steps_receipt (hx : x.Local) {a : ℕ × Bool} (h : x.loop.receipt = some a)
    (hl : l.receipt = some a) (hgranted : l.granted = x.loop.granted)
    (hfits : l.Fits x.committedLeaseSeq) : Steps x y { x with loop := l } y := by
  obtain ⟨hclaim, hanswer⟩ := Loop.receipt_only h
  obtain ⟨hclaim', hanswer'⟩ := Loop.receipt_only hl
  exact ⟨hx.go hfits, loop_goes (hclaim'.trans hclaim.symm) (hanswer'.trans hanswer.symm)
    (hl.trans h.symm) hgranted⟩

theorem empty_ready : Loop.ready.Empty := ⟨rfl, rfl, rfl, rfl⟩

theorem empty_stopped : Loop.stopped.Empty := ⟨rfl, rfl, rfl, rfl⟩

theorem arrive_steps (hx : x.Local) (hready : x.loop = .ready) (cmd : DrainCmd) :
    Steps x y (x.arrive cmd) y := by
  have hempty : x.loop.Empty := by
    rw [hready]
    exact empty_ready
  have hlate : Steps x y
      (if cmd.leaseSeq.gt x.committedLeaseSeq then x.retirePlainEntry else x) y := by
    split
    · exact x.retirePlainEntry_calm.steps hx
    · exact (Calm.refl x).steps hx
  have hhandle : ∀ i, Steps x y { x with loop := .handling i cmd } y := fun i =>
    steps_empty hx hempty ⟨rfl, rfl, rfl, rfl⟩ trivial
  unfold arrive
  split
  · exact steps_empty hx hempty empty_stopped trivial
  · split
    · exact hlate
    · exact hlate
    · exact hlate
    · split
      · split
        · exact x.retirePlainEntry_calm.steps hx
        · exact (x.keepDrain_calm cmd).steps hx
      · exact (Calm.refl x).steps hx
    · exact hhandle _
    · exact hhandle _

/-! ## Claims -/

/-- A step from another state that shows the same face. -/
theorem Steps.of_face {x₁ : TcpTunnel} {y' : TcpTunnel} (h : Steps x₁ y x' y')
    (hface : x₁.face = x.face) : Steps x y x' y' := by
  refine ⟨h.1, ?_⟩
  rw [← hface]
  exact h.2

/-- The loop takes a command out of the inbox, and shows the same. -/
theorem face_pop {cmd : TcpControlCmd} {rest : List TcpControlCmd} (hready : x.loop = .ready)
    (hbox : x.inbox = cmd :: rest) {l : Loop} (hclaim : l.claim = cmd.claim)
    (hreceipt : l.receipt = cmd.answer) (hanswer : l.answer = none) (hgranted : l.granted = none) :
    face { x with inbox := rest, loop := l } = x.face := by
  refine Face.ext rfl rfl rfl rfl rfl rfl ?_ ?_ ?_ ?_
  · show (↑(rest.filterMap TcpControlCmd.claim) : Multiset ClaimingState) + ↑l.claim.toList =
      ↑(x.inbox.filterMap TcpControlCmd.claim) + ↑x.loop.claim.toList
    rw [hready, hbox, hclaim, List.filterMap_cons]
    cases cmd.claim with
    | none => rfl
    | some c =>
      show _ + ({c} : Multiset ClaimingState) = (c ::ₘ ↑(rest.filterMap TcpControlCmd.claim)) + 0
      rw [Multiset.add_zero]
      exact Multiset.add_comm _ {c}
  · show (↑l.answer.toList : Multiset (ℕ × Bool)) = ↑x.loop.answer.toList
    rw [hready, hanswer]
    rfl
  · show (↑(rest.filterMap TcpControlCmd.answer) : Multiset (ℕ × Bool)) + ↑l.receipt.toList =
      ↑(x.inbox.filterMap TcpControlCmd.answer) + ↑x.loop.receipt.toList
    rw [hready, hbox, hreceipt, List.filterMap_cons]
    cases cmd.answer with
    | none => rfl
    | some a =>
      show _ + ({a} : Multiset (ℕ × Bool)) = (a ::ₘ ↑(rest.filterMap TcpControlCmd.answer)) + 0
      rw [Multiset.add_zero]
      exact Multiset.add_comm _ {a}
  · show l.granted = x.loop.granted
    rw [hready, hgranted]
    rfl

theorem deliver_steps (hx : x.Local) (active : Bool) : Steps x y (x.deliver active) y := by
  unfold deliver
  split
  · rename_i req rest hready hbox
    -- the loop takes the request, and then goes on
    have hface : face { x with inbox := rest, loop := .deciding req } = x.face :=
      face_pop hready hbox rfl rfl rfl rfl
    have hlocal : Local { x with inbox := rest, loop := .deciding req } :=
      ⟨hx.first, hx.claiming, trivial, hx.recent⟩
    dsimp only
    split
    · have hstop : Steps { x with inbox := rest, loop := .deciding req } y
          { x with inbox := rest, loop := .stopped } y :=
        ⟨hlocal.go trivial, loop_drops_claim rfl empty_stopped⟩
      exact hstop.of_face hface
    · split
      · exact Steps.of_face ((Calm.refl _).steps hlocal) hface
      · have hunknown : Steps { x with inbox := rest, loop := .deciding req } y
            { x with
              inbox := rest
              loop := .processed ⟨claimResponseCmd req (.err .protocolError), none, none⟩ } y :=
          ⟨hlocal.go trivial, loop_refuses rfl rfl⟩
        exact hunknown.of_face hface
  · rename_i ack rest hready hbox
    have hface : face { x with inbox := rest, loop := .waited ack } = x.face :=
      face_pop hready hbox rfl rfl rfl rfl
    have hlocal : Local { x with inbox := rest, loop := .waited ack } :=
      ⟨hx.first, hx.claiming, trivial, hx.recent⟩
    dsimp only
    split
    · exact Steps.of_face ((Calm.refl _).steps hlocal) hface
    · have hdrop : Steps { x with inbox := rest, loop := .waited ack } y
          { x with inbox := rest, loop := .ready } y :=
        ⟨hlocal.go trivial, loop_drops_receipt rfl empty_ready⟩
      rw [← hready] at hdrop
      exact hdrop.of_face hface
  · rename_i cmd rest hready hbox
    have hface : face { x with inbox := rest, loop := .ready } = x.face :=
      face_pop hready hbox rfl rfl rfl rfl
    have hlocal : Local { x with inbox := rest } := ⟨hx.first, hx.claiming, hx.loop, hx.recent⟩
    rw [← hready] at hface
    exact (arrive_steps hlocal hready cmd).of_face hface
  · exact (Calm.refl x).steps hx

/-- The number after the last lease, short of the wrap. -/
theorem nextLeaseSeq_val {seq : TcpLeaseSeq} (h : seq.val ≠ 2 ^ 32 - 1) :
    (nextLeaseSeq seq).val = seq.val + 1 := by
  have hlt := seq.isLt
  have hval : (seq + 1).val = seq.val + 1 := by
    rw [Fin.val_add]
    show (seq.val + 1) % 2 ^ 32 = seq.val + 1
    exact Nat.mod_eq_of_lt (by omega)
  have hne : seq + 1 ≠ 0 := by
    intro hzero
    rw [hzero] at hval
    have hval' : 0 = seq.val + 1 := hval
    omega
  unfold nextLeaseSeq
  rw [if_neg hne]
  exact hval

theorem startClaim_steps (hx : x.Local) (hs : x.state.status = .free)
    (hc : c.leaseSeq.val = x.committedLeaseSeq.val + 1) : Steps x y (x.startClaim c) y := by
  have hface : (x.startClaim c).face =
      { x.face with status := .claiming c, sent := c ::ₘ x.face.sent } := by
    refine Face.ext rfl rfl rfl rfl rfl ?_ rfl rfl rfl rfl
    show claims (x.opening ++ [c.request x.connId]) + claims x.sending + claims x.resetting = _
    rw [claims_concat, Multiset.cons_add, Multiset.cons_add]
    rfl
  refine ⟨⟨?_, ?_, hx.loop, hx.recent⟩, ?_⟩
  · rintro ⟨⟩
  · rintro c' ⟨⟩
    exact hc
  · rw [hface]
    exact Face.moves_claim hs hc

theorem claimEntry_steps (hx : x.Local) (hmax : x.committedLeaseSeq.val ≠ 2 ^ 32 - 1)
    (kind : TcpChannelKind) (purpose : TunnelPurpose) (channelId : TcpChannelId) (nonce : U64) :
    Steps x y (x.claimEntry kind purpose channelId nonce) y := by
  unfold claimEntry
  split
  · rename_i hs
    split
    · refine startClaim_steps hx (by rw [hs]; rfl) ?_
      rw [hx.first hs]
      rfl
    · exact (Calm.refl x).steps hx
  · rename_i hs
    exact startClaim_steps hx (by rw [hs]; rfl) (nextLeaseSeq_val hmax)
  · exact (Calm.refl x).steps hx

theorem registerClaim_steps (hx : x.Local) (i : Nat) : Steps x y (x.registerClaim i) y := by
  unfold registerClaim
  split
  · rename_i req hi
    have hface : face { x with
        opening := x.opening.eraseIdx i
        sending := x.sending ++ [req]
        pendingClaims := x.pendingClaims.insert req.channelId } = x.face := by
      refine Face.ext rfl rfl rfl rfl rfl ?_ rfl rfl rfl rfl
      show claims (x.opening.eraseIdx i) + claims (x.sending ++ [req]) + claims x.resetting =
        claims x.opening + claims x.sending + claims x.resetting
      rw [claims_concat, claims_eraseIdx hi, Multiset.add_cons, Multiset.cons_add,
        Multiset.cons_add, Multiset.cons_add]
    refine ⟨⟨hx.first, hx.claiming, hx.loop, hx.recent⟩, ?_⟩
    rw [hface]
    exact Face.moves_stay rfl rfl rfl rfl
  · exact (Calm.refl x).steps hx

/-- What is sent to an end goes to the end of its inbox. -/
theorem face_inbox (y : TcpTunnel) (cmd : TcpControlCmd) :
    face { y with inbox := y.inbox ++ [cmd] } =
      { y.face with
        asked := ↑cmd.claim.toList + y.face.asked
        received := ↑cmd.answer.toList + y.face.received } := by
  refine Face.ext rfl rfl rfl rfl rfl rfl ?_ rfl ?_ rfl
  · show (↑((y.inbox ++ [cmd]).filterMap TcpControlCmd.claim) : Multiset ClaimingState) +
      ↑y.loop.claim.toList = _ + (↑(y.inbox.filterMap TcpControlCmd.claim) + _)
    rw [List.filterMap_append, ← Multiset.coe_add, ← Multiset.add_assoc]
    congr 1
    rw [Multiset.add_comm]
    cases cmd <;> rfl
  · show (↑((y.inbox ++ [cmd]).filterMap TcpControlCmd.answer) : Multiset (ℕ × Bool)) +
      ↑y.loop.receipt.toList = _ + (↑(y.inbox.filterMap TcpControlCmd.answer) + _)
    rw [List.filterMap_append, ← Multiset.coe_add, ← Multiset.add_assoc]
    congr 1
    rw [Multiset.add_comm]
    cases cmd <;> rfl

theorem sendClaim_steps (hx : x.Local) (i : Nat) (ok : Bool) :
    Steps x y (x.sendClaim y i ok).1 (x.sendClaim y i ok).2 := by
  unfold sendClaim
  split
  · rename_i req hi
    dsimp only
    split
    · refine ⟨⟨hx.first, hx.claiming, hx.loop, hx.recent⟩, ?_⟩
      have hy := face_inbox y (.claimConnReq req)
      -- the request goes from the one end to the other
      refine Face.moves_stay rfl rfl ?_ ?_
      · rw [hy]
        refine Half.ext rfl rfl rfl ?_ rfl rfl rfl
        show claims x.opening + claims (x.sending.eraseIdx i) + claims x.resetting +
          (↑[req.claiming] + y.face.asked) = claims x.opening + claims x.sending +
            claims x.resetting + y.face.asked
        rw [claims_eraseIdx hi, Multiset.add_cons, Multiset.cons_add, Multiset.cons_add,
          ← Multiset.add_cons]
        rfl
      · rw [hy]
        refine Half.ext rfl rfl rfl rfl ?_ ?_ rfl
        · show ofKind false (0 + y.face.received + x.face.answered) = _
          rw [Multiset.zero_add]
          rfl
        · show ofKind true (0 + y.face.received + x.face.answered) = _
          rw [Multiset.zero_add]
          rfl
    · have hface : face { x with
          sending := x.sending.eraseIdx i
          pendingClaims := x.pendingClaims.erase req.channelId
          resetting := x.resetting ++ [req] } = x.face := by
        refine Face.ext rfl rfl rfl rfl rfl ?_ rfl rfl rfl rfl
        show claims x.opening + claims (x.sending.eraseIdx i) + claims (x.resetting ++ [req]) =
          claims x.opening + claims x.sending + claims x.resetting
        rw [claims_concat, claims_eraseIdx hi, Multiset.add_cons, Multiset.add_cons,
          Multiset.cons_add]
      refine ⟨⟨hx.first, hx.claiming, hx.loop, hx.recent⟩, ?_⟩
      rw [hface]
      exact Face.moves_stay rfl rfl rfl rfl
  · exact (Calm.refl x).steps hx

/-- The entry may be bound to `req`: it is not retired, and in no claim that beats the request. -/
def mayBind (x : TcpTunnel) (req : ClaimConnReq) : Bool :=
  match x.state with
  | .retired => false
  | .claiming c => !localSimultaneousClaimWins x.localId x.remoteId c.claimNonce req.claimNonce
  | _ => true

/-- The entry may be reset for `req`: it is not retired, and in no other claim. -/
def mayReset (x : TcpTunnel) (req : ClaimConnReq) : Bool :=
  match x.state with
  | .retired => false
  | .claiming c => c = req.claiming
  | _ => true

theorem unclaimed_status (x : TcpTunnel) : x.unclaimed.status = .free := by
  unfold unclaimed
  split <;> rfl

theorem unclaimed_first (h : x.unclaimed = .firstClaimPending) : x.committedLeaseSeq = 0 := by
  unfold unclaimed at h
  split_ifs at h with hfirst
  simp only [Bool.and_eq_true, decide_eq_true_eq] at hfirst
  exact hfirst.2

theorem unclaimed_ne_claiming (x : TcpTunnel) (c : ClaimingState) : x.unclaimed ≠ .claiming c := by
  unfold unclaimed
  split <;> simp

theorem resetClaim_steps (hx : x.Local) (i : Nat)
    (hmay : ∀ req, x.resetting[i]? = some req → x.mayReset req = true) :
    Steps x y (x.resetClaim i) y := by
  unfold resetClaim
  split
  · rename_i req hi
    have hreq := hmay req hi
    have hsent : x.face.sent = req.claiming ::ₘ
        (claims x.opening + claims x.sending + claims (x.resetting.eraseIdx i)) := by
      show claims x.opening + claims x.sending + claims x.resetting = _
      rw [claims_eraseIdx hi, Multiset.add_cons]
    have hface : face { x with
        resetting := x.resetting.eraseIdx i
        state := x.unclaimed } =
        { x.face with
          status := .free
          sent := claims x.opening + claims x.sending + claims (x.resetting.eraseIdx i) } :=
      Face.ext rfl rfl rfl x.unclaimed_status rfl rfl rfl rfl rfl rfl
    refine ⟨⟨unclaimed_first, fun c hc => absurd hc (x.unclaimed_ne_claiming c), hx.loop,
      hx.recent⟩, ?_⟩
    rw [hface]
    refine Face.moves_reset hsent ?_ ?_
    · intro hret
      unfold mayReset at hreq
      rw [DataConnEntryState.eq_retired hret] at hreq
      cases hreq
    · intro c' hc'
      unfold mayReset at hreq
      rw [DataConnEntryState.eq_claiming hc'] at hreq
      exact of_decide_eq_true hreq
  · exact (Calm.refl x).steps hx

/-! ### `process_claim_req` and `handle_claim_ack` -/

theorem AcceptRefusal.result_ne (reason : AcceptRefusal) : reason.result ≠ .success := by
  cases reason <;> simp [AcceptRefusal.result]

/-- An answer that refuses the request in the hands of the loop. -/
theorem refuse_steps (hx : x.Local) {req : ClaimConnReq} (hclaim : x.loop.claim = some req.claiming)
    {result : ClaimConnAckResult} (hresult : result ≠ .success)
    (localChannelId : Option TcpChannelId) :
    Steps x y { x with loop := refuse req result localChannelId } y := by
  refine ⟨hx.go fun h => absurd h hresult, loop_refuses hclaim ?_⟩
  show some (req.leaseSeq.val, decide (result = .success)) = _
  rw [decide_eq_false hresult]
  rfl

/-- A decision for which the target is checked. -/
theorem decisionOnState_spec (hx : x.Local) (hmax : x.committedLeaseSeq.val ≠ 2 ^ 32 - 1)
    (req : ClaimConnReq) :
    (∃ result, result ≠ .success ∧ x.decisionOnState req = .ready (.err result)) ∨
      ∃ decision, x.decisionOnState req = .checkThen decision ∧
        (Loop.checking req decision).Fits x.committedLeaseSeq := by
  unfold decisionOnState
  split
  · exact .inl ⟨_, by simp, rfl⟩
  · rename_i hs
    unfold validateRemoteFirstClaim
    split_ifs with hseq hlocal
    · exact .inl ⟨_, by simp, rfl⟩
    · exact .inl ⟨_, by simp, rfl⟩
    · refine .inr ⟨_, rfl, ?_⟩
      have hone : req.leaseSeq = 1 := not_not.mp hseq
      show req.leaseSeq.val = _
      rw [hone, hx.first hs]
      rfl
  · split_ifs with hseq
    · exact .inl ⟨_, by simp, rfl⟩
    · refine .inr ⟨_, rfl, ?_⟩
      show req.leaseSeq.val = _
      rw [not_not.mp hseq]
      exact nextLeaseSeq_val hmax
  · rename_i c hs
    split_ifs with hseq hwin
    · exact .inl ⟨_, by simp, rfl⟩
    · exact .inr ⟨_, rfl, trivial⟩
    · refine .inr ⟨_, rfl, ?_⟩
      show req.leaseSeq.val = _
      rw [not_not.mp hseq]
      exact hx.claiming c hs
  · exact .inl ⟨_, by simp, rfl⟩
  · exact .inl ⟨_, by simp, rfl⟩

theorem decide_steps (hx : x.Local) (hmax : x.committedLeaseSeq.val ≠ 2 ^ 32 - 1)
    {req : ClaimConnReq} (hloop : x.loop = .deciding req) : Steps x y x.go y := by
  have hclaim : x.loop.claim = some req.claiming := by rw [hloop]; rfl
  have hready : ∀ {decision}, x.decisionPlan req = .ready decision →
      x.go = { x with loop := onDecision req decision } := by
    intro decision hplan
    simp only [go, hloop, hplan]
  have hstate : x.decisionPlan req = x.decisionOnState req → Steps x y x.go y := by
    intro hplan
    obtain ⟨result, hne, heq⟩ | ⟨decision, heq, hfits⟩ := decisionOnState_spec hx hmax req
    · rw [hready (hplan.trans heq)]
      exact refuse_steps hx hclaim hne none
    · have hgo : x.go = { x with loop := .checking req decision } := by
        simp only [go, hloop, hplan, heq]
      rw [hgo]
      exact steps_claim hx hclaim rfl hfits
  cases hrecent : x.recentClaim with
  | none => exact hstate (by unfold decisionPlan; rw [hrecent])
  | some record =>
    by_cases hseq : record.leaseSeq = req.leaseSeq
    · by_cases hmatch : claimRecordMatches req record = true
      · -- the recorded answer is given again
        have hplan : x.decisionPlan req = .ready (.replay record.response) := by
          unfold decisionPlan
          rw [hrecent]
          exact (if_pos hseq).trans (if_pos hmatch)
        rw [hready hplan]
        refine ⟨hx.go trivial, ?_⟩
        by_cases hsuccess : record.response.result = .success
        · refine loop_replays hclaim ?_ ?_
          · show some (req.leaseSeq.val, decide (record.response.result = .success)) = _
            rw [decide_eq_true hsuccess]
            rfl
          · show req.leaseSeq.val ≤ _
            rw [← hseq]
            exact hx.recent record hrecent hsuccess
        · refine loop_refuses hclaim ?_
          show some (req.leaseSeq.val, decide (record.response.result = .success)) = _
          rw [decide_eq_false hsuccess]
          rfl
      · have hplan : x.decisionPlan req = .ready (.err .protocolError) := by
          unfold decisionPlan
          rw [hrecent]
          exact (if_pos hseq).trans (if_neg hmatch)
        rw [hready hplan]
        exact refuse_steps hx hclaim (by simp) none
    · exact hstate (by unfold decisionPlan; rw [hrecent]; exact if_neg hseq)

theorem bindEntryToLease_face (x : TcpTunnel) (c : ClaimingState) (localInitiator : Bool) :
    (x.bindEntryToLease c.channelId c.leaseSeq c.kind c.purpose localInitiator).face =
      { x.face with
        round := c.key.round
        status := .held
        log := x.face.log ++ [(c.key, localInitiator)] } := by
  refine Face.ext rfl rfl rfl rfl ?_ rfl rfl rfl rfl rfl
  show (x.leases ++ [_]).map LeaseContext.entry = x.leases.map LeaseContext.entry ++ _
  rw [List.map_append, List.map_singleton, (LeaseContext.absorb_intact ..).entry]
  rfl

theorem bindRequest_steps (hx : x.Local) {req : ClaimConnReq} {localChannelId : Option TcpChannelId}
    (hloop : x.loop = .binding req localChannelId) (hmay : x.mayBind req = true) :
    Steps x y (x.bindRequest req localChannelId) y := by
  have hclaim : x.loop.claim = some req.claiming := by rw [hloop]; rfl
  have hfits : req.leaseSeq.val = x.committedLeaseSeq.val + 1 := by
    have h := hx.loop
    rw [hloop] at h
    exact h
  have hface : (x.bindRequest req localChannelId).face =
      { x.face with
        round := x.face.round + 1
        status := .held
        log := x.face.log ++ [(req.claiming.key, false)]
        asked := x.asks
        answered := (req.claiming.key.round, true) ::ₘ x.face.answered } := by
    have hbound := x.bindEntryToLease_face req.claiming false
    have hanswers := face_answers (x := x.bindEntryToLease req.claiming.channelId
      req.claiming.leaseSeq req.claiming.kind req.claiming.purpose false)
      (l := .recording (req.record .ack) ⟨claimResponseCmd req .ack, some x.leases.length,
        localChannelId⟩) (c := req.claiming) (n := req.leaseSeq.val) (b := true) hclaim rfl
    rw [hbound] at hanswers
    refine hanswers.trans (Face.ext rfl rfl hfits rfl rfl rfl rfl rfl rfl rfl)
  refine ⟨⟨?_, ?_, fun _ => le_rfl, ?_⟩, ?_⟩
  · rintro ⟨⟩
  · rintro c ⟨⟩
  · intro record hrecord hsuccess
    have hle := hx.recent record hrecord hsuccess
    show record.leaseSeq.val ≤ req.leaseSeq.val
    omega
  · rw [hface]
    refine Face.moves_accept (face_asked hclaim) hfits ?_ ?_ ?_
    · intro hret
      unfold mayBind at hmay
      rw [DataConnEntryState.eq_retired hret] at hmay
      cases hmay
    · intro c' hc' hwins
      unfold mayBind at hmay
      rw [DataConnEntryState.eq_claiming hc'] at hmay
      have hwins' : localSimultaneousClaimWins x.localId x.remoteId c'.claimNonce req.claimNonce =
        true := hwins
      simp [hwins'] at hmay
    · show x.loop.granted = none
      rw [hloop]
      rfl

theorem claimOf_some {ack : ClaimConnAck} (h : x.claimOf ack = some c) :
    x.state = .claiming c ∧ c.leaseSeq = ack.leaseSeq := by
  unfold claimOf at h
  split at h
  · rename_i c' hs
    split_ifs at h with hmatch
    cases h
    exact ⟨hs, hmatch.2⟩
  · cases h

theorem found_steps (hx : x.Local) {ack : ClaimConnAck} (hloop : x.loop = .found ack) :
    Steps x y x.go y := by
  have hreceipt : x.loop.receipt = some ack.answer := by rw [hloop]; rfl
  cases hclaim : x.claimOf ack with
  | none =>
    have hgo : x.go = { x with loop := .ready } := by simp only [go, hloop, hclaim]
    rw [hgo]
    exact ⟨hx.go trivial, loop_drops_receipt hreceipt empty_ready⟩
  | some c =>
    obtain ⟨hstate, hseq⟩ := claimOf_some hclaim
    have hnext := hx.claiming c hstate
    by_cases hsuccess : ack.result = .success
    · have hgo : x.go = { x with loop := .acked c } := by
        simp only [go, hloop, hclaim, if_pos hsuccess]
      have hanswer : ack.answer = (c.key.round, true) := by
        show (ack.leaseSeq.val, decide (ack.result = .success)) = _
        rw [decide_eq_true hsuccess, ← hseq]
        rfl
      have hface : face { x with loop := .acked c } = { x.face with confirming := some c } := by
        refine Face.ext rfl rfl rfl rfl rfl rfl ?_ ?_ ?_ rfl
        · show x.asks + 0 = x.asks + ↑x.loop.claim.toList
          rw [hloop]
          rfl
        · show (0 : Multiset (ℕ × Bool)) = ↑x.loop.answer.toList
          rw [hloop]
          rfl
        · show x.acks + ↑[(c.key.round, true)] = x.acks + ↑x.loop.receipt.toList
          rw [hreceipt, hanswer]
          rfl
      rw [hgo]
      refine ⟨hx.go hnext, ?_⟩
      rw [hface]
      refine Face.moves_hear (congrArg DataConnEntryState.status hstate) ?_
      rw [face_received hreceipt, hanswer]
      exact Multiset.mem_cons_self _ _
    · have hgo : x.go = { x with loop := .failing ack } := by
        simp only [go, hloop, hclaim, if_neg hsuccess]
      have hfits : ack.answer = (x.committedLeaseSeq.val + 1, false) := by
        show (ack.leaseSeq.val, decide (ack.result = .success)) = _
        rw [decide_eq_false hsuccess, ← hseq, hnext]
      rw [hgo]
      refine steps_receipt hx hreceipt rfl ?_ hfits
      rw [hloop]
      rfl

/-- A claim that was refused: the entry is as before the claim, unless it was bound meanwhile. -/
theorem failing_steps (hx : x.Local) {ack : ClaimConnAck} (hloop : x.loop = .failing ack) :
    Steps x y { x with state := x.failClaim ack.result, loop := .telling ack.channelId } y := by
  have hreceipt : x.loop.receipt = some ack.answer := by rw [hloop]; rfl
  have hfits : ack.answer = (x.committedLeaseSeq.val + 1, false) := by
    have h := hx.loop
    rw [hloop] at h
    exact h
  have htold : Loop.Empty (.telling ack.channelId) := ⟨rfl, rfl, rfl, rfl⟩
  have hreset : Steps x y { x with state := x.unclaimed, loop := .telling ack.channelId } y := by
    have hface : face { x with state := x.unclaimed, loop := .telling ack.channelId } =
        { x.face with status := .free, received := x.acks } := by
      refine (face_empty (x := { x with state := x.unclaimed }) htold).trans ?_
      refine Face.ext rfl rfl rfl x.unclaimed_status rfl rfl ?_ ?_ rfl ?_
      · show x.asks = x.asks + ↑x.loop.claim.toList
        rw [hloop]
        exact (Multiset.add_zero _).symm
      · show 0 = (↑x.loop.answer.toList : Multiset (ℕ × Bool))
        rw [hloop]
        rfl
      · show none = x.loop.granted
        rw [hloop]
        rfl
    refine ⟨⟨unclaimed_first, fun c hc => absurd hc (x.unclaimed_ne_claiming c), trivial,
      hx.recent⟩, ?_⟩
    rw [hface]
    refine Face.moves_turn ?_
    rw [face_received hreceipt, hfits]
    rfl
  have hstays : Steps x y { x with loop := .telling ack.channelId } y :=
    ⟨hx.go trivial, loop_drops_receipt hreceipt htold⟩
  unfold failClaim
  split
  · split
    · rename_i i hs
      rw [← hs]
      exact hstays
    · rename_i i hs
      rw [← hs]
      exact hstays
    · exact hreset
  · exact hreset

theorem confirm_steps (hx : x.Local) (hloop : x.loop = .confirming c) :
    Steps x y { x.bindEntryToLease c.channelId c.leaseSeq c.kind c.purpose true with
      loop := .telling c.channelId } y := by
  have hreceipt : x.loop.receipt = some (c.key.round, true) := by rw [hloop]; rfl
  have hfits : c.leaseSeq.val = x.committedLeaseSeq.val + 1 := by
    have h := hx.loop
    rw [hloop] at h
    exact h
  have htold : Loop.Empty (.telling c.channelId) := ⟨rfl, rfl, rfl, rfl⟩
  have hface : face { x.bindEntryToLease c.channelId c.leaseSeq c.kind c.purpose true with
        loop := .telling c.channelId } =
      { x.face with
        round := x.face.round + 1
        status := .held
        log := x.face.log ++ [(c.key, true)]
        received := x.acks
        confirming := none } := by
    have hempty := face_empty
      (x := x.bindEntryToLease c.channelId c.leaseSeq c.kind c.purpose true) htold
    rw [bindEntryToLease_face x c true] at hempty
    refine hempty.trans (Face.ext rfl rfl hfits rfl rfl rfl ?_ ?_ rfl rfl)
    · show x.asks = x.asks + ↑x.loop.claim.toList
      rw [hloop]
      exact (Multiset.add_zero _).symm
    · show 0 = (↑x.loop.answer.toList : Multiset (ℕ × Bool))
      rw [hloop]
      rfl
  refine ⟨⟨?_, ?_, trivial, ?_⟩, ?_⟩
  · rintro ⟨⟩
  · rintro c' ⟨⟩
  · intro record hrecord hsuccess
    have hle := hx.recent record hrecord hsuccess
    show record.leaseSeq.val ≤ c.leaseSeq.val
    omega
  · rw [hface]
    refine Face.moves_confirm ?_ (face_received hreceipt)
    show x.loop.granted = some c
    rw [hloop]
    rfl

/-- What the claims and the answers of an end do not depend on. -/
theorem Steps.stream (h : Steps x y x' y) (stream : Bool) :
    Steps x y { x' with stream := stream } y :=
  ⟨⟨h.1.first, h.1.claiming, h.1.loop, h.1.recent⟩, h.2⟩

theorem go_steps (hx : x.Local) (hmax : x.committedLeaseSeq.val ≠ 2 ^ 32 - 1)
    (hmay : ∀ req localChannelId, x.loop = .binding req localChannelId → x.mayBind req = true) :
    Steps x y x.go y := by
  have hfits := hx.loop
  cases hloop : x.loop with
  | deciding req => exact decide_steps hx hmax hloop
  | taking req localChannelId =>
    rw [hloop] at hfits
    have hclaim : x.loop.claim = some req.claiming := by rw [hloop]; rfl
    simp only [go, hloop]
    split
    · exact (steps_claim hx hclaim (l := .binding req localChannelId) rfl hfits).stream false
    · exact ⟨hx.go trivial, loop_drops_claim hclaim empty_stopped⟩
  | binding req localChannelId =>
    simp only [go, hloop]
    exact bindRequest_steps hx hloop (hmay req localChannelId hloop)
  | recording record p =>
    rw [hloop] at hfits
    have hgo : x.go = { x with recentClaim := some record, loop := .processed p } := by
      simp only [go, hloop]
    have hface : face { x with recentClaim := some record, loop := .processed p } = x.face :=
      face_holds_answer (a := p.response.answer) (by rw [hloop]; rfl) rfl
    rw [hgo]
    refine ⟨⟨hx.first, hx.claiming, trivial, ?_⟩, ?_⟩
    · rintro record' ⟨⟩
      exact hfits
    · rw [hface]
      exact Face.moves_stay rfl rfl rfl rfl
  | waited ack =>
    have hreceipt : x.loop.receipt = some ack.answer := by rw [hloop]; rfl
    simp only [go, hloop]
    split
    · exact steps_receipt hx hreceipt rfl (by rw [hloop]; rfl) trivial
    · exact ⟨hx.go trivial, loop_drops_receipt hreceipt ⟨rfl, rfl, rfl, rfl⟩⟩
  | found ack => exact found_steps hx hloop
  | failing ack =>
    simp only [go, hloop]
    exact failing_steps hx hloop
  | acked c =>
    rw [hloop] at hfits
    have hreceipt : x.loop.receipt = some (c.key.round, true) := by rw [hloop]; rfl
    simp only [go, hloop]
    split
    · exact (steps_receipt hx hreceipt (l := .confirming c) rfl (by rw [hloop]; rfl) hfits).stream
        false
    · exact ⟨hx.go trivial, loop_drops_receipt hreceipt empty_stopped⟩
  | confirming c =>
    simp only [go, hloop]
    exact confirm_steps hx hloop
  | telling channelId =>
    have hempty : x.loop.Empty := by rw [hloop]; exact ⟨rfl, rfl, rfl, rfl⟩
    have h : Steps x y { x with loop := .ready } y := steps_empty hx hempty empty_ready trivial
    simp only [go, hloop]
    exact ⟨⟨h.1.first, h.1.claiming, h.1.loop, h.1.recent⟩, h.2⟩
  | handling i cmd =>
    have hempty : x.loop.Empty := by rw [hloop]; exact ⟨rfl, rfl, rfl, rfl⟩
    have hface : face { x with loop := .ready } = x.face := by
      rw [face_goes (l := .ready) hempty.1.symm hempty.2.1.symm hempty.2.2.1.symm
        hempty.2.2.2.symm]
    simp only [go, hloop]
    exact ((x.handle_calm i cmd).steps (hx.go trivial)).of_face hface
  | ready | checking | reserving | processed | replying | stopped =>
    simp only [go, hloop]
    exact (Calm.refl x).steps hx

theorem checked_steps (hx : x.Local) (answer : Option AcceptRefusal) :
    Steps x y (x.checked answer) y := by
  have hfits := hx.loop
  unfold checked
  split
  · rename_i req decision hloop
    rw [hloop] at hfits
    have hclaim : x.loop.claim = some req.claiming := by rw [hloop]; rfl
    cases decision with
    | accept => exact steps_claim hx hclaim (l := .reserving req none) rfl hfits
    | conflictLose channelId =>
      exact steps_claim hx hclaim (l := .reserving req (some channelId)) rfl hfits
    | conflictWin => exact refuse_steps hx hclaim (by simp) none
    | replay => exact absurd hfits id
    | err => exact absurd hfits id
  · rename_i req decision reason hloop
    exact refuse_steps hx (by rw [hloop]; rfl) (AcceptRefusal.result_ne reason) none
  · exact (Calm.refl x).steps hx

theorem reserved_steps (hx : x.Local) (answer : Option AcceptRefusal) :
    Steps x y (x.reserved answer) y := by
  have hfits := hx.loop
  unfold reserved
  split
  · rename_i req localChannelId hloop
    rw [hloop] at hfits
    exact steps_claim hx (c := req.claiming) (by rw [hloop]; rfl)
      (l := .taking req localChannelId) rfl hfits
  · rename_i req localChannelId reason hloop
    exact refuse_steps hx (by rw [hloop]; rfl) (AcceptRefusal.result_ne reason) localChannelId
  · exact (Calm.refl x).steps hx

theorem enqueued_steps (hx : x.Local) (ok : Bool) : Steps x y (x.enqueued ok) y := by
  unfold enqueued
  split
  · rename_i p hloop
    have hanswer : x.loop.answer = some p.response.answer := by rw [hloop]; rfl
    have hstop : ∀ claims, Steps x y { x with pendingClaims := claims, loop := .stopped } y :=
      fun _ => ⟨⟨hx.first, hx.claiming, trivial, hx.recent⟩,
        loop_drops_answer hanswer empty_stopped⟩
    have hreply : ∀ claims,
        Steps x y { x with pendingClaims := claims, loop := .replying p.response } y := by
      intro claims
      have hface : face { x with pendingClaims := claims, loop := .replying p.response } =
        x.face := face_holds_answer hanswer rfl
      refine ⟨⟨hx.first, hx.claiming, trivial, hx.recent⟩, ?_⟩
      rw [hface]
      exact Face.moves_stay rfl rfl rfl rfl
    dsimp only
    split
    · split
      · exact hstop _
      · exact hstop _
    · split
      · exact hreply _
      · exact hreply _
  · exact (Calm.refl x).steps hx

theorem reply_steps (hx : x.Local) (ok : Bool) : Steps x y (x.reply y ok).1 (x.reply y ok).2 := by
  unfold reply
  split
  · rename_i ack hloop
    have hanswer : x.loop.answer = some ack.answer := by rw [hloop]; rfl
    split
    · have hx' : face { x with loop := .ready } = { x.face with answered := 0 } := by
        rw [face_empty empty_ready]
        refine Face.ext rfl rfl rfl rfl rfl rfl ?_ rfl ?_ ?_
        · show x.asks = x.asks + ↑x.loop.claim.toList
          rw [hloop]
          exact (Multiset.add_zero _).symm
        · show x.acks = x.acks + ↑x.loop.receipt.toList
          rw [hloop]
          exact (Multiset.add_zero _).symm
        · show none = x.loop.granted
          rw [hloop]
          rfl
      have hy := face_inbox y (.claimConnAck ack)
      -- the answer goes from the one end to the other
      have hmoved : (↑[ack.answer] : Multiset (ℕ × Bool)) + y.face.received + 0 =
          y.face.received + x.face.answered := by
        rw [Multiset.add_zero, face_answered hanswer, Multiset.add_comm]
        rfl
      refine ⟨hx.go trivial, Face.moves_stay rfl rfl ?_ ?_⟩
      · rw [hx', hy]
        refine Half.ext rfl rfl rfl ?_ rfl rfl rfl
        show x.face.sent + (0 + y.face.asked) = _
        rw [Multiset.zero_add]
        rfl
      · rw [hx', hy]
        exact Half.ext rfl rfl rfl rfl (congrArg (ofKind false) hmoved)
          (congrArg (ofKind true) hmoved) rfl
    · exact ⟨hx.go trivial, loop_drops_answer hanswer empty_stopped⟩
  · exact (Calm.refl x).steps hx

theorem sendDrain_steps (hx : x.Local) (i : Nat) (ok : Bool) :
    Steps x y (x.sendDrain y i ok).1 (x.sendDrain y i ok).2 := by
  unfold sendDrain
  split
  · rename_i cmd hi
    dsimp only
    split
    · have hy : face { y with inbox := y.inbox ++ [.drain cmd] } = y.face := by
        rw [face_inbox]
        refine Face.ext rfl rfl rfl rfl rfl rfl ?_ rfl ?_ rfl
        · exact Multiset.zero_add _
        · exact Multiset.zero_add _
      refine ⟨⟨hx.first, hx.claiming, hx.loop, hx.recent⟩, ?_⟩
      rw [hy]
      exact Face.moves_stay rfl rfl rfl rfl
    · exact ⟨⟨hx.first, hx.claiming, hx.loop, hx.recent⟩, Face.moves_stay rfl rfl rfl rfl⟩
  · exact (Calm.refl x).steps hx

/-- The step `e` of `x` meets the condition: the sequence does not wrap around, a request is bound
only while it is not beaten, and a failed send resets only its own claim. -/
def meets (x : TcpTunnel) (e : ClaimEvent) : Bool :=
  x.committedLeaseSeq.val ≠ 2 ^ 32 - 1 &&
    match e with
    | .go =>
      match x.loop with
      | .binding req _ => x.mayBind req
      | _ => true
    | .reset i =>
      match x.resetting[i]? with
      | some req => x.mayReset req
      | none => true
    | _ => true

/-- **Every step that meets the condition is a move.** -/
theorem act_steps (hx : x.Local) {e : ClaimEvent} (hmeets : x.meets e = true) :
    Steps x y (x.act y e).1 (x.act y e).2 := by
  have hcond := hmeets
  unfold meets at hcond
  rw [Bool.and_eq_true, decide_eq_true_eq] at hcond
  obtain ⟨hmax, hstep⟩ := hcond
  cases e with
  | claim kind purpose channelId nonce => exact claimEntry_steps hx hmax kind purpose channelId nonce
  | register i => exact registerClaim_steps hx i
  | sendClaim i ok => exact sendClaim_steps hx i ok
  | reset i =>
    refine resetClaim_steps hx i fun req hi => ?_
    dsimp only at hstep
    rw [hi] at hstep
    exact hstep
  | forget channelId => exact Calm.steps { Calm.refl x with } hx
  | deliver active => exact deliver_steps hx active
  | go =>
    refine go_steps hx hmax fun req localChannelId hloop => ?_
    dsimp only at hstep
    rw [hloop] at hstep
    exact hstep
  | checked answer => exact checked_steps hx answer
  | reserved answer => exact reserved_steps hx answer
  | enqueued ok => exact enqueued_steps hx ok
  | reply ok => exact reply_steps hx ok
  | lease i e =>
    simp only [act]
    split
    · rename_i lease hi
      exact (useLease_calm hi e).steps hx
    · exact (Calm.refl x).steps hx
  | run i =>
    simp only [act]
    split
    · rename_i chore hi
      exact Calm.steps { runChore_calm { x with todo := x.todo.eraseIdx i } chore with } hx
    · exact (Calm.refl x).steps hx
  | sendDrain i ok => exact sendDrain_steps hx i ok
  | abandon => exact x.retirePlainEntry_calm.steps hx
  | close => exact x.close_calm.steps hx

end TcpTunnel

/-! ## The two ends -/

theorem TcpTunnel.act_other (x y : TcpTunnel) (e : ClaimEvent) :
    ∃ inbox, (x.act y e).2 = { y with inbox := inbox } := by
  cases e with
  | sendClaim i ok =>
    simp only [TcpTunnel.act, TcpTunnel.sendClaim]
    split
    · split
      · exact ⟨_, rfl⟩
      · exact ⟨y.inbox, rfl⟩
    · exact ⟨y.inbox, rfl⟩
  | reply ok =>
    simp only [TcpTunnel.act, TcpTunnel.reply]
    split
    · split
      · exact ⟨_, rfl⟩
      · exact ⟨y.inbox, rfl⟩
    · exact ⟨y.inbox, rfl⟩
  | sendDrain i ok =>
    simp only [TcpTunnel.act, TcpTunnel.sendDrain]
    split
    · split
      · exact ⟨_, rfl⟩
      · exact ⟨y.inbox, rfl⟩
    · exact ⟨y.inbox, rfl⟩
  | lease i e =>
    simp only [TcpTunnel.act]
    split
    · exact ⟨y.inbox, rfl⟩
    · exact ⟨y.inbox, rfl⟩
  | run i =>
    simp only [TcpTunnel.act]
    split
    · exact ⟨y.inbox, rfl⟩
    · exact ⟨y.inbox, rfl⟩
  | _ => exact ⟨y.inbox, rfl⟩

/-- If the one claim is beaten by the other at one end, it beats it at the other end. -/
theorem wins_total {f g : Face} (hlocal : f.localId = g.remoteId) (hremote : f.remoteId = g.localId)
    (hne : f.localId ≠ f.remoteId) (c q : ClaimingState) (h : ¬ f.wins q c) : g.wins c q := by
  unfold Face.wins localSimultaneousClaimWins at h ⊢
  rw [← hlocal, ← hremote]
  by_cases hnonce : q.claimNonce = c.claimNonce
  · rw [if_pos hnonce, decide_eq_true_eq] at h
    rw [if_pos hnonce.symm, decide_eq_true_eq]
    exact lt_of_le_of_ne (le_of_not_gt h) hne
  · rw [if_neg hnonce, decide_eq_true_eq] at h
    rw [if_neg (Ne.symm hnonce), decide_eq_true_eq]
    exact lt_of_le_of_ne (le_of_not_gt h) hnonce

/-- What holds of the two ends. -/
structure Linked (x y : TcpTunnel) : Prop where
  localId : x.localId = y.remoteId
  remoteId : x.remoteId = y.localId
  distinct : x.localId ≠ x.remoteId
  left : x.Local
  right : y.Local
  sound : Sound LeaseKey.round ClaimingState.key x.face.wins y.face.wins (x.face.half y.face)
    (y.face.half x.face)

namespace Linked

variable {x y : TcpTunnel}

theorem symm (h : Linked x y) : Linked y x where
  localId := h.remoteId.symm
  remoteId := h.localId.symm
  distinct hid := h.distinct (by rw [h.localId, h.remoteId, hid])
  left := h.right
  right := h.left
  sound := h.sound.symm

theorem act (h : Linked x y) {e : ClaimEvent} (hmeets : x.meets e = true) :
    Linked (x.act y e).1 (x.act y e).2 := by
  obtain ⟨hlocal, hf, hg, hmove⟩ := TcpTunnel.act_steps (y := y) h.left hmeets
  obtain ⟨inbox, hother⟩ := x.act_other y e
  generalize (x.act y e).1 = x' at hlocal hf hmove ⊢
  generalize (x.act y e).2 = y' at hother hg hmove ⊢
  obtain ⟨hxl, hxr⟩ := Prod.mk.inj hf
  have hyl : y'.localId = y.localId := by rw [hother]
  have hyr : y'.remoteId = y.remoteId := by rw [hother]
  have hright : y'.Local := by
    rw [hother]
    exact ⟨h.right.first, h.right.claiming, h.right.loop, h.right.recent⟩
  have hwx : x'.face.wins = x.face.wins := by
    unfold Face.wins
    rw [hxl, hxr]
  have hwy : y'.face.wins = y.face.wins := by
    funext c c'
    show (localSimultaneousClaimWins y'.localId y'.remoteId _ _ = true) = _
    rw [hyl, hyr]
    rfl
  have hxl' : x'.localId = x.localId := hxl
  have hxr' : x'.remoteId = x.remoteId := hxr
  refine ⟨by rw [hxl', hyr, h.localId], by rw [hxr', hyl, h.remoteId],
    by rw [hxl', hxr']; exact h.distinct, hlocal, hright, ?_⟩
  rw [hwx, hwy]
  rcases hmove with hmove | hmove
  · exact h.sound.move (wins_total h.localId h.remoteId h.distinct) hmove
  · exact (h.sound.symm.move (wins_total h.symm.localId h.symm.remoteId h.symm.distinct) hmove).symm

end Linked

theorem TcpTunnel.new_local (localId remoteId : P2pId) (connId : TcpConnId) (first : Bool) :
    (TcpTunnel.new localId remoteId connId first).Local := by
  refine ⟨fun _ => rfl, ?_, trivial, ?_⟩
  · rintro c ⟨⟩
  · rintro record ⟨⟩

theorem owes_new (wins : ClaimingState → ClaimingState → Prop) (a b c d : P2pId)
    (connId : TcpConnId) (first first' : Bool) :
    Owes LeaseKey.round ClaimingState.key wins
      ((TcpTunnel.new a b connId first).face.half (TcpTunnel.new c d connId first').face)
      ((TcpTunnel.new c d connId first').face.half (TcpTunnel.new a b connId first).face) := by
  have hzero : ∀ n, Half.flight LeaseKey.round ClaimingState.key
      ((TcpTunnel.new a b connId first).face.half (TcpTunnel.new c d connId first').face) n = 0 :=
    fun n => rfl
  refine ⟨?_, ?_, ?_, ?_, Nat.zero_le 1, ?_, ?_, ?_, ?_, ?_, ?_⟩
  · rintro c ⟨⟩
  · exact fun c hc => absurd hc (Multiset.notMem_zero c)
  · exact fun n hn => absurd hn (Multiset.notMem_zero n)
  · exact fun n hn => absurd hn (Multiset.notMem_zero n)
  · exact fun g hg => absurd hg List.not_mem_nil
  · rw [hzero]
    exact Nat.zero_le 1
  · intro hpos
    rw [hzero] at hpos
    exact absurd hpos (lt_irrefl 0)
  · exact fun q hq => absurd hq (Multiset.notMem_zero q)
  · rintro c ⟨⟩
  · rintro ⟨⟩

namespace Link

theorem linked_start {activeId passiveId : P2pId} (hne : activeId ≠ passiveId) (connId : TcpConnId)
    (first : TunnelForm) :
    Linked (start activeId passiveId connId first).active
      (start activeId passiveId connId first).passive where
  localId := rfl
  remoteId := rfl
  distinct := hne
  left := TcpTunnel.new_local ..
  right := TcpTunnel.new_local ..
  sound := ⟨owes_new .., owes_new .., fun _ hg => absurd hg List.not_mem_nil⟩

theorem linked_step {s : Link} (h : Linked s.active s.passive) {i : TunnelForm × ClaimEvent}
    (hmeets : (s.tunnel i.1).meets i.2 = true) :
    Linked (s.step i).active (s.step i).passive := by
  obtain ⟨p, e⟩ := i
  cases p with
  | active => exact h.act hmeets
  | passive => exact (h.symm.act hmeets).symm

end Link

/-- The lease that the entry is bound to. -/
def TcpTunnel.held (x : TcpTunnel) : Option LeaseContext :=
  match x.state with
  | .bound i | .draining i => x.leases[i]?
  | _ => none

theorem TcpTunnel.held_mem {x : TcpTunnel} {l : LeaseContext} (h : x.held = some l) :
    l.entry ∈ x.face.log := by
  have hmem : l ∈ x.leases := by
    unfold TcpTunnel.held at h
    split at h
    · exact List.mem_of_getElem? h
    · exact List.mem_of_getElem? h
    · cases h
  exact List.mem_map_of_mem hmem

/-- Two leases are the two ends of one channel. -/
def LeaseContext.Agrees (l m : LeaseContext) : Prop :=
  l.channelId = m.channelId ∧ l.kind = m.kind ∧ l.purpose = m.purpose ∧
    l.localInitiator = !m.localInitiator

/-- Where both ends are bound to a lease with one number, it is one channel. -/
def Link.Agrees (s : Link) : Prop :=
  ∀ l m, s.active.held = some l → s.passive.held = some m → l.leaseSeq = m.leaseSeq → l.Agrees m

/-- **The leases of the two ends agree.**  In every run in which the entry is bound to a request only
while it is not retired and in no claim that beats the request, in which a failed send resets only
its own claim, and in which the sequence does not wrap around: leases with one number that the two
ends are bound to are for one channel, and exactly one of the ends is its initiator. -/
theorem leases_agree {activeId passiveId : P2pId} (hne : activeId ≠ passiveId) (connId : TcpConnId)
    (first : TunnelForm) (is : List (TunnelForm × ClaimEvent))
    (h : Along Link.step (fun s i => (s.tunnel i.1).meets i.2 = true)
      (Link.start activeId passiveId connId first) is) :
    (exec Link.step (Link.start activeId passiveId connId first) is).Agrees := by
  have hlinked : Linked (exec Link.step (Link.start activeId passiveId connId first) is).active
      (exec Link.step (Link.start activeId passiveId connId first) is).passive :=
    exec_inv (I := fun s : Link => Linked s.active s.passive)
      (fun s i hs hm => Link.linked_step hs hm) (Link.linked_start hne connId first) h
  generalize exec Link.step (Link.start activeId passiveId connId first) is = s at hlinked
  intro l m hl hm hseq
  obtain ⟨hkey, hmine⟩ := hlinked.sound.agree l.entry (TcpTunnel.held_mem hl) m.entry
    (TcpTunnel.held_mem hm) (congrArg Fin.val hseq)
  obtain ⟨-, hchannel, hkind, hpurpose⟩ := LeaseKey.mk.inj hkey
  exact ⟨hchannel, hkind, hpurpose, hmine⟩

namespace Link

/-- An end claims the connection, up to its request. -/
def asks (p : TunnelForm) (channelId : TcpChannelId) (nonce : U64) :
    List (TunnelForm × ClaimEvent) :=
  [(p, .claim .stream [3] channelId nonce), (p, .register 0), (p, .sendClaim 0 true)]

/-- An end reads a request and decides on it. -/
def decides (p : TunnelForm) : List (TunnelForm × ClaimEvent) := [(p, .deliver true), (p, .go)]

/-- An end accepts the request that it has decided on. -/
def accepts (p : TunnelForm) : List (TunnelForm × ClaimEvent) :=
  [(p, .checked none), (p, .reserved none), (p, .go), (p, .go), (p, .go), (p, .enqueued true),
    (p, .reply true)]

/-- An end reads the grant of its claim and binds the lease. -/
def confirms (p : TunnelForm) : List (TunnelForm × ClaimEvent) :=
  [(p, .deliver true), (p, .go), (p, .go), (p, .go), (p, .go), (p, .go)]

/-- An end lets both halves of its first lease go, and sends `WriteFin`. -/
def drops (p : TunnelForm) : List (TunnelForm × ClaimEvent) :=
  [(p, .lease 0 .dropRead), (p, .run 0), (p, .lease 0 .dropWrite), (p, .run 0), (p, .run 1),
    (p, .run 0), (p, .sendDrain 0 true), (p, .run 0)]

/-- An end reads `WriteFin`, and sends `ReadDone`. -/
def drains (p : TunnelForm) : List (TunnelForm × ClaimEvent) :=
  [(p, .deliver true), (p, .go), (p, .run 0), (p, .run 0), (p, .run 1), (p, .run 0),
    (p, .sendDrain 0 true), (p, .run 0)]

/-- An end reads `ReadDone`, and its entry is idle again. -/
def settles (p : TunnelForm) : List (TunnelForm × ClaimEvent) :=
  [(p, .deliver true), (p, .go), (p, .run 0), (p, .run 0)]

/-- The active end makes the first claim. -/
def opens : List (TunnelForm × ClaimEvent) :=
  asks .active 1 5 ++ decides .passive ++ accepts .passive ++ confirms .active

/-- After the first lease both ends claim at once: the passive end after it has decided to accept
the request of the active end, and before it binds the entry to it. -/
def crosses : List (TunnelForm × ClaimEvent) :=
  opens ++ drops .active ++ drops .passive ++ drains .active ++ drains .passive ++
    settles .active ++ settles .passive ++
    asks .active 2 5 ++ decides .passive ++ asks .passive 2147483649 9 ++ accepts .passive ++
    decides .active ++ accepts .active

end Link

/-- The first lease of a connection. -/
theorem leases_agree_opens :
    (exec Link.step (.start [1] [2] 7 .active) Link.opens).active.held.map LeaseContext.entry =
        some (⟨1, 1, .stream, [3]⟩, true) ∧
      (exec Link.step (.start [1] [2] 7 .active) Link.opens).passive.held.map LeaseContext.entry =
        some (⟨1, 1, .stream, [3]⟩, false) ∧
      (exec Link.step (.start [1] [2] 7 .active) Link.opens).Agrees :=
  ⟨by decide +kernel, by decide +kernel, leases_agree (by decide) 7 .active Link.opens
    (by decide +kernel)⟩

/-- Both ends are bound to a lease with the number 2, each to the claim of the other one. -/
theorem leases_cross :
    (exec Link.step (.start [1] [2] 7 .active) Link.crosses).active.held.map LeaseContext.entry =
        some (⟨2, 2147483649, .stream, [3]⟩, false) ∧
      (exec Link.step (.start [1] [2] 7 .active) Link.crosses).passive.held.map
        LeaseContext.entry = some (⟨2, 2, .stream, [3]⟩, false) ∧
      ¬ (exec Link.step (.start [1] [2] 7 .active) Link.crosses).Agrees := by
  have hactive : (exec Link.step (.start [1] [2] 7 .active) Link.crosses).active.held.map
      LeaseContext.entry = some (⟨2, 2147483649, .stream, [3]⟩, false) := by decide +kernel
  have hpassive : (exec Link.step (.start [1] [2] 7 .active) Link.crosses).passive.held.map
      LeaseContext.entry = some (⟨2, 2, .stream, [3]⟩, false) := by decide +kernel
  refine ⟨hactive, hpassive, fun hagree => ?_⟩
  obtain ⟨l, hl, hle⟩ := Option.map_eq_some_iff.mp hactive
  obtain ⟨m, hm, hme⟩ := Option.map_eq_some_iff.mp hpassive
  obtain ⟨hlk, hli⟩ := Prod.mk.inj hle
  obtain ⟨hmk, hmi⟩ := Prod.mk.inj hme
  obtain ⟨hlseq, hlch, -, -⟩ := LeaseKey.mk.inj hlk
  obtain ⟨hmseq, hmch, -, -⟩ := LeaseKey.mk.inj hmk
  have hchannel := (hagree l m hl hm (hlseq.trans hmseq.symm)).1
  rw [hlch, hmch] at hchannel
  exact absurd hchannel (by decide)

end BuckyP2p.Tcp
