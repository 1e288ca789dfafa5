import BuckyP2p.Lib.Runs
import BuckyP2p.Rendezvous.State

/-!
# BuckyP2p.Rendezvous.Waiters — every waiter gets one outcome

Runs of the rendezvous table.  `System` keeps beside the table the waiters that `begin` enqueued, in
the order in which they came (a waiter's number is its place), and all outcomes that were sent.

* `Tidy`: the waiters in the entries together with the waiters that got an outcome are all the
  waiters, each once; a waiter stands in the entry of its own key and request; answered entries
  have no waiters; what is cached carries no endpoints.
* `waiters_served`: the consequence for a single waiter, and that an operation that fails leaves the
  live entries alone.
-/

namespace BuckyP2p.Rendezvous

open Lib

inductive Op
  | begin (initiator : P2pId) (request : SnTunnelRendezvous) (now : Timestamp)
  | cacheResponse (initiator : P2pId) (request : SnTunnelRendezvous)
      (response : SnTunnelRendezvousResp) (now : Timestamp)
  | failUnanswered (initiator : P2pId) (request : SnTunnelRendezvous)
  | removePeer (peerId : P2pId)
  deriving DecidableEq, Repr

/-- The clock that an operation is given. -/
def Op.clock : Op → Option Timestamp
  | .begin _ _ now => some now
  | .cacheResponse _ _ _ now => some now
  | _ => none

structure System where
  state : RendezvousState
  joined : List (P2pId × SnTunnelRendezvous)
  outcomes : List (Nat × Outcome)

namespace System

def init : System := ⟨.new, [], []⟩

/-- `begin`, with the next free number for the waiter. -/
def begins (s : System) (initiator : P2pId) (request : SnTunnelRendezvous) (now : Timestamp) :
    Done (P2pResult RendezvousBegin) :=
  s.state.begin initiator request now s.joined.length

def step (s : System) : Op → System
  | .begin i r now =>
    let d := s.begins i r now
    { state := d.state
      joined := match d.result with
        | .ok (.inFlight _) => s.joined ++ [(i, r)]
        | _ => s.joined
      outcomes := s.outcomes ++ d.sends }
  | .cacheResponse i r resp now =>
    let d := s.state.cacheResponse i r resp now
    { s with state := d.state, outcomes := s.outcomes ++ d.sends }
  | .failUnanswered i r =>
    let d := s.state.failUnanswered i r
    { s with state := d.state, outcomes := s.outcomes ++ d.sends }
  | .removePeer p =>
    let d := s.state.removePeer p
    { s with state := d.state, outcomes := s.outcomes ++ d.sends }

/-- The error that an operation returns. -/
def error (s : System) : Op → Option P2pError
  | .begin i r now =>
    match (s.begins i r now).result with
    | .error e => some e
    | .ok _ => none
  | .cacheResponse i r resp now =>
    match (s.state.cacheResponse i r resp now).result with
    | .error e => some e
    | .ok _ => none
  | _ => none

end System

/-! ## What the operations do to the entries -/

namespace RendezvousState

variable {s : RendezvousState}

/-- All waiters of the table. -/
def waiting (s : RendezvousState) : List Nat := s.entries.collect (·.waiters)

theorem drain_fst (o : Outcome) (e : RendezvousEntry) : (e.drain o).map (·.1) = e.waiters := by
  rw [RendezvousEntry.drain, List.map_map]
  exact List.map_id _

theorem collect_drain_fst (t : Table RendezvousKey RendezvousEntry) (o : Outcome) :
    (t.collect (·.drain o)).map (·.1) = t.collect (·.waiters) := by
  simp [Table.collect, List.map_flatMap, drain_fst]

theorem mem_drain {o o' : Outcome} {e : RendezvousEntry} {w : Nat} (h : (w, o') ∈ e.drain o) :
    o' = o ∧ w ∈ e.waiters := by
  obtain ⟨w', hw, heq⟩ := List.mem_map.mp h
  cases heq
  exact ⟨rfl, hw⟩

theorem mem_collect_drain {t : Table RendezvousKey RendezvousEntry} {o o' : Outcome} {w : Nat}
    (h : (w, o') ∈ t.collect (·.drain o)) : o' = o := by
  obtain ⟨k, e, -, hmem⟩ := Table.mem_collect.mp h
  exact (mem_drain hmem).1

/-- Entries that are dropped send to all their waiters. -/
theorem waiting_retain (p : RendezvousKey → RendezvousEntry → Bool) (o : Outcome) :
    ((s.entries.retain p).collect (·.waiters) ++
      ((s.entries.retain fun k e => !p k e).collect (·.drain o)).map (·.1)).Perm s.waiting := by
  rw [collect_drain_fst]
  exact (Table.collect_retain _ p s.entries).symm

theorem lookup_cleanup {now : Timestamp} {k : RendezvousKey} {e : RendezvousEntry} :
    (s.cleanup now).state.entries.lookup k = some e ↔
      s.entries.lookup k = some e ∧ e.live now = true := Table.lookup_retain

/-- The three ways in which `begin` ends, after its cleanup. -/
theorem begin_cases (s : RendezvousState) (i : P2pId) (r : SnTunnelRendezvous) (now : Timestamp)
    (w : Nat) :
    (∃ e, (s.cleanup now).state.entries.lookup (.new i r) = some e ∧
      s.begin i r now w =
        { (s.cleanup now).state.join (.new i r) e r w with
          sends := (s.cleanup now).sends ++ ((s.cleanup now).state.join (.new i r) e r w).sends }) ∨
    ((s.cleanup now).state.entries.lookup (.new i r) = none ∧
      s.begin i r now w =
        { (s.cleanup now).state.create i r now with
          sends := (s.cleanup now).sends ++ ((s.cleanup now).state.create i r now).sends }) := by
  unfold begin
  dsimp only
  cases h : (s.cleanup now).state.entries.lookup (.new i r) with
  | some e => exact .inl ⟨e, rfl, rfl⟩
  | none => exact .inr ⟨rfl, rfl⟩

/-- `join` either changes nothing or enqueues the waiter. -/
theorem join_cases (s : RendezvousState) (k : RendezvousKey) (e : RendezvousEntry)
    (r : SnTunnelRendezvous) (w : Nat) :
    ((s.join k e r w).state = s ∧ (s.join k e r w).sends = [] ∧
      ∀ w', (s.join k e r w).result ≠ .ok (.inFlight w')) ∨
    (e.request.eq r = true ∧ e.response = none ∧ (s.join k e r w).sends = [] ∧
      (s.join k e r w).result = .ok (.inFlight w) ∧
      (s.join k e r w).state =
        { s with entries := s.entries.insert k { e with waiters := e.waiters ++ [w] } }) := by
  unfold join
  by_cases heq : e.request.eq r = true
  · rw [if_neg (by simp [heq])]
    cases hr : e.response with
    | some resp => exact .inl ⟨rfl, rfl, by simp⟩
    | none =>
      dsimp only
      by_cases hmax : maxInflightWaitersPerAttempt ≤ e.waiters.length
      · rw [if_pos hmax]
        exact .inl ⟨rfl, rfl, by simp⟩
      · rw [if_neg hmax]
        exact .inr ⟨heq, rfl, rfl, rfl, rfl⟩
  · rw [if_pos (by simp [heq])]
    exact .inl ⟨rfl, rfl, by simp⟩

/-- A key with an entry has its executor. -/
theorem join_ne_new (s : RendezvousState) (k : RendezvousKey) (e : RendezvousEntry)
    (r : SnTunnelRendezvous) (w : Nat) : (s.join k e r w).result ≠ .ok .new := by
  unfold join
  cases e.response with
  | some resp => split_ifs <;> simp
  | none => split_ifs <;> simp

/-- What `join` returns as cached is the response of the entry. -/
theorem join_cached {s : RendezvousState} {k : RendezvousKey} {e : RendezvousEntry}
    {r : SnTunnelRendezvous} {w : Nat} {resp : SnTunnelRendezvousResp}
    (h : (s.join k e r w).result = .ok (.cached resp)) :
    e.request.eq r = true ∧ e.response = some resp := by
  unfold join at h
  by_cases heq : e.request.eq r = true
  · rw [if_neg (by simp [heq])] at h
    cases hr : e.response with
    | some resp' =>
      rw [hr] at h
      cases h
      exact ⟨heq, rfl⟩
    | none =>
      rw [hr] at h
      dsimp only at h
      split_ifs at h
      cases h
  · rw [if_pos (by simp [heq])] at h
    cases h

/-- The entry of a new attempt. -/
def fresh (r : SnTunnelRendezvous) (now : Timestamp) : RendezvousEntry :=
  ⟨r, saturatingAdd now maxRequestLifetime, none, []⟩

/-- `create` either leaves the entries alone or adds a new one. -/
theorem create_cases (s : RendezvousState) (i : P2pId) (r : SnTunnelRendezvous) (now : Timestamp) :
    (s.create i r now).sends = [] ∧
      (((s.create i r now).state.entries = s.entries ∧ ∃ err, (s.create i r now).result = .error err) ∨
        ((s.create i r now).state.entries = s.entries.insert (.new i r) (fresh r now) ∧
          (s.create i r now).result = .ok .new)) := by
  unfold create
  dsimp only
  split_ifs
  · exact ⟨rfl, .inl ⟨rfl, _, rfl⟩⟩
  · exact ⟨rfl, .inl ⟨rfl, _, rfl⟩⟩
  · exact ⟨rfl, .inr ⟨rfl, rfl⟩⟩

/-- All that `begin` sends is sent by its cleanup. -/
theorem begin_sends (s : RendezvousState) (i : P2pId) (r : SnTunnelRendezvous) (now : Timestamp)
    (w : Nat) : (s.begin i r now w).sends = (s.cleanup now).sends := by
  rcases s.begin_cases i r now w with ⟨e, -, heq⟩ | ⟨-, heq⟩
  · have hsend : ((s.cleanup now).state.join (.new i r) e r w).sends = [] := by
      rcases (s.cleanup now).state.join_cases (.new i r) e r w with ⟨-, h, -⟩ | ⟨-, -, h, -⟩
      · exact h
      · exact h
    rw [heq, hsend, List.append_nil]
  · rw [heq, ((s.cleanup now).state.create_cases i r now).1, List.append_nil]

/-- The ways in which `cache_response` ends: an error that changes nothing, the removal of an
expired entry, or the answer. -/
theorem cacheResponse_cases (s : RendezvousState) (i : P2pId) (r : SnTunnelRendezvous)
    (resp : SnTunnelRendezvousResp) (now : Timestamp) :
    ((s.cacheResponse i r resp now).state = s ∧ (s.cacheResponse i r resp now).sends = [] ∧
      ∃ err, (s.cacheResponse i r resp now).result = .error err) ∨
    (∃ e, s.entries.lookup (.new i r) = some e ∧ e.live now = false ∧
      s.cacheResponse i r resp now =
        { result := .error responseExpired
          state := { s with entries := s.entries.erase (.new i r) }
          sends := e.drain (.error responseExpired) }) ∨
    (∃ e, s.entries.lookup (.new i r) = some e ∧ e.live now = true ∧ e.request.eq r = true ∧
      resp.validate r.seq r.needPredictEndpoint = .ok () ∧
      s.cacheResponse i r resp now =
        { result := .ok ()
          state := { s with
            entries := s.entries.insert (.new i r)
              { e with
                response := some (if r.needPredictEndpoint then .failure r.seq else resp)
                waiters := [] } }
          sends := e.drain (.ok resp) }) := by
  unfold cacheResponse
  dsimp only
  cases hl : s.entries.lookup (.new i r) with
  | none => exact .inl ⟨rfl, rfl, _, rfl⟩
  | some e =>
    dsimp only
    by_cases hexp : e.expiresAt ≤ now
    · rw [if_pos hexp]
      exact .inr (.inl ⟨e, rfl, by simpa [RendezvousEntry.live] using hexp, rfl⟩)
    · have hlive : e.live now = true := by simpa [RendezvousEntry.live] using hexp
      rw [if_neg hexp]
      by_cases heq : e.request.eq r = true
      · rw [if_neg (by simp [heq])]
        cases hv : resp.validate r.seq r.needPredictEndpoint with
        | error err => exact .inl ⟨rfl, rfl, _, rfl⟩
        | ok u => exact .inr (.inr ⟨e, rfl, hlive, heq, rfl, rfl⟩)
      · rw [if_pos (by simp [heq])]
        exact .inl ⟨rfl, rfl, _, rfl⟩

/-- The ways in which `fail_unanswered` ends. -/
theorem failUnanswered_cases (s : RendezvousState) (i : P2pId) (r : SnTunnelRendezvous) :
    ((s.failUnanswered i r).state = s ∧ (s.failUnanswered i r).sends = []) ∨
    (∃ e, s.entries.lookup (.new i r) = some e ∧ e.request.eq r = true ∧ e.response = none ∧
      s.failUnanswered i r =
        { result := ()
          state := { s with entries := s.entries.erase (.new i r) }
          sends := e.drain (.error failedBeforeResponse) }) := by
  unfold failUnanswered
  dsimp only
  cases hl : s.entries.lookup (.new i r) with
  | none => exact .inl ⟨rfl, rfl⟩
  | some e =>
    dsimp only
    split_ifs with h
    · exact .inl ⟨rfl, rfl⟩
    · simp only [Bool.or_eq_true, not_or, Bool.not_eq_true', Bool.not_eq_false,
        Bool.not_eq_true, Option.isSome_eq_false_iff, Option.isNone_iff_eq_none] at h
      exact .inr ⟨e, rfl, h.1, h.2, rfl⟩

end RendezvousState

/-! ## The invariant -/

structure Tidy (t : Table RendezvousKey RendezvousEntry)
    (joined : List (P2pId × SnTunnelRendezvous)) (outcomes : List (Nat × Outcome)) : Prop where
  once : (t.collect (·.waiters) ++ outcomes.map (·.1)).Perm (List.range joined.length)
  place : ∀ k e, t.lookup k = some e → ∀ w ∈ e.waiters,
    ∃ i r, joined[w]? = some (i, r) ∧ k = .new i r ∧ e.request.eq r = true
  answered : ∀ k e resp, t.lookup k = some e → e.response = some resp →
    e.waiters = [] ∧ resp.predictedEndpointArray = [] ∧
      (e.request.needPredictEndpoint = true → resp = .failure e.request.seq)
  valid : ∀ w resp, (w, .ok resp) ∈ outcomes →
    ∃ i r, joined[w]? = some (i, r) ∧ resp.validate r.seq r.needPredictEndpoint = .ok ()

namespace Tidy

variable {t t' : Table RendezvousKey RendezvousEntry}
  {joined : List (P2pId × SnTunnelRendezvous)} {outcomes sends : List (Nat × Outcome)}

/-- Outcomes take waiters out of the entries. -/
theorem once_send (h : Tidy t joined outcomes)
    (hperm : (t'.collect (·.waiters) ++ sends.map (·.1)).Perm (t.collect (·.waiters))) :
    (t'.collect (·.waiters) ++ (outcomes ++ sends).map (·.1)).Perm (List.range joined.length) := by
  rw [List.map_append]
  have hswap : (t'.collect (·.waiters) ++ (outcomes.map (·.1) ++ sends.map (·.1))).Perm
      ((t'.collect (·.waiters) ++ sends.map (·.1)) ++ outcomes.map (·.1)) := by
    rw [List.append_assoc]
    exact List.perm_append_comm.append_left _
  exact hswap.trans ((hperm.append_right _).trans h.once)

/-- Entries leave the table, and their waiters get an error. -/
theorem leave (h : Tidy t joined outcomes)
    (hsub : ∀ k e, t'.lookup k = some e → t.lookup k = some e)
    (hperm : (t'.collect (·.waiters) ++ sends.map (·.1)).Perm (t.collect (·.waiters)))
    (herr : ∀ w resp, (w, .ok resp) ∉ sends) : Tidy t' joined (outcomes ++ sends) where
  once := h.once_send hperm
  place k e hl := h.place k e (hsub k e hl)
  answered k e resp hl := h.answered k e resp (hsub k e hl)
  valid w resp hmem := by
    rcases List.mem_append.mp hmem with hold | hnew
    · exact h.valid w resp hold
    · exact absurd hnew (herr w resp)

/-- One entry leaves the table. -/
theorem erase (h : Tidy t joined outcomes) {k : RendezvousKey} {e : RendezvousEntry}
    (hl : t.lookup k = some e) (err : P2pError) :
    Tidy (t.erase k) joined (outcomes ++ e.drain (.error err)) := by
  refine h.leave ?_ ?_ ?_
  · intro k' e' hl'
    exact (Table.lookup_erase_some.mp hl').2
  · rw [RendezvousState.drain_fst]
    exact List.perm_append_comm.trans (Table.collect_erase hl).symm
  · intro w resp hmem
    cases (RendezvousState.mem_drain hmem).1

/-- An entry is answered: its waiters get the response, which is valid for their requests. -/
theorem answer (h : Tidy t joined outcomes) {k : RendezvousKey} {e : RendezvousEntry}
    (hl : t.lookup k = some e) {r : SnTunnelRendezvous} {resp : SnTunnelRendezvousResp}
    (heq : e.request.eq r = true)
    (hv : resp.validate r.seq r.needPredictEndpoint = .ok ()) :
    Tidy (t.insert k { e with
        response := some (if r.needPredictEndpoint then .failure r.seq else resp), waiters := [] })
      joined (outcomes ++ e.drain (.ok resp)) := by
  have hfields := SnTunnelRendezvous.eq_fields heq
  have hlook : ∀ k' e', (t.insert k { e with
        response := some (if r.needPredictEndpoint then .failure r.seq else resp),
        waiters := [] }).lookup k' = some e' →
      t.lookup k' = some e' ∨ (k' = k ∧ e' = { e with
        response := some (if r.needPredictEndpoint then .failure r.seq else resp),
        waiters := [] }) := by
    intro k' e' hl'
    rcases Table.lookup_insert_some.mp hl' with ⟨rfl, rfl⟩ | ⟨hk, hl'⟩
    · exact .inr ⟨rfl, rfl⟩
    · exact .inl hl'
  refine ⟨h.once_send ?_, ?_, ?_, ?_⟩
  · rw [RendezvousState.drain_fst]
    exact List.perm_append_comm.trans (Table.collect_insert hl)
  · intro k' e' hl' w hw
    rcases hlook k' e' hl' with hold | ⟨-, rfl⟩
    · exact h.place k' e' hold w hw
    · cases hw
  · intro k' e' resp' hl' hresp
    rcases hlook k' e' hl' with hold | ⟨-, rfl⟩
    · exact h.answered k' e' resp' hold hresp
    · cases hresp
      refine ⟨rfl, ?_, ?_⟩
      · by_cases hn : r.needPredictEndpoint = true
        · rw [if_pos hn]
          rfl
        · rw [if_neg hn]
          rw [Bool.not_eq_true] at hn
          rw [hn] at hv
          exact SnTunnelRendezvousResp.validate_no_predict hv
      · intro hn
        rw [if_pos (hfields.2.2.2 ▸ hn), hfields.1]
  · intro w resp' hmem
    rcases List.mem_append.mp hmem with hold | hnew
    · exact h.valid w resp' hold
    · obtain ⟨heq', hw⟩ := RendezvousState.mem_drain hnew
      cases heq'
      -- the waiter's own request is `==` to that of the entry, and so to `r`
      obtain ⟨i, r', hj, -, heq'⟩ := h.place k e hl w hw
      have hfields' := SnTunnelRendezvous.eq_fields heq'
      refine ⟨i, r', hj, ?_⟩
      rw [← hfields'.1, ← hfields'.2.2.2, hfields.1, hfields.2.2.2]
      exact hv

/-- A waiter is enqueued. -/
theorem enqueue (h : Tidy t joined outcomes) {i : P2pId} {r : SnTunnelRendezvous}
    {e : RendezvousEntry} (hl : t.lookup (.new i r) = some e) (heq : e.request.eq r = true)
    (hr : e.response = none) :
    Tidy (t.insert (.new i r) { e with waiters := e.waiters ++ [joined.length] })
      (joined ++ [(i, r)]) outcomes := by
  have hgrow : ∀ (w : Nat) x, joined[w]? = some x → (joined ++ [(i, r)])[w]? = some x := by
    intro w x hx
    rw [List.getElem?_append_left (List.getElem?_eq_some_iff.mp hx).1, hx]
  have hlast : (joined ++ [(i, r)])[joined.length]? = some (i, r) := by
    rw [List.getElem?_append_right le_rfl, Nat.sub_self, List.getElem?_cons_zero]
  refine ⟨?_, ?_, ?_, ?_⟩
  · rw [List.length_append, List.length_singleton, List.range_succ]
    have hins : (e.waiters ++ Table.collect (fun e => e.waiters)
        (t.insert (.new i r) { e with waiters := e.waiters ++ [joined.length] })).Perm
        ((e.waiters ++ [joined.length]) ++ t.collect (·.waiters)) := Table.collect_insert hl
    have hwait : (Table.collect (fun e => e.waiters)
        (t.insert (.new i r) { e with waiters := e.waiters ++ [joined.length] })).Perm
        ([joined.length] ++ t.collect (·.waiters)) := by
      rw [List.append_assoc] at hins
      exact (List.perm_append_left_iff _).mp hins
    have hcount := (hwait.append_right (outcomes.map (·.1)))
    rw [List.append_assoc] at hcount
    exact hcount.trans (List.perm_append_comm.trans (h.once.append_right _))
  · intro k' e' hl' w hw
    rcases Table.lookup_insert_some.mp hl' with ⟨rfl, rfl⟩ | ⟨hk, hl'⟩
    · rcases List.mem_append.mp hw with hw | hw
      · obtain ⟨i', r', hj, hkey, hreq⟩ := h.place _ e hl w hw
        exact ⟨i', r', hgrow _ _ hj, hkey, hreq⟩
      · rw [List.mem_singleton.mp hw]
        exact ⟨i, r, hlast, rfl, heq⟩
    · obtain ⟨i', r', hj, hkey, hreq⟩ := h.place k' e' hl' w hw
      exact ⟨i', r', hgrow _ _ hj, hkey, hreq⟩
  · intro k' e' resp hl' hresp
    rcases Table.lookup_insert_some.mp hl' with ⟨rfl, rfl⟩ | ⟨hk, hl'⟩
    · rw [hr] at hresp
      cases hresp
    · exact h.answered k' e' resp hl' hresp
  · intro w resp hmem
    obtain ⟨i', r', hj, hv⟩ := h.valid w resp hmem
    exact ⟨i', r', hgrow _ _ hj, hv⟩

/-- A new attempt has no waiters. -/
theorem add (h : Tidy t joined outcomes) {k : RendezvousKey} (hl : t.lookup k = none)
    (r : SnTunnelRendezvous) (now : Timestamp) :
    Tidy (t.insert k (RendezvousState.fresh r now)) joined outcomes := by
  refine ⟨?_, ?_, ?_, h.valid⟩
  · rw [Table.collect_insert_new _ hl]
    exact h.once
  · intro k' e' hl' w hw
    rcases Table.lookup_insert_some.mp hl' with ⟨rfl, rfl⟩ | ⟨hk, hl'⟩
    · cases hw
    · exact h.place k' e' hl' w hw
  · intro k' e' resp hl' hresp
    rcases Table.lookup_insert_some.mp hl' with ⟨rfl, rfl⟩ | ⟨hk, hl'⟩
    · cases hresp
    · exact h.answered k' e' resp hl' hresp

/-- `retain` with an error for the entries it drops. -/
theorem retain (h : Tidy t joined outcomes) (p : RendezvousKey → RendezvousEntry → Bool)
    (err : P2pError) :
    Tidy (t.retain p) joined
      (outcomes ++ (t.retain fun k e => !p k e).collect (·.drain (.error err))) := by
  refine h.leave ?_ ?_ ?_
  · intro k e hl
    exact (Table.lookup_retain.mp hl).1
  · exact RendezvousState.waiting_retain (s := ⟨t, ∅⟩) p (.error err)
  · intro w resp hmem
    cases RendezvousState.mem_collect_drain hmem

end Tidy

/-- The system is tidy. -/
def System.Tidy (s : System) : Prop := Rendezvous.Tidy s.state.entries s.joined s.outcomes

theorem System.tidy_init : System.init.Tidy where
  once := List.Perm.refl _
  place _ _ h := by cases h
  answered _ _ _ h := by cases h
  valid _ _ h := by cases h

/-- Every operation keeps the system tidy. -/
theorem System.tidy_step {s : System} (h : s.Tidy) (op : Op) : (s.step op).Tidy := by
  cases op with
  | begin i r now =>
    have hclean : Rendezvous.Tidy (s.state.cleanup now).state.entries s.joined
        (s.outcomes ++ (s.state.cleanup now).sends) :=
      Rendezvous.Tidy.retain h (fun _ e => e.live now) RendezvousState.expired
    simp only [System.Tidy, System.step, System.begins]
    rcases s.state.begin_cases i r now s.joined.length with ⟨e, hl, heq⟩ | ⟨hl, heq⟩
    · rw [heq]
      rcases (s.state.cleanup now).state.join_cases (.new i r) e r s.joined.length with
        ⟨hst, hsend, hres⟩ | ⟨hreq, hresp, hsend, hres, hst⟩
      · dsimp only
        rw [hst, hsend, List.append_nil]
        split
        · rename_i w hw
          exact absurd hw (hres w)
        · exact hclean
      · dsimp only
        rw [hst, hsend, hres, List.append_nil]
        exact hclean.enqueue hl hreq hresp
    · rw [heq]
      obtain ⟨hsend, ⟨hst, err, hres⟩ | ⟨hst, hres⟩⟩ :=
        (s.state.cleanup now).state.create_cases i r now
      · dsimp only
        rw [hst, hsend, hres, List.append_nil]
        exact hclean
      · dsimp only
        rw [hst, hsend, hres, List.append_nil]
        exact hclean.add hl r now
  | cacheResponse i r resp now =>
    simp only [System.Tidy, System.step]
    rcases s.state.cacheResponse_cases i r resp now with
      ⟨hst, hsend, -⟩ | ⟨e, hl, -, heq⟩ | ⟨e, hl, -, hreq, hv, heq⟩
    · rw [hst, hsend, List.append_nil]
      exact h
    · rw [heq]
      exact Rendezvous.Tidy.erase h hl _
    · rw [heq]
      exact Rendezvous.Tidy.answer h hl hreq hv
  | failUnanswered i r =>
    simp only [System.Tidy, System.step]
    rcases s.state.failUnanswered_cases i r with ⟨hst, hsend⟩ | ⟨e, hl, -, -, heq⟩
    · rw [hst, hsend, List.append_nil]
      exact h
    · rw [heq]
      exact Rendezvous.Tidy.erase h hl _
  | removePeer p => exact Rendezvous.Tidy.retain h _ _

theorem System.tidy_exec (ops : List Op) : (exec System.step .init ops).Tidy :=
  exec_inv_all (I := System.Tidy) (fun _ op h => System.tidy_step h op) System.tidy_init ops

/-! ## A single waiter -/

/-- The waiter `w` of `begin i r` is in one entry, once; the entry is the one of its key, holds its
request and is not answered. -/
structure Waiting (s : System) (w : Nat) (i : P2pId) (r : SnTunnelRendezvous) : Prop where
  entry : ∃ e, s.state.entries.lookup (.new i r) = some e ∧ e.waiters.count w = 1 ∧
    e.response = none ∧ e.request.eq r = true
  alone : ∀ k e, s.state.entries.lookup k = some e → w ∈ e.waiters → k = .new i r
  unsent : ∀ o, (w, o) ∉ s.outcomes

/-- The waiter `w` of `begin i r` is in no entry and got one outcome. -/
structure Answered (s : System) (w : Nat) (r : SnTunnelRendezvous) : Prop where
  away : ∀ k e, s.state.entries.lookup k = some e → w ∉ e.waiters
  sent : ∃ o, s.outcomes.filter (fun x => x.1 = w) = [(w, o)] ∧
    ∀ resp, o = .ok resp → resp.validate r.seq r.needPredictEndpoint = .ok ()

theorem count_one {l : List Nat} {n w : Nat} (h : l.Perm (List.range n)) (hw : w < n) :
    l.count w = 1 := by
  rw [h.count_eq]
  exact List.count_eq_one_of_mem List.nodup_range (List.mem_range.mpr hw)

/-- A waiter that is in the entries is waiting. -/
theorem System.Tidy.waiting {s : System} (h : s.Tidy) {w : Nat} {i : P2pId}
    {r : SnTunnelRendezvous} (hj : s.joined[w]? = some (i, r))
    (hmem : w ∈ s.state.entries.collect (·.waiters)) : Waiting s w i r := by
  have hcount := count_one h.once (List.getElem?_eq_some_iff.mp hj).1
  rw [List.count_append] at hcount
  have hpos := List.count_pos_iff.mpr hmem
  have hout : (s.outcomes.map (·.1)).count w = 0 := by omega
  have halone : ∀ k e, s.state.entries.lookup k = some e → w ∈ e.waiters →
      k = .new i r ∧ e.request.eq r = true := by
    intro k e hl hw
    obtain ⟨i', r', hj', hk, heq⟩ := h.place k e hl w hw
    rw [hj] at hj'
    cases hj'
    exact ⟨hk, heq⟩
  obtain ⟨k, e, hl, hw⟩ := Table.mem_collect.mp hmem
  obtain ⟨rfl, heq⟩ := halone k e hl hw
  refine ⟨⟨e, hl, ?_, ?_, heq⟩, fun k' e' hl' hw' => (halone k' e' hl' hw').1, ?_⟩
  · have hsplit := (Table.collect_erase (f := fun e => e.waiters) hl).count_eq w
    rw [List.count_append] at hsplit
    have hin := List.count_pos_iff.mpr hw
    omega
  · cases hresp : e.response with
    | none => rfl
    | some resp =>
      rw [(h.answered _ e resp hl hresp).1] at hw
      cases hw
  · intro o ho
    exact List.count_eq_zero.mp hout (List.mem_map.mpr ⟨_, ho, rfl⟩)

/-- A waiter that is in no entry was answered. -/
theorem System.Tidy.sent {s : System} (h : s.Tidy) {w : Nat} {i : P2pId}
    {r : SnTunnelRendezvous} (hj : s.joined[w]? = some (i, r))
    (hmem : w ∉ s.state.entries.collect (·.waiters)) : Answered s w r := by
  have hcount := count_one h.once (List.getElem?_eq_some_iff.mp hj).1
  rw [List.count_append, List.count_eq_zero.mpr hmem, Nat.zero_add] at hcount
  refine ⟨fun k e hl hw => hmem (Table.mem_collect.mpr ⟨k, e, hl, hw⟩), ?_⟩
  have hlen : (s.outcomes.filter fun x => x.1 = w).length = 1 := by
    rw [← hcount, List.count, List.countP_map, List.countP_eq_length_filter]
    congr 1
  obtain ⟨⟨w', o⟩, hone⟩ := List.length_eq_one_iff.mp hlen
  have hin : (w', o) ∈ s.outcomes.filter fun x => x.1 = w := by
    rw [hone]
    exact List.mem_singleton.mpr rfl
  obtain ⟨hmo, hw⟩ := List.mem_filter.mp hin
  obtain rfl : w' = w := of_decide_eq_true hw
  refine ⟨o, hone, ?_⟩
  rintro resp rfl
  obtain ⟨i', r', hj', hv⟩ := h.valid w' resp hmo
  rw [hj] at hj'
  cases hj'
  exact hv

/-- An operation that fails leaves the live entries as they are. -/
theorem System.error_frame {s : System} {op : Op} {now : Timestamp} {err : P2pError}
    (herr : s.error op = some err) (hnow : op.clock = some now) (k : RendezvousKey)
    (e : RendezvousEntry) (hlive : e.live now = true) :
    s.state.entries.lookup k = some e ↔ (s.step op).state.entries.lookup k = some e := by
  cases op with
  | begin i r now' =>
    cases hnow
    have hclean : s.state.entries.lookup k = some e ↔
        (s.state.cleanup now).state.entries.lookup k = some e := by
      rw [RendezvousState.lookup_cleanup]
      exact ⟨fun h => ⟨h, hlive⟩, fun h => h.1⟩
    rw [hclean]
    simp only [System.error, System.step, System.begins] at herr ⊢
    rcases s.state.begin_cases i r now s.joined.length with ⟨e', hl, heq⟩ | ⟨hl, heq⟩
    · rw [heq] at herr ⊢
      rcases (s.state.cleanup now).state.join_cases (.new i r) e' r s.joined.length with
        ⟨hst, -, -⟩ | ⟨-, -, -, hres, -⟩
      · rw [hst]
      · rw [hres] at herr
        cases herr
    · rw [heq] at herr ⊢
      obtain ⟨-, ⟨hst, -⟩ | ⟨-, hres⟩⟩ := (s.state.cleanup now).state.create_cases i r now
      · rw [hst]
      · rw [hres] at herr
        cases herr
  | cacheResponse i r resp now' =>
    cases hnow
    simp only [System.error, System.step] at herr ⊢
    rcases s.state.cacheResponse_cases i r resp now with
      ⟨hst, -⟩ | ⟨e', hl, hdead, heq⟩ | ⟨e', -, -, -, -, heq⟩
    · rw [hst]
    · rw [heq]
      by_cases hk : k = .new i r
      · -- the entry that is removed has expired
        subst hk
        rw [AList.lookup_erase, hl]
        constructor
        · intro h
          cases h
          rw [hdead] at hlive
          cases hlive
        · intro h
          cases h
      · rw [AList.lookup_erase_ne hk]
    · rw [heq] at herr
      cases herr
  | failUnanswered i r => cases hnow
  | removePeer p => cases hnow

/-- After every run, every waiter that `begin` enqueued either waits in one entry, which is not
answered and holds its request, or got one outcome, which is valid for its request if it is a
response; and an operation that fails next changes no entry that has not expired. -/
theorem waiters_served (ops : List Op) :
    (∀ (w : Nat) i r, (exec System.step .init ops).joined[w]? = some (i, r) →
      Waiting (exec System.step .init ops) w i r ∨ Answered (exec System.step .init ops) w r) ∧
    ∀ op now err, (exec System.step .init ops).error op = some err → op.clock = some now →
      ∀ k e, e.live now = true →
        ((exec System.step .init ops).state.entries.lookup k = some e ↔
          ((exec System.step .init ops).step op).state.entries.lookup k = some e) := by
  have htidy := System.tidy_exec ops
  constructor
  · intro w i r hj
    by_cases hmem : w ∈ (exec System.step .init ops).state.entries.collect (·.waiters)
    · exact .inl (htidy.waiting hj hmem)
    · exact .inr (htidy.sent hj hmem)
  · intro op now err herr hnow k e hlive
    exact System.error_frame herr hnow k e hlive

/-- A request of `[1]` to `[2]`. -/
def sample : SnTunnelRendezvous :=
  ⟨7, 9, [2], .punchOnly, [⟨.serverReflexive, .quic, .v4 ⟨192, 0, 2, 10⟩ 40001⟩], false⟩

/-- The executor, a duplicate that waits, the answer, and a second attempt with its own waiter. -/
def duplicates : List Op :=
  [.begin [1] sample 0, .begin [1] sample 1, .cacheResponse [1] sample (.success 7 []) 2,
    .begin [3] sample 3, .begin [3] sample 4]

theorem waiters_served_duplicates :
    (Answered (exec System.step .init duplicates) 0 sample ∧
      Waiting (exec System.step .init duplicates) 1 [3] sample) ∧
    ((exec System.step .init duplicates).error (.begin [3] { sample with toPeerId := [4] } 5) =
        some ⟨.conflict, "rendezvous sequence and tunnel id reused with different request"⟩ ∧
      ((exec System.step .init duplicates).step
        (.begin [3] { sample with toPeerId := [4] } 5)).state.entries.lookup (.new [3] sample) =
          some ⟨sample, 30000003, none, [1]⟩) := by
  obtain ⟨hserved, hframe⟩ := waiters_served duplicates
  have herr : (exec System.step .init duplicates).error
      (.begin [3] { sample with toPeerId := [4] } 5) =
      some ⟨.conflict, "rendezvous sequence and tunnel id reused with different request"⟩ := by
    decide +kernel
  refine ⟨⟨?_, ?_⟩, herr, ?_⟩
  · refine (hserved 0 [1] sample (by decide +kernel)).resolve_left fun h => ?_
    obtain ⟨e, hl, hw, -⟩ := h.entry
    have hgone : (exec System.step .init duplicates).state.entries.lookup (.new [1] sample) =
        some ⟨sample, 30000000, some (.success 7 []), []⟩ := by decide +kernel
    rw [hgone] at hl
    cases hl
    cases hw
  · refine (hserved 1 [3] sample (by decide +kernel)).resolve_right fun h => ?_
    exact h.away (.new [3] sample) ⟨sample, 30000003, none, [1]⟩ (by decide +kernel) (by decide)
  · exact (hframe _ 5 _ herr rfl _ _ (by decide)).mp (by decide +kernel)

end BuckyP2p.Rendezvous
