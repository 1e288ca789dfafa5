import BuckyP2p.Rendezvous.Waiters
import Mathlib.Data.List.DropRight

/-!
# BuckyP2p.Rendezvous.Bounds — what the rendezvous table can hold

Runs of the rendezvous table whose clock does not go back.

* `Bounded`: the live attempts of the table and of every pair of peers, the waiters of an attempt
  and the timestamps of an initiator.
* `Recent`: the attempts that `begin` admits in one interval of time are all in the rate window, so
  that its length bounds them.
-/

namespace BuckyP2p.Rendezvous

open Lib

def RendezvousBegin.isNew : RendezvousBegin → Bool
  | .new => true
  | _ => false

/-- `begin` admits a new attempt. -/
def isNew : P2pResult RendezvousBegin → Bool
  | .ok b => b.isNew
  | .error _ => false

namespace RendezvousState

variable {s : RendezvousState}

/-! ## The rate windows -/

/-- The rate window of an initiator; one that is not stored is empty. -/
def window (s : RendezvousState) (initiator : P2pId) : List Timestamp :=
  (s.rateWindows.lookup initiator).getD []

theorem window_insert {i j : P2pId} {ts : List Timestamp} {t : Table RendezvousKey RendezvousEntry} :
    window ⟨t, s.rateWindows.insert i ts⟩ j = if j = i then ts else s.window j := by
  unfold window
  split_ifs with h
  · rw [h, AList.lookup_insert]
    rfl
  · rw [AList.lookup_insert_ne h]

theorem window_cleanup (s : RendezvousState) (now : Timestamp) (i : P2pId) :
    (s.cleanup now).state.window i = (s.window i).dropWhile (stale now) := by
  unfold window
  cases hafter : (s.cleanup now).state.rateWindows.lookup i with
  | some ts =>
    obtain ⟨hmap, -⟩ := Table.lookup_retain.mp hafter
    obtain ⟨old, hold, rfl⟩ := Table.lookup_mapValues.mp hmap
    rw [hold]
    rfl
  | none =>
    cases hold : s.rateWindows.lookup i with
    | none => rfl
    | some old =>
      -- the window is dropped because it has become empty
      show [] = old.dropWhile (stale now)
      by_contra hne
      have hkept : (s.cleanup now).state.rateWindows.lookup i = some (old.dropWhile (stale now)) := by
        refine Table.lookup_retain.mpr ⟨Table.lookup_mapValues.mpr ⟨old, hold, rfl⟩, ?_⟩
        simpa using Ne.symm hne
      rw [hafter] at hkept
      cases hkept

/-- `create` evicts the stale timestamps of the initiator, and adds its own if it admits. -/
theorem window_create (s : RendezvousState) (i : P2pId) (r : SnTunnelRendezvous) (now : Timestamp)
    (hfresh : (s.window i).dropWhile (stale now) = s.window i) :
    (isNew (s.create i r now).result = true ∧
      (s.window i).length < maxRequestsPerInitiatorWindow ∧
      ∀ j, (s.create i r now).state.window j =
        if j = i then s.window i ++ [now] else s.window j) ∨
    (isNew (s.create i r now).result = false ∧
      ∀ j, (s.create i r now).state.window j = s.window j) := by
  unfold window at hfresh
  unfold create
  dsimp only
  rw [hfresh]
  split_ifs with hlive hrate
  · exact .inr ⟨rfl, fun _ => rfl⟩
  · refine .inr ⟨rfl, fun j => ?_⟩
    rw [window_insert]
    split_ifs with hj
    · rw [hj]
      rfl
    · rfl
  · exact .inl ⟨rfl, not_le.mp hrate, fun j => window_insert⟩

/-- What `begin` does to the rate windows. -/
theorem window_begin (s : RendezvousState) (i : P2pId) (r : SnTunnelRendezvous) (now : Timestamp)
    (w : Nat) :
    (isNew (s.begin i r now w).result = true ∧
      ((s.window i).dropWhile (stale now)).length < maxRequestsPerInitiatorWindow ∧
      ∀ j, (s.begin i r now w).state.window j =
        if j = i then (s.window i).dropWhile (stale now) ++ [now]
        else (s.window j).dropWhile (stale now)) ∨
    (isNew (s.begin i r now w).result = false ∧
      ∀ j, (s.begin i r now w).state.window j = (s.window j).dropWhile (stale now)) := by
  rcases s.begin_cases i r now w with ⟨e, -, heq⟩ | ⟨-, heq⟩
  · rw [heq]
    refine .inr ⟨?_, fun j => ?_⟩
    · cases hres : ((s.cleanup now).state.join (.new i r) e r w).result with
      | error err => rfl
      | ok b =>
        cases b with
        | new => exact absurd hres (join_ne_new _ _ _ _ _)
        | cached resp => rfl
        | inFlight w' => rfl
    · rw [← window_cleanup]
      rcases (s.cleanup now).state.join_cases (.new i r) e r w with ⟨hst, -⟩ | ⟨-, -, -, -, hst⟩
      · exact congrArg (window · j) hst
      · show ((s.cleanup now).state.join (.new i r) e r w).state.window j = _
        rw [hst]
        rfl
  · have hfresh : ((s.cleanup now).state.window i).dropWhile (stale now) =
        (s.cleanup now).state.window i := by
      rw [window_cleanup]
      exact List.dropWhile_idempotent _ _
    rw [heq]
    rcases (s.cleanup now).state.window_create i r now hfresh with ⟨hnew, hlen, hwin⟩ | ⟨hold, hwin⟩
    · refine .inl ⟨hnew, by rwa [window_cleanup] at hlen, fun j => ?_⟩
      rw [← window_cleanup, ← window_cleanup]
      exact hwin j
    · refine .inr ⟨hold, fun j => ?_⟩
      rw [← window_cleanup]
      exact hwin j

theorem window_cacheResponse (i : P2pId) (r : SnTunnelRendezvous) (resp : SnTunnelRendezvousResp)
    (now : Timestamp) (j : P2pId) : (s.cacheResponse i r resp now).state.window j = s.window j := by
  rcases s.cacheResponse_cases i r resp now with ⟨hst, -⟩ | ⟨e, -, -, heq⟩ | ⟨e, -, -, -, -, heq⟩
  · rw [hst]
  · rw [heq]
    rfl
  · rw [heq]
    rfl

theorem window_failUnanswered (i : P2pId) (r : SnTunnelRendezvous) (j : P2pId) :
    (s.failUnanswered i r).state.window j = s.window j := by
  rcases s.failUnanswered_cases i r with ⟨hst, -⟩ | ⟨e, -, -, -, heq⟩
  · rw [hst]
  · rw [heq]
    rfl

theorem window_removePeer (p j : P2pId) :
    (s.removePeer p).state.window j = if j = p then [] else s.window j := by
  unfold window removePeer
  split_ifs with h
  · rw [h, AList.lookup_erase]
    rfl
  · rw [AList.lookup_erase_ne h]

end RendezvousState

/-! ## The bounds -/

/-- The entries of an initiator to one peer, as `pairAttempts` counts them. -/
def pairTest (initiator toPeerId : P2pId) (key : RendezvousKey) (e : RendezvousEntry) : Bool :=
  key.initiator = initiator ∧ e.request.toPeerId = toPeerId

theorem pairAttempts_eq (s : RendezvousState) (i p : P2pId) :
    s.pairAttempts i p = s.entries.count (pairTest i p) := List.countP_eq_length_filter.symm

/-- The entries of a table within the limits. -/
structure Within (t : Table RendezvousKey RendezvousEntry) : Prop where
  live : t.entries.length ≤ maxLiveAttempts
  pairs : ∀ i p, t.count (pairTest i p) ≤ maxLiveAttemptsPerPair
  waiters : ∀ k e, t.lookup k = some e → e.waiters.length ≤ maxInflightWaitersPerAttempt
  answered : ∀ k e, t.lookup k = some e → e.response.isSome = true → e.waiters = []

namespace Within

variable {t : Table RendezvousKey RendezvousEntry} {k : RendezvousKey} {e e' : RendezvousEntry}

theorem retain (h : Within t) (p : RendezvousKey → RendezvousEntry → Bool) :
    Within (t.retain p) where
  live := List.filter_sublist.length_le.trans h.live
  pairs i q := (Table.count_retain_le _ p t).trans (h.pairs i q)
  waiters k e hl := h.waiters k e (Table.lookup_retain.mp hl).1
  answered k e hl := h.answered k e (Table.lookup_retain.mp hl).1

theorem erase (h : Within t) (k : RendezvousKey) : Within (t.erase k) := by
  have hold : ∀ k' e, (t.erase k).lookup k' = some e → t.lookup k' = some e :=
    fun _ _ hl => (Table.lookup_erase_some.mp hl).2
  constructor
  · exact (List.kerase_sublist k t.entries).length_le.trans h.live
  · intro i q
    exact (Table.count_erase_le _ t k).trans (h.pairs i q)
  · intro k' e hl
    exact h.waiters k' e (hold k' e hl)
  · intro k' e hl
    exact h.answered k' e (hold k' e hl)

/-- An entry of the same request, with waiters that may stand there. -/
theorem replace (h : Within t) (hl : t.lookup k = some e) (hreq : e'.request = e.request)
    (hlen : e'.waiters.length ≤ maxInflightWaitersPerAttempt)
    (hans : e'.response.isSome = true → e'.waiters = []) : Within (t.insert k e') := by
  constructor
  · rw [Table.length_insert_of_isSome e' (by rw [hl]; rfl)]
    exact h.live
  · intro i p
    refine (Table.count_insert_le_of_imp hl ?_).trans (h.pairs i p)
    unfold pairTest
    rw [hreq]
    exact id
  · intro k' f hf
    rcases Table.lookup_insert_some.mp hf with ⟨rfl, rfl⟩ | ⟨-, hold⟩
    · exact hlen
    · exact h.waiters k' f hold
  · intro k' f hf
    rcases Table.lookup_insert_some.mp hf with ⟨rfl, rfl⟩ | ⟨-, hold⟩
    · exact hans
    · exact h.answered k' f hold

/-- A new attempt, where there is room for it. -/
theorem add (h : Within t) {i : P2pId} {r : SnTunnelRendezvous} {now : Timestamp}
    (hnone : t.lookup (.new i r) = none) (hlive : t.entries.length < maxLiveAttempts)
    (hpair : t.count (pairTest i r.toPeerId) < maxLiveAttemptsPerPair) :
    Within (t.insert (.new i r) (RendezvousState.fresh r now)) := by
  constructor
  · rw [Table.length_insert_of_none _ hnone]
    exact hlive
  · intro j p
    have hle := Table.count_insert_le (pairTest j p) t (.new i r) (RendezvousState.fresh r now)
    by_cases hself : pairTest j p (.new i r) (RendezvousState.fresh r now) = true
    · have hsame : i = j ∧ r.toPeerId = p := of_decide_eq_true hself
      obtain ⟨rfl, rfl⟩ := hsame
      rw [if_pos hself] at hle
      exact hle.trans hpair
    · rw [if_neg hself] at hle
      exact hle.trans (h.pairs j p)
  · intro k f hf
    rcases Table.lookup_insert_some.mp hf with ⟨rfl, rfl⟩ | ⟨-, hold⟩
    · exact Nat.zero_le _
    · exact h.waiters k f hold
  · intro k f hf
    rcases Table.lookup_insert_some.mp hf with ⟨rfl, rfl⟩ | ⟨-, hold⟩
    · exact fun _ => rfl
    · exact h.answered k f hold

end Within

section Entries

variable {s : RendezvousState}

theorem within_join (h : Within s.entries) {k : RendezvousKey} {e : RendezvousEntry}
    (hl : s.entries.lookup k = some e) (r : SnTunnelRendezvous) (w : Nat) :
    Within (s.join k e r w).state.entries := by
  unfold RendezvousState.join
  by_cases hreq : (!e.request.eq r) = true
  · rwa [if_pos hreq]
  · rw [if_neg hreq]
    cases hresp : e.response with
    | some resp => exact h
    | none =>
      dsimp only
      by_cases hfull : maxInflightWaitersPerAttempt ≤ e.waiters.length
      · rwa [if_pos hfull]
      · rw [if_neg hfull]
        refine h.replace hl rfl ?_ ?_
        · rw [List.length_append, List.length_singleton]
          exact not_le.mp hfull
        · intro hsome
          cases hsome

theorem within_create (h : Within s.entries) {i : P2pId} {r : SnTunnelRendezvous}
    (hnone : s.entries.lookup (.new i r) = none) (now : Timestamp) :
    Within (s.create i r now).state.entries := by
  unfold RendezvousState.create
  dsimp only
  split_ifs with hfull hrate
  · exact h
  · exact h
  · rw [not_or, not_le, not_le, pairAttempts_eq] at hfull
    exact h.add hnone hfull.1 hfull.2

theorem within_begin (h : Within s.entries) (i : P2pId) (r : SnTunnelRendezvous) (now : Timestamp)
    (w : Nat) : Within (s.begin i r now w).state.entries := by
  have hclean : Within (s.cleanup now).state.entries := h.retain fun _ e => e.live now
  rcases s.begin_cases i r now w with ⟨e, hl, heq⟩ | ⟨hnone, heq⟩
  · rw [heq]
    exact within_join hclean hl r w
  · rw [heq]
    exact within_create hclean hnone now

theorem within_cacheResponse (h : Within s.entries) (i : P2pId) (r : SnTunnelRendezvous)
    (resp : SnTunnelRendezvousResp) (now : Timestamp) :
    Within (s.cacheResponse i r resp now).state.entries := by
  rcases s.cacheResponse_cases i r resp now with ⟨hst, -⟩ | ⟨e, -, -, heq⟩ | ⟨e, hl, -, -, -, heq⟩
  · rwa [hst]
  · rw [heq]
    exact h.erase _
  · rw [heq]
    exact h.replace hl rfl (Nat.zero_le _) fun _ => rfl

theorem within_failUnanswered (h : Within s.entries) (i : P2pId) (r : SnTunnelRendezvous) :
    Within (s.failUnanswered i r).state.entries := by
  rcases s.failUnanswered_cases i r with ⟨hst, -⟩ | ⟨e, -, -, -, heq⟩
  · rwa [hst]
  · rw [heq]
    exact h.erase _

end Entries

/-- The table within its limits, and every rate window sorted and within its own. -/
structure Bounded (s : RendezvousState) : Prop extends Within s.entries where
  windows : ∀ i ts, s.rateWindows.lookup i = some ts →
    ts.Pairwise (· ≤ ·) ∧ ts.length ≤ maxRequestsPerInitiatorWindow

/-! ## Runs -/

namespace System

variable {s : System}

/-- `begin` of this operation returns `New` for the initiator. -/
def admits (s : System) (initiator : P2pId) : Op → Bool
  | .begin i r now => i = initiator && isNew (s.begins i r now).result
  | _ => false

/-- How often `begin` returns `New` for the initiator. -/
def news (initiator : P2pId) : System → List Op → Nat
  | _, [] => 0
  | s, op :: ops => (if s.admits initiator op then 1 else 0) + news initiator (s.step op) ops

theorem within_step (h : Within s.state.entries) (op : Op) :
    Within (s.step op).state.entries := by
  cases op with
  | begin i r now => exact within_begin h i r now _
  | cacheResponse i r resp now => exact within_cacheResponse h i r resp now
  | failUnanswered i r => exact within_failUnanswered h i r
  | removePeer p => exact h.retain (RendezvousState.keeps p)

/-- An operation takes timestamps from the front of a window, or is a `begin` that admits. -/
theorem window_step (s : System) (op : Op) (i : P2pId) :
    ((s.step op).state.window i <:+ s.state.window i ∧ s.admits i op = false) ∨
    ∃ r now, op = .begin i r now ∧
      ((s.state.window i).dropWhile (RendezvousState.stale now)).length <
        maxRequestsPerInitiatorWindow ∧
      (s.step op).state.window i =
        (s.state.window i).dropWhile (RendezvousState.stale now) ++ [now] := by
  cases op with
  | begin j r now =>
    rcases s.state.window_begin j r now s.joined.length with ⟨hnew, hlen, hwin⟩ | ⟨hold, hwin⟩
    · by_cases hij : i = j
      · subst hij
        exact .inr ⟨r, now, rfl, hlen, (hwin i).trans (if_pos rfl)⟩
      · refine .inl ⟨?_, ?_⟩
        · show (s.begins j r now).state.window i <:+ _
          rw [show (s.begins j r now).state.window i = _ from hwin i, if_neg hij]
          exact List.dropWhile_suffix _
        · simp [admits, Ne.symm hij]
    · refine .inl ⟨?_, ?_⟩
      · show (s.begins j r now).state.window i <:+ _
        rw [show (s.begins j r now).state.window i = _ from hwin i]
        exact List.dropWhile_suffix _
      · rw [admits, show isNew (s.begins j r now).result = false from hold, Bool.and_false]
  | cacheResponse j r resp now =>
    exact .inl ⟨(RendezvousState.window_cacheResponse j r resp now i).symm ▸ List.suffix_rfl, rfl⟩
  | failUnanswered j r =>
    exact .inl ⟨(RendezvousState.window_failUnanswered j r i).symm ▸ List.suffix_rfl, rfl⟩
  | removePeer p =>
    refine .inl ⟨?_, rfl⟩
    show (s.state.removePeer p).state.window i <:+ _
    rw [RendezvousState.window_removePeer]
    split_ifs
    · exact List.nil_suffix
    · exact List.suffix_rfl

/-- The rate windows, and that they lie before the moments of `rest`. -/
structure Timely (s : System) (rest : List Timestamp) : Prop where
  sorted : ∀ i, (s.state.window i).Pairwise (· ≤ ·)
  short : ∀ i, (s.state.window i).length ≤ maxRequestsPerInitiatorWindow
  past : ∀ i, ∀ t ∈ s.state.window i, ∀ now ∈ rest, t ≤ now

theorem timely_step {op : Op} {rest : List Timestamp} (h : Timely s (op.clock.toList ++ rest))
    (hclock : ∀ now, op.clock = some now → ∀ t ∈ rest, now ≤ t) : Timely (s.step op) rest := by
  have hwin := fun i => s.window_step op i
  constructor
  · intro i
    rcases hwin i with ⟨hsuffix, -⟩ | ⟨r, now, rfl, -, hadd⟩
    · exact (h.sorted i).sublist hsuffix.sublist
    · rw [hadd, List.pairwise_append]
      refine ⟨(h.sorted i).sublist (List.dropWhile_suffix _).sublist, List.pairwise_singleton .., ?_⟩
      intro t ht t' ht'
      rw [List.mem_singleton.mp ht']
      exact h.past i t ((List.dropWhile_suffix _).subset ht) now (List.mem_append_left _ (.head _))
  · intro i
    rcases hwin i with ⟨hsuffix, -⟩ | ⟨r, now, rfl, hlen, hadd⟩
    · exact hsuffix.length_le.trans (h.short i)
    · rw [hadd, List.length_append, List.length_singleton]
      exact hlen
  · intro i t ht now' hnow'
    rcases hwin i with ⟨hsuffix, -⟩ | ⟨r, now, rfl, -, hadd⟩
    · exact h.past i t (hsuffix.subset ht) now' (List.mem_append_right _ hnow')
    · rw [hadd, List.mem_append, List.mem_singleton] at ht
      rcases ht with hold | rfl
      · exact h.past i t ((List.dropWhile_suffix _).subset hold) now' (List.mem_append_right _ hnow')
      · exact hclock t rfl now' hnow'

theorem timely_exec {ops : List Op} (h : Timely s (ops.filterMap Op.clock))
    (hclock : (ops.filterMap Op.clock).Pairwise (· ≤ ·)) : Timely (exec step s ops) [] := by
  induction ops generalizing s with
  | nil => exact h
  | cons op ops ih =>
    have hsplit : (op :: ops).filterMap Op.clock = op.clock.toList ++ ops.filterMap Op.clock := by
      rw [List.filterMap_cons]
      cases op.clock <;> rfl
    rw [hsplit] at h hclock
    obtain ⟨-, hrest, hfirst⟩ := List.pairwise_append.mp hclock
    refine ih (timely_step h fun now hnow t ht => ?_) hrest
    exact hfirst now (by rw [hnow]; exact .head _) t ht

theorem timely_init (rest : List Timestamp) : Timely .init rest where
  sorted _ := .nil
  short _ := Nat.zero_le _
  past _ t ht := by cases ht

/-- Whatever the operations are, the table is within its limits. -/
theorem bounded_exec (ops : List Op) (hclock : (ops.filterMap Op.clock).Pairwise (· ≤ ·)) :
    Bounded (exec step .init ops).state where
  toWithin := by
    refine exec_inv_all (I := fun s : System => Within s.state.entries)
      (fun s op h => within_step h op) ?_ ops
    exact ⟨Nat.zero_le _, fun _ _ => Nat.zero_le _, nofun, nofun⟩
  windows i ts hts := by
    have htimely := timely_exec (timely_init _) hclock
    have hwin : (exec step .init ops).state.window i = ts := by
      unfold RendezvousState.window
      rw [hts]
      rfl
    exact ⟨hwin ▸ htimely.sorted i, hwin ▸ htimely.short i⟩

/-! ## One interval -/

/-- The timestamps of an initiator from `a` on. -/
def recent (s : System) (initiator : P2pId) (a : Nat) : Nat :=
  (s.state.window initiator).countP fun t => a ≤ t.val

/-- What is stale at a moment of the interval is from before the interval. -/
theorem countP_evict {a : Nat} {now : Timestamp} (hnow : now.val ≤ a + rateWindow.val)
    (ts : List Timestamp) :
    (ts.dropWhile (RendezvousState.stale now)).countP (fun t => a ≤ t.val) =
      ts.countP fun t => a ≤ t.val := by
  induction ts with
  | nil => rfl
  | cons t ts ih =>
    by_cases hstale : RendezvousState.stale now t = true
    · have hold : ¬ a ≤ t.val := by
        have hlt : (saturatingAdd t rateWindow).val < now.val := of_decide_eq_true hstale
        rw [saturatingAdd_val] at hlt
        have hmax := now.isLt
        omega
      rw [List.dropWhile_cons_of_pos hstale, ih, List.countP_cons_of_neg (by simpa using hold)]
    · rw [List.dropWhile_cons_of_neg hstale]

/-- An attempt that is admitted in the interval is in the window from then on. -/
theorem recent_step {op : Op} {i : P2pId} {a : Nat} (hremove : op ≠ .removePeer i)
    (hclock : ∀ now, op.clock = some now → a ≤ now.val ∧ now.val ≤ a + rateWindow.val) :
    s.recent i a + (if s.admits i op then 1 else 0) ≤ (s.step op).recent i a := by
  unfold recent
  cases op with
  | begin j r now =>
    obtain ⟨hfrom, hto⟩ := hclock now rfl
    rcases s.state.window_begin j r now s.joined.length with ⟨-, -, hwin⟩ | ⟨hold, hwin⟩
    · show _ ≤ ((s.begins j r now).state.window i).countP _
      rw [show (s.begins j r now).state.window i = _ from hwin i]
      by_cases hij : i = j
      · subst hij
        rw [if_pos rfl, List.countP_append, countP_evict hto]
        have hone : [now].countP (fun t => decide (a ≤ t.val)) = 1 := by simpa using hfrom
        rw [hone]
        split_ifs
        · exact le_rfl
        · exact Nat.le_succ _
      · have hno : s.admits i (.begin j r now) = false := by simp [admits, Ne.symm hij]
        rw [if_neg hij, countP_evict hto, hno]
        exact le_rfl
    · have hno : s.admits i (.begin j r now) = false := by
        rw [admits, show isNew (s.begins j r now).result = false from hold, Bool.and_false]
      show _ ≤ ((s.begins j r now).state.window i).countP _
      rw [show (s.begins j r now).state.window i = _ from hwin i, countP_evict hto, hno]
      exact le_rfl
  | cacheResponse j r resp now =>
    show _ ≤ ((s.state.cacheResponse j r resp now).state.window i).countP _
    rw [RendezvousState.window_cacheResponse]
    exact le_rfl
  | failUnanswered j r =>
    show _ ≤ ((s.state.failUnanswered j r).state.window i).countP _
    rw [RendezvousState.window_failUnanswered]
    exact le_rfl
  | removePeer p =>
    have hip : i ≠ p := fun heq => hremove (heq ▸ rfl)
    show _ ≤ ((s.state.removePeer p).state.window i).countP _
    rw [RendezvousState.window_removePeer, if_neg hip]
    exact le_rfl

theorem recent_exec {ops : List Op} {i : P2pId} {a : Nat} (hremove : .removePeer i ∉ ops)
    (hclock : ∀ now ∈ ops.filterMap Op.clock, a ≤ now.val ∧ now.val ≤ a + rateWindow.val) :
    s.recent i a + s.news i ops ≤ (exec step s ops).recent i a := by
  induction ops generalizing s with
  | nil => exact le_rfl
  | cons op ops ih =>
    rw [List.mem_cons, not_or] at hremove
    have hstep := s.recent_step (Ne.symm hremove.1) fun now hnow =>
      hclock now (List.mem_filterMap.mpr ⟨op, .head _, hnow⟩)
    have hrest := ih (s := s.step op) hremove.2 fun now hnow => by
      obtain ⟨op', hop', heq⟩ := List.mem_filterMap.mp hnow
      exact hclock now (List.mem_filterMap.mpr ⟨op', .tail _ hop', heq⟩)
    show s.recent i a + ((if s.admits i op then 1 else 0) + (s.step op).news i ops) ≤ _
    rw [exec_cons]
    omega

end System

/-- The table is bounded after every run; and in a part of a run that lies within one
`RATE_WINDOW` and in which the initiator is not removed, it is admitted at most 32 times. -/
theorem attempts_bounded (ops : List Op) (hclock : (ops.filterMap Op.clock).Pairwise (· ≤ ·)) :
    Bounded (exec System.step .init ops).state ∧
    ∀ before during after, ops = before ++ during ++ after → ∀ (i : P2pId) (a : Nat),
      .removePeer i ∉ during →
      (∀ now ∈ during.filterMap Op.clock, a ≤ now.val ∧ now.val ≤ a + rateWindow.val) →
      (exec System.step .init before).news i during ≤ maxRequestsPerInitiatorWindow := by
  refine ⟨System.bounded_exec ops hclock, ?_⟩
  rintro before during after rfl i a hremove hinside
  rw [List.filterMap_append, List.pairwise_append] at hclock
  have htimely := System.timely_exec (System.timely_init _) hclock.1
  rw [exec_append] at htimely
  have hrecent := System.recent_exec (s := exec System.step .init before) hremove hinside
  have hcount : (exec System.step (exec System.step .init before) during).recent i a ≤
      maxRequestsPerInitiatorWindow := List.countP_le_length.trans (htimely.short i)
  exact (Nat.le_add_left _ _).trans (hrecent.trans hcount)

/-- A request of peer `[1]` to peer `[2]`. -/
def firstAttempt : SnTunnelRendezvous :=
  ⟨1, 1, [2], .waitIncoming, [], false⟩

theorem attempts_bounded_once :
    Bounded (exec System.step .init [.begin [1] firstAttempt 5]).state ∧
    (exec System.step .init []).news [1] [.begin [1] firstAttempt 5] ≤
      maxRequestsPerInitiatorWindow := by
  have h := attempts_bounded [.begin [1] firstAttempt 5] (by decide)
  refine ⟨h.1, h.2 [] [.begin [1] firstAttempt 5] [] rfl [1] 0 (by decide) ?_⟩
  intro now hnow
  rw [List.mem_singleton.mp hnow]
  exact ⟨Nat.zero_le _, by decide⟩

end BuckyP2p.Rendezvous
