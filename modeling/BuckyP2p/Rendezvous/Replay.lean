import BuckyP2p.Rendezvous.Waiters

/-!
# BuckyP2p.Rendezvous.Replay — one executor for a key, and what a replay can learn

* `Lives`: the entry that a `New` of `begin` created, with its request and its expiry.  One step
  ends it only by its expiry, by `fail_unanswered` of an equal request, or by `remove_peer` of its
  initiator or target (`Lives.step`).
* `single_executor`: what follows for two `New` of one key, for a request that conflicts with a live
  entry, and for the responses that are cached or sent.
-/

namespace BuckyP2p.Rendezvous

open Lib

/-- The clocks of the operations do not go back. -/
def Clocked (ops : List Op) : Prop := (ops.filterMap Op.clock).Pairwise (· ≤ ·)

instance (ops : List Op) : Decidable (Clocked ops) :=
  inferInstanceAs (Decidable ((ops.filterMap Op.clock).Pairwise (· ≤ ·)))

theorem Clocked.le_last {pre : List Op} {op last : Op} {post : List Op} {t now : Timestamp}
    (h : Clocked (pre ++ op :: post ++ [last])) (hop : op.clock = some t)
    (hlast : last.clock = some now) : t ≤ now := by
  unfold Clocked at h
  rw [List.filterMap_append, List.pairwise_append] at h
  refine h.2.2 t ?_ now ?_
  · exact List.mem_filterMap.mpr ⟨op, by simp, hop⟩
  · exact List.mem_filterMap.mpr ⟨last, by simp, hlast⟩

/-! ## The life of an entry -/

/-- The table has the entry of the request `r`, which expires at `exp`. -/
def Lives (k : RendezvousKey) (r : SnTunnelRendezvous) (exp : Timestamp) (s : System) : Prop :=
  ∃ e, s.state.entries.lookup k = some e ∧ e.request = r ∧ e.expiresAt = exp

/-- The entry of `begin i r` is ended: an equal request failed before it was answered, or one of its
two peers left. -/
inductive Ends (i : P2pId) (r : SnTunnelRendezvous) : Op → Prop
  | failed (q : SnTunnelRendezvous) (h : r.eq q = true) : Ends i r (.failUnanswered i q)
  | left (p : P2pId) (h : p = i ∨ p = r.toPeerId) : Ends i r (.removePeer p)

namespace Lives

variable {i : P2pId} {r : SnTunnelRendezvous} {exp now : Timestamp} {s : System}

/-- After a `New` the entry is there. -/
theorem of_new (h : (s.begins i r now).result = .ok .new) :
    Lives (.new i r) r (saturatingAdd now maxRequestLifetime) (s.step (.begin i r now)) := by
  unfold System.begins at h
  rcases s.state.begin_cases i r now s.joined.length with ⟨e, hl, heq⟩ | ⟨hl, heq⟩
  · rw [heq] at h
    exact absurd h (RendezvousState.join_ne_new _ _ _ _ _)
  · simp only [Lives, System.step, System.begins]
    rw [heq] at h ⊢
    obtain ⟨-, ⟨-, err, hres⟩ | ⟨hst, -⟩⟩ := (s.state.cleanup now).state.create_cases i r now
    · rw [hres] at h
      cases h
    · rw [hst]
      exact ⟨_, AList.lookup_insert _, rfl, rfl⟩

/-- A live entry is not replaced: `begin` with its key does not return `New`. -/
theorem not_new {r' : SnTunnelRendezvous} (h : Lives (.new i r) r exp s) (hnow : now < exp)
    (hk : RendezvousKey.new i r' = .new i r) : (s.begins i r' now).result ≠ .ok .new := by
  obtain ⟨e, hl, -, hexp⟩ := h
  have hclean : (s.state.cleanup now).state.entries.lookup (.new i r') = some e := by
    rw [hk]
    exact RendezvousState.lookup_cleanup.mpr ⟨hl, by simpa [RendezvousEntry.live, hexp] using hnow⟩
  unfold System.begins
  rcases s.state.begin_cases i r' now s.joined.length with ⟨e', -, heq⟩ | ⟨hnone, -⟩
  · rw [heq]
    exact RendezvousState.join_ne_new _ _ _ _ _
  · rw [hclean] at hnone
    cases hnone

/-- What one step can do to the entry: keep it, outlive it, or end it. -/
theorem step (h : Lives (.new i r) r exp s) (op : Op) :
    Lives (.new i r) r exp (s.step op) ∨ (∃ t, op.clock = some t ∧ exp ≤ t) ∨
      (Ends i r op ∧ (s.step op).state.entries.lookup (.new i r) = none) := by
  obtain ⟨e, hl, hreq, hexp⟩ := h
  cases op with
  | begin i' r' t =>
    by_cases ht : exp ≤ t
    · exact .inr (.inl ⟨t, rfl, ht⟩)
    refine .inl ?_
    have hclean : (s.state.cleanup t).state.entries.lookup (.new i r) = some e := by
      refine RendezvousState.lookup_cleanup.mpr ⟨hl, ?_⟩
      simpa [RendezvousEntry.live, hexp] using ht
    simp only [Lives, System.step, System.begins]
    rcases s.state.begin_cases i' r' t s.joined.length with ⟨e', hl', heq⟩ | ⟨hl', heq⟩
    · rw [heq]
      rcases (s.state.cleanup t).state.join_cases (.new i' r') e' r' s.joined.length with
        ⟨hst, -, -⟩ | ⟨-, -, -, -, hst⟩
      · rw [hst]
        exact ⟨e, hclean, hreq, hexp⟩
      · rw [hst]
        by_cases hk : RendezvousKey.new i r = .new i' r'
        · -- a waiter joins this very entry
          rw [hk, hl'] at hclean
          cases hclean
          rw [hk]
          exact ⟨_, AList.lookup_insert _, hreq, hexp⟩
        · exact ⟨e, (AList.lookup_insert_ne hk).trans hclean, hreq, hexp⟩
    · rw [heq]
      obtain ⟨-, ⟨hst, -⟩ | ⟨hst, -⟩⟩ := (s.state.cleanup t).state.create_cases i' r' t
      · rw [hst]
        exact ⟨e, hclean, hreq, hexp⟩
      · have hk : RendezvousKey.new i r ≠ .new i' r' := by
          intro hk
          rw [hk, hl'] at hclean
          cases hclean
        rw [hst]
        exact ⟨e, (AList.lookup_insert_ne hk).trans hclean, hreq, hexp⟩
  | cacheResponse i' r' resp t =>
    by_cases ht : exp ≤ t
    · exact .inr (.inl ⟨t, rfl, ht⟩)
    refine .inl ?_
    simp only [Lives, System.step]
    rcases s.state.cacheResponse_cases i' r' resp t with
      ⟨hst, -⟩ | ⟨e', hl', hdead, heq⟩ | ⟨e', hl', -, -, -, heq⟩
    · rw [hst]
      exact ⟨e, hl, hreq, hexp⟩
    · have hk : RendezvousKey.new i r ≠ .new i' r' := by
        intro hk
        rw [hk, hl'] at hl
        cases hl
        simp only [RendezvousEntry.live, hexp, decide_eq_false_iff_not, not_lt] at hdead
        exact ht hdead
      rw [heq]
      exact ⟨e, (AList.lookup_erase_ne hk).trans hl, hreq, hexp⟩
    · rw [heq]
      by_cases hk : RendezvousKey.new i r = .new i' r'
      · rw [hk, hl'] at hl
        cases hl
        rw [hk]
        exact ⟨_, AList.lookup_insert _, hreq, hexp⟩
      · exact ⟨e, (AList.lookup_insert_ne hk).trans hl, hreq, hexp⟩
  | failUnanswered i' q =>
    simp only [Lives, System.step]
    rcases s.state.failUnanswered_cases i' q with ⟨hst, -⟩ | ⟨e', hl', heq', -, heq⟩
    · rw [hst]
      exact .inl ⟨e, hl, hreq, hexp⟩
    · rw [heq]
      by_cases hk : RendezvousKey.new i r = .new i' q
      · obtain rfl : i = i' := congrArg RendezvousKey.initiator hk
        rw [hk] at hl ⊢
        rw [hl'] at hl
        cases hl
        exact .inr (.inr ⟨.failed q (hreq ▸ heq'), AList.lookup_erase _ _⟩)
      · exact .inl ⟨e, (AList.lookup_erase_ne hk).trans hl, hreq, hexp⟩
  | removePeer p =>
    by_cases hp : p = i ∨ p = r.toPeerId
    · refine .inr (.inr ⟨.left p hp, Option.eq_none_iff_forall_ne_some.mpr ?_⟩)
      intro e' hl'
      obtain ⟨hold, hkeep⟩ := Table.lookup_retain.mp hl'
      rw [hl] at hold
      cases hold
      simp only [RendezvousState.keeps, RendezvousKey.new, hreq, decide_eq_true_eq] at hkeep
      rcases hp with rfl | rfl
      · exact hkeep.1 rfl
      · exact hkeep.2 rfl
    · rw [not_or] at hp
      refine .inl ⟨e, Table.lookup_retain.mpr ⟨hl, ?_⟩, hreq, hexp⟩
      simp only [RendezvousState.keeps, RendezvousKey.new, hreq, decide_eq_true_eq]
      exact ⟨Ne.symm hp.1, Ne.symm hp.2⟩

end Lives

/-- Between two `New` of one key the entry of the first expired or was ended. -/
theorem new_again {i : P2pId} {r r' : SnTunnelRendezvous} {now now' : Timestamp} {s : System}
    {mid : List Op} (hk : RendezvousKey.new i r' = .new i r)
    (hclock : Clocked (mid ++ [.begin i r' now']))
    (hfirst : (s.begins i r now).result = .ok .new)
    (hsecond : ((exec System.step (s.step (.begin i r now)) mid).begins i r' now').result =
      .ok .new) :
    saturatingAdd now maxRequestLifetime ≤ now' ∨
      ∃ pre op post, mid = pre ++ op :: post ∧ Ends i r op ∧
        Lives (.new i r) r (saturatingAdd now maxRequestLifetime)
          (exec System.step (s.step (.begin i r now)) pre) ∧
        (exec System.step (s.step (.begin i r now)) (pre ++ [op])).state.entries.lookup
          (.new i r) = none := by
  by_cases hexp : saturatingAdd now maxRequestLifetime ≤ now'
  · exact .inl hexp
  rw [not_le] at hexp
  have hlost : ¬ Lives (.new i r) r (saturatingAdd now maxRequestLifetime)
      (exec System.step (s.step (.begin i r now)) mid) := by
    intro hlives
    exact hlives.not_new hexp hk hsecond
  obtain ⟨pre, op, post, rfl, hpre, hbreak⟩ := exec_break (Lives.of_new hfirst) hlost
  rcases (hpre.step op).resolve_left hbreak with ⟨t, ht, hle⟩ | ⟨hends, hnone⟩
  · exact absurd (hle.trans (hclock.le_last ht rfl)) (not_le.mpr hexp)
  · refine .inr ⟨pre, op, post, rfl, hends, hpre, ?_⟩
    rw [exec_append]
    exact hnone

/-! ## Conflicts -/

/-- The timestamps of a peer that still count at `now`. -/
def RendezvousState.recent (s : RendezvousState) (now : Timestamp) (p : P2pId) : List Timestamp :=
  ((s.rateWindows.lookup p).getD []).filter fun t => !stale now t

theorem filter_dropWhile_not {α : Type*} (f : α → Bool) (l : List α) :
    (l.dropWhile f).filter (fun a => !f a) = l.filter fun a => !f a := by
  induction l with
  | nil => rfl
  | cons a l ih =>
    by_cases ha : f a = true
    · rw [List.dropWhile_cons_of_pos ha, ih, List.filter_cons_of_neg (by simp [ha])]
    · rw [List.dropWhile_cons_of_neg ha]

/-- `cleanup` forgets only timestamps that no longer count. -/
theorem RendezvousState.recent_cleanup (s : RendezvousState) (now : Timestamp) (p : P2pId) :
    (s.cleanup now).state.recent now p = s.recent now p := by
  unfold recent
  cases hold : s.rateWindows.lookup p with
  | none =>
    cases hnew : (s.cleanup now).state.rateWindows.lookup p with
    | none => rfl
    | some ts =>
      obtain ⟨ts', hl, -⟩ := Table.lookup_mapValues.mp (Table.lookup_retain.mp hnew).1
      rw [hold] at hl
      cases hl
  | some ts =>
    rw [Option.getD_some, ← filter_dropWhile_not (stale now) ts]
    have hmap : (s.rateWindows.mapValues fun ts => ts.dropWhile (stale now)).lookup p =
        some (ts.dropWhile (stale now)) := Table.lookup_mapValues.mpr ⟨ts, hold, rfl⟩
    cases hnew : (s.cleanup now).state.rateWindows.lookup p with
    | none =>
      -- the window was dropped because nothing was left of it
      have hempty : ts.dropWhile (stale now) = [] := by
        by_contra hne
        have hkept : (s.cleanup now).state.rateWindows.lookup p =
            some (ts.dropWhile (stale now)) :=
          Table.lookup_retain.mpr ⟨hmap, by simpa using hne⟩
        rw [hnew] at hkept
        cases hkept
      rw [hempty]
      rfl
    | some ts' =>
      have hl := (Table.lookup_retain.mp hnew).1
      rw [hmap] at hl
      cases hl
      rfl

/-- The error for a key that is reused with another request. -/
def RendezvousState.reused : P2pError :=
  ⟨.conflict, "rendezvous sequence and tunnel id reused with different request"⟩

/-- A request that is not `==` to that of a live entry is refused, and changes nothing that has not
expired. -/
theorem conflict_refused {s : System} {i : P2pId} {r : SnTunnelRendezvous} {now : Timestamp}
    {e : RendezvousEntry} (hl : s.state.entries.lookup (.new i r) = some e)
    (hlive : e.live now = true) (hne : e.request.eq r = false) :
    (s.begins i r now).result = .error RendezvousState.reused ∧
      (∀ k e', e'.live now = true → (s.state.entries.lookup k = some e' ↔
        (s.step (.begin i r now)).state.entries.lookup k = some e')) ∧
      ∀ p, (s.step (.begin i r now)).state.recent now p = s.state.recent now p := by
  have hclean := RendezvousState.lookup_cleanup.mpr ⟨hl, hlive⟩
  have hdone : s.begins i r now =
      { result := .error RendezvousState.reused, state := (s.state.cleanup now).state,
        sends := (s.state.cleanup now).sends ++ [] } := by
    unfold System.begins
    rcases s.state.begin_cases i r now s.joined.length with ⟨e', hl', heq⟩ | ⟨hnone, -⟩
    · rw [hclean] at hl'
      cases hl'
      rw [heq, RendezvousState.join, if_pos (by simp [hne])]
      rfl
    · rw [hclean] at hnone
      cases hnone
  have hres : (s.begins i r now).result = .error RendezvousState.reused := by rw [hdone]
  refine ⟨hres, fun k e' hlive' => ?_, fun p => ?_⟩
  · have herr : s.error (.begin i r now) = some RendezvousState.reused := by
      simp only [System.error, hres]
    exact System.error_frame herr rfl k e' hlive'
  · simp only [System.step, hdone]
    exact s.state.recent_cleanup now p

/-! ## What is handed out -/

/-- A cached response carries no endpoints; for a request that asked for a prediction it is the
failure. -/
theorem cached_empty {s : System} (h : s.Tidy) {i : P2pId} {r : SnTunnelRendezvous}
    {now : Timestamp} {resp : SnTunnelRendezvousResp}
    (hres : (s.begins i r now).result = .ok (.cached resp)) :
    resp.predictedEndpointArray = [] ∧ (r.needPredictEndpoint = true → resp = .failure r.seq) := by
  unfold System.begins at hres
  rcases s.state.begin_cases i r now s.joined.length with ⟨e, hl, heq⟩ | ⟨-, heq⟩
  · rw [heq] at hres
    obtain ⟨hreq, hresp⟩ := RendezvousState.join_cached hres
    obtain ⟨-, hempty, hfail⟩ := h.answered _ e resp (RendezvousState.lookup_cleanup.mp hl).1 hresp
    have hfields := SnTunnelRendezvous.eq_fields hreq
    refine ⟨hempty, fun hneed => ?_⟩
    rw [hfail (hfields.2.2.2.trans hneed), hfields.1]
  · rw [heq] at hres
    obtain ⟨-, ⟨-, err, herr⟩ | ⟨-, hnew⟩⟩ := (s.state.cleanup now).state.create_cases i r now
    · rw [herr] at hres
      cases hres
    · rw [hnew] at hres
      cases hres

/-- A response is sent only by `cache_response`, to the waiters that the entry has then. -/
theorem sent_in_flight (s : System) (op : Op) :
    ∃ sent, (s.step op).outcomes = s.outcomes ++ sent ∧
      ∀ w resp, (w, .ok resp) ∈ sent → ∃ i r now e, op = .cacheResponse i r resp now ∧
        s.state.entries.lookup (.new i r) = some e ∧ w ∈ e.waiters := by
  cases op with
  | begin i r now =>
    refine ⟨(s.begins i r now).sends, rfl, ?_⟩
    intro w resp hmem
    rw [System.begins, RendezvousState.begin_sends] at hmem
    cases RendezvousState.mem_collect_drain hmem
  | cacheResponse i r resp' now =>
    refine ⟨(s.state.cacheResponse i r resp' now).sends, rfl, ?_⟩
    intro w resp hmem
    rcases s.state.cacheResponse_cases i r resp' now with
      ⟨-, hsend, -⟩ | ⟨e, -, -, heq⟩ | ⟨e, hl, -, -, -, heq⟩
    · rw [hsend] at hmem
      cases hmem
    · rw [heq] at hmem
      cases (RendezvousState.mem_drain hmem).1
    · rw [heq] at hmem
      obtain ⟨hresp, hw⟩ := RendezvousState.mem_drain hmem
      cases hresp
      exact ⟨i, r, now, e, rfl, hl, hw⟩
  | failUnanswered i r =>
    refine ⟨(s.state.failUnanswered i r).sends, rfl, ?_⟩
    intro w resp hmem
    rcases s.state.failUnanswered_cases i r with ⟨-, hsend⟩ | ⟨e, -, -, -, heq⟩
    · rw [hsend] at hmem
      cases hmem
    · rw [heq] at hmem
      cases (RendezvousState.mem_drain hmem).1
  | removePeer p =>
    refine ⟨(s.state.removePeer p).sends, rfl, ?_⟩
    intro w resp hmem
    cases RendezvousState.mem_collect_drain hmem

/-! ## The result -/

/-- **One executor, and nothing for a replay.**  In every run: two `New` of one key have an expiry,
a failure or the removal of a peer between them; a request that is not `==` to that of a live entry
is refused and changes nothing that has not expired; what is returned as cached carries no
endpoints, and is the failure if a prediction was asked for; and a response is otherwise only sent
to the waiters of the entry at that time. -/
theorem single_executor (ops : List Op) :
    (∀ mid i r r' now now', Clocked (ops ++ .begin i r now :: mid ++ [.begin i r' now']) →
      RendezvousKey.new i r' = .new i r →
      ((exec System.step .init ops).begins i r now).result = .ok .new →
      ((exec System.step .init (ops ++ .begin i r now :: mid)).begins i r' now').result = .ok .new →
      saturatingAdd now maxRequestLifetime ≤ now' ∨
        ∃ pre op post, mid = pre ++ op :: post ∧ Ends i r op ∧
          Lives (.new i r) r (saturatingAdd now maxRequestLifetime)
            (exec System.step .init (ops ++ .begin i r now :: pre)) ∧
          (exec System.step .init (ops ++ .begin i r now :: (pre ++ [op]))).state.entries.lookup
            (.new i r) = none) ∧
    (∀ i r now e, (exec System.step .init ops).state.entries.lookup (.new i r) = some e →
      e.live now = true → e.request.eq r = false →
      ((exec System.step .init ops).begins i r now).result = .error RendezvousState.reused ∧
        (∀ k e', e'.live now = true →
          ((exec System.step .init ops).state.entries.lookup k = some e' ↔
            (exec System.step .init (ops ++ [.begin i r now])).state.entries.lookup k = some e')) ∧
        ∀ p, (exec System.step .init (ops ++ [.begin i r now])).state.recent now p =
          (exec System.step .init ops).state.recent now p) ∧
    (∀ i r now resp, ((exec System.step .init ops).begins i r now).result = .ok (.cached resp) →
      resp.predictedEndpointArray = [] ∧
        (r.needPredictEndpoint = true → resp = .failure r.seq)) ∧
    ∀ op, ∃ sent, (exec System.step .init (ops ++ [op])).outcomes =
        (exec System.step .init ops).outcomes ++ sent ∧
      ∀ w resp, (w, .ok resp) ∈ sent → ∃ i r now e, op = .cacheResponse i r resp now ∧
        (exec System.step .init ops).state.entries.lookup (.new i r) = some e ∧
          w ∈ e.waiters := by
  have hlast : ∀ op, exec System.step .init (ops ++ [op]) =
      (exec System.step .init ops).step op := fun op => exec_append ..
  have hafter : ∀ op rest, exec System.step .init (ops ++ op :: rest) =
      exec System.step ((exec System.step .init ops).step op) rest := fun op rest => exec_append ..
  refine ⟨?_, ?_, ?_, ?_⟩
  · intro mid i r r' now now' hclock hk hfirst hsecond
    simp only [hafter] at hsecond ⊢
    refine new_again hk ?_ hfirst hsecond
    refine List.Pairwise.sublist (List.Sublist.filterMap _ ?_) hclock
    rw [List.append_assoc, List.cons_append]
    exact (List.sublist_cons_self _ _).trans (List.sublist_append_right _ _)
  · intro i r now e hl hlive hne
    rw [hlast]
    exact conflict_refused hl hlive hne
  · intro i r now resp hres
    exact cached_empty (System.tidy_exec ops) hres
  · intro op
    rw [hlast]
    exact sent_in_flight _ op

/-- `sample` with the area of its endpoint changed: `==`, and yet another request. -/
def relabelled : SnTunnelRendezvous :=
  { sample with endPointArray := [⟨.wan, .quic, .v4 ⟨192, 0, 2, 10⟩ 40001⟩] }

/-- **Two executors at the end of time, and a different request that is no conflict.**  At
`u64::MAX` the expiry saturates, so that an entry is expired when it is created; and a request that
differs from that of a live entry in the area of an endpoint joins its waiters. -/
theorem executor_twice :
    (((exec System.step .init []).begins [1] sample u64Max).result = .ok .new ∧
      ((exec System.step .init [.begin [1] sample u64Max]).begins [1] sample u64Max).result =
        .ok .new) ∧
    relabelled ≠ sample ∧
      ((exec System.step .init [.begin [1] sample 0]).begins [1] relabelled 1).result =
        .ok (.inFlight 0) := by
  decide +kernel

/-- An attempt with a prediction: executed, joined, answered, asked for again. -/
def predicted : List Op :=
  [.begin [1] { sample with needPredictEndpoint := true } 0,
    .begin [1] { sample with needPredictEndpoint := true } 1,
    .cacheResponse [1] { sample with needPredictEndpoint := true }
      (.success 7 sample.endPointArray) 2]

theorem single_executor_predicted :
    (saturatingAdd 0 maxRequestLifetime ≤ (30000000 : Timestamp) ∨
      ∃ pre op post, predicted.tail = pre ++ op :: post ∧
        Ends [1] { sample with needPredictEndpoint := true } op) ∧
    ((exec System.step .init predicted).begins [1] sample 3).result =
      .error RendezvousState.reused ∧
    ((exec System.step .init predicted).begins [1]
      { sample with needPredictEndpoint := true } 3).result = .ok (.cached (.failure 7)) := by
  have hcached : ((exec System.step .init predicted).begins [1]
      { sample with needPredictEndpoint := true } 3).result = .ok (.cached (.failure 7)) := by
    decide +kernel
  refine ⟨?_, ?_, hcached⟩
  · rcases (single_executor []).1 predicted.tail [1] { sample with needPredictEndpoint := true }
      { sample with needPredictEndpoint := true } 0 30000000 (by decide +kernel) rfl
      (by decide +kernel) (by decide +kernel) with h | ⟨pre, op, post, h, hends, -⟩
    · exact .inl h
    · exact .inr ⟨pre, op, post, h, hends⟩
  · exact ((single_executor predicted).2.1 [1] sample 3
      ⟨{ sample with needPredictEndpoint := true }, 30000000, some (.failure 7), []⟩
      (by decide +kernel) (by decide) (by decide)).1

end BuckyP2p.Rendezvous
