import BuckyP2p.ControlStream.Link
import BuckyP2p.ControlStream.Strand

/-!
# BuckyP2p.ControlStream.Exchange — the streams of a link, one by one

`Endpoint.strand` cuts the strand of an id out of an end.  Whatever the end does is a step of the strand
(`strand_step`), and a step of the link is a step of one of the two strands of a stream, or it makes
the stream (`pair_step`).  `exec_pairs` is the run rule: what the steps of two strands preserve holds
of every stream of every run.
-/

namespace BuckyP2p.ControlStream

open Lib
open Tcp (TunnelPurpose)

/-! ### Cutting a stream out of an end -/

/-- What belongs to an id, without the id. -/
def pick {β : Type} (id : StreamId) : Option (StreamId × β) → Option β
  | some (i, b) => if i = id then some b else none
  | none => none

@[simp] theorem pick_self {β : Type} (id : StreamId) (b : β) : pick id (some (id, b)) = some b :=
  if_pos rfl

theorem pick_of_ne {β : Type} {i id : StreamId} (h : i ≠ id) (b : β) : pick id (some (i, b)) = none :=
  if_neg h

theorem pick_map {β γ : Type} (id : StreamId) (f : β → γ) (o : Option (StreamId × β)) :
    pick id (o.map fun e => (e.1, f e.2)) = (pick id o).map f := by
  cases o with
  | none => rfl
  | some e =>
    by_cases h : e.1 = id
    · simp [pick, h]
    · simp [pick, h]

def ControlStreamFrame.msg : ControlStreamFrame → Option (StreamId × Msg)
  | .openStream id _ => some (id, .ask)
  | .openResp id result => some (id, .answer (result = .success))
  | .data id _ => some (id, .data)
  | .fin id => some (id, .fin)
  | .reset id _ => some (id, .reset)
  | .window .. => none

def Handler.job : Handler → Option (StreamId × Task)
  | .checking frame _ => (frame.bind ControlStreamFrame.msg).map fun e => (e.1, e.2.task)
  | .openPending id _ _ | .openStreams id _ _ | .openListener id _ _ | .openInsert id _ _ =>
    some (id, .asked)
  | .openPrepare id _ _ _ => some (id, .preparing)
  | .openRemove id _ => some (id, .removing)
  | .answering id result => some (id, .answering (result = .success))
  | .respTake id result => some (id, .taking (result = .success))
  | .respSend id result _ => some (id, .telling (result = .success))
  | .respInsert id _ => some (id, .inserting)
  | .delivering id _ _ => some (id, .delivering)
  | .sendingReset id _ => some (id, .refusing)
  | .finishing id _ => some (id, .ending)
  | .resetting id _ => some (id, .resetting)

def OpenPhase.stage : OpenPhase → Stage
  | .checking | .allocating | .probingPending _ | .probingStreams _ | .inserting _ => .drawn
  | .sending _ _ => .sending
  | .waiting _ _ => .waiting
  | .leaving _ _ result => .leaving (result = .ok)
  | .dropping _ result | .returned _ result => .over (result = .ok)

def OpenCall.attempt (call : OpenCall) : Attempt :=
  ⟨call.phase.stage, call.waiter.map Except.isOk, call.waiterRx⟩

namespace Endpoint

variable {x : Endpoint} {k : Option Nat} {id : StreamId}

def attempt (opens : List OpenCall) (k : Option Nat) : Option Attempt :=
  (k.bind fun j => opens[j]?).map OpenCall.attempt

def job (handlers : List Handler) (id : StreamId) : Option Task :=
  pick id (handlers.head?.bind Handler.job)

def halves (writes : List WriteHalf) (id : StreamId) : List WriteState :=
  (writes.filter (·.id = id)).map (·.state)

/-- The messages for one id. -/
def msgs (frames : List ControlStreamFrame) (id : StreamId) : List Msg :=
  frames.filterMap fun f => pick id f.msg

def missed (lost : List Nat) (ins : List ControlStreamFrame) (id : StreamId) : List (List Msg) :=
  lost.filterMap fun j =>
    ((ins[j]?).bind fun f => pick id f.msg).map fun _ => msgs (ins.take j) id

def strand (x : Endpoint) (k : Option Nat) (id : StreamId) : Strand where
  call := attempt x.runtime.opens k
  pending := (x.runtime.pendingOpens.lookup id).isSome
  entry := (x.runtime.streams.lookup id).isSome
  task := job x.runtime.handlers id
  halves := halves x.runtime.writes id
  read := msgs x.ins id
  sent := msgs (x.runtime.out.map Prod.fst) id
  lost := missed x.runtime.lost x.ins id

/-- The reader of the stream is there, and its queue is not full. -/
def ready (x : Endpoint) (id : StreamId) : Bool :=
  match (x.runtime.streams.lookup id).bind fun c => x.runtime.chans[c]? with
  | none => true
  | some ch => ch.read.rx.receiverOpen && decide (controlStreamQueueTerminalReserve < ch.read.rx.free)

/-- What the end does when it does something that somebody may regret. -/
def Does (x : Endpoint) (k : Option Nat) (id : StreamId) (e : EndpointEvent) : Act → Prop
  | .quiet => True
  | .fails => x.ready id = false
  | .abandons => ∃ j call c, k = some j ∧ (e = .act (.openTimesOut j) ∨ e = .act (.openDropped j)) ∧
    x.runtime.opens[j]? = some call ∧ call.phase = .waiting id c
  | .drops => ∃ w origin, e = .act (.dropWrite w) ∧ x.runtime.writes[w]? = some ⟨id, origin, .live⟩
  | .ends => ∃ w origin, e = .act (.shutdown w) ∧ x.runtime.writes[w]? = some ⟨id, origin, .live⟩

/-- The call of `open` that has drawn the id, if one of this end has. -/
def Owner (x : Endpoint) (k : Option Nat) (id : StreamId) : Prop :=
  ∀ j, x.idOf j = some id ↔ k = some j

/-! ### The parts of a strand -/

theorem attempt_modify_self {f : OpenCall → OpenCall} {j : Nat} {call : OpenCall}
    {opens : List OpenCall} (hj : opens[j]? = some call) (hk : k = some j) :
    attempt (opens.modify j f) k = some (f call).attempt := by
  subst hk
  simp only [attempt, Option.bind_some, getElem?_modify_of_eq_some hj, Option.map_some]

theorem attempt_modify_other {f : OpenCall → OpenCall} {j : Nat} {opens : List OpenCall}
    (hk : k ≠ some j) : attempt (opens.modify j f) k = attempt opens k := by
  cases k with
  | none => rfl
  | some i =>
    have hij : i ≠ j := fun heq => hk (congrArg some heq)
    simp only [attempt, Option.bind_some, getElem?_modify_of_ne hij]

theorem Owner.iff (hk : x.Owner k id) {j : Nat} {i : StreamId} (hj : x.idOf j = some i) :
    k = some j ↔ i = id := by
  rw [← hk j, hj, Option.some.injEq]

theorem attempt_eq {j : Nat} {call : OpenCall} {opens : List OpenCall} (hj : opens[j]? = some call) :
    attempt opens (some j) = some call.attempt := by
  simp only [attempt, Option.bind_some, hj, Option.map_some]

@[simp] theorem job_nil : job [] id = none := rfl

@[simp] theorem job_singleton (task : Handler) : job [task] id = pick id task.job := rfl

theorem job_set {handlers : List Handler} {task : Handler} (task' : Handler)
    (hone : handlers = [task]) : job (handlers.set 0 task') id = pick id task'.job := by
  subst hone
  rfl

theorem job_erase {handlers : List Handler} {task : Handler} (hone : handlers = [task]) :
    job (handlers.eraseIdx 0) id = none := by
  subst hone
  rfl

theorem Typed.alone (h : Typed x) {i : Nat} {task : Handler}
    (hi : x.runtime.handlers[i]? = some task) : i = 0 ∧ x.runtime.handlers = [task] := by
  have hlen := h.single
  have hlt := (List.getElem?_eq_some_iff.mp hi).1
  obtain rfl : i = 0 := by omega
  obtain ⟨t, ht⟩ := List.length_eq_one_iff.mp (show x.runtime.handlers.length = 1 by omega)
  rw [ht] at hi ⊢
  obtain rfl : t = task := by simpa using hi
  exact ⟨rfl, rfl⟩

theorem msgs_append (fs gs : List ControlStreamFrame) :
    msgs (fs ++ gs) id = msgs fs id ++ msgs gs id := List.filterMap_append

theorem msgs_singleton (f : ControlStreamFrame) : msgs [f] id = (pick id f.msg).toList := by
  cases h : pick id f.msg <;> simp [msgs, h]

theorem msgs_send (out : List (ControlStreamFrame × Source)) (f : ControlStreamFrame)
    (source : Source) : msgs ((out ++ [(f, source)]).map Prod.fst) id =
      msgs (out.map Prod.fst) id ++ (pick id f.msg).toList := by
  rw [List.map_append, msgs_append, List.map_singleton, msgs_singleton]

theorem isSome_erase {β : Type} (t : Table StreamId β) (i : StreamId) :
    ((t.erase i).lookup id).isSome = ((t.lookup id).isSome && decide (i ≠ id)) := by
  by_cases h : id = i
  · subst h
    simp
  · simp [AList.lookup_erase_ne h, Ne.symm h]

theorem isSome_insert {β : Type} (t : Table StreamId β) (i : StreamId) (b : β) :
    ((t.insert i b).lookup id).isSome = ((t.lookup id).isSome || decide (i = id)) := by
  by_cases h : id = i
  · subst h
    simp
  · simp [AList.lookup_insert_ne h, Ne.symm h]

/-! ### `open` -/

theorem idOf_of_call {j : Nat} {call : OpenCall} {i : StreamId}
    (hj : x.runtime.opens[j]? = some call) (hid : call.id = some i) : x.idOf j = some i := by
  rw [idOf, hj, Option.bind_some, hid]

/-- A call that has no id yet is not the owner. -/
theorem Owner.ne_of_none (hk : x.Owner k id) {j : Nat} {call : OpenCall}
    (hj : x.runtime.opens[j]? = some call) (hid : call.id = none) : k ≠ some j := by
  intro heq
  have hown := (hk j).mpr heq
  rw [idOf, hj, Option.bind_some, hid] at hown
  cases hown

/-- The call moves on within its stage. -/
theorem strand_setPhase_same {j : Nat} {call : OpenCall} (phase : OpenPhase)
    (hj : x.runtime.opens[j]? = some call) (hstage : phase.stage = call.phase.stage) :
    strand ⟨x.runtime.setPhase j phase, x.ins⟩ k id = x.strand k id := by
  refine Strand.ext ?_ rfl rfl rfl rfl rfl rfl rfl
  by_cases hk : k = some j
  · refine (attempt_modify_self hj hk).trans ?_
    subst hk
    refine Eq.trans ?_ (attempt_eq hj).symm
    simp only [OpenCall.attempt, hstage]
  · exact attempt_modify_other hk

theorem strand_runOpen (h : Typed x) (hk : x.Owner k id) (j : Nat) :
    Strand.Step (x.strand k id) .quiet (strand ⟨x.runtime.runOpen j, x.ins⟩ k id) := by
  unfold Runtime.runOpen
  cases hj : x.runtime.opens[j]? with
  | none => exact .idle _
  | some call =>
    have hok := h.calls j call hj
    have hattempt : k = some j → attempt x.runtime.opens k = some call.attempt := by
      rintro rfl
      exact attempt_eq hj
    dsimp only
    cases hphase : call.phase with
    | checking =>
      simp only [h.calm.1, Bool.false_eq_true, if_false]
      exact .same (strand_setPhase_same _ hj (by rw [hphase]; rfl))
    | allocating =>
      simp only [CallOk, hphase] at hok
      have hne := hk.ne_of_none hj hok.1
      dsimp only
      split
      · exact .same rfl
      · refine .same (Strand.ext ?_ rfl rfl rfl rfl rfl rfl rfl)
        exact attempt_modify_other hne
    | probingPending i | probingStreams i =>
      refine .same (strand_setPhase_same _ hj ?_)
      rw [hphase]
      split <;> rfl
    | inserting i =>
      simp only [CallOk, hphase] at hok
      have howner := hk.iff (idOf_of_call hj hok)
      by_cases hi : i = id
      · subst hi
        refine (Strand.Step.starts (hattempt (howner.mpr rfl))
          (congrArg OpenPhase.stage hphase)).of_eq (Strand.ext ?_ ?_ rfl rfl rfl rfl rfl rfl)
        · exact attempt_modify_self hj (howner.mpr rfl)
        · exact (isSome_insert ..).trans (by simp)
      · refine .same (Strand.ext ?_ ?_ rfl rfl rfl rfl rfl rfl)
        · exact attempt_modify_other (mt howner.mp hi)
        · exact (isSome_insert ..).trans (by simp [hi, strand])
    | sending i c | waiting i c | returned chan result => exact .idle _
    | leaving i c result =>
      simp only [CallOk, hphase] at hok
      have howner := hk.iff (idOf_of_call hj hok.1)
      cases result with
      | ok =>
        by_cases hi : i = id
        · subst hi
          refine (Strand.Step.returns (hattempt (howner.mpr rfl))
            (congrArg OpenPhase.stage hphase)).of_eq (Strand.ext ?_ ?_ rfl rfl ?_ rfl rfl rfl)
          · exact attempt_modify_self hj (howner.mpr rfl)
          · exact (isSome_erase ..).trans (by simp)
          · simp [strand, halves, List.filter_append]
        · refine .same (Strand.ext ?_ ?_ rfl rfl ?_ rfl rfl rfl)
          · exact attempt_modify_other (mt howner.mp hi)
          · exact (isSome_erase ..).trans (by simp [hi, strand])
          · simp [strand, halves, List.filter_append, hi]
      | err e | cancelled =>
        by_cases hi : i = id
        · subst hi
          refine (Strand.Step.cleans (hattempt (howner.mpr rfl))
            (congrArg OpenPhase.stage hphase)).of_eq (Strand.ext ?_ ?_ rfl rfl rfl rfl rfl rfl)
          · exact attempt_modify_self hj (howner.mpr rfl)
          · exact (isSome_erase ..).trans (by simp)
        · refine .same (Strand.ext ?_ ?_ rfl rfl rfl rfl rfl rfl)
          · exact attempt_modify_other (mt howner.mp hi)
          · exact (isSome_erase ..).trans (by simp [hi, strand])
    | dropping c result =>
      refine .same ((Strand.ext rfl rfl rfl rfl rfl rfl rfl rfl).trans
        (strand_setPhase_same (.returned none result) hj (by rw [hphase]; rfl)))

theorem strand_leave_self {j : Nat} {call : OpenCall} (hj : x.runtime.opens[j]? = some call)
    (hk : k = some j) (i : StreamId) (c : Nat) (result : OpenEnd) :
    strand ⟨x.runtime.leave j i c result, x.ins⟩ k id =
      { x.strand k id with
        call := some { call.attempt with stage := .leaving (result = .ok), listening := false } } :=
  Strand.ext (attempt_modify_self hj hk) rfl rfl rfl rfl rfl rfl rfl

theorem strand_leave_other {j : Nat} (hk : k ≠ some j) (i : StreamId) (c : Nat) (result : OpenEnd) :
    strand ⟨x.runtime.leave j i c result, x.ins⟩ k id = x.strand k id :=
  Strand.ext (attempt_modify_other hk) rfl rfl rfl rfl rfl rfl rfl

theorem strand_openSent (h : Typed x) (hk : x.Owner k id) (j : Nat) :
    Strand.Step (x.strand k id) .quiet (strand ⟨x.runtime.openSent j, x.ins⟩ k id) := by
  unfold Runtime.openSent
  split
  · rename_i purpose id' i c waiter rx hj
    have hok : id' = some i ∧ x.label c = some (i, .opened j) := h.calls j _ hj
    have howner := hk.iff (idOf_of_call hj hok.1)
    by_cases hi : i = id
    · subst hi
      have hkj := howner.mpr rfl
      refine (Strand.Step.asks (s := x.strand k i) ((congrArg _ hkj).trans (attempt_eq hj)) rfl).of_eq
        (Strand.ext (attempt_modify_self hj hkj) rfl rfl rfl rfl rfl ?_ rfl)
      refine (msgs_send ..).trans ?_
      simp [ControlStreamFrame.msg, strand]
    · refine .same (Strand.ext (attempt_modify_other (mt howner.mp hi)) rfl rfl rfl rfl rfl ?_ rfl)
      refine (msgs_send ..).trans ?_
      simp [ControlStreamFrame.msg, pick_of_ne hi, strand]
  · exact .idle _

theorem strand_openSendFails (j : Nat) (err : P2pError) :
    Strand.Step (x.strand k id) .quiet (strand ⟨x.runtime.openSendFails j err false, x.ins⟩ k id) := by
  unfold Runtime.openSendFails
  split
  · rename_i i c waiter rx hj
    by_cases hkj : k = some j
    · refine (Strand.Step.withdraws (s := x.strand k id) ((congrArg _ hkj).trans (attempt_eq hj))
        rfl).of_eq ?_
      exact strand_leave_self hj hkj i c (.err err)
    · exact .same (strand_leave_other hkj i c (.err err))
  · exact .idle _

theorem strand_openResumes (j : Nat) :
    Strand.Step (x.strand k id) .quiet (strand ⟨x.runtime.openResumes j, x.ins⟩ k id) := by
  unfold Runtime.openResumes
  split
  · rename_i i c rx hj
    by_cases hkj : k = some j
    · refine (Strand.Step.resumes (s := x.strand k id) true ((congrArg _ hkj).trans (attempt_eq hj))
        rfl rfl).of_eq ?_
      exact strand_leave_self hj hkj i c .ok
    · exact .same (strand_leave_other hkj i c .ok)
  · rename_i i c err rx hj
    by_cases hkj : k = some j
    · refine (Strand.Step.resumes (s := x.strand k id) false ((congrArg _ hkj).trans (attempt_eq hj))
        rfl rfl).of_eq ?_
      exact strand_leave_self hj hkj i c (.err err)
    · exact .same (strand_leave_other hkj i c (.err err))
  · exact .idle _

/-- The waiter of the owner is where the id says. -/
theorem Typed.waiter_eq (h : Typed x) (hk : x.Owner k id) {p : PendingOpen} (hp : x.PendingOk id p) :
    k = some p.waiter := (hk.iff (h.chans _ _ _ hp).1).mpr rfl

theorem mem_of_job_telling {handlers : List Handler} {ok : Bool}
    (htask : job handlers id = some (.telling ok)) :
    ∃ result p, Handler.respSend id result p ∈ handlers := by
  cases handlers with
  | nil => cases htask
  | cons task rest =>
    have htask : pick id task.job = some (.telling ok) := htask
    cases task with
    | respSend i result p =>
      by_cases hi : i = id
      · subst hi
        exact ⟨result, p, List.mem_cons_self⟩
      · rw [Handler.job, pick_of_ne hi] at htask
        cases htask
    | checking frame index =>
      rw [Handler.job, pick_map] at htask
      obtain ⟨m, -, hm⟩ := Option.map_eq_some_iff.mp htask
      cases m <;> cases hm
    | _ =>
      simp only [Handler.job, pick] at htask
      split at htask <;> cases htask

theorem strand_openCanceled (h : Typed x) (hk : x.Owner k id) (j : Nat) :
    Strand.Step (x.strand k id) .quiet (strand ⟨x.runtime.openCanceled j, x.ins⟩ k id) := by
  unfold Runtime.openCanceled
  split
  · rename_i i c rx hj
    split
    · exact .idle _
    · rename_i hwaiter
      simp only [Runtime.hasWaiter, Bool.or_eq_true, not_or] at hwaiter
      by_cases hkj : k = some j
      · refine (Strand.Step.cancels (s := x.strand k id) ((congrArg _ hkj).trans (attempt_eq hj)) rfl rfl
          ?_ ?_).of_eq (strand_leave_self hj hkj i c _)
        · -- a pending open of the id would have its waiter
          refine Option.isSome_eq_false_iff.mpr (Option.isNone_iff_eq_none.mpr ?_)
          refine Option.eq_none_iff_forall_ne_some.mpr fun p hp => hwaiter.1 ?_
          have heq := (h.waiter_eq hk (h.pending id p hp)).symm.trans hkj
          exact List.any_eq_true.mpr ⟨⟨id, p⟩, Table.mem_entries_iff.mpr hp,
            by simpa using Option.some.inj heq⟩
        · intro ok htask
          obtain ⟨result, p, hmem⟩ := mem_of_job_telling htask
          have heq := (h.waiter_eq hk (h.handlers _ hmem)).symm.trans hkj
          exact hwaiter.2 (List.any_eq_true.mpr ⟨_, hmem, by simpa using Option.some.inj heq⟩)
      · exact .same (strand_leave_other hkj i c _)
  · exact .idle _

/-- The call that is given up while it waits. -/
theorem strand_abandon (h : Typed x) (hk : x.Owner k id) {e : EndpointEvent} {j : Nat} {call : OpenCall}
    {i : StreamId} {c : Nat} (he : e = .act (.openTimesOut j) ∨ e = .act (.openDropped j))
    (hj : x.runtime.opens[j]? = some call) (hphase : call.phase = .waiting i c) {result : OpenEnd}
    (hresult : result ≠ .ok) :
    ∃ a, Strand.Step (x.strand k id) a (strand ⟨x.runtime.leave j i c result, x.ins⟩ k id) ∧
      x.Does k id e a := by
  have hok := h.calls j call hj
  simp only [CallOk, hphase] at hok
  have howner := hk.iff (idOf_of_call hj hok.1)
  by_cases hkj : k = some j
  · obtain rfl := howner.mp hkj
    refine ⟨.abandons, (Strand.Step.abandons (s := x.strand k i)
      ((congrArg _ hkj).trans (attempt_eq hj)) (congrArg OpenPhase.stage hphase)).of_eq ?_, ?_⟩
    · rw [strand_leave_self hj hkj]
      simp [hresult]
    · exact ⟨j, call, c, hkj, he, hj, hphase⟩
  · exact ⟨.quiet, .same (strand_leave_other hkj i c result), trivial⟩

theorem strand_openTimesOut (h : Typed x) (hk : x.Owner k id) (j : Nat) :
    ∃ a, Strand.Step (x.strand k id) a (strand ⟨x.runtime.openTimesOut j, x.ins⟩ k id) ∧
      x.Does k id (.act (.openTimesOut j)) a := by
  unfold Runtime.openTimesOut
  split
  · rename_i hj
    exact strand_abandon h hk (.inl rfl) hj rfl (by simp)
  · exact ⟨.quiet, .idle _, trivial⟩

theorem strand_openDropped (h : Typed x) (hk : x.Owner k id) (j : Nat) :
    ∃ a, Strand.Step (x.strand k id) a (strand ⟨x.runtime.openDropped j, x.ins⟩ k id) ∧
      x.Does k id (.act (.openDropped j)) a := by
  unfold Runtime.openDropped
  split
  · rename_i i c waiter rx hj
    refine ⟨.quiet, ?_, trivial⟩
    by_cases hkj : k = some j
    · exact (Strand.Step.withdraws (s := x.strand k id) ((congrArg _ hkj).trans (attempt_eq hj))
        rfl).of_eq (strand_leave_self hj hkj i c .cancelled)
    · exact .same (strand_leave_other hkj i c .cancelled)
  · rename_i hj
    exact strand_abandon h hk (.inr rfl) hj rfl (by simp)
  · exact ⟨.quiet, .idle _, trivial⟩

/-! ### `on_data` -/

/-- The call is for another stream, before and after. -/
theorem strand_other_task {r : Runtime} {task : Handler} (hone : x.runtime.handlers = [task])
    (hopens : attempt r.opens k = attempt x.runtime.opens k)
    (hpending : (r.pendingOpens.lookup id).isSome = (x.runtime.pendingOpens.lookup id).isSome)
    (hentry : (r.streams.lookup id).isSome = (x.runtime.streams.lookup id).isSome)
    (hold : pick id task.job = none) (hnew : job r.handlers id = none)
    (hhalves : halves r.writes id = halves x.runtime.writes id)
    (hlost : missed r.lost x.ins id = missed x.runtime.lost x.ins id)
    (hout : r.out = x.runtime.out) :
    strand ⟨r, x.ins⟩ k id = x.strand k id := by
  refine Strand.ext hopens hpending hentry ?_ hhalves rfl ?_ hlost
  · have hjob : job x.runtime.handlers id = pick id task.job := by rw [hone, job_singleton]
    exact hnew.trans (hjob.trans hold).symm
  · simp only [strand, hout]

theorem missed_append (lost : List Nat) (ins : List ControlStreamFrame) (j : Nat) :
    missed (lost ++ [j]) ins id = missed lost ins id ++
      (((ins[j]?).bind fun f => pick id f.msg).map fun _ => msgs (ins.take j) id).toList := by
  rw [missed, missed, List.filterMap_append, List.filterMap_cons, List.filterMap_nil]
  cases ((ins[j]?).bind fun f => pick id f.msg).map fun _ => msgs (ins.take j) id <;> rfl

/-- What was read before the last frame. -/
theorem msgs_take_last {index : Nat} {f : ControlStreamFrame} {m : Msg} {ins : List ControlStreamFrame}
    (hf : ins[index]? = some f) (hlast : index + 1 = ins.length) (hm : pick id f.msg = some m) :
    msgs (ins.take index) id = (msgs ins id).dropLast := by
  have hsplit : ins = ins.take index ++ [f] := by
    have hdrop : ins.drop index = [f] := by
      rw [List.drop_eq_getElem_cons (by omega)]
      obtain ⟨hlt, hget⟩ := List.getElem?_eq_some_iff.mp hf
      rw [hget, List.drop_eq_nil_of_le (by omega)]
    rw [← hdrop, List.take_append_drop]
  have hmsgs : msgs ins id = msgs (ins.take index) id ++ [m] := by
    conv_lhs => rw [hsplit]
    rw [msgs_append, msgs_singleton, hm]
    rfl
  rw [hmsgs, List.dropLast_concat]

/-- Only the call of `on_data` moves on. -/
theorem strand_setHandler {task : Handler} (task' : Handler) (hone : x.runtime.handlers = [task]) :
    strand ⟨x.runtime.setHandler 0 task', x.ins⟩ k id =
      { x.strand k id with task := pick id task'.job } :=
  Strand.ext rfl rfl rfl (job_set task' hone) rfl rfl rfl rfl

theorem strand_endHandler {task : Handler} (hone : x.runtime.handlers = [task]) :
    strand ⟨x.runtime.endHandler 0, x.ins⟩ k id = { x.strand k id with task := none } :=
  Strand.ext rfl rfl rfl (job_erase hone) rfl rfl rfl rfl

/-- A call that has the same to do for the same stream. -/
theorem strand_setHandler_same {task : Handler} (task' : Handler)
    (hone : x.runtime.handlers = [task]) (hjob : task'.job = task.job) :
    strand ⟨x.runtime.setHandler 0 task', x.ins⟩ k id = x.strand k id := by
  rw [strand_setHandler task' hone, hjob]
  refine Strand.ext rfl rfl rfl ?_ rfl rfl rfl rfl
  simp only [strand, hone, job_singleton]

theorem task_eq {task : Handler} {t : Task} (hone : x.runtime.handlers = [task])
    (hjob : task.job = some (id, t)) : (x.strand k id).task = some t := by
  simp only [strand, hone, job_singleton, hjob, pick_self]

/-- An `Open` frame is refused. -/
theorem strand_refuse {task : Handler} {i : StreamId} {result : TunnelCommandResult}
    (hone : x.runtime.handlers = [task]) (hjob : task.job = some (i, .asked))
    (hresult : result ≠ .success) :
    Strand.Step (x.strand k id) .quiet
      (strand ⟨x.runtime.setHandler 0 (.answering i result), x.ins⟩ k id) := by
  rw [strand_setHandler _ hone]
  by_cases hi : i = id
  · subst hi
    refine (Strand.Step.refuses (task_eq hone hjob)).of_eq ?_
    simp [Handler.job, hresult]
  · refine .same (Strand.ext rfl rfl rfl ?_ rfl rfl rfl rfl)
    simp only [strand, hone, job_singleton, hjob, pick_of_ne hi]
    exact pick_of_ne hi _

theorem strand_dispatch {frame : ControlStreamFrame} {index : Nat}
    (hone : x.runtime.handlers = [.checking (some frame) index]) :
    Strand.Step (x.strand k id) .quiet (strand ⟨x.runtime.dispatch 0 index frame, x.ins⟩ k id) := by
  cases frame with
  | openStream i purpose =>
    simp only [Runtime.dispatch]
    split
    · exact .same (strand_setHandler_same _ hone rfl)
    · exact strand_refuse hone rfl (by simp)
  | openResp i result | data i bytes | fin i | reset i reason =>
    exact .same (strand_setHandler_same _ hone rfl)
  | window i credit =>
    refine .same ((strand_endHandler hone).trans (Strand.ext rfl rfl rfl ?_ rfl rfl rfl rfl))
    simp only [strand, hone, job_singleton]
    rfl

theorem ready_deliver {bytes : List U8} {c : Nat} {ch : Chan} (hready : x.ready id = true)
    (hc : x.runtime.streams.lookup id = some c) (hch : x.runtime.chans[c]? = some ch) :
    (deliverInto ch.read.rx bytes).2 = none := by
  simp only [ready, hc, Option.bind_some, hch, Bool.and_eq_true, decide_eq_true_eq] at hready
  have hfree : ¬ ch.read.rx.free ≤ controlStreamQueueTerminalReserve := by omega
  rw [deliverInto, if_neg hfree, Channel.trySend_eq_ok hready.1 (by omega)]

theorem strand_deliver {i : StreamId} {bytes : List U8} {index : Nat}
    (hone : x.runtime.handlers = [.delivering i bytes index])
    (hframe : x.ins[index]? = some (.data i bytes)) (hlast : x.Last index) :
    ∃ a, Strand.Step (x.strand k id) a (strand ⟨x.runtime.deliver 0 i bytes index, x.ins⟩ k id) ∧
      (a = .quiet ∨ a = .fails ∧ x.ready id = false) := by
  unfold Runtime.deliver
  by_cases hi : i = id
  · subst hi
    have htask : (x.strand k i).task = some .delivering := task_eq hone rfl
    cases hc : x.runtime.streams.lookup i with
    | none =>
      refine ⟨.quiet, (Strand.Step.loses (.inl htask) (by simp [strand, hc])).of_eq
        (Strand.ext rfl rfl rfl (job_erase hone) rfl rfl rfl ?_), .inl rfl⟩
      refine (missed_append ..).trans ?_
      rw [hframe, Option.bind_some, msgs_take_last hframe hlast (pick_self i _)]
      simp [ControlStreamFrame.msg, strand]
    | some c =>
      have hentry : (x.strand k i).entry = true := by simp [strand, hc]
      dsimp only
      split
      · exact ⟨.quiet, (Strand.Step.delivers htask hentry).of_eq
          (Strand.ext rfl rfl rfl (job_erase hone) rfl rfl rfl rfl), .inl rfl⟩
      · rename_i failure hfail
        refine ⟨.fails, (Strand.Step.fails htask hentry).of_eq
          (Strand.ext rfl rfl ?_ ((job_set _ hone).trans (pick_self i _)) rfl rfl rfl rfl), .inr ⟨rfl, ?_⟩⟩
        · exact (isSome_erase ..).trans (by simp)
        · obtain ⟨ch, hch, hsome⟩ := Option.bind_eq_some_iff.mp hfail
          by_contra hready
          rw [ready_deliver (by simpa using hready) hc hch] at hsome
          cases hsome
  · have hold : pick id (Handler.delivering i bytes index).job = none := pick_of_ne hi _
    cases hc : x.runtime.streams.lookup i with
    | none =>
      refine ⟨.quiet, .same (strand_other_task hone rfl rfl rfl hold (job_erase hone) rfl ?_ rfl), .inl rfl⟩
      refine (missed_append ..).trans ?_
      rw [hframe, Option.bind_some, ControlStreamFrame.msg, pick_of_ne hi]
      simp
    | some c =>
      dsimp only
      split
      · exact ⟨.quiet, .same (strand_other_task hone rfl rfl rfl hold (job_erase hone) rfl rfl rfl), .inl rfl⟩
      · refine ⟨.quiet, .same (strand_other_task hone rfl rfl ?_ hold
          ((job_set _ hone).trans (pick_of_ne hi _)) rfl rfl rfl), .inl rfl⟩
        exact (isSome_erase ..).trans (by simp [hi])

theorem strand_respond (h : Typed x) (hk : x.Owner k id) {i : StreamId} {result : TunnelCommandResult}
    {pending : PendingOpen} (hone : x.runtime.handlers = [.respSend i result pending])
    (hok : x.PendingOk i pending) :
    Strand.Step (x.strand k id) .quiet
      (strand ⟨x.runtime.respond 0 i result pending, x.ins⟩ k id) := by
  have hb := h.chans _ _ _ hok
  have howner : k = some pending.waiter ↔ i = id := hk.iff hb.1
  obtain ⟨call, hcall, -⟩ := hb.2
  unfold Runtime.respond
  by_cases hi : i = id
  · subst hi
    have hkj := howner.mpr rfl
    have htask : (x.strand k i).task = some (.telling (result = .success)) := task_eq hone rfl
    have hattempt : (x.strand k i).call = some call.attempt := (congrArg _ hkj).trans (attempt_eq hcall)
    have hwaits : x.runtime.waits pending.waiter = call.waiterRx := by
      simp only [Runtime.waits, hcall]
    split
    · rename_i hsuccess
      simp only [hsuccess, decide_true] at htask
      rw [hwaits]
      split
      · rename_i hrx
        refine (Strand.Step.confirms htask hattempt hrx).of_eq
          (Strand.ext ?_ rfl rfl ((job_set _ hone).trans (pick_self i _)) rfl rfl rfl rfl)
        refine (attempt_modify_self hcall hkj).trans ?_
        rw [if_pos hrx]
        rfl
      · rename_i hrx
        exact (Strand.Step.unheard true htask hattempt (Bool.not_eq_true _ ▸ hrx)).of_eq
          (strand_endHandler hone)
    · rename_i hfail
      simp only [hfail, decide_false] at htask
      by_cases hrx : call.waiterRx = true
      · refine (Strand.Step.rejects htask hattempt hrx).of_eq
          (Strand.ext ?_ rfl rfl (job_erase hone) rfl rfl rfl rfl)
        refine (attempt_modify_self hcall hkj).trans ?_
        rw [if_pos hrx]
        rfl
      · refine (Strand.Step.unheard false htask hattempt (Bool.not_eq_true _ ▸ hrx)).of_eq
          (Strand.ext ?_ rfl rfl (job_erase hone) rfl rfl rfl rfl)
        refine (attempt_modify_self hcall hkj).trans ?_
        rw [if_neg hrx]
        exact hattempt.symm
  · have hold : pick id (Handler.respSend i result pending).job = none := pick_of_ne hi _
    have hne : k ≠ some pending.waiter := mt howner.mp hi
    split
    · split
      · exact .same (strand_other_task hone (attempt_modify_other hne) rfl rfl hold
          ((job_set _ hone).trans (pick_of_ne hi _)) rfl rfl rfl)
      · exact .same (strand_other_task hone rfl rfl rfl hold (job_erase hone) rfl rfl rfl)
    · exact .same (strand_other_task hone (attempt_modify_other hne) rfl rfl hold (job_erase hone)
        rfl rfl rfl)

/-- The call of `on_data` with an `Open` frame makes a channel, and hands it out or not. -/
theorem strand_openInsert {i : StreamId} {index : Nat} {prepare : Bool} {chans : List Chan} {c : Nat}
    (hone : x.runtime.handlers = [.openInsert i index prepare])
    (hnone : ¬ (x.runtime.streams.lookup i).isSome = true) :
    Strand.Step (x.strand k id) .quiet
      (strand ⟨{ x.runtime.setHandler 0 (.openPrepare i c index prepare) with
        chans := chans
        streams := x.runtime.streams.insert i c }, x.ins⟩ k id) := by
  by_cases hi : i = id
  · subst hi
    refine (Strand.Step.accepts (task_eq hone rfl) (by simpa [strand] using hnone)).of_eq
      (Strand.ext rfl rfl ?_ ((job_set _ hone).trans (pick_self i _)) rfl rfl rfl rfl)
    exact (isSome_insert ..).trans (by simp)
  · refine .same (strand_other_task hone rfl rfl ?_ (pick_of_ne hi _)
      ((job_set _ hone).trans (pick_of_ne hi _)) rfl rfl rfl)
    exact (isSome_insert ..).trans (by simp [hi])

theorem strand_openPrepare {i : StreamId} {c index : Nat} {prepare : Bool}
    (hone : x.runtime.handlers = [.openPrepare i c index prepare]) (prepared : Option P2pError) :
    Strand.Step (x.strand k id) .quiet
      (strand ⟨x.runtime.runHandler 0 prepared, x.ins⟩ k id) := by
  have hget : x.runtime.handlers[0]? = some (Handler.openPrepare i c index prepare) := by simp [hone]
  simp only [Runtime.runHandler, hget]
  by_cases hi : i = id
  · subst hi
    split
    · exact (Strand.Step.retracts (task_eq hone rfl)).of_eq
        (Strand.ext rfl rfl rfl ((job_set _ hone).trans (pick_self i _)) rfl rfl rfl rfl)
    · refine (Strand.Step.exposes (task_eq hone rfl)).of_eq
        (Strand.ext rfl rfl rfl ((job_set _ hone).trans (pick_self i _)) ?_ rfl rfl rfl)
      simp [strand, halves, List.filter_append]
  · split
    · exact .same (strand_other_task hone rfl rfl rfl (pick_of_ne hi _)
        ((job_set _ hone).trans (pick_of_ne hi _)) rfl rfl rfl)
    · refine .same (strand_other_task hone rfl rfl rfl (pick_of_ne hi _)
        ((job_set _ hone).trans (pick_of_ne hi _)) ?_ rfl rfl)
      simp [halves, List.filter_append, hi]

theorem strand_runHandler (h : Typed x) (hk : x.Owner k id) (i : Nat) (prepared : Option P2pError) :
    ∃ a, Strand.Step (x.strand k id) a (strand ⟨x.runtime.runHandler i prepared, x.ins⟩ k id) ∧
      (a = .quiet ∨ a = .fails ∧ x.ready id = false) := by
  cases hget : x.runtime.handlers[i]? with
  | none =>
    refine ⟨.quiet, ?_, .inl rfl⟩
    simp only [Runtime.runHandler, hget]
    exact .idle _
  | some task =>
    have hok := h.handlers task (List.mem_of_getElem? hget)
    obtain ⟨rfl, hone⟩ := h.alone hget
    cases task with
    | delivering i bytes index =>
      simp only [Runtime.runHandler, hget]
      exact strand_deliver hone hok.1 hok.2
    | openPrepare i c index prepare => exact ⟨.quiet, strand_openPrepare hone prepared, .inl rfl⟩
    | checking frame index =>
      obtain ⟨f, rfl, hframe, hlast⟩ := hok
      simp only [Runtime.runHandler, hget, h.calm.1, Bool.false_eq_true, if_false]
      exact ⟨.quiet, strand_dispatch hone, .inl rfl⟩
    | openPending i purpose index | openStreams i purpose index =>
      refine ⟨.quiet, ?_, .inl rfl⟩
      simp only [Runtime.runHandler, hget]
      split
      · exact strand_refuse hone rfl (by simp)
      · exact .same (strand_setHandler_same _ hone rfl)
    | openListener i purpose index =>
      refine ⟨.quiet, ?_, .inl rfl⟩
      simp only [Runtime.runHandler, hget]
      split
      · exact strand_refuse hone rfl (by simp)
      · split
        · exact .same (strand_setHandler_same _ hone rfl)
        · exact strand_refuse hone rfl (by simp)
    | openInsert i index prepare =>
      refine ⟨.quiet, ?_, .inl rfl⟩
      simp only [Runtime.runHandler, hget]
      split
      · exact strand_refuse hone rfl (by simp)
      · rename_i hnone
        exact strand_openInsert hone hnone
    | openRemove i c =>
      refine ⟨.quiet, ?_, .inl rfl⟩
      simp only [Runtime.runHandler, hget]
      by_cases hi : i = id
      · subst hi
        refine (Strand.Step.removes (task_eq hone rfl)).of_eq
          (Strand.ext rfl rfl ?_ ((job_set _ hone).trans (pick_self i _)) rfl rfl rfl rfl)
        exact (isSome_erase ..).trans (by simp)
      · refine .same (strand_other_task hone rfl rfl ?_ (pick_of_ne hi _)
          ((job_set _ hone).trans (pick_of_ne hi _)) rfl rfl rfl)
        exact (isSome_erase ..).trans (by simp [hi])
    | respTake i result =>
      refine ⟨.quiet, ?_, .inl rfl⟩
      simp only [Runtime.runHandler, hget]
      by_cases hi : i = id
      · subst hi
        split
        · rename_i hnone
          exact (Strand.Step.ignores _ (task_eq hone rfl) (by simp [strand, hnone])).of_eq
            (strand_endHandler hone)
        · rename_i pending hpending
          refine (Strand.Step.takes _ (task_eq hone rfl) (by simp [strand, hpending])).of_eq
            (Strand.ext rfl ?_ rfl ((job_set _ hone).trans (pick_self i _)) rfl rfl rfl rfl)
          exact (isSome_erase ..).trans (by simp)
      · split
        · exact .same (strand_other_task hone rfl rfl rfl (pick_of_ne hi _) (job_erase hone) rfl rfl rfl)
        · refine .same (strand_other_task hone rfl ?_ rfl (pick_of_ne hi _)
            ((job_set _ hone).trans (pick_of_ne hi _)) rfl rfl rfl)
          exact (isSome_erase ..).trans (by simp [hi])
    | respSend i result pending =>
      refine ⟨.quiet, ?_, .inl rfl⟩
      simp only [Runtime.runHandler, hget]
      exact strand_respond h hk hone hok
    | respInsert i c =>
      refine ⟨.quiet, ?_, .inl rfl⟩
      simp only [Runtime.runHandler, hget]
      by_cases hi : i = id
      · subst hi
        refine (Strand.Step.inserts (task_eq hone rfl)).of_eq
          (Strand.ext rfl rfl ?_ (job_erase hone) rfl rfl rfl rfl)
        exact (isSome_insert ..).trans (by simp)
      · refine .same (strand_other_task hone rfl rfl ?_ (pick_of_ne hi _) (job_erase hone) rfl rfl rfl)
        exact (isSome_insert ..).trans (by simp [hi])
    | finishing i index =>
      refine ⟨.quiet, ?_, .inl rfl⟩
      simp only [Runtime.runHandler, hget]
      by_cases hi : i = id
      · subst hi
        split
        · rename_i hnone
          refine (Strand.Step.loses (.inr (task_eq hone rfl)) (by simp [strand, hnone])).of_eq
            (Strand.ext rfl rfl rfl (job_erase hone) rfl rfl rfl ?_)
          refine (missed_append ..).trans ?_
          rw [hok.1, Option.bind_some, msgs_take_last hok.1 hok.2 (pick_self i _)]
          simp [ControlStreamFrame.msg, strand]
        · rename_i c hc
          refine (Strand.Step.finishes (task_eq hone rfl) (by simp [strand, hc])).of_eq
            (Strand.ext rfl rfl ?_ (job_erase hone) rfl rfl rfl rfl)
          exact (isSome_erase ..).trans (by simp)
      · split
        · refine .same (strand_other_task hone rfl rfl rfl (pick_of_ne hi _) (job_erase hone) rfl ?_ rfl)
          refine (missed_append ..).trans ?_
          rw [hok.1, Option.bind_some, ControlStreamFrame.msg, pick_of_ne hi]
          simp
        · refine .same (strand_other_task hone rfl rfl ?_ (pick_of_ne hi _) (job_erase hone) rfl rfl rfl)
          exact (isSome_erase ..).trans (by simp [hi])
    | resetting i reason =>
      refine ⟨.quiet, ?_, .inl rfl⟩
      simp only [Runtime.runHandler, hget]
      by_cases hi : i = id
      · subst hi
        split
        · rename_i hnone
          refine (Strand.Step.resets (task_eq hone rfl)).of_eq
            (Strand.ext rfl rfl ?_ (job_erase hone) rfl rfl rfl rfl)
          simp [strand, hnone, Runtime.endHandler]
        · refine (Strand.Step.resets (task_eq hone rfl)).of_eq
            (Strand.ext rfl rfl ?_ (job_erase hone) rfl rfl rfl rfl)
          exact (isSome_erase ..).trans (by simp)
      · split
        · exact .same (strand_other_task hone rfl rfl rfl (pick_of_ne hi _) (job_erase hone) rfl rfl rfl)
        · refine .same (strand_other_task hone rfl rfl ?_ (pick_of_ne hi _) (job_erase hone) rfl rfl rfl)
          exact (isSome_erase ..).trans (by simp [hi])
    | answering i result | sendingReset i reason =>
      refine ⟨.quiet, ?_, .inl rfl⟩
      simp only [Runtime.runHandler, hget]
      exact .idle _

theorem strand_handlerSent (h : Typed x) (i : Nat) :
    Strand.Step (x.strand k id) .quiet (strand ⟨x.runtime.handlerSent i, x.ins⟩ k id) := by
  unfold Runtime.handlerSent
  cases hget : x.runtime.handlers[i]? with
  | none => exact .idle _
  | some task =>
    obtain ⟨rfl, hone⟩ := h.alone hget
    have hjob : (x.strand k id).task = pick id task.job := by
      simp only [strand, hone, job_singleton]
    cases task with
    | answering i result =>
      by_cases hi : i = id
      · subst hi
        refine (Strand.Step.answers _ (task_eq hone rfl)).of_eq
          (Strand.ext rfl rfl rfl (job_erase hone) rfl rfl ?_ rfl)
        exact (msgs_send ..).trans (by simp [ControlStreamFrame.msg, strand])
      · refine .same (Strand.ext rfl rfl rfl ((job_erase hone).trans ?_) rfl rfl ?_ rfl)
        · exact (hjob.trans (pick_of_ne hi _)).symm
        · exact (msgs_send ..).trans (by simp [ControlStreamFrame.msg, strand, pick_of_ne hi])
    | sendingReset i reason =>
      by_cases hi : i = id
      · subst hi
        refine (Strand.Step.sendsReset (task_eq hone rfl)).of_eq
          (Strand.ext rfl rfl rfl (job_erase hone) rfl rfl ?_ rfl)
        exact (msgs_send ..).trans (by simp [ControlStreamFrame.msg, strand])
      · refine .same (Strand.ext rfl rfl rfl ((job_erase hone).trans ?_) rfl rfl ?_ rfl)
        · exact (hjob.trans (pick_of_ne hi _)).symm
        · exact (msgs_send ..).trans (by simp [ControlStreamFrame.msg, strand, pick_of_ne hi])
    | _ => exact .idle _

theorem strand_receive (h : Typed x) (hnone : x.runtime.handlers = []) (frame : ControlStreamFrame) :
    Strand.Step (x.strand k id) .quiet
      (strand ⟨x.runtime.step (.onData (some frame) x.ins.length), x.ins ++ [frame]⟩ k id) := by
  have htask : (x.strand k id).task = none := by simp only [strand, hnone, job_nil]
  have hjob : job (x.runtime.handlers ++ [Handler.checking (some frame) x.ins.length]) id =
      (pick id frame.msg).map Msg.task := by
    rw [hnone, List.nil_append, job_singleton, ← pick_map]
    rfl
  have hread : msgs (x.ins ++ [frame]) id = msgs x.ins id ++ (pick id frame.msg).toList := by
    rw [msgs_append, msgs_singleton]
  have hlost : missed x.runtime.lost (x.ins ++ [frame]) id = missed x.runtime.lost x.ins id := by
    refine List.filterMap_congr fun j hj => ?_
    obtain ⟨i, f, hf, -⟩ := h.lost j hj
    have hlt := (List.getElem?_eq_some_iff.mp hf).1
    rw [getElem?_append_of_eq_some hf, hf, List.take_append_of_le_length (Nat.le_of_lt hlt)]
  cases hm : pick id frame.msg with
  | none =>
    refine .same (Strand.ext rfl rfl rfl ?_ rfl ?_ rfl hlost)
    · exact hjob.trans (by rw [hm, htask]; rfl)
    · exact hread.trans (by rw [hm]; exact List.append_nil _)
  | some m =>
    refine (Strand.Step.reads m htask).of_eq (Strand.ext rfl rfl rfl ?_ rfl ?_ rfl hlost)
    · exact hjob.trans (by rw [hm]; rfl)
    · exact hread.trans (by rw [hm]; rfl)

/-! ### The halves -/

theorem mem_halves {writes : List WriteHalf} {w : Nat} {half : WriteHalf}
    (hw : writes[w]? = some half) : half.state ∈ halves writes half.id :=
  List.mem_map.mpr ⟨half, List.mem_filter.mpr ⟨List.mem_of_getElem? hw, by simp⟩, rfl⟩

theorem halves_set_other {writes : List WriteHalf} {w : Nat} {half half' : WriteHalf}
    (hw : writes[w]? = some half) (hid : half'.id = half.id) (hne : half.id ≠ id) :
    halves (writes.set w half') id = halves writes id := by
  rw [halves, halves, filter_set_of_neg hw (by simp [hne]) (by simp [hid, hne])]

theorem halves_set_self {writes : List WriteHalf} {w : Nat} {half : WriteHalf} (half' : WriteHalf)
    (hw : writes[w]? = some half) (hid : half'.id = half.id) :
    ∃ i, (halves writes half.id)[i]? = some half.state ∧
      halves (writes.set w half') half.id = (halves writes half.id).set i half'.state := by
  obtain ⟨i, hi, hset⟩ := filter_set_of_pos (p := fun h : WriteHalf => h.id = half.id) hw
    (by simp) (y := half') (by simp [hid])
  refine ⟨i, ?_, ?_⟩
  · rw [halves, List.getElem?_map, hi, Option.map_some]
  · rw [halves, halves, hset, List.map_set]

theorem strand_writeData (w : Nat) (bytes : List U8) :
    Strand.Step (x.strand k id) .quiet (strand ⟨x.runtime.writeData w bytes, x.ins⟩ k id) := by
  unfold Runtime.writeData
  split
  · rename_i i origin hw
    split
    · exact .idle _
    · by_cases hi : i = id
      · subst hi
        refine (Strand.Step.writes (mem_halves hw)).of_eq (Strand.ext rfl rfl rfl rfl rfl rfl ?_ rfl)
        exact (msgs_send ..).trans (by simp [ControlStreamFrame.msg, strand])
      · refine .same (Strand.ext rfl rfl rfl rfl rfl rfl ?_ rfl)
        exact (msgs_send ..).trans (by simp [ControlStreamFrame.msg, strand, pick_of_ne hi])
  · exact .idle _

theorem strand_shutdown (h : Typed x) (w : Nat) :
    ∃ a, Strand.Step (x.strand k id) a (strand ⟨x.runtime.shutdown w, x.ins⟩ k id) ∧
      x.Does k id (.act (.shutdown w)) a := by
  unfold Runtime.shutdown
  split
  · rename_i i origin hw
    rw [if_neg (by simp [h.calm.1])]
    by_cases hi : i = id
    · subst hi
      obtain ⟨n, hn, hset⟩ := halves_set_self ⟨i, origin, .finished⟩ hw rfl
      refine ⟨.ends, (Strand.Step.ends (s := x.strand k i) n hn).of_eq
        (Strand.ext rfl rfl rfl rfl hset rfl ?_ rfl), w, origin, rfl, hw⟩
      exact (msgs_send ..).trans (by simp [ControlStreamFrame.msg, strand])
    · refine ⟨.quiet, .same (Strand.ext rfl rfl rfl rfl ?_ rfl ?_ rfl), trivial⟩
      · exact halves_set_other hw rfl hi
      · exact (msgs_send ..).trans (by simp [ControlStreamFrame.msg, strand, pick_of_ne hi])
  · exact ⟨.quiet, .idle _, trivial⟩

theorem strand_dropWrite (w : Nat) :
    ∃ a, Strand.Step (x.strand k id) a (strand ⟨x.runtime.dropWrite w, x.ins⟩ k id) ∧
      x.Does k id (.act (.dropWrite w)) a := by
  unfold Runtime.dropWrite
  cases hw : x.runtime.writes[w]? with
  | none =>
    have hsame : x.runtime.writes.modify w (fun half => { half with state := .dropped }) =
        x.runtime.writes := List.modify_eq_self (by simpa using hw)
    refine ⟨.quiet, .same (Strand.ext rfl rfl rfl rfl ?_ rfl rfl rfl), trivial⟩
    simp only [strand, hsame]
  | some half =>
    rw [modify_eq_set_of_eq_some hw]
    obtain ⟨i, origin, state⟩ := half
    by_cases hi : i = id
    · subst hi
      obtain ⟨n, hn, hset⟩ := halves_set_self ⟨i, origin, .dropped⟩ hw rfl
      by_cases hstate : state = .live
      · subst hstate
        exact ⟨.drops, (Strand.Step.drops (s := x.strand k i) n hn).of_eq
          (Strand.ext rfl rfl rfl rfl hset rfl rfl rfl), w, origin, rfl, hw⟩
      · exact ⟨.quiet, (Strand.Step.forgets (s := x.strand k i) n hn hstate).of_eq
          (Strand.ext rfl rfl rfl rfl hset rfl rfl rfl), trivial⟩
    · refine ⟨.quiet, .same (Strand.ext rfl rfl rfl rfl ?_ rfl rfl rfl), trivial⟩
      exact halves_set_other hw rfl hi

/-! ### Whatever the end does -/

theorem strand_act (h : Typed x) (hk : x.Owner k id) {e : RuntimeEvent} (hadmits : x.admits e = true) :
    ∃ a, Strand.Step (x.strand k id) a (strand ⟨x.runtime.step e, x.ins⟩ k id) ∧
      x.Does k id (.act e) a := by
  cases e with
  | listen listener =>
    refine ⟨.quiet, ?_, trivial⟩
    simp only [Runtime.step]
    split
    · exact .idle _
    · exact .same rfl
  | openStream purpose =>
    refine ⟨.quiet, .same (Strand.ext ?_ rfl rfl rfl rfl rfl rfl rfl), trivial⟩
    cases k with
    | none => rfl
    | some j =>
      obtain ⟨call, hj, -⟩ := Option.bind_eq_some_iff.mp ((hk j).mpr rfl)
      exact (attempt_eq (getElem?_append_of_eq_some hj)).trans (attempt_eq hj).symm
  | runOpen j => exact ⟨.quiet, strand_runOpen h hk j, trivial⟩
  | openSent j => exact ⟨.quiet, strand_openSent h hk j, trivial⟩
  | openSendFails j err closes =>
    cases closes with
    | false => exact ⟨.quiet, strand_openSendFails j err, trivial⟩
    | true => cases hadmits
  | openResumes j => exact ⟨.quiet, strand_openResumes j, trivial⟩
  | openCanceled j => exact ⟨.quiet, strand_openCanceled h hk j, trivial⟩
  | openTimesOut j => exact strand_openTimesOut h hk j
  | openDropped j => exact strand_openDropped h hk j
  | runHandler i prepared =>
    obtain ⟨a, hstep, rfl | ⟨rfl, hready⟩⟩ := strand_runHandler h hk i prepared
    · exact ⟨.quiet, hstep, trivial⟩
    · exact ⟨.fails, hstep, hready⟩
  | handlerSent i => exact ⟨.quiet, strand_handlerSent h i, trivial⟩
  | writeData w bytes => exact ⟨.quiet, strand_writeData w bytes, trivial⟩
  | shutdown w => exact strand_shutdown h w
  | dropWrite w => exact strand_dropWrite w
  | pollRead c n =>
    refine ⟨.quiet, ?_, trivial⟩
    simp only [Runtime.step, Runtime.pollRead]
    split
    · exact .same rfl
    · exact .idle _
  | dropRead c =>
    refine ⟨.quiet, ?_, trivial⟩
    simp only [Runtime.step, Runtime.dropRead]
    split
    · exact .same rfl
    · exact .idle _
  | onData | onOversized | handlerSendFails | closeAll | runCloser => cases hadmits

/-- **Whatever an end does, it does a step of every one of its streams.** -/
theorem strand_step (h : Typed x) (hk : x.Owner k id) (e : EndpointEvent) :
    ∃ a, Strand.Step (x.strand k id) a ((x.step e).strand k id) ∧ x.Does k id e a := by
  cases e with
  | receive frame =>
    refine ⟨.quiet, ?_, trivial⟩
    simp only [step]
    split
    · rename_i hnone
      exact strand_receive h (List.isEmpty_iff.mp hnone) frame
    · exact .idle _
  | act e =>
    simp only [step]
    split
    · rename_i hadmits
      exact strand_act h hk hadmits
    · exact ⟨.quiet, .idle _, trivial⟩

/-! ### A new id -/

/-- Nothing was sent for an id that is nobody's. -/
theorem Typed.said_blank (h : Typed x) (hb : ∀ origin, ¬ x.Belongs id origin)
    (ha : ∀ n, ¬ x.Asked n id) (hid : ∀ j, x.idOf j ≠ some id) :
    msgs (x.runtime.out.map Prod.fst) id = [] := by
  refine List.filterMap_eq_nil_iff.mpr fun f hf => ?_
  obtain ⟨⟨f', source⟩, hmem, rfl⟩ := List.mem_map.mp hf
  have hsourced := h.out _ hmem
  cases f' with
  | openStream i purpose =>
    refine pick_of_ne ?_ _
    rintro rfl
    obtain ⟨j, -, hj, -⟩ := hsourced
    exact hid j hj
  | openResp i result =>
    refine pick_of_ne ?_ _
    rintro rfl
    obtain ⟨n, hn⟩ := hsourced
    exact ha n hn
  | data i bytes | fin i =>
    refine pick_of_ne ?_ _
    rintro rfl
    obtain ⟨w, origin, -, hw⟩ := hsourced
    exact hb origin (h.writes w i origin hw)
  | reset i reason =>
    refine pick_of_ne ?_ _
    rintro rfl
    obtain ⟨c, origin, hc⟩ := hsourced
    exact hb origin (h.chans c i origin hc)
  | window i credit => rfl

/-- Nothing is known of an id that is nobody's. -/
theorem strand_blank (h : Typed x) (hb : ∀ origin, ¬ x.Belongs id origin) (ha : ∀ n, ¬ x.Asked n id)
    (hid : ∀ j, x.idOf j ≠ some id) (hread : msgs x.ins id = []) :
    x.strand k id = ⟨attempt x.runtime.opens k, false, false, none, [], [], [], []⟩ := by
  have hlabel : ∀ c origin, x.label c ≠ some (id, origin) :=
    fun c origin hc => hb origin (h.chans c id origin hc)
  have hnot : ∀ f ∈ x.ins, pick id f.msg = none := List.filterMap_eq_nil_iff.mp hread
  have hframe : ∀ {n : Nat} {f : ControlStreamFrame} {m : Msg}, x.ins[n]? = some f →
      f.msg ≠ some (id, m) := by
    intro n f m hn hm
    have hnone := hnot f (List.mem_of_getElem? hn)
    rw [hm, pick_self] at hnone
    cases hnone
  refine Strand.ext rfl ?_ ?_ ?_ ?_ hread ?_ ?_
  · refine Option.isSome_eq_false_iff.mpr (Option.isNone_iff_eq_none.mpr ?_)
    exact Option.eq_none_iff_forall_ne_some.mpr fun p hp => hlabel _ _ (h.pending id p hp)
  · refine Option.isSome_eq_false_iff.mpr (Option.isNone_iff_eq_none.mpr ?_)
    refine Option.eq_none_iff_forall_ne_some.mpr fun c hc => ?_
    obtain ⟨origin, hc'⟩ := h.streams id c hc
    exact hlabel c origin hc'
  · -- a call of `on_data` for the id has read a frame of it or found its channel
    cases hhandlers : x.runtime.handlers with
    | nil => simp only [strand, hhandlers, job_nil]
    | cons task rest =>
      have hok := h.handlers task (by rw [hhandlers]; exact List.mem_cons_self)
      have hjob : ∀ t, task.job ≠ some (id, t) := by
        intro t ht
        cases task with
        | checking frame index =>
          obtain ⟨f, rfl, hf, -⟩ := hok
          simp only [Handler.job, Option.bind_some] at ht
          obtain ⟨⟨i, m⟩, hm, heq⟩ := Option.map_eq_some_iff.mp ht
          cases heq
          exact hframe hf hm
        | openPending i purpose index | openStreams i purpose index | openListener i purpose index
        | openInsert i index prepare =>
          cases ht
          exact ha index hok.2.1
        | openPrepare i c index prepare =>
          cases ht
          exact ha index hok.1
        | openRemove i c | answering i result =>
          cases ht
          obtain ⟨n, hn⟩ := hok
          exact ha n hn
        | respTake i result =>
          cases ht
          obtain ⟨n, hn⟩ := hok
          exact hframe hn rfl
        | respSend i result p =>
          cases ht
          exact hlabel _ _ hok
        | respInsert i c =>
          cases ht
          obtain ⟨j, hj⟩ := hok
          exact hlabel _ _ hj
        | delivering i bytes index | finishing i index =>
          cases ht
          exact hframe hok.1 rfl
        | resetting i reason =>
          cases ht
          obtain ⟨n, reason', hn⟩ := hok
          exact hframe hn rfl
        | sendingReset i reason =>
          cases ht
          obtain ⟨c, origin, hc⟩ := hok
          exact hlabel c origin hc
      simp only [strand, hhandlers, job, List.head?_cons, Option.bind_some]
      cases hj : task.job with
      | none => rfl
      | some e =>
        obtain ⟨i, t⟩ := e
        refine pick_of_ne ?_ t
        rintro rfl
        exact hjob t hj
  · refine List.map_eq_nil_iff.mpr (List.filter_eq_nil_iff.mpr fun half hmem hhalf => ?_)
    obtain ⟨w, hw⟩ := List.mem_iff_getElem?.mp hmem
    refine hb half.origin (h.writes w id half.origin ?_)
    simp only [Endpoint.half, hw, Option.map_some, Option.some.injEq, Prod.mk.injEq, and_true]
    simpa using hhalf
  · exact h.said_blank hb ha hid
  · refine List.filterMap_eq_nil_iff.mpr fun j hj => ?_
    cases hins : x.ins[j]? with
    | none => rfl
    | some f => rw [Option.bind_some, hnot f (List.mem_of_getElem? hins), Option.map_none]

end Endpoint

namespace Runtime

variable {r : Runtime}

/-- The ids that the calls of `open` have drawn. -/
def ids (r : Runtime) : List (Option StreamId) := r.opens.map OpenCall.id

theorem ids_modify {f : OpenCall → OpenCall} (hf : ∀ call, (f call).id = call.id) (j : Nat) :
    (r.opens.modify j f).map OpenCall.id = r.ids := map_modify_of_eq _ f hf _ _

theorem ids_setPhase (j : Nat) (phase : OpenPhase) : (r.setPhase j phase).ids = r.ids :=
  ids_modify (f := fun call => { call with phase }) (fun _ => rfl) j

theorem ids_leave (j : Nat) (i : StreamId) (c : Nat) (result : OpenEnd) :
    (r.leave j i c result).ids = r.ids :=
  ids_modify (f := fun call => { call with phase := .leaving i c result, waiterRx := false })
    (fun _ => rfl) j

theorem ids_sendWaiter (j : Nat) (result : P2pResult Unit) : (r.sendWaiter j result).ids = r.ids := by
  refine ids_modify (fun call => ?_) j
  split <;> rfl

/-- A region of `open` leaves the ids as they are, or draws one. -/
theorem ids_runOpen (j : Nat) : (r.runOpen j).ids = r.ids ∨
    ∃ call, r.opens[j]? = some call ∧ call.phase = .allocating ∧
      ∀ ins, (⟨r.runOpen j, ins⟩ : Endpoint) = Endpoint.drawId ⟨r, ins⟩ j := by
  unfold runOpen
  split
  · exact .inl rfl
  · rename_i call hj
    split
    · split <;> exact .inl (ids_setPhase j _)
    · rename_i hphase
      dsimp only
      split
      · exact .inl rfl
      · exact .inr ⟨call, hj, hphase, fun _ => rfl⟩
    · exact .inl (ids_setPhase j _)
    · exact .inl (ids_setPhase j _)
    · exact .inl (ids_setPhase j _)
    · split
      · exact .inl (ids_setPhase j _)
      · exact .inl (ids_setPhase j _)
    · exact .inl (ids_setPhase j _)
    all_goals exact .inl rfl

theorem ids_runHandler (i : Nat) (prepared : Option P2pError) : (r.runHandler i prepared).ids = r.ids := by
  unfold runHandler
  cases hi : r.handlers[i]? with
  | none => rfl
  | some task =>
    cases task with
    | checking frame index =>
      dsimp only
      split
      · rfl
      · split
        · rfl
        · rename_i f
          cases f with
          | openStream id purpose =>
            simp only [dispatch]
            split <;> rfl
          | _ => rfl
    | openInsert id index prepare | openPrepare id c index prepare | respTake id result
    | finishing id index | resetting id reason =>
      dsimp only
      split <;> rfl
    | respSend id result pending =>
      dsimp only [respond]
      split
      · split
        · exact ids_sendWaiter _ _
        · rfl
      · exact ids_sendWaiter _ _
    | delivering id bytes index =>
      dsimp only [deliver]
      split
      · rfl
      · split <;> rfl
    | _ => rfl

theorem ids_step {e : RuntimeEvent} (he : e.reliable = true) :
    (r.step e).ids = r.ids ∨ (r.step e).ids = r.ids ++ [none] ∨
      ∃ j call, r.opens[j]? = some call ∧ call.phase = .allocating ∧
        ∀ ins, (⟨r.step e, ins⟩ : Endpoint) = Endpoint.drawId ⟨r, ins⟩ j := by
  cases e with
  | listen listener =>
    simp only [step]
    split <;> exact .inl rfl
  | openStream purpose => exact .inr (.inl List.map_append)
  | runOpen j =>
    rcases ids_runOpen (r := r) j with hsame | ⟨call, hj, hphase, heq⟩
    · exact .inl hsame
    · exact .inr (.inr ⟨j, call, hj, hphase, heq⟩)
  | openSent j =>
    simp only [step, openSent]
    split
    · exact .inl (ids_setPhase _ _)
    · exact .inl rfl
  | openSendFails j err closes =>
    simp only [step, openSendFails]
    split
    · exact .inl (ids_leave _ _ _ _)
    · exact .inl rfl
  | openResumes j =>
    simp only [step, openResumes]
    split
    · exact .inl (ids_leave _ _ _ _)
    · exact .inl (ids_leave _ _ _ _)
    · exact .inl rfl
  | openCanceled j =>
    simp only [step, openCanceled]
    split
    · split
      · exact .inl rfl
      · exact .inl (ids_leave _ _ _ _)
    · exact .inl rfl
  | openTimesOut j =>
    simp only [step, openTimesOut]
    split
    · exact .inl (ids_leave _ _ _ _)
    · exact .inl rfl
  | openDropped j =>
    simp only [step, openDropped]
    split
    · exact .inl (ids_leave _ _ _ _)
    · exact .inl (ids_leave _ _ _ _)
    · exact .inl rfl
  | runHandler i prepared => exact .inl (ids_runHandler i prepared)
  | handlerSent i =>
    simp only [step, handlerSent]
    split <;> exact .inl rfl
  | writeData w bytes =>
    simp only [step, writeData]
    split
    · split <;> exact .inl rfl
    · exact .inl rfl
  | shutdown w =>
    simp only [step, shutdown]
    split
    · split <;> exact .inl rfl
    · exact .inl rfl
  | dropWrite w => exact .inl rfl
  | pollRead c n =>
    simp only [step, pollRead]
    split <;> exact .inl rfl
  | dropRead c =>
    simp only [step, dropRead]
    split <;> exact .inl rfl
  | onData | onOversized | handlerSendFails | closeAll | runCloser => cases he

end Runtime

namespace Endpoint

variable {x : Endpoint}

theorem idOf_eq_ids (x : Endpoint) (j : Nat) : x.idOf j = (x.runtime.ids[j]?).bind id := by
  rw [Runtime.ids, List.getElem?_map, idOf]
  cases x.runtime.opens[j]? <;> rfl

/-- An id that a call has after a step it had before, or it has drawn it now. -/
theorem idOf_step {e : EndpointEvent} {j : Nat} {id : StreamId} (hid : (x.step e).idOf j = some id) :
    x.idOf j = some id ∨ ∃ call, x.runtime.opens[j]? = some call ∧ call.phase = .allocating ∧
      x.step e = x.drawId j ∧ id = x.runtime.nextStreamId := by
  cases e with
  | receive frame =>
    simp only [step] at hid
    split at hid <;> exact .inl hid
  | act e =>
    simp only [step] at hid ⊢
    split at hid
    · rename_i hadmits
      rcases Runtime.ids_step (r := x.runtime) (admits_reliable hadmits) with hsame | hpush | ⟨n, call, hn, hphase, heq⟩
      · rw [idOf_eq_ids, hsame] at hid
        exact .inl ((idOf_eq_ids x j).trans hid)
      · rw [idOf_eq_ids, hpush] at hid
        obtain ⟨o, hget, ho⟩ := Option.bind_eq_some_iff.mp hid
        rcases getElem?_push_cases hget with hold | ⟨-, rfl⟩
        · refine .inl ?_
          rw [idOf_eq_ids, hold]
          exact ho
        · cases ho
      · rw [show ({ x with runtime := x.runtime.step e } : Endpoint) = x.drawId n from heq x.ins] at hid ⊢
        rw [idOf_drawId hn] at hid
        split at hid
        · rename_i hjn
          subst hjn
          cases hid
          exact .inr ⟨call, hn, hphase, by rw [if_pos hadmits], rfl⟩
        · exact .inl hid
    · exact .inl hid

end Endpoint

/-! ### Both ends of a stream -/

namespace Link

variable {s : Link} {p : Party} {k : Nat} {id : StreamId}

/-- The stream of the call `k` of the end `p`, there and at the other end. -/
def opener (s : Link) (p : Party) (k : Nat) (id : StreamId) : Strand :=
  (s.endpoint p).strand (some k) id

def acceptor (s : Link) (p : Party) (id : StreamId) : Strand := (s.endpoint p.other).strand none id

theorem Wired.owner (h : Wired s) (hid : (s.endpoint p).idOf k = some id) :
    (s.endpoint p).Owner (some k) id := by
  intro j
  constructor
  · intro hj
    rw [(h.typed p).numbered.distinct k j id hid hj]
  · rintro heq
    cases heq
    exact hid

theorem Wired.not_own_other (h : Wired s) (hne : id ≠ 0)
    (hpeer : (s.endpoint p).runtime.isPeerStreamId id = false) (j : Nat) :
    (s.endpoint p.other).idOf j ≠ some id := by
  intro hj
  have hother := (h.typed p.other).numbered.own hj
  rw [h.isPeer_other p hne, hpeer] at hother
  cases hother

theorem Wired.no_owner (h : Wired s) (hid : (s.endpoint p).idOf k = some id) :
    (s.endpoint p.other).Owner none id := by
  intro j
  refine ⟨fun hj => ?_, fun heq => by cases heq⟩
  exact absurd hj (h.not_own_other (h.own_ne_zero hid) ((h.typed p).numbered.own hid) j)

theorem Wired.coupled (h : Wired s) (p : Party) (k : Nat) (id : StreamId) :
    Strand.Coupled (s.opener p k id) (s.acceptor p id) := by
  refine ⟨(h.read p).filterMap _, ?_⟩
  have hread := h.read p.other
  rw [other_other] at hread
  exact hread.filterMap _

/-- An id that is drawn now is nowhere yet. -/
theorem Wired.blank (h : Wired s) (hne : id ≠ 0)
    (hpeer : (s.endpoint p).runtime.isPeerStreamId id = false)
    (hfresh : ∀ j, (s.endpoint p).idOf j ≠ some id) (j : Nat) :
    s.opener p j id = .new (Endpoint.attempt (s.endpoint p).runtime.opens (some j)) ∧
      s.acceptor p id = .new none := by
  have hother := h.not_own_other hne hpeer
  have hasked : ∀ n, ¬ (s.endpoint p).Asked n id := by
    rintro n ⟨purpose, hn⟩
    obtain ⟨source, hsent⟩ := h.sent_of_read hn
    obtain ⟨k', -, hk', -⟩ := (h.typed p.other).out _ (List.mem_of_getElem? hsent)
    exact hother k' hk'
  have hasked' : ∀ n, ¬ (s.endpoint p.other).Asked n id := by
    rintro n ⟨purpose, hn⟩
    obtain ⟨source, hsent⟩ := h.sent_of_read hn
    rw [other_other] at hsent
    obtain ⟨k', -, hk', -⟩ := (h.typed p).out _ (List.mem_of_getElem? hsent)
    exact hfresh k' hk'
  have hb : ∀ origin, ¬ (s.endpoint p).Belongs id origin := by
    intro origin hb
    cases origin with
    | opened k' => exact hfresh k' hb.1
    | accepted n => exact hasked n hb.2
  have hb' : ∀ origin, ¬ (s.endpoint p.other).Belongs id origin := by
    intro origin hb
    cases origin with
    | opened k' => exact hother k' hb.1
    | accepted n => exact hasked' n hb.2
  have hsaid := (h.typed p).said_blank hb hasked hfresh
  have hsaid' := (h.typed p.other).said_blank hb' hasked' hother
  have hcoupled := h.coupled p j id
  refine ⟨?_, ?_⟩
  · exact Endpoint.strand_blank (h.typed p) hb hasked hfresh
      (List.prefix_nil.mp (hsaid' ▸ hcoupled.opener))
  · exact Endpoint.strand_blank (h.typed p.other) hb' hasked' hother
      (List.prefix_nil.mp (hsaid ▸ hcoupled.acceptor))

theorem endpoint_step_self {e : LinkEvent} {e' : EndpointEvent} (he : s.event p e = some e') :
    (s.step (p, e)).endpoint p = (s.endpoint p).step e' := by
  simp only [Link.step, he, endpoint_set]

theorem endpoint_step_other (s : Link) (p : Party) (e : LinkEvent) :
    (s.step (p, e)).endpoint p.other = s.endpoint p.other := by
  unfold Link.step
  split
  · exact endpoint_set_other ..
  · rfl

/-- A call draws its id. -/
theorem Wired.drawn (h : Wired s) {call : OpenCall} {e : EndpointEvent} {e' : LinkEvent}
    (he : s.event p e' = some e) (hk : (s.endpoint p).runtime.opens[k]? = some call)
    (hphase : call.phase = .allocating) (hdraw : (s.endpoint p).step e = (s.endpoint p).drawId k)
    (hid : id = (s.endpoint p).runtime.nextStreamId) :
    (s.step (p, e')).opener p k id = .new (some ⟨.drawn, none, true⟩) ∧
      (s.step (p, e')).acceptor p id = .new none := by
  have hok := (h.typed p).calls k call hk
  simp only [Endpoint.CallOk, hphase] at hok
  have hself := (endpoint_step_self he).trans hdraw
  have hown : ((s.step (p, e')).endpoint p).idOf k = some id := by
    rw [hself, Endpoint.idOf_drawId hk, if_pos rfl, hid]
  have hpeer : (s.endpoint p).runtime.isPeerStreamId id = false := by
    have hnew := ((h.step (p, e')).typed p).numbered.own hown
    rw [hself] at hnew
    exact hnew
  have hfresh : ∀ j, (s.endpoint p).idOf j ≠ some id := by
    intro j hj
    obtain ⟨hval, -, -⟩ := (h.typed p).numbered.next_val hk hok.1
    obtain ⟨m, hm, hidm⟩ := (h.typed p).numbered.ids j id hj
    rw [hid] at hidm
    omega
  have hblank := h.blank ((h.step (p, e')).own_ne_zero hown) hpeer hfresh k
  refine ⟨?_, ?_⟩
  · have hcall : ((s.endpoint p).drawId k).strand (some k) id =
        { s.opener p k id with call := some ⟨.drawn, none, true⟩ } := by
      refine Strand.ext ?_ rfl rfl rfl rfl rfl rfl rfl
      refine (Endpoint.attempt_modify_self hk rfl).trans ?_
      simp only [OpenCall.attempt, hok.2, Option.map_none]
      rfl
    rw [opener, hself, hcall, hblank.1]
    rfl
  · rw [acceptor, endpoint_step_other]
    exact hblank.2

/-- **What a step of the link does to a stream**: it makes the stream, it leaves it, or one of the
ends does a step of it. -/
theorem Wired.pair_step (h : Wired s) (i : Party × LinkEvent)
    (hid : ((s.step i).endpoint p).idOf k = some id) :
    ((s.step i).opener p k id = .new (some ⟨.drawn, none, true⟩) ∧
      (s.step i).acceptor p id = .new none) ∨
    ((s.endpoint p).idOf k = some id ∧
      (((s.step i).opener p k id = s.opener p k id ∧ (s.step i).acceptor p id = s.acceptor p id) ∨
      (∃ e a, i.1 = p ∧ s.event p i.2 = some e ∧ (s.endpoint p).Does (some k) id e a ∧
        Strand.Step (s.opener p k id) a ((s.step i).opener p k id) ∧
        (s.step i).acceptor p id = s.acceptor p id) ∨
      ∃ e a, i.1 = p.other ∧ s.event p.other i.2 = some e ∧ (s.endpoint p.other).Does none id e a ∧
        Strand.Step (s.acceptor p id) a ((s.step i).acceptor p id) ∧
        (s.step i).opener p k id = s.opener p k id)) := by
  obtain ⟨q, e'⟩ := i
  cases he : s.event q e' with
  | none =>
    have hsame : s.step (q, e') = s := by simp only [Link.step, he]
    rw [hsame] at hid ⊢
    exact .inr ⟨hid, .inl ⟨rfl, rfl⟩⟩
  | some e =>
    by_cases hq : q = p
    · subst hq
      rw [endpoint_step_self he] at hid
      rcases Endpoint.idOf_step hid with hold | ⟨call, hk, hphase, hdraw, heq⟩
      · obtain ⟨a, hstep, hdoes⟩ := Endpoint.strand_step (h.typed q) (h.owner hold) e
        refine .inr ⟨hold, .inr (.inl ⟨e, a, rfl, he, hdoes, ?_, ?_⟩)⟩
        · rw [opener, opener, endpoint_step_self he]
          exact hstep
        · rw [acceptor, endpoint_step_other]
          rfl
      · exact .inl (h.drawn he hk hphase hdraw heq)
    · obtain rfl : q = p.other := by
        cases p <;> cases q <;> first | rfl | exact absurd rfl hq
      have hother : (s.step (p.other, e')).endpoint p = s.endpoint p := by
        have hrefl := endpoint_step_other s p.other e'
        rwa [other_other] at hrefl
      rw [hother] at hid
      obtain ⟨a, hstep, hdoes⟩ := Endpoint.strand_step (h.typed p.other) (h.no_owner hid) e
      refine .inr ⟨hid, .inr (.inr ⟨e, a, rfl, he, hdoes, ?_, ?_⟩)⟩
      · rw [acceptor, acceptor, endpoint_step_self he]
        exact hstep
      · rw [opener, hother]
        rfl

/-- **Run rule for streams.**  `A` and `B` say what the two ends may do in a run along which `C` holds;
what they preserve holds of every stream. -/
theorem exec_pairs {I : Strand → Strand → Prop} {A B : Strand → Strand → Act → Prop}
    {C : Link → Party × LinkEvent → Prop} {p : Party} {k : Nat} {id : StreamId}
    (hnew : I (.new (some ⟨.drawn, none, true⟩)) (.new none))
    (hopener : ∀ o o' t a, I o t → Strand.Coupled o t → Strand.Coupled o' t → A o t a →
      Strand.Step o a o' → I o' t)
    (hacceptor : ∀ o t t' a, I o t → Strand.Coupled o t → Strand.Coupled o t' → B o t a →
      Strand.Step t a t' → I o t')
    (hA : ∀ s i e a, Wired s → C s i → (s.endpoint p).idOf k = some id → i.1 = p →
      s.event p i.2 = some e → (s.endpoint p).Does (some k) id e a →
      A (s.opener p k id) (s.acceptor p id) a)
    (hB : ∀ s i e a, Wired s → C s i → (s.endpoint p).idOf k = some id → i.1 = p.other →
      s.event p.other i.2 = some e → (s.endpoint p.other).Does none id e a →
      B (s.opener p k id) (s.acceptor p id) a)
    {is : List (Party × LinkEvent)} (hC : Along Link.step C start is)
    (hid : ((exec Link.step start is).endpoint p).idOf k = some id) :
    I ((exec Link.step start is).opener p k id) ((exec Link.step start is).acceptor p id) := by
  have hrun := exec_inv (C := C)
    (I := fun s => Wired s ∧ ((s.endpoint p).idOf k = some id → I (s.opener p k id) (s.acceptor p id)))
    ?_ ⟨wired_start, ?_⟩ hC
  · exact hrun.2 hid
  · rintro s i ⟨hw, hI⟩ hCi
    refine ⟨hw.step i, fun hid' => ?_⟩
    rcases hw.pair_step i hid' with ⟨ho, ht⟩ | ⟨hold, hcases⟩
    · rw [ho, ht]
      exact hnew
    · have hbefore := hw.coupled p k id
      have hafter := (hw.step i).coupled p k id
      rcases hcases with ⟨ho, ht⟩ | ⟨e, a, hi, he, hdoes, hstep, ht⟩ | ⟨e, a, hi, he, hdoes, hstep, ho⟩
      · rw [ho, ht]
        exact hI hold
      · rw [ht] at hafter ⊢
        exact hopener _ _ _ a (hI hold) hbefore hafter (hA s i e a hw hCi hold hi he hdoes) hstep
      · rw [ho] at hafter ⊢
        exact hacceptor _ _ _ a (hI hold) hbefore hafter (hB s i e a hw hCi hold hi he hdoes) hstep
  · intro hstart
    cases p <;> cases hstart

end Link

end BuckyP2p.ControlStream
