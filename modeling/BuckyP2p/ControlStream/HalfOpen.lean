import BuckyP2p.ControlStream.EarlyData

/-!
# BuckyP2p.ControlStream.HalfOpen — a stream that only one end still has

When every frame was handled and no call is on its way, an end that has a stream in its map waits for
an end or a reset of the other end.  It gets one only from a write half that is shut down, or because
its own deliveries fail: nothing is sent for a call of `open` that is given up, nor for a write half
that is dropped, and an end that overtakes the answer finds no stream.  Without such a step of the
stream (`Deserts`) the other end has its write half.

* `Owning`: what the end that has opened the stream keeps without such a step.
* `Serving`: the same of the end that has accepted it.
-/

namespace BuckyP2p.ControlStream

open Lib
open Tcp (TunnelPurpose)

namespace Strand

variable {s s' o o' t t' : Strand} {a : Act} {c c' : Attempt}

/-- No end comes before the answer. -/
def Ordered (l : List Msg) : Prop := l.Pairwise fun a b => a = .fin → b ≠ .answer true

/-- What comes before the answer is no end. -/
theorem Ordered.before (h : Ordered s.read) (ht : Tasked s) (htask : s.task = some .inserting) :
    .fin ∉ s.read := by
  have hsplit := List.dropLast_append_getLast? _ (ht _ htask)
  rw [← hsplit] at h ⊢
  intro hmem
  rcases List.mem_append.mp hmem with hold | hlast
  · exact (List.pairwise_append.mp h).2.2 _ hold _ (List.mem_singleton_self _) rfl rfl
  · cases List.mem_singleton.mp hlast

/-! ### The end that has opened the stream -/

/-- The call is told, or will be. -/
def Hopeful (s : Strand) (c : Attempt) : Prop :=
  c.told ≠ none ∨ s.pending = true ∨ ∃ b, s.task = some (.telling b)

structure Owning (s : Strand) (c : Attempt) : Prop where
  hopeful : c.stage = .sending ∨ c.stage = .waiting → Hopeful s c
  refused : c.stage = .leaving false ∨ c.stage = .over false → s.sent = [] ∨ c.told = some false
  half : c.stage = .over true → .live ∈ s.halves ∨ .fin ∈ s.sent
  cleaned : ∀ ok, c.stage = .over ok → s.pending = false
  entry : s.entry = true → .fin ∉ s.done

/-- A task that is not told about ends, or goes on to tell. -/
theorem Hopeful.settle (h : Hopeful s c) (hpending : s'.pending = s.pending)
    (htask : ∀ b, s.task ≠ some (.telling b)) : Hopeful s' c := by
  rcases h with htold | hpend | ⟨b, hb⟩
  · exact .inl htold
  · exact .inr (.inl (hpending.trans hpend))
  · exact absurd hb (htask b)

/-- Only a task for an end makes an end over and done with. -/
theorem Step.fin_done (hstep : Step s a s') (ht : Tasked s) {task : Task} (htask : s.task = some task)
    (hne : task.msg ≠ .fin) (hfin : .fin ∈ s'.done) : .fin ∈ s.done := by
  rcases (hstep.mem_done ht).mp hfin with hold | ⟨-, hmsg⟩
  · exact hold
  · rw [htask] at hmsg
    exact absurd (Option.some.inj hmsg) hne

theorem Owning.step (h : Owning s c) (hc : Calling s c) (ho : Opened s c) (ht : Tasked s)
    (hstep : Step s a s') (hask : .ask ∉ s.read) (hanswer : ∀ b, .answer b ∈ s.read → .ask ∈ s.sent)
    (hordered : Ordered s.read) (hquit : a ≠ .abandons) (hdrop : a ≠ .drops)
    (hc' : s'.call = some c') : Owning s' c' := by
  have hfin : ∀ {x : Task}, s.task = some x → x.msg ≠ .fin → .fin ∈ s'.done → .fin ∈ s.done :=
    fun htask => hstep.fin_done ht htask
  have hasked : c.told = some true → s.sent ≠ [] := fun htold =>
    List.ne_nil_of_mem (ho.asked ht hanswer (by simp [htold]))
  have hcalled := hc.call
  obtain ⟨-, k2, k3, k4, k5, k6⟩ := hc
  obtain ⟨o1, o2, o3, o4⟩ := ho
  obtain ⟨h1, h2, h3, h4, h5⟩ := h
  cases hstep with
  | idle =>
    cases hcalled.symm.trans hc'
    exact ⟨h1, h2, h3, h4, h5⟩
  | abandons hcall hstage => exact absurd rfl hquit
  | drops i hi => exact absurd rfl hdrop
  | starts hcall hstage =>
    cases hcalled.symm.trans hcall
    cases hc'
    exact ⟨fun _ => .inr (.inl rfl), by simp, by simp, by simp, h5⟩
  | asks hcall hstage =>
    cases hcalled.symm.trans hcall
    cases hc'
    exact ⟨fun _ => h1 (.inl hstage), by simp, by simp, by simp, h5⟩
  | withdraws hcall hstage =>
    cases hcalled.symm.trans hcall
    cases hc'
    exact ⟨by simp, fun _ => .inl (o1 (.inr hstage)), by simp, by simp, h5⟩
  | resumes ok hcall hstage htold =>
    cases hcalled.symm.trans hcall
    cases hc'
    refine ⟨by simp, ?_, by simp, by simp, h5⟩
    rintro (hok | hok)
    · cases hok
      exact .inr htold
    · cases hok
  | cancels hcall hstage htold hpending htask =>
    cases hcalled.symm.trans hcall
    -- such a call is told, or will be
    rcases h1 (.inr hstage) with hne | hpend | ⟨b, hb⟩
    · exact absurd htold hne
    · cases hpending.symm.trans hpend
    · exact absurd hb (htask b)
  | returns hcall hstage =>
    cases hcalled.symm.trans hcall
    cases hc'
    exact ⟨by simp, by simp, fun _ => .inl (by simp), fun _ _ => rfl, h5⟩
  | cleans hcall hstage =>
    cases hcalled.symm.trans hcall
    cases hc'
    exact ⟨by simp, fun _ => h2 (.inl hstage), by simp, fun _ _ => rfl, h5⟩
  | reads m htask =>
    cases hcalled.symm.trans hc'
    refine ⟨fun hs => (h1 hs).settle rfl (by simp [htask]), h2, h3, h4, fun he => ?_⟩
    simpa [done, htask] using h5 he
  | refuses htask | accepts htask hentry | exposes htask | retracts htask | removes htask
  | answers b htask =>
    exact absurd (ht.mem_read.mpr (.inr (by rw [htask]; rfl))) hask
  | takes ok htask hpending =>
    cases hcalled.symm.trans hc'
    exact ⟨fun _ => .inr (.inr ⟨ok, rfl⟩), h2, h3, fun _ _ => rfl,
      fun he hmem => h5 he (hfin htask (by rintro ⟨⟩) hmem)⟩
  | ignores ok htask hpending =>
    cases hcalled.symm.trans hc'
    exact ⟨fun hs => (h1 hs).settle rfl (by simp [htask]), h2, h3, h4,
      fun he hmem => h5 he (hfin htask (by rintro ⟨⟩) hmem)⟩
  | confirms htask hcall hrx =>
    cases hcalled.symm.trans hcall
    cases hc'
    refine ⟨fun _ => .inl (by simp), fun hs => (h2 hs).imp_right fun hfalse => ?_, h3, h4,
      fun he hmem => h5 he (hfin htask (by rintro ⟨⟩) hmem)⟩
    cases (k5 true htask).1.symm.trans hfalse
  | rejects htask hcall hrx =>
    cases hcalled.symm.trans hcall
    cases hc'
    exact ⟨fun _ => .inl (by simp), fun _ => .inr rfl, h3, h4,
      fun he hmem => h5 he (hfin htask (by rintro ⟨⟩) hmem)⟩
  | unheard ok htask hcall hrx =>
    cases hcalled.symm.trans hcall
    cases hcalled.symm.trans hc'
    refine ⟨fun hs => ?_, h2, h3, h4, fun he hmem => h5 he (hfin htask (by rintro ⟨⟩) hmem)⟩
    rw [k3.mpr (.inr hs)] at hrx
    cases hrx
  | inserts htask =>
    cases hcalled.symm.trans hc'
    refine ⟨fun hs => (h1 hs).settle rfl (by simp [htask]), h2, h3, h4, fun _ => ?_⟩
    exact hordered.before ht htask
  | delivers htask hentry =>
    cases hcalled.symm.trans hc'
    exact ⟨fun hs => (h1 hs).settle rfl (by simp [htask]), h2, h3, h4,
      fun he hmem => h5 he (hfin htask (by rintro ⟨⟩) hmem)⟩
  | fails htask hentry | finishes htask hentry | resets htask =>
    cases hcalled.symm.trans hc'
    exact ⟨fun hs => (h1 hs).settle rfl (by simp [htask]), h2, h3, h4, by rintro ⟨⟩⟩
  | loses htask hentry =>
    cases hcalled.symm.trans hc'
    refine ⟨fun hs => (h1 hs).settle rfl fun b hb => ?_, h2, h3, h4, fun he => ?_⟩
    · rcases htask with htask | htask
      · cases htask.symm.trans hb
      · cases htask.symm.trans hb
    · cases hentry.symm.trans he
  | sendsReset htask =>
    cases hcalled.symm.trans hc'
    have htold := o2 (.inr (.inr htask))
    refine ⟨fun _ => .inl (by simp [htold]), fun hs => ?_,
      fun hs => (h3 hs).imp_right (List.mem_append_left _), h4,
      fun he hmem => h5 he (hfin htask (by rintro ⟨⟩) hmem)⟩
    rcases h2 hs with hsent | hfalse
    · exact absurd hsent (hasked htold)
    · cases htold.symm.trans hfalse
  | writes hlive =>
    cases hcalled.symm.trans hc'
    have hstage := o3 (List.ne_nil_of_mem hlive)
    refine ⟨h1, ?_, fun hs => (h3 hs).imp_right (List.mem_append_left _), h4, h5⟩
    rw [hstage]
    simp
  | ends i hi =>
    cases hcalled.symm.trans hc'
    have hstage := o3 (List.ne_nil_of_mem (List.mem_of_getElem? hi))
    refine ⟨h1, ?_, fun _ => .inr (by simp), h4, h5⟩
    rw [hstage]
    simp
  | forgets i hi hstate =>
    cases hcalled.symm.trans hc'
    exact ⟨h1, h2, fun hs => (h3 hs).imp_left fun hl => mem_set_of_ne hi hl (Ne.symm hstate), h4, h5⟩

/-! ### The end that has accepted it -/

structure Serving (t : Strand) : Prop where
  pending : t.pending = false
  telling : (∀ b, t.task ≠ some (.telling b)) ∧ t.task ≠ some .inserting
  fresh : t.task = some (.answering true) → ∀ b, .answer b ∉ t.sent
  single : .answer true ∈ t.sent → .answer false ∉ t.sent
  late : .fin ∈ t.sent → .answer true ∈ t.sent
  ordered : Ordered t.sent
  half : t.task = some (.answering true) ∨ .answer true ∈ t.sent → .live ∈ t.halves ∨ .fin ∈ t.sent
  entry : t.entry = true → t.task = some .preparing ∨ t.task = some .removing ∨
    t.task = some (.answering true) ∨ .answer true ∈ t.sent
  ended : t.entry = true → .fin ∉ t.done

theorem AskFirst.dropLast {l : List Msg} (h : AskFirst l) (hlast : l.getLast? = some .ask) :
    l.dropLast = [] := by
  obtain rfl | ⟨rest, rfl, hnot⟩ := h
  · rfl
  · cases rest with
    | nil => rfl
    | cons m rest =>
      rw [List.getLast?_cons_cons] at hlast
      exact absurd (List.mem_of_getLast? hlast) hnot

theorem Serving.answered (h : Serving s) (he : s.entry = true)
    (htask : s.task ≠ some .preparing ∧ s.task ≠ some .removing ∧ s.task ≠ some (.answering true)) :
    .answer true ∈ s.sent := by
  rcases h.entry he with h1 | h2 | h3 | hsent
  · exact absurd h1 htask.1
  · exact absurd h2 htask.2.1
  · exact absurd h3 htask.2.2
  · exact hsent

/-- A task goes on or ends, and nothing is sent. -/
theorem Serving.proceed (h : Serving s) (ht : Tasked s) (hstep : Step s a s')
    (hsame : s'.pending = s.pending ∧ s'.halves = s.halves ∧ s'.sent = s.sent)
    (htelling : (∀ b, s'.task ≠ some (.telling b)) ∧ s'.task ≠ some .inserting)
    (hanswering : s'.task ≠ some (.answering true))
    (hentry : s'.entry = true → s.entry = true ∧ s.task.map Task.msg ≠ some .fin ∧
      (s'.task = some .preparing ∨ s'.task = some .removing ∨ .answer true ∈ s.sent)) :
    Serving s' := by
  obtain ⟨hpending, hhalves, hsent⟩ := hsame
  refine ⟨hpending.trans h.pending, htelling, fun heq => absurd heq hanswering, ?_, ?_, ?_, ?_, ?_, ?_⟩
  · rw [hsent]
    exact h.single
  · rw [hsent]
    exact h.late
  · rw [hsent]
    exact h.ordered
  · rw [hsent, hhalves]
    exact fun hs => h.half (.inr (hs.resolve_left hanswering))
  · rw [hsent]
    exact fun he => (hentry he).2.2.imp_right (Or.imp_right .inr)
  · intro he hmem
    rcases (hstep.mem_done ht).mp hmem with hold | ⟨-, heq⟩
    · exact h.ended (hentry he).1 hold
    · exact (hentry he).2.1 heq

/-- A frame that is no answer is sent. -/
theorem Serving.sends (h : Serving s) {task : Option Task} {halves : List WriteState} {m : Msg}
    (hm : ∀ b, m ≠ .answer b) (hfin : m = .fin → .answer true ∈ s.sent)
    (htask : task = s.task ∨ task = none ∧ s.task = some .refusing)
    (hhalves : .live ∈ s.halves → .live ∈ halves ∨ m = .fin)
    (hended : s.entry = true → .fin ∉ ({ s with task := task } : Strand).done) :
    Serving { s with task := task, halves := halves, sent := s.sent ++ [m] } := by
  have hmem : ∀ b, .answer b ∈ s.sent ++ [m] ↔ .answer b ∈ s.sent := by
    intro b
    rw [List.mem_append, List.mem_singleton, or_iff_left (Ne.symm (hm b))]
  have hkind : ∀ task', task = some task' → s.task = some task' := by
    rintro task' rfl
    rcases htask with heq | ⟨hnone, -⟩
    · exact heq.symm
    · cases hnone
  refine ⟨h.pending, ?_, ?_, ?_, ?_, pairwise_push h.ordered fun b _ _ => hm true, ?_, ?_, hended⟩
  · exact ⟨fun b hb => h.telling.1 b (hkind _ hb), fun hb => h.telling.2 (hkind _ hb)⟩
  · exact fun heq b hb => h.fresh (hkind _ heq) b ((hmem b).mp hb)
  · exact fun htrue hfalse => h.single ((hmem true).mp htrue) ((hmem false).mp hfalse)
  · intro hf
    rcases List.mem_append.mp hf with hold | hlast
    · exact (hmem true).mpr (h.late hold)
    · exact (hmem true).mpr (hfin (List.mem_singleton.mp hlast).symm)
  · intro hs
    rcases h.half (hs.imp (hkind _) (hmem true).mp) with hlive | hf
    · rcases hhalves hlive with hlive' | rfl
      · exact .inl hlive'
      · exact .inr (List.mem_append_right _ (List.mem_singleton_self _))
    · exact .inr (List.mem_append_left _ hf)
  · intro he
    rcases htask with rfl | ⟨rfl, hrefusing⟩
    · exact (h.entry he).imp_right (Or.imp_right (Or.imp_right (hmem true).mpr))
    · exact .inr (.inr (.inr ((hmem true).mpr (h.answered he (by simp [hrefusing])))))

theorem Serving.step (h : Serving s) (hacc : Accepting s) (ht : Tasked s) (hstep : Step s a s')
    (hfirst : AskFirst s.read) (hdrop : a ≠ .drops) (hend : a = .ends → .answer true ∈ s.sent) :
    Serving s' := by
  have hcall := hacc.call
  have hearly := hacc.early
  cases id hstep with
  | idle => exact h
  | drops i hi => exact absurd rfl hdrop
  | starts hcall' hstage | asks hcall' hstage | withdraws hcall' hstage
  | resumes b hcall' hstage htold | cancels hcall' hstage htold hpending htask
  | abandons hcall' hstage | returns hcall' hstage | cleans hcall' hstage =>
    cases hcall.symm.trans hcall'
  | confirms htask hcall' hrx | rejects htask hcall' hrx | unheard b htask hcall' hrx =>
    cases hcall.symm.trans hcall'
  | takes b htask hpending => cases h.pending.symm.trans hpending
  | inserts htask => exact absurd htask h.telling.2
  | reads m htask =>
    refine h.proceed ht hstep ⟨rfl, rfl, rfl⟩ ?_ ?_ fun he => ⟨he, by simp [htask], ?_⟩
    · cases m <;> simp [Msg.task]
    · cases m <;> simp [Msg.task]
    · exact .inr (.inr (h.answered he (by simp [htask])))
  | refuses htask =>
    exact h.proceed ht hstep ⟨rfl, rfl, rfl⟩ (by simp) (by simp) fun he =>
      ⟨he, by simp [htask, Task.msg], .inr (.inr (h.answered he (by simp [htask])))⟩
  | retracts htask =>
    exact h.proceed ht hstep ⟨rfl, rfl, rfl⟩ (by simp) (by simp) fun he =>
      ⟨he, by simp [htask, Task.msg], .inr (.inl rfl)⟩
  | removes htask => exact h.proceed ht hstep ⟨rfl, rfl, rfl⟩ (by simp) (by simp) (by rintro ⟨⟩)
  | ignores b htask hpending | delivers htask hentry =>
    exact h.proceed ht hstep ⟨rfl, rfl, rfl⟩ (by simp) (by simp) fun he =>
      ⟨he, by simp [htask, Task.msg], .inr (.inr (h.answered he (by simp [htask])))⟩
  | fails htask hentry | finishes htask hentry | resets htask =>
    exact h.proceed ht hstep ⟨rfl, rfl, rfl⟩ (by simp) (by simp) (by rintro ⟨⟩)
  | loses htask hentry =>
    refine h.proceed ht hstep ⟨rfl, rfl, rfl⟩ (by simp) (by simp) fun he => ?_
    cases hentry.symm.trans he
  | accepts htask hentry =>
    obtain ⟨hhalves, hsent⟩ := hearly (.inl htask)
    refine ⟨h.pending, by simp, by rintro ⟨⟩, h.single, h.late, h.ordered, fun hs => h.half (.inr ?_),
      fun _ => .inl rfl, fun _ => ?_⟩
    · exact hs.resolve_left (by simp)
    · -- nothing was read before the `Open` frame
      have hlast : s.read.getLast? = some .ask := ht _ htask
      simp [done, hfirst.dropLast hlast]
  | exposes htask =>
    obtain ⟨hhalves, hsent⟩ := hearly (.inr (.inl htask))
    refine ⟨h.pending, by simp, fun _ b => by simp [hsent], h.single, h.late, h.ordered,
      fun _ => .inl (by simp), fun _ => .inr (.inr (.inl rfl)), fun he hmem => h.ended he ?_⟩
    exact hstep.fin_done ht htask (by rintro ⟨⟩) hmem
  | answers b htask =>
    have hended : s.entry = true → Msg.fin ∉ ({ s with task := none, sent := s.sent ++ [.answer b] } : Strand).done :=
      fun he hmem => h.ended he (hstep.fin_done ht htask (by rintro ⟨⟩) hmem)
    cases b with
    | true =>
      have hfresh := h.fresh htask
      have hnofin : .fin ∉ s.sent := fun hf => hfresh true (h.late hf)
      refine ⟨h.pending, by simp, by rintro ⟨⟩, by simp [hfresh false], fun _ => by simp, ?_, fun _ => ?_,
        fun _ => .inr (.inr (.inr (by simp))), hended⟩
      · exact pairwise_push h.ordered fun b hb heq => absurd (heq ▸ hb) hnofin
      · exact (h.half (.inl htask)).imp_right (List.mem_append_left _)
    | false =>
      obtain ⟨hhalves, hsent⟩ := hearly (.inr (.inr (.inr htask)))
      refine ⟨h.pending, by simp, by rintro ⟨⟩, by simp [hsent], by simp [hsent], by simp [hsent, Ordered],
        by simp [hsent], fun he => ?_, hended⟩
      have hanswer := h.answered he (by simp [htask])
      rw [hsent] at hanswer
      cases hanswer
  | sendsReset htask =>
    exact h.sends (by simp) (by simp) (.inr ⟨rfl, htask⟩) .inl fun he hmem =>
      h.ended he (hstep.fin_done ht htask (by rintro ⟨⟩) hmem)
  | writes hlive => exact h.sends (by simp) (by simp) (.inl rfl) .inl h.ended
  | ends i hi => exact h.sends (by simp) (fun _ => hend rfl) (.inl rfl) (fun _ => .inr rfl) h.ended
  | forgets i hi hstate =>
    refine ⟨h.pending, h.telling, h.fresh, h.single, h.late, h.ordered, fun hs => ?_, h.entry, h.ended⟩
    exact (h.half hs).imp_left fun hl => mem_set_of_ne hi hl (Ne.symm hstate)

/-! ### Both strands -/

/-- What is known of a stream that nobody has deserted. -/
structure Tended (o t : Strand) : Prop where
  kept : Kept o t
  owning : ∃ c, o.call = some c ∧ Owning o c
  serving : Serving t

theorem Tended.new : Tended (.new (some ⟨.drawn, none, true⟩)) (.new none) := by
  refine ⟨.new, ⟨_, rfl, ?_⟩, ?_⟩
  · constructor <;> simp [Strand.new]
  · constructor <;> simp [Strand.new, Ordered]

theorem Tended.opener_step (h : Tended o t) (hold : Coupled o t) (hnew : Coupled o' t)
    (hquit : a ≠ .abandons) (hdrop : a ≠ .drops) (hstep : Step o a o') : Tended o' t := by
  have hkept' := h.kept.opener_step hold hnew hstep
  obtain ⟨c, hc, ho, -, -⟩ := h.kept.call
  obtain ⟨c', hc', -, -, -⟩ := hkept'.call
  obtain ⟨d, hd, howning⟩ := h.owning
  obtain rfl : d = c := Option.some.inj (hd.symm.trans hc.call)
  refine ⟨hkept', ⟨c', hc'.call, ?_⟩, h.serving⟩
  exact howning.step hc ho h.kept.opener hstep (h.kept.accepting.ask_not_read hold.opener)
    (fun b => h.kept.accepting.asked_of_answer h.kept.first hold.acceptor hold.opener)
    (h.serving.ordered.sublist hold.opener.sublist) hquit hdrop hc'.call

theorem Tended.acceptor_step (h : Tended o t) (hold : Coupled o t) (hnew : Coupled o t')
    (hdrop : a ≠ .drops) (hend : a = .ends → .answer true ∈ t.sent) (hstep : Step t a t') :
    Tended o t' :=
  ⟨h.kept.acceptor_step hnew hstep, h.owning,
    h.serving.step h.kept.accepting h.kept.acceptor hstep (h.kept.first.of_prefix hold.acceptor)
      hdrop hend⟩

/-- Every frame was handled, and the call of `open` has returned. -/
structure Rested (o t : Strand) : Prop where
  opener : o.read = t.sent ∧ o.task = none
  acceptor : t.read = o.sent ∧ t.task = none
  returned : ∀ c, o.call = some c → ∃ ok, c.stage = .over ok

namespace Rested

theorem opener_done (h : Rested o t) : o.done = t.sent := (if_pos h.opener.2).trans h.opener.1

theorem acceptor_done (h : Rested o t) : t.done = o.sent := (if_pos h.acceptor.2).trans h.acceptor.1

end Rested

/-- The end that has the entry was told that the other end has accepted, and has seen no end. -/
theorem Tended.opener_entry (h : Tended o t) (hr : Rested o t) (he : o.entry = true) :
    .live ∈ t.halves := by
  obtain ⟨c, hc, ho, -, -⟩ := h.kept.call
  obtain ⟨d, hd, howning⟩ := h.owning
  have hanswered : .answer true ∈ t.sent := by
    rcases ho.told true (ho.entry (.inl he)) with hdone | ⟨-, htask⟩
    · rwa [hr.opener_done] at hdone
    · cases hr.opener.2.symm.trans htask
  have hnofin := howning.entry he
  rw [hr.opener_done] at hnofin
  exact (h.serving.half (.inr hanswered)).resolve_right hnofin

/-- The end that has the entry has answered, so the call of the other end has succeeded. -/
theorem Tended.acceptor_entry (h : Tended o t) (hr : Rested o t) (he : t.entry = true) :
    .live ∈ o.halves := by
  obtain ⟨c, hc, ho, -, -⟩ := h.kept.call
  obtain ⟨d, hd, howning⟩ := h.owning
  obtain rfl : d = c := Option.some.inj (hd.symm.trans hc.call)
  have hanswered := h.serving.answered he (by simp [hr.acceptor.2])
  have hnofin := h.serving.ended he
  rw [hr.acceptor_done] at hnofin
  obtain ⟨ok, hover⟩ := hr.returned d hd
  cases ok with
  | true => exact (howning.half hover).resolve_right hnofin
  | false =>
    rcases howning.refused (.inr hover) with hsent | htold
    · have hread : t.read = [] := hr.acceptor.1.trans hsent
      rw [(h.kept.accepting.blank hread).2.2] at he
      cases he
    · rcases ho.told false htold with hdone | ⟨hfalse, -⟩
      · rw [hr.opener_done] at hdone
        exact absurd hdone (h.serving.single hanswered)
      · cases hfalse

theorem Tended.not_pending (h : Tended o t) (hr : Rested o t) : o.pending = false := by
  obtain ⟨d, hd, howning⟩ := h.owning
  obtain ⟨ok, hover⟩ := hr.returned d hd
  exact howning.cleaned ok hover

end Strand

/-! ### A reader whose channel has no sender -/

/-- The end of the stream, or an error. -/
def ReadOutcome.isEnd : ReadOutcome → Bool
  | .ok bytes => bytes.isEmpty
  | .err _ => true
  | .pending => false

namespace ControlStreamRead

variable {r : ControlStreamRead} {n : Nat}

/-- The outcomes of polls with these buffers, when nobody holds the sender of the channel. -/
def polls (r : ControlStreamRead) : List Nat → List ReadOutcome
  | [] => []
  | n :: rest => (r.pollRead false n).2 :: (r.pollRead false n).1.polls rest

def unread (r : ControlStreamRead) : Nat :=
  r.left.length + (r.rx.queue.map fun item => item.bytes.length + 1).sum

/-- A poll finds the end, or there is less to read after it. -/
theorem pollRead_closed (hn : 0 < n) :
    (r.pollRead false n).2.isEnd = true ∨ (r.pollRead false n).1.unread < r.unread := by
  by_cases hleft : r.left = []
  · cases hqueue : r.rx.queue with
    | nil =>
      rw [pollRead_empty false hleft hqueue]
      exact .inl rfl
    | cons item rest =>
      cases item with
      | fin =>
        rw [pollRead_fin false hleft hqueue]
        exact .inl rfl
      | reset code msg =>
        rw [pollRead_reset false hleft hqueue]
        exact .inl rfl
      | data bytes =>
        by_cases hbytes : bytes = []
        · subst hbytes
          have hge : ¬ r.pendingOffset < r.pending.length := by
            rw [left, List.drop_eq_nil_iff] at hleft
            omega
          refine .inl ?_
          simp only [pollRead, if_neg hge, Channel.recv_eq_some hqueue]
          simp [ReadOutcome.isEnd]
        · obtain ⟨taken, r', hpoll, -, -, htaken, hrx⟩ := pollRead_data false hleft hqueue hbytes hn
          have hlen := congrArg List.length htaken
          rw [List.length_append] at hlen
          have hrest : r'.rx.queue = rest := by
            rw [hrx]
            exact Channel.queue_recv hqueue
          right
          rw [hpoll, unread, unread, hleft, hqueue, hrest, List.map_cons, List.sum_cons]
          simp only [List.length_nil, InboundItem.bytes]
          omega
  · obtain ⟨bytes, r', hpoll, hne, -, hbytes, hrx⟩ := pollRead_left false hleft hn
    have hlen := congrArg List.length hbytes
    rw [List.length_append] at hlen
    have hpos := List.length_pos_of_ne_nil hne
    right
    rw [hpoll, unread, unread, hrx]
    dsimp only
    omega

/-- A reader that goes on comes to the end. -/
theorem polls_end {sizes : List Nat} (hsizes : ∀ n ∈ sizes, 0 < n) (hlen : r.unread < sizes.length) :
    ∃ o ∈ r.polls sizes, o.isEnd = true := by
  induction sizes generalizing r with
  | nil => exact absurd hlen (Nat.not_lt_zero _)
  | cons n rest ih =>
    rcases pollRead_closed (hsizes n List.mem_cons_self) with hend | hless
    · exact ⟨_, List.mem_cons_self, hend⟩
    · rw [List.length_cons] at hlen
      obtain ⟨o, ho, hend⟩ := ih (r := (r.pollRead false n).1)
        (fun m hm => hsizes m (List.mem_cons_of_mem _ hm)) (by omega)
      exact ⟨o, List.mem_cons_of_mem _ ho, hend⟩

end ControlStreamRead

/-! ### The link -/

def OpenCall.isReturned (call : OpenCall) : Bool :=
  match call.phase with
  | .returned .. => true
  | _ => false

/-- Somebody may still send on the channel. -/
def Runtime.HasSender (r : Runtime) (c : Nat) : Prop :=
  (∃ id, r.streams.lookup id = some c) ∨
    (∃ id pending, r.pendingOpens.lookup id = some pending ∧ pending.inboundTx = c) ∨ r.handlers ≠ []

namespace Link

/-- A call of `open` that waits for the answer is given up, a write half that is not shut down is
dropped, or the end that has accepted the stream ends it before it has sent the answer. -/
def deserts (s : Link) (id : StreamId) (i : Party × LinkEvent) : Bool :=
  let r := (s.endpoint i.1).runtime
  match i.2 with
  | .act (.openTimesOut j) | .act (.openDropped j) => r.opens[j]?.any fun call =>
      match call.phase with
      | .waiting id' _ => id' = id
      | _ => false
  | .act (.dropWrite w) => r.writes[w]?.any fun half => half.id = id && half.state = .live
  | .act (.shutdown w) => r.writes[w]?.any fun half =>
      half.id = id && half.state = .live && r.isPeerStreamId id &&
        !(r.out.any fun e => e.1 = .openResp id .success)
  | _ => false

/-- No frame is in flight, and no call is on its way. -/
structure Quiet (s : Link) : Prop where
  read : ∀ p, (s.endpoint p).ins.length = (s.endpoint p.other).runtime.out.length
  handlers : ∀ p, (s.endpoint p).runtime.handlers = []
  opens : ∀ p, ∀ call ∈ (s.endpoint p).runtime.opens, call.isReturned = true

def LiveHalf (s : Link) (p : Party) (id : StreamId) : Prop :=
  ∃ (w : Nat) (origin : Origin), (s.endpoint p).runtime.writes[w]? = some ⟨id, origin, .live⟩

variable {s : Link} {p : Party} {k : Nat} {id : StreamId}

theorem liveHalf_of_mem (h : .live ∈ Endpoint.halves (s.endpoint p).runtime.writes id) :
    s.LiveHalf p id := by
  obtain ⟨⟨id', origin, state⟩, hmem, rfl⟩ := List.mem_map.mp h
  obtain ⟨hwrites, hid⟩ := List.mem_filter.mp hmem
  obtain rfl : id' = id := by simpa using hid
  obtain ⟨w, hw⟩ := List.mem_iff_getElem?.mp hwrites
  exact ⟨w, origin, hw⟩

theorem Wired.read_all (h : Wired s) (hq : s.Quiet) (p : Party) :
    (s.endpoint p).ins = (s.endpoint p.other).runtime.out.map Prod.fst :=
  (h.read p).eq_of_length (by rw [List.length_map]; exact hq.read p)

theorem Wired.rested (h : Wired s) (hq : s.Quiet) (p : Party) (k : Nat) (id : StreamId) :
    Strand.Rested (s.opener p k id) (s.acceptor p id) := by
  have hnone : ∀ q, Endpoint.job (s.endpoint q).runtime.handlers id = none := by
    intro q
    rw [hq.handlers q]
    rfl
  refine ⟨⟨?_, hnone p⟩, ⟨?_, hnone p.other⟩, fun c hc => ?_⟩
  · exact congrArg (Endpoint.msgs · id) (h.read_all hq p)
  · have hread := h.read_all hq p.other
    rw [other_other] at hread
    exact congrArg (Endpoint.msgs · id) hread
  · obtain ⟨call, hcall, rfl⟩ := Option.map_eq_some_iff.mp hc
    have hreturned := hq.opens p call (List.mem_of_getElem? hcall)
    unfold OpenCall.isReturned at hreturned
    split at hreturned
    · rename_i c result hphase
      show ∃ ok, call.phase.stage = .over ok
      rw [hphase]
      exact ⟨_, rfl⟩
    · cases hreturned

theorem event_act {e : LinkEvent} {ev : RuntimeEvent} (he : s.event p e = some (.act ev)) :
    e = .act ev := by
  cases e with
  | receive =>
    obtain ⟨frame, -, hframe⟩ := Option.map_eq_some_iff.mp he
    cases hframe
  | act e =>
    cases he
    rfl

variable {e : LinkEvent} {e' : EndpointEvent} {j : Option Nat}

theorem deserts_of_abandons (he : s.event p e = some e')
    (hdoes : (s.endpoint p).Does j id e' .abandons) : s.deserts id (p, e) = true := by
  obtain ⟨i, call, c, -, hor, hcall, hphase⟩ := hdoes
  rcases hor with rfl | rfl
  · rw [event_act he]
    simp [deserts, hcall, hphase]
  · rw [event_act he]
    simp [deserts, hcall, hphase]

theorem deserts_of_drops (he : s.event p e = some e') (hdoes : (s.endpoint p).Does j id e' .drops) :
    s.deserts id (p, e) = true := by
  obtain ⟨w, origin, rfl, hw⟩ := hdoes
  rw [event_act he]
  simp [deserts, hw]

/-- Without the answer, the end of a stream of the peer is too early. -/
theorem deserts_of_ends (he : s.event p e = some e') (hdoes : (s.endpoint p).Does j id e' .ends)
    (hpeer : (s.endpoint p).runtime.isPeerStreamId id = true)
    (hanswer : .answer true ∉ Endpoint.msgs ((s.endpoint p).runtime.out.map Prod.fst) id) :
    s.deserts id (p, e) = true := by
  obtain ⟨w, origin, rfl, hw⟩ := hdoes
  have hnot : ((s.endpoint p).runtime.out.any fun e => e.1 = .openResp id .success) = false := by
    rw [List.any_eq_false]
    intro x hx hsuccess
    refine hanswer (List.mem_filterMap.mpr ⟨x.1, List.mem_map_of_mem hx, ?_⟩)
    rw [of_decide_eq_true hsuccess]
    exact pick_self id _
  rw [event_act he]
  simp [deserts, hw, hpeer, hnot]

/-- The id is one of the peer's where the call that has drawn it is not. -/
theorem Wired.peer_of_other (h : Wired s) (hid : (s.endpoint p).idOf k = some id) :
    (s.endpoint p.other).runtime.isPeerStreamId id = true := by
  rw [h.isPeer_other p (h.own_ne_zero hid), (h.typed p).numbered.own hid]
  rfl

/-- What is known of a stream that nobody has deserted. -/
theorem tended_exec {is : List (Party × LinkEvent)}
    (hcalm : Along Link.step (fun s i => s.deserts id i = false) start is)
    (hid : ((exec Link.step start is).endpoint p).idOf k = some id) :
    Strand.Tended ((exec Link.step start is).opener p k id) ((exec Link.step start is).acceptor p id) := by
  refine exec_pairs (I := Strand.Tended) (A := fun _ _ a => a ≠ .abandons ∧ a ≠ .drops)
    (B := fun _ t a => a ≠ .drops ∧ (a = .ends → .answer true ∈ t.sent)) .new ?_ ?_ ?_ ?_ hcalm hid
  · rintro o o' t a h hold hnew ⟨hquit, hdrop⟩ hstep
    exact h.opener_step hold hnew hquit hdrop hstep
  · rintro o t t' a h hold hnew ⟨hdrop, hend⟩ hstep
    exact h.acceptor_step hold hnew hdrop hend hstep
  · rintro s ⟨q, e⟩ e' a - hC - rfl he hdoes
    constructor
    · rintro rfl
      cases hC.symm.trans (deserts_of_abandons he hdoes)
    · rintro rfl
      cases hC.symm.trans (deserts_of_drops he hdoes)
  · rintro s ⟨q, e⟩ e' a hw hC hid rfl he hdoes
    constructor
    · rintro rfl
      cases hC.symm.trans (deserts_of_drops he hdoes)
    · rintro rfl
      by_contra hanswer
      cases hC.symm.trans (deserts_of_ends he hdoes (hw.peer_of_other hid) hanswer)

/-- The stream of an entry was opened at one of the ends. -/
theorem Wired.entry_cases (h : Wired s) {c : Nat}
    (hentry : (s.endpoint p).runtime.streams.lookup id = some c) :
    (∃ k, (s.endpoint p).idOf k = some id) ∨ ∃ k, (s.endpoint p.other).idOf k = some id := by
  obtain ⟨origin, hlabel⟩ := (h.typed p).streams id c hentry
  have hbelongs := (h.typed p).chans c id origin hlabel
  cases origin with
  | opened k => exact .inl ⟨k, hbelongs.1⟩
  | accepted n =>
    obtain ⟨purpose, hn⟩ := hbelongs.2
    obtain ⟨source, hsent⟩ := h.sent_of_read hn
    obtain ⟨k, -, hk, -⟩ := (h.typed p.other).out _ (List.mem_of_getElem? hsent)
    exact .inr ⟨k, hk⟩

section

variable {is : List (Party × LinkEvent)}
  (hcalm : Along Link.step (fun s i => s.deserts id i = false) start is)
  (hquiet : (exec Link.step start is).Quiet)

include hcalm hquiet

theorem live_of_entry {c : Nat}
    (hentry : ((exec Link.step start is).endpoint p).runtime.streams.lookup id = some c) :
    (exec Link.step start is).LiveHalf p.other id := by
  have hw := wired_exec is
  have hsome : (((exec Link.step start is).endpoint p).runtime.streams.lookup id).isSome = true := by
    rw [hentry]
    rfl
  rcases hw.entry_cases hentry with ⟨k, hk⟩ | ⟨k, hk⟩
  · exact liveHalf_of_mem ((tended_exec hcalm hk).opener_entry (hw.rested hquiet p k id) hsome)
  · refine liveHalf_of_mem ((tended_exec hcalm hk).acceptor_entry (hw.rested hquiet _ k id) ?_)
    show (((exec Link.step start is).endpoint p.other.other).runtime.streams.lookup id).isSome = true
    rw [other_other]
    exact hsome

/-- Nobody holds the sender of a channel whose stream has no write half at the other end. -/
theorem sender_gone {c : Nat} {ch : Chan}
    (hc : ((exec Link.step start is).endpoint p).runtime.chans[c]? = some ch) (hid : ch.id = id)
    (hgone : ¬ (exec Link.step start is).LiveHalf p.other id) :
    ¬ ((exec Link.step start is).endpoint p).runtime.HasSender c := by
  have hw := wired_exec is
  have hlabel : ((exec Link.step start is).endpoint p).label c = some (id, ch.origin) := by
    rw [Endpoint.label, hc, Option.map_some, hid]
  rintro (⟨i, hi⟩ | ⟨i, pending, hi, rfl⟩ | hhandlers)
  · obtain ⟨origin, horigin⟩ := (hw.typed p).streams i c hi
    obtain rfl : i = id := congrArg Prod.fst (Option.some.inj (horigin.symm.trans hlabel))
    exact hgone (live_of_entry hcalm hquiet hi)
  · have horigin := (hw.typed p).pending i pending hi
    obtain rfl : i = id := congrArg Prod.fst (Option.some.inj (horigin.symm.trans hlabel))
    have hbelongs := (hw.typed p).chans _ _ _ horigin
    have hnone := (tended_exec hcalm hbelongs.1).not_pending (hw.rested hquiet p _ i)
    have hsome : (((exec Link.step start is).endpoint p).runtime.pendingOpens.lookup i).isSome = true := by
      rw [hi]
      rfl
    cases hnone.symm.trans hsome
  · exact hhandlers (hquiet.handlers p)

end

/-- **No stream that nobody has deserted is half open**: in a state of the run in which every frame was
handled and every call has returned, an end has the stream in its map only if the other end has a
write half that is not shut down; and without that, the reader of the stream comes to the end. -/
theorem no_half_open (is : List (Party × LinkEvent)) (id : StreamId) (p : Party)
    (hcalm : Along Link.step (fun s i => s.deserts id i = false) start is)
    (hquiet : (exec Link.step start is).Quiet) :
    (∀ c, ((exec Link.step start is).endpoint p).runtime.streams.lookup id = some c →
      (exec Link.step start is).LiveHalf p.other id) ∧
    ∀ (c : Nat) ch, ((exec Link.step start is).endpoint p).runtime.chans[c]? = some ch → ch.id = id →
      ¬ (exec Link.step start is).LiveHalf p.other id →
      ¬ ((exec Link.step start is).endpoint p).runtime.HasSender c ∧
      ∀ sizes : List Nat, (∀ n ∈ sizes, 0 < n) → ch.read.unread < sizes.length →
        ∃ o ∈ ch.read.polls sizes, o.isEnd = true := by
  refine ⟨fun c hc => live_of_entry hcalm hquiet hc, fun c ch hc hid hgone => ⟨?_, ?_⟩⟩
  · exact sender_gone hcalm hquiet hc hid hgone
  · exact fun sizes hsizes hlen => ControlStreamRead.polls_end hsizes hlen

theorem quiet_of_parts (hread : s.initiator.ins.length = s.responder.runtime.out.length ∧
      s.responder.ins.length = s.initiator.runtime.out.length)
    (hhandlers : s.initiator.runtime.handlers = [] ∧ s.responder.runtime.handlers = [])
    (hopens : s.initiator.runtime.opens.all OpenCall.isReturned = true ∧
      s.responder.runtime.opens.all OpenCall.isReturned = true) : s.Quiet := by
  refine ⟨fun p => ?_, fun p => ?_, fun p => ?_⟩
  · cases p
    · exact hread.1
    · exact hread.2
  · cases p
    · exact hhandlers.1
    · exact hhandlers.2
  · cases p
    · exact List.all_eq_true.mp hopens.1
    · exact List.all_eq_true.mp hopens.2

theorem not_liveHalf (h : ((s.endpoint p).runtime.writes.any fun half =>
    half.id = id && half.state = .live) = false) : ¬ s.LiveHalf p id := by
  rintro ⟨w, origin, hw⟩
  have hnot := List.any_eq_false.mp h _ (List.mem_of_getElem? hw)
  exact hnot (by simp)

/-- The stream is open at both ends. -/
def openedRun : List (Party × LinkEvent) :=
  acceptRun ++ [(.responder, .act (.handlerSent 0))] ++ returnRun

theorem no_half_open_opened : (exec Link.step start openedRun).LiveHalf .responder 1 := by
  refine (no_half_open openedRun 1 .initiator ?_ ?_).1 0 ?_
  · decide +kernel
  · exact quiet_of_parts (by decide +kernel) (by decide +kernel) (by decide +kernel)
  · decide +kernel

/-- The responder drops its write half. -/
def droppedRun : List (Party × LinkEvent) := openedRun ++ [(.responder, .act (.dropWrite 0))]

/-- The call of `open` times out before it has read the answer. -/
def timedOutRun : List (Party × LinkEvent) :=
  acceptRun ++ [(.responder, .act (.handlerSent 0)), (.initiator, .act (.openTimesOut 0)),
    (.initiator, .act (.runOpen 0)), (.initiator, .act (.runOpen 0))] ++ readRun .initiator 2

/-- The callback shuts its write half down before the answer is sent. -/
def earlyEndRun : List (Party × LinkEvent) :=
  acceptRun ++ [(.responder, .act (.shutdown 0)), (.responder, .act (.handlerSent 0))] ++
    readRun .initiator 2 ++ returnRun

theorem half_open :
    ((exec Link.step start droppedRun).Quiet ∧
      (exec Link.step start droppedRun).initiator.runtime.streams.lookup 1 = some 0 ∧
      ¬ (exec Link.step start droppedRun).LiveHalf .responder 1) ∧
    ((exec Link.step start timedOutRun).Quiet ∧
      (exec Link.step start timedOutRun).responder.runtime.streams.lookup 1 = some 0 ∧
      ¬ (exec Link.step start timedOutRun).LiveHalf .initiator 1) ∧
    ((exec Link.step start earlyEndRun).Quiet ∧
      (exec Link.step start earlyEndRun).initiator.runtime.streams.lookup 1 = some 0 ∧
      ¬ (exec Link.step start earlyEndRun).LiveHalf .responder 1) := by
  refine ⟨⟨?_, by decide +kernel, not_liveHalf (by decide +kernel)⟩,
    ⟨?_, by decide +kernel, not_liveHalf (by decide +kernel)⟩,
    ⟨?_, by decide +kernel, not_liveHalf (by decide +kernel)⟩⟩
  · exact quiet_of_parts (by decide +kernel) (by decide +kernel) (by decide +kernel)
  · exact quiet_of_parts (by decide +kernel) (by decide +kernel) (by decide +kernel)
  · exact quiet_of_parts (by decide +kernel) (by decide +kernel) (by decide +kernel)

end Link

end BuckyP2p.ControlStream
