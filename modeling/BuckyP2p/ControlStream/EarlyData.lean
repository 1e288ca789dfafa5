import BuckyP2p.ControlStream.Exchange

/-!
# BuckyP2p.ControlStream.EarlyData — what the opener of a stream loses

The end that accepts a stream gives it to the callback before it sends the answer, and the end that has
opened it has nowhere to put what comes before the answer.  What comes after the answer, and before a
`Reset` frame of the other end, is not lost to a call of `open` that succeeds.

* `Calling`, `Opened`: what the call of `open` has to do with the maps and with what was read.
* `Answered`: the stream is there once the answer was read, until its end or a reset was; or the call
  is `Dead`, and will not succeed.
* `Losing`: the same of a frame that was lost.
* `Accepting`: the other end sends nothing but after the `Open` frame, and no data after the end.
-/

namespace BuckyP2p.ControlStream

open Lib
open Tcp (TunnelPurpose)

namespace Strand

variable {s s' o o' t t' : Strand} {a : Act} {c c' : Attempt} {m : Msg}

/-- What was read and is over and done with. -/
def done (s : Strand) : List Msg := if s.task = none then s.read else s.read.dropLast

/-- The call of `on_data` has the frame that was read last. -/
def Tasked (s : Strand) : Prop := ∀ t, s.task = some t → s.read.getLast? = some t.msg

theorem task_msg (m : Msg) : m.task.msg = m := by cases m <;> rfl

theorem Tasked.step (h : Tasked s) (hstep : Step s a s') : Tasked s' := by
  intro t ht
  cases hstep with
  | reads m htask =>
    cases ht
    simp [task_msg]
  | refuses htask | accepts htask | exposes htask | retracts htask | removes htask | takes b htask
  | confirms htask | fails htask =>
    cases ht
    have hlast := h _ htask
    exact hlast
  | ignores | rejects | unheard | inserts | delivers | loses | finishes | resets | answers
  | sendsReset => cases ht
  | _ => exact h t ht

theorem Tasked.mem_read (h : Tasked s) : m ∈ s.read ↔ m ∈ s.done ∨ s.task.map Task.msg = some m := by
  unfold done
  cases ht : s.task with
  | none => simp
  | some t =>
    have hread := List.dropLast_append_getLast? _ (h t ht)
    rw [if_neg (by simp)]
    conv_lhs => rw [← hread]
    simp [eq_comm]

theorem Step.mem_done (h : Tasked s) (hstep : Step s a s') :
    m ∈ s'.done ↔ m ∈ s.done ∨ (s'.task = none ∧ s.task.map Task.msg = some m) := by
  have hread := h.mem_read (m := m)
  have hold : s.task = none → s.done = s.read := fun ht => if_pos ht
  cases hstep with
  | reads m htask => simp [done, htask]
  | _ => grind [done]

/-- The reader at this end was gone, or its queue was full. -/
def Failing (s : Strand) : Prop := s.task = some .refusing ∨ .reset ∈ s.sent

/-- What is known of a call of `open`. -/
structure Calling (s : Strand) (c : Attempt) : Prop where
  call : s.call = some c
  idle : c.stage = .drawn → s.pending = false ∧ c.told = none
  listening : c.listening = true ↔ c.stage = .drawn ∨ c.stage = .sending ∨ c.stage = .waiting
  waits : s.pending = true → c.told = none
  telling : ∀ b, s.task = some (.telling b) → c.told = none ∧ s.pending = false ∧ c.stage ≠ .drawn
  ok : c.stage = .leaving true ∨ c.stage = .over true → c.told = some true

theorem calling_of_eq (h : Calling s c) (hcall : s'.call = s.call) (hpending : s'.pending = s.pending)
    (htask : ∀ b, s'.task ≠ some (.telling b)) : Calling s' c :=
  ⟨hcall.trans h.call, hpending ▸ h.idle, h.listening, hpending ▸ h.waits,
    fun b hb => absurd hb (htask b), h.ok⟩

theorem task_ne (m : Msg) : (∀ b, m.task ≠ .telling b) ∧ m.task ≠ .inserting ∧ m.task ≠ .refusing := by
  cases m <;> simp [Msg.task]

theorem Calling.step (h : Calling s c) (hstep : Step s a s') : ∃ c', Calling s' c' := by
  have hcalled := h.call
  cases hstep with
  | idle => exact ⟨c, h⟩
  | starts hcall hstage =>
    cases hcalled.symm.trans hcall
    exact ⟨_, rfl, by simp, by simpa [hstage] using h.listening, fun _ => (h.idle hstage).2,
      fun b hb => absurd hstage (h.telling b hb).2.2, by simp⟩
  | asks hcall hstage =>
    cases hcalled.symm.trans hcall
    refine ⟨_, rfl, by simp, by simpa using h.listening.mpr (.inr (.inl hstage)), h.waits,
      fun b hb => ?_, by simp⟩
    exact ⟨(h.telling b hb).1, (h.telling b hb).2.1, by simp⟩
  | withdraws hcall hstage | resumes b hcall hstage htold | cancels hcall hstage htold hpending htask
  | abandons hcall hstage =>
    cases hcalled.symm.trans hcall
    refine ⟨_, rfl, by simp, by simp, h.waits, fun b hb => ?_, ?_⟩
    · exact ⟨(h.telling b hb).1, (h.telling b hb).2.1, by simp⟩
    · rintro (hok | hok)
      · cases hok
        try exact htold
      · cases hok
  | returns hcall hstage | cleans hcall hstage =>
    cases hcalled.symm.trans hcall
    refine ⟨_, rfl, by simp, by simpa [hstage] using h.listening, by simp, fun b hb => ?_, ?_⟩
    · exact ⟨(h.telling b hb).1, rfl, by simp⟩
    · rintro (hok | hok)
      · cases hok
      · cases hok
        try exact h.ok (.inl hstage)
  | confirms htask hcall hrx =>
    cases hcalled.symm.trans hcall
    obtain ⟨-, hpending, hdrawn⟩ := h.telling _ htask
    refine ⟨_, rfl, fun heq => absurd heq hdrawn, h.listening, fun heq => ?_, by simp, fun _ => rfl⟩
    cases hpending.symm.trans heq
  | rejects htask hcall hrx =>
    cases hcalled.symm.trans hcall
    obtain ⟨htold, hpending, hdrawn⟩ := h.telling _ htask
    refine ⟨_, rfl, fun heq => absurd heq hdrawn, h.listening, fun heq => ?_, by simp, fun hok => ?_⟩
    · cases hpending.symm.trans heq
    · cases htold.symm.trans (h.ok hok)
  | takes b htask hpending =>
    have htold := h.waits hpending
    have hdrawn : c.stage ≠ .drawn := fun heq => by
      rw [(h.idle heq).1] at hpending
      cases hpending
    refine ⟨c, hcalled, fun heq => absurd heq hdrawn, h.listening, fun _ => htold,
      fun _ _ => ⟨htold, rfl, hdrawn⟩, h.ok⟩
  | reads m htask =>
    exact ⟨c, calling_of_eq h rfl rfl fun b hb => (task_ne m).1 b (Option.some.inj hb)⟩
  | writes hlive | ends i hi | drops i hi | forgets i hi hstate =>
    exact ⟨c, ⟨h.call, h.idle, h.listening, h.waits, h.telling, h.ok⟩⟩
  | _ => exact ⟨c, calling_of_eq h rfl rfl (by simp)⟩

/-- What the answer has to do with the rest. -/
structure Opened (s : Strand) (c : Attempt) : Prop where
  unasked : c.stage = .drawn ∨ c.stage = .sending → s.sent = []
  entry : s.entry = true ∨ s.task = some .inserting ∨ s.task = some .refusing → c.told = some true
  halves : s.halves ≠ [] → c.stage = .over true
  told : ∀ b, c.told = some b → .answer b ∈ s.done ∨ (b = true ∧ s.task = some .inserting)

/-- Nobody is told before the `Open` frame is sent. -/
theorem Opened.asked (h : Opened s c) (ht : Tasked s)
    (hanswer : ∀ b, .answer b ∈ s.read → .ask ∈ s.sent) (htold : c.told ≠ none) : .ask ∈ s.sent := by
  obtain ⟨b, hb⟩ := Option.ne_none_iff_exists'.mp htold
  refine hanswer b (ht.mem_read.mpr ?_)
  rcases h.told b hb with hdone | ⟨rfl, htask⟩
  · exact .inl hdone
  · exact .inr (by rw [htask]; rfl)

theorem Opened.untold (h : Opened s c) (ht : Tasked s)
    (hanswer : ∀ b, .answer b ∈ s.read → .ask ∈ s.sent)
    (hstage : c.stage = .drawn ∨ c.stage = .sending) : c.told = none := by
  by_contra htold
  have hask := h.asked ht hanswer htold
  rw [h.unasked hstage] at hask
  cases hask

theorem Opened.step (h : Opened s c) (hc : Calling s c) (ht : Tasked s)
    (hstep : Step s a s') (hask : .ask ∉ s'.read) (hanswer : ∀ b, .answer b ∈ s.read → .ask ∈ s.sent)
    (hc' : s'.call = some c') : Opened s' c' := by
  have hdone := fun m => hstep.mem_done ht (m := m)
  have huntold := h.untold ht hanswer
  have hcalled := hc.call
  obtain ⟨h1, h2, h3, h4⟩ := h
  cases hstep with
  | idle =>
    cases hcalled.symm.trans hc'
    exact ⟨h1, h2, h3, h4⟩
  | starts hcall hstage | asks hcall hstage | withdraws hcall hstage | resumes b hcall hstage htold
  | cancels hcall hstage htold hpending htask | abandons hcall hstage | returns hcall hstage
  | cleans hcall hstage =>
    cases hcalled.symm.trans hcall
    cases hc'
    refine ⟨?_, h2, ?_, fun b hb => (h4 b hb).imp_left fun hmem => (hdone _).mpr (.inl hmem)⟩
    · first
        | exact fun _ => h1 (.inl hstage)
        | rintro (hs | hs) <;> cases hs
    · first
        | exact fun _ => rfl
        | exact fun hne => by cases hstage.symm.trans (h3 hne)
  | confirms htask hcall hrx =>
    cases hcalled.symm.trans hcall
    cases hc'
    exact ⟨h1, fun _ => rfl, h3, fun b hb => .inr ⟨(Option.some.inj hb).symm, rfl⟩⟩
  | rejects htask hcall hrx =>
    cases hcalled.symm.trans hcall
    cases hc'
    refine ⟨h1, ?_, h3, ?_⟩
    · rintro (hentry | hs | hs)
      · cases (hc.telling false htask).1.symm.trans (h2 (.inl hentry))
      · cases hs
      · cases hs
    · rintro b ⟨⟩
      exact .inl ((hdone _).mpr (.inr ⟨rfl, by rw [htask]; rfl⟩))
  | reads m htask =>
    cases hcalled.symm.trans hc'
    obtain ⟨-, hinserting, hrefusing⟩ := task_ne m
    refine ⟨h1, ?_, h3, fun b hb => ?_⟩
    · rintro (hentry | hs | hs)
      · exact h2 (.inl hentry)
      · exact absurd (Option.some.inj hs) hinserting
      · exact absurd (Option.some.inj hs) hrefusing
    · rcases h4 b hb with hmem | ⟨-, hs⟩
      · exact .inl ((hdone _).mpr (.inl hmem))
      · cases htask.symm.trans hs
  | refuses htask | accepts htask hentry | exposes htask | retracts htask | removes htask
  | answers b htask =>
    exact absurd (ht.mem_read.mpr (.inr (by rw [htask]; rfl))) hask
  | inserts htask =>
    cases hcalled.symm.trans hc'
    refine ⟨h1, fun _ => h2 (.inr (.inl htask)), h3, fun b hb => .inl ?_⟩
    rcases h4 b hb with hmem | ⟨rfl, -⟩
    · exact (hdone _).mpr (.inl hmem)
    · exact (hdone _).mpr (.inr ⟨rfl, by rw [htask]; rfl⟩)
  | fails htask hentry =>
    cases hcalled.symm.trans hc'
    refine ⟨h1, fun _ => h2 (.inl hentry), h3, fun b hb => ?_⟩
    rcases h4 b hb with hmem | ⟨-, hs⟩
    · exact .inl ((hdone _).mpr (.inl hmem))
    · cases htask.symm.trans hs
  | loses htask hentry =>
    cases hcalled.symm.trans hc'
    refine ⟨h1, ?_, h3, fun b hb => ?_⟩
    · rintro (he | hs | hs)
      · exact h2 (.inl he)
      · cases hs
      · cases hs
    · rcases h4 b hb with hmem | ⟨-, hs⟩
      · exact .inl ((hdone _).mpr (.inl hmem))
      · rcases htask with htask | htask <;> cases htask.symm.trans hs
  | ignores b htask hpending | takes b htask hpending | unheard b htask hcall hrx
  | delivers htask hentry | finishes htask hentry | resets htask =>
    cases hcalled.symm.trans hc'
    refine ⟨h1, ?_, h3, fun b hb => ?_⟩
    · rintro (he | hs | hs)
      · first
          | exact h2 (.inl he)
          | cases he
      · cases hs
      · cases hs
    · rcases h4 b hb with hmem | ⟨-, hs⟩
      · exact .inl ((hdone _).mpr (.inl hmem))
      · cases htask.symm.trans hs
  | sendsReset htask =>
    cases hcalled.symm.trans hc'
    refine ⟨fun hstage => ?_, ?_, h3, fun b hb => ?_⟩
    · cases (huntold hstage).symm.trans (h2 (.inr (.inr htask)))
    · rintro (he | hs | hs)
      · exact h2 (.inl he)
      · cases hs
      · cases hs
    · rcases h4 b hb with hmem | ⟨-, hs⟩
      · exact .inl ((hdone _).mpr (.inl hmem))
      · cases htask.symm.trans hs
  | writes hlive =>
    cases hcalled.symm.trans hc'
    have hstage := h3 (List.ne_nil_of_mem hlive)
    refine ⟨?_, h2, h3, fun b hb => (h4 b hb).imp_left fun hmem => (hdone _).mpr (.inl hmem)⟩
    rintro (hs | hs) <;> cases hstage.symm.trans hs
  | ends i hi =>
    cases hcalled.symm.trans hc'
    have hstage := h3 (List.ne_nil_of_mem (List.mem_of_getElem? hi))
    refine ⟨?_, h2, fun _ => hstage,
      fun b hb => (h4 b hb).imp_left fun hmem => (hdone _).mpr (.inl hmem)⟩
    rintro (hs | hs) <;> cases hstage.symm.trans hs
  | drops i hi =>
    cases hcalled.symm.trans hc'
    exact ⟨h1, h2, fun _ => h3 (List.ne_nil_of_mem (List.mem_of_getElem? hi)),
      fun b hb => (h4 b hb).imp_left fun hmem => (hdone _).mpr (.inl hmem)⟩
  | forgets i hi hstate =>
    cases hcalled.symm.trans hc'
    exact ⟨h1, h2, fun _ => h3 (List.ne_nil_of_mem (List.mem_of_getElem? hi)),
      fun b hb => (h4 b hb).imp_left fun hmem => (hdone _).mpr (.inl hmem)⟩

/-- The call will not be told that the stream is there. -/
structure Dead (s : Strand) (c : Attempt) : Prop where
  pending : s.pending = false
  task : ∀ b, s.task ≠ some (.telling b)
  told : c.told ≠ some true
  stage : c.stage ≠ .drawn

theorem Failing.step (h : Failing s) (hstep : Step s a s') : Failing s' := by
  unfold Failing at h ⊢
  cases hstep <;> grind

theorem Dead.step (h : Dead s c) (hc : s.call = some c) (hstep : Step s a s')
    (hc' : s'.call = some c') : Dead s' c' := by
  obtain ⟨h1, h2, h3, h4⟩ := h
  cases hstep with
  | reads m htask =>
    cases hc.symm.trans hc'
    exact ⟨h1, fun b hb => (task_ne m).1 b (Option.some.inj hb), h3, h4⟩
  | starts hcall hstage =>
    cases hc.symm.trans hcall
    exact absurd hstage h4
  | takes b htask hpending => cases h1.symm.trans hpending
  | confirms htask | rejects htask | unheard b htask => exact absurd htask (h2 _)
  | asks hcall | withdraws hcall | resumes b hcall | cancels hcall | abandons hcall =>
    cases hc.symm.trans hcall
    cases hc'
    exact ⟨h1, h2, h3, by simp⟩
  | returns hcall | cleans hcall =>
    cases hc.symm.trans hcall
    cases hc'
    exact ⟨rfl, h2, h3, by simp⟩
  | idle | writes | ends | drops | forgets =>
    cases hc.symm.trans hc'
    exact ⟨h1, h2, h3, h4⟩
  | _ =>
    cases hc.symm.trans hc'
    exact ⟨h1, by simp, h3, h4⟩

/-- The stream is there once the answer was read, until its end or a reset was. -/
def Answered (s : Strand) (c : Attempt) : Prop :=
  .answer true ∈ s.done → Dead s c ∨
    c.told = some true ∧ (s.entry = true ∨ .fin ∈ s.done ∨ .reset ∈ s.done ∨ Failing s)

/-- The answer was there before, and what has become of the stream since. -/
theorem Answered.later (h : Answered s c) (hdead : Dead s c → Dead s' c')
    (hfailing : Failing s → Failing s') (hmore : ∀ m ∈ s.done, m ∈ s'.done)
    (htold : c.told = some true → c'.told = some true)
    (hentry : s.entry = true → s'.entry = true ∨ .fin ∈ s'.done ∨ .reset ∈ s'.done ∨ Failing s')
    (hmem : .answer true ∈ s.done) : Dead s' c' ∨ c'.told = some true ∧
      (s'.entry = true ∨ .fin ∈ s'.done ∨ .reset ∈ s'.done ∨ Failing s') := by
  rcases h hmem with hd | ⟨ht, he | hfin | hreset | hf⟩
  · exact .inl (hdead hd)
  · exact .inr ⟨htold ht, hentry he⟩
  · exact .inr ⟨htold ht, .inr (.inl (hmore _ hfin))⟩
  · exact .inr ⟨htold ht, .inr (.inr (.inl (hmore _ hreset)))⟩
  · exact .inr ⟨htold ht, .inr (.inr (.inr (hfailing hf)))⟩

theorem Answered.step (h : Answered s c) (hc : Calling s c) (ho : Opened s c)
    (ht : Tasked s) (hstep : Step s a s') (hask : .ask ∉ s'.read)
    (hanswer : ∀ b, .answer b ∈ s'.read → .ask ∈ s.sent) (hc' : s'.call = some c') :
    Answered s' c' := by
  intro hmem
  have hdone := fun m => hstep.mem_done ht (m := m)
  have hread := fun m => ht.mem_read (m := m)
  have hmore : ∀ m ∈ s.done, m ∈ s'.done := fun m hm => (hdone m).mpr (.inl hm)
  have hold : s'.task ≠ none ∨ s.task.map Task.msg ≠ some (.answer true) → .answer true ∈ s.done := by
    intro hno
    rcases (hdone _).mp hmem with hmem | ⟨htask, hmsg⟩
    · exact hmem
    · exact absurd hmsg (hno.resolve_left (not_not_intro htask))
  have hlater := h.later (fun hd => hd.step hc.call hstep hc') (fun hf => hf.step hstep) hmore
  have hcalled := hc.call
  cases hstep with
  | unheard b htask hcall hrx =>
    cases hcalled.symm.trans hc'
    by_cases hb : .answer true ∈ s.done
    · exact hlater id .inl hb
    · have htelling := hc.telling b htask
      exact .inl ⟨htelling.2.1, by simp, by simp [htelling.1], htelling.2.2⟩
  | ignores b htask hpending =>
    cases hcalled.symm.trans hc'
    by_cases hb : .answer true ∈ s.done
    · exact hlater id .inl hb
    · -- the stream was not there before, so the answer came too late
      have hnot : c.told ≠ some true := by
        intro htold
        rcases ho.told true htold with hdone' | ⟨-, hinserting⟩
        · exact hb hdone'
        · cases htask.symm.trans hinserting
      have hsent : .ask ∈ s.sent := hanswer b ((hread _).mpr (.inr (by rw [htask]; rfl)))
      refine .inl ⟨hpending, by simp, hnot, fun hdrawn => ?_⟩
      rw [ho.unasked (.inl hdrawn)] at hsent
      cases hsent
  | inserts htask =>
    cases hcalled.symm.trans hc'
    exact .inr ⟨ho.entry (.inr (.inl htask)), .inl rfl⟩
  | confirms htask hcall hrx =>
    cases hcalled.symm.trans hcall
    cases hc'
    exact hlater (fun _ => rfl) .inl (hold (.inl (by simp)))
  | rejects htask hcall hrx =>
    cases hcalled.symm.trans hcall
    -- it was told nothing before
    have hnot : c.told ≠ some true := by simp [(hc.telling _ htask).1]
    exact hlater (fun htold => absurd htold hnot) .inl (hold (.inr (by simp [htask, Task.msg])))
  | refuses htask | accepts htask | exposes htask | retracts htask | removes htask
  | answers b htask =>
    exact absurd ((hread _).mpr (.inr (by rw [htask]; rfl))) hask
  | delivers htask hentry =>
    cases hcalled.symm.trans hc'
    exact hlater id .inl (hold (.inr (by simp [htask, Task.msg])))
  | fails htask hentry =>
    cases hcalled.symm.trans hc'
    exact hlater id (fun _ => .inr (.inr (.inr (.inl rfl)))) (hold (.inl (by simp)))
  | loses htask hentry =>
    cases hcalled.symm.trans hc'
    refine hlater id (fun he => ?_) (hold (.inr ?_))
    · cases hentry.symm.trans he
    · rcases htask with htask | htask <;> simp [htask, Task.msg]
  | finishes htask hentry =>
    cases hcalled.symm.trans hc'
    have hfin : .fin ∈ done { s with entry := false, task := none } :=
      (hdone _).mpr (.inr ⟨rfl, by rw [htask]; rfl⟩)
    exact hlater id (fun _ => .inr (.inl hfin)) (hold (.inr (by simp [htask, Task.msg])))
  | resets htask =>
    cases hcalled.symm.trans hc'
    have hreset : .reset ∈ done { s with entry := false, task := none } :=
      (hdone _).mpr (.inr ⟨rfl, by rw [htask]; rfl⟩)
    exact hlater id (fun _ => .inr (.inr (.inl hreset))) (hold (.inr (by simp [htask, Task.msg])))
  | sendsReset htask =>
    cases hcalled.symm.trans hc'
    exact hlater id .inl (hold (.inr (by simp [htask, Task.msg])))
  | reads m htask =>
    cases hcalled.symm.trans hc'
    exact hlater id .inl (hold (.inl (by simp)))
  | takes b htask hpending =>
    cases hcalled.symm.trans hc'
    exact hlater id .inl (hold (.inl (by simp)))
  | idle | writes hlive | ends i hi | drops i hi | forgets i hi hstate =>
    cases hcalled.symm.trans hc'
    exact hlater id .inl hmem
  | starts hcall | asks hcall | withdraws hcall | resumes b hcall | cancels hcall | abandons hcall
  | returns hcall | cleans hcall =>
    cases hcalled.symm.trans hcall
    cases hc'
    exact hlater id .inl hmem

/-- A frame is lost before the answer was read, after the end or a reset, or because the call of `open`
is not there any more. -/
def Losing (s : Strand) (c : Attempt) : Prop :=
  ∀ l ∈ s.lost, .answer true ∈ l → Dead s c ∨ .fin ∈ l ∨ .reset ∈ l ∨ Failing s

theorem Losing.step (h : Losing s c) (hc : s.call = some c) (ha : Answered s c)
    (hstep : Step s a s') (hc' : s'.call = some c') : Losing s' c' := by
  have hdead := fun hd : Dead s c => hd.step hc hstep hc'
  have hfailing := fun hf : Failing s => hf.step hstep
  have hold : ∀ l ∈ s.lost, .answer true ∈ l → Dead s' c' ∨ .fin ∈ l ∨ .reset ∈ l ∨ Failing s' := by
    intro l hl hmem
    exact (h l hl hmem).imp hdead (Or.imp_right (Or.imp_right hfailing))
  intro l hl hmem
  cases hstep with
  | loses htask hentry =>
    rcases List.mem_append.mp hl with hl | hl
    · exact hold l hl hmem
    · -- the answer is over and done with, and the stream is not there
      obtain rfl := List.mem_singleton.mp hl
      have hdone : s.done = s.read.dropLast := if_neg (by rcases htask with h | h <;> simp [h])
      rw [← hdone] at hmem
      unfold Answered at ha
      rw [hdone] at ha hmem
      rcases ha hmem with hd | ⟨-, hentry' | hfin | hreset | hf⟩
      · exact .inl (hdead hd)
      · rw [hentry] at hentry'
        cases hentry'
      · exact .inr (.inl hfin)
      · exact .inr (.inr (.inl hreset))
      · exact .inr (.inr (.inr (hfailing hf)))
  | _ => exact hold l hl hmem

/-- The `Open` frame is the first that is sent, and there is only one. -/
def AskFirst (l : List Msg) : Prop := l = [] ∨ ∃ rest, l = .ask :: rest ∧ .ask ∉ rest

theorem AskFirst.of_prefix {l l' : List Msg} (h : AskFirst l') (hpre : l <+: l') : AskFirst l := by
  obtain ⟨rest, hrest⟩ := hpre
  cases l with
  | nil => exact .inl rfl
  | cons m l =>
    obtain rfl | ⟨tail, rfl, hnot⟩ := h
    · cases hrest
    · cases hrest
      exact .inr ⟨l, rfl, fun hmem => hnot (List.mem_append_left _ hmem)⟩

theorem AskFirst.mem {l : List Msg} (h : AskFirst l) (hne : l ≠ []) : .ask ∈ l := by
  obtain rfl | ⟨rest, rfl, -⟩ := h
  · exact absurd rfl hne
  · exact List.mem_cons_self

theorem AskFirst.push {l : List Msg} (h : AskFirst l) (hm : m ≠ .ask) (hne : l ≠ []) :
    AskFirst (l ++ [m]) := by
  obtain rfl | ⟨rest, rfl, hnot⟩ := h
  · exact absurd rfl hne
  · exact .inr ⟨rest ++ [m], rfl, by simp [hnot, Ne.symm hm]⟩

theorem AskFirst.nil_of_push {l : List Msg} (h : AskFirst (l ++ [Msg.ask])) : l = [] := by
  cases l with
  | nil => rfl
  | cons m l =>
    obtain hnil | ⟨rest, hrest, hnot⟩ := h
    · cases hnil
    · cases hrest
      exact absurd (List.mem_append_right l List.mem_cons_self) hnot

theorem AskFirst.step (h : AskFirst s.sent) (ho : Opened s c) (hc : Calling s c) (ht : Tasked s)
    (hstep : Step s a s') (hask : .ask ∉ s.read) (hanswer : ∀ b, .answer b ∈ s.read → .ask ∈ s.sent) :
    AskFirst s'.sent := by
  have hne : c.told = some true → s.sent ≠ [] := by
    intro htold
    exact List.ne_nil_of_mem (ho.asked ht hanswer (by simp [htold]))
  have hhalf : s.halves ≠ [] → s.sent ≠ [] := fun hh => hne (hc.ok (.inr (ho.halves hh)))
  cases hstep with
  | asks hcall hstage =>
    cases hc.call.symm.trans hcall
    rw [ho.unasked (.inr hstage)]
    exact .inr ⟨[], rfl, List.not_mem_nil⟩
  | answers b htask =>
    exact absurd (ht.mem_read.mpr (.inr (by rw [htask]; rfl))) hask
  | sendsReset htask => exact h.push (by simp) (hne (ho.entry (.inr (.inr htask))))
  | writes hlive => exact h.push (by simp) (hhalf (List.ne_nil_of_mem hlive))
  | ends i hi => exact h.push (by simp) (hhalf (List.ne_nil_of_mem (List.mem_of_getElem? hi)))
  | _ => exact h

/-- What is known at the end that has not opened the stream. -/
structure Accepting (t : Strand) : Prop where
  call : t.call = none
  blank : t.read = [] → t.halves = [] ∧ t.sent = [] ∧ t.entry = false
  early : t.task = some .asked ∨ t.task = some .preparing ∨ t.task = some .removing ∨
    t.task = some (.answering false) → t.halves = [] ∧ t.sent = []
  one : t.halves.length ≤ 1
  live : .live ∈ t.halves → .fin ∉ t.sent
  order : t.sent.Pairwise fun a b => a = .fin → b ≠ .data ∧ b ≠ .fin
  ask : .ask ∉ t.sent

theorem pairwise_push {R : Msg → Msg → Prop} {l : List Msg} (h : l.Pairwise R) (hm : ∀ b ∈ l, R b m) :
    (l ++ [m]).Pairwise R := by
  refine List.pairwise_append.mpr ⟨h, List.pairwise_singleton _ _, ?_⟩
  intro b hb m' hm'
  rw [List.mem_singleton.mp hm']
  exact hm b hb

theorem set_single {halves : List WriteState} {i : Nat} {x y : WriteState} (hone : halves.length ≤ 1)
    (hi : halves[i]? = some x) : halves.set i y = [y] := by
  have hlt := (List.getElem?_eq_some_iff.mp hi).1
  obtain ⟨z, rfl⟩ := List.length_eq_one_iff.mp (show halves.length = 1 by omega)
  obtain rfl : i = 0 := by simpa using hlt
  rfl

theorem Accepting.step (h : Accepting s) (ht : Tasked s) (hstep : Step s a s')
    (hfirst : AskFirst s'.read) : Accepting s' := by
  obtain ⟨h1, h2, h3, h4, h5, h6, h7⟩ := h
  have hread : s.task ≠ none → s.read ≠ [] := by
    intro hne hnil
    obtain ⟨t, htask⟩ := Option.ne_none_iff_exists'.mp hne
    have hlast := ht t htask
    rw [hnil] at hlast
    cases hlast
  cases hstep with
  | reads m htask =>
    refine ⟨h1, by simp, ?_, h4, h5, h6, h7⟩
    intro hearly
    -- only the `Open` frame starts such a task, and it is the first to be read
    obtain rfl : m = .ask := by
      cases m <;> simp [Msg.task] at hearly ⊢
    obtain ⟨hhalves, hsent, -⟩ := h2 hfirst.nil_of_push
    exact ⟨hhalves, hsent⟩
  | exposes htask =>
    obtain ⟨hhalves, hsent⟩ := h3 (.inr (.inl htask))
    refine ⟨h1, fun hnil => absurd hnil (hread (by simp [htask])), by simp, ?_, ?_, h6, h7⟩
    · simp [hhalves]
    · simp [hsent]
  | answers b htask =>
    refine ⟨h1, fun hnil => absurd hnil (hread (by simp [htask])), by simp, h4, ?_, ?_, ?_⟩
    · simpa using h5
    · exact pairwise_push h6 (by simp)
    · simpa using h7
  | sendsReset htask =>
    refine ⟨h1, fun hnil => absurd hnil (hread (by simp [htask])), by simp, h4, ?_, ?_, ?_⟩
    · simpa using h5
    · exact pairwise_push h6 (by simp)
    · simpa using h7
  | writes hlive =>
    have hfin := h5 hlive
    have hne : s.halves ≠ [] := List.ne_nil_of_mem hlive
    refine ⟨h1, fun hnil => absurd (h2 hnil).1 hne, fun hearly => absurd (h3 hearly).1 hne, h4, ?_, ?_, ?_⟩
    · simpa using h5
    · exact pairwise_push h6 fun b hb heq => absurd (heq ▸ hb) hfin
    · simpa using h7
  | ends i hi =>
    have hlive : .live ∈ s.halves := List.mem_of_getElem? hi
    have hfin := h5 hlive
    have hne : s.halves ≠ [] := List.ne_nil_of_mem hlive
    refine ⟨h1, fun hnil => absurd (h2 hnil).1 hne, fun hearly => absurd (h3 hearly).1 hne,
      by simpa using h4, ?_, ?_, ?_⟩
    · intro hmem
      rw [set_single h4 hi] at hmem
      cases List.mem_singleton.mp hmem
    · exact pairwise_push h6 fun b hb heq => absurd (heq ▸ hb) hfin
    · simpa using h7
  | drops i hi | forgets i hi hstate =>
    have hne : s.halves ≠ [] := List.ne_nil_of_mem (List.mem_of_getElem? hi)
    refine ⟨h1, fun hnil => absurd (h2 hnil).1 hne, fun hearly => absurd (h3 hearly).1 hne,
      by simpa using h4, ?_, h6, h7⟩
    intro hmem
    rw [set_single h4 hi] at hmem
    cases List.mem_singleton.mp hmem
  | starts hcall hstage | asks hcall hstage | withdraws hcall hstage | resumes b hcall hstage htold
  | cancels hcall hstage htold hpending htask | abandons hcall hstage | returns hcall hstage
  | cleans hcall hstage => cases h1.symm.trans hcall
  | confirms htask hcall hrx | rejects htask hcall hrx | unheard b htask hcall hrx =>
    cases h1.symm.trans hcall
  | idle => exact ⟨h1, h2, h3, h4, h5, h6, h7⟩
  | _ =>
    refine ⟨h1, fun hnil => ?_, ?_, h4, h5, h6, h7⟩ <;> grind

/-! ### Both strands -/

/-- What is known of a stream at its two ends. -/
structure Kept (o t : Strand) : Prop where
  opener : Tasked o
  acceptor : Tasked t
  call : ∃ c, Calling o c ∧ Opened o c ∧ Answered o c ∧ Losing o c
  first : AskFirst o.sent
  accepting : Accepting t

theorem Kept.new : Kept (.new (some ⟨.drawn, none, true⟩)) (.new none) := by
  refine ⟨?_, ?_, ⟨⟨.drawn, none, true⟩, ?_, ?_, ?_, ?_⟩, .inl rfl, ?_⟩
  · intro t ht
    cases ht
  · intro t ht
    cases ht
  · constructor <;> simp [Strand.new]
  · constructor <;> simp [Strand.new]
  · intro hmem
    cases hmem
  · intro l hl
    cases hl
  · constructor <;> simp [Strand.new]

theorem Accepting.ask_not_read (h : Accepting t) (hread : o.read <+: t.sent) : .ask ∉ o.read :=
  fun hmem => h.ask (hread.subset hmem)

/-- The other end answers what it was asked. -/
theorem Accepting.asked_of_answer (h : Accepting t) (hfirst : AskFirst o.sent)
    (hacceptor : t.read <+: o.sent) (hread : o'.read <+: t.sent) {b : Bool}
    (hb : .answer b ∈ o'.read) : .ask ∈ o.sent := by
  have hsent : t.sent ≠ [] := List.ne_nil_of_mem (hread.subset hb)
  have hne : t.read ≠ [] := fun hnil => hsent (h.blank hnil).2.1
  exact hacceptor.subset ((hfirst.of_prefix hacceptor).mem hne)

theorem Kept.opener_step (h : Kept o t) (hold : Coupled o t) (hnew : Coupled o' t)
    (hstep : Step o a o') : Kept o' t := by
  obtain ⟨c, hc, ho, ha, hl⟩ := h.call
  have hask := h.accepting.ask_not_read hnew.opener
  have hanswer := fun b => h.accepting.asked_of_answer (b := b) h.first hold.acceptor hold.opener
  have hanswer' := fun b => h.accepting.asked_of_answer (b := b) h.first hold.acceptor hnew.opener
  obtain ⟨c', hc'⟩ := hc.step hstep
  refine ⟨h.opener.step hstep, h.acceptor, ⟨c', hc', ?_, ?_, ?_⟩, ?_, h.accepting⟩
  · exact ho.step hc h.opener hstep hask hanswer hc'.call
  · exact ha.step hc ho h.opener hstep hask hanswer' hc'.call
  · exact hl.step hc.call ha hstep hc'.call
  · exact h.first.step ho hc h.opener hstep (h.accepting.ask_not_read hold.opener) hanswer

theorem Kept.acceptor_step (h : Kept o t) (hnew : Coupled o t') (hstep : Step t a t') : Kept o t' :=
  ⟨h.opener, h.acceptor.step hstep, h.call, h.first,
    h.accepting.step h.acceptor hstep (h.first.of_prefix hnew.acceptor)⟩

theorem not_failing_step (h : ¬ Failing s) (hstep : Step s a s') (ha : a ≠ .fails) : ¬ Failing s' := by
  unfold Failing at h ⊢
  cases hstep with
  | fails htask hentry => exact absurd rfl ha
  | reads m htask =>
    have hne := (task_ne m).2.2
    grind
  | _ => grind

end Strand

namespace Link

variable {s : Link} {p : Party} {id : StreamId}

/-- The frames that an end has read before one of them, and the frame. -/
theorem Wired.msgs_prefix (h : Wired s) {j : Nat} {f : ControlStreamFrame} {m : Msg}
    (hj : (s.endpoint p).ins[j]? = some f) (hm : pick id f.msg = some m) :
    Endpoint.msgs ((s.endpoint p).ins.take j) id ++ [m] <+: (s.acceptor p id).sent := by
  have htake : (s.endpoint p).ins.take (j + 1) = (s.endpoint p).ins.take j ++ [f] := by
    rw [List.take_add_one, hj]
    rfl
  have hmsgs : Endpoint.msgs ((s.endpoint p).ins.take (j + 1)) id =
      Endpoint.msgs ((s.endpoint p).ins.take j) id ++ [m] := by
    rw [htake, Endpoint.msgs_append, Endpoint.msgs_singleton, hm]
    rfl
  rw [← hmsgs]
  exact ((List.take_prefix _ _).trans (h.read p)).filterMap _

/-- A message before the frame is one of the frames that were sent before it. -/
theorem Wired.sent_before (h : Wired s) {j : Nat} {m : Msg}
    (hm : m ∈ Endpoint.msgs ((s.endpoint p).ins.take j) id) :
    ∃ i < j, ∃ f source, (s.endpoint p.other).runtime.out[i]? = some (f, source) ∧
      pick id f.msg = some m := by
  obtain ⟨f, hf, hpick⟩ := List.mem_filterMap.mp hm
  obtain ⟨i, hi⟩ := List.mem_iff_getElem?.mp hf
  have hlt : i < j := by
    have hlen := (List.getElem?_eq_some_iff.mp hi).1
    rw [List.length_take] at hlen
    omega
  rw [List.getElem?_take_of_lt hlt] at hi
  obtain ⟨source, hsent⟩ := h.sent_of_read hi
  exact ⟨i, hlt, f, source, hsent, hpick⟩

theorem Wired.mem_before (h : Wired s) {i j : Nat} {f f' : ControlStreamFrame} {source : Source} {m : Msg}
    (hj : (s.endpoint p).ins[j]? = some f') (hlt : i < j)
    (hi : (s.endpoint p.other).runtime.out[i]? = some (f, source)) (hm : pick id f.msg = some m) :
    m ∈ Endpoint.msgs ((s.endpoint p).ins.take j) id := by
  obtain ⟨rest, hrest⟩ := h.read p
  have hlen := (List.getElem?_eq_some_iff.mp hj).1
  have hins : (s.endpoint p).ins[i]? = some f := by
    have hget : ((s.endpoint p.other).runtime.out.map Prod.fst)[i]? = some f := by
      rw [List.getElem?_map, hi, Option.map_some]
    rwa [← hrest, List.getElem?_append_left (by omega)] at hget
  refine List.mem_filterMap.mpr ⟨f, ?_, hm⟩
  exact List.mem_of_getElem? ((List.getElem?_take_of_lt hlt).trans hins)

theorem pick_eq_some {f : ControlStreamFrame} {m : Msg} (h : pick id f.msg = some m) :
    f.msg = some (id, m) := by
  cases hf : f.msg with
  | none =>
    rw [hf] at h
    cases h
  | some e =>
    obtain ⟨i, m'⟩ := e
    by_cases hi : i = id
    · subst hi
      rw [hf, pick_self] at h
      rw [Option.some.inj h]
    · rw [hf, pick_of_ne hi] at h
      cases h

/-- What is known of the stream of a call whose reader stays alive with a queue that is not full. -/
theorem kept_exec {is : List (Party × LinkEvent)} {k : Nat}
    (hready : Along Link.step (fun s _ => (s.endpoint p).ready id = true) start is)
    (hid : ((exec Link.step start is).endpoint p).idOf k = some id) :
    Strand.Kept ((exec Link.step start is).opener p k id) ((exec Link.step start is).acceptor p id) ∧
      ¬ Strand.Failing ((exec Link.step start is).opener p k id) := by
  refine exec_pairs (I := fun o t => Strand.Kept o t ∧ ¬ Strand.Failing o)
    (A := fun _ _ a => a ≠ .fails) (B := fun _ _ _ => True) ?_ ?_ ?_ ?_ ?_ hready hid
  · refine ⟨.new, ?_⟩
    rintro (htask | hmem)
    · cases htask
    · cases hmem
  · rintro o o' t a ⟨hkept, hnot⟩ hold hnew ha hstep
    exact ⟨hkept.opener_step hold hnew hstep, Strand.not_failing_step hnot hstep ha⟩
  · rintro o t t' a ⟨hkept, hnot⟩ - hnew - hstep
    exact ⟨hkept.acceptor_step hnew hstep, hnot⟩
  · rintro s i e a - hCi - - - hdoes rfl
    have hfull : (s.endpoint p).ready id = false := hdoes
    rw [hCi] at hfull
    cases hfull
  · exact fun _ _ _ _ _ _ _ _ _ _ => trivial

/-- **No stream gets the frames of another; and the opener of a stream loses no frame that the other end
has sent after its answer, unless the other end has reset the stream before.**  The call of `open`
has succeeded, its reader stays alive, and its queue is not full. -/
theorem answered_frames_kept (is : List (Party × LinkEvent)) (p : Party) :
    (∀ j c, (j, c) ∈ ((exec Link.step start is).endpoint p).runtime.delivered →
      ∃ id f w origin origin',
        ((exec Link.step start is).endpoint p.other).runtime.out[j]? = some (f, .writer w) ∧
        (f = .fin id ∨ ∃ bytes, f = .data id bytes) ∧
        ((exec Link.step start is).endpoint p).label c = some (id, origin) ∧
        ((exec Link.step start is).endpoint p.other).half w = some (id, origin') ∧
        (exec Link.step start is).Paired p id origin origin') ∧
    ∀ (k : Nat) (id : StreamId) (c : Nat) (call : OpenCall), Along Link.step (fun s _ => (s.endpoint p).ready id = true) start is →
      ((exec Link.step start is).endpoint p).runtime.opens[k]? = some call → call.id = some id →
      call.phase = .returned (some c) .ok →
      ∀ j ∈ ((exec Link.step start is).endpoint p).runtime.lost, ∀ f source,
        ((exec Link.step start is).endpoint p.other).runtime.out[j]? = some (f, source) →
        (f = .fin id ∨ ∃ bytes, f = .data id bytes) →
        (∀ i < j, ∀ source, ((exec Link.step start is).endpoint p.other).runtime.out[i]? ≠
          some (.openResp id .success, source)) ∨
        ∃ i < j, ∃ reason source, ((exec Link.step start is).endpoint p.other).runtime.out[i]? =
          some (.reset id reason, source) := by
  have hw := wired_exec is
  refine ⟨fun j c hdelivered => hw.delivered_paired hdelivered, ?_⟩
  intro k id c call hready hk hid hphase j hlost f source hsent hkind
  have hidOf : ((exec Link.step start is).endpoint p).idOf k = some id := by
    rw [Endpoint.idOf, hk, Option.bind_some, hid]
  obtain ⟨hkept, hnot⟩ := kept_exec hready hidOf
  obtain ⟨a, hcalling, -, -, hlosing⟩ := hkept.call
  -- the call has succeeded, so it was told
  have hattempt : a = call.attempt := by
    have hcall := hcalling.call.symm.trans (Endpoint.attempt_eq hk)
    exact Option.some.inj hcall
  have htold : a.told = some true := by
    refine hcalling.ok (.inr ?_)
    rw [hattempt]
    exact congrArg OpenPhase.stage hphase
  -- the frame that was lost is the frame that was sent
  obtain ⟨id', f', hread, -⟩ := (hw.typed p).lost j hlost
  obtain ⟨source', hsent'⟩ := hw.sent_of_read hread
  obtain rfl : f' = f := by
    rw [hsent] at hsent'
    cases hsent'
    rfl
  obtain ⟨m, hm, hdata⟩ : ∃ m, pick id f'.msg = some m ∧ (m = .fin ∨ m = .data) := by
    rcases hkind with rfl | ⟨bytes, rfl⟩
    · exact ⟨.fin, pick_self id _, .inl rfl⟩
    · exact ⟨.data, pick_self id _, .inr rfl⟩
  by_cases hanswered : .answer true ∈ Endpoint.msgs (((exec Link.step start is).endpoint p).ins.take j) id
  · right
    have hmissed : Endpoint.msgs (((exec Link.step start is).endpoint p).ins.take j) id ∈
        ((exec Link.step start is).opener p k id).lost := by
      refine List.mem_filterMap.mpr ⟨j, hlost, ?_⟩
      rw [hread, Option.bind_some, hm, Option.map_some]
    rcases hlosing _ hmissed hanswered with hdead | hfin | hreset | hfailing
    · exact absurd htold hdead.told
    · -- nothing is sent after the end
      have horder := hkept.accepting.order.sublist (hw.msgs_prefix hread hm).sublist
      have hafter := (List.pairwise_append.mp horder).2.2 _ hfin m (List.mem_singleton_self m) rfl
      rcases hdata with rfl | rfl
      · exact absurd rfl hafter.2
      · exact absurd rfl hafter.1
    · obtain ⟨i, hlt, g, source'', hg, hpick⟩ := hw.sent_before hreset
      have hmsg := pick_eq_some hpick
      cases g with
      | reset i' reason =>
        cases hmsg
        exact ⟨i, hlt, reason, source'', hg⟩
      | _ => cases hmsg
    · exact absurd hfailing hnot
  · left
    intro i hlt source'' hi
    exact hanswered (hw.mem_before hread hlt hi (pick_self id _))

/-- The responder listens, the initiator opens a stream, and the responder has given it to the
callback. -/
def acceptRun : List (Party × LinkEvent) :=
  [(.responder, .act (.listen ⟨fun _ => true, false⟩)), (.initiator, .act (.openStream []))] ++
    List.replicate 5 (.initiator, .act (.runOpen 0)) ++
    [(.initiator, .act (.openSent 0)), (.responder, .receive)] ++
    List.replicate 6 (.responder, .act (.runHandler 0 none))

/-- The initiator reads a frame and handles it. -/
def readRun (p : Party) (regions : Nat) : List (Party × LinkEvent) :=
  (p, .receive) :: List.replicate regions (p, .act (.runHandler 0 none))

def returnRun : List (Party × LinkEvent) :=
  readRun .initiator 4 ++ [(.initiator, .act (.openResumes 0)), (.initiator, .act (.runOpen 0))]

/-- The callback writes before the answer is sent. -/
def earlyRun : List (Party × LinkEvent) :=
  acceptRun ++ [(.responder, .act (.writeData 0 [7])), (.responder, .act (.handlerSent 0))] ++
    readRun .initiator 2 ++ returnRun

/-- The responder drops its reader, the initiator writes, and the responder goes on writing. -/
def resetRun : List (Party × LinkEvent) :=
  acceptRun ++ [(.responder, .act (.handlerSent 0))] ++ returnRun ++
    [(.responder, .act (.dropRead 0)), (.initiator, .act (.writeData 0 [1]))] ++
    readRun .responder 2 ++ [(.responder, .act (.handlerSent 0))] ++ readRun .initiator 2 ++
    [(.responder, .act (.writeData 0 [7]))] ++ readRun .initiator 2

theorem answered_frames_kept_early_run :
    Along Link.step (fun s _ => (s.endpoint .initiator).ready 1 = true) start earlyRun ∧
    ((∀ i < 0, ∀ source, ((exec Link.step start earlyRun).endpoint .responder).runtime.out[i]? ≠
        some (.openResp 1 .success, source)) ∨
      ∃ i < 0, ∃ reason source, ((exec Link.step start earlyRun).endpoint .responder).runtime.out[i]? =
        some (.reset 1 reason, source)) := by
  have hready : Along Link.step (fun s _ => (s.endpoint .initiator).ready 1 = true) start earlyRun := by
    decide +kernel
  refine ⟨hready, (answered_frames_kept earlyRun .initiator).2 0 1 0
    ⟨[], some 1, .returned (some 0) .ok, some (.ok ()), false⟩ hready ?_ rfl rfl 0 ?_ (.data 1 [7])
    (.writer 0) ?_ (.inr ⟨[7], rfl⟩)⟩
  · decide +kernel
  · decide +kernel
  · decide +kernel

/-- The call of `open` returns, its reader is alive, its queue is not full, and data of the other end is
lost: what the callback wrote before the answer was sent, and what was written after a reset. -/
theorem data_discarded :
    (Along Link.step (fun s _ => (s.endpoint .initiator).ready 1 = true) start earlyRun ∧
      ((exec Link.step start earlyRun).endpoint .initiator).runtime.opens[0]? =
        some ⟨[], some 1, .returned (some 0) .ok, some (.ok ()), false⟩ ∧
      ((exec Link.step start earlyRun).endpoint .initiator).ready 1 = true ∧
      ((exec Link.step start earlyRun).endpoint .responder).runtime.out[0]? =
        some (.data 1 [7], .writer 0) ∧
      0 ∈ ((exec Link.step start earlyRun).endpoint .initiator).runtime.lost) ∧
    Along Link.step (fun s _ => (s.endpoint .initiator).ready 1 = true) start resetRun ∧
      ((exec Link.step start resetRun).endpoint .initiator).runtime.opens[0]? =
        some ⟨[], some 1, .returned (some 0) .ok, some (.ok ()), false⟩ ∧
      ((exec Link.step start resetRun).endpoint .initiator).ready 1 = true ∧
      ((exec Link.step start resetRun).endpoint .responder).runtime.out[2]? =
        some (.data 1 [7], .writer 0) ∧
      2 ∈ ((exec Link.step start resetRun).endpoint .initiator).runtime.lost := by
  refine ⟨⟨?_, ?_, ?_, ?_, ?_⟩, ?_, ?_, ?_, ?_, ?_⟩ <;> decide +kernel

end Link

end BuckyP2p.ControlStream
