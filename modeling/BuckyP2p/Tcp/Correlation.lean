import Mathlib.Data.List.Induction
import BuckyP2p.Tcp.Registration

/-!
# BuckyP2p.Tcp.Correlation — what a request for a data connection makes of its events

`ReverseOpenCorrelation` is fed the arrival of a data connection, its registration, the answer to
the request, and the two ends (`failure`, `terminalCleanup`), in any order and number.

`Tracks` reads an open correlation off the events that it took.  From it comes when `apply` returns
`complete` (`apply_complete_iff`), and that the place of the answer among the arrivals does not
matter as long as the arrivals do not end the correlation by themselves (`completed_iff_registered`).
-/

namespace BuckyP2p.Tcp.ReverseOpenCorrelation

open Lib

def run (r : ReverseOpenCorrelation) (events : List ReverseOpenCorrelationEvent) :
    ReverseOpenCorrelation :=
  exec (fun r event => (r.apply event).1) r events

/-- What `apply` returned for each event. -/
def outcomes (r : ReverseOpenCorrelation) :
    List ReverseOpenCorrelationEvent → List ReverseOpenCorrelationOutcome
  | [] => []
  | event :: events => (r.apply event).2 :: outcomes (r.apply event).1 events

/-- The events that together complete a request with `connId`. -/
def Ready (events : List ReverseOpenCorrelationEvent) (connId : TcpConnId) : Prop :=
  .arrival connId ∈ events ∧ .arrivalRegistered connId ∈ events ∧ .successResponse connId ∈ events

def isArrival : ReverseOpenCorrelationEvent → Bool
  | .arrival _ => true
  | _ => false

/-- None of the events keeps the request from completing with `connId`. -/
structure Clean (events : List ReverseOpenCorrelationEvent) (connId : TcpConnId) : Prop where
  failure : .failure ∉ events
  cleanup : .terminalCleanup ∉ events
  arrival : events.countP isArrival ≤ 1
  registered : ∀ pre d, pre ++ [.arrivalRegistered d] <+: events → d = connId ∧ .arrival connId ∈ pre
  response : ∀ d, .successResponse d ∈ events → d = connId

/-- `event` is the last of the three events that was missing. -/
def Completes (connId : TcpConnId) (pre : List ReverseOpenCorrelationEvent)
    (event : ReverseOpenCorrelationEvent) : Prop :=
  Ready (pre ++ [event]) connId ∧ ¬ Ready pre connId ∧ Clean pre connId

/-- The events of the data connection itself, which come on that connection. -/
def ofConnection : ReverseOpenCorrelationEvent → Bool
  | .arrival _ | .arrivalRegistered _ => true
  | _ => false

variable {r : ReverseOpenCorrelation} {events pre : List ReverseOpenCorrelationEvent}
  {event : ReverseOpenCorrelationEvent} {connId : TcpConnId}

@[simp] theorem run_nil (r : ReverseOpenCorrelation) : r.run [] = r := rfl

theorem run_cons (r : ReverseOpenCorrelation) (event : ReverseOpenCorrelationEvent)
    (events : List ReverseOpenCorrelationEvent) :
    r.run (event :: events) = (r.apply event).1.run events := rfl

theorem run_append (r : ReverseOpenCorrelation) (pre post : List ReverseOpenCorrelationEvent) :
    r.run (pre ++ post) = (r.run pre).run post := exec_append _ r pre post

theorem run_concat (r : ReverseOpenCorrelation) (pre : List ReverseOpenCorrelationEvent)
    (event : ReverseOpenCorrelationEvent) :
    r.run (pre ++ [event]) = ((r.run pre).apply event).1 := run_append r pre [event]

/-! ### After the end -/

theorem apply_of_terminal (h : r.terminal = true) (event : ReverseOpenCorrelationEvent) :
    (r.apply event).1 = r ∧ ∀ connId, (r.apply event).2 ≠ .complete connId := by
  unfold apply
  rw [if_pos h]
  cases event with
  | successResponse connId =>
    rw [applyTerminal]
    by_cases hsame : r.completedConnId = some connId
    · simp [hsame]
    · rw [if_neg hsame]
      by_cases hsome : r.completedConnId.isSome
      · simp [hsome]
      · simp [hsome]
  | _ => simp [applyTerminal]

theorem run_of_terminal (h : r.terminal = true) (events : List ReverseOpenCorrelationEvent) :
    r.run events = r := by
  induction events with
  | nil => rfl
  | cons event events ih => rw [run_cons, (apply_of_terminal h event).1, ih]

theorem outcomes_of_terminal (h : r.terminal = true) (events : List ReverseOpenCorrelationEvent)
    (connId : TcpConnId) : .complete connId ∉ r.outcomes events := by
  induction events with
  | nil => simp [outcomes]
  | cons event events ih =>
    obtain ⟨hsame, hne⟩ := apply_of_terminal h event
    rw [outcomes, hsame, List.mem_cons, not_or]
    exact ⟨(hne connId).symm, ih⟩

/-! ### What one event does to an open correlation -/

/-- The events that end an open correlation without a connection. -/
def Breaks (r : ReverseOpenCorrelation) : ReverseOpenCorrelationEvent → Prop
  | .arrival connId => r.arrivalConnId ≠ none ∨ ∃ d, r.responseConnId = some d ∧ d ≠ connId
  | .arrivalRegistered connId => r.arrivalConnId ≠ some connId
  | .successResponse connId =>
    (∃ d, r.responseConnId = some d ∧ d ≠ connId) ∨
      r.responseConnId = none ∧ ∃ d, r.arrivalConnId = some d ∧ d ≠ connId
  | .failure | .terminalCleanup => True

/-- What an open correlation does with an event. -/
inductive Takes (r : ReverseOpenCorrelation) :
    ReverseOpenCorrelationEvent → ReverseOpenCorrelation → ReverseOpenCorrelationOutcome → Prop
  | breaks {e outcome} (hbreaks : r.Breaks e) (hout : ∀ c, outcome ≠ .complete c) :
    Takes r e { r with terminal := true } outcome
  | arrives {c} (hfirst : r.arrivalConnId = none) (hsame : ∀ d, r.responseConnId = some d → d = c) :
    Takes r (.arrival c) { r with arrivalConnId := some c } .wait
  | registers {c} (harrived : r.arrivalConnId = some c) (hfirst : r.arrivalRegistered = false)
      (hwaits : r.responseConnId ≠ some c) :
    Takes r (.arrivalRegistered c) { r with arrivalRegistered := true } .wait
  | registersLast {c} (harrived : r.arrivalConnId = some c) (hfirst : r.arrivalRegistered = false)
      (hanswered : r.responseConnId = some c) :
    Takes r (.arrivalRegistered c)
      { r with arrivalRegistered := true, terminal := true, completedConnId := some c } (.complete c)
  | answers {c} (hfirst : r.responseConnId = none) (hsame : ∀ d, r.arrivalConnId = some d → d = c)
      (hwaits : r.arrivalRegistered = false) :
    Takes r (.successResponse c) { r with responseConnId := some c } .wait
  | answersLast {c} (hfirst : r.responseConnId = none) (hsame : ∀ d, r.arrivalConnId = some d → d = c)
      (hregistered : r.arrivalRegistered = true) :
    Takes r (.successResponse c)
      { r with responseConnId := some c, terminal := true, completedConnId := some c } (.complete c)
  | answersAgain {c} (hanswered : r.responseConnId = some c) (hregistered : r.arrivalRegistered = true) :
    Takes r (.successResponse c) { r with terminal := true, completedConnId := some c } (.complete c)
  | again {e} (hagain : (∃ c, e = .arrivalRegistered c ∧ r.arrivalConnId = some c ∧
        r.arrivalRegistered = true) ∨
      ∃ c, e = .successResponse c ∧ r.responseConnId = some c ∧ r.arrivalRegistered = false) :
    Takes r e r .idempotent

theorem apply_takes (h : r.terminal = false) (event : ReverseOpenCorrelationEvent) :
    Takes r event (r.apply event).1 (r.apply event).2 := by
  unfold apply
  rw [if_neg (by simp [h])]
  cases event with
  | arrival c =>
    cases harrived : r.arrivalConnId with
    | some d => exact .breaks (.inl (by simp [harrived])) (by simp [reject])
    | none =>
      by_cases hother : r.responseConnId.any (· ≠ c)
      · simp only [hother]
        refine .breaks (.inr ?_) (by simp [reject])
        cases hanswered : r.responseConnId with
        | none => simp [hanswered] at hother
        | some d => exact ⟨d, rfl, by simpa [hanswered] using hother⟩
      · simp only [hother]
        refine .arrives harrived fun d hd => ?_
        simpa [hd] using hother
  | arrivalRegistered c =>
    dsimp only
    by_cases harrived : r.arrivalConnId = some c
    · rw [if_neg (not_not.mpr harrived)]
      cases hreg : r.arrivalRegistered with
      | true => exact .again (.inl ⟨c, rfl, harrived, hreg⟩)
      | false =>
        by_cases hanswered : r.responseConnId = some c
        · rw [if_neg Bool.false_ne_true, if_pos hanswered]
          exact .registersLast harrived hreg hanswered
        · rw [if_neg Bool.false_ne_true, if_neg hanswered]
          exact .registers harrived hreg hanswered
    · rw [if_pos harrived]
      exact .breaks harrived (by simp [reject])
  | successResponse c =>
    cases hanswered : r.responseConnId with
    | some d =>
      by_cases hother : d = c
      · subst hother
        simp only [ne_eq, not_true_eq_false, if_false]
        cases hreg : r.arrivalRegistered with
        | true => exact .answersAgain hanswered hreg
        | false => exact .again (.inr ⟨d, rfl, hanswered, hreg⟩)
      · dsimp only
        rw [if_pos hother]
        exact .breaks (.inl ⟨d, hanswered, hother⟩) (by simp [reject])
    | none =>
      by_cases hother : r.arrivalConnId.any (· ≠ c)
      · simp only [hother]
        refine .breaks (.inr ⟨hanswered, ?_⟩) (by simp [reject])
        cases harrived : r.arrivalConnId with
        | none => simp [harrived] at hother
        | some d => exact ⟨d, rfl, by simpa [harrived] using hother⟩
      · have hsame : ∀ d, r.arrivalConnId = some d → d = c := fun d hd => by simpa [hd] using hother
        dsimp only
        rw [if_neg hother]
        by_cases hreg : r.arrivalRegistered = true
        · rw [if_pos hreg]
          exact .answersLast hanswered hsame hreg
        · rw [if_neg hreg]
          exact .answers hanswered hsame (Bool.not_eq_true _ ▸ hreg)
  | failure | terminalCleanup => exact .breaks trivial (by simp)

/-! ### An open correlation and the events that it took -/

/-- The state of an open correlation, read off its events. -/
structure Tracks (events : List ReverseOpenCorrelationEvent) (r : ReverseOpenCorrelation) : Prop where
  isOpen : r.terminal = false
  pending : r.completedConnId = none
  arrived : ∀ c, r.arrivalConnId = some c ↔ .arrival c ∈ events
  answered : ∀ c, r.responseConnId = some c ↔ .successResponse c ∈ events
  registered : r.arrivalRegistered = true ↔ ∃ c, .arrivalRegistered c ∈ events
  staged : ∀ pre c, pre ++ [.arrivalRegistered c] <+: events → .arrival c ∈ pre
  arrival : events.countP isArrival ≤ 1
  failure : .failure ∉ events
  cleanup : .terminalCleanup ∉ events
  waits : r.arrivalRegistered = true → r.responseConnId = none
  agree : ∀ c d, r.arrivalConnId = some c → r.responseConnId = some d → c = d

theorem tracks_new : Tracks [] new where
  isOpen := rfl
  pending := rfl
  arrived c := by simp [new]
  answered c := by simp [new]
  registered := by simp [new]
  staged pre c h := by simp at h
  arrival := by simp
  failure := by simp
  cleanup := by simp
  waits _ := rfl
  agree c d h := by simp [new] at h

theorem exists_prefix {l : List ReverseOpenCorrelationEvent} (h : event ∈ l) :
    ∃ pre, pre ++ [event] <+: l := by
  obtain ⟨pre, post, rfl⟩ := List.append_of_mem h
  exact ⟨pre, post, by simp⟩

theorem Tracks.registered_eq (h : Tracks pre r) {c d : TcpConnId} (harrived : r.arrivalConnId = some c)
    (hd : .arrivalRegistered d ∈ pre) : d = c := by
  obtain ⟨p, hp⟩ := exists_prefix hd
  have hmem : .arrival d ∈ pre := hp.subset (List.mem_append_left _ (h.staged p d hp))
  have hsome := (h.arrived d).mpr hmem
  rw [harrived] at hsome
  exact (Option.some.inj hsome).symm

/-- What an event adds, when it leaves the correlation open. -/
theorem Takes.tracks {r' : ReverseOpenCorrelation} {outcome : ReverseOpenCorrelationOutcome}
    (htakes : Takes r event r' outcome) (h : Tracks pre r) (hopen : r'.terminal = false) :
    Tracks (pre ++ [event]) r' := by
  -- a prefix that ends with a registration is an old one, or all that there is
  have hstaged : (∀ c, event = .arrivalRegistered c → .arrival c ∈ pre) →
      ∀ p c, p ++ [ReverseOpenCorrelationEvent.arrivalRegistered c] <+: pre ++ [event] →
        .arrival c ∈ p := by
    intro hevent p c hp
    rcases List.prefix_concat_iff.mp hp with heq | hp
    · obtain ⟨rfl, hlast⟩ := List.append_inj' heq rfl
      exact hevent c (List.singleton_inj.mp hlast).symm
    · exact h.staged p c hp
  cases htakes with
  | breaks | registersLast | answersLast | answersAgain => exact absurd hopen (by simp)
  | @arrives c hfirst hsame =>
    have hnone : ∀ d, .arrival d ∉ pre := fun d hd => by
      simpa [hfirst] using (h.arrived d).mpr hd
    refine ⟨hopen, h.pending, fun d => ?_, fun d => ?_, ?_, hstaged (by simp), ?_, ?_, ?_, h.waits, ?_⟩
    · simp [hnone, eq_comm]
    · simpa using h.answered d
    · simpa using h.registered
    · have hzero : pre.countP isArrival = 0 := by
        rw [List.countP_eq_zero]
        rintro (d | d | d | _ | _) hd
        · exact absurd hd (hnone d)
        all_goals simp [isArrival]
      simp [hzero, isArrival]
    · simpa using h.failure
    · simpa using h.cleanup
    · rintro a d hca hd
      rw [hsame d hd]
      exact (Option.some.inj hca).symm
  | @registers c harrived hfirst hwaits =>
    refine ⟨hopen, h.pending, fun d => ?_, fun d => ?_, ?_, hstaged ?_, ?_, ?_, ?_, ?_, h.agree⟩
    · simpa using h.arrived d
    · simpa using h.answered d
    · simp
    · rintro d hd
      cases hd
      exact (h.arrived c).mp harrived
    · simpa [isArrival] using h.arrival
    · simpa using h.failure
    · simpa using h.cleanup
    · rintro -
      cases hanswered : r.responseConnId with
      | none => rfl
      | some d =>
        have hcd := h.agree c d harrived hanswered
        exact absurd (hcd ▸ hanswered) hwaits
  | @answers c hfirst hsame hwaits =>
    refine ⟨hopen, h.pending, fun d => ?_, fun d => ?_, ?_, hstaged (by simp), ?_, ?_, ?_, ?_, ?_⟩
    · simpa using h.arrived d
    · have hnone : .successResponse d ∉ pre := fun hd => by
        simpa [hfirst] using (h.answered d).mpr hd
      simp [hnone, eq_comm]
    · simpa using h.registered
    · simpa [isArrival] using h.arrival
    · simpa using h.failure
    · simpa using h.cleanup
    · intro hreg
      exact absurd hreg (by simp [hwaits])
    · rintro a d ha hd
      rw [hsame a ha]
      exact Option.some.inj hd
  | again hagain =>
    have hold : event ∈ pre ∧ (∀ c, event = .arrivalRegistered c → .arrival c ∈ pre) ∧
        isArrival event = false ∧ event ≠ .failure ∧ event ≠ .terminalCleanup := by
      rcases hagain with ⟨c, rfl, harrived, hreg⟩ | ⟨c, rfl, hanswered, -⟩
      · obtain ⟨d, hd⟩ := h.registered.mp hreg
        have hdc := h.registered_eq harrived hd
        subst hdc
        refine ⟨hd, ?_, rfl, by simp, by simp⟩
        rintro a ha
        cases ha
        exact (h.arrived d).mp harrived
      · exact ⟨(h.answered c).mp hanswered, by simp, rfl, by simp, by simp⟩
    obtain ⟨hmem, hevent, hcount, hfail, hclean⟩ := hold
    have hiff : ∀ x, x ∈ pre ++ [event] ↔ x ∈ pre := fun x => by
      rw [List.mem_append, List.mem_singleton]
      exact ⟨fun h => h.elim id fun hx => hx ▸ hmem, .inl⟩
    refine ⟨hopen, h.pending, fun d => ?_, fun d => ?_, ?_, hstaged hevent, ?_, ?_, ?_, h.waits,
      h.agree⟩
    · rw [hiff, h.arrived]
    · rw [hiff, h.answered]
    · simp only [hiff, h.registered]
    · simpa [hcount] using h.arrival
    · rw [hiff]
      exact h.failure
    · rw [hiff]
      exact h.cleanup

theorem tracks_run (hopen : (new.run events).terminal = false) : Tracks events (new.run events) := by
  induction events using List.reverseRecOn with
  | nil => exact tracks_new
  | append_singleton pre event ih =>
    rw [run_concat] at hopen ⊢
    have hpre : (new.run pre).terminal = false := by
      by_contra hend
      rw [Bool.not_eq_false] at hend
      rw [(apply_of_terminal hend event).1, hend] at hopen
      cases hopen
    exact (apply_takes hpre event).tracks (ih hpre) hopen

/-! ### When a request completes -/

/-- Whatever completes a correlation was the last of the three events. -/
theorem Takes.completes {r' : ReverseOpenCorrelation} (h : Tracks pre r)
    (htakes : Takes r event r' (.complete connId)) : Completes connId pre event := by
  have hclean : r.arrivalConnId = some connId →
      (∀ d, .successResponse d ∈ pre → d = connId) → Clean pre connId := fun harrived hresponse => {
    failure := h.failure
    cleanup := h.cleanup
    arrival := h.arrival
    registered := fun p d hp => by
      have hd : .arrivalRegistered d ∈ pre := hp.subset (by simp)
      have hdc := h.registered_eq harrived hd
      exact ⟨hdc, hdc ▸ h.staged p d hp⟩
    response := hresponse }
  cases htakes with
  | breaks _ hout => exact absurd rfl (hout connId)
  | registersLast harrived hfirst hanswered =>
    have hnone : .arrivalRegistered connId ∉ pre := fun hmem => by
      simpa [hfirst] using h.registered.mpr ⟨connId, hmem⟩
    refine ⟨⟨?_, ?_, ?_⟩, fun hready => hnone hready.2.1, hclean harrived fun d hd => ?_⟩
    · exact List.mem_append_left _ ((h.arrived connId).mp harrived)
    · simp
    · exact List.mem_append_left _ ((h.answered connId).mp hanswered)
    · have hsome := (h.answered d).mpr hd
      rw [hanswered] at hsome
      exact (Option.some.inj hsome).symm
  | answersLast hfirst hsame hregistered =>
    obtain ⟨d, hd⟩ := h.registered.mp hregistered
    obtain ⟨p, hp⟩ := exists_prefix hd
    have harrival : .arrival d ∈ pre := hp.subset (List.mem_append_left _ (h.staged p d hp))
    have hdc := hsame d ((h.arrived d).mpr harrival)
    subst hdc
    have hnone : ∀ c, .successResponse c ∉ pre := fun c hc => by
      simpa [hfirst] using (h.answered c).mpr hc
    refine ⟨⟨?_, ?_, ?_⟩, fun hready => hnone d hready.2.2,
      hclean ((h.arrived d).mpr harrival) fun c hc => absurd hc (hnone c)⟩
    · exact List.mem_append_left _ harrival
    · exact List.mem_append_left _ hd
    · simp
  | answersAgain hanswered hregistered =>
    exact absurd (h.waits hregistered) (by simp [hanswered])

theorem Clean.mono (h : Clean events connId) (hpre : pre <+: events) : Clean pre connId where
  failure hmem := h.failure (hpre.subset hmem)
  cleanup hmem := h.cleanup (hpre.subset hmem)
  arrival := (hpre.sublist.countP_le).trans h.arrival
  registered p d hp := h.registered p d (hp.trans hpre)
  response d hd := h.response d (hpre.subset hd)

theorem Ready.mono (h : Ready pre connId) (hpre : pre <+: events) : Ready events connId :=
  ⟨hpre.subset h.1, hpre.subset h.2.1, hpre.subset h.2.2⟩

theorem Clean.arrival_eq (h : Clean events connId) {c d : TcpConnId} (hc : .arrival c ∈ events)
    (hd : .arrival d ∈ events) : d = c := by
  obtain ⟨pre, post, rfl⟩ := List.append_of_mem hc
  have hcount := h.arrival
  rw [List.countP_append, List.countP_cons_of_pos rfl] at hcount
  have hpre : pre.countP isArrival = 0 := by omega
  have hpost : post.countP isArrival = 0 := by omega
  rcases List.mem_append.mp hd with hd | hd
  · exact absurd rfl (List.countP_eq_zero.mp hpre _ hd)
  · rcases List.mem_cons.mp hd with hd | hd
    · cases hd
      rfl
    · exact absurd rfl (List.countP_eq_zero.mp hpost _ hd)

/-- An event that a request for `connId` may see does not end the correlation. -/
theorem Clean.not_breaks (hclean : Clean (pre ++ [event]) connId) (h : Tracks pre r)
    (harrival : ∀ d, .arrival d ∈ pre ++ [event] → d = connId) : ¬ r.Breaks event := by
  have hevent : event ∈ pre ++ [event] := by simp
  intro hbreaks
  cases event with
  | arrival c =>
    rcases hbreaks with hsecond | ⟨d, hd, hne⟩
    · obtain ⟨d, hd⟩ := Option.ne_none_iff_exists'.mp hsecond
      have hpos : 0 < pre.countP isArrival := List.countP_pos_iff.mpr ⟨_, (h.arrived d).mp hd, rfl⟩
      have hcount := hclean.arrival
      rw [List.countP_append, List.countP_singleton, isArrival, if_pos rfl] at hcount
      omega
    · have hdc := hclean.response d (List.mem_append_left _ ((h.answered d).mp hd))
      exact hne (hdc.trans (harrival c hevent).symm)
  | arrivalRegistered c =>
    obtain ⟨rfl, hmem⟩ := hclean.registered pre c List.prefix_rfl
    exact hbreaks ((h.arrived c).mpr hmem)
  | successResponse c =>
    have hc := hclean.response c hevent
    rcases hbreaks with ⟨d, hd, hne⟩ | ⟨-, d, hd, hne⟩
    · have hdc := hclean.response d (List.mem_append_left _ ((h.answered d).mp hd))
      exact hne (hdc.trans hc.symm)
    · have hdc := harrival d (List.mem_append_left _ ((h.arrived d).mp hd))
      exact hne (hdc.trans hc.symm)
  | failure => exact hclean.failure hevent
  | terminalCleanup => exact hclean.cleanup hevent

theorem open_of_clean (hclean : Clean events connId) (hready : ¬ Ready events connId)
    (harrival : ∀ d, .arrival d ∈ events → d = connId) : (new.run events).terminal = false := by
  induction events using List.reverseRecOn with
  | nil => rfl
  | append_singleton pre event ih =>
    have hpre : pre <+: pre ++ [event] := List.prefix_append pre [event]
    have h := tracks_run (ih (hclean.mono hpre) (fun hr => hready (hr.mono hpre))
      fun d hd => harrival d (hpre.subset hd))
    have hlast : ∀ c, ¬ Completes c pre event := fun c hc => by
      have hcc := harrival c hc.1.1
      exact hready (hcc ▸ hc.1)
    rw [run_concat]
    have htakes := apply_takes h.isOpen event
    generalize hr : new.run pre = r at h htakes
    generalize (r.apply event).1 = r', (r.apply event).2 = outcome at htakes
    have hcomplete : ∀ c, outcome ≠ .complete c := by
      rintro c rfl
      exact hlast c (htakes.completes h)
    cases htakes with
    | breaks hbreaks => exact absurd hbreaks (hclean.not_breaks h harrival)
    | registersLast | answersLast | answersAgain => exact absurd rfl (hcomplete _)
    | arrives | registers | answers | again => exact h.isOpen

theorem Completes.arrived (h : Completes connId pre event) : .arrival connId ∈ pre := by
  obtain ⟨⟨harrival, hregistered, -⟩, -, hclean⟩ := h
  rcases List.mem_append.mp harrival with hmem | hmem
  · exact hmem
  · have hevent := List.mem_singleton.mp hmem
    subst hevent
    have hreg : .arrivalRegistered connId ∈ pre := by simpa using hregistered
    obtain ⟨p, hp⟩ := exists_prefix hreg
    exact hp.subset (List.mem_append_left _ (hclean.registered p connId hp).2)

theorem Completes.event_eq (h : Completes connId pre event) :
    event = .arrivalRegistered connId ∧ .arrivalRegistered connId ∉ pre ∧
        .successResponse connId ∈ pre ∨
      event = .successResponse connId ∧ .successResponse connId ∉ pre ∧
        .arrivalRegistered connId ∈ pre := by
  have harrived := h.arrived
  obtain ⟨⟨-, hregistered, hanswered⟩, hready, -⟩ := h
  simp only [List.mem_append, List.mem_singleton] at hregistered hanswered
  rcases hregistered with hreg | rfl
  · rcases hanswered with hans | rfl
    · exact absurd ⟨harrived, hreg, hans⟩ hready
    · exact .inr ⟨rfl, fun hans => hready ⟨harrived, hreg, hans⟩, hreg⟩
  · have hans : .successResponse connId ∈ pre := by simpa using hanswered
    exact .inl ⟨rfl, fun hreg => hready ⟨harrived, hreg, hans⟩, hans⟩

theorem Completes.clean (h : Completes connId pre event) : Clean (pre ++ [event]) connId := by
  have hevent := h.event_eq
  have harrived := h.arrived
  have hclean := h.2.2
  have hkind : event ≠ .failure ∧ event ≠ .terminalCleanup ∧ isArrival event = false := by
    rcases hevent with ⟨rfl, -⟩ | ⟨rfl, -⟩ <;> exact ⟨by simp, by simp, rfl⟩
  refine ⟨?_, ?_, ?_, fun p d hp => ?_, fun d hd => ?_⟩
  · simpa using ⟨hclean.failure, hkind.1.symm⟩
  · simpa using ⟨hclean.cleanup, hkind.2.1.symm⟩
  · simpa [hkind.2.2] using hclean.arrival
  · rcases List.prefix_concat_iff.mp hp with heq | hp
    · obtain ⟨rfl, hlast⟩ := List.append_inj' heq rfl
      rcases hevent with ⟨rfl, -⟩ | ⟨rfl, -⟩
      · cases hlast
        exact ⟨rfl, harrived⟩
      · cases hlast
    · exact hclean.registered p d hp
  · rcases List.mem_append.mp hd with hd | hd
    · exact hclean.response d hd
    · rcases hevent with ⟨rfl, -⟩ | ⟨rfl, -⟩
      · simp at hd
      · simpa using hd

theorem apply_complete_iff :
    ((new.run pre).apply event).2 = .complete connId ↔ Completes connId pre event := by
  constructor
  · intro hout
    have hopen : (new.run pre).terminal = false := by
      by_contra hend
      rw [Bool.not_eq_false] at hend
      exact (apply_of_terminal hend event).2 connId hout
    have htakes := apply_takes hopen event
    rw [hout] at htakes
    exact htakes.completes (tracks_run hopen)
  · intro hlast
    have hall : ∀ d, .arrival d ∈ pre ++ [event] → d = connId := fun d hd =>
      hlast.clean.arrival_eq hlast.1.1 hd
    have h := tracks_run (open_of_clean hlast.2.2 hlast.2.1 fun d hd =>
      hall d (List.mem_append_left _ hd))
    have htakes := apply_takes h.isOpen event
    have hbreaks := hlast.clean.not_breaks h hall
    generalize new.run pre = r at h htakes hbreaks ⊢
    generalize (r.apply event).1 = r', (r.apply event).2 = outcome at htakes ⊢
    rcases hlast.event_eq with ⟨rfl, hnew, hold⟩ | ⟨rfl, hnew, hold⟩
    · have hanswered := (h.answered connId).mpr hold
      cases htakes with
      | breaks hb => exact absurd hb hbreaks
      | registersLast => rfl
      | registers _ _ hwaits => exact absurd hanswered hwaits
      | again hagain =>
        rcases hagain with ⟨c, heq, harrived, hreg⟩ | ⟨c, heq, -⟩
        · cases heq
          obtain ⟨d, hd⟩ := h.registered.mp hreg
          exact absurd (h.registered_eq harrived hd ▸ hd) hnew
        · cases heq
    · have hregistered := h.registered.mpr ⟨connId, hold⟩
      cases htakes with
      | breaks hb => exact absurd hb hbreaks
      | answersLast | answersAgain => rfl
      | answers _ _ hwaits => exact absurd hregistered (by simp [hwaits])
      | again hagain =>
        rcases hagain with ⟨c, heq, -⟩ | ⟨c, heq, hanswered, -⟩
        · cases heq
        · cases heq
          exact absurd ((h.answered connId).mp hanswered) hnew

theorem completed_of_complete (h : (r.apply event).2 = .complete connId) :
    (r.apply event).1.terminal = true ∧ (r.apply event).1.completedConnId = some connId := by
  have hopen : r.terminal = false := by
    by_contra hend
    rw [Bool.not_eq_false] at hend
    exact (apply_of_terminal hend event).2 connId h
  have htakes := apply_takes hopen event
  rw [h] at htakes
  generalize (r.apply event).1 = r' at htakes ⊢
  cases htakes with
  | breaks _ hout => exact absurd rfl (hout connId)
  | registersLast | answersLast | answersAgain => exact ⟨rfl, rfl⟩

theorem completed_iff :
    (new.run events).completedConnId = some connId ↔
      ∃ pre event, pre ++ [event] <+: events ∧ Completes connId pre event := by
  constructor
  · intro hcompleted
    induction events using List.reverseRecOn with
    | nil => cases hcompleted
    | append_singleton pre event ih =>
      rw [run_concat] at hcompleted
      have hold : (new.run pre).completedConnId = some connId →
          ∃ p e, p ++ [e] <+: pre ++ [event] ∧ Completes connId p e := fun h => by
        obtain ⟨p, e, hp, hlast⟩ := ih h
        exact ⟨p, e, hp.trans (List.prefix_append pre [event]), hlast⟩
      by_cases hend : (new.run pre).terminal = true
      · rw [(apply_of_terminal hend event).1] at hcompleted
        exact hold hcompleted
      · have hopen : (new.run pre).terminal = false := Bool.not_eq_true _ ▸ hend
        have hnone := (tracks_run hopen).pending
        have hcomplete : ((new.run pre).apply event).2 = .complete connId := by
          have htakes := apply_takes hopen event
          generalize ((new.run pre).apply event).1 = r', ((new.run pre).apply event).2 = outcome
            at htakes hcompleted
          cases htakes with
          | registersLast | answersLast | answersAgain => rw [Option.some.inj hcompleted]
          | breaks | arrives | registers | answers | again =>
            exact absurd (hnone.symm.trans hcompleted) (by simp)
        exact ⟨pre, event, List.prefix_rfl, apply_complete_iff.mp hcomplete⟩
  · rintro ⟨pre, event, ⟨post, rfl⟩, hlast⟩
    obtain ⟨hend, hcompleted⟩ := completed_of_complete (apply_complete_iff.mpr hlast)
    rw [run_append, run_concat, run_of_terminal hend, hcompleted]

theorem Completes.of_ready (hready : Ready events connId) (hclean : Clean events connId) :
    ∃ pre event, pre ++ [event] <+: events ∧ Completes connId pre event := by
  induction events using List.reverseRecOn with
  | nil => cases hready.1
  | append_singleton pre event ih =>
    have hpre : pre <+: pre ++ [event] := List.prefix_append pre [event]
    by_cases hbefore : Ready pre connId
    · obtain ⟨p, e, hp, hlast⟩ := ih hbefore (hclean.mono hpre)
      exact ⟨p, e, hp.trans hpre, hlast⟩
    · exact ⟨pre, event, List.prefix_rfl, hready, hbefore, hclean.mono hpre⟩

/-! ### The place of the answer -/

section Interleaving

variable {before after : List ReverseOpenCorrelationEvent}

theorem mem_interleaving (hevents : ∀ e ∈ before ++ after, ofConnection e = true) (c : TcpConnId) :
    (.arrival c ∈ before ++ .successResponse connId :: after ↔ .arrival c ∈ before ++ after) ∧
    (.arrivalRegistered c ∈ before ++ .successResponse connId :: after ↔
      .arrivalRegistered c ∈ before ++ after) ∧
    (.successResponse c ∈ before ++ .successResponse connId :: after ↔ c = connId) := by
  refine ⟨by simp, by simp, ?_⟩
  have hnone : .successResponse c ∉ before ++ after := fun hmem => by
    simpa [ofConnection] using hevents _ hmem
  simp only [List.mem_append, not_or] at hnone
  simp [hnone.1, hnone.2]

/-- One answer among arrivals that end nothing. -/
theorem clean_interleaving (hevents : ∀ e ∈ before ++ after, ofConnection e = true)
    (hopen : (new.run (before ++ after)).terminal = false)
    (hregistered : .arrivalRegistered connId ∈ before ++ after) :
    Clean (before ++ .successResponse connId :: after) connId := by
  have h := tracks_run hopen
  have hfilter : (before ++ .successResponse connId :: after).filter ofConnection = before ++ after := by
    rw [List.filter_append, List.filter_cons_of_neg (by simp [ofConnection]), ← List.filter_append]
    exact List.filter_eq_self.mpr hevents
  have hnot : ∀ e, ofConnection e = false → e ≠ .successResponse connId →
      e ∉ before ++ .successResponse connId :: after := fun e hkind hne hmem => by
    have hold : e ∈ before ++ after := by
      simpa [hne] using hmem
    rw [hevents e hold] at hkind
    cases hkind
  obtain ⟨q, hq⟩ := exists_prefix hregistered
  have harrived := (h.arrived connId).mpr (hq.subset (List.mem_append_left _ (h.staged q connId hq)))
  refine ⟨hnot _ rfl (by simp), hnot _ rfl (by simp), ?_, fun p d hp => ?_, fun d hd => ?_⟩
  · have hcount := h.arrival
    rw [List.countP_append] at hcount ⊢
    rwa [List.countP_cons_of_neg (by simp [isArrival])]
  · -- without the answer it is a prefix of the arrivals alone
    have hold := hp.filter ofConnection
    rw [hfilter, List.filter_append, List.filter_singleton, ofConnection, cond_true] at hold
    have hd : d = connId := h.registered_eq harrived (hold.subset (by simp))
    exact ⟨hd, List.mem_of_mem_filter (hd ▸ h.staged _ d hold)⟩
  · exact ((mem_interleaving hevents d).2.2).mp hd

/-- If the arrivals do not end the correlation by themselves, it completes with the answer's
connection if that was registered, wherever the answer comes. -/
theorem completed_iff_registered (hevents : ∀ e ∈ before ++ after, ofConnection e = true)
    (hopen : (new.run (before ++ after)).terminal = false) {c : TcpConnId} :
    (new.run (before ++ .successResponse connId :: after)).completedConnId = some c ↔
      c = connId ∧ .arrivalRegistered connId ∈ before ++ after := by
  have h := tracks_run hopen
  rw [completed_iff]
  constructor
  · rintro ⟨pre, event, hpre, hlast⟩
    obtain ⟨-, hregistered, hanswered⟩ := hlast.1.mono hpre
    have hc := (mem_interleaving hevents c).2.2.mp hanswered
    subst hc
    exact ⟨rfl, (mem_interleaving hevents c).2.1.mp hregistered⟩
  · rintro ⟨rfl, hregistered⟩
    obtain ⟨q, hq⟩ := exists_prefix hregistered
    have harrival : .arrival c ∈ before ++ after :=
      hq.subset (List.mem_append_left _ (h.staged q c hq))
    obtain ⟨h1, h2, h3⟩ := mem_interleaving hevents c
    exact Completes.of_ready ⟨h1.mpr harrival, h2.mpr hregistered, h3.mpr rfl⟩
      (clean_interleaving hevents hopen hregistered)

end Interleaving

def isComplete : ReverseOpenCorrelationOutcome → Bool
  | .complete _ => true
  | _ => false

theorem isComplete_iff (outcome : ReverseOpenCorrelationOutcome) :
    isComplete outcome = true ↔ ∃ c, outcome = .complete c := by
  cases outcome <;> simp [isComplete]

theorem completes_once (r : ReverseOpenCorrelation) (events : List ReverseOpenCorrelationEvent) :
    (r.outcomes events).countP isComplete ≤ 1 := by
  induction events generalizing r with
  | nil => simp [outcomes]
  | cons event events ih =>
    rw [outcomes]
    by_cases hcomplete : isComplete (r.apply event).2 = true
    · obtain ⟨c, hc⟩ := (isComplete_iff _).mp hcomplete
      have hrest : ((r.apply event).1.outcomes events).countP isComplete = 0 := by
        rw [List.countP_eq_zero]
        intro outcome hmem hout
        obtain ⟨d, rfl⟩ := (isComplete_iff _).mp hout
        exact outcomes_of_terminal (completed_of_complete hc).1 events d hmem
      rw [List.countP_cons_of_pos hcomplete, hrest]
    · rw [List.countP_cons_of_neg hcomplete]
      exact ih _

/-- A correlation completes at most once, at the first event after which all three have come and
none before them was wrong; what has ended stays as it is; and one answer among the same arrivals
completes with the same connection wherever it comes, if the arrivals alone end nothing. -/
theorem correlation_completes :
    (∀ events, (new.outcomes events).countP isComplete ≤ 1) ∧
    (∀ pre event connId,
      ((new.run pre).apply event).2 = .complete connId ↔ Completes connId pre event) ∧
    (∀ pre post, (new.run pre).terminal = true → new.run (pre ++ post) = new.run pre) ∧
    (∀ before after connId, (∀ e ∈ before ++ after, ofConnection e = true) →
      (∀ c, (new.run (before ++ .successResponse connId :: after)).completedConnId = some c →
        c = connId) ∧
      ∀ before' after', before' ++ after' = before ++ after →
        (new.run (before ++ after)).terminal = false →
        (new.run (before' ++ .successResponse connId :: after')).completedConnId =
          (new.run (before ++ .successResponse connId :: after)).completedConnId) := by
  refine ⟨completes_once new, fun _ _ _ => apply_complete_iff, fun pre post hend => ?_,
    fun before after connId hevents => ⟨fun c hc => ?_, fun before' after' hsame hopen => ?_⟩⟩
  · rw [run_append, run_of_terminal hend]
  · obtain ⟨pre, event, hpre, hlast⟩ := completed_iff.mp hc
    exact (mem_interleaving hevents c).2.2.mp (hlast.1.mono hpre).2.2
  · refine Option.ext fun c => ?_
    rw [completed_iff_registered hevents hopen,
      completed_iff_registered (hsame ▸ hevents) (hsame ▸ hopen), hsame]

/-- A second arrival ends what the answer has not completed yet, and comes too late after it. -/
theorem second_arrival_against_answer :
    ¬ ∀ (before after before' after' : List ReverseOpenCorrelationEvent) (connId : TcpConnId),
      (∀ e ∈ before ++ after, ofConnection e = true) → before' ++ after' = before ++ after →
      (new.run (before' ++ .successResponse connId :: after')).completedConnId =
        (new.run (before ++ .successResponse connId :: after)).completedConnId := by
  intro h
  have hcase := h [.arrival 1, .arrivalRegistered 1] [.arrival 1]
    [.arrival 1, .arrivalRegistered 1, .arrival 1] [] 1 (by decide) rfl
  revert hcase
  decide

end BuckyP2p.Tcp.ReverseOpenCorrelation
