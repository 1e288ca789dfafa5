import BuckyP2p.ControlStream.Runtime

/-!
# BuckyP2p.ControlStream.Strand — one stream at one end

A `Strand` is what an end has of one stream: the call of `open`, what the maps say, the call of
`on_data` that has a frame of the stream, the write halves, and what was read and sent.  `Step` says
how it changes; the frames, the reasons and the channels of the model are left out.

* The call is `none` at the end that has not opened the stream.
* `lost` has, for each frame with data or an end that found no entry, what was read before it.
* `Act` names the steps that somebody may regret.
-/

namespace BuckyP2p.ControlStream

/-! ### A stream by itself -/

/-- A frame without its contents. -/
inductive Msg
  | ask
  | answer (accepted : Bool)
  | data
  | fin
  | reset
  deriving DecidableEq, Repr

/-- Where a call of `open` stands that has drawn its id. -/
inductive Stage
  | drawn
  | sending
  | waiting
  | leaving (ok : Bool)
  | over (ok : Bool)
  deriving DecidableEq, Repr

/-- `told` is what was sent to the waiter. -/
structure Attempt where
  stage : Stage
  told : Option Bool
  listening : Bool
  deriving DecidableEq, Repr

/-- What is left to do for a frame; `refusing`: a `Reset` frame is sent. -/
inductive Task
  | asked
  | preparing
  | removing
  | answering (accepted : Bool)
  | taking (accepted : Bool)
  | telling (accepted : Bool)
  | inserting
  | delivering
  | ending
  | resetting
  | refusing
  deriving DecidableEq, Repr

/-- What a frame starts. -/
def Msg.task : Msg → Task
  | .ask => .asked
  | .answer accepted => .taking accepted
  | .data => .delivering
  | .fin => .ending
  | .reset => .resetting

/-- The frame that a task is for. -/
def Task.msg : Task → Msg
  | .asked | .preparing | .removing | .answering _ => .ask
  | .taking accepted | .telling accepted => .answer accepted
  | .inserting => .answer true
  | .delivering | .refusing => .data
  | .ending => .fin
  | .resetting => .reset

@[ext]
structure Strand where
  call : Option Attempt
  pending : Bool
  entry : Bool
  task : Option Task
  halves : List WriteState
  read : List Msg
  sent : List Msg
  lost : List (List Msg)

/-- A delivery fails, a call of `open` that waits for the answer is given up, a write half that is not
finished is dropped, and a write half is finished. -/
inductive Act
  | quiet | fails | abandons | drops | ends
  deriving DecidableEq, Repr

namespace Strand

inductive Step : Strand → Act → Strand → Prop
  | idle (s : Strand) : Step s .quiet s
  | starts {s : Strand} {c : Attempt} (hcall : s.call = some c) (hstage : c.stage = .drawn) :
    Step s .quiet { s with call := some { c with stage := .sending }, pending := true }
  | asks {s : Strand} {c : Attempt} (hcall : s.call = some c) (hstage : c.stage = .sending) :
    Step s .quiet { s with call := some { c with stage := .waiting }, sent := s.sent ++ [.ask] }
  | withdraws {s : Strand} {c : Attempt} (hcall : s.call = some c) (hstage : c.stage = .sending) :
    Step s .quiet { s with call := some { c with stage := .leaving false, listening := false } }
  | resumes {s : Strand} {c : Attempt} (ok : Bool) (hcall : s.call = some c)
    (hstage : c.stage = .waiting) (htold : c.told = some ok) :
    Step s .quiet { s with call := some { c with stage := .leaving ok, listening := false } }
  | cancels {s : Strand} {c : Attempt} (hcall : s.call = some c) (hstage : c.stage = .waiting)
    (htold : c.told = none) (hpending : s.pending = false)
    (htask : ∀ ok, s.task ≠ some (.telling ok)) :
    Step s .quiet { s with call := some { c with stage := .leaving false, listening := false } }
  | abandons {s : Strand} {c : Attempt} (hcall : s.call = some c) (hstage : c.stage = .waiting) :
    Step s .abandons { s with call := some { c with stage := .leaving false, listening := false } }
  | returns {s : Strand} {c : Attempt} (hcall : s.call = some c) (hstage : c.stage = .leaving true) :
    Step s .quiet
      { s with
        call := some { c with stage := .over true }
        pending := false
        halves := s.halves ++ [.live] }
  | cleans {s : Strand} {c : Attempt} (hcall : s.call = some c) (hstage : c.stage = .leaving false) :
    Step s .quiet { s with call := some { c with stage := .over false }, pending := false }
  | reads {s : Strand} (m : Msg) (htask : s.task = none) :
    Step s .quiet { s with task := some m.task, read := s.read ++ [m] }
  | refuses {s : Strand} (htask : s.task = some .asked) :
    Step s .quiet { s with task := some (.answering false) }
  | accepts {s : Strand} (htask : s.task = some .asked) (hentry : s.entry = false) :
    Step s .quiet { s with entry := true, task := some .preparing }
  | exposes {s : Strand} (htask : s.task = some .preparing) :
    Step s .quiet { s with task := some (.answering true), halves := s.halves ++ [.live] }
  | retracts {s : Strand} (htask : s.task = some .preparing) :
    Step s .quiet { s with task := some .removing }
  | removes {s : Strand} (htask : s.task = some .removing) :
    Step s .quiet { s with entry := false, task := some (.answering false) }
  | ignores {s : Strand} (ok : Bool) (htask : s.task = some (.taking ok))
    (hpending : s.pending = false) : Step s .quiet { s with task := none }
  | takes {s : Strand} (ok : Bool) (htask : s.task = some (.taking ok)) (hpending : s.pending = true) :
    Step s .quiet { s with pending := false, task := some (.telling ok) }
  | confirms {s : Strand} {c : Attempt} (htask : s.task = some (.telling true))
    (hcall : s.call = some c) (hrx : c.listening = true) :
    Step s .quiet { s with call := some { c with told := some true }, task := some .inserting }
  | rejects {s : Strand} {c : Attempt} (htask : s.task = some (.telling false))
    (hcall : s.call = some c) (hrx : c.listening = true) :
    Step s .quiet { s with call := some { c with told := some false }, task := none }
  | unheard {s : Strand} {c : Attempt} (ok : Bool) (htask : s.task = some (.telling ok))
    (hcall : s.call = some c) (hrx : c.listening = false) : Step s .quiet { s with task := none }
  | inserts {s : Strand} (htask : s.task = some .inserting) :
    Step s .quiet { s with entry := true, task := none }
  | delivers {s : Strand} (htask : s.task = some .delivering) (hentry : s.entry = true) :
    Step s .quiet { s with task := none }
  | fails {s : Strand} (htask : s.task = some .delivering) (hentry : s.entry = true) :
    Step s .fails { s with entry := false, task := some .refusing }
  | loses {s : Strand} (htask : s.task = some .delivering ∨ s.task = some .ending)
    (hentry : s.entry = false) :
    Step s .quiet { s with task := none, lost := s.lost ++ [s.read.dropLast] }
  | finishes {s : Strand} (htask : s.task = some .ending) (hentry : s.entry = true) :
    Step s .quiet { s with entry := false, task := none }
  | resets {s : Strand} (htask : s.task = some .resetting) :
    Step s .quiet { s with entry := false, task := none }
  | answers {s : Strand} (accepted : Bool) (htask : s.task = some (.answering accepted)) :
    Step s .quiet { s with task := none, sent := s.sent ++ [.answer accepted] }
  | sendsReset {s : Strand} (htask : s.task = some .refusing) :
    Step s .quiet { s with task := none, sent := s.sent ++ [.reset] }
  | writes {s : Strand} (hlive : .live ∈ s.halves) : Step s .quiet { s with sent := s.sent ++ [.data] }
  | ends {s : Strand} (i : Nat) (hi : s.halves[i]? = some .live) :
    Step s .ends { s with halves := s.halves.set i .finished, sent := s.sent ++ [.fin] }
  | drops {s : Strand} (i : Nat) (hi : s.halves[i]? = some .live) :
    Step s .drops { s with halves := s.halves.set i .dropped }
  | forgets {s : Strand} (i : Nat) {state : WriteState} (hi : s.halves[i]? = some state)
    (hstate : state ≠ .live) : Step s .quiet { s with halves := s.halves.set i .dropped }

theorem Step.of_eq {s t t' : Strand} {a : Act} (h : Step s a t) (heq : t' = t) : Step s a t' := by
  rw [heq]
  exact h

theorem Step.same {s t : Strand} (heq : t = s) : Step s .quiet t := .of_eq (.idle s) heq

/-- Nothing has happened yet. -/
def new (call : Option Attempt) : Strand := ⟨call, false, false, none, [], [], [], []⟩

/-- Each end has read what the other has sent, in order. -/
structure Coupled (o t : Strand) : Prop where
  opener : o.read <+: t.sent
  acceptor : t.read <+: o.sent

end Strand

end BuckyP2p.ControlStream
