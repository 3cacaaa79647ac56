import NotebookKernel.Dispatcher

/-!
Every use of a dispatcher: cells that finish, fail or are dropped while they wait,
cancellations and shutdowns in any order, over any transport. Only the start of a
cell touches the session, and only while no fault is recorded.
-/

namespace NotebookKernel

/-- A cell as it is submitted. -/
structure Submission where
  code : String
  silent : Bool
  deriving DecidableEq, Repr

def Submission.directive (cell : Submission) : Directive :=
  Directive.classify cell.code cell.silent

/-- Where the user of a dispatcher stands. -/
inductive Position where
  | free
  | waiting (stage : Stage)
  /-- A waiting cell was dropped, which the dispatcher is yet to be told. -/
  | dropped

theorem Position.free_able (stage : Stage) : Position.free ≠ .waiting stage := nofun

theorem Position.dropped_able (stage : Stage) : Position.dropped ≠ .waiting stage := nofun

/-- A dispatcher in use. Cells are `live` that began while no fault was recorded. -/
structure History (τ : Type) where
  dispatcher : Dispatcher τ
  position : Position := .free
  live : List Submission := []
  returned : List (Except DispatchError Dispatched) := []

namespace Dispatcher

variable {τ ε : Type} [Transport τ ε]

/-- A failure is recorded before the end of the interpreter is waited for. -/
theorem settle_failure (d : Dispatcher τ) (action : Action) (unanswered : List DisplayEvent)
    (failure : TransportError) :
    d.settle action unanswered (.error failure) =
        ((d.fail failure).1, .done (.error (.transport failure))) ∨
      d.settle action unanswered (.error failure) =
        ((d.fail failure).1, .waiting (.closing failure)) := by
  simp only [settle]
  rcases d.fail failure with ⟨d, _ | ⟨⟩⟩
  · exact .inr rfl
  · exact .inl rfl

/-- An answer leaves the dispatcher as it is, or it is a failure. -/
theorem settle_cases (d : Dispatcher τ) (action : Action) (events : List DisplayEvent)
    (answer : Answer) :
    (d.settle action events answer).1 = d ∨
      ∃ failure, (d.settle action events answer).1 = (d.fail failure).1 := by
  match answer with
  | .ok (some _) | .ok none => exact .inl rfl
  | .error failure =>
    rcases d.settle_failure action events failure with settled | settled <;>
      exact .inr ⟨failure, by rw [settled]⟩

/-- What a call comes to changes nothing but the transport, unless it is a failure. -/
theorem progress_cases (d : Dispatcher τ) (action : Action) (events : List DisplayEvent)
    (came : τ × Progress Answer) :
    (d.progress action events came).1 = { d with transport := came.1 } ∨
      ∃ failure, (d.progress action events came).1 =
        ({ d with transport := came.1 }.fail failure).1 := by
  obtain ⟨transport, progress⟩ := came
  cases progress with
  | waiting => exact .inl rfl
  | done answer => exact settle_cases { d with transport } action events answer

theorem progress_session (d : Dispatcher τ) (action : Action) (unanswered : List DisplayEvent)
    (came : τ × Progress Answer) : (d.progress action unanswered came).1.session = d.session := by
  rcases d.progress_cases action unanswered came with left | ⟨failure, left⟩
  · rw [left]
  · rw [left]
    rfl

/-- A cell of a usable dispatcher changes the session as its directive says; then it
is finished or makes its only call. -/
theorem submit_usable (d : Dispatcher τ) (cell : String) (silent : Bool)
    (usable : d.fault = none) :
    ∃ noted : Dispatcher τ,
      noted = { d with session := note d.session cell (Directive.classify cell silent) } ∧
      (d.submit cell silent = (noted, .done (.ok (noted.dispatched .accumulate []))) ∨
        ∃ action unanswered c, d.submit cell silent = noted.call action unanswered c) := by
  refine ⟨_, rfl, ?_⟩
  simp only [submit, usable]
  cases Directive.classify cell silent with
  | accumulate => exact .inl rfl
  | addDependency | setToolchain | evaluate => exact .inr ⟨_, _, _, rfl⟩

theorem submit_defunct (d : Dispatcher τ) (cell : String) (silent : Bool) {reason : String}
    (fault : d.fault = some reason) :
    d.submit cell silent = (d, .done (.error (.defunct reason))) := by
  simp only [submit, fault]

/-- Nothing but the directive of a cell changes the session. -/
theorem submit_session (d : Dispatcher τ) (cell : String) (silent : Bool) :
    (d.submit cell silent).1.session =
      if d.isDefunct then d.session else note d.session cell (Directive.classify cell silent) := by
  cases fault : d.fault with
  | some reason =>
    rw [submit_defunct d cell silent fault, isDefunct, fault]
    rfl
  | none =>
    obtain ⟨noted, rfl, finished | ⟨action, unanswered, c, calls⟩⟩ :=
      submit_usable d cell silent fault
    · rw [finished, isDefunct, fault]
      rfl
    · rw [calls, call, progress_session, isDefunct, fault]
      rfl

theorem resume_session (d : Dispatcher τ) (stage : Stage) (heard : ε) :
    (d.resume stage heard).1.session = d.session := by
  cases stage with
  | calling action unanswered => exact progress_session d action unanswered _
  | closing failure => rfl

theorem abandon_session (d : Dispatcher τ) (stage : Stage) :
    (d.abandon stage).session = d.session := by
  cases stage <;> rfl

theorem resumeAll_waiting {d next : Dispatcher τ} {stage later : Stage} {heard : ε}
    (waits : d.resume stage heard = (next, .waiting later)) (rest : List ε) :
    d.resumeAll stage (heard :: rest) = next.resumeAll later rest := by
  simp only [resumeAll, waits]

theorem resumeAll_done {d next : Dispatcher τ} {stage : Stage} {heard : ε}
    {result : Except DispatchError Dispatched} (finished : d.resume stage heard = (next, .done result))
    (rest : List ε) : d.resumeAll stage (heard :: rest) = (next, .done result) := by
  simp only [resumeAll, finished]

theorem dispatch_waiting {d next : Dispatcher τ} {cell : String} {silent : Bool} {stage : Stage}
    (waits : d.submit cell silent = (next, .waiting stage)) (heard : List ε) :
    d.dispatch cell silent heard = next.resumeAll stage heard := by
  simp only [dispatch, waits]

theorem dispatch_done {d next : Dispatcher τ} {cell : String} {silent : Bool}
    {result : Except DispatchError Dispatched} (finished : d.submit cell silent = (next, .done result))
    (heard : List ε) : d.dispatch cell silent heard = (next, .done result) := by
  simp only [dispatch, finished]

section Keeps

variable {P : Dispatcher τ × NotebookKernel.Step → Prop}
  (resume : ∀ (d : Dispatcher τ) stage (heard : ε), P (d, .waiting stage) →
    P (d.resume stage heard))

include resume

theorem resumeAll_keeps {d : Dispatcher τ} {stage : Stage} (now : P (d, .waiting stage))
    (heard : List ε) : P (d.resumeAll stage heard) := by
  induction heard generalizing d stage with
  | nil => exact now
  | cons first rest ih =>
    have woken := resume d stage first now
    rcases came : d.resume stage first with ⟨next, later | result⟩
    · rw [came] at woken
      rw [resumeAll_waiting came]
      exact ih woken
    · rw [came] at woken
      rwa [resumeAll_done came]

/-- What holds of the start of a cell, and goes on to hold whatever is heard, holds in the end. -/
theorem dispatch_keeps {d : Dispatcher τ} {cell : String} {silent : Bool}
    (submit : P (d.submit cell silent)) (heard : List ε) : P (d.dispatch cell silent heard) := by
  rcases came : d.submit cell silent with ⟨next, stage | result⟩
  · rw [came] at submit
    rw [dispatch_waiting came]
    exact resumeAll_keeps resume submit heard
  · rw [came] at submit
    rwa [dispatch_done came]

end Keeps

theorem dispatch_defunct (d : Dispatcher τ) (cell : String) (silent : Bool) {reason : String}
    (fault : d.fault = some reason) (heard : List ε) :
    d.dispatch cell silent heard = (d, .done (.error (.defunct reason))) :=
  dispatch_done (d.submit_defunct cell silent fault) heard

/-- A cancellation fails just with the failure that it records. -/
theorem cancel_cases (d : Dispatcher τ) :
    (d.cancel.2 = .ok () ∧ d.cancel.1 = { d with transport := (Transport.cancel d.transport).1 }) ∨
      ∃ failure, d.cancel.2 = .error (.transport failure) ∧
        d.cancel.1 = ({ d with transport := (Transport.cancel d.transport).1 }.fail failure).1 := by
  unfold cancel
  split
  · rename_i transport cancelled
    exact .inl ⟨rfl, by rw [cancelled]⟩
  · rename_i transport failure cancelled
    exact .inr ⟨failure, rfl, by rw [cancelled]⟩

theorem cancel_session (d : Dispatcher τ) : d.cancel.1.session = d.session := by
  obtain ⟨-, left⟩ | ⟨failure, -, left⟩ := d.cancel_cases
  · rw [left]
  · rw [left]
    rfl

end Dispatcher

namespace History

variable {τ ε : Type}

/-- The running cell has come to this. -/
def proceed (s : History τ) : Dispatcher τ × NotebookKernel.Step → History τ
  | (dispatcher, .waiting stage) => { s with dispatcher, position := .waiting stage }
  | (dispatcher, .done result) =>
    { s with dispatcher, position := .free, returned := s.returned ++ [result] }

def enter (s : History τ) (cell : Submission) : History τ :=
  if s.dispatcher.isDefunct then s else { s with live := s.live ++ [cell] }

/-- A waiting cell hears things or is dropped; otherwise the dispatcher is free for
the next operation. -/
inductive Step [Transport τ ε] : History τ → History τ → Prop
  | submit (s : History τ) (cell : Submission) (free : s.position = .free) :
      Step s ((s.enter cell).proceed (s.dispatcher.submit cell.code cell.silent))
  | wake (s : History τ) (stage : Stage) (heard : ε) (waits : s.position = .waiting stage) :
      Step s (s.proceed (s.dispatcher.resume stage heard))
  | drop (s : History τ) (stage : Stage) (waits : s.position = .waiting stage) :
      Step s { s with dispatcher := s.dispatcher.abandon stage, position := .dropped }
  | cancel (s : History τ) (able : ∀ stage, s.position ≠ .waiting stage) :
      Step s { s with dispatcher := s.dispatcher.cancel.1, position := .free }
  | shutdown (s : History τ) (able : ∀ stage, s.position ≠ .waiting stage) :
      Step s { s with dispatcher := s.dispatcher.shutdown, position := .free }

inductive Reachable [Transport τ ε] (d : Dispatcher τ) : History τ → Prop
  | start : Reachable d { dispatcher := d }
  | step {s t : History τ} : Reachable d s → Step s t → Reachable d t

theorem proceed_dispatcher (s : History τ) (came : Dispatcher τ × NotebookKernel.Step) :
    (s.proceed came).dispatcher = came.1 := by
  obtain ⟨dispatcher, step⟩ := came
  cases step <;> rfl

theorem proceed_live (s : History τ) (came : Dispatcher τ × NotebookKernel.Step) :
    (s.proceed came).live = s.live := by
  obtain ⟨dispatcher, step⟩ := came
  cases step <;> rfl

end History

end NotebookKernel
