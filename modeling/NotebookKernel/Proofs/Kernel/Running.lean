import NotebookKernel.Kernel
import NotebookKernel.Proofs.Dispatcher.History

/-!
A running cell, event by event. Whatever comes in is answered on the control socket,
brings the cell on, ends it, or is left for later; what the cell has come to is what the
dispatcher makes of the things it hears.
-/

namespace NotebookKernel

def Step.result? : Step → Option (Except DispatchError Dispatched)
  | .waiting _ => none
  | .done result => some result

/-- An interrupted cell has none. -/
def Outcome.result? : Outcome → Option (Except DispatchError Dispatched)
  | .finished result => some result
  | .interrupted _ => none

namespace Event

variable {ε : Type}

/-- The answer on the control socket. -/
def answer : Event ε → List Sent
  | .control message =>
    match message.inquiry with
    | .ok inquiry => Kernel.controlReply message inquiry
    | .error _ => []
  | _ => []

/-- A control message has a content that fits its type. -/
def Readable : Event ε → Prop
  | .control message => ∃ inquiry, message.inquiry = .ok inquiry
  | _ => True

def heard? : Event ε → Option ε
  | .wake heard => some heard
  | _ => none

end Event

namespace Dispatcher

variable {τ ε : Type} [Transport τ ε]

/-- How a cell that has come to this stage finishes, if it does. Before its start it
hears nothing. -/
def finish (d : Dispatcher τ) (cell : Cell) :
    Option Stage → List (Event ε) → Option (Except DispatchError Dispatched)
  | some stage, events => (d.resumeAll stage (events.filterMap Event.heard?)).2.result?
  | none, [] => none
  | none, .start :: events =>
    (d.dispatch cell.code cell.silent (events.filterMap Event.heard?)).2.result?
  | none, _ :: events => finish d cell none events

/-- Nothing comes of an event that the cell does not hear and that does not start it. -/
theorem finish_unheard (d : Dispatcher τ) (cell : Cell) {stage : Option Stage} {event : Event ε}
    (unheard : event.heard? = none) (passed : event ≠ .start ∨ stage.isSome)
    (events : List (Event ε)) :
    d.finish cell stage (event :: events) = d.finish cell stage events := by
  cases stage with
  | none =>
    cases event with
    | start => exact absurd passed nofun
    | shell | control | interrupt | terminate | wake => rfl
  | some stage => simp only [finish, List.filterMap_cons, unheard]

theorem finish_nil (d : Dispatcher τ) (cell : Cell) (stage : Option Stage) :
    d.finish cell stage ([] : List (Event ε)) = none := by
  cases stage <;> rfl

end Dispatcher

namespace Kernel

variable {τ ε : Type} [Transport τ ε]

def Runs (k : Kernel τ) : Prop := ∃ cell stage, k.activity = .running cell stage

/-- A running kernel hears all this, and just then its cell is over. -/
inductive Ends : Kernel τ → List (Event ε) → Prop
  | ended {k : Kernel τ} (idle : ¬ k.Runs) : Ends k []
  | hears {k : Kernel τ} {event : Event ε} {events : List (Event ε)} (running : k.Runs)
      (rest : Ends (k.handle event).1 events) : Ends k (event :: events)

theorem handleAll_append (k : Kernel τ) (before after : List (Event ε)) :
    k.handleAll (before ++ after) =
      ((k.handleAll before).1.handleAll after).map id ((k.handleAll before).2 ++ ·) := by
  induction before generalizing k with
  | nil => rfl
  | cons event before ih =>
    simp only [List.cons_append, handleAll, ih, Prod.map, List.append_assoc]

theorem handle_stopped {k : Kernel τ} {failure : Option String}
    (stopped : k.activity = .stopped failure) (event : Event ε) : k.handle event = (k, []) := by
  simp only [handle, stopped]

theorem handleAll_stopped {k : Kernel τ} {failure : Option String}
    (stopped : k.activity = .stopped failure) (events : List (Event ε)) :
    k.handleAll events = (k, []) := by
  induction events with
  | nil => rfl
  | cons event events ih => simp only [handleAll, handle_stopped stopped, ih, List.append_nil]

theorem conclude_over (k : Kernel τ) (cell : Cell) (outcome : Outcome) (goesOn : Bool) :
    ¬ (k.conclude cell outcome goesOn).1.Runs := by
  rintro ⟨cell', stage, running⟩
  unfold conclude at running
  split at running
  · cases running
  · cases goesOn <;> cases running

/-- What a running cell makes of an event: it goes on, or it ends with the outcome that
the dispatcher gives it. -/
inductive Ran (d : Dispatcher τ) (cell : Cell) (stage : Option Stage) (event : Event ε) :
    Kernel τ × List Sent → Prop
  | goesOn (next : Dispatcher τ) (reached : Option Stage)
      (same : ∀ events, d.finish cell stage (event :: events) = next.finish cell reached events) :
      Ran d cell stage event
        ({ dispatcher := next, activity := .running cell reached }, event.answer)
  | ends (k : Kernel τ) (outcome : Outcome) (goesOn : Bool)
      (same : d.finish cell stage [event] = outcome.result?) :
      Ran d cell stage event ((k.conclude cell outcome goesOn).map id (event.answer ++ ·))

theorem interruptCell_concludes (k : Kernel τ) (cell : Cell) (stage : Option Stage)
    (goesOn : Bool) :
    ∃ left loss, k.interruptCell cell stage goesOn =
      conclude left cell (.interrupted loss) goesOn := by
  simp only [interruptCell]
  split
  · exact ⟨_, none, rfl⟩
  · exact ⟨_, some _, rfl⟩

section Cases

variable {d : Dispatcher τ} {cell : Cell} {stage : Option Stage} {event : Event ε}

theorem unheard_ran (unheard : event.heard? = none) (passed : event ≠ .start ∨ stage.isSome) :
    Ran d cell stage event
      ({ dispatcher := d, activity := .running cell stage }, event.answer) :=
  .goesOn d stage (d.finish_unheard cell unheard passed)

/-- An interrupt leaves no result. -/
theorem interrupted_ran (k : Kernel τ) (unheard : event.heard? = none)
    (passed : event ≠ .start ∨ stage.isSome) (goesOn : Bool) :
    Ran d cell stage event
      ((k.interruptCell cell stage goesOn).map id (event.answer ++ ·)) := by
  obtain ⟨left, loss, concludes⟩ := k.interruptCell_concludes cell stage goesOn
  rw [concludes]
  apply Ran.ends
  rw [d.finish_unheard cell unheard passed, d.finish_nil]
  rfl

theorem control_ran {message : Message} {inquiry : Inquiry}
    (asked : message.inquiry = .ok inquiry) :
    Ran d cell stage (.control message)
      (controlDuring { dispatcher := d, activity := .running cell stage } cell stage message) := by
  have unheard : (Event.control message : Event ε).heard? = none := rfl
  have passed : (Event.control message : Event ε) ≠ .start ∨ stage.isSome := .inl nofun
  have answer : (Event.control message : Event ε).answer = controlReply message inquiry := by
    simp only [Event.answer, asked]
  simp only [controlDuring, asked, ← answer]
  cases inquiry with
  | interrupt => exact interrupted_ran _ unheard passed true
  | shutdown restart => exact interrupted_ran _ unheard passed false
  | execute | kernelInfo | isComplete | unsupported => exact unheard_ran unheard passed

theorem start_ran : Ran d cell none (.start : Event ε)
    (progress cell (d.submit cell.code cell.silent)) := by
  cases submitted : d.submit cell.code cell.silent with
  | mk next step =>
    cases step with
    | waiting reached =>
      apply Ran.goesOn
      intro events
      simp only [Dispatcher.finish, Dispatcher.dispatch_waiting submitted]
    | done result =>
      apply Ran.ends _ (.finished result) true
      simp only [Dispatcher.finish, Dispatcher.dispatch_done submitted]
      rfl

theorem wake_ran {stage : Stage} (heard : ε) :
    Ran d cell (some stage) (.wake heard) (progress cell (d.resume stage heard)) := by
  have hears (events : List (Event ε)) :
      (Event.wake heard :: events).filterMap Event.heard? =
        heard :: events.filterMap Event.heard? := rfl
  cases resumed : d.resume stage heard with
  | mk next step =>
    cases step with
    | waiting reached =>
      apply Ran.goesOn
      intro events
      simp only [Dispatcher.finish, hears, Dispatcher.resumeAll_waiting resumed]
    | done result =>
      apply Ran.ends _ (.finished result) true
      simp only [Dispatcher.finish, hears, Dispatcher.resumeAll_done resumed]
      rfl

end Cases

theorem handle_ran {k : Kernel τ} {cell : Cell} {stage : Option Stage}
    (running : k.activity = .running cell stage) {event : Event ε} (readable : event.Readable) :
    Ran k.dispatcher cell stage event (k.handle event) := by
  obtain ⟨d, activity⟩ := k
  cases running
  cases event with
  | shell | terminate => exact unheard_ran rfl (.inl nofun)
  | control message =>
    obtain ⟨inquiry, asked⟩ := readable
    exact control_ran asked
  | interrupt =>
    have passed : (.interrupt : Event ε) ≠ .start ∨ stage.isSome := .inl nofun
    exact interrupted_ran _ rfl passed true
  | start =>
    cases stage with
    | none => exact start_ran
    | some stage => exact unheard_ran rfl (.inr rfl)
  | wake heard =>
    cases stage with
    | none => exact .goesOn d none fun _ => rfl
    | some stage => exact wake_ran heard

end Kernel

end NotebookKernel
