import NotebookKernel.Proofs.Dispatcher.History
import NotebookKernel.Proofs.Dispatcher.Results
import NotebookKernel.Proofs.Kernel.CellMessages

/-!
The course of a running cell: what brings it on, what passes it by, and what ends it.
Whatever else is asked of the kernel meanwhile, the cell is concluded with the dispatcher
and the outcome that its course leads to.
-/

namespace NotebookKernel

namespace Event

variable {ε : Type}

/-- Whether a running cell ends before its time, and then whether the kernel goes on. -/
def interrupts? : Event ε → Option Bool
  | .interrupt => some true
  | .control message =>
    match message.inquiry with
    | .ok .interrupt => some true
    | .ok (.shutdown _) => some false
    | _ => none
  | _ => none

end Event

namespace Dispatcher

variable {τ ε : Type} [Transport τ ε]

/-- What a cell at this stage makes of an event, if the event concerns it. -/
def advance (d : Dispatcher τ) (cell : Cell) :
    Option Stage → Event ε → Option (Dispatcher τ × Step)
  | none, .start => some (d.submit cell.code cell.silent)
  | some stage, .wake heard => some (d.resume stage heard)
  | _, _ => none

theorem advance_cases {d : Dispatcher τ} {cell : Cell} {stage : Option Stage} {event : Event ε}
    {came : Dispatcher τ × Step} (moved : d.advance cell stage event = some came) :
    (stage = none ∧ event = .start ∧ d.submit cell.code cell.silent = came) ∨
      ∃ reached heard, stage = some reached ∧ event = .wake heard ∧
        d.resume reached heard = came := by
  cases stage with
  | none =>
    cases event with
    | start => exact .inl ⟨rfl, rfl, Option.some.inj moved⟩
    | shell | control | interrupt | terminate | wake => cases moved
  | some reached =>
    cases event with
    | wake heard => exact .inr ⟨reached, heard, rfl, rfl, Option.some.inj moved⟩
    | shell | control | interrupt | terminate | start => cases moved

theorem advance_session {d : Dispatcher τ} {cell : Cell} {stage : Stage} {event : Event ε}
    {came : Dispatcher τ × Step} (moved : d.advance cell (some stage) event = some came) :
    came.1.session = d.session := by
  obtain ⟨⟨⟩, -⟩ | ⟨reached, heard, ⟨⟩, -, rfl⟩ := advance_cases moved
  exact d.resume_session stage heard

theorem advance_sound {d : Dispatcher τ} {cell : Cell} {stage : Option Stage}
    (sound : ∀ reached, stage = some reached → (Step.waiting reached).Sound d) {event : Event ε}
    {came : Dispatcher τ × Step} (moved : d.advance cell stage event = some came) :
    came.2.Sound came.1 := by
  obtain ⟨-, -, rfl⟩ | ⟨reached, heard, at_, -, rfl⟩ := advance_cases moved
  · exact d.submit_sound cell.code cell.silent
  · exact resume_sound (sound reached at_) heard

/-- An event that brings a cell on does not end it before its time. -/
theorem advance_interrupts (d : Dispatcher τ) (cell : Cell) (stage : Option Stage)
    {event : Event ε} {goesOn : Bool} (broken : event.interrupts? = some goesOn) :
    d.advance cell stage event = none := by
  cases event with
  | control | interrupt => cases stage <;> rfl
  | shell | terminate | start | wake => cases broken

theorem finish_passes {d : Dispatcher τ} {cell : Cell} {stage : Option Stage} {event : Event ε}
    (unmoved : d.advance cell stage event = none) (events : List (Event ε)) :
    d.finish cell stage (event :: events) = d.finish cell stage events := by
  cases event with
  | shell | control | interrupt | terminate =>
    refine d.finish_unheard cell rfl (.inl ?_) events
    nofun
  | start =>
    cases stage with
    | none => cases unmoved
    | some stage => exact d.finish_unheard cell rfl (.inr rfl) events
  | wake heard =>
    cases stage with
    | none => rfl
    | some stage => cases unmoved

theorem finish_waits {d next : Dispatcher τ} {cell : Cell} {stage : Option Stage}
    {reached : Stage} {event : Event ε}
    (moved : d.advance cell stage event = some (next, .waiting reached))
    (events : List (Event ε)) :
    d.finish cell stage (event :: events) = next.finish cell (some reached) events := by
  obtain ⟨rfl, rfl, waits⟩ | ⟨before, heard, rfl, rfl, waits⟩ := advance_cases moved
  · simp only [finish, dispatch_waiting waits]
  · simp only [finish, List.filterMap_cons, Event.heard?, resumeAll_waiting waits]

theorem finish_done {d next : Dispatcher τ} {cell : Cell} {stage : Option Stage}
    {event : Event ε} {result : Except DispatchError Dispatched}
    (moved : d.advance cell stage event = some (next, .done result))
    (events : List (Event ε)) : d.finish cell stage (event :: events) = some result := by
  obtain ⟨rfl, rfl, finished⟩ | ⟨before, heard, rfl, rfl, finished⟩ := advance_cases moved
  · simp only [finish, dispatch_done finished, Step.result?]
  · simp only [finish, List.filterMap_cons, Event.heard?, resumeAll_done finished, Step.result?]

/-- What is left of a cell is dropped; before its start that is nothing. -/
def dropAt (d : Dispatcher τ) : Option Stage → Dispatcher τ
  | none => d
  | some stage => d.abandon stage

theorem dropAt_session (d : Dispatcher τ) (stage : Option Stage) :
    (d.dropAt stage).session = d.session := by
  cases stage with
  | none => rfl
  | some stage => exact d.abandon_session stage

theorem dropAt_fault (d : Dispatcher τ) (stage : Option Stage) :
    (d.dropAt stage).fault = d.fault := by
  match stage with
  | none | some (.calling _ _) | some (.closing _) => rfl

end Dispatcher

/-- What a cancellation has cost beside the cell. -/
def Outcome.loss : Except DispatchError Unit → Option DispatchError
  | .ok () => none
  | .error e => some e

/-- From a stage of a cell to its end: what is left of the dispatcher, the outcome, and
whether the kernel goes on. -/
inductive Course {τ ε : Type} [Transport τ ε] (cell : Cell) :
    Dispatcher τ → Option Stage → List (Event ε) → Dispatcher τ → Outcome → Bool → Prop
  | passes {d after : Dispatcher τ} {stage : Option Stage} {event : Event ε}
      {events : List (Event ε)} {outcome : Outcome} {goesOn : Bool}
      (unmoved : d.advance cell stage event = none) (unbroken : event.interrupts? = none)
      (rest : Course cell d stage events after outcome goesOn) :
      Course cell d stage (event :: events) after outcome goesOn
  | waits {d next after : Dispatcher τ} {stage : Option Stage} {reached : Stage} {event : Event ε}
      {events : List (Event ε)} {outcome : Outcome} {goesOn : Bool}
      (moved : d.advance cell stage event = some (next, .waiting reached))
      (rest : Course cell next (some reached) events after outcome goesOn) :
      Course cell d stage (event :: events) after outcome goesOn
  | finishes {d after : Dispatcher τ} {stage : Option Stage} {event : Event ε}
      {result : Except DispatchError Dispatched}
      (moved : d.advance cell stage event = some (after, .done result)) :
      Course cell d stage [event] after (.finished result) true
  | interrupted {d after : Dispatcher τ} {stage : Option Stage} {event : Event ε} {goesOn : Bool}
      {result : Except DispatchError Unit} (broken : event.interrupts? = some goesOn)
      (cancelled : (d.dropAt stage).cancel = (after, result)) :
      Course cell d stage [event] after (.interrupted (Outcome.loss result)) goesOn

namespace Course

variable {τ ε : Type} [Transport τ ε] {cell : Cell} {d after : Dispatcher τ}
  {stage : Option Stage} {events : List (Event ε)} {outcome : Outcome} {goesOn : Bool}

/-- A result is the cell's own, however long the cell has waited for it. -/
theorem sound (course : Course cell d stage events after outcome goesOn)
    (sound : ∀ reached, stage = some reached → (Step.waiting reached).Sound d) :
    ∀ result, outcome = .finished result → (Step.done result).Sound after := by
  induction course with
  | passes _ _ _ ih => exact ih sound
  | waits moved _ ih =>
    apply ih
    rintro _ ⟨⟩
    exact Dispatcher.advance_sound sound moved
  | finishes moved =>
    rintro _ ⟨⟩
    exact Dispatcher.advance_sound sound moved
  | interrupted => exact fun _ finished => nomatch finished

theorem finish_eq (course : Course cell d stage events after outcome goesOn) :
    outcome.result? = d.finish cell stage events := by
  induction course with
  | passes unmoved _ _ ih => rw [ih, Dispatcher.finish_passes unmoved]
  | waits moved _ ih => rw [ih, Dispatcher.finish_waits moved]
  | finishes moved =>
    rw [Dispatcher.finish_done moved]
    rfl
  | @interrupted d _ stage _ _ _ broken _ =>
    rw [Dispatcher.finish_passes (d.advance_interrupts cell stage broken), d.finish_nil]
    rfl

/-- Once the cell has begun nothing touches the session. -/
theorem session_begun {reached : Stage}
    (course : Course cell d (some reached) events after outcome goesOn) :
    after.session = d.session := by
  generalize at_ : some reached = stage at course
  induction course generalizing reached with
  | passes _ _ _ ih => exact ih at_
  | waits moved _ ih =>
    subst at_
    exact (ih rfl).trans (Dispatcher.advance_session moved)
  | finishes moved =>
    subst at_
    exact Dispatcher.advance_session moved
  | @interrupted d after stage event goesOn result _ cancelled =>
    have kept := (d.dropAt stage).cancel_session
    rw [cancelled] at kept
    exact kept.trans (d.dropAt_session stage)

/-- The session is what the cell's start has made of it, if it was started at all. -/
theorem session_unbegun (course : Course cell d none events after outcome goesOn) :
    (.start ∈ events → after.session = (d.submit cell.code cell.silent).1.session) ∧
      (.start ∉ events → after.session = d.session) := by
  generalize at_ : none = stage at course
  induction course with
  | @passes d _ stage event _ _ _ unmoved _ _ ih =>
    have other : event ≠ .start := by
      rintro rfl
      subst at_
      cases unmoved
    simpa only [List.mem_cons, other.symm, false_or] using ih at_
  | waits moved rest _ =>
    subst at_
    obtain ⟨-, rfl, submits⟩ | ⟨_, _, ⟨⟩, -⟩ := Dispatcher.advance_cases moved
    rw [submits]
    exact ⟨fun _ => rest.session_begun, fun unbegun => absurd List.mem_cons_self unbegun⟩
  | finishes moved =>
    subst at_
    obtain ⟨-, rfl, submits⟩ | ⟨_, _, ⟨⟩, -⟩ := Dispatcher.advance_cases moved
    rw [submits]
    exact ⟨fun _ => rfl, fun unbegun => absurd List.mem_cons_self unbegun⟩
  | @interrupted d after stage event _ _ broken cancelled =>
    have kept := (d.dropAt stage).cancel_session
    rw [cancelled, d.dropAt_session] at kept
    refine ⟨fun begun => ?_, fun _ => kept⟩
    rw [← List.mem_singleton.mp begun] at broken
    cases broken

theorem sound_unbegun (course : Course cell d none events after outcome goesOn) :
    ∀ result, outcome = .finished result → (Step.done result).Sound after := by
  refine course.sound fun reached begun => ?_
  cases begun

/-- The reply's count is the session's. -/
theorem count (course : Course cell d none events after outcome goesOn) :
    outcome.count after.session = after.session.count := by
  match outcome with
  | .finished (.ok dispatched) =>
    cases course.sound_unbegun _ rfl
    rfl
  | .finished (.error _) | .interrupted _ => rfl

end Course

namespace Kernel

variable {τ ε : Type} [Transport τ ε]

theorem drop_dispatcher (k : Kernel τ) (stage : Option Stage) :
    (k.drop stage).dispatcher = k.dispatcher.dropAt stage := by
  cases stage <;> rfl

section Handle

variable {k : Kernel τ} {cell : Cell} {stage : Option Stage} {event : Event ε}

theorem handle_advance (running : k.activity = .running cell stage)
    {came : Dispatcher τ × Step} (moved : k.dispatcher.advance cell stage event = some came) :
    k.handle event = progress cell came ∧ event.answer = [] := by
  obtain ⟨d, activity⟩ := k
  cases running
  obtain ⟨rfl, rfl, rfl⟩ | ⟨reached, heard, rfl, rfl, rfl⟩ := Dispatcher.advance_cases moved
  · exact ⟨rfl, rfl⟩
  · exact ⟨rfl, rfl⟩

theorem handle_interrupts (running : k.activity = .running cell stage) {goesOn : Bool}
    (broken : event.interrupts? = some goesOn) {after : Dispatcher τ}
    {result : Except DispatchError Unit}
    (cancelled : (k.dispatcher.dropAt stage).cancel = (after, result)) :
    k.handle event =
      (conclude { dispatcher := after } cell (.interrupted (Outcome.loss result)) goesOn).map id
        (event.answer ++ ·) := by
  obtain ⟨d, activity⟩ := k
  cases running
  have concludes (goesOn : Bool) :
      interruptCell { dispatcher := d, activity := .running cell stage } cell stage goesOn =
        conclude { dispatcher := after } cell (.interrupted (Outcome.loss result)) goesOn := by
    simp only [interruptCell, drop_dispatcher, cancelled]
    cases result <;> rfl
  cases event with
  | interrupt =>
    cases broken
    exact concludes true
  | control message =>
    simp only [Event.interrupts?] at broken
    split at broken <;> cases broken
    all_goals
      rename_i asked
      simp only [handle, controlDuring, asked, concludes, Event.answer]
  | shell | terminate | start | wake => cases broken

theorem handle_passes (running : k.activity = .running cell stage) (readable : event.Readable)
    (unmoved : k.dispatcher.advance cell stage event = none)
    (unbroken : event.interrupts? = none) : k.handle event = (k, event.answer) := by
  obtain ⟨d, activity⟩ := k
  cases running
  cases event with
  | shell | terminate => rfl
  | interrupt => cases unbroken
  | control message =>
    obtain ⟨inquiry, asked⟩ := readable
    simp only [Event.interrupts?, asked] at unbroken
    simp only [handle, controlDuring, asked, Event.answer]
    cases inquiry with
    | interrupt | shutdown => cases unbroken
    | execute | kernelInfo | isComplete | unsupported => rfl
  | start =>
    cases stage with
    | none => cases unmoved
    | some stage => rfl
  | wake heard =>
    cases stage with
    | none => rfl
    | some stage => cases unmoved

/-- All that an event may come to while a cell runs. -/
inductive Meets (k : Kernel τ) (cell : Cell) (stage : Option Stage) (event : Event ε) :
    Kernel τ × List Sent → Prop
  | advances {came : Dispatcher τ × Step} (silent : event.answer = [])
      (moved : k.dispatcher.advance cell stage event = some came) :
      Meets k cell stage event (progress cell came)
  | interrupts {goesOn : Bool} {after : Dispatcher τ} {result : Except DispatchError Unit}
      (broken : event.interrupts? = some goesOn)
      (cancelled : (k.dispatcher.dropAt stage).cancel = (after, result)) :
      Meets k cell stage event
        ((conclude { dispatcher := after } cell (.interrupted (Outcome.loss result)) goesOn).map id
          (event.answer ++ ·))
  | passes (unmoved : k.dispatcher.advance cell stage event = none)
      (unbroken : event.interrupts? = none) : Meets k cell stage event (k, event.answer)
  | fails {message : Message} {failure : String} (heard : event = .control message)
      (unfit : message.inquiry = .error failure) :
      Meets k cell stage event ((k.drop stage).stop (some failure), [])

theorem handle_meets (running : k.activity = .running cell stage) (event : Event ε) :
    Meets k cell stage event (k.handle event) := by
  cases moved : k.dispatcher.advance cell stage event with
  | some came =>
    obtain ⟨handles, silent⟩ := handle_advance running moved
    exact handles ▸ .advances silent moved
  | none =>
    cases broken : event.interrupts? with
    | some goesOn =>
      rw [handle_interrupts running broken rfl]
      exact .interrupts broken rfl
    | none =>
      by_cases readable : event.Readable
      · rw [handle_passes running readable moved broken]
        exact .passes moved broken
      · cases event with
        | control message =>
          cases asked : message.inquiry with
          | ok inquiry => exact absurd ⟨inquiry, asked⟩ readable
          | error failure =>
            have handles : k.handle (.control message : Event ε) =
                ((k.drop stage).stop (some failure), []) := by
              simp only [handle, running, controlDuring, asked]
            exact handles ▸ .fails rfl asked
        | shell | interrupt | terminate | start | wake => exact absurd trivial readable

end Handle

/-- The event that concludes the cell is the last. -/
theorem Ends.concluded {k left : Kernel τ} {event : Event ε} {events : List (Event ε)}
    (rest : Ends (k.handle event).1 events) {cell : Cell} {outcome : Outcome} {goesOn : Bool}
    (concludes : k.handle event =
      (conclude left cell outcome goesOn).map id (event.answer ++ ·)) :
    events = [] ∧ k.handleAll (event :: events) =
      (conclude left cell outcome goesOn).map id ((event :: events).flatMap Event.answer ++ ·) := by
  rw [concludes] at rest
  cases rest with
  | hears running _ => exact absurd running (conclude_over left cell outcome goesOn)
  | ended _ =>
    refine ⟨rfl, ?_⟩
    simp only [handleAll, concludes, List.flatMap_cons, List.flatMap_nil, List.append_nil]

theorem Ends.finished {k : Kernel τ} {cell : Cell} {stage : Option Stage}
    (running : k.activity = .running cell stage) {event : Event ε} {after : Dispatcher τ}
    {result : Except DispatchError Dispatched}
    (moved : k.dispatcher.advance cell stage event = some (after, .done result)) :
    Ends k [event] := by
  refine .hears ⟨cell, stage, running⟩ (.ended ?_)
  rw [(handle_advance running moved).1]
  exact conclude_over _ cell (.finished result) true

theorem Ends.interrupted {k : Kernel τ} {cell : Cell} {stage : Option Stage}
    (running : k.activity = .running cell stage) {event : Event ε} {goesOn : Bool}
    (broken : event.interrupts? = some goesOn) : Ends k [event] := by
  refine .hears ⟨cell, stage, running⟩ (.ended ?_)
  cases cancelled : (k.dispatcher.dropAt stage).cancel with
  | mk after result =>
    rw [handle_interrupts running broken cancelled]
    exact conclude_over { dispatcher := after } cell (.interrupted (Outcome.loss result)) goesOn

/-- Whatever a running kernel hears up to the end of its cell, it answers and then
concludes the cell as its course has led to. -/
theorem Ends.course {k : Kernel τ} {events : List (Event ε)} (ends : Ends k events)
    {cell : Cell} {stage : Option Stage} (running : k.activity = .running cell stage)
    (readable : ∀ event ∈ events, event.Readable) :
    ∃ after outcome goesOn, Course cell k.dispatcher stage events after outcome goesOn ∧
      k.handleAll events =
        (conclude { dispatcher := after } cell outcome goesOn).map id
          (events.flatMap Event.answer ++ ·) := by
  induction ends generalizing stage with
  | ended idle => exact absurd ⟨cell, stage, running⟩ idle
  | @hears k event events _ rest ih =>
    have later : ∀ event ∈ events, event.Readable := fun event later =>
      readable event (by simp [later])
    -- The event brings the cell on, ends it before its time, or passes it by.
    cases moved : k.dispatcher.advance cell stage event with
    | some came =>
      obtain ⟨handles, answer⟩ := handle_advance running moved
      obtain ⟨next, step⟩ := came
      cases step with
      | waiting reached =>
        simp only [progress] at handles
        rw [handles] at ih
        obtain ⟨after, outcome, goesOn, course, concludes⟩ := ih rfl later
        refine ⟨after, outcome, goesOn, .waits moved course, ?_⟩
        simp only [handleAll, handles, concludes, List.flatMap_cons, answer, List.nil_append]
      | done result =>
        have concludes : k.handle event =
            (conclude { dispatcher := next } cell (.finished result) true).map id
              (event.answer ++ ·) := by
          rw [handles, answer]
          rfl
        obtain ⟨rfl, all⟩ := rest.concluded concludes
        exact ⟨_, _, _, .finishes moved, all⟩
    | none =>
      cases broken : event.interrupts? with
      | some goesOn =>
        cases cancelled : (k.dispatcher.dropAt stage).cancel with
        | mk after result =>
          obtain ⟨rfl, all⟩ := rest.concluded (handle_interrupts running broken cancelled)
          exact ⟨_, _, _, .interrupted broken cancelled, all⟩
      | none =>
        have handles := handle_passes running (readable event (by simp)) moved broken
        rw [handles] at ih
        obtain ⟨after, outcome, goesOn, course, concludes⟩ := ih running later
        refine ⟨after, outcome, goesOn, .passes moved broken course, ?_⟩
        simp only [handleAll, handles, concludes, List.flatMap_cons, List.append_assoc]
        rfl

/-- A request to execute is announced. -/
theorem handle_execute {k : Kernel τ} (idle : k.activity = .idle) {message : Message}
    {code : String} {silent : Bool} (asked : message.inquiry = .ok (.execute code silent)) :
    k.handle (.shell message : Event ε) =
      ({ k with activity := .running ⟨message.id, code, silent⟩ none },
        opening message.id code silent (announced k.dispatcher.session code silent)) := by
  simp only [handle, idle, shellMessage, asked]
  rfl

/-- The announced cell is served to its end. -/
theorem handleAll_execute {k : Kernel τ} (idle : k.activity = .idle) {message : Message}
    {code : String} {silent : Bool} (asked : message.inquiry = .ok (.execute code silent))
    {events : List (Event ε)} (ends : Ends (k.handle (.shell message : Event ε)).1 events)
    (readable : ∀ event ∈ events, event.Readable) :
    ∃ after outcome goesOn,
      Course ⟨message.id, code, silent⟩ k.dispatcher none events after outcome goesOn ∧
      k.handleAll (.shell message :: events) =
        (conclude { dispatcher := after } ⟨message.id, code, silent⟩ outcome goesOn).map id
          (opening message.id code silent (announced k.dispatcher.session code silent) ++
            events.flatMap Event.answer ++ ·) := by
  rw [handle_execute idle asked] at ends
  obtain ⟨after, outcome, goesOn, course, concludes⟩ := ends.course rfl readable
  refine ⟨after, outcome, goesOn, course, ?_⟩
  simp only [handleAll, handle_execute idle asked, concludes, List.append_assoc]
  rfl

end Kernel

end NotebookKernel
