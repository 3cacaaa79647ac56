import NotebookKernel.Proofs.Kernel.Course

/-!
A kernel is one user of its dispatcher: whatever it hears comes down to a few steps of a
history. What holds of a dispatcher after any history so holds of it in any kernel.
-/

namespace NotebookKernel

namespace Event

/-- The cell that is asked for. -/
def cell? {ε : Type} : Event ε → Option Cell
  | .shell message =>
    match message.inquiry with
    | .ok (.execute code silent) => some ⟨message.id, code, silent⟩
    | _ => none
  | _ => none

end Event

/-- The request that a cell is replied to for, and the number in the reply. -/
def Sent.cellReply? : Sent → Option (String × Nat)
  | ⟨.shell, request, .executeReply count _⟩ => some (request, count)
  | _ => none

def Step.position : Step → Position
  | .waiting stage => .waiting stage
  | .done _ => .free

namespace History

variable {τ ε : Type} [Transport τ ε]

/-- Some history from `d` on has come to this dispatcher and position. -/
def Leads (d next : Dispatcher τ) (position : Position) : Prop :=
  ∃ s : History τ, Reachable d s ∧ s.dispatcher = next ∧ s.position = position

namespace Leads

variable {d next : Dispatcher τ}

theorem start (d : Dispatcher τ) : Leads d d .free := ⟨_, .start, rfl, rfl⟩

theorem proceed {s : History τ} {came : Dispatcher τ × NotebookKernel.Step}
    (reachable : Reachable d (s.proceed came)) : Leads d came.1 came.2.position := by
  obtain ⟨dispatcher, step⟩ := came
  cases step <;> exact ⟨_, reachable, rfl, rfl⟩

theorem submit (h : Leads d next .free) (code : String) (silent : Bool) :
    Leads d (next.submit code silent).1 (next.submit code silent).2.position := by
  obtain ⟨s, reachable, rfl, free⟩ := h
  exact proceed (reachable.step (.submit s ⟨code, silent⟩ free))

theorem resume {stage : Stage} (h : Leads d next (.waiting stage)) (heard : ε) :
    Leads d (next.resume stage heard).1 (next.resume stage heard).2.position := by
  obtain ⟨s, reachable, rfl, waits⟩ := h
  exact proceed (reachable.step (.wake s stage heard waits))

theorem cancel {position : Position} (h : Leads d next position)
    (able : ∀ stage, position ≠ .waiting stage) : Leads d next.cancel.1 .free := by
  obtain ⟨s, reachable, rfl, rfl⟩ := h
  exact ⟨_, reachable.step (.cancel s able), rfl, rfl⟩

theorem shutdown {position : Position} (h : Leads d next position)
    (able : ∀ stage, position ≠ .waiting stage) : Leads d next.shutdown .free := by
  obtain ⟨s, reachable, rfl, rfl⟩ := h
  exact ⟨_, reachable.step (.shutdown s able), rfl, rfl⟩

/-- Before its start there is no cell to drop. -/
def positionAt : Option Stage → Position
  | none => .free
  | some stage => .waiting stage

theorem dropAt {stage : Option Stage} (h : Leads d next (positionAt stage)) :
    ∃ position, Leads d (next.dropAt stage) position ∧ ∀ stage, position ≠ .waiting stage := by
  cases stage with
  | none => exact ⟨.free, h, Position.free_able⟩
  | some stage =>
    obtain ⟨s, reachable, rfl, waits⟩ := h
    exact ⟨.dropped, ⟨_, reachable.step (.drop s stage waits), rfl, rfl⟩, Position.dropped_able⟩

theorem advance {cell : Cell} {stage : Option Stage} (h : Leads d next (positionAt stage))
    {event : Event ε} {came : Dispatcher τ × NotebookKernel.Step}
    (moved : next.advance cell stage event = some came) : Leads d came.1 came.2.position := by
  obtain ⟨rfl, -, rfl⟩ | ⟨reached, heard, rfl, -, rfl⟩ := Dispatcher.advance_cases moved
  · exact h.submit cell.code cell.silent
  · exact h.resume heard

end Leads

end History

namespace Kernel

open History

variable {τ ε : Type} [Transport τ ε] {d : Dispatcher τ}

/-- Where the kernel stands as the user of its dispatcher. -/
def position (k : Kernel τ) : Position :=
  match k.activity with
  | .running _ stage => Leads.positionAt stage
  | _ => .free

def Follows (d : Dispatcher τ) (k : Kernel τ) : Prop := Leads d k.dispatcher k.position

theorem stop_follows {k : Kernel τ} {position : Position} (h : Leads d k.dispatcher position)
    (able : ∀ stage, position ≠ .waiting stage) (failure : Option String) :
    Follows d (k.stop failure) :=
  h.shutdown able

theorem conclude_follows {after : Dispatcher τ} (h : Leads d after .free) (cell : Cell)
    (outcome : Outcome) (goesOn : Bool) :
    Follows d (conclude { dispatcher := after } cell outcome goesOn).1 := by
  obtain ⟨shown, ends⟩ | ⟨failure, fails⟩ :=
    conclude_cases { dispatcher := after } cell outcome goesOn
  · rw [ends]
    cases goesOn with
    | true => exact h
    | false => exact stop_follows h Position.free_able none
  · rw [fails]
    exact stop_follows h Position.free_able (some failure)

/-- All that an event may come to between cells. No cell is replied to then. -/
inductive Serves (k : Kernel τ) (event : Event ε) : Kernel τ × List Sent → Prop
  | begins {cell : Cell} (asked : event.cell? = some cell) :
      Serves k event ({ k with activity := .running cell none }, k.announcement cell)
  | goesOn {sent : List Sent} (other : event.cell? = none)
      (unanswered : sent.filterMap Sent.cellReply? = []) : Serves k event (k, sent)
  | stops {sent : List Sent} (failure : Option String) (other : event.cell? = none)
      (unanswered : sent.filterMap Sent.cellReply? = []) :
      Serves k event (k.stop failure, sent)

theorem shellMessage_serves (k : Kernel τ) (message : Message) :
    Serves k (.shell message : Event ε) (k.shellMessage message) := by
  have asked : (Event.shell message : Event ε).cell? = match message.inquiry with
    | .ok (.execute code silent) => some ⟨message.id, code, silent⟩
    | _ => none := rfl
  unfold shellMessage
  cases inquired : message.inquiry with
  | error failure => exact .stops _ (by rw [asked, inquired]) rfl
  | ok inquiry =>
    rw [inquired] at asked
    cases inquiry with
    | execute code silent => exact .begins asked
    | shutdown restart => exact .stops none asked rfl
    | kernelInfo | isComplete | interrupt | unsupported => exact .goesOn asked rfl

theorem controlMessage_serves (k : Kernel τ) (message : Message) :
    Serves k (.control message : Event ε) (k.controlMessage message) := by
  unfold controlMessage
  cases message.inquiry with
  | error failure => exact .stops _ rfl rfl
  | ok inquiry =>
    cases inquiry with
    | shutdown restart => exact .stops none rfl rfl
    | execute | kernelInfo | isComplete | interrupt | unsupported => exact .goesOn rfl rfl

theorem handle_serves {k : Kernel τ} (idle : k.activity = .idle) (event : Event ε) :
    Serves k event (k.handle event) := by
  cases event with
  | shell message =>
    simp only [handle, idle]
    exact k.shellMessage_serves message
  | control message =>
    simp only [handle, idle]
    exact k.controlMessage_serves message
  | terminate =>
    simp only [handle, idle]
    exact .stops none rfl rfl
  | interrupt | start | wake =>
    simp only [handle, idle]
    exact .goesOn rfl rfl

theorem idle_follows {k : Kernel τ} (h : Follows d k) (idle : k.activity = .idle)
    (event : Event ε) : Follows d (k.handle event).1 := by
  have free : Leads d k.dispatcher .free := by
    simpa only [Follows, position, idle] using h
  have serves := handle_serves idle event
  generalize k.handle event = served at serves ⊢
  cases serves with
  | begins => exact free
  | goesOn => exact h
  | stops => exact stop_follows free Position.free_able _

theorem running_follows {k : Kernel τ} (h : Follows d k) {cell : Cell} {stage : Option Stage}
    (running : k.activity = .running cell stage) (event : Event ε) :
    Follows d (k.handle event).1 := by
  have at_ : Leads d k.dispatcher (Leads.positionAt stage) := by
    simpa only [Follows, position, running] using h
  obtain ⟨position, dropped, able⟩ := at_.dropAt
  have meets := handle_meets running event
  generalize k.handle event = served at meets ⊢
  cases meets with
  | @advances came _ moved =>
    have led := at_.advance moved
    obtain ⟨next, step⟩ := came
    cases step with
    | waiting reached => exact led
    | done result => exact conclude_follows led cell (.finished result) true
  | @interrupts goesOn after result _ cancelled =>
    have led := dropped.cancel able
    rw [cancelled] at led
    exact conclude_follows led cell (.interrupted (Outcome.loss result)) goesOn
  | passes => exact h
  | fails => exact stop_follows (k.drop_dispatcher stage ▸ dropped) able _

/-- Whatever a kernel hears, its dispatcher has gone through a history. -/
theorem handle_follows {k : Kernel τ} (h : Follows d k) (event : Event ε) :
    Follows d (k.handle event).1 := by
  cases activity : k.activity with
  | idle => exact idle_follows h activity event
  | running cell stage => exact running_follows h activity event
  | stopped failure =>
    rw [handle_stopped activity]
    exact h

/-- A cell that is running waits at a stage that its dispatcher can have come to. -/
theorem Follows.sound {k : Kernel τ} (h : Follows d k) {cell : Cell} {stage : Option Stage}
    (running : k.activity = .running cell stage) :
    ∀ reached, stage = some reached → (Step.waiting reached).Sound k.dispatcher := by
  rintro reached rfl
  have led : Leads d k.dispatcher (Leads.positionAt (some reached)) := by
    simpa only [Follows, position, running] using h
  obtain ⟨s, reachable, at_, waits⟩ := led
  exact at_ ▸ reachable_sound reachable waits

theorem handleAll_follows {k : Kernel τ} (h : Follows d k) (events : List (Event ε)) :
    Follows d (k.handleAll events).1 := by
  induction events generalizing k with
  | nil => exact h
  | cons event events ih => exact ih (handle_follows h event)

end Kernel

end NotebookKernel
