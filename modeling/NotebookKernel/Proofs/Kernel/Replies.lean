import NotebookKernel.Proofs.Kernel.Use
import NotebookKernel.Rehearsal

/-!
What is replied to everything that is not a cell. A question may come in between cells or
while one runs, and then other code takes it; both give it the same one reply. A request to
shut down is the last that is read, and the dispatcher never outlives the kernel.
-/

namespace NotebookKernel

namespace Message

/-- What is to be replied on the socket that the message has come from, if anything. To a
cell only its end replies. -/
def reply? (message : Message) (socket : Socket) : Option Content :=
  match message.inquiry, socket with
  | .ok .kernelInfo, _ => some .kernelInfoReply
  | .ok (.shutdown restart), _ => some (.shutdownReply restart)
  | .ok .isComplete, .shell => some .isCompleteReply
  | .ok .interrupt, .control => some .interruptReply
  | _, _ => none

/-- The reply with its socket and its parent. -/
def owed : Socket × Message → Option Sent
  | (socket, message) => (message.reply? socket).map (⟨socket, message.id, ·⟩)

theorem owed_single (message : Socket × Message) :
    [message].filterMap owed = (owed message).toList := by
  cases single : owed message <;> simp [single]

/-- Nothing is owed to a message that does not fit its type. -/
theorem owed_unfit {message : Message} {failure : String}
    (unfit : message.inquiry = .error failure) (socket : Socket) :
    owed (socket, message) = none := by
  simp [owed, reply?, unfit]

end Message

/-- A reply, but not to a cell. -/
def Sent.isReply : Sent → Bool
  | ⟨.iopub, _, _⟩ | ⟨_, _, .executeReply _ _⟩ => false
  | _ => true

/-- The message that comes in, with the socket that it comes from. -/
def Event.message? {ε : Type} : Event ε → Option (Socket × Message)
  | .shell message => some (.shell, message)
  | .control message => some (.control, message)
  | .interrupt | .terminate | .start | .wake _ => none

namespace Kernel

variable {τ ε : Type}

/-- The message that a kernel reads now. -/
def reading (k : Kernel τ) (event : Event ε) : List (Socket × Message) :=
  if k.reads event then event.message?.toList else []

theorem reading_stopped {k : Kernel τ} {failure : Option String}
    (stopped : k.activity = .stopped failure) (event : Event ε) : k.reading event = [] := by
  cases event <;> simp [reading, reads, isIdle, stopped]

theorem controlReply_owed {message : Message} {inquiry : Inquiry}
    (asked : message.inquiry = .ok inquiry) :
    (controlReply message inquiry).filter (·.isReply) =
      (Message.owed (.control, message)).toList := by
  cases inquiry <;> simp [controlReply, Message.owed, Message.reply?, asked, Sent.isReply]

/-- While a cell runs, the answer on the control socket is all that is owed. -/
theorem answer_owed {k : Kernel τ} {cell : Cell} {stage : Option Stage}
    (running : k.activity = .running cell stage) (event : Event ε) :
    event.answer.filter (·.isReply) = (k.reading event).filterMap Message.owed := by
  cases event with
  | control message =>
    have read : k.reading (.control message : Event ε) = [(.control, message)] := by
      simp [reading, reads, running, Event.message?]
    rw [read, Message.owed_single, Event.answer]
    cases asked : message.inquiry with
    | error failure =>
      rw [Message.owed_unfit asked]
      rfl
    | ok inquiry => exact controlReply_owed asked
  | shell | terminate => simp [Event.answer, reading, reads, isIdle, running]
  | interrupt | start | wake => simp [Event.answer, reading, Event.message?]

theorem closing_replies (request : String) (shown : List Content) (count : Nat)
    (failure : Option CellError) :
    (closing request shown count failure).filter (·.isReply) = [] := by
  have published : (shown.map (Sent.mk .iopub request)).filter (·.isReply) = [] := by
    simp [List.filter_eq_nil_iff, Sent.isReply]
  rw [closing, List.filter_append, published]
  rfl

variable [Transport τ ε]

/-- The messages that are read as the events come in. What has to wait is not among them. -/
def received (k : Kernel τ) : List (Event ε) → List (Socket × Message)
  | [] => []
  | event :: events => k.reading event ++ received (k.handle event).1 events

/-- What may still be sent once a shutdown is answered: the end of the cell that was
running. -/
def Farewell (k : Kernel τ) (tail : List Sent) : Prop :=
  match k.activity with
  | .running cell _ =>
    ∃ e count, e.name = "Interrupted" ∧ tail = closing cell.request [.error e] count (some e)
  | _ => tail = []

/-- What is not read now changes nothing, so that it can be read later. -/
theorem handle_unread {k : Kernel τ} {event : Event ε} (unread : k.reads event = false) :
    k.handle event = (k, []) := by
  cases activity : k.activity with
  | idle =>
    cases event with
    | shell | control | interrupt | terminate => simp [reads, isIdle, activity] at unread
    | start | wake => simp only [handle, activity]
  | running cell stage =>
    cases event with
    | shell | terminate => simp only [handle, activity]
    | control | interrupt => simp [reads, activity] at unread
    | start =>
      cases stage with
      | none => simp [reads, activity] at unread
      | some stage => simp only [handle, activity]
    | wake heard =>
      cases stage with
      | none => simp only [handle, activity]
      | some stage => simp [reads, activity] at unread
  | stopped failure => exact handle_stopped activity event

theorem received_append (k : Kernel τ) (before after : List (Event ε)) :
    k.received (before ++ after) = k.received before ++ (k.handleAll before).1.received after := by
  induction before generalizing k with
  | nil => rfl
  | cons event before ih =>
    simp only [List.cons_append, received, ih, handleAll, List.append_assoc]

theorem received_stopped {k : Kernel τ} {failure : Option String}
    (stopped : k.activity = .stopped failure) (events : List (Event ε)) :
    k.received events = [] := by
  induction events with
  | nil => rfl
  | cons event events ih =>
    simp only [received, reading_stopped stopped, handle_stopped stopped, ih, List.append_nil]

section Step

variable {k : Kernel τ} {cell : Cell} {stage : Option Stage}

theorem conclude_replies (k : Kernel τ) (cell : Cell) (outcome : Outcome) (goesOn : Bool) :
    (k.conclude cell outcome goesOn).2.filter (·.isReply) = [] := by
  obtain ⟨shown, ends⟩ | ⟨failure, fails⟩ := k.conclude_cases cell outcome goesOn
  · rw [ends, closing_replies]
  · rw [fails]
    rfl

theorem progress_replies (cell : Cell) (came : Dispatcher τ × Step) :
    (progress cell came).2.filter (·.isReply) = [] := by
  obtain ⟨next, step⟩ := came
  cases step with
  | waiting reached => rfl
  | done result => exact conclude_replies _ cell _ true

theorem running_replies (running : k.activity = .running cell stage) (event : Event ε) :
    (k.handle event).2.filter (·.isReply) = (k.reading event).filterMap Message.owed := by
  rw [← answer_owed running]
  have meets := handle_meets running event
  generalize k.handle event = served at meets ⊢
  cases meets with
  | advances silent =>
    rw [silent, progress_replies]
    rfl
  | interrupts =>
    simp only [Prod.map, List.filter_append, conclude_replies, List.append_nil]
  | passes => rfl
  | fails heard unfit =>
    subst heard
    simp only [Event.answer, unfit]

theorem shellMessage_replies (k : Kernel τ) (message : Message) :
    (k.shellMessage message).2.filter (·.isReply) =
      (Message.owed (.shell, message)).toList := by
  unfold shellMessage
  cases asked : message.inquiry with
  | error failure =>
    rw [Message.owed_unfit asked]
    rfl
  | ok inquiry =>
    cases inquiry with
    | execute code silent =>
      cases silent <;> simp [announcement, Message.owed, Message.reply?, asked, Sent.isReply]
    | kernelInfo | isComplete | shutdown | interrupt | unsupported =>
      simp [Message.owed, Message.reply?, asked, Sent.isReply]

theorem controlMessage_replies (k : Kernel τ) (message : Message) :
    (k.controlMessage message).2.filter (·.isReply) =
      (Message.owed (.control, message)).toList := by
  unfold controlMessage
  cases asked : message.inquiry with
  | error failure =>
    rw [Message.owed_unfit asked]
    rfl
  | ok inquiry =>
    rw [← controlReply_owed asked]
    cases inquiry <;> rfl

theorem idle_replies (idle : k.activity = .idle) (event : Event ε) :
    (k.handle event).2.filter (·.isReply) = (k.reading event).filterMap Message.owed := by
  cases event with
  | shell message =>
    simp only [handle, idle, reading, reads, isIdle, Event.message?]
    exact (k.shellMessage_replies message).trans (Message.owed_single _).symm
  | control message =>
    simp only [handle, idle, reading, reads, Event.message?]
    exact (k.controlMessage_replies message).trans (Message.owed_single _).symm
  | terminate | interrupt | start | wake => simp [handle, idle, reading, Event.message?]

/-- Whatever is read now is given all that it is owed, whoever reads it. -/
theorem handle_replies (k : Kernel τ) (event : Event ε) :
    (k.handle event).2.filter (·.isReply) = (k.reading event).filterMap Message.owed := by
  cases activity : k.activity with
  | idle => exact idle_replies activity event
  | running cell stage => exact running_replies activity event
  | stopped failure =>
    rw [handle_stopped activity, reading_stopped activity]
    rfl

/-- A request to shut down is answered at once and stops the kernel. -/
theorem handle_shutdown {event : Event ε} (reads : k.reads event = true) {socket : Socket}
    {message : Message} (heard : event.message? = some (socket, message)) {restart : Bool}
    (asked : message.inquiry = .ok (.shutdown restart)) :
    ∃ last tail,
      k.handle event = (last, ⟨socket, message.id, .shutdownReply restart⟩ :: tail) ∧
      last.activity = .stopped none ∧ k.Farewell tail := by
  cases activity : k.activity with
  | idle =>
    refine ⟨k.stop none, [], ?_, rfl, by simp only [Farewell, activity]⟩
    cases event with
    | shell | control =>
      cases heard
      simp only [handle, activity, shellMessage, controlMessage, controlReply, asked]
    | interrupt | terminate | start | wake => cases heard
  | running cell stage =>
    cases event with
    | control message =>
      cases heard
      have broken : (Event.control message : Event ε).interrupts? = some false := by
        simp only [Event.interrupts?, asked]
      have answer : (Event.control message : Event ε).answer =
          [⟨.control, message.id, .shutdownReply restart⟩] := by
        simp only [Event.answer, asked, controlReply]
      cases cancelled : (k.dispatcher.dropAt stage).cancel with
      | mk after result =>
        rw [handle_interrupts activity broken cancelled, answer]
        refine ⟨_, _, rfl, rfl, ?_⟩
        simp only [Farewell, activity]
        exact ⟨Outcome.interruption (Outcome.loss result), _, rfl, rfl⟩
    | shell => simp [Kernel.reads, isIdle, activity] at reads
    | interrupt | terminate | start | wake => cases heard
  | stopped failure => cases event <;> simp [Kernel.reads, isIdle, activity] at reads

end Step

/-- A kernel that has stopped has no usable dispatcher. -/
def Closed (k : Kernel τ) : Prop :=
  ∀ failure, k.activity = .stopped failure → k.dispatcher.isDefunct

theorem stop_closed (k : Kernel τ) (failure : Option String) : (k.stop failure).Closed := by
  intro _ _
  simp only [stop, Dispatcher.isDefunct, Dispatcher.shutdown]
  cases k.dispatcher.fault <;> rfl

theorem conclude_closed (k : Kernel τ) (cell : Cell) (outcome : Outcome) (goesOn : Bool) :
    (k.conclude cell outcome goesOn).1.Closed := by
  obtain ⟨shown, ends⟩ | ⟨failure, fails⟩ := k.conclude_cases cell outcome goesOn
  · rw [ends]
    cases goesOn with
    | true => exact fun _ stopped => nomatch stopped
    | false => exact k.stop_closed none
  · rw [fails]
    exact k.stop_closed (some failure)

theorem handle_closed {k : Kernel τ} (closed : k.Closed) (event : Event ε) :
    (k.handle event).1.Closed := by
  cases activity : k.activity with
  | idle =>
    have serves := handle_serves activity event
    generalize k.handle event = served at serves ⊢
    cases serves with
    | begins => exact fun _ stopped => nomatch stopped
    | goesOn => exact closed
    | stops failure => exact k.stop_closed failure
  | running cell stage =>
    have meets := handle_meets activity event
    generalize k.handle event = served at meets ⊢
    cases meets with
    | @advances came =>
      obtain ⟨next, step⟩ := came
      cases step with
      | waiting => exact fun _ stopped => nomatch stopped
      | done result => exact conclude_closed _ cell (.finished result) true
    | @interrupts goesOn after result =>
      exact conclude_closed _ cell (.interrupted (Outcome.loss result)) goesOn
    | passes => exact closed
    | @fails _ failure => exact (k.drop stage).stop_closed (some failure)
  | stopped failure =>
    rw [handle_stopped activity]
    exact closed

theorem handleAll_closed {k : Kernel τ} (closed : k.Closed) (events : List (Event ε)) :
    (k.handleAll events).1.Closed := by
  induction events generalizing k with
  | nil => exact closed
  | cons event events ih => exact ih (handle_closed closed event)

theorem handleAll_replies (k : Kernel τ) (events : List (Event ε)) :
    (k.handleAll events).2.filter (·.isReply) = (k.received events).filterMap Message.owed := by
  induction events generalizing k with
  | nil => rfl
  | cons event events ih =>
    simp only [handleAll, received, List.filter_append, List.filterMap_append, handle_replies, ih]

/-- Nothing is read after a request to shut down, and nothing is sent after its answer but
the end of the cell that was running. -/
theorem handleAll_shutdown (k : Kernel τ) (before after : List (Event ε)) {event : Event ε}
    (reads : (k.handleAll before).1.reads event = true) {socket : Socket} {message : Message}
    (heard : event.message? = some (socket, message)) {restart : Bool}
    (asked : message.inquiry = .ok (.shutdown restart)) :
    ∃ last tail,
      k.handleAll (before ++ event :: after) =
        (last, (k.handleAll before).2 ++
          ⟨socket, message.id, .shutdownReply restart⟩ :: tail) ∧
      last.activity = .stopped none ∧ (k.handleAll before).1.Farewell tail ∧
      k.received (before ++ event :: after) = k.received before ++ [(socket, message)] := by
  obtain ⟨last, tail, handles, stopped, farewell⟩ := handle_shutdown reads heard asked
  have read : (k.handleAll before).1.reading event = [(socket, message)] := by
    simp [reading, reads, heard]
  refine ⟨last, tail, ?_, stopped, farewell, ?_⟩
  · simp only [handleAll_append, handleAll, handles, handleAll_stopped stopped, Prod.map,
      List.append_nil, id]
  · simp only [received_append, received, handles, received_stopped stopped, read]
    rfl

/-- In every run of a kernel each message that is read is given the one reply that it is
owed, on the socket it came from and in the order in which they are read, and there are no
other replies. A request to shut down is the last message that is read; after its answer
nothing is sent but the end of the cell that was running. Whenever the kernel has stopped,
its dispatcher is defunct. -/
theorem replies_in_order {k : Kernel τ} (idle : k.activity = .idle) (events : List (Event ε)) :
    (k.handleAll events).2.filter (·.isReply) = (k.received events).filterMap Message.owed ∧
    (∀ before event after socket message restart, events = before ++ event :: after →
      (k.handleAll before).1.reads event = true → event.message? = some (socket, message) →
      message.inquiry = .ok (.shutdown restart) →
      ∃ last tail,
        k.handleAll events =
          (last, (k.handleAll before).2 ++
            ⟨socket, message.id, .shutdownReply restart⟩ :: tail) ∧
        last.activity = .stopped none ∧ (k.handleAll before).1.Farewell tail ∧
        k.received events = k.received before ++ [(socket, message)]) ∧
    ∀ failure, (k.handleAll events).1.activity = .stopped failure →
      (k.handleAll events).1.dispatcher.isDefunct := by
  have closed : k.Closed := fun _ stopped => nomatch idle.symm.trans stopped
  refine ⟨k.handleAll_replies events, ?_, handleAll_closed closed events⟩
  rintro before event after socket message restart rfl reads heard asked
  exact k.handleAll_shutdown before after reads heard asked

/-- A cell hangs while a question is answered and then the shutdown. The question after it
is not read any more. -/
theorem replies_in_order_shutdown :
    let k : Kernel Rehearsal := { dispatcher := { transport := { cues := [.hang] } } }
    let info (id : String) : Message := ⟨id, "kernel_info_request", .obj []⟩
    let cell : Message := ⟨"2", "execute_request",
      .obj [("code", .str "a"), ("silent", .bool false), ("store_history", .bool true)]⟩
    let shutdown : Message := ⟨"4", "shutdown_request", .obj [("restart", .bool true)]⟩
    let events : List (Event Empty) :=
      [.shell (info "1"), .shell cell, .start, .control (info "3"), .control shutdown,
        .control (info "5")]
    k.received events =
        [(.shell, info "1"), (.shell, cell), (.control, info "3"), (.control, shutdown)] ∧
      ∃ e count last,
        k.handleAll events =
          (last, [⟨.iopub, "1", .status true⟩, ⟨.shell, "1", .kernelInfoReply⟩,
            ⟨.iopub, "1", .status false⟩] ++ opening "2" "a" false 1 ++
            [⟨.control, "3", .kernelInfoReply⟩, ⟨.control, "4", .shutdownReply true⟩] ++
            closing "2" [.error e] count (some e)) ∧
        e.name = "Interrupted" ∧ last.dispatcher.isDefunct := by
  intro k info cell shutdown events
  let announced : Kernel Rehearsal := { k with activity := .running ⟨"2", "a", false⟩ none }
  let waiting : Kernel Rehearsal :=
    { dispatcher :=
        { session := { count := 1 }
          transport := { asked := [.evaluate ⟨"a", "", .stable⟩] } }
      activity := .running ⟨"2", "a", false⟩ (some (.calling .evaluate [])) }
  have asked : cell.inquiry = .ok (.execute "a" false) := rfl
  have replies : k.handle (.shell (info "1") : Event Empty) =
      (k, [⟨.iopub, "1", .status true⟩, ⟨.shell, "1", .kernelInfoReply⟩,
        ⟨.iopub, "1", .status false⟩]) := rfl
  have announces : k.handle (.shell cell : Event Empty) =
      (announced, opening "2" "a" false 1) := handle_execute rfl asked
  have starts : announced.handle (.start : Event Empty) = (waiting, []) := rfl
  have answers : waiting.handle (.control (info "3") : Event Empty) =
      (waiting, [⟨.control, "3", .kernelInfoReply⟩]) := rfl
  let before : List (Event Empty) := [.shell (info "1"), .shell cell, .start, .control (info "3")]
  have reaches : k.handleAll before =
      (waiting, [⟨.iopub, "1", .status true⟩, ⟨.shell, "1", .kernelInfoReply⟩,
        ⟨.iopub, "1", .status false⟩] ++
        (opening "2" "a" false 1 ++ [⟨.control, "3", .kernelInfoReply⟩])) := by
    simp only [before, handleAll, replies, announces, starts, answers]
    rfl
  have received : k.received before =
      [(.shell, info "1"), (.shell, cell), (.control, info "3")] := by
    simp only [before, Kernel.received, replies, announces, starts]
    rfl
  have idle : k.activity = .idle := rfl
  obtain ⟨-, stops, closed⟩ := replies_in_order idle events
  obtain ⟨last, tail, handles, stopped, farewell, read⟩ :=
    stops before (.control shutdown) [.control (info "5")] .control shutdown true rfl
      (by rw [reaches]; rfl) rfl rfl
  rw [reaches] at handles farewell
  obtain ⟨e, count, interrupted, rfl⟩ := farewell
  rw [handles] at closed
  rw [received] at read
  exact ⟨read, e, count, last, handles, interrupted, closed none stopped⟩

end Kernel

end NotebookKernel
