import NotebookKernel.Proofs.Kernel.Running
import NotebookKernel.Rehearsal

/-!
Everything that is sent on behalf of one cell, and in which order. The outputs, the reply
and its status are taken from the outcome one by one; they agree however the cell ends.
-/

namespace NotebookKernel

namespace Content

theorem executeReply_status (count : Nat) (failure : Option CellError) :
    (executeReply count failure).toJson.get? "status" = some (.str "error") ↔
      failure.isSome := by
  cases failure with
  | none =>
    refine iff_of_false (fun same => ?_) nofun
    have ok : (executeReply count none).toJson.get? "status" = some (.str "ok") := rfl
    exact absurd (ok.symm.trans same) (by simp)
  | some e => exact iff_of_true rfl rfl

/-- A failed reply says the same as the output. -/
theorem executeReply_entries (count : Nat) (e : CellError) {key : String}
    (named : key ∈ ["ename", "evalue", "traceback"]) :
    ∃ value, (executeReply count (some e)).toJson.get? key = some value ∧
      (error e).toJson.get? key = some value := by
  simp only [List.mem_cons, List.not_mem_nil, or_false] at named
  rcases named with rfl | rfl | rfl <;> exact ⟨_, rfl, rfl⟩

end Content

/-- Every display event suits a notebook. -/
def Dispatched.Suits (dispatched : Dispatched) : Prop :=
  ∀ event ∈ dispatched.events, ∃ accepted, Media.accept event = .ok accepted

namespace Outcome

/-- What a cell shows and what its reply says is wrong, if its dispatch has this result:
the display events, or one error. -/
def Reports (result : Option (Except DispatchError Dispatched)) (shown : List Content)
    (failure : Option CellError) : Prop :=
  match result with
  | some (.ok dispatched) =>
    failure = none ∧
      ∃ accepted, dispatched.events.mapM Media.accept = .ok accepted ∧
        shown = accepted.map .display
  | _ => ∃ e, failure = some e ∧ shown = [.error e]

theorem accepts_all {events : List DisplayEvent}
    (suits : ∀ event ∈ events, ∃ accepted, Media.accept event = .ok accepted) :
    ∃ accepted, events.mapM Media.accept = .ok accepted ∧
      events.mapM (fun event => (Media.accept event).map Content.display) =
        .ok (accepted.map .display) := by
  induction events with
  | nil => exact ⟨[], rfl, rfl⟩
  | cons event events ih =>
    obtain ⟨first, first_eq⟩ := suits event (by simp)
    obtain ⟨rest, rest_eq, shown_eq⟩ := ih fun event later => suits event (by simp [later])
    refine ⟨first :: rest, ?_, ?_⟩
    · rw [List.mapM_cons, first_eq, rest_eq]
      rfl
    · rw [List.mapM_cons, first_eq, shown_eq]
      rfl

theorem shown_reports {outcome : Outcome}
    (suits : ∀ dispatched, outcome.result? = some (.ok dispatched) → dispatched.Suits) :
    ∃ shown, outcome.shown = .ok shown ∧ Reports outcome.result? shown outcome.error := by
  match outcome with
  | .finished (.ok dispatched) =>
    obtain ⟨accepted, accepts, shows⟩ := accepts_all (suits dispatched rfl)
    exact ⟨_, shows, rfl, accepted, accepts, rfl⟩
  | .finished (.error (.transport failure)) => exact ⟨_, rfl, _, rfl, rfl⟩
  | .finished (.error (.defunct reason)) => exact ⟨_, rfl, _, rfl, rfl⟩
  | .interrupted loss => exact ⟨_, rfl, _, rfl, rfl⟩

/-- The error is shown just if the reply has it. -/
theorem Reports.error_mem {result : Option (Except DispatchError Dispatched)}
    {shown : List Content} {failure : Option CellError} (reports : Reports result shown failure)
    (e : CellError) : .error e ∈ shown ↔ failure = some e := by
  unfold Reports at reports
  split at reports
  · obtain ⟨rfl, accepted, -, rfl⟩ := reports
    simp
  · obtain ⟨e', rfl, rfl⟩ := reports
    simp [eq_comm]

end Outcome

namespace Kernel

/-- What is sent for a cell before it begins. -/
def opening (request code : String) (silent : Bool) (count : Nat) : List Sent :=
  ⟨.iopub, request, .status true⟩ ::
    if silent then [] else [⟨.iopub, request, .executeInput code count⟩]

/-- What is sent for a cell in the end. -/
def closing (request : String) (shown : List Content) (count : Nat)
    (failure : Option CellError) : List Sent :=
  shown.map (⟨.iopub, request, ·⟩) ++
    [⟨.shell, request, .executeReply count failure⟩, ⟨.iopub, request, .status false⟩]

theorem opening_parent {request code : String} {silent : Bool} {count : Nat} {sent : Sent}
    (member : sent ∈ opening request code silent count) : sent.parent = request := by
  cases silent with
  | true =>
    rw [List.mem_singleton.mp member]
  | false =>
    rcases List.mem_cons.mp member with rfl | rest
    · rfl
    · rw [List.mem_singleton.mp rest]

theorem closing_parent {request : String} {shown : List Content} {count : Nat}
    {failure : Option CellError} {sent : Sent} (member : sent ∈ closing request shown count failure) :
    sent.parent = request := by
  simp only [closing, List.mem_append, List.mem_map, List.mem_cons, List.not_mem_nil,
    or_false] at member
  rcases member with ⟨_, _, rfl⟩ | rfl | rfl <;> rfl

variable {τ ε : Type}

/-- An answer goes to the control socket on behalf of the message it answers. -/
theorem answer_parent {events : List (Event ε)} {sent : Sent}
    (member : sent ∈ events.flatMap Event.answer) :
    sent.socket = .control ∧ ∃ message, .control message ∈ events ∧ sent.parent = message.id := by
  obtain ⟨event, heard, answered⟩ := List.mem_flatMap.mp member
  cases event with
  | control message =>
    simp only [Event.answer] at answered
    split at answered
    · rename_i inquiry _
      cases inquiry with
      | shutdown | interrupt | kernelInfo =>
        cases List.mem_singleton.mp answered
        exact ⟨rfl, message, heard, rfl⟩
      | execute | isComplete | unsupported => cases answered
    · cases answered
  | shell | interrupt | terminate | start | wake => cases answered

variable [Transport τ ε]

/-- All that the end of a cell can be: the cell is closed, or what it shows makes the kernel
fail. -/
theorem conclude_cases (k : Kernel τ) (cell : Cell) (outcome : Outcome) (goesOn : Bool) :
    (∃ shown, k.conclude cell outcome goesOn =
      (if goesOn then { k with activity := .idle } else k.stop none,
        closing cell.request shown (outcome.count k.dispatcher.session) outcome.error)) ∨
      ∃ failure, k.conclude cell outcome goesOn = (k.stop (some failure), []) := by
  unfold conclude
  cases outcome.shown with
  | error m => exact .inr ⟨m.message, rfl⟩
  | ok shown => exact .inl ⟨shown, rfl⟩

theorem conclude_sent (k : Kernel τ) (cell : Cell) {outcome : Outcome} (goesOn : Bool)
    (suits : ∀ dispatched, outcome.result? = some (.ok dispatched) → dispatched.Suits) :
    ∃ shown count failure, Outcome.Reports outcome.result? shown failure ∧
      (k.conclude cell outcome goesOn).2 = closing cell.request shown count failure := by
  obtain ⟨shown, shows, reports⟩ := Outcome.shown_reports suits
  refine ⟨shown, outcome.count k.dispatcher.session, outcome.error, reports, ?_⟩
  simp only [conclude, shows, closing]

/-- From any moment of a cell on: the answers, then what ends it. -/
theorem running_messages {k : Kernel τ} {events : List (Event ε)} (ends : Ends k events)
    {cell : Cell} {stage : Option Stage} (running : k.activity = .running cell stage)
    (readable : ∀ event ∈ events, event.Readable)
    (suits : ∀ dispatched, k.dispatcher.finish cell stage events = some (.ok dispatched) →
      dispatched.Suits) :
    ∃ shown count failure,
      Outcome.Reports (k.dispatcher.finish cell stage events) shown failure ∧
      (k.handleAll events).2 =
        events.flatMap Event.answer ++ closing cell.request shown count failure := by
  induction ends generalizing stage with
  | ended idle => exact absurd ⟨cell, stage, running⟩ idle
  | @hears k event events _ rest ih =>
    have ran := handle_ran running (readable event (by simp))
    have later : ∀ event ∈ events, event.Readable := fun event later =>
      readable event (by simp [later])
    simp only [handleAll, List.flatMap_cons]
    generalize k.handle event = came at ran rest ih ⊢
    cases ran with
    | goesOn next reached same =>
      rw [same] at suits ⊢
      obtain ⟨shown, count, failure, reports, sends⟩ := ih rfl later suits
      exact ⟨shown, count, failure, reports, by simp only [sends, List.append_assoc]⟩
    | ends left outcome goesOn same =>
      cases rest with
      | hears running _ => exact absurd running (conclude_over left cell outcome goesOn)
      | ended _ =>
        rw [same] at suits ⊢
        obtain ⟨shown, count, failure, reports, sends⟩ := conclude_sent left cell goesOn suits
        exact ⟨shown, count, failure, reports, by simp [handleAll, sends]⟩

theorem error_mem_sent {request code : String} {silent : Bool} {number count : Nat}
    {events : List (Event ε)} {result : Option (Except DispatchError Dispatched)}
    {shown : List Content} {failure : Option CellError}
    (reports : Outcome.Reports result shown failure) (e : CellError) :
    ⟨.iopub, request, .error e⟩ ∈
        opening request code silent number ++ events.flatMap Event.answer ++
          closing request shown count failure ↔
      failure = some e := by
  have unopened : ⟨.iopub, request, .error e⟩ ∉ opening request code silent number := by
    cases silent <;> simp [opening]
  have unanswered : ⟨.iopub, request, .error e⟩ ∉ events.flatMap Event.answer := by
    intro member
    exact absurd (answer_parent member).1 nofun
  simp only [List.mem_append, unopened, unanswered, false_or]
  rw [← reports.error_mem e]
  simp [closing]

theorem filter_parent {request code : String} {silent : Bool} {number count : Nat}
    {events : List (Event ε)} {shown : List Content} {failure : Option CellError}
    (others : ∀ message, .control message ∈ events → message.id ≠ request) :
    (opening request code silent number ++ events.flatMap Event.answer ++
        closing request shown count failure).filter (·.parent = request) =
      opening request code silent number ++ closing request shown count failure := by
  have opened : (opening request code silent number).filter (·.parent = request) =
      opening request code silent number :=
    List.filter_eq_self.mpr fun sent member => decide_eq_true (opening_parent member)
  have closed : (closing request shown count failure).filter (·.parent = request) =
      closing request shown count failure :=
    List.filter_eq_self.mpr fun sent member => decide_eq_true (closing_parent member)
  have answered : (events.flatMap Event.answer).filter (·.parent = request) = [] := by
    apply List.filter_eq_nil_iff.mpr
    intro sent member mine
    obtain ⟨-, message, heard, parent⟩ := answer_parent member
    exact others message heard (parent.symm.trans (of_decide_eq_true mine))
  rw [List.filter_append, List.filter_append, opened, answered, closed, List.append_nil]

/-- All that is sent while a cell is served, whatever its dispatcher was before and
whatever happens meanwhile: on its own behalf nothing but the announcement, the display
events or one error, the reply and the end. -/
theorem cell_messages {k : Kernel τ} (idle : k.activity = .idle) {message : Message}
    {code : String} {silent : Bool} (asked : message.inquiry = .ok (.execute code silent))
    {events : List (Event ε)} (ends : Ends (k.handle (.shell message : Event ε)).1 events)
    (readable : ∀ event ∈ events, event.Readable)
    (suits : ∀ dispatched,
      k.dispatcher.finish ⟨message.id, code, silent⟩ none events = some (.ok dispatched) →
      dispatched.Suits) :
    ∃ shown count failure,
      Outcome.Reports (k.dispatcher.finish ⟨message.id, code, silent⟩ none events) shown failure ∧
      let first := opening message.id code silent (announced k.dispatcher.session code silent)
      let last := closing message.id shown count failure
      let sent := (k.handleAll (.shell message :: events)).2
      let reply := (Content.executeReply count failure).toJson
      sent = first ++ events.flatMap Event.answer ++ last ∧
      (∀ answer ∈ events.flatMap Event.answer, answer.socket = .control ∧
        ∃ request, .control request ∈ events ∧ answer.parent = request.id) ∧
      ((∀ request, .control request ∈ events → request.id ≠ message.id) →
        sent.filter (·.parent = message.id) = first ++ last) ∧
      (reply.get? "status" = some (.str "error") ↔
        ∃ e, ⟨.iopub, message.id, .error e⟩ ∈ sent) ∧
      ∀ e, ⟨.iopub, message.id, .error e⟩ ∈ sent →
        ∀ key ∈ ["ename", "evalue", "traceback"], ∃ value,
          reply.get? key = some value ∧ (Content.error e).toJson.get? key = some value := by
  have begins : k.handle (.shell message : Event ε) =
      ({ k with activity := .running ⟨message.id, code, silent⟩ none },
        opening message.id code silent (announced k.dispatcher.session code silent)) := by
    simp only [handle, idle, shellMessage, asked]
    rfl
  rw [begins] at ends
  obtain ⟨shown, count, failure, reports, sends⟩ := running_messages ends rfl readable suits
  have sent_eq : (k.handleAll (.shell message :: events)).2 =
      opening message.id code silent (announced k.dispatcher.session code silent) ++
        events.flatMap Event.answer ++ closing message.id shown count failure := by
    simp only [handleAll, begins, sends, List.append_assoc]
  refine ⟨shown, count, failure, reports, sent_eq, fun _ => answer_parent, ?_, ?_, ?_⟩
  · intro others
    rw [sent_eq]
    exact filter_parent others
  · rw [sent_eq, Content.executeReply_status, Option.isSome_iff_exists]
    simp only [error_mem_sent reports]
  · intro e published key named
    rw [sent_eq, error_mem_sent reports] at published
    rw [published]
    exact Content.executeReply_entries count e named

/-- An evaluation that hangs is interrupted after a question on the control socket. -/
theorem cell_messages_interrupted :
    let k : Kernel Rehearsal := { dispatcher := { transport := { cues := [.hang] } } }
    let cell : Message := ⟨"1", "execute_request",
      .obj [("code", .str "a"), ("silent", .bool false), ("store_history", .bool true)]⟩
    let events : List (Event Empty) :=
      [.start, .control ⟨"2", "kernel_info_request", .obj []⟩,
        .control ⟨"3", "interrupt_request", .obj []⟩]
    ∃ e count, (k.handleAll (.shell cell :: events)).2 =
      opening "1" "a" false 1 ++
        [⟨.control, "2", .kernelInfoReply⟩, ⟨.control, "3", .interruptReply⟩] ++
        closing "1" [.error e] count (some e) := by
  intro k cell events
  have asked : cell.inquiry = .ok (.execute "a" false) := rfl
  let waiting : Kernel Rehearsal :=
    { dispatcher :=
        { session := { count := 1 }
          transport := { asked := [.evaluate ⟨"a", "", .stable⟩] } }
      activity := .running ⟨"1", "a", false⟩ (some (.calling .evaluate [])) }
  have announces : (k.handle (.shell cell : Event Empty)).1 =
      { k with activity := .running ⟨"1", "a", false⟩ none } := rfl
  have starts : (handle { k with activity := .running ⟨"1", "a", false⟩ none }
      (.start : Event Empty)).1 = waiting := rfl
  have answers : (waiting.handle
      (.control ⟨"2", "kernel_info_request", .obj []⟩ : Event Empty)).1 = waiting := rfl
  have ended : (waiting.handle
      (.control ⟨"3", "interrupt_request", .obj []⟩ : Event Empty)).1.activity = .idle := rfl
  have ends : Ends (k.handle (.shell cell : Event Empty)).1 events := by
    rw [announces]
    refine .hears ⟨_, _, rfl⟩ ?_
    rw [starts]
    refine .hears ⟨_, _, rfl⟩ ?_
    rw [answers]
    refine .hears ⟨_, _, rfl⟩ (.ended ?_)
    rintro ⟨_, _, running⟩
    exact absurd (ended.symm.trans running) nofun
  have readable : ∀ event ∈ events, event.Readable := by
    simp only [events, List.forall_mem_cons]
    exact ⟨trivial, ⟨.kernelInfo, rfl⟩, ⟨.interrupt, rfl⟩, nofun⟩
  have unfinished : k.dispatcher.finish ⟨"1", "a", false⟩ none events = none := rfl
  obtain ⟨shown, count, failure, reports, sent, -⟩ :=
    cell_messages rfl asked ends readable
      fun dispatched finished => absurd (unfinished.symm.trans finished) nofun
  rw [unfinished] at reports
  obtain ⟨e, rfl, rfl⟩ := reports
  exact ⟨e, count, sent⟩

end Kernel

end NotebookKernel
