import Mathlib.Data.List.Basic
import Mathlib.Data.List.Induction
import NotebookKernel.Proofs.Bridge.Conversation
import NotebookKernel.Proofs.Dispatcher.Calls
import NotebookKernel.Proofs.Dispatcher.Coupling
import NotebookKernel.Proofs.Wire.RequestLine

/-!
What the lasting process is asked. Every live cell but those that are kept is one request,
in the order of the cells: a directive as it is written, an evaluation with all that was
kept before it. Nothing else is ever sent.
-/

namespace NotebookKernel

/-- What a cell asks for when this text was kept before it. -/
def Submission.request? (kept : String) (cell : Submission) : Option Request :=
  match cell.directive with
  | .addDependency _ | .setToolchain _ => some ⟨cell.code⟩
  | .accumulate => none
  | .evaluate => some ⟨kept ++ cell.code⟩

/-- The requests of cells one after the other; `kept` stands before all of them. -/
def requestsOf (kept : String) (cells : List Submission) : List Request :=
  cells.zipIdx.filterMap fun (cell, n) => cell.request? (kept ++ keptCode (cells.take n))

theorem requestsOf_eq (kept : String) (cells : List Submission) :
    requestsOf kept cells =
      afterEach (fun earlier cell => cell.request? (kept ++ keptCode earlier)) cells :=
  rfl

/-- A further cell finds everything that was kept before it. -/
theorem requestsOf_append (kept : String) (cells : List Submission) (cell : Submission) :
    requestsOf kept (cells ++ [cell]) =
      requestsOf kept cells ++ (cell.request? (kept ++ keptCode cells)).toList := by
  simp only [requestsOf_eq, afterEach_append]

theorem Submission.request?_isSome (kept : String) (cell : Submission) :
    (cell.request? kept).isSome ↔ cell.directive ≠ .accumulate := by
  unfold request?
  cases cell.directive <;> simp

theorem requestsOf_length (kept : String) (cells : List Submission) :
    (requestsOf kept cells).length = cells.countP (·.directive ≠ .accumulate) := by
  rw [requestsOf_eq]
  exact afterEach_length _ (fun _ cell => cell.request?_isSome _) cells

/-- The request of a cell is the one that its call stands for. -/
theorem Submission.call?_requestOf (session : Session) (cell : Submission) :
    (cell.call? session).map JsonLine.requestOf = cell.request? session.pending := by
  unfold call? request?
  cases cell.directive <;> rfl

namespace History

variable {η : Type}

/-- The octets that were sent to the process, request by request. -/
def sent (s : History (JsonLine (Journal η))) : List Text.Bytes := s.dispatcher.transport.host.sent

variable [Host η]

theorem call_sent {d : Dispatcher (JsonLine (Journal η))} (ready : d.transport.Ready)
    (action : Action) (events : List DisplayEvent) (c : Call) :
    (d.call action events c).1.transport.host.sent =
      d.transport.host.sent ++ [(JsonLine.requestOf c).octets ++ [10]] := by
  obtain ⟨opened, -, idle⟩ := ready
  obtain ⟨pipes, pipes_eq⟩ := Option.isSome_iff_exists.mp opened
  simp only [Dispatcher.call, Transport.begin, JsonLine.request_begins _ idle pipes_eq,
    JsonLine.answer, Dispatcher.progress, Request.encode_toLine]
  rfl

theorem resume_sent (d : Dispatcher (JsonLine (Journal η))) (stage : Stage) (heard : Wake) :
    (d.resume stage heard).1.transport.host.sent = d.transport.host.sent := by
  cases stage with
  | closing failure => rfl
  | calling action events =>
    have came : (Transport.resume d.transport heard).1.host.sent = d.transport.host.sent := by
      simp only [Transport.resume, JsonLine.answer_fst]
      exact Conversation.hear_sent d.transport heard
    simp only [Dispatcher.resume]
    rcases d.progress_cases action events (Transport.resume d.transport heard) with
      left | ⟨failure, left⟩
    · rw [left]
      exact came
    · rw [left]
      exact (Conversation.terminate_sent _).trans came

theorem cancel_sent (d : Dispatcher (JsonLine (Journal η))) :
    d.cancel.1.transport.host.sent = d.transport.host.sent := by
  cases flight : d.transport.inFlight with
  | false => rw [Dispatcher.cancel_idle flight]
  | true =>
    rw [Dispatcher.cancel_busy flight]
    exact (Conversation.terminate_sent _).trans (Conversation.terminate_sent _)

theorem submit_sent {d : Dispatcher (JsonLine (Journal η))} (usable : d.fault = none)
    (ready : d.transport.Ready) (cell : Submission) :
    (d.submit cell.code cell.silent).1.transport.host.sent = d.transport.host.sent ++
      (cell.request? d.session.pending).toList.map fun request => request.octets ++ [10] := by
  rw [← cell.call?_requestOf d.session]
  obtain ⟨noted, rfl, ⟨unasked, result, finished⟩ | ⟨action, events, c, asked, calls⟩⟩ :=
    d.submit_call cell usable
  · rw [finished, unasked]
    exact (List.append_nil _).symm
  · have noted : ({ d with session := d.session.begin cell } :
        Dispatcher (JsonLine (Journal η))).transport.Ready := ready
    rw [calls, call_sent noted, asked]
    rfl

/-- Every live cell has sent its request, and there is nothing else. -/
theorem reachable_sent {d : Dispatcher (JsonLine (Journal η))} (usable : d.fault = none)
    (ready : d.transport.Ready) (unasked : d.transport.host.sent = [])
    {s : History (JsonLine (Journal η))} (reachable : Reachable d s) :
    s.sent = (requestsOf d.session.pending s.live).map fun request => request.octets ++ [10] := by
  induction reachable with
  | start => exact unasked
  | @step s t before step ih =>
    cases step with
    | submit cell free =>
      -- A usable dispatcher has a process that takes any request.
      have fits := (reachable_coupled usable ready before).fits
      rw [free] at fits
      simp only [sent, proceed_dispatcher, proceed_live]
      rcases fits with ⟨usable, ready⟩ | ⟨fault, -⟩
      · have pending : s.dispatcher.session.pending = d.session.pending ++ keptCode s.live := by
          rw [session_of_live before, Session.gather_pending]
          rfl
        have enters : (s.enter cell).live = s.live ++ [cell] := by
          simp [enter, Dispatcher.isDefunct, usable]
        rw [submit_sent usable ready, enters, requestsOf_append, List.map_append, pending]
        exact congrArg (· ++ _) ih
      · -- A defunct dispatcher refuses the cell, which so is not live.
        obtain ⟨reason, fault⟩ := Option.ne_none_iff_exists'.mp fault
        have stays : s.enter cell = s := by
          simp [enter, Dispatcher.isDefunct, fault]
        rw [s.dispatcher.submit_defunct cell.code cell.silent fault, stays]
        exact ih
    | wake stage heard waits =>
      simp only [sent, proceed_dispatcher, proceed_live, resume_sent]
      exact ih
    | drop stage waits =>
      cases stage <;> exact ih
    | cancel able => exact (cancel_sent s.dispatcher).trans ih
    | shutdown able => exact (Conversation.terminate_sent _).trans ih

theorem start_sent {host : η} {command : Command} {timeout : Option Duration}
    {bridge : JsonLine (Journal η)}
    (started : JsonLine.start ⟨host, []⟩ command timeout = .ok bridge) : bridge.host.sent = [] := by
  have inStep := Conversation.start_in_step started []
  have idle := (JsonLine.start_ready started).2.2
  have none : 0 = bridge.roundTrips := inStep.complete
  have counted := inStep.counted
  simp only [idle, ← none, Bool.false_eq_true, if_false] at counted
  exact List.length_eq_zero_iff.mp counted

/-- The octets that the process is sent, at any moment of any history: cut into lines they
are one request for each live cell that is not kept, in the order of the cells. A directive
is as it is written; an evaluation follows all that was kept before it. -/
theorem stream_requests {host : η} {command : Command} {timeout : Option Duration}
    {bridge : JsonLine (Journal η)}
    (started : JsonLine.start ⟨host, []⟩ command timeout = .ok bridge) {session : Session}
    {s : History (JsonLine (Journal η))}
    (reachable : Reachable { session, transport := bridge } s) :
    let stream := s.sent.flatten
    (Text.lines stream).map Request.ofOctets = (requestsOf session.pending s.live).map some ∧
    (requestsOf session.pending s.live).length = s.live.countP (·.directive ≠ .accumulate) ∧
    (stream = [] ∨ stream.getLast? = some 10) := by
  intro stream
  have sends := reachable_sent rfl (JsonLine.start_ready started) (start_sent started) reachable
  have all : stream = ((requestsOf session.pending s.live).map fun request =>
      request.octets ++ [10]).flatten := congrArg List.flatten sends
  rw [all]
  refine ⟨Request.lines_ofOctets _, requestsOf_length _ _, ?_⟩
  rcases List.eq_nil_or_concat (requestsOf session.pending s.live) with none | ⟨before, last, some⟩
  · exact .inl (by rw [none]; rfl)
  · exact .inr (by simp [some])

/-- A dependency that is answered, and an evaluation with the text that was kept for it. -/
theorem stream_requests_kept :
    let bridge : JsonLine (Journal Unit) := { host := ⟨(), []⟩, timeout := none }
    ∃ s : History (JsonLine (Journal Unit)),
      JsonLine.start ⟨(), []⟩ ⟨"re", []⟩ none = .ok bridge ∧
      Reachable { transport := bridge } s ∧
      (Text.lines s.sent.flatten).map Request.ofOctets =
        [some ⟨":add serde"⟩, some ⟨"let a = \"\n\";\na"⟩] := by
  intro bridge
  let line (code : String) : Text.Bytes := Text.Utf8.encode (Request.mk code).toLine.toList
  let session : Session := { dependencies := ["serde"] }
  let answered : JsonLine (Journal Unit) :=
    { bridge with host := ⟨(), [line ":add serde"]⟩, roundTrips := 1 }
  let asked (leg : Leg) : Dispatcher (JsonLine (Journal Unit)) :=
    { session, transport := { answered with inFlight := true, roundTrips := 0, leg := some leg } }
  have writes : Dispatcher.submit { transport := bridge } ":add serde" false =
      (asked .writing, .waiting (.calling .addDependency [])) := rfl
  have reads : (asked .writing).resume (.calling .addDependency []) .accepted =
      (asked .reading, .waiting (.calling .addDependency [])) := rfl
  have finishes : (asked .reading).resume (.calling .addDependency []) (.arrived [123, 125, 10]) =
      ({ session, transport := answered }, .done (.ok ⟨.addDependency, [], 0⟩)) := by
    have read : (Response.ofLine (.ofList ['{', '}', '\n'])).toOption = some .silent := by
      decide +kernel
    have came := (JsonLine.answer_understand answered ['{', '}', '\n']).trans
      (congrArg (fun answer => (answered, Progress.done answer)) (JsonLine.reading_response read))
    exact congrArg ((asked .reading).progress .addDependency []) came
  have fresh : Reachable { transport := bridge } { dispatcher := { transport := bridge } } := .start
  have r1 := fresh.step (.submit _ ⟨":add serde", false⟩ rfl)
  simp only [writes, proceed] at r1
  have r2 := r1.step (.wake _ _ Wake.accepted rfl)
  simp only [reads, proceed] at r2
  have r3 := r2.step (.wake _ _ (Wake.arrived [123, 125, 10]) rfl)
  simp only [finishes, proceed] at r3
  have r4 := r3.step (.submit _ ⟨"let a = \"\n\";\n", false⟩ rfl)
  have r5 := r4.step (.submit _ ⟨"a", false⟩ rfl)
  have started : JsonLine.start ⟨(), []⟩ ⟨"re", []⟩ none = .ok bridge := rfl
  obtain ⟨cut, -, -⟩ := stream_requests started r5
  exact ⟨_, started, r5, cut⟩

end History

end NotebookKernel
