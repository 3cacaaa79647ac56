import NotebookKernel.Bridge
import NotebookKernel.Proofs.Dispatcher.Echo
import NotebookKernel.Proofs.Dispatcher.Failures
import NotebookKernel.Proofs.Json.Message

/-!
A line that is no response, and the failure that tells of it. The line is quoted there, and so
is all that the fault says of its contents: whatever the process wrote, there is no control
character in the message. A bridge fails with a malformed response only for such a line.
-/

namespace NotebookKernel

open Json (Legible)
open Text (ControlFree)

theorem EvalOutput.record_worded : EvalOutput.record.Worded where
  name := by decide
  fields := by
    have legible := Json.stringAs_legible (show ControlFree "a string" by decide)
    rintro f (_ | ⟨_, _ | ⟨_, none⟩⟩)
    · exact ⟨by decide, fun draft value => (legible value).map _⟩
    · exact ⟨by decide, fun draft value => (legible value).map _⟩
    · cases none
  finish draft := by
    have mimeType := Json.need_legible (show ControlFree "mime_type" by decide) draft.mimeType
    have value := Json.need_legible (show ControlFree "value" by decide) draft.value
    simp only [record]
    split
    · rename_i failed
      exact mimeType.passes failed
    · rename_i failed _
      exact value.passes failed
    · exact .ok _

namespace Response

theorem ofJson_legible (value : Json) : Legible (ofJson value) := by
  unfold ofJson
  split
  · exact (EvalOutput.record_worded.fromValue _).map _
  · exact .ok _

theorem ofLine_controlFree {line : String} {e : Json.Error} (rejected : ofLine line = .error e) :
    ControlFree e.message := by
  apply Json.Error.message_controlFree
  simp only [ofLine] at rejected
  split at rejected
  · rename_i stop failed
    cases rejected
    exact Json.Cause.message_controlFree (Json.readText_grammatical _ stop failed)
  · rename_i value _
    cases taken : ofJson value with
    | ok response => simp [taken, Except.mapError] at rejected
    | error m =>
      simp only [taken, Except.mapError, Except.error.injEq] at rejected
      subst rejected
      exact ofJson_legible value m taken

end Response

namespace JsonLine

theorem understand_error {line : String} {failure : TransportError} :
    understand line = .error failure ↔ ∃ source, Response.ofLine line = .error source ∧
      failure = .malformed (.ofList (Text.trimRight line.toList)) source := by
  unfold understand
  cases Response.ofLine line with
  | ok response => simp [Except.mapError]
  | error source => simp [Except.mapError, eq_comm]

theorem understand_controlFree {line : String} {failure : TransportError}
    (rejected : understand line = .error failure) : ControlFree failure.message := by
  obtain ⟨source, failed, rfl⟩ := understand_error.mp rejected
  have told := Response.ofLine_controlFree failed
  exact .append (.append (.append (by decide) (Text.quoted_controlFree _)) (by decide)) told

/-- However wrong a whole line is, it ends the round trip. -/
theorem hear_rejected {η : Type} {b : JsonLine η} (reads : b.leg = some .reading)
    (opened : b.pipes = some {}) {line : List Char} (whole : '\n' ∉ line)
    {failure : TransportError} (rejected : understand (.ofList (line ++ ['\n'])) = .error failure) :
    b.hear (.arrived (Text.Utf8.encode (line ++ ['\n']))) =
      (b.answered, .done (.error failure)) := by
  have oneLine : 10 ∉ Text.Utf8.encode line := mt (Text.Utf8.feed_mem_encode line).mp whole
  have text : Text.Utf8.decode (Text.Utf8.encode line ++ [10]) = .ok (line ++ ['\n']) := by
    rw [← Text.Utf8.encode_feed, Text.Utf8.decode_encode]
  simp only [hear, reads, opened, Pipes.hear, List.nil_append, Text.Utf8.encode_feed,
    b.receive_line oneLine text, rejected]

end JsonLine

namespace TransportError

/-- A failure that tells of a malformed response has it from the process. -/
inductive Honest : TransportError → Prop
  | rejected (line : String) (failure : TransportError)
      (rejected : JsonLine.understand line = .error failure) : Honest failure
  | other (failure : TransportError) (early : Answer.completes (.error failure) = false) :
      Honest failure

end TransportError

variable {η : Type} [Host η]

/-- Only a whole line can be malformed. -/
theorem JsonLine.failsOnly_honest : FailsOnly (JsonLine η) TransportError.Honest where
  begin b c failure failed := by
    cases flight : b.inFlight with
    | true =>
      simp only [Transport.begin, request_in_flight _ flight, answer] at failed
      cases failed
      exact .other _ rfl
    | false =>
      cases opened : b.pipes with
      | none =>
        simp only [Transport.begin, request_terminated _ flight opened, answer] at failed
        cases failed
        exact .other _ rfl
      | some pipes =>
        simp only [Transport.begin, request_begins _ flight opened, answer] at failed
        cases failed
  resume b heard failure failed := by
    simp only [Transport.resume] at failed
    cases waits : b.leg with
    | none =>
      simp only [hear, waits, answer] at failed
      cases failed
    | some leg =>
      cases opened : b.pipes with
      | none =>
        simp only [hear, waits, opened, answer] at failed
        cases failed
      | some pipes =>
        generalize result : b.hear heard = came at failed
        have outcome : Heard b (pipes.hear heard) came := result ▸ hear_heard waits opened heard
        cases outcome with
        | waits leg => cases failed
        | fails left failure early =>
          cases failed
          exact .other _ early
        | answered line left cs next text =>
          cases understood : understand (.ofList cs) with
          | ok response =>
            rw [understood] at failed
            cases failed
          | error rejection =>
            rw [understood] at failed
            cases failed
            exact .rejected (.ofList cs) _ understood
  cancel b failure failed := by
    simp only [Transport.cancel, JsonLine.cancel] at failed
    split at failed
    · cases failed
      exact .other _ rfl
    · cases failed

theorem OneShot.failsOnly_honest : FailsOnly (OneShot η) TransportError.Honest where
  begin b c failure failed := by
    cases c with
    | forward cell => cases failed
    | evaluate snapshot =>
      simp only [Transport.begin, OneShot.begin] at failed
      split at failed
      · cases failed
      · cases failed
        exact .other _ rfl
  resume b heard failure failed := by
    simp only [Transport.resume, OneShot.resume] at failed
    split at failed
    · cases failed
    · split at failed
      · cases failed
      · cases failed
      · cases failed
      · cases failed
        exact .other _ rfl
      · split at failed <;> cases failed
  cancel b failure failed := by cases failed

theorem Bridge.failsOnly_honest : FailsOnly (Bridge η) TransportError.Honest where
  begin b c failure failed := by
    cases b with
    | oneShot b => exact OneShot.failsOnly_honest.begin b c failure failed
    | jsonLine b => exact JsonLine.failsOnly_honest.begin b c failure failed
  resume b heard failure failed := by
    cases b with
    | oneShot b => exact OneShot.failsOnly_honest.resume b heard failure failed
    | jsonLine b => exact JsonLine.failsOnly_honest.resume b heard failure failed
  cancel b failure failed := by
    cases b with
    | oneShot b => exact OneShot.failsOnly_honest.cancel b failure failed
    | jsonLine b => exact JsonLine.failsOnly_honest.cancel b failure failed

/-- A cell that reads a line which is no response fails, and the next one is refused with what
that one failed with. -/
theorem History.rejection_refuses {d : Dispatcher (Bridge η)} {s : History (Bridge η)}
    (reachable : Reachable d s) {action : Action} {unanswered : List DisplayEvent}
    (waits : s.position = .waiting (.calling action unanswered)) {b : JsonLine η}
    (transport : s.dispatcher.transport = .jsonLine b) (reads : b.leg = some .reading)
    (opened : b.pipes = some {}) {line : List Char} (whole : '\n' ∉ line)
    {failure : TransportError}
    (rejected : JsonLine.understand (.ofList (line ++ ['\n'])) = .error failure) :
    ∃ t, Reachable d t ∧ t.returned =
      s.returned ++ [.error (.transport failure), .error (.defunct failure.message)] := by
  let wake : Wake := .arrived (Text.Utf8.encode (line ++ ['\n']))
  let left : Dispatcher (Bridge η) := { s.dispatcher with transport := .jsonLine b.answered }
  have came : s.dispatcher.resume (.calling action unanswered) wake =
      left.settle action unanswered (.error failure) := by
    simp only [Dispatcher.resume, Transport.resume, Bridge.update, transport, wake,
      JsonLine.hear_rejected reads opened whole rejected]
    rfl
  have fails := reachable.step (.wake s _ wake waits)
  rw [came] at fails
  rcases left.settle_failure action unanswered failure with settled | settled
  all_goals rw [settled] at fails
  · exact ⟨_, fails.step (.submit _ ⟨"", false⟩ rfl), List.append_assoc ..⟩
  · have ends := fails.step (.wake _ (.closing failure) Wake.ended rfl)
    exact ⟨_, ends.step (.submit _ ⟨"", false⟩ rfl), List.append_assoc ..⟩

/-- A line that is no response may be the first that a process writes. -/
theorem Bridge.reaches_rejection (session : Session) (host : η) (timeout : Option Duration)
    {line : List Char} (whole : '\n' ∉ line) {failure : TransportError}
    (rejected : JsonLine.understand (.ofList (line ++ ['\n'])) = .error failure) :
    ∃ s, History.Reachable { session, transport := Bridge.jsonLine { host, timeout } } s ∧
      s.returned = [.error (.transport failure), .error (.defunct failure.message)] := by
  have asks := History.Reachable.start.step
    (.submit { dispatcher := { session, transport := Bridge.jsonLine { host, timeout } } }
      ⟨"", false⟩ rfl)
  have reads := asks.step (.wake _ (.calling .evaluate []) Wake.accepted rfl)
  exact History.rejection_refuses reads rfl
    (b := { host := _, timeout, inFlight := true, leg := some .reading }) rfl rfl rfl whole rejected

end NotebookKernel
