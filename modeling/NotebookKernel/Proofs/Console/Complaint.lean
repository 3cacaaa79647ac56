import NotebookKernel.Proofs.Bridge.Rejection
import NotebookKernel.Proofs.Console.Transcript

/-!
How a malformed response is reported. Its own error quotes the line, and so does the refusal of
each cell after it. Neither has a control character, so that the console prints one line for
it, and nothing that the process wrote there does more to a terminal than being shown.
-/

namespace NotebookKernel

open Text (Bytes ControlFree)

theorem head?_append {a b : String} {c : Char} (first : a.toList.head? = some c) :
    (a ++ b).toList.head? = some c := by
  rw [String.toList_append, List.head?_append, first]
  rfl

namespace TransportError

/-- The first letter tells a malformed response from the other failures. -/
theorem message_first (failure : TransportError) :
    (∃ text source, failure = .malformed text source) ∨
      ∃ c, c ≠ 'm' ∧ failure.message.toList.head? = some c := by
  cases failure with
  | malformed text source => exact .inl ⟨text, source, rfl⟩
  | spawn program source =>
    exact .inr ⟨'f', by decide, head?_append (head?_append (head?_append (by decide)))⟩
  | io source => exact .inr ⟨'i', by decide, head?_append (by decide)⟩
  | encode source => exact .inr ⟨'f', by decide, head?_append (by decide)⟩
  | timeout limit => exact .inr ⟨'i', by decide, head?_append (by decide)⟩
  | childExited | interrupted | terminated => exact .inr ⟨'i', by decide, by decide⟩
  | desynchronized => exact .inr ⟨'a', by decide, by decide⟩

theorem malformed_first (text : String) (source : Json.Error) :
    (malformed text source).message.toList.head? = some 'm' :=
  head?_append (head?_append (head?_append (by decide)))

theorem malformed_of_message {failure : TransportError} {text : String} {source : Json.Error}
    (same : failure.message = (malformed text source).message) :
    ∃ text source, failure = .malformed text source := by
  obtain malformed | ⟨c, other, first⟩ := failure.message_first
  · exact malformed
  · rw [same, malformed_first] at first
    exact absurd (Option.some.inj first).symm other

end TransportError

/-- A transport fails in its world as it does anyway. -/
theorem FailsOnly.timed {τ ε : Type} [Live τ ε] {kind : TransportError → Prop}
    (fails : FailsOnly τ kind) : FailsOnly (Timed τ) kind where
  begin t c failure failed := fails.begin t.transport c failure failed
  resume t limit failure failed := by
    simp only [Transport.resume, Timed.resume] at failed
    split at failed
    · cases failed
    · split at failed
      · cases failed
      · exact fails.resume _ _ failure failed
  cancel t failure failed := by
    simp only [Transport.cancel] at failed
    exact fails.cancel t.transport failure failed

namespace DispatchError

/-- An error that gives a malformed response as what went wrong. -/
inductive Quotes : DispatchError → Prop
  | failed (text : String) (source : Json.Error) : Quotes (.transport (.malformed text source))
  | refused (text : String) (source : Json.Error) :
      Quotes (.defunct (TransportError.malformed text source).message)

/-- The error comes from this line, which is no response. -/
inductive Rejects (line : String) : DispatchError → Prop
  | failed (failure : TransportError) (rejected : JsonLine.understand line = .error failure) :
      Rejects line (.transport failure)
  | refused (failure : TransportError) (rejected : JsonLine.understand line = .error failure) :
      Rejects line (.defunct failure.message)

theorem Rejects.controlFree {line : String} {e : DispatchError} (rejects : e.Rejects line) :
    ControlFree e.message := by
  cases rejects with
  | failed failure rejected => exact JsonLine.understand_controlFree rejected
  | refused failure rejected =>
    have reason := JsonLine.understand_controlFree rejected
    exact .append (.append (by decide) reason) (by decide)

/-- Errors that quote a malformed response do not do so without a line. -/
theorem Quotes.rejects {e : DispatchError} (quotes : e.Quotes)
    (reports : e.Reports TransportError.Honest) : ∃ line, e.Rejects line := by
  cases quotes with
  | failed text source =>
    cases reports with
    | failed _ known =>
      cases known with
      | rejected line _ rejected => exact ⟨line, .failed _ rejected⟩
      | other _ early => cases early
  | refused text source =>
    cases reports with
    | refused _ known =>
      generalize given : (TransportError.malformed text source).message = reason at known ⊢
      cases known with
      | shutDown =>
        have first := TransportError.malformed_first text source
        rw [given] at first
        exact absurd first (by decide)
      | failed failure known =>
        obtain ⟨text, source, malformed⟩ := TransportError.malformed_of_message given.symm
        cases known with
        | rejected line _ rejected => exact ⟨line, .refused _ rejected⟩
        | other _ early =>
          rw [malformed] at early
          cases early

end DispatchError

namespace Console

/-- A line of its own, which a terminal only shows. -/
def OneLine (printed : String) : Prop := ∃ text, printed = text ++ "\n" ∧ ControlFree text

theorem complaint_oneLine {e : DispatchError} (plain : ControlFree e.message) :
    OneLine (complaint e) :=
  ⟨"error: " ++ e.message, rfl, .append (by decide) plain⟩

/-- What comes next begins a line. -/
def Ended (printed : String) : Prop := ∀ c ∈ printed.toList.getLast?, c = '\n'

theorem join_ended {texts : List String} (ended : ∀ text ∈ texts, Ended text) :
    Ended (String.join texts) := by
  induction texts with
  | nil => exact nofun
  | cons text texts ih =>
    obtain ⟨first, others⟩ := List.forall_mem_cons.mp ended
    intro c last
    rw [String.join_cons, String.toList_append, List.getLast?_append, Option.mem_def,
      Option.or_eq_some_iff] at last
    rcases last with last | ⟨-, last⟩
    · exact ih others c last
    · exact first c last

theorem closed_ended (text : String) : Ended (closed text) := by
  unfold closed
  split
  · rename_i feed
    intro c last
    rw [beq_iff_eq.mp feed] at last
    exact (Option.some.inj last).symm
  · simp [Ended]

theorem shown_ended (events : List DisplayEvent) : Ended (shown events) := by
  refine join_ended fun text member => ?_
  obtain ⟨event, -, closes⟩ := List.mem_filterMap.mp member
  obtain ⟨plain, -, rfl⟩ := Option.map_eq_some_iff.mp closes
  exact closed_ended plain

section Dispatches

variable {τ ε : Type} [Transport τ ε] {d : Dispatcher τ} {heard : List ε} {done : Series τ}
  {e : DispatchError} (failed : done.ending = .failed e)

include failed

/-- An error is printed last, on a line that it begins. -/
theorem hearAll_ends {input : Bytes}
    (dispatches : Dispatches d (cells (input.splitOn 10)) heard done) :
    ∃ before, ((start d input).hearAll heard).output = before ++ complaint e ∧ Ended before := by
  obtain ⟨other, dispatches', stands⟩ := start_dispatches d input heard
  obtain rfl := dispatches.unique dispatches'
  refine ⟨_, (stands.output.trans String.empty_append).trans (by rw [Series.output, failed]; rfl),
    join_ended ?_⟩
  rintro _ member
  obtain ⟨dispatched, -, rfl⟩ := List.mem_map.mp member
  exact shown_ended dispatched.events

theorem Dispatches.reports {kind : TransportError → Prop} (fails : FailsOnly τ kind)
    {cells : List String} (dispatches : Dispatches d cells heard done)
    (reasoned : d.Reasoned kind) : e.Reports kind := by
  induction dispatches with
  | complete | waiting => cases failed
  | @failed d left cell _ first _ _ _ _ takes =>
    cases failed
    have told := Dispatcher.dispatch_told fails reasoned cell false first
    rw [takes.ends] at told
    cases told.tells with
    | failed _ reports => exact reports
  | @shown d next cell _ first _ _ _ _ _ takes _ ih =>
    have told := Dispatcher.dispatch_told fails reasoned cell false first
    rw [takes.ends] at told
    exact ih failed told.reasoned

/-- A malformed response that a console ends with is from a line, and is the last that is
printed. -/
theorem Dispatches.rejects (fails : FailsOnly τ TransportError.Honest)
    (reasoned : d.Reasoned TransportError.Honest) {input : Bytes}
    (dispatches : Dispatches d (cells (input.splitOn 10)) heard done) (quotes : e.Quotes) :
    (∃ line, e.Rejects line) ∧ ControlFree e.message ∧ OneLine (complaint e) ∧
      ∃ before, ((start d input).hearAll heard).output = before ++ complaint e ∧ Ended before := by
  obtain ⟨line, rejects⟩ := quotes.rejects (dispatches.reports failed fails reasoned)
  exact ⟨⟨line, rejects⟩, rejects.controlFree, complaint_oneLine rejects.controlFree,
    hearAll_ends failed dispatches⟩

end Dispatches

/-- Whatever line the process writes that is no response, the error of its cell and the refusal
of a later cell have no control character, so that the console prints one line for each. Any such
line can come to both. In every history of a dispatcher that was usable at first, errors that
quote a malformed response come from such a line; and so does the error that a console over it
ends with, if it quotes one, which is then the last line that is printed, whatever its cells
hear and also in the world of its machine. -/
theorem rejections_on_one_line :
    (∀ (line : String) source, Response.ofLine line = .error source →
      JsonLine.understand line =
        .error (.malformed (.ofList (Text.trimRight line.toList)) source)) ∧
    (∀ (line : String) (e : DispatchError), e.Rejects line →
      ControlFree e.message ∧ OneLine (complaint e)) ∧
    (∀ (η : Type) [Host η] (session : Session) (host : η) (timeout : Option Duration)
      (line : List Char) failure, '\n' ∉ line →
      JsonLine.understand (.ofList (line ++ ['\n'])) = .error failure →
      ∃ s, History.Reachable { session, transport := Bridge.jsonLine { host, timeout } } s ∧
        s.returned = [.error (.transport failure), .error (.defunct failure.message)]) ∧
    (∀ (η : Type) [Host η] (d : Dispatcher (Bridge η)) (s : History (Bridge η)),
      d.fault = none → History.Reachable d s →
      ∀ e, .error e ∈ s.returned → e.Quotes →
        (∃ line, e.Rejects line) ∧ ControlFree e.message) ∧
    (∀ (η : Type) [Host η] (d : Dispatcher (Bridge η)) (s : History (Bridge η)),
      d.fault = none → History.Reachable d s →
      ∀ (input : Bytes) (heard : List Wake) (done : Series (Bridge η)) (e : DispatchError),
        Dispatches s.dispatcher (cells (input.splitOn 10)) heard done →
        done.ending = .failed e → e.Quotes →
        (∃ line, e.Rejects line) ∧ ControlFree e.message ∧ OneLine (complaint e) ∧
          ∃ before, ((start s.dispatcher input).hearAll heard).output = before ++ complaint e ∧
            Ended before) ∧
    ∀ (d : Dispatcher (Bridge Machine)) (s : History (Bridge Machine)),
      d.fault = none → History.Reachable d s →
      ∀ (input : Bytes) (done : Series (Timed (Bridge Machine))) (e : DispatchError),
        Dispatches s.dispatcher.timed (cells (input.splitOn 10)) (Live.moments none) done →
        done.ending = .failed e → e.Quotes →
        (∃ line, e.Rejects line) ∧ ControlFree e.message ∧ OneLine (complaint e) ∧
          ∃ before, (run s.dispatcher input).2.output = before ++ complaint e ∧ Ended before := by
  refine ⟨fun line source rejected => JsonLine.understand_error.mpr ⟨source, rejected, rfl⟩,
    fun line e rejects => ⟨rejects.controlFree, complaint_oneLine rejects.controlFree⟩,
    fun η _ session host timeout line failure whole rejected =>
      Bridge.reaches_rejection session host timeout whole rejected, ?_, ?_, ?_⟩
  · intro η _ d s usable reachable e member quotes
    have told := History.reachable_told Bridge.failsOnly_honest usable reachable
    obtain ⟨line, rejects⟩ := quotes.rejects (told.returned e member)
    exact ⟨⟨line, rejects⟩, rejects.controlFree⟩
  · intro η _ d s usable reachable input heard done e dispatches failed quotes
    have told := History.reachable_told Bridge.failsOnly_honest usable reachable
    exact dispatches.rejects failed Bridge.failsOnly_honest told.reasoned quotes
  · intro d s usable reachable input done e dispatches failed quotes
    have told := History.reachable_told Bridge.failsOnly_honest usable reachable
    obtain ⟨c, watched, comes⟩ := run_eq s.dispatcher input
    have rejects := dispatches.rejects failed Bridge.failsOnly_honest.timed told.reasoned quotes
    rw [← watched] at rejects
    rw [comes]
    exact rejects

/-- An escape sequence and a line feed in place of a result. They stand in the line and, once it
is decoded, in what is wrong with it. The process has written it before it is asked anything. -/
theorem rejections_on_one_line_escape :
    let text := "\x7b\"Eval\":\"\\u001b[2J\\n\"\x7d"
    let line := text.toList ++ ['\n']
    let source : Json.Error := .ofMismatch (.invalidType (.string "\x1b[2J\n") "struct EvalOutput")
    let failed : DispatchError := .transport (.malformed text source)
    let refused : DispatchError := .defunct failed.message
    let process : Shell.Process :=
      { scope := { bindings := [], name := [], arguments := [] }
        files := { nodes := [], here := [] }
        streams := ⟨.pipe, .pipe, .complaints⟩
        todo := [.copyInput]
        printed := [Text.Utf8.encode line] }
    let machine : Machine :=
      { files := process.files, environment := [], child := some { process, converses := true } }
    let d : Dispatcher (Bridge Machine) :=
      { transport := .jsonLine { host := machine, timeout := none } }
    let input := Text.Utf8.encode "1\n2".toList
    let heard : List Wake := [.accepted, .arrived (Text.Utf8.encode line), .ended]
    Response.ofLine (.ofList line) = .error source ∧
      ControlFree failed.message ∧ OneLine (complaint failed) ∧
      ControlFree refused.message ∧ OneLine (complaint refused) ∧
      (∃ s, History.Reachable d s ∧ s.returned = [.error failed, .error refused] ∧
        ∃ line, refused.Rejects line) ∧
      (∃ before, ((start d input).hearAll heard).output = before ++ complaint failed ∧
        Ended before) ∧
      ∃ before, (run d input).2.output = before ++ complaint failed ∧ Ended before := by
  intro text line source failed refused process machine d input heard
  obtain ⟨malformed, plain, occur, returned, consoles, runs⟩ := rejections_on_one_line
  have rejected : Response.ofLine (.ofList line) = .error source := by decide +kernel
  have understood : JsonLine.understand (.ofList line) = .error (.malformed text source) := by
    rw [malformed (.ofList line) source rejected]
    decide +kernel
  obtain ⟨failedPlain, failedLine⟩ := plain (.ofList line) failed (.failed _ understood)
  obtain ⟨refusedPlain, refusedLine⟩ := plain (.ofList line) refused (.refused _ understood)
  obtain ⟨s, reachable, both⟩ :=
    occur Machine {} machine none text.toList _ (by decide +kernel) understood
  have member : .error refused ∈ s.returned := by
    rw [both]
    exact .tail _ (.head _)
  have quoted := returned Machine d s rfl reachable refused member (.refused _ _)
  have written : cells (input.splitOn 10) = ["1", "2"] := by decide +kernel
  obtain ⟨left, takes⟩ : ∃ left, d.Takes "1" heard left (.error failed) :=
    Dispatcher.Takes.of_failure (heard.take 2) .ended (by decide +kernel) (by decide +kernel)
  have fails : Dispatches d (cells (input.splitOn 10)) heard ⟨left, [], .failed failed⟩ := by
    rw [written]
    exact .failed ["2"] [] (List.append_nil heard).symm takes
  have printed := consoles Machine d _ rfl .start input heard _ failed fails rfl (.failed _ _)
  obtain ⟨later, takes⟩ : ∃ later, d.timed.Takes "1" [none, none, none] later (.error failed) :=
    Dispatcher.Takes.of_failure [none, none] none (by decide +kernel) (by decide +kernel)
  have enough : Live.moments none = .replicate 3 none ++ .replicate (Live.patience - 3) none := by
    rw [List.replicate_append_replicate]
    rfl
  have fails : Dispatches d.timed (cells (input.splitOn 10)) (Live.moments none)
      ⟨later, [], .failed failed⟩ := by
    rw [written]
    exact .failed ["2"] _ enough takes
  have watched := runs d _ rfl .start input _ failed fails rfl (.failed _ _)
  dsimp only at printed watched
  exact ⟨rejected, failedPlain, failedLine, refusedPlain, refusedLine,
    ⟨s, reachable, both, quoted.1⟩, printed.2.2.2, watched.2.2.2⟩

end Console

end NotebookKernel
