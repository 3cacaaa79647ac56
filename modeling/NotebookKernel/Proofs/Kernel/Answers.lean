import NotebookKernel.Proofs.Kernel.Course
import NotebookKernel.Rehearsal

/-!
What a notebook is shown of the interpreter's answers. Text and values come through as they
are, whatever they contain. Only a value that claims to be a table does not suit a notebook,
for it is a string; such an answer stops the kernel before the cell has its reply.
-/

namespace NotebookKernel

namespace Media

open Json

theorem value_str {mimeType : String} (other : mimeType ≠ tableType) (s : String) :
    value mimeType (.str s) = .ok (.str s) := by
  simp only [value, other, if_false]
  split
  · rfl
  · split <;> rfl

def notTable (s : String) : Mismatch := .invalidType (.string s) "struct TabularDataResource"

theorem value_table (s : String) : value tableType (.str s) = .error (notTable s) := by
  have noText : textTypes.contains tableType = false := by decide
  simp only [value, noText, Bool.false_eq_true, if_false, if_true]
  rfl

theorem accept_value {mimeType : String} (other : mimeType ≠ tableType) (s : String) :
    accept (.value mimeType s) = .ok (.value mimeType s) := by
  simp only [DisplayEvent.value, accept, bundle, value_str other]
  rfl

theorem accept_table (s : String) : accept (.value tableType s) = .error (notTable s) := by
  simp only [DisplayEvent.value, accept, bundle, value_table]
  rfl

end Media

namespace RawResult

/-- An answer as a notebook is to see it: for each message its type and what it carries. -/
def outputs : RawResult → List (String × Json)
  | .text printed => [("stream", .obj [("name", .str "stdout"), ("text", .str printed)])]
  | .response (.eval output) =>
    [("display_data",
      .obj [("metadata", .obj []), ("data", .obj [(output.mimeType, .str output.value)])])]
  | .response .silent => []

/-- A value that claims to be a table. -/
def table (value : String) : RawResult := .response (.eval ⟨Media.tableType, value⟩)

/-- The answer's events suit a notebook, and it sees them as they are. -/
def Seen (raw : RawResult) : Prop :=
  ∃ contents, raw.translate.mapM (fun event => (Media.accept event).map Content.display) =
      .ok contents ∧
    contents.map (fun content => (content.type, content.toJson)) = raw.outputs

theorem seen_of_no_table {raw : RawResult} (other : ∀ value, raw ≠ table value) : raw.Seen := by
  match raw with
  | .text printed => exact ⟨[.display (.stdout printed)], rfl, rfl⟩
  | .response (.eval ⟨mimeType, value⟩) =>
    have suits : mimeType ≠ Media.tableType := by
      rintro rfl
      exact other value rfl
    refine ⟨[.display (.value mimeType value)], ?_, rfl⟩
    simp only [translate, List.mapM_cons, List.mapM_nil, Media.accept_value suits]
    rfl
  | .response .silent => exact ⟨[], rfl, rfl⟩

theorem table_refused (value : String) :
    (table value).translate.mapM (fun event => (Media.accept event).map Content.display) =
      .error (Media.notTable value) := by
  simp only [table, translate, List.mapM_cons, Media.accept_table]
  rfl

theorem seen_iff (raw : RawResult) : raw.Seen ↔ ∀ value, raw ≠ table value := by
  refine ⟨?_, seen_of_no_table⟩
  rintro ⟨contents, suits, -⟩ value rfl
  cases (table_refused value).symm.trans suits

end RawResult

/-- The cell finished with a value that claims to be a table. -/
def TableResult (value : String) (result : Option (Except DispatchError Dispatched)) : Prop :=
  ∃ action count, result = some (.ok ⟨action, (RawResult.table value).translate, count⟩)

namespace Outcome

theorem shown_table {outcome : Outcome} {value : String}
    (claims : TableResult value outcome.result?) :
    outcome.shown = .error (Media.notTable value) := by
  obtain ⟨action, count, result⟩ := claims
  match outcome with
  | .finished _ =>
    cases result
    exact RawResult.table_refused value

/-- Whatever else the interpreter answers, there is something to show for the cell. -/
theorem shown_of_no_table {τ ε : Type} [Transport τ ε] {outcome : Outcome} {after : Dispatcher τ}
    (sound : ∀ result, outcome = .finished result → (Step.done result).Sound after)
    (other : ∀ value, ¬ TableResult value outcome.result?) :
    ∃ shown, outcome.shown = .ok shown := by
  match outcome with
  | .finished (.ok dispatched) =>
    cases sound _ rfl with
    | shown action raw =>
      have noTable : ∀ value, raw ≠ RawResult.table value := by
        rintro value rfl
        exact other value ⟨_, _, rfl⟩
      obtain ⟨contents, suits, -⟩ := RawResult.seen_of_no_table noTable
      exact ⟨contents, suits⟩
  | .finished (.error (.transport _)) | .finished (.error (.defunct _)) | .interrupted _ =>
    exact ⟨_, rfl⟩

end Outcome

namespace Kernel

variable {τ ε : Type} [Transport τ ε]

section Served

variable {k : Kernel τ} {message : Message} {code : String} {silent : Bool}
  {events : List (Event ε)}

/-- All that is sent for a cell but its end. -/
def untilEnd (k : Kernel τ) (message : Message) (code : String) (silent : Bool)
    (events : List (Event ε)) : List Sent :=
  opening message.id code silent (announced k.dispatcher.session code silent) ++
    events.flatMap Event.answer

theorem served_of_no_table (idle : k.activity = .idle)
    (asked : message.inquiry = .ok (.execute code silent))
    (ends : Ends (k.handle (.shell message : Event ε)).1 events)
    (readable : ∀ event ∈ events, event.Readable)
    (other : ∀ value,
      ¬ TableResult value (k.dispatcher.finish ⟨message.id, code, silent⟩ none events)) :
    ∃ left shown count failure, k.handleAll (.shell message :: events) =
        (left, k.untilEnd message code silent events ++ closing message.id shown count failure) ∧
      ∀ reason, left.activity ≠ .stopped (some reason) := by
  obtain ⟨after, outcome, goesOn, course, handles⟩ := handleAll_execute idle asked ends readable
  rw [← course.finish_eq] at other
  obtain ⟨shown, shows⟩ := Outcome.shown_of_no_table course.sound_unbegun other
  simp only [conclude, shows] at handles
  refine ⟨_, shown, _, _, handles, ?_⟩
  intro reason stopped
  cases goesOn <;> cases stopped

theorem unserved_of_table (idle : k.activity = .idle)
    (asked : message.inquiry = .ok (.execute code silent))
    (ends : Ends (k.handle (.shell message : Event ε)).1 events)
    (readable : ∀ event ∈ events, event.Readable) {value : String}
    (claims : TableResult value
      (k.dispatcher.finish ⟨message.id, code, silent⟩ none events)) :
    ∃ left, k.handleAll (.shell message :: events) =
        (left, k.untilEnd message code silent events) ∧
      left.activity = .stopped (some (Media.notTable value).message) := by
  obtain ⟨after, outcome, goesOn, course, handles⟩ := handleAll_execute idle asked ends readable
  rw [← course.finish_eq] at claims
  simp only [conclude, Outcome.shown_table claims, Prod.map, List.append_nil] at handles
  exact ⟨_, handles, rfl⟩

end Served

/-- A kernel whose interpreter has this answer to its first evaluation. -/
def answering (raw : RawResult) : Kernel Rehearsal :=
  { dispatcher := { transport := { cues := [.answer (.ok raw)] } } }

theorem answering_advance (raw : RawResult) (request : String) {code : String}
    (evaluates : Directive.classify code false = .evaluate) :
    ∃ after, (answering raw).dispatcher.advance ⟨request, code, false⟩ none
        (.start : Event Empty) = some (after, .done (.ok ⟨.evaluate, raw.translate, 1⟩)) := by
  simp only [answering, Dispatcher.advance, Dispatcher.submit, evaluates]
  exact ⟨_, rfl⟩

theorem answering_ends (raw : RawResult) {message : Message} {code : String}
    (asked : message.inquiry = .ok (.execute code false))
    (evaluates : Directive.classify code false = .evaluate) :
    Ends ((answering raw).handle (.shell message : Event Empty)).1 [.start] := by
  obtain ⟨after, moved⟩ := answering_advance raw message.id evaluates
  rw [handle_execute rfl asked]
  exact .finished rfl moved

theorem start_readable : ∀ event ∈ [(.start : Event Empty)], event.Readable := by
  simp [Event.Readable]

/-- Of all answers just the values that claim to be tables are not seen as they are; and a
cell is served to its end, with its reply and the idle status, unless it finishes with one:
then the kernel stops and says no more. -/
theorem answer_seen_iff :
    (∀ raw : RawResult, raw.Seen ↔ ∀ value, raw ≠ .table value) ∧
    ∀ (k : Kernel τ), k.activity = .idle → ∀ (message : Message) (code : String) (silent : Bool),
      message.inquiry = .ok (.execute code silent) → ∀ events : List (Event ε),
      Ends (k.handle (.shell message : Event ε)).1 events →
      (∀ event ∈ events, event.Readable) →
      let result := k.dispatcher.finish ⟨message.id, code, silent⟩ none events
      ((∀ value, ¬ TableResult value result) →
        ∃ left shown count failure, k.handleAll (.shell message :: events) =
            (left,
              k.untilEnd message code silent events ++ closing message.id shown count failure) ∧
          ∀ reason, left.activity ≠ .stopped (some reason)) ∧
      ∀ value, TableResult value result →
        ∃ left, k.handleAll (.shell message :: events) =
            (left, k.untilEnd message code silent events) ∧
          left.activity = .stopped (some (Media.notTable value).message) := by
  refine ⟨RawResult.seen_iff, ?_⟩
  intro k idle message code silent asked events ends readable
  exact ⟨served_of_no_table idle asked ends readable,
    fun value => unserved_of_table idle asked ends readable⟩

/-- The reply to a cell with markup for its value. -/
theorem answer_seen_iff_html :
    let k := answering (.response (.eval ⟨"text/html", "<b>a</b>"⟩))
    let cell : Message := ⟨"1", "execute_request",
      .obj [("code", .str "a"), ("silent", .bool false), ("store_history", .bool true)]⟩
    ∃ shown count failure, (k.handleAll [.shell cell, (.start : Event Empty)]).2 =
      opening "1" "a" false 1 ++ closing "1" shown count failure := by
  intro k cell
  have evaluates : Directive.classify "a" false = .evaluate := rfl
  have other : ∀ value, ¬ TableResult value
      (k.dispatcher.finish ⟨"1", "a", false⟩ none [(.start : Event Empty)]) := by
    obtain ⟨after, moved⟩ :=
      answering_advance (.response (.eval ⟨"text/html", "<b>a</b>"⟩)) "1" evaluates
    rintro value ⟨action, count, claims⟩
    rw [Dispatcher.finish_done moved] at claims
    simp [RawResult.table, RawResult.translate, DisplayEvent.value, Media.tableType] at claims
  have ends : Ends (k.handle (.shell cell : Event Empty)).1 [.start] :=
    answering_ends _ rfl evaluates
  obtain ⟨left, shown, count, failure, handles, -⟩ :=
    (answer_seen_iff.2 k rfl cell "a" false rfl [.start] ends start_readable).1 other
  refine ⟨shown, count, failure, (congrArg Prod.snd handles).trans ?_⟩
  simp only [untilEnd, announced, evaluates]
  rfl

/-- A string that claims to be a table: the cell has neither a reply nor the idle status. -/
theorem answer_stops_kernel :
    let cell : Message := ⟨"1", "execute_request",
      .obj [("code", .str "a"), ("silent", .bool false), ("store_history", .bool true)]⟩
    ∃ left, (answering (.table "v")).handleAll [.shell cell, (.start : Event Empty)] =
        (left, opening "1" "a" false 1) ∧
      left.activity = .stopped
        (some "invalid type: string \"v\", expected struct TabularDataResource") := by
  intro cell
  have evaluates : Directive.classify "a" false = .evaluate := rfl
  obtain ⟨after, moved⟩ := answering_advance (.table "v") "1" evaluates
  have claims : TableResult "v" ((answering (.table "v")).dispatcher.finish ⟨"1", "a", false⟩ none
      [(.start : Event Empty)]) :=
    ⟨_, _, Dispatcher.finish_done moved []⟩
  have asked : cell.inquiry = .ok (.execute "a" false) := rfl
  obtain ⟨left, handles, stopped⟩ :=
    unserved_of_table rfl asked (answering_ends _ asked evaluates) start_readable claims
  have message : (Media.notTable "v").message =
      "invalid type: string \"v\", expected struct TabularDataResource" := by decide +kernel
  refine ⟨left, handles.trans ?_, message ▸ stopped⟩
  simp only [untilEnd, announced, evaluates]
  rfl

end Kernel

end NotebookKernel
