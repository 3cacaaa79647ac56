import NotebookKernel.Proofs.Bridge.CutShort
import NotebookKernel.Proofs.Dispatcher.Requests
import NotebookKernel.Proofs.Dispatcher.Turns

/-!
A process that prints what it is sent. A request line is a response line, whatever code it holds:
the only key that stands outside of quotes names the request, so there is nothing to show. Cells
that are answered with their own requests, in pieces of any size, all succeed and show nothing.
-/

namespace NotebookKernel

open Text (Bytes)

namespace Response

open Json

theorem ofJson_request (request : Request) : ofJson request.toJson = .ok .silent := rfl

/-- A request line is read as an acknowledgement. -/
theorem ofLine_request (request : Request) : ofLine request.toLine = .ok .silent := by
  have trimmed : Text.trim request.toLine.toList = request.text := by
    rw [request.toLine_toList]
    exact (request.plain 0).trim_line
  have read : readText request.text = .ok request.toJson := (request.plain 125).readText_compact
  simp only [ofLine, trimmed, read, ofJson_request]
  rfl

end Response

namespace JsonLine

variable {η : Type}

/-- A process takes the request, unless it has done so before, and prints these octets in
pieces. -/
inductive Prints : Leg → Bytes → List Wake → Prop
  | arrived {leg : Leg} {rest : Bytes} {wakes : List Wake} (bytes : Bytes)
      (later : Prints leg rest wakes) : Prints leg (bytes ++ rest) (.arrived bytes :: wakes)
  | accepted {rest : Bytes} {wakes : List Wake} (later : Prints .reading rest wakes) :
      Prints .writing rest (.accepted :: wakes)
  | all : Prints .reading [] []

/-- The bridge once a line has come back and nothing else. -/
def answered (b : JsonLine η) : JsonLine η :=
  { b with pipes := some {}, leg := none, inFlight := false, roundTrips := b.roundTrips + 1 }

theorem receive_line (b : JsonLine η) {line : Bytes} (oneLine : 10 ∉ line) {cs : List Char}
    (text : Text.Utf8.decode (line ++ [10]) = .ok cs) :
    b.receive ⟨line ++ [10], false⟩ = (b.answered, .done (understand (.ofList cs))) := by
  simp only [receive, Pipes.next, Pipes.cut_feed oneLine, text, answered]

/-- What comes before the end of a line has no line feed. -/
theorem feed_not_mem_of_append {line front rest : Bytes} (oneLine : 10 ∉ line)
    (whole : front ++ rest = line ++ [10]) (more : rest ≠ []) : 10 ∉ front := by
  have beginning : front <+: line ++ [10] := ⟨rest, whole⟩
  rcases List.prefix_concat_iff.mp beginning with same | inside
  · rw [same] at whole
    exact absurd (List.append_right_eq_self.mp whole) more
  · exact fun member => oneLine (inside.subset member)

/-- However a line arrives, the round trip that waits for it ends with what it says. -/
theorem Prints.listen {b : JsonLine η} {leg : Leg} {bytes : Bytes} {wakes : List Wake}
    (prints : Prints leg bytes wakes) {unread line : Bytes} (waits : b.leg = some leg)
    (open_ : b.pipes = some ⟨unread, false⟩) (oneLine : 10 ∉ line)
    (whole : unread ++ bytes = line ++ [10]) (pending : leg = .reading → bytes ≠ [])
    {cs : List Char} (text : Text.Utf8.decode (line ++ [10]) = .ok cs) :
    b.listen wakes = (b.answered, .done (understand (.ofList cs))) := by
  induction prints generalizing b unread with
  | @arrived leg rest wakes bytes later ih =>
    rw [← List.append_assoc] at whole
    by_cases last : rest = [] ∧ leg = .reading
    · obtain ⟨rfl, rfl⟩ := last
      rw [List.append_nil] at whole
      have heard : b.hear (.arrived bytes) = (b.answered, .done (understand (.ofList cs))) := by
        simp only [hear, waits, open_, Pipes.hear, whole]
        exact b.receive_line oneLine text
      simp only [JsonLine.listen, heard]
    · have more : leg = .reading → rest ≠ [] := fun reading none => last ⟨none, reading⟩
      have heard : b.hear (.arrived bytes) =
          ({ b with pipes := some ⟨unread ++ bytes, false⟩ }, .waiting) := by
        cases leg with
        | writing => simp only [hear, waits, open_, Pipes.hear]
        | reading =>
          exact hear_arrived waits open_ (feed_not_mem_of_append oneLine whole (more rfl))
      rw [listen_waiting heard]
      exact ih waits rfl whole more
  | @accepted rest wakes later ih =>
    by_cases last : rest = []
    · subst last
      rw [List.append_nil] at whole
      have heard : b.hear .accepted = (b.answered, .done (understand (.ofList cs))) := by
        simp only [hear, waits, open_, whole]
        exact b.receive_line oneLine text
      simp only [JsonLine.listen, heard]
    · have heard : b.hear .accepted =
          ({ b with pipes := some ⟨unread, false⟩, leg := some .reading }, .waiting) := by
        simp only [hear, waits, open_,
          receive_open b (feed_not_mem_of_append oneLine whole last)]
      rw [listen_waiting heard]
      exact ih rfl rfl whole fun _ => last
  | all => exact absurd rfl (pending rfl)

/-- An echo is answered like a response with nothing in it. -/
theorem reading_request (request : Request) :
    reading request.toLine.toList = .ok (some (.response .silent)) := by
  apply reading_response
  rw [String.ofList_toList, Response.ofLine_request]
  rfl

/-- A round trip that hears its own request. -/
theorem Prints.echo {b : JsonLine η} {request : Request} {wakes : List Wake}
    (prints : Prints .writing (request.octets ++ [10]) wakes) (waits : b.leg = some .writing)
    (open_ : b.pipes = some {}) :
    answer (b.listen wakes) = (b.answered, .done (.ok (some (.response .silent)))) := by
  have text : Text.Utf8.decode (request.octets ++ [10]) = .ok request.toLine.toList := by
    rw [← request.encode_toLine, Text.Utf8.decode_encode]
  rw [prints.listen waits open_ request.feed_not_mem_octets rfl nofun text, answer_understand,
    reading_request]

end JsonLine

/-- What a cell of this directive comes to. -/
def Directive.action : Directive → Action
  | .addDependency _ => .addDependency
  | .setToolchain _ => .setToolchain
  | .accumulate => .accumulate
  | .evaluate => .evaluate

namespace Dispatcher

/-- A cell that is kept is finished at once; any other makes its call. -/
theorem submit_action {τ ε : Type} [Transport τ ε] (d : Dispatcher τ) (cell : Submission)
    (usable : d.fault = none) :
    let noted : Dispatcher τ := { d with session := d.session.begin cell }
    d.submit cell.code cell.silent = match cell.call? d.session with
      | none => (noted, .done (.ok (noted.dispatched cell.directive.action [])))
      | some c => noted.call cell.directive.action (unanswered cell.directive) c := by
  intro noted
  have directive : Directive.classify cell.code cell.silent = cell.directive := rfl
  simp only [submit, usable, directive, Submission.call?, noted, Session.begin]
  cases cell.directive <;> rfl

section Listen

variable {η : Type} [Host η]

/-- A waiting cell hears what its round trip hears. -/
theorem resumeAll_listen {d : Dispatcher (JsonLine η)} {wakes : List Wake} {b : JsonLine η}
    {raw : RawResult}
    (answered : JsonLine.answer (d.transport.listen wakes) = (b, .done (.ok (some raw))))
    (action : Action) (events : List DisplayEvent) :
    d.resumeAll (.calling action events) wakes =
      ({ d with transport := b }, .done (.ok (d.dispatched action raw.translate))) := by
  induction wakes generalizing d with
  | nil => simp [JsonLine.listen, JsonLine.answer] at answered
  | cons wake wakes ih =>
    rcases heard : d.transport.hear wake with ⟨next, _ | result⟩
    · rw [JsonLine.listen_waiting heard] at answered
      have waits : d.resume (.calling action events) wake =
          ({ d with transport := next }, .waiting (.calling action events)) := by
        simp only [resume, Transport.resume, heard, JsonLine.answer, progress]
      rw [resumeAll_waiting waits]
      exact ih answered
    · simp only [JsonLine.listen, heard] at answered
      refine resumeAll_done ?_ wakes
      simp only [resume, Transport.resume, heard, answered, progress, settle, dispatched]

end Listen

variable {η : Type} [Host η]

/-- What the process is sent for this cell. -/
def sentFor (d : Dispatcher (JsonLine (Journal η))) (cell : Submission) : Bytes :=
  ((d.submit cell.code cell.silent).1.transport.host.sent.drop
    d.transport.host.sent.length).flatten

/-- The process prints what it is sent for each cell, and nothing is asked of it before a cell has
heard that. A cell for which it is sent nothing may hear anything. -/
inductive Echoed : Dispatcher (JsonLine (Journal η)) → List (Turn Wake) → Prop
  | none (d : Dispatcher (JsonLine (Journal η))) : Echoed d []
  | cell {d : Dispatcher (JsonLine (Journal η))} {turns : List (Turn Wake)} (cell : Submission)
      (heard : List Wake)
      (echo : d.sentFor cell ≠ [] → JsonLine.Prints .writing (d.sentFor cell) heard)
      (later : Echoed (d.take (.cell cell heard)).1 turns) : Echoed d (.cell cell heard :: turns)
  | cancel {d : Dispatcher (JsonLine (Journal η))} {turns : List (Turn Wake)}
      (later : Echoed (d.take .cancel).1 turns) : Echoed d (.cancel :: turns)

/-- No request is out and nothing is left of the output. -/
structure Clear (d : Dispatcher (JsonLine (Journal η))) : Prop where
  usable : d.fault = none
  ready : d.transport.Ready
  drained : d.transport.pipes = some {}

theorem Clear.sentFor {d : Dispatcher (JsonLine (Journal η))} (clear : d.Clear)
    (cell : Submission) :
    d.sentFor cell =
      ((cell.request? d.session.pending).map fun request => request.octets ++ [10]).getD [] := by
  rw [Dispatcher.sentFor, History.submit_sent clear.usable clear.ready, List.drop_left]
  cases cell.request? d.session.pending <;> simp

/-- A cell that hears its own request succeeds, shows nothing and leaves the process as it was. -/
theorem Clear.take_cell {d : Dispatcher (JsonLine (Journal η))} (clear : d.Clear)
    (cell : Submission) {heard : List Wake}
    (echo : d.sentFor cell ≠ [] → JsonLine.Prints .writing (d.sentFor cell) heard) :
    (d.take (.cell cell heard)).2 =
        some (.ok ⟨cell.directive.action, [], (d.session.begin cell).count⟩) ∧
      (d.take (.cell cell heard)).1.Clear := by
  have submitted := d.submit_action cell clear.usable
  have sent := clear.sentFor cell
  rw [← cell.call?_requestOf d.session] at sent
  cases asked : cell.call? d.session with
  | none =>
    rw [asked] at submitted
    simp only [take, dispatch_done submitted]
    exact ⟨rfl, clear.usable, clear.ready, clear.drained⟩
  | some c =>
    rw [asked] at submitted sent
    have line : d.sentFor cell = (JsonLine.requestOf c).octets ++ [10] := sent
    have prints := echo (by simp [line])
    rw [line] at prints
    obtain ⟨b, begins, waits, drained, process⟩ : ∃ b : JsonLine (Journal η),
        d.transport.request (JsonLine.requestOf c) = (b, .waiting) ∧ b.leg = some .writing ∧
          b.pipes = some {} ∧ b.process = true :=
      ⟨_, JsonLine.request_begins _ clear.ready.2.2 clear.drained, rfl, clear.drained,
        clear.ready.2.1⟩
    simp only [call, Transport.begin, begins, JsonLine.answer, progress] at submitted
    have finished := resumeAll_listen (prints.echo waits drained)
      (d := { d with session := d.session.begin cell, transport := b }) cell.directive.action
      (unanswered cell.directive)
    simp only [take, dispatch_waiting submitted, finished]
    exact ⟨rfl, clear.usable, ⟨rfl, process, rfl⟩, rfl⟩

/-- A cancellation finds nothing to stop. -/
theorem Clear.take_cancel {d : Dispatcher (JsonLine (Journal η))} (clear : d.Clear) :
    (d.take .cancel).1.Clear := by
  rw [take, cancel_idle clear.ready.2.2]
  exact clear

/-- However many cells there are. -/
theorem Clear.play {d : Dispatcher (JsonLine (Journal η))} (clear : d.Clear)
    {turns : List (Turn Wake)} (echoed : Echoed d turns) :
    (d.play turns).Clear ∧
      ∀ before cell heard after, turns = before ++ .cell cell heard :: after →
        ((d.play before).take (.cell cell heard)).2 =
          some (.ok ⟨cell.directive.action, [], ((d.play before).session.begin cell).count⟩) := by
  induction echoed with
  | none d => exact ⟨clear, fun before _ _ _ cut => absurd cut (by simp)⟩
  | @cell d turns cell heard echo later ih =>
    obtain ⟨shown, next⟩ := clear.take_cell cell echo
    obtain ⟨last, others⟩ := ih next
    refine ⟨last, fun before other wakes after cut => ?_⟩
    cases before with
    | nil =>
      cases cut
      exact shown
    | cons turn before =>
      cases cut
      exact others before other wakes after rfl
  | @cancel d turns later ih =>
    obtain ⟨last, others⟩ := ih clear.take_cancel
    refine ⟨last, fun before other wakes after cut => ?_⟩
    cases before with
    | nil => cases cut
    | cons turn before =>
      cases cut
      exact others before other wakes after rfl

theorem start_clear {host : η} {command : Command} {timeout : Option Duration}
    {bridge : JsonLine (Journal η)}
    (started : JsonLine.start ⟨host, []⟩ command timeout = .ok bridge) (session : Session) :
    Clear { session, transport := bridge } := by
  refine ⟨rfl, JsonLine.start_ready started, ?_⟩
  unfold JsonLine.start at started
  split at started
  · cases started
    rfl
  · cases started

/-- Whatever code a request holds, its line is read as an acknowledgement. So with a process that
was started and prints what it is sent, every cell of any use succeeds as its directive says and
shows nothing, and no failure is ever recorded. -/
theorem echoes_silent :
    (∀ code : String, Response.ofLine (Request.mk code).toLine = .ok .silent) ∧
    ∀ (host : η) (command : Command) (timeout : Option Duration) (bridge : JsonLine (Journal η)),
      JsonLine.start ⟨host, []⟩ command timeout = .ok bridge →
      ∀ (session : Session) (turns : List (Turn Wake)),
        let d : Dispatcher (JsonLine (Journal η)) := { session, transport := bridge }
        Echoed d turns →
        (d.play turns).fault = none ∧ (d.play turns).transport.Ready ∧
        ∀ before cell heard after, turns = before ++ .cell cell heard :: after →
          ((d.play before).take (.cell cell heard)).2 =
            some (.ok ⟨cell.directive.action, [],
              ((d.play before).session.begin cell).count⟩) := by
  refine ⟨fun code => Response.ofLine_request ⟨code⟩, ?_⟩
  intro host command timeout bridge started session turns d echoed
  obtain ⟨clear, shown⟩ := (start_clear started session).play echoed
  exact ⟨clear.usable, clear.ready, shown⟩

/-- The code is itself a response with a value, and its echo arrives in two pieces. -/
theorem echoes_silent_eval :
    let bridge : JsonLine (Journal Unit) := { host := ⟨(), []⟩, timeout := none }
    let d : Dispatcher (JsonLine (Journal Unit)) := { transport := bridge }
    let code := "\x7b\"Eval\":\x7b\"mime_type\":\"\",\"value\":\"1\"\x7d\x7d"
    let line := Text.Utf8.encode (Request.mk code).toLine.toList
    let heard : List Wake := [.arrived (line.take 20), .accepted, .arrived (line.drop 20)]
    (Response.ofLine code).toOption = some (.eval ⟨"", "1"⟩) ∧
      Response.ofLine (Request.mk code).toLine = .ok .silent ∧
      (d.take (.cell ⟨code, false⟩ heard)).2 = some (.ok ⟨.evaluate, [], 1⟩) := by
  intro bridge d code line heard
  obtain ⟨acknowledges, run⟩ := echoes_silent (η := Unit)
  have started : JsonLine.start ⟨(), []⟩ ⟨"cat", []⟩ none = .ok bridge := rfl
  have prints : JsonLine.Prints .writing (line.take 20 ++ (line.drop 20 ++ [])) heard :=
    .arrived _ (.accepted (.arrived _ .all))
  rw [List.append_nil, List.take_append_drop] at prints
  let cell : Submission := ⟨code, false⟩
  have directive : cell.directive = .evaluate := by decide
  have request : cell.request? "" = some ⟨code⟩ := by
    rw [Submission.request?, directive, String.empty_append]
  have sent : d.sentFor cell = line := by
    rw [(start_clear started {}).sentFor cell, request]
    exact (Request.encode_toLine ⟨code⟩).symm
  have echoed : Echoed d [.cell cell heard] := .cell _ _ (fun _ => sent ▸ prints) (.none _)
  obtain ⟨-, -, shown⟩ := run () ⟨"cat", []⟩ none bridge started {} _ echoed
  have first := shown [] cell heard [] rfl
  rw [Session.begin_eq, directive] at first
  exact ⟨by decide +kernel, acknowledges code, first⟩

end Dispatcher

end NotebookKernel
