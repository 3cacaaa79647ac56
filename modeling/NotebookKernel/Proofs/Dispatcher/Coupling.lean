import NotebookKernel.Proofs.Bridge.RoundTrip
import NotebookKernel.Proofs.Dispatcher.Calls

/-!
A dispatcher and the lasting process that it uses. The fault of the one and the pipes,
the process and the flight of the other move together: `Coupled` holds after any
history from the start of the process on. What the bridge says of its process is what its
host has done: `Accounted` goes along with the same histories.
-/

namespace NotebookKernel

/-- What a host does with processes. -/
inductive Deed where
  | started (process : Invocation)
  | stopped
  deriving DecidableEq

/-- A host with the processes that it started and stopped, in order. -/
structure Register (η : Type) where
  host : η
  deeds : List Deed := []

instance {η : Type} [Host η] : Host (Register η) where
  start r process :=
    (Host.start r.host process).map fun host => ⟨host, r.deeds ++ [.started process]⟩
  refused r process := { r with host := Host.refused r.host process }
  send r bytes := { r with host := Host.send r.host bytes }
  stop r := ⟨Host.stop r.host, r.deeds ++ [.stopped]⟩

namespace JsonLine

variable {η : Type}

/-- The process waits for its next request. -/
def Ready (b : JsonLine η) : Prop := b.pipes.isSome ∧ b.process = true ∧ b.inFlight = false

/-- The process has a request. -/
def Busy (b : JsonLine η) : Prop := b.pipes.isSome ∧ b.process = true ∧ b.inFlight = true

/-- There is no process any more. -/
def Gone (b : JsonLine η) : Prop := b.pipes = none ∧ b.process = false

/-- What a waiting request can come to: more waiting, an early end that is no refusal,
or a line. -/
theorem hear_busy {b : JsonLine η} (busy : b.Busy) (wake : Wake) :
    (∃ b', b.hear wake = (b', .waiting) ∧ b'.Busy) ∨
    (∃ b' failure, b.hear wake = (b', .done (.error failure)) ∧ failure.isRefusal = false) ∨
    ∃ b' line, b.hear wake = (b', .done (understand (.ofList line))) ∧ b'.Ready := by
  obtain ⟨opened, process, flight⟩ := busy
  obtain ⟨pipes, pipes_eq⟩ := Option.isSome_iff_exists.mp opened
  cases leg : b.leg with
  | none => exact .inl ⟨b, by simp [hear, leg], opened, process, flight⟩
  | some _ =>
    generalize result : b.hear wake = came
    have outcome := result ▸ hear_heard leg pipes_eq wake
    cases outcome with
    | waits leg => exact .inl ⟨_, rfl, rfl, process, flight⟩
    | fails left failure _ begun => exact .inr (.inl ⟨_, failure, rfl, begun⟩)
    | answered line left cs _ _ => exact .inr (.inr ⟨_, cs, rfl, rfl, process, rfl⟩)

/-- Only a whole line takes a request out of flight. -/
theorem answer_flight {b left : JsonLine η} (flight : b.inFlight = true) {wake : Wake}
    {answer : Answer} (done : JsonLine.answer (b.hear wake) = (left, .done answer)) :
    left.inFlight = !answer.completes := by
  cases leg : b.leg with
  | none => simp [hear, leg, JsonLine.answer] at done
  | some _ =>
    cases pipes : b.pipes with
    | none => simp [hear, leg, pipes, JsonLine.answer] at done
    | some _ =>
      generalize result : b.hear wake = came at done
      have outcome := result ▸ hear_heard leg pipes wake
      cases outcome with
      | waits => cases done
      | fails _ failure early _ =>
        cases done
        exact flight.trans (congrArg (!·) early.symm)
      | answered line pipes' cs _ _ =>
        rw [answer_understand] at done
        cases done
        exact congrArg (!·) (reading_completes cs).symm

section Host

variable [Host η]

theorem start_ready {host : η} {command : Command} {timeout : Option Duration} {b : JsonLine η}
    (started : JsonLine.start host command timeout = .ok b) : b.Ready := by
  unfold JsonLine.start at started
  split at started
  · cases started
    exact ⟨rfl, rfl, rfl⟩
  · cases started

theorem terminate_gone (b : JsonLine η) : b.terminate.1.Gone :=
  ⟨b.terminate_pipes, b.terminate_process⟩

/-- A process that is ready takes any request. -/
theorem request_busy {b : JsonLine η} (ready : b.Ready) (request : Request) :
    ∃ b', b.request request = (b', .waiting) ∧ b'.Busy := by
  obtain ⟨opened, process, idle⟩ := ready
  obtain ⟨pipes, pipes_eq⟩ := Option.isSome_iff_exists.mp opened
  exact ⟨_, request_begins request idle pipes_eq, opened, process, rfl⟩

end Host

section Register

/-- The bridge has its process just as long as its host has not stopped it; then the pipes are
closed, and the host is never turned to again. -/
structure Accounted [Host η] (process : Invocation) (b : JsonLine (Register η)) : Prop where
  deeds : b.host.deeds = .started process :: if b.process then [] else [.stopped]
  closed : b.process = false → b.pipes = none
  last : b.process = false → ∃ left, b.host.host = Host.stop left

variable [Host η] {process : Invocation} {b : JsonLine (Register η)}

theorem start_accounted {host : η} {command : Command} {timeout : Option Duration}
    (started : JsonLine.start ⟨host, []⟩ command timeout = .ok b) :
    Accounted ⟨command.program, command.args, none, true⟩ b := by
  cases begun : Host.start host ⟨command.program, command.args, none, true⟩ <;>
    simp only [start, Host.start, begun, Except.map] at started <;> cases started
  exact ⟨rfl, nofun, nofun⟩

/-- Only an open pipe takes a request, so its process is there. -/
theorem request_accounted (h : Accounted process b) (request : Request) :
    Accounted process (b.request request).1 := by
  cases flight : b.inFlight with
  | true => rwa [request_in_flight request flight]
  | false =>
    cases opened : b.pipes with
    | none => rwa [request_terminated request flight opened]
    | some pipes =>
      have alive : b.process ≠ false := fun gone => by
        rw [h.closed gone] at opened
        cases opened
      rw [request_begins request flight opened]
      exact ⟨h.deeds, fun gone => absurd gone alive, fun gone => absurd gone alive⟩

theorem hear_accounted (h : Accounted process b) (wake : Wake) :
    Accounted process (b.hear wake).1 := by
  obtain ⟨host, alive, pipes⟩ := b.hear_keeps wake
  refine ⟨?_, fun gone => pipes (h.closed (alive ▸ gone)), fun gone => ?_⟩
  · rw [host, alive]
    exact h.deeds
  · rw [host]
    exact h.last (alive ▸ gone)

/-- A process that is stopped once is not stopped again. -/
theorem terminate_accounted (h : Accounted process b) : Accounted process b.terminate.1 := by
  cases alive : b.process with
  | true =>
    have deeds := h.deeds
    rw [alive] at deeds
    simp only [terminate, alive]
    exact ⟨congrArg (· ++ _) deeds, fun _ => rfl, fun _ => ⟨b.host.host, rfl⟩⟩
  | false =>
    have deeds := h.deeds
    rw [alive] at deeds
    simp only [terminate, alive, Bool.false_eq_true, if_false]
    exact ⟨deeds, fun _ => rfl, fun _ => h.last alive⟩

/-- No call starts a process, and nothing but a termination stops one. -/
theorem accounted_tally (process : Invocation) :
    Tally (fun (b : JsonLine (Register η)) (_ : List Empty) => Accounted process b)
      (fun _ => none) where
  begin {b _} h c := by
    simp only [Transport.begin, answer_fst]
    exact request_accounted h (requestOf c)
  resume {b _} h heard := by
    simp only [Transport.resume, answer_fst]
    exact hear_accounted h heard
  abandon h := ⟨h.deeds, h.closed, h.last⟩
  cancel {b _} h := by
    simp only [Transport.cancel, cancel]
    split
    · exact terminate_accounted h
    · exact h
  terminate h := terminate_accounted h

end Register

end JsonLine

namespace Dispatcher

variable {η : Type} [Host η] {d : Dispatcher (JsonLine η)}

theorem cancel_idle (idle : d.transport.inFlight = false) : d.cancel = (d, .ok ()) := by
  simp [cancel, Transport.cancel, JsonLine.cancel, idle]

/-- A request in flight is all that a cancellation looks at. -/
theorem cancel_busy (busy : d.transport.inFlight = true) :
    d.cancel = (({ d with transport := d.transport.terminate.1 }.fail .interrupted).1,
      .error (.transport .interrupted)) := by
  simp [cancel, Transport.cancel, JsonLine.cancel, busy]

end Dispatcher

namespace History

variable {η : Type}

/-- A fault is recorded, and no interpreter is left behind. -/
def Broken (d : Dispatcher (JsonLine η)) : Prop := d.fault ≠ none ∧ d.transport.Gone

/-- How the fault and the process stand, wherever the user of the dispatcher is. -/
def Fits (d : Dispatcher (JsonLine η)) : Position → Prop
  | .free => d.fault = none ∧ d.transport.Ready ∨ Broken d
  | .waiting (.calling _ _) => d.fault = none ∧ d.transport.Busy
  | .waiting (.closing failure) => Broken d ∧ failure.isRefusal = false
  | .dropped => d.fault = none ∧ d.transport.Busy ∨ Broken d

structure Coupled (s : History (JsonLine η)) : Prop where
  fits : Fits s.dispatcher s.position
  begun : ∀ failure, .error (.transport failure) ∈ s.returned → failure.isRefusal = false

theorem Coupled.gone {s : History (JsonLine η)} (h : Coupled s) (fault : s.dispatcher.fault ≠ none) :
    s.dispatcher.transport.Gone := by
  have fits := h.fits
  cases position : s.position with
  | free | dropped =>
    rw [position] at fits
    exact (fits.resolve_left fun usable => fault usable.1).2
  | waiting stage =>
    rw [position] at fits
    cases stage with
    | calling action events => exact absurd fits.1 fault
    | closing failure => exact fits.1.2

theorem Coupled.alive {s : History (JsonLine η)} (h : Coupled s) (usable : s.dispatcher.fault = none) :
    s.dispatcher.transport.process = true := by
  have fits := h.fits
  cases position : s.position with
  | free | dropped =>
    rw [position] at fits
    exact (fits.resolve_right fun broken => broken.1 usable).2.2.1
  | waiting stage =>
    rw [position] at fits
    cases stage with
    | calling action events => exact fits.2.2.1
    | closing failure => exact absurd usable fits.1.1

theorem enter_coupled {s : History (JsonLine η)} (h : Coupled s) (cell : Submission) :
    Coupled (s.enter cell) := by
  unfold enter
  split
  · exact h
  · exact ⟨h.fits, h.begun⟩

theorem waiting_coupled {s : History (JsonLine η)} (h : Coupled s) {d : Dispatcher (JsonLine η)}
    {stage : Stage} (fits : Fits d (.waiting stage)) :
    Coupled (s.proceed (d, .waiting stage)) :=
  ⟨fits, h.begun⟩

theorem finished_coupled {s : History (JsonLine η)} (h : Coupled s) {d : Dispatcher (JsonLine η)}
    {result : Except DispatchError Dispatched} (fits : Fits d .free)
    (begun : ∀ failure, result = .error (.transport failure) → failure.isRefusal = false) :
    Coupled (s.proceed (d, .done result)) where
  fits := fits
  begun failure returned := by
    rcases List.mem_append.mp returned with before | now
    · exact h.begun failure before
    · exact begun failure (List.mem_singleton.mp now).symm

variable [Host η]

theorem fail_broken (d : Dispatcher (JsonLine η)) (failure : TransportError) :
    Broken (d.fail failure).1 :=
  ⟨nofun, JsonLine.terminate_gone d.transport⟩

/-- Whether or not the end of the interpreter has to be waited for. -/
theorem failed_coupled {s : History (JsonLine η)} (h : Coupled s) (d : Dispatcher (JsonLine η))
    (action : Action) (events : List DisplayEvent) {failure : TransportError}
    (begun : failure.isRefusal = false) :
    Coupled (s.proceed (d.settle action events (.error failure))) := by
  have broken := fail_broken d failure
  rcases d.settle_failure action events failure with settled | settled
  · rw [settled]
    apply finished_coupled h (.inr broken)
    rintro _ ⟨⟩
    exact begun
  · rw [settled]
    exact waiting_coupled h ⟨broken, begun⟩

theorem call_waits {d : Dispatcher (JsonLine η)} (ready : d.transport.Ready) (action : Action)
    (events : List DisplayEvent) (c : Call) :
    ∃ b : JsonLine η, b.Busy ∧
      d.call action events c = ({ d with transport := b }, .waiting (.calling action events)) := by
  obtain ⟨b, waits, busy⟩ := JsonLine.request_busy ready (JsonLine.requestOf c)
  refine ⟨b, busy, ?_⟩
  simp only [Dispatcher.call, Dispatcher.progress, Transport.begin, JsonLine.answer, waits]

theorem call_coupled {s : History (JsonLine η)} (h : Coupled s) {d : Dispatcher (JsonLine η)}
    (usable : d.fault = none) (ready : d.transport.Ready) (action : Action)
    (events : List DisplayEvent) (c : Call) : Coupled (s.proceed (d.call action events c)) := by
  obtain ⟨b, busy, came⟩ := call_waits ready action events c
  rw [came]
  exact waiting_coupled h ⟨usable, busy⟩

theorem submit_coupled {s : History (JsonLine η)} (h : Coupled s) (free : s.position = .free)
    (cell : Submission) :
    Coupled ((s.enter cell).proceed (s.dispatcher.submit cell.code cell.silent)) := by
  have entered := enter_coupled h cell
  have fits := h.fits
  rw [free] at fits
  rcases fits with ⟨usable, ready⟩ | broken
  · obtain ⟨noted, rest, finished | ⟨action, events, c, calls⟩⟩ :=
      s.dispatcher.submit_usable cell.code cell.silent usable
    all_goals have kept : noted.fault = none ∧ noted.transport.Ready := rest ▸ ⟨usable, ready⟩
    · rw [finished]
      apply finished_coupled entered (.inl kept)
      rintro _ ⟨⟩
    · rw [calls]
      exact call_coupled entered kept.1 kept.2 action events c
  · obtain ⟨reason, fault⟩ := Option.ne_none_iff_exists'.mp broken.1
    rw [s.dispatcher.submit_defunct cell.code cell.silent fault]
    apply finished_coupled entered (.inr broken)
    rintro _ ⟨⟩

theorem wake_coupled {s : History (JsonLine η)} (h : Coupled s) {stage : Stage}
    (waits : s.position = .waiting stage) (wake : Wake) :
    Coupled (s.proceed (s.dispatcher.resume stage wake)) := by
  have fits := h.fits
  rw [waits] at fits
  cases stage with
  | closing failure =>
    obtain ⟨broken, begun⟩ := fits
    apply finished_coupled h (.inr broken)
    rintro _ ⟨⟩
    exact begun
  | calling action events =>
    obtain ⟨usable, busy⟩ := fits
    simp only [Dispatcher.resume, Transport.resume]
    rcases JsonLine.hear_busy busy wake with
      ⟨b, came, busy⟩ | ⟨b, failure, came, begun⟩ | ⟨b, line, came, ready⟩
    · rw [came]
      exact waiting_coupled h ⟨usable, busy⟩
    · rw [came]
      exact failed_coupled h _ action events begun
    · rw [came, JsonLine.answer_understand]
      rcases JsonLine.reading_cases line with ⟨response, read⟩ | ⟨text, e, read⟩
      · rw [read]
        refine finished_coupled h (.inl ⟨usable, ready⟩) ?_
        rintro _ ⟨⟩
      · rw [read]
        exact failed_coupled h _ action events rfl

theorem drop_coupled {s : History (JsonLine η)} (h : Coupled s) {stage : Stage}
    (waits : s.position = .waiting stage) :
    Coupled { s with dispatcher := s.dispatcher.abandon stage, position := .dropped } := by
  have fits := h.fits
  rw [waits] at fits
  cases stage with
  | calling action events => exact ⟨.inl fits, h.begun⟩
  | closing failure => exact ⟨.inr fits.1, h.begun⟩

/-- Nothing happens to a process that is ready; one that was left busy is stopped. -/
theorem cancel_coupled {s : History (JsonLine η)} (h : Coupled s)
    (able : ∀ stage, s.position ≠ .waiting stage) :
    Coupled { s with dispatcher := s.dispatcher.cancel.1, position := .free } := by
  refine ⟨?_, h.begun⟩
  cases flight : s.dispatcher.transport.inFlight with
  | true =>
    rw [Dispatcher.cancel_busy flight]
    exact .inr (fail_broken _ _)
  | false =>
    rw [Dispatcher.cancel_idle flight]
    have fits := h.fits
    cases position : s.position with
    | free => rwa [position] at fits
    | waiting stage => exact absurd position (able stage)
    | dropped =>
      rw [position] at fits
      rcases fits with ⟨-, -, -, busy⟩ | broken
      · exact absurd (busy.symm.trans flight) nofun
      · exact .inr broken

theorem shutdown_coupled {s : History (JsonLine η)} (h : Coupled s) :
    Coupled { s with dispatcher := s.dispatcher.shutdown, position := .free } where
  fits := .inr ⟨by simp [Dispatcher.shutdown], JsonLine.terminate_gone s.dispatcher.transport⟩
  begun := h.begun

theorem step_coupled {s t : History (JsonLine η)} (step : Step s t) (h : Coupled s) :
    Coupled t := by
  cases step with
  | submit cell free => exact submit_coupled h free cell
  | wake stage heard waits => exact wake_coupled h waits heard
  | drop stage waits => exact drop_coupled h waits
  | cancel able => exact cancel_coupled h able
  | shutdown able => exact shutdown_coupled h

theorem reachable_coupled {d : Dispatcher (JsonLine η)} {s : History (JsonLine η)}
    (usable : d.fault = none) (ready : d.transport.Ready) (reachable : Reachable d s) :
    Coupled s := by
  induction reachable with
  | start => exact ⟨.inl ⟨usable, ready⟩, fun _ returned => absurd returned List.not_mem_nil⟩
  | step _ step coupled => exact step_coupled step coupled

/-- While the end of the interpreter is waited for, its request is in flight unless a line
came back for it. -/
theorem closing_flight {d : Dispatcher (JsonLine η)} {s : History (JsonLine η)}
    (usable : d.fault = none) (ready : d.transport.Ready) (reachable : Reachable d s)
    {failure : TransportError} (closing : s.position = .waiting (.closing failure)) :
    s.dispatcher.transport.inFlight = !Answer.completes (.error failure) := by
  cases reachable with
  | start => cases closing
  | @step s _ before step =>
    have fits := (reachable_coupled usable ready before).fits
    cases step with
    | submit cell free =>
      rw [free] at fits
      rcases fits with ⟨usable, ready⟩ | broken
      · obtain ⟨noted, rest, finished | ⟨action, events, c, calls⟩⟩ :=
          s.dispatcher.submit_usable cell.code cell.silent usable
        all_goals have kept : noted.transport.Ready := rest ▸ ready
        · rw [finished] at closing
          cases closing
        · obtain ⟨b, -, came⟩ := call_waits kept action events c
          rw [calls, came] at closing
          cases closing
      · obtain ⟨reason, fault⟩ := Option.ne_none_iff_exists'.mp broken.1
        rw [s.dispatcher.submit_defunct cell.code cell.silent fault] at closing
        cases closing
    | wake stage heard waits =>
      rw [waits] at fits
      cases stage with
      | closing failure => cases closing
      | calling action events =>
        simp only [Dispatcher.resume] at closing ⊢
        cases came : Transport.resume s.dispatcher.transport heard with
        | mk b progress =>
          rw [came] at closing
          match progress with
          | .waiting => cases closing
          | .done (.ok (some _)) | .done (.ok none) => cases closing
          | .done (.error early) =>
            have flight := JsonLine.answer_flight fits.2.2.2 came
            simp only [Dispatcher.progress] at closing ⊢
            rcases { s.dispatcher with transport := b }.settle_failure action events early with
              settled | settled
            · rw [settled] at closing
              cases closing
            · rw [settled] at closing ⊢
              cases closing
              exact b.terminate_inFlight.trans flight
    | drop | cancel | shutdown => cases closing

/-- After every operation the dispatcher is usable just if its process waits for a request. Its
host has started that process, and no other; at every moment the process has been stopped, and
that is the last that was asked of the host, just if there is a fault. So a defunct dispatcher
leaves no process behind, and no cell is ever refused by the bridge. -/
theorem usable_iff_process_ready {host : η} {command : Command} {timeout : Option Duration}
    {bridge : JsonLine (Register η)}
    (started : JsonLine.start ⟨host, []⟩ command timeout = .ok bridge)
    {session : Session} {s : History (JsonLine (Register η))}
    (reachable : Reachable { session, transport := bridge } s) :
    let b := s.dispatcher.transport
    let process : Invocation := ⟨command.program, command.args, none, true⟩
    (s.position = .free →
      (s.dispatcher.fault = none ↔ b.pipes.isSome ∧ b.process = true ∧ b.inFlight = false)) ∧
    (s.dispatcher.fault = none → b.process = true ∧ b.host.deeds = [.started process]) ∧
    (s.dispatcher.fault ≠ none →
      b.pipes = none ∧ b.process = false ∧ b.host.deeds = [.started process, .stopped] ∧
        ∃ left, b.host.host = Host.stop left) ∧
    .error (.transport .desynchronized) ∉ s.returned ∧
    .error (.transport .terminated) ∉ s.returned := by
  intro b process
  have coupled := reachable_coupled rfl (JsonLine.start_ready started) reachable
  have accounted : JsonLine.Accounted process b :=
    reachable_tally (JsonLine.accounted_tally process) (l := [])
      (JsonLine.start_accounted started) reachable
  have deeds := accounted.deeds
  refine ⟨?_, fun usable => ?_, fun fault => ?_, fun refused => ?_, fun refused => ?_⟩
  · intro free
    have fits := coupled.fits
    rw [free] at fits
    rcases fits with ⟨usable, ready⟩ | ⟨fault, closed, -⟩
    · exact iff_of_true usable ready
    · exact iff_of_false fault fun ready => by simp [b, closed] at ready
  · have alive := coupled.alive usable
    rw [alive] at deeds
    exact ⟨alive, deeds⟩
  · obtain ⟨closed, gone⟩ := coupled.gone fault
    rw [gone] at deeds
    exact ⟨closed, gone, deeds, accounted.last gone⟩
  · exact absurd (coupled.begun _ refused) nofun
  · exact absurd (coupled.begun _ refused) nofun

/-- The process is there while an evaluation waits; when that was dropped and the dispatcher
knows of it, the process has been stopped. -/
theorem usable_iff_process_ready_dropped :
    let process : Invocation := ⟨"irust", [], none, true⟩
    ∃ (bridge : JsonLine (Register Unit)) (s t : History (JsonLine (Register Unit))),
      JsonLine.start (⟨(), []⟩ : Register Unit) ⟨"irust", []⟩ none = .ok bridge ∧
      Reachable { transport := bridge } s ∧ s.dispatcher.transport.inFlight = true ∧
      s.dispatcher.transport.host.deeds = [.started process] ∧
      Reachable { transport := bridge } t ∧
      t.dispatcher.fault = some "interpreter round trip was interrupted" ∧
      t.dispatcher.transport.pipes = none ∧ t.dispatcher.transport.process = false ∧
      t.dispatcher.transport.host.deeds = [.started process, .stopped] := by
  intro process
  let fresh : Register Unit := ⟨(), [.started process]⟩
  let bridge : JsonLine (Register Unit) := { host := fresh, timeout := none }
  have started : JsonLine.start (⟨(), []⟩ : Register Unit) ⟨"irust", []⟩ none = .ok bridge := rfl
  have waits : Reachable { transport := bridge }
      { dispatcher :=
          { session := { count := 1 }
            transport :=
              { host := fresh, timeout := none, inFlight := true, leg := some .writing } }
        position := .waiting (.calling .evaluate [])
        live := [⟨"a", false⟩] } :=
    .step .start (.submit _ ⟨"a", false⟩ rfl)
  have dropped := waits.step (.drop _ _ rfl)
  have told := dropped.step (.cancel _ nofun)
  obtain ⟨-, alive, -⟩ := usable_iff_process_ready started waits
  obtain ⟨-, -, gone, -⟩ := usable_iff_process_ready started told
  obtain ⟨closed, stopped, deeds, -⟩ := gone nofun
  exact ⟨_, _, _, started, waits, rfl, (alive rfl).2, told, rfl, closed, stopped, deeds⟩

end History

end NotebookKernel
