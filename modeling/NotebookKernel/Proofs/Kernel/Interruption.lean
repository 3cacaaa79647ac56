import NotebookKernel.Bridge.OneShot
import NotebookKernel.Proofs.Dispatcher.Coupling
import NotebookKernel.Proofs.Kernel.Use

/-!
What an interrupted cell is told. Its reply gives a reason if the interrupt has cost the
session, and leaves the reader to think that there is one otherwise. A session that was
lost before the interrupt is not always mentioned: over the lasting process that depends
on whether a request of it is still in flight.
-/

namespace NotebookKernel

/-- The reply of an interrupted cell has no reason just if the dispatcher is usable, and a
reason just if it is defunct. -/
def CellError.TellsTruth {τ : Type} (e : CellError) (d : Dispatcher τ) : Prop :=
  (e.value = "cell execution was interrupted" ↔ d.fault = none) ∧
    ((∃ reason, e.value = "cell execution was interrupted: " ++ reason) ↔ d.fault ≠ none)

namespace Outcome

theorem interruption_value (e : DispatchError) :
    (interruption (some e)).value = "cell execution was interrupted: " ++ e.message :=
  String.append_assoc.symm

theorem interruption_bare (loss : Option DispatchError) :
    (interruption loss).value = "cell execution was interrupted" ↔ loss = none := by
  cases loss with
  | none => exact iff_of_true rfl rfl
  | some e =>
    refine iff_of_false (fun same => ?_) nofun
    have length := congrArg String.length (same.symm.trans (interruption_value e))
    rw [String.length_append] at length
    have longer : "cell execution was interrupted".length <
        "cell execution was interrupted: ".length := by decide
    omega

theorem interruption_reason (loss : Option DispatchError) :
    (∃ reason, (interruption loss).value = "cell execution was interrupted: " ++ reason) ↔
      loss ≠ none := by
  cases loss with
  | none =>
    refine iff_of_false (fun ⟨reason, same⟩ => ?_) (by simp)
    have length := congrArg String.length
      (((interruption_bare none).mpr rfl).symm.trans same)
    rw [String.length_append] at length
    have longer : "cell execution was interrupted".length <
        "cell execution was interrupted: ".length := by decide
    omega
  | some e => exact iff_of_true ⟨_, interruption_value e⟩ nofun

theorem interruption_truth {τ : Type} (loss : Option DispatchError) (d : Dispatcher τ) :
    (interruption loss).TellsTruth d ↔ (loss = none ↔ d.fault = none) := by
  rw [CellError.TellsTruth, interruption_bare, interruption_reason]
  exact ⟨And.left, fun same => ⟨same, not_congr same⟩⟩

end Outcome

namespace Dispatcher

variable {τ ε : Type} [Transport τ ε]

/-- A cancellation that fails leaves a defunct dispatcher; one that does not changes
nothing about that. -/
theorem cancel_truth (d : Dispatcher τ) :
    (Outcome.interruption (Outcome.loss d.cancel.2)).TellsTruth d.cancel.1 ↔
      d.fault = none ∨ ∃ e, d.cancel.2 = .error e := by
  rw [Outcome.interruption_truth]
  unfold cancel
  split
  · simp [Outcome.loss]
  · simp [Outcome.loss, fail]

end Dispatcher

namespace Kernel

section Handle

variable {τ ε : Type} [Transport τ ε]

/-- The event ends the running cell and leaves the dispatcher that was told of it; the
reply of the cell tells the truth about it just under the condition. -/
def ToldTruly (k : Kernel τ) (cell : Cell) (stage : Option Stage) (event : Event ε)
    (condition : Prop) : Prop :=
  ∃ (goesOn : Bool) (after : Dispatcher τ) (e : CellError),
    after = (k.dispatcher.dropAt stage).cancel.1 ∧
    k.handle event =
      (if goesOn then { dispatcher := after } else stop { dispatcher := after } none,
        event.answer ++ closing cell.request [.error e] after.session.count (some e)) ∧
    (e.TellsTruth after ↔ condition)

theorem ToldTruly.congr {k : Kernel τ} {cell : Cell} {stage : Option Stage} {event : Event ε}
    {condition other : Prop} (told : k.ToldTruly cell stage event condition)
    (same : condition ↔ other) : k.ToldTruly cell stage event other := by
  obtain ⟨goesOn, after, e, cancelled, handles, truly⟩ := told
  exact ⟨goesOn, after, e, cancelled, handles, truly.trans same⟩

theorem handle_toldTruly {k : Kernel τ} {cell : Cell} {stage : Option Stage} {event : Event ε}
    (running : k.activity = .running cell stage) (interrupts : event.interrupts?.isSome) :
    k.ToldTruly cell stage event
      (k.dispatcher.fault = none ∨ ∃ e, (k.dispatcher.dropAt stage).cancel.2 = .error e) := by
  obtain ⟨goesOn, broken⟩ := Option.isSome_iff_exists.mp interrupts
  have truth := (k.dispatcher.dropAt stage).cancel_truth
  rw [Dispatcher.dropAt_fault] at truth
  cases cancelled : (k.dispatcher.dropAt stage).cancel with
  | mk after result =>
    rw [cancelled] at truth
    exact ⟨goesOn, after, _, (congrArg Prod.fst cancelled).symm,
      handle_interrupts running broken cancelled, truth⟩

end Handle

variable {η : Type} [Host η]

theorem cancel_fails_iff (d : Dispatcher (JsonLine η)) :
    (∃ e, d.cancel.2 = .error e) ↔ d.transport.inFlight = true := by
  cases flight : d.transport.inFlight with
  | false => simp [Dispatcher.cancel_idle flight]
  | true => simp [Dispatcher.cancel_busy flight]

theorem dropAt_inFlight (d : Dispatcher (JsonLine η)) (stage : Option Stage) :
    (d.dropAt stage).transport.inFlight = d.transport.inFlight := by
  match stage with
  | none | some (.calling _ _) | some (.closing _) => rfl

/-- Where an interrupt of the lasting process does not hide that the session is lost: before
the cell begins, if it is not or if a request is still in flight; while the end of the
process is waited for, if it was not a line that gave offence. -/
def Noticed (d : Dispatcher (JsonLine η)) : Option Stage → Prop
  | none => d.fault = none ∨ d.transport.inFlight = true
  | some (.calling _ _) => True
  | some (.closing failure) => Answer.completes (.error failure) = false

/-- Where a kernel stands whose cell is running. -/
theorem follows_running {τ ε : Type} [Transport τ ε] (d : Dispatcher τ)
    (events : List (Event ε)) {cell : Cell} {stage : Option Stage}
    (running : (handleAll { dispatcher := d } events).1.activity = .running cell stage) :
    ∃ s : History τ, History.Reachable d s ∧
      s.dispatcher = (handleAll { dispatcher := d } events).1.dispatcher ∧
      s.position = History.Leads.positionAt stage := by
  have fresh : Follows d { dispatcher := d } := History.Leads.start d
  have follows := handleAll_follows fresh events
  simpa only [Follows, History.Leads, position, running] using follows

theorem jsonLine_toldTruly {d : Dispatcher (JsonLine η)} (usable : d.fault = none)
    (ready : d.transport.Ready) {k : Kernel (JsonLine η)} {events : List (Event Wake)}
    (reached : (handleAll { dispatcher := d } events).1 = k) {cell : Cell}
    {stage : Option Stage} (running : k.activity = .running cell stage) {event : Event Wake}
    (interrupts : event.interrupts?.isSome) :
    k.ToldTruly cell stage event (Noticed k.dispatcher stage) := by
  subst reached
  apply (handle_toldTruly running interrupts).congr
  rw [cancel_fails_iff, dropAt_inFlight]
  obtain ⟨s, reachable, at_, stands⟩ := follows_running d events running
  cases stage with
  | none => rfl
  | some stage =>
    have sound := History.reachable_sound reachable stands
    rw [at_] at sound
    cases sound with
    | calling action raw usable => exact iff_of_true (.inl usable) trivial
    | closing failure fault _ =>
      -- The fault is recorded already; whether the cancellation fails is up to the flight.
      have flight := History.closing_flight usable ready reachable stands
      rw [← at_, flight]
      simp [Noticed, fault, at_]

/-- A cancellation never fails there, and the end of a process is not waited for. -/
theorem oneShot_toldTruly {d : Dispatcher (OneShot η)} {k : Kernel (OneShot η)}
    {events : List (Event Wake)} (reached : (handleAll { dispatcher := d } events).1 = k)
    {cell : Cell} {stage : Option Stage} (running : k.activity = .running cell stage)
    {event : Event Wake} (interrupts : event.interrupts?.isSome) :
    k.ToldTruly cell stage event (stage = none → k.dispatcher.fault = none) := by
  subst reached
  apply (handle_toldTruly running interrupts).congr
  have harmless (d : Dispatcher (OneShot η)) : ¬ ∃ e, d.cancel.2 = .error e := by
    simp [Dispatcher.cancel, Transport.cancel]
  rw [or_iff_left (harmless _)]
  obtain ⟨s, reachable, at_, stands⟩ := follows_running d events running
  cases stage with
  | none => simp
  | some stage =>
    have sound := History.reachable_sound reachable stands
    rw [at_] at sound
    cases sound with
    | calling action raw usable => simp [usable]
    | closing failure fault slow =>
      obtain ⟨_, waits⟩ := slow
      cases waits

/-- The first evaluation of a fresh process, which waits for it. -/
def asking (leg : Leg) (message : Message) (code : String) : Kernel (JsonLine Unit) where
  dispatcher :=
    { session := { count := 1 }
      transport := { host := (), timeout := none, inFlight := true, leg := some leg } }
  activity := .running ⟨message.id, code, false⟩ (some (.calling .evaluate []))

theorem handleAll_asking {message : Message} {code : String}
    (asked : message.inquiry = .ok (.execute code false))
    (evaluates : Directive.classify code false = .evaluate) (events : List (Event Wake)) :
    let fresh : Kernel (JsonLine Unit) :=
      { dispatcher := { transport := { host := (), timeout := none } } }
    fresh.handleAll (.shell message :: .start :: events) =
      ((asking .writing message code).handleAll events).map id
        (opening message.id code false 1 ++ ·) := by
  intro fresh
  let announced : Kernel (JsonLine Unit) :=
    { fresh with activity := .running ⟨message.id, code, false⟩ none }
  have announces : fresh.handle (.shell message : Event Wake) =
      (announced, opening message.id code false 1) := by
    rw [handle_execute rfl asked]
    simp only [Kernel.announced, evaluates]
    rfl
  have begins : announced.handle .start = (asking .writing message code, []) := by
    simp only [announced, handle, Dispatcher.submit, fresh, evaluates]
    rfl
  simp only [handleAll, announces, begins, List.nil_append]
  rfl

/-- Whatever interrupts a running cell, in whatever run of the kernel and at whatever
moment, the cell's reply is true about the session but for these: over the lasting process,
a cell of a lost session that has not begun while no request is in flight, or one whose
process is being ended for a line that was no response; with one process for each
evaluation, a cell of a lost session that has not begun. -/
theorem interruption_told_truly_iff {event : Event Wake} (interrupts : event.interrupts?.isSome)
    (session : Session) (events : List (Event Wake)) (cell : Cell) (stage : Option Stage) :
    (∀ (host : η) (command : Command) (timeout : Option Duration) (bridge : JsonLine η)
        (k : Kernel (JsonLine η)), JsonLine.start host command timeout = .ok bridge →
      (handleAll { dispatcher := { session, transport := bridge } } events).1 = k →
      k.activity = .running cell stage →
      k.ToldTruly cell stage event (Noticed k.dispatcher stage)) ∧
    (∀ (bridge : OneShot η) (k : Kernel (OneShot η)),
      (handleAll { dispatcher := { session, transport := bridge } } events).1 = k →
      k.activity = .running cell stage →
      k.ToldTruly cell stage event (stage = none → k.dispatcher.fault = none)) := by
  refine ⟨fun host command timeout bridge k started reached running => ?_,
    fun bridge k reached running => oneShot_toldTruly reached running interrupts⟩
  exact jsonLine_toldTruly rfl (JsonLine.start_ready started) reached running interrupts

/-- An evaluation that is interrupted while its process has the code is told that there is
a reason. -/
theorem interruption_told_truly_iff_calling :
    let d : Dispatcher (JsonLine Unit) := { transport := { host := (), timeout := none } }
    let cell : Message := ⟨"1", "execute_request",
      .obj [("code", .str "a"), ("silent", .bool false), ("store_history", .bool true)]⟩
    let k := (handleAll { dispatcher := d } [.shell cell, .start]).1
    ∃ after e, k.handle .interrupt =
        ({ dispatcher := after }, closing "1" [.error e] after.session.count (some e)) ∧
      after.fault ≠ none ∧ ∃ reason, e.value = "cell execution was interrupted: " ++ reason := by
  intro d cell k
  have evaluates : Directive.classify "a" false = .evaluate := rfl
  have reached : k = asking .writing cell "a" :=
    congrArg Prod.fst (handleAll_asking rfl evaluates [])
  have interrupts : (Event.interrupt : Event Wake).interrupts?.isSome := rfl
  have told := (interruption_told_truly_iff interrupts {} [.shell cell, .start] ⟨"1", "a", false⟩
    (some (.calling .evaluate []))).1 () ⟨"re", []⟩ none d.transport k rfl rfl
    (by rw [reached]; rfl)
  rw [reached] at told ⊢
  obtain ⟨goesOn, after, e, rfl, handles, truly⟩ := told
  cases goesOn with
  | false => exact absurd (congrArg (·.1.activity) handles) nofun
  | true =>
    refine ⟨_, e, handles, nofun, ?_⟩
    exact (truly.mpr trivial).2.mpr nofun

/-- A process prints a line that is no response and has to be ended for it. The cell that is
interrupted now is told of no reason, but its session is lost. -/
theorem interruption_hides_malformed :
    let bridge : JsonLine Unit := { host := (), timeout := none }
    let cell : Message := ⟨"1", "execute_request",
      .obj [("code", .str "a"), ("silent", .bool false), ("store_history", .bool true)]⟩
    let bare : CellError := ⟨"Interrupted", "cell execution was interrupted"⟩
    JsonLine.start () ⟨"re", []⟩ none = .ok bridge ∧
      ∃ after : Dispatcher (JsonLine Unit),
        handleAll { dispatcher := { transport := bridge } }
            [.shell cell, .start, .wake .accepted, .wake (.arrived [120, 10]), .interrupt] =
          ({ dispatcher := after },
            opening "1" "a" false 1 ++ closing "1" [.error bare] 1 (some bare)) ∧
        after.fault ≠ none := by
  intro bridge cell bare
  refine ⟨rfl, ?_⟩
  have unread : (Response.ofLine (.ofList ['x', '\n'])).toOption = none := by decide +kernel
  obtain ⟨text, e, read⟩ := JsonLine.reading_malformed unread
  let after : Dispatcher (JsonLine Unit) :=
    { session := { count := 1 }
      transport := { bridge with process := false, pipes := none, roundTrips := 1 }
      fault := some (TransportError.malformed text e).message }
  let ending : Kernel (JsonLine Unit) :=
    { dispatcher := after
      activity := .running ⟨"1", "a", false⟩ (some (.closing (.malformed text e))) }
  have reads : (asking .writing cell "a").handle (.wake .accepted) =
      (asking .reading cell "a", []) := rfl
  have closes : (asking .reading cell "a").handle (.wake (.arrived [120, 10])) = (ending, []) := by
    have heard : (asking .reading cell "a").dispatcher.transport.hear (.arrived [120, 10]) =
        ({ bridge with roundTrips := 1 }, .done (JsonLine.understand (.ofList ['x', '\n']))) := rfl
    have answered : Transport.resume (asking .reading cell "a").dispatcher.transport
        (.arrived [120, 10]) =
        ({ bridge with roundTrips := 1 }, .done (.error (.malformed text e))) := by
      simp only [Transport.resume, heard, JsonLine.answer_understand, read]
    exact congrArg (fun came => progress ⟨"1", "a", false⟩
      ((asking .reading cell "a").dispatcher.progress .evaluate [] came)) answered
  have ends : ending.handle (.interrupt : Event Wake) =
      ({ dispatcher := after }, closing "1" [.error bare] 1 (some bare)) := rfl
  have evaluates : Directive.classify "a" false = .evaluate := rfl
  refine ⟨after, ?_, nofun⟩
  rw [handleAll_asking rfl evaluates]
  simp only [handleAll, reads, closes, ends, List.nil_append, List.append_nil]
  rfl

end Kernel

end NotebookKernel
