import NotebookKernel.Bridge.OneShot
import NotebookKernel.Proofs.Dispatcher.Coupling
import NotebookKernel.Proofs.Dispatcher.Latch

/-!
Why a session is defunct. A shutdown keeps the reason that there is, and so does a
cancellation with one process for each evaluation. Over the lasting process a cancellation
finds a request that was left in flight, and puts the interruption in the place of what
had gone wrong.
-/

namespace NotebookKernel

namespace Dispatcher

/-- The reason that a cancellation gives. -/
def interruption : String := TransportError.interrupted.message

theorem shutdown_fault {τ ε : Type} [Transport τ ε] {d : Dispatcher τ} {reason : String}
    (fault : d.fault = some reason) : d.shutdown.fault = some reason := by
  simp only [shutdown, fault, Option.some_or]

variable {η : Type} [Host η]

theorem shutdown_inFlight (d : Dispatcher (JsonLine η)) :
    d.shutdown.transport.inFlight = d.transport.inFlight :=
  d.transport.terminate_inFlight

/-- The request stays in flight when its process is stopped. -/
theorem cancel_interrupted {d : Dispatcher (JsonLine η)} (busy : d.transport.inFlight = true) :
    d.cancel.1.fault = some interruption ∧ d.cancel.1.transport.inFlight = true := by
  rw [cancel_busy busy]
  exact ⟨rfl, (JsonLine.terminate_inFlight _).trans ((JsonLine.terminate_inFlight _).trans busy)⟩

theorem cancel_oneShot (d : Dispatcher (OneShot η)) : d.cancel.1 = d := rfl

end Dispatcher

namespace History

open Dispatcher (interruption)

/-- A defunct dispatcher may be told of a drop at any time. -/
theorem reaches_cancel {τ ε : Type} [Transport τ ε] {d : Dispatcher τ} {s : History τ}
    (reachable : Reachable d s) (fault : s.dispatcher.fault ≠ none) :
    ∃ t, Relation.ReflTransGen Step s t ∧ t.dispatcher = s.dispatcher.cancel.1 := by
  cases position : s.position with
  | free | dropped =>
    have able (stage : Stage) : s.position ≠ .waiting stage := by
      rw [position]
      exact nofun
    exact ⟨_, .single (.cancel s able), rfl⟩
  | waiting stage =>
    obtain ⟨failure, rfl⟩ := closing_of_defunct reachable fault position
    have drops := Step.drop s _ position
    have cancels := Step.cancel { s with dispatcher := s.dispatcher, position := .dropped } nofun
    exact ⟨_, (Relation.ReflTransGen.single drops).tail cancels, rfl⟩

variable {η : Type} [Host η]

/-- The flight of a request outlives its process, and only that can change the reason. -/
theorem later_fault {d : Dispatcher (JsonLine η)} {s t : History (JsonLine η)}
    (reachable : Reachable d s) {reason : String} (fault : s.dispatcher.fault = some reason)
    (later : Relation.ReflTransGen Step s t) :
    t.dispatcher.fault = some reason ∨
      s.dispatcher.transport.inFlight = true ∧ t.dispatcher.fault = some interruption := by
  let kept (d : Dispatcher (JsonLine η)) : Prop :=
    d.transport.inFlight = s.dispatcher.transport.inFlight ∧
      (d.fault = some reason ∨
        s.dispatcher.transport.inFlight = true ∧ d.fault = some interruption)
  have cancel (d : Dispatcher (JsonLine η)) (h : kept d) : kept d.cancel.1 := by
    obtain ⟨same, recorded⟩ := h
    cases flight : d.transport.inFlight with
    | false =>
      rw [Dispatcher.cancel_idle flight]
      exact ⟨same, recorded⟩
    | true =>
      obtain ⟨interrupted, busy⟩ := Dispatcher.cancel_interrupted flight
      have before := same.symm.trans flight
      exact ⟨busy.trans before.symm, .inr ⟨before, interrupted⟩⟩
  have shutdown (d : Dispatcher (JsonLine η)) (h : kept d) : kept d.shutdown := by
    obtain ⟨same, recorded⟩ := h
    refine ⟨d.shutdown_inFlight.trans same, ?_⟩
    exact recorded.imp Dispatcher.shutdown_fault (And.imp_right Dispatcher.shutdown_fault)
  have defunct : s.dispatcher.fault ≠ none := fault ▸ nofun
  exact (later_defunct reachable defunct later kept ⟨rfl, .inl fault⟩ cancel shutdown).2.2

/-- A reason that was recorded is the reason for ever just if, over the lasting process,
no request is in flight or the reason is an interruption already; an interruption is all
that it can ever give way to. With one process for each evaluation it always stays. -/
theorem first_reason_stays_iff {reason : String} :
    (∀ (d : Dispatcher (JsonLine η)) (s : History (JsonLine η)), Reachable d s →
      s.dispatcher.fault = some reason →
      ((∀ t, Relation.ReflTransGen Step s t → t.dispatcher.fault = some reason) ↔
        s.dispatcher.transport.inFlight = false ∨ reason = interruption) ∧
      ∀ t, Relation.ReflTransGen Step s t →
        t.dispatcher.fault = some reason ∨ t.dispatcher.fault = some interruption) ∧
    (∀ (d : Dispatcher (OneShot η)) (s : History (OneShot η)), Reachable d s →
      s.dispatcher.fault = some reason →
      ∀ t, Relation.ReflTransGen Step s t → t.dispatcher.fault = some reason) := by
  refine ⟨fun d s reachable fault => ⟨⟨fun stays => ?_, fun kept t later => ?_⟩, ?_⟩, ?_⟩
  · have defunct : s.dispatcher.fault ≠ none := fault ▸ nofun
    obtain ⟨t, later, cancelled⟩ := reaches_cancel reachable defunct
    cases flight : s.dispatcher.transport.inFlight with
    | false => exact .inl rfl
    | true =>
      have same := stays t later
      rw [cancelled, (Dispatcher.cancel_interrupted flight).1] at same
      exact .inr (Option.some.inj same).symm
  · rcases later_fault reachable fault later with same | ⟨flight, interrupted⟩
    · exact same
    · rcases kept with idle | rfl
      · exact absurd (idle.symm.trans flight) nofun
      · exact interrupted
  · exact fun t later => (later_fault reachable fault later).imp_right And.right
  · intro d s reachable fault t later
    have defunct : s.dispatcher.fault ≠ none := fault ▸ nofun
    exact (later_defunct reachable defunct later (·.fault = some reason) fault
      (fun d same => d.cancel_oneShot ▸ same) (fun d same => Dispatcher.shutdown_fault same)).2

/-- A shutdown of the lasting process is the reason for ever, and so is an output that could
not be read. -/
theorem first_reason_stays_iff_shutdown :
    let lasting : Dispatcher (JsonLine Unit) := { transport := { host := (), timeout := none } }
    let single : Dispatcher (OneShot Unit) :=
      { transport := { host := (), command := ⟨"re", []⟩, timeout := none } }
    (∃ s : History (JsonLine Unit), Reachable lasting s ∧
      s.dispatcher.fault = some "kernel shut down" ∧
      ∀ t, Relation.ReflTransGen Step s t → t.dispatcher.fault = some "kernel shut down") ∧
    ∃ s : History (OneShot Unit), Reachable single s ∧
      s.dispatcher.fault = some (TransportError.io .brokenPipe).message ∧
      ∀ t, Relation.ReflTransGen Step s t →
        t.dispatcher.fault = some (TransportError.io .brokenPipe).message := by
  intro lasting single
  have shut : Reachable lasting { dispatcher := lasting.shutdown } :=
    .step .start (.shutdown _ nofun)
  let begun : Dispatcher (OneShot Unit) :=
    { session := { count := 1 }, transport := { single.transport with captured := some [] } }
  have waits : Reachable single
      { dispatcher := begun, position := .waiting (.calling .evaluate []), live := [⟨"1", false⟩] } :=
    .step .start (.submit _ ⟨"1", false⟩ rfl)
  have unread := waits.step (.wake _ _ (Wake.failed .brokenPipe) rfl)
  have stays := (first_reason_stays_iff.1 lasting _ shut rfl).1.mpr (.inl rfl)
  have remains := first_reason_stays_iff.2 single _ unread rfl
  exact ⟨⟨_, shut, rfl, stays⟩, _, unread, rfl, remains⟩

/-- The process ends instead of answering. Once the dispatcher is told of a drop that never
happened, later cells are not refused with the end of the process any more. -/
theorem cancel_hides_exit :
    let bridge : JsonLine Unit := { host := (), timeout := none }
    JsonLine.start () ⟨"re", []⟩ none = .ok bridge ∧
      ∃ s t : History (JsonLine Unit), Reachable { transport := bridge } s ∧ s.position = .free ∧
        s.dispatcher.fault = some "interpreter exited unexpectedly" ∧
        Relation.ReflTransGen Step s t ∧ t.position = .free ∧
        t.dispatcher.fault = some "interpreter round trip was interrupted" ∧
        t.returned = [.error (.transport .childExited),
          .error (.defunct "interpreter round trip was interrupted")] := by
  intro bridge
  refine ⟨rfl, ?_⟩
  have fresh : Reachable { transport := bridge } { dispatcher := { transport := bridge } } := .start
  have writes := fresh.step (.submit _ ⟨"1", false⟩ rfl)
  have reads := writes.step (.wake _ _ Wake.accepted rfl)
  have exits := reads.step (.wake _ _ Wake.ended rfl)
  let gone (reason : String) : History (JsonLine Unit) :=
    { dispatcher :=
        { session := { count := 1 }
          transport := { bridge with process := false, pipes := none, inFlight := true }
          fault := some reason }
      live := [⟨"1", false⟩]
      returned := [.error (.transport .childExited)] }
  have ends := exits.step (.wake _ _ Wake.ended rfl)
  have failed : Reachable { transport := bridge } (gone "interpreter exited unexpectedly") := ends
  have cancels := Step.cancel (gone "interpreter exited unexpectedly") nofun
  have refused := Step.submit (gone "interpreter round trip was interrupted") ⟨"2", false⟩ rfl
  have later := (Relation.ReflTransGen.single cancels).tail refused
  exact ⟨_, _, failed, rfl, rfl, later, rfl, rfl, rfl⟩

end History

end NotebookKernel
