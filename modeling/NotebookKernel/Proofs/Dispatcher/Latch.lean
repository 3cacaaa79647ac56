import Mathlib.Logic.Relation
import NotebookKernel.Proofs.Dispatcher.Results
import NotebookKernel.Rehearsal

/-!
The end of a session, over any transport. A fault comes with an error and the
termination of the transport, and it is final: from then on every cell is refused, the
session stays as it is, and the transport is never asked for anything but its end.
-/

namespace NotebookKernel

/-- What a call asks for. -/
def Call.asked : Call → Asked
  | .evaluate snapshot => .evaluate snapshot
  | .forward cell => .forward cell

/-- A transport with all that was asked of it, in order. -/
structure Minuted (τ : Type) where
  transport : τ
  asked : List Asked := []

instance {τ ε : Type} [Transport τ ε] : Transport (Minuted τ) ε where
  protocol m := Transport.protocol m.transport
  begin m c := (Transport.begin m.transport c).map (⟨·, m.asked ++ [c.asked]⟩) id
  resume m heard := (Transport.resume m.transport heard).map (⟨·, m.asked⟩) id
  abandon m := ⟨Transport.abandon m.transport, m.asked⟩
  cancel m := (Transport.cancel m.transport).map (⟨·, m.asked ++ [.cancel]⟩) id
  terminate m := (Transport.terminate m.transport).map (⟨·, m.asked ++ [.terminate]⟩) id

namespace Dispatcher

variable {τ ε : Type} [Transport τ ε]

theorem cancel_defunct {d : Dispatcher τ} (fault : d.fault ≠ none) : d.cancel.1.fault ≠ none := by
  obtain ⟨-, left⟩ | ⟨failure, -, left⟩ := d.cancel_cases
  · rw [left]
    exact fault
  · rw [left]
    exact nofun

theorem shutdown_defunct (d : Dispatcher τ) : d.shutdown.fault ≠ none := by
  simp [shutdown]

/-- If the dispatcher has become defunct, its transport was terminated for it. -/
def EndsWith (d next : Dispatcher (Minuted τ)) : Prop :=
  ∃ more, next.transport.asked = d.transport.asked ++ more ∧
    (d.fault = none → next.fault ≠ none → .terminate ∈ more)

/-- The session is the same, and the transport was asked for nothing but its end. -/
structure Quiet (d next : Dispatcher (Minuted τ)) : Prop where
  session : next.session = d.session
  asked : ∃ more, next.transport.asked = d.transport.asked ++ more ∧
    ∀ a ∈ more, a = .cancel ∨ a = .terminate

theorem Quiet.refl (d : Dispatcher (Minuted τ)) : Quiet d d :=
  ⟨rfl, [], (List.append_nil _).symm, nofun⟩

theorem Quiet.trans {d next last : Dispatcher (Minuted τ)} (h : Quiet d next)
    (g : Quiet next last) : Quiet d last := by
  obtain ⟨session, more, asked, ending⟩ := h
  obtain ⟨session', more', asked', ending'⟩ := g
  refine ⟨session'.trans session, more ++ more', ?_, ?_⟩
  · rw [asked', asked, List.append_assoc]
  · intro a member
    exact (List.mem_append.mp member).elim (ending a) (ending' a)

section Asked

variable (d : Dispatcher (Minuted τ))

theorem EndsWith.refl : EndsWith d d := ⟨[], (List.append_nil _).symm, absurd⟩

theorem progress_ends (action : Action) (events : List DisplayEvent)
    (came : Minuted τ × Progress Answer) (more : List Asked)
    (asked : came.1.asked = d.transport.asked ++ more) :
    EndsWith d (d.progress action events came).1 := by
  rcases d.progress_cases action events came with left | ⟨failure, left⟩
  · rw [left]
    exact ⟨more, asked, absurd⟩
  · rw [left]
    refine ⟨more ++ [.terminate], ?_, fun _ _ => List.mem_append_right _ (List.mem_singleton_self _)⟩
    rw [← List.append_assoc, ← asked]
    rfl

theorem submit_ends (cell : String) (silent : Bool) : EndsWith d (d.submit cell silent).1 := by
  cases fault : d.fault with
  | some reason =>
    rw [d.submit_defunct cell silent fault]
    exact .refl d
  | none =>
    obtain ⟨noted, rfl, finished | ⟨action, events, c, calls⟩⟩ := d.submit_usable cell silent fault
    · rw [finished]
      exact ⟨[], (List.append_nil _).symm, absurd⟩
    · rw [calls]
      exact progress_ends _ action events _ [c.asked] rfl

theorem resume_ends (stage : Stage) (heard : ε) : EndsWith d (d.resume stage heard).1 := by
  cases stage with
  | calling action events =>
    exact d.progress_ends action events _ [] (List.append_nil _).symm
  | closing failure => exact .refl d

theorem abandon_ends (stage : Stage) : EndsWith d (d.abandon stage) := by
  cases stage <;> exact ⟨[], (List.append_nil _).symm, absurd⟩

/-- What a cancellation asks for. -/
theorem cancel_asked :
    d.cancel.1.transport.asked = d.transport.asked ++ [.cancel] ∧ d.cancel.1.fault = d.fault ∨
      d.cancel.1.transport.asked = d.transport.asked ++ [.cancel, .terminate] := by
  obtain ⟨-, left⟩ | ⟨failure, -, left⟩ := d.cancel_cases
  · rw [left]
    exact .inl ⟨rfl, rfl⟩
  · rw [left]
    exact .inr (List.append_assoc _ _ _)

theorem cancel_ends : EndsWith d d.cancel.1 := by
  rcases d.cancel_asked with ⟨asked, same⟩ | asked
  · exact ⟨_, asked, fun usable fault => absurd (same.trans usable) fault⟩
  · exact ⟨_, asked, fun _ _ => by simp⟩

theorem cancel_quiet : Quiet d d.cancel.1 := by
  rcases d.cancel_asked with ⟨asked, -⟩ | asked
  all_goals exact ⟨d.cancel_session, _, asked, by simp⟩

theorem shutdown_ends : EndsWith d d.shutdown :=
  ⟨[.terminate], rfl, fun _ _ => List.mem_singleton_self _⟩

theorem shutdown_quiet : Quiet d d.shutdown :=
  ⟨rfl, [.terminate], rfl, by simp⟩

end Asked

end Dispatcher

namespace History

variable {τ ε : Type} [Transport τ ε]

/-- Only the start of a cell and what it hears return anything. -/
theorem proceed_failed {s : History τ} {came : Dispatcher τ × NotebookKernel.Step}
    (sound : came.2.Sound came.1) {e : DispatchError}
    (returned : (s.proceed came).returned = s.returned ++ [.error e]) :
    (s.proceed came).dispatcher.fault ≠ none := by
  obtain ⟨dispatcher, step⟩ := came
  have sound : step.Sound dispatcher := sound
  cases sound with
  | calling | closing | shown => simp [proceed] at returned
  | failed _ fault => exact fault

theorem step_failed {d : Dispatcher τ} {s t : History τ} (reachable : Reachable d s)
    (step : Step s t) {e : DispatchError} (returned : t.returned = s.returned ++ [.error e]) :
    t.dispatcher.fault ≠ none := by
  cases step with
  | submit cell free =>
    have before : (s.enter cell).returned = s.returned := by
      unfold enter
      split <;> rfl
    rw [← before] at returned
    exact proceed_failed (s.dispatcher.submit_sound cell.code cell.silent) returned
  | wake stage heard waits =>
    exact proceed_failed (Dispatcher.resume_sound (reachable_sound reachable waits) heard) returned
  | drop | cancel | shutdown => simp at returned

/-- A cell that still waits for a defunct dispatcher has failed. -/
theorem closing_of_defunct {d : Dispatcher τ} {s : History τ} (reachable : Reachable d s)
    (fault : s.dispatcher.fault ≠ none) {stage : Stage} (waits : s.position = .waiting stage) :
    ∃ failure, stage = .closing failure := by
  cases reachable_sound reachable waits with
  | calling _ _ usable => exact absurd usable fault
  | closing failure => exact ⟨failure, rfl⟩

/-- All that a step can do to a defunct dispatcher. -/
theorem step_defunct {d : Dispatcher τ} {s t : History τ} (reachable : Reachable d s)
    (step : Step s t) (fault : s.dispatcher.fault ≠ none) :
    t.dispatcher = s.dispatcher ∨ t.dispatcher = s.dispatcher.cancel.1 ∨
      t.dispatcher = s.dispatcher.shutdown := by
  cases step with
  | submit cell free =>
    obtain ⟨reason, recorded⟩ := Option.ne_none_iff_exists'.mp fault
    rw [proceed_dispatcher, s.dispatcher.submit_defunct cell.code cell.silent recorded]
    exact .inl rfl
  | wake stage heard waits =>
    obtain ⟨failure, rfl⟩ := closing_of_defunct reachable fault waits
    exact .inl (proceed_dispatcher _ _)
  | drop stage waits =>
    obtain ⟨failure, rfl⟩ := closing_of_defunct reachable fault waits
    exact .inl rfl
  | cancel able => exact .inr (.inl rfl)
  | shutdown able => exact .inr (.inr rfl)

theorem reachable_later {d : Dispatcher τ} {s t : History τ} (reachable : Reachable d s)
    (later : Relation.ReflTransGen Step s t) : Reachable d t := by
  induction later with
  | refl => exact reachable
  | tail _ step ih => exact ih.step step

/-- What cancellations and shutdowns keep of a defunct dispatcher holds for ever. -/
theorem later_defunct {d : Dispatcher τ} {s t : History τ} (reachable : Reachable d s)
    (fault : s.dispatcher.fault ≠ none) (later : Relation.ReflTransGen Step s t)
    (kept : Dispatcher τ → Prop) (now : kept s.dispatcher)
    (cancel : ∀ d, kept d → kept d.cancel.1) (shutdown : ∀ d, kept d → kept d.shutdown) :
    t.dispatcher.fault ≠ none ∧ kept t.dispatcher := by
  induction later with
  | refl => exact ⟨fault, now⟩
  | @tail t u before step ih =>
    obtain ⟨fault, now⟩ := ih
    obtain same | same | same := step_defunct (reachable_later reachable before) step fault
    all_goals rw [same]
    · exact ⟨fault, now⟩
    · exact ⟨Dispatcher.cancel_defunct fault, cancel _ now⟩
    · exact ⟨Dispatcher.shutdown_defunct _, shutdown _ now⟩

theorem step_ends {s t : History (Minuted τ)} (step : Step s t) :
    s.dispatcher.EndsWith t.dispatcher := by
  cases step with
  | submit cell free =>
    rw [proceed_dispatcher]
    exact s.dispatcher.submit_ends cell.code cell.silent
  | wake stage heard waits =>
    rw [proceed_dispatcher]
    exact s.dispatcher.resume_ends stage heard
  | drop stage waits => exact s.dispatcher.abandon_ends stage
  | cancel able => exact s.dispatcher.cancel_ends
  | shutdown able => exact s.dispatcher.shutdown_ends

/-- After any history over any transport: a cell or a cancellation that fails leaves the
dispatcher defunct, and whatever makes it defunct has the transport terminated. From then
on it stays defunct with the session that it has, whatever follows: the transport is asked
for nothing but its end, and every cell is refused with the fault. -/
theorem defunct_for_good {d : Dispatcher (Minuted τ)} {s : History (Minuted τ)}
    (reachable : Reachable d s) :
    (∀ t e, Step s t → t.returned = s.returned ++ [.error e] → t.dispatcher.fault ≠ none) ∧
    (∀ e, s.dispatcher.cancel.2 = .error e → s.dispatcher.cancel.1.fault ≠ none) ∧
    (∀ t, Step s t → s.dispatcher.fault = none → t.dispatcher.fault ≠ none →
      ∃ more, t.dispatcher.transport.asked = s.dispatcher.transport.asked ++ more ∧
        .terminate ∈ more) ∧
    (s.dispatcher.fault ≠ none → ∀ t, Relation.ReflTransGen Step s t →
      s.dispatcher.Quiet t.dispatcher ∧
      ∃ reason, t.dispatcher.fault = some reason ∧ ∀ cell silent (heard : List ε),
        t.dispatcher.dispatch cell silent heard =
          (t.dispatcher, .done (.error (.defunct reason)))) := by
  refine ⟨fun t e step returned => step_failed reachable step returned, ?_, ?_, ?_⟩
  · intro e failed
    obtain ⟨done, -⟩ | ⟨failure, -, left⟩ := s.dispatcher.cancel_cases
    · exact absurd (done.symm.trans failed) nofun
    · rw [left]
      exact nofun
  · intro t step usable fault
    obtain ⟨more, asked, ends⟩ := step_ends step
    exact ⟨more, asked, ends usable fault⟩
  · intro fault t later
    obtain ⟨still, quiet⟩ := later_defunct reachable fault later s.dispatcher.Quiet (.refl _)
      (fun d h => h.trans d.cancel_quiet) (fun d h => h.trans d.shutdown_quiet)
    obtain ⟨reason, recorded⟩ := Option.ne_none_iff_exists'.mp still
    exact ⟨quiet, reason, recorded, fun cell silent heard =>
      t.dispatcher.dispatch_defunct cell silent recorded heard⟩

/-- An interpreter that exits at its first evaluation; a cancellation and a dependency come
after it. -/
theorem defunct_for_good_exited :
    let d : Dispatcher (Minuted Rehearsal) :=
      { transport := { transport := { cues := [.answer (.error .childExited)] } } }
    let reason := "interpreter exited unexpectedly"
    ∃ s t : History (Minuted Rehearsal), Reachable d s ∧
      s.returned = [.error (.transport .childExited)] ∧
      s.dispatcher.transport.asked = [.evaluate ⟨"1", "", .stable⟩, .terminate] ∧
      Relation.ReflTransGen Step s t ∧ s.dispatcher.Quiet t.dispatcher ∧
      t.dispatcher.transport.asked =
        [.evaluate ⟨"1", "", .stable⟩, .terminate, .cancel] ∧
      t.returned = [.error (.transport .childExited), .error (.defunct reason)] ∧
      t.dispatcher.dispatch "2" false [] = (t.dispatcher, .done (.error (.defunct reason))) := by
  intro d reason
  let asked : List Asked := [.evaluate ⟨"1", "", .stable⟩, .terminate]
  let exited (asked : List Asked) : Dispatcher (Minuted Rehearsal) :=
    { session := { count := 1 }, transport := ⟨{ asked }, asked⟩, fault := some reason }
  have failed : Reachable d
      { dispatcher := exited asked
        live := [⟨"1", false⟩]
        returned := [.error (.transport .childExited)] } :=
    .step .start (.submit _ ⟨"1", false⟩ rfl)
  have cancels := Step.cancel
    { dispatcher := exited asked
      live := [⟨"1", false⟩]
      returned := [.error (.transport .childExited)] } nofun
  have refused := Step.submit
    { dispatcher := exited (asked ++ [.cancel])
      live := [⟨"1", false⟩]
      returned := [.error (.transport .childExited)] } ⟨":add rand", false⟩ rfl
  have later := (Relation.ReflTransGen.single cancels).tail refused
  obtain ⟨-, -, -, latched⟩ := defunct_for_good failed
  obtain ⟨quiet, same, recorded, refuses⟩ := latched nofun _ later
  cases recorded
  exact ⟨_, _, failed, rfl, rfl, later, quiet, rfl, rfl, refuses "2" false []⟩

end History

end NotebookKernel
