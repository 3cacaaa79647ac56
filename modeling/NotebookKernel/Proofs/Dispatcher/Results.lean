import NotebookKernel.Proofs.Dispatcher.History

/-!
What a cell can come to over any transport. Whatever is shown for it is the translation of
one raw result, and its count is the session's.
-/

namespace NotebookKernel

/-- What a step of a cell may be that leaves its dispatcher so. -/
inductive Step.Sound {τ ε : Type} [Transport τ ε] (d : Dispatcher τ) : Step → Prop
  | calling (action : Action) (raw : RawResult) (usable : d.fault = none) :
      Sound d (.waiting (.calling action raw.translate))
  | closing (failure : TransportError) (fault : d.fault = some failure.message)
      (slow : ∃ transport : τ, (Transport.terminate transport).2 = .waiting) :
      Sound d (.waiting (.closing failure))
  | shown (action : Action) (raw : RawResult) :
      Sound d (.done (.ok (d.dispatched action raw.translate)))
  | failed (e : DispatchError) (fault : d.fault ≠ none) : Sound d (.done (.error e))

namespace Dispatcher

variable {τ ε : Type} [Transport τ ε]

/-- What a directive shows by itself could have been printed. -/
theorem unanswered_translate (directive : Directive) :
    ∃ raw, unanswered directive = RawResult.translate raw := by
  cases directive with
  | setToolchain name =>
    simp only [unanswered]
    split
    · exact ⟨.response .silent, rfl⟩
    · rename_i unknown _
      exact ⟨.text (unknown.message ++ "\n"), rfl⟩
  | addDependency | accumulate | evaluate => exact ⟨.response .silent, rfl⟩

theorem settle_sound (d : Dispatcher τ) (action : Action) (raw : RawResult) (answer : Answer) :
    (d.settle action raw.translate answer).2.Sound (d.settle action raw.translate answer).1 := by
  match answer with
  | .ok (some raw) => exact .shown action raw
  | .ok none => exact .shown action raw
  | .error failure =>
    have fault : (d.fail failure).1.fault = some failure.message := rfl
    have ending : (d.fail failure).2 = (Transport.terminate d.transport).2 := rfl
    simp only [settle]
    generalize d.fail failure = failed at fault ending
    obtain ⟨left, _ | ⟨⟩⟩ := failed
    · exact .closing failure fault ⟨d.transport, ending.symm⟩
    · exact .failed _ (fault ▸ Option.some_ne_none _)

theorem progress_sound {d : Dispatcher τ} (usable : d.fault = none) (action : Action)
    (raw : RawResult) (came : τ × Progress Answer) :
    (d.progress action raw.translate came).2.Sound (d.progress action raw.translate came).1 := by
  obtain ⟨transport, progress⟩ := came
  cases progress with
  | waiting => exact .calling action raw usable
  | done answer => exact settle_sound { d with transport } action raw answer

theorem submit_sound (d : Dispatcher τ) (cell : String) (silent : Bool) :
    (d.submit cell silent).2.Sound (d.submit cell silent).1 := by
  cases fault : d.fault with
  | some reason =>
    simp only [submit, fault]
    exact .failed _ (fault ▸ Option.some_ne_none _)
  | none =>
    simp only [submit, fault]
    generalize Directive.classify cell silent = directive
    obtain ⟨raw, shows⟩ := unanswered_translate directive
    cases directive with
    | addDependency | setToolchain =>
      simp only [shows]
      exact progress_sound rfl _ raw _
    | accumulate => exact .shown .accumulate (.response .silent)
    | evaluate => exact progress_sound rfl .evaluate (.response .silent) _

theorem resume_sound {d : Dispatcher τ} {stage : Stage} (sound : (Step.waiting stage).Sound d)
    (heard : ε) : (d.resume stage heard).2.Sound (d.resume stage heard).1 := by
  cases sound with
  | calling action raw usable => exact progress_sound usable action raw _
  | closing failure fault => exact .failed _ (fault ▸ Option.some_ne_none _)

end Dispatcher

namespace History

variable {τ ε : Type} [Transport τ ε]

theorem proceed_sound {s : History τ} {came : Dispatcher τ × NotebookKernel.Step}
    (sound : came.2.Sound came.1) {stage : Stage}
    (waits : (s.proceed came).position = .waiting stage) :
    (Step.waiting stage).Sound (s.proceed came).dispatcher := by
  obtain ⟨dispatcher, step⟩ := came
  cases step with
  | waiting reached =>
    cases waits
    exact sound
  | done result => cases waits

theorem reachable_sound {d : Dispatcher τ} {s : History τ} (reachable : Reachable d s)
    {stage : Stage} (waits : s.position = .waiting stage) :
    (Step.waiting stage).Sound s.dispatcher := by
  induction reachable generalizing stage with
  | start => cases waits
  | @step s t _ step ih =>
    cases step with
    | submit cell free =>
      exact proceed_sound (s.dispatcher.submit_sound cell.code cell.silent) waits
    | wake reached heard before =>
      exact proceed_sound (Dispatcher.resume_sound (ih before) heard) waits
    | drop | cancel | shutdown => cases waits

end History

end NotebookKernel
