import NotebookKernel.Proofs.Dispatcher.History

/-!
Which errors a dispatcher can report. They are the failures that its transport comes to, and
refusals that give one of these as the reason, or a shutdown. So what is known of the failures
of a transport is known of all that a cell is ever answered with.
-/

namespace NotebookKernel

/-- All that calls and cancellations of a transport can fail with. -/
structure FailsOnly (τ : Type) {ε : Type} [Transport τ ε] (kind : TransportError → Prop) :
    Prop where
  begin : ∀ (transport : τ) (c : Call) (failure : TransportError),
    (Transport.begin transport c).2 = .done (.error failure) → kind failure
  resume : ∀ (transport : τ) (heard : ε) (failure : TransportError),
    (Transport.resume transport heard).2 = .done (.error failure) → kind failure
  cancel : ∀ (transport : τ) (failure : TransportError),
    (Transport.cancel transport).2 = .error failure → kind failure

/-- Why a dispatcher stopped working. -/
inductive Reason (kind : TransportError → Prop) : String → Prop
  | failed (failure : TransportError) (known : kind failure) : Reason kind failure.message
  | shutDown : Reason kind "kernel shut down"

inductive DispatchError.Reports (kind : TransportError → Prop) : DispatchError → Prop
  | failed (failure : TransportError) (known : kind failure) : Reports kind (.transport failure)
  | refused (reason : String) (known : Reason kind reason) : Reports kind (.defunct reason)

/-- What a cell can come to. -/
inductive Step.Tells (kind : TransportError → Prop) : Step → Prop
  | calling (action : Action) (unanswered : List DisplayEvent) :
      Tells kind (.waiting (.calling action unanswered))
  | closing (failure : TransportError) (known : kind failure) :
      Tells kind (.waiting (.closing failure))
  | shown (dispatched : Dispatched) : Tells kind (.done (.ok dispatched))
  | failed (e : DispatchError) (reports : e.Reports kind) : Tells kind (.done (.error e))

namespace Dispatcher

variable {τ ε : Type} [Transport τ ε] {kind : TransportError → Prop}

/-- The recorded fault is a failure or the shutdown. -/
def Reasoned (kind : TransportError → Prop) (d : Dispatcher τ) : Prop :=
  ∀ reason, d.fault = some reason → Reason kind reason

theorem reasoned_of_usable {d : Dispatcher τ} (usable : d.fault = none) : d.Reasoned kind := by
  intro reason fault
  rw [usable] at fault
  cases fault

theorem fail_reasoned (d : Dispatcher τ) {failure : TransportError} (known : kind failure) :
    (d.fail failure).1.Reasoned kind := by
  rintro _ ⟨⟩
  exact .failed failure known

/-- A dispatcher and what the cell has come to in it. -/
structure Told (kind : TransportError → Prop) (came : Dispatcher τ × Step) : Prop where
  reasoned : came.1.Reasoned kind
  tells : came.2.Tells kind

theorem progress_told {d : Dispatcher τ} (reasoned : d.Reasoned kind) (action : Action)
    (unanswered : List DisplayEvent) {came : τ × Progress Answer}
    (fails : ∀ failure, came.2 = .done (.error failure) → kind failure) :
    Told kind (d.progress action unanswered came) := by
  obtain ⟨transport, reached⟩ := came
  match reached with
  | .waiting => exact ⟨reasoned, .calling action unanswered⟩
  | .done (.ok (some _)) | .done (.ok none) => exact ⟨reasoned, .shown _⟩
  | .done (.error failure) =>
    have known := fails failure rfl
    have recorded := fail_reasoned { d with transport } known
    rw [Dispatcher.progress]
    rcases settle_failure { d with transport } action unanswered failure with settled | settled
    · rw [settled]
      exact ⟨recorded, .failed _ (.failed failure known)⟩
    · rw [settled]
      exact ⟨recorded, .closing failure known⟩

section Operations

variable (fails : FailsOnly τ kind) {d : Dispatcher τ} (reasoned : d.Reasoned kind)

include fails reasoned

theorem submit_told (cell : String) (silent : Bool) : Told kind (d.submit cell silent) := by
  cases fault : d.fault with
  | some reason =>
    rw [d.submit_defunct cell silent fault]
    exact ⟨reasoned, .failed _ (.refused reason (reasoned reason fault))⟩
  | none =>
    obtain ⟨noted, noted_eq, finished | ⟨action, unanswered, c, calls⟩⟩ :=
      d.submit_usable cell silent fault
    all_goals
      have kept : noted.Reasoned kind := by
        rw [noted_eq]
        exact reasoned
    · rw [finished]
      exact ⟨kept, .shown _⟩
    · rw [calls]
      exact progress_told kept action unanswered (fails.begin noted.transport c)

theorem resume_told {stage : Stage} (tells : (Step.waiting stage).Tells kind) (heard : ε) :
    Told kind (d.resume stage heard) := by
  cases tells with
  | calling action unanswered =>
    exact progress_told reasoned action unanswered (fails.resume d.transport heard)
  | closing failure known => exact ⟨reasoned, .failed _ (.failed failure known)⟩

theorem dispatch_told (cell : String) (silent : Bool) (heard : List ε) :
    Told kind (d.dispatch cell silent heard) :=
  dispatch_keeps (fun _ _ heard told => resume_told fails told.reasoned told.tells heard)
    (submit_told fails reasoned cell silent) heard

theorem cancel_reasoned : d.cancel.1.Reasoned kind := by
  unfold cancel
  split
  · exact reasoned
  · rename_i transport failure cancelled
    exact fail_reasoned _ (fails.cancel d.transport failure (congrArg Prod.snd cancelled))

end Operations

theorem abandon_reasoned {d : Dispatcher τ} (reasoned : d.Reasoned kind) (stage : Stage) :
    (d.abandon stage).Reasoned kind := by
  cases stage <;> exact reasoned

theorem shutdown_reasoned {d : Dispatcher τ} (reasoned : d.Reasoned kind) :
    d.shutdown.Reasoned kind := by
  intro reason fault
  cases before : d.fault with
  | none =>
    simp only [shutdown, before, Option.none_or, Option.some.injEq] at fault
    exact fault ▸ .shutDown
  | some earlier =>
    simp only [shutdown, before, Option.some_or, Option.some.injEq] at fault
    exact fault ▸ reasoned earlier before

end Dispatcher

namespace History

variable {τ ε : Type} [Transport τ ε] {kind : TransportError → Prop}

/-- A history in which all errors are of that kind. -/
structure Told (kind : TransportError → Prop) (s : History τ) : Prop where
  reasoned : s.dispatcher.Reasoned kind
  waits : ∀ stage, s.position = .waiting stage → (NotebookKernel.Step.waiting stage).Tells kind
  returned : ∀ e, .error e ∈ s.returned → e.Reports kind

theorem waits_of_free (stage : Stage) (waits : Position.free = .waiting stage) :
    (NotebookKernel.Step.waiting stage).Tells kind :=
  absurd waits (Position.free_able stage)

theorem proceed_told {s : History τ} (told : s.Told kind)
    {came : Dispatcher τ × NotebookKernel.Step} (now : Dispatcher.Told kind came) :
    (s.proceed came).Told kind := by
  obtain ⟨dispatcher, step⟩ := came
  obtain ⟨reasoned, tells⟩ := now
  cases step with
  | waiting stage =>
    refine ⟨reasoned, ?_, told.returned⟩
    rintro _ ⟨⟩
    exact tells
  | done result =>
    refine ⟨reasoned, waits_of_free, fun e member => ?_⟩
    rcases List.mem_append.mp member with before | last
    · exact told.returned e before
    · cases List.mem_singleton.mp last
      cases tells with
      | failed _ reports => exact reports

theorem step_told (fails : FailsOnly τ kind) {s t : History τ} (step : Step s t)
    (told : s.Told kind) : t.Told kind := by
  cases step with
  | submit cell free =>
    have entered : (s.enter cell).Told kind := by
      unfold enter
      split
      · exact told
      · exact ⟨told.reasoned, told.waits, told.returned⟩
    exact proceed_told entered (Dispatcher.submit_told fails told.reasoned cell.code cell.silent)
  | wake stage heard waits =>
    exact proceed_told told
      (Dispatcher.resume_told fails told.reasoned (told.waits stage waits) heard)
  | drop stage waits =>
    have dropped := Dispatcher.abandon_reasoned told.reasoned stage
    exact ⟨dropped, fun later waits => absurd waits (Position.dropped_able later), told.returned⟩
  | cancel able =>
    exact ⟨Dispatcher.cancel_reasoned fails told.reasoned, waits_of_free, told.returned⟩
  | shutdown able =>
    exact ⟨Dispatcher.shutdown_reasoned told.reasoned, waits_of_free, told.returned⟩

theorem reachable_told (fails : FailsOnly τ kind) {d : Dispatcher τ} (usable : d.fault = none)
    {s : History τ} (reachable : Reachable d s) : s.Told kind := by
  induction reachable with
  | start =>
    refine ⟨Dispatcher.reasoned_of_usable usable, waits_of_free, fun e member => ?_⟩
    exact absurd member List.not_mem_nil
  | step _ step ih => exact step_told fails step ih

end History

end NotebookKernel
