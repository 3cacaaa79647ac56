import NotebookKernel.Proofs.Dispatcher.Gathering
import NotebookKernel.Proofs.Kernel.Course
import NotebookKernel.Rehearsal

/-!
A cell is announced with a number before it has begun, and its reply has a number in the
end. They are the same unless an evaluation was announced that never began: the session had
been defunct before, or the cell was interrupted at once.
-/

namespace NotebookKernel

theorem Session.begin_count (session : Session) (cell : Submission) :
    (session.begin cell).count = session.count + if cell.directive = .evaluate then 1 else 0 :=
  congrArg Session.count (session.begin_eq cell)

namespace Kernel

variable {τ ε : Type}

theorem announced_eq (session : Session) (code : String) (silent : Bool) :
    announced session code silent =
      session.count + if Directive.classify code silent = .evaluate then 1 else 0 := by
  unfold announced
  cases Directive.classify code silent <;> rfl

variable [Transport τ ε]

/-- The start of a cell makes the announced number true, except in a defunct session. -/
theorem submit_count (d : Dispatcher τ) (code : String) (silent : Bool) :
    (d.submit code silent).1.session.count =
      if d.isDefunct then d.session.count else announced d.session code silent := by
  rw [d.submit_session code silent]
  split
  · rfl
  · rw [announced_eq]
    exact d.session.begin_count ⟨code, silent⟩

/-- There is no other reply than the one with the outcome's count. -/
theorem reply_count {k : Kernel τ} {cell : Cell} {outcome : Outcome} {goesOn : Bool}
    {request : String} {count : Nat} {failure : Option CellError}
    (replied : ⟨.shell, request, .executeReply count failure⟩ ∈
      (k.conclude cell outcome goesOn).2) :
    count = outcome.count k.dispatcher.session := by
  unfold conclude at replied
  split at replied
  · cases replied
  · simp only [List.mem_append, List.mem_map, List.mem_cons, List.not_mem_nil, or_false]
      at replied
    rcases replied with ⟨_, _, ⟨⟩⟩ | ⟨⟨⟩⟩ | ⟨⟨⟩⟩
    rfl

/-- The number that a cell is announced with is the one in its reply just if, should the
cell be an evaluation, its session was usable and the cell has begun. -/
theorem announced_count_iff {k : Kernel τ} (idle : k.activity = .idle) {message : Message}
    {code : String} (asked : message.inquiry = .ok (.execute code false))
    {events : List (Event ε)} (ends : Ends (k.handle (.shell message : Event ε)).1 events)
    (readable : ∀ event ∈ events, event.Readable) :
    ∃ number rest,
      (k.handleAll (.shell message :: events)).2 =
        ⟨.iopub, message.id, .status true⟩ ::
          ⟨.iopub, message.id, .executeInput code number⟩ :: rest ∧
      ∀ count failure, ⟨.shell, message.id, .executeReply count failure⟩ ∈ rest →
        (number = count ↔
          (Directive.classify code false = .evaluate →
            k.dispatcher.fault = none ∧ .start ∈ events)) := by
  obtain ⟨after, outcome, goesOn, course, handles⟩ := handleAll_execute idle asked ends readable
  refine ⟨announced k.dispatcher.session code false, _, congrArg Prod.snd handles, ?_⟩
  intro count failure replied
  have counted : count = after.session.count := by
    rcases List.mem_append.mp replied with answered | concluded
    · exact absurd (answer_parent answered).1 nofun
    · exact (reply_count concluded).trans course.count
  obtain ⟨begun, unbegun⟩ := course.session_unbegun
  by_cases started : .start ∈ events
  · have now := congrArg Session.count (begun started)
    rw [submit_count, announced_eq] at now
    rw [counted, now, announced_eq]
    cases fault : k.dispatcher.fault <;>
      by_cases evaluates : Directive.classify code false = .evaluate <;>
      simp [Dispatcher.isDefunct, fault, evaluates, started]
  · rw [counted, unbegun started, announced_eq]
    by_cases evaluates : Directive.classify code false = .evaluate <;> simp [evaluates, started]

/-- An evaluation that is interrupted at once was announced with a number it never gets. -/
theorem announced_count_iff_interrupted :
    let k : Kernel Rehearsal := { dispatcher := { transport := {} } }
    let cell : Message := ⟨"1", "execute_request",
      .obj [("code", .str "a"), ("silent", .bool false), ("store_history", .bool true)]⟩
    ∃ number count failure rest,
      (k.handleAll [.shell cell, (.interrupt : Event Empty)]).2 =
        ⟨.iopub, "1", .status true⟩ :: ⟨.iopub, "1", .executeInput "a" number⟩ :: rest ∧
      ⟨.shell, "1", .executeReply count failure⟩ ∈ rest ∧ number ≠ count := by
  intro k cell
  have asked : cell.inquiry = .ok (.execute "a" false) := rfl
  have ends : Ends (k.handle (.shell cell : Event Empty)).1 [.interrupt] :=
    .interrupted rfl rfl
  have readable : ∀ event ∈ [(.interrupt : Event Empty)], event.Readable := by
    simp [Event.Readable]
  obtain ⟨number, rest, sent, counts⟩ := announced_count_iff rfl asked ends readable
  have shows : rest =
      closing "1" [.error (Outcome.interruption none)] 0 (some (Outcome.interruption none)) :=
    congrArg (List.drop 2) sent.symm
  have replied : ⟨.shell, "1", .executeReply 0 (some (Outcome.interruption none))⟩ ∈ rest := by
    simp [shows, closing]
  refine ⟨number, 0, _, rest, sent, replied, fun same => ?_⟩
  have begun := ((counts 0 _ replied).mp same rfl).2
  cases List.mem_singleton.mp begun

/-- After a failure every evaluation is announced with a number that its reply does not
have. -/
theorem announced_count_after_failure :
    let k : Kernel Rehearsal :=
      { dispatcher := { transport := { cues := [.answer (.error .childExited)] } } }
    let cell (id : String) : Message := ⟨id, "execute_request",
      .obj [("code", .str "a"), ("silent", .bool false), ("store_history", .bool true)]⟩
    let lost : CellError := ⟨"TransportError", TransportError.childExited.message⟩
    let refused : CellError :=
      ⟨"KernelDefunct", (DispatchError.defunct TransportError.childExited.message).message⟩
    (k.handleAll [.shell (cell "1"), .start, .shell (cell "2"), (.start : Event Empty)]).2 =
      opening "1" "a" false 1 ++ closing "1" [.error lost] 1 (some lost) ++
        (opening "2" "a" false 2 ++ closing "2" [.error refused] 1 (some refused)) := rfl

end Kernel

end NotebookKernel
