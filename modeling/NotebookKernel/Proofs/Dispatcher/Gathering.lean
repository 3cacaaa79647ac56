import NotebookKernel.Proofs.Dispatcher.History
import NotebookKernel.Rehearsal

/-!
What a session holds after any history. It depends on the live cells alone, in their
order: how a call ends, and what comes after a fault, leaves no trace in it.
-/

namespace NotebookKernel

namespace Submission

/-- The dependency that a cell declares. -/
def dependency? (cell : Submission) : Option String :=
  match cell.directive with
  | .addDependency spec => some spec
  | _ => none

/-- The toolchain that a cell names, if it is one. -/
def toolchain? (cell : Submission) : Option Toolchain :=
  match cell.directive with
  | .setToolchain name => (Toolchain.ofName name).toOption
  | _ => none

end Submission

namespace Session

/-- What the start of a cell makes of the session. -/
def begin (session : Session) (cell : Submission) : Session :=
  Dispatcher.note session cell.code cell.directive

/-- The session once these cells have begun. -/
def gather (session : Session) (cells : List Submission) : Session :=
  cells.foldl begin session

theorem begin_eq (session : Session) (cell : Submission) :
    session.begin cell =
      { pending := session.pending ++ if cell.directive = .accumulate then cell.code else ""
        dependencies := session.dependencies ++ cell.dependency?.toList.filter session.records
        toolchain := cell.toolchain?.getD session.toolchain
        count := session.count + if cell.directive = .evaluate then 1 else 0 } := by
  unfold begin Dispatcher.note Submission.dependency? Submission.toolchain?
  cases cell.directive with
  | accumulate => simp [accumulate]
  | evaluate => simp [countEvaluation]
  | setToolchain name =>
    cases named : Toolchain.ofName name <;> simp [named, setToolchain, Except.toOption]
  | addDependency spec =>
    cases fresh : session.records spec <;> simp [addDependency, fresh]

/-- What is recorded now is left out later, and nothing else is. -/
theorem records_begin (session : Session) (cell : Submission) (spec : String) :
    (session.begin cell).records spec =
      (session.records spec && !(cell.dependency?.toList.filter session.records).contains spec) := by
  simp [begin_eq, records, Bool.and_assoc]

theorem gather_cons (session : Session) (cell : Submission) (cells : List Submission) :
    session.gather (cell :: cells) = (session.begin cell).gather cells := rfl

theorem gather_pending (session : Session) (cells : List Submission) :
    (session.gather cells).pending =
      session.pending ++
        String.join ((cells.filter (·.directive = .accumulate)).map (·.code)) := by
  induction cells generalizing session with
  | nil => simp [gather]
  | cons cell cells ih =>
    rw [gather_cons, ih, begin_eq]
    by_cases kept : cell.directive = .accumulate <;> simp [kept, String.append_assoc]

theorem gather_dependencies (session : Session) (cells : List Submission) :
    (session.gather cells).dependencies =
      session.dependencies ++
        ((cells.filterMap Submission.dependency?).filter session.records).eraseDups := by
  induction cells generalizing session with
  | nil => simp [gather]
  | cons cell cells ih =>
    have others : (cells.filterMap Submission.dependency?).filter (session.begin cell).records =
        ((cells.filterMap Submission.dependency?).filter session.records).removeAll
          (cell.dependency?.toList.filter session.records) := by
      rw [List.removeAll, List.filter_filter]
      apply List.filter_congr
      intro spec _
      rw [records_begin, Bool.and_comm]
    have own : (cell.dependency?.toList.filter session.records).eraseDups =
        cell.dependency?.toList.filter session.records := by
      cases cell.dependency? with
      | none => rfl
      | some spec => cases fresh : session.records spec <;> simp [fresh, List.eraseDups_cons]
    have all : (cell :: cells).filterMap Submission.dependency? =
        cell.dependency?.toList ++ cells.filterMap Submission.dependency? := by
      cases declared : cell.dependency? <;> simp [declared]
    rw [gather_cons, ih, others, begin_eq, all, List.filter_append, List.eraseDups_append, own,
      List.append_assoc]

theorem gather_toolchain (session : Session) (cells : List Submission) :
    (session.gather cells).toolchain =
      (cells.filterMap Submission.toolchain?).getLast?.getD session.toolchain := by
  induction cells generalizing session with
  | nil => rfl
  | cons cell cells ih =>
    rw [gather_cons, ih, begin_eq]
    cases named : cell.toolchain? <;> simp [named, List.getLast?_cons]

theorem gather_count (session : Session) (cells : List Submission) :
    (session.gather cells).count = session.count + cells.countP (·.directive = .evaluate) := by
  induction cells generalizing session with
  | nil => rfl
  | cons cell cells ih =>
    rw [gather_cons, ih, begin_eq, List.countP_cons]
    simp only [decide_eq_true_eq]
    omega

end Session

namespace History

variable {τ ε : Type} [Transport τ ε]

theorem session_of_live {d : Dispatcher τ} {s : History τ} (h : Reachable d s) :
    s.dispatcher.session = d.session.gather s.live := by
  induction h with
  | start => rfl
  | @step s t _ step ih =>
    cases step with
    | submit cell free =>
      rw [proceed_dispatcher, proceed_live, Dispatcher.submit_session, enter]
      split
      · exact ih
      · simp only [Session.gather, List.foldl_append, List.foldl_cons, List.foldl_nil]
        rw [ih]
        rfl
    | wake stage heard waits =>
      rw [proceed_dispatcher, proceed_live, Dispatcher.resume_session]
      exact ih
    | drop stage waits =>
      rw [Dispatcher.abandon_session]
      exact ih
    | cancel able =>
      rw [Dispatcher.cancel_session]
      exact ih
    | shutdown able => exact ih

/-- The session after any history, at any moment of it: the text of the live cells that
are kept, their new dependencies in order, the last toolchain among them, and how many
were to be evaluated. -/
theorem session_after_history {d : Dispatcher τ} {s : History τ} (h : Reachable d s) :
    s.dispatcher.session.pending =
      d.session.pending ++
        String.join ((s.live.filter (·.directive = .accumulate)).map (·.code)) ∧
    s.dispatcher.session.dependencies =
      d.session.dependencies ++
        ((s.live.filterMap Submission.dependency?).filter fun spec =>
          spec ≠ "" ∧ spec ∉ d.session.dependencies).eraseDups ∧
    s.dispatcher.session.toolchain =
      (s.live.filterMap Submission.toolchain?).getLast?.getD d.session.toolchain ∧
    s.dispatcher.session.count =
      d.session.count + s.live.countP (·.directive = .evaluate) := by
  have fresh : d.session.records = fun spec => decide (spec ≠ "" ∧ spec ∉ d.session.dependencies) := by
    funext spec
    simp [Session.records]
  rw [session_of_live h]
  refine ⟨Session.gather_pending _ _, ?_, Session.gather_toolchain _ _, Session.gather_count _ _⟩
  rw [Session.gather_dependencies, fresh]

/-- An evaluation that is dropped while it hangs counts; the dependency after it came
too late. -/
theorem session_after_history_dropped :
    let d : Dispatcher Rehearsal :=
      { transport := { cues := [.hang], cancelError := some .interrupted } }
    ∃ s : History Rehearsal, Reachable d s ∧
      s.dispatcher.fault = some "interpreter round trip was interrupted" ∧
      s.live = [⟨"let a = 1;", false⟩, ⟨"a", false⟩] ∧
      s.dispatcher.session.pending = "" ++ "let a = 1;" ∧ s.dispatcher.session.dependencies = [] ∧
      s.dispatcher.session.toolchain = .stable ∧ s.dispatcher.session.count = 0 + 1 := by
  intro d
  have r1 : Reachable d
      { dispatcher := { d with session := { pending := "let a = 1;" } }
        live := [⟨"let a = 1;", false⟩]
        returned := [.ok ⟨.accumulate, [], 0⟩] } :=
    .step .start (.submit _ ⟨"let a = 1;", false⟩ rfl)
  have r2 : Reachable d
      { dispatcher :=
          { session := { pending := "let a = 1;", count := 1 }
            transport :=
              { cancelError := some .interrupted, asked := [.evaluate ⟨"let a = 1;a", "", .stable⟩] } }
        position := .waiting (.calling .evaluate [])
        live := [⟨"let a = 1;", false⟩, ⟨"a", false⟩]
        returned := [.ok ⟨.accumulate, [], 0⟩] } :=
    r1.step (.submit _ ⟨"a", false⟩ rfl)
  have r3 := r2.step (.drop _ _ rfl)
  have r4 := r3.step (.cancel _ nofun)
  have r5 := r4.step (.submit _ ⟨":add rand", false⟩ rfl)
  obtain ⟨pending, dependencies, toolchain, count⟩ := session_after_history r5
  exact ⟨_, r5, rfl, rfl, pending, dependencies, toolchain, count⟩

end History

end NotebookKernel
