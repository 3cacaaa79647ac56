import Mathlib.Data.List.Basic
import Mathlib.Data.List.Induction
import NotebookKernel.Proofs.Dispatcher.Gathering

/-!
The calls of a history, over any transport. Every live cell but those that are kept makes
one, in the order of the cells, with what was gathered before it: a directive is handed
over as it is written, an evaluation follows all that was kept. Nothing else is ever
called for, so whatever a transport adds up call by call is a matter of the live cells.
-/

namespace NotebookKernel

/-- The text of the cells that are kept. -/
def keptCode (cells : List Submission) : String :=
  String.join ((cells.filter (·.directive = .accumulate)).map (·.code))

/-- What each cell comes to after the cells before it. -/
def afterEach {α : Type} (f : List Submission → Submission → Option α)
    (cells : List Submission) : List α :=
  cells.zipIdx.filterMap fun (cell, n) => f (cells.take n) cell

section AfterEach

variable {α β : Type} (f : List Submission → Submission → Option α)

/-- A further cell finds all the cells before it. -/
theorem afterEach_append (cells : List Submission) (cell : Submission) :
    afterEach f (cells ++ [cell]) = afterEach f cells ++ (f cells cell).toList := by
  have earlier : ∀ entry ∈ cells.zipIdx, (cells ++ [cell]).take entry.2 = cells.take entry.2 := by
    rintro ⟨_, n⟩ member
    have bound := (List.mem_zipIdx member).2.1
    rw [Nat.zero_add] at bound
    exact List.take_append_of_le_length (Nat.le_of_lt bound)
  have last : (cells ++ [cell]).take cells.length = cells := List.take_left
  unfold afterEach
  rw [List.zipIdx_append, List.filterMap_append]
  congr 1
  · exact List.filterMap_congr fun entry member => by simp only [earlier entry member]
  · simp only [Nat.zero_add, List.zipIdx_cons, List.zipIdx_nil, List.filterMap_cons,
      List.filterMap_nil, last]
    cases f cells cell <;> rfl

theorem exists_of_mem_afterEach {cells : List Submission} {a : α} (member : a ∈ afterEach f cells) :
    ∃ earlier cell, f earlier cell = some a := by
  obtain ⟨⟨cell, n⟩, -, made⟩ := List.mem_filterMap.mp member
  exact ⟨cells.take n, cell, made⟩

theorem afterEach_filterMap (g : α → Option β) (cells : List Submission) :
    (afterEach f cells).filterMap g =
      afterEach (fun earlier cell => (f earlier cell).bind g) cells :=
  List.filterMap_filterMap

/-- If it is up to the cell alone whether it comes to anything, those that do are counted. -/
theorem afterEach_length {counts : Submission → Prop} [DecidablePred counts]
    (comes : ∀ earlier cell, (f earlier cell).isSome ↔ counts cell) (cells : List Submission) :
    (afterEach f cells).length = cells.countP counts := by
  induction cells using List.reverseRecOn with
  | nil => rfl
  | append_singleton cells cell ih =>
    rw [afterEach_append, List.length_append, ih, List.countP_append, List.countP_singleton]
    have own := comes cells cell
    cases made : f cells cell <;> simp_all

end AfterEach

/-- The call that a cell makes in this session. -/
def Submission.call? (session : Session) (cell : Submission) : Option Call :=
  match cell.directive with
  | .addDependency _ | .setToolchain _ => some (.forward cell.code)
  | .accumulate => none
  | .evaluate => some (.evaluate (Dispatcher.evaluation session cell.code))

/-- The calls of cells that find this session. -/
def callsOf (session : Session) (cells : List Submission) : List Call :=
  afterEach (fun earlier cell => cell.call? (session.gather earlier)) cells

theorem callsOf_append (session : Session) (cells : List Submission) (cell : Submission) :
    callsOf session (cells ++ [cell]) =
      callsOf session cells ++ (cell.call? (session.gather cells)).toList :=
  afterEach_append _ cells cell

/-- A list that goes along with a transport: a call adds what `f` makes of it, and nothing
else changes the list. -/
structure Tally {τ ε β : Type} [Transport τ ε] (holds : τ → List β → Prop)
    (f : Call → Option β) : Prop where
  begin {t : τ} {l : List β} (h : holds t l) (c : Call) :
    holds (Transport.begin t c).1 (l ++ (f c).toList)
  resume {t : τ} {l : List β} (h : holds t l) (heard : ε) : holds (Transport.resume t heard).1 l
  abandon {t : τ} {l : List β} (h : holds t l) : holds (Transport.abandon t) l
  cancel {t : τ} {l : List β} (h : holds t l) : holds (Transport.cancel t).1 l
  terminate {t : τ} {l : List β} (h : holds t l) : holds (Transport.terminate t).1 l

namespace Dispatcher

variable {τ ε : Type} [Transport τ ε]

/-- A cell of a usable dispatcher is finished at once or makes its call. -/
theorem submit_call (d : Dispatcher τ) (cell : Submission) (usable : d.fault = none) :
    ∃ noted : Dispatcher τ, noted = { d with session := d.session.begin cell } ∧
      ((cell.call? d.session = none ∧
          ∃ result, d.submit cell.code cell.silent = (noted, .done result)) ∨
        ∃ action unanswered c, cell.call? d.session = some c ∧
          d.submit cell.code cell.silent = noted.call action unanswered c) := by
  refine ⟨_, rfl, ?_⟩
  have directive : Directive.classify cell.code cell.silent = cell.directive := rfl
  simp only [submit, usable, directive, Submission.call?, Session.begin]
  cases cell.directive with
  | accumulate => exact .inl ⟨rfl, _, rfl⟩
  | addDependency | setToolchain | evaluate => exact .inr ⟨_, _, _, rfl, rfl⟩

end Dispatcher

namespace History

variable {τ ε β : Type} [Transport τ ε] {holds : τ → List β → Prop} {f : Call → Option β}

theorem progress_tally (tally : Tally holds f) {came : τ × Progress Answer} {l : List β}
    (now : holds came.1 l) (d : Dispatcher τ) (action : Action) (events : List DisplayEvent) :
    holds (d.progress action events came).1.transport l := by
  rcases d.progress_cases action events came with left | ⟨failure, left⟩
  · rw [left]
    exact now
  · rw [left]
    exact tally.terminate now

theorem submit_tally (tally : Tally holds f) {d : Dispatcher τ} {l : List β}
    (now : holds d.transport l) (usable : d.fault = none) (cell : Submission) :
    holds (d.submit cell.code cell.silent).1.transport
      (l ++ (cell.call? d.session).toList.filterMap f) := by
  obtain ⟨noted, rfl, ⟨none, result, finished⟩ | ⟨action, events, c, some, calls⟩⟩ :=
    d.submit_call cell usable
  · rw [finished, none, Option.toList_none, List.filterMap_nil, List.append_nil]
    exact now
  · rw [calls, some, Option.toList_some, List.filterMap_eq_flatMap_toList, List.flatMap_singleton]
    exact progress_tally tally (tally.begin now c) _ action events

theorem resume_tally (tally : Tally holds f) {d : Dispatcher τ} {l : List β}
    (now : holds d.transport l) (stage : Stage) (heard : ε) :
    holds (d.resume stage heard).1.transport l := by
  cases stage with
  | calling action events => exact progress_tally tally (tally.resume now heard) d action events
  | closing failure => exact now

theorem cancel_tally (tally : Tally holds f) {d : Dispatcher τ} {l : List β}
    (now : holds d.transport l) : holds d.cancel.1.transport l := by
  obtain ⟨-, left⟩ | ⟨failure, -, left⟩ := d.cancel_cases
  · rw [left]
    exact tally.cancel now
  · rw [left]
    exact tally.terminate (tally.cancel now)

/-- At any moment of any history, what has been added up is what the calls of the live
cells come to. -/
theorem reachable_tally (tally : Tally holds f) {d : Dispatcher τ} {l : List β}
    (start : holds d.transport l) {s : History τ} (reachable : Reachable d s) :
    holds s.dispatcher.transport (l ++ (callsOf d.session s.live).filterMap f) := by
  induction reachable with
  | start => exact (List.append_nil l).symm ▸ start
  | @step s t before step ih =>
    cases step with
    | submit cell free =>
      rw [proceed_dispatcher, proceed_live]
      cases fault : s.dispatcher.fault with
      | some reason =>
        -- The cell is refused, so it is not live and makes no call.
        have stays : s.enter cell = s := by simp [enter, Dispatcher.isDefunct, fault]
        rw [s.dispatcher.submit_defunct cell.code cell.silent fault, stays]
        exact ih
      | none =>
        have enters : (s.enter cell).live = s.live ++ [cell] := by
          simp [enter, Dispatcher.isDefunct, fault]
        have added := submit_tally tally ih fault cell
        rw [session_of_live before] at added
        rw [enters, callsOf_append, List.filterMap_append, ← List.append_assoc]
        exact added
    | wake stage heard waits =>
      rw [proceed_dispatcher, proceed_live]
      exact resume_tally tally ih stage heard
    | drop stage waits =>
      cases stage with
      | calling action events => exact tally.abandon ih
      | closing failure => exact ih
    | cancel able => exact cancel_tally tally ih
    | shutdown able => exact tally.terminate ih

end History

end NotebookKernel
