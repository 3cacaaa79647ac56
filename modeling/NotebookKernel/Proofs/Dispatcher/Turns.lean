import Mathlib.Data.List.Induction
import NotebookKernel.Proofs.Dispatcher.History

/-!
A dispatcher that is used one whole turn after the other. A cell is over before anything
else happens: it returns something, or it is dropped and the dispatcher is told. Such a
use is a history, over any transport.
-/

namespace NotebookKernel

/-- A cell hears all this. One that still waits then is dropped. -/
inductive Turn (ε : Type) where
  | cell (cell : Submission) (heard : List ε)
  | cancel
  | shutdown
  deriving DecidableEq

namespace Turn

variable {ε : Type}

def cell? : Turn ε → Option Submission
  | .cell submission _ => some submission
  | .cancel | .shutdown => none

/-- The cells that come before any shutdown. -/
def begun : List (Turn ε) → List Submission
  | [] => []
  | .shutdown :: _ => []
  | turn :: turns => turn.cell?.toList ++ begun turns

theorem begun_concat [DecidableEq ε] (turns : List (Turn ε)) (turn : Turn ε) :
    begun (turns ++ [turn]) =
      begun turns ++ if .shutdown ∈ turns then [] else turn.cell?.toList := by
  induction turns with
  | nil => cases turn <;> rfl
  | cons first turns ih => cases first <;> simp [begun, ih]

end Turn

namespace Dispatcher

variable {τ ε : Type} [Transport τ ε]

/-- The dispatcher after a turn, and what a cell returned. -/
def take (d : Dispatcher τ) : Turn ε → Dispatcher τ × Option (Except DispatchError Dispatched)
  | .cell cell heard =>
    match d.dispatch cell.code cell.silent heard with
    | (d, .waiting stage) => ((d.abandon stage).cancel.1, none)
    | (d, .done result) => (d, some result)
  | .cancel => (d.cancel.1, none)
  | .shutdown => (d.shutdown, none)

/-- The dispatcher after these turns. -/
def play (d : Dispatcher τ) (turns : List (Turn ε)) : Dispatcher τ :=
  turns.foldl (fun d turn => (d.take turn).1) d

theorem play_append (d : Dispatcher τ) (turns more : List (Turn ε)) :
    d.play (turns ++ more) = (d.play turns).play more :=
  List.foldl_append

theorem play_concat (d : Dispatcher τ) (turns : List (Turn ε)) (turn : Turn ε) :
    d.play (turns ++ [turn]) = ((d.play turns).take turn).1 :=
  d.play_append turns [turn]

end Dispatcher

namespace History

variable {τ ε : Type} [Transport τ ε] {d : Dispatcher τ} {s : History τ}

theorem proceed_waiting (s : History τ) (waiting : Dispatcher τ) (stage : Stage)
    (came : Dispatcher τ × NotebookKernel.Step) :
    (s.proceed (waiting, .waiting stage)).proceed came = s.proceed came := by
  obtain ⟨dispatcher, step⟩ := came
  cases step <;> rfl

theorem reaches_resumeAll (reachable : Reachable d s) {stage : Stage}
    (waits : s.position = .waiting stage) (heard : List ε) :
    Reachable d (s.proceed (s.dispatcher.resumeAll stage heard)) := by
  induction heard generalizing s stage with
  | nil =>
    have same : s.proceed (s.dispatcher, .waiting stage) = s := by
      obtain ⟨dispatcher, position, live, returned⟩ := s
      cases waits
      rfl
    exact same ▸ reachable
  | cons first heard ih =>
    have woken := reachable.step (.wake s stage first waits)
    rcases came : s.dispatcher.resume stage first with ⟨dispatcher, later | result⟩
    all_goals rw [came] at woken
    · rw [Dispatcher.resumeAll_waiting came]
      exact s.proceed_waiting dispatcher later _ ▸ ih woken rfl
    · rw [Dispatcher.resumeAll_done came]
      exact woken

theorem reaches_dispatch (reachable : Reachable d s) (free : s.position = .free)
    (cell : Submission) (heard : List ε) :
    Reachable d ((s.enter cell).proceed (s.dispatcher.dispatch cell.code cell.silent heard)) := by
  have submitted := reachable.step (.submit s cell free)
  rcases came : s.dispatcher.submit cell.code cell.silent with ⟨dispatcher, stage | result⟩
  all_goals rw [came] at submitted
  · rw [Dispatcher.dispatch_waiting came]
    exact (s.enter cell).proceed_waiting dispatcher stage _ ▸ reaches_resumeAll submitted rfl heard
  · rw [Dispatcher.dispatch_done came]
    exact submitted

theorem enter_live (s : History τ) (cell : Submission) :
    (s.enter cell).live =
      s.live ++ if s.dispatcher.isDefunct then [] else [cell] := by
  unfold enter
  split
  · exact (List.append_nil _).symm
  · rfl

/-- A turn is some steps of a history. Its cell is live unless the dispatcher is defunct. -/
theorem reaches_take (reachable : Reachable d s) (free : s.position = .free) (turn : Turn ε) :
    ∃ t, Reachable d t ∧ t.position = .free ∧ t.dispatcher = (s.dispatcher.take turn).1 ∧
      t.live = s.live ++ if s.dispatcher.isDefunct then [] else turn.cell?.toList := by
  have none : s.live = s.live ++ if s.dispatcher.isDefunct then [] else [] := by simp
  cases turn with
  | cell cell heard =>
    have dispatched := reaches_dispatch reachable free cell heard
    have entered := s.enter_live cell
    simp only [Dispatcher.take]
    generalize s.dispatcher.dispatch cell.code cell.silent heard = came at dispatched
    obtain ⟨dispatcher, stage | result⟩ := came
    · have dropped := dispatched.step (.drop _ stage rfl)
      exact ⟨_, dropped.step (.cancel _ Position.dropped_able), rfl, rfl, entered⟩
    · exact ⟨_, dispatched, rfl, rfl, entered⟩
  | cancel =>
    exact ⟨_, reachable.step (.cancel s (free ▸ Position.free_able)), rfl, rfl, none⟩
  | shutdown =>
    exact ⟨_, reachable.step (.shutdown s (free ▸ Position.free_able)), rfl, rfl, none⟩

/-- Turns one after the other are a history. -/
theorem reaches_play (d : Dispatcher τ) (turns : List (Turn ε)) :
    ∃ s, Reachable d s ∧ s.position = .free ∧ s.dispatcher = d.play turns := by
  induction turns using List.reverseRecOn with
  | nil => exact ⟨_, .start, rfl, rfl⟩
  | append_singleton turns turn ih =>
    obtain ⟨s, reachable, free, same⟩ := ih
    obtain ⟨t, later, free, next, -⟩ := reaches_take reachable free turn
    exact ⟨t, later, free, by rw [next, same, Dispatcher.play_concat]⟩

end History

end NotebookKernel
