import NotebookKernel.Live

/-!
A transport that answers from a list. It keeps what it was asked, so that a
session can be tried without an interpreter.
-/

namespace NotebookKernel

/-- An answer that was laid out. -/
inductive Cue where
  | answer (result : Except TransportError RawResult)
  /-- Never answers. -/
  | hang
  deriving Repr

/-- What was asked, in order. -/
inductive Asked where
  | evaluate (snapshot : Snapshot)
  | forward (cell : String)
  | cancel
  | terminate
  deriving DecidableEq, Repr

structure Rehearsal where
  /-- Directives are handed over. -/
  forwards : Bool := false
  cues : List Cue := []
  /-- The answer to every cancellation. -/
  cancelError : Option TransportError := none
  asked : List Asked := []

namespace Rehearsal

def note (r : Rehearsal) (asked : Asked) : Rehearsal :=
  { r with asked := r.asked ++ [asked] }

/-- Without a cue the answer is empty. -/
def take (r : Rehearsal) : Rehearsal × Progress Answer :=
  match r.cues with
  | .answer result :: cues => ({ r with cues }, .done (result.map some))
  | .hang :: cues => ({ r with cues }, .waiting)
  | [] => (r, .done (.ok (some (if r.forwards then .response .silent else .text ""))))

def begin (r : Rehearsal) : Call → Rehearsal × Progress Answer
  | .evaluate snapshot => (r.note (.evaluate snapshot)).take
  | .forward cell =>
    let r := r.note (.forward cell)
    if r.forwards then r.take else (r, .done (.ok none))

end Rehearsal

instance : Live Rehearsal Empty where
  protocol r := if r.forwards then .jsonLine else .oneShot
  begin := Rehearsal.begin
  resume r _ := (r, .waiting)
  abandon r := r
  cancel r :=
    (r.note .cancel, match r.cancelError with
      | none => .ok ()
      | some failure => .error failure)
  terminate r := (r.note .terminate, .done ())
  now _ := 0
  allowance _ := none
  hear r _ _ := (r, none)

end NotebookKernel
