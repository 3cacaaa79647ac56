/-!
A failure as it is reported to whoever started the program: what failed, and what
caused it.
-/

namespace NotebookKernel

/-- The causes follow from the nearest to the farthest. -/
structure Failure where
  summary : String
  causes : List String := []
  deriving DecidableEq, Repr

namespace Failure

/-- All on one line. -/
def chain (failure : Failure) : String :=
  String.intercalate ": " (failure.summary :: failure.causes)

/-- Later lines of a cause are indented like the first. -/
def indented (start margin : String) (cause : String) : String :=
  start ++ String.intercalate ("\n" ++ margin) (cause.splitOn "\n")

def numbered (n : Nat) : List String → List String
  | [] => []
  | cause :: causes =>
    let start := String.ofList (List.replicate (5 - (toString n).length) ' ') ++ s!"{n}: "
    indented start "       " cause :: numbered (n + 1) causes

/-- The causes on lines of their own, with numbers if there are several. -/
def causeLines (failure : Failure) : List String :=
  match failure.causes with
  | [] => []
  | [cause] => [indented "    " "    " cause]
  | causes => numbered 0 causes

/-- The text that the program ends with. -/
def report (failure : Failure) : String :=
  let causes := match failure.causeLines with
    | [] => []
    | lines => "" :: "Caused by:" :: lines
  String.intercalate "\n" (s!"Error: {failure.summary}" :: causes) ++ "\n"

end Failure

end NotebookKernel
