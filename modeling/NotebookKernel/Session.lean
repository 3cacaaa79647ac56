import NotebookKernel.Toolchain

/-!
What a session has gathered: text kept for the next evaluation, dependencies,
the toolchain, and the number of evaluations.
-/

namespace NotebookKernel

structure Session where
  pending : String := ""
  dependencies : List String := []
  toolchain : Toolchain := .stable
  count : Nat := 0
  deriving DecidableEq, Repr

/-- What one evaluation is run with. -/
structure Snapshot where
  code : String
  dependencies : String
  toolchain : Toolchain
  deriving DecidableEq, Repr

namespace Session

/-- Empty specs and exact repetitions are not recorded. -/
def records (s : Session) (spec : String) : Bool :=
  spec ≠ "" && !s.dependencies.contains spec

def addDependency (s : Session) (spec : String) : Session :=
  if s.records spec then { s with dependencies := s.dependencies ++ [spec] } else s

/-- Text is kept exactly as it is written. -/
def accumulate (s : Session) (code : String) : Session :=
  { s with pending := s.pending ++ code }

def setToolchain (s : Session) (toolchain : Toolchain) : Session :=
  { s with toolchain }

def countEvaluation (s : Session) : Session :=
  { s with count := s.count + 1 }

def joinedDependencies (s : Session) : String :=
  String.intercalate " " s.dependencies

def snapshot (s : Session) : Snapshot :=
  ⟨s.pending, s.joinedDependencies, s.toolchain⟩

end Session

end NotebookKernel
