import NotebookKernel.Host.IoError
import NotebookKernel.Text.Utf8
import NotebookKernel.Toolchain

/-!
What a bridge asks of the machine it runs on, and what a waiting call hears from
there.
-/

namespace NotebookKernel

open Text (Bytes)

/-- A program with its leading arguments. -/
structure Command where
  program : String
  args : List String := []
  deriving DecidableEq, Repr

/-- A process to be started, with the toolchain it is told to use. One that
converses has a pipe for its input, another finds its input at the end. -/
structure Invocation where
  program : String
  args : List String
  toolchain : Option Toolchain
  converses : Bool
  deriving DecidableEq, Repr

/-- A bridge has at most one process at a time. -/
class Host (η : Type) where
  start : η → Invocation → Except IoError η
  /-- What is left of a host that could not start a process. -/
  refused : η → Invocation → η := fun host _ => host
  /-- Octets for the process's input. Whether they are taken is heard later. -/
  send : η → Bytes → η
  /-- Closes the pipes and kills the process with all it started. -/
  stop : η → η

inductive Wake where
  /-- The process's input took what was sent. -/
  | accepted
  /-- Octets on the process's output. -/
  | arrived (bytes : Bytes)
  /-- The output is at its end, and so is a process that was started for one
  call. -/
  | ended
  /-- A pipe failed. -/
  | failed (error : IoError)
  /-- The time a call may take is over. -/
  | deadline
  deriving DecidableEq, Repr

end NotebookKernel
