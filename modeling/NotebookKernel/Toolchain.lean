import NotebookKernel.Text.Case

/-!
The release channel that evaluations are compiled with.
-/

namespace NotebookKernel

inductive Toolchain where
  | stable
  | beta
  | nightly
  deriving DecidableEq, Repr

namespace Toolchain

def name : Toolchain → String
  | .stable => "stable"
  | .beta => "beta"
  | .nightly => "nightly"

def all : List Toolchain := [.stable, .beta, .nightly]

/-- A name that is no channel, as it was written. -/
structure Unknown where
  name : String
  deriving DecidableEq, Repr

def Unknown.message (unknown : Unknown) : String :=
  s!"unknown toolchain `{unknown.name}` (expected stable, beta or nightly)"

/-- A channel is named in any mixture of cases. -/
def ofName (name : String) : Except Unknown Toolchain :=
  match all.find? fun toolchain => toolchain.name == Text.lowercase name with
  | some toolchain => .ok toolchain
  | none => .error ⟨name⟩

end Toolchain

end NotebookKernel
