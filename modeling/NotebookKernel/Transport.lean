import NotebookKernel.Display.Event
import NotebookKernel.Host.Duration
import NotebookKernel.Host.IoError
import NotebookKernel.Session

/-!
A transport runs code in the interpreter. A call may have to wait for the
outside world; while it waits it hears what happens there, and it may be
abandoned at any moment.
-/

namespace NotebookKernel

/-- One process for each evaluation, or one that answers line by line. -/
inductive Protocol where
  | oneShot
  | jsonLine
  deriving DecidableEq, Repr

namespace Protocol

def name : Protocol → String
  | .oneShot => "oneshot"
  | .jsonLine => "json-line"

def all : List Protocol := [.oneShot, .jsonLine]

end Protocol

/-- Failures of the connection with the interpreter. What the interpreter reports
about the code is output. -/
inductive TransportError where
  | spawn (program : String) (source : IoError)
  | io (source : IoError)
  | childExited
  | malformed (line : String) (source : Json.Error)
  | encode (source : Json.Error)
  | timeout (limit : Duration)
  | desynchronized
  | interrupted
  | terminated
  deriving DecidableEq, Repr

def TransportError.message : TransportError → String
  | .spawn program source => s!"failed to spawn interpreter `{program}`: {source.message}"
  | .io source => s!"interpreter pipe error: {source.message}"
  | .childExited => "interpreter exited unexpectedly"
  | .malformed line source =>
    s!"malformed response from interpreter {Text.quoted line}: {source.message}"
  | .encode source => s!"failed to encode request: {source.message}"
  | .timeout limit => s!"interpreter did not respond within {limit.text}"
  | .desynchronized => "a previous request is still waiting for its response"
  | .interrupted => "interpreter round trip was interrupted"
  | .terminated => "interpreter has been terminated"

/-- What a transport is asked for. -/
inductive Call where
  /-- Run the code. -/
  | evaluate (snapshot : Snapshot)
  /-- Hand over a directive. The answer is none if the transport leaves
  directives to its caller. -/
  | forward (cell : String)
  deriving DecidableEq, Repr

abbrev Answer := Except TransportError (Option RawResult)

inductive Progress (α : Type) where
  | waiting
  | done (result : α)
  deriving DecidableEq, Repr

/-- `ε` is what a waiting call may hear. -/
class Transport (τ : Type) (ε : outParam Type) where
  protocol : τ → Protocol
  /-- A call up to where it first has to wait. -/
  begin : τ → Call → τ × Progress Answer
  /-- The waiting call hears something. -/
  resume : τ → ε → τ × Progress Answer
  /-- The waiting call is dropped. -/
  abandon : τ → τ
  /-- To be told after a call was dropped. An error means that the transport is of
  no more use. -/
  cancel : τ → τ × Except TransportError Unit
  /-- Stops the interpreter for good; its end may have to be waited for. -/
  terminate : τ → τ × Progress Unit

namespace Transport

variable {τ ε : Type} [Transport τ ε]

/-- A waiting call hears one thing after the other. -/
def resumeAll (transport : τ) : List ε → τ × Progress Answer
  | [] => (transport, .waiting)
  | heard :: rest =>
    match resume transport heard with
    | (transport, .waiting) => resumeAll transport rest
    | finished => finished

end Transport

end NotebookKernel
