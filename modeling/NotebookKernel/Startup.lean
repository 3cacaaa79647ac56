import NotebookKernel.Bridge
import NotebookKernel.Dispatcher
import NotebookKernel.Settings

/-!
A session begins with the settings' toolchain and the bridge that they ask for.
-/

namespace NotebookKernel

/-- What lies behind a failure, if it has a cause of its own. -/
def TransportError.sources : TransportError → List String
  | .spawn _ source => [source.message]
  | .io source => [source.message]
  | .malformed _ source => [source.message]
  | .encode source => [source.message]
  | _ => []

/-- The interpreter could not be started. -/
def TransportError.atStart (e : TransportError) : Failure :=
  ⟨"Failed to start interpreter", e.message :: e.sources⟩

/-- The command is the one of the settings on the machine at hand. -/
def Dispatcher.start {η : Type} [Host η] (host : η) (settings : Settings) (command : Command) :
    Except Failure (Dispatcher (Bridge η)) :=
  match Bridge.connect host settings.protocol command settings.timeout with
  | .error e => .error e.atStart
  | .ok bridge => .ok { session := { toolchain := settings.toolchain }, transport := bridge }

end NotebookKernel
