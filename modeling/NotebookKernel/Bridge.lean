import NotebookKernel.Bridge.JsonLine
import NotebookKernel.Bridge.OneShot

/-!
The bridge that a protocol calls for. The lasting process is started at once, the
others when there is something to evaluate.
-/

namespace NotebookKernel

inductive Bridge (η : Type) where
  | oneShot (bridge : OneShot η)
  | jsonLine (bridge : JsonLine η)

namespace Bridge

variable {η : Type} [Host η]

def connect (host : η) (protocol : Protocol) (command : Command) (timeout : Option Duration) :
    Except TransportError (Bridge η) :=
  match protocol with
  | .oneShot => .ok (.oneShot { host, command, timeout })
  | .jsonLine => (JsonLine.start host command timeout).map .jsonLine

def host : Bridge η → η
  | .oneShot b => b.host
  | .jsonLine b => b.host

def withHost (host : η) : Bridge η → Bridge η
  | .oneShot b => .oneShot { b with host }
  | .jsonLine b => .jsonLine { b with host }

def timeout : Bridge η → Option Duration
  | .oneShot b => b.timeout
  | .jsonLine b => b.timeout

/-- Applies an operation of the bridge at hand. -/
def update {α : Type} (oneShot : OneShot η → OneShot η × α) (jsonLine : JsonLine η → JsonLine η × α) :
    Bridge η → Bridge η × α
  | .oneShot b => (oneShot b).map .oneShot id
  | .jsonLine b => (jsonLine b).map .jsonLine id

end Bridge

instance {η : Type} [Host η] : Transport (Bridge η) Wake where
  protocol
    | .oneShot _ => .oneShot
    | .jsonLine _ => .jsonLine
  begin b c := b.update (Transport.begin · c) (Transport.begin · c)
  resume b heard := b.update (Transport.resume · heard) (Transport.resume · heard)
  abandon
    | .oneShot b => .oneShot (Transport.abandon b)
    | .jsonLine b => .jsonLine (Transport.abandon b)
  cancel b := b.update Transport.cancel Transport.cancel
  terminate b := b.update Transport.terminate Transport.terminate

end NotebookKernel
