import NotebookKernel.Bridge
import NotebookKernel.Dispatcher
import NotebookKernel.Host.Machine

/-!
Transports together with the world they wait for. Such a transport finds out itself
what a call hears, so that all that is left to be told is that time goes on.
-/

namespace NotebookKernel

/-- A transport that finds out itself what a waiting call hears next. Moments
count nanoseconds. -/
class Live (τ : Type) (ε : outParam Type) extends Transport τ ε where
  now : τ → Nat
  /-- How long a call may take. -/
  allowance : τ → Option Duration
  /-- What is heard next: at the deadline that the call is late, after the limit
  nothing. -/
  hear : τ → (deadline limit : Option Nat) → τ × Option ε

/-- A transport in its world. -/
structure Timed (τ : Type) where
  transport : τ
  /-- When the call is late. -/
  deadline : Option Nat := none
  /-- There is nothing more to hear, whatever time goes on. -/
  still : Bool := false

namespace Live

variable {τ ε : Type} [Live τ ε]

/-- When a call that begins now is late. -/
def deadline (transport : τ) : Option Nat :=
  (allowance transport).map fun allowed => now transport + allowed.nanos

/-- How long the world is watched: who hears so much and waits on is left waiting. -/
def patience : Nat := 100000

/-- Time goes on as long as the world is watched, but not beyond the limit. -/
def moments (limit : Option Nat) : List (Option Nat) := .replicate patience limit

end Live

namespace Timed

variable {τ ε : Type} [Live τ ε]

def begin (t : Timed τ) (c : Call) : Timed τ × Progress Answer :=
  (Transport.begin t.transport c).map (⟨·, Live.deadline t.transport, false⟩) id

/-- Time goes on up to what is heard next, or to the limit. -/
def resume (t : Timed τ) (limit : Option Nat) : Timed τ × Progress Answer :=
  if t.still then (t, .waiting)
  else
    match Live.hear t.transport t.deadline limit with
    | (transport, none) => ({ t with transport, still := true }, .waiting)
    | (transport, some heard) =>
      (Transport.resume transport heard).map (fun transport => { t with transport }) id

end Timed

instance {τ ε : Type} [Live τ ε] : Transport (Timed τ) (Option Nat) where
  protocol t := Transport.protocol t.transport
  begin := Timed.begin
  resume := Timed.resume
  abandon t := { t with transport := Transport.abandon t.transport }
  cancel t := (Transport.cancel t.transport).map (fun transport => { t with transport }) id
  terminate t := (Transport.terminate t.transport).map (fun transport => { t with transport }) id

namespace Live

variable {τ ε : Type} [Live τ ε]

/-- A call up to its end or the limit; one that is not finished then is dropped. -/
def perform (transport : τ) (call : Call) (limit : Option Nat) : τ × Progress Answer :=
  match Transport.begin ({ transport } : Timed τ) call with
  | (t, .done answer) => (t.transport, .done answer)
  | (t, .waiting) =>
    match Transport.resumeAll t (moments limit) with
    | (t, .done answer) => (t.transport, .done answer)
    | (t, .waiting) => (Transport.abandon t.transport, .waiting)

end Live

namespace Dispatcher

variable {τ ε : Type}

/-- The dispatcher in the world of its transport. -/
def timed (d : Dispatcher τ) : Dispatcher (Timed τ) :=
  { session := d.session, transport := { transport := d.transport }, fault := d.fault }

/-- The dispatcher at this moment. -/
def untimed (d : Dispatcher (Timed τ)) : Dispatcher τ :=
  { session := d.session, transport := d.transport.transport, fault := d.fault }

/-- A cell up to its end or the limit; one that is not finished then is dropped,
and nothing is its result. -/
def performOrDrop [Live τ ε] (d : Dispatcher τ) (cell : String) (silent : Bool)
    (limit : Option Nat) : Dispatcher τ × Option (Except DispatchError Dispatched) :=
  match d.timed.dispatch cell silent (Live.moments limit) with
  | (d, .done result) => (d.untimed, some result)
  | (d, .waiting stage) => ((d.abandon stage).untimed, none)

end Dispatcher

instance : Live (Bridge Machine) Wake where
  now b := b.host.clock
  allowance b := b.timeout
  hear b deadline limit :=
    let (machine, wake) := b.host.hear deadline limit
    (b.withHost machine, wake)

end NotebookKernel
