import NotebookKernel.Cell.Directive
import NotebookKernel.Transport

/-!
Each cell leads to one of four actions and at most one call of the transport. A
failure of the transport is final: it is terminated, and every later cell is
refused with the reason.
-/

namespace NotebookKernel

inductive Action where
  | addDependency
  | setToolchain
  | accumulate
  | evaluate
  deriving DecidableEq, Repr

/-- The outcome of a cell, with the number of evaluations after it. -/
structure Dispatched where
  action : Action
  events : List DisplayEvent
  count : Nat
  deriving Repr

inductive DispatchError where
  | transport (source : TransportError)
  | defunct (reason : String)
  deriving DecidableEq, Repr

def DispatchError.message : DispatchError → String
  | .transport source => source.message
  | .defunct reason =>
    s!"interpreter session is no longer usable ({reason}); restart the kernel"

/-- A session and the transport that its cells use; `fault` is why it stopped
working. -/
structure Dispatcher (τ : Type) where
  session : Session := {}
  transport : τ
  fault : Option String := none

/-- Where a cell waits. -/
inductive Stage where
  /-- For its call. A directive that the transport leaves to the caller shows the
  events. -/
  | calling (action : Action) (unanswered : List DisplayEvent)
  /-- For the end of an interpreter that failed it. -/
  | closing (failure : TransportError)
  deriving Repr

inductive Step where
  | waiting (stage : Stage)
  | done (result : Except DispatchError Dispatched)
  deriving Repr

namespace Dispatcher

variable {τ ε : Type} [Transport τ ε]

def isDefunct (d : Dispatcher τ) : Bool := d.fault.isSome

def dispatched (d : Dispatcher τ) (action : Action) (events : List DisplayEvent) : Dispatched :=
  ⟨action, events, d.session.count⟩

/-- Records the failure and terminates the transport. -/
def fail (d : Dispatcher τ) (failure : TransportError) : Dispatcher τ × Progress Unit :=
  let (transport, ending) := Transport.terminate d.transport
  ({ d with transport, fault := some failure.message }, ending)

def settle (d : Dispatcher τ) (action : Action) (unanswered : List DisplayEvent) :
    Answer → Dispatcher τ × Step
  | .ok (some raw) => (d, .done (.ok (d.dispatched action raw.translate)))
  | .ok none => (d, .done (.ok (d.dispatched action unanswered)))
  | .error failure =>
    match d.fail failure with
    | (d, .done ()) => (d, .done (.error (.transport failure)))
    | (d, .waiting) => (d, .waiting (.closing failure))

def progress (d : Dispatcher τ) (action : Action) (unanswered : List DisplayEvent) :
    τ × Progress Answer → Dispatcher τ × Step
  | (transport, .waiting) => ({ d with transport }, .waiting (.calling action unanswered))
  | (transport, .done answer) => settle { d with transport } action unanswered answer

def call (d : Dispatcher τ) (action : Action) (unanswered : List DisplayEvent) (c : Call) :
    Dispatcher τ × Step :=
  d.progress action unanswered (Transport.begin d.transport c)

/-- What a cell asks of the session, before any call. -/
def note (session : Session) (cell : String) : Directive → Session
  | .addDependency spec => session.addDependency spec
  | .setToolchain name =>
    match Toolchain.ofName name with
    | .ok toolchain => session.setToolchain toolchain
    | .error _ => session
  | .accumulate => session.accumulate cell
  | .evaluate => session.countEvaluation

/-- A name that is no toolchain is answered with a message. -/
def unanswered : Directive → List DisplayEvent
  | .setToolchain name =>
    match Toolchain.ofName name with
    | .ok _ => []
    | .error unknown => [.stdout (unknown.message ++ "\n")]
  | _ => []

/-- The kept text and the cell. -/
def evaluation (session : Session) (cell : String) : Snapshot :=
  { session.snapshot with code := session.snapshot.code ++ cell }

/-- A cell up to where it first has to wait. -/
def submit (d : Dispatcher τ) (cell : String) (silent : Bool) : Dispatcher τ × Step :=
  match d.fault with
  | some reason => (d, .done (.error (.defunct reason)))
  | none =>
    let directive := Directive.classify cell silent
    let d := { d with session := note d.session cell directive }
    match directive with
    | .addDependency _ => d.call .addDependency (unanswered directive) (.forward cell)
    | .setToolchain _ => d.call .setToolchain (unanswered directive) (.forward cell)
    | .accumulate => (d, .done (.ok (d.dispatched .accumulate [])))
    | .evaluate => d.call .evaluate [] (.evaluate (evaluation d.session cell))

/-- A waiting cell hears something. Whatever wakes a cell whose interpreter was
stopped finds it gone. -/
def resume (d : Dispatcher τ) (stage : Stage) (heard : ε) : Dispatcher τ × Step :=
  match stage with
  | .calling action unanswered =>
    d.progress action unanswered (Transport.resume d.transport heard)
  | .closing failure => (d, .done (.error (.transport failure)))

/-- A waiting cell is dropped. -/
def abandon (d : Dispatcher τ) : Stage → Dispatcher τ
  | .calling _ _ => { d with transport := Transport.abandon d.transport }
  | .closing _ => d

/-- To be called after a cell was dropped. -/
def cancel (d : Dispatcher τ) : Dispatcher τ × Except DispatchError Unit :=
  match Transport.cancel d.transport with
  | (transport, .ok ()) => ({ d with transport }, .ok ())
  | (transport, .error failure) =>
    (({ d with transport }.fail failure).1, .error (.transport failure))

/-- Stops the interpreter. An earlier fault stays the reason. -/
def shutdown (d : Dispatcher τ) : Dispatcher τ :=
  { d with
    transport := (Transport.terminate d.transport).1
    fault := d.fault.or (some "kernel shut down") }

/-- A waiting cell hears one thing after the other. -/
def resumeAll (d : Dispatcher τ) (stage : Stage) : List ε → Dispatcher τ × Step
  | [] => (d, .waiting stage)
  | heard :: rest =>
    match d.resume stage heard with
    | (d, .waiting stage) => resumeAll d stage rest
    | finished => finished

/-- A cell that hears all this; it may still wait in the end. -/
def dispatch (d : Dispatcher τ) (cell : String) (silent : Bool) (heard : List ε) :
    Dispatcher τ × Step :=
  match d.submit cell silent with
  | (d, .waiting stage) => d.resumeAll stage heard
  | finished => finished

end Dispatcher

end NotebookKernel
