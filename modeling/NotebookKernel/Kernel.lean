import NotebookKernel.Display.Media
import NotebookKernel.Kernel.Content
import NotebookKernel.Kernel.Inquiry

/-!
The kernel serves one message after the other. While a cell runs it still answers
on the control socket, where the cell may be interrupted; everything else has to
wait for its end.
-/

namespace NotebookKernel

/-- A cell that was asked for. -/
structure Cell where
  request : String
  code : String
  silent : Bool
  deriving DecidableEq, Repr

/-- What the kernel is doing. -/
inductive Activity where
  | idle
  /-- A cell that was announced and not yet begun has no stage. -/
  | running (cell : Cell) (stage : Option Stage)
  | stopped (failure : Option String)

structure Kernel (τ : Type) where
  dispatcher : Dispatcher τ
  activity : Activity := .idle

/-- What the kernel may hear; `ε` is what a waiting cell may. -/
inductive Event (ε : Type) where
  | shell (message : Message)
  | control (message : Message)
  /-- The signal that interrupts. -/
  | interrupt
  /-- The signal that ends the kernel. -/
  | terminate
  /-- The announced cell begins. -/
  | start
  | wake (heard : ε)

/-- How a cell ended. An interrupt may have cost more than the cell. -/
inductive Outcome where
  | finished (result : Except DispatchError Dispatched)
  | interrupted (loss : Option DispatchError)

namespace Outcome

def interruption (loss : Option DispatchError) : CellError :=
  let reason := match loss with
    | none => ""
    | some e => s!": {e.message}"
  ⟨"Interrupted", "cell execution was interrupted" ++ reason⟩

def error : Outcome → Option CellError
  | .finished (.ok _) => none
  | .finished (.error (.transport failure)) => some ⟨"TransportError", failure.message⟩
  | .finished (.error (.defunct reason)) =>
    some ⟨"KernelDefunct", (DispatchError.defunct reason).message⟩
  | .interrupted loss => some (interruption loss)

/-- What the cell shows: its events, or the error. One event that does not suit a
notebook spoils it all. -/
def shown : Outcome → Except Json.Mismatch (List Content)
  | .finished (.ok dispatched) =>
    dispatched.events.mapM fun event => (Media.accept event).map Content.display
  | outcome => .ok (outcome.error.toList.map .error)

/-- The number of evaluations, as far as the outcome has it. -/
def count (session : Session) : Outcome → Nat
  | .finished (.ok dispatched) => dispatched.count
  | _ => session.count

end Outcome

namespace Kernel

variable {τ ε : Type} [Transport τ ε]

def isIdle (k : Kernel τ) : Bool :=
  match k.activity with
  | .idle => true
  | _ => false

/-- Shell messages and the end of the kernel wait for the end of a cell. -/
def reads (k : Kernel τ) : Event ε → Bool
  | .shell _ | .terminate => k.isIdle
  | .control _ | .interrupt =>
    match k.activity with
    | .stopped _ => false
    | _ => true
  | .start =>
    match k.activity with
    | .running _ none => true
    | _ => false
  | .wake _ =>
    match k.activity with
    | .running _ (some _) => true
    | _ => false

/-- However the kernel ends, the interpreter is stopped. -/
def stop (k : Kernel τ) (failure : Option String) : Kernel τ where
  dispatcher := k.dispatcher.shutdown
  activity := .stopped failure

/-- The number that is announced before the cell has begun. -/
def announced (session : Session) (code : String) (silent : Bool) : Nat :=
  match Directive.classify code silent with
  | .evaluate => session.count + 1
  | _ => session.count

def announcement (k : Kernel τ) (cell : Cell) : List Sent :=
  ⟨.iopub, cell.request, .status true⟩ ::
    if cell.silent then []
    else
      [⟨.iopub, cell.request,
        .executeInput cell.code (announced k.dispatcher.session cell.code cell.silent)⟩]

/-- The end of a cell. -/
def conclude (k : Kernel τ) (cell : Cell) (outcome : Outcome) (goesOn : Bool) :
    Kernel τ × List Sent :=
  match outcome.shown with
  | .error m => (k.stop (some m.message), [])
  | .ok contents =>
    let count := outcome.count k.dispatcher.session
    let sent : List Sent :=
      contents.map (⟨.iopub, cell.request, ·⟩) ++
        [⟨.shell, cell.request, .executeReply count outcome.error⟩,
          ⟨.iopub, cell.request, .status false⟩]
    (if goesOn then { k with activity := .idle } else k.stop none, sent)

/-- Where a running cell has come to. -/
def progress (cell : Cell) : Dispatcher τ × Step → Kernel τ × List Sent
  | (dispatcher, .waiting stage) =>
    ({ dispatcher, activity := .running cell (some stage) }, [])
  | (dispatcher, .done result) =>
    conclude { dispatcher, activity := .idle } cell (.finished result) true

/-- What is left of a running cell is dropped. -/
def drop (k : Kernel τ) (stage : Option Stage) : Kernel τ :=
  match stage with
  | none => k
  | some stage => { k with dispatcher := k.dispatcher.abandon stage }

/-- A running cell ends before its time. -/
def interruptCell (k : Kernel τ) (cell : Cell) (stage : Option Stage) (goesOn : Bool) :
    Kernel τ × List Sent :=
  let k := k.drop stage
  match k.dispatcher.cancel with
  | (dispatcher, .ok ()) => conclude { k with dispatcher } cell (.interrupted none) goesOn
  | (dispatcher, .error e) => conclude { k with dispatcher } cell (.interrupted (some e)) goesOn

def shellMessage (k : Kernel τ) (message : Message) : Kernel τ × List Sent :=
  match message.inquiry with
  | .error failure => (k.stop (some failure), [])
  | .ok (.execute code silent) =>
    let cell : Cell := ⟨message.id, code, silent⟩
    ({ k with activity := .running cell none }, k.announcement cell)
  | .ok .kernelInfo =>
    (k,
      [⟨.iopub, message.id, .status true⟩, ⟨.shell, message.id, .kernelInfoReply⟩,
        ⟨.iopub, message.id, .status false⟩])
  | .ok .isComplete => (k, [⟨.shell, message.id, .isCompleteReply⟩])
  | .ok (.shutdown restart) => (k.stop none, [⟨.shell, message.id, .shutdownReply restart⟩])
  | .ok .interrupt | .ok .unsupported => (k, [])

/-- The answer on the control socket, if there is one. -/
def controlReply (message : Message) : Inquiry → List Sent
  | .shutdown restart => [⟨.control, message.id, .shutdownReply restart⟩]
  | .interrupt => [⟨.control, message.id, .interruptReply⟩]
  | .kernelInfo => [⟨.control, message.id, .kernelInfoReply⟩]
  | _ => []

def controlMessage (k : Kernel τ) (message : Message) : Kernel τ × List Sent :=
  match message.inquiry with
  | .error failure => (k.stop (some failure), [])
  | .ok inquiry =>
    let reply := controlReply message inquiry
    match inquiry with
    | .shutdown _ => (k.stop none, reply)
    | _ => (k, reply)

/-- The same while a cell runs. -/
def controlDuring (k : Kernel τ) (cell : Cell) (stage : Option Stage) (message : Message) :
    Kernel τ × List Sent :=
  match message.inquiry with
  | .error failure => ((k.drop stage).stop (some failure), [])
  | .ok inquiry =>
    let reply := controlReply message inquiry
    match inquiry with
    | .interrupt => (k.interruptCell cell stage true).map id (reply ++ ·)
    | .shutdown _ => (k.interruptCell cell stage false).map id (reply ++ ·)
    | _ => (k, reply)

/-- An event that is not read leaves everything as it is. -/
def handle (k : Kernel τ) (event : Event ε) : Kernel τ × List Sent :=
  match k.activity, event with
  | .idle, .shell message => k.shellMessage message
  | .idle, .control message => k.controlMessage message
  | .idle, .terminate => (k.stop none, [])
  | .running cell stage, .control message => k.controlDuring cell stage message
  | .running cell stage, .interrupt => k.interruptCell cell stage true
  | .running cell none, .start => progress cell (k.dispatcher.submit cell.code cell.silent)
  | .running cell (some stage), .wake heard => progress cell (k.dispatcher.resume stage heard)
  | _, _ => (k, [])

/-- All that is sent while the events come in. -/
def handleAll (k : Kernel τ) : List (Event ε) → Kernel τ × List Sent
  | [] => (k, [])
  | event :: events =>
    let (k, sent) := k.handle event
    let (k, more) := handleAll k events
    (k, sent ++ more)

end Kernel

end NotebookKernel
