import NotebookKernel.Kernel
import NotebookKernel.Live

/-!
A kernel at work on a machine. What cannot be read yet is held back until it can.
-/

namespace NotebookKernel

/-- `deadline` is when the running cell is late. -/
structure Serving where
  kernel : Kernel (Bridge Machine)
  deadline : Option Nat := none
  held : List (Event Wake) := []

namespace Serving

def now (s : Serving) : Nat := Live.now s.kernel.dispatcher.transport

/-- Nothing is read any more. -/
def isStopped (s : Serving) : Bool :=
  match s.kernel.activity with
  | .stopped _ => true
  | _ => false

/-- An announced cell begins at once. -/
def begin (s : Serving) : Serving × List Sent :=
  match s.kernel.activity with
  | .running _ none =>
    let deadline := Live.deadline s.kernel.dispatcher.transport
    let (kernel, sent) := s.kernel.handle Event.start
    ({ s with kernel, deadline }, sent)
  | _ => (s, [])

def deliver (s : Serving) (event : Event Wake) : Serving × List Sent :=
  if s.kernel.reads event then
    let (kernel, sent) := s.kernel.handle event
    let (s, more) := { s with kernel }.begin
    (s, sent ++ more)
  else if s.isStopped then (s, [])
  else ({ s with held := s.held ++ [event] }, [])

/-- A running cell up to its end or the limit. -/
def follow (limit : Option Nat) : Nat → Serving → Serving × List Sent
  | 0, s => (s, [])
  | fuel + 1, s =>
    match s.kernel.activity with
    | .running _ (some _) =>
      let dispatcher := s.kernel.dispatcher
      match Live.hear dispatcher.transport s.deadline limit with
      | (transport, none) =>
        ({ s with kernel := { s.kernel with dispatcher := { dispatcher with transport } } }, [])
      | (transport, some heard) =>
        let kernel := { s.kernel with dispatcher := { dispatcher with transport } }
        let (kernel, sent) := kernel.handle (.wake heard)
        let (s, more) := follow limit fuel { s with kernel }
        (s, sent ++ more)
    | _ => (s, [])

/-- Reads what was held back, in order, as far as it can be read now. -/
def catchUp (limit : Option Nat) : Nat → Serving → Serving × List Sent
  | 0, s => (s, [])
  | fuel + 1, s =>
    match s.held with
    | [] => (s, [])
    | event :: rest =>
      if s.kernel.reads event then
        let (s, sent) := { s with held := rest }.deliver event
        let (s, more) := s.follow limit Live.patience
        let (s, last) := catchUp limit fuel s
        (s, sent ++ more ++ last)
      else (s, [])

/-- Everything that happens up to the limit, or until only a new event could make
a difference. -/
def await (s : Serving) (limit : Option Nat) : Serving × List Sent :=
  let (s, sent) := s.follow limit Live.patience
  let (s, more) := s.catchUp limit (s.held.length + 1)
  (s, sent ++ more)

/-- How long a client waits before it sends something during a cell. -/
def pause : Nat := 50000000

def deliverAll (s : Serving) : List (Event Wake) → Serving × List Sent
  | [] => (s, [])
  | event :: events =>
    let (s, sent) := s.deliver event
    let (s, more) := deliverAll s events
    (s, sent ++ more)

/-- One event and those that come while its cell runs. -/
def exchange (s : Serving) (event : Event Wake) (during : List (Event Wake)) :
    Serving × List Sent :=
  let (s, sent) := s.deliver event
  let (s, early) :=
    if during.isEmpty then (s, []) else s.await (some (s.now + pause))
  let (s, answers) := s.deliverAll during
  let (s, rest) := s.await none
  (s, sent ++ early ++ answers ++ rest)

end Serving

end NotebookKernel
