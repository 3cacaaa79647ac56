import NotebookKernel.Host
import NotebookKernel.Transport
import NotebookKernel.Wire.Request

/-!
One process for all evaluations. Each request is one line to it, and the next
line from it is the response. A request is in flight from before it is sent until
a whole line has come back; if that never happens, no other request is begun.
-/

namespace NotebookKernel

open Text (Bytes)

/-- Octets of the process's output that no response was taken from. -/
structure Pipes where
  unread : Bytes := []
  ended : Bool := false
  deriving DecidableEq, Repr

namespace Pipes

/-- The octets up to and with the first line feed, and the rest. -/
def cut : Bytes → Option (Bytes × Bytes)
  | [] => none
  | b :: rest =>
    if b = 10 then some ([b], rest)
    else (cut rest).map fun (line, rest) => (b :: line, rest)

/-- The next line. At the end of the output what is left is a line, or there is
none any more. -/
def next (pipes : Pipes) : Progress (Option (Bytes × Pipes)) :=
  match cut pipes.unread with
  | some (line, rest) => .done (some (line, { pipes with unread := rest }))
  | none =>
    if !pipes.ended then .waiting
    else if pipes.unread.isEmpty then .done none
    else .done (some (pipes.unread, { pipes with unread := [] }))

def hear (pipes : Pipes) : Wake → Pipes
  | .arrived bytes => { pipes with unread := pipes.unread ++ bytes }
  | .ended => { pipes with ended := true }
  | _ => pipes

end Pipes

/-- What a round trip waits for. -/
inductive Leg where
  | writing
  | reading
  deriving DecidableEq, Repr

structure JsonLine (η : Type) where
  host : η
  timeout : Option Duration
  process : Bool := true
  pipes : Option Pipes := some {}
  inFlight : Bool := false
  roundTrips : Nat := 0
  leg : Option Leg := none

namespace JsonLine

variable {η : Type} [Host η]

def start (host : η) (command : Command) (timeout : Option Duration) :
    Except TransportError (JsonLine η) :=
  match Host.start host ⟨command.program, command.args, none, true⟩ with
  | .ok host => .ok { host, timeout }
  | .error e => .error (.spawn command.program e)

/-- A request is refused while another is in flight, and for good once the
interpreter is terminated. -/
def request (b : JsonLine η) (request : Request) : JsonLine η × Progress (Except TransportError Response) :=
  if b.inFlight then (b, .done (.error .desynchronized))
  else if b.pipes.isNone then (b, .done (.error .terminated))
  else
    ({ b with
        host := Host.send b.host (Text.Utf8.encode request.toLine.toList)
        inFlight := true
        leg := some .writing },
      .waiting)

/-- A round trip that ends early leaves its request in flight. -/
def giveUp (b : JsonLine η) (failure : TransportError) :
    JsonLine η × Progress (Except TransportError Response) :=
  ({ b with leg := none }, .done (.error failure))

def understand (line : String) : Except TransportError Response :=
  (Response.ofLine line).mapError
    (.malformed (.ofList (Text.trimRight line.toList)))

/-- A whole line ends the round trip, whatever it says. -/
def receive (b : JsonLine η) (pipes : Pipes) :
    JsonLine η × Progress (Except TransportError Response) :=
  match pipes.next with
  | .waiting => ({ b with pipes := some pipes, leg := some .reading }, .waiting)
  | .done none => { b with pipes := some pipes }.giveUp .childExited
  | .done (some (line, pipes)) =>
    match Text.Utf8.decode line with
    | .error fault => { b with pipes := some pipes }.giveUp (.io (.other fault.message))
    | .ok cs =>
      ({ b with
          pipes := some pipes
          leg := none
          inFlight := false
          roundTrips := b.roundTrips + 1 },
        .done (understand (.ofList cs)))

def hear (b : JsonLine η) (heard : Wake) : JsonLine η × Progress (Except TransportError Response) :=
  match b.leg, b.pipes with
  | none, _ => (b, .waiting)
  | _, none => (b, .waiting)
  | some leg, some pipes =>
    match heard with
    | .failed e => b.giveUp (.io e)
    | .deadline =>
      match b.timeout with
      | none => (b, .waiting)
      | some limit => b.giveUp (.timeout limit)
    | .accepted => b.receive pipes
    | heard =>
      match leg with
      | .writing => ({ b with pipes := some (pipes.hear heard) }, .waiting)
      | .reading => b.receive (pipes.hear heard)

def drop (b : JsonLine η) : JsonLine η := { b with leg := none }

/-- Closing the input lets a well-behaved interpreter go first. -/
def terminate (b : JsonLine η) : JsonLine η × Progress Unit :=
  if b.process then
    ({ b with host := Host.stop b.host, pipes := none, process := false, leg := none }, .waiting)
  else ({ b with pipes := none, leg := none }, .done ())

def cancel (b : JsonLine η) : JsonLine η × Except TransportError Unit :=
  if b.inFlight then (b.terminate.1, .error .interrupted) else (b, .ok ())

/-- A call is the request for its code; a directive goes over as it is. -/
def requestOf : Call → Request
  | .evaluate snapshot => ⟨snapshot.code⟩
  | .forward cell => ⟨cell⟩

def answer : JsonLine η × Progress (Except TransportError Response) →
    JsonLine η × Progress Answer
  | (b, .waiting) => (b, .waiting)
  | (b, .done result) => (b, .done (result.map fun response => some (.response response)))

end JsonLine

instance {η : Type} [Host η] : Transport (JsonLine η) Wake where
  protocol _ := .jsonLine
  begin b c := JsonLine.answer (b.request (JsonLine.requestOf c))
  resume b heard := JsonLine.answer (b.hear heard)
  abandon b := b.drop
  cancel b := b.cancel
  terminate b := b.terminate

end NotebookKernel
