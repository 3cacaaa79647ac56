import NotebookKernel.Host
import NotebookKernel.Transport

/-!
One process for each evaluation. Its arguments are the dependencies and the code;
all it prints is the result, however it ends. It keeps nothing, so a dropped or
late evaluation costs no more than its own output.
-/

namespace NotebookKernel

open Text (Bytes)

structure OneShot (η : Type) where
  host : η
  command : Command
  timeout : Option Duration
  /-- What the running process has printed. -/
  captured : Option Bytes := none

namespace OneShot

variable {η : Type} [Host η]

/-- The dependencies and the code follow the leading arguments. -/
def invocation (command : Command) (snapshot : Snapshot) : Invocation where
  program := command.program
  args := command.args ++ [snapshot.dependencies, snapshot.code]
  toolchain := some snapshot.toolchain
  converses := false

def begin (b : OneShot η) : Call → OneShot η × Progress Answer
  | .forward _ => (b, .done (.ok none))
  | .evaluate snapshot =>
    let process := invocation b.command snapshot
    match Host.start b.host process with
    | .ok host => ({ b with host, captured := some [] }, .waiting)
    | .error e =>
      ({ b with host := Host.refused b.host process },
        .done (.error (.spawn b.command.program e)))

def kill (b : OneShot η) : OneShot η :=
  { b with host := Host.stop b.host, captured := none }

/-- The message of a late evaluation is its output. -/
def resume (b : OneShot η) (heard : Wake) : OneShot η × Progress Answer :=
  match b.captured with
  | none => (b, .waiting)
  | some bytes =>
    match heard with
    | .accepted => (b, .waiting)
    | .arrived more => ({ b with captured := some (bytes ++ more) }, .waiting)
    | .ended =>
      ({ b with captured := none }, .done (.ok (some (.text (.ofList (Text.Utf8.repair bytes))))))
    | .failed e => (b.kill, .done (.error (.io e)))
    | .deadline =>
      match b.timeout with
      | none => (b, .waiting)
      | some limit =>
        (b.kill, .done (.ok (some (.text ((TransportError.timeout limit).message ++ "\n")))))

end OneShot

instance {η : Type} [Host η] : Transport (OneShot η) Wake where
  protocol _ := .oneShot
  begin := OneShot.begin
  resume := OneShot.resume
  abandon b := b.kill
  cancel b := (b, .ok ())
  terminate b := (b, .done ())

end NotebookKernel
