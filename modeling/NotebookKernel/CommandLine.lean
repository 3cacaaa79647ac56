import NotebookKernel.CommandLine.Arguments
import NotebookKernel.Connection
import NotebookKernel.Console
import NotebookKernel.Startup

/-!
The program as its user sees it: what it prints, what it leaves in files, and the
code it ends with.
-/

namespace NotebookKernel.CommandLine

open Text (Bytes)

/-- What is left when the program has ended, or nobody watches it any more. -/
structure Finish where
  code : Nat
  output : String
  complaints : Bytes
  machine : Machine
  /-- It has not ended. -/
  running : Bool := false

/-- What the program works with. -/
structure World where
  machine : Machine
  environment : Environment
  input : Bytes

def utf8 (text : String) : Bytes := Text.Utf8.encode text.toList

def fail (machine : Machine) (output : String) (failure : Failure) : Finish :=
  { code := 1, output, complaints := machine.complained ++ utf8 failure.report, machine }

def succeed (machine : Machine) (output : String) (note : String) : Finish :=
  { code := 0, output, complaints := machine.complained ++ utf8 note, machine }

def noCommand : Failure :=
  ⟨"No command given; Jupyter starts the kernel with `irust-kernel run --connection-file <file>`",
    []⟩

def startSession (world : World) (settings : Settings) :
    Except Failure (Dispatcher (Bridge Machine)) :=
  Dispatcher.start world.machine settings (settings.command world.machine.files world.environment)

def consoleSession (world : World) (settings : Settings) : Finish :=
  match startSession world settings with
  | .error failure => fail world.machine "" failure
  | .ok dispatcher =>
    let (dispatcher, printed) := Console.run dispatcher world.input
    let machine := dispatcher.shutdown.transport.host
    match printed.fault with
    | none => { succeed machine printed.output "" with running := printed.waits }
    | some fault => fail machine printed.output ⟨"console session failed", [fault.message]⟩

/-- Prints the settings in effect, and keeps them if asked to. -/
def showSettings (world : World) (settings : Settings) (path : String) (save : Bool) : Finish :=
  let output := settings.text ++ "\n"
  if save then
    match settings.save world.machine.files path with
    | .error failure => fail world.machine output failure
    | .ok files => succeed { world.machine with files } output s!"Saved to {path}\n"
  else succeed world.machine output ""

/-- A notebook is served until it is closed. -/
def serve (world : World) (settings : Settings) (connectionFile : String) : Finish :=
  match Connection.load world.machine.files connectionFile with
  | .error failure => fail world.machine "" failure
  | .ok _ =>
    match startSession world settings with
    | .error failure => fail world.machine "" failure
    | .ok dispatcher => succeed dispatcher.shutdown.transport.host "" ""

/-- The program with its words. Improper use has a code of its own. -/
def perform (world : World) (words : List String) : Finish :=
  match understand words with
  | none => { code := 2, output := "", complaints := [], machine := world.machine }
  | some arguments =>
    let path := arguments.settingsPath.getD world.environment.settingsPath
    let settings := arguments.overrides.apply (Settings.load world.machine.files path)
    match arguments.action with
    | none => fail world.machine "" noCommand
    | some .console => consoleSession world settings
    | some (.settings save) => showSettings world settings path save
    | some (.run connectionFile) => serve world settings connectionFile

end NotebookKernel.CommandLine
