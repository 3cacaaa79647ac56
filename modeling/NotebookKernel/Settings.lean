import NotebookKernel.Failure
import NotebookKernel.Host.Duration
import NotebookKernel.Interpreter
import NotebookKernel.Json.Decoder
import NotebookKernel.Json.Printer
import NotebookKernel.Transport

/-!
Settings of the kernel in a JSON file. A file that cannot be read as settings is
as good as none.
-/

namespace NotebookKernel

open Json

structure Settings where
  protocol : Protocol := .oneShot
  /-- The interpreter to be used, if it is not to be looked for. -/
  interpreter : Option String := none
  interpreterArgs : List String := []
  /-- The toolchain that a session starts with. -/
  toolchain : Toolchain := .stable
  timeoutSeconds : Option UInt64 := none
  deriving DecidableEq, Repr

namespace Settings

/-- What was read so far. -/
structure Draft where
  protocol : Option Protocol := none
  interpreter : Option (Option String) := none
  interpreterArgs : Option (List String) := none
  toolchain : Option Toolchain := none
  timeoutSeconds : Option (Option UInt64) := none

/-- What was not read takes its default. -/
def Draft.settings (draft : Draft) : Settings :=
  let plain : Settings := {}
  { protocol := draft.protocol.getD plain.protocol
    interpreter := draft.interpreter.getD plain.interpreter
    interpreterArgs := draft.interpreterArgs.getD plain.interpreterArgs
    toolchain := draft.toolchain.getD plain.toolchain
    timeoutSeconds := draft.timeoutSeconds.getD plain.timeoutSeconds }

def protocols : List (String × Protocol) :=
  Protocol.all.map fun protocol => (protocol.name, protocol)

def toolchains : List (String × Toolchain) :=
  Toolchain.all.map fun toolchain => (toolchain.name, toolchain)

def seconds : Decoder UInt64 :=
  (unsigned 64).map UInt64.ofNat

def record : Record Draft Settings where
  name := "struct KernelSettings"
  fields :=
    [field "protocol" (choice protocols) (·.protocol)
        (fun d a => { d with protocol := some a }) true,
      field "interpreter" (nullable (stringAs "path string")) (·.interpreter)
        (fun d a => { d with interpreter := some a }) true,
      field "interpreter_args" (listOf stringDecoder) (·.interpreterArgs)
        (fun d a => { d with interpreterArgs := some a }) true,
      field "toolchain" (choice toolchains) (·.toolchain)
        (fun d a => { d with toolchain := some a }) true,
      field "eval_timeout_secs" (nullable seconds) (·.timeoutSeconds)
        (fun d a => { d with timeoutSeconds := some a }) true]
  empty := {}
  finish draft := .ok draft.settings

def ofText (text : String) : Except Error Settings :=
  record.decoder.ofText text

def ofJson (value : Json) : Except Error Settings :=
  record.decoder.ofValue value

/-- Null where nothing is set. -/
def orNull {α : Type} (write : α → Json) : Option α → Json
  | none => .null
  | some a => write a

def toJson (settings : Settings) : Json :=
  .obj
    [("protocol", .str settings.protocol.name),
      ("interpreter", orNull .str settings.interpreter),
      ("interpreter_args", .arr (settings.interpreterArgs.map .str)),
      ("toolchain", .str settings.toolchain.name),
      ("eval_timeout_secs", orNull (fun n => .int n.toNat) settings.timeoutSeconds)]

/-- The settings as they stand in their file. -/
def text (settings : Settings) : String :=
  settings.toJson.pretty

/-- No time at all means no limit. -/
def timeout (settings : Settings) : Option Duration :=
  match settings.timeoutSeconds with
  | none => none
  | some n => if n = 0 then none else some (.ofSeconds n.toNat)

def command (settings : Settings) (files : FileTree) (env : Environment) : Command :=
  (Command.interpreter files env settings.interpreter).withArguments settings.interpreterArgs

/-- The settings of a file's content. -/
def ofContent (content : Except IoError String) : Settings :=
  match content with
  | .error _ => {}
  | .ok text =>
    match ofText text with
    | .error _ => {}
    | .ok settings => settings

def load (files : FileTree) (path : String) : Settings :=
  ofContent (files.readText path)

/-- Directories that are missing are made. -/
def save (settings : Settings) (files : FileTree) (path : String) : Except Failure FileTree :=
  let prepared : Except Failure FileTree :=
    match Path.parent? path with
    | none => .ok files
    | some parent =>
      (files.ensureDirectory parent).mapError fun e =>
        ⟨s!"creating settings directory {Text.quotedPath parent}", [e.message]⟩
  match prepared with
  | .error failure => .error failure
  | .ok files =>
    (files.write path (Text.Utf8.encode settings.text.toList)).mapError fun e => ⟨e.message, []⟩

end Settings

end NotebookKernel
