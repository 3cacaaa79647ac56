import NotebookKernel.Failure
import NotebookKernel.Host.FileTree
import NotebookKernel.Json.Decoder

/-!
How a notebook wants to be connected with: addresses and the key that messages
are signed with.
-/

namespace NotebookKernel

open Json

/-- How addresses are meant. -/
inductive Carrier where
  | ipc
  | tcp
  deriving DecidableEq, Repr

namespace Carrier

def name : Carrier → String
  | .ipc => "ipc"
  | .tcp => "tcp"

def all : List Carrier := [.ipc, .tcp]

end Carrier

/-- Ports have 16 bits. -/
structure Connection where
  address : String
  carrier : Carrier
  shellPort : Nat
  iopubPort : Nat
  stdinPort : Nat
  controlPort : Nat
  heartbeatPort : Nat
  key : String
  signatureScheme : String
  kernelName : Option String
  deriving DecidableEq, Repr

namespace Connection

structure Draft where
  address : Option String := none
  carrier : Option Carrier := none
  shellPort : Option Nat := none
  iopubPort : Option Nat := none
  stdinPort : Option Nat := none
  controlPort : Option Nat := none
  heartbeatPort : Option Nat := none
  key : Option String := none
  signatureScheme : Option String := none
  kernelName : Option (Option String) := none

def Draft.finish (d : Draft) : Except Mismatch Connection := do
  let address ← need "ip" d.address
  let carrier ← need "transport" d.carrier
  let shellPort ← need "shell_port" d.shellPort
  let iopubPort ← need "iopub_port" d.iopubPort
  let stdinPort ← need "stdin_port" d.stdinPort
  let controlPort ← need "control_port" d.controlPort
  let heartbeatPort ← need "hb_port" d.heartbeatPort
  let key ← need "key" d.key
  let signatureScheme ← need "signature_scheme" d.signatureScheme
  return {
    address, carrier, shellPort, iopubPort, stdinPort, controlPort, heartbeatPort, key
    signatureScheme
    kernelName := d.kernelName.getD none }

def port : Decoder Nat := unsigned 16

def carriers : List (String × Carrier) :=
  Carrier.all.map fun carrier => (carrier.name, carrier)

def record : Record Draft Connection where
  name := "struct ConnectionInfo"
  fields :=
    [field "ip" stringDecoder (·.address) (fun d a => { d with address := some a }) false,
      field "transport" (choice carriers) (·.carrier)
        (fun d a => { d with carrier := some a }) false,
      field "shell_port" port (·.shellPort) (fun d a => { d with shellPort := some a }) false,
      field "iopub_port" port (·.iopubPort) (fun d a => { d with iopubPort := some a }) false,
      field "stdin_port" port (·.stdinPort) (fun d a => { d with stdinPort := some a }) false,
      field "control_port" port (·.controlPort)
        (fun d a => { d with controlPort := some a }) false,
      field "hb_port" port (·.heartbeatPort)
        (fun d a => { d with heartbeatPort := some a }) false,
      field "key" stringDecoder (·.key) (fun d a => { d with key := some a }) false,
      field "signature_scheme" stringDecoder (·.signatureScheme)
        (fun d a => { d with signatureScheme := some a }) false,
      field "kernel_name" (nullable stringDecoder) (·.kernelName)
        (fun d a => { d with kernelName := some a }) false]
  empty := {}
  finish := Draft.finish

def ofText (text : String) : Except Error Connection :=
  record.decoder.ofText text

/-- A name that is not given is left out. -/
def toJson (c : Connection) : Json :=
  .obj <|
    [("ip", .str c.address), ("transport", .str c.carrier.name),
      ("shell_port", .int c.shellPort), ("iopub_port", .int c.iopubPort),
      ("stdin_port", .int c.stdinPort), ("control_port", .int c.controlPort),
      ("hb_port", .int c.heartbeatPort), ("key", .str c.key),
      ("signature_scheme", .str c.signatureScheme)] ++
    match c.kernelName with
    | none => []
    | some name => [("kernel_name", .str name)]

def load (files : FileTree) (path : String) : Except Failure Connection :=
  match files.readText path with
  | .error e =>
    .error ⟨s!"Failed to read connection file {Text.quotedPath path}", [e.message]⟩
  | .ok text =>
    (ofText text).mapError fun e =>
      ⟨s!"Invalid connection file {Text.quotedPath path}", [e.message]⟩

end Connection

end NotebookKernel
