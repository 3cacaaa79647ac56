import NotebookKernel.Host
import NotebookKernel.Shell.Execution

/-!
A machine in memory, with files, a clock and at most one process. Its time passes
only while somebody waits, and computing takes none of it.
-/

namespace NotebookKernel

open Text (Bytes)

/-- A process that was started, and what its starter has yet to hear of it. -/
structure Child where
  process : Shell.Process
  converses : Bool
  sleepsUntil : Option Nat := none
  exited : Bool := false
  /-- Whether octets that were sent are taken. -/
  receipt : Option Bool := none
  /-- The end of its output was heard. -/
  heardOut : Bool := false

/-- The clock counts nanoseconds. -/
structure Machine where
  files : FileTree
  environment : List (String × String)
  clock : Nat := 0
  child : Option Child := none
  /-- What processes wrote to the standard error that they share. -/
  complained : Bytes := []

namespace Child

/-- How many steps a process is watched for before it is taken to be busy. -/
def patience : Nat := 400000

def outputEnded (c : Child) : Bool :=
  c.exited || (c.converses && !c.process.mayPrint)

/-- Runs until the process waits, sleeps or ends. One that sleeps is not woken
early. -/
def run (c : Child) (now : Nat) : Child :=
  if c.exited then c
  else if c.sleepsUntil.any (now < ·) then c
  else match c.process.advance patience with
    | (process, .sleeps nanos) => { c with process, sleepsUntil := some (now + nanos) }
    | (process, .ended) => { c with process, sleepsUntil := none, exited := true }
    | (process, _) => { c with process, sleepsUntil := none }

/-- What the starter hears at this moment. -/
def hear (c : Child) : Child × Option Wake :=
  if !c.process.printed.isEmpty then
    ({ c with process := { c.process with printed := [] } },
      some (.arrived c.process.printed.reverse.flatten))
  else if c.outputEnded && !c.heardOut then ({ c with heardOut := true }, some .ended)
  else (c, none)

/-- Octets for a process whose input is open wait there until it reads them. -/
def send (c : Child) (bytes : Bytes) : Child :=
  if c.exited || !c.process.mayRead then { c with receipt := some false }
  else
    { c with
      process := { c.process with unread := c.process.unread ++ bytes }
      receipt := some true }

end Child

namespace Machine

/-- A machine with the usual tools, whose relative paths start from there. -/
def initial (here : String) (environment : List (String × String)) : Machine :=
  { files := .initial (Path.names here), environment }

/-- The longest argument that a process can be given. -/
def maxArgument : Nat := 131071

def hasNul (text : String) : Bool := text.toList.contains '\x00'

/-- The variables of a new process. -/
def inherited (m : Machine) (toolchain : Option Toolchain) : List (String × Bytes) :=
  let given := m.environment.map fun entry => (entry.1, Shell.bytesOfText entry.2)
  match toolchain with
  | none => given
  | some toolchain => ("RUSTUP_TOOLCHAIN", Shell.bytesOfText toolchain.name) :: given

def start (m : Machine) (invocation : Invocation) : Except IoError Machine :=
  if hasNul invocation.program || invocation.args.any hasNul then .error .nulByte
  else
    match Shell.Process.findProgram m.files invocation.program
        (invocation.args.map Shell.bytesOfText) with
    | .error e => .error e
    | .ok (tool, args) =>
      if args.any fun arg => maxArgument < arg.length then .error .argumentsTooLong
      else
        let name := Shell.bytesOfText invocation.program
        let streams : Shell.Streams :=
          ⟨if invocation.converses then .pipe else .octets [], .pipe,
            if invocation.converses then .complaints else .nowhere⟩
        let bindings := m.inherited invocation.toolchain
        let process : Shell.Process :=
          { scope := { bindings, exported := bindings.map (·.1), name, arguments := [] }
            files := m.files
            streams
            todo := [] }
        let child : Child := { process, converses := invocation.converses }
        let child := match process.runTool tool name args with
          | (process, .sleeps nanos) =>
            { child with process, sleepsUntil := some (m.clock + nanos) }
          | (process, _) => { child with process }
        .ok { m with child := some child }

def send (m : Machine) (bytes : Bytes) : Machine :=
  { m with child := m.child.map (·.send bytes) }

def stop (m : Machine) : Machine :=
  { m with child := none }

/-- With what the process changed outside itself. -/
def withChild (m : Machine) (c : Child) : Machine :=
  { m with
    files := { c.process.files with here := m.files.here }
    complained := m.complained ++ c.process.complained
    child := some { c with process := { c.process with complained := [] } } }

/-- The earlier of two moments, either of which may never come. -/
def earlier : Option Nat → Option Nat → Option Nat
  | none, b => b
  | a, none => a
  | some a, some b => some (min a b)

/-- Time passes up to that moment, if there is one. -/
def passUntil (m : Machine) (moment : Option Nat) : Machine :=
  { m with clock := max m.clock (moment.getD m.clock) }

/-- What is heard next of the process, up to a moment; whoever waits for one that
was stopped hears that it has ended. The fuel bounds how often it sleeps. -/
def next : Nat → Machine → Option Nat → Machine × Option Wake
  | 0, m, until_ => (m.passUntil until_, none)
  | fuel + 1, m, until_ =>
    match m.child with
    | none => (m, some .ended)
    | some c =>
      match c.receipt with
      | some true => ({ m with child := some { c with receipt := none } }, some .accepted)
      | some false =>
        ({ m with child := some { c with receipt := none } }, some (.failed .brokenPipe))
      | none =>
        let (c, wake) := (c.run m.clock).hear
        let m := m.withChild c
        match wake with
        | some wake => (m, some wake)
        | none =>
          match c.sleepsUntil with
          | none => (m.passUntil until_, none)
          | some moment =>
            if until_.any (· < moment) then (m.passUntil until_, none)
            else next fuel (m.passUntil (some moment)) until_

/-- More than the times that a process sleeps while somebody waits. -/
def sleeps : Nat := 10000

/-- What a waiting call hears next. It is late at its deadline, and nothing is
heard after the limit. -/
def hear (m : Machine) (deadline limit : Option Nat) : Machine × Option Wake :=
  match m.next sleeps (earlier deadline limit) with
  | (m, some wake) => (m, some wake)
  | (m, none) =>
    if deadline.any (· ≤ m.clock) then (m, some .deadline) else (m, none)

end Machine

instance : Host Machine where
  start := Machine.start
  send := Machine.send
  stop := Machine.stop

end NotebookKernel
