import NotebookKernel.Host.FileTree
import NotebookKernel.Shell.Expansion

/-!
A running script as a list of what is left to do, with the streams it reads and
writes.
-/

namespace NotebookKernel.Shell

open Text (Bytes)

/-- Where input comes from. -/
inductive Source where
  | pipe
  | octets (left : Bytes)
  | closed
  deriving DecidableEq, Repr

/-- Where output goes. -/
inductive Sink where
  | pipe
  | complaints
  | file (path : String)
  | nowhere
  /-- Kept for the command that asked for it. -/
  | held
  | closed
  deriving DecidableEq, Repr

structure Streams where
  input : Source
  output : Sink
  errors : Sink
  deriving DecidableEq, Repr

/-- What a command that runs apart leaves unchanged. -/
structure Outer where
  scope : Scope
  streams : Streams
  held : Bytes
  here : List String

inductive Task where
  | run (command : Command)
  | call (words : List Bytes)
  /-- Goes on with the command if the last one had the given success. -/
  | follow (success : Bool) (command : Command)
  | decide (yes no : Command)
  | invert
  /-- A failure that nobody asks about ends the script, if that was asked for. -/
  | verify
  | loop (success : Bool) (condition body : Command)
  | check (success : Bool) (condition body : Command)
  | each (name : String) (values : List Bytes) (body : Command)
  | restore (streams : Streams)
  /-- The end of a function, with what is put back there. -/
  | endCall (arguments : List Bytes) (saved : List (String × Option Bytes))
  | putBack (saved : List (String × Option Bytes))
  | rejoin (outer : Outer)
  | detached (command : Command) (outer : Outer)
  | insert (command : Command) (outer : Outer)
  | feed (target : Command) (outer : Outer)
  | readLine (literally : Bool) (names : List String) (soFar : Bytes)
  | copyInput
  /-- Reads as long as it makes a difference, and prints what the program makes of it. -/
  | gather (tool : Tool) (args : List String) (soFar : Bytes)
  | showFile (path : String)

/-- `unread` was sent to it, `printed` and `complained` were sent by it; of what
was printed the last part comes first. -/
structure Process where
  scope : Scope
  files : FileTree
  streams : Streams
  todo : List Task
  /-- What runs in the background. It gets its turn when the script waits for it
  or has ended. -/
  later : List Task := []
  /-- What is done about signals, by their names, and at the end of the script. -/
  traps : List (String × Option Command) := []
  /-- A failure that nobody asks about ends the script. -/
  stopsOnFailure : Bool := false
  unread : Bytes := []
  printed : List Bytes := []
  complained : Bytes := []
  held : Bytes := []

inductive Effect where
  | goesOn
  | waits
  | sleeps (nanos : Nat)
  | ended
  deriving DecidableEq, Repr

def textOf (bytes : Bytes) : String := .ofList (Text.Utf8.repair bytes)

def bytesOfText (text : String) : Bytes := Text.Utf8.encode text.toList

namespace Process

def succeeds (p : Process) : Bool := p.scope.status == 0

def withStatus (p : Process) (status : Nat) : Process :=
  { p with scope := { p.scope with status } }

def withResult (p : Process) (ok : Bool) : Process :=
  p.withStatus (if ok then 0 else 1)

def push (p : Process) (tasks : List Task) : Process :=
  { p with todo := tasks ++ p.todo }

/-- None if nothing can be written there. -/
def write (p : Process) (sink : Sink) (bytes : Bytes) : Option Process :=
  match sink with
  | .pipe => some { p with printed := bytes :: p.printed }
  | .complaints => some { p with complained := p.complained ++ bytes }
  | .file path =>
    match p.files.read path with
    | .error _ => none
    | .ok old =>
      match p.files.write path (old ++ bytes) with
      | .error _ => none
      | .ok files => some { p with files }
  | .nowhere => some p
  | .held => some { p with held := p.held ++ bytes }
  | .closed => none

/-- Writes to the output; the status says whether that worked. -/
def put (p : Process) (bytes : Bytes) (ok : Bool) : Process :=
  if bytes.isEmpty then p.withResult ok
  else match p.write p.streams.output bytes with
    | some p => p.withResult ok
    | none => p.withStatus 1

def complain (p : Process) (text : String) (status : Nat) : Process :=
  let line := s!"{textOf p.scope.name}: 1: {text}\n"
  ((p.write p.streams.errors (bytesOfText line)).getD p).withStatus status

/-- Whether something can still be written to the pipe, now or later. -/
def mayPrint (p : Process) : Bool :=
  let uses (streams : Streams) : Bool := streams.output == .pipe || streams.errors == .pipe
  uses p.streams || (p.todo ++ p.later).any fun
    | .restore streams => uses streams
    | .rejoin outer | .detached _ outer | .insert _ outer | .feed _ outer => uses outer.streams
    | _ => false

/-- Whether something can still be read from the pipe. -/
def mayRead (p : Process) : Bool :=
  let uses (streams : Streams) : Bool := streams.input == .pipe
  uses p.streams || p.todo.any fun
    | .restore streams => uses streams
    | .rejoin outer | .insert _ outer | .feed _ outer => uses outer.streams
    | _ => false

/-- What the shell says about a word that cannot be expanded. -/
def expansionFailure : String := "arithmetic expression"

/-- Whether a failure now is one that somebody asks about. -/
def isAsked (p : Process) : Bool :=
  p.todo.any fun
    | .follow _ _ | .decide _ _ | .check _ _ _ | .invert => true
    | _ => false

def outer (p : Process) : Outer := ⟨p.scope, p.streams, p.held, p.files.here⟩

/-- Back to what was before, but for the status. -/
def resumeOuter (p : Process) (outer : Outer) : Process :=
  { p with
    scope := { outer.scope with status := p.scope.status }
    streams := outer.streams
    held := outer.held
    files := { p.files with here := outer.here } }

/-- Leaves a script, or a part of it that runs apart. -/
def leave (p : Process) : Process :=
  { p with todo := p.todo.dropWhile fun
      | .rejoin _ | .insert _ _ | .feed _ _ => false
      | _ => true }

/-- Drops what is left to do up to the innermost loop. -/
def toLoop (p : Process) : List Task → Option Process
  | [] => none
  | .rejoin _ :: _ | .insert _ _ :: _ | .feed _ _ :: _ | .endCall _ _ :: _ => none
  | .loop success condition body :: rest =>
    some { p with todo := .loop success condition body :: rest }
  | .check success condition body :: rest =>
    some { p with todo := .loop success condition body :: rest }
  | .each name values body :: rest => some { p with todo := .each name values body :: rest }
  | .restore streams :: rest => toLoop { p with streams } rest
  | .putBack saved :: rest =>
    toLoop { p with scope := saved.foldl Scope.putBack p.scope } rest
  | _ :: rest => toLoop p rest

/-- Leaves so many loops. -/
def breakLoops (p : Process) : Nat → Process
  | 0 => p
  | n + 1 =>
    match p.toLoop p.todo with
    | none => p
    | some p => breakLoops { p with todo := p.todo.drop 1 } n

/-- Drops what is left to do in the innermost function. -/
def toEndOfCall (p : Process) : List Task → Option Process
  | [] => none
  | .rejoin _ :: _ | .insert _ _ :: _ | .feed _ _ :: _ => none
  | .endCall arguments saved :: rest =>
    some { p with todo := .endCall arguments saved :: rest }
  | .restore streams :: rest => toEndOfCall { p with streams } rest
  | .putBack saved :: rest =>
    toEndOfCall { p with scope := saved.foldl Scope.putBack p.scope } rest
  | _ :: rest => toEndOfCall p rest

/-- At the end of the innermost function the variable is as it is now. -/
def keepForCaller (p : Process) (name : String) : List Task → List Task
  | [] => []
  | .endCall arguments saved :: rest =>
    .endCall arguments ((name, p.scope.valueOf? name) :: saved) :: rest
  | task :: rest => task :: keepForCaller p name rest

def setSink (streams : Streams) (channel : Channel) (sink : Sink) : Streams :=
  match channel with
  | .input => { streams with input := .closed }
  | .output => { streams with output := sink }
  | .errors => { streams with errors := sink }

/-- What the shell says when it cannot open a file. -/
def openingFailure (verb path : String) (e : IoError) : String :=
  let reason := if e = .notFound then
      if verb = "open" then "No such file" else "Directory nonexistent"
    else e.name
  s!"cannot {verb} {path}: {reason}"

def openForWriting (p : Process) (path : String) (content : Bytes) :
    Except String (Process × Sink) :=
  match p.files.stat path with
  | .ok (.device _) => .ok (p, .nowhere)
  | _ =>
    match p.files.write path content with
    | .ok files => .ok ({ p with files }, .file path)
    | .error e => .error (openingFailure "create" path e)

/-- A process with one of its streams changed, or what is wrong. -/
def redirect (p : Process) : Redirection → Except String Process
  | .close channel =>
    .ok { p with streams := setSink p.streams channel .closed }
  | .copy .output .errors =>
    .ok { p with streams := { p.streams with output := p.streams.errors } }
  | .copy .errors .output =>
    .ok { p with streams := { p.streams with errors := p.streams.output } }
  | .copy _ _ => .ok p
  | .document text =>
    match p.scope.single text with
    | none => .error expansionFailure
    | some (scope, bytes) =>
      .ok { p with scope, streams := { p.streams with input := .octets bytes } }
  | .file channel opening name =>
    match p.scope.single name with
    | none => .error expansionFailure
    | some (scope, bytes) =>
      let p := { p with scope }
      let path := textOf bytes
      match opening with
      | .reading =>
        match p.files.read path with
        | .ok content => .ok { p with streams := { p.streams with input := .octets content } }
        | .error e => .error (openingFailure "open" path e)
      | .replacing =>
        (p.openForWriting path []).map fun (p, sink) =>
          { p with streams := setSink p.streams channel sink }
      | .appending =>
        let old := match p.files.read path with
          | .ok content => content
          | .error _ => []
        (p.openForWriting path old).map fun (p, sink) =>
          { p with streams := setSink p.streams channel sink }

def redirectAll (p : Process) : List Redirection → Except String Process
  | [] => .ok p
  | first :: rest =>
    match p.redirect first with
    | .error message => .error message
    | .ok p => redirectAll p rest

end Process

end NotebookKernel.Shell
