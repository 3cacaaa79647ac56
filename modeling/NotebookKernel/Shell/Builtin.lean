import NotebookKernel.Shell.Condition
import NotebookKernel.Shell.Program

/-!
The commands that the shell has of its own.
-/

namespace NotebookKernel.Shell

open Text (Bytes)

namespace Process

/-- Prints its arguments; escapes count. -/
def echo (p : Process) (args : List Bytes) : Process :=
  let (lineFeed, args) := match args with
    | first :: rest => if first = bytesOfText "-n" then (false, rest) else (true, args)
    | [] => (true, [])
  let (bytes, goesOn) := Format.unescape (Scope.joined args)
  p.put (bytes ++ (if lineFeed && goesOn then [10] else [])) true

def withoutBackslashes : Bytes → Bytes
  | [] => []
  | [b] => if b = 92 then [] else [b]
  | b :: c :: rest =>
    if b = 92 then c :: withoutBackslashes rest else b :: withoutBackslashes (c :: rest)

/-- The line is complete, or the input is at its end. -/
def finishLine (p : Process) (literally : Bool) (names : List String) (line : Bytes)
    (atEnd : Bool) : Process :=
  let line := line.filter (· != 0)
  let line := if literally then line else withoutBackslashes line
  let fields := Fields.take p.scope.separators names.length line
  let scope := (names.zip fields).foldl (fun scope entry => scope.assign entry.1 entry.2) p.scope
  { p with scope := { scope with status := if atEnd then 1 else 0 } }

def cutLine (bytes : Bytes) : Option (Bytes × Bytes) :=
  match bytes.dropWhile (· != 10) with
  | [] => none
  | _ :: rest => some (bytes.takeWhile (· != 10), rest)

def readLine (p : Process) (literally : Bool) (names : List String) (soFar : Bytes) :
    Process × Effect :=
  match p.streams.input with
  | .closed => (p.finishLine literally names soFar true, .goesOn)
  | .octets left =>
    match cutLine left with
    | some (line, rest) =>
      ({ p with streams := { p.streams with input := .octets rest } }.finishLine
        literally names (soFar ++ line) false, .goesOn)
    | none =>
      ({ p with streams := { p.streams with input := .octets [] } }.finishLine
        literally names (soFar ++ left) true, .goesOn)
  | .pipe =>
    match cutLine p.unread with
    | some (line, rest) =>
      ({ p with unread := rest }.finishLine literally names (soFar ++ line) false, .goesOn)
    | none =>
      ({ p with unread := [] }.push [.readLine literally names (soFar ++ p.unread)], .waits)

/-- The options of a command and what follows them. -/
def options (letters : List Char) : List String → List Char × List String
  | [] => ([], [])
  | word :: rest =>
    match word.toList with
    | ['-', '-'] => ([], rest)
    | '-' :: c :: cs =>
      if (c :: cs).all letters.contains then
        let (more, rest) := options letters rest
        (c :: cs ++ more, rest)
      else ([], word :: rest)
    | _ => ([], word :: rest)

def endsProcess (signal : String) : Bool :=
  ! ["0", "CHLD", "17", "CONT", "18", "URG", "23", "WINCH", "28"].contains signal

/-- The signal that is sent, and to whom. -/
def signalOf : List String → String × List String
  | "-s" :: signal :: ids => (signal, ids)
  | word :: ids =>
    match word.toList with
    | '-' :: c :: cs => (.ofList (c :: cs), ids)
    | _ => ("TERM", word :: ids)
  | [] => ("TERM", [])

/-- A signal's name for its name or number. -/
def signalName (signal : String) : String :=
  let known : List (String × String) :=
    [("0", "EXIT"), ("1", "HUP"), ("2", "INT"), ("3", "QUIT"), ("9", "KILL"), ("15", "TERM")]
  let bare := if signal.startsWith "SIG" then String.ofList (signal.toList.drop 3) else signal
  ((known.find? fun entry => entry.1 == bare).map (·.2)).getD bare

def trapFor (p : Process) (signal : String) : Option (Option Command) :=
  (p.traps.find? fun entry => entry.1 == signal).map (·.2)

/-- The process sends a signal to itself. -/
def signal (p : Process) (name : String) : Process :=
  let dies : Process := { p with todo := [], traps := [] }.withStatus 137
  if name = "KILL" then dies
  else match p.trapFor name with
    | some none => p.withStatus 0
    | some (some command) => (p.withStatus 0).push [.run command]
    | none => if endsProcess name then dies else p.withStatus 0

def kill (p : Process) (words : List String) : Process :=
  let (name, ids) := signalOf words
  let name := signalName name
  if !ids.contains (toString Scope.processId) then p.complain "kill: No such process" 1
  else if name = "EXIT" then p.withStatus 0
  else p.signal name

def test (p : Process) (args : List Bytes) : Process :=
  match Condition.holds p.files (args.map textOf) with
  | some b => p.withResult b
  | none => p.complain "unexpected operator" 2

def exitStatus (p : Process) (args : List String) : Nat :=
  match args with
  | word :: _ => (word.toNat?.getD 2) % 256
  | [] => p.scope.status

/-- Variables given as assignments, or only named. -/
def declare (p : Process) (publish : Bool) : List String → Process
  | [] => p.withStatus 0
  | word :: rest =>
    let (name, scope) := match assigned word.toList with
      | some (name, value) => (name, p.scope.assign name (bytesOf value))
      | none => (word, p.scope)
    declare { p with scope := if publish then scope.publish name else scope } publish rest

/-- What is to be done about signals or at the end of the script. -/
def trap (p : Process) (words : List String) : Process :=
  let p := p.withStatus 0
  match words with
  | action :: signals =>
    let names := signals.map signalName
    let others := p.traps.filter fun entry => !names.contains entry.1
    let command := if action = "" then none else read? action
    if action = "-" then { p with traps := others }
    else { p with traps := names.map (·, command) ++ others }
  | [] => p

/-- How failures and missing parameters are taken, and the arguments. -/
def set (p : Process) (args : List Bytes) : Process :=
  match args.map textOf with
  | [] => p.withStatus 0
  | "--" :: _ => { p with scope := { p.scope with arguments := args.drop 1, status := 0 } }
  | word :: _ =>
    let letters := word.toList.drop 1
    let p := p.withStatus 0
    match word.toList.head? with
    | some '-' | some '+' =>
      let on := word.toList.head? == some '-'
      { p with
        stopsOnFailure := if letters.contains 'e' then on else p.stopsOnFailure
        scope := { p.scope with
          strict := if letters.contains 'u' then on else p.scope.strict } }
    | _ => { p with scope := { p.scope with arguments := args } }

def changeDirectory (p : Process) (words : List String) : Process :=
  let home := textOf ((p.scope.valueOf? "HOME").getD [])
  let path := words.headD home
  match p.files.resolve path with
  | .ok names =>
    if p.files.isDirectory path then
      { p with files := { p.files with here := names } }.withStatus 0
    else p.complain ("cd: can't cd to " ++ path) 2
  | .error _ => p.complain ("cd: can't cd to " ++ path) 2

/-- A script that is run in place of the command that names it. -/
def runHere (p : Process) (script : String) : Process :=
  match read? script with
  | some command => (p.withStatus 0).push [.run command]
  | none => (p.complain "syntax error" 2).leave

def source (p : Process) (words : List String) : Process :=
  match words with
  | [] => p.withStatus 2
  | path :: _ =>
    match p.files.readText path with
    | .ok script => p.runHere script
    | .error _ => (p.complain s!".: cannot open {path}: No such file" 2).leave

/-- Names that are the shell's own commands. -/
def ownCommands : List String :=
  [":", ".", "true", "false", "cd", "umask", "wait", "trap", "echo", "printf", "read", "exit",
    "return", "break", "continue", "shift", "set", "unset", "export", "readonly", "local", "test",
    "[", "pwd", "kill", "command", "eval", "exec"]

/-- What a command's name stands for. -/
def locate (p : Process) (name : String) : Process :=
  if ownCommands.contains name || (p.scope.function? name).isSome then
    p.put (bytesOfText (name ++ "\n")) true
  else
    match searchPath.find? fun place => p.files.exists? (Path.join place name) with
    | some place => p.put (bytesOfText (Path.join place name ++ "\n")) true
    | none => p.withStatus 127

def shift (p : Process) (n : Nat) : Process :=
  if p.scope.arguments.length < n then (p.complain "shift: can't shift that many" 2).leave
  else { p with scope := { p.scope with arguments := p.scope.arguments.drop n, status := 0 } }

/-- The commands that the shell has of its own; none if it is not one of them. -/
def builtin (p : Process) (name : String) (args : List Bytes) : Option (Process × Effect) :=
  let words := args.map textOf
  let done (p : Process) : Option (Process × Effect) := some (p, .goesOn)
  match name with
  | ":" | "true" | "umask" => done (p.withStatus 0)
  | "cd" => done (p.changeDirectory words)
  | "wait" => done ({ p with later := [] }.withStatus 0 |>.push p.later)
  | "trap" => done (p.trap words)
  | "false" => done (p.withStatus 1)
  | "echo" => done (p.echo args)
  | "printf" =>
    let args := if words.head? = some "--" then args.drop 1 else args
    match args with
    | [] => done (p.complain "printf: usage: printf format [arg ...]" 2)
    | format :: args =>
      let (bytes, ok) := Format.fill format args
      done (p.put bytes ok)
  | "read" =>
    let (flags, names) := options ['r'] words
    some (p.readLine (flags.contains 'r') names [])
  | "exit" => done (p.withStatus (p.exitStatus words)).leave
  | "return" =>
    let p := p.withStatus (p.exitStatus words)
    done ((p.toEndOfCall p.todo).getD p.leave)
  | "break" => done ((p.withStatus 0).breakLoops ((words.head?.bind String.toNat?).getD 1))
  | "continue" => done ((p.toLoop p.todo).getD p |>.withStatus 0)
  | "shift" => done (p.shift ((words.head?.bind String.toNat?).getD 1))
  | "set" => done (p.set args)
  | "unset" =>
    done ({ p with scope := words.foldl Scope.unset p.scope }.withStatus 0)
  | "export" => done (p.declare true words)
  | "readonly" => done (p.declare false words)
  | "local" =>
    let name (word : String) : String := .ofList (word.toList.takeWhile (· != '='))
    let todo := words.foldl (fun todo word => p.keepForCaller (name word) todo) p.todo
    done ({ p with todo }.declare false words)
  | "test" => done (p.test args)
  | "[" => done (p.test args.dropLast)
  | "pwd" => done (p.put (bytesOfText ("/" ++ String.intercalate "/" p.files.here ++ "\n")) true)
  | "kill" => done (p.kill words)
  | "command" =>
    match words with
    | ["-v", name] => done (p.locate name)
    | _ => done (p.push [.call args])
  | "eval" => done (p.runHere (String.intercalate " " words))
  | "." => done (p.source words)
  | _ => none

end Process

end NotebookKernel.Shell
