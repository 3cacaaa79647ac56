import NotebookKernel.Shell.Filter
import NotebookKernel.Shell.Format
import NotebookKernel.Shell.Process
import NotebookKernel.Shell.Reader
import NotebookKernel.Text.Blank

/-!
The programs of the machine. One that waits for input does so as a task of its own.
-/

namespace NotebookKernel.Shell

open Text (Bytes)

namespace Process

/-- Input goes to the output as it comes. -/
def copyInput (p : Process) : Process × Effect :=
  match p.streams.input with
  | .closed => (p.withStatus 1, .goesOn)
  | .octets left =>
    ({ p with streams := { p.streams with input := .octets [] } }.put left true, .goesOn)
  | .pipe =>
    if p.unread.isEmpty then (p.push [.copyInput], .waits)
    else match p.write p.streams.output p.unread with
      | none => (p.withStatus 1, .goesOn)
      | some q => ({ q with unread := [] }.push [.copyInput], .goesOn)

/-- A length of time in nanoseconds. -/
def nanosOf (word : String) : Option Nat :=
  let cs := word.toList
  let whole := cs.takeWhile Char.isDigit
  let rest := cs.dropWhile Char.isDigit
  let (fraction, unit) : List Char × List Char := match rest with
    | '.' :: rest => (rest.takeWhile Char.isDigit, rest.dropWhile Char.isDigit)
    | rest => ([], rest)
  let seconds : Option Nat := match unit with
    | [] | ['s'] => some 1
    | ['m'] => some 60
    | ['h'] => some 3600
    | ['d'] => some 86400
    | _ => none
  if whole.isEmpty && fraction.isEmpty then none
  else
    let value (digits : List Char) : Nat := digits.foldl (fun n c => n * 10 + (c.toNat - 48)) 0
    let parts := value whole * 1000000000 + value ((fraction ++ List.replicate 9 '0').take 9)
    seconds.map (parts * ·)

def sleep (p : Process) (args : List String) : Process × Effect :=
  match args.mapM nanosOf with
  | none | some [] => (p.withStatus 1, .goesOn)
  | some spans => (p.withStatus 0, .sleeps (spans.foldl (· + ·) 0))

/-- Several arguments stand apart by blanks. -/
def echoed (args : List Bytes) (lineFeed : Bool) : Bytes :=
  Scope.joined args ++ (if lineFeed then [10] else [])

/-- Prints its arguments; escapes count only if asked for. -/
def echoProgram (lineFeed escapes : Bool) : List Bytes → Bytes
  | [] => echoed [] lineFeed
  | first :: rest =>
    match first with
    | 45 :: letters =>
      let known (b : UInt8) : Bool := b == 110 || b == 101 || b == 69
      if !letters.isEmpty && letters.all known then
        echoProgram (lineFeed && !letters.contains 110)
          ((letters.filter (· != 110)).getLast?.elim escapes (· == 101)) rest
      else echoText (first :: rest)
    | _ => echoText (first :: rest)
where
  echoText (args : List Bytes) : Bytes :=
    if escapes then
      let (bytes, goesOn) := Format.unescape (Scope.joined args)
      bytes ++ (if lineFeed && goesOn then [10] else [])
    else echoed args lineFeed

/-- Opens the files to be shown, or the input if none is named. -/
def showFiles (args : List String) : List Task :=
  match args.filter fun arg => arg = "-" || arg.toList.head? ≠ some '-' with
  | [] => [.copyInput]
  | names => names.map fun name => if name = "-" then .copyInput else .showFile name

def showFile (p : Process) (path : String) : Process :=
  match p.files.read path with
  | .ok content => p.put content true
  | .error e =>
    let line := s!"cat: {path}: {e.message}\n"
    ((p.write p.streams.errors (bytesOfText line)).getD p).withStatus 1

/-- Whether a program has read all that it needs. -/
def hasEnough (tool : Tool) (args : List String) (bytes : Bytes) : Bool :=
  match tool with
  | .head => Filter.isEnough (Filter.amountOf {} args).1 bytes
  | _ => false

/-- What a program makes of what it has read. -/
def filtered (tool : Tool) (args : List String) (bytes : Bytes) : Bytes :=
  match tool with
  | .head => Filter.first (Filter.amountOf {} args).1 bytes
  | .tail => Filter.last (Filter.amountOf {} args).1 bytes
  | .count => Filter.counts ((args.headD "").toList.drop 1) bytes
  | .exchange => Filter.exchange args bytes
  | _ => bytes

def gather (p : Process) (tool : Tool) (args : List String) (soFar : Bytes) :
    Process × Effect :=
  let finish (p : Process) (bytes : Bytes) : Process × Effect :=
    (p.put (filtered tool args bytes) true, .goesOn)
  match p.streams.input with
  | .closed => finish p soFar
  | .octets left =>
    finish { p with streams := { p.streams with input := .octets [] } } (soFar ++ left)
  | .pipe =>
    let read := soFar ++ p.unread
    let p := { p with unread := [] }
    if hasEnough tool args read then finish p read
    else (p.push [.gather tool args read], .waits)

/-- A program that reads a file, or else its input. -/
def readFrom (p : Process) (tool : Tool) (args names : List String) : Process × Effect :=
  let read (path : String) : Except IoError Bytes :=
    match p.files.stat path with
    | .ok (.device true) => .ok (List.replicate (Filter.amountOf {} args).1.count 0)
    | _ => p.files.read path
  match names.head?.map read with
  | none => (p.push [.gather tool args []], .goesOn)
  | some (.ok content) => (p.put (filtered tool args content) true, .goesOn)
  | some (.error _) => (p.withStatus 1, .goesOn)

def showVariable (p : Process) (names : List String) : Process :=
  match names.findSome? p.scope.valueOf? with
  | some value => p.put (value ++ [10]) true
  | none => p.withStatus 1

/-- Runs a script with a scope of its own. If nothing is left to do behind it,
there is nothing to go back to. -/
def runScript (p : Process) (script : String) (name : Bytes) (arguments : List Bytes) : Process :=
  let bindings := p.scope.forPrograms
  let scope : Scope := { bindings, exported := bindings.map (·.1), name, arguments }
  let inner := { p with scope, traps := [], stopsOnFailure := false }
  let back : List Task := if p.todo.isEmpty then [] else [.rejoin p.outer]
  match read? script with
  | some command => inner.push (.run command :: back)
  | none => (inner.complain "syntax error" 2).push back

/-- The shell as a program: a script as an argument, in a file, or as its input. -/
def shellProgram (p : Process) (name : Bytes) (args : List Bytes) : Process :=
  match args with
  | first :: script :: rest =>
    if first = bytesOfText "-c" then
      p.runScript (textOf script) (rest.headD name) (rest.drop 1)
    else fromFile first (script :: rest)
  | [file] => fromFile file []
  | [] => p.push [.run (.redirected (.simple [] [[.exact (bytesOfText "cat")]] [])
      [.file .output .replacing [.exact (bytesOfText "/dev/null")]])]
where
  fromFile (file : Bytes) (arguments : List Bytes) : Process :=
    match p.files.read (textOf file) with
    | .ok content => p.runScript (textOf content) file arguments
    | .error _ => p.complain s!"cannot open {textOf file}: No such file" 2

/-- A program of the machine. -/
def runTool (p : Process) (tool : Tool) (name : Bytes) (args : List Bytes) : Process × Effect :=
  match tool with
  | .shell => (p.shellProgram name args, .goesOn)
  | .echo => (p.put (echoProgram true false args) true, .goesOn)
  | .cat => (p.push (showFiles (args.map textOf)), .goesOn)
  | .sleep => p.sleep (args.map textOf)
  | .succeed => (p.withStatus 0, .goesOn)
  | .giveUp => (p.withStatus 1, .goesOn)
  | .head | .tail =>
    let words := args.map textOf
    p.readFrom tool words (Filter.amountOf {} words).2
  | .count | .exchange => p.readFrom tool (args.map textOf) []
  | .sequence => (p.put (Filter.sequence (args.map textOf)) true, .goesOn)
  | .showVariable => (p.showVariable (args.map textOf), .goesOn)

/-- What a program's file is run as: a script is run by the shell. -/
def programOf (files : FileTree) (path : String) (args : List Bytes) :
    Except IoError (Tool × List Bytes) :=
  match files.stat path with
  | .error e => .error e
  | .ok .directory | .ok (.device _) | .ok (.file _ false) => .error .permissionDenied
  | .ok (.tool tool) => .ok (tool, args)
  | .ok (.file content true) =>
    let first := textOf (content.takeWhile (· != 10))
    match first.toList with
    | '#' :: '!' :: rest =>
      let words := (Text.words rest).map String.ofList
      match words.getLast?.map fun word => (Path.names word).getLast? with
      | some (some "sh") | some (some "dash") | some (some "bash") =>
        .ok (.shell, bytesOfText path :: args)
      | some (some "cat") => .ok (.cat, bytesOfText path :: args)
      | _ => .error .notFound
    | _ => .error .badExecutable

/-- Where a program without a directory is looked for. -/
def searchPath : List String := ["/usr/bin", "/bin"]

/-- The first place that has the program decides. -/
def findProgram (files : FileTree) (name : String) (args : List Bytes) :
    Except IoError (Tool × List Bytes) :=
  if name.toList.contains '/' then programOf files name args
  else if name = "" then .error .notFound
  else
    match searchPath.find? fun place => files.exists? (Path.join place name) with
    | some place => programOf files (Path.join place name) args
    | none => .error .notFound

end Process

end NotebookKernel.Shell
