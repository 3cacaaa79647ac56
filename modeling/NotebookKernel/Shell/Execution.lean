import NotebookKernel.Shell.Builtin

/-!
How a script is carried out. One step does one thing, so a process can be stopped
at any point: it may wait for input, or sleep.
-/

namespace NotebookKernel.Shell

open Text (Bytes)

namespace Process

/-- Later values see earlier ones. -/
def assignAll (scope : Scope) : List (String × List Piece) → Option Scope
  | [] => some scope
  | (name, pieces) :: rest =>
    match scope.single pieces with
    | none => none
    | some (scope, value) => assignAll (scope.assign name value) rest

def call (p : Process) : List Bytes → Process × Effect
  | [] => (p, .goesOn)
  | first :: args =>
    let name := textOf first
    match p.scope.function? name, p.builtin name args with
    | some body, _ =>
      ({ p with scope := { p.scope with arguments := args } }.push
        [.run body, .endCall p.scope.arguments []], .goesOn)
    | none, some outcome => outcome
    | none, none =>
      match findProgram p.files name args with
      | .ok (tool, args) => p.runTool tool first args
      | .error e =>
        if e = .notFound then (p.complain s!"{name}: not found" 127, .goesOn)
        else (p.complain s!"{name}: {e.message}" 126, .goesOn)

/-- Runs a command for its output, which another one takes. -/
def capture (p : Process) (source : Command) (taker : Task) : Process :=
  { p with streams := { p.streams with output := .held }, held := [] }.push [.run source, taker]

def hasPrinted (assignments : List (String × List Piece)) : Bool :=
  assignments.any fun entry => entry.2.any fun
    | .printed _ _ => true
    | _ => false

/-- The task that ends the script on a failure, if there is one. -/
def verifying (p : Process) : List Task :=
  if p.stopsOnFailure then [.verify] else []

/-- A word cannot be expanded. -/
def failExpansion (p : Process) : Process :=
  (p.complain expansionFailure 2).leave

/-- Words, assignments and redirections are known. -/
def simple (p : Process) (assignments : List (String × List Piece)) (words : List (List Piece))
    (redirections : List Redirection) : Process :=
  match p.scope.allFields words with
  | none => p.failExpansion
  | some (scope, fields) =>
    let p := { p with scope }
    match assignAll scope assignments, p.redirectAll redirections with
    | none, _ => p.failExpansion
    | some _, .error message => (p.complain message 2).push p.verifying
    | some scope, .ok q =>
      let names := assignments.map (·.1)
      let back : List Task :=
        (if names.isEmpty then []
          else [.putBack (names.map fun name => (name, p.scope.valueOf? name))]) ++
          (if redirections.isEmpty then [] else [.restore p.streams])
      match fields with
      | [] =>
        let scope := if hasPrinted assignments then scope else { scope with status := 0 }
        { q with streams := p.streams, scope }.push p.verifying
      | first :: args =>
        let q := { q with scope := names.foldl Scope.publish scope }
        if first = bytesOfText "exec" then
          if args.isEmpty then q.withStatus 0
          else { q with traps := [], todo := [.call args] }
        else q.push (.call (first :: args) :: back ++ p.verifying)

def matchesAny (scope : Scope) (subject : Bytes) : List (List Piece) → Bool
  | [] => false
  | word :: words =>
    match scope.pattern word with
    | some pattern => Symbol.matchAll pattern subject || matchesAny scope subject words
    | none => matchesAny scope subject words

/-- The first arm with a pattern that matches. -/
def chosen (scope : Scope) (subject : Bytes) :
    List (List (List Piece) × Command) → Option Command
  | [] => none
  | (words, command) :: arms =>
    if matchesAny scope subject words then some command else chosen scope subject arms

def run (p : Process) (command : Command) : Process :=
  match command.pending with
  | some source => p.capture source (.insert command p.outer)
  | none =>
    match command with
    | .nothing => p
    | .simple assignments words redirections => p.simple assignments words redirections
    | .sequence first second => p.push [.run first, .run second]
    | .onSuccess first second => p.push [.run first, .follow true second]
    | .onFailure first second => p.push [.run first, .follow false second]
    | .negated command => p.push [.run command, .invert]
    | .piped source target => p.capture source (.feed target p.outer)
    | .choose condition yes no => p.push [.run condition, .decide yes no]
    | .loop success condition body => p.push [.loop success condition body]
    | .each name words body =>
      match p.scope.allFields words with
      | some (scope, values) =>
        ({ p with scope }.withStatus 0).push [.each name values body]
      | none => p.failExpansion
    | .cases subject arms =>
      match p.scope.single subject with
      | none => p.failExpansion
      | some (scope, bytes) =>
        let p := { p with scope }
        match chosen scope bytes arms with
        | some command => (p.withStatus 0).push [.run command]
        | none => p.withStatus 0
    | .redirected command redirections =>
      match p.redirectAll redirections with
      | .ok q => q.push [.run command, .restore p.streams]
      | .error message => (p.complain message 2).push p.verifying
    | .apart command => p.push (.run command :: .rejoin p.outer :: p.verifying)
    | .background command =>
      let task := Task.detached command p.outer
      { p with later := p.later ++ [task] }.withStatus 0
    | .define name body =>
      { p with scope := { p.scope with
          functions := (name, body) :: p.scope.functions, status := 0 } }

/-- At the end of the script; what runs in the background goes on. -/
def finish (p : Process) : Process × Effect :=
  match p.trapFor "EXIT", p.later with
  | some (some command), _ => ({ p with traps := [], todo := [.run command] }, .goesOn)
  | _, [] => (p, .ended)
  | _, later =>
    ({ p with streams := ⟨.closed, .closed, .closed⟩, todo := later, later := [] }, .goesOn)

/-- Does the first thing that is left to do. -/
def step (p : Process) : Process × Effect :=
  match p.todo with
  | [] => p.finish
  | task :: rest =>
    let p := { p with todo := rest }
    match task with
    | .run command => (p.run command, .goesOn)
    | .call words => p.call words
    | .follow success command =>
      (if p.succeeds == success then p.push [.run command] else p, .goesOn)
    | .decide yes no =>
      match p.succeeds, no with
      | true, _ => (p.push [.run yes], .goesOn)
      | false, .nothing => (p.withStatus 0, .goesOn)
      | false, no => (p.push [.run no], .goesOn)
    | .invert => (p.withResult (!p.succeeds), .goesOn)
    | .verify => (if p.succeeds || p.isAsked then p else p.leave, .goesOn)
    | .loop success condition body =>
      (p.push [.run condition, .check success condition body], .goesOn)
    | .check success condition body =>
      (if p.succeeds == success then p.push [.run body, .loop success condition body]
        else p.withStatus 0, .goesOn)
    | .each name values body =>
      match values with
      | [] => (p, .goesOn)
      | value :: values =>
        ({ p with scope := p.scope.assign name value }.push
          [.run body, .each name values body], .goesOn)
    | .restore streams => ({ p with streams }, .goesOn)
    | .putBack saved =>
      ({ p with scope := saved.foldl Scope.putBack p.scope }, .goesOn)
    | .endCall arguments saved =>
      let scope := saved.foldl Scope.putBack p.scope
      ({ p with scope := { scope with arguments } }, .goesOn)
    | .rejoin outer => (p.resumeOuter outer, .goesOn)
    | .detached command outer =>
      let inner := p.resumeOuter outer
      ({ inner with streams := { inner.streams with input := .octets [] } }.push
        [.run command, .rejoin p.outer], .goesOn)
    | .insert command outer =>
      ((p.resumeOuter outer).push [.run (command.settle p.held)], .goesOn)
    | .feed target outer =>
      let bytes := p.held
      let p := p.resumeOuter outer
      ({ p with streams := { p.streams with input := .octets bytes } }.push
        [.run target, .rejoin outer], .goesOn)
    | .readLine literally names soFar => p.readLine literally names soFar
    | .copyInput => p.copyInput
    | .gather tool args soFar => p.gather tool args soFar
    | .showFile path => (p.showFile path, .goesOn)

/-- Steps until the process waits, sleeps or ends. One that does not stop in
time is as good as one that waits. -/
def advance : Nat → Process → Process × Effect
  | 0, p => (p, .waits)
  | fuel + 1, p =>
    match p.step with
    | (p, .goesOn) => advance fuel p
    | stopped => stopped

end Process

end NotebookKernel.Shell
