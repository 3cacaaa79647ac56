import NotebookKernel.Settings

/-!
The arguments of the program: options with values, and a command with options of
its own. Options for the whole program may also stand behind the command.
-/

namespace NotebookKernel.CommandLine

inductive Switch where
  | logLevel
  | settings
  | connectionFile
  | protocol
  | interpreter
  | timeout
  | save
  deriving DecidableEq, Repr

namespace Switch

def long : Switch → String
  | .logLevel => "log-level"
  | .settings => "settings"
  | .connectionFile => "connection-file"
  | .protocol => "protocol"
  | .interpreter => "interpreter"
  | .timeout => "timeout"
  | .save => "save"

def short? : Switch → Option Char
  | .connectionFile => some 'f'
  | _ => none

def takesValue : Switch → Bool
  | .save => false
  | _ => true

end Switch

/-- What the program is to do. -/
inductive Verb where
  | run
  | console
  | settings
  deriving DecidableEq, Repr

namespace Verb

def name : Verb → String
  | .run => "run"
  | .console => "console"
  | .settings => "settings"

def all : List Verb := [.run, .console, .settings]

end Verb

/-- Options that are known before any command. -/
def general : List Switch := [.logLevel, .settings]

/-- Options that are known behind a command. -/
def optionsOf (verb : Verb) : List Switch :=
  general ++ [.protocol, .interpreter, .timeout] ++
    match verb with
    | .run => [.connectionFile]
    | .console => []
    | .settings => [.save]

/-- An argument that cannot be the value of the one before it. -/
def isOption (word : String) : Bool :=
  match word.toList with
  | '-' :: _ :: _ => true
  | _ => false

structure Given where
  name : Switch
  value : String
  deriving DecidableEq, Repr

/-- Options up to the end or to a word that is none, with what follows. -/
structure Scanned where
  given : List Given
  rest : Option (String × List String)

/-- The name and the value of a word with an equals sign. -/
def splitEquals (cs : List Char) : String × Option String :=
  match cs.dropWhile (· != '=') with
  | [] => (.ofList cs, none)
  | _ :: value => (.ofList (cs.takeWhile (· != '=')), some (.ofList value))

/-- A known option with its value, if the word has one of its own. -/
def optionIn (known : List Switch) (word : String) : Option (Switch × Option String) :=
  match word.toList with
  | '-' :: '-' :: cs =>
    let (long, value) := splitEquals cs
    (known.find? fun name => name.long == long).map (·, value)
  | '-' :: c :: cs =>
    let value := match cs with
      | [] => none
      | '=' :: cs => some (String.ofList cs)
      | cs => some (String.ofList cs)
    (known.find? fun name => name.short? == some c).map (·, value)
  | _ => none

/-- None if the words cannot be understood. The fuel bounds their number. -/
def scan (known : List Switch) : Nat → List String → Option Scanned
  | 0, _ => none
  | _ + 1, [] => some ⟨[], none⟩
  | fuel + 1, word :: rest =>
    let more (given : Given) (rest : List String) : Option Scanned :=
      (scan known fuel rest).map fun scanned => { scanned with given := given :: scanned.given }
    if word = "--" then if rest.isEmpty then some ⟨[], none⟩ else none
    else if isOption word then
      match optionIn known word with
      | none => none
      | some (name, value) =>
        match name.takesValue, value, rest with
        | false, none, rest => more ⟨name, ""⟩ rest
        | false, some _, _ => none
        | true, some value, rest => more ⟨name, value⟩ rest
        | true, none, value :: rest => if isOption value then none else more ⟨name, value⟩ rest
        | true, none, [] => none
    else some ⟨[], some (word, rest)⟩

def value? (given : List Given) (name : Switch) : Option String :=
  (given.find? fun entry => entry.name == name).map (·.value)

/-- No option is given twice. -/
def isUnambiguous (given : List Given) : Bool :=
  let names := given.map (·.name)
  names.eraseDups.length == names.length

/-- A number of 64 bits without sign, or with a plus. -/
def seconds? (text : String) : Option UInt64 :=
  let digits := match text.toList with
    | '+' :: cs => cs
    | cs => cs
  if digits.isEmpty || !digits.all Char.isDigit then none
  else
    let n := digits.foldl (fun n c => n * 10 + (c.toNat - 48)) 0
    if n < Nat.pow 2 64 then some (.ofNat n) else none

def protocol? (text : String) : Option Protocol :=
  Protocol.all.find? fun protocol => protocol.name == text

/-- Values that replace those of the settings file. -/
structure Overrides where
  protocol : Option Protocol := none
  interpreter : Option String := none
  timeout : Option UInt64 := none
  deriving DecidableEq, Repr

namespace Overrides

def apply (o : Overrides) (settings : Settings) : Settings :=
  { settings with
    protocol := o.protocol.getD settings.protocol
    interpreter := o.interpreter.or settings.interpreter
    timeoutSeconds := o.timeout.or settings.timeoutSeconds }

end Overrides

inductive Action where
  | run (connectionFile : String)
  | console
  | settings (save : Bool)
  deriving DecidableEq, Repr

structure Arguments where
  settingsPath : Option String := none
  overrides : Overrides := {}
  action : Option Action := none
  deriving DecidableEq, Repr

/-- A value that was given must be one that can be read. -/
def readWith {α : Type} (read : String → Option α) (value : Option String) : Option (Option α) :=
  match value with
  | none => some none
  | some text => (read text).map some

/-- A path may not be empty. -/
def path? (text : String) : Option String :=
  if text = "" then none else some text

def overridesOf (given : List Given) : Option Overrides :=
  match readWith protocol? (value? given .protocol), readWith path? (value? given .interpreter),
    readWith seconds? (value? given .timeout) with
  | some protocol, some interpreter, some timeout => some ⟨protocol, interpreter, timeout⟩
  | _, _, _ => none

def actionOf (verb : Verb) (given : List Given) : Option Action :=
  match verb with
  | .console => some .console
  | .settings => some (.settings (value? given .save).isSome)
  | .run => ((value? given .connectionFile).bind path?).map .run

def understandCommand (before : Option String) (word : String) (rest : List String) :
    Option Arguments :=
  match Verb.all.find? fun verb => verb.name == word with
  | none => none
  | some verb =>
    match scan (optionsOf verb) (rest.length + 1) rest with
    | none => none
    | some scanned =>
      match scanned.rest, isUnambiguous scanned.given,
        readWith path? (value? scanned.given .settings), overridesOf scanned.given,
        actionOf verb scanned.given with
      | none, true, some settingsPath, some overrides, some action =>
        some ⟨settingsPath.or before, overrides, some action⟩
      | _, _, _, _, _ => none

/-- None if the words are no proper use of the program. What stands behind the
command counts more than what stands before it. -/
def understand (words : List String) : Option Arguments :=
  match scan general (words.length + 1) words with
  | none => none
  | some scanned =>
    match isUnambiguous scanned.given, readWith path? (value? scanned.given .settings) with
    | true, some settingsPath =>
      match scanned.rest with
      | none => some { settingsPath }
      | some (word, rest) => understandCommand settingsPath word rest
    | _, _ => none

end NotebookKernel.CommandLine
