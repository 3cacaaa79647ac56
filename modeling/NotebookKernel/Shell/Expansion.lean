import NotebookKernel.Shell.Arithmetic
import NotebookKernel.Shell.Fields
import NotebookKernel.Shell.Pattern
import NotebookKernel.Shell.Script

/-!
What words stand for. An unquoted parameter is split at its blanks into several
fields; everything quoted stays whole. Finding out what a word stands for can
assign variables.
-/

namespace NotebookKernel.Shell

open Text (Bytes)

/-- What parameters are looked up in. -/
structure Scope where
  bindings : List (String × Bytes)
  /-- The name that the script was started under. -/
  name : Bytes
  arguments : List Bytes
  functions : List (String × Command) := []
  /-- The variables that other programs are given. -/
  exported : List String := []
  /-- A parameter that is not set is an error. -/
  strict : Bool := false
  status : Nat := 0

/-- A stretch of an expanded word. -/
inductive Stretch where
  | text (bytes : Bytes) (quoted : Bool)
  /-- To be split into fields. -/
  | loose (bytes : Bytes)
  /-- A field each. -/
  | several (fields : List Bytes)

namespace Scope

def digits (n : Nat) : Bytes := Text.Utf8.encode (Nat.toDigits 10 n)

/-- The number that the process goes by. -/
def processId : Nat := 1000

def valueOf? (scope : Scope) (name : String) : Option Bytes :=
  (scope.bindings.find? fun entry => entry.1 == name).map (·.2)

def assign (scope : Scope) (name : String) (value : Bytes) : Scope :=
  { scope with
    bindings := (name, value) :: scope.bindings.filter fun entry => entry.1 != name }

def unset (scope : Scope) (name : String) : Scope :=
  { scope with bindings := scope.bindings.filter fun entry => entry.1 != name }

/-- A variable as it was before. -/
def putBack (scope : Scope) (before : String × Option Bytes) : Scope :=
  match before.2 with
  | some value => scope.assign before.1 value
  | none => scope.unset before.1

/-- The function of that name that was defined last. -/
def function? (scope : Scope) (name : String) : Option Command :=
  (scope.functions.find? fun entry => entry.1 == name).map (·.2)

def publish (scope : Scope) (name : String) : Scope :=
  { scope with exported := name :: scope.exported }

/-- What another program is given. -/
def forPrograms (scope : Scope) : List (String × Bytes) :=
  scope.bindings.filter fun entry => scope.exported.contains entry.1

/-- Numbers of variables, last ones first. -/
def assignNumbers (scope : Scope) (numbers : List (String × Int)) : Scope :=
  numbers.foldr (fun entry scope =>
    scope.assign entry.1 (Text.Utf8.encode (toString entry.2).toList)) scope

/-- The blanks that fields are split at. -/
def separators (scope : Scope) : Bytes :=
  (scope.valueOf? "IFS").getD [32, 9, 10]

/-- Fields are joined by blanks. -/
def joined (fields : List Bytes) : Bytes := ([32] : Bytes).intercalate fields

/-- All arguments as one text. -/
def allArguments (scope : Scope) : Bytes :=
  (scope.separators.take 1).intercalate scope.arguments

def look (scope : Scope) (name : String) : Option Bytes :=
  match name.toList with
  | ['#'] => some (digits scope.arguments.length)
  | ['?'] => some (digits scope.status)
  | ['$'] => some (digits processId)
  | ['!'] => some []
  | ['-'] => some []
  | ['@'] | ['*'] => if scope.arguments.isEmpty then none else some scope.allArguments
  | ['0'] => some scope.name
  | c :: _ =>
    if c.isDigit then scope.arguments[(c.toNat - 49)]? else scope.valueOf? name
  | [] => none

/-- The stretches of octets as they would stand between double quotes. -/
def flat (stretches : List Stretch) : Bytes :=
  stretches.flatMap fun
    | .text bytes _ => bytes
    | .loose bytes => bytes
    | .several fields => joined fields

/-- Each octet with its quoting. -/
def marked (stretches : List Stretch) : List Octet :=
  stretches.flatMap fun
    | .text bytes quoted => bytes.map (⟨·, quoted⟩)
    | .loose bytes => bytes.map (⟨·, false⟩)
    | .several fields => (joined fields).map (⟨·, true⟩)

def number? (scope : Scope) (name : String) : Option Int :=
  match scope.valueOf? name with
  | none => some 0
  | some value => Arithmetic.ofVariable (.ofList (Text.Utf8.repair value))

def dropLineFeeds (bytes : Bytes) : Bytes :=
  (bytes.reverse.dropWhile (· == 10)).reverse

mutual

/-- None for arithmetic that cannot be done, and for a parameter that must be
set and is not. -/
def piece (scope : Scope) : Piece → Option (Scope × List Stretch)
  | .bare bytes => some (scope, [.text bytes false])
  | .exact bytes => some (scope, [.text bytes true])
  | .printed bytes quoted =>
    let bytes := dropLineFeeds bytes
    some (scope, [if quoted then .text bytes true else .loose bytes])
  | .output _ _ => some (scope, [])
  | .arithmetic expression =>
    match word scope expression with
    | none => none
    | some (scope, stretches) =>
      match Arithmetic.evaluate scope.number? (.ofList (Text.Utf8.repair (flat stretches))) with
      | none => none
      | some (n, changed) =>
        some (scope.assignNumbers changed, [.text (Text.Utf8.encode (toString n).toList) true])
  | .parameter name use quoted => parameter scope name quoted (scope.look name) use

/-- A parameter with what is asked of it. -/
def parameter (scope : Scope) (name : String) (quoted : Bool) (value : Option Bytes) :
    Use → Option (Scope × List Stretch)
  | .value =>
    if name = "@" ∧ quoted then some (scope, [.several scope.arguments])
    else if scope.strict && value.isNone && name != "@" && name != "*" then none
    else some (scope, [shown (value.getD [])])
  | .length => some (scope, [.text (digits (value.getD []).length) true])
  | .orElse emptyToo spare =>
    match present value emptyToo with
    | some bytes => some (scope, [shown bytes])
    | none => word scope spare
  | .andThen emptyToo spare =>
    match present value emptyToo with
    | some _ => word scope spare
    | none => some (scope, [])
  | .orAssign emptyToo spare =>
    match present value emptyToo with
    | some bytes => some (scope, [shown bytes])
    | none =>
      match word scope spare with
      | none => none
      | some (scope, stretches) =>
        let bytes := flat stretches
        some (scope.assign name bytes, [shown bytes])
  | .orFail emptyToo _ => (present value emptyToo).map fun bytes => (scope, [shown bytes])
  | .without fromStart longest pattern =>
    match word scope pattern with
    | none => none
    | some (scope, stretches) =>
      let bytes := strip (patternOf (marked stretches)) fromStart longest (value.getD [])
      some (scope, [shown bytes])
where
  shown (bytes : Bytes) : Stretch := if quoted then .text bytes true else .loose bytes
  /-- None for what counts as unset. -/
  present (value : Option Bytes) (emptyToo : Bool) : Option Bytes :=
    value.filter fun bytes => !(emptyToo && bytes.isEmpty)

def word (scope : Scope) : List Piece → Option (Scope × List Stretch)
  | [] => some (scope, [])
  | first :: rest =>
    match piece scope first with
    | none => none
    | some (scope, stretches) =>
      (word scope rest).map fun (scope, more) => (scope, stretches ++ more)

end

/-- Another stretch of a word. -/
def splitAt (separators : Bytes) (s : Splitting) : Stretch → Splitting
  | .text bytes _ => s.append bytes
  | .loose bytes => s.loose separators (bytes.length + 1) bytes
  | .several fields => s.several fields

/-- The fields that a word stands for. -/
def fields (scope : Scope) (pieces : List Piece) : Option (Scope × List Bytes) :=
  (scope.word pieces).map fun (scope, stretches) =>
    (scope, (stretches.foldl (splitAt scope.separators) {}).fields)

def allFields (scope : Scope) : List (List Piece) → Option (Scope × List Bytes)
  | [] => some (scope, [])
  | pieces :: more =>
    match scope.fields pieces with
    | none => none
    | some (scope, first) => (allFields scope more).map fun (scope, rest) => (scope, first ++ rest)

/-- A word that is not split. -/
def single (scope : Scope) (pieces : List Piece) : Option (Scope × Bytes) :=
  (scope.word pieces).map fun (scope, stretches) => (scope, flat stretches)

def pattern (scope : Scope) (pieces : List Piece) : Option (List Symbol) :=
  (scope.word pieces).map fun (_, stretches) => patternOf (marked stretches)

end Scope

end NotebookKernel.Shell
