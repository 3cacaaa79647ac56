import NotebookKernel.Text.Blank

/-!
What a cell asks for is read off its text each time it is submitted: a
dependency, a toolchain, text to keep for later, or an evaluation.
-/

namespace NotebookKernel

open Text

inductive Directive where
  | addDependency (spec : String)
  | setToolchain (name : String)
  | accumulate
  | evaluate
  deriving DecidableEq, Repr

namespace Directive

def addMarker : List Char := [':', 'a', 'd', 'd']

def toolchainMarker : List Char := [':', 't', 'o', 'o', 'l', 'c', 'h', 'a', 'i', 'n']

/-- What follows the marker, if the text starts with it. -/
def after? : List Char → List Char → Option (List Char)
  | [], cs => some cs
  | _ :: _, [] => none
  | m :: marker, c :: cs => if m = c then after? marker cs else none

/-- The first word after the toolchain marker. A name glued to the marker is
no name. -/
def toolchainName? (cell : List Char) : Option (List Char) :=
  match after? toolchainMarker cell with
  | some (c :: rest) => if isBlank c then (words rest).head? else none
  | _ => none

/-- A statement ends in a semicolon, blanks aside. -/
def endsStatement (cell : List Char) : Bool :=
  (trimRight cell).getLast? == some ';'

/-- Dependency, toolchain, text to keep, evaluation: the first rule that
applies decides. -/
def classify (cell : String) (silent : Bool) : Directive :=
  match after? addMarker cell.toList with
  | some spec => .addDependency (.ofList (trim spec))
  | none =>
    match toolchainName? cell.toList with
    | some name => .setToolchain (.ofList name)
    | none => if silent || endsStatement cell.toList then .accumulate else .evaluate

end Directive

end NotebookKernel
