import NotebookKernel.Host.FileTree
import NotebookKernel.Shell.Arithmetic

/-!
Conditions on texts, numbers and files, with negation, conjunction, disjunction and
parentheses.
-/

namespace NotebookKernel.Shell

namespace Condition

def compare? (op : String) (a b : Int) : Option Bool :=
  match op with
  | "-eq" => some (a == b)
  | "-ne" => some (a != b)
  | "-lt" => some (decide (a < b))
  | "-le" => some (decide (a ≤ b))
  | "-gt" => some (decide (b < a))
  | "-ge" => some (decide (b ≤ a))
  | _ => none

def binaryOperators : List String :=
  ["=", "==", "!=", "<", ">", "-eq", "-ne", "-lt", "-le", "-gt", "-ge"]

def binary (a op b : String) : Option Bool :=
  match op with
  | "=" | "==" => some (a = b)
  | "!=" => some (a ≠ b)
  | "<" => some (decide (a < b))
  | ">" => some (decide (b < a))
  | op =>
    match Arithmetic.ofVariable a, Arithmetic.ofVariable b with
    | some a, some b => compare? op a b
    | _, _ => none

def unary (files : FileTree) (op a : String) : Option Bool :=
  match op with
  | "-n" => some (a ≠ "")
  | "-z" => some (a = "")
  | "-e" | "-r" | "-w" => some (files.exists? a)
  | "-f" => some (files.isFile a)
  | "-d" => some (files.isDirectory a)
  | "-t" | "-h" | "-L" | "-p" | "-b" | "-S" => some false
  | "-c" => match files.stat a with
    | .ok (.device _) => some true
    | _ => some false
  | "-x" => match files.stat a with
    | .ok .directory | .ok (.tool _) | .ok (.file _ true) => some true
    | _ => some false
  | "-s" => match files.read a with
    | .ok content => some (!content.isEmpty)
    | .error _ => some false
  | _ => none

mutual

/-- One condition, and the words behind it. -/
def single (files : FileTree) : Nat → List String → Option (Bool × List String)
  | 0, _ => none
  | fuel + 1, words =>
    match words with
    | [] => none
    | [a] => some (a ≠ "", [])
    | first :: second :: rest =>
      match binaryOperators.contains second, rest with
      | true, b :: rest => (binary first second b).map (·, rest)
      | _, _ =>
        if first = "!" then (single files fuel (second :: rest)).map fun (b, rest) => (!b, rest)
        else if first = "(" then
          match disjunction files fuel (second :: rest) with
          | some (b, ")" :: rest) => some (b, rest)
          | _ => none
        else match unary files first second with
          | some b => some (b, rest)
          | none => some (first ≠ "", second :: rest)

def conjunction (files : FileTree) : Nat → List String → Option (Bool × List String)
  | 0, _ => none
  | fuel + 1, words =>
    match single files fuel words with
    | some (a, "-a" :: rest) => (conjunction files fuel rest).map fun (b, rest) => (a && b, rest)
    | found => found

def disjunction (files : FileTree) : Nat → List String → Option (Bool × List String)
  | 0, _ => none
  | fuel + 1, words =>
    match conjunction files fuel words with
    | some (a, "-o" :: rest) => (disjunction files fuel rest).map fun (b, rest) => (a || b, rest)
    | found => found

end

/-- None if the words are no condition. Without words it does not hold. -/
def holds (files : FileTree) (words : List String) : Option Bool :=
  if words.isEmpty then some false
  else match disjunction files (3 * words.length + 3) words with
    | some (b, []) => some b
    | _ => none

end Condition

end NotebookKernel.Shell
