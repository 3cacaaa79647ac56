import NotebookKernel.Text.Utf8

/-!
Patterns over octets: a star for any text, a question mark for one octet, and
brackets for one of several.
-/

namespace NotebookKernel.Shell

open Text (Bytes)

inductive Symbol where
  | octet (b : UInt8)
  | anyText
  | anyOctet
  | among (negated : Bool) (ranges : List (UInt8 × UInt8))
  deriving DecidableEq, Repr

/-- An octet of a word, and whether it was quoted. -/
structure Octet where
  value : UInt8
  quoted : Bool
  deriving DecidableEq, Repr

namespace Symbol

/-- The ranges up to the closing bracket, which may come first as a member. -/
def ranges : Bool → List Octet → Option (List (UInt8 × UInt8) × List Octet)
  | _, [] => none
  | first, a :: rest =>
    if a.value = 93 ∧ !a.quoted ∧ !first then some ([], rest)
    else match rest with
      | dash :: b :: rest =>
        if dash.value = 45 ∧ !dash.quoted ∧ ¬(b.value = 93 ∧ !b.quoted) then
          (ranges false rest).map fun (more, rest) => ((a.value, b.value) :: more, rest)
        else
          (ranges false (dash :: b :: rest)).map fun (more, rest) =>
            ((a.value, a.value) :: more, rest)
      | rest => (ranges false rest).map fun (more, rest) => ((a.value, a.value) :: more, rest)
termination_by _ octets => octets.length

/-- Quoted octets stand for themselves. A bracket that is not closed does, too. -/
def ofOctets (fuel : Nat) (word : List Octet) : List Symbol :=
  match fuel, word with
  | 0, _ => []
  | _, [] => []
  | fuel + 1, a :: rest =>
    if a.quoted then .octet a.value :: ofOctets fuel rest
    else if a.value = 42 then .anyText :: ofOctets fuel rest
    else if a.value = 63 then .anyOctet :: ofOctets fuel rest
    else if a.value = 91 then
      let (negated, inside) := match rest with
        | b :: inside => if b.value = 33 ∧ !b.quoted then (true, inside) else (false, rest)
        | [] => (false, rest)
      match ranges true inside with
      | some (found, rest) => .among negated found :: ofOctets fuel rest
      | none => .octet a.value :: ofOctets fuel rest
    else .octet a.value :: ofOctets fuel rest

def admits (symbol : Symbol) (b : UInt8) : Bool :=
  match symbol with
  | .octet a => a == b
  | .anyText | .anyOctet => true
  | .among negated ranges => ranges.any (fun (low, high) => low ≤ b && b ≤ high) != negated

end Symbol

/-- The whole text matches. -/
def Symbol.matchAll : List Symbol → Bytes → Bool
  | [], text => text.isEmpty
  | .anyText :: more, [] => matchAll more []
  | .anyText :: more, b :: rest => matchAll more (b :: rest) || matchAll (.anyText :: more) rest
  | _ :: _, [] => false
  | symbol :: more, b :: rest => symbol.admits b && matchAll more rest
termination_by symbols text => symbols.length + text.length

def patternOf (word : List Octet) : List Symbol :=
  Symbol.ofOctets word.length word

/-- The lengths of the parts at the start of a text that match, shortest first. -/
def matchingStarts (pattern : List Symbol) (text : Bytes) : List Nat :=
  (List.range (text.length + 1)).filter fun n => Symbol.matchAll pattern (text.take n)

/-- The same at the end of a text. -/
def matchingEnds (pattern : List Symbol) (text : Bytes) : List Nat :=
  (List.range (text.length + 1)).filter fun n =>
    Symbol.matchAll pattern (text.drop (text.length - n))

/-- A text without the part at one end that matches. -/
def strip (pattern : List Symbol) (fromStart longest : Bool) (text : Bytes) : Bytes :=
  let lengths := if fromStart then matchingStarts pattern text else matchingEnds pattern text
  let chosen := if longest then lengths.getLast? else lengths.head?
  match chosen with
  | none => text
  | some n => if fromStart then text.drop n else text.take (text.length - n)

end NotebookKernel.Shell
