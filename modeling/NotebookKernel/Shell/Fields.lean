import NotebookKernel.Text.Utf8

/-!
How a text falls into fields. Separators that are blanks count once however many
they are, and not at all at the ends; any other one always ends a field.
-/

namespace NotebookKernel.Shell

open Text (Bytes)

namespace Fields

def isBlank (separators : Bytes) (b : UInt8) : Bool :=
  separators.contains b && (b == 32 || b == 9 || b == 10)

def isMark (separators : Bytes) (b : UInt8) : Bool :=
  separators.contains b && !isBlank separators b

/-- The first field, and what is left behind its separator. -/
def cut (separators : Bytes) (text : Bytes) : Bytes × Bytes :=
  let rest := text.dropWhile fun b => !separators.contains b
  let behind := match rest.dropWhile (isBlank separators) with
    | b :: rest =>
      if isMark separators b then rest.dropWhile (isBlank separators) else b :: rest
    | [] => []
  (text.takeWhile fun b => !separators.contains b, behind)

def trimmedEnd (separators : Bytes) (text : Bytes) : Bytes :=
  (text.reverse.dropWhile (isBlank separators)).reverse

/-- So many fields; the last one is all that is left. -/
def take (separators : Bytes) : Nat → Bytes → List Bytes
  | 0, _ => []
  | 1, text => [trimmedEnd separators (text.dropWhile (isBlank separators))]
  | n + 1, text =>
    let (field, rest) := cut separators (text.dropWhile (isBlank separators))
    field :: take separators n rest

end Fields

/-- The finished fields, the last one first, and the one that is being filled, if
there is one. -/
structure Splitting where
  done : List Bytes := []
  current : Option Bytes := none
  /-- The last field was ended by a blank, which another separator may follow. -/
  afterBlank : Bool := false

namespace Splitting

def append (s : Splitting) (bytes : Bytes) : Splitting :=
  { s with current := some (s.current.getD [] ++ bytes), afterBlank := false }

def close (s : Splitting) : Splitting :=
  match s.current with
  | none => s
  | some field => { done := field :: s.done }

/-- At a separator. -/
def separate (separators : Bytes) (s : Splitting) (b : UInt8) : Splitting :=
  if Fields.isBlank separators b then
    { s.close with afterBlank := s.current.isSome || s.afterBlank }
  else if s.afterBlank then { s with afterBlank := false }
  else { done := s.current.getD [] :: s.done }

/-- Up to the next separator at a time. The fuel bounds the length. -/
def loose (separators : Bytes) : Nat → Splitting → Bytes → Splitting
  | 0, s, _ => s
  | _ + 1, s, [] => s
  | fuel + 1, s, b :: rest =>
    if separators.contains b then loose separators fuel (s.separate separators b) rest
    else
      let inField (b : UInt8) : Bool := !separators.contains b
      loose separators fuel (s.append (b :: rest.takeWhile inField)) (rest.dropWhile inField)

def several (s : Splitting) : List Bytes → Splitting
  | [] => s
  | [field] => s.append field
  | field :: fields => several (s.append field).close fields

def fields (s : Splitting) : List Bytes := s.close.done.reverse

end Splitting

end NotebookKernel.Shell
