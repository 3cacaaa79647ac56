/-!
Paths are kept as they are written; nothing is resolved or simplified.
-/

namespace NotebookKernel.Path

def isAbsolute (path : String) : Bool := path.toList.head? == some '/'

/-- A separator is added unless the left part is empty or ends in one. -/
def join (left right : String) : String :=
  match left.toList.getLast? with
  | none => right
  | some '/' => left ++ right
  | some _ => left ++ "/" ++ right

/-- The names between separators; empty ones and `.` do not count. -/
def names (path : String) : List String :=
  ((path.splitOn "/").filter fun name => name ≠ "" && name ≠ ".")

/-- What is left without the last name; none if there is no name to take away. -/
def parent? (path : String) : Option String :=
  let trimmed := (path.toList.reverse.dropWhile (· == '/')).reverse
  if trimmed.isEmpty then none
  else
    let upper := trimmed.reverse.dropWhile (· != '/')
    let kept := upper.dropWhile (· == '/')
    if kept.isEmpty && !upper.isEmpty then some "/" else some (.ofList kept.reverse)

end NotebookKernel.Path
