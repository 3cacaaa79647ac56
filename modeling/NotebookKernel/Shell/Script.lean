import NotebookKernel.Text.Utf8

/-!
Scripts of the shell. A word is a list of pieces; what it stands for is known
only when the command it belongs to is carried out.
-/

namespace NotebookKernel.Shell

open Text (Bytes)

/-- The standard channels of a command. -/
inductive Channel where
  | input
  | output
  | errors
  deriving DecidableEq, Repr

/-- How a file is opened. -/
inductive Opening where
  | reading
  | replacing
  | appending
  deriving DecidableEq, Repr

mutual

inductive Piece where
  /-- Stands for itself; in a pattern its wildcards count. -/
  | bare (bytes : Bytes)
  /-- Stands for itself. -/
  | exact (bytes : Bytes)
  | parameter (name : String) (use : Use) (quoted : Bool)
  | arithmetic (expression : List Piece)
  /-- What a command prints, without the line feeds at its end. -/
  | output (command : Command) (quoted : Bool)
  /-- What a command has printed. -/
  | printed (bytes : Bytes) (quoted : Bool)

/-- What is asked of a parameter. An empty one may count as unset. -/
inductive Use where
  | value
  | length
  | orElse (emptyToo : Bool) (word : List Piece)
  | andThen (emptyToo : Bool) (word : List Piece)
  /-- Assigns the word, too, where it is needed. -/
  | orAssign (emptyToo : Bool) (word : List Piece)
  | orFail (emptyToo : Bool) (word : List Piece)
  /-- The value without the shortest or longest part at one end that matches. -/
  | without (fromStart longest : Bool) (pattern : List Piece)

inductive Redirection where
  | file (channel : Channel) (opening : Opening) (name : List Piece)
  /-- The text itself is the input. -/
  | document (text : List Piece)
  | copy (channel other : Channel)
  | close (channel : Channel)

inductive Command where
  | nothing
  | simple (assignments : List (String × List Piece)) (words : List (List Piece))
      (redirections : List Redirection)
  | sequence (first second : Command)
  | onSuccess (first second : Command)
  | onFailure (first second : Command)
  | negated (command : Command)
  | piped (source target : Command)
  | choose (condition yes no : Command)
  /-- Runs the body as long as the condition has the given success. -/
  | loop (success : Bool) (condition body : Command)
  | each (name : String) (words : List (List Piece)) (body : Command)
  | cases (subject : List Piece) (arms : List (List (List Piece) × Command))
  | redirected (command : Command) (redirections : List Redirection)
  /-- Whatever it changes is its own. -/
  | apart (command : Command)
  /-- Nobody waits for its end. -/
  | background (command : Command)
  | define (name : String) (body : Command)

end

instance : Inhabited Piece := ⟨.bare []⟩

instance : Inhabited Command := ⟨.nothing⟩

namespace Command

mutual

/-- The first command in a word that has yet to be run for its output. -/
def pendingIn : List Piece → Option Command
  | [] => none
  | piece :: pieces =>
    match pendingInPiece piece with
    | some command => some command
    | none => pendingIn pieces

def pendingInPiece : Piece → Option Command
  | .output command _ => some command
  | .arithmetic expression => pendingIn expression
  | .parameter _ use _ => pendingInUse use
  | _ => none

def pendingInUse : Use → Option Command
  | .orElse _ word | .andThen _ word | .orAssign _ word | .orFail _ word => pendingIn word
  | .without _ _ pattern => pendingIn pattern
  | _ => none

end

mutual

/-- Puts what that command printed into its place. -/
def settleIn (bytes : Bytes) : List Piece → List Piece
  | [] => []
  | piece :: pieces =>
    match pendingInPiece piece with
    | some _ => settlePiece bytes piece :: pieces
    | none => piece :: settleIn bytes pieces

def settlePiece (bytes : Bytes) : Piece → Piece
  | .output _ quoted => .printed bytes quoted
  | .arithmetic expression => .arithmetic (settleIn bytes expression)
  | .parameter name use quoted => .parameter name (settleUse bytes use) quoted
  | piece => piece

def settleUse (bytes : Bytes) : Use → Use
  | .orElse emptyToo word => .orElse emptyToo (settleIn bytes word)
  | .andThen emptyToo word => .andThen emptyToo (settleIn bytes word)
  | .orAssign emptyToo word => .orAssign emptyToo (settleIn bytes word)
  | .orFail emptyToo word => .orFail emptyToo (settleIn bytes word)
  | .without fromStart longest pattern => .without fromStart longest (settleIn bytes pattern)
  | use => use

end

/-- The same for the first of several words that has one. -/
def settleFirst (bytes : Bytes) : List (List Piece) → List (List Piece)
  | [] => []
  | word :: words =>
    if (pendingIn word).isSome then settleIn bytes word :: words
    else word :: settleFirst bytes words

def pendingInRedirection : Redirection → Option Command
  | .file _ _ word | .document word => pendingIn word
  | _ => none

def settleRedirection (bytes : Bytes) : Redirection → Redirection
  | .file channel opening word => .file channel opening (settleIn bytes word)
  | .document word => .document (settleIn bytes word)
  | entry => entry

def settleRedirections (bytes : Bytes) : List Redirection → List Redirection
  | [] => []
  | entry :: entries =>
    if (pendingInRedirection entry).isSome then settleRedirection bytes entry :: entries
    else entry :: settleRedirections bytes entries

/-- The command that must be run before this one can be. -/
def pending : Command → Option Command
  | .simple assignments words redirections =>
    (words.findSome? pendingIn).or
      ((assignments.findSome? fun entry => pendingIn entry.2).or
        (redirections.findSome? pendingInRedirection))
  | .each _ words _ => words.findSome? pendingIn
  | .cases subject _ => pendingIn subject
  | .redirected _ redirections => redirections.findSome? pendingInRedirection
  | _ => none

def settle (bytes : Bytes) : Command → Command
  | .simple assignments words redirections =>
    if (words.findSome? pendingIn).isSome then
      .simple assignments (settleFirst bytes words) redirections
    else if (assignments.findSome? fun entry => pendingIn entry.2).isSome then
      .simple
        ((assignments.map (·.1)).zip (settleFirst bytes (assignments.map (·.2))))
        words redirections
    else .simple assignments words (settleRedirections bytes redirections)
  | .each name words body => .each name (settleFirst bytes words) body
  | .cases subject arms => .cases (settleIn bytes subject) arms
  | .redirected command redirections =>
    .redirected command (settleRedirections bytes redirections)
  | command => command

end Command

end NotebookKernel.Shell
