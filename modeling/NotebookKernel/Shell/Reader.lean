import NotebookKernel.Shell.Script

/-!
Reading a script. Words end at blanks, line feeds and operators; quoting takes
the meaning away from these and from everything else inside it.
-/

namespace NotebookKernel.Shell

open Text (Bytes)

abbrev Reading (α : Type) := Option (α × List Char)

def isOperator (c : Char) : Bool :=
  c == ';' || c == '&' || c == '|' || c == '<' || c == '>' || c == '(' || c == ')'

def endsWord (c : Char) : Bool :=
  c == ' ' || c == '\t' || c == '\n' || isOperator c

/-- Means no more than itself, outside quotes. -/
def isPlain (c : Char) : Bool :=
  !endsWord c && c != '\\' && c != '\'' && c != '"' && c != '$' && c != '\x60' && c != '\x7d'

/-- Means no more than itself, between double quotes. -/
def isPlainInQuotes (c : Char) : Bool :=
  c != '\\' && c != '"' && c != '$' && c != '\x60' && c != '\x7d' && c != '(' && c != ')'

def startsName (c : Char) : Bool := c.isAlpha || c == '_'

def inName (c : Char) : Bool := startsName c || c.isDigit

def isSpecial (c : Char) : Bool :=
  c == '#' || c == '?' || c == '$' || c == '!' || c == '@' || c == '*' || c == '-' || c.isDigit

def bytesOf (cs : List Char) : Bytes := Text.Utf8.encode cs

/-- Passes over blanks, continued lines and comments, but no line feed. -/
def blanks : List Char → List Char
  | ' ' :: rest => blanks rest
  | '\t' :: rest => blanks rest
  | '\\' :: '\n' :: rest => blanks rest
  | '#' :: rest => rest.dropWhile (· != '\n')
  | cs => cs

/-- Passes over line feeds too. The fuel bounds the number of lines. -/
def lines : Nat → List Char → List Char
  | 0, cs => cs
  | fuel + 1, cs =>
    match blanks cs with
    | '\n' :: rest => lines fuel rest
    | rest => rest

/-- The name of a parameter in braces or without. -/
def parameterName : List Char → Reading String
  | [] => none
  | c :: rest =>
    if startsName c then
      some (.ofList (c :: rest.takeWhile inName), rest.dropWhile inName)
    else if isSpecial c then some (.ofList [c], rest)
    else none

/-- The unquoted characters that a word starts with. -/
def plainStart (cs : List Char) : List Char := cs.takeWhile fun c => isPlain c || c == '\x7d'

/-- The word that comes next, if it is one of the reserved ones. -/
def reserved (words : List String) (cs : List Char) : Option (String × List Char) :=
  let start := plainStart cs
  let rest := cs.drop start.length
  let ends := match rest with
    | [] => true
    | c :: _ => endsWord c
  if ends && words.contains (.ofList start) then some (.ofList start, rest) else none

/-- The words that end a list of commands. -/
def closingWords : List String :=
  ["then", "elif", "else", "fi", "do", "done", "esac", "\x7d"]

def atEnd (cs : List Char) : Bool :=
  match cs with
  | [] => true
  | ')' :: _ => true
  | ';' :: ';' :: _ => true
  | cs => (reserved closingWords cs).isSome

/-- What a number or nothing before a redirection means. -/
def channelOf (digits : List Char) (fallback : Channel) : Option Channel :=
  match digits with
  | [] => some fallback
  | ['0'] => some .input
  | ['1'] => some .output
  | ['2'] => some .errors
  | _ => none

/-- Cuts at a quote that is not escaped. -/
def untilBackquote : List Char → Reading (List Char)
  | [] => none
  | '\x60' :: rest => some ([], rest)
  | '\\' :: '\x60' :: rest => (untilBackquote rest).map fun (cs, rest) => ('\x60' :: cs, rest)
  | '\\' :: '\\' :: rest => (untilBackquote rest).map fun (cs, rest) => ('\\' :: cs, rest)
  | '\\' :: '$' :: rest => (untilBackquote rest).map fun (cs, rest) => ('$' :: cs, rest)
  | c :: rest => (untilBackquote rest).map fun (cs, rest) => (c :: cs, rest)

/-- The name before an equals sign, and what is behind it. -/
def assigned (cs : List Char) : Reading String :=
  match cs with
  | c :: _ =>
    if startsName c then
      match cs.dropWhile inName with
      | '=' :: rest => some (.ofList (cs.takeWhile inName), rest)
      | _ => none
    else none
  | [] => none

/-- The name in front of two parentheses, which is that of a function. -/
def functionName (cs : List Char) : Reading String :=
  let name := cs.takeWhile inName
  match name.head?.any startsName, blanks (cs.drop name.length) with
  | true, '(' :: rest =>
    match blanks rest with
    | ')' :: rest => some (.ofList name, rest)
    | _ => none
  | _, _ => none

/-- Where the pieces of a word end, other than at the end of the script. -/
inductive Enclosure where
  | none
  | quotes
  /-- A text of its own, in which only a few characters mean more than themselves. -/
  | document
  | braces
  | bracesInQuotes
  /-- So many parentheses are open. -/
  | arithmetic (depth : Nat)
  deriving DecidableEq

def Enclosure.isQuoted : Enclosure → Bool
  | .quotes | .document | .bracesInQuotes | .arithmetic _ => true
  | _ => false

/-- Whether a backslash takes the meaning away from a character between quotes. -/
def Enclosure.escapes (inside : Enclosure) (c : Char) : Bool :=
  c == '$' || c == '\x60' || c == '\\' ||
    (inside != .document && (c == '"' || c == '\x7d'))

/-- The lines up to one that holds a word alone, and what follows it. Blanks at
their starts may be left out. -/
def documentLines (tabsToo : Bool) (word : List Char) :
    Nat → List Char → List Char × List Char
  | 0, cs => ([], cs)
  | fuel + 1, cs =>
    match cs with
    | [] => ([], [])
    | cs =>
      let cs := if tabsToo then cs.dropWhile (· == '\t') else cs
      let line := cs.takeWhile (· != '\n')
      let rest := (cs.dropWhile (· != '\n')).drop 1
      if line = word then ([], rest)
      else
        let (more, rest) := documentLines tabsToo word fuel rest
        (line ++ '\n' :: more, rest)

/-- The text that stands behind the line, and the script without it. -/
def document (tabsToo : Bool) (word cs : List Char) : List Char × List Char :=
  let line := cs.takeWhile (· != '\n')
  match cs.drop line.length with
  | [] => ([], line)
  | _ :: rest =>
    let (text, rest) := documentLines tabsToo word (rest.length + 1) rest
    (text, line ++ '\n' :: rest)

/-- The word that ends a document, whether it was quoted, and what follows it. -/
def documentWord (cs : List Char) : List Char × Bool × List Char :=
  let word := cs.takeWhile fun c => !endsWord c
  let isQuote (c : Char) : Bool := c == '\'' || c == '"' || c == '\\'
  (word.filter fun c => !isQuote c, word.any isQuote, cs.drop word.length)

mutual

/-- The pieces up to the end of the enclosure, which is passed over. -/
def pieces : Nat → Enclosure → List Char → Reading (List Piece)
  | 0, _, _ => none
  | fuel + 1, inside, cs =>
    let more (piece : Piece) (rest : List Char) : Reading (List Piece) :=
      (pieces fuel inside rest).map fun (word, rest) => (piece :: word, rest)
    match cs with
    | [] => if inside = .none ∨ inside = .document then some ([], []) else none
    | '\\' :: '\n' :: rest => pieces fuel inside rest
    | '\\' :: c :: rest =>
      if inside.isQuoted && !inside.escapes c then
        more (.exact (bytesOf ['\\', c])) rest
      else more (.exact (bytesOf [c])) rest
    | '$' :: rest =>
      match dollar fuel inside.isQuoted rest with
      | none => none
      | some (piece, rest) => more piece rest
    | '\x60' :: rest =>
      match untilBackquote rest with
      | none => none
      | some (script, rest) =>
        match list fuel script with
        | some (command, []) => more (.output command inside.isQuoted) rest
        | _ => none
    | c :: rest =>
      match inside with
      | .none =>
        if endsWord c then some ([], c :: rest)
        else if c = '\'' then literal fuel inside rest
        else if c = '"' then quoted fuel inside rest
        else if c = '\x7d' ∨ c = '\\' then more (.bare (bytesOf [c])) rest
        else more (.bare (bytesOf ((c :: rest).takeWhile isPlain))) ((c :: rest).dropWhile isPlain)
      | .braces =>
        if c = '\x7d' then some ([], rest)
        else if c = '\'' then literal fuel inside rest
        else if c = '"' then quoted fuel inside rest
        else more (.bare (bytesOf [c])) rest
      | .bracesInQuotes =>
        if c = '\x7d' then some ([], rest)
        else if c = '"' then quoted fuel inside rest
        else more (.bare (bytesOf [c])) rest
      | .document => more (.exact (bytesOf [c])) rest
      | .quotes =>
        if c = '"' then some ([], rest)
        else if isPlainInQuotes c then
          more (.exact (bytesOf ((c :: rest).takeWhile isPlainInQuotes)))
            ((c :: rest).dropWhile isPlainInQuotes)
        else more (.exact (bytesOf [c])) rest
      | .arithmetic depth =>
        let deeper (depth : Nat) : Reading (List Piece) :=
          (pieces fuel (.arithmetic depth) rest).map fun (word, rest) =>
            (.exact (bytesOf [c]) :: word, rest)
        if c = '(' then deeper (depth + 1)
        else if c = ')' then
          match depth, rest with
          | depth + 1, _ => deeper depth
          | 0, ')' :: rest => some ([], rest)
          | 0, _ => none
        else if c = '"' then pieces fuel inside rest
        else more (.exact (bytesOf [c])) rest

/-- Behind a single quote. -/
def literal : Nat → Enclosure → List Char → Reading (List Piece)
  | 0, _, _ => none
  | fuel + 1, inside, cs =>
    match cs.dropWhile (· != '\'') with
    | [] => none
    | _ :: rest =>
      (pieces fuel inside rest).map fun (word, rest) =>
        (.exact (bytesOf (cs.takeWhile (· != '\''))) :: word, rest)

/-- Behind a double quote. -/
def quoted : Nat → Enclosure → List Char → Reading (List Piece)
  | 0, _, _ => none
  | fuel + 1, inside, cs =>
    match pieces fuel .quotes cs with
    | none => none
    | some (word, rest) =>
      let word := match word with
        | [] => [.exact []]
        | word => word
      (pieces fuel inside rest).map fun (more, rest) => (word ++ more, rest)

/-- Behind a dollar sign. -/
def dollar : Nat → Bool → List Char → Reading Piece
  | 0, _, _ => none
  | fuel + 1, isQuoted, cs =>
    match cs with
    | '(' :: '(' :: rest =>
      (pieces fuel (.arithmetic 0) rest).map fun (word, rest) => (.arithmetic word, rest)
    | '(' :: rest =>
      match list fuel rest with
      | some (command, ')' :: rest) => some (.output command isQuoted, rest)
      | _ => none
    | '{' :: '#' :: '\x7d' :: rest => some (.parameter "#" .value isQuoted, rest)
    | '{' :: '#' :: rest =>
      match parameterName rest with
      | some (name, '\x7d' :: rest) => some (.parameter name .length isQuoted, rest)
      | _ => none
    | '{' :: rest =>
      match parameterName rest with
      | none => none
      | some (name, rest) =>
        let word (use : List Piece → Use) (inside : Enclosure) (rest : List Char) :
            Reading Piece :=
          (pieces fuel inside rest).map fun (word, rest) =>
            (.parameter name (use word) isQuoted, rest)
        let spare : Enclosure := if isQuoted then .bracesInQuotes else .braces
        match rest with
        | '\x7d' :: rest => some (.parameter name .value isQuoted, rest)
        | ':' :: '-' :: rest => word (.orElse true) spare rest
        | '-' :: rest => word (.orElse false) spare rest
        | ':' :: '=' :: rest => word (.orAssign true) spare rest
        | '=' :: rest => word (.orAssign false) spare rest
        | ':' :: '?' :: rest => word (.orFail true) spare rest
        | '?' :: rest => word (.orFail false) spare rest
        | ':' :: '+' :: rest => word (.andThen true) spare rest
        | '+' :: rest => word (.andThen false) spare rest
        | '#' :: '#' :: rest => word (.without true true) .braces rest
        | '#' :: rest => word (.without true false) .braces rest
        | '%' :: '%' :: rest => word (.without false true) .braces rest
        | '%' :: rest => word (.without false false) .braces rest
        | _ => none
    | cs =>
      match parameterName cs with
      | some (name, rest) => some (.parameter name .value isQuoted, rest)
      | none => some (.exact (bytesOf ['$']), cs)

/-- Redirections, as many as there are. -/
def redirections : Nat → List Char → Reading (List Redirection)
  | 0, _ => none
  | fuel + 1, cs =>
    match redirection fuel (blanks cs) with
    | some (some entry, rest) =>
      (redirections fuel rest).map fun (entries, rest) => (entry :: entries, rest)
    | some (none, rest) => some ([], rest)
    | none => none

/-- One redirection, if there is one. -/
def redirection : Nat → List Char → Reading (Option Redirection)
  | 0, _ => none
  | fuel + 1, cs =>
    let digits := cs.takeWhile Char.isDigit
    let file (channel : Option Channel) (opening : Opening) (rest : List Char) :
        Reading (Option Redirection) :=
      match channel, pieces fuel .none (blanks rest) with
      | some channel, some (word, rest) =>
        if word.isEmpty then none else some (some (.file channel opening word), rest)
      | _, _ => none
    let join (channel : Option Channel) (rest : List Char) : Reading (Option Redirection) :=
      match channel, blanks rest with
      | some channel, '-' :: rest => some (some (.close channel), rest)
      | some channel, rest =>
        match channelOf (rest.takeWhile Char.isDigit) .input with
        | some other =>
          if rest.head?.any Char.isDigit then
            some (some (.copy channel other), rest.dropWhile Char.isDigit)
          else none
        | none => none
      | none, _ => none
    match cs.dropWhile Char.isDigit with
    | '<' :: '<' :: rest =>
      let (tabsToo, rest) := match rest with
        | '-' :: rest => (true, rest)
        | rest => (false, rest)
      let (word, isQuoted, rest) := documentWord (blanks rest)
      let (text, rest) := document tabsToo word rest
      if isQuoted then some (some (.document [.exact (bytesOf text)]), rest)
      else
        match pieces fuel .document text with
        | some (text, _) => some (some (.document text), rest)
        | none => none
    | '<' :: '&' :: rest => join (channelOf digits .input) rest
    | '<' :: rest => file (channelOf digits .input) .reading rest
    | '>' :: '&' :: rest => join (channelOf digits .output) rest
    | '>' :: '>' :: rest => file (channelOf digits .output) .appending rest
    | '>' :: '|' :: rest => file (channelOf digits .output) .replacing rest
    | '>' :: rest => file (channelOf digits .output) .replacing rest
    | _ => some (none, cs)

/-- The parts of a simple command; assignments stand before all words. -/
def simple : Nat → List (String × List Piece) → List (List Piece) → List Redirection →
    List Char → Reading Command
  | 0, _, _, _, _ => none
  | fuel + 1, assignments, words, entries, cs =>
    match redirection fuel (blanks cs) with
    | none => none
    | some (some entry, rest) => simple fuel assignments words (entries ++ [entry]) rest
    | some (none, rest) =>
      match (if words.isEmpty then assigned rest else none) with
      | some (name, rest) =>
        match pieces fuel .none rest with
        | none => none
        | some (word, rest) => simple fuel (assignments ++ [(name, word)]) words entries rest
      | none =>
        match pieces fuel .none rest with
        | none => none
        | some ([], rest) =>
          if assignments.isEmpty && words.isEmpty && entries.isEmpty then none
          else some (.simple assignments words entries, rest)
        | some (word, rest) => simple fuel assignments (words ++ [word]) entries rest

/-- Words up to the end of the line. -/
def wordList : Nat → List Char → Reading (List (List Piece))
  | 0, _ => none
  | fuel + 1, cs =>
    match pieces fuel .none (blanks cs) with
    | none => none
    | some ([], rest) => some ([], rest)
    | some (word, rest) => (wordList fuel rest).map fun (words, rest) => (word :: words, rest)

/-- The patterns of an arm, up to the parenthesis. -/
def patterns : Nat → List Char → Reading (List (List Piece))
  | 0, _ => none
  | fuel + 1, cs =>
    match pieces fuel .none (blanks cs) with
    | none => none
    | some (word, rest) =>
      match blanks rest with
      | ')' :: rest => some ([word], rest)
      | '|' :: rest => (patterns fuel rest).map fun (words, rest) => (word :: words, rest)
      | _ => none

/-- The arms of a case distinction, with the word that ends it. -/
def arms : Nat → List Char → Reading (List (List (List Piece) × Command))
  | 0, _ => none
  | fuel + 1, cs =>
    let cs := lines fuel cs
    match reserved ["esac"] cs with
    | some (_, rest) => some ([], rest)
    | none =>
      let cs := match cs with
        | '(' :: rest => rest
        | cs => cs
      match patterns fuel cs with
      | none => none
      | some (words, rest) =>
        match list fuel rest with
        | none => none
        | some (command, rest) =>
          let rest := match rest with
            | ';' :: ';' :: rest => rest
            | rest => rest
          (arms fuel rest).map fun (more, rest) => ((words, command) :: more, rest)

/-- A list of commands and the reserved word behind it. -/
def listUntil : Nat → String → List Char → Reading Command
  | 0, _, _ => none
  | fuel + 1, word, cs =>
    match list fuel cs with
    | none => none
    | some (command, rest) => (reserved [word] rest).map fun (_, rest) => (command, rest)

/-- Behind the word that opens a condition, up to the end of the choice. -/
def choice : Nat → List Char → Reading Command
  | 0, _ => none
  | fuel + 1, cs =>
    match listUntil fuel "then" cs with
    | none => none
    | some (condition, rest) =>
      match list fuel rest with
      | none => none
      | some (yes, rest) =>
        match reserved ["elif", "else", "fi"] rest with
        | some ("elif", rest) =>
          (choice fuel rest).map fun (no, rest) => (.choose condition yes no, rest)
        | some ("else", rest) =>
          (listUntil fuel "fi" rest).map fun (no, rest) => (.choose condition yes no, rest)
        | some (_, rest) => some (.choose condition yes .nothing, rest)
        | none => none

/-- A loop behind its first word. -/
def loop : Nat → Bool → List Char → Reading Command
  | 0, _, _ => none
  | fuel + 1, success, cs =>
    match listUntil fuel "do" cs with
    | none => none
    | some (condition, rest) =>
      (listUntil fuel "done" rest).map fun (body, rest) => (.loop success condition body, rest)

/-- A loop over words, behind its first word. -/
def eachOf : Nat → List Char → Reading Command
  | 0, _ => none
  | fuel + 1, cs =>
    let cs := blanks cs
    let name := cs.takeWhile inName
    let rest := lines fuel (cs.drop name.length)
    let words : Reading (List (List Piece)) :=
      match reserved ["in"] rest with
      | some (_, rest) => wordList fuel rest
      | none => some ([[.parameter "@" .value true]], rest)
    match words with
    | none => none
    | some (words, rest) =>
      let rest := match blanks rest with
        | ';' :: rest => rest
        | rest => rest
      match reserved ["do"] (lines fuel rest) with
      | none => none
      | some (_, rest) =>
        (listUntil fuel "done" rest).map fun (body, rest) =>
          (.each (.ofList name) words body, rest)

/-- A command that is not simple, if there is one. -/
def compound : Nat → List Char → Option (Reading Command)
  | 0, _ => none
  | fuel + 1, cs =>
    match cs with
    | '(' :: rest =>
      match list fuel rest with
      | some (command, ')' :: rest) => some (some (.apart command, rest))
      | _ => some none
    | cs =>
      match reserved ["\x7b", "if", "while", "until", "for", "case"] cs with
      | none => none
      | some ("\x7b", rest) => some (listUntil fuel "\x7d" rest)
      | some ("if", rest) => some (choice fuel rest)
      | some ("while", rest) => some (loop fuel true rest)
      | some ("until", rest) => some (loop fuel false rest)
      | some ("for", rest) => some (eachOf fuel rest)
      | some (_, rest) =>
        some <|
          match pieces fuel .none (blanks rest) with
          | none => none
          | some (subject, rest) =>
            match reserved ["in"] (lines fuel rest) with
            | none => none
            | some (_, rest) =>
              (arms fuel rest).map fun (arms, rest) => (.cases subject arms, rest)

def command : Nat → List Char → Reading Command
  | 0, _ => none
  | fuel + 1, cs =>
    match compound fuel cs with
    | some none => none
    | some (some (body, rest)) =>
      match redirections fuel rest with
      | none => none
      | some ([], rest) => some (body, rest)
      | some (entries, rest) => some (.redirected body entries, rest)
    | none =>
      match functionName cs with
      | some (name, rest) =>
        (command fuel (lines fuel rest)).map fun (body, rest) => (.define name body, rest)
      | none => simple fuel [] [] [] cs

def pipeline : Nat → List Char → Reading Command
  | 0, _ => none
  | fuel + 1, cs =>
    match reserved ["!"] cs with
    | some (_, rest) => (pipeline fuel (blanks rest)).map fun (c, rest) => (.negated c, rest)
    | none =>
      match command fuel cs with
      | none => none
      | some (source, rest) =>
        match blanks rest with
        | '|' :: '|' :: rest => some (source, '|' :: '|' :: rest)
        | '|' :: rest =>
          (pipeline fuel (lines fuel rest)).map fun (target, rest) => (.piped source target, rest)
        | rest => some (source, rest)

/-- Behind the first part of a chain of conditions. -/
def chain : Nat → Command → List Char → Reading Command
  | 0, _, _ => none
  | fuel + 1, first, cs =>
    match blanks cs with
    | '&' :: '&' :: rest =>
      match pipeline fuel (lines fuel rest) with
      | none => none
      | some (second, rest) => chain fuel (.onSuccess first second) rest
    | '|' :: '|' :: rest =>
      match pipeline fuel (lines fuel rest) with
      | none => none
      | some (second, rest) => chain fuel (.onFailure first second) rest
    | rest => some (first, rest)

/-- Commands up to the end of what encloses them. -/
def list : Nat → List Char → Reading Command
  | 0, _ => none
  | fuel + 1, cs =>
    let cs := lines fuel cs
    if atEnd cs then some (.nothing, cs)
    else
      match pipeline fuel cs with
      | none => none
      | some (first, rest) =>
        match chain fuel first rest with
        | none => none
        | some (first, rest) =>
          let onward (first : Command) (rest : List Char) : Reading Command :=
            match list fuel rest with
            | none => none
            | some (.nothing, rest) => some (first, rest)
            | some (second, rest) => some (.sequence first second, rest)
          match rest with
          | ';' :: ';' :: rest => some (first, ';' :: ';' :: rest)
          | ';' :: rest | '\n' :: rest => onward first rest
          | '&' :: rest => onward (.background first) rest
          | rest => if atEnd rest then some (first, rest) else none

end

/-- A whole script; none if it is not well-formed. -/
def read? (script : String) : Option Command :=
  let cs := script.toList
  match list (20 * cs.length + 20) cs with
  | some (command, []) => some command
  | _ => none

end NotebookKernel.Shell
